import TrafficFabric.SnapshotRoundTrip

/-!
# The size of a snapshot

Every field of the payload has a size that is fixed or follows from the lengths
of its texts and lists.  A reachable service passes every check that the
encoder makes of single records and descriptions, so whether its state can be
written is decided by two numbers: how many records there are, and how many
bytes they take.

The catalog takes a million records; the format takes two hundred thousand.
-/

namespace TrafficFabric

open Lib

section Sizes

def Metadata.snapshotBytes (metadata : Metadata) : Nat :=
  4 + (metadata.entries.map fun entry => 8 + entry.1.length + entry.2.length).sum

def CollectivePhase.snapshotBytes (phase : CollectivePhase) : Nat :=
  17 + phase.label.length

def CollectiveDefinition.snapshotBytes (definition : CollectiveDefinition) : Nat :=
  100 + definition.label.length + 16 * definition.participants.length +
    (definition.phases.map CollectivePhase.snapshotBytes).sum +
    18 * definition.steps.length + definition.metadata.snapshotBytes

def CollectiveRecord.snapshotBytes (record : CollectiveRecord) : Nat :=
  69 + record.definition.snapshotBytes

def TopologyEvidence.snapshotBytes (topology : TopologyEvidence) : Nat :=
  33 + 37 * topology.nodes.length + 62 * topology.links.length

def TrafficPolicy.snapshotBytes (policy : TrafficPolicy) : Nat :=
  80 + 36 * policy.classPolicies.length + 12 * policy.collectivePolicies.length

theorem length_writeMetadata (metadata : Metadata) :
    (writeMetadata metadata).length = metadata.snapshotBytes := by
  refine length_counted ?_
  intro entry hentry
  obtain ⟨_, hkey, hvalue⟩ := metadata.within.bounded entry hentry
  rw [List.length_append, length_string hkey, length_string hvalue]
  omega

theorem length_writePhase {phase : CollectivePhase}
    (h : phase.label.length ≤ Limits.labelBytesMax) :
    (writePhase phase).length = phase.snapshotBytes := by
  simp only [writePhase, List.length_append, length_putU64, length_putU32, length_boolean,
    length_string h, CollectivePhase.snapshotBytes]
  omega

theorem length_writeStep (step : CollectiveStep) : (writeStep step).length = 18 := by
  simp [writeStep]

theorem length_writeDefinition {definition : CollectiveDefinition} (h : DefinitionFits definition) :
    (writeDefinition definition).length = definition.snapshotBytes := by
  have hphases : (SnapWriter.counted writePhase definition.phases).length =
      4 + (definition.phases.map CollectivePhase.snapshotBytes).sum :=
    length_counted fun phase hphase => length_writePhase (h.phaseLabels phase hphase)
  simp only [writeDefinition, List.length_append, length_putIdentity, length_enumeration,
    length_string h.label, length_counted_const length_putIdentity, hphases,
    length_counted_const length_writeStep, length_writeMetadata, length_boolean, length_putU64,
    CollectiveDefinition.snapshotBytes]
  omega

theorem length_writeRecord {record : CollectiveRecord} (h : DefinitionFits record.definition) :
    (writeRecord record).length = record.snapshotBytes := by
  simp only [writeRecord, List.length_append, length_writeDefinition h, length_enumeration,
    length_putIdentity, length_putU64, length_putU32, CollectiveRecord.snapshotBytes]
  omega

theorem length_writeTopology (topology : TopologyEvidence) :
    (writeTopology topology).length = topology.snapshotBytes := by
  have hnode : ∀ node, (writeNode node).length = 37 := by
    intro node
    simp [writeNode]
  have hlink : ∀ link, (writeLink link).length = 62 := by
    intro link
    simp [writeLink]
  simp only [writeTopology, List.length_append, length_putIdentity, length_putU64, length_boolean,
    length_counted_const hnode, length_counted_const hlink, TopologyEvidence.snapshotBytes]
  omega

theorem length_writePolicy (policy : TrafficPolicy) :
    (writePolicy policy).length = policy.snapshotBytes := by
  have hresponse : (writeResponse policy.congestionResponse).length = 40 := by
    rfl
  have hclass : ∀ entry, (writeClassPolicy entry).length = 36 := by
    intro entry
    simp [writeClassPolicy]
  have hcollective : ∀ entry, (writeCollectivePolicy entry).length = 12 := by
    intro entry
    simp [writeCollectivePolicy]
  simp only [writePolicy, List.length_append, length_putIdentity, length_putU64, hresponse,
    length_counted_const hclass, length_counted_const hcollective, TrafficPolicy.snapshotBytes]
  omega

/-- The bytes of a payload with these contents. -/
def SnapshotContents.payloadBytes (contents : SnapshotContents) : Nat :=
  74 +
    (if contents.authority.topologyGeneration.isSome then
      contents.authority.topology.snapshotBytes
    else
      0) +
    (if contents.authority.policyGeneration.isSome then
      contents.authority.policy.snapshotBytes
    else
      0) +
    (contents.records.map CollectiveRecord.snapshotBytes).sum

theorem length_encodePayload {contents : SnapshotContents}
    (h : ∀ record ∈ contents.records, DefinitionFits record.definition) :
    (encodePayload contents).length = contents.payloadBytes := by
  have hrecords : (SnapWriter.counted writeRecord contents.records).length =
      4 + (contents.records.map CollectiveRecord.snapshotBytes).sum :=
    length_counted fun record hrecord => length_writeRecord (h record hrecord)
  have htopology : (if contents.authority.topologyGeneration.isSome then
      writeTopology contents.authority.topology else []).length =
        if contents.authority.topologyGeneration.isSome then
          contents.authority.topology.snapshotBytes
        else 0 := by
    rw [apply_ite List.length, length_writeTopology]
    rfl
  have hpolicy : (if contents.authority.policyGeneration.isSome then
      writePolicy contents.authority.policy else []).length =
        if contents.authority.policyGeneration.isSome then
          contents.authority.policy.snapshotBytes
        else 0 := by
    rw [apply_ite List.length, length_writePolicy]
    rfl
  simp only [encodePayload, List.length_append, length_putU32, length_putU64, length_putIdentity,
    length_boolean, htopology, hpolicy, hrecords, SnapshotContents.payloadBytes]
  omega

end Sizes

section Persisting

variable {s : CoordinatorService}

theorem recordFault_of_loadable {record : CollectiveRecord} (h : LoadableRecord record) :
    recordFault record = none := by
  obtain ⟨hvalid, hgeneration, hstate⟩ := h
  obtain ⟨hid, hrest⟩ := (Status.isOk_check_iff rfl).mp hvalid
  obtain ⟨_, hrest⟩ := (Status.isOk_check_iff rfl).mp hrest
  obtain ⟨hparticipants, hrest⟩ := (Status.isOk_check_iff rfl).mp hrest
  obtain ⟨hcount, _⟩ := (Status.isOk_check_iff rfl).mp hrest
  unfold recordFault
  rw [if_neg (by simp only [hgeneration, Bool.or_false]; exact hid), if_neg hparticipants,
    if_neg hcount, if_neg hstate]

theorem length_exportAll (catalog : CollectiveCatalog) :
    catalog.exportAll.length = catalog.records.size := by
  rw [CollectiveCatalog.exportAll, List.length_insertionSort, KeyMap.values, List.length_map]
  rfl

/-- Of a reachable state, only the number of its records is refused. -/
theorem contentsFault_eq_none_iff (h : ServiceReachable s) (now : UInt64) :
    contentsFault (s.snapshotContents now) = none ↔
      s.catalog.records.size ≤ Limits.snapshotCollectivesMax := by
  have hdurable := validateDurable_isOk
    (validateDurable_of_coherent (reachable_authorityCoherent h.authority))
  rw [← length_exportAll]
  constructor
  · intro hfault
    exact (contentsFault_eq_none hfault).2.2
  · intro hcount
    have hwithin : ¬ Limits.snapshotCollectivesMax < (s.snapshotContents now).records.length :=
      Nat.not_lt.mpr hcount
    unfold contentsFault
    rw [if_neg, if_neg, if_neg hwithin, List.findSome?_eq_none_iff]
    · intro record hrecord
      obtain ⟨id, hfind⟩ := (mem_exportAll_iff record).mp hrecord
      exact recordFault_of_loadable (h.allLoadable id record hfind)
    · rintro ⟨hset, hinvalid⟩
      exact Bool.false_ne_true (hinvalid.symm.trans (hdurable.1 hset).1)
    · rintro ⟨hset, hinvalid⟩
      exact Bool.false_ne_true (hinvalid.symm.trans (hdurable.2 hset).1)

/--
Which reachable states can be persisted: those with no more records than the
format takes, whose descriptions and records take no more bytes than a
snapshot may have.
-/
theorem snapshot_encodes_iff (h : ServiceReachable s) (now : UInt64) :
    (∃ bytes, encodeSnapshot (s.snapshotContents now) = .ok bytes) ↔
      s.catalog.records.size ≤ Limits.snapshotCollectivesMax ∧
        (s.snapshotContents now).payloadBytes ≤ Limits.snapshotBytesMax := by
  have hcoherent := snapshotCoherent_of_loadable h.allLoadable
    (reachable_authorityCoherent h.authority) now
  simp only [encodeSnapshot_eq_ok_iff, contentsFault_eq_none_iff h,
    length_encodePayload hcoherent.records, exists_and_left, exists_eq, and_true]

end Persisting

section Filling

variable {s : CoordinatorService} {context : ServiceRequestContext}

/-- A caller that may register: the service runs and the session is open. -/
def MayRegister (context : ServiceRequestContext) (s : CoordinatorService) : Prop :=
  s.running = true ∧ s.sessions.find context.session ≠ none

/-- The registration of a new, usable definition adds one record. -/
theorem registerCollective_adds {definition : CollectiveDefinition}
    (hcaller : MayRegister context s) (hvalid : (validateDefinition definition).isOk = true)
    (hnew : s.catalog.find definition.id = none)
    (hroom : s.catalog.records.size < s.catalog.capacity.toNat) :
    let s' := serviceStep s (.registerCollective context definition)
    MayRegister context s' ∧ s'.catalog.capacity = s.catalog.capacity ∧
      s'.catalog.records.size = s.catalog.records.size + 1 ∧
      ∀ id, id ≠ definition.id → s'.catalog.find id = s.catalog.find id := by
  intro s'
  have haccess : SameAccess s s' := serviceStep_sameAccess s rfl
  have hcatalog : s'.catalog =
      (s.catalog.registerNew definition context.nowMonotonicMs).2 := by
    simp only [s', (serviceStep_effect s _).catalog, catalogTrace, hcaller.1, hcaller.2, ne_eq,
      not_false_eq_true, and_self, if_true, run_cons, run_nil, catalogStep,
      CollectiveCatalog.registerDefinition, hvalid, hnew, Bool.true_eq_false, if_false]
  have hnone : s.catalog.records.find definition.id = none := hnew
  refine ⟨⟨haccess.running.trans hcaller.1, haccess.sessions ▸ hcaller.2⟩, ?_⟩
  rw [hcatalog, CollectiveCatalog.registerNew, if_neg (Nat.not_le.mpr hroom)]
  refine ⟨rfl, KeyMap.size_emplace_of_none _ _ hnone, ?_⟩
  intro id hid
  simp [CollectiveCatalog.find, KeyMap.find_emplace, hid]

/--
Registrations of distinct new definitions add as many records, while there is
room, and leave the other ones.
-/
theorem registrations_add {definitions : List CollectiveDefinition}
    (hcaller : MayRegister context s)
    (hvalid : ∀ definition ∈ definitions, (validateDefinition definition).isOk = true)
    (hdistinct : (definitions.map CollectiveDefinition.id).Nodup)
    (hnew : ∀ definition ∈ definitions, s.catalog.find definition.id = none)
    (hroom : s.catalog.records.size + definitions.length ≤ s.catalog.capacity.toNat) :
    let s' := run serviceStep s (definitions.map (.registerCollective context))
    s'.catalog.records.size = s.catalog.records.size + definitions.length ∧
      MayRegister context s' ∧ s'.catalog.capacity = s.catalog.capacity ∧
      ∀ id, id ∉ definitions.map CollectiveDefinition.id →
        s'.catalog.find id = s.catalog.find id := by
  have hadds : AddsEntries serviceStep (.registerCollective context) CollectiveDefinition.id
      (fun s => s.catalog.records.size) (fun s id => s.catalog.find id = none)
      s.catalog.capacity.toNat
      (fun definition => (validateDefinition definition).isOk = true ∧ definition ∈ definitions)
      (fun s' => MayRegister context s' ∧ s'.catalog.capacity = s.catalog.capacity ∧
        ∀ id, id ∉ definitions.map CollectiveDefinition.id →
          s'.catalog.find id = s.catalog.find id) := by
    rintro s' definition ⟨hvalid, hmem⟩ ⟨hcaller, hcapacity, hkept⟩ hnew hroom
    obtain ⟨hcaller', hcapacity', hsize, hothers⟩ :=
      registerCollective_adds hcaller hvalid hnew (by rwa [hcapacity])
    refine ⟨⟨hcaller', hcapacity'.trans hcapacity, ?_⟩, hsize, ?_⟩
    · intro id hid
      have hne : id ≠ definition.id := fun hsame => hid (hsame ▸ List.mem_map_of_mem hmem)
      exact (hothers id hne).trans (hkept id hid)
    · intro id hid hfree
      exact (hothers id hid).trans hfree
  obtain ⟨hkept, hsize, -⟩ := hadds.run ⟨hcaller, rfl, fun _ _ => rfl⟩
    (fun definition hmem => ⟨hvalid definition hmem, hmem⟩) hdistinct hnew hroom
  exact ⟨hsize, hkept⟩

end Filling

namespace TwoMembers

/-- The definition under an identity of its own. -/
def numbered (index : Nat) : CollectiveDefinition :=
  { definition with id := ⟨index.toUInt64, 1⟩ }

/-- One collective more than a snapshot may hold. -/
def crowded : List ServiceOp :=
  boot ++
    ((List.range (Limits.snapshotCollectivesMax + 1)).map numbered).map
      (.registerCollective (context 4))

theorem validateDefinition_numbered (index : Nat) :
    (validateDefinition (numbered index)).isOk = true := by
  have hid : (numbered index).id.isNone = false := by
    rw [Identity.isNone_eq_false_iff]
    intro hnone
    have hlo : (1 : UInt64) = 0 := congrArg Identity.lo hnone
    exact absurd hlo (by decide)
  have hdefinition : (validateDefinition definition).isOk = true := by
    decide
  -- The identity is only compared with the unset one, and the rest of the checks agree.
  unfold validateDefinition at hdefinition ⊢
  rw [if_neg (by decide)] at hdefinition
  rw [hid, if_neg Bool.false_ne_true]
  exact hdefinition

theorem id_numbered_inj {i j : Nat} (hi : i < 2 ^ 64) (hj : j < 2 ^ 64)
    (hsame : (numbered i).id = (numbered j).id) : i = j := by
  have hword : i.toUInt64 = j.toUInt64 := congrArg Identity.hi hsame
  have hnumber : i % 2 ^ 64 = j % 2 ^ 64 := congrArg UInt64.toNat hword
  omega

theorem ids_numbered_nodup {count : Nat} (hcount : count ≤ 2 ^ 64) :
    (((List.range count).map numbered).map CollectiveDefinition.id).Nodup := by
  rw [List.map_map]
  refine List.Nodup.map_on ?_ List.nodup_range
  intro i hi j hj hsame
  rw [List.mem_range] at hi hj
  exact id_numbered_inj (hi.trans_le hcount) (hj.trans_le hcount) hsame

/-- The numbered definitions are added one after the other, while there is room for them. -/
theorem registrations_numbered {s : CoordinatorService} {count : Nat}
    (hcaller : MayRegister (context 4) s)
    (hnew : ∀ index, s.catalog.find (numbered index).id = none) (hcount : count ≤ 2 ^ 64)
    (hroom : s.catalog.records.size + count ≤ s.catalog.capacity.toNat) :
    let definitions := (List.range count).map numbered
    let s' := run serviceStep s (definitions.map (.registerCollective (context 4)))
    s'.catalog.records.size = s.catalog.records.size + count ∧
      MayRegister (context 4) s' ∧ s'.catalog.capacity = s.catalog.capacity ∧
      ∀ id, id ∉ definitions.map CollectiveDefinition.id →
        s'.catalog.find id = s.catalog.find id := by
  intro definitions s'
  have hlength : definitions.length = count := by
    rw [List.length_map, List.length_range]
  have hvalid : ∀ definition ∈ definitions, (validateDefinition definition).isOk = true := by
    intro definition hdefinition
    obtain ⟨index, -, rfl⟩ := List.mem_map.mp hdefinition
    exact validateDefinition_numbered index
  have hnew' : ∀ definition ∈ definitions, s.catalog.find definition.id = none := by
    intro definition hdefinition
    obtain ⟨index, -, rfl⟩ := List.mem_map.mp hdefinition
    exact hnew index
  have hadds := registrations_add hcaller hvalid (ids_numbered_nodup hcount) hnew'
    (hlength.symm ▸ hroom)
  rwa [hlength] at hadds

theorem size_crowded :
    (run serviceStep (.create {}) crowded).catalog.records.size =
      Limits.snapshotCollectivesMax + 1 := by
  rw [crowded, run_append]
  have hcaller : MayRegister (context 4) (run serviceStep (.create {}) boot) := by
    unfold MayRegister
    decide
  have hempty : (run serviceStep (.create {}) boot).catalog = {} := by
    rfl
  generalize run serviceStep (.create {}) boot = s at hcaller hempty ⊢
  have hnew : ∀ index, s.catalog.find (numbered index).id = none := by
    intro index
    rw [hempty]
    rfl
  have hroom : s.catalog.records.size + (Limits.snapshotCollectivesMax + 1) ≤
      s.catalog.capacity.toNat := by
    rw [hempty]
    decide
  rw [(registrations_numbered hcaller hnew (by decide) hroom).1, hempty]
  exact Nat.zero_add _

end TwoMembers

open TwoMembers in
/-- A service with that many collectives cannot be persisted at any time. -/
theorem crowded_service_not_persisted :
    let s := run serviceStep (CoordinatorService.create {}) crowded
    ServiceReachable s ∧ ∀ now, ¬ ∃ bytes, encodeSnapshot (s.snapshotContents now) = .ok bytes := by
  have hsize := size_crowded
  have hreach : ServiceReachable (run serviceStep (.create {}) crowded) :=
    ⟨{}, crowded, rfl⟩
  -- The run is a variable from here on, so that nothing evaluates it.
  generalize run serviceStep (.create {}) crowded = s at hsize hreach ⊢
  refine ⟨hreach, ?_⟩
  rintro now ⟨bytes, hencode⟩
  obtain ⟨hfault, -, -⟩ := encodeSnapshot_eq_ok_iff.mp hencode
  have hcount := (contentsFault_eq_none_iff hreach now).mp hfault
  omega

open TwoMembers in
/-- The service of two members is within both bounds. -/
theorem snapshot_encodes_of_registered :
    ∃ bytes, encodeSnapshot (registered.snapshotContents 6) = .ok bytes := by
  have hreach : ServiceReachable registered := ⟨{}, _, rfl⟩
  exact (snapshot_encodes_iff hreach 6).mpr (by decide +kernel)

end TrafficFabric
