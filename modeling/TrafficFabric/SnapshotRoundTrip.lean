import TrafficFabric.CatalogOrder
import TrafficFabric.PolicyValid
import TrafficFabric.Restore
import TrafficFabric.Snapshots

/-!
# Saving and restoring

Contents that agree with themselves are decoded as they were encoded: the
generation of a description is the one recorded for it, a description without a
generation is the default one, and the texts and counts of every record are
within the bounds of the format.  What a service hands out for a snapshot
agrees with itself, since the service checks its records and its descriptions
when it takes them in.

A fresh service that takes such contents in has the same records, descriptions
and sequence, and nothing of what only a running fabric knows.
-/

namespace TrafficFabric

open Lib CoordinatorService AuthorityState

section Decoding

variable {contents : SnapshotContents}
variable {topology : TopologyEvidence} {generation : TopologyGeneration}

/-- A field that is read back is read back by a decoder. -/
theorem reads_orRefuse {α : Type} {reader : SnapReader α} {bytes : Text} {a : α}
    (h : Reads reader bytes a) (refusal : Status) : Reads (reader.orRefuse refusal) bytes a := by
  intro rest
  exact orRefuse_eq_ok_iff.mpr (h rest)

theorem topology_bounds_of_validate (h : topology.validate.isOk = true) :
    topology.nodes.length ≤ Limits.topologyNodesMax ∧
      topology.links.length ≤ Limits.topologyLinksMax := by
  obtain ⟨_, h⟩ := (Status.isOk_check_iff rfl).mp h
  obtain ⟨hnodes, h⟩ := (Status.isOk_check_iff rfl).mp h
  obtain ⟨hlinks, h⟩ := (Status.isOk_check_iff rfl).mp h
  exact ⟨Nat.not_lt.mp hnodes, Nat.not_lt.mp hlinks⟩

theorem policy_bounds_of_validate {policy : TrafficPolicy} (h : policy.validate.isOk = true) :
    policy.classPolicies.length ≤ 16 ∧ policy.collectivePolicies.length ≤ 16 := by
  have hvalid := policyValid_of_validate h
  exact ⟨hvalid.classCount.trans (by decide), hvalid.collectiveCount⟩

/-- The contents agree with themselves and fit the format. -/
structure SnapshotCoherent (contents : SnapshotContents) : Prop where
  topology : contents.authority.topologyGeneration.isSome = true →
    contents.authority.topology.generation = contents.authority.topologyGeneration
  noTopology : contents.authority.topologyGeneration.isSome = false →
    contents.authority.topology = {}
  policy : contents.authority.policyGeneration.isSome = true →
    contents.authority.policy.generation = contents.authority.policyGeneration
  noPolicy : contents.authority.policyGeneration.isSome = false → contents.authority.policy = {}
  records : ∀ record ∈ contents.records, DefinitionFits record.definition

/-- What is checked before anything is written. -/
theorem contentsFault_eq_none (h : contentsFault contents = none) :
    (contents.authority.policyGeneration.isSome = true →
        contents.authority.policy.validate.isOk = true) ∧
      (contents.authority.topologyGeneration.isSome = true →
        contents.authority.topology.validate.isOk = true) ∧
      contents.records.length ≤ Limits.snapshotCollectivesMax := by
  unfold contentsFault at h
  split_ifs at h with hpolicy htopology hcount
  refine ⟨?_, ?_, Nat.not_lt.mp hcount⟩
  · intro hset
    by_contra hinvalid
    exact hpolicy ⟨hset, by simpa using hinvalid⟩
  · intro hset
    by_contra hinvalid
    exact htopology ⟨hset, by simpa using hinvalid⟩

/-- The topology section is read back. -/
theorem reads_topologySection
    (hagrees : generation.isSome = true → topology.generation = generation)
    (hvalid : generation.isSome = true → topology.validate.isOk = true) :
    Reads (decodeTopology generation)
      (SnapWriter.boolean generation.isSome ++
        if generation.isSome then writeTopology topology else [])
      (if generation.isSome then some topology else none) := by
  unfold decodeTopology
  refine (reads_orRefuse (SnapReader.reads_boolean _) _).bind ?_
  cases hset : generation.isSome with
  | true =>
    obtain ⟨hnodes, hlinks⟩ := topology_bounds_of_validate (hvalid hset)
    simp only [if_true]
    rw [← List.append_nil (writeTopology topology)]
    refine (reads_orRefuse (reads_topology hnodes hlinks) _).bind ?_
    rw [if_neg (not_not_intro (hagrees hset))]
    exact reads_pure _
  | false =>
    simp only [Bool.false_eq_true, if_false]
    exact reads_pure _

theorem reads_policySection {generation : PolicyGeneration} {policy : TrafficPolicy}
    (hagrees : generation.isSome = true → policy.generation = generation)
    (hvalid : generation.isSome = true → policy.validate.isOk = true) :
    Reads (decodePolicy generation)
      (SnapWriter.boolean generation.isSome ++ if generation.isSome then writePolicy policy else [])
      (if generation.isSome then some policy else none) := by
  unfold decodePolicy
  refine (reads_orRefuse (SnapReader.reads_boolean _) _).bind ?_
  cases hset : generation.isSome with
  | true =>
    obtain ⟨hclasses, hcollectives⟩ := policy_bounds_of_validate (hvalid hset)
    simp only [if_true]
    rw [← List.append_nil (writePolicy policy)]
    refine (reads_orRefuse (reads_policy hclasses hcollectives) _).bind ?_
    simp only [hvalid hset, Bool.true_eq_false, if_false]
    rw [if_neg (not_not_intro (hagrees hset))]
    exact reads_pure _
  | false =>
    simp only [Bool.false_eq_true, if_false]
    exact reads_pure _

theorem reads_checkedTopology (hvalid : generation.isSome = true → topology.validate.isOk = true) :
    Reads (checkDecodedTopology (if generation.isSome then some topology else none)) [] () := by
  cases hset : generation.isSome with
  | true =>
    simp only [checkDecodedTopology, if_true, hvalid hset, Bool.true_eq_false, if_false]
    exact reads_pure _
  | false => exact reads_pure _

theorem reads_recordsSection {records : List CollectiveRecord}
    (hcount : records.length ≤ Limits.snapshotCollectivesMax)
    (hrecords : ∀ record ∈ records, DefinitionFits record.definition) :
    Reads decodeRecords (SnapWriter.counted writeRecord records) records := by
  unfold decodeRecords
  refine (reads_orRefuse (SnapReader.reads_count hcount (by decide)) _).bind ?_
  exact reads_orRefuse (reads_many rfl (fun _ => rfl)
    fun record hrecord => reads_record (hrecords record hrecord)) _

theorem getD_section {α : Type} {present : Bool} {value default : α}
    (h : present = false → value = default) :
    (if present then some value else none).getD default = value := by
  cases present with
  | true => rfl
  | false => exact (h rfl).symm

/-- A payload is decoded as it was encoded. -/
theorem decodePayload_encodePayload (h : SnapshotCoherent contents)
    (hfault : contentsFault contents = none) :
    (decodePayload contents.writtenMonotonicMs).run (encodePayload contents) =
      .ok (contents, []) := by
  obtain ⟨hpolicy, htopology, hcount⟩ := contentsFault_eq_none hfault
  unfold decodePayload encodePayload
  rw [← List.append_nil (SnapWriter.counted writeRecord contents.records)]
  simp only [List.append_assoc]
  refine ((reads_orRefuse (SnapReader.reads_u32 _) _).run_bind _).trans ?_
  simp only [ne_eq, not_true_eq_false, if_false]
  refine ((reads_orRefuse (SnapReader.reads_u64 _) _).run_bind _).trans ?_
  simp only [not_true_eq_false, if_false]
  refine ((reads_orRefuse (SnapReader.reads_identity _) _).run_bind _).trans ?_
  refine ((reads_orRefuse (SnapReader.reads_identity _) _).run_bind _).trans ?_
  refine ((reads_orRefuse (SnapReader.reads_identity _) _).run_bind _).trans ?_
  refine ((reads_orRefuse (SnapReader.reads_u64 _) _).run_bind _).trans ?_
  rw [← List.append_assoc (SnapWriter.boolean _)]
  refine ((reads_topologySection h.topology htopology).run_bind _).trans ?_
  rw [← List.append_assoc (SnapWriter.boolean _)]
  refine ((reads_policySection h.policy hpolicy).run_bind _).trans ?_
  refine ((reads_checkedTopology htopology).run_bind _).trans ?_
  refine ((reads_recordsSection hcount h.records).run_bind _).trans ?_
  simp only [getD_section h.noTopology, getD_section h.noPolicy]
  rfl

/-- A snapshot is decoded as it was encoded. -/
theorem decodeSnapshot_encodeSnapshot {bytes : Text} (h : SnapshotCoherent contents)
    (hencode : encodeSnapshot contents = .ok bytes) : decodeSnapshot bytes = .ok contents := by
  obtain ⟨hfault, hsize, hbytes⟩ := encodeSnapshot_eq_ok_iff.mp hencode
  have hpayload := decodePayload_encodePayload h hfault
  unfold decodeSnapshot
  rw [openEnvelope_eq_ok_iff.mpr ⟨hsize, hbytes⟩]
  exact map_eq_ok_iff.mpr ⟨_, hpayload, rfl⟩

end Decoding

section Contents

/-- What the service hands out for a snapshot. -/
def CoordinatorService.snapshotContents
    (service : CoordinatorService) (nowMonotonicMs : UInt64) : SnapshotContents where
  writtenMonotonicMs := nowMonotonicMs
  authority := service.authority.durableSnapshot
  records := service.catalog.exportAll

variable {s : CoordinatorService}

/-- The definitions that are checked fit the format. -/
theorem validatePhases_labels {previous : Option CollectivePhase} {phases : List CollectivePhase}
    (h : (validatePhases previous phases).isOk = true) :
    ∀ phase ∈ phases, phase.label.length ≤ Limits.labelBytesMax := by
  induction phases generalizing previous with
  | nil => simp
  | cons _ _ ih =>
    obtain ⟨_, h⟩ := (Status.isOk_check_iff rfl).mp h
    obtain ⟨hlabel, h⟩ := (Status.isOk_check_iff rfl).mp h
    obtain ⟨_, h⟩ := (Status.isOk_check_iff rfl).mp h
    exact List.forall_mem_cons.mpr ⟨Nat.not_lt.mp hlabel, ih h⟩

theorem definitionFits_of_validate {definition : CollectiveDefinition}
    (h : (validateDefinition definition).isOk = true) : DefinitionFits definition := by
  obtain ⟨_, h⟩ := (Status.isOk_check_iff rfl).mp h
  obtain ⟨hlabel, h⟩ := (Status.isOk_check_iff rfl).mp h
  obtain ⟨_, h⟩ := (Status.isOk_check_iff rfl).mp h
  obtain ⟨hparticipants, h⟩ := (Status.isOk_check_iff rfl).mp h
  obtain ⟨_, h⟩ := (Status.isOk_check_iff rfl).mp h
  obtain ⟨_, h⟩ := (Status.isOk_check_iff rfl).mp h
  obtain ⟨hphases, h⟩ := (Status.isOk_check_iff rfl).mp h
  obtain ⟨hlabels, h⟩ := Status.isOk_checked_iff.mp h
  obtain ⟨hsteps, _⟩ := (Status.isOk_check_iff rfl).mp h
  exact
    { label := Nat.not_lt.mp hlabel
      participants := Nat.not_lt.mp hparticipants
      phases := Nat.not_lt.mp hphases
      phaseLabels := validatePhases_labels hlabels
      steps := Nat.not_lt.mp hsteps }

/-- What usable records and a coherent authority hand out agrees with itself. -/
theorem snapshotCoherent_of_loadable (hcatalog : AllLoadable s.catalog)
    (hauthority : AuthorityCoherent s.authority) (now : UInt64) :
    SnapshotCoherent (s.snapshotContents now) := by
  refine ⟨?_, ?_, ?_, ?_, ?_⟩
  · intro hset
    cases htopology : s.authority.topology with
    | none =>
      have hpresent := hauthority.topologyPresent
      rw [htopology] at hpresent
      exact absurd hset (by simp [snapshotContents, durableSnapshot, ← hpresent])
    | some topology =>
      simpa [snapshotContents, durableSnapshot, htopology]
        using (hauthority.topology topology htopology).1
  · intro hunset
    have hpresent : s.authority.topology.isSome = false := hauthority.topologyPresent.trans hunset
    simp only [snapshotContents, durableSnapshot]
    rw [Option.isSome_eq_false_iff, Option.isNone_iff_eq_none] at hpresent
    rw [hpresent]
    rfl
  · intro hset
    cases hpolicy : s.authority.policy with
    | none =>
      have hpresent := hauthority.policyPresent
      rw [hpolicy] at hpresent
      exact absurd hset (by simp [snapshotContents, durableSnapshot, ← hpresent])
    | some policy =>
      simpa [snapshotContents, durableSnapshot, hpolicy]
        using (hauthority.policy policy hpolicy).1
  · intro hunset
    have hpresent : s.authority.policy.isSome = false := hauthority.policyPresent.trans hunset
    simp only [snapshotContents, durableSnapshot]
    rw [Option.isSome_eq_false_iff, Option.isNone_iff_eq_none] at hpresent
    rw [hpresent]
    rfl
  · intro record hrecord
    obtain ⟨id, hfind⟩ := (mem_exportAll_iff record).mp hrecord
    exact definitionFits_of_validate (hcatalog id record hfind).1

end Contents

section Restoring

variable {s fresh : CoordinatorService}

/-- A service that was created, or created and started, and has done nothing else. -/
def CoordinatorService.Fresh (service : CoordinatorService) : Prop :=
  ∃ config, service = .create config ∨
    ∃ draws status, (CoordinatorService.create config).start draws = some (status, service)

/-- A fresh service has nothing installed and room for the live bound. -/
theorem CoordinatorService.Fresh.empty (h : fresh.Fresh) :
    fresh.authority.policy = none ∧ fresh.authority.policyGeneration = {} ∧
      fresh.authority.topology = none ∧ fresh.authority.topologyGeneration = {} ∧
      fresh.catalog = {} := by
  obtain ⟨config, rfl | ⟨draws, status, hstart⟩⟩ := h
  · exact ⟨rfl, rfl, rfl, rfl, rfl⟩
  · unfold CoordinatorService.start at hstart
    rw [if_neg (by simp [CoordinatorService.create])] at hstart
    obtain ⟨draw, _, hbooted⟩ := Option.map_eq_some_iff.mp hstart
    cases hbooted
    simp only [beginBoot, setFreshnessPolicy]
    split <;> exact ⟨rfl, rfl, rfl, rfl, rfl⟩

/-- The restored service has the durable state of the other one, and nothing dynamic. -/
structure Reproduces (s restored : CoordinatorService) : Prop where
  records : ∀ id, restored.catalog.find id = s.catalog.find id
  sequence : restored.catalog.mutationSequence = s.catalog.mutationSequence
  policy : restored.authority.policy = s.authority.policy
  policyGeneration : restored.authority.policyGeneration = s.authority.policyGeneration
  topology : restored.authority.topology = s.authority.topology
  topologyGeneration : restored.authority.topologyGeneration = s.authority.topologyGeneration
  peers : restored.authority.peers = ∅
  capacity : restored.authority.capacity = none ∧ restored.authority.capacityGeneration = {}
  congestion : restored.authority.congestion = none ∧ restored.authority.congestionGeneration = {}

/-- The records of a catalog that has counted are loaded back into an empty one. -/
theorem load_exportAll {catalog : CollectiveCatalog} (hkeyed : Keyed catalog)
    (hloadable : AllLoadable catalog) (hcounted : CatalogCounted catalog)
    (hcount : catalog.exportAll.length ≤ Limits.snapshotCollectivesMax) :
    (CollectiveCatalog.load {} catalog.exportAll).1.isOk = true ∧
      (∀ id, (CollectiveCatalog.load {} catalog.exportAll).2.find id = catalog.find id) ∧
      (CollectiveCatalog.load {} catalog.exportAll).2.mutationSequence =
        catalog.mutationSequence := by
  have hroom : Limits.snapshotCollectivesMax ≤ ({} : CollectiveCatalog).capacity.toNat := by
    decide
  have hids : (catalog.exportAll.map fun record => record.definition.id).Nodup :=
    List.pairwise_map.mpr (hkeyed.exportAll_ascending.imp fun hlt => ne_of_lt hlt)
  have hok : (CollectiveCatalog.load {} catalog.exportAll).1.isOk = true := by
    refine (load_isOk_iff {} catalog.exportAll).mpr ⟨hcount.trans hroom, ?_, hids⟩
    intro record hrecord
    obtain ⟨id, hfind⟩ := (mem_exportAll_iff record).mp hrecord
    exact hloadable id record hfind
  refine ⟨hok, ?_, ?_⟩
  · intro id
    ext record
    rw [load_find_iff hok, hkeyed.find_eq_some_iff]
  · rw [load_mutationSequence hok, hcounted.highest_exportAll]

/-- The durable part of a coherent authority is one that is restored. -/
theorem validateDurable_of_coherent {authority : AuthorityState} (h : AuthorityCoherent authority) :
    (validateDurable authority.durableSnapshot).isOk = true := by
  have htopology : authority.topologyGeneration.isSome = true →
      (authority.topology.getD {}).generation = authority.topologyGeneration ∧
        (authority.topology.getD {}).validate.isOk = true := by
    intro hset
    rw [← h.topologyPresent] at hset
    obtain ⟨topology, hsome⟩ := Option.isSome_iff_exists.mp hset
    rw [hsome]
    exact h.topology topology hsome
  have hpolicy : authority.policyGeneration.isSome = true →
      (authority.policy.getD {}).generation = authority.policyGeneration ∧
        (authority.policy.getD {}).validate.isOk = true := by
    intro hset
    rw [← h.policyPresent] at hset
    obtain ⟨policy, hsome⟩ := Option.isSome_iff_exists.mp hset
    rw [hsome]
    exact h.policy policy hsome
  refine (Status.isOk_check_iff rfl).mpr ⟨?_, ?_⟩
  · rintro ⟨hset, hinvalid⟩
    exact Bool.false_ne_true (hinvalid.symm.trans (htopology hset).2)
  refine (Status.isOk_check_iff rfl).mpr ⟨?_, ?_⟩
  · rintro ⟨hset, hdiffers⟩
    exact hdiffers (htopology hset).1
  refine (Status.isOk_check_iff rfl).mpr ⟨?_, ?_⟩
  · rintro ⟨hset, hinvalid⟩
    exact Bool.false_ne_true (hinvalid.symm.trans (hpolicy hset).2)
  refine (Status.isOk_check_iff rfl).mpr ⟨?_, rfl⟩
  rintro ⟨hset, hdiffers⟩
  exact hdiffers (hpolicy hset).1

/-- A description is there exactly if its generation is, so both come back as they were. -/
theorem restored_description {α : Type} {generation : Identity} {value : Option α} (d : α)
    (h : value.isSome = generation.isSome) :
    (if generation.isSome then some (value.getD d) else none) = value ∧
      (if generation.isSome then generation else {}) = generation := by
  cases value with
  | none =>
    have hunset : generation.isSome = false := h.symm
    rw [hunset]
    exact ⟨rfl, ((Identity.isSome_eq_false_iff generation).mp hunset).symm⟩
  | some description =>
    have hset : generation.isSome = true := h.symm
    rw [hset]
    exact ⟨rfl, rfl⟩

theorem reproduces_of_restore {path : Text} {now now' : UInt64} (hfresh : fresh.Fresh)
    (hkeyed : Keyed s.catalog) (hloadable : AllLoadable s.catalog)
    (hcounted : CatalogCounted s.catalog) (hauthority : AuthorityCoherent s.authority)
    (hcount : s.catalog.exportAll.length ≤ Limits.snapshotCollectivesMax) :
    (fresh.restore path (s.snapshotContents now) now').1.isOk = true ∧
      Reproduces s (fresh.restore path (s.snapshotContents now) now').2 := by
  obtain ⟨hpolicy, hpolicyGeneration, htopology, htopologyGeneration, hempty⟩ := hfresh.empty
  obtain ⟨hok, hfind, hsequence⟩ := load_exportAll hkeyed hloadable hcounted hcount
  have hdurable : fresh.authority.restoreDurable s.authority.durableSnapshot now' =
      (Status.ok, restoredState fresh.authority s.authority.durableSnapshot now') := by
    rcases restoreDurable_cases fresh.authority s.authority.durableSnapshot now' with
      ⟨hinvalid, _⟩ | ⟨_, hrestored⟩
    · rw [validateDurable_of_coherent hauthority] at hinvalid
      cases hinvalid
    · exact hrestored
  have hrestore : fresh.restore path (s.snapshotContents now) now' =
      (Status.ok,
        { fresh with
          authority := restoredState fresh.authority s.authority.durableSnapshot now'
          catalog := (CollectiveCatalog.load {} s.catalog.exportAll).2
          persistencePath := path
          persistenceDirty := false
          counters := { fresh.counters with restores := fresh.counters.restores + 1 } }) := by
    simp only [restore, snapshotContents, hdurable, hempty,
      hok, Status.isOk_ok, Bool.true_eq_false, if_false]
  obtain ⟨hsamePolicy, hsamePolicyGeneration⟩ :=
    restored_description ({} : TrafficPolicy) hauthority.policyPresent
  obtain ⟨hsameTopology, hsameTopologyGeneration⟩ :=
    restored_description ({} : TopologyEvidence) hauthority.topologyPresent
  rw [hrestore]
  exact
    ⟨rfl,
      { records := hfind
        sequence := hsequence
        policy := by
          simpa only [restoredState, durableSnapshot, hpolicy] using hsamePolicy
        policyGeneration := by
          simpa only [restoredState, durableSnapshot, hpolicyGeneration] using hsamePolicyGeneration
        topology := by
          simpa only [restoredState, durableSnapshot, htopology] using hsameTopology
        topologyGeneration := by
          simpa only [restoredState, durableSnapshot, htopologyGeneration]
            using hsameTopologyGeneration
        peers := rfl
        capacity := ⟨rfl, rfl⟩
        congestion := ⟨rfl, rfl⟩ }⟩

/--
Persistence round trip, while the counter counts.  In every run in which no
operation mutates a catalog whose mutation sequence is at its last value, for
every state that is reached: where the snapshot of the service is encoded, the
bytes are decoded to the same contents, and a fresh service that is restored
from them accepts them and has the same records, the same mutation sequence,
policy and topology, and no peers, capacity or congestion.
-/
theorem snapshot_round_trip {config : ServiceConfig} {ops : List ServiceOp} {now : UInt64}
    {bytes : Text}
    (hops : Along serviceStep (fun s op => ServiceOp.KeepsCounting s op)
      (CoordinatorService.create config) ops)
    (hencode : encodeSnapshot
      ((run serviceStep (CoordinatorService.create config) ops).snapshotContents now) = .ok bytes) :
    let s := run serviceStep (CoordinatorService.create config) ops
    decodeSnapshot bytes = .ok (s.snapshotContents now) ∧
      ∀ (fresh : CoordinatorService) (path : Text) (restoredAt : UInt64), fresh.Fresh →
        (fresh.restore path (s.snapshotContents now) restoredAt).1.isOk = true ∧
          Reproduces s (fresh.restore path (s.snapshotContents now) restoredAt).2 := by
  intro s
  have hreach : ServiceReachable s := ⟨config, ops, rfl⟩
  have hcounted : CatalogCounted s.catalog := run_catalogCounted hops
  have hauthority : AuthorityCoherent s.authority := reachable_authorityCoherent hreach.authority
  obtain ⟨hfault, -, -⟩ := encodeSnapshot_eq_ok_iff.mp hencode
  refine ⟨?_, ?_⟩
  · exact decodeSnapshot_encodeSnapshot
      (snapshotCoherent_of_loadable hreach.allLoadable hauthority now) hencode
  · intro fresh path restoredAt hfresh
    exact reproduces_of_restore hfresh hreach.keyed hreach.allLoadable hcounted hauthority
      (contentsFault_eq_none hfault).2.2

namespace TwoMembers

/-- The saved contents with the last mutation sequence there is. -/
def exhausted : SnapshotContents :=
  { saved with
    records := saved.records.map fun record =>
      { record with lastMutationSequence := ⟨0xFFFFFFFFFFFFFFFF⟩ } }

/-- The service is restored from them and registers a second collective. -/
def turnedOver : List ServiceOp :=
  boot ++
    [ .restore snapshotPath exhausted 6,
      .registerCollective (context 7) { definition with id := ⟨34, 0⟩ } ]

set_option maxRecDepth 8000 in
theorem load_exhausted : SnapshotStore.load snapshotPath (fileOf exhausted) = .ok exhausted := by
  decide +kernel

end TwoMembers

open TwoMembers in
set_option maxRecDepth 2048 in
/-- The counter turns over; the snapshot is encoded, and restored to another counter. -/
theorem turned_counter_not_reproduced :
    let s := run serviceStep (CoordinatorService.create {}) turnedOver
    let restored := (CoordinatorService.create {}).restore snapshotPath (s.snapshotContents 8) 9
    SnapshotStore.load snapshotPath (fileOf exhausted) = .ok exhausted ∧
      (∃ bytes, encodeSnapshot (s.snapshotContents 8) = .ok bytes) ∧
      restored.1.isOk = true ∧ s.catalog.mutationSequence.value = 0 ∧
      restored.2.catalog.mutationSequence.value = 0xFFFFFFFFFFFFFFFF := by
  refine ⟨load_exhausted, ⟨_, encodeSnapshot_eq_ok_iff.mpr ⟨?_, ?_, rfl⟩⟩, ?_, ?_, ?_⟩
  · decide +kernel
  · decide +kernel
  · decide +kernel
  · decide +kernel
  · decide +kernel

open TwoMembers in
set_option maxRecDepth 2048 in
/-- The service of two members is saved and restored. -/
theorem snapshot_round_trip_of_registered :
    ∃ bytes,
      encodeSnapshot (registered.snapshotContents 6) = .ok bytes ∧
        decodeSnapshot bytes = .ok (registered.snapshotContents 6) ∧
        Reproduces registered
          ((CoordinatorService.create {}).restore snapshotPath
            (registered.snapshotContents 6) 7).2 := by
  have hops : Along serviceStep (fun s op => ServiceOp.KeepsCounting s op)
      (CoordinatorService.create {})
      (boot ++
        [ .registerCollective (context 4) definition,
          .beginAttempt (context 5) ⟨31, 0⟩ ⟨32, 0⟩ ⟨33, 0⟩ 0 ]) := by
    decide +kernel
  have hencode : contentsFault (registered.snapshotContents 6) = none ∧
      (encodePayload (registered.snapshotContents 6)).length ≤ Limits.snapshotBytesMax := by
    decide +kernel
  have hbytes := encodeSnapshot_eq_ok_iff.mpr ⟨hencode.1, hencode.2, rfl⟩
  obtain ⟨hdecode, hrestore⟩ := snapshot_round_trip hops hbytes
  exact ⟨_, hbytes, hdecode,
    (hrestore (CoordinatorService.create {}) snapshotPath 7 ⟨{}, .inl rfl⟩).2⟩

end Restoring

end TrafficFabric
