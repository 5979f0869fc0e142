import TrafficFabric.Callers
import TrafficFabric.PayloadRoundTrip

/-!
# Registrations in any order

A register payload states participants, phases and steps as lists, and the
decoder puts them into a canonical order.  A sort by index leaves entries of one
index in an order of its own choice; it does not matter, because such entries
are refused.  So two payloads that state the same entries in another order, or
a participant more than once, are both refused or decode to one definition.

A catalog that holds what a registration stored has nothing to do for the other
one: unless the collective has ended, it answers that nothing changed.
-/

namespace TrafficFabric

open Lib Reader

section Lists

variable {α β : Type} [LinearOrder β] {rank : α → β} {related : α → α → Bool} {items other : List α}

/-- A sorted list has related neighbours exactly when two entries share a rank. -/
theorem hasAdjacent_eq_false_iff (hrelated : ∀ a b, related a b = false ↔ rank a ≠ rank b)
    (hsorted : items.Pairwise fun a b => rank a ≤ rank b) :
    hasAdjacent related items = false ↔ (items.map rank).Nodup := by
  refine ⟨fun hnone => ?_, fun hnodup => ?_⟩
  · have hchain : items.IsChain fun a b => rank a ≠ rank b := by
      clear hsorted
      induction items with
      | nil => exact .nil
      | cons first rest ih =>
        cases rest with
        | nil => exact .singleton first
        | cons second rest =>
          rw [hasAdjacent, Bool.or_eq_false_iff] at hnone
          exact .cons_cons ((hrelated first second).mp hnone.1) (ih hnone.2)
    exact List.pairwise_map.mpr
      ((pairwise_lt_of_neighbours hsorted hchain).imp fun hlt => ne_of_lt hlt)
  · exact hasAdjacent_eq_false ((List.pairwise_map.mp hnodup).imp fun hne => (hrelated _ _).mpr hne)

/--
Whichever way the sorted lists break ties, they refuse alike, and they are the
same list when they are not refused.
-/
theorem sorted_alike (hrelated : ∀ a b, related a b = false ↔ rank a ≠ rank b)
    (hperm : items.Perm other) (hsorted : items.Pairwise fun a b => rank a ≤ rank b)
    (hother : other.Pairwise fun a b => rank a ≤ rank b) :
    (hasAdjacent related items = false ↔ hasAdjacent related other = false) ∧
      (hasAdjacent related items = false → items = other) := by
  rw [hasAdjacent_eq_false_iff hrelated hsorted, hasAdjacent_eq_false_iff hrelated hother]
  refine ⟨(hperm.map rank).nodup_iff, fun hnodup => ?_⟩
  refine List.Perm.eq_of_pairwise ?_ hsorted hother hperm
  intro a b ha hb hab hba
  exact List.inj_on_of_nodup_map hnodup ha (hperm.mem_iff.mpr hb) (le_antisymm hab hba)

end Lists

section Canonical

/-- The definitions state the same entries, in whatever order, and agree in every other field. -/
structure SameEntries (a b : CollectiveDefinition) : Prop where
  fields : b = { a with participants := b.participants, phases := b.phases, steps := b.steps }
  participants : ∀ participant, participant ∈ a.participants ↔ participant ∈ b.participants
  phases : a.phases.Perm b.phases
  steps : a.steps.Perm b.steps

/-- Canonicalization forgets the order, its refusals included. -/
theorem canonicalizeDefinition_eq {a b : CollectiveDefinition} (h : SameEntries a b) :
    canonicalizeDefinition a = canonicalizeDefinition b := by
  have hphases := sorted_alike samePhase_eq_false_iff
    ((List.perm_insertionSort _ a.phases).trans
      (h.phases.trans (List.perm_insertionSort _ b.phases).symm))
    (phaseRanks.pairwise_insertionSort a.phases) (phaseRanks.pairwise_insertionSort b.phases)
  have hsteps := sorted_alike sameStep_eq_false_iff
    ((List.perm_insertionSort _ a.steps).trans
      (h.steps.trans (List.perm_insertionSort _ b.steps).symm))
    (stepRanks.pairwise_insertionSort a.steps) (stepRanks.pairwise_insertionSort b.steps)
  simp only [canonicalizeDefinition]
  by_cases hphase : hasAdjacent (fun a b => a.phaseIndex == b.phaseIndex)
      (a.phases.insertionSort fun a b => a.phaseIndex.value ≤ b.phaseIndex.value) = false
  · rw [require_pos hphase, require_pos (hphases.1.mp hphase)]
    by_cases hstep : hasAdjacent
        (fun a b => a.phaseIndex == b.phaseIndex && a.stepIndex == b.stepIndex)
        (a.steps.insertionSort fun a b => stepLess b a = false) = false
    · rw [require_pos hstep, require_pos (hsteps.1.mp hstep), ← hphases.2 hphase,
        ← hsteps.2 hstep, ← canonicalizeParticipants_eq h.participants, h.fields]
    · rw [require_neg hstep, require_neg (mt hsteps.1.mpr hstep)]
  · rw [require_neg hphase, require_neg (mt hphases.1.mpr hphase)]

end Canonical

section Layout

/-- The fields before the lists. -/
def decodeFront : Reader CollectiveDefinition := do
  let id ← Reader.identity
  let generation ← Reader.identity
  let collectiveClass ← Reader.enumeration collectiveClasses
    (undefinedEnum (text "collective class is not defined by this version"))
  let algorithmHint ← Reader.enumeration algorithmHints
    (undefinedEnum (text "algorithm hint is not defined by this version"))
  let scope ← Reader.enumeration collectiveScopes
    (undefinedEnum (text "collective scope is not defined by this version"))
  let label ← Reader.string Limits.labelBytesMax
  let originNode ← Reader.identity
  let fabric ← Reader.identity
  return { id, generation, collectiveClass, algorithmHint, scope, label, originNode, fabric }

/-- The fields up to the last list. -/
def decodeLists : Reader CollectiveDefinition := do
  let front ← decodeFront
  let participants ← decodeParticipants
  let phases ← Reader.counted Limits.phasesMaxPerCollective decodePhase
  let steps ← Reader.counted (Limits.phasesMaxPerCollective * Limits.stepsMaxPerPhase) decodeStep
  return { front with participants, phases, steps }

/-- The fields after the lists. -/
def decodeBack : Reader (Metadata × Bool × UInt64 × Sequence) := do
  return (← decodeMetadata, ← Reader.boolean, ← Reader.u64, ← Reader.sequence)

def completed (front : CollectiveDefinition) (back : Metadata × Bool × UInt64 × Sequence) :
    CollectiveDefinition :=
  { front with
    metadata := back.1
    declaresBarrierSemantics := back.2.1
    logicalBytes := back.2.2.1
    registrationSequence := back.2.2.2 }

theorem decodeDefinition_eq :
    decodeDefinition = do
      let front ← decodeLists
      let back ← decodeBack
      return completed front back := by
  simp only [decodeDefinition, decodeLists, decodeFront, decodeBack, completed, bind_assoc,
    pure_bind]

theorem SameEntries.completed {a b : CollectiveDefinition} (h : SameEntries a b)
    (back : Metadata × Bool × UInt64 × Sequence) :
    SameEntries (completed a back) (completed b back) := by
  refine ⟨?_, h.participants, h.phases, h.steps⟩
  rw [h.fields]
  rfl

/--
A register payload in its parts.  The bytes before the lists are fields of the
definition and every entry is one of its list, whether or not the decoder has
to refuse them; the lists are within its bounds, and anything may follow.
-/
structure RegisterLayout where
  front : Text
  participants : List ParticipantId
  phases : List Text
  steps : List Text
  back : Text
  front_framed : Framed decodeFront front
  participants_bound : participants.length ≤ Limits.participantsMaxPerCollective
  phases_bound : phases.length ≤ Limits.phasesMaxPerCollective
  phases_framed : ∀ entry ∈ phases, Framed decodePhase entry
  steps_bound : steps.length ≤ Limits.phasesMaxPerCollective * Limits.stepsMaxPerPhase
  steps_framed : ∀ entry ∈ steps, Framed decodeStep entry

namespace RegisterLayout

def lists (layout : RegisterLayout) : Text :=
  layout.front ++ (Writer.counted putIdentity layout.participants ++
    (Writer.counted id layout.phases ++ Writer.counted id layout.steps))

def bytes (layout : RegisterLayout) : Text :=
  layout.lists ++ layout.back

/-- The payloads differ only in the order of their entries and in repeated participants. -/
structure Reordered (first second : RegisterLayout) : Prop where
  front : first.front = second.front
  participants : ∀ participant, participant ∈ first.participants ↔ participant ∈ second.participants
  phases : first.phases.Perm second.phases
  steps : first.steps.Perm second.steps
  back : first.back = second.back

end RegisterLayout

theorem readsAlike_counted {α : Type} {max : Nat} {item : Reader α} {entries others : List Text}
    (hbound : entries.length ≤ max) (hmax : max < 2 ^ 32) (hperm : entries.Perm others)
    (hframed : ∀ entry ∈ entries, Framed item entry) :
    ReadsAlike List.Perm (counted max item) (Writer.counted id entries)
      (counted max item) (Writer.counted id others) := by
  have hcount : ReadsAlike (fun number otherNumber =>
        number = entries.length ∧ otherNumber = others.length)
      (count max) (putU32 entries.length.toUInt32)
      (count max) (putU32 others.length.toUInt32) :=
    .values (delimits_count hbound hmax).reads
      (delimits_count (hperm.length_eq ▸ hbound) hmax).reads ⟨rfl, rfl⟩
  refine hcount.bind ?_
  rintro _ _ ⟨rfl, rfl⟩
  rw [List.flatMap_id, List.flatMap_id]
  exact readsAlike_many rfl (fun _ => rfl) hperm hframed

theorem decodeParticipants_rejects :
    Rejects decodeParticipants (Writer.counted putIdentity []) := by
  exact (delimits_count (Nat.zero_le _) (by decide)).reads.rejects_bind fun rest => ⟨_, rfl⟩

/-- The payload names the same members, or neither names one. -/
theorem readsAlike_participants {participants others : List ParticipantId}
    (hbound : participants.length ≤ Limits.participantsMaxPerCollective)
    (hothers : others.length ≤ Limits.participantsMaxPerCollective)
    (hmembers : ∀ participant, participant ∈ participants ↔ participant ∈ others) :
    ReadsAlike (fun a b => ∀ participant, participant ∈ a ↔ participant ∈ b)
      decodeParticipants (Writer.counted putIdentity participants)
      decodeParticipants (Writer.counted putIdentity others) := by
  by_cases hnone : participants = []
  · have hothersNone : others = [] := by
      rw [List.eq_nil_iff_forall_not_mem]
      intro participant hmem
      exact List.not_mem_nil (hnone ▸ (hmembers participant).mpr hmem)
    rw [hnone, hothersNone]
    exact .refusals decodeParticipants_rejects decodeParticipants_rejects
  · have hothersSome : others ≠ [] := by
      obtain ⟨participant, hmem⟩ := List.exists_mem_of_ne_nil participants hnone
      exact List.ne_nil_of_mem ((hmembers participant).mp hmem)
    exact .values (delimits_participants hbound hnone).reads
      (delimits_participants hothers hothersSome).reads hmembers

/-- The fields up to the last list agree but for the order of the entries. -/
theorem readsAlike_lists {first second : RegisterLayout} (h : first.Reordered second) :
    ReadsAlike SameEntries decodeLists first.lists decodeLists second.lists := by
  unfold RegisterLayout.lists decodeLists
  rw [← h.front]
  refine first.front_framed.alike.bind ?_
  rintro front _ rfl
  refine (readsAlike_participants first.participants_bound second.participants_bound
    h.participants).bind ?_
  intro participants otherParticipants hparticipants
  refine (readsAlike_counted first.phases_bound (by decide) h.phases first.phases_framed).bind ?_
  intro phases otherPhases hphases
  refine (readsAlike_counted first.steps_bound (by decide) h.steps first.steps_framed).last ?_
  intro steps otherSteps hsteps
  exact ⟨rfl, hparticipants, hphases, hsteps⟩

theorem decodeOne_of_rejects {α β : Type} {reader : Reader α} {bytes : Text}
    (h : Rejects reader bytes) (next : α → Reader β) (rest : Text) :
    ∃ refusal, decodeOne (reader >>= next) (bytes ++ rest) = .error refusal := by
  obtain ⟨refusal, hrefusal⟩ := h.bind next rest []
  rw [List.append_nil] at hrefusal
  have hrun : (reader >>= next) (bytes ++ rest) = .error refusal := hrefusal
  exact ⟨refusal, by rw [decodeOne, hrun]⟩

theorem decodeOne_of_reads {α β γ : Type} {reader : Reader α} {bytes : Text} {a : α}
    (h : Reads reader bytes a) (last : Reader β) (build : α → β → γ) (rest : Text) :
    decodeOne (do
      let a ← reader
      let b ← last
      return build a b) (bytes ++ rest) = (decodeOne last rest).map (build a) := by
  have hrun : (reader >>= fun a => last >>= fun b => pure (build a b)) (bytes ++ rest) =
      (last >>= fun b => pure (build a b)) rest := h.run_bind rest
  have hlast : (last >>= fun b => pure (build a b)) rest =
      (last rest).map fun read => (build a read.1, read.2) := by
    change (last rest).bind _ = _
    cases last rest <;> rfl
  rw [decodeOne, hrun, hlast, decodeOne]
  cases last rest with
  | error status => rfl
  | ok read =>
    obtain ⟨b, left⟩ := read
    by_cases hleft : left = [] <;> simp [Except.map, hleft]

/-- Both payloads are refused, or they decode to the same. -/
theorem decodeRegisterCollective_reordered {first second : RegisterLayout}
    (h : first.Reordered second) :
    ((∃ refusal, decodeRegisterCollective first.bytes = .error refusal) ∧
        ∃ refusal, decodeRegisterCollective second.bytes = .error refusal) ∨
      decodeRegisterCollective first.bytes = decodeRegisterCollective second.bytes := by
  simp only [decodeRegisterCollective, RegisterLayout.bytes, decodeDefinition_eq]
  cases readsAlike_lists h with
  | values hfirst hsecond hsame =>
    right
    rw [decodeOne_of_reads hfirst, decodeOne_of_reads hsecond, h.back]
    cases decodeOne decodeBack second.back with
    | error status => rfl
    | ok back => exact canonicalizeDefinition_eq (hsame.completed back)
  | refusals hfirst hsecond =>
    obtain ⟨refusal, hrefusal⟩ := decodeOne_of_rejects hfirst
      (fun front => do return completed front (← decodeBack)) first.back
    obtain ⟨otherRefusal, hotherRefusal⟩ := decodeOne_of_rejects hsecond
      (fun front => do return completed front (← decodeBack)) second.back
    left
    rw [hrefusal, hotherRefusal]
    exact ⟨⟨refusal, rfl⟩, otherRefusal, rfl⟩

end Layout

section Encoded

variable {value : CollectiveDefinition}

def encodeFront (value : CollectiveDefinition) : Text :=
  putIdentity value.id ++ putIdentity value.generation ++
    Writer.enumeration collectiveClasses value.collectiveClass ++
    Writer.enumeration algorithmHints value.algorithmHint ++
    Writer.enumeration collectiveScopes value.scope ++ writeString value.label ++
    putIdentity value.originNode ++ putIdentity value.fabric

def encodeBack (value : CollectiveDefinition) : Text :=
  encodeMetadata value.metadata ++ Writer.boolean value.declaresBarrierSemantics ++
    putU64 value.logicalBytes ++ putU64 value.registrationSequence.value

theorem delimits_front (hlabel : value.label.length ≤ Limits.labelBytesMax) :
    Delimits decodeFront (encodeFront value)
      { id := value.id
        generation := value.generation
        collectiveClass := value.collectiveClass
        algorithmHint := value.algorithmHint
        scope := value.scope
        label := value.label
        originNode := value.originNode
        fabric := value.fabric } := by
  rw [encodeFront]
  simp only [List.append_assoc]
  refine (delimits_identity _).bind ?_
  refine (delimits_identity _).bind ?_
  refine (delimits_enumeration _ (mem_collectiveClasses _) (by decide)).bind ?_
  refine (delimits_enumeration _ (mem_algorithmHints _) (by decide)).bind ?_
  refine (delimits_enumeration _ (mem_collectiveScopes _) (by decide)).bind ?_
  refine (delimits_string hlabel (by decide)).bind ?_
  refine (delimits_identity _).bind ?_
  exact (delimits_identity _).last

/-- What the encoder writes for a definition within the bounds of the decoder. -/
def encodedLayout (value : CollectiveDefinition) (h : DefinitionFits value) : RegisterLayout where
  front := encodeFront value
  participants := value.participants
  phases := value.phases.map encodePhase
  steps := value.steps.map encodeStep
  back := encodeBack value
  front_framed := .inl ⟨_, (delimits_front h.label).reads⟩
  participants_bound := h.participants
  phases_bound := by
    rw [List.length_map]
    exact h.phases
  phases_framed := by
    intro entry hentry
    obtain ⟨phase, hphase, rfl⟩ := List.mem_map.mp hentry
    exact .inl ⟨phase, (delimits_phase (h.phaseLabels phase hphase)).reads⟩
  steps_bound := by
    rw [List.length_map]
    exact h.steps
  steps_framed := by
    intro entry hentry
    obtain ⟨step, _, rfl⟩ := List.mem_map.mp hentry
    exact .inl ⟨step, (delimits_step step).reads⟩

theorem encodedLayout_bytes (h : DefinitionFits value) :
    (encodedLayout value h).bytes = encodeRegisterCollective value := by
  simp only [RegisterLayout.bytes, RegisterLayout.lists, encodedLayout, encodeFront, encodeBack,
    encodeRegisterCollective, encodeDefinition, Writer.counted, SnapWriter.counted,
    List.length_map, List.flatMap_map, id_eq, List.append_assoc]

theorem encodedLayout_reordered {a b : CollectiveDefinition} (ha : DefinitionFits a)
    (hb : DefinitionFits b) (h : SameEntries a b) :
    (encodedLayout a ha).Reordered (encodedLayout b hb) := by
  have hfront : encodeFront a = encodeFront b := by
    rw [h.fields]
    rfl
  have hback : encodeBack a = encodeBack b := by
    rw [h.fields]
    rfl
  exact ⟨hfront, h.participants, h.phases.map encodePhase, h.steps.map encodeStep, hback⟩

end Encoded

section Catalog

variable {catalog : CollectiveCatalog} {definition : CollectiveDefinition} {now : UInt64}

/-- Equivalence passes over the two fields that the catalog assigns. -/
theorem definitionsEquivalent_assigned (definition : CollectiveDefinition)
    (generation : CollectiveGeneration) (sequence : Sequence) :
    definitionsEquivalent
      { definition with generation := generation, registrationSequence := sequence }
      definition = true := by
  simp [definitionsEquivalent]

/-- A registration that succeeds leaves an equivalent definition of the generation it reports. -/
theorem registerDefinition_stores
    (h : (catalog.registerDefinition definition now).1.result.isRejection = false) :
    (validateDefinition definition).isOk = true ∧
      ∃ record, (catalog.registerDefinition definition now).2.find definition.id = some record ∧
        definitionsEquivalent record.definition definition = true ∧
        record.definition.generation = (catalog.registerDefinition definition now).1.generation := by
  have hresult := registerDefinition_result catalog definition now
  generalize catalog.registerDefinition definition now = result at hresult h
  cases hresult with
  | rejected _ _ rejects =>
    rw [h] at rejects
    cases rejects
  | unchanged _ record registers found equivalent _ generation =>
    exact ⟨registers.1, record, found, equivalent, generation.symm⟩
  | registered _ registers absent _ generation =>
    exact ⟨registers.1, _, (find_emplace_of_absent _ absent).trans (if_pos rfl),
      definitionsEquivalent_assigned definition _ _, generation.symm⟩
  | advanced _ record registers _ _ _ generation =>
    exact ⟨registers.1, _, KeyMap.find_assign_self _ _ _,
      definitionsEquivalent_assigned definition _ _, generation.symm⟩

/-- A valid definition that an open record already holds changes nothing. -/
theorem registerDefinition_unchanged {record : CollectiveRecord}
    (hvalid : (validateDefinition definition).isOk = true)
    (hrecord : catalog.find definition.id = some record)
    (hopen : collectiveStateIsTerminal record.state = false)
    (hequivalent : definitionsEquivalent record.definition definition = true) :
    (catalog.registerDefinition definition now).1.result = .unchanged ∧
      (catalog.registerDefinition definition now).1.generation = record.definition.generation ∧
      (catalog.registerDefinition definition now).2 = catalog := by
  simp [CollectiveCatalog.registerDefinition, CollectiveCatalog.registerExisting, hvalid, hrecord,
    hopen, hequivalent]

end Catalog

/--
Wire order is lost.  Of two payloads that differ only in it, the decoder accepts
both or none, and to the same definition; and once the catalog holds what a
registration of the first stored, a registration of the second changes nothing
and reports the same generation, for as long as the collective has not ended.
-/
theorem registration_ignores_wire_order {first second : RegisterLayout}
    (h : first.Reordered second) :
    ((decodeRegisterCollective first.bytes).isOk =
        (decodeRegisterCollective second.bytes).isOk) ∧
      ∀ definition other,
        decodeRegisterCollective first.bytes = .ok definition →
        decodeRegisterCollective second.bytes = .ok other →
        definition = other ∧
        ∀ (catalog : CollectiveCatalog) (now : UInt64) (stored : CollectiveRecord),
          (catalog.registerDefinition definition now).1.result.isRejection = false →
          (catalog.registerDefinition definition now).2.find definition.id = some stored →
          ∀ (current : CollectiveCatalog) (later : UInt64) (record : CollectiveRecord),
            current.find definition.id = some record →
            record.definition = stored.definition →
            collectiveStateIsTerminal record.state = false →
            (current.registerDefinition other later).1.result = .unchanged ∧
              (current.registerDefinition other later).1.generation =
                (catalog.registerDefinition definition now).1.generation ∧
              (current.registerDefinition other later).2 = current := by
  have hdecoded := decodeRegisterCollective_reordered h
  refine ⟨?_, ?_⟩
  · obtain ⟨⟨_, hfirst⟩, _, hsecond⟩ | hsame := hdecoded
    · rw [hfirst, hsecond]
      rfl
    · rw [hsame]
  · intro definition other hdefinition hother
    have hsame : definition = other := by
      obtain ⟨⟨_, hfirst⟩, _⟩ | hsame := hdecoded
      · rw [hdefinition] at hfirst
        cases hfirst
      · rw [hdefinition, hother] at hsame
        exact Except.ok.inj hsame
    subst hsame
    refine ⟨rfl, ?_⟩
    intro catalog now stored hsuccess hstored current later record hrecord hheld hopen
    obtain ⟨hvalid, kept, hkept, hequivalent, hgeneration⟩ := registerDefinition_stores hsuccess
    obtain rfl : stored = kept := Option.some.inj (hstored.symm.trans hkept)
    rw [← hgeneration, ← hheld]
    exact registerDefinition_unchanged hvalid hrecord hopen (by rwa [hheld])

/-- The same entries as before: the phases and steps backwards, a member named twice. -/
def shuffledDefinition : CollectiveDefinition :=
  { phasedDefinition with
    participants := [⟨2, 0⟩, ⟨1, 0⟩, ⟨2, 0⟩]
    phases := phasedDefinition.phases.reverse
    steps := phasedDefinition.steps.reverse }

theorem phasedDefinition_fits : DefinitionFits phasedDefinition := by
  exact ⟨by decide, by decide, by decide, by decide, by decide⟩

theorem shuffledDefinition_fits : DefinitionFits shuffledDefinition := by
  exact ⟨by decide, by decide, by decide, by decide, by decide⟩

theorem shuffledDefinition_entries : SameEntries phasedDefinition shuffledDefinition := by
  refine ⟨rfl, ?_, (List.reverse_perm _).symm, (List.reverse_perm _).symm⟩
  intro participant
  simp only [shuffledDefinition, phasedDefinition, List.mem_cons, List.not_mem_nil]
  tauto

theorem shuffled_registration_unchanged :
    decodeRegisterCollective (encodeRegisterCollective shuffledDefinition) =
        .ok phasedDefinition ∧
      let after := (CollectiveCatalog.registerDefinition {} phasedDefinition 1).2
      (after.registerDefinition phasedDefinition 2).1.result = .unchanged ∧
        (after.registerDefinition phasedDefinition 2).1.generation = ⟨32, 0⟩ ∧
        (after.registerDefinition phasedDefinition 2).2 = after := by
  have hfirst : decodeRegisterCollective
      (encodedLayout phasedDefinition phasedDefinition_fits).bytes = .ok phasedDefinition := by
    rw [encodedLayout_bytes]
    exact (decodeRegisterCollective_exact phasedDefinition_fits (by decide)
      ⟨by decide, by decide, by decide⟩).decoded
  obtain ⟨hboth, hregistered⟩ := registration_ignores_wire_order
    (encodedLayout_reordered phasedDefinition_fits shuffledDefinition_fits
      shuffledDefinition_entries)
  rw [hfirst] at hboth
  cases hsecond : decodeRegisterCollective
      (encodedLayout shuffledDefinition shuffledDefinition_fits).bytes with
  | error status =>
    rw [hsecond] at hboth
    cases hboth
  | ok other =>
    obtain ⟨rfl, hagain⟩ := hregistered _ other hfirst hsecond
    rw [encodedLayout_bytes] at hsecond
    exact ⟨hsecond, hagain {} 1
      (CollectiveCatalog.newRecord phasedDefinition ⟨1⟩ 1) (by decide +kernel) (by decide +kernel)
      _ 2 (CollectiveCatalog.newRecord phasedDefinition ⟨1⟩ 1) (by decide +kernel) rfl rfl⟩

end TrafficFabric
