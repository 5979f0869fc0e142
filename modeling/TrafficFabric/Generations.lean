import TrafficFabric.Records
import TrafficFabric.Lib.Mixing

/-!
# Fresh generations

A changed definition receives the identity that a seeded stream yields for the
next mutation sequence.  The stream is injective in its seed, so two advances
never coincide while the sequence grows.  Three things spoil it: a definition
that comes in with a generation the stream will yield later, a first
registration whose own stream meets the stream of advances 0xC04101 apart, and a
load or a clearing that turns the sequence back.

Apart from these, and from the sequence wrapping around, every advance assigns a
generation the collective has not held before.
-/

namespace TrafficFabric

open Lib CollectiveCatalog

section Stream

/-- The finaliser loses nothing of its input. -/
theorem mix64_injective : Function.Injective mix64 := by
  have hadd := add_word_injective 0x9E3779B97F4A7C15
  have hfirst := xor_shift_word_injective (k := 30) (by decide)
  have hmul : Function.Injective fun x : UInt64 => x * 0xBF58476D1CE4E5B9 :=
    mul_word_injective (show _ * 0x96DE1B173F119089 = (1 : UInt64) by decide)
  have hsecond := xor_shift_word_injective (k := 27) (by decide)
  have hmul' : Function.Injective fun x : UInt64 => x * 0x94D049BB133111EB :=
    mul_word_injective (show _ * 0x319642B2D24D8EC3 = (1 : UInt64) by decide)
  have hlast := xor_shift_word_injective (k := 31) (by decide)
  exact hlast.comp (hmul'.comp (hsecond.comp (hmul.comp (hfirst.comp hadd))))

/-- The two words of an identity of the stream are not both zero. -/
theorem next_isNone (minter : IdentityMinter) : minter.next.1.isNone = false := by
  rw [Identity.isNone_eq_false_iff]
  intro hnone
  have hhi : mix64 (mix64 minter.state) = 0 := congrArg Identity.hi hnone
  have hlo : mix64 (mix64 minter.state ^^^ 0xA5A5A5A5A5A5A5A5 ^^^ mix64 (mix64 minter.state)) = 0 :=
    congrArg Identity.lo hnone
  -- Both words would come from the same input, but the two inputs differ by the constant.
  rw [hhi, UInt64.xor_zero] at hlo
  have hsame := mix64_injective (hlo.trans hhi.symm)
  have hconstant : mix64 minter.state ^^^ 0xA5A5A5A5A5A5A5A5 = mix64 minter.state ^^^ 0 := by
    rw [hsame, UInt64.xor_zero]
  exact absurd ((UInt64.xor_right_inj _).mp hconstant) (by decide)

/-- Different seeds start different streams. -/
theorem firstIdentity_injective :
    Function.Injective fun seed => (IdentityMinter.ofSeed seed).next.1 := by
  intro seed seed' h
  have hhi : mix64 (mix64 (mix64 seed)) = mix64 (mix64 (mix64 seed')) := congrArg Identity.hi h
  exact mix64_injective (mix64_injective (mix64_injective hhi))

/-- Different seeds mint different generations. -/
theorem mintGeneration_injective : Function.Injective mintGeneration := by
  intro seed seed' h
  simp only [mintGeneration, next_isNone, Bool.false_eq_true, if_false] at h
  exact firstIdentity_injective h

/-- Both words drawn for a counter value are zero, so the fallback is returned in their place. -/
def MintsFallback (entropy counter : UInt64) : Prop :=
  mix64 (entropy ^^^ (counter * 0x9E3779B97F4A7C15)) = 0 ∧
    mix64 (entropy + 0x165667B19E3779F9 + counter) = 0

/-- Apart from the fallback, the low word is the mixed counter. -/
theorem mintIdentity_lo {entropy counter : UInt64} (h : ¬ MintsFallback entropy counter) :
    (mintIdentity entropy counter).lo = mix64 (entropy + 0x165667B19E3779F9 + counter) := by
  unfold mintIdentity
  simp only [Identity.isNone_eq_true_iff]
  split
  · rename_i hnone
    injection hnone with hhi hlo
    exact absurd ⟨hhi, hlo⟩ h
  · rfl

/--
Two counter values mint different identities unless one of them meets the
fallback, and two seeds start different streams.
-/
theorem minted_identities_distinct :
    (∀ entropy counter counter', counter ≠ counter' →
      ¬ MintsFallback entropy counter → ¬ MintsFallback entropy counter' →
        mintIdentity entropy counter ≠ mintIdentity entropy counter') ∧
      ∀ seed seed', seed ≠ seed' →
        (IdentityMinter.ofSeed seed).next.1 ≠ (IdentityMinter.ofSeed seed').next.1 := by
  constructor
  · intro entropy counter counter' hne hset hset' hsame
    have hlo := congrArg Identity.lo hsame
    rw [mintIdentity_lo hset, mintIdentity_lo hset'] at hlo
    exact hne ((UInt64.add_right_inj _).mp (mix64_injective hlo))
  · intro seed seed' hne hsame
    exact hne (firstIdentity_injective hsame)

theorem first_two_identities_distinct :
    mintIdentity 7 0 ≠ mintIdentity 7 1 ∧
      (IdentityMinter.ofSeed 0).next.1 ≠ (IdentityMinter.ofSeed 1).next.1 := by
  have hfallback : ¬ MintsFallback 7 0 ∧ ¬ MintsFallback 7 1 := by
    unfold MintsFallback
    decide
  exact ⟨minted_identities_distinct.1 7 0 1 (by decide) hfallback.1 hfallback.2,
    minted_identities_distinct.2 0 1 (by decide)⟩

/-- The generation minted for an advance that is the given mutation. -/
def advanceGeneration (sequence : UInt64) : CollectiveGeneration :=
  CollectiveCatalog.mintGeneration (sequence ^^^ 0xBEEF)

/-- The generation minted for a first registration that is the given mutation. -/
def firstGeneration (sequence : UInt64) : CollectiveGeneration :=
  CollectiveCatalog.mintGeneration (sequence ^^^ 0xC0FFEE)

theorem advanceGeneration_injective : Function.Injective advanceGeneration := by
  intro sequence sequence' h
  exact (UInt64.xor_left_inj _).mp (mintGeneration_injective h)

/-- The two streams meet exactly where the mutations are the constant apart. -/
theorem firstGeneration_eq_advanceGeneration_iff (first sequence : UInt64) :
    firstGeneration first = advanceGeneration sequence ↔ sequence = first ^^^ 0xC04101 := by
  have hseeds : firstGeneration first = advanceGeneration sequence ↔
      first ^^^ 0xC0FFEE = sequence ^^^ 0xBEEF := mintGeneration_injective.eq_iff
  rw [hseeds]
  constructor
  · intro h
    have hxor := congrArg (· ^^^ (0xBEEF : UInt64)) h
    simp only [UInt64.xor_assoc, UInt64.xor_self, UInt64.xor_zero] at hxor
    exact hxor.symm
  · rintro rfl
    rw [UInt64.xor_assoc]
    rfl

end Stream

section Sequence

/-- The sequence stays, counts on by one, or is set by a load or a clearing. -/
theorem catalogStep_mutationSequence (catalog : CollectiveCatalog) (op : CatalogOp) :
    (catalogStep catalog op).mutationSequence = catalog.mutationSequence ∨
      (catalogStep catalog op).mutationSequence = catalog.mutationSequence.next ∨
      (∃ records, op = .load records ∧
        (catalogStep catalog op).mutationSequence = ⟨highestSequence records⟩) ∨
      (op = .clear ∧ (catalogStep catalog op).mutationSequence = {}) := by
  have heffect := catalogStep_effect catalog op
  generalize catalogStep catalog op = catalog' at heffect
  cases heffect with
  | same | declared => exact .inl rfl
  | registered | advanced | begun | moved => exact .inr (.inl rfl)
  | loaded records _ _ _ stages =>
    exact .inr (.inr (.inl ⟨records, rfl, congrArg Sequence.mk (stage_highest stages)⟩))
  | cleared => exact .inr (.inr (.inr ⟨rfl, rfl⟩))

end Sequence

/-- The catalog after a run that began with an empty one. -/
def catalogAfter (capacity : UInt32) (past : List CatalogOp) : CollectiveCatalog :=
  run catalogStep { capacity := capacity } past

section Runs

variable (capacity : UInt32)

variable {generation : CollectiveGeneration} {past : List CatalogOp} {op : CatalogOp}
  {id : CollectiveId}

/-- At some moment of the run the collective had the generation. -/
def HasHeld (past : List CatalogOp) (id : CollectiveId) (generation : CollectiveGeneration) :
    Prop :=
  ∃ before record, before <+: past ∧ (catalogAfter capacity before).find id = some record ∧
    record.definition.generation = generation

/-- The collective was first registered, without a generation, as the given mutation. -/
def FirstMintedAt (past : List CatalogOp) (id : CollectiveId) (sequence : UInt64) : Prop :=
  ∃ before definition now, before ++ [.registerDefinition definition now] <+: past ∧
    definition.id = id ∧ definition.generation.isNone = true ∧
    (catalogAfter capacity before).find id = none ∧
    (catalogAfter capacity before).mutationSequence.next.value = sequence

/-- No advance after the given mutation is minted this generation. -/
def NotAhead (sequence : UInt64) (generation : CollectiveGeneration) : Prop :=
  ∀ later, sequence < later → generation ≠ advanceGeneration later

/-- What keeps the minted generations apart, at one operation of a run. -/
structure KeepsApart (past : List CatalogOp) (op : CatalogOp) : Prop where
  counts : (catalogAfter capacity past).mutationSequence.value ≠ 0xFFFFFFFFFFFFFFFF
  supplied : ∀ definition now, op = .registerDefinition definition now →
    (catalogAfter capacity past).find definition.id = none →
    definition.generation.isSome = true →
    NotAhead (catalogAfter capacity past).mutationSequence.next.value definition.generation
  changed : ∀ definition now record, op = .registerDefinition definition now →
    (catalogAfter capacity past).find definition.id = some record →
    definitionsEquivalent record.definition definition = false →
    ∀ first, FirstMintedAt capacity past definition.id first →
      (catalogAfter capacity past).mutationSequence.next.value ≠ first ^^^ 0xC04101
  loads : ∀ records, op = .load records →
    (catalogAfter capacity past).mutationSequence.value ≤ highestSequence records ∧
      ∀ record ∈ records, NotAhead (highestSequence records) record.definition.generation
  clears : op = .clear → (catalogAfter capacity past).mutationSequence.value = 0

/-- Where a generation the collective held came from, unless no advance will mint it. -/
def Accounted (past : List CatalogOp) : Prop :=
  ∀ id generation, HasHeld capacity past id generation →
    NotAhead (catalogAfter capacity past).mutationSequence.value generation ∨
      ∃ first, FirstMintedAt capacity past id first ∧ generation = firstGeneration first

variable {capacity}

theorem NotAhead.mono {sequence sequence' : UInt64} (h : NotAhead sequence generation)
    (hle : sequence ≤ sequence') : NotAhead sequence' generation := by
  intro later hlater
  exact h later (UInt64.lt_of_le_of_lt hle hlater)

theorem notAhead_advanceGeneration (sequence : UInt64) :
    NotAhead sequence (advanceGeneration sequence) := by
  intro later hlater hsame
  rw [advanceGeneration_injective hsame] at hlater
  exact absurd hlater (UInt64.lt_irrefl later)

theorem catalogAfter_append (past : List CatalogOp) (op : CatalogOp) :
    catalogAfter capacity (past ++ [op]) = catalogStep (catalogAfter capacity past) op := by
  simp [catalogAfter]

/-- A sequence that is not at its end counts on upwards. -/
theorem lt_next {sequence : Sequence} (h : sequence.value ≠ 0xFFFFFFFFFFFFFFFF) :
    sequence.value < sequence.next.value := by
  have hmax : sequence.value.toNat ≠ 0xFFFFFFFFFFFFFFFF := by
    intro heq
    exact h (UInt64.toNat_inj.mp heq)
  have hlt := sequence.value.toNat_lt
  rw [UInt64.lt_iff_toNat_lt]
  simp only [Sequence.next, UInt64.toNat_add]
  simp only [show (1 : UInt64).toNat = 1 from rfl]
  omega

/-- The sequence of a run that keeps apart never goes back. -/
theorem KeepsApart.sequence_le (h : KeepsApart capacity past op) :
    (catalogAfter capacity past).mutationSequence.value ≤
      (catalogAfter capacity (past ++ [op])).mutationSequence.value := by
  rw [catalogAfter_append]
  rcases catalogStep_mutationSequence (catalogAfter capacity past) op with
    hsame | hnext | ⟨records, hload, hhighest⟩ | ⟨hclear, hzero⟩
  · rw [hsame]
    exact UInt64.le_refl _
  · rw [hnext]
    exact UInt64.le_of_lt (lt_next h.counts)
  · rw [hhighest]
    exact (h.loads records hload).1
  · rw [hzero, h.clears hclear]
    exact UInt64.le_refl _

theorem accounted_nil : Accounted capacity [] := by
  rintro id generation ⟨before, record, hbefore, hfind, _⟩
  cases List.prefix_nil.mp hbefore
  simp [catalogAfter, CollectiveCatalog.find] at hfind

theorem HasHeld.of_append (h : HasHeld capacity (past ++ [op]) id generation) :
    HasHeld capacity past id generation ∨
      ∃ record, (catalogStep (catalogAfter capacity past) op).find id = some record ∧
        record.definition.generation = generation := by
  obtain ⟨before, record, hbefore, hfind, hgeneration⟩ := h
  rcases List.prefix_concat_iff.mp hbefore with hall | hpast
  · subst hall
    rw [catalogAfter_append] at hfind
    exact .inr ⟨record, hfind, hgeneration⟩
  · exact .inl ⟨before, record, hpast, hfind, hgeneration⟩

theorem hasHeld_of_find {record : CollectiveRecord}
    (h : (catalogAfter capacity past).find id = some record) :
    HasHeld capacity past id record.definition.generation := by
  exact ⟨past, record, List.prefix_refl past, h, rfl⟩

theorem FirstMintedAt.of_append {sequence : UInt64} (op : CatalogOp)
    (h : FirstMintedAt capacity past id sequence) :
    FirstMintedAt capacity (past ++ [op]) id sequence := by
  obtain ⟨before, definition, now, hbefore, hrest⟩ := h
  exact ⟨before, definition, now, hbefore.trans (List.prefix_append past [op]), hrest⟩

/-- What was accounted for stays so when the sequence does not go back. -/
theorem Accounted.carried (h : Accounted capacity past)
    (hle : (catalogAfter capacity past).mutationSequence.value ≤
      (catalogAfter capacity (past ++ [op])).mutationSequence.value)
    (hheld : HasHeld capacity past id generation) :
    NotAhead (catalogAfter capacity (past ++ [op])).mutationSequence.value generation ∨
      ∃ first, FirstMintedAt capacity (past ++ [op]) id first ∧
        generation = firstGeneration first := by
  rcases h id generation hheld with hbehind | ⟨first, hfirst, heq⟩
  · exact .inl (hbehind.mono hle)
  · exact .inr ⟨first, hfirst.of_append op, heq⟩

/-- One operation that keeps apart leaves every generation held accounted for. -/
theorem accounted_append (past : List CatalogOp) (op : CatalogOp)
    (hapart : KeepsApart capacity past op) (h : Accounted capacity past) :
    Accounted capacity (past ++ [op]) := by
  intro id generation hheld
  rcases hheld.of_append with hpast | ⟨record, hfind, rfl⟩
  · exact h.carried hapart.sequence_le hpast
  · cases catalogStep_recordChange (catalogAfter capacity past) id op with
    | kept same => exact h.carried hapart.sequence_le (hasHeld_of_find (same ▸ hfind))
    | registered definition now called names before after sequence =>
      cases hfind.symm.trans after
      cases hset : definition.generation.isNone with
      | true =>
        -- The mutation is the one at which the collective is first registered.
        refine .inr ⟨_, ⟨past, definition, now, ?_, names, hset, before, rfl⟩, ?_⟩
        · exact called ▸ List.prefix_refl _
        · simp [newRecord, hset, firstGeneration]
      | false =>
        refine .inl ?_
        rw [catalogAfter_append, sequence]
        have hbehind := hapart.supplied definition now called (names ▸ before)
          (by simpa using hset)
        simpa [newRecord, hset] using hbehind
    | advanced _ _ _ _ _ _ after sequence =>
      cases hfind.symm.trans after
      refine .inl ?_
      rw [catalogAfter_append, sequence]
      exact notAhead_advanceGeneration _
    | begun _ _ _ _ _ before after definition | edited _ _ before after definition =>
      cases hfind.symm.trans after
      rw [definition]
      exact h.carried hapart.sequence_le (hasHeld_of_find before)
    | loaded records called after sequence =>
      refine .inl ?_
      rw [catalogAfter_append, sequence]
      exact (hapart.loads records called).2 record (after record hfind).1
    | cleared called after =>
      rw [after] at hfind
      cases hfind

end Runs

/-- What a registration that advances the generation has found and has stored. -/
theorem registerDefinition_advances {catalog : CollectiveCatalog}
    {definition : CollectiveDefinition} {now : UInt64}
    (h : (catalog.registerDefinition definition now).1.result = .generationAdvanced) :
    ∃ record, catalog.find definition.id = some record ∧
      definitionsEquivalent record.definition definition = false ∧
      (catalog.registerDefinition definition now).1.generation =
        advanceGeneration catalog.mutationSequence.next.value ∧
      (catalog.registerDefinition definition now).2.find definition.id =
        some (advancedRecord record definition catalog.mutationSequence.next now) := by
  have hresult := registerDefinition_result catalog definition now
  generalize catalog.registerDefinition definition now = result at hresult h
  cases hresult with
  | rejected _ _ rejects =>
    rw [h] at rejects
    cases rejects
  | unchanged _ _ _ _ _ result | registered _ _ _ result => cases result.symm.trans h
  | advanced _ record _ found changed _ generation =>
    exact ⟨record, found, changed, generation, KeyMap.find_assign_self _ _ _⟩

/--
Generation advances are fresh.  Along every run from an empty catalog that keeps
the minted generations apart, a registration that advances the generation stores
one the collective has not held before.
-/
theorem advanced_generation_fresh {capacity : UInt32} {past : List CatalogOp}
    {definition : CollectiveDefinition} {now : UInt64}
    (hops : EachAction (KeepsApart capacity) (past ++ [.registerDefinition definition now]))
    (hadvanced : ((catalogAfter capacity past).registerDefinition definition now).1.result =
      .generationAdvanced) :
    (∃ record,
      (catalogAfter capacity (past ++ [.registerDefinition definition now])).find
        definition.id = some record ∧
      record.definition.generation =
        ((catalogAfter capacity past).registerDefinition definition now).1.generation) ∧
      ∀ generation, HasHeld capacity past definition.id generation →
        ((catalogAfter capacity past).registerDefinition definition now).1.generation ≠
          generation := by
  obtain ⟨hpast, hlast⟩ := (along_append _ _ _ past [.registerDefinition definition now]).mp hops
  rw [run_noteAction, List.nil_append] at hlast
  have hapart : KeepsApart capacity past (.registerDefinition definition now) := hlast.1
  have haccounted : Accounted capacity past :=
    EachAction.invariant accounted_append accounted_nil hpast
  obtain ⟨record, hfind, hchanged, hgeneration, hstored⟩ := registerDefinition_advances hadvanced
  have hafter : (catalogAfter capacity (past ++ [.registerDefinition definition now])).find
      definition.id = some (advancedRecord record definition
        (catalogAfter capacity past).mutationSequence.next now) := by
    rw [catalogAfter_append]
    exact hstored
  refine ⟨⟨_, hafter, hgeneration.symm⟩, ?_⟩
  intro generation hheld heq
  rw [hgeneration] at heq
  rcases haccounted definition.id generation hheld with hbehind | ⟨first, hfirst, hminted⟩
  · exact hbehind _ (lt_next hapart.counts) heq.symm
  · have hmeet := (firstGeneration_eq_advanceGeneration_iff _ _).mp (hminted.symm.trans heq.symm)
    exact hapart.changed definition now record rfl hfind hchanged first hfirst hmeet

namespace Resized

/-- A collective of two members that moves the given volume. -/
def definition (generation : CollectiveGeneration) (bytes : UInt64) : CollectiveDefinition where
  id := ⟨31, 0⟩
  generation := generation
  collectiveClass := .allReduce
  participants := [⟨1, 0⟩, ⟨2, 0⟩]
  logicalBytes := bytes

end Resized

open Resized in
/--
A definition that comes in with the generation of the second mutation keeps it
when the second mutation changes the definition.
-/
theorem advanced_generation_repeated :
    let past : List CatalogOp := [.registerDefinition (definition (advanceGeneration 2) 0) 1]
    let outcome := ((catalogAfter 8 past).registerDefinition (definition {} 64) 2).1
    outcome.result = .generationAdvanced ∧ HasHeld 8 past ⟨31, 0⟩ outcome.generation := by
  intro past outcome
  have hheld : ((catalogAfter 8 past).find ⟨31, 0⟩).map (fun r => r.definition.generation) =
      some outcome.generation := by
    decide
  obtain ⟨record, hfind, hgeneration⟩ := Option.map_eq_some_iff.mp hheld
  exact ⟨by decide, hgeneration ▸ hasHeld_of_find hfind⟩

open Resized in
/-- A definition registered without a generation and changed at once gets a fresh one. -/
theorem advanced_generation_fresh_when_minted :
    let past : List CatalogOp := [.registerDefinition (definition {} 0) 1]
    let outcome := ((catalogAfter 8 past).registerDefinition (definition {} 64) 2).1
    outcome.result = .generationAdvanced ∧ HasHeld 8 past ⟨31, 0⟩ (firstGeneration 1) ∧
      outcome.generation ≠ firstGeneration 1 := by
  intro past outcome
  have hheld : ((catalogAfter 8 past).find ⟨31, 0⟩).map (fun r => r.definition.generation) =
      some (firstGeneration 1) := by
    decide
  obtain ⟨record, hfind, hgeneration⟩ := Option.map_eq_some_iff.mp hheld
  have hheld : HasHeld 8 past ⟨31, 0⟩ (firstGeneration 1) := hgeneration ▸ hasHeld_of_find hfind
  have hops : EachAction (KeepsApart 8)
      (past ++ [.registerDefinition (definition {} 64) 2]) := by
    refine ⟨⟨by decide, ?_, ?_, by simp, by simp⟩, ⟨by decide, ?_, ?_, by simp, by simp⟩, trivial⟩
    · rintro _ _ ⟨⟩ _ hset
      cases hset
    · rintro _ _ _ ⟨⟩ hnone
      cases hnone
    · rintro _ _ ⟨⟩ _ hset
      cases hset
    · rintro _ _ _ ⟨⟩ _ _ first ⟨before, _, _, hbefore, _, _, _, hfirst⟩
      -- The one registration so far is the first mutation.
      have hempty : before = [] := by
        have hlength := hbefore.length_le
        simpa [noteAction] using hlength
      subst hempty hfirst
      decide
  have hadvanced : outcome.result = .generationAdvanced := by
    decide
  exact ⟨hadvanced, hheld, (advanced_generation_fresh hops hadvanced).2 _ hheld⟩

end TrafficFabric
