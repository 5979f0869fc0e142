import Mathlib.Tactic.Common
import Mathlib.Data.List.Basic
import Mathlib.Data.List.Perm.Basic
import TrafficFabric.Lib.Checks

/-!
# Self-delimiting codecs

A reader takes a value from the front of a list of tokens and leaves the rest.
A writer and a reader agree on a value when the reader finds the value at the
front of what was written, whatever follows; such agreements compose field by
field, without offsets.

A reader that may fail delimits a value when it also refuses every proper part
of the front of what was written.  That composes in the same way, so a format is
delimited once each of its fields is.  What every refusal of a reader has in
common is found field by field as well.

A reader spells a value when the tokens it takes off the front are those a writer
puts for the value.  Readers that spell their fields spell the whole.

Two lists of tokens are read alike when a reader finds related values in them,
or refuses both.  A field that is read or refused by itself, whatever follows
it, is read like itself, and fields read one after another are read alike in any
order.
-/

namespace TrafficFabric
namespace Lib

section Reads

variable {β α γ : Type} {m : Type → Type} [Monad m]

/-- The reader finds the value in the tokens, whatever follows them. -/
def Reads (reader : StateT (List β) m α) (tokens : List β) (a : α) : Prop :=
  ∀ rest, reader.run (tokens ++ rest) = pure (a, rest)

theorem reads_pure (a : α) : Reads (pure a : StateT (List β) m α) [] a := by
  intro rest
  simp

variable [LawfulMonad m] {reader : StateT (List β) m α} {tokens : List β} {a : α}

theorem Reads.bind {next : α → StateT (List β) m γ} {more : List β} {c : γ}
    (h : Reads reader tokens a) (hnext : Reads (next a) more c) :
    Reads (reader >>= next) (tokens ++ more) c := by
  intro rest
  rw [StateT.run_bind, List.append_assoc, h, pure_bind, hnext]

/-- What is read first is out of the way of what is read next. -/
theorem Reads.run_bind {next : α → StateT (List β) m γ} (h : Reads reader tokens a)
    (rest : List β) : (reader >>= next).run (tokens ++ rest) = (next a).run rest := by
  rw [StateT.run_bind, h, pure_bind]

/-- A last field, from which the value is put together. -/
theorem Reads.last {build : α → γ} (h : Reads reader tokens a) :
    Reads (reader >>= fun a => pure (build a)) tokens (build a) := by
  intro rest
  rw [StateT.run_bind, h, pure_bind, StateT.run_pure]

section Many

variable {item : StateT (List β) m α} {many : Nat → StateT (List β) m (List α)}
  (hzero : many 0 = pure [])
  (hsucc : ∀ count, many (count + 1) = do
    let first ← item
    return first :: (← many count))

include hzero hsucc

theorem reads_entries_of_forall₂ {entries : List (List β)} {items : List α}
    (h : List.Forall₂ (Reads item) entries items) :
    Reads (many entries.length) entries.flatten items := by
  induction h with
  | nil =>
    rw [List.length_nil, hzero]
    exact reads_pure []
  | cons hfirst _ ih =>
    rw [List.length_cons, hsucc, List.flatten_cons]
    exact hfirst.bind ih.last

/-- Items read one after another are the items written one after another. -/
theorem reads_many {write : α → List β} {items : List α}
    (hitem : ∀ a ∈ items, Reads item (write a) a) :
    Reads (many items.length) (items.flatMap write) items := by
  have hread : List.Forall₂ (Reads item) (items.map write) items :=
    List.forall₂_map_left_iff.mpr (List.forall₂_same.mpr hitem)
  have hentries := reads_entries_of_forall₂ hzero hsucc hread
  rwa [List.length_map, ← List.flatMap_def] at hentries

end Many

end Reads

section Delimits

variable {β α γ ε : Type}

/--
The reader finds the value in the tokens, whatever follows them, and refuses
every proper part of their front.
-/
structure Delimits (reader : StateT (List β) (Except ε) α) (tokens : List β) (a : α) : Prop where
  reads : Reads reader tokens a
  refuses : ∀ part, part <+: tokens → part ≠ tokens → ∃ refusal, reader.run part = .error refusal

theorem delimits_pure (a : α) : Delimits (pure a : StateT (List β) (Except ε) α) [] a := by
  refine ⟨reads_pure a, ?_⟩
  intro part hpart hne
  exact absurd (List.prefix_nil.mp hpart) hne

variable {reader : StateT (List β) (Except ε) α} {tokens : List β} {a : α}

/-- A part ends within the first field, or after it within the rest. -/
theorem Delimits.bind {next : α → StateT (List β) (Except ε) γ} {more : List β} {c : γ}
    (h : Delimits reader tokens a) (hnext : Delimits (next a) more c) :
    Delimits (reader >>= next) (tokens ++ more) c := by
  refine ⟨h.reads.bind hnext.reads, ?_⟩
  intro part hpart hne
  by_cases hfirst : tokens <+: part
  · obtain ⟨rest, rfl⟩ := hfirst
    have hrest : rest <+: more := (List.prefix_append_right_inj tokens).mp hpart
    obtain ⟨refusal, hrefusal⟩ := hnext.refuses rest hrest fun hsame => hne (by rw [hsame])
    exact ⟨refusal, by rw [h.reads.run_bind, hrefusal]⟩
  · have hwithin : part <+: tokens :=
      (List.prefix_or_prefix_of_prefix hpart (List.prefix_append tokens more)).resolve_right hfirst
    obtain ⟨refusal, hrefusal⟩ := h.refuses part hwithin fun hsame =>
      hfirst (hsame ▸ List.prefix_rfl)
    exact ⟨refusal, by rw [StateT.run_bind, hrefusal]; rfl⟩

/-- A last field, from which the value is put together. -/
theorem Delimits.last {build : α → γ} (h : Delimits reader tokens a) :
    Delimits (reader >>= fun a => pure (build a)) tokens (build a) := by
  rw [← List.append_nil tokens]
  exact h.bind (delimits_pure (build a))

theorem delimits_many {item : StateT (List β) (Except ε) α}
    {many : Nat → StateT (List β) (Except ε) (List α)} (hzero : many 0 = pure [])
    (hsucc : ∀ count, many (count + 1) = do
      let first ← item
      return first :: (← many count)) {write : α → List β} {items : List α}
    (hitem : ∀ a ∈ items, Delimits item (write a) a) :
    Delimits (many items.length) (items.flatMap write) items := by
  induction items with
  | nil =>
    rw [List.length_nil, hzero]
    exact delimits_pure []
  | cons first rest ih =>
    have hfirst : Delimits item (write first) first := hitem first List.mem_cons_self
    have hrest : Delimits (many rest.length) (rest.flatMap write) rest :=
      ih fun a ha => hitem a (List.mem_cons_of_mem first ha)
    rw [List.length_cons, hsucc, List.flatMap_cons]
    exact hfirst.bind hrest.last

end Delimits

section Refusals

variable {σ α β ε : Type} {P : ε → Prop}

/-- Whatever it is given to read, the refusals of the reader have the property. -/
def RefusesAlways (P : ε → Prop) (reader : StateT σ (Except ε) α) : Prop :=
  ∀ data, Refuses P (reader.run data)

theorem refusesAlways_pure (a : α) : RefusesAlways P (pure a : StateT σ (Except ε) α) := by
  intro data
  exact refuses_ok P _

theorem refusesAlways_throw {refusal : ε} (h : P refusal) :
    RefusesAlways P (throw refusal : StateT σ (Except ε) α) := by
  intro data
  exact refuses_error h

theorem RefusesAlways.bind {reader : StateT σ (Except ε) α} {next : α → StateT σ (Except ε) β}
    (h : RefusesAlways P reader) (hnext : ∀ a, RefusesAlways P (next a)) :
    RefusesAlways P (reader >>= next) := by
  intro data
  exact refuses_bind (h data) fun read _ => hnext read.1 read.2

/-- A reader behind a check that throws. -/
theorem RefusesAlways.guarded {fault : Prop} [Decidable fault] {refusal : ε}
    {next : Unit → StateT σ (Except ε) α} (h : P refusal) (hnext : RefusesAlways P (next ())) :
    RefusesAlways P (if fault then throw refusal >>= next else next ()) := by
  split
  · exact (refusesAlways_throw h).bind fun _ => hnext
  · exact hnext

end Refusals

section Alike

variable {β α γ ε : Type}

/-- The reader rejects the tokens, whatever follows them. -/
def Rejects (reader : StateT (List β) (Except ε) α) (tokens : List β) : Prop :=
  ∀ rest, ∃ refusal, reader.run (tokens ++ rest) = .error refusal

/-- What the reader makes of the tokens does not depend on what follows them. -/
def Framed (reader : StateT (List β) (Except ε) α) (tokens : List β) : Prop :=
  (∃ a, Reads reader tokens a) ∨ Rejects reader tokens

/-- Two readers find related values in their tokens, or both refuse. -/
inductive ReadsAlike (related : α → α → Prop)
    (reader : StateT (List β) (Except ε) α) (tokens : List β)
    (other : StateT (List β) (Except ε) α) (others : List β) : Prop
  | values {a b : α} :
      Reads reader tokens a → Reads other others b → related a b →
      ReadsAlike related reader tokens other others
  | refusals :
      Rejects reader tokens → Rejects other others →
      ReadsAlike related reader tokens other others

variable {reader other : StateT (List β) (Except ε) α} {tokens others : List β} {a : α}

theorem Rejects.bind (h : Rejects reader tokens) (next : α → StateT (List β) (Except ε) γ)
    (more : List β) : Rejects (reader >>= next) (tokens ++ more) := by
  intro rest
  obtain ⟨refusal, hrefusal⟩ := h (more ++ rest)
  refine ⟨refusal, ?_⟩
  rw [StateT.run_bind, List.append_assoc, hrefusal]
  rfl

theorem Reads.rejects_bind {next : α → StateT (List β) (Except ε) γ} {more : List β}
    (h : Reads reader tokens a) (hnext : Rejects (next a) more) :
    Rejects (reader >>= next) (tokens ++ more) := by
  intro rest
  obtain ⟨refusal, hrefusal⟩ := hnext rest
  exact ⟨refusal, by rw [List.append_assoc, h.run_bind, hrefusal]⟩

/-- A field that is read or refused by itself is read like itself. -/
theorem Framed.alike (h : Framed reader tokens) : ReadsAlike Eq reader tokens reader tokens := by
  obtain ⟨a, hread⟩ | hrefused := h
  · exact .values hread hread rfl
  · exact .refusals hrefused hrefused

theorem ReadsAlike.bind {related : α → α → Prop} {after : γ → γ → Prop}
    {next otherNext : α → StateT (List β) (Except ε) γ} {more othersMore : List β}
    (h : ReadsAlike related reader tokens other others)
    (hnext : ∀ a b, related a b → ReadsAlike after (next a) more (otherNext b) othersMore) :
    ReadsAlike after (reader >>= next) (tokens ++ more)
      (other >>= otherNext) (others ++ othersMore) := by
  cases h with
  | values hread hother hrelated =>
    cases hnext _ _ hrelated with
    | values hmore hothersMore hafter =>
      exact .values (hread.bind hmore) (hother.bind hothersMore) hafter
    | refusals hmore hothersMore =>
      exact .refusals (hread.rejects_bind hmore) (hother.rejects_bind hothersMore)
  | refusals hrefused hothers =>
    exact .refusals (hrefused.bind next more) (hothers.bind otherNext othersMore)

/-- A last field, from which the values are put together. -/
theorem ReadsAlike.last {related : α → α → Prop} {after : γ → γ → Prop} {build otherBuild : α → γ}
    (h : ReadsAlike related reader tokens other others)
    (hbuild : ∀ a b, related a b → after (build a) (otherBuild b)) :
    ReadsAlike after (reader >>= fun a => pure (build a)) tokens
      (other >>= fun b => pure (otherBuild b)) others := by
  rw [← List.append_nil tokens, ← List.append_nil others]
  exact h.bind fun a b hrelated => .values (reads_pure _) (reads_pure _) (hbuild a b hrelated)

section Many

variable {item : StateT (List β) (Except ε) α} {many : Nat → StateT (List β) (Except ε) (List α)}
  (hzero : many 0 = pure [])
  (hsucc : ∀ count, many (count + 1) = do
    let first ← item
    return first :: (← many count))

include hzero hsucc

omit hzero in
/-- One entry that is refused is enough. -/
theorem rejects_many {entries : List (List β)} (hframed : ∀ entry ∈ entries, Framed item entry)
    (h : ∀ items, ¬ List.Forall₂ (Reads item) entries items) :
    Rejects (many entries.length) entries.flatten := by
  induction entries with
  | nil => exact absurd List.Forall₂.nil (h [])
  | cons first rest ih =>
    rw [List.length_cons, hsucc, List.flatten_cons]
    obtain ⟨a, hread⟩ | hrefused := hframed first List.mem_cons_self
    · refine hread.rejects_bind ?_
      rw [← List.append_nil rest.flatten]
      refine Rejects.bind (ih (fun entry hentry => hframed entry (List.mem_cons_of_mem _ hentry))
        fun items hitems => h (a :: items) (.cons hread hitems)) _ _
    · exact hrefused.bind _ _

/-- Entries in another order are read to the same items in another order. -/
theorem readsAlike_many {entries others : List (List β)} (hperm : entries.Perm others)
    (hframed : ∀ entry ∈ entries, Framed item entry) :
    ReadsAlike List.Perm (many entries.length) entries.flatten
      (many others.length) others.flatten := by
  by_cases hread : ∃ items, List.Forall₂ (Reads item) entries items
  · obtain ⟨items, hitems⟩ := hread
    obtain ⟨otherItems, hotherItems, hitemsPerm⟩ := List.perm_comp_forall₂ hperm.symm hitems
    exact .values (reads_entries_of_forall₂ hzero hsucc hitems)
      (reads_entries_of_forall₂ hzero hsucc hotherItems) hitemsPerm.symm
  · refine .refusals (rejects_many hsucc hframed fun items hitems => hread ⟨items, hitems⟩)
      (rejects_many hsucc (fun entry hentry => hframed entry (hperm.mem_iff.mpr hentry)) ?_)
    intro items hitems
    obtain ⟨ownItems, hownItems, _⟩ := List.perm_comp_forall₂ hperm hitems
    exact hread ⟨ownItems, hownItems⟩

end Many

end Alike

end Lib
end TrafficFabric
