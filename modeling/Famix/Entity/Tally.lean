/-
How often each kind occurs in a list of records. The kinds stand in the order of their
first occurrence, and each occurs once (`nodup_kinds_add`).
-/
import Famix.Entity.Basic

set_option autoImplicit false

namespace Famix

/-- Kinds with their counts, in the order of first occurrence. -/
abbrev Tally := List (Kind × Nat)

namespace Tally

/-- Counts one more record of a kind; a kind not seen before goes to the end. -/
def add (kind : Kind) : Tally → Tally
  | [] => [(kind, 1)]
  | (known, count) :: others =>
    if known = kind then (known, count + 1) :: others else (known, count) :: add kind others

/-- The tally of a list of records. -/
def ofEntities (entities : List Entity) : Tally :=
  entities.foldl (fun tally entity => tally.add entity.kind) []

/-- The number of records counted. -/
def total : Tally → Nat
  | [] => 0
  | (_, count) :: others => count + total others

/-- The largest count. -/
def peak (tally : Tally) : Nat := (tally.map Prod.snd).foldl max 0

/-- A kind with its count, as a chart writes it. -/
def label (entry : Kind × Nat) : Text :=
  entry.1.name ++ " (".toList ++ Text.ofNat entry.2 ++ ")".toList

/-- The labels of all kinds that occur. -/
def labels (tally : Tally) : List Text := tally.map label

/-- Counting one more record makes the total one larger. -/
@[simp] theorem total_add (kind : Kind) (tally : Tally) :
    (tally.add kind).total = tally.total + 1 := by
  induction tally with
  | nil => rfl
  | cons entry others ih =>
    obtain ⟨known, count⟩ := entry
    unfold add
    split
    · simp only [total]; omega
    · simp only [total]; omega

theorem mem_kinds_add (kind other : Kind) (tally : Tally) :
    other ∈ (tally.add kind).map Prod.fst ↔ other = kind ∨ other ∈ tally.map Prod.fst := by
  induction tally with
  | nil => simp [add]
  | cons entry others ih =>
    obtain ⟨known, count⟩ := entry
    unfold add
    split
    · next h => subst h; simp
    · simp only [List.map_cons, List.mem_cons, ih]
      constructor
      · rintro (h | h | h) <;> simp [h]
      · rintro (h | h | h) <;> simp [h]

theorem nodup_kinds_add (kind : Kind) {tally : Tally} (h : (tally.map Prod.fst).Nodup) :
    ((tally.add kind).map Prod.fst).Nodup := by
  induction tally with
  | nil => simp [add]
  | cons entry others ih =>
    obtain ⟨known, count⟩ := entry
    rw [List.map_cons, List.nodup_cons] at h
    unfold add
    split
    · rw [List.map_cons, List.nodup_cons]; exact h
    · next hne =>
      rw [List.map_cons, List.nodup_cons, mem_kinds_add]
      exact ⟨fun hk => hk.elim hne h.1, ih h.2⟩

end Tally

end Famix
