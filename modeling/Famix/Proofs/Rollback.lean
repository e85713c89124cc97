/-
Rejecting without a trace: a parser that rejects leaves the offset where it found it.

This is not true of every parser. A leap moves and need not clean up, and a mapping that
turns an acceptance into a mismatch leaves the offset where the part under it had got to.
What holds is that every other construction cleans up by itself, for whatever parts it is
given: sequences, optional parts, alternatives and repetitions go back to the offset at
which they started, and the scanning parsers do not move unless they accept. So a
description is well-behaved as soon as the construction at its root is, and a root that is
a mapping hands the question on to the part under it.
-/
import Famix.Description.Basic
import Famix.Proofs.Combine

set_option autoImplicit false

namespace Famix

variable {α β : Type}

namespace Parser

/-- A parser restores the offset if it rejects nowhere but where it started. -/
def Restores (parser : Parser α) : Prop :=
  ∀ rounds source offset reached,
    parser.run rounds source offset = ⟨.reject, reached⟩ → reached = offset

/-! ## Scanning parsers -/

/-- A fixed text that does not match is not read. -/
theorem restores_literal (text : Text) : Restores (literal text) := by
  intro rounds source offset reached h
  simp only [literal] at h
  split at h
  · split at h
    · cases h
    · cases h
      rfl
  · cases h
    rfl

/-- A run of characters is never rejected. -/
theorem restores_takeWhile (belongs : Char → Bool) : Restores (takeWhile belongs) := by
  intro rounds source offset reached h
  simp only [takeWhile] at h
  split at h
  · cases h
  · cases h

/-- A delimiter that is not found is not searched for again elsewhere. -/
theorem restores_through (delimiter : Text) : Restores (through delimiter) := by
  intro rounds source offset reached h
  simp only [through] at h
  split at h
  · cases h
  · cases h
    rfl

/-- Without a digit nothing is read. -/
theorem restores_number : Restores number := by
  intro rounds source offset reached h
  simp only [number] at h
  split at h
  · split at h
    · cases h
      rfl
    · split at h
      · cases h
      · split at h
        · cases h
        · cases h
  · cases h

/-! ## Combinations -/

/-- A sequence goes back to where it started, whatever its parts do. -/
theorem restores_bind (first : Parser α) (next : α → Parser β) : Restores (first >>= next) := by
  intro rounds source offset reached h
  rcases run_bind_cases first next rounds source offset with
    ⟨value, middle, -, hb⟩ | ⟨middle, -, hb⟩ | ⟨cause, middle, -, hb⟩
  · rw [hb] at h
    exact Reply.offset_of_rollback_eq_reject h
  · rw [hb] at h
    cases h
    rfl
  · rw [hb] at h
    cases h

/-- A list of parts in sequence goes back to where it started, whatever the parts do. -/
theorem restores_sequence (parts : List (Parser α)) : Restores (sequence parts) := by
  cases parts with
  | nil =>
    intro rounds source offset reached h
    cases h
  | cons part parts => exact restores_bind _ _

/-- An optional part is never rejected. -/
theorem restores_optional (parser : Parser α) : Restores (optional parser) := by
  intro rounds source offset reached h
  rcases run_optional_cases parser rounds source offset with
    ⟨value, middle, -, ho⟩ | ⟨middle, -, ho⟩ | ⟨cause, middle, -, ho⟩
  all_goals
    rw [ho] at h
    cases h

/-- A choice goes back to where it started, whatever its alternatives do. -/
theorem restores_oneOf (alternatives : List (Parser α)) : Restores (oneOf alternatives) := by
  intro rounds source offset reached h
  -- each alternative is tried from the same offset, so the induction is on their list alone
  induction alternatives with
  | nil =>
    cases h
    rfl
  | cons alternative others ih =>
    rcases run_oneOf_cases alternative others rounds source offset with
      ⟨ho, hne⟩ | ⟨middle, -, ho⟩
    · rw [ho] at h
      exact absurd h (hne reached)
    · rw [ho] at h
      exact ih h

/-- A repetition is never rejected, after any number of rounds. -/
theorem manyFrom_ne_reject (element : Parser α) (separator : Parser β) (rounds : Nat)
    (source : Text) (left : Nat) (committed head : Int) (found : List α) (reached : Int) :
    manyFrom element separator rounds source left committed head found ≠ ⟨.reject, reached⟩ := by
  induction left generalizing committed head found with
  | zero => simp [manyFrom]
  | succ left ih =>
    rcases manyFrom_succ_cases element separator rounds source left committed head found with
      ⟨middle, -, hm⟩ | ⟨cause, middle, -, hm⟩ | ⟨value, middle, -, hround⟩
    · rw [hm]
      simp
    · rw [hm]
      simp
    · rcases hround with ⟨stop, -, hm⟩ | ⟨cause, stop, -, hm⟩ | ⟨gap, -, hm⟩ |
        ⟨gap, after, -, -, hm⟩
      · rw [hm]
        simp
      · rw [hm]
        simp
      · rw [hm]
        simp
      · rw [hm]
        exact ih middle after (value :: found)

/-- A repetition restores the offset, since it is never rejected. -/
theorem restores_many (element : Parser α) (separator : Parser β) :
    Restores (many element separator) := by
  intro rounds source offset reached h
  have hne := manyFrom_ne_reject element separator rounds source rounds offset offset [] reached
  exact absurd h hne

/-- A mapping restores the offset if the part under it does and no value that is accepted
becomes a mismatch. -/
theorem offset_of_transform_reject {parser : Parser α} {treat : α → Verdict β} {rounds : Nat}
    {source : Text} {offset reached : Int}
    (hpart : ∀ middle, parser.run rounds source offset = ⟨.reject, middle⟩ → middle = offset)
    (htreat : ∀ value middle, parser.run rounds source offset = ⟨.accept value, middle⟩ →
      treat value ≠ .reject)
    (h : (parser.transform treat).run rounds source offset = ⟨.reject, reached⟩) :
    reached = offset := by
  rcases run_transform_cases parser treat rounds source offset with
    ⟨value, middle, hp, ht⟩ | ⟨middle, hp, ht⟩ | ⟨cause, middle, hp, ht⟩
  · rw [ht] at h
    exact absurd (congrArg Reply.verdict h) (htreat value middle hp)
  · rw [ht] at h
    cases h
    exact hpart reached hp
  · rw [ht] at h
    cases h

/-- A mapping that gives every value another one restores the offset if the part under it
does. -/
theorem restores_transform {parser : Parser α} (h : Restores parser) (value : α → β) :
    Restores (parser.transform fun a => .accept (value a)) := by
  intro rounds source offset reached hrun
  exact offset_of_transform_reject (h rounds source offset) (by simp) hrun

end Parser

/-! ## Descriptions -/

open Famix.Parser

/-- Every rule of the grammar restores the offset: each of them is at its root a sequence, a
choice or a mapping of one of these. -/
theorem Rule.restores (rule : Rule) : Restores rule.parser := by
  cases rule with
  | spaces => exact restores_transform (restores_bind _ _) _
  | separator => exact restores_transform (restores_bind _ _) _
  | nameField => exact restores_transform (restores_bind _ _) _
  | signatureField => exact restores_transform (restores_bind _ _) _
  | locField => exact restores_transform (restores_bind _ _) _
  | refField tag => exact restores_transform (restores_bind _ _) _
  | entityId tag => exact restores_transform (restores_bind _ _) _
  | entityTag tag => exact restores_transform (restores_bind _ _) _
  | namespaceRecord => exact restores_transform (restores_bind _ _) _
  | packageRecord => exact restores_transform (restores_bind _ _) _
  | classRecord => exact restores_transform (restores_bind _ _) _
  | methodRecord => exact restores_transform (restores_bind _ _) _
  | attributeRecord => exact restores_transform (restores_bind _ _) _
  | inheritanceRecord => exact restores_transform (restores_bind _ _) _
  | entity => exact restores_transform (restores_oneOf _) _
  | model => exact restores_transform (restores_bind _ _) _

namespace Description

/-- On a run from `offset`, the way down from the root of a description through mappings
leads to something other than a leap, and no mapping on the way turns the value it is given
into a mismatch. Nothing is asked of the parts below. -/
def CleansUp (rounds : Nat) (source : Text) (offset : Int) : Description → Prop
  | leap _ _ => False
  | map part treat =>
    CleansUp rounds source offset part ∧
      ∀ value reached, part.parser.run rounds source offset = ⟨.accept value, reached⟩ →
        treat value ≠ .reject
  | _ => True

section

variable {rounds : Nat} {source : Text} {offset : Int}

/-- Recognising without a value cleans up if the part does. -/
theorem cleansUp_skip {part : Description} (h : CleansUp rounds source offset part) :
    CleansUp rounds source offset part.skip :=
  ⟨h, by simp⟩

/-- Keeping the first of two values cleans up, whatever the two parts are. -/
theorem cleansUp_keepFirst (first second : Description) :
    CleansUp rounds source offset (keepFirst first second) := by
  refine ⟨trivial, fun value reached _ => ?_⟩
  dsimp only
  split
  · simp
  · simp

/-- Every construction but a leap and a mapping restores the offset by itself. -/
theorem restores_of_root {description : Description}
    (hleap : ∀ shift accepts, description ≠ leap shift accepts)
    (hmap : ∀ part treat, description ≠ map part treat) : Restores description.parser := by
  cases description with
  | literal text => exact restores_transform (restores_literal text) _
  | takeWhile belongs => exact restores_transform (restores_takeWhile belongs) _
  | through delimiter => exact restores_transform (restores_through delimiter) _
  | number => exact restores_transform restores_number _
  | leap shift accepts => exact absurd rfl (hleap shift accepts)
  | rule rule => exact rule.restores
  | sequence parts => exact restores_transform (restores_sequence (parsers parts)) _
  | optional part => exact restores_transform (restores_optional part.parser) _
  | oneOf alternatives => exact restores_oneOf (parsers alternatives)
  | many element separator =>
    exact restores_transform (restores_many element.parser separator.parser) _
  | map part treat => exact absurd rfl (hmap part treat)

/-- **Rollback.** A description that cleans up rejects nowhere but where it started. The
induction goes down the mappings at the root only, because below them every construction
restores the offset by itself. -/
theorem offset_eq_of_reject {description : Description} {reached : Int}
    (hclean : CleansUp rounds source offset description)
    (h : description.parser.run rounds source offset = ⟨.reject, reached⟩) :
    reached = offset := by
  fun_induction CleansUp rounds source offset description generalizing reached with
  | case1 shift accepts => exact hclean.elim
  | case2 part treat ih =>
    obtain ⟨hpart, htreat⟩ := hclean
    exact offset_of_transform_reject (fun middle => ih hpart) htreat h
  | case3 description hleap hmap => exact restores_of_root hleap hmap _ _ _ _ h

end

/-- A leap that is accepted, one that is rejected far behind it, and a letter that becomes a
mismatch are alternatives in a sequence that has already read one letter. -/
theorem offset_eq_of_reject_leaps :
    CleansUp 9 "abcd".toList 1 (skip (keepFirst (sequence [literal "b".toList, leap 1 true])
        (oneOf [leap 5 false, map (literal "d".toList) fun _ => .reject]))) ∧
      ∃ reached, (skip (keepFirst (sequence [literal "b".toList, leap 1 true])
          (oneOf [leap 5 false, map (literal "d".toList) fun _ => .reject]))).parser.run 9
            "abcd".toList 1 = ⟨.reject, reached⟩ ∧ reached = 1 :=
  have hclean := cleansUp_skip (cleansUp_keepFirst _ _)
  ⟨hclean, _, rfl, offset_eq_of_reject hclean rfl⟩

end Description

end Famix
