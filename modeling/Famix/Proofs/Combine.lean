/-
What one step of a combination can do.

Each combination replies by looking at the reply of a part. The lemmas here list, once for
each of them, which reply of the part leads to which reply of the whole, with the offsets
they leave off at. Later modules cite these cases and never open a combination.

Two shapes occur. A `_cases` lemma splits on the reply of the part and is used where all
three verdicts matter. An `_eq_accept_iff` lemma reads an acceptance of the whole
backwards and is used where only the texts that are accepted matter.
-/
import Famix.Parser.Basic

set_option autoImplicit false

namespace Famix

variable {α β : Type}

/-- A reply after a rollback accepts exactly if it did before, at the same place. -/
@[simp] theorem Reply.rollback_eq_accept_iff {reply : Reply α} {start offset : Int} {value : α} :
    reply.rollback start = ⟨.accept value, offset⟩ ↔ reply = ⟨.accept value, offset⟩ := by
  obtain ⟨verdict, place⟩ := reply
  cases verdict with
  | accept other => rw [rollback_accept]
  | reject => rw [rollback_reject]; simp
  | fault cause => rw [rollback_fault]

/-- A fault keeps the place at which it arose. -/
@[simp] theorem Reply.rollback_eq_fault_iff {reply : Reply α} {start offset : Int}
    {cause : Fault} :
    reply.rollback start = ⟨.fault cause, offset⟩ ↔ reply = ⟨.fault cause, offset⟩ := by
  obtain ⟨verdict, place⟩ := reply
  cases verdict <;> simp [rollback]

/-- A rejection after a rollback is where the rollback leads. -/
theorem Reply.offset_of_rollback_eq_reject {reply : Reply α} {start offset : Int}
    (h : reply.rollback start = ⟨.reject, offset⟩) : offset = start := by
  obtain ⟨verdict, place⟩ := reply
  cases verdict with
  | accept other => rw [rollback_accept] at h; cases h
  | reject => rw [rollback_reject] at h; cases h; rfl
  | fault cause => rw [rollback_fault] at h; cases h

/-- Going back changes a reply only if it is a rejection, and then leads to the start. -/
theorem Reply.eq_or_offset_eq_of_rollback {reply : Reply α} {start offset : Int}
    {verdict : Verdict α} (h : reply.rollback start = ⟨verdict, offset⟩) :
    reply = ⟨verdict, offset⟩ ∨ start = offset := by
  obtain ⟨inner, place⟩ := reply
  cases inner with
  | accept value => exact .inl h
  | fault cause => exact .inl h
  | reject =>
    rw [rollback_reject] at h
    exact .inr (Reply.mk.inj h).2

/-- The same reply with another value, if there is one. -/
def Reply.map (value : α → β) : Reply α → Reply β
  | ⟨.accept a, offset⟩ => ⟨.accept (value a), offset⟩
  | ⟨.reject, offset⟩ => ⟨.reject, offset⟩
  | ⟨.fault cause, offset⟩ => ⟨.fault cause, offset⟩

namespace Parser

section

variable {rounds : Nat} {source : Text} {offset : Int}

/-! ## Sequences -/

/-- A sequence goes on where its first part accepted, and otherwise ends with it. -/
theorem run_bind_cases (first : Parser α) (next : α → Parser β) (rounds : Nat) (source : Text)
    (offset : Int) :
    (∃ value reached, first.run rounds source offset = ⟨.accept value, reached⟩ ∧
      (first >>= next).run rounds source offset =
        ((next value).run rounds source reached).rollback offset) ∨
    (∃ reached, first.run rounds source offset = ⟨.reject, reached⟩ ∧
      (first >>= next).run rounds source offset = ⟨.reject, offset⟩) ∨
    (∃ cause reached, first.run rounds source offset = ⟨.fault cause, reached⟩ ∧
      (first >>= next).run rounds source offset = ⟨.fault cause, reached⟩) := by
  rcases h : first.run rounds source offset with ⟨verdict, reached⟩
  cases verdict with
  | accept value => exact .inl ⟨value, reached, rfl, run_bind_accept rounds source offset h⟩
  | reject => exact .inr (.inl ⟨reached, rfl, run_bind_reject rounds source offset h⟩)
  | fault cause => exact .inr (.inr ⟨cause, reached, rfl, run_bind_fault rounds source offset h⟩)

/-- A sequence accepts exactly if its parts accept one behind the other. -/
theorem run_bind_eq_accept_iff {first : Parser α} {next : α → Parser β} {value : β}
    {reached : Int} :
    (first >>= next).run rounds source offset = ⟨.accept value, reached⟩ ↔
      ∃ a middle, first.run rounds source offset = ⟨.accept a, middle⟩ ∧
        (next a).run rounds source middle = ⟨.accept value, reached⟩ := by
  rcases run_bind_cases first next rounds source offset with
    ⟨a, middle, hf, hb⟩ | ⟨middle, hf, hb⟩ | ⟨cause, middle, hf, hb⟩
  -- an acceptance is never taken back, so it is that of the last part
  · rw [hb, hf, Reply.rollback_eq_accept_iff]
    constructor
    · intro h
      exact ⟨a, middle, rfl, h⟩
    · rintro ⟨a', middle', ha, h⟩
      cases ha
      exact h
  · rw [hb, hf]
    simp
  · rw [hb, hf]
    simp

/-- A sequence whose first part rejects, wherever it left off, rejects where it started. -/
theorem run_bind_of_reject {first : Parser α} {next : α → Parser β}
    (h : ∃ reached, first.run rounds source offset = ⟨.reject, reached⟩) :
    ∃ reached, (first >>= next).run rounds source offset = ⟨.reject, reached⟩ := by
  obtain ⟨reached, h⟩ := h
  exact ⟨offset, run_bind_reject rounds source offset h⟩

/-- Parts in a row are the first one and, from where it accepted, the others. -/
theorem run_sequence_cons (part : Parser α) (parts : List (Parser α)) (rounds : Nat)
    (source : Text) (offset : Int) :
    (sequence (part :: parts)).run rounds source offset =
      match part.run rounds source offset with
      | ⟨.accept value, middle⟩ =>
        (((sequence parts).run rounds source middle).map (value :: ·)).rollback offset
      | ⟨.reject, _⟩ => ⟨.reject, offset⟩
      | ⟨.fault cause, reached⟩ => ⟨.fault cause, reached⟩ := by
  rw [sequence]
  rcases hp : part.run rounds source offset with ⟨verdict, middle⟩
  cases verdict with
  | reject => rw [run_bind_reject rounds source offset hp]
  | fault cause => rw [run_bind_fault rounds source offset hp]
  | accept value =>
    rw [run_bind_accept rounds source offset hp]
    dsimp only
    -- the others have their own verdict, and only then is it known whether the first part stays
    rcases ho : (sequence parts).run rounds source middle with ⟨verdict, reached⟩
    cases verdict with
    | accept values =>
      rw [run_bind_accept rounds source middle ho]
      rfl
    | reject =>
      rw [run_bind_reject rounds source middle ho]
      rfl
    | fault cause =>
      rw [run_bind_fault rounds source middle ho]
      rfl

/-! ## Mappings -/

/-- A mapping that accepts whatever it is given maps the reply. -/
theorem run_transform_accept (parser : Parser α) (value : α → β) (rounds : Nat) (source : Text)
    (offset : Int) :
    (parser.transform fun a => .accept (value a)).run rounds source offset =
      (parser.run rounds source offset).map value := by
  simp only [transform]
  rcases parser.run rounds source offset with ⟨verdict, reached⟩
  cases verdict with
  | accept a => rfl
  | reject => rfl
  | fault cause => rfl

/-- A mapping treats the value of an acceptance and keeps every other reply. -/
theorem run_transform_cases (parser : Parser α) (treat : α → Verdict β) (rounds : Nat)
    (source : Text) (offset : Int) :
    (∃ value reached, parser.run rounds source offset = ⟨.accept value, reached⟩ ∧
      (parser.transform treat).run rounds source offset = ⟨treat value, reached⟩) ∨
    (∃ reached, parser.run rounds source offset = ⟨.reject, reached⟩ ∧
      (parser.transform treat).run rounds source offset = ⟨.reject, reached⟩) ∨
    (∃ cause reached, parser.run rounds source offset = ⟨.fault cause, reached⟩ ∧
      (parser.transform treat).run rounds source offset = ⟨.fault cause, reached⟩) := by
  rcases h : parser.run rounds source offset with ⟨verdict, reached⟩
  cases verdict with
  | accept value => exact .inl ⟨value, reached, rfl, by simp only [transform, h]⟩
  | reject => exact .inr (.inl ⟨reached, rfl, by simp only [transform, h]⟩)
  | fault cause => exact .inr (.inr ⟨cause, reached, rfl, by simp only [transform, h]⟩)

/-! ## Optional parts and alternatives -/

/-- An optional part accepts in two ways, and faults with its part. -/
theorem run_optional_cases (parser : Parser α) (rounds : Nat) (source : Text) (offset : Int) :
    (∃ value reached, parser.run rounds source offset = ⟨.accept value, reached⟩ ∧
      parser.optional.run rounds source offset = ⟨.accept (some value), reached⟩) ∨
    (∃ reached, parser.run rounds source offset = ⟨.reject, reached⟩ ∧
      parser.optional.run rounds source offset = ⟨.accept none, offset⟩) ∨
    (∃ cause reached, parser.run rounds source offset = ⟨.fault cause, reached⟩ ∧
      parser.optional.run rounds source offset = ⟨.fault cause, reached⟩) := by
  rcases h : parser.run rounds source offset with ⟨verdict, reached⟩
  cases verdict with
  | accept value => exact .inl ⟨value, reached, rfl, by simp only [optional, h]⟩
  | reject => exact .inr (.inl ⟨reached, rfl, by simp only [optional, h]⟩)
  | fault cause => exact .inr (.inr ⟨cause, reached, rfl, by simp only [optional, h]⟩)

/-- An optional part stops with its part, and in no other way. -/
theorem run_optional_eq_fault_iff {parser : Parser α} {cause : Fault} {reached : Int} :
    parser.optional.run rounds source offset = ⟨.fault cause, reached⟩ ↔
      parser.run rounds source offset = ⟨.fault cause, reached⟩ := by
  rcases run_optional_cases parser rounds source offset with
    ⟨value, middle, hp, ho⟩ | ⟨middle, hp, ho⟩ | ⟨other, middle, hp, ho⟩
  all_goals
    rw [hp, ho]
    simp

/-- A choice is decided by its first alternative, or that one rejects and it is the choice
of the others. -/
theorem run_oneOf_cases (alternative : Parser α) (others : List (Parser α)) (rounds : Nat)
    (source : Text) (offset : Int) :
    ((oneOf (alternative :: others)).run rounds source offset =
        alternative.run rounds source offset ∧
      ∀ reached, alternative.run rounds source offset ≠ ⟨.reject, reached⟩) ∨
    (∃ reached, alternative.run rounds source offset = ⟨.reject, reached⟩ ∧
      (oneOf (alternative :: others)).run rounds source offset =
        (oneOf others).run rounds source offset) := by
  rcases h : alternative.run rounds source offset with ⟨verdict, reached⟩
  cases verdict with
  | accept value => exact .inl ⟨by simp only [oneOf, h], by simp⟩
  | reject => exact .inr ⟨reached, rfl, by simp only [oneOf, h]⟩
  | fault cause => exact .inl ⟨by simp only [oneOf, h], by simp⟩

/-- A choice in which all alternatives but one reject replies as that one does. -/
theorem run_oneOf_of_others {ι : Type} {alternative : ι → Parser α} {index : ι} {indices : List ι}
    (hmem : index ∈ indices)
    (hindex : ∀ reached, (alternative index).run rounds source offset ≠ ⟨.reject, reached⟩)
    (hothers : ∀ i ∈ indices, i ≠ index →
      ∃ reached, (alternative i).run rounds source offset = ⟨.reject, reached⟩) :
    (oneOf (indices.map alternative)).run rounds source offset =
      (alternative index).run rounds source offset := by
  -- on the alternatives in front: they reject, and the choice comes down to the one
  induction indices with
  | nil => cases hmem
  | cons i indices ih =>
    rw [List.map_cons]
    rcases run_oneOf_cases (alternative i) (indices.map alternative) rounds source offset with
      ⟨ho, hne⟩ | ⟨reached, hreject, ho⟩
    · by_cases hi : i = index
      · rw [ho, hi]
      · obtain ⟨reached, hreject⟩ := hothers i List.mem_cons_self hi
        exact absurd hreject (hne reached)
    · -- this alternative rejects, so it is not the one, and the choice is left to the others
      have hi : i ≠ index := by
        intro hi
        rw [hi] at hreject
        exact hindex reached hreject
      rw [ho]
      refine ih ?_ fun j hj => hothers j (List.mem_cons_of_mem i hj)
      rcases List.mem_cons.mp hmem with heq | hmem
      · exact absurd heq.symm hi
      · exact hmem

/-- A choice in which all alternatives reject does so where it started. -/
theorem run_oneOf_of_reject {alternatives : List (Parser α)}
    (h : ∀ alternative ∈ alternatives,
      ∃ reached, alternative.run rounds source offset = ⟨.reject, reached⟩) :
    (oneOf alternatives).run rounds source offset = ⟨.reject, offset⟩ := by
  induction alternatives with
  | nil => rfl
  | cons alternative others ih =>
    obtain ⟨reached, hreject⟩ := h alternative List.mem_cons_self
    rcases run_oneOf_cases alternative others rounds source offset with ⟨-, hne⟩ | ⟨_, -, ho⟩
    · exact absurd hreject (hne reached)
    · rw [ho]
      exact ih fun other hother => h other (List.mem_cons_of_mem _ hother)

/-- A choice stops with one of its alternatives. -/
theorem exists_fault_of_oneOf {alternatives : List (Parser α)} {cause : Fault} {reached : Int}
    (h : (oneOf alternatives).run rounds source offset = ⟨.fault cause, reached⟩) :
    ∃ alternative ∈ alternatives,
      alternative.run rounds source offset = ⟨.fault cause, reached⟩ := by
  induction alternatives with
  | nil => cases h
  | cons alternative others ih =>
    rcases run_oneOf_cases alternative others rounds source offset with ⟨ho, -⟩ | ⟨_, -, ho⟩
    · rw [ho] at h
      exact ⟨alternative, List.mem_cons_self, h⟩
    · rw [ho] at h
      obtain ⟨other, hother, hfault⟩ := ih h
      exact ⟨other, List.mem_cons_of_mem alternative hother, hfault⟩

/-- A choice that rejects has tried all its alternatives. -/
theorem exists_reject_of_oneOf {alternatives : List (Parser α)} {reached : Int}
    (h : (oneOf alternatives).run rounds source offset = ⟨.reject, reached⟩) :
    ∀ alternative ∈ alternatives,
      ∃ stop, alternative.run rounds source offset = ⟨.reject, stop⟩ := by
  induction alternatives with
  | nil => simp
  | cons alternative others ih =>
    rcases run_oneOf_cases alternative others rounds source offset with
      ⟨ho, hne⟩ | ⟨stop, hreject, ho⟩
    · rw [ho] at h
      exact absurd h (hne reached)
    · rw [ho] at h
      intro other hother
      rcases List.mem_cons.mp hother with rfl | hother
      · exact ⟨stop, hreject⟩
      · exact ih h other hother

/-! ## Repetition -/

section

variable {element : Parser α} {separator : Parser β}

/-- Where no element is, the repetition ends behind the last one. -/
theorem manyFrom_of_reject (left : Nat) (committed : Int) {head : Int} (found : List α)
    (h : ∃ reached, element.run rounds source head = ⟨.reject, reached⟩) :
    manyFrom element separator rounds source (left + 1) committed head found =
      ⟨.accept found.reverse, committed⟩ := by
  obtain ⟨reached, h⟩ := h
  simp only [manyFrom, h]

/-- An element without a separator behind it is the last one. -/
theorem manyFrom_of_last (left : Nat) (committed : Int) {head reached : Int} (found : List α)
    {value : α} (helement : element.run rounds source head = ⟨.accept value, reached⟩)
    (hseparator : ∃ stop, separator.run rounds source reached = ⟨.reject, stop⟩) :
    manyFrom element separator rounds source (left + 1) committed head found =
      ⟨.accept (value :: found).reverse, reached⟩ := by
  obtain ⟨stop, hseparator⟩ := hseparator
  simp only [manyFrom, helement, hseparator]

/-- Behind an element and a separator that have moved, the next round starts. -/
theorem manyFrom_of_next (left : Nat) (committed : Int) {head reached after : Int}
    (found : List α) {value : α} {gap : β}
    (helement : element.run rounds source head = ⟨.accept value, reached⟩)
    (hseparator : separator.run rounds source reached = ⟨.accept gap, after⟩)
    (hmove : after ≠ head) :
    manyFrom element separator rounds source (left + 1) committed head found =
      manyFrom element separator rounds source left reached after (value :: found) := by
  simp only [manyFrom, helement, hseparator, if_neg hmove]

end

/-- One round of a repetition: it ends in front of an element that is missing, behind an
element without a separator, behind a round that did not move, or with a fault; otherwise
the next round starts behind the separator. -/
theorem manyFrom_succ_cases (element : Parser α) (separator : Parser β) (rounds : Nat)
    (source : Text) (left : Nat) (committed head : Int) (found : List α) :
    (∃ reached, element.run rounds source head = ⟨.reject, reached⟩ ∧
      manyFrom element separator rounds source (left + 1) committed head found =
        ⟨.accept found.reverse, committed⟩) ∨
    (∃ cause reached, element.run rounds source head = ⟨.fault cause, reached⟩ ∧
      manyFrom element separator rounds source (left + 1) committed head found =
        ⟨.fault cause, reached⟩) ∨
    (∃ value reached, element.run rounds source head = ⟨.accept value, reached⟩ ∧
      ((∃ stop, separator.run rounds source reached = ⟨.reject, stop⟩ ∧
        manyFrom element separator rounds source (left + 1) committed head found =
          ⟨.accept (value :: found).reverse, reached⟩) ∨
      (∃ cause stop, separator.run rounds source reached = ⟨.fault cause, stop⟩ ∧
        manyFrom element separator rounds source (left + 1) committed head found =
          ⟨.fault cause, stop⟩) ∨
      (∃ gap, separator.run rounds source reached = ⟨.accept gap, head⟩ ∧
        manyFrom element separator rounds source (left + 1) committed head found =
          ⟨.accept (value :: found).reverse, reached⟩) ∨
      (∃ gap after, separator.run rounds source reached = ⟨.accept gap, after⟩ ∧
        after ≠ head ∧
        manyFrom element separator rounds source (left + 1) committed head found =
          manyFrom element separator rounds source left reached after (value :: found)))) := by
  rcases he : element.run rounds source head with ⟨verdict, reached⟩
  cases verdict with
  | reject => exact .inl ⟨reached, rfl, manyFrom_of_reject left committed found ⟨reached, he⟩⟩
  | fault cause => exact .inr (.inl ⟨cause, reached, rfl, by simp only [manyFrom, he]⟩)
  | accept value =>
    refine .inr (.inr ⟨value, reached, rfl, ?_⟩)
    rcases hs : separator.run rounds source reached with ⟨verdict, after⟩
    cases verdict with
    | reject => exact .inl ⟨after, rfl, manyFrom_of_last left committed found he ⟨after, hs⟩⟩
    | fault cause => exact .inr (.inl ⟨cause, after, rfl, by simp only [manyFrom, he, hs]⟩)
    | accept gap =>
      -- a round that ends where it started would go on like that for ever, so it is the last one.
      -- What is compared is the head of the next round with that of this one, not the two ends of
      -- the separator
      by_cases hmove : after = head
      · subst hmove
        exact .inr (.inr (.inl ⟨gap, rfl, by simp only [manyFrom, he, hs, if_true]⟩))
      · exact .inr (.inr (.inr
          ⟨gap, after, rfl, hmove, manyFrom_of_next left committed found he hs hmove⟩))

end

end Parser

end Famix
