/-
What a pattern matches, declared without derivatives, and that derivatives find it.

The needless parts that `join` and `union` leave out match nothing, or nothing more
(`matches_join`, `matches_union`). A star that matches a text with a first character begins with a
part that is not empty (`matches_star_cons`); with that, the derivative of a pattern is what its
description promises (`matches_derive`). The rest is induction on the text (`isMatch_iff`).
-/
import Famix.Text.Pattern

set_option autoImplicit false

namespace Famix.Pattern

/-- The texts of a pattern. -/
inductive Matches : Pattern → Text → Prop
  | empty : Matches empty []
  | char {belongs : Char → Bool} {c : Char} (h : belongs c = true) : Matches (char belongs) [c]
  | seq {first second : Pattern} {s t : Text} (hfirst : Matches first s)
    (hsecond : Matches second t) : Matches (seq first second) (s ++ t)
  | left {left right : Pattern} {s : Text} (h : Matches left s) : Matches (either left right) s
  | right {left right : Pattern} {s : Text} (h : Matches right s) : Matches (either left right) s
  | done {pattern : Pattern} : Matches (star pattern) []
  | again {pattern : Pattern} {s t : Text} (hfirst : Matches pattern s)
    (hrest : Matches (star pattern) t) : Matches (star pattern) (s ++ t)

section

variable {first second left right pattern : Pattern} {c : Char} {t : Text}

/-! ## Constructors read back -/

@[simp] theorem not_matches_nothing : ¬ Matches nothing t := by
  intro h
  cases h

@[simp] theorem matches_empty_iff : Matches empty t ↔ t = [] := by
  constructor
  · intro h
    cases h
    rfl
  · rintro rfl
    exact .empty

theorem matches_char_iff {belongs : Char → Bool} :
    Matches (.char belongs) t ↔ ∃ c, belongs c = true ∧ t = [c] := by
  constructor
  · intro h
    cases h with
    | char h => exact ⟨_, h, rfl⟩
  · rintro ⟨c, h, rfl⟩
    exact .char h

/-- A row matches a text that falls into a part for each of the two. -/
theorem matches_seq_iff :
    Matches (.seq first second) t ↔ ∃ s u, t = s ++ u ∧ Matches first s ∧ Matches second u := by
  constructor
  · intro h
    cases h with
    | seq hfirst hsecond => exact ⟨_, _, rfl, hfirst, hsecond⟩
  · rintro ⟨s, u, rfl, hfirst, hsecond⟩
    exact .seq hfirst hsecond

theorem matches_either_iff : Matches (.either left right) t ↔ Matches left t ∨ Matches right t := by
  constructor
  · intro h
    cases h with
    | left h => exact .inl h
    | right h => exact .inr h
  · rintro (h | h)
    · exact .left h
    · exact .right h

/-- A star that matches a text with a first character begins with a part that is not empty: parts
that are empty can be left out. -/
theorem matches_star_cons :
    Matches (.star pattern) (c :: t) ↔
      ∃ s u, t = s ++ u ∧ Matches pattern (c :: s) ∧ Matches (.star pattern) u := by
  constructor
  · intro h
    generalize hstar : Pattern.star pattern = whole at h
    generalize htext : c :: t = text at h
    induction h with
    | @again _ s u hfirst hrest _ ih =>
      cases hstar
      -- an empty part is left out, and the induction goes on with the others
      rcases s with _ | ⟨d, s⟩
      · exact ih rfl htext
      · obtain ⟨rfl, rfl⟩ := List.cons.inj htext
        exact ⟨s, u, rfl, hfirst, hrest⟩
    | done => cases htext
    | empty | char | seq | left | right => cases hstar
  · rintro ⟨s, u, rfl, hfirst, hrest⟩
    exact .again hfirst hrest

/-! ## Derivatives -/

/-- A pattern is nullable if it matches the empty text. -/
theorem nullable_iff (pattern : Pattern) : pattern.nullable = true ↔ Matches pattern [] := by
  -- on the pattern; a row matches the empty text by its two parts only
  induction pattern with
  | nothing => simp [nullable]
  | empty => simp [nullable]
  | char belongs => simp [nullable, matches_char_iff]
  | seq first second ihfirst ihsecond =>
    rw [nullable, Bool.and_eq_true, ihfirst, ihsecond, matches_seq_iff]
    constructor
    · rintro ⟨hfirst, hsecond⟩
      exact ⟨[], [], rfl, hfirst, hsecond⟩
    · rintro ⟨s, u, heq, hfirst, hsecond⟩
      obtain ⟨rfl, rfl⟩ := List.append_eq_nil_iff.mp heq.symm
      exact ⟨hfirst, hsecond⟩
  | either left right ihleft ihright =>
    rw [nullable, Bool.or_eq_true, ihleft, ihright, matches_either_iff]
  | star pattern => exact iff_of_true rfl .done

/-- A row in which needless parts were left out matches what the row matches. -/
theorem matches_join : Matches (join first second) t ↔ Matches (.seq first second) t := by
  rw [matches_seq_iff]
  unfold join
  split
  · simp
  · simp
  · -- an empty first part adds nothing
    constructor
    · intro h
      exact ⟨[], t, rfl, .empty, h⟩
    · rintro ⟨s, u, rfl, hfirst, hsecond⟩
      rwa [matches_empty_iff.mp hfirst]
  · exact matches_seq_iff

/-- A choice in which needless parts were left out matches what the choice matches. -/
theorem matches_union : Matches (union left right) t ↔ Matches left t ∨ Matches right t := by
  unfold union
  split
  · simp
  · simp
  · exact matches_either_iff

/-- The derivative by a character matches what may follow the character. -/
theorem matches_derive (c : Char) (pattern : Pattern) (t : Text) :
    Matches (derive c pattern) t ↔ Matches pattern (c :: t) := by
  -- on the pattern, for all texts at once, since a row hands the rest of the text on
  induction pattern generalizing t with
  | nothing => simp [derive]
  | empty => simp [derive]
  | char belongs =>
    rw [derive, matches_char_iff]
    by_cases h : belongs c = true
    · rw [if_pos h, matches_empty_iff]
      constructor
      · rintro rfl
        exact ⟨c, h, rfl⟩
      · rintro ⟨d, -, heq⟩
        exact (List.cons.inj heq).2
    · rw [if_neg h]
      refine iff_of_false not_matches_nothing ?_
      rintro ⟨d, hd, heq⟩
      exact h ((List.cons.inj heq).1 ▸ hd)
  | seq first second ihfirst ihsecond =>
    rw [derive, matches_union, matches_join, matches_seq_iff, matches_seq_iff]
    constructor
    · rintro (⟨s, u, rfl, hfirst, hsecond⟩ | h)
      · exact ⟨c :: s, u, rfl, (ihfirst s).mp hfirst, hsecond⟩
      · by_cases hnull : first.nullable = true
        · rw [if_pos hnull] at h
          exact ⟨[], c :: t, rfl, (nullable_iff first).mp hnull, (ihsecond t).mp h⟩
        · rw [if_neg hnull] at h
          exact absurd h not_matches_nothing
    · rintro ⟨s, u, heq, hfirst, hsecond⟩
      -- the character belongs to the first part, unless that part is empty
      rcases s with _ | ⟨d, s⟩
      · rw [List.nil_append] at heq
        subst heq
        rw [if_pos ((nullable_iff first).mpr hfirst)]
        exact .inr ((ihsecond t).mpr hsecond)
      · obtain ⟨rfl, rfl⟩ := List.cons.inj heq
        exact .inl ⟨s, u, rfl, (ihfirst s).mpr hfirst, hsecond⟩
  | either left right ihleft ihright =>
    rw [derive, matches_union, matches_either_iff, ihleft, ihright]
  | star pattern ih =>
    rw [derive, matches_join, matches_seq_iff, matches_star_cons]
    simp only [ih]

/-- **Matching by derivatives** finds the texts of a pattern, and nothing else. -/
theorem isMatch_iff (pattern : Pattern) (text : Text) :
    pattern.isMatch text = true ↔ Matches pattern text := by
  induction text generalizing pattern with
  | nil => exact nullable_iff pattern
  | cons c text ih =>
    have hstep : pattern.isMatch (c :: text) = (derive c pattern).isMatch text := rfl
    rw [hstep, ih, matches_derive]

/-! ## Forms -/

/-- A run of characters of a class is a star, and a row of one such character and a star. -/
theorem Matches.star_char {belongs : Char → Bool} (h : ∀ c ∈ t, belongs c = true) :
    Matches (.star (.char belongs)) t := by
  induction t with
  | nil => exact .done
  | cons c t ih =>
    obtain ⟨hc, ht⟩ := List.forall_mem_cons.mp h
    exact .again (s := [c]) (.char hc) (ih ht)

/-- A run of such characters that is not empty is of the pattern for one or more. -/
theorem Matches.plus_char {belongs : Char → Bool} (hnil : t ≠ []) (h : ∀ c ∈ t, belongs c = true) :
    Matches (plus (.char belongs)) t := by
  obtain ⟨c, t, rfl⟩ := List.exists_cons_of_ne_nil hnil
  obtain ⟨hc, ht⟩ := List.forall_mem_cons.mp h
  exact .seq (s := [c]) (.char hc) (.star_char ht)

end

end Famix.Pattern
