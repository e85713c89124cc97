/-
What the scanning parsers do, said of the text that lies ahead.

A parser works with a source and an offset into it. Everything that is proved of the
grammar is said of what lies ahead of the offset instead, so the two are related here
first: `Text.unread source place = some ahead` says that `place` lies within the source
and that `ahead` is what follows. Reading a piece moves along that text
(`Text.unread_add`), and each scanning parser has one equation for its reply.

The one search in the library is the search for a delimiter. `EndsAtFirst` says where it
must stop without saying how it is found, and `upThrough_eq_some_iff` is the agreement. In the
same way `IsLongestRun` says which characters of a class are taken.
-/
import Famix.Parser.Basic
import Mathlib.Algebra.Group.Nat.Defs
import Mathlib.Data.List.Infix
import Mathlib.Data.List.TakeWhile

set_option autoImplicit false

namespace Famix

namespace Text

/-! ## The text ahead of a place -/

/-- A place that is a natural number counts characters from the beginning. -/
@[simp] theorem position_natCast (text : Text) (place : Nat) :
    position text (place : Int) = place := rfl

/-- Something lies ahead of a place exactly if the place is not beyond the end. -/
theorem unread_natCast_eq_some_iff {text ahead : Text} {place : Nat} :
    unread text place = some ahead ↔ place ≤ text.length ∧ text.drop place = ahead := by
  rw [unread, position_natCast]
  constructor
  · intro h
    rcases Nat.lt_or_ge text.length place with hlt | hle
    · rw [dropExactly_of_lt hlt] at h
      cases h
    · rw [dropExactly_of_le hle] at h
      exact ⟨hle, Option.some.inj h⟩
  · rintro ⟨hle, rfl⟩
    exact dropExactly_of_le hle

/-- Ahead of a place that is not beyond the end lies what follows it. -/
theorem unread_of_le {text : Text} {place : Nat} (h : place ≤ text.length) :
    unread text place = some (text.drop place) :=
  unread_natCast_eq_some_iff.mpr ⟨h, rfl⟩

/-- The whole text lies ahead of the place 0. -/
theorem unread_zero (text : Text) : unread text (0 : Nat) = some text :=
  unread_of_le (Nat.zero_le text.length)

/-- Behind a piece of what lies ahead, the rest lies ahead. -/
theorem unread_add {text piece rest : Text} {place : Nat}
    (h : unread text place = some (piece ++ rest)) :
    unread text (place + piece.length : Nat) = some rest := by
  obtain ⟨hle, hdrop⟩ := unread_natCast_eq_some_iff.mp h
  have hlen : text.length - place = piece.length + rest.length := by
    rw [← List.length_drop, hdrop, List.length_append]
  refine unread_natCast_eq_some_iff.mpr ⟨by omega, ?_⟩
  rw [← List.drop_drop, hdrop, List.drop_left]

/-- A place beyond which something lies and the text behind it are together as long as the
source. -/
theorem length_of_unread {text ahead : Text} {place : Nat} (h : unread text place = some ahead) :
    place + ahead.length = text.length := by
  obtain ⟨hle, rfl⟩ := unread_natCast_eq_some_iff.mp h
  rw [List.length_drop]
  omega

/-! ## Places counted from the end -/

/-- A place never lies behind the one it stands for. -/
theorem le_position (text : Text) (offset : Int) : offset ≤ position text offset := by
  cases offset with
  | ofNat place => exact Int.le_refl _
  | negSucc back =>
    have hback := Int.negSucc_lt_zero back
    omega

/-- Counted from either side, what lies ahead reaches to the end. -/
theorem position_add_length_of_unread {text ahead : Text} {offset : Int}
    (h : unread text offset = some ahead) : position text offset + ahead.length = text.length :=
  length_of_unread h

/-- Something lies ahead of an offset exactly if it is not beyond the end. -/
theorem isSome_unread_iff (text : Text) (offset : Int) :
    (unread text offset).isSome ↔ offset ≤ text.length := by
  have hposition : position text offset ≤ text.length ↔ offset ≤ text.length := by
    cases offset with
    | ofNat place => exact Int.ofNat_le.symm
    | negSucc back =>
      have hback := Int.negSucc_lt_zero back
      exact iff_of_true (Nat.sub_le _ _) (by omega)
  rw [← hposition, unread]
  rcases Nat.lt_or_ge text.length (position text offset) with hlt | hle
  · rw [dropExactly_of_lt hlt]
    exact iff_of_false nofun (Nat.not_le.mpr hlt)
  · rw [dropExactly_of_le hle]
    exact iff_of_true rfl hle

/-- The characters met on the way from an offset are as many as lead to the end of the text, or
none beyond it. -/
theorem add_length_of_onward {text ahead : Text} {offset : Int}
    (h : onward text offset = some ahead) : offset + ahead.length = max offset text.length := by
  cases offset with
  | ofNat place =>
    cases h
    rw [List.length_drop, Int.ofNat_eq_natCast]
    omega
  | negSucc back =>
    rw [onward] at h
    split at h
    · cases h
      rw [List.length_append, List.length_drop, Int.negSucc_eq]
      omega
    · cases h

/-! ## Texts that cannot both lie ahead -/

/-- Two texts differ before either of them ends, so nothing begins with both. -/
def Diverge (text other : Text) : Prop := ¬ text <+: other ∧ ¬ other <+: text

instance (text other : Text) : Decidable (Diverge text other) :=
  inferInstanceAs (Decidable (_ ∧ _))

theorem Diverge.not_prefix_append {text other : Text} (h : Diverge text other) (more : Text) :
    ¬ text <+: other ++ more := by
  intro hp
  rcases List.prefix_or_prefix_of_prefix hp (List.prefix_append other more) with hin | hin
  · exact h.1 hin
  · exact h.2 hin

/-! ## Runs of characters of a class -/

/-- The character behind the longest run is not of the class. -/
theorem not_of_mem_head?_dropWhile {belongs : Char → Bool} {text : Text} {c : Char}
    (h : c ∈ (text.dropWhile belongs).head?) : belongs c = false := by
  have hstop := List.head?_dropWhile_not belongs text
  rw [Option.mem_def.mp h] at hstop
  exact hstop

/-- A run of characters of a class, in front of a text that does not prolong it. -/
def IsLongestRun (belongs : Char → Bool) (run rest : Text) : Prop :=
  (∀ c ∈ run, belongs c = true) ∧ ∀ c ∈ rest.head?, belongs c = false

theorem isLongestRun_takeWhile (belongs : Char → Bool) (text : Text) :
    IsLongestRun belongs (text.takeWhile belongs) (text.dropWhile belongs) :=
  ⟨fun _ hc => List.mem_takeWhile_imp hc, fun _ hc => not_of_mem_head?_dropWhile hc⟩

/-- Every text begins with a longest run. -/
theorem exists_isLongestRun (belongs : Char → Bool) (text : Text) :
    ∃ run rest, text = run ++ rest ∧ IsLongestRun belongs run rest :=
  ⟨_, _, List.takeWhile_append_dropWhile.symm, isLongestRun_takeWhile belongs text⟩

/-- A character that is not of the class ends a run. -/
theorem isLongestRun_cons {belongs : Char → Bool} {run rest : Text} {c : Char}
    (hrun : ∀ d ∈ run, belongs d = true) (hc : belongs c = false) :
    IsLongestRun belongs run (c :: rest) := by
  refine ⟨hrun, fun d hd => ?_⟩
  cases hd
  exact hc

/-- A text begins with one longest run only. -/
theorem IsLongestRun.takeWhile_append {belongs : Char → Bool} {run rest : Text}
    (h : IsLongestRun belongs run rest) : (run ++ rest).takeWhile belongs = run := by
  obtain ⟨hrun, hrest⟩ := h
  rw [List.takeWhile_append_of_pos hrun]
  cases rest with
  | nil => exact List.append_nil run
  | cons c rest => rw [List.takeWhile_cons_of_neg (by simp [hrest c rfl]), List.append_nil]

/-! ## The first occurrence of a delimiter -/

/-- A text ends in a delimiter that occurs nowhere earlier in it. -/
def EndsAtFirst (delimiter text : Text) : Prop :=
  delimiter <:+ text ∧ ∀ lead rest, text = lead ++ (delimiter ++ rest) → rest = []

/-- A single character occurs first at the end exactly if it does not occur before. -/
theorem endsAtFirst_singleton {c : Char} {lead : Text} :
    EndsAtFirst [c] (lead ++ [c]) ↔ c ∉ lead := by
  constructor
  · rintro ⟨-, hfirst⟩ hmem
    obtain ⟨before, behind, rfl⟩ := List.append_of_mem hmem
    have h := hfirst before (behind ++ [c]) (by simp)
    simp at h
  · intro hmem
    refine ⟨⟨lead, rfl⟩, fun before behind h => ?_⟩
    rcases List.eq_nil_or_concat behind with rfl | ⟨shorter, last, rfl⟩
    · rfl
    · -- the occurrence would lie before the last character, hence inside `lead`
      have hlead : lead = before ++ ([c] ++ shorter) := by
        have h' : lead ++ [c] = (before ++ ([c] ++ shorter)) ++ [last] := by simpa using h
        exact (List.append_inj' h' rfl).1
      exact absurd (by simp [hlead]) hmem

/-- A text that ends in its only delimiter, in front of more text, is what the search
cuts off. -/
theorem upThrough_append {delimiter text : Text} (h : EndsAtFirst delimiter text)
    (rest : Text) : upThrough delimiter (text ++ rest) = some text := by
  obtain ⟨⟨lead, rfl⟩, hfirst⟩ := h
  induction lead with
  | nil =>
    cases delimiter with
    | nil =>
      cases rest with
      | nil => rfl
      | cons c rest => rfl
    | cons d delimiter =>
      have hp : (d :: delimiter).isPrefixOf (d :: delimiter ++ rest) = true :=
        List.isPrefixOf_iff_prefix.mpr (List.prefix_append _ _)
      rw [List.nil_append, List.cons_append] at *
      rw [upThrough, if_pos hp]
  | cons c lead ih =>
    -- an occurrence at the front would end before the text does
    have hp : ¬ delimiter.isPrefixOf (c :: (lead ++ delimiter) ++ rest) = true := by
      intro hp
      have hpre : delimiter <+: c :: (lead ++ delimiter) :=
        List.prefix_of_prefix_length_le (List.isPrefixOf_iff_prefix.mp hp)
          (List.prefix_append _ _) (by simp; omega)
      obtain ⟨behind, hb⟩ := hpre
      have hnil := hfirst [] behind (by simpa using hb.symm)
      subst hnil
      have := congrArg List.length hb
      simp at this
      omega
    have hshort : ∀ before behind,
        lead ++ delimiter = before ++ (delimiter ++ behind) → behind = [] := by
      intro before behind hb
      exact hfirst (c :: before) behind (by simp [hb])
    rw [List.cons_append, List.cons_append, upThrough, ← List.cons_append, if_neg hp, ih hshort]
    rfl

/-- What the search cuts off holds the delimiter at its end only. -/
theorem endsAtFirst_of_upThrough {delimiter text piece : Text}
    (h : upThrough delimiter text = some piece) : EndsAtFirst delimiter piece := by
  induction text generalizing piece with
  | nil =>
    simp only [upThrough, List.isEmpty_iff] at h
    split at h
    · next hd =>
      cases h
      subst hd
      refine ⟨List.suffix_refl _, fun lead rest hr => ?_⟩
      rw [List.nil_append] at hr
      exact (List.append_eq_nil_iff.mp hr.symm).2
    · cases h
  | cons c text ih =>
    simp only [upThrough] at h
    split at h
    · cases h
      refine ⟨List.suffix_refl _, fun lead rest hr => ?_⟩
      have := congrArg List.length hr
      simp at this
      exact List.eq_nil_of_length_eq_zero (by omega)
    · next hp =>
      obtain ⟨shorter, hs, rfl⟩ := Option.map_eq_some_iff.mp h
      obtain ⟨⟨rest, rfl⟩, -⟩ := upThrough_eq_some hs
      obtain ⟨hsuffix, hfirst⟩ := ih hs
      refine ⟨hsuffix.trans (List.suffix_cons c shorter), fun lead behind hb => ?_⟩
      cases lead with
      | nil =>
        -- an occurrence at the front is the one that the search would have stopped at
        refine absurd (List.isPrefixOf_iff_prefix.mpr ⟨behind ++ rest, ?_⟩) hp
        rw [← List.append_assoc, ← List.cons_append, hb, List.nil_append]
      | cons d lead =>
        obtain ⟨-, hb⟩ := List.cons.inj hb
        exact hfirst lead behind hb

/-- The search for a delimiter succeeds with the piece that ends in the first occurrence,
and with no other. -/
theorem upThrough_eq_some_iff {delimiter text piece : Text} :
    upThrough delimiter text = some piece ↔
      (∃ rest, text = piece ++ rest) ∧ EndsAtFirst delimiter piece := by
  constructor
  · intro h
    exact ⟨(upThrough_eq_some h).1, endsAtFirst_of_upThrough h⟩
  · rintro ⟨⟨rest, rfl⟩, h⟩
    exact upThrough_append h rest

/-- The search for a delimiter fails only where the delimiter does not occur. -/
theorem upThrough_eq_none_iff {delimiter text : Text} :
    upThrough delimiter text = none ↔ ¬ delimiter <:+: text := by
  induction text with
  | nil => simp [upThrough]
  | cons c text ih =>
    rw [List.infix_cons_iff, not_or, ← ih, ← List.isPrefixOf_iff_prefix, upThrough]
    by_cases hp : delimiter.isPrefixOf (c :: text) = true
    · simp [hp]
    · simp [hp]

/-! ## Numerals -/

/-- The first digit of a numeral counts for as many tens as there are digits behind it. -/
theorem decimalValue_cons (c : Char) (run : Text) :
    decimalValue (c :: run) = 10 ^ run.length * (c.toNat - '0'.toNat) + decimalValue run := by
  rw [decimalValue, Nat.ofDigitChars_cons, Nat.ofDigitChars_eq_ofDigitChars_zero, Nat.mul_zero,
    Nat.zero_add, decimalValue]

/-- The numbers whose numerals can be read are those below a power of ten. -/
theorem length_ofNat_le_iff {n : Nat} : (ofNat n).length ≤ maxDigits ↔ n < 10 ^ maxDigits :=
  Nat.length_toDigits_le_iff (by decide) (by decide)

end Text

namespace Parser

/-! ## Replies of the scanning parsers -/

section

variable (rounds : Nat) {source ahead : Text} {place : Nat}

/-- A fixed text is accepted if what lies ahead begins with it. -/
theorem run_literal (text : Text) (h : Text.unread source place = some ahead) :
    (literal text).run rounds source place =
      if text.isPrefixOf ahead then ⟨.accept text, (place + text.length : Nat)⟩
      else ⟨.reject, place⟩ := by
  simp only [literal, h]
  push_cast
  rfl

/-- Beyond the end no text is accepted. -/
theorem run_literal_of_none (text : Text) (h : Text.unread source place = none) :
    (literal text).run rounds source place = ⟨.reject, place⟩ := by
  simp only [literal, h]

/-- A run of characters is the longest one that lies ahead. -/
theorem run_takeWhile (source : Text) (place : Nat) (belongs : Char → Bool) :
    (takeWhile belongs).run rounds source place =
      ⟨.accept ((source.drop place).takeWhile belongs),
        (place + ((source.drop place).takeWhile belongs).length : Nat)⟩ := by
  simp only [takeWhile, Text.onward_natCast]
  rw [← Int.natCast_add, Text.slice_takeWhile]

/-- Everything through a delimiter is the piece that the search cuts off. -/
theorem run_through (delimiter : Text) (h : Text.unread source place = some ahead) :
    (through delimiter).run rounds source place =
      match Text.upThrough delimiter ahead with
      | some piece => ⟨.accept piece, (place + piece.length : Nat)⟩
      | none => ⟨.reject, place⟩ := by
  simp only [through, h, Option.bind_some, Text.position_natCast]
  push_cast
  rfl

/-- Beyond the end no delimiter is found. -/
theorem run_through_of_none (delimiter : Text) (h : Text.unread source place = none) :
    (through delimiter).run rounds source place = ⟨.reject, place⟩ := by
  simp only [through, h, Option.bind_none]

/-- A number is the longest run of digits that lies ahead, unless it is empty or too
long. -/
theorem run_number (source : Text) (place : Nat) :
    number.run rounds source place =
      let run := (source.drop place).takeWhile Char.isDigit
      if run = [] then ⟨.reject, place⟩
      else if maxDigits < run.length then ⟨.fault (.tooManyDigits run.length), place⟩
      else ⟨.accept (Text.decimalValue run), (place + run.length : Nat)⟩ := by
  simp only [number, Text.onward_natCast]
  rw [← Int.natCast_add, Text.slice_takeWhile]
  simp only [List.isEmpty_iff]
  by_cases hrun : (source.drop place).takeWhile Char.isDigit = []
  · rw [if_pos hrun, if_pos hrun]
  · rw [if_neg hrun, if_neg hrun, if_neg hrun]

/-- What a number makes of the digits that lie ahead, in front of what is no digit. -/
theorem run_number_append {digits rest : Text} (hdrop : source.drop place = digits ++ rest)
    (hrun : Text.IsLongestRun Char.isDigit digits rest) :
    number.run rounds source place =
      if digits = [] then ⟨.reject, place⟩
      else if maxDigits < digits.length then ⟨.fault (.tooManyDigits digits.length), place⟩
      else ⟨.accept (Text.decimalValue digits), (place + digits.length : Nat)⟩ := by
  rw [run_number, hdrop, hrun.takeWhile_append]

end

end Parser

end Famix
