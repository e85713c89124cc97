/-
Texts as the library sees them: finite lists of code points. Every length and every
offset counts code points.

A place in a text is the number of characters before it. It may lie beyond the end, where
nothing is left to read. A negative place counts from the end, so that -1 is the place
before the last character; places farther back than the beginning are taken for the
beginning where a text is cut, and have no character.

Four scanning functions carry the reader: `unread` (what lies ahead of a place), `onward`
(the characters met on the way from a place), `upThrough` (the shortest initial piece that
ends in a given text) and `decimalValue` with `ofNat` (decimal numerals). The lemmas say
that scanning cuts a text in two and loses nothing.

Sets of characters are given as ascending ranges of code points.
-/
set_option autoImplicit false

namespace Famix

/-- A text is the list of its code points. -/
abbrev Text := List Char

namespace Text

/-! ## What lies ahead -/

/-- A text without its first characters, if there are so many. -/
def dropExactly : Text → Nat → Option Text
  | text, 0 => some text
  | [], _ + 1 => none
  | _ :: text, count + 1 => dropExactly text count

theorem dropExactly_of_le {text : Text} {count : Nat} (h : count ≤ text.length) :
    dropExactly text count = some (text.drop count) := by
  induction text generalizing count with
  | nil =>
    have : count = 0 := by simpa using h
    subst this
    rfl
  | cons c text ih =>
    cases count with
    | zero => rfl
    | succ count => exact ih (by simpa using h)

theorem dropExactly_of_lt {text : Text} {count : Nat} (h : text.length < count) :
    dropExactly text count = none := by
  induction text generalizing count with
  | nil =>
    cases count with
    | zero => simp at h
    | succ count => rfl
  | cons c text ih =>
    cases count with
    | zero => simp at h
    | succ count => exact ih (by simpa using h)

/-- The characters before a place, counted from the beginning. -/
def position (text : Text) : Int → Nat
  | .ofNat place => place
  | .negSucc back => text.length - (back + 1)

/-- The text from a place on, or nothing if the place lies beyond the end. At the very
end the empty text is still ahead. -/
def unread (text : Text) (place : Int) : Option Text := dropExactly text (position text place)

/-- The text from a place on; beyond the end nothing is left. -/
def rest (text : Text) (place : Int) : Text := text.drop (position text place)

/-- The piece of a text between two places. -/
def slice (text : Text) (first last : Int) : Text :=
  (text.take (position text last)).drop (position text first)

/-- The characters met on the way from a place. From a place counted from the end the way
leads to the end and goes on at the beginning. Where there is no character to start with
there is no way, except at the end and beyond. -/
def onward (text : Text) : Int → Option Text
  | .ofNat place => some (text.drop place)
  | .negSucc back =>
    -- behind the last character comes the first one again
    if back < text.length then some (text.drop (text.length - (back + 1)) ++ text) else none

/-- From a place counted from the beginning the way leads through the text ahead. -/
theorem onward_natCast (text : Text) (place : Nat) :
    onward text place = some (text.drop place) := rfl

/-- A run of characters met from a place on is the piece between its two ends. -/
theorem slice_takeWhile (text : Text) (place : Nat) (belongs : Char → Bool) :
    let run := (text.drop place).takeWhile belongs
    slice text place (place + run.length : Nat) = run := by
  intro run
  show (text.take (place + run.length)).drop place = run
  rw [List.drop_take, Nat.add_sub_cancel_left]
  exact (List.prefix_iff_eq_take.mp (List.takeWhile_prefix belongs)).symm

/-! ## The first occurrence of a delimiter -/

/-- The shortest initial piece of a text that ends in `delimiter`. -/
def upThrough (delimiter : Text) : Text → Option Text
  | [] => if delimiter.isEmpty then some [] else none
  | c :: text =>
    if delimiter.isPrefixOf (c :: text) then some delimiter
    else (upThrough delimiter text).map (c :: ·)

/-- What `upThrough` cuts off really is the beginning of the text, and it ends in the
delimiter. -/
theorem upThrough_eq_some {delimiter text piece : Text}
    (h : upThrough delimiter text = some piece) :
    (∃ rest, text = piece ++ rest) ∧ ∃ lead, piece = lead ++ delimiter := by
  induction text generalizing piece with
  | nil =>
    simp only [upThrough, List.isEmpty_iff] at h
    split at h
    · next hd => cases h; subst hd; exact ⟨⟨[], rfl⟩, [], rfl⟩
    · cases h
  | cons c text ih =>
    simp only [upThrough] at h
    split at h
    · next hp =>
      cases h
      obtain ⟨rest, hrest⟩ := List.isPrefixOf_iff_prefix.mp hp
      exact ⟨⟨rest, hrest.symm⟩, [], rfl⟩
    · obtain ⟨shorter, hs, rfl⟩ := Option.map_eq_some_iff.mp h
      obtain ⟨⟨rest, rfl⟩, lead, rfl⟩ := ih hs
      exact ⟨⟨rest, rfl⟩, c :: lead, rfl⟩

/-! ## Numerals -/

/-- The decimal numeral of a natural number, without leading zeros. -/
def ofNat (n : Nat) : Text := Nat.toDigits 10 n

/-- The decimal numeral of an integer, a minus sign in front of a negative one. -/
def ofInt : Int → Text
  | .ofNat n => ofNat n
  | .negSucc n => '-' :: ofNat (n + 1)

/-- The number that a run of decimal digits writes; leading zeros add nothing. -/
def decimalValue (run : Text) : Nat := Nat.ofDigitChars 10 run 0

/-- The numeral of a natural number holds digits only. -/
theorem isDigit_of_mem_ofNat {n : Nat} {c : Char} (h : c ∈ ofNat n) : c.isDigit = true :=
  Nat.isDigit_of_mem_toDigits (by decide : 0 < 10) (by decide) h

/-- A written number reads back. -/
theorem decimalValue_ofNat (n : Nat) : decimalValue (ofNat n) = n :=
  Nat.ofDigitChars_toDigits (by decide) (by decide)

/-! ## Pieces between separators -/

/-- The pieces of a text between the occurrences of a separator; there is always at least
one. -/
def splitOn (separator : Char) : Text → List Text
  | [] => [[]]
  | c :: text =>
    if c = separator then [] :: splitOn separator text
    else
      match splitOn separator text with
      -- does not occur, as there is always a piece
      | [] => [[c]]
      | piece :: pieces => (c :: piece) :: pieces

/-- The lines of a text. -/
def lines (text : Text) : List Text := splitOn '\n' text

end Text

/-! ## Sets of characters -/

/-- A first and a last code point. -/
abbrev CodeRange := Nat × Nat

/-- Whether a code point lies in one of the ranges, which must be ascending: the search
ends at the first range that begins behind the point. -/
def CodeRange.covers : List CodeRange → Nat → Bool
  | [], _ => false
  | (first, last) :: ranges, point =>
    if point < first then false else point ≤ last || covers ranges point

end Famix
