/-
Parsers by the way they are put together.

Many facts hold of every parser that is combined from well-behaved parts, and are proved by
going through the combinations once. `Built` is what such a proof is an induction on: the
scanning parsers and everything combined from them, with mappings that stop for admitted
reasons only. Leaps are not among them. `Straight` is the part of it without optional parts,
choices and repetitions, that is, what never takes anything back and goes on.

Three facts about all of them are here. They move forward (`Built.forward`) and are orderly
(`Built.orderly`). And the allowance of rounds does not show in what they reply, as soon as it
exceeds the places up to the end of the source (`Built.steady`): a repetition that is still going
has moved in every round before.
-/
import Famix.Proofs.Progress

set_option autoImplicit false

namespace Famix.Parser

/-- The parsers that are put in sequence from scanning parsers. -/
inductive Straight : {α : Type} → Parser α → Prop
  | pure {α : Type} (value : α) : Straight (pure value : Parser α)
  | literal (text : Text) : Straight (literal text)
  | takeWhile (belongs : Char → Bool) : Straight (takeWhile belongs)
  | through (delimiter : Text) : Straight (through delimiter)
  | number : Straight number
  | bind {α β : Type} {first : Parser α} {next : α → Parser β} (hfirst : Straight first)
    (hnext : ∀ a, Straight (next a)) : Straight (first >>= next)

/-- The parsers that are combined from scanning parsers, with mappings whose faults are all
in `faults`. -/
inductive Built (faults : Fault → Prop) : {α : Type} → Parser α → Prop
  | straight {α : Type} {parser : Parser α} (h : Straight parser) : Built faults parser
  | bind {α β : Type} {first : Parser α} {next : α → Parser β} (hfirst : Built faults first)
    (hnext : ∀ a, Built faults (next a)) : Built faults (first >>= next)
  | transform {α β : Type} {parser : Parser α} {treat : α → Verdict β}
    (hparser : Built faults parser)
    (htreat : ∀ value cause, treat value = .fault cause → faults cause) :
    Built faults (parser.transform treat)
  | optional {α : Type} {parser : Parser α} (hparser : Built faults parser) :
    Built faults parser.optional
  | oneOf {α : Type} {alternatives : List (Parser α)}
    (h : ∀ alternative ∈ alternatives, Built faults alternative) :
    Built faults (oneOf alternatives)
  | many {α β : Type} {element : Parser α} {separator : Parser β}
    (helement : Built faults element) (hseparator : Built faults separator) :
    Built faults (many element separator)

/-- A token is a fixed text whose value is dropped. -/
theorem straight_token (text : Text) : Straight (token text) :=
  (Straight.literal text).bind fun _ => .pure ()

variable {α β : Type}

/-- Treating the value further by a function that never fails. -/
theorem Built.value {faults : Fault → Prop} {parser : Parser α} (h : Built faults parser)
    (value : α → β) : Built faults (parser.transform fun a => .accept (value a)) :=
  h.transform (by simp)

/-- Parts in a row are built if each of them is. -/
theorem built_sequence {faults : Fault → Prop} {parts : List (Parser α)}
    (h : ∀ part ∈ parts, Built faults part) : Built faults (sequence parts) := by
  -- on the parts, as a row of them is a chain
  induction parts with
  | nil => exact .straight (.pure [])
  | cons part parts ih =>
    have hrest := ih fun other hother => h other (List.mem_cons_of_mem part hother)
    exact (h part List.mem_cons_self).bind fun value => hrest.bind fun values =>
      .straight (.pure (value :: values))

/-! ## Moving forward -/

theorem Straight.forward {parser : Parser α} (h : Straight parser) : Forward parser := by
  induction h with
  | pure value => exact forward_pure value
  | literal text => exact forward_literal text
  | takeWhile belongs => exact forward_takeWhile belongs
  | through delimiter => exact forward_through delimiter
  | number => exact forward_number
  | bind _ _ ihfirst ihnext => exact ihfirst.bind ihnext

/-- Whatever faults are met, the offset does not go back. -/
theorem Built.forward {faults : Fault → Prop} {parser : Parser α} (h : Built faults parser) :
    Forward parser := by
  -- on how the parser is put together; the mappings do not matter
  induction h with
  | straight h => exact h.forward
  | bind _ _ ihfirst ihnext => exact ihfirst.bind ihnext
  | transform _ _ ih => exact ih.transform _
  | optional _ ih => exact ih.optional
  | oneOf _ ih => exact Forward.oneOf ih
  | many _ _ ihelement ihseparator => exact ihelement.many ihseparator

/-- What is put in sequence stops for one reason only, a numeral that is too long. -/
theorem Straight.orderly {allowed : Text → Nat → Fault → Prop} {parser : Parser α}
    (h : Straight parser)
    (hnumber : ∀ source place cause, IsLongNumeral source place cause →
      allowed source place cause) : Orderly allowed parser := by
  induction h with
  | pure value => exact orderly_pure value
  | literal text => exact orderly_literal text
  | takeWhile belongs => exact orderly_takeWhile belongs
  | through delimiter => exact orderly_through delimiter
  | number => exact orderly_number hnumber
  | bind _ _ ihfirst ihnext => exact ihfirst.bind ihnext

/-- With numerals that are too long as the only reason that is allowed, nothing is left to be
said. -/
theorem Straight.orderly_of_isLongNumeral {parser : Parser α} (h : Straight parser) :
    Orderly IsLongNumeral parser :=
  h.orderly fun _ _ _ hlong => hlong

/-- What is combined stops at a numeral that is too long or for a reason of a mapping. -/
theorem Built.orderly {faults : Fault → Prop} {allowed : Text → Nat → Fault → Prop}
    {parser : Parser α} (h : Built faults parser)
    (hnumber : ∀ source place cause, IsLongNumeral source place cause →
      allowed source place cause)
    (hfaults : ∀ source place cause, faults cause → allowed source place cause) :
    Orderly allowed parser := by
  induction h with
  | straight h => exact h.orderly hnumber
  | bind _ _ ihfirst ihnext => exact ihfirst.bind ihnext
  | transform _ htreat ih =>
    exact ih.transform fun value cause hvalue source place =>
      hfaults source place cause (htreat value cause hvalue)
  | optional _ ih => exact ih.optional
  | oneOf _ ih => exact Orderly.oneOf ih
  | many _ _ ihelement ihseparator => exact ihelement.many ihseparator

/-- What is combined without mappings stops at a numeral that is too long only. -/
theorem Built.orderly_of_isLongNumeral {parser : Parser α}
    (h : Built (fun _ => False) parser) : Orderly IsLongNumeral parser :=
  h.orderly (fun _ _ _ h => h) fun _ _ _ h => h.elim

/-! ## Rounds enough -/

/-- A whole text is granted more rounds than a beginning of it has characters. -/
theorem length_lt_allowance_append (source more : Text) (offset : Int) :
    source.length < allowance (source ++ more) offset := by
  unfold allowance
  rw [List.length_append]
  omega

/-- A text is granted more rounds than it has characters. -/
theorem length_lt_allowance (source : Text) (offset : Int) :
    source.length < allowance source offset := by
  have h := length_lt_allowance_append source [] offset
  rwa [List.append_nil] at h

/-- How many places there are from an offset to the end of a text. Beyond the end there are
none. -/
def placesLeft (source : Text) (offset : Int) : Nat := (source.length - offset).toNat

/-- From a place counted from the beginning, the places left are the characters ahead. -/
theorem placesLeft_natCast (source : Text) (place : Nat) :
    placesLeft source place = source.length - place := by
  rw [placesLeft]
  omega

/-- Farther on there are no more places left. -/
theorem placesLeft_le_of_le (source : Text) {offset reached : Int} (h : offset ≤ reached) :
    placesLeft source reached ≤ placesLeft source offset :=
  Int.toNat_le_toNat (Int.sub_le_sub_left h _)

/-- Farther on within the source there are fewer places left. -/
theorem placesLeft_lt_of_lt {source : Text} {offset reached : Int} (h : offset < reached)
    (hreached : reached ≤ source.length) : placesLeft source reached < placesLeft source offset := by
  unfold placesLeft
  omega

/-- A way that has moved started within the source, and there are fewer places left behind it. -/
theorem LeadsForward.placesLeft_lt {source : Text} {offset reached : Int}
    (h : LeadsForward source offset reached) (hmove : reached ≠ offset) :
    placesLeft source reached < placesLeft source offset := by
  obtain ⟨hle, hmax⟩ := h
  exact placesLeft_lt_of_lt (by omega) (by omega)

/-- From every offset the reply is the same for all allowances that exceed the number of places
left. -/
def Steady (parser : Parser α) : Prop :=
  ∀ (source : Text) (offset : Int) (rounds rounds' : Nat), placesLeft source offset < rounds →
    placesLeft source offset < rounds' →
    parser.run rounds source offset = parser.run rounds' source offset

/-- A chain replies the same with all allowances if its parts do and the first one does not go back.
-/
theorem Steady.bind {first : Parser α} {next : α → Parser β} (hfirst : Steady first)
    (hforward : Forward first) (hnext : ∀ a, Steady (next a)) : Steady (first >>= next) := by
  intro source offset rounds rounds' hrounds hrounds'
  have hsame := hfirst source offset rounds rounds' hrounds hrounds'
  rcases run_bind_cases first next rounds source offset with
    ⟨value, reached, hf, hb⟩ | ⟨reached, hf, hb⟩ | ⟨cause, reached, hf, hb⟩
  · -- fewer places are left behind the first part
    have hleft := placesLeft_le_of_le source (hforward hf).le
    rw [hsame] at hf
    rw [hb, run_bind_accept rounds' source offset hf,
      hnext value source reached rounds rounds' (by omega) (by omega)]
  · rw [hsame] at hf
    rw [hb, run_bind_reject rounds' source offset hf]
  · rw [hsame] at hf
    rw [hb, run_bind_fault rounds' source offset hf]

theorem Steady.transform {parser : Parser α} (h : Steady parser) (treat : α → Verdict β) :
    Steady (parser.transform treat) := by
  intro source offset rounds rounds' hrounds hrounds'
  simp only [Parser.transform, h source offset rounds rounds' hrounds hrounds']

/-- An optional part has no rounds of its own. -/
theorem Steady.optional {parser : Parser α} (h : Steady parser) : Steady parser.optional := by
  intro source offset rounds rounds' hrounds hrounds'
  simp only [Parser.optional, h source offset rounds rounds' hrounds hrounds']

theorem Steady.oneOf {alternatives : List (Parser α)}
    (h : ∀ alternative ∈ alternatives, Steady alternative) : Steady (oneOf alternatives) := by
  intro source offset rounds rounds' hrounds hrounds'
  induction alternatives with
  | nil => rfl
  | cons alternative others ih =>
    have hothers := ih fun other hother => h other (List.mem_cons_of_mem alternative hother)
    have hsame := h alternative List.mem_cons_self source offset rounds rounds' hrounds hrounds'
    simp only [Parser.oneOf, hsame, hothers]

/-- From any of its rounds on, a repetition replies the same with all allowances that exceed
the places left, both for its own rounds and for those of its parts. The next round starts
farther on, so fewer places and fewer rounds are left for it together. -/
theorem manyFrom_steady {element : Parser α} {separator : Parser β}
    (helement : Steady element) (hforward : Forward element)
    (hseparator : Steady separator) (hforward' : Forward separator)
    {rounds rounds' : Nat} {source : Text} (left left' : Nat) (committed : Int) {head : Int}
    (found : List α) (hrounds : placesLeft source head < rounds)
    (hrounds' : placesLeft source head < rounds') (hleft : placesLeft source head < left)
    (hleft' : placesLeft source head < left') :
    manyFrom element separator rounds source left committed head found =
      manyFrom element separator rounds' source left' committed head found := by
  -- on the rounds that are left in one of the two runs. The invariant is in the hypotheses: the
  -- places left at the head are fewer than any of the four numbers of rounds
  induction left generalizing left' committed head found with
  | zero => exact absurd hleft (Nat.not_lt_zero _)
  | succ left ih =>
    obtain ⟨left', rfl⟩ : ∃ n, left' = n + 1 := ⟨left' - 1, by omega⟩
    rw [manyFrom, manyFrom, helement source head rounds rounds' hrounds hrounds']
    rcases he : element.run rounds' source head with ⟨verdict, reached⟩
    cases verdict with
    | reject => rfl
    | fault cause => rfl
    | accept value =>
      dsimp only
      have hway := hforward he
      have hreached := placesLeft_le_of_le source hway.le
      rw [hseparator source reached rounds rounds' (by omega) (by omega)]
      rcases hs : separator.run rounds' source reached with ⟨verdict, after⟩
      cases verdict with
      | reject => rfl
      | fault cause => rfl
      | accept gap =>
        dsimp only
        split
        · rfl
        · next hmove =>
          -- only a round that has moved goes on, so a place less is left for it
          have hafter := (hway.trans (hforward' hs)).placesLeft_lt hmove
          exact ih left' reached (value :: found) (by omega) (by omega) (by omega) (by omega)

/-- A repetition replies the same with all allowances that exceed the places left: each of its
rounds takes one of them. -/
theorem Steady.many {element : Parser α} {separator : Parser β}
    (helement : Steady element) (hforward : Forward element)
    (hseparator : Steady separator) (hforward' : Forward separator) :
    Steady (many element separator) := by
  intro source offset rounds rounds' hrounds hrounds'
  exact manyFrom_steady helement hforward hseparator hforward' rounds rounds' offset []
    hrounds hrounds' hrounds hrounds'

/-- What is put in sequence from scanning parsers has no use for rounds. -/
theorem Straight.steady {parser : Parser α} (h : Straight parser) : Steady parser := by
  induction h with
  | pure | literal | takeWhile | through | number => exact fun _ _ _ _ _ _ => rfl
  | bind hfirst _ ihfirst ihnext => exact ihfirst.bind hfirst.forward ihnext

/-- Whatever is combined from scanning parsers needs no more rounds than there are places left,
and one. -/
theorem Built.steady {faults : Fault → Prop} {parser : Parser α} (h : Built faults parser) :
    Steady parser := by
  induction h with
  | straight h => exact h.steady
  | bind hfirst _ ihfirst ihnext => exact ihfirst.bind hfirst.forward ihnext
  | transform _ _ ih => exact ih.transform _
  | optional _ ih => exact ih.optional
  | oneOf _ ih => exact Steady.oneOf ih
  | many helement hseparator ihelement ihseparator =>
    exact ihelement.many helement.forward ihseparator hseparator.forward

/-! ## Lists that are not too long -/

/-- From any of its rounds on, a repetition finds at most one element for each place left, and
one more: every round but the last starts farther on than the one before. -/
theorem length_le_of_manyFrom {element : Parser α} {separator : Parser β}
    (helement : Forward element) (hseparator : Forward separator) {rounds : Nat} {source : Text}
    (left : Nat) {committed reached head : Int} {found values : List α}
    (h : manyFrom element separator rounds source left committed head found =
      ⟨.accept values, reached⟩) :
    values.length ≤ found.length + placesLeft source head + 1 := by
  -- on the rounds that are left, with the elements found so far
  induction left generalizing committed head found with
  | zero => cases h
  | succ left ih =>
    rcases manyFrom_succ_cases element separator rounds source left committed head found with
      ⟨_, -, hm⟩ | ⟨cause, _, -, hm⟩ | ⟨value, middle, hf, hround⟩
    · rw [hm] at h
      cases h
      rw [List.length_reverse]
      omega
    · rw [hm] at h
      cases h
    · rcases hround with ⟨_, -, hm⟩ | ⟨cause, _, -, hm⟩ | ⟨_, -, hm⟩ | ⟨_, after, hg, hmove, hm⟩
      · rw [hm] at h
        cases h
        rw [List.length_reverse, List.length_cons]
        omega
      · rw [hm] at h
        cases h
      · rw [hm] at h
        cases h
        rw [List.length_reverse, List.length_cons]
        omega
      · -- the round has moved, so the later ones have a place less for their elements
        have hafter := ((helement hf).trans (hseparator hg)).placesLeft_lt hmove
        rw [hm] at h
        have hrest := ih h
        rw [List.length_cons] at hrest
        omega

/-- A repetition that starts at an offset finds at most as many elements as there are places left
from there on, and one more. -/
theorem length_le_of_many {element : Parser α} {separator : Parser β} (helement : Forward element)
    (hseparator : Forward separator) {rounds : Nat} {source : Text} {offset reached : Int}
    {values : List α}
    (h : (many element separator).run rounds source offset = ⟨.accept values, reached⟩) :
    values.length ≤ placesLeft source offset + 1 := by
  have hle := length_le_of_manyFrom helement hseparator rounds h
  rwa [List.length_nil, Nat.zero_add] at hle

end Famix.Parser
