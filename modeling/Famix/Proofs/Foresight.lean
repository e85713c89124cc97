/-
Parsers see what lies ahead of them and nothing else.

A parser is given the whole source and a place in it, works with places throughout, and goes
back to places it has kept. All the same it is `Memoryless`: from two places with the same text
ahead, be it of one source or of two, it gives the same verdict after the same number of steps.
The two runs go side by side, and after every step the same text lies ahead of both again
(`Text.unread_add_eq_unread_add`), beyond the end of the source as well.

That takes parsers which only move forward, but not well-behaved ones. `Advancing` are the
combinations of scanning parsers with mappings of any kind and with leaps that lead forward, and
`Memoryless` is put together along them.
-/
import Famix.Proofs.Parts

set_option autoImplicit false

namespace Famix

variable {α β : Type}

namespace Text

/-! ## The same text ahead -/

/-- To drop so many characters and then some more is to drop all of them, if they are there. -/
theorem dropExactly_add (text : Text) (count steps : Nat) :
    dropExactly text (count + steps) = (dropExactly text count).bind (dropExactly · steps) := by
  -- on the characters that are dropped first
  induction count generalizing text with
  | zero => rw [Nat.zero_add, dropExactly, Option.bind_some]
  | succ count ih =>
    rw [Nat.add_right_comm]
    cases text with
    | nil => rfl
    | cons c text => exact ih text

/-- What lies ahead after some steps is a matter of what lies ahead before them. -/
theorem unread_natCast_add (text : Text) (place steps : Nat) :
    unread text (place + steps : Nat) = (unread text place).bind (dropExactly · steps) :=
  dropExactly_add text place steps

/-- From two places with the same text ahead, the same number of steps leads to two such places. -/
theorem unread_add_eq_unread_add {source other : Text} {place place' : Nat}
    (h : unread source place = unread other place') (steps : Nat) :
    unread source (place + steps : Nat) = unread other (place' + steps : Nat) := by
  rw [unread_natCast_add, unread_natCast_add, h]

/-- Nothing lies ahead of a place beyond the end, not even the empty text. -/
theorem unread_natCast_eq_none_iff {text : Text} {place : Nat} :
    unread text place = none ↔ text.length < place := by
  rw [unread, position_natCast]
  constructor
  · intro h
    by_contra hle
    rw [dropExactly_of_le (Nat.not_lt.mp hle)] at h
    cases h
  · exact dropExactly_of_lt

/-- Beyond the end there are no characters to meet. -/
theorem getD_unread (text : Text) (place : Nat) :
    (unread text place).getD [] = text.drop place := by
  rw [unread, position_natCast]
  rcases Nat.lt_or_ge text.length place with hlt | hle
  · rw [dropExactly_of_lt hlt, List.drop_of_length_le (Nat.le_of_lt hlt), Option.getD_none]
  · rw [dropExactly_of_le hle, Option.getD_some]

/-- With the same text ahead there are the same characters to meet. -/
theorem drop_eq_drop_of_unread_eq {source other : Text} {place place' : Nat}
    (h : unread source place = unread other place') : source.drop place = other.drop place' := by
  rw [← getD_unread, h, getD_unread]

/-- Within two sources, the same text lies ahead if the same characters do. -/
theorem unread_eq_unread_of_drop_eq {source other : Text} {place place' : Nat}
    (hplace : place ≤ source.length) (hplace' : place' ≤ other.length)
    (h : source.drop place = other.drop place') : unread source place = unread other place' := by
  rw [unread_of_le hplace, unread_of_le hplace', h]

end Text

namespace Parser

/-! ## Parsers that only move forward -/

/-- The parsers that are combined from scanning parsers and leaps forward, with any mappings. -/
inductive Advancing : {α : Type} → Parser α → Prop
  | straight {α : Type} {parser : Parser α} (h : Straight parser) : Advancing parser
  | leap (shift : Nat) (accepts : Bool) : Advancing (leap shift accepts)
  | bind {α β : Type} {first : Parser α} {next : α → Parser β} (hfirst : Advancing first)
    (hnext : ∀ a, Advancing (next a)) : Advancing (first >>= next)
  | transform {α β : Type} {parser : Parser α} (hparser : Advancing parser)
    (treat : α → Verdict β) : Advancing (parser.transform treat)
  | optional {α : Type} {parser : Parser α} (hparser : Advancing parser) :
    Advancing parser.optional
  | oneOf {α : Type} {alternatives : List (Parser α)}
    (h : ∀ alternative ∈ alternatives, Advancing alternative) : Advancing (oneOf alternatives)
  | many {α β : Type} {element : Parser α} {separator : Parser β} (helement : Advancing element)
    (hseparator : Advancing separator) : Advancing (many element separator)

/-- Without leaps all combinations move forward. -/
theorem Built.advancing {faults : Fault → Prop} {parser : Parser α} (h : Built faults parser) :
    Advancing parser := by
  induction h with
  | straight h => exact .straight h
  | bind _ _ ihfirst ihnext => exact .bind ihfirst ihnext
  | transform _ _ ih => exact .transform ih _
  | optional _ ih => exact .optional ih
  | oneOf _ ih => exact .oneOf ih
  | many _ _ ihelement ihseparator => exact .many ihelement ihseparator

/-- A sequence only moves forward if its parts do. -/
theorem advancing_sequence {parts : List (Parser α)} (h : ∀ part ∈ parts, Advancing part) :
    Advancing (sequence parts) := by
  induction parts with
  | nil => exact .straight (.pure [])
  | cons part parts ih =>
    have hrest := ih fun other hother => h other (List.mem_cons_of_mem part hother)
    exact .bind (h part List.mem_cons_self) fun value => .bind hrest fun values =>
      .straight (.pure (value :: values))

/-! ## Runs side by side -/

/-- From places with the same text ahead, the verdict is the same after the same number of
steps. -/
def Memoryless (parser : Parser α) : Prop :=
  ∀ (rounds : Nat) (source other : Text) (place place' : Nat),
    Text.unread source place = Text.unread other place' →
    ∃ (verdict : Verdict α) (steps : Nat),
      parser.run rounds source place = ⟨verdict, (place + steps : Nat)⟩ ∧
      parser.run rounds other place' = ⟨verdict, (place' + steps : Nat)⟩

/-- A known run from one place is the run from every other place with the same text ahead. -/
theorem Memoryless.run_eq {parser : Parser α} (h : Memoryless parser) {rounds : Nat}
    {source other : Text} {place place' : Nat} {verdict : Verdict α} {steps : Nat}
    (hahead : Text.unread source place = Text.unread other place')
    (hrun : parser.run rounds source place = ⟨verdict, (place + steps : Nat)⟩) :
    parser.run rounds other place' = ⟨verdict, (place' + steps : Nat)⟩ := by
  obtain ⟨verdict', steps', hsource, hother⟩ := h rounds source other place place' hahead
  rw [hrun] at hsource
  obtain ⟨rfl, hsteps⟩ := Reply.mk.inj hsource
  obtain rfl : steps = steps' := by omega
  exact hother

/-- A value given for nothing looks at nothing. -/
theorem memoryless_pure (value : α) : Memoryless (pure value) := by
  intro rounds source other place place' _
  exact ⟨.accept value, 0, rfl, rfl⟩

/-- A fixed text is compared with what lies ahead. Behind the end it is rejected even if it is
empty. -/
theorem memoryless_literal (text : Text) : Memoryless (literal text) := by
  intro rounds source other place place' hahead
  rcases hother : Text.unread other place' with _ | ahead
  · rw [hother] at hahead
    rw [run_literal_of_none rounds text hahead, run_literal_of_none rounds text hother]
    exact ⟨.reject, 0, rfl, rfl⟩
  · rw [hother] at hahead
    rw [run_literal rounds text hahead, run_literal rounds text hother]
    by_cases hprefix : text.isPrefixOf ahead = true
    · rw [if_pos hprefix, if_pos hprefix]
      exact ⟨.accept text, text.length, rfl, rfl⟩
    · rw [if_neg hprefix, if_neg hprefix]
      exact ⟨.reject, 0, rfl, rfl⟩

/-- A run consists of the characters ahead, and there are none behind the end. -/
theorem memoryless_takeWhile (belongs : Char → Bool) : Memoryless (takeWhile belongs) := by
  intro rounds source other place place' hahead
  rw [run_takeWhile, run_takeWhile, Text.drop_eq_drop_of_unread_eq hahead]
  exact ⟨_, _, rfl, rfl⟩

/-- A delimiter is looked for ahead only. -/
theorem memoryless_through (delimiter : Text) : Memoryless (through delimiter) := by
  intro rounds source other place place' hahead
  rcases hother : Text.unread other place' with _ | ahead
  · rw [hother] at hahead
    rw [run_through_of_none rounds delimiter hahead, run_through_of_none rounds delimiter hother]
    exact ⟨.reject, 0, rfl, rfl⟩
  · rw [hother] at hahead
    rw [run_through rounds delimiter hahead, run_through rounds delimiter hother]
    rcases Text.upThrough delimiter ahead with _ | piece
    · exact ⟨.reject, 0, rfl, rfl⟩
    · exact ⟨.accept piece, piece.length, rfl, rfl⟩

/-- A number looks at the digits ahead, and a fault says how many there are but not where. -/
theorem memoryless_number : Memoryless number := by
  intro rounds source other place place' hahead
  rw [run_number, run_number, Text.drop_eq_drop_of_unread_eq hahead]
  dsimp only
  by_cases hnone : (other.drop place').takeWhile Char.isDigit = []
  · rw [if_pos hnone, if_pos hnone]
    exact ⟨.reject, 0, rfl, rfl⟩
  · rw [if_neg hnone, if_neg hnone]
    by_cases hlong : maxDigits < ((other.drop place').takeWhile Char.isDigit).length
    · rw [if_pos hlong, if_pos hlong]
      exact ⟨_, 0, rfl, rfl⟩
    · rw [if_neg hlong, if_neg hlong]
      exact ⟨_, _, rfl, rfl⟩

/-- A leap does not look at the text at all. -/
theorem memoryless_leap (shift : Nat) (accepts : Bool) : Memoryless (leap shift accepts) := by
  intro rounds source other place place' _
  refine ⟨if accepts then .accept (.text "rogue".toList) else .reject, shift, ?_, ?_⟩
  · rw [Int.natCast_add]
    rfl
  · rw [Int.natCast_add]
    rfl

/-- A chain goes side by side if its parts do. -/
theorem Memoryless.bind {first : Parser α} {next : α → Parser β} (hfirst : Memoryless first)
    (hnext : ∀ a, Memoryless (next a)) : Memoryless (first >>= next) := by
  intro rounds source other place place' hahead
  obtain ⟨verdict, steps, hf, hf'⟩ := hfirst rounds source other place place' hahead
  -- the first parts end with the same verdict, and only one that was accepted is followed by a
  -- second part
  cases verdict with
  | reject =>
    rw [run_bind_reject rounds source place hf, run_bind_reject rounds other place' hf']
    exact ⟨.reject, 0, rfl, rfl⟩
  | fault cause =>
    rw [run_bind_fault rounds source place hf, run_bind_fault rounds other place' hf']
    exact ⟨.fault cause, steps, rfl, rfl⟩
  | accept value =>
    rw [run_bind_accept rounds source place hf, run_bind_accept rounds other place' hf']
    -- the second parts start side by side again
    obtain ⟨verdict, more, hn, hn'⟩ := hnext value rounds source other _ _
      (Text.unread_add_eq_unread_add hahead steps)
    rw [hn, hn', Nat.add_assoc place, Nat.add_assoc place']
    cases verdict with
    | accept result => exact ⟨.accept result, steps + more, rfl, rfl⟩
    | reject => exact ⟨.reject, 0, rfl, rfl⟩
    | fault cause => exact ⟨.fault cause, steps + more, rfl, rfl⟩

/-- A mapping is given the value and not the place. -/
theorem Memoryless.transform {parser : Parser α} (h : Memoryless parser) (treat : α → Verdict β) :
    Memoryless (parser.transform treat) := by
  intro rounds source other place place' hahead
  obtain ⟨verdict, steps, hp, hp'⟩ := h rounds source other place place' hahead
  simp only [Parser.transform, hp, hp']
  cases verdict with
  | accept value => exact ⟨treat value, steps, rfl, rfl⟩
  | reject => exact ⟨.reject, steps, rfl, rfl⟩
  | fault cause => exact ⟨.fault cause, steps, rfl, rfl⟩

/-- An optional part goes back by as many steps as it had made. -/
theorem Memoryless.optional {parser : Parser α} (h : Memoryless parser) :
    Memoryless parser.optional := by
  intro rounds source other place place' hahead
  obtain ⟨verdict, steps, hp, hp'⟩ := h rounds source other place place' hahead
  simp only [Parser.optional, hp, hp']
  cases verdict with
  | accept value => exact ⟨.accept (some value), steps, rfl, rfl⟩
  | reject => exact ⟨.accept none, 0, rfl, rfl⟩
  | fault cause => exact ⟨.fault cause, steps, rfl, rfl⟩

/-- The alternatives of a choice are tried side by side. -/
theorem Memoryless.oneOf {alternatives : List (Parser α)}
    (h : ∀ alternative ∈ alternatives, Memoryless alternative) :
    Memoryless (oneOf alternatives) := by
  intro rounds source other place place' hahead
  induction alternatives with
  | nil => exact ⟨.reject, 0, rfl, rfl⟩
  | cons alternative others ih =>
    obtain ⟨verdict, steps, hp, hp'⟩ :=
      h alternative List.mem_cons_self rounds source other place place' hahead
    simp only [Parser.oneOf, hp, hp']
    cases verdict with
    | accept value => exact ⟨.accept value, steps, rfl, rfl⟩
    | reject => exact ih fun later hlater => h later (List.mem_cons_of_mem _ hlater)
    | fault cause => exact ⟨.fault cause, steps, rfl, rfl⟩

/-- From any of their rounds on, two repetitions go side by side: they have committed to as many
characters and look for the next element equally far ahead. -/
theorem manyFrom_memoryless {element : Parser α} {separator : Parser β}
    (helement : Memoryless element) (hseparator : Memoryless separator) (rounds : Nat)
    {source other : Text} {place place' : Nat}
    (hahead : Text.unread source place = Text.unread other place') (left committed head : Nat)
    (found : List α) :
    ∃ (verdict : Verdict (List α)) (steps : Nat),
      manyFrom element separator rounds source left (place + committed : Nat)
        (place + head : Nat) found = ⟨verdict, (place + steps : Nat)⟩ ∧
      manyFrom element separator rounds other left (place' + committed : Nat)
        (place' + head : Nat) found = ⟨verdict, (place' + steps : Nat)⟩ := by
  -- on the rounds that are left, with the two places that a round keeps as steps from where the
  -- repetitions started
  induction left generalizing committed head found with
  | zero => exact ⟨.fault .endless, head, rfl, rfl⟩
  | succ left ih =>
    obtain ⟨verdict, steps, he, he'⟩ := helement rounds source other (place + head) (place' + head)
      (Text.unread_add_eq_unread_add hahead head)
    rw [manyFrom, manyFrom, he, he']
    cases verdict with
    | reject => exact ⟨.accept found.reverse, committed, rfl, rfl⟩
    | fault cause =>
      rw [Nat.add_assoc place, Nat.add_assoc place']
      exact ⟨.fault cause, head + steps, rfl, rfl⟩
    | accept value =>
      rw [Nat.add_assoc place, Nat.add_assoc place']
      obtain ⟨verdict, more, hs, hs'⟩ := hseparator rounds source other
        (place + (head + steps)) (place' + (head + steps))
        (Text.unread_add_eq_unread_add hahead (head + steps))
      dsimp only
      rw [hs, hs', Nat.add_assoc place, Nat.add_assoc place']
      cases verdict with
      | reject => exact ⟨.accept (value :: found).reverse, head + steps, rfl, rfl⟩
      | fault cause => exact ⟨.fault cause, head + steps + more, rfl, rfl⟩
      | accept gap =>
        dsimp only
        -- whether a round has moved is the same question in both runs
        by_cases hmove : steps + more = 0
        · rw [if_pos (by omega), if_pos (by omega)]
          exact ⟨.accept (value :: found).reverse, head + steps, rfl, rfl⟩
        · rw [if_neg (by omega), if_neg (by omega)]
          exact ih (head + steps) (head + steps + more) (value :: found)

/-- A repetition goes side by side if its element and its separator do. -/
theorem Memoryless.many {element : Parser α} {separator : Parser β}
    (helement : Memoryless element) (hseparator : Memoryless separator) :
    Memoryless (many element separator) := by
  intro rounds source other place place' hahead
  exact manyFrom_memoryless helement hseparator rounds hahead rounds 0 0 []

/-- What is put in sequence from scanning parsers looks at what lies ahead only. -/
theorem Straight.memoryless {parser : Parser α} (h : Straight parser) : Memoryless parser := by
  induction h with
  | pure value => exact memoryless_pure value
  | literal text => exact memoryless_literal text
  | takeWhile belongs => exact memoryless_takeWhile belongs
  | through delimiter => exact memoryless_through delimiter
  | number => exact memoryless_number
  | bind _ _ ihfirst ihnext => exact ihfirst.bind ihnext

/-- Whatever moves forward only looks at what lies ahead only. -/
theorem Advancing.memoryless {parser : Parser α} (h : Advancing parser) : Memoryless parser := by
  induction h with
  | straight h => exact h.memoryless
  | leap shift accepts => exact memoryless_leap shift accepts
  | bind _ _ ihfirst ihnext => exact ihfirst.bind ihnext
  | transform _ treat ih => exact ih.transform treat
  | optional _ ih => exact ih.optional
  | oneOf _ ih => exact Memoryless.oneOf ih
  | many _ _ ihelement ihseparator => exact ihelement.many ihseparator

end Parser

end Famix
