/-
A repetition and its plain form.

Repeating an element with separators in between is the same as reading one element, if there is
one, and then repeating a separator together with an element, without separators between these
pairs (`unrolled`). The repetition keeps its own record of what it has committed to, and gives a
separator back by going to the end of the last element. In the plain form the same is left to the
sequence that a pair is: it rejects where the separator began.

The two run in step with each other, half a round apart: behind every element the one looks for a
separator and, a round later, for an element, the other for a pair. They commit to the same places
(`manyFrom_eq_pairs`). The elements have to move, or else the repetition would stop after a round
that led nowhere while a pair with a separator in it may go on.

All of it is said of every offset, those counted from the end included: what has moved has moved
forward from there too, and ends within the source.
-/
import Famix.Proofs.Rollback
import Famix.Proofs.Termination

set_option autoImplicit false

namespace Famix

variable {α β : Type}

/-- The second of two items. -/
def Value.second : Value → Value
  | tuple [_, value] => value
  | value => value

/-- The elements in the value of the plain form of a repetition: there are none, or a first one
and those behind separators. -/
def Value.gathered : Value → Value
  | absent => list []
  | tuple [first, list pairs] => list (first :: pairs.map second)
  | value => value

/-- A number that is accepted has moved. -/
theorem Parser.lt_of_run_number {rounds : Nat} {source : Text} {offset reached : Int} {n : Nat}
    (h : number.run rounds source offset = ⟨.accept n, reached⟩) : offset < reached := by
  simp only [number] at h
  split at h
  · split at h
    · cases h
    · next hdigits =>
      have hlength := List.length_pos_iff.mpr (mt List.isEmpty_iff.mpr hdigits)
      split at h
      · cases h
      · split at h
        · cases h
        · cases h
          omega
  · cases h

namespace Description

open Famix.Parser

/-- The plain form of a repetition: maybe an element, and then any number of separators with an
element behind each of them. -/
def unrolled (element separator : Description) : Description :=
  optional (sequence [element, many (sequence [separator, element]) noSeparator])

/-- Wherever the description accepts, it has moved. -/
def Moves (description : Description) : Prop :=
  ∀ (source : Text) (offset : Int) (value : Value),
    description.reader.replyAt source offset ≠ ⟨.accept value, offset⟩

/-- From `start` to an offset, elements have been accepted one after the other with separators
between them, the last one with its end at the offset. -/
inductive Strung (element separator : Description) (source : Text) (start : Int) :
    List Value → Int → Prop
  | first {value : Value} {reached : Int}
    (hvalue : element.reader.replyAt source start = ⟨.accept value, reached⟩) :
    Strung element separator source start [value] reached
  | next {values : List Value} {middle after reached : Int} {gap value : Value}
    (h : Strung element separator source start values middle)
    (hgap : separator.reader.replyAt source middle = ⟨.accept gap, after⟩)
    (hvalue : element.reader.replyAt source after = ⟨.accept value, reached⟩) :
    Strung element separator source start (values ++ [value]) reached

/-! ## Descriptions without leaps -/

theorem leapFree_pair {first second : Description} (hfirst : first.LeapFree)
    (hsecond : second.LeapFree) : (sequence [first, second]).LeapFree := by
  intro part hpart
  simp only [parts, allParts, List.append_nil, List.mem_cons, List.mem_append] at hpart
  rcases hpart with rfl | hpart | hpart
  · rfl
  · exact hfirst part hpart
  · exact hsecond part hpart

theorem leapFree_many {element separator : Description} (helement : element.LeapFree)
    (hseparator : separator.LeapFree) : (many element separator).LeapFree := by
  intro part hpart
  simp only [parts, List.mem_cons, List.mem_append] at hpart
  rcases hpart with rfl | hpart | hpart
  · rfl
  · exact helement part hpart
  · exact hseparator part hpart

theorem leapFree_unrolled {element separator : Description} (helement : element.LeapFree)
    (hseparator : separator.LeapFree) : (unrolled element separator).LeapFree := by
  have hpairs := leapFree_many (leapFree_pair hseparator helement)
    (show noSeparator.LeapFree by decide)
  intro part hpart
  rcases List.mem_cons.mp hpart with rfl | hpart
  · rfl
  · exact leapFree_pair helement hpairs part hpart

/-- An element that is accepted and has moved has moved forward, so there was something ahead of
it, and it ends within the source. -/
theorem Moves.lt_of_accept {element : Description} (hmoves : element.Moves)
    (h : element.LeapFree) {rounds : Nat} {source : Text} {head reached : Int} {value : Value}
    (hrounds : placesLeft source head < rounds)
    (hrun : element.parser.run rounds source head = ⟨.accept value, reached⟩) :
    head < reached ∧ reached ≤ source.length := by
  obtain ⟨hle, hmax⟩ := h.built.forward hrun
  rw [h.run_eq_replyAt hrounds] at hrun
  have hne : reached ≠ head := by
    rintro rfl
    exact hmoves source reached value hrun
  exact ⟨by omega, by omega⟩

/-! ## Pairs -/

/-- A pair goes back to its start wherever it rejects. -/
theorem run_pair (first second : Description) (rounds : Nat) (source : Text) (offset : Int) :
    (sequence [first, second]).parser.run rounds source offset =
      match first.parser.run rounds source offset with
      | ⟨.accept a, middle⟩ =>
        ((second.parser.run rounds source middle).map fun b => .tuple [a, b]).rollback offset
      | ⟨.reject, _⟩ => ⟨.reject, offset⟩
      | ⟨.fault cause, reached⟩ => ⟨.fault cause, reached⟩ := by
  rw [parser, run_transform_accept, parsers, run_sequence_cons]
  rcases first.parser.run rounds source offset with ⟨verdict, middle⟩
  cases verdict with
  | reject => rfl
  | fault cause => rfl
  | accept a =>
    dsimp only
    rw [parsers, parsers, run_sequence_cons]
    rcases second.parser.run rounds source middle with ⟨verdict, reached⟩
    cases verdict with
    | accept b => rfl
    | reject => rfl
    | fault cause => rfl

/-- An optional part accepts nothing where the part rejects. -/
theorem run_optional (part : Description) (rounds : Nat) (source : Text) (offset : Int) :
    (optional part).parser.run rounds source offset =
      match part.parser.run rounds source offset with
      | ⟨.reject, _⟩ => ⟨.accept .absent, offset⟩
      | reply => reply := by
  rw [parser, run_transform_accept]
  rcases run_optional_cases part.parser rounds source offset with
    ⟨value, reached, hp, ho⟩ | ⟨reached, hp, ho⟩ | ⟨cause, reached, hp, ho⟩
  · rw [ho, hp]
    rfl
  · rw [ho, hp]
    rfl
  · rw [ho, hp]
    rfl

theorem run_many (element separator : Description) (rounds : Nat) (source : Text) (offset : Int) :
    (many element separator).parser.run rounds source offset =
      (manyFrom element.parser separator.parser rounds source rounds offset offset []).map .list :=
  run_transform_accept _ _ rounds source offset

section

variable {element separator : Description} (helement : element.LeapFree)
  (hseparator : separator.LeapFree) (hmoves : element.Moves) {rounds : Nat} {source : Text}

include helement hseparator hmoves

/-- Behind an element that has been accepted, a repetition does what a pair of a separator and an
element does there: it ends where the pair rejects, stops where the pair stops, and goes on behind
the element of the pair. -/
theorem manyFrom_behind_element (left : Nat) (committed : Int) {head reached : Int} {value : Value}
    (before : List Value)
    (hrun : element.parser.run rounds source head = ⟨.accept value, reached⟩)
    (hhead : head < reached) (hrounds : placesLeft source reached < rounds) :
    ((sequence [separator, element]).parser.run rounds source reached = ⟨.reject, reached⟩ ∧
      manyFrom element.parser separator.parser rounds source (left + 2) committed head before =
        ⟨.accept (value :: before).reverse, reached⟩) ∨
    (∃ cause stop, (sequence [separator, element]).parser.run rounds source reached =
        ⟨.fault cause, stop⟩ ∧
      manyFrom element.parser separator.parser rounds source (left + 2) committed head before =
        ⟨.fault cause, stop⟩) ∨
    (∃ (gap next : Value) (after stop : Int), reached ≤ after ∧ after < stop ∧
      stop ≤ source.length ∧
      separator.parser.run rounds source reached = ⟨.accept gap, after⟩ ∧
      element.parser.run rounds source after = ⟨.accept next, stop⟩ ∧
      (sequence [separator, element]).parser.run rounds source reached =
        ⟨.accept (.tuple [gap, next]), stop⟩ ∧
      manyFrom element.parser separator.parser rounds source (left + 2) committed head before =
        manyFrom element.parser separator.parser rounds source (left + 1) reached after
          (value :: before)) := by
  rw [run_pair]
  rcases hs : separator.parser.run rounds source reached with ⟨verdict, offset⟩
  cases verdict with
  | reject => exact .inl ⟨rfl, manyFrom_of_last (left + 1) committed before hrun ⟨_, hs⟩⟩
  | fault cause => exact .inr (.inl ⟨cause, offset, rfl, by simp only [manyFrom, hrun, hs]⟩)
  | accept gap =>
    have hafter := (hseparator.built.forward hs).le
    -- the element has moved, so the repetition goes on even behind an empty separator
    rw [manyFrom_of_next (left + 1) committed before hrun hs (by omega)]
    dsimp only
    rcases he : element.parser.run rounds source offset with ⟨verdict, stop⟩
    cases verdict with
    | reject => exact .inl ⟨rfl, manyFrom_of_reject left reached (value :: before) ⟨_, he⟩⟩
    | fault cause => exact .inr (.inl ⟨cause, stop, rfl, by simp only [manyFrom, he]⟩)
    | accept next =>
      have hleft := placesLeft_le_of_le source hafter
      obtain ⟨hstop, hend⟩ := hmoves.lt_of_accept helement (by omega) he
      exact .inr (.inr ⟨gap, next, offset, stop, hafter, hstop, hend, rfl, he, rfl, rfl⟩)

/-- From the end of an element on, a repetition finds the elements of the pairs that the plain
form finds from there on, and leaves off at the same place. -/
theorem manyFrom_eq_pairs (left left' : Nat) {committed head reached : Int}
    {first value : Value} {before pairs : List Value}
    (hvalues : value :: before = pairs.map Value.second ++ [first])
    (hrun : element.parser.run rounds source head = ⟨.accept value, reached⟩)
    (hhead : head < reached) (hrounds : placesLeft source reached < rounds)
    (hleft : placesLeft source reached < left)
    (hleft' : placesLeft source reached < left') :
    manyFrom element.parser separator.parser rounds source (left + 1) committed head before =
      (manyFrom (sequence [separator, element]).parser noSeparator.parser rounds source left'
        reached reached pairs).map fun pairs => first :: pairs.map Value.second := by
  -- a round of the one is half of a round and half of the next one of the other, so each of them
  -- has its own number of rounds left
  induction left generalizing left' committed head reached value before pairs with
  | zero => exact absurd hleft (Nat.not_lt_zero _)
  | succ left ih =>
    obtain ⟨left', rfl⟩ : ∃ n, left' = n + 1 := ⟨left' - 1, by omega⟩
    have hfound : (value :: before).reverse = first :: pairs.reverse.map Value.second := by
      rw [hvalues, List.reverse_append, ← List.map_reverse]
      rfl
    rcases manyFrom_behind_element helement hseparator hmoves left committed before hrun hhead
      hrounds with ⟨hpair, hm⟩ | ⟨cause, stop, hpair, hm⟩ |
        ⟨gap, next, after, stop, hafter, hstop, hend, -, he, hpair, hm⟩
    · rw [hm, manyFrom_of_reject left' reached pairs ⟨_, hpair⟩, hfound]
      rfl
    · rw [hm, manyFrom, hpair]
      rfl
    · -- within the source, no separator is a separator
      have hstill : noSeparator.parser.run rounds source stop = ⟨.accept (.text []), stop⟩ := by
        rw [run_noSeparator, if_pos hend]
      have hfewer : placesLeft source stop < placesLeft source reached :=
        placesLeft_lt_of_lt (by omega) hend
      rw [hm, manyFrom_of_next left' reached pairs hpair hstill (by omega)]
      apply ih left' ?_ he hstop (by omega) (by omega) (by omega)
      rw [hvalues]
      rfl

/-- From the end of an element on, a repetition that accepts has strung together all elements, and
leaves off at the end of the last one, where no pair begins. -/
theorem strung_of_manyFrom {start : Int} (left : Nat) {committed offset head reached : Int}
    {value : Value} {before values : List Value}
    (hstrung : Strung element separator source start (value :: before).reverse reached)
    (hrun : element.parser.run rounds source head = ⟨.accept value, reached⟩)
    (hhead : head < reached) (hrounds : placesLeft source reached < rounds)
    (hleft : placesLeft source reached < left)
    (hmany : manyFrom element.parser separator.parser rounds source (left + 1) committed head
      before = ⟨.accept values, offset⟩) :
    Strung element separator source start values offset ∧
      (sequence [separator, element]).reader.replyAt source offset = ⟨.reject, offset⟩ := by
  have hpairs : (sequence [separator, element]).LeapFree := leapFree_pair hseparator helement
  induction left generalizing committed head reached value before with
  | zero => exact absurd hleft (Nat.not_lt_zero _)
  | succ left ih =>
    rcases manyFrom_behind_element helement hseparator hmoves left committed before hrun hhead
      hrounds with ⟨hpair, hm⟩ | ⟨cause, stop, -, hm⟩ |
        ⟨gap, next, after, stop, hafter, hstop, hend, hs, he, -, hm⟩
    · rw [hm] at hmany
      cases hmany
      rw [hpairs.run_eq_replyAt hrounds] at hpair
      exact ⟨hstrung, hpair⟩
    · rw [hm] at hmany
      cases hmany
    · rw [hm] at hmany
      -- `Strung` speaks of what the readers reply, which is the same
      have hgap := hs
      have hvalue := he
      have hless := placesLeft_le_of_le source hafter
      have hfewer : placesLeft source stop < placesLeft source reached :=
        placesLeft_lt_of_lt (by omega) hend
      rw [hseparator.run_eq_replyAt hrounds] at hgap
      rw [helement.run_eq_replyAt (by omega)] at hvalue
      have hnext := Strung.next hstrung hgap hvalue
      rw [← List.reverse_cons] at hnext
      exact ih hnext he hstop (by omega) (by omega) hmany

/-- With rounds enough, a repetition and its plain form reply alike. -/
theorem run_many_eq_unrolled {start : Int} (hrounds : placesLeft source start < rounds) :
    (many element separator).parser.run rounds source start =
      ((unrolled element separator).parser.run rounds source start).map Value.gathered := by
  obtain ⟨left, rfl⟩ : ∃ n, rounds = n + 1 := ⟨rounds - 1, by omega⟩
  rw [run_many, unrolled, run_optional, run_pair]
  rcases he : element.parser.run (left + 1) source start with ⟨verdict, reached⟩
  cases verdict with
  | reject =>
    rw [manyFrom_of_reject left start [] ⟨_, he⟩]
    rfl
  | fault cause =>
    rw [manyFrom, he]
    rfl
  | accept first =>
    obtain ⟨hhead, hreached⟩ := hmoves.lt_of_accept helement hrounds he
    have hfewer := placesLeft_lt_of_lt hhead hreached
    have hfirst : [first] = ([] : List Value).map Value.second ++ [first] := rfl
    have hpairs : manyFrom element.parser separator.parser (left + 1) source (left + 1) start start
        [] = _ :=
      manyFrom_eq_pairs helement hseparator hmoves left (left + 1) hfirst he hhead
        (by omega) (by omega) (by omega)
    dsimp only
    rw [hpairs, run_many]
    -- the plain form has nothing to take back, since repeating pairs never rejects
    have hne := manyFrom_ne_reject (sequence [separator, element]).parser noSeparator.parser
      (left + 1) source (left + 1) reached reached []
    rcases hm : manyFrom (sequence [separator, element]).parser noSeparator.parser (left + 1)
      source (left + 1) reached reached [] with ⟨verdict, offset⟩
    cases verdict with
    | accept pairs => rfl
    | reject => exact absurd hm (hne offset)
    | fault cause => rfl

/-- A list that a repetition accepts is empty, or it has been strung together. -/
theorem strung_of_run_many {start : Int} (hrounds : placesLeft source start < rounds)
    {values : List Value} {offset : Int}
    (hrun : (many element separator).parser.run rounds source start =
      ⟨.accept (.list values), offset⟩) :
    (values = [] ∧ offset = start ∧
      ∃ stop, element.reader.replyAt source start = ⟨.reject, stop⟩) ∨
    (Strung element separator source start values offset ∧
      (sequence [separator, element]).reader.replyAt source offset = ⟨.reject, offset⟩) := by
  obtain ⟨left, rfl⟩ : ∃ n, rounds = n + 1 := ⟨rounds - 1, by omega⟩
  rw [run_many] at hrun
  have hmany : manyFrom element.parser separator.parser (left + 1) source (left + 1) start start
      [] = ⟨.accept values, offset⟩ := by
    rcases hm : manyFrom element.parser separator.parser (left + 1) source (left + 1) start start
      [] with ⟨verdict, reached⟩
    rw [hm] at hrun
    cases verdict with
    | accept found =>
      cases hrun
      rfl
    | reject => cases hrun
    | fault cause => cases hrun
  have hsame := helement.run_eq_replyAt hrounds
  rcases he : element.parser.run (left + 1) source start with ⟨verdict, reached⟩
  cases verdict with
  | reject =>
    rw [manyFrom_of_reject left start [] ⟨_, he⟩] at hmany
    cases hmany
    exact .inl ⟨rfl, rfl, reached, hsame.symm.trans he⟩
  | fault cause =>
    rw [manyFrom, he] at hmany
    cases hmany
  | accept first =>
    obtain ⟨hhead, hreached⟩ := hmoves.lt_of_accept helement hrounds he
    have hfewer := placesLeft_lt_of_lt hhead hreached
    exact .inr (strung_of_manyFrom helement hseparator hmoves left
      (.first (hsame.symm.trans he)) he hhead (by omega) (by omega) hmany)

/-- **The plain form.** From every offset, a repetition of elements that move replies as its plain
form does, with the elements gathered. And if it accepts, then without having moved, because there
is no element, or with its elements strung together: then it leaves off at the end of the last one,
where there is no separator with another element behind it, and what there is of a separator is not
read. -/
theorem replyAt_many_eq_unrolled (source : Text) (start : Int) :
    (many element separator).reader.replyAt source start =
      ((unrolled element separator).reader.replyAt source start).map Value.gathered ∧
    ∀ (values : List Value) (offset : Int),
      (many element separator).reader.replyAt source start = ⟨.accept (.list values), offset⟩ →
      (values = [] ∧ offset = start ∧
        ∃ stop, element.reader.replyAt source start = ⟨.reject, stop⟩) ∨
      (Strung element separator source start values offset ∧
        (sequence [separator, element]).reader.replyAt source offset = ⟨.reject, offset⟩) := by
  have hrounds : placesLeft source start < placesLeft source start + 1 := Nat.lt_succ_self _
  rw [← (leapFree_many helement hseparator).run_eq_replyAt hrounds,
    ← (leapFree_unrolled helement hseparator).run_eq_replyAt hrounds]
  exact ⟨run_many_eq_unrolled helement hseparator hmoves hrounds,
    fun values offset => strung_of_run_many helement hseparator hmoves hrounds⟩

end

/-- A number has a digit at least, wherever it is read. -/
theorem moves_number : number.Moves := by
  intro source offset value hrun
  rcases run_transform_cases Parser.number (fun n => .accept (Value.number n))
    ((allowance source offset + number.reach) * (number.size + 2)) source offset with
    ⟨n, reached, hn, ht⟩ | ⟨reached, -, ht⟩ | ⟨cause, reached, -, ht⟩
  · obtain ⟨-, rfl⟩ := Reply.mk.inj (ht.symm.trans hrun)
    exact Int.lt_irrefl reached (lt_of_run_number hn)
  · cases ht.symm.trans hrun
  · cases ht.symm.trans hrun

/-- Numbers are repeated with commas between them, which may be missing. The last comma has no
number behind it. The start is counted from the end of the source. -/
theorem replyAt_many_eq_unrolled_numbers :
    number.LeapFree ∧ (optional (literal ",".toList)).LeapFree ∧ number.Moves ∧
      (many number (optional (literal ",".toList))).reader.replyAt "x12,3,y".toList (-6) =
        ⟨.accept (.list [.number 12, .number 3]), -2⟩ ∧
      ((unrolled number (optional (literal ",".toList))).reader.replyAt "x12,3,y".toList (-6)).map
        Value.gathered = ⟨.accept (.list [.number 12, .number 3]), -2⟩ ∧
      Strung number (optional (literal ",".toList)) "x12,3,y".toList (-6)
        [.number 12, .number 3] (-2) ∧
      (sequence [optional (literal ",".toList), number]).reader.replyAt "x12,3,y".toList (-2) =
        ⟨.reject, -2⟩ := by
  have hnumber : number.LeapFree := by decide
  have hcomma : (optional (literal ",".toList)).LeapFree := by decide
  have hrun : (many number (optional (literal ",".toList))).reader.replyAt "x12,3,y".toList
      (-6) = ⟨.accept (.list [.number 12, .number 3]), -2⟩ := rfl
  obtain ⟨hplain, hstrung⟩ :=
    replyAt_many_eq_unrolled hnumber hcomma moves_number "x12,3,y".toList (-6)
  rcases hstrung _ _ hrun with ⟨hnil, -, -⟩ | ⟨hvalues, hreject⟩
  · cases hnil
  · exact ⟨hnumber, hcomma, moves_number, hrun, hplain.symm.trans hrun, hvalues, hreject⟩

end Description

end Famix
