/-
Where the parsers for delimiters and for numbers leave off.

Everything through a delimiter is read up to the first place where the delimiter ends, and to
no later one, also where occurrences overlap: which of the parentheses in `)))` closes a
reference hangs on that. A number is read up to the end of the digits, however many of them are
zeros in front, and the value is the one that the digits have by their places
(`Text.decimalValue_eq_ofDigits`). The number of digits that can be read is limited, zeros
included. One digit more is no mismatch but a fault, and then nothing has been read.

Both parsers are described by what lies ahead of a place alone: a delimiter by whether and where
it occurs there, a number by the longest run of digits and what follows it.
-/
import Famix.Proofs.Judgement
import Mathlib.Data.Nat.Digits.Defs

set_option autoImplicit false

namespace Famix

namespace Text

/-! ## Values by places -/

/-- Zeros in front of a numeral add nothing. -/
theorem decimalValue_zeros_append (zeros : Nat) (run : Text) :
    decimalValue (List.replicate zeros '0' ++ run) = decimalValue run := by
  induction zeros with
  | zero => rfl
  | succ zeros ih =>
    rw [List.replicate_succ, List.cons_append, decimalValue_cons, ih, Nat.sub_self, Nat.mul_zero,
      Nat.zero_add]

/-- The last digit of a numeral counts ones, the one before it tens, and so on. -/
theorem decimalValue_eq_ofDigits (run : Text) :
    decimalValue run = Nat.ofDigits 10 (run.reverse.map fun c => c.toNat - '0'.toNat) := by
  induction run with
  | nil => rfl
  | cons c run ih =>
    rw [decimalValue_cons, List.reverse_cons, List.map_append, Nat.ofDigits_append,
      List.length_map, List.length_reverse, ih, List.map_singleton, Nat.ofDigits_singleton,
      Nat.add_comm]

/-! ## Longest runs ahead of a place -/

/-- The longest run ahead of a place is empty exactly if no character of the class stands at the
place. -/
theorem IsLongestRun.eq_nil_iff {belongs : Char → Bool} {text run rest : Text} {place : Nat}
    (hrun : IsLongestRun belongs run rest) (hdrop : text.drop place = run ++ rest) :
    run = [] ↔ ∀ c ∈ text[place]?, belongs c = false := by
  obtain ⟨hbelongs, hend⟩ := hrun
  rw [← List.head?_drop, hdrop]
  cases run with
  | nil => exact iff_of_true rfl hend
  | cons c run =>
    have hc : belongs c = true := hbelongs c List.mem_cons_self
    simp [hc]

/-- The longest run ahead of a place is not empty exactly if a character of the class stands at
the place. -/
theorem IsLongestRun.ne_nil_iff {belongs : Char → Bool} {text run rest : Text} {place : Nat}
    (hrun : IsLongestRun belongs run rest) (hdrop : text.drop place = run ++ rest) :
    run ≠ [] ↔ ∃ c ∈ text[place]?, belongs c = true := by
  rw [ne_eq, hrun.eq_nil_iff hdrop]
  simp

/-- A numeral with zeros in front of it goes on up to what is no digit. -/
theorem isLongestRun_zeros_ofNat (zeros n : Nat) {more : Text}
    (hmore : ∀ c ∈ more.head?, c.isDigit = false) :
    IsLongestRun Char.isDigit (List.replicate zeros '0' ++ ofNat n) more := by
  refine ⟨fun c hc => ?_, hmore⟩
  rcases List.mem_append.mp hc with hzero | hdigit
  · rw [List.eq_of_mem_replicate hzero]
    rfl
  · exact isDigit_of_mem_ofNat hdigit

end Text

namespace Parser

section

variable (rounds : Nat) {source : Text} {place : Nat}

/-! ## Everything through a delimiter -/

/-- What is read through a delimiter begins at the place and ends in the first occurrence of the
delimiter. -/
theorem run_through_eq_accept_iff {delimiter piece : Text} {reached : Int}
    (hplace : place ≤ source.length) :
    (through delimiter).run rounds source place = ⟨.accept piece, reached⟩ ↔
      reached = (place + piece.length : Nat) ∧ Text.EndsAtFirst delimiter piece ∧
        ∃ rest, source.drop place = piece ++ rest := by
  have hahead : Text.unread source place = some (source.drop place) :=
    Text.unread_of_le hplace
  constructor
  · intro hrun
    obtain ⟨_, rest, hsplit, rfl, rfl, hends⟩ := reads_through delimiter hahead hrun
    exact ⟨rfl, hends, rest, hsplit⟩
  · rintro ⟨rfl, hends, rest, hsplit⟩
    refine settles_through hends rest rounds source [] place ?_
    rw [hahead, hsplit, List.append_nil]

/-- Without the delimiter nothing is read. -/
theorem run_through_of_not_infix {delimiter : Text} (hplace : place ≤ source.length)
    (hnot : ¬ delimiter <:+: source.drop place) :
    (through delimiter).run rounds source place = ⟨.reject, place⟩ := by
  rw [run_through rounds delimiter (Text.unread_of_le hplace),
    Text.upThrough_eq_none_iff.mpr hnot]

/-- A delimiter is found exactly where it occurs. -/
theorem exists_run_through_iff {delimiter : Text} (hplace : place ≤ source.length) :
    (∃ piece reached, (through delimiter).run rounds source place = ⟨.accept piece, reached⟩) ↔
      delimiter <:+: source.drop place := by
  constructor
  · rintro ⟨piece, reached, hrun⟩
    obtain ⟨-, ⟨hsuffix, -⟩, rest, hsplit⟩ :=
      (run_through_eq_accept_iff rounds hplace).mp hrun
    rw [hsplit]
    exact hsuffix.isInfix.trans (List.prefix_append piece rest).isInfix
  · intro hin
    rcases hpiece : Text.upThrough delimiter (source.drop place) with _ | piece
    · -- the search does not fail where there is something to be found
      exact absurd hin (Text.upThrough_eq_none_iff.mp hpiece)
    · rw [run_through rounds delimiter (Text.unread_of_le hplace), hpiece]
      exact ⟨piece, _, rfl⟩

/-! ## A number -/

section

variable {digits rest : Text}

/-- A number is read exactly if there are digits and they are not too many. -/
theorem run_number_eq_accept_iff {value : Nat} {reached : Int}
    (hdrop : source.drop place = digits ++ rest)
    (hrun : Text.IsLongestRun Char.isDigit digits rest) :
    number.run rounds source place = ⟨.accept value, reached⟩ ↔
      (digits ≠ [] ∧ digits.length ≤ maxDigits) ∧
        value = Text.decimalValue digits ∧ reached = (place + digits.length : Nat) := by
  rw [run_number_append rounds hdrop hrun]
  by_cases hnone : digits = []
  · simp [hnone]
  · by_cases hlong : maxDigits < digits.length
    · simp [hnone, hlong]
    · rw [if_neg hnone, if_neg hlong]
      simp [hnone, Nat.not_lt.mp hlong, eq_comm]

/-- Without a digit nothing is read. -/
theorem run_number_of_not_digit (hdigit : ∀ c ∈ source[place]?, c.isDigit = false) :
    number.run rounds source place = ⟨.reject, place⟩ := by
  obtain ⟨digits, rest, hdrop, hrun⟩ := Text.exists_isLongestRun Char.isDigit (source.drop place)
  rw [run_number_append rounds hdrop hrun, if_pos ((hrun.eq_nil_iff hdrop).mpr hdigit)]

/-- In front of too many digits the number stops. -/
theorem run_number_of_long (hdrop : source.drop place = digits ++ rest)
    (hrun : Text.IsLongestRun Char.isDigit digits rest) (hlong : maxDigits < digits.length) :
    number.run rounds source place = ⟨.fault (.tooManyDigits digits.length), place⟩ := by
  have hne : digits ≠ [] := List.ne_nil_of_length_pos (Nat.zero_lt_of_lt hlong)
  rw [run_number_append rounds hdrop hrun, if_neg hne, if_pos hlong]

/-- A number in decimal, with zeros in front, is read in front of what is no digit. -/
theorem run_number_zeros_ofNat {zeros n : Nat} {more : Text}
    (hlength : zeros + (Text.ofNat n).length ≤ maxDigits)
    (hmore : ∀ c ∈ more.head?, c.isDigit = false)
    (hdrop : source.drop place = List.replicate zeros '0' ++ Text.ofNat n ++ more) :
    number.run rounds source place =
      ⟨.accept n, (place + (zeros + (Text.ofNat n).length) : Nat)⟩ := by
  have hdigits : (List.replicate zeros '0' ++ Text.ofNat n).length =
      zeros + (Text.ofNat n).length := by
    rw [List.length_append, List.length_replicate]
  refine (run_number_eq_accept_iff rounds hdrop
    (Text.isLongestRun_zeros_ofNat zeros n hmore)).mpr ⟨⟨?_, ?_⟩, ?_, ?_⟩
  · exact List.append_ne_nil_of_right_ne_nil _ Nat.toDigits_ne_nil
  · rwa [hdigits]
  · rw [Text.decimalValue_zeros_append, Text.decimalValue_ofNat]
  · rw [hdigits]

end

end

/-! ## Both -/

/-- **Where scanning stops.** Take any place that is not beyond the end of the source.

Everything through a delimiter is accepted exactly if the delimiter occurs behind the place, be
it empty or overlap with itself. What is read begins at the place, ends in the delimiter and holds
it nowhere earlier. Otherwise the offset stays.

A number is accepted exactly if there is a digit at the place and the longest run of digits from
there on has at most 4300 of them. That run is what is read, and its value by places is the
number. Without a digit the offset stays, and in front of a longer run there is a fault. So every
number below 10 ^ 4300 is read off its decimal numeral, with any zeros in front for which there is
room, in front of whatever is no digit, which is left. -/
theorem through_and_number_stop_exactly (rounds : Nat) {source : Text} {place : Nat}
    (hplace : place ≤ source.length) :
    (∀ delimiter : Text,
      ((∃ piece reached,
          (through delimiter).run rounds source place = ⟨.accept piece, reached⟩) ↔
        delimiter <:+: source.drop place) ∧
      (∀ piece reached, (through delimiter).run rounds source place = ⟨.accept piece, reached⟩ →
        reached = (place + piece.length : Nat) ∧ Text.EndsAtFirst delimiter piece ∧
          ∃ rest, source.drop place = piece ++ rest) ∧
      (¬ delimiter <:+: source.drop place →
        (through delimiter).run rounds source place = ⟨.reject, place⟩)) ∧
    (∃ digits rest, source.drop place = digits ++ rest ∧
      Text.IsLongestRun Char.isDigit digits rest ∧
      ((∃ value reached, number.run rounds source place = ⟨.accept value, reached⟩) ↔
        (∃ c ∈ source[place]?, c.isDigit = true) ∧ digits.length ≤ 4300) ∧
      (∀ value reached, number.run rounds source place = ⟨.accept value, reached⟩ →
        reached = (place + digits.length : Nat) ∧
          value = Nat.ofDigits 10 (digits.reverse.map fun c => c.toNat - '0'.toNat)) ∧
      ((∀ c ∈ source[place]?, c.isDigit = false) →
        number.run rounds source place = ⟨.reject, place⟩) ∧
      (4300 < digits.length →
        number.run rounds source place = ⟨.fault (.tooManyDigits digits.length), place⟩)) ∧
    ∀ n < 10 ^ 4300, (Text.ofNat n).length ≤ 4300 ∧
      ∀ (zeros : Nat) (more : Text), zeros + (Text.ofNat n).length ≤ 4300 →
        (∀ c ∈ more.head?, c.isDigit = false) →
        source.drop place = List.replicate zeros '0' ++ Text.ofNat n ++ more →
        ∃ reached : Nat, number.run rounds source place = ⟨.accept n, reached⟩ ∧
          source.drop reached = more := by
  have hlimit : 4300 = maxDigits := rfl
  refine ⟨fun delimiter => ⟨?_, ?_, ?_⟩, ?_, fun n hn => ⟨?_, ?_⟩⟩
  · exact exists_run_through_iff rounds hplace
  · exact fun piece reached => (run_through_eq_accept_iff rounds hplace).mp
  · exact run_through_of_not_infix rounds hplace
  · obtain ⟨digits, rest, hdrop, hrun⟩ :=
      Text.exists_isLongestRun Char.isDigit (source.drop place)
    refine ⟨digits, rest, hdrop, hrun, ⟨?_, ?_⟩, ?_, run_number_of_not_digit rounds,
      run_number_of_long rounds hdrop hrun⟩
    · rintro ⟨value, reached, haccept⟩
      obtain ⟨⟨hne, hlength⟩, -⟩ := (run_number_eq_accept_iff rounds hdrop hrun).mp haccept
      exact ⟨(hrun.ne_nil_iff hdrop).mp hne, hlength⟩
    · rintro ⟨hdigit, hlength⟩
      have hne : digits ≠ [] := (hrun.ne_nil_iff hdrop).mpr hdigit
      exact ⟨_, _, (run_number_eq_accept_iff rounds hdrop hrun).mpr ⟨⟨hne, hlength⟩, rfl, rfl⟩⟩
    · intro value reached haccept
      obtain ⟨-, rfl, rfl⟩ := (run_number_eq_accept_iff rounds hdrop hrun).mp haccept
      exact ⟨rfl, Text.decimalValue_eq_ofDigits digits⟩
  · rw [hlimit] at hn ⊢
    exact Text.length_ofNat_le_iff.mpr hn
  · intro zeros more hlength hmore hdrop
    refine ⟨_, run_number_zeros_ofNat rounds hlength hmore hdrop, ?_⟩
    rw [← List.drop_drop, hdrop]
    exact List.drop_left' (by rw [List.length_append, List.length_replicate])

/-- Of three parentheses the first two close, and the numeral in front of them has zeros of its
own. With as many zeros as there is room for, a numeral is read at the end of a text as well. -/
theorem through_and_number_stop_exactly_at_limit :
    ∃ source full : Text, source = "(ref: 007)))".toList ∧
      full = List.replicate 4299 '0' ++ "7".toList ∧ 6 ≤ source.length ∧ 0 ≤ full.length ∧
      (∃ piece reached, (through "))".toList).run 1 source 6 = ⟨.accept piece, reached⟩) ∧
      Text.EndsAtFirst "))".toList "007))".toList ∧
      ¬ "((".toList <:+: source.drop 6 ∧
      (through "((".toList).run 1 source 6 = ⟨.reject, 6⟩ ∧
      (∃ reached : Nat, number.run 1 source 6 = ⟨.accept 7, reached⟩ ∧
        source.drop reached = ")))".toList) ∧
      ∃ reached : Nat, number.run 1 full 0 = ⟨.accept 7, reached⟩ ∧ full.drop reached = [] := by
  obtain ⟨source, hsource⟩ : ∃ source : Text, source = "(ref: 007)))".toList := ⟨_, rfl⟩
  obtain ⟨full, hfull⟩ : ∃ full : Text, full = List.replicate 4299 '0' ++ "7".toList := ⟨_, rfl⟩
  have hplace : 6 ≤ source.length := by
    rw [hsource]
    decide
  have hseven : 7 < 10 ^ 4300 := by
    have hlimit : 4300 = maxDigits := rfl
    rw [hlimit]
    exact (by decide : 7 < 10).trans_le (Nat.le_self_pow (by decide) 10)
  obtain ⟨hthrough, -, hnumber⟩ := through_and_number_stop_exactly 1 hplace
  obtain ⟨-, -, hnumber'⟩ := through_and_number_stop_exactly 1 (Nat.zero_le full.length)
  have hin : "))".toList <:+: source.drop 6 := by
    rw [hsource]
    exact ⟨"007".toList, ")".toList, rfl⟩
  have hnot : ¬ "((".toList <:+: source.drop 6 := by
    rw [hsource]
    decide
  have hrun : (through "))".toList).run 1 source (6 : Nat) = ⟨.accept "007))".toList, 11⟩ := by
    rw [hsource]
    rfl
  obtain ⟨hfound, hpiece, -⟩ := hthrough "))".toList
  obtain ⟨-, -, hmissing⟩ := hthrough "((".toList
  refine ⟨source, full, hsource, hfull, hplace, Nat.zero_le _, hfound.mpr hin,
    (hpiece _ _ hrun).2.1, hnot, hmissing hnot, ?_, ?_⟩
  · exact (hnumber 7 hseven).2 2 ")))".toList (by decide) (by simp) (by rw [hsource]; rfl)
  · refine (hnumber' 7 hseven).2 4299 [] (by decide) (by simp) ?_
    rw [hfull, List.drop_zero, List.append_nil]
    rfl

/-- **Too many digits.** There is a digit, but the run of digits is longer than a numeral may be
by one. The number is neither accepted nor rejected, and nothing of the run is read. -/
theorem number_stops_in_front_of_long_run :
    ∃ source : Text, source = List.replicate 4301 '7' ∧
      (∃ c ∈ source[0]?, c.isDigit = true) ∧
      number.replyAt source 0 = ⟨.fault (.tooManyDigits 4301), 0⟩ ∧
      ¬ ((∃ value reached, number.replyAt source 0 = ⟨.accept value, reached⟩) ↔
        ∃ c ∈ source[0]?, c.isDigit = true) := by
  obtain ⟨source, hsource⟩ : ∃ source : Text, source = List.replicate 4301 '7' := ⟨_, rfl⟩
  have hdigit : ∃ c ∈ source[0]?, c.isDigit = true := by
    rw [hsource]
    exact ⟨'7', rfl, rfl⟩
  have hrun : Text.IsLongestRun Char.isDigit source [] := by
    refine ⟨fun c hc => ?_, by simp⟩
    rw [hsource] at hc
    rw [List.eq_of_mem_replicate hc]
    rfl
  have hlength : source.length = 4301 := by rw [hsource, List.length_replicate]
  have hfault : number.replyAt source 0 = ⟨.fault (.tooManyDigits 4301), 0⟩ := by
    have hlong : maxDigits < source.length := by
      rw [hlength]
      decide
    have hdrop : source.drop 0 = source ++ [] := (List.append_nil source).symm
    have hstop := run_number_of_long (allowance source 0) hdrop hrun hlong
    rw [hlength] at hstop
    exact hstop
  refine ⟨source, hsource, hdigit, hfault, fun hiff => ?_⟩
  obtain ⟨value, reached, haccept⟩ := hiff.mpr hdigit
  rw [hfault] at haccept
  cases haccept

end Parser

end Famix
