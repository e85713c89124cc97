/-
Parsers that only move forward: where they leave off, and why they may stop.

A parser is forward if it never moves back, and not beyond the end of the source unless it was
there already. That is said of every offset, the ones counted from the end included: a run of
characters that goes on at the beginning of the source is at the offset 0 there.

A parser is orderly if besides there are two reasons for which it may stop with a fault, from a
place that is counted from the beginning. One is a fault that is allowed at the place where the
parser leaves off. The other is a repetition that has used up its rounds, which takes at least as
many rounds as there are characters left. Before the beginning there are more reasons, since a
place there may have no character.

The scanning parsers are both, and the combinations of such parsers are. For a repetition that is
so because a round which ends elsewhere than where it started ends farther on, so that the places
at which rounds start count the rounds.
-/
import Famix.Parser.Basic
import Famix.Proofs.Combine
import Famix.Proofs.Scan

set_option autoImplicit false

namespace Famix

namespace Parser

variable {α β : Type}

/-! ## The way of a run -/

/-- From an offset to another the way leads forward, and it does not pass the end of the source
unless it starts beyond. -/
structure LeadsForward (source : Text) (offset reached : Int) : Prop where
  le : offset ≤ reached
  le_max : reached ≤ max offset source.length

namespace LeadsForward

variable {source : Text} {offset middle reached : Int}

/-- To stay is to lead forward. -/
theorem refl (source : Text) (offset : Int) : LeadsForward source offset offset :=
  ⟨Int.le_refl offset, Int.le_max_left offset _⟩

/-- Two ways forward, one behind the other, are one. -/
theorem trans (h : LeadsForward source offset middle) (h' : LeadsForward source middle reached) :
    LeadsForward source offset reached := by
  obtain ⟨hle, hmax⟩ := h
  obtain ⟨hle', hmax'⟩ := h'
  exact ⟨by omega, by omega⟩

/-- A way that starts at a place counted from the beginning leads to one. -/
theorem exists_natCast {place : Nat} (h : LeadsForward source place reached) :
    ∃ stop : Nat, reached = stop ∧ place ≤ stop ∧ stop ≤ max place source.length := by
  obtain ⟨hle, hmax⟩ := h
  exact ⟨reached.toNat, by omega, by omega, by omega⟩

/-- A way that starts within the source stays within it. -/
theorem exists_natCast_of_le {place : Nat} (h : LeadsForward source place reached)
    (hplace : place ≤ source.length) :
    ∃ stop : Nat, reached = stop ∧ place ≤ stop ∧ stop ≤ source.length := by
  obtain ⟨stop, rfl, hle, hmax⟩ := h.exists_natCast
  exact ⟨stop, rfl, hle, by omega⟩

end LeadsForward

/-- A parser that leads forward from every offset, whatever it replies. -/
def Forward (parser : Parser α) : Prop :=
  ∀ ⦃rounds : Nat⦄ ⦃source : Text⦄ ⦃offset : Int⦄ ⦃verdict : Verdict α⦄ ⦃reached : Int⦄,
    parser.run rounds source offset = ⟨verdict, reached⟩ → LeadsForward source offset reached

/-! ## Scanning parsers move forward -/

/-- A value given for nothing stays. -/
theorem forward_pure (value : α) : Forward (pure value) := by
  intro rounds source offset verdict reached hrun
  cases hrun
  exact .refl source offset

/-- A fixed text leads to its end, which is not behind that of the text. -/
theorem forward_literal (text : Text) : Forward (literal text) := by
  intro rounds source offset verdict reached hrun
  simp only [literal] at hrun
  split at hrun
  · next ahead hahead =>
    have hposition := Text.le_position source offset
    have hlength := Text.position_add_length_of_unread hahead
    split at hrun
    · next hp =>
      have hprefix := (List.isPrefixOf_iff_prefix.mp hp).length_le
      cases hrun
      exact ⟨by omega, by omega⟩
    · cases hrun
      exact .refl source offset
  · cases hrun
    exact .refl source offset

/-- A run leads to its end. -/
theorem forward_takeWhile (belongs : Char → Bool) : Forward (takeWhile belongs) := by
  intro rounds source offset verdict reached hrun
  simp only [takeWhile] at hrun
  split at hrun
  · next ahead hahead =>
    have hlength := Text.add_length_of_onward hahead
    have hprefix := (List.takeWhile_prefix belongs (l := ahead)).length_le
    cases hrun
    exact ⟨by omega, by omega⟩
  · cases hrun
    exact .refl source offset

/-- A delimiter leads to its own end, or nowhere. -/
theorem forward_through (delimiter : Text) : Forward (through delimiter) := by
  intro rounds source offset verdict reached hrun
  simp only [through] at hrun
  split at hrun
  · next piece hpiece =>
    obtain ⟨ahead, hahead, hcut⟩ := Option.bind_eq_some_iff.mp hpiece
    obtain ⟨⟨rest, rfl⟩, -⟩ := Text.upThrough_eq_some hcut
    have hposition := Text.le_position source offset
    have hlength := Text.position_add_length_of_unread hahead
    rw [List.length_append] at hlength
    cases hrun
    exact ⟨by omega, by omega⟩
  · cases hrun
    exact .refl source offset

/-- A number leads to the end of its digits, or nowhere. -/
theorem forward_number : Forward number := by
  intro rounds source offset verdict reached hrun
  simp only [number] at hrun
  split at hrun
  · next ahead hahead =>
    have hlength := Text.add_length_of_onward hahead
    have hprefix := (List.takeWhile_prefix Char.isDigit (l := ahead)).length_le
    split at hrun
    · cases hrun
      exact .refl source offset
    · split at hrun
      · cases hrun
        exact .refl source offset
      · split at hrun
        · cases hrun
          exact .refl source offset
        · cases hrun
          exact ⟨by omega, by omega⟩
  · cases hrun
    exact .refl source offset

/-! ## Combinations move forward -/

/-- A chain leads forward if its parts do: to where the last part leads, or back to its own start.
-/
theorem Forward.bind {first : Parser α} {next : α → Parser β} (hfirst : Forward first)
    (hnext : ∀ a, Forward (next a)) : Forward (first >>= next) := by
  intro rounds source offset verdict reached hrun
  rcases run_bind_cases first next rounds source offset with
    ⟨value, middle, hf, hb⟩ | ⟨middle, -, hb⟩ | ⟨cause, middle, hf, hb⟩
  · rw [hb] at hrun
    -- a rejected second part is taken back to the start of the chain, any other is kept
    rcases Reply.eq_or_offset_eq_of_rollback hrun with hlast | rfl
    · exact (hfirst hf).trans (hnext value hlast)
    · exact .refl source offset
  · rw [hb] at hrun
    cases hrun
    exact .refl source offset
  · rw [hb] at hrun
    cases hrun
    exact hfirst hf

/-- A mapping stays where the parser leads. -/
theorem Forward.transform {parser : Parser α} (h : Forward parser) (treat : α → Verdict β) :
    Forward (parser.transform treat) := by
  intro rounds source offset verdict reached hrun
  rcases run_transform_cases parser treat rounds source offset with
    ⟨value, middle, hp, ht⟩ | ⟨middle, hp, ht⟩ | ⟨cause, middle, hp, ht⟩
  all_goals
    rw [ht] at hrun
    cases hrun
    exact h hp

/-- An optional part leads where the part leads, or nowhere. -/
theorem Forward.optional {parser : Parser α} (h : Forward parser) : Forward parser.optional := by
  intro rounds source offset verdict reached hrun
  rcases run_optional_cases parser rounds source offset with
    ⟨value, middle, hp, ho⟩ | ⟨middle, -, ho⟩ | ⟨cause, middle, hp, ho⟩
  · rw [ho] at hrun
    cases hrun
    exact h hp
  · rw [ho] at hrun
    cases hrun
    exact .refl source offset
  · rw [ho] at hrun
    cases hrun
    exact h hp

/-- A choice leads where the decisive alternative leads. -/
theorem Forward.oneOf {alternatives : List (Parser α)}
    (h : ∀ alternative ∈ alternatives, Forward alternative) : Forward (oneOf alternatives) := by
  intro rounds source offset verdict reached hrun
  induction alternatives with
  | nil =>
    cases hrun
    exact .refl source offset
  | cons alternative others ih =>
    rcases run_oneOf_cases alternative others rounds source offset with ⟨ho, -⟩ | ⟨_, -, ho⟩
    · rw [ho] at hrun
      exact h alternative List.mem_cons_self hrun
    · rw [ho] at hrun
      exact ih (fun other hother => h other (List.mem_cons_of_mem _ hother)) hrun

/-- From any of its rounds on, a repetition leads forward from where it started, since the end of
the last element and the head of the round lie ahead of that. -/
theorem forward_manyFrom {element : Parser α} {separator : Parser β} (helement : Forward element)
    (hseparator : Forward separator) {rounds : Nat} {source : Text} {offset : Int} (left : Nat)
    {committed head : Int} (found : List α) {verdict : Verdict (List α)} {reached : Int}
    (hcommitted : LeadsForward source offset committed) (hhead : LeadsForward source offset head)
    (hrun : manyFrom element separator rounds source left committed head found =
      ⟨verdict, reached⟩) : LeadsForward source offset reached := by
  -- on the rounds that are left. Both the end of the last element and the head of the round are
  -- carried along, since the reply can leave off at either
  induction left generalizing committed head found with
  | zero =>
    cases hrun
    exact hhead
  | succ left ih =>
    rcases manyFrom_succ_cases element separator rounds source left committed head found with
      ⟨_, -, hm⟩ | ⟨cause, _, hf, hm⟩ | ⟨value, middle, hf, hround⟩
    · rw [hm] at hrun
      cases hrun
      exact hcommitted
    · rw [hm] at hrun
      cases hrun
      exact hhead.trans (helement hf)
    · have hmiddle := hhead.trans (helement hf)
      rcases hround with ⟨_, -, hm⟩ | ⟨cause, _, hg, hm⟩ | ⟨_, -, hm⟩ | ⟨_, after, hg, -, hm⟩
      · rw [hm] at hrun
        cases hrun
        exact hmiddle
      · rw [hm] at hrun
        cases hrun
        exact hmiddle.trans (hseparator hg)
      · rw [hm] at hrun
        cases hrun
        exact hmiddle
      · rw [hm] at hrun
        exact ih (value :: found) hmiddle (hmiddle.trans (hseparator hg)) hrun

/-- A repetition leads forward if its element and its separator do. -/
theorem Forward.many {element : Parser α} {separator : Parser β} (helement : Forward element)
    (hseparator : Forward separator) : Forward (many element separator) := by
  intro rounds source offset verdict reached hrun
  exact forward_manyFrom helement hseparator rounds [] (.refl source offset)
    (.refl source offset) hrun

/-! ## Reasons to stop -/

/-- The fault of a numeral that begins at a place and is too long to be read. -/
def IsLongNumeral (source : Text) (place : Nat) (cause : Fault) : Prop :=
  maxDigits < ((source.drop place).takeWhile Char.isDigit).length ∧
    cause = .tooManyDigits ((source.drop place).takeWhile Char.isDigit).length

/-- A parser that moves forward and, from a place counted from the beginning, stops with a fault
only where that fault is allowed, or because `rounds` rounds were not enough. -/
structure Orderly (allowed : Text → Nat → Fault → Prop) (parser : Parser α) : Prop where
  forward : Forward parser
  stops : ∀ ⦃rounds : Nat⦄ ⦃source : Text⦄ ⦃place : Nat⦄ ⦃cause : Fault⦄ ⦃reached : Nat⦄,
    parser.run rounds source place = ⟨.fault cause, reached⟩ →
    allowed source reached cause ∨ (cause = .endless ∧ rounds ≤ source.length - place)

/-- A reply to a run from `place` that has moved forward and not beyond the end, and that
stops for an allowed reason or because `rounds` rounds were not enough. -/
inductive OrderlyReply (allowed : Text → Nat → Fault → Prop) (rounds : Nat) (source : Text)
    (place : Nat) : Reply α → Prop
  | accept (value : α) (reached : Nat) (hle : place ≤ reached)
    (hmax : reached ≤ max place source.length) :
    OrderlyReply allowed rounds source place ⟨.accept value, reached⟩
  | reject (reached : Nat) (hle : place ≤ reached) (hmax : reached ≤ max place source.length) :
    OrderlyReply allowed rounds source place ⟨.reject, reached⟩
  | fault (cause : Fault) (reached : Nat) (hle : place ≤ reached)
    (hmax : reached ≤ max place source.length)
    (hcause : allowed source reached cause ∨
      (cause = .endless ∧ rounds ≤ source.length - place)) :
    OrderlyReply allowed rounds source place ⟨.fault cause, reached⟩

section

variable {allowed : Text → Nat → Fault → Prop}

/-- What an orderly parser replies, by its verdict. -/
theorem Orderly.reply {parser : Parser α} (h : Orderly allowed parser) (rounds : Nat)
    (source : Text) (place : Nat) :
    OrderlyReply allowed rounds source place (parser.run rounds source place) := by
  rcases hrun : parser.run rounds source place with ⟨verdict, offset⟩
  obtain ⟨reached, rfl, hle, hmax⟩ := (h.forward hrun).exists_natCast
  cases verdict with
  | accept value => exact .accept value reached hle hmax
  | reject => exact .reject reached hle hmax
  | fault cause => exact .fault cause reached hle hmax (h.stops hrun)

/-- Where no fault can be met there is nothing to allow. -/
theorem Forward.orderly_of_ne_fault {parser : Parser α} (h : Forward parser)
    (hne : ∀ (rounds : Nat) (source : Text) (place : Nat) (cause : Fault) (reached : Int),
      parser.run rounds source place ≠ ⟨.fault cause, reached⟩) : Orderly allowed parser :=
  ⟨h, fun rounds source place cause reached hfault =>
    absurd hfault (hne rounds source place cause reached)⟩

/-! ## Scanning parsers are orderly -/

/-- A value given for nothing meets no fault. -/
theorem orderly_pure (value : α) : Orderly allowed (pure value) :=
  (forward_pure value).orderly_of_ne_fault fun _ _ _ _ _ => by simp

/-- A fixed text meets no fault from a place counted from the beginning. -/
theorem orderly_literal (text : Text) : Orderly allowed (literal text) := by
  refine (forward_literal text).orderly_of_ne_fault fun rounds source place cause reached => ?_
  rcases hahead : Text.unread source place with _ | ahead
  · rw [run_literal_of_none rounds text hahead]
    simp
  · rw [run_literal rounds text hahead]
    split
    · simp
    · simp

/-- A run meets no fault from a place counted from the beginning. -/
theorem orderly_takeWhile (belongs : Char → Bool) : Orderly allowed (takeWhile belongs) := by
  refine (forward_takeWhile belongs).orderly_of_ne_fault fun rounds source place _ _ => ?_
  rw [run_takeWhile]
  simp

/-- A delimiter meets no fault from a place counted from the beginning. -/
theorem orderly_through (delimiter : Text) : Orderly allowed (through delimiter) := by
  refine (forward_through delimiter).orderly_of_ne_fault fun rounds source place _ _ => ?_
  rcases hahead : Text.unread source place with _ | ahead
  · rw [run_through_of_none rounds delimiter hahead]
    simp
  · rw [run_through rounds delimiter hahead]
    split
    · simp
    · simp

/-- The one fault of a number is a numeral that is too long, in front of which it leaves
off. -/
theorem orderly_number
    (hallowed : ∀ source place cause, IsLongNumeral source place cause →
      allowed source place cause) : Orderly allowed number := by
  refine ⟨forward_number, fun rounds source place cause reached hfault => .inl ?_⟩
  rw [run_number] at hfault
  dsimp only at hfault
  -- the run of digits is empty, too long, or a numeral, and only the second of these is a fault
  split at hfault
  · cases hfault
  · split at hfault
    · next hlong =>
      obtain ⟨hcause, hreached⟩ := Reply.mk.inj hfault
      obtain rfl : place = reached := Int.ofNat_inj.mp hreached
      exact hallowed source place cause ⟨hlong, (Verdict.fault.inj hcause).symm⟩
    · cases hfault

/-! ## Combinations are orderly -/

/-- A chain is orderly if its parts are. -/
theorem Orderly.bind {first : Parser α} {next : α → Parser β} (hfirst : Orderly allowed first)
    (hnext : ∀ a, Orderly allowed (next a)) : Orderly allowed (first >>= next) := by
  refine ⟨hfirst.forward.bind fun a => (hnext a).forward, ?_⟩
  intro rounds source place cause reached hfault
  rcases run_bind_cases first next rounds source place with
    ⟨value, offset, hf, hb⟩ | ⟨_, -, hb⟩ | ⟨other, offset, hf, hb⟩
  · obtain ⟨middle, rfl, hle, -⟩ := (hfirst.forward hf).exists_natCast
    rw [hb, Reply.rollback_eq_fault_iff] at hfault
    -- fewer characters are left behind the first part
    refine ((hnext value).stops hfault).imp_right fun ⟨hendless, hspent⟩ => ⟨hendless, ?_⟩
    omega
  · rw [hb] at hfault
    cases hfault
  · rw [hb] at hfault
    exact hfirst.stops (hf.trans (by simpa using hfault))

/-- A mapping keeps the place, and adds the faults of the mapping. -/
theorem Orderly.transform {parser : Parser α} {treat : α → Verdict β}
    (hparser : Orderly allowed parser)
    (htreat : ∀ value cause, treat value = .fault cause → ∀ source place,
      allowed source place cause) : Orderly allowed (parser.transform treat) := by
  refine ⟨hparser.forward.transform treat, fun rounds source place cause reached hfault => ?_⟩
  rcases run_transform_cases parser treat rounds source place with
    ⟨value, offset, -, ht⟩ | ⟨_, -, ht⟩ | ⟨other, offset, hp, ht⟩
  · rw [ht] at hfault
    exact .inl (htreat value cause (Reply.mk.inj hfault).1 source reached)
  · rw [ht] at hfault
    cases hfault
  · rw [ht] at hfault
    exact hparser.stops (hp.trans (by simpa using hfault))

/-- A token meets no fault. -/
theorem orderly_token (text : Text) : Orderly allowed (token text) :=
  (orderly_literal text).bind fun _ => orderly_pure ()

/-- An optional part stops where the part does. -/
theorem Orderly.optional {parser : Parser α} (hparser : Orderly allowed parser) :
    Orderly allowed parser.optional :=
  ⟨hparser.forward.optional, fun _ _ _ _ _ hfault =>
    hparser.stops (run_optional_eq_fault_iff.mp hfault)⟩

/-- A choice is orderly if its alternatives are. -/
theorem Orderly.oneOf {alternatives : List (Parser α)}
    (h : ∀ alternative ∈ alternatives, Orderly allowed alternative) :
    Orderly allowed (oneOf alternatives) := by
  refine ⟨Forward.oneOf fun alternative hmem => (h alternative hmem).forward, ?_⟩
  intro rounds source place cause reached hfault
  obtain ⟨alternative, hmem, hstops⟩ := exists_fault_of_oneOf hfault
  exact (h alternative hmem).stops hstops

/-- From any of its rounds on, a repetition stops for an allowed reason or has spent its rounds.
Those already made are at most the characters between the start and the head, since each of them
has moved the head. -/
theorem manyFrom_stops {element : Parser α} {separator : Parser β}
    (helement : Orderly allowed element) (hseparator : Orderly allowed separator)
    {rounds : Nat} {source : Text} (start left : Nat) (committed : Int) {head : Nat}
    (found : List α) {cause : Fault} {reached : Nat} (hhead : start ≤ head)
    (hmax : head ≤ max start source.length) (hrounds : rounds ≤ left + (head - start))
    (hfault : manyFrom element separator rounds source left committed head found =
      ⟨.fault cause, reached⟩) :
    allowed source reached cause ∨ (cause = .endless ∧ rounds ≤ source.length - start) := by
  -- on the rounds that are left: each round that is made moves the head, so what `hrounds` counts
  -- stays at least the number that was granted
  induction left generalizing committed head found with
  | zero =>
    cases hfault
    exact .inr ⟨rfl, by omega⟩
  | succ left ih =>
    rcases manyFrom_succ_cases element separator rounds source left committed head found with
      ⟨_, -, hm⟩ | ⟨other, _, hf, hm⟩ | ⟨value, offset, hf, hround⟩
    · rw [hm] at hfault
      cases hfault
    · rw [hm] at hfault
      refine (helement.stops (hf.trans (by simpa using hfault))).imp_right ?_
      exact fun ⟨hendless, hspent⟩ => ⟨hendless, by omega⟩
    · obtain ⟨middle, rfl, hle, hbound⟩ := (helement.forward hf).exists_natCast
      rcases hround with ⟨_, -, hm⟩ | ⟨other, _, hg, hm⟩ | ⟨_, -, hm⟩ | ⟨_, offset, hg, hne, hm⟩
      · rw [hm] at hfault
        cases hfault
      · rw [hm] at hfault
        refine (hseparator.stops (hg.trans (by simpa using hfault))).imp_right ?_
        exact fun ⟨hendless, hspent⟩ => ⟨hendless, by omega⟩
      · rw [hm] at hfault
        cases hfault
      · obtain ⟨after, rfl, hle', hbound'⟩ := (hseparator.forward hg).exists_natCast
        rw [hm] at hfault
        -- the round has moved, hence forward, hence not beyond the end
        have hmoved : after ≠ head := fun heq => hne (by rw [heq])
        exact ih middle (value :: found) (by omega) (by omega) (by omega) hfault

/-- A repetition is orderly if its element and its separator are. Its rounds begin with all that
were granted and none made. -/
theorem Orderly.many {element : Parser α} {separator : Parser β}
    (helement : Orderly allowed element) (hseparator : Orderly allowed separator) :
    Orderly allowed (many element separator) := by
  refine ⟨helement.forward.many hseparator.forward, ?_⟩
  intro rounds source place cause reached hfault
  exact manyFrom_stops helement hseparator place rounds place [] (Nat.le_refl place)
    (Nat.le_max_left place _) (by omega) hfault

end

end Parser

end Famix
