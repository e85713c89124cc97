/-
Faults end a reading at the place where they arise.

A run of a parser makes runs of its parts, these make runs of theirs, and so on down to the
scanning parsers. `Calls` says which runs are made on the way, with everything that has been
accepted or rejected before them. Sequences, optional parts, choices and repetitions all go back
to an earlier offset when a part rejects; none of them does so at a fault, and whatever fault a
run meets on its way is its own reply, offset included (`run_eq_fault_of_calls`).

For what is combined from scanning parsers without failing mappings the converse holds as well: a
fault is that of a number which is read on the way and has too many digits (`Built.traced`). So
a description can stop at a run of digits that is too long, and nowhere else.
-/
import Famix.Proofs.Termination

set_option autoImplicit false

namespace Famix

namespace Parser

variable {α β γ : Type}

/-! ## Runs on the way -/

/-- A repetition that starts at `offset` comes to a further round, which starts at an offset of
its own. -/
inductive RoundStart (element : Parser α) (separator : Parser β) (rounds : Nat) (source : Text)
    (offset : Int) : Nat → Int → Prop
  | first : RoundStart element separator rounds source offset 0 offset
  | next {round : Nat} {head reached after : Int} {value : α} {gap : β}
    (h : RoundStart element separator rounds source offset round head)
    (helement : element.run rounds source head = ⟨.accept value, reached⟩)
    (hseparator : separator.run rounds source reached = ⟨.accept gap, after⟩)
    (hmove : after ≠ head) :
    RoundStart element separator rounds source offset (round + 1) after

/-- A run of a parser from an offset makes, among others, the run of `inner` from `stop`. -/
inductive Calls (rounds : Nat) (source : Text) (inner : Parser γ) (stop : Int) :
    {α : Type} → Parser α → Int → Prop
  | here : Calls rounds source inner stop inner stop
  | first {α β : Type} {first : Parser α} (next : α → Parser β) {offset : Int}
    (h : Calls rounds source inner stop first offset) :
    Calls rounds source inner stop (first >>= next) offset
  | next {α β : Type} {first : Parser α} {next : α → Parser β} {offset reached : Int} {value : α}
    (hfirst : first.run rounds source offset = ⟨.accept value, reached⟩)
    (h : Calls rounds source inner stop (next value) reached) :
    Calls rounds source inner stop (first >>= next) offset
  | transform {α β : Type} {parser : Parser α} (treat : α → Verdict β) {offset : Int}
    (h : Calls rounds source inner stop parser offset) :
    Calls rounds source inner stop (parser.transform treat) offset
  | optional {α : Type} {parser : Parser α} {offset : Int}
    (h : Calls rounds source inner stop parser offset) :
    Calls rounds source inner stop parser.optional offset
  | oneOf {α : Type} {passed others : List (Parser α)} {alternative : Parser α} {offset : Int}
    (hpassed : ∀ other ∈ passed,
      ∃ reached, other.run rounds source offset = ⟨.reject, reached⟩)
    (h : Calls rounds source inner stop alternative offset) :
    Calls rounds source inner stop (oneOf (passed ++ alternative :: others)) offset
  | element {α β : Type} {element : Parser α} {separator : Parser β} {round : Nat}
    {offset head : Int} (hround : RoundStart element separator rounds source offset round head)
    (hleft : round < rounds) (h : Calls rounds source inner stop element head) :
    Calls rounds source inner stop (many element separator) offset
  | separator {α β : Type} {element : Parser α} {separator : Parser β} {round : Nat}
    {offset head reached : Int} {value : α}
    (hround : RoundStart element separator rounds source offset round head)
    (hleft : round < rounds)
    (helement : element.run rounds source head = ⟨.accept value, reached⟩)
    (h : Calls rounds source inner stop separator reached) :
    Calls rounds source inner stop (many element separator) offset

/-! ## No one restores the offset -/

section

variable {rounds : Nat} {source : Text}

/-- Behind alternatives that reject, a choice is the choice of the others. -/
theorem run_oneOf_append {passed : List (Parser α)} (others : List (Parser α)) {offset : Int}
    (hpassed : ∀ other ∈ passed,
      ∃ reached, other.run rounds source offset = ⟨.reject, reached⟩) :
    (oneOf (passed ++ others)).run rounds source offset =
      (oneOf others).run rounds source offset := by
  induction passed with
  | nil => rfl
  | cons alternative passed ih =>
    obtain ⟨reached, hreject⟩ := hpassed alternative List.mem_cons_self
    rw [List.cons_append]
    simp only [Parser.oneOf, hreject]
    exact ih fun other hother => hpassed other (List.mem_cons_of_mem alternative hother)

/-- A repetition that comes to a further round does from there on what is left to it. -/
theorem RoundStart.run_many {element : Parser α} {separator : Parser β} {offset head : Int}
    {round : Nat} (h : RoundStart element separator rounds source offset round head)
    (hleft : round ≤ rounds) :
    ∃ committed found, (many element separator).run rounds source offset =
      manyFrom element separator rounds source (rounds - round) committed head found := by
  induction h with
  | first => exact ⟨offset, [], rfl⟩
  | @next round head reached after value gap _ helement hseparator hmove ih =>
    obtain ⟨committed, found, hrun⟩ := ih (by omega)
    obtain ⟨left, hl⟩ : ∃ left, rounds - round = left + 1 := ⟨rounds - round - 1, by omega⟩
    have hnext : rounds - (round + 1) = left := by omega
    rw [hl, manyFrom_of_next left committed found helement hseparator hmove] at hrun
    exact ⟨reached, value :: found, by rw [hrun, hnext]⟩

/-- A repetition that has rounds left makes the round that it comes to. -/
theorem RoundStart.run_round {element : Parser α} {separator : Parser β} {offset head : Int}
    {round : Nat} (h : RoundStart element separator rounds source offset round head)
    (hleft : round < rounds) :
    ∃ left committed found, (many element separator).run rounds source offset =
      manyFrom element separator rounds source (left + 1) committed head found := by
  obtain ⟨committed, found, hrun⟩ := h.run_many (Nat.le_of_lt hleft)
  obtain ⟨left, hl⟩ := Nat.exists_eq_add_one_of_ne_zero (Nat.sub_ne_zero_of_lt hleft)
  exact ⟨left, committed, found, hl ▸ hrun⟩

/-- **Faults pass through.** The fault of a run that is made on the way is the reply of the
whole, at the offset where it arose. -/
theorem run_eq_fault_of_calls {inner : Parser γ} {outer : Parser α} {stop offset reached : Int}
    {cause : Fault} (h : Calls rounds source inner stop outer offset)
    (hfault : inner.run rounds source stop = ⟨.fault cause, reached⟩) :
    outer.run rounds source offset = ⟨.fault cause, reached⟩ := by
  induction h with
  | here => exact hfault
  | first next _ ih => exact run_bind_fault rounds source _ ih
  | next hfirst _ ih =>
    rw [run_bind_accept rounds source _ hfirst, ih]
    rfl
  | transform treat _ ih => simp only [Parser.transform, ih]
  | optional _ ih => exact run_optional_eq_fault_iff.mpr ih
  | oneOf hpassed _ ih =>
    rw [run_oneOf_append _ hpassed]
    simp only [Parser.oneOf, ih]
  | @element _ _ element separator round offset head hround hleft _ ih =>
    obtain ⟨left, committed, found, hrun⟩ := hround.run_round hleft
    rw [hrun]
    simp only [manyFrom, ih]
  | @separator _ _ element separator round offset head middle value hround hleft helement _ ih =>
    obtain ⟨left, committed, found, hrun⟩ := hround.run_round hleft
    rw [hrun]
    simp only [manyFrom, helement, ih]

end

/-! ## Where faults come from -/

/-- With rounds enough, every fault of the parser is that of a number which it reads on the
way. -/
def Traced (parser : Parser α) : Prop :=
  ∀ ⦃rounds : Nat⦄ ⦃source : Text⦄ ⦃place : Nat⦄ ⦃cause : Fault⦄ ⦃reached : Int⦄,
    source.length - place < rounds →
    parser.run rounds source place = ⟨.fault cause, reached⟩ →
    ∃ stop : Nat, Calls rounds source number stop parser place ∧
      number.run rounds source stop = ⟨.fault cause, reached⟩

theorem traced_number : Traced number := fun _ _ place _ _ _ hfault => ⟨place, .here, hfault⟩

theorem Traced.bind {first : Parser α} {next : α → Parser β} (hfirst : Traced first)
    (hforward : Forward first) (hnext : ∀ a, Traced (next a)) :
    Traced (first >>= next) := by
  intro rounds source place cause reached hrounds hfault
  rcases run_bind_cases first next rounds source place with
    ⟨value, middle, hf, hb⟩ | ⟨middle, -, hb⟩ | ⟨other, middle, hf, hb⟩
  · rw [hb, Reply.rollback_eq_fault_iff] at hfault
    obtain ⟨middle, rfl, hle, hmax⟩ := (hforward hf).exists_natCast
    obtain ⟨stop, hcalls, hnumber⟩ := hnext value (by omega) hfault
    exact ⟨stop, .next hf hcalls, hnumber⟩
  · rw [hb] at hfault
    cases hfault
  · rw [hb] at hfault
    cases hfault
    obtain ⟨stop, hcalls, hnumber⟩ := hfirst hrounds hf
    exact ⟨stop, .first next hcalls, hnumber⟩

theorem Traced.transform {parser : Parser α} {treat : α → Verdict β} (h : Traced parser)
    (htreat : ∀ value cause, treat value ≠ .fault cause) : Traced (parser.transform treat) := by
  intro rounds source place cause reached hrounds hfault
  rcases run_transform_cases parser treat rounds source place with
    ⟨value, middle, -, ht⟩ | ⟨middle, -, ht⟩ | ⟨other, middle, hp, ht⟩
  · rw [ht] at hfault
    exact absurd (Reply.mk.inj hfault).1 (htreat value cause)
  · rw [ht] at hfault
    cases hfault
  · rw [ht] at hfault
    cases hfault
    obtain ⟨stop, hcalls, hnumber⟩ := h hrounds hp
    exact ⟨stop, .transform treat hcalls, hnumber⟩

theorem Traced.optional {parser : Parser α} (h : Traced parser) : Traced parser.optional := by
  intro rounds source place cause reached hrounds hfault
  obtain ⟨stop, hcalls, hnumber⟩ := h hrounds (run_optional_eq_fault_iff.mp hfault)
  exact ⟨stop, .optional hcalls, hnumber⟩

theorem Traced.oneOf {alternatives : List (Parser α)}
    (h : ∀ alternative ∈ alternatives, Traced alternative) : Traced (oneOf alternatives) := by
  intro rounds source place cause reached hrounds hfault
  -- the alternatives before the one that stops have rejected
  suffices hsplit : ∃ passed alternative others,
      alternatives = passed ++ alternative :: others ∧
      (∀ other ∈ passed, ∃ middle, other.run rounds source place = ⟨.reject, middle⟩) ∧
      alternative.run rounds source place = ⟨.fault cause, reached⟩ by
    obtain ⟨passed, alternative, others, rfl, hpassed, halternative⟩ := hsplit
    obtain ⟨stop, hcalls, hnumber⟩ := h alternative (by simp) hrounds halternative
    exact ⟨stop, .oneOf hpassed hcalls, hnumber⟩
  clear h
  induction alternatives with
  | nil => cases hfault
  | cons alternative others ih =>
    rcases run_oneOf_cases alternative others rounds source place with
      ⟨ho, -⟩ | ⟨middle, hreject, ho⟩
    · exact ⟨[], alternative, others, rfl, by simp, by rw [← ho, hfault]⟩
    · rw [ho] at hfault
      obtain ⟨passed, stopping, more, rfl, hpassed, hstopping⟩ := ih hfault
      refine ⟨alternative :: passed, stopping, more, rfl, ?_, hstopping⟩
      intro other hother
      rcases List.mem_cons.mp hother with rfl | hother
      · exact ⟨middle, hreject⟩
      · exact hpassed other hother

/-- From any of its rounds on, a repetition with rounds enough stops at a number that is read in
that round or in a later one. -/
theorem manyFrom_traced {element : Parser α} {separator : Parser β} (helement : Traced element)
    (hforward : Forward element) (hseparator : Traced separator)
    (hforward' : Forward separator) {rounds : Nat} {source : Text} {place : Nat}
    {cause : Fault} {reached : Int} (left : Nat) {round head : Nat} (committed : Int)
    (found : List α) (hround : RoundStart element separator rounds source place round head)
    (hrounds : round + left = rounds) (hleft : source.length - head < left)
    (hfault : manyFrom element separator rounds source left committed head found =
      ⟨.fault cause, reached⟩) :
    ∃ stop : Nat, Calls rounds source number stop (many element separator) place ∧
      number.run rounds source stop = ⟨.fault cause, reached⟩ := by
  induction left generalizing round head committed found with
  | zero => exact absurd hleft (Nat.not_lt_zero _)
  | succ left ih =>
    rcases manyFrom_succ_cases element separator rounds source left committed head found with
      ⟨_, -, hm⟩ | ⟨other, middle, hf, hm⟩ | ⟨value, middle, hf, hnext⟩
    · rw [hm] at hfault
      cases hfault
    · rw [hm] at hfault
      cases hfault
      obtain ⟨stop, hcalls, hnumber⟩ := helement (by omega) hf
      exact ⟨stop, .element hround (by omega) hcalls, hnumber⟩
    · obtain ⟨middle, rfl, hle, hmax⟩ := (hforward hf).exists_natCast
      rcases hnext with ⟨_, -, hm⟩ | ⟨other, stop, hg, hm⟩ | ⟨_, -, hm⟩ |
        ⟨gap, after, hg, hmove, hm⟩
      · rw [hm] at hfault
        cases hfault
      · rw [hm] at hfault
        cases hfault
        obtain ⟨stop, hcalls, hnumber⟩ := hseparator (by omega) hg
        exact ⟨stop, .separator hround (by omega) hf hcalls, hnumber⟩
      · rw [hm] at hfault
        cases hfault
      · rw [hm] at hfault
        obtain ⟨after, rfl, hle', hmax'⟩ := (hforward' hg).exists_natCast
        -- the round has moved, so fewer characters are left for those to come
        have hne : after ≠ head := fun heq => hmove (by rw [heq])
        exact ih middle (value :: found) (hround.next hf hg hmove) (by omega) (by omega) hfault

theorem Traced.many {element : Parser α} {separator : Parser β} (helement : Traced element)
    (hforward : Forward element) (hseparator : Traced separator)
    (hforward' : Forward separator) : Traced (many element separator) := by
  intro rounds source place cause reached hrounds hfault
  exact manyFrom_traced helement hforward hseparator hforward' rounds place [] .first
    (Nat.zero_add rounds) hrounds hfault

/-- What stops for want of rounds only does not stop with rounds enough. -/
theorem Orderly.traced {parser : Parser α} (h : Orderly (fun _ _ _ => False) parser) :
    Traced parser := by
  intro rounds source place cause reached hrounds hfault
  have hreply := h.reply rounds source place
  rw [hfault] at hreply
  cases hreply with
  | fault _ _ _ _ hcause =>
    rcases hcause with hnever | ⟨-, hfew⟩
    · exact hnever.elim
    · omega

/-- What is put in sequence from scanning parsers stops at numbers only. -/
theorem Straight.traced {parser : Parser α} (h : Straight parser) : Traced parser := by
  induction h with
  | pure value => exact (orderly_pure value).traced
  | literal text => exact (orderly_literal text).traced
  | takeWhile belongs => exact (orderly_takeWhile belongs).traced
  | through delimiter => exact (orderly_through delimiter).traced
  | number => exact traced_number
  | bind hfirst _ ihfirst ihnext => exact ihfirst.bind hfirst.forward ihnext

/-- What is combined from scanning parsers stops at numbers only, unless a mapping fails. -/
theorem Built.traced {parser : Parser α} (h : Built (fun _ => False) parser) : Traced parser := by
  induction h with
  | straight h => exact h.traced
  | bind hfirst _ ihfirst ihnext => exact ihfirst.bind hfirst.forward ihnext
  | transform _ htreat ih => exact ih.transform htreat
  | optional _ ih => exact ih.optional
  | oneOf _ ih => exact Traced.oneOf ih
  | many helement hseparator ihelement ihseparator =>
    exact ihelement.many helement.forward ihseparator hseparator.forward

/-- A number stops exactly at a run of digits that is too long, in front of its first one. -/
theorem run_number_eq_fault_iff {rounds : Nat} {source : Text} {place : Nat} {cause : Fault}
    {reached : Int} :
    number.run rounds source place = ⟨.fault cause, reached⟩ ↔
      reached = place ∧ IsLongNumeral source place cause := by
  rw [run_number, IsLongNumeral]
  dsimp only
  generalize (source.drop place).takeWhile Char.isDigit = run
  by_cases hrun : run = []
  · rw [if_pos hrun, hrun]
    simp
  · rw [if_neg hrun]
    by_cases hlong : maxDigits < run.length
    · rw [if_pos hlong]
      simp [hlong, eq_comm, and_comm]
    · rw [if_neg hlong]
      simp [hlong]

end Parser

namespace Description

open Famix.Parser Famix.Grammar

/-- Without leaps and failing mappings, a description stops at the numbers that it reads, with
rounds enough. -/
theorem LeapFree.traced {description : Description} (hleap : description.LeapFree)
    (hmaps : ∀ cause, ¬ description.MappingFault cause) : Traced description.parser :=
  (built_of_leapFree hleap hmaps).traced

/-- **Where a reading stops.** Take a description without leaps and without mappings that fail,
and a start that is counted from the beginning of the source. If it stops, then at a number that
it reads on the way, where a run of more than 4300 digits begins: the offset is the place of the
first of them, and the message gives their number. No sequence, optional part, choice or
repetition takes the offset back: whichever number with too many digits is read on the way, the
whole stops with its fault at its place. And where no run of digits behind the start is too long,
the description accepts or rejects. -/
theorem exists_longNumeral_of_fault {description : Description} (hleap : description.LeapFree)
    (hmaps : ∀ cause, ¬ description.MappingFault cause) (source : Text) (place : Nat) :
    (∀ (cause : Fault) (offset : Int),
      description.reader.replyAt source place = ⟨.fault cause, offset⟩ →
      ∃ (stop : Nat) (digits : Text), offset = stop ∧ place ≤ stop ∧
        digits = (source.drop stop).takeWhile Char.isDigit ∧ 4300 < digits.length ∧
        cause = .tooManyDigits digits.length ∧
        cause.message =
          "Exceeds the limit (4300 digits) for integer string conversion: value has ".toList ++
            Text.ofNat digits.length ++
            " digits; use sys.set_int_max_str_digits() to increase the limit".toList ∧
        ∀ rounds, source.length - place < rounds →
          Calls rounds source Parser.number stop description.parser place) ∧
    (∀ (rounds stop : Nat) (cause : Fault), source.length - place < rounds →
      Calls rounds source Parser.number stop description.parser place →
      IsLongNumeral source stop cause →
      description.reader.replyAt source place = ⟨.fault cause, stop⟩) ∧
    (DigitRunsFit (source.drop place) →
      ∃ offset, (∃ value, description.reader.replyAt source place = ⟨.accept value, offset⟩) ∨
        description.reader.replyAt source place = ⟨.reject, offset⟩) := by
  have htraced := hleap.traced hmaps
  have hstops : ∀ (cause : Fault) (offset : Int),
      description.reader.replyAt source place = ⟨.fault cause, offset⟩ →
      ∃ stop : Nat, offset = stop ∧ place ≤ stop ∧ IsLongNumeral source stop cause := by
    intro cause offset hfault
    obtain ⟨verdict, reached, -, hreply, hle, -, hcauses, -⟩ :=
      exists_reply_of_leapFree hleap source place
    rw [hreply] at hfault
    cases hfault
    refine ⟨reached, rfl, hle, ?_⟩
    exact (hcauses cause rfl).resolve_left (hmaps cause)
  refine ⟨?_, ?_, ?_⟩
  · intro cause offset hfault
    obtain ⟨stop, rfl, hle, hlong⟩ := hstops cause offset hfault
    obtain ⟨hdigits, hcause⟩ := hlong
    refine ⟨stop, _, rfl, hle, rfl, hdigits, hcause, ?_, ?_⟩
    · rw [hcause]
      rfl
    · intro rounds hrounds
      rw [← hleap.run_eq_replyAt (by rwa [placesLeft_natCast])] at hfault
      obtain ⟨other, hcalls, hnumber⟩ := htraced hrounds hfault
      -- the number that is read on the way stops where the whole does
      obtain ⟨hsame, -⟩ := run_number_eq_fault_iff.mp hnumber
      rwa [hsame]
  · intro rounds stop cause hrounds hcalls hlong
    rw [← hleap.run_eq_replyAt (by rwa [placesLeft_natCast])]
    exact run_eq_fault_of_calls hcalls (run_number_eq_fault_iff.mpr ⟨rfl, hlong⟩)
  · intro hfit
    rcases hreply : description.reader.replyAt source place with ⟨verdict, offset⟩
    cases verdict with
    | accept value => exact ⟨offset, .inl ⟨value, rfl⟩⟩
    | reject => exact ⟨offset, .inr rfl⟩
    | fault cause =>
      obtain ⟨stop, -, hle, hlong⟩ := hstops cause offset hreply
      -- the numeral lies behind the start
      have hdrop : (source.drop place).drop (stop - place) = source.drop stop := by
        rw [List.drop_drop, Nat.add_sub_cancel' hle]
      rw [IsLongNumeral, ← hdrop] at hlong
      exact absurd hlong (hfit.not_isLongNumeral (stop - place) cause)

/-- Letters with numbers behind them are repeated with commas in between, if there are any. The
second number is too long. -/
theorem exists_longNumeral_of_fault_inside :
    ∃ (description : Description) (source : Text),
      description =
        skip (optional (many (both (literal "a".toList) number) (literal ",".toList))) ∧
      source = "xa1,a".toList ++ List.replicate 4301 '7' ∧
      description.LeapFree ∧ (∀ cause, ¬ description.MappingFault cause) ∧
      description.reader.replyAt source 1 = ⟨.fault (.tooManyDigits 4301), 5⟩ ∧
      DigitRunsFit ("xa1,a".toList.drop 1) ∧
      ∃ offset, (∃ value, description.reader.replyAt "xa1,a".toList 1 = ⟨.accept value, offset⟩) ∨
        description.reader.replyAt "xa1,a".toList 1 = ⟨.reject, offset⟩ := by
  obtain ⟨element, helement⟩ : ∃ element : Description,
    element = both (literal "a".toList) number := ⟨_, rfl⟩
  obtain ⟨description, hdescription⟩ : ∃ description : Description,
    description = skip (optional (many element (literal ",".toList))) := ⟨_, rfl⟩
  obtain ⟨source, hsource⟩ : ∃ source : Text,
    source = "xa1,a".toList ++ List.replicate 4301 '7' := ⟨_, rfl⟩
  have hleap : description.LeapFree := by
    rw [hdescription, helement]
    decide
  have hmaps : ∀ cause, ¬ description.MappingFault cause := by
    rw [hdescription, helement]
    rintro cause ⟨part, treat, value, hpart, hvalue⟩
    simp only [skip, both, parts, allParts, List.mem_cons, List.mem_append, List.not_mem_nil,
      map.injEq, reduceCtorEq, or_false, List.append_nil, List.cons_append] at hpart
    rw [hpart.2] at hvalue
    cases hvalue
  have hrounds : source.length - 1 < 4400 := by
    rw [hsource, List.length_append, List.length_replicate]
    decide
  have hlong : IsLongNumeral source 5 (.tooManyDigits 4301) := by
    have hdrop : source.drop 5 = List.replicate 4301 '7' := by rw [hsource]; rfl
    rw [IsLongNumeral, hdrop, List.takeWhile_replicate, if_pos (by decide), List.length_replicate]
    exact ⟨by decide, rfl⟩
  have hcalls : Calls 4400 source Parser.number (5 : Nat) description.parser (1 : Nat) := by
    -- the first round is over, and in the second one the letter has been accepted
    have hvalue : element.parser.run 4400 source 1 =
        ⟨.accept (.tuple [.text "a".toList, .number 1]), 3⟩ := by rw [helement, hsource]; rfl
    have hgap : (literal ",".toList).parser.run 4400 source 3 =
        ⟨.accept (.text ",".toList), 4⟩ := by rw [hsource]; rfl
    have hletter : (literal "a".toList).parser.run 4400 source 4 =
        ⟨.accept (.text "a".toList), 5⟩ := by rw [hsource]; rfl
    have hnumber : Calls 4400 source Parser.number (5 : Nat) number.parser (5 : Nat) :=
      .transform _ .here
    have hround : RoundStart element.parser (literal ",".toList).parser 4400 source 1 1 4 :=
      .next .first hvalue hgap (by decide)
    have hpair : Calls 4400 source Parser.number (5 : Nat) element.parser 4 := by
      rw [helement]
      exact .transform _ (.next hletter (.first _ (.first _ hnumber)))
    rw [hdescription]
    exact .transform _ (.transform _ (.optional (.transform _
      (.element hround (by decide) hpair))))
  have hfit : DigitRunsFit ("xa1,a".toList.drop 1) := digitRunsFit_of_length_le (by decide)
  obtain ⟨-, hfault, -⟩ := exists_longNumeral_of_fault hleap hmaps source 1
  obtain ⟨-, -, hread⟩ := exists_longNumeral_of_fault hleap hmaps "xa1,a".toList 1
  rw [helement] at hdescription
  exact ⟨description, source, hdescription, hsource, hleap, hmaps,
    hfault 4400 5 _ hrounds hcalls hlong, hfit, hread hfit⟩

/-- From an offset that is counted from the end, a run of digits is followed beyond the end of the
source. The piece between its two ends may then be empty, and a number stops at that although no
run of digits is long. -/
theorem replyAt_number_eq_fault_of_neg :
    number.LeapFree ∧ (∀ cause, ¬ number.MappingFault cause) ∧ DigitRunsFit "a1".toList ∧
      number.reader.replyAt "a1".toList (-1) = ⟨.fault .noDigits, -1⟩ := by
  refine ⟨by decide, ?_, digitRunsFit_of_length_le (by decide), rfl⟩
  rintro cause ⟨part, treat, value, hpart, -⟩
  simp [parts] at hpart

end Description

end Famix
