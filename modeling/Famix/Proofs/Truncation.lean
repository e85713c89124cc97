/-
Texts that are cut short.

A text that is typed line by line is read again and again before it is complete. What is read
then is the beginning of a text that will match, and the question is what a parser does where
the text has been cut off. A straight parser does what it does on the whole text, or it rejects,
or it accepts up to the cut: the cut can shorten a run of characters and hide what comes behind
it, and nothing else. Only where the cut goes through a numeral that is too long, two faults may
differ (`Straight.frays`), and where the whole text stops nothing they do not
(`Straight.tapers`).

For the grammar this means that no beginning of a text that matches stops the reading
(`exists_readModel_of_append`). The runs of digits in names may be as long as they like for
that, since only what is read as a numeral can stop it.
-/
import Famix.Proofs.Totality

set_option autoImplicit false

namespace Famix

variable {α β : Type}

/-- A reply that stops the reading. -/
def Reply.IsFault (reply : Reply α) : Prop := ∃ cause offset, reply = ⟨.fault cause, offset⟩

/-- A rejection, or an acceptance up to the end of a text of this length. -/
inductive Reply.Ends (length : Nat) : Reply α → Prop
  | reject (reached : Int) : Ends length ⟨.reject, reached⟩
  | accept (value : α) : Ends length ⟨.accept value, (length : Nat)⟩

theorem Reply.not_isFault_accept {value : α} {offset : Int} :
    ¬ (⟨.accept value, offset⟩ : Reply α).IsFault := by
  rintro ⟨cause, reached, h⟩
  cases h

theorem Reply.Ends.not_isFault {length : Nat} {reply : Reply α} (h : reply.Ends length) :
    ¬ reply.IsFault := by
  rintro ⟨cause, offset, rfl⟩
  cases h

/-- To be taken back makes a rejection of the reply, or leaves it as it is. -/
theorem Reply.Ends.rollback {length : Nat} {reply : Reply α} (h : reply.Ends length)
    (start : Int) : (reply.rollback start).Ends length := by
  cases h with
  | reject reached => exact .reject start
  | accept value => exact .accept value

/-- What accepts up to the end leaves off there. -/
theorem Reply.Ends.eq_of_accept {length reached : Nat} {value : α}
    (h : (⟨.accept value, reached⟩ : Reply α).Ends length) : reached = length := by
  cases h
  rfl

@[simp] theorem Reply.isFault_rollback_iff {reply : Reply α} {start : Int} :
    (reply.rollback start).IsFault ↔ reply.IsFault := by
  obtain ⟨verdict, offset⟩ := reply
  cases verdict with
  | accept value => rw [rollback_accept]
  | reject => simp [IsFault, rollback_reject]
  | fault cause => rw [rollback_fault]

/-- The last character of a text is a digit, and what is written behind it may carry on a
numeral. -/
def Text.EndsInDigit (text : Text) : Prop := ∃ c ∈ text.getLast?, c.isDigit = true

/-- Up to the end of a text, the same lies ahead whether more text follows it or not. -/
theorem Text.unread_cut {source : Text} {place : Nat} (more : Text) (h : place ≤ source.length) :
    unread source place = some (source.drop place) ∧
      unread (source ++ more) place = some (source.drop place ++ more) := by
  constructor
  · exact unread_of_le h
  · refine unread_natCast_eq_some_iff.mpr ⟨?_, List.drop_append_of_le_length h⟩
    rw [List.length_append]
    omega

namespace Parser

/-! ## Parsers at a cut -/

/-- On a beginning of a text the parser replies what it replies on the whole text, it rejects, or
it accepts up to the end; unless the cut goes through a numeral that stops it on the whole
text. -/
def Frays (parser : Parser α) : Prop :=
  ∀ (rounds : Nat) (source more : Text) (place : Nat), source.length < rounds →
    place ≤ source.length →
    parser.run rounds source place = parser.run rounds (source ++ more) place ∨
      (parser.run rounds source place).Ends source.length ∨
      (source.EndsInDigit ∧ (parser.run rounds (source ++ more) place).IsFault)

/-- Wherever the parser does not stop on a whole text, its reply on a beginning of the text is
that reply, a rejection, or an acceptance up to the end. -/
def Tapers (parser : Parser α) : Prop :=
  ∀ (rounds : Nat) (source more : Text) (place : Nat), source.length < rounds →
    place ≤ source.length → ¬ (parser.run rounds (source ++ more) place).IsFault →
    parser.run rounds source place = parser.run rounds (source ++ more) place ∨
      (parser.run rounds source place).Ends source.length

/-- Wherever the parser does not stop on a whole text, it does not stop on a beginning of it. -/
def Withstands (parser : Parser α) : Prop :=
  ∀ (rounds : Nat) (source more : Text) (place : Nat), source.length < rounds →
    place ≤ source.length → ¬ (parser.run rounds (source ++ more) place).IsFault →
    ¬ (parser.run rounds source place).IsFault

/-- What tapers stops at a cut only where it stops on the whole text. -/
theorem Tapers.withstands {parser : Parser α} (h : Tapers parser) : Withstands parser := by
  intro rounds source more place hrounds hplace hwhole
  rcases h rounds source more place hrounds hplace hwhole with hsame | hends
  · rw [hsame]
    exact hwhole
  · exact hends.not_isFault

/-- At the end of a text there is no numeral left to stop at. -/
theorem Orderly.ends {parser : Parser α} (h : Orderly IsLongNumeral parser) {rounds : Nat}
    {source : Text} (hrounds : source.length < rounds) :
    (parser.run rounds source source.length).Ends source.length := by
  have hend := h.reply rounds source source.length
  generalize parser.run rounds source source.length = reply at hend ⊢
  cases hend with
  | accept value reached hle hmax =>
    obtain rfl : reached = source.length := by omega
    exact .accept value
  | reject reached => exact .reject reached
  | fault cause reached hle hmax hcause =>
    exfalso
    rcases hcause with ⟨hlong, -⟩ | ⟨-, hspent⟩
    · rw [List.drop_eq_nil_of_le (by omega)] at hlong
      exact Nat.not_lt_zero _ hlong
    · omega

/-- A parser for which no fault is allowed stops nowhere if the rounds suffice. -/
theorem Orderly.not_isFault {parser : Parser α} (h : Orderly (fun _ _ _ => False) parser)
    {rounds : Nat} {source : Text} (hrounds : source.length < rounds) (place : Nat) :
    ¬ (parser.run rounds source place).IsFault := by
  rintro ⟨cause, offset, hfault⟩
  have hreply := h.reply rounds source place
  rw [hfault] at hreply
  cases hreply with
  | fault _ _ _ _ hcause =>
    rcases hcause with hallowed | ⟨-, hspent⟩
    · exact hallowed
    · omega

/-! ## Scanning parsers -/

/-- A fixed text that lies ahead of the cut lies ahead in the whole text, and otherwise it is
rejected at the cut, whether the whole text has it or not. -/
theorem frays_literal (text : Text) : Frays (literal text) := by
  intro rounds source more place _ hplace
  obtain ⟨hcut, hwhole⟩ := Text.unread_cut more hplace
  rw [run_literal rounds text hcut, run_literal rounds text hwhole]
  by_cases hp : text.isPrefixOf (source.drop place) = true
  · have hp' : text.isPrefixOf (source.drop place ++ more) = true :=
      List.isPrefixOf_iff_prefix.mpr
        ((List.isPrefixOf_iff_prefix.mp hp).trans (List.prefix_append _ _))
    rw [if_pos hp, if_pos hp']
    exact .inl rfl
  · rw [if_neg hp]
    exact .inr (.inl (.reject _))

/-- A delimiter that is found is found at the same place in the whole text. -/
theorem frays_through (delimiter : Text) : Frays (through delimiter) := by
  intro rounds source more place _ hplace
  obtain ⟨hcut, hwhole⟩ := Text.unread_cut more hplace
  rw [run_through rounds delimiter hcut, run_through rounds delimiter hwhole]
  cases hpiece : Text.upThrough delimiter (source.drop place) with
  | none => exact .inr (.inl (.reject _))
  | some piece =>
    -- the delimiter that is found comes first in the whole text too
    obtain ⟨⟨rest, hrest⟩, hends⟩ := Text.upThrough_eq_some_iff.mp hpiece
    rw [hrest, List.append_assoc, Text.upThrough_append hends]
    exact .inl rfl

/-- A run of characters is the same on the whole text, or it is all that lies ahead of the cut
and goes on behind it. -/
theorem takeWhile_cut (belongs : Char → Bool) {source : Text} {place : Nat} (more : Text)
    (hplace : place ≤ source.length) :
    (source.drop place).takeWhile belongs = ((source ++ more).drop place).takeWhile belongs ∨
      (source.drop place).takeWhile belongs = source.drop place ∧
        source.drop place <+: ((source ++ more).drop place).takeWhile belongs := by
  rw [List.drop_append_of_le_length hplace, List.takeWhile_append]
  -- whether the run takes all that lies ahead of the cut
  by_cases hall : ((source.drop place).takeWhile belongs).length = (source.drop place).length
  · have heq : (source.drop place).takeWhile belongs = source.drop place :=
      (List.takeWhile_prefix belongs).eq_of_length hall
    rw [if_pos hall]
    exact .inr ⟨heq, List.prefix_append _ _⟩
  · rw [if_neg hall]
    exact .inl rfl

/-- A run goes up to the cut, or it has ended before. -/
theorem frays_takeWhile (belongs : Char → Bool) : Frays (takeWhile belongs) := by
  intro rounds source more place _ hplace
  rw [run_takeWhile, run_takeWhile]
  rcases takeWhile_cut belongs more hplace with hsame | ⟨hall, -⟩
  · rw [hsame]
    exact .inl rfl
  · have hend : place + (source.drop place).length = source.length := by
      rw [List.length_drop]
      omega
    rw [hall, hend]
    exact .inr (.inl (.accept _))

/-- A run of digits up to the cut is empty, a numeral that ends there, or a part of a numeral
that is too long. -/
theorem frays_number : Frays number := by
  intro rounds source more place _ hplace
  rw [run_number, run_number]
  rcases takeWhile_cut Char.isDigit more hplace with hsame | ⟨hall, hprefix⟩
  · rw [hsame]
    exact .inl rfl
  · rw [hall]
    dsimp only
    by_cases hnone : source.drop place = []
    · rw [if_pos hnone]
      exact .inr (.inl (.reject _))
    · by_cases hlong : maxDigits < (source.drop place).length
      · -- the run goes on from the last character, so it is too long on the whole text as well
        have hmany := hprefix.length_le
        have hsome : ((source ++ more).drop place).takeWhile Char.isDigit ≠ [] := by
          intro hnil
          rw [hnil] at hprefix
          exact hnone (List.prefix_nil.mp hprefix)
        rw [if_neg hsome, if_pos (Nat.lt_of_lt_of_le hlong hmany)]
        refine .inr (.inr ⟨⟨(source.drop place).getLast hnone, ?_, ?_⟩, _, _, rfl⟩)
        · have hlast : (source.drop place).getLast? = source.getLast? := by
            rw [List.getLast?_drop, if_neg fun hle => hnone (List.drop_eq_nil_of_le hle)]
          rw [← hlast, Option.mem_def, List.getLast?_eq_some_getLast hnone]
        · exact List.takeWhile_eq_self_iff.mp hall _ (List.getLast_mem hnone)
      · have hend : place + (source.drop place).length = source.length := by
          rw [List.length_drop]
          omega
        rw [if_neg hnone, if_neg hlong, hend]
        exact .inr (.inl (.accept _))

/-! ## Sequences -/

/-- A sequence frays as its parts do. If the first part accepts up to the cut, the second one
starts at the end of the text. -/
theorem Frays.bind {first : Parser α} {next : α → Parser β} (hfirst : Frays first)
    (horderly : Orderly IsLongNumeral first) (hnext : ∀ a, Frays (next a))
    (horderly' : ∀ a, Orderly IsLongNumeral (next a)) : Frays (first >>= next) := by
  intro rounds source more place hrounds hplace
  -- the first part does the same on both texts, comes to the cut, or stops on the whole text at a
  -- numeral that the cut goes through
  rcases hfirst rounds source more place hrounds hplace with hsame | hends | ⟨hdigit, hfault⟩
  · have hforward := horderly.reply rounds source place
    rcases run_bind_cases first next rounds source place with
      ⟨value, reached, hf, hb⟩ | ⟨reached, hf, hb⟩ | ⟨cause, reached, hf, hb⟩
    · rw [hf] at hsame hforward
      cases hforward with
      | accept _ reached hle hmax =>
        -- both runs go on from the same place
        rw [hb, run_bind_accept rounds (source ++ more) place hsame.symm]
        rcases hnext value rounds source more reached hrounds (by omega) with
          hsame | hends | ⟨hdigit, hfault⟩
        · rw [hsame]
          exact .inl rfl
        · exact .inr (.inl (hends.rollback _))
        · exact .inr (.inr ⟨hdigit, Reply.isFault_rollback_iff.mpr hfault⟩)
    · rw [hf] at hsame
      rw [hb, run_bind_reject rounds (source ++ more) place hsame.symm]
      exact .inl rfl
    · rw [hf] at hsame
      rw [hb, run_bind_fault rounds (source ++ more) place hsame.symm]
      exact .inl rfl
  · refine .inr (.inl ?_)
    generalize hreply : first.run rounds source place = reply at hends
    cases hends with
    | reject reached =>
      rw [run_bind_reject rounds source place hreply]
      exact .reject _
    | accept value =>
      rw [run_bind_accept rounds source place hreply]
      exact ((horderly' value).ends hrounds).rollback _
  · obtain ⟨cause, reached, hfault⟩ := hfault
    exact .inr (.inr ⟨hdigit, cause, reached, run_bind_fault rounds _ place hfault⟩)

/-- Straight parsers fray at a cut, and do not change otherwise. -/
theorem Straight.frays {parser : Parser α} (h : Straight parser) : Frays parser := by
  induction h with
  | pure value => exact fun _ _ _ _ _ _ => .inl rfl
  | literal text => exact frays_literal text
  | takeWhile belongs => exact frays_takeWhile belongs
  | through delimiter => exact frays_through delimiter
  | number => exact frays_number
  | bind hfirst hnext ihfirst ihnext =>
    exact ihfirst.bind hfirst.orderly_of_isLongNumeral ihnext
      fun a => (hnext a).orderly_of_isLongNumeral

/-- Straight parsers taper. -/
theorem Straight.tapers {parser : Parser α} (h : Straight parser) : Tapers parser := by
  intro rounds source more place hrounds hplace hwhole
  rcases h.frays rounds source more place hrounds hplace with hsame | hends | ⟨-, hfault⟩
  · exact .inl hsame
  · exact .inr hends
  · exact absurd hfault hwhole

/-- A sequence withstands a cut if its first part is straight and its second part
withstands. -/
theorem Withstands.bind {first : Parser α} {next : α → Parser β} (hfirst : Straight first)
    (hnext : ∀ a, Withstands (next a)) (hbuilt : ∀ a, Built (fun _ => False) (next a)) :
    Withstands (first >>= next) := by
  intro rounds source more place hrounds hplace hwhole hcut
  have hfirst' : ¬ (first.run rounds (source ++ more) place).IsFault := by
    rintro ⟨cause, offset, hfault⟩
    exact hwhole ⟨cause, offset, run_bind_fault rounds _ place hfault⟩
  have htapers := hfirst.tapers rounds source more place hrounds hplace hfirst'
  -- a fault of the chain is one of its parts, and neither can have one: the first part tapers, and
  -- the second one starts at the same place in both texts or at the end of the shorter one
  rcases run_bind_cases first next rounds source place with
    ⟨value, reached, hf, hb⟩ | ⟨reached, hf, hb⟩ | ⟨cause, reached, hf, hb⟩
  · have hforward := hfirst.orderly_of_isLongNumeral.reply rounds source place
    rw [hf] at htapers hforward
    rw [hb, Reply.isFault_rollback_iff] at hcut
    cases hforward with
    | accept _ reached hle hmax =>
      rcases htapers with hsame | hend
      · -- both runs go on from the same place
        rw [run_bind_accept rounds (source ++ more) place hsame.symm,
          Reply.isFault_rollback_iff] at hwhole
        exact hnext value rounds source more reached hrounds (by omega) hwhole hcut
      · cases hend
        exact ((hbuilt value).orderly_of_isLongNumeral.ends hrounds).not_isFault hcut
  · rw [hb] at hcut
    obtain ⟨cause, offset, hcut⟩ := hcut
    cases hcut
  · rw [hf] at htapers
    rcases htapers with hsame | hend
    · exact hfirst' ⟨cause, reached, hsame.symm⟩
    · cases hend

/-- A sequence withstands a cut if its first part does and its second part stops nowhere. -/
theorem Withstands.bind_of_faultless {first : Parser α} {next : α → Parser β}
    (hfirst : Withstands first) (hbuilt : Built (fun _ => False) first)
    (hnext : ∀ a, Orderly (fun _ _ _ => False) (next a)) : Withstands (first >>= next) := by
  intro rounds source more place hrounds hplace hwhole hcut
  have hfirst' : ¬ (first.run rounds source place).IsFault := by
    refine hfirst rounds source more place hrounds hplace ?_
    rintro ⟨cause, offset, hfault⟩
    exact hwhole ⟨cause, offset, run_bind_fault rounds _ place hfault⟩
  -- here the first part need not do the same on both texts, because no place stops the second one
  rcases run_bind_cases first next rounds source place with
    ⟨value, reached, hf, hb⟩ | ⟨reached, hf, hb⟩ | ⟨cause, reached, hf, hb⟩
  · have hforward := hbuilt.orderly_of_isLongNumeral.reply rounds source place
    rw [hf] at hforward
    rw [hb, Reply.isFault_rollback_iff] at hcut
    cases hforward with
    | accept _ reached => exact (hnext value).not_isFault hrounds reached hcut
  · rw [hb] at hcut
    obtain ⟨cause, offset, hcut⟩ := hcut
    cases hcut
  · exact hfirst' ⟨cause, reached, hf⟩

/-! ## Optional parts and repetitions -/

theorem Withstands.optional {parser : Parser α} (h : Withstands parser) :
    Withstands parser.optional := by
  intro rounds source more place hrounds hplace hwhole hcut
  simp only [Reply.IsFault, run_optional_eq_fault_iff] at hwhole hcut
  exact h rounds source more place hrounds hplace hwhole hcut

section

variable {element : Parser α} {separator : Parser β}

/-- At the end of a text a repetition ends in its first round or its second one. -/
theorem manyFrom_at_end (helement : Orderly IsLongNumeral element)
    (hseparator : Orderly IsLongNumeral separator) {rounds : Nat} {source : Text}
    (hrounds : source.length < rounds) (left : Nat) (committed : Int) (found : List α) :
    ¬ (manyFrom element separator rounds source (left + 1) committed source.length
      found).IsFault := by
  rintro ⟨cause, offset, h⟩
  have he := helement.ends hrounds
  have hs := hseparator.ends hrounds
  -- an element that is accepted at the end is empty, and so is a separator behind it: the round has
  -- not moved and is the last one
  rcases manyFrom_succ_cases element separator rounds source left committed source.length found
    with ⟨_, -, hm⟩ | ⟨_, _, hf, -⟩ | ⟨value, middle, hf, hround⟩
  · rw [hm] at h
    cases h
  · rw [hf] at he
    cases he
  · rw [hf] at he
    cases he
    rcases hround with ⟨_, -, hm⟩ | ⟨_, _, hg, -⟩ | ⟨_, -, hm⟩ | ⟨_, after, hg, hmove, -⟩
    · rw [hm] at h
      cases h
    · rw [hg] at hs
      cases hs
    · rw [hm] at h
      cases h
    · rw [hg] at hs
      cases hs
      exact hmove rfl

/-- Behind an element the separator does on a beginning of a text what it does on the whole
text, and the element does so too, or one of them has come to the end. -/
theorem Tapers.behind (hseparator : Tapers separator)
    (hforward : Orderly IsLongNumeral separator) {rounds : Nat} {source more : Text}
    {head middle : Nat} {value : α} (hrounds : source.length < rounds)
    (hmiddle : middle ≤ source.length)
    (helement : (⟨.accept value, middle⟩ : Reply α) = element.run rounds (source ++ more) head ∨
      (⟨.accept value, middle⟩ : Reply α).Ends source.length)
    (hwhole : ∀ (middle : Int) (value : α),
      element.run rounds (source ++ more) head = ⟨.accept value, middle⟩ →
      ¬ (separator.run rounds (source ++ more) middle).IsFault) :
    (element.run rounds (source ++ more) head = ⟨.accept value, middle⟩ ∧
      separator.run rounds source middle = separator.run rounds (source ++ more) middle) ∨
      (separator.run rounds source middle).Ends source.length := by
  rcases helement with hsame | hend
  · rcases hseparator rounds source more middle hrounds hmiddle (hwhole middle value hsame.symm)
      with hs | hs
    · exact .inl ⟨hsame.symm, hs⟩
    · exact .inr hs
  · obtain rfl : middle = source.length := by
      cases hend
      rfl
    exact .inr (hforward.ends hrounds)

/-- From any of its rounds on, a repetition whose parts taper withstands a cut. As long as its
parts do the same on both texts, the rounds are the same; the first part that does not leads
to the end of the text. -/
theorem manyFrom_withstands (helement : Tapers element)
    (hforward : Orderly IsLongNumeral element) (hseparator : Tapers separator)
    (hforward' : Orderly IsLongNumeral separator) {rounds : Nat} {source : Text} (more : Text)
    (hrounds : source.length < rounds) (left : Nat) (committed : Int) {head : Nat}
    (found : List α) (hhead : head ≤ source.length) (hleft : source.length - head < left)
    (hwhole : ¬ (manyFrom element separator rounds (source ++ more) left committed head
      found).IsFault) :
    ¬ (manyFrom element separator rounds source left committed head found).IsFault := by
  -- on the rounds that are left, as long as both texts have the same rounds
  induction left generalizing committed head found with
  | zero => exact absurd hleft (Nat.not_lt_zero _)
  | succ left ih =>
    -- a fault of a part on the whole text would be a fault of the repetition
    have hwhole₁ : ¬ (element.run rounds (source ++ more) head).IsFault := by
      rintro ⟨cause, offset, hfault⟩
      exact hwhole ⟨cause, offset, by simp only [manyFrom, hfault]⟩
    have hwhole₂ : ∀ (middle : Int) (value : α),
        element.run rounds (source ++ more) head = ⟨.accept value, middle⟩ →
        ¬ (separator.run rounds (source ++ more) middle).IsFault := by
      rintro middle value haccept ⟨cause, offset, hfault⟩
      exact hwhole ⟨cause, offset, by simp only [manyFrom, haccept, hfault]⟩
    have he := helement rounds source more head hrounds hhead hwhole₁
    have hreach := hforward.reply rounds source head
    rcases manyFrom_succ_cases element separator rounds source left committed head found with
      ⟨_, -, hm⟩ | ⟨cause, _, hf, -⟩ | ⟨value, middle, hf, hround⟩
    · rw [hm]
      exact Reply.not_isFault_accept
    · rw [hf] at he
      rcases he with hsame | hend
      · exact absurd ⟨cause, _, hsame.symm⟩ hwhole₁
      · cases hend
    · rw [hf] at he hreach
      cases hreach with
      | accept _ middle hle hmax =>
        -- an element was found; what happens next is up to the separator
        have hmiddle : middle ≤ source.length := by omega
        have hs := hseparator.behind hforward' hrounds hmiddle he hwhole₂
        have hreach' := hforward'.reply rounds source middle
        rcases hround with ⟨_, -, hm⟩ | ⟨cause, stop, hg, -⟩ | ⟨_, -, hm⟩ |
          ⟨_, after, hg, hmove, hm⟩
        · rw [hm]
          exact Reply.not_isFault_accept
        · rw [hg] at hs
          rcases hs with ⟨haccept, hsame⟩ | hend
          · exact absurd ⟨cause, stop, hsame.symm⟩ (hwhole₂ middle value haccept)
          · cases hend
        · rw [hm]
          exact Reply.not_isFault_accept
        · rw [hg] at hs hreach'
          rw [hm]
          cases hreach' with
          | accept _ after hle' hmax' =>
            have hne : after ≠ head := fun heq => hmove (by rw [heq])
            rcases hs with ⟨haccept, hsame⟩ | hend
            · refine ih middle (value :: found) (by omega) (by omega) ?_
              rwa [manyFrom_of_next left committed found haccept hsame.symm hmove] at hwhole
            · -- the separator has come to the end, where one more round is harmless
              obtain rfl : after = source.length := by
                cases hend
                rfl
              obtain ⟨left, rfl⟩ : ∃ n, left = n + 1 := ⟨left - 1, by omega⟩
              exact manyFrom_at_end hforward hforward' hrounds left middle _

/-- A repetition whose parts taper withstands a cut. -/
theorem Withstands.many (helement : Tapers element) (hforward : Orderly IsLongNumeral element)
    (hseparator : Tapers separator) (hforward' : Orderly IsLongNumeral separator) :
    Withstands (many element separator) := by
  intro rounds source more place hrounds hplace hwhole
  exact manyFrom_withstands helement hforward hseparator hforward' more hrounds rounds place []
    hplace (by omega) hwhole

end

end Parser

/-! ## The grammar -/

namespace Grammar

open Famix.Parser

/-- Behind the optional line of a package stands a parenthesis, which stops nothing. -/
theorem withstands_packageRecord : Withstands packageRecord := by
  have hline : Built (fun _ => False) (optional parentPackageLine) :=
    (Built.straight straight_parentPackageLine).optional
  have htail : ∀ name id, Withstands (optional parentPackageLine >>= fun parent =>
      token ")".toList >>= fun _ => pure (Entity.packageRecord name id parent)) :=
    fun name id => straight_parentPackageLine.tapers.withstands.optional.bind_of_faultless hline
      fun parent => (orderly_token _).bind fun _ => orderly_pure _
  exact Withstands.bind (straight_thenSeparator (straight_entityId _))
    (fun id => Withstands.bind straight_nameField (fun name => htail name id)
      fun name => built_packageTail name id)
    fun id => (Built.straight straight_nameField).bind fun name => built_packageTail name id

/-- The records of all kinds withstand a cut; only that of a package is not straight. -/
theorem withstands_recordParserOf (kind : Kind) : Withstands (recordParserOf kind) := by
  by_cases h : kind = .packages
  · subst h
    exact withstands_packageRecord
  · exact (straight_recordParserOf h).tapers.withstands

/-- Where the choice between the kinds does not stop, none of the kinds does: if one of them
accepts, the others refuse, also those that are not tried any more. -/
theorem not_isFault_recordParserOf {rounds : Nat} {source : Text} {place : Nat}
    (hplace : place ≤ source.length) (h : ¬ (entity.run rounds source place).IsFault)
    (kind : Kind) : ¬ ((recordParserOf kind).run rounds source place).IsFault := by
  have hahead : Text.unread source place = some (source.drop place) :=
    Text.unread_of_le hplace
  have hrefused : (∃ stop, (recordParserOf kind).run rounds source place = ⟨.reject, stop⟩) →
      ¬ ((recordParserOf kind).run rounds source place).IsFault := by
    rintro ⟨stop, hreject⟩ ⟨cause, offset, hfault⟩
    rw [hreject] at hfault
    cases hfault
  rcases hrun : entity.run rounds source place with ⟨verdict, reached⟩
  cases verdict with
  | accept record =>
    obtain ⟨t, rest, hsplit, -, ht⟩ := reads_entity hahead hrun
    rw [hsplit] at hahead
    by_cases hkind : kind = record.kind
    · subst hkind
      rw [settles_recordParserOf ht [] rounds source rest place hahead]
      exact Reply.not_isFault_accept
    · obtain ⟨behind, rfl⟩ := ht.opener
      exact hrefused ((refuses_recordParserOf (opener_diverge hkind)).append behind rounds source
        rest place hahead)
  | reject =>
    refine hrefused (exists_reject_of_oneOf hrun _ ?_)
    exact mem_recordParsers_iff.mpr ⟨kind, rfl⟩
  | fault cause => exact absurd ⟨cause, reached, hrun⟩ h

/-- A record that is read in front of a cut is read on the whole text as well: its last character
is its own. -/
theorem stays_entity {rounds : Nat} {source : Text} {place : Nat} {record : Entity}
    {reached : Int} (more : Text) (hplace : place ≤ source.length)
    (h : entity.run rounds source place = ⟨.accept record, reached⟩) :
    entity.run rounds (source ++ more) place = ⟨.accept record, reached⟩ := by
  obtain ⟨hcut, hahead⟩ := Text.unread_cut more hplace
  obtain ⟨t, rest, hsplit, rfl, ht⟩ := reads_entity hcut h
  rw [hsplit, List.append_assoc] at hahead
  exact settles_entity ht [] rounds (source ++ more) _ place hahead

/-- A choice between the kinds of record tapers. -/
theorem tapers_entity : Tapers entity := by
  intro rounds source more place hrounds hplace hwhole
  have hplace' : place ≤ (source ++ more).length := by
    rw [List.length_append]
    omega
  rcases hrun : entity.run rounds source place with ⟨verdict, reached⟩
  cases verdict with
  | accept record => exact .inl (stays_entity more hplace hrun).symm
  | reject => exact .inr (.reject reached)
  | fault cause =>
    obtain ⟨alternative, hmem, hfault⟩ := exists_fault_of_oneOf hrun
    obtain ⟨kind, rfl⟩ := mem_recordParsers_iff.mp hmem
    exact absurd ⟨cause, reached, hfault⟩ (withstands_recordParserOf kind rounds source more place
      hrounds hplace (not_isFault_recordParserOf hplace' hwhole kind))

theorem withstands_model : Withstands model := by
  have hmany : Withstands (many entity separator) :=
    Withstands.many tapers_entity built_entity.orderly_of_isLongNumeral straight_separator.tapers
      straight_separator.orderly_of_isLongNumeral
  have hbuilt : Built (fun _ => False) (many entity separator) :=
    built_entity.many (.straight straight_separator)
  have hclose : ∀ entities : List Entity,
      Straight (token ")".toList >>= fun _ => pure entities) :=
    fun entities => (straight_token _).bind fun _ => .pure _
  exact Withstands.bind (straight_token _)
    (fun _ => hmany.bind_of_faultless hbuilt
      fun entities => (orderly_token _).bind fun _ => orderly_pure _)
    fun _ => hbuilt.bind fun entities => .straight (hclose entities)

end Grammar

open Grammar

/-- The allowance for a whole text serves for its beginnings too. -/
theorem run_model_of_longer (text more : Text) :
    model.run (Parser.allowance text 0) text (0 : Nat) =
      model.run (Parser.allowance (text ++ more) 0) text (0 : Nat) := by
  refine (built_model : Parser.Built (fun _ => False) model).steady text 0 _ _ ?_ ?_
  · exact Parser.length_lt_allowance text 0
  · exact Parser.length_lt_allowance_append text more 0

/-- No beginning of a text that is read stops the reading. -/
theorem exists_readModel_of_append {text more : Text} {whole : Reading Entity}
    (h : readModel (text ++ more) = .ok whole) : ∃ reading, readModel text = .ok reading := by
  cases hcut : readModel text with
  | ok reading => exact ⟨reading, rfl⟩
  | error cause =>
    obtain ⟨offset, hfault⟩ := Parser.read_eq_error_iff.mp hcut
    have hrun : model.run (Parser.allowance (text ++ more) 0) text (0 : Nat) =
        ⟨.fault cause, offset⟩ := (run_model_of_longer text more).symm.trans hfault
    refine absurd ⟨cause, offset, hrun⟩ (withstands_model _ text more 0
      (Parser.length_lt_allowance_append text more 0) (Nat.zero_le _) ?_)
    rintro ⟨cause', offset', hwhole⟩
    have herror : readModel (text ++ more) = .error cause' :=
      Parser.read_eq_error_iff.mpr ⟨offset', hwhole⟩
    rw [h] at herror
    cases herror

end Famix
