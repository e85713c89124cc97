/-
Faults that last.

A numeral that is too long stops the reading with a fault, and a fault passes by everything
that takes back what has been read: no alternative is tried, no list is cut short. So the line
that brought the numeral stays in the buffer, and the question is what becomes of the session.

If the text read so far does not end in a digit, the numeral is at an end, and whatever is
typed behind it, the reading comes to the same numeral by the same way. That is `Persists`,
and it is put together the way the grammar is. In front of the numeral, parsers reply on a
beginning what they reply on the whole text (`Straight.frays`, `stays_entity`), so a sequence
comes to the same part. A choice between the kinds comes to the same kind, since the opening
of the kind lies ahead (`demands_recordParserOf`). A repetition comes to the same round
(`manyFrom_persists`).

A buffer that lines have been typed into ends in a newline. So one fault is for ever, as far as
a session can go without starting its buffer over (`feedAll_of_fault`).
-/
import Famix.Proofs.Barren
import Famix.Proofs.Lines

set_option autoImplicit false

namespace Famix

variable {α β : Type}

namespace Parser

/-! ## Faults in front of a cut -/

/-- A fault on a beginning of a text that does not end in a digit is the same fault at the same
place of the whole text. -/
def Persists (parser : Parser α) : Prop :=
  ∀ (rounds : Nat) (source more : Text) (place : Nat) (cause : Fault) (reached : Int),
    source.length < rounds → place ≤ source.length → ¬ source.EndsInDigit →
    parser.run rounds source place = ⟨.fault cause, reached⟩ →
    parser.run rounds (source ++ more) place = ⟨.fault cause, reached⟩

/-- Unless the cut may go through a numeral, a straight parser does in front of it what it does
on the whole text, or it comes to the end. -/
theorem Straight.eq_or_ends {parser : Parser α} (h : Straight parser) {rounds : Nat}
    {source : Text} {place : Nat} (more : Text) (hrounds : source.length < rounds)
    (hplace : place ≤ source.length) (hend : ¬ source.EndsInDigit) :
    parser.run rounds source place = parser.run rounds (source ++ more) place ∨
      (parser.run rounds source place).Ends source.length := by
  rcases h.frays rounds source more place hrounds hplace with hsame | hends | ⟨hdigit, -⟩
  · exact .inl hsame
  · exact .inr hends
  · exact absurd hdigit hend

theorem Straight.persists {parser : Parser α} (h : Straight parser) : Persists parser := by
  intro rounds source more place cause reached hrounds hplace hend hfault
  have hcut := h.eq_or_ends more hrounds hplace hend
  rw [hfault] at hcut
  rcases hcut with hsame | hends
  · exact hsame.symm
  · exact absurd ⟨cause, reached, rfl⟩ hends.not_isFault

/-- A fault in a later part of a sequence lies behind a first part that has not come to the end
of the text, and so behind the same first part on the whole text. -/
theorem Persists.bind {first : Parser α} {next : α → Parser β} (hfirst : Straight first)
    (hnext : ∀ a, Persists (next a)) (hforward : ∀ a, Orderly IsLongNumeral (next a)) :
    Persists (first >>= next) := by
  intro rounds source more place cause reached hrounds hplace hend hfault
  have hcut := hfirst.eq_or_ends more hrounds hplace hend
  rcases run_bind_cases first next rounds source place with
    ⟨value, middle, hf, hb⟩ | ⟨middle, hf, hb⟩ | ⟨other, middle, hf, hb⟩
  · rw [hb, Reply.rollback_eq_fault_iff] at hfault
    rw [hf] at hcut
    obtain ⟨middle, rfl, -, hmiddle⟩ := (hfirst.forward hf).exists_natCast_of_le hplace
    rcases hcut with hsame | hends
    · rw [run_bind_accept rounds _ place hsame.symm, Reply.rollback_eq_fault_iff]
      exact hnext value rounds source more middle cause reached hrounds hmiddle hend hfault
    · -- at the end of the text there is no numeral
      obtain rfl : middle = source.length := hends.eq_of_accept
      have hnone := (hforward value).ends hrounds
      rw [hfault] at hnone
      exact absurd ⟨cause, reached, rfl⟩ hnone.not_isFault
  · rw [hb] at hfault
    cases hfault
  · rw [hb] at hfault
    rw [hf] at hcut
    cases hfault
    rcases hcut with hsame | hends
    · exact run_bind_fault rounds _ place hsame.symm
    · exact absurd ⟨cause, reached, rfl⟩ hends.not_isFault

/-- A sequence whose second part stops nowhere stops with its first part. -/
theorem Persists.bind_of_faultless {first : Parser α} {next : α → Parser β}
    (hfirst : Persists first) (hforward : Forward first)
    (hnext : ∀ a, Orderly (fun _ _ _ => False) (next a)) : Persists (first >>= next) := by
  intro rounds source more place cause reached hrounds hplace hend hfault
  rcases run_bind_cases first next rounds source place with
    ⟨value, middle, hf, hb⟩ | ⟨middle, hf, hb⟩ | ⟨other, middle, hf, hb⟩
  · rw [hb, Reply.rollback_eq_fault_iff] at hfault
    obtain ⟨middle, rfl, -, -⟩ := (hforward hf).exists_natCast
    exact absurd ⟨cause, reached, hfault⟩ ((hnext value).not_isFault hrounds middle)
  · rw [hb] at hfault
    cases hfault
  · rw [hb] at hfault
    cases hfault
    exact run_bind_fault rounds _ place
      (hfirst rounds source more place cause reached hrounds hplace hend hf)

theorem Persists.optional {parser : Parser α} (h : Persists parser) : Persists parser.optional := by
  intro rounds source more place cause reached hrounds hplace hend hfault
  rw [run_optional_eq_fault_iff] at hfault ⊢
  exact h rounds source more place cause reached hrounds hplace hend hfault

section

variable {element : Parser α} {separator : Parser β}

/-- From any of its rounds on, a repetition that stops in front of a cut stops in the same round
on the whole text: the elements and separators up to there are the same. The first separator
that is not has come to the end, where nothing stops any more. -/
theorem manyFrom_persists (helement : Persists element)
    (hforward : Orderly IsLongNumeral element) (hseparator : Straight separator)
    {rounds : Nat} {source : Text} (more : Text)
    (hstays : ∀ (place : Nat) (value : α) (reached : Int), place ≤ source.length →
      element.run rounds source place = ⟨.accept value, reached⟩ →
      element.run rounds (source ++ more) place = ⟨.accept value, reached⟩)
    (hrounds : source.length < rounds) (hend : ¬ source.EndsInDigit) (left : Nat)
    (committed : Int) {head : Nat} (found : List α) {cause : Fault} {reached : Int}
    (hhead : head ≤ source.length) (hleft : source.length - head < left)
    (hfault : manyFrom element separator rounds source left committed head found =
      ⟨.fault cause, reached⟩) :
    manyFrom element separator rounds (source ++ more) left committed head found =
      ⟨.fault cause, reached⟩ := by
  have hforward' : Orderly IsLongNumeral separator := hseparator.orderly_of_isLongNumeral
  -- on the rounds that are left: up to the fault, both texts have the same rounds
  induction left generalizing committed head found with
  | zero => exact absurd hleft (Nat.not_lt_zero _)
  | succ left ih =>
    rcases manyFrom_succ_cases element separator rounds source left committed head found with
      ⟨_, -, hm⟩ | ⟨other, stop, hf, hm⟩ | ⟨value, middle, hf, hround⟩
    · rw [hm] at hfault
      cases hfault
    · rw [hm] at hfault
      cases hfault
      have hwhole := helement rounds source more head cause reached hrounds hhead hend hf
      simp only [manyFrom, hwhole]
    · have hwhole := hstays head value middle hhead hf
      obtain ⟨middle, rfl, hle, hmiddle⟩ := (hforward.forward hf).exists_natCast_of_le hhead
      have hcut := hseparator.eq_or_ends more hrounds hmiddle hend
      rcases hround with ⟨_, -, hm⟩ | ⟨other, stop, hg, hm⟩ | ⟨_, -, hm⟩ |
        ⟨gap, after, hg, hmove, hm⟩
      · rw [hm] at hfault
        cases hfault
      · -- the separator stops, and so it does on the whole text
        rw [hm] at hfault
        rw [hg] at hcut
        cases hfault
        rcases hcut with hsame | hends
        · simp only [manyFrom, hwhole, ← hsame]
        · exact absurd ⟨cause, reached, rfl⟩ hends.not_isFault
      · rw [hm] at hfault
        cases hfault
      · rw [hm] at hfault
        rw [hg] at hcut
        obtain ⟨after, rfl, hle', hafter⟩ := (hseparator.forward hg).exists_natCast_of_le hmiddle
        rcases hcut with hsame | hends
        · rw [manyFrom_of_next left committed found hwhole hsame.symm hmove]
          have hne : after ≠ head := fun heq => hmove (by rw [heq])
          exact ih middle (value :: found) hafter (by omega) hfault
        · obtain rfl : after = source.length := hends.eq_of_accept
          have hne : source.length ≠ head := fun heq => hmove (by rw [heq])
          obtain ⟨left, rfl⟩ : ∃ n, left = n + 1 := ⟨left - 1, by omega⟩
          exact absurd ⟨cause, reached, hfault⟩
            (manyFrom_at_end hforward hforward' hrounds left middle _)

end

/-! ## Numerals that are too long -/

/-- In front of `next`, whatever follows that, the parser stops with this fault. -/
def Stops (parser : Parser α) (cause : Fault) (next : Text) : Prop :=
  ∀ (rounds : Nat) (source after : Text) (place : Nat), 0 < rounds →
    Text.unread source place = some (next ++ after) →
    ∃ reached, parser.run rounds source place = ⟨.fault cause, reached⟩

/-- A run of too many digits stops a number in front of it. -/
theorem stops_number {digits : Text} {c : Char} (hdigits : ∀ d ∈ digits, d.isDigit = true)
    (hlong : maxDigits < digits.length) (hc : c.isDigit = false) :
    Stops number (.tooManyDigits digits.length) (digits ++ [c]) := by
  intro rounds source after place _ hahead
  obtain ⟨-, hdrop⟩ := Text.unread_natCast_eq_some_iff.mp hahead
  have hne : digits ≠ [] := by
    intro hnil
    rw [hnil] at hlong
    exact absurd hlong (Nat.not_lt_zero _)
  rw [List.append_assoc, List.singleton_append] at hdrop
  rw [run_number_append rounds hdrop (Text.isLongestRun_cons hdigits hc), if_neg hne,
    if_pos hlong]
  exact ⟨place, rfl⟩

variable {cause : Fault} {next : Text}

/-- A sequence stops with its first part. -/
theorem Stops.bind {first : Parser α} (h : Stops first cause next) (more : α → Parser β) :
    Stops (first >>= more) cause next := by
  intro rounds source after place hrounds hahead
  obtain ⟨reached, hfault⟩ := h rounds source after place hrounds hahead
  exact ⟨reached, run_bind_fault rounds source place hfault⟩

/-- A sequence stops behind a first part that is settled. -/
theorem Settles.stops {first : Parser α} {more : α → Parser β} {value : α} {piece : Text}
    (h : Settles first value piece next) (hmore : Stops (more value) cause next) :
    Stops (first >>= more) cause (piece ++ next) := by
  intro rounds source after place hrounds hahead
  rw [List.append_assoc] at hahead
  obtain ⟨reached, hfault⟩ := hmore rounds source after _ hrounds (Text.unread_add hahead)
  refine ⟨reached, ?_⟩
  rw [run_bind_accept rounds source place (h rounds source after place hahead), hfault,
    Reply.rollback_fault]

/-- A choice stops with its first alternative. -/
theorem Stops.oneOf {alternative : Parser α} (h : Stops alternative cause next)
    (others : List (Parser α)) : Stops (oneOf (alternative :: others)) cause next := by
  intro rounds source after place hrounds hahead
  obtain ⟨reached, hfault⟩ := h rounds source after place hrounds hahead
  exact ⟨reached, by simp only [Parser.oneOf, hfault]⟩

/-- A repetition stops with its first element. -/
theorem Stops.many {element : Parser α} (h : Stops element cause next) (separator : Parser β) :
    Stops (many element separator) cause next := by
  intro rounds source after place hrounds hahead
  obtain ⟨reached, hfault⟩ := h rounds source after place hrounds hahead
  obtain ⟨left, rfl⟩ : ∃ left, rounds = left + 1 := ⟨rounds - 1, by omega⟩
  exact ⟨reached, by simp only [Parser.many, manyFrom, hfault]⟩

/-- A text that begins with what stops a parser is not read by it. -/
theorem Stops.read_eq_error {parser : Parser (List α)} (h : Stops parser cause next) (more : Text) :
    parser.read (next ++ more) = .error cause := by
  have hrounds := Nat.zero_lt_of_lt (length_lt_allowance (next ++ more) 0)
  exact read_eq_error_iff.mpr (h _ _ more 0 hrounds (Text.unread_zero _))

end Parser

/-! ## The grammar -/

namespace Grammar

open Famix.Parser

/-- A fault in the record of a package persists. -/
theorem persists_packageRecord : Persists packageRecord := by
  -- the optional line is the one part that may stop behind the name
  have htail : ∀ name id, Persists (optional parentPackageLine >>= fun parent =>
      token ")".toList >>= fun _ => pure (Entity.packageRecord name id parent)) :=
    fun name id => straight_parentPackageLine.persists.optional.bind_of_faultless
      straight_parentPackageLine.forward.optional
      fun parent => (orderly_token _).bind fun _ => orderly_pure _
  exact Persists.bind (straight_thenSeparator (straight_entityId _))
    (fun id => Persists.bind straight_nameField (fun name => htail name id)
      fun name => (built_packageTail name id).orderly_of_isLongNumeral)
    fun id => ((Built.straight straight_nameField).bind
      fun name => built_packageTail name id).orderly_of_isLongNumeral

/-- A fault in a record of any kind persists. -/
theorem persists_recordParserOf (kind : Kind) : Persists (recordParserOf kind) := by
  by_cases h : kind = .packages
  · rw [h]
    exact persists_packageRecord
  · exact (straight_recordParserOf h).persists

/-- Where a record of one kind stops, its opening lies ahead, and the other kinds reject; so the
choice between the kinds stops on the whole text with the kind with which it stops in front of
the cut. -/
theorem persists_entity : Persists entity := by
  intro rounds source more place cause reached hrounds hplace hend hfault
  obtain ⟨hcut, hahead⟩ := Text.unread_cut more hplace
  obtain ⟨alternative, hmem, hkind⟩ := exists_fault_of_oneOf hfault
  obtain ⟨kind, rfl⟩ := mem_recordParsers_iff.mp hmem
  have hopener : opener kind <+: source.drop place := by
    by_contra hopener
    obtain ⟨stop, hreject⟩ := (demands_recordParserOf kind).reject rounds hcut hopener
    rw [hkind] at hreject
    cases hreject
  have hwhole := persists_recordParserOf kind rounds source more place cause reached hrounds
    hplace hend hkind
  unfold entity
  rw [recordParsers_eq, ← hwhole]
  refine run_oneOf_of_others (mem_kinds kind) ?_ fun other _ hne => ?_
  · intro stop hreject
    rw [hwhole] at hreject
    cases hreject
  · obtain ⟨behind, hbehind⟩ := hopener
    rw [← hbehind, List.append_assoc] at hahead
    exact refuses_recordParserOf (opener_diverge hne) rounds _ _ place hahead

/-- A fault in a model persists, wherever in its records it is met. -/
theorem persists_model : Persists model := by
  have hmany : Persists (many entity separator) := by
    intro rounds source more place cause reached hrounds hplace hend hfault
    exact manyFrom_persists persists_entity built_entity.orderly_of_isLongNumeral
      straight_separator more (fun _ _ _ hplace h => stays_entity more hplace h) hrounds hend
      rounds place [] hplace (by omega) hfault
  have hbuilt : Built (fun _ => False) (many entity separator) :=
    built_entity.many (.straight straight_separator)
  have hclose : ∀ entities : List Entity,
      Straight (token ")".toList >>= fun _ => pure entities) :=
    fun entities => (straight_token _).bind fun _ => .pure _
  exact Persists.bind (straight_token _)
    (fun _ => hmany.bind_of_faultless hbuilt.forward
      fun entities => (orderly_token _).bind fun _ => orderly_pure _)
    fun _ => (hbuilt.bind fun entities => .straight (hclose entities)).orderly_of_isLongNumeral

end Grammar

open Grammar

/-- A text that stops the reading and does not end in a digit stops it in the same way whatever
is written behind it. -/
theorem readModel_append_of_error {text : Text} {cause : Fault} (hend : ¬ text.EndsInDigit)
    (h : readModel text = .error cause) (more : Text) :
    readModel (text ++ more) = .error cause := by
  obtain ⟨offset, hfault⟩ := Parser.read_eq_error_iff.mp h
  have hrun : model.run (Parser.allowance (text ++ more) 0) text (0 : Nat) =
      ⟨.fault cause, offset⟩ := (run_model_of_longer text more).symm.trans hfault
  exact Parser.read_eq_error_iff.mpr ⟨offset, persists_model _ text more 0 cause offset
    (Parser.length_lt_allowance_append text more 0) (Nat.zero_le _) hend hrun⟩

/-- An identifier that is too long stops the reading with the first record of a model. -/
theorem readModel_of_long_id {digits : Text} {c : Char} (hdigits : ∀ d ∈ digits, d.isDigit = true)
    (hlong : maxDigits < digits.length) (hc : c.isDigit = false) (more : Text) :
    readModel ("((FAMIX.Namespace (id: ".toList ++ (digits ++ [c]) ++ more) =
      .error (.tooManyDigits digits.length) := by
  have hid : Parser.Stops (entityId "Namespace".toList) (.tooManyDigits digits.length)
      ("(FAMIX.Namespace (id: ".toList ++ (digits ++ [c])) :=
    (Parser.settles_token _ _).stops ((Parser.stops_number hdigits hlong hc).bind _)
  have hentity : Parser.Stops entity (.tooManyDigits digits.length)
      ("(FAMIX.Namespace (id: ".toList ++ (digits ++ [c])) :=
    ((hid.bind _).bind _).oneOf _
  have hmodel : Parser.Stops model (.tooManyDigits digits.length)
      ("(".toList ++ ("(FAMIX.Namespace (id: ".toList ++ (digits ++ [c]))) :=
    (Parser.settles_token _ _).stops ((hentity.many separator).bind _)
  have hsplit : "((FAMIX.Namespace (id: ".toList ++ (digits ++ [c]) ++ more =
      "(".toList ++ ("(FAMIX.Namespace (id: ".toList ++ (digits ++ [c])) ++ more := rfl
  rw [hsplit]
  exact hmodel.read_eq_error more

/-! ## Sessions -/

/-- A text of whole lines at which the reading stops with a fault. -/
structure Stopped (text : Text) (cause : Fault) : Prop where
  line : ['\n'] <:+ text
  fault : readModel text = .error cause

/-- The line is at an end, so more lines change nothing. -/
theorem Stopped.append_typed {text : Text} {cause : Fault} (h : Stopped text cause)
    (lines : List Text) : Stopped (text ++ typed lines) cause := by
  refine ⟨suffix_append_typed h.line lines, readModel_append_of_error ?_ h.fault _⟩
  obtain ⟨lead, hlead⟩ := h.line
  rw [← hlead]
  rintro ⟨c, hc, hdigit⟩
  -- the last character is a newline, which carries on no numeral
  rw [List.getLast?_append, List.getLast?_singleton, Option.some_or, Option.mem_some] at hc
  rw [← hc] at hdigit
  exact absurd hdigit (by decide)

namespace Engine

/-- What comes of a line that keeps the buffer when the buffer stops the reading: a command is
obeyed, and any other line meets the fault. -/
def outcomeAtFault (cause : Fault) (line : Text) : Except Fault (Fed Entity) :=
  match Command.ofLine? line with
  | some command => .ok ⟨some command, {}, false⟩
  | none => .error cause

/-- **The step.** On a buffer that stops the reading, a line is counted, and if it is an ordinary
one it is added to the buffer and meets the fault. -/
theorem feed_of_stopped {session : Session Entity} {cause : Fault}
    (hstopped : Stopped session.buffer cause) {line : Text} (hline : KeepsBuffer line) :
    modelEngine.feed session line =
      ({ session with
          buffer := session.buffer ++ typed ([line].filter isOrdinary)
          linesRead := session.linesRead + 1 },
        outcomeAtFault cause line) := by
  rcases modelEngine.feed_cases session line with
    ⟨command, -, hcommand, hfeed⟩ | ⟨hcommand, -⟩ | ⟨hcommand, -⟩ | ⟨hcommand, -⟩
  · rw [hfeed]
    simp [isOrdinary, hcommand, typed, outcomeAtFault]
  · exact absurd hcommand hline.1
  · exact absurd hcommand hline.2
  · rw [modelEngine.feed_of_error hcommand (hstopped.append_typed [line]).fault]
    simp [isOrdinary, hcommand, Session.takeIn, outcomeAtFault]

/-- A run that starts with such a buffer: nothing changes but the line count and the buffer. -/
theorem feedAll_of_stopped {session : Session Entity} {cause : Fault} {lines : List Text}
    (hstopped : Stopped session.buffer cause) (hlines : ∀ line ∈ lines, KeepsBuffer line) :
    modelEngine.feedAll session lines =
      ({ session with
          buffer := session.buffer ++ typed (lines.filter isOrdinary)
          linesRead := session.linesRead + lines.length },
        lines.map (outcomeAtFault cause)) := by
  -- on the lines. That the buffer stops the reading is kept from line to line, whatever is added
  induction lines generalizing session with
  | nil => simp [feedAll, typed]
  | cons line lines ih =>
    obtain ⟨hline, hlines⟩ := List.forall_mem_cons.mp hlines
    have hsplit : (line :: lines).filter isOrdinary =
        [line].filter isOrdinary ++ lines.filter isOrdinary := by
      rw [← List.filter_append, List.singleton_append]
    unfold feedAll
    rw [feed_of_stopped hstopped hline]
    dsimp only
    rw [ih (hstopped.append_typed _) hlines, hsplit, typed_append, ← List.append_assoc,
      List.length_cons, List.map_cons]
    simp only [Nat.add_assoc, Nat.add_comm 1]

/-- **A fault is for ever.** If an ordinary line stops the reading, the cause is a numeral in the
buffer that is too long, the line has been counted and stays in the buffer, and nothing else has
changed. From then on each ordinary line meets the same fault, commands that leave the buffer
alone are obeyed, and again nothing changes but the line count and the buffer, to which the
ordinary lines are added. -/
theorem feedAll_of_fault {session : Session Entity} {line : Text} {cause : Fault}
    (hline : Command.ofLine? line = none)
    (hfault : (modelEngine.feed session line).2 = .error cause) :
    (∃ place, Parser.IsLongNumeral (session.buffer ++ typed [line]) place cause) ∧
      (modelEngine.feed session line).1 = session.takeIn [line] ∧
      ∀ lines : List Text, (∀ other ∈ lines, KeepsBuffer other) →
        modelEngine.feedAll session (line :: lines) =
          ({ session with
              buffer := session.buffer ++ typed (line :: lines.filter isOrdinary)
              linesRead := session.linesRead + (lines.length + 1) },
            .error cause :: lines.map (outcomeAtFault cause)) := by
  have hread : readModel (session.buffer ++ typed [line]) = .error cause := by
    rw [modelEngine.feed_of_ordinary session hline] at hfault
    rcases modelEngine.attempt_cases none (session.takeIn [line]) with
      ⟨other, hread, hattempt⟩ | ⟨reading, -, -, hattempt⟩ | ⟨reading, -, -, hattempt⟩
    all_goals
      rw [hattempt] at hfault
      cases hfault
    exact hread
  have hafter := modelEngine.feed_of_error hline hread
  have hstopped : Stopped (session.takeIn [line]).buffer cause := by
    refine ⟨⟨session.buffer ++ line, ?_⟩, hread⟩
    simp [typed]
  refine ⟨exists_isLongNumeral_of_readModel_eq_error hread, by rw [hafter], ?_⟩
  intro lines hlines
  unfold feedAll
  rw [hafter]
  dsimp only
  rw [feedAll_of_stopped hstopped hlines]
  simp [Session.takeIn, typed, Nat.add_assoc, Nat.add_comm 1]

/-- A namespace with a number of 4301 digits is met again by each line behind it, and requests
for help in between are answered. -/
theorem feedAll_of_long_id :
    ∃ (session : Session Entity) (line : Text) (lines : List Text), session = {} ∧
      line = "((FAMIX.Namespace (id: ".toList ++ List.replicate 4301 '1' ∧
      lines = ["))".toList, "help".toList, "(name 'a')))".toList, ":q".toList] ∧
      Command.ofLine? line = none ∧ (∀ other ∈ lines, KeepsBuffer other) ∧
      (modelEngine.feed session line).2 = .error (.tooManyDigits 4301) ∧
      modelEngine.feedAll session (line :: lines) =
        ({ buffer := typed [line, "))".toList, "(name 'a')))".toList]
           linesRead := 5 },
          [.error (.tooManyDigits 4301), .error (.tooManyDigits 4301),
            .ok ⟨some .help, {}, false⟩, .error (.tooManyDigits 4301),
            .ok ⟨some .quit, {}, false⟩]) := by
  obtain ⟨session, hsession⟩ : ∃ session : Session Entity, session = {} := ⟨_, rfl⟩
  obtain ⟨line, hline⟩ : ∃ line : Text,
    line = "((FAMIX.Namespace (id: ".toList ++ List.replicate 4301 '1' := ⟨_, rfl⟩
  obtain ⟨lines, hlines⟩ : ∃ lines : List Text,
    lines = ["))".toList, "help".toList, "(name 'a')))".toList, ":q".toList] := ⟨_, rfl⟩
  have hordinary : Command.ofLine? line = none := by
    refine Famix.Command.ofLine?_eq_none ?_
    rw [hline]
    exact List.mem_append_left _ (by decide)
  have hkeeps : ∀ other ∈ lines, KeepsBuffer other := by
    rw [hlines]
    decide
  have hread : readModel (session.buffer ++ typed [line]) = .error (.tooManyDigits 4301) := by
    have hdigits : ∀ d ∈ List.replicate 4301 '1', d.isDigit = true := by
      intro d hd
      rw [List.eq_of_mem_replicate hd]
      decide
    have hnewline : Char.isDigit '\n' = false := by decide
    have hlong := readModel_of_long_id hdigits (by rw [List.length_replicate]; decide) hnewline []
    rw [List.length_replicate, List.append_nil, ← List.append_assoc, ← hline] at hlong
    rw [hsession]
    simpa [typed] using hlong
  have hfault : (modelEngine.feed session line).2 = .error (.tooManyDigits 4301) := by
    rw [modelEngine.feed_of_error hordinary hread]
  refine ⟨session, line, lines, hsession, hline, hlines, hordinary, hkeeps, hfault, ?_⟩
  obtain ⟨-, -, hrun⟩ := feedAll_of_fault hordinary hfault
  rw [hrun lines hkeeps, hsession, hlines]
  rfl

end Engine

end Famix
