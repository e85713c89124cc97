/-
Runs of a session: lines are fed one after another, and each gets its outcome.

Everything is said of any engine. `attempt_cases` lists what reading the buffer can come to,
and `feedAll` is the run. A run stays in the first stretch of a round as long as no prefix
of its lines yields an item (`feedAll_waiting`), and then nothing of it is lost: the buffer
holds exactly what was typed.
-/
import Famix.Session.Basic

set_option autoImplicit false

namespace Famix

/-- The text of lines as they are typed, each with its newline. -/
def typed (lines : List Text) : Text := lines.flatMap (· ++ ['\n'])

theorem typed_append (lines more : List Text) :
    typed (lines ++ more) = typed lines ++ typed more := by
  rw [typed, List.flatMap_append]
  rfl

/-- With more lines behind it, a text of whole lines is one still. -/
theorem suffix_append_typed {text : Text} (h : ['\n'] <:+ text) (lines : List Text) :
    ['\n'] <:+ text ++ typed lines := by
  rcases List.eq_nil_or_concat lines with rfl | ⟨earlier, last, rfl⟩
  · rw [typed, List.flatMap_nil, List.append_nil]
    exact h
  · refine ⟨text ++ (typed earlier ++ last), ?_⟩
    simp [typed]

/-! ## Sessions that take lines in -/

namespace Session

variable {α : Type}

/-- The session after ordinary lines that complete no round: they are counted and added to
the buffer. -/
def takeIn (session : Session α) (lines : List Text) : Session α :=
  { session with
    buffer := session.buffer ++ typed lines
    linesRead := session.linesRead + lines.length }

@[simp] theorem takeIn_buffer (session : Session α) (lines : List Text) :
    (session.takeIn lines).buffer = session.buffer ++ typed lines := rfl

theorem takeIn_nil (session : Session α) : session.takeIn [] = session := by
  simp [takeIn, typed]

theorem takeIn_takeIn (session : Session α) (lines more : List Text) :
    (session.takeIn lines).takeIn more = session.takeIn (lines ++ more) := by
  simp only [takeIn, typed_append, List.append_assoc, List.length_append, Nat.add_assoc]

end Session

namespace Engine

variable {α : Type}

/-! ## One line -/

/-- Reading the buffer stops with a fault, yields nothing, or completes a round. -/
theorem attempt_cases (engine : Engine α) (command : Option Command) (session : Session α) :
    (∃ cause, engine.parser.read session.buffer = .error cause ∧
      engine.attempt command session = (session, .error cause)) ∨
    (∃ reading, engine.parser.read session.buffer = .ok reading ∧ reading.items = [] ∧
      engine.attempt command session = (session, .ok ⟨command, reading, false⟩)) ∨
    (∃ reading, engine.parser.read session.buffer = .ok reading ∧ reading.items ≠ [] ∧
      engine.attempt command session =
        ({ session with buffer := [], items := reading.items, rounds := session.rounds + 1 },
          .ok ⟨command, reading, true⟩)) := by
  cases h : engine.parser.read session.buffer with
  | error cause => exact .inl ⟨cause, rfl, by simp only [attempt, h]⟩
  | ok reading =>
    by_cases hitems : reading.items = []
    · exact .inr (.inl ⟨reading, rfl, hitems, by simp [attempt, h, hitems]⟩)
    · exact .inr (.inr ⟨reading, rfl, hitems, by simp [attempt, h, hitems]⟩)

/-- An ordinary line is taken in, and then the buffer is read. -/
theorem feed_of_ordinary (engine : Engine α) (session : Session α) {line : Text}
    (h : Command.ofLine? line = none) :
    engine.feed session line = engine.attempt none (session.takeIn [line]) := by
  have hsession : session.takeIn [line] =
      ({ session with linesRead := session.linesRead + 1 }).appendLine line := by
    simp [Session.takeIn, Session.appendLine, typed]
  rw [hsession]
  simp only [feed, h]

/-- An ordinary line with which the buffer stops the reading is taken in all the same. -/
theorem feed_of_error (engine : Engine α) {session : Session α} {line : Text} {cause : Fault}
    (hline : Command.ofLine? line = none)
    (hread : engine.parser.read (session.buffer ++ typed [line]) = .error cause) :
    engine.feed session line = (session.takeIn [line], .error cause) := by
  rw [engine.feed_of_ordinary session hline, attempt, Session.takeIn_buffer, hread]

/-- An ordinary line with which the buffer is read but yields nothing is taken in. -/
theorem feed_of_items_eq_nil (engine : Engine α) {session : Session α} {line : Text}
    {reading : Reading α} (hline : Command.ofLine? line = none)
    (hread : engine.parser.read (session.buffer ++ typed [line]) = .ok reading)
    (hitems : reading.items = []) :
    engine.feed session line = (session.takeIn [line], .ok ⟨none, reading, false⟩) := by
  rw [engine.feed_of_ordinary session hline, attempt, Session.takeIn_buffer, hread]
  simp [hitems]

/-- An ordinary line with which the buffer yields items completes a round. -/
theorem feed_of_items_ne_nil (engine : Engine α) {session : Session α} {line : Text}
    {reading : Reading α} (hline : Command.ofLine? line = none)
    (hread : engine.parser.read (session.buffer ++ typed [line]) = .ok reading)
    (hitems : reading.items ≠ []) :
    engine.feed session line =
      ({ session.takeIn [line] with
          buffer := []
          items := reading.items
          rounds := session.rounds + 1 },
        .ok ⟨none, reading, true⟩) := by
  rw [engine.feed_of_ordinary session hline, attempt, Session.takeIn_buffer, hread]
  simp [hitems, Session.takeIn]

/-- A call does one of four things, by the command that its line is. -/
theorem feed_cases (engine : Engine α) (session : Session α) (line : Text) :
    (∃ command, (command = .quit ∨ command = .help) ∧ Command.ofLine? line = some command ∧
      engine.feed session line =
        ({ session with linesRead := session.linesRead + 1 }, .ok ⟨some command, {}, false⟩)) ∨
    (Command.ofLine? line = some .reset ∧
      engine.feed session line =
        ({ session with buffer := [], items := [], linesRead := session.linesRead + 1 },
          .ok ⟨some .reset, {}, false⟩)) ∨
    (Command.ofLine? line = some .sample ∧
      engine.feed session line = engine.attempt (some .sample)
        { session with buffer := engine.sampleText, linesRead := session.linesRead + 1 }) ∨
    (Command.ofLine? line = none ∧
      engine.feed session line = engine.attempt none (session.takeIn [line])) := by
  rcases h : Command.ofLine? line with _ | command
  · exact .inr (.inr (.inr ⟨rfl, engine.feed_of_ordinary session h⟩))
  · cases command with
    | quit => exact .inl ⟨.quit, .inl rfl, rfl, by simp only [feed, h]⟩
    | help => exact .inl ⟨.help, .inr rfl, rfl, by simp only [feed, h]⟩
    | reset => exact .inr (.inl ⟨rfl, by simp only [feed, h, Session.clear]⟩)
    | sample => exact .inr (.inr (.inl ⟨rfl, by simp only [feed, h]⟩))

/-- Reading the buffer passes the command on. -/
theorem attempt_command {engine : Engine α} {command : Option Command} {session after : Session α}
    {fed : Fed α} (h : engine.attempt command session = (after, .ok fed)) :
    fed.command = command := by
  rcases engine.attempt_cases command session with
    ⟨cause, -, ha⟩ | ⟨reading, -, -, ha⟩ | ⟨reading, -, -, ha⟩
  all_goals
    rw [ha] at h
    cases h
  · rfl
  · rfl

/-- A call reports the command that its line is. -/
theorem feed_command {engine : Engine α} {session after : Session α} {line : Text} {fed : Fed α}
    (h : engine.feed session line = (after, .ok fed)) : fed.command = Command.ofLine? line := by
  rcases engine.feed_cases session line with
    ⟨command, -, hcommand, hfeed⟩ | ⟨hcommand, hfeed⟩ | ⟨hcommand, hfeed⟩ | ⟨hcommand, hfeed⟩
  all_goals rw [hfeed] at h; rw [hcommand]
  · cases h
    rfl
  · cases h
    rfl
  · exact attempt_command h
  · exact attempt_command h

/-- Requests to quit, for help and for a reset complete no round. -/
theorem feed_roundComplete {engine : Engine α} {session after : Session α} {line : Text}
    {fed : Fed α} (h : engine.feed session line = (after, .ok fed))
    (hcommand : fed.command = some .quit ∨ fed.command = some .help ∨
      fed.command = some .reset) : fed.roundComplete = false := by
  rw [feed_command h] at hcommand
  rcases engine.feed_cases session line with
    ⟨command, -, -, hfeed⟩ | ⟨-, hfeed⟩ | ⟨hsample, -⟩ | ⟨hnone, -⟩
  · rw [hfeed] at h
    cases h
    rfl
  · rw [hfeed] at h
    cases h
    rfl
  · rw [hsample] at hcommand
    simp at hcommand
  · rw [hnone] at hcommand
    simp at hcommand

/-- Only an ordinary line or the sample completes a round. -/
theorem feed_command_of_round {engine : Engine α} {session after : Session α} {line : Text}
    {fed : Fed α} (h : engine.feed session line = (after, .ok fed))
    (hround : fed.roundComplete = true) :
    fed.command = none ∨ fed.command = some .sample := by
  have hother : ¬ (fed.command = some .quit ∨ fed.command = some .help ∨
      fed.command = some .reset) := by
    intro hcommand
    rw [feed_roundComplete h hcommand] at hround
    cases hround
  rcases hkind : fed.command with _ | (_ | _ | _ | _)
  · exact .inl rfl
  · exact absurd (.inl hkind) hother
  · exact .inr rfl
  · exact absurd (.inr (.inr hkind)) hother
  · exact absurd (.inr (.inl hkind)) hother

/-- What completes a round does not quit. -/
theorem feed_ne_quit_of_round {engine : Engine α} {session after : Session α} {line : Text}
    {fed : Fed α} (h : engine.feed session line = (after, .ok fed))
    (hround : fed.roundComplete = true) : fed.command ≠ some .quit := by
  intro hquit
  rcases feed_command_of_round h hround with hnone | hsample
  · rw [hnone] at hquit
    cases hquit
  · rw [hsample] at hquit
    cases hquit
/-- Reading the buffer leaves the items of the round in the session if it completes one. -/
theorem attempt_items {engine : Engine α} {command : Option Command} {session after : Session α}
    {fed : Fed α} (h : engine.attempt command session = (after, .ok fed))
    (hround : fed.roundComplete = true) : after.items = fed.reading.items := by
  rcases engine.attempt_cases command session with
    ⟨cause, -, ha⟩ | ⟨reading, -, -, ha⟩ | ⟨reading, -, -, ha⟩
  all_goals
    rw [ha] at h
    cases h
  · cases hround
  · rfl

/-- Behind a completed round the session holds the items of that round. Of the calls only those
that read the buffer complete one. -/
theorem feed_items {engine : Engine α} {session after : Session α} {line : Text} {fed : Fed α}
    (h : engine.feed session line = (after, .ok fed)) (hround : fed.roundComplete = true) :
    after.items = fed.reading.items := by
  rcases engine.feed_cases session line with
    ⟨command, -, -, hfeed⟩ | ⟨-, hfeed⟩ | ⟨-, hfeed⟩ | ⟨-, hfeed⟩
  all_goals rw [hfeed] at h
  · cases h
    cases hround
  · cases h
    cases hround
  · exact attempt_items h hround
  · exact attempt_items h hround

/-! ## Many lines -/

/-- Feeds lines in order. The outcomes stand in the order of the lines. -/
def feedAll (engine : Engine α) : Session α → List Text → Session α × List (Except Fault (Fed α))
  | session, [] => (session, [])
  | session, line :: lines =>
    let first := engine.feed session line
    let others := feedAll engine first.1 lines
    (others.1, first.2 :: others.2)

/-- A run may be cut anywhere. -/
theorem feedAll_append (engine : Engine α) (session : Session α) (lines more : List Text) :
    engine.feedAll session (lines ++ more) =
      ((engine.feedAll (engine.feedAll session lines).1 more).1,
        (engine.feedAll session lines).2 ++
          (engine.feedAll (engine.feedAll session lines).1 more).2) := by
  induction lines generalizing session with
  | nil => rfl
  | cons line lines ih =>
    rw [List.cons_append]
    simp only [feedAll]
    rw [ih]
    rfl

/-- The calls of a run, in order. -/
def calls (engine : Engine α) (session : Session α) (lines : List Text) : List (Call α) :=
  lines.zipWith Call.mk (engine.feedAll session lines).2

theorem calls_cons (engine : Engine α) (session : Session α) (line : Text) (lines : List Text) :
    engine.calls session (line :: lines) =
      ⟨line, (engine.feed session line).2⟩ ::
        engine.calls (engine.feed session line).1 lines := rfl

theorem length_feedAll (engine : Engine α) (session : Session α) (lines : List Text) :
    (engine.feedAll session lines).2.length = lines.length := by
  induction lines generalizing session with
  | nil => rfl
  | cons line lines ih => simp only [feedAll, List.length_cons, ih]

/-- A run makes one call for each line. -/
theorem length_calls (engine : Engine α) (session : Session α) (lines : List Text) :
    (engine.calls session lines).length = lines.length := by
  rw [calls, List.length_zipWith, length_feedAll, Nat.min_self]

/-- An outcome of an ordinary line that completes no round. -/
def IsWaiting (outcome : Except Fault (Fed α)) : Prop :=
  ∃ reading, outcome = .ok ⟨none, reading, false⟩

/-- An outcome that completes a round. -/
def IsRound (outcome : Except Fault (Fed α)) : Prop :=
  ∃ fed, outcome = .ok fed ∧ fed.roundComplete = true

theorem IsWaiting.not_isRound {outcome : Except Fault (Fed α)} (h : IsWaiting outcome) :
    ¬ IsRound outcome := by
  obtain ⟨reading, rfl⟩ := h
  rintro ⟨fed, hfed, hround⟩
  cases hfed
  cases hround

/-- In a run over lines, the line number `count` completes the first round: the outcomes
before it are `waiting`, its own is `fed`, and the session is `after` then. -/
structure FirstRound (engine : Engine α) (session : Session α) (lines : List Text) (count : Nat)
    (waiting : List (Except Fault (Fed α))) (fed : Fed α) (after : Session α) : Prop where
  run : engine.feedAll session (lines.take count) = (after, waiting ++ [.ok fed])
  length : waiting.length + 1 = count
  isWaiting : ∀ outcome ∈ waiting, IsWaiting outcome
  complete : fed.roundComplete = true
  items : after.items = fed.reading.items
  rounds : after.rounds = session.rounds + 1
  buffer : after.buffer = []

/-- Behind its first round, a run goes on as a run of the lines that are left. -/
theorem FirstRound.feedAll_eq {engine : Engine α} {session : Session α} {lines : List Text}
    {count : Nat} {waiting : List (Except Fault (Fed α))} {fed : Fed α} {after : Session α}
    (h : engine.FirstRound session lines count waiting fed after) :
    engine.feedAll session lines =
      ((engine.feedAll after (lines.drop count)).1,
        waiting ++ .ok fed :: (engine.feedAll after (lines.drop count)).2) := by
  have hsplit := engine.feedAll_append session (lines.take count) (lines.drop count)
  rw [List.take_append_drop, h.run, List.append_assoc] at hsplit
  exact hsplit

/-- As long as no prefix of the lines yields an item, the session takes all of them in and
nothing else changes. -/
theorem feedAll_waiting (engine : Engine α) (session : Session α) (lines : List Text)
    (hcommand : ∀ line ∈ lines, Command.ofLine? line = none)
    (hread : ∀ count, 0 < count → count ≤ lines.length → ∃ reading,
      engine.parser.read (session.buffer ++ typed (lines.take count)) = .ok reading ∧
        reading.items = []) :
    (engine.feedAll session lines).1 = session.takeIn lines ∧
      (engine.feedAll session lines).2.length = lines.length ∧
      ∀ outcome ∈ (engine.feedAll session lines).2, IsWaiting outcome := by
  induction lines generalizing session with
  | nil => exact ⟨session.takeIn_nil.symm, rfl, by simp [feedAll]⟩
  | cons line lines ih =>
    obtain ⟨reading, hline, hnone⟩ := hread 1 Nat.one_pos (by simp)
    rw [List.take_succ_cons, List.take_zero] at hline
    have hfeed := engine.feed_of_items_eq_nil (hcommand line List.mem_cons_self) hline hnone
    -- what the line has left is read on as before, from a buffer that holds the line
    obtain ⟨hsession, hlength, houtcomes⟩ := ih (session.takeIn [line])
      (fun other hother => hcommand other (List.mem_cons_of_mem line hother))
      (fun count _ hcount => by
        rw [Session.takeIn_buffer, List.append_assoc, ← typed_append]
        exact hread (count + 1) (Nat.succ_pos count) (Nat.succ_le_succ hcount))
    simp only [feedAll, hfeed]
    refine ⟨?_, ?_, ?_⟩
    · rw [hsession, Session.takeIn_takeIn]
      rfl
    · rw [List.length_cons, List.length_cons, hlength]
    · intro outcome hmem
      rcases List.mem_cons.mp hmem with rfl | hmem
      · exact ⟨reading, rfl⟩
      · exact houtcomes outcome hmem

end Engine

end Famix
