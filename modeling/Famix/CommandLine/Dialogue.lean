/-
The interactive reader as a machine that takes one line at a time. It waits either for a
line of a model or for the answer to the question whether to draw the chart; only lines
of the first sort are fed to the session. What is drawn is what the session holds then.

A run feeds the lines in order until one ends it, and records the calls it makes. If the
input ends while an answer is expected, the run does not end cleanly.
-/
import Famix.CommandLine.Interfaces
import Famix.Display.Screens
import Famix.Session.Model

set_option autoImplicit false

namespace Famix.CommandLine

/-- What the reader waits for. -/
inductive Awaited where
  | line
  /-- The answer to the question about the chart. -/
  | answer
deriving DecidableEq, Repr

/-- The state of the interactive reader. -/
structure Dialogue where
  policy : ChartPolicy
  session : Session Entity := {}
  awaited : Awaited := .line

/-- What comes of one line: the call to the session if it is fed, the text shown, the log, and
how it goes on. -/
structure Turn where
  call : Option (Engine.Call Entity) := none
  shown : Text := []
  log : List LogLine := []
  next : Except Ending Dialogue

/-- The question about the chart, and the mark behind which the answer is typed. -/
def chartQuestion : Text :=
  "Would you like to see a graph of the result?\n(y/n): ".toList

/-- The notice of a reset. -/
def resetNotice : Text := "---Reset---\n".toList

/-- Whether an answer means yes. -/
def saysYes (answer : Text) : Bool := Text.lower (Text.strip answer) == ['y']

namespace Dialogue

/-- After a completed round, with the session that has taken it in: its records and rest, and the
chart of the session's items or the question. -/
def closeRound (dialogue : Dialogue) (reading : Reading Entity) : Text × Dialogue :=
  match dialogue.policy with
  | .never => (Display.reading reading ++ Display.welcome, dialogue)
  | .always =>
    (Display.reading reading ++ Display.chart dialogue.session.items ++ Display.welcome, dialogue)
  -- what is drawn, if anything, is decided by the next line
  | .ask => (Display.reading reading ++ chartQuestion, { dialogue with awaited := .answer })

/-- Takes a line of a model or a command. -/
def takeLine (dialogue : Dialogue) (line : Text) : Turn :=
  let (session, outcome) := modelEngine.feed dialogue.session line
  -- the session is the one afterwards, also where the line has met a fault
  let dialogue := { dialogue with session }
  let call := some ⟨line, outcome⟩
  match outcome with
  | .error cause => { call, next := .error (.escape (.fault cause)) }
  | .ok fed =>
    let log := LogLine.ofFed session fed
    match fed.command with
    | some .quit => { call, log, next := .error (.exit 0) }
    | some .help => { call, shown := Display.help, log, next := .ok dialogue }
    | some .reset => { call, shown := resetNotice, log, next := .ok dialogue }
    -- the sample is shown, and then read like a line that was typed
    | command =>
      let loaded := if command = some .sample then Display.sample modelEngine.sampleText else []
      if fed.roundComplete then
        let (shown, dialogue) := dialogue.closeRound fed.reading
        { call, shown := loaded ++ shown, log, next := .ok dialogue }
      else { call, shown := loaded, log, next := .ok dialogue }

/-- Takes the answer to the question about the chart. -/
def takeAnswer (dialogue : Dialogue) (answer : Text) : Turn :=
  { shown := (if saysYes answer then Display.chart dialogue.session.items else []) ++
      Display.welcome
    next := .ok { dialogue with awaited := .line } }

/-- Takes one line of the input. -/
def take (dialogue : Dialogue) (line : Text) : Turn :=
  match dialogue.awaited with
  | .line => dialogue.takeLine line
  | .answer => dialogue.takeAnswer line

/-- How a run ends whose input ends here. -/
def atEnd (dialogue : Dialogue) : InputEnd → Ending
  | .interrupt => .escape .interrupt
  | .endOfFile =>
    match dialogue.awaited with
    | .line => .exit 0
    -- only the loop is prepared for the end of the input, the question is not
    | .answer => .escape .endOfInput

end Dialogue

/-- The course of a run: the calls to the session in order, what was shown and noted, and the
end. -/
structure Transcript where
  calls : List (Engine.Call Entity)
  shown : Text
  log : List LogLine
  ending : Ending

namespace Dialogue

/-- Takes the lines of the input in order. -/
def follow (inputEnd : InputEnd) : Dialogue → List Text → Transcript
  | dialogue, [] => ⟨[], [], [], dialogue.atEnd inputEnd⟩
  | dialogue, line :: lines =>
    let turn := dialogue.take line
    match turn.next with
    | .error ending => ⟨turn.call.toList, turn.shown, turn.log, ending⟩
    | .ok next =>
      let rest := follow inputEnd next lines
      ⟨turn.call.toList ++ rest.calls, turn.shown ++ rest.shown, turn.log ++ rest.log,
        rest.ending⟩

/-- A run of the interactive reader. -/
def run (policy : ChartPolicy) (inputEnd : InputEnd) (lines : List Text) : Transcript :=
  let transcript := follow inputEnd { policy } lines
  { transcript with shown := Display.welcome ++ transcript.shown }

end Dialogue

end Famix.CommandLine
