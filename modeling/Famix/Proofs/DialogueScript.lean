/-
A run of the interactive reader, line by line.

The reader is a loop around the session: each line of the input is fed, and what is shown is
told by the outcome. Only the question about the chart reads a line of its own, which is not
fed. So a run is a list of exchanges, each of a line that is fed and the answer behind it if one
is asked for, and it shows what its exchanges show one behind the other (`run_script`).

`Script` lists the exchanges in the order of the input, with a rule for each way in which a line
may go on. Everything about a run is then an induction on its script: what it feeds and shows and
how it ends (`Script.follow_eq`), and how the exchanges make up the input (`Script.playsOut`). An
input has a script unless it ends at the question (`exists_script`).

The reader draws what its session holds, and an exchange tells the chart of its own round. The two
agree because a completed round leaves its items in the session (`feed_items`), and because
nothing is fed between the question and the answer.
-/
import Famix.Proofs.DialogueEnding

set_option autoImplicit false

namespace Famix.CommandLine

open Grammar Engine

/-! ## Exchanges -/

/-- A line that was fed, what came of it, and the answer that was asked for behind it, if one
was. -/
structure Exchange where
  line : Text
  fed : Fed Entity
  answer : Option Text := none

namespace Exchange

/-- The lines of the input that an exchange takes up. -/
def lines (exchange : Exchange) : List Text := exchange.line :: exchange.answer.toList

/-- The call of an exchange. -/
def call (exchange : Exchange) : Call Entity := ⟨exchange.line, .ok exchange.fed⟩

/-- Whether the chart is drawn: the settings decide, or else the answer. -/
def DrawsChart (settings : List InteractiveSetting) (exchange : Exchange) : Prop :=
  (settings ≠ [] ∧ .noChart ∉ settings) ∨
    (settings = [] ∧ ∃ answer ∈ exchange.answer, Text.lower (Text.strip answer) = ['y'])

instance (settings : List InteractiveSetting) (exchange : Exchange) :
    Decidable (exchange.DrawsChart settings) := inferInstanceAs (Decidable (_ ∨ _))

/-- What an exchange shows: the help, the notice of a reset, or the sample if it was loaded, and
behind that, for a completed round, its records and rest, the question if the settings leave it
open, the chart of its records if it is drawn, and the welcome again. -/
def shown (settings : List InteractiveSetting) (exchange : Exchange) : Text :=
  match exchange.fed.command with
  | some .quit => []
  | some .help => Display.help
  | some .reset => resetNotice
  | command =>
    (if command = some .sample then Display.sample modelEngine.sampleText else []) ++
      if exchange.fed.roundComplete then
        Display.reading exchange.fed.reading ++ (if settings = [] then chartQuestion else []) ++
          (if exchange.DrawsChart settings then Display.chart exchange.fed.reading.items else []) ++
          Display.welcome
      else []

end Exchange

/-! ## Scripts -/

/-- An input as a list of exchanges with a session. Behind a request to quit the rest is not
read; behind a completed round the next line is the answer if the settings leave the chart open;
otherwise the next line starts the next exchange. -/
inductive Script (settings : List InteractiveSetting) :
    Session Entity → List Text → List Exchange → Prop
  | done (session : Session Entity) : Script settings session [] []
  | quit {session after : Session Entity} {line : Text} {fed : Fed Entity}
    (hfeed : modelEngine.feed session line = (after, .ok fed)) (hquit : fed.command = some .quit)
    (unread : List Text) : Script settings session (line :: unread) [{ line, fed }]
  | line {session after : Session Entity} {line : Text} {fed : Fed Entity} {lines : List Text}
    {exchanges : List Exchange} (hfeed : modelEngine.feed session line = (after, .ok fed))
    (hquit : fed.command ≠ some .quit) (hasks : ¬ (settings = [] ∧ fed.roundComplete = true))
    (hrest : Script settings after lines exchanges) :
    Script settings session (line :: lines) ({ line, fed } :: exchanges)
  | round {session after : Session Entity} {line answer : Text} {fed : Fed Entity}
    {lines : List Text} {exchanges : List Exchange}
    (hfeed : modelEngine.feed session line = (after, .ok fed)) (hsettings : settings = [])
    (hround : fed.roundComplete = true) (hrest : Script settings after lines exchanges) :
    Script settings session (line :: answer :: lines)
      ({ line, fed, answer := some answer } :: exchanges)

variable {settings : List InteractiveSetting}

/-- An input of lines that fit has a script, unless it ends at the question. The induction is on
the number of lines, since a round takes up two of them. -/
theorem exists_script {session : Session Entity} (hbuffer : FitsBefore session.buffer)
    {lines : List Text} (hfit : ∀ line ∈ lines, DigitRunsFit line)
    (hend : ¬ (settings = [] ∧ EndsAtQuestion session lines)) :
    ∃ exchanges, Script settings session lines exchanges := by
  induction hlength : lines.length using Nat.strong_induction_on generalizing session lines with
  | _ length ih =>
    rcases lines with _ | ⟨line, lines⟩
    · exact ⟨[], .done session⟩
    · obtain ⟨hline, hlines⟩ := List.forall_mem_cons.mp hfit
      obtain ⟨after, fed, hfeed, hafter⟩ := exists_feedsTo hbuffer hline
      rw [List.length_cons] at hlength
      by_cases hquit : fed.command = some .quit
      · exact ⟨_, .quit hfeed hquit lines⟩
      · by_cases hasks : settings = [] ∧ fed.roundComplete = true
        · obtain ⟨hsettings, hround⟩ := hasks
          -- the question is not the end of the input, so there is an answer
          rw [and_iff_right hsettings, endsAtQuestion_cons_of_round hfeed hround] at hend
          rcases lines with _ | ⟨answer, lines⟩
          · exact absurd (Or.inl rfl) hend
          · rw [List.length_cons] at hlength
            obtain ⟨exchanges, hrest⟩ := ih lines.length (by omega) hafter
              (fun other hother => hlines other (List.mem_cons_of_mem answer hother))
              (fun hasked => hend (.inr hasked.2)) rfl
            exact ⟨_, .round hfeed hsettings hround hrest⟩
        · obtain ⟨exchanges, hrest⟩ := ih lines.length (by omega) hafter hlines (by
            intro hasked
            have hround : fed.roundComplete = false := by
              rw [← Bool.not_eq_true]
              exact fun hround => hasks ⟨hasked.1, hround⟩
            exact hend ⟨hasked.1,
              (endsAtQuestion_cons_of_not_round hfeed hround hquit).mpr hasked.2⟩) rfl
          exact ⟨_, .line hfeed hquit hasks hrest⟩

/-! ## One exchange -/

/-- Every line that is taken for a line of a model is fed, and the turn records the call. -/
theorem takeLine_call (dialogue : Dialogue) (line : Text) :
    (dialogue.takeLine line).call =
      some ⟨line, (modelEngine.feed dialogue.session line).2⟩ := by
  rcases hfeed : modelEngine.feed dialogue.session line with ⟨after, cause | fed⟩
  · simp only [Dialogue.takeLine, hfeed]
  · obtain ⟨command, reading, complete⟩ := fed
    simp only [Dialogue.takeLine, hfeed]
    rcases command with _ | (_ | _ | _ | _)
    · cases complete <;> rfl
    · rfl
    · cases complete <;> rfl
    · rfl
    · rfl

section

variable {session after : Session Entity} {line : Text} {fed : Fed Entity}

/-- What a line shows is told by its outcome, and for a completed round by its end. -/
theorem take_shown_eq (policy : ChartPolicy)
    (hfeed : modelEngine.feed session line = (after, .ok fed)) :
    ((Dialogue.atLoop policy session).take line).shown =
      match fed.command with
      | some .quit => []
      | some .help => Display.help
      | some .reset => resetNotice
      | command =>
        (if command = some .sample then Display.sample modelEngine.sampleText else []) ++
          if fed.roundComplete then
            ((Dialogue.atLoop policy after).closeRound fed.reading).1
          else [] := by
  obtain ⟨command, reading, complete⟩ := fed
  simp only [Dialogue.take, Dialogue.atLoop, Dialogue.takeLine, hfeed]
  rcases command with _ | (_ | _ | _ | _)
  · cases complete <;> rfl
  · rfl
  · cases complete with
    | false => exact (List.append_nil _).symm
    | true => rfl
  · rfl
  · rfl

/-- With a setting the end of a round is settled at once, by a chart of the session's items. -/
theorem closeRound_of_ne_nil {settings : List InteractiveSetting} (hsettings : settings ≠ [])
    (after : Session Entity) (exchange : Exchange) (reading : Reading Entity) :
    ((Dialogue.atLoop (policyOf settings) after).closeRound reading).1 = Display.reading reading ++
      (if settings = [] then chartQuestion else []) ++
      (if exchange.DrawsChart settings then Display.chart after.items else []) ++
      Display.welcome := by
  have hdraws : exchange.DrawsChart settings ↔ .noChart ∉ settings := by
    unfold Exchange.DrawsChart
    simp [hsettings]
  rw [policyOf_eq, if_neg hsettings, if_neg hsettings, List.append_nil]
  by_cases hchart : .noChart ∈ settings
  · rw [if_pos hchart, if_neg fun h => hdraws.mp h hchart, List.append_nil]
    rfl
  · rw [if_neg hchart, if_pos (hdraws.mpr hchart)]
    rfl

/-- Without a setting it is settled by the answer, and the chart is drawn of what the session
holds when the answer is in. -/
theorem closeRound_takeAnswer (after : Session Entity) (reading : Reading Entity)
    (exchange : Exchange) {answer : Text} (hanswer : exchange.answer = some answer) :
    ((Dialogue.atLoop .ask after).closeRound reading).1 ++
        ((Dialogue.atQuestion after).take answer).shown =
      Display.reading reading ++ chartQuestion ++
        (if exchange.DrawsChart [] then Display.chart after.items else []) ++
        Display.welcome := by
  have hdraws : exchange.DrawsChart [] ↔ saysYes answer = true := by
    unfold Exchange.DrawsChart saysYes
    rw [hanswer]
    simp
  simp only [Dialogue.closeRound, Dialogue.atLoop, Dialogue.take, Dialogue.atQuestion,
    Dialogue.takeAnswer, if_congr hdraws rfl rfl, List.append_assoc]

/-- A line that asks nothing shows what its exchange shows. -/
theorem take_shown (settings : List InteractiveSetting)
    (hfeed : modelEngine.feed session line = (after, .ok fed))
    (hasks : ¬ (settings = [] ∧ fed.roundComplete = true)) :
    ((Dialogue.atLoop (policyOf settings) session).take line).shown =
      Exchange.shown settings { line, fed } := by
  unfold Exchange.shown
  rw [take_shown_eq (policyOf settings) hfeed]
  by_cases hround : fed.roundComplete = true
  · have hsettings : settings ≠ [] := fun hsettings => hasks ⟨hsettings, hround⟩
    rw [if_pos hround, if_pos hround,
      closeRound_of_ne_nil hsettings after { line, fed } fed.reading, feed_items hfeed hround]
  · rw [if_neg hround, if_neg hround]

/-- A line that asks and its answer together show what their exchange shows. -/
theorem take_shown_of_round (hfeed : modelEngine.feed session line = (after, .ok fed))
    (hround : fed.roundComplete = true) (answer : Text) :
    ((Dialogue.atLoop .ask session).take line).shown ++
        ((Dialogue.atQuestion after).take answer).shown =
      Exchange.shown [] { line, fed, answer := some answer } := by
  have hclose := closeRound_takeAnswer after fed.reading { line, fed, answer := some answer } rfl
  rw [feed_items hfeed hround] at hclose
  unfold Exchange.shown
  rw [take_shown_eq .ask hfeed, if_pos hround, if_pos hround, if_pos rfl, ← hclose]
  -- in front of the end of the round there may be the sample, and nothing else
  rcases feed_command_of_round hfeed hround with hcommand | hcommand
  · rw [hcommand]
    exact List.append_assoc _ _ _
  · rw [hcommand]
    exact List.append_assoc _ _ _

/-- The call of a line in the loop is the one of its exchange. -/
theorem take_call (policy : ChartPolicy)
    (hfeed : modelEngine.feed session line = (after, .ok fed)) (answer : Option Text) :
    ((Dialogue.atLoop policy session).take line).call =
      some (Exchange.call { line, fed, answer }) := by
  have hcall := takeLine_call (.atLoop policy session) line
  rw [Dialogue.atLoop, hfeed] at hcall
  exact hcall

/-! ## Whole scripts -/

/-- A line that does not quit, and asks nothing, leads back to the loop. -/
theorem take_next_of_line (settings : List InteractiveSetting)
    (hfeed : modelEngine.feed session line = (after, .ok fed)) (hquit : fed.command ≠ some .quit)
    (hasks : ¬ (settings = [] ∧ fed.roundComplete = true)) :
    ((Dialogue.atLoop (policyOf settings) session).take line).next =
      .ok (.atLoop (policyOf settings) after) := by
  rw [take_next (policyOf settings) hfeed, if_neg hquit, if_neg]
  exact fun h => hasks ⟨(policyOf_eq_ask_iff settings).mp h.2, h.1⟩

/-- A line that completes a round leads to the question if it is asked. -/
theorem take_next_of_round (hfeed : modelEngine.feed session line = (after, .ok fed))
    (hround : fed.roundComplete = true) :
    ((Dialogue.atLoop .ask session).take line).next = .ok (.atQuestion after) := by
  rw [take_next .ask hfeed, if_neg (feed_ne_quit_of_round hfeed hround), if_pos ⟨hround, rfl⟩]

/-- A line that quits ends the run. -/
theorem take_next_of_quit (policy : ChartPolicy)
    (hfeed : modelEngine.feed session line = (after, .ok fed)) (hquit : fed.command = some .quit) :
    ((Dialogue.atLoop policy session).take line).next = .error (.exit 0) := by
  rw [take_next policy hfeed, if_pos hquit]

end

/-- A run makes the calls of the exchanges of its script, shows what they show, and ends with code
0. -/
theorem Script.follow_eq {session : Session Entity} {lines : List Text}
    {exchanges : List Exchange} (h : Script settings session lines exchanges) :
    ∃ log, (Dialogue.atLoop (policyOf settings) session).follow .endOfFile lines =
      ⟨exchanges.map Exchange.call, exchanges.flatMap (Exchange.shown settings), log,
        .exit 0⟩ := by
  induction h with
  | done session => exact ⟨[], rfl⟩
  | @quit session after line fed hfeed hquit unread =>
    have hasks : ¬ (settings = [] ∧ fed.roundComplete = true) :=
      fun h => feed_ne_quit_of_round hfeed h.2 hquit
    have hnext := take_next_of_quit (policyOf settings) hfeed hquit
    rw [follow_of_end unread hnext, take_call (policyOf settings) hfeed none,
      take_shown settings hfeed hasks, List.flatMap_singleton]
    exact ⟨_, rfl⟩
  | @line session after line fed lines exchanges hfeed hquit hasks hrest ih =>
    obtain ⟨log, hfollow⟩ := ih
    have hnext := take_next_of_line settings hfeed hquit hasks
    rw [follow_of_next lines hnext, hfollow, take_call (policyOf settings) hfeed none,
      take_shown settings hfeed hasks]
    exact ⟨_, rfl⟩
  | @round session after line answer fed lines exchanges hfeed hsettings hround hrest ih =>
    subst hsettings
    obtain ⟨log, hfollow⟩ := ih
    have hpolicy : policyOf [] = .ask := rfl
    rw [hpolicy] at hfollow ⊢
    -- the answer is the second line of the exchange, and makes no call
    rw [follow_of_next (answer :: lines) (take_next_of_round hfeed hround),
      follow_of_next lines (take_answer_next after answer), hfollow,
      take_call .ask hfeed (some answer), List.flatMap_cons,
      ← take_shown_of_round hfeed hround answer, List.append_assoc]
    exact ⟨_, rfl⟩

/-- How exchanges make up an input: their lines stand one behind the other, each with its answer
if it completed a round and the settings leave the chart open; what was fed is a run of the
session; and the input goes on unread only behind a request to quit, which nothing follows. -/
structure PlaysOut (settings : List InteractiveSetting) (session : Session Entity)
    (lines : List Text) (exchanges : List Exchange) (unread : List Text) : Prop where
  input : lines = exchanges.flatMap Exchange.lines ++ unread
  answered : ∀ exchange ∈ exchanges,
    (exchange.answer ≠ none ↔ settings = [] ∧ exchange.fed.roundComplete = true)
  fed : modelEngine.calls session (exchanges.map Exchange.line) = exchanges.map Exchange.call
  goesOn : ∀ exchange ∈ exchanges.dropLast, Command.ofLine? exchange.line ≠ some .quit
  unread : unread ≠ [] →
    ∃ exchange ∈ exchanges.getLast?, Command.ofLine? exchange.line = some .quit

/-- One exchange more in front of others. -/
theorem PlaysOut.cons {session after : Session Entity} {lines : List Text}
    {exchanges : List Exchange} {unread : List Text}
    (h : PlaysOut settings after lines exchanges unread) (exchange : Exchange)
    (hfeed : modelEngine.feed session exchange.line = (after, .ok exchange.fed))
    (hquit : exchange.fed.command ≠ some .quit)
    (hanswer : exchange.answer ≠ none ↔ settings = [] ∧ exchange.fed.roundComplete = true) :
    PlaysOut settings session (exchange.lines ++ lines) (exchange :: exchanges) unread where
  input := by
    rw [h.input, List.flatMap_cons, List.append_assoc]
  answered := List.forall_mem_cons.mpr ⟨hanswer, h.answered⟩
  fed := by
    rw [List.map_cons, calls_cons, hfeed, h.fed]
    rfl
  goesOn := by
    rcases exchanges with _ | ⟨next, others⟩
    · exact nofun
    · rw [List.dropLast_cons_of_ne_nil (List.cons_ne_nil next others)]
      refine List.forall_mem_cons.mpr ⟨?_, h.goesOn⟩
      rwa [← feed_command hfeed]
  unread hunread := by
    obtain ⟨last, hlast, hquits⟩ := h.unread hunread
    exact ⟨last, List.mem_getLast?_cons hlast, hquits⟩

/-- The exchanges of a script make up its input. -/
theorem Script.playsOut {session : Session Entity} {lines : List Text}
    {exchanges : List Exchange} (h : Script settings session lines exchanges) :
    ∃ unread, PlaysOut settings session lines exchanges unread := by
  induction h with
  | done session => exact ⟨[], rfl, nofun, rfl, nofun, fun hne => absurd rfl hne⟩
  | @quit session after line fed hfeed hquit unread =>
    refine ⟨unread, rfl, ?_, ?_, nofun, fun _ => ⟨{ line, fed }, rfl, ?_⟩⟩
    · intro exchange hexchange
      rw [List.mem_singleton.mp hexchange]
      exact iff_of_false (fun hne => hne rfl) fun h => feed_ne_quit_of_round hfeed h.2 hquit
    · rw [List.map_singleton, calls_cons, hfeed]
      rfl
    · exact (feed_command hfeed).symm.trans hquit
  | @line session after line fed lines exchanges hfeed hquit hasks hrest ih =>
    obtain ⟨unread, hplays⟩ := ih
    exact ⟨unread, hplays.cons { line, fed } hfeed hquit
      (iff_of_false (fun hne => hne rfl) hasks)⟩
  | @round session after line answer fed lines exchanges hfeed hsettings hround hrest ih =>
    obtain ⟨unread, hplays⟩ := ih
    exact ⟨unread, hplays.cons { line, fed, answer := some answer } hfeed
      (feed_ne_quit_of_round hfeed hround) (iff_of_true nofun ⟨hsettings, hround⟩)⟩

end Famix.CommandLine
