/-
How a run of the interactive reader ends.

The reader takes lines at two places: in its loop, and where it has asked about the chart. The
end of the input ends the run with code 0 in the loop, and is not expected behind the question.
So, if every line can be read, a run ends with code 0 unless its input ends at the question, and
then it does not (`run_ending`). A setting that decides about the chart beforehand keeps the
question from being asked at all.

What makes every line readable is that the buffer never joins two runs of digits: the lines in
it are apart by their newlines, and the sample ends in a parenthesis (`FitsBefore`).
-/
import Famix.CommandLine.Dialogue
import Famix.Proofs.LineByLine

set_option autoImplicit false

namespace Famix

open Grammar Engine

/-! ## Sessions that can read every line -/

/-- No run of digits goes over the end of the text: what fits by itself fits behind it. -/
def FitsBefore (text : Text) : Prop := ∀ more, DigitRunsFit more → DigitRunsFit (text ++ more)

theorem fitsBefore_nil : FitsBefore [] := fun _ hmore => hmore

/-- What fits in front of every text fits in front of none. -/
theorem FitsBefore.digitRunsFit {text : Text} (h : FitsBefore text) : DigitRunsFit text := by
  have hnil := h [] (digitRunsFit_of_length_le (Nat.zero_le _))
  rwa [List.append_nil] at hnil

/-- A text that ends in another character than a digit. -/
theorem fitsBefore_append_singleton {text : Text} {c : Char} (h : DigitRunsFit text)
    (hc : c.isDigit = false) : FitsBefore (text ++ [c]) := by
  intro more hmore
  rw [List.append_assoc, List.singleton_append]
  exact h.append_cons hmore hc

/-- A line can be added to a buffer, since the newline ends its last run of digits. -/
theorem FitsBefore.append_line {text line : Text} (h : FitsBefore text)
    (hline : DigitRunsFit line) : FitsBefore (text ++ typed [line]) := by
  have htyped : text ++ typed [line] = (text ++ line) ++ ['\n'] := by
    simp [typed]
  rw [htyped]
  exact fitsBefore_append_singleton (h line hline) (by decide)

/-- The sample fits in front of every text, as it ends in a parenthesis. -/
theorem fitsBefore_sampleText : FitsBefore modelEngine.sampleText := by
  have hsample : modelEngine.sampleText.length ≤ maxDigits ∧
      modelEngine.sampleText.getLast? = some ')' := by
    decide +kernel
  obtain ⟨lead, hlead⟩ := List.getLast?_eq_some_iff.mp hsample.2
  have hlength : lead.length ≤ maxDigits := by
    have hle := hsample.1
    rw [hlead, List.length_append] at hle
    omega
  rw [hlead]
  exact fitsBefore_append_singleton (digitRunsFit_of_length_le hlength) (by decide)

/-- A line that is fed without a fault, and the session behind it. -/
structure FeedsTo (session : Session Entity) (line : Text) (after : Session Entity)
    (fed : Fed Entity) : Prop where
  feed : modelEngine.feed session line = (after, .ok fed)
  buffer : FitsBefore after.buffer

/-- Reading a buffer that fits meets no fault, and leaves it or empties it. -/
theorem attempt_of_fitsBefore (command : Option Command) (session : Session Entity)
    (h : FitsBefore session.buffer) :
    ∃ after reading complete, modelEngine.attempt command session =
      (after, .ok ⟨command, reading, complete⟩) ∧ FitsBefore after.buffer := by
  rcases modelEngine.attempt_cases command session with
    ⟨cause, hread, -⟩ | ⟨reading, -, -, ha⟩ | ⟨reading, -, -, ha⟩
  · obtain ⟨reading, hok⟩ := exists_readModel_eq_ok h.digitRunsFit
    have herror : readModel session.buffer = .error cause := hread
    rw [hok] at herror
    cases herror
  · exact ⟨_, _, _, ha, h⟩
  · exact ⟨_, _, _, ha, fitsBefore_nil⟩

/-- A line that fits is fed without a fault to a session whose buffer fits. -/
theorem exists_feedsTo {session : Session Entity} (hbuffer : FitsBefore session.buffer)
    {line : Text} (hline : DigitRunsFit line) :
    ∃ after fed, FeedsTo session line after fed := by
  -- by the line: a command that leaves the buffer alone, a reset, the sample, or a line to be read
  rcases modelEngine.feed_cases session line with
    ⟨command, -, -, hfeed⟩ | ⟨-, hfeed⟩ | ⟨-, hfeed⟩ | ⟨-, hfeed⟩
  · exact ⟨_, _, hfeed, hbuffer⟩
  · exact ⟨_, _, hfeed, fitsBefore_nil⟩
  · obtain ⟨after, reading, complete, ha, hafter⟩ :=
      attempt_of_fitsBefore (some .sample)
        { session with buffer := modelEngine.sampleText, linesRead := session.linesRead + 1 }
        fitsBefore_sampleText
    exact ⟨_, _, hfeed.trans ha, hafter⟩
  · obtain ⟨after, reading, complete, ha, hafter⟩ :=
      attempt_of_fitsBefore none (session.takeIn [line]) (hbuffer.append_line hline)
    exact ⟨_, _, hfeed.trans ha, hafter⟩

namespace CommandLine

/-! ## Inputs that end at the question -/

/-- The question about the chart is asked after every completed round, the line behind it is
its answer and is not fed; and the input ends at a question. -/
inductive EndsAtQuestion : Session Entity → List Text → Prop
  | now {session after : Session Entity} {line : Text} {fed : Fed Entity}
    (hfeed : modelEngine.feed session line = (after, .ok fed))
    (hround : fed.roundComplete = true) : EndsAtQuestion session [line]
  | answered {session after : Session Entity} {line answer : Text} {lines : List Text}
    {fed : Fed Entity} (hfeed : modelEngine.feed session line = (after, .ok fed))
    (hround : fed.roundComplete = true) (hrest : EndsAtQuestion after lines) :
    EndsAtQuestion session (line :: answer :: lines)
  | later {session after : Session Entity} {line : Text} {lines : List Text} {fed : Fed Entity}
    (hfeed : modelEngine.feed session line = (after, .ok fed))
    (hround : fed.roundComplete = false) (hquit : fed.command ≠ some .quit)
    (hrest : EndsAtQuestion after lines) : EndsAtQuestion session (line :: lines)

theorem not_endsAtQuestion_nil (session : Session Entity) : ¬ EndsAtQuestion session [] := nofun

section

variable {session after : Session Entity} {line : Text} {lines : List Text} {fed : Fed Entity}
  (hfeed : modelEngine.feed session line = (after, .ok fed))

include hfeed

/-- Behind a completed round the input ends, or an answer and the other lines follow. -/
theorem endsAtQuestion_cons_of_round (hround : fed.roundComplete = true) :
    EndsAtQuestion session (line :: lines) ↔ lines = [] ∨ EndsAtQuestion after lines.tail := by
  constructor
  · rintro (_ | ⟨hfeed', -, hrest⟩ | ⟨hfeed', hround', -, -⟩)
    · exact .inl rfl
    · cases hfeed.symm.trans hfeed'
      exact .inr hrest
    · cases hfeed.symm.trans hfeed'
      exact absurd hround' (by simp [hround])
  · intro h
    cases lines with
    | nil => exact .now hfeed hround
    | cons answer lines =>
      rcases h with h | h
      · cases h
      · exact .answered hfeed hround h

/-- A line that completes no round and does not quit is left behind. -/
theorem endsAtQuestion_cons_of_not_round (hround : fed.roundComplete = false)
    (hquit : fed.command ≠ some .quit) :
    EndsAtQuestion session (line :: lines) ↔ EndsAtQuestion after lines := by
  refine ⟨?_, fun h => .later hfeed hround hquit h⟩
  rintro (⟨hfeed', hround'⟩ | ⟨hfeed', hround', -⟩ | ⟨hfeed', -, -, hrest⟩)
  · cases hfeed.symm.trans hfeed'
    exact absurd hround' (by simp [hround])
  · cases hfeed.symm.trans hfeed'
    exact absurd hround' (by simp [hround])
  · cases hfeed.symm.trans hfeed'
    exact hrest

/-- Behind a request to quit nothing is asked. -/
theorem not_endsAtQuestion_of_quit (hround : fed.roundComplete = false)
    (hquit : fed.command = some .quit) : ¬ EndsAtQuestion session (line :: lines) := by
  rintro (⟨hfeed', hround'⟩ | ⟨hfeed', hround', -⟩ | ⟨hfeed', -, hquit', -⟩)
  · cases hfeed.symm.trans hfeed'
    exact absurd hround' (by simp [hround])
  · cases hfeed.symm.trans hfeed'
    exact absurd hround' (by simp [hround])
  · cases hfeed.symm.trans hfeed'
    exact hquit' hquit

end

/-! ## The two places -/

/-- The reader in its loop, where it waits for a line of a model. -/
def Dialogue.atLoop (policy : ChartPolicy) (session : Session Entity) : Dialogue :=
  { policy, session }

/-- The reader at the question, which it comes to under one policy only. -/
def Dialogue.atQuestion (session : Session Entity) : Dialogue :=
  { policy := .ask, session, awaited := .answer }

/-! ## One line -/

section

variable {session after : Session Entity} {line : Text} {fed : Fed Entity}

/-- What comes behind a line that has been fed without a fault: the end of the run, the question,
or the next line. -/
theorem take_next (policy : ChartPolicy)
    (hfeed : modelEngine.feed session line = (after, .ok fed)) :
    ((Dialogue.atLoop policy session).take line).next =
      if fed.command = some .quit then .error (.exit 0)
      else if fed.roundComplete = true ∧ policy = .ask then .ok (.atQuestion after)
      else .ok (.atLoop policy after) := by
  have hround := feed_roundComplete hfeed
  obtain ⟨command, reading, complete⟩ := fed
  simp only [Dialogue.take, Dialogue.atLoop, Dialogue.takeLine, hfeed]
  -- by the command: the one to quit ends the run, those that reset or show help complete no round,
  -- and a sample is read like a line
  rcases command with _ | (_ | _ | _ | _)
  · cases complete <;> cases policy <;> rfl
  · rfl
  · cases complete <;> cases policy <;> rfl
  · obtain rfl : complete = false := hround (.inr (.inr rfl))
    rfl
  · obtain rfl : complete = false := hround (.inr (.inl rfl))
    rfl

/-- Whatever the answer is, the loop goes on behind it. -/
theorem take_answer_next (session : Session Entity) (answer : Text) :
    ((Dialogue.atQuestion session).take answer).next = .ok (.atLoop .ask session) := rfl

end

/-! ## A whole run -/

section

variable {inputEnd : InputEnd} {dialogue next : Dialogue} {line : Text} {ending : Ending}
  (lines : List Text)

/-- A run that a line ends. -/
theorem follow_of_end (h : (dialogue.take line).next = .error ending) :
    dialogue.follow inputEnd (line :: lines) =
      ⟨(dialogue.take line).call.toList, (dialogue.take line).shown, (dialogue.take line).log,
        ending⟩ := by
  simp only [Dialogue.follow, h]

/-- A run that goes on behind a line. -/
theorem follow_of_next (h : (dialogue.take line).next = .ok next) :
    dialogue.follow inputEnd (line :: lines) =
      ⟨(dialogue.take line).call.toList ++ (next.follow inputEnd lines).calls,
        (dialogue.take line).shown ++ (next.follow inputEnd lines).shown,
        (dialogue.take line).log ++ (next.follow inputEnd lines).log,
        (next.follow inputEnd lines).ending⟩ := by
  simp only [Dialogue.follow, h]

end

/-- A run ends with code 0, unless something is asked of it when no input is left. -/
def EndsUnless (asked : Prop) (ending : Ending) : Prop :=
  (asked ∧ ending = .escape .endOfInput) ∨ (¬ asked ∧ ending = .exit 0)

/-- A run that starts in the loop, and one that starts at the question. The induction is on the
lines and goes through both: a round leads from the loop to the question, and the answer leads
back. -/
theorem follow_ending (policy : ChartPolicy) {lines : List Text}
    (hfit : ∀ line ∈ lines, DigitRunsFit line) (session : Session Entity)
    (hbuffer : FitsBefore session.buffer) :
    EndsUnless (policy = .ask ∧ EndsAtQuestion session lines)
        ((Dialogue.atLoop policy session).follow .endOfFile lines).ending ∧
      EndsUnless (lines = [] ∨ EndsAtQuestion session lines.tail)
        ((Dialogue.atQuestion session).follow .endOfFile lines).ending := by
  induction lines generalizing policy session with
  | nil =>
    constructor
    · exact .inr ⟨fun h => not_endsAtQuestion_nil session h.2, rfl⟩
    · exact .inl ⟨.inl rfl, rfl⟩
  | cons line lines ih =>
    obtain ⟨hline, hlines⟩ := List.forall_mem_cons.mp hfit
    constructor
    -- in the loop the line is fed, and what it does decides where the run goes on
    · obtain ⟨after, fed, hfeed, hafter⟩ := exists_feedsTo hbuffer hline
      have hnext := take_next policy hfeed
      by_cases hquit : fed.command = some .quit
      · rw [if_pos hquit] at hnext
        rw [follow_of_end lines hnext]
        have hround := feed_roundComplete hfeed (.inl hquit)
        exact .inr ⟨fun h => not_endsAtQuestion_of_quit hfeed hround hquit h.2, rfl⟩
      · rw [if_neg hquit] at hnext
        -- only under the policy that asks does a completed round lead to the question
        by_cases hasks : fed.roundComplete = true ∧ policy = .ask
        · rw [if_pos hasks] at hnext
          rw [follow_of_next lines hnext, endsAtQuestion_cons_of_round hfeed hasks.1,
            and_iff_right hasks.2]
          exact (ih policy hlines after hafter).2
        · rw [if_neg hasks] at hnext
          rw [follow_of_next lines hnext]
          have hloop := (ih policy hlines after hafter).1
          have hiff : policy = .ask →
              (EndsAtQuestion session (line :: lines) ↔ EndsAtQuestion after lines) :=
            fun hask => endsAtQuestion_cons_of_not_round hfeed
              (by simpa [hask] using hasks) hquit
          rwa [← and_congr_right hiff] at hloop
    · -- the line is the answer, and the loop goes on behind it
      rw [follow_of_next lines (take_answer_next session line), List.tail_cons,
        or_iff_right (List.cons_ne_nil line lines)]
      have hloop := (ih .ask hlines session hbuffer).1
      rwa [and_iff_right rfl] at hloop

/-- Without a setting the chart is asked for, and with one it is drawn unless a setting is against
it. -/
theorem policyOf_eq (settings : List InteractiveSetting) :
    policyOf settings =
      if settings = [] then .ask else if .noChart ∈ settings then .never else .always := by
  unfold policyOf
  simp only [List.contains_iff_mem]
  -- a setting against the chart wins over one for it
  by_cases hchart : .noChart ∈ settings
  · rw [if_pos hchart, if_neg (List.ne_nil_of_mem hchart), if_pos hchart]
  · rw [if_neg hchart]
    rcases settings with _ | ⟨setting, settings⟩
    · rfl
    · -- the first setting can only be the other one
      have hyes : .yes ∈ setting :: settings := by
        cases setting with
        | noChart => exact absurd List.mem_cons_self hchart
        | yes => exact List.mem_cons_self
      rw [if_pos hyes, if_neg (List.cons_ne_nil setting settings), if_neg hchart]

/-- The question is asked if no setting decides about the chart. -/
theorem policyOf_eq_ask_iff (settings : List InteractiveSetting) :
    policyOf settings = .ask ↔ settings = [] := by
  rw [policyOf_eq]
  by_cases hsettings : settings = []
  · rw [if_pos hsettings]
    exact iff_of_true rfl hsettings
  · rw [if_neg hsettings]
    refine iff_of_false ?_ hsettings
    split
    · exact nofun
    · exact nofun

/-- **How a run ends.** If every line can be read, a run of the interactive reader ends with code
0, with one exception: without a setting for the chart, an input that ends at the question about
it is left by the end of the input. -/
theorem run_ending (settings : List InteractiveSetting) {lines : List Text}
    (hfit : ∀ line ∈ lines, DigitRunsFit line) :
    (settings = [] ∧ EndsAtQuestion {} lines ∧
      (Dialogue.run (policyOf settings) .endOfFile lines).ending = .escape .endOfInput) ∨
    (¬ (settings = [] ∧ EndsAtQuestion {} lines) ∧
      (Dialogue.run (policyOf settings) .endOfFile lines).ending = .exit 0) := by
  have hrun := (follow_ending (policyOf settings) hfit {} fitsBefore_nil).1
  rw [policyOf_eq_ask_iff] at hrun
  exact hrun.imp_left fun ⟨⟨hsettings, hasked⟩, hending⟩ => ⟨hsettings, hasked, hending⟩

/-- A model whose last line is the end of the input, with a setting for the chart. -/
theorem run_ending_without_question :
    ∃ lines : List Text, lines = ["((FAMIX.Inheritance".toList, "(subclass (ref: 1))".toList,
        "(superclass (ref: 2))))".toList] ∧
      (∀ line ∈ lines, DigitRunsFit line) ∧
      (Dialogue.run (policyOf [.yes]) .endOfFile lines).ending = .exit 0 := by
  obtain ⟨lines, hlines⟩ : ∃ lines : List Text, lines = ["((FAMIX.Inheritance".toList,
      "(subclass (ref: 1))".toList, "(superclass (ref: 2))))".toList] := ⟨_, rfl⟩
  have hlength : ∀ line ∈ lines, line.length ≤ maxDigits := by
    rw [hlines]
    decide
  have hfit : ∀ line ∈ lines, DigitRunsFit line :=
    fun line hline => digitRunsFit_of_length_le (hlength line hline)
  refine ⟨lines, hlines, hfit, ?_⟩
  rcases run_ending [.yes] hfit with ⟨hsettings, -⟩ | ⟨-, hending⟩
  · cases hsettings
  · exact hending

/-- The same model without a setting: its round is completed, the question is asked, and the end
of the input is not dealt with. -/
theorem run_escapes_at_question :
    ∃ lines : List Text, lines = ["((FAMIX.Inheritance".toList, "(subclass (ref: 1))".toList,
        "(superclass (ref: 2))))".toList] ∧
      (∀ line ∈ lines, line.length ≤ maxDigits) ∧
      (Dialogue.run (policyOf []) .endOfFile lines).ending = .escape .endOfInput :=
  ⟨_, rfl, by decide, rfl⟩

end CommandLine

end Famix
