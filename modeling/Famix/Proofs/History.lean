/-
What a session remembers of the calls that were made.

After any run from a fresh session, each field of the session is a function of the calls and
their outcomes, whatever the engine's parser does and wherever it stopped with a fault:
`feedAll_recalls`. The line count and the round count count calls. The items are those of the
last call that had a say in them. The buffer is what was typed since the last call that started
it over, behind the text it was started with; and no text lies there that would complete a
round, because it would have when it was put there.

`Advances` is one call, read off the outcome alone, and `Recalls` is what the calls so far add
up to. Five kinds of call come down to the one step lemma `feed_advances`.
-/
import Famix.Proofs.Feeding

set_option autoImplicit false

namespace Famix.Engine

variable {α : Type}

/-! ## One call -/

/-- The items of the round that a call has completed, if it has. -/
def Call.round? (call : Call α) : Option (List α) :=
  match call.outcome with
  | .ok fed => if fed.roundComplete then some fed.reading.items else none
  | .error _ => none

/-- The items that a call leaves behind, if it has a say in them: those of the round that it
has completed, or none after a reset. -/
def Call.items? (call : Call α) : Option (List α) :=
  call.round?.or (if Command.ofLine? call.line = some .reset then some [] else none)

/-- The text with which a call starts the buffer over, if it does. A completed round and a
reset leave nothing; the sample command leaves the sample if it completes no round, and so
also if reading it stops with a fault. -/
def opening? (engine : Engine α) (call : Call α) : Option Text :=
  if call.round?.isSome then some []
  else
    match Command.ofLine? call.line with
    | some .reset => some []
    | some .sample => some engine.sampleText
    | _ => none

/-- Whether a line is no command. -/
def isOrdinary (line : Text) : Bool := (Command.ofLine? line).isNone

/-- The ordinary lines of some calls as they were typed. -/
def typedIn (calls : List (Call α)) : Text := typed ((calls.map Call.line).filter isOrdinary)

/-- If a buffer holds something that can be read, it yields no item. -/
def Settled (engine : Engine α) (buffer : Text) : Prop :=
  buffer ≠ [] → ∀ reading, engine.parser.read buffer = .ok reading → reading.items = []

/-- What one call does to a session, told from the line and its outcome. -/
structure Advances (engine : Engine α) (session : Session α) (call : Call α)
    (after : Session α) : Prop where
  linesRead : after.linesRead = session.linesRead + 1
  rounds : after.rounds = session.rounds + (if call.round?.isSome then 1 else 0)
  items : after.items = call.items?.getD session.items
  buffer : after.buffer = (engine.opening? call).getD (session.buffer ++ typedIn [call])
  settled : engine.Settled session.buffer → engine.Settled after.buffer

/-- Reading the buffer is a call of its kind if `before`, the session in which the line has been
dealt with, is what the call leaves should it complete no round. -/
theorem attempt_advances (engine : Engine α) {session before : Session α} {line : Text}
    (command : Option Command) (hreset : Command.ofLine? line ≠ some .reset)
    (hlines : before.linesRead = session.linesRead + 1) (hrounds : before.rounds = session.rounds)
    (hitems : before.items = session.items)
    (hbuffer : ∀ call : Call α, call.line = line → call.round? = none →
      before.buffer = (engine.opening? call).getD (session.buffer ++ typedIn [call])) :
    engine.Advances session ⟨line, (engine.attempt command before).2⟩
      (engine.attempt command before).1 := by
  rcases engine.attempt_cases command before with
    ⟨cause, hread, ha⟩ | ⟨reading, hread, hnone, ha⟩ | ⟨reading, -, -, ha⟩
  · rw [ha]
    refine ⟨hlines, hrounds, ?_, hbuffer _ rfl rfl, fun _ _ reading hreading => ?_⟩
    · simp [Call.items?, Call.round?, hreset, hitems]
    · rw [hread] at hreading
      cases hreading
  · rw [ha]
    refine ⟨hlines, hrounds, ?_, hbuffer _ rfl rfl, fun _ _ other hother => ?_⟩
    · simp [Call.items?, Call.round?, hreset, hitems]
    · -- the buffer that is left is the one that has just been read
      rw [hread] at hother
      cases hother
      exact hnone
  · rw [ha]
    exact ⟨hlines, congrArg (· + 1) hrounds, rfl, rfl, fun _ hne => absurd rfl hne⟩

/-- **The step.** Every call advances the session it is made on. -/
theorem feed_advances (engine : Engine α) (session : Session α) (line : Text) :
    engine.Advances session ⟨line, (engine.feed session line).2⟩ (engine.feed session line).1 := by
  rcases engine.feed_cases session line with
    ⟨command, hcommand, hline, hf⟩ | ⟨hline, hf⟩ | ⟨hline, hf⟩ | ⟨hline, hf⟩
  · rw [hf]
    rcases hcommand with rfl | rfl
    all_goals
      refine ⟨rfl, rfl, ?_, ?_, id⟩
      · simp [Call.items?, Call.round?, hline]
      · simp [opening?, Call.round?, typedIn, isOrdinary, typed, hline]
  · rw [hf]
    refine ⟨rfl, rfl, ?_, ?_, fun _ hne => absurd rfl hne⟩
    · simp [Call.items?, Call.round?, hline]
    · simp [opening?, Call.round?, hline]
  · rw [hf]
    refine engine.attempt_advances _ (by simp [hline]) rfl rfl rfl fun call hcall hround => ?_
    simp [opening?, hround, hcall, hline]
  · rw [hf]
    refine engine.attempt_advances _ (by simp [hline]) rfl rfl rfl fun call hcall hround => ?_
    simp [opening?, hround, hcall, hline, typedIn, isOrdinary]

/-! ## Many calls -/

/-- The items of the last completed round, or none if there was no round or a reset came
after it. -/
def lastItems (calls : List (Call α)) : List α := (calls.reverse.findSome? Call.items?).getD []

/-- `since` are the calls behind the last one that started the buffer over, and `lead` is the
text it was started with. It is empty if no call has. -/
inductive Since (engine : Engine α) : List (Call α) → Text → List (Call α) → Prop
  | start {since : List (Call α)} (hsince : ∀ call ∈ since, engine.opening? call = none) :
    Since engine since [] since
  | opening {earlier since : List (Call α)} {call : Call α} {lead : Text}
    (hcall : engine.opening? call = some lead)
    (hsince : ∀ call ∈ since, engine.opening? call = none) :
    Since engine (earlier ++ call :: since) lead since

/-- What a session holds is told by the calls since it was fresh. -/
structure Recalls (engine : Engine α) (calls : List (Call α)) (session : Session α) : Prop where
  linesRead : session.linesRead = calls.length
  rounds : session.rounds = calls.countP fun call => call.round?.isSome
  items : session.items = lastItems calls
  buffer : ∃ lead since, engine.Since calls lead since ∧ session.buffer = lead ++ typedIn since
  settled : engine.Settled session.buffer

theorem lastItems_append_singleton (calls : List (Call α)) (call : Call α) :
    lastItems (calls ++ [call]) = call.items?.getD (lastItems calls) := by
  rw [lastItems, List.reverse_append, List.reverse_singleton, List.singleton_append,
    List.findSome?_cons]
  cases call.items? with
  | none => rfl
  | some items => rfl

theorem typedIn_append (calls more : List (Call α)) :
    typedIn (calls ++ more) = typedIn calls ++ typedIn more := by
  rw [typedIn, List.map_append, List.filter_append, typed_append]
  rfl

/-- One more call is the new start of the buffer or belongs to those since the last one. -/
theorem Since.append_singleton {engine : Engine α} {calls since : List (Call α)} {lead : Text}
    (h : engine.Since calls lead since) {call : Call α} (hcall : engine.opening? call = none) :
    engine.Since (calls ++ [call]) lead (since ++ [call]) := by
  have hmore : ∀ {since : List (Call α)}, (∀ call ∈ since, engine.opening? call = none) →
      ∀ other ∈ since ++ [call], engine.opening? other = none := by
    intro since hsince other hother
    rcases List.mem_append.mp hother with hother | hother
    · exact hsince other hother
    · rw [List.mem_singleton.mp hother]
      exact hcall
  cases h with
  | start hsince => exact .start (hmore hsince)
  | opening hopening hsince =>
    rw [List.append_assoc, List.cons_append]
    exact .opening hopening (hmore hsince)

/-- What the calls so far tell, they tell with one more. -/
theorem Recalls.append_singleton {engine : Engine α} {calls : List (Call α)}
    {session after : Session α} {call : Call α} (h : engine.Recalls calls session)
    (hstep : engine.Advances session call after) : engine.Recalls (calls ++ [call]) after := by
  refine ⟨?_, ?_, ?_, ?_, hstep.settled h.settled⟩
  · rw [hstep.linesRead, h.linesRead, List.length_append, List.length_singleton]
  · rw [hstep.rounds, h.rounds, List.countP_append, List.countP_singleton]
  · rw [hstep.items, h.items, lastItems_append_singleton]
  · rcases hopening : engine.opening? call with _ | lead
    · -- the call adds to what was typed, or nothing
      obtain ⟨lead, since, hsince, hbuffer⟩ := h.buffer
      refine ⟨lead, since ++ [call], hsince.append_singleton hopening, ?_⟩
      rw [hstep.buffer, hopening, hbuffer, typedIn_append, Option.getD_none, List.append_assoc]
    · -- the call starts the buffer over, and all earlier ones are forgotten
      refine ⟨lead, [], .opening hopening (by simp), ?_⟩
      rw [hstep.buffer, hopening]
      exact (List.append_nil lead).symm

/-- A run keeps what is told: the calls of the run are added to those before it. -/
theorem Recalls.feedAll {engine : Engine α} {calls : List (Call α)} {session : Session α}
    (h : engine.Recalls calls session) (lines : List Text) :
    engine.Recalls (calls ++ engine.calls session lines) (engine.feedAll session lines).1 := by
  induction lines generalizing calls session with
  | nil =>
    have hnil : engine.calls session [] = [] := rfl
    rw [hnil, List.append_nil]
    exact h
  | cons line lines ih =>
    rw [calls_cons, List.append_cons]
    exact ih (h.append_singleton (engine.feed_advances session line))

/-- A fresh session tells of no calls. -/
theorem recalls_fresh (engine : Engine α) : engine.Recalls [] {} :=
  ⟨rfl, rfl, rfl, ⟨[], [], .start (by simp), rfl⟩, fun hne => absurd rfl hne⟩

/-- **History.** After any lines fed to a fresh session, some of which may have stopped with a
fault, the session holds what the calls tell: it counts the calls and the completed rounds, its
items are those of the last completed round unless a reset came after, and its buffer is what
was typed since it was last started over, in which no round is left lying. -/
theorem feedAll_recalls (engine : Engine α) (lines : List Text) :
    (engine.calls {} lines).length = lines.length ∧
      engine.Recalls (engine.calls {} lines) (engine.feedAll {} lines).1 := by
  refine ⟨engine.length_calls {} lines, ?_⟩
  have hrun := (recalls_fresh engine).feedAll lines
  rwa [List.nil_append] at hrun

end Famix.Engine
