/-
Models that are typed one after another.

A session that is given neat layouts line by line completes one round for each of them, with
its last line, and is left with an empty buffer. In between lines that ask for help or want to
quit may be typed anywhere; they touch nothing. `feedAll_neatModels` says what becomes of each
call.

The state that carries the induction is what is still awaited: the lines of the model that has
been begun, and the models behind it (`Awaits`). The buffer holds the lines of the model that
are there already.
-/
import Famix.Proofs.History
import Famix.Proofs.Lines
import Famix.Session.Model

set_option autoImplicit false

namespace Famix

open Grammar Engine

/-- A model that can be typed, with one of its neat layouts. It has a record at least. -/
structure NeatModel where
  entities : List Entity
  text : Text
  nonempty : entities ≠ []
  typable : ∀ entity ∈ entities, entity.Typable
  layout : NeatLayout entities text

namespace NeatModel

/-- The lines in which a model is typed. -/
def lines (model : NeatModel) : List Text := Text.lines model.text

/-- The records of a model and the lines in which it is typed. -/
def script (model : NeatModel) : List Entity × List Text := (model.entities, model.lines)

theorem lines_ne_nil (model : NeatModel) : model.lines ≠ [] := by
  obtain ⟨first, others, h⟩ := Text.exists_splitOn_eq_cons '\n' model.text
  rw [lines, Text.lines, h]
  exact List.cons_ne_nil first others

theorem ofLine?_eq_none (model : NeatModel) {line : Text} (h : line ∈ model.lines) :
    Command.ofLine? line = none :=
  model.layout.ofLine?_eq_none model.typable h

end NeatModel

/-! ## Calls -/

/-- A line that asks for help or wants to quit. -/
def IsAside (line : Text) : Prop :=
  Command.ofLine? line = some .quit ∨ Command.ofLine? line = some .help

/-- Lines with asides typed in between. -/
inductive WithAsides : List Text → List Text → Prop
  | nil : WithAsides [] []
  | line {lines fed : List Text} (line : Text) (h : WithAsides lines fed) :
    WithAsides (line :: lines) (line :: fed)
  | aside {lines fed : List Text} {line : Text} (haside : IsAside line)
    (h : WithAsides lines fed) : WithAsides lines (line :: fed)

/-- What becomes of the calls when models are typed, each given by its records and the lines
that are awaited of it. The last line of a model completes a round with its records, and
nothing but the newline of that line is left over. -/
inductive Rounds : List (List Entity × List Text) → List (Call Entity) → Prop
  | nil : Rounds [] []
  | aside {models : List (List Entity × List Text)} {line : Text} {command : Command}
    {calls : List (Call Entity)} (hcommand : Command.ofLine? line = some command)
    (haside : IsAside line) (h : Rounds models calls) :
    Rounds models (⟨line, .ok ⟨some command, {}, false⟩⟩ :: calls)
  | line {models : List (List Entity × List Text)} {entities : List Entity} {line : Text}
    {missing : List Text} {reading : Reading Entity} {calls : List (Call Entity)}
    (hmissing : missing ≠ []) (hitems : reading.items = [])
    (h : Rounds ((entities, missing) :: models) calls) :
    Rounds ((entities, line :: missing) :: models) (⟨line, .ok ⟨none, reading, false⟩⟩ :: calls)
  | last {models : List (List Entity × List Text)} {entities : List Entity} {line : Text}
    {calls : List (Call Entity)} (h : Rounds models calls) :
    Rounds ((entities, [line]) :: models)
      (⟨line, .ok ⟨none, ⟨entities, true, ['\n']⟩, true⟩⟩ :: calls)

/-- The completed rounds are the models, in order. -/
theorem Rounds.filterMap_round? {models : List (List Entity × List Text)}
    {calls : List (Call Entity)} (h : Rounds models calls) :
    calls.filterMap Call.round? = models.map Prod.fst := by
  induction h with
  | nil => rfl
  | aside _ _ _ ih => exact ih
  | line _ _ _ ih => exact ih
  | last _ ih => exact congrArg _ ih

/-! ## One call -/

/-- An aside is counted, and nothing else happens. -/
theorem feed_of_isAside {α : Type} (engine : Engine α) (session : Session α) {line : Text}
    (h : IsAside line) :
    ∃ command, Command.ofLine? line = some command ∧
      engine.feed session line =
        ({ session with linesRead := session.linesRead + 1 }, .ok ⟨some command, {}, false⟩) := by
  rcases engine.feed_cases session line with
    ⟨command, -, hline, hf⟩ | ⟨hline, -⟩ | ⟨hline, -⟩ | ⟨hline, -⟩
  · exact ⟨command, hline, hf⟩
  all_goals
    rw [IsAside, hline] at h
    rcases h with h | h <;> cases h

section

variable {model : NeatModel} {done missing : List Text} {line : Text} {session : Session Entity}
  (hlines : model.lines = done ++ line :: missing) (hbuffer : session.buffer = typed done)

include hlines hbuffer

/-- A line of a model that is not the last one is taken in. -/
theorem feed_of_missing (hmissing : missing ≠ []) :
    ∃ reading : Reading Entity, reading.items = [] ∧
      modelEngine.feed session line = (session.takeIn [line], .ok ⟨none, reading, false⟩) := by
  have hlines' : Text.lines model.text = (done ++ [line]) ++ missing := by
    rw [List.append_assoc]
    exact hlines
  obtain ⟨reading, hread, hitems⟩ :=
    model.layout.readModel_typed_of_missing model.typable hlines' hmissing
  rw [typed_append, ← hbuffer] at hread
  have hline : Command.ofLine? line = none := model.ofLine?_eq_none (by simp [hlines])
  exact ⟨reading, hitems, modelEngine.feed_of_items_eq_nil hline hread hitems⟩

/-- The last line of a model completes a round. -/
theorem feed_of_last (hmissing : missing = []) :
    modelEngine.feed session line =
      ({ session.takeIn [line] with
          buffer := []
          items := model.entities
          rounds := session.rounds + 1 },
        .ok ⟨none, ⟨model.entities, true, ['\n']⟩, true⟩) := by
  subst hmissing
  have hread := model.layout.readModel_typed model.typable
  rw [← NeatModel.lines, hlines, typed_append, ← hbuffer] at hread
  have hline : Command.ofLine? line = none := model.ofLine?_eq_none (by simp [hlines])
  exact modelEngine.feed_of_items_ne_nil hline hread model.nonempty

end

/-! ## Many calls -/

/-- What is awaited with a buffer: nothing, or the missing lines of a model whose other lines
are in the buffer, and then whole models. -/
inductive Awaits : Text → List (List Entity × List Text) → Prop
  | nothing : Awaits [] []
  | model {model : NeatModel} {done missing : List Text} (models : List NeatModel)
    (hlines : model.lines = done ++ missing) (hmissing : missing ≠ []) :
    Awaits (typed done) ((model.entities, missing) :: models.map NeatModel.script)

/-- With an empty buffer any models may be awaited. -/
theorem awaits_nil (models : List NeatModel) : Awaits [] (models.map NeatModel.script) := by
  cases models with
  | nil => exact .nothing
  | cons model models =>
    have hlines : model.lines = [] ++ model.lines := rfl
    exact .model models hlines model.lines_ne_nil

/-- **The step.** The next line that is awaited either goes to the buffer, and one line less is
awaited of the model, or completes a round, and the model is not awaited any more. -/
theorem Awaits.feed_line {session : Session Entity} {models : List (List Entity × List Text)}
    {line : Text} {lines : List Text} (h : Awaits session.buffer models)
    (hlines : models.flatMap Prod.snd = line :: lines) :
    ∃ after, Awaits (modelEngine.feed session line).1.buffer after ∧
      after.flatMap Prod.snd = lines ∧
      (∀ calls, Rounds after calls →
        Rounds models (⟨line, (modelEngine.feed session line).2⟩ :: calls)) ∧
      (modelEngine.feed session line).1.rounds + after.length =
        session.rounds + models.length := by
  generalize hbuffer : session.buffer = buffer at h
  cases h with
  | nothing => cases hlines
  | @model model done missing others hmodel hmissing =>
    obtain ⟨first, missing, rfl⟩ := List.exists_cons_of_ne_nil hmissing
    -- the line that is fed is the first of those that are missing
    obtain ⟨rfl, rfl⟩ : first = line ∧
        missing ++ (others.map NeatModel.script).flatMap Prod.snd = lines := by
      simpa using hlines
    -- whether this is the last line of the model that has been begun
    by_cases hlast : missing = []
    · have hf := feed_of_last hmodel hbuffer hlast
      subst hlast
      refine ⟨others.map NeatModel.script, ?_, rfl, fun calls hcalls => ?_, ?_⟩
      · rw [hf]
        exact awaits_nil others
      · rw [hf]
        exact .last hcalls
      · rw [hf, List.length_cons]
        exact Nat.add_right_comm _ _ _
    · obtain ⟨reading, hitems, hf⟩ := feed_of_missing hmodel hbuffer hlast
      refine ⟨(model.entities, missing) :: others.map NeatModel.script, ?_, rfl,
        fun calls hcalls => ?_, ?_⟩
      · -- the line has moved from the missing lines to those in the buffer
        rw [hf, Session.takeIn_buffer, hbuffer, ← typed_append]
        exact .model others (by rw [List.append_assoc]; exact hmodel) hlast
      · rw [hf]
        exact .line hlast hitems hcalls
      · rw [hf]
        rfl

/-- From any state of a session in which models are awaited, their lines complete one round
for each of them. The induction is on the lines that are fed. -/
theorem rounds_of_awaits {session : Session Entity} {models : List (List Entity × List Text)}
    {fed : List Text} (hfed : WithAsides (models.flatMap Prod.snd) fed)
    (hawaits : Awaits session.buffer models) :
    Rounds models (modelEngine.calls session fed) ∧
      (modelEngine.feedAll session fed).1.buffer = [] ∧
      (modelEngine.feedAll session fed).1.rounds = session.rounds + models.length := by
  generalize hlines : models.flatMap Prod.snd = lines at hfed
  induction hfed generalizing session models with
  | nil =>
    generalize hbuffer : session.buffer = buffer at hawaits
    cases hawaits with
    | nothing => exact ⟨.nil, hbuffer, rfl⟩
    | model others _ hmissing =>
      -- no line is left, but a model that is awaited has one
      rw [List.flatMap_cons, List.append_eq_nil_iff] at hlines
      exact absurd hlines.1 hmissing
  | @aside lines fed line haside hfed ih =>
    -- an aside leaves the buffer, so the same models are awaited behind it
    obtain ⟨command, hcommand, hf⟩ := feed_of_isAside modelEngine session haside
    have hawaits : Awaits (modelEngine.feed session line).1.buffer models := by rwa [hf]
    obtain ⟨hrounds, hbuffer, hcount⟩ := ih hawaits hlines
    rw [calls_cons]
    simp only [feedAll, hf] at hrounds hbuffer hcount ⊢
    exact ⟨.aside hcommand haside hrounds, hbuffer, hcount⟩
  | @line lines fed line hfed ih =>
    -- the step says what is awaited then, which is what the rest of the lines are fed to
    obtain ⟨after, hawaits, hafter, hcall, hstep⟩ := hawaits.feed_line hlines
    obtain ⟨hrounds, hbuffer, hcount⟩ := ih hawaits hafter
    rw [calls_cons]
    exact ⟨hcall _ hrounds, hbuffer, hcount.trans hstep⟩

/-- **Round by round.** The lines of neat layouts, fed to a fresh session one model after the
other with asides anywhere in between, are no commands. They complete one round for each
model, with its last line, which hands over the records of the model in order and leaves a
newline; and at the end the buffer is empty. -/
theorem feedAll_neatModels (models : List NeatModel) {fed : List Text}
    (hfed : WithAsides (models.flatMap NeatModel.lines) fed) :
    (∀ line ∈ models.flatMap NeatModel.lines, Command.ofLine? line = none) ∧
      Rounds (models.map NeatModel.script) (modelEngine.calls {} fed) ∧
      (modelEngine.calls {} fed).filterMap Call.round? = models.map NeatModel.entities ∧
      (modelEngine.feedAll {} fed).1.rounds = models.length ∧
      (modelEngine.feedAll {} fed).1.buffer = [] := by
  have hscripts : (models.map NeatModel.script).flatMap Prod.snd =
      models.flatMap NeatModel.lines := by
    rw [List.flatMap_map]
    rfl
  rw [← hscripts] at hfed
  have hawaits : Awaits ({} : Session Entity).buffer (models.map NeatModel.script) :=
    awaits_nil models
  obtain ⟨hrounds, hbuffer, hcount⟩ := rounds_of_awaits hfed hawaits
  refine ⟨fun line hline => ?_, hrounds, ?_, ?_, hbuffer⟩
  · obtain ⟨model, -, hline⟩ := List.mem_flatMap.mp hline
    exact model.ofLine?_eq_none hline
  · rw [hrounds.filterMap_round?, List.map_map]
    rfl
  · rw [hcount, List.length_map, Nat.zero_add]

/-- Two models with three lines between them that are no part of either: an inheritance, and
a namespace by the name of a command. -/
theorem feedAll_inheritance_then_namespace :
    ∃ models : List NeatModel,
      models.map NeatModel.entities =
        [[.inheritanceRecord 1 2], [.namespaceRecord "help".toList 0]] ∧
      ∃ fed : List Text, fed = ["((FAMIX.Inheritance".toList, " Help ".toList,
          "(subclass (ref: 1))".toList, "  (superclass (ref: 2))))".toList, ":q".toList,
          "((FAMIX.Namespace (id: 0)".toList, " (name 'help')))".toList, "help".toList] ∧
        WithAsides (models.flatMap NeatModel.lines) fed ∧
        (modelEngine.calls {} fed).filterMap Call.round? =
          [[.inheritanceRecord 1 2], [.namespaceRecord "help".toList 0]] ∧
        (modelEngine.feedAll {} fed).1.rounds = 2 ∧
        (modelEngine.feedAll {} fed).1.buffer = [] := by
  have hpow : (10 : Int) ≤ 10 ^ maxDigits := by
    have hnat := Nat.le_self_pow (by decide : maxDigits ≠ 0) 10
    rwa [← Int.ofNat_le, Int.natCast_pow] at hnat
  have hnumber : ∀ n : Int, 0 ≤ n → n < 10 → (Field.number n).Typable :=
    fun n hle hlt => ⟨hle, Int.lt_of_lt_of_le hlt hpow⟩
  have hinheritance : NeatLayout [.inheritanceRecord 1 2]
      "((FAMIX.Inheritance\n(subclass (ref: 1))\n  (superclass (ref: 2))))".toList :=
    ⟨_, rfl, .inr (.last ⟨_, .inheritanceRecord (figureText_neat _ _ 1) (figureText_neat _ _ 2),
      .cons rfl (.intro 0) (.cons rfl (.intro 2) (.last rfl))⟩)⟩
  have hnamespace : NeatLayout [.namespaceRecord "help".toList 0]
      "((FAMIX.Namespace (id: 0)\n (name 'help')))".toList :=
    ⟨_, rfl, .inr (.last ⟨_, .namespaceRecord (figureText_neat _ _ 0) (by decide),
      .cons rfl (.intro 1) (.last rfl)⟩)⟩
  obtain ⟨models, hentities, hlines⟩ : ∃ models : List NeatModel,
      models.map NeatModel.entities =
        [[.inheritanceRecord 1 2], [.namespaceRecord "help".toList 0]] ∧
      models.flatMap NeatModel.lines = ["((FAMIX.Inheritance".toList,
        "(subclass (ref: 1))".toList, "  (superclass (ref: 2))))".toList,
        "((FAMIX.Namespace (id: 0)".toList, " (name 'help')))".toList] := by
    refine ⟨[⟨_, _, List.cons_ne_nil _ _, ?_, hinheritance⟩,
      ⟨_, _, List.cons_ne_nil _ _, ?_, hnamespace⟩], rfl, rfl⟩
    · refine List.forall_mem_singleton.mpr (List.forall_mem_cons.mpr ⟨?_, ?_⟩)
      · exact hnumber 1 (by decide) (by decide)
      · exact List.forall_mem_singleton.mpr (hnumber 2 (by decide) (by decide))
    · refine List.forall_mem_singleton.mpr (List.forall_mem_cons.mpr ⟨⟨by decide, by decide⟩, ?_⟩)
      exact List.forall_mem_singleton.mpr (hnumber 0 (by decide) (by decide))
  have hfed : WithAsides (models.flatMap NeatModel.lines) ["((FAMIX.Inheritance".toList,
      " Help ".toList, "(subclass (ref: 1))".toList, "  (superclass (ref: 2))))".toList,
      ":q".toList, "((FAMIX.Namespace (id: 0)".toList, " (name 'help')))".toList,
      "help".toList] := by
    rw [hlines]
    -- the three lines in between are a command in capitals with blanks around it, one to quit, and
    -- one behind the last model
    exact .line _ (.aside (.inr rfl) (.line _ (.line _ (.aside (.inl rfl) (.line _ (.line _
      (.aside (.inr rfl) .nil)))))))
  obtain ⟨-, -, hrounds, hcount, hbuffer⟩ := feedAll_neatModels models hfed
  refine ⟨models, hentities, _, rfl, hfed, hrounds.trans hentities, ?_, hbuffer⟩
  rw [hcount, ← List.length_map NeatModel.entities, hentities]
  rfl

end Famix
