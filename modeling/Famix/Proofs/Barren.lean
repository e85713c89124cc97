/-
Buffers from which nothing will ever be read.

A model with a record in it begins with two parentheses, that of the list and that of its
first record. A buffer that has begun in another way, and in which the line is at an end, can
be read but yields no item, and it stays so whatever is typed behind it: a buffer grows at its
end only. So a session with such a buffer is lost to every model until it is reset or the
sample is loaded (`feedAll_of_barren`).

That reading never stops with a fault there is the part that needs the grammar. The first two
characters decide, before a numeral is looked at: either the list does not open, or no record
does, and then the list is over.
-/
import Famix.Proofs.History
import Famix.Proofs.Truncation
import Famix.Session.Model

set_option autoImplicit false

namespace Famix

open Grammar Engine

/-! ## Texts -/

/-- A text of whole lines that does not begin with two parentheses. -/
structure Barren (text : Text) : Prop where
  line : ['\n'] <:+ text
  start : ¬ "((".toList <+: text

/-- A barren text stays barren with more lines behind it. -/
theorem Barren.append_typed {text : Text} (h : Barren text) (lines : List Text) :
    Barren (text ++ typed lines) := by
  refine ⟨suffix_append_typed h.line lines, fun hstart => ?_⟩
  -- the two parentheses would have to reach over the end of the first line
  rcases List.prefix_or_prefix_of_prefix hstart (List.prefix_append text _) with hin | hin
  · exact h.start hin
  · have hnewline : '\n' ∈ "((".toList := hin.subset (h.line.subset List.mem_cons_self)
    exact absurd hnewline (by decide)

/-- A barren text begins with another character than a parenthesis, or its second character is
another one. -/
theorem Barren.cases {text : Text} (h : Barren text) :
    (∃ c rest, text = [c] ++ rest ∧ c ≠ '(') ∨
      ∃ d rest, text = "(".toList ++ ([d] ++ rest) ∧ d ≠ '(' := by
  obtain ⟨⟨lead, rfl⟩, hstart⟩ := h
  cases lead with
  | nil => exact .inl ⟨'\n', [], rfl, by decide⟩
  | cons c lead =>
    by_cases hc : c = '('
    · subst hc
      cases lead with
      | nil => exact .inr ⟨'\n', [], rfl, by decide⟩
      | cons d lead =>
        refine .inr ⟨d, lead ++ ['\n'], rfl, ?_⟩
        rintro rfl
        exact hstart ⟨lead ++ ['\n'], rfl⟩
    · exact .inl ⟨c, lead ++ ['\n'], rfl, hc⟩

/-! ## Reading -/

/-- A record that opens the list of a model opens with the second parenthesis of the text. -/
theorem Grammar.ModelText.start {numeral : Text → Int → Prop} {entities : List Entity} {c : Text}
    (h : ModelText numeral entities c) (hne : entities ≠ []) : "((".toList <+: c := by
  obtain ⟨t, rfl, ⟨rfl, -⟩ | hrow⟩ := modelText_iff.mp h
  · exact absurd rfl hne
  · obtain ⟨rest, rfl⟩ := hrow.opens fun _ _ => RecordText.opens
    exact ⟨rest ++ ")".toList, rfl⟩

/-- No record begins with another character than a parenthesis. -/
theorem Grammar.refuses_entity_of_ne {c : Char} (hc : c ≠ '(') : Parser.Refuses entity [c] := by
  refine refuses_entity fun kind => ⟨fun hopener => ?_, fun hopener => ?_⟩
  · have hlength : (opener kind).length ≤ 1 := hopener.length_le
    cases kind <;> exact absurd hlength (by decide)
  · exact hc (List.cons_prefix_cons.mp hopener).1

/-- Reading a barren text meets no fault: no numeral is ever looked at. -/
theorem Barren.not_isFault {text : Text} (h : Barren text) {rounds : Nat}
    (hrounds : text.length < rounds) : ¬ (model.run rounds text (0 : Nat)).IsFault := by
  obtain ⟨left, rfl⟩ : ∃ left, rounds = left + 1 := ⟨rounds - 1, by omega⟩
  rcases h.cases with ⟨c, rest, rfl, hc⟩ | ⟨d, rest, rfl, hd⟩
  · -- the list does not open
    have hrefuse : Parser.Refuses model [c] := by
      refine (Parser.refuses_token ⟨fun hin => ?_, fun hin => ?_⟩).bind _
      · exact hc (List.cons_prefix_cons.mp hin).1.symm
      · exact hc (List.cons_prefix_cons.mp hin).1
    obtain ⟨reached, hrun⟩ := hrefuse (left + 1) ([c] ++ rest) rest 0 (Text.unread_zero _)
    rw [hrun]
    rintro ⟨cause, offset, hfault⟩
    cases hfault
  · -- the list opens, but no record does
    have hopen := Parser.settles_token "(".toList [] (left + 1) _ ([d] ++ rest) 0
      (Text.unread_zero ("(".toList ++ ([d] ++ rest)))
    have hmany : (Parser.many entity separator).run (left + 1) ("(".toList ++ ([d] ++ rest))
        (0 + "(".toList.length : Nat) = ⟨.accept [], (0 + "(".toList.length : Nat)⟩ :=
      Parser.manyFrom_of_reject left _ []
        (refuses_entity_of_ne hd (left + 1) _ rest _ (Text.unread_add (Text.unread_zero _)))
    have hclose : Parser.Orderly (fun _ _ _ => False)
        (Parser.token ")".toList >>= fun _ => (pure [] : Parser (List Entity))) :=
      (Parser.orderly_token _).bind fun _ => Parser.orderly_pure _
    unfold Grammar.model
    rw [Parser.run_bind_accept _ _ _ hopen, Reply.isFault_rollback_iff,
      Parser.run_bind_accept _ _ _ hmany, Reply.isFault_rollback_iff]
    exact hclose.not_isFault hrounds _

/-- A barren text is read and yields nothing. -/
theorem Barren.exists_readModel {text : Text} (h : Barren text) :
    ∃ reading, readModel text = .ok reading ∧ reading.items = [] := by
  cases hread : readModel text with
  | error cause =>
    obtain ⟨offset, hreply⟩ := Parser.read_eq_error_iff.mp hread
    exact absurd ⟨cause, offset, hreply⟩ (h.not_isFault (Parser.length_lt_allowance text 0))
  | ok reading =>
    refine ⟨reading, rfl, ?_⟩
    by_contra hne
    -- what matches with a record begins with the two parentheses
    obtain ⟨items, matched, remainder⟩ := reading
    obtain rfl : matched = true := Parser.matched_of_items_ne_nil hread hne
    obtain ⟨c, rfl, hc⟩ := readModel_eq_matched_iff.mp hread
    exact h.start ((hc.start hne).trans (List.prefix_append c remainder))

/-! ## Sessions -/

/-- An outcome that reports neither a fault nor a round nor an item. -/
def IsFruitless (outcome : Except Fault (Fed Entity)) : Prop :=
  ∃ fed, outcome = .ok fed ∧ fed.roundComplete = false ∧ fed.reading.items = []

/-- Neither a reset nor the sample command: a line that leaves what has been typed where it
is. -/
def KeepsBuffer (line : Text) : Prop :=
  Command.ofLine? line ≠ some .reset ∧ Command.ofLine? line ≠ some .sample

instance (line : Text) : Decidable (KeepsBuffer line) := inferInstanceAs (Decidable (_ ∧ _))

/-- **The step.** On a barren buffer a line comes to nothing: it is counted, and added to the
buffer if it is an ordinary one. -/
theorem feed_of_barren {session : Session Entity} (hbarren : Barren session.buffer) {line : Text}
    (hline : KeepsBuffer line) :
    IsFruitless (modelEngine.feed session line).2 ∧
      (modelEngine.feed session line).1 =
        { session with
          buffer := session.buffer ++ typed ([line].filter isOrdinary)
          linesRead := session.linesRead + 1 } := by
  rcases modelEngine.feed_cases session line with
    ⟨command, -, hcommand, hfeed⟩ | ⟨hcommand, -⟩ | ⟨hcommand, -⟩ | ⟨hcommand, -⟩
  · rw [hfeed]
    refine ⟨⟨_, rfl, rfl, rfl⟩, ?_⟩
    simp [isOrdinary, hcommand, typed]
  · exact absurd hcommand hline.1
  · exact absurd hcommand hline.2
  · obtain ⟨reading, hread, hitems⟩ := (hbarren.append_typed [line]).exists_readModel
    rw [modelEngine.feed_of_items_eq_nil hcommand hread hitems]
    refine ⟨⟨_, rfl, rfl, hitems⟩, ?_⟩
    simp [isOrdinary, hcommand, Session.takeIn]

/-- **Lost sessions.** Once a buffer is barren, no further line completes a round, yields an item
or stops with a fault, unless the session is reset or the sample is loaded. Nothing changes but
the line count and the buffer, to which the ordinary lines are added; and so it remains barren. -/
theorem feedAll_of_barren {session : Session Entity} {lines : List Text}
    (hbarren : Barren session.buffer) (hlines : ∀ line ∈ lines, KeepsBuffer line) :
    (∀ outcome ∈ (modelEngine.feedAll session lines).2, IsFruitless outcome) ∧
      (modelEngine.feedAll session lines).2.length = lines.length ∧
      (modelEngine.feedAll session lines).1 =
        { session with
          buffer := session.buffer ++ typed (lines.filter isOrdinary)
          linesRead := session.linesRead + lines.length } ∧
      Barren (modelEngine.feedAll session lines).1.buffer := by
  induction lines generalizing session with
  | nil => exact ⟨nofun, rfl, by simp [feedAll, typed], hbarren⟩
  | cons line lines ih =>
    obtain ⟨hline, hlines⟩ := List.forall_mem_cons.mp hlines
    obtain ⟨hfruitless, hafter⟩ := feed_of_barren hbarren hline
    have hnext : Barren (modelEngine.feed session line).1.buffer := by
      rw [hafter]
      exact hbarren.append_typed _
    obtain ⟨houtcomes, hlength, hsession, hlast⟩ := ih hnext hlines
    refine ⟨?_, ?_, ?_, hlast⟩
    · exact List.forall_mem_cons.mpr ⟨hfruitless, houtcomes⟩
    · exact congrArg (· + 1) hlength
    · -- what the later lines add stands behind what this one has added
      have hsplit : (line :: lines).filter isOrdinary =
          [line].filter isOrdinary ++ lines.filter isOrdinary := by
        rw [← List.filter_append, List.singleton_append]
      refine hsession.trans ?_
      rw [hafter, hsplit, typed_append, List.append_assoc, List.length_cons]
      simp only [Nat.add_assoc, Nat.add_comm 1]

/-- Behind an empty list no model is read any more, with a request for help among its lines or
without. -/
theorem feedAll_behind_empty_list :
    ∃ (session : Session Entity) (lines : List Text), session = { buffer := "()\n".toList } ∧
      lines = ["((FAMIX.Inheritance".toList, "(subclass (ref: 1))".toList, "help".toList,
        "(superclass (ref: 2))))".toList] ∧
      Barren session.buffer ∧ (∀ line ∈ lines, KeepsBuffer line) ∧
      (∀ outcome ∈ (modelEngine.feedAll session lines).2, IsFruitless outcome) ∧
      (modelEngine.feedAll session lines).1 =
        { buffer := ("()\n((FAMIX.Inheritance\n(subclass (ref: 1))\n" ++
            "(superclass (ref: 2))))\n").toList
          linesRead := 4 } := by
  obtain ⟨session, hsession⟩ : ∃ session : Session Entity,
    session = { buffer := "()\n".toList } := ⟨_, rfl⟩
  obtain ⟨lines, hlines⟩ : ∃ lines : List Text, lines = ["((FAMIX.Inheritance".toList,
    "(subclass (ref: 1))".toList, "help".toList, "(superclass (ref: 2))))".toList] := ⟨_, rfl⟩
  have hbarren : Barren session.buffer := by
    rw [hsession]
    exact ⟨⟨"()".toList, rfl⟩, by decide⟩
  have hkeeps : ∀ line ∈ lines, KeepsBuffer line := by
    rw [hlines]
    decide
  obtain ⟨houtcomes, -, hafter, -⟩ := feedAll_of_barren hbarren hkeeps
  refine ⟨session, lines, hsession, hlines, hbarren, hkeeps, houtcomes, ?_⟩
  rw [hafter, hsession, hlines]
  rfl

end Famix
