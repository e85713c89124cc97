/-
The lines of a text, and the lines in which a model is typed.

Whoever types the lines of a text types the text, with a newline at its end (`typed_lines`).
What matters of the lines of a neat layout is one thing: there is an opening parenthesis in
each of them (`NeatLayout.opensEachLine`). So none of them is taken for a command, and as long
as one of them is missing, the text that has been typed is not a model.
-/
import Famix.Proofs.Characters
import Famix.Proofs.Feeding
import Famix.Proofs.Layout
import Famix.Proofs.Truncation

set_option autoImplicit false

namespace Famix

namespace Text

/-! ## Pieces between separators -/

section

variable {separator : Char} {text : Text}

theorem splitOn_cons_self (separator : Char) (text : Text) :
    splitOn separator (separator :: text) = [] :: splitOn separator text := by
  rw [splitOn, if_pos rfl]

theorem splitOn_cons_of_ne {c : Char} {piece : Text} {pieces : List Text} (hc : c ≠ separator)
    (h : splitOn separator text = piece :: pieces) :
    splitOn separator (c :: text) = (c :: piece) :: pieces := by
  rw [splitOn, if_neg hc, h]

/-- There is always a first piece, that of the empty text included. -/
theorem exists_splitOn_eq_cons (separator : Char) (text : Text) :
    ∃ piece pieces, splitOn separator text = piece :: pieces := by
  induction text with
  | nil => exact ⟨[], [], rfl⟩
  | cons c text ih =>
    obtain ⟨piece, pieces, h⟩ := ih
    by_cases hc : c = separator
    · subst hc
      exact ⟨[], _, splitOn_cons_self c text⟩
    · exact ⟨c :: piece, pieces, splitOn_cons_of_ne hc h⟩

/-- Text without a separator in front of another text goes to its first piece. -/
theorem splitOn_append_left {lead piece : Text} {pieces : List Text} (hlead : separator ∉ lead)
    (h : splitOn separator text = piece :: pieces) :
    splitOn separator (lead ++ text) = (lead ++ piece) :: pieces := by
  -- on the text in front, whose characters go to the first piece one by one
  induction lead with
  | nil => exact h
  | cons c lead ih =>
    rw [List.mem_cons, not_or] at hlead
    exact splitOn_cons_of_ne (Ne.symm hlead.1) (ih hlead.2)

/-- A text without separators is its own only piece. -/
theorem splitOn_of_not_mem (h : separator ∉ text) : splitOn separator text = [text] := by
  have hsplit : splitOn separator (text ++ []) = [text ++ []] := splitOn_append_left h rfl
  rwa [List.append_nil] at hsplit

/-- A text is cut at each of its separators. -/
theorem splitOn_append_cons (separator : Char) (text more : Text) :
    splitOn separator (text ++ separator :: more) =
      splitOn separator text ++ splitOn separator more := by
  induction text with
  | nil => exact splitOn_cons_self separator more
  | cons c text ih =>
    obtain ⟨piece, pieces, h⟩ := exists_splitOn_eq_cons separator text
    rw [h] at ih
    -- the first piece of what is left is either complete, or it gets this character
    by_cases hc : c = separator
    · subst hc
      rw [List.cons_append, splitOn_cons_self, splitOn_cons_self, ih, h]
      rfl
    · rw [List.cons_append, splitOn_cons_of_ne hc h, splitOn_cons_of_ne hc ih]
      rfl

/-- A text is its last piece, or it is cut at its last separator. -/
theorem exists_last_piece (separator : Char) (text : Text) :
    ∃ last, separator ∉ last ∧ (text = last ∨ ∃ lead, text = lead ++ separator :: last) := by
  induction text with
  | nil => exact ⟨[], List.not_mem_nil, .inl rfl⟩
  | cons c text ih =>
    obtain ⟨last, hlast, rfl | ⟨lead, rfl⟩⟩ := ih
    · by_cases hc : c = separator
      · subst hc
        exact ⟨text, hlast, .inr ⟨[], rfl⟩⟩
      · exact ⟨c :: text, by simp [Ne.symm hc, hlast], .inl rfl⟩
    · exact ⟨last, hlast, .inr ⟨c :: lead, rfl⟩⟩

end

/-! ## Lines with a parenthesis -/

/-- There is an opening parenthesis in each line of a text. -/
def OpensEachLine (text : Text) : Prop := ∀ line ∈ lines text, '(' ∈ line

theorem opensEachLine_of_line {text : Text} (hopen : '(' ∈ text) (hline : '\n' ∉ text) :
    OpensEachLine text := by
  intro line hmem
  rw [lines, splitOn_of_not_mem hline, List.mem_singleton] at hmem
  rwa [hmem]

/-- A newline between two such texts keeps their lines apart. -/
theorem OpensEachLine.newline {text more : Text} (h : OpensEachLine text)
    (hmore : OpensEachLine more) : OpensEachLine (text ++ '\n' :: more) := by
  intro line hmem
  rw [lines, splitOn_append_cons, List.mem_append] at hmem
  exact hmem.elim (h line) (hmore line)

/-- More text in front of the first line takes nothing from it. -/
theorem OpensEachLine.append_left {text lead : Text} (h : OpensEachLine text)
    (hlead : '\n' ∉ lead) : OpensEachLine (lead ++ text) := by
  obtain ⟨first, others, hlines⟩ := exists_splitOn_eq_cons '\n' text
  intro line hmem
  rw [lines, splitOn_append_left hlead hlines] at hmem
  rw [OpensEachLine, lines, hlines] at h
  rcases List.mem_cons.mp hmem with rfl | hmem
  · exact List.mem_append_right lead (h first List.mem_cons_self)
  · exact h line (List.mem_cons_of_mem first hmem)

/-- More text behind the last line takes nothing from it. -/
theorem OpensEachLine.append_right {text more : Text} (h : OpensEachLine text)
    (hmore : '\n' ∉ more) : OpensEachLine (text ++ more) := by
  obtain ⟨last, hlast, rfl | ⟨lead, rfl⟩⟩ := exists_last_piece '\n' text
  · refine opensEachLine_of_line (List.mem_append_left more (h text ?_)) (by simp [hlast, hmore])
    rw [lines, splitOn_of_not_mem hlast]
    exact List.mem_cons_self
  · -- only the last line gets longer
    rw [OpensEachLine, lines, splitOn_append_cons, splitOn_of_not_mem hlast] at h
    rw [List.append_assoc, List.cons_append]
    refine OpensEachLine.newline (fun line hline => h line (List.mem_append_left _ hline)) ?_
    refine opensEachLine_of_line (List.mem_append_left more (h last (by simp))) ?_
    simp [hlast, hmore]

end Text

open Text

/-- Typing the lines of a text types the text, with a newline at its end. -/
theorem typed_lines (text : Text) : typed (lines text) = text ++ ['\n'] := by
  induction text with
  | nil => rfl
  | cons c text ih =>
    obtain ⟨first, others, h⟩ := exists_splitOn_eq_cons '\n' text
    -- a newline ends an empty first line; any other character goes to the first line of the rest
    by_cases hc : c = '\n'
    · subst hc
      rw [lines, splitOn_cons_self, ← lines, List.cons_append, ← ih]
      rfl
    · rw [lines, h] at ih
      rw [lines, splitOn_cons_of_ne hc h, List.cons_append, ← ih]
      rfl

/-- The lines of a text of whole lines are those lines, and an empty one behind the last
newline. -/
theorem lines_typed {pieces : List Text} (h : ∀ piece ∈ pieces, '\n' ∉ piece) :
    lines (typed pieces) = pieces ++ [[]] := by
  induction pieces with
  | nil => rfl
  | cons piece pieces ih =>
    have hpiece : '\n' ∉ piece := h piece List.mem_cons_self
    have htyped : typed (piece :: pieces) = piece ++ '\n' :: typed pieces := by simp [typed]
    have hpieces := ih fun other hother => h other (List.mem_cons_of_mem piece hother)
    rw [lines] at hpieces
    rw [lines, htyped, splitOn_append_cons, splitOn_of_not_mem hpiece, hpieces]
    rfl

/-! ## Lines that are no commands -/

/-- What is not of the class is not dropped with the run in front. -/
theorem Text.mem_dropWhile {belongs : Char → Bool} {text : Text} {c : Char} (hc : c ∈ text)
    (hbelongs : belongs c = false) : c ∈ text.dropWhile belongs := by
  rw [← List.takeWhile_append_dropWhile (p := belongs) (l := text), List.mem_append] at hc
  rcases hc with hc | hc
  · rw [List.mem_takeWhile_imp hc] at hbelongs
    cases hbelongs
  · exact hc

/-- What is not blank is not stripped. -/
theorem Text.mem_strip {text : Text} {c : Char} (hc : c ∈ text) (hblank : isBlank c = false) :
    c ∈ strip text := by
  rw [strip, stripEnd, List.mem_reverse]
  exact mem_dropWhile (List.mem_reverse.mpr (mem_dropWhile hc hblank)) hblank

/-- No command has a parenthesis in it. -/
theorem Command.ofLine?_eq_none {line : Text} (h : '(' ∈ line) : Command.ofLine? line = none := by
  -- neither blanks nor small letters do anything to a parenthesis
  have hlower : '(' ∈ lower (strip line) :=
    List.mem_map.mpr ⟨'(', Text.mem_strip h (by decide), by decide⟩
  refine List.find?_eq_none.mpr fun command _ hword => ?_
  rw [beq_iff_eq] at hword
  rw [← hword] at hlower
  cases command <;> exact absurd hlower (by decide)

/-! ## Neat layouts -/

namespace Grammar

/-- A row of items opens each line if its items do: a separator is a newline and spaces that
go in front of the next line. -/
theorem Row.opensEachLine {α : Type} {item : α → Text → Prop} {values : List α} {t : Text}
    (h : Row item SeparatorText values t)
    (hitem : ∀ value ∈ values, ∀ t, item value t → OpensEachLine t) : OpensEachLine t := by
  induction h with
  | last h => exact hitem _ List.mem_cons_self _ h
  | @cons value values t s rest h hs hrest ih =>
    obtain ⟨count⟩ := hs
    have hspaces : '\n' ∉ List.replicate count ' ' := by simp [List.mem_replicate]
    have hrest := ih fun other hother => hitem other (List.mem_cons_of_mem value hother)
    exact (hitem value List.mem_cons_self t h).newline (hrest.append_left hspaces)

/-- Text in one line with an opening parenthesis. -/
def IsLine (t : Text) : Prop := '(' ∈ t ∧ '\n' ∉ t

instance (t : Text) : Decidable (IsLine t) := inferInstanceAs (Decidable (_ ∧ _))

theorem IsLine.append {t more : Text} (h : IsLine t) (hmore : '\n' ∉ more) :
    IsLine (t ++ more) :=
  ⟨List.mem_append_left more h.1, by simp [h.2, hmore]⟩

theorem FigureText.isLine {opening closing t : Text} {n : Int}
    (h : FigureText IsDecimal (· = []) opening closing n t) (hopening : IsLine opening)
    (hclosing : '\n' ∉ closing) : IsLine t := by
  obtain ⟨_, _, rfl, -, -, rfl⟩ := h
  exact hopening.append (by simp [newline_not_mem_ofInt, hclosing])

theorem isLine_nameText {name : Text} (h : '\n' ∉ name) : IsLine (nameText name) :=
  IsLine.append (by decide) (by simp [h])

theorem QuotedSignature.isLine {signature t : Text}
    (h : QuotedSignature (· = []) signature t) (hsignature : '\n' ∉ signature) : IsLine t := by
  obtain ⟨_, -, -, rfl⟩ := h
  exact IsLine.append (by decide) (by simp [hsignature])

/-- The pieces of a record that can be typed are lines. -/
theorem RecordPieces.isLine {entity : Entity} {pieces : List Text}
    (h : RecordPieces IsDecimal (· = []) entity pieces) (htypable : entity.Typable) :
    ∀ piece ∈ pieces, IsLine piece := by
  have htext : ∀ field content, (field, Field.text content) ∈ entity.fields → '\n' ∉ content :=
    fun field content hmem => (htypable _ hmem).2
  have hname : ∀ content, ("name".toList, Field.text content) ∈ entity.fields →
      IsLine (nameText content) := fun content hmem => isLine_nameText (htext _ content hmem)
  have hclose : ∀ {piece}, IsLine piece → IsLine (piece ++ ")".toList) :=
    fun hpiece => hpiece.append (by decide)
  have hall : ∀ {piece : Text} {others : List Text}, IsLine piece →
      (∀ other ∈ others, IsLine other) → ∀ other ∈ piece :: others, IsLine other :=
    fun hpiece hothers => List.forall_mem_cons.mpr ⟨hpiece, hothers⟩
  -- all pieces have a parenthesis of their own, and a newline could only be in a name or a
  -- signature
  cases h with
  | namespaceRecord hid =>
    have hid := FigureText.isLine hid (by decide) (by decide)
    exact hall hid (hall (hclose (hname _ List.mem_cons_self)) nofun)
  | packageRecord hid =>
    have hid := FigureText.isLine hid (by decide) (by decide)
    exact hall hid (hall (hclose (hname _ List.mem_cons_self)) nofun)
  | childPackageRecord hid _ hparent =>
    have hid := FigureText.isLine hid (by decide) (by decide)
    have hparent := FigureText.isLine hparent (by decide) (by decide)
    exact hall hid (hall (hname _ List.mem_cons_self) (hall (hclose hparent) nofun))
  | classRecord hid _ hcontainer hparent =>
    have hid := FigureText.isLine hid (by decide) (by decide)
    have hcontainer := FigureText.isLine hcontainer (by decide) (by decide)
    have hparent := FigureText.isLine hparent (by decide) (by decide)
    exact hall hid (hall (hname _ List.mem_cons_self)
      (hall hcontainer (hall (hclose hparent) nofun)))
  | methodRecord _ hsignature hparent hloc =>
    have hsignature := hsignature.isLine
      (htext "signature".toList _ (List.mem_cons_of_mem _ List.mem_cons_self))
    have hparent := FigureText.isLine hparent (by decide) (by decide)
    have hloc := FigureText.isLine hloc (by decide) (by decide)
    exact hall (by decide) (hall (hname _ List.mem_cons_self)
      (hall hsignature (hall hparent (hall hloc nofun))))
  | attributeRecord _ hparent =>
    have hparent := FigureText.isLine hparent (by decide) (by decide)
    exact hall (by decide) (hall (hname _ List.mem_cons_self) (hall (hclose hparent) nofun))
  | inheritanceRecord hsub hsuper =>
    have hsub := FigureText.isLine hsub (by decide) (by decide)
    have hsuper := FigureText.isLine hsuper (by decide) (by decide)
    exact hall (by decide) (hall hsub (hall (hclose hsuper) nofun))

/-- There is a parenthesis in each line of a neat layout. -/
theorem NeatLayout.opensEachLine {entities : List Entity} {c : Text} (h : NeatLayout entities c)
    (htypable : ∀ entity ∈ entities, entity.Typable) : OpensEachLine c := by
  obtain ⟨t, rfl, ⟨rfl, rfl⟩ | hrow⟩ := h
  · exact opensEachLine_of_line (by decide) (by decide)
  · refine OpensEachLine.append_left (OpensEachLine.append_right ?_ (by decide)) (by decide)
    refine hrow.opensEachLine fun entity hentity t hrecord => ?_
    obtain ⟨pieces, hpieces, hrow⟩ := hrecord
    refine hrow.opensEachLine fun piece hpiece t ht => ?_
    subst ht
    obtain ⟨hopen, hline⟩ := hpieces.isLine (htypable entity hentity) piece hpiece
    exact opensEachLine_of_line hopen hline

/-! ## Typing a neat layout -/

section

variable {entities : List Entity} {c : Text} (h : NeatLayout entities c)
  (htypable : ∀ entity ∈ entities, entity.Typable)

include h htypable

/-- A neat layout that has been typed is read back, with the last newline as the remainder. -/
theorem NeatLayout.readModel_typed :
    readModel (typed (lines c)) = .ok ⟨entities, true, ['\n']⟩ := by
  rw [typed_lines]
  exact readModel_eq_matched_iff.mpr ⟨c, rfl, h.modelText htypable⟩

/-- No line of a neat layout is a command. -/
theorem NeatLayout.ofLine?_eq_none {line : Text} (hline : line ∈ lines c) :
    Command.ofLine? line = none :=
  Command.ofLine?_eq_none (h.opensEachLine htypable line hline)

/-- As long as a line is missing, what has been typed is read but yields nothing: otherwise
the missing lines would be in the remainder, which is a newline only. -/
theorem NeatLayout.readModel_typed_of_missing {done missing : List Text}
    (hlines : lines c = done ++ missing) (hmissing : missing ≠ []) :
    ∃ reading, readModel (typed done) = .ok reading ∧ reading.items = [] := by
  have hwhole := h.readModel_typed htypable
  rw [hlines, typed_append] at hwhole
  obtain ⟨reading, hread⟩ := exists_readModel_of_append hwhole
  refine ⟨reading, hread, ?_⟩
  by_contra hne
  -- what matches in part of the lines matches in all of them, and the rest is left over
  obtain ⟨items, matched, remainder⟩ := reading
  obtain rfl : matched = true := Parser.matched_of_items_ne_nil hread hne
  have hmore := readModel_append hread (typed missing)
  rw [hwhole] at hmore
  obtain ⟨-, hremainder⟩ : entities = items ∧ ['\n'] = remainder ++ typed missing := by
    simpa using hmore
  obtain ⟨line, others, rfl⟩ := List.exists_cons_of_ne_nil hmissing
  have hopen : '(' ∈ line := h.opensEachLine htypable line (by simp [hlines])
  have hin : '(' ∈ ['\n'] := by
    rw [hremainder]
    simp [typed, hopen]
  exact absurd hin (by decide)

end

end Grammar

end Famix
