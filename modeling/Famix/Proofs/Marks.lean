/-
Which messages can be printed.

Only marks can keep a message from being printed, and a mark is read only where a bracket opens
it. So what can go wrong is bounded by the marks that stand in the text (`marksIn`), of which
the pieces of the message hold some in their order (`marksOf_pieces_sublist`). A message that
begins a plain style, and holds no other mark but at most the one that ends this style, can be
printed (`IsPlainStyle.exists_plain`); all messages of the program enclose their first words so
(`IsPlainStyle.exists_plain_of_enclosed`).
-/
import Famix.Display.Markup

set_option autoImplicit false

namespace Famix.Markup

/-! ## Marks in a text -/

/-- What the marks hold that a text could be read with, at whatever places they begin. -/
def marksIn : Text → List Text
  | [] => []
  | c :: rest => (mark? (c :: rest)).toList ++ marksIn rest

/-- A mark begins with a bracket. -/
theorem mark?_cons_of_ne {c : Char} (h : c ≠ '[') (rest : Text) : mark? (c :: rest) = none := by
  unfold mark?
  split
  · next heq => exact absurd (List.cons.inj heq).1 h
  · rfl

/-- No mark begins in a text without an opening bracket. -/
theorem marksIn_append {lead : Text} (h : '[' ∉ lead) (text : Text) :
    marksIn (lead ++ text) = marksIn text := by
  induction lead with
  | nil => rfl
  | cons c lead ih =>
    have hc : c ≠ '[' := (List.ne_of_not_mem_cons h).symm
    rw [List.cons_append, marksIn, mark?_cons_of_ne hc, ih (List.not_mem_of_not_mem_cons h)]
    rfl

/-- A bracket is no mark if its first character cannot stand there. -/
theorem marksIn_cons_of_not_startsMark {c : Char} (h : startsMark c = false) (rest : Text) :
    marksIn ('[' :: c :: rest) = marksIn (c :: rest) := by
  have hnone : mark? ('[' :: c :: rest) = none := by
    rw [mark?, h]
    rfl
  rw [marksIn, hnone]
  rfl

/-- Without a bracket there is no mark. -/
theorem marksIn_eq_nil {text : Text} (h : '[' ∉ text) : marksIn text = [] := by
  rw [← List.append_nil text, marksIn_append h]
  rfl

/-- The marks of the end of a text are the last ones of the text. -/
theorem marksIn_drop_sublist (count : Nat) (text : Text) :
    (marksIn (text.drop count)).Sublist (marksIn text) := by
  induction text generalizing count with
  | nil => cases count <;> exact List.Sublist.refl _
  | cons c text ih =>
    cases count with
    | zero => exact List.Sublist.refl _
    | succ count => exact (ih count).trans (List.sublist_append_right _ _)

/-- A text that begins with a mark has this mark and those behind its bracket. -/
theorem marksIn_of_mark? {text content : Text} (h : mark? text = some content) :
    marksIn text = content :: marksIn (text.drop 1) := by
  cases text with
  | nil => cases h
  | cons c rest =>
    rw [marksIn, h]
    rfl

/-! ## Marks among pieces -/

/-- What the marks among pieces hold. -/
def marksOf (pieces : List Piece) : List Text :=
  pieces.filterMap fun
    | .mark content _ => some content
    | _ => none

@[simp] theorem marksOf_nil : marksOf [] = [] := rfl

@[simp] theorem marksOf_plain (text : Text) (pieces : List Piece) :
    marksOf (.plain text :: pieces) = marksOf pieces := rfl

@[simp] theorem marksOf_escaped (text : Text) (pieces : List Piece) :
    marksOf (.escaped text :: pieces) = marksOf pieces := rfl

@[simp] theorem marksOf_mark (content : Text) (position : Nat) (pieces : List Piece) :
    marksOf (.mark content position :: pieces) = content :: marksOf pieces := rfl

@[simp] theorem marksOf_append (pieces more : List Piece) :
    marksOf (pieces ++ more) = marksOf pieces ++ marksOf more :=
  List.filterMap_append

@[simp] theorem marksOf_addPlain (c : Char) (pieces : List Piece) :
    marksOf (Piece.addPlain c pieces) = marksOf pieces := by
  unfold Piece.addPlain
  split <;> rfl

/-- Backslashes with a mark behind them yield this mark or none, and take as many characters
as they are with it. -/
theorem marked?_eq_some {position length : Nat} {text : Text} {found : List Piece}
    (h : marked? position text = some (found, length)) :
    ∃ slashes content, mark? (text.drop slashes) = some content ∧
      length = slashes + content.length + 2 ∧ (marksOf found).Sublist [content] := by
  unfold marked? at h
  obtain ⟨content, hmark, heq⟩ := Option.map_eq_some_iff.1 h
  obtain ⟨rfl, rfl⟩ := Prod.mk.inj heq
  refine ⟨_, content, hmark, rfl, ?_⟩
  split
  · exact List.nil_sublist _
  · exact List.Sublist.refl _

/-- **The marks of a message stand in its text,** in the same order. -/
theorem marksOf_pieces_sublist (position covered : Nat) (text : Text) :
    (marksOf (pieces position covered text)).Sublist (marksIn (text.drop covered)) := by
  -- the cases are those of the cutting: the end, a covered character, backslashes with a mark
  -- behind them, a backslash without one, any other character
  fun_induction pieces position covered text with
  | case1 => exact List.nil_sublist _
  | case2 position covered c rest ih => exact ih
  | case3 position c rest found length hmarked ih =>
    obtain ⟨slashes, content, hmark, hlength, hfound⟩ := marked?_eq_some hmarked
    -- The pieces behind the mark are those of a text that begins behind its bracket.
    have hbehind : (marksIn (rest.drop (length - 1))).Sublist
        (marksIn (((c :: rest).drop slashes).drop 1)) := by
      have hdrop : rest.drop (length - 1) =
          (((c :: rest).drop slashes).drop 1).drop (content.length + 1) := by
        rw [List.drop_drop, List.drop_drop, show slashes + (1 + (content.length + 1)) =
          (length - 1) + 1 by omega, List.drop_succ_cons]
      rw [hdrop]
      exact marksIn_drop_sublist _ _
    have hmarks : marksIn ((c :: rest).drop slashes) =
        [content] ++ marksIn (((c :: rest).drop slashes).drop 1) := marksIn_of_mark? hmark
    rw [marksOf_append, List.drop_zero]
    refine List.Sublist.trans ?_ (marksIn_drop_sublist slashes (c :: rest))
    rw [hmarks]
    exact hfound.append (ih.trans hbehind)
  | case4 position c rest hmarked hslash ih => exact ih.trans (marksIn_drop_sublist 1 (c :: rest))
  | case5 position c rest hmarked hslash ih =>
    rw [marksOf_addPlain]
    exact ih.trans (marksIn_drop_sublist 1 (c :: rest))

/-! ## Printing -/

/-- Without marks every message can be printed, whatever styles are in force. -/
theorem exists_plainFrom_of_marksOf_eq_nil {pieces : List Piece} (h : marksOf pieces = [])
    (styles : List Opened) : ∃ text, plainFrom styles pieces = .ok text := by
  -- on the pieces, which are plain or escaped
  induction pieces with
  | nil => exact ⟨[], rfl⟩
  | cons piece pieces ih =>
    cases piece with
    | plain text | escaped text =>
      obtain ⟨rest, hrest⟩ := ih h
      exact ⟨_, by rw [plainFrom, hrest]; rfl⟩
    | mark content position => cases h

/-- A word of which a mark can begin and end a style that asks for nothing. -/
structure IsPlainStyle (word : Text) : Prop where
  starts : ∃ c ∈ word.head?, startsMark c = true
  noBracket : '[' ∉ word ∧ ']' ∉ word
  beginning : closing? word = none
  opened : opened word = .ok ⟨word, none⟩
  check : Opened.check ⟨word, none⟩ = .ok ()
  closing : closing? ('/' :: word) = some word
  compared : compared word = .ok word
  act : Opened.act ⟨word, none⟩ = .ok ()

namespace IsPlainStyle

variable {word : Text}

/-- The word is not empty, as a mark cannot be. -/
theorem isEmpty (h : IsPlainStyle word) : word.isEmpty = false := by
  obtain ⟨c, hc, -⟩ := h.starts
  cases word with
  | nil => cases hc
  | cons d rest => rfl

/-- The mark that ends the style in force leaves none in force. -/
theorem close_eq (h : IsPlainStyle word) (content : Text) (position : Nat) :
    close [⟨word, none⟩] word content position = .ok [] := by
  simp [close, h.isEmpty, h.compared, h.act, bind, Except.bind]

/-- With the style in force, a message can be printed that holds no mark but at most the one
that ends it. -/
theorem exists_plainFrom (h : IsPlainStyle word) {pieces : List Piece}
    (hmarks : (marksOf pieces).Sublist ['/' :: word]) :
    ∃ text, plainFrom [⟨word, none⟩] pieces = .ok text := by
  induction pieces with
  | nil => exact ⟨[], rfl⟩
  | cons piece pieces ih =>
    cases piece with
    | plain text | escaped text =>
      obtain ⟨rest, hrest⟩ := ih hmarks
      exact ⟨_, by rw [plainFrom, hrest]; rfl⟩
    | mark content position =>
      rw [marksOf_mark] at hmarks
      -- this mark is the one that was admitted, so there is none behind it
      have hnone : marksOf pieces = [] := by
        have hlength := hmarks.length_le
        rw [List.length_cons, List.length_singleton] at hlength
        exact List.eq_nil_of_length_eq_zero (by omega)
      rw [hnone] at hmarks
      obtain rfl : content = '/' :: word := by simpa using hmarks
      obtain ⟨text, htext⟩ := exists_plainFrom_of_marksOf_eq_nil hnone []
      refine ⟨text, ?_⟩
      rw [plainFrom, h.closing]
      simp only [h.close_eq, bind, Except.bind, htext]

end IsPlainStyle

/-! ## Headings -/

variable {word : Text}

/-- A bracket is read up to the first closing one. -/
theorem bracketBody_append (h : '[' ∉ word ∧ ']' ∉ word) (rest : Text) :
    bracketBody (word ++ ']' :: rest) = some word := by
  induction word with
  | nil => rfl
  | cons c word ih =>
    have hopening : c ≠ '[' := (List.ne_of_not_mem_cons h.1).symm
    have hclosing : c ≠ ']' := (List.ne_of_not_mem_cons h.2).symm
    have hword := ih ⟨List.not_mem_of_not_mem_cons h.1, List.not_mem_of_not_mem_cons h.2⟩
    simp [bracketBody, hword]

/-- A word that a mark can begin with is one between brackets. -/
theorem mark?_append {c : Char} (hc : startsMark c = true) (h : '[' ∉ c :: word ∧ ']' ∉ c :: word)
    (rest : Text) : mark? ('[' :: c :: word ++ ']' :: rest) = some (c :: word) := by
  have hword := bracketBody_append
    ⟨List.not_mem_of_not_mem_cons h.1, List.not_mem_of_not_mem_cons h.2⟩ rest
  simp [mark?, hc, hword]

/-- The mark that ends a style is the only one in it. -/
theorem IsPlainStyle.marksIn_closing (h : IsPlainStyle word) (rest : Text) :
    marksIn ('[' :: '/' :: word ++ ']' :: rest) = ('/' :: word) :: marksIn rest := by
  have hopening : '[' ∉ '/' :: word := by simp [h.noBracket.1]
  have hclosing : ']' ∉ '/' :: word := by simp [h.noBracket.2]
  rw [marksIn_of_mark? (mark?_append (by decide) ⟨hopening, hclosing⟩ rest)]
  have hlead : '[' ∉ '/' :: word ++ [']'] := by simp [h.noBracket.1]
  have hbehind : ('[' :: '/' :: word ++ ']' :: rest).drop 1 = ('/' :: word ++ [']']) ++ rest := by
    simp
  rw [hbehind, marksIn_append hlead]

/-- Characters that were covered by a mark are skipped, and counted for the positions. -/
theorem pieces_covered (position covered : Nat) (text : Text) :
    pieces position covered text = pieces (position + covered) 0 (text.drop covered) := by
  induction covered generalizing position text with
  | zero => rfl
  | succ covered ih =>
    cases text with
    | nil => simp [pieces]
    | cons c rest =>
      rw [pieces, ih, List.drop_succ_cons, Nat.add_right_comm, Nat.add_assoc]

/-- A message that begins with a mark has this mark and the pieces behind it. -/
theorem pieces_of_mark? {text content : Text} (h : mark? text = some content) (position : Nat) :
    pieces position 0 text = .escaped [] :: .mark content position ::
      pieces (position + content.length + 2) 0 (text.drop (content.length + 2)) := by
  cases text with
  | nil => cases h
  | cons c rest =>
    obtain rfl : c = '[' := by
      refine Decidable.byContradiction fun hc => ?_
      rw [mark?_cons_of_ne hc] at h
      cases h
    -- there are no backslashes in front of the bracket, so the mark counts
    have hmarked : marked? position ('[' :: rest) =
        some ([.escaped [], .mark content position], content.length + 2) := by
      simp [marked?, h]
    have hposition : position + 1 + (content.length + 2 - 1) = position + content.length + 2 := by
      omega
    have hbehind := pieces_covered (position + 1) (content.length + 2 - 1) rest
    rw [hposition] at hbehind
    rw [pieces, hmarked]
    exact congrArg ([.escaped [], .mark content position] ++ ·) hbehind

/-- **A message with a heading can be printed** if it holds no mark but at most the one that
ends the heading. -/
theorem IsPlainStyle.exists_plain (h : IsPlainStyle word) {rest : Text}
    (hmarks : (marksIn rest).Sublist ['/' :: word]) :
    ∃ text, plain ('[' :: word ++ ']' :: rest) = .ok text := by
  obtain ⟨c, hc, hstarts⟩ := h.starts
  have hmark : mark? ('[' :: word ++ ']' :: rest) = some word := by
    obtain ⟨more, rfl⟩ : ∃ more, word = c :: more := List.head?_eq_some_iff.1 hc
    exact mark?_append hstarts h.noBracket rest
  have hbehind : ('[' :: word ++ ']' :: rest).drop (word.length + 2) = rest := by
    simp
  obtain ⟨text, htext⟩ := h.exists_plainFrom
    ((marksOf_pieces_sublist (0 + word.length + 2) 0 rest).trans hmarks)
  refine ⟨Display.expandCodes [] ++ text, ?_⟩
  rw [plain, pieces_of_mark? hmark, hbehind, plainFrom, plainFrom, h.beginning]
  simp only [h.opened, htext, h.check, bind, Except.bind]

/-- A message that encloses words without a bracket in a style can be printed if what follows
holds no mark. -/
theorem IsPlainStyle.exists_plain_of_enclosed (h : IsPlainStyle word) {words behind : Text}
    (hwords : '[' ∉ words) (hbehind : marksIn behind = []) :
    ∃ text, plain ('[' :: word ++ ']' :: (words ++ ('[' :: '/' :: word ++ ']' :: behind))) =
      .ok text := by
  have hmarks : marksIn (words ++ ('[' :: '/' :: word ++ ']' :: behind)) = ['/' :: word] := by
    rw [marksIn_append hwords, h.marksIn_closing, hbehind]
  exact h.exists_plain (hmarks ▸ List.Sublist.refl _)

/-- The style of the messages about something that went wrong. -/
theorem isPlainStyle_bold_red : IsPlainStyle "bold red".toList where
  starts := ⟨'b', rfl, by decide⟩
  noBracket := by decide
  beginning := rfl
  opened := rfl
  check := rfl
  closing := rfl
  compared := rfl
  act := rfl

/-- The style of the messages about something that has been done. -/
theorem isPlainStyle_bold_green : IsPlainStyle "bold green".toList where
  starts := ⟨'b', rfl, by decide⟩
  noBracket := by decide
  beginning := rfl
  opened := rfl
  check := rfl
  closing := rfl
  compared := rfl
  act := rfl

end Famix.Markup
