/-
How parts are grouped does not show.

Parts in a row may be put together in one sequence or in several, one inside the other: the run
is the same, and only the brackets in the value differ. Alternatives may be listed in one choice or
in several. And a beginning that all alternatives have in common may be read once, in front of the
choice, or once more for each of them.

Nothing is asked of the parts. They may leave the offset anywhere when they reject, and stop
with any fault. What makes the laws true is that sequences and choices clean up: a sequence that
rejects is back where it started, so an inner one is where the outer one goes back to anyway
or does not show in it (`bind_bind`), and each alternative starts where the first one did.
-/
import Famix.Proofs.Rollback

set_option autoImplicit false

namespace Famix

variable {α β γ : Type}

namespace Reply

theorem map_map (reply : Reply α) (value : α → β) (further : β → γ) :
    (reply.map value).map further = reply.map fun a => further (value a) := by
  obtain ⟨verdict, offset⟩ := reply
  cases verdict <;> rfl

theorem map_rollback (reply : Reply α) (value : α → β) (start : Int) :
    (reply.rollback start).map value = (reply.map value).rollback start := by
  obtain ⟨verdict, offset⟩ := reply
  cases verdict <;> rfl

/-- Going back twice leads where the second way back leads. -/
theorem rollback_rollback (reply : Reply α) (start earlier : Int) :
    (reply.rollback start).rollback earlier = reply.rollback earlier := by
  obtain ⟨verdict, offset⟩ := reply
  cases verdict <;> rfl

end Reply

namespace Parser

/-! ## Sequences -/

/-- Of three parts in a row the last two may be taken together. -/
theorem bind_bind (first : Parser α) (next : α → Parser β) (last : β → Parser γ) :
    (first >>= next) >>= last = first >>= fun a => next a >>= last := by
  ext rounds source offset
  rcases hf : first.run rounds source offset with ⟨verdict, middle⟩
  cases verdict with
  | reject =>
    rw [run_bind_reject rounds source offset hf,
      run_bind_reject rounds source offset (run_bind_reject rounds source offset hf)]
  | fault cause =>
    rw [run_bind_fault rounds source offset hf,
      run_bind_fault rounds source offset (run_bind_fault rounds source offset hf)]
  | accept a =>
    -- what the first two parts come to decides what both sides do about the last one; the inner
    -- sequence goes back to the start of the outer one, or to the middle and from there to it
    have hpair : (first >>= next).run rounds source offset =
        ((next a).run rounds source middle).rollback offset :=
      run_bind_accept rounds source offset hf
    rw [run_bind_accept rounds source offset hf]
    rcases hn : (next a).run rounds source middle with ⟨verdict, reached⟩
    rw [hn] at hpair
    cases verdict with
    | reject =>
      rw [run_bind_reject rounds source middle hn, run_bind_reject rounds source offset hpair]
      rfl
    | fault cause =>
      rw [run_bind_fault rounds source middle hn, run_bind_fault rounds source offset hpair]
      rfl
    | accept b =>
      rw [run_bind_accept rounds source middle hn, run_bind_accept rounds source offset hpair,
        Reply.rollback_rollback]

/-- Parts in a row with one value made of theirs. Described sequences make a tuple. -/
def row (gather : List α → β) (parts : List (Parser α)) : Parser β :=
  (sequence parts).transform fun values => .accept (gather values)

theorem row_nil (gather : List α → β) : row gather [] = pure (gather []) := rfl

/-- The first of some parts in a row may be taken by itself. -/
theorem row_cons (gather : List α → β) (part : Parser α) (parts : List (Parser α)) :
    row gather (part :: parts) =
      part >>= fun value => row (fun values => gather (value :: values)) parts := by
  ext rounds source offset
  rw [row, run_transform_accept, run_sequence_cons]
  rcases hp : part.run rounds source offset with ⟨verdict, middle⟩
  cases verdict with
  | reject => rw [run_bind_reject rounds source offset hp]; rfl
  | fault cause => rw [run_bind_fault rounds source offset hp]; rfl
  | accept value =>
    rw [run_bind_accept rounds source offset hp, row, run_transform_accept]
    dsimp only
    rw [Reply.map_rollback, Reply.map_map]

/-- A last part of which only the value is treated is back where it started if it rejects. -/
theorem run_bind_pure (parser : Parser α) (value : α → β) (rounds : Nat) (source : Text)
    (offset : Int) :
    (parser >>= fun a => pure (value a)).run rounds source offset =
      ((parser.run rounds source offset).map value).rollback offset := by
  rcases h : parser.run rounds source offset with ⟨verdict, reached⟩
  cases verdict with
  | accept a => rw [run_bind_accept rounds source offset h]; rfl
  | reject => rw [run_bind_reject rounds source offset h]; rfl
  | fault cause => rw [run_bind_fault rounds source offset h]; rfl

/-- To go back where a run started adds nothing if the run cleans up by itself. -/
theorem Restores.rollback_run {parser : Parser α} (h : Restores parser) (rounds : Nat)
    (source : Text) (offset : Int) :
    (parser.run rounds source offset).rollback offset = parser.run rounds source offset := by
  rcases hrun : parser.run rounds source offset with ⟨verdict, reached⟩
  cases verdict with
  | accept a => rfl
  | reject => rw [h rounds source offset reached hrun]; rfl
  | fault cause => rfl

/-- A sequence behind a mere value cleans up by itself. -/
theorem pure_bind_bind (value : α) (first : α → Parser β) (next : α → β → Parser γ) :
    (pure value >>= fun a => first a >>= next a) = first value >>= next value := by
  ext rounds source offset
  rw [run_bind_accept rounds source offset (run_pure rounds source offset value)]
  exact (restores_bind _ _).rollback_run rounds source offset

/-- Three parts in a row, with their values. -/
def triple (first second third : Parser α) : Parser (α × α × α) :=
  first >>= fun a => second >>= fun b => third >>= fun c => pure (a, b, c)

/-- Whatever is made of the values of three parts in a row, the reply is theirs. -/
theorem run_three (first second third : Parser α) (value : α → α → α → β) (rounds : Nat)
    (source : Text) (offset : Int) :
    (first >>= fun a => second >>= fun b => third >>= fun c => pure (value a b c)).run rounds
        source offset =
      ((triple first second third).run rounds source offset).map fun t =>
        value t.1 t.2.1 t.2.2 := by
  have hrestores : Restores (triple first second third) := restores_bind _ _
  have hthree : (triple first second third >>= fun t => pure (value t.1 t.2.1 t.2.2)) =
      first >>= fun a => second >>= fun b => third >>= fun c => pure (value a b c) := by
    simp only [triple, bind_bind]
    rfl
  rw [← hthree, run_bind_pure, ← Reply.map_rollback, hrestores.rollback_run]

/-- An inner sequence at the beginning of a sequence of three parts. -/
theorem row_row_left (gather : List α → α) (first second third : Parser α) :
    row gather [row gather [first, second], third] =
      first >>= fun a => second >>= fun b => third >>= fun c =>
        pure (gather [gather [a, b], c]) := by
  simp only [row_cons, row_nil, bind_bind, pure_bind_bind]

/-- An inner sequence at the end of a sequence of three parts. -/
theorem row_row_right (gather : List α → α) (first second third : Parser α) :
    row gather [first, row gather [second, third]] =
      first >>= fun a => second >>= fun b => third >>= fun c =>
        pure (gather [a, gather [b, c]]) := by
  simp only [row_cons, row_nil, bind_bind]
  rfl

/-! ## Choices -/

/-- Alternatives that stand in an inner choice are alternatives of the outer one. -/
theorem oneOf_append_oneOf (before inner after : List (Parser α)) :
    oneOf (before ++ oneOf inner :: after) = oneOf (before ++ (inner ++ after)) := by
  ext rounds source offset
  induction before with
  | cons alternative before ih =>
    rw [List.cons_append, List.cons_append]
    simp only [Parser.oneOf, ih]
  | nil =>
    rw [List.nil_append, List.nil_append]
    induction inner with
    | nil => rfl
    | cons alternative inner ih =>
      rw [List.cons_append]
      rcases h : alternative.run rounds source offset with ⟨verdict, reached⟩
      cases verdict with
      | accept value => simp only [Parser.oneOf, h]
      | fault cause => simp only [Parser.oneOf, h]
      | reject =>
        simp only [Parser.oneOf, h] at ih ⊢
        exact ih

/-- What is made of the value of a choice may be made of the value of each alternative. -/
theorem oneOf_bind_pure (alternatives : List (Parser α)) (value : α → β) :
    (oneOf alternatives >>= fun a => pure (value a)) =
      oneOf (alternatives.map fun alternative => alternative >>= fun a => pure (value a)) := by
  ext rounds source offset
  rw [run_bind_pure]
  induction alternatives with
  | nil => rfl
  | cons alternative others ih =>
    rw [List.map_cons]
    simp only [Parser.oneOf, run_bind_pure]
    rcases alternative.run rounds source offset with ⟨verdict, reached⟩
    cases verdict with
    | accept a => rfl
    | fault cause => rfl
    | reject => exact ih

/-- A first part in front of a choice may be read in front of each alternative instead. -/
theorem bind_oneOf {ι : Type} (first : Parser α) (alternative : ι → α → Parser β)
    {indices : List ι} (hne : indices ≠ []) :
    (first >>= fun a => oneOf (indices.map fun i => alternative i a)) =
      oneOf (indices.map fun i => first >>= alternative i) := by
  ext rounds source offset
  rcases hf : first.run rounds source offset with ⟨verdict, middle⟩
  cases verdict with
  | reject =>
    rw [run_bind_reject rounds source offset hf]
    symm
    apply run_oneOf_of_reject
    intro other hother
    obtain ⟨i, -, rfl⟩ := List.mem_map.mp hother
    exact ⟨offset, run_bind_reject rounds source offset hf⟩
  | fault cause =>
    obtain ⟨i, others, rfl⟩ := List.exists_cons_of_ne_nil hne
    rw [run_bind_fault rounds source offset hf, List.map_cons]
    simp only [Parser.oneOf, run_bind_fault rounds source offset hf]
  | accept a =>
    rw [run_bind_accept rounds source offset hf]
    -- behind the first part, which each alternative reads in the same way, the choices agree
    clear hne
    induction indices with
    | nil => rfl
    | cons i others ih =>
      rw [List.map_cons, List.map_cons]
      simp only [Parser.oneOf, run_bind_accept rounds source offset hf]
      rcases (alternative i a).run rounds source middle with ⟨verdict, reached⟩
      cases verdict with
      | accept b => rfl
      | fault cause => rfl
      | reject => exact ih

/-- **Left-factoring.** Parts in a row with a choice as the last of them are a choice among rows
with the same beginning. -/
theorem row_append_oneOf (gather : List α → β) (beginning : List (Parser α))
    {alternatives : List (Parser α)} (hne : alternatives ≠ []) :
    row gather (beginning ++ [oneOf alternatives]) =
      oneOf (alternatives.map fun alternative => row gather (beginning ++ [alternative])) := by
  -- the values read so far go into `gather`, so that the rest of the row is a row again
  induction beginning generalizing gather with
  | nil =>
    simp only [List.nil_append, row_cons, row_nil]
    exact oneOf_bind_pure alternatives fun value => gather [value]
  | cons part beginning ih =>
    simp only [List.cons_append, row_cons, ih]
    exact bind_oneOf part _ hne

/-- **Regrouping is safe.** Three parts in a row have one reply, which shows in the plain sequence
and in both nested ones with brackets of their own. Three alternatives reply alike in one choice
and in both nested ones. And a first part in front of a choice of two replies as the choice between
two sequences that both begin with it. All this holds of whatever parts, from every offset. -/
theorem run_regrouped (gather : List α → α) (p q r : Parser α) (rounds : Nat) (source : Text)
    (offset : Int) :
    (∃ reply : Reply (α × α × α),
      (row gather [p, q, r]).run rounds source offset =
        reply.map (fun t => gather [t.1, t.2.1, t.2.2]) ∧
      (row gather [row gather [p, q], r]).run rounds source offset =
        reply.map (fun t => gather [gather [t.1, t.2.1], t.2.2]) ∧
      (row gather [p, row gather [q, r]]).run rounds source offset =
        reply.map (fun t => gather [t.1, gather [t.2.1, t.2.2]])) ∧
    (oneOf [oneOf [p, q], r]).run rounds source offset =
      (oneOf [p, q, r]).run rounds source offset ∧
    (oneOf [p, oneOf [q, r]]).run rounds source offset =
      (oneOf [p, q, r]).run rounds source offset ∧
    (row gather [p, oneOf [q, r]]).run rounds source offset =
      (oneOf [row gather [p, q], row gather [p, r]]).run rounds source offset := by
  refine ⟨⟨(triple p q r).run rounds source offset, ?_, ?_, ?_⟩, ?_, ?_, ?_⟩
  · simp only [row_cons, row_nil]
    exact run_three p q r (fun a b c => gather [a, b, c]) rounds source offset
  · rw [row_row_left]
    exact run_three p q r (fun a b c => gather [gather [a, b], c]) rounds source offset
  · rw [row_row_right]
    exact run_three p q r (fun a b c => gather [a, gather [b, c]]) rounds source offset
  · exact congrArg (fun parser => parser.run rounds source offset)
      (oneOf_append_oneOf [] [p, q] [r])
  · exact congrArg (fun parser => parser.run rounds source offset)
      (oneOf_append_oneOf [p] [q, r] [])
  · exact congrArg (fun parser => parser.run rounds source offset)
      (row_append_oneOf gather [p] (List.cons_ne_nil q [r]))

/-- Described sequences are rows whose values make a tuple. -/
example (p q r : Description) :
    (Description.sequence [.sequence [p, q], r]).parser =
      row .tuple [row .tuple [p.parser, q.parser], r.parser] := rfl

end Parser

end Famix
