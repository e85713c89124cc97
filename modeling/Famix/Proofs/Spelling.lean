/-
What values spell, and that it is the text that was read.

As long as nothing is mapped and no separator is dropped, the value of a description still holds
all characters that were read, in their order: `Value.spelling` puts them together again.
Alternatives that were tried, sequences that were given up and the element that a repetition
looked for in vain have read characters too, and gave them back. The spelling is the piece of the
source between the two ends of the run, so none of these are in it twice, and none are missing
(`spelling_eq_slice`).

The judgement `Spells` says so of a parser with any kind of values. It is put together along the
descriptions that are `Plain`. In a repetition the elements found so far spell the piece up to the
place that has been committed to.
-/
import Famix.Proofs.Foresight

set_option autoImplicit false

namespace Famix

variable {α β : Type}

/-! ## Spellings -/

mutual

/-- The texts in a value, from left to right. -/
def Value.spelling : Value → Text
  | text content => content
  | tuple items => spellings items
  | list items => spellings items
  | _ => []

/-- The texts in several values, from left to right. -/
def Value.spellings : List Value → Text
  | [] => []
  | value :: values => spelling value ++ spellings values

end

theorem Value.spellings_eq_flatMap (values : List Value) :
    spellings values = values.flatMap spelling := by
  induction values with
  | nil => rfl
  | cons value values ih => rw [spellings, ih, List.flatMap_cons]

namespace Text

/-! ## Pieces of a source -/

theorem slice_natCast (text : Text) (first last : Nat) :
    slice text first last = (text.take last).drop first := rfl

theorem slice_self (text : Text) (place : Nat) : slice text place place = [] :=
  List.drop_eq_nil_of_le (List.length_take_le place text)

/-- What lies ahead of a place begins with the piece between the place and the end of it. -/
theorem slice_of_prefix {text piece : Text} {place : Nat} (h : piece <+: text.drop place) :
    slice text place (place + piece.length : Nat) = piece := by
  rw [slice_natCast, List.drop_take, Nat.add_sub_cancel_left]
  exact (List.prefix_iff_eq_take.mp h).symm

/-- Two pieces, the second of which begins where the first one ends, are one. -/
theorem slice_append_slice (text : Text) {first middle last : Nat} (hfirst : first ≤ middle)
    (hlast : middle ≤ last) :
    slice text first middle ++ slice text middle last = slice text first last := by
  rw [slice_natCast, slice_natCast, slice_natCast, List.drop_take, List.drop_take, List.drop_take]
  have hsplit : last - first = (middle - first) + (last - middle) := by omega
  have hmiddle : text.drop middle = (text.drop first).drop (middle - first) := by
    rw [List.drop_drop, Nat.add_sub_cancel' hfirst]
  rw [hsplit, hmiddle, List.take_add]

end Text

namespace Parser

/-! ## Parsers that spell what they read -/

/-- What the parser accepts is a piece of the source, from the place where it started, and the
value spells that piece. -/
def Spells (parser : Parser α) (spelling : α → Text) : Prop :=
  ∀ (rounds : Nat) (source : Text) (place : Nat) (value : α) (reached : Int),
    parser.run rounds source place = ⟨.accept value, reached⟩ →
    ∃ stop : Nat, reached = stop ∧ place ≤ stop ∧ spelling value = Text.slice source place stop

theorem spells_literal (text : Text) : Spells (literal text) id := by
  intro rounds source place value reached hrun
  rcases hahead : Text.unread source place with _ | ahead
  · rw [run_literal_of_none rounds text hahead] at hrun
    cases hrun
  · rw [run_literal rounds text hahead] at hrun
    obtain ⟨-, hdrop⟩ := Text.unread_natCast_eq_some_iff.mp hahead
    by_cases hprefix : text.isPrefixOf ahead = true
    · rw [if_pos hprefix] at hrun
      cases hrun
      rw [← hdrop, List.isPrefixOf_iff_prefix] at hprefix
      exact ⟨_, rfl, Nat.le_add_right _ _, (Text.slice_of_prefix hprefix).symm⟩
    · rw [if_neg hprefix] at hrun
      cases hrun

theorem spells_takeWhile (belongs : Char → Bool) : Spells (takeWhile belongs) id := by
  intro rounds source place value reached hrun
  rw [run_takeWhile] at hrun
  cases hrun
  exact ⟨_, rfl, Nat.le_add_right _ _,
    (Text.slice_of_prefix (List.takeWhile_prefix belongs)).symm⟩

theorem spells_through (delimiter : Text) : Spells (through delimiter) id := by
  intro rounds source place value reached hrun
  rcases hahead : Text.unread source place with _ | ahead
  · rw [run_through_of_none rounds delimiter hahead] at hrun
    cases hrun
  · rw [run_through rounds delimiter hahead] at hrun
    obtain ⟨-, hdrop⟩ := Text.unread_natCast_eq_some_iff.mp hahead
    rcases hpiece : Text.upThrough delimiter ahead with _ | piece
    · rw [hpiece] at hrun
      cases hrun
    · rw [hpiece] at hrun
      cases hrun
      obtain ⟨⟨rest, hrest⟩, -⟩ := Text.upThrough_eq_some hpiece
      have hprefix : value <+: source.drop place := ⟨rest, by rw [hdrop, hrest]⟩
      exact ⟨_, rfl, Nat.le_add_right _ _, (Text.slice_of_prefix hprefix).symm⟩

/-- A value may be wrapped as long as the spelling stays the same. -/
theorem Spells.wrap {parser : Parser α} {inner : α → Text} (h : Spells parser inner)
    {value : α → β} {spelling : β → Text} (hsame : ∀ a, spelling (value a) = inner a) :
    Spells (parser.transform fun a => .accept (value a)) spelling := by
  intro rounds source place result reached hrun
  rcases run_transform_cases parser (fun a => .accept (value a)) rounds source place with
    ⟨a, middle, hp, ht⟩ | ⟨middle, -, ht⟩ | ⟨cause, middle, -, ht⟩
  · rw [ht] at hrun
    cases hrun
    rw [hsame]
    exact h rounds source place a reached hp
  · rw [ht] at hrun
    cases hrun
  · rw [ht] at hrun
    cases hrun

/-- An optional part that is missing spells nothing. -/
theorem Spells.optional {parser : Parser α} {spelling : α → Text} (h : Spells parser spelling) :
    Spells parser.optional fun value? => (value?.map spelling).getD [] := by
  intro rounds source place value? reached hrun
  rcases run_optional_cases parser rounds source place with
    ⟨value, middle, hp, ho⟩ | ⟨middle, -, ho⟩ | ⟨cause, middle, -, ho⟩
  · rw [ho] at hrun
    cases hrun
    exact h rounds source place value reached hp
  · rw [ho] at hrun
    cases hrun
    exact ⟨place, rfl, Nat.le_refl _, (Text.slice_self source place).symm⟩
  · rw [ho] at hrun
    cases hrun

theorem Spells.oneOf {alternatives : List (Parser α)} {spelling : α → Text}
    (h : ∀ alternative ∈ alternatives, Spells alternative spelling) :
    Spells (oneOf alternatives) spelling := by
  intro rounds source place value reached hrun
  induction alternatives with
  | nil => cases hrun
  | cons alternative others ih =>
    rcases run_oneOf_cases alternative others rounds source place with ⟨ho, -⟩ | ⟨middle, -, ho⟩
    · rw [ho] at hrun
      exact h alternative List.mem_cons_self rounds source place value reached hrun
    · rw [ho] at hrun
      exact ih (fun other hother => h other (List.mem_cons_of_mem _ hother)) hrun

/-- Parts in a row spell the piece of the first one and, from there on, that of the others. -/
theorem spells_sequence {parts : List (Parser α)} {spelling : α → Text}
    (h : ∀ part ∈ parts, Spells part spelling) :
    Spells (sequence parts) fun values => values.flatMap spelling := by
  induction parts with
  | nil =>
    intro rounds source place values reached hrun
    cases hrun
    exact ⟨place, rfl, Nat.le_refl _, (Text.slice_self source place).symm⟩
  | cons part parts ih =>
    intro rounds source place values reached hrun
    have hothers := ih fun other hother => h other (List.mem_cons_of_mem part hother)
    obtain ⟨value, middle, hpart, hrest⟩ := run_bind_eq_accept_iff.mp hrun
    obtain ⟨middle, rfl, hmiddle, hvalue⟩ :=
      h part List.mem_cons_self rounds source place value middle hpart
    obtain ⟨more, last, hmore, hpure⟩ := run_bind_eq_accept_iff.mp hrest
    obtain ⟨stop, rfl, hstop, hvalues⟩ := hothers rounds source middle more last hmore
    cases hpure
    refine ⟨stop, rfl, Nat.le_trans hmiddle hstop, ?_⟩
    dsimp only at hvalues ⊢
    rw [List.flatMap_cons, hvalue, hvalues, Text.slice_append_slice source hmiddle hstop]

/-- From any of its rounds on, a repetition whose separators do not move accepts values that spell
the piece from where it started. The values found so far spell the piece up to where it has
committed, and the next round starts there. -/
theorem manyFrom_spells {element : Parser α} {separator : Parser β} {spelling : α → Text}
    (helement : Spells element spelling) {rounds : Nat} {source : Text}
    (hstill : ∀ (place : Nat) (gap : β) (after : Int),
      separator.run rounds source place = ⟨.accept gap, after⟩ → after = place)
    {start : Nat} (left : Nat) {place : Nat} {found values : List α} {reached : Int}
    (hstart : start ≤ place)
    (hfound : found.reverse.flatMap spelling = Text.slice source start place)
    (hrun : manyFrom element separator rounds source left place place found =
      ⟨.accept values, reached⟩) :
    ∃ stop : Nat, reached = stop ∧ start ≤ stop ∧
      values.flatMap spelling = Text.slice source start stop := by
  -- the place committed to is the place of the next round, since separators do not move
  induction left generalizing place found with
  | zero => cases hrun
  | succ left ih =>
    rcases manyFrom_succ_cases element separator rounds source left place place found with
      ⟨middle, -, hm⟩ | ⟨cause, middle, -, hm⟩ | ⟨value, middle, he, hround⟩
    · rw [hm] at hrun
      cases hrun
      exact ⟨place, rfl, hstart, hfound⟩
    · rw [hm] at hrun
      cases hrun
    · obtain ⟨middle, rfl, hmiddle, hvalue⟩ := helement rounds source place value middle he
      have hnext : start ≤ middle := Nat.le_trans hstart hmiddle
      have hfound' : (value :: found).reverse.flatMap spelling =
          Text.slice source start middle := by
        rw [List.reverse_cons, List.flatMap_append, List.flatMap_singleton, hfound, hvalue,
          Text.slice_append_slice source hstart hmiddle]
      rcases hround with ⟨stop, -, hm⟩ | ⟨cause, stop, -, hm⟩ | ⟨gap, -, hm⟩ |
        ⟨gap, after, hs, -, hm⟩
      · rw [hm] at hrun
        cases hrun
        exact ⟨middle, rfl, hnext, hfound'⟩
      · rw [hm] at hrun
        cases hrun
      · rw [hm] at hrun
        cases hrun
        exact ⟨middle, rfl, hnext, hfound'⟩
      · rw [hm, hstill middle gap after hs] at hrun
        exact ih hnext hfound' hrun

end Parser

namespace Description

open Famix.Parser

/-! ## Plain descriptions -/

/-- The descriptions that are put together from fixed texts, runs of characters and delimiters
without mappings, numbers, rules, leaps and separators. -/
inductive Plain : Description → Prop
  | literal (text : Text) : Plain (literal text)
  | takeWhile (belongs : Char → Bool) : Plain (takeWhile belongs)
  | through (delimiter : Text) : Plain (through delimiter)
  | sequence {parts : List Description} (h : ∀ part ∈ parts, Plain part) : Plain (sequence parts)
  | optional {part : Description} (h : Plain part) : Plain (optional part)
  | oneOf {alternatives : List Description}
    (h : ∀ alternative ∈ alternatives, Plain alternative) : Plain (oneOf alternatives)
  | many {element : Description} (h : Plain element) : Plain (many element noSeparator)

theorem Plain.both {first second : Description} (hfirst : Plain first) (hsecond : Plain second) :
    Plain (both first second) := by
  refine .sequence fun part hpart => ?_
  rcases List.mem_pair.mp hpart with rfl | rfl
  · exact hfirst
  · exact hsecond

/-- The value of a plain description spells what has been read. -/
theorem Plain.spells {description : Description} (h : description.Plain) :
    Spells description.parser Value.spelling := by
  induction h with
  | literal text => exact (spells_literal text).wrap fun _ => rfl
  | takeWhile belongs => exact (spells_takeWhile belongs).wrap fun _ => rfl
  | through delimiter => exact (spells_through delimiter).wrap fun _ => rfl
  | @sequence parts _ ih =>
    rw [parser, parsers_eq_map]
    refine (spells_sequence fun part hpart => ?_).wrap Value.spellings_eq_flatMap
    obtain ⟨member, hmem, rfl⟩ := List.mem_map.mp hpart
    exact ih member hmem
  | optional _ ih =>
    refine ih.optional.wrap fun value? => ?_
    cases value? with
    | none => rfl
    | some value => rfl
  | @oneOf alternatives _ ih =>
    rw [parser, parsers_eq_map]
    refine Spells.oneOf fun alternative halternative => ?_
    obtain ⟨member, hmem, rfl⟩ := List.mem_map.mp halternative
    exact ih member hmem
  | @many element _ ih =>
    have hmany : Spells (Parser.many element.parser noSeparator.parser)
        fun values => values.flatMap Value.spelling := by
      intro rounds source place values reached hrun
      -- nothing is dropped with the separators, since they are empty
      have hstill : ∀ (middle : Nat) (gap : Value) (after : Int),
          noSeparator.parser.run rounds source middle = ⟨.accept gap, after⟩ →
          after = middle := by
        intro middle gap after hgap
        rw [run_noSeparator] at hgap
        exact (Reply.mk.inj hgap).2.symm
      have hnothing : ([] : List Value).reverse.flatMap Value.spelling =
          Text.slice source place place := (Text.slice_self source place).symm
      exact manyFrom_spells ih hstill rounds (Nat.le_refl place) hnothing hrun
    exact hmany.wrap Value.spellings_eq_flatMap

/-- **No character is lost or doubled.** Whatever a plain description tries and gives up on the
way, the texts in the value that it accepts are together the piece of the source from where it
started to where it leaves off. The start is counted from the beginning of the source. -/
theorem spelling_eq_slice {description : Description} (h : description.Plain) {rounds : Nat}
    {source : Text} {place : Nat} {value : Value} {reached : Int}
    (hrun : description.parser.run rounds source place = ⟨.accept value, reached⟩) :
    place ≤ reached ∧ value.spelling = Text.slice source place reached := by
  obtain ⟨stop, rfl, hstop, hvalue⟩ := h.spells rounds source place value reached hrun
  exact ⟨Int.ofNat_le.mpr hstop, hvalue⟩

/-- Behind a letter that may be missing, digits with a comma are repeated, or whatever else ends
in a semicolon. The last digits have neither and are given back. -/
theorem spelling_eq_slice_of_retries :
    ∃ (description : Description) (value : Value),
      description = both (optional (literal "a".toList)) (many (oneOf
        [sequence [takeWhile Char.isDigit, literal ",".toList], through ";".toList])
        noSeparator) ∧
      description.Plain ∧
      description.parser.run 9 "xa1,2b;3".toList 1 = ⟨.accept value, 7⟩ ∧
      value.spelling = "a1,2b;".toList := by
  obtain ⟨description, hdescription⟩ : ∃ description : Description,
    description = both (optional (literal "a".toList)) (many (oneOf
      [sequence [takeWhile Char.isDigit, literal ",".toList], through ";".toList])
      noSeparator) := ⟨_, rfl⟩
  have hplain : description.Plain := by
    rw [hdescription]
    have hdigits : Plain (sequence [takeWhile Char.isDigit, literal ",".toList]) :=
      .both (.takeWhile _) (.literal _)
    refine .both (.optional (.literal _)) (.many (.oneOf fun alternative hmem => ?_))
    rcases List.mem_pair.mp hmem with rfl | rfl
    · exact hdigits
    · exact .through _
  obtain ⟨value, hrun⟩ : ∃ value, description.parser.run 9 "xa1,2b;3".toList (1 : Nat) =
      ⟨.accept value, 7⟩ := by
    rw [hdescription]
    exact ⟨_, rfl⟩
  obtain ⟨-, hspelling⟩ := spelling_eq_slice hplain hrun
  exact ⟨description, value, hdescription, hplain, hrun, hspelling⟩

/-- From an offset that is counted from the end a text is accepted too, but the offset then runs up
to 0, and the piece from the one to the other is empty. -/
theorem spelling_ne_slice_of_neg :
    (literal "ab".toList).Plain ∧
      (literal "ab".toList).parser.run 1 "xab".toList (-2) = ⟨.accept (.text "ab".toList), 0⟩ ∧
      (Value.text "ab".toList).spelling ≠ Text.slice "xab".toList (-2) 0 :=
  ⟨.literal _, rfl, by decide⟩

end Description

end Famix
