/-
Every description without leaps stops, inside the source, with lists that are not too long.

What is combined from scanning parsers moves forward only, so a repetition that does not end
at once has used up characters (`Built.steady`). The allowance of rounds that the library
grants is beyond that, so it never shows: the reply is the one that any larger allowance gives.
-/
import Famix.Proofs.Parts

set_option autoImplicit false

namespace Famix.Description

open Famix.Parser

theorem LeapFree.built {description : Description} (h : description.LeapFree) :
    Built (fun _ => True) description.parser :=
  built_of_leapFree h fun _ _ => trivial

/-- The element and the separator of a repetition that a description makes use of: one of its
parts, or the list of records in the rule for models. -/
inductive Repeats (description : Description) : {α β : Type} → Parser α → Parser β → Prop
  | part {element separator : Description} (h : many element separator ∈ description.parts) :
    Repeats description element.parser separator.parser
  | records (h : .rule .model ∈ description.parts) :
    Repeats description Grammar.entity Grammar.separator

/-- What is repeated somewhere in a description without leaps moves forward. -/
theorem Repeats.forward {description : Description} {α β : Type} {element : Parser α}
    {separator : Parser β} (h : description.Repeats element separator)
    (hleap : description.LeapFree) : Forward element ∧ Forward separator := by
  cases h with
  | @part element separator hpart =>
    have hinner : ∀ inner : Description, inner.parts ⊆ (many element separator).parts →
        inner.LeapFree := fun inner hsub part hmem => hleap part (parts_subset hpart (hsub hmem))
    have helement := hinner element (element_parts_subset element separator)
    have hseparator := hinner separator (separator_parts_subset element separator)
    exact ⟨helement.built.forward, hseparator.built.forward⟩
  | records =>
    have hentity : Built (fun _ => True) Grammar.entity := Grammar.built_entity
    exact ⟨hentity.forward, Grammar.straight_separator.forward⟩

/-- The allowance that a reader is granted is one round for each place left and two more, at
least. -/
theorem le_granted (description : Description) (source : Text) (offset : Int) :
    placesLeft source offset + 2 ≤
      (allowance source offset + description.reach) * (description.size + 2) := by
  have hle : allowance source offset + description.reach ≤
      (allowance source offset + description.reach) * (description.size + 2) :=
    Nat.le_mul_of_pos_right _ (Nat.succ_pos _)
  have hallowance : placesLeft source offset + 2 ≤ allowance source offset + description.reach := by
    simp only [allowance, placesLeft]
    omega
  exact hallowance.trans hle

/-- The allowance that a reader is granted exceeds the places that are left. -/
theorem lt_granted (description : Description) (source : Text) (offset : Int) :
    placesLeft source offset <
      (allowance source offset + description.reach) * (description.size + 2) := by
  have hle := le_granted description source offset
  omega

/-- Without leaps, the reply is the reader's as soon as there are more rounds than places left. -/
theorem LeapFree.run_eq_replyAt {description : Description} (h : description.LeapFree)
    {rounds : Nat} {source : Text} {offset : Int} (hrounds : placesLeft source offset < rounds) :
    description.parser.run rounds source offset = description.reader.replyAt source offset :=
  h.built.steady source offset _ _ hrounds (lt_granted description source offset)

/-- **Termination.** From any place, a description without leaps has one reply for all
allowances of rounds that exceed the characters left, and its reader gives that reply. It
leaves off between the place and the end of the source, or at the place if that is beyond the
end; it stops with a fault of one of its mappings or at a numeral that is too long, and for no
other reason. And wherever a repetition in it starts, its list has at most one item for each
character left, and one more. -/
theorem exists_reply_of_leapFree {description : Description} (hleap : description.LeapFree)
    (source : Text) (place : Nat) :
    ∃ (verdict : Verdict Value) (reached : Nat),
      (∀ rounds, source.length - place < rounds →
        description.parser.run rounds source place = ⟨verdict, reached⟩) ∧
      description.reader.replyAt source place = ⟨verdict, reached⟩ ∧
      place ≤ reached ∧ reached ≤ max place source.length ∧
      (∀ cause, verdict = .fault cause →
        description.MappingFault cause ∨ IsLongNumeral source reached cause) ∧
      ∀ {α β : Type} {element : Parser α} {separator : Parser β},
        description.Repeats element separator →
        ∀ (rounds start : Nat) (items : List α) (stop : Int),
          (Parser.many element separator).run rounds source start = ⟨.accept items, stop⟩ →
          items.length ≤ source.length - start + 1 := by
  have hbuilt : Built description.MappingFault description.parser :=
    built_of_leapFree hleap fun _ h => h
  have hgranted := lt_granted description source place
  rw [placesLeft_natCast] at hgranted
  have hrun : ∀ rounds, source.length - place < rounds →
      description.parser.run rounds source place = description.reader.replyAt source place :=
    fun rounds hrounds => hleap.run_eq_replyAt (by rwa [placesLeft_natCast])
  have hlists : ∀ {α β : Type} {element : Parser α} {separator : Parser β},
      description.Repeats element separator →
      ∀ (rounds start : Nat) (items : List α) (stop : Int),
        (Parser.many element separator).run rounds source start = ⟨.accept items, stop⟩ →
        items.length ≤ source.length - start + 1 := by
    intro α β element separator hrepeats rounds start items stop h
    obtain ⟨helement, hseparator⟩ := hrepeats.forward hleap
    have hle := length_le_of_many helement hseparator h
    rwa [placesLeft_natCast] at hle
  have horderly : Orderly (fun source place cause =>
      description.MappingFault cause ∨ IsLongNumeral source place cause) description.parser :=
    hbuilt.orderly (fun _ _ _ h => .inr h) fun _ _ _ h => .inl h
  have hreply := horderly.reply
    ((allowance source place + description.reach) * (description.size + 2)) source place
  rw [hrun _ hgranted] at hreply
  generalize description.reader.replyAt source place = reply at hrun hreply ⊢
  cases hreply with
  | accept value reached hle hmax =>
    exact ⟨_, reached, hrun, rfl, hle, hmax, by simp, hlists⟩
  | reject reached hle hmax => exact ⟨_, reached, hrun, rfl, hle, hmax, by simp, hlists⟩
  | fault cause reached hle hmax hcause =>
    refine ⟨_, reached, hrun, rfl, hle, hmax, ?_, hlists⟩
    rintro _ ⟨rfl⟩
    rcases hcause with hallowed | ⟨-, hrounds⟩
    · exact hallowed
    · omega

/-- Commas in a repetition of repetitions, whose inner element and whose separator may both be
empty. -/
theorem exists_reply_of_leapFree_nested :
    ∃ description : Description,
      description = many (many (optional (literal ",".toList)) noSeparator) (optional number) ∧
      description.LeapFree ∧
      ∃ value, (∀ rounds, 4 < rounds →
          description.parser.run rounds "1,,2,".toList 1 = ⟨.accept value, 5⟩) ∧
        description.reader.replyAt "1,,2,".toList 1 = ⟨.accept value, 5⟩ ∧
        ∀ (rounds start : Nat) (items : List Value) (stop : Int),
          (Parser.many (optional (literal ",".toList)).parser noSeparator.parser).run rounds
            "1,,2,".toList start = ⟨.accept items, stop⟩ → items.length ≤ 5 - start + 1 := by
  obtain ⟨description, hdescription⟩ : ∃ description : Description,
    description = many (many (optional (literal ",".toList)) noSeparator) (optional number) :=
    ⟨_, rfl⟩
  have hleap : description.LeapFree := by
    rw [hdescription]
    decide
  obtain ⟨verdict, reached, hrun, hreader, -, -, -, hlists⟩ :=
    exists_reply_of_leapFree hleap "1,,2,".toList 1
  have hinner : description.Repeats (optional (literal ",".toList)).parser noSeparator.parser := by
    rw [hdescription]
    exact .part (by simp [parts])
  -- one allowance that is large enough shows the reply
  obtain ⟨value, hvalue⟩ : ∃ value, description.parser.run 5 "1,,2,".toList 1 =
      ⟨.accept value, 5⟩ := by
    rw [hdescription]
    exact ⟨_, rfl⟩
  have hsame := hvalue.symm.trans (hrun 5 (by decide))
  rw [← hsame] at hrun hreader
  exact ⟨description, hdescription, hleap, value, hrun, hreader, hlists hinner⟩

end Famix.Description
