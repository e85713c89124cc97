/-
The parts of a description, and induction over them.

A description is a tree, and what is asked of its leaves and mappings is asked of all its
parts. `parts` lists them, the description itself first, so that such a condition can be
decided. `induct` is the induction over descriptions with the members of a list dealt with one
by one.

Without a leap among its parts a description stands for a parser that is combined from scanning
parsers (`built_of_leapFree`), so all that is known of such parsers is known of it.
-/
import Famix.Description.Basic
import Famix.Proofs.Totality

set_option autoImplicit false

namespace Famix

open Famix.Parser

/-- The parser of a rule is combined from scanning parsers, and its value is wrapped. -/
theorem Rule.built {faults : Fault → Prop} (rule : Rule) : Built faults rule.parser := by
  cases rule with
  | spaces => exact (Built.straight Grammar.straight_spaces).value _
  | separator => exact (Built.straight Grammar.straight_separator).value _
  | nameField => exact (Built.straight Grammar.straight_nameField).value _
  | signatureField => exact (Built.straight Grammar.straight_signatureField).value _
  | locField => exact (Built.straight Grammar.straight_locField).value _
  | refField tag => exact (Built.straight (Grammar.straight_refField tag)).value _
  | entityId tag => exact (Built.straight (Grammar.straight_entityId tag)).value _
  | entityTag tag => exact (Built.straight (straight_token _)).value _
  | namespaceRecord => exact (Grammar.built_recordParserOf .namespaces).value _
  | packageRecord => exact (Grammar.built_recordParserOf .packages).value _
  | classRecord => exact (Grammar.built_recordParserOf .classes).value _
  | methodRecord => exact (Grammar.built_recordParserOf .methods).value _
  | attributeRecord => exact (Grammar.built_recordParserOf .attributes).value _
  | inheritanceRecord => exact (Grammar.built_recordParserOf .inheritances).value _
  | entity => exact Grammar.built_entity.value _
  | model => exact Grammar.built_model.value _

namespace Description

/-! ## Induction -/

/-- Induction over descriptions. A sequence and a choice have what all their members have. -/
@[elab_as_elim]
theorem induct {P : Description → Prop} (literal : ∀ text, P (literal text))
    (takeWhile : ∀ belongs, P (takeWhile belongs)) (through : ∀ delimiter, P (through delimiter))
    (number : P number) (leap : ∀ shift accepts, P (leap shift accepts))
    (rule : ∀ rule, P (.rule rule))
    (sequence : ∀ members, (∀ member ∈ members, P member) → P (sequence members))
    (optional : ∀ part, P part → P (optional part))
    (oneOf : ∀ members, (∀ member ∈ members, P member) → P (oneOf members))
    (many : ∀ element separator, P element → P separator → P (many element separator))
    (map : ∀ part treat, P part → P (map part treat)) (description : Description) :
    P description :=
  @Description.rec P (fun members => ∀ member ∈ members, P member) literal takeWhile through
    number leap rule sequence optional oneOf many map (by simp)
    (fun first others hfirst hothers member hmem => by
      rcases List.mem_cons.mp hmem with rfl | hmem
      · exact hfirst
      · exact hothers member hmem)
    description

/-! ## Parts -/

mutual

/-- All parts of a description, itself first. -/
def parts : Description → List Description
  | sequence members => sequence members :: allParts members
  | optional part => optional part :: parts part
  | oneOf members => oneOf members :: allParts members
  | many element separator => many element separator :: (parts element ++ parts separator)
  | map part treat => map part treat :: parts part
  | leaf => [leaf]

/-- All parts of several descriptions. -/
def allParts : List Description → List Description
  | [] => []
  | member :: members => parts member ++ allParts members

end

/-- A part of several descriptions is a part of one of them. -/
theorem mem_allParts_iff {part : Description} {members : List Description} :
    part ∈ allParts members ↔ ∃ member ∈ members, part ∈ member.parts := by
  induction members with
  | nil => simp [allParts]
  | cons member members ih => simp [allParts, ih]

theorem parts_subset_allParts {member : Description} {members : List Description}
    (h : member ∈ members) : member.parts ⊆ allParts members :=
  fun _ hpart => mem_allParts_iff.mpr ⟨member, h, hpart⟩

theorem parts_subset_sequence {member : Description} {members : List Description}
    (h : member ∈ members) : member.parts ⊆ (sequence members).parts :=
  List.Subset.trans (parts_subset_allParts h) (List.subset_cons_self _ _)

theorem parts_subset_oneOf {member : Description} {members : List Description}
    (h : member ∈ members) : member.parts ⊆ (oneOf members).parts :=
  List.Subset.trans (parts_subset_allParts h) (List.subset_cons_self _ _)

theorem element_parts_subset (element separator : Description) :
    element.parts ⊆ (many element separator).parts :=
  List.Subset.trans (List.subset_append_left _ _) (List.subset_cons_self _ _)

theorem separator_parts_subset (element separator : Description) :
    separator.parts ⊆ (many element separator).parts :=
  List.Subset.trans (List.subset_append_right _ _) (List.subset_cons_self _ _)

/-- The parts of a part are parts of the whole. -/
theorem parts_subset {part description : Description} (h : part ∈ description.parts) :
    part.parts ⊆ description.parts := by
  -- a part is the description itself or lies inside, where the parts are those of a member
  induction description using induct with
  | literal | takeWhile | through | number | leap | rule =>
    rw [List.mem_singleton.mp h]
    exact List.Subset.refl _
  | sequence members ih | oneOf members ih =>
    rcases List.mem_cons.mp h with rfl | h
    · exact List.Subset.refl _
    · obtain ⟨member, hmem, hpart⟩ := mem_allParts_iff.mp h
      exact List.Subset.trans (ih member hmem hpart)
        (List.Subset.trans (parts_subset_allParts hmem) (List.subset_cons_self _ _))
  | optional inner ih | map inner treat ih =>
    rcases List.mem_cons.mp h with rfl | h
    · exact List.Subset.refl _
    · exact List.Subset.trans (ih h) (List.subset_cons_self _ _)
  | many element separator ihelement ihseparator =>
    rcases List.mem_cons.mp h with rfl | h
    · exact List.Subset.refl _
    · rcases List.mem_append.mp h with h | h
      · exact List.Subset.trans (ihelement h) (element_parts_subset element separator)
      · exact List.Subset.trans (ihseparator h) (separator_parts_subset element separator)

theorem parsers_eq_map (members : List Description) : parsers members = members.map parser := by
  induction members with
  | nil => rfl
  | cons member members ih => rw [parsers, ih, List.map_cons]

/-- The separator of a repetition without one never moves; beyond the end it rejects. -/
theorem run_noSeparator (rounds : Nat) (source : Text) (offset : Int) :
    noSeparator.parser.run rounds source offset =
      ⟨if offset ≤ source.length then .accept (.text []) else .reject, offset⟩ := by
  have hsome := Text.isSome_unread_iff source offset
  rw [noSeparator, parser]
  rcases hahead : Text.unread source offset with _ | ahead
  · rw [hahead] at hsome
    rw [if_neg fun h => Bool.false_ne_true (hsome.mpr h)]
    simp only [transform, Parser.literal, hahead]
  · rw [hahead] at hsome
    simp only [transform, Parser.literal, hahead, List.isPrefixOf_nil_left, if_true,
      if_pos (hsome.mp rfl), List.length_nil, Int.natCast_zero, Int.add_zero]

/-! ## Conditions on all parts -/

/-- Whether a description is a leap. -/
def isLeap : Description → Bool
  | leap _ _ => true
  | _ => false

/-- No part of the description is a leap. -/
def LeapFree (description : Description) : Prop :=
  ∀ part ∈ description.parts, part.isLeap = false

instance (description : Description) : Decidable description.LeapFree :=
  inferInstanceAs (Decidable (∀ part ∈ description.parts, part.isLeap = false))

/-- Some mapping of the description makes this fault of some value. -/
def MappingFault (description : Description) (cause : Fault) : Prop :=
  ∃ part treat value, map part treat ∈ description.parts ∧ treat value = .fault cause

/-- Without a leap among its parts, and with mappings that stop for admitted reasons only, a
description stands for a parser that is combined from scanning parsers. -/
theorem built_of_leapFree {faults : Fault → Prop} {description : Description}
    (hleap : description.LeapFree)
    (hfaults : ∀ cause, description.MappingFault cause → faults cause) :
    Built faults description.parser := by
  -- both conditions are about all parts, so they go down to every description inside
  have hdown : ∀ {inner outer : Description}, inner.parts ⊆ outer.parts → outer.LeapFree →
      (∀ cause, outer.MappingFault cause → faults cause) →
      inner.LeapFree ∧ ∀ cause, inner.MappingFault cause → faults cause := by
    intro inner outer hsub hleap hfaults
    refine ⟨fun part hpart => hleap part (hsub hpart), ?_⟩
    rintro cause ⟨part, treat, value, hpart, hvalue⟩
    exact hfaults cause ⟨part, treat, value, hsub hpart, hvalue⟩
  induction description using induct with
  | literal text => exact (Built.straight (.literal text)).value _
  | takeWhile belongs => exact (Built.straight (.takeWhile belongs)).value _
  | through delimiter => exact (Built.straight (.through delimiter)).value _
  | number => exact (Built.straight .number).value _
  | leap shift accepts => exact absurd (hleap _ List.mem_cons_self) (by simp [isLeap])
  | rule rule => exact rule.built
  | sequence members ih =>
    rw [parser, parsers_eq_map]
    refine (built_sequence fun part hpart => ?_).value _
    obtain ⟨member, hmem, rfl⟩ := List.mem_map.mp hpart
    have ⟨hinner, hcauses⟩ := hdown (parts_subset_sequence hmem) hleap hfaults
    exact ih member hmem hinner hcauses
  | optional part ih =>
    have ⟨hinner, hcauses⟩ := hdown (List.subset_cons_self _ _) hleap hfaults
    exact (ih hinner hcauses).optional.value _
  | oneOf members ih =>
    rw [parser, parsers_eq_map]
    refine Built.oneOf fun alternative halternative => ?_
    obtain ⟨member, hmem, rfl⟩ := List.mem_map.mp halternative
    have ⟨hinner, hcauses⟩ := hdown (parts_subset_oneOf hmem) hleap hfaults
    exact ih member hmem hinner hcauses
  | many element separator ihelement ihseparator =>
    have ⟨hinner, hcauses⟩ := hdown (element_parts_subset element separator) hleap hfaults
    have ⟨hinner', hcauses'⟩ := hdown (separator_parts_subset element separator) hleap hfaults
    exact ((ihelement hinner hcauses).many (ihseparator hinner' hcauses')).value _
  | map part treat ih =>
    have ⟨hinner, hcauses⟩ := hdown (List.subset_cons_self _ _) hleap hfaults
    exact (ih hinner hcauses).transform fun value cause hvalue =>
      hfaults cause ⟨part, treat, value, List.mem_cons_self, hvalue⟩

end Description

end Famix
