/-
The order in which the kinds of record are tried does not matter.

In a choice the order matters as soon as two alternatives go on at one place, since the earlier
one is then taken. If all but one of them reject, then the choice does what that one does,
wherever it stands in the list (`run_oneOf_of_only`).

The kinds of record are of this sort. Their openings differ, so at most one of them lies ahead
at a place (`exists_opener`), and without its opening the parser of a kind rejects before it has
moved or met a fault.
-/
import Famix.Proofs.Records
import Famix.Proofs.Rollback
import Famix.Grammar.Model

set_option autoImplicit false

namespace Famix

namespace Parser

variable {α : Type}

/-- Where all alternatives but one reject, a choice does what that one does, even if it rejects
as well: both are then back where they started. -/
theorem run_oneOf_of_only {alternatives : List (Parser α)} {only : Parser α} {rounds : Nat}
    {source : Text} {offset : Int} (hmem : only ∈ alternatives) (honly : Restores only)
    (hothers : ∀ other ∈ alternatives, other ≠ only →
      ∃ reached, other.run rounds source offset = ⟨.reject, reached⟩) :
    (oneOf alternatives).run rounds source offset = only.run rounds source offset := by
  by_cases hreject : ∃ reached, only.run rounds source offset = ⟨.reject, reached⟩
  · have hnone : (oneOf alternatives).run rounds source offset = ⟨.reject, offset⟩ := by
      apply run_oneOf_of_reject
      intro other hother
      by_cases heq : other = only
      · rw [heq]
        exact hreject
      · exact hothers other hother heq
    obtain ⟨reached, hrun⟩ := hreject
    rw [hnone, hrun, honly rounds source offset reached hrun]
  · have hgoes : ∀ reached, only.run rounds source offset ≠ ⟨.reject, reached⟩ := by
      intro reached hrun
      exact hreject ⟨reached, hrun⟩
    have hrun : (oneOf (alternatives.map id)).run rounds source offset =
        (id only).run rounds source offset := run_oneOf_of_others hmem hgoes hothers
    rwa [List.map_id] at hrun

/-- What demands an opening and rejects only where it started does so wherever the opening does
not lie ahead. -/
theorem Demands.reject_of_restores {parser : Parser α} {opening : Text}
    (h : Demands parser opening) (hrestores : Restores parser) (rounds : Nat) {source : Text}
    {offset : Int}
    (hahead : ∀ ahead, Text.unread source offset = some ahead → ¬ opening <+: ahead) :
    parser.run rounds source offset = ⟨.reject, offset⟩ := by
  obtain ⟨reached, hrun⟩ := h rounds source offset hahead
  rw [hrun, hrestores rounds source offset reached hrun]

end Parser

namespace Grammar

open Famix.Parser

/-! ## One kind at a place -/

/-- At every place there is a kind such that the opening of no other kind lies ahead. -/
theorem exists_opener (source : Text) (offset : Int) :
    ∃ kind, ∀ other, other ≠ kind →
      ∀ ahead, Text.unread source offset = some ahead → ¬ opener other <+: ahead := by
  by_cases h : ∃ kind ahead, Text.unread source offset = some ahead ∧ opener kind <+: ahead
  · obtain ⟨kind, ahead, hahead, rest, rfl⟩ := h
    refine ⟨kind, fun other hne text htext => ?_⟩
    rw [hahead] at htext
    cases htext
    exact (opener_diverge hne).not_prefix_append rest
  · -- no opening at all lies ahead, so any kind will do
    refine ⟨.namespaces, fun other _ ahead hahead hopener => h ?_⟩
    exact ⟨other, ahead, hahead, hopener⟩

/-- The parser of a kind is a sequence, so it rejects nowhere but where it started. -/
theorem restores_recordParserOf (kind : Kind) : Restores (recordParserOf kind) := by
  cases kind <;> exact restores_bind _ _

theorem restores_entityTag (tag : Text) : Restores (entityTag tag) := restores_bind _ _

/-- At a place, the kind rejects at the tag with which its records begin, and nothing is read. -/
def Excluded (kind : Kind) (source : Text) (offset : Int) : Prop :=
  ∀ rounds, (entityTag kind.name).run rounds source offset = ⟨.reject, offset⟩ ∧
    (recordParserOf kind).run rounds source offset = ⟨.reject, offset⟩

/-- At every place all kinds but one are excluded. -/
theorem exists_kind_of_excluded (source : Text) (offset : Int) :
    ∃ kind, ∀ other, other ≠ kind → Excluded other source offset := by
  obtain ⟨kind, hkind⟩ := exists_opener source offset
  refine ⟨kind, fun other hne rounds => ⟨?_, ?_⟩⟩
  · have htag : Demands (entityTag other.name) (opener other) := demands_token List.prefix_rfl
    exact htag.reject_of_restores (restores_entityTag other.name) rounds (hkind other hne)
  · exact (demands_recordParserOf other).reject_of_restores (restores_recordParserOf other) rounds
      (hkind other hne)

/-- If all kinds but one are excluded, the choice is the parser of that kind, in whatever order
the kinds are tried. -/
theorem run_oneOf_of_excluded {parsers : List (Parser Entity)} (hperm : parsers.Perm recordParsers)
    {kind : Kind} {source : Text} {offset : Int}
    (hothers : ∀ other, other ≠ kind → Excluded other source offset) (rounds : Nat) :
    (oneOf parsers).run rounds source offset =
      (recordParserOf kind).run rounds source offset := by
  have hparsers : ∀ parser, parser ∈ parsers ↔ ∃ kind, recordParserOf kind = parser := by
    intro parser
    rw [hperm.mem_iff, mem_recordParsers_iff]
  apply run_oneOf_of_only ((hparsers _).mpr ⟨kind, rfl⟩) (restores_recordParserOf kind)
  intro parser hmem hne
  obtain ⟨other, rfl⟩ := (hparsers parser).mp hmem
  have hkind : other ≠ kind := by
    rintro rfl
    exact hne rfl
  exact ⟨offset, (hothers other hkind rounds).2⟩

/-! ## All orders -/

/-- A parenthesised list of records, for any parser of records. -/
def listOf (record : Parser Entity) : Parser (List Entity) := do
  token "(".toList
  let entities ← many record separator
  token ")".toList
  pure entities

theorem model_eq_listOf : model = listOf entity := rfl

/-- The kinds of record tried in any order are the same parser. -/
theorem oneOf_eq_entity {parsers : List (Parser Entity)} (h : parsers.Perm recordParsers) :
    oneOf parsers = entity := by
  ext rounds source offset
  obtain ⟨kind, hothers⟩ := exists_kind_of_excluded source offset
  rw [entity, run_oneOf_of_excluded h hothers,
    run_oneOf_of_excluded (List.Perm.refl recordParsers) hothers]

/-- **The order of the alternatives does not matter.** Whatever the order in which the kinds of
record are tried, each run of the choice is the same run, and so is each run of a list of them;
every text is read as the same model. For at every place all kinds but one are excluded, and the
choice is the parser of that one. -/
theorem run_eq_of_perm_recordParsers {parsers : List (Parser Entity)}
    (h : parsers.Perm recordParsers) :
    (∀ rounds source offset,
      (oneOf parsers).run rounds source offset = entity.run rounds source offset) ∧
    (∀ rounds source offset,
      (listOf (oneOf parsers)).run rounds source offset = model.run rounds source offset) ∧
    (∀ text, (listOf (oneOf parsers)).read text = readModel text) ∧
    ∀ source offset, ∃ kind,
      (∀ rounds, (oneOf parsers).run rounds source offset =
        (recordParserOf kind).run rounds source offset) ∧
      ∀ other, other ≠ kind → Excluded other source offset := by
  have hlist : listOf (oneOf parsers) = model := by
    rw [oneOf_eq_entity h, model_eq_listOf]
  refine ⟨?_, ?_, ?_, ?_⟩
  · intro rounds source offset
    rw [oneOf_eq_entity h]
  · intro rounds source offset
    rw [hlist]
  · intro text
    rw [hlist, readModel]
  · intro source offset
    obtain ⟨kind, hothers⟩ := exists_kind_of_excluded source offset
    exact ⟨kind, run_oneOf_of_excluded h hothers, hothers⟩

/-- An inheritance, whose parser comes first if the order is reversed. -/
theorem run_eq_of_perm_recordParsers_reverse :
    recordParsers.reverse.Perm recordParsers ∧
      (listOf (oneOf recordParsers.reverse)).read
          "((FAMIX.Inheritance\n(subclass (ref: 1))\n(superclass (ref: 2))))".toList =
        .ok ⟨[.inheritanceRecord 1 2], true, []⟩ := by
  have hperm := List.reverse_perm recordParsers
  obtain ⟨-, -, hread, -⟩ := run_eq_of_perm_recordParsers hperm
  refine ⟨hperm, ?_⟩
  rw [hread]
  rfl

end Grammar

end Famix
