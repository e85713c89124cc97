/-
The six kinds of record: what their parsers read, and which texts settle them.

A record is put together from fields, and so are the two lemmas about its parser. Two things
are settled here that no field decides. A choice between the kinds must not stop at an
earlier one, which it cannot because the openings of the kinds differ
(`opener_diverge`). And the spaces between a separator and a name, which both may claim,
go to the separator (`settles_beforeName`).
-/
import Famix.Proofs.Fields

set_option autoImplicit false

namespace Famix.Grammar

open Famix.Parser

/-! ## The six kinds -/

/-- The kinds in the order in which their parsers are tried. -/
def kinds : List Kind := [.namespaces, .packages, .classes, .methods, .attributes, .inheritances]

/-- The parser for the records of a kind. -/
def recordParserOf : Kind → Parser Entity
  | .namespaces => namespaceRecord
  | .packages => packageRecord
  | .classes => classRecord
  | .methods => methodRecord
  | .attributes => attributeRecord
  | .inheritances => inheritanceRecord

/-- The parsers that are tried are those of the kinds, in the order of the kinds. -/
theorem recordParsers_eq : recordParsers = kinds.map recordParserOf := rfl

/-- No kind is left out. -/
theorem mem_kinds (kind : Kind) : kind ∈ kinds := by
  cases kind <;> decide

/-- What is tried is the parser of some kind, and the parsers of all kinds are. -/
theorem mem_recordParsers_iff {alternative : Parser Entity} :
    alternative ∈ recordParsers ↔ ∃ kind, recordParserOf kind = alternative := by
  rw [recordParsers_eq, List.mem_map]
  exact exists_congr fun kind => and_iff_right (mem_kinds kind)

/-- What the text of every record of a kind begins with. -/
def opener (kind : Kind) : Text := "(FAMIX.".toList ++ kind.name

/-- Different kinds have openings that differ before either of them ends. -/
theorem opener_diverge {kind other : Kind} (h : kind ≠ other) :
    Text.Diverge (opener kind) (opener other) := by
  cases kind <;> cases other <;> first
    | exact absurd rfl h
    | decide

/-- The parser of a kind rejects wherever the opening of the kind does not lie ahead. -/
theorem demands_recordParserOf (kind : Kind) : Demands (recordParserOf kind) (opener kind) := by
  have hid : Demands (entityId kind.name) (opener kind) := by
    refine (demands_token ?_).bind _
    rw [List.append_assoc _ kind.name]
    exact (List.prefix_append_right_inj _).mpr (List.prefix_append _ _)
  have htag : Demands (entityTag kind.name) (opener kind) := demands_token List.prefix_rfl
  -- the first part of each parser is its id or its tag, and both demand the opening
  cases kind with
  | namespaces => exact (hid.bind _).bind _
  | packages => exact (hid.bind _).bind _
  | classes => exact (hid.bind _).bind _
  | methods => exact (htag.bind _).bind _
  | attributes => exact (htag.bind _).bind _
  | inheritances => exact (htag.bind _).bind _

/-- The parser of a kind refuses whatever does not begin with the opening of the kind. -/
theorem refuses_recordParserOf {kind : Kind} {next : Text}
    (h : Text.Diverge (opener kind) next) : Refuses (recordParserOf kind) next :=
  (demands_recordParserOf kind).refuses h

/-- The text of an id begins with the opening of its kind. -/
theorem IdText.opener {numeral : Text → Int → Prop} {tag t : Text} {n : Int}
    (h : IdText numeral tag n t) : "(FAMIX.".toList ++ tag <+: t := by
  obtain ⟨digits, junk, -, -, -⟩ := h
  rw [List.append_assoc _ " (id: ".toList]
  exact List.prefix_append _ _

/-- The text of a record begins with the opening of its kind. -/
theorem RecordText.opener {numeral : Text → Int → Prop} {entity : Entity} {t : Text}
    (h : RecordText numeral entity t) : Grammar.opener entity.kind <+: t := by
  cases h with
  | namespaceRecord hid hs₁ hname =>
    simp only [List.append_assoc]
    exact hid.opener.trans (List.prefix_append _ _)
  | packageRecord hid hs₁ hname =>
    simp only [List.append_assoc]
    exact hid.opener.trans (List.prefix_append _ _)
  | childPackageRecord hid hs₁ hname hs₂ hparent =>
    simp only [List.append_assoc]
    exact hid.opener.trans (List.prefix_append _ _)
  | classRecord hid hs₁ hname hs₂ hcontainer hs₃ hparent =>
    simp only [List.append_assoc]
    exact hid.opener.trans (List.prefix_append _ _)
  | methodRecord hs₁ hname hs₂ hsignature hs₃ hparent hs₄ hloc =>
    simp only [List.append_assoc]
    exact List.prefix_append _ _
  | attributeRecord hs₁ hname hs₂ hparent =>
    simp only [List.append_assoc]
    exact List.prefix_append _ _
  | inheritanceRecord hs₁ hsub hs₂ hsuper =>
    simp only [List.append_assoc]
    exact List.prefix_append _ _

/-- The text of a record begins with a parenthesis. -/
theorem RecordText.opens {numeral : Text → Int → Prop} {entity : Entity} {t : Text}
    (h : RecordText numeral entity t) : Opens t := by
  obtain ⟨rest, rfl⟩ := h.opener
  exact Opens.append (Opens.append ⟨_, rfl⟩ _) _

/-! ## Records: what is read -/

/-- What is read as a namespace is the text of that record. -/
theorem reads_namespaceRecord :
    Reads namespaceRecord fun entity piece _ => RecordText IsReadable entity piece := by
  refine ((reads_thenSeparator (reads_entityId _)).bind fun id => reads_nameField.bind fun name =>
    (reads_token _).bind fun _ => reads_pure (Entity.namespaceRecord name id)).mono ?_
  rintro _ _ rest ⟨id, _, _, rfl, ⟨a, s, rfl, hid, hs⟩, name, b, _, rfl, hname, _, _, _, rfl,
    rfl, rfl, rfl⟩
  have hrecord := RecordText.namespaceRecord hid hs hname
  simpa only [List.append_assoc, List.append_nil] using hrecord

/-- What is read as the line with a parent is a separator and a text of the reference. -/
theorem reads_parentPackageLine :
    Reads parentPackageLine fun parent piece _ =>
      ∃ s c, piece = s ++ c ∧ SeparatorText s ∧
        RefText IsReadable "parentPackage".toList parent c := by
  refine (reads_separator.bind fun _ => reads_refField _).mono ?_
  rintro parent _ rest ⟨_, s, c, rfl, hs, hparent⟩
  exact ⟨s, c, rfl, hs, hparent⟩

/-- What is read as a package is the text of that record, with or without the line that names a
parent. -/
theorem reads_packageRecord :
    Reads packageRecord fun entity piece _ => RecordText IsReadable entity piece := by
  refine ((reads_thenSeparator (reads_entityId _)).bind fun id => reads_nameField.bind fun name =>
    reads_parentPackageLine.optional.bind fun parent => (reads_token _).bind fun _ =>
      reads_pure (Entity.packageRecord name id parent)).mono ?_
  rintro _ _ rest ⟨id, _, _, rfl, ⟨a, s₁, rfl, hid, hs₁⟩, name, b, _, rfl, hname, parent, p, _,
    rfl, hp, _, _, _, rfl, rfl, rfl, rfl⟩
  cases parent with
  | none =>
    subst hp
    have hrecord := RecordText.packageRecord hid hs₁ hname
    simpa only [List.append_assoc, List.append_nil, List.nil_append] using hrecord
  | some parent =>
    obtain ⟨s₂, c, rfl, hs₂, hparent⟩ := hp
    have hrecord := RecordText.childPackageRecord hid hs₁ hname hs₂ hparent
    simpa only [List.append_assoc, List.append_nil] using hrecord

/-- What is read as a class is the text of that record. -/
theorem reads_classRecord :
    Reads classRecord fun entity piece _ => RecordText IsReadable entity piece := by
  refine ((reads_thenSeparator (reads_entityId _)).bind fun id =>
    (reads_thenSeparator reads_nameField).bind fun name =>
      (reads_thenSeparator (reads_refField _)).bind fun container =>
        (reads_thenClose (reads_refField _)).bind fun parent =>
          reads_pure (Entity.classRecord name id container parent)).mono ?_
  rintro _ _ rest ⟨id, _, _, rfl, ⟨a, s₁, rfl, hid, hs₁⟩, name, _, _, rfl,
    ⟨b, s₂, rfl, hname, hs₂⟩, container, _, _, rfl, ⟨c, s₃, rfl, hcontainer, hs₃⟩, parent, _, _,
    rfl, ⟨d, rfl, hparent⟩, rfl, rfl⟩
  have hrecord := RecordText.classRecord hid hs₁ hname hs₂ hcontainer hs₃ hparent
  simpa only [List.append_assoc, List.append_nil] using hrecord

/-- What is read as a method is the text of that record. It closes with the lines of code, which
bring the parenthesis of the record with them. -/
theorem reads_methodRecord :
    Reads methodRecord fun entity piece _ => RecordText IsReadable entity piece := by
  refine ((reads_thenSeparator (reads_entityTag _)).bind fun _ =>
    (reads_thenSeparator reads_nameField).bind fun name =>
      (reads_thenSeparator reads_signatureField).bind fun signature =>
        (reads_thenSeparator (reads_refField _)).bind fun parentType =>
          reads_locField.bind fun loc =>
            reads_pure (Entity.methodRecord name signature parentType loc)).mono ?_
  rintro _ _ rest ⟨_, _, _, rfl, ⟨_, s₁, rfl, rfl, hs₁⟩, name, _, _, rfl,
    ⟨b, s₂, rfl, hname, hs₂⟩, signature, _, _, rfl, ⟨c, s₃, rfl, hsignature, hs₃⟩, parentType, _,
    _, rfl, ⟨d, s₄, rfl, hparent, hs₄⟩, loc, e, _, rfl, hloc, rfl, rfl⟩
  have hrecord := RecordText.methodRecord hs₁ hname hs₂ hsignature hs₃ hparent hs₄ hloc
  simpa only [List.append_assoc, List.append_nil] using hrecord

/-- What is read as an attribute is the text of that record. -/
theorem reads_attributeRecord :
    Reads attributeRecord fun entity piece _ => RecordText IsReadable entity piece := by
  refine ((reads_thenSeparator (reads_entityTag _)).bind fun _ =>
    (reads_thenSeparator reads_nameField).bind fun name =>
      (reads_thenClose (reads_refField _)).bind fun parentType =>
        reads_pure (Entity.attributeRecord name parentType)).mono ?_
  rintro _ _ rest ⟨_, _, _, rfl, ⟨_, s₁, rfl, rfl, hs₁⟩, name, _, _, rfl,
    ⟨b, s₂, rfl, hname, hs₂⟩, parentType, _, _, rfl, ⟨c, rfl, hparent⟩, rfl, rfl⟩
  have hrecord := RecordText.attributeRecord hs₁ hname hs₂ hparent
  simpa only [List.append_assoc, List.append_nil] using hrecord

/-- What is read as an inheritance is the text of that record. -/
theorem reads_inheritanceRecord :
    Reads inheritanceRecord fun entity piece _ => RecordText IsReadable entity piece := by
  refine ((reads_thenSeparator (reads_entityTag _)).bind fun _ =>
    (reads_thenSeparator (reads_refField _)).bind fun subclass =>
      (reads_thenClose (reads_refField _)).bind fun superclass =>
        reads_pure (Entity.inheritanceRecord subclass superclass)).mono ?_
  rintro _ _ rest ⟨_, _, _, rfl, ⟨_, s₁, rfl, rfl, hs₁⟩, subclass, _, _, rfl,
    ⟨b, s₂, rfl, hsub, hs₂⟩, superclass, _, _, rfl, ⟨c, rfl, hsuper⟩, rfl, rfl⟩
  have hrecord := RecordText.inheritanceRecord hs₁ hsub hs₂ hsuper
  simpa only [List.append_assoc, List.append_nil] using hrecord

/-- Whatever the parser of a kind accepts is the text of a record. -/
theorem reads_recordParserOf (kind : Kind) :
    Reads (recordParserOf kind) fun entity piece _ => RecordText IsReadable entity piece := by
  cases kind with
  | namespaces => exact reads_namespaceRecord
  | packages => exact reads_packageRecord
  | classes => exact reads_classRecord
  | methods => exact reads_methodRecord
  | attributes => exact reads_attributeRecord
  | inheritances => exact reads_inheritanceRecord

/-- Whatever is read as a record is the text of it. The kind is not said, as the record has it. -/
theorem reads_entity : Reads entity fun entity piece _ => RecordText IsReadable entity piece := by
  refine Reads.oneOf fun alternative hmem => ?_
  obtain ⟨kind, rfl⟩ := mem_recordParsers_iff.mp hmem
  exact reads_recordParserOf kind

/-! ## Records: what is settled -/

section

variable {name signature s₁ b s₂ c s₃ d s₄ e : Text}

/-- A record whose name stands behind an opening and a separator. The spaces in front of the
name are read with the separator, so what follows is settled for a name without any. -/
theorem settles_beforeName {α : Type} {opening : Parser α} {value : α}
    {more : α → Parser Entity} {record : Entity} {a rest next : Text}
    (hopening : ∀ behind, Settles opening value a behind) (hs₁ : SeparatorText s₁)
    (hname : NameText name b)
    (hmore : ∀ b', NameText name b' → Settles (more value) record (b' ++ rest) next) :
    Settles (thenSeparator opening >>= more) record (a ++ s₁ ++ b ++ rest) next := by
  obtain ⟨s, b', hs, hname', hopens, hsb⟩ := hname.tighten hs₁
  have hpiece : a ++ s₁ ++ b ++ rest = (a ++ s) ++ (b' ++ rest) := by
    rw [List.append_assoc a, hsb]
    simp only [List.append_assoc]
  rw [hpiece]
  exact (settles_thenSeparator hopening hs ((hopens.append _).append _)).bind (hmore b' hname')

/-- A text of a namespace is read in front of anything. -/
theorem settles_namespaceRecord {id : Int} {a : Text}
    (hid : IdText IsReadable "Namespace".toList id a) (hs₁ : SeparatorText s₁)
    (hname : NameText name b) (next : Text) :
    Settles namespaceRecord (.namespaceRecord name id) (a ++ s₁ ++ b ++ ")".toList) next := by
  refine settles_beforeName (settles_entityId hid) hs₁ hname fun b' hname' => ?_
  refine (settles_nameField hname' _).bind ?_
  exact (settles_token _ next).value fun _ => Entity.namespaceRecord name id

/-- A line with a parent is settled in front of anything. -/
theorem settles_parentPackageLine {parent : Int} (hs₂ : SeparatorText s₂)
    (hparent : RefText IsReadable "parentPackage".toList parent c) (next : Text) :
    Settles parentPackageLine parent (s₂ ++ c) next :=
  (settles_separator hs₂ (hparent.opens.append next)).bind (settles_refField hparent next)

/-- The parenthesis that closes a package is no line with a parent. -/
theorem refuses_parentPackageLine : Refuses parentPackageLine ")".toList :=
  (refuses_separator (by decide)).bind _

/-- A text of a package without a parent is read in front of anything: its closing parenthesis is
refused by the line with a parent. -/
theorem settles_packageRecord {id : Int} {a : Text}
    (hid : IdText IsReadable "Package".toList id a) (hs₁ : SeparatorText s₁)
    (hname : NameText name b) (next : Text) :
    Settles packageRecord (.packageRecord name id none) (a ++ s₁ ++ b ++ ")".toList) next := by
  refine settles_beforeName (settles_entityId hid) hs₁ hname fun b' hname' => ?_
  refine (settles_nameField hname' _).bind ?_
  -- the optional line takes nothing here
  rw [← List.nil_append ")".toList]
  refine (refuses_parentPackageLine.append next).optional.bind ?_
  exact (settles_token _ next).value fun _ => Entity.packageRecord name id none

/-- A text of a package with a parent is read in front of anything. -/
theorem settles_childPackageRecord {id parent : Int} {a : Text}
    (hid : IdText IsReadable "Package".toList id a) (hs₁ : SeparatorText s₁)
    (hname : NameText name b) (hs₂ : SeparatorText s₂)
    (hparent : RefText IsReadable "parentPackage".toList parent c) (next : Text) :
    Settles packageRecord (.packageRecord name id (some parent))
      (a ++ s₁ ++ b ++ s₂ ++ c ++ ")".toList) next := by
  have hpiece : a ++ s₁ ++ b ++ s₂ ++ c ++ ")".toList =
      a ++ s₁ ++ b ++ ((s₂ ++ c) ++ ")".toList) := by
    simp only [List.append_assoc]
  rw [hpiece]
  refine settles_beforeName (settles_entityId hid) hs₁ hname fun b' hname' => ?_
  refine (settles_nameField hname' _).bind ?_
  refine (settles_parentPackageLine hs₂ hparent _).optional.bind ?_
  exact (settles_token _ next).value fun _ => Entity.packageRecord name id (some parent)

/-- A text of a class is read in front of anything. -/
theorem settles_classRecord {id container parent : Int} {a : Text}
    (hid : IdText IsReadable "Class".toList id a) (hs₁ : SeparatorText s₁)
    (hname : NameText name b) (hs₂ : SeparatorText s₂)
    (hcontainer : RefText IsReadable "container".toList container c) (hs₃ : SeparatorText s₃)
    (hparent : RefText IsReadable "parentPackage".toList parent d) (next : Text) :
    Settles classRecord (.classRecord name id container parent)
      (a ++ s₁ ++ b ++ s₂ ++ c ++ s₃ ++ d ++ ")".toList) next := by
  have hpiece : a ++ s₁ ++ b ++ s₂ ++ c ++ s₃ ++ d ++ ")".toList =
      a ++ s₁ ++ b ++ (s₂ ++ ((c ++ s₃) ++ (d ++ ")".toList))) := by
    simp only [List.append_assoc]
  rw [hpiece]
  refine settles_beforeName (settles_entityId hid) hs₁ hname fun b' hname' => ?_
  -- the pieces are grouped as the parser takes them: every field with its separator
  rw [← List.append_assoc b']
  refine (settles_thenSeparator (settles_nameField hname') hs₂ ?_).bind ?_
  · exact ((hcontainer.opens.append _).append _).append _
  · refine (settles_thenSeparator (settles_refField hcontainer) hs₃ ?_).bind ?_
    · exact (hparent.opens.append _).append _
    · exact (settles_thenClose (settles_refField hparent) next).value
        (Entity.classRecord name id container)

/-- A text of a method is read in front of anything. -/
theorem settles_methodRecord {parentType loc : Int} (hs₁ : SeparatorText s₁)
    (hname : NameText name b) (hs₂ : SeparatorText s₂) (hsignature : SignatureText signature c)
    (hs₃ : SeparatorText s₃) (hparent : RefText IsReadable "parentType".toList parentType d)
    (hs₄ : SeparatorText s₄) (hloc : LocText IsReadable loc e) (next : Text) :
    Settles methodRecord (.methodRecord name signature parentType loc)
      (tagText "Method".toList ++ s₁ ++ b ++ s₂ ++ c ++ s₃ ++ d ++ s₄ ++ e) next := by
  have hpiece : tagText "Method".toList ++ s₁ ++ b ++ s₂ ++ c ++ s₃ ++ d ++ s₄ ++ e =
      tagText "Method".toList ++ s₁ ++ b ++ (s₂ ++ ((c ++ s₃) ++ ((d ++ s₄) ++ e))) := by
    simp only [List.append_assoc]
  rw [hpiece]
  refine settles_beforeName (settles_token _) hs₁ hname fun b' hname' => ?_
  rw [← List.append_assoc b']
  refine (settles_thenSeparator (settles_nameField hname') hs₂ ?_).bind ?_
  · exact ((hsignature.opens.append _).append _).append _
  · refine (settles_thenSeparator (settles_signatureField hsignature) hs₃ ?_).bind ?_
    · exact ((hparent.opens.append _).append _).append _
    · refine (settles_thenSeparator (settles_refField hparent) hs₄ ?_).bind ?_
      · exact hloc.opens.append _
      · exact (settles_locField hloc next).value (Entity.methodRecord name signature parentType)

/-- A text of an attribute is read in front of anything. -/
theorem settles_attributeRecord {parentType : Int} (hs₁ : SeparatorText s₁)
    (hname : NameText name b) (hs₂ : SeparatorText s₂)
    (hparent : RefText IsReadable "parentType".toList parentType c) (next : Text) :
    Settles attributeRecord (.attributeRecord name parentType)
      (tagText "Attribute".toList ++ s₁ ++ b ++ s₂ ++ c ++ ")".toList) next := by
  have hpiece : tagText "Attribute".toList ++ s₁ ++ b ++ s₂ ++ c ++ ")".toList =
      tagText "Attribute".toList ++ s₁ ++ b ++ (s₂ ++ (c ++ ")".toList)) := by
    simp only [List.append_assoc]
  rw [hpiece]
  refine settles_beforeName (settles_token _) hs₁ hname fun b' hname' => ?_
  rw [← List.append_assoc b']
  refine (settles_thenSeparator (settles_nameField hname') hs₂ ?_).bind ?_
  · exact (hparent.opens.append _).append _
  · exact (settles_thenClose (settles_refField hparent) next).value (Entity.attributeRecord name)

/-- A text of an inheritance is read in front of anything. No name stands behind the tag, so the
separator needs no tightening. -/
theorem settles_inheritanceRecord {subclass superclass : Int} (hs₁ : SeparatorText s₁)
    (hsub : RefText IsReadable "subclass".toList subclass b) (hs₂ : SeparatorText s₂)
    (hsuper : RefText IsReadable "superclass".toList superclass c) (next : Text) :
    Settles inheritanceRecord (.inheritanceRecord subclass superclass)
      (tagText "Inheritance".toList ++ s₁ ++ b ++ s₂ ++ c ++ ")".toList) next := by
  have hpiece : tagText "Inheritance".toList ++ s₁ ++ b ++ s₂ ++ c ++ ")".toList =
      (tagText "Inheritance".toList ++ s₁) ++ ((b ++ s₂) ++ (c ++ ")".toList)) := by
    simp only [List.append_assoc]
  rw [hpiece]
  refine (settles_thenSeparator (settles_token _) hs₁ ?_).bind ?_
  · exact ((hsub.opens.append _).append _).append _
  · refine (settles_thenSeparator (settles_refField hsub) hs₂ ?_).bind ?_
    · exact (hsuper.opens.append _).append _
    · exact (settles_thenClose (settles_refField hsuper) next).value
        (Entity.inheritanceRecord subclass)

end

/-- The text of a record settles the parser of its kind. -/
theorem settles_recordParserOf {entity : Entity} {t : Text} (h : RecordText IsReadable entity t)
    (next : Text) : Settles (recordParserOf entity.kind) entity t next := by
  cases h with
  | namespaceRecord hid hs₁ hname => exact settles_namespaceRecord hid hs₁ hname next
  | packageRecord hid hs₁ hname => exact settles_packageRecord hid hs₁ hname next
  | childPackageRecord hid hs₁ hname hs₂ hparent =>
    exact settles_childPackageRecord hid hs₁ hname hs₂ hparent next
  | classRecord hid hs₁ hname hs₂ hcontainer hs₃ hparent =>
    exact settles_classRecord hid hs₁ hname hs₂ hcontainer hs₃ hparent next
  | methodRecord hs₁ hname hs₂ hsignature hs₃ hparent hs₄ hloc =>
    exact settles_methodRecord hs₁ hname hs₂ hsignature hs₃ hparent hs₄ hloc next
  | attributeRecord hs₁ hname hs₂ hparent =>
    exact settles_attributeRecord hs₁ hname hs₂ hparent next
  | inheritanceRecord hs₁ hsub hs₂ hsuper =>
    exact settles_inheritanceRecord hs₁ hsub hs₂ hsuper next

/-- The text of a record settles the choice between the kinds, since it begins with the
opening of its own kind and so with no other. -/
theorem settles_entity {record : Entity} {t : Text} (h : RecordText IsReadable record t)
    (next : Text) : Settles entity record t next := by
  show Settles (oneOf recordParsers) record t next
  rw [recordParsers_eq]
  -- the parsers of the other kinds are refused at the opening, so it does not matter which of them
  -- are tried first
  refine (settles_recordParserOf h next).oneOf (mem_kinds record.kind) fun kind _ hne => ?_
  obtain ⟨rest, rfl⟩ := h.opener
  rw [List.append_assoc]
  exact (refuses_recordParserOf (opener_diverge hne)).append _

/-- What no record begins with is refused by all kinds. -/
theorem refuses_entity {next : Text} (h : ∀ kind, Text.Diverge (opener kind) next) :
    Refuses entity next := by
  refine Refuses.oneOf fun alternative hmem => ?_
  obtain ⟨kind, rfl⟩ := mem_recordParsers_iff.mp hmem
  exact refuses_recordParserOf (h kind)

end Famix.Grammar
