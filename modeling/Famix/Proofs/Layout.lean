/-
Layouts: the texts of models by their pieces.

A record is written in pieces, one for its opening and one for each field, with a separator
between each two of them. `ModelText` says the same with one relation for each kind of record;
here the pieces are a list, so what holds of the pieces can be proved of a whole model by going
along the list. And it is said what the reader skips: the text between a number, or the quote
of a signature, and the closing of the field. If anything may be skipped, the layouts are the
texts of models (`modelLayout_iff_modelText`). If nothing is, and numbers are written in
decimal, they are the layouts in which models are meant to be written (`NeatLayout`).
-/
import Famix.Proofs.Language
import Mathlib.Algebra.Group.Int.Defs

set_option autoImplicit false

namespace Famix.Grammar

/-! ## Pieces of records -/

/-- The field of a name. -/
def nameText (name : Text) : Text := "(name '".toList ++ (name ++ "')".toList)

section

variable (numeral : Text → Int → Prop) (skipped : Text → Prop)

/-- A field with a number, in which only what is admitted is skipped. -/
inductive FigureText (opening closing : Text) (n : Int) : Text → Prop
  | intro (digits junk : Text) (hdigits : numeral digits n)
    (hjunk : ∀ c ∈ junk.head?, c.isDigit = false)
    (hclosing : Text.EndsAtFirst closing (junk ++ closing)) (hskipped : skipped junk) :
    FigureText opening closing n (opening ++ (digits ++ (junk ++ closing)))

/-- The opening of a record with an identifier. -/
def IdFigure (tag : Text) (n : Int) : Text → Prop :=
  FigureText numeral skipped ("(FAMIX.".toList ++ tag ++ " (id: ".toList) ")".toList n

/-- The field of a reference. -/
def RefFigure (tag : Text) (n : Int) : Text → Prop :=
  FigureText numeral skipped ("(".toList ++ tag ++ " (ref: ".toList) "))".toList n

/-- The field of the lines of code. -/
def LocFigure (n : Int) : Text → Prop := FigureText numeral skipped "(LOC ".toList "))".toList n

/-- The field of a signature, in which only what is admitted is skipped. -/
inductive QuotedSignature (signature : Text) : Text → Prop
  | intro (junk : Text) (hsignature : '\'' ∉ signature) (hjunk : ')' ∉ junk)
    (hskipped : skipped junk) :
    QuotedSignature signature
      ("(signature '".toList ++ (signature ++ ('\'' :: junk ++ ")".toList)))

/-- The pieces in which a record is written. The last one closes it. -/
inductive RecordPieces : Entity → List Text → Prop
  | namespaceRecord {name a : Text} {id : Int}
    (hid : IdFigure numeral skipped "Namespace".toList id a) (hname : '\'' ∉ name) :
    RecordPieces (.namespaceRecord name id) [a, nameText name ++ ")".toList]
  | packageRecord {name a : Text} {id : Int}
    (hid : IdFigure numeral skipped "Package".toList id a) (hname : '\'' ∉ name) :
    RecordPieces (.packageRecord name id none) [a, nameText name ++ ")".toList]
  | childPackageRecord {name a c : Text} {id parent : Int}
    (hid : IdFigure numeral skipped "Package".toList id a) (hname : '\'' ∉ name)
    (hparent : RefFigure numeral skipped "parentPackage".toList parent c) :
    RecordPieces (.packageRecord name id (some parent)) [a, nameText name, c ++ ")".toList]
  | classRecord {name a c d : Text} {id container parent : Int}
    (hid : IdFigure numeral skipped "Class".toList id a) (hname : '\'' ∉ name)
    (hcontainer : RefFigure numeral skipped "container".toList container c)
    (hparent : RefFigure numeral skipped "parentPackage".toList parent d) :
    RecordPieces (.classRecord name id container parent) [a, nameText name, c, d ++ ")".toList]
  | methodRecord {name signature c d e : Text} {parentType loc : Int} (hname : '\'' ∉ name)
    (hsignature : QuotedSignature skipped signature c)
    (hparent : RefFigure numeral skipped "parentType".toList parentType d)
    (hloc : LocFigure numeral skipped loc e) :
    RecordPieces (.methodRecord name signature parentType loc)
      [tagText "Method".toList, nameText name, c, d, e]
  | attributeRecord {name c : Text} {parentType : Int} (hname : '\'' ∉ name)
    (hparent : RefFigure numeral skipped "parentType".toList parentType c) :
    RecordPieces (.attributeRecord name parentType)
      [tagText "Attribute".toList, nameText name, c ++ ")".toList]
  | inheritanceRecord {b c : Text} {subclass superclass : Int}
    (hsub : RefFigure numeral skipped "subclass".toList subclass b)
    (hsuper : RefFigure numeral skipped "superclass".toList superclass c) :
    RecordPieces (.inheritanceRecord subclass superclass)
      [tagText "Inheritance".toList, b, c ++ ")".toList]

/-! ## Layouts -/

/-- A record, written in its pieces with separators between them. -/
def RecordLayout (entity : Entity) (t : Text) : Prop :=
  ∃ pieces, RecordPieces numeral skipped entity pieces ∧ Row Eq SeparatorText pieces t

/-- A model, written in records with separators between them. -/
def ModelLayout (entities : List Entity) (c : Text) : Prop :=
  ∃ t, c = "(".toList ++ (t ++ ")".toList) ∧
    ((entities = [] ∧ t = []) ∨ Row (RecordLayout numeral skipped) SeparatorText entities t)

end

section

variable {numeral : Text → Int → Prop} {skipped : Text → Prop}

theorem row_singleton {α : Type} {item : α → Text → Prop} {gap : Text → Prop} {value : α}
    {t : Text} : Row item gap [value] t ↔ item value t := by
  constructor
  · intro h
    cases h with
    | last h => exact h
    | cons _ _ hrest => cases hrest
  · exact .last

/-- A row of two items and more is its first item, a gap and the row of the others. -/
theorem row_cons_cons {α : Type} {item : α → Text → Prop} {gap : Text → Prop}
    {value other : α} {values : List α} {t : Text} :
    Row item gap (value :: other :: values) t ↔
      ∃ p s rest, t = p ++ (s ++ rest) ∧ item value p ∧ gap s ∧
        Row item gap (other :: values) rest := by
  constructor
  · intro h
    cases h with
    | cons h hs hrest => exact ⟨_, _, _, rfl, h, hs, hrest⟩
  · rintro ⟨p, s, rest, rfl, h, hs, hrest⟩
    exact .cons h hs hrest

/-- A field with a restriction on what is skipped is a text of the field. -/
theorem FigureText.numberText {opening closing t : Text} {n : Int}
    (h : FigureText numeral skipped opening closing n t) :
    NumberText numeral opening closing n t := by
  obtain ⟨digits, junk, hdigits, hjunk, hclosing, -⟩ := h
  exact ⟨digits, junk, hdigits, hjunk, hclosing⟩

theorem QuotedSignature.signatureText {signature t : Text}
    (h : QuotedSignature skipped signature t) : SignatureText signature t := by
  obtain ⟨junk, hsignature, hjunk, -⟩ := h
  exact ⟨junk, hsignature, hjunk⟩

theorem nameText_spec {name : Text} (h : '\'' ∉ name) : NameText name (nameText name) :=
  .intro 0 h

/-- A record written in its pieces is a text of the record. -/
theorem RecordLayout.recordText {entity : Entity} {t : Text}
    (h : RecordLayout numeral skipped entity t) : RecordText numeral entity t := by
  obtain ⟨pieces, hpieces, hrow⟩ := h
  -- in every kind the row is taken apart gap by gap, and the pieces are put into the text of the
  -- record with the separators that were found between them
  cases hpieces with
  | namespaceRecord hid hname =>
    obtain ⟨_, s₁, _, rfl, rfl, hs₁, hrow⟩ := row_cons_cons.mp hrow
    obtain rfl := row_singleton.mp hrow
    have h := RecordText.namespaceRecord hid.numberText hs₁ (nameText_spec hname)
    simpa only [List.append_assoc] using h
  | packageRecord hid hname =>
    obtain ⟨_, s₁, _, rfl, rfl, hs₁, hrow⟩ := row_cons_cons.mp hrow
    obtain rfl := row_singleton.mp hrow
    have h := RecordText.packageRecord hid.numberText hs₁ (nameText_spec hname)
    simpa only [List.append_assoc] using h
  | childPackageRecord hid hname hparent =>
    obtain ⟨_, s₁, _, rfl, rfl, hs₁, hrow⟩ := row_cons_cons.mp hrow
    obtain ⟨_, s₂, _, rfl, rfl, hs₂, hrow⟩ := row_cons_cons.mp hrow
    obtain rfl := row_singleton.mp hrow
    have h := RecordText.childPackageRecord hid.numberText hs₁ (nameText_spec hname) hs₂
      hparent.numberText
    simpa only [List.append_assoc] using h
  | classRecord hid hname hcontainer hparent =>
    obtain ⟨_, s₁, _, rfl, rfl, hs₁, hrow⟩ := row_cons_cons.mp hrow
    obtain ⟨_, s₂, _, rfl, rfl, hs₂, hrow⟩ := row_cons_cons.mp hrow
    obtain ⟨_, s₃, _, rfl, rfl, hs₃, hrow⟩ := row_cons_cons.mp hrow
    obtain rfl := row_singleton.mp hrow
    have h := RecordText.classRecord hid.numberText hs₁ (nameText_spec hname) hs₂
      hcontainer.numberText hs₃ hparent.numberText
    simpa only [List.append_assoc] using h
  | methodRecord hname hsignature hparent hloc =>
    obtain ⟨_, s₁, _, rfl, rfl, hs₁, hrow⟩ := row_cons_cons.mp hrow
    obtain ⟨_, s₂, _, rfl, rfl, hs₂, hrow⟩ := row_cons_cons.mp hrow
    obtain ⟨_, s₃, _, rfl, rfl, hs₃, hrow⟩ := row_cons_cons.mp hrow
    obtain ⟨_, s₄, _, rfl, rfl, hs₄, hrow⟩ := row_cons_cons.mp hrow
    obtain rfl := row_singleton.mp hrow
    have h := RecordText.methodRecord hs₁ (nameText_spec hname) hs₂ hsignature.signatureText hs₃
      hparent.numberText hs₄ hloc.numberText
    simpa only [List.append_assoc] using h
  | attributeRecord hname hparent =>
    obtain ⟨_, s₁, _, rfl, rfl, hs₁, hrow⟩ := row_cons_cons.mp hrow
    obtain ⟨_, s₂, _, rfl, rfl, hs₂, hrow⟩ := row_cons_cons.mp hrow
    obtain rfl := row_singleton.mp hrow
    have h := RecordText.attributeRecord hs₁ (nameText_spec hname) hs₂ hparent.numberText
    simpa only [List.append_assoc] using h
  | inheritanceRecord hsub hsuper =>
    obtain ⟨_, s₁, _, rfl, rfl, hs₁, hrow⟩ := row_cons_cons.mp hrow
    obtain ⟨_, s₂, _, rfl, rfl, hs₂, hrow⟩ := row_cons_cons.mp hrow
    obtain rfl := row_singleton.mp hrow
    have h := RecordText.inheritanceRecord hs₁ hsub.numberText hs₂ hsuper.numberText
    simpa only [List.append_assoc] using h

/-- A model written in its pieces is a text of the model. -/
theorem ModelLayout.modelText {entities : List Entity} {c : Text}
    (h : ModelLayout numeral skipped entities c) : ModelText numeral entities c := by
  obtain ⟨t, rfl, hrow⟩ := h
  refine modelText_iff.mpr ⟨t, rfl, hrow.imp id fun hrow => ?_⟩
  exact hrow.imp fun entity part _ hrecord => hrecord.recordText

/-- Behind a separator a name is written without spaces, if they are taken for those of the
separator. -/
theorem NameText.exists_nameText {name s b : Text} (hs : SeparatorText s) (hb : NameText name b) :
    ∃ s', SeparatorText s' ∧ '\'' ∉ name ∧
      ∀ rest, s ++ (b ++ rest) = s' ++ (nameText name ++ rest) := by
  obtain ⟨s', b', hs', ⟨count, hname⟩, ⟨_, hopens⟩, heq⟩ := hb.tighten hs
  -- tightened, the name begins with its parenthesis, so no space is left in front of it
  cases count with
  | zero =>
    refine ⟨s', hs', hname, fun rest => ?_⟩
    rw [← List.append_assoc, heq, List.append_assoc]
    rfl
  | succ count => cases hopens

theorem NumberText.figureText {opening closing t : Text} {n : Int}
    (h : NumberText numeral opening closing n t) :
    FigureText numeral (fun _ => True) opening closing n t := by
  obtain ⟨digits, junk, hdigits, hjunk, hclosing⟩ := h
  exact ⟨digits, junk, hdigits, hjunk, hclosing, trivial⟩

theorem SignatureText.quotedSignature {signature t : Text} (h : SignatureText signature t) :
    QuotedSignature (fun _ => True) signature t := by
  obtain ⟨junk, hsignature, hjunk⟩ := h
  exact ⟨junk, hsignature, hjunk, trivial⟩

/-- A text of a record is written in pieces, if anything may be skipped. -/
theorem RecordText.recordLayout {entity : Entity} {t : Text} (h : RecordText numeral entity t) :
    RecordLayout numeral (fun _ => True) entity t := by
  cases h with
  | namespaceRecord hid hs₁ hname =>
    obtain ⟨s, hs, hname, heq⟩ := hname.exists_nameText hs₁
    refine ⟨_, .namespaceRecord hid.figureText hname, ?_⟩
    simp only [List.append_assoc, heq]
    exact .cons rfl hs (.last rfl)
  | packageRecord hid hs₁ hname =>
    obtain ⟨s, hs, hname, heq⟩ := hname.exists_nameText hs₁
    refine ⟨_, .packageRecord hid.figureText hname, ?_⟩
    simp only [List.append_assoc, heq]
    exact .cons rfl hs (.last rfl)
  | childPackageRecord hid hs₁ hname hs₂ hparent =>
    obtain ⟨s, hs, hname, heq⟩ := hname.exists_nameText hs₁
    refine ⟨_, .childPackageRecord hid.figureText hname hparent.figureText, ?_⟩
    simp only [List.append_assoc, heq]
    exact .cons rfl hs (.cons rfl hs₂ (.last rfl))
  | classRecord hid hs₁ hname hs₂ hcontainer hs₃ hparent =>
    obtain ⟨s, hs, hname, heq⟩ := hname.exists_nameText hs₁
    refine ⟨_, .classRecord hid.figureText hname hcontainer.figureText hparent.figureText, ?_⟩
    simp only [List.append_assoc, heq]
    exact .cons rfl hs (.cons rfl hs₂ (.cons rfl hs₃ (.last rfl)))
  | methodRecord hs₁ hname hs₂ hsignature hs₃ hparent hs₄ hloc =>
    obtain ⟨s, hs, hname, heq⟩ := hname.exists_nameText hs₁
    refine ⟨_, .methodRecord hname hsignature.quotedSignature hparent.figureText hloc.figureText,
      ?_⟩
    simp only [List.append_assoc, heq]
    exact .cons rfl hs (.cons rfl hs₂ (.cons rfl hs₃ (.cons rfl hs₄ (.last rfl))))
  | attributeRecord hs₁ hname hs₂ hparent =>
    obtain ⟨s, hs, hname, heq⟩ := hname.exists_nameText hs₁
    refine ⟨_, .attributeRecord hname hparent.figureText, ?_⟩
    simp only [List.append_assoc, heq]
    exact .cons rfl hs (.cons rfl hs₂ (.last rfl))
  | inheritanceRecord hs₁ hsub hs₂ hsuper =>
    refine ⟨_, .inheritanceRecord hsub.figureText hsuper.figureText, ?_⟩
    simp only [List.append_assoc]
    exact .cons rfl hs₁ (.cons rfl hs₂ (.last rfl))

/-- If anything may be skipped, the layouts are the texts of models. -/
theorem modelLayout_iff_modelText {entities : List Entity} {c : Text} :
    ModelLayout numeral (fun _ => True) entities c ↔ ModelText numeral entities c := by
  constructor
  · exact ModelLayout.modelText
  · intro h
    obtain ⟨t, rfl, hrow⟩ := modelText_iff.mp h
    refine ⟨t, rfl, hrow.imp id fun hrow => ?_⟩
    -- this is the only direction that needs anything to be skipped
    exact hrow.imp fun entity part _ hrecord => hrecord.recordLayout

end

/-! ## Other numerals -/

section

variable {numeral numeral' : Text → Int → Prop} {skipped skipped' : Text → Prop}

theorem FigureText.imp {opening closing t : Text} {n : Int}
    (h : FigureText numeral skipped opening closing n t)
    (hnumeral : ∀ digits, numeral digits n → numeral' digits n)
    (hskipped : ∀ junk, skipped junk → skipped' junk) :
    FigureText numeral' skipped' opening closing n t := by
  obtain ⟨digits, junk, hdigits, hjunk, hclosing, hskip⟩ := h
  exact ⟨digits, junk, hnumeral digits hdigits, hjunk, hclosing, hskipped junk hskip⟩

theorem QuotedSignature.imp {signature t : Text} (h : QuotedSignature skipped signature t)
    (hskipped : ∀ junk, skipped junk → skipped' junk) :
    QuotedSignature skipped' signature t := by
  obtain ⟨junk, hsignature, hjunk, hskip⟩ := h
  exact ⟨junk, hsignature, hjunk, hskipped junk hskip⟩

/-- Only the numbers that are fields of a record are written in it. -/
theorem RecordPieces.imp {entity : Entity} {pieces : List Text}
    (h : RecordPieces numeral skipped entity pieces)
    (hnumeral : ∀ name digits n, (name, Field.number n) ∈ entity.fields →
      numeral digits n → numeral' digits n)
    (hskipped : ∀ junk, skipped junk → skipped' junk) :
    RecordPieces numeral' skipped' entity pieces := by
  have hfield : ∀ name n, (name, Field.number n) ∈ entity.fields →
      ∀ digits, numeral digits n → numeral' digits n :=
    fun name n hmem digits => hnumeral name digits n hmem
  cases h with
  | namespaceRecord hid hname =>
    exact .namespaceRecord (hid.imp (hfield "id".toList _ (by simp [Entity.fields])) hskipped) hname
  | packageRecord hid hname =>
    exact .packageRecord (hid.imp (hfield "id".toList _ (by simp [Entity.fields])) hskipped) hname
  | childPackageRecord hid hname hparent =>
    exact .childPackageRecord
      (hid.imp (hfield "id".toList _ (by simp [Entity.fields])) hskipped) hname
      (hparent.imp (hfield "parent_package".toList _
        (by simp [Entity.fields, Field.ofNumber?])) hskipped)
  | classRecord hid hname hcontainer hparent =>
    exact .classRecord (hid.imp (hfield "id".toList _ (by simp [Entity.fields])) hskipped) hname
      (hcontainer.imp (hfield "container".toList _ (by simp [Entity.fields])) hskipped)
      (hparent.imp (hfield "parent_package".toList _ (by simp [Entity.fields])) hskipped)
  | methodRecord hname hsignature hparent hloc =>
    exact .methodRecord hname (hsignature.imp hskipped)
      (hparent.imp (hfield "parent_type".toList _ (by simp [Entity.fields])) hskipped)
      (hloc.imp (hfield "loc".toList _ (by simp [Entity.fields])) hskipped)
  | attributeRecord hname hparent =>
    exact .attributeRecord hname
      (hparent.imp (hfield "parent_type".toList _ (by simp [Entity.fields])) hskipped)
  | inheritanceRecord hsub hsuper =>
    exact .inheritanceRecord
      (hsub.imp (hfield "subclass".toList _ (by simp [Entity.fields])) hskipped)
      (hsuper.imp (hfield "superclass".toList _ (by simp [Entity.fields])) hskipped)

/-- What is written for the values of a row may be weakened for each of them. -/
theorem Row.imp_of_mem {α : Type} {item item' : α → Text → Prop} {gap : Text → Prop}
    {values : List α} {t : Text} (h : Row item gap values t)
    (himp : ∀ value ∈ values, ∀ part, item value part → item' value part) :
    Row item' gap values t := by
  induction h with
  | last h => exact .last (himp _ List.mem_cons_self _ h)
  | @cons value values _ _ _ h hs hrest ih =>
    refine .cons (himp _ List.mem_cons_self _ h) hs (ih fun other hother => ?_)
    exact himp other (List.mem_cons_of_mem value hother)

end

/-! ## Neat layouts -/

/-- A number, written in decimal. -/
def IsDecimal (digits : Text) (n : Int) : Prop := digits = Text.ofInt n

/-- A model as it is meant to be written: numbers in decimal, and nothing to be skipped. A
separator is still a newline and any number of spaces, chosen for each place. -/
def NeatLayout : List Entity → Text → Prop := ModelLayout IsDecimal (· = [])

end Famix.Grammar

namespace Famix

/-- The content of a field can be typed in a line, in quotes or as a number that is read. -/
def Field.Typable : Field → Prop
  | .text content => '\'' ∉ content ∧ '\n' ∉ content
  | .number value => 0 ≤ value ∧ value < 10 ^ maxDigits
  | .absent => True

/-- All fields of a record can be typed. -/
def Entity.Typable (entity : Entity) : Prop := ∀ field ∈ entity.fields, field.2.Typable

namespace Grammar

/-- A number that is not too large is read off its decimal numeral. -/
theorem isReadable_of_isDecimal {digits : Text} {n : Int} (h : IsDecimal digits n)
    (hn : 0 ≤ n ∧ n < 10 ^ maxDigits) : IsReadable digits n := by
  obtain ⟨n, rfl⟩ := Int.eq_ofNat_of_zero_le hn.1
  obtain rfl : digits = Text.ofNat n := h
  have hlt : n < 10 ^ maxDigits := by
    rw [← Int.ofNat_lt, Int.natCast_pow]
    exact hn.2
  -- a numeral has as many digits as fit if the number is below that power of ten
  refine ⟨⟨Nat.toDigits_ne_nil, fun c hc => Text.isDigit_of_mem_ofNat hc, ?_⟩, ?_⟩
  · rw [Text.decimalValue_ofNat]
  · exact Text.length_ofNat_le_iff.mpr hlt

/-- A field with a number in decimal and nothing that is skipped. -/
theorem figureText_neat (opening closing : Text) (n : Int) :
    FigureText IsDecimal (· = []) opening closing n
      (opening ++ (Text.ofInt n ++ ([] ++ closing))) := by
  refine .intro (Text.ofInt n) [] rfl (by simp) ⟨List.suffix_refl _, fun lead rest h => ?_⟩ rfl
  have hlength := congrArg List.length h
  simp only [List.length_append, List.length_nil] at hlength
  exact List.eq_nil_of_length_eq_zero (by omega)

/-- A row can be written if its items can. -/
theorem exists_row {α : Type} {item : α → Text → Prop} {values : List α} (hne : values ≠ [])
    (h : ∀ value ∈ values, ∃ t, item value t) : ∃ t, Row item SeparatorText values t := by
  induction values with
  | nil => exact absurd rfl hne
  | cons value values ih =>
    obtain ⟨t, ht⟩ := h value List.mem_cons_self
    cases values with
    | nil => exact ⟨t, .last ht⟩
    | cons other values =>
      obtain ⟨rest, hrest⟩ := ih (List.cons_ne_nil _ _)
        fun other hother => h other (List.mem_cons_of_mem value hother)
      exact ⟨_, .cons ht (.intro 0) hrest⟩

/-- Records that can be typed have pieces in which they are written neatly. -/
theorem exists_recordPieces {entity : Entity} (h : entity.Typable) :
    ∃ pieces, RecordPieces IsDecimal (· = []) entity pieces ∧ pieces ≠ [] := by
  have hquote : ∀ field content, (field, Field.text content) ∈ entity.fields → '\'' ∉ content :=
    fun field content hmem => (h _ hmem).1
  cases entity with
  | namespaceRecord name id =>
    have hname := hquote _ name List.mem_cons_self
    exact ⟨_, .namespaceRecord (figureText_neat _ _ id) hname, List.cons_ne_nil _ _⟩
  | packageRecord name id parent =>
    have hname := hquote _ name List.mem_cons_self
    cases parent with
    | none => exact ⟨_, .packageRecord (figureText_neat _ _ id) hname, List.cons_ne_nil _ _⟩
    | some parent =>
      exact ⟨_, .childPackageRecord (figureText_neat _ _ id) hname (figureText_neat _ _ parent),
        List.cons_ne_nil _ _⟩
  | classRecord name id container parent =>
    have hname := hquote _ name List.mem_cons_self
    exact ⟨_, .classRecord (figureText_neat _ _ id) hname (figureText_neat _ _ container)
      (figureText_neat _ _ parent), List.cons_ne_nil _ _⟩
  | methodRecord name signature parentType loc =>
    have hname := hquote _ name List.mem_cons_self
    have hsignature := hquote _ signature (List.mem_cons_of_mem _ List.mem_cons_self)
    exact ⟨_, .methodRecord hname (.intro [] hsignature (by simp) rfl)
      (figureText_neat _ _ parentType) (figureText_neat _ _ loc), List.cons_ne_nil _ _⟩
  | attributeRecord name parentType =>
    have hname := hquote _ name List.mem_cons_self
    exact ⟨_, .attributeRecord hname (figureText_neat _ _ parentType), List.cons_ne_nil _ _⟩
  | inheritanceRecord subclass superclass =>
    exact ⟨_, .inheritanceRecord (figureText_neat _ _ subclass) (figureText_neat _ _ superclass),
      List.cons_ne_nil _ _⟩

/-- Whatever records can be typed, there is a neat layout of them. -/
theorem exists_neatLayout {entities : List Entity}
    (h : ∀ entity ∈ entities, entity.Typable) : ∃ c, NeatLayout entities c := by
  by_cases hne : entities = []
  · exact ⟨_, [], rfl, .inl ⟨hne, rfl⟩⟩
  · obtain ⟨t, ht⟩ : ∃ t, Row (RecordLayout IsDecimal (· = [])) SeparatorText entities t := by
      refine exists_row hne fun entity hentity => ?_
      obtain ⟨pieces, hpieces, hne⟩ := exists_recordPieces (h entity hentity)
      obtain ⟨t, ht⟩ := exists_row hne fun piece _ => ⟨piece, rfl⟩
      exact ⟨t, pieces, hpieces, ht⟩
    exact ⟨_, t, rfl, .inr ht⟩

/-- A neat layout of records that can be typed is a text of the model that is read. -/
theorem NeatLayout.modelText {entities : List Entity} {c : Text} (h : NeatLayout entities c)
    (htypable : ∀ entity ∈ entities, entity.Typable) : ModelText IsReadable entities c := by
  obtain ⟨t, rfl, hrow⟩ := h
  refine modelText_iff.mpr ⟨t, rfl, hrow.imp id fun hrow => ?_⟩
  refine hrow.imp_of_mem fun entity hentity part hrecord => ?_
  obtain ⟨pieces, hpieces, hpart⟩ := hrecord
  have hreadable : RecordPieces IsReadable (· = []) entity pieces :=
    hpieces.imp (fun name digits n hmem hdigits =>
      isReadable_of_isDecimal hdigits (htypable entity hentity _ hmem)) fun _ => id
  exact RecordLayout.recordText ⟨pieces, hreadable, hpart⟩

end Grammar

end Famix
