/-
The texts of records and models, declared without a parser.

Every field with a number is written the same way: an opening, the numeral, anything that
does not prolong the numeral, and a closing that comes where it first can. So there is one
relation for such fields, and the three kinds of them differ in opening and closing only.

The relations are over the numerals that are admitted. Two choices matter: any numeral
(`IsNumeral`), which is what the notation says, and the numerals that are short enough to
be read (`IsReadable`). `ModelText.imp` goes from one to the other.
-/
import Famix.Entity.Basic
import Famix.Fault
import Famix.Proofs.Scan

set_option autoImplicit false

namespace Famix.Grammar

/-! ## Numerals -/

/-- A non-empty run of decimal digits, and the number it writes. -/
def IsNumeral (digits : Text) (n : Int) : Prop :=
  digits ≠ [] ∧ (∀ c ∈ digits, c.isDigit = true) ∧ n = Text.decimalValue digits

/-- A numeral that is short enough to be read. -/
def IsReadable (digits : Text) (n : Int) : Prop :=
  IsNumeral digits n ∧ digits.length ≤ maxDigits

/-- No run of consecutive digits in a text is longer than a numeral that can be read. -/
def DigitRunsFit (text : Text) : Prop :=
  ∀ run, run <:+: text → (∀ c ∈ run, c.isDigit = true) → run.length ≤ maxDigits

/-- In a text whose runs of digits fit, every numeral can be read. -/
theorem IsNumeral.isReadable {digits text : Text} {n : Int} (h : IsNumeral digits n)
    (hin : digits <:+: text) (hfit : DigitRunsFit text) : IsReadable digits n :=
  ⟨h, hfit digits hin h.2.1⟩

/-- What lies inside a text whose runs of digits fit is such a text as well. -/
theorem DigitRunsFit.mono {text part : Text} (h : DigitRunsFit text) (hin : part <:+: text) :
    DigitRunsFit part :=
  fun run hrun hdigits => h run (hrun.trans hin) hdigits

/-- A character that is no digit separates the runs of digits before and behind it. -/
theorem DigitRunsFit.append_cons {text more : Text} {c : Char} (h : DigitRunsFit text)
    (hmore : DigitRunsFit more) (hc : c.isDigit = false) : DigitRunsFit (text ++ c :: more) := by
  intro run hrun hdigits
  have hnot : c ∉ run := fun hmem => absurd (hdigits c hmem) (by simp [hc])
  obtain ⟨before, behind, heq⟩ := hrun
  rcases List.append_eq_append_iff.mp heq with ⟨middle, htext, -⟩ | ⟨middle, hlead, hbehind⟩
  · exact h run ⟨before, middle, htext.symm⟩ hdigits
  · -- the run ends behind the character unless nothing of it is there
    cases middle with
    | nil =>
      rw [List.append_nil] at hlead
      exact h run ⟨before, [], by rw [List.append_nil, hlead]⟩ hdigits
    | cons d middle =>
      obtain ⟨rfl, rfl⟩ := List.cons.inj hbehind
      rcases List.append_eq_append_iff.mp hlead with ⟨start, -, hrun⟩ | ⟨start, -, hrun⟩
      · exact absurd (by simp [hrun]) hnot
      · cases start with
        | nil =>
          rw [List.nil_append] at hrun
          exact absurd (hrun ▸ List.mem_cons_self) hnot
        | cons e start =>
          obtain ⟨-, rfl⟩ := List.cons.inj hrun
          exact hmore run ⟨start, behind, rfl⟩ hdigits

/-- A text that is not longer than a numeral that can be read has no longer run either. -/
theorem digitRunsFit_of_length_le {text : Text} (h : text.length ≤ maxDigits) :
    DigitRunsFit text :=
  fun _ hrun _ => hrun.length_le.trans h

/-! ## Separators and fields -/

/-- A separator: a newline and any number of spaces. -/
inductive SeparatorText : Text → Prop
  | intro (count : Nat) : SeparatorText ('\n' :: List.replicate count ' ')

/-- The field of a name, with any number of spaces before it. -/
inductive NameText (name : Text) : Text → Prop
  | intro (count : Nat) (hname : '\'' ∉ name) :
    NameText name (List.replicate count ' ' ++ ("(name '".toList ++ (name ++ "')".toList)))

/-- The field of a signature. What stands behind its quote holds no parenthesis. -/
inductive SignatureText (signature : Text) : Text → Prop
  | intro (junk : Text) (hsignature : '\'' ∉ signature) (hjunk : ')' ∉ junk) :
    SignatureText signature
      ("(signature '".toList ++ (signature ++ ('\'' :: junk ++ ")".toList)))

/-- The opening of a record without an identifier. -/
def tagText (tag : Text) : Text := "(FAMIX.".toList ++ tag

section

variable (numeral : Text → Int → Prop)

/-- A field with a number: its numeral stands behind `opening`, and whatever follows the
digits ends in the first `closing`. -/
inductive NumberText (opening closing : Text) (n : Int) : Text → Prop
  | intro (digits junk : Text) (hdigits : numeral digits n)
    (hjunk : ∀ c ∈ junk.head?, c.isDigit = false)
    (hclosing : Text.EndsAtFirst closing (junk ++ closing)) :
    NumberText opening closing n (opening ++ (digits ++ (junk ++ closing)))

/-- The opening of a record with an identifier, through the parenthesis behind it. -/
def IdText (tag : Text) (n : Int) : Text → Prop :=
  NumberText numeral ("(FAMIX.".toList ++ tag ++ " (id: ".toList) ")".toList n

/-- The field of a reference, through its two closing parentheses. -/
def RefText (tag : Text) (n : Int) : Text → Prop :=
  NumberText numeral ("(".toList ++ tag ++ " (ref: ".toList) "))".toList n

/-- The field of the lines of code, through its two closing parentheses. -/
def LocText (n : Int) : Text → Prop := NumberText numeral "(LOC ".toList "))".toList n

/-! ## Records and models -/

/-- The texts of a record. -/
inductive RecordText : Entity → Text → Prop
  | namespaceRecord {name : Text} {id : Int} {a s₁ b : Text}
    (hid : IdText numeral "Namespace".toList id a) (hs₁ : SeparatorText s₁)
    (hname : NameText name b) :
    RecordText (.namespaceRecord name id) (a ++ s₁ ++ b ++ ")".toList)
  | packageRecord {name : Text} {id : Int} {a s₁ b : Text}
    (hid : IdText numeral "Package".toList id a) (hs₁ : SeparatorText s₁)
    (hname : NameText name b) :
    RecordText (.packageRecord name id none) (a ++ s₁ ++ b ++ ")".toList)
  | childPackageRecord {name : Text} {id parent : Int} {a s₁ b s₂ c : Text}
    (hid : IdText numeral "Package".toList id a) (hs₁ : SeparatorText s₁)
    (hname : NameText name b) (hs₂ : SeparatorText s₂)
    (hparent : RefText numeral "parentPackage".toList parent c) :
    RecordText (.packageRecord name id (some parent)) (a ++ s₁ ++ b ++ s₂ ++ c ++ ")".toList)
  | classRecord {name : Text} {id container parent : Int} {a s₁ b s₂ c s₃ d : Text}
    (hid : IdText numeral "Class".toList id a) (hs₁ : SeparatorText s₁)
    (hname : NameText name b) (hs₂ : SeparatorText s₂)
    (hcontainer : RefText numeral "container".toList container c) (hs₃ : SeparatorText s₃)
    (hparent : RefText numeral "parentPackage".toList parent d) :
    RecordText (.classRecord name id container parent)
      (a ++ s₁ ++ b ++ s₂ ++ c ++ s₃ ++ d ++ ")".toList)
  | methodRecord {name signature : Text} {parentType loc : Int}
    {s₁ b s₂ c s₃ d s₄ e : Text}
    (hs₁ : SeparatorText s₁) (hname : NameText name b)
    (hs₂ : SeparatorText s₂) (hsignature : SignatureText signature c)
    (hs₃ : SeparatorText s₃) (hparent : RefText numeral "parentType".toList parentType d)
    (hs₄ : SeparatorText s₄) (hloc : LocText numeral loc e) :
    RecordText (.methodRecord name signature parentType loc)
      (tagText "Method".toList ++ s₁ ++ b ++ s₂ ++ c ++ s₃ ++ d ++ s₄ ++ e)
  | attributeRecord {name : Text} {parentType : Int} {s₁ b s₂ c : Text}
    (hs₁ : SeparatorText s₁) (hname : NameText name b) (hs₂ : SeparatorText s₂)
    (hparent : RefText numeral "parentType".toList parentType c) :
    RecordText (.attributeRecord name parentType)
      (tagText "Attribute".toList ++ s₁ ++ b ++ s₂ ++ c ++ ")".toList)
  | inheritanceRecord {subclass superclass : Int} {s₁ b s₂ c : Text}
    (hs₁ : SeparatorText s₁) (hsub : RefText numeral "subclass".toList subclass b)
    (hs₂ : SeparatorText s₂) (hsuper : RefText numeral "superclass".toList superclass c) :
    RecordText (.inheritanceRecord subclass superclass)
      (tagText "Inheritance".toList ++ s₁ ++ b ++ s₂ ++ c ++ ")".toList)

end

/-- One or more items with a gap between each two of them. -/
inductive Row {α : Type} (item : α → Text → Prop) (gap : Text → Prop) : List α → Text → Prop
  | last {value : α} {t : Text} (h : item value t) : Row item gap [value] t
  | cons {value : α} {values : List α} {t s rest : Text} (h : item value t) (hs : gap s)
    (hrest : Row item gap values rest) : Row item gap (value :: values) (t ++ (s ++ rest))

/-- The texts of a model: a parenthesised list of records with separators between them. -/
inductive ModelText (numeral : Text → Int → Prop) : List Entity → Text → Prop
  | empty : ModelText numeral [] "()".toList
  | records {entities : List Entity} {t : Text}
    (h : Row (RecordText numeral) SeparatorText entities t) :
    ModelText numeral entities ("(".toList ++ t ++ ")".toList)

/-! ## Other numerals

A text of one of these relations is a text of the same relation for other numerals, if the
numerals that occur in it are admitted there. -/

section

variable {numeral numeral' : Text → Int → Prop}

theorem NumberText.imp {opening closing t : Text} {n : Int}
    (h : NumberText numeral opening closing n t)
    (himp : ∀ digits n, digits <:+: t → numeral digits n → numeral' digits n) :
    NumberText numeral' opening closing n t := by
  obtain ⟨digits, junk, hdigits, hjunk, hclosing⟩ := h
  exact ⟨digits, junk, himp digits n ⟨opening, junk ++ closing, by simp⟩ hdigits, hjunk, hclosing⟩

theorem RecordText.imp {entity : Entity} {t : Text} (h : RecordText numeral entity t)
    (himp : ∀ digits n, digits <:+: t → numeral digits n → numeral' digits n) :
    RecordText numeral' entity t := by
  -- the numerals of a field are numerals of the record it stands in
  have hfield : ∀ part, part <:+: t → ∀ digits n, digits <:+: part → numeral digits n →
      numeral' digits n := fun part hpart digits n hin => himp digits n (hin.trans hpart)
  cases h with
  | @namespaceRecord name id a s₁ b hid hs₁ hname =>
    refine .namespaceRecord (hid.imp (hfield a ⟨[], s₁ ++ b ++ ")".toList, ?_⟩)) hs₁ hname
    simp only [List.nil_append, List.append_assoc]
  | @packageRecord name id a s₁ b hid hs₁ hname =>
    refine .packageRecord (hid.imp (hfield a ⟨[], s₁ ++ b ++ ")".toList, ?_⟩)) hs₁ hname
    simp only [List.nil_append, List.append_assoc]
  | @childPackageRecord name id parent a s₁ b s₂ c hid hs₁ hname hs₂ hparent =>
    refine .childPackageRecord
      (hid.imp (hfield a ⟨[], s₁ ++ b ++ s₂ ++ c ++ ")".toList, ?_⟩)) hs₁ hname hs₂
      (hparent.imp (hfield c ⟨a ++ s₁ ++ b ++ s₂, ")".toList, ?_⟩))
    · simp only [List.nil_append, List.append_assoc]
    · simp only [List.append_assoc]
  | @classRecord name id container parent a s₁ b s₂ c s₃ d hid hs₁ hname hs₂ hcontainer hs₃
      hparent =>
    refine .classRecord
      (hid.imp (hfield a ⟨[], s₁ ++ b ++ s₂ ++ c ++ s₃ ++ d ++ ")".toList, ?_⟩)) hs₁ hname hs₂
      (hcontainer.imp (hfield c ⟨a ++ s₁ ++ b ++ s₂, s₃ ++ d ++ ")".toList, ?_⟩)) hs₃
      (hparent.imp (hfield d ⟨a ++ s₁ ++ b ++ s₂ ++ c ++ s₃, ")".toList, ?_⟩))
    · simp only [List.nil_append, List.append_assoc]
    · simp only [List.append_assoc]
    · simp only [List.append_assoc]
  | @methodRecord name signature parentType loc s₁ b s₂ c s₃ d s₄ e hs₁ hname hs₂ hsignature
      hs₃ hparent hs₄ hloc =>
    refine .methodRecord hs₁ hname hs₂ hsignature hs₃
      (hparent.imp (hfield d ⟨tagText "Method".toList ++ s₁ ++ b ++ s₂ ++ c ++ s₃, s₄ ++ e, ?_⟩))
      hs₄
      (hloc.imp (hfield e ⟨tagText "Method".toList ++ s₁ ++ b ++ s₂ ++ c ++ s₃ ++ d ++ s₄, [],
        ?_⟩))
    · simp only [List.append_assoc]
    · simp only [List.append_nil]
  | @attributeRecord name parentType s₁ b s₂ c hs₁ hname hs₂ hparent =>
    refine .attributeRecord hs₁ hname hs₂
      (hparent.imp (hfield c ⟨tagText "Attribute".toList ++ s₁ ++ b ++ s₂, ")".toList, ?_⟩))
    simp only [List.append_assoc]
  | @inheritanceRecord subclass superclass s₁ b s₂ c hs₁ hsub hs₂ hsuper =>
    refine .inheritanceRecord hs₁
      (hsub.imp (hfield b ⟨tagText "Inheritance".toList ++ s₁, s₂ ++ c ++ ")".toList, ?_⟩)) hs₂
      (hsuper.imp (hfield c ⟨tagText "Inheritance".toList ++ s₁ ++ b ++ s₂, ")".toList, ?_⟩))
    · simp only [List.append_assoc]
    · simp only [List.append_assoc]

theorem Row.imp {α : Type} {item item' : α → Text → Prop} {gap : Text → Prop} {values : List α}
    {t : Text} (h : Row item gap values t)
    (himp : ∀ value part, part <:+: t → item value part → item' value part) :
    Row item' gap values t := by
  induction h with
  | @last value t h => exact .last (himp value t (List.infix_refl t) h)
  | @cons value values t s rest h hs hrest ih =>
    refine .cons (himp value t ⟨[], s ++ rest, by simp⟩ h) hs (ih fun value part hin => ?_)
    exact himp value part (hin.trans ⟨t ++ s, [], by simp⟩)

/-- A text of a model stays one for other numerals that admit all numerals in it. -/
theorem ModelText.imp {entities : List Entity} {t : Text} (h : ModelText numeral entities t)
    (himp : ∀ digits n, digits <:+: t → numeral digits n → numeral' digits n) :
    ModelText numeral' entities t := by
  cases h with
  | empty => exact .empty
  | @records entities t h =>
    refine .records (h.imp fun entity part hin hrecord => hrecord.imp fun digits n hdigits => ?_)
    exact himp digits n (hdigits.trans (hin.trans ⟨"(".toList, ")".toList, rfl⟩))

end

end Famix.Grammar
