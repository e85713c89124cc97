/-
The model grammar is combined from scanning parsers, so it is orderly: it moves forward only,
and the one fault it can stop with is a numeral that is too long. Hence a text whose runs of
digits are short enough is always read, with a match or without (`exists_readModel_eq_ok`).

All fields and all records but one are straight, so each line below follows the parser that it
is about. The exception is the package, whose parent may be left out.
-/
import Famix.Proofs.Construction
import Famix.Proofs.Language

set_option autoImplicit false

namespace Famix

namespace Grammar

open Famix.Parser

variable {α : Type}

/-! ## Fields -/

/-- Spaces are a run. -/
theorem straight_spaces : Straight spaces :=
  (Straight.takeWhile _).bind fun _ => .pure _

/-- A separator is a token and spaces. -/
theorem straight_separator : Straight separator :=
  (straight_token _).bind fun _ => straight_spaces

/-- A separator behind a field takes nothing back. -/
theorem straight_thenSeparator {field : Parser α} (h : Straight field) :
    Straight (thenSeparator field) :=
  h.bind fun _ => straight_separator.bind fun _ => .pure _

/-- A parenthesis behind a field takes nothing back. -/
theorem straight_thenClose {field : Parser α} (h : Straight field) :
    Straight (thenClose field) :=
  h.bind fun _ => (straight_token _).bind fun _ => .pure _

/-- A field with a number is a token, a number and what goes through the closing. -/
theorem straight_numberField (opening closing : Text) : Straight (numberField opening closing) :=
  (straight_token _).bind fun _ => Straight.number.bind fun _ =>
    (Straight.through _).bind fun _ => .pure _

/-- A reference is a field with a number. -/
theorem straight_refField (tag : Text) : Straight (refField tag) := straight_numberField _ _

/-- An id is a field with a number. -/
theorem straight_entityId (tag : Text) : Straight (entityId tag) := straight_numberField _ _

/-- The lines of code are a field with a number. -/
theorem straight_locField : Straight locField := straight_numberField _ _

/-- A name is spaces, a token, a run and another token. -/
theorem straight_nameField : Straight nameField :=
  straight_spaces.bind fun _ => (straight_token _).bind fun _ => (Straight.takeWhile _).bind
    fun _ => (straight_token _).bind fun _ => .pure _

/-- A signature is a token, a run and what goes through the closing. -/
theorem straight_signatureField : Straight signatureField :=
  (straight_token _).bind fun _ => (Straight.takeWhile _).bind fun _ =>
    (Straight.through _).bind fun _ => .pure _

/-- The line with a parent is a separator and a reference. It is optional where it is used, not
here. -/
theorem straight_parentPackageLine : Straight parentPackageLine :=
  straight_separator.bind fun _ => straight_refField _

/-! ## Records and models -/

/-- The records of all kinds but packages are read without taking anything back. -/
theorem straight_recordParserOf {kind : Kind} (h : kind ≠ .packages) :
    Straight (recordParserOf kind) := by
  have hid : ∀ tag, Straight (thenSeparator (entityId tag)) :=
    fun tag => straight_thenSeparator (straight_entityId tag)
  have htag : ∀ tag, Straight (thenSeparator (entityTag tag)) :=
    fun tag => straight_thenSeparator (straight_token _)
  have hname := straight_thenSeparator straight_nameField
  have href : ∀ tag, Straight (thenSeparator (refField tag)) :=
    fun tag => straight_thenSeparator (straight_refField tag)
  have hlast : ∀ tag, Straight (thenClose (refField tag)) :=
    fun tag => straight_thenClose (straight_refField tag)
  cases kind with
  | namespaces =>
    exact (hid _).bind fun _ => straight_nameField.bind fun _ => (straight_token _).bind
      fun _ => .pure _
  | packages => exact absurd rfl h
  | classes =>
    exact (hid _).bind fun _ => hname.bind fun _ => (href _).bind fun _ => (hlast _).bind
      fun _ => .pure _
  | methods =>
    exact (htag _).bind fun _ => hname.bind fun _ =>
      (straight_thenSeparator straight_signatureField).bind fun _ => (href _).bind fun _ =>
        straight_locField.bind fun _ => .pure _
  | attributes =>
    exact (htag _).bind fun _ => hname.bind fun _ => (hlast _).bind fun _ => .pure _
  | inheritances =>
    exact (htag _).bind fun _ => (href _).bind fun _ => (hlast _).bind fun _ => .pure _

variable {faults : Fault → Prop}

/-- Behind the name of a package stands its optional line and the parenthesis. -/
theorem built_packageTail (name : Text) (id : Int) :
    Built faults (optional parentPackageLine >>= fun parent =>
      token ")".toList >>= fun _ => pure (Entity.packageRecord name id parent)) :=
  (Built.straight straight_parentPackageLine).optional.bind fun _ =>
    .straight ((straight_token _).bind fun _ => .pure _)

/-- The record of a package is built with its optional line. -/
theorem built_packageRecord : Built faults packageRecord :=
  (Built.straight (straight_thenSeparator (straight_entityId _))).bind fun id =>
    (Built.straight straight_nameField).bind fun name => built_packageTail name id

/-- The records of all kinds are built from scanning parsers. -/
theorem built_recordParserOf (kind : Kind) : Built faults (recordParserOf kind) := by
  by_cases h : kind = .packages
  · subst h
    exact built_packageRecord
  · exact .straight (straight_recordParserOf h)

/-- The choice between the kinds is built from their records. -/
theorem built_entity : Built faults entity := by
  refine Built.oneOf fun alternative hmem => ?_
  obtain ⟨kind, rfl⟩ := mem_recordParsers_iff.mp hmem
  exact built_recordParserOf kind

/-- A model is built from its records, the only repetition in the grammar. -/
theorem built_model : Built faults model :=
  (Built.straight (straight_token _)).bind fun _ =>
    (built_entity.many (.straight straight_separator)).bind fun _ =>
      (Built.straight (straight_token _)).bind fun _ => .straight (.pure _)

/-- The model grammar stops in front of a numeral that is too long, and nowhere else. -/
theorem orderly_model : Orderly IsLongNumeral model := built_model.orderly_of_isLongNumeral

end Grammar

open Grammar

/-- A text stops the reading only with a numeral in it that is too long. -/
theorem exists_isLongNumeral_of_readModel_eq_error {text : Text} {cause : Fault}
    (h : readModel text = .error cause) : ∃ place, Parser.IsLongNumeral text place cause := by
  obtain ⟨offset, hreply⟩ := Parser.read_eq_error_iff.mp h
  have horderly := orderly_model.reply (Parser.allowance text 0) text 0
  rw [show model.run (Parser.allowance text 0) text (0 : Nat) = ⟨.fault cause, offset⟩ from hreply]
    at horderly
  cases horderly with
  | fault _ reached _ _ hcause =>
    rcases hcause with hlong | ⟨-, hrounds⟩
    · exact ⟨reached, hlong⟩
    · -- there are more rounds than characters
      have hless := Parser.length_lt_allowance text 0
      omega

/-- Where all runs of digits fit, no numeral is too long. -/
theorem Grammar.DigitRunsFit.not_isLongNumeral {text : Text} (hfit : DigitRunsFit text)
    (place : Nat) (cause : Fault) : ¬ Parser.IsLongNumeral text place cause := by
  rintro ⟨hlong, -⟩
  -- the numeral would be a run of digits of the text
  have hrun : (text.drop place).takeWhile Char.isDigit <:+: text :=
    (List.takeWhile_prefix _).isInfix.trans (List.drop_suffix place text).isInfix
  have hle := hfit _ hrun fun c hc => List.mem_takeWhile_imp hc
  omega

/-- A text whose runs of digits fit is read. -/
theorem exists_readModel_eq_ok {text : Text} (hfit : DigitRunsFit text) :
    ∃ reading, readModel text = .ok reading := by
  cases h : readModel text with
  | ok reading => exact ⟨reading, rfl⟩
  | error cause =>
    obtain ⟨place, hlong⟩ := exists_isLongNumeral_of_readModel_eq_error h
    exact absurd hlong (hfit.not_isLongNumeral place cause)

end Famix
