/-
Descriptions of parsers as data, and the parser that a description stands for.

A description is a tree whose leaves look at characters, refer to a rule of the grammar,
or leap, and whose inner nodes combine. A rule yields what its parser yields, as a value;
rules that only recognise something yield nothing. Leaps are the ill-behaved leaves: they
move the reading position by any amount without looking and need not clean up when they
reject. A mapping may turn an acceptance into a mismatch although the position has moved.
So every way in which a part can misbehave is expressible, and what the combinations
guarantee for all parts can be stated.
-/
import Famix.Description.Mapping
import Famix.Grammar.Model
import Famix.Text.Quoted

set_option autoImplicit false

namespace Famix

/-! ## Rules by name -/

/-- The rules that a description may refer to. -/
inductive Rule where
  | spaces
  | separator
  | nameField
  | signatureField
  | locField
  | refField (tag : Text)
  | entityId (tag : Text)
  | entityTag (tag : Text)
  | namespaceRecord
  | packageRecord
  | classRecord
  | methodRecord
  | attributeRecord
  | inheritanceRecord
  | entity
  | model
deriving DecidableEq, Repr

namespace Rule

/-- A parser with its value made a `Value`. -/
def typed {α : Type} (parser : Parser α) (value : α → Value) : Parser Value :=
  parser.transform fun a => .accept (value a)

/-- The parser of a rule. -/
def parser : Rule → Parser Value
  | spaces => typed Grammar.spaces fun _ => .absent
  | separator => typed Grammar.separator fun _ => .absent
  | nameField => typed Grammar.nameField .text
  | signatureField => typed Grammar.signatureField .text
  | locField => typed Grammar.locField .number
  | refField tag => typed (Grammar.refField tag) .number
  | entityId tag => typed (Grammar.entityId tag) .number
  | entityTag tag => typed (Grammar.entityTag tag) fun _ => .absent
  | namespaceRecord => typed Grammar.namespaceRecord .record
  | packageRecord => typed Grammar.packageRecord .record
  | classRecord => typed Grammar.classRecord .record
  | methodRecord => typed Grammar.methodRecord .record
  | attributeRecord => typed Grammar.attributeRecord .record
  | inheritanceRecord => typed Grammar.inheritanceRecord .record
  | entity => typed Grammar.entity .record
  | model => typed Grammar.model fun entities => .list (entities.map .record)

/-- The way a rule is put together, as labels show it. -/
def label : Rule → Text
  | spaces => "prefix_while.map".toList
  | separator | nameField => "sequence.map".toList
  | signatureField | locField | refField _ | entityId _ => "sequence.map.map".toList
  | entityTag tag => "prefix(".toList ++ Text.quoted ("(FAMIX.".toList ++ tag) ++ ").map".toList
  | namespaceRecord | packageRecord | classRecord | methodRecord | attributeRecord
  | inheritanceRecord => "sequence.map".toList
  | entity => "one_of".toList
  | model => "sequence.map.map".toList

end Rule

/-! ## Descriptions -/

namespace Parser

/-- Moves the reading position by `shift` without looking, and accepts or rejects there. -/
def leap (shift : Int) (accepts : Bool) : Parser Value :=
  ⟨fun _ _ offset =>
    ⟨if accepts then .accept (.text "rogue".toList) else .reject, offset + shift⟩⟩

end Parser

/-- A description of a parser. -/
inductive Description where
  | literal (text : Text)
  | takeWhile (belongs : Char → Bool)
  | through (delimiter : Text)
  | number
  | leap (shift : Int) (accepts : Bool)
  | rule (rule : Rule)
  | sequence (parts : List Description)
  | optional (part : Description)
  | oneOf (alternatives : List Description)
  | many (element separator : Description)
  | map (part : Description) (treat : Value → Verdict Value)

namespace Description

/-! ## What a description stands for -/

mutual

/-- The parser that a description stands for. -/
def parser : Description → Parser Value
  | literal text => (Parser.literal text).transform fun t => .accept (.text t)
  | takeWhile belongs => (Parser.takeWhile belongs).transform fun t => .accept (.text t)
  | through delimiter => (Parser.through delimiter).transform fun t => .accept (.text t)
  | number => Parser.number.transform fun n => .accept (.number n)
  | leap shift accepts => Parser.leap shift accepts
  | rule r => r.parser
  | sequence parts =>
    (Parser.sequence (parsers parts)).transform fun items => .accept (.tuple items)
  | optional part =>
    (Parser.optional (parser part)).transform fun value? => .accept (value?.getD .absent)
  | oneOf alternatives => Parser.oneOf (parsers alternatives)
  | many element separator =>
    (Parser.many (parser element) (parser separator)).transform fun items =>
      .accept (.list items)
  | map part treat => (parser part).transform treat

/-- The parsers that the members of a list stand for. -/
def parsers : List Description → List (Parser Value)
  | [] => []
  | part :: parts => parser part :: parsers parts

end

/-! ## Reading -/

mutual

/-- How far all leaps of a description lead together, in either direction. -/
def reach : Description → Nat
  | leap shift _ => shift.natAbs
  | sequence parts => reaches parts
  | optional part => reach part
  | oneOf alternatives => reaches alternatives
  | many element separator => reach element + reach separator
  | map part _ => reach part
  | _ => 0

/-- How far all leaps of several descriptions lead together. -/
def reaches : List Description → Nat
  | [] => 0
  | part :: parts => reach part + reaches parts

end

mutual

/-- The number of parts of a description, itself included. -/
def size : Description → Nat
  | sequence parts => sizes parts + 1
  | optional part => size part + 1
  | oneOf alternatives => sizes alternatives + 1
  | many element separator => size element + size separator + 1
  | map part _ => size part + 1
  | _ => 1

/-- The number of parts of several descriptions. -/
def sizes : List Description → Nat
  | [] => 0
  | part :: parts => size part + sizes parts

end

/-- The parser that reads a text by a description. Farther from the text than all leaps and
all fixed texts lead together every place is like the next one, so a repetition that ends
has no more rounds than there are places up to there. -/
def reader (description : Description) : Parser Value :=
  description.parser.granting fun rounds =>
    (rounds + description.reach) * (description.size + 2)

/-! ## Labels -/

/-- The label of a description shows its outermost construction, and for optional parts,
repetitions and mappings also that of the part inside. -/
def label : Description → Text
  | literal text => "prefix(".toList ++ Text.quoted text ++ ")".toList
  | takeWhile _ => "prefix_while".toList
  | through delimiter => "prefix_through(".toList ++ Text.quoted delimiter ++ ")".toList
  | number => "integer".toList
  | leap _ _ => "rogue".toList
  | rule r => r.label
  | sequence _ => "sequence".toList
  | optional part => "optional(".toList ++ label part ++ ")".toList
  | oneOf _ => "one_of".toList
  | many element _ => "zero_or_more(".toList ++ label element ++ ")".toList
  | map part _ => label part ++ ".map".toList

/-- The label between the marks that say it names a parser. -/
def title (description : Description) : Text :=
  "<Parser ".toList ++ label description ++ ">".toList

/-- A place in a source with the first characters that are ahead of it. -/
def placeTitle (source : Text) (offset : Int) : Text :=
  "Cursor(offset=".toList ++ Text.ofInt offset ++ ", rest=".toList ++
    Text.quoted ((source.rest offset).take 24) ++ ")".toList

/-! ## Derived forms -/

/-- The separator of a repetition for which none is given: the empty text. -/
def noSeparator : Description := literal []

/-- Recognises without yielding anything. -/
def skip (part : Description) : Description := map part fun _ => .accept .absent

/-- Two parts in a row, with both values. -/
def both (first second : Description) : Description := sequence [first, second]

/-- Two parts in a row, with the first value only. -/
def keepFirst (first second : Description) : Description :=
  map (both first second) fun
    | .tuple (value :: _) => .accept value
    | value => .accept value

/-- A part and a separator of the grammar behind it. -/
def thenSeparator (part : Description) : Description := keepFirst part (rule .separator)

/-- A part and a closing parenthesis behind it. -/
def thenClose (part : Description) : Description := keepFirst part (literal ")".toList)

end Description

end Famix
