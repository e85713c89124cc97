/-
Drafts: descriptions before they are checked. A draft may put something that is no
parser where a parser is expected, and a sequence of the wrong length. Checking works
from left to right and from the inside out, and a part that is asked to do what only
parsers do is asked before the parts behind it are looked at; the first mistake found is
the one reported. A draft that is as a whole no parser is none, but still has a name.
-/
import Famix.Description.Basic
import Famix.Description.Mapping

set_option autoImplicit false

namespace Famix

/-- Things that are no parsers. -/
inductive Stray where
  | text (content : Text)
  | absent
  | number (value : Int)
  | list (items : List Text)
  | flag (holds : Bool)
deriving DecidableEq, Repr

/-- The shape of a thing that is no parser. -/
def Stray.shape : Stray → Shape
  | text _ => .text
  | absent => .absent
  | number _ => .number
  | list _ => .list
  | flag _ => .flag

/-- A thing that is no parser, written out. -/
def Stray.title : Stray → Text
  | text content => Text.quoted content
  | absent => "None".toList
  | number value => Text.ofInt value
  | list items => ['['] ++ List.intercalate ", ".toList (items.map Text.quoted) ++ [']']
  | flag true => "True".toList
  | flag false => "False".toList

/-- Why a draft describes no parser. -/
inductive DraftError where
  /-- A sequence has fewer than two or more than five parts. -/
  | badLength (count : Nat)
  /-- A thing that is no parser stands where a parser is needed. -/
  | notAParser (shape : Shape)
  /-- The alternatives are not given as a collection. -/
  | notACollection (shape : Shape)
  /-- A thing that is no parser is asked to do what only parsers do. -/
  | cannot (shape : Shape) (demand : Demand)
deriving DecidableEq, Repr

/-- A mistake of a draft in words. -/
def DraftError.message : DraftError → Text
  | badLength count => "sequence() takes 2 to 5 parsers, got ".toList ++ Text.ofNat count
  | notAParser shape => "Expected a Parser, got ".toList ++ shape.word
  | notACollection shape => "'".toList ++ shape.word ++ "' object is not iterable".toList
  | cannot shape demand => demand.refusal shape

/-- An unchecked description. -/
inductive Draft where
  | stray (thing : Stray)
  | literal (text : Text)
  | takeWhile (chars : CharClass)
  | through (delimiter : Text)
  | number
  | leap (shift : Int) (accepts : Bool)
  | rule (rule : Rule)
  | sequence (parts : List Draft)
  | skip (part : Draft)
  | optional (part : Draft)
  | oneOf (alternatives : List Draft)
  /-- The alternatives as one collection. -/
  | oneOfAll (alternatives : List Draft)
  | many (element : Draft) (separator : Option Draft)
  | keepFirst (first second : Draft)
  | both (first second : Draft)
  | repeated (element : Draft) (separator : Option Draft)
  | map (part : Draft) (mapping : Mapping)
  | thenSeparator (part : Draft)
  | thenClose (part : Draft)

/-- The outcome of checking a part: a description, or a thing that is no parser. -/
inductive Term where
  | parser (description : Description)
  | stray (thing : Stray)

namespace Term

/-- The description, where a parser is needed. -/
def expect : Term → Except DraftError Description
  | parser description => .ok description
  | stray thing => .error (.notAParser thing.shape)

/-- The description, where a parser is asked to do something. -/
def demand (what : Demand) : Term → Except DraftError Description
  | parser description => .ok description
  | stray thing => .error (.cannot thing.shape what)

/-- A sequence of two to five parts. The parts are examined before they are counted. -/
def sequence (parts : List Term) : Except DraftError Description := do
  let descriptions ← parts.mapM expect
  if 2 ≤ descriptions.length ∧ descriptions.length ≤ 5 then
    .ok (.sequence descriptions)
  else .error (.badLength descriptions.length)

/-- A choice. A single thing that is no parser is taken for the collection of the
alternatives, and the members of texts and lists are no parsers either. -/
def oneOf : List Term → Except DraftError Description
  | [stray (.text [])] | [stray (.list [])] => .ok (.oneOf [])
  | [stray (.text (_ :: _))] | [stray (.list (_ :: _))] => .error (.notAParser .text)
  | [stray thing] => .error (.notACollection thing.shape)
  | alternatives => do
    let descriptions ← alternatives.mapM expect
    .ok (.oneOf descriptions)

/-- A repetition. Nothing in place of the separator means that there is none. -/
def many (element : Term) (separator : Option Term) : Except DraftError Description := do
  let separator := match separator with
    | none | some (stray .absent) => parser .noSeparator
    | some term => term
  let element ← element.expect
  let separator ← separator.expect
  .ok (.many element separator)

/-- What the outcome is called when it is shown. -/
def title : Term → Text
  | parser description => description.title
  | stray thing => thing.title

/-- The parser to read with. A thing that is no parser stops every reading at once. -/
def reader (what : Demand) : Term → Parser Value
  | parser description => description.reader
  | stray thing => Parser.stop (.cannot thing.shape what)

end Term

namespace Draft

mutual

/-- Checks a draft. -/
def check : Draft → Except DraftError Term
  | stray thing => .ok (.stray thing)
  | literal text => .ok (.parser (.literal text))
  | takeWhile chars => .ok (.parser (.takeWhile chars.holds))
  | through delimiter => .ok (.parser (.through delimiter))
  | number => .ok (.parser .number)
  | leap shift accepts => .ok (.parser (.leap shift accepts))
  | rule r => .ok (.parser (.rule r))
  | sequence parts => do
    let parts ← checkAll parts
    .parser <$> Term.sequence parts
  | skip part => do
    let part ← check part
    let description ← part.demand .map
    .ok (.parser description.skip)
  | optional part => do
    let part ← check part
    let description ← part.expect
    .ok (.parser (.optional description))
  | oneOf alternatives => do
    let alternatives ← checkAll alternatives
    .parser <$> Term.oneOf alternatives
  | oneOfAll alternatives => do
    let alternatives ← checkAll alternatives
    let descriptions ← alternatives.mapM Term.expect
    .ok (.parser (.oneOf descriptions))
  | many element none => do
    let element ← check element
    .parser <$> Term.many element none
  | many element (some separator) => do
    let element ← check element
    let separator ← check separator
    .parser <$> Term.many element (some separator)
  | keepFirst first second => do
    let first ← check first
    let first ← first.demand .skip
    let second ← check second
    let second ← second.expect
    .ok (.parser (.keepFirst first second))
  | both first second => do
    let first ← check first
    let first ← first.demand .take
    let second ← check second
    let second ← second.expect
    .ok (.parser (.both first second))
  | repeated element none => do
    let element ← check element
    let element ← element.demand .zeroOrMore
    .parser <$> Term.many (.parser element) none
  | repeated element (some separator) => do
    let element ← check element
    let element ← element.demand .zeroOrMore
    let separator ← check separator
    .parser <$> Term.many (.parser element) (some separator)
  | map part mapping => do
    let part ← check part
    let description ← part.demand .map
    .ok (.parser (.map description mapping.apply))
  | thenSeparator part => do
    let part ← check part
    let description ← part.demand .skip
    .ok (.parser description.thenSeparator)
  | thenClose part => do
    let part ← check part
    let description ← part.demand .skip
    .ok (.parser description.thenClose)

/-- Checks the members of a list, the first one first. -/
def checkAll : List Draft → Except DraftError (List Term)
  | [] => .ok []
  | part :: parts => do
    let part ← check part
    let parts ← checkAll parts
    .ok (part :: parts)

end

end Draft

end Famix
