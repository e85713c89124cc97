/-
The syntax of models, and reading a whole text.

Layout matters only at separators: a newline and any number of spaces. Numeric fields are
lenient behind their digits: whatever stands before the closing parentheses is skipped
together with them. There are six record shapes, each with its fields in a fixed order. A
record is closed by its last parenthesis and followed, inside the list that holds a whole
model, by a separator and the next record or by the parenthesis that closes the list.

Reading yields the records that a text begins with, and what is left of it. It is a function
of the text alone, and generic in what the parser yields, so that any parser of lists can
take the place of the model grammar.
-/
import Famix.Entity.Basic
import Famix.Parser.Basic
import Famix.Text.Character

set_option autoImplicit false

namespace Famix.Grammar

open Famix.Parser

/-! ## Fields -/

/-- Any number of spaces. -/
def spaces : Parser Unit := do
  let _ ← takeWhile (· == ' ')

/-- A newline and any number of spaces. -/
def separator : Parser Unit := do
  token "\n".toList
  spaces

/-- The characters that a quoted field may hold: all but the quote. -/
def quotable (c : Char) : Bool := c != '\''

/-- The field `(name 'N')`, with any number of spaces before it; the name `N` holds no
quote. -/
def nameField : Parser Text := do
  spaces
  token "(name '".toList
  let name ← takeWhile quotable
  token "')".toList
  pure name

/-- The number of a field `(TAG (ref: n …))`, skipping everything up to the first `))`. -/
def refField (tag : Text) : Parser Int := do
  token ("(".toList ++ tag ++ " (ref: ".toList)
  let id ← number
  let _ ← through "))".toList
  pure id

/-- The number of an opening `(FAMIX.TAG (id: n …)`, skipping everything up to the first
`)`. -/
def entityId (tag : Text) : Parser Int := do
  token ("(FAMIX.".toList ++ tag ++ " (id: ".toList)
  let id ← number
  let _ ← through ")".toList
  pure id

/-- The opening `(FAMIX.TAG` of a record without an identifier. -/
def entityTag (tag : Text) : Parser Unit := token ("(FAMIX.".toList ++ tag)

/-- The field `(signature 'S'…)`: the signature `S` holds no quote; what follows its quote
is skipped up to the first `)`. -/
def signatureField : Parser Text := do
  token "(signature '".toList
  let signature ← takeWhile quotable
  let _ ← through ")".toList
  pure signature

/-- The field `(LOC n …))`. The second parenthesis closes the record, of which this is the
last field. -/
def locField : Parser Int := do
  token "(LOC ".toList
  let loc ← number
  let _ ← through "))".toList
  pure loc

/-- A field and the separator behind it. -/
def thenSeparator {α : Type} (field : Parser α) : Parser α := do
  let value ← field
  separator
  pure value

/-- A field and the parenthesis that closes the record. -/
def thenClose {α : Type} (field : Parser α) : Parser α := do
  let value ← field
  token ")".toList
  pure value

/-! ## Records and models -/

/-- A namespace: its identifier and its name. -/
def namespaceRecord : Parser Entity := do
  let id ← thenSeparator (entityId "Namespace".toList)
  let name ← nameField
  token ")".toList
  pure (.namespaceRecord name id)

/-- The parent of a package, with the separator before it. -/
def parentPackageLine : Parser Int := do
  separator
  refField "parentPackage".toList

/-- A package: its identifier, its name and, if it has one, its parent. -/
def packageRecord : Parser Entity := do
  let id ← thenSeparator (entityId "Package".toList)
  let name ← nameField
  let parentPackage ← optional parentPackageLine
  token ")".toList
  pure (.packageRecord name id parentPackage)

/-- A class: its identifier and its name, the namespace it is in and its package. -/
def classRecord : Parser Entity := do
  let id ← thenSeparator (entityId "Class".toList)
  let name ← thenSeparator nameField
  let container ← thenSeparator (refField "container".toList)
  let parentPackage ← thenClose (refField "parentPackage".toList)
  pure (.classRecord name id container parentPackage)

/-- A method: its name and signature, its class and its lines of code. The last field closes
the record. -/
def methodRecord : Parser Entity := do
  thenSeparator (entityTag "Method".toList)
  let name ← thenSeparator nameField
  let signature ← thenSeparator signatureField
  let parentType ← thenSeparator (refField "parentType".toList)
  let loc ← locField
  pure (.methodRecord name signature parentType loc)

/-- An attribute: its name and its class. -/
def attributeRecord : Parser Entity := do
  thenSeparator (entityTag "Attribute".toList)
  let name ← thenSeparator nameField
  let parentType ← thenClose (refField "parentType".toList)
  pure (.attributeRecord name parentType)

/-- An inheritance between two classes. -/
def inheritanceRecord : Parser Entity := do
  thenSeparator (entityTag "Inheritance".toList)
  let subclass ← thenSeparator (refField "subclass".toList)
  let superclass ← thenClose (refField "superclass".toList)
  pure (.inheritanceRecord subclass superclass)

/-- The record shapes, in the order in which they are tried. -/
def recordParsers : List (Parser Entity) :=
  [namespaceRecord, packageRecord, classRecord, methodRecord, attributeRecord,
    inheritanceRecord]

/-- Any record. -/
def entity : Parser Entity := oneOf recordParsers

/-- A parenthesised list of records with separators between them. -/
def model : Parser (List Entity) := do
  token "(".toList
  let entities ← many entity separator
  token ")".toList
  pure entities

end Famix.Grammar

namespace Famix

/-! ## Reading -/

/-- What was read from a text. -/
structure Reading (α : Type) where
  /-- The items in the order of the text; none if the text did not match. -/
  items : List α := []
  /-- Whether the text begins with what was looked for. -/
  matched : Bool := false
  /-- What is left unread. -/
  remainder : Text := []

namespace Reading

variable {α : Type}

/-- A complete reading leaves nothing but blanks. -/
def complete (reading : Reading α) : Bool := reading.matched && Text.allBlank reading.remainder

end Reading

/-- Reads a text from its beginning with a parser of lists. -/
def Parser.read {α : Type} (parser : Parser (List α)) (text : Text) :
    Except Fault (Reading α) :=
  let reply := parser.replyAt text 0
  match reply.verdict with
  | .accept items => .ok ⟨items, true, text.rest reply.offset⟩
  | .reject => .ok ⟨[], false, text.rest reply.offset⟩
  | .fault cause => .error cause

/-- Reads a model. -/
def readModel (text : Text) : Except Fault (Reading Entity) := Grammar.model.read text

end Famix
