/-
The values that a described parser can produce, and the mapping functions that a description
may name, with the classes of characters.

What a description yields is known only when it runs, so one type holds all values: texts,
numbers, flags, nothing, tuples from sequences, lists from repetitions, and records of a
model. A mapping treats the value of an accepting parser. It may fail on a value that it
cannot treat, and `refuse` turns every acceptance into a mismatch.
-/
import Famix.Entity.Basic
import Famix.Parser.Basic

set_option autoImplicit false

namespace Famix

/-! ## Values -/

/-- A value produced by a described parser. -/
inductive Value where
  | text (content : Text)
  | flag (holds : Bool)
  | number (value : Int)
  | absent
  | tuple (items : List Value)
  | list (items : List Value)
  | record (entity : Entity)
deriving Repr

/-- The shape of a value. -/
def Value.shape : Value → Shape
  | text _ => .text
  | flag _ => .flag
  | number _ => .number
  | absent => .absent
  | tuple _ => .tuple
  | list _ => .list
  | record entity => .record entity.kind.name

mutual

/-- Whether all numbers in a value can be written. -/
def Value.isWritable : Value → Bool
  | text _ => true
  | flag _ => true
  | number value => isWritableNumber value
  | absent => true
  | tuple items => areWritable items
  | list items => areWritable items
  | record entity => entity.isWritable

/-- Whether all numbers in several values can be written. -/
def Value.areWritable : List Value → Bool
  | [] => true
  | value :: values => isWritable value && areWritable values

end

/-! ## Mappings -/

/-- The mapping functions by name. -/
inductive Mapping where
  /-- Twice the number, or the text, list or tuple written twice. -/
  | double
  /-- The number of characters or items. -/
  | measure
  /-- Always the same value. -/
  | constant (value : Value)
  /-- The item at an index; negative indices count from the end. -/
  | index (place : Int)
  /-- The value as the only item of a list. -/
  | enlist
  | refuse

namespace Mapping

/-- The item at an index, where -1 is the last one. -/
def itemAt {α : Type} (items : List α) (place : Int) : Option α :=
  let position := if place < 0 then place + items.length else place
  if position < 0 then none else items[position.toNat]?

/-- An item or the fault that there is none at the index. -/
def pick (items : List Value) (shape : Shape) (place : Int) : Verdict Value :=
  match itemAt items place with
  | some value => .accept value
  | none => .fault (.indexOutside shape)

/-- What a mapping makes of a value. -/
def apply : Mapping → Value → Verdict Value
  | double, .text content => .accept (.text (content ++ content))
  | double, .number value => .accept (.number (value * 2))
  | double, .flag holds => .accept (.number (if holds then 2 else 0))
  | double, .tuple items => .accept (.tuple (items ++ items))
  | double, .list items => .accept (.list (items ++ items))
  | double, value => .fault (.unsuited .doubling value.shape)
  | measure, .text content => .accept (.number content.length)
  | measure, .tuple items => .accept (.number items.length)
  | measure, .list items => .accept (.number items.length)
  | measure, value => .fault (.unsuited .measuring value.shape)
  | constant value, _ => .accept value
  | index place, .text content =>
    pick (content.map fun c => .text [c]) .text place
  | index place, .tuple items => pick items .tuple place
  | index place, .list items => pick items .list place
  | index _, value => .fault (.unsuited .indexing value.shape)
  | enlist, value => .accept (.list [value])
  | refuse, _ => .reject

end Mapping

/-- The classes of characters by name. -/
inductive CharClass where
  | equalTo (text : Text)
  | differentFrom (text : Text)
  | among (text : Text)
  | notAmong (text : Text)
  | all
  | never
deriving DecidableEq, Repr

/-- Whether a character belongs to a class. A character equals a text only if the text
consists of that character alone. -/
def CharClass.holds : CharClass → Char → Bool
  | equalTo text, c => text == [c]
  | differentFrom text, c => text != [c]
  | among text, c => text.contains c
  | notAmong text, c => !text.contains c
  | all, _ => true
  | never, _ => false

/-- The items of a value that can be listed. -/
def Value.items : Value → Verdict (List Value)
  | tuple items => .accept items
  | list items => .accept items
  | text content => .accept (content.map fun c => .text [c])
  | value => .fault (.unsuited .listing value.shape)

end Famix
