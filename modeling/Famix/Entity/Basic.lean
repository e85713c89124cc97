/-
The records of a FAMIX model. There are six kinds. Numbers are identifiers and
references exactly as the source writes them: nothing is resolved, and two records are
the same record when kind and fields agree.

`describe` is the one-line account of a record for a reader; `fields` lists its fields
in the order in which they are declared, for the snapshot format and for inspection.
-/
import Famix.Fault

set_option autoImplicit false

namespace Famix

/-- The six kinds of record. -/
inductive Kind where
  | namespaces
  | packages
  | classes
  | methods
  | attributes
  | inheritances
deriving DecidableEq, Repr

namespace Kind

/-- The name by which reports and snapshots call a kind. -/
def name : Kind → Text
  | namespaces => "Namespace".toList
  | packages => "Package".toList
  | classes => "Class".toList
  | methods => "Method".toList
  | attributes => "Attribute".toList
  | inheritances => "Inheritance".toList

/-- Different kinds have different names. -/
theorem name_injective {k l : Kind} : k.name = l.name → k = l := by
  cases k <;> cases l <;> decide

end Kind

/-- A record of a FAMIX model. -/
inductive Entity where
  | namespaceRecord (name : Text) (id : Int)
  /-- The only record with a field that may be absent. -/
  | packageRecord (name : Text) (id : Int) (parentPackage : Option Int)
  | classRecord (name : Text) (id : Int) (container : Int) (parentPackage : Int)
  /-- Methods carry no identifier of their own. -/
  | methodRecord (name : Text) (signature : Text) (parentType : Int) (loc : Int)
  | attributeRecord (name : Text) (parentType : Int)
  | inheritanceRecord (subclass : Int) (superclass : Int)
deriving DecidableEq, Repr

/-- The content of one field. -/
inductive Field where
  | text (content : Text)
  | number (value : Int)
  | absent
deriving DecidableEq, Repr

/-- A field that holds a number or nothing. -/
def Field.ofNumber? : Option Int → Field
  | some value => .number value
  | none => .absent

namespace Entity

/-- The kind of a record. -/
def kind : Entity → Kind
  | namespaceRecord .. => .namespaces
  | packageRecord .. => .packages
  | classRecord .. => .classes
  | methodRecord .. => .methods
  | attributeRecord .. => .attributes
  | inheritanceRecord .. => .inheritances

/-- Field names with their contents, in the order of declaration. -/
def fields : Entity → List (Text × Field)
  | namespaceRecord name id =>
    [("name".toList, .text name), ("id".toList, .number id)]
  | packageRecord name id parentPackage =>
    [("name".toList, .text name), ("id".toList, .number id),
      ("parent_package".toList, Field.ofNumber? parentPackage)]
  | classRecord name id container parentPackage =>
    [("name".toList, .text name), ("id".toList, .number id),
      ("container".toList, .number container), ("parent_package".toList, .number parentPackage)]
  | methodRecord name signature parentType loc =>
    [("name".toList, .text name), ("signature".toList, .text signature),
      ("parent_type".toList, .number parentType), ("loc".toList, .number loc)]
  | attributeRecord name parentType =>
    [("name".toList, .text name), ("parent_type".toList, .number parentType)]
  | inheritanceRecord subclass superclass =>
    [("subclass".toList, .number subclass), ("superclass".toList, .number superclass)]

/-- Whether all numbers of a record can be written. -/
def isWritable (entity : Entity) : Bool :=
  entity.fields.all fun
    | (_, .number value) => isWritableNumber value
    | _ => true

/-- One line that tells a reader what the record says. -/
def describe : Entity → Text
  | namespaceRecord name id =>
    "FAMIX.namespace, name: ".toList ++ name ++ ", id: ".toList ++ Text.ofInt id
  | packageRecord name id parentPackage =>
    "FAMIX.package, name: ".toList ++ name ++ ", id: ".toList ++ Text.ofInt id ++
      ", parentPackageID: ".toList ++
      (match parentPackage with
        | some parent => Text.ofInt parent
        | none => "None".toList)
  | classRecord name id container parentPackage =>
    "FAMIX.class, name: ".toList ++ name ++ ", id: ".toList ++ Text.ofInt id ++
      ", container: ".toList ++ Text.ofInt container ++
      ", parentPackage: ".toList ++ Text.ofInt parentPackage
  | methodRecord name signature parentType loc =>
    "FAMIX.method, name: ".toList ++ name ++ ", signature: ".toList ++ signature ++
      ", parentType: ".toList ++ Text.ofInt parentType ++ ", LOC: ".toList ++ Text.ofInt loc
  | attributeRecord name parentType =>
    "FAMIX.attribute, name: ".toList ++ name ++ ", parentID: ".toList ++ Text.ofInt parentType
  | inheritanceRecord subclass superclass =>
    "FAMIX.inheritance, subclassID: ".toList ++ Text.ofInt subclass ++
      ", superclassID: ".toList ++ Text.ofInt superclass

end Entity

end Famix
