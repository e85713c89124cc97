/-
What an action is asked to do: a name with arguments in brackets, or arguments alone.

The arguments must be literals, that is, expressions whose value is plain from how they are
written. The elements of a set and the keys of a dictionary must have a fixed value, which
sets and dictionaries do not have, and nothing that holds one of them.
-/
import Famix.Action.Expr
import Famix.Action.Grammar
import Famix.File.Utf8
import Famix.Text.Alphabet
import Famix.Text.Character
import Famix.Text.Quoted

set_option autoImplicit false

namespace Famix.Action

/-! ## Literals -/

/-- The collections that may change. -/
inductive Collection where
  | set
  | dict
deriving DecidableEq, Repr

/-- The word for a collection. -/
def Collection.word : Collection → Text
  | set => "set".toList
  | dict => "dict".toList

/-- Why an expression has no value. -/
inductive ValueError where
  | noLiteral
  /-- The entries of another dictionary, in a dictionary. -/
  | noKey
  /-- A collection stands where a fixed value is needed. -/
  | changeable (collection : Collection)
deriving DecidableEq, Repr

/-- A value error in words. -/
def ValueError.message : ValueError → Text
  | noLiteral => "malformed node or string on line 1".toList
  | noKey => "malformed node or string: None".toList
  | changeable collection => "unhashable type: '".toList ++ collection.word ++ "'".toList

namespace Expr

/-- Whether an expression is a number without a sign, and an imaginary one. -/
def number? : Expr → Option Bool
  | constant (.number imaginary) => some imaginary
  | _ => none

/-- Whether an expression is a number with at most one sign, and an imaginary one. -/
def signedNumber? : Expr → Option Bool
  | signed operand => operand.number?
  | expr => expr.number?

mutual

/-- What keeps the value of a literal from being fixed, if anything does. -/
def evaluate : Expr → Except ValueError (Option Collection)
  | constant _ => .ok none
  | tuple elements => evaluateAll elements
  | set elements => do
    evaluateFixed elements
    .ok (some .set)
  | dict entries => do
    evaluateEntries entries
    .ok (some .dict)
  | call (name function) [] =>
    if function = "set".toList then .ok (some .set) else .error .noLiteral
  | signed operand => if operand.number?.isSome then .ok none else .error .noLiteral
  | sum left right =>
    -- the two parts of a complex number
    if left.signedNumber? = some false ∧ right.number? = some true then .ok none
    else .error .noLiteral
  | _ => .error .noLiteral

/-- What keeps the values of a row from being fixed. -/
def evaluateAll : List Expr → Except ValueError (Option Collection)
  | [] => .ok none
  | expr :: exprs => do
    let first ← expr.evaluate
    let others ← evaluateAll exprs
    .ok (first.or others)

/-- Fails unless the values of a row are fixed. -/
def evaluateFixed : List Expr → Except ValueError Unit
  | [] => .ok ()
  | expr :: exprs => do
    match ← expr.evaluate with
    | some collection => .error (.changeable collection)
    | none => evaluateFixed exprs

/-- Fails unless the keys of a dictionary are fixed, and its values are literals. -/
def evaluateEntries : List Expr → Except ValueError Unit
  | [] => .ok ()
  | entry key value :: entries => do
    let found ← key.evaluate
    let _ ← value.evaluate
    match found with
    | some collection => .error (.changeable collection)
    | none => evaluateEntries entries
  | unpacked _ :: _ => .error .noKey
  | _ :: _ => .error .noLiteral

end

end Expr

end Famix.Action

namespace Famix

/-! ## Actions -/

/-- What an action is asked to do, as it is written. -/
structure Action where
  written : Text
deriving DecidableEq, Repr

/-- Why an action cannot be asked for. -/
inductive ActionError where
  /-- The arguments are no expression. -/
  | unreadable (arguments written : Text) (mistake : Action.Mistake)
  /-- The arguments have no value. -/
  | valueless (written : Text) (cause : Action.ValueError)
deriving DecidableEq, Repr

/-- An error of an action in words. -/
def ActionError.message : ActionError → Text
  | unreadable arguments written mistake =>
    "error parsing ".toList ++ Text.quoted arguments ++ " in ".toList ++ Text.quoted written ++
      "; ".toList ++ mistake.message
  | valueless written cause =>
    "error parsing ".toList ++ Text.quoted written ++ "; ".toList ++ cause.message

namespace Action

/-- Whether a character can stand in the name of an action. -/
def isNamePart (c : Char) : Bool := Text.isWordCharacter c || c == '.'

/-- The arguments of an action. Behind a name the brackets hold them, and a name alone has
none; what begins with no name, or goes on behind the brackets, is all arguments. -/
def arguments (action : Action) : Text :=
  let whole := Text.strip action.written
  let behind := whole.dropWhile isNamePart
  if behind.isEmpty then "()".toList
  else if behind.head? = some '(' ∧ behind.getLast? = some ')' ∧ !behind.contains '\n' then behind
  else whole

/-- Fails unless the arguments of an action are literals. -/
def check (action : Action) : Except ActionError Unit :=
  match Grammar.parse (Utf8.unifyLineEnds action.arguments) with
  | .error mistake => .error (.unreadable action.arguments action.written mistake)
  | .ok expr =>
    match expr.evaluate with
    | .error cause => .error (.valueless action.written cause)
    | .ok _ => .ok ()

end Action

end Famix
