/-
Expressions, as far as the arguments of an action need them. What can be a literal is kept
with its parts; of all else only the kind is kept.
-/
import Famix.Text.Basic

set_option autoImplicit false

namespace Famix.Action

/-- The kinds of expressions, as messages tell them apart. -/
inductive ExprKind where
  | name
  | member
  | starred
  | tuple
  | lambda
  | call
  | operation
  | comparison
  | conditional
  | binding
  | generator
  | yield
  | await
  | setGenerator
  | dictGenerator
  | dict
  | set
  | formattedText
  | nothing
  | falsehood
  | truth
  | ellipsis
  | literal
deriving DecidableEq, Repr

/-- The words for a kind. -/
def ExprKind.words : ExprKind → Text
  | name => "name".toList
  | member => "attribute".toList
  | starred => "starred".toList
  | tuple => "tuple".toList
  | lambda => "lambda".toList
  | call => "function call".toList
  | operation => "expression".toList
  | comparison => "comparison".toList
  | conditional => "conditional expression".toList
  | binding => "named expression".toList
  | generator => "generator expression".toList
  | yield => "yield expression".toList
  | await => "await expression".toList
  | setGenerator => "set comprehension".toList
  | dictGenerator => "dict comprehension".toList
  | dict => "dict literal".toList
  | set => "set display".toList
  | formattedText => "f-string expression".toList
  | nothing => "None".toList
  | falsehood => "False".toList
  | truth => "True".toList
  | ellipsis => "ellipsis".toList
  | literal => "literal".toList

/-- Values that are written as one word, numeral or quotation. -/
inductive Constant where
  | nothing
  | falsehood
  | truth
  | ellipsis
  | number (imaginary : Bool)
  | text
deriving DecidableEq, Repr

/-- The kind of a constant. -/
def Constant.kind : Constant → ExprKind
  | nothing => .nothing
  | falsehood => .falsehood
  | truth => .truth
  | ellipsis => .ellipsis
  | number _ => .literal
  | text => .literal

/-- What an argument of a call is. -/
inductive Argument where
  | plain
  | starred
  | keyword
  /-- All entries of a dictionary as keywords. -/
  | unpacked
deriving DecidableEq, Repr

/-- An expression. -/
inductive Expr where
  | constant (constant : Constant)
  | name (name : Text)
  | tuple (elements : List Expr)
  | set (elements : List Expr)
  | dict (entries : List Expr)
  /-- A key with its value, in a dictionary. -/
  | entry (key value : Expr)
  /-- The entries of another dictionary, in a dictionary. -/
  | unpacked (source : Expr)
  | starred (source : Expr)
  /-- An operand behind a plus or minus sign. -/
  | signed (operand : Expr)
  /-- A sum or a difference. -/
  | sum (left right : Expr)
  /-- A comparison; `membership` says whether the first one asks for membership. -/
  | comparison (membership : Bool) (left : Expr)
  | call (function : Expr) (arguments : List Argument)
  /-- The arguments of a call by themselves. -/
  | arguments (arguments : List Argument)
  /-- Any other expression. -/
  | other (kind : ExprKind)
deriving Repr

namespace Expr

/-- The kind of an expression. -/
def kind : Expr → ExprKind
  | constant c => c.kind
  | name _ => .name
  | tuple _ => .tuple
  | set _ => .set
  | dict _ => .dict
  | entry _ _ => .dict
  | unpacked _ => .dict
  | starred _ => .starred
  | signed _ => .operation
  | sum _ _ => .operation
  | comparison _ _ => .comparison
  | call _ _ => .call
  | arguments _ => .call
  | other kind => kind

mutual

/-- The kind of the first part of an expression that cannot take a value in a loop, if
there is one. -/
def badTarget? : Expr → Option ExprKind
  | tuple elements => badTargets? elements
  | starred source => source.badTarget?
  | comparison true left => left.badTarget?
  | comparison false _ => none
  | name _ => none
  | other .member => none
  | expr => some expr.kind

/-- The same for a row of expressions. -/
def badTargets? : List Expr → Option ExprKind
  | [] => none
  | expr :: exprs => expr.badTarget?.or (badTargets? exprs)

end

end Expr

end Famix.Action
