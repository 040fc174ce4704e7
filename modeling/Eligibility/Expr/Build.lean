import Eligibility.Expr.Basic

/-!
Expressions built in code: comparisons of a profile field with constants, and
the connectives, of which chains stay flat.
-/

set_option autoImplicit false

namespace Eligibility

namespace Expr

def read (path : String) : Expr := .var path none

/-- Adds an operand to a call of the connective, or makes such a call. -/
def join (connective : String) (left right : Expr) : Expr :=
  match left with
  | .call operator args =>
    if operator = connective then .call operator (args ++ [right])
    else .call connective [left, right]
  | _ => .call connective [left, right]

def and (left right : Expr) : Expr := join "and" left right

def or (left right : Expr) : Expr := join "or" left right

def not (e : Expr) : Expr := .call "!" [e]

end Expr

structure Field where
  path : String

namespace Field

def compare (operator : String) (field : Field) (value : Value) : Expr :=
  .call operator [.read field.path, .literal value]

def is (comparison : Comparison) (field : Field) (value : Value) : Expr :=
  field.compare comparison.symbol value

def between (field : Field) (low high : Value) : Expr :=
  .call "<=" [.literal low, .read field.path, .literal high]

def oneOf (field : Field) (values : List Value) : Expr :=
  .call "in" [.read field.path, .literal (.list values)]

def isTrue (field : Field) : Expr := field.compare "===" (.bool true)

end Field

end Eligibility
