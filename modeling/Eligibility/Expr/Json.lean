import Eligibility.Expr.Basic
import Eligibility.Value.Json
import Eligibility.Failure

/-!
Expressions and JSON. An object with one key is a call of that operator, or a
read of the context when the key is `var`; an array of constants is itself a
constant.
-/

set_option autoImplicit false

namespace Eligibility.Expr

def literal? : Expr → Option Value
  | .literal value => some value
  | _ => none

/-- The expression of an array: a constant when all its items are. -/
def ofItems (items : List Expr) : Expr :=
  match items.mapM literal? with
  | some values => .literal (.list values)
  | none => .list items

/-- The path of a read; null is the empty path. -/
def pathOf : Json → Except Failure String
  | .null => .ok ""
  | .text s => .ok s
  | .number n => .ok n.text
  | other => .error (.invalidRule (.variablePath other))

mutual

def ofOperand : Json → Except Failure Expr
  | .object [(operator, argument)] =>
    if operator = "var" then
      match argument with
      | .array [] => .ok (.var "" none)
      | .array [path] => do return .var (← pathOf path) none
      | .array (path :: fallback :: _) => do
        let fallback ← ofOperand fallback
        return .var (← pathOf path) (some fallback)
      | path => do return .var (← pathOf path) none
    else
      match argument with
      | .array items => do return .call operator (← ofOperands items)
      | single => do return .call operator [← ofOperand single]
  | .object fields => .error (.invalidRule (.keyCount fields.length))
  | .array items => do return ofItems (← ofOperands items)
  | scalar => .ok (.literal (Value.ofJson scalar))

def ofOperands : List Json → Except Failure (List Expr)
  | [] => .ok []
  | item :: rest => do
    let item ← ofOperand item
    return item :: (← ofOperands rest)

end

def ofJson (json : Json) : Except Failure Expr :=
  if json.isNull then .error (.invalidRule .nullExpression) else ofOperand json

mutual

def toJson : Expr → Json
  | .literal value => value.toJson
  | .list items => .array (toJsonAll items)
  | .var path none => .object [("var", .text path)]
  | .var path (some fallback) => .object [("var", .array [.text path, toJson fallback])]
  | .call operator args => .object [(operator, .array (toJsonAll args))]

def toJsonAll : List Expr → List Json
  | [] => []
  | item :: rest => toJson item :: toJsonAll rest

end

def display (e : Expr) : String := e.toJson.render

end Eligibility.Expr
