import Eligibility.Evaluation.Walk
import Eligibility.Operator.Core
import Eligibility.Expr.Basic

/-!
The value of an expression in a context. Operands are evaluated from left to
right. The connectives stop at the operand that decides, and a choice evaluates
nothing but its conditions and the branch it takes.
-/

set_option autoImplicit false

namespace Eligibility

/-- Where operators are looked up: in the overlay first, if there is one. -/
structure Scope where
  base : Registry
  overlay : Option Registry

def Scope.get? (scope : Scope) (name : String) : Option Operator :=
  (scope.overlay.bind fun overlay => overlay.get? name).or (scope.base.get? name)

def Scope.call (scope : Scope) (name : String) (args : List Value) : Walk Value :=
  match scope.get? name with
  | some operator => Walk.call name operator args
  | none => Walk.fail (.operator name .unregistered)

namespace Expr

variable (ctx : Context) (scope : Scope)

mutual

def evaluate : Expr → Walk Value
  | .literal value => pure value
  | .list items => do
    let values ← evaluateAll items
    return .list values
  | .var path none => return (ctx.get? path).getD .null
  | .var path (some fallback) =>
    let answer := (ctx.get? path).getD .null
    if answer.isNull then evaluate fallback else pure answer
  | .call operator args =>
    match Connective.ofName? operator with
    | some .and => evaluateAnd (.bool true) args
    | some .or => evaluateOr (.bool false) args
    | some .choose => evaluateChoice args
    | none => do
      let values ← evaluateAll args
      match CoreOperator.ofName? operator with
      | some core => Walk.ofAnswer operator (core.apply ctx values)
      | none => scope.call operator values

def evaluateAll : List Expr → Walk (List Value)
  | [] => return []
  | item :: rest => do
    let value ← evaluate item
    let values ← evaluateAll rest
    return value :: values

def evaluateAnd (last : Value) : List Expr → Walk Value
  | [] => return last
  | item :: rest => do
    let value ← evaluate item
    if value.isTruthy then evaluateAnd value rest else return value

def evaluateOr (last : Value) : List Expr → Walk Value
  | [] => return last
  | item :: rest => do
    let value ← evaluate item
    if value.isTruthy then return value else evaluateOr value rest

/-- Conditions, each before its branch, and at the end what else to take. -/
def evaluateChoice : List Expr → Walk Value
  | [] => return .null
  | [otherwise] => evaluate otherwise
  | condition :: branch :: rest => do
    let value ← evaluate condition
    if value.isTruthy then evaluate branch else evaluateChoice rest

end

end Expr

end Eligibility
