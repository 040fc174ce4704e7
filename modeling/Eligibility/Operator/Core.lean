import Eligibility.Operator.Registry
import Eligibility.Context
import Eligibility.Text.Search

/-!
The operators that belong to the language of rules and cannot be registered
anew: connectives, which choose the operands that they evaluate, and core
operators, which work on the values of all their operands.
-/

set_option autoImplicit false

namespace Eligibility

inductive Connective where
  | and
  | or
  | choose
  deriving DecidableEq, Repr

def Connective.ofName? : String → Option Connective
  | "and" => some .and
  | "or" => some .or
  | "if" | "?:" => some .choose
  | _ => none

inductive CoreOperator where
  | looseEq
  | looseNe
  | strictEq
  | strictNe
  | ordered (comparison : Comparison)
  | not
  | truth
  | sum
  | product
  | minus
  | quotient
  | remainder
  | least
  | greatest
  | member
  | concat
  | missing
  | lookup
  deriving DecidableEq, Repr

namespace CoreOperator

def ofName? : String → Option CoreOperator
  | "==" => some .looseEq
  | "!=" => some .looseNe
  | "===" => some .strictEq
  | "!==" => some .strictNe
  | "<" => some (.ordered .lt)
  | "<=" => some (.ordered .le)
  | ">" => some (.ordered .gt)
  | ">=" => some (.ordered .ge)
  | "!" => some .not
  | "!!" => some .truth
  | "+" => some .sum
  | "*" => some .product
  | "-" => some .minus
  | "/" => some .quotient
  | "%" => some .remainder
  | "min" => some .least
  | "max" => some .greatest
  | "in" => some .member
  | "cat" => some .concat
  | "missing" => some .missing
  | "var" => some .lookup
  | _ => none

abbrev Answer := Except OperatorProblem Value

def binary (test : Value → Value → Bool) : List Value → Answer
  | [a, b] => .ok (.bool (test a b))
  | args => .error (.arity "2" args.length)

def chain (comparison : Comparison) : List Value → Bool
  | a :: b :: rest => Value.compare? comparison a b == some true && chain comparison (b :: rest)
  | _ => true

/-- Two operands, or three for a range. Values that are not comparable are in
no order. -/
def order (comparison : Comparison) (args : List Value) : Answer :=
  let ranges := comparison == .lt || comparison == .le
  if args.length = 2 || (ranges && args.length = 3) then .ok (.bool (chain comparison args))
  else .error (.arity "2" args.length)

def numbers (args : List Value) : Except OperatorProblem (List Float) :=
  args.mapM fun arg =>
    match arg.toFloat? with
    | some x => .ok x
    | none => .error (.notNumber arg)

def flatten (args : List Value) : List Value :=
  args.flatMap fun arg =>
    match arg with
    | .list items => items
    | other => [other]

def difference (args : List Value) : Answer := do
  match ← numbers args with
  | [x] => return Value.number (-x)
  | [x, y] => return Value.number (x - y)
  | other => .error (.arity "1 or 2" other.length)

def division (divide : Float → Float → Float) (args : List Value) : Answer := do
  match ← numbers args with
  | [x, y] =>
    if Number.equal y 0 then .error .divisionByZero else return Value.number (divide x y)
  | other => .error (.arity "2" other.length)

def extreme (pick : Float → Float → Float) (args : List Value) : Answer := do
  match ← numbers (flatten args) with
  | [] => return .null
  | x :: rest => return Value.number (rest.foldl pick x)

def isMember (needle haystack : Value) : Bool :=
  match needle, haystack with
  | .null, _ => false
  | _, .list items => items.any fun item => item.looseEq needle
  | _, .text s => Text.contains s needle.plainText
  | _, _ => false

def first (args : List Value) : Value := args.headD .null

def lookUp (ctx : Context) (args : List Value) : Value :=
  match ctx.get? (first args).plainText with
  | some value => if value.isNull then (args[1]?).getD .null else value
  | none => (args[1]?).getD .null

def apply (ctx : Context) (args : List Value) : CoreOperator → Answer
  | .looseEq => binary Value.looseEq args
  | .looseNe => binary (fun a b => !a.looseEq b) args
  | .strictEq => binary Value.strictEq args
  | .strictNe => binary (fun a b => !a.strictEq b) args
  | .ordered comparison => order comparison args
  | .not => .ok (.bool (!(first args).isTruthy))
  | .truth => .ok (.bool (first args).isTruthy)
  | .sum => (numbers args).map fun xs => Value.number (xs.foldl (· + ·) 0)
  | .product => (numbers args).map fun xs => Value.number (xs.foldl (· * ·) 1)
  | .minus => difference args
  | .quotient => division (· / ·) args
  | .remainder => division Number.remainder args
  | .least => extreme Number.lesser args
  | .greatest => extreme Number.greater args
  | .member => binary isMember args
  | .concat => .ok (.text (String.join (args.map Value.plainText)))
  | .missing => .ok (.list ((flatten args).filter fun path => !ctx.isAnswered path.plainText))
  | .lookup => .ok (lookUp ctx args)

end CoreOperator

end Eligibility
