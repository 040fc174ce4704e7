import Eligibility.Failure

/-!
What an evaluation came to. A failed evaluation still has a value, the boolean
false.
-/

set_option autoImplicit false

namespace Eligibility

structure Outcome where
  result : Except Failure Value
  /-- Whether the time that the evaluation took was asked for. -/
  timed : Bool

namespace Outcome

def value (outcome : Outcome) : Value :=
  match outcome.result with
  | .ok value => value
  | .error _ => .bool false

def failure? (outcome : Outcome) : Option Failure :=
  match outcome.result with
  | .ok _ => none
  | .error failure => some failure

def isSuccess (outcome : Outcome) : Bool := outcome.failure?.isNone

/-- Success with the boolean true; nothing else passes. -/
def isTrue (outcome : Outcome) : Bool :=
  match outcome.result with
  | .ok (.bool b) => b
  | _ => false

def display (outcome : Outcome) : String :=
  match outcome.result with
  | .ok value => "ok: " ++ value.display
  | .error failure => "failed (" ++ failure.code.text ++ "): " ++ failure.message

end Outcome

end Eligibility
