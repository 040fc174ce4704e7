import Eligibility.Value.Basic
import Eligibility.Json.Printer

/-!
Why an evaluation fails, with the wording, the code and the structured detail
of every cause.
-/

set_option autoImplicit false

namespace Eligibility

open Eligibility.Json (Document)

structure Duration where
  nanoseconds : Nat
  deriving DecidableEq, Repr

namespace Duration

def ofMillis (n : Nat) : Duration := ⟨n * 1000000⟩

def ofParts (seconds nanoseconds : Nat) : Duration := ⟨seconds * 1000000000 + nanoseconds⟩

def millis (d : Duration) : Nat := d.nanoseconds / 1000000

end Duration

inductive RuleProblem where
  | nullExpression
  | keyCount (found : Nat)
  | variablePath (found : Json)
  | other (message : String)

def RuleProblem.message : RuleProblem → String
  | .nullExpression => "rule expression is null"
  | .keyCount found =>
    "operator node must have exactly one key, found " ++ Nat.repr found
  | .variablePath found => "var path must be a string, found " ++ found.render
  | .other message => message

inductive DataProblem where
  | notObject (kind : String)
  | other (message : String)

def DataProblem.message : DataProblem → String
  | .notObject kind => "evaluation context must be an object, found " ++ kind
  | .other message => message

inductive OperatorProblem where
  | unregistered
  | arity (expected : String) (found : Nat)
  | notNumber (found : Value)
  | notDate (found : Value)
  | unreadableDate (text : String)
  | notList (found : Value)
  | notCandidates (found : Value)
  | divisionByZero
  /-- The operator gave this message instead of a value. -/
  | refused (message : String)
  /-- The operator broke off, perhaps with a message. -/
  | brokeOff (message : Option String)

def OperatorProblem.message : OperatorProblem → String
  | .unregistered => "unknown operator"
  | .arity expected found =>
    "expected " ++ expected ++ " arguments, found " ++ Nat.repr found
  | .notNumber found => "expected a number, found " ++ found.display
  | .notDate found => "expected a date string, found " ++ found.display
  | .unreadableDate text => "unrecognized date '" ++ text ++ "'"
  | .notList found => "expected a list, found " ++ found.display
  | .notCandidates found => "expected a list of candidates, found " ++ found.display
  | .divisionByZero => "division by zero"
  | .refused message => message
  | .brokeOff message => message.getD "operator panicked"

inductive FailureCode where
  | invalidRule
  | invalidData
  | maxDepthExceeded
  | timeout
  | operatorError
  | unknownError
  deriving DecidableEq, Repr

def FailureCode.text : FailureCode → String
  | .invalidRule => "INVALID_RULE"
  | .invalidData => "INVALID_DATA"
  | .maxDepthExceeded => "MAX_DEPTH_EXCEEDED"
  | .timeout => "TIMEOUT"
  | .operatorError => "OPERATOR_ERROR"
  | .unknownError => "UNKNOWN_ERROR"

inductive Failure where
  | invalidRule (problem : RuleProblem)
  | invalidData (problem : DataProblem)
  | tooDeep (depth limit : Nat)
  | timeout (limit : Duration)
  | operator (name : String) (problem : OperatorProblem)
  | unknown (message : String)

namespace Failure

def code : Failure → FailureCode
  | .invalidRule _ => .invalidRule
  | .invalidData _ => .invalidData
  | .tooDeep _ _ => .maxDepthExceeded
  | .timeout _ => .timeout
  | .operator _ _ => .operatorError
  | .unknown _ => .unknownError

def message : Failure → String
  | .invalidRule problem => "invalid rule: " ++ problem.message
  | .invalidData problem => "invalid data: " ++ problem.message
  | .tooDeep depth limit =>
    "expression depth " ++ Nat.repr depth ++ " exceeds the maximum of " ++ Nat.repr limit
  | .timeout limit => "evaluation timed out after " ++ Nat.repr limit.millis ++ "ms"
  | .operator name problem => "operator '" ++ name ++ "' failed: " ++ problem.message
  | .unknown message => "unknown evaluation error: " ++ message

def detail? : Failure → Option (List (String × Json))
  | .tooDeep depth limit => some [("depth", Json.ofNat depth), ("maxDepth", Json.ofNat limit)]
  | .timeout limit => some [("timeoutMs", Json.ofNat (min limit.millis (UInt64.size - 1)))]
  | .operator name _ => some [("operator", .text name)]
  | _ => none

def record (rule : Option String) (failure : Failure) : Document :=
  .ofFields <|
    [("message", .text failure.message), ("code", .text failure.code.text)] ++
    (match rule with
      | some id => [("rule", .text id)]
      | none => []) ++
    match failure.detail? with
      | some fields => [("data", (Json.object fields).toDocument)]
      | none => []

def toDocument (failure : Failure) : Document := failure.record none

end Failure

structure RuleFailure where
  rule : String
  failure : Failure

namespace RuleFailure

def message (f : RuleFailure) : String := "rule '" ++ f.rule ++ "': " ++ f.failure.message

def code (f : RuleFailure) : FailureCode := f.failure.code

def toDocument (f : RuleFailure) : Document := f.failure.record (some f.rule)

end RuleFailure

end Eligibility
