import Eligibility.Evaluation.Evaluator
import Eligibility.Program.Calculation
import Eligibility.Rule.HardStop

/-!
The tally of a program: what its scored rules came to, before anything is
decided. The rules are recorded in order; a rule that fails to evaluate leaves
its failure and the answers it misses, and nothing else.
-/

set_option autoImplicit false

namespace Eligibility

open Eligibility.Json (Document)

structure Tally where
  programId : String
  passedRules : Nat
  /-- The rules that gave a value, passed or not. -/
  totalRules : Nat
  rulesCited : List String
  details : List String
  calculations : List Calculation
  failedRules : List String
  /-- The failed rules that are hard stops. -/
  hardStopFailures : List String
  errors : List RuleFailure
  documents : List RequiredDocument
  nextSteps : List NextStep
  /-- The paths that the rules read and that have no answer. -/
  missingFields : List String

namespace Tally

def empty (programId : String) : Tally := ⟨programId, 0, 0, [], [], [], [], [], [], [], [], []⟩

def isIncomplete (tally : Tally) : Bool := !tally.missingFields.isEmpty

def erroredRules (tally : Tally) : List String := tally.errors.map (·.rule)

structure Setting where
  evaluator : Evaluator
  policy : HardStopPolicy
  options : EvaluationOptions

/-- The value of a rule, or why there is none. Failures are never thrown,
whatever the options say. -/
def Setting.result (setting : Setting) (rule : Rule) (ctx : Context) : Except Failure Value := do
  let options := { setting.options with strict := false }
  let outcome ← setting.evaluator.evaluate rule.expression ctx options
  outcome.result

def passes : Value → Bool
  | .bool b => b
  | _ => false

def detail (passed : Bool) (rule : Rule) : String :=
  (if passed then "✓ " else "✗ ") ++ rule.displayText

def noteMissing (ctx : Context) (missing : List String) (path : String) : List String :=
  if !ctx.isAnswered path && !missing.contains path then missing ++ [path] else missing

def count (setting : Setting) (ctx : Context) (tally : Tally) (rule : Rule) (value : Value) :
    Tally :=
  let tally := { tally with
    totalRules := tally.totalRules + 1
    rulesCited := tally.rulesCited ++ [rule.id]
    details := tally.details ++ [detail (passes value) rule]
    calculations := tally.calculations ++ (Calculation.ofRule? rule ctx).toList
    documents := tally.documents ++ rule.documents
    nextSteps := tally.nextSteps ++ rule.nextSteps }
  if passes value then { tally with passedRules := tally.passedRules + 1 }
  else
    let tally := { tally with failedRules := tally.failedRules ++ [rule.id] }
    if setting.policy.isHardStop rule then
      { tally with hardStopFailures := tally.hardStopFailures ++ [rule.id] }
    else tally

/-- The tally after one more rule. Its missing answers are noted even if it
fails to evaluate; nothing else is counted then but its failure. -/
def record (setting : Setting) (ctx : Context) (tally : Tally) (rule : Rule) : Tally :=
  let tally := { tally with
    missingFields := rule.expression.vars.foldl (noteMissing ctx) tally.missingFields }
  match setting.result rule ctx with
  | .error failure => { tally with errors := tally.errors ++ [⟨rule.id, failure⟩] }
  | .ok value => count setting ctx tally rule value

def scoredRules (programId : String) (rules : List Rule) : List Rule :=
  rules.filter fun rule => rule.programId == programId && rule.isScored

def ofProgram (setting : Setting) (ctx : Context) (programId : String) (rules : List Rule) :
    Tally :=
  (scoredRules programId rules).foldl (record setting ctx) (empty programId)

def toDocument (t : Tally) : Document :=
  .ofFields
    [ ("programId", .text t.programId),
      ("passedRules", .ofNat t.passedRules),
      ("totalRules", .ofNat t.totalRules),
      ("rulesCited", .ofList .text t.rulesCited),
      ("details", .ofList .text t.details),
      ("calculations", .ofList Calculation.toDocument t.calculations),
      ("failedRules", .ofList .text t.failedRules),
      ("hardStopFailures", .ofList .text t.hardStopFailures),
      ("errors", .ofList RuleFailure.toDocument t.errors),
      ("documents", .ofList RequiredDocument.toDocument t.documents),
      ("nextSteps", .ofList NextStep.toDocument t.nextSteps),
      ("missingFields", .ofList .text t.missingFields) ]

end Tally

end Eligibility
