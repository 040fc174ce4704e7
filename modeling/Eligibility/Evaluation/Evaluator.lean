import Eligibility.Evaluation.Expr
import Eligibility.Evaluation.Outcome
import Eligibility.Expr.Json

/-!
Guarded evaluation. An expression that nests too deep is refused before any
operator runs. An evaluation against a deadline is a race, and who wins it is
an argument: the walk gives the answer that it gives without a deadline, and
the deadline gives a timeout.
-/

set_option autoImplicit false

namespace Eligibility

structure EvaluationOptions where
  timeout : Duration
  maxDepth : Nat
  measureTime : Bool
  /-- Failures are thrown and not made part of the outcome. -/
  strict : Bool
  /-- Operators for one evaluation, which go before those of the evaluator. -/
  operators : Option Registry

namespace EvaluationOptions

def standard : EvaluationOptions := ⟨.ofMillis 5000, 100, false, false, none⟩

end EvaluationOptions

/-- Who comes first when an evaluation has a deadline. -/
inductive Race where
  | walk
  | deadline
  deriving DecidableEq, Repr

structure Evaluator where
  registry : Registry

namespace Evaluator

def scope (evaluator : Evaluator) (options : EvaluationOptions) : Scope :=
  ⟨evaluator.registry, options.operators⟩

def depthFailure? (e : Expr) (options : EvaluationOptions) : Option Failure :=
  if options.maxDepth < e.measuredDepth then some (.tooDeep e.measuredDepth options.maxDepth)
  else none

def walk (evaluator : Evaluator) (e : Expr) (ctx : Context) (options : EvaluationOptions) :
    Walk Value :=
  match depthFailure? e options with
  | some failure => Walk.fail failure
  | none => e.evaluate ctx (evaluator.scope options)

/-- Makes a result an outcome; a strict evaluation throws its failure instead. -/
def finish (options : EvaluationOptions) (result : Except Failure Value) :
    Except Failure Outcome :=
  match result with
  | .ok value => .ok ⟨.ok value, options.measureTime⟩
  | .error failure =>
    if options.strict then .error failure else .ok ⟨.error failure, options.measureTime⟩

def conclude (options : EvaluationOptions) (walk : Walk Value) : Walk Outcome :=
  ⟨finish options walk.result, walk.calls⟩

def run (evaluator : Evaluator) (e : Expr) (ctx : Context) (options : EvaluationOptions) :
    Walk Outcome :=
  conclude options (evaluator.walk e ctx options)

/-- Evaluation against the deadline of the options. A walk that comes too late
still makes its calls, but what it comes to is dropped. -/
def runWithin (evaluator : Evaluator) (race : Race) (e : Expr) (ctx : Context)
    (options : EvaluationOptions) : Walk Outcome :=
  match depthFailure? e options with
  | some failure => conclude options (Walk.fail failure)
  | none =>
    let walk := e.evaluate ctx (evaluator.scope options)
    match race with
    | .walk => conclude options walk
    | .deadline => conclude options { walk with result := .error (.timeout options.timeout) }

def prepare (rule data : Json) : Except Failure (Expr × Context) := do
  let e ← Expr.ofJson rule
  let ctx ← Context.ofJson data
  return (e, ctx)

def runJson (evaluator : Evaluator) (rule data : Json) (options : EvaluationOptions) :
    Walk Outcome :=
  match prepare rule data with
  | .ok (e, ctx) => evaluator.run e ctx options
  | .error failure => conclude options (Walk.fail failure)

def runJsonWithin (evaluator : Evaluator) (race : Race) (rule data : Json)
    (options : EvaluationOptions) : Walk Outcome :=
  match prepare rule data with
  | .ok (e, ctx) => evaluator.runWithin race e ctx options
  | .error failure => conclude options (Walk.fail failure)

def evaluate (evaluator : Evaluator) (e : Expr) (ctx : Context) (options : EvaluationOptions) :
    Except Failure Outcome :=
  (evaluator.run e ctx options).result

def evaluateWithin (evaluator : Evaluator) (race : Race) (e : Expr) (ctx : Context)
    (options : EvaluationOptions) : Except Failure Outcome :=
  (evaluator.runWithin race e ctx options).result

def evaluateJson (evaluator : Evaluator) (rule data : Json) (options : EvaluationOptions) :
    Except Failure Outcome :=
  (evaluator.runJson rule data options).result

def evaluateJsonWithin (evaluator : Evaluator) (race : Race) (rule data : Json)
    (options : EvaluationOptions) : Except Failure Outcome :=
  (evaluator.runJsonWithin race rule data options).result

def evaluateMany (evaluator : Evaluator) (options : EvaluationOptions)
    (pairs : List (Race × Expr × Context)) : List (Except Failure Outcome) :=
  pairs.map fun (race, e, ctx) => evaluator.evaluateWithin race e ctx options

end Evaluator

end Eligibility
