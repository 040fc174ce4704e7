import Eligibility.Config
import Eligibility.Operator.Domain
import Eligibility.Program.Results

/-!
The engine: loaded packages, and what their rules are evaluated with. A run
gives one verdict for every program that has a scored rule.
-/

set_option autoImplicit false

namespace Eligibility

structure Engine where
  packages : List Package
  options : EvaluationOptions
  policy : HardStopPolicy
  /-- Operators of the engine's own, which go before the shared ones. -/
  operators : Registry
  /-- One reading of the clock, which dates are compared with. The clock itself is not
  modelled: calls on one engine are calls under the same reading. -/
  now : Moment

namespace Engine

def standard (now : Moment) : Engine := ⟨[], .standard, .standard, .empty, now⟩

def ofConfig (now : Moment) (config : Config) : Except LoadProblem Engine := do
  let policy ← (HardStopPolicy.ofConfig config.hardStop).mapError .pattern
  return { standard now with policy := policy, options := config.evaluation }

def addPackage (engine : Engine) (package : Package) : Except PackageProblem Engine :=
  match package.problem? with
  | none => .ok { engine with packages := engine.packages ++ [package] }
  | some problem => .error problem

def withPolicy (engine : Engine) (policy : HardStopPolicy) : Engine :=
  { engine with policy := policy }

def withOperator (engine : Engine) (name : String) (operator : Operator) : Engine :=
  { engine with operators := engine.operators.register name operator }

def rules (engine : Engine) : List Rule := engine.packages.flatMap (·.rules)

def programs (engine : Engine) : List String :=
  distinct ((engine.rules.filter (·.isScored)).map (·.programId))

def programName? (engine : Engine) (programId : String) : Option String :=
  engine.packages.findSome? (·.programName? programId)

def setting (engine : Engine) : Tally.Setting where
  evaluator := ⟨engine.operators.withShared engine.now⟩
  policy := engine.policy
  options := engine.options

def tally (engine : Engine) (ctx : Context) (programId : String) : Tally :=
  Tally.ofProgram engine.setting ctx programId engine.rules

def verdict (engine : Engine) (ctx : Context) (programId : String) : Verdict :=
  .ofTally (engine.tally ctx programId) ((engine.programName? programId).getD programId)

def evaluate (engine : Engine) (ctx : Context) : Results :=
  .ofVerdicts (engine.programs.map (engine.verdict ctx))

def evaluateProgram? (engine : Engine) (programId : String) (ctx : Context) : Option Verdict :=
  if engine.programs.contains programId then some (engine.verdict ctx programId) else none

end Engine

end Eligibility
