import Eligibility.Evaluation.Evaluator
import Eligibility.Rule.HardStop
import Eligibility.Rule.Package

/-!
Settings read from JSON, and files of settings and packages. A file is known
by its text, or not at all when it cannot be read.
-/

set_option autoImplicit false

namespace Eligibility

open Eligibility.Json (Document Fault Slot Source)
open Eligibility.Json.Document (toWord toBool)

inductive LoadProblem where
  | unreadable
  | json (fault : Fault)
  | package (problem : PackageProblem)
  | pattern (text : String)

namespace EvaluationOptions

def slots : List (Slot EvaluationOptions) :=
  [ .defaulted "timeoutMs" toWord fun x o => { o with timeout := .ofMillis x.toNat },
    .defaulted "maxDepth" toWord fun x o => { o with maxDepth := x.toNat },
    .defaulted "measureTime" toBool fun x o => { o with measureTime := x },
    .defaulted "strict" toBool fun x o => { o with strict := x } ]

def ofDocument (document : Document) : Except Fault EvaluationOptions :=
  document.toRecord standard slots

end EvaluationOptions

structure Config where
  evaluation : EvaluationOptions
  hardStop : HardStopConfig

namespace Config

def standard : Config := ⟨.standard, .standard⟩

def slots : List (Slot Config) :=
  [ .defaulted "evaluation" EvaluationOptions.ofDocument fun x c => { c with evaluation := x },
    .defaulted "hardStop" HardStopConfig.ofDocument fun x c => { c with hardStop := x } ]

def ofDocument (document : Document) : Except Fault Config := document.toRecord standard slots

def ofText (text : String) : Except LoadProblem Config :=
  ((Source.ofText text).decode ofDocument).mapError .json

/-- The settings in a file, whose text is given if it can be read. -/
def ofFile : Option String → Except LoadProblem Config
  | some text => ofText text
  | none => .error .unreadable

end Config

namespace Package

def ofText (text : String) : Except LoadProblem Package := do
  let package ← ((Source.ofText text).decode ofDocument).mapError .json
  match package.problem? with
  | none => return package
  | some problem => .error (.package problem)

def ofFile : Option String → Except LoadProblem Package
  | some text => ofText text
  | none => .error .unreadable

end Package

end Eligibility
