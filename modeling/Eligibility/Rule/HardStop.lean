import Eligibility.Rule.Basic
import Eligibility.Pattern.Reader

/-!
Hard stops: rules whose failure decides against a program whatever else holds.
The author's flag is final; a rule without one is a hard stop when its id is
listed or a pattern occurs in its id or explanation.
-/

set_option autoImplicit false

namespace Eligibility

open Eligibility.Json (Document Fault Slot)
open Eligibility.Json.Document (toText toList)

structure HardStopConfig where
  ruleIds : List String
  patterns : List String
  deriving DecidableEq, Repr

namespace HardStopConfig

def standard : HardStopConfig where
  ruleIds :=
    [ "snap-gross-income", "snap-net-income", "medicaid-income-limit", "tanf-income-limit",
      "wic-income-eligibility", "liheap-income-limit" ]
  patterns := ["(?i)income", "(?i)hard[-_ ]?stop"]

def slots : List (Slot HardStopConfig) :=
  [ .defaulted "ruleIds" (toList toText) fun x c => { c with ruleIds := x },
    .defaulted "patterns" (toList toText) fun x c => { c with patterns := x } ]

def ofDocument (document : Document) : Except Fault HardStopConfig :=
  document.toRecord standard slots

def toDocument (config : HardStopConfig) : Document :=
  .ofFields
    [ ("ruleIds", .ofList .text config.ruleIds), ("patterns", .ofList .text config.patterns) ]

end HardStopConfig

/-- How hard stops are recognised: by id, and by tests of a text. -/
structure HardStopPolicy where
  ruleIds : List String
  tests : List (String → Bool)

namespace HardStopPolicy

def explicitOnly : HardStopPolicy := ⟨[], []⟩

def ofConfig (config : HardStopConfig) : Except String HardStopPolicy := do
  let tests ← config.patterns.mapM fun text =>
    match Pattern.ofText? text with
    | some pattern => .ok pattern.occursIn
    | none => .error text
  return ⟨config.ruleIds, tests⟩

def standard : HardStopPolicy where
  ruleIds := HardStopConfig.standard.ruleIds
  tests := (HardStopConfig.standard.patterns.filterMap Pattern.ofText?).map Pattern.occursIn

def isHardStop (policy : HardStopPolicy) (rule : Rule) : Bool :=
  match rule.hardStop with
  | some flag => flag
  | none =>
    policy.ruleIds.contains rule.id ||
      policy.tests.any fun test => test rule.id || test rule.explanation

end HardStopPolicy

end Eligibility
