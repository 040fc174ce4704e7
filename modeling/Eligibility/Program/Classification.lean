/-!
From counts of passed rules to a status, a tier of confidence and a score. The
share of passed rules is compared with the thresholds by cross-multiplication
in 64-bit words.
-/

set_option autoImplicit false

namespace Eligibility

/-- How a program looks for a person, best first. -/
inductive Status where
  | qualified
  | likely
  | maybe
  | unlikely
  | notQualified
  deriving DecidableEq, Repr

def Status.name : Status → String
  | .qualified => "qualified"
  | .likely => "likely"
  | .maybe => "maybe"
  | .unlikely => "unlikely"
  | .notQualified => "not-qualified"

def Status.names : List (String × Status) :=
  [Status.qualified, .likely, .maybe, .unlikely, .notQualified].map fun s => (s.name, s)

inductive Confidence where
  | high
  | medium
  | low
  deriving DecidableEq, Repr

def Confidence.name : Confidence → String
  | .high => "high"
  | .medium => "medium"
  | .low => "low"

def Confidence.names : List (String × Confidence) :=
  [Confidence.high, .medium, .low].map fun c => (c.name, c)

structure Classification where
  status : Status
  confidence : Confidence
  score : Nat
  deriving DecidableEq, Repr

/-- A classification and the least share of passed rules that it takes. -/
structure ClassificationRow where
  num : UInt64
  den : UInt64
  classification : Classification

namespace Classification

def table : List ClassificationRow :=
  [ ⟨1, 1, ⟨.qualified, .high, 95⟩⟩,
    ⟨4, 5, ⟨.likely, .medium, 75⟩⟩,
    ⟨1, 2, ⟨.maybe, .medium, 60⟩⟩,
    ⟨3, 10, ⟨.unlikely, .low, 40⟩⟩ ]

def notQualified : Classification := ⟨.notQualified, .high, 90⟩

/-- The first row whose share is reached. Without any rule nothing is reached,
and no more rules pass than there are. -/
def ofCounts (passed total : UInt64) : Classification :=
  if total = 0 then notQualified
  else
    let passed := min passed total
    match table.find? fun row => row.num * total ≤ passed * row.den with
    | some row => row.classification
    | none => notQualified

def passRate (passed total : UInt64) : Float :=
  if total = 0 then 0 else Float.ofNat passed.toNat / Float.ofNat total.toNat

end Classification

end Eligibility
