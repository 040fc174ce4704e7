import Eligibility.Failure
import Eligibility.Keyed
import Eligibility.Text.Quoted

/-!
Named operators. A registry holds one operator a name; a session adds the
operators that are missing and takes those names away again when it closes.
-/

set_option autoImplicit false

namespace Eligibility

abbrev Operator := List Value → Except OperatorProblem Value

/-- Operators in ascending order of their names. -/
structure Registry where
  entries : List (String × Operator)

namespace Registry

def empty : Registry := ⟨[]⟩

def get? (registry : Registry) (name : String) : Option Operator :=
  Keyed.find? name registry.entries

def contains (registry : Registry) (name : String) : Bool := Keyed.contains name registry.entries

def register (registry : Registry) (name : String) (operator : Operator) : Registry :=
  ⟨Keyed.insert name operator registry.entries⟩

def unregister (registry : Registry) (name : String) : Registry :=
  ⟨Keyed.erase name registry.entries⟩

def names (registry : Registry) : List String := registry.entries.map Prod.fst

def size (registry : Registry) : Nat := registry.entries.length

def isEmpty (registry : Registry) : Bool := registry.entries.isEmpty

def registerMissing (registry : Registry) (operators : List (String × Operator)) : Registry :=
  operators.foldl
    (fun r entry => if r.contains entry.1 then r else r.register entry.1 entry.2) registry

def missingNames (registry : Registry) (operators : List (String × Operator)) : List String :=
  (operators.filter fun entry => !registry.contains entry.1).map Prod.fst

def unregisterAll (registry : Registry) (names : List String) : Registry :=
  names.foldl unregister registry

def describe (registry : Registry) : String :=
  "OperatorRegistry \x7b operators: [" ++
    String.intercalate ", " (registry.names.map Text.quoted) ++ "] \x7d"

end Registry

/-- A registry while a session is open, with the names that opening it bound. -/
structure Session where
  registry : Registry
  added : List String

namespace Session

def start (registry : Registry) (operators : List (String × Operator)) : Session :=
  ⟨registry.registerMissing operators, registry.missingNames operators⟩

/-- Unbinds every name that opening bound, whoever bound it since. -/
def close (session : Session) : Registry := session.registry.unregisterAll session.added

end Session

end Eligibility
