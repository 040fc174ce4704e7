import Eligibility.Value.Basic
import Eligibility.Json.Decoder

/-!
The part of a person's answers that every rule may rely on: eleven fields, each
of its own type. A field takes a value only if its type can hold it.
-/

set_option autoImplicit false

namespace Eligibility

open Eligibility.Json (Document Fault Slot)
open Eligibility.Json.Document (toOption toFloat toInt64 toText toBool)

inductive ProfileField where
  | householdIncome
  | householdSize
  | citizenship
  | age
  | dateOfBirth
  | isPregnant
  | hasChildren
  | hasDisability
  | isVeteran
  | state
  | employmentStatus
  deriving DecidableEq, Repr

namespace ProfileField

def all : List ProfileField :=
  [.householdIncome, .householdSize, .citizenship, .age, .dateOfBirth, .isPregnant,
    .hasChildren, .hasDisability, .isVeteran, .state, .employmentStatus]

def key : ProfileField → String
  | .householdIncome => "householdIncome"
  | .householdSize => "householdSize"
  | .citizenship => "citizenship"
  | .age => "age"
  | .dateOfBirth => "dateOfBirth"
  | .isPregnant => "isPregnant"
  | .hasChildren => "hasChildren"
  | .hasDisability => "hasDisability"
  | .isVeteran => "isVeteran"
  | .state => "state"
  | .employmentStatus => "employmentStatus"

def ofKey? (key : String) : Option ProfileField := all.find? (·.key == key)

end ProfileField

structure Profile where
  householdIncome : Option Float
  householdSize : Option Int64
  citizenship : Option String
  age : Option Int64
  dateOfBirth : Option String
  isPregnant : Option Bool
  hasChildren : Option Bool
  hasDisability : Option Bool
  isVeteran : Option Bool
  state : Option String
  employmentStatus : Option String

namespace Profile

def empty : Profile :=
  ⟨none, none, none, none, none, none, none, none, none, none, none⟩

def get? (profile : Profile) : ProfileField → Option Value
  | .householdIncome => profile.householdIncome.map Value.number
  | .householdSize => profile.householdSize.map .int
  | .citizenship => profile.citizenship.map .text
  | .age => profile.age.map .int
  | .dateOfBirth => profile.dateOfBirth.map .text
  | .isPregnant => profile.isPregnant.map .bool
  | .hasChildren => profile.hasChildren.map .bool
  | .hasDisability => profile.hasDisability.map .bool
  | .isVeteran => profile.isVeteran.map .bool
  | .state => profile.state.map .text
  | .employmentStatus => profile.employmentStatus.map .text

def clear (profile : Profile) : ProfileField → Profile
  | .householdIncome => { profile with householdIncome := none }
  | .householdSize => { profile with householdSize := none }
  | .citizenship => { profile with citizenship := none }
  | .age => { profile with age := none }
  | .dateOfBirth => { profile with dateOfBirth := none }
  | .isPregnant => { profile with isPregnant := none }
  | .hasChildren => { profile with hasChildren := none }
  | .hasDisability => { profile with hasDisability := none }
  | .isVeteran => { profile with isVeteran := none }
  | .state => { profile with state := none }
  | .employmentStatus => { profile with employmentStatus := none }

def whole? (value : Value) : Option Int64 := do
  let x ← value.toFloat?
  Value.toWord? x

def store? (profile : Profile) (value : Value) : ProfileField → Option Profile
  | .householdIncome =>
    value.toFloat?.map fun income => { profile with householdIncome := some income }
  | .householdSize => (whole? value).map fun size => { profile with householdSize := some size }
  | .citizenship => value.toText?.map fun s => { profile with citizenship := some s }
  | .age => (whole? value).map fun years => { profile with age := some years }
  | .dateOfBirth => value.toText?.map fun s => { profile with dateOfBirth := some s }
  | .isPregnant => value.toBool?.map fun b => { profile with isPregnant := some b }
  | .hasChildren => value.toBool?.map fun b => { profile with hasChildren := some b }
  | .hasDisability => value.toBool?.map fun b => { profile with hasDisability := some b }
  | .isVeteran => value.toBool?.map fun b => { profile with isVeteran := some b }
  | .state => value.toText?.map fun s => { profile with state := some s }
  | .employmentStatus => value.toText?.map fun s => { profile with employmentStatus := some s }

/-- Sets a field, where null clears it. A value that the field cannot hold is
handed back. -/
def set (profile : Profile) (field : ProfileField) (value : Value) : Except Value Profile :=
  if value.isNull then .ok (profile.clear field)
  else
    match profile.store? value field with
    | some changed => .ok changed
    | none => .error value

def slots : List (Slot Profile) :=
  [ .defaulted "householdIncome" (toOption toFloat) fun x p => { p with householdIncome := x },
    .defaulted "householdSize" (toOption toInt64) fun x p => { p with householdSize := x },
    .defaulted "citizenship" (toOption toText) fun x p => { p with citizenship := x },
    .defaulted "age" (toOption toInt64) fun x p => { p with age := x },
    .defaulted "dateOfBirth" (toOption toText) fun x p => { p with dateOfBirth := x },
    .defaulted "isPregnant" (toOption toBool) fun x p => { p with isPregnant := x },
    .defaulted "hasChildren" (toOption toBool) fun x p => { p with hasChildren := x },
    .defaulted "hasDisability" (toOption toBool) fun x p => { p with hasDisability := x },
    .defaulted "isVeteran" (toOption toBool) fun x p => { p with isVeteran := x },
    .defaulted "state" (toOption toText) fun x p => { p with state := x },
    .defaulted "employmentStatus" (toOption toText) fun x p => { p with employmentStatus := x } ]

def ofDocument (document : Document) : Except Fault Profile := document.toRecord empty slots

def toDocument (p : Profile) : Document :=
  .ofFields
    [ ("householdIncome", .ofOption .ofFloat p.householdIncome),
      ("householdSize", .ofOption .ofInt64 p.householdSize),
      ("citizenship", .ofOption .text p.citizenship),
      ("age", .ofOption .ofInt64 p.age),
      ("dateOfBirth", .ofOption .text p.dateOfBirth),
      ("isPregnant", .ofOption .bool p.isPregnant),
      ("hasChildren", .ofOption .bool p.hasChildren),
      ("hasDisability", .ofOption .bool p.hasDisability),
      ("isVeteran", .ofOption .bool p.isVeteran),
      ("state", .ofOption .text p.state),
      ("employmentStatus", .ofOption .text p.employmentStatus) ]

end Profile

end Eligibility
