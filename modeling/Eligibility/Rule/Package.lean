import Eligibility.Rule.Basic
import Eligibility.Rule.Version
import Eligibility.Json.Reader
import Eligibility.Text.Blank

/-!
Packages of rules for one jurisdiction. A package is in order when it has a
name and a version number, its rules have ids of their own, and every rule
names its program.
-/

set_option autoImplicit false

namespace Eligibility

open Eligibility.Json (Document Fault Slot)
open Eligibility.Json.Document (toText toOption toList toName)

inductive ProgramCategory where
  | food
  | housing
  | cash
  | health
  | other
  deriving DecidableEq, Repr

def ProgramCategory.name : ProgramCategory → String
  | .food => "food"
  | .housing => "housing"
  | .cash => "cash"
  | .health => "health"
  | .other => "other"

def ProgramCategory.names : List (String × ProgramCategory) :=
  [ProgramCategory.food, .housing, .cash, .health, .other].map fun area => (area.name, area)

structure ProgramInfo where
  id : String
  name : String
  category : Option ProgramCategory
  deriving DecidableEq, Repr

namespace ProgramInfo

def slots : List (Slot ProgramInfo) :=
  [ .required "id" toText fun x info => { info with id := x },
    .required "name" toText fun x info => { info with name := x },
    .defaulted "category" (toOption (toName ProgramCategory.names))
      fun x info => { info with category := x } ]

def ofDocument (document : Document) : Except Fault ProgramInfo :=
  document.toRecord ⟨"", "", none⟩ slots

def toDocument (info : ProgramInfo) : Document :=
  .ofFields <|
    [("id", .text info.id), ("name", .text info.name)] ++
    (info.category.map fun area => ("category", Document.text area.name)).toList

end ProgramInfo

inductive PackageProblem where
  | missingName
  | invalidVersion (package version : String)
  | duplicateRule (package id : String)
  | missingProgram (package rule : String)
  deriving DecidableEq, Repr

def PackageProblem.message : PackageProblem → String
  | .missingName => "rule package has no name"
  | .invalidVersion package version =>
    "invalid semantic version '" ++ version ++ "' in package '" ++ package ++ "'"
  | .duplicateRule package id =>
    "duplicate rule id '" ++ id ++ "' in package '" ++ package ++ "'"
  | .missingProgram package rule =>
    "rule '" ++ rule ++ "' in package '" ++ package ++ "' has no program id"

structure Package where
  name : String
  description : String
  jurisdiction : String
  version : String
  programs : List ProgramInfo
  rules : List Rule

namespace Package

def named (name jurisdiction version : String) : Package :=
  ⟨name, "", jurisdiction, version, [], []⟩

def withProgram (package : Package) (info : ProgramInfo) : Package :=
  { package with programs := package.programs ++ [info] }

def withRule (package : Package) (rule : Rule) : Package :=
  { package with rules := package.rules ++ [rule] }

/-- What is wrong with the first rule that repeats one of the `seen` ids or an
earlier one, or names no program. -/
def ruleProblem? (package : String) : List String → List Rule → Option PackageProblem
  | _, [] => none
  | seen, rule :: rest =>
    if rule.id ∈ seen then some (.duplicateRule package rule.id)
    else if Text.isBlankText rule.programId then some (.missingProgram package rule.id)
    else ruleProblem? package (rule.id :: seen) rest

def problem? (package : Package) : Option PackageProblem :=
  if Text.isBlankText package.name then some .missingName
  else if !Version.isVersion package.version then
    some (.invalidVersion package.name package.version)
  else ruleProblem? package.name [] package.rules

def validate (package : Package) : Except PackageProblem Unit :=
  match package.problem? with
  | none => .ok ()
  | some problem => .error problem

def programName? (package : Package) (programId : String) : Option String :=
  (package.programs.find? (·.id == programId)).map (·.name)

def slots : List (Slot Package) :=
  [ .required "name" toText fun x p => { p with name := x },
    .defaulted "description" toText fun x p => { p with description := x },
    .required "jurisdiction" toText fun x p => { p with jurisdiction := x },
    .required "version" toText fun x p => { p with version := x },
    .defaulted "programs" (toList ProgramInfo.ofDocument) fun x p => { p with programs := x },
    .defaulted "rules" (toList Rule.ofDocument) fun x p => { p with rules := x } ]

def ofDocument (document : Document) : Except Fault Package :=
  document.toRecord (named "" "" "") slots

def ofJson (json : Json) : Except Fault Package := json.decode ofDocument

def toDocument (p : Package) : Document :=
  .ofFields
    [ ("name", .text p.name),
      ("description", .text p.description),
      ("jurisdiction", .text p.jurisdiction),
      ("version", .text p.version),
      ("programs", .ofList ProgramInfo.toDocument p.programs),
      ("rules", .ofList Rule.toDocument p.rules) ]

end Package

end Eligibility
