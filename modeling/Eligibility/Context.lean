import Eligibility.Profile
import Eligibility.Failure
import Eligibility.Text.Split
import Eligibility.Value.Json

/-!
One person's answers: the profile, and open answers under dotted paths. An
answer takes the place of every answer at a path that its own path leads
through or to, so no open answer stands inside another.
-/

set_option autoImplicit false

namespace Eligibility

open Eligibility.Json (Document Fault)

abbrev Path := List String

namespace Path

def ofText (s : String) : Path := Text.split (· = '.') s

/-- One path leads to or through the other. -/
def overlaps (p q : Path) : Bool := p.isPrefixOf q || q.isPrefixOf p

end Path

structure Context where
  profile : Profile
  answers : List (Path × Value)

namespace Context

def empty : Context := ⟨.empty, []⟩

def ofProfile (profile : Profile) : Context := ⟨profile, []⟩

def apart (path : Path) (answers : List (Path × Value)) : List (Path × Value) :=
  answers.filter fun answer => !path.overlaps answer.1

def find? (path : Path) : List (Path × Value) → Option Value
  | [] => none
  | (p, value) :: rest => if p = path then some value else find? path rest

def put (ctx : Context) (path : Path) (value : Value) : Context :=
  { ctx with answers := (path, value) :: apart path ctx.answers }

/-- Writes an answer. A profile field keeps what its type can hold; any other
value stands as an open answer in its place. -/
def insert (path : String) (value : Value) (ctx : Context) : Context :=
  let segments := Path.ofText path
  match ProfileField.ofKey? path with
  | none => ctx.put segments value
  | some field =>
    match ctx.profile.set field value with
    | .ok profile => ⟨profile, apart segments ctx.answers⟩
    | .error rejected => ctx.put segments rejected

/-- The answer at a path. A path that only leads to further answers has none. -/
def get? (ctx : Context) (path : String) : Option Value :=
  match (ProfileField.ofKey? path).bind ctx.profile.get? with
  | some value => some value
  | none => find? (Path.ofText path) ctx.answers

/-- Null and blank texts are no answers. -/
def isAnswered (ctx : Context) (path : String) : Bool :=
  match ctx.get? path with
  | none => false
  | some .null => false
  | some (.text s) => !Text.isBlankText s
  | some _ => true

mutual

/-- The values inside a JSON value that are not objects, each with its path. -/
def leaves (path : String) : Json → List (String × Json)
  | .object fields => leavesOfFields path fields
  | leaf => [(path, leaf)]

def leavesOfFields (path : String) : List (String × Json) → List (String × Json)
  | [] => []
  | (key, value) :: rest => leaves (path ++ "." ++ key) value ++ leavesOfFields path rest

end

def ofJson (json : Json) : Except Failure Context :=
  match json with
  | .object fields =>
    let writes := fields.flatMap fun (key, value) => leaves key value
    .ok (writes.foldl (fun ctx (path, leaf) => ctx.insert path (Value.ofJson leaf)) empty)
  | other => .error (.invalidData (.notObject other.kind))

def ofDocument (document : Document) : Except Fault Context := do
  match ofJson (← document.toJson) with
  | .ok ctx => return ctx
  | .error failure => .error (.mistyped (some failure.message))

end Context

end Eligibility
