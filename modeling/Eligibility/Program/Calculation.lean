import Eligibility.Rule.Basic
import Eligibility.Context
import Eligibility.Text.Case

/-!
Figures that explain a rule to a reader: the answer it is about, beside the
limit that the rule compares it with. Nothing is decided by them.
-/

set_option autoImplicit false

namespace Eligibility

open Eligibility.Json (Document Fault Slot)

structure Calculation where
  label : String
  value : Value
  comparison : String

namespace Calculation

open Eligibility.Json.Document (toText)

def slots : List (Slot Calculation) :=
  [ .required "label" toText fun x c => { c with label := x },
    .required "value" Value.ofDocument fun x c => { c with value := x },
    .required "comparison" toText fun x c => { c with comparison := x } ]

def ofDocument (document : Document) : Except Fault Calculation :=
  document.toRecord ⟨"", .null, ""⟩ slots

def toDocument (c : Calculation) : Document :=
  .ofFields
    [ ("label", .text c.label), ("value", c.value.toDocument),
      ("comparison", .text c.comparison) ]

end Calculation

namespace Money

/-- Digits with a comma before every third from the right. -/
def grouped : List Char → List Char
  | [] => []
  | c :: rest =>
    if rest.length % 3 = 0 ∧ rest ≠ [] then c :: ',' :: grouped rest else c :: grouped rest

def twoDigits (n : Nat) : String := if n < 10 then "0" ++ Nat.repr n else Nat.repr n

def centsText (cents : Nat) : String :=
  "$" ++ String.ofList (grouped (Nat.repr (cents / 100)).toList) ++ "." ++ twoDigits (cents % 100)

def text (amount : Float) : String :=
  (if Number.less amount 0 then "-" else "") ++
    centsText (Number.roundMagnitude (Number.magnitude amount * 100))

end Money

inductive Subject where
  | income
  | householdSize
  | citizenship
  | age
  deriving DecidableEq, Repr

namespace Subject

def segments (id : String) : List String :=
  (Text.split (fun c => c = '-' || c = '_' || c = '.') id).map Text.lowercase

def ofRuleId? (id : String) : Option Subject :=
  let has := fun name => (segments id).contains name
  if has "income" then some .income
  else if has "size" || has "household" then some .householdSize
  else if has "citizenship" || has "citizen" || has "immigration" then some .citizenship
  else if has "age" then some .age
  else none

def field : Subject → ProfileField
  | .income => .householdIncome
  | .householdSize => .householdSize
  | .citizenship => .citizenship
  | .age => .age

def label : Subject → String
  | .income => "Monthly household income"
  | .householdSize => "Household size"
  | .citizenship => "Citizenship status"
  | .age => "Age"

def render (subject : Subject) (value : Value) : String :=
  match subject, value.toFloat? with
  | .income, some amount => Money.text amount
  | _, _ => value.plainText

end Subject

inductive Threshold where
  /-- The field stands on the left of the comparison. -/
  | limit (comparison : Comparison) (bound : Value)
  | oneOf (accepted : List Value)

namespace Threshold

def isRead (path : String) : Expr → Bool
  | .var p _ => p == path
  | _ => false

def ofCall? (path : String) (operator : String) (args : List Expr) : Option Threshold :=
  match args with
  | [left, .literal bound] =>
    if isRead path left then
      match operator, bound with
      | "in", .list items => some (.oneOf items)
      | _, _ => (Comparison.ofSymbol? operator).map fun c => .limit c bound
    else none
  | [.literal bound, right] =>
    if isRead path right then
      (Comparison.ofSymbol? operator).map fun c => .limit c.flip bound
    else none
  | [.literal _, middle, .literal bound] =>
    if isRead path middle && (operator == "<=" || operator == "<") then
      (Comparison.ofSymbol? operator).map fun c => .limit c bound
    else none
  | _ => none

mutual

/-- The first threshold among a call and the calls inside it. -/
def find? (path : String) : Expr → Option Threshold
  | .call operator args => (ofCall? path operator args).or (findAny? path args)
  | _ => none

def findAny? (path : String) : List Expr → Option Threshold
  | [] => none
  | item :: rest => (find? path item).or (findAny? path rest)

end

end Threshold

namespace Calculation

def symbol : Comparison → String
  | .eq => "="
  | .ne => "≠"
  | .gt => ">"
  | .ge => "≥"
  | .lt => "<"
  | .le => "≤"

def comparisonText (subject : Subject) (value : Value) : Option Threshold → String
  | some (.limit comparison bound) =>
    subject.render value ++ " " ++ symbol comparison ++ " " ++ subject.render bound
  | some (.oneOf accepted) =>
    subject.render value ++ " (accepted: " ++
      String.intercalate ", " (accepted.map Value.plainText) ++ ")"
  | none => subject.render value

def ofRule? (rule : Rule) (ctx : Context) : Option Calculation :=
  (Subject.ofRuleId? rule.id).map fun subject =>
    let key := subject.field.key
    let value := (ctx.get? key).getD .null
    { label := subject.label
      value := value
      comparison :=
        if value.isNull then "not provided"
        else comparisonText subject value (Threshold.find? key rule.expression) }

end Calculation

end Eligibility
