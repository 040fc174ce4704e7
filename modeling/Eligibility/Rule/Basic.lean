import Eligibility.Expr.Json
import Eligibility.Json.Decoder

/-!
Rules. A rule belongs to a program, asks a question by its expression, and
carries what an applicant will need. Only active eligibility rules that are no
drafts are scored.
-/

set_option autoImplicit false

namespace Eligibility

open Eligibility.Json (Document Fault Slot)
open Eligibility.Json.Document (toText toBool toOption toList toName)

inductive RuleKind where
  | eligibility
  | benefit
  | document
  | informational
  deriving DecidableEq, Repr

def RuleKind.name : RuleKind → String
  | .eligibility => "eligibility"
  | .benefit => "benefit"
  | .document => "document"
  | .informational => "informational"

def RuleKind.names : List (String × RuleKind) :=
  [RuleKind.eligibility, .benefit, .document, .informational].map fun kind => (kind.name, kind)

structure RequiredDocument where
  id : String
  name : String
  description : Option String
  deriving DecidableEq, Repr

namespace RequiredDocument

def slots : List (Slot RequiredDocument) :=
  [ .required "id" toText fun x d => { d with id := x },
    .required "name" toText fun x d => { d with name := x },
    .defaulted "description" (toOption toText) fun x d => { d with description := x } ]

def ofDocument (document : Document) : Except Fault RequiredDocument :=
  document.toRecord ⟨"", "", none⟩ slots

def toDocument (d : RequiredDocument) : Document :=
  .ofFields <|
    [("id", .text d.id), ("name", .text d.name)] ++
    (d.description.map fun s => ("description", Document.text s)).toList

end RequiredDocument

structure NextStep where
  text : String
  url : Option String
  deriving DecidableEq, Repr

namespace NextStep

def slots : List (Slot NextStep) :=
  [ .required "text" toText fun x step => { step with text := x },
    .defaulted "url" (toOption toText) fun x step => { step with url := x } ]

def ofDocument (document : Document) : Except Fault NextStep :=
  document.toRecord ⟨"", none⟩ slots

def toDocument (step : NextStep) : Document :=
  .ofFields <|
    [("text", .text step.text)] ++ (step.url.map fun s => ("url", Document.text s)).toList

end NextStep

structure Rule where
  id : String
  programId : String
  kind : RuleKind
  active : Bool
  draft : Bool
  explanation : String
  expression : Expr
  documents : List RequiredDocument
  nextSteps : List NextStep
  /-- Whether failing the rule rules out everything else, if its author says. -/
  hardStop : Option Bool

namespace Rule

def ofExpr (id programId : String) (expression : Expr) : Rule :=
  ⟨id, programId, .eligibility, true, false, "", expression, [], [], none⟩

def withExplanation (rule : Rule) (text : String) : Rule := { rule with explanation := text }

def withKind (rule : Rule) (kind : RuleKind) : Rule := { rule with kind := kind }

def withDocument (rule : Rule) (document : RequiredDocument) : Rule :=
  { rule with documents := rule.documents ++ [document] }

def withNextStep (rule : Rule) (step : NextStep) : Rule :=
  { rule with nextSteps := rule.nextSteps ++ [step] }

def withHardStop (rule : Rule) (flag : Bool) : Rule := { rule with hardStop := some flag }

def asDraft (rule : Rule) : Rule := { rule with draft := true }

def deactivated (rule : Rule) : Rule := { rule with active := false }

def isScored (rule : Rule) : Bool := rule.active && !rule.draft && rule.kind == .eligibility

def displayText (rule : Rule) : String :=
  if rule.explanation = "" then rule.id else rule.explanation

def expressionOf (document : Document) : Except Fault Expr := do
  match Expr.ofJson (← document.toJson) with
  | .ok e => return e
  | .error failure => .error (.mistyped (some failure.message))

def slots : List (Slot Rule) :=
  [ .required "id" toText fun x r => { r with id := x },
    .required "programId" toText fun x r => { r with programId := x },
    .defaulted "kind" (toName RuleKind.names) fun x r => { r with kind := x },
    .defaulted "active" toBool fun x r => { r with active := x },
    .defaulted "draft" toBool fun x r => { r with draft := x },
    .defaulted "explanation" toText fun x r => { r with explanation := x },
    .required "expression" expressionOf fun x r => { r with expression := x },
    .defaulted "requiredDocuments" (toList RequiredDocument.ofDocument)
      fun x r => { r with documents := x },
    .defaulted "nextSteps" (toList NextStep.ofDocument) fun x r => { r with nextSteps := x },
    .defaulted "hardStop" (toOption toBool) fun x r => { r with hardStop := x } ]

def ofDocument (document : Document) : Except Fault Rule :=
  document.toRecord (ofExpr "" "" (.literal .null)) slots

def toDocument (rule : Rule) : Document :=
  .ofFields <|
    [ ("id", .text rule.id),
      ("programId", .text rule.programId),
      ("kind", .text rule.kind.name),
      ("active", .bool rule.active),
      ("draft", .bool rule.draft),
      ("explanation", .text rule.explanation),
      ("expression", rule.expression.toJson.toDocument) ] ++
    (if rule.documents = [] then []
      else [("requiredDocuments", .ofList RequiredDocument.toDocument rule.documents)]) ++
    (if rule.nextSteps = [] then []
      else [("nextSteps", .ofList NextStep.toDocument rule.nextSteps)]) ++
    (rule.hardStop.map fun flag => ("hardStop", Document.bool flag)).toList

end Rule

end Eligibility
