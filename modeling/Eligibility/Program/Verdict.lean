import Eligibility.Program.Classification
import Eligibility.Program.Tally

/-!
The verdict on a program: its classification with the reason for it, and the
attachments of its rules, each once. A failed hard stop overrides every status
but `qualified`. The time at which a verdict is made is no part of it.
-/

set_option autoImplicit false

namespace Eligibility

open Eligibility.Json (Document Fault Slot)
open Eligibility.Json.Document (toText toBool toWord toByte toOption toList toName)

structure Verdict where
  programId : String
  programName : String
  status : Status
  confidence : Confidence
  score : Nat
  reason : String
  passedRules : Nat
  totalRules : Nat
  rulesCited : List String
  details : List String
  calculations : List Calculation
  documents : List RequiredDocument
  nextSteps : List NextStep
  missingFields : List String
  incompleteProfile : Bool
  /-- The failed rule that rules the program out. -/
  hardStop : Option String

inductive Bucket where
  | qualified
  | likely
  | maybe
  | notQualified
  deriving DecidableEq, Repr

def Bucket.name : Bucket → String
  | .qualified => "qualified"
  | .likely => "likely"
  | .maybe => "maybe"
  | .notQualified => "not-qualified"

namespace Verdict

/-- The score of a verdict that a hard stop decides is at least this. -/
def hardStopScore : Nat := 90

/-- Verdicts that score less are undecided. -/
def decisiveScore : Nat := 70

def ofShare (passed total : Nat) : String := Nat.repr passed ++ " of " ++ Nat.repr total

def reasonText (status : Status) (passed total : Nat) (hardStop : Option String) : String :=
  match status, hardStop with
  | .qualified, _ => "Meets all " ++ Nat.repr total ++ " eligibility requirements"
  | _, some rule => "Does not meet a required condition (" ++ rule ++ ")"
  | .likely, none => "Meets " ++ ofShare passed total ++ " eligibility requirements"
  | .maybe, none =>
    "Meets some requirements (" ++ ofShare passed total ++ "); more information may help"
  | .unlikely, none => "Meets few requirements (" ++ ofShare passed total ++ ")"
  | .notQualified, none =>
    if total = 0 then "No eligibility rules could be evaluated"
    else "Does not meet most requirements (" ++ ofShare passed total ++ ")"

def distinctDocuments (documents : List RequiredDocument) : List RequiredDocument :=
  distinctBy (·.id) documents

def distinctSteps (steps : List NextStep) : List NextStep := distinctBy (·.text) steps

/-- The verdict on a tally. A program without a name goes by its id. -/
def ofTally (tally : Tally) (programName : String) : Verdict :=
  let classification :=
    Classification.ofCounts (UInt64.ofNat tally.passedRules) (UInt64.ofNat tally.totalRules)
  let hardStop := tally.hardStopFailures.head?
  { programId := tally.programId
    programName := if programName = "" then tally.programId else programName
    status := classification.status
    confidence := classification.confidence
    score := classification.score
    reason := reasonText classification.status tally.passedRules tally.totalRules hardStop
    passedRules := tally.passedRules
    totalRules := tally.totalRules
    rulesCited := tally.rulesCited
    details := tally.details
    calculations := tally.calculations
    documents := distinctDocuments tally.documents
    nextSteps := distinctSteps tally.nextSteps
    missingFields := tally.missingFields
    incompleteProfile := tally.isIncomplete
    hardStop := hardStop }

def isHardStopped (verdict : Verdict) : Bool :=
  verdict.status != .qualified && verdict.hardStop.isSome

def bucket (verdict : Verdict) : Bucket :=
  if verdict.isHardStopped then .notQualified
  else if verdict.status = .qualified then .qualified
  else if verdict.incompleteProfile || verdict.score < decisiveScore then .maybe
  else if verdict.status = .likely then .likely
  else .notQualified

/-- The verdict as results show it, with the override of a hard stop. -/
def settled (verdict : Verdict) : Verdict :=
  if verdict.isHardStopped then
    { verdict with
      status := .notQualified
      confidence := .high
      score := max verdict.score hardStopScore }
  else verdict

def display (verdict : Verdict) : String :=
  verdict.programId ++ ": " ++ verdict.status.name ++ " (" ++ verdict.confidence.name ++
    " confidence, " ++ Nat.repr verdict.score ++ ") " ++ Nat.repr verdict.passedRules ++ "/" ++
    Nat.repr verdict.totalRules ++ " rules passed"

def blank : Verdict :=
  ⟨"", "", .notQualified, .high, 0, "", 0, 0, [], [], [], [], [], [], false, none⟩

def slots : List (Slot Verdict) :=
  [ .required "programId" toText fun x v => { v with programId := x },
    .required "programName" toText fun x v => { v with programName := x },
    .required "status" (toName Status.names) fun x v => { v with status := x },
    .required "confidence" (toName Confidence.names) fun x v => { v with confidence := x },
    .required "confidenceScore" toByte fun x v => { v with score := x.toNat },
    .required "reason" toText fun x v => { v with reason := x },
    .required "passedRules" toWord fun x v => { v with passedRules := x.toNat },
    .required "totalRules" toWord fun x v => { v with totalRules := x.toNat },
    .required "rulesCited" (toList toText) fun x v => { v with rulesCited := x },
    .required "details" (toList toText) fun x v => { v with details := x },
    .required "calculations" (toList Calculation.ofDocument)
      fun x v => { v with calculations := x },
    .required "documents" (toList RequiredDocument.ofDocument)
      fun x v => { v with documents := x },
    .required "nextSteps" (toList NextStep.ofDocument) fun x v => { v with nextSteps := x },
    .required "missingFields" (toList toText) fun x v => { v with missingFields := x },
    .required "incompleteProfile" toBool fun x v => { v with incompleteProfile := x },
    .defaulted "hardStop" (toOption toText) fun x v => { v with hardStop := x } ]

def ofDocument (document : Document) : Except Fault Verdict := document.toRecord blank slots

def toDocument (v : Verdict) : Document :=
  .ofFields
    [ ("programId", .text v.programId),
      ("programName", .text v.programName),
      ("status", .text v.status.name),
      ("confidence", .text v.confidence.name),
      ("confidenceScore", .ofNat v.score),
      ("reason", .text v.reason),
      ("passedRules", .ofNat v.passedRules),
      ("totalRules", .ofNat v.totalRules),
      ("rulesCited", .ofList .text v.rulesCited),
      ("details", .ofList .text v.details),
      ("calculations", .ofList Calculation.toDocument v.calculations),
      ("documents", .ofList RequiredDocument.toDocument v.documents),
      ("nextSteps", .ofList NextStep.toDocument v.nextSteps),
      ("missingFields", .ofList .text v.missingFields),
      ("incompleteProfile", .bool v.incompleteProfile),
      ("hardStop", .ofOption .text v.hardStop) ]

end Verdict

end Eligibility
