import Eligibility.Program.Verdict

/-!
Verdicts grouped into buckets. Every group keeps the order in which the
verdicts came.
-/

set_option autoImplicit false

namespace Eligibility

open Eligibility.Json (Document)

structure Results where
  qualified : List Verdict
  likely : List Verdict
  maybe : List Verdict
  notQualified : List Verdict
  totalPrograms : Nat

/-- The results in three groups, for readers who want no more. -/
structure Partition where
  qualified : List Verdict
  maybe : List Verdict
  notQualified : List Verdict
  totalPrograms : Nat

namespace Results

def inBucket (bucket : Bucket) (verdicts : List Verdict) : List Verdict :=
  (verdicts.filter fun verdict => verdict.bucket == bucket).map Verdict.settled

def ofVerdicts (verdicts : List Verdict) : Results where
  qualified := inBucket .qualified verdicts
  likely := inBucket .likely verdicts
  maybe := inBucket .maybe verdicts
  notQualified := inBucket .notQualified verdicts
  totalPrograms := verdicts.length

def toList (results : Results) : List (Bucket × Verdict) :=
  results.qualified.map (Bucket.qualified, ·) ++ results.likely.map (Bucket.likely, ·) ++
    results.maybe.map (Bucket.maybe, ·) ++ results.notQualified.map (Bucket.notQualified, ·)

def find? (results : Results) (programId : String) : Option (Bucket × Verdict) :=
  results.toList.find? fun entry => entry.2.programId == programId

def bucketOf? (results : Results) (programId : String) : Option Bucket :=
  (results.find? programId).map Prod.fst

def verdict? (results : Results) (programId : String) : Option Verdict :=
  (results.find? programId).map Prod.snd

/-- Counts the likely programs among the qualified ones, after them. -/
def toPartition (results : Results) : Partition where
  qualified := results.qualified ++ results.likely
  maybe := results.maybe
  notQualified := results.notQualified
  totalPrograms := results.totalPrograms

def toDocument (r : Results) : Document :=
  .ofFields
    [ ("qualified", .ofList Verdict.toDocument r.qualified),
      ("likely", .ofList Verdict.toDocument r.likely),
      ("maybe", .ofList Verdict.toDocument r.maybe),
      ("notQualified", .ofList Verdict.toDocument r.notQualified),
      ("totalPrograms", .ofNat r.totalPrograms) ]

end Results

end Eligibility
