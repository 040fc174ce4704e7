import Mathlib.Data.List.Basic
import Mathlib.Data.List.Induction
import Eligibility.Program.Verdict

/-!
The attachments of a verdict. The documents and next steps of a program's rules are
passed once, with the keys so far; of several with one key the first is kept as it is,
where it stands, and nothing else is lost.
-/

set_option autoImplicit false

namespace Eligibility

section
variable {α κ : Type} [DecidableEq κ] {key : α → κ}

/-! ## One key for each item -/

theorem firstNotIn_eq_filter (seen : List κ) (items : List α) :
    firstNotIn key seen items = (distinctBy key items).filter (key · ∉ seen) := by
  induction items generalizing seen with
  | nil => rfl
  | cons item rest ih =>
    have start : distinctBy key (item :: rest) =
        item :: (distinctBy key rest).filter (key · ∉ [key item]) :=
      congrArg (item :: ·) (ih [key item])
    rw [start, firstNotIn]
    by_cases known : key item ∈ seen
    · -- What repeats the key of the item is taken away by the keys so far as well.
      rw [if_pos known, ih seen, List.filter_cons_of_neg (by simpa using known),
        List.filter_filter]
      apply List.filter_congr
      grind
    · rw [if_neg known, ih (key item :: seen), List.filter_cons_of_pos (by simpa using known),
        List.filter_filter]
      congr 1
      apply List.filter_congr
      grind

theorem distinctBy_cons (item : α) (rest : List α) :
    distinctBy key (item :: rest) = item :: (distinctBy key rest).filter (key · ≠ key item) := by
  have only : ∀ other, key other ∉ [key item] ↔ key other ≠ key item := by simp
  calc distinctBy key (item :: rest)
      = item :: firstNotIn key [key item] rest := rfl
    _ = item :: (distinctBy key rest).filter (key · ≠ key item) := by
        simp only [firstNotIn_eq_filter, only]

theorem distinctBy_append (first second : List α) :
    distinctBy key (first ++ second) =
      distinctBy key first ++ (distinctBy key second).filter (key · ∉ first.map key) := by
  induction first with
  | nil => exact (List.filter_eq_self.mpr fun _ _ => rfl).symm
  | cons item rest ih =>
    rw [List.cons_append, distinctBy_cons, distinctBy_cons, ih, List.filter_append,
      List.cons_append, List.filter_filter]
    congr 2
    apply List.filter_congr
    grind

theorem filter_key_distinctBy (k : κ) (items : List α) :
    (distinctBy key items).filter (key · = k) = (items.find? (key · = k)).toList := by
  induction items with
  | nil => rfl
  | cons item rest ih =>
    rw [distinctBy_cons]
    by_cases here : key item = k
    · have none : ((distinctBy key rest).filter (key · ≠ key item)).filter (key · = k) = [] := by
        rw [List.filter_filter, List.filter_eq_nil_iff]
        grind
      rw [List.filter_cons_of_pos (by simpa using here), none,
        List.find?_cons_of_pos (by simpa using here)]
      rfl
    · rw [List.filter_cons_of_neg (by simpa using here),
        List.find?_cons_of_neg (by simpa using here), ← ih, List.filter_filter]
      apply List.filter_congr
      grind

theorem distinctBy_of_nodup {items : List α} (nodup : (items.map key).Nodup) :
    distinctBy key items = items := by
  induction items with
  | nil => rfl
  | cons item rest ih =>
    obtain ⟨new, nodup⟩ := List.nodup_cons.mp nodup
    rw [distinctBy_cons, ih nodup, List.filter_eq_self.mpr]
    intro other member
    have apart : key other ≠ key item := fun same => new (same ▸ List.mem_map_of_mem member)
    simpa using apart

/-! ## First positions -/

def firstAt? (key : α → κ) (items : List α) (i : Nat) : Option α :=
  items[i]?.filter fun item => key item ∉ (items.take i).map key

def atFirstPositions (key : α → κ) (items : List α) : List α :=
  (List.range items.length).filterMap (firstAt? key items)

theorem firstAt?_concat {items : List α} {i : Nat} (bound : i < items.length) (last : α) :
    firstAt? key (items ++ [last]) i = firstAt? key items i := by
  rw [firstAt?, List.getElem?_append_left bound,
    List.take_append_of_le_length (Nat.le_of_lt bound)]
  rfl

theorem firstAt?_length (items : List α) (last : α) :
    firstAt? key (items ++ [last]) items.length =
      if key last ∈ items.map key then none else some last := by
  rw [firstAt?, List.getElem?_concat_length, List.take_left, Option.filter_some]
  by_cases known : key last ∈ items.map key <;> simp only [known] <;> rfl

theorem atFirstPositions_concat (items : List α) (last : α) :
    atFirstPositions key (items ++ [last]) =
      atFirstPositions key items ++ if key last ∈ items.map key then [] else [last] := by
  rw [atFirstPositions, List.length_append, List.length_singleton, List.range_succ,
    List.filterMap_append]
  congr 1
  · exact List.filterMap_congr fun i member => firstAt?_concat (List.mem_range.mp member) last
  · rw [List.filterMap_cons, firstAt?_length, List.filterMap_nil]
    by_cases known : key last ∈ items.map key
    · rw [if_pos known, if_pos known]
    · rw [if_neg known, if_neg known]

theorem distinctBy_eq_atFirstPositions (items : List α) :
    distinctBy key items = atFirstPositions key items := by
  induction items using List.reverseRecOn with
  | nil => rfl
  | append_singleton items last ih =>
    rw [distinctBy_append, atFirstPositions_concat, ih]
    by_cases known : key last ∈ items.map key <;>
      simp [distinctBy, firstNotIn, known, -List.mem_map]

/-! ## What is kept -/

/-- For each key the first item that has it, as it is and where it stands. -/
structure KeepsFirst (key : α → κ) (items kept : List α) : Prop where
  nodup : (kept.map key).Nodup
  sublist : kept.Sublist items
  once : ∀ k, kept.filter (key · = k) = (items.find? (key · = k)).toList
  inPlace : kept = atFirstPositions key items

theorem nodup_distinctBy (items : List α) : ((distinctBy key items).map key).Nodup := by
  rw [map_distinctBy]
  exact nodup_distinct _

theorem keepsFirst_distinctBy (key : α → κ) (items : List α) :
    KeepsFirst key items (distinctBy key items) where
  nodup := nodup_distinctBy items
  sublist := firstNotIn_sublist key [] items
  once := fun k => filter_key_distinctBy k items
  inPlace := distinctBy_eq_atFirstPositions items

end

/-! ## Verdicts -/

namespace Verdict

/-- A verdict keeps of the documents with one id, and of the next steps with one text,
the first. From what it keeps, the same verdict is made; and attachments that are
joined on add to it what they would keep alone, as far as its key is new. -/
theorem attachments_kept_once (tally : Tally) (programName : String) :
    let verdict := ofTally tally programName
    KeepsFirst (·.id) tally.documents verdict.documents ∧
    KeepsFirst (·.text) tally.nextSteps verdict.nextSteps ∧
    ofTally { tally with documents := verdict.documents, nextSteps := verdict.nextSteps }
      programName = verdict ∧
    ∀ more : Tally,
      let others := ofTally more programName
      let joined := ofTally { tally with
        documents := tally.documents ++ more.documents
        nextSteps := tally.nextSteps ++ more.nextSteps } programName
      joined.documents = verdict.documents ++
        others.documents.filter (·.id ∉ tally.documents.map (·.id)) ∧
      joined.nextSteps = verdict.nextSteps ++
        others.nextSteps.filter (·.text ∉ tally.nextSteps.map (·.text)) := by
  intro verdict
  have documents : distinctDocuments verdict.documents = verdict.documents :=
    distinctBy_of_nodup (nodup_distinctBy tally.documents)
  have steps : distinctSteps verdict.nextSteps = verdict.nextSteps :=
    distinctBy_of_nodup (nodup_distinctBy tally.nextSteps)
  refine ⟨keepsFirst_distinctBy _ _, keepsFirst_distinctBy _ _, ?_, fun more => ?_⟩
  · calc ofTally { tally with documents := verdict.documents, nextSteps := verdict.nextSteps }
          programName
        = { verdict with
            documents := distinctDocuments verdict.documents
            nextSteps := distinctSteps verdict.nextSteps } := rfl
      _ = verdict := by rw [documents, steps]
  · exact ⟨distinctBy_append _ _, distinctBy_append _ _⟩

end Verdict

end Eligibility
