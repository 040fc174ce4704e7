/-!
First occurrences: a list without the items whose key an earlier item has.
-/

set_option autoImplicit false

namespace Eligibility

variable {α κ : Type} [DecidableEq κ]

/-- The items whose key neither `seen` nor an earlier item has. -/
def firstNotIn (key : α → κ) : List κ → List α → List α
  | _, [] => []
  | seen, item :: rest =>
    if key item ∈ seen then firstNotIn key seen rest
    else item :: firstNotIn key (key item :: seen) rest

def distinctBy (key : α → κ) (items : List α) : List α := firstNotIn key [] items

def distinct [DecidableEq α] (items : List α) : List α := distinctBy id items

theorem firstNotIn_sublist (key : α → κ) (seen : List κ) (items : List α) :
    (firstNotIn key seen items).Sublist items := by
  induction items generalizing seen with
  | nil => exact .slnil
  | cons item rest ih =>
    by_cases known : key item ∈ seen
    · simpa [firstNotIn, known] using (ih seen).cons item
    · simpa [firstNotIn, known] using (ih (key item :: seen)).cons_cons item

theorem key_notMem_of_mem_firstNotIn {key : α → κ} {seen : List κ} {items : List α} {item : α}
    (found : item ∈ firstNotIn key seen items) : key item ∉ seen := by
  induction items generalizing seen with
  | nil => simp [firstNotIn] at found
  | cons head rest ih =>
    by_cases known : key head ∈ seen
    · exact ih (by simpa [firstNotIn, known] using found)
    · simp only [firstNotIn, known, if_false, List.mem_cons] at found
      rcases found with rfl | found
      · exact known
      · exact fun bad => ih found (List.mem_cons_of_mem _ bad)

theorem map_firstNotIn (key : α → κ) (seen : List κ) (items : List α) :
    (firstNotIn key seen items).map key = firstNotIn id seen (items.map key) := by
  induction items generalizing seen with
  | nil => rfl
  | cons item rest ih =>
    by_cases known : key item ∈ seen
    · simp [firstNotIn, known, ih]
    · simp [firstNotIn, known, ih]

theorem mem_firstNotIn_id {seen keys : List κ} {key : κ} :
    key ∈ firstNotIn id seen keys ↔ key ∈ keys ∧ key ∉ seen := by
  induction keys generalizing seen with
  | nil => simp [firstNotIn]
  | cons head rest ih =>
    by_cases known : head ∈ seen
    · simp only [firstNotIn, id, known, if_true, ih, List.mem_cons]
      grind
    · simp only [firstNotIn, id, known, if_false, ih, List.mem_cons]
      grind

theorem nodup_firstNotIn_id (seen keys : List κ) : (firstNotIn id seen keys).Nodup := by
  induction keys generalizing seen with
  | nil => exact .nil
  | cons head rest ih =>
    by_cases known : head ∈ seen
    · simpa [firstNotIn, known] using ih seen
    · simp only [firstNotIn, id, known, if_false, List.nodup_cons]
      exact ⟨fun again => key_notMem_of_mem_firstNotIn again List.mem_cons_self, ih _⟩

theorem map_distinctBy (key : α → κ) (items : List α) :
    (distinctBy key items).map key = distinct (items.map key) := map_firstNotIn key [] items

theorem mem_distinct {keys : List κ} {key : κ} : key ∈ distinct keys ↔ key ∈ keys := by
  simp [distinct, distinctBy, mem_firstNotIn_id]

theorem nodup_distinct (keys : List κ) : (distinct keys).Nodup := nodup_firstNotIn_id [] keys

end Eligibility
