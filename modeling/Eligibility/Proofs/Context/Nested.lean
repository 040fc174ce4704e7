import Eligibility.Proofs.Context.Overlap

/-!
Answers kept in maps inside maps, one level a segment of their paths. A write
turns what stands in its way into a map and what it meets at its end into an
answer. A read after a write sees the new answer at the same path, nothing at a
path that overlaps it, and everything else as before.
-/

set_option autoImplicit false

namespace Eligibility

inductive Answer where
  | leaf (value : Value)
  | nested (below : List (String × Answer))

abbrev Answers := List (String × Answer)

namespace Answers

def below (segment : String) (answers : Answers) : Answers :=
  match Keyed.find? segment answers with
  | some (.nested inner) => inner
  | _ => []

def leaf? (segment : String) (answers : Answers) : Option Value :=
  match Keyed.find? segment answers with
  | some (.leaf value) => some value
  | _ => none

def write (value : Value) : Path → Answers → Answers
  | [], answers => answers
  | [last], answers => Keyed.insert last (.leaf value) answers
  | first :: next :: rest, answers =>
    Keyed.insert first (.nested (write value (next :: rest) (answers.below first))) answers

def read? : Path → Answers → Option Value
  | [], _ => none
  | [last], answers => answers.leaf? last
  | first :: next :: rest, answers => read? (next :: rest) (answers.below first)

/-! ## Reading after one change -/

@[simp] theorem read?_nil (path : Path) : read? path [] = none := by
  induction path with
  | nil => rfl
  | cons first rest ih =>
    cases rest with
    | nil => rfl
    | cons next rest => exact ih

section
variable {segment other : String} {path : Path}

theorem read?_cons_congr {first second : Answers}
    (same : Keyed.find? segment first = Keyed.find? segment second) :
    read? (segment :: path) first = read? (segment :: path) second := by
  cases path with
  | nil => simp only [read?, leaf?, same]
  | cons next rest => simp only [read?, below, same]

theorem read?_insert_of_ne (different : segment ≠ other) (answer : Answer) (answers : Answers) :
    read? (other :: path) (Keyed.insert segment answer answers) = read? (other :: path) answers :=
  read?_cons_congr (Keyed.find?_insert_of_ne different answer answers)

theorem read?_erase (segment : String) (answers : Answers) (nonempty : path ≠ []) :
    read? path (Keyed.erase segment answers) =
      if Path.overlaps [segment] path then none else read? path answers := by
  cases path with
  | nil => exact absurd rfl nonempty
  | cons first rest =>
    by_cases same : segment = first
    · subst same
      have nothing : read? (segment :: rest) (Keyed.erase segment answers) =
          read? (segment :: rest) [] :=
        read?_cons_congr (Keyed.find?_erase_self segment answers)
      rw [nothing, read?_nil, Path.overlaps_cons, if_pos (by simp [Path.overlaps])]
    · rw [Path.overlaps_cons_of_ne same, if_neg Bool.false_ne_true]
      exact read?_cons_congr (Keyed.find?_erase_of_ne same answers)

end

theorem read?_write (value : Value) (written path : Path) (answers : Answers)
    (target : written ≠ []) (nonempty : path ≠ []) :
    read? path (write value written answers) =
      path.afterWrite written value (read? path answers) := by
  induction written generalizing path answers with
  | nil => exact absurd rfl target
  | cons first rest ih =>
    cases path with
    | nil => exact absurd rfl nonempty
    | cons head tail =>
      by_cases same : first = head
      case neg =>
        rw [Path.afterWrite_cons_of_ne same]
        cases rest with
        | nil => exact read?_insert_of_ne same _ answers
        | cons next rest => exact read?_insert_of_ne same _ answers
      case pos =>
        subst same
        rw [Path.afterWrite_cons]
        -- The path may end before the write, with it, or after it.
        cases rest with
        | nil =>
          cases tail with
          | nil => simp [write, read?, leaf?, Path.afterWrite]
          | cons inner tail => simp [write, read?, below, Path.afterWrite, Path.overlaps]
        | cons next rest =>
          cases tail with
          | nil => simp [write, read?, leaf?, Path.afterWrite, Path.overlaps]
          | cons inner tail =>
            have deeper := ih (inner :: tail) (answers.below first) (List.cons_ne_nil _ _)
              (List.cons_ne_nil _ _)
            simpa [write, read?, below] using deeper

end Answers

end Eligibility
