/-!
Entries under text keys, kept in ascending order of the keys. Main statements:
a lookup after an insertion or a removal sees exactly that change.
-/

set_option autoImplicit false

namespace Eligibility.Keyed

variable {α : Type}

def find? (key : String) : List (String × α) → Option α
  | [] => none
  | (k, a) :: rest => if k = key then some a else find? key rest

def insert (key : String) (a : α) : List (String × α) → List (String × α)
  | [] => [(key, a)]
  | (k, b) :: rest =>
    if k = key then (key, a) :: rest
    else if key < k then (key, a) :: (k, b) :: rest
    else (k, b) :: insert key a rest

def erase (key : String) : List (String × α) → List (String × α)
  | [] => []
  | (k, a) :: rest => if k = key then erase key rest else (k, a) :: erase key rest

def contains (key : String) (entries : List (String × α)) : Bool := (find? key entries).isSome

def ofList (entries : List (String × α)) : List (String × α) :=
  entries.foldl (fun done entry => insert entry.1 entry.2 done) []

@[simp] theorem find?_nil (key : String) : find? key ([] : List (String × α)) = none := rfl

@[simp] theorem find?_insert_self (key : String) (a : α) (entries : List (String × α)) :
    find? key (insert key a entries) = some a := by
  induction entries with
  | nil => simp [insert, find?]
  | cons entry rest ih =>
    obtain ⟨k, b⟩ := entry
    by_cases same : k = key
    · simp [insert, find?, same]
    · by_cases before : key < k <;> simp [insert, find?, same, before, ih]

theorem find?_insert_of_ne {key other : String} (different : key ≠ other) (a : α)
    (entries : List (String × α)) : find? other (insert key a entries) = find? other entries := by
  induction entries with
  | nil => simp [insert, find?, different]
  | cons entry rest ih =>
    obtain ⟨k, b⟩ := entry
    by_cases same : k = key
    · subst same; simp [insert, find?, different]
    · by_cases before : key < k <;> simp [insert, find?, same, before, different, ih]

@[simp] theorem find?_erase_self (key : String) (entries : List (String × α)) :
    find? key (erase key entries) = none := by
  induction entries with
  | nil => rfl
  | cons entry rest ih =>
    obtain ⟨k, b⟩ := entry
    by_cases same : k = key <;> simp [erase, find?, same, ih]

theorem find?_erase_of_ne {key other : String} (different : key ≠ other)
    (entries : List (String × α)) : find? other (erase key entries) = find? other entries := by
  induction entries with
  | nil => rfl
  | cons entry rest ih =>
    obtain ⟨k, b⟩ := entry
    by_cases same : k = key
    · subst same; simp [erase, find?, different, ih]
    · simp [erase, find?, same, ih]

end Eligibility.Keyed
