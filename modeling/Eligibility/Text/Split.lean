/-!
Texts cut at separators. There is always one piece more than separators, and
pieces may be empty.
-/

set_option autoImplicit false

namespace Eligibility.Text

def splitChars (separates : Char → Bool) : List Char → List (List Char)
  | [] => [[]]
  | c :: rest =>
    if separates c then [] :: splitChars separates rest
    else
      match splitChars separates rest with
      | piece :: more => (c :: piece) :: more
      | [] => [[c]]

def split (separates : Char → Bool) (s : String) : List String :=
  (splitChars separates s.toList).map String.ofList

theorem splitChars_ne_nil (separates : Char → Bool) (cs : List Char) :
    splitChars separates cs ≠ [] := by
  cases cs with
  | nil => simp [splitChars]
  | cons c rest =>
    by_cases cut : separates c
    · simp [splitChars, cut]
    · simp only [splitChars, cut, Bool.false_eq_true, if_false]
      cases splitChars separates rest <;> simp

theorem splitChars_eq_splitOn (separator : Char) (cs : List Char) :
    splitChars (· = separator) cs = cs.splitOn separator := by
  induction cs with
  | nil => rfl
  | cons c rest ih =>
    rw [List.splitOn_cons_eq_if_modifyHead, ← ih, splitChars]
    cases pieces : splitChars (· = separator) rest with
    | nil => exact absurd pieces (splitChars_ne_nil _ rest)
    | cons piece more => simp

theorem intercalate_splitChars (separator : Char) (cs : List Char) :
    List.intercalate [separator] (splitChars (· = separator) cs) = cs := by
  rw [splitChars_eq_splitOn, List.intercalate_splitOn]

theorem split_ne_nil (separates : Char → Bool) (s : String) : split separates s ≠ [] := by
  simp [split, splitChars_ne_nil]

theorem split_inj {separator : Char} {first second : String} :
    split (· = separator) first = split (· = separator) second ↔ first = second := by
  constructor
  · intro same
    have pieces : splitChars (· = separator) first.toList =
        splitChars (· = separator) second.toList :=
      (List.map_inj_right fun _ _ equal => String.ofList_inj.mp equal).mp same
    rw [← String.toList_inj, ← intercalate_splitChars separator first.toList, pieces,
      intercalate_splitChars]
  · rintro rfl
    rfl

end Eligibility.Text
