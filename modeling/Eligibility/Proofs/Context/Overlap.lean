import Eligibility.Context

/-!
Paths that overlap, and what one write does to the open answers: it stands at
its own path, leaves nothing at a path that overlaps it, and changes nothing
anywhere else.
-/

set_option autoImplicit false

namespace Eligibility

namespace Path

theorem overlaps_self (path : Path) : path.overlaps path = true := by
  simp [overlaps]

theorem overlaps_cons (segment : String) (first second : Path) :
    overlaps (segment :: first) (segment :: second) = overlaps first second := by
  simp [overlaps]

theorem overlaps_cons_of_ne {head other : String} (different : head ≠ other)
    (first second : Path) : overlaps (head :: first) (other :: second) = false := by
  simp [overlaps, List.isPrefixOf, different, Ne.symm different]

theorem ofText_inj {first second : String} : ofText first = ofText second ↔ first = second :=
  Text.split_inj

theorem ofText_ne_nil (text : String) : ofText text ≠ [] := Text.split_ne_nil _ text

theorem ofText_key (field : ProfileField) : ofText field.key = [field.key] := by
  cases field <;> decide

def afterWrite (path written : Path) (value : Value) (before : Option Value) : Option Value :=
  if written = path then some value
  else if written.overlaps path then none
  else before

theorem afterWrite_cons (segment : String) (path written : Path) (value : Value)
    (before : Option Value) :
    afterWrite (segment :: path) (segment :: written) value before =
      afterWrite path written value before := by
  simp [afterWrite, overlaps_cons]

theorem afterWrite_cons_of_ne {head other : String} (different : head ≠ other)
    (path written : Path) (value : Value) (before : Option Value) :
    afterWrite (other :: path) (head :: written) value before = before := by
  simp [afterWrite, different, overlaps_cons_of_ne different]

end Path

namespace Context

theorem find?_apart (written path : Path) (answers : List (Path × Value)) :
    find? path (apart written answers) =
      if written.overlaps path then none else find? path answers := by
  induction answers with
  | nil => split <;> rfl
  | cons answer rest ih =>
    obtain ⟨p, value⟩ := answer
    unfold apart at ih ⊢
    rw [List.filter_cons]
    by_cases same : p = path
    · subst same
      cases hit : written.overlaps p with
      | true => simpa [hit] using ih
      | false => simp [find?]
    · have skipped : find? path ((p, value) :: rest) = find? path rest := if_neg same
      rw [skipped, ← ih]
      split
      · exact if_neg same
      · rfl

theorem find?_put (ctx : Context) (written path : Path) (value : Value) :
    find? path (ctx.put written value).answers =
      path.afterWrite written value (find? path ctx.answers) := by
  have step : find? path (ctx.put written value).answers =
      if written = path then some value else find? path (apart written ctx.answers) := rfl
  rw [step, find?_apart]
  rfl

end Context

end Eligibility
