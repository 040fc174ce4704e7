import Mathlib.Data.List.TakeWhile
import Eligibility.Rule.Version
import Eligibility.Proofs.Number.Numeral

/-!
Version numbers beside the grammar of semantic versions. The three numbers in front
are checked exactly; what follows them from a hyphen or a plus sign on is not looked
at, so texts without proper suffixes are accepted too, and no others.
-/

set_option autoImplicit false

namespace Eligibility.Version

open Eligibility.Number (IsNumeral isNumeral_iff isNumeral_toDigits)

/-! ## The grammar -/

structure IsIdentifier (part : List Char) : Prop where
  ne_nil : part ≠ []
  chars : ∀ c ∈ part, c.isAlphanum = true ∨ c = '-'

/-- An identifier of a pre-release is a numeral if it has digits only. -/
structure IsPreRelease (part : List Char) : Prop extends IsIdentifier part where
  numeric : (∀ c ∈ part, c.isDigit = true) → IsNumeral part

/-- Identifiers with points between them behind a mark, and nothing if there are none. -/
def suffix (mark : Char) : List (List Char) → List Char
  | [] => []
  | parts => mark :: List.intercalate ['.'] parts

def HasSuffixes (rest : List Char) : Prop :=
  ∃ preRelease build : List (List Char),
    (∀ part ∈ preRelease, IsPreRelease part) ∧ (∀ part ∈ build, IsIdentifier part) ∧
    rest = suffix '-' preRelease ++ suffix '+' build

def numbers (major minor patch : Nat) : List Char :=
  List.intercalate ['.'] [Nat.toDigits 10 major, Nat.toDigits 10 minor, Nat.toDigits 10 patch]

def IsSemantic (s : String) : Prop :=
  ∃ major minor patch rest, s.toList = numbers major minor patch ++ rest ∧ HasSuffixes rest

/-! ## Numbers -/

theorem isNumber_iff {cs : List Char} : isNumber cs = true ↔ IsNumeral cs := by
  constructor
  · intro number
    simp only [isNumber, Bool.and_eq_true, Bool.or_eq_true, decide_eq_true_eq, List.all_eq_true]
      at number
    obtain ⟨⟨ne_nil, digits⟩, short | nonzero⟩ := number
    · obtain ⟨c, rfl⟩ := List.length_eq_one_iff.mp short
      exact ⟨ne_nil, digits, fun zero => by simpa using zero⟩
    · exact ⟨ne_nil, digits, fun zero => absurd zero nonzero⟩
  · rintro ⟨ne_nil, digits, unpadded⟩
    have short : cs.length = 1 ∨ cs.head? ≠ some '0' := by
      by_cases zero : cs.head? = some '0'
      · exact .inl (by rw [unpadded zero]; rfl)
      · exact .inr zero
    simp only [isNumber, Bool.and_eq_true, Bool.or_eq_true, decide_eq_true_eq, List.all_eq_true]
    exact ⟨⟨ne_nil, digits⟩, short⟩

theorem isDigit_or_point {major minor patch : Nat} {c : Char}
    (member : c ∈ numbers major minor patch) : c.isDigit = true ∨ c = '.' := by
  have digits := fun n => (isNumeral_toDigits n).digits c
  simp only [numbers, List.intercalate_cons_cons, List.intercalate_singleton, List.append_assoc,
    List.mem_append, List.mem_singleton] at member
  rcases member with digit | point | digit | point | digit
  · exact .inl (digits major digit)
  · exact .inr point
  · exact .inl (digits minor digit)
  · exact .inr point
  · exact .inl (digits patch digit)

theorem pieces_are_numbers_iff {cs : List Char} :
    ((Text.splitChars (· = '.') cs).length = 3 ∧
      ∀ piece ∈ Text.splitChars (· = '.') cs, isNumber piece = true) ↔
      ∃ major minor patch, cs = numbers major minor patch := by
  constructor
  · rintro ⟨three, each⟩
    obtain ⟨first, second, third, pieces⟩ := List.length_eq_three.mp three
    have whole := Text.intercalate_splitChars '.' cs
    rw [pieces] at each whole
    obtain ⟨major, rfl⟩ := isNumeral_iff.mp (isNumber_iff.mp (each first (by simp)))
    obtain ⟨minor, rfl⟩ := isNumeral_iff.mp (isNumber_iff.mp (each second (by simp)))
    obtain ⟨patch, rfl⟩ := isNumeral_iff.mp (isNumber_iff.mp (each third (by simp)))
    exact ⟨major, minor, patch, whole.symm⟩
  · rintro ⟨major, minor, patch, rfl⟩
    have numerals : ∀ piece ∈ [Nat.toDigits 10 major, Nat.toDigits 10 minor,
        Nat.toDigits 10 patch], IsNumeral piece := by
      simp [isNumeral_toDigits]
    have pieces : Text.splitChars (· = '.') (numbers major minor patch) =
        [Nat.toDigits 10 major, Nat.toDigits 10 minor, Nat.toDigits 10 patch] := by
      rw [Text.splitChars_eq_splitOn]
      refine List.splitOn_intercalate '.' (fun piece member point => ?_) (List.cons_ne_nil _ _)
      exact absurd ((numerals piece member).digits '.' point) (by decide)
    rw [pieces]
    exact ⟨rfl, fun piece member => isNumber_iff.mpr (numerals piece member)⟩

/-! ## What follows the numbers -/

def inNumbers (c : Char) : Bool := c ≠ '-' ∧ c ≠ '+'

def behindNumbers (cs : List Char) : List Char := cs.dropWhile inNumbers

inductive SetOff : List Char → Prop
  | nothing : SetOff []
  | hyphen (tail : List Char) : SetOff ('-' :: tail)
  | plus (tail : List Char) : SetOff ('+' :: tail)

theorem setOff_behindNumbers (cs : List Char) : SetOff (behindNumbers cs) := by
  have first := List.head?_dropWhile_not inNumbers cs
  rw [← behindNumbers] at first
  cases rest : behindNumbers cs with
  | nil => exact .nothing
  | cons mark tail =>
    have known : mark = '-' ∨ mark = '+' := by
      simpa [rest, inNumbers, imp_iff_not_or] using first
    rcases known with rfl | rfl
    · exact .hyphen tail
    · exact .plus tail

theorem HasSuffixes.setOff {rest : List Char} (suffixes : HasSuffixes rest) : SetOff rest := by
  obtain ⟨preRelease, build, _, _, rfl⟩ := suffixes
  match preRelease, build with
  | _ :: _, _ => exact .hyphen _
  | [], [] => exact .nothing
  | [], _ :: _ => exact .plus _

theorem inNumbers_of_mem {major minor patch : Nat} {c : Char}
    (member : c ∈ numbers major minor patch) : inNumbers c = true := by
  rcases isDigit_or_point member with digit | rfl
  · have noMark : c ≠ '-' ∧ c ≠ '+' := by constructor <;> rintro rfl <;> cases digit
    simpa [inNumbers] using noMark
  · rfl

section
variable {major minor patch : Nat} {rest : List Char}

theorem takeWhile_numbers (setOff : SetOff rest) :
    (numbers major minor patch ++ rest).takeWhile inNumbers = numbers major minor patch := by
  have stops : rest.takeWhile inNumbers = [] := by cases setOff <;> rfl
  rw [List.takeWhile_append_of_pos fun _ => inNumbers_of_mem, stops, List.append_nil]

theorem behindNumbers_numbers (setOff : SetOff rest) :
    behindNumbers (numbers major minor patch ++ rest) = rest := by
  have stays : rest.dropWhile inNumbers = rest := by cases setOff <;> rfl
  rw [behindNumbers, List.dropWhile_append_of_pos fun _ => inNumbers_of_mem, stays]

end

/-! ## Versions -/

theorem upTo_upTo (cs : List Char) : upTo '-' (upTo '+' cs) = cs.takeWhile inNumbers := by
  rw [upTo, upTo, List.takeWhile_takeWhile]
  congr 1
  funext c
  simp [inNumbers]

theorem isVersionChars_iff {cs : List Char} :
    isVersionChars cs = true ↔
      ∃ major minor patch, cs.takeWhile inNumbers = numbers major minor patch := by
  rw [← pieces_are_numbers_iff, ← upTo_upTo]
  simp only [isVersionChars, Bool.and_eq_true, decide_eq_true_eq, List.all_eq_true]

theorem isVersion_iff_setOff {s : String} :
    isVersion s = true ↔ ∃ major minor patch rest,
      s.toList = numbers major minor patch ++ rest ∧ SetOff rest := by
  rw [isVersion, isVersionChars_iff]
  constructor
  · rintro ⟨major, minor, patch, front⟩
    refine ⟨major, minor, patch, behindNumbers s.toList, ?_, setOff_behindNumbers _⟩
    rw [← front, behindNumbers, List.takeWhile_append_dropWhile]
  · rintro ⟨major, minor, patch, rest, whole, setOff⟩
    exact ⟨major, minor, patch, by rw [whole, takeWhile_numbers setOff]⟩

theorem isSemantic_iff {s : String} :
    IsSemantic s ↔ isVersion s = true ∧ HasSuffixes (behindNumbers s.toList) := by
  rw [isVersion_iff_setOff]
  constructor
  · rintro ⟨major, minor, patch, rest, whole, suffixes⟩
    refine ⟨⟨major, minor, patch, rest, whole, suffixes.setOff⟩, ?_⟩
    rwa [whole, behindNumbers_numbers suffixes.setOff]
  · rintro ⟨⟨major, minor, patch, rest, whole, setOff⟩, suffixes⟩
    rw [whole, behindNumbers_numbers setOff] at suffixes
    exact ⟨major, minor, patch, rest, whole, suffixes⟩

/-- A text is accepted exactly if three numbers stand in it, up to its end or to a
hyphen or plus sign, whatever follows these. So every semantic version is accepted, and
an accepted text is one exactly if what follows its numbers are suffixes. -/
theorem accepts_numbers_before_anything (s : String) :
    (isVersion s = true ↔ ∃ major minor patch rest,
      s.toList = numbers major minor patch ++ rest ∧ SetOff rest) ∧
    (IsSemantic s ↔ isVersion s = true ∧ HasSuffixes (behindNumbers s.toList)) :=
  ⟨isVersion_iff_setOff, isSemantic_iff⟩

/-- A hyphen with nothing behind it is accepted. -/
theorem accepts_bare_hyphen : isVersion "1.0.0-" = true ∧ ¬ IsSemantic "1.0.0-" := by
  refine ⟨by decide, fun semantic => ?_⟩
  obtain ⟨preRelease, build, parts, _, behind⟩ := (isSemantic_iff.mp semantic).2
  have behind : ['-'] = suffix '-' preRelease ++ suffix '+' build := behind
  match preRelease, build with
  | [], [] => cases behind
  | [], _ :: _ => cases behind
  | [part], build =>
    have nothing : [] = List.intercalate ['.'] [part] ++ suffix '+' build :=
      (List.cons.inj behind).2
    rw [List.intercalate_singleton] at nothing
    exact (parts part List.mem_cons_self).ne_nil (List.append_eq_nil_iff.mp nothing.symm).1
  | part :: next :: more, build => simp [suffix] at behind

end Eligibility.Version
