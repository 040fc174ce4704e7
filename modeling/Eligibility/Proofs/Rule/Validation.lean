import Mathlib.Data.List.TakeWhile
import Eligibility.Rule.Package

/-!
Which packages are in order, and what is told of one that is not. The rules are
passed once, with the ids so far; what is told is the problem of the earliest rule
that has one, and of its two problems the repeated id.
-/

set_option autoImplicit false

namespace Eligibility

/-! ## Blank texts -/

namespace Text

theorem all_dropWhile_isBlank (cs : List Char) :
    (cs.dropWhile isBlank).all isBlank = cs.all isBlank := by
  induction cs with
  | nil => rfl
  | cons c rest ih =>
    by_cases blank : isBlank c = true
    · simp only [List.dropWhile_cons, blank, if_true, ih, List.all_cons, Bool.true_and]
    · simp [blank]

theorem isBlankText_iff {s : String} : isBlankText s = true ↔ trim s = "" := by
  have left : trimChars s.toList = [] ↔ isBlankText s = true := by
    rw [trimChars, List.reverse_eq_nil_iff, List.dropWhile_eq_nil_iff, ← List.all_eq_true,
      List.all_reverse, all_dropWhile_isBlank]
    rfl
  rw [← left, trim, String.ofList_eq_empty_iff]

theorem isBlankText_eq_false_iff {s : String} : isBlankText s = false ↔ trim s ≠ "" := by
  rw [← Bool.not_eq_true, isBlankText_iff]

end Text

namespace Package

/-! ## One rule -/

section
variable {package : String} {seen other : List String} {rule : Rule} {rest : List Rule}
  {problem : PackageProblem}

def RuleFits (seen : List String) (rule : Rule) : Prop :=
  rule.id ∉ seen ∧ Text.trim rule.programId ≠ ""

inductive RuleFault (package : String) (seen : List String) (rule : Rule) : PackageProblem → Prop
  | duplicate : rule.id ∈ seen → RuleFault package seen rule (.duplicateRule package rule.id)
  | unplaced : rule.id ∉ seen → Text.trim rule.programId = "" →
      RuleFault package seen rule (.missingProgram package rule.id)

theorem RuleFault.congr (same : ∀ id, id ∈ seen ↔ id ∈ other)
    (fault : RuleFault package seen rule problem) : RuleFault package other rule problem := by
  cases fault with
  | duplicate known => exact .duplicate ((same _).mp known)
  | unplaced new blank => exact .unplaced (mt (same _).mpr new) blank

theorem RuleFault.not_fits (fault : RuleFault package seen rule problem) :
    ¬ RuleFits seen rule := by
  rintro ⟨new, placed⟩
  cases fault with
  | duplicate known => exact new known
  | unplaced _ blank => exact placed blank

theorem ruleProblem?_of_fault (fault : RuleFault package seen rule problem) :
    ruleProblem? package seen (rule :: rest) = some problem := by
  rw [ruleProblem?]
  cases fault with
  | duplicate known => rw [if_pos known]
  | unplaced new blank => rw [if_neg new, if_pos (Text.isBlankText_iff.mpr blank)]

theorem ruleProblem?_of_fits (fits : RuleFits seen rule) :
    ruleProblem? package seen (rule :: rest) = ruleProblem? package (rule.id :: seen) rest := by
  have placed : Text.isBlankText rule.programId = false := Text.isBlankText_eq_false_iff.mpr fits.2
  rw [ruleProblem?, if_neg fits.1, placed]
  rfl

theorem fits_or_fault (package : String) (seen : List String) (rule : Rule) :
    RuleFits seen rule ∨ ∃ problem, RuleFault package seen rule problem := by
  by_cases known : rule.id ∈ seen
  · exact .inr ⟨_, .duplicate known⟩
  · by_cases blank : Text.trim rule.programId = ""
    · exact .inr ⟨_, .unplaced known blank⟩
    · exact .inl ⟨known, blank⟩

/-! ## All rules -/

/-- Every rule fits behind the seen ids and those of the rules before it. -/
structure RulesFit (seen : List String) (rules : List Rule) : Prop where
  distinct : (rules.map (·.id)).Nodup
  fresh : ∀ rule ∈ rules, rule.id ∉ seen
  placed : ∀ rule ∈ rules, Text.trim rule.programId ≠ ""

theorem RulesFit.nil (seen : List String) : RulesFit seen [] := ⟨.nil, nofun, nofun⟩

theorem rulesFit_cons :
    RulesFit seen (rule :: rest) ↔ RuleFits seen rule ∧ RulesFit (rule.id :: seen) rest := by
  constructor
  · rintro ⟨distinct, fresh, placed⟩
    obtain ⟨new, distinct⟩ := List.nodup_cons.mp distinct
    obtain ⟨here, later⟩ := List.forall_mem_cons.mp fresh
    obtain ⟨placedHere, placedLater⟩ := List.forall_mem_cons.mp placed
    refine ⟨⟨here, placedHere⟩, distinct, fun other member => ?_, placedLater⟩
    rw [List.mem_cons, not_or]
    exact ⟨fun same => new (List.mem_map.mpr ⟨other, member, same⟩), later other member⟩
  · rintro ⟨⟨here, placedHere⟩, distinct, fresh, placed⟩
    have apart : ∀ other ∈ rest, other.id ≠ rule.id ∧ other.id ∉ seen := by
      intro other member
      simpa only [List.mem_cons, not_or] using fresh other member
    refine ⟨List.nodup_cons.mpr ⟨?_, distinct⟩, ?_, List.forall_mem_cons.mpr ⟨placedHere, placed⟩⟩
    · intro again
      obtain ⟨other, member, same⟩ := List.mem_map.mp again
      exact (apart other member).1 same
    · exact List.forall_mem_cons.mpr ⟨here, fun other member => (apart other member).2⟩

theorem ruleProblem?_eq_none_iff {rules : List Rule} :
    ruleProblem? package seen rules = none ↔ RulesFit seen rules := by
  induction rules generalizing seen with
  | nil => exact ⟨fun _ => .nil seen, fun _ => rfl⟩
  | cons rule rest ih =>
    rw [rulesFit_cons]
    rcases fits_or_fault package seen rule with fits | ⟨problem, fault⟩
    · rw [ruleProblem?_of_fits fits, ih, and_iff_right fits]
    · simp [ruleProblem?_of_fault fault, fault.not_fits]

theorem ruleProblem?_eq_some_iff {rules : List Rule} :
    ruleProblem? package seen rules = some problem ↔
      ∃ before rule after, rules = before ++ rule :: after ∧ RulesFit seen before ∧
        RuleFault package (before.map (·.id) ++ seen) rule problem := by
  induction rules generalizing seen with
  | nil => simp [ruleProblem?]
  | cons rule rest ih =>
    rcases fits_or_fault package seen rule with fits | ⟨own, own_fault⟩
    · -- The id of a rule that fits moves from the seen ids to those of the rules before.
      rw [ruleProblem?_of_fits fits, ih]
      constructor
      · rintro ⟨before, bad, after, rfl, fit, fault⟩
        refine ⟨rule :: before, bad, after, rfl, rulesFit_cons.mpr ⟨fits, fit⟩, fault.congr ?_⟩
        exact fun _ => List.perm_middle.mem_iff
      · rintro ⟨before, bad, after, split, fit, fault⟩
        cases before with
        | nil =>
          obtain ⟨rfl, rfl⟩ := List.cons.inj split
          exact absurd fits fault.not_fits
        | cons first before =>
          obtain ⟨rfl, rfl⟩ := List.cons.inj split
          refine ⟨before, bad, after, rfl, (rulesFit_cons.mp fit).2, fault.congr ?_⟩
          exact fun _ => List.perm_middle.mem_iff.symm
    · constructor
      · intro told
        rw [ruleProblem?_of_fault own_fault] at told
        cases told
        exact ⟨[], rule, rest, rfl, .nil seen, own_fault⟩
      · rintro ⟨before, bad, after, split, fit, fault⟩
        cases before with
        | nil =>
          obtain ⟨rfl, rfl⟩ := List.cons.inj split
          exact ruleProblem?_of_fault fault
        | cons first before =>
          obtain ⟨rfl, rfl⟩ := List.cons.inj split
          exact absurd (rulesFit_cons.mp fit).1 own_fault.not_fits

end

/-! ## Packages -/

structure InOrder (package : Package) : Prop where
  named : Text.trim package.name ≠ ""
  versioned : Version.isVersion package.version = true
  distinct : (package.rules.map (·.id)).Nodup
  placed : ∀ rule ∈ package.rules, Text.trim rule.programId ≠ ""

/-- The first thing that is wrong with the package: its name, its version, or the
earliest rule that repeats an earlier id or names no program. -/
inductive FirstProblem (package : Package) : PackageProblem → Prop
  | name : Text.trim package.name = "" → FirstProblem package .missingName
  | version : Text.trim package.name ≠ "" → Version.isVersion package.version = false →
      FirstProblem package (.invalidVersion package.name package.version)
  | rule {before : List Rule} {rule : Rule} {after : List Rule} {problem : PackageProblem} :
      Text.trim package.name ≠ "" → Version.isVersion package.version = true →
      package.rules = before ++ rule :: after →
      (before.map (·.id)).Nodup → (∀ earlier ∈ before, Text.trim earlier.programId ≠ "") →
      RuleFault package.name (before.map (·.id)) rule problem →
      FirstProblem package problem

section
variable {package : Package}

theorem problem?_of_unnamed (unnamed : Text.trim package.name = "") :
    package.problem? = some .missingName := by
  rw [problem?, if_pos (Text.isBlankText_iff.mpr unnamed)]

theorem problem?_of_unversioned (named : Text.trim package.name ≠ "")
    (unversioned : Version.isVersion package.version = false) :
    package.problem? = some (.invalidVersion package.name package.version) := by
  simp [problem?, Text.isBlankText_eq_false_iff.mpr named, unversioned]

theorem problem?_of_headed (named : Text.trim package.name ≠ "")
    (versioned : Version.isVersion package.version = true) :
    package.problem? = ruleProblem? package.name [] package.rules := by
  simp [problem?, Text.isBlankText_eq_false_iff.mpr named, versioned]

theorem problem?_eq_none_iff : package.problem? = none ↔ package.InOrder := by
  constructor
  · intro fine
    by_cases named : Text.trim package.name = ""
    · rw [problem?_of_unnamed named] at fine
      cases fine
    · cases versioned : Version.isVersion package.version with
      | false =>
        rw [problem?_of_unversioned named versioned] at fine
        cases fine
      | true =>
        rw [problem?_of_headed named versioned, ruleProblem?_eq_none_iff] at fine
        exact ⟨named, versioned, fine.distinct, fine.placed⟩
  · rintro ⟨named, versioned, distinct, placed⟩
    rw [problem?_of_headed named versioned, ruleProblem?_eq_none_iff]
    exact ⟨distinct, fun _ _ => List.not_mem_nil, placed⟩

theorem problem?_eq_some_iff {problem : PackageProblem} :
    package.problem? = some problem ↔ package.FirstProblem problem := by
  constructor
  · intro told
    by_cases named : Text.trim package.name = ""
    · rw [problem?_of_unnamed named] at told
      cases told
      exact .name named
    · cases versioned : Version.isVersion package.version with
      | false =>
        rw [problem?_of_unversioned named versioned] at told
        cases told
        exact .version named versioned
      | true =>
        rw [problem?_of_headed named versioned, ruleProblem?_eq_some_iff] at told
        obtain ⟨before, rule, after, split, fit, fault⟩ := told
        rw [List.append_nil] at fault
        exact .rule named versioned split fit.distinct fit.placed fault
  · intro first
    cases first with
    | name unnamed => exact problem?_of_unnamed unnamed
    | version named unversioned => exact problem?_of_unversioned named unversioned
    | rule named versioned split distinct placed fault =>
      rw [problem?_of_headed named versioned, ruleProblem?_eq_some_iff]
      refine ⟨_, _, _, split, ⟨distinct, fun _ _ => List.not_mem_nil, placed⟩, ?_⟩
      rwa [List.append_nil]

end

theorem validate_eq_ok_iff {package : Package} :
    package.validate = .ok () ↔ package.InOrder := by
  rw [← problem?_eq_none_iff, validate]
  cases package.problem? <;> simp

theorem validate_eq_error_iff {package : Package} {problem : PackageProblem} :
    package.validate = .error problem ↔ package.FirstProblem problem := by
  rw [← problem?_eq_some_iff, validate]
  cases package.problem? <;> simp

end Package

end Eligibility
