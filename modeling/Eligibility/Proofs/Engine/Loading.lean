import Eligibility.Engine
import Eligibility.Proofs.Rule.Validation

/-!
Packages loaded into an engine in place, one after the other. Those that pass
validation get in, in the order of the calls; a refusal tells the first problem of
the package and leaves the engine as it was, so nothing that is asked later can tell
it from an engine that the package was never offered to.
-/

set_option autoImplicit false

namespace Eligibility.Engine

/-- A run that changes an engine as it goes, and may stop with a problem. What it has
changed by then stays. -/
abbrev Loading := ExceptT PackageProblem (StateM Engine)

/-- Loads a package in place: validation comes first and may stop the call. -/
def load (package : Package) : Loading Unit := do
  MonadExcept.ofExcept package.validate
  modify fun engine => { engine with packages := engine.packages ++ [package] }

def loadAll (packages : List Package) : StateM Engine (List (Except PackageProblem Unit)) :=
  packages.mapM fun package => (load package).run

def afterLoading (engine : Engine) (packages : List Package) : Engine :=
  ((loadAll packages).run engine).2

/-! ## One call -/

section
variable (engine : Engine) {package : Package}

theorem addPackage_of_valid (valid : package.validate = .ok ()) :
    engine.addPackage package = .ok { engine with packages := engine.packages ++ [package] } := by
  have fine := Package.problem?_eq_none_iff.mpr (Package.validate_eq_ok_iff.mp valid)
  rw [addPackage, fine]

theorem addPackage_of_refused {problem : PackageProblem}
    (refused : package.validate = .error problem) : engine.addPackage package = .error problem := by
  have told := Package.problem?_eq_some_iff.mpr (Package.validate_eq_error_iff.mp refused)
  rw [addPackage, told]

theorem run_load_of_valid (valid : package.validate = .ok ()) :
    (load package).run.run engine =
      (.ok (), { engine with packages := engine.packages ++ [package] }) := by
  rw [load, valid]
  rfl

theorem run_load_of_refused {problem : PackageProblem}
    (refused : package.validate = .error problem) :
    (load package).run.run engine = (.error problem, engine) := by
  rw [load, refused]
  rfl

/-- The call in place answers as the one that gives a new engine, and leaves that engine,
or else the old one. -/
theorem run_load (package : Package) : (load package).run.run engine =
    match engine.addPackage package with
    | .ok loaded => (.ok (), loaded)
    | .error problem => (.error problem, engine) := by
  cases answer : package.validate with
  | ok =>
    rw [run_load_of_valid engine answer, addPackage_of_valid engine answer]
  | error problem =>
    rw [run_load_of_refused engine answer, addPackage_of_refused engine answer]

end

/-! ## Many calls -/

theorem run_loadAll_cons (engine : Engine) (package : Package) (rest : List Package) :
    (loadAll (package :: rest)).run engine =
      (((load package).run.run engine).1 ::
          ((loadAll rest).run ((load package).run.run engine).2).1,
        ((loadAll rest).run ((load package).run.run engine).2).2) := by
  rw [loadAll, List.mapM_cons]
  rfl

theorem run_loadAll (engine : Engine) (packages : List Package) :
    (loadAll packages).run engine =
      (packages.map Package.validate,
        { engine with
          packages := engine.packages ++ packages.filter fun p => p.validate = .ok () }) := by
  induction packages generalizing engine with
  | nil =>
    rw [List.filter_nil, List.append_nil]
    rfl
  | cons package rest ih =>
    rw [run_loadAll_cons]
    cases answer : package.validate with
    | ok =>
      rw [run_load_of_valid engine answer, ih, List.append_assoc]
      simp [answer]
    | error problem =>
      rw [run_load_of_refused engine answer, ih]
      simp [answer]

theorem afterLoading_eq (engine : Engine) (packages : List Package) :
    engine.afterLoading packages =
      { engine with
        packages := engine.packages ++ packages.filter fun p => p.validate = .ok () } := by
  rw [afterLoading, run_loadAll]

/-- Validation passes the packages that are in order and tells the first problem of
any other. A call in place has the answer and the effect of adding the package. A
series of calls adds the packages that pass, in the order of the calls. A refused
call leaves the engine as it is, and later calls leave what they would leave without
it: the same packages and programs, with the same results. -/
theorem only_valid_packages_get_in :
    (∀ package : Package, (package.validate = .ok () ↔ package.InOrder) ∧
      ∀ problem, package.validate = .error problem ↔ package.FirstProblem problem) ∧
    (∀ (engine : Engine) (package : Package), (load package).run.run engine =
      match engine.addPackage package with
      | .ok loaded => (.ok (), loaded)
      | .error problem => (.error problem, engine)) ∧
    (∀ (engine : Engine) (packages : List Package),
      ((loadAll packages).run engine).1 = packages.map Package.validate ∧
      engine.afterLoading packages =
        { engine with
          packages := engine.packages ++ packages.filter fun p => p.validate = .ok () }) ∧
    (∀ (engine : Engine) (before : List Package) (refused : Package) (problem : PackageProblem),
      refused.validate = .error problem →
        (load refused).run.run (engine.afterLoading before) =
          (.error problem, engine.afterLoading before) ∧
        ∀ later : List Package,
          let offered := engine.afterLoading (before ++ refused :: later)
          let spared := engine.afterLoading (before ++ later)
          offered.packages = spared.packages ∧ offered.programs = spared.programs ∧
            (∀ ctx, offered.evaluate ctx = spared.evaluate ctx) ∧
            ∀ programId ctx,
              offered.evaluateProgram? programId ctx = spared.evaluateProgram? programId ctx) := by
  refine ⟨fun package => ⟨Package.validate_eq_ok_iff, fun _ => Package.validate_eq_error_iff⟩,
    run_load, fun engine packages => ⟨?_, afterLoading_eq engine packages⟩, ?_⟩
  · rw [run_loadAll]
  · intro engine before refused problem told
    refine ⟨run_load_of_refused _ told, fun later => ?_⟩
    have same : engine.afterLoading (before ++ refused :: later) =
        engine.afterLoading (before ++ later) := by
      simp [afterLoading_eq, told]
    intro offered spared
    have indistinct : offered = spared := same
    rw [indistinct]
    exact ⟨rfl, rfl, fun _ => rfl, fun _ _ => rfl⟩

/-- A package whose second rule repeats an id and names no program, between two
that are in order. Its third rule has a problem of its own. -/
theorem only_valid_packages_get_in_past_repeated_id :
    let adult := Rule.ofExpr "adult" "work" (.call ">=" [.var "age" none, .literal (.int 18)])
    let federal := (Package.named "federal" "US" "1.0.0").withRule adult
    let broken := (Package.named "state" "US-GA" "0.3.1").withRule adult
      |>.withRule (.ofExpr "adult" " " (.literal .null))
      |>.withRule (.ofExpr "orphan" "" (.literal .null))
    let county := (Package.named "county" "US-GA" "2.10.3-beta").withRule adult
    let engine := standard (.midnight ⟨2024, 1, 1, by decide, by decide⟩)
    let problem : PackageProblem := .duplicateRule "state" "adult"
    broken.validate = .error problem ∧ broken.FirstProblem problem ∧
      (engine.afterLoading [federal, broken, county]).packages = [federal, county] ∧
      (load broken).run.run (engine.afterLoading [federal]) =
        (.error problem, engine.afterLoading [federal]) ∧
      ∀ ctx, (engine.afterLoading [federal, broken, county]).evaluate ctx =
        (engine.afterLoading [federal, county]).evaluate ctx := by
  intro adult federal broken county engine problem
  obtain ⟨validates, _, adds, refuses⟩ := only_valid_packages_get_in
  have told : broken.validate = .error problem := by decide +kernel
  have first : federal.validate = .ok () := by decide +kernel
  have last : county.validate = .ok () := by decide +kernel
  obtain ⟨kept, later⟩ := refuses engine [federal] broken problem told
  refine ⟨told, ((validates broken).2 problem).mp told, ?_, kept, (later [county]).2.2.1⟩
  rw [(adds engine [federal, broken, county]).2]
  simp [told, first, last, engine, standard]

end Eligibility.Engine
