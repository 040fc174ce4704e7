import Eligibility.Proofs.Engine.Placement
import Eligibility.Proofs.Evaluation.Asked

/-!
Answers that nobody asks for. The verdict on a program depends on what its
scored rules ask the context for, and on nothing else but the figures shown
beside them. Rules that read by name ask for their variables alone; a rule that
tests for missing answers asks for more.
-/

set_option autoImplicit false

namespace Eligibility

/-! ## Tallies -/

namespace Tally

def Setting.scope (setting : Setting) : Scope := setting.evaluator.scope setting.options

/-- The tally without the figures that explain its rules. They show the profile
field that the id of a rule names, whether the rule reads it or not. -/
def withoutFigures (tally : Tally) : Tally := { tally with calculations := [] }

section
variable {setting : Setting} {first second : Context}

theorem Setting.result_eq_of_asked {rule : Rule}
    (agree : ∀ path ∈ rule.expression.asked first setting.scope,
      first.get? path = second.get? path) :
    setting.result rule first = setting.result rule second := by
  have walked : rule.expression.evaluate first setting.scope =
      rule.expression.evaluate second setting.scope := Expr.evaluate_eq_of_asked agree
  -- The depth guard does not look at the context.
  rw [Setting.result_eq_evaluate, Setting.result_eq_evaluate, ← Setting.scope, walked]

theorem unanswered_eq_of_vars {rule : Rule}
    (agree : ∀ path ∈ rule.expression.vars, first.get? path = second.get? path) :
    unanswered first rule = unanswered second rule := by
  apply List.filter_congr
  intro path read
  rw [Context.isAnswered_congr (agree path read)]

theorem part_withoutFigures {rule : Rule}
    (result : setting.result rule first = setting.result rule second)
    (missed : unanswered first rule = unanswered second rule) :
    (part setting first rule).withoutFigures = (part setting second rule).withoutFigures := by
  -- Only the figures look at the context again.
  unfold part
  rw [result, missed]
  cases setting.result rule second <;> rfl

theorem concat_withoutFigures (programId : String) (parts : List Tally) :
    (concat programId parts).withoutFigures = concat programId (parts.map withoutFigures) := by
  simp [concat, withoutFigures, List.flatMap_map, Function.comp_def]

theorem ofProgram_withoutFigures {programId : String} {rules : List Rule}
    (agree : ∀ rule ∈ scoredRules programId rules,
      ∀ path ∈ rule.expression.asked first setting.scope, first.get? path = second.get? path) :
    (ofProgram setting first programId rules).withoutFigures =
      (ofProgram setting second programId rules).withoutFigures := by
  rw [ofProgram_eq_concat, ofProgram_eq_concat, concat_withoutFigures, concat_withoutFigures,
    List.map_map, List.map_map]
  congr 1
  apply List.map_congr_left
  intro rule scored
  apply part_withoutFigures
  · exact Setting.result_eq_of_asked (agree rule scored)
  · exact unanswered_eq_of_vars fun path read =>
      agree rule scored path (Expr.vars_subset_asked first setting.scope _ read)

end

end Tally

/-! ## Verdicts -/

def Verdict.withoutFigures (verdict : Verdict) : Verdict := { verdict with calculations := [] }

theorem Verdict.ofTally_withoutFigures (tally : Tally) (name : String) :
    (ofTally tally name).withoutFigures = ofTally tally.withoutFigures name := rfl

namespace Engine

variable {engine : Engine} {programId : String}

theorem evaluateProgram?_withoutFigures {first second : Context}
    (agree : ∀ rule ∈ Tally.scoredRules programId engine.rules,
      ∀ path ∈ rule.expression.asked first engine.setting.scope,
        first.get? path = second.get? path) :
    (engine.evaluateProgram? programId first).map Verdict.withoutFigures =
      (engine.evaluateProgram? programId second).map Verdict.withoutFigures := by
  have verdicts : (engine.verdict first programId).withoutFigures =
      (engine.verdict second programId).withoutFigures := by
    unfold verdict tally
    rw [Verdict.ofTally_withoutFigures, Verdict.ofTally_withoutFigures,
      Tally.ofProgram_withoutFigures agree]
  unfold evaluateProgram?
  split
  · exact congrArg some verdicts
  · rfl

/-- The verdict on a program, but for the figures shown beside it, does not
change with an answer that overlaps nothing a scored rule asks for. Of a rule
that reads by name its variables tell, whether the profile is complete or not. -/
theorem verdict_ignores_unasked_answer (ctx : Context) {written : String} (value : Value)
    (unasked : ∀ rule ∈ Tally.scoredRules programId engine.rules,
      (∀ path ∈ rule.expression.asked ctx engine.setting.scope,
        (Path.ofText written).overlaps (Path.ofText path) = false) ∨
      rule.expression.ReadsByName ∧ ∀ path ∈ rule.expression.vars,
        (Path.ofText written).overlaps (Path.ofText path) = false) :
    (engine.evaluateProgram? programId (ctx.insert written value)).map Verdict.withoutFigures =
      (engine.evaluateProgram? programId ctx).map Verdict.withoutFigures := by
  refine (evaluateProgram?_withoutFigures fun rule member path found => ?_).symm
  have apart : (Path.ofText written).overlaps (Path.ofText path) = false := by
    rcases unasked rule member with apart | ⟨byName, apart⟩
    · exact apart path found
    · exact apart path (byName.asked_subset_vars ctx _ found)
  exact (ctx.get?_insert_of_apart apart value).symm

def adult : Expr := .call ">=" [.var "age" none, .literal (.int 18)]

def employed : Expr := .call "!" [.call "missing" [.literal (.text "employer")]]

def hiring : Engine :=
  { standard (.midnight ⟨2026, 6, 16, by decide, by decide⟩) with
    packages := [Package.named "jobs" "US" "1.0.0"
      |>.withRule (.ofExpr "adult" "work" adult)
      |>.withRule (.ofExpr "employed" "work" employed)]
    policy := .explicitOnly }

/-- A state of residence changes nothing. One rule reads an age by name, and the
other asks for an employer. -/
theorem verdict_ignores_state_of_residence :
    let ctx := Context.empty.insert "age" (.int 30)
    adult.ReadsByName ∧ adult.vars = ["age"] ∧
    employed.asked ctx hiring.setting.scope = ["employer"] ∧
    (hiring.evaluateProgram? "work" (ctx.insert "state" (.text "OR"))).map
        Verdict.withoutFigures =
      (hiring.evaluateProgram? "work" ctx).map Verdict.withoutFigures := by
  intro ctx
  have byName : adult.ReadsByName :=
    { noneMissing := by simp [adult, Expr.nodes, Expr.nodesOfAll]
      noneNamedVar := by simp [adult, Expr.nodes, Expr.nodesOfAll]
      named := by simp [adult, Expr.nodes, Expr.nodesOfAll] }
  have vars : adult.vars = ["age"] := by decide
  have asked : employed.asked ctx hiring.setting.scope = ["employer"] := by decide +kernel
  have scored : Tally.scoredRules "work" hiring.rules =
      [.ofExpr "adult" "work" adult, .ofExpr "employed" "work" employed] := rfl
  refine ⟨byName, vars, asked, verdict_ignores_unasked_answer ctx (.text "OR") ?_⟩
  rw [scored, List.forall_mem_cons, List.forall_mem_singleton]
  constructor
  · refine .inr ⟨byName, ?_⟩
    change ∀ path ∈ adult.vars, _
    rw [vars]
    decide
  · refine .inl ?_
    change ∀ path ∈ employed.asked ctx hiring.setting.scope, _
    rw [asked]
    decide

/-- An employer is no variable of the rule that asks for one, so a profile without
is complete; and the answer still turns the verdict. -/
theorem verdict_turns_on_employer :
    ¬ ∀ (engine : Engine) (programId : String) (ctx : Context) (written : String)
        (value : Value) (before after : Verdict),
      engine.evaluateProgram? programId ctx = some before →
      before.incompleteProfile = false →
      ctx.isAnswered written = false →
      (∀ rule ∈ Tally.scoredRules programId engine.rules, ∀ path ∈ rule.expression.vars,
        (Path.ofText written).overlaps (Path.ofText path) = false) →
      engine.evaluateProgram? programId (ctx.insert written value) = some after →
      after.passedRules = before.passedRules ∧ after.totalRules = before.totalRules ∧
        after.status = before.status ∧ after.score = before.score ∧
        after.hardStop = before.hardStop := by
  intro never
  let ctx := Context.empty.insert "age" (.int 30)
  let answered := ctx.insert "employer" (.text "Acme")
  have complete : (hiring.verdict ctx "work").incompleteProfile = false := by decide +kernel
  have unanswered : ctx.isAnswered "employer" = false := by decide
  have apart : ∀ rule ∈ Tally.scoredRules "work" hiring.rules, ∀ path ∈ rule.expression.vars,
      (Path.ofText "employer").overlaps (Path.ofText path) = false := by decide +kernel
  have fails : (hiring.verdict ctx "work").passedRules = 1 := by decide +kernel
  have passes : (hiring.verdict answered "work").passedRules = 2 := by decide +kernel
  obtain ⟨passed, _⟩ := never hiring "work" ctx "employer" (.text "Acme")
    (hiring.verdict ctx "work") (hiring.verdict answered "work") rfl complete unanswered apart rfl
  rw [passes, fails] at passed
  cases passed

end Engine

end Eligibility
