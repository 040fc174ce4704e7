import Mathlib.Algebra.Ring.Nat
import Eligibility.Program.Tally
import Eligibility.Proofs.Evaluation.Guard

/-!
The accounts of a run over the rules of a program. A run adds up parts that the
scored rules contribute each on its own, in their order, and its counts and
lists agree with each other. A rule comes to what its expression evaluates to, or
to the refusal of one that nests too deep. What a failure is thrown as, the deadline
and the measuring of time leave no trace in a run.
-/

set_option autoImplicit false

namespace Eligibility.Tally

variable (setting : Setting) (ctx : Context)

/-! ## What one rule contributes -/

def Setting.evaluates (rule : Rule) : Bool :=
  match setting.result rule ctx with
  | .ok _ => true
  | .error _ => false

def Setting.meets (rule : Rule) : Bool :=
  match setting.result rule ctx with
  | .ok value => passes value
  | .error _ => false

def Setting.fails (rule : Rule) : Bool := setting.evaluates ctx rule && !setting.meets ctx rule

def failure? (rule : Rule) : Option RuleFailure :=
  match setting.result rule ctx with
  | .ok _ => none
  | .error failure => some ⟨rule.id, failure⟩

def unanswered (rule : Rule) : List String :=
  rule.expression.vars.filter fun path => !ctx.isAnswered path

/-- The part of one rule: its failure and the answers it misses, or one entry
for everything that counts and lists rules with a value. -/
def part (rule : Rule) : Tally :=
  match setting.result rule ctx with
  | .error failure =>
    { empty rule.programId with
      errors := [⟨rule.id, failure⟩]
      missingFields := unanswered ctx rule }
  | .ok value =>
    { programId := rule.programId
      passedRules := if passes value then 1 else 0
      totalRules := 1
      rulesCited := [rule.id]
      details := [detail (passes value) rule]
      calculations := (Calculation.ofRule? rule ctx).toList
      failedRules := if passes value then [] else [rule.id]
      hardStopFailures := if !passes value && setting.policy.isHardStop rule then [rule.id] else []
      errors := []
      documents := rule.documents
      nextSteps := rule.nextSteps
      missingFields := unanswered ctx rule }

/-- Parts one after the other. A path that several parts miss is missed once. -/
def concat (programId : String) (parts : List Tally) : Tally where
  programId := programId
  passedRules := (parts.map (·.passedRules)).sum
  totalRules := (parts.map (·.totalRules)).sum
  rulesCited := parts.flatMap (·.rulesCited)
  details := parts.flatMap (·.details)
  calculations := parts.flatMap (·.calculations)
  failedRules := parts.flatMap (·.failedRules)
  hardStopFailures := parts.flatMap (·.hardStopFailures)
  errors := parts.flatMap (·.errors)
  documents := parts.flatMap (·.documents)
  nextSteps := parts.flatMap (·.nextSteps)
  missingFields := (parts.flatMap (·.missingFields)).eraseDups

theorem passes_iff (value : Value) : passes value = true ↔ value = .bool true := by
  cases value <;> simp [passes]

/-! ## Missing answers -/

theorem noteMissing_eraseDups (seen : List String) (path : String) :
    noteMissing ctx seen.eraseDups path =
      (seen ++ [path].filter fun path => !ctx.isAnswered path).eraseDups := by
  cases answered : ctx.isAnswered path with
  | true => simp [noteMissing, answered]
  | false =>
    by_cases known : path ∈ seen
    · simp [noteMissing, answered, known, List.eraseDups_append, List.removeAll]
    · have alone : [path].eraseDups = [path] := by simp [List.eraseDups_cons]
      simp [noteMissing, answered, known, List.eraseDups_append, List.removeAll, alone]

theorem foldl_noteMissing (paths seen : List String) :
    paths.foldl (noteMissing ctx) seen.eraseDups =
      (seen ++ paths.filter fun path => !ctx.isAnswered path).eraseDups := by
  induction paths generalizing seen with
  | nil => simp
  | cons path rest ih =>
    rw [List.foldl_cons, noteMissing_eraseDups, ih, List.append_assoc, ← List.filter_append]
    rfl

theorem nodup_eraseDups : ∀ paths : List String, paths.eraseDups.Nodup
  | [] => .nil
  | path :: rest => by
    -- The recursion goes on with what a filter leaves of the rest.
    rw [List.eraseDups_cons, List.nodup_cons]
    exact ⟨by simp [List.mem_eraseDups], nodup_eraseDups _⟩
termination_by paths => paths.length
decreasing_by exact Nat.lt_succ_of_le (List.length_filter_le _ rest)

/-! ## The run -/

theorem ofProgram_induction {motive : List Rule → Tally → Prop} (programId : String)
    (start : motive [] (empty programId))
    (step : ∀ done tally rule, motive done tally →
      motive (done ++ [rule]) (record setting ctx tally rule)) (rules : List Rule) :
    motive (scoredRules programId rules) (ofProgram setting ctx programId rules) := by
  have run : ∀ rest done tally, motive done tally →
      motive (done ++ rest) (rest.foldl (record setting ctx) tally) := by
    intro rest
    induction rest with
    | nil => intro done tally held; simpa using held
    | cons rule rest ih =>
      intro done tally held
      simpa using ih (done ++ [rule]) _ (step done tally rule held)
  exact run (scoredRules programId rules) [] _ start

theorem record_concat (programId : String) (parts : List Tally) (rule : Rule) :
    record setting ctx (concat programId parts) rule =
      concat programId (parts ++ [part setting ctx rule]) := by
  have missed : rule.expression.vars.foldl (noteMissing ctx) (concat programId parts).missingFields =
      (parts.flatMap (·.missingFields) ++ unanswered ctx rule).eraseDups :=
    foldl_noteMissing ctx _ _
  unfold record
  rw [missed]
  -- A rule without a value, a rule that passes, and a rule that fails.
  cases result : setting.result rule ctx with
  | error failure => simp [part, result, concat, empty]
  | ok value =>
    cases passed : passes value with
    | true => simp [part, result, concat, count, passed]
    | false =>
      cases stops : setting.policy.isHardStop rule <;>
        simp [part, result, concat, count, passed, stops]

theorem ofProgram_eq_concat (programId : String) (rules : List Rule) :
    ofProgram setting ctx programId rules =
      concat programId ((scoredRules programId rules).map (part setting ctx)) := by
  refine ofProgram_induction setting ctx programId (motive := fun done tally =>
    tally = concat programId (done.map (part setting ctx))) rfl ?_ rules
  rintro done tally rule rfl
  rw [record_concat, List.map_append]
  rfl

/-- How the entries of a tally come from the rules that it has gone through. -/
structure Accounts (done : List Rule) (tally : Tally) : Prop where
  errors : tally.errors = done.filterMap (failure? setting ctx)
  rulesCited : tally.rulesCited = (done.filter (setting.evaluates ctx)).map (·.id)
  details : tally.details =
    (done.filter (setting.evaluates ctx)).map fun rule => detail (setting.meets ctx rule) rule
  totalRules : tally.totalRules = (done.filter (setting.evaluates ctx)).length
  passedRules : tally.passedRules = (done.filter (setting.meets ctx)).length
  failedRules : tally.failedRules = (done.filter (setting.fails ctx)).map (·.id)
  hardStopFailures : tally.hardStopFailures =
    ((done.filter (setting.fails ctx)).filter setting.policy.isHardStop).map (·.id)
  calculations : tally.calculations =
    (done.filter (setting.evaluates ctx)).flatMap fun rule => (Calculation.ofRule? rule ctx).toList
  documents : tally.documents = (done.filter (setting.evaluates ctx)).flatMap (·.documents)
  nextSteps : tally.nextSteps = (done.filter (setting.evaluates ctx)).flatMap (·.nextSteps)
  missingFields : tally.missingFields = (done.flatMap (unanswered ctx)).eraseDups

theorem accounts_empty (programId : String) : Accounts setting ctx [] (empty programId) := by
  constructor <;> rfl

theorem accounts_record {done : List Rule} {tally : Tally} (rule : Rule)
    (accounts : Accounts setting ctx done tally) :
    Accounts setting ctx (done ++ [rule]) (record setting ctx tally rule) := by
  have missed : rule.expression.vars.foldl (noteMissing ctx) tally.missingFields =
      ((done ++ [rule]).flatMap (unanswered ctx)).eraseDups := by
    rw [accounts.missingFields, foldl_noteMissing]
    simp [unanswered]
  obtain ⟨errors, cited, details, total, passed, failed, stops, calculations, documents, steps, _⟩ :=
    accounts
  unfold record
  rw [missed]
  cases result : setting.result rule ctx with
  | error failure =>
    have evaluates : setting.evaluates ctx rule = false := by simp [Setting.evaluates, result]
    have meets : setting.meets ctx rule = false := by simp [Setting.meets, result]
    have fails : setting.fails ctx rule = false := by simp [Setting.fails, evaluates]
    constructor <;> simp [*, failure?]
  | ok value =>
    have evaluates : setting.evaluates ctx rule = true := by simp [Setting.evaluates, result]
    have meets : setting.meets ctx rule = passes value := by simp [Setting.meets, result]
    have fails : setting.fails ctx rule = !passes value := by
      simp [Setting.fails, evaluates, meets]
    cases passed : passes value with
    | true => constructor <;> simp [*, failure?, count]
    | false =>
      cases stops : setting.policy.isHardStop rule <;>
        constructor <;> simp [*, failure?, count]

theorem ofProgram_accounts (programId : String) (rules : List Rule) :
    Accounts setting ctx (scoredRules programId rules) (ofProgram setting ctx programId rules) :=
  ofProgram_induction setting ctx programId (accounts_empty setting ctx programId)
    (fun _ _ rule accounts => accounts_record setting ctx rule accounts) rules

/-! ## What the accounts imply -/

theorem part_cases (rule : Rule) :
    (∃ failure, setting.result rule ctx = .error failure ∧
      part setting ctx rule =
        { empty rule.programId with
          errors := [⟨rule.id, failure⟩]
          missingFields := unanswered ctx rule }) ∨
    (∃ value, setting.result rule ctx = .ok value ∧
      (part setting ctx rule).rulesCited = [rule.id] ∧
      (part setting ctx rule).details = [detail (passes value) rule] ∧
      (part setting ctx rule).errors = [] ∧
      ((part setting ctx rule).passedRules = 1 ↔ value = .bool true)) := by
  cases result : setting.result rule ctx with
  | error failure => exact .inl ⟨failure, rfl, by simp [part, result]⟩
  | ok value =>
    refine .inr ⟨value, rfl, ?_⟩
    simp [part, result, passes_iff]

theorem length_filter_evaluates (rules : List Rule) :
    (rules.filter (setting.evaluates ctx)).length =
      (rules.filter (setting.meets ctx)).length + (rules.filter (setting.fails ctx)).length := by
  induction rules with
  | nil => rfl
  | cons rule rest ih =>
    cases result : setting.result rule ctx with
    | error failure =>
      simp [Setting.evaluates, Setting.meets, Setting.fails, result] at ih ⊢
      exact ih
    | ok value =>
      cases passed : passes value <;>
        simp [Setting.evaluates, Setting.meets, Setting.fails, result, passed] at ih ⊢ <;>
        omega

theorem length_errors (rules : List Rule) :
    (rules.filter (setting.evaluates ctx)).length +
      (rules.filterMap (failure? setting ctx)).length = rules.length := by
  induction rules with
  | nil => rfl
  | cons rule rest ih =>
    cases result : setting.result rule ctx with
    | error failure => simp [Setting.evaluates, failure?, result] at ih ⊢; omega
    | ok value => simp [Setting.evaluates, failure?, result] at ih ⊢; omega

theorem filter_sublist_filter {α : Type} {items : List α} {narrow wide : α → Bool}
    (implies : ∀ a ∈ items, narrow a = true → wide a = true) :
    (items.filter narrow).Sublist (items.filter wide) := by
  have within : items.filter narrow = (items.filter wide).filter narrow := by
    rw [List.filter_filter]
    refine List.filter_congr fun a member => ?_
    cases passed : narrow a with
    | true => rw [implies a member passed]; rfl
    | false => rfl
  rw [within]
  exact List.filter_sublist

theorem filter_fails_sublist (rules : List Rule) :
    (rules.filter (setting.fails ctx)).Sublist (rules.filter (setting.evaluates ctx)) :=
  filter_sublist_filter fun _ _ failed => (Bool.and_eq_true_iff.mp failed).1

section

variable {setting ctx} {done : List Rule} {tally : Tally}

theorem Accounts.totalRules_eq (accounts : Accounts setting ctx done tally) :
    tally.totalRules = tally.passedRules + tally.failedRules.length := by
  rw [accounts.totalRules, accounts.passedRules, accounts.failedRules, List.length_map]
  exact length_filter_evaluates setting ctx done

theorem Accounts.totalRules_add_errors (accounts : Accounts setting ctx done tally) :
    tally.totalRules + tally.errors.length = done.length := by
  rw [accounts.totalRules, accounts.errors]
  exact length_errors setting ctx done

theorem Accounts.failedRules_sublist (accounts : Accounts setting ctx done tally) :
    tally.failedRules.Sublist tally.rulesCited := by
  rw [accounts.failedRules, accounts.rulesCited]
  exact (filter_fails_sublist setting ctx done).map _

theorem Accounts.hardStopFailures_sublist (accounts : Accounts setting ctx done tally) :
    tally.hardStopFailures.Sublist tally.failedRules := by
  rw [accounts.hardStopFailures, accounts.failedRules]
  exact List.filter_sublist.map _

end

theorem Setting.result_eq_walk (rule : Rule) :
    setting.result rule ctx =
      (setting.evaluator.walk rule.expression ctx setting.options).result := by
  -- A failure is told and not thrown, and then taken out of what is told.
  have walked : setting.result rule ctx = (do
      let outcome ← Evaluator.finish { setting.options with strict := false }
        (setting.evaluator.walk rule.expression ctx setting.options).result
      outcome.result) := rfl
  rw [walked]
  cases (setting.evaluator.walk rule.expression ctx setting.options).result <;> rfl

theorem Setting.result_eq_evaluate (rule : Rule) :
    setting.result rule ctx =
      if rule.expression.depth ≤ setting.options.maxDepth then
        (rule.expression.evaluate ctx (setting.evaluator.scope setting.options)).result
      else .error (.tooDeep rule.expression.depth setting.options.maxDepth) := by
  rw [Setting.result_eq_walk]
  split
  case isTrue shallow => rw [Evaluator.walk_of_le _ ctx shallow]
  case isFalse deep =>
    rw [Evaluator.walk, Evaluator.depthFailure?_of_lt (Nat.lt_of_not_le deep)]
    rfl

def Setting.timed (strict : Bool) (timeout : Duration) (measureTime : Bool) : Setting :=
  { setting with
    options := { setting.options with
      strict := strict
      timeout := timeout
      measureTime := measureTime } }

theorem ofProgram_timed (strict : Bool) (timeout : Duration) (measureTime : Bool)
    (programId : String) (rules : List Rule) :
    ofProgram (setting.timed strict timeout measureTime) ctx programId rules =
      ofProgram setting ctx programId rules := by
  have results : ∀ rule, (setting.timed strict timeout measureTime).result rule ctx =
      setting.result rule ctx := by
    intro rule
    rw [Setting.result_eq_evaluate, Setting.result_eq_evaluate]
    rfl
  have records : record (setting.timed strict timeout measureTime) ctx = record setting ctx := by
    funext tally rule
    unfold record
    rw [results]
    rfl
  rw [ofProgram, ofProgram, records]

/-- A run adds up what the scored rules of the program contribute in their
order, each by what its expression evaluates to. Its entries come from the rules as
its accounts say, so its counts agree with its lists and with the number of the
rules. -/
theorem run_adds_up (programId : String) (rules : List Rule) :
    let scored := scoredRules programId rules
    let tally := ofProgram setting ctx programId rules
    tally = concat programId (scored.map (part setting ctx)) ∧
    Accounts setting ctx scored tally ∧
    (∀ rule, setting.result rule ctx =
      if rule.expression.depth ≤ setting.options.maxDepth then
        (rule.expression.evaluate ctx (setting.evaluator.scope setting.options)).result
      else .error (.tooDeep rule.expression.depth setting.options.maxDepth)) ∧
    (∀ rule, (∃ failure, setting.result rule ctx = .error failure ∧
        part setting ctx rule =
          { empty rule.programId with
            errors := [⟨rule.id, failure⟩]
            missingFields := unanswered ctx rule }) ∨
      (∃ value, setting.result rule ctx = .ok value ∧
        (part setting ctx rule).rulesCited = [rule.id] ∧
        (part setting ctx rule).details = [detail (passes value) rule] ∧
        (part setting ctx rule).errors = [] ∧
        ((part setting ctx rule).passedRules = 1 ↔ value = .bool true))) ∧
    tally.totalRules = tally.rulesCited.length ∧
    tally.totalRules = tally.details.length ∧
    tally.totalRules = tally.passedRules + tally.failedRules.length ∧
    tally.totalRules + tally.errors.length = scored.length ∧
    tally.failedRules.Sublist tally.rulesCited ∧
    tally.hardStopFailures.Sublist tally.failedRules ∧
    tally.missingFields.Nodup ∧
    ∀ strict timeout measureTime,
      ofProgram (setting.timed strict timeout measureTime) ctx programId rules = tally := by
  intro scored tally
  have accounts : Accounts setting ctx scored tally :=
    ofProgram_accounts setting ctx programId rules
  refine ⟨ofProgram_eq_concat setting ctx programId rules, accounts,
    setting.result_eq_evaluate ctx, part_cases setting ctx, ?_, ?_, accounts.totalRules_eq,
    accounts.totalRules_add_errors, accounts.failedRules_sublist,
    accounts.hardStopFailures_sublist, ?_, ?_⟩
  · rw [accounts.totalRules, accounts.rulesCited, List.length_map]
  · rw [accounts.totalRules, accounts.details, List.length_map]
  · rw [accounts.missingFields]
    exact nodup_eraseDups _
  · exact fun strict timeout measureTime =>
      ofProgram_timed setting ctx strict timeout measureTime programId rules

/-- One rule passes, a hard stop fails on a missing answer, one calls an operator that
is not there, and one nests too deep; a draft and a rule of another program are not
scored. -/
theorem run_adds_up_of_mixed_rules :
    let adult := Rule.ofExpr "adult" "work" (.call ">=" [.var "age" none, .literal (.int 18)])
    let resident := (Rule.ofExpr "resident" "work"
      (.call "==" [.var "state" none, .literal (.text "GA")])).withHardStop true
    let employed := Rule.ofExpr "employed" "work" (.call "probe" [.var "employer" none])
    let nested := Rule.ofExpr "nested" "work" (.call "!" [.call "!" [.var "state" none]])
    let rules := [adult, resident, adult.asDraft, employed,
      .ofExpr "other" "cash" (.literal (.bool true)), nested]
    let setting : Setting :=
      ⟨⟨.empty⟩, .explicitOnly, { EvaluationOptions.standard with maxDepth := 1 }⟩
    let ctx := Context.empty.insert "age" (.int 30)
    let tally := ofProgram setting ctx "work" rules
    setting.result adult ctx = .ok (.bool true) ∧
    setting.result resident ctx = .ok (.bool false) ∧
    setting.result employed ctx = .error (.operator "probe" .unregistered) ∧
    setting.result nested ctx = .error (.tooDeep 2 1) ∧
    tally.passedRules = 1 ∧ tally.totalRules = 2 ∧
    tally.rulesCited = ["adult", "resident"] ∧
    tally.failedRules = ["resident"] ∧ tally.hardStopFailures = ["resident"] ∧
    tally.errors =
      [⟨"employed", .operator "probe" .unregistered⟩, ⟨"nested", .tooDeep 2 1⟩] ∧
    tally.missingFields = ["state", "employer"] ∧
    ofProgram (setting.timed true (.ofMillis 0) true) ctx "work" rules = tally := by
  intro adult resident employed nested rules setting ctx tally
  obtain ⟨_, accounts, results, _, _, _, _, _, _, _, _, timed⟩ :=
    run_adds_up setting ctx "work" rules
  have scored : scoredRules "work" rules = [adult, resident, employed, nested] := by rfl
  have met : setting.result adult ctx = .ok (.bool true) := by rw [results]; rfl
  have unmet : setting.result resident ctx = .ok (.bool false) := by rw [results]; rfl
  have unregistered : setting.result employed ctx = .error (.operator "probe" .unregistered) := by
    rw [results]; rfl
  have refused : setting.result nested ctx = .error (.tooDeep 2 1) := by rw [results]; rfl
  have evaluated : [adult, resident, employed, nested].filter (setting.evaluates ctx) =
      [adult, resident] := by
    simp [Setting.evaluates, met, unmet, unregistered, refused]
  have passed : [adult, resident, employed, nested].filter (setting.meets ctx) = [adult] := by
    simp [Setting.meets, passes, met, unmet, unregistered, refused]
  have failed : [adult, resident, employed, nested].filter (setting.fails ctx) = [resident] := by
    simp [Setting.fails, Setting.evaluates, Setting.meets, passes, met, unmet, unregistered, refused]
  have errors : [adult, resident, employed, nested].filterMap (failure? setting ctx) =
      [⟨"employed", .operator "probe" .unregistered⟩, ⟨"nested", .tooDeep 2 1⟩] := by
    simp only [List.filterMap_cons, failure?, met, unmet, unregistered, refused]
    rfl
  rw [scored] at accounts
  refine ⟨met, unmet, unregistered, refused, ?_, ?_, ?_, ?_, ?_, ?_, ?_, timed _ _ _⟩
  · rw [accounts.passedRules, passed]; rfl
  · rw [accounts.totalRules, evaluated]; rfl
  · rw [accounts.rulesCited, evaluated]; rfl
  · rw [accounts.failedRules, failed]; rfl
  · rw [accounts.hardStopFailures, failed]; rfl
  · rw [accounts.errors, errors]
  · rw [accounts.missingFields]; rfl

end Eligibility.Tally
