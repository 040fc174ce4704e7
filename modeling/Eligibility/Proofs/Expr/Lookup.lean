import Eligibility.Proofs.Context.LastWrite
import Eligibility.Proofs.Expr.RoundTrip

/-!
A call of `var` on a constant path, and the read that its JSON form denotes. The
call evaluates its fallback before it looks at the context and spells its path as
running text; the read evaluates the fallback when there is no answer and spells
the path as JSON does. So the form keeps the meaning of the call only where both
spellings are the same and where the fallback of an answered path does not fail.
-/

set_option autoImplicit false

namespace Eligibility

/-! ## Answers -/

def Context.answer (ctx : Context) (path : String) : Value := (ctx.get? path).getD .null

theorem ProfileField.takes?_list (field : ProfileField) (items : List Value) :
    field.takes? (.list items) = none := by
  cases field <;> rfl

/-- A list is no answer of a profile field, so it stands at its own path alone. -/
theorem Context.answer_insert_list (written : String) (items : List Value) (path : String) :
    (empty.insert written (.list items)).answer path =
      if written = path then .list items else .null := by
  have untaken : ((ProfileField.ofKey? written).bind (·.takes? (.list items))).isSome = false := by
    cases ProfileField.ofKey? written <;> simp [ProfileField.takes?_list]
  have stored := find?_insert empty written (.list items) (Path.ofText path)
  have profile : ∀ field, (empty.insert written (.list items)).profile.get? field = none := by
    intro field
    rw [profile_insert, ProfileField.after]
    simp only [ProfileField.takes?_list, Option.getD_none, ite_self]
    cases field <;> rfl
  have nothing : find? (Path.ofText path) empty.answers = none := rfl
  have unfilled : (ProfileField.ofKey? path).bind
      (empty.insert written (.list items)).profile.get? = none := by
    cases ProfileField.ofKey? path <;> simp [profile]
  rw [untaken, if_neg Bool.false_ne_true, Path.afterWrite, nothing, ite_self] at stored
  simp only [answer, get?, unfilled, stored, Path.ofText_inj]
  split <;> rfl

/-! ## Paths -/

theorem Json.Numeral.text_ofInt64 (i : Int64) : (ofInt64 i).text = Value.wordText i := by
  unfold ofInt64 Value.wordText
  split
  case isTrue => rfl
  case isFalse notBelow =>
    have reading := toInt_eq_toNat_toUInt64 notBelow
    have same : i.toUInt64.toNat = i.toInt.natAbs := by omega
    exact congrArg Nat.repr same

namespace Expr

/-- The JSON form of a path names the path as running text does. -/
def SpelledAlike (path : Value) : Prop := pathOf path.toJson = .ok path.plainText

theorem spelledAlike_float_iff (x : Float) :
    SpelledAlike (.float x) ↔
      Number.isFinite x = true ∧ Number.jsonText x = Number.plainText x := by
  unfold SpelledAlike Value.toJson Json.ofFloat Json.Numeral.ofFloat?
  by_cases finite : Number.isFinite x = true
  · simp [finite, pathOf, Json.Numeral.text, Value.plainText, Value.display]
  · have written : Number.plainText x ≠ "" := by
      unfold Number.isFinite at finite
      unfold Number.plainText Number.Layout.write
      cases reading : Number.read x with
      | nan => simp [Number.plain]
      | infinite negative => cases negative <;> simp [Number.plain]
      | finite negative significand exponent => simp [reading] at finite
    simp [finite, pathOf, Value.plainText, Value.display, Ne.symm written]

theorem spelledAlike_iff_of_pathOf {path : Value} {name : String}
    (named : pathOf path.toJson = .ok name) :
    SpelledAlike path ↔
      ∀ x, path = .float x → Number.isFinite x = true ∧ Number.jsonText x = Number.plainText x := by
  cases path with
  | null => exact ⟨fun _ => nofun, fun _ => rfl⟩
  | int i => exact ⟨fun _ => nofun, fun _ => congrArg Except.ok (Json.Numeral.text_ofInt64 i)⟩
  | float x => simp [spelledAlike_float_iff]
  | text s => exact ⟨fun _ => nofun, fun _ => rfl⟩
  | bool b => cases named
  | list items => cases named

theorem spelledAlike_iff {path : Value} {name : String} (named : pathOf path.toJson = .ok name) :
    SpelledAlike path ↔ path.plainText = name := by
  rw [SpelledAlike, named, Except.ok.injEq, eq_comm]

/-! ## The call and its form -/

def lookup (path : Value) (fallback : Option Expr) : Expr :=
  .call "var" (.literal path :: fallback.toList)

theorem ofJson_lookup_none (path : Value) :
    ofJson (lookup path none).toJson = (do return .var (← pathOf path.toJson) none) := rfl

theorem ofJson_lookup_some (path : Value) (fallback : Expr) :
    ofJson (lookup path (some fallback)).toJson = (do
      let other ← ofOperand fallback.toJson
      return .var (← pathOf path.toJson) (some other)) := rfl

theorem eq_var_of_lookup_none {path : Value} {read : Expr}
    (again : ofJson (lookup path none).toJson = .ok read) :
    ∃ name, pathOf path.toJson = .ok name ∧ read = .var name none := by
  rw [ofJson_lookup_none] at again
  cases named : pathOf path.toJson with
  | error failure => rw [named] at again; cases again
  | ok name => rw [named] at again; exact ⟨name, rfl, (Except.ok.inj again).symm⟩

theorem eq_var_of_lookup_some {path : Value} {fallback read : Expr}
    (again : ofJson (lookup path (some fallback)).toJson = .ok read) :
    ∃ name other, pathOf path.toJson = .ok name ∧ ofOperand fallback.toJson = .ok other ∧
      read = .var name (some other) := by
  rw [ofJson_lookup_some] at again
  cases denoted : ofOperand fallback.toJson with
  | error failure => rw [denoted] at again; cases again
  | ok other =>
    cases named : pathOf path.toJson with
    | error failure => rw [denoted, named] at again; cases again
    | ok name =>
      rw [denoted, named] at again
      exact ⟨name, other, rfl, rfl, (Except.ok.inj again).symm⟩

/-! ## Evaluation -/

section
variable (ctx : Context) (scope : Scope)

theorem lookUp_cons (path : Value) (rest : List Value) :
    CoreOperator.lookUp ctx (path :: rest) =
      if (ctx.answer path.plainText).isNull then rest.headD .null
      else ctx.answer path.plainText := by
  have second : ((path :: rest)[1]?).getD .null = rest.headD .null := by cases rest <;> rfl
  simp only [CoreOperator.lookUp, CoreOperator.first, List.headD_cons, second]
  cases answered : ctx.get? path.plainText with
  | none => simp [Context.answer, answered, Value.isNull]
  | some value => simp [Context.answer, answered]

theorem evaluate_lookup_none (path : Value) :
    (lookup path none).evaluate ctx scope = pure (ctx.answer path.plainText) := by
  have called : (lookup path none).evaluate ctx scope =
      pure (CoreOperator.lookUp ctx [path]) := rfl
  rw [called, lookUp_cons]
  cases ctx.answer path.plainText <;> rfl

theorem evaluate_lookup_some (path : Value) (fallback : Expr) :
    (lookup path (some fallback)).evaluate ctx scope = (do
      let value ← fallback.evaluate ctx scope
      let answer := ctx.answer path.plainText
      return if answer.isNull then value else answer) := by
  calc (lookup path (some fallback)).evaluate ctx scope
      = (do
          let values ← evaluateAll ctx scope [.literal path, fallback]
          Walk.ofAnswer "var" (.ok (CoreOperator.lookUp ctx values))) := rfl
    _ = (do
          let value ← fallback.evaluate ctx scope
          pure (CoreOperator.lookUp ctx [path, value])) := by
        simp only [evaluateAll, evaluate, bind_assoc, pure_bind]
        rfl
    _ = _ := by
        congr 1
        funext value
        rw [lookUp_cons]
        rfl

theorem evaluate_var (path : String) (fallback : Expr) :
    (Expr.var path (some fallback)).evaluate ctx scope =
      if (ctx.answer path).isNull then fallback.evaluate ctx scope else pure (ctx.answer path) :=
  rfl

end

/-! ## The call and the read -/

def SameResult (ctx : Context) (scope : Scope) (first second : Expr) : Prop :=
  (first.evaluate ctx scope).result = (second.evaluate ctx scope).result

section
variable (ctx : Context) (scope : Scope)

/-- Where both name one path, a failing fallback makes the difference: the read
does not come to it when there is an answer. -/
theorem sameResult_lookup_iff {path : Value} {name : String} (spelled : path.plainText = name)
    (f other : Expr) :
    SameResult ctx scope (lookup path (some f)) (.var name (some other)) ↔
      if (ctx.answer name).isNull then SameResult ctx scope f other
      else ∃ value, (f.evaluate ctx scope).result = .ok value := by
  unfold SameResult
  rw [evaluate_lookup_some, evaluate_var, spelled]
  by_cases unanswered : (ctx.answer name).isNull = true
  · simp only [unanswered, if_true, bind_pure]
  · simp only [unanswered, Bool.false_eq_true, if_false]
    obtain ⟨result, calls⟩ := f.evaluate ctx scope
    cases result with
    | error failure => simp [bind, Walk.bind, pure, Walk.pure]
    | ok value => simp [bind, Walk.bind, pure, Walk.pure]

theorem sameResult_of_writable {f other : Expr} (writable : f.Writable)
    (denoted : ofOperand f.toJson = .ok other) : SameResult ctx scope f other := by
  rw [ofOperand_toJson writable] at denoted
  obtain rfl := Except.ok.inj denoted
  exact congrArg Walk.result (evaluate_folded ctx scope f).symm

end

/-- Two spellings are told apart by an answer at the one of the read, which is
none at the one of the call. The answer can be any list. -/
theorem exists_telling_apart {path name : String} (misspelled : path ≠ name) (items : List Value) :
    ∃ ctx : Context, ctx.answer path = .null ∧ ctx.answer name = .list items :=
  ⟨Context.empty.insert name (.list items),
    by rw [Context.answer_insert_list, if_neg (Ne.symm misspelled)],
    by rw [Context.answer_insert_list, if_pos rfl]⟩

theorem result_lookup_of_unanswered (path : Value) {fallback : Option Expr}
    (constant : ∀ f ∈ fallback, f.isLiteral = true) :
    ∃ value, ∀ ctx scope, ctx.answer path.plainText = .null →
      ((lookup path fallback).evaluate ctx scope).result = .ok value := by
  cases fallback with
  | none =>
    refine ⟨.null, fun ctx scope nothing => ?_⟩
    rw [evaluate_lookup_none, nothing]
    rfl
  | some f =>
    cases f with
    | literal value =>
      refine ⟨value, fun ctx scope nothing => ?_⟩
      rw [evaluate_lookup_some, nothing]
      rfl
    | _ => cases constant _ rfl

theorem result_var_of_list {ctx : Context} {scope : Scope} {name : String} {items : List Value}
    (answered : ctx.answer name = .list items) (other : Option Expr) :
    ((Expr.var name other).evaluate ctx scope).result = .ok (.list items) := by
  cases other with
  | none => exact congrArg Except.ok answered
  | some other => rw [evaluate_var, answered]; rfl

theorem spelledAlike_of_sameResults {path : Value} {fallback : Option Expr} {name : String}
    {other : Option Expr} (named : pathOf path.toJson = .ok name)
    (constant : ∀ f ∈ fallback, f.isLiteral = true)
    (same : ∀ ctx scope, SameResult ctx scope (lookup path fallback) (.var name other)) :
    SpelledAlike path := by
  obtain ⟨value, gives⟩ := result_lookup_of_unanswered path constant
  refine (spelledAlike_iff named).mpr (Decidable.byContradiction fun misspelled => ?_)
  -- The constant that the call gives would be every list that the read can give.
  have each : ∀ items, value = .list items := by
    intro items
    obtain ⟨ctx, nothing, answered⟩ := exists_telling_apart misspelled items
    have results := same ctx ⟨.empty, none⟩
    rw [SameResult, gives ctx _ nothing, result_var_of_list answered] at results
    exact Except.ok.inj results
  have clash : Value.list [] = .list [.null] := (each []).symm.trans (each [.null])
  cases clash

/-- The read that the form of a call denotes names the same path unless the path is
a double that JSON writes in another way. With no fallback, or a constant one, both
then come to the same everywhere, and only then. With any fallback they come to the
same where there is no answer if the fallback does with its own form, and where
there is one if the fallback does not fail. -/
theorem lookup_read_again_iff {path : Value} {fallback : Option Expr} {read : Expr}
    (again : ofJson (lookup path fallback).toJson = .ok read) :
    (SpelledAlike path ↔
      ∀ x, path = .float x → Number.isFinite x = true ∧ Number.jsonText x = Number.plainText x) ∧
    ((∀ f ∈ fallback, f.isLiteral = true ∧ f.Writable) →
      ((∀ ctx scope, SameResult ctx scope (lookup path fallback) read) ↔ SpelledAlike path)) ∧
    ∀ f ∈ fallback, ∃ name other,
      read = .var name (some other) ∧ ofOperand f.toJson = .ok other ∧
      (f.Writable → ∀ ctx scope, SameResult ctx scope f other) ∧
      (SpelledAlike path → ∀ ctx scope,
        (SameResult ctx scope (lookup path fallback) read ↔
          if (ctx.answer name).isNull then SameResult ctx scope f other
          else ∃ value, (f.evaluate ctx scope).result = .ok value)) := by
  cases fallback with
  | none =>
    obtain ⟨name, named, rfl⟩ := eq_var_of_lookup_none again
    refine ⟨spelledAlike_iff_of_pathOf named, fun _ => ?_, nofun⟩
    constructor
    · exact spelledAlike_of_sameResults named nofun
    · intro spelled ctx scope
      rw [SameResult, evaluate_lookup_none, (spelledAlike_iff named).mp spelled]
      rfl
  | some f =>
    obtain ⟨name, other, named, denoted, rfl⟩ := eq_var_of_lookup_some again
    have results := fun spelled ctx scope =>
      sameResult_lookup_iff ctx scope ((spelledAlike_iff named).mp spelled) f other
    refine ⟨spelledAlike_iff_of_pathOf named, fun constant => ?_, ?_⟩
    · obtain ⟨isLiteral, writable⟩ := constant f rfl
      constructor
      · exact spelledAlike_of_sameResults named fun _ taken => (constant _ taken).1
      · intro spelled ctx scope
        refine (results spelled ctx scope).mpr ?_
        split
        · exact sameResult_of_writable ctx scope writable denoted
        · cases f with
          | literal value => exact ⟨value, rfl⟩
          | _ => cases isLiteral
    · rintro _ ⟨⟩
      exact ⟨name, other, rfl, denoted,
        fun writable ctx scope => sameResult_of_writable ctx scope writable denoted, results⟩

def bare : Scope := ⟨.empty, none⟩

def probe : Expr := .call "probe" []

/-- A double that running text writes as `2` and JSON as `2.0`. -/
def two : Float := Float.ofBits 0x4000000000000000

/-- The age with a fallback that fails, and an answer under a whole double. -/
theorem lookup_read_again_iff_at_age_and_two :
    (ofJson (lookup (.text "age") (some probe)).toJson = .ok (.var "age" (some probe)) ∧
      SameResult .empty bare (lookup (.text "age") (some probe)) (.var "age" (some probe)) ∧
      ¬ SameResult (Context.empty.insert "age" (.int 30)) bare
        (lookup (.text "age") (some probe)) (.var "age" (some probe))) ∧
    ofJson (lookup (.float two) none).toJson = .ok (.var "2.0" none) ∧
      ¬ ∀ ctx scope, SameResult ctx scope (lookup (.float two) none) (.var "2.0" none) := by
  constructor
  · have again : ofJson (lookup (.text "age") (some probe)).toJson =
        .ok (.var "age" (some probe)) := rfl
    obtain ⟨_, _, compared⟩ := lookup_read_again_iff again
    obtain ⟨name, other, read, _, _, results⟩ := compared probe rfl
    cases read
    refine ⟨again, (results rfl .empty bare).mpr rfl, fun same => ?_⟩
    obtain ⟨value, gives⟩ := (results rfl (Context.empty.insert "age" (.int 30)) bare).mp same
    cases gives
  · have finite : Number.isFinite two = true := by decide +kernel
    have written : Number.jsonText two = "2.0" := by decide +kernel
    have plain : Number.plainText two ≠ "2.0" := by decide +kernel
    have named : pathOf (Value.float two).toJson = .ok "2.0" := by
      simp [Value.toJson, Json.ofFloat, Json.Numeral.ofFloat?, finite, pathOf, Json.Numeral.text,
        written]
    have again : ofJson (lookup (.float two) none).toJson = .ok (.var "2.0" none) := by
      rw [ofJson_lookup_none, named]
      rfl
    obtain ⟨spelled, everywhere, _⟩ := lookup_read_again_iff again
    refine ⟨again, fun same => plain ?_⟩
    have alike : SpelledAlike (.float two) := (everywhere (by simp)).mp same
    exact (spelled.mp alike two rfl).2.symm.trans written

/-- The call fails where the read that its form denotes gives the age. -/
theorem lookup_fails_where_read_answers :
    ¬ ∀ (path : Value) (fallback : Option Expr) (read : Expr),
      ofJson (lookup path fallback).toJson = .ok read →
        ∀ ctx scope, SameResult ctx scope (lookup path fallback) read := by
  intro alike
  have same := alike (.text "age") (some probe) (.var "age" (some probe)) rfl
    (Context.empty.insert "age" (.int 30)) bare
  have result : Except.error (Failure.operator "probe" .unregistered) = .ok (Value.int 30) := same
  cases result

end Expr

end Eligibility
