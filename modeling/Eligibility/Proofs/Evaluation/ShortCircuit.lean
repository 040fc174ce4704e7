import Eligibility.Proofs.Evaluation.Plan

/-!
The operands that an evaluation reaches. A list and a call of an operator take
their operands from left to right and stop at the one that decides. What stands
behind it makes no difference, whether it would fail or call an operator.
-/

set_option autoImplicit false

namespace Eligibility

def Walk.Comes (test : Value → Bool) (walk : Walk Value) : Prop :=
  ∃ value, walk.result = .ok value ∧ test value = true

namespace Expr

/-- A node with its operands left open: a list, or a call of an operator. -/
inductive Head where
  | list
  | operator (name : String)

inductive Gathered where
  | decided (value : Value)
  | all (values : List Value)

section
variable {m : Type → Type} [Monad m]

def gather (operands : List (m Value)) : Option Connective → m Gathered
  | none => do
    let values ← inTurn operands
    pure (.all values)
  | some .and => do
    let value ← untilDecided (fun value => !value.isTruthy) (.bool true) operands
    pure (.decided value)
  | some .or => do
    let value ← untilDecided Value.isTruthy (.bool false) operands
    pure (.decided value)
  | some .choose => do
    let value ← firstBranch operands
    pure (.decided value)

end

namespace Head

def node (operands : List Expr) : Head → Expr
  | .list => .list operands
  | .operator name => .call name operands

def connective? : Head → Option Connective
  | .list => none
  | .operator name => Connective.ofName? name

def plan (head : Head) (count : Nat) : Plan Gathered :=
  gather (Plan.operandsFrom 0 count) head.connective?

end Head

variable (ctx : Context) (scope : Scope)

def Head.finish (head : Head) : Gathered → Walk Value
  | .decided value => pure value
  | .all values =>
    match head with
    | .list => pure (.list values)
    | .operator name => applied ctx scope name values

theorem evaluate_node (head : Head) (operands : List Expr) :
    (head.node operands).evaluate ctx scope =
      gather (operands.map (evaluate ctx scope)) head.connective? >>= head.finish ctx scope := by
  rw [evaluate_eq_layer]
  cases head with
  | list =>
    simp only [Head.node, layer, Head.connective?, gather, bind_assoc, pure_bind, Head.finish]
  | operator name =>
    simp only [Head.node, layer, Head.connective?]
    cases Connective.ofName? name with
    | none =>
      simp only [gather, bind_assoc, pure_bind, Head.finish]
      rfl
    | some connective =>
      cases connective <;> simp only [gather, bind_assoc, pure_bind, bind_pure, Head.finish]

/-! ## The plan of a node -/

def operandWalk (operands : List Expr) (position : Nat) : Walk Value :=
  (operands[position]?).elim (pure .null) (evaluate ctx scope)

def Head.taken (head : Head) (operands : List Expr) : List Nat :=
  (head.plan operands.length).taken (operandWalk ctx scope operands)

theorem map_run_operandsFrom (operands : List Expr) :
    (Plan.operandsFrom 0 operands.length).map (Plan.run (operandWalk ctx scope operands)) =
      operands.map (evaluate ctx scope) := by
  apply List.ext_getElem?
  intro position
  simp only [Plan.operandsFrom, List.map_map, List.getElem?_map]
  rcases Nat.lt_or_ge position operands.length with inside | outside
  · have walked : Plan.run (operandWalk ctx scope operands) (Plan.operand position) =
        operands[position].evaluate ctx scope := by
      rw [Plan.run_operand, operandWalk, List.getElem?_eq_getElem inside, Option.elim]
    simp [inside, walked]
  · simp [outside]

theorem gather_run (walks : Nat → Walk Value) (plans : List (Plan Value))
    (connective? : Option Connective) :
    (gather plans connective?).run walks = gather (plans.map (Plan.run walks)) connective? := by
  rcases connective? with _ | _ | _ | _ <;>
    simp only [gather, Plan.run_bind, Plan.run_inTurn, Plan.run_untilDecided,
      Plan.run_firstBranch] <;> rfl

theorem evaluate_node_eq_run (head : Head) (operands : List Expr) :
    (head.node operands).evaluate ctx scope =
      (head.plan operands.length).run (operandWalk ctx scope operands) >>=
        head.finish ctx scope := by
  rw [Head.plan, gather_run, map_run_operandsFrom, evaluate_node]

/-! ## The operands that are reached -/

/-- No operand before the position keeps the node from reaching it. A connective
that chooses has its conditions at even positions, each before its branch. -/
def Reaches (walks : Nat → Walk Value) (position : Nat) : Option Connective → Prop
  | none => ∀ before < position, (walks before).Comes fun _ => true
  | some .and => ∀ before < position, (walks before).Comes Value.isTruthy
  | some .or => ∀ before < position, (walks before).Comes fun value => !value.isTruthy
  | some .choose =>
    (∀ condition, condition % 2 = 0 → condition + 1 < position →
      (walks condition).Comes fun value => !value.isTruthy) ∧
    (position % 2 = 1 → (walks (position - 1)).Comes Value.isTruthy)

/-- The position is in the stretch and every position of the stretch before it
lets the node go on. -/
def Stretch (goesOn : Nat → Prop) (start count position : Nat) : Prop :=
  start ≤ position ∧ position < start + count ∧
    ∀ before, start ≤ before → before < position → goesOn before

theorem stretch_succ {goesOn : Nat → Prop} {start count position : Nat} :
    Stretch goesOn start (count + 1) position ↔
      position = start ∨ goesOn start ∧ Stretch goesOn (start + 1) count position := by
  constructor
  · rintro ⟨le, lt, passed⟩
    rcases Nat.eq_or_lt_of_le le with rfl | behind
    · exact .inl rfl
    · exact .inr ⟨passed start (Nat.le_refl start) behind, behind, by omega,
        fun before le => passed before (by omega)⟩
  · rintro (rfl | ⟨first, le, lt, passed⟩)
    · exact ⟨Nat.le_refl _, by omega, fun before le lt => absurd lt (by omega)⟩
    · refine ⟨by omega, by omega, fun before le lt => ?_⟩
      rcases Nat.eq_or_lt_of_le le with rfl | behind
      · exact first
      · exact passed before behind lt

section
variable (walks : Nat → Walk Value)

/-- The same for conditions and branches in turn, with conditions at even positions. -/
def ChoiceStretch (start count position : Nat) : Prop :=
  start ≤ position ∧ position < start + count ∧
    (∀ condition, start ≤ condition → condition % 2 = 0 → condition + 1 < position →
      (walks condition).Comes fun value => !value.isTruthy) ∧
    (position % 2 = 1 → (walks (position - 1)).Comes Value.isTruthy)

theorem choiceStretch_succ_succ {start count position : Nat} (even : start % 2 = 0) :
    ChoiceStretch walks start (count + 2) position ↔
      position = start ∨
      (walks start).Comes Value.isTruthy ∧ position = start + 1 ∨
      ((walks start).Comes fun value => !value.isTruthy) ∧
        ChoiceStretch walks (start + 2) count position := by
  constructor
  · rintro ⟨le, lt, refused, chosen⟩
    rcases Nat.lt_trichotomy position (start + 1) with near | rfl | far
    · exact .inl (by omega)
    · exact .inr (.inl ⟨chosen (by omega), rfl⟩)
    · exact .inr (.inr ⟨refused start (Nat.le_refl start) even far, by omega, by omega,
        fun condition le => refused condition (by omega), chosen⟩)
  · rintro (rfl | ⟨chosen, rfl⟩ | ⟨first, le, lt, refused, chosen⟩)
    · exact ⟨Nat.le_refl _, by omega, fun condition le _ lt => absurd lt (by omega),
        fun odd => absurd odd (by omega)⟩
    · exact ⟨by omega, by omega, fun condition le _ lt => absurd lt (by omega), fun _ => chosen⟩
    · refine ⟨by omega, by omega, fun condition le even' lt => ?_, chosen⟩
      rcases Nat.eq_or_lt_of_le le with rfl | behind
      · exact first
      · exact refused condition (by omega) even' lt

/-! ### What is taken is what is reached -/

theorem mem_taken_untilDecided (decides : Value → Bool) (last : Value)
    (start count position : Nat) :
    position ∈ (untilDecided decides last (Plan.operandsFrom start count)).taken walks ↔
      Stretch (fun before => (walks before).Comes fun value => !decides value)
        start count position := by
  induction count generalizing start last with
  | zero =>
    refine ⟨nofun, fun stretch => ?_⟩
    obtain ⟨le, lt, -⟩ := stretch
    omega
  | succ count ih =>
    rw [Plan.untilDecided_succ, Plan.mem_taken_ask, stretch_succ]
    apply or_congr_right
    constructor
    · rintro ⟨value, came, member⟩
      split at member
      · cases member
      · exact ⟨⟨value, came, by simp_all⟩, (ih ..).mp member⟩
    · rintro ⟨⟨value, came, goesOn⟩, stretch⟩
      refine ⟨value, came, ?_⟩
      rw [if_neg (by simpa using goesOn)]
      exact (ih ..).mpr stretch

theorem taken_inTurn (last : Value) (start count : Nat) :
    (inTurn (Plan.operandsFrom start count)).taken walks =
      (untilDecided (fun _ => false) last (Plan.operandsFrom start count)).taken walks := by
  induction count generalizing start last with
  | zero => rfl
  | succ count ih =>
    rw [Plan.inTurn_succ, Plan.untilDecided_succ, Plan.taken, Plan.taken]
    cases (walks start).result with
    | error failure => rfl
    | ok value => exact congrArg (start :: ·) ((Plan.taken_bind_pure ..).trans (ih ..))

theorem mem_taken_firstBranch {start : Nat} (even : start % 2 = 0) (position : Nat) :
    ∀ count : Nat, position ∈ (firstBranch (Plan.operandsFrom start count)).taken walks ↔
      ChoiceStretch walks start count position
  | 0 => by
    refine ⟨nofun, fun stretch => ?_⟩
    obtain ⟨le, lt, -⟩ := stretch
    omega
  | 1 => by
    show position ∈ (Plan.operand start).taken walks ↔ _
    rw [Plan.taken_operand, List.mem_singleton]
    constructor
    · rintro rfl
      exact ⟨Nat.le_refl _, Nat.lt_succ_self _, fun condition le _ lt => absurd lt (by omega),
        fun odd => absurd odd (by omega)⟩
    · rintro ⟨le, lt, -⟩
      omega
  | count + 2 => by
    -- The condition is taken in any case; behind it stands either its branch or,
    -- two positions on, what is left of the choice.
    have later : (start + 2) % 2 = 0 := by omega
    rw [Plan.firstBranch_succ_succ, Plan.mem_taken_ask, choiceStretch_succ_succ walks even]
    apply or_congr_right
    constructor
    · rintro ⟨value, came, member⟩
      split at member
      next truthy =>
        rw [Plan.taken_operand, List.mem_singleton] at member
        exact .inl ⟨⟨value, came, truthy⟩, member⟩
      next falsy =>
        exact .inr ⟨⟨value, came, by simp [falsy]⟩,
          (mem_taken_firstBranch later position count).mp member⟩
    · rintro (⟨⟨value, came, truthy⟩, rfl⟩ | ⟨⟨value, came, falsy⟩, stretch⟩)
      · refine ⟨value, came, ?_⟩
        rw [if_pos truthy, Plan.taken_operand]
        exact List.mem_singleton_self _
      · refine ⟨value, came, ?_⟩
        rw [if_neg (by simpa using falsy)]
        exact (mem_taken_firstBranch later position count).mpr stretch

theorem mem_taken_gather (connective? : Option Connective) (count position : Nat) :
    position ∈ (gather (Plan.operandsFrom 0 count) connective?).taken walks ↔
      position < count ∧ Reaches walks position connective? := by
  rcases connective? with _ | _ | _ | _
  · rw [gather, Plan.taken_bind_pure, taken_inTurn walks .null, mem_taken_untilDecided]
    simp [Stretch, Reaches]
  · rw [gather, Plan.taken_bind_pure, mem_taken_untilDecided]
    simp [Stretch, Reaches]
  · rw [gather, Plan.taken_bind_pure, mem_taken_untilDecided]
    simp [Stretch, Reaches]
  · rw [gather, Plan.taken_bind_pure, mem_taken_firstBranch walks rfl]
    simp [ChoiceStretch, Reaches]

/-! ### What the operands come to -/

theorem result_inTurn (start count : Nat) :
    ((inTurn (Plan.operandsFrom start count)).run walks).result =
      ((inTurn (Plan.operandsFrom start count)).taken walks).mapM fun position =>
        (walks position).result := by
  induction count generalizing start with
  | zero => rfl
  | succ count ih =>
    rw [Plan.inTurn_succ, Plan.result_run_ask, Plan.taken]
    cases came : (walks start).result with
    | error failure => simp [came]; rfl
    | ok value =>
      simp only [Plan.result_run_bind_pure, Plan.taken_bind_pure, List.mapM_cons, came, ← ih]
      cases (Plan.run walks (inTurn (Plan.operandsFrom (start + 1) count))).result <;> rfl

def lastResult (start : Value) (result : Nat → Except Failure Value) (taken : List Nat) :
    Except Failure Value :=
  taken.getLast?.elim (.ok start) result

theorem lastResult_singleton (start : Value) (result : Nat → Except Failure Value)
    (position : Nat) : lastResult start result [position] = result position := rfl

theorem lastResult_cons {start value : Value} {result : Nat → Except Failure Value}
    {position : Nat} (came : result position = .ok value) (rest : List Nat) :
    lastResult start result (position :: rest) = lastResult value result rest := by
  rw [lastResult, lastResult, List.getLast?_cons, Option.elim_some]
  cases rest.getLast? with
  | none => exact came
  | some last => rfl

theorem result_untilDecided (decides : Value → Bool) (last : Value) (start count : Nat) :
    ((untilDecided decides last (Plan.operandsFrom start count)).run walks).result =
      lastResult last (fun position => (walks position).result)
        ((untilDecided decides last (Plan.operandsFrom start count)).taken walks) := by
  induction count generalizing start last with
  | zero => rfl
  | succ count ih =>
    rw [Plan.untilDecided_succ, Plan.result_run_ask, Plan.taken]
    cases came : (walks start).result with
    | error failure => exact came.symm
    | ok value =>
      rw [lastResult_cons came]
      simp only [bind, Except.bind]
      split
      next decided => rfl
      next undecided => exact ih value (start + 1)

/-- What a choice comes to where it takes no operand after the given one. A
condition that turns out false is followed by nothing at all, and leaves null. -/
def choiceResult (stop position : Nat) : Except Failure Value :=
  if position % 2 = 0 ∧ position + 1 < stop then (walks position).result.map fun _ => .null
  else (walks position).result

theorem result_firstBranch {start : Nat} (even : start % 2 = 0) : ∀ count : Nat,
    ((firstBranch (Plan.operandsFrom start count)).run walks).result =
      lastResult .null (choiceResult walks (start + count))
        ((firstBranch (Plan.operandsFrom start count)).taken walks)
  | 0 => rfl
  | 1 => by
    show ((Plan.operand start).run walks).result =
      lastResult .null _ ((Plan.operand start).taken walks)
    rw [Plan.taken_operand, Plan.run_operand, lastResult_singleton]
    exact (if_neg (by omega)).symm
  | count + 2 => by
    have later : (start + 2) % 2 = 0 := by omega
    -- With this the condition counts as one that came to null, should nothing follow it.
    have condition : choiceResult walks (start + (count + 2)) start =
        (walks start).result.map fun _ => .null := if_pos ⟨even, by omega⟩
    rw [Plan.firstBranch_succ_succ, Plan.result_run_ask, Plan.taken]
    cases came : (walks start).result with
    | error failure =>
      rw [came] at condition
      exact condition.symm
    | ok value =>
      rw [came] at condition
      rw [lastResult_cons condition]
      simp only [bind, Except.bind]
      split
      next truthy =>
        rw [Plan.taken_operand, Plan.run_operand, lastResult_singleton]
        exact (if_neg (by omega)).symm
      next falsy =>
        rw [result_firstBranch later count, Nat.add_assoc, Nat.add_comm 2 count]

def answer (count : Nat) (taken : List Nat) : Option Connective → Except Failure Gathered
  | none => (taken.mapM fun position => (walks position).result).map .all
  | some .and =>
    (lastResult (.bool true) (fun position => (walks position).result) taken).map .decided
  | some .or =>
    (lastResult (.bool false) (fun position => (walks position).result) taken).map .decided
  | some .choose => (lastResult .null (choiceResult walks count) taken).map .decided

theorem result_gather (connective? : Option Connective) (count : Nat) :
    ((gather (Plan.operandsFrom 0 count) connective?).run walks).result =
      answer walks count ((gather (Plan.operandsFrom 0 count) connective?).taken walks)
        connective? := by
  rcases connective? with _ | _ | _ | _
  · rw [gather, Plan.result_run_bind_pure, Plan.taken_bind_pure, result_inTurn, answer]
  · rw [gather, Plan.result_run_bind_pure, Plan.taken_bind_pure, result_untilDecided, answer]
  · rw [gather, Plan.result_run_bind_pure, Plan.taken_bind_pure, result_untilDecided, answer]
  · rw [gather, Plan.result_run_bind_pure, Plan.taken_bind_pure, result_firstBranch walks rfl,
      Nat.zero_add, answer]

end

theorem ascends_gather (connective? : Option Connective) (count : Nat) :
    (gather (Plan.operandsFrom 0 count) connective?).Ascends 0 := by
  rcases connective? with _ | _ | _ | _
  · exact (Plan.ascends_inTurn 0 count).bind_pure Gathered.all
  · exact (Plan.ascends_untilDecided _ _ 0 count).bind_pure Gathered.decided
  · exact (Plan.ascends_untilDecided _ _ 0 count).bind_pure Gathered.decided
  · exact (Plan.ascends_firstBranch 0 count).bind_pure Gathered.decided

/-! ## Evaluation in turn -/

/-- The evaluation of a node takes its operands from left to right, each at most
once, as far as they are reached, and it is made of what these come to and of
their calls. Operands that it does not take may be any others. -/
structure TakesInTurn (head : Head) (operands : List Expr) : Prop where
  ascending : (head.taken ctx scope operands).Pairwise (· < ·)
  taken_iff : ∀ position, position ∈ head.taken ctx scope operands ↔
    position < operands.length ∧
      Reaches (operandWalk ctx scope operands) position head.connective?
  evaluation : (head.node operands).evaluate ctx scope =
    { result := answer (operandWalk ctx scope operands) operands.length
        (head.taken ctx scope operands) head.connective?
      calls := (head.taken ctx scope operands).flatMap fun position =>
        (operandWalk ctx scope operands position).calls : Walk Gathered } >>=
      head.finish ctx scope
  untaken : ∀ others : List Expr, others.length = operands.length →
    (∀ position ∈ head.taken ctx scope operands, others[position]? = operands[position]?) →
    (head.node others).evaluate ctx scope = (head.node operands).evaluate ctx scope ∧
      head.taken ctx scope others = head.taken ctx scope operands

theorem takesInTurn (head : Head) (operands : List Expr) :
    TakesInTurn ctx scope head operands where
  ascending := (ascends_gather _ _).pairwise_taken _
  taken_iff := mem_taken_gather _ _ _
  evaluation := by
    rw [evaluate_node_eq_run]
    congr 1
    exact Walk.ext (result_gather ..) (Plan.calls_run ..)
  untaken others sameLength agree := by
    have same : ∀ position ∈ head.taken ctx scope operands,
        operandWalk ctx scope others position = operandWalk ctx scope operands position := by
      intro position taken
      rw [operandWalk, operandWalk, agree position taken]
    obtain ⟨runs, takes⟩ := Plan.run_congr same
    rw [evaluate_node_eq_run, evaluate_node_eq_run, Head.taken, sameLength]
    exact ⟨congrArg (· >>= head.finish ctx scope) runs, takes⟩

/-! ## Choices inside choices -/

theorem evaluate_choice {name : String} (named : name ∈ ["if", "?:"]) (operands : List Expr) :
    (call name operands).evaluate ctx scope = evaluateChoice ctx scope operands := by
  have choice : Connective.ofName? name = some .choose := by
    simp only [List.mem_cons, List.not_mem_nil, or_false] at named
    rcases named with rfl | rfl <;> rfl
  simp only [evaluate, choice]

/-- Every node takes its operands in turn, and a choice may be written as choices
of one condition each. -/
theorem evaluate_in_turn :
    (∀ head operands, TakesInTurn ctx scope head operands) ∧
    ∀ name ∈ ["if", "?:"], ∀ outer ∈ ["if", "?:"], ∀ inner ∈ ["if", "?:"],
      ∀ condition branch rest,
        (call name (condition :: branch :: rest)).evaluate ctx scope =
          (call outer [condition, branch, call inner rest]).evaluate ctx scope := by
  refine ⟨takesInTurn ctx scope, ?_⟩
  intro name named outer namedOuter inner namedInner condition branch rest
  rw [evaluate_choice ctx scope named, evaluate_choice ctx scope namedOuter]
  simp only [evaluateChoice, evaluate_choice ctx scope namedInner]

/-- A choice whose second condition holds: the operator that breaks off stands in
places that are not reached, and anything else may stand there. -/
theorem evaluate_in_turn_around_broken_probe :
    let scope : Scope :=
      ⟨(Registry.empty.register "log" fun _ => .ok (.bool true)).register "probe"
        fun _ => .error (.brokeOff none), none⟩
    let head : Head := .operator "if"
    let broken : Expr := .call "probe" []
    let operands := [.literal (.bool false), broken, .call "log" [], .literal (.text "yes"), broken]
    let others := [.literal (.bool false), .var "age" none, .call "log" [], .literal (.text "yes"),
      .call "log" []]
    head.taken .empty scope operands = [0, 2, 3] ∧
    (head.node operands).evaluate .empty scope = ⟨.ok (.text "yes"), [⟨"log", []⟩]⟩ ∧
    (head.node others).evaluate .empty scope = (head.node operands).evaluate .empty scope ∧
    (call "if" operands).evaluate .empty scope =
      (call "?:" [.literal (.bool false), broken,
        .call "if" [.call "log" [], .literal (.text "yes"), broken]]).evaluate .empty scope ∧
    ((head.node [broken, broken]).evaluate .empty scope).result =
      .error (.operator "probe" (.brokeOff none)) ∧
    head.taken .empty scope [broken, broken] = [0] := by
  intro scope head broken operands others
  obtain ⟨inTurn, nested⟩ := evaluate_in_turn .empty scope
  have taken : head.taken .empty scope operands = [0, 2, 3] := rfl
  have agree : ∀ position ∈ head.taken .empty scope operands,
      others[position]? = operands[position]? := by
    rw [taken]
    intro position member
    simp only [List.mem_cons, List.not_mem_nil, or_false] at member
    rcases member with rfl | rfl | rfl <;> rfl
  exact ⟨taken, rfl, ((inTurn head operands).untaken others rfl agree).1,
    nested "if" (by simp) "?:" (by simp) "if" (by simp) _ _ _, rfl, rfl⟩

end Expr

end Eligibility
