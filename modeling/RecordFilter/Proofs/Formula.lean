/-
# The plain reading of an expression

Evaluation stops as soon as the verdict is settled.  The formula of an expression stops nowhere:
it asks every clause, every operator and every operand, and folds the answers into one truth
value.  The operators of a set are asked one by one: those that are configured and apply to the
value's category must all be met (`OperatorSet.formula`), and the combinators fold into an
accumulator that starts as true (`Combinators.formula`).

Main statements: where every predicate answers, the evaluation of a record has a verdict and it is
the formula's (`Expression.evaluate_outcome`); and a verdict is the formula's even where some
predicate would fail if it were asked (`Expression.evaluate_settled`).  Both read an evaluation as a
truth value, and what they share is the way from the parts to the whole, one step for each kind of
node (`Expression.evaluate_step`, `OperatorSet.evaluate_step`).
-/
import RecordFilter.Proofs.Occurrences

namespace RecordFilter

/-! ## 1. One operator on one value -/

/-- The orders of a value and a bound that an ordering operator asks for. -/
def Operator.orders : Operator → List Ordering
  | .greaterThan => [.gt]
  | .greaterThanOrEqual => [.gt, .eq]
  | .lessThan => [.lt]
  | .lessThanOrEqual => [.lt, .eq]
  | _ => []

theorem Operator.accepts_eq (op : Operator) (o : Ordering) :
    op.accepts o = op.orders.contains o := by
  cases op <;> cases o <;> rfl

theorem Operator.appliesTo_eq (op : Operator) (category : Category) :
    op.appliesTo category = (decide (op.category = .generic) || decide (op.category = category)) :=
  rfl

namespace Conditions

/-- A text as it is compared: in lower case where case is ignored. -/
def lowered (c : Conditions) (s : String) : String :=
  match c.caseInsensitive with
  | true => Text.lowercase s
  | false => s

/-- A value as the equalities compare it: a string in lower case where case is ignored. -/
def foldValue (c : Conditions) : Value → Value
  | .string s => .string (c.lowered s)
  | v => v

/-- Is a value present and strictly equal to an operand, both as they are compared? -/
def equalFolded (c : Conditions) (value : Option Value) (operand : Value) : Bool :=
  value.any fun v => (c.foldValue v).strictEq (c.foldValue operand)

/-- Does a numeric have an order with a bound, one that the operator asks for? -/
def inOrder (op : Operator) (bound n : Numeric) : Bool :=
  (n.compare? bound).any fun o => op.orders.contains o

/-- Is a setting there, is there what it looks at, and does it hold of that? -/
def metBy {α β : Type} (setting : Option α) (subject : Option β) (holds : α → β → Bool) : Bool :=
  setting.any fun a => subject.any (holds a)

/-- Is an operator set and met by a value of its category?  The flag that ignores case asks nothing
itself; `lengthMet` answers for a length. -/
def met (c : Conditions) (value : Option Value) (lengthMet : Bool) : Operator → Bool
  | .equals => c.equals.any fun v => c.equalFolded value v
  | .notEquals => c.notEquals.any fun v => !c.equalFolded value v
  | .includes => metBy c.includes (value.bind Value.string?) fun part s =>
    Text.includes (c.lowered part) (c.lowered s)
  | .startsWith => metBy c.startsWith (value.bind Value.string?) fun part s =>
    Text.isStart (c.lowered part) (c.lowered s)
  | .endsWith => metBy c.endsWith (value.bind Value.string?) fun part s =>
    Text.isEnd (c.lowered part) (c.lowered s)
  | .caseInsensitive => true
  | .matchesPattern => metBy c.matchesPattern (value.bind Value.string?) fun p s =>
    p.isMatch (c.lowered s)
  | .greaterThan => metBy c.greaterThan (value.bind Value.numeric?) (inOrder .greaterThan)
  | .greaterThanOrEqual =>
    metBy c.greaterThanOrEqual (value.bind Value.numeric?) (inOrder .greaterThanOrEqual)
  | .lessThan => metBy c.lessThan (value.bind Value.numeric?) (inOrder .lessThan)
  | .lessThanOrEqual =>
    metBy c.lessThanOrEqual (value.bind Value.numeric?) (inOrder .lessThanOrEqual)
  | .includesEvery => metBy c.includesEvery (value.bind Value.array?) fun vs items =>
    vs.all fun v => items.any fun item => item.strictEq v
  | .includesSome => metBy c.includesSome (value.bind Value.array?) fun vs items =>
    vs.any fun v => items.any fun item => item.strictEq v
  | .includesNone => metBy c.includesNone (value.bind Value.array?) fun vs items =>
    !vs.any fun v => items.any fun item => item.strictEq v
  | .length => lengthMet

/-! ## 2. The conditions, one by one -/

theorem fold_eq (c : Conditions) (s : String) : c.fold s = c.lowered s := by
  unfold fold lowered
  cases c.caseInsensitive <;> rfl

theorem presentEqual_eq_any (value : Option Value) (operand : Value) :
    presentEqual value operand = value.any fun v => v.strictEq operand := by
  cases value <;> rfl

theorem ordered_eq (op : Operator) (n bound : Numeric) :
    ordered op n bound = inOrder op bound n := by
  unfold ordered inOrder
  cases n.compare? bound with
  | none => rfl
  | some o => exact Operator.accepts_eq op o

theorem ifSet_eq_any {α : Type} (setting : Option α) (holds : α → Bool) :
    ifSet setting holds = (!setting.isSome || setting.any holds) := by
  cases setting <;> simp

/-- A filtered list of set operators, read off the table of all of them. -/
theorem all_filterMap_isSet (p q : Operator → Bool) : ∀ table : List (Operator × Bool),
    ((table.filterMap fun (op, isSet) => if isSet then some op else none).filter p).all q =
      table.all fun (op, isSet) => !(isSet && p op) || q op
  | [] => rfl
  | (op, isSet) :: rest => by
    have ih := all_filterMap_isSet p q rest
    cases isSet <;> cases hp : p op <;> simp_all

/-- A folded string compares with an operand as the string does when both are folded values. -/
theorem equalsFolded_eq (c : Conditions) (s : String) :
    c.equalsFolded (c.lowered s) = c.equalFolded (some (.string s)) := by
  funext operand
  cases operand <;> simp [equalsFolded, equalFolded, foldValue, fold_eq, Value.strictEq]

/-- What is no string is compared as it is: folding the operand as well changes nothing. -/
theorem presentEqual_eq (c : Conditions) {value : Option Value}
    (h : value.bind Value.string? = none) : presentEqual value = c.equalFolded value := by
  funext operand
  match value with
  | none => rfl
  | some (.string s) => simp [Value.string?] at h
  | some .null | some (.bool _) | some (.number _) | some (.timestamp _) | some (.array _)
  | some (.object _) =>
    cases operand <;> simp [equalFolded, foldValue, presentEqual_eq_any, Value.strictEq]

theorem equalitiesHold_eq (c : Conditions) {value : Option Value}
    (h : value.bind Value.string? = none) :
    c.equalitiesHold value =
      ((c.equals.isNone || c.equals.any fun v => c.equalFolded value v) &&
        (c.notEquals.isNone || c.notEquals.any fun v => !c.equalFolded value v)) := by
  rw [equalitiesHold, c.presentEqual_eq h]
  simp [ifSet_eq_any]

theorem stringHolds_eq (c : Conditions) (s : String) :
    c.stringHolds s =
      ((c.equals.isNone || c.equals.any fun v => c.equalFolded (some (.string s)) v) &&
        (c.notEquals.isNone || c.notEquals.any fun v => !c.equalFolded (some (.string s)) v) &&
        (c.includes.isNone ||
          c.includes.any fun part => Text.includes (c.lowered part) (c.lowered s)) &&
        (c.startsWith.isNone ||
          c.startsWith.any fun part => Text.isStart (c.lowered part) (c.lowered s)) &&
        (c.endsWith.isNone ||
          c.endsWith.any fun part => Text.isEnd (c.lowered part) (c.lowered s)) &&
        (c.matchesPattern.isNone || c.matchesPattern.any fun p => p.isMatch (c.lowered s))) := by
  simp only [stringHolds, fold_eq, equalsFolded_eq, ifSet_eq_any, Option.not_isSome]

theorem orderingsHold_eq (c : Conditions) (n : Numeric) :
    c.orderingsHold n =
      ((c.greaterThan.isNone || c.greaterThan.any fun bound => inOrder .greaterThan bound n) &&
        (c.greaterThanOrEqual.isNone ||
          c.greaterThanOrEqual.any fun bound => inOrder .greaterThanOrEqual bound n) &&
        (c.lessThan.isNone || c.lessThan.any fun bound => inOrder .lessThan bound n) &&
        (c.lessThanOrEqual.isNone ||
          c.lessThanOrEqual.any fun bound => inOrder .lessThanOrEqual bound n)) := by
  have hordered : ∀ op, ordered op n = fun bound => inOrder op bound n :=
    fun op => funext fun bound => ordered_eq op n bound
  simp only [orderingsHold, hordered, ifSet_eq_any, Option.not_isSome]

/-- **The conditions hold exactly when all that apply are met.** -/
theorem hold_eq_all_met (c : Conditions) (value : Option Value) (lengthMet : Bool) :
    c.hold value =
      (c.configured.filter fun op => op.appliesTo (Category.of value)).all
        (c.met value lengthMet) := by
  rw [configured, all_filterMap_isSet]
  simp only [List.all_cons, List.all_nil, met, Operator.appliesTo_eq, Operator.category]
  cases value with
  | none =>
    simp only [hold]
    rw [c.equalitiesHold_eq rfl]
    simp [Category.of]
  | some value =>
    cases value with
    | string s =>
      simp [hold, stringHolds_eq, metBy, Category.of, Value.category, Value.string?,
        Bool.and_assoc]
    | number n =>
      have h : c.equalitiesHold (some (.number n)) = _ := c.equalitiesHold_eq rfl
      simp [hold, h, orderingsHold_eq, metBy, Category.of, Value.category, Value.numeric?,
        Bool.and_assoc]
    | timestamp t =>
      have h : c.equalitiesHold (some (.timestamp t)) = _ := c.equalitiesHold_eq rfl
      simp [hold, h, orderingsHold_eq, metBy, Category.of, Value.category, Value.numeric?,
        Bool.and_assoc]
    | array items =>
      have h : c.equalitiesHold (some (.array items)) = _ := c.equalitiesHold_eq rfl
      have hitem : hasItem items = fun v => items.any fun item => item.strictEq v := rfl
      simp [hold, h, membershipsHold, hitem, ifSet_eq_any, metBy, Category.of, Value.category,
        Value.array?, Bool.and_assoc]
    | null | bool | object =>
      simp only [hold]
      rw [c.equalitiesHold_eq rfl]
      simp [Category.of, Value.category]

end Conditions

/-! ## 3. The formula -/

/-- What a predicate answers in a context; a failure counts as no. -/
def Predicate.answer (p : Predicate) (context : FieldContext) : Bool :=
  match p.call context with
  | .ok b => b
  | .error _ => false

mutual

/-- The formula of an expression: all clauses, and the fold of the combinators. -/
def Expression.formula : Expression → Scope → Bool
  | ⟨clauses, combinators⟩, scope =>
    Expression.clausesFormula clauses scope && combinators.formula scope

/-- All clauses hold. -/
def Expression.clausesFormula : List (String × Clause) → Scope → Bool
  | [], _ => true
  | (name, clause) :: rest, scope =>
    clause.formula name scope && Expression.clausesFormula rest scope

/-- The formula of a clause on a field. -/
def Clause.formula : Clause → String → Scope → Bool
  | .literal v, name, scope => (scope.record.get? name).any fun found => found.strictEq v
  | .predicate p, name, scope => p.answer (scope.contextOf name)
  | .operators ops, name, scope => ops.formula (scope.record.get? name) scope

/-- The formula of an operator set: every configured operator that applies to the value is met,
and the fold of the combinators, which look at the whole record. -/
def OperatorSet.formula : OperatorSet → Option Value → Scope → Bool
  | ⟨conditions, length, combinators⟩, value, scope =>
    let operators := OperatorSet.configured ⟨conditions, length, combinators⟩
    let inForce := operators.filter fun op => op.appliesTo (Category.of value)
    inForce.all (conditions.met value (OperatorSet.lengthFormula length value scope)) &&
      combinators.formula scope

/-- The formula of the set of a length, on the number of items. -/
def OperatorSet.lengthFormula : Option OperatorSet → Option Value → Scope → Bool
  | some ops, some (.array items), scope =>
    ops.formula (some (.number (.unsigned (.ofNat items.length)))) scope
  | _, _, _ => false

/-- The fold of the combinators: the accumulator starts as true and takes `$NOT`, `$AND` and `$OR`
in this order. -/
def Combinators.formula : Combinators → Scope → Bool
  | ⟨not, and, or⟩, scope =>
    Combinators.foldOr or
      (Combinators.foldAnd and (Combinators.foldNot not true scope) scope) scope

/-- And not all. -/
def Combinators.foldNot : Option Operand → Bool → Scope → Bool
  | none, acc, _ => acc
  | some operand, acc, scope => acc && !operand.formulaAll scope

/-- And all. -/
def Combinators.foldAnd : Option Operand → Bool → Scope → Bool
  | none, acc, _ => acc
  | some operand, acc, scope => acc && operand.formulaAll scope

/-- And one of a list; or the single expression. -/
def Combinators.foldOr : Option Operand → Bool → Scope → Bool
  | none, acc, _ => acc
  | some (.single e), acc, scope => acc || e.formula scope
  | some (.many es), acc, scope => acc && Operand.formulaAny es scope

/-- All expressions of an operand hold. -/
def Operand.formulaAll : Operand → Scope → Bool
  | .single e, scope => e.formula scope
  | .many es, scope => Operand.formulaEvery es scope

/-- All expressions of a list hold. -/
def Operand.formulaEvery : List Expression → Scope → Bool
  | [], _ => true
  | e :: rest, scope => e.formula scope && Operand.formulaEvery rest scope

/-- One expression of a list holds. -/
def Operand.formulaAny : List Expression → Scope → Bool
  | [], _ => false
  | e :: rest, scope => e.formula scope || Operand.formulaAny rest scope

end

/-! ## 4. The formula through its parts -/

theorem Expression.clausesFormula_eq (scope : Scope) : ∀ clauses : List (String × Clause),
    Expression.clausesFormula clauses scope = clauses.all fun c => c.2.formula c.1 scope
  | [] => by rw [Expression.clausesFormula]; rfl
  | (name, clause) :: rest => by
    rw [Expression.clausesFormula, Expression.clausesFormula_eq scope rest]
    rfl

theorem Operand.formulaEvery_eq (scope : Scope) : ∀ es : List Expression,
    Operand.formulaEvery es scope = es.all (·.formula scope)
  | [] => by rw [Operand.formulaEvery]; rfl
  | e :: rest => by
    rw [Operand.formulaEvery, Operand.formulaEvery_eq scope rest]
    rfl

theorem Operand.formulaAny_eq (scope : Scope) : ∀ es : List Expression,
    Operand.formulaAny es scope = es.any (·.formula scope)
  | [] => by rw [Operand.formulaAny]; rfl
  | e :: rest => by
    rw [Operand.formulaAny, Operand.formulaAny_eq scope rest]
    rfl

theorem Operand.formulaAll_eq (operand : Operand) (scope : Scope) :
    operand.formulaAll scope = operand.expressions.all (·.formula scope) := by
  cases operand with
  | single e => simp [Operand.formulaAll, Operand.expressions]
  | many es => rw [Operand.formulaAll, Operand.formulaEvery_eq]; rfl

/-- Is the set of a length met where it is asked?  It is not asked where there is none, nor on
what is no array. -/
def OperatorSet.lengthHolds : Option OperatorSet → Option Value → Scope → Bool
  | some ops, some (.array items), scope =>
    ops.formula (some (.number (.unsigned (.ofNat items.length)))) scope
  | _, _, _ => true

theorem OperatorSet.lengthHolds_eq (conditions : Conditions) (length : Option OperatorSet)
    (value : Option Value) (scope : Scope) :
    (((if length.isSome then [Operator.length] else []).filter
        fun op => op.appliesTo (Category.of value)).all
      (conditions.met value (OperatorSet.lengthFormula length value scope))) =
        OperatorSet.lengthHolds length value scope := by
  match length, value with
  | none, _ => rfl
  | some ops, some (.array items) =>
    rw [OperatorSet.lengthFormula]
    simp [Operator.appliesTo_eq, Operator.category, Category.of, Value.category, Conditions.met,
      OperatorSet.lengthHolds]
  | some _, none | some _, some .null | some _, some (.bool _) | some _, some (.number _)
  | some _, some (.timestamp _) | some _, some (.string _) | some _, some (.object _) => rfl

/-- The formula of an operator set by its three parts. -/
theorem OperatorSet.formula_eq (conditions : Conditions) (length : Option OperatorSet)
    (combinators : Combinators) (value : Option Value) (scope : Scope) :
    OperatorSet.formula ⟨conditions, length, combinators⟩ value scope =
      (conditions.hold value && OperatorSet.lengthHolds length value scope &&
        combinators.formula scope) := by
  rw [OperatorSet.formula, OperatorSet.configured, List.filter_append, List.all_append,
    ← Conditions.hold_eq_all_met, OperatorSet.lengthHolds_eq]

/-! ## 5. One step of the evaluation -/

/-- Every predicate of the list is read in a scope as the answer that the formula takes for it. -/
def Scope.AllRead (R : Evaluation → Bool → Prop) (scope : Scope)
    (predicates : List (String × Predicate)) : Prop :=
  ∀ o ∈ predicates, R (o.2.evaluate (scope.contextOf o.1)) (o.2.answer (scope.contextOf o.1))

section Steps

variable {R : Evaluation → Bool → Prop} {scope : Scope}

theorem Scope.AllRead.mono {part whole : List (String × Predicate)} (h : scope.AllRead R whole)
    (sub : ∀ o ∈ part, o ∈ whole) : scope.AllRead R part :=
  fun o ho => h o (sub o ho)

variable (hR : Evaluation.Reading R)

include hR

theorem Operand.evaluateAll_reads {operand : Operand}
    (h : ∀ e ∈ operand.expressions, R (e.evaluate scope) (e.formula scope)) :
    R (operand.evaluateAll scope) (operand.formulaAll scope) := by
  rw [Operand.evaluateAll_eq, Operand.formulaAll_eq]
  exact hR.every_map h

theorem Operand.evaluateAny_reads {es : List Expression}
    (h : ∀ e ∈ es, R (e.evaluate scope) (e.formula scope)) :
    R (Operand.evaluateAny es scope) (Operand.formulaAny es scope) := by
  rw [Operand.evaluateAny_eq, Operand.formulaAny_eq]
  exact hR.any_map h

theorem Combinators.evaluateNot_reads {operand : Option Operand}
    (h : ∀ e ∈ operand.elim [] Operand.expressions, R (e.evaluate scope) (e.formula scope)) :
    R (Combinators.evaluateNot operand scope) (Combinators.foldNot operand true scope) := by
  cases operand with
  | none =>
    rw [Combinators.evaluateNot, Combinators.foldNot]
    exact hR.verdict true
  | some operand =>
    rw [Combinators.evaluateNot, Combinators.foldNot, Bool.true_and]
    exact hR.negate (Operand.evaluateAll_reads hR h)

/-- The accumulator before `$OR`. -/
theorem Combinators.evaluateAnd_reads {operand : Option Operand} {before : Evaluation}
    {acc : Bool} (hb : R before acc)
    (h : ∀ e ∈ operand.elim [] Operand.expressions, R (e.evaluate scope) (e.formula scope)) :
    R (before.andThen fun _ => Combinators.evaluateAnd operand scope)
      (Combinators.foldAnd operand acc scope) := by
  cases operand with
  | none =>
    rw [Combinators.evaluateAnd, Combinators.foldAnd, Evaluation.andThen_verdict_true]
    exact hb
  | some operand =>
    rw [Combinators.evaluateAnd, Combinators.foldAnd]
    exact hR.andThen hb (Operand.evaluateAll_reads hR h)

theorem Combinators.evaluateOr_reads {operand : Option Operand} {before : Evaluation}
    {acc : Bool} (hb : R before acc)
    (h : ∀ e ∈ operand.elim [] Operand.expressions, R (e.evaluate scope) (e.formula scope)) :
    R (Combinators.evaluateOr operand before scope) (Combinators.foldOr operand acc scope) := by
  match operand with
  | none =>
    rw [Combinators.evaluateOr, Combinators.foldOr]
    exact hb
  | some (.single e) =>
    rw [Combinators.evaluateOr, Combinators.foldOr]
    exact hR.orElse hb (h e (List.mem_singleton_self e))
  | some (.many es) =>
    rw [Combinators.evaluateOr, Combinators.foldOr]
    exact hR.andThen hb (Operand.evaluateAny_reads hR h)

/-- **Combinators fold as their formula does**, if the expressions under them do. -/
theorem Combinators.evaluate_reads {cs : Combinators}
    (h : ∀ e ∈ cs.expressions, R (e.evaluate scope) (e.formula scope)) :
    R (cs.evaluate scope) (cs.formula scope) := by
  obtain ⟨not, and, or⟩ := cs
  have hnot := Combinators.evaluateNot_reads hR fun e he =>
    h e (List.mem_append_left _ (List.mem_append_left _ he))
  have hand := Combinators.evaluateAnd_reads hR hnot fun e he =>
    h e (List.mem_append_left _ (List.mem_append_right _ he))
  rw [Combinators.evaluate, Combinators.formula]
  exact Combinators.evaluateOr_reads hR hand fun e he => h e (List.mem_append_right _ he)

/-- The set of a length is met where there is none, where the value is no array, and where the
number of items meets it. -/
theorem OperatorSet.evaluateLength_reads {length : Option OperatorSet}
    (h : ∀ ops, length = some ops → ∀ value, R (ops.evaluate value scope) (ops.formula value scope))
    (value : Option Value) :
    R (OperatorSet.evaluateLength length value scope)
      (OperatorSet.lengthHolds length value scope) := by
  match length, value with
  | none, _ =>
    rw [OperatorSet.evaluateLength.eq_def]
    exact hR.verdict true
  | some ops, some (.array items) =>
    rw [OperatorSet.evaluateLength]
    exact h ops rfl _
  | some _, none | some _, some .null | some _, some (.bool _) | some _, some (.number _)
  | some _, some (.timestamp _) | some _, some (.string _) | some _, some (.object _) =>
    exact hR.verdict true

/-- **An operator set evaluates to its formula**, if the sets and expressions inside do. -/
theorem OperatorSet.evaluate_step {conditions : Conditions} {length : Option OperatorSet}
    {combinators : Combinators}
    (hlength : ∀ ops, length = some ops → ∀ value,
      R (ops.evaluate value scope) (ops.formula value scope))
    (hcombinators : ∀ e ∈ combinators.expressions, R (e.evaluate scope) (e.formula scope))
    (value : Option Value) :
    R (OperatorSet.evaluate ⟨conditions, length, combinators⟩ value scope)
      (OperatorSet.formula ⟨conditions, length, combinators⟩ value scope) := by
  have hc := Combinators.evaluate_reads hR hcombinators
  have hl := OperatorSet.evaluateLength_reads hR hlength value
  rw [OperatorSet.evaluate, OperatorSet.formula_eq, Bool.and_assoc]
  exact hR.after (hR.andThen (hR.verdict _) (hR.andThen hl hc)) _

/-- A clause evaluates to its formula, if an operator set in it does. -/
theorem Clause.evaluate_reads {name : String} {clause : Clause}
    (hops : ∀ ops, clause = .operators ops → scope.AllRead R ops.predicates → ∀ value,
      R (ops.evaluate value scope) (ops.formula value scope))
    (hpredicates : scope.AllRead R (clause.predicates name)) :
    R (clause.evaluate name scope) (clause.formula name scope) := by
  cases clause with
  | literal v =>
    rw [Clause.evaluate, Clause.formula, Conditions.presentEqual_eq_any]
    exact hR.verdict _
  | predicate p =>
    rw [Clause.evaluate, Clause.formula]
    exact hpredicates (name, p) (by simp [Clause.predicates])
  | operators ops =>
    rw [Clause.predicates] at hpredicates
    rw [Clause.evaluate, Clause.formula]
    exact hops ops rfl hpredicates _

/-- **An expression evaluates to its formula**, if the operator sets and expressions inside do. -/
theorem Expression.evaluate_step {clauses : List (String × Clause)} {combinators : Combinators}
    (hclauses : ∀ c ∈ clauses, R (c.2.evaluate c.1 scope) (c.2.formula c.1 scope))
    (hcombinators : ∀ e ∈ combinators.expressions, R (e.evaluate scope) (e.formula scope)) :
    R (Expression.evaluate ⟨clauses, combinators⟩ scope)
      (Expression.formula ⟨clauses, combinators⟩ scope) := by
  rw [Expression.evaluate_eq, Expression.formula, Expression.clausesFormula_eq]
  exact hR.andThen (hR.every_map hclauses) (Combinators.evaluate_reads hR hcombinators)

/-! ## 6. The whole evaluation -/

/-- **An evaluation is read as the formula where its predicates are read as their answers.**  So is
that of an operator set, on any value. -/
theorem Expression.evaluate_reads :
    (∀ e : Expression, scope.AllRead R e.predicates → R (e.evaluate scope) (e.formula scope)) ∧
    ∀ ops : OperatorSet, scope.AllRead R ops.predicates → ∀ value,
      R (ops.evaluate value scope) (ops.formula value scope) := by
  refine Expression.induction ?_ ?_
  · intro clauses combinators hops hes hpredicates
    refine Expression.evaluate_step hR (fun c hc => ?_) (fun e he => ?_)
    · obtain ⟨name, clause⟩ := c
      exact Clause.evaluate_reads hR (fun ops h => hops name ops (h ▸ hc))
        (hpredicates.mono fun o ho => Expression.mem_predicates_of_clause hc ho)
    · exact hes e he (hpredicates.mono fun o ho =>
        Expression.mem_predicates_of_combinators (Combinators.mem_predicates he ho))
  · intro conditions length combinators hlength hes hpredicates
    rw [OperatorSet.predicates] at hpredicates
    refine OperatorSet.evaluate_step hR (fun ops h => ?_) (fun e he => ?_)
    · subst h
      exact hlength ops rfl (hpredicates.mono fun o ho => List.mem_append_left _ ho)
    · exact hes e he (hpredicates.mono fun o ho =>
        List.mem_append_right _ (Combinators.mem_predicates he ho))

end Steps

theorem Scope.AllAnswer.allRead {scope : Scope} {predicates : List (String × Predicate)}
    (h : scope.AllAnswer predicates) : scope.AllRead (fun e b => e.outcome = .ok b) predicates := by
  intro o ho
  obtain ⟨b, hb⟩ := h o ho
  have hanswer : o.2.answer (scope.contextOf o.1) = b := by rw [Predicate.answer, hb]
  rw [hanswer]
  exact Predicate.evaluate_outcome hb

theorem Scope.allRead_settled (scope : Scope) (predicates : List (String × Predicate)) :
    scope.AllRead Evaluation.Settled predicates := by
  intro o _ v hv
  unfold Predicate.evaluate at hv
  unfold Predicate.answer
  cases hcall : o.2.call (scope.contextOf o.1) with
  | ok b =>
    rw [hcall] at hv
    exact (Except.ok.inj hv).symm
  | error reason => simp [hcall] at hv

/-- **Stopping early never changes a verdict.**  In a scope where all its predicates answer, an
expression evaluates to its formula, and so does an operator set on any value. -/
theorem Expression.evaluate_outcome (scope : Scope) :
    (∀ e : Expression, scope.AllAnswer e.predicates →
      (e.evaluate scope).outcome = .ok (e.formula scope)) ∧
    ∀ ops : OperatorSet, scope.AllAnswer ops.predicates → ∀ value,
      (ops.evaluate value scope).outcome = .ok (ops.formula value scope) := by
  obtain ⟨hexpression, hset⟩ := @Expression.evaluate_reads _ scope Evaluation.reading_outcome
  exact ⟨fun e answers => hexpression e answers.allRead,
    fun ops answers => hset ops answers.allRead⟩

/-- **A verdict is the formula's, whatever predicates fail.**  A failure that the evaluation has not
met could as well have been an answer, the one that the formula takes for it. -/
theorem Expression.evaluate_settled (e : Expression) (scope : Scope) :
    (e.evaluate scope).Settled (e.formula scope) :=
  (Expression.evaluate_reads Evaluation.reading_settled).1 e (scope.allRead_settled e.predicates)

/-- **A record's evaluation is its formula.**  Where every predicate that occurs answers on the
record at an index, the evaluation has a verdict, and it is the plain formula's. -/
theorem Expression.evaluate_eq_formula (e : Expression) (dataset : List Record) (index : Nat)
    (inRange : index < dataset.length)
    (answers : ∀ o ∈ e.predicates, ∃ b,
      o.2.call (Scope.contextOf ⟨dataset, index, dataset[index]⟩ o.1) = .ok b) :
    (e.evaluate ⟨dataset, index, dataset[index]⟩).outcome =
      .ok (e.formula ⟨dataset, index, dataset[index]⟩) :=
  (Expression.evaluate_outcome _).1 e answers

/-- Tags with an `a` among them that are fewer than two, a predicate standing in the set of the
length; a name in whatever case; and two combinators over lists. -/
def Expression.fewTags : Expression :=
  ⟨[("tags", .operators ⟨{ includesSome := some [.string "a"] },
      some ⟨{ lessThan := some (.number (.signed ⟨2, by decide, by decide⟩)) }, none,
        ⟨none, some (.single ⟨[("id", .predicate ⟨fun c => .ok (c.index == 1)⟩)], .empty⟩), none⟩⟩,
      .empty⟩),
    ("name", .operators
      ⟨{ equals := some (.string "BOB"), startsWith := some "B", caseInsensitive := true }, none,
        .empty⟩)],
    ⟨some (.many [⟨[("id", .literal .null)], .empty⟩, .empty]), none, some (.many [.empty])⟩⟩

/-- Two records that differ in their tags, and in the case of a name. -/
def Record.tagged : List Record :=
  [⟨[("id", .bool true), ("name", .string "BOB")]⟩,
    ⟨[("id", .bool true), ("name", .string "Bob"), ("tags", .array [.string "a"])]⟩]

theorem Expression.fewTags_evaluate :
    (∀ o ∈ Expression.fewTags.predicates, ∃ b,
      o.2.call (Scope.contextOf ⟨Record.tagged, 1, Record.tagged[1]⟩ o.1) = .ok b) ∧
    (Expression.fewTags.evaluate ⟨Record.tagged, 1, Record.tagged[1]⟩).outcome = .ok true := by
  have answers : ∀ o ∈ Expression.fewTags.predicates, ∃ b,
      o.2.call (Scope.contextOf ⟨Record.tagged, 1, Record.tagged[1]⟩ o.1) = .ok b := by
    intro o ho
    have h : o = ("id", ⟨fun c => .ok (c.index == 1)⟩) := List.mem_singleton.mp ho
    subst h
    exact ⟨true, rfl⟩
  have hformula : Expression.fewTags.formula ⟨Record.tagged, 1, Record.tagged[1]⟩ = true := by
    decide +kernel
  have houtcome :=
    Expression.evaluate_eq_formula Expression.fewTags Record.tagged 1 (by decide) answers
  exact ⟨answers, houtcome.trans (congrArg Except.ok hformula)⟩

end RecordFilter
