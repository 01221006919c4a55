/-
# Expressions with the same verdicts

Two expressions have the same verdicts when their formulas agree on records that are alike
(`Expression.SameVerdict`).  They do when their parts correspond: the clauses one by one, in any
order; the combinators one by one, single operands to single ones and lists to lists of the same
length; and in operator sets the conditions, whose operands are alike, and the lengths.  Here the
step is taken from the parts to the whole, for one node each (`Expression.sameVerdict`,
`OperatorSet.sameVerdict`).  What has the same verdicts in this sense matches the same records of
any dataset (`Expression.SameVerdict.matchesAt_eq`).

Of two operands that correspond, the left one must name no entry twice (`Value.OperandLike`).  The
values of the records need not be well formed, since a look-up goes into operands only.
-/
import RecordFilter.Proofs.Likeness
import RecordFilter.Proofs.Safety

namespace RecordFilter

variable {N : Number → Number → Prop}

/-! ## 1. Conditions -/

/-- Alike values, of which the left one is well formed. -/
def Value.OperandLike (N : Number → Number → Prop) (v v' : Value) : Prop :=
  Value.Like N v v' ∧ v.WellFormed

/-- The same conditions are set in both, with operands that are alike. -/
structure Conditions.Like (N : Number → Number → Prop) (c c' : Conditions) : Prop where
  equals : Option.Rel (Value.OperandLike N) c.equals c'.equals
  notEquals : Option.Rel (Value.OperandLike N) c.notEquals c'.notEquals
  includes : c.includes = c'.includes
  startsWith : c.startsWith = c'.startsWith
  endsWith : c.endsWith = c'.endsWith
  caseInsensitive : c.caseInsensitive = c'.caseInsensitive
  matchesPattern : c.matchesPattern = c'.matchesPattern
  greaterThan : Option.Rel (Numeric.Like N) c.greaterThan c'.greaterThan
  greaterThanOrEqual : Option.Rel (Numeric.Like N) c.greaterThanOrEqual c'.greaterThanOrEqual
  lessThan : Option.Rel (Numeric.Like N) c.lessThan c'.lessThan
  lessThanOrEqual : Option.Rel (Numeric.Like N) c.lessThanOrEqual c'.lessThanOrEqual
  includesEvery : Option.Rel (List.Forall₂ (Value.OperandLike N)) c.includesEvery c'.includesEvery
  includesSome : Option.Rel (List.Forall₂ (Value.OperandLike N)) c.includesSome c'.includesSome
  includesNone : Option.Rel (List.Forall₂ (Value.OperandLike N)) c.includesNone c'.includesNone

namespace Conditions

theorem ifSet_rel {α β : Type} {R : α → β → Prop} {o : Option α} {o' : Option β}
    (h : Option.Rel R o o') {p : α → Bool} {q : β → Bool} (hpq : ∀ a b, R a b → p a = q b) :
    ifSet o p = ifSet o' q := by
  cases h with
  | none => rfl
  | some h => exact hpq _ _ h

theorem Like.empty : Conditions.Like N {} {} :=
  ⟨.none, .none, rfl, rfl, rfl, rfl, rfl, .none, .none, .none, .none, .none, .none, .none⟩

section Holds

variable {c c' : Conditions}

theorem presentEqual_like (hN : Number.Likeness N) {value value' : Option Value}
    (hvalue : Option.Rel (Value.Like N) value value') {v v' : Value}
    (h : Value.OperandLike N v v') : presentEqual value v = presentEqual value' v' := by
  cases hvalue with
  | none => rfl
  | some hvalue => exact Value.strictEq_like hN _ hvalue h.1 h.2

theorem equalitiesHold_like (hN : Number.Likeness N) (h : c.Like N c')
    {value value' : Option Value} (hvalue : Option.Rel (Value.Like N) value value') :
    c.equalitiesHold value = c'.equalitiesHold value' := by
  have hequals := ifSet_rel h.equals fun _ _ hv => presentEqual_like hN hvalue hv
  have hnotEquals := ifSet_rel h.notEquals (p := fun v => !presentEqual value v)
    (q := fun v => !presentEqual value' v) fun _ _ hv =>
      congrArg (!·) (presentEqual_like hN hvalue hv)
  rw [equalitiesHold, equalitiesHold, hequals, hnotEquals]

theorem stringHolds_like (h : c.Like N c') (s : String) : c.stringHolds s = c'.stringHolds s := by
  have hfold : c.fold = c'.fold := by
    funext text
    rw [fold, fold, h.caseInsensitive]
  have hfolded : ∀ v v', Value.OperandLike N v v' →
      c.equalsFolded (c'.fold s) v = c'.equalsFolded (c'.fold s) v' := by
    rintro v v' ⟨hv, _⟩
    cases hv <;> simp only [equalsFolded, hfold]
  have hequals := ifSet_rel h.equals hfolded
  have hnotEquals := ifSet_rel h.notEquals (p := fun v => !c.equalsFolded (c'.fold s) v)
    (q := fun v => !c'.equalsFolded (c'.fold s) v) fun v v' hv => congrArg (!·) (hfolded v v' hv)
  simp only [stringHolds, hfold, hequals, hnotEquals, h.includes, h.startsWith, h.endsWith,
    h.matchesPattern]

theorem orderingsHold_like (hN : Number.Likeness N) (h : c.Like N c') {n n' : Numeric}
    (hn : Numeric.Like N n n') : c.orderingsHold n = c'.orderingsHold n' := by
  have hordered : ∀ op bound bound', Numeric.Like N bound bound' →
      ordered op n bound = ordered op n' bound' := by
    intro op bound bound' hbound
    rw [ordered, ordered, Numeric.compare?_like hN hn hbound]
  rw [orderingsHold, orderingsHold, ifSet_rel h.greaterThan (hordered _),
    ifSet_rel h.greaterThanOrEqual (hordered _), ifSet_rel h.lessThan (hordered _),
    ifSet_rel h.lessThanOrEqual (hordered _)]

theorem hasItem_like (hN : Number.Likeness N) {items items' : List Value}
    (hitems : List.Forall₂ (Value.Like N) items items') {v v' : Value}
    (h : Value.OperandLike N v v') : hasItem items v = hasItem items' v' := by
  unfold hasItem
  induction hitems with
  | nil => rfl
  | cons hitem _ ih =>
    rw [List.any_cons, List.any_cons, ih, Value.strictEq_like hN _ hitem h.1 h.2]

/-- All and some of a list of operands that are alike have the same items. -/
theorem all_any_like {vs vs' : List Value} (h : List.Forall₂ (Value.OperandLike N) vs vs')
    {p q : Value → Bool} (hpq : ∀ v v', Value.OperandLike N v v' → p v = q v') :
    vs.all p = vs'.all q ∧ vs.any p = vs'.any q := by
  induction h with
  | nil => exact ⟨rfl, rfl⟩
  | cons hv _ ih =>
    rw [List.all_cons, List.all_cons, List.any_cons, List.any_cons, ih.1, ih.2, hpq _ _ hv]
    exact ⟨rfl, rfl⟩

theorem membershipsHold_like (hN : Number.Likeness N) (h : c.Like N c')
    {items items' : List Value} (hitems : List.Forall₂ (Value.Like N) items items') :
    c.membershipsHold items = c'.membershipsHold items' := by
  have hhas : ∀ v v', Value.OperandLike N v v' → hasItem items v = hasItem items' v' :=
    fun _ _ hv => hasItem_like hN hitems hv
  have hevery := ifSet_rel h.includesEvery fun _ _ hvs => (all_any_like hvs hhas).1
  have hsome := ifSet_rel h.includesSome fun _ _ hvs => (all_any_like hvs hhas).2
  have hnone := ifSet_rel h.includesNone (p := fun vs => !vs.any (hasItem items))
    (q := fun vs => !vs.any (hasItem items')) fun _ _ hvs =>
      congrArg (!·) (all_any_like hvs hhas).2
  rw [membershipsHold, membershipsHold, hevery, hsome, hnone]

/-- **Like conditions hold on like values together.** -/
theorem hold_like (hN : Number.Likeness N) (h : c.Like N c') {value value' : Option Value}
    (hvalue : Option.Rel (Value.Like N) value value') : c.hold value = c'.hold value' := by
  have hequalities := equalitiesHold_like hN h hvalue
  cases hvalue with
  | none => exact hequalities
  | some hv =>
    cases hv with
    | string s => exact stringHolds_like h s
    | number hn => simp only [hold, hequalities, orderingsHold_like hN h (.number hn)]
    | timestamp t => simp only [hold, hequalities, orderingsHold_like hN h (.timestamp t)]
    | array hitems => simp only [hold, hequalities, membershipsHold_like hN h hitems]
    | null | bool | object => exact hequalities

end Holds

end Conditions

/-! ## 2. The same verdicts -/

/-- The two expressions have the same verdict on records that are alike. -/
def Expression.SameVerdict (N : Number → Number → Prop) (e e' : Expression) : Prop :=
  ∀ {scope scope' : Scope}, Record.Like N scope.record scope'.record →
    e.formula scope = e'.formula scope'

/-- The same for two clauses on one field. -/
def Clause.SameVerdict (N : Number → Number → Prop) (clause clause' : Clause) : Prop :=
  ∀ {scope scope' : Scope}, Record.Like N scope.record scope'.record → ∀ name,
    clause.formula name scope = clause'.formula name scope'

/-- The same for two operator sets, on values that are alike. -/
def OperatorSet.SameVerdict (N : Number → Number → Prop) (ops ops' : OperatorSet) : Prop :=
  ∀ {scope scope' : Scope}, Record.Like N scope.record scope'.record →
    ∀ {value value' : Option Value}, Option.Rel (Value.Like N) value value' →
      ops.formula value scope = ops'.formula value' scope'

/-- Two operands join as many expressions in the same way, with the same verdicts one by one. -/
inductive Operand.SameVerdict (N : Number → Number → Prop) : Operand → Operand → Prop
  | single {e e' : Expression} (h : e.SameVerdict N e') :
      Operand.SameVerdict N (.single e) (.single e')
  | many {es es' : List Expression} (h : List.Forall₂ (Expression.SameVerdict N) es es') :
      Operand.SameVerdict N (.many es) (.many es')

/-- The same combinators are set, with operands that have the same verdicts. -/
def Combinators.SameVerdict (N : Number → Number → Prop) (cs cs' : Combinators) : Prop :=
  ∀ c, Option.Rel (Operand.SameVerdict N) (cs.get? c) (cs'.get? c)

/-- The parts of two operator sets correspond. -/
structure OperatorSet.Corresponds (N : Number → Number → Prop) (ops ops' : OperatorSet) :
    Prop where
  conditions : ops.conditions.Like N ops'.conditions
  length : Option.Rel (OperatorSet.SameVerdict N) ops.length ops'.length
  combinators : ops.combinators.SameVerdict N ops'.combinators

/-- The parts of two expressions correspond, the clauses in some order. -/
structure Expression.Corresponds (N : Number → Number → Prop) (e e' : Expression) : Prop where
  clauses : ∃ reordered, List.Forall₂ (Entries.Under (Clause.SameVerdict N)) e.clauses reordered ∧
    reordered.Perm e'.clauses
  combinators : e.combinators.SameVerdict N e'.combinators

section Steps

variable {scope scope' : Scope}

theorem Expression.formula_forall₂ {es es' : List Expression}
    (h : List.Forall₂ (Expression.SameVerdict N) es es')
    (hrecord : Record.Like N scope.record scope'.record) :
    es.all (·.formula scope) = es'.all (·.formula scope') ∧
      es.any (·.formula scope) = es'.any (·.formula scope') := by
  induction h with
  | nil => exact ⟨rfl, rfl⟩
  | cons he _ ih =>
    rw [List.all_cons, List.all_cons, List.any_cons, List.any_cons, ih.1, ih.2, he hrecord]
    exact ⟨rfl, rfl⟩

theorem Operand.SameVerdict.formulaAll_eq {operand operand' : Operand}
    (h : operand.SameVerdict N operand') (hrecord : Record.Like N scope.record scope'.record) :
    operand.formulaAll scope = operand'.formulaAll scope' := by
  rw [Operand.formulaAll_eq, Operand.formulaAll_eq]
  cases h with
  | single h => exact (Expression.formula_forall₂ (.cons h .nil) hrecord).1
  | many h => exact (Expression.formula_forall₂ h hrecord).1

/-- Combinators that correspond fold in the same way. -/
theorem Combinators.SameVerdict.formula_eq {cs cs' : Combinators} (h : cs.SameVerdict N cs')
    (hrecord : Record.Like N scope.record scope'.record) :
    cs.formula scope = cs'.formula scope' := by
  obtain ⟨not, and, or⟩ := cs
  obtain ⟨not', and', or'⟩ := cs'
  have hnot : Combinators.foldNot not true scope = Combinators.foldNot not' true scope' := by
    have hrel : Option.Rel (Operand.SameVerdict N) not not' := h .not
    cases hrel with
    | none => rw [Combinators.foldNot, Combinators.foldNot]
    | some hoperand =>
      rw [Combinators.foldNot, Combinators.foldNot, hoperand.formulaAll_eq hrecord]
  have hand : ∀ acc, Combinators.foldAnd and acc scope = Combinators.foldAnd and' acc scope' := by
    intro acc
    have hrel : Option.Rel (Operand.SameVerdict N) and and' := h .and
    cases hrel with
    | none => rw [Combinators.foldAnd, Combinators.foldAnd]
    | some hoperand =>
      rw [Combinators.foldAnd, Combinators.foldAnd, hoperand.formulaAll_eq hrecord]
  have hor : ∀ acc, Combinators.foldOr or acc scope = Combinators.foldOr or' acc scope' := by
    intro acc
    have hrel : Option.Rel (Operand.SameVerdict N) or or' := h .or
    cases hrel with
    | none => rw [Combinators.foldOr, Combinators.foldOr]
    | some hoperand =>
      cases hoperand with
      | single he => rw [Combinators.foldOr, Combinators.foldOr, he hrecord]
      | many hes =>
        rw [Combinators.foldOr, Combinators.foldOr, Operand.formulaAny_eq, Operand.formulaAny_eq,
          (Expression.formula_forall₂ hes hrecord).2]
  rw [Combinators.formula, Combinators.formula, hnot, hand, hor]

/-- **Operator sets whose parts correspond have the same verdicts.** -/
theorem OperatorSet.sameVerdict (hN : Number.Likeness N) {ops ops' : OperatorSet}
    (h : ops.Corresponds N ops') : ops.SameVerdict N ops' := by
  intro scope scope' hrecord value value' hvalue
  obtain ⟨conditions, length, combinators⟩ := ops
  obtain ⟨conditions', length', combinators'⟩ := ops'
  have hconditions : conditions.hold value = conditions'.hold value' :=
    Conditions.hold_like hN h.conditions hvalue
  have hlength : OperatorSet.lengthHolds length value scope =
      OperatorSet.lengthHolds length' value' scope' := by
    have hrel : Option.Rel (OperatorSet.SameVerdict N) length length' := h.length
    cases hrel with
    | none => rfl
    | some hops =>
      cases hvalue with
      | none => rfl
      | some hv =>
        cases hv with
        | array hitems =>
          rw [OperatorSet.lengthHolds, OperatorSet.lengthHolds, hitems.length_eq]
          exact hops hrecord (.some (Value.Like.refl hN _))
        | null | bool | number | timestamp | string | object => rfl
  have hcombinators : combinators.formula scope = combinators'.formula scope' :=
    h.combinators.formula_eq hrecord
  rw [OperatorSet.formula_eq, OperatorSet.formula_eq, hconditions, hlength, hcombinators]

theorem Clause.sameVerdict_literal (hN : Number.Likeness N) {v v' : Value}
    (h : Value.OperandLike N v v') : (Clause.literal v).SameVerdict N (.literal v') := by
  intro scope scope' hrecord name
  rw [Clause.formula, Clause.formula, ← Conditions.presentEqual_eq_any,
    ← Conditions.presentEqual_eq_any]
  exact Conditions.presentEqual_like hN (hrecord name) h

theorem Clause.sameVerdict_operators {ops ops' : OperatorSet} (h : ops.SameVerdict N ops') :
    (Clause.operators ops).SameVerdict N (.operators ops') := by
  intro scope scope' hrecord name
  rw [Clause.formula, Clause.formula]
  exact h hrecord (hrecord name)

/-- **Expressions whose parts correspond have the same verdicts.** -/
theorem Expression.sameVerdict {e e' : Expression} (h : e.Corresponds N e') :
    e.SameVerdict N e' := by
  intro scope scope' hrecord
  obtain ⟨clauses, combinators⟩ := e
  obtain ⟨clauses', combinators'⟩ := e'
  obtain ⟨reordered, hclauses, p⟩ := h.clauses
  have hall : ∀ {cs cs' : List (String × Clause)},
      List.Forall₂ (Entries.Under (Clause.SameVerdict N)) cs cs' →
        (cs.all fun c => c.2.formula c.1 scope) = cs'.all fun c => c.2.formula c.1 scope' := by
    intro cs cs' hcs
    induction hcs with
    | nil => rfl
    | cons hc _ ih =>
      cases hc with
      | mk name hclause => rw [List.all_cons, List.all_cons, ih, hclause hrecord name]
  have hcombinators : combinators.formula scope = combinators'.formula scope' :=
    h.combinators.formula_eq hrecord
  rw [Expression.formula, Expression.formula, Expression.clausesFormula_eq,
    Expression.clausesFormula_eq, hall hclauses, p.all_eq, hcombinators]

end Steps

/-! ## 3. Over datasets -/

/-- **Sound expressions with the same verdicts give them on every record**, over datasets that are
alike record by record. -/
theorem Expression.SameVerdict.matchesAt_eq {e e' : Expression} (h : e.SameVerdict N e')
    {limits : Limits} (he : e.SoundAt limits.maxDepth 0) (he' : e'.SoundAt limits.maxDepth 0)
    {dataset dataset' : List Record} (hdata : List.Forall₂ (Record.Like N) dataset dataset')
    (index : Nat) :
    ∃ verdict, (e.matchesAt dataset index limits).result = .ok verdict ∧
      (e'.matchesAt dataset' index limits).result = .ok verdict := by
  have hsame : (Scope.at? dataset index).any e.formula =
      (Scope.at? dataset' index).any e'.formula := by
    unfold Scope.at?
    rw [Option.any_map, Option.any_map]
    exact Option.any_rel (Option.rel_getElem? hdata index) fun _ _ _ hrecord => h hrecord
  exact ⟨_, he.matchesAt_result dataset index, hsame ▸ he'.matchesAt_result dataset' index⟩

end RecordFilter
