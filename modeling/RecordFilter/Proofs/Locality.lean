/-
# What an evaluation looks at

The clauses of an expression name fields, at the top and in every operand inside.  The outcome of an
evaluation is settled by the values that a record has under these names and by what the predicates
answer there: two scopes that agree on both give the same outcome, a verdict or a failure.  The
other fields, the other records and the index come in through the predicates only.  Where these
answer by field and value, two records with the same values under the names cannot be told apart,
wherever they stand.
-/
import RecordFilter.Proofs.Occurrences
import RecordFilter.Proofs.Scans

namespace RecordFilter

/-! ## 1. The fields that are named -/

mutual

/-- The names of the fields that an expression asks about. -/
def Expression.fieldNames : Expression → List String
  | ⟨clauses, combinators⟩ => Expression.clauseFieldNames clauses ++ combinators.fieldNames

/-- The names of clauses, and those inside their operator sets. -/
def Expression.clauseFieldNames : List (String × Clause) → List String
  | [] => []
  | (name, clause) :: rest => name :: clause.fieldNames ++ Expression.clauseFieldNames rest

/-- The names inside a clause, apart from its own. -/
def Clause.fieldNames : Clause → List String
  | .literal _ => []
  | .predicate _ => []
  | .operators ops => ops.fieldNames

/-- The names inside an operator set. -/
def OperatorSet.fieldNames : OperatorSet → List String
  | ⟨_, length, combinators⟩ => OperatorSet.lengthFieldNames length ++ combinators.fieldNames

/-- The names inside the set of a length. -/
def OperatorSet.lengthFieldNames : Option OperatorSet → List String
  | none => []
  | some ops => ops.fieldNames

/-- The names inside combinators. -/
def Combinators.fieldNames : Combinators → List String
  | ⟨not, and, or⟩ =>
    Combinators.slotFieldNames not ++ Combinators.slotFieldNames and
      ++ Combinators.slotFieldNames or

/-- The names under one combinator. -/
def Combinators.slotFieldNames : Option Operand → List String
  | none => []
  | some operand => operand.fieldNames

/-- The names inside an operand. -/
def Operand.fieldNames : Operand → List String
  | .single e => e.fieldNames
  | .many es => Operand.listFieldNames es

/-- The names inside a list of expressions. -/
def Operand.listFieldNames : List Expression → List String
  | [] => []
  | e :: rest => e.fieldNames ++ Operand.listFieldNames rest

end

theorem Expression.clauseFieldNames_eq : ∀ clauses : List (String × Clause),
    Expression.clauseFieldNames clauses = clauses.flatMap fun c => c.1 :: c.2.fieldNames
  | [] => by rw [Expression.clauseFieldNames]; rfl
  | (name, clause) :: rest => by
    rw [Expression.clauseFieldNames, Expression.clauseFieldNames_eq rest]
    rfl

theorem Operand.fieldNames_eq : ∀ operand : Operand,
    operand.fieldNames = operand.expressions.flatMap Expression.fieldNames
  | .single e => by simp [Operand.fieldNames, Operand.expressions]
  | .many es => by
    rw [Operand.fieldNames]
    change Operand.listFieldNames es = es.flatMap Expression.fieldNames
    induction es with
    | nil => rw [Operand.listFieldNames]; rfl
    | cons e rest ih => rw [Operand.listFieldNames, ih]; rfl

theorem Combinators.slotFieldNames_eq (operand : Option Operand) :
    Combinators.slotFieldNames operand =
      (operand.elim [] Operand.expressions).flatMap Expression.fieldNames := by
  cases operand with
  | none => rw [Combinators.slotFieldNames]; rfl
  | some operand => rw [Combinators.slotFieldNames, Operand.fieldNames_eq]; rfl

theorem Combinators.mem_fieldNames {cs : Combinators} {e : Expression} (he : e ∈ cs.expressions)
    {name : String} (hn : name ∈ e.fieldNames) : name ∈ cs.fieldNames := by
  obtain ⟨not, and, or⟩ := cs
  have h := List.mem_flatMap.mpr ⟨e, he, hn⟩
  rwa [Combinators.expressions, List.flatMap_append, List.flatMap_append,
    ← Combinators.slotFieldNames_eq, ← Combinators.slotFieldNames_eq,
    ← Combinators.slotFieldNames_eq, ← Combinators.fieldNames] at h

theorem Expression.mem_clauseFieldNames {clauses : List (String × Clause)} {c : String × Clause}
    (hc : c ∈ clauses) {name : String} (hn : name ∈ c.1 :: c.2.fieldNames) :
    name ∈ Expression.clauseFieldNames clauses := by
  rw [Expression.clauseFieldNames_eq]
  exact List.mem_flatMap.mpr ⟨c, hc, hn⟩

/-! ## 2. Scopes that agree -/

/-- Two scopes have the same values under the names, and the predicates answer the same in both. -/
structure Scope.AgreeOn (scope scope' : Scope) (names : List String)
    (predicates : List (String × Predicate)) : Prop where
  values : ∀ name ∈ names, scope.record.get? name = scope'.record.get? name
  answers : ∀ o ∈ predicates, o.2.call (scope.contextOf o.1) = o.2.call (scope'.contextOf o.1)

section Agreement

variable {scope scope' : Scope}

theorem Scope.AgreeOn.mono {names part : List String}
    {predicates partPredicates : List (String × Predicate)}
    (h : scope.AgreeOn scope' names predicates) (hnames : ∀ name ∈ part, name ∈ names)
    (hpredicates : ∀ o ∈ partPredicates, o ∈ predicates) :
    scope.AgreeOn scope' part partPredicates :=
  ⟨fun name hn => h.values name (hnames name hn), fun o ho => h.answers o (hpredicates o ho)⟩

/-! ## 3. One step of the evaluation -/

theorem Predicate.evaluate_outcome_congr {p : Predicate} {name : String}
    (h : p.call (scope.contextOf name) = p.call (scope'.contextOf name)) :
    (p.evaluate (scope.contextOf name)).outcome = (p.evaluate (scope'.contextOf name)).outcome := by
  unfold Predicate.evaluate
  rw [h]
  cases p.call (scope'.contextOf name) <;> rfl

theorem Operand.evaluateAll_outcome_congr {operand : Operand}
    (h : ∀ e ∈ operand.expressions, (e.evaluate scope).outcome = (e.evaluate scope').outcome) :
    (operand.evaluateAll scope).outcome = (operand.evaluateAll scope').outcome := by
  rw [Operand.evaluateAll_eq, Operand.evaluateAll_eq]
  exact Evaluation.every_map_outcome_congr h

theorem Combinators.evaluateNot_outcome_congr {operand : Option Operand}
    (h : ∀ e ∈ operand.elim [] Operand.expressions,
      (e.evaluate scope).outcome = (e.evaluate scope').outcome) :
    (Combinators.evaluateNot operand scope).outcome =
      (Combinators.evaluateNot operand scope').outcome := by
  cases operand with
  | none => rw [Combinators.evaluateNot, Combinators.evaluateNot]
  | some operand =>
    rw [Combinators.evaluateNot, Combinators.evaluateNot]
    exact Evaluation.negate_outcome_congr (Operand.evaluateAll_outcome_congr h)

theorem Combinators.evaluateAnd_outcome_congr {operand : Option Operand}
    (h : ∀ e ∈ operand.elim [] Operand.expressions,
      (e.evaluate scope).outcome = (e.evaluate scope').outcome) :
    (Combinators.evaluateAnd operand scope).outcome =
      (Combinators.evaluateAnd operand scope').outcome := by
  cases operand with
  | none => rw [Combinators.evaluateAnd, Combinators.evaluateAnd]
  | some operand =>
    rw [Combinators.evaluateAnd, Combinators.evaluateAnd]
    exact Operand.evaluateAll_outcome_congr h

theorem Combinators.evaluateOr_outcome_congr {operand : Option Operand}
    {before before' : Evaluation} (hbefore : before.outcome = before'.outcome)
    (h : ∀ e ∈ operand.elim [] Operand.expressions,
      (e.evaluate scope).outcome = (e.evaluate scope').outcome) :
    (Combinators.evaluateOr operand before scope).outcome =
      (Combinators.evaluateOr operand before' scope').outcome := by
  match operand with
  | none =>
    rw [Combinators.evaluateOr, Combinators.evaluateOr]
    exact hbefore
  | some (.single e) =>
    rw [Combinators.evaluateOr, Combinators.evaluateOr]
    exact Evaluation.orElse_outcome_congr hbefore (h e (List.mem_singleton_self e))
  | some (.many es) =>
    rw [Combinators.evaluateOr, Combinators.evaluateOr, Operand.evaluateAny_eq,
      Operand.evaluateAny_eq]
    exact Evaluation.andThen_outcome_congr hbefore (Evaluation.any_map_outcome_congr h)

/-- Combinators have the same outcome in two scopes if the expressions under them do. -/
theorem Combinators.evaluate_outcome_congr {cs : Combinators}
    (h : ∀ e ∈ cs.expressions, (e.evaluate scope).outcome = (e.evaluate scope').outcome) :
    (cs.evaluate scope).outcome = (cs.evaluate scope').outcome := by
  obtain ⟨not, and, or⟩ := cs
  have hnot := Combinators.evaluateNot_outcome_congr fun e he =>
    h e (List.mem_append_left _ (List.mem_append_left _ he))
  have hand := Combinators.evaluateAnd_outcome_congr fun e he =>
    h e (List.mem_append_left _ (List.mem_append_right _ he))
  rw [Combinators.evaluate, Combinators.evaluate]
  exact Combinators.evaluateOr_outcome_congr (Evaluation.andThen_outcome_congr hnot hand)
    fun e he => h e (List.mem_append_right _ he)

theorem OperatorSet.evaluateLength_outcome_congr {length : Option OperatorSet}
    (h : ∀ ops, length = some ops → ∀ value,
      (ops.evaluate value scope).outcome = (ops.evaluate value scope').outcome)
    (value : Option Value) :
    (OperatorSet.evaluateLength length value scope).outcome =
      (OperatorSet.evaluateLength length value scope').outcome := by
  match length, value with
  | none, _ => rw [OperatorSet.evaluateLength.eq_def, OperatorSet.evaluateLength.eq_def]
  | some ops, some (.array items) =>
    rw [OperatorSet.evaluateLength, OperatorSet.evaluateLength]
    exact h ops rfl _
  | some _, none | some _, some .null | some _, some (.bool _) | some _, some (.number _)
  | some _, some (.timestamp _) | some _, some (.string _) | some _, some (.object _) => rfl

theorem Clause.evaluate_outcome_congr {name : String} {clause : Clause}
    (hvalue : scope.record.get? name = scope'.record.get? name)
    (answers : ∀ o ∈ clause.predicates name,
      o.2.call (scope.contextOf o.1) = o.2.call (scope'.contextOf o.1))
    (hops : ∀ ops, clause = .operators ops → ∀ value,
      (ops.evaluate value scope).outcome = (ops.evaluate value scope').outcome) :
    (clause.evaluate name scope).outcome = (clause.evaluate name scope').outcome := by
  cases clause with
  | literal v => rw [Clause.evaluate, Clause.evaluate, hvalue]
  | predicate p =>
    rw [Clause.evaluate, Clause.evaluate]
    exact Predicate.evaluate_outcome_congr (answers (name, p) (by simp [Clause.predicates]))
  | operators ops =>
    rw [Clause.evaluate, Clause.evaluate, hvalue]
    exact hops ops rfl _

/-! ## 4. The whole evaluation -/

/-- **Scopes that agree on what an expression names give the same outcome.**  So they do for an
operator set, on any value. -/
theorem Expression.evaluate_outcome_of_agree :
    (∀ e : Expression, scope.AgreeOn scope' e.fieldNames e.predicates →
      (e.evaluate scope).outcome = (e.evaluate scope').outcome) ∧
    ∀ ops : OperatorSet, scope.AgreeOn scope' ops.fieldNames ops.predicates → ∀ value,
      (ops.evaluate value scope).outcome = (ops.evaluate value scope').outcome := by
  refine Expression.induction ?_ ?_
  · intro clauses combinators hops hes agree
    rw [Expression.fieldNames] at agree
    have hclauses : ∀ c ∈ clauses,
        (c.2.evaluate c.1 scope).outcome = (c.2.evaluate c.1 scope').outcome := by
      rintro ⟨name, clause⟩ hc
      have hnames : ∀ inner ∈ name :: clause.fieldNames,
          inner ∈ Expression.clauseFieldNames clauses ++ combinators.fieldNames := fun _ hn =>
        List.mem_append_left _ (Expression.mem_clauseFieldNames hc hn)
      have hpredicates : ∀ o ∈ clause.predicates name,
          o ∈ (Expression.mk clauses combinators).predicates := fun o ho =>
        Expression.mem_predicates_of_clause hc ho
      refine Clause.evaluate_outcome_congr (agree.values name (hnames name List.mem_cons_self))
        (fun o ho => agree.answers o (hpredicates o ho)) fun ops h => ?_
      subst h
      refine hops name ops hc (agree.mono (fun inner hi => ?_) fun o ho => ?_)
      · exact hnames inner (List.mem_cons_of_mem _ (by rwa [Clause.fieldNames]))
      · exact hpredicates o (by rwa [Clause.predicates])
    rw [Expression.evaluate_eq, Expression.evaluate_eq]
    refine Evaluation.andThen_outcome_congr (Evaluation.every_map_outcome_congr hclauses)
      (Combinators.evaluate_outcome_congr fun e he => hes e he (agree.mono ?_ ?_))
    · intro name hn
      exact List.mem_append_right _ (Combinators.mem_fieldNames he hn)
    · intro o ho
      exact Expression.mem_predicates_of_combinators (Combinators.mem_predicates he ho)
  · intro conditions length combinators hlength hes agree value
    rw [OperatorSet.fieldNames, OperatorSet.predicates] at agree
    have hinner : ∀ ops, length = some ops → ∀ value,
        (ops.evaluate value scope).outcome = (ops.evaluate value scope').outcome := by
      rintro ops rfl
      exact hlength ops rfl (agree.mono (fun _ hn => List.mem_append_left _ hn)
        fun _ ho => List.mem_append_left _ ho)
    have hl := OperatorSet.evaluateLength_outcome_congr hinner value
    have hc := Combinators.evaluate_outcome_congr fun e he => hes e he (agree.mono
      (fun _ hn => List.mem_append_right _ (Combinators.mem_fieldNames he hn))
      fun _ ho => List.mem_append_right _ (Combinators.mem_predicates he ho))
    rw [OperatorSet.evaluate, OperatorSet.evaluate, Evaluation.after_outcome,
      Evaluation.after_outcome]
    exact Evaluation.andThen_outcome_congr rfl (Evaluation.andThen_outcome_congr hl hc)

end Agreement

/-! ## 5. Predicates on values -/

/-- The predicate answers by the name of its field and the field's value. -/
def Predicate.ReadsValueOnly (p : Predicate) : Prop :=
  ∃ answer : String → Option Value → Except String Bool,
    ∀ context : FieldContext, p.call context = answer context.field context.value

/-- The field that a predicate is asked about is among those that are named. -/
theorem Expression.mem_fieldNames_of_predicate :
    (∀ e : Expression, ∀ o ∈ e.predicates, o.1 ∈ e.fieldNames) ∧
    ∀ ops : OperatorSet, ∀ o ∈ ops.predicates, o.1 ∈ ops.fieldNames := by
  have hcombinators : ∀ combinators : Combinators,
      (∀ e ∈ combinators.expressions, ∀ o ∈ e.predicates, o.1 ∈ e.fieldNames) →
      ∀ o ∈ combinators.predicates, o.1 ∈ combinators.fieldNames := by
    intro combinators hes o ho
    rw [Combinators.predicates_eq] at ho
    obtain ⟨e, he, ho⟩ := List.mem_flatMap.mp ho
    exact Combinators.mem_fieldNames he (hes e he o ho)
  refine Expression.induction ?_ ?_
  · intro clauses combinators hops hes o ho
    rw [Expression.predicates, Expression.clausePredicates_eq] at ho
    rw [Expression.fieldNames]
    rcases List.mem_append.mp ho with ho | ho
    · obtain ⟨⟨name, clause⟩, hc, ho⟩ := List.mem_flatMap.mp ho
      refine List.mem_append_left _ (Expression.mem_clauseFieldNames hc ?_)
      cases clause with
      | literal v => simp [Clause.predicates] at ho
      | predicate p =>
        obtain rfl : o = (name, p) := by simpa [Clause.predicates] using ho
        exact List.mem_cons_self
      | operators ops =>
        rw [Clause.predicates] at ho
        rw [Clause.fieldNames]
        exact List.mem_cons_of_mem _ (hops name ops hc o ho)
    · exact List.mem_append_right _ (hcombinators combinators hes o ho)
  · intro conditions length combinators hlength hes o ho
    rw [OperatorSet.predicates] at ho
    rw [OperatorSet.fieldNames]
    rcases List.mem_append.mp ho with ho | ho
    · cases length with
      | none => simp [OperatorSet.lengthPredicates] at ho
      | some ops =>
        rw [OperatorSet.lengthPredicates] at ho
        rw [OperatorSet.lengthFieldNames]
        exact List.mem_append_left _ (hlength ops rfl o ho)
    · exact List.mem_append_right _ (hcombinators combinators hes o ho)

/-- Predicates on values answer alike where the values are the same. -/
theorem Scope.agreeOn_of_values {e : Expression} (h : ∀ o ∈ e.predicates, o.2.ReadsValueOnly)
    {scope scope' : Scope}
    (values : ∀ name ∈ e.fieldNames, scope.record.get? name = scope'.record.get? name) :
    scope.AgreeOn scope' e.fieldNames e.predicates := by
  refine ⟨values, fun o ho => ?_⟩
  obtain ⟨answer, hanswer⟩ := h o ho
  have hvalue := values o.1 (Expression.mem_fieldNames_of_predicate.1 e o ho)
  calc o.2.call (scope.contextOf o.1)
      = answer o.1 (scope.record.get? o.1) := hanswer (scope.contextOf o.1)
    _ = answer o.1 (scope'.record.get? o.1) := by rw [hvalue]
    _ = o.2.call (scope'.contextOf o.1) := (hanswer (scope'.contextOf o.1)).symm

/-- **What is not named does not interfere.**  Where the predicates look at values only, records
that have the same values under the names in an expression, or none, have the same outcome, a
verdict or a failure: other fields, the order of fields, the other records and the index do not
matter. -/
theorem Expression.evaluateAt_noninterference {e : Expression}
    (h : ∀ o ∈ e.predicates, o.2.ReadsValueOnly) {dataset dataset' : List Record} {i j : Nat}
    (hi : i < dataset.length) (hj : j < dataset'.length)
    (agree : ∀ name ∈ e.fieldNames, dataset[i].get? name = dataset'[j].get? name) :
    (e.evaluateAt dataset i dataset[i]).result = (e.evaluateAt dataset' j dataset'[j]).result ∧
    ∀ limits, (e.matchesAt dataset i limits).result = (e.matchesAt dataset' j limits).result := by
  have houtcome : (e.evaluate ⟨dataset, i, dataset[i]⟩).outcome =
      (e.evaluate ⟨dataset', j, dataset'[j]⟩).outcome :=
    Expression.evaluate_outcome_of_agree.1 e (Scope.agreeOn_of_values h agree)
  have hresult := congrArg (Except.mapError Error.predicateFailed) houtcome
  refine ⟨hresult, fun limits => ?_⟩
  have hat : e.resultAt dataset i = e.resultAt dataset' j := by
    unfold Expression.resultAt
    rw [List.getElem?_eq_getElem hi, List.getElem?_eq_getElem hj]
    exact hresult
  rw [Expression.matchesAt_result, Expression.matchesAt_result, hat]

/-- Fails on a field that is there. -/
def Predicate.absent : Predicate :=
  ⟨fun c => match c.value with
    | some _ => .error "present"
    | none => .ok true⟩

/-- The field inside the set of the length is named, so both records have it.  They differ in what
else they hold, in the order of the fields and in their places, and both fail. -/
theorem Expression.countedTags_noninterference :
    let inner : Expression := ⟨[("flag", .predicate .absent)], .empty⟩
    let e : Expression :=
      ⟨[("tags", .operators ⟨{}, some ⟨{}, none, ⟨some (.single inner), none, none⟩⟩, .empty⟩)],
        .empty⟩
    let record : Record := ⟨[("flag", .bool true), ("tags", .array []), ("id", .null)]⟩
    let record' : Record := ⟨[("tags", .array []), ("flag", .bool true)]⟩
    let dataset := [⟨[]⟩, record]
    (∀ o ∈ e.predicates, o.2.ReadsValueOnly) ∧ e.fieldNames = ["tags", "flag"] ∧
      (e.evaluateAt dataset 1 record).result = .error (.predicateFailed ⟨"flag", "present"⟩) ∧
      (e.evaluateAt dataset 1 record).result = (e.evaluateAt [record'] 0 record').result := by
  intro inner e record record' dataset
  have h : ∀ o ∈ e.predicates, o.2.ReadsValueOnly := by
    intro o ho
    obtain rfl : o = ("flag", .absent) := List.mem_singleton.mp ho
    refine ⟨fun _ value => Predicate.absent.call ⟨"flag", value, record, 0, []⟩, ?_⟩
    rintro ⟨_, _ | _, _, _, _⟩ <;> rfl
  have hnames : e.fieldNames = ["tags", "flag"] := rfl
  have agree : ∀ name ∈ e.fieldNames, record.get? name = record'.get? name := by
    rw [hnames]
    simp only [List.mem_cons, List.not_mem_nil, or_false, forall_eq_or_imp, forall_eq]
    exact ⟨rfl, rfl⟩
  have hi : 1 < dataset.length := by decide
  have hj : 0 < [record'].length := by decide
  exact ⟨h, hnames, rfl, (Expression.evaluateAt_noninterference h hi hj agree).1⟩

end RecordFilter
