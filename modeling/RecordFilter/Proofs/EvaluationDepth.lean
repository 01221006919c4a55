/-
# How deep the calls of the evaluator nest

Evaluation recurses through expressions and operator sets.  It checks no depth: validation has done
so before.  What passes under a limit nests no deeper than the limit, and a call for what it holds
is one step deeper, so no more than `limit + 1` calls are ever nested
(`Expression.evaluationLog_within`).

As the reader is, the evaluator is written once more over a way to run it (`Evaluating`); one way
logs the calls with the calls around them, another one has room for a number of nested calls only.
With what is known of the reader (`Expression.readLog_within`) this is the guard against documents
that nest without end: `Expression.calls_within_limit`.
-/
import RecordFilter.Proofs.Nesting
import RecordFilter.Proofs.ReadingDepth
import RecordFilter.Proofs.Scans
import RecordFilter.Proofs.Validity

namespace RecordFilter

/-! ## 1. The evaluator over a way to run it -/

/-- Goes on after one verdict; the other one, or a failure, stands. -/
def Evaluation.goOn (verdict : Bool) (first : Evaluation) (next : Unit → Evaluation) :
    Evaluation :=
  match first.outcome with
  | .ok b => if b = verdict then (next ()).after first.events else first
  | .error _ => first

theorem Evaluation.andThen_eq (first : Evaluation) (next : Unit → Evaluation) :
    first.andThen next = first.goOn true next := by
  obtain ⟨events, error | _ | _⟩ := first <;> rfl

theorem Evaluation.orElse_eq (first : Evaluation) (next : Unit → Evaluation) :
    first.orElse next = first.goOn false next := by
  obtain ⟨events, error | _ | _⟩ := first <;> rfl

/-- A way to run the evaluator: how an evaluation is taken up that needs no call, how evaluations
are joined, and how the body of a call is run. -/
structure Evaluating (E : Type) where
  done : Evaluation → E
  goOn : Bool → E → (Unit → E) → E
  negate : E → E
  after : E → Journal → E
  enter : Node → E → E

namespace Evaluating

/-- Goes on after a match. -/
def andThen {E : Type} (run : Evaluating E) : E → (Unit → E) → E := run.goOn true

/-- Goes on after a miss. -/
def orElse {E : Type} (run : Evaluating E) : E → (Unit → E) → E := run.goOn false

section Evaluator

variable {E : Type} (run : Evaluating E)

mutual

/-- Evaluates an expression, which is a call. -/
def expression : Expression → Scope → E
  | ⟨asked, joined⟩, scope =>
    run.enter (.expression ⟨asked, joined⟩)
      (run.andThen (clauses asked scope) fun _ => combinators joined scope)

/-- Evaluates clauses, in order, as long as they match. -/
def clauses : List (String × Clause) → Scope → E
  | [], _ => run.done (.verdict true)
  | (name, asked) :: rest, scope =>
    run.andThen (clause asked name scope) fun _ => clauses rest scope

/-- Evaluates a clause on the field of its name. -/
def clause : Clause → String → Scope → E
  | .literal v, name, scope => run.done ((Clause.literal v).evaluate name scope)
  | .predicate p, name, scope => run.done ((Clause.predicate p).evaluate name scope)
  | .operators ops, name, scope => operators ops (scope.record.get? name) scope

/-- Evaluates an operator set on a value, which is a call. -/
def operators : OperatorSet → Option Value → Scope → E
  | ⟨conditions, inner, joined⟩, value, scope =>
    run.enter (.operators ⟨conditions, inner, joined⟩)
      (run.after
        (run.andThen (run.done (.verdict (conditions.hold value))) fun _ =>
          run.andThen (length inner value scope) fun _ => combinators joined scope)
        (OperatorSet.ignoredEvents
          (OperatorSet.configured ⟨conditions, inner, joined⟩) (Category.of value)))

/-- Evaluates the operator set of a length, on the number of items of an array. -/
def length : Option OperatorSet → Option Value → Scope → E
  | some ops, some (.array items), scope =>
    operators ops (some (.number (.unsigned (.ofNat items.length)))) scope
  | _, _, _ => run.done (.verdict true)

/-- Evaluates the combinators that are set, in their order. -/
def combinators : Combinators → Scope → E
  | ⟨not, and, or⟩, scope =>
    alternative or (run.andThen (negation not scope) fun _ => conjunction and scope) scope

/-- A miss where all expressions of the operand match. -/
def negation : Option Operand → Scope → E
  | none, _ => run.done (.verdict true)
  | some operand, scope => run.negate (all operand scope)

/-- A match where all expressions of the operand match. -/
def conjunction : Option Operand → Scope → E
  | none, _ => run.done (.verdict true)
  | some operand, scope => all operand scope

/-- A single expression is an alternative to what came before; a list must have a match besides. -/
def alternative : Option Operand → E → Scope → E
  | none, before, _ => before
  | some (.single e), before, scope => run.orElse before fun _ => expression e scope
  | some (.many es), before, scope => run.andThen before fun _ => any es scope

/-- Do all expressions of an operand match? -/
def all : Operand → Scope → E
  | .single e, scope => expression e scope
  | .many es, scope => every es scope

/-- Do all expressions of a list match? -/
def every : List Expression → Scope → E
  | [], _ => run.done (.verdict true)
  | e :: rest, scope => run.andThen (expression e scope) fun _ => every rest scope

/-- Does one expression of a list match? -/
def any : List Expression → Scope → E
  | [], _ => run.done (.verdict false)
  | e :: rest, scope => run.orElse (expression e scope) fun _ => any rest scope

end

end Evaluator

/-! ## 2. What every way to run keeps -/

/-- A way to run that keeps a relation with evaluations, by how many calls are nested around: from
step to step, and into the body of a call that lies within the limit. -/
structure Agrees {E : Type} (run : Evaluating E) (limit : Nat)
    (Rel : Nat → E → Evaluation → Prop) : Prop where
  done {depth : Nat} (e : Evaluation) : Rel depth (run.done e) e
  goOn {depth : Nat} {x : E} {y : Evaluation} {next : Unit → E} {next' : Unit → Evaluation}
    (verdict : Bool) (h : Rel depth x y) (hnext : Rel depth (next ()) (next' ())) :
    Rel depth (run.goOn verdict x next) (y.goOn verdict next')
  negate {depth : Nat} {x : E} {y : Evaluation} (h : Rel depth x y) :
    Rel depth (run.negate x) y.negate
  after {depth : Nat} {x : E} {y : Evaluation} (h : Rel depth x y) (events : Journal) :
    Rel depth (run.after x events) (y.after events)
  enter {depth : Nat} {node : Node} {body : E} {y : Evaluation} (within : depth ≤ limit)
    (h : Rel (depth + 1) body y) : Rel depth (run.enter node body) y

namespace Agrees

variable {E : Type} {run : Evaluating E} {limit : Nat} {Rel : Nat → E → Evaluation → Prop}
  {depth : Nat} {scope : Scope}

section Joins

variable (h : run.Agrees limit Rel)

include h

theorem andThen {x : E} {y : Evaluation} {next : Unit → E} {next' : Unit → Evaluation}
    (hx : Rel depth x y) (hnext : Rel depth (next ()) (next' ())) :
    Rel depth (run.andThen x next) (y.andThen next') := by
  rw [Evaluation.andThen_eq]
  exact h.goOn true hx hnext

theorem orElse {x : E} {y : Evaluation} {next : Unit → E} {next' : Unit → Evaluation}
    (hx : Rel depth x y) (hnext : Rel depth (next ()) (next' ())) :
    Rel depth (run.orElse x next) (y.orElse next') := by
  rw [Evaluation.orElse_eq]
  exact h.goOn false hx hnext

theorem every : ∀ {es : List Expression},
    (∀ e ∈ es, Rel depth (run.expression e scope) (e.evaluate scope)) →
      Rel depth (run.every es scope) (Operand.evaluateEvery es scope)
  | [], _ => by
    rw [Evaluating.every, Operand.evaluateEvery]
    exact h.done _
  | e :: rest, hes => by
    obtain ⟨he, hrest⟩ := List.forall_mem_cons.mp hes
    rw [Evaluating.every, Operand.evaluateEvery]
    exact h.andThen he (every hrest)

theorem any : ∀ {es : List Expression},
    (∀ e ∈ es, Rel depth (run.expression e scope) (e.evaluate scope)) →
      Rel depth (run.any es scope) (Operand.evaluateAny es scope)
  | [], _ => by
    rw [Evaluating.any, Operand.evaluateAny]
    exact h.done _
  | e :: rest, hes => by
    obtain ⟨he, hrest⟩ := List.forall_mem_cons.mp hes
    rw [Evaluating.any, Operand.evaluateAny]
    exact h.orElse he (any hrest)

theorem all {operand : Operand}
    (hes : ∀ e ∈ operand.expressions, Rel depth (run.expression e scope) (e.evaluate scope)) :
    Rel depth (run.all operand scope) (operand.evaluateAll scope) := by
  cases operand with
  | single e =>
    rw [Evaluating.all, Operand.evaluateAll]
    exact hes e (List.mem_singleton_self e)
  | many es =>
    rw [Evaluating.all, Operand.evaluateAll]
    exact h.every hes

theorem combinators {cs : Combinators}
    (hes : ∀ e ∈ cs.expressions, Rel depth (run.expression e scope) (e.evaluate scope)) :
    Rel depth (run.combinators cs scope) (cs.evaluate scope) := by
  obtain ⟨not, and, or⟩ := cs
  rw [Combinators.expressions, List.forall_mem_append, List.forall_mem_append] at hes
  obtain ⟨⟨hnot, hand⟩, hor⟩ := hes
  have hnegation : Rel depth (run.negation not scope) (Combinators.evaluateNot not scope) := by
    cases not with
    | none =>
      rw [Evaluating.negation, Combinators.evaluateNot]
      exact h.done _
    | some operand =>
      rw [Evaluating.negation, Combinators.evaluateNot]
      exact h.negate (h.all hnot)
  have hconjunction :
      Rel depth (run.conjunction and scope) (Combinators.evaluateAnd and scope) := by
    cases and with
    | none =>
      rw [Evaluating.conjunction, Combinators.evaluateAnd]
      exact h.done _
    | some operand =>
      rw [Evaluating.conjunction, Combinators.evaluateAnd]
      exact h.all hand
  have hbefore : Rel depth
      (run.andThen (run.negation not scope) fun _ => run.conjunction and scope)
      ((Combinators.evaluateNot not scope).andThen fun _ => Combinators.evaluateAnd and scope) :=
    h.andThen hnegation hconjunction
  rw [Evaluating.combinators, Combinators.evaluate]
  cases or with
  | none =>
    rw [Evaluating.alternative, Combinators.evaluateOr]
    exact hbefore
  | some operand =>
    cases operand with
    | single e =>
      rw [Evaluating.alternative, Combinators.evaluateOr]
      exact h.orElse hbefore (hor e (List.mem_singleton_self e))
    | many es =>
      rw [Evaluating.alternative, Combinators.evaluateOr]
      exact h.andThen hbefore (h.any hor)

theorem clauses : ∀ {asked : List (String × Clause)},
    (∀ name ops, (name, Clause.operators ops) ∈ asked → ∀ value,
      Rel depth (run.operators ops value scope) (ops.evaluate value scope)) →
      Rel depth (run.clauses asked scope) (Expression.evaluateClauses asked scope)
  | [], _ => by
    rw [Evaluating.clauses, Expression.evaluateClauses]
    exact h.done _
  | (name, c) :: rest, hops => by
    have hclause : Rel depth (run.clause c name scope) (c.evaluate name scope) := by
      cases c with
      | literal v | predicate p =>
        rw [Evaluating.clause]
        exact h.done _
      | operators ops =>
        rw [Evaluating.clause, Clause.evaluate]
        exact hops name ops List.mem_cons_self _
    rw [Evaluating.clauses, Expression.evaluateClauses]
    exact h.andThen hclause
      (clauses fun name ops hm value => hops name ops (List.mem_cons_of_mem _ hm) value)

end Joins

/-- **The relation is kept on whatever is valid**, expressions and operator sets. -/
theorem keeps (h : run.Agrees limit Rel) :
    (∀ (e : Expression) {depth : Nat}, e.validateAt limit depth = .ok () → ∀ scope,
      Rel depth (run.expression e scope) (e.evaluate scope)) ∧
    ∀ (ops : OperatorSet) {depth : Nat}, ops.validateAt limit depth = .ok () → ∀ value scope,
      Rel depth (run.operators ops value scope) (ops.evaluate value scope) := by
  refine Expression.induction ?_ ?_
  · intro asked joined hops hes depth hvalid scope
    obtain ⟨hd, hclauses, hcombinators⟩ := Expression.validateAt_ok_iff.mp hvalid
    rw [Evaluating.expression, Expression.evaluate]
    refine h.enter hd (h.andThen (h.clauses fun name ops hm value => ?_)
      (h.combinators fun e he => hes e he (hcombinators e he) scope))
    have hclause := (hclauses _ hm).2
    rw [Clause.validateAt] at hclause
    exact hops name ops hm hclause value scope
  · intro conditions inner joined hlength hes depth hvalid value scope
    obtain ⟨hd, hinner, hcombinators⟩ := OperatorSet.validateAt_ok_iff.mp hvalid
    have hset : Rel (depth + 1) (run.length inner value scope)
        (OperatorSet.evaluateLength inner value scope) := by
      -- The set of a length is evaluated on arrays only.
      match inner, value with
      | some ops, some (.array items) =>
        rw [Evaluating.length, OperatorSet.evaluateLength]
        exact hlength ops rfl (hinner ops rfl) _ _
      | none, _ | some _, none | some _, some .null | some _, some (.bool _)
      | some _, some (.number _) | some _, some (.timestamp _) | some _, some (.string _)
      | some _, some (.object _) =>
        simp only [Evaluating.length, OperatorSet.evaluateLength]
        exact h.done _
    rw [Evaluating.operators, OperatorSet.evaluate]
    exact h.enter hd (h.after (h.andThen (h.done _) (h.andThen hset
      (h.combinators fun e he => hes e he (hcombinators e he) scope))) _)

end Agrees

/-! ## 3. A log of the calls -/

/-- What is run inside some calls logs the calls that it makes, each with the calls around it, the
innermost first and the call itself before them. -/
def Logged : Type := List Node → List (List Node) × Evaluation

/-- Each call is logged with the calls around it. -/
def logged : Evaluating Logged where
  done e := fun _ => ([], e)
  goOn verdict first next := fun around =>
    let run := first around
    match run.2.outcome with
    | .ok b =>
      if b = verdict then (run.1 ++ (next () around).1, (next () around).2.after run.2.events)
      else run
    | .error _ => run
  negate x := fun around => ((x around).1, (x around).2.negate)
  after x events := fun around => ((x around).1, (x around).2.after events)
  enter node body := fun around =>
    let run := body (node :: around)
    ((node :: around) :: run.1, run.2)

/-- The evaluation is that of the evaluator, and no more than `limit + 1` calls are nested. -/
def Logged.Rel (limit depth : Nat) (x : Logged) (y : Evaluation) : Prop :=
  ∀ around : List Node, around.length = depth →
    (x around).2 = y ∧ ∀ chain ∈ (x around).1, chain.length ≤ limit + 1

theorem logged_agrees (limit : Nat) : logged.Agrees limit (Logged.Rel limit) where
  done e := fun _ _ => ⟨rfl, fun _ h => absurd h List.not_mem_nil⟩
  goOn {depth x y next next'} verdict h hnext := by
    intro around haround
    obtain ⟨rfl, hcalls⟩ := h around haround
    obtain ⟨hevaluation, hcalls'⟩ := hnext around haround
    simp only [logged, Evaluation.goOn]
    cases (x around).2.outcome with
    | error failure => exact ⟨rfl, hcalls⟩
    | ok b =>
      by_cases hb : b = verdict
      · simp only [hb, if_true]
        exact ⟨by rw [hevaluation], List.forall_mem_append.mpr ⟨hcalls, hcalls'⟩⟩
      · simp only [hb, if_false]
        exact ⟨trivial, hcalls⟩
  negate {depth x y} h := by
    intro around haround
    obtain ⟨hevaluation, hcalls⟩ := h around haround
    exact ⟨congrArg Evaluation.negate hevaluation, hcalls⟩
  after {depth x y} h events := by
    intro around haround
    obtain ⟨hevaluation, hcalls⟩ := h around haround
    exact ⟨congrArg (·.after events) hevaluation, hcalls⟩
  enter {depth node body y} within h := by
    intro around haround
    have hlength : (node :: around).length = depth + 1 := congrArg (· + 1) haround
    obtain ⟨hevaluation, hcalls⟩ := h (node :: around) hlength
    refine ⟨hevaluation, List.forall_mem_cons.mpr ⟨?_, hcalls⟩⟩
    omega

/-! ## 4. A number of nested calls -/

/-- What is run with room for some nested calls, and gives up where there is no room. -/
def Fueled : Type := Nat → Option Evaluation

/-- Each call takes up room for one. -/
def fueled : Evaluating Fueled where
  done e := fun _ => some e
  goOn verdict first next := fun fuel => do
    let e ← first fuel
    match e.outcome with
    | .ok b => if b = verdict then return (← next () fuel).after e.events else return e
    | .error _ => return e
  negate x := fun fuel => do return (← x fuel).negate
  after x events := fun fuel => do return (← x fuel).after events
  enter _ body := fun fuel =>
    match fuel with
    | 0 => none
    | fuel + 1 => body fuel

/-- The evaluation is that of the evaluator wherever there is room up to the limit. -/
def Fueled.Rel (limit depth : Nat) (x : Fueled) (y : Evaluation) : Prop :=
  ∀ fuel : Nat, limit + 1 ≤ depth + fuel → x fuel = some y

theorem fueled_agrees (limit : Nat) : fueled.Agrees limit (Fueled.Rel limit) where
  done e := fun _ _ => rfl
  goOn {depth x y next next'} verdict h hnext := by
    intro fuel hfuel
    have hx := h fuel hfuel
    have hnext' := hnext fuel hfuel
    simp only [fueled, Evaluation.goOn, hx, hnext', Option.bind_eq_bind, Option.bind_some]
    cases y.outcome with
    | error failure => rfl
    | ok b => by_cases hb : b = verdict <;> simp only [hb, if_true, if_false] <;> rfl
  negate {depth x y} h := by
    intro fuel hfuel
    have hx := h fuel hfuel
    simp only [fueled, hx, Option.bind_eq_bind, Option.bind_some]
    rfl
  after {depth x y} h events := by
    intro fuel hfuel
    have hx := h fuel hfuel
    simp only [fueled, hx, Option.bind_eq_bind, Option.bind_some]
    rfl
  enter {depth node body y} within h := by
    intro fuel hfuel
    obtain ⟨room, rfl⟩ : ∃ room, fuel = room + 1 := ⟨fuel - 1, by omega⟩
    exact h room (by omega)

end Evaluating

/-! ## 5. Expressions -/

namespace Expression

/-- The chains of nested calls of evaluating an expression, with the evaluation. -/
def evaluationLog (e : Expression) (scope : Scope) : List (List Node) × Evaluation :=
  Evaluating.logged.expression e scope []

/-- Evaluates an expression with room for some nested calls; nothing when they do not suffice. -/
def evaluateWithin (room : Nat) (e : Expression) (scope : Scope) : Option Evaluation :=
  Evaluating.fueled.expression e scope room

/-- Does the record at an index match?  Answered with room for some nested calls. -/
def matchesWithin (room : Nat) (e : Expression) (dataset : List Record) (index : Nat) :
    Option (Report Bool) :=
  match dataset[index]? with
  | some record =>
    (e.evaluateWithin room ⟨dataset, index, record⟩).map fun evaluation =>
      ⟨evaluation.events, evaluation.result⟩
  | none => some ⟨[], .ok false⟩

section Valid

variable {e : Expression} {limit : Nat} (hvalid : e.validateAt limit 0 = .ok ())

include hvalid

/-- **The calls of the evaluator are nested within the limit**, one more at most. -/
theorem evaluationLog_within (scope : Scope) :
    (e.evaluationLog scope).2 = e.evaluate scope ∧
      ∀ chain ∈ (e.evaluationLog scope).1, chain.length ≤ limit + 1 :=
  (Evaluating.logged_agrees limit).keeps.1 e hvalid scope [] rfl

theorem evaluateWithin_eq (scope : Scope) :
    e.evaluateWithin (limit + 1) scope = some (e.evaluate scope) :=
  (Evaluating.fueled_agrees limit).keeps.1 e hvalid scope (limit + 1) (by omega)

/-- **So room for one more than the limit is enough.** -/
theorem matchesWithin_eq (dataset : List Record) (index : Nat) :
    e.matchesWithin (limit + 1) dataset index = some (e.matchesAt dataset index ⟨limit⟩) := by
  have hvalidate : e.validate ⟨limit⟩ = ⟨[], .ok ()⟩ := congrArg Report.ofCheck hvalid
  rw [matchesWithin, matchesAt, hvalidate, Report.bind_ok]
  cases dataset[index]? with
  | none => rfl
  | some record =>
    simp only [evaluateWithin_eq hvalid]
    rfl

end Valid

/-- **The depth limit bounds the recursion.**  Reading any document nests two more calls than the
limit at most, the innermost of that many being refused for its depth, and room for that many is
enough to read it.  Evaluating any expression that is valid under the limit nests one more call
than the limit at most, and room for that many is enough for every record of every dataset. -/
theorem calls_within_limit (limit : Nat) :
    (∀ json, (readLog json ⟨limit⟩).2 = read json ⟨limit⟩ ∧
      (∀ call ∈ (readLog json ⟨limit⟩).1, call.chain.length ≤ limit + 2 ∧
        (call.chain.length = limit + 2 → call.ending = .error (.depthExceeded limit))) ∧
      ofJsonWithin (limit + 2) json ⟨limit⟩ = some (ofJson json ⟨limit⟩)) ∧
    ∀ e : Expression, (e.validate ⟨limit⟩).result = .ok () →
      (∀ scope, (e.evaluationLog scope).2 = e.evaluate scope ∧
        ∀ chain ∈ (e.evaluationLog scope).1, chain.length ≤ limit + 1) ∧
      ∀ dataset index,
        e.matchesWithin (limit + 1) dataset index = some (e.matchesAt dataset index ⟨limit⟩) := by
  refine ⟨fun json => ?_, fun e hvalid => ?_⟩
  · obtain ⟨hresult, hcalls⟩ := readLog_within json limit
    exact ⟨hresult, hcalls, ofJsonWithin_eq json limit⟩
  · rw [(validate_ends e ⟨limit⟩).1] at hvalid
    exact ⟨evaluationLog_within hvalid, matchesWithin_eq hvalid⟩

/-- A field whose length has a set of its own. -/
def lengthOfTags : Expression :=
  Expression.empty.field "tags" (.operators (.ofSettings [.length .empty]))

/-- A record with an array in that field. -/
def taggedRecord : Record := ⟨[("tags", .array [])]⟩

/-- Three calls are nested: one for the expression, and one for each of the two sets. -/
theorem lengthOfTags_within_limit :
    (lengthOfTags.validate ⟨2⟩).result = .ok () ∧
      lengthOfTags.matchesWithin 3 [taggedRecord] 0 =
        some (lengthOfTags.matchesAt [taggedRecord] 0 ⟨2⟩) ∧
      (lengthOfTags.matchesWithin 2 [taggedRecord] 0).isNone = true := by
  have hvalid : (lengthOfTags.validate ⟨2⟩).result = .ok () := rfl
  exact ⟨hvalid, ((calls_within_limit 2).2 lengthOfTags hvalid).2 [taggedRecord] 0, rfl⟩

end Expression

end RecordFilter
