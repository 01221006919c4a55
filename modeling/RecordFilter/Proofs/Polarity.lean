/-
# Polarity

What happens to an expression when one expression in it gives way to another that matches more?  It
matches more itself if an even number of `$NOT` stands above the place, and less if an odd one does.
It does not matter how the way from the root leads there: through the operands of expressions, of
operator sets and of the sets of lengths, through lists and single operands, and past other
combinators of any kind (`Expression.polarity`).

A place is given by all that stands around it.  The combinators of a nested expression or operator
set have such a place (`Expression.Site`, `OperatorSet.Site`), and so has one expression under one
of them (`Combinators.Frame`).  Each layer around a place follows what is in it or goes against it,
and only a `$NOT` goes against it; whatever the layers, they compose by counting (`Follows`).
-/
import Mathlib.Algebra.Ring.Parity
import RecordFilter.Proofs.Formula
import RecordFilter.Proofs.Nesting

namespace RecordFilter

/-! ## 1. Implications that turn round -/

/-- An implication that was turned round so many times. -/
def Follows (turns : Nat) (p q : Prop) : Prop := (Even turns → p → q) ∧ (Odd turns → q → p)

namespace Follows

variable {turns : Nat} {p q p' q' : Prop}

theorem of_imp (h : p → q) : Follows 0 p q :=
  ⟨fun _ => h, fun hodd => absurd hodd (by decide)⟩

theorem refl : Follows turns p p := ⟨fun _ => id, fun _ => id⟩

/-- A layer that keeps implications. -/
theorem map (h : Follows turns p q) (hpq : (p → q) → p' → q') (hqp : (q → p) → q' → p') :
    Follows turns p' q' :=
  ⟨fun heven => hpq (h.1 heven), fun hodd => hqp (h.2 hodd)⟩

/-- A layer that turns implications round. -/
theorem swap (h : Follows turns p q) (hpq : (p → q) → q' → p') (hqp : (q → p) → p' → q') :
    Follows (turns + 1) p' q' :=
  ⟨fun heven => hqp (h.2 (Nat.not_even_iff_odd.mp (Nat.even_add_one.mp heven))),
    fun hodd => hpq (h.1 (Nat.not_odd_iff_even.mp (Nat.odd_add_one.mp hodd)))⟩

end Follows

/-! ## 2. Combinators and their operands -/

section Combinators

variable {scope : Scope} {x y : Expression} {c : Combinator} {operand operand' : Operand}

/-- What a combinator makes of the accumulator. -/
def Combinator.fold : Combinator → Option Operand → Bool → Scope → Bool
  | .not => Combinators.foldNot
  | .and => Combinators.foldAnd
  | .or => Combinators.foldOr

theorem Combinators.formula_eq (cs : Combinators) (scope : Scope) : cs.formula scope =
    Combinator.or.fold cs.or
      (Combinator.and.fold cs.and (Combinator.not.fold cs.not true scope) scope) scope := by
  obtain ⟨not, and, or⟩ := cs
  rw [Combinators.formula]
  rfl

/-- A combinator never turns the accumulator round. -/
theorem Combinator.fold_mono (c : Combinator) (operand : Option Operand) {acc acc' : Bool}
    (h : acc = true → acc' = true) :
    c.fold operand acc scope = true → c.fold operand acc' scope = true := by
  match c, operand with
  | .not, none | .and, none | .or, none => simpa [fold, Combinators.foldNot, Combinators.foldAnd,
      Combinators.foldOr] using h
  | .not, some operand =>
    simp only [fold, Combinators.foldNot, Bool.and_eq_true]
    exact And.imp_left h
  | .and, some operand =>
    simp only [fold, Combinators.foldAnd, Bool.and_eq_true]
    exact And.imp_left h
  | .or, some (.single e) =>
    simp only [fold, Combinators.foldOr, Bool.or_eq_true]
    exact Or.imp_left h
  | .or, some (.many es) =>
    simp only [fold, Combinators.foldOr, Bool.and_eq_true]
    exact And.imp_left h

/-- **An operand gives way to another** when the combinator makes at least as much of it. -/
theorem Combinators.formula_set_mono (cs : Combinators)
    (h : ∀ acc, c.fold (some operand) acc scope = true → c.fold (some operand') acc scope = true) :
    (cs.set c operand).formula scope = true → (cs.set c operand').formula scope = true := by
  rw [Combinators.formula_eq, Combinators.formula_eq]
  cases c with
  | not => exact Combinator.fold_mono .or cs.or (Combinator.fold_mono .and cs.and (h true))
  | and => exact Combinator.fold_mono .or cs.or (h _)
  | or => exact h _

/-- The place of one expression in an operand: it is the operand, or one member of a list. -/
inductive Operand.Frame where
  | single
  | member (before after : List Expression)

/-- The operand with an expression in the place. -/
def Operand.Frame.fill : Operand.Frame → Expression → Operand
  | .single, e => .single e
  | .member before after, e => .many (before ++ e :: after)

theorem Operand.Frame.formulaAll_mono (frame : Operand.Frame)
    (h : x.formula scope = true → y.formula scope = true) :
    (frame.fill x).formulaAll scope = true → (frame.fill y).formulaAll scope = true := by
  cases frame with
  | single => simpa [fill, Operand.formulaAll] using h
  | member before after =>
    simp only [fill, Operand.formulaAll_eq, Operand.expressions, List.all_append, List.all_cons,
      Bool.and_eq_true]
    exact And.imp_right (And.imp_left h)

/-- `$AND` and `$OR` follow the expression in a place. -/
theorem Operand.Frame.fold_mono (frame : Operand.Frame) (hc : c ≠ .not)
    (h : x.formula scope = true → y.formula scope = true) (acc : Bool) :
    c.fold (some (frame.fill x)) acc scope = true →
      c.fold (some (frame.fill y)) acc scope = true := by
  cases c with
  | not => exact absurd rfl hc
  | and =>
    simp only [Combinator.fold, Combinators.foldAnd, Bool.and_eq_true]
    exact And.imp_right (frame.formulaAll_mono h)
  | or =>
    cases frame with
    | single =>
      simp only [fill, Combinator.fold, Combinators.foldOr, Bool.or_eq_true]
      exact Or.imp_right h
    | member before after =>
      simp only [fill, Combinator.fold, Combinators.foldOr, Operand.formulaAny_eq, List.any_append,
        List.any_cons, Bool.and_eq_true, Bool.or_eq_true]
      exact And.imp_right (Or.imp_right (Or.imp_left h))

/-- `$NOT` goes against the expression in a place. -/
theorem Operand.Frame.fold_anti (frame : Operand.Frame)
    (h : x.formula scope = true → y.formula scope = true) (acc : Bool) :
    Combinator.not.fold (some (frame.fill y)) acc scope = true →
      Combinator.not.fold (some (frame.fill x)) acc scope = true := by
  simp only [Combinator.fold, Combinators.foldNot, Bool.and_eq_true, Bool.not_eq_true',
    ← Bool.not_eq_true]
  exact And.imp_right fun hy hx => hy (frame.formulaAll_mono h hx)

/-- A member more under `$OR` or `$NOT` asks less. -/
theorem Combinator.fold_insert {before after : List Expression} (hc : c = .or ∨ c = .not)
    (acc : Bool) : c.fold (some (.many (before ++ after))) acc scope = true →
      c.fold (some (.many (before ++ x :: after))) acc scope = true := by
  rcases hc with rfl | rfl
  · simp only [fold, Combinators.foldOr, Operand.formulaAny_eq, List.any_append, List.any_cons,
      Bool.and_eq_true, Bool.or_eq_true]
    exact And.imp_right (Or.imp_right .inr)
  · simp only [fold, Combinators.foldNot, Operand.formulaAll_eq, Operand.expressions,
      List.all_append, List.all_cons, Bool.and_eq_true, Bool.not_eq_true', ← Bool.not_eq_true]
    exact And.imp_right fun hall h => hall (And.imp_right And.right h)

/-- A member less under `$AND` asks less. -/
theorem Combinator.fold_erase {before after : List Expression} (acc : Bool) :
    Combinator.and.fold (some (.many (before ++ x :: after))) acc scope = true →
      Combinator.and.fold (some (.many (before ++ after))) acc scope = true := by
  simp only [fold, Combinators.foldAnd, Operand.formulaAll_eq, Operand.expressions,
    List.all_append, List.all_cons, Bool.and_eq_true]
  exact And.imp_right (And.imp_right And.right)

end Combinators

/-- The place of one expression under combinators: a combinator, the place in its operand, and the
operands of the others. -/
structure Combinators.Frame where
  others : Combinators
  combinator : Combinator
  place : Operand.Frame

namespace Combinators.Frame

/-- The combinators with an expression in the place. -/
def fill (frame : Frame) (e : Expression) : Combinators :=
  frame.others.set frame.combinator (frame.place.fill e)

/-- Is the place under `$NOT`? -/
def negations (frame : Frame) : Nat := if frame.combinator = .not then 1 else 0

/-- **Combinators follow the expression in a place, or go against it under `$NOT`.** -/
theorem follows (frame : Frame) {scope : Scope} {x y : Expression} {turns : Nat}
    (h : Follows turns (x.formula scope = true) (y.formula scope = true)) :
    Follows (turns + frame.negations) ((frame.fill x).formula scope = true)
      ((frame.fill y).formula scope = true) := by
  obtain ⟨others, c, place⟩ := frame
  by_cases hc : c = .not
  · subst hc
    exact h.swap (fun hxy => others.formula_set_mono (place.fold_anti hxy))
      fun hyx => others.formula_set_mono (place.fold_anti hyx)
  · rw [negations, if_neg hc]
    exact h.map (fun hxy => others.formula_set_mono (place.fold_mono hc hxy))
      fun hyx => others.formula_set_mono (place.fold_mono hc hyx)

/-- Every expression under combinators has a place. -/
theorem exists_of_mem {cs : Combinators} {e : Expression} (h : e ∈ cs.expressions) :
    ∃ frame : Frame, frame.fill e = cs := by
  obtain ⟨c, operand, hget, he⟩ := Combinators.mem_expressions_iff.mp h
  have hset : cs.set c operand = cs := by
    obtain ⟨not, and, or⟩ := cs
    cases c <;> cases hget <;> rfl
  cases operand with
  | single e' =>
    obtain rfl := List.mem_singleton.mp he
    exact ⟨⟨cs, c, .single⟩, hset⟩
  | many es =>
    obtain ⟨before, after, rfl⟩ := List.append_of_mem he
    exact ⟨⟨cs, c, .member before after⟩, hset⟩

theorem mem_fill (frame : Frame) (e : Expression) : e ∈ (frame.fill e).expressions := by
  obtain ⟨others, c, place⟩ := frame
  refine Combinators.mem_expressions_iff.mpr ⟨c, place.fill e, ?_, ?_⟩
  · rw [fill, get?_set, if_pos rfl]
  · cases place with
    | single => exact List.mem_singleton_self e
    | member before after => exact List.mem_append_right _ List.mem_cons_self

end Combinators.Frame

/-! ## 3. Sites of combinators -/

mutual

/-- The place of the combinators of an expression, or of what nests in it. -/
inductive Expression.Site where
  | own (clauses : List (String × Clause))
  | operand (clauses : List (String × Clause)) (frame : Combinators.Frame) (inner : Expression.Site)
  | clause (before : List (String × Clause)) (name : String) (inner : OperatorSet.Site)
      (after : List (String × Clause)) (combinators : Combinators)

/-- The place of the combinators of an operator set, or of what nests in it. -/
inductive OperatorSet.Site where
  | own (conditions : Conditions) (length : Option OperatorSet)
  | operand (conditions : Conditions) (length : Option OperatorSet) (frame : Combinators.Frame)
      (inner : Expression.Site)
  | length (conditions : Conditions) (inner : OperatorSet.Site) (combinators : Combinators)

end

mutual

/-- The expression with combinators in the place. -/
def Expression.Site.fill : Expression.Site → Combinators → Expression
  | .own clauses, cs => ⟨clauses, cs⟩
  | .operand clauses frame inner, cs => ⟨clauses, frame.fill (inner.fill cs)⟩
  | .clause before name inner after combinators, cs =>
    ⟨before ++ (name, .operators (inner.fill cs)) :: after, combinators⟩

/-- The operator set with combinators in the place. -/
def OperatorSet.Site.fill : OperatorSet.Site → Combinators → OperatorSet
  | .own conditions length, cs => ⟨conditions, length, cs⟩
  | .operand conditions length frame inner, cs => ⟨conditions, length, frame.fill (inner.fill cs)⟩
  | .length conditions inner combinators, cs => ⟨conditions, some (inner.fill cs), combinators⟩

end

mutual

/-- How many `$NOT` stand above the place. -/
def Expression.Site.negations : Expression.Site → Nat
  | .own _ => 0
  | .operand _ frame inner => inner.negations + frame.negations
  | .clause _ _ inner _ _ => inner.negations

/-- How many `$NOT` stand above the place. -/
def OperatorSet.Site.negations : OperatorSet.Site → Nat
  | .own _ _ => 0
  | .operand _ _ frame inner => inner.negations + frame.negations
  | .length _ inner _ => inner.negations

end

section Sites

variable {scope : Scope} {cs cs' : Combinators} {turns : Nat}

mutual

/-- **An expression follows or goes against the combinators at a site.** -/
theorem Expression.Site.follows
    (h : Follows turns (cs.formula scope = true) (cs'.formula scope = true)) :
    ∀ site : Expression.Site, Follows (turns + site.negations)
      ((site.fill cs).formula scope = true) ((site.fill cs').formula scope = true)
  | .own clauses => by
    simp only [Expression.Site.fill, Expression.Site.negations, Expression.formula,
      Bool.and_eq_true]
    exact h.map And.imp_right And.imp_right
  | .operand clauses frame inner => by
    have hinner := frame.follows (Expression.Site.follows h inner)
    simp only [Expression.Site.fill, Expression.Site.negations, Expression.formula,
      Bool.and_eq_true, ← Nat.add_assoc]
    exact hinner.map And.imp_right And.imp_right
  | .clause before name inner after combinators => by
    have hinner := OperatorSet.Site.follows h inner (scope.record.get? name)
    simp only [Expression.Site.fill, Expression.Site.negations, Expression.formula,
      Expression.clausesFormula_eq, List.all_append, List.all_cons, Clause.formula,
      Bool.and_eq_true]
    exact hinner.map (fun hops => And.imp_left (And.imp_right (And.imp_left hops)))
      fun hops => And.imp_left (And.imp_right (And.imp_left hops))

/-- **An operator set follows or goes against the combinators at a site**, on any value. -/
theorem OperatorSet.Site.follows
    (h : Follows turns (cs.formula scope = true) (cs'.formula scope = true)) :
    ∀ (site : OperatorSet.Site) (value : Option Value), Follows (turns + site.negations)
      ((site.fill cs).formula value scope = true) ((site.fill cs').formula value scope = true)
  | .own conditions length, value => by
    simp only [OperatorSet.Site.fill, OperatorSet.Site.negations, OperatorSet.formula_eq,
      Bool.and_eq_true]
    exact h.map And.imp_right And.imp_right
  | .operand conditions length frame inner, value => by
    have hinner := frame.follows (Expression.Site.follows h inner)
    simp only [OperatorSet.Site.fill, OperatorSet.Site.negations, OperatorSet.formula_eq,
      Bool.and_eq_true, ← Nat.add_assoc]
    exact hinner.map And.imp_right And.imp_right
  | .length conditions inner combinators, value => by
    have hlength : Follows (turns + inner.negations)
        (OperatorSet.lengthHolds (some (inner.fill cs)) value scope = true)
        (OperatorSet.lengthHolds (some (inner.fill cs')) value scope = true) := by
      match value with
      | some (.array items) =>
        exact OperatorSet.Site.follows h inner (some (.number (.unsigned (.ofNat items.length))))
      | none | some .null | some (.bool _) | some (.number _) | some (.timestamp _)
      | some (.string _) | some (.object _) => exact .refl
    simp only [OperatorSet.Site.fill, OperatorSet.Site.negations, OperatorSet.formula_eq,
      Bool.and_eq_true]
    exact hlength.map (fun hops => And.imp_left (And.imp_right hops))
      fun hops => And.imp_left (And.imp_right hops)

end

/-! ## 4. What occurs at a site -/

mutual

theorem Expression.Site.mem_predicates {o : String × Predicate} (h : o ∈ cs.predicates) :
    ∀ site : Expression.Site, o ∈ (site.fill cs).predicates
  | .own _ => Expression.mem_predicates_of_combinators h
  | .operand _ frame inner => Expression.mem_predicates_of_combinators
    (Combinators.mem_predicates (frame.mem_fill _) (Expression.Site.mem_predicates h inner))
  | .clause before _ inner _ _ =>
    Expression.mem_predicates_of_clause (List.mem_append_right before List.mem_cons_self)
      (OperatorSet.Site.mem_predicates h inner)

theorem OperatorSet.Site.mem_predicates {o : String × Predicate} (h : o ∈ cs.predicates) :
    ∀ site : OperatorSet.Site, o ∈ (site.fill cs).predicates
  | .own _ _ => List.mem_append_right _ h
  | .operand _ _ frame inner => List.mem_append_right _
    (Combinators.mem_predicates (frame.mem_fill _) (Expression.Site.mem_predicates h inner))
  | .length _ inner _ => List.mem_append_left _
    (OperatorSet.Site.mem_predicates h inner)

end

end Sites

/-- A site of combinators in a node. -/
def Node.HasSite (cs : Combinators) : Node → Prop
  | .expression e => ∃ site : Expression.Site, site.fill cs = e
  | .operators ops => ∃ site : OperatorSet.Site, site.fill cs = ops

/-- **The combinators of all that nests in a node have a site in it.** -/
theorem Node.Nests.hasSite {x y : Node} {depth : Nat} (h : x.Nests y depth) :
    x.HasSite y.combinators := by
  induction h with
  | self x =>
    cases x with
    | expression e =>
      obtain ⟨clauses, combinators⟩ := e
      exact ⟨.own clauses, rfl⟩
    | operators ops =>
      obtain ⟨conditions, length, combinators⟩ := ops
      exact ⟨.own conditions length, rfl⟩
  | @step x held y depth holds _ ih =>
    cases holds with
    | @clause e name ops hclause =>
      obtain ⟨site, rfl⟩ := ih
      obtain ⟨clauses, combinators⟩ := e
      obtain ⟨before, after, rfl⟩ := List.append_of_mem hclause
      exact ⟨.clause before name site after combinators, rfl⟩
    | @length ops inner hlength =>
      obtain ⟨site, rfl⟩ := ih
      obtain ⟨conditions, length, combinators⟩ := ops
      obtain rfl := hlength
      exact ⟨.length conditions site combinators, rfl⟩
    | @operand x e hoperand =>
      obtain ⟨site, rfl⟩ := ih
      obtain ⟨frame, hframe⟩ := Combinators.Frame.exists_of_mem hoperand
      cases x with
      | expression e =>
        obtain ⟨clauses, combinators⟩ := e
        obtain rfl := hframe
        exact ⟨.operand clauses frame site, rfl⟩
      | operators ops =>
        obtain ⟨conditions, length, combinators⟩ := ops
        obtain rfl := hframe
        exact ⟨.operand conditions length frame site, rfl⟩

/-- What nests below a node is held by something that nests in it. -/
theorem Node.Nests.last {x y : Node} {depth : Nat} (h : x.Nests y depth) :
    x = y ∨ ∃ holder depth, x.Nests holder depth ∧ holder.Holds y := by
  induction h with
  | self x => exact .inl rfl
  | @step x held y depth holds _ ih =>
    rcases ih with rfl | ⟨holder, depth, hnests, hholds⟩
    · exact .inr ⟨x, 0, .self x, holds⟩
    · exact .inr ⟨holder, depth + 1, .step holds hnests, hholds⟩

/-! ## 5. Contexts of an expression -/

namespace Expression

/-- An expression with a hole for one expression that nests in it, or for itself. -/
inductive Context where
  | hole
  | under (site : Site) (frame : Combinators.Frame)

namespace Context

/-- The expression with another one in the hole. -/
def fill : Context → Expression → Expression
  | hole, e => e
  | under site frame, e => site.fill (frame.fill e)

/-- How many `$NOT` stand above the hole. -/
def negations : Context → Nat
  | hole => 0
  | under site frame => frame.negations + site.negations

/-- **An expression follows or goes against what is in the hole.** -/
theorem follows {scope : Scope} {x y : Expression} (context : Context)
    (h : x.formula scope = true → y.formula scope = true) :
    Follows context.negations ((context.fill x).formula scope = true)
      ((context.fill y).formula scope = true) := by
  cases context with
  | hole => exact .of_imp h
  | under site frame =>
    have hframe := frame.follows (.of_imp h)
    rw [Nat.zero_add] at hframe
    exact site.follows hframe

theorem mem_predicates {e : Expression} {o : String × Predicate} (context : Context)
    (h : o ∈ e.predicates) : o ∈ (context.fill e).predicates := by
  cases context with
  | hole => exact h
  | under site frame => exact site.mem_predicates (Combinators.mem_predicates (frame.mem_fill e) h)

/-- Every expression that nests in another one fills a context there. -/
theorem exists_of_nests {e x : Expression} {depth : Nat}
    (h : (Node.expression e).Nests (.expression x) depth) :
    ∃ context : Context, context.fill x = e := by
  rcases h.last with heq | ⟨holder, depth, hnests, hholds⟩
  · obtain rfl := Node.expression.inj heq
    exact ⟨hole, rfl⟩
  · cases hholds with
    | operand hoperand =>
      obtain ⟨site, hsite⟩ := hnests.hasSite
      obtain ⟨frame, hframe⟩ := Combinators.Frame.exists_of_mem hoperand
      rw [← hframe] at hsite
      exact ⟨under site frame, hsite⟩

end Context

/-- The expression matches in a scope. -/
def Matches (e : Expression) (scope : Scope) : Prop := (e.evaluate scope).outcome = .ok true

theorem formula_of_matches {e : Expression} {scope : Scope} (h : e.Matches scope) :
    e.formula scope = true :=
  (e.evaluate_settled scope true h).symm

theorem matches_of_formula {e : Expression} {scope : Scope}
    (hanswer : scope.AllAnswer e.predicates) (h : e.formula scope = true) : e.Matches scope :=
  ((Expression.evaluate_outcome scope).1 e hanswer).trans (congrArg Except.ok h)

/-! ## 6. Polarity -/

/-- **Polarity.**  In a scope in which the predicates answer, an expression in a context that gives
way to one which matches whenever it does leaves a match a match if the number of `$NOT` above it is
even, and a miss a miss if it is odd.  Where the number is even, a member more in a list of `$OR` or
`$NOT` and a member less in a list of `$AND` leave a match a match.  Contexts reach every expression
that nests in another one, and sites all combinators. -/
theorem polarity (scope : Scope) :
    (∀ (context : Context) (x y : Expression),
      scope.AllAnswer (context.fill x).predicates → scope.AllAnswer (context.fill y).predicates →
      (x.Matches scope → y.Matches scope) →
      (Even context.negations → (context.fill x).Matches scope → (context.fill y).Matches scope) ∧
      (Odd context.negations → (context.fill y).Matches scope → (context.fill x).Matches scope)) ∧
    (∀ (site : Site) (cs : Combinators) (e : Expression) (before after : List Expression),
      let more := fun c => site.fill (cs.set c (.many (before ++ e :: after)))
      let less := fun c => site.fill (cs.set c (.many (before ++ after)))
      Even site.negations →
      (∀ c, c = .or ∨ c = .not → scope.AllAnswer (more c).predicates →
        (less c).Matches scope → (more c).Matches scope) ∧
      (scope.AllAnswer (less .and).predicates →
        (more .and).Matches scope → (less .and).Matches scope)) ∧
    (∀ e x depth, (Node.expression e).Nests (.expression x) depth →
      ∃ context : Context, context.fill x = e) ∧
    ∀ e node depth, (Node.expression e).Nests node depth →
      ∃ site : Site, site.fill node.combinators = e := by
  refine ⟨fun context x y hx hy hmatches => ?_, ?_,
    fun e x depth h => Context.exists_of_nests h, fun e node depth h => h.hasSite⟩
  · have hinner : scope.AllAnswer x.predicates := hx.mono fun o => context.mem_predicates
    have hformula : x.formula scope = true → y.formula scope = true := fun h =>
      formula_of_matches (hmatches (matches_of_formula hinner h))
    have hfollows := context.follows hformula
    exact ⟨fun heven h => matches_of_formula hy (hfollows.1 heven (formula_of_matches h)),
      fun hodd h => matches_of_formula hx (hfollows.2 hodd (formula_of_matches h))⟩
  · intro site cs e before after more less heven
    have hsite : ∀ {cs cs' : Combinators}, (cs.formula scope = true → cs'.formula scope = true) →
        (site.fill cs).formula scope = true → (site.fill cs').formula scope = true := by
      intro cs cs' h
      have hfollows := site.follows (.of_imp h)
      rw [Nat.zero_add] at hfollows
      exact hfollows.1 heven
    refine ⟨fun c hc hanswer h => ?_, fun hanswer h => ?_⟩
    · exact matches_of_formula hanswer
        (hsite (cs.formula_set_mono (Combinator.fold_insert hc)) (formula_of_matches h))
    · exact matches_of_formula hanswer
        (hsite (cs.formula_set_mono Combinator.fold_erase) (formula_of_matches h))

/-- A context under `$NOT` in the set of a length, with one condition less in the hole, and a list
under `$OR` with one member more. -/
theorem polarity_length :
    let scope : Scope := ⟨[], 0, ⟨[("tags", .array []), ("open", .bool false)]⟩⟩
    let isOpen : Expression := ⟨[("open", .literal (.bool true))], .empty⟩
    let isOpenAndNull : Expression :=
      ⟨[("open", .literal (.bool true)), ("note", .literal .null)], .empty⟩
    let ofLength : Site :=
      .clause [] "tags" (.length {} (.own {} none) .empty) [] .empty
    let context : Context := .under ofLength ⟨.empty, .not, .single⟩
    context.negations = 1 ∧
      (context.fill isOpen).Matches scope ∧ (context.fill isOpenAndNull).Matches scope ∧
      (ofLength.fill ⟨none, none, some (.many [.empty])⟩).Matches scope ∧
      (ofLength.fill ⟨none, none, some (.many [isOpen, .empty])⟩).Matches scope := by
  intro scope isOpen isOpenAndNull ofLength context
  obtain ⟨hcontexts, hmembers, -⟩ := polarity scope
  have hnone : ∀ {ps : List (String × Predicate)}, ps = [] → scope.AllAnswer ps := by
    rintro _ rfl o ho
    cases ho
  have hfewer : isOpenAndNull.Matches scope → isOpen.Matches scope := fun h => by
    have hmiss : (isOpenAndNull.evaluate scope).outcome = .ok false := rfl
    rw [Matches, hmiss] at h
    cases h
  have hopen : (context.fill isOpen).Matches scope := rfl
  have hone : (ofLength.fill ⟨none, none, some (.many [.empty])⟩).Matches scope := rfl
  refine ⟨rfl, hopen, ?_, hone, ?_⟩
  · exact (hcontexts context isOpenAndNull isOpen (hnone rfl) (hnone rfl) hfewer).2 ⟨0, rfl⟩ hopen
  · exact (hmembers ofLength .empty isOpen [] [.empty] ⟨0, rfl⟩).1 .or (.inl rfl) (hnone rfl) hone

end Expression

end RecordFilter
