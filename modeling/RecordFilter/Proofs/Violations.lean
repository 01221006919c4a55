/-
# The first violation

Validation looks at an expression place by place: at each node, whose depth may be beyond the limit,
and at each field, whose name may be reserved.  `Node.places` lists these places in one order.  A
node comes before what it holds; then the clauses of an expression come as they stand, each name
before its operator set, or the length of an operator set; then the expressions that are joined,
those of `$NOT` before those of `$AND` before those of `$OR`.

Validation reports the violation that comes first in that list (`Node.validateAt_eq`), and the list
has every node that nests in the expression, with its depth, and every field of those
(`mem_places`).  So an expression passes exactly when no node lies too deep and no name is reserved.
-/
import RecordFilter.Proofs.Nesting
import RecordFilter.Proofs.Scans

namespace RecordFilter

/-! ## 1. Places -/

/-- Where validation looks: at a node that lies at a depth, and at the name of a field. -/
inductive Place where
  | node (x : Node) (depth : Nat)
  | field (name : String)

/-- The violation at a place, if there is one. -/
def Place.violation (limit : Nat) : Place → Option Error
  | .node _ depth => if limit < depth then some (.depthExceeded limit) else none
  | .field name => if isReserved name then some (.reservedFieldName name) else none

mutual

/-- The places of an expression at a depth. -/
def Expression.places : Expression → Nat → List Place
  | ⟨clauses, combinators⟩, depth =>
    .node (.expression ⟨clauses, combinators⟩) depth ::
      (Expression.clausePlaces clauses (depth + 1) ++ combinators.places (depth + 1))

/-- The places of clauses whose operator sets lie at a depth. -/
def Expression.clausePlaces : List (String × Clause) → Nat → List Place
  | [], _ => []
  | (name, clause) :: rest, depth =>
    .field name :: (clause.places depth ++ Expression.clausePlaces rest depth)

/-- The places of a clause at a depth; only operator sets have any. -/
def Clause.places : Clause → Nat → List Place
  | .operators ops, depth => ops.places depth
  | .literal _, _ => []
  | .predicate _, _ => []

/-- The places of an operator set at a depth. -/
def OperatorSet.places : OperatorSet → Nat → List Place
  | ⟨conditions, length, combinators⟩, depth =>
    .node (.operators ⟨conditions, length, combinators⟩) depth ::
      (OperatorSet.lengthPlaces length (depth + 1) ++ combinators.places (depth + 1))

/-- The places of the set of a length. -/
def OperatorSet.lengthPlaces : Option OperatorSet → Nat → List Place
  | none, _ => []
  | some ops, depth => ops.places depth

/-- The places of combinators whose expressions lie at a depth. -/
def Combinators.places : Combinators → Nat → List Place
  | ⟨not, and, or⟩, depth =>
    Combinators.slotPlaces not depth ++
      (Combinators.slotPlaces and depth ++ Combinators.slotPlaces or depth)

/-- The places under one combinator. -/
def Combinators.slotPlaces : Option Operand → Nat → List Place
  | none, _ => []
  | some operand, depth => operand.places depth

/-- The places of an operand whose expressions lie at a depth. -/
def Operand.places : Operand → Nat → List Place
  | .single e, depth => e.places depth
  | .many es, depth => Operand.listPlaces es depth

/-- The places of a list of expressions at a depth. -/
def Operand.listPlaces : List Expression → Nat → List Place
  | [], _ => []
  | e :: rest, depth => e.places depth ++ Operand.listPlaces rest depth

end

/-! ## 2. Validation goes through the places -/

/-- The first violation in a list of places. -/
def firstViolation (limit : Nat) (places : List Place) : Except Error Unit :=
  match places.findSome? (Place.violation limit) with
  | none => .ok ()
  | some error => .error error

section Validation

variable {limit depth : Nat}

@[simp] theorem firstViolation_nil : firstViolation limit [] = .ok () := rfl

theorem firstViolation_append (ps qs : List Place) :
    firstViolation limit (ps ++ qs) = (do firstViolation limit ps; firstViolation limit qs) := by
  unfold firstViolation
  rw [List.findSome?_append]
  cases ps.findSome? (Place.violation limit) <;> rfl

theorem firstViolation_node (x : Node) (places : List Place) :
    firstViolation limit (.node x depth :: places) =
      (do checkDepth limit depth; firstViolation limit places) := by
  unfold firstViolation checkDepth
  rw [List.findSome?_cons, Place.violation]
  by_cases h : limit < depth
  · rw [if_pos h, if_pos h]
    rfl
  · rw [if_neg h, if_neg h]
    rfl

theorem firstViolation_field (name : String) (places : List Place) :
    firstViolation limit (.field name :: places) =
      (do
        if isReserved name then .error (.reservedFieldName name)
        firstViolation limit places) := by
  unfold firstViolation
  rw [List.findSome?_cons, Place.violation]
  cases isReserved name <;> rfl

theorem firstViolation_ok_iff {places : List Place} :
    firstViolation limit places = .ok () ↔ ∀ p ∈ places, p.violation limit = none := by
  rw [← List.findSome?_eq_none_iff, firstViolation]
  split <;> simp [*]

theorem firstViolation_error_iff {places : List Place} {error : Error} :
    firstViolation limit places = .error error ↔
      ∃ before place after, places = before ++ place :: after ∧
        place.violation limit = some error ∧ ∀ p ∈ before, p.violation limit = none := by
  rw [← List.findSome?_eq_some_iff, firstViolation]
  split <;> simp [*]

-- One step for each function of the walk, in the shape of its recursion.
mutual

theorem Expression.validateAt_eq : ∀ (e : Expression) (depth : Nat),
    e.validateAt limit depth = firstViolation limit (e.places depth)
  | ⟨clauses, combinators⟩, depth => by
    rw [Expression.validateAt, Expression.places, firstViolation_node, firstViolation_append,
      Expression.validateClauses_eq clauses, Combinators.validateAt_eq combinators]

theorem Expression.validateClauses_eq : ∀ (clauses : List (String × Clause)) (depth : Nat),
    Expression.validateClauses limit clauses depth =
      firstViolation limit (Expression.clausePlaces clauses depth)
  | [], depth => by rw [Expression.validateClauses, Expression.clausePlaces, firstViolation_nil]
  | (name, clause) :: rest, depth => by
    rw [Expression.validateClauses, Expression.clausePlaces, firstViolation_field,
      firstViolation_append, Clause.validateAt_eq clause, Expression.validateClauses_eq rest]

theorem Clause.validateAt_eq : ∀ (clause : Clause) (depth : Nat),
    clause.validateAt limit depth = firstViolation limit (clause.places depth)
  | .operators ops, depth => by
    rw [Clause.validateAt, Clause.places, OperatorSet.validateAt_eq ops]
  | .literal _, depth => by rw [Clause.validateAt, Clause.places, firstViolation_nil]
  | .predicate _, depth => by rw [Clause.validateAt, Clause.places, firstViolation_nil]

theorem OperatorSet.validateAt_eq : ∀ (ops : OperatorSet) (depth : Nat),
    ops.validateAt limit depth = firstViolation limit (ops.places depth)
  | ⟨conditions, length, combinators⟩, depth => by
    rw [OperatorSet.validateAt, OperatorSet.places, firstViolation_node, firstViolation_append,
      OperatorSet.validateLength_eq length, Combinators.validateAt_eq combinators]

theorem OperatorSet.validateLength_eq : ∀ (length : Option OperatorSet) (depth : Nat),
    OperatorSet.validateLength limit length depth =
      firstViolation limit (OperatorSet.lengthPlaces length depth)
  | none, depth => by
    rw [OperatorSet.validateLength, OperatorSet.lengthPlaces, firstViolation_nil]
  | some ops, depth => by
    rw [OperatorSet.validateLength, OperatorSet.lengthPlaces, OperatorSet.validateAt_eq ops]

theorem Combinators.validateAt_eq : ∀ (cs : Combinators) (depth : Nat),
    cs.validateAt limit depth = firstViolation limit (cs.places depth)
  | ⟨not, and, or⟩, depth => by
    rw [Combinators.validateAt, Combinators.places, firstViolation_append, firstViolation_append,
      Combinators.validateOperand_eq not, Combinators.validateOperand_eq and,
      Combinators.validateOperand_eq or]

theorem Combinators.validateOperand_eq : ∀ (operand : Option Operand) (depth : Nat),
    Combinators.validateOperand limit operand depth =
      firstViolation limit (Combinators.slotPlaces operand depth)
  | none, depth => by
    rw [Combinators.validateOperand, Combinators.slotPlaces, firstViolation_nil]
  | some operand, depth => by
    rw [Combinators.validateOperand, Combinators.slotPlaces, Operand.validateAt_eq operand]

theorem Operand.validateAt_eq : ∀ (operand : Operand) (depth : Nat),
    operand.validateAt limit depth = firstViolation limit (operand.places depth)
  | .single e, depth => by rw [Operand.validateAt, Operand.places, Expression.validateAt_eq e]
  | .many es, depth => by rw [Operand.validateAt, Operand.places, Operand.validateAll_eq es]

theorem Operand.validateAll_eq : ∀ (es : List Expression) (depth : Nat),
    Operand.validateAll limit es depth = firstViolation limit (Operand.listPlaces es depth)
  | [], depth => by rw [Operand.validateAll, Operand.listPlaces, firstViolation_nil]
  | e :: rest, depth => by
    rw [Operand.validateAll, Operand.listPlaces, firstViolation_append, Expression.validateAt_eq e,
      Operand.validateAll_eq rest]

end

end Validation

/-! ## 3. The places are what nests -/

section Members

variable {p : Place} {depth : Nat}

theorem Operand.mem_listPlaces_iff : ∀ {es : List Expression},
    p ∈ Operand.listPlaces es depth ↔ ∃ e ∈ es, p ∈ e.places depth
  | [] => by simp [Operand.listPlaces]
  | e :: rest => by
    rw [Operand.listPlaces, List.mem_append, Operand.mem_listPlaces_iff]
    simp only [List.mem_cons, exists_eq_or_imp]

theorem Combinators.mem_slotPlaces_iff {operand : Option Operand} :
    p ∈ Combinators.slotPlaces operand depth ↔
      ∃ e ∈ operand.elim [] Operand.expressions, p ∈ e.places depth := by
  match operand with
  | none => simp [Combinators.slotPlaces]
  | some (.single e) => simp [Combinators.slotPlaces, Operand.places, Operand.expressions]
  | some (.many es) => exact Operand.mem_listPlaces_iff

theorem Combinators.mem_places_iff {cs : Combinators} :
    p ∈ cs.places depth ↔ ∃ e ∈ cs.expressions, p ∈ e.places depth := by
  obtain ⟨not, and, or⟩ := cs
  simp only [Combinators.places, Combinators.expressions, List.mem_append,
    Combinators.mem_slotPlaces_iff, or_and_right, exists_or, or_assoc]

theorem Expression.mem_clausePlaces_iff : ∀ {clauses : List (String × Clause)},
    p ∈ Expression.clausePlaces clauses depth ↔
      ∃ c ∈ clauses, p = .field c.1 ∨ p ∈ c.2.places depth
  | [] => by simp [Expression.clausePlaces]
  | (name, clause) :: rest => by
    rw [Expression.clausePlaces, List.mem_cons, List.mem_append, Expression.mem_clausePlaces_iff]
    simp only [List.mem_cons, exists_eq_or_imp, or_assoc]

namespace Node

/-- The places of a node at a depth. -/
def places : Node → Nat → List Place
  | .expression e => e.places
  | .operators ops => ops.places

/-- The places of a node are its own depth, its fields, and the places of what it holds. -/
theorem mem_places_iff {x : Node} :
    p ∈ x.places depth ↔ p = .node x depth ∨ (∃ c ∈ x.clauses, p = .field c.1) ∨
      ∃ held, x.Holds held ∧ p ∈ held.places (depth + 1) := by
  cases x with
  | expression e =>
    obtain ⟨clauses, combinators⟩ := e
    rw [places, Expression.places, List.mem_cons, List.mem_append,
      Expression.mem_clausePlaces_iff, Combinators.mem_places_iff]
    refine or_congr_right ⟨?_, ?_⟩
    · rintro (⟨⟨name, clause⟩, hc, hname | hp⟩ | ⟨e, he, hp⟩)
      · exact .inl ⟨(name, clause), hc, hname⟩
      · cases clause with
        | operators ops => exact .inr ⟨.operators ops, .clause hc, hp⟩
        | literal _ | predicate _ => simp [Clause.places] at hp
      · exact .inr ⟨.expression e, .operand he, hp⟩
    · rintro (⟨c, hc, hname⟩ | ⟨held, holds, hp⟩)
      · exact .inl ⟨c, hc, .inl hname⟩
      · cases holds with
        | clause h => exact .inl ⟨_, h, .inr hp⟩
        | operand h => exact .inr ⟨_, h, hp⟩
  | operators ops =>
    obtain ⟨conditions, length, combinators⟩ := ops
    rw [places, OperatorSet.places, List.mem_cons, List.mem_append, Combinators.mem_places_iff]
    refine or_congr_right ⟨?_, ?_⟩
    · rintro (hp | ⟨e, he, hp⟩)
      · cases length with
        | none => simp [OperatorSet.lengthPlaces] at hp
        | some inner => exact .inr ⟨.operators inner, .length rfl, hp⟩
      · exact .inr ⟨.expression e, .operand he, hp⟩
    · rintro (⟨c, hc, _⟩ | ⟨held, holds, hp⟩)
      · simp [Node.clauses] at hc
      · cases holds with
        | length h =>
          obtain rfl : length = some _ := h
          exact .inl hp
        | operand h => exact .inr ⟨_, h, hp⟩

/-- **The places of a node are what nests in it**: every such node at its depth, and its fields. -/
theorem mem_places_iff_nests (x : Node) : ∀ depth : Nat,
    p ∈ x.places depth ↔ ∃ y below, x.Nests y below ∧
      (p = .node y (depth + below) ∨ ∃ c ∈ y.clauses, p = .field c.1) := by
  induction x using Node.induction with
  | step x ih =>
    intro depth
    rw [mem_places_iff]
    constructor
    · rintro (rfl | ⟨c, hc, rfl⟩ | ⟨held, holds, hp⟩)
      · exact ⟨x, 0, .self x, .inl rfl⟩
      · exact ⟨x, 0, .self x, .inr ⟨c, hc, rfl⟩⟩
      · obtain ⟨y, below, hy, hp⟩ := (ih held holds (depth + 1)).mp hp
        rw [Nat.add_assoc, Nat.add_comm 1] at hp
        exact ⟨y, below + 1, .step holds hy, hp⟩
    · rintro ⟨y, below, hy, hp⟩
      cases hy with
      | self => exact hp.imp_right .inl
      | @step _ held _ below holds hy =>
        refine .inr (.inr ⟨held, holds, (ih held holds (depth + 1)).mpr ⟨y, below, hy, ?_⟩⟩)
        rwa [Nat.add_assoc, Nat.add_comm 1]

end Node

end Members

/-! ## 4. What validation reports -/

namespace Node

variable {limit depth : Nat}

/-- Validates a node at a depth. -/
def validateAt (limit : Nat) : Node → Nat → Except Error Unit
  | .expression e => e.validateAt limit
  | .operators ops => ops.validateAt limit

/-- **Validation reports the first violation** of a node at a depth. -/
theorem validateAt_eq (x : Node) :
    x.validateAt limit depth = firstViolation limit (x.places depth) := by
  cases x with
  | expression e => exact Expression.validateAt_eq e depth
  | operators ops => exact OperatorSet.validateAt_eq ops depth

/-- A node passes when nothing that nests in it lies too deep or has a reserved name. -/
theorem validateAt_ok_iff {x : Node} :
    x.validateAt limit depth = .ok () ↔ ∀ y below, x.Nests y below →
      depth + below ≤ limit ∧ ∀ c ∈ y.clauses, isReserved c.1 = false := by
  rw [validateAt_eq, firstViolation_ok_iff]
  constructor
  · intro h y below hy
    constructor
    · have hnode := h _ ((mem_places_iff_nests x depth).mpr ⟨y, below, hy, .inl rfl⟩)
      simpa [Place.violation] using hnode
    · intro c hc
      have hfield := h _ ((mem_places_iff_nests x depth).mpr ⟨y, below, hy, .inr ⟨c, hc, rfl⟩⟩)
      simpa [Place.violation] using hfield
  · intro h p hp
    obtain ⟨y, below, hy, hp⟩ := (mem_places_iff_nests x depth).mp hp
    obtain ⟨hdepth, hnames⟩ := h y below hy
    rcases hp with rfl | ⟨c, hc, rfl⟩
    · simpa [Place.violation] using hdepth
    · simpa [Place.violation] using hnames c hc

end Node

/-- **What validation reports.**  An expression passes under a limit when every expression and
operator set in it lies at a depth within the limit and no field of an expression in it has a
reserved name.  Otherwise the report is the violation that comes first among its places. -/
theorem Expression.validate_reports (e : Expression) (limit : Nat) :
    ((e.validate ⟨limit⟩).result = .ok () ↔
      (∀ x depth, (Node.expression e).Nests x depth → depth ≤ limit) ∧
        ∀ inner depth, (Node.expression e).Nests (.expression inner) depth →
          ∀ c ∈ inner.clauses, isReserved c.1 = false) ∧
      ∀ error, (e.validate ⟨limit⟩).result = .error error ↔
        ∃ before place after, e.places 0 = before ++ place :: after ∧
          place.violation limit = some error ∧ ∀ p ∈ before, p.violation limit = none := by
  have hresult : (e.validate ⟨limit⟩).result = (Node.expression e).validateAt limit 0 :=
    (Expression.validate_ends e ⟨limit⟩).1
  rw [hresult]
  constructor
  · rw [Node.validateAt_ok_iff]
    constructor
    · intro h
      exact ⟨fun x depth hx => Nat.zero_add depth ▸ (h x depth hx).1,
        fun inner depth hinner => (h _ depth hinner).2⟩
    · rintro ⟨hdepths, hnames⟩ x depth hx
      refine ⟨(Nat.zero_add depth).symm ▸ hdepths x depth hx, fun c hc => ?_⟩
      cases x with
      | expression inner => exact hnames inner depth hx c hc
      | operators ops => simp [Node.clauses] at hc
  · intro error
    rw [Node.validateAt_eq]
    exact firstViolation_error_iff

end RecordFilter
