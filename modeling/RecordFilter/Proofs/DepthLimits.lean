/-
# Raising the depth limit

Reading and validating take the limit along and look at it in one place only, where a depth is
checked.  So the result, as a function of the limit, has a plain shape: from some limit on it is
always the same, and for every lower limit it is a refusal for depth that names that limit
(`Settles`).  A check of a depth has this shape, what never looks at the limit has it, and one step
after another has it, the greater of the two limits being the one from which the result is settled
(`Settles.bind`).  Which fault is met first does not matter for this, as the faults before it would
have ended the walk at every limit alike.

The functions that read a document have the shape on every tree (`Json.readsSettle`), and so has
validation on every expression (`Expression.validateAt_settles`).  That a greater limit never takes
a success away, nor puts another fault in the place of one, is read off the shape.
-/
import RecordFilter.Proofs.Acceptance
import RecordFilter.Proofs.Scans

namespace RecordFilter

/-! ## 1. Results that settle -/

/-- The result is the same for all limits from some `need` on, and a lower limit is exceeded. -/
def Settles {α : Type} (x : Nat → Except Error α) : Prop :=
  ∃ need result, (∀ k, result ≠ .error (.depthExceeded k)) ∧
    ∀ limit, x limit = if need ≤ limit then result else .error (.depthExceeded limit)

section Settling

variable {α β : Type}

theorem Settles.const {x : Except Error α} (h : ∀ k, x ≠ .error (.depthExceeded k)) :
    Settles fun _ => x :=
  ⟨0, x, h, fun limit => (if_pos (Nat.zero_le limit)).symm⟩

theorem Settles.ok (a : α) : Settles fun _ => .ok a := .const (by simp)

theorem Settles.checkDepth (depth : Nat) : Settles fun limit => checkDepth limit depth := by
  refine ⟨depth, .ok (), by simp, fun limit => ?_⟩
  show (if limit < depth then _ else _) = _
  by_cases h : depth ≤ limit
  · rw [if_pos h, if_neg (Nat.not_lt.mpr h)]
  · rw [if_neg h, if_pos (Nat.not_le.mp h)]

/-- One step after another: both must be settled, or the first with a fault. -/
theorem Settles.bind {x : Nat → Except Error α} (hx : Settles x)
    {next : Nat → α → Except Error β} (hnext : ∀ a, Settles fun limit => next limit a) :
    Settles fun limit => x limit >>= next limit := by
  obtain ⟨need, result, hresult, hx⟩ := hx
  cases result with
  | error e =>
    refine ⟨need, .error e, fun k h => hresult k (congrArg _ (Except.error.inj h)), fun limit => ?_⟩
    show x limit >>= next limit = _
    rw [hx]
    split <;> rfl
  | ok a =>
    obtain ⟨need', result', hresult', hnext⟩ := hnext a
    refine ⟨max need need', result', hresult', fun limit => ?_⟩
    show x limit >>= next limit = _
    rw [hx]
    by_cases h : need ≤ limit
    · have hmax : max need need' ≤ limit ↔ need' ≤ limit := by omega
      rw [if_pos h]
      simp only [hmax]
      exact hnext limit
    · rw [if_neg h, if_neg (by omega)]
      rfl

theorem Settles.return {x : Nat → Except Error α} (hx : Settles x) (f : α → β) :
    Settles fun limit => (do return f (← x limit)) :=
  hx.bind fun a => .ok (f a)

/-- What comes after a check of its depth. -/
theorem Settles.checked {x : Nat → Except Error α} (hx : Settles x) (depth : Nat) :
    Settles fun limit => (do RecordFilter.checkDepth limit depth; x limit) :=
  (Settles.checkDepth depth).bind fun _ => hx

end Settling

/-! ## 2. Literals -/

theorem Value.readItems_settles (depth : Nat) : ∀ {items : List Json},
    (∀ item ∈ items, ∀ depth, Settles fun limit => Value.readLiteral limit item depth) →
      Settles fun limit => Value.readItems limit items depth
  | [], _ => by
    simp only [Value.readItems]
    exact .ok []
  | item :: rest, h => by
    obtain ⟨hitem, hrest⟩ := List.forall_mem_cons.mp h
    simp only [Value.readItems]
    exact (hitem depth).bind fun v => (Value.readItems_settles depth hrest).return _

theorem Value.readEntries_settles (depth : Nat) : ∀ {members : List (String × Json)},
    (∀ m ∈ members, ∀ depth, Settles fun limit => Value.readLiteral limit m.2 depth) →
      Settles fun limit => Value.readEntries limit members depth
  | [], _ => by
    simp only [Value.readEntries]
    exact .ok []
  | (name, item) :: rest, h => by
    obtain ⟨hitem, hrest⟩ := List.forall_mem_cons.mp h
    simp only [Value.readEntries]
    exact (hitem depth).bind fun v => (Value.readEntries_settles depth hrest).return _

theorem Value.readLiteral_settles (json : Json) :
    ∀ depth, Settles fun limit => Value.readLiteral limit json depth := by
  induction json using Json.induction with
  | null | bool | number | string =>
    intro depth
    simp only [Value.readLiteral]
    exact (Settles.ok _).checked depth
  | array items ih =>
    intro depth
    simp only [Value.readLiteral]
    exact ((Value.readItems_settles (depth + 1) ih).return _).checked depth
  | object members ih =>
    intro depth
    simp only [Value.readLiteral]
    exact ((Value.readEntries_settles (depth + 1) ih).return _).checked depth

/-! ## 3. Documents -/

/-- All functions that read settle on a tree. -/
structure Json.ReadsSettle (json : Json) : Prop where
  expression : ∀ depth, Settles fun limit => Expression.readAt limit json depth
  operand : ∀ c depth, Settles fun limit => Operand.readAt limit json c depth
  clause : ∀ depth, Settles fun limit => Clause.readAt limit json depth
  setting : ∀ op depth, Settles fun limit => Setting.readAt limit json op depth

theorem Expression.readMembers_settles (depth : Nat) : ∀ {members : List (String × Json)},
    (∀ m ∈ members, m.2.ReadsSettle) → ∀ read : Expression,
      Settles fun limit => Expression.readMembers limit members depth read
  | [], _, read => by
    simp only [Expression.readMembers]
    exact .ok read
  | (key, json) :: rest, h, read => by
    obtain ⟨hjson, hrest⟩ := List.forall_mem_cons.mp h
    have hnext := Expression.readMembers_settles depth hrest
    simp only [Expression.readMembers]
    cases Combinator.ofKey? key with
    | some c => exact (hjson.operand c depth).bind fun operand => hnext _
    | none =>
      cases isReserved key with
      | true => exact .const (by simp)
      | false => exact (hjson.clause depth).bind fun clause => hnext _

theorem OperatorSet.readMembers_settles (depth : Nat) : ∀ {members : List (String × Json)},
    (∀ m ∈ members, m.2.ReadsSettle) → ∀ read : OperatorSet,
      Settles fun limit => OperatorSet.readMembers limit members depth read
  | [], _, read => by
    simp only [OperatorSet.readMembers]
    exact .ok read
  | (key, json) :: rest, h, read => by
    obtain ⟨hjson, hrest⟩ := List.forall_mem_cons.mp h
    have hnext := OperatorSet.readMembers_settles depth hrest
    simp only [OperatorSet.readMembers]
    cases Combinator.ofKey? key with
    | some c => exact (hjson.operand c depth).bind fun operand => hnext _
    | none =>
      cases Operator.ofName? key with
      | none => exact .const (by simp)
      | some op => exact (hjson.setting op depth).bind fun setting => hnext _

theorem Operand.readAll_settles (c : Combinator) (depth : Nat) : ∀ {items : List Json},
    (∀ item ∈ items, item.ReadsSettle) → Settles fun limit => Operand.readAll limit items c depth
  | [], _ => by
    simp only [Operand.readAll]
    exact .ok []
  | item :: rest, h => by
    obtain ⟨hitem, hrest⟩ := List.forall_mem_cons.mp h
    by_cases hk : item.kind = .object
    · obtain ⟨members, rfl⟩ := Json.exists_of_kind_object hk
      simp only [Operand.readAll_object]
      exact (hitem.expression depth).bind fun e => (Operand.readAll_settles c depth hrest).return _
    · simp only [Operand.readAll_other hk]
      exact .const (by simp)

/-- Apart from the equalities, the memberships and the set of a length, no operator looks at the
limit. -/
theorem Setting.readAt_settles {json : Json}
    (hlength : ∀ members, json = .object members → ∀ depth,
      Settles fun limit => OperatorSet.readMembers limit members depth .empty)
    (op : Operator) (depth : Nat) : Settles fun limit => Setting.readAt limit json op depth := by
  cases op with
  | equals | notEquals =>
    simp only [Setting.readAt]
    exact (Value.readLiteral_settles json depth).return _
  | length =>
    cases json with
    | object members =>
      simp only [Setting.readAt]
      exact ((hlength members rfl (depth + 1)).return _).checked depth
    | null =>
      simp only [Setting.readAt]
      exact .ok none
    | bool | number | string | array =>
      simp only [Setting.readAt]
      exact .const (by simp)
  | includesEvery | includesSome | includesNone =>
    cases json with
    | array items =>
      simp only [Setting.readAt, Operator.readList]
      exact (Value.readItems_settles depth fun item _ => Value.readLiteral_settles item).return _
    | null =>
      simp only [Setting.readAt]
      exact .ok none
    | bool | number | string | object =>
      simp only [Setting.readAt, Operator.readList]
      exact .const (by simp [bind, Except.bind])
  | includes | startsWith | endsWith =>
    cases json <;> simp only [Setting.readAt, Operator.readString] <;>
      exact .const (by simp [bind, Except.bind, pure, Except.pure])
  | caseInsensitive =>
    cases json <;> simp only [Setting.readAt, Operator.readBool] <;>
      exact .const (by simp [bind, Except.bind, pure, Except.pure])
  | matchesPattern =>
    cases json with
    | string s =>
      simp only [Setting.readAt, Operator.readPattern, Operator.readString]
      refine .const fun k => ?_
      cases hp : Pattern.compile? s <;> simp [bind, Except.bind, pure, Except.pure, hp]
    | null | bool | number | array | object =>
      simp only [Setting.readAt, Operator.readPattern, Operator.readString]
      exact .const (by simp [bind, Except.bind])
  | greaterThan | greaterThanOrEqual | lessThan | lessThanOrEqual =>
    cases json <;> simp only [Setting.readAt, Operator.readBound] <;>
      exact .const (by simp [bind, Except.bind, pure, Except.pure])

theorem Json.readsSettle_object {members : List (String × Json)}
    (h : ∀ m ∈ members, m.2.ReadsSettle) : (Json.object members).ReadsSettle := by
  have hexpression : ∀ depth, Settles fun limit =>
      Expression.readAt limit (.object members) depth := by
    intro depth
    simp only [Expression.readAt]
    exact (Expression.readMembers_settles (depth + 1) h .empty).checked depth
  have hset := fun depth => OperatorSet.readMembers_settles depth h .empty
  refine ⟨hexpression, fun c depth => ?_, fun depth => ?_, fun op depth => ?_⟩
  · simp only [Operand.readAt_object]
    exact (hexpression depth).return _
  · simp only [Clause.readAt]
    exact ((hset (depth + 1)).return _).checked depth
  · exact Setting.readAt_settles (fun _ hjson => Json.object.inj hjson ▸ hset) op depth

theorem Json.readsSettle_other {json : Json} (hobject : json.kind ≠ .object)
    (hitems : ∀ items, json = .array items → ∀ item ∈ items, item.ReadsSettle) :
    json.ReadsSettle := by
  refine ⟨fun depth => ?_, fun c depth => ?_, fun depth => ?_, fun op depth => ?_⟩
  · cases json with
    | object members => exact absurd rfl hobject
    | null | bool | number | string | array =>
      simp only [Expression.readAt]
      exact (Settles.const (by simp)).checked depth
  · cases json with
    | object members => exact absurd rfl hobject
    | array items =>
      simp only [Operand.readAt]
      exact (Operand.readAll_settles c depth (hitems items rfl)).return _
    | null | bool | number | string =>
      simp only [Operand.readAt]
      exact .const (by simp)
  · simp only [Clause.readAt_other hobject]
    exact (Value.readLiteral_settles json depth).return _
  · exact Setting.readAt_settles (fun members hjson => absurd (hjson ▸ rfl) hobject) op depth

/-- **Reading settles on every tree.** -/
theorem Json.readsSettle (json : Json) : json.ReadsSettle :=
  Json.documentInduction Json.readsSettle_object Json.readsSettle_other json

/-! ## 4. Validation -/

theorem Operand.validateAll_settles (depth : Nat) : ∀ {es : List Expression},
    (∀ e ∈ es, ∀ depth, Settles fun limit => e.validateAt limit depth) →
      Settles fun limit => Operand.validateAll limit es depth
  | [], _ => by
    simp only [Operand.validateAll]
    exact .ok ()
  | e :: rest, h => by
    obtain ⟨he, hrest⟩ := List.forall_mem_cons.mp h
    simp only [Operand.validateAll]
    exact (he depth).bind fun _ => Operand.validateAll_settles depth hrest

theorem Combinators.validateOperand_settles {operand : Option Operand}
    (h : ∀ e ∈ operand.elim [] Operand.expressions, ∀ depth,
      Settles fun limit => e.validateAt limit depth) (depth : Nat) :
    Settles fun limit => Combinators.validateOperand limit operand depth := by
  match operand with
  | none =>
    simp only [Combinators.validateOperand]
    exact .ok ()
  | some (.single e) =>
    simp only [Combinators.validateOperand, Operand.validateAt]
    exact h e (List.mem_singleton_self e) depth
  | some (.many es) =>
    simp only [Combinators.validateOperand, Operand.validateAt]
    exact Operand.validateAll_settles depth h

theorem Combinators.validateAt_settles {cs : Combinators}
    (h : ∀ e ∈ cs.expressions, ∀ depth, Settles fun limit => e.validateAt limit depth)
    (depth : Nat) : Settles fun limit => cs.validateAt limit depth := by
  obtain ⟨not, and, or⟩ := cs
  rw [Combinators.expressions, List.forall_mem_append, List.forall_mem_append] at h
  simp only [Combinators.validateAt]
  exact (Combinators.validateOperand_settles h.1.1 depth).bind fun _ =>
    (Combinators.validateOperand_settles h.1.2 depth).bind fun _ =>
      Combinators.validateOperand_settles h.2 depth

theorem Expression.validateClauses_settles (depth : Nat) : ∀ {clauses : List (String × Clause)},
    (∀ name ops, (name, Clause.operators ops) ∈ clauses → ∀ depth,
      Settles fun limit => ops.validateAt limit depth) →
      Settles fun limit => Expression.validateClauses limit clauses depth
  | [], _ => by
    simp only [Expression.validateClauses]
    exact .ok ()
  | (name, clause) :: rest, h => by
    have hrest := Expression.validateClauses_settles depth fun inner ops hc =>
      h inner ops (List.mem_cons_of_mem _ hc)
    have hclause : Settles fun limit => clause.validateAt limit depth := by
      cases clause with
      | operators ops =>
        simp only [Clause.validateAt]
        exact h name ops List.mem_cons_self depth
      | literal _ | predicate _ =>
        simp only [Clause.validateAt]
        exact .ok ()
    simp only [Expression.validateClauses]
    cases isReserved name with
    | true => exact .const (by simp)
    | false => exact hclause.bind fun _ => hrest

/-- **Validation settles on every expression**, and on every operator set. -/
theorem Expression.validateAt_settles :
    (∀ e : Expression, ∀ depth, Settles fun limit => e.validateAt limit depth) ∧
    ∀ ops : OperatorSet, ∀ depth, Settles fun limit => ops.validateAt limit depth := by
  refine Expression.induction ?_ ?_
  · intro clauses combinators hops hes depth
    simp only [Expression.validateAt]
    exact Settles.checked ((Expression.validateClauses_settles (depth + 1) hops).bind fun _ =>
      Combinators.validateAt_settles hes (depth + 1)) depth
  · intro conditions length combinators hlength hes depth
    have hinner : Settles fun limit => OperatorSet.validateLength limit length (depth + 1) := by
      cases length with
      | none =>
        simp only [OperatorSet.validateLength]
        exact .ok ()
      | some ops =>
        simp only [OperatorSet.validateLength]
        exact hlength ops rfl (depth + 1)
    simp only [OperatorSet.validateAt]
    exact Settles.checked (hinner.bind fun _ =>
      Combinators.validateAt_settles hes (depth + 1)) depth

/-! ## 5. Raising the limit -/

/-- From one limit to another, no result changes but a refusal for depth, and where the second
limit is exceeded, so is the first. -/
structure SafelyRaised {α : Type} (x : Nat → Except Error α) (limit greater : Nat) : Prop where
  succeeds : ∀ a, x limit = .ok a → x greater = .ok a
  fails : ∀ error, x limit = .error error → (∀ k, error ≠ .depthExceeded k) →
    x greater = .error error
  exceeds : x greater = .error (.depthExceeded greater) → x limit = .error (.depthExceeded limit)

theorem Settles.safelyRaised {α : Type} {x : Nat → Except Error α} (hx : Settles x)
    {limit greater : Nat} (hle : limit ≤ greater) : SafelyRaised x limit greater := by
  obtain ⟨need, result, hresult, hx⟩ := hx
  by_cases h : need ≤ limit
  · have hlimit : x limit = result := by rw [hx, if_pos h]
    have hgreater : x greater = result := by rw [hx, if_pos (Nat.le_trans h hle)]
    refine ⟨fun a ha => ?_, fun error he _ => ?_, fun he => ?_⟩
    · rw [hgreater, ← hlimit, ha]
    · rw [hgreater, ← hlimit, he]
    · exact absurd (hgreater.symm.trans he) (hresult greater)
  · have hlimit : x limit = .error (.depthExceeded limit) := by rw [hx, if_neg h]
    refine ⟨fun a ha => ?_, fun error he hother => ?_, fun _ => hlimit⟩
    · exact absurd (hlimit.symm.trans ha) (by simp)
    · exact absurd (Except.error.inj (hlimit.symm.trans he)).symm (hother limit)

/-- **Raising the depth limit is safe**, for reading and for validation. -/
theorem Expression.depthLimit_safelyRaised {limit greater : Nat} (hle : limit ≤ greater) :
    (∀ json, SafelyRaised (fun limit => (Expression.ofJson json ⟨limit⟩).result) limit greater) ∧
    ∀ e : Expression, SafelyRaised (fun limit => (e.validate ⟨limit⟩).result) limit greater := by
  refine ⟨fun json => Settles.safelyRaised ?_ hle, fun e => Settles.safelyRaised ?_ hle⟩
  · simp only [Expression.ofJson_result]
    exact json.readsSettle.expression 0
  · simp only [(Expression.validate_ends e _).1]
    exact Expression.validateAt_settles.1 e 0

/-- A set for the length of a length, and after it a name that is reserved. -/
def Json.reservedAfterDepth : Json :=
  .object [("tags", .object [("length", .object [("length", .object [])])]), ("$x", .null)]

/-- The sets are met first, so the name is at fault only where the limit lets them be. -/
theorem Expression.reservedAfterDepth_safelyRaised :
    let read : Nat → Except Error Expression := fun limit =>
      (Expression.ofJson Json.reservedAfterDepth ⟨limit⟩).result
    read 1 = .error (.depthExceeded 1) ∧ read 2 = .error (.depthExceeded 2) ∧
      read 3 = .error (.reservedFieldName "$x") ∧ read 9 = .error (.reservedFieldName "$x") := by
  intro read
  have h : SafelyRaised read 1 2 :=
    (Expression.depthLimit_safelyRaised (by decide)).1 Json.reservedAfterDepth
  have h' : SafelyRaised read 3 9 :=
    (Expression.depthLimit_safelyRaised (by decide)).1 Json.reservedAfterDepth
  have hexceeds : read 2 = .error (.depthExceeded 2) := rfl
  have hfails : read 3 = .error (.reservedFieldName "$x") := rfl
  exact ⟨h.exceeds hexceeds, hexceeds, hfails, h'.fails _ hfails (by simp)⟩

end RecordFilter
