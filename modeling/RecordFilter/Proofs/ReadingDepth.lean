/-
# How deep the calls of the reader nest

Three functions of the reader take turns on a document: one reads an expression, one an operator set
and one a literal.  Each call of them checks its depth before it does anything else, and the calls
that it makes are one step deeper.  So under a limit no more than `limit + 2` calls are ever nested,
however deep the document, and the innermost of that many is refused at once
(`Expression.readLog_within`).

To speak of calls, the reader is written once more, over a way to run it (`Reading`) that decides
what a call does besides its body.  `Reading.logged` keeps a log of the calls, each with the calls
around it, and `Reading.fueled` allows a number of nested calls only.  Whatever way to run keeps a
relation with the results of the reader, step by step, keeps it on every document
(`Reading.Agrees.expression`); the log and the fuel are two cases of this.
-/
import RecordFilter.Proofs.Acceptance

namespace RecordFilter

/-! ## 1. The reader over a way to run it -/

/-- A call of the reader: for an expression, an operator set or a literal, at a depth. -/
inductive ReaderCall where
  | expression (json : Json) (depth : Nat)
  | operators (json : Json) (depth : Nat)
  | literal (json : Json) (depth : Nat)

/-- The depth of a call. -/
def ReaderCall.depth : ReaderCall → Nat
  | .expression _ depth | .operators _ depth | .literal _ depth => depth

/-- A way to run the reader: how a result is taken up that needs no call, and how the body of a call
is run. -/
structure Reading (m : Type → Type) where
  lift {α : Type} : Except Error α → m α
  enter {α : Type} : ReaderCall → m α → m α

namespace Reading

section Reader

variable {m : Type → Type} [Monad m] (run : Reading m) (limit : Nat)

/-- A call checks its depth, and goes on with its body. -/
def call {α : Type} (c : ReaderCall) (body : m α) : m α :=
  run.enter c do
    run.lift (checkDepth limit c.depth)
    body

mutual

/-- Reads a literal. -/
def literal : Json → Nat → m Value
  | .array items, depth => run.call limit (.literal (.array items) depth) do
    return .array (← literalItems items (depth + 1))
  | .object members, depth => run.call limit (.literal (.object members) depth) do
    return .object (← literalEntries members (depth + 1))
  | json, depth => run.call limit (.literal json depth) (pure (Value.ofJson json))

/-- Reads a list of literals. -/
def literalItems : List Json → Nat → m (List Value)
  | [], _ => pure []
  | item :: rest, depth => do
    let v ← literal item depth
    return v :: (← literalItems rest depth)

/-- Reads the members of an object. -/
def literalEntries : List (String × Json) → Nat → m (List (String × Value))
  | [], _ => pure []
  | (name, item) :: rest, depth => do
    let v ← literal item depth
    return (name, v) :: (← literalEntries rest depth)

end

mutual

/-- Reads an expression. -/
def expression : Json → Nat → m Expression
  | .object members, depth =>
    run.call limit (.expression (.object members) depth)
      (expressionMembers members (depth + 1) .empty)
  | json, depth =>
    run.call limit (.expression json depth)
      (run.lift (.error (.notAnObject .expression json.kind)))

/-- Reads the members of an expression after those already `read`. -/
def expressionMembers : List (String × Json) → Nat → Expression → m Expression
  | [], _, read => pure read
  | (key, json) :: rest, depth, read =>
    match Combinator.ofKey? key with
    | some c => do
      let joined ← operand json c depth
      expressionMembers rest depth (read.combine c joined)
    | none =>
      if isReserved key then run.lift (.error (.reservedFieldName key))
      else do
        let asked ← clause json depth
        expressionMembers rest depth (read.field key asked)

/-- Reads the operand of a combinator. -/
def operand : Json → Combinator → Nat → m Operand
  | .object members, _, depth => do
    return .single (← run.call limit (.expression (.object members) depth)
      (expressionMembers members (depth + 1) .empty))
  | .array items, c, depth => do return .many (← operandItems items c depth)
  | json, c, depth => run.lift (Operand.readAt limit json c depth)

/-- Reads the expressions of a list operand. -/
def operandItems : List Json → Combinator → Nat → m (List Expression)
  | [], _, _ => pure []
  | .object members :: rest, c, depth => do
    let e ← run.call limit (.expression (.object members) depth)
      (expressionMembers members (depth + 1) .empty)
    return e :: (← operandItems rest c depth)
  | json :: _, c, _ => run.lift (.error (.malformedCombinator c json.kind))

/-- Reads the clause of a field. -/
def clause : Json → Nat → m Clause
  | .object members, depth => do
    return .operators (← run.call limit (.operators (.object members) depth)
      (operatorMembers members (depth + 1) .empty))
  | json, depth => do return .literal (← run.literal limit json depth)

/-- Reads the members of an operator set after those already `read`. -/
def operatorMembers : List (String × Json) → Nat → OperatorSet → m OperatorSet
  | [], _, read => pure read
  | (key, json) :: rest, depth, read =>
    match Combinator.ofKey? key with
    | some c => do
      let joined ← operand json c depth
      operatorMembers rest depth (read.set (.combine c joined))
    | none =>
      match Operator.ofName? key with
      | none => run.lift (.error (.unknownOperator key))
      | some op => do
        let found ← setting json op depth
        operatorMembers rest depth (found.elim read read.set)

/-- Reads what an operator takes; only equalities, membership lists and lengths make calls. -/
def setting : Json → Operator → Nat → m (Option Setting)
  | json, .equals, depth => do return some (.equals (← run.literal limit json depth))
  | json, .notEquals, depth => do return some (.notEquals (← run.literal limit json depth))
  | .array items, .includesEvery, depth => do
    return some (.includesEvery (← run.literalItems limit items depth))
  | .array items, .includesSome, depth => do
    return some (.includesSome (← run.literalItems limit items depth))
  | .array items, .includesNone, depth => do
    return some (.includesNone (← run.literalItems limit items depth))
  | .object members, .length, depth => do
    return some (.length (← run.call limit (.operators (.object members) depth)
      (operatorMembers members (depth + 1) .empty)))
  | json, op, depth => run.lift (Setting.readAt limit json op depth)

end

end Reader

/-! ## 2. What every way to run keeps -/

/-- A way to run that keeps a relation with the results of the reader, by how many calls are nested
around: from step to step, and into the body of a call that lies within the limit. -/
structure Agrees {m : Type → Type} [Monad m] (run : Reading m) (limit : Nat)
    (Rel : {α : Type} → Nat → m α → Except Error α → Prop) : Prop where
  pure {α : Type} {depth : Nat} (a : α) : Rel depth (pure a) (.ok a)
  lift {α : Type} {depth : Nat} (x : Except Error α) : Rel depth (run.lift x) x
  bind {α β : Type} {depth : Nat} {x : m α} {y : Except Error α} {next : α → m β}
    {next' : α → Except Error β} (h : Rel depth x y) (hnext : ∀ a, Rel depth (next a) (next' a)) :
    Rel depth (x >>= next) (y >>= next')
  call {α : Type} {c : ReaderCall} {body : m α} {body' : Except Error α}
    (within : c.depth ≤ limit + 1) (h : c.depth ≤ limit → Rel (c.depth + 1) body body') :
    Rel c.depth (run.call limit c body) (do checkDepth limit c.depth; body')

namespace Agrees

section Steps

variable {m : Type → Type} [Monad m] {run : Reading m} {limit : Nat}
  {Rel : {α : Type} → Nat → m α → Except Error α → Prop} (h : run.Agrees limit Rel)

include h

theorem returns {α β : Type} {depth : Nat} {x : m α} {y : Except Error α} (hx : Rel depth x y)
    (f : α → β) : Rel depth (do return f (← x)) (do return f (← y)) :=
  h.bind hx fun a => h.pure (f a)

theorem literalItems {depth : Nat} : ∀ {items : List Json},
    (∀ item ∈ items, Rel depth (run.literal limit item depth)
      (Value.readLiteral limit item depth)) →
      Rel depth (run.literalItems limit items depth) (Value.readItems limit items depth)
  | [], _ => by
    rw [Reading.literalItems, Value.readItems]
    exact h.pure []
  | item :: rest, hitems => by
    obtain ⟨hitem, hrest⟩ := List.forall_mem_cons.mp hitems
    rw [Reading.literalItems, Value.readItems]
    exact h.bind hitem fun v => h.returns (literalItems hrest) _

theorem literalEntries {depth : Nat} : ∀ {members : List (String × Json)},
    (∀ m ∈ members, Rel depth (run.literal limit m.2 depth)
      (Value.readLiteral limit m.2 depth)) →
      Rel depth (run.literalEntries limit members depth) (Value.readEntries limit members depth)
  | [], _ => by
    rw [Reading.literalEntries, Value.readEntries]
    exact h.pure []
  | (name, item) :: rest, hmembers => by
    obtain ⟨hitem, hrest⟩ := List.forall_mem_cons.mp hmembers
    rw [Reading.literalEntries, Value.readEntries]
    exact h.bind hitem fun v => h.returns (literalEntries hrest) _

/-- **Literals are read with the relation kept**, one step below the limit at most. -/
theorem literal (json : Json) : ∀ {depth : Nat}, depth ≤ limit + 1 →
    Rel depth (run.literal limit json depth) (Value.readLiteral limit json depth) := by
  induction json using Json.induction with
  | null | bool | number | string =>
    intro depth hd
    rw [Reading.literal, Value.readLiteral]
    · exact h.call (c := .literal _ depth) hd fun _ => h.pure _
    all_goals simp
  | array items ih =>
    intro depth hd
    rw [Reading.literal, Value.readLiteral]
    exact h.call (c := .literal _ depth) hd fun hle =>
      h.returns (h.literalItems fun item hm => ih item hm (Nat.succ_le_succ hle)) _
  | object members ih =>
    intro depth hd
    rw [Reading.literal, Value.readLiteral]
    exact h.call (c := .literal _ depth) hd fun hle =>
      h.returns (h.literalEntries fun m hm => ih m hm (Nat.succ_le_succ hle)) _

end Steps

end Agrees

/-- The relation is kept on a tree by all functions that read documents. -/
structure Keeps {m : Type → Type} [Monad m] (run : Reading m) (limit : Nat)
    (Rel : {α : Type} → Nat → m α → Except Error α → Prop) (json : Json) : Prop where
  expression : ∀ {depth}, depth ≤ limit + 1 →
    Rel depth (run.expression limit json depth) (Expression.readAt limit json depth)
  operand : ∀ {c depth}, depth ≤ limit + 1 →
    Rel depth (run.operand limit json c depth) (Operand.readAt limit json c depth)
  clause : ∀ {depth}, depth ≤ limit + 1 →
    Rel depth (run.clause limit json depth) (Clause.readAt limit json depth)
  setting : ∀ {op depth}, depth ≤ limit + 1 →
    Rel depth (run.setting limit json op depth) (Setting.readAt limit json op depth)

namespace Agrees

section Trees

variable {m : Type → Type} [Monad m] {run : Reading m} {limit : Nat}
  {Rel : {α : Type} → Nat → m α → Except Error α → Prop} (h : run.Agrees limit Rel)

include h

theorem expressionMembers {depth : Nat} (hd : depth ≤ limit + 1) :
    ∀ {members : List (String × Json)}, (∀ m ∈ members, run.Keeps limit Rel m.2) →
      ∀ read : Expression, Rel depth (run.expressionMembers limit members depth read)
        (Expression.readMembers limit members depth read)
  | [], _, read => by
    rw [Reading.expressionMembers, Expression.readMembers]
    exact h.pure read
  | (key, json) :: rest, hmembers, read => by
    obtain ⟨hjson, hrest⟩ := List.forall_mem_cons.mp hmembers
    rw [Reading.expressionMembers, Expression.readMembers]
    cases Combinator.ofKey? key with
    | some c => exact h.bind (hjson.operand hd) fun joined => expressionMembers hd hrest _
    | none =>
      cases isReserved key with
      | true => exact h.lift _
      | false => exact h.bind (hjson.clause hd) fun asked => expressionMembers hd hrest _

theorem operatorMembers {depth : Nat} (hd : depth ≤ limit + 1) :
    ∀ {members : List (String × Json)}, (∀ m ∈ members, run.Keeps limit Rel m.2) →
      ∀ read : OperatorSet, Rel depth (run.operatorMembers limit members depth read)
        (OperatorSet.readMembers limit members depth read)
  | [], _, read => by
    rw [Reading.operatorMembers, OperatorSet.readMembers]
    exact h.pure read
  | (key, json) :: rest, hmembers, read => by
    obtain ⟨hjson, hrest⟩ := List.forall_mem_cons.mp hmembers
    rw [Reading.operatorMembers, OperatorSet.readMembers]
    cases Combinator.ofKey? key with
    | some c => exact h.bind (hjson.operand hd) fun joined => operatorMembers hd hrest _
    | none =>
      cases Operator.ofName? key with
      | none => exact h.lift _
      | some op => exact h.bind (hjson.setting hd) fun found => operatorMembers hd hrest _

theorem operandItems {c : Combinator} {depth : Nat} (hd : depth ≤ limit + 1) :
    ∀ {items : List Json}, (∀ item ∈ items, run.Keeps limit Rel item) →
      Rel depth (run.operandItems limit items c depth) (Operand.readAll limit items c depth)
  | [], _ => by
    rw [Reading.operandItems, Operand.readAll]
    exact h.pure []
  | item :: rest, hitems => by
    obtain ⟨hitem, hrest⟩ := List.forall_mem_cons.mp hitems
    -- The first item that is no object is refused without a call.
    by_cases hk : item.kind = .object
    · obtain ⟨members, rfl⟩ := Json.exists_of_kind_object hk
      have hexpression := hitem.expression hd
      rw [Reading.expression] at hexpression
      rw [Reading.operandItems, Operand.readAll_object]
      exact h.bind hexpression fun e => h.returns (operandItems hd hrest) _
    · have hitems : run.operandItems limit (item :: rest) c depth =
          run.lift (.error (.malformedCombinator c item.kind)) := by
        cases item with
        | object members => exact absurd rfl hk
        | null | bool | number | string | array => rw [Reading.operandItems]; simp
      rw [hitems, Operand.readAll_other hk]
      exact h.lift _

/-- The set of a length is a call; what other operators take is no object, or needs no call. -/
theorem setting {json : Json} {op : Operator} {depth : Nat} (hd : depth ≤ limit + 1)
    (hlength : ∀ members, json = .object members →
      Rel depth (run.call limit (.operators (.object members) depth)
        (run.operatorMembers limit members (depth + 1) .empty))
        (do checkDepth limit depth; OperatorSet.readMembers limit members (depth + 1) .empty)) :
    Rel depth (run.setting limit json op depth) (Setting.readAt limit json op depth) := by
  have hitems : ∀ items : List Json, Rel depth (run.literalItems limit items depth)
      (Value.readItems limit items depth) :=
    fun items => h.literalItems fun item _ => h.literal item hd
  cases op with
  | equals | notEquals =>
    rw [Reading.setting, Setting.readAt]
    exact h.returns (h.literal json hd) _
  | includesEvery | includesSome | includesNone =>
    cases json with
    | array items =>
      rw [Reading.setting, Setting.readAt]
      · exact h.returns (hitems items) _
      · simp
    | null | bool | number | string | object =>
      rw [Reading.setting]
      · exact h.lift _
      all_goals simp
  | length =>
    cases json with
    | object members =>
      have hread : Setting.readAt limit (.object members) .length depth =
          (do return some (.length (← (do
            checkDepth limit depth
            OperatorSet.readMembers limit members (depth + 1) .empty)))) := by
        rw [Setting.readAt]
        cases checkDepth limit depth <;> rfl
      rw [Reading.setting, hread]
      exact h.returns (hlength members rfl) _
    | null | bool | number | string | array =>
      rw [Reading.setting]
      · exact h.lift _
      all_goals simp
  | _ =>
    rw [Reading.setting]
    · exact h.lift _
    all_goals simp

theorem keeps_object {members : List (String × Json)}
    (hmembers : ∀ m ∈ members, run.Keeps limit Rel m.2) :
    run.Keeps limit Rel (.object members) := by
  have hexpression : ∀ {depth}, depth ≤ limit + 1 →
      Rel depth (run.expression limit (.object members) depth)
        (Expression.readAt limit (.object members) depth) := by
    intro depth hd
    rw [Reading.expression, Expression.readAt]
    exact h.call (c := .expression _ depth) hd fun hle =>
      h.expressionMembers (Nat.succ_le_succ hle) hmembers _
  have hset : ∀ {depth}, depth ≤ limit + 1 →
      Rel depth (run.call limit (.operators (.object members) depth)
        (run.operatorMembers limit members (depth + 1) .empty))
        (do checkDepth limit depth; OperatorSet.readMembers limit members (depth + 1) .empty) :=
    fun hd => h.call (c := .operators _ _) hd fun hle =>
      h.operatorMembers (Nat.succ_le_succ hle) hmembers _
  refine ⟨hexpression, fun {c depth} hd => ?_, fun {depth} hd => ?_, fun {op depth} hd => ?_⟩
  · have hcall := hexpression hd
    rw [Reading.expression] at hcall
    rw [Reading.operand, Operand.readAt_object]
    exact h.returns hcall _
  · have hread : Clause.readAt limit (.object members) depth =
        (do return .operators (← (do
          checkDepth limit depth
          OperatorSet.readMembers limit members (depth + 1) .empty))) := by
      rw [Clause.readAt]
      cases checkDepth limit depth <;> rfl
    rw [Reading.clause, hread]
    exact h.returns (hset hd) _
  · exact h.setting hd fun _ hjson => Json.object.inj hjson ▸ hset hd

theorem keeps_other {json : Json} (hobject : json.kind ≠ .object)
    (hitems : ∀ items, json = .array items → ∀ item ∈ items, run.Keeps limit Rel item) :
    run.Keeps limit Rel json := by
  refine ⟨fun {depth} hd => ?_, fun {c depth} hd => ?_, fun {depth} hd => ?_,
    fun {op depth} hd => h.setting hd fun members hjson => absurd (hjson ▸ rfl) hobject⟩
  · cases json with
    | object members => exact absurd rfl hobject
    | null | bool | number | string | array =>
      rw [Reading.expression, Expression.readAt]
      · exact h.call (c := .expression _ depth) hd fun _ => h.lift _
      all_goals simp
  · cases json with
    | object members => exact absurd rfl hobject
    | array items =>
      rw [Reading.operand, Operand.readAt]
      exact h.returns (h.operandItems hd (hitems items rfl)) _
    | null | bool | number | string =>
      rw [Reading.operand]
      · exact h.lift _
      all_goals simp
  · have hclause : run.clause limit json depth =
        (do return .literal (← run.literal limit json depth)) := by
      cases json with
      | object members => exact absurd rfl hobject
      | null | bool | number | string | array => rw [Reading.clause]; simp
    rw [hclause, Clause.readAt_other hobject]
    exact h.returns (h.literal json hd) _

/-- **The relation is kept on every document.** -/
theorem keeps (json : Json) : run.Keeps limit Rel json :=
  Json.documentInduction h.keeps_object h.keeps_other json

end Trees

end Agrees

/-! ## 3. A log of the calls -/

/-- A call with the calls around it, the innermost first and the call itself before them, and how it
ended. -/
structure LoggedCall where
  chain : List ReaderCall
  ending : Except Error Unit

/-- What is run inside some calls logs the calls that it makes. -/
def Logged (α : Type) : Type := List ReaderCall → List LoggedCall × Except Error α

instance : Monad Logged where
  pure a := fun _ => ([], .ok a)
  bind x next := fun around =>
    match x around with
    | (calls, .ok a) => (calls ++ (next a around).1, (next a around).2)
    | (calls, .error error) => (calls, .error error)

/-- Each call is logged with the calls around it. -/
def logged : Reading Logged where
  lift x := fun _ => ([], x)
  enter c body := fun around =>
    let run := body (c :: around)
    (⟨c :: around, run.2.map fun _ => ()⟩ :: run.1, run.2)

/-- No more than `limit + 2` calls are nested, and the innermost of that many is refused for its
depth. -/
def LoggedCall.Within (limit : Nat) (call : LoggedCall) : Prop :=
  call.chain.length ≤ limit + 2 ∧
    (call.chain.length = limit + 2 → call.ending = .error (.depthExceeded limit))

/-- The results are those of the reader, and the calls are nested within the limit. -/
def Logged.Rel (limit : Nat) {α : Type} (depth : Nat) (x : Logged α) (y : Except Error α) : Prop :=
  ∀ around : List ReaderCall, around.length = depth →
    (x around).2 = y ∧ ∀ call ∈ (x around).1, call.Within limit

theorem logged_agrees (limit : Nat) : logged.Agrees limit (Logged.Rel limit) where
  pure a := fun around _ => ⟨rfl, fun _ h => absurd h List.not_mem_nil⟩
  lift x := fun around _ => ⟨rfl, fun _ h => absurd h List.not_mem_nil⟩
  bind {α β depth x y next next'} h hnext := by
    intro around haround
    obtain ⟨hresult, hcalls⟩ := h around haround
    cases hx : x around with
    | mk calls result =>
      rw [hx] at hresult hcalls
      obtain rfl : result = y := hresult
      cases result with
      | error error => simpa only [Bind.bind, Except.bind, hx, true_and] using hcalls
      | ok a =>
        obtain ⟨hresult', hcalls'⟩ := hnext a around haround
        simp only [Bind.bind, Except.bind, hx]
        exact ⟨hresult', List.forall_mem_append.mpr ⟨hcalls, hcalls'⟩⟩
  call {α c body body'} within h := by
    intro around haround
    have hlength : (c :: around).length = c.depth + 1 := congrArg (· + 1) haround
    -- Only a call that is refused makes a chain of full length, and it makes no further call.
    by_cases hd : c.depth ≤ limit
    · obtain ⟨hresult, hcalls⟩ := h hd (c :: around) hlength
      have hcheck : checkDepth limit c.depth = .ok () := checkDepth_ok_iff.mpr hd
      simp only [Reading.call, logged, Bind.bind, Except.bind, hcheck, List.nil_append]
      refine ⟨hresult, List.forall_mem_cons.mpr ⟨⟨?_, fun hfull => ?_⟩, hcalls⟩⟩
      · show (c :: around).length ≤ limit + 2
        omega
      · have hfull' : (c :: around).length = limit + 2 := hfull
        omega
    · have hcheck := checkDepth_exceeded hd
      simp only [Reading.call, logged, Bind.bind, Except.bind, hcheck]
      refine ⟨trivial, List.forall_mem_singleton.mpr ⟨?_, fun _ => rfl⟩⟩
      show (c :: around).length ≤ limit + 2
      omega

/-! ## 4. A number of nested calls -/

/-- What is run with room for some nested calls, and gives up where there is no room. -/
def Fueled (α : Type) : Type := Nat → Option (Except Error α)

instance : Monad Fueled where
  pure a := fun _ => some (.ok a)
  bind x next := fun fuel =>
    match x fuel with
    | some (.ok a) => next a fuel
    | some (.error error) => some (.error error)
    | none => none

/-- Each call takes up room for one. -/
def fueled : Reading Fueled where
  lift x := fun _ => some x
  enter _ body := fun fuel =>
    match fuel with
    | 0 => none
    | fuel + 1 => body fuel

/-- The results are those of the reader wherever there is room up to the limit. -/
def Fueled.Rel (limit : Nat) {α : Type} (depth : Nat) (x : Fueled α) (y : Except Error α) : Prop :=
  ∀ fuel : Nat, limit + 2 ≤ depth + fuel → x fuel = some y

theorem fueled_agrees (limit : Nat) : fueled.Agrees limit (Fueled.Rel limit) where
  pure a := fun _ _ => rfl
  lift x := fun _ _ => rfl
  bind {α β depth x y next next'} h hnext := by
    intro fuel hfuel
    have hx := h fuel hfuel
    cases y with
    | error error => simp only [Bind.bind, Except.bind, hx]
    | ok a =>
      simp only [Bind.bind, Except.bind, hx]
      exact hnext a fuel hfuel
  call {α c body body'} within h := by
    intro fuel hfuel
    -- There is room even for a call that lies one step below the limit and is refused.
    obtain ⟨room, rfl⟩ : ∃ room, fuel = room + 1 := ⟨fuel - 1, by omega⟩
    by_cases hd : c.depth ≤ limit
    · have hcheck : checkDepth limit c.depth = .ok () := checkDepth_ok_iff.mpr hd
      simp only [Reading.call, fueled, Bind.bind, Except.bind, hcheck]
      exact h hd room (by omega)
    · have hcheck := checkDepth_exceeded hd
      simp only [Reading.call, fueled, Bind.bind, Except.bind, hcheck]

end Reading

/-! ## 5. Documents -/

/-- The calls of reading a document, with the result. -/
def Expression.readLog (json : Json) (limits : Limits) :
    List Reading.LoggedCall × Except Error Expression :=
  Reading.logged.expression limits.maxDepth json 0 []

/-- Reads a document with room for some nested calls; nothing when they do not suffice. -/
def Expression.ofJsonWithin (room : Nat) (json : Json) (limits : Limits) :
    Option (Report Expression) :=
  (Reading.fueled.expression limits.maxDepth json 0 room).map Report.ofCheck

/-- **The calls of the reader are nested within the limit**, two more at most. -/
theorem Expression.readLog_within (json : Json) (limit : Nat) :
    (Expression.readLog json ⟨limit⟩).2 = Expression.read json ⟨limit⟩ ∧
      ∀ call ∈ (Expression.readLog json ⟨limit⟩).1, call.Within limit :=
  ((Reading.logged_agrees limit).keeps json).expression (Nat.zero_le _) [] rfl

/-- **So room for two more than the limit is enough.** -/
theorem Expression.ofJsonWithin_eq (json : Json) (limit : Nat) :
    Expression.ofJsonWithin (limit + 2) json ⟨limit⟩ = some (Expression.ofJson json ⟨limit⟩) := by
  have hrun := ((Reading.fueled_agrees limit).keeps json).expression (Nat.zero_le _) (limit + 2)
    (by omega)
  rw [Expression.ofJsonWithin, hrun]
  rfl

end RecordFilter
