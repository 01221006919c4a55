/-
# What is read never fails

An expression that has been read is sound: it passes validation at the depth it was read at, and no
custom predicate occurs in it.  Nothing else can fail, so every question about it is answered, over
every dataset.

Soundness is kept member by member: an expression is read into, one clause or combinator at a time,
and each addition to a sound expression leaves it sound (`Expression.SoundAt.field`,
`Expression.SoundAt.combine`, `OperatorSet.SoundAt.set`).  What is added was read one step deeper,
which is where validation will find it.
-/
import RecordFilter.Proofs.Acceptance
import RecordFilter.Proofs.Formula
import RecordFilter.Proofs.Scans
import RecordFilter.Proofs.Validity

namespace RecordFilter

variable {limit depth : Nat}

/-! ## 1. Soundness -/

/-- The expression passes validation at the depth, and no predicate occurs in it. -/
def Expression.SoundAt (limit depth : Nat) (e : Expression) : Prop :=
  e.validateAt limit depth = .ok () ∧ e.predicates = []

/-- The same for an operator set. -/
def OperatorSet.SoundAt (limit depth : Nat) (ops : OperatorSet) : Prop :=
  ops.validateAt limit depth = .ok () ∧ ops.predicates = []

/-- The same for the clause of a field, whose name must be free. -/
def Clause.SoundAt (limit depth : Nat) (name : String) (clause : Clause) : Prop :=
  isReserved name = false ∧ clause.validateAt limit depth = .ok () ∧ clause.predicates name = []

/-- Every expression of the operand is sound. -/
def Operand.SoundAt (limit depth : Nat) (operand : Operand) : Prop :=
  ∀ e ∈ operand.expressions, e.SoundAt limit depth

/-- What a setting adds to an operator set is sound. -/
def Setting.SoundAt (limit depth : Nat) : Setting → Prop
  | .length ops => ops.SoundAt limit depth
  | .combine _ operand => operand.SoundAt limit depth
  | _ => True

theorem Combinators.predicates_eq_nil_iff {cs : Combinators} :
    cs.predicates = [] ↔ ∀ e ∈ cs.expressions, e.predicates = [] := by
  rw [Combinators.predicates_eq, List.flatMap_eq_nil_iff]

theorem OperatorSet.lengthPredicates_eq_nil_iff {length : Option OperatorSet} :
    OperatorSet.lengthPredicates length = [] ↔ ∀ ops, length = some ops → ops.predicates = [] := by
  cases length with
  | none => simp [OperatorSet.lengthPredicates]
  | some ops => simp [OperatorSet.lengthPredicates]

/-- An expression is sound by its parts. -/
theorem Expression.soundAt_iff {clauses : List (String × Clause)} {combinators : Combinators} :
    (Expression.mk clauses combinators).SoundAt limit depth ↔
      depth ≤ limit ∧ (∀ c ∈ clauses, c.2.SoundAt limit (depth + 1) c.1) ∧
      ∀ e ∈ combinators.expressions, e.SoundAt limit (depth + 1) := by
  unfold Expression.SoundAt Clause.SoundAt
  rw [Expression.validateAt_ok_iff, Expression.predicates, List.append_eq_nil_iff,
    Expression.clausePredicates_eq, List.flatMap_eq_nil_iff, Combinators.predicates_eq_nil_iff]
  constructor
  · rintro ⟨⟨hd, hclauses, hes⟩, hnone, hnone'⟩
    exact ⟨hd, fun c hc => ⟨(hclauses c hc).1, (hclauses c hc).2, hnone c hc⟩,
      fun e he => ⟨hes e he, hnone' e he⟩⟩
  · rintro ⟨hd, hclauses, hes⟩
    exact ⟨⟨hd, fun c hc => ⟨(hclauses c hc).1, (hclauses c hc).2.1⟩, fun e he => (hes e he).1⟩,
      fun c hc => (hclauses c hc).2.2, fun e he => (hes e he).2⟩

/-- So is an operator set. -/
theorem OperatorSet.soundAt_iff {conditions : Conditions} {length : Option OperatorSet}
    {combinators : Combinators} :
    (OperatorSet.mk conditions length combinators).SoundAt limit depth ↔
      depth ≤ limit ∧ (∀ ops, length = some ops → ops.SoundAt limit (depth + 1)) ∧
      ∀ e ∈ combinators.expressions, e.SoundAt limit (depth + 1) := by
  unfold OperatorSet.SoundAt Expression.SoundAt
  rw [OperatorSet.validateAt_ok_iff, OperatorSet.predicates, List.append_eq_nil_iff,
    OperatorSet.lengthPredicates_eq_nil_iff, Combinators.predicates_eq_nil_iff]
  constructor
  · rintro ⟨⟨hd, hlength, hes⟩, hnone, hnone'⟩
    exact ⟨hd, fun ops h => ⟨hlength ops h, hnone ops h⟩, fun e he => ⟨hes e he, hnone' e he⟩⟩
  · rintro ⟨hd, hlength, hes⟩
    exact ⟨⟨hd, fun ops h => (hlength ops h).1, fun e he => (hes e he).1⟩,
      fun ops h => (hlength ops h).2, fun e he => (hes e he).2⟩

/-! ## 2. Adding to what is sound -/

theorem Expression.soundAt_empty (hd : depth ≤ limit) : Expression.empty.SoundAt limit depth :=
  Expression.soundAt_iff.mpr ⟨hd, fun _ h => by simp at h, fun _ h => by
    simp [Combinators.expressions, Combinators.empty] at h⟩

theorem OperatorSet.soundAt_empty (hd : depth ≤ limit) : OperatorSet.empty.SoundAt limit depth :=
  OperatorSet.soundAt_iff.mpr ⟨hd, fun _ h => by simp at h, fun _ h => by
    simp [Combinators.expressions, Combinators.empty] at h⟩

theorem Expression.SoundAt.field {e : Expression} (h : e.SoundAt limit depth) {name : String}
    {clause : Clause} (hclause : clause.SoundAt limit (depth + 1) name) :
    (e.field name clause).SoundAt limit depth := by
  obtain ⟨clauses, combinators⟩ := e
  obtain ⟨hd, hclauses, hes⟩ := Expression.soundAt_iff.mp h
  refine Expression.soundAt_iff.mpr ⟨hd, fun c hc => ?_, hes⟩
  rcases Entries.mem_put hc with rfl | hc
  · exact hclause
  · exact hclauses c hc

theorem Expression.SoundAt.combine {e : Expression} (h : e.SoundAt limit depth) (c : Combinator)
    {operand : Operand} (hoperand : operand.SoundAt limit (depth + 1)) :
    (e.combine c operand).SoundAt limit depth := by
  obtain ⟨clauses, combinators⟩ := e
  obtain ⟨hd, hclauses, hes⟩ := Expression.soundAt_iff.mp h
  refine Expression.soundAt_iff.mpr ⟨hd, hclauses, fun x hx => ?_⟩
  rcases Combinators.mem_expressions_set hx with hx | hx
  · exact hoperand x hx
  · exact hes x hx

theorem OperatorSet.SoundAt.set {ops : OperatorSet} (h : ops.SoundAt limit depth)
    {setting : Setting} (hsetting : setting.SoundAt limit (depth + 1)) :
    (ops.set setting).SoundAt limit depth := by
  obtain ⟨conditions, length, combinators⟩ := ops
  obtain ⟨hd, hlength, hes⟩ := OperatorSet.soundAt_iff.mp h
  cases setting with
  | length inner =>
    exact OperatorSet.soundAt_iff.mpr ⟨hd, fun _ h => Option.some.inj h ▸ hsetting, hes⟩
  | combine c operand =>
    refine OperatorSet.soundAt_iff.mpr ⟨hd, hlength, fun x hx => ?_⟩
    rcases Combinators.mem_expressions_set hx with hx | hx
    · exact hsetting x hx
    · exact hes x hx
  | _ => exact OperatorSet.soundAt_iff.mpr ⟨hd, hlength, hes⟩

/-! ## 3. What is read is sound -/

/-- Whatever is read from a tree is sound where it was read. -/
structure Json.ReadsSound (limit : Nat) (json : Json) : Prop where
  expression : ∀ {depth e}, Expression.readAt limit json depth = .ok e → e.SoundAt limit depth
  operand : ∀ {c depth operand}, Operand.readAt limit json c depth = .ok operand →
    operand.SoundAt limit depth
  clause : ∀ {depth clause}, Clause.readAt limit json depth = .ok clause →
    ∀ {name}, isReserved name = false → clause.SoundAt limit depth name
  setting : ∀ {op depth setting}, Setting.readAt limit json op depth = .ok (some setting) →
    setting.SoundAt limit depth

/-- The members of an expression are added one by one, and each leaves it sound. -/
theorem Expression.readMembers_sound : ∀ {members : List (String × Json)},
    (∀ m ∈ members, m.2.ReadsSound limit) → ∀ {read e : Expression}, read.SoundAt limit depth →
      Expression.readMembers limit members (depth + 1) read = .ok e → e.SoundAt limit depth
  | [], _, read, e, hread, h => by
    rw [Expression.readMembers] at h
    exact Except.ok.inj h ▸ hread
  | (key, json) :: rest, hsound, read, e, hread, h => by
    have hjson : json.ReadsSound limit := hsound (key, json) List.mem_cons_self
    have hrest : ∀ m ∈ rest, m.2.ReadsSound limit :=
      fun m hm => hsound m (List.mem_cons_of_mem _ hm)
    rw [Expression.readMembers] at h
    split at h
    next c _ =>
      obtain ⟨operand, hoperand, h⟩ := bind_eq_ok_iff.mp h
      exact Expression.readMembers_sound hrest (hread.combine c (hjson.operand hoperand)) h
    next =>
      split at h
      next => simp at h
      next hfree =>
        obtain ⟨clause, hclause, h⟩ := bind_eq_ok_iff.mp h
        have hname : isReserved key = false := Bool.eq_false_iff.mpr hfree
        exact Expression.readMembers_sound hrest (hread.field (hjson.clause hclause hname)) h

/-- So are the members of an operator set. -/
theorem OperatorSet.readMembers_sound : ∀ {members : List (String × Json)},
    (∀ m ∈ members, m.2.ReadsSound limit) → ∀ {read ops : OperatorSet}, read.SoundAt limit depth →
      OperatorSet.readMembers limit members (depth + 1) read = .ok ops → ops.SoundAt limit depth
  | [], _, read, ops, hread, h => by
    rw [OperatorSet.readMembers] at h
    exact Except.ok.inj h ▸ hread
  | (key, json) :: rest, hsound, read, ops, hread, h => by
    have hjson : json.ReadsSound limit := hsound (key, json) List.mem_cons_self
    have hrest : ∀ m ∈ rest, m.2.ReadsSound limit :=
      fun m hm => hsound m (List.mem_cons_of_mem _ hm)
    rw [OperatorSet.readMembers] at h
    split at h
    next c _ =>
      obtain ⟨operand, hoperand, h⟩ := bind_eq_ok_iff.mp h
      exact OperatorSet.readMembers_sound hrest
        (hread.set (show (Setting.combine c operand).SoundAt limit (depth + 1) from
          hjson.operand hoperand)) h
    next =>
      split at h
      next => simp at h
      next op _ =>
        obtain ⟨setting, hsetting, h⟩ := bind_eq_ok_iff.mp h
        cases setting with
        | none => exact OperatorSet.readMembers_sound hrest hread h
        | some setting =>
          exact OperatorSet.readMembers_sound hrest (hread.set (hjson.setting hsetting)) h

theorem Operand.readAll_sound {c : Combinator} : ∀ {items : List Json},
    (∀ item ∈ items, item.ReadsSound limit) → ∀ {es : List Expression},
      Operand.readAll limit items c depth = .ok es → ∀ e ∈ es, e.SoundAt limit depth
  | [], _, es, h => by
    rw [Operand.readAll] at h
    obtain rfl := Except.ok.inj h
    exact fun _ he => by simp at he
  | item :: rest, hsound, es, h => by
    have hitem : item.ReadsSound limit := hsound item List.mem_cons_self
    have hrest : ∀ j ∈ rest, j.ReadsSound limit := fun j hj => hsound j (List.mem_cons_of_mem _ hj)
    by_cases hk : item.kind = .object
    · obtain ⟨members, rfl⟩ := Json.exists_of_kind_object hk
      rw [Operand.readAll_object] at h
      obtain ⟨e, he, h⟩ := bind_eq_ok_iff.mp h
      obtain ⟨others, hothers, rfl⟩ := return_eq_ok_iff.mp h
      exact List.forall_mem_cons.mpr
        ⟨hitem.expression he, Operand.readAll_sound hrest hothers⟩
    · rw [Operand.readAll_other hk] at h
      simp at h

/-- Apart from the set of a length, what an operator takes holds no expression. -/
theorem Setting.readAt_sound {json : Json} {op : Operator} {setting : Setting}
    (hlength : ∀ members, json = .object members → depth ≤ limit → ∀ ops,
      OperatorSet.readMembers limit members (depth + 1) .empty = .ok ops → ops.SoundAt limit depth)
    (h : Setting.readAt limit json op depth = .ok (some setting)) :
    setting.SoundAt limit depth := by
  cases op with
  | length =>
    cases json with
    | object members =>
      rw [Setting.readAt] at h
      obtain ⟨⟨⟩, hd, h⟩ := bind_eq_ok_iff.mp h
      obtain ⟨ops, hops, hsetting⟩ := return_eq_ok_iff.mp h
      obtain rfl := Option.some.inj hsetting
      exact hlength members rfl (checkDepth_ok_iff.mp hd) ops hops
    | null | bool | number | string | array => simp [Setting.readAt] at h
  | _ =>
    -- Values, texts, numbers and patterns hold nothing that could be unsound.
    cases json <;>
      simp only [Setting.readAt, return_eq_ok_iff, Option.some.injEq, Except.ok.injEq,
        reduceCtorEq] at h <;>
      obtain ⟨_, _, rfl⟩ := h <;> trivial

theorem Json.readsSound_object {members : List (String × Json)}
    (hmembers : ∀ m ∈ members, m.2.ReadsSound limit) : (Json.object members).ReadsSound limit := by
  have hexpression : ∀ {depth e}, Expression.readAt limit (.object members) depth = .ok e →
      e.SoundAt limit depth := by
    intro depth e h
    rw [Expression.readAt] at h
    obtain ⟨⟨⟩, hd, h⟩ := bind_eq_ok_iff.mp h
    have hempty := Expression.soundAt_empty (checkDepth_ok_iff.mp hd)
    exact Expression.readMembers_sound hmembers hempty h
  have hset : ∀ depth, depth ≤ limit → ∀ ops,
      OperatorSet.readMembers limit members (depth + 1) .empty = .ok ops →
        ops.SoundAt limit depth :=
    fun _ hd _ h => OperatorSet.readMembers_sound hmembers (OperatorSet.soundAt_empty hd) h
  refine ⟨hexpression, ?_, ?_, ?_⟩
  · intro c depth operand h
    rw [Operand.readAt_object] at h
    obtain ⟨e, he, rfl⟩ := return_eq_ok_iff.mp h
    exact fun x hx => List.mem_singleton.mp hx ▸ hexpression he
  · intro depth clause h name hname
    rw [Clause.readAt] at h
    obtain ⟨⟨⟩, hd, h⟩ := bind_eq_ok_iff.mp h
    obtain ⟨ops, hops, rfl⟩ := return_eq_ok_iff.mp h
    have hsound := hset depth (checkDepth_ok_iff.mp hd) ops hops
    exact ⟨hname, hsound⟩
  · intro op depth setting h
    refine Setting.readAt_sound (fun _ hjson hd ops hops => ?_) h
    obtain rfl := Json.object.inj hjson
    exact hset depth hd ops hops

theorem Json.readsSound_other {json : Json} (hobject : json.kind ≠ .object)
    (hitems : ∀ items, json = .array items → ∀ item ∈ items, item.ReadsSound limit) :
    json.ReadsSound limit := by
  refine ⟨?_, ?_, ?_, ?_⟩
  · intro depth e h
    exact absurd (isOk_iff.mpr ⟨e, h⟩) (Expression.readAt_other hobject depth)
  · intro c depth operand h
    cases json with
    | object members => exact absurd rfl hobject
    | array items =>
      rw [Operand.readAt] at h
      obtain ⟨es, hes, rfl⟩ := return_eq_ok_iff.mp h
      exact Operand.readAll_sound (hitems items rfl) hes
    | null | bool | number | string => simp [Operand.readAt] at h
  · intro depth clause h name hname
    rw [Clause.readAt_other hobject] at h
    obtain ⟨v, _, rfl⟩ := return_eq_ok_iff.mp h
    exact ⟨hname, rfl, rfl⟩
  · intro op depth setting h
    exact Setting.readAt_sound (fun members hjson => absurd (hjson ▸ rfl) hobject) h

/-- **Every tree is read soundly.** -/
theorem Json.readsSound (json : Json) : json.ReadsSound limit :=
  Json.documentInduction Json.readsSound_object Json.readsSound_other json

/-! ## 4. What is sound never fails -/

/-- Every question about the expression is answered over the dataset. -/
structure Expression.NeverFails (e : Expression) (dataset : List Record) (limits : Limits) :
    Prop where
  filterIndices : ∃ found, (e.filterIndices dataset limits).result = .ok found
  filter : ∃ found, (e.filter dataset limits).result = .ok found
  count : ∃ n, (e.count dataset limits).result = .ok n
  any : ∃ b, (e.any dataset limits).result = .ok b
  all : ∃ b, (e.all dataset limits).result = .ok b
  find : ∃ found, (e.find dataset limits).result = .ok found
  position : ∃ found, (e.position dataset limits).result = .ok found
  matchesAt : ∀ index, ∃ b, (e.matchesAt dataset index limits).result = .ok b

section Sound

variable {e : Expression} {limits : Limits}

/-- Without predicates, the formula is the verdict. -/
theorem Expression.resultAt_formula (h : e.predicates = []) (dataset : List Record) (index : Nat) :
    e.resultAt dataset index = .ok ((Scope.at? dataset index).any e.formula) := by
  unfold Expression.resultAt Scope.at?
  cases dataset[index]? with
  | none => rfl
  | some record =>
    have answers : Scope.AllAnswer ⟨dataset, index, record⟩ e.predicates := by
      rw [h]
      exact fun o ho => by simp at ho
    have houtcome := (Expression.evaluate_outcome _).1 e answers
    simp only [Evaluation.result, houtcome]
    rfl

theorem Expression.resultAt_ok (h : e.predicates = []) (dataset : List Record) (index : Nat) :
    ∃ isMatch, e.resultAt dataset index = .ok isMatch :=
  ⟨_, Expression.resultAt_formula h dataset index⟩

theorem Expression.SoundAt.matchesAt_result (h : e.SoundAt limits.maxDepth 0)
    (dataset : List Record) (index : Nat) :
    (e.matchesAt dataset index limits).result = .ok ((Scope.at? dataset index).any e.formula) :=
  (Expression.matchesAt_ends dataset h.1 index).1.trans (Expression.resultAt_formula h.2 ..)

theorem Expression.SoundAt.neverFails (h : e.SoundAt limits.maxDepth 0) (dataset : List Record) :
    e.NeverFails dataset limits := by
  have hcheck : e.check limits = .ok () := h.1
  have hall : ∀ i < dataset.length, ∃ isMatch, e.resultAt dataset i = .ok isMatch :=
    fun i _ => Expression.resultAt_ok h.2 dataset i
  have hfilter := Expression.filterIndices_collects dataset hcheck
  have hmatch := Expression.first_seeks dataset hcheck true
  have hmiss := Expression.first_seeks dataset hcheck false
  exact {
    filterIndices := hfilter.ok_iff.mpr hall
    filter := (hfilter.map _).ok_iff.mpr hall
    count := (hfilter.map _).ok_iff.mpr hall
    any := ⟨_, (hmatch.map _).result_match hall⟩
    all := ⟨_, (hmiss.map _).result_miss hall⟩
    find := ⟨_, (hmatch.map _).result_match hall⟩
    position := ⟨_, hmatch.result_match hall⟩
    matchesAt := fun index => ⟨_, h.matchesAt_result dataset index⟩ }

end Sound

/-! ## 5. Documents -/

/-- **What is read never fails.**  An expression that was read under limits is valid under them, and
every question about it over any dataset is answered. -/
theorem Expression.ofJson_neverFails (json : Json) (limits : Limits) (e : Expression)
    (h : (Expression.ofJson json limits).result = .ok e) :
    (e.validate limits).result = .ok () ∧ ∀ dataset, e.NeverFails dataset limits := by
  have hread : json.ReadsSound limits.maxDepth := Json.readsSound json
  rw [Expression.ofJson_result] at h
  have hsound := hread.expression h
  exact ⟨((Expression.validate_ends e limits).1).trans hsound.1, hsound.neverFails⟩

/-- A document with a set for a length, a combinator in that set and a list under another. -/
def Json.severalTags : Json :=
  .object [
    ("tags", .object [("length", .object [
      ("greaterThan", .number (.integer ⟨1, by decide, by decide⟩)),
      ("$AND", .object [("name", .null)])])]),
    ("$NOT", .array [.object [("name", .string "x")], .object []])]

theorem Expression.severalTags_neverFails :
    ∃ e, (Expression.ofJson Json.severalTags ⟨4⟩).result = .ok e ∧
      (e.validate ⟨4⟩).result = .ok () ∧ ∀ dataset, e.NeverFails dataset ⟨4⟩ := by
  have hread : (Expression.ofJson Json.severalTags ⟨4⟩).result.isOk = true := by decide
  obtain ⟨e, h⟩ := isOk_iff.mp hread
  exact ⟨e, h, Expression.ofJson_neverFails Json.severalTags ⟨4⟩ e h⟩

end RecordFilter
