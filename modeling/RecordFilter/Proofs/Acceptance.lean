/-
# Reading accepts exactly the grammar

A document is read under a depth limit, key by key, and the first fault ends the reading.  Whether
there is a fault does not depend on that order: the reading succeeds exactly when the document is an
expression by the grammar and its depth is within the limit.

The functions that read call each other on the parts of a tree.  `Json.ReadAsWritten` says of one
tree that all of them succeed on it exactly when the grammar and the depth allow; it passes from
the parts to the whole, and so holds of every tree.  A part is read one step below a holder whose
own depth has been checked, so the lemmas assume that of the holder.
-/
import RecordFilter.Proofs.Grammar
import RecordFilter.Proofs.Results

namespace RecordFilter

/-! ## 1. Literals -/

section Literals

variable {limit : Nat}

theorem Value.readItems_isOk_iff : ∀ {items : List Json}, (∀ item ∈ items, ∀ depth,
      (Value.readLiteral limit item depth).isOk = true ↔ depth + item.literalDepth ≤ limit) →
    ∀ {depth : Nat}, depth ≤ limit →
      ((Value.readItems limit items (depth + 1)).isOk = true ↔
        depth + Json.literalItemsDepth items ≤ limit)
  | [], _, depth, hd => by
    rw [Value.readItems, Json.literalItemsDepth]
    exact ⟨fun _ => hd, fun _ => rfl⟩
  | item :: rest, h, depth, hd => by
    have hrest := Value.readItems_isOk_iff (fun j hj => h j (List.mem_cons_of_mem _ hj)) hd
    rw [Value.readItems, isOk_bind_iff fun _ => isOk_return_iff.trans hrest,
      h item List.mem_cons_self, Json.literalItemsDepth]
    omega

theorem Value.readEntries_isOk_iff : ∀ {members : List (String × Json)}, (∀ m ∈ members, ∀ depth,
      (Value.readLiteral limit m.2 depth).isOk = true ↔ depth + m.2.literalDepth ≤ limit) →
    ∀ {depth : Nat}, depth ≤ limit →
      ((Value.readEntries limit members (depth + 1)).isOk = true ↔
        depth + Json.literalMembersDepth members ≤ limit)
  | [], _, depth, hd => by
    rw [Value.readEntries, Json.literalMembersDepth]
    exact ⟨fun _ => hd, fun _ => rfl⟩
  | (name, item) :: rest, h, depth, hd => by
    have hrest := Value.readEntries_isOk_iff (fun m hm => h m (List.mem_cons_of_mem _ hm)) hd
    have hitem : (Value.readLiteral limit item (depth + 1)).isOk = true ↔
        depth + 1 + item.literalDepth ≤ limit := h (name, item) List.mem_cons_self (depth + 1)
    rw [Value.readEntries, isOk_bind_iff fun _ => isOk_return_iff.trans hrest, hitem,
      Json.literalMembersDepth]
    omega

/-- **A literal is refused for its depth alone.** -/
theorem Value.readLiteral_isOk_iff (json : Json) : ∀ depth : Nat,
    (Value.readLiteral limit json depth).isOk = true ↔ depth + json.literalDepth ≤ limit := by
  induction json using Json.induction with
  | null | bool | number | string =>
    intro depth
    rw [Value.readLiteral, checkDepth_bind_isOk_iff]
    simp [Json.literalDepth, pure, Except.pure]
  | array items ih =>
    intro depth
    rw [Value.readLiteral, Json.literalDepth]
    exact checked_isOk_iff (by omega) fun hd =>
      isOk_return_iff.trans (Value.readItems_isOk_iff ih hd)
  | object members ih =>
    intro depth
    rw [Value.readLiteral, Json.literalDepth]
    exact checked_isOk_iff (by omega) fun hd =>
      isOk_return_iff.trans (Value.readEntries_isOk_iff ih hd)

end Literals

/-! ## 2. One tree -/

/-- All functions that read succeed on a tree exactly when the grammar and the depth allow. -/
structure Json.ReadAsWritten (limit : Nat) (json : Json) : Prop where
  expression : ∀ depth, (Expression.readAt limit json depth).isOk = true ↔
    json.IsExpression ∧ depth + json.expressionDepth ≤ limit
  operand : ∀ c depth, depth ≤ limit →
    ((Operand.readAt limit json c (depth + 1)).isOk = true ↔
      json.IsOperand ∧ depth + json.operandDepth ≤ limit)
  clause : ∀ depth, depth ≤ limit →
    ((Clause.readAt limit json (depth + 1)).isOk = true ↔
      (json.kind ≠ .object ∨ json.IsOperatorSet) ∧ depth + json.clauseDepth ≤ limit)
  setting : ∀ op depth, depth ≤ limit →
    ((Setting.readAt limit json op (depth + 1)).isOk = true ↔
      (op.Takes json ∨ json = .null ∨ (op = .length ∧ json.IsOperatorSet)) ∧
        depth + json.settingDepth op ≤ limit)

/-- Two parts below one holder are allowed together when both are. -/
theorem and_within_iff {A B : Prop} {depth a b limit : Nat} :
    (A ∧ depth + a ≤ limit) ∧ (B ∧ depth + b ≤ limit) ↔
      (A ∧ B) ∧ depth + max a b ≤ limit := by
  constructor
  · rintro ⟨⟨hA, ha⟩, hB, hb⟩
    exact ⟨⟨hA, hB⟩, by omega⟩
  · rintro ⟨⟨hA, hB⟩, h⟩
    exact ⟨⟨hA, by omega⟩, hB, by omega⟩

section Parts

variable {limit : Nat}

theorem Expression.readMembers_isOk_iff : ∀ {members : List (String × Json)},
    (∀ m ∈ members, m.2.ReadAsWritten limit) → ∀ {depth : Nat}, depth ≤ limit →
      ∀ read : Expression, (Expression.readMembers limit members (depth + 1) read).isOk = true ↔
        (∀ m ∈ members, Json.IsExpressionMember m.1 m.2) ∧
          depth + Json.expressionMembersDepth members ≤ limit
  | [], _, depth, hd, read => by
    rw [Expression.readMembers, Json.expressionMembersDepth]
    exact ⟨fun _ => ⟨by simp, hd⟩, fun _ => rfl⟩
  | (key, json) :: rest, h, depth, hd, read => by
    have hjson : json.ReadAsWritten limit := h (key, json) List.mem_cons_self
    have hrest := Expression.readMembers_isOk_iff (fun m hm => h m (List.mem_cons_of_mem _ hm)) hd
    rw [Expression.readMembers, Json.expressionMembersDepth, List.forall_mem_cons]
    cases hkey : Combinator.ofKey? key with
    | some c =>
      simp only [Option.isSome_some, if_true, Json.isExpressionMember_combinator_iff hkey]
      rw [isOk_bind_iff fun _ => hrest _, hjson.operand c depth hd, and_within_iff]
    | none =>
      simp only [Option.isSome_none, Json.isExpressionMember_field_iff hkey]
      cases hreserved : isReserved key with
      | true => simp
      | false =>
        simp only [Bool.false_eq_true, if_false, true_and]
        rw [isOk_bind_iff fun _ => hrest _, hjson.clause depth hd, and_within_iff]

theorem OperatorSet.readMembers_isOk_iff : ∀ {members : List (String × Json)},
    (∀ m ∈ members, m.2.ReadAsWritten limit) → ∀ {depth : Nat}, depth ≤ limit →
      ∀ read : OperatorSet, (OperatorSet.readMembers limit members (depth + 1) read).isOk = true ↔
        (∀ m ∈ members, Json.IsOperatorSetMember m.1 m.2) ∧
          depth + Json.operatorSetMembersDepth members ≤ limit
  | [], _, depth, hd, read => by
    rw [OperatorSet.readMembers, Json.operatorSetMembersDepth]
    exact ⟨fun _ => ⟨by simp, hd⟩, fun _ => rfl⟩
  | (key, json) :: rest, h, depth, hd, read => by
    have hjson : json.ReadAsWritten limit := h (key, json) List.mem_cons_self
    have hrest := OperatorSet.readMembers_isOk_iff (fun m hm => h m (List.mem_cons_of_mem _ hm)) hd
    rw [OperatorSet.readMembers, Json.operatorSetMembersDepth, List.forall_mem_cons]
    cases hkey : Combinator.ofKey? key with
    | some c =>
      simp only [Option.isSome_some, if_true, Json.isOperatorSetMember_combinator_iff hkey]
      rw [isOk_bind_iff fun _ => hrest _, hjson.operand c depth hd, and_within_iff]
    | none =>
      cases hname : Operator.ofName? key with
      | none => simp [Json.not_isOperatorSetMember hkey hname]
      | some op =>
        simp only [Option.isSome_none, Bool.false_eq_true, if_false, Option.elim_some,
          Json.isOperatorSetMember_operator_iff hkey hname]
        rw [isOk_bind_iff fun _ => hrest _, hjson.setting op depth hd, and_within_iff]

/-- An object under a combinator is read as an expression. -/
theorem Operand.readAt_object (members : List (String × Json)) (c : Combinator) (depth : Nat) :
    Operand.readAt limit (.object members) c depth =
      (do return .single (← Expression.readAt limit (.object members) depth)) := by
  rw [Operand.readAt, Expression.readAt]
  cases checkDepth limit depth <;> rfl

/-- So is an object in a list under a combinator. -/
theorem Operand.readAll_object (members : List (String × Json)) (rest : List Json) (c : Combinator)
    (depth : Nat) :
    Operand.readAll limit (.object members :: rest) c depth =
      (do
        let e ← Expression.readAt limit (.object members) depth
        return e :: (← Operand.readAll limit rest c depth)) := by
  rw [Operand.readAll, Expression.readAt]
  cases checkDepth limit depth <;> rfl

/-- Anything else in such a list is a fault. -/
theorem Operand.readAll_other {item : Json} (h : item.kind ≠ .object) (rest : List Json)
    (c : Combinator) (depth : Nat) :
    Operand.readAll limit (item :: rest) c depth = .error (.malformedCombinator c item.kind) := by
  cases item with
  | object members => exact absurd rfl h
  | null | bool | number | string | array => rw [Operand.readAll]; simp

theorem Operand.readAll_isOk_iff (c : Combinator) : ∀ {items : List Json},
    (∀ item ∈ items, item.ReadAsWritten limit) → ∀ {depth : Nat}, depth ≤ limit →
      ((Operand.readAll limit items c (depth + 1)).isOk = true ↔
        (∀ item ∈ items, item.IsExpression) ∧ depth + Json.operandItemsDepth items ≤ limit)
  | [], _, depth, hd => by
    rw [Operand.readAll, Json.operandItemsDepth]
    exact ⟨fun _ => ⟨by simp, hd⟩, fun _ => rfl⟩
  | item :: rest, h, depth, hd => by
    have hitem : item.ReadAsWritten limit := h item List.mem_cons_self
    have hrest := Operand.readAll_isOk_iff c (fun j hj => h j (List.mem_cons_of_mem _ hj)) hd
    rw [Json.operandItemsDepth, List.forall_mem_cons, ← and_within_iff, ← hrest]
    by_cases hk : item.kind = .object
    · obtain ⟨members, rfl⟩ := Json.exists_of_kind_object hk
      rw [Operand.readAll_object, isOk_bind_iff fun _ => isOk_return_iff, hitem.expression,
        Nat.add_assoc]
    · rw [Operand.readAll_other hk]
      exact ⟨fun hok => absurd hok not_isOk_error,
        fun hall => absurd hall.1.1 (Json.not_isExpression hk)⟩

/-! ## 3. From the parts to the whole -/

theorem Expression.readAt_other {json : Json} (h : json.kind ≠ .object) (depth : Nat) :
    ¬ (Expression.readAt limit json depth).isOk = true := by
  cases json with
  | object members => exact absurd rfl h
  | null | bool | number | string | array =>
    rw [Expression.readAt, checkDepth_bind_isOk_iff]
    · exact fun hok => not_isOk_error hok.2
    · simp

theorem Clause.readAt_other {json : Json} (h : json.kind ≠ .object) (depth : Nat) :
    Clause.readAt limit json depth =
      (do return .literal (← Value.readLiteral limit json depth)) := by
  cases json with
  | object members => exact absurd rfl h
  | null | bool | number | string | array => rw [Clause.readAt]; simp

theorem Json.clauseDepth_other {json : Json} (h : json.kind ≠ .object) :
    json.clauseDepth = 1 + json.literalDepth := by
  cases json with
  | object members => exact absurd rfl h
  | null | bool | number | string | array => rw [Json.clauseDepth]; simp

theorem Setting.readAt_isOk_iff {json : Json}
    (hlength : ∀ members, json = .object members → ∀ depth, depth ≤ limit →
      ((OperatorSet.readMembers limit members (depth + 1) .empty).isOk = true ↔
        json.IsOperatorSet ∧ depth + Json.operatorSetMembersDepth members ≤ limit))
    (op : Operator) {depth : Nat} (hd : depth ≤ limit) :
    (Setting.readAt limit json op (depth + 1)).isOk = true ↔
      (op.Takes json ∨ json = .null ∨ (op = .length ∧ json.IsOperatorSet)) ∧
        depth + json.settingDepth op ≤ limit := by
  cases op with
  | equals | notEquals =>
    rw [Setting.readAt, isOk_return_iff, Value.readLiteral_isOk_iff, Json.settingDepth]
    simp only [Operator.Takes, true_or, true_and]
    omega
  | includes | startsWith | endsWith =>
    cases json <;>
      simp [Setting.readAt, Operator.readString, Operator.Takes, Json.settingDepth, hd]
  | caseInsensitive =>
    cases json <;>
      simp [Setting.readAt, Operator.readBool, Operator.Takes, Json.settingDepth, hd]
  | matchesPattern =>
    cases json with
    | string s =>
      cases hp : Pattern.compile? s <;>
        simp [Setting.readAt, Operator.readPattern, Operator.readString, Operator.Takes,
          Json.settingDepth, bind, Except.bind, pure, Except.pure, hp, hd]
    | null | bool | number | array | object =>
      simp [Setting.readAt, Operator.readPattern, Operator.readString, Operator.Takes,
        Json.settingDepth, bind, Except.bind, hd]
  | greaterThan | greaterThanOrEqual | lessThan | lessThanOrEqual =>
    cases json <;>
      simp [Setting.readAt, Operator.readBound, Operator.Takes, Json.settingDepth, hd]
  | includesEvery | includesSome | includesNone =>
    cases json with
    | array items =>
      rw [Setting.readAt, isOk_return_iff, Operator.readList, Value.readItems_isOk_iff
        (fun item _ => Value.readLiteral_isOk_iff item) hd, Json.settingDepth]
      · simp [Operator.Takes]
      · simp
    | null | bool | number | string | object =>
      simp [Setting.readAt, Operator.readList, Operator.Takes, Json.settingDepth, hd]
  | length =>
    have hkind : json.IsOperatorSet → json.kind = .object := Json.IsOperatorSet.kind_eq
    cases json with
    | object members =>
      have hshape : (Operator.length.Takes (.object members) ∨ Json.object members = .null ∨
          (Operator.length = .length ∧ (Json.object members).IsOperatorSet)) ↔
          (Json.object members).IsOperatorSet := by simp [Operator.Takes]
      rw [Setting.readAt, Json.settingDepth, hshape, ← Nat.add_assoc]
      exact checked_isOk_iff (by omega) fun hd' =>
        isOk_return_iff.trans (hlength members rfl (depth + 1) hd')
    | null | bool | number | string | array =>
      simp only [Json.kind, reduceCtorEq, imp_false] at hkind
      simp [Setting.readAt, Operator.Takes, Json.settingDepth, hd, hkind]

/-- **An object is read as written**, if its members are. -/
theorem Json.readAsWritten_object {members : List (String × Json)}
    (h : ∀ m ∈ members, m.2.ReadAsWritten limit) : (Json.object members).ReadAsWritten limit := by
  have hexpression : ∀ depth, (Expression.readAt limit (.object members) depth).isOk = true ↔
      (Json.object members).IsExpression ∧
        depth + (Json.object members).expressionDepth ≤ limit := by
    intro depth
    rw [Expression.readAt, Json.isExpression_object_iff, Json.expressionDepth]
    exact checked_isOk_iff (by omega) fun hd => Expression.readMembers_isOk_iff h hd _
  have hset : ∀ depth, depth ≤ limit →
      ((OperatorSet.readMembers limit members (depth + 1) .empty).isOk = true ↔
        (Json.object members).IsOperatorSet ∧
          depth + Json.operatorSetMembersDepth members ≤ limit) := by
    intro depth hd
    rw [Json.isOperatorSet_object_iff]
    exact OperatorSet.readMembers_isOk_iff h hd _
  refine ⟨hexpression, fun c depth hd => ?_, fun depth hd => ?_, fun op depth hd => ?_⟩
  · rw [Operand.readAt_object, isOk_return_iff, hexpression, Json.isOperand_object_iff,
      Json.expressionDepth, Json.operandDepth, ← Nat.add_assoc]
  · have hshape : (Json.object members).kind ≠ .object ∨ (Json.object members).IsOperatorSet ↔
        (Json.object members).IsOperatorSet := by simp [Json.kind]
    rw [Clause.readAt, Json.clauseDepth, hshape, ← Nat.add_assoc]
    exact checked_isOk_iff (by omega) fun hd' => isOk_return_iff.trans (hset (depth + 1) hd')
  · exact Setting.readAt_isOk_iff (fun _ h => Json.object.inj h ▸ hset) op hd

/-- **What is no object is read as written**, if it is no array or its items are. -/
theorem Json.readAsWritten_other {json : Json} (hobject : json.kind ≠ .object)
    (hitems : ∀ items, json = .array items → ∀ item ∈ items, item.ReadAsWritten limit) :
    json.ReadAsWritten limit := by
  have hnot : ∀ members, json ≠ .object members := fun members h => hobject (h ▸ rfl)
  refine ⟨fun depth => ?_, fun c depth hd => ?_, fun depth hd => ?_, fun op depth hd => ?_⟩
  · exact ⟨fun hok => absurd hok (Expression.readAt_other hobject depth),
      fun h => absurd h.1 (Json.not_isExpression hobject)⟩
  · cases json with
    | object members => exact absurd rfl hobject
    | array items =>
      rw [Operand.readAt, isOk_return_iff, Operand.readAll_isOk_iff c (hitems items rfl) hd,
        Json.isOperand_array_iff, Json.operandDepth]
    | null | bool | number | string =>
      have hno := Json.not_isOperand hobject (by simp [Json.kind])
      simp [Operand.readAt, hno]
  · rw [Clause.readAt_other hobject, isOk_return_iff, Value.readLiteral_isOk_iff,
      Json.clauseDepth_other hobject, ← Nat.add_assoc]
    exact ⟨fun h => ⟨.inl hobject, h⟩, fun h => h.2⟩
  · exact Setting.readAt_isOk_iff (fun members h => absurd h (hnot members)) op hd

theorem Json.readAsWritten (json : Json) : json.ReadAsWritten limit :=
  Json.documentInduction Json.readAsWritten_object Json.readAsWritten_other json

end Parts

/-! ## 4. Documents -/

theorem Expression.ofJson_result (json : Json) (limits : Limits) :
    (Expression.ofJson json limits).result = Expression.readAt limits.maxDepth json 0 := by
  rw [Expression.ofJson, Report.ofCheck_result, Expression.read]

/-- **Reading accepts exactly the expressions within the depth limit.** -/
theorem Expression.ofJson_ok_iff (json : Json) (limits : Limits) :
    (∃ e, (Expression.ofJson json limits).result = .ok e) ↔
      json.IsExpression ∧ json.expressionDepth ≤ limits.maxDepth := by
  have hread : json.ReadAsWritten limits.maxDepth := Json.readAsWritten json
  have h := hread.expression 0
  rw [Nat.zero_add] at h
  rw [← h, isOk_iff, Expression.ofJson_result]

end RecordFilter
