/-
# Which documents are expressions

The grammar of documents, said without reading any: a JSON tree is an expression, an operand or an
operator set by the shape of its members alone (`Json.IsExpression`, `Json.IsOperand`,
`Json.IsOperatorSet`).  No depth and no order of keys comes into it.

The depth of a document is a function of its own (`Json.expressionDepth`).  The document has depth
0, and one step deeper than what holds them lie: the expressions of an operand, the literal or the
operator set of a field, the operand of an equality, the items of a membership list, the set of a
length, and inside a literal each item of an array and each entry of an object.

The rest of the module takes the grammar apart again: what a key admits, by the kind of key.
-/
import RecordFilter.Expression.Document
import RecordFilter.Proofs.Induction

namespace RecordFilter

/-! ## 1. Shapes -/

/-- The operands that an operator takes, apart from `null` and from the set of a length. -/
def Operator.Takes : Operator → Json → Prop
  | .equals, _ | .notEquals, _ => True
  | .includes, json | .startsWith, json | .endsWith, json => ∃ s, json = .string s
  | .caseInsensitive, json => ∃ b, json = .bool b
  | .matchesPattern, json => ∃ s, json = .string s ∧ (Pattern.compile? s).isSome = true
  | .greaterThan, json | .greaterThanOrEqual, json | .lessThan, json | .lessThanOrEqual, json =>
    ∃ n, json = .number n
  | .includesEvery, json | .includesSome, json | .includesNone, json => ∃ items, json = .array items
  | .length, _ => False

mutual

/-- A JSON tree that is written as an expression. -/
inductive Json.IsExpression : Json → Prop
  | object {members : List (String × Json)}
      (h : ∀ m ∈ members, Json.IsExpressionMember m.1 m.2) : Json.IsExpression (.object members)

/-- A member of an expression: a combinator, or a field under a name that is not reserved. -/
inductive Json.IsExpressionMember : String → Json → Prop
  | combinator (c : Combinator) {json : Json} (h : Json.IsOperand json) :
      Json.IsExpressionMember c.key json
  | literal {name : String} {json : Json} (free : isReserved name = false)
      (h : json.kind ≠ .object) : Json.IsExpressionMember name json
  | operators {name : String} {json : Json} (free : isReserved name = false)
      (h : Json.IsOperatorSet json) : Json.IsExpressionMember name json

/-- The operand of a combinator: an expression, or an array of expressions. -/
inductive Json.IsOperand : Json → Prop
  | single {json : Json} (h : Json.IsExpression json) : Json.IsOperand json
  | many {items : List Json} (h : ∀ item ∈ items, Json.IsExpression item) :
      Json.IsOperand (.array items)

/-- A JSON tree that is written as an operator set. -/
inductive Json.IsOperatorSet : Json → Prop
  | object {members : List (String × Json)}
      (h : ∀ m ∈ members, Json.IsOperatorSetMember m.1 m.2) : Json.IsOperatorSet (.object members)

/-- A member of an operator set: a combinator, or an operator with an operand of its shape, or with
`null`, which leaves it unset. -/
inductive Json.IsOperatorSetMember : String → Json → Prop
  | combinator (c : Combinator) {json : Json} (h : Json.IsOperand json) :
      Json.IsOperatorSetMember c.key json
  | takes (op : Operator) {json : Json} (h : op.Takes json) :
      Json.IsOperatorSetMember op.name json
  | unset (op : Operator) : Json.IsOperatorSetMember op.name .null
  | length {json : Json} (h : Json.IsOperatorSet json) :
      Json.IsOperatorSetMember Operator.length.name json

end

/-! ## 2. Depths -/

mutual

/-- How deep a literal nests. -/
def Json.literalDepth : Json → Nat
  | .array items => Json.literalItemsDepth items
  | .object members => Json.literalMembersDepth members
  | _ => 0

/-- The same for the items of an array, each one step deeper than the array. -/
def Json.literalItemsDepth : List Json → Nat
  | [] => 0
  | item :: rest => max (1 + item.literalDepth) (Json.literalItemsDepth rest)

/-- The same for the members of an object, each one step deeper than the object. -/
def Json.literalMembersDepth : List (String × Json) → Nat
  | [] => 0
  | (_, item) :: rest => max (1 + item.literalDepth) (Json.literalMembersDepth rest)

end

mutual

/-- How deep an expression nests. -/
def Json.expressionDepth : Json → Nat
  | .object members => Json.expressionMembersDepth members
  | _ => 0

/-- The same for the members of an expression. -/
def Json.expressionMembersDepth : List (String × Json) → Nat
  | [] => 0
  | (key, json) :: rest =>
    max (if (Combinator.ofKey? key).isSome then json.operandDepth else json.clauseDepth)
      (Json.expressionMembersDepth rest)

/-- How deep an operand reaches below what holds it. -/
def Json.operandDepth : Json → Nat
  | .object members => 1 + Json.expressionMembersDepth members
  | .array items => Json.operandItemsDepth items
  | _ => 0

/-- The same for a list of expressions. -/
def Json.operandItemsDepth : List Json → Nat
  | [] => 0
  | item :: rest => max (1 + item.expressionDepth) (Json.operandItemsDepth rest)

/-- How deep the literal or the operator set of a field reaches below the expression. -/
def Json.clauseDepth : Json → Nat
  | .object members => 1 + Json.operatorSetMembersDepth members
  | json => 1 + json.literalDepth

/-- How deep the members of an operator set reach below the set. -/
def Json.operatorSetMembersDepth : List (String × Json) → Nat
  | [] => 0
  | (key, json) :: rest =>
    max (if (Combinator.ofKey? key).isSome then json.operandDepth
        else (Operator.ofName? key).elim 0 json.settingDepth)
      (Json.operatorSetMembersDepth rest)

/-- How deep the operand of an operator reaches below the set. -/
def Json.settingDepth : Json → Operator → Nat
  | json, .equals | json, .notEquals => 1 + json.literalDepth
  | .array items, .includesEvery | .array items, .includesSome | .array items, .includesNone =>
    Json.literalItemsDepth items
  | .object members, .length => 1 + Json.operatorSetMembersDepth members
  | _, _ => 0

end

/-! ## 3. The grammar taken apart -/

namespace Json

theorem exists_of_kind_object {json : Json} (h : json.kind = .object) :
    ∃ members, json = .object members := by
  cases json with
  | object members => exact ⟨members, rfl⟩
  | null | bool | number | string | array => simp [kind] at h

theorem isExpression_object_iff {members : List (String × Json)} :
    IsExpression (.object members) ↔ ∀ m ∈ members, IsExpressionMember m.1 m.2 :=
  ⟨fun h => by cases h with | object h => exact h, .object⟩

theorem IsExpression.kind_eq {json : Json} (h : json.IsExpression) : json.kind = .object := by
  cases h with
  | object _ => rfl

theorem not_isExpression {json : Json} (h : json.kind ≠ .object) : ¬ json.IsExpression :=
  fun he => h he.kind_eq

theorem isOperatorSet_object_iff {members : List (String × Json)} :
    IsOperatorSet (.object members) ↔ ∀ m ∈ members, IsOperatorSetMember m.1 m.2 :=
  ⟨fun h => by cases h with | object h => exact h, .object⟩

theorem IsOperatorSet.kind_eq {json : Json} (h : json.IsOperatorSet) : json.kind = .object := by
  cases h with
  | object _ => rfl

theorem isOperand_object_iff {members : List (String × Json)} :
    IsOperand (.object members) ↔ IsExpression (.object members) :=
  ⟨fun h => by cases h with | single h => exact h, .single⟩

theorem isOperand_array_iff {items : List Json} :
    IsOperand (.array items) ↔ ∀ item ∈ items, IsExpression item := by
  constructor
  · intro h
    cases h with
    | single h => exact absurd h.kind_eq (by simp [kind])
    | many h => exact h
  · exact .many

theorem not_isOperand {json : Json} (hobject : json.kind ≠ .object) (harray : json.kind ≠ .array) :
    ¬ json.IsOperand := by
  intro h
  cases h with
  | single h => exact hobject h.kind_eq
  | many _ => exact harray rfl

/-! The members, by the kind of key: no key is of two kinds. -/

theorem isExpressionMember_combinator_iff {key : String} {c : Combinator}
    (hkey : Combinator.ofKey? key = some c) {json : Json} :
    IsExpressionMember key json ↔ json.IsOperand := by
  obtain rfl := Combinator.ofKey?_eq_some_iff.mp hkey
  constructor
  · intro h
    generalize hname : c.key = name at h
    cases h with
    | combinator _ h => exact h
    | literal free _ => exact absurd free (by simp [← hname, isReserved_key])
    | operators free _ => exact absurd free (by simp [← hname, isReserved_key])
  · exact .combinator c

theorem isExpressionMember_field_iff {key : String} (hkey : Combinator.ofKey? key = none)
    {json : Json} :
    IsExpressionMember key json ↔
      isReserved key = false ∧ (json.kind ≠ .object ∨ json.IsOperatorSet) := by
  constructor
  · intro h
    cases h with
    | combinator c _ => simp at hkey
    | literal free h => exact ⟨free, .inl h⟩
    | operators free h => exact ⟨free, .inr h⟩
  · rintro ⟨free, h | h⟩
    · exact .literal free h
    · exact .operators free h

theorem isOperatorSetMember_combinator_iff {key : String} {c : Combinator}
    (hkey : Combinator.ofKey? key = some c) {json : Json} :
    IsOperatorSetMember key json ↔ json.IsOperand := by
  constructor
  · intro h
    cases h with
    | combinator _ h => exact h
    | takes op _ | unset op => simp at hkey
    | length _ => simp at hkey
  · obtain rfl := Combinator.ofKey?_eq_some_iff.mp hkey
    exact .combinator c

theorem isOperatorSetMember_operator_iff {key : String} {op : Operator}
    (hkey : Combinator.ofKey? key = none) (hname : Operator.ofName? key = some op) {json : Json} :
    IsOperatorSetMember key json ↔
      op.Takes json ∨ json = .null ∨ (op = .length ∧ json.IsOperatorSet) := by
  constructor
  · intro h
    cases h with
    | combinator c _ => simp at hkey
    | takes op' h =>
      obtain rfl : op' = op := by simpa using hname
      exact .inl h
    | unset _ => exact .inr (.inl rfl)
    | length h =>
      obtain rfl : Operator.length = op := by simpa using hname
      exact .inr (.inr ⟨rfl, h⟩)
  · obtain rfl := Operator.ofName?_eq_some_iff.mp hname
    rintro (h | rfl | ⟨rfl, h⟩)
    · exact .takes op h
    · exact .unset op
    · exact .length h

theorem not_isOperatorSetMember {key : String} (hkey : Combinator.ofKey? key = none)
    (hname : Operator.ofName? key = none) {json : Json} : ¬ IsOperatorSetMember key json := by
  intro h
  cases h with
  | combinator c _ => simp at hkey
  | takes op _ | unset op => simp at hname
  | length _ => simp at hname

end Json

end RecordFilter
