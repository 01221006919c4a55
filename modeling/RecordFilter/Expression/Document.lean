/-
# Expressions as JSON documents

An expression is written as a JSON object: a key of a combinator takes an expression or a list of
expressions, any other key that is not reserved is a field.  A field takes an object, which is its
operator set, or anything else, which is a literal.  The keys of an operator set are combinators
and the names of operators; `null` leaves an operator unset, except for the two equalities, which
take it as a value.

Depth is counted as validation counts it, and further into literals: each item of an array and
each entry of an object is one step deeper than what holds it.  Keys are read in order, and the
first fault is reported.
-/
import RecordFilter.Expression.Validation
import RecordFilter.Journal
import RecordFilter.Value.Json

namespace RecordFilter

/-! ## 1. Literals and plain operands -/

mutual

/-- The value of a literal at a depth. -/
def Value.readLiteral (limit : Nat) : Json → Nat → Except Error Value
  | .array items, depth => do
    checkDepth limit depth
    return .array (← Value.readItems limit items (depth + 1))
  | .object members, depth => do
    checkDepth limit depth
    return .object (← Value.readEntries limit members (depth + 1))
  | .null, depth => do
    checkDepth limit depth
    return .null
  | .bool b, depth => do
    checkDepth limit depth
    return .bool b
  | .number n, depth => do
    checkDepth limit depth
    return .number (.ofNumeral n)
  | .string s, depth => do
    checkDepth limit depth
    return .string s

/-- The values of a list of literals, each at the same depth. -/
def Value.readItems (limit : Nat) : List Json → Nat → Except Error (List Value)
  | [], _ => .ok []
  | item :: rest, depth => do
    let v ← Value.readLiteral limit item depth
    return v :: (← Value.readItems limit rest depth)

/-- The values of the members of an object, each at the same depth. -/
def Value.readEntries (limit : Nat) :
    List (String × Json) → Nat → Except Error (List (String × Value))
  | [], _ => .ok []
  | (name, item) :: rest, depth => do
    let v ← Value.readLiteral limit item depth
    return (name, v) :: (← Value.readEntries limit rest depth)

end

/-- An operand that must be a string. -/
def Operator.readString (op : Operator) : Json → Except Error String
  | .string s => .ok s
  | json => .error (.invalidOperand op .string json.kind)

/-- An operand that must be a truth value. -/
def Operator.readBool (op : Operator) : Json → Except Error Bool
  | .bool b => .ok b
  | json => .error (.invalidOperand op .boolean json.kind)

/-- An operand that must be a number. -/
def Operator.readBound (op : Operator) : Json → Except Error Numeric
  | .number n => .ok (.number (.ofNumeral n))
  | json => .error (.invalidOperand op .number json.kind)

/-- An operand that must be an array, whose items lie at a depth. -/
def Operator.readList (op : Operator) (limit : Nat) (json : Json) (depth : Nat) :
    Except Error (List Value) :=
  match json with
  | .array items => Value.readItems limit items depth
  | json => .error (.invalidOperand op .array json.kind)

/-- An operand that must be a string with a pattern in it. -/
def Operator.readPattern (op : Operator) (json : Json) : Except Error Pattern := do
  let source ← op.readString json
  match Pattern.compile? source with
  | some p => .ok p
  | none => .error (.invalidPattern source)

/-! ## 2. Documents -/

mutual

/-- The expression of a document at a depth. -/
def Expression.readAt (limit : Nat) : Json → Nat → Except Error Expression
  | .object members, depth => do
    checkDepth limit depth
    Expression.readMembers limit members (depth + 1) .empty
  | json, depth => do
    checkDepth limit depth
    .error (.notAnObject .expression json.kind)

/-- The members of an expression after those already `read`; `depth` is that of their contents. -/
def Expression.readMembers (limit : Nat) :
    List (String × Json) → Nat → Expression → Except Error Expression
  | [], _, read => .ok read
  | (key, json) :: rest, depth, read =>
    match Combinator.ofKey? key with
    | some c => do
      let operand ← Operand.readAt limit json c depth
      Expression.readMembers limit rest depth (read.combine c operand)
    | none =>
      if isReserved key then .error (.reservedFieldName key)
      else do
        let clause ← Clause.readAt limit json depth
        Expression.readMembers limit rest depth (read.field key clause)

/-- The operand of a combinator, whose expressions lie at a depth. -/
def Operand.readAt (limit : Nat) : Json → Combinator → Nat → Except Error Operand
  | .object members, _, depth => do
    checkDepth limit depth
    return .single (← Expression.readMembers limit members (depth + 1) .empty)
  | .array items, c, depth => return .many (← Operand.readAll limit items c depth)
  | json, c, _ => .error (.malformedCombinator c json.kind)

/-- The expressions of a list operand. -/
def Operand.readAll (limit : Nat) : List Json → Combinator → Nat → Except Error (List Expression)
  | [], _, _ => .ok []
  | .object members :: rest, c, depth => do
    checkDepth limit depth
    let e ← Expression.readMembers limit members (depth + 1) .empty
    return e :: (← Operand.readAll limit rest c depth)
  | json :: _, c, _ => .error (.malformedCombinator c json.kind)

/-- The clause of a field at a depth: an object is an operator set, all else a literal. -/
def Clause.readAt (limit : Nat) : Json → Nat → Except Error Clause
  | .object members, depth => do
    checkDepth limit depth
    return .operators (← OperatorSet.readMembers limit members (depth + 1) .empty)
  | json, depth => return .literal (← Value.readLiteral limit json depth)

/-- The members of an operator set after those already `read`; `depth` is that of their contents. -/
def OperatorSet.readMembers (limit : Nat) :
    List (String × Json) → Nat → OperatorSet → Except Error OperatorSet
  | [], _, read => .ok read
  | (key, json) :: rest, depth, read =>
    match Combinator.ofKey? key with
    | some c => do
      let operand ← Operand.readAt limit json c depth
      OperatorSet.readMembers limit rest depth (read.set (.combine c operand))
    | none =>
      match Operator.ofName? key with
      | none => .error (.unknownOperator key)
      | some op => do
        let setting ← Setting.readAt limit json op depth
        OperatorSet.readMembers limit rest depth (setting.elim read read.set)

/-- What an operator takes, its contents at a depth; nothing for an operator left unset. -/
def Setting.readAt (limit : Nat) : Json → Operator → Nat → Except Error (Option Setting)
  | json, .equals, depth => return some (.equals (← Value.readLiteral limit json depth))
  | json, .notEquals, depth => return some (.notEquals (← Value.readLiteral limit json depth))
  | .null, _, _ => .ok none
  | .object members, .length, depth => do
    checkDepth limit depth
    return some (.length (← OperatorSet.readMembers limit members (depth + 1) .empty))
  | json, .length, _ => .error (.invalidOperand .length .object json.kind)
  | json, .includes, _ => return some (.includes (← Operator.readString .includes json))
  | json, .startsWith, _ => return some (.startsWith (← Operator.readString .startsWith json))
  | json, .endsWith, _ => return some (.endsWith (← Operator.readString .endsWith json))
  | json, .caseInsensitive, _ =>
    return some (.caseInsensitive (← Operator.readBool .caseInsensitive json))
  | json, .matchesPattern, _ =>
    return some (.matchesPattern (← Operator.readPattern .matchesPattern json))
  | json, .greaterThan, _ => return some (.greaterThan (← Operator.readBound .greaterThan json))
  | json, .greaterThanOrEqual, _ =>
    return some (.greaterThanOrEqual (← Operator.readBound .greaterThanOrEqual json))
  | json, .lessThan, _ => return some (.lessThan (← Operator.readBound .lessThan json))
  | json, .lessThanOrEqual, _ =>
    return some (.lessThanOrEqual (← Operator.readBound .lessThanOrEqual json))
  | json, .includesEvery, depth =>
    return some (.includesEvery (← Operator.readList .includesEvery limit json depth))
  | json, .includesSome, depth =>
    return some (.includesSome (← Operator.readList .includesSome limit json depth))
  | json, .includesNone, depth =>
    return some (.includesNone (← Operator.readList .includesNone limit json depth))

end

/-! ## 3. The ways in -/

namespace Expression

/-- The expression of a document under limits. -/
def read (json : Json) (limits : Limits) : Except Error Expression := readAt limits.maxDepth json 0

/-- The expression of a document, a refusal being on record. -/
def ofJson (json : Json) (limits : Limits) : Report Expression := .ofCheck (read json limits)

/-- The expression of a document in JSON text, under the default limits. -/
def ofText (text : String) : Report Expression :=
  match Json.ofText? text with
  | some json => ofJson json {}
  | none => ⟨[], .error (.invalidJson text)⟩

end Expression

/-- The record of a JSON tree, which must be an object. -/
def Record.ofJson : Json → Except Error Record
  | .object members => .ok ⟨Value.ofJsonMembers members⟩
  | json => .error (.notAnObject .record json.kind)

end RecordFilter
