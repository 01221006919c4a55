/-
# Custom predicates

A clause of an expression may be a function of the caller.  It sees the field's value together
with where the value comes from, and it may fail with a reason.
-/
import RecordFilter.Value.Basic

namespace RecordFilter

/-- What a predicate sees: its field, the field's value if present, and the place of the record. -/
structure FieldContext where
  field : String
  value : Option Value
  record : Record
  index : Nat
  dataset : List Record

/-- A test of a field that the caller provides; it answers, or fails with a reason. -/
structure Predicate where
  call : FieldContext → Except String Bool

/-- A predicate that failed: the field it was asked about and its reason. -/
structure PredicateFailure where
  field : String
  reason : String
deriving DecidableEq

end RecordFilter
