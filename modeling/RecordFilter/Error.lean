/-
# Errors

Why an expression, a record or an evaluation is refused.  Each constructor is a cause; the wording
is in `Error.message` alone.
-/
import RecordFilter.Json.Basic
import RecordFilter.Operator
import RecordFilter.Predicate

namespace RecordFilter

/-- The documents that must be JSON objects. -/
inductive DocumentPart where
  | expression
  | operatorSet
  | record
deriving DecidableEq

/-- The words for a document in error messages. -/
def DocumentPart.name : DocumentPart → String
  | .expression => "expression"
  | .operatorSet => "operator set"
  | .record => "record"

/-- What can go wrong.  A text that is no pattern, or no JSON, is kept whole. -/
inductive Error where
  | invalidPattern (source : String)
  | invalidJson (text : String)
  | notAnObject (part : DocumentPart) (found : Json.Kind)
  | malformedCombinator (combinator : Combinator) (found : Json.Kind)
  | unknownOperator (name : String)
  | invalidOperand (operator : Operator) (expected found : Json.Kind)
  | reservedFieldName (name : String)
  | depthExceeded (limit : Nat)
  | predicateFailed (failure : PredicateFailure)
deriving DecidableEq

namespace Error

/-- The message of an error.  What is wrong with a pattern or with JSON text is not told; the text
itself stands in its place. -/
def message : Error → String
  | invalidPattern source => "invalid regex pattern: " ++ source
  | invalidJson text => "invalid expression JSON: " ++ text
  | notAnObject part found => part.name ++ " must be an object, got " ++ found.name
  | malformedCombinator combinator found =>
    combinator.key ++ " operand must be an expression or a list of expressions, got " ++ found.name
  | unknownOperator name => "unknown operator '" ++ name ++ "'"
  | invalidOperand operator expected found =>
    "operator '" ++ operator.name ++ "' expects " ++ expected.name ++ ", got " ++ found.name
  | reservedFieldName name =>
    "field name '" ++ name ++ "' is reserved: names starting with '$' are combinator keys"
  | depthExceeded limit => "expression nesting exceeds maximum depth of " ++ toString limit
  | predicateFailed failure =>
    "predicate on field '" ++ failure.field ++ "' failed: " ++ failure.reason

end Error

end RecordFilter
