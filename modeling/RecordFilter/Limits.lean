/-
# Limits

The one limit on an expression is how deep it nests.  Limits can be read from JSON, under the key
`maxDepth` of an object, or as the one item of an array; what is not given takes its default.
Reading them from text looks only at what is needed: other members must be JSON in form, and
nothing more is asked of them, but the key may not come twice.
-/
import RecordFilter.Json.Reader

namespace RecordFilter

/-- The depth limit where none is given. -/
def defaultMaxDepth : Nat := 64

/-- Limits on an expression. -/
structure Limits where
  maxDepth : Nat := defaultMaxDepth
deriving DecidableEq

namespace Limits

/-- The key of the depth limit. -/
def maxDepthKey : String := "maxDepth"

/-- A depth limit must be an integer that is not negative. -/
def ofNumeral? : Numeral → Option Limits
  | .integer n => if 0 ≤ n.val then some ⟨n.val.toNat⟩ else none
  | .real _ _ => none

/-- The limits of a JSON value that gives the depth limit itself. -/
def ofDepth? : Json → Option Limits
  | .number n => ofNumeral? n
  | _ => none

/-- The limits that a JSON tree gives. -/
def ofJson? : Json → Option Limits
  | .object members =>
    match Entries.get? members maxDepthKey with
    | some value => ofDepth? value
    | none => some {}
  | .array [] => some {}
  | .array [value] => ofDepth? value
  | _ => none

/-- The limits of a written value that gives the depth limit itself. -/
def ofWrittenDepth? : WrittenJson → Option Limits
  | .number n => n.meaning.bind ofNumeral?
  | _ => none

/-- The limits that the members of a written object give, after those `found` before them. -/
def ofWrittenMembers? : List (List StringMark × WrittenJson) → Option Limits → Option Limits
  | [], found => some (found.getD {})
  | (name, value) :: rest, found => do
    let name ← StringMark.text name
    if name == maxDepthKey then
      match found with
      | some _ => none
      | none => ofWrittenMembers? rest (some (← ofWrittenDepth? value))
    else ofWrittenMembers? rest found

/-- The limits that a JSON text gives. -/
def ofText? (text : String) : Option Limits :=
  match WrittenJson.read text with
  | some (.object members) => ofWrittenMembers? members none
  | some (.array []) => some {}
  | some (.array [value]) => ofWrittenDepth? value
  | _ => none

end Limits

end RecordFilter
