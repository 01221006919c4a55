/-
# Scans

What can be asked of an expression over a whole dataset: the records that match, how many there
are, whether one does or all do, the first that does, and whether the record at an index does.
Each question validates the expression first.  `filter` evaluates every record and stops only at a
failure; `position` and `all` stop at the first record that decides.  A filter leaves a line in
the journal when it starts and one when it ends.
-/
import RecordFilter.Evaluation
import RecordFilter.Expression.Validation

namespace RecordFilter

/-- The outcome of an evaluation as a result: a predicate's failure is an error. -/
def Evaluation.result (e : Evaluation) : Except Error Bool := e.outcome.mapError .predicateFailed

namespace Expression

/-! ## 1. Validation and single records -/

/-- Validation, a refusal being on record. -/
def validate (e : Expression) (limits : Limits) : Report Unit := .ofCheck (e.check limits)

/-- The evaluation of the record at an index as a report. -/
def evaluateAt (e : Expression) (dataset : List Record) (index : Nat) (record : Record) :
    Report Bool :=
  let evaluation := e.evaluate ⟨dataset, index, record⟩
  ⟨evaluation.events, evaluation.result⟩

/-- Does the record at an index match?  Beyond the end of the dataset none does. -/
def matchesAt (e : Expression) (dataset : List Record) (index : Nat) (limits : Limits) :
    Report Bool :=
  (e.validate limits).bind fun _ =>
    match dataset[index]? with
    | some record => e.evaluateAt dataset index record
    | none => ⟨[], .ok false⟩

/-! ## 2. Walks over a dataset -/

/-- The indices, from `index` on, of the records that match. -/
def matchesFrom (e : Expression) (dataset : List Record) : List Record → Nat → Report (List Nat)
  | [], _ => ⟨[], .ok []⟩
  | record :: rest, index =>
    (e.evaluateAt dataset index record).bind fun isMatch =>
      (matchesFrom e dataset rest (index + 1)).map fun found =>
        if isMatch then index :: found else found

/-- The first index, from `index` on, whose record has the verdict looked for. -/
def firstFrom (e : Expression) (dataset : List Record) (verdict : Bool) :
    List Record → Nat → Report (Option Nat)
  | [], _ => ⟨[], .ok none⟩
  | record :: rest, index =>
    (e.evaluateAt dataset index record).bind fun isMatch =>
      if isMatch == verdict then ⟨[], .ok (some index)⟩
      else firstFrom e dataset verdict rest (index + 1)

/-! ## 3. Questions -/

/-- The indices of the records that match. -/
def filterIndices (e : Expression) (dataset : List Record) (limits : Limits) :
    Report (List Nat) :=
  (e.validate limits).bind fun _ =>
    Report.bind
      ⟨[.started dataset.length e.clauses.length e.combinators.size], .ok ()⟩ fun _ =>
      (e.matchesFrom dataset dataset 0).bind fun found =>
        ⟨[.finished found.length dataset.length], .ok found⟩

/-- The records that match. -/
def filter (e : Expression) (dataset : List Record) (limits : Limits) : Report (List Record) :=
  (e.filterIndices dataset limits).map fun found => found.filterMap fun index => dataset[index]?

/-- How many records match. -/
def count (e : Expression) (dataset : List Record) (limits : Limits) : Report Nat :=
  (e.filterIndices dataset limits).map List.length

/-- The first index whose record has the verdict looked for. -/
def first (e : Expression) (dataset : List Record) (verdict : Bool) (limits : Limits) :
    Report (Option Nat) :=
  (e.validate limits).bind fun _ => e.firstFrom dataset verdict dataset 0

/-- The index of the first record that matches. -/
def position (e : Expression) (dataset : List Record) (limits : Limits) : Report (Option Nat) :=
  e.first dataset true limits

/-- The first record that matches, with its index. -/
def find (e : Expression) (dataset : List Record) (limits : Limits) :
    Report (Option (Nat × Record)) :=
  (e.position dataset limits).map fun found =>
    found.bind fun index => (dataset[index]?).map fun record => (index, record)

/-- Does a record match? -/
def any (e : Expression) (dataset : List Record) (limits : Limits) : Report Bool :=
  (e.position dataset limits).map Option.isSome

/-- Does every record match? -/
def all (e : Expression) (dataset : List Record) (limits : Limits) : Report Bool :=
  (e.first dataset false limits).map Option.isNone

end Expression

end RecordFilter
