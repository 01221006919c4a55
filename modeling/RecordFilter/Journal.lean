/-
# Journals

What happens while an expression is read, validated or evaluated is kept as a list of events.
Two things are read off a journal: the calls of custom predicates, in order, and the log lines
that a log level lets through.
-/
import RecordFilter.Error

namespace RecordFilter

/-! ## 1. Events -/

/-- What can happen. -/
inductive Event where
  | called (context : FieldContext)
  | predicateFailed (failure : PredicateFailure) (index : Nat)
  | ignored (operators : List Operator) (category : Category)
  | rejected (error : Error)
  | started (records clauses combinators : Nat)
  | finished (matched records : Nat)

/-- How much a log shows. -/
inductive LogLevel where
  | debug
  | trace
deriving DecidableEq

/-- The name of a level. -/
def LogLevel.name : LogLevel → String
  | .debug => "debug"
  | .trace => "trace"

/-- Does a log at the first level show lines of the second? -/
def LogLevel.shows : LogLevel → LogLevel → Bool
  | .debug, .trace => false
  | _, _ => true

/-- A line of the log. -/
structure LogLine where
  level : LogLevel
  text : String
deriving DecidableEq

/-- The line that an event writes; a call writes none. -/
def Event.line? : Event → Option LogLine
  | .called _ => none
  | .predicateFailed failure index =>
    some ⟨.debug, "predicate on field '" ++ failure.field ++ "' failed at index " ++ toString index
      ++ ": " ++ failure.reason⟩
  | .ignored operators category =>
    some ⟨.trace, "ignoring operators [" ++ String.intercalate ", " (operators.map Operator.name)
      ++ "] for " ++ category.name ++ " value"⟩
  | .rejected error => some ⟨.debug, "rejected expression: " ++ error.message⟩
  | .started records clauses combinators =>
    some ⟨.debug, "filtering " ++ toString records ++ " records with " ++ toString clauses
      ++ " fields and " ++ toString combinators ++ " combinators"⟩
  | .finished matched records =>
    some ⟨.debug, "matched " ++ toString matched ++ " of " ++ toString records ++ " records"⟩

/-- The call that an event is. -/
def Event.call? : Event → Option FieldContext
  | .called context => some context
  | _ => none

/-- Events in the order in which they happened. -/
abbrev Journal := List Event

namespace Journal

/-- The lines that a log at a level shows. -/
def lines (journal : Journal) (level : LogLevel) : List LogLine :=
  (journal.filterMap Event.line?).filter fun line => level.shows line.level

/-- The calls of predicates. -/
def calls (journal : Journal) : List FieldContext := journal.filterMap Event.call?

@[simp] theorem lines_append (a b : Journal) (level : LogLevel) :
    lines (a ++ b) level = lines a level ++ lines b level := by
  simp [lines, List.filterMap_append]

@[simp] theorem calls_append (a b : Journal) : calls (a ++ b) = calls a ++ calls b := by
  simp [calls, List.filterMap_append]

end Journal

/-! ## 2. Reports -/

/-- A result with the events on the way to it. -/
structure Report (α : Type) where
  journal : Journal
  result : Except Error α

namespace Report

variable {α β : Type}

/-- The same journal with the result passed through a function. -/
def map (f : α → β) (r : Report α) : Report β := ⟨r.journal, r.result.map f⟩

/-- Goes on after a result; an error ends the report. -/
def bind (r : Report α) (next : α → Report β) : Report β :=
  match r.result with
  | .ok a => ⟨r.journal ++ (next a).journal, (next a).result⟩
  | .error e => ⟨r.journal, .error e⟩

@[simp] theorem bind_ok (journal : Journal) (a : α) (next : α → Report β) :
    (Report.mk journal (.ok a)).bind next = ⟨journal ++ (next a).journal, (next a).result⟩ := rfl

@[simp] theorem bind_error (journal : Journal) (e : Error) (next : α → Report β) :
    (Report.mk journal (.error e)).bind next = ⟨journal, .error e⟩ := rfl

/-- The verdict on an expression as a report: an error is on record as a rejection. -/
def ofCheck : Except Error α → Report α
  | .ok a => ⟨[], .ok a⟩
  | .error e => ⟨[.rejected e], .error e⟩

@[simp] theorem ofCheck_result (x : Except Error α) : (ofCheck x).result = x := by
  cases x <;> rfl

end Report

end RecordFilter
