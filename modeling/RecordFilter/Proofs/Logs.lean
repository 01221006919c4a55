/-
# The log tells the truth

A log shows lines only, so whoever reads it has to tell from its text what a scan did.  There are
three ways a scan can end, and each has its own lines.  An expression that is rejected leaves one
line.  A filter that has an answer leaves a line for its start and one with the number of matches.
A filter in which a predicate fails leaves the line for its start and one for the failure.  The
other questions leave nothing where they have an answer, and the one line where they have none.

`Expression.ScanLog` says this for one scan, with the lines that depend on the kind of question as
parameters.  It follows from the shape of the record (`Expression.matchesFrom_framed_of_failure` and
its like): quiet events write trace lines or none, so at trace level the same lines stand around a
block of trace lines.

That no predicate fails is not read off the answer alone.  The calls of a scan are those of the
records it has walked over, and each of the predicates called there has answered
(`Expression.Answers`).

The way back is about text (`Expression.FilterLog`).  The lines of the three ways differ in how many
they are or in their first character, and a number is read back from its digits.
-/
import RecordFilter.Proofs.Calls
import RecordFilter.Proofs.Events

namespace RecordFilter

/-! ## 1. The lines -/

namespace LogLine

/-- An expression is rejected. -/
def rejected (error : Error) : LogLine := ⟨.debug, "rejected expression: " ++ error.message⟩

/-- A filter starts. -/
def started (e : Expression) (dataset : List Record) : LogLine :=
  ⟨.debug, "filtering " ++ toString dataset.length ++ " records with " ++ toString e.clauses.length
    ++ " fields and " ++ toString e.combinators.size ++ " combinators"⟩

/-- A filter has found some of the records. -/
def matched (found records : Nat) : LogLine :=
  ⟨.debug, "matched " ++ toString found ++ " of " ++ toString records ++ " records"⟩

/-- A predicate fails at an index. -/
def failed (failure : PredicateFailure) (index : Nat) : LogLine :=
  ⟨.debug, "predicate on field '" ++ failure.field ++ "' failed at index " ++ toString index ++ ": "
    ++ failure.reason⟩

/-- The number of matches is read back from its line. -/
theorem matched_inj {k k' n : Nat} (h : matched k n = matched k' n) : k = k' := by
  have htext := congrArg text h
  simp only [matched, String.append_assoc, String.append_right_inj] at htext
  have hdigits : toString k = toString k' := (String.append_left_inj _).mp htext
  simp only [Nat.toString_eq_ofList_toDigits, String.ofList_inj] at hdigits
  calc k = Nat.ofDigitChars 10 (Nat.toDigits 10 k) 0 := Nat.ofDigitChars_ten_toDigits.symm
    _ = Nat.ofDigitChars 10 (Nat.toDigits 10 k') 0 := by rw [hdigits]
    _ = k' := Nat.ofDigitChars_ten_toDigits

theorem matched_ne_failed (k n : Nat) (failure : PredicateFailure) (index : Nat) :
    matched k n ≠ failed failure index := by
  intro h
  -- The first characters differ already.
  have hchars := congrArg (fun line => line.text.toList.head?) h
  simp [matched, failed] at hchars

end LogLine

/-! ## 2. What a report leaves in a log -/

section Logs

variable {α β : Type} {report : Report α} {result : Except Error α} {first last : List LogLine}
  {opening closing : Journal}

/-- The report has the result, and its log at debug level shows some first lines and some last
ones.  At trace level the log shows the same lines in the same order, with only trace lines between
them. -/
structure Report.Logs (report : Report α) (result : Except Error α) (first last : List LogLine) :
    Prop where
  result_eq : report.result = result
  debug : report.journal.lines .debug = first ++ last
  trace : ∃ between, (∀ line ∈ between, line.level = .trace) ∧
    report.journal.lines .trace = first ++ between ++ last

theorem Event.level_of_isQuiet {event : Event} (h : event.isQuiet = true) {line : LogLine}
    (hline : event.line? = some line) : line.level = .trace := by
  cases event with
  | called _ => simp [line?] at hline
  | ignored _ _ =>
    obtain rfl := Option.some.inj hline
    rfl
  | predicateFailed _ _ | rejected _ | started _ _ _ | finished _ _ => simp [isQuiet] at h

/-- Whatever quiet events write is written at trace level. -/
theorem Journal.level_of_quiet {quiet : Journal} (h : ∀ event ∈ quiet, event.isQuiet = true)
    (level : LogLevel) : ∀ line ∈ quiet.lines level, line.level = .trace := by
  intro line hline
  obtain ⟨event, hevent, heq⟩ := List.mem_filterMap.mp (List.mem_filter.mp hline).1
  exact Event.level_of_isQuiet (h event hevent) heq

theorem Journal.lines_debug_of_quiet {quiet : Journal}
    (h : ∀ event ∈ quiet, event.isQuiet = true) : quiet.lines .debug = [] := by
  rw [List.eq_nil_iff_forall_not_mem]
  intro line hline
  have hshown := (List.mem_filter.mp hline).2
  rw [level_of_quiet h _ line hline] at hshown
  simp [LogLevel.shows] at hshown

/-- A debug line is shown at every level. -/
theorem Journal.lines_of_debug {event : Event} {line : LogLine} (h : event.line? = some line)
    (hdebug : line.level = .debug) (level : LogLevel) : Journal.lines [event] level = [line] := by
  have hshown : level.shows line.level = true := by
    rw [hdebug]
    cases level <;> rfl
  simp [lines, h, hshown]

theorem Report.logs_of_framed (hresult : report.result = result)
    (h : report.journal.Framed opening closing) (hfirst : ∀ level, opening.lines level = first)
    (hlast : ∀ level, closing.lines level = last) : report.Logs result first last := by
  obtain ⟨quiet, hquiet, heq⟩ := h
  have hlines : ∀ level, report.journal.lines level = first ++ quiet.lines level ++ last := by
    intro level
    rw [heq, Journal.lines_append, Journal.lines_append, hfirst, hlast]
  refine ⟨hresult, ?_, quiet.lines .trace, Journal.level_of_quiet hquiet _, hlines .trace⟩
  rw [hlines, Journal.lines_debug_of_quiet hquiet, List.append_nil]

theorem Report.Logs.map (h : report.Logs result first last) (f : α → β) :
    (report.map f).Logs (result.map f) first last :=
  ⟨congrArg (Except.map f) h.result_eq, h.debug, h.trace⟩

end Logs

/-! ## 3. Predicates that answer and predicates that fail -/

namespace Expression

/-- Evaluating the record at an index calls some of the predicates of the expression, in the order
of their occurrences, and every one of them answers. -/
def AnswersAt (e : Expression) (dataset : List Record) (index : Nat) : Prop :=
  ∃ record called, dataset[index]? = some record ∧ called.Sublist e.predicates ∧
    e.callsAt dataset index = called.map (fun o => Scope.contextOf ⟨dataset, index, record⟩ o.1) ∧
    Scope.AllAnswer ⟨dataset, index, record⟩ called

/-- The calls are those of some records, one record after the other, and every predicate called on
them answers. -/
def Answers (e : Expression) (dataset : List Record) (calls : List FieldContext) : Prop :=
  ∃ walked : List Nat, calls = walked.flatMap (e.callsAt dataset) ∧
    ∀ index ∈ walked, e.AnswersAt dataset index

/-- A predicate fails at an index: it is one of the expression, for the field that the failure
names, and the last that evaluating the record calls; the failure has its reason and is what comes
of the record. -/
structure FailsAt (e : Expression) (dataset : List Record) (index : Nat)
    (failure : PredicateFailure) : Prop where
  result_eq : e.resultAt dataset index = .error (.predicateFailed failure)
  called : ∃ record p before, dataset[index]? = some record ∧ (failure.field, p) ∈ e.predicates ∧
    p.call (Scope.contextOf ⟨dataset, index, record⟩ failure.field) = .error failure.reason ∧
    e.callsAt dataset index = before ++ [Scope.contextOf ⟨dataset, index, record⟩ failure.field]

/-- A predicate fails at the index, and at none below it. -/
def FailsFirst (e : Expression) (dataset : List Record) (index : Nat)
    (failure : PredicateFailure) : Prop :=
  e.FailsAt dataset index failure ∧ ∀ i < index, ∃ isMatch, e.resultAt dataset i = .ok isMatch

/-- A predicate fails at the index, and no record below it has the verdict looked for or a failure
of its own. -/
def FailsSeeking (e : Expression) (dataset : List Record) (verdict : Bool) (index : Nat)
    (failure : PredicateFailure) : Prop :=
  e.FailsAt dataset index failure ∧ e.StopsAt dataset verdict index

variable {e : Expression} {dataset : List Record} {limits : Limits} {k : Nat}

/-- The predicates called on a record, and the outcome that follows from them. -/
theorem callsAt_endsWith (hk : k < dataset.length) :
    ∃ called, called.Sublist e.predicates ∧
      e.callsAt dataset k =
        called.map (fun o => Scope.contextOf ⟨dataset, k, dataset[k]⟩ o.1) ∧
      Scope.EndsWith ⟨dataset, k, dataset[k]⟩ called
        (e.evaluate ⟨dataset, k, dataset[k]⟩).outcome := by
  obtain ⟨called, hsub, hcalls, hends⟩ := (evaluate_calls ⟨dataset, k, dataset[k]⟩).1 e
  refine ⟨called, hsub, ?_, hends⟩
  rw [callsAt, List.getElem?_eq_getElem hk]
  exact hcalls

/-- Where there is a verdict no predicate that was called has failed. -/
theorem answersAt_of_ok (hk : k < dataset.length) {isMatch : Bool}
    (h : e.resultAt dataset k = .ok isMatch) : e.AnswersAt dataset k := by
  obtain ⟨called, hsub, hcalls, hends⟩ := callsAt_endsWith (e := e) hk
  rw [resultAt, List.getElem?_eq_getElem hk] at h
  rw [Evaluation.result_ok_iff.mp h] at hends
  exact ⟨dataset[k], called, List.getElem?_eq_getElem hk, hsub, hcalls, hends.allAnswer⟩

theorem Answers.nil : e.Answers dataset [] := ⟨[], rfl, fun _ h => by simp at h⟩

/-- A walk goes on to a record that has a verdict. -/
theorem Answers.next {calls : List FieldContext} (h : e.Answers dataset calls) {isMatch : Bool}
    (hk : e.resultAt dataset k = .ok isMatch) :
    e.Answers dataset (calls ++ e.callsAt dataset k) := by
  rcases Nat.lt_or_ge k dataset.length with hlt | hge
  · obtain ⟨walked, rfl, hwalked⟩ := h
    refine ⟨walked ++ [k], by simp, fun index hindex => ?_⟩
    rcases List.mem_append.mp hindex with hindex | hindex
    · exact hwalked index hindex
    · obtain rfl := List.mem_singleton.mp hindex
      exact answersAt_of_ok hlt hk
  · rwa [callsAt_beyond hge, List.append_nil]

theorem answers_callsBelow : ∀ {k : Nat}, (∀ i < k, ∃ isMatch, e.resultAt dataset i = .ok isMatch) →
    e.Answers dataset (e.callsBelow dataset k)
  | 0, _ => .nil
  | k + 1, h => by
    obtain ⟨isMatch, hk⟩ := h k (Nat.lt_succ_self k)
    rw [callsBelow_succ]
    exact (answers_callsBelow fun i hi => h i (Nat.lt_succ_of_lt hi)).next hk

/-- The only error that comes of a record is the failure of a predicate that was called on it. -/
theorem failsAt_of_error {error : Error} (h : e.resultAt dataset k = .error error) :
    ∃ failure, error = .predicateFailed failure ∧ e.FailsAt dataset k failure := by
  have hk := lt_length_of_error h
  obtain ⟨called, hsub, hcalls, hends⟩ := callsAt_endsWith (e := e) hk
  have hresult : (e.evaluate ⟨dataset, k, dataset[k]⟩).outcome.mapError .predicateFailed =
      .error error := by
    rwa [resultAt, List.getElem?_eq_getElem hk] at h
  cases houtcome : (e.evaluate ⟨dataset, k, dataset[k]⟩).outcome with
  | ok b => simp [houtcome, Except.mapError] at hresult
  | error failure =>
    obtain rfl : Error.predicateFailed failure = error := by
      simpa [houtcome, Except.mapError] using hresult
    rw [houtcome] at hends
    cases hends with
    | @failure before last reason _ fails =>
      have hlast : last ∈ before ++ [last] :=
        List.mem_append_right _ (List.mem_singleton_self last)
      rw [List.map_append] at hcalls
      exact ⟨_, rfl, h, dataset[k], last.2, _, List.getElem?_eq_getElem hk, hsub.subset hlast,
        fails, hcalls⟩

/-! ## 4. The log of a scan -/

/-- What a scan leaves: its result and its log.  Either the expression is rejected, or there is an
answer and no predicate fails on the way, since all that are called answer, or a predicate fails,
after those called on the records before have answered. -/
inductive ScanLog {α : Type} (e : Expression) (dataset : List Record) (limits : Limits)
    (report : Report α) (first : List LogLine) (last : α → List LogLine)
    (Fails : Nat → PredicateFailure → Prop) : Prop where
  | rejected {error : Error} (rejects : e.check limits = .error error)
      (logs : report.Logs (.error error) [] [.rejected error])
  | answered {a : α} (passes : e.check limits = .ok ())
      (holds : ∀ index failure, ¬ Fails index failure)
      (answers : e.Answers dataset (Journal.calls report.journal))
      (logs : report.Logs (.ok a) first (last a))
  | failed {index : Nat} {failure : PredicateFailure} {before : List FieldContext}
      (passes : e.check limits = .ok ()) (fails : Fails index failure)
      (answers : e.Answers dataset before)
      (calls_eq : Journal.calls report.journal = before ++ e.callsAt dataset index)
      (logs : report.Logs (.error (.predicateFailed failure)) first [.failed failure index])

section ScanLog

variable {α β : Type} {report : Report α} {first : List LogLine} {last : α → List LogLine}
  {Fails : Nat → PredicateFailure → Prop}

/-- An answer may be passed through a function that leaves the lines as they are. -/
theorem ScanLog.map (h : e.ScanLog dataset limits report first last Fails) {f : α → β}
    {last' : β → List LogLine} (hlast : ∀ a, report.result = .ok a → last' (f a) = last a) :
    e.ScanLog dataset limits (report.map f) first last' Fails := by
  cases h with
  | rejected rejects logs => exact .rejected rejects (logs.map f)
  | @answered a passes holds answers logs =>
    have hlogs := logs.map f
    rw [← hlast a logs.result_eq] at hlogs
    exact .answered passes holds answers hlogs
  | failed passes fails answers calls_eq logs =>
    exact .failed passes fails answers calls_eq (logs.map f)

/-- A rejection is on record at once, and else the scan is what comes after validation. -/
theorem ScanLog.of_validate {next : Unit → Report α}
    (h : e.check limits = .ok () → e.ScanLog dataset limits (next ()) first last Fails) :
    e.ScanLog dataset limits ((e.validate limits).bind next) first last Fails := by
  cases hcheck : e.check limits with
  | error error =>
    have hrejected : (e.validate limits).bind next = ⟨[.rejected error], .error error⟩ := by
      rw [validate, hcheck, Report.ofCheck, Report.bind_error]
    rw [hrejected]
    exact .rejected hcheck (Report.logs_of_framed rfl (Journal.framed_closing _) (fun _ => rfl)
      (Journal.lines_of_debug rfl rfl))
  | ok _ =>
    have hpassed : (e.validate limits).bind next = next () := by
      rw [validate, hcheck, Report.ofCheck, Report.bind_ok, List.nil_append]
    rw [hpassed]
    exact h hcheck

/-- What ends with one record and is silent before it. -/
theorem ScanLog.of_resultAt (passes : e.check limits = .ok ()) {f : Bool → α}
    {before : List FieldContext} (hbefore : e.Answers dataset before)
    (hends : report.Ends ((e.resultAt dataset k).map f) (before ++ e.callsAt dataset k))
    (h : report.journal.Framed [] (Journal.failureAt k (e.resultAt dataset k)))
    (hfails : ∀ failure, e.FailsAt dataset k failure → Fails k failure)
    (hholds : ∀ index failure, Fails index failure → e.FailsAt dataset k failure) :
    e.ScanLog dataset limits report [] (fun _ => []) Fails := by
  obtain ⟨hresult, hcalls⟩ := hends
  cases hr : e.resultAt dataset k with
  | ok b =>
    rw [hr] at hresult h
    refine .answered passes (fun index failure hfail => ?_) (hcalls ▸ hbefore.next hr)
      (Report.logs_of_framed hresult h (fun _ => rfl) (fun _ => rfl))
    have hfailure := (hholds index failure hfail).result_eq
    rw [hr] at hfailure
    cases hfailure
  | error error =>
    obtain ⟨failure, rfl, hfail⟩ := failsAt_of_error hr
    rw [hr] at hresult h
    exact .failed passes (hfails failure hfail) hbefore hcalls
      (Report.logs_of_framed hresult h (fun _ => rfl) (Journal.lines_of_debug rfl rfl))

end ScanLog

/-! ## 5. The log of each question -/

theorem filterIndices_scanLog (e : Expression) (dataset : List Record) (limits : Limits) :
    e.ScanLog dataset limits (e.filterIndices dataset limits) [.started e dataset]
      (fun found => [.matched found.length dataset.length]) (e.FailsFirst dataset) := by
  refine .of_validate fun passes => ?_
  have hstart := Journal.framed_opening
    [.started dataset.length e.clauses.length e.combinators.size]
  -- The walk ends at the least record that fails; if there is none it collects to the end.
  rcases least_or_never (fun i => ∃ error, e.resultAt dataset i = .error error) dataset.length
    with ⟨k, _, ⟨error, hk⟩, hbelow⟩ | hnone
  · have hpass : ∀ i < k, ∃ isMatch, e.resultAt dataset i = .ok isMatch :=
      fun i hi => not_error_iff.mp (hbelow i hi)
    have hends := matchesFrom_of_failure hk hpass
    have hwalk := matchesFrom_framed_of_failure hk hpass
    obtain ⟨failure, rfl, hfail⟩ := failsAt_of_error hk
    rw [hk] at hwalk
    obtain ⟨hresult, hcalls⟩ := startedWalk_ends hends
    exact .failed passes ⟨hfail, hpass⟩ (answers_callsBelow hpass)
      (hcalls.trans (callsBelow_succ k)) (Report.logs_of_framed hresult
        (Report.bind_framed hstart rfl (Report.bind_framed_of_error hwalk hends.1 _))
        (Journal.lines_of_debug rfl rfl) (Journal.lines_of_debug rfl rfl))
  · have hall : ∀ i < dataset.length, ∃ isMatch, e.resultAt dataset i = .ok isMatch :=
      fun i hi => not_error_iff.mp (hnone i hi)
    have hends := matchesFrom_of_no_failure hall
    have hfinish := Journal.framed_closing [.finished (e.hits dataset).length dataset.length]
    have hwalk := matchesFrom_framed_of_no_failure hall
    obtain ⟨hresult, hcalls⟩ := startedWalk_ends hends
    refine .answered passes (fun index failure hfail => ?_) (hcalls ▸ answers_callsBelow hall)
      (Report.logs_of_framed hresult
        (Report.bind_framed hstart rfl (Report.bind_framed hwalk hends.1 hfinish))
        (Journal.lines_of_debug rfl rfl) (Journal.lines_of_debug rfl rfl))
    have hfailure := hfail.1.result_eq
    exact hnone index (lt_length_of_error hfailure) ⟨_, hfailure⟩

/-- As many records are returned as indices are found, since all of these are in the dataset. -/
theorem length_records_of_filterIndices {found : List Nat}
    (h : (e.filterIndices dataset limits).result = .ok found) :
    (found.filterMap fun index => dataset[index]?).length = found.length := by
  cases hcheck : e.check limits with
  | error error =>
    have hrefused : e.Refused dataset limits error := refused_of_check hcheck
    cases hrefused.filterIndices.1.symm.trans h
  | ok _ =>
    have hcollects := filterIndices_collects dataset hcheck
    have hhits := (hcollects.1 (hcollects.ok_iff.mp ⟨found, h⟩)).1
    obtain rfl : found = e.hits dataset := Except.ok.inj (h.symm.trans hhits)
    refine List.filterMap_length_eq_length.mpr fun index hindex => ?_
    rw [List.getElem?_eq_getElem (mem_hits_iff.mp hindex).1, Option.isSome_some]

theorem filter_scanLog (e : Expression) (dataset : List Record) (limits : Limits) :
    e.ScanLog dataset limits (e.filter dataset limits) [.started e dataset]
      (fun records => [.matched records.length dataset.length]) (e.FailsFirst dataset) :=
  (filterIndices_scanLog e dataset limits).map fun found hfound => by
    rw [length_records_of_filterIndices hfound]

theorem count_scanLog (e : Expression) (dataset : List Record) (limits : Limits) :
    e.ScanLog dataset limits (e.count dataset limits) [.started e dataset]
      (fun count => [.matched count dataset.length]) (e.FailsFirst dataset) :=
  (filterIndices_scanLog e dataset limits).map fun _ _ => rfl

theorem StopsAt.unique {verdict : Bool} {k' : Nat} (h : e.StopsAt dataset verdict k)
    (h' : e.StopsAt dataset verdict k') : k = k' := by
  rcases Nat.lt_trichotomy k k' with hlt | heq | hgt
  · exact absurd h.2.1 (h'.2.2 k hlt)
  · exact heq
  · exact absurd h'.2.1 (h.2.2 k' hgt)

theorem first_scanLog (e : Expression) (dataset : List Record) (verdict : Bool)
    (limits : Limits) :
    e.ScanLog dataset limits (e.first dataset verdict limits) [] (fun _ => [])
      (e.FailsSeeking dataset verdict) := by
  refine .of_validate fun passes => ?_
  rcases stopsAt_or_never e dataset verdict with ⟨k, hk⟩ | hnever
  · have hpass : ∀ i < k, ∃ isMatch, e.resultAt dataset i = .ok isMatch :=
      fun i hi => ⟨_, not_stops_iff.mp (hk.2.2 i hi)⟩
    have hends := firstFrom_of_stopsAt hk
    rw [callsBelow_succ] at hends
    refine .of_resultAt passes (answers_callsBelow hpass) hends (firstFrom_framed_of_stopsAt hk)
      (fun failure hfail => ⟨hfail, hk⟩) (fun index failure ⟨hfail, hstop⟩ => ?_)
    rwa [hk.unique hstop]
  · have hpass : ∀ i < dataset.length, ∃ isMatch, e.resultAt dataset i = .ok isMatch :=
      fun i hi => ⟨_, not_stops_iff.mp (hnever i hi)⟩
    obtain ⟨hresult, hcalls⟩ := firstFrom_of_never hnever
    refine .answered passes (fun index failure ⟨_, hstop⟩ => ?_)
      (hcalls ▸ answers_callsBelow hpass) (Report.logs_of_framed hresult
        (firstFrom_framed_of_never hnever) (fun _ => rfl) (fun _ => rfl))
    exact hnever index hstop.1 hstop.2.1

theorem matchesAt_scanLog (e : Expression) (dataset : List Record) (index : Nat)
    (limits : Limits) :
    e.ScanLog dataset limits (e.matchesAt dataset index limits) [] (fun _ => [])
      (fun i failure => i = index ∧ e.FailsAt dataset index failure) := by
  refine .of_validate fun passes => ?_
  rcases Nat.lt_or_ge index dataset.length with hlt | hge
  · rw [List.getElem?_eq_getElem hlt]
    refine .of_resultAt (f := id) passes .nil ?_ (evaluateAt_framed hlt)
      (fun failure hfail => ⟨rfl, hfail⟩) (fun _ failure hfail => hfail.2)
    rw [Except.map_id]
    exact evaluateAt_ends hlt
  · rw [List.getElem?_eq_none hge]
    refine .of_resultAt (f := id) passes .nil ?_ ?_ (fun failure hfail => ⟨rfl, hfail⟩)
      (fun _ failure hfail => hfail.2)
    · rw [resultAt_beyond hge, callsAt_beyond hge]
      exact ⟨rfl, rfl⟩
    · rw [resultAt_beyond hge]
      exact Journal.framed_of_quiet (by simp)

end Expression

/-! ## 6. What a filter did, from its log -/

/-- One of three holds, and no two of them. -/
def ExactlyOne (p q r : Prop) : Prop := (p ∨ q ∨ r) ∧ ¬ (p ∧ q) ∧ ¬ (p ∧ r) ∧ ¬ (q ∧ r)

namespace Expression

/-- The log of a filter, and what is read back from its text at debug level: whether the expression
was rejected, how many records were returned, and whether a predicate failed. -/
structure FilterLog {α : Type} (e : Expression) (dataset : List Record) (limits : Limits)
    (report : Report α) (size : α → Nat) : Prop where
  ends : e.ScanLog dataset limits report [.started e dataset]
    (fun a => [.matched (size a) dataset.length]) (e.FailsFirst dataset)
  oneOf : ExactlyOne
    (∃ error, report.journal.lines .debug = [.rejected error])
    (∃ k, report.journal.lines .debug = [.started e dataset, .matched k dataset.length])
    (∃ failure index, report.journal.lines .debug = [.started e dataset, .failed failure index])
  rejected_iff : (∃ error, report.journal.lines .debug = [.rejected error]) ↔
    ∃ error, e.check limits = .error error
  matched_iff : ∀ k, report.journal.lines .debug =
      [.started e dataset, .matched k dataset.length] ↔ ∃ a, report.result = .ok a ∧ size a = k
  failed_iff : (∃ failure index,
      report.journal.lines .debug = [.started e dataset, .failed failure index]) ↔
    e.check limits = .ok () ∧ ∃ index failure, e.FailsFirst dataset index failure

section FilterLog

variable {α : Type} {e : Expression} {dataset : List Record} {limits : Limits}
  {report : Report α} {size : α → Nat}

/-- One line is not two. -/
theorem lines_ne_of_singleton {line line' line'' : LogLine}
    (h : report.journal.lines .debug = [line]) : report.journal.lines .debug ≠ [line', line''] := by
  rw [h]
  simp

theorem lines_ne_of_matched {k n : Nat} {line : LogLine} {failure : PredicateFailure} {index : Nat}
    (h : report.journal.lines .debug = [line, .matched k n]) :
    report.journal.lines .debug ≠ [line, .failed failure index] := by
  rw [h]
  simp [LogLine.matched_ne_failed]

section Readings

variable (h : e.ScanLog dataset limits report [.started e dataset]
  (fun a => [.matched (size a) dataset.length]) (e.FailsFirst dataset))

include h

theorem ScanLog.rejected_iff : (∃ error, report.journal.lines .debug = [.rejected error]) ↔
    ∃ error, e.check limits = .error error := by
  cases h with
  | rejected rejects logs => exact ⟨fun _ => ⟨_, rejects⟩, fun _ => ⟨_, logs.debug⟩⟩
  | answered passes _ _ logs | failed passes _ _ _ logs =>
    constructor
    · rintro ⟨error, hline⟩
      exact absurd logs.debug (lines_ne_of_singleton hline)
    · rintro ⟨error, rejects⟩
      cases passes.symm.trans rejects

theorem ScanLog.matched_iff (k : Nat) : report.journal.lines .debug =
    [.started e dataset, .matched k dataset.length] ↔ ∃ a, report.result = .ok a ∧ size a = k := by
  cases h with
  | rejected _ logs =>
    constructor
    · intro hlines
      exact absurd hlines (lines_ne_of_singleton logs.debug)
    · rintro ⟨a, ha, _⟩
      cases logs.result_eq.symm.trans ha
  | @answered a _ _ _ logs =>
    constructor
    · intro hlines
      have hmatched := logs.debug.symm.trans hlines
      refine ⟨a, logs.result_eq, LogLine.matched_inj (n := dataset.length) ?_⟩
      simpa using hmatched
    · rintro ⟨a', ha', rfl⟩
      obtain rfl : a = a' := Except.ok.inj (logs.result_eq.symm.trans ha')
      exact logs.debug
  | failed _ _ _ _ logs =>
    constructor
    · intro hlines
      exact absurd logs.debug (lines_ne_of_matched hlines)
    · rintro ⟨a, ha, _⟩
      cases logs.result_eq.symm.trans ha

theorem ScanLog.failed_iff : (∃ failure index,
      report.journal.lines .debug = [.started e dataset, .failed failure index]) ↔
    e.check limits = .ok () ∧ ∃ index failure, e.FailsFirst dataset index failure := by
  cases h with
  | rejected rejects logs =>
    constructor
    · rintro ⟨failure, index, hlines⟩
      exact absurd hlines (lines_ne_of_singleton logs.debug)
    · rintro ⟨passes, _⟩
      cases passes.symm.trans rejects
  | answered _ holds _ logs =>
    constructor
    · rintro ⟨failure, index, hlines⟩
      exact absurd hlines (lines_ne_of_matched logs.debug)
    · rintro ⟨_, index, failure, fails⟩
      exact absurd fails (holds index failure)
  | failed passes fails _ _ logs =>
    exact ⟨fun _ => ⟨passes, _, _, fails⟩, fun _ => ⟨_, _, logs.debug⟩⟩

theorem ScanLog.filterLog : e.FilterLog dataset limits report size where
  ends := h
  rejected_iff := h.rejected_iff
  matched_iff := h.matched_iff
  failed_iff := h.failed_iff
  oneOf := by
    refine ⟨?_, ?_, ?_, ?_⟩
    · cases h with
      | rejected _ logs => exact .inl ⟨_, logs.debug⟩
      | answered _ _ _ logs => exact .inr (.inl ⟨_, logs.debug⟩)
      | failed _ _ _ _ logs => exact .inr (.inr ⟨_, _, logs.debug⟩)
    · rintro ⟨⟨_, hrejected⟩, _, hmatched⟩
      exact lines_ne_of_singleton hrejected hmatched
    · rintro ⟨⟨_, hrejected⟩, _, _, hfailed⟩
      exact lines_ne_of_singleton hrejected hfailed
    · rintro ⟨⟨_, hmatched⟩, _, _, hfailed⟩
      exact lines_ne_of_matched hmatched hfailed

end Readings

end FilterLog

/-- **The log tells the truth about every scan.**  A filter leaves its rejection, or its start and
the number of the records that it returns, or its start and the failure at the least index that has
one, and which of the three it was is read off the lines.  The other questions leave nothing when
they have an answer, and else only the rejection or the failure.  An answer means that every
predicate called on the way has answered. -/
theorem logs_truthful (e : Expression) (dataset : List Record) (limits : Limits) :
    e.FilterLog dataset limits (e.filterIndices dataset limits) List.length ∧
    e.FilterLog dataset limits (e.filter dataset limits) List.length ∧
    e.FilterLog dataset limits (e.count dataset limits) id ∧
    e.ScanLog dataset limits (e.position dataset limits) [] (fun _ => []) (e.FailsSeeking dataset true) ∧
    e.ScanLog dataset limits (e.find dataset limits) [] (fun _ => []) (e.FailsSeeking dataset true) ∧
    e.ScanLog dataset limits (e.any dataset limits) [] (fun _ => []) (e.FailsSeeking dataset true) ∧
    e.ScanLog dataset limits (e.all dataset limits) [] (fun _ => []) (e.FailsSeeking dataset false) ∧
    ∀ index, e.ScanLog dataset limits (e.matchesAt dataset index limits) [] (fun _ => [])
      (fun i failure => i = index ∧ e.FailsAt dataset index failure) := by
  have hmatch := first_scanLog e dataset true limits
  have hmiss := first_scanLog e dataset false limits
  exact ⟨(filterIndices_scanLog e dataset limits).filterLog,
    (filter_scanLog e dataset limits).filterLog, (count_scanLog e dataset limits).filterLog,
    hmatch, hmatch.map fun _ _ => rfl, hmatch.map fun _ _ => rfl, hmiss.map fun _ _ => rfl,
    fun index => matchesAt_scanLog e dataset index limits⟩

/-- A predicate that fails on the second of two records. -/
example :
    let unflagged : Predicate := ⟨fun c => if c.value.isSome then .error "present" else .ok true⟩
    let e : Expression := ⟨[("flag", .predicate unflagged)], .empty⟩
    (e.filter [⟨[]⟩, ⟨[("flag", .null)]⟩] ⟨8⟩).journal.lines .debug = [
      ⟨.debug, "filtering 2 records with 1 fields and 0 combinators"⟩,
      ⟨.debug, "predicate on field 'flag' failed at index 1: present"⟩] := by
  rfl

end Expression

end RecordFilter
