/-
# Scans by the outcomes of single records

Every question over a dataset is answered by a walk from its front.  The answer, the place where the
walk stops and the predicates it calls depend on the records one by one: on the outcome of
evaluating each alone, and on the calls that evaluation makes.

Nothing is carried from one record to the next but the indices found so far.  So a walk that has
passed the records below an index goes on as a walk over the rest of the dataset would
(`firstFrom_of_drop`, `matchesFrom_of_drop`), and the theorems about whole walks look at one record
only, the one that stops them, or at none.
-/
import Mathlib.Data.Nat.Find
import RecordFilter.Scan

namespace RecordFilter

/-! ## 1. Reports without their log lines -/

section Ends

variable {α β : Type}

/-- The report ends with the result, after exactly these calls of predicates. -/
def Report.Ends (report : Report α) (result : Except Error α) (calls : List FieldContext) : Prop :=
  report.result = result ∧ Journal.calls report.journal = calls

theorem Report.Ends.map {report : Report α} {result : Except Error α} {calls : List FieldContext}
    (h : report.Ends result calls) (f : α → β) : (report.map f).Ends (result.map f) calls :=
  ⟨congrArg (Except.map f) h.1, h.2⟩

theorem Report.Ends.bind_ok {report : Report α} {a : α} {calls : List FieldContext}
    (h : report.Ends (.ok a) calls) {next : α → Report β} {result : Except Error β}
    {more : List FieldContext} (hnext : (next a).Ends result more) :
    (report.bind next).Ends result (calls ++ more) := by
  obtain ⟨journal, _⟩ := report
  obtain ⟨rfl, rfl⟩ := h
  obtain ⟨rfl, rfl⟩ := hnext
  exact ⟨rfl, Journal.calls_append _ _⟩

theorem Report.Ends.bind_error {report : Report α} {error : Error} {calls : List FieldContext}
    (h : report.Ends (.error error) calls) (next : α → Report β) :
    (report.bind next).Ends (.error error) calls := by
  obtain ⟨journal, _⟩ := report
  obtain ⟨rfl, rfl⟩ := h
  exact ⟨rfl, rfl⟩

/-- A refusal is on record, but it calls nothing. -/
theorem Report.ofCheck_ends (x : Except Error α) : (Report.ofCheck x).Ends x [] := by
  cases x <;> exact ⟨rfl, rfl⟩

end Ends

theorem Evaluation.result_ok_iff {evaluation : Evaluation} {b : Bool} :
    evaluation.result = .ok b ↔ evaluation.outcome = .ok b := by
  unfold Evaluation.result
  cases evaluation.outcome <;> simp [Except.mapError]

namespace Expression

variable (e : Expression) (dataset : List Record)

/-! ## 2. Single records -/

/-- The outcome of evaluating the record at an index.  Beyond the end no record matches. -/
def resultAt (index : Nat) : Except Error Bool :=
  match dataset[index]? with
  | some record => (e.evaluate ⟨dataset, index, record⟩).result
  | none => .ok false

/-- The calls that evaluating the record at an index makes. -/
def callsAt (index : Nat) : List FieldContext :=
  match dataset[index]? with
  | some record => Journal.calls (e.evaluate ⟨dataset, index, record⟩).events
  | none => []

/-- The calls that evaluating the records below an index makes, one record after the other. -/
def callsBelow (index : Nat) : List FieldContext := (List.range index).flatMap (e.callsAt dataset)

/-- Is the outcome a match? -/
def isHit : Except Error Bool → Bool
  | .ok isMatch => isMatch
  | .error _ => false

/-- The indices below one whose records match, in increasing order. -/
def hitsBelow (index : Nat) : List Nat :=
  (List.range index).filter fun i => isHit (e.resultAt dataset i)

/-- The indices of the records that match. -/
def hits : List Nat := e.hitsBelow dataset dataset.length

/-- The outcome stops a walk that looks for the verdict: it is the verdict, or an error. -/
def Stops (verdict : Bool) : Except Error Bool → Prop
  | .ok isMatch => isMatch = verdict
  | .error _ => True

/-- The index is the least whose outcome stops a walk that looks for the verdict. -/
def StopsAt (verdict : Bool) (index : Nat) : Prop :=
  index < dataset.length ∧ Stops verdict (e.resultAt dataset index) ∧
    ∀ i < index, ¬ Stops verdict (e.resultAt dataset i)

variable {e dataset}

theorem isHit_iff {outcome : Except Error Bool} : isHit outcome = true ↔ outcome = .ok true := by
  cases outcome <;> simp [isHit]

theorem not_stops_iff {verdict : Bool} {outcome : Except Error Bool} :
    ¬ Stops verdict outcome ↔ outcome = .ok (!verdict) := by
  cases outcome with
  | error _ => simp [Stops]
  | ok isMatch => cases isMatch <;> cases verdict <;> simp [Stops]

theorem resultAt_beyond {index : Nat} (h : dataset.length ≤ index) :
    e.resultAt dataset index = .ok false := by
  rw [resultAt, List.getElem?_eq_none h]

theorem callsAt_beyond {index : Nat} (h : dataset.length ≤ index) :
    e.callsAt dataset index = [] := by
  rw [callsAt, List.getElem?_eq_none h]

theorem lt_length_of_error {index : Nat} {error : Error}
    (h : e.resultAt dataset index = .error error) : index < dataset.length := by
  rcases Nat.lt_or_ge index dataset.length with hlt | hge
  · exact hlt
  · rw [resultAt_beyond hge] at h
    simp at h

theorem callsBelow_succ (index : Nat) :
    e.callsBelow dataset (index + 1) = e.callsBelow dataset index ++ e.callsAt dataset index := by
  simp [callsBelow, List.range_succ]

theorem hitsBelow_succ {index : Nat} {isMatch : Bool}
    (h : e.resultAt dataset index = .ok isMatch) :
    e.hitsBelow dataset (index + 1) =
      e.hitsBelow dataset index ++ (if isMatch then [index] else []) := by
  cases isMatch <;> simp [hitsBelow, List.range_succ, isHit, h]

theorem evaluateAt_ends {index : Nat} (h : index < dataset.length) :
    (e.evaluateAt dataset index dataset[index]).Ends (e.resultAt dataset index)
      (e.callsAt dataset index) := by
  simp only [resultAt, callsAt, List.getElem?_eq_getElem h]
  exact ⟨rfl, rfl⟩

/-! ## 3. The walk to the first verdict -/

/-- One step: a record that does not stop the walk adds its calls. -/
theorem firstFrom_passes {verdict : Bool} {k : Nat} (hk : k < dataset.length)
    (h : ¬ Stops verdict (e.resultAt dataset k)) {result : Except Error (Option Nat)}
    {calls : List FieldContext}
    (hrest : (e.firstFrom dataset verdict (dataset.drop (k + 1)) (k + 1)).Ends result calls) :
    (e.firstFrom dataset verdict (dataset.drop k) k).Ends result
      (e.callsAt dataset k ++ calls) := by
  have hat := evaluateAt_ends (e := e) hk
  rw [not_stops_iff.mp h] at hat
  rw [List.drop_eq_getElem_cons hk, firstFrom]
  refine hat.bind_ok ?_
  rw [if_neg (by cases verdict <;> decide)]
  exact hrest

/-- The other step: a record that stops the walk has the last word. -/
theorem firstFrom_stops {verdict : Bool} {k : Nat} (hk : k < dataset.length)
    (h : Stops verdict (e.resultAt dataset k)) :
    (e.firstFrom dataset verdict (dataset.drop k) k).Ends
      ((e.resultAt dataset k).map fun _ => some k) (e.callsAt dataset k) := by
  have hat := evaluateAt_ends (e := e) hk
  rw [List.drop_eq_getElem_cons hk, firstFrom]
  cases hr : e.resultAt dataset k with
  | error error =>
    rw [hr] at hat
    exact hat.bind_error _
  | ok isMatch =>
    rw [hr] at hat h
    obtain rfl : isMatch = verdict := h
    rw [← List.append_nil (e.callsAt dataset k)]
    refine hat.bind_ok ?_
    rw [if_pos (beq_self_eq_true isMatch)]
    exact ⟨rfl, rfl⟩

/-- The walk past the records below an index is the walk from there. -/
theorem firstFrom_of_drop {verdict : Bool} : ∀ {k : Nat}, k ≤ dataset.length →
    (∀ i < k, ¬ Stops verdict (e.resultAt dataset i)) →
    ∀ {result : Except Error (Option Nat)} {calls : List FieldContext},
      (e.firstFrom dataset verdict (dataset.drop k) k).Ends result calls →
      (e.firstFrom dataset verdict dataset 0).Ends result (e.callsBelow dataset k ++ calls)
  | 0, _, _, _, _, h => h
  | k + 1, hk, hpass, _, _, h => by
    have hstep := firstFrom_passes (by omega) (hpass k (by omega)) h
    rw [callsBelow_succ, List.append_assoc]
    exact firstFrom_of_drop (by omega) (fun i hi => hpass i (by omega)) hstep

theorem firstFrom_of_stopsAt {verdict : Bool} {k : Nat} (h : e.StopsAt dataset verdict k) :
    (e.firstFrom dataset verdict dataset 0).Ends ((e.resultAt dataset k).map fun _ => some k)
      (e.callsBelow dataset (k + 1)) := by
  obtain ⟨hk, hstop, hbelow⟩ := h
  rw [callsBelow_succ]
  exact firstFrom_of_drop (by omega) hbelow (firstFrom_stops hk hstop)

theorem firstFrom_of_never {verdict : Bool}
    (h : ∀ i < dataset.length, ¬ Stops verdict (e.resultAt dataset i)) :
    (e.firstFrom dataset verdict dataset 0).Ends (.ok none)
      (e.callsBelow dataset dataset.length) := by
  have hend : (e.firstFrom dataset verdict (dataset.drop dataset.length) dataset.length).Ends
      (.ok none) [] := by
    rw [List.drop_length, firstFrom]
    exact ⟨rfl, rfl⟩
  rw [← List.append_nil (e.callsBelow _ _)]
  exact firstFrom_of_drop (Nat.le_refl _) h hend

/-! ## 4. The walk that collects -/

/-- One step: a record without a failure adds its index, if it matches, and its calls. -/
theorem matchesFrom_passes {k : Nat} (hk : k < dataset.length) {isMatch : Bool}
    (h : e.resultAt dataset k = .ok isMatch) {result : Except Error (List Nat)}
    {calls : List FieldContext}
    (hrest : (e.matchesFrom dataset (dataset.drop (k + 1)) (k + 1)).Ends result calls) :
    (e.matchesFrom dataset (dataset.drop k) k).Ends
      (result.map fun found => (if isMatch then [k] else []) ++ found)
      (e.callsAt dataset k ++ calls) := by
  have hat := evaluateAt_ends (e := e) hk
  rw [h] at hat
  rw [List.drop_eq_getElem_cons hk, matchesFrom]
  refine hat.bind_ok ?_
  cases isMatch <;> exact hrest.map _

/-- The other step: a failure ends the walk. -/
theorem matchesFrom_fails {k : Nat} (hk : k < dataset.length) {error : Error}
    (h : e.resultAt dataset k = .error error) :
    (e.matchesFrom dataset (dataset.drop k) k).Ends (.error error) (e.callsAt dataset k) := by
  have hat := evaluateAt_ends (e := e) hk
  rw [h] at hat
  rw [List.drop_eq_getElem_cons hk, matchesFrom]
  exact hat.bind_error _

/-- The walk past the records below an index is the walk from there, after their hits. -/
theorem matchesFrom_of_drop : ∀ {k : Nat}, k ≤ dataset.length →
    (∀ i < k, ∃ isMatch, e.resultAt dataset i = .ok isMatch) →
    ∀ {result : Except Error (List Nat)} {calls : List FieldContext},
      (e.matchesFrom dataset (dataset.drop k) k).Ends result calls →
      (e.matchesFrom dataset dataset 0).Ends
        (result.map fun found => e.hitsBelow dataset k ++ found) (e.callsBelow dataset k ++ calls)
  | 0, _, _, result, _, h => by
    have hid : (result.map fun found => e.hitsBelow dataset 0 ++ found) = result := by
      cases result <;> rfl
    rw [hid]
    exact h
  | k + 1, hk, hpass, result, _, h => by
    obtain ⟨isMatch, hr⟩ := hpass k (by omega)
    have hstep := matchesFrom_passes (by omega) hr h
    have hwhole := matchesFrom_of_drop (by omega) (fun i hi => hpass i (by omega)) hstep
    have hmap : ((result.map fun found => (if isMatch then [k] else []) ++ found).map
        fun found => e.hitsBelow dataset k ++ found) =
          result.map fun found => e.hitsBelow dataset (k + 1) ++ found := by
      cases result with
      | error _ => rfl
      | ok found => simp [Except.map, hitsBelow_succ hr]
    rw [callsBelow_succ, List.append_assoc, ← hmap]
    exact hwhole

theorem matchesFrom_of_failure {k : Nat} {error : Error}
    (h : e.resultAt dataset k = .error error)
    (hbelow : ∀ i < k, ∃ isMatch, e.resultAt dataset i = .ok isMatch) :
    (e.matchesFrom dataset dataset 0).Ends (.error error) (e.callsBelow dataset (k + 1)) := by
  have hk := lt_length_of_error h
  rw [callsBelow_succ]
  exact matchesFrom_of_drop (by omega) hbelow (matchesFrom_fails hk h)

theorem matchesFrom_of_no_failure
    (h : ∀ i < dataset.length, ∃ isMatch, e.resultAt dataset i = .ok isMatch) :
    (e.matchesFrom dataset dataset 0).Ends (.ok (e.hits dataset))
      (e.callsBelow dataset dataset.length) := by
  have hend : (e.matchesFrom dataset (dataset.drop dataset.length) dataset.length).Ends
      (.ok []) [] := by
    rw [List.drop_length, matchesFrom]
    exact ⟨rfl, rfl⟩
  have hwhole := matchesFrom_of_drop (Nat.le_refl _) h hend
  rw [List.append_nil] at hwhole
  simpa [Except.map, hits] using hwhole

/-! ## 5. Questions -/

/-- The report of a walk that only a failure stops: an answer if no record fails, and the error of
the least index that does. -/
def Collects {α : Type} (e : Expression) (dataset : List Record) (report : Report α)
    (answer : α) : Prop :=
  ((∀ i < dataset.length, ∃ isMatch, e.resultAt dataset i = .ok isMatch) →
    report.Ends (.ok answer) (e.callsBelow dataset dataset.length)) ∧
  ∀ k error, e.resultAt dataset k = .error error →
    (∀ i < k, ∃ isMatch, e.resultAt dataset i = .ok isMatch) →
    report.Ends (.error error) (e.callsBelow dataset (k + 1))

/-- The report of a walk to the first verdict: an answer or an error at the least index that stops
it, and another answer if none does. -/
def Seeks {α : Type} (e : Expression) (dataset : List Record) (verdict : Bool) (report : Report α)
    (found : Nat → α) (never : α) : Prop :=
  (∀ k, e.StopsAt dataset verdict k →
    report.Ends ((e.resultAt dataset k).map fun _ => found k) (e.callsBelow dataset (k + 1))) ∧
  ((∀ i < dataset.length, ¬ Stops verdict (e.resultAt dataset i)) →
    report.Ends (.ok never) (e.callsBelow dataset dataset.length))

theorem Collects.map {α β : Type} {report : Report α} {answer : α}
    (h : e.Collects dataset report answer) (f : α → β) :
    e.Collects dataset (report.map f) (f answer) :=
  ⟨fun hall => (h.1 hall).map f, fun k error hk hbelow => (h.2 k error hk hbelow).map f⟩

theorem Seeks.map {α β : Type} {verdict : Bool} {report : Report α} {found : Nat → α} {never : α}
    (h : e.Seeks dataset verdict report found never) (f : α → β) :
    e.Seeks dataset verdict (report.map f) (fun k => f (found k)) (f never) := by
  refine ⟨fun k hk => ?_, fun hnever => (h.2 hnever).map f⟩
  have hmap := (h.1 k hk).map f
  cases hr : e.resultAt dataset k <;> rw [hr] at hmap <;> exact hmap

section Questions

variable {limits : Limits}

theorem validate_ends (e : Expression) (limits : Limits) :
    (e.validate limits).Ends (e.check limits) [] :=
  Report.ofCheck_ends _

theorem validate_passes (h : e.check limits = .ok ()) : (e.validate limits).Ends (.ok ()) [] :=
  h ▸ validate_ends e limits

/-- The walk of a filter ends as it does without the events at its start and at its end. -/
theorem startedWalk_ends {result : Except Error (List Nat)} {calls : List FieldContext}
    (hwalk : (e.matchesFrom dataset dataset 0).Ends result calls) :
    (Report.bind ⟨[.started dataset.length e.clauses.length e.combinators.size], .ok ()⟩
      fun _ : Unit => (e.matchesFrom dataset dataset 0).bind fun found =>
        ⟨[.finished found.length dataset.length], .ok found⟩).Ends result calls := by
  have hstart : (Report.mk [.started dataset.length e.clauses.length e.combinators.size]
      (.ok ())).Ends (.ok ()) [] := ⟨rfl, rfl⟩
  refine hstart.bind_ok ?_
  cases result with
  | error error => exact hwalk.bind_error _
  | ok found =>
    rw [← List.append_nil calls]
    exact hwalk.bind_ok ⟨rfl, rfl⟩

theorem filterIndices_ends (h : e.check limits = .ok ()) {result : Except Error (List Nat)}
    {calls : List FieldContext} (hwalk : (e.matchesFrom dataset dataset 0).Ends result calls) :
    (e.filterIndices dataset limits).Ends result calls :=
  (validate_passes h).bind_ok (startedWalk_ends hwalk)

theorem filterIndices_collects (dataset : List Record) (h : e.check limits = .ok ()) :
    e.Collects dataset (e.filterIndices dataset limits) (e.hits dataset) :=
  ⟨fun hall => filterIndices_ends h (matchesFrom_of_no_failure hall),
    fun _ _ hk hbelow => filterIndices_ends h (matchesFrom_of_failure hk hbelow)⟩

theorem first_seeks (dataset : List Record) (h : e.check limits = .ok ()) (verdict : Bool) :
    e.Seeks dataset verdict (e.first dataset verdict limits) some none := by
  have hvalid := validate_passes h
  exact ⟨fun k hk => hvalid.bind_ok (firstFrom_of_stopsAt hk),
    fun hnever => hvalid.bind_ok (firstFrom_of_never hnever)⟩

theorem matchesAt_ends (dataset : List Record) (h : e.check limits = .ok ()) (index : Nat) :
    (e.matchesAt dataset index limits).Ends (e.resultAt dataset index)
      (e.callsAt dataset index) := by
  have hvalid := validate_passes h
  rw [← List.nil_append (e.callsAt dataset index)]
  refine hvalid.bind_ok ?_
  unfold resultAt callsAt
  cases dataset[index]? <;> exact ⟨rfl, rfl⟩

/-- A record is asked about after the expression has passed. -/
theorem matchesAt_result (e : Expression) (dataset : List Record) (index : Nat) (limits : Limits) :
    (e.matchesAt dataset index limits).result = (do e.check limits; e.resultAt dataset index) := by
  cases h : e.check limits with
  | ok _ => exact (matchesAt_ends dataset h index).1
  | error error =>
    have hrefused := (validate_ends e limits).1
    rw [h] at hrefused
    rw [matchesAt, Report.bind, hrefused]
    rfl

end Questions

/-! ## 6. Whether a walk stops -/

/-- Some index below a bound is the least with a property, or none has it. -/
theorem least_or_never (P : Nat → Prop) (n : Nat) :
    (∃ k < n, P k ∧ ∀ i < k, ¬ P i) ∨ ∀ i < n, ¬ P i := by
  classical
  by_cases h : ∃ i, i < n ∧ P i
  · obtain ⟨hlt, hP⟩ := Nat.find_spec h
    refine .inl ⟨Nat.find h, hlt, hP, fun i hi hPi => ?_⟩
    exact Nat.find_min h hi ⟨Nat.lt_trans hi hlt, hPi⟩
  · exact .inr fun i hi hP => h ⟨i, hi, hP⟩

theorem stopsAt_or_never (e : Expression) (dataset : List Record) (verdict : Bool) :
    (∃ k, e.StopsAt dataset verdict k) ∨
      ∀ i < dataset.length, ¬ Stops verdict (e.resultAt dataset i) :=
  least_or_never (fun i => Stops verdict (e.resultAt dataset i)) dataset.length

theorem not_error_iff {outcome : Except Error Bool} :
    (¬ ∃ error, outcome = .error error) ↔ ∃ isMatch, outcome = .ok isMatch := by
  cases outcome <;> simp

/-- A walk that collects has an answer exactly if no record fails. -/
theorem Collects.ok_iff {α : Type} {report : Report α} {answer : α}
    (h : e.Collects dataset report answer) :
    (∃ a, report.result = .ok a) ↔
      ∀ i < dataset.length, ∃ isMatch, e.resultAt dataset i = .ok isMatch := by
  constructor
  · rintro ⟨a, ha⟩
    rcases least_or_never (fun i => ∃ error, e.resultAt dataset i = .error error)
      dataset.length with ⟨k, _, ⟨error, hk⟩, hbelow⟩ | hnone
    · have herror := (h.2 k error hk fun i hi => not_error_iff.mp (hbelow i hi)).1
      rw [ha] at herror
      simp at herror
    · exact fun i hi => not_error_iff.mp (hnone i hi)
  · exact fun hall => ⟨answer, (h.1 hall).1⟩

/-! ## 7. Where the hits are -/

theorem hits_increasing : (e.hits dataset).Pairwise (· < ·) :=
  List.pairwise_lt_range.filter _

theorem mem_hits_iff {index : Nat} :
    index ∈ e.hits dataset ↔ index < dataset.length ∧ e.resultAt dataset index = .ok true := by
  rw [hits, hitsBelow, List.mem_filter, List.mem_range, isHit_iff]

theorem head?_hits_of_stopsAt {k : Nat} (h : e.StopsAt dataset true k)
    (hk : e.resultAt dataset k = .ok true) : (e.hits dataset).head? = some k := by
  obtain ⟨hlt, _, hbelow⟩ := h
  rw [hits, hitsBelow, List.head?_filter, List.find?_range_eq_some]
  refine ⟨isHit_iff.mpr hk, List.mem_range.mpr hlt, fun i hi => ?_⟩
  rw [not_stops_iff.mp (hbelow i hi)]
  rfl

theorem hits_of_never (h : ∀ i < dataset.length, ¬ Stops true (e.resultAt dataset i)) :
    e.hits dataset = [] := by
  rw [hits, hitsBelow, List.filter_eq_nil_iff]
  intro i hi
  rw [not_stops_iff.mp (h i (List.mem_range.mp hi))]
  decide

theorem length_hits_iff : (e.hits dataset).length = dataset.length ↔
    ∀ i < dataset.length, e.resultAt dataset i = .ok true := by
  have hlength : (List.range dataset.length).length = dataset.length := List.length_range
  have hfilter := List.length_filter_eq_length_iff (l := List.range dataset.length)
    (p := fun i => isHit (e.resultAt dataset i))
  rw [hlength] at hfilter
  rw [hits, hitsBelow, hfilter]
  simp only [List.mem_range, isHit_iff]

/-- If no record fails, the walk to the first match finds the first hit. -/
theorem Seeks.result_match {α : Type} {report : Report α} {found : Nat → α} {never : α}
    (h : e.Seeks dataset true report found never)
    (hall : ∀ i < dataset.length, ∃ isMatch, e.resultAt dataset i = .ok isMatch) :
    report.result = .ok ((e.hits dataset).head?.elim never found) := by
  rcases stopsAt_or_never e dataset true with ⟨k, hk⟩ | hnever
  · obtain ⟨isMatch, hr⟩ := hall k hk.1
    have hstop : isMatch = true := by simpa [hr, Stops] using hk.2.1
    rw [hstop] at hr
    rw [head?_hits_of_stopsAt hk hr, (h.1 k hk).1, hr]
    rfl
  · rw [hits_of_never hnever, (h.2 hnever).1]
    rfl

/-- If no record fails, the walk to the first miss finds none exactly if every record is a hit. -/
theorem Seeks.result_miss {report : Report Bool}
    (h : e.Seeks dataset false report (fun _ => false) true)
    (hall : ∀ i < dataset.length, ∃ isMatch, e.resultAt dataset i = .ok isMatch) :
    report.result = .ok ((e.hits dataset).length == dataset.length) := by
  rcases stopsAt_or_never e dataset false with ⟨k, hk⟩ | hnever
  · obtain ⟨isMatch, hr⟩ := hall k hk.1
    have hmiss : (e.hits dataset).length ≠ dataset.length := by
      intro hlength
      have htrue := length_hits_iff.mp hlength k hk.1
      have hstop := hk.2.1
      rw [htrue] at hstop
      simp [Stops] at hstop
    rw [(h.1 k hk).1, hr, beq_eq_false_iff_ne.mpr hmiss]
    rfl
  · have hlength : (e.hits dataset).length = dataset.length :=
      length_hits_iff.mpr fun i hi => not_stops_iff.mp (hnever i hi)
    rw [(h.2 hnever).1, hlength, beq_self_eq_true]

/-! ## 8. Whole scans -/

/-- Every question ends in the error, and none calls a predicate. -/
structure Refused (e : Expression) (dataset : List Record) (limits : Limits) (error : Error) :
    Prop where
  filterIndices : (e.filterIndices dataset limits).Ends (.error error) []
  filter : (e.filter dataset limits).Ends (.error error) []
  count : (e.count dataset limits).Ends (.error error) []
  position : (e.position dataset limits).Ends (.error error) []
  find : (e.find dataset limits).Ends (.error error) []
  any : (e.any dataset limits).Ends (.error error) []
  all : (e.all dataset limits).Ends (.error error) []
  matchesAt : ∀ index, (e.matchesAt dataset index limits).Ends (.error error) []

/-- Every question is answered by the outcomes of the records alone. -/
structure Determined (e : Expression) (dataset : List Record) (limits : Limits) : Prop where
  hits_increasing : (e.hits dataset).Pairwise (· < ·)
  mem_hits : ∀ index, index ∈ e.hits dataset ↔
    index < dataset.length ∧ e.resultAt dataset index = .ok true
  filterIndices : e.Collects dataset (e.filterIndices dataset limits) (e.hits dataset)
  filter : e.Collects dataset (e.filter dataset limits)
    ((e.hits dataset).filterMap fun index => dataset[index]?)
  count : e.Collects dataset (e.count dataset limits) (e.hits dataset).length
  ok_iff : (∃ found, (e.filterIndices dataset limits).result = .ok found) ↔
    ∀ i < dataset.length, ∃ isMatch, e.resultAt dataset i = .ok isMatch
  position : e.Seeks dataset true (e.position dataset limits) some none
  find : e.Seeks dataset true (e.find dataset limits)
    (fun index => dataset[index]?.map fun record => (index, record)) none
  any : e.Seeks dataset true (e.any dataset limits) (fun _ => true) false
  all : e.Seeks dataset false (e.all dataset limits) (fun _ => false) true
  matchesAt : ∀ index, (e.matchesAt dataset index limits).Ends (e.resultAt dataset index)
    (e.callsAt dataset index)
  matchesAt_beyond : ∀ index, dataset.length ≤ index →
    (e.matchesAt dataset index limits).Ends (.ok false) []
  agree : ∀ found, (e.filterIndices dataset limits).result = .ok found →
    (e.position dataset limits).result = .ok found.head? ∧
    (e.find dataset limits).result =
      .ok (found.head?.bind fun index => dataset[index]?.map fun record => (index, record)) ∧
    (e.any dataset limits).result = .ok (!found.isEmpty) ∧
    (e.all dataset limits).result = .ok (found.length == dataset.length)

section Scans

variable {limits : Limits}

theorem refused_of_check {error : Error} (h : e.check limits = .error error) :
    e.Refused dataset limits error := by
  have hvalid := validate_ends e limits
  rw [h] at hvalid
  have hfilter : (e.filterIndices dataset limits).Ends (.error error) [] := hvalid.bind_error _
  have hfirst : ∀ verdict, (e.first dataset verdict limits).Ends (.error error) [] :=
    fun _ => hvalid.bind_error _
  exact {
    filterIndices := hfilter
    filter := hfilter.map _
    count := hfilter.map _
    position := hfirst true
    find := (hfirst true).map _
    any := (hfirst true).map _
    all := (hfirst false).map _
    matchesAt := fun _ => hvalid.bind_error _ }

/-- The walks that look for a match and the one that looks for a miss, from the hits. -/
theorem agree_of_hits (h : e.check limits = .ok ()) {found : List Nat}
    (hfound : (e.filterIndices dataset limits).result = .ok found) :
    (e.position dataset limits).result = .ok found.head? ∧
    (e.find dataset limits).result =
      .ok (found.head?.bind fun index => dataset[index]?.map fun record => (index, record)) ∧
    (e.any dataset limits).result = .ok (!found.isEmpty) ∧
    (e.all dataset limits).result = .ok (found.length == dataset.length) := by
  have hcollects := filterIndices_collects dataset h
  have hall := hcollects.ok_iff.mp ⟨found, hfound⟩
  obtain rfl : e.hits dataset = found := by
    have hends := (hcollects.1 hall).1
    rw [hfound] at hends
    exact (Except.ok.inj hends).symm
  have hmatch := first_seeks dataset h true
  have hmiss := first_seeks dataset h false
  refine ⟨(hmatch.result_match hall).trans ?_, ((hmatch.map _).result_match hall).trans ?_,
    ((hmatch.map _).result_match hall).trans ?_, (hmiss.map _).result_miss hall⟩
  · cases (e.hits dataset).head? <;> rfl
  · cases (e.hits dataset).head? <;> rfl
  · cases e.hits dataset <;> rfl

theorem determined_of_check (h : e.check limits = .ok ()) : e.Determined dataset limits := by
  have hfilter := filterIndices_collects dataset h
  have hmatch := first_seeks dataset h true
  exact {
    hits_increasing := hits_increasing
    mem_hits := fun _ => mem_hits_iff
    filterIndices := hfilter
    filter := hfilter.map _
    count := hfilter.map _
    ok_iff := hfilter.ok_iff
    position := hmatch
    find := hmatch.map _
    any := hmatch.map _
    all := (first_seeks dataset h false).map _
    matchesAt := matchesAt_ends dataset h
    matchesAt_beyond := fun index hge => by
      have hends := matchesAt_ends dataset h index
      rwa [resultAt_beyond hge, callsAt_beyond hge] at hends
    agree := fun _ => agree_of_hits h }

end Scans

/-- **Scans are determined by the outcomes of single records.**  An expression that is refused is
refused by every question before a predicate is called; any other is answered by the outcomes, and
the calls are those of the records up to where the walk stops. -/
theorem scans_determined (e : Expression) (dataset : List Record) (limits : Limits) :
    match (e.validate limits).result with
    | .ok _ => e.Determined dataset limits
    | .error error => e.Refused dataset limits error := by
  rw [(validate_ends e limits).1]
  cases h : e.check limits with
  | ok _ => exact determined_of_check h
  | error error => exact refused_of_check h

end Expression

end RecordFilter
