/-
# Filters one after the other

A predicate that looks at its field, the field's value and the record alone answers the same
wherever the record stands.  An expression with no other predicates has one outcome for each record
(`Expression.resultOn`), and filtering by it keeps the records whose outcome is a match, provided
that none is a failure (`Expression.filter_ok_iff_of_ignoresPlace`).

So the second of two filters, which sees a shorter dataset with other indices, finds on each record
what it would have found in the first dataset; and the list of both under `$AND` asks the second
expression exactly on the records that the first lets through.
-/
import RecordFilter.Proofs.Locality
import RecordFilter.Proofs.Scans
import RecordFilter.Proofs.Validity

namespace RecordFilter

/-! ## 1. Predicates that ignore the place of a record -/

/-- The predicate answers by field, value and record, whatever the index and the dataset. -/
def Predicate.IgnoresPlace (p : Predicate) : Prop :=
  ∀ c c' : FieldContext, c.field = c'.field → c.value = c'.value → c.record = c'.record →
    p.call c = p.call c'

namespace Expression

/-- Every predicate of the expression ignores the place of a record. -/
def IgnoresPlace (e : Expression) : Prop := ∀ o ∈ e.predicates, o.2.IgnoresPlace

/-- The outcome on a record that stands in no dataset. -/
def resultOn (e : Expression) (record : Record) : Except Error Bool :=
  (e.evaluate ⟨[], 0, record⟩).result

variable {e f : Expression} {dataset : List Record} {limits : Limits}

theorem resultAt_eq_resultOn (h : e.IgnoresPlace) {index : Nat} (hi : index < dataset.length) :
    e.resultAt dataset index = e.resultOn dataset[index] := by
  have agree : Scope.AgreeOn ⟨dataset, index, dataset[index]⟩ ⟨[], 0, dataset[index]⟩
      e.fieldNames e.predicates :=
    ⟨fun _ _ => rfl, fun o ho => h o ho _ _ rfl rfl rfl⟩
  have houtcome := Expression.evaluate_outcome_of_agree.1 e agree
  rw [resultAt, List.getElem?_eq_getElem hi]
  exact congrArg (Except.mapError Error.predicateFailed) houtcome

/-! ## 2. A filter by the outcomes on its records -/

theorem filter_ok_iff (h : e.check limits = .ok ()) {found : List Record} :
    (e.filter dataset limits).result = .ok found ↔
      (∀ i < dataset.length, ∃ isMatch, e.resultAt dataset i = .ok isMatch) ∧
        found = (e.hits dataset).filterMap fun index => dataset[index]? := by
  have hcollects := (filterIndices_collects dataset h).map fun found =>
    found.filterMap fun index => dataset[index]?
  constructor
  · intro hfound
    have hall := hcollects.ok_iff.mp ⟨found, hfound⟩
    have hends := (hcollects.1 hall).1
    exact ⟨hall, Except.ok.inj (hfound.symm.trans hends)⟩
  · rintro ⟨hall, rfl⟩
    exact (hcollects.1 hall).1

/-- The records of the hits below an index are the matches among the records before it. -/
theorem hitsBelow_records (h : e.IgnoresPlace)
    (hall : ∀ i < dataset.length, ∃ isMatch, e.resultAt dataset i = .ok isMatch) :
    ∀ {index : Nat}, index ≤ dataset.length →
      (e.hitsBelow dataset index).filterMap (fun i => dataset[i]?) =
        (dataset.take index).filter fun record => isHit (e.resultOn record)
  | 0, _ => by simp [hitsBelow]
  | index + 1, hle => by
    have hi : index < dataset.length := by omega
    obtain ⟨isMatch, hr⟩ := hall index hi
    have hon := resultAt_eq_resultOn h hi
    rw [hr] at hon
    rw [hitsBelow_succ hr, List.filterMap_append, hitsBelow_records h hall (by omega),
      List.take_succ_eq_append_getElem hi, List.filter_append]
    cases isMatch <;> simp [← hon, isHit, hi]

/-- **A filter keeps the matches, provided that no record fails.** -/
theorem filter_ok_iff_of_ignoresPlace (h : e.IgnoresPlace) (hcheck : e.check limits = .ok ())
    {found : List Record} :
    (e.filter dataset limits).result = .ok found ↔
      (∀ record ∈ dataset, ∃ isMatch, e.resultOn record = .ok isMatch) ∧
        found = dataset.filter fun record => isHit (e.resultOn record) := by
  have hrecords : (∀ record ∈ dataset, ∃ isMatch, e.resultOn record = .ok isMatch) ↔
      ∀ i < dataset.length, ∃ isMatch, e.resultAt dataset i = .ok isMatch := by
    rw [List.forall_mem_iff_forall_getElem]
    refine forall_congr' fun i => forall_congr' fun hi => ?_
    rw [resultAt_eq_resultOn h hi]
  rw [filter_ok_iff hcheck, hrecords]
  refine and_congr_right fun hall => ?_
  have hkept := hitsBelow_records h hall (Nat.le_refl _)
  rw [List.take_length] at hkept
  rw [hits, hkept]

/-! ## 3. Two expressions under one `$AND` -/

/-- The expression that joins two in a list under `$AND`. -/
def both (e f : Expression) : Expression := .combine .empty .and (.many [e, f])

theorem both_evaluate (scope : Scope) :
    (e.both f).evaluate scope = (e.evaluate scope).andThen fun _ => f.evaluate scope := by
  have hboth : (e.both f).evaluate scope = .every [e.evaluate scope, f.evaluate scope] :=
    evaluate_under_and (.many [e, f]) scope
  rw [hboth, Evaluation.every, Evaluation.every_singleton]

/-- The second expression is asked on the matches of the first. -/
theorem both_resultOn_ok_iff {record : Record} {isMatch : Bool} :
    (e.both f).resultOn record = .ok isMatch ↔
      (e.resultOn record = .ok false ∧ isMatch = false) ∨
        (e.resultOn record = .ok true ∧ f.resultOn record = .ok isMatch) := by
  unfold resultOn
  rw [both_evaluate]
  generalize e.evaluate _ = first
  generalize f.evaluate _ = second
  obtain ⟨events, outcome⟩ := first
  match outcome with
  | .error failure => simp [Evaluation.result, Except.mapError]
  | .ok true => simp [Evaluation.result, Except.mapError, Evaluation.after]
  | .ok false => simp [Evaluation.result, Except.mapError, eq_comm]

theorem both_predicates : (e.both f).predicates = e.predicates ++ f.predicates := by
  simp [both, combine, empty, Combinators.empty, Combinators.set, predicates, clausePredicates,
    Combinators.predicates, Combinators.slotPredicates, Operand.predicates,
    Operand.listPredicates]

theorem both_ignoresPlace (he : e.IgnoresPlace) (hf : f.IgnoresPlace) :
    (e.both f).IgnoresPlace := by
  unfold IgnoresPlace
  rw [both_predicates]
  exact List.forall_mem_append.mpr ⟨he, hf⟩

/-- Where both pass under an `$AND`, each passes alone. -/
theorem check_of_both (h : (e.both f).check limits = .ok ()) :
    e.check limits = .ok () ∧ f.check limits = .ok () := by
  have hexpressions : (e.both f).combinators.expressions = [e, f] := rfl
  exact ⟨check_of_mem h (by simp [hexpressions]), check_of_mem h (by simp [hexpressions])⟩

/-! ## 4. Filters in a row -/

/-- Two filters in a row let through what both expressions let through, and fail where one of them
fails on a record that it is asked about. -/
theorem filter_filter_ok_iff (he : e.IgnoresPlace) (hf : f.IgnoresPlace)
    (hcheck : (e.both f).check limits = .ok ()) {found : List Record} :
    (∃ first, (e.filter dataset limits).result = .ok first ∧
        (f.filter first limits).result = .ok found) ↔
      ((e.both f).filter dataset limits).result = .ok found := by
  obtain ⟨hechk, hfchk⟩ := check_of_both hcheck
  rw [filter_ok_iff_of_ignoresPlace (both_ignoresPlace he hf) hcheck]
  simp only [filter_ok_iff_of_ignoresPlace he hechk, filter_ok_iff_of_ignoresPlace hf hfchk]
  -- Record by record: the outcome on both, and whether it is a match.
  have hok : ∀ record, (∃ isMatch, (e.both f).resultOn record = .ok isMatch) ↔
      (∃ isMatch, e.resultOn record = .ok isMatch) ∧
        (isHit (e.resultOn record) = true → ∃ isMatch, f.resultOn record = .ok isMatch) := by
    intro record
    simp only [both_resultOn_ok_iff, isHit_iff]
    constructor
    · rintro ⟨isMatch, ⟨h, rfl⟩ | ⟨h, h'⟩⟩
      · exact ⟨⟨false, h⟩, fun ht => by simp [h] at ht⟩
      · exact ⟨⟨true, h⟩, fun _ => ⟨isMatch, h'⟩⟩
    · rintro ⟨⟨_ | _, h⟩, hnext⟩
      · exact ⟨false, .inl ⟨h, rfl⟩⟩
      · obtain ⟨isMatch, h'⟩ := hnext h
        exact ⟨isMatch, .inr ⟨h, h'⟩⟩
  have hhit : ∀ record, isHit ((e.both f).resultOn record) =
      (isHit (f.resultOn record) && isHit (e.resultOn record)) := by
    intro record
    rw [Bool.eq_iff_iff, Bool.and_eq_true, isHit_iff, isHit_iff, isHit_iff, both_resultOn_ok_iff]
    simp [and_comm]
  constructor
  · rintro ⟨first, ⟨hall, rfl⟩, hnext, rfl⟩
    refine ⟨fun record hr => (hok record).mpr ⟨hall record hr, fun hm => ?_⟩, ?_⟩
    · exact hnext record (List.mem_filter.mpr ⟨hr, hm⟩)
    · rw [List.filter_filter]
      exact (List.filter_congr fun record _ => hhit record).symm
  · rintro ⟨hall, rfl⟩
    refine ⟨_, ⟨fun record hr => ((hok record).mp (hall record hr)).1, rfl⟩, ?_, ?_⟩
    · intro record hr
      obtain ⟨hmem, hm⟩ := List.mem_filter.mp hr
      exact ((hok record).mp (hall record hmem)).2 hm
    · rw [List.filter_filter]
      exact List.filter_congr fun record _ => hhit record

/-- A filter lets through all that it let through. -/
theorem filter_idempotent (he : e.IgnoresPlace) {found : List Record}
    (h : (e.filter dataset limits).result = .ok found) :
    (e.filter found limits).result = .ok found := by
  have hcheck : e.check limits = .ok () := by
    -- A refused expression filters nothing.
    cases hc : e.check limits with
    | ok _ => rfl
    | error error =>
      have hrefused : e.Refused dataset limits error := refused_of_check hc
      have herror := hrefused.filter.1
      rw [h] at herror
      cases herror
  obtain ⟨hall, rfl⟩ := (filter_ok_iff_of_ignoresPlace he hcheck).mp h
  refine (filter_ok_iff_of_ignoresPlace he hcheck).mpr ⟨fun record hr => ?_, ?_⟩
  · exact hall record (List.mem_filter.mp hr).1
  · rw [List.filter_filter]
    simp

/-- **Filters fuse.**  Where no predicate looks at the place of a record, filtering by one
expression and then by another is filtering by both under one `$AND`, failures included, and
filtering again by the same expression changes nothing. -/
theorem filter_fusion (e f : Expression) (he : ∀ o ∈ e.predicates, o.2.IgnoresPlace)
    (hf : ∀ o ∈ f.predicates, o.2.IgnoresPlace) (dataset : List Record) (limits : Limits) :
    (((e.both f).validate limits).result = .ok () → ∀ found,
      (∃ first, (e.filter dataset limits).result = .ok first ∧
          (f.filter first limits).result = .ok found) ↔
        ((e.both f).filter dataset limits).result = .ok found) ∧
    ∀ found, (e.filter dataset limits).result = .ok found →
      (e.filter found limits).result = .ok found := by
  refine ⟨fun hvalid found => ?_, fun found h => filter_idempotent he h⟩
  have hcheck := (validate_ends (e.both f) limits).1.symm.trans hvalid
  exact filter_filter_ok_iff he hf hcheck

end Expression

/-- Fails on a field that is not there, and is met by `true` alone. -/
def Predicate.presentAndTrue : Predicate :=
  ⟨fun c => match c.value with
    | some v => .ok (v.bool? == some true)
    | none => .error "missing"⟩

/-- Three records, of which the first has no flag. -/
def Record.flagged : List Record :=
  [⟨[("id", .null)]⟩, ⟨[("id", .bool true), ("flag", .bool false)]⟩,
    ⟨[("id", .bool true), ("flag", .bool true)]⟩]

/-- The first filter takes away the record on which the predicate of the second would fail. -/
theorem Expression.filter_fusion_flagged :
    let e := Expression.empty.field "id" (.literal (.bool true))
    let f := Expression.empty.field "flag" (.predicate .presentAndTrue)
    (∀ o ∈ e.predicates, o.2.IgnoresPlace) ∧ (∀ o ∈ f.predicates, o.2.IgnoresPlace) ∧
    ((e.both f).validate {}).result = .ok () ∧
    ((e.both f).filter Record.flagged {}).result =
      .ok [⟨[("id", .bool true), ("flag", .bool true)]⟩] ∧
    ∃ first, (e.filter Record.flagged {}).result = .ok first ∧
      (f.filter first {}).result = .ok [⟨[("id", .bool true), ("flag", .bool true)]⟩] ∧
      (e.filter first {}).result = .ok first := by
  intro e f
  have he : ∀ o ∈ e.predicates, o.2.IgnoresPlace := fun o ho => absurd ho (by exact nofun)
  have hf : ∀ o ∈ f.predicates, o.2.IgnoresPlace := by
    intro o ho c c' _ hvalue _
    obtain rfl := List.mem_singleton.mp ho
    show Predicate.presentAndTrue.call c = Predicate.presentAndTrue.call c'
    simp only [Predicate.presentAndTrue, hvalue]
  have hvalid : ((e.both f).validate {}).result = .ok () := by rfl
  have hboth : ((e.both f).filter Record.flagged {}).result =
      .ok [⟨[("id", .bool true), ("flag", .bool true)]⟩] := by rfl
  obtain ⟨hfusion, hagain⟩ := Expression.filter_fusion e f he hf Record.flagged {}
  obtain ⟨first, hfirst, hsecond⟩ := (hfusion hvalid _).mpr hboth
  exact ⟨he, hf, hvalid, hboth, first, hfirst, hsecond, hagain first hfirst⟩

end RecordFilter
