/-
# Laws of negation

A list under `$NOT` is a miss where all of its expressions match.  So it is the disjunction of the
single negations, and the other way round the negation of a disjunction is the conjunction of the
single negations; two negations cancel.  These are the laws of De Morgan, and they hold of whole
evaluations: the two sides ask the same members in the same order and stop at the same one, since
what stops a conjunction is a miss, and what stops the disjunction of the negations is the match
that the negation has made of it.

A negation has a verdict where the expression has one, the opposite one.  So the two filters by an
expression and by its negation share the records of a dataset, provided that no predicate fails.
-/
import Mathlib.Data.List.Nodup
import RecordFilter.Proofs.Fusion

namespace RecordFilter

theorem Evaluation.negate_result (e : Evaluation) : e.negate.result = e.result.map (!·) := by
  obtain ⟨events, error | b⟩ := e <;> rfl

namespace Expression

/-! ## 1. The opposite of an expression -/

/-- The expression that is matched where another is not. -/
def opposite (e : Expression) : Expression := under .not (.single e)

variable {e : Expression} {dataset : List Record} {limits : Limits}

theorem evaluate_opposite (e : Expression) (scope : Scope) :
    e.opposite.evaluate scope = (e.evaluate scope).negate := by
  rw [opposite, evaluate_under_not, Operand.expressions, List.map_singleton,
    Evaluation.every_singleton]

/-- Many opposites, one after the other. -/
theorem map_evaluate_opposite (es : List Expression) (scope : Scope) :
    (es.map opposite).map (·.evaluate scope) =
      (es.map (·.evaluate scope)).map Evaluation.negate := by
  rw [List.map_map, List.map_map]
  exact List.map_congr_left fun e _ => evaluate_opposite e scope

/-! ## 2. Filters by an expression and by its opposite -/

theorem resultAt_opposite {index : Nat} (h : index < dataset.length) :
    e.opposite.resultAt dataset index = (e.resultAt dataset index).map (!·) := by
  rw [resultAt, resultAt, List.getElem?_eq_getElem h]
  simp only [evaluate_opposite, Evaluation.negate_result]

/-- The failure of a predicate is the only error on a record. -/
theorem resultAt_ok_of_no_failure {index : Nat}
    (h : ∀ failure, e.resultAt dataset index ≠ .error (.predicateFailed failure)) :
    ∃ isMatch, e.resultAt dataset index = .ok isMatch := by
  unfold resultAt at h ⊢
  split
  next record hrecord =>
    simp only [hrecord] at h
    unfold Evaluation.result at h ⊢
    cases houtcome : (e.evaluate ⟨dataset, index, record⟩).outcome with
    | ok isMatch => exact ⟨isMatch, rfl⟩
    | error failure => exact absurd (congrArg (Except.mapError _) houtcome) (h failure)
  next => exact ⟨false, rfl⟩

/-- Where no record fails, the hits of the opposite are the misses. -/
theorem hits_opposite (hall : ∀ i < dataset.length, ∃ isMatch, e.resultAt dataset i = .ok isMatch) :
    e.opposite.hits dataset =
      (List.range dataset.length).filter fun i => !isHit (e.resultAt dataset i) := by
  refine List.filter_congr fun i hi => ?_
  obtain ⟨isMatch, hr⟩ := hall i (List.mem_range.mp hi)
  rw [resultAt_opposite (List.mem_range.mp hi), hr]
  rfl

/-- **The matches of an expression and of its opposite share the dataset.** -/
theorem filterIndices_opposite (hcheck : e.opposite.check limits = .ok ())
    (hall : ∀ i < dataset.length, ∃ isMatch, e.resultAt dataset i = .ok isMatch) :
    ∃ found missed, (e.filterIndices dataset limits).result = .ok found ∧
      (e.opposite.filterIndices dataset limits).result = .ok missed ∧
      found.Disjoint missed ∧ (found ++ missed).Perm (List.range dataset.length) := by
  have hcheck' : e.check limits = .ok () := check_of_mem hcheck List.mem_cons_self
  have hopposite : ∀ i < dataset.length,
      ∃ isMatch, e.opposite.resultAt dataset i = .ok isMatch := by
    intro i hi
    obtain ⟨isMatch, hr⟩ := hall i hi
    exact ⟨!isMatch, by rw [resultAt_opposite hi, hr]; rfl⟩
  have hfound := ((filterIndices_collects dataset hcheck').1 hall).1
  have hmissed := ((filterIndices_collects dataset hcheck).1 hopposite).1
  have hperm : (e.hits dataset ++ e.opposite.hits dataset).Perm (List.range dataset.length) := by
    rw [hits_opposite hall]
    exact List.filter_append_perm _ _
  have hnodup := hperm.nodup_iff.mpr List.nodup_range
  exact ⟨_, _, hfound, hmissed, List.disjoint_of_nodup_append hnodup, hperm⟩

/-! ## 3. The laws -/

/-- **Laws of negation.**  A list under `$NOT` is the disjunction of the single negations, and the
negation of the list under `$AND`; the negation of a disjunction is the conjunction of the single
negations; two negations cancel, and a single expression under `$AND` is the expression.  In each
law both sides have the same outcome, failures included, after the same events.  So the matches of
an expression and of its negation are disjoint and together all indices of the dataset, provided
that the negation passes validation and that no record ends in the failure of a predicate. -/
theorem negation_laws (es : List Expression) (e : Expression) :
    (∀ scope,
      (under .not (.many es)).evaluate scope =
        (under .or (.many (es.map fun e' => under .not (.single e')))).evaluate scope ∧
      (under .not (.many es)).evaluate scope =
        (under .not (.single (under .and (.many es)))).evaluate scope ∧
      (under .not (.single (under .or (.many es)))).evaluate scope =
        (under .and (.many (es.map fun e' => under .not (.single e')))).evaluate scope ∧
      (under .not (.single (under .not (.single e)))).evaluate scope = e.evaluate scope ∧
      (under .and (.single e)).evaluate scope = e.evaluate scope) ∧
    ∀ dataset limits, ((under .not (.single e)).validate limits).result = .ok () →
      (∀ index failure, e.resultAt dataset index ≠ .error (.predicateFailed failure)) →
      ∃ found missed, (e.filterIndices dataset limits).result = .ok found ∧
        ((under .not (.single e)).filterIndices dataset limits).result = .ok missed ∧
        found.Disjoint missed ∧ (found ++ missed).Perm (List.range dataset.length) := by
  refine ⟨fun scope => ⟨?_, ?_, ?_, ?_, ?_⟩, fun dataset limits hvalid hfails => ?_⟩
  · calc (under .not (.many es)).evaluate scope
        = (Evaluation.every (es.map (·.evaluate scope))).negate := evaluate_under_not _ scope
      _ = .any ((es.map opposite).map (·.evaluate scope)) := by
          rw [Evaluation.negate_every, map_evaluate_opposite]
      _ = (under .or (.many (es.map opposite))).evaluate scope := (evaluate_under_or _ scope).symm
  · calc (under .not (.many es)).evaluate scope
        = ((under .and (.many es)).evaluate scope).negate := by
          rw [evaluate_under_not, evaluate_under_and]
      _ = (under .and (.many es)).opposite.evaluate scope := (evaluate_opposite _ scope).symm
  · calc (under .or (.many es)).opposite.evaluate scope
        = (Evaluation.any (es.map (·.evaluate scope))).negate := by
          rw [evaluate_opposite, evaluate_under_or]
      _ = .every ((es.map opposite).map (·.evaluate scope)) := by
          rw [Evaluation.negate_any, map_evaluate_opposite]
      _ = (under .and (.many (es.map opposite))).evaluate scope :=
          (evaluate_under_and (.many (es.map opposite)) scope).symm
  · calc e.opposite.opposite.evaluate scope
        = (e.evaluate scope).negate.negate := by rw [evaluate_opposite, evaluate_opposite]
      _ = e.evaluate scope := Evaluation.negate_negate _
  · exact (evaluate_under_and (.single e) scope).trans (Evaluation.every_singleton _)
  · have hcheck := (validate_ends e.opposite limits).1.symm.trans hvalid
    exact filterIndices_opposite hcheck fun i _ => resultAt_ok_of_no_failure (hfails i)

/-- The predicate would fail on the first record, but it is not asked there. -/
theorem negation_laws_flagged :
    let e := (empty.field "id" (.literal (.bool true))).field "flag" (.predicate .presentAndTrue)
    ((under .not (.single e)).validate {}).result = .ok () ∧
    (∀ index failure, e.resultAt Record.flagged index ≠ .error (.predicateFailed failure)) ∧
    (e.filterIndices Record.flagged {}).result = .ok [2] ∧
    ∃ missed, ((under .not (.single e)).filterIndices Record.flagged {}).result = .ok missed ∧
      [2].Disjoint missed ∧ (2 :: missed).Perm [0, 1, 2] := by
  intro e
  have hvalid : ((under .not (.single e)).validate {}).result = .ok () := by rfl
  have hfails : ∀ index failure,
      e.resultAt Record.flagged index ≠ .error (.predicateFailed failure) := by
    intro index failure h
    have hlt := lt_length_of_error h
    match index with
    | 0 | 1 | 2 => cases h
    | index + 3 => exact absurd hlt (by simp [Record.flagged])
  have hfilter : (e.filterIndices Record.flagged {}).result = .ok [2] := by rfl
  obtain ⟨found, missed, hfound, hmissed, hdisjoint, hperm⟩ :=
    (negation_laws [] e).2 Record.flagged {} hvalid hfails
  obtain rfl : [2] = found := Except.ok.inj (hfilter.symm.trans hfound)
  exact ⟨hvalid, hfails, hfilter, missed, hmissed, hdisjoint, hperm⟩

end Expression

end RecordFilter
