/-
# Arrays and lists of operands as sets

An array is asked for a list of values, and what counts of either is which values it has: not their
order, nor how often one of them is there.  All of this follows from how each of the three
inclusions goes with more items and with more operands (`Inclusion.every_mono`,
`Inclusion.some_mono`, `Inclusion.none_anti`).  No law of equality is used, so it does not matter
that equality is not transitive and that a NaN does not equal itself.  That shows in one place only:
an array includes its own items just where none of them has a NaN in it
(`Inclusion.every_self_iff`).
-/
import RecordFilter.Proofs.SingleConditions
import RecordFilter.Proofs.StrictEquality

namespace RecordFilter

namespace Inclusion

variable {xs xs' vs vs' : List Value}

/-! ## 1. What is asked of items -/

theorem hasItem_iff {v : Value} :
    Conditions.hasItem xs v = true ↔ ∃ w ∈ xs, w.strictEq v = true :=
  List.any_eq_true

/-- An array with more items has all that one with less has. -/
theorem hasItem_mono (h : xs ⊆ xs') {v : Value} (hv : Conditions.hasItem xs v = true) :
    Conditions.hasItem xs' v = true := by
  obtain ⟨w, hw, hwv⟩ := hasItem_iff.mp hv
  exact hasItem_iff.mpr ⟨w, h hw, hwv⟩

theorem every_iff : every.holds xs vs = true ↔ ∀ v ∈ vs, Conditions.hasItem xs v = true :=
  List.all_eq_true

theorem some_iff : some.holds xs vs = true ↔ ∃ v ∈ vs, Conditions.hasItem xs v = true :=
  List.any_eq_true

theorem none_iff : none.holds xs vs = true ↔ ¬some.holds xs vs = true := by
  rw [Bool.not_eq_true, ← Bool.not_eq_true']
  rfl

/-! ## 2. More items and more operands -/

theorem every_mono (hxs : xs ⊆ xs') (hvs : vs' ⊆ vs) (h : every.holds xs vs = true) :
    every.holds xs' vs' = true :=
  every_iff.mpr fun v hv => hasItem_mono hxs (every_iff.mp h v (hvs hv))

theorem some_mono (hxs : xs ⊆ xs') (hvs : vs ⊆ vs') (h : some.holds xs vs = true) :
    some.holds xs' vs' = true := by
  obtain ⟨v, hv, hitem⟩ := some_iff.mp h
  exact some_iff.mpr ⟨v, hvs hv, hasItem_mono hxs hitem⟩

theorem none_anti (hxs : xs ⊆ xs') (hvs : vs ⊆ vs') (h : none.holds xs' vs' = true) :
    none.holds xs vs = true :=
  none_iff.mpr fun hsome => none_iff.mp h (some_mono hxs hvs hsome)

/-- **Only which values there are counts**, of items and of operands. -/
theorem holds_congr (hxs : ∀ v, v ∈ xs ↔ v ∈ xs') (hvs : ∀ v, v ∈ vs ↔ v ∈ vs')
    (k : Inclusion) : k.holds xs vs = k.holds xs' vs' := by
  have hsub : xs ⊆ xs' := fun v => (hxs v).mp
  have hsup : xs' ⊆ xs := fun v => (hxs v).mpr
  have hsub' : vs ⊆ vs' := fun v => (hvs v).mp
  have hsup' : vs' ⊆ vs := fun v => (hvs v).mpr
  rw [Bool.eq_iff_iff]
  cases k with
  | every => exact ⟨every_mono hsub hsup', every_mono hsup hsub'⟩
  | some => exact ⟨some_mono hsub hsub', some_mono hsup hsup'⟩
  | none => exact ⟨none_anti hsup hsup', none_anti hsub hsub'⟩

theorem every_append (us vs : List Value) : every.holds xs (us ++ vs) = true ↔
    every.holds xs us = true ∧ every.holds xs vs = true := by
  rw [every_iff, every_iff, every_iff, List.forall_mem_append]

theorem some_append (us vs : List Value) : some.holds xs (us ++ vs) = true ↔
    some.holds xs us = true ∨ some.holds xs vs = true := by
  rw [holds, List.any_append, Bool.or_eq_true]
  rfl

theorem none_append (us vs : List Value) : none.holds xs (us ++ vs) = true ↔
    none.holds xs us = true ∧ none.holds xs vs = true := by
  rw [none_iff, none_iff, none_iff, some_append, not_or]

/-! ## 3. An array of its own items -/

/-- **An array includes all of its items when none of them has a NaN in it**, and only then. -/
theorem every_self_iff (h : (Value.array xs).WellFormed) :
    every.holds xs xs = true ↔ ∀ v ∈ xs, ¬v.HasNaN := by
  rw [Value.WellFormed, Value.itemsWellFormed_iff] at h
  rw [every_iff]
  refine forall₂_congr fun v hv => ?_
  constructor
  · intro hitem
    -- The item that equals `v` may be another one, so equality is turned round.
    obtain ⟨w, hw, hwv⟩ := hasItem_iff.mp hitem
    exact Value.not_hasNaN_of_strictEq (Value.strictEq_symm (h w hw) (h v hv) hwv)
  · intro hnan
    exact hasItem_iff.mpr ⟨v, hv, Value.strictEq_self (h v hv) hnan⟩

/-! ## 4. The laws together -/

/-- **Inclusions treat arrays and operands as sets.**  Each has a verdict on every array.  Operands
of two lists together are included when those of both are, in the case of `includesSome` when those
of one are.  What is in a list counts, not where or how often.  Appending items to the array keeps a
match of `includesEvery` and `includesSome` and a miss of `includesNone`.  An array includes all of
its own items exactly when no item has a NaN in it. -/
theorem setLike (scope : Scope) :
    let verdict := fun (k : Inclusion) (xs vs : List Value) =>
      OperatorSet.outcomeOf [k.setting vs] (Option.some (.array xs)) scope
    let Matches := fun (k : Inclusion) (xs vs : List Value) => verdict k xs vs = .ok true
    (∀ k xs vs, ∃ t, verdict k xs vs = .ok t) ∧
    (∀ xs us vs, Matches .every xs (us ++ vs) ↔ Matches .every xs us ∧ Matches .every xs vs) ∧
    (∀ xs us vs, Matches .some xs (us ++ vs) ↔ Matches .some xs us ∨ Matches .some xs vs) ∧
    (∀ xs us vs, Matches .none xs (us ++ vs) ↔ Matches .none xs us ∧ Matches .none xs vs) ∧
    (∀ k xs xs' vs vs', (∀ v, v ∈ xs ↔ v ∈ xs') → (∀ v, v ∈ vs ↔ v ∈ vs') →
      verdict k xs vs = verdict k xs' vs') ∧
    (∀ xs ys vs, (Matches .every xs vs → Matches .every (xs ++ ys) vs) ∧
      (Matches .some xs vs → Matches .some (xs ++ ys) vs) ∧
      (Matches .none (xs ++ ys) vs → Matches .none xs vs)) ∧
    ∀ xs, (Value.array xs).WellFormed → (Matches .every xs xs ↔ ∀ v ∈ xs, ¬v.HasNaN) := by
  intro verdict Matches
  have hverdict : ∀ k xs vs, verdict k xs vs = .ok (k.holds xs vs) :=
    fun k xs vs => OperatorSet.outcomeOf_inclusion_array k xs vs
  have hmatches : ∀ k xs vs, Matches k xs vs ↔ k.holds xs vs = true := by
    intro k xs vs
    rw [← Except.ok.injEq, ← hverdict]
  simp only [hmatches]
  have hmore : ∀ xs ys : List Value, xs ⊆ xs ++ ys := List.subset_append_left
  refine ⟨fun k xs vs => ⟨_, hverdict k xs vs⟩, fun xs us vs => every_append us vs,
    fun xs us vs => some_append us vs, fun xs us vs => none_append us vs,
    fun k xs xs' vs vs' hxs hvs => ?_, fun xs ys vs => ⟨?_, ?_, ?_⟩, fun xs h => every_self_iff h⟩
  · rw [hverdict, hverdict, holds_congr hxs hvs]
  · exact every_mono (hmore xs ys) (List.Subset.refl vs)
  · exact some_mono (hmore xs ys) (List.Subset.refl vs)
  · exact none_anti (hmore xs ys) (List.Subset.refl vs)

/-- Tags in another order and one of them twice; an array with a NaN inside an item does not include
all of its items. -/
theorem setLike_tags :
    let a : Value := .string "a"
    let b : Value := .string "b"
    let noise : Value := .array [.number (.real ⟨0x7ff8000000000000⟩)]
    let verdict := fun (k : Inclusion) (xs vs : List Value) =>
      OperatorSet.outcomeOf [k.setting vs] (Option.some (.array xs)) ⟨[], 0, ⟨[]⟩⟩
    verdict .every [a, b] [a, b] = .ok true ∧ verdict .every [b, a, b] [b, a] = .ok true ∧
    verdict .every [b, a, b, noise] [b, a] = .ok true ∧
    verdict .every [a, noise] [a, noise] = .ok false := by
  intro a b noise verdict
  obtain ⟨htotal, -, -, -, hsame, hmore, hself⟩ := setLike ⟨[], 0, ⟨[]⟩⟩
  have hstring : ∀ s, ¬(Value.string s).HasNaN := by
    rintro s ⟨n, ⟨⟩, -⟩
  have htags : verdict .every [a, b] [a, b] = .ok true := by
    refine (hself [a, b] ?_).mpr ?_
    · rw [Value.WellFormed, Value.itemsWellFormed_iff]
      simp [a, b, Value.WellFormed]
    · simp [a, b, hstring]
  have hturned : verdict .every [b, a, b] [b, a] = .ok true := by
    rw [← htags]
    exact hsame .every _ _ _ _ (by simp [or_comm]) (by simp [or_comm])
  refine ⟨htags, hturned, (hmore [b, a, b] [noise] [b, a]).1 hturned, ?_⟩
  obtain ⟨t, ht⟩ := htotal .every [a, noise] [a, noise]
  cases t with
  | false => exact ht
  | true =>
    have hnan : noise.HasNaN := Value.hasNaN_array_iff.mpr
      ⟨_, List.mem_cons_self, Value.hasNaN_number_iff.mpr (by decide)⟩
    refine absurd hnan ((hself [a, noise] ?_).mp ht noise (by simp))
    rw [Value.WellFormed, Value.itemsWellFormed_iff]
    simp [a, noise, Value.WellFormed, Value.itemsWellFormed]

end Inclusion

end RecordFilter
