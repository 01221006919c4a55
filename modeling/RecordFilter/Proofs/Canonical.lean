/-
# The normal form of a value

A tree of JSON is given back by the value it stands for.  The other way round is not the identity:
a tree has no timestamps, no NaN and no infinities, and it does not tell the widths of integers
apart.  What a value becomes on its way through a tree is its normal form (`Value.canonical`), and
the one thing that keeps a value from having a tree is a wide integer that 64 bits cannot hold,
at any depth (`Value.toJson?_eq_none_iff`).

The normal form is defined here kind by kind, and neither of the two maps occurs in it.
-/
import RecordFilter.Proofs.Writing

namespace RecordFilter

/-! ## 1. The normal form -/

/-- An unsigned integer is signed where it fits. -/
def Number.ofUnsigned (n : Unsigned64) : Number :=
  if h : n.val ≤ 0x7fffffffffffffff then .signed ⟨n.val, Int.le_trans (by decide) n.lo_le, h⟩
  else .unsigned n

/-- A wide integer is signed where it fits, or else unsigned where that fits. -/
def Number.ofWide (n : Signed128) : Number :=
  if h : -0x8000000000000000 ≤ n.val ∧ n.val ≤ 0x7fffffffffffffff then .signed ⟨n.val, h.1, h.2⟩
  else if h : 0 ≤ n.val ∧ n.val ≤ 0xffffffffffffffff then .unsigned ⟨n.val, h.1, h.2⟩
  else .wide n

/-- The normal form of a number: a signed integer is in it already, and so is a finite binary64
number; another one is `null`. -/
def Number.canonical : Number → Value
  | .signed n => .number (.signed n)
  | .unsigned n => .number (.ofUnsigned n)
  | .wide n => .number (.ofWide n)
  | .real x => if x.isFinite = true then .number (.real x) else .null

mutual

/-- The normal form of a value: a timestamp is the integer of its milliseconds, and arrays and
objects keep their order. -/
def Value.canonical : Value → Value
  | .null => .null
  | .bool b => .bool b
  | .number n => n.canonical
  | .timestamp t => .number (.signed t.millis)
  | .string s => .string s
  | .array items => .array (Value.canonicalItems items)
  | .object entries => .object (Value.canonicalEntries entries)

/-- The normal forms of items. -/
def Value.canonicalItems : List Value → List Value
  | [] => []
  | v :: rest => v.canonical :: Value.canonicalItems rest

/-- The normal forms of entries, under the same names. -/
def Value.canonicalEntries : List (String × Value) → List (String × Value)
  | [] => []
  | (name, v) :: rest => (name, v.canonical) :: Value.canonicalEntries rest

end

theorem Value.canonicalItems_eq (items : List Value) :
    Value.canonicalItems items = items.map Value.canonical := by
  induction items with
  | nil => rfl
  | cons v rest ih => rw [Value.canonicalItems, ih, List.map_cons]

theorem Value.canonicalEntries_eq (entries : List (String × Value)) :
    Value.canonicalEntries entries = entries.map fun e => (e.1, e.2.canonical) := by
  induction entries with
  | nil => rfl
  | cons e rest ih => rw [Value.canonicalEntries, ih, List.map_cons]

/-- The number occurs in the value, at any depth. -/
inductive Value.Holds (n : Number) : Value → Prop
  | number : Value.Holds n (.number n)
  | item {items : List Value} {v : Value} (hv : v ∈ items) (h : Value.Holds n v) :
      Value.Holds n (.array items)
  | entry {entries : List (String × Value)} {e : String × Value} (he : e ∈ entries)
      (h : Value.Holds n e.2) : Value.Holds n (.object entries)

/-! ## 2. Numbers through a tree -/

theorem Value.integerToJson?_eq_some {n : Int} {tree : Json}
    (h : Value.integerToJson? n = some tree) :
    ∃ k : BoundedInt (-0x8000000000000000) 0xffffffffffffffff,
      k.val = n ∧ tree = .number (.integer k) := by
  obtain ⟨k, hk, rfl⟩ := Option.map_eq_some_iff.mp h
  exact ⟨k, BoundedInt.ofInt?_eq_some_iff.mp hk, rfl⟩

/-- Of the numbers only the wide ones can be too great for a tree, or too small. -/
theorem Value.numberToJson?_eq_none_iff {n : Number} :
    Value.numberToJson? n = none ↔ ∃ w : Signed128, n = .wide w ∧
      ¬ (-0x8000000000000000 ≤ w.val ∧ w.val ≤ 0xffffffffffffffff) := by
  cases n with
  | signed s => simp [Value.numberToJson?, Value.integerToJson?_val s (by decide) (by decide)]
  | unsigned u => simp [Value.numberToJson?, Value.integerToJson?_val u (by decide) (by decide)]
  | wide w =>
    have hnone : Value.numberToJson? (.wide w) = none ↔
        ¬ (-0x8000000000000000 ≤ w.val ∧ w.val ≤ 0xffffffffffffffff) := by
      rw [Value.numberToJson?, Value.integerToJson?, Option.map_eq_map, Option.map_eq_none_iff]
      exact BoundedInt.ofInt?_eq_none_iff
    rw [hnone]
    constructor
    · exact fun h => ⟨w, rfl, h⟩
    · rintro ⟨_, hw, h⟩
      exact Number.wide.inj hw ▸ h
  | real x =>
    rw [Value.numberToJson?]
    split <;> simp

theorem Value.ofJson_signed {n : Signed64}
    {k : BoundedInt (-0x8000000000000000) 0xffffffffffffffff} (h : k.val = n.val) :
    Value.ofJson (.number (.integer k)) = .number (.signed n) := by
  have hfits : k.val ≤ 0x7fffffffffffffff := h ▸ n.le_hi
  rw [Value.ofJson, Number.ofNumeral, Number.ofInteger, dif_pos hfits]
  exact congrArg (fun s => Value.number (.signed s)) (BoundedInt.ext_val h)

theorem Value.ofJson_unsigned {n : Unsigned64}
    {k : BoundedInt (-0x8000000000000000) 0xffffffffffffffff} (h : k.val = n.val)
    (hlarge : ¬ n.val ≤ 0x7fffffffffffffff) :
    Value.ofJson (.number (.integer k)) = .number (.unsigned n) := by
  rw [Value.ofJson, Number.ofNumeral, Number.ofInteger, dif_neg (h ▸ hlarge)]
  exact congrArg (fun u => Value.number (.unsigned u)) (BoundedInt.ext_val h)

/-- A number with a tree is read from it in its normal form. -/
theorem Value.ofJson_of_numberToJson? {n : Number} {tree : Json}
    (h : Value.numberToJson? n = some tree) : Value.ofJson tree = n.canonical := by
  cases n with
  | signed s =>
    obtain ⟨k, hk, rfl⟩ := Value.integerToJson?_eq_some h
    exact Value.ofJson_signed hk
  | unsigned u =>
    obtain ⟨k, hk, rfl⟩ := Value.integerToJson?_eq_some h
    rw [Number.canonical, Number.ofUnsigned]
    split
    next hsmall => exact Value.ofJson_signed hk
    next hlarge => exact Value.ofJson_unsigned hk hlarge
  | wide w =>
    obtain ⟨k, hk, rfl⟩ := Value.integerToJson?_eq_some h
    have hlo := k.lo_le
    have hhi := k.le_hi
    rw [Number.canonical, Number.ofWide]
    split
    next hsigned => exact Value.ofJson_signed hk
    next hlarge =>
      -- What the tree holds and a signed integer cannot is past the greatest signed one.
      have hpast : ¬ w.val ≤ 0x7fffffffffffffff := by omega
      rw [dif_pos (by omega)]
      exact Value.ofJson_unsigned hk hpast
  | real x =>
    rw [Value.numberToJson?] at h
    rw [Number.canonical]
    split at h
    next hfinite =>
      cases h
      rw [if_pos hfinite]
      rfl
    next hinfinite =>
      cases h
      rw [if_neg hinfinite]
      rfl

/-- The number of a numeral has the tree of the numeral. -/
theorem Value.numberToJson?_ofNumeral (k : Numeral) :
    Value.numberToJson? (.ofNumeral k) = some (.number k) := by
  cases k with
  | integer n =>
    rw [Number.ofNumeral, Number.ofInteger]
    split <;> exact Value.integerToJson?_val n (by decide) (by decide)
  | real x finite => rw [Number.ofNumeral, Value.numberToJson?, dif_pos finite]

/-! ## 3. Values through a tree -/

/-- A tree is given back by the value it stands for. -/
theorem Value.toJson?_ofJson (tree : Json) : (Value.ofJson tree).toJson? = some tree := by
  induction tree using Json.induction with
  | null | bool | string => rw [Value.ofJson, Value.toJson?]
  | number k => rw [Value.ofJson, Value.toJson?, Value.numberToJson?_ofNumeral]
  | array items ih =>
    have hitems : Value.itemsToJson? (items.map Value.ofJson) = some items :=
      Value.itemsToJson?_eq_some_iff.mpr
        (List.forall₂_map_left_iff.mpr (List.forall₂_same.mpr ih))
    rw [Value.ofJson, Value.ofJsonItems_eq, Value.toJson?, hitems]
    rfl
  | object members ih =>
    have hmembers : Value.entriesToJson? (members.map fun m => (m.1, Value.ofJson m.2)) =
        some members :=
      Value.entriesToJson?_eq_some_iff.mpr
        (List.forall₂_map_left_iff.mpr (List.forall₂_same.mpr fun m hm => ⟨rfl, ih m hm⟩))
    rw [Value.ofJson, Value.ofJsonMembers_eq, Value.toJson?, hmembers]
    rfl

theorem Value.itemsToJson?_eq_none_iff {items : List Value} :
    Value.itemsToJson? items = none ↔ ∃ v ∈ items, v.toJson? = none := by
  induction items with
  | nil => simp [Value.itemsToJson?]
  | cons v rest ih =>
    rw [Value.itemsToJson?, List.exists_mem_cons_iff, ← ih]
    cases v.toJson? <;> cases Value.itemsToJson? rest <;> simp

theorem Value.entriesToJson?_eq_none_iff {entries : List (String × Value)} :
    Value.entriesToJson? entries = none ↔ ∃ e ∈ entries, e.2.toJson? = none := by
  induction entries with
  | nil => simp [Value.entriesToJson?]
  | cons e rest ih =>
    rw [Value.entriesToJson?, List.exists_mem_cons_iff, ← ih]
    cases e.2.toJson? <;> cases Value.entriesToJson? rest <;> simp

/-- A value has no tree just where it holds a wide integer that 64 bits cannot. -/
theorem Value.toJson?_eq_none_iff {v : Value} :
    v.toJson? = none ↔ ∃ w : Signed128, v.Holds (.wide w) ∧
      ¬ (-0x8000000000000000 ≤ w.val ∧ w.val ≤ 0xffffffffffffffff) := by
  induction v using Value.induction with
  | null | bool | string =>
    rw [Value.toJson?]
    refine iff_of_false (by simp) ?_
    rintro ⟨_, hholds, _⟩
    cases hholds
  | timestamp t =>
    rw [Value.toJson?, Value.integerToJson?_val t.millis (by decide) (by decide)]
    refine iff_of_false (by simp) ?_
    rintro ⟨_, hholds, _⟩
    cases hholds
  | number n =>
    rw [Value.toJson?, Value.numberToJson?_eq_none_iff]
    constructor
    · rintro ⟨w, rfl, h⟩
      exact ⟨w, .number, h⟩
    · rintro ⟨w, hholds, h⟩
      cases hholds
      exact ⟨w, rfl, h⟩
  | array items ih =>
    rw [Value.toJson?, Option.map_eq_map, Option.map_eq_none_iff, Value.itemsToJson?_eq_none_iff]
    constructor
    · rintro ⟨v, hv, hnone⟩
      obtain ⟨w, hholds, h⟩ := (ih v hv).mp hnone
      exact ⟨w, .item hv hholds, h⟩
    · rintro ⟨w, hholds, h⟩
      cases hholds with
      | item hv hholds => exact ⟨_, hv, (ih _ hv).mpr ⟨w, hholds, h⟩⟩
  | object entries ih =>
    rw [Value.toJson?, Option.map_eq_map, Option.map_eq_none_iff,
      Value.entriesToJson?_eq_none_iff]
    constructor
    · rintro ⟨e, he, hnone⟩
      obtain ⟨w, hholds, h⟩ := (ih e he).mp hnone
      exact ⟨w, .entry he hholds, h⟩
    · rintro ⟨w, hholds, h⟩
      cases hholds with
      | entry he hholds => exact ⟨_, he, (ih _ he).mpr ⟨w, hholds, h⟩⟩

/-- A value with a tree is read from it in its normal form. -/
theorem Value.ofJson_of_toJson? {v : Value} {tree : Json} (h : v.toJson? = some tree) :
    Value.ofJson tree = v.canonical := by
  induction v using Value.induction generalizing tree with
  | null | bool | string =>
    rw [Value.toJson?] at h
    cases h
    rw [Value.ofJson, Value.canonical]
  | number n =>
    rw [Value.toJson?] at h
    rw [Value.canonical]
    exact Value.ofJson_of_numberToJson? h
  | timestamp t =>
    rw [Value.toJson?] at h
    obtain ⟨k, hk, rfl⟩ := Value.integerToJson?_eq_some h
    exact Value.ofJson_signed hk
  | array items ih =>
    rw [Value.toJson?] at h
    obtain ⟨trees, htrees, rfl⟩ := Option.map_eq_some_iff.mp h
    rw [Value.itemsToJson?_eq_some_iff] at htrees
    have hread : List.Forall₂ (fun v tree => v.canonical = Value.ofJson tree) items trees :=
      forall₂_imp_of_mem htrees fun v hv _ htree => (ih v hv htree).symm
    rw [Value.ofJson, Value.canonical, Value.ofJsonItems_eq, Value.canonicalItems_eq,
      forall₂_map_eq_map hread]
  | object entries ih =>
    rw [Value.toJson?] at h
    obtain ⟨members, hmembers, rfl⟩ := Option.map_eq_some_iff.mp h
    rw [Value.entriesToJson?_eq_some_iff] at hmembers
    have hread : List.Forall₂
        (fun e m => (e.1, e.2.canonical) = (m.1, Value.ofJson m.2)) entries members :=
      forall₂_imp_of_mem hmembers fun e he _ h => Prod.ext h.1 (ih e he h.2).symm
    rw [Value.ofJson, Value.canonical, Value.ofJsonMembers_eq, Value.canonicalEntries_eq,
      forall₂_map_eq_map hread]

/-- What a tree stands for is in normal form. -/
theorem Value.canonical_ofJson (tree : Json) : (Value.ofJson tree).canonical = Value.ofJson tree :=
  (Value.ofJson_of_toJson? (Value.toJson?_ofJson tree)).symm

/-- **Values and trees.**  A tree is given back exactly by its value.  A value has a tree unless a
wide integer in it is beyond 64 bits, and what is read from that tree is its normal form. -/
theorem Value.json_roundTrip :
    (∀ tree : Json, (Value.ofJson tree).toJson? = some tree) ∧
    ∀ v : Value,
      (v.toJson? = none ↔ ∃ w : Signed128, v.Holds (.wide w) ∧
        ¬ (-0x8000000000000000 ≤ w.val ∧ w.val ≤ 0xffffffffffffffff)) ∧
      ∀ tree, v.toJson? = some tree → Value.ofJson tree = v.canonical :=
  ⟨Value.toJson?_ofJson, fun _ => ⟨Value.toJson?_eq_none_iff, fun _ => Value.ofJson_of_toJson?⟩⟩

/-- A time, the same integer past the signed ones in two widths, a negative wide one, and a NaN. -/
theorem Value.measured_roundTrip :
    let v : Value := .object
      [("time", .timestamp ⟨⟨5, by decide, by decide⟩⟩),
        ("counts", .array
          [.number (.unsigned ⟨0x8000000000000000, by decide, by decide⟩),
            .number (.wide ⟨0x8000000000000000, by decide, by decide⟩),
            .number (.wide ⟨-1, by decide, by decide⟩)]),
        ("mean", .number (.real .nan))]
    let tree : Json := .object
      [("time", .number (.integer ⟨5, by decide, by decide⟩)),
        ("counts", .array
          [.number (.integer ⟨0x8000000000000000, by decide, by decide⟩),
            .number (.integer ⟨0x8000000000000000, by decide, by decide⟩),
            .number (.integer ⟨-1, by decide, by decide⟩)]),
        ("mean", .null)]
    v.toJson? = some tree ∧ Value.ofJson tree = v.canonical := by
  intro v tree
  have h : v.toJson? = some tree := rfl
  exact ⟨h, (Value.json_roundTrip.2 v).2 tree h⟩

end RecordFilter
