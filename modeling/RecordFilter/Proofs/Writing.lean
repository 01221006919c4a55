/-
# Values that JSON can hold

A value without timestamps, wide integers, NaN and infinities has a JSON tree (`Value.Writable`,
`Value.document`), and what that tree stands for is the value again, up to one thing: an unsigned
integer that fits comes back signed.  No comparison sees that, for it goes by the integer, by the
nearest binary64 number and by whether a number is wide (`Number.SameReadings`), and these are the
same.
-/
import RecordFilter.Proofs.Trees

namespace RecordFilter

/-! ## 1. Numbers -/

/-- Two numbers are read alike by every comparison. -/
structure Number.SameReadings (n n' : Number) : Prop where
  isWide : n.isWide = n'.isWide
  integer : n.integer? = n'.integer?
  toBinary64 : n.toBinary64 = n'.toBinary64

theorem Number.SameReadings.refl (n : Number) : n.SameReadings n := ⟨rfl, rfl, rfl⟩

theorem Number.likeness_sameReadings : Number.Likeness Number.SameReadings where
  refl := .refl
  isWide_eq h := h.isWide
  compare?_eq h h' := by
    unfold Number.compare?
    rw [h.integer, h'.integer, h.toBinary64, h'.toBinary64]

/-- JSON has the number. -/
def Number.Writable : Number → Prop
  | .signed _ | .unsigned _ => True
  | .wide _ => False
  | .real x => x.isFinite = true

theorem Value.integerToJson?_val {lo hi : Int} (n : BoundedInt lo hi)
    (hlo : -0x8000000000000000 ≤ lo) (hhi : hi ≤ 0xffffffffffffffff) :
    Value.integerToJson? n.val =
      some (.number (.integer ⟨n.val, Int.le_trans hlo n.lo_le, Int.le_trans n.le_hi hhi⟩)) := by
  let kept : BoundedInt (-0x8000000000000000) 0xffffffffffffffff :=
    ⟨n.val, Int.le_trans hlo n.lo_le, Int.le_trans n.le_hi hhi⟩
  have hfits : BoundedInt.ofInt? n.val = some kept := BoundedInt.ofInt?_eq_some_iff.mpr rfl
  rw [Value.integerToJson?, hfits]
  rfl

/-- A number that JSON has is read from what is written for it. -/
theorem Value.numberToJson?_writable {n : Number} (h : n.Writable) :
    ∃ k, Value.numberToJson? n = some (.number k) ∧ n.SameReadings (.ofNumeral k) := by
  cases n with
  | signed s =>
    refine ⟨_, Value.integerToJson?_val s (by decide) (by decide), ?_⟩
    have hfits : s.val ≤ 0x7fffffffffffffff := s.le_hi
    simp only [Number.ofNumeral, Number.ofInteger, hfits, dif_pos]
    exact .refl _
  | unsigned u =>
    -- It may come back signed.
    refine ⟨_, Value.integerToJson?_val u (by decide) (by decide), ?_⟩
    simp only [Number.ofNumeral, Number.ofInteger]
    split
    next => exact ⟨rfl, rfl, rfl⟩
    next => exact .refl _
  | wide w => exact absurd h id
  | real x =>
    have hfinite : x.isFinite = true := h
    refine ⟨.real x hfinite, ?_, .refl _⟩
    rw [Value.numberToJson?, dif_pos hfinite]

/-! ## 2. Values -/

/-- JSON has everything in the value. -/
inductive Value.Writable : Value → Prop
  | null : Value.Writable .null
  | bool (b : Bool) : Value.Writable (.bool b)
  | number {n : Number} (h : n.Writable) : Value.Writable (.number n)
  | string (s : String) : Value.Writable (.string s)
  | array {items : List Value} (h : ∀ v ∈ items, Value.Writable v) : Value.Writable (.array items)
  | object {entries : List (String × Value)} (h : ∀ e ∈ entries, Value.Writable e.2) :
      Value.Writable (.object entries)

/-- The tree of a value that JSON can hold. -/
def Value.document (v : Value) : Json := v.toJson?.getD .null

theorem Value.itemsToJson?_eq_some_iff {items : List Value} {trees : List Json} :
    Value.itemsToJson? items = some trees ↔
      List.Forall₂ (fun v tree => v.toJson? = some tree) items trees := by
  induction items generalizing trees with
  | nil =>
    rw [Value.itemsToJson?, List.forall₂_nil_left_iff, Option.some_inj]
    exact eq_comm
  | cons v rest ih =>
    rw [Value.itemsToJson?, List.forall₂_cons_left_iff]
    constructor
    · intro h
      obtain ⟨tree, htree, h⟩ := Option.bind_eq_some_iff.mp h
      obtain ⟨others, hothers, h⟩ := Option.bind_eq_some_iff.mp h
      exact ⟨tree, others, htree, ih.mp hothers, (Option.some.inj h).symm⟩
    · rintro ⟨tree, others, htree, hothers, rfl⟩
      rw [htree, ih.mpr hothers]
      rfl

theorem Value.entriesToJson?_eq_some_iff {entries : List (String × Value)}
    {members : List (String × Json)} :
    Value.entriesToJson? entries = some members ↔
      List.Forall₂ (fun e m => e.1 = m.1 ∧ e.2.toJson? = some m.2) entries members := by
  induction entries generalizing members with
  | nil =>
    rw [Value.entriesToJson?, List.forall₂_nil_left_iff, Option.some_inj]
    exact eq_comm
  | cons e rest ih =>
    rw [Value.entriesToJson?, List.forall₂_cons_left_iff]
    constructor
    · intro h
      obtain ⟨tree, htree, h⟩ := Option.bind_eq_some_iff.mp h
      obtain ⟨others, hothers, h⟩ := Option.bind_eq_some_iff.mp h
      exact ⟨(e.1, tree), others, ⟨rfl, htree⟩, ih.mp hothers, (Option.some.inj h).symm⟩
    · rintro ⟨⟨name, tree⟩, others, ⟨hname, htree⟩, hothers, rfl⟩
      obtain rfl : e.1 = name := hname
      rw [htree, ih.mpr hothers]
      rfl

theorem Value.itemsToJson?_eq {items : List Value}
    (h : ∀ v ∈ items, v.toJson? = some v.document) :
    Value.itemsToJson? items = some (items.map Value.document) :=
  Value.itemsToJson?_eq_some_iff.mpr
    (List.forall₂_map_right_iff.mpr (List.forall₂_same.mpr h))

theorem Value.entriesToJson?_eq {entries : List (String × Value)}
    (h : ∀ e ∈ entries, e.2.toJson? = some e.2.document) :
    Value.entriesToJson? entries = some (entries.map fun e => (e.1, e.2.document)) :=
  Value.entriesToJson?_eq_some_iff.mpr
    (List.forall₂_map_right_iff.mpr (List.forall₂_same.mpr fun e he => ⟨rfl, h e he⟩))

theorem Value.document_of_toJson? {v : Value} {json : Json} (h : v.toJson? = some json) :
    v.document = json := by
  rw [Value.document, h, Option.getD_some]

theorem Value.Writable.toJson?_eq {v : Value} (h : v.Writable) : v.toJson? = some v.document := by
  have hdocument : ∀ {v : Value} (json : Json), v.toJson? = some json →
      v.toJson? = some v.document := fun _ h => h.trans (congrArg some (document_of_toJson? h).symm)
  induction v using Value.induction with
  | null | bool | string => exact hdocument _ (by rw [Value.toJson?])
  | number n =>
    cases h with
    | number h =>
      obtain ⟨k, hk, _⟩ := Value.numberToJson?_writable h
      exact hdocument _ (by rw [Value.toJson?, hk])
  | timestamp t => cases h
  | array items ih =>
    cases h with
    | array h =>
      refine hdocument (.array (items.map Value.document)) ?_
      rw [Value.toJson?, Value.itemsToJson?_eq fun v hv => ih v hv (h v hv)]
      rfl
  | object entries ih =>
    cases h with
    | object h =>
      refine hdocument (.object (entries.map fun e => (e.1, e.2.document))) ?_
      rw [Value.toJson?, Value.entriesToJson?_eq fun e he => ih e he (h e he)]
      rfl

theorem Value.document_array {items : List Value} (h : ∀ v ∈ items, v.Writable) :
    (Value.array items).document = .array (items.map Value.document) := by
  refine Value.document_of_toJson? ?_
  rw [Value.toJson?, Value.itemsToJson?_eq fun v hv => (h v hv).toJson?_eq]
  rfl

theorem Value.document_object {entries : List (String × Value)} (h : ∀ e ∈ entries, e.2.Writable) :
    (Value.object entries).document = .object (entries.map fun e => (e.1, e.2.document)) := by
  refine Value.document_of_toJson? ?_
  rw [Value.toJson?, Value.entriesToJson?_eq fun e he => (h e he).toJson?_eq]
  rfl

theorem Value.document_number {n : Number} (h : n.Writable) :
    ∃ k, (Value.number n).document = .number k ∧ n.SameReadings (.ofNumeral k) := by
  obtain ⟨k, hk, hsame⟩ := Value.numberToJson?_writable h
  exact ⟨k, Value.document_of_toJson? (by rw [Value.toJson?, hk]), hsame⟩

/-- Only an object has an object for its document. -/
theorem Value.document_kind {v : Value} (h : v.Writable)
    (hobject : ∀ entries, v ≠ .object entries) : v.document.kind ≠ .object := by
  cases h with
  | null | bool | string => simp [Value.document, Value.toJson?, Json.kind]
  | number h =>
    obtain ⟨k, hk, _⟩ := Value.document_number h
    simp [hk, Json.kind]
  | array h => simp [Value.document_array h, Json.kind]
  | object h => exact absurd rfl (hobject _)

/-- **A value is read from its document**, up to the reading of numbers. -/
theorem Value.document_like {v : Value} (h : v.Writable) :
    Value.Like Number.SameReadings v (Value.ofJson v.document) := by
  induction v using Value.induction with
  | null | bool | string =>
    rw [Value.document, Value.toJson?, Option.getD_some, Value.ofJson]
    constructor
  | number n =>
    cases h with
    | number h =>
      obtain ⟨k, hk, hsame⟩ := Value.document_number h
      rw [hk, Value.ofJson]
      exact .number hsame
  | timestamp t => cases h
  | array items ih =>
    cases h with
    | array h =>
      rw [Value.document_array h, Value.ofJson, Value.ofJsonItems_eq, List.map_map]
      refine .array (List.forall₂_map_right_iff.mpr (List.forall₂_same.mpr fun v hv => ?_))
      exact ih v hv (h v hv)
  | object entries ih =>
    cases h with
    | object h =>
      rw [Value.document_object h, Value.ofJson, Value.ofJsonMembers_eq, List.map_map]
      refine .object (List.forall₂_map_right_iff.mpr (List.forall₂_same.mpr fun e he => ?_))
        (.refl _)
      exact .mk e.1 (ih e he (h e he))

theorem Value.document_wellFormed {v : Value} (h : v.Writable) (hwf : v.WellFormed) :
    v.document.WellFormed := by
  induction v using Value.induction with
  | null | bool | string =>
    rw [Value.document, Value.toJson?, Option.getD_some]
    trivial
  | number n =>
    cases h with
    | number h =>
      obtain ⟨k, hk, _⟩ := Value.document_number h
      rw [hk]
      trivial
  | timestamp t => cases h
  | array items ih =>
    cases h with
    | array h =>
      rw [Value.WellFormed, Value.itemsWellFormed_iff] at hwf
      rw [Value.document_array h, Json.wellFormed_array_iff, List.forall_mem_map]
      exact fun v hv => ih v hv (h v hv) (hwf v hv)
  | object entries ih =>
    cases h with
    | object h =>
      rw [Value.WellFormed, Value.entriesWellFormed_iff] at hwf
      rw [Value.document_object h, Json.wellFormed_object_map_iff]
      exact ⟨hwf.1, fun e he => ih e he (h e he) (hwf.2 e he)⟩

end RecordFilter
