/-
# JSON trees up to the order of members

Two trees are alike when they differ only in the order of the members of objects, at any depth, and
in numerals that a relation `R` identifies (`Json.Like`); where the relation is equality, the one is
the other reordered (`Json.Reordered`).  The order is only free where no object names a member
twice, as in every tree that a text means (`Json.wellFormed_of_ofText?`).

Alike trees stand for alike values, and they nest as deep as literals, so that the reading of a
literal finds the one where it finds the other (`Value.readLiteral_like`).
-/
import RecordFilter.Json.Reader
import RecordFilter.Proofs.Acceptance
import RecordFilter.Proofs.Verdicts

namespace RecordFilter

/-! ## 1. Lists of related items -/

section Lists

variable {α α' β β' : Type} {R : α → α' → Prop} {P : α → β → Prop} {P' : α' → β' → Prop}
  {S : β → β' → Prop}

/-- `List.Forall₂.imp` with the items of the first list at hand. -/
theorem forall₂_imp_of_mem {Q : α → α' → Prop} {as : List α} {as' : List α'}
    (h : List.Forall₂ R as as') (hQ : ∀ a ∈ as, ∀ a', R a a' → Q a a') : List.Forall₂ Q as as' :=
  ((List.forall₂_and_left _ _).mpr ⟨hQ, h⟩).imp fun _ a' ⟨hq, hr⟩ => hq a' hr

/-- Lists whose items have the same images have the same image. -/
theorem forall₂_map_eq_map {γ : Type} {f : α → γ} {g : α' → γ} {as : List α} {as' : List α'}
    (h : List.Forall₂ (fun a a' => f a = g a') as as') : as.map f = as'.map g := by
  rw [← List.forall₂_eq_eq_eq, List.forall₂_map_left_iff, List.forall₂_map_right_iff]
  exact h

/-- What holds of an item because of its partner. -/
theorem forall₂_forall_right {Q : α' → Prop} {as : List α} {as' : List α'}
    (h : List.Forall₂ R as as') (hQ : ∀ a ∈ as, ∀ a', R a a' → Q a') : ∀ a' ∈ as', Q a' := by
  induction h with
  | nil => exact fun _ hm => by cases hm
  | cons hhead _ ih =>
    exact List.forall_mem_cons.mpr ⟨hQ _ List.mem_cons_self _ hhead,
      ih fun a ha => hQ a (List.mem_cons_of_mem _ ha)⟩

/-- Where every step from an item has a counterpart from its partner, so have the steps of a whole
list. -/
theorem forall₂_square {as : List α} {as' : List α'} {bs : List β} (hR : List.Forall₂ R as as')
    (hP : List.Forall₂ P as bs)
    (step : ∀ {a a' b}, R a a' → P a b → ∃ b', P' a' b' ∧ S b b') :
    ∃ bs', List.Forall₂ P' as' bs' ∧ List.Forall₂ S bs bs' := by
  induction hR generalizing bs with
  | nil =>
    cases hP
    exact ⟨[], .nil, .nil⟩
  | cons hhead _ ih =>
    cases hP with
    | cons hb hrest =>
      obtain ⟨b', hb', hS⟩ := step hhead hb
      obtain ⟨bs', hbs', hSs⟩ := ih hrest
      exact ⟨b' :: bs', .cons hb' hbs', .cons hS hSs⟩

/-- The steps of a list can be taken in any order. -/
theorem forall₂_reorder {as as' : List α} {bs : List β} (hP : List.Forall₂ P as bs)
    (p : as.Perm as') : ∃ bs', List.Forall₂ P as' bs' ∧ bs.Perm bs' := by
  obtain ⟨bs', hbs', p'⟩ := List.perm_comp_forall₂ p.symm hP
  exact ⟨bs', hbs', p'.symm⟩

end Lists

/-! ## 2. Trees of texts -/

mutual

/-- Meaning gives a repeated name one place, so no name is left twice. -/
theorem WrittenJson.meaning_wellFormed : ∀ {written : WrittenJson} {room : Nat} {json : Json},
    written.meaning room = some json → json.WellFormed
  | .null, room, json, h => by
    rw [WrittenJson.meaning] at h
    cases h
    trivial
  | .bool b, room, json, h => by
    rw [WrittenJson.meaning] at h
    cases h
    trivial
  | .number n, room, json, h => by
    rw [WrittenJson.meaning] at h
    obtain ⟨_, _, rfl⟩ := Option.map_eq_some_iff.mp h
    trivial
  | .string marks, room, json, h => by
    rw [WrittenJson.meaning] at h
    obtain ⟨_, _, rfl⟩ := Option.map_eq_some_iff.mp h
    trivial
  | .array items, 0, json, h => by simp [WrittenJson.meaning] at h
  | .array items, room + 1, json, h => by
    rw [WrittenJson.meaning] at h
    obtain ⟨read, hread, rfl⟩ := Option.map_eq_some_iff.mp h
    exact Json.wellFormed_array_iff.mpr (WrittenJson.itemsMeaning_wellFormed hread)
  | .object members, 0, json, h => by simp [WrittenJson.meaning] at h
  | .object members, room + 1, json, h => by
    rw [WrittenJson.meaning] at h
    obtain ⟨read, hread, rfl⟩ := Option.map_eq_some_iff.mp h
    exact Json.wellFormed_object_iff.mpr ⟨Entries.distinct_ofList read, fun m hm =>
      WrittenJson.membersMeaning_wellFormed hread m (Entries.mem_ofList hm)⟩

theorem WrittenJson.itemsMeaning_wellFormed : ∀ {items : List WrittenJson} {room : Nat}
    {read : List Json}, WrittenJson.itemsMeaning items room = some read →
      ∀ json ∈ read, json.WellFormed
  | [], room, read, h => by
    rw [WrittenJson.itemsMeaning] at h
    cases h
    exact fun _ hm => absurd hm List.not_mem_nil
  | item :: rest, room, read, h => by
    rw [WrittenJson.itemsMeaning] at h
    obtain ⟨json, hjson, h⟩ := Option.bind_eq_some_iff.mp h
    obtain ⟨others, hothers, h⟩ := Option.bind_eq_some_iff.mp h
    cases h
    exact List.forall_mem_cons.mpr ⟨WrittenJson.meaning_wellFormed hjson,
      WrittenJson.itemsMeaning_wellFormed hothers⟩

theorem WrittenJson.membersMeaning_wellFormed :
    ∀ {members : List (List StringMark × WrittenJson)} {room : Nat} {read : List (String × Json)},
      WrittenJson.membersMeaning members room = some read → ∀ m ∈ read, m.2.WellFormed
  | [], room, read, h => by
    rw [WrittenJson.membersMeaning] at h
    cases h
    exact fun _ hm => absurd hm List.not_mem_nil
  | (name, value) :: rest, room, read, h => by
    rw [WrittenJson.membersMeaning] at h
    obtain ⟨text, htext, h⟩ := Option.bind_eq_some_iff.mp h
    obtain ⟨json, hjson, h⟩ := Option.bind_eq_some_iff.mp h
    obtain ⟨others, hothers, h⟩ := Option.bind_eq_some_iff.mp h
    cases h
    exact List.forall_mem_cons.mpr ⟨WrittenJson.meaning_wellFormed hjson,
      WrittenJson.membersMeaning_wellFormed hothers⟩

end

/-- **Every tree that a text means is well formed.** -/
theorem Json.wellFormed_of_ofText? {text : String} {json : Json}
    (h : Json.ofText? text = some json) : json.WellFormed := by
  obtain ⟨written, _, hmeaning⟩ := Option.bind_eq_some_iff.mp h
  exact WrittenJson.meaning_wellFormed hmeaning

/-! ## 3. Alike trees -/

/-- Two trees differ only in the order of members and in related numerals. -/
inductive Json.Like (R : Numeral → Numeral → Prop) : Json → Json → Prop
  | null : Json.Like R .null .null
  | bool (b : Bool) : Json.Like R (.bool b) (.bool b)
  | number {n n' : Numeral} (h : R n n') : Json.Like R (.number n) (.number n')
  | string (s : String) : Json.Like R (.string s) (.string s)
  | array {items items' : List Json} (h : List.Forall₂ (Json.Like R) items items') :
      Json.Like R (.array items) (.array items')
  | object {members reordered members' : List (String × Json)}
      (h : List.Forall₂ (Entries.Under (Json.Like R)) members reordered)
      (p : reordered.Perm members') : Json.Like R (.object members) (.object members')

/-- Two trees differ only in the order of members. -/
def Json.Reordered : Json → Json → Prop := Json.Like Eq

section Trees

variable {R : Numeral → Numeral → Prop}

theorem Json.Like.kind_eq {json json' : Json} (h : Json.Like R json json') :
    json.kind = json'.kind := by
  cases h <;> rfl

theorem Json.Like.symm (hR : ∀ {n n'}, R n n' → R n' n) {json json' : Json}
    (h : Json.Like R json json') : Json.Like R json' json := by
  induction json using Json.induction generalizing json' with
  | null | bool | string =>
    cases h
    constructor
  | number n =>
    cases h with
    | number h => exact .number (hR h)
  | array items ih =>
    cases h with
    | array h =>
      have hflip : List.Forall₂ (flip (Json.Like R)) items _ :=
        forall₂_imp_of_mem h fun item hm _ hlike => ih item hm hlike
      exact .array hflip.flip
  | object members ih =>
    cases h with
    | object h p =>
      have hflip : List.Forall₂ (flip (Entries.Under (Json.Like R))) members _ :=
        forall₂_imp_of_mem h fun m hm _ hunder => by
          cases hunder with
          | mk name hlike => exact .mk name (ih (name, _) hm hlike)
      obtain ⟨back, hback, p'⟩ := forall₂_reorder hflip.flip p
      exact .object hback p'.symm

theorem Json.Like.wellFormed {json json' : Json} (h : Json.Like R json json')
    (hwf : json.WellFormed) : json'.WellFormed := by
  induction json using Json.induction generalizing json' with
  | null | bool | number | string =>
    cases h
    trivial
  | array items ih =>
    cases h with
    | array h =>
      rw [Json.wellFormed_array_iff] at hwf ⊢
      exact forall₂_forall_right h fun item hm _ hlike => ih item hm hlike (hwf item hm)
  | object members ih =>
    cases h with
    | @object _ reordered members' h p =>
      rw [Json.wellFormed_object_iff] at hwf ⊢
      have hnames : Entries.Distinct reordered := by
        unfold Entries.Distinct
        rw [Entries.names_under h]
        exact hwf.1
      have hreordered : ∀ m ∈ reordered, m.2.WellFormed :=
        forall₂_forall_right h fun m hm _ hunder => by
          cases hunder with
          | mk name hlike => exact ih (name, _) hm hlike (hwf.2 (name, _) hm)
      exact ⟨(p.map Prod.fst).nodup_iff.mp hnames, fun m hm => hreordered m (p.mem_iff.mpr hm)⟩

end Trees

/-! ## 4. The values of alike trees -/

theorem Value.ofJsonItems_eq (items : List Json) :
    Value.ofJsonItems items = items.map Value.ofJson := by
  induction items with
  | nil => rfl
  | cons item rest ih => rw [Value.ofJsonItems, ih, List.map_cons]

theorem Value.ofJsonMembers_eq (members : List (String × Json)) :
    Value.ofJsonMembers members = members.map fun m => (m.1, Value.ofJson m.2) := by
  induction members with
  | nil => rfl
  | cons m rest ih => rw [Value.ofJsonMembers, ih, List.map_cons]

theorem Value.ofJson_wellFormed {json : Json} (h : json.WellFormed) :
    (Value.ofJson json).WellFormed := by
  induction json using Json.induction with
  | null | bool | number | string =>
    rw [Value.ofJson]
    trivial
  | array items ih =>
    rw [Json.wellFormed_array_iff] at h
    rw [Value.ofJson, Value.WellFormed, Value.itemsWellFormed_iff, Value.ofJsonItems_eq,
      List.forall_mem_map]
    exact fun item hm => ih item hm (h item hm)
  | object members ih =>
    rw [Json.wellFormed_object_iff] at h
    rw [Value.ofJson, Value.WellFormed, Value.entriesWellFormed_iff, Value.ofJsonMembers_eq,
      List.forall_mem_map, Entries.Distinct, Entries.names, List.map_map]
    exact ⟨h.1, fun m hm => ih m hm (h.2 m hm)⟩

section Values

variable {R : Numeral → Numeral → Prop} {N : Number → Number → Prop}
  (hR : ∀ {n n'}, R n n' → N (.ofNumeral n) (.ofNumeral n'))

include hR

/-- **Alike trees stand for alike values.** -/
theorem Value.ofJson_like {json json' : Json} (h : Json.Like R json json') :
    Value.Like N (Value.ofJson json) (Value.ofJson json') := by
  induction json using Json.induction generalizing json' with
  | null | bool | string =>
    cases h
    rw [Value.ofJson]
    constructor
  | number n =>
    cases h with
    | number h =>
      rw [Value.ofJson, Value.ofJson]
      exact .number (hR h)
  | array items ih =>
    cases h with
    | array h =>
      rw [Value.ofJson, Value.ofJson, Value.ofJsonItems_eq, Value.ofJsonItems_eq]
      refine .array (List.forall₂_map_left_iff.mpr (List.forall₂_map_right_iff.mpr ?_))
      exact forall₂_imp_of_mem h fun item hm _ hlike => ih item hm hlike
  | object members ih =>
    cases h with
    | object h p =>
      rw [Value.ofJson, Value.ofJson, Value.ofJsonMembers_eq, Value.ofJsonMembers_eq]
      refine .object (List.forall₂_map_left_iff.mpr (List.forall₂_map_right_iff.mpr ?_)) (p.map _)
      exact forall₂_imp_of_mem h fun m hm _ hunder => by
        cases hunder with
        | mk name hlike => exact .mk name (ih (name, _) hm hlike)

end Values

/-! ## 5. Literals -/

theorem Json.literalItemsDepth_le_iff {items : List Json} {d : Nat} :
    Json.literalItemsDepth items ≤ d ↔ ∀ item ∈ items, 1 + item.literalDepth ≤ d := by
  induction items with
  | nil => simp [Json.literalItemsDepth]
  | cons item rest ih => rw [Json.literalItemsDepth, Nat.max_le, ih, List.forall_mem_cons]

theorem Json.literalMembersDepth_le_iff {members : List (String × Json)} {d : Nat} :
    Json.literalMembersDepth members ≤ d ↔ ∀ m ∈ members, 1 + m.2.literalDepth ≤ d := by
  induction members with
  | nil => simp [Json.literalMembersDepth]
  | cons m rest ih => rw [Json.literalMembersDepth, Nat.max_le, ih, List.forall_mem_cons]

section Literals

variable {R : Numeral → Numeral → Prop} {N : Number → Number → Prop} {limit depth : Nat}

/-- A tree nests as deep as one that it is like, or less. -/
theorem Json.Like.literalDepth_le {json json' : Json} (h : Json.Like R json json') :
    json'.literalDepth ≤ json.literalDepth := by
  induction json using Json.induction generalizing json' with
  | null | bool | number | string =>
    cases h
    simp [Json.literalDepth]
  | array items ih =>
    cases h with
    | array h =>
      rw [Json.literalDepth, Json.literalDepth, Json.literalItemsDepth_le_iff]
      have hitems := Json.literalItemsDepth_le_iff.mp (Nat.le_refl (Json.literalItemsDepth items))
      refine forall₂_forall_right h fun item hm item' hlike => ?_
      exact Nat.le_trans (Nat.add_le_add_left (ih item hm hlike) 1) (hitems item hm)
  | object members ih =>
    cases h with
    | object h p =>
      rw [Json.literalDepth, Json.literalDepth, Json.literalMembersDepth_le_iff]
      have hmembers :=
        Json.literalMembersDepth_le_iff.mp (Nat.le_refl (Json.literalMembersDepth members))
      have hreordered := forall₂_forall_right (Q := fun m => 1 + m.2.literalDepth ≤ _) h
        fun m hm m' hunder => by
          cases hunder with
          | mk name hlike =>
            exact Nat.le_trans (Nat.add_le_add_left (ih (name, _) hm hlike) 1)
              (hmembers (name, _) hm)
      exact fun m hm => hreordered m (p.mem_iff.mpr hm)

theorem Value.readItems_ok_iff : ∀ {items : List Json} {vs : List Value},
    Value.readItems limit items depth = .ok vs ↔
      List.Forall₂ (fun item v => Value.readLiteral limit item depth = .ok v) items vs
  | [], vs => by
    rw [Value.readItems]
    simp [eq_comm]
  | item :: rest, vs => by
    rw [List.forall₂_cons_left_iff, Value.readItems, bind_eq_ok_iff]
    constructor
    · rintro ⟨v, hv, h⟩
      obtain ⟨others, hothers, rfl⟩ := return_eq_ok_iff.mp h
      exact ⟨v, others, hv, Value.readItems_ok_iff.mp hothers, rfl⟩
    · rintro ⟨v, others, hv, hothers, rfl⟩
      exact ⟨v, hv, return_eq_ok_iff.mpr ⟨others, Value.readItems_ok_iff.mpr hothers, rfl⟩⟩

theorem Value.readEntries_value : ∀ {members : List (String × Json)}
    {entries : List (String × Value)}, (∀ m ∈ members, ∀ {depth v},
      Value.readLiteral limit m.2 depth = .ok v → v = Value.ofJson m.2) →
    Value.readEntries limit members depth = .ok entries → entries = Value.ofJsonMembers members
  | [], entries, _, h => by
    rw [Value.readEntries] at h
    exact (Except.ok.inj h).symm
  | (name, item) :: rest, entries, hmembers, h => by
    rw [Value.readEntries] at h
    obtain ⟨v, hv, h⟩ := bind_eq_ok_iff.mp h
    obtain ⟨others, hothers, rfl⟩ := return_eq_ok_iff.mp h
    rw [Value.ofJsonMembers, hmembers (name, item) List.mem_cons_self hv,
      Value.readEntries_value (fun m hm => hmembers m (List.mem_cons_of_mem _ hm)) hothers]

/-- A literal has the value that its tree stands for, wherever it is read. -/
theorem Value.readLiteral_value {json : Json} {v : Value}
    (h : Value.readLiteral limit json depth = .ok v) : v = Value.ofJson json := by
  induction json using Json.induction generalizing depth v with
  | null | bool | number | string =>
    rw [Value.readLiteral] at h
    obtain ⟨⟨⟩, _, h⟩ := bind_eq_ok_iff.mp h
    rw [Value.ofJson]
    exact (Except.ok.inj h).symm
  | array items ih =>
    rw [Value.readLiteral] at h
    obtain ⟨⟨⟩, _, h⟩ := bind_eq_ok_iff.mp h
    obtain ⟨vs, hvs, rfl⟩ := return_eq_ok_iff.mp h
    rw [Value.ofJson, Value.ofJsonItems_eq]
    have hvalues : List.Forall₂ (fun item v => Value.ofJson item = v) items vs :=
      forall₂_imp_of_mem (Value.readItems_ok_iff.mp hvs) fun item hm _ hv => (ih item hm hv).symm
    exact congrArg Value.array (List.forall₂_eq_eq_eq ▸ List.forall₂_map_left_iff.mpr hvalues).symm
  | object members ih =>
    rw [Value.readLiteral] at h
    obtain ⟨⟨⟩, _, h⟩ := bind_eq_ok_iff.mp h
    obtain ⟨entries, hentries, rfl⟩ := return_eq_ok_iff.mp h
    rw [Value.ofJson, Value.readEntries_value (fun m hm => ih m hm) hentries]

/-- **What is read as a literal**: the value of a tree that does not nest too deep. -/
theorem Value.readLiteral_ok_iff {json : Json} {v : Value} :
    Value.readLiteral limit json depth = .ok v ↔
      depth + json.literalDepth ≤ limit ∧ v = Value.ofJson json := by
  constructor
  · exact fun h => ⟨(Value.readLiteral_isOk_iff json depth).mp (isOk_iff.mpr ⟨v, h⟩),
      Value.readLiteral_value h⟩
  · rintro ⟨hdepth, rfl⟩
    obtain ⟨v, hv⟩ := isOk_iff.mp ((Value.readLiteral_isOk_iff json depth).mpr hdepth)
    rw [hv, Value.readLiteral_value hv]

/-- Where a literal is read, one that it is like is read too, as a like value. -/
theorem Value.readLiteral_like (hR : ∀ {n n'}, R n n' → N (.ofNumeral n) (.ofNumeral n'))
    {json json' : Json} (hlike : Json.Like R json json') (hwf : json.WellFormed) {v : Value}
    (h : Value.readLiteral limit json depth = .ok v) :
    ∃ v', Value.readLiteral limit json' depth = .ok v' ∧ v.OperandLike N v' := by
  obtain ⟨hdepth, rfl⟩ := Value.readLiteral_ok_iff.mp h
  have hdepth' := Nat.le_trans (Nat.add_le_add_left hlike.literalDepth_le depth) hdepth
  exact ⟨Value.ofJson json', Value.readLiteral_ok_iff.mpr ⟨hdepth', rfl⟩,
    Value.ofJson_like hR hlike, Value.ofJson_wellFormed hwf⟩

end Literals

end RecordFilter
