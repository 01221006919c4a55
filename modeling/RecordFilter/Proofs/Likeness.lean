/-
# Values that no condition tells apart

Two values are alike when they differ only in the order of the entries of objects, at any depth,
and in numbers that a relation `N` identifies.  Such a relation must not be visible to any
comparison (`Number.Likeness`); equality is one.  Then strict equality takes alike values for the
same, on either side (`Value.strictEq_like`).

That is not a fact about strict equality alone: it is no equivalence, since a NaN does not equal
itself and large integers that differ can both equal one binary64 number.  So likeness is a relation
of its own, built along the structure of values.
-/
import Mathlib.Data.List.Perm.Basic
import RecordFilter.Proofs.Induction
import RecordFilter.Value.Equality

namespace RecordFilter

/-! ## 1. Tables -/

section Options

variable {α β : Type} {R : α → β → Prop} {o : Option α} {o' : Option β}

theorem Option.any_rel (h : Option.Rel R o o') {p : α → Bool} {q : β → Bool}
    (hpq : ∀ a b, o = some a → R a b → p a = q b) : o.any p = o'.any q := by
  cases h with
  | none => rfl
  | some h => exact hpq _ _ rfl h

theorem Option.rel_refl_of {R : α → α → Prop} (h : ∀ a, R a a) : ∀ o : Option α, Option.Rel R o o
  | none => .none
  | some a => .some (h a)

theorem Option.rel_getElem? {as : List α} {bs : List β} (h : List.Forall₂ R as bs) (index : Nat) :
    Option.Rel R as[index]? bs[index]? := by
  induction h generalizing index with
  | nil => exact .none
  | cons hhead _ ih =>
    cases index with
    | zero => exact .some hhead
    | succ index => exact ih index

end Options

namespace Entries

variable {α β : Type}

/-- Two entries under one name, with related contents. -/
inductive Under (R : α → β → Prop) : String × α → String × β → Prop
  | mk (name : String) {a : α} {b : β} (h : R a b) : Under R (name, a) (name, b)

/-- Where no name occurs twice, the order of the entries does not matter to a look-up. -/
theorem get?_perm {entries entries' : Entries α} (h : Distinct entries)
    (p : entries.Perm entries') (key : String) : get? entries key = get? entries' key := by
  have h' : Distinct entries' := (p.map Prod.fst).nodup_iff.mp h
  refine Option.ext fun a => ?_
  rw [get?_eq_some_iff h, get?_eq_some_iff h', p.mem_iff]

theorem names_under {R : α → β → Prop} {entries : Entries α} {entries' : Entries β}
    (h : List.Forall₂ (Under R) entries entries') : names entries' = names entries := by
  induction h with
  | nil => rfl
  | cons he _ ih =>
    cases he with
    | mk name _ => exact congrArg (name :: ·) ih

theorem get?_under {R : α → β → Prop} {entries : Entries α} {entries' : Entries β}
    (h : List.Forall₂ (Under R) entries entries') (key : String) :
    Option.Rel R (get? entries key) (get? entries' key) := by
  induction h with
  | nil => exact .none
  | cons he _ ih =>
    cases he with
    | mk name hr =>
      rw [get?_cons, get?_cons]
      split
      next => exact .some hr
      next => exact ih

/-- Tables that are related after reordering give related contents under every name. -/
theorem get?_reordered {R : α → β → Prop} {entries : Entries α} {reordered entries' : Entries β}
    (hdistinct : Distinct entries) (h : List.Forall₂ (Under R) entries reordered)
    (p : reordered.Perm entries') (key : String) :
    Option.Rel R (get? entries key) (get? entries' key) := by
  have hreordered : Distinct reordered := by
    unfold Distinct
    rwa [names_under h]
  rw [← get?_perm hreordered p]
  exact get?_under h key

/-- Setting one more entry keeps tables related. -/
theorem put_under {R : α → β → Prop} {entries : Entries α} {entries' : Entries β}
    (h : List.Forall₂ (Under R) entries entries') (key : String) {a : α} {b : β} (hr : R a b) :
    List.Forall₂ (Under R) (put entries key a) (put entries' key b) := by
  induction h with
  | nil => exact .cons (.mk key hr) .nil
  | cons he hrest ih =>
    cases he with
    | mk name hold =>
      rw [put, put]
      split
      next => exact .cons (.mk key hr) hrest
      next => exact .cons (.mk name hold) ih

end Entries

/-! ## 2. Numbers -/

/-- A relation between numbers that no comparison sees: related numbers compare in the same way
with related numbers, and are of the widest kind together. -/
structure Number.Likeness (N : Number → Number → Prop) : Prop where
  refl : ∀ n, N n n
  isWide_eq : ∀ {a a'}, N a a' → a.isWide = a'.isWide
  compare?_eq : ∀ {a a' b b'}, N a a' → N b b' → a.compare? b = a'.compare? b'

theorem Number.likeness_eq : Number.Likeness Eq :=
  ⟨fun _ => rfl, fun h => h ▸ rfl, fun h h' => h ▸ h' ▸ rfl⟩

/-- Timestamps are alike when they are equal, numbers when they are related. -/
inductive Numeric.Like (N : Number → Number → Prop) : Numeric → Numeric → Prop
  | number {n n' : Number} (h : N n n') : Numeric.Like N (.number n) (.number n')
  | timestamp (t : Timestamp) : Numeric.Like N (.timestamp t) (.timestamp t)

section Numbers

variable {N : Number → Number → Prop}

theorem Number.strictEq_like (hN : Number.Likeness N) {a a' b b' : Number} (ha : N a a')
    (hb : N b b') : a.strictEq b = a'.strictEq b' := by
  unfold Number.strictEq
  rw [hN.isWide_eq ha, hN.isWide_eq hb, hN.compare?_eq ha hb]

theorem Numeric.compare?_like (hN : Number.Likeness N) {a a' b b' : Numeric}
    (ha : Numeric.Like N a a') (hb : Numeric.Like N b b') : a.compare? b = a'.compare? b' := by
  have hnormal : ∀ {n n' : Numeric}, Numeric.Like N n n' → N n.normalize n'.normalize := by
    intro n n' h
    cases h with
    | number h => exact h
    | timestamp t => exact hN.refl _
  exact hN.compare?_eq (hnormal ha) (hnormal hb)

end Numbers

/-! ## 3. Values -/

/-- Two values differ only in the order of entries and in related numbers. -/
inductive Value.Like (N : Number → Number → Prop) : Value → Value → Prop
  | null : Value.Like N .null .null
  | bool (b : Bool) : Value.Like N (.bool b) (.bool b)
  | number {n n' : Number} (h : N n n') : Value.Like N (.number n) (.number n')
  | timestamp (t : Timestamp) : Value.Like N (.timestamp t) (.timestamp t)
  | string (s : String) : Value.Like N (.string s) (.string s)
  | array {items items' : List Value} (h : List.Forall₂ (Value.Like N) items items') :
      Value.Like N (.array items) (.array items')
  | object {entries reordered entries' : List (String × Value)}
      (h : List.Forall₂ (Entries.Under (Value.Like N)) entries reordered)
      (p : reordered.Perm entries') : Value.Like N (.object entries) (.object entries')

section Values

variable {N : Number → Number → Prop}

theorem Value.Like.refl (hN : Number.Likeness N) (v : Value) : Value.Like N v v := by
  induction v using Value.induction with
  | null => exact .null
  | bool b => exact .bool b
  | number n => exact .number (hN.refl n)
  | timestamp t => exact .timestamp t
  | string s => exact .string s
  | array items ih => exact .array (List.forall₂_same.mpr ih)
  | object entries ih =>
    exact .object (List.forall₂_same.mpr fun e he => .mk e.1 (ih e he)) (.refl entries)

theorem Value.entriesWithin_eq (other : List (String × Value)) :
    ∀ entries : List (String × Value), Value.entriesWithin entries other =
      entries.all fun e => (Entries.get? other e.1).any fun w => e.2.strictEq w
  | [] => by rw [Value.entriesWithin]; rfl
  | (name, v) :: rest => by
    rw [Value.entriesWithin, Value.entriesWithin_eq other rest]
    cases hget : Entries.get? other name <;> simp [hget]

/-- The statement of `Value.strictEq_like` about one value on the left. -/
def Value.SeesAlike (N : Number → Number → Prop) (v : Value) : Prop :=
  ∀ {v' w w' : Value}, Value.Like N v v' → Value.Like N w w' → w.WellFormed →
    v.strictEq w = v'.strictEq w'

theorem Value.itemsEq_like {vs vs' ws ws' : List Value} (h : List.Forall₂ (Value.Like N) vs vs')
    (h' : List.Forall₂ (Value.Like N) ws ws') (hw : ∀ w ∈ ws, w.WellFormed)
    (ih : ∀ v ∈ vs, Value.SeesAlike N v) :
    Value.itemsEq vs ws = Value.itemsEq vs' ws' := by
  induction h generalizing ws ws' with
  | nil => cases h' <;> simp [Value.itemsEq]
  | @cons v v' rest rest' hv _ ihrest =>
    cases h' with
    | nil => simp [Value.itemsEq]
    | cons hw' hrest' =>
      have hhead := ih v List.mem_cons_self hv hw' (hw _ List.mem_cons_self)
      have hrest := ihrest hrest' (fun w hm => hw w (List.mem_cons_of_mem _ hm))
        fun v hm => ih v (List.mem_cons_of_mem _ hm)
      rw [Value.itemsEq, Value.itemsEq, hhead, hrest]

theorem Value.entriesWithin_like {entries reordered entries' other reorderedOther other' :
      List (String × Value)}
    (h : List.Forall₂ (Entries.Under (Value.Like N)) entries reordered)
    (p : reordered.Perm entries')
    (h' : List.Forall₂ (Entries.Under (Value.Like N)) other reorderedOther)
    (p' : reorderedOther.Perm other') (hdistinct : Entries.Distinct other)
    (hother : ∀ e ∈ other, e.2.WellFormed) (ih : ∀ e ∈ entries, Value.SeesAlike N e.2) :
    Value.entriesWithin entries other = Value.entriesWithin entries' other' := by
  -- The left entries are only gone through, so their order goes first; the right are looked up.
  have hlook := Entries.get?_reordered hdistinct h' p'
  rw [Value.entriesWithin_eq, Value.entriesWithin_eq, ← p.all_eq]
  clear p
  induction h with
  | nil => rfl
  | @cons e e' rest rest' he _ ihrest =>
    cases he with
    | @mk name v v' hv =>
      have hrest := ihrest fun e hm => ih e (List.mem_cons_of_mem _ hm)
      have hhead : (Entries.get? other name).any (fun w => v.strictEq w) =
          (Entries.get? other' name).any fun w => v'.strictEq w := by
        refine Option.any_rel (hlook name) fun w w' hget hlike => ?_
        have hw : w.WellFormed := hother (name, w) ((Entries.get?_eq_some_iff hdistinct).mp hget)
        exact ih (name, v) List.mem_cons_self hv hlike hw
      rw [List.all_cons, List.all_cons, hrest, hhead]

/-- **Strict equality takes alike values for the same.** -/
theorem Value.strictEq_like (hN : Number.Likeness N) (v : Value) : Value.SeesAlike N v := by
  induction v using Value.induction with
  | null | bool b | timestamp t | string s =>
    intro v' w w' hv hw _
    cases hv
    cases hw <;> simp [Value.strictEq]
  | number n =>
    intro v' w w' hv hw _
    cases hv with
    | number hn =>
      cases hw with
      | number hm =>
        rw [Value.strictEq, Value.strictEq]
        exact Number.strictEq_like hN hn hm
      | null | bool | timestamp | string | array | object => simp [Value.strictEq]
  | array items ih =>
    intro v' w w' hv hw hwf
    cases hv with
    | array hitems =>
      cases hw with
      | array hothers =>
        rw [Value.strictEq, Value.strictEq]
        rw [Value.WellFormed] at hwf
        exact Value.itemsEq_like hitems hothers (Value.itemsWellFormed_iff.mp hwf) ih
      | null | bool | number | timestamp | string | object => simp [Value.strictEq]
  | object entries ih =>
    intro v' w w' hv hw hwf
    cases hv with
    | object hentries p =>
      cases hw with
      | object hothers p' =>
        rw [Value.WellFormed, Value.entriesWellFormed_iff] at hwf
        rw [Value.strictEq, Value.strictEq,
          Value.entriesWithin_like hentries p hothers p' hwf.1 hwf.2 ih, hentries.length_eq,
          hothers.length_eq, p.length_eq, p'.length_eq]
      | null | bool | number | timestamp | string | array => simp [Value.strictEq]

end Values

/-! ## 4. Records -/

/-- Two records have alike values under every name. -/
def Record.Like (N : Number → Number → Prop) (r r' : Record) : Prop :=
  ∀ field, Option.Rel (Value.Like N) (r.get? field) (r'.get? field)

theorem Record.Like.refl {N : Number → Number → Prop} (hN : Number.Likeness N) (r : Record) :
    Record.Like N r r :=
  fun field => Option.rel_refl_of (Value.Like.refl hN) (r.get? field)

/-- Records are alike when they are as objects. -/
theorem Record.Like.of_object {N : Number → Number → Prop} {r r' : Record} (hwf : r.WellFormed)
    (h : Value.Like N (.object r.entries) (.object r'.entries)) : Record.Like N r r' := by
  rw [Record.WellFormed, Value.WellFormed] at hwf
  cases h with
  | object h p => exact fun field => Entries.get?_reordered hwf.1 h p field

end RecordFilter
