/-
# Laws of strict equality

Strict equality is an equivalence but for two kinds of numbers.  A NaN equals nothing, and so does a
value with a NaN anywhere inside.  Integers beyond `2 ^ 53` are rounded where they meet a binary64
number, so two of them that differ can both equal the same one; without such integers equality goes
on from one value to the next.  It is symmetric in any case, and the order of the entries of objects
does not matter to it.

Objects are equal when they have as many entries and those of the one are found in the other.  That
this is symmetric is a matter of counting: names that occur once each and that all occur in as many
others are all of these (`Entries.mem_names_of_length`).
-/
import Mathlib.Data.List.Perm.Subperm
import RecordFilter.Proofs.Canonical
import RecordFilter.Proofs.NumericOrder

namespace RecordFilter

/-! ## 1. Equality by parts -/

/-- A table whose names are among those of another one of the same length has all of them. -/
theorem Entries.mem_names_of_length {α β : Type} {as : Entries α} {bs : Entries β}
    (hdistinct : Distinct as) (hlength : as.length = bs.length)
    (hsub : ∀ key ∈ names as, key ∈ names bs) {key : String} (h : key ∈ names bs) :
    key ∈ names as := by
  have hsubperm : (names as).Subperm (names bs) := List.Nodup.subperm hdistinct hsub
  have hle : (names bs).length ≤ (names as).length := by
    rw [names, names, List.length_map, List.length_map, hlength]
  exact (hsubperm.perm_of_length_le hle).mem_iff.mpr h

/-- What is found in a table is one of its entries, even if the name occurs twice. -/
theorem Entries.mem_of_get? {α : Type} {entries : Entries α} {key : String} {a : α}
    (h : get? entries key = some a) : (key, a) ∈ entries := by
  induction entries with
  | nil => cases h
  | cons e rest ih =>
    obtain ⟨name, b⟩ := e
    rw [get?_cons] at h
    split at h
    next heq =>
      obtain rfl := heq
      obtain rfl := Option.some.inj h
      exact List.mem_cons_self
    next => exact List.mem_cons_of_mem _ (ih h)

/-- Two steps in a row through lists, item by item. -/
theorem forall₂_trans_of_mem {α β γ : Type} {R : α → β → Prop} {S : β → γ → Prop}
    {T : α → γ → Prop} {as : List α} {bs : List β} {cs : List γ} (hR : List.Forall₂ R as bs)
    (hS : List.Forall₂ S bs cs)
    (step : ∀ a ∈ as, ∀ b ∈ bs, ∀ c ∈ cs, R a b → S b c → T a c) : List.Forall₂ T as cs := by
  induction hR generalizing cs with
  | nil =>
    cases hS
    exact .nil
  | cons hab _ ih =>
    cases hS with
    | cons hbc hrest =>
      refine .cons (step _ List.mem_cons_self _ List.mem_cons_self _ List.mem_cons_self hab hbc)
        (ih hrest fun a ha b hb c hc => ?_)
      exact step a (List.mem_cons_of_mem _ ha) b (List.mem_cons_of_mem _ hb) c
        (List.mem_cons_of_mem _ hc)

theorem exists_of_forall₂ {α β : Type} {R : α → β → Prop} {as : List α} {bs : List β}
    (h : List.Forall₂ R as bs) {a : α} (ha : a ∈ as) : ∃ b ∈ bs, R a b := by
  induction h with
  | nil => cases ha
  | cons hab _ ih =>
    rcases List.mem_cons.mp ha with rfl | ha
    · exact ⟨_, List.mem_cons_self, hab⟩
    · obtain ⟨b, hb, hR⟩ := ih ha
      exact ⟨b, List.mem_cons_of_mem _ hb, hR⟩

namespace Value

variable {a b c : Value}

theorem itemsEq_iff : ∀ {vs ws : List Value},
    itemsEq vs ws = true ↔ List.Forall₂ (fun v w => v.strictEq w = true) vs ws
  | [], [] => by simp [itemsEq]
  | [], _ :: _ => by simp [itemsEq]
  | _ :: _, [] => by simp [itemsEq]
  | v :: vs, w :: ws => by
    rw [itemsEq, Bool.and_eq_true, itemsEq_iff, List.forall₂_cons]

/-- How two values are equal, by their kind: the parts of the one equal those of the other. -/
inductive EqualParts : Value → Value → Prop
  | null : EqualParts null null
  | bool (b : Bool) : EqualParts (bool b) (bool b)
  | number {m n : Number} (h : m.strictEq n = true) : EqualParts (number m) (number n)
  | timestamp (t : Timestamp) : EqualParts (timestamp t) (timestamp t)
  | string (s : String) : EqualParts (string s) (string s)
  | array {vs ws : List Value} (h : List.Forall₂ (fun v w => v.strictEq w = true) vs ws) :
      EqualParts (array vs) (array ws)
  | object {vs ws : List (String × Value)} (hlength : vs.length = ws.length)
      (h : ∀ e ∈ vs, ∃ w, Entries.get? ws e.1 = some w ∧ e.2.strictEq w = true) :
      EqualParts (object vs) (object ws)

theorem strictEq_object_iff {vs ws : List (String × Value)} :
    (object vs).strictEq (object ws) = true ↔ vs.length = ws.length ∧
      ∀ e ∈ vs, ∃ w, Entries.get? ws e.1 = some w ∧ e.2.strictEq w = true := by
  rw [strictEq, Bool.and_eq_true, beq_iff_eq, entriesWithin_eq, List.all_eq_true]
  simp only [Option.any_eq_true]

/-- **Values are equal when their parts are.** -/
theorem strictEq_iff : a.strictEq b = true ↔ EqualParts a b := by
  constructor
  · intro h
    cases a with
    | null =>
      cases b with
      | null => exact .null
      | _ => simp [strictEq] at h
    | bool x =>
      cases b with
      | bool y => exact beq_iff_eq.mp h ▸ .bool x
      | _ => simp [strictEq] at h
    | number m =>
      cases b with
      | number n => exact .number h
      | _ => simp [strictEq] at h
    | timestamp t =>
      cases b with
      | timestamp u => exact beq_iff_eq.mp h ▸ .timestamp t
      | _ => simp [strictEq] at h
    | string s =>
      cases b with
      | string t => exact beq_iff_eq.mp h ▸ .string s
      | _ => simp [strictEq] at h
    | array vs =>
      cases b with
      | array ws => exact .array (itemsEq_iff.mp h)
      | _ => simp [strictEq] at h
    | object vs =>
      cases b with
      | object ws => exact .object (strictEq_object_iff.mp h).1 (strictEq_object_iff.mp h).2
      | _ => simp [strictEq] at h
  · rintro (_ | b | h | t | s | h | ⟨hlength, h⟩)
    · rfl
    · exact beq_self_eq_true b
    · exact h
    · exact beq_self_eq_true t
    · exact beq_self_eq_true s
    · exact itemsEq_iff.mpr h
    · exact strictEq_object_iff.mpr ⟨hlength, h⟩

/-! ## 2. Numbers inside -/

/-- A NaN occurs in the value, at any depth. -/
def HasNaN (v : Value) : Prop := ∃ n : Number, v.Holds n ∧ n.isNaN = true

/-- No signed and no unsigned integer in the value, at any depth, has a magnitude beyond
`2 ^ 53`. -/
def Exact (v : Value) : Prop := ∀ n : Number, v.Holds n → n.Exact

theorem Exact.item {items : List Value} (h : (array items).Exact) {v : Value} (hv : v ∈ items) :
    v.Exact :=
  fun n hn => h n (.item hv hn)

theorem Exact.entry {entries : List (String × Value)} (h : (object entries).Exact)
    {e : String × Value} (he : e ∈ entries) : e.2.Exact :=
  fun n hn => h n (.entry he hn)

theorem hasNaN_number_iff {n : Number} : (number n).HasNaN ↔ n.isNaN = true := by
  constructor
  · rintro ⟨_, ⟨⟩, h⟩
    exact h
  · exact fun h => ⟨n, .number, h⟩

theorem hasNaN_array_iff {items : List Value} : (array items).HasNaN ↔ ∃ v ∈ items, v.HasNaN := by
  constructor
  · rintro ⟨n, ⟨⟩ | ⟨hv, hn⟩, h⟩
    exact ⟨_, hv, n, hn, h⟩
  · rintro ⟨v, hv, n, hn, h⟩
    exact ⟨n, .item hv hn, h⟩

theorem hasNaN_object_iff {entries : List (String × Value)} :
    (object entries).HasNaN ↔ ∃ e ∈ entries, e.2.HasNaN := by
  constructor
  · rintro ⟨n, ⟨⟩ | _ | ⟨he, hn⟩, h⟩
    exact ⟨_, he, n, hn, h⟩
  · rintro ⟨e, he, n, hn, h⟩
    exact ⟨n, .entry he hn, h⟩

/-! ## 3. The laws one by one -/

/-- **Equality turns round.** -/
theorem strictEq_symm (ha : a.WellFormed) (hb : b.WellFormed) (h : a.strictEq b = true) :
    b.strictEq a = true := by
  induction a using Value.induction generalizing b with
  | null | bool | timestamp | string =>
    cases strictEq_iff.mp h
    exact h
  | number m =>
    cases strictEq_iff.mp h with
    | @number _ n hn =>
      rw [Number.strictEq_comm] at hn
      exact strictEq_iff.mpr (.number hn)
  | array vs ih =>
    cases strictEq_iff.mp h with
    | @array _ ws hitems =>
      rw [WellFormed, itemsWellFormed_iff] at ha hb
      have hturned : List.Forall₂ (fun v w => w.WellFormed → w.strictEq v = true) vs ws :=
        forall₂_imp_of_mem hitems fun v hv w hvw hw => ih v hv (ha v hv) hw hvw
      exact strictEq_iff.mpr (.array
        (forall₂_imp_of_mem hturned.flip fun w hw v hwv => hwv (hb w hw)))
  | object vs ih =>
    cases strictEq_iff.mp h with
    | @object _ ws hlength hentries =>
      rw [WellFormed, entriesWellFormed_iff] at ha hb
      obtain ⟨hdistinct, ha⟩ := ha
      obtain ⟨hdistinct', hb⟩ := hb
      have hsub : ∀ key ∈ Entries.names vs, key ∈ Entries.names ws := by
        intro key hkey
        obtain ⟨e, he, rfl⟩ := List.mem_map.mp hkey
        obtain ⟨w, hw, -⟩ := hentries e he
        exact List.mem_map.mpr ⟨_, Entries.mem_of_get? hw, rfl⟩
      refine strictEq_iff.mpr (.object hlength.symm fun e he => ?_)
      obtain ⟨key, w⟩ := e
      have hkey : key ∈ Entries.names vs := Entries.mem_names_of_length hdistinct hlength hsub
        (List.mem_map.mpr ⟨(key, w), he, rfl⟩)
      obtain ⟨⟨name, v⟩, hv, rfl⟩ := List.mem_map.mp hkey
      obtain ⟨w', hw', hvw⟩ := hentries (name, v) hv
      obtain rfl : w' = w := Option.some.inj
        (hw'.symm.trans ((Entries.get?_eq_some_iff hdistinct').mpr he))
      exact ⟨v, (Entries.get?_eq_some_iff hdistinct).mpr hv,
        ih (name, v) hv (ha (name, v) hv) (hb (name, w') he) hvw⟩

theorem strictEq_comm (ha : a.WellFormed) (hb : b.WellFormed) : a.strictEq b = b.strictEq a := by
  rw [Bool.eq_iff_iff]
  exact ⟨strictEq_symm ha hb, strictEq_symm hb ha⟩

/-- **A value that equals another one has no NaN.** -/
theorem not_hasNaN_of_strictEq (h : a.strictEq b = true) : ¬ a.HasNaN := by
  induction a using Value.induction generalizing b with
  | null | bool | timestamp | string =>
    rintro ⟨n, ⟨⟩, -⟩
  | number m =>
    cases strictEq_iff.mp h with
    | number hn =>
      rw [hasNaN_number_iff, (Number.isNaN_of_compare? (Number.strictEq_eq_true_iff.mp hn).2).1]
      exact Bool.false_ne_true
  | array vs ih =>
    cases strictEq_iff.mp h with
    | array hitems =>
      rw [hasNaN_array_iff]
      rintro ⟨v, hv, hnan⟩
      obtain ⟨w, -, hvw⟩ := exists_of_forall₂ hitems hv
      exact ih v hv hvw hnan
  | object vs ih =>
    cases strictEq_iff.mp h with
    | object _ hentries =>
      rw [hasNaN_object_iff]
      rintro ⟨e, he, hnan⟩
      obtain ⟨w, -, hvw⟩ := hentries e he
      exact ih e he hvw hnan

/-- **A value without a NaN equals itself.** -/
theorem strictEq_self (ha : a.WellFormed) (h : ¬ a.HasNaN) : a.strictEq a = true := by
  induction a using Value.induction with
  | null => exact strictEq_iff.mpr .null
  | bool b => exact strictEq_iff.mpr (.bool b)
  | timestamp t => exact strictEq_iff.mpr (.timestamp t)
  | string s => exact strictEq_iff.mpr (.string s)
  | number n =>
    rw [hasNaN_number_iff, Bool.not_eq_true] at h
    exact strictEq_iff.mpr (.number ((Number.strictEq_self_iff n).mpr h))
  | array vs ih =>
    rw [WellFormed, itemsWellFormed_iff] at ha
    rw [hasNaN_array_iff] at h
    exact strictEq_iff.mpr (.array (List.forall₂_same.mpr fun v hv =>
      ih v hv (ha v hv) fun hnan => h ⟨v, hv, hnan⟩))
  | object vs ih =>
    rw [WellFormed, entriesWellFormed_iff] at ha
    rw [hasNaN_object_iff] at h
    refine strictEq_iff.mpr (.object rfl fun e he => ⟨e.2, ?_, ?_⟩)
    · exact (Entries.get?_eq_some_iff ha.1).mpr he
    · exact ih e he (ha.2 e he) fun hnan => h ⟨e, he, hnan⟩

/-- **Equality goes on**, from one value to the next, where large integers are left out. -/
theorem strictEq_trans (ha : a.Exact) (hb : b.Exact) (hc : c.Exact) (hab : a.strictEq b = true)
    (hbc : b.strictEq c = true) : a.strictEq c = true := by
  induction a using Value.induction generalizing b c with
  | null | bool | timestamp | string =>
    cases strictEq_iff.mp hab
    exact hbc
  | number m =>
    cases strictEq_iff.mp hab with
    | @number _ n hmn =>
      cases strictEq_iff.mp hbc with
      | @number _ o hno =>
        have hn := hb n .number
        obtain ⟨hwide, hm, -, hunits⟩ := (Number.strictEq_iff (ha m .number) hn).mp hmn
        obtain ⟨hwide', -, ho, hunits'⟩ := (Number.strictEq_iff hn (hc o .number)).mp hno
        have hmo : m.strictEq o = true :=
          (Number.strictEq_iff (ha m .number) (hc o .number)).mpr
            ⟨hwide.trans hwide', hm, ho, hunits.trans hunits'⟩
        exact strictEq_iff.mpr (.number hmo)
  | array vs ih =>
    cases strictEq_iff.mp hab with
    | @array _ ws hitems =>
      cases strictEq_iff.mp hbc with
      | @array _ us hitems' =>
        refine strictEq_iff.mpr (.array (forall₂_trans_of_mem hitems hitems' ?_))
        intro v hv w hw u hu
        exact ih v hv (ha.item hv) (hb.item hw) (hc.item hu)
  | object vs ih =>
    cases strictEq_iff.mp hab with
    | @object _ ws hlength hentries =>
      cases strictEq_iff.mp hbc with
      | @object _ us hlength' hentries' =>
        refine strictEq_iff.mpr (.object (hlength.trans hlength') fun e he => ?_)
        obtain ⟨w, hw, hvw⟩ := hentries e he
        obtain ⟨u, hu, hwu⟩ := hentries' (e.1, w) (Entries.mem_of_get? hw)
        exact ⟨u, hu, ih e he (ha.entry he) (hb.entry (Entries.mem_of_get? hw))
          (hc.entry (Entries.mem_of_get? hu)) hvw hwu⟩

/-! ## 4. The laws together -/

/-- **Strict equality is an equivalence up to NaN and large integers**, on values that name no entry
twice.  It is symmetric.  A value equals itself exactly when no NaN occurs in it, at any depth, and
one with a NaN equals nothing.  Where no signed and no unsigned integer lies beyond `2 ^ 53`, it is
transitive.  Entries of objects in another order, on either side and at any depth, do not change
it. -/
theorem strictEq_laws :
    (∀ a b : Value, a.WellFormed → b.WellFormed → a.strictEq b = b.strictEq a) ∧
    (∀ a : Value, a.WellFormed → (a.strictEq a = true ↔ ¬ a.HasNaN)) ∧
    (∀ a b : Value, a.WellFormed → b.WellFormed → a.HasNaN →
      a.strictEq b = false ∧ b.strictEq a = false) ∧
    (∀ a b c : Value, a.Exact → b.Exact → c.Exact → a.strictEq b = true → b.strictEq c = true →
      a.strictEq c = true) ∧
    ∀ a a' b b' : Value, b.WellFormed → Like Eq a a' → Like Eq b b' →
      a.strictEq b = a'.strictEq b' := by
  refine ⟨fun a b ha hb => strictEq_comm ha hb,
    fun a ha => ⟨not_hasNaN_of_strictEq, strictEq_self ha⟩, fun a b ha hb hnan => ?_,
    fun a b c ha hb hc => strictEq_trans ha hb hc,
    fun a a' b b' hb h h' => strictEq_like Number.likeness_eq a h h' hb⟩
  have hleft : a.strictEq b = false :=
    Bool.eq_false_iff.mpr fun h => not_hasNaN_of_strictEq h hnan
  exact ⟨hleft, strictEq_comm ha hb ▸ hleft⟩

/-- A record with the integer five in one of its spellings. -/
def five (n : Number) : Value := object [("n", number n), ("t", array [null])]

/-- The same with its fields the other way round. -/
def fiveTurned (n : Number) : Value := object [("t", array [null]), ("n", number n)]

theorem strictEq_laws_five :
    let signed : Number := .signed ⟨5, by decide, by decide⟩
    let real : Number := .real ⟨0x4014000000000000⟩
    let unsigned : Number := .unsigned ⟨5, by decide, by decide⟩
    let nan : Number := .real .nan
    (five signed).WellFormed ∧ (fiveTurned real).WellFormed ∧ (five nan).HasNaN ∧
      (five signed).strictEq (fiveTurned real) = true ∧
      (fiveTurned real).strictEq (five signed) = true ∧
      (five signed).strictEq (five unsigned) = true ∧
      (five signed).strictEq (five real) = true ∧
      (five signed).strictEq (five signed) = true ∧
      (five nan).strictEq (five signed) = false ∧ (five signed).strictEq (five nan) = false := by
  intro signed real unsigned nan
  obtain ⟨hsymm, hself, hnan, htrans, horder⟩ := strictEq_laws
  have hwf : ∀ n, (five n).WellFormed := fun n => by
    simp [five, WellFormed, entriesWellFormed, itemsWellFormed, Entries.Distinct, Entries.names]
  have hwf' : ∀ n, (fiveTurned n).WellFormed := fun n => by
    simp [fiveTurned, WellFormed, entriesWellFormed, itemsWellFormed, Entries.Distinct,
      Entries.names]
  have hholds : ∀ m n : Number, (five m).Holds n → n = m := fun m n h => by
    obtain ⟨⟩ | _ | ⟨he, hn⟩ := h
    obtain rfl | he := List.mem_cons.mp he
    · cases hn
      rfl
    · obtain rfl := List.mem_singleton.mp he
      obtain ⟨⟩ | ⟨hv, hn⟩ := hn
      obtain rfl := List.mem_singleton.mp hv
      cases hn
  have hexact : ∀ n : Number, n.Exact → (five n).Exact := fun n hn m hm => hholds n m hm ▸ hn
  have hnone : ¬ (five signed).HasNaN := by
    rintro ⟨n, hn, h⟩
    rw [hholds signed n hn] at h
    cases h
  have hinside : (five nan).HasNaN :=
    ⟨nan, .entry (e := ("n", number nan)) List.mem_cons_self .number, by decide⟩
  have hturned : ∀ n, Like Eq (five n) (fiveTurned n) := fun n =>
    .object (.cons (.mk "n" (.number rfl)) (.cons (.mk "t" (.array (.cons .null .nil))) .nil))
      (.swap _ _ _)
  have hreal : (five signed).strictEq (five real) = true := by decide +kernel
  have hunsigned : (five unsigned).strictEq (five real) = true := by decide +kernel
  have hback : (five real).strictEq (five unsigned) = true :=
    (hsymm _ _ (hwf _) (hwf _)).symm.trans hunsigned
  have hacross : (five signed).strictEq (fiveTurned real) = true :=
    (horder _ _ _ _ (hwf _) (Like.refl Number.likeness_eq _) (hturned real)).symm.trans hreal
  have hmiss := hnan (five nan) (five signed) (hwf _) (hwf _) hinside
  refine ⟨hwf _, hwf' _, hinside, hacross, (hsymm _ _ (hwf' _) (hwf _)).trans hacross, ?_, hreal,
    (hself _ (hwf _)).mpr hnone, hmiss.1, hmiss.2⟩
  exact htrans _ _ _ (hexact signed (by simp [signed, Number.Exact]))
    (hexact real (by simp [real, Number.Exact]))
    (hexact unsigned (by simp [unsigned, Number.Exact])) hreal hback

/-- Beyond `2 ^ 53` equality does not go on: two integers in a row equal one binary64 number. -/
example :
    let odd : Value := number (.signed ⟨2 ^ 53 + 1, by decide, by decide⟩)
    let real : Value := number (.real ⟨0x4340000000000000⟩)
    let even : Value := number (.signed ⟨2 ^ 53, by decide, by decide⟩)
    odd.strictEq real = true ∧ real.strictEq even = true ∧ odd.strictEq even = false := by
  decide +kernel

end Value

end RecordFilter
