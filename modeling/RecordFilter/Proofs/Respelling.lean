/-
# The spelling of integers does not matter

A small integer can be spelled as an integer or as the binary64 number equal to it.  Documents and
datasets that differ only in such spellings, at any places, and in the order of keys, are read
under the same limits and have the same verdicts (`Expression.ofJson_respelled`).

No comparison tells the spellings apart (`Number.likeness_respelled`).  Against an integer, one
spelling compares exactly and the other one with a rounded integer; against a binary64 number, one
spelling is rounded first.  All of it comes to the comparison of exact values
(`Number.compare?_of_spells`): a small integer is not changed by rounding, and what lies on one side
of it stays on that side, since rounding keeps the order.  The bound `2 ^ 53` is sharp, as the next
integer after that is rounded to it.
-/
import RecordFilter.Proofs.KeyOrder
import RecordFilter.Proofs.NumericOrder

namespace RecordFilter

/-! ## 1. Comparisons of a small integer -/

namespace Binary64

/-- **Rounding an integer does not move it past a small one.** -/
theorem compare_units_ofInt {k : Int} (hk : k.natAbs < 2 ^ 53) (n : Int) :
    compare (k * one) (ofInt n).units = compare k n := by
  have hone := one_pos
  -- The integers next to `k` are not changed either, so `n` stays at or beyond one of them.
  rcases Int.lt_trichotomy k n with hlt | rfl | hlt
  · have hunits := units_ofInt_mono (show k + 1 ≤ n by omega)
    rw [units_ofInt (n := k + 1) (by omega), Int.add_mul, Int.one_mul] at hunits
    rw [Int.compare_eq_lt.mpr hlt, Int.compare_eq_lt.mpr (by omega)]
  · rw [units_ofInt (Nat.le_of_lt hk), Int.compare_eq_eq.mpr rfl, Int.compare_eq_eq.mpr rfl]
  · have hunits := units_ofInt_mono (show n ≤ k - 1 by omega)
    rw [units_ofInt (n := k - 1) (by omega), Int.sub_mul, Int.one_mul] at hunits
    rw [Int.compare_eq_gt.mpr hlt, Int.compare_eq_gt.mpr (by omega)]

end Binary64

namespace Number

/-- The order of an integer and a number, by their exact values. -/
def compareInteger? (k : Int) : Number → Option Ordering
  | signed n => some (compare k n.val)
  | unsigned n => some (compare k n.val)
  | wide n => some (compare k n.val)
  | real x => if x.isNaN then none else some (compare (k * Binary64.one) x.units)

/-- The number is a spelling of an integer: the integer itself, but not of the widest kind, or the
binary64 number equal to it. -/
inductive Spells : Number → Int → Prop
  | signed (n : Signed64) : Spells (.signed n) n.val
  | unsigned (n : Unsigned64) : Spells (.unsigned n) n.val
  | real {x : Binary64} {k : Int} (nan : x.isNaN = false) (h : x.units = k * Binary64.one) :
      Spells (.real x) k

theorem Spells.isWide_eq {a : Number} {k : Int} (h : a.Spells k) : a.isWide = false := by
  cases h <;> rfl

/-- **Every spelling of a small integer compares as the integer does.** -/
theorem compare?_of_spells {a : Number} {k : Int} (h : a.Spells k) (hk : k.natAbs < 2 ^ 53)
    (b : Number) : a.compare? b = b.compareInteger? k := by
  have hsmall := Binary64.units_ofInt (Nat.le_of_lt hk)
  cases h with
  | signed n | unsigned n =>
    cases b with
    | signed | unsigned | wide => rfl
    | real y =>
      simp [compare?, integer?, compareInteger?, toBinary64, Binary64.compare?,
        Binary64.ofInt_isNaN, hsmall]
  | real nan h =>
    cases b with
    | signed | unsigned | wide =>
      simp [compare?, integer?, compareInteger?, toBinary64, Binary64.compare?,
        Binary64.ofInt_isNaN, nan, h, Binary64.compare_units_ofInt hk]
    | real y =>
      simp [compare?, integer?, compareInteger?, toBinary64, Binary64.compare?, nan, h]

/-- The same number, or two spellings of one small integer. -/
def Respelled (a b : Number) : Prop :=
  a = b ∨ ∃ k : Int, k.natAbs < 2 ^ 53 ∧ a.Spells k ∧ b.Spells k

theorem Respelled.compare?_left {a a' : Number} (h : a.Respelled a') (b : Number) :
    a.compare? b = a'.compare? b := by
  rcases h with rfl | ⟨k, hk, ha, ha'⟩
  · rfl
  · rw [compare?_of_spells ha hk, compare?_of_spells ha' hk]

/-- **No comparison tells spellings apart.** -/
theorem likeness_respelled : Likeness Respelled where
  refl a := .inl rfl
  isWide_eq h := by
    rcases h with rfl | ⟨k, _, ha, hb⟩
    · rfl
    · rw [ha.isWide_eq, hb.isWide_eq]
  compare?_eq {a a' b b'} ha hb := by
    rw [ha.compare?_left, compare?_swap b, compare?_swap b', hb.compare?_left]

/-- The two spellings of `2 ^ 53` compare differently with the next integer. -/
example :
    (signed ⟨2 ^ 53, by decide, by decide⟩).compare? (signed ⟨2 ^ 53 + 1, by decide, by decide⟩)
        = some .lt ∧
      (real ⟨0x4340000000000000⟩).compare? (signed ⟨2 ^ 53 + 1, by decide, by decide⟩)
        = some .eq := by
  decide +kernel

end Number

/-! ## 2. Alike documents over alike datasets -/

section Alike

variable {R : Numeral → Numeral → Prop} {N : Number → Number → Prop}

/-- **Alike documents have the same verdicts over alike datasets**, and are read under the same
limits, if the relation between numerals goes both ways. -/
theorem Expression.ofJson_alike (hN : Number.Likeness N)
    (hR : ∀ {n n'}, R n n' → N (.ofNumeral n) (.ofNumeral n')) (hsymm : ∀ {n n'}, R n n' → R n' n)
    {json json' : Json} (hjson : Json.Like R json json') (hwf : json.WellFormed)
    {data data' : List Json} (hdata : List.Forall₂ (Json.Like R) data data')
    (hdataWf : ∀ item ∈ data, item.WellFormed) {dataset : List Record}
    (hdataset : data.mapM Record.ofJson = .ok dataset) (limits : Limits) :
    ((∃ e, (Expression.ofJson json limits).result = .ok e) ↔
        ∃ e', (Expression.ofJson json' limits).result = .ok e') ∧
      ∃ dataset', data'.mapM Record.ofJson = .ok dataset' ∧
        ∀ e e', (Expression.ofJson json limits).result = .ok e →
          (Expression.ofJson json' limits).result = .ok e' →
            ∀ index, ∃ verdict, (e.matchesAt dataset index limits).result = .ok verdict ∧
              (e'.matchesAt dataset' index limits).result = .ok verdict := by
  constructor
  · constructor
    · rintro ⟨e, he⟩
      obtain ⟨e', he', _⟩ := Expression.ofJson_like hN hR hjson hwf he
      exact ⟨e', he'⟩
    · rintro ⟨e', he'⟩
      obtain ⟨e, he, _⟩ :=
        Expression.ofJson_like hN hR (hjson.symm hsymm) (hjson.wellFormed hwf) he'
      exact ⟨e, he⟩
  have hitems : List.Forall₂ (fun item item' => Json.Like R item item' ∧ item.WellFormed)
      data data' := forall₂_imp_of_mem hdata fun item hm _ h => ⟨h, hdataWf item hm⟩
  obtain ⟨dataset', hdataset', hrecords⟩ := forall₂_square hitems (mapM_ok_iff.mp hdataset)
    fun hitem hr => Record.ofJson_like hR hitem.1 hitem.2 hr
  refine ⟨dataset', mapM_ok_iff.mpr hdataset', fun e e' he he' => ?_⟩
  obtain ⟨other, hother, hsame⟩ := Expression.ofJson_like hN hR hjson hwf he
  obtain rfl : other = e' := Except.ok.inj (hother.symm.trans he')
  rw [Expression.ofJson_result] at he he'
  exact hsame.matchesAt_eq ((Json.readsSound json).expression he)
    ((Json.readsSound json').expression he') hrecords

end Alike

/-! ## 3. Respelled documents -/

namespace Numeral

/-- The numeral is a spelling of an integer: the integer itself, or the binary64 number equal to
it.  Both zeros of binary64 are spellings of `0`. -/
def Spells : Numeral → Int → Prop
  | integer n, k => n.val = k
  | real x _, k => x.units = k * Binary64.one

/-- The same numeral, or two spellings of one integer of a magnitude below `2 ^ 53`. -/
def Respelled (a b : Numeral) : Prop :=
  a = b ∨ ∃ k : Int, k.natAbs < 2 ^ 53 ∧ a.Spells k ∧ b.Spells k

theorem Respelled.symm {a b : Numeral} (h : a.Respelled b) : b.Respelled a :=
  h.imp Eq.symm fun ⟨k, hk, ha, hb⟩ => ⟨k, hk, hb, ha⟩

theorem Spells.number {a : Numeral} {k : Int} (h : a.Spells k) : (Number.ofNumeral a).Spells k := by
  cases a with
  | integer n =>
    obtain rfl : n.val = k := h
    rw [Number.ofNumeral, Number.ofInteger]
    split
    next hfits => exact .signed ⟨n.val, n.lo_le, hfits⟩
    next hbig => exact .unsigned ⟨n.val, by omega, n.le_hi⟩
  | real x finite =>
    have hmagnitude : x.magnitude < Binary64.infinityMagnitude := of_decide_eq_true finite
    exact .real (decide_eq_false (Nat.not_lt.mpr (Nat.le_of_lt hmagnitude))) h

theorem Respelled.number {a b : Numeral} (h : a.Respelled b) :
    (Number.ofNumeral a).Respelled (.ofNumeral b) :=
  h.imp (congrArg _) fun ⟨k, hk, ha, hb⟩ => ⟨k, hk, ha.number, hb.number⟩

end Numeral

/-- Two trees differ only in the spelling of small integers and in the order of members. -/
def Json.Respelled : Json → Json → Prop := Json.Like Numeral.Respelled

/-- **The spelling of small integers does not matter.**  Two documents that differ only in the
spelling of integers below `2 ^ 53` are accepted under the same limits, and then they match the same
records of datasets that differ only in such spellings. -/
theorem Expression.ofJson_respelled {json json' : Json} (hjson : json.Respelled json')
    (hwf : json.WellFormed) {data data' : List Json}
    (hdata : List.Forall₂ Json.Respelled data data') (hdataWf : ∀ item ∈ data, item.WellFormed)
    {dataset : List Record} (hdataset : data.mapM Record.ofJson = .ok dataset) (limits : Limits) :
    ((∃ e, (Expression.ofJson json limits).result = .ok e) ↔
        ∃ e', (Expression.ofJson json' limits).result = .ok e') ∧
      ∃ dataset', data'.mapM Record.ofJson = .ok dataset' ∧
        ∀ e e', (Expression.ofJson json limits).result = .ok e →
          (Expression.ofJson json' limits).result = .ok e' →
            ∀ index, ∃ verdict, (e.matchesAt dataset index limits).result = .ok verdict ∧
              (e'.matchesAt dataset' index limits).result = .ok verdict :=
  Expression.ofJson_alike Number.likeness_respelled Numeral.Respelled.number Numeral.Respelled.symm
    hjson hwf hdata hdataWf hdataset limits

/-- The integer `5` spelled as an integer. -/
def Numeral.fiveInteger : Numeral := .integer ⟨5, by decide, by decide⟩

/-- The integer `5` spelled as a binary64 number. -/
def Numeral.fiveReal : Numeral := .real ⟨0x4014000000000000⟩ (by decide)

theorem Numeral.five_respelled : fiveInteger.Respelled fiveReal :=
  .inr ⟨5, by decide, rfl, by unfold Spells fiveReal; decide +kernel⟩

/-- A document and a record with the same numeral in each. -/
def Json.field (n : Numeral) : Json := .object [("n", .array [.number n])]

theorem Json.field_respelled {n n' : Numeral} (h : n.Respelled n') :
    (Json.field n).Respelled (Json.field n') :=
  .object (.cons (.mk "n" (.array (.cons (.number h) .nil))) .nil) (.refl _)

theorem Expression.ofJson_respelled_five :
    ∃ e e' dataset dataset',
      (Expression.ofJson (Json.field .fiveInteger) {}).result = .ok e ∧
      (Expression.ofJson (Json.field .fiveReal) {}).result = .ok e' ∧
      [Json.field .fiveReal].mapM Record.ofJson = .ok dataset ∧
      [Json.field .fiveInteger].mapM Record.ofJson = .ok dataset' ∧
      ∀ index, ∃ verdict, (e.matchesAt dataset index {}).result = .ok verdict ∧
        (e'.matchesAt dataset' index {}).result = .ok verdict := by
  have hwf : ∀ n, (Json.field n).WellFormed := fun n => by
    simp [Json.field, Json.WellFormed, Json.membersWellFormed, Json.itemsWellFormed,
      Entries.Distinct, Entries.names]
  obtain ⟨hread, dataset', hdataset', hverdicts⟩ := Expression.ofJson_respelled
    (Json.field_respelled Numeral.five_respelled) (hwf _)
    (.cons (Json.field_respelled Numeral.five_respelled.symm) .nil)
    (List.forall_mem_singleton.mpr (hwf _)) rfl {}
  have hok : (Expression.ofJson (Json.field .fiveInteger) {}).result.isOk = true := by decide
  obtain ⟨e, he⟩ := isOk_iff.mp hok
  obtain ⟨e', he'⟩ := hread.mp ⟨e, he⟩
  exact ⟨e, e', _, dataset', he, he', rfl, hdataset', hverdicts e e' he he'⟩

end RecordFilter
