/-
# Operator sets as tables of settings

An operator set has a slot for each operator and each combinator, and what stands in a slot is a
setting.  Setting is then what it is for any table: the last setting of a slot stays, apart from
an operator that is turned off again (`OperatorSet.get?_set`), and a set is determined by its slots
(`OperatorSet.ext_get?`).  So settings of different slots can be made in any order
(`OperatorSet.setAll_perm`), and a set is the one that its own settings make
(`OperatorSet.ofSettings_settings`).  Some of its settings make a set with the same slots or empty
ones (`OperatorSet.restrict`).
-/
import Mathlib.Data.List.Induction
import Mathlib.Data.List.Nodup
import RecordFilter.Proofs.Induction

namespace RecordFilter

/-! ## 1. Slots -/

/-- What a setting is about. -/
inductive Slot where
  | operator (op : Operator)
  | combinator (c : Combinator)
deriving DecidableEq

/-- The key of a slot in a document. -/
def Slot.key : Slot → String
  | .operator op => op.name
  | .combinator c => c.key

/-- The slots of conditions. -/
def Slot.conditions : List Slot := (Operator.all.filter (· ≠ .length)).map .operator

/-- Every slot, the operators first. -/
def Slot.all : List Slot := Operator.all.map .operator ++ Combinator.all.map .combinator

theorem Slot.mem_all (slot : Slot) : slot ∈ Slot.all := by
  cases slot with
  | operator op => exact List.mem_append_left _ (List.mem_map_of_mem op.mem_all)
  | combinator c => cases c <;> decide

theorem Slot.nodup_all : Slot.all.Nodup := by decide

theorem Slot.key_injective : Function.Injective Slot.key := by
  have hname : ∀ {op : Operator} {slot : Slot}, op.name = slot.key → Slot.operator op = slot := by
    intro op slot h
    cases slot with
    | operator op' =>
      have hop := (Operator.ofName?_name op).symm.trans (congrArg Operator.ofName? h)
      exact congrArg Slot.operator (Option.some.inj (hop.trans (Operator.ofName?_name op')))
    | combinator c =>
      have hno := (Combinator.ofKey?_name op).symm.trans (congrArg Combinator.ofKey? h)
      exact absurd (hno.trans (Combinator.ofKey?_key c)) (by simp)
  intro slot slot' h
  cases slot with
  | operator op => exact hname h
  | combinator c =>
    cases slot' with
    | operator op' => exact (hname h.symm).symm
    | combinator c' =>
      have hc := (Combinator.ofKey?_key c).symm.trans (congrArg Combinator.ofKey? h)
      exact congrArg Slot.combinator (Option.some.inj (hc.trans (Combinator.ofKey?_key c')))

/-- The slot of a setting. -/
def Setting.slot : Setting → Slot
  | .equals _ => .operator .equals
  | .notEquals _ => .operator .notEquals
  | .includes _ => .operator .includes
  | .startsWith _ => .operator .startsWith
  | .endsWith _ => .operator .endsWith
  | .caseInsensitive _ => .operator .caseInsensitive
  | .matchesPattern _ => .operator .matchesPattern
  | .greaterThan _ => .operator .greaterThan
  | .greaterThanOrEqual _ => .operator .greaterThanOrEqual
  | .lessThan _ => .operator .lessThan
  | .lessThanOrEqual _ => .operator .lessThanOrEqual
  | .includesEvery _ => .operator .includesEvery
  | .includesSome _ => .operator .includesSome
  | .includesNone _ => .operator .includesNone
  | .length _ => .operator .length
  | .combine c _ => .combinator c

/-- The key of a setting in a document. -/
def Setting.key (s : Setting) : String := s.slot.key

/-- What a setting leaves in its slot: nothing, when it turns its operator off. -/
def Setting.kept : Setting → Option Setting
  | .caseInsensitive false => none
  | s => some s

theorem Setting.eq_of_kept {s t : Setting} (h : s.kept = some t) : t = s := by
  unfold Setting.kept at h
  split at h
  next => cases h
  next => exact (Option.some.inj h).symm

/-- Only the flag that ignores case is turned off by a setting. -/
theorem Setting.kept_of_slot {s : Setting} {slot : Slot} (h : s.slot = slot)
    (hflag : slot ≠ .operator .caseInsensitive) : s.kept = some s := by
  cases s with
  | caseInsensitive on => exact absurd h.symm hflag
  | _ => rfl

/-- Combinators are determined by their operands. -/
theorem Combinators.ext_get? {cs cs' : Combinators} (h : ∀ c, cs.get? c = cs'.get? c) :
    cs = cs' := by
  obtain ⟨not, and, or⟩ := cs
  obtain ⟨not', and', or'⟩ := cs'
  obtain rfl : not = not' := h .not
  obtain rfl : and = and' := h .and
  obtain rfl : or = or' := h .or
  rfl

/-- The operands of combinators, as settings. -/
def Combinators.settings (cs : Combinators) : List Setting :=
  Combinator.all.filterMap fun c => (cs.get? c).map (.combine c)

namespace OperatorSet

/-! ## 2. Reading the slots -/

/-- What stands in a slot. -/
def get? (ops : OperatorSet) : Slot → Option Setting
  | .operator .equals => ops.conditions.equals.map .equals
  | .operator .notEquals => ops.conditions.notEquals.map .notEquals
  | .operator .includes => ops.conditions.includes.map .includes
  | .operator .startsWith => ops.conditions.startsWith.map .startsWith
  | .operator .endsWith => ops.conditions.endsWith.map .endsWith
  | .operator .caseInsensitive =>
    if ops.conditions.caseInsensitive then some (.caseInsensitive true) else none
  | .operator .matchesPattern => ops.conditions.matchesPattern.map .matchesPattern
  | .operator .greaterThan => ops.conditions.greaterThan.map .greaterThan
  | .operator .greaterThanOrEqual => ops.conditions.greaterThanOrEqual.map .greaterThanOrEqual
  | .operator .lessThan => ops.conditions.lessThan.map .lessThan
  | .operator .lessThanOrEqual => ops.conditions.lessThanOrEqual.map .lessThanOrEqual
  | .operator .includesEvery => ops.conditions.includesEvery.map .includesEvery
  | .operator .includesSome => ops.conditions.includesSome.map .includesSome
  | .operator .includesNone => ops.conditions.includesNone.map .includesNone
  | .operator .length => ops.length.map .length
  | .combinator c => (ops.combinators.get? c).map (.combine c)

/-- Is an operator set? -/
def sets (ops : OperatorSet) (op : Operator) : Bool := (ops.get? (.operator op)).isSome

theorem sets_caseInsensitive (ops : OperatorSet) :
    ops.sets .caseInsensitive = ops.conditions.caseInsensitive := by
  rw [sets, get?]
  cases ops.conditions.caseInsensitive <;> rfl

theorem get?_empty (slot : Slot) : empty.get? slot = none := by
  cases slot with
  | operator op => cases op <;> rfl
  | combinator c => cases c <;> rfl

/-- **The last setting of a slot stays.** -/
theorem get?_set (ops : OperatorSet) (s : Setting) (slot : Slot) :
    (ops.set s).get? slot = if s.slot = slot then s.kept else ops.get? slot := by
  cases slot with
  | operator op =>
    cases s with
    | caseInsensitive on => cases op <;> cases on <;> rfl
    | _ => cases op <;> rfl
  | combinator c =>
    cases s with
    | combine c' operand => cases c <;> cases c' <;> rfl
    | _ => rfl

theorem get?_slot {ops : OperatorSet} {slot : Slot} {s : Setting} (h : ops.get? slot = some s) :
    s.slot = slot ∧ s.kept = some s := by
  cases slot with
  | combinator c =>
    obtain ⟨operand, _, rfl⟩ := Option.map_eq_some_iff.mp h
    exact ⟨rfl, rfl⟩
  | operator op =>
    cases op with
    | caseInsensitive =>
      rw [get?] at h
      split at h
      next =>
        cases h
        exact ⟨rfl, rfl⟩
      next => cases h
    | _ =>
      obtain ⟨_, _, rfl⟩ := Option.map_eq_some_iff.mp h
      exact ⟨rfl, rfl⟩

/-- **A set is determined by its slots.** -/
theorem ext_get? {ops ops' : OperatorSet} (h : ∀ slot, ops.get? slot = ops'.get? slot) :
    ops = ops' := by
  have hslot : ∀ {α : Type} {K : α → Setting} {o o' : Option α}, (∀ a b, K a = K b → a = b) →
      o.map K = o'.map K → o = o' := fun hK h => Option.map_injective hK h
  have hflag : ops.conditions.caseInsensitive = ops'.conditions.caseInsensitive := by
    rw [← sets_caseInsensitive, ← sets_caseInsensitive, sets, sets, h]
  obtain ⟨c, length, cs⟩ := ops
  obtain ⟨c', length', cs'⟩ := ops'
  have hconditions : c = c' := by
    cases c
    cases c'
    simp only [Conditions.mk.injEq]
    refine ⟨hslot ?_ (h (.operator .equals)), hslot ?_ (h (.operator .notEquals)),
      hslot ?_ (h (.operator .includes)), hslot ?_ (h (.operator .startsWith)),
      hslot ?_ (h (.operator .endsWith)), hflag, hslot ?_ (h (.operator .matchesPattern)),
      hslot ?_ (h (.operator .greaterThan)), hslot ?_ (h (.operator .greaterThanOrEqual)),
      hslot ?_ (h (.operator .lessThan)), hslot ?_ (h (.operator .lessThanOrEqual)),
      hslot ?_ (h (.operator .includesEvery)), hslot ?_ (h (.operator .includesSome)),
      hslot ?_ (h (.operator .includesNone))⟩
    all_goals
      intro a b hab
      injection hab
  have hlength : length = length' := hslot (fun a b hab => by injection hab) (h (.operator .length))
  have hcombinators : cs = cs' :=
    Combinators.ext_get? fun c => hslot (fun a b hab => by injection hab) (h (.combinator c))
  rw [hconditions, hlength, hcombinators]

/-! ## 3. Many settings -/

/-- Settings of different slots can be made in either order. -/
theorem set_comm (ops : OperatorSet) {s t : Setting} (h : s.slot ≠ t.slot) :
    (ops.set s).set t = (ops.set t).set s := by
  refine ext_get? fun slot => ?_
  simp only [get?_set]
  by_cases hs : s.slot = slot
  · subst hs
    simp [Ne.symm h]
  · simp [hs]

/-- **The order of settings does not matter** where no slot is set twice. -/
theorem setAll_perm {settings settings' : List Setting}
    (h : (settings.map Setting.key).Nodup) (p : settings.Perm settings') (ops : OperatorSet) :
    settings.foldl set ops = settings'.foldl set ops := by
  refine p.foldl_eq' (fun s hs t ht ops => ?_) ops
  by_cases hst : s = t
  · rw [hst]
  · exact set_comm ops fun hslot =>
      hst (List.inj_on_of_nodup_map h hs ht (congrArg Slot.key hslot))

/-- After many settings, the last one of a slot stands in it. -/
theorem get?_setAll (settings : List Setting) (ops : OperatorSet) (slot : Slot) :
    (settings.foldl set ops).get? slot =
      (settings.reverse.find? fun s => s.slot = slot).elim (ops.get? slot) Setting.kept := by
  induction settings using List.reverseRecOn with
  | nil => rfl
  | append_singleton rest s ih =>
    rw [List.foldl_append, List.foldl_cons, List.foldl_nil, get?_set, List.reverse_append,
      List.reverse_singleton, List.singleton_append, List.find?_cons]
    by_cases hs : s.slot = slot <;> simp [hs, ih]

theorem get?_ofSettings (settings : List Setting) (slot : Slot) :
    (ofSettings settings).get? slot =
      (settings.reverse.find? fun s => s.slot = slot).bind Setting.kept := by
  rw [ofSettings, get?_setAll, get?_empty]
  cases settings.reverse.find? fun s => s.slot = slot <;> rfl

/-- The settings of a set, in the order of the slots. -/
def settings (ops : OperatorSet) : List Setting := Slot.all.filterMap ops.get?

theorem mem_settings_iff {ops : OperatorSet} {s : Setting} :
    s ∈ ops.settings ↔ ops.get? s.slot = some s := by
  rw [settings, List.mem_filterMap]
  constructor
  · rintro ⟨slot, _, h⟩
    exact (get?_slot h).1 ▸ h
  · exact fun h => ⟨s.slot, s.slot.mem_all, h⟩

theorem mem_settings_set {ops : OperatorSet} {s t : Setting} (h : t ∈ (ops.set s).settings) :
    t = s ∨ t ∈ ops.settings := by
  rw [mem_settings_iff, get?_set] at h
  split at h
  next => exact .inl (Setting.eq_of_kept h)
  next => exact .inr (mem_settings_iff.mpr h)

/-- The settings of the conditions come first, then the set of a length, then the combinators. -/
theorem settings_eq (c : Conditions) (length : Option OperatorSet) (cs : Combinators) :
    settings ⟨c, length, cs⟩ =
      settings ⟨c, none, .empty⟩ ++ ((length.map Setting.length).toList ++ cs.settings) := by
  have hconditions : ∀ slot ∈ Slot.conditions,
      get? ⟨c, length, cs⟩ slot = get? ⟨c, none, .empty⟩ slot := by
    intro slot h
    obtain ⟨op, hop, rfl⟩ := List.mem_map.mp h
    cases op with
    | length => simp at hop
    | _ => rfl
  have hall : Slot.all = Slot.conditions ++
      .operator .length :: Combinator.all.map .combinator := rfl
  have hrest : (Slot.operator .length :: Combinator.all.map .combinator).filterMap
      (get? ⟨c, length, cs⟩) = (length.map Setting.length).toList ++ cs.settings := by
    cases length <;> rfl
  have hnone : (Slot.operator .length :: Combinator.all.map .combinator).filterMap
      (get? ⟨c, none, .empty⟩) = [] := rfl
  rw [settings, settings, hall, List.filterMap_append, List.filterMap_append,
    List.filterMap_congr hconditions, hrest, hnone, List.append_nil]

/-- The set with those of its settings that stand in the slots to keep. -/
def restrict (ops : OperatorSet) (keep : Slot → Bool) : OperatorSet :=
  ofSettings (ops.settings.filter fun s => keep s.slot)

/-- **A restricted set has what stood in the slots that are kept**, and nothing else. -/
theorem get?_restrict (ops : OperatorSet) (keep : Slot → Bool) (slot : Slot) :
    (ops.restrict keep).get? slot = if keep slot then ops.get? slot else none := by
  rw [restrict, ofSettings, get?_setAll, get?_empty]
  cases hfind : (ops.settings.filter fun s => keep s.slot).reverse.find? fun s => s.slot = slot with
  | some s =>
    have hslot : s.slot = slot := by simpa using List.find?_some hfind
    have hmem := List.mem_reverse.mp (List.mem_of_find?_eq_some hfind)
    obtain ⟨hs, hkeep⟩ := List.mem_filter.mp hmem
    have hget := mem_settings_iff.mp hs
    rw [hslot] at hget hkeep
    rw [if_pos hkeep, hget]
    exact (get?_slot hget).2
  | none =>
    split
    next hkeep =>
      cases hget : ops.get? slot with
      | none => rfl
      | some s =>
        obtain ⟨hslot, _⟩ := get?_slot hget
        have hmem : s ∈ ops.settings.filter fun s => keep s.slot :=
          List.mem_filter.mpr ⟨mem_settings_iff.mpr (hslot ▸ hget), by rwa [hslot]⟩
        have hno := List.find?_eq_none.mp hfind s (List.mem_reverse.mpr hmem)
        exact absurd (decide_eq_true hslot) hno
    next => rfl

theorem restrict_length (ops : OperatorSet) (keep : Slot → Bool) :
    (ops.restrict keep).length = if keep (.operator .length) then ops.length else none := by
  have hget := get?_restrict ops keep (.operator .length)
  by_cases hkeep : keep (.operator .length) = true
  · rw [if_pos hkeep] at hget ⊢
    exact Option.map_injective (fun _ _ h => by injection h) hget
  · rw [if_neg hkeep] at hget ⊢
    exact Option.map_eq_none_iff.mp hget

theorem get?_restrict_combinators (ops : OperatorSet) (keep : Slot → Bool) (c : Combinator) :
    (ops.restrict keep).combinators.get? c =
      if keep (.combinator c) then ops.combinators.get? c else none := by
  have hget := get?_restrict ops keep (.combinator c)
  by_cases hkeep : keep (.combinator c) = true
  · rw [if_pos hkeep] at hget ⊢
    exact Option.map_injective (fun _ _ h => by injection h) hget
  · rw [if_neg hkeep] at hget ⊢
    exact Option.map_eq_none_iff.mp hget

/-- **A set is the one that its own settings make.** -/
theorem ofSettings_settings (ops : OperatorSet) : ofSettings ops.settings = ops := by
  refine ext_get? fun slot => ?_
  have hget := get?_restrict ops (fun _ => true) slot
  rwa [restrict, List.filter_true, if_pos rfl] at hget

theorem settings_keys_nodup (ops : OperatorSet) : (ops.settings.map Setting.key).Nodup := by
  -- The slots of the settings are the slots that hold something, in their order.
  have hsublist : ∀ slots : List Slot,
      ((slots.filterMap ops.get?).map Setting.slot).Sublist slots := by
    intro slots
    induction slots with
    | nil => exact .slnil
    | cons slot rest ih =>
      cases hget : ops.get? slot with
      | none =>
        rw [List.filterMap_cons_none hget]
        exact ih.cons slot
      | some s =>
        rw [List.filterMap_cons_some hget, List.map_cons, (get?_slot hget).1]
        exact ih.cons_cons slot
  have hkeys : ops.settings.map Setting.key = (ops.settings.map Setting.slot).map Slot.key := by
    rw [List.map_map]
    rfl
  rw [hkeys]
  exact ((hsublist Slot.all).nodup Slot.nodup_all).map Slot.key_injective

/-! ## 4. The operators that are set -/

theorem sets_restrict (ops : OperatorSet) (keep : Slot → Bool) (op : Operator) :
    (ops.restrict keep).sets op = (keep (.operator op) && ops.sets op) := by
  rw [sets, get?_restrict]
  cases keep (.operator op) <;> rfl

/-- The operators that are listed are those that are set, in the order of all operators. -/
theorem configured_eq (ops : OperatorSet) : ops.configured = Operator.all.filter ops.sets := by
  -- The conditions are a table of operators, each with whether it is set.
  have htable : ∀ (table : List Operator) (isSet : Operator → Bool),
      ((table.map fun op => (op, isSet op)).filterMap fun p => if p.2 then some p.1 else none)
        = table.filter isSet := by
    intro table isSet
    rw [List.filterMap_map, ← List.filterMap_eq_filter]
    rfl
  have hconditions : ops.conditions.configured = Operator.all.dropLast.filter ops.sets := by
    rw [← htable]
    simp only [Operator.all, List.dropLast, List.map_cons, List.map_nil, sets_caseInsensitive]
    simp only [sets, get?, Option.isSome_map]
    rfl
  have hlength : (if ops.length.isSome then [Operator.length] else []) =
      [Operator.length].filter ops.sets := by
    simp only [sets, get?, List.filter_cons, List.filter_nil, Option.isSome_map]
  rw [configured, hconditions, hlength, ← List.filter_append]
  rfl

theorem mem_configured_iff {ops : OperatorSet} {op : Operator} :
    op ∈ ops.configured ↔ ops.sets op = true := by
  rw [configured_eq, List.mem_filter]
  exact and_iff_right op.mem_all

end OperatorSet

end RecordFilter
