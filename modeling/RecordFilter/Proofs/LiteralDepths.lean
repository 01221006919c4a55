/-
# How deep a document goes

Reading and validation count the depth of expressions and operator sets alike, but reading goes on
into literals: a literal lies one step below what holds it, and what is in it lies deeper still.
Validation never looks at a literal.  So a document is read under a limit exactly when its
expression passes under that limit and its literals lie within the limit as well
(`Expression.ofJson_ok_iff_validate`).  Literals decide at the greatest depth: under a limit of 0
the expression of a document with one number in it passes, and the document is refused
(`Expression.oneNumber_validate_disagrees`).

For the proof, the depth of a document is found again in the expression that is read from it.  What
is read from a tree fits within a bound, literals included, exactly when the depth of the tree
allows (`Json.CountsAlike`).  Keys must differ for this, since a key that comes again would replace
something that has been counted.
-/
import RecordFilter.Proofs.Builder
import RecordFilter.Proofs.Members
import RecordFilter.Proofs.Safety
import RecordFilter.Proofs.Trees
import RecordFilter.Proofs.Violations

namespace RecordFilter

variable {limit bound depth : Nat}

/-! ## 1. Literals -/

mutual

/-- How deep a value nests. -/
def Value.nesting : Value → Nat
  | .array items => Value.itemsNesting items
  | .object entries => Value.entriesNesting entries
  | _ => 0

/-- The same for the items of an array, each one step deeper than the array. -/
def Value.itemsNesting : List Value → Nat
  | [] => 0
  | v :: rest => max (1 + v.nesting) (Value.itemsNesting rest)

/-- The same for the entries of an object, each one step deeper than the object. -/
def Value.entriesNesting : List (String × Value) → Nat
  | [] => 0
  | (_, v) :: rest => max (1 + v.nesting) (Value.entriesNesting rest)

end

mutual

/-- A value nests as deep as the tree that it is read from. -/
theorem Value.nesting_ofJson : ∀ json : Json, (Value.ofJson json).nesting = json.literalDepth
  | .array items => by
    rw [Value.ofJson, Value.nesting, Json.literalDepth, Value.itemsNesting_ofJson items]
  | .object members => by
    rw [Value.ofJson, Value.nesting, Json.literalDepth, Value.entriesNesting_ofJson members]
  | .null | .bool _ | .number _ | .string _ => by
    rw [Value.ofJson, Value.nesting, Json.literalDepth]
    all_goals nofun

theorem Value.itemsNesting_ofJson : ∀ items : List Json,
    Value.itemsNesting (Value.ofJsonItems items) = Json.literalItemsDepth items
  | [] => by rw [Value.ofJsonItems, Value.itemsNesting, Json.literalItemsDepth]
  | item :: rest => by
    rw [Value.ofJsonItems, Value.itemsNesting, Json.literalItemsDepth, Value.nesting_ofJson item,
      Value.itemsNesting_ofJson rest]

theorem Value.entriesNesting_ofJson : ∀ members : List (String × Json),
    Value.entriesNesting (Value.ofJsonMembers members) = Json.literalMembersDepth members
  | [] => by rw [Value.ofJsonMembers, Value.entriesNesting, Json.literalMembersDepth]
  | (_, item) :: rest => by
    rw [Value.ofJsonMembers, Value.entriesNesting, Json.literalMembersDepth,
      Value.nesting_ofJson item, Value.entriesNesting_ofJson rest]

end

/-- The literal of a clause, if it is one. -/
def Clause.literals : Clause → List Value
  | .literal v => [v]
  | .predicate _ | .operators _ => []

/-- The literals of a setting: the operand of an equality, or the items of a membership list. -/
def Setting.literals : Setting → List Value
  | .equals v | .notEquals v => [v]
  | .includesEvery vs | .includesSome vs | .includesNone vs => vs
  | _ => []

/-- The literals that a node holds itself. -/
def Node.literals : Node → List Value
  | .expression e => e.clauses.flatMap fun c => c.2.literals
  | .operators ops => ops.settings.flatMap Setting.literals

/-! ## 2. What fits within a bound -/

/-- All that nests in the node lies within the bound, and so do the literals, each one step below
the node that holds it. -/
def Node.Fits (bound : Nat) (x : Node) (depth : Nat) : Prop :=
  ∀ y below, x.Nests y below →
    depth + below ≤ bound ∧ ∀ v ∈ y.literals, depth + below + 1 + v.nesting ≤ bound

/-- The same for the expressions of an operand, which lie at the depth. -/
def Operand.Fits (bound : Nat) (operand : Operand) (depth : Nat) : Prop :=
  ∀ e ∈ operand.expressions, (Node.expression e).Fits bound depth

/-- The same for a clause, the literal or the operator set lying at the depth. -/
def Clause.Fits (bound : Nat) (clause : Clause) (depth : Nat) : Prop :=
  (∀ v ∈ clause.literals, depth + v.nesting ≤ bound) ∧
    ∀ ops, clause = .operators ops → (Node.operators ops).Fits bound depth

/-- The same for a setting, with its literals and all that it joins at the depth. -/
def Setting.Fits (bound : Nat) (s : Setting) (depth : Nat) : Prop :=
  (∀ v ∈ s.literals, depth + v.nesting ≤ bound) ∧
    (∀ ops, s = .length ops → (Node.operators ops).Fits bound depth) ∧
      ∀ e ∈ s.expressions, (Node.expression e).Fits bound depth

/-- The same for a part of an expression. -/
def Expression.Part.Fits (bound : Nat) : Expression.Part → Nat → Prop
  | .clause _ inner => inner.Fits bound
  | .operand _ joined => joined.Fits bound

/-- A node fits when it lies within the bound and what it holds fits, literals and nodes. -/
theorem Node.fits_iff {x : Node} :
    x.Fits bound depth ↔ depth ≤ bound ∧ (∀ v ∈ x.literals, depth + 1 + v.nesting ≤ bound) ∧
      ∀ held, x.Holds held → held.Fits bound (depth + 1) := by
  have hstep : ∀ below, depth + 1 + below = depth + (below + 1) := fun below => by omega
  constructor
  · intro h
    obtain ⟨hdepth, hliterals⟩ := h x 0 (.self x)
    refine ⟨hdepth, hliterals, fun held holds y below hy => ?_⟩
    rw [hstep]
    exact h y (below + 1) (.step holds hy)
  · rintro ⟨hdepth, hliterals, hheld⟩ y below hy
    cases hy with
    | self => exact ⟨hdepth, hliterals⟩
    | step holds hy =>
      rw [← hstep]
      exact hheld _ holds _ _ hy

theorem Expression.fits_iff {e : Expression} :
    (Node.expression e).Fits bound depth ↔ depth ≤ bound ∧
      (∀ c ∈ e.clauses, c.2.Fits bound (depth + 1)) ∧
        ∀ x ∈ e.combinators.expressions, (Node.expression x).Fits bound (depth + 1) := by
  rw [Node.fits_iff]
  simp only [Node.literals, List.mem_flatMap, forall_exists_index, and_imp]
  refine and_congr_right fun _ => ⟨?_, ?_⟩
  · rintro ⟨hliterals, hheld⟩
    refine ⟨fun c hc => ⟨fun v hv => hliterals v c hc hv, fun ops hops => ?_⟩,
      fun x hx => hheld _ (.operand hx)⟩
    have hmem : (c.1, Clause.operators ops) ∈ e.clauses := hops ▸ hc
    exact hheld _ (.clause hmem)
  · rintro ⟨hclauses, hjoined⟩
    refine ⟨fun v c hc hv => (hclauses c hc).1 v hv, fun held holds => ?_⟩
    cases holds with
    | clause h => exact (hclauses _ h).2 _ rfl
    | operand h => exact hjoined _ h

theorem OperatorSet.fits_iff {ops : OperatorSet} :
    (Node.operators ops).Fits bound depth ↔
      depth ≤ bound ∧ ∀ s ∈ ops.settings, s.Fits bound (depth + 1) := by
  rw [Node.fits_iff]
  simp only [Node.literals, List.mem_flatMap, forall_exists_index, and_imp]
  refine and_congr_right fun _ => ⟨?_, ?_⟩
  · rintro ⟨hliterals, hheld⟩ s hs
    refine ⟨fun v hv => hliterals v s hs hv, fun inner hinner => ?_, fun e he => ?_⟩
    · exact hheld _ (.length (OperatorSet.length_mem_settings_iff.mp (hinner ▸ hs)))
    · exact hheld _ (.operand (OperatorSet.mem_expressions_iff.mpr ⟨s, hs, he⟩))
  · intro hsettings
    refine ⟨fun v s hs hv => (hsettings s hs).1 v hv, fun held holds => ?_⟩
    cases holds with
    | length h => exact (hsettings _ (OperatorSet.length_mem_settings_iff.mpr h)).2.1 _ rfl
    | operand h =>
      obtain ⟨s, hs, he⟩ := OperatorSet.mem_expressions_iff.mp h
      exact (hsettings s hs).2.2 _ he

/-! ## 3. Parts under different keys -/

/-- Where no combinator comes twice, its operand is the one that was added. -/
theorem Expression.get?_addAll {parts : List Expression.Part}
    (h : (parts.map Expression.Part.key).Nodup) {c : Combinator} {operand : Operand} :
    (parts.foldl Expression.add .empty).combinators.get? c = some operand ↔
      .operand c operand ∈ parts := by
  induction parts using List.reverseRecOn with
  | nil => cases c <;> simp [Expression.empty, Combinators.empty, Combinators.get?]
  | append_singleton rest part ih =>
    rw [List.map_append, List.nodup_append'] at h
    obtain ⟨hrest, _, hkey⟩ := h
    rw [List.foldl_append, List.foldl_cons, List.foldl_nil, List.mem_append, List.mem_singleton,
      ← ih hrest]
    cases part with
    | clause name clause => simp [Expression.add, Expression.field]
    | operand c' operand' =>
      rw [Expression.add, Expression.combine, Combinators.get?_set]
      by_cases hc : c' = c
      · subst hc
        -- The new operand takes the place of an earlier one, and there is none.
        have hnew : Expression.Part.operand c' operand ∉ rest := fun hmem =>
          hkey (List.mem_map_of_mem hmem) (List.mem_singleton_self _)
        simp [ih hrest, hnew, eq_comm]
      · simp [hc, Ne.symm hc]

/-- An expression of parts under different keys holds what its parts hold. -/
theorem Expression.addAll_fits_iff {parts : List Expression.Part}
    (h : (parts.map Expression.Part.key).Nodup) :
    (Node.expression (parts.foldl Expression.add .empty)).Fits bound depth ↔
      depth ≤ bound ∧ ∀ part ∈ parts, part.Fits bound (depth + 1) := by
  have hclauses : (parts.foldl Expression.add .empty).clauses =
      parts.filterMap Expression.Part.clause? :=
    Expression.addAll_clauses .empty h fun _ _ => List.not_mem_nil
  rw [Expression.fits_iff, hclauses]
  simp only [List.mem_filterMap, Combinators.mem_expressions_iff, Expression.get?_addAll h]
  refine and_congr_right fun _ => ⟨?_, ?_⟩
  · rintro ⟨hfields, hjoined⟩ part hpart
    cases part with
    | clause name clause => exact hfields (name, clause) ⟨_, hpart, rfl⟩
    | operand c operand => exact fun e he => hjoined e ⟨c, operand, hpart, he⟩
  · intro hparts
    refine ⟨?_, fun e ⟨c, operand, hpart, he⟩ => hparts _ hpart e he⟩
    rintro c ⟨part, hpart, hc⟩
    cases part with
    | clause name clause => exact Option.some.inj hc ▸ hparts _ hpart
    | operand c operand => cases hc

/-- Where no slot is set twice, the settings are those that were made and not turned off. -/
theorem OperatorSet.mem_settings_setAll_iff {settings : List Setting}
    (h : (settings.map Setting.key).Nodup) {s : Setting} :
    s ∈ (settings.foldl OperatorSet.set .empty).settings ↔ s ∈ settings ∧ s.kept = some s := by
  rw [OperatorSet.mem_settings_iff, OperatorSet.get?_setAll, OperatorSet.get?_empty]
  constructor
  · intro hget
    cases hfind : settings.reverse.find? fun t => t.slot = s.slot with
    | none =>
      rw [hfind] at hget
      cases hget
    | some t =>
      rw [hfind, Option.elim_some] at hget
      obtain rfl := Setting.eq_of_kept hget
      exact ⟨List.mem_reverse.mp (List.mem_of_find?_eq_some hfind), hget⟩
  · rintro ⟨hs, hkept⟩
    cases hfind : settings.reverse.find? fun t => t.slot = s.slot with
    | none =>
      have hno := List.find?_eq_none.mp hfind s (List.mem_reverse.mpr hs)
      exact absurd (decide_eq_true rfl) hno
    | some t =>
      have ht := List.mem_reverse.mp (List.mem_of_find?_eq_some hfind)
      have hslot : t.slot = s.slot := by simpa using List.find?_some hfind
      obtain rfl : t = s := List.inj_on_of_nodup_map h ht hs (congrArg Slot.key hslot)
      exact hkept

/-- An operator set of settings of different slots holds what the settings hold. -/
theorem OperatorSet.setAll_fits_iff {settings : List Setting}
    (h : (settings.map Setting.key).Nodup) :
    (Node.operators (settings.foldl OperatorSet.set .empty)).Fits bound depth ↔
      depth ≤ bound ∧ ∀ s ∈ settings, s.Fits bound (depth + 1) := by
  rw [OperatorSet.fits_iff]
  simp only [OperatorSet.mem_settings_setAll_iff h, and_imp]
  refine and_congr_right fun _ => ⟨fun hsettings s hs => ?_, fun hall s hs _ => hall s hs⟩
  by_cases hkept : s.kept = some s
  · exact hsettings s hs hkept
  · -- What is not kept turns an operator off, and holds nothing.
    cases s with
    | caseInsensitive on => simp [Setting.Fits, Setting.literals, Setting.expressions]
    | _ => exact absurd rfl hkept

/-! ## 4. What is read fits as its tree does -/

/-- What is read from a tree fits within a bound exactly when the depth of the tree allows. -/
structure Json.CountsAlike (limit bound : Nat) (json : Json) : Prop where
  expression : ∀ {depth e}, Expression.readAt limit json depth = .ok e →
    ((Node.expression e).Fits bound depth ↔ depth + json.expressionDepth ≤ bound)
  operand : ∀ {c depth operand}, depth ≤ bound →
    Operand.readAt limit json c (depth + 1) = .ok operand →
      (operand.Fits bound (depth + 1) ↔ depth + json.operandDepth ≤ bound)
  clause : ∀ {depth clause}, Clause.readAt limit json (depth + 1) = .ok clause →
    (clause.Fits bound (depth + 1) ↔ depth + json.clauseDepth ≤ bound)
  setting : ∀ {op depth setting}, depth ≤ bound →
    Setting.readAt limit json op (depth + 1) = .ok setting →
      ((∀ s ∈ setting, s.Fits bound (depth + 1)) ↔ depth + json.settingDepth op ≤ bound)

theorem add_max_le_iff {a b : Nat} :
    depth + max a b ≤ bound ↔ depth + a ≤ bound ∧ depth + b ≤ bound := by omega

theorem Expression.Part.fits_iff {member : String × Json} {part : Expression.Part}
    (h : member.2.CountsAlike limit bound) (hd : depth ≤ bound)
    (hpart : Expression.Part.readAt limit (depth + 1) member = .ok part) :
    part.Fits bound (depth + 1) ↔ depth + (if (Combinator.ofKey? member.1).isSome
      then member.2.operandDepth else member.2.clauseDepth) ≤ bound := by
  unfold Expression.Part.readAt at hpart
  split at hpart
  next c hc =>
    obtain ⟨operand, hoperand, rfl⟩ := return_eq_ok_iff.mp hpart
    rw [hc]
    exact h.operand hd hoperand
  next hc =>
    rw [hc]
    split at hpart
    next => cases hpart
    next =>
      obtain ⟨clause, hclause, rfl⟩ := return_eq_ok_iff.mp hpart
      exact h.clause hclause

theorem Expression.parts_fit_iff {members : List (String × Json)} {parts : List Expression.Part}
    (h : ∀ m ∈ members, m.2.CountsAlike limit bound) (hd : depth ≤ bound)
    (hparts : List.Forall₂ (fun m part => Expression.Part.readAt limit (depth + 1) m = .ok part)
      members parts) :
    (∀ part ∈ parts, part.Fits bound (depth + 1)) ↔
      depth + Json.expressionMembersDepth members ≤ bound := by
  induction hparts with
  | nil => simpa [Json.expressionMembersDepth] using hd
  | cons hpart _ ih =>
    obtain ⟨hmember, hrest⟩ := List.forall_mem_cons.mp h
    rw [List.forall_mem_cons, Json.expressionMembersDepth, add_max_le_iff, ih hrest,
      Expression.Part.fits_iff hmember hd hpart]

theorem Setting.member_fits_iff {member : String × Json} {setting : Option Setting}
    (h : member.2.CountsAlike limit bound) (hd : depth ≤ bound)
    (hsetting : Setting.readMember limit (depth + 1) member = .ok setting) :
    (∀ s ∈ setting, s.Fits bound (depth + 1)) ↔ depth + (if (Combinator.ofKey? member.1).isSome
      then member.2.operandDepth
      else (Operator.ofName? member.1).elim 0 member.2.settingDepth) ≤ bound := by
  unfold Setting.readMember at hsetting
  split at hsetting
  next c hc =>
    obtain ⟨operand, hoperand, rfl⟩ := return_eq_ok_iff.mp hsetting
    rw [hc]
    simp only [Option.mem_some, Option.isSome_some, if_true]
    rw [← h.operand hd hoperand]
    simp [Setting.Fits, Setting.literals, Setting.expressions, Operand.Fits]
  next hc =>
    rw [hc]
    split at hsetting
    next => cases hsetting
    next op hop =>
      rw [hop]
      exact h.setting hd hsetting

theorem OperatorSet.settings_fit_iff {members : List (String × Json)}
    {settings : List (Option Setting)} (h : ∀ m ∈ members, m.2.CountsAlike limit bound)
    (hd : depth ≤ bound)
    (hsettings : List.Forall₂ (fun m setting =>
      Setting.readMember limit (depth + 1) m = .ok setting) members settings) :
    (∀ s ∈ settings.reduceOption, s.Fits bound (depth + 1)) ↔
      depth + Json.operatorSetMembersDepth members ≤ bound := by
  induction hsettings with
  | nil => simpa [Json.operatorSetMembersDepth] using hd
  | @cons _ setting _ _ hsetting _ ih =>
    obtain ⟨hmember, hrest⟩ := List.forall_mem_cons.mp h
    rw [Json.operatorSetMembersDepth, add_max_le_iff, ← ih hrest,
      ← Setting.member_fits_iff hmember hd hsetting]
    cases setting with
    | none => simp
    | some s => simp

theorem Value.items_fit_iff {items : List Json} {vs : List Value} (hd : depth ≤ bound)
    (h : Value.readItems limit items (depth + 1) = .ok vs) :
    (∀ v ∈ vs, depth + 1 + v.nesting ≤ bound) ↔ depth + Json.literalItemsDepth items ≤ bound := by
  rw [Value.readItems_ok_iff] at h
  induction h with
  | nil => simpa [Json.literalItemsDepth] using hd
  | cons hv _ ih =>
    rw [List.forall_mem_cons, Json.literalItemsDepth, add_max_le_iff, ih,
      (Value.readLiteral_ok_iff.mp hv).2, Value.nesting_ofJson, Nat.add_assoc]

theorem Operand.readAll_fits_iff {c : Combinator} {items : List Json} {es : List Expression}
    (hitems : ∀ item ∈ items, item.CountsAlike limit bound) (hd : depth ≤ bound)
    (h : Operand.readAll limit items c (depth + 1) = .ok es) :
    (∀ e ∈ es, (Node.expression e).Fits bound (depth + 1)) ↔
      depth + Json.operandItemsDepth items ≤ bound := by
  rw [Operand.readAll_ok_iff] at h
  induction h with
  | nil => simpa [Json.operandItemsDepth] using hd
  | cons he _ ih =>
    obtain ⟨hitem, hrest⟩ := List.forall_mem_cons.mp hitems
    rw [List.forall_mem_cons, Json.operandItemsDepth, add_max_le_iff, ih hrest,
      hitem.expression he, Nat.add_assoc]

section Objects

variable {members : List (String × Json)} (hdistinct : Entries.Distinct members)
  (h : ∀ m ∈ members, m.2.CountsAlike limit bound)

include hdistinct h

theorem Expression.readMembers_fits_iff {e : Expression}
    (he : Expression.readMembers limit members (depth + 1) .empty = .ok e) :
    (Node.expression e).Fits bound depth ↔
      depth + Json.expressionMembersDepth members ≤ bound := by
  obtain ⟨parts, hparts, rfl⟩ := Expression.readMembers_ok_iff.mp he
  have hkeys : (parts.map Expression.Part.key).Nodup := by
    rw [Expression.partKeys_eq hparts]
    exact hdistinct
  rw [Expression.addAll_fits_iff hkeys]
  constructor
  · rintro ⟨hd, hfit⟩
    exact (Expression.parts_fit_iff h hd hparts).mp hfit
  · intro hdepth
    have hd : depth ≤ bound := by omega
    exact ⟨hd, (Expression.parts_fit_iff h hd hparts).mpr hdepth⟩

theorem OperatorSet.readMembers_fits_iff {ops : OperatorSet}
    (hops : OperatorSet.readMembers limit members (depth + 1) .empty = .ok ops) :
    (Node.operators ops).Fits bound depth ↔
      depth + Json.operatorSetMembersDepth members ≤ bound := by
  obtain ⟨settings, hsettings, rfl⟩ := OperatorSet.readMembers_ok_iff.mp hops
  have hkeys : (settings.reduceOption.map Setting.key).Nodup :=
    (OperatorSet.settingKeys_sublist hsettings).nodup hdistinct
  rw [OperatorSet.setAll_fits_iff hkeys]
  constructor
  · rintro ⟨hd, hfit⟩
    exact (OperatorSet.settings_fit_iff h hd hsettings).mp hfit
  · intro hdepth
    have hd : depth ≤ bound := by omega
    exact ⟨hd, (OperatorSet.settings_fit_iff h hd hsettings).mpr hdepth⟩

end Objects

/-- A setting holds the literals of an equality or a membership list, or the set of a length. -/
theorem Setting.readAt_fits_iff {json : Json} {op : Operator} {setting : Option Setting}
    (hd : depth ≤ bound)
    (hlength : ∀ {members}, json = .object members → ∀ {depth ops},
      OperatorSet.readMembers limit members (depth + 1) .empty = .ok ops →
        ((Node.operators ops).Fits bound depth ↔
          depth + Json.operatorSetMembersDepth members ≤ bound))
    (h : Setting.readAt limit json op (depth + 1) = .ok setting) :
    (∀ s ∈ setting, s.Fits bound (depth + 1)) ↔ depth + json.settingDepth op ≤ bound := by
  cases Setting.readAt_ok_iff.mp h with
  | equals hv | notEquals hv =>
    rw [Json.settingDepth, (Value.readLiteral_ok_iff.mp hv).2]
    simp [Setting.Fits, Setting.literals, Setting.expressions, Value.nesting_ofJson, Nat.add_assoc]
  | includesEvery hvs | includesSome hvs | includesNone hvs =>
    rw [Json.settingDepth, ← Value.items_fit_iff hd hvs]
    simp [Setting.Fits, Setting.literals, Setting.expressions]
  | length _ hops =>
    rw [Json.settingDepth, ← Nat.add_assoc, ← hlength rfl hops]
    simp [Setting.Fits, Setting.literals, Setting.expressions]
  | unset hequals hnotEquals => cases op <;> simp_all [Json.settingDepth]
  | _ => simp [Setting.Fits, Setting.literals, Setting.expressions, Json.settingDepth, hd]

/-- **An object counts alike**, if its members do and no key comes twice. -/
theorem Json.countsAlike_object {members : List (String × Json)}
    (hdistinct : Entries.Distinct members) (h : ∀ m ∈ members, m.2.CountsAlike limit bound) :
    (Json.object members).CountsAlike limit bound := by
  have hexpression : ∀ {depth e}, Expression.readAt limit (.object members) depth = .ok e →
      ((Node.expression e).Fits bound depth ↔
        depth + (Json.object members).expressionDepth ≤ bound) := by
    intro depth e he
    rw [Json.expressionDepth]
    exact Expression.readMembers_fits_iff hdistinct h (Expression.readAt_object_ok_iff.mp he).2
  have hset : ∀ {depth ops}, OperatorSet.readMembers limit members (depth + 1) .empty = .ok ops →
      ((Node.operators ops).Fits bound depth ↔
        depth + Json.operatorSetMembersDepth members ≤ bound) :=
    fun hops => OperatorSet.readMembers_fits_iff hdistinct h hops
  refine ⟨hexpression, ?_, ?_, ?_⟩
  · intro c depth operand hd hoperand
    rw [Operand.readAt_object] at hoperand
    obtain ⟨e, he, rfl⟩ := return_eq_ok_iff.mp hoperand
    have hfits := hexpression he
    rw [Json.expressionDepth, Nat.add_assoc] at hfits
    rw [Json.operandDepth, ← hfits]
    simp [Operand.Fits, Operand.expressions]
  · intro depth clause hclause
    obtain ⟨_, ops, hops, rfl⟩ := Clause.readAt_object_ok_iff.mp hclause
    rw [Json.clauseDepth, ← Nat.add_assoc, ← hset hops]
    simp [Clause.Fits, Clause.literals]
  · intro op depth setting hd hsetting
    exact Setting.readAt_fits_iff hd (fun hjson => Json.object.inj hjson ▸ hset) hsetting

/-- **All other trees count alike**, if they are no arrays or their items do. -/
theorem Json.countsAlike_other {json : Json} (hobject : json.kind ≠ .object)
    (hitems : ∀ items, json = .array items → ∀ item ∈ items, item.CountsAlike limit bound) :
    json.CountsAlike limit bound := by
  refine ⟨?_, ?_, ?_, ?_⟩
  · intro depth e he
    exact absurd (isOk_iff.mpr ⟨e, he⟩) (Expression.readAt_other hobject depth)
  · intro c depth operand hd hoperand
    cases json with
    | array items =>
      rw [Operand.readAt] at hoperand
      obtain ⟨es, hes, rfl⟩ := return_eq_ok_iff.mp hoperand
      rw [Json.operandDepth]
      exact Operand.readAll_fits_iff (hitems items rfl) hd hes
    | null | bool | number | string => simp [Operand.readAt] at hoperand
    | object members => exact absurd rfl hobject
  · intro depth clause hclause
    rw [Clause.readAt_other hobject] at hclause
    obtain ⟨v, hv, rfl⟩ := return_eq_ok_iff.mp hclause
    rw [Json.clauseDepth_other hobject, (Value.readLiteral_ok_iff.mp hv).2]
    simp [Clause.Fits, Clause.literals, Value.nesting_ofJson, Nat.add_assoc]
  · intro op depth setting hd hsetting
    refine Setting.readAt_fits_iff hd ?_ hsetting
    rintro _ rfl
    exact absurd rfl hobject

/-- **Trees without repeated keys count alike.** -/
theorem Json.countsAlike (json : Json) (hwf : json.WellFormed) : json.CountsAlike limit bound := by
  induction json using Json.documentInduction with
  | object ih =>
    obtain ⟨hdistinct, hmembers⟩ := Json.wellFormed_object_iff.mp hwf
    exact Json.countsAlike_object hdistinct fun m hm => ih m hm (hmembers m hm)
  | other hobject ih =>
    refine Json.countsAlike_other hobject ?_
    rintro items rfl item hm
    exact ih items rfl item hm (Json.wellFormed_array_iff.mp hwf item hm)

/-! ## 5. Documents -/

/-- What is read is valid under another limit when it does not nest too deep: its names are free. -/
theorem Expression.validate_ok_iff_of_read {json : Json} {limits : Limits} {e : Expression}
    (h : (Expression.ofJson json limits).result = .ok e) (limit : Nat) :
    (e.validate ⟨limit⟩).result = .ok () ↔
      ∀ x depth, (Node.expression e).Nests x depth → depth ≤ limit := by
  have hvalid := (Expression.ofJson_neverFails json limits e h).1
  rw [(Expression.validate_ends e limits).1] at hvalid
  rw [(Expression.validate_ends e ⟨limit⟩).1]
  have hnames := Node.validateAt_ok_iff (x := .expression e).mp hvalid
  refine (Node.validateAt_ok_iff (x := .expression e)).trans ?_
  simp only [Nat.zero_add]
  exact ⟨fun hall x depth hx => (hall x depth hx).1,
    fun hall x depth hx => ⟨hall x depth hx, (hnames x depth hx).2⟩⟩

/-- **Reading counts what validation counts, and literals.**  Where a document was read, it is read
again under another limit exactly when its expression passes under that limit and every literal in
it, one step below the node that holds it, lies within the limit.  If the literals are scalars,
those of the nodes at the limit are too deep and no others. -/
theorem Expression.ofJson_ok_iff_validate {json : Json} (hwf : json.WellFormed) {limits : Limits}
    {e : Expression} (h : (Expression.ofJson json limits).result = .ok e) (limit : Nat) :
    ((∃ e', (Expression.ofJson json ⟨limit⟩).result = .ok e') ↔
      (e.validate ⟨limit⟩).result = .ok () ∧
        ∀ x depth, (Node.expression e).Nests x depth →
          ∀ v ∈ x.literals, depth + 1 + v.nesting ≤ limit) ∧
    ((∀ x depth, (Node.expression e).Nests x depth → ∀ v ∈ x.literals, v.nesting = 0) →
      ((∃ e', (Expression.ofJson json ⟨limit⟩).result = .ok e') ↔
        (e.validate ⟨limit⟩).result = .ok () ∧
          ∀ x, (Node.expression e).Nests x limit → x.literals = [])) := by
  have hexpression : json.IsExpression := ((Expression.ofJson_ok_iff json limits).mp ⟨e, h⟩).1
  have hvalidate := Expression.validate_ok_iff_of_read h limit
  have hfits : (Node.expression e).Fits limit 0 ↔ 0 + json.expressionDepth ≤ limit := by
    rw [Expression.ofJson_result] at h
    exact (Json.countsAlike json hwf).expression h
  have hread : (∃ e', (Expression.ofJson json ⟨limit⟩).result = .ok e') ↔
      (e.validate ⟨limit⟩).result = .ok () ∧
        ∀ x depth, (Node.expression e).Nests x depth →
          ∀ v ∈ x.literals, depth + 1 + v.nesting ≤ limit := by
    rw [Expression.ofJson_ok_iff, hvalidate, and_iff_right hexpression,
      ← Nat.zero_add json.expressionDepth, ← hfits]
    simp only [Node.Fits, Nat.zero_add, ← forall_and]
  refine ⟨hread, fun hscalars => hread.trans (and_congr_right fun hvalid => ⟨?_, ?_⟩)⟩
  · intro hliterals x hx
    refine List.eq_nil_iff_forall_not_mem.mpr fun v hv => ?_
    have hdeep := hliterals x limit hx v hv
    omega
  · intro hnone x depth hx v hv
    have hdepth := hvalidate.mp hvalid x depth hx
    have hne : depth ≠ limit := by
      rintro rfl
      exact List.not_mem_nil (hnone x hx ▸ hv)
    rw [hscalars x depth hx v hv]
    omega

/-- A membership list with one item, an array of a text. -/
def Json.nestedTag : Json :=
  .object [("tags", .object [("includesSome", .array [.array [.string "a"]])])]

/-- The operator set lies at 1, the item at 2 and the text in it at 3. -/
theorem Expression.nestedTag_ok_iff_validate :
    ∃ e, (Expression.ofJson Json.nestedTag {}).result = .ok e ∧
      (e.validate ⟨1⟩).result = .ok () ∧
      (∃ error, (Expression.ofJson Json.nestedTag ⟨2⟩).result = .error error) ∧
      ∀ x depth, (Node.expression e).Nests x depth →
        ∀ v ∈ x.literals, depth + 1 + v.nesting ≤ 3 := by
  have hwf : Json.nestedTag.WellFormed := by
    simp [Json.nestedTag, Json.WellFormed, Json.membersWellFormed, Json.itemsWellFormed,
      Entries.Distinct, Entries.names]
  refine ⟨_, rfl, rfl, ⟨_, rfl⟩, ?_⟩
  have hread : ∀ {e}, (Expression.ofJson Json.nestedTag {}).result = .ok e →
      ∀ x depth, (Node.expression e).Nests x depth → ∀ v ∈ x.literals, depth + 1 + v.nesting ≤ 3 :=
    fun h => ((Expression.ofJson_ok_iff_validate hwf h 3).1.mp ⟨_, rfl⟩).2
  exact hread rfl

/-- A field must equal a number.  Under a limit of 0 the expression passes, and the document is
refused for depth. -/
theorem Expression.oneNumber_validate_disagrees :
    let json : Json := .object [("a", .number (.integer ⟨1, by decide, by decide⟩))]
    ∃ n e, (Expression.ofJson json {}).result = .ok e ∧
      e.clauses = [("a", .literal (.number n))] ∧ e.combinators = .empty ∧
      (e.validate ⟨0⟩).result = .ok () ∧
      (Expression.ofJson json ⟨0⟩).result = .error (.depthExceeded 0) :=
  ⟨_, _, rfl, rfl, rfl, rfl, rfl⟩

end RecordFilter
