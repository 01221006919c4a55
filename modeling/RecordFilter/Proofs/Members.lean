/-
# Documents member by member

The members of a document are read in order, and each is added to what has been read.  The two can
be taken apart: a document is read when every member is, and what it stands for is put together
from the parts afterwards (`Expression.readMembers_ok_iff`, `OperatorSet.readMembers_ok_iff`).

An expression that is put together does not depend on the order of the parts where their keys
differ, except that its clauses stand in the order of their parts (`Expression.addAll_perm`); for
operator sets see `OperatorSet.setAll_perm`.  And what is put together has the same verdicts if the
parts have (`Expression.addAll_corresponds`, `OperatorSet.setAll_corresponds`).
-/
import Mathlib.Data.List.Nodup
import Mathlib.Data.List.ReduceOption
import RecordFilter.Proofs.Acceptance
import RecordFilter.Proofs.Settings
import RecordFilter.Proofs.Verdicts

namespace RecordFilter

variable {limit depth : Nat}

/-! ## 1. What an operator takes -/

/-- What is read of an operator: the operand of its shape, or nothing from `null`. -/
inductive Setting.Reads (limit depth : Nat) : Operator → Json → Option Setting → Prop
  | equals {json : Json} {v : Value} (h : Value.readLiteral limit json depth = .ok v) :
      Setting.Reads limit depth .equals json (some (.equals v))
  | notEquals {json : Json} {v : Value} (h : Value.readLiteral limit json depth = .ok v) :
      Setting.Reads limit depth .notEquals json (some (.notEquals v))
  | unset {op : Operator} (h : op ≠ .equals) (h' : op ≠ .notEquals) :
      Setting.Reads limit depth op .null none
  | includes (s : String) : Setting.Reads limit depth .includes (.string s) (some (.includes s))
  | startsWith (s : String) :
      Setting.Reads limit depth .startsWith (.string s) (some (.startsWith s))
  | endsWith (s : String) : Setting.Reads limit depth .endsWith (.string s) (some (.endsWith s))
  | caseInsensitive (b : Bool) :
      Setting.Reads limit depth .caseInsensitive (.bool b) (some (.caseInsensitive b))
  | matchesPattern {s : String} {p : Pattern} (h : Pattern.compile? s = some p) :
      Setting.Reads limit depth .matchesPattern (.string s) (some (.matchesPattern p))
  | greaterThan (n : Numeral) : Setting.Reads limit depth .greaterThan (.number n)
      (some (.greaterThan (.number (.ofNumeral n))))
  | greaterThanOrEqual (n : Numeral) : Setting.Reads limit depth .greaterThanOrEqual (.number n)
      (some (.greaterThanOrEqual (.number (.ofNumeral n))))
  | lessThan (n : Numeral) : Setting.Reads limit depth .lessThan (.number n)
      (some (.lessThan (.number (.ofNumeral n))))
  | lessThanOrEqual (n : Numeral) : Setting.Reads limit depth .lessThanOrEqual (.number n)
      (some (.lessThanOrEqual (.number (.ofNumeral n))))
  | includesEvery {items : List Json} {vs : List Value}
      (h : Value.readItems limit items depth = .ok vs) :
      Setting.Reads limit depth .includesEvery (.array items) (some (.includesEvery vs))
  | includesSome {items : List Json} {vs : List Value}
      (h : Value.readItems limit items depth = .ok vs) :
      Setting.Reads limit depth .includesSome (.array items) (some (.includesSome vs))
  | includesNone {items : List Json} {vs : List Value}
      (h : Value.readItems limit items depth = .ok vs) :
      Setting.Reads limit depth .includesNone (.array items) (some (.includesNone vs))
  | length {members : List (String × Json)} {ops : OperatorSet} (hd : depth ≤ limit)
      (h : OperatorSet.readMembers limit members (depth + 1) .empty = .ok ops) :
      Setting.Reads limit depth .length (.object members) (some (.length ops))

theorem Setting.Reads.literal_of_equals {json : Json} {setting : Option Setting}
    (h : Setting.Reads limit depth .equals json setting) :
    ∃ v, Value.readLiteral limit json depth = .ok v ∧ setting = some (.equals v) := by
  cases h with
  | equals h => exact ⟨_, h, rfl⟩
  | unset h => exact absurd rfl h

theorem Setting.Reads.literal_of_notEquals {json : Json} {setting : Option Setting}
    (h : Setting.Reads limit depth .notEquals json setting) :
    ∃ v, Value.readLiteral limit json depth = .ok v ∧ setting = some (.notEquals v) := by
  cases h with
  | notEquals h => exact ⟨_, h, rfl⟩
  | unset _ h => exact absurd rfl h

theorem Operator.readString_ok_iff {op : Operator} {json : Json} {s : String} :
    op.readString json = .ok s ↔ json = .string s := by
  cases json <;> simp [Operator.readString]

theorem Operator.readBool_ok_iff {op : Operator} {json : Json} {b : Bool} :
    op.readBool json = .ok b ↔ json = .bool b := by
  cases json <;> simp [Operator.readBool]

theorem Operator.readBound_ok_iff {op : Operator} {json : Json} {bound : Numeric} :
    op.readBound json = .ok bound ↔ ∃ n, json = .number n ∧ bound = .number (.ofNumeral n) := by
  cases json <;> simp [Operator.readBound, eq_comm]

theorem Operator.readList_ok_iff {op : Operator} {json : Json} {vs : List Value} :
    op.readList limit json depth = .ok vs ↔
      ∃ items, json = .array items ∧ Value.readItems limit items depth = .ok vs := by
  cases json <;> simp [Operator.readList]

theorem Operator.readPattern_ok_iff {op : Operator} {json : Json} {p : Pattern} :
    op.readPattern json = .ok p ↔ ∃ s, json = .string s ∧ Pattern.compile? s = some p := by
  rw [Operator.readPattern, bind_eq_ok_iff]
  simp only [Operator.readString_ok_iff]
  refine exists_congr fun s => and_congr_right fun _ => ?_
  cases Pattern.compile? s <;> simp

/-- **An operator is read by its shape.** -/
theorem Setting.readAt_ok_iff {json : Json} {op : Operator} {setting : Option Setting} :
    Setting.readAt limit json op depth = .ok setting ↔
      Setting.Reads limit depth op json setting := by
  constructor
  · intro h
    -- The equalities compare with `null`; for every other operator it leaves nothing set.
    by_cases hequality : op = .equals ∨ op = .notEquals
    · rcases hequality with rfl | rfl
      all_goals
        rw [Setting.readAt] at h
        obtain ⟨v, hv, rfl⟩ := return_eq_ok_iff.mp h
        constructor
        exact hv
    obtain ⟨hequals, hnotEquals⟩ := not_or.mp hequality
    by_cases hnull : json = .null
    · subst hnull
      have hnone : Setting.readAt limit .null op depth = .ok none := by
        cases op <;> first | rfl | contradiction
      obtain rfl := Except.ok.inj (hnone.symm.trans h)
      exact .unset hequals hnotEquals
    cases op with
    | equals => exact absurd rfl hequals
    | notEquals => exact absurd rfl hnotEquals
    | includes | startsWith | endsWith =>
      simp only [Setting.readAt, return_eq_ok_iff] at h
      obtain ⟨s, hs, rfl⟩ := h
      obtain rfl := Operator.readString_ok_iff.mp hs
      constructor
    | caseInsensitive =>
      simp only [Setting.readAt, return_eq_ok_iff] at h
      obtain ⟨b, hb, rfl⟩ := h
      obtain rfl := Operator.readBool_ok_iff.mp hb
      constructor
    | matchesPattern =>
      simp only [Setting.readAt, return_eq_ok_iff] at h
      obtain ⟨p, hp, rfl⟩ := h
      obtain ⟨s, rfl, hcompile⟩ := Operator.readPattern_ok_iff.mp hp
      exact .matchesPattern hcompile
    | greaterThan | greaterThanOrEqual | lessThan | lessThanOrEqual =>
      simp only [Setting.readAt, return_eq_ok_iff] at h
      obtain ⟨bound, hbound, rfl⟩ := h
      obtain ⟨n, rfl, rfl⟩ := Operator.readBound_ok_iff.mp hbound
      constructor
    | includesEvery | includesSome | includesNone =>
      simp only [Setting.readAt, return_eq_ok_iff] at h
      obtain ⟨vs, hvs, rfl⟩ := h
      obtain ⟨items, rfl, hitems⟩ := Operator.readList_ok_iff.mp hvs
      constructor
      exact hitems
    | length =>
      cases json with
      | object members =>
        rw [Setting.readAt] at h
        obtain ⟨⟨⟩, hd, h⟩ := bind_eq_ok_iff.mp h
        obtain ⟨ops, hops, rfl⟩ := return_eq_ok_iff.mp h
        exact .length (checkDepth_ok_iff.mp hd) hops
      | null => exact absurd rfl hnull
      | bool | number | string | array => simp [Setting.readAt] at h
  · intro h
    cases h with
    | equals h | notEquals h =>
      rw [Setting.readAt]
      exact return_eq_ok_iff.mpr ⟨_, h, rfl⟩
    | unset h h' =>
      cases op with
      | equals => exact absurd rfl h
      | notEquals => exact absurd rfl h'
      | _ => rfl
    | matchesPattern h =>
      exact return_eq_ok_iff.mpr ⟨_, Operator.readPattern_ok_iff.mpr ⟨_, rfl, h⟩, rfl⟩
    | includesEvery h | includesSome h | includesNone h =>
      exact return_eq_ok_iff.mpr ⟨_, h, rfl⟩
    | length hd h =>
      exact bind_eq_ok_iff.mpr ⟨(), checkDepth_ok_iff.mpr hd, return_eq_ok_iff.mpr ⟨_, h, rfl⟩⟩
    | _ => rfl

/-! ## 2. Reading the parts -/

/-- A member of an expression as it is read. -/
inductive Expression.Part where
  | clause (name : String) (clause : Clause)
  | operand (c : Combinator) (operand : Operand)

/-- The key that a part stands under. -/
def Expression.Part.key : Expression.Part → String
  | .clause name _ => name
  | .operand c _ => c.key

/-- Adds a part to an expression. -/
def Expression.add (e : Expression) : Expression.Part → Expression
  | .clause name clause => e.field name clause
  | .operand c operand => e.combine c operand

/-- The part that a member of an expression stands for, its contents at a depth. -/
def Expression.Part.readAt (limit : Nat) (depth : Nat) (member : String × Json) :
    Except Error Expression.Part :=
  match Combinator.ofKey? member.1 with
  | some c => do return .operand c (← Operand.readAt limit member.2 c depth)
  | none =>
    if isReserved member.1 then .error (.reservedFieldName member.1)
    else do return .clause member.1 (← Clause.readAt limit member.2 depth)

/-- What a member of an operator set sets, if anything, its contents at a depth. -/
def Setting.readMember (limit : Nat) (depth : Nat) (member : String × Json) :
    Except Error (Option Setting) :=
  match Combinator.ofKey? member.1 with
  | some c => do return some (.combine c (← Operand.readAt limit member.2 c depth))
  | none =>
    match Operator.ofName? member.1 with
    | none => .error (.unknownOperator member.1)
    | some op => Setting.readAt limit member.2 op depth

theorem Expression.readMembers_cons (member : String × Json) (rest : List (String × Json))
    (read : Expression) :
    Expression.readMembers limit (member :: rest) depth read =
      (do
        let part ← Expression.Part.readAt limit depth member
        Expression.readMembers limit rest depth (read.add part)) := by
  obtain ⟨key, json⟩ := member
  rw [Expression.readMembers, Expression.Part.readAt]
  cases hkey : Combinator.ofKey? key with
  | some c =>
    dsimp only
    cases Operand.readAt limit json c depth <;> rfl
  | none =>
    dsimp only
    cases isReserved key with
    | true => rfl
    | false => cases Clause.readAt limit json depth <;> rfl

/-- **An expression is read part by part.** -/
theorem Expression.readMembers_ok_iff : ∀ {members : List (String × Json)} {read e : Expression},
    Expression.readMembers limit members depth read = .ok e ↔
      ∃ parts, List.Forall₂ (fun m part => Expression.Part.readAt limit depth m = .ok part)
        members parts ∧ parts.foldl Expression.add read = e
  | [], read, e => by
    rw [Expression.readMembers]
    simp
  | member :: rest, read, e => by
    rw [Expression.readMembers_cons, bind_eq_ok_iff]
    simp only [List.forall₂_cons_left_iff, Expression.readMembers_ok_iff]
    constructor
    · rintro ⟨part, hpart, parts, hparts, rfl⟩
      exact ⟨part :: parts, ⟨part, parts, hpart, hparts, rfl⟩, rfl⟩
    · rintro ⟨_, ⟨part, parts, hpart, hparts, rfl⟩, rfl⟩
      exact ⟨part, hpart, parts, hparts, rfl⟩

theorem OperatorSet.readMembers_cons (member : String × Json) (rest : List (String × Json))
    (read : OperatorSet) :
    OperatorSet.readMembers limit (member :: rest) depth read =
      (do
        let setting ← Setting.readMember limit depth member
        OperatorSet.readMembers limit rest depth (setting.elim read read.set)) := by
  obtain ⟨key, json⟩ := member
  rw [OperatorSet.readMembers, Setting.readMember]
  cases hkey : Combinator.ofKey? key with
  | some c =>
    dsimp only
    cases Operand.readAt limit json c depth <;> rfl
  | none =>
    dsimp only
    cases Operator.ofName? key <;> rfl

/-- **An operator set is read setting by setting**; a member may leave its operator unset. -/
theorem OperatorSet.readMembers_ok_iff : ∀ {members : List (String × Json)}
    {read ops : OperatorSet}, OperatorSet.readMembers limit members depth read = .ok ops ↔
      ∃ settings, List.Forall₂ (fun m setting => Setting.readMember limit depth m = .ok setting)
        members settings ∧ settings.reduceOption.foldl OperatorSet.set read = ops
  | [], read, ops => by
    rw [OperatorSet.readMembers]
    simp
  | member :: rest, read, ops => by
    rw [OperatorSet.readMembers_cons, bind_eq_ok_iff]
    simp only [List.forall₂_cons_left_iff, OperatorSet.readMembers_ok_iff]
    constructor
    · rintro ⟨setting, hsetting, settings, hsettings, rfl⟩
      refine ⟨setting :: settings, ⟨setting, settings, hsetting, hsettings, rfl⟩, ?_⟩
      cases setting <;> rfl
    · rintro ⟨_, ⟨setting, settings, hsetting, hsettings, rfl⟩, rfl⟩
      refine ⟨setting, hsetting, settings, hsettings, ?_⟩
      cases setting <;> rfl

theorem Expression.readAt_object_ok_iff {members : List (String × Json)} {e : Expression} :
    Expression.readAt limit (.object members) depth = .ok e ↔
      depth ≤ limit ∧ Expression.readMembers limit members (depth + 1) .empty = .ok e := by
  rw [Expression.readAt, checkDepth_then_ok_iff]

theorem Clause.readAt_object_ok_iff {members : List (String × Json)} {clause : Clause} :
    Clause.readAt limit (.object members) depth = .ok clause ↔
      depth ≤ limit ∧ ∃ ops, OperatorSet.readMembers limit members (depth + 1) .empty = .ok ops ∧
        Clause.operators ops = clause := by
  rw [Clause.readAt, checkDepth_then_ok_iff, return_eq_ok_iff]

/-- A list of expressions is read one by one. -/
theorem Operand.readAll_ok_iff {c : Combinator} : ∀ {items : List Json} {es : List Expression},
    Operand.readAll limit items c depth = .ok es ↔
      List.Forall₂ (fun item e => Expression.readAt limit item depth = .ok e) items es
  | [], es => by
    rw [Operand.readAll]
    simp [eq_comm]
  | item :: rest, es => by
    rw [List.forall₂_cons_left_iff]
    by_cases hk : item.kind = .object
    · obtain ⟨members, rfl⟩ := Json.exists_of_kind_object hk
      rw [Operand.readAll_object, bind_eq_ok_iff]
      constructor
      · rintro ⟨e, he, h⟩
        obtain ⟨others, hothers, rfl⟩ := return_eq_ok_iff.mp h
        exact ⟨e, others, he, Operand.readAll_ok_iff.mp hothers, rfl⟩
      · rintro ⟨e, others, he, hothers, rfl⟩
        exact ⟨e, he, return_eq_ok_iff.mpr ⟨others, Operand.readAll_ok_iff.mpr hothers, rfl⟩⟩
    · rw [Operand.readAll_other hk]
      constructor
      · intro h
        cases h
      · rintro ⟨e, others, he, _⟩
        exact absurd (isOk_iff.mpr ⟨e, he⟩) (Expression.readAt_other hk depth)

theorem Expression.Part.readAt_combinator (c : Combinator) {json : Json}
    {part : Expression.Part} :
    Expression.Part.readAt limit depth (c.key, json) = .ok part ↔
      ∃ operand, Operand.readAt limit json c depth = .ok operand ∧ .operand c operand = part := by
  simp only [Expression.Part.readAt, Combinator.ofKey?_key, return_eq_ok_iff]

theorem Expression.Part.readAt_field {name : String} (hfree : isReserved name = false)
    {json : Json} {part : Expression.Part} :
    Expression.Part.readAt limit depth (name, json) = .ok part ↔
      ∃ clause, Clause.readAt limit json depth = .ok clause ∧ .clause name clause = part := by
  simp only [Expression.Part.readAt, Combinator.ofKey?_eq_none_of_free hfree, hfree,
    Bool.false_eq_true, if_false, return_eq_ok_iff]

theorem Setting.readMember_operator (op : Operator) {json : Json}
    {setting : Option Setting} :
    Setting.readMember limit depth (op.name, json) = .ok setting ↔
      Setting.Reads limit depth op json setting := by
  rw [Setting.readMember, ← Setting.readAt_ok_iff]
  simp only [Combinator.ofKey?_name, Operator.ofName?_name]

theorem Setting.readMember_combinator (c : Combinator) {json : Json}
    {setting : Option Setting} :
    Setting.readMember limit depth (c.key, json) = .ok setting ↔
      ∃ operand, Operand.readAt limit json c depth = .ok operand ∧
        some (.combine c operand) = setting := by
  simp only [Setting.readMember, Combinator.ofKey?_key, return_eq_ok_iff]

theorem Expression.Part.readAt_key {member : String × Json} {part : Expression.Part}
    (h : Expression.Part.readAt limit depth member = .ok part) : part.key = member.1 := by
  unfold Expression.Part.readAt at h
  split at h
  next c hc =>
    obtain ⟨operand, _, rfl⟩ := return_eq_ok_iff.mp h
    exact (Combinator.ofKey?_eq_some_iff.mp hc).symm
  next =>
    split at h
    next => cases h
    next =>
      obtain ⟨clause, _, rfl⟩ := return_eq_ok_iff.mp h
      rfl

theorem Setting.readAt_key {json : Json} {op : Operator} {setting : Setting}
    (h : Setting.readAt limit json op depth = .ok (some setting)) : setting.key = op.name := by
  cases Setting.readAt_ok_iff.mp h <;> rfl

theorem Setting.readMember_key {member : String × Json} {setting : Setting}
    (h : Setting.readMember limit depth member = .ok (some setting)) :
    setting.key = member.1 := by
  unfold Setting.readMember at h
  split at h
  next c hc =>
    obtain ⟨operand, _, hsetting⟩ := return_eq_ok_iff.mp h
    obtain rfl := Option.some.inj hsetting
    exact (Combinator.ofKey?_eq_some_iff.mp hc).symm
  next =>
    split at h
    next => cases h
    next op hop => exact (Setting.readAt_key h).trans (Operator.ofName?_eq_some_iff.mp hop).symm

theorem Expression.partKeys_eq {members : List (String × Json)} {parts : List Expression.Part}
    (h : List.Forall₂ (fun m part => Expression.Part.readAt limit depth m = .ok part)
      members parts) : parts.map Expression.Part.key = Entries.names members := by
  induction h with
  | nil => rfl
  | cons hpart _ ih =>
    rw [List.map_cons, ih, Expression.Part.readAt_key hpart]
    rfl

theorem OperatorSet.settingKeys_sublist {members : List (String × Json)}
    {settings : List (Option Setting)}
    (h : List.Forall₂ (fun m setting => Setting.readMember limit depth m = .ok setting)
      members settings) :
    (settings.reduceOption.map Setting.key).Sublist (Entries.names members) := by
  induction h with
  | nil => exact .slnil
  | @cons m setting _ _ hsetting _ ih =>
    cases setting with
    | none => exact ih.cons m.1
    | some setting =>
      rw [List.reduceOption_cons_of_some, List.map_cons, Setting.readMember_key hsetting]
      exact ih.cons_cons m.1

/-! ## 3. The order of the parts -/

theorem Entries.put_of_notMem {α : Type} {entries : Entries α} {key : String}
    (h : key ∉ Entries.names entries) (a : α) :
    Entries.put entries key a = entries ++ [(key, a)] := by
  induction entries with
  | nil => rfl
  | cons e rest ih =>
    obtain ⟨k, b⟩ := e
    obtain ⟨hk, hrest⟩ := not_or.mp (mt List.mem_cons.mpr h)
    rw [Entries.put, if_neg (Ne.symm hk), ih hrest, List.cons_append]

theorem Combinators.set_comm (cs : Combinators) {c c' : Combinator} (h : c ≠ c')
    (operand operand' : Operand) :
    (cs.set c operand).set c' operand' = (cs.set c' operand').set c operand := by
  cases c <;> cases c' <;> first | rfl | exact absurd rfl h

/-- The clause that a part is. -/
def Expression.Part.clause? : Expression.Part → Option (String × Clause)
  | .clause name inner => some (name, inner)
  | .operand _ _ => none

/-- Adds a part to combinators, where a clause changes nothing. -/
def Combinators.add (cs : Combinators) : Expression.Part → Combinators
  | .clause _ _ => cs
  | .operand c operand => cs.set c operand

theorem Expression.addAll_combinators (parts : List Expression.Part) (e : Expression) :
    (parts.foldl Expression.add e).combinators = parts.foldl Combinators.add e.combinators := by
  induction parts generalizing e with
  | nil => rfl
  | cons part rest ih => cases part <;> exact ih _

/-- Clauses under new names stand in the order in which they are added. -/
theorem Expression.addAll_clauses {parts : List Expression.Part} (e : Expression)
    (h : (parts.map Expression.Part.key).Nodup)
    (hnew : ∀ part ∈ parts, part.key ∉ Entries.names e.clauses) :
    (parts.foldl Expression.add e).clauses =
      e.clauses ++ parts.filterMap Expression.Part.clause? := by
  induction parts generalizing e with
  | nil => exact (List.append_nil _).symm
  | cons part rest ih =>
    obtain ⟨hkey, hrest⟩ := List.nodup_cons.mp h
    have hold : ∀ p ∈ rest, p.key ∉ Entries.names e.clauses :=
      fun p hp => hnew p (List.mem_cons_of_mem _ hp)
    rw [List.foldl_cons]
    cases part with
    | operand c operand => exact ih (e.combine c operand) hrest hold
    | clause name clause =>
      have hfield : (e.field name clause).clauses = e.clauses ++ [(name, clause)] :=
        Entries.put_of_notMem (hnew _ List.mem_cons_self) clause
      have hnames : ∀ p ∈ rest, p.key ∉ Entries.names (e.field name clause).clauses := by
        intro p hp hmem
        rw [hfield, Entries.names, List.map_append, List.mem_append] at hmem
        rcases hmem with hmem | hmem
        · exact hold p hp hmem
        · have hname : p.key = name := List.mem_singleton.mp hmem
          exact hkey (List.mem_map.mpr ⟨p, hp, hname⟩)
      have hrestClauses := ih (e.field name clause) hrest hnames
      rw [hfield, List.append_assoc] at hrestClauses
      exact hrestClauses

/-- **The order of the parts is that of the clauses, and no more.** -/
theorem Expression.addAll_perm {parts parts' : List Expression.Part}
    (h : (parts.map Expression.Part.key).Nodup) (p : parts.Perm parts') :
    (parts.foldl Expression.add .empty).clauses.Perm
        (parts'.foldl Expression.add .empty).clauses ∧
      (parts.foldl Expression.add .empty).combinators =
        (parts'.foldl Expression.add .empty).combinators := by
  have h' : (parts'.map Expression.Part.key).Nodup := (p.map _).nodup_iff.mp h
  constructor
  · have hnew : ∀ ps : List Expression.Part,
        ∀ part ∈ ps, part.key ∉ Entries.names Expression.empty.clauses :=
      fun _ _ _ => List.not_mem_nil
    rw [Expression.addAll_clauses _ h (hnew _), Expression.addAll_clauses _ h' (hnew _)]
    exact (p.filterMap _).append_left _
  · rw [Expression.addAll_combinators, Expression.addAll_combinators]
    refine p.foldl_eq' (fun part hp part' hp' cs => ?_) _
    by_cases heq : part = part'
    · rw [heq]
    · have hkey : part.key ≠ part'.key := fun hkey =>
        heq (List.inj_on_of_nodup_map h hp hp' hkey)
      cases part with
      | clause _ _ => rfl
      | operand c operand =>
        cases part' with
        | clause _ _ => rfl
        | operand c' operand' =>
          exact Combinators.set_comm cs (fun e => hkey (congrArg Combinator.key e)) _ _

/-! ## 4. The verdicts of the parts -/

variable {N : Number → Number → Prop}

/-- Two parts of one kind and key, with the same verdicts. -/
inductive Expression.Part.SameVerdict (N : Number → Number → Prop) :
    Expression.Part → Expression.Part → Prop
  | clause (name : String) {clause clause' : Clause} (h : clause.SameVerdict N clause') :
      Expression.Part.SameVerdict N (.clause name clause) (.clause name clause')
  | operand (c : Combinator) {operand operand' : Operand} (h : operand.SameVerdict N operand') :
      Expression.Part.SameVerdict N (.operand c operand) (.operand c operand')

/-- Two settings of one operator or combinator, with operands that no verdict tells apart. -/
inductive Setting.Like (N : Number → Number → Prop) : Setting → Setting → Prop
  | equals {v v' : Value} (h : Value.OperandLike N v v') : Setting.Like N (.equals v) (.equals v')
  | notEquals {v v' : Value} (h : Value.OperandLike N v v') :
      Setting.Like N (.notEquals v) (.notEquals v')
  | includes (part : String) : Setting.Like N (.includes part) (.includes part)
  | startsWith (part : String) : Setting.Like N (.startsWith part) (.startsWith part)
  | endsWith (part : String) : Setting.Like N (.endsWith part) (.endsWith part)
  | caseInsensitive (on : Bool) : Setting.Like N (.caseInsensitive on) (.caseInsensitive on)
  | matchesPattern (p : Pattern) : Setting.Like N (.matchesPattern p) (.matchesPattern p)
  | greaterThan {bound bound' : Numeric} (h : Numeric.Like N bound bound') :
      Setting.Like N (.greaterThan bound) (.greaterThan bound')
  | greaterThanOrEqual {bound bound' : Numeric} (h : Numeric.Like N bound bound') :
      Setting.Like N (.greaterThanOrEqual bound) (.greaterThanOrEqual bound')
  | lessThan {bound bound' : Numeric} (h : Numeric.Like N bound bound') :
      Setting.Like N (.lessThan bound) (.lessThan bound')
  | lessThanOrEqual {bound bound' : Numeric} (h : Numeric.Like N bound bound') :
      Setting.Like N (.lessThanOrEqual bound) (.lessThanOrEqual bound')
  | includesEvery {vs vs' : List Value} (h : List.Forall₂ (Value.OperandLike N) vs vs') :
      Setting.Like N (.includesEvery vs) (.includesEvery vs')
  | includesSome {vs vs' : List Value} (h : List.Forall₂ (Value.OperandLike N) vs vs') :
      Setting.Like N (.includesSome vs) (.includesSome vs')
  | includesNone {vs vs' : List Value} (h : List.Forall₂ (Value.OperandLike N) vs vs') :
      Setting.Like N (.includesNone vs) (.includesNone vs')
  | length {ops ops' : OperatorSet} (h : ops.SameVerdict N ops') :
      Setting.Like N (.length ops) (.length ops')
  | combine (c : Combinator) {operand operand' : Operand} (h : operand.SameVerdict N operand') :
      Setting.Like N (.combine c operand) (.combine c operand')

theorem Combinators.SameVerdict.set {cs cs' : Combinators} (h : cs.SameVerdict N cs')
    (c : Combinator) {operand operand' : Operand} (hoperand : operand.SameVerdict N operand') :
    (cs.set c operand).SameVerdict N (cs'.set c operand') := by
  intro other
  rw [Combinators.get?_set, Combinators.get?_set]
  split
  next => exact .some hoperand
  next => exact h other

theorem Combinators.SameVerdict.empty : Combinators.empty.SameVerdict N .empty := by
  intro c
  cases c <;> exact .none

theorem OperatorSet.Corresponds.empty : OperatorSet.empty.Corresponds N .empty :=
  ⟨.empty, .none, .empty⟩

/-- Parts of the same order leave the clauses in the same order. -/
theorem Expression.addAll_corresponds {parts parts' : List Expression.Part}
    (h : List.Forall₂ (Expression.Part.SameVerdict N) parts parts') :
    List.Forall₂ (Entries.Under (Clause.SameVerdict N)) (parts.foldl Expression.add .empty).clauses
        (parts'.foldl Expression.add .empty).clauses ∧
      (parts.foldl Expression.add .empty).combinators.SameVerdict N
        (parts'.foldl Expression.add .empty).combinators := by
  suffices ∀ e e' : Expression,
      List.Forall₂ (Entries.Under (Clause.SameVerdict N)) e.clauses e'.clauses →
      e.combinators.SameVerdict N e'.combinators →
        List.Forall₂ (Entries.Under (Clause.SameVerdict N)) (parts.foldl Expression.add e).clauses
            (parts'.foldl Expression.add e').clauses ∧
          (parts.foldl Expression.add e).combinators.SameVerdict N
            (parts'.foldl Expression.add e').combinators from
    this .empty .empty .nil .empty
  induction h with
  | nil => exact fun _ _ hclauses hcombinators => ⟨hclauses, hcombinators⟩
  | cons hpart _ ih =>
    intro e e' hclauses hcombinators
    cases hpart with
    | clause name hclause => exact ih _ _ (Entries.put_under hclauses name hclause) hcombinators
    | operand c hoperand => exact ih _ _ hclauses (hcombinators.set c hoperand)

theorem OperatorSet.Corresponds.set {ops ops' : OperatorSet} (h : ops.Corresponds N ops')
    {s s' : Setting} (hs : s.Like N s') : (ops.set s).Corresponds N (ops'.set s') := by
  obtain ⟨hconditions, hlength, hcombinators⟩ := h
  cases hs with
  | equals h => exact ⟨{ hconditions with equals := .some h }, hlength, hcombinators⟩
  | notEquals h => exact ⟨{ hconditions with notEquals := .some h }, hlength, hcombinators⟩
  | includes _ => exact ⟨{ hconditions with includes := rfl }, hlength, hcombinators⟩
  | startsWith _ => exact ⟨{ hconditions with startsWith := rfl }, hlength, hcombinators⟩
  | endsWith _ => exact ⟨{ hconditions with endsWith := rfl }, hlength, hcombinators⟩
  | caseInsensitive _ =>
    exact ⟨{ hconditions with caseInsensitive := rfl }, hlength, hcombinators⟩
  | matchesPattern _ => exact ⟨{ hconditions with matchesPattern := rfl }, hlength, hcombinators⟩
  | greaterThan h => exact ⟨{ hconditions with greaterThan := .some h }, hlength, hcombinators⟩
  | greaterThanOrEqual h =>
    exact ⟨{ hconditions with greaterThanOrEqual := .some h }, hlength, hcombinators⟩
  | lessThan h => exact ⟨{ hconditions with lessThan := .some h }, hlength, hcombinators⟩
  | lessThanOrEqual h =>
    exact ⟨{ hconditions with lessThanOrEqual := .some h }, hlength, hcombinators⟩
  | includesEvery h =>
    exact ⟨{ hconditions with includesEvery := .some h }, hlength, hcombinators⟩
  | includesSome h => exact ⟨{ hconditions with includesSome := .some h }, hlength, hcombinators⟩
  | includesNone h => exact ⟨{ hconditions with includesNone := .some h }, hlength, hcombinators⟩
  | length h => exact ⟨hconditions, .some h, hcombinators⟩
  | combine c h => exact ⟨hconditions, hlength, hcombinators.set c h⟩

theorem OperatorSet.setAll_corresponds {settings settings' : List Setting}
    (h : List.Forall₂ (Setting.Like N) settings settings') :
    ∀ {ops ops' : OperatorSet}, ops.Corresponds N ops' →
      (settings.foldl OperatorSet.set ops).Corresponds N
        (settings'.foldl OperatorSet.set ops') := by
  induction h with
  | nil => exact fun hops => hops
  | cons hs _ ih => exact fun hops => ih (hops.set hs)

end RecordFilter
