/-
# Documents say what the builder can

Every expression that the builder makes without predicates, reserved names and values that JSON
lacks has a document (`Expression.document`).  The document is accepted, and the expression that is
read from it has the same verdicts.

It need not be the same expression.  An object would be read as an operator set, so a literal that
is an object is written as the operand of an equality; `null` would leave an operator unset, so
nothing is written for an operator that is not set; and numbers come back up to their readings.
-/
import RecordFilter.Proofs.Builder
import RecordFilter.Proofs.Members
import RecordFilter.Proofs.Writing

namespace RecordFilter

/-! ## 1. The document of an expression -/

/-- What is written for a setting that holds no operator set and no expression. -/
def Setting.plainDocument : Setting → Json
  | .equals v | .notEquals v => v.document
  | .includes s | .startsWith s | .endsWith s => .string s
  | .caseInsensitive on => .bool on
  | .matchesPattern p => .string p.source
  | .greaterThan bound | .greaterThanOrEqual bound | .lessThan bound | .lessThanOrEqual bound =>
    (Value.ofNumeric bound).document
  | .includesEvery vs | .includesSome vs | .includesNone vs => .array (vs.map Value.document)
  | .length _ | .combine _ _ => .null

/-- The members for the conditions of an operator set. -/
def Conditions.members (c : Conditions) : List (String × Json) :=
  (OperatorSet.settings ⟨c, none, .empty⟩).map fun s => (s.key, s.plainDocument)

mutual

/-- The document of an expression. -/
def Expression.document : Expression → Json
  | ⟨clauses, combinators⟩ => .object (Expression.clauseMembers clauses ++ combinators.members)

/-- The members for clauses. -/
def Expression.clauseMembers : List (String × Clause) → List (String × Json)
  | [] => []
  | (name, clause) :: rest => (name, clause.document) :: Expression.clauseMembers rest

/-- The document of a clause. -/
def Clause.document : Clause → Json
  | .literal (.object entries) => .object [(Operator.equals.name, (Value.object entries).document)]
  | .literal v => v.document
  | .predicate _ => .null
  | .operators ops => ops.document

/-- The document of an operator set. -/
def OperatorSet.document : OperatorSet → Json
  | ⟨conditions, length, combinators⟩ =>
    .object (conditions.members ++ (OperatorSet.lengthMembers length ++ combinators.members))

/-- The member for the set of a length, if there is one. -/
def OperatorSet.lengthMembers : Option OperatorSet → List (String × Json)
  | none => []
  | some ops => [(Operator.length.name, ops.document)]

/-- The members for combinators. -/
def Combinators.members : Combinators → List (String × Json)
  | ⟨not, and, or⟩ =>
    Combinators.operandMembers .not not
      ++ (Combinators.operandMembers .and and ++ Combinators.operandMembers .or or)

/-- The member for the operand of a combinator, if there is one. -/
def Combinators.operandMembers : Combinator → Option Operand → List (String × Json)
  | _, none => []
  | c, some operand => [(c.key, operand.document)]

/-- The document of an operand. -/
def Operand.document : Operand → Json
  | .single e => e.document
  | .many es => .array (Operand.documents es)

/-- The documents of a list of expressions. -/
def Operand.documents : List Expression → List Json
  | [] => []
  | e :: rest => e.document :: Operand.documents rest

end

/-! ## 2. Part by part -/

/-- What is written for a setting. -/
def Setting.document : Setting → Json
  | .length ops => ops.document
  | .combine _ operand => operand.document
  | s => s.plainDocument

/-- What is written for a part of an expression. -/
def Expression.Part.document : Expression.Part → Json
  | .clause _ inner => inner.document
  | .operand _ inner => inner.document

/-- The operands that are set, as parts of an expression. -/
def Combinators.parts (cs : Combinators) : List Expression.Part :=
  Combinator.all.filterMap fun c => (cs.get? c).map (.operand c)

/-- The parts of an expression, in the order in which they are written. -/
def Expression.parts (e : Expression) : List Expression.Part :=
  (e.clauses.map fun c => .clause c.1 c.2) ++ e.combinators.parts

theorem Operand.documents_eq (es : List Expression) :
    Operand.documents es = es.map Expression.document := by
  induction es with
  | nil => rfl
  | cons e rest ih => rw [Operand.documents, ih, List.map_cons]

theorem Expression.clauseMembers_eq (clauses : List (String × Clause)) :
    Expression.clauseMembers clauses = clauses.map fun c => (c.1, c.2.document) := by
  induction clauses with
  | nil => rfl
  | cons c rest ih => rw [Expression.clauseMembers, ih, List.map_cons]

theorem Combinators.members_eq (cs : Combinators) :
    cs.members = cs.parts.map fun part => (part.key, part.document) := by
  obtain ⟨not, and, or⟩ := cs
  cases not <;> cases and <;> cases or <;> rfl

/-- An expression is written part by part. -/
theorem Expression.document_eq (e : Expression) :
    e.document = .object (e.parts.map fun part => (part.key, part.document)) := by
  obtain ⟨clauses, combinators⟩ := e
  rw [Expression.document, Expression.parts, List.map_append, List.map_map,
    Expression.clauseMembers_eq, Combinators.members_eq]
  rfl

/-- An operator set is written setting by setting. -/
theorem OperatorSet.document_eq (ops : OperatorSet) :
    ops.document = .object (ops.settings.map fun s => (s.key, s.document)) := by
  obtain ⟨conditions, length, combinators⟩ := ops
  have hconditions : conditions.members =
      (OperatorSet.settings ⟨conditions, none, .empty⟩).map fun s => (s.key, s.document) := by
    refine List.map_congr_left fun s hs => ?_
    have hget := OperatorSet.mem_settings_iff.mp hs
    cases s with
    | length ops => cases hget
    | combine c operand => cases c <;> cases hget
    | _ => rfl
  have hlength : OperatorSet.lengthMembers length =
      ((length.map Setting.length).toList).map fun s => (s.key, s.document) := by
    cases length <;> rfl
  have hcombinators : combinators.members =
      combinators.settings.map fun s => (s.key, s.document) := by
    obtain ⟨not, and, or⟩ := combinators
    cases not <;> cases and <;> cases or <;> rfl
  rw [OperatorSet.document, OperatorSet.settings_eq, List.map_append, List.map_append, hconditions,
    hlength, hcombinators]

/-! ## 3. What is written is read back -/

/-- No name is reserved, and no clause is a predicate. -/
def Expression.ClausesWritable (clauses : List (String × Clause)) : Prop :=
  ∀ c ∈ clauses, isReserved c.1 = false ∧ ∀ p, c.2 ≠ .predicate p

/-- JSON has everything in the expression: no name is reserved, there is no predicate, and every
literal and operand is a value that JSON can hold. -/
def Expression.Writable (e : Expression) : Prop :=
  e.Throughout Expression.ClausesWritable Value.Writable

/-- The document of an expression is one, and what is read from it has the verdicts of the
expression. -/
structure Expression.ReadsBack (e : Expression) : Prop where
  wellFormed : e.document.WellFormed
  grammar : e.document.IsExpression
  reads : ∀ {limit depth e'}, Expression.readAt limit e.document depth = .ok e' →
    e.SameVerdict Number.SameReadings e'

/-- The same for an operator set. -/
structure OperatorSet.ReadsBack (ops : OperatorSet) : Prop where
  wellFormed : ops.document.WellFormed
  grammar : ops.document.IsOperatorSet
  reads : ∀ {limit depth members ops'}, ops.document = .object members →
    OperatorSet.readMembers limit members depth .empty = .ok ops' →
      ops.SameVerdict Number.SameReadings ops'

/-- The same for an operand. -/
structure Operand.ReadsBack (operand : Operand) : Prop where
  wellFormed : operand.document.WellFormed
  grammar : operand.document.IsOperand
  reads : ∀ {limit c depth operand'}, Operand.readAt limit operand.document c depth = .ok operand' →
    operand.SameVerdict Number.SameReadings operand'

/-- The same for a setting under its key. -/
structure Setting.ReadsBack (s : Setting) : Prop where
  wellFormed : s.document.WellFormed
  grammar : Json.IsOperatorSetMember s.key s.document
  reads : ∀ {limit depth setting},
    Setting.readMember limit depth (s.key, s.document) = .ok setting →
      ∃ s', setting = some s' ∧ s.Like Number.SameReadings s'

/-- The same for a part of an expression under its key. -/
structure Expression.Part.ReadsBack (part : Expression.Part) : Prop where
  wellFormed : part.document.WellFormed
  grammar : Json.IsExpressionMember part.key part.document
  reads : ∀ {limit depth part'},
    Expression.Part.readAt limit depth (part.key, part.document) = .ok part' →
      part.SameVerdict Number.SameReadings part'

theorem Operand.readsBack {operand : Operand} (h : ∀ e ∈ operand.expressions, e.ReadsBack) :
    operand.ReadsBack := by
  cases operand with
  | single e =>
    have he : e.ReadsBack := h e (List.mem_singleton.mpr rfl)
    have hdocument : (Operand.single e).document = e.document := by rw [Operand.document]
    refine ⟨hdocument ▸ he.wellFormed, hdocument ▸ .single he.grammar, ?_⟩
    intro limit c depth operand' hread
    rw [hdocument] at hread
    obtain ⟨members, hmembers⟩ := Json.exists_of_kind_object he.grammar.kind_eq
    rw [hmembers, Operand.readAt_object, return_eq_ok_iff, ← hmembers] at hread
    obtain ⟨e', he', rfl⟩ := hread
    exact .single (he.reads he')
  | many es =>
    have hdocument : (Operand.many es).document = .array (es.map Expression.document) := by
      rw [Operand.document, Operand.documents_eq]
    rw [Operand.expressions] at h
    refine ⟨?_, ?_, ?_⟩
    · rw [hdocument, Json.wellFormed_array_iff, List.forall_mem_map]
      exact fun e he => (h e he).wellFormed
    · rw [hdocument, Json.isOperand_array_iff, List.forall_mem_map]
      exact fun e he => (h e he).grammar
    · intro limit c depth operand' hread
      rw [hdocument, Operand.readAt, return_eq_ok_iff] at hread
      obtain ⟨es', hes', rfl⟩ := hread
      rw [Operand.readAll_ok_iff, List.forall₂_map_left_iff] at hes'
      exact .many (forall₂_imp_of_mem hes' fun e he _ hread => (h e he).reads hread)

/-! Settings -/

theorem Value.document_operandLike {limit depth : Nat} {v v' : Value} (h : v.Writable)
    (hwf : v.WellFormed) (hread : Value.readLiteral limit v.document depth = .ok v') :
    v.OperandLike Number.SameReadings v' := by
  obtain ⟨_, rfl⟩ := Value.readLiteral_ok_iff.mp hread
  exact ⟨Value.document_like h, hwf⟩

theorem Value.documents_operandLike {limit depth : Nat} {vs vs' : List Value}
    (h : ∀ v ∈ vs, v.Writable ∧ v.WellFormed)
    (hread : Value.readItems limit (vs.map Value.document) depth = .ok vs') :
    List.Forall₂ (Value.OperandLike Number.SameReadings) vs vs' := by
  rw [Value.readItems_ok_iff, List.forall₂_map_left_iff] at hread
  exact forall₂_imp_of_mem hread fun v hv _ hread =>
    Value.document_operandLike (h v hv).1 (h v hv).2 hread

theorem Value.documents_wellFormed {vs : List Value} (h : ∀ v ∈ vs, v.Writable ∧ v.WellFormed) :
    (Json.array (vs.map Value.document)).WellFormed := by
  rw [Json.wellFormed_array_iff, List.forall_mem_map]
  exact fun v hv => Value.document_wellFormed (h v hv).1 (h v hv).2

theorem Numeric.document_like {bound : Numeric} (h : (Value.ofNumeric bound).Writable) :
    ∃ k, (Value.ofNumeric bound).document = .number k ∧
      bound.Like Number.SameReadings (.number (.ofNumeral k)) := by
  cases bound with
  | timestamp t => cases h
  | number n =>
    cases h with
    | number h =>
      obtain ⟨k, hk, hsame⟩ := Value.document_number h
      exact ⟨k, hk, .number hsame⟩

/-- A bound is read back by the operator that takes it. -/
theorem Setting.readsBack_bound {K : Numeric → Setting} {bound : Numeric} (op : Operator)
    (hkey : (K bound).key = op.name)
    (hdocument : (K bound).document = (Value.ofNumeric bound).document)
    (hbound : (Value.ofNumeric bound).Writable) (htakes : ∀ k, op.Takes (.number k))
    (hreads : ∀ {limit depth k setting}, Setting.Reads limit depth op (.number k) setting →
      setting = some (K (.number (.ofNumeral k))))
    (hlike : ∀ {bound'}, bound.Like Number.SameReadings bound' →
      (K bound).Like Number.SameReadings (K bound')) : (K bound).ReadsBack := by
  obtain ⟨k, hk, hsame⟩ := Numeric.document_like hbound
  have hnumber : (K bound).document = .number k := hdocument.trans hk
  refine ⟨hnumber ▸ trivial, ?_, fun hread => ?_⟩
  · rw [hkey, hnumber]
    exact .takes op (htakes k)
  · rw [hkey, hnumber] at hread
    exact ⟨_, hreads ((Setting.readMember_operator op).mp hread), hlike hsame⟩

/-- **A setting is read back**, if what it holds is. -/
theorem Setting.readsBack {s : Setting} (hoperands : ∀ v ∈ s.operands, v.Writable ∧ v.WellFormed)
    (hlength : ∀ ops, s = .length ops → ops.ReadsBack)
    (hjoined : ∀ e ∈ s.expressions, e.ReadsBack) : s.ReadsBack := by
  cases s with
  | equals v =>
    obtain ⟨hv, hwf⟩ := hoperands v (List.mem_singleton.mpr rfl)
    refine ⟨Value.document_wellFormed hv hwf, .takes .equals trivial, fun hread => ?_⟩
    obtain ⟨v', hv', hsetting⟩ :=
      ((Setting.readMember_operator .equals).mp hread).literal_of_equals
    exact ⟨_, hsetting, .equals (Value.document_operandLike hv hwf hv')⟩
  | notEquals v =>
    obtain ⟨hv, hwf⟩ := hoperands v (List.mem_singleton.mpr rfl)
    refine ⟨Value.document_wellFormed hv hwf, .takes .notEquals trivial, fun hread => ?_⟩
    obtain ⟨v', hv', hsetting⟩ :=
      ((Setting.readMember_operator .notEquals).mp hread).literal_of_notEquals
    exact ⟨_, hsetting, .notEquals (Value.document_operandLike hv hwf hv')⟩
  | includes part =>
    refine ⟨trivial, .takes .includes ⟨part, rfl⟩, fun hread => ?_⟩
    cases (Setting.readMember_operator .includes).mp hread
    exact ⟨_, rfl, .includes part⟩
  | startsWith part =>
    refine ⟨trivial, .takes .startsWith ⟨part, rfl⟩, fun hread => ?_⟩
    cases (Setting.readMember_operator .startsWith).mp hread
    exact ⟨_, rfl, .startsWith part⟩
  | endsWith part =>
    refine ⟨trivial, .takes .endsWith ⟨part, rfl⟩, fun hread => ?_⟩
    cases (Setting.readMember_operator .endsWith).mp hread
    exact ⟨_, rfl, .endsWith part⟩
  | caseInsensitive on =>
    refine ⟨trivial, .takes .caseInsensitive ⟨on, rfl⟩, fun hread => ?_⟩
    cases (Setting.readMember_operator .caseInsensitive).mp hread
    exact ⟨_, rfl, .caseInsensitive on⟩
  | matchesPattern p =>
    have hcompile := Pattern.compile?_source p
    refine ⟨trivial, .takes .matchesPattern ⟨p.source, rfl, by rw [hcompile]; rfl⟩,
      fun hread => ?_⟩
    cases (Setting.readMember_operator .matchesPattern).mp hread with
    | matchesPattern h =>
      obtain rfl := Option.some.inj (hcompile.symm.trans h)
      exact ⟨_, rfl, .matchesPattern p⟩
  | greaterThan bound =>
    have hbound := (hoperands _ (List.mem_singleton.mpr rfl)).1
    refine Setting.readsBack_bound .greaterThan rfl rfl hbound (fun k => ⟨k, rfl⟩) ?_ .greaterThan
    rintro limit depth k setting ⟨⟩
    rfl
  | greaterThanOrEqual bound =>
    have hbound := (hoperands _ (List.mem_singleton.mpr rfl)).1
    refine Setting.readsBack_bound .greaterThanOrEqual rfl rfl hbound (fun k => ⟨k, rfl⟩) ?_
      .greaterThanOrEqual
    rintro limit depth k setting ⟨⟩
    rfl
  | lessThan bound =>
    have hbound := (hoperands _ (List.mem_singleton.mpr rfl)).1
    refine Setting.readsBack_bound .lessThan rfl rfl hbound (fun k => ⟨k, rfl⟩) ?_ .lessThan
    rintro limit depth k setting ⟨⟩
    rfl
  | lessThanOrEqual bound =>
    have hbound := (hoperands _ (List.mem_singleton.mpr rfl)).1
    refine Setting.readsBack_bound .lessThanOrEqual rfl rfl hbound (fun k => ⟨k, rfl⟩) ?_
      .lessThanOrEqual
    rintro limit depth k setting ⟨⟩
    rfl
  | includesEvery vs =>
    refine ⟨Value.documents_wellFormed hoperands, .takes .includesEvery ⟨_, rfl⟩, fun hread => ?_⟩
    cases (Setting.readMember_operator .includesEvery).mp hread with
    | includesEvery h =>
      exact ⟨_, rfl, .includesEvery (Value.documents_operandLike hoperands h)⟩
  | includesSome vs =>
    refine ⟨Value.documents_wellFormed hoperands, .takes .includesSome ⟨_, rfl⟩, fun hread => ?_⟩
    cases (Setting.readMember_operator .includesSome).mp hread with
    | includesSome h => exact ⟨_, rfl, .includesSome (Value.documents_operandLike hoperands h)⟩
  | includesNone vs =>
    refine ⟨Value.documents_wellFormed hoperands, .takes .includesNone ⟨_, rfl⟩, fun hread => ?_⟩
    cases (Setting.readMember_operator .includesNone).mp hread with
    | includesNone h => exact ⟨_, rfl, .includesNone (Value.documents_operandLike hoperands h)⟩
  | length ops =>
    have hops : ops.ReadsBack := hlength ops rfl
    refine ⟨hops.wellFormed, .length hops.grammar, fun hread => ?_⟩
    obtain ⟨members, hmembers⟩ := Json.exists_of_kind_object hops.grammar.kind_eq
    have hdocument : (Setting.length ops).document = .object members := hmembers
    rw [hdocument] at hread
    cases (Setting.readMember_operator .length).mp hread with
    | length _ h => exact ⟨_, rfl, .length (hops.reads hmembers h)⟩
  | combine c operand =>
    have hoperand : operand.ReadsBack := Operand.readsBack hjoined
    refine ⟨hoperand.wellFormed, .combinator c hoperand.grammar, fun hread => ?_⟩
    obtain ⟨operand', hoperand', hsetting⟩ := (Setting.readMember_combinator c).mp hread
    exact ⟨_, hsetting.symm, .combine c (hoperand.reads hoperand')⟩

/-- **An operator set is read back**, if its settings are. -/
theorem OperatorSet.readsBack {ops : OperatorSet} (h : ∀ s ∈ ops.settings, s.ReadsBack) :
    ops.ReadsBack := by
  have hdocument := OperatorSet.document_eq ops
  refine ⟨?_, ?_, ?_⟩
  · rw [hdocument, Json.wellFormed_object_map_iff]
    exact ⟨OperatorSet.settings_keys_nodup ops, fun s hs => (h s hs).wellFormed⟩
  · rw [hdocument, Json.isOperatorSet_object_iff, List.forall_mem_map]
    exact fun s hs => (h s hs).grammar
  · intro limit depth members ops' hmembers hread
    obtain rfl := Json.object.inj (hdocument.symm.trans hmembers)
    obtain ⟨settings, hsettings, rfl⟩ := OperatorSet.readMembers_ok_iff.mp hread
    rw [List.forall₂_map_left_iff] at hsettings
    have hlike : List.Forall₂ (Option.Rel (Setting.Like Number.SameReadings))
        (ops.settings.map some) settings :=
      List.forall₂_map_left_iff.mpr (forall₂_imp_of_mem hsettings fun s hs setting hread => by
        obtain ⟨s', rfl, hs'⟩ := (h s hs).reads hread
        exact .some hs')
    have hkept : (ops.settings.map some).reduceOption = ops.settings := by
      rw [List.reduceOption, List.filterMap_map, Function.id_comp, List.filterMap_some]
    have hall : List.Forall₂ (Setting.Like Number.SameReadings) ops.settings
        settings.reduceOption := hkept ▸ List.rel_filterMap (fun _ _ hrel => hrel) hlike
    have hcorresponds := OperatorSet.setAll_corresponds hall .empty
    rw [show ops.settings.foldl OperatorSet.set .empty = ops from
      OperatorSet.ofSettings_settings ops] at hcorresponds
    exact @OperatorSet.sameVerdict _ Number.likeness_sameReadings _ _ hcorresponds

/-! Clauses -/

/-- An equality alone holds exactly where a literal would. -/
theorem Conditions.hold_equals (v : Value) (value : Option Value) :
    Conditions.hold { equals := some v } value = presentEqual value v := by
  cases value with
  | none => simp [hold, equalitiesHold]
  | some w =>
    cases w with
    | string s =>
      cases v <;> simp [hold, stringHolds, equalsFolded, fold, presentEqual, Value.strictEq]
    | null | bool | number | timestamp | array | object =>
      simp [hold, equalitiesHold, orderingsHold, membershipsHold]

/-- A literal holds where the operator set with one equality does. -/
theorem Clause.formula_literal (v : Value) (name : String) (scope : Scope) :
    (Clause.literal v).formula name scope =
      (Clause.operators (OperatorSet.empty.set (.equals v))).formula name scope := by
  have hcombinators : Combinators.empty.formula scope = true := by
    rw [Combinators.empty, Combinators.formula, Combinators.foldNot, Combinators.foldAnd,
      Combinators.foldOr]
  rw [Clause.formula, Clause.formula, ← Conditions.presentEqual_eq_any, OperatorSet.set,
    OperatorSet.formula_eq]
  simp [OperatorSet.empty, Conditions.hold_equals, OperatorSet.lengthHolds, hcombinators]

/-- The same for a clause. -/
structure Clause.ReadsBack (clause : Clause) : Prop where
  wellFormed : clause.document.WellFormed
  grammar : clause.document.kind ≠ .object ∨ clause.document.IsOperatorSet
  reads : ∀ {limit depth clause'}, Clause.readAt limit clause.document depth = .ok clause' →
    clause.SameVerdict Number.SameReadings clause'

theorem Clause.readsBack_operators {ops : OperatorSet} (h : ops.ReadsBack) :
    (Clause.operators ops).ReadsBack := by
  have hdocument : (Clause.operators ops).document = ops.document := by rw [Clause.document]
  refine ⟨hdocument ▸ h.wellFormed, hdocument ▸ .inr h.grammar, ?_⟩
  intro limit depth clause' hread
  obtain ⟨members, hmembers⟩ := Json.exists_of_kind_object h.grammar.kind_eq
  rw [hdocument, hmembers, Clause.readAt_object_ok_iff] at hread
  obtain ⟨_, ops', hops', rfl⟩ := hread
  exact @Clause.sameVerdict_operators _ _ _ (h.reads hmembers hops')

/-- **A literal is read back**, one that is an object as the operand of an equality. -/
theorem Clause.readsBack_literal {v : Value} (h : v.Writable) (hwf : v.WellFormed) :
    (Clause.literal v).ReadsBack := by
  by_cases hobject : ∃ entries, v = .object entries
  · obtain ⟨entries, rfl⟩ := hobject
    have hsettings : (OperatorSet.empty.set (.equals (.object entries))).settings =
        [.equals (.object entries)] := rfl
    have hset : (OperatorSet.empty.set (.equals (.object entries))).ReadsBack := by
      refine OperatorSet.readsBack fun s hs => ?_
      rw [hsettings] at hs
      obtain rfl := List.mem_singleton.mp hs
      refine Setting.readsBack (fun v hv => ?_) (fun ops hops => ?_) fun e he => ?_
      · obtain rfl := List.mem_singleton.mp hv
        exact ⟨h, hwf⟩
      · cases hops
      · cases he
    -- The document is that of an operator set, which is what comes back in place of the literal.
    have hoperators := Clause.readsBack_operators hset
    have hdocument : (Clause.literal (.object entries)).document =
        (Clause.operators (OperatorSet.empty.set (.equals (.object entries)))).document := by
      rw [Clause.document, Clause.document, OperatorSet.document_eq, hsettings]
      rfl
    refine ⟨hdocument ▸ hoperators.wellFormed, hdocument ▸ hoperators.grammar, ?_⟩
    intro limit depth clause' hread scope scope' hrecord name
    rw [hdocument] at hread
    exact (Clause.formula_literal _ name scope).trans (hoperators.reads hread hrecord name)
  · have hplain : ∀ entries, v ≠ .object entries := fun entries hv => hobject ⟨entries, hv⟩
    have hdocument : (Clause.literal v).document = v.document := by
      cases v with
      | object entries => exact absurd rfl (hplain entries)
      | _ => rw [Clause.document]; simp
    have hkind := Value.document_kind h hplain
    refine ⟨hdocument ▸ Value.document_wellFormed h hwf, .inl (hdocument ▸ hkind), ?_⟩
    intro limit depth clause' hread
    rw [hdocument, Clause.readAt_other hkind, return_eq_ok_iff] at hread
    obtain ⟨v', hv', rfl⟩ := hread
    exact @Clause.sameVerdict_literal _ Number.likeness_sameReadings _ _
      (Value.document_operandLike h hwf hv')

/-! Expressions -/

theorem Combinators.mem_parts_iff {cs : Combinators} {part : Expression.Part} :
    part ∈ cs.parts ↔ ∃ c operand, cs.get? c = some operand ∧ .operand c operand = part := by
  rw [Combinators.parts, List.mem_filterMap]
  constructor
  · rintro ⟨c, _, h⟩
    obtain ⟨operand, hget, hpart⟩ := Option.map_eq_some_iff.mp h
    exact ⟨c, operand, hget, hpart⟩
  · rintro ⟨c, operand, hget, hpart⟩
    exact ⟨c, by cases c <;> decide, Option.map_eq_some_iff.mpr ⟨operand, hget, hpart⟩⟩

theorem Clause.ReadsBack.part {clause : Clause} (h : clause.ReadsBack) {name : String}
    (hfree : isReserved name = false) : (Expression.Part.clause name clause).ReadsBack := by
  have hkey := Combinator.ofKey?_eq_none_of_free hfree
  refine ⟨h.wellFormed, ?_, fun hread => ?_⟩
  · exact (Json.isExpressionMember_field_iff hkey).mpr ⟨hfree, h.grammar⟩
  · obtain ⟨clause', hclause', rfl⟩ := (Expression.Part.readAt_field hfree).mp hread
    exact .clause name (h.reads hclause')

theorem Operand.ReadsBack.part {operand : Operand} (h : operand.ReadsBack) (c : Combinator) :
    (Expression.Part.operand c operand).ReadsBack := by
  refine ⟨h.wellFormed, .combinator c h.grammar, fun hread => ?_⟩
  obtain ⟨operand', hoperand', rfl⟩ := (Expression.Part.readAt_combinator c).mp hread
  exact .operand c (h.reads hoperand')

section Parts

variable {clauses : List (String × Clause)} {combinators : Combinators}

theorem Expression.clauseKeys_eq (clauses : List (String × Clause)) :
    (clauses.map fun c => Expression.Part.clause c.1 c.2).map Expression.Part.key =
      Entries.names clauses := by
  rw [List.map_map]
  rfl

/-- No part of an expression stands under the key of another. -/
theorem Expression.parts_keys_nodup (hdistinct : Entries.Distinct clauses)
    (hfree : ∀ c ∈ clauses, isReserved c.1 = false) :
    ((Expression.parts ⟨clauses, combinators⟩).map Expression.Part.key).Nodup := by
  rw [Expression.parts, List.map_append, Expression.clauseKeys_eq]
  refine List.nodup_append.mpr ⟨hdistinct, ?_, ?_⟩
  · obtain ⟨not, and, or⟩ := combinators
    cases not <;> cases and <;> cases or <;>
      simp [Combinators.parts, Combinator.all, Combinators.get?, Expression.Part.key,
        Combinator.key]
  · intro name hname key hkey heq
    obtain ⟨clause, hclause, rfl⟩ := List.mem_map.mp hname
    obtain ⟨part, hpart, rfl⟩ := List.mem_map.mp hkey
    obtain ⟨c, operand, _, rfl⟩ := Combinators.mem_parts_iff.mp hpart
    have hkey : clause.1 = c.key := heq
    have hreserved := hfree clause hclause
    rw [hkey, isReserved_key] at hreserved
    cases hreserved

/-- **An expression is put together from its parts.** -/
theorem Expression.addAll_parts (hdistinct : Entries.Distinct clauses) :
    (Expression.parts ⟨clauses, combinators⟩).foldl Expression.add .empty =
      ⟨clauses, combinators⟩ := by
  -- The clauses come first and leave the combinators empty; then each operand is set once.
  let clauseParts := clauses.map fun c => Expression.Part.clause c.1 c.2
  have hkeys : (clauseParts.map Expression.Part.key).Nodup := by
    rw [Expression.clauseKeys_eq]
    exact hdistinct
  have hclauses : (clauseParts.foldl Expression.add .empty).clauses = clauses := by
    rw [Expression.addAll_clauses .empty hkeys fun _ _ => List.not_mem_nil, List.filterMap_map]
    exact List.filterMap_some
  have hcombinators : (clauseParts.foldl Expression.add .empty).combinators = .empty := by
    rw [Expression.addAll_combinators, List.foldl_map]
    exact List.foldl_fixed clauses
  have hadded : clauseParts.foldl Expression.add .empty = ⟨clauses, .empty⟩ := by
    generalize clauseParts.foldl Expression.add .empty = e at hclauses hcombinators
    obtain ⟨_, _⟩ := e
    exact congrArg₂ Expression.mk hclauses hcombinators
  rw [Expression.parts, List.foldl_append, hadded]
  obtain ⟨not, and, or⟩ := combinators
  cases not <;> cases and <;> cases or <;> rfl

/-- **An expression is read back**, if its clauses and the expressions it joins are. -/
theorem Expression.readsBack (hdistinct : Entries.Distinct clauses)
    (hfree : ∀ c ∈ clauses, isReserved c.1 = false) (hclauses : ∀ c ∈ clauses, c.2.ReadsBack)
    (hjoined : ∀ e ∈ combinators.expressions, e.ReadsBack) :
    Expression.ReadsBack ⟨clauses, combinators⟩ := by
  have hdocument := Expression.document_eq ⟨clauses, combinators⟩
  have hparts : ∀ part ∈ Expression.parts ⟨clauses, combinators⟩, part.ReadsBack := by
    intro part hpart
    rcases List.mem_append.mp hpart with hpart | hpart
    · obtain ⟨c, hc, rfl⟩ := List.mem_map.mp hpart
      exact (hclauses c hc).part (hfree c hc)
    · obtain ⟨c, operand, hget, rfl⟩ := Combinators.mem_parts_iff.mp hpart
      refine Operand.ReadsBack.part (Operand.readsBack fun e he => hjoined e ?_) c
      exact Combinators.mem_expressions_iff.mpr ⟨c, operand, hget, he⟩
  refine ⟨?_, ?_, ?_⟩
  · rw [hdocument, Json.wellFormed_object_map_iff]
    exact ⟨Expression.parts_keys_nodup hdistinct hfree, fun part hp => (hparts part hp).wellFormed⟩
  · rw [hdocument, Json.isExpression_object_iff, List.forall_mem_map]
    exact fun part hp => (hparts part hp).grammar
  · intro limit depth e' hread
    rw [hdocument, Expression.readAt_object_ok_iff] at hread
    obtain ⟨parts', hparts', rfl⟩ := Expression.readMembers_ok_iff.mp hread.2
    rw [List.forall₂_map_left_iff] at hparts'
    have hsame : List.Forall₂ (Expression.Part.SameVerdict Number.SameReadings)
        (Expression.parts ⟨clauses, combinators⟩) parts' :=
      forall₂_imp_of_mem hparts' fun part hp _ hread => (hparts part hp).reads hread
    have hcorresponds := Expression.addAll_corresponds hsame
    rw [Expression.addAll_parts hdistinct] at hcorresponds
    exact @Expression.sameVerdict _ _ _ ⟨⟨_, hcorresponds.1, .refl _⟩, hcorresponds.2⟩

end Parts

/-! ## 4. Everything that is built -/

/-- **Every expression that JSON can hold is read back.** -/
theorem Expression.readsBack_all :
    (∀ e : Expression, e.WellFormed → e.Writable → e.ReadsBack) ∧
      ∀ ops : OperatorSet, ops.Throughout Entries.Distinct Value.WellFormed →
        ops.Throughout Expression.ClausesWritable Value.Writable → ops.ReadsBack := by
  refine Expression.induction ?expression ?operatorSet
  case expression =>
    intro clauses combinators hops hes hwf h
    cases hwf with
    | mk hdistinct wellFormed joinedWellFormed =>
      cases h with
      | mk hclauses writable joined =>
        refine Expression.readsBack hdistinct (fun c hc => (hclauses c hc).1) (fun c hc => ?_)
          fun e he => hes e he (joinedWellFormed e he) (joined e he)
        have hclauseWf := wellFormed c hc
        have hclause := writable c hc
        obtain ⟨name, clause⟩ := c
        cases clause with
        | literal v =>
          cases hclauseWf with
          | literal hwf =>
            cases hclause with
            | literal h => exact Clause.readsBack_literal h hwf
        | predicate p => exact absurd rfl ((hclauses _ hc).2 p)
        | operators ops =>
          cases hclauseWf with
          | operators hwf =>
            cases hclause with
            | operators h => exact Clause.readsBack_operators (hops name ops hc hwf h)
  case operatorSet =>
    intro conditions length combinators hlength hes hwf h
    cases hwf with
    | mk wellFormed =>
      cases h with
      | mk writable =>
        refine OperatorSet.readsBack fun s hs => ?_
        obtain ⟨operandsWf, lengthWf, joinedWf⟩ := wellFormed s hs
        obtain ⟨operands, inner, joined⟩ := writable s hs
        refine Setting.readsBack (fun v hv => ⟨operands v hv, operandsWf v hv⟩) (fun ops hops => ?_)
          fun e he => ?_
        · have hset := OperatorSet.length_mem_settings_iff.mp (hops ▸ hs)
          exact hlength ops hset (lengthWf ops hops) (inner ops hops)
        · have hmem := OperatorSet.mem_expressions_iff.mpr ⟨s, hs, he⟩
          exact hes e hmem (joinedWf e he) (joined e he)

/-- What JSON can hold has no predicates. -/
theorem Expression.predicates_of_writable :
    (∀ e : Expression, e.Writable → e.predicates = []) ∧
      ∀ ops : OperatorSet, ops.Throughout Expression.ClausesWritable Value.Writable →
        ops.predicates = [] := by
  refine Expression.induction ?expression ?operatorSet
  case expression =>
    intro clauses combinators hops hes h
    cases h with
    | mk hclauses writable joined =>
      rw [Expression.predicates, List.append_eq_nil_iff, Expression.clausePredicates_eq,
        List.flatMap_eq_nil_iff, Combinators.predicates_eq_nil_iff]
      refine ⟨fun c hc => ?_, fun e he => hes e he (joined e he)⟩
      obtain ⟨name, clause⟩ := c
      have hclause := writable _ hc
      cases clause with
      | literal v => rfl
      | predicate p => exact absurd rfl ((hclauses _ hc).2 p)
      | operators ops =>
        cases hclause with
        | operators h => exact hops name ops hc h
  case operatorSet =>
    intro conditions length combinators hlength hes h
    cases h with
    | mk writable =>
      rw [OperatorSet.predicates, List.append_eq_nil_iff, OperatorSet.lengthPredicates_eq_nil_iff,
        Combinators.predicates_eq_nil_iff]
      refine ⟨fun ops hops => ?_, fun e he => ?_⟩
      · obtain ⟨_, inner, _⟩ := writable _ (OperatorSet.length_mem_settings_iff.mpr hops)
        exact hlength ops hops (inner ops rfl)
      · have hmem : e ∈ (OperatorSet.mk conditions length combinators).combinators.expressions := he
        obtain ⟨s, hs, hjoined⟩ := OperatorSet.mem_expressions_iff.mp hmem
        obtain ⟨_, _, joined⟩ := writable s hs
        exact hes e he (joined e hjoined)

/-- **Documents say what the builder can.**  An expression that is built without predicates,
reserved names and values that JSON lacks has a document.  The document is accepted under some
limit, and under all limits that the expression and the one that is read both keep to, the two match
the same records. -/
theorem Expression.document_sameVerdicts (e : Expression) (hbuilt : e.Built) (h : e.Writable) :
    e.document.WellFormed ∧
      ∃ limit e', (Expression.ofJson e.document ⟨limit⟩).result = .ok e' ∧
        ∀ limits, (e.validate limits).result = .ok () → (e'.validate limits).result = .ok () →
          ∀ dataset index, ∃ verdict, (e.matchesAt dataset index limits).result = .ok verdict ∧
            (e'.matchesAt dataset index limits).result = .ok verdict := by
  have hback : e.ReadsBack := Expression.readsBack_all.1 e hbuilt.wellFormed h
  refine ⟨hback.wellFormed, e.document.expressionDepth, ?_⟩
  obtain ⟨e', he'⟩ := (Expression.ofJson_ok_iff e.document ⟨e.document.expressionDepth⟩).mpr
    ⟨hback.grammar, Nat.le_refl _⟩
  refine ⟨e', he', fun limits hvalid hvalid' dataset index => ?_⟩
  rw [Expression.ofJson_result] at he'
  have hsame : e.SameVerdict Number.SameReadings e' := hback.reads he'
  have hsound : e.SoundAt limits.maxDepth 0 :=
    ⟨(Expression.validate_ends e limits).1.symm.trans hvalid,
      Expression.predicates_of_writable.1 e h⟩
  have hsound' : e'.SoundAt limits.maxDepth 0 :=
    ⟨(Expression.validate_ends e' limits).1.symm.trans hvalid',
      ((Json.readsSound e.document).expression he').2⟩
  have hrecords : List.Forall₂ (Record.Like Number.SameReadings) dataset dataset :=
    List.forall₂_same.mpr fun record _ => Record.Like.refl Number.likeness_sameReadings record
  exact hsame.matchesAt_eq hsound hsound' hrecords index

theorem Expression.ClausesWritable.put {clauses : List (String × Clause)}
    (h : Expression.ClausesWritable clauses) {name : String} (hfree : isReserved name = false)
    {clause : Clause} (hclause : ∀ p, clause ≠ .predicate p) :
    Expression.ClausesWritable (Entries.put clauses name clause) := by
  intro c hc
  rcases Entries.mem_put hc with rfl | hc
  · exact ⟨hfree, hclause⟩
  · exact h c hc

/-- An operator set under a list, for a record that is not small. -/
def Expression.notSmall : Expression :=
  Expression.empty.combine .not (.many [Expression.empty.field "size"
    (.operators (OperatorSet.empty.set (.lessThan (.number (.real ⟨0x3ff0000000000000⟩)))))])

/-- A literal that is an object, with an unsigned integer in it. -/
def Expression.labelled : Expression :=
  Expression.notSmall.field "label" (.literal (.object [("rank", .number (.unsigned (.ofNat 5)))]))

example : Expression.labelled.document = .object [
    ("label", .object [("equals", .object [
      ("rank", .number (.integer ⟨5, by decide, by decide⟩))])]),
    ("$NOT", .array [.object [("size", .object [
      ("lessThan", .number (.real ⟨0x3ff0000000000000⟩ (by decide)))])]])] := by
  rfl

theorem Expression.labelled_built : Expression.labelled.Built := by
  have hset : (OperatorSet.empty.set
      (.lessThan (.number (.real ⟨0x3ff0000000000000⟩)))).Built := by
    refine .set .empty (.mk (fun v hv => ?_) nofun nofun)
    obtain rfl := List.mem_singleton.mp hv
    trivial
  have hsmall : Expression.notSmall.Built :=
    .combine .empty .not (List.forall_mem_singleton.mpr (.field .empty "size" (.operators hset)))
  refine .field hsmall "label" (.literal ?_)
  rw [Value.WellFormed, Value.entriesWellFormed_iff]
  exact ⟨List.nodup_singleton _, List.forall_mem_singleton.mpr trivial⟩

theorem Expression.labelled_writable : Expression.labelled.Writable := by
  have hnone : Expression.ClausesWritable [] := fun c hc => by cases hc
  have hset : (OperatorSet.empty.set (.lessThan (.number (.real ⟨0x3ff0000000000000⟩)))).Throughout
      Expression.ClausesWritable Value.Writable := by
    refine .set .empty (.mk (fun v hv => ?_) nofun nofun)
    obtain rfl := List.mem_singleton.mp hv
    exact .number (by decide : Binary64.isFinite _ = true)
  have hsize : (Expression.empty.field "size" (.operators (OperatorSet.empty.set
      (.lessThan (.number (.real ⟨0x3ff0000000000000⟩)))))).Writable :=
    (Expression.Throughout.empty hnone).field (fun h => h.put (by decide) nofun) (.operators hset)
  have hsmall : Expression.notSmall.Writable :=
    (Expression.Throughout.empty hnone).combine .not (List.forall_mem_singleton.mpr hsize)
  refine hsmall.field (fun h => h.put (by decide) nofun) (.literal (.object ?_))
  exact List.forall_mem_singleton.mpr (.number trivial)

theorem Expression.labelled_sameVerdicts :
    Expression.labelled.document.WellFormed ∧
      ∃ limit e', (Expression.ofJson Expression.labelled.document ⟨limit⟩).result = .ok e' ∧
        ∀ limits, (Expression.labelled.validate limits).result = .ok () →
          (e'.validate limits).result = .ok () → ∀ dataset index, ∃ verdict,
            (Expression.labelled.matchesAt dataset index limits).result = .ok verdict ∧
              (e'.matchesAt dataset index limits).result = .ok verdict :=
  Expression.document_sameVerdicts Expression.labelled Expression.labelled_built
    Expression.labelled_writable

end RecordFilter
