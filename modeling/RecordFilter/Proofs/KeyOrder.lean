/-
# The order of keys in a document does not matter

Documents that differ only in the order of keys are accepted together, and the expressions that are
read from them have the same verdicts on datasets that differ in the same way.

What is read from a tree has a counterpart in every tree that it is like (`Json.ReadsAlike`): so it
is for objects if it is for their members, which are read one by one and put together in any order,
and so it is for all other trees.  Strict equality of values is no help in this, since it is no
equivalence; the relation on values is `Value.Like` all the way.
-/
import RecordFilter.Proofs.Members
import RecordFilter.Proofs.Trees

namespace RecordFilter

variable {R : Numeral → Numeral → Prop} {N : Number → Number → Prop} {limit depth : Nat}

/-! ## 1. Members -/

/-- Whatever is read from the first tree has a counterpart in the second, with the same
verdicts. -/
structure Json.ReadsAlike (N : Number → Number → Prop) (limit : Nat) (json json' : Json) :
    Prop where
  expression : ∀ {depth e}, Expression.readAt limit json depth = .ok e →
    ∃ e', Expression.readAt limit json' depth = .ok e' ∧ e.SameVerdict N e'
  operand : ∀ {c depth operand}, Operand.readAt limit json c depth = .ok operand →
    ∃ operand', Operand.readAt limit json' c depth = .ok operand' ∧
      operand.SameVerdict N operand'
  clause : ∀ {depth clause}, Clause.readAt limit json depth = .ok clause →
    ∃ clause', Clause.readAt limit json' depth = .ok clause' ∧ clause.SameVerdict N clause'
  setting : ∀ {op depth setting}, Setting.readAt limit json op depth = .ok setting →
    ∃ setting', Setting.readAt limit json' op depth = .ok setting' ∧
      Option.Rel (Setting.Like N) setting setting'

theorem Expression.Part.readAt_alike {member member' : String × Json}
    (h : Entries.Under (Json.ReadsAlike N limit) member member') {part : Expression.Part}
    (hpart : Expression.Part.readAt limit depth member = .ok part) :
    ∃ part', Expression.Part.readAt limit depth member' = .ok part' ∧
      part.SameVerdict N part' := by
  cases h with
  | mk key hjson =>
    unfold Expression.Part.readAt at hpart ⊢
    dsimp only at hpart ⊢
    split at hpart
    next c _ =>
      obtain ⟨operand, hoperand, rfl⟩ := return_eq_ok_iff.mp hpart
      obtain ⟨operand', hoperand', hsame⟩ := hjson.operand hoperand
      exact ⟨_, return_eq_ok_iff.mpr ⟨operand', hoperand', rfl⟩, .operand c hsame⟩
    next =>
      split at hpart
      next => cases hpart
      next hfree =>
        rw [if_neg hfree]
        obtain ⟨clause, hclause, rfl⟩ := return_eq_ok_iff.mp hpart
        obtain ⟨clause', hclause', hsame⟩ := hjson.clause hclause
        exact ⟨_, return_eq_ok_iff.mpr ⟨clause', hclause', rfl⟩, .clause key hsame⟩

theorem Setting.readMember_alike {member member' : String × Json}
    (h : Entries.Under (Json.ReadsAlike N limit) member member') {setting : Option Setting}
    (hsetting : Setting.readMember limit depth member = .ok setting) :
    ∃ setting', Setting.readMember limit depth member' = .ok setting' ∧
      Option.Rel (Setting.Like N) setting setting' := by
  cases h with
  | mk key hjson =>
    unfold Setting.readMember at hsetting ⊢
    dsimp only at hsetting ⊢
    split at hsetting
    next c _ =>
      obtain ⟨operand, hoperand, rfl⟩ := return_eq_ok_iff.mp hsetting
      obtain ⟨operand', hoperand', hsame⟩ := hjson.operand hoperand
      exact ⟨_, return_eq_ok_iff.mpr ⟨operand', hoperand', rfl⟩, .some (.combine c hsame)⟩
    next =>
      split at hsetting
      next => cases hsetting
      next op _ => exact hjson.setting hsetting

section Members

variable {members reordered members' : List (String × Json)}
  (hdistinct : Entries.Distinct members)
  (h : List.Forall₂ (Entries.Under (Json.ReadsAlike N limit)) members reordered)
  (p : reordered.Perm members')

include hdistinct h p

/-- **The members of an expression can be read in any order.** -/
theorem Expression.readMembers_alike {e : Expression}
    (he : Expression.readMembers limit members depth .empty = .ok e) :
    ∃ e', Expression.readMembers limit members' depth .empty = .ok e' ∧ e.SameVerdict N e' := by
  -- First the like members in the order of the first document, then the order of the second.
  obtain ⟨parts, hparts, rfl⟩ := Expression.readMembers_ok_iff.mp he
  obtain ⟨same, hsame, hverdicts⟩ :=
    forall₂_square h hparts fun hunder hpart => Expression.Part.readAt_alike hunder hpart
  obtain ⟨parts', hparts', p'⟩ := forall₂_reorder hsame p
  have hkeys : (same.map Expression.Part.key).Nodup := by
    rw [Expression.partKeys_eq hsame, Entries.names_under h]
    exact hdistinct
  obtain ⟨hclauses, hcombinators⟩ := Expression.addAll_corresponds hverdicts
  obtain ⟨pclauses, hequal⟩ := Expression.addAll_perm hkeys p'
  refine ⟨_, Expression.readMembers_ok_iff.mpr ⟨parts', hparts', rfl⟩, ?_⟩
  exact Expression.sameVerdict ⟨⟨_, hclauses, pclauses⟩, hequal ▸ hcombinators⟩

/-- **So can the members of an operator set.** -/
theorem OperatorSet.readMembers_alike (hN : Number.Likeness N) {ops : OperatorSet}
    (hops : OperatorSet.readMembers limit members depth .empty = .ok ops) :
    ∃ ops', OperatorSet.readMembers limit members' depth .empty = .ok ops' ∧
      ops.SameVerdict N ops' := by
  obtain ⟨settings, hsettings, rfl⟩ := OperatorSet.readMembers_ok_iff.mp hops
  obtain ⟨same, hsame, hlike⟩ :=
    forall₂_square h hsettings fun hunder hsetting => Setting.readMember_alike hunder hsetting
  obtain ⟨settings', hsettings', p'⟩ := forall₂_reorder hsame p
  -- A `null` sets nothing, so only some of the keys are left; they still differ.
  have hkeys : (same.reduceOption.map Setting.key).Nodup := by
    refine (OperatorSet.settingKeys_sublist hsame).nodup ?_
    rw [Entries.names_under h]
    exact hdistinct
  have hsettingsLike : List.Forall₂ (Setting.Like N) settings.reduceOption same.reduceOption :=
    List.rel_filterMap (fun _ _ hrel => hrel) hlike
  have hcorresponds := OperatorSet.setAll_corresponds hsettingsLike .empty
  rw [OperatorSet.setAll_perm hkeys (p'.filterMap id)] at hcorresponds
  exact ⟨_, OperatorSet.readMembers_ok_iff.mpr ⟨settings', hsettings', rfl⟩,
    OperatorSet.sameVerdict hN hcorresponds⟩

end Members

/-! ## 2. From the parts to the whole -/

section Trees

variable (hR : ∀ {n n'}, R n n' → N (.ofNumeral n) (.ofNumeral n'))

include hR

theorem Value.readItems_alike {items items' : List Json}
    (h : List.Forall₂ (Json.Like R) items items') (hwf : (Json.array items).WellFormed)
    {vs : List Value} (hvs : Value.readItems limit items depth = .ok vs) :
    ∃ vs', Value.readItems limit items' depth = .ok vs' ∧
      List.Forall₂ (Value.OperandLike N) vs vs' := by
  have hitems : List.Forall₂ (fun item item' => Json.Like R item item' ∧ item.WellFormed)
      items items' := forall₂_imp_of_mem h fun item hm _ hlike =>
        ⟨hlike, Json.wellFormed_array_iff.mp hwf item hm⟩
  obtain ⟨vs', hvs', hlike⟩ := forall₂_square hitems (Value.readItems_ok_iff.mp hvs)
    fun hitem hv => Value.readLiteral_like hR hitem.1 hitem.2 hv
  exact ⟨vs', Value.readItems_ok_iff.mpr hvs', hlike⟩

/-- What an operator takes has a counterpart, if the set of a length has. -/
theorem Setting.readAt_alike {json json' : Json} (hlike : Json.Like R json json')
    (hwf : json.WellFormed)
    (hlength : ∀ {members members'}, json = .object members → json' = .object members' →
      ∀ {depth ops}, OperatorSet.readMembers limit members depth .empty = .ok ops →
        ∃ ops', OperatorSet.readMembers limit members' depth .empty = .ok ops' ∧
          ops.SameVerdict N ops')
    {op : Operator} {setting : Option Setting}
    (h : Setting.readAt limit json op depth = .ok setting) :
    ∃ setting', Setting.readAt limit json' op depth = .ok setting' ∧
      Option.Rel (Setting.Like N) setting setting' := by
  simp only [Setting.readAt_ok_iff] at h ⊢
  cases h with
  | equals h =>
    obtain ⟨v', hv', hv⟩ := Value.readLiteral_like hR hlike hwf h
    exact ⟨_, .equals hv', .some (.equals hv)⟩
  | notEquals h =>
    obtain ⟨v', hv', hv⟩ := Value.readLiteral_like hR hlike hwf h
    exact ⟨_, .notEquals hv', .some (.notEquals hv)⟩
  | unset h h' =>
    cases hlike
    exact ⟨_, .unset h h', .none⟩
  | includes s =>
    cases hlike
    exact ⟨_, .includes s, .some (.includes s)⟩
  | startsWith s =>
    cases hlike
    exact ⟨_, .startsWith s, .some (.startsWith s)⟩
  | endsWith s =>
    cases hlike
    exact ⟨_, .endsWith s, .some (.endsWith s)⟩
  | caseInsensitive b =>
    cases hlike
    exact ⟨_, .caseInsensitive b, .some (.caseInsensitive b)⟩
  | matchesPattern h =>
    cases hlike
    exact ⟨_, .matchesPattern h, .some (.matchesPattern _)⟩
  | greaterThan n =>
    cases hlike with
    | number hn => exact ⟨_, .greaterThan _, .some (.greaterThan (.number (hR hn)))⟩
  | greaterThanOrEqual n =>
    cases hlike with
    | number hn =>
      exact ⟨_, .greaterThanOrEqual _, .some (.greaterThanOrEqual (.number (hR hn)))⟩
  | lessThan n =>
    cases hlike with
    | number hn => exact ⟨_, .lessThan _, .some (.lessThan (.number (hR hn)))⟩
  | lessThanOrEqual n =>
    cases hlike with
    | number hn => exact ⟨_, .lessThanOrEqual _, .some (.lessThanOrEqual (.number (hR hn)))⟩
  | includesEvery h =>
    cases hlike with
    | array hitems =>
      obtain ⟨vs', hvs', hvs⟩ := Value.readItems_alike hR hitems hwf h
      exact ⟨_, .includesEvery hvs', .some (.includesEvery hvs)⟩
  | includesSome h =>
    cases hlike with
    | array hitems =>
      obtain ⟨vs', hvs', hvs⟩ := Value.readItems_alike hR hitems hwf h
      exact ⟨_, .includesSome hvs', .some (.includesSome hvs)⟩
  | includesNone h =>
    cases hlike with
    | array hitems =>
      obtain ⟨vs', hvs', hvs⟩ := Value.readItems_alike hR hitems hwf h
      exact ⟨_, .includesNone hvs', .some (.includesNone hvs)⟩
  | length hd h =>
    cases hlike with
    | object _ _ =>
      obtain ⟨ops', hops', hops⟩ := hlength rfl rfl h
      exact ⟨_, .length hd hops', .some (.length hops)⟩

/-- **Objects are read alike**, if their members are. -/
theorem Json.readsAlike_object (hN : Number.Likeness N)
    {members reordered members' : List (String × Json)} (hwf : (Json.object members).WellFormed)
    (hlike : List.Forall₂ (Entries.Under (Json.Like R)) members reordered)
    (h : List.Forall₂ (Entries.Under (Json.ReadsAlike N limit)) members reordered)
    (p : reordered.Perm members') :
    Json.ReadsAlike N limit (.object members) (.object members') := by
  have hdistinct := (Json.wellFormed_object_iff.mp hwf).1
  have hexpression : ∀ {depth e}, Expression.readAt limit (.object members) depth = .ok e →
      ∃ e', Expression.readAt limit (.object members') depth = .ok e' ∧ e.SameVerdict N e' := by
    intro depth e he
    obtain ⟨hd, he⟩ := Expression.readAt_object_ok_iff.mp he
    obtain ⟨e', he', hsame⟩ := Expression.readMembers_alike hdistinct h p he
    exact ⟨e', Expression.readAt_object_ok_iff.mpr ⟨hd, he'⟩, hsame⟩
  refine ⟨hexpression, ?_, ?_, ?_⟩
  · intro c depth operand hoperand
    simp only [Operand.readAt_object, return_eq_ok_iff] at hoperand ⊢
    obtain ⟨e, he, rfl⟩ := hoperand
    obtain ⟨e', he', hsame⟩ := hexpression he
    exact ⟨_, ⟨e', he', rfl⟩, .single hsame⟩
  · intro depth clause hclause
    obtain ⟨hd, ops, hops, rfl⟩ := Clause.readAt_object_ok_iff.mp hclause
    obtain ⟨ops', hops', hsame⟩ := OperatorSet.readMembers_alike hdistinct h p hN hops
    exact ⟨_, Clause.readAt_object_ok_iff.mpr ⟨hd, ops', hops', rfl⟩,
      Clause.sameVerdict_operators hsame⟩
  · intro op depth setting hsetting
    refine Setting.readAt_alike hR (.object hlike p) hwf ?_ hsetting
    rintro _ _ ⟨⟩ ⟨⟩ depth ops hops
    exact OperatorSet.readMembers_alike hdistinct h p hN hops

/-- **All other trees are read alike**, if they are no arrays or their items are. -/
theorem Json.readsAlike_other (hN : Number.Likeness N) {json json' : Json}
    (hobject : json.kind ≠ .object) (hlike : Json.Like R json json') (hwf : json.WellFormed)
    (hitems : ∀ {items items'}, json = .array items → json' = .array items' →
      List.Forall₂ (Json.ReadsAlike N limit) items items') :
    Json.ReadsAlike N limit json json' := by
  have hobject' : json'.kind ≠ .object := hlike.kind_eq ▸ hobject
  refine ⟨?_, ?_, ?_, ?_⟩
  · intro depth e he
    exact absurd (isOk_iff.mpr ⟨e, he⟩) (Expression.readAt_other hobject depth)
  · intro c depth operand hoperand
    cases hlike with
    | array _ =>
      simp only [Operand.readAt, return_eq_ok_iff, Operand.readAll_ok_iff] at hoperand ⊢
      obtain ⟨es, hes, rfl⟩ := hoperand
      obtain ⟨es', hes', hsame⟩ :=
        forall₂_square (hitems rfl rfl) hes fun hitem he => hitem.expression he
      exact ⟨_, ⟨es', hes', rfl⟩, .many hsame⟩
    | null | bool | number | string => simp [Operand.readAt] at hoperand
    | object _ _ => exact absurd rfl hobject
  · intro depth clause hclause
    simp only [Clause.readAt_other hobject, Clause.readAt_other hobject', return_eq_ok_iff]
      at hclause ⊢
    obtain ⟨v, hv, rfl⟩ := hclause
    obtain ⟨v', hv', hvlike⟩ := Value.readLiteral_like hR hlike hwf hv
    exact ⟨_, ⟨v', hv', rfl⟩, Clause.sameVerdict_literal hN hvlike⟩
  · intro op depth setting hsetting
    refine Setting.readAt_alike hR hlike hwf ?_ hsetting
    rintro _ _ rfl
    exact absurd rfl hobject

/-- **Alike trees are read alike.** -/
theorem Json.readsAlike (hN : Number.Likeness N) {json json' : Json}
    (hlike : Json.Like R json json') (hwf : json.WellFormed) :
    Json.ReadsAlike N limit json json' := by
  induction json using Json.induction generalizing json' with
  | object members ih =>
    cases hlike with
    | object h p =>
      have hwf' := (Json.wellFormed_object_iff.mp hwf).2
      refine Json.readsAlike_object hR hN hwf h (forall₂_imp_of_mem h fun m hm _ hunder => ?_) p
      cases hunder with
      | mk key hlike => exact .mk key (ih (key, _) hm hlike (hwf' (key, _) hm))
  | array items ih =>
    refine Json.readsAlike_other hR hN (by simp [Json.kind]) hlike hwf ?_
    rintro _ _ ⟨⟩ rfl
    cases hlike with
    | array h =>
      have hwf' := Json.wellFormed_array_iff.mp hwf
      exact forall₂_imp_of_mem h fun item hm _ hlike => ih item hm hlike (hwf' item hm)
  | null | bool | number | string =>
    refine Json.readsAlike_other hR hN (by simp [Json.kind]) hlike hwf ?_
    rintro _ _ ⟨⟩

end Trees

/-! ## 3. Documents and datasets -/

/-- A like document is read under the limits that a document is read under, and has its verdicts. -/
theorem Expression.ofJson_like (hN : Number.Likeness N)
    (hR : ∀ {n n'}, R n n' → N (.ofNumeral n) (.ofNumeral n')) {json json' : Json}
    (hlike : Json.Like R json json') (hwf : json.WellFormed) {limits : Limits} {e : Expression}
    (h : (Expression.ofJson json limits).result = .ok e) :
    ∃ e', (Expression.ofJson json' limits).result = .ok e' ∧ e.SameVerdict N e' := by
  rw [Expression.ofJson_result] at h ⊢
  exact (Json.readsAlike hR hN hlike hwf).expression h

/-- A tree that is like a record's is a record's too, and the records are alike. -/
theorem Record.ofJson_like (hR : ∀ {n n'}, R n n' → N (.ofNumeral n) (.ofNumeral n'))
    {json json' : Json} (hlike : Json.Like R json json') (hwf : json.WellFormed) {r : Record}
    (h : Record.ofJson json = .ok r) :
    ∃ r', Record.ofJson json' = .ok r' ∧ Record.Like N r r' := by
  have hvalue := Value.ofJson_like hR hlike
  have hvalueWf := Value.ofJson_wellFormed hwf
  cases hlike with
  | object _ _ =>
    obtain rfl := Except.ok.inj h
    rw [Value.ofJson] at hvalue hvalueWf
    rw [Value.ofJson] at hvalue
    exact ⟨_, rfl, Record.Like.of_object hvalueWf hvalue⟩
  | null | bool | number | string | array => cases h

/-- **The order of keys does not matter.**  Two documents that differ only in the order of keys are
accepted under the same limits, and then they match the same records of datasets that differ only
in the order of keys. -/
theorem Expression.ofJson_reordered {json json' : Json} (hjson : json.Reordered json')
    (hwf : json.WellFormed) {data data' : List Json}
    (hdata : List.Forall₂ Json.Reordered data data') (hdataWf : ∀ item ∈ data, item.WellFormed)
    {dataset : List Record} (hdataset : data.mapM Record.ofJson = .ok dataset) (limits : Limits) :
    ((∃ e, (Expression.ofJson json limits).result = .ok e) ↔
        ∃ e', (Expression.ofJson json' limits).result = .ok e') ∧
      ∃ dataset', data'.mapM Record.ofJson = .ok dataset' ∧
        ∀ e e', (Expression.ofJson json limits).result = .ok e →
          (Expression.ofJson json' limits).result = .ok e' →
            ∀ index, ∃ verdict, (e.matchesAt dataset index limits).result = .ok verdict ∧
              (e'.matchesAt dataset' index limits).result = .ok verdict := by
  have hR : ∀ {n n' : Numeral}, n = n' → Number.ofNumeral n = .ofNumeral n' :=
    fun hn => congrArg _ hn
  constructor
  · constructor
    · rintro ⟨e, he⟩
      obtain ⟨e', he', _⟩ := Expression.ofJson_like Number.likeness_eq hR hjson hwf he
      exact ⟨e', he'⟩
    · rintro ⟨e', he'⟩
      obtain ⟨e, he, _⟩ := Expression.ofJson_like Number.likeness_eq hR (hjson.symm Eq.symm)
        (hjson.wellFormed hwf) he'
      exact ⟨e, he⟩
  have hitems : List.Forall₂ (fun item item' => Json.Reordered item item' ∧ item.WellFormed)
      data data' := forall₂_imp_of_mem hdata fun item hm _ h => ⟨h, hdataWf item hm⟩
  obtain ⟨dataset', hdataset', hrecords⟩ := forall₂_square hitems (mapM_ok_iff.mp hdataset)
    fun hitem hr => Record.ofJson_like hR hitem.1 hitem.2 hr
  refine ⟨dataset', mapM_ok_iff.mpr hdataset', fun e e' he he' => ?_⟩
  obtain ⟨other, hother, hsame⟩ := Expression.ofJson_like Number.likeness_eq hR hjson hwf he
  obtain rfl : other = e' := Except.ok.inj (hother.symm.trans he')
  rw [Expression.ofJson_result] at he he'
  exact hsame.matchesAt_eq ((Json.readsSound json).expression he)
    ((Json.readsSound json').expression he') hrecords

/-- An object that holds another one inside an array, and one more member. -/
def Json.tagged (key : String) (json : Json) : Json :=
  .object [("tags", .array [.object [("a", .null), ("b", .bool true)]]), (key, json)]

/-- The same with the keys of both objects the other way round. -/
def Json.taggedSwapped (key : String) (json : Json) : Json :=
  .object [(key, json), ("tags", .array [.object [("b", .bool true), ("a", .null)]])]

theorem Json.tagged_reordered (key : String) {json json' : Json} (h : json.Reordered json') :
    (Json.tagged key json).Reordered (Json.taggedSwapped key json') := by
  have hinner : Json.Reordered (.object [("a", .null), ("b", .bool true)])
      (.object [("b", .bool true), ("a", .null)]) :=
    .object (.cons (.mk _ .null) (.cons (.mk _ (.bool true)) .nil)) (.swap ..)
  exact .object (.cons (.mk _ (.array (.cons hinner .nil))) (.cons (.mk key h) .nil)) (.swap ..)

theorem Expression.ofJson_reordered_tagged :
    ∃ e e' dataset dataset',
      (Expression.ofJson (Json.tagged "$NOT" (.object [("name", .string "x")])) {}).result = .ok e ∧
      (Expression.ofJson (Json.taggedSwapped "$NOT" (.object [("name", .string "x")])) {}).result
        = .ok e' ∧
      [Json.tagged "name" (.string "y")].mapM Record.ofJson = .ok dataset ∧
      [Json.taggedSwapped "name" (.string "y")].mapM Record.ofJson = .ok dataset' ∧
      ∀ index, ∃ verdict, (e.matchesAt dataset index {}).result = .ok verdict ∧
        (e'.matchesAt dataset' index {}).result = .ok verdict := by
  have hexcluded : Json.Reordered (.object [("name", .string "x")])
      (.object [("name", .string "x")]) := .object (.cons (.mk _ (.string "x")) .nil) (.refl _)
  obtain ⟨hread, dataset', hdataset', hverdicts⟩ := Expression.ofJson_reordered
    (Json.tagged_reordered "$NOT" hexcluded)
    (by simp [Json.tagged, Json.WellFormed, Json.membersWellFormed, Json.itemsWellFormed,
      Entries.Distinct, Entries.names])
    (.cons (Json.tagged_reordered "name" (.string "y")) .nil)
    (by simp [Json.tagged, Json.WellFormed, Json.membersWellFormed, Json.itemsWellFormed,
      Entries.Distinct, Entries.names])
    rfl {}
  have hok : (Expression.ofJson (Json.tagged "$NOT" (.object [("name", .string "x")]))
      {}).result.isOk = true := by decide
  obtain ⟨e, he⟩ := isOk_iff.mp hok
  obtain ⟨e', he'⟩ := hread.mp ⟨e, he⟩
  exact ⟨e, e', _, dataset', he, he', rfl, hdataset', hverdicts e e' he he'⟩

end RecordFilter
