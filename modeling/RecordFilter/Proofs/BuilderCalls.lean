/-
# Canonical builder chains

An operator set or an expression is made by a chain of calls, and it depends on the last call for
each operator, each combinator and each field alone.

A chain on operator sets may have calls in it that fail, since a pattern need not compile; such a
call leaves the set as it was, so it does not count (`OperatorSet.ofCalls_eq`).  Of the others the
last one for each slot is kept (`OperatorSet.Call.lasts`).  The kept calls are about different slots,
so they can be made in any order, and what they make is what the chain makes
(`OperatorSet.ofCalls_of_perm`).

In an expression the order of the calls shows in one way: a field has the place of its first call,
with the clause of its last one (`Expression.clauses_ofParts`).  That is the order in which the
clauses are evaluated.
-/
import RecordFilter.Proofs.Members

namespace RecordFilter

/-! ## 1. Calls on operator sets -/

/-- A setting is not found when there is a later one of its slot. -/
theorem Setting.find?_replaced {settings : List Setting} {s : Setting}
    (h : s.slot ∈ settings.map slot) (slot : Slot) :
    (settings.reverse ++ [s]).find? (fun s => s.slot = slot) =
      settings.reverse.find? fun s => s.slot = slot := by
  rw [List.find?_append]
  cases hfind : settings.reverse.find? fun s => s.slot = slot with
  | some t => rfl
  | none =>
    obtain ⟨t, ht, hsame⟩ := List.mem_map.mp h
    have hno := List.find?_eq_none.mp hfind t (List.mem_reverse.mpr ht)
    rw [hsame] at hno
    rw [Option.none_or]
    simpa using hno

/-- A call of the builder: a setting, or the text of a pattern. -/
inductive OperatorSet.Call where
  | set (s : Setting)
  | pattern (source : String)

namespace OperatorSet

/-- The set after a call. -/
def call (ops : OperatorSet) : Call → Except Error OperatorSet
  | .set s => .ok (ops.set s)
  | .pattern source =>
    match Pattern.compile? source with
    | some p => .ok (ops.set (.matchesPattern p))
    | none => .error (.invalidPattern source)

/-- The set that a chain of calls makes, where a call that fails leaves the set as it was. -/
def ofCalls (calls : List Call) : OperatorSet :=
  calls.foldl (fun ops c => (ops.call c).toOption.getD ops) empty

namespace Call

/-- What a call sets; nothing, when it fails. -/
def setting? : Call → Option Setting
  | set s => some s
  | pattern source => (Pattern.compile? source).map .matchesPattern

/-- The slot that a call sets. -/
def slot? (call : Call) : Option Slot := call.setting?.map Setting.slot

/-- What a call turns the flag to that ignores case. -/
def flag? : Call → Option Bool
  | set (.caseInsensitive on) => some on
  | _ => none

/-- Does a chain of calls set an operator?  Any call about it does, but the flag that ignores case is
as its last call says. -/
def configures (calls : List Call) (op : Operator) : Bool :=
  if op = .caseInsensitive then ((calls.filterMap flag?).getLast?).getD false
  else calls.any fun call => call.slot? = some (.operator op)

/-- The calls of a chain that no later one for the same slot replaces, without those that fail. -/
def lasts : List Call → List Call
  | [] => []
  | call :: rest =>
    if call.slot? = none ∨ call.slot? ∈ rest.map slot? then lasts rest else call :: lasts rest

variable {calls : List Call}

theorem settings_map_slot (calls : List Call) :
    (calls.filterMap setting?).map Setting.slot = calls.filterMap slot? :=
  List.map_filterMap

theorem mem_slots_iff {slot : Slot} :
    slot ∈ (calls.filterMap setting?).map Setting.slot ↔ some slot ∈ calls.map slot? := by
  rw [settings_map_slot, List.mem_filterMap, List.mem_map]

theorem mem_of_mem_lasts {call : Call} (h : call ∈ lasts calls) : call ∈ calls := by
  induction calls with
  | nil => exact h
  | cons c rest ih =>
    rw [lasts] at h
    split at h
    next => exact List.mem_cons_of_mem _ (ih h)
    next =>
      rcases List.mem_cons.mp h with rfl | h
      · exact List.mem_cons_self
      · exact List.mem_cons_of_mem _ (ih h)

/-- One call is kept for each slot. -/
theorem slots_lasts_nodup (calls : List Call) : ((lasts calls).filterMap slot?).Nodup := by
  induction calls with
  | nil => exact List.nodup_nil
  | cons call rest ih =>
    rw [lasts]
    split
    next => exact ih
    next hkept =>
      obtain ⟨hslot, hlast⟩ := not_or.mp hkept
      obtain ⟨slot, hslot⟩ := Option.ne_none_iff_exists'.mp hslot
      rw [List.filterMap_cons_some hslot]
      refine List.nodup_cons.mpr ⟨fun hmem => ?_, ih⟩
      obtain ⟨c, hc, hsame⟩ := List.mem_filterMap.mp hmem
      exact hlast (List.mem_map.mpr ⟨c, mem_of_mem_lasts hc, hsame.trans hslot.symm⟩)

/-- The call that is kept for a slot is the last one for it. -/
theorem find?_lasts (calls : List Call) (slot : Slot) :
    ((lasts calls).filterMap setting?).reverse.find? (fun s => s.slot = slot) =
      (calls.filterMap setting?).reverse.find? (fun s => s.slot = slot) := by
  induction calls with
  | nil => rfl
  | cons call rest ih =>
    rw [lasts]
    cases hset : call.setting? with
    | none =>
      have hslot : call.slot? = none := by rw [slot?, hset]; rfl
      rw [if_pos (.inl hslot), List.filterMap_cons_none hset]
      exact ih
    | some s =>
      have hslot : call.slot? = some s.slot := by rw [slot?, hset]; rfl
      rw [List.filterMap_cons_some hset, List.reverse_cons]
      split
      next hreplaced =>
        have hlater := hreplaced.resolve_left (by simp [hslot])
        rw [hslot, ← mem_slots_iff] at hlater
        rw [ih, Setting.find?_replaced hlater]
      next =>
        rw [List.filterMap_cons_some hset, List.reverse_cons, List.find?_append, List.find?_append,
          ih]

end Call

variable {calls kept : List Call}

/-- A call fails just when it has a pattern that does not compile. -/
theorem call_error_iff {ops : OperatorSet} {c : Call} : (∃ err, ops.call c = .error err) ↔
    ∃ source, c = .pattern source ∧ Pattern.compile? source = none := by
  cases c with
  | set s => simp [call]
  | pattern source => cases hcompile : Pattern.compile? source <;> simp [call, hcompile]

/-- **A chain makes what its settings make**, and a call that fails sets nothing. -/
theorem ofCalls_eq (calls : List Call) :
    ofCalls calls = ofSettings (calls.filterMap Call.setting?) := by
  rw [ofCalls, ofSettings, List.foldl_filterMap]
  congr 1
  funext ops c
  cases c with
  | set s => rfl
  | pattern source =>
    cases hcompile : Pattern.compile? source <;>
      simp [call, Call.setting?, hcompile, Except.toOption]

/-- **The kept calls make what the chain makes, in any order.** -/
theorem ofCalls_of_perm (h : kept.Perm (Call.lasts calls)) : ofCalls kept = ofCalls calls := by
  have hkeys : (((Call.lasts calls).filterMap Call.setting?).map Setting.key).Nodup := by
    have hslots := (Call.slots_lasts_nodup calls).map Slot.key_injective
    rwa [← Call.settings_map_slot, List.map_map] at hslots
  have hlasts : ofSettings ((Call.lasts calls).filterMap Call.setting?) =
      ofSettings (calls.filterMap Call.setting?) :=
    ext_get? fun slot => by rw [get?_ofSettings, get?_ofSettings, Call.find?_lasts]
  rw [ofCalls_eq, ofCalls_eq, ← hlasts]
  exact (setAll_perm hkeys (h.symm.filterMap _) empty).symm

/-- A slot other than that of the flag holds something when a call sets it. -/
theorem isSome_get?_ofCalls_iff {slot : Slot} (hflag : slot ≠ .operator .caseInsensitive) :
    ((ofCalls calls).get? slot).isSome = true ↔ ∃ c ∈ calls, c.slot? = some slot := by
  have hcalled : (∃ c ∈ calls, c.slot? = some slot) ↔
      slot ∈ (calls.filterMap Call.setting?).map Setting.slot := by
    rw [Call.mem_slots_iff, List.mem_map]
  rw [hcalled, ofCalls_eq, get?_ofSettings]
  cases hfind : (calls.filterMap Call.setting?).reverse.find? fun s => s.slot = slot with
  | none =>
    have hno := List.find?_eq_none.mp hfind
    simpa using hno
  | some s =>
    have hslot : s.slot = slot := by simpa using List.find?_some hfind
    have hmem := List.mem_reverse.mp (List.mem_of_find?_eq_some hfind)
    rw [Option.bind_some, Setting.kept_of_slot hslot hflag]
    exact iff_of_true rfl (List.mem_map.mpr ⟨s, hmem, hslot⟩)

/-- Case is ignored when the last call about it says so. -/
theorem caseInsensitive_ofCalls (calls : List Call) :
    (ofCalls calls).conditions.caseInsensitive =
      ((calls.filterMap Call.flag?).getLast?).getD false := by
  induction calls using List.reverseRecOn with
  | nil => rfl
  | append_singleton rest c ih =>
    have hlast : ofCalls (rest ++ [c]) = ((ofCalls rest).call c).toOption.getD (ofCalls rest) :=
      List.foldl_append
    rw [hlast, List.filterMap_append]
    cases c with
    | set s =>
      cases s with
      | caseInsensitive on => simp [call, set, Except.toOption, Call.flag?]
      | _ => simpa [call, set, Except.toOption, Call.flag?] using ih
    | pattern source =>
      cases hcompile : Pattern.compile? source <;>
        simpa [call, set, Except.toOption, Call.flag?, hcompile] using ih

/-- **The operators that are listed are those that are called**, the flag counting by its last
call. -/
theorem configured_ofCalls (calls : List Call) :
    (ofCalls calls).configured = Operator.all.filter (Call.configures calls) := by
  rw [configured_eq]
  refine List.filter_congr fun op _ => ?_
  unfold Call.configures
  split
  next h => rw [h, sets_caseInsensitive, caseInsensitive_ofCalls]
  next h =>
    have hflag : Slot.operator op ≠ .operator .caseInsensitive := fun e => h (Slot.operator.inj e)
    rw [sets, Bool.eq_iff_iff, isSome_get?_ofCalls_iff hflag, List.any_eq_true]
    simp only [decide_eq_true_eq]

theorem combinators_isEmpty_iff (ops : OperatorSet) : ops.combinators.isEmpty = true ↔
    ∀ c, (ops.get? (.combinator c)).isSome = false := by
  obtain ⟨conditions, length, not, and, or⟩ := ops
  constructor
  · intro h c
    simp only [Combinators.isEmpty, Bool.and_eq_true, Option.isNone_iff_eq_none] at h
    obtain ⟨⟨rfl, rfl⟩, rfl⟩ := h
    cases c <;> rfl
  · intro h
    have hslots := And.intro (h .not) (And.intro (h .and) (h .or))
    simpa [get?, Combinators.get?, Combinators.isEmpty, and_assoc] using hslots

/-- Nothing is set when no operator is listed and no call is about a combinator. -/
theorem isEmpty_ofCalls_iff (calls : List Call) : (ofCalls calls).isEmpty = true ↔
    (ofCalls calls).configured = [] ∧ ∀ call ∈ calls, ∀ c, call.slot? ≠ some (.combinator c) := by
  have hcombinators : (ofCalls calls).combinators.isEmpty = true ↔
      ∀ call ∈ calls, ∀ c, call.slot? ≠ some (.combinator c) := by
    have hslot : ∀ c, ((ofCalls calls).get? (.combinator c)).isSome = true ↔
        ∃ call ∈ calls, call.slot? = some (.combinator c) :=
      fun c => isSome_get?_ofCalls_iff (by simp)
    simp only [combinators_isEmpty_iff, ← Bool.not_eq_true, hslot, not_exists, not_and]
    exact ⟨fun h call hcall c => h c call hcall, fun h c call hcall => h call hcall c⟩
  rw [isEmpty, Bool.and_eq_true, List.isEmpty_iff, hcombinators]

end OperatorSet

/-! ## 2. Tables -/

namespace Entries

variable {α : Type}

theorem ofList_concat (entries : List (String × α)) (e : String × α) :
    ofList (entries ++ [e]) = put (ofList entries) e.1 e.2 :=
  List.foldl_append

/-- An entry that is put later replaces one under the same name. -/
theorem get?_ofList (entries : List (String × α)) (key : String) :
    get? (ofList entries) key = ((entries.filter fun e => e.1 = key).getLast?).map Prod.snd := by
  induction entries using List.reverseRecOn with
  | nil => rfl
  | append_singleton rest e ih =>
    rw [ofList_concat, get?_put, List.filter_append]
    by_cases h : e.1 = key
    · simp [h]
    · simp [h, ih]

/-- The names stand where they came first. -/
theorem names_ofList (entries : List (String × α)) :
    names (ofList entries) = (entries.map Prod.fst).eraseDups := by
  induction entries using List.reverseRecOn with
  | nil => rfl
  | append_singleton rest e ih =>
    have hsingle : [e.1].eraseDups = [e.1] := rfl
    rw [ofList_concat, names_put, ih, List.map_append, List.eraseDups_append]
    by_cases h : e.1 ∈ rest.map Prod.fst
    · simp [h, List.removeAll]
    · simp [h, List.removeAll, hsingle]

/-- A table is given by its names and what is found under them. -/
theorem eq_filterMap_names {entries : Entries α} (h : Distinct entries) :
    entries = (names entries).filterMap fun name => (get? entries name).map (Prod.mk name) := by
  have hfound : ∀ e ∈ entries, (get? entries e.1).map (Prod.mk e.1) = some e := by
    intro e he
    rw [(get?_eq_some_iff h).mpr he]
    rfl
  rw [names, List.filterMap_map]
  conv_lhs => rw [← List.filterMap_some (l := entries)]
  exact List.filterMap_congr fun e he => (hfound e he).symm

end Entries

/-! ## 3. Calls on expressions -/

namespace Expression

/-- The operand that a part sets for a combinator. -/
def Part.operandOf? (c : Combinator) : Part → Option Operand
  | .clause _ _ => none
  | .operand c' x => if c' = c then some x else none

/-- The expression that a chain of calls makes, each of which adds a part. -/
def ofParts (parts : List Part) : Expression := parts.foldl add empty

theorem ofParts_concat (parts : List Part) (part : Part) :
    ofParts (parts ++ [part]) = (ofParts parts).add part :=
  List.foldl_append

/-- Calls about combinators do not move the clauses. -/
theorem clauses_ofParts (parts : List Part) :
    (ofParts parts).clauses = Entries.ofList (parts.filterMap Part.clause?) := by
  induction parts using List.reverseRecOn with
  | nil => rfl
  | append_singleton rest part ih =>
    rw [ofParts_concat, List.filterMap_append]
    cases part with
    | operand c x =>
      have hnone : [Part.operand c x].filterMap Part.clause? = [] := rfl
      rw [hnone, List.append_nil]
      exact ih
    | clause name clause =>
      have hput : ((ofParts rest).field name clause).clauses =
          Entries.put (ofParts rest).clauses name clause := rfl
      rw [add, hput, ih, ← Entries.ofList_concat _ (name, clause)]
      rfl

theorem get?_ofParts (parts : List Part) (c : Combinator) :
    (ofParts parts).combinators.get? c = (parts.filterMap (Part.operandOf? c)).getLast? := by
  induction parts using List.reverseRecOn with
  | nil => cases c <;> rfl
  | append_singleton rest part ih =>
    rw [ofParts_concat, List.filterMap_append]
    cases part with
    | clause name clause => simpa [add, field, Part.operandOf?] using ih
    | operand c' x =>
      rw [add, combine, Combinators.get?_set]
      by_cases h : c' = c
      · simp [h, Part.operandOf?]
      · simpa [h, Part.operandOf?] using ih

theorem ext_parts : ∀ {e e' : Expression}, e.clauses = e'.clauses →
    e.combinators = e'.combinators → e = e'
  | ⟨_, _⟩, ⟨_, _⟩, rfl, rfl => rfl

/-- **What a chain makes depends on its calls about fields and on its last operands.** -/
theorem ofParts_congr {parts parts' : List Part}
    (hfields : parts'.filterMap Part.clause? = parts.filterMap Part.clause?)
    (hoperands : ∀ c, (parts'.filterMap (Part.operandOf? c)).getLast? =
      (parts.filterMap (Part.operandOf? c)).getLast?) : ofParts parts' = ofParts parts := by
  have hclauses : (ofParts parts').clauses = (ofParts parts).clauses := by
    rw [clauses_ofParts, clauses_ofParts, hfields]
  have hcombinators : (ofParts parts').combinators = (ofParts parts).combinators :=
    Combinators.ext_get? fun c => by rw [get?_ofParts, get?_ofParts, hoperands]
  exact ext_parts hclauses hcombinators

/-- The clauses of a table are evaluated name by name. -/
theorem evaluate_names {e : Expression} (h : Entries.Distinct e.clauses) (scope : Scope) :
    e.evaluate scope =
      (Evaluation.every ((Entries.names e.clauses).filterMap fun name =>
        (Entries.get? e.clauses name).map fun clause => clause.evaluate name scope)).andThen
          fun _ => e.combinators.evaluate scope := by
  rw [evaluate_eq]
  conv_lhs => rw [Entries.eq_filterMap_names h, List.map_filterMap]
  simp only [Option.map_map]
  rfl

end Expression

/-! ## 4. Canonical chains -/

/-- **Chains of builder calls have a canonical form.**  On an operator set, the last calls for each
operator and combinator make, in any order, what the whole chain makes; only the calls with a pattern
that does not compile fail, and these do not count.  The operators that are called are listed in
their order, the flag that ignores case if its last call turns it on, and the set is empty when this
list is and no combinator is called.  On an expression, each field has one clause, the last that was
set, in the place of its first call, and each combinator its last operand.  So the clauses are
evaluated in the order in which their fields were first set; how the calls about combinators lie
between those about fields does not matter. -/
theorem builderChains_canonical :
    (∀ (ops : OperatorSet) (call : OperatorSet.Call), (∃ err, ops.call call = .error err) ↔
      ∃ source, call = .pattern source ∧ Pattern.compile? source = none) ∧
    (∀ calls : List OperatorSet.Call,
      let ops := OperatorSet.ofCalls calls
      (∀ kept : List OperatorSet.Call, kept.Perm (OperatorSet.Call.lasts calls) →
        OperatorSet.ofCalls kept = ops) ∧
      ops.configured = Operator.all.filter (OperatorSet.Call.configures calls) ∧
      (ops.isEmpty = true ↔
        ops.configured = [] ∧ ∀ call ∈ calls, ∀ c, call.slot? ≠ some (.combinator c))) ∧
    ∀ parts : List Expression.Part,
      let e := Expression.ofParts parts
      let fields := parts.filterMap Expression.Part.clause?
      let names := (fields.map Prod.fst).eraseDups
      let last := fun name => ((fields.filter fun field => field.1 = name).getLast?).map Prod.snd
      Entries.names e.clauses = names ∧ names.Nodup ∧
      (∀ name, Entries.get? e.clauses name = last name) ∧
      (∀ c, e.combinators.get? c =
        (parts.filterMap (Expression.Part.operandOf? c)).getLast?) ∧
      (∀ scope, e.evaluate scope =
        (Evaluation.every (names.filterMap fun name =>
          (last name).map fun clause => clause.evaluate name scope)).andThen
            fun _ => e.combinators.evaluate scope) ∧
      ∀ parts' : List Expression.Part, parts'.filterMap Expression.Part.clause? = fields →
        (∀ c, (parts'.filterMap (Expression.Part.operandOf? c)).getLast? =
          (parts.filterMap (Expression.Part.operandOf? c)).getLast?) →
        Expression.ofParts parts' = e := by
  refine ⟨fun ops call => OperatorSet.call_error_iff,
    fun calls => ⟨fun kept h => OperatorSet.ofCalls_of_perm h, OperatorSet.configured_ofCalls calls,
      OperatorSet.isEmpty_ofCalls_iff calls⟩, ?_⟩
  intro parts e fields names last
  have hclauses : e.clauses = Entries.ofList fields := Expression.clauses_ofParts parts
  have hdistinct : Entries.Distinct e.clauses := hclauses ▸ Entries.distinct_ofList fields
  have hnames : Entries.names e.clauses = names := by
    rw [hclauses]
    exact Entries.names_ofList fields
  have hlast : ∀ name, Entries.get? e.clauses name = last name := by
    intro name
    rw [hclauses]
    exact Entries.get?_ofList fields name
  refine ⟨hnames, hnames ▸ hdistinct, hlast, Expression.get?_ofParts parts, fun scope => ?_,
    fun parts' hfields hoperands => Expression.ofParts_congr hfields hoperands⟩
  have hevaluate := Expression.evaluate_names hdistinct scope
  simp only [hnames, hlast] at hevaluate
  exact hevaluate

/-- A chain with a pattern that does not compile, which sets `equals` and the flag twice, and one
that sets a field and a combinator twice. -/
theorem builderChains_canonical_twice :
    let a : Value := .string "a"
    let b : Value := .string "b"
    let calls : List OperatorSet.Call := [.pattern "(", .set (.equals a),
      .set (.caseInsensitive true), .set (.includes "b"), .set (.equals b),
      .set (.caseInsensitive false)]
    let kept : List OperatorSet.Call := [.set (.equals b), .set (.includes "b"),
      .set (.caseInsensitive false)]
    let parts : List Expression.Part := [.operand .not (.many []), .clause "n" (.literal a),
      .clause "m" (.literal a), .clause "n" (.literal b), .operand .not (.single .empty)]
    let parts' : List Expression.Part := [.clause "n" (.literal a), .operand .not (.single .empty),
      .clause "m" (.literal a), .clause "n" (.literal b)]
    (∃ err, OperatorSet.empty.call (.pattern "(") = .error err) ∧
    kept.Perm (OperatorSet.Call.lasts calls) ∧
    OperatorSet.ofCalls kept = OperatorSet.ofCalls calls ∧
    (OperatorSet.ofCalls calls).configured = [.equals, .includes] ∧
    Entries.names (Expression.ofParts parts).clauses = ["n", "m"] ∧
    Expression.ofParts parts' = Expression.ofParts parts := by
  intro a b calls kept parts parts'
  obtain ⟨hfails, hcalls, hparts⟩ := builderChains_canonical
  obtain ⟨hkept, hconfigured, -⟩ := hcalls calls
  obtain ⟨hnames, -, -, -, -, hsame⟩ := hparts parts
  have hopen : Pattern.compile? "(" = none :=
    Option.isNone_iff_eq_none.mp (by decide +kernel)
  have hperm : kept.Perm (OperatorSet.Call.lasts calls) := by
    have hslot : (OperatorSet.Call.pattern "(").slot? = none := by
      rw [OperatorSet.Call.slot?, OperatorSet.Call.setting?, hopen]
      rfl
    have hlasts : OperatorSet.Call.lasts calls = [.set (.includes "b"), .set (.equals b),
        .set (.caseInsensitive false)] := by
      rw [OperatorSet.Call.lasts, if_pos (.inl hslot)]
      rfl
    rw [hlasts]
    exact .swap _ _ _
  have hlisted : Operator.all.filter (OperatorSet.Call.configures calls) =
      [.equals, .includes] := by decide +kernel
  refine ⟨(hfails .empty _).mpr ⟨"(", rfl, hopen⟩, hperm, hkept kept hperm,
    hconfigured.trans hlisted, hnames, hsame parts' rfl fun c => ?_⟩
  cases c <;> rfl

end RecordFilter
