/-
# Named entries in insertion order

Records, objects and the clauses of an expression are lists of named entries.  `put` keeps the
place of a name that is already there and gives it the new entry; a new name goes to the end.
Every list built by `put` alone names nothing twice (`distinct_ofList`), and reading back after
`put` is what one expects of a table (`get?_put`).
-/
namespace RecordFilter

/-- Entries by name, in the order in which the names came. -/
abbrev Entries (α : Type) := List (String × α)

namespace Entries

variable {α β : Type}

/-- The entry under a name. -/
def get? : Entries α → String → Option α
  | [], _ => none
  | (k, a) :: rest, key => if k = key then some a else get? rest key

/-- The names, in order. -/
def names (entries : Entries α) : List String := entries.map Prod.fst

/-- Is there an entry under this name? -/
def contains (entries : Entries α) (key : String) : Bool := (get? entries key).isSome

/-- Sets the entry under a name, in place when the name is there and at the end otherwise. -/
def put : Entries α → String → α → Entries α
  | [], key, a => [(key, a)]
  | (k, b) :: rest, key, a => if k = key then (key, a) :: rest else (k, b) :: put rest key a

/-- The table that a list of entries makes when they are put one after another. -/
def ofList (entries : List (String × α)) : Entries α :=
  entries.foldl (fun acc (key, a) => put acc key a) []

/-- No name occurs twice. -/
def Distinct (entries : Entries α) : Prop := (names entries).Nodup

/-! ## 1. Reading back -/

@[simp] theorem get?_nil (key : String) : get? ([] : Entries α) key = none := rfl

theorem get?_cons (k : String) (a : α) (rest : Entries α) (key : String) :
    get? ((k, a) :: rest) key = if k = key then some a else get? rest key := rfl

theorem get?_put (entries : Entries α) (key : String) (a : α) (other : String) :
    get? (put entries key a) other = if key = other then some a else get? entries other := by
  induction entries with
  | nil => simp [put, get?_cons]
  | cons e rest ih =>
    obtain ⟨k, b⟩ := e
    by_cases hk : k = key
    · subst hk
      by_cases ho : k = other <;> simp [put, get?_cons, ho]
    · by_cases ho : key = other
      · subst ho
        simp [put, get?_cons, hk, ih]
      · simp [put, get?_cons, hk, ih, ho]

theorem mem_put {entries : Entries α} {key : String} {a : α} {entry : String × α}
    (h : entry ∈ put entries key a) : entry = (key, a) ∨ entry ∈ entries := by
  induction entries with
  | nil => exact .inl (List.mem_singleton.mp h)
  | cons e rest ih =>
    obtain ⟨k, b⟩ := e
    rw [put] at h
    split at h
    next => exact (List.mem_cons.mp h).imp_right (List.mem_cons_of_mem _)
    next =>
      rcases List.mem_cons.mp h with rfl | h
      · exact .inr List.mem_cons_self
      · exact (ih h).imp_right (List.mem_cons_of_mem _)

/-- Where no name occurs twice, an entry is found under its name. -/
theorem get?_eq_some_iff {entries : Entries α} (h : Distinct entries) {key : String} {a : α} :
    get? entries key = some a ↔ (key, a) ∈ entries := by
  induction entries with
  | nil => simp
  | cons e rest ih =>
    obtain ⟨k, b⟩ := e
    obtain ⟨hk, hrest⟩ := List.nodup_cons.mp h
    rw [get?_cons, List.mem_cons, Prod.mk.injEq]
    split
    next heq =>
      subst heq
      have hno : (k, a) ∉ rest := fun hm => hk (List.mem_map.mpr ⟨_, hm, rfl⟩)
      simp [hno, eq_comm]
    next hne => simp [ih hrest, Ne.symm hne]

/-! ## 2. The names -/

theorem names_put (entries : Entries α) (key : String) (a : α) :
    names (put entries key a) =
      if key ∈ names entries then names entries else names entries ++ [key] := by
  induction entries with
  | nil => simp [put, names]
  | cons e rest ih =>
    obtain ⟨k, b⟩ := e
    by_cases hk : k = key
    · subst hk; simp [put, names]
    · simp only [put, hk, if_false, names, List.map_cons, List.mem_cons]
      have ih' : List.map Prod.fst (put rest key a) =
          if key ∈ List.map Prod.fst rest then List.map Prod.fst rest
          else List.map Prod.fst rest ++ [key] := ih
      rw [ih']
      by_cases hm : key ∈ List.map Prod.fst rest <;> simp [hm, Ne.symm hk]

theorem distinct_put {entries : Entries α} (h : Distinct entries) (key : String) (a : α) :
    Distinct (put entries key a) := by
  unfold Distinct
  rw [names_put]
  split
  next => exact h
  next hm =>
    refine List.nodup_append.2 ⟨h, by simp, ?_⟩
    intro x hx y hy
    simp only [List.mem_singleton] at hy
    subst hy
    exact fun e => hm (e ▸ hx)

theorem distinct_ofList (entries : List (String × α)) : Distinct (ofList entries) := by
  suffices ∀ acc : Entries α, Distinct acc →
      Distinct (entries.foldl (fun acc (key, a) => put acc key a) acc) from
    this [] List.nodup_nil
  induction entries with
  | nil => exact fun acc h => h
  | cons e rest ih => exact fun acc h => ih _ (distinct_put h e.1 e.2)

theorem mem_ofList {entries : List (String × α)} {entry : String × α}
    (h : entry ∈ ofList entries) : entry ∈ entries := by
  suffices ∀ acc : Entries α,
      entry ∈ entries.foldl (fun acc (key, a) => put acc key a) acc →
        entry ∈ acc ∨ entry ∈ entries from
    (this [] h).resolve_left List.not_mem_nil
  clear h
  induction entries with
  | nil => exact fun acc h => .inl h
  | cons e rest ih =>
    intro acc h
    rcases ih _ h with h | h
    · rcases mem_put h with rfl | h
      · exact .inr List.mem_cons_self
      · exact .inl h
    · exact .inr (List.mem_cons_of_mem _ h)

end Entries

end RecordFilter
