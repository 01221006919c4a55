/-
# Results in a row

Reading and validating go through the parts of a tree one after the other and end at the first
fault.  Here is what such a row of results says about its members: it succeeds when all of them do
(`isOk_bind_iff` where only success matters, `bind_eq_ok_iff` and `then_ok_iff` where the results
do).  What is refused for its depth alone is refused by `checkDepth`.
-/
import Mathlib.Data.List.Forall2
import RecordFilter.Expression.Validation

namespace RecordFilter

/-! ## 1. Rows -/

section Results

variable {ε α β : Type}

@[simp] theorem isOk_ok (a : α) : (Except.ok a : Except ε α).isOk = true := rfl

@[simp] theorem isOk_error (e : ε) : (Except.error e : Except ε α).isOk = false := rfl

@[simp] theorem isOk_map (f : α → β) (x : Except ε α) : (f <$> x).isOk = x.isOk := by
  cases x <;> rfl

theorem isOk_iff {x : Except ε α} : x.isOk = true ↔ ∃ a, x = .ok a := by
  cases x <;> simp

/-- If the rest succeeds or not whatever the first result, the two are independent. -/
theorem isOk_bind_iff {x : Except ε α} {next : α → Except ε β} {R : Prop}
    (h : ∀ a, (next a).isOk = true ↔ R) :
    (x >>= next).isOk = true ↔ x.isOk = true ∧ R := by
  cases x with
  | error e => simp [bind, Except.bind]
  | ok a => simpa [bind, Except.bind] using h a

theorem isOk_return_iff {x : Except ε α} {f : α → β} :
    (do return f (← x) : Except ε β).isOk = true ↔ x.isOk = true := by
  cases x <;> rfl

theorem not_isOk_error {e : ε} : ¬ (Except.error e : Except ε α).isOk = true := by simp

theorem bind_eq_ok_iff {x : Except ε α} {next : α → Except ε β} {b : β} :
    (x >>= next) = .ok b ↔ ∃ a, x = .ok a ∧ next a = .ok b := by
  cases x <;> simp [bind, Except.bind]

theorem return_eq_ok_iff {x : Except ε α} {f : α → β} {b : β} :
    (do return f (← x) : Except ε β) = .ok b ↔ ∃ a, x = .ok a ∧ f a = b := by
  cases x <;> simp [bind, Except.bind, pure, Except.pure]

/-- A list goes through a check when every item does. -/
theorem mapM_ok_iff {f : α → Except ε β} : ∀ {as : List α} {bs : List β},
    as.mapM f = .ok bs ↔ List.Forall₂ (fun a b => f a = .ok b) as bs
  | [], bs => by simp [pure, Except.pure, eq_comm]
  | a :: as, bs => by
    rw [List.mapM_cons, bind_eq_ok_iff]
    constructor
    · rintro ⟨b, hb, h⟩
      obtain ⟨rest, hrest, rfl⟩ := return_eq_ok_iff.mp h
      exact .cons hb (mapM_ok_iff.mp hrest)
    · rintro (_ | ⟨hb, hrest⟩)
      exact ⟨_, hb, return_eq_ok_iff.mpr ⟨_, mapM_ok_iff.mpr hrest, rfl⟩⟩

/-- What comes after a check has its result when the check passes. -/
theorem then_ok_iff {x : Except ε Unit} {next : Except ε β} {b : β} :
    (do x; next) = .ok b ↔ x = .ok () ∧ next = .ok b := by
  cases x <;> simp [bind, Except.bind]

end Results

/-! ## 2. Depths -/

theorem checkDepth_ok_iff {limit depth : Nat} :
    checkDepth limit depth = .ok () ↔ depth ≤ limit := by
  unfold checkDepth
  split
  next h => exact ⟨fun hok => by simp at hok, fun hle => absurd h (Nat.not_lt.mpr hle)⟩
  next h => exact ⟨fun _ => Nat.not_lt.mp h, fun _ => rfl⟩

theorem checkDepth_exceeded {limit depth : Nat} (h : ¬ depth ≤ limit) :
    checkDepth limit depth = .error (.depthExceeded limit) := by
  rw [checkDepth, if_pos (Nat.not_le.mp h)]

theorem checkDepth_isOk_iff {limit depth : Nat} :
    (checkDepth limit depth).isOk = true ↔ depth ≤ limit := by
  rw [isOk_iff, ← checkDepth_ok_iff]
  exact ⟨fun ⟨_, h⟩ => h, fun h => ⟨(), h⟩⟩

theorem checkDepth_then_ok_iff {α : Type} {limit depth : Nat} {next : Except Error α} {a : α} :
    (do checkDepth limit depth; next) = .ok a ↔ depth ≤ limit ∧ next = .ok a := by
  rw [then_ok_iff, checkDepth_ok_iff]

/-- What lies at a depth is read after the depth is checked. -/
theorem checkDepth_bind_isOk_iff {α : Type} {limit depth : Nat} {next : Except Error α} :
    (do checkDepth limit depth; next).isOk = true ↔ depth ≤ limit ∧ next.isOk = true := by
  rw [isOk_bind_iff fun _ => Iff.rfl, checkDepth_isOk_iff]

/-- Where what is read within the limit succeeds exactly under a condition that implies the limit,
the condition alone decides. -/
theorem checked_isOk_iff {α : Type} {limit depth : Nat} {next : Except Error α} {R : Prop}
    (hR : R → depth ≤ limit) (h : depth ≤ limit → (next.isOk = true ↔ R)) :
    (do checkDepth limit depth; next).isOk = true ↔ R := by
  rw [checkDepth_bind_isOk_iff]
  exact ⟨fun ⟨hd, hok⟩ => (h hd).mp hok, fun hr => ⟨hR hr, (h (hR hr)).mpr hr⟩⟩

end RecordFilter
