import Mathlib.Data.List.Basic

/-!
# Partial updates

A row is a value for each of its columns, and an `Update` writes some of the columns and
leaves the others alone. Updates that are applied one after the other leave in each
column what the last of them that writes the column wrote (`applyAll_eq`). So the same
updates give the same row in two orders exactly where the two orders agree on the last
write of every column (`applyAll_eq_iff`).
-/

namespace Updates

variable {κ : Type} {V : κ → Type}

/-- What an update writes to each column; `none` leaves the column alone. -/
abbrev Update (V : κ → Type) := ∀ k, Option (V k)

/-- The update that writes nothing. -/
def Update.nothing : Update V := fun _ => none

def apply (row : ∀ k, V k) (u : Update V) : ∀ k, V k := fun k => (u k).getD (row k)

/-- The updates are applied in the order of the list. -/
def applyAll (row : ∀ k, V k) (us : List (Update V)) : ∀ k, V k := us.foldl apply row

/-- What the last update that writes the column writes to it. -/
def lastWrite : List (Update V) → (k : κ) → Option (V k)
  | [], _ => none
  | u :: us, k => (lastWrite us k).or (u k)

/-- **The last write of a column stays.** -/
theorem applyAll_eq (row : ∀ k, V k) (us : List (Update V)) (k : κ) :
    applyAll row us k = (lastWrite us k).getD (row k) := by
  induction us generalizing row with
  | nil => rfl
  | cons u us ih =>
    show applyAll (apply row u) us k = ((lastWrite us k).or (u k)).getD (row k)
    rw [ih]
    cases lastWrite us k with
    | none => rfl
    | some v => rfl

theorem lastWrite_eq_none_iff {us : List (Update V)} {k : κ} :
    lastWrite us k = none ↔ ∀ u ∈ us, u k = none := by
  induction us with
  | nil => exact ⟨fun _ _ h => absurd h List.not_mem_nil, fun _ => rfl⟩
  | cons u us ih => rw [lastWrite, Option.or_eq_none_iff, ih, List.forall_mem_cons, and_comm]

/-- The order has no say in whether a column is written. -/
theorem lastWrite_eq_none_iff_of_perm {us vs : List (Update V)} (h : us.Perm vs) (k : κ) :
    lastWrite us k = none ↔ lastWrite vs k = none := by
  rw [lastWrite_eq_none_iff, lastWrite_eq_none_iff]
  constructor
  · exact fun hus u hu => hus u (h.mem_iff.mpr hu)
  · exact fun hvs u hu => hvs u (h.mem_iff.mp hu)

/-- **When two orders agree.** -/
theorem applyAll_eq_iff {us vs : List (Update V)} (h : us.Perm vs) (row : ∀ k, V k) :
    applyAll row us = applyAll row vs ↔ ∀ k, lastWrite us k = lastWrite vs k := by
  constructor
  · intro heq k
    have hk := congrFun heq k
    rw [applyAll_eq, applyAll_eq] at hk
    have hnone := lastWrite_eq_none_iff_of_perm h k
    cases hus : lastWrite us k with
    | none => rw [hnone.mp hus]
    | some v =>
      cases hvs : lastWrite vs k with
      | none => rw [hnone.mpr hvs] at hus; cases hus
      | some w =>
        rw [hus, hvs] at hk
        exact congrArg some hk
  · intro heq
    funext k
    rw [applyAll_eq, applyAll_eq, heq k]

end Updates
