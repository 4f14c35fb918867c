import Vigiscam.Concurrency.Table

/-!
# Tables with a unique key

A table with a unique column cannot have two rows of the same key, so a row is in the table where
it is what its key finds (`mem_iff_get`). `upsert` changes the row of a key, or makes it, and
`upsertAll` does so for each row of a list.
-/

namespace Table

variable {κ ρ : Type} [DecidableEq κ] {key : ρ → κ}

structure Keyed (key : ρ → κ) where
  rows : List ρ
  nodup : (rows.map key).Nodup

namespace Keyed

variable {t : Keyed key} {k : κ} {r new : ρ} {rows : List ρ}

def empty : Keyed key := ⟨[], List.nodup_nil⟩

def get (t : Keyed key) (k : κ) : Option ρ := find key k t.rows

@[simp] theorem get_empty : (empty : Keyed key).get k = none := rfl

theorem get_eq_some_iff : t.get k = some r ↔ r ∈ t.rows ∧ key r = k := find_eq_some_iff t.nodup

theorem key_of_get (h : t.get k = some r) : key r = k := (get_eq_some_iff.mp h).2

theorem mem_iff_get : r ∈ t.rows ↔ t.get (key r) = some r := by
  rw [get_eq_some_iff, and_iff_left rfl]

/-- `upsert`: what a row becomes does not change its key. -/
def upsert (t : Keyed key) (create : ρ) (update : ρ → ρ) (hupdate : ∀ r, key (update r) = key r) :
    Keyed key where
  rows :=
    match t.get (key create) with
    | some _ => modify key (key create) update t.rows
    | none => t.rows ++ [create]
  nodup := by
    cases hget : t.get (key create) with
    | some r =>
      show ((modify key (key create) update t.rows).map key).Nodup
      rw [map_modify hupdate]
      exact t.nodup
    | none => exact nodup_append_new t.nodup (find_eq_none_iff.mp hget)

section Upsert

variable {update : ρ → ρ} (hupdate : ∀ r, key (update r) = key r)

theorem rows_upsert_of_some (h : t.get (key new) = some r) :
    (t.upsert new update hupdate).rows = modify key (key new) update t.rows := by
  simp only [upsert, h]

theorem rows_upsert_of_none (h : t.get (key new) = none) :
    (t.upsert new update hupdate).rows = t.rows ++ [new] := by
  simp only [upsert, h]

/-- An update that writes every column but the key leaves the new row. -/
theorem get_upsert_self (hwrites : ∀ r, key r = key new → update r = new) :
    (t.upsert new update hupdate).get (key new) = some new := by
  cases hget : t.get (key new) with
  | some r =>
    rw [get, rows_upsert_of_some hupdate hget, find_modify_self hupdate, ← get, hget]
    exact congrArg some (hwrites r (key_of_get hget))
  | none =>
    rw [get, rows_upsert_of_none hupdate hget]
    exact find_append_new (find_eq_none_iff.mp hget)

theorem get_upsert_of_ne (hne : k ≠ key new) : (t.upsert new update hupdate).get k = t.get k := by
  cases hget : t.get (key new) with
  | some r =>
    rw [get, rows_upsert_of_some hupdate hget]
    exact find_modify_of_ne hupdate hne
  | none =>
    rw [get, rows_upsert_of_none hupdate hget, find_append_singleton, if_neg hne.symm,
      Option.or_none, get]

/-- The rows of other keys are the same, in the same order. -/
theorem filter_upsert {p : ρ → Bool} (hp : ∀ r, key r = key new → p r = false) :
    (t.upsert new update hupdate).rows.filter p = t.rows.filter p := by
  cases hget : t.get (key new) with
  | some r =>
    rw [rows_upsert_of_some hupdate hget, modify]
    induction t.rows with
    | nil => rfl
    | cons r rows ih =>
      rw [List.map_cons]
      by_cases hr : key r = key new
      · rw [if_pos hr, List.filter_cons_of_neg (by simp [hp _ ((hupdate r).trans hr)]),
          List.filter_cons_of_neg (by simp [hp _ hr]), ih]
      · rw [if_neg hr, List.filter_cons, List.filter_cons, ih]
  | none =>
    rw [rows_upsert_of_none hupdate hget, List.filter_append, List.filter_singleton, hp new rfl]
    simp

theorem length_le_upsert : t.rows.length ≤ (t.upsert new update hupdate).rows.length := by
  cases hget : t.get (key new) with
  | some r =>
    have hlength : (t.upsert new update hupdate).rows.length = t.rows.length := by
      rw [rows_upsert_of_some hupdate hget, modify, List.length_map]
    exact Nat.le_of_eq hlength.symm
  | none =>
    rw [rows_upsert_of_none hupdate hget, List.length_append]
    exact Nat.le_add_right _ _

end Upsert

/-- The rows are upserted one after the other; `update r` makes a row that is there the row `r`. -/
def upsertAll (update : ρ → ρ → ρ) (hupdate : ∀ r r', key (update r r') = key r')
    (rows : List ρ) (t : Keyed key) : Keyed key :=
  rows.foldl (fun t r => t.upsert r (update r) (hupdate r)) t

section UpsertAll

variable {update : ρ → ρ → ρ} (hupdate : ∀ r r', key (update r r') = key r')

theorem get_upsertAll_of_not_mem (h : k ∉ rows.map key) :
    (upsertAll update hupdate rows t).get k = t.get k := by
  induction rows generalizing t with
  | nil => rfl
  | cons new rows ih =>
    rw [List.map_cons, List.mem_cons, not_or] at h
    have hrest := ih (t := t.upsert new (update new) (hupdate new)) h.2
    rw [get_upsert_of_ne (hupdate new) h.1] at hrest
    exact hrest

theorem get_upsertAll_of_mem (hwrites : ∀ r r', key r' = key r → update r r' = r)
    (hnd : (rows.map key).Nodup) (h : r ∈ rows) :
    (upsertAll update hupdate rows t).get (key r) = some r := by
  induction rows generalizing t with
  | nil => exact absurd h List.not_mem_nil
  | cons new rows ih =>
    rw [List.map_cons, List.nodup_cons] at hnd
    rcases List.mem_cons.mp h with rfl | h
    · have hrest : (upsertAll update hupdate rows (t.upsert r (update r) (hupdate r))).get (key r)
          = some r := by
        rw [get_upsertAll_of_not_mem hupdate hnd.1]
        exact get_upsert_self (hupdate r) (hwrites r)
      exact hrest
    · exact ih hnd.2 h

end UpsertAll

end Keyed

end Table
