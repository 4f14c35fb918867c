import Mathlib.Data.List.Nodup

/-!
# Tables of rows

A table is the list of its rows in the order of their creation, and `key` is the column
that its rows are looked up by. `find` is the first row of a key, and `modify` changes
the rows of a key in place.
-/

namespace Table

variable {κ ρ γ : Type} [DecidableEq κ] {key : ρ → κ} {k k' : κ} {f : ρ → ρ} {rows : List ρ}
  {r r' : ρ}

def find (key : ρ → κ) (k : κ) (rows : List ρ) : Option ρ := rows.find? (key · = k)

def modify (key : ρ → κ) (k : κ) (f : ρ → ρ) (rows : List ρ) : List ρ :=
  rows.map fun r => if key r = k then f r else r

theorem mem_of_find (h : find key k rows = some r) : r ∈ rows := List.mem_of_find?_eq_some h

theorem key_of_find (h : find key k rows = some r) : key r = k :=
  of_decide_eq_true (List.find?_some (p := (key · = k)) h)

theorem find_eq_none_iff : find key k rows = none ↔ k ∉ rows.map key := by
  rw [find, List.find?_eq_none]
  constructor
  · rintro h hmem
    obtain ⟨r, hr, hkey⟩ := List.mem_map.mp hmem
    exact h r hr (decide_eq_true hkey)
  · intro h r hr hkey
    exact h (List.mem_map.mpr ⟨r, hr, of_decide_eq_true hkey⟩)

/-- Where a key has one row, that row is found. -/
theorem find_eq_some_iff (hnd : (rows.map key).Nodup) :
    find key k rows = some r ↔ r ∈ rows ∧ key r = k := by
  constructor
  · exact fun h => ⟨mem_of_find h, key_of_find h⟩
  · rintro ⟨hmem, hkey⟩
    cases hfind : find key k rows with
    | none => exact absurd (List.mem_map.mpr ⟨r, hmem, hkey⟩) (find_eq_none_iff.mp hfind)
    | some r₀ =>
      have hsame : r₀ = r := List.inj_on_of_nodup_map hnd (mem_of_find hfind) hmem
        ((key_of_find hfind).trans hkey.symm)
      rw [hsame]

/-- A change of the rows that leaves their keys alone. -/
theorem find_map {g : ρ → ρ} (hg : ∀ r, key (g r) = key r) :
    find key k (rows.map g) = (find key k rows).map g := by
  rw [find, List.find?_map]
  have hkeys : ((fun r => decide (key r = k)) ∘ g) = fun r => decide (key r = k) := by
    funext r
    simp [hg]
  rw [hkeys]
  rfl

/-- A row that is found stays the first one of its key. -/
theorem find_append_of_find {new : List ρ} (h : find key k rows = some r) :
    find key k (rows ++ new) = some r := by
  rw [find, List.find?_append]
  rw [find] at h
  rw [h]
  rfl

/-- A new row is found by its key, where no row before it has the key. -/
theorem find_append_singleton :
    find key k (rows ++ [r]) = (find key k rows).or (if key r = k then some r else none) := by
  rw [find, List.find?_append]
  congr 1
  by_cases h : key r = k <;> simp [h]

theorem mem_modify : r' ∈ modify key k f rows ↔ ∃ r ∈ rows, (if key r = k then f r else r) = r' :=
  List.mem_map

/-- A column that `f` does not write stays the same. -/
theorem map_modify {g : ρ → γ} (hg : ∀ r, g (f r) = g r) :
    (modify key k f rows).map g = rows.map g := by
  rw [modify, List.map_map]
  refine List.map_congr_left fun r _ => ?_
  show g (if key r = k then f r else r) = g r
  split
  · exact hg r
  · rfl

/-- The row of a changed key is found as it has become. -/
theorem find_modify_self (hf : ∀ r, key (f r) = key r) :
    find key k (modify key k f rows) = (find key k rows).map f := by
  have hg : ∀ r, key (if key r = k then f r else r) = key r := by
    intro r
    split
    · exact hf r
    · rfl
  rw [modify, find_map hg]
  cases h : find key k rows with
  | none => rfl
  | some r => exact congrArg some (if_pos (key_of_find h))

/-- The rows of the other keys are found as they were. -/
theorem find_modify_of_ne (hf : ∀ r, key (f r) = key r) (hne : k' ≠ k) :
    find key k' (modify key k f rows) = find key k' rows := by
  have hg : ∀ r, key (if key r = k then f r else r) = key r := by
    intro r
    split
    · exact hf r
    · rfl
  rw [modify, find_map hg]
  cases h : find key k' rows with
  | none => rfl
  | some r => exact congrArg some (if_neg fun hk => hne ((key_of_find h).symm.trans hk))

/-- A row of a new key is the one that is found. -/
theorem find_append_new (h : key r ∉ rows.map key) : find key (key r) (rows ++ [r]) = some r := by
  have hnone : rows.find? (key · = key r) = none := find_eq_none_iff.mpr h
  rw [find, List.find?_append, hnone]
  simp

omit [DecidableEq κ] in
/-- A row of a new key leaves the keys distinct. -/
theorem nodup_append_new (hnd : (rows.map key).Nodup) (h : key r ∉ rows.map key) :
    ((rows ++ [r]).map key).Nodup := by
  rw [List.map_append, List.map_singleton, List.nodup_append]
  refine ⟨hnd, List.nodup_singleton _, fun k hk k' hk' hsame => h ?_⟩
  rw [List.mem_singleton] at hk'
  rwa [← hk', ← hsame]

omit [DecidableEq κ] in
/-- Where keys are issued one after the other, those that are still to be issued are those of no
row. -/
theorem issued_append {issue : Nat → κ} {issued : Nat} (hinj : Function.Injective issue)
    (h : ∀ n, issued ≤ n → issue n ∉ rows.map key) (hr : key r = issue issued) :
    ∀ n, issued + 1 ≤ n → issue n ∉ (rows ++ [r]).map key := by
  intro n hn hmem
  rw [List.map_append, List.mem_append] at hmem
  rcases hmem with hmem | hmem
  · exact h n (by omega) hmem
  · simp only [List.map_cons, List.map_nil, List.mem_singleton, hr] at hmem
    have := hinj hmem
    omega

/-- A change of a row of a new key leaves the rows before it alone. -/
theorem modify_append_new (h : key r ∉ rows.map key) :
    modify key (key r) f (rows ++ [r]) = rows ++ [f r] := by
  rw [modify, List.map_append, List.map_singleton, if_pos rfl]
  congr 1
  refine (List.map_congr_left fun r' hr' => if_neg fun hsame => ?_).trans (List.map_id _)
  exact h (List.mem_map.mpr ⟨r', hr', hsame⟩)

end Table
