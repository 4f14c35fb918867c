import Vigiscam.Concurrency.Table

/-!
# Tables that issue their keys

A table whose rows get their keys from a source that never issues a key twice. No row has a key
that is still to be issued, so that keys stay distinct however the rows change
(`Issued.add`, `Issued.map`).
-/

namespace Table

/-- Rows in the order of their creation, with the keys that are issued to them. -/
structure Issued (κ ρ : Type) (key : ρ → κ) where
  rows : List ρ
  issue : Nat → κ
  issued : Nat
  issue_injective : Function.Injective issue
  rows_issued : ∀ n, issued ≤ n → issue n ∉ rows.map key
  nodup : (rows.map key).Nodup

namespace Issued

variable {κ ρ : Type} {key : ρ → κ} {t : Issued κ ρ key} {f : ρ → ρ} {r r' : ρ} {k : κ}

def empty (issue : Nat → κ) (h : Function.Injective issue) : Issued κ ρ key :=
  ⟨[], issue, 0, h, fun _ _ => List.not_mem_nil, List.nodup_nil⟩

/-- The key of the next row. -/
def next (t : Issued κ ρ key) : κ := t.issue t.issued

/-- The same rows, with other columns. -/
def map (t : Issued κ ρ key) (f : ρ → ρ) (hf : ∀ r, key (f r) = key r) : Issued κ ρ key :=
  have hkeys : (t.rows.map f).map key = t.rows.map key := by
    rw [List.map_map]
    exact List.map_congr_left fun r _ => hf r
  { t with
    rows := t.rows.map f
    rows_issued := hkeys ▸ t.rows_issued
    nodup := hkeys ▸ t.nodup }

/-- A new row. -/
def add (t : Issued κ ρ key) (r : ρ) (hr : key r = t.next) : Issued κ ρ key :=
  { t with
    rows := t.rows ++ [r]
    issued := t.issued + 1
    rows_issued := issued_append t.issue_injective t.rows_issued hr
    nodup := nodup_append_new t.nodup (hr ▸ t.rows_issued t.issued (Nat.le_refl _)) }

@[simp] theorem rows_map (hf : ∀ r, key (f r) = key r) : (t.map f hf).rows = t.rows.map f := rfl

@[simp] theorem rows_add (hr : key r = t.next) : (t.add r hr).rows = t.rows ++ [r] := rfl

theorem eq_of_key (hr : r ∈ t.rows) (hr' : r' ∈ t.rows) (h : key r = key r') : r = r' :=
  List.inj_on_of_nodup_map t.nodup hr hr' h

variable [DecidableEq κ]

theorem find_eq_some_iff : find key k t.rows = some r ↔ r ∈ t.rows ∧ key r = k :=
  Table.find_eq_some_iff t.nodup

/-- `update` of the row of a key. -/
def modify (t : Issued κ ρ key) (k : κ) (f : ρ → ρ) (hf : ∀ r, key (f r) = key r) :
    Issued κ ρ key :=
  t.map (fun r => if key r = k then f r else r) fun r => by
    split
    · exact hf r
    · rfl

theorem rows_modify (hf : ∀ r, key (f r) = key r) :
    (t.modify k f hf).rows = Table.modify key k f t.rows := rfl

/-- `delete` of the row of a key. -/
def remove (t : Issued κ ρ key) (k : κ) : Issued κ ρ key :=
  have hsub : (t.rows.filter (key · ≠ k)).map key |>.Sublist (t.rows.map key) :=
    List.filter_sublist.map key
  { t with
    rows := t.rows.filter (key · ≠ k)
    rows_issued := fun n hn hmem => t.rows_issued n hn (hsub.subset hmem)
    nodup := t.nodup.sublist hsub }

end Issued

end Table
