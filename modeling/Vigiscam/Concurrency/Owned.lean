import Mathlib.Logic.Function.Basic
import Vigiscam.Concurrency.Table

/-!
# Rows that belong to somebody

`owned owner o rows` are the rows of one owner. What an owner looks up among rows of its own it
finds among these, and what happens to the rows of others leaves them alone.

Each party has a stream of keys of its own. `Distinguished` says that no key is drawn twice, by
whoever it may be; so a key tells who has drawn it.
-/

namespace Concurrency

/-- Keys that are drawn by different parties, or one after the other, are different. -/
def Distinguished {ι κ : Type} (keys : ι → Nat → κ) : Prop :=
  ∀ i n j m, keys i n = keys j m → i = j ∧ n = m

/-- A number in unary, and then a name. -/
def unaryThen {ι γ : Type} (zero one : γ) (name : ι → List γ) (i : ι) (n : Nat) : List γ :=
  List.replicate n zero ++ one :: name i

theorem distinguished_unaryThen {ι γ : Type} {zero one : γ} {name : ι → List γ}
    (hne : zero ≠ one) (hname : Function.Injective name) :
    Distinguished (unaryThen zero one name) := by
  intro i n j m h
  induction n generalizing m with
  | zero =>
    cases m with
    | zero => exact ⟨hname (List.tail_eq_of_cons_eq h), rfl⟩
    | succ m => exact absurd (List.head_eq_of_cons_eq h).symm hne
  | succ n ih =>
    cases m with
    | zero => exact absurd (List.head_eq_of_cons_eq h) hne
    | succ m =>
      obtain ⟨hij, hnm⟩ := ih m (List.tail_eq_of_cons_eq h)
      exact ⟨hij, congrArg Nat.succ hnm⟩

end Concurrency

namespace Table

variable {ω κ ρ : Type} [DecidableEq ω] [DecidableEq κ] {owner : ρ → ω} {o : ω} {key : ρ → κ}
  {k : κ} {f : ρ → ρ} {rows : List ρ} {r : ρ}

def owned (owner : ρ → ω) (o : ω) (rows : List ρ) : List ρ := rows.filter (owner · = o)

@[simp] theorem mem_owned : r ∈ owned owner o rows ↔ r ∈ rows ∧ owner r = o := by
  rw [owned, List.mem_filter, decide_eq_true_iff]

omit [DecidableEq κ] in
/-- A new row, in tables with the same rows of the owner. -/
theorem owned_append_congr {rows' : List ρ} (h : owned owner o rows = owned owner o rows') :
    owned owner o (rows ++ [r]) = owned owner o (rows' ++ [r]) := by
  rw [owned, owned, List.filter_append, List.filter_append]
  exact congrArg (· ++ _) h

omit [DecidableEq κ] in
theorem owned_append_of_ne (h : owner r ≠ o) :
    owned owner o (rows ++ [r]) = owned owner o rows := by
  rw [owned, owned, List.filter_append, List.filter_cons_of_neg (by simpa using h),
    List.filter_nil, List.append_nil]

/-- A change of rows that keeps their owners. -/
theorem owned_modify (hf : ∀ r, owner (f r) = owner r) :
    owned owner o (modify key k f rows) = modify key k f (owned owner o rows) := by
  rw [owned, modify, List.filter_map, owned, modify]
  congr 1
  refine List.filter_congr fun r _ => ?_
  rw [Function.comp_apply]
  split
  · rw [hf]
  · rfl

theorem owned_modify_congr {rows' : List ρ} (hf : ∀ r, owner (f r) = owner r)
    (h : owned owner o rows = owned owner o rows') :
    owned owner o (modify key k f rows) = owned owner o (modify key k f rows') := by
  rw [owned_modify hf, owned_modify hf, h]

/-- A change of rows of others. -/
theorem owned_modify_of_ne (hf : ∀ r, owner (f r) = owner r)
    (hne : ∀ r ∈ rows, key r = k → owner r ≠ o) :
    owned owner o (modify key k f rows) = owned owner o rows := by
  rw [owned_modify hf, modify]
  refine (List.map_congr_left fun r hr => ?_).trans (List.map_id _)
  obtain ⟨hmem, howner⟩ := mem_owned.mp hr
  exact if_neg fun hk => hne r hmem hk howner

omit [DecidableEq κ] in
/-- A search that only rows of the owner meet. -/
theorem find?_owned {q : ρ → Bool} (hq : ∀ r ∈ rows, q r → owner r = o) :
    rows.find? q = (owned owner o rows).find? q := by
  induction rows with
  | nil => rfl
  | cons r rest ih =>
    have hrest := ih fun r hr => hq r (List.mem_cons_of_mem _ hr)
    by_cases howner : owner r = o
    · rw [owned, List.filter_cons_of_pos (by simpa using howner), List.find?_cons, List.find?_cons,
        hrest, owned]
    · have hqr : ¬ q r := fun h => howner (hq r List.mem_cons_self h)
      rw [owned, List.filter_cons_of_neg (by simpa using howner), List.find?_cons_of_neg hqr,
        hrest, owned]

/-- The row of a key, where it belongs to the owner. -/
theorem find_filter_owned (hnd : (rows.map key).Nodup) :
    (find key k rows).filter (owner · = o) = find key k (owned owner o rows) := by
  have hndo : ((owned owner o rows).map key).Nodup :=
    hnd.sublist (List.filter_sublist.map key)
  ext r
  rw [Option.filter_eq_some_iff, find_eq_some_iff hnd, find_eq_some_iff hndo, mem_owned,
    decide_eq_true_iff]
  tauto

end Table
