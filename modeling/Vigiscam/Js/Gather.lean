import Mathlib.Data.List.Induction
import Vigiscam.Concurrency.Table

/-!
# Gathering items in a `Map`

A loop reads what its `Map` has under the key of an item, or starts anew, changes it, and sets it
again. What is under a key in the end comes from the items of the key alone, in their order
(`find_gather`, `mem_gather`).
-/

namespace Js

variable {α β κ : Type} [DecidableEq κ]

/-! ## One entry -/

def overwrite (k : κ) (b : β) (e : κ × β) : κ × β := (e.1, if e.1 = k then b else e.2)

/-- `map.set(k, b)`: a new key comes last. -/
def setEntry (k : κ) (b : β) (entries : List (κ × β)) : List (κ × β) :=
  if k ∈ entries.map Prod.fst then entries.map (overwrite k b) else entries ++ [(k, b)]

/-- `map.get(k) ?? start`. -/
def getEntry (k : κ) (start : β) (entries : List (κ × β)) : β :=
  ((Table.find Prod.fst k entries).map Prod.snd).getD start

section Set

variable {k k' : κ} {b : β} {entries : List (κ × β)}

theorem nodup_setEntry (h : (entries.map Prod.fst).Nodup) :
    ((setEntry k b entries).map Prod.fst).Nodup := by
  unfold setEntry
  split
  · rw [List.map_map]
    exact h
  · next hnew => exact Table.nodup_append_new h hnew

theorem find_setEntry_self : Table.find Prod.fst k (setEntry k b entries) = some (k, b) := by
  unfold setEntry
  split
  · next h =>
    rw [Table.find_map (g := overwrite k b) fun _ => rfl]
    cases hfind : Table.find Prod.fst k entries with
    | none => exact absurd h (Table.find_eq_none_iff.mp hfind)
    | some e => simp [overwrite, Table.key_of_find hfind]
  · next hnew => exact Table.find_append_new (r := (k, b)) hnew

theorem find_setEntry_of_ne (h : k' ≠ k) :
    Table.find Prod.fst k' (setEntry k b entries) = Table.find Prod.fst k' entries := by
  unfold setEntry
  split
  · rw [Table.find_map (g := overwrite k b) fun _ => rfl]
    cases hfind : Table.find Prod.fst k' entries with
    | none => rfl
    | some e =>
      have hne : e.1 ≠ k := (Table.key_of_find hfind).symm ▸ h
      simp [overwrite, hne]
  · rw [Table.find_append_singleton, if_neg (Ne.symm h), Option.or_none]

end Set

/-! ## The loop -/

variable (key : α → κ) (start : α → β) (add : β → α → β)

/-- One more item. -/
def gatherOne (entries : List (κ × β)) (a : α) : List (κ × β) :=
  setEntry (key a) (add (getEntry (key a) (start a) entries) a) entries

def gather (items : List α) : List (κ × β) := items.foldl (gatherOne key start add) []

/-- What the items of one key come to. -/
def gathered : List α → Option β
  | [] => none
  | a :: rest => some ((a :: rest).foldl add (start a))

variable {key start add} {items : List α} {k : κ} {b : β}

theorem gather_concat (items : List α) (a : α) :
    gather key start add (items ++ [a]) =
      gatherOne key start add (gather key start add items) a := by
  simp [gather, List.foldl_append]

theorem gathered_concat (items : List α) (a : α) :
    gathered start add (items ++ [a]) =
      some (add ((gathered start add items).getD (start a)) a) := by
  cases items with
  | nil => rfl
  | cons a₀ rest => simp [gathered, List.foldl_append]

theorem nodup_gather (items : List α) : ((gather key start add items).map Prod.fst).Nodup := by
  induction items using List.reverseRecOn with
  | nil => exact List.nodup_nil
  | append_singleton items a ih =>
    rw [gather_concat]
    exact nodup_setEntry ih

/-- **What is under a key** comes from the items of the key. -/
theorem find_gather (items : List α) (k : κ) :
    Table.find Prod.fst k (gather key start add items) =
      (gathered start add (items.filter (key · = k))).map fun b => (k, b) := by
  induction items using List.reverseRecOn with
  | nil => rfl
  | append_singleton items a ih =>
    rw [gather_concat, gatherOne, List.filter_append]
    by_cases hk : key a = k
    · have hone : [a].filter (key · = k) = [a] := by simp [hk]
      rw [hone, gathered_concat, hk, find_setEntry_self, getEntry, ih]
      cases gathered start add (items.filter (key · = k)) <;> rfl
    · have hnone : [a].filter (key · = k) = [] := by simp [hk]
      rw [hnone, List.append_nil, find_setEntry_of_ne (Ne.symm hk), ih]

theorem mem_gather : (k, b) ∈ gather key start add items ↔
    gathered start add (items.filter (key · = k)) = some b := by
  have hnodup : ((gather key start add items).map Prod.fst).Nodup := nodup_gather items
  have hfind := Table.find_eq_some_iff (k := k) (r := (k, b)) hnodup
  rw [find_gather] at hfind
  constructor
  · intro h
    obtain ⟨b', hb', heq⟩ := Option.map_eq_some_iff.mp (hfind.mpr ⟨h, rfl⟩)
    rw [hb', (Prod.mk.inj heq).2]
  · intro h
    rw [h] at hfind
    exact (hfind.mp rfl).1

/-- The keys are those of the items. -/
theorem mem_keys_gather :
    k ∈ (gather key start add items).map Prod.fst ↔ k ∈ items.map key := by
  rw [← not_iff_not, ← Table.find_eq_none_iff, find_gather, Option.map_eq_none_iff]
  constructor
  · intro h hmem
    obtain ⟨a, ha, hka⟩ := List.mem_map.mp hmem
    have hmem : a ∈ items.filter (key · = k) := List.mem_filter.mpr ⟨ha, decide_eq_true hka⟩
    have hne := List.ne_nil_of_mem hmem
    obtain ⟨a₀, rest, hcons⟩ := List.exists_cons_of_ne_nil hne
    rw [hcons] at h
    cases h
  · intro h
    have hnil : items.filter (key · = k) = [] := by
      refine List.filter_eq_nil_iff.mpr fun a ha hk => h ?_
      exact of_decide_eq_true hk ▸ List.mem_map_of_mem ha
    rw [hnil]
    rfl

end Js
