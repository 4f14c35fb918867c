import Mathlib.Data.List.Nodup

/-!
# Going through a `Map` that changes

A `Map` keeps its entries in slots, in the order in which they were added. `delete` empties the
slot of a key, which stays; a loop over the keys goes from slot to slot, up to the last one that
is there when it arrives, and passes over the empty ones. So the body of the loop may delete.
-/

namespace Js

variable {ρ κ γ : Type}

/-- The entries that a `Map` has, in order. -/
def entries (slots : List (Option ρ)) : List ρ := slots.filterMap id

@[simp] theorem entries_nil : entries ([] : List (Option ρ)) = [] := rfl

@[simp] theorem entries_none (slots : List (Option ρ)) : entries (none :: slots) = entries slots :=
  rfl

@[simp] theorem entries_some (r : ρ) (slots : List (Option ρ)) :
    entries (some r :: slots) = r :: entries slots := rfl

@[simp] theorem entries_append (slots slots' : List (Option ρ)) :
    entries (slots ++ slots') = entries slots ++ entries slots' := List.filterMap_append

/-- `map.delete(k)`. -/
def emptySlot [DecidableEq κ] (key : ρ → κ) (k : κ) (slots : List (Option ρ)) : List (Option ρ) :=
  slots.map fun slot => slot.filter fun r => key r ≠ k

section Empty

variable [DecidableEq κ] {key : ρ → κ} {k : κ}

@[simp] theorem length_emptySlot (slots : List (Option ρ)) :
    (emptySlot key k slots).length = slots.length := List.length_map _

@[simp] theorem emptySlot_append (slots slots' : List (Option ρ)) :
    emptySlot key k (slots ++ slots') = emptySlot key k slots ++ emptySlot key k slots' :=
  List.map_append

/-- A key that is not there is deleted in vain. -/
theorem emptySlot_of_not_mem {slots : List (Option ρ)} (h : k ∉ (entries slots).map key) :
    emptySlot key k slots = slots := by
  induction slots with
  | nil => rfl
  | cons slot slots ih =>
    cases slot with
    | none =>
      rw [entries_none] at h
      exact congrArg (none :: ·) (ih h)
    | some r =>
      rw [entries_some, List.map_cons, List.mem_cons, not_or] at h
      have hr : (some r).filter (fun r => decide (key r ≠ k)) = some r := by
        simp [Option.filter_some, Ne.symm h.1]
      show (some r).filter _ :: emptySlot key k slots = _
      rw [hr, ih h.2]

end Empty

/-- `for (const r of map.values()) body`, from a slot on: the loop ends where there is no slot any
more, and at the latest when the fuel is used up. -/
def forOf (slots : γ → List (Option ρ)) (body : ρ → γ → γ) : (fuel index : Nat) → γ → γ
  | 0, _, s => s
  | fuel + 1, index, s =>
    match (slots s)[index]? with
    | none => s
    | some none => forOf slots body fuel (index + 1) s
    | some (some r) => forOf slots body fuel (index + 1) (body r s)

/-- A loop that deletes the entries with a property, and counts them. -/
def sweep [DecidableEq κ] (key : ρ → κ) (p : ρ → Bool) (slots : List (Option ρ)) :
    List (Option ρ) × Nat :=
  forOf Prod.fst (fun r s => if p r then (emptySlot key (key r) s.1, s.2 + 1) else s) slots.length 0
    (slots, 0)

section Sweep

variable [DecidableEq κ] {key : ρ → κ} {p : ρ → Bool}

theorem entries_map_filter (q : ρ → Bool) (slots : List (Option ρ)) :
    entries (slots.map (Option.filter q)) = (entries slots).filter q := by
  induction slots with
  | nil => rfl
  | cons slot slots ih =>
    cases slot with
    | none => simpa using ih
    | some r =>
      by_cases hr : q r = true
      · simpa [Option.filter_some, hr] using ih
      · simpa [Option.filter_some, hr] using ih

/-- Where the keys are distinct, the entry that the loop has come to is deleted alone. -/
theorem emptySlot_at {done rest : List (Option ρ)} {r : ρ}
    (hnd : ((entries (done ++ some r :: rest)).map key).Nodup) :
    emptySlot key (key r) (done ++ some r :: rest) = done ++ none :: rest := by
  rw [entries_append, entries_some, List.map_append, List.map_cons] at hnd
  obtain ⟨-, hrest, hdisjoint⟩ := List.nodup_append.mp hnd
  have hdone : key r ∉ (entries done).map key := fun h =>
    hdisjoint _ h _ (List.mem_cons_self ..) rfl
  rw [emptySlot_append, emptySlot_of_not_mem hdone]
  show done ++ (some r).filter _ :: emptySlot key (key r) rest = _
  rw [emptySlot_of_not_mem (List.nodup_cons.mp hrest).1]
  simp [Option.filter_some]

/-- The loop, from the slot that it has come to. -/
theorem sweep_from {rest : List (Option ρ)} (done : List (Option ρ)) (count : Nat) {fuel : Nat}
    (hfuel : rest.length ≤ fuel) (hnd : ((entries (done ++ rest)).map key).Nodup) :
    forOf Prod.fst (fun r s => if p r then (emptySlot key (key r) s.1, s.2 + 1) else s) fuel
        done.length (done ++ rest, count) =
      (done ++ rest.map (Option.filter fun r => !p r), count + (entries rest).countP p) := by
  induction rest generalizing done count fuel with
  | nil =>
    cases fuel with
    | zero => simp [forOf]
    | succ fuel => simp [forOf]
  | cons slot rest ih =>
    obtain ⟨fuel, rfl⟩ : ∃ n, fuel = n + 1 := ⟨fuel - 1, by simp at hfuel; omega⟩
    have hfuel' : rest.length ≤ fuel := by simpa using hfuel
    have hat : (done ++ slot :: rest)[done.length]? = some slot := by simp
    have hnext : ∀ slot', done ++ slot' :: rest = (done ++ [slot']) ++ rest := by simp
    have hlength : ∀ slot' : Option ρ, done.length + 1 = (done ++ [slot']).length := by simp
    cases slot with
    | none =>
      rw [forOf, hat]
      dsimp only
      rw [hnext none, hlength none, ih _ _ hfuel' (by rwa [← hnext])]
      simp
    | some r =>
      rw [forOf, hat]
      dsimp only
      by_cases hr : p r = true
      · have hnd' : ((entries (done ++ none :: rest)).map key).Nodup := by
          refine hnd.sublist (List.Sublist.map key ?_)
          simp
        rw [if_pos hr, emptySlot_at hnd, hnext none, hlength none, ih _ _ hfuel' (by rwa [← hnext])]
        simp [hr, Option.filter_some]
        omega
      · rw [if_neg hr, hnext (some r), hlength (some r), ih _ _ hfuel' (by rwa [← hnext])]
        simp [hr, Option.filter_some]

/-- **Deleting in a loop**: what is left are the entries without the property, and the loop counts
those with it. -/
theorem entries_sweep {slots : List (Option ρ)} (hnd : ((entries slots).map key).Nodup) :
    entries (sweep key p slots).1 = (entries slots).filter (fun r => !p r) ∧
      (sweep key p slots).2 = (entries slots).countP p := by
  have hrun := sweep_from (p := p) [] 0 (Nat.le_refl slots.length) hnd
  rw [List.length_nil, List.nil_append] at hrun
  rw [sweep, hrun]
  exact ⟨by simp [entries_map_filter], by simp⟩

end Sweep

end Js
