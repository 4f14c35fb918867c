import Mathlib.Data.List.Infix

/-!
# The last write of a register

Each call of a run leaves a register alone (`none`), empties it (`some none`) or writes it
(`some (some v)`). `latest effect calls` is what the register holds after the calls, when it is
empty at first. `latest_eq_some_iff` is its meaning: some call wrote the value, and no later one
touched the register.
-/

namespace Concurrency

variable {κ ν : Type} {effect : κ → Option (Option ν)} {calls : List κ} {c : κ} {v : ν}

def latest (effect : κ → Option (Option ν)) (calls : List κ) : Option ν :=
  calls.foldl (fun held c => (effect c).getD held) none

@[simp] theorem latest_nil : latest effect [] = none := rfl

theorem latest_concat (calls : List κ) (c : κ) :
    latest effect (calls ++ [c]) = (effect c).getD (latest effect calls) := by
  simp [latest]

theorem latest_concat_of_none (h : effect c = none) :
    latest effect (calls ++ [c]) = latest effect calls := by
  rw [latest_concat, h, Option.getD_none]

theorem latest_concat_of_some {held : Option ν} (h : effect c = some held) :
    latest effect (calls ++ [c]) = held := by
  rw [latest_concat, h, Option.getD_some]

/-- **The last write**: a register holds what some call wrote that no later call touched. -/
theorem latest_eq_some_iff : latest effect calls = some v ↔
    ∃ earlier c later, calls = earlier ++ c :: later ∧ effect c = some (some v) ∧
      ∀ d ∈ later, effect d = none := by
  induction calls using List.reverseRecOn with
  | nil => simp
  | append_singleton calls d ih =>
    cases hd : effect d with
    | none =>
      rw [latest_concat_of_none hd, ih]
      constructor
      · rintro ⟨earlier, c, later, rfl, hc, hlater⟩
        refine ⟨earlier, c, later ++ [d], by simp, hc, fun d' hd' => ?_⟩
        rcases List.mem_append.mp hd' with hd' | hd'
        · exact hlater d' hd'
        · rwa [List.mem_singleton.mp hd']
      · rintro ⟨earlier, c, later, hcalls, hc, hlater⟩
        rcases List.eq_nil_or_concat later with rfl | ⟨later, d', rfl⟩
        · -- the last call leaves the register alone, so it is not the write
          obtain ⟨-, hsame⟩ := List.append_inj' hcalls rfl
          rw [← List.singleton_inj.mp hsame, hd] at hc
          cases hc
        · rw [List.concat_eq_append] at hcalls hlater
          have hsplit : calls ++ [d] = (earlier ++ c :: later) ++ [d'] := by simp [hcalls]
          obtain ⟨hcalls, -⟩ := List.append_inj' hsplit rfl
          exact ⟨earlier, c, later, hcalls, hc, fun d hd =>
            hlater d (List.mem_append_left _ hd)⟩
    | some held =>
      rw [latest_concat_of_some hd]
      constructor
      · rintro rfl
        exact ⟨calls, d, [], rfl, hd, fun d' hd' => absurd hd' List.not_mem_nil⟩
      · rintro ⟨earlier, c, later, hcalls, hc, hlater⟩
        rcases List.eq_nil_or_concat later with rfl | ⟨later, d', rfl⟩
        · obtain ⟨-, hsame⟩ := List.append_inj' hcalls rfl
          rw [← List.singleton_inj.mp hsame, hd] at hc
          exact Option.some.inj hc
        · -- a call that touches the register is not among the later ones
          rw [List.concat_eq_append] at hcalls hlater
          have hsplit : calls ++ [d] = (earlier ++ c :: later) ++ [d'] := by simp [hcalls]
          obtain ⟨-, hsame⟩ := List.append_inj' hsplit rfl
          have hnone := hlater d' (List.mem_append_right _ (List.mem_singleton_self d'))
          rw [← List.singleton_inj.mp hsame, hd] at hnone
          cases hnone

end Concurrency
