import Mathlib.Data.List.Infix

/-!
# Calls one after the other, and what has been since

A run of whole calls is the list of the calls, and `after exec s calls` is the state that they
lead to. A moment of a run is a prefix of its list.

`Since P Q` is the past operator of temporal logic: there was a moment with `P`, and every moment
after it has `Q`. It is computed along the run (`since_concat`). `forall_prefix` is the induction
over the moments of a run.
-/

namespace Concurrency

variable {σ κ : Type} {exec : κ → σ → σ} {s : σ} {calls : List κ}

def after (exec : κ → σ → σ) (s : σ) (calls : List κ) : σ := calls.foldl (fun s c => exec c s) s

@[simp] theorem after_nil : after exec s [] = s := rfl

@[simp] theorem after_concat (calls : List κ) (c : κ) :
    after exec s (calls ++ [c]) = exec c (after exec s calls) := by
  simp [after]

/-- What holds at the start and is kept by every call of a run holds at its every moment. -/
theorem forall_prefix {P : List κ → Prop} (hstart : P [])
    (hcall : ∀ before c, before ++ [c] <+: calls → P before → P (before ++ [c])) :
    ∀ before, before <+: calls → P before := by
  intro before
  induction before using List.reverseRecOn with
  | nil => exact fun _ => hstart
  | append_singleton before c ih =>
    intro hprefix
    exact hcall before c hprefix (ih ((List.prefix_append before [c]).trans hprefix))

/-- What is asked of every call of a run, and of the calls before it. -/
theorem forall_call_nil {P : List κ → κ → Prop} :
    ∀ before c, before ++ [c] <+: [] → P before c := by
  intro before c hprefix
  exact absurd (List.prefix_nil.mp hprefix) (by simp)

theorem forall_call_cons {P : List κ → κ → Prop} {d : κ} (hfirst : P [] d)
    (hrest : ∀ before c, before ++ [c] <+: calls → P (d :: before) c) :
    ∀ before c, before ++ [c] <+: d :: calls → P before c := by
  intro before c hprefix
  cases before with
  | nil =>
    obtain ⟨rfl, -⟩ := List.cons_prefix_cons.mp hprefix
    exact hfirst
  | cons e before =>
    obtain ⟨rfl, hbefore⟩ := List.cons_prefix_cons.mp hprefix
    exact hrest before c hbefore

/-- There was a moment with `P`, and every moment after it has `Q`. -/
def Since (P Q : List κ → Prop) (calls : List κ) : Prop :=
  ∃ before rest, calls = before ++ rest ∧ P before ∧
    ∀ l r, rest = l ++ r → l ≠ [] → Q (before ++ l)

section Since

variable {P Q : List κ → Prop}

theorem since_nil : Since P Q [] ↔ P [] := by
  constructor
  · rintro ⟨before, rest, hcalls, hP, -⟩
    obtain ⟨rfl, rfl⟩ := List.append_eq_nil_iff.mp hcalls.symm
    exact hP
  · intro hP
    exact ⟨[], [], rfl, hP, fun l r hl hne => absurd (List.append_eq_nil_iff.mp hl.symm).1 hne⟩

theorem since_of_now (h : P calls) : Since P Q calls := by
  refine ⟨calls, [], by simp, h, fun l r hl hne => ?_⟩
  exact absurd (List.append_eq_nil_iff.mp hl.symm).1 hne

/-- **`Since`, one call later.** -/
theorem since_concat {c : κ} :
    Since P Q (calls ++ [c]) ↔ P (calls ++ [c]) ∨ (Since P Q calls ∧ Q (calls ++ [c])) := by
  constructor
  · rintro ⟨before, rest, hcalls, hP, hQ⟩
    rcases List.eq_nil_or_concat rest with rfl | ⟨rest, d, rfl⟩
    · left
      simpa [hcalls] using hP
    · right
      simp only [List.concat_eq_append, ← List.append_assoc] at hcalls hQ
      obtain ⟨rfl, hd⟩ := List.append_inj' hcalls rfl
      obtain rfl := List.singleton_inj.mp hd
      refine ⟨⟨before, rest, rfl, hP, fun l r hl hne => ?_⟩, ?_⟩
      · exact hQ l (r ++ [c]) (by simp [hl]) hne
      · rw [List.append_assoc]
        exact hQ (rest ++ [c]) [] (by simp) (by simp)
  · rintro (hP | ⟨⟨before, rest, rfl, hP, hQ⟩, hnow⟩)
    · exact since_of_now hP
    · refine ⟨before, rest ++ [c], by simp, hP, fun l r hl hne => ?_⟩
      rcases List.eq_nil_or_concat r with rfl | ⟨r, d, rfl⟩
      · rw [List.append_nil] at hl
        rw [← hl, ← List.append_assoc]
        exact hnow
      · rw [List.concat_eq_append, ← List.append_assoc] at hl
        exact hQ l r (List.append_inj' hl rfl).1 hne

end Since

end Concurrency
