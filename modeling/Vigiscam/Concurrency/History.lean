import Mathlib.Data.List.Basic

/-!
# Runs of whole operations

`History exec outside s₀ log s` is a run from `s₀` to `s` whose operations are each
done in one go: `log` has every operation with the state it found, in order, and
between two operations the state changes as `outside` allows. It is what is left of
a `Pool` when operations do not overlap.
-/

namespace Concurrency

variable {σ κ : Type} {exec : κ → σ → σ} {outside : σ → σ → Prop} {s₀ s t : σ}
  {log : List (σ × κ)}

inductive History (exec : κ → σ → σ) (outside : σ → σ → Prop) (s₀ : σ) :
    List (σ × κ) → σ → Prop
  | start : History exec outside s₀ [] s₀
  | call {log : List (σ × κ)} {s : σ} (h : History exec outside s₀ log s) (c : κ) :
      History exec outside s₀ (log ++ [(s, c)]) (exec c s)
  | outside {log : List (σ × κ)} {s t : σ} (h : History exec outside s₀ log s)
      (ht : outside s t) : History exec outside s₀ log t

namespace History

/-- What the operations and the outside keep, a run keeps. -/
theorem keeps {I : σ → Prop} (h : History exec outside s₀ log s)
    (hcall : ∀ c s, I s → I (exec c s)) (houtside : ∀ s t, outside s t → I s → I t)
    (hstart : I s₀) : I s := by
  induction h with
  | start => exact hstart
  | call _ c ih => exact hcall c _ ih
  | outside _ ht ih => exact houtside _ _ ht ih

/-- What changes along a run is changed by one of its operations: a property that does
not hold at the start, and that the outside does not bring about, was brought about. -/
theorem cause {I P : σ → Prop} (h : History exec outside s₀ log s)
    (hcall : ∀ c s, I s → I (exec c s)) (houtside : ∀ s t, outside s t → I s → I t)
    (hback : ∀ s t, outside s t → I s → P t → P s) (hinv : I s₀) (hstart : ¬ P s₀) (hend : P s) :
    ∃ m ∈ log, I m.1 ∧ ¬ P m.1 ∧ P (exec m.2 m.1) := by
  induction h with
  | start => exact absurd hend hstart
  | @call log s h c ih =>
    by_cases hs : P s
    · obtain ⟨m, hm, hcause⟩ := ih hs
      exact ⟨m, List.mem_append_left _ hm, hcause⟩
    · exact ⟨(s, c), List.mem_append_right _ (List.mem_singleton_self _),
        h.keeps hcall houtside hinv, hs, hend⟩
  | outside h ht ih => exact ih (hback _ _ ht (h.keeps hcall houtside hinv) hend)

end History

end Concurrency
