import Mathlib.Logic.Function.Basic
import Mathlib.Logic.Relation

/-!
# Processes over a shared state

A `Pool` is a shared state with the local state of every process. What a process
can do in one step is a relation between shared and local states before and
after; a run interleaves the steps of the processes in any order.

`Run.outline` is the rule of proof outlines: an invariant of the shared state and
an assertion for each process hold along every run when a step of one process
keeps the invariant and its own assertion, and interferes with no other
process's assertion.
-/

namespace Concurrency

variable {ι σ κ : Type} [DecidableEq ι]

structure Pool (ι σ κ : Type) where
  shared : σ
  locals : ι → κ

/-- The steps of process `i`: its shared and local state before, and after. -/
abbrev LocalStep (ι σ κ : Type) := ι → σ → κ → σ → κ → Prop

namespace Pool

variable {step : LocalStep ι σ κ} {s t : Pool ι σ κ}

/-- One step of process `i`. -/
inductive Step (step : LocalStep ι σ κ) (i : ι) (s : Pool ι σ κ) : Pool ι σ κ → Prop
  | intro {shared' : σ} {local' : κ} :
      step i s.shared (s.locals i) shared' local' →
      Step step i s ⟨shared', Function.update s.locals i local'⟩

/-- Any number of steps of any processes. -/
def Run (step : LocalStep ι σ κ) : Pool ι σ κ → Pool ι σ κ → Prop :=
  Relation.ReflTransGen fun s t => ∃ i, Step step i s t

theorem Run.refl : Run step s s := Relation.ReflTransGen.refl

/-- A run goes on with a step of process `i`. -/
theorem Run.tail {shared' : σ} {local' : κ} (i : ι) (h : Run step s t)
    (hstep : step i t.shared (t.locals i) shared' local') :
    Run step s ⟨shared', Function.update t.locals i local'⟩ :=
  Relation.ReflTransGen.tail h ⟨i, .intro hstep⟩

/-- A run that has come to the local state `l` of process `i`. -/
theorem Run.at {i : ι} {l : κ} (h : Run step s t) (hl : t.locals i = l) :
    Run step s ⟨t.shared, Function.update t.locals i l⟩ := by
  rw [← hl, Function.update_eq_self]
  exact h

/-- The process that has moved last moves on. -/
theorem Run.next {i : ι} {x x' : σ} {locals : ι → κ} {l l' : κ}
    (h : Run step s ⟨x, Function.update locals i l⟩) (hstep : step i x l x' l') :
    Run step s ⟨x', Function.update locals i l'⟩ := by
  have hnext := @Run.tail _ _ _ _ _ _ _ x' l' i h (by simpa only [Function.update_self] using hstep)
  simpa only [Function.update_idem] using hnext

/-- **Invariant rule**: what every step preserves holds along every run. -/
theorem Run.invariant {P : Pool ι σ κ → Prop} (hrun : Run step s t) (hs : P s)
    (hstep : ∀ i s t, P s → Step step i s t → P t) : P t := by
  induction hrun with
  | refl => exact hs
  | tail _ hlast ih =>
    obtain ⟨i, hlast⟩ := hlast
    exact hstep i _ _ ih hlast

/-- A run whose steps all meet a condition. -/
def RunWhere (step : LocalStep ι σ κ) (cond : ι → Pool ι σ κ → Pool ι σ κ → Prop) :
    Pool ι σ κ → Pool ι σ κ → Prop :=
  Relation.ReflTransGen fun s t => ∃ i, Step step i s t ∧ cond i s t

theorem RunWhere.refl {cond : ι → Pool ι σ κ → Pool ι σ κ → Prop} : RunWhere step cond s s :=
  Relation.ReflTransGen.refl

/-- A run in which only process `i` moves. -/
def Solo (step : LocalStep ι σ κ) (i : ι) : Pool ι σ κ → Pool ι σ κ → Prop :=
  Relation.ReflTransGen (Step step i)

theorem Solo.run {i : ι} (h : Solo step i s t) : Run step s t := by
  induction h with
  | refl => exact Run.refl
  | tail _ hstep ih => exact Relation.ReflTransGen.tail ih ⟨i, hstep⟩

/-- What every step that meets the condition preserves holds along every such run. -/
theorem RunWhere.invariant {cond : ι → Pool ι σ κ → Pool ι σ κ → Prop}
    {P : Pool ι σ κ → Prop} (hrun : RunWhere step cond s t) (hs : P s)
    (hstep : ∀ i s t, P s → Step step i s t → cond i s t → P t) : P t := by
  induction hrun with
  | refl => exact hs
  | tail _ hlast ih =>
    obtain ⟨i, hlast, hcond⟩ := hlast
    exact hstep i _ _ ih hlast hcond

/-- A shared invariant with an assertion for each process. -/
structure Outline (inv : σ → Prop) (assert : ι → σ → κ → Prop) (s : Pool ι σ κ) : Prop where
  shared : inv s.shared
  locals : ∀ i, assert i s.shared (s.locals i)

/-- **Outline rule**: local correctness and interference freedom make an outline
hold along every run. -/
theorem Run.outline {inv : σ → Prop} {assert : ι → σ → κ → Prop} (hrun : Run step s t)
    (hs : Outline inv assert s)
    (hlocal : ∀ i x l x' l', inv x → assert i x l → step i x l x' l' →
      inv x' ∧ assert i x' l')
    (hother : ∀ i j x l x' l' m, i ≠ j → inv x → assert i x l → assert j x m →
      step i x l x' l' → assert j x' m) :
    Outline inv assert t := by
  refine hrun.invariant hs ?_
  rintro i s _ ⟨hinv, hassert⟩ ⟨hstep⟩
  obtain ⟨hinv', hi⟩ := hlocal i _ _ _ _ hinv (hassert i) hstep
  refine ⟨hinv', fun j => ?_⟩
  by_cases hij : j = i
  · subst hij
    simpa only [Function.update_self] using hi
  · simp only [Function.update_of_ne hij]
    exact hother i j _ _ _ _ _ (Ne.symm hij) hinv (hassert i) (hassert j) hstep

end Pool

end Concurrency
