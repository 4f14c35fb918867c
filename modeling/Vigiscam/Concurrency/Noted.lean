import Vigiscam.Concurrency.Prog

/-!
# Programs with a history

`noting note p` is the program `p` with a history beside its state: a step that is done is
noted in the history, and a step that fails is not. The program does not see its history, so
it does what `p` does; the history is there for statements to speak of.

`Run.each` is the rule for invariants of such runs: what each step of the programs does, and
when it is allowed, gives the invariant after it.
-/

namespace Concurrency

namespace Prog

variable {σ γ ℓ ε α : Type} {R : ℓ → σ → σ → Prop} {p : Prog σ ℓ ε α}

def noting (note : ℓ → σ → γ → γ) : Prog σ ℓ ε α → Prog (σ × γ) ℓ ε α
  | pure a => pure a
  | throw e => throw e
  | step l update next fail =>
    step l (fun x => (update x.1, note l x.1 x.2)) (fun x => noting note (next x.1))
      (noting note fail)

/-- What a step does to the state and to its history. -/
def Noted (note : ℓ → σ → γ → γ) (R : ℓ → σ → σ → Prop) (l : ℓ) (x y : σ × γ) : Prop :=
  R l x.1 y.1 ∧ y.2 = note l x.1 x.2

theorem Each.noting (note : ℓ → σ → γ → γ) (h : Each R p) :
    Each (Noted note R) (p.noting note) := by
  induction p with
  | pure a => trivial
  | throw e => trivial
  | step l update next fail ihNext ihFail =>
    exact ⟨fun x => ⟨⟨(h.1 x.1).1, rfl⟩, ihNext x.1 (h.1 x.1).2⟩, ihFail h.2⟩

end Prog

section Run

variable {ι σ ℓ ε α : Type} {allowed : ℓ → σ → Prop} {R : ℓ → σ → σ → Prop} {I : σ → Prop}

/-- One step keeps the invariant, and leaves a program of such steps. -/
theorem moves_each {x x' : σ} {p p' : Prog σ ℓ ε α} (heach : p.Each R) (hx : I x)
    (hstep : ∀ l x y, allowed l x → R l x y → I x → I y)
    (hmoves : Prog.Moves allowed x p x' p') : I x' ∧ p'.Each R := by
  cases hmoves with
  | done hallowed => exact ⟨hstep _ _ _ hallowed (heach.1 x).1 hx, (heach.1 x).2⟩
  | failed => exact ⟨hx, heach.2⟩

/-- One step of such a program changes nothing, or it is allowed and of its kind. -/
theorem moves_step {x x' : σ} {p p' : Prog σ ℓ ε α} (heach : p.Each R)
    (hmoves : Prog.Moves allowed x p x' p') : x' = x ∨ ∃ l, allowed l x ∧ R l x x' := by
  cases hmoves with
  | done hallowed => exact Or.inr ⟨_, hallowed, (heach.1 x).1⟩
  | failed => exact Or.inl rfl

/-- **Invariant rule for steps**: an invariant holds along every run where a step that is
allowed keeps it, whatever program the step is of. -/
theorem Run.each [DecidableEq ι] {s t : Pool ι σ (Prog σ ℓ ε α)}
    (hrun : Pool.Run (Prog.interleaved allowed) s t) (heach : ∀ i, (s.locals i).Each R)
    (hs : I s.shared) (hstep : ∀ l x y, allowed l x → R l x y → I x → I y) : I t.shared := by
  have hinv : I t.shared ∧ ∀ i, (t.locals i).Each R := by
    refine hrun.invariant (P := fun t => I t.shared ∧ ∀ i, (t.locals i).Each R) ⟨hs, heach⟩ ?_
    rintro i u _ ⟨hu, hall⟩ ⟨hmoves⟩
    obtain ⟨hx, hself⟩ := moves_each (hall i) hu hstep hmoves
    refine ⟨hx, fun j => ?_⟩
    by_cases hj : j = i
    · subst hj
      simpa only [Function.update_self] using hself
    · simpa only [Function.update_of_ne hj] using hall j
  exact hinv.1

/-- The same where each program has its own steps, and may take some of them; what is left of
a program has its steps too. -/
theorem Run.each_by [DecidableEq ι] {may : ι → ℓ → σ → Prop} {R : ι → ℓ → σ → σ → Prop}
    {s t : Pool ι σ (Prog σ ℓ ε α)} (hrun : Pool.Run (Prog.interleavedBy may) s t)
    (heach : ∀ i, (s.locals i).Each (R i)) (hs : I s.shared)
    (hstep : ∀ i l x y, may i l x → R i l x y → I x → I y) :
    I t.shared ∧ ∀ i, (t.locals i).Each (R i) := by
  refine hrun.invariant (P := fun t => I t.shared ∧ ∀ i, (t.locals i).Each (R i)) ⟨hs, heach⟩ ?_
  rintro i u _ ⟨hu, hall⟩ ⟨hmoves⟩
  obtain ⟨hx, hself⟩ := moves_each (hall i) hu (hstep i) hmoves
  refine ⟨hx, fun j => ?_⟩
  by_cases hj : j = i
  · subst hj
    simpa only [Function.update_self] using hself
  · simpa only [Function.update_of_ne hj] using hall j

/-- A run has a history where every move of a program is one of its program with a history. -/
theorem Run.noting_of [DecidableEq ι] {γ : Type} {note : ι → ℓ → σ → γ → γ}
    {step : LocalStep ι σ (Prog σ ℓ ε α)} {step' : LocalStep ι (σ × γ) (Prog (σ × γ) ℓ ε α)}
    {s t : Pool ι σ (Prog σ ℓ ε α)}
    (hnoted : ∀ i x p x' p' history, step i x p x' p' → ∃ history',
      step' i (x, history) (p.noting (note i)) (x', history') (p'.noting (note i)))
    (history : γ) (hrun : Pool.Run step s t) :
    ∃ history', Pool.Run step'
      ⟨(s.shared, history), fun i => (s.locals i).noting (note i)⟩
      ⟨(t.shared, history'), fun i => (t.locals i).noting (note i)⟩ := by
  induction hrun with
  | refl => exact ⟨history, .refl⟩
  | @tail u _ _ hstep ih =>
    obtain ⟨i, hstep⟩ := hstep
    obtain @⟨x', p', hmoves⟩ := hstep
    obtain ⟨history', hrun⟩ := ih
    obtain ⟨history'', hmoved⟩ := hnoted i _ _ _ _ history' hmoves
    have hlocals : (fun j => (Function.update u.locals i p' j).noting (note j)) =
        Function.update (fun j => (u.locals j).noting (note j)) i (p'.noting (note i)) := by
      funext j
      by_cases hj : j = i
      · subst hj
        simp
      · simp [hj]
    refine ⟨history'', ?_⟩
    simp only [hlocals]
    exact hrun.tail i hmoved

/-- **Every run has a history.** -/
theorem Run.noting [DecidableEq ι] {γ : Type} (note : ι → ℓ → σ → γ → γ) (history : γ)
    {may : ι → ℓ → σ → Prop} {s t : Pool ι σ (Prog σ ℓ ε α)}
    (hrun : Pool.Run (Prog.interleavedBy may) s t) :
    ∃ history', Pool.Run (Prog.interleavedBy fun i l x => may i l x.1)
      ⟨(s.shared, history), fun i => (s.locals i).noting (note i)⟩
      ⟨(t.shared, history'), fun i => (t.locals i).noting (note i)⟩ := by
  refine Run.noting_of (fun i x p x' p' history hmoves => ?_) history hrun
  have hmove : Prog.Moves (may i) x p x' p' := hmoves
  cases hmove with
  | done hmay => exact ⟨_, .done hmay⟩
  | failed => exact ⟨_, .failed⟩

end Run

end Concurrency
