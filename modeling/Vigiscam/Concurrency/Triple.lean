import Vigiscam.Concurrency.Prog

/-!
# What a run of a program keeps, and what it gives

`Gives I Q p`: a run of `p` alone, from a state with `I`, ends in a state with `I`, and a value
that it returns has `Q`. What follows a program may use what the program gives (`Gives.bind`).
-/

namespace Concurrency.Prog

variable {σ ℓ ε α β : Type} {I : σ → Prop} {Q R : α → Prop} {p : Prog σ ℓ ε α}

def Gives (I : σ → Prop) (Q : α → Prop) (p : Prog σ ℓ ε α) : Prop :=
  ∀ s, I s → I (p.run s).2 ∧ ∀ a, (p.run s).1 = .ok a → Q a

theorem gives_pure {a : α} (h : Q a) : Gives I Q (Pure.pure a : Prog σ ℓ ε α) :=
  fun _ hs => ⟨hs, fun _ ha => Except.ok.inj ha ▸ h⟩

theorem gives_throw (e : ε) : Gives I Q (MonadExcept.throw e : Prog σ ℓ ε α) := by
  intro s hs
  refine ⟨hs, fun a ha => ?_⟩
  cases ha

theorem Gives.bind {S : β → Prop} {k : α → Prog σ ℓ ε β} (hp : Gives I Q p)
    (hk : ∀ a, Q a → Gives I S (k a)) : Gives I S (p >>= k) := by
  intro s hs
  rw [run_bind]
  obtain ⟨hstate, hvalue⟩ := hp s hs
  cases hrun : p.run s with
  | mk result t =>
    rw [hrun] at hstate hvalue
    cases result with
    | error e =>
      refine ⟨hstate, fun b hb => ?_⟩
      cases hb
    | ok a => exact hk a (hvalue a rfl) t hstate

theorem gives_act {l : ℓ} {e : ε} {f : σ → α × σ} (h : ∀ s, I s → I (f s).2 ∧ Q (f s).1) :
    Gives I Q (act l e f) :=
  fun s hs => ⟨(h s hs).1, fun _ ha => Except.ok.inj ha ▸ (h s hs).2⟩

theorem gives_attempt {l : ℓ} {e : ε} {f : σ → Option (α × σ)}
    (h : ∀ s a t, I s → f s = some (a, t) → I t ∧ Q a) : Gives I Q (attempt l e f) := by
  intro s hs
  cases hf : f s with
  | none =>
    rw [run_attempt_none hf]
    refine ⟨hs, fun a ha => ?_⟩
    cases ha
  | some r =>
    have hsome : f s = some (r.1, r.2) := hf
    rw [run_attempt_some hsome]
    obtain ⟨ht, hr⟩ := h s r.1 r.2 hs hsome
    exact ⟨ht, fun a ha => Except.ok.inj ha ▸ hr⟩

theorem Gives.tryCatch {handler : ε → Prog σ ℓ ε α} (hp : Gives I Q p)
    (hhandler : ∀ e, Gives I Q (handler e)) : Gives I Q (MonadExcept.tryCatch p handler) := by
  intro s hs
  obtain ⟨hstate, hvalue⟩ := hp s hs
  cases hrun : p.run s with
  | mk result t =>
    rw [hrun] at hstate hvalue
    cases result with
    | ok a =>
      rw [run_tryCatch_ok hrun]
      exact ⟨hstate, hvalue⟩
    | error e =>
      rw [run_tryCatch_error hrun]
      exact hhandler e t hstate

theorem Gives.mono (hp : Gives I Q p) (h : ∀ a, Q a → R a) : Gives I R p :=
  fun s hs => ⟨(hp s hs).1, fun a ha => h a ((hp s hs).2 a ha)⟩

end Concurrency.Prog
