import Vigiscam.Concurrency.Prog

/-!
# Programs that rely on each other

`Safe allowed R p s`: from the state `s` on, whatever the others do within the relation
`R`, every allowed step of the program `p` is within `R` too. Where all programs of a pool
are safe, every run is within `R` (`Run.safe`). So a program may go on with what a step
of its own has brought about, as long as `R` preserves it.
-/

namespace Concurrency

/-- A relation that holds of no change, and of two changes where it holds of each. -/
structure Closed {σ : Type} (R : σ → σ → Prop) : Prop where
  refl : ∀ s, R s s
  trans : ∀ {s t u}, R s t → R t u → R s u

namespace Prog

variable {σ ℓ ε α β : Type} {allowed : ℓ → σ → Prop} {R : σ → σ → Prop} {p : Prog σ ℓ ε α} {s t : σ}

def Safe (allowed : ℓ → σ → Prop) (R : σ → σ → Prop) : Prog σ ℓ ε α → σ → Prop
  | pure _, _ => True
  | throw _, _ => True
  | step l update next fail, s => ∀ t, R s t →
      (allowed l t → R t (update t) ∧ Safe allowed R (next t) (update t)) ∧ Safe allowed R fail t

/-- What the others do within `R` leaves a program safe. -/
theorem Safe.after (hR : Closed R) (h : Safe allowed R p s) (hst : R s t) : Safe allowed R p t := by
  cases p with
  | pure a => trivial
  | throw e => trivial
  | step l update next fail => exact fun u htu => h u (hR.trans hst htu)

/-- A program whose steps are all within `R` is safe. -/
theorem Each.safe (h : Each (fun _ s t => R s t) p) : Safe allowed R p s := by
  induction p generalizing s with
  | pure a => trivial
  | throw e => trivial
  | step l update next fail ihNext ihFail =>
    exact fun t _ => ⟨fun _ => ⟨(h.1 t).1, ihNext t (h.1 t).2⟩, ihFail h.2⟩

/-- After steps within `R` a program may go on as it is safe to. -/
theorem Safe.bind_each (hR : Closed R) {k : α → Prog σ ℓ ε β} (hp : Each (fun _ s t => R s t) p)
    (hk : ∀ a t, R s t → Safe allowed R (k a) t) : Safe allowed R (p >>= k) s := by
  show Safe allowed R (Prog.bind p k) s
  induction p generalizing s with
  | pure a => exact hk a s (hR.refl s)
  | throw e => trivial
  | step l update next fail ihNext ihFail =>
    refine fun t hst => ⟨fun _ => ⟨(hp.1 t).1, ?_⟩, ?_⟩
    · exact ihNext t (hp.1 t).2 fun a u htu =>
        hk a u (hR.trans hst (hR.trans (hp.1 t).1 htu))
    · exact ihFail hp.2 fun a u htu => hk a u (hR.trans hst htu)

/-- A step goes on with what it has brought about. -/
theorem Safe.act_bind {l : ℓ} {e : ε} {f : σ → α × σ} {k : α → Prog σ ℓ ε β}
    (h : ∀ t, R s t → allowed l t → R t (f t).2 ∧ Safe allowed R (k (f t).1) (f t).2) :
    Safe allowed R (act l e f >>= k) s :=
  fun t hst => ⟨fun hallowed => h t hst hallowed, trivial⟩

theorem Safe.attempt_bind (hR : Closed R) {l : ℓ} {e : ε} {f : σ → Option (α × σ)}
    {k : α → Prog σ ℓ ε β}
    (h : ∀ t a u, R s t → allowed l t → f t = some (a, u) → R t u ∧ Safe allowed R (k a) u) :
    Safe allowed R (attempt l e f >>= k) s := by
  refine fun t hst => ⟨fun hallowed => ?_, trivial⟩
  show R t (((f t).map (·.2)).getD t) ∧ Safe allowed R
    (Prog.bind (((f t).map fun r => Prog.pure r.1).getD (Prog.throw e)) k)
      (((f t).map (·.2)).getD t)
  cases hf : f t with
  | none => exact ⟨hR.refl t, trivial⟩
  | some r => exact h t r.1 r.2 hst hallowed hf

/-- What is made of a value in the end changes nothing. -/
theorem Safe.map (f : α → β) (h : Safe allowed R p s) : Safe allowed R (f <$> p) s := by
  show Safe allowed R (Prog.bind p fun a => pure (f a)) s
  induction p generalizing s with
  | pure a => trivial
  | throw e => trivial
  | step l update next fail ihNext ihFail =>
    refine fun t hst => ⟨fun hallowed => ?_, ihFail (h t hst).2⟩
    obtain ⟨hstep, hnext⟩ := (h t hst).1 hallowed
    exact ⟨hstep, ihNext t hnext⟩

end Prog

variable {ι σ ℓ ε α : Type} [DecidableEq ι] {allowed : ℓ → σ → Prop} {R : σ → σ → Prop}
  {s t : Pool ι σ (Prog σ ℓ ε α)}

/-- A step of a safe program is within `R`, and leaves a safe program. -/
theorem moves_safe {x x' : σ} {p p' : Prog σ ℓ ε α} (hR : Closed R) (h : p.Safe allowed R x)
    (hmoves : Prog.Moves allowed x p x' p') : R x x' ∧ p'.Safe allowed R x' := by
  cases hmoves with
  | done hallowed => exact (h x (hR.refl x)).1 hallowed
  | failed => exact ⟨hR.refl x, (h x (hR.refl x)).2⟩

/-- **Safe programs run within `R`**, in any interleaving and with any failing steps. -/
theorem Run.safe (hR : Closed R) (hrun : Pool.Run (Prog.interleaved allowed) s t)
    (hsafe : ∀ i, (s.locals i).Safe allowed R s.shared) : R s.shared t.shared := by
  have hinv : R s.shared t.shared ∧ ∀ i, (t.locals i).Safe allowed R t.shared := by
    refine hrun.invariant (P := fun t => R s.shared t.shared ∧
      ∀ i, (t.locals i).Safe allowed R t.shared) ⟨hR.refl _, hsafe⟩ ?_
    rintro i u _ ⟨hsu, hall⟩ ⟨hmoves⟩
    obtain ⟨hstep, hself⟩ := moves_safe hR (hall i) hmoves
    refine ⟨hR.trans hsu hstep, fun j => ?_⟩
    by_cases hj : j = i
    · subst hj
      simpa only [Function.update_self] using hself
    · simpa only [Function.update_of_ne hj] using (hall j).after hR hstep
  exact hinv.1

end Concurrency
