import Vigiscam.Concurrency.Prog

/-!
# Programs on a part of the state

A program over a state runs over a larger state as well that has the first as a part: it reads
and writes its part, and leaves the rest alone (`Prog.onPart`).
-/

namespace Concurrency

/-- A part of a state `τ`, and how it is replaced. -/
structure Part (τ σ : Type) where
  get : τ → σ
  set : σ → τ → τ
  set_get : ∀ t, set (get t) t = t
  get_set : ∀ s t, get (set s t) = s

namespace Prog

variable {τ σ ℓ ℓ' ε α β : Type} (part : Part τ σ) (label : ℓ → ℓ')

def onPart : Prog σ ℓ ε α → Prog τ ℓ' ε α
  | pure a => pure a
  | throw e => throw e
  | step l update next fail =>
    step (label l) (fun t => part.set (update (part.get t)) t)
      (fun t => onPart (next (part.get t))) (onPart fail)

variable {part label}

theorem onPart_bind (p : Prog σ ℓ ε β) (k : β → Prog σ ℓ ε α) :
    (p >>= k).onPart part label = p.onPart part label >>= fun b => (k b).onPart part label := by
  show (Prog.bind p k).onPart part label =
    Prog.bind (p.onPart part label) fun b => (k b).onPart part label
  induction p with
  | pure b => rfl
  | throw e => rfl
  | step l update next fail ihNext ihFail =>
    show step (label l) _ _ _ = step (label l) _ _ _
    congr 1
    exact funext fun t => ihNext (part.get t)

theorem onPart_act (l : ℓ) (e : ε) (f : σ → α × σ) :
    (act l e f).onPart part label =
      act (label l) e fun t => ((f (part.get t)).1, part.set (f (part.get t)).2 t) := rfl

theorem onPart_attempt (l : ℓ) (e : ε) (f : σ → Option (α × σ)) :
    (attempt l e f).onPart part label =
      attempt (label l) e fun t => (f (part.get t)).map fun r => (r.1, part.set r.2 t) := by
  have hupdate : ∀ t, part.set (((f (part.get t)).map (·.2)).getD (part.get t)) t =
      (((f (part.get t)).map fun r => (r.1, part.set r.2 t)).map (·.2)).getD t := by
    intro t
    cases f (part.get t) with
    | none => exact part.set_get t
    | some r => rfl
  have hnext : ∀ t, (((f (part.get t)).map fun r => pure r.1).getD (throw e)).onPart part label =
      (((f (part.get t)).map fun r => (r.1, part.set r.2 t)).map fun r => pure r.1).getD
        (throw e : Prog τ ℓ' ε α) := by
    intro t
    cases f (part.get t) with
    | none => rfl
    | some r => rfl
  show step (label l) _ _ _ = step (label l) _ _ _
  rw [funext hupdate, funext hnext]
  rfl

/-- A program on a part runs as it runs on the part alone. -/
theorem run_onPart (hset : ∀ x y t, part.set x (part.set y t) = part.set x t)
    (p : Prog σ ℓ ε α) (t : τ) :
    (p.onPart part label).run t = ((p.run (part.get t)).1, part.set (p.run (part.get t)).2 t) := by
  induction p generalizing t with
  | pure a => exact Prod.ext rfl (part.set_get t).symm
  | throw e => exact Prod.ext rfl (part.set_get t).symm
  | step l update next fail ihNext _ =>
    show ((next (part.get t)).onPart part label).run (part.set (update (part.get t)) t) = _
    rw [ihNext, part.get_set, hset]
    rfl

/-- What a step does to the part, it does to the part only. -/
theorem Each.onPart {R : ℓ → σ → σ → Prop} {p : Prog σ ℓ ε α} (h : p.Each R) :
    (p.onPart part label).Each fun l' t t' =>
      ∃ l, l' = label l ∧ R l (part.get t) (part.get t') ∧ t' = part.set (part.get t') t := by
  induction p with
  | pure a => trivial
  | throw e => trivial
  | step l update next fail ihNext ihFail =>
    refine ⟨fun t => ⟨⟨l, rfl, ?_, ?_⟩, ihNext _ (h.1 _).2⟩, ihFail h.2⟩
    · rw [part.get_set]
      exact (h.1 _).1
    · rw [part.get_set]

/-- A program on a part leaves the rest alone. -/
theorem each_onPart (p : Prog σ ℓ ε α) : (p.onPart part label).Each fun l' t t' =>
    (∃ l, l' = label l) ∧ t' = part.set (part.get t') t := by
  have htrue : p.Each fun _ _ _ => True := by
    induction p with
    | pure a => trivial
    | throw e => trivial
    | step l update next fail ihNext ihFail => exact ⟨fun s => ⟨trivial, ihNext s⟩, ihFail⟩
  refine htrue.onPart.mono ?_
  rintro _ t t' ⟨l, rfl, -, hrest⟩
  exact ⟨⟨l, rfl⟩, hrest⟩

end Prog

end Concurrency
