import Vigiscam.Concurrency.Prog

/-!
# What the others cannot change

A relation of states says what two states have in common for an observer. Two programs are
`Similar` where, side by side from states that are related, they take the same steps, keep the
states related and end in the same way, with related values. A program is `Hidden` where each of its
steps leaves the state related to whatever it was related to.

`Run.without`: where the programs of some processes are similar to those of another pool, and the
other programs are hidden, every run is matched by one in which the others never move.
-/

namespace Concurrency

namespace Prog

variable {σ τ ℓ ε α β γ δ : Type} {V : σ → τ → Prop} {R : α → β → Prop} {S : γ → δ → Prop}

def Similar (V : σ → τ → Prop) (R : α → β → Prop) : Prog σ ℓ ε α → Prog τ ℓ ε β → Prop
  | pure a, pure b => R a b
  | throw e, throw e' => e = e'
  | step l update next fail, step l' update' next' fail' => l = l' ∧
      (∀ x y, V x y → V (update x) (update' y) ∧ Similar V R (next x) (next' y)) ∧
        Similar V R fail fail'
  | _, _ => False

theorem Similar.pure {a : α} {b : β} (h : R a b) :
    Similar V R (Pure.pure a : Prog σ ℓ ε α) (Pure.pure b : Prog τ ℓ ε β) := h

theorem Similar.throw (e : ε) :
    Similar V R (MonadExcept.throw e : Prog σ ℓ ε α) (MonadExcept.throw e : Prog τ ℓ ε β) := rfl

theorem Similar.bind {p : Prog σ ℓ ε α} {q : Prog τ ℓ ε β} {k : α → Prog σ ℓ ε γ}
    {k' : β → Prog τ ℓ ε δ} (h : Similar V R p q) (hk : ∀ a b, R a b → Similar V S (k a) (k' b)) :
    Similar V S (p >>= k) (q >>= k') := by
  show Similar V S (Prog.bind p k) (Prog.bind q k')
  induction p generalizing q with
  | pure a =>
    cases q with
    | pure b => exact hk a b h
    | throw e => exact h.elim
    | step l update next fail => exact h.elim
  | throw e =>
    cases q with
    | pure b => exact h.elim
    | throw e' => exact h
    | step l update next fail => exact h.elim
  | step l update next fail ihNext ihFail =>
    cases q with
    | pure b => exact h.elim
    | throw e => exact h.elim
    | step l' update' next' fail' =>
      exact ⟨h.1, fun x y hxy => ⟨(h.2.1 x y hxy).1, ihNext x (h.2.1 x y hxy).2⟩, ihFail h.2.2⟩

theorem Similar.act {l : ℓ} {e : ε} {f : σ → α × σ} {g : τ → β × τ}
    (h : ∀ x y, V x y → V (f x).2 (g y).2 ∧ R (f x).1 (g y).1) :
    Similar V R (act l e f) (act l e g) :=
  ⟨rfl, h, rfl⟩

/-- Steps that may be refused are refused, or go through, together. -/
theorem Similar.attempt {l : ℓ} {e : ε} {f : σ → Option (α × σ)} {g : τ → Option (β × τ)}
    (h : ∀ x y, V x y → Option.Rel (fun r r' => V r.2 r'.2 ∧ R r.1 r'.1) (f x) (g y)) :
    Similar V R (attempt l e f) (attempt l e g) := by
  refine ⟨rfl, fun x y hxy => ?_, rfl⟩
  show V (((f x).map (·.2)).getD x) (((g y).map (·.2)).getD y) ∧
    Similar V R (((f x).map fun r => Prog.pure r.1).getD (Prog.throw e))
      (((g y).map fun r => Prog.pure r.1).getD (Prog.throw e))
  have hrel := h x y hxy
  revert hrel
  cases f x with
  | none =>
    cases g y with
    | none => exact fun _ => ⟨hxy, rfl⟩
    | some r' => exact nofun
  | some r =>
    cases g y with
    | none => exact nofun
    | some r' =>
      rintro ⟨⟩
      assumption

/-- How a program has ended. -/
def conclusion : Prog σ ℓ ε α → Option (Except ε α)
  | pure a => some (.ok a)
  | throw e => some (.error e)
  | step _ _ _ _ => none

/-- Similar programs end together, and alike. -/
theorem Similar.conclusion {p : Prog σ ℓ ε α} {q : Prog τ ℓ ε α} (h : Similar V Eq p q) :
    q.conclusion = p.conclusion := by
  cases p with
  | pure a =>
    cases q with
    | pure b => exact congrArg (fun a => some (Except.ok a)) h.symm
    | throw e => exact h.elim
    | step l update next fail => exact h.elim
  | throw e =>
    cases q with
    | pure b => exact h.elim
    | throw e' => exact congrArg (fun e => some (Except.error e)) h.symm
    | step l update next fail => exact h.elim
  | step l update next fail =>
    cases q with
    | pure b => exact h.elim
    | throw e => exact h.elim
    | step l' update' next' fail' => rfl

/-! ## Hidden programs -/

variable {Q : α → Prop} {Q' : γ → Prop}

/-- No step of the program is seen, and what it returns has the property. -/
def Hidden (V : σ → τ → Prop) (Q : α → Prop) : Prog σ ℓ ε α → Prop
  | pure a => Q a
  | throw _ => True
  | step _ update next fail =>
    (∀ x y, V x y → V (update x) y ∧ Hidden V Q (next x)) ∧ Hidden V Q fail

theorem Hidden.pure {a : α} (h : Q a) : Hidden V Q (Pure.pure a : Prog σ ℓ ε α) := h

theorem Hidden.throw (e : ε) : Hidden V Q (MonadExcept.throw e : Prog σ ℓ ε α) := trivial

theorem Hidden.bind {p : Prog σ ℓ ε α} {k : α → Prog σ ℓ ε γ} (h : Hidden V Q p)
    (hk : ∀ a, Q a → Hidden V Q' (k a)) : Hidden V Q' (p >>= k) := by
  show Hidden V Q' (Prog.bind p k)
  induction p with
  | pure a => exact hk a h
  | throw e => trivial
  | step l update next fail ihNext ihFail =>
    exact ⟨fun x y hxy => ⟨(h.1 x y hxy).1, ihNext x (h.1 x y hxy).2⟩, ihFail h.2⟩

theorem Hidden.act {l : ℓ} {e : ε} {f : σ → α × σ}
    (h : ∀ x y, V x y → V (f x).2 y ∧ Q (f x).1) : Hidden V Q (act l e f) :=
  ⟨h, trivial⟩

/-- A step that may be refused is hidden where it goes through. -/
theorem Hidden.attempt {l : ℓ} {e : ε} {f : σ → Option (α × σ)}
    (h : ∀ x y a x', V x y → f x = some (a, x') → V x' y ∧ Q a) :
    Hidden V Q (attempt l e f) := by
  refine ⟨fun x y hxy => ?_, trivial⟩
  show V (((f x).map (·.2)).getD x) y ∧
    Hidden V Q (((f x).map fun r => Prog.pure r.1).getD (Prog.throw e))
  cases hf : f x with
  | none => exact ⟨hxy, trivial⟩
  | some r => exact h x y r.1 r.2 hxy hf

theorem Hidden.mono {Q₂ : α → Prop} {p : Prog σ ℓ ε α} (h : Hidden V Q p)
    (hQ : ∀ a, Q a → Q₂ a) : Hidden V Q₂ p := by
  induction p with
  | pure a => exact hQ a h
  | throw e => trivial
  | step l update next fail ihNext ihFail =>
    exact ⟨fun x y hxy => ⟨(h.1 x y hxy).1, ihNext x (h.1 x y hxy).2⟩, ihFail h.2⟩

end Prog

section Run

variable {ι σ τ ℓ ε α β : Type} [DecidableEq ι] {V : σ → τ → Prop} {R : α → β → Prop}
  {may : ℓ → σ → Prop} {may' : ℓ → τ → Prop}

/-- One step of a program is matched by a step of a similar one. -/
theorem moves_similar {x x' : σ} {y : τ} {p p' : Prog σ ℓ ε α} {q : Prog τ ℓ ε β}
    (hmay : ∀ l x y, V x y → may l x → may' l y) (h : Prog.Similar V R p q) (hxy : V x y)
    (hmoves : Prog.Moves may x p x' p') :
    ∃ y' q', Prog.Moves may' y q y' q' ∧ V x' y' ∧ Prog.Similar V R p' q' := by
  cases q with
  | pure b => cases hmoves <;> exact h.elim
  | throw e => cases hmoves <;> exact h.elim
  | step l' update' next' fail' =>
    cases hmoves with
    | done hdone =>
      obtain ⟨rfl, hnext, -⟩ := h
      exact ⟨_, _, .done (hmay _ x y hxy hdone), (hnext x y hxy).1, (hnext x y hxy).2⟩
    | failed => exact ⟨y, fail', .failed, hxy, h.2.2⟩

/-- One step of a hidden program. -/
theorem moves_hidden {Q : α → Prop} {x x' : σ} {y : τ} {p p' : Prog σ ℓ ε α}
    (h : Prog.Hidden V Q p) (hxy : V x y) (hmoves : Prog.Moves may x p x' p') :
    V x' y ∧ Prog.Hidden V Q p' := by
  cases hmoves with
  | done _ => exact h.1 x y hxy
  | failed => exact ⟨hxy, h.2⟩

/-- **A run without the others**: what is similar ends as it would where the others, who are
hidden, had never moved. -/
theorem Run.without {mine : ι → Prop} {Q : α → Prop} {s t : Pool ι σ (Prog σ ℓ ε α)}
    {u : Pool ι τ (Prog τ ℓ ε β)} (hmay : ∀ l x y, V x y → may l x → may' l y)
    (hrun : Pool.Run (Prog.interleaved may) s t) (hV : V s.shared u.shared)
    (hmine : ∀ i, mine i → Prog.Similar V R (s.locals i) (u.locals i))
    (hothers : ∀ i, ¬ mine i → Prog.Hidden V Q (s.locals i)) :
    ∃ v, Pool.Run (Prog.interleaved may') u v ∧ V t.shared v.shared ∧
      (∀ i, mine i → Prog.Similar V R (t.locals i) (v.locals i)) ∧
      ∀ i, ¬ mine i → v.locals i = u.locals i := by
  have hinv : (∃ v, Pool.Run (Prog.interleaved may') u v ∧ V t.shared v.shared ∧
      (∀ i, mine i → Prog.Similar V R (t.locals i) (v.locals i)) ∧
      ∀ i, ¬ mine i → v.locals i = u.locals i) ∧
      ∀ i, ¬ mine i → Prog.Hidden V Q (t.locals i) := by
    refine hrun.invariant (P := fun t => (∃ v, Pool.Run (Prog.interleaved may') u v ∧
      V t.shared v.shared ∧ (∀ i, mine i → Prog.Similar V R (t.locals i) (v.locals i)) ∧
      ∀ i, ¬ mine i → v.locals i = u.locals i) ∧
      ∀ i, ¬ mine i → Prog.Hidden V Q (t.locals i))
      ⟨⟨u, .refl, hV, hmine, fun _ _ => rfl⟩, hothers⟩ ?_
    rintro i w _ ⟨⟨v, hv, hwv, hsimilar, hstill⟩, hhidden⟩ ⟨hmoves⟩
    by_cases hi : mine i
    · -- the step of one's own is made in both runs
      obtain ⟨y', q', hmoves', hV', hsimilar'⟩ := moves_similar hmay (hsimilar i hi) hwv hmoves
      refine ⟨⟨_, hv.tail i hmoves', hV', fun j hj => ?_, fun j hj => ?_⟩, fun j hj => ?_⟩
      · by_cases hji : j = i
        · subst hji
          simpa only [Function.update_self] using hsimilar'
        · simpa only [Function.update_of_ne hji] using hsimilar j hj
      · have hji : j ≠ i := fun hji => hj (hji ▸ hi)
        simpa only [Function.update_of_ne hji] using hstill j hj
      · have hji : j ≠ i := fun hji => hj (hji ▸ hi)
        simpa only [Function.update_of_ne hji] using hhidden j hj
    · -- the step of another one is made in the first run only
      obtain ⟨hV', hother⟩ := moves_hidden (hhidden i hi) hwv hmoves
      refine ⟨⟨v, hv, hV', fun j hj => ?_, hstill⟩, fun j hj => ?_⟩
      · have hji : j ≠ i := fun hji => hi (hji ▸ hj)
        simpa only [Function.update_of_ne hji] using hsimilar j hj
      · by_cases hji : j = i
        · subst hji
          simpa only [Function.update_self] using hother
        · simpa only [Function.update_of_ne hji] using hhidden j hj
  exact hinv.1

end Run

end Concurrency
