import Vigiscam.Concurrency.Contract

/-!
# Steps that do not fail

`Prog.Moves` lets any step fail. `Prog.MovesSure` is one step of a program where the steps of a
kind `sure` do not fail: they are done, or not taken at all.

`Assures` is `Ensures` for such runs: a program need not say what it does where a sure step fails.
-/

namespace Concurrency

namespace Prog

variable {σ ℓ ε α β : Type}

/-- One step of a program: it is done, where `allowed`, or it fails, where it is not `sure`. -/
inductive MovesSure (allowed : ℓ → σ → Prop) (sure : ℓ → Prop) :
    σ → Prog σ ℓ ε α → σ → Prog σ ℓ ε α → Prop
  | done {l : ℓ} {update : σ → σ} {next : σ → Prog σ ℓ ε α} {fail : Prog σ ℓ ε α} {s : σ} :
      allowed l s → MovesSure allowed sure s (step l update next fail) (update s) (next s)
  | failed {l : ℓ} {update : σ → σ} {next : σ → Prog σ ℓ ε α} {fail : Prog σ ℓ ε α} {s : σ} :
      ¬ sure l → MovesSure allowed sure s (step l update next fail) s fail

/-- A pool of programs whose sure steps do not fail. -/
def surely {ι : Type} (allowed : ℓ → σ → Prop) (sure : ℓ → Prop) : LocalStep ι σ (Prog σ ℓ ε α) :=
  fun _ s p s' p' => MovesSure allowed sure s p s' p'

theorem MovesSure.moves {allowed : ℓ → σ → Prop} {sure : ℓ → Prop} {s s' : σ}
    {p p' : Prog σ ℓ ε α} (h : MovesSure allowed sure s p s' p') : Moves allowed s p s' p' := by
  cases h with
  | done hallowed => exact .done hallowed
  | failed _ => exact .failed

section Inversion

variable {allowed : ℓ → σ → Prop} {sure : ℓ → Prop} {s s' : σ} {p' : Prog σ ℓ ε β} {l : ℓ} {e : ε}
  {k : α → Prog σ ℓ ε β}

/-- What a step does that a program begins with. -/
theorem MovesSure.act_bind {f : σ → α × σ}
    (h : MovesSure allowed sure s (act l e f >>= k) s' p') :
    (allowed l s ∧ s' = (f s).2 ∧ p' = k (f s).1) ∨ (¬ sure l ∧ s' = s ∧ p' = throw e) := by
  cases h with
  | done hallowed => exact Or.inl ⟨hallowed, rfl, rfl⟩
  | failed hsure => exact Or.inr ⟨hsure, rfl, rfl⟩

/-- What a step does that may be refused. -/
theorem MovesSure.attempt_bind {f : σ → Option (α × σ)}
    (h : MovesSure allowed sure s (attempt l e f >>= k) s' p') :
    (∃ a, allowed l s ∧ f s = some (a, s') ∧ p' = k a) ∨ (s' = s ∧ p' = throw e) := by
  cases h with
  | failed _ => exact Or.inr ⟨rfl, rfl⟩
  | done hallowed =>
    show (∃ a, allowed l s ∧ f s = some (a, ((f s).map (·.2)).getD s) ∧
      Prog.bind (((f s).map fun r => Prog.pure r.1).getD (Prog.throw e)) k = k a) ∨
      (((f s).map (·.2)).getD s = s ∧
        Prog.bind (((f s).map fun r => Prog.pure r.1).getD (Prog.throw e)) k = Prog.throw e)
    cases hf : f s with
    | none => exact Or.inr ⟨rfl, rfl⟩
    | some r => exact Or.inl ⟨r.1, hallowed, rfl, rfl⟩

end Inversion

/-! ## What a program assures -/

section Assures

variable {inv : σ → Prop} {c : Contract σ ℓ} {sure : ℓ → Prop} {post : Except ε α → σ → Prop}
  {p : Prog σ ℓ ε α} {s t : σ}

def Assures (sure : ℓ → Prop) (inv : σ → Prop) (c : Contract σ ℓ)
    (post : Except ε α → σ → Prop) : Prog σ ℓ ε α → σ → Prop
  | pure a, s => ∀ t, c.rely s t → post (.ok a) t
  | throw e, s => ∀ t, c.rely s t → post (.error e) t
  | step l update next fail, s => ∀ t, c.rely s t → inv t →
      (c.may l t → Within inv c t (update t) ∧ Assures sure inv c post (next t) (update t)) ∧
        (¬ sure l → Assures sure inv c post fail t)

/-- What the others do leaves a program what it assures. -/
theorem Assures.after (hrely : Closed c.rely) (h : Assures sure inv c post p s)
    (hst : c.rely s t) : Assures sure inv c post p t := by
  cases p with
  | pure a => exact fun u htu => h u (hrely.trans hst htu)
  | throw e => exact fun u htu => h u (hrely.trans hst htu)
  | step l update next fail => exact fun u htu => h u (hrely.trans hst htu)

theorem Assures.pure {a : α} (h : ∀ t, c.rely s t → post (.ok a) t) :
    Assures sure inv c post (Pure.pure a : Prog σ ℓ ε α) s := h

theorem Assures.throw {e : ε} (h : ∀ t, c.rely s t → post (.error e) t) :
    Assures sure inv c post (MonadExcept.throw e : Prog σ ℓ ε α) s := h

theorem Assures.bind {mid : Except ε β → σ → Prop} {q : Prog σ ℓ ε β} {k : β → Prog σ ℓ ε α}
    (hrely : Closed c.rely) (hq : Assures sure inv c mid q s)
    (hk : ∀ b t, mid (.ok b) t → Assures sure inv c post (k b) t)
    (herror : ∀ e t, mid (.error e) t → post (.error e) t) :
    Assures sure inv c post (q >>= k) s := by
  show Assures sure inv c post (Prog.bind q k) s
  induction q generalizing s with
  | pure b => exact hk b s (hq s (hrely.refl s))
  | throw e => exact fun t hst => herror e t (hq t hst)
  | step l update next fail ihNext ihFail =>
    intro t hst hinv
    obtain ⟨hdone, hfail⟩ := hq t hst hinv
    exact ⟨fun hmay => ⟨(hdone hmay).1, ihNext t (hdone hmay).2⟩,
      fun hsure => ihFail (hfail hsure)⟩

/-- A handler goes on from where an exception was thrown. -/
theorem Assures.tryCatch {mid : Except ε α → σ → Prop} {handler : ε → Prog σ ℓ ε α}
    (hrely : Closed c.rely) (hp : Assures sure inv c mid p s)
    (hok : ∀ a t, mid (.ok a) t → post (.ok a) t)
    (hhandler : ∀ e t, mid (.error e) t → Assures sure inv c post (handler e) t) :
    Assures sure inv c post (MonadExcept.tryCatch p handler) s := by
  show Assures sure inv c post (Prog.tryCatch p handler) s
  induction p generalizing s with
  | pure a => exact fun t hst => hok a t (hp t hst)
  | throw e => exact hhandler e s (hp s (hrely.refl s))
  | step l update next fail ihNext ihFail =>
    intro t hst hinv
    obtain ⟨hdone, hfail⟩ := hp t hst hinv
    exact ⟨fun hmay => ⟨(hdone hmay).1, ihNext t (hdone hmay).2⟩,
      fun hsure => ihFail (hfail hsure)⟩

theorem Assures.act_bind {l : ℓ} {e : ε} {f : σ → β × σ} {k : β → Prog σ ℓ ε α} (hsure : sure l)
    (h : ∀ t, c.rely s t → inv t → c.may l t →
      Within inv c t (f t).2 ∧ Assures sure inv c post (k (f t).1) (f t).2) :
    Assures sure inv c post (act l e f >>= k) s :=
  fun t hst hinv => ⟨fun hmay => h t hst hinv hmay, fun hnot => absurd hsure hnot⟩

/-- A step goes on, and may fail, where it is not sure. -/
theorem Assures.act_then (hrely : Closed c.rely) {l : ℓ} {e : ε} {f : σ → β × σ}
    {k : β → Prog σ ℓ ε α} (h : ∀ t, c.rely s t → inv t → c.may l t →
      Within inv c t (f t).2 ∧ Assures sure inv c post (k (f t).1) (f t).2)
    (hfail : ∀ t, c.rely s t → post (.error e) t) :
    Assures sure inv c post (act l e f >>= k) s :=
  fun t hst hinv => ⟨fun hmay => h t hst hinv hmay,
    fun _ u htu => hfail u (hrely.trans hst htu)⟩

/-- Such a step as a program of its own. -/
theorem Assures.act (hrely : Closed c.rely) {l : ℓ} {e : ε} {f : σ → α × σ}
    (h : ∀ t, c.rely s t → inv t → c.may l t →
      Within inv c t (f t).2 ∧ ∀ u, c.rely (f t).2 u → post (.ok (f t).1) u)
    (hfail : ∀ t, c.rely s t → post (.error e) t) :
    Assures sure inv c post (act l e f) s :=
  fun t hst hinv => ⟨fun hmay => h t hst hinv hmay,
    fun _ u htu => hfail u (hrely.trans hst htu)⟩

/-- A step that may be refused goes on where it is not. -/
theorem Assures.attempt_then (hrely : Closed c.rely) {l : ℓ} {e : ε} {f : σ → Option (β × σ)}
    {k : β → Prog σ ℓ ε α} (hsome : ∀ t b u, c.rely s t → inv t → c.may l t → f t = some (b, u) →
      Within inv c t u ∧ Assures sure inv c post (k b) u)
    (hnone : ∀ t, c.rely s t → inv t → c.may l t → f t = none → Within inv c t t)
    (hfail : ∀ t, c.rely s t → post (.error e) t) :
    Assures sure inv c post (attempt l e f >>= k) s := by
  refine fun t hst hinv => ⟨fun hmay => ?_, fun _ u htu => hfail u (hrely.trans hst htu)⟩
  show Within inv c t (((f t).map (·.2)).getD t) ∧ Assures sure inv c post
    (Prog.bind (((f t).map fun r => Prog.pure r.1).getD (Prog.throw e)) k)
      (((f t).map (·.2)).getD t)
  cases hf : f t with
  | none => exact ⟨hnone t hst hinv hmay hf, fun u htu => hfail u (hrely.trans hst htu)⟩
  | some r => exact hsome t r.1 r.2 hst hinv hmay hf

/-- Steps within the contract bring about what follows from a closed relation that they and the
others keep. -/
theorem Assures.each {R : σ → σ → Prop} (hR : Closed R) (hrely : ∀ s t, c.rely s t → R s t)
    (hp : Each (fun _ s t => inv s → Within inv c s t ∧ R s t) p)
    (hpost : ∀ r t, R s t → post r t) : Assures sure inv c post p s := by
  induction p generalizing s with
  | pure a => exact fun t hst => hpost _ t (hrely s t hst)
  | throw e => exact fun t hst => hpost _ t (hrely s t hst)
  | step l update next fail ihNext ihFail =>
    intro t hst hinv
    obtain ⟨hwithin, hstep⟩ := (hp.1 t).1 hinv
    have hst := hrely s t hst
    refine ⟨fun _ => ⟨hwithin, ?_⟩, fun _ => ?_⟩
    · exact ihNext t (hp.1 t).2 fun r u htu => hpost r u (hR.trans hst (hR.trans hstep htu))
    · exact ihFail hp.2 fun r u htu => hpost r u (hR.trans hst htu)

theorem Assures.mono {post' : Except ε α → σ → Prop} (h : Assures sure inv c post p s)
    (hpost : ∀ r t, post r t → post' r t) : Assures sure inv c post' p s := by
  induction p generalizing s with
  | pure a => exact fun t hst => hpost _ t (h t hst)
  | throw e => exact fun t hst => hpost _ t (h t hst)
  | step l update next fail ihNext ihFail =>
    intro t hst hinv
    obtain ⟨hdone, hfail⟩ := h t hst hinv
    exact ⟨fun hmay => ⟨(hdone hmay).1, ihNext t (hdone hmay).2⟩,
      fun hsure => ihFail (hfail hsure)⟩

/-- What a program and the others keep to, holds between its start and its end. -/
theorem Assures.frame {R : σ → σ → Prop} (hR : Closed R) (hrely : ∀ s t, c.rely s t → R s t)
    (hguar : ∀ s t, c.guar s t → R s t) (h : Assures sure inv c post p s) :
    Assures sure inv c (fun r t => post r t ∧ R s t) p s := by
  have hfrom : ∀ s₀, R s₀ s → Assures sure inv c (fun r t => post r t ∧ R s₀ t) p s := by
    intro s₀
    induction p generalizing s with
    | pure a => exact fun hs t hst => ⟨h t hst, hR.trans hs (hrely s t hst)⟩
    | throw e => exact fun hs t hst => ⟨h t hst, hR.trans hs (hrely s t hst)⟩
    | step l update next fail ihNext ihFail =>
      intro hs t hst hinv
      obtain ⟨hdone, hfail⟩ := h t hst hinv
      have ht := hR.trans hs (hrely s t hst)
      refine ⟨fun hmay => ?_, fun hsure => ihFail (hfail hsure) ht⟩
      obtain ⟨hwithin, hnext⟩ := hdone hmay
      exact ⟨hwithin, ihNext t hnext (hR.trans ht (hguar _ _ hwithin.guar))⟩
  exact hfrom s (hR.refl s)

end Assures

section Noted

variable {γ : Type} {inv : σ × γ → Prop} {c : Contract (σ × γ) ℓ} {sure : ℓ → Prop}
  {post : Except ε α → σ × γ → Prop} {x : σ × γ} {note : ℓ → σ → γ → γ}

/-- A step that may be refused is noted in either case. -/
theorem Assures.noting_attempt_bind {l : ℓ} {e : ε} {f : σ → Option (β × σ)}
    {k : β → Prog (σ × γ) ℓ ε α} (hsure : sure l)
    (hsome : ∀ y b u, c.rely x y → inv y → c.may l y → f y.1 = some (b, u) →
      Within inv c y (u, note l y.1 y.2) ∧ Assures sure inv c post (k b) (u, note l y.1 y.2))
    (hnone : ∀ y, c.rely x y → inv y → c.may l y → f y.1 = none →
      Within inv c y (y.1, note l y.1 y.2) ∧
        ∀ u, c.rely (y.1, note l y.1 y.2) u → post (.error e) u) :
    Assures sure inv c post ((attempt l e f).noting note >>= k) x := by
  refine fun y hxy hinv => ⟨fun hmay => ?_, fun hnot => absurd hsure hnot⟩
  show Within inv c y (((f y.1).map (·.2)).getD y.1, note l y.1 y.2) ∧
    Assures sure inv c post
      (Prog.bind ((((f y.1).map fun r => Prog.pure r.1).getD (Prog.throw e)).noting note) k)
      (((f y.1).map (·.2)).getD y.1, note l y.1 y.2)
  cases hf : f y.1 with
  | none => exact hnone y hxy hinv hmay hf
  | some r => exact hsome y r.1 r.2 hxy hinv hmay hf

/-- Such a step as a program of its own. -/
theorem Assures.noting_attempt {l : ℓ} {e : ε} {f : σ → Option (α × σ)} (hsure : sure l)
    (hsome : ∀ y a u, c.rely x y → inv y → c.may l y → f y.1 = some (a, u) →
      Within inv c y (u, note l y.1 y.2) ∧
        ∀ z, c.rely (u, note l y.1 y.2) z → post (.ok a) z)
    (hnone : ∀ y, c.rely x y → inv y → c.may l y → f y.1 = none →
      Within inv c y (y.1, note l y.1 y.2) ∧
        ∀ z, c.rely (y.1, note l y.1 y.2) z → post (.error e) z) :
    Assures sure inv c post ((attempt l e f).noting note) x := by
  refine fun y hxy hinv => ⟨fun hmay => ?_, fun hnot => absurd hsure hnot⟩
  show Within inv c y (((f y.1).map (·.2)).getD y.1, note l y.1 y.2) ∧
    Assures sure inv c post
      ((((f y.1).map fun r => Prog.pure r.1).getD (Prog.throw e)).noting note)
      (((f y.1).map (·.2)).getD y.1, note l y.1 y.2)
  cases hf : f y.1 with
  | none => exact hnone y hxy hinv hmay hf
  | some r => exact hsome y r.1 r.2 hxy hinv hmay hf

end Noted

end Prog

/-! ## Runs -/

section Run

variable {ι σ ℓ ε α : Type} [DecidableEq ι] {allowed : ℓ → σ → Prop} {sure : ℓ → Prop}
  {s t : Pool ι σ (Prog σ ℓ ε α)}

/-- A step of a program is within its contract, and leaves it what it assures. -/
theorem moves_assures {inv : σ → Prop} {c : Contract σ ℓ} {post : Except ε α → σ → Prop}
    {x x' : σ} {p p' : Prog σ ℓ ε α} (hrely : Closed c.rely) (hguar : ∀ x, c.guar x x)
    (hmay : ∀ l x, allowed l x → c.may l x) (hinv : inv x) (h : p.Assures sure inv c post x)
    (hmoves : Prog.MovesSure allowed sure x p x' p') :
    Prog.Within inv c x x' ∧ p'.Assures sure inv c post x' := by
  cases hmoves with
  | done hallowed => exact (h x (hrely.refl x) hinv).1 (hmay _ _ hallowed)
  | failed hsure => exact ⟨⟨hinv, hguar x⟩, (h x (hrely.refl x) hinv).2 hsure⟩

/-- **Contract rule** for runs whose sure steps do not fail. -/
theorem Run.assures {inv : σ → Prop} {c : ι → Contract σ ℓ} (post : ι → Except ε α → σ → Prop)
    (hrun : Pool.Run (Prog.surely allowed sure) s t) (hrely : ∀ i, Closed (c i).rely)
    (hguar : ∀ i x, (c i).guar x x) (hmay : ∀ i l x, allowed l x → (c i).may l x)
    (hothers : ∀ i j x y, j ≠ i → (c i).guar x y → (c j).rely x y) (hinv : inv s.shared)
    (hlocals : ∀ i, (s.locals i).Assures sure inv (c i) (post i) s.shared) :
    inv t.shared ∧ ∀ i, (t.locals i).Assures sure inv (c i) (post i) t.shared := by
  refine hrun.invariant (P := fun t => inv t.shared ∧
    ∀ i, (t.locals i).Assures sure inv (c i) (post i) t.shared) ⟨hinv, hlocals⟩ ?_
  rintro i u _ ⟨hu, hall⟩ ⟨hmoves⟩
  obtain ⟨hwithin, hself⟩ := moves_assures (hrely i) (hguar i) (hmay i) hu (hall i) hmoves
  refine ⟨hwithin.inv, fun j => ?_⟩
  by_cases hj : j = i
  · subst hj
    simpa only [Function.update_self] using hself
  · simpa only [Function.update_of_ne hj] using
      (hall j).after (hrely j) (hothers i j _ _ hj hwithin.guar)

/-- **Every run has a history**, and one whose sure steps do not fail. -/
theorem Run.noting_sure {γ : Type} (note : ι → ℓ → σ → γ → γ) (history : γ)
    (hrun : Pool.Run (Prog.surely allowed sure) s t) :
    ∃ history', Pool.Run (Prog.surely (fun l x => allowed l x.1) sure)
      ⟨(s.shared, history), fun i => (s.locals i).noting (note i)⟩
      ⟨(t.shared, history'), fun i => (t.locals i).noting (note i)⟩ := by
  refine Run.noting_of (fun i u p x p' history hmoves => ?_) history hrun
  have hmove : Prog.MovesSure allowed sure u p x p' := hmoves
  cases hmove with
  | done hmay => exact ⟨_, .done hmay⟩
  | failed hsure => exact ⟨_, .failed hsure⟩

/-- No step of the turns fails, so that they are a run. -/
theorem run_turns_sure {s₀ : Pool ι σ (Prog σ ℓ ε α)} {order : List (ι × Nat)}
    (h : Pool.Run (Prog.surely allowed sure) s₀ s)
    (hmay : Prog.PermittedTurns (fun _ => allowed) s order) :
    Pool.Run (Prog.surely allowed sure) s₀ (Prog.turns s order) := by
  refine Prog.run_turns_of (fun _ _ _ _ _ _ h => Prog.MovesSure.done h) h hmay

end Run

/-!
## What a process holds

Each process holds a part of the state, and which part this is changes as the run goes on:
`keeps i s t` says that what `i` holds in `s` is as it was in `t`. A process may do what it likes
to what nobody else holds, and relies on the others to leave alone what it holds itself. Any step
may fail.
-/

section Holding

variable {ι σ ℓ ε α : Type} {keeps : ι → σ → σ → Prop}

def holding (keeps : ι → σ → σ → Prop) (i : ι) : Contract σ ℓ where
  may _ _ := True
  rely := keeps i
  guar s t := ∀ j, j ≠ i → keeps j s t

/-- `Assures` for a program whose steps may all fail, of a process that holds a part. -/
abbrev Prog.Holds (inv : σ → Prop) (keeps : ι → σ → σ → Prop) (i : ι)
    (post : Except ε α → σ → Prop) : Prog σ ℓ ε α → σ → Prop :=
  Prog.Assures (fun _ => False) inv (holding keeps i) post

theorem Prog.Moves.surely {allowed : ℓ → σ → Prop} {s s' : σ} {p p' : Prog σ ℓ ε α}
    (h : Prog.Moves allowed s p s' p') : Prog.MovesSure allowed (fun _ => False) s p s' p' := by
  cases h with
  | done hallowed => exact .done hallowed
  | failed => exact .failed not_false

/-- Where nothing is sure, any step may fail. -/
theorem Run.surely_of_interleaved [DecidableEq ι] {s t : Pool ι σ (Prog σ ℓ ε α)}
    {allowed : ℓ → σ → Prop} (hrun : Pool.Run (Prog.interleaved allowed) s t) :
    Pool.Run (Prog.surely allowed fun _ => False) s t := by
  refine hrun.invariant (P := fun t => Pool.Run (Prog.surely allowed fun _ => False) s t) .refl ?_
  rintro i u _ hu ⟨hmoves⟩
  exact hu.tail i (Prog.Moves.surely hmoves)

/-- **Holders**: where every program keeps to what the others do not hold, the invariant holds
along every run. -/
theorem Run.holding [DecidableEq ι] {s t : Pool ι σ (Prog σ ℓ ε α)} {inv : σ → Prop}
    (post : ι → Except ε α → σ → Prop) (hkeeps : ∀ i, Closed (keeps i))
    (hrun : Pool.Run (Prog.interleaved fun _ _ => True) s t) (hinv : inv s.shared)
    (hlocals : ∀ i, (s.locals i).Holds inv keeps i (post i) s.shared) : inv t.shared :=
  (Run.assures (c := Concurrency.holding keeps) post (Run.surely_of_interleaved hrun) hkeeps
    (fun _ x j _ => (hkeeps j).refl x) (fun _ _ _ h => h) (fun _ j _ _ hj h => h j hj) hinv
    hlocals).1

end Holding

end Concurrency
