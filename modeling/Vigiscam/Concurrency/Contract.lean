import Vigiscam.Concurrency.Noted
import Vigiscam.Concurrency.Part
import Vigiscam.Concurrency.Rely

/-!
# Programs with contracts

A `Contract` says which steps a program may take, what the others do to the state between its
steps (`rely`), and what each step of its own does to it (`guar`). `Ensures inv c post p s`:
from the state `s` on, under its contract, every step of `p` keeps the invariant, and `p` ends
in a state, and with a value, of which `post` holds. A program that ends in an exception need
not bring `post` about.

`Run.ensures` is the rule of such runs: where what each program guarantees is what the others
rely on, every program of a pool brings about what it ensures.
-/

namespace Concurrency

structure Contract (σ ℓ : Type) where
  may : ℓ → σ → Prop
  rely : σ → σ → Prop
  guar : σ → σ → Prop

namespace Prog

variable {σ γ ℓ ε α β : Type} {inv : σ → Prop} {c : Contract σ ℓ} {post : α → σ → Prop}
  {p : Prog σ ℓ ε α} {s t : σ}

/-- A step that is within the contract. -/
structure Within (inv : σ → Prop) (c : Contract σ ℓ) (s t : σ) : Prop where
  inv : inv t
  guar : c.guar s t

def Ensures (inv : σ → Prop) (c : Contract σ ℓ) (post : α → σ → Prop) : Prog σ ℓ ε α → σ → Prop
  | pure a, s => ∀ t, c.rely s t → post a t
  | throw _, _ => True
  | step l update next fail, s => ∀ t, c.rely s t → inv t →
      (c.may l t → Within inv c t (update t) ∧ Ensures inv c post (next t) (update t)) ∧
        Ensures inv c post fail t

/-- What the others do leaves a program what it ensures. -/
theorem Ensures.after (hrely : Closed c.rely) (h : Ensures inv c post p s) (hst : c.rely s t) :
    Ensures inv c post p t := by
  cases p with
  | pure a => exact fun u htu => h u (hrely.trans hst htu)
  | throw e => trivial
  | step l update next fail => exact fun u htu => h u (hrely.trans hst htu)

/-! ## Along a program -/

theorem Ensures.pure {a : α} (h : ∀ t, c.rely s t → post a t) :
    Ensures inv c post (Pure.pure a : Prog σ ℓ ε α) s := h

theorem Ensures.bind {mid : β → σ → Prop} {q : Prog σ ℓ ε β} {k : β → Prog σ ℓ ε α}
    (hrely : Closed c.rely) (hq : Ensures inv c mid q s)
    (hk : ∀ b t, mid b t → Ensures inv c post (k b) t) : Ensures inv c post (q >>= k) s := by
  show Ensures inv c post (Prog.bind q k) s
  induction q generalizing s with
  | pure b => exact hk b s (hq s (hrely.refl s))
  | throw e => trivial
  | step l update next fail ihNext ihFail =>
    intro t hst hinv
    obtain ⟨hdone, hfail⟩ := hq t hst hinv
    exact ⟨fun hmay => ⟨(hdone hmay).1, ihNext t (hdone hmay).2⟩, ihFail hfail⟩

theorem Ensures.act_bind {l : ℓ} {e : ε} {f : σ → β × σ} {k : β → Prog σ ℓ ε α}
    (h : ∀ t, c.rely s t → inv t → c.may l t →
      Within inv c t (f t).2 ∧ Ensures inv c post (k (f t).1) (f t).2) :
    Ensures inv c post (act l e f >>= k) s :=
  fun t hst hinv => ⟨fun hmay => h t hst hinv hmay, trivial⟩

/-- A step that may be refused goes on where it is not. -/
theorem Ensures.attempt_bind {l : ℓ} {e : ε} {f : σ → Option (β × σ)} {k : β → Prog σ ℓ ε α}
    (hsome : ∀ t b u, c.rely s t → inv t → c.may l t → f t = some (b, u) →
      Within inv c t u ∧ Ensures inv c post (k b) u)
    (hnone : ∀ t, c.rely s t → inv t → c.may l t → f t = none → Within inv c t t) :
    Ensures inv c post (attempt l e f >>= k) s := by
  refine fun t hst hinv => ⟨fun hmay => ?_, trivial⟩
  show Within inv c t (((f t).map (·.2)).getD t) ∧ Ensures inv c post
    (Prog.bind (((f t).map fun r => Prog.pure r.1).getD (Prog.throw e)) k)
      (((f t).map (·.2)).getD t)
  cases hf : f t with
  | none => exact ⟨hnone t hst hinv hmay hf, trivial⟩
  | some r => exact hsome t r.1 r.2 hst hinv hmay hf

/-- Such a step as a program of its own. -/
theorem Ensures.attempt_last {l : ℓ} {e : ε} {f : σ → Option (α × σ)}
    (hsome : ∀ t a u, c.rely s t → inv t → c.may l t → f t = some (a, u) →
      Within inv c t u ∧ ∀ v, c.rely u v → post a v)
    (hnone : ∀ t, c.rely s t → inv t → c.may l t → f t = none → Within inv c t t) :
    Ensures inv c post (attempt l e f) s := by
  refine fun t hst hinv => ⟨fun hmay => ?_, trivial⟩
  show Within inv c t (((f t).map (·.2)).getD t) ∧ Ensures inv c post
    (((f t).map fun r => Prog.pure r.1).getD (Prog.throw e)) (((f t).map (·.2)).getD t)
  cases hf : f t with
  | none => exact ⟨hnone t hst hinv hmay hf, trivial⟩
  | some r => exact hsome t r.1 r.2 hst hinv hmay hf

/-- Steps within the contract bring about what follows from a closed relation that they and the
others keep. -/
theorem Ensures.each_within {R : σ → σ → Prop} (hR : Closed R) (hrely : ∀ s t, c.rely s t → R s t)
    (hp : Each (fun _ s t => inv s → Within inv c s t ∧ R s t) p)
    (hpost : ∀ a t, R s t → post a t) : Ensures inv c post p s := by
  induction p generalizing s with
  | pure a => exact fun t hst => hpost a t (hrely s t hst)
  | throw e => trivial
  | step l update next fail ihNext ihFail =>
    intro t hst hinv
    obtain ⟨hwithin, hstep⟩ := (hp.1 t).1 hinv
    have hst := hrely s t hst
    refine ⟨fun _ => ⟨hwithin, ?_⟩, ?_⟩
    · exact ihNext t (hp.1 t).2 fun a u htu => hpost a u (hR.trans hst (hR.trans hstep htu))
    · exact ihFail hp.2 fun a u htu => hpost a u (hR.trans hst htu)

/-- Steps that change nothing a program relies on bring about what holds already. -/
theorem Ensures.each (hrely : Closed c.rely)
    (hp : Each (fun _ s t => inv s → Within inv c s t ∧ c.rely s t) p)
    (hpost : ∀ a t, c.rely s t → post a t) : Ensures inv c post p s :=
  Ensures.each_within hrely (fun _ _ h => h) hp hpost

/-- After such steps a program goes on as it was. -/
theorem Ensures.each_bind (hrely : Closed c.rely) {q : Prog σ ℓ ε β} {k : β → Prog σ ℓ ε α}
    (hq : Each (fun _ s t => inv s → Within inv c s t ∧ c.rely s t) q)
    (hk : ∀ b t, c.rely s t → Ensures inv c post (k b) t) : Ensures inv c post (q >>= k) s :=
  Ensures.bind hrely (Ensures.each hrely hq fun _ _ h => h) hk

theorem Ensures.mono {post' : α → σ → Prop} (h : Ensures inv c post p s)
    (hpost : ∀ a t, post a t → post' a t) : Ensures inv c post' p s := by
  induction p generalizing s with
  | pure a => exact fun t hst => hpost a t (h t hst)
  | throw e => trivial
  | step l update next fail ihNext ihFail =>
    intro t hst hinv
    obtain ⟨hdone, hfail⟩ := h t hst hinv
    exact ⟨fun hmay => ⟨(hdone hmay).1, ihNext t (hdone hmay).2⟩, ihFail hfail⟩

/-- A handler goes on from whatever state an exception was thrown in. -/
theorem Ensures.tryCatch {handler : ε → Prog σ ℓ ε α} (hp : Ensures inv c post p s)
    (hhandler : ∀ e t, Ensures inv c post (handler e) t) :
    Ensures inv c post (MonadExcept.tryCatch p handler) s := by
  show Ensures inv c post (Prog.tryCatch p handler) s
  induction p generalizing s with
  | pure a => exact hp
  | throw e => exact hhandler e s
  | step l update next fail ihNext ihFail =>
    intro t hst hinv
    obtain ⟨hdone, hfail⟩ := hp t hst hinv
    exact ⟨fun hmay => ⟨(hdone hmay).1, ihNext t (hdone hmay).2⟩, ihFail hfail⟩

/-- What a program and the others keep to, holds between its start and its end. -/
theorem Ensures.frame {R : σ → σ → Prop} (hR : Closed R) (hrely : ∀ s t, c.rely s t → R s t)
    (hguar : ∀ s t, c.guar s t → R s t) (h : Ensures inv c post p s) :
    Ensures inv c (fun a t => post a t ∧ R s t) p s := by
  have hfrom : ∀ s₀, R s₀ s → Ensures inv c (fun a t => post a t ∧ R s₀ t) p s := by
    intro s₀
    induction p generalizing s with
    | pure a => exact fun hs t hst => ⟨h t hst, hR.trans hs (hrely s t hst)⟩
    | throw e => exact fun _ => trivial
    | step l update next fail ihNext ihFail =>
      intro hs t hst hinv
      obtain ⟨hdone, hfail⟩ := h t hst hinv
      have ht := hR.trans hs (hrely s t hst)
      refine ⟨fun hmay => ?_, ihFail hfail ht⟩
      obtain ⟨hwithin, hnext⟩ := hdone hmay
      exact ⟨hwithin, ihNext t hnext (hR.trans ht (hguar _ _ hwithin.guar))⟩
  exact hfrom s (hR.refl s)

/-- What every step guarantees to keep may be had with the invariant. -/
theorem Ensures.keeping {B : σ → Prop} (hB : ∀ s t, c.guar s t → B s → B t)
    (h : Ensures inv c post p s) : Ensures (fun s => inv s ∧ B s) c post p s := by
  induction p generalizing s with
  | pure a => exact h
  | throw e => trivial
  | step l update next fail ihNext ihFail =>
    rintro t hst ⟨hinv, hkept⟩
    obtain ⟨hdone, hfail⟩ := h t hst hinv
    refine ⟨fun hmay => ?_, ihFail hfail⟩
    obtain ⟨hwithin, hnext⟩ := hdone hmay
    exact ⟨⟨⟨hwithin.inv, hB _ _ hwithin.guar hkept⟩, hwithin.guar⟩, ihNext t hnext⟩

end Prog

/-! ## Programs with a history -/

namespace Prog

variable {σ γ ℓ ε α β : Type} {inv : σ × γ → Prop} {c : Contract (σ × γ) ℓ}
  {post : α → σ × γ → Prop} {x : σ × γ} {note : ℓ → σ → γ → γ}

theorem noting_bind (p : Prog σ ℓ ε β) (k : β → Prog σ ℓ ε α) :
    (p >>= k).noting note = p.noting note >>= fun b => (k b).noting note := by
  show (Prog.bind p k).noting note = Prog.bind (p.noting note) fun b => (k b).noting note
  induction p with
  | pure b => rfl
  | throw e => rfl
  | step l update next fail ihNext ihFail =>
    show step l _ _ _ = step l _ _ _
    congr 1
    exact funext fun x => ihNext x.1

theorem noting_tryCatch (p : Prog σ ℓ ε α) (handler : ε → Prog σ ℓ ε α) :
    (MonadExcept.tryCatch p handler).noting note =
      MonadExcept.tryCatch (p.noting note) fun e => (handler e).noting note := by
  show (Prog.tryCatch p handler).noting note =
    Prog.tryCatch (p.noting note) fun e => (handler e).noting note
  induction p with
  | pure a => rfl
  | throw e => rfl
  | step l update next fail ihNext ihFail =>
    show step l _ _ _ = step l _ _ _
    congr 1
    exact funext fun x => ihNext x.1

theorem noting_act (l : ℓ) (e : ε) (f : σ → α × σ) :
    (act l e f).noting note = act l e fun x => ((f x.1).1, ((f x.1).2, note l x.1 x.2)) := rfl

/-- A step that may be refused is noted in either case. -/
theorem Ensures.noting_attempt_bind {l : ℓ} {e : ε} {f : σ → Option (β × σ)}
    {k : β → Prog (σ × γ) ℓ ε α}
    (hsome : ∀ y b u, c.rely x y → inv y → c.may l y → f y.1 = some (b, u) →
      Within inv c y (u, note l y.1 y.2) ∧ Ensures inv c post (k b) (u, note l y.1 y.2))
    (hnone : ∀ y, c.rely x y → inv y → c.may l y → f y.1 = none →
      Within inv c y (y.1, note l y.1 y.2)) :
    Ensures inv c post ((attempt l e f).noting note >>= k) x := by
  refine fun y hxy hinv => ⟨fun hmay => ?_, trivial⟩
  show Within inv c y (((f y.1).map (·.2)).getD y.1, note l y.1 y.2) ∧
    Ensures inv c post
      (Prog.bind ((((f y.1).map fun r => Prog.pure r.1).getD (Prog.throw e)).noting note) k)
      (((f y.1).map (·.2)).getD y.1, note l y.1 y.2)
  cases hf : f y.1 with
  | none => exact ⟨hnone y hxy hinv hmay hf, trivial⟩
  | some r => exact hsome y r.1 r.2 hxy hinv hmay hf

/-- Such a step as a program of its own. -/
theorem Ensures.noting_attempt {l : ℓ} {e : ε} {f : σ → Option (α × σ)}
    (hsome : ∀ y a u, c.rely x y → inv y → c.may l y → f y.1 = some (a, u) →
      Within inv c y (u, note l y.1 y.2) ∧
        ∀ z, c.rely (u, note l y.1 y.2) z → post a z)
    (hnone : ∀ y, c.rely x y → inv y → c.may l y → f y.1 = none →
      Within inv c y (y.1, note l y.1 y.2)) :
    Ensures inv c post ((attempt l e f).noting note) x := by
  refine fun y hxy hinv => ⟨fun hmay => ?_, trivial⟩
  show Within inv c y (((f y.1).map (·.2)).getD y.1, note l y.1 y.2) ∧
    Ensures inv c post
      ((((f y.1).map fun r => Prog.pure r.1).getD (Prog.throw e)).noting note)
      (((f y.1).map (·.2)).getD y.1, note l y.1 y.2)
  cases hf : f y.1 with
  | none => exact ⟨hnone y hxy hinv hmay hf, trivial⟩
  | some r => exact hsome y r.1 r.2 hxy hinv hmay hf

end Prog

/-! ## Runs -/

section Run

variable {ι σ ℓ ε α : Type} {inv : σ → Prop}

/-- A step of a program is within its contract, and leaves it what it ensures. -/
theorem moves_ensures {c : Contract σ ℓ} {post : α → σ → Prop} {x x' : σ} {p p' : Prog σ ℓ ε α}
    (hrely : Closed c.rely) (hguar : ∀ x, c.guar x x) (hinv : inv x) (h : p.Ensures inv c post x)
    (hmoves : Prog.Moves c.may x p x' p') : Prog.Within inv c x x' ∧ p'.Ensures inv c post x' := by
  cases hmoves with
  | done hmay => exact (h x (hrely.refl x) hinv).1 hmay
  | failed => exact ⟨⟨hinv, hguar x⟩, (h x (hrely.refl x) hinv).2⟩

/-- **Contract rule**: where what each program guarantees is what the others rely on, the
invariant holds along every run, every program brings about what it ensures, and the run is
within any closed relation that every program guarantees. -/
theorem Run.ensures_within [DecidableEq ι] {c : ι → Contract σ ℓ} (post : ι → α → σ → Prop)
    {R : σ → σ → Prop} {s t : Pool ι σ (Prog σ ℓ ε α)}
    (hrun : Pool.Run (Prog.interleavedBy fun i => (c i).may) s t)
    (hrely : ∀ i, Closed (c i).rely) (hguar : ∀ i x, (c i).guar x x)
    (hothers : ∀ i j x y, j ≠ i → (c i).guar x y → (c j).rely x y) (hR : Closed R)
    (hwithin : ∀ i x y, (c i).guar x y → R x y) (hinv : inv s.shared)
    (hlocals : ∀ i, (s.locals i).Ensures inv (c i) (post i) s.shared) :
    R s.shared t.shared ∧ inv t.shared ∧
      ∀ i, (t.locals i).Ensures inv (c i) (post i) t.shared := by
  refine hrun.invariant (P := fun t => R s.shared t.shared ∧ inv t.shared ∧
    ∀ i, (t.locals i).Ensures inv (c i) (post i) t.shared) ⟨hR.refl _, hinv, hlocals⟩ ?_
  rintro i u _ ⟨hsu, hu, hall⟩ ⟨hmoves⟩
  obtain ⟨hstep, hself⟩ := moves_ensures (hrely i) (hguar i) hu (hall i) hmoves
  refine ⟨hR.trans hsu (hwithin i _ _ hstep.guar), hstep.inv, fun j => ?_⟩
  by_cases hj : j = i
  · subst hj
    simpa only [Function.update_self] using hself
  · simpa only [Function.update_of_ne hj] using
      (hall j).after (hrely j) (hothers i j _ _ hj hstep.guar)

theorem Run.ensures [DecidableEq ι] {c : ι → Contract σ ℓ} (post : ι → α → σ → Prop)
    {s t : Pool ι σ (Prog σ ℓ ε α)} (hrun : Pool.Run (Prog.interleavedBy fun i => (c i).may) s t)
    (hrely : ∀ i, Closed (c i).rely) (hguar : ∀ i x, (c i).guar x x)
    (hothers : ∀ i j x y, j ≠ i → (c i).guar x y → (c j).rely x y) (hinv : inv s.shared)
    (hlocals : ∀ i, (s.locals i).Ensures inv (c i) (post i) s.shared) :
    inv t.shared ∧ ∀ i, (t.locals i).Ensures inv (c i) (post i) t.shared :=
  (Run.ensures_within post hrun hrely hguar hothers ⟨fun _ => trivial, fun _ _ => trivial⟩
    (fun _ _ _ _ => trivial) hinv hlocals).2

end Run

/-!
## Contracts on a part of the state

What a program ensures on its part of the state it ensures on the whole, where the contract of the
whole gives what it relies on, and takes what it guarantees. `Ensures.under` puts aside what is
known when a program starts and what nobody takes back.
-/

namespace Prog

variable {τ σ ℓ ℓ' ε α : Type} {part : Part τ σ} {label : ℓ → ℓ'} {inv : τ → Prop}
  {c : Contract τ ℓ'} {post : α → τ → Prop} {inv' : σ → Prop} {c' : Contract σ ℓ}
  {post' : α → σ → Prop}

/-- **Lifting**: a program on a part keeps a contract of the whole. -/
theorem Ensures.onPart {q : Prog σ ℓ ε α} {t : τ} (hinv : ∀ t, inv t → inv' (part.get t))
    (hrely : ∀ t u, c.rely t u → c'.rely (part.get t) (part.get u))
    (hmay : ∀ l t, c.may (label l) t → c'.may l (part.get t))
    (hwithin : ∀ t x, inv t → Within inv' c' (part.get t) x → Within inv c t (part.set x t))
    (hpost : ∀ a t, post' a (part.get t) → post a t) (h : q.Ensures inv' c' post' (part.get t)) :
    (q.onPart part label).Ensures inv c post t := by
  induction q generalizing t with
  | pure a => exact fun u htu => hpost a u (h _ (hrely t u htu))
  | throw e => trivial
  | step l update next fail ihNext ihFail =>
    intro u htu hu
    obtain ⟨hdone, hfail⟩ := h _ (hrely t u htu) (hinv u hu)
    refine ⟨fun hallowed => ?_, ihFail hfail⟩
    obtain ⟨hstep, hnext⟩ := hdone (hmay l u hallowed)
    refine ⟨hwithin u _ hu hstep, ihNext _ ?_⟩
    rw [part.get_set]
    exact hnext

/-- What holds at the start, and what every step keeps, may be had with the invariant. -/
theorem Ensures.under {B : τ → Prop} {q : Prog τ ℓ' ε α} {t : τ}
    (hrely : ∀ t u, c.rely t u → B t → B u) (hguar : ∀ t u, c.guar t u → B t → B u) (ht : B t)
    (h : q.Ensures (fun t => inv t ∧ B t) c post t) : q.Ensures inv c post t := by
  induction q generalizing t with
  | pure a => exact h
  | throw e => trivial
  | step l update next fail ihNext ihFail =>
    intro u htu hu
    have hB := hrely t u htu ht
    obtain ⟨hdone, hfail⟩ := h u htu ⟨hu, hB⟩
    refine ⟨fun hmay => ?_, ihFail hB hfail⟩
    obtain ⟨hstep, hnext⟩ := hdone hmay
    exact ⟨⟨hstep.inv.1, hstep.guar⟩, ihNext _ (hguar _ _ hstep.guar hB) hnext⟩

end Prog

end Concurrency
