import Vigiscam.Concurrency.Pool

/-!
# Programs made of atomic steps

A `Prog` is a program over a shared state that acts in atomic steps: each step
has a label, changes the state, and decides how the program goes on; a step that
fails goes on with its failure branch instead. Programs form a monad with
exceptions, so that a service method is written once and has two meanings:

- `Prog.run` runs it to its end with nobody in between;
- `Prog.Moves` is one step of it, so that a `Pool` interleaves many of them.

`Each` says that every step of a program satisfies a relation; `Passes` says that
a program cannot return a value without a step of a given kind. Both follow the
structure of the program (`Each.bind`, `Passes.bind_left`, `Passes.bind_right`), so
they are proved along the `do` block.
-/

namespace Concurrency

inductive Prog (σ ℓ ε α : Type) where
  | pure (a : α)
  | throw (e : ε)
  | step (label : ℓ) (update : σ → σ) (next : σ → Prog σ ℓ ε α) (fail : Prog σ ℓ ε α)

namespace Prog

variable {σ ℓ ε α β : Type}

/-! ## The monad -/

def bind : Prog σ ℓ ε α → (α → Prog σ ℓ ε β) → Prog σ ℓ ε β
  | pure a, k => k a
  | throw e, _ => throw e
  | step l update next fail, k => step l update (fun s => bind (next s) k) (bind fail k)

/-- Exceptions of the program, and of steps that fail, go to the handler. -/
def tryCatch : Prog σ ℓ ε α → (ε → Prog σ ℓ ε α) → Prog σ ℓ ε α
  | pure a, _ => pure a
  | throw e, handler => handler e
  | step l update next fail, handler =>
    step l update (fun s => tryCatch (next s) handler) (tryCatch fail handler)

instance : Monad (Prog σ ℓ ε) where
  pure := pure
  bind := bind

instance : MonadExceptOf ε (Prog σ ℓ ε) where
  throw := throw
  tryCatch := tryCatch

theorem bind_assoc {γ : Type} (p : Prog σ ℓ ε α) (f : α → Prog σ ℓ ε β) (g : β → Prog σ ℓ ε γ) :
    p >>= f >>= g = p >>= fun a => f a >>= g := by
  show bind (bind p f) g = bind p fun a => bind (f a) g
  induction p with
  | pure a => rfl
  | throw e => rfl
  | step l update next fail ihNext ihFail =>
    show step l _ _ _ = step l _ _ _
    rw [ihFail]
    congr 1
    exact funext ihNext

/-- One step that returns a value, and throws `e` where it fails. -/
def act (l : ℓ) (e : ε) (f : σ → α × σ) : Prog σ ℓ ε α :=
  step l (fun s => (f s).2) (fun s => pure (f s).1) (throw e)

/-- One step that the state may refuse: then it changes nothing and throws `e`. -/
def attempt (l : ℓ) (e : ε) (f : σ → Option (α × σ)) : Prog σ ℓ ε α :=
  step l (fun s => ((f s).map (·.2)).getD s)
    (fun s => ((f s).map fun r => pure r.1).getD (throw e)) (throw e)

/-! ## Running alone -/

def run : Prog σ ℓ ε α → σ → Except ε α × σ
  | pure a, s => (.ok a, s)
  | throw e, s => (.error e, s)
  | step _ update next _, s => run (next s) (update s)

/-- How a run goes on after its first part. -/
def andThen (k : α → Prog σ ℓ ε β) : Except ε α × σ → Except ε β × σ
  | (.ok a, s) => run (k a) s
  | (.error e, s) => (.error e, s)

@[simp] theorem andThen_ok (k : α → Prog σ ℓ ε β) (a : α) (s : σ) :
    andThen k (.ok a, s) = run (k a) s := rfl

@[simp] theorem andThen_error (k : α → Prog σ ℓ ε β) (e : ε) (s : σ) :
    andThen k (.error e, s) = (.error e, s) := rfl

@[simp] theorem run_pure (a : α) (s : σ) :
    run (Pure.pure a : Prog σ ℓ ε α) s = (.ok a, s) := rfl

@[simp] theorem run_throw (e : ε) (s : σ) :
    run (MonadExcept.throw e : Prog σ ℓ ε α) s = (.error e, s) := rfl

@[simp] theorem run_act (l : ℓ) (e : ε) (f : σ → α × σ) (s : σ) :
    run (act l e f) s = (.ok (f s).1, (f s).2) := rfl

theorem run_attempt_some {l : ℓ} {e : ε} {f : σ → Option (α × σ)} {s s' : σ} {a : α}
    (h : f s = some (a, s')) : run (attempt l e f) s = (.ok a, s') := by
  show run (((f s).map fun r => pure r.1).getD (throw e)) (((f s).map (·.2)).getD s) = _
  rw [h]
  rfl

theorem run_attempt_none {l : ℓ} {e : ε} {f : σ → Option (α × σ)} {s : σ} (h : f s = none) :
    run (attempt l e f) s = (.error e, s) := by
  show run (((f s).map fun r => pure r.1).getD (throw e)) (((f s).map (·.2)).getD s) = _
  rw [h]
  rfl

@[simp] theorem run_bind (p : Prog σ ℓ ε α) (k : α → Prog σ ℓ ε β) (s : σ) :
    run (p >>= k) s = andThen k (run p s) := by
  show run (bind p k) s = andThen k (run p s)
  induction p generalizing s with
  | pure a => rfl
  | throw e => rfl
  | step l update next fail ih _ => exact ih s (update s)

theorem run_bind_ok {p : Prog σ ℓ ε α} {k : α → Prog σ ℓ ε β} {s : σ} {a : α}
    (h : (run p s).1 = .ok a) : run (p >>= k) s = run (k a) (run p s).2 := by
  have hrun : run p s = (.ok a, (run p s).2) := Prod.ext h rfl
  exact (run_bind p k s).trans (congrArg (andThen k) hrun)

theorem run_bind_error {p : Prog σ ℓ ε α} {k : α → Prog σ ℓ ε β} {s : σ} {e : ε}
    (h : (run p s).1 = .error e) : run (p >>= k) s = (.error e, (run p s).2) := by
  have hrun : run p s = (.error e, (run p s).2) := Prod.ext h rfl
  exact (run_bind p k s).trans (congrArg (andThen k) hrun)

/-- A run that returns a value has come through its first part. -/
theorem run_bind_eq_ok {p : Prog σ ℓ ε α} {k : α → Prog σ ℓ ε β} {s s' : σ} {b : β}
    (h : run (p >>= k) s = (.ok b, s')) :
    ∃ a t, run p s = (.ok a, t) ∧ run (k a) t = (.ok b, s') := by
  rw [run_bind] at h
  cases hp : run p s with
  | mk result t =>
    rw [hp] at h
    cases result with
    | error e => cases h
    | ok a => exact ⟨a, t, rfl, h⟩

theorem run_attempt_eq_ok {l : ℓ} {e : ε} {f : σ → Option (α × σ)} {s s' : σ} {a : α}
    (h : run (attempt l e f) s = (.ok a, s')) : f s = some (a, s') := by
  cases hf : f s with
  | none =>
    rw [run_attempt_none hf] at h
    cases h
  | some r =>
    have hsome : f s = some (r.1, r.2) := hf
    rw [run_attempt_some hsome] at h
    obtain ⟨hok, hs⟩ := Prod.mk.inj h
    rw [← Except.ok.inj hok, ← hs]

theorem run_map (f : α → β) (p : Prog σ ℓ ε α) (s : σ) :
    run (f <$> p) s = ((run p s).1.map f, (run p s).2) := by
  show run (p >>= fun a => Pure.pure (f a)) s = _
  rw [run_bind]
  cases run p s with
  | mk r s' => cases r <;> rfl

/-- A handler does nothing to a run that returns a value. -/
theorem run_tryCatch_ok {p : Prog σ ℓ ε α} {handler : ε → Prog σ ℓ ε α} {s s' : σ} {a : α}
    (h : run p s = (.ok a, s')) : run (MonadExcept.tryCatch p handler) s = (.ok a, s') := by
  show run (tryCatch p handler) s = (.ok a, s')
  induction p generalizing s with
  | pure b => exact h
  | throw e => cases h
  | step l update next fail ih _ => exact ih s h

/-- A handler takes over where a run ends in an exception. -/
theorem run_tryCatch_error {p : Prog σ ℓ ε α} {handler : ε → Prog σ ℓ ε α} {s s' : σ} {e : ε}
    (h : run p s = (.error e, s')) :
    run (MonadExcept.tryCatch p handler) s = run (handler e) s' := by
  show run (tryCatch p handler) s = run (handler e) s'
  induction p generalizing s with
  | pure b => cases h
  | throw e' =>
    cases h
    rfl
  | step l update next fail ih _ => exact ih s h

/-! ## What every step does -/

/-- Every step of the program satisfies the relation. -/
def Each (R : ℓ → σ → σ → Prop) : Prog σ ℓ ε α → Prop
  | pure _ => True
  | throw _ => True
  | step l update next fail => (∀ s, R l s (update s) ∧ Each R (next s)) ∧ Each R fail

section Each

variable {R S : ℓ → σ → σ → Prop} {p : Prog σ ℓ ε α}

theorem Each.pure (a : α) : Each R (Pure.pure a : Prog σ ℓ ε α) := trivial

theorem Each.throw (e : ε) : Each R (MonadExcept.throw e : Prog σ ℓ ε α) := trivial

theorem Each.act {l : ℓ} {e : ε} {f : σ → α × σ} (h : ∀ s, R l s (f s).2) :
    Each R (act l e f) :=
  ⟨fun s => ⟨h s, trivial⟩, trivial⟩

theorem Each.attempt {l : ℓ} {e : ε} {f : σ → Option (α × σ)}
    (hsome : ∀ s a s', f s = some (a, s') → R l s s') (hnone : ∀ s, f s = none → R l s s) :
    Each R (attempt l e f) := by
  refine ⟨fun s => ?_, trivial⟩
  show R l s (((f s).map (·.2)).getD s) ∧
    Each R (((f s).map fun r => Prog.pure r.1).getD (Prog.throw e))
  cases hf : f s with
  | none => exact ⟨hnone s hf, trivial⟩
  | some r => exact ⟨hsome s r.1 r.2 hf, trivial⟩

theorem Each.bind {k : α → Prog σ ℓ ε β} (hp : Each R p) (hk : ∀ a, Each R (k a)) :
    Each R (p >>= k) := by
  show Each R (Prog.bind p k)
  induction p with
  | pure a => exact hk a
  | throw e => trivial
  | step l update next fail ihNext ihFail =>
    exact ⟨fun s => ⟨(hp.1 s).1, ihNext s (hp.1 s).2⟩, ihFail hp.2⟩

theorem Each.tryCatch {handler : ε → Prog σ ℓ ε α} (hp : Each R p)
    (hhandler : ∀ e, Each R (handler e)) : Each R (MonadExcept.tryCatch p handler) := by
  show Each R (Prog.tryCatch p handler)
  induction p with
  | pure a => trivial
  | throw e => exact hhandler e
  | step l update next fail ihNext ihFail =>
    exact ⟨fun s => ⟨(hp.1 s).1, ihNext s (hp.1 s).2⟩, ihFail hp.2⟩

theorem Each.mono (hp : Each R p) (h : ∀ l s s', R l s s' → S l s s') : Each S p := by
  induction p with
  | pure a => trivial
  | throw e => trivial
  | step l update next fail ihNext ihFail =>
    exact ⟨fun s => ⟨h _ _ _ (hp.1 s).1, ihNext s (hp.1 s).2⟩, ihFail hp.2⟩

/-- What every step keeps, a run keeps. -/
theorem Each.run {I : σ → Prop} (hp : Each (fun _ s s' => I s → I s') p) {s : σ} (hs : I s) :
    I (p.run s).2 := by
  induction p generalizing s with
  | pure a => exact hs
  | throw e => exact hs
  | step l update next fail ihNext _ => exact ihNext s (hp.1 s).2 ((hp.1 s).1 hs)

end Each

/-- The program cannot return a value without a step of the kind `L`. -/
def Passes (L : ℓ → Prop) : Prog σ ℓ ε α → Prop
  | pure _ => False
  | throw _ => True
  | step l _ next fail => (L l ∨ ∀ s, Passes L (next s)) ∧ Passes L fail

section Passes

variable {L : ℓ → Prop} {p : Prog σ ℓ ε α}

theorem Passes.throw (e : ε) : Passes L (MonadExcept.throw e : Prog σ ℓ ε α) := trivial

theorem Passes.act {l : ℓ} {e : ε} {f : σ → α × σ} (h : L l) : Passes L (act l e f) :=
  ⟨Or.inl h, trivial⟩

theorem Passes.attempt {l : ℓ} {e : ε} {f : σ → Option (α × σ)} (h : L l) :
    Passes L (attempt l e f) :=
  ⟨Or.inl h, trivial⟩

theorem Passes.bind_left {k : α → Prog σ ℓ ε β} (hp : Passes L p) : Passes L (p >>= k) := by
  show Passes L (Prog.bind p k)
  induction p with
  | pure a => exact hp.elim
  | throw e => trivial
  | step l update next fail ihNext ihFail =>
    exact ⟨hp.1.imp id fun h s => ihNext s (h s), ihFail hp.2⟩

theorem Passes.bind_right {k : α → Prog σ ℓ ε β} (hk : ∀ a, Passes L (k a)) :
    Passes L (p >>= k) := by
  show Passes L (Prog.bind p k)
  induction p with
  | pure a => exact hk a
  | throw e => trivial
  | step l update next fail ihNext ihFail => exact ⟨Or.inr ihNext, ihFail⟩

end Passes

/-! ## Steps among others -/

/-- One step of a program: its first step is done, where `allowed`, or it fails. -/
inductive Moves (allowed : ℓ → σ → Prop) : σ → Prog σ ℓ ε α → σ → Prog σ ℓ ε α → Prop
  | done {l : ℓ} {update : σ → σ} {next : σ → Prog σ ℓ ε α} {fail : Prog σ ℓ ε α} {s : σ} :
      allowed l s → Moves allowed s (step l update next fail) (update s) (next s)
  | failed {l : ℓ} {update : σ → σ} {next : σ → Prog σ ℓ ε α} {fail : Prog σ ℓ ε α} {s : σ} :
      Moves allowed s (step l update next fail) s fail

/-- A pool of programs, each at the point it has come to. -/
def interleaved {ι : Type} (allowed : ℓ → σ → Prop) : LocalStep ι σ (Prog σ ℓ ε α) :=
  fun _ s p s' p' => Moves allowed s p s' p'

/-- A pool in which each program has its own allowed steps. -/
def interleavedBy {ι : Type} (may : ι → ℓ → σ → Prop) : LocalStep ι σ (Prog σ ℓ ε α) :=
  fun i s p s' p' => Moves (may i) s p s' p'

end Prog

/-! ## At most one program gets through -/

section Settle

variable {ι σ ℓ ε α β : Type} [DecidableEq ι] {L : ℓ → Prop} {status : σ → β} {pending : β}
  {allowed : ℓ → σ → Prop} {s t : Pool ι σ (Prog σ ℓ ε α)} {mine : ι → Prop}

/-- A step settles the status when its label is in `L`, and leaves it alone otherwise. -/
def Settles (L : ℓ → Prop) (status : σ → β) (pending : β) (l : ℓ) (x x' : σ) : Prop :=
  (L l → status x' ≠ pending) ∧ (¬ L l → status x' = status x)

/-- The programs of `mine` that are through have settled the status, and only one
of them is. -/
structure OneThrough (L : ℓ → Prop) (status : σ → β) (pending : β) (mine : ι → Prop)
    (s : Pool ι σ (Prog σ ℓ ε α)) : Prop where
  each : ∀ i, (s.locals i).Each (Settles L status pending)
  settled : ∀ i, mine i → ¬ (s.locals i).Passes L → status s.shared ≠ pending
  one : ∀ i j, mine i → mine j → ¬ (s.locals i).Passes L → ¬ (s.locals j).Passes L → i = j

/-- A step that settles finds the status pending. -/
def FindsPending (L : ℓ → Prop) (status : σ → β) (pending : β) (allowed : ℓ → σ → Prop) : Prop :=
  ∀ l x, allowed l x → L l → status x = pending

/-- A step leaves the status alone and the program short of its settling step, or it
settles a pending status. -/
theorem moves_settle {x x' : σ} {p p' : Prog σ ℓ ε α}
    (hfinds : FindsPending L status pending allowed) (heach : p.Each (Settles L status pending))
    (hmoves : Prog.Moves allowed x p x' p') :
    p'.Each (Settles L status pending) ∧
      ((status x' = status x ∧ (p.Passes L → p'.Passes L)) ∨
        (status x = pending ∧ status x' ≠ pending)) := by
  cases hmoves with
  | failed => exact ⟨heach.2, Or.inl ⟨rfl, fun h => h.2⟩⟩
  | @done l update next fail _ hallowed =>
    obtain ⟨hstep, hnext⟩ := heach.1 x
    refine ⟨hnext, ?_⟩
    by_cases hl : L l
    · exact Or.inr ⟨hfinds l x hallowed hl, hstep.1 hl⟩
    · exact Or.inl ⟨hstep.2 hl, fun h => h.1.resolve_left hl x⟩

theorem OneThrough.step {i : ι} (hfinds : FindsPending L status pending allowed)
    (h : OneThrough L status pending mine s)
    (hstep : Pool.Step (Prog.interleaved allowed) i s t) :
    OneThrough L status pending mine t ∧
      (status s.shared ≠ pending → status t.shared = status s.shared) := by
  obtain ⟨hmoves⟩ := hstep
  rename_i x' p'
  obtain ⟨heach', hcases⟩ := moves_settle hfinds (h.each i) hmoves
  have heach : ∀ j, (Function.update s.locals i p' j).Each (Settles L status pending) := by
    intro j
    by_cases hj : j = i
    · rw [hj, Function.update_self]
      exact heach'
    · rw [Function.update_of_ne hj]
      exact h.each j
  rcases hcases with ⟨hsame, hpasses⟩ | ⟨hpending, hsettled⟩
  · -- nothing is settled: who is through was through before
    have hback : ∀ j, ¬ (Function.update s.locals i p' j).Passes L →
        ¬ (s.locals j).Passes L := by
      intro j hj
      by_cases hji : j = i
      · rw [hji, Function.update_self] at hj
        rw [hji]
        exact fun hpass => hj (hpasses hpass)
      · rwa [Function.update_of_ne hji] at hj
    refine ⟨⟨heach, fun j hmine hj => ?_, fun j k hj hk hj' hk' => ?_⟩, fun _ => hsame⟩
    · show status x' ≠ pending
      rw [hsame]
      exact h.settled j hmine (hback j hj)
    · exact h.one j k hj hk (hback j hj') (hback k hk')
  · -- the status was pending: nobody was through, and now only `i` can be
    have honly : ∀ j, mine j → ¬ (Function.update s.locals i p' j).Passes L → j = i := by
      intro j hmine hj
      by_contra hji
      rw [Function.update_of_ne hji] at hj
      exact h.settled j hmine hj hpending
    refine ⟨⟨heach, fun _ _ _ => hsettled, fun j k hj hk hj' hk' => ?_⟩,
      fun hne => absurd hpending hne⟩
    rw [honly j hj hj', honly k hk hk']

/-- **At most one program gets through.** Where a step that settles finds the status
pending, no two programs that must settle it can both be through, and a settled
status never changes again. -/
theorem Run.oneThrough (hfinds : FindsPending L status pending allowed)
    (hrun : Pool.Run (Prog.interleaved allowed) s t)
    (heach : ∀ i, (s.locals i).Each (Settles L status pending))
    (hpasses : ∀ i, mine i → (s.locals i).Passes L) : OneThrough L status pending mine t :=
  hrun.invariant
    ⟨heach, fun i hi h => absurd (hpasses i hi) h, fun i _ hi _ h _ => absurd (hpasses i hi) h⟩
    fun _ _ _ h hstep => (h.step hfinds hstep).1

/-- A settled status never changes again. -/
theorem Run.settled (hfinds : FindsPending L status pending allowed)
    (h : OneThrough L status pending mine s)
    (hrun : Pool.Run (Prog.interleaved allowed) s t) (hsettled : status s.shared ≠ pending) :
    status t.shared = status s.shared := by
  have hinv : OneThrough L status pending mine t ∧ status t.shared = status s.shared := by
    refine hrun.invariant (P := fun t => OneThrough L status pending mine t ∧
      status t.shared = status s.shared) ⟨h, rfl⟩ ?_
    rintro i u v ⟨hu, hsame⟩ hstep
    obtain ⟨hv, hkeeps⟩ := hu.step hfinds hstep
    exact ⟨hv, (hkeeps (hsame ▸ hsettled)).trans hsame⟩
  exact hinv.2

end Settle

/-! ## Some runs -/

namespace Prog

variable {ι σ ℓ ε α : Type} [DecidableEq ι]

/-- The state and the rest of a program after at most `n` steps, none of which fails. -/
def advance : Nat → σ → Prog σ ℓ ε α → σ × Prog σ ℓ ε α
  | 0, s, p => (s, p)
  | _ + 1, s, pure a => (s, pure a)
  | _ + 1, s, throw e => (s, throw e)
  | n + 1, s, step _ update next _ => advance n (update s) (next s)

/-- The value that a program has returned. -/
def returned : Prog σ ℓ ε α → Option α
  | pure a => some a
  | throw _ => none
  | step _ _ _ _ => none

theorem eq_pure_of_returned {p : Prog σ ℓ ε α} {a : α} (h : returned p = some a) : p = pure a := by
  cases p with
  | pure b => rw [Option.some.inj h]
  | throw e => cases h
  | step l update next fail => cases h

/-- The steps of `advance` are allowed. -/
def Permitted (allowed : ℓ → σ → Prop) : Nat → σ → Prog σ ℓ ε α → Prop
  | 0, _, _ => True
  | _ + 1, _, pure _ => True
  | _ + 1, _, throw _ => True
  | n + 1, s, step l update next _ => allowed l s ∧ Permitted allowed n (update s) (next s)

instance Permitted.decidable {allowed : ℓ → σ → Prop} [∀ l s, Decidable (allowed l s)] :
    (n : Nat) → (s : σ) → (p : Prog σ ℓ ε α) → Decidable (Permitted allowed n s p)
  | 0, _, _ => isTrue trivial
  | _ + 1, _, pure _ => isTrue trivial
  | _ + 1, _, throw _ => isTrue trivial
  | n + 1, s, step _ update next _ =>
    have : Decidable (Permitted allowed n (update s) (next s)) := decidable n (update s) (next s)
    inferInstanceAs (Decidable (_ ∧ _))

theorem permitted_true (n : Nat) (s : σ) (p : Prog σ ℓ ε α) :
    Permitted (fun _ _ => True) n s p := by
  induction n generalizing s p with
  | zero => trivial
  | succ n ih =>
    cases p with
    | pure a => trivial
    | throw e => trivial
    | step l update next fail => exact ⟨trivial, ih _ _⟩

/-- A program can advance on its own by steps that it may take. -/
theorem run_advance_of {step : LocalStep ι σ (Prog σ ℓ ε α)} {may : ι → ℓ → σ → Prop}
    {s : Pool ι σ (Prog σ ℓ ε α)} {x : σ} {locals : ι → Prog σ ℓ ε α}
    (hdone : ∀ i l update next fail s, may i l s →
      step i s (Prog.step l update next fail) (update s) (next s))
    (i : ι) (n : Nat) (h : Pool.Run step s ⟨x, locals⟩) (hmay : Permitted (may i) n x (locals i)) :
    Pool.Run step s
      ⟨(advance n x (locals i)).1, Function.update locals i (advance n x (locals i)).2⟩ := by
  have hgo : ∀ n x p, Permitted (may i) n x p →
      Pool.Run step s ⟨x, Function.update locals i p⟩ →
      Pool.Run step s ⟨(advance n x p).1, Function.update locals i (advance n x p).2⟩ := by
    intro n
    induction n with
    | zero => exact fun _ _ _ h => h
    | succ n ih =>
      intro x p hp h
      cases p with
      | pure a => exact h
      | throw e => exact h
      | step l update next fail => exact ih _ _ hp.2 (h.next (hdone _ _ _ _ _ _ hp.1))
  exact hgo n x (locals i) hmay (h.at rfl)

theorem run_advance {allowed : ℓ → σ → Prop} {s : Pool ι σ (Prog σ ℓ ε α)} {x : σ}
    {locals : ι → Prog σ ℓ ε α} (i : ι) (n : Nat)
    (h : Pool.Run (interleaved allowed) s ⟨x, locals⟩)
    (hallowed : Permitted allowed n x (locals i)) :
    Pool.Run (interleaved allowed) s
      ⟨(advance n x (locals i)).1, Function.update locals i (advance n x (locals i)).2⟩ :=
  run_advance_of (fun _ _ _ _ _ _ h => Moves.done h) i n h hallowed

/-! ### Turns -/

/-- Process `i` takes `n` steps, none of which fails. -/
def turn (s : Pool ι σ (Prog σ ℓ ε α)) (i : ι) (n : Nat) : Pool ι σ (Prog σ ℓ ε α) :=
  ⟨(advance n s.shared (s.locals i)).1,
    Function.update s.locals i (advance n s.shared (s.locals i)).2⟩

/-- The processes take turns. -/
def turns (s : Pool ι σ (Prog σ ℓ ε α)) : List (ι × Nat) → Pool ι σ (Prog σ ℓ ε α)
  | [] => s
  | (i, n) :: rest => turns (turn s i n) rest

/-- The steps of the turns may be taken. -/
def PermittedTurns (may : ι → ℓ → σ → Prop) (s : Pool ι σ (Prog σ ℓ ε α)) : List (ι × Nat) → Prop
  | [] => True
  | (i, n) :: rest =>
    Permitted (may i) n s.shared (s.locals i) ∧ PermittedTurns may (turn s i n) rest

instance PermittedTurns.decidable {may : ι → ℓ → σ → Prop} [∀ i l s, Decidable (may i l s)] :
    (s : Pool ι σ (Prog σ ℓ ε α)) → (order : List (ι × Nat)) →
      Decidable (PermittedTurns may s order)
  | _, [] => isTrue trivial
  | s, (i, n) :: rest =>
    have : Decidable (PermittedTurns may (turn s i n) rest) := decidable (turn s i n) rest
    inferInstanceAs (Decidable (_ ∧ _))

theorem run_turns_of {step : LocalStep ι σ (Prog σ ℓ ε α)} {may : ι → ℓ → σ → Prop}
    {s₀ s : Pool ι σ (Prog σ ℓ ε α)} {order : List (ι × Nat)}
    (hdone : ∀ i l update next fail s, may i l s →
      step i s (Prog.step l update next fail) (update s) (next s))
    (h : Pool.Run step s₀ s) (hmay : PermittedTurns may s order) :
    Pool.Run step s₀ (turns s order) := by
  induction order generalizing s with
  | nil => exact h
  | cons next rest ih => exact ih (run_advance_of hdone next.1 next.2 h hmay.1) hmay.2

theorem run_turns {may : ι → ℓ → σ → Prop} {s₀ s : Pool ι σ (Prog σ ℓ ε α)}
    {order : List (ι × Nat)} (h : Pool.Run (interleavedBy may) s₀ s)
    (hmay : PermittedTurns may s order) : Pool.Run (interleavedBy may) s₀ (turns s order) :=
  run_turns_of (fun _ _ _ _ _ _ h => Moves.done h) h hmay

theorem permittedTurns_true (s : Pool ι σ (Prog σ ℓ ε α)) (order : List (ι × Nat)) :
    PermittedTurns (fun _ _ _ => True) s order := by
  induction order generalizing s with
  | nil => trivial
  | cons next rest ih => exact ⟨permitted_true .., ih _⟩

end Prog

end Concurrency
