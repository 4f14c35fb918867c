import Mathlib.Algebra.Order.BigOperators.Group.Finset
import Vigiscam.Concurrency.Sure

/-!
# Admission by a counter that is checked first and raised later

A program passes a gate where it finds a counter below the limit, and raises the counter in a step
of its own later on. Between the two others may pass as well, so the limit is not kept exactly:
each program may have one pass that is not counted yet.

`Admits` follows a program from pass to pass. `Run.admission` is the rule of such runs: with `n`
programs the counter stays below `limit + n`, and where no count is lost it is the number of the
passes, but for those that still wait to be counted.
-/

namespace Concurrency

/-- A counter with its limit, and the steps that may leave a pass uncounted when they fail. -/
structure Gate (σ ℓ : Type) where
  count : σ → Int
  limit : Int
  loses : ℓ → Prop

/-- Where a program stands: whether its last pass waits to be counted, and its passes so far. -/
structure Stage where
  waiting : Bool
  passed : Nat

namespace Gate

variable {σ ℓ ε α β : Type} {g : Gate σ ℓ} {x y : σ} {st st' : Stage}

/-- What a step does at the gate. -/
inductive Turn (g : Gate σ ℓ) (x y : σ) : Stage → Stage → Prop
  | keeps {st : Stage} : g.count y = g.count x → Turn g x y st st
  | passes {m : Nat} :
      g.count y = g.count x → g.count x < g.limit → Turn g x y ⟨false, m⟩ ⟨true, m + 1⟩
  | counts {m : Nat} : g.count y = g.count x + 1 → Turn g x y ⟨true, m⟩ ⟨false, m⟩

/-- What a step that fails does at the gate. -/
inductive Miss (g : Gate σ ℓ) (l : ℓ) : Stage → Stage → Prop
  | keeps {st : Stage} : Miss g l st st
  | loses {m : Nat} : g.loses l → Miss g l ⟨true, m⟩ ⟨false, m⟩

end Gate

namespace Prog

variable {σ ℓ ε α β : Type} {g : Gate σ ℓ} {allowed : ℓ → σ → Prop} {sure : ℓ → Prop}
  {post : Except ε α → Stage → Prop} {p : Prog σ ℓ ε α} {st : Stage}

/-- From its stage on, a program passes and counts in turns, and `post` holds of its end. -/
def Admits (g : Gate σ ℓ) (allowed : ℓ → σ → Prop) (sure : ℓ → Prop)
    (post : Except ε α → Stage → Prop) : Prog σ ℓ ε α → Stage → Prop
  | pure a, st => post (.ok a) st
  | throw e, st => post (.error e) st
  | step l update next fail, st =>
    (∀ s, allowed l s → ∃ st', g.Turn s (update s) st st' ∧
      Admits g allowed sure post (next s) st') ∧
      (¬ sure l → ∃ st', g.Miss l st st' ∧ Admits g allowed sure post fail st')

theorem Admits.pure {a : α} (h : post (.ok a) st) :
    Admits g allowed sure post (Pure.pure a : Prog σ ℓ ε α) st := h

theorem Admits.throw {e : ε} (h : post (.error e) st) :
    Admits g allowed sure post (MonadExcept.throw e : Prog σ ℓ ε α) st := h

theorem Admits.bind {M : Except ε β → Stage → Prop} {q : Prog σ ℓ ε β}
    {k : β → Prog σ ℓ ε α} (hq : Admits g allowed sure M q st)
    (hk : ∀ b st, M (.ok b) st → Admits g allowed sure post (k b) st)
    (herror : ∀ e st, M (.error e) st → post (.error e) st) :
    Admits g allowed sure post (q >>= k) st := by
  show Admits g allowed sure post (Prog.bind q k) st
  induction q generalizing st with
  | pure b => exact hk b st hq
  | throw e => exact herror e st hq
  | step l update next fail ihNext ihFail =>
    refine ⟨fun s hs => ?_, fun hsure => ?_⟩
    · obtain ⟨st', hturn, hnext⟩ := hq.1 s hs
      exact ⟨st', hturn, ihNext s hnext⟩
    · obtain ⟨st', hmiss, hfail⟩ := hq.2 hsure
      exact ⟨st', hmiss, ihFail hfail⟩

theorem Admits.tryCatch {M : Except ε α → Stage → Prop} {handler : ε → Prog σ ℓ ε α}
    (hp : Admits g allowed sure M p st) (hok : ∀ a st, M (.ok a) st → post (.ok a) st)
    (hhandler : ∀ e st, M (.error e) st → Admits g allowed sure post (handler e) st) :
    Admits g allowed sure post (MonadExcept.tryCatch p handler) st := by
  show Admits g allowed sure post (Prog.tryCatch p handler) st
  induction p generalizing st with
  | pure a => exact hok a st hp
  | throw e => exact hhandler e st hp
  | step l update next fail ihNext ihFail =>
    refine ⟨fun s hs => ?_, fun hsure => ?_⟩
    · obtain ⟨st', hturn, hnext⟩ := hp.1 s hs
      exact ⟨st', hturn, ihNext s hnext⟩
    · obtain ⟨st', hmiss, hfail⟩ := hp.2 hsure
      exact ⟨st', hmiss, ihFail hfail⟩

/-- Steps that leave the counter alone leave a program at its stage. -/
theorem Admits.each (hp : Each (fun _ x y => g.count y = g.count x) p)
    (hpost : ∀ r, post r st) : Admits g allowed sure post p st := by
  induction p with
  | pure a => exact hpost _
  | throw e => exact hpost _
  | step l update next fail ihNext ihFail =>
    exact ⟨fun s _ => ⟨st, .keeps (hp.1 s).1, ihNext s (hp.1 s).2⟩,
      fun _ => ⟨st, .keeps, ihFail hp.2⟩⟩

/-- A step with what it decides. -/
theorem Admits.act_bind {l : ℓ} {e : ε} {f : σ → β × σ} {k : β → Prog σ ℓ ε α}
    (hdone : ∀ s, allowed l s → ∃ st', g.Turn s (f s).2 st st' ∧
      Admits g allowed sure post (k (f s).1) st')
    (hfail : ¬ sure l → post (.error e) st) : Admits g allowed sure post (act l e f >>= k) st :=
  ⟨hdone, fun hsure => ⟨st, .keeps, hfail hsure⟩⟩

end Prog

/-! ## Runs -/

section Run

variable {ι σ ℓ ε α : Type} [DecidableEq ι] {g : Gate σ ℓ} {allowed : ℓ → σ → Prop}
  {sure : ℓ → Prop} {post : Except ε α → Stage → Prop} {workers : Finset ι} {i : ι}
  {stage : ι → Stage} {s t : Pool ι σ (Prog σ ℓ ε α)}

/-- The passes that wait to be counted. -/
def pending (workers : Finset ι) (stage : ι → Stage) : Nat :=
  ∑ i ∈ workers, (stage i).waiting.toNat

/-- The passes so far. -/
def passes (workers : Finset ι) (stage : ι → Stage) : Nat := ∑ i ∈ workers, (stage i).passed

omit [DecidableEq ι] in
theorem pending_le (workers : Finset ι) (stage : ι → Stage) :
    pending workers stage ≤ workers.card := by
  calc pending workers stage ≤ ∑ _i ∈ workers, 1 :=
        Finset.sum_le_sum fun i _ => Bool.toNat_le _
    _ = workers.card := by simp

/-- A sum over the workers, after one of them has come to another stage. -/
theorem sum_update (f : Stage → Nat) (hi : i ∈ workers) (st : Stage) :
    (∑ j ∈ workers, f (Function.update stage i st j)) + f (stage i) =
      (∑ j ∈ workers, f (stage j)) + f st := by
  have hrest : ∑ j ∈ workers.erase i, f (Function.update stage i st j) =
      ∑ j ∈ workers.erase i, f (stage j) := by
    refine Finset.sum_congr rfl fun j hj => ?_
    rw [Function.update_of_ne (Finset.ne_of_mem_erase hj)]
  rw [← Finset.add_sum_erase _ (fun j => f (Function.update stage i st j)) hi,
    ← Finset.add_sum_erase _ (fun j => f (stage j)) hi, hrest, Function.update_self]
  omega

theorem pending_update (stage : ι → Stage) (hi : i ∈ workers) (st : Stage) :
    pending workers (Function.update stage i st) + (stage i).waiting.toNat =
      pending workers stage + st.waiting.toNat :=
  sum_update (fun st => st.waiting.toNat) hi st

theorem passes_update (stage : ι → Stage) (hi : i ∈ workers) (st : Stage) :
    passes workers (Function.update stage i st) + (stage i).passed =
      passes workers stage + st.passed :=
  sum_update Stage.passed hi st

/-- The workers at their stages, beside programs that leave the counter alone. -/
structure AtGate (g : Gate σ ℓ) (allowed : ℓ → σ → Prop) (sure : ℓ → Prop)
    (post : Except ε α → Stage → Prop) (workers : Finset ι) (start : Int) (stage : ι → Stage)
    (s : Pool ι σ (Prog σ ℓ ε α)) : Prop where
  working : ∀ i ∈ workers, (s.locals i).Admits g allowed sure post (stage i)
  others : ∀ i, i ∉ workers → (s.locals i).Each fun _ x y => g.count y = g.count x
  bound : g.count s.shared + pending workers stage ≤ max start (g.limit - 1 + workers.card)
  exact : (∀ l, g.loses l → sure l) →
    g.count s.shared + pending workers stage = start + passes workers stage

theorem AtGate.others_step {start : Int} {x : σ} {p : Prog σ ℓ ε α}
    (h : AtGate g allowed sure post workers start stage s) (hi : i ∉ workers)
    (hmoves : Prog.MovesSure allowed sure s.shared (s.locals i) x p) :
    AtGate g allowed sure post workers start stage ⟨x, Function.update s.locals i p⟩ := by
  have hcount : g.count x = g.count s.shared ∧ p.Each fun _ x y => g.count y = g.count x := by
    have heach := h.others i hi
    generalize s.locals i = q at hmoves heach
    cases hmoves with
    | done _ => exact ⟨(heach.1 _).1, (heach.1 _).2⟩
    | failed _ => exact ⟨rfl, heach.2⟩
  refine ⟨fun j hj => ?_, fun j hj => ?_, ?_, fun hsure => ?_⟩
  · have hne : j ≠ i := fun hji => hi (hji ▸ hj)
    simpa only [Function.update_of_ne hne] using h.working j hj
  · by_cases hji : j = i
    · subst hji
      simpa only [Function.update_self] using hcount.2
    · simpa only [Function.update_of_ne hji] using h.others j hj
  · simpa only [hcount.1] using h.bound
  · simpa only [hcount.1] using h.exact hsure

/-- One move of a worker at its stage. -/
theorem moves_admits {st : Stage} {x x' : σ} {p p' : Prog σ ℓ ε α}
    (h : p.Admits g allowed sure post st) (hmoves : Prog.MovesSure allowed sure x p x' p') :
    ∃ st', p'.Admits g allowed sure post st' ∧
      (g.Turn x x' st st' ∨ (x' = x ∧ ∃ l, ¬ sure l ∧ g.Miss l st st')) := by
  cases hmoves with
  | done hallowed =>
    obtain ⟨st', hturn, hnext⟩ := h.1 x hallowed
    exact ⟨st', hnext, Or.inl hturn⟩
  | failed hsure =>
    obtain ⟨st', hmiss, hfail⟩ := h.2 hsure
    exact ⟨st', hfail, Or.inr ⟨rfl, _, hsure, hmiss⟩⟩

theorem AtGate.worker_step {start : Int} {x : σ} {p : Prog σ ℓ ε α}
    (h : AtGate g allowed sure post workers start stage s) (hi : i ∈ workers)
    (hmoves : Prog.MovesSure allowed sure s.shared (s.locals i) x p) :
    ∃ stage', AtGate g allowed sure post workers start stage'
      ⟨x, Function.update s.locals i p⟩ := by
  obtain ⟨st', hp, hcases⟩ := moves_admits (h.working i hi) hmoves
  have hpending := pending_update stage hi st'
  have hpassed := passes_update stage hi st'
  have hle := pending_le workers (Function.update stage i st')
  have hbound := h.bound
  have hexact := h.exact
  have hsums : g.count x + pending workers (Function.update stage i st') ≤
      max start (g.limit - 1 + workers.card) ∧ ((∀ l, g.loses l → sure l) →
        g.count x + pending workers (Function.update stage i st') =
          start + passes workers (Function.update stage i st')) := by
    rcases hcases with hturn | ⟨rfl, l, hsure, hmiss⟩
    · generalize hst : stage i = st at hturn hpending hpassed
      cases hturn with
      | keeps hcount =>
        refine ⟨by omega, fun hloses => ?_⟩
        have := hexact hloses
        omega
      | passes hcount hlimit =>
        -- the counter is below the limit, however many passes wait
        simp only [Bool.toNat_true, Bool.toNat_false] at hpending hpassed
        refine ⟨by omega, fun hloses => ?_⟩
        have := hexact hloses
        omega
      | counts hcount =>
        simp only [Bool.toNat_true, Bool.toNat_false] at hpending hpassed
        refine ⟨by omega, fun hloses => ?_⟩
        have := hexact hloses
        omega
    · generalize hst : stage i = st at hmiss hpending hpassed
      cases hmiss with
      | keeps =>
        refine ⟨by omega, fun hloses => ?_⟩
        have := hexact hloses
        omega
      | loses hl =>
        simp only [Bool.toNat_true, Bool.toNat_false] at hpending
        exact ⟨by omega, fun hloses => absurd (hloses l hl) hsure⟩
  refine ⟨Function.update stage i st', fun j hj => ?_, fun j hj => ?_, hsums.1, hsums.2⟩
  · by_cases hji : j = i
    · subst hji
      simpa only [Function.update_self] using hp
    · simpa only [Function.update_of_ne hji] using h.working j hj
  · have hne : j ≠ i := fun hji => hj (hji ▸ hi)
    simpa only [Function.update_of_ne hne] using h.others j hj

/-- **Admission rule**: with `n` programs that check the counter before they raise it, it stays
below the limit and `n`, or where it was; and where no count is lost, it has gone up by their
passes, but for those that still wait to be counted. -/
theorem Run.admission (hrun : Pool.Run (Prog.surely allowed sure) s t)
    (hworkers : ∀ i ∈ workers, (s.locals i).Admits g allowed sure post ⟨false, 0⟩)
    (hothers : ∀ i, i ∉ workers → (s.locals i).Each fun _ x y => g.count y = g.count x) :
    ∃ stage, AtGate g allowed sure post workers (g.count s.shared) stage t := by
  have hstart : AtGate g allowed sure post workers (g.count s.shared) (fun _ => ⟨false, 0⟩) s := by
    refine ⟨hworkers, hothers, ?_, fun _ => ?_⟩ <;> simp [pending, passes]
  refine hrun.invariant (P := fun t => ∃ stage, AtGate g allowed sure post workers
    (g.count s.shared) stage t) ⟨_, hstart⟩ ?_
  rintro i u _ ⟨stage, hu⟩ ⟨hmoves⟩
  by_cases hi : i ∈ workers
  · exact hu.worker_step hi hmoves
  · exact ⟨stage, hu.others_step hi hmoves⟩

theorem Run.interleaved_of_surely (hrun : Pool.Run (Prog.surely allowed sure) s t) :
    Pool.Run (Prog.interleaved allowed) s t := by
  induction hrun with
  | refl => exact .refl
  | tail _ hstep ih =>
    obtain ⟨i, ⟨hmoves⟩⟩ := hstep
    exact ih.tail i (Prog.MovesSure.moves hmoves)

end Run

/-! ## Workers in turn -/

section Turns

variable {ι σ ℓ ε α : Type} [DecidableEq ι] {allowed : ℓ → σ → Prop} {sure : ℓ → Prop}

/-- Steps that keep what allows them are permitted. -/
theorem permitted_of_each {I : σ → Prop} {p : Prog σ ℓ ε α} (n : Nat) {s : σ}
    (hp : p.Each fun _ s s' => I s → I s') (hs : I s) (hallowed : ∀ l s, I s → allowed l s) :
    Prog.Permitted allowed n s p := by
  induction n generalizing s p with
  | zero => trivial
  | succ n ih =>
    cases p with
    | pure a => trivial
    | throw e => trivial
    | step l update next fail =>
      exact ⟨hallowed l s hs, ih (hp.1 s).2 ((hp.1 s).1 hs)⟩

/-- What every step keeps, the first steps keep. -/
theorem each_advance {I : σ → Prop} {p : Prog σ ℓ ε α} (n : Nat) {s : σ}
    (hp : p.Each fun _ s s' => I s → I s') (hs : I s) : I (Prog.advance n s p).1 := by
  induction n generalizing s p with
  | zero => exact hs
  | succ n ih =>
    cases p with
    | pure a => exact hs
    | throw e => exact hs
    | step l update next fail => exact ih (hp.1 s).2 ((hp.1 s).1 hs)

/-- Workers that stand at `p` take the same steps to `q` one after the other, and each of them
counts the state on. -/
theorem run_in_turn {p q : Prog σ ℓ ε α} {n : Nat} {I : Nat → σ → Prop}
    {start : Pool ι σ (Prog σ ℓ ε α)} {workers : List ι}
    (hstep : ∀ k x, I k x → Prog.Permitted allowed n x p ∧
      ∃ y, Prog.advance n x p = (y, q) ∧ I (k + 1) y)
    {k : Nat} {x : σ} {locals : ι → Prog σ ℓ ε α}
    (hrun : Pool.Run (Prog.surely allowed sure) start ⟨x, locals⟩) (hx : I k x)
    (hlocals : ∀ i ∈ workers, locals i = p) (hnd : workers.Nodup) :
    ∃ y, I (k + workers.length) y ∧ Pool.Run (Prog.surely allowed sure) start
      ⟨y, fun i => if i ∈ workers then q else locals i⟩ := by
  induction workers generalizing k x locals with
  | nil => exact ⟨x, hx, by simpa using hrun⟩
  | cons i rest ih =>
    obtain ⟨hpermitted, y, hadvance, hy⟩ := hstep k x hx
    obtain ⟨hi, hrest⟩ := List.nodup_cons.mp hnd
    have hp := hlocals i List.mem_cons_self
    have hnext : Pool.Run (Prog.surely allowed sure) start ⟨(Prog.advance n x (locals i)).1,
        Function.update locals i (Prog.advance n x (locals i)).2⟩ :=
      Prog.run_advance_of (fun _ _ _ _ _ _ h => Prog.MovesSure.done h) i n hrun
        (hp ▸ hpermitted)
    simp only [hp, hadvance] at hnext
    have hothers : ∀ j ∈ rest, Function.update locals i q j = p := by
      intro j hj
      have hne : j ≠ i := fun hji => hi (hji ▸ hj)
      rw [Function.update_of_ne hne]
      exact hlocals j (List.mem_cons_of_mem i hj)
    obtain ⟨z, hz, hdone⟩ := ih hnext hy hothers hrest
    refine ⟨z, ?_, ?_⟩
    · rw [List.length_cons, Nat.add_comm rest.length, ← Nat.add_assoc]
      exact hz
    · have hsame : (fun j => if j ∈ i :: rest then q else locals j) =
          fun j => if j ∈ rest then q else Function.update locals i q j := by
        funext j
        by_cases hji : j = i
        · subst hji
          simp
        · simp [hji]
      rw [hsame]
      exact hdone

end Turns

end Concurrency
