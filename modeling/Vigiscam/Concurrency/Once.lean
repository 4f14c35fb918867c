import Mathlib.Data.List.Nodup
import Vigiscam.Concurrency.Prog

/-!
# At most one application

Many programs work on keys, several of them on the same one, and for each key one change
should be applied at most once. A program that works on a key *takes it up* by one kind
of step and *applies* its change by another. `TakesFirst` says that a program takes up
its key before it applies, and `AppliesOnce` that it applies no more than once.

A program is `Busy` when it may apply without taking up its key again, or has applied.
`RunWhere.at_most_once` is the rule: a key that was taken up before is `held`; where a
held key is taken up only while no other program of the key is busy, no key is applied
twice, in any interleaving and with any failing steps.
-/

namespace Concurrency

namespace Prog

variable {σ ℓ ε α β : Type} {takes applies : ℓ → σ → Prop} {p : Prog σ ℓ ε α}

/-- No step of the program applies. -/
def Never (applies : ℓ → σ → Prop) (p : Prog σ ℓ ε α) : Prop := p.Each fun l s _ => ¬ applies l s

/-- No step applies before one that takes. -/
def TakesFirst (takes applies : ℓ → σ → Prop) : Prog σ ℓ ε α → Prop
  | pure _ => True
  | throw _ => True
  | step l _ next fail =>
    (∀ s, ¬ applies l s ∧ (takes l s ∨ TakesFirst takes applies (next s))) ∧
      TakesFirst takes applies fail

/-- At most one step applies. -/
def AppliesOnce (applies : ℓ → σ → Prop) : Prog σ ℓ ε α → Prop
  | pure _ => True
  | throw _ => True
  | step l _ next fail =>
    (∀ s, AppliesOnce applies (next s) ∧ (applies l s → Never applies (next s))) ∧
      AppliesOnce applies fail

theorem Never.attempt {l : ℓ} {e : ε} {f : σ → Option (α × σ)} (h : ∀ s, ¬ applies l s) :
    Never applies (attempt l e f) :=
  Each.attempt (fun s _ _ _ => h s) fun s _ => h s

theorem Never.appliesOnce (h : Never applies p) : AppliesOnce applies p := by
  induction p with
  | pure a => trivial
  | throw e => trivial
  | step l update next fail ihNext ihFail =>
    exact ⟨fun s => ⟨ihNext s (h.1 s).2, fun _ => (h.1 s).2⟩, ihFail h.2⟩

theorem AppliesOnce.attempt (l : ℓ) (e : ε) (f : σ → Option (α × σ)) :
    AppliesOnce applies (attempt l e f) := by
  refine ⟨fun s => ?_, trivial⟩
  show AppliesOnce applies (((f s).map fun r => Prog.pure r.1).getD (Prog.throw e)) ∧
    (_ → Never applies (((f s).map fun r => Prog.pure r.1).getD (Prog.throw e)))
  cases f s with
  | none => exact ⟨trivial, fun _ => trivial⟩
  | some r => exact ⟨trivial, fun _ => trivial⟩

/-- The first part may apply where the second does not. -/
theorem AppliesOnce.bind_left {k : α → Prog σ ℓ ε β} (hp : AppliesOnce applies p)
    (hk : ∀ a, Never applies (k a)) : AppliesOnce applies (p >>= k) := by
  show AppliesOnce applies (Prog.bind p k)
  induction p with
  | pure a => exact (hk a).appliesOnce
  | throw e => trivial
  | step l update next fail ihNext ihFail =>
    exact ⟨fun s => ⟨ihNext s (hp.1 s).1, fun h => Each.bind ((hp.1 s).2 h) hk⟩, ihFail hp.2⟩

/-- The second part may apply where the first does not. -/
theorem AppliesOnce.bind_right {k : α → Prog σ ℓ ε β} (hp : Never applies p)
    (hk : ∀ a, AppliesOnce applies (k a)) : AppliesOnce applies (p >>= k) := by
  show AppliesOnce applies (Prog.bind p k)
  induction p with
  | pure a => exact hk a
  | throw e => trivial
  | step l update next fail ihNext ihFail =>
    exact ⟨fun s => ⟨ihNext s (hp.1 s).2, fun h => absurd h (hp.1 s).1⟩, ihFail hp.2⟩

/-- A step that is accepted takes, or what comes after it takes first. -/
theorem TakesFirst.attempt_bind {l : ℓ} {e : ε} {f : σ → Option (α × σ)} {k : α → Prog σ ℓ ε β}
    (hnot : ∀ s, ¬ applies l s)
    (h : ∀ s a s', f s = some (a, s') → takes l s ∨ TakesFirst takes applies (k a)) :
    TakesFirst takes applies (Prog.attempt l e f >>= k) := by
  refine ⟨fun s => ⟨hnot s, ?_⟩, trivial⟩
  show _ ∨ TakesFirst takes applies
    (Prog.bind (((f s).map fun r => Prog.pure r.1).getD (Prog.throw e)) k)
  cases hf : f s with
  | none => exact Or.inr trivial
  | some r => exact h s r.1 r.2 hf

/-- What does not apply may come first. -/
theorem TakesFirst.bind_right {k : α → Prog σ ℓ ε β} (hp : Never applies p)
    (hk : ∀ a, TakesFirst takes applies (k a)) : TakesFirst takes applies (p >>= k) := by
  show TakesFirst takes applies (Prog.bind p k)
  induction p with
  | pure a => exact hk a
  | throw e => trivial
  | step l update next fail ihNext ihFail =>
    exact ⟨fun s => ⟨(hp.1 s).1, Or.inr (ihNext s (hp.1 s).2)⟩, ihFail hp.2⟩

end Prog

/-! ## Runs that count -/

variable {ι κ σ ℓ ε α : Type} {takes applies : ι → ℓ → σ → Prop}

/-- A step of a program, with the log of the programs that have applied. -/
inductive Counted (applies : ι → ℓ → σ → Prop) : LocalStep ι (σ × List ι) (Prog σ ℓ ε α)
  | applied {i : ι} {l : ℓ} {update : σ → σ} {next : σ → Prog σ ℓ ε α} {fail : Prog σ ℓ ε α}
      {s : σ} {log : List ι} : applies i l s →
      Counted applies i (s, log) (.step l update next fail) (update s, log ++ [i]) (next s)
  | other {i : ι} {l : ℓ} {update : σ → σ} {next : σ → Prog σ ℓ ε α} {fail : Prog σ ℓ ε α}
      {s : σ} {log : List ι} : ¬ applies i l s →
      Counted applies i (s, log) (.step l update next fail) (update s, log) (next s)
  | failed {i : ι} {l : ℓ} {update : σ → σ} {next : σ → Prog σ ℓ ε α} {fail : Prog σ ℓ ε α}
      {s : σ} {log : List ι} :
      Counted applies i (s, log) (.step l update next fail) (s, log) fail

/-- A program that may apply without taking up its key, or has applied. -/
def Busy (takes applies : ι → ℓ → σ → Prop) (s : Pool ι (σ × List ι) (Prog σ ℓ ε α)) (i : ι) :
    Prop :=
  ¬ (s.locals i).TakesFirst (takes i) (applies i) ∨ i ∈ s.shared.2

/-- Where the step takes up a key that is held, no other program of the key is busy. -/
def TakesAlone (takes applies : ι → ℓ → σ → Prop) (key : ι → κ) (held : κ → σ → Prop) (i : ι)
    (s t : Pool ι (σ × List ι) (Prog σ ℓ ε α)) : Prop :=
  ¬ Busy takes applies s i → Busy takes applies t i → held (key i) s.shared.1 →
    ∀ j, j ≠ i → key j = key i → ¬ Busy takes applies s j

/-- What the programs of the pool keep to. -/
structure Disciplined (takes applies : ι → ℓ → σ → Prop) (key : ι → κ) (held : κ → σ → Prop)
    (i : ι) (p : Prog σ ℓ ε α) : Prop where
  once : p.AppliesOnce (applies i)
  holds : p.Each fun l s s' => (takes i l s → held (key i) s') ∧ ∀ k, held k s → held k s'

/-- No key is applied twice, and a key whose program is busy is held and has no other. -/
structure AtMostOnce (takes applies : ι → ℓ → σ → Prop) (key : ι → κ) (held : κ → σ → Prop)
    (s : Pool ι (σ × List ι) (Prog σ ℓ ε α)) : Prop where
  disciplined : ∀ i, Disciplined takes applies key held i (s.locals i)
  spent : ∀ i ∈ s.shared.2, (s.locals i).Never (applies i)
  held : ∀ i, Busy takes applies s i → held (key i) s.shared.1
  alone : ∀ i j, key i = key j → Busy takes applies s i → Busy takes applies s j → i = j
  nodup : s.shared.2.Nodup

section AtMostOnce

variable {key : ι → κ} {held : κ → σ → Prop} {i j : ι}
  {s t : Pool ι (σ × List ι) (Prog σ ℓ ε α)}

/-- What a step does: it applies, and the program was past taking and will not apply
again; or it leaves the log alone, and the program does not come to apply unless its key
is held. -/
theorem counted_cases {x x' : σ} {log log' : List ι} {p p' : Prog σ ℓ ε α}
    (h : Disciplined takes applies key held i p)
    (hstep : Counted applies i (x, log) p (x', log') p') :
    Disciplined takes applies key held i p' ∧ (∀ k, held k x → held k x') ∧
      ((log' = log ∧ (p.Never (applies i) → p'.Never (applies i)) ∧
          ((p.TakesFirst (takes i) (applies i) → p'.TakesFirst (takes i) (applies i)) ∨
            held (key i) x')) ∨
        (log' = log ++ [i] ∧ ¬ p.TakesFirst (takes i) (applies i) ∧ ¬ p.Never (applies i) ∧
          p'.Never (applies i))) := by
  cases hstep with
  | applied happlies =>
    refine ⟨⟨(h.once.1 x).1, (h.holds.1 x).2⟩, (h.holds.1 x).1.2, Or.inr ⟨rfl, ?_, ?_, ?_⟩⟩
    · exact fun hfirst => (hfirst.1 x).1 happlies
    · exact fun hnever => (hnever.1 x).1 happlies
    · exact (h.once.1 x).2 happlies
  | @other _ l _ _ _ _ _ hother =>
    refine ⟨⟨(h.once.1 x).1, (h.holds.1 x).2⟩, (h.holds.1 x).1.2,
      Or.inl ⟨rfl, fun hnever => (hnever.1 x).2, ?_⟩⟩
    -- it takes its key up here, and holds it from now on; or it still comes to take it first
    by_cases htakes : takes i l x
    · exact Or.inr ((h.holds.1 x).1.1 htakes)
    · exact Or.inl fun hfirst => (hfirst.1 x).2.resolve_left htakes
  | failed =>
    exact ⟨⟨h.once.2, h.holds.2⟩, fun _ h => h,
      Or.inl ⟨rfl, fun hnever => hnever.2, Or.inl fun hfirst => hfirst.2⟩⟩

theorem counted_log {y y' : σ × List ι} {p p' : Prog σ ℓ ε α}
    (hstep : Counted applies i y p y' p') : y'.2 = y.2 ∨ y'.2 = y.2 ++ [i] := by
  cases hstep with
  | applied _ => exact Or.inr rfl
  | other _ => exact Or.inl rfl
  | failed => exact Or.inl rfl

variable [DecidableEq ι]

/-- After a step of one program the others are as busy as they were. -/
theorem busy_of_step (hstep : Pool.Step (Counted applies) i s t) (hj : j ≠ i)
    (hbusy : Busy takes applies t j) : Busy takes applies s j := by
  obtain ⟨hcounted⟩ := hstep
  rcases hbusy with hbusy | hbusy
  · refine Or.inl ?_
    simpa only [Function.update_of_ne hj] using hbusy
  · refine Or.inr ?_
    rcases counted_log hcounted with hlog | hlog
    · exact hlog ▸ hbusy
    · rw [hlog] at hbusy
      exact (List.mem_append.mp hbusy).resolve_right fun h => hj (List.mem_singleton.mp h)

section Step

variable {y : σ × List ι} {p' : Prog σ ℓ ε α}

theorem AtMostOnce.disciplined_step (h : AtMostOnce takes applies key held s)
    (hcounted : Counted applies i s.shared (s.locals i) y p') (j : ι) :
    Disciplined takes applies key held j (Function.update s.locals i p' j) := by
  by_cases hj : j = i
  · subst hj
    rw [Function.update_self]
    exact (counted_cases (h.disciplined j) hcounted).1
  · rw [Function.update_of_ne hj]
    exact h.disciplined j

/-- A program that becomes busy holds its key, and is alone with it. -/
theorem AtMostOnce.becomes_busy (h : AtMostOnce takes applies key held s)
    (hcounted : Counted applies i s.shared (s.locals i) y p')
    (halone : TakesAlone takes applies key held i s ⟨y, Function.update s.locals i p'⟩)
    (hbusy : Busy takes applies ⟨y, Function.update s.locals i p'⟩ i) :
    Busy takes applies s i ∨
      (held (key i) y.1 ∧ ∀ j, j ≠ i → key j = key i → ¬ Busy takes applies s j) := by
  by_cases hbefore : Busy takes applies s i
  · exact Or.inl hbefore
  refine Or.inr ⟨?_, fun j hj hkey hbusy' => ?_⟩
  · obtain ⟨hfirst, hlog⟩ := not_or.mp hbefore
    obtain ⟨-, -, ⟨hsame, -, hstays | hheld⟩ | ⟨-, hpast, -⟩⟩ :=
      counted_cases (h.disciplined i) hcounted
    · -- it has still to take up its key: so it is not busy
      rcases hbusy with hbusy | hbusy
      · simp only [Function.update_self] at hbusy
        exact absurd (hstays (not_not.mp hfirst)) hbusy
      · rw [hsame] at hbusy
        exact absurd hbusy hlog
    · exact hheld
    · exact absurd hpast hfirst
  · have hkeyHeld : held (key i) s.shared.1 := hkey ▸ h.held j hbusy'
    exact halone hbefore hbusy hkeyHeld j hj hkey hbusy'

/-- What has applied will not apply again. -/
theorem AtMostOnce.spent_step (h : AtMostOnce takes applies key held s)
    (hcounted : Counted applies i s.shared (s.locals i) y p') {j : ι} (hj : j ∈ y.2) :
    (Function.update s.locals i p' j).Never (applies j) := by
  obtain ⟨-, -, hcases⟩ := counted_cases (h.disciplined i) hcounted
  by_cases hji : j = i
  · subst hji
    rw [Function.update_self]
    rcases hcases with ⟨hsame, hnever, -⟩ | ⟨-, -, -, hnever⟩
    · exact hnever (h.spent j (hsame ▸ hj))
    · exact hnever
  · rw [Function.update_of_ne hji]
    refine h.spent j ?_
    rcases hcases with ⟨hsame, -⟩ | ⟨hlog, -⟩
    · exact hsame ▸ hj
    · rw [hlog] at hj
      exact (List.mem_append.mp hj).resolve_right fun h => hji (List.mem_singleton.mp h)

omit [DecidableEq ι] in
theorem AtMostOnce.nodup_step (h : AtMostOnce takes applies key held s)
    (hcounted : Counted applies i s.shared (s.locals i) y p') : y.2.Nodup := by
  obtain ⟨-, -, ⟨hsame, -⟩ | ⟨hlog, -, hnever, -⟩⟩ := counted_cases (h.disciplined i) hcounted
  · rw [hsame]
    exact h.nodup
  · rw [hlog]
    refine List.nodup_append.mpr ⟨h.nodup, List.pairwise_singleton _ i, fun a ha b hb hab => ?_⟩
    rw [List.mem_singleton.mp hb] at hab
    exact hnever (h.spent i (hab ▸ ha))

end Step

theorem AtMostOnce.step (h : AtMostOnce takes applies key held s)
    (hstep : Pool.Step (Counted applies) i s t) (halone : TakesAlone takes applies key held i s t) :
    AtMostOnce takes applies key held t := by
  obtain @⟨y, p', hcounted⟩ := hstep
  have hheld := (counted_cases (h.disciplined i) hcounted).2.1
  have hself := h.becomes_busy hcounted halone
  -- the others were busy before, where they are now
  have hothers : ∀ j, j ≠ i → Busy takes applies ⟨y, Function.update s.locals i p'⟩ j →
      Busy takes applies s j := fun j hj => busy_of_step (Pool.Step.intro hcounted) hj
  have hone : ∀ j, j ≠ i → key j = key i →
      Busy takes applies ⟨y, Function.update s.locals i p'⟩ i →
      ¬ Busy takes applies ⟨y, Function.update s.locals i p'⟩ j := by
    intro j hj hkey hbusy hbusy'
    rcases hself hbusy with hbefore | ⟨-, hnone⟩
    · exact hj (h.alone j i hkey (hothers j hj hbusy') hbefore)
    · exact hnone j hj hkey (hothers j hj hbusy')
  refine ⟨h.disciplined_step hcounted, fun j hj => h.spent_step hcounted hj, fun j hj => ?_,
    fun j k hkey hj hk => ?_, h.nodup_step hcounted⟩
  · by_cases hji : j = i
    · subst hji
      rcases hself hj with hbefore | ⟨hnow, -⟩
      · exact hheld _ (h.held j hbefore)
      · exact hnow
    · exact hheld _ (h.held j (hothers j hji hj))
  · by_cases hji : j = i
    · subst hji
      by_contra hne
      exact hone k (Ne.symm hne) hkey.symm hj hk
    · by_cases hki : k = i
      · subst hki
        exact absurd hj (hone j hji hkey hk)
      · exact h.alone j k hkey (hothers j hji hj) (hothers k hki hk)

/-- **At most one application for each key**, where a key that was taken up before is
taken up again only while no other program of the key is busy. -/
theorem RunWhere.at_most_once (hrun : Pool.RunWhere (Counted applies)
      (TakesAlone takes applies key held) s t)
    (hstart : s.shared.2 = [])
    (hdisciplined : ∀ i, Disciplined takes applies key held i (s.locals i))
    (hfirst : ∀ i, (s.locals i).TakesFirst (takes i) (applies i)) : (t.shared.2.map key).Nodup := by
  -- at the start nobody has taken a key up
  have hidle : ∀ i, ¬ Busy takes applies s i := by
    rintro i (hbusy | hbusy)
    · exact hbusy (hfirst i)
    · rw [hstart] at hbusy
      exact absurd hbusy List.not_mem_nil
  have hinv : AtMostOnce takes applies key held t := by
    refine hrun.invariant ⟨hdisciplined, ?_, ?_, ?_, ?_⟩ fun _ _ _ h hstep halone =>
      h.step hstep halone
    · intro i hi
      rw [hstart] at hi
      exact absurd hi List.not_mem_nil
    · exact fun i hi => absurd hi (hidle i)
    · exact fun i _ _ hi _ => absurd hi (hidle i)
    · rw [hstart]
      exact List.nodup_nil
  exact List.Nodup.map_on (fun i hi j hj hkey => hinv.alone i j hkey (Or.inr hi) (Or.inr hj))
    hinv.nodup

/-! ### Some runs -/

/-- A program that moves alone while the others are idle takes up its key alone. -/
theorem Solo.runWhere (h : Pool.Solo (Counted applies) i s t)
    (hidle : ∀ j, j ≠ i → key j = key i → ¬ Busy takes applies s j) :
    Pool.RunWhere (Counted applies) (TakesAlone takes applies key held) s t ∧
      ∀ j, j ≠ i → Busy takes applies t j → Busy takes applies s j := by
  induction h with
  | refl => exact ⟨Pool.RunWhere.refl, fun _ _ h => h⟩
  | tail _ hstep ih =>
    obtain ⟨hrun, hback⟩ := ih
    refine ⟨hrun.tail ⟨i, hstep, fun _ _ _ j hj hkey hbusy => ?_⟩, fun j hj hbusy => ?_⟩
    · exact hidle j hj hkey (hback j hj hbusy)
    · exact hback j hj (busy_of_step hstep hj hbusy)

/-- The state, the log and the rest of a program after at most `n` steps, none of which
fails. -/
def countedAdvance (applies : ι → ℓ → σ → Prop) [∀ i l s, Decidable (applies i l s)] (i : ι) :
    Nat → σ × List ι → Prog σ ℓ ε α → (σ × List ι) × Prog σ ℓ ε α
  | 0, x, p => (x, p)
  | _ + 1, x, .pure a => (x, .pure a)
  | _ + 1, x, .throw e => (x, .throw e)
  | n + 1, x, .step l update next _ =>
    countedAdvance applies i n
      (update x.1, if applies i l x.1 then x.2 ++ [i] else x.2) (next x.1)

/-- The pool after at most `n` steps of a program, none of which fails. -/
def Pool.advanced (applies : ι → ℓ → σ → Prop) [∀ i l s, Decidable (applies i l s)] (i : ι)
    (n : Nat) (s : Pool ι (σ × List ι) (Prog σ ℓ ε α)) : Pool ι (σ × List ι) (Prog σ ℓ ε α) where
  shared := (countedAdvance applies i n s.shared (s.locals i)).1
  locals := Function.update s.locals i (countedAdvance applies i n s.shared (s.locals i)).2

theorem solo_advanced [∀ i l s, Decidable (applies i l s)] (i : ι) (n : Nat)
    (s : Pool ι (σ × List ι) (Prog σ ℓ ε α)) :
    Pool.Solo (Counted applies) i s (s.advanced applies i n) := by
  -- stated for any shared state and program of `i`: the induction changes both
  have hgo : ∀ n x p, Pool.Solo (Counted applies) i ⟨x, Function.update s.locals i p⟩
      ⟨(countedAdvance applies i n x p).1,
        Function.update s.locals i (countedAdvance applies i n x p).2⟩ := by
    intro n
    induction n with
    | zero => exact fun _ _ => Relation.ReflTransGen.refl
    | succ n ih =>
      intro x p
      cases p with
      | pure a => exact Relation.ReflTransGen.refl
      | throw e => exact Relation.ReflTransGen.refl
      | step l update next fail =>
        refine Relation.ReflTransGen.head ?_ (ih _ _)
        have hstep : Counted applies i x (Prog.step l update next fail)
            (update x.1, if applies i l x.1 then x.2 ++ [i] else x.2) (next x.1) := by
          by_cases happlies : applies i l x.1
          · rw [if_pos happlies]
            exact Counted.applied happlies
          · rw [if_neg happlies]
            exact Counted.other happlies
        have hpool := @Pool.Step.intro _ _ _ _ (Counted applies) i
          ⟨x, Function.update s.locals i (Prog.step l update next fail)⟩ _ _
          (by simpa only [Function.update_self] using hstep)
        simpa only [Function.update_idem] using hpool
  have hrun := hgo n s.shared (s.locals i)
  rwa [Function.update_eq_self] at hrun

/-- The rest of a program whose next step fails. -/
def Prog.failed : Prog σ ℓ ε α → Prog σ ℓ ε α
  | .step _ _ _ fail => fail
  | .pure a => .pure a
  | .throw e => .throw e

/-- The pool after the next step of a program has failed. -/
def Pool.failed (i : ι) (s : Pool ι (σ × List ι) (Prog σ ℓ ε α)) :
    Pool ι (σ × List ι) (Prog σ ℓ ε α) where
  shared := s.shared
  locals := Function.update s.locals i (s.locals i).failed

theorem solo_failed (i : ι) (s : Pool ι (σ × List ι) (Prog σ ℓ ε α)) :
    Pool.Solo (Counted applies) i s (s.failed i) := by
  have hstay : (s.locals i).failed = s.locals i → Pool.Solo (Counted applies) i s (s.failed i) := by
    intro h
    rw [Pool.failed, h, Function.update_eq_self]
    exact Relation.ReflTransGen.refl
  cases hp : s.locals i with
  | pure a => exact hstay (by rw [hp]; rfl)
  | throw e => exact hstay (by rw [hp]; rfl)
  | step l update next fail =>
    refine Relation.ReflTransGen.single (Pool.Step.intro ?_)
    rw [hp]
    exact Counted.failed

/-- Whether a program is at its end. -/
def Prog.ended : Prog σ ℓ ε α → Bool
  | .pure _ | .throw _ => true
  | .step .. => false

omit [DecidableEq ι] in
/-- A program at its end that has not applied is idle. -/
theorem not_busy_of_ended (hended : (s.locals i).ended) (hlog : i ∉ s.shared.2) :
    ¬ Busy takes applies s i := by
  rintro (hbusy | hbusy)
  · cases hp : s.locals i with
    | pure a =>
      rw [hp] at hbusy
      exact hbusy trivial
    | throw e =>
      rw [hp] at hbusy
      exact hbusy trivial
    | step l update next fail =>
      rw [hp] at hended
      cases hended
  · exact hlog hbusy

end AtMostOnce

end Concurrency
