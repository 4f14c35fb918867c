import Vigiscam.Concurrency.Prog

/-!
# Programs whose steps may fail

`Ends p s failed result t`: alone from the state `s`, the program `p` ends in `t` with the
result, where the steps labelled `failed` failed, in this order, and every other step was done.

`Outcomes P p s` says that `P` holds of every such end. It is computed along the program, a
step at a time, and `outcomes_iff` is its meaning. `outcome` picks the end where given steps
fail.
-/

namespace Concurrency.Prog

variable {σ ℓ ε α β : Type} {s t : σ} {p : Prog σ ℓ ε α} {failed : List ℓ} {result : Except ε α}
  {P Q : List ℓ → Except ε α → σ → Prop}

inductive Ends : Prog σ ℓ ε α → σ → List ℓ → Except ε α → σ → Prop
  | pure {a : α} {s : σ} : Ends (pure a) s [] (.ok a) s
  | throw {e : ε} {s : σ} : Ends (throw e) s [] (.error e) s
  | done {l : ℓ} {update : σ → σ} {next : σ → Prog σ ℓ ε α} {fail : Prog σ ℓ ε α} {s t : σ}
      {failed : List ℓ} {result : Except ε α} :
      Ends (next s) (update s) failed result t →
        Ends (step l update next fail) s failed result t
  | failed {l : ℓ} {update : σ → σ} {next : σ → Prog σ ℓ ε α} {fail : Prog σ ℓ ε α} {s t : σ}
      {failed : List ℓ} {result : Except ε α} :
      Ends fail s failed result t → Ends (step l update next fail) s (l :: failed) result t

def Outcomes : (List ℓ → Except ε α → σ → Prop) → Prog σ ℓ ε α → σ → Prop
  | P, pure a, s => P [] (.ok a) s
  | P, throw e, s => P [] (.error e) s
  | P, step l update next fail, s =>
    Outcomes P (next s) (update s) ∧ Outcomes (fun failed => P (l :: failed)) fail s

/-- `Outcomes` is what holds of every end. -/
theorem outcomes_iff :
    Outcomes P p s ↔ ∀ failed result t, Ends p s failed result t → P failed result t := by
  constructor
  · rintro h failed result t hends
    induction hends generalizing P with
    | pure => exact h
    | throw => exact h
    | done _ ih => exact ih h.1
    | failed _ ih => exact ih h.2
  · intro h
    induction p generalizing P s with
    | pure a => exact h _ _ _ .pure
    | throw e => exact h _ _ _ .throw
    | step l update next fail ihNext ihFail =>
      exact ⟨ihNext s fun _ _ _ hends => h _ _ _ (.done hends),
        ihFail fun _ _ _ hends => h _ _ _ (.failed hends)⟩

theorem Outcomes.mono (h : Outcomes P p s) (hPQ : ∀ failed result t, P failed result t →
    Q failed result t) : Outcomes Q p s :=
  outcomes_iff.mpr fun _ _ _ hends => hPQ _ _ _ (outcomes_iff.mp h _ _ _ hends)

/-! ## Along a program -/

@[simp] theorem outcomes_pure {a : α} :
    Outcomes P (Pure.pure a : Prog σ ℓ ε α) s ↔ P [] (.ok a) s := Iff.rfl

@[simp] theorem outcomes_throw {e : ε} :
    Outcomes P (MonadExcept.throw e : Prog σ ℓ ε α) s ↔ P [] (.error e) s := Iff.rfl

@[simp] theorem outcomes_act {l : ℓ} {e : ε} {f : σ → α × σ} :
    Outcomes P (act l e f) s ↔ P [] (.ok (f s).1) (f s).2 ∧ P [l] (.error e) s := Iff.rfl

theorem outcomes_attempt_some {l : ℓ} {e : ε} {f : σ → Option (α × σ)} {a : α}
    (h : f s = some (a, t)) :
    Outcomes P (attempt l e f) s ↔ P [] (.ok a) t ∧ P [l] (.error e) s := by
  show Outcomes P (((f s).map fun r => Prog.pure r.1).getD (Prog.throw e))
    (((f s).map (·.2)).getD s) ∧ _ ↔ _
  rw [h]
  exact Iff.rfl

theorem outcomes_attempt_none {l : ℓ} {e : ε} {f : σ → Option (α × σ)} (h : f s = none) :
    Outcomes P (attempt l e f) s ↔ P [] (.error e) s ∧ P [l] (.error e) s := by
  show Outcomes P (((f s).map fun r => Prog.pure r.1).getD (Prog.throw e))
    (((f s).map (·.2)).getD s) ∧ _ ↔ _
  rw [h]
  exact Iff.rfl

/-- A step that the state may refuse is done, is refused, or fails. -/
theorem outcomes_attempt {l : ℓ} {e : ε} {f : σ → Option (α × σ)} (hfailed : P [l] (.error e) s)
    (hnone : f s = none → P [] (.error e) s)
    (hsome : ∀ a t, f s = some (a, t) → P [] (.ok a) t) : Outcomes P (attempt l e f) s := by
  cases hf : f s with
  | none => exact (outcomes_attempt_none hf).mpr ⟨hnone hf, hfailed⟩
  | some r =>
    obtain ⟨a, t⟩ := r
    exact (outcomes_attempt_some hf).mpr ⟨hsome a t hf, hfailed⟩

/-- How a program goes on after its first part. -/
def Onward (P : List ℓ → Except ε β → σ → Prop) (k : α → Prog σ ℓ ε β) :
    List ℓ → Except ε α → σ → Prop
  | failed, .ok a, t => Outcomes (fun failed' => P (failed ++ failed')) (k a) t
  | failed, .error e, t => P failed (.error e) t

@[simp] theorem onward_ok {P : List ℓ → Except ε β → σ → Prop} {k : α → Prog σ ℓ ε β} {a : α} :
    Onward P k failed (.ok a) t ↔ Outcomes (fun failed' => P (failed ++ failed')) (k a) t := Iff.rfl

@[simp] theorem onward_error {P : List ℓ → Except ε β → σ → Prop} {k : α → Prog σ ℓ ε β} {e : ε} :
    Onward P k failed (.error e) t ↔ P failed (.error e) t := Iff.rfl

@[simp] theorem outcomes_bind {P : List ℓ → Except ε β → σ → Prop} {k : α → Prog σ ℓ ε β} :
    Outcomes P (p >>= k) s ↔ Outcomes (Onward P k) p s := by
  show Outcomes P (Prog.bind p k) s ↔ Outcomes (Onward P k) p s
  induction p generalizing P s with
  | pure a => exact Iff.rfl
  | throw e => exact Iff.rfl
  | step l update next fail ihNext ihFail =>
    refine and_congr (ihNext s) (ihFail.trans ?_)
    have honward : Onward (fun failed => P (l :: failed)) k =
        fun failed => Onward P k (l :: failed) := by
      funext failed result t
      cases result <;> rfl
    rw [honward]

/-- A value that is thrown away has no say in where a program ends. -/
theorem Outcomes.discard {P : List ℓ → σ → Prop}
    (h : Outcomes (fun failed _ t => P failed t) p s) :
    Outcomes (fun failed _ t => P failed t) (p >>= fun _ => Pure.pure PUnit.unit) s := by
  rw [outcomes_bind]
  refine h.mono fun failed result t hP => ?_
  cases result with
  | error e => exact hP
  | ok a => simpa using hP

/-- How a handler goes on after an exception. -/
def Handled (P : List ℓ → Except ε α → σ → Prop) (handler : ε → Prog σ ℓ ε α) :
    List ℓ → Except ε α → σ → Prop
  | failed, .ok a, t => P failed (.ok a) t
  | failed, .error e, t => Outcomes (fun failed' => P (failed ++ failed')) (handler e) t

@[simp] theorem outcomes_tryCatch {handler : ε → Prog σ ℓ ε α} :
    Outcomes P (MonadExcept.tryCatch p handler) s ↔ Outcomes (Handled P handler) p s := by
  show Outcomes P (Prog.tryCatch p handler) s ↔ Outcomes (Handled P handler) p s
  induction p generalizing P s with
  | pure a => exact Iff.rfl
  | throw e => exact Iff.rfl
  | step l update next fail ihNext ihFail =>
    refine and_congr (ihNext s) (ihFail.trans ?_)
    have hhandled : Handled (fun failed => P (l :: failed)) handler =
        fun failed => Handled P handler (l :: failed) := by
      funext failed result t
      cases result <;> rfl
    rw [hhandled]

/-! ## Programs that never fail -/

/-- However its steps fail, the program returns a value; its steps are labelled in `L`, and
together they change the state by `S`. -/
def Harmless (L : ℓ → Prop) (S : σ → σ → Prop) (p : Prog σ ℓ ε α) : Prop :=
  ∀ s, Outcomes (fun failed result t => (∀ l ∈ failed, L l) ∧ S s t ∧ ∃ a, result = .ok a) p s

section Harmless

variable {L : ℓ → Prop} {S : σ → σ → Prop}

/-- What follows a harmless program is asked for after each of its ends. -/
theorem Harmless.outcomes (h : Harmless L S p)
    (hP : ∀ failed a t, (∀ l ∈ failed, L l) → S s t → P failed (.ok a) t) : Outcomes P p s :=
  (h s).mono fun failed result t hend => by
    obtain ⟨hlabels, hstate, a, rfl⟩ := hend
    exact hP failed a t hlabels hstate

theorem harmless_pure (hrefl : ∀ s, S s s) (a : α) :
    Harmless L S (Pure.pure a : Prog σ ℓ ε α) := by
  intro s
  exact ⟨fun l hl => absurd hl List.not_mem_nil, hrefl s, a, rfl⟩

theorem Harmless.bind (htrans : ∀ s t u, S s t → S t u → S s u) {p : Prog σ ℓ ε β}
    {k : β → Prog σ ℓ ε α} (hp : Harmless L S p) (hk : ∀ b, Harmless L S (k b)) :
    Harmless L S (p >>= k) := by
  intro s
  rw [outcomes_bind]
  refine hp.outcomes fun failed b t hlabels hst => ?_
  refine (hk b).outcomes fun failed' a u hlabels' htu => ?_
  refine ⟨fun l hl => ?_, htrans s t u hst htu, a, rfl⟩
  rcases List.mem_append.mp hl with hl | hl
  · exact hlabels l hl
  · exact hlabels' l hl

theorem harmless_forM (hrefl : ∀ s, S s s) (htrans : ∀ s t u, S s t → S t u → S s u) {γ : Type}
    {f : γ → Prog σ ℓ ε PUnit} (hf : ∀ c, Harmless L S (f c)) (cs : List γ) :
    Harmless L S (cs.forM f) := by
  induction cs with
  | nil => exact harmless_pure hrefl PUnit.unit
  | cons c cs ih => exact (hf c).bind htrans fun _ => ih

theorem each_of_forall {R : ℓ → σ → σ → Prop} (h : ∀ l s t, R l s t) (p : Prog σ ℓ ε α) :
    p.Each R := by
  induction p with
  | pure a => trivial
  | throw e => trivial
  | step l update next fail ihNext ihFail => exact ⟨fun s => ⟨h l s _, ihNext s⟩, ihFail⟩

/-- The steps of a program, one after the other, with those that fail. -/
theorem Each.ends (hrefl : ∀ s, S s s) (htrans : ∀ s t u, S s t → S t u → S s u)
    (h : p.Each fun l s t => L l ∧ S s t) (hends : Ends p s failed result t) :
    (∀ l ∈ failed, L l) ∧ S s t := by
  induction hends with
  | @pure _ s => exact ⟨fun l hl => absurd hl List.not_mem_nil, hrefl s⟩
  | @throw _ s => exact ⟨fun l hl => absurd hl List.not_mem_nil, hrefl s⟩
  | @done l update next fail s t failed result _ ih =>
    obtain ⟨⟨-, hstep⟩, hnext⟩ := h.1 s
    obtain ⟨hlabels, hrest⟩ := ih hnext
    exact ⟨hlabels, htrans _ _ _ hstep hrest⟩
  | @failed l update next fail s t failed result _ ih =>
    obtain ⟨hlabels, hrest⟩ := ih h.2
    refine ⟨fun l' hl' => ?_, hrest⟩
    rcases List.mem_cons.mp hl' with rfl | hl'
    · exact (h.1 s).1.1
    · exact hlabels l' hl'

/-- A program whose every exception is caught. -/
theorem harmless_tryCatch (hrefl : ∀ s, S s s) (htrans : ∀ s t u, S s t → S t u → S s u) (a : α)
    (h : p.Each fun l s t => L l ∧ S s t) :
    Harmless L S (MonadExcept.tryCatch p fun _ => Pure.pure a) := by
  intro s
  rw [outcomes_tryCatch, outcomes_iff]
  intro failed result t hends
  obtain ⟨hlabels, hst⟩ := h.ends hrefl htrans hends
  cases result with
  | ok b => exact ⟨hlabels, hst, b, rfl⟩
  | error e => exact ⟨by simpa using hlabels, hst, a, rfl⟩

end Harmless

/-! ## Some ends -/

/-- The end where the steps fail that the list says, one after the other; steps after its end
do not fail. -/
def outcome : List Bool → Prog σ ℓ ε α → σ → List ℓ × Except ε α × σ
  | _, pure a, s => ([], .ok a, s)
  | _, throw e, s => ([], .error e, s)
  | true :: fails, step l _ _ fail, s =>
    let r := outcome fails fail s
    (l :: r.1, r.2)
  | fails, step _ update next _, s => outcome fails.tail (next s) (update s)

theorem outcome_nil (p : Prog σ ℓ ε α) (s : σ) : (outcome [] p s).1 = [] := by
  induction p generalizing s with
  | pure a => rfl
  | throw e => rfl
  | step l update next fail ihNext _ => exact ihNext s (update s)

theorem ends_outcome (fails : List Bool) (p : Prog σ ℓ ε α) (s : σ) :
    Ends p s (outcome fails p s).1 (outcome fails p s).2.1 (outcome fails p s).2.2 := by
  induction p generalizing fails s with
  | pure a => exact .pure
  | throw e => exact .throw
  | step l update next fail ihNext ihFail =>
    match fails with
    | true :: fails => exact .failed (ihFail fails s)
    | [] => exact .done (ihNext s [] (update s))
    | false :: fails => exact .done (ihNext s fails (update s))

end Concurrency.Prog
