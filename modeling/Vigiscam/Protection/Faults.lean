import Vigiscam.Concurrency.Failures
import Vigiscam.Protection.Races

/-!
# Decisions whose steps fail

A decision reads the row, the settings and the reviews, writes the row, and then appends to the
evidence. Where a step up to the write fails, the row stays as it was; a failure of the append
comes too late to undo the decision. `decideEnd` says which ends a decision has that does not
escalate, and `writes_decideWith` what any decision does to the rows, however its steps fail.
-/

namespace Protection

open Js Concurrency ProtectionEnforcementService

variable {s t : Store} {failed : List DbStep}

/-- Every failed step is a log. -/
def LogsOnly (failed : List DbStep) : Prop := ∀ l ∈ failed, l = .log

theorem logsOnly_nil : LogsOnly [] := fun _ hl => absurd hl List.not_mem_nil

theorem not_logsOnly_cons {l : DbStep} (h : l ≠ .log) : ¬ LogsOnly (l :: failed) :=
  fun hall => h (hall l (List.mem_cons_self ..))

theorem outcomes_read_bind {α β : Type} {P : List DbStep → Except HttpError β → Store → Prop}
    (f : Store → α) (k : α → Service β) (s : Store) :
    Prog.Outcomes P (read f >>= k) s ↔
      Prog.Outcomes P (k (f s)) s ∧ P [.read] (.error .internal) s := by
  rw [Prog.outcomes_bind]
  exact Iff.rfl

/-! ## What the enforcement reads -/

/-- A query returns `a`, or one of its steps fails and it throws; the store stays the same. -/
inductive Reading {α : Type} (s : Store) (a : α) : List DbStep → Except HttpError α → Store → Prop
  | value {t : Store} : s.Same t → Reading s a [] (.ok a) t
  | failed {failed : List DbStep} {e : HttpError} {t : Store} :
      s.Same t → ¬ LogsOnly failed → Reading s a failed (.error e) t

/-- A user without settings is given the defaults. -/
theorem createRow_eq_some {s : Store} {userId : Uuid} (hrow : s.settings userId = none) :
    (match s.settings userId with
      | some _ => none
      | none => some (ProtectionSettings.default, { s with
          settings := Function.update s.settings userId (some .default) })) =
      some (ProtectionSettings.default, { s with
        settings := Function.update s.settings userId (some .default) }) := by
  rw [hrow]

theorem reading_getSettings (user : AuthenticatedUser) (s : Store) :
    Prog.Outcomes (Reading s (s.settingsOf user.userId))
      (ProtectionSettingsService.getSettings user) s := by
  unfold ProtectionSettingsService.getSettings
  refine (outcomes_read_bind _ _ s).mpr ⟨?_, .failed (.refl s) (not_logsOnly_cons (by decide))⟩
  rw [Store.settingsOf]
  cases hrow : s.settings user.userId with
  | some row => exact Reading.value (.refl s)
  | none =>
    refine (Prog.outcomes_attempt_some (createRow_eq_some hrow)).mpr ⟨?_, ?_⟩
    · exact .value ⟨context_create hrow, rfl, rfl⟩
    · exact .failed (.refl s) (not_logsOnly_cons (by decide))

theorem reading_evaluateFor (user : AuthenticatedUser) (riskLevel : RiskLevel)
    (amountMinor : Option Int) (s : Store) :
    Prog.Outcomes (Reading s (policyOf s user.userId riskLevel amountMinor))
      (evaluateFor user riskLevel amountMinor) s := by
  unfold evaluateFor
  rw [Prog.outcomes_bind]
  refine (reading_getSettings user s).mono fun failed result t hread => ?_
  cases hread with
  | failed hsame hnot => exact .failed hsame hnot
  | value hsame =>
    rw [Prog.onward_ok]
    refine (outcomes_read_bind _ _ t).mpr
      ⟨?_, .failed hsame (not_logsOnly_cons (by decide))⟩
    have helder : t.elderMode = s.elderMode := congrArg Context.elderMode hsame.context
    rw [Prog.outcomes_pure, helder]
    exact .value hsame

/-- What throws in the end returns nothing. -/
theorem outcomes_throws {α β : Type} (p : Service α) (e : HttpError) (s : Store) :
    Prog.Outcomes (fun _ result _ => ∃ error, result = .error error)
      (p >>= fun _ => throw e : Service β) s := by
  rw [Prog.outcomes_bind, Prog.outcomes_iff]
  rintro failed (error | a) t -
  · exact ⟨error, rfl⟩
  · exact ⟨e, rfl⟩

/-- **The enforcement lets a decision through** where the verdict does and nothing fails but a
log. -/
theorem passes_enforceDecision (user : AuthenticatedUser) (p : EnforceParams) (s : Store) :
    Prog.Outcomes (fun failed result _ => (∃ policy, result = .ok policy) ↔
        (∃ policy, verdict s user p = .ok policy) ∧ LogsOnly failed)
      (enforceDecision user p) s := by
  have hthrows : ∀ {t failed} {q : Service Unit} {e : HttpError},
      (¬ ∃ policy, verdict s user p = .ok policy) →
      Prog.Outcomes (fun failed' result _ => (∃ policy, result = .ok policy) ↔
        (∃ policy, verdict s user p = .ok policy) ∧ LogsOnly (failed ++ failed'))
        (q >>= fun _ => throw e : Service ProtectionPolicyDecision) t := by
    intro t failed q e hrefused
    refine (outcomes_throws q e t).mono fun failed' result u herror => ?_
    obtain ⟨error, rfl⟩ := herror
    exact iff_of_false (by simp) fun h => hrefused h.1
  unfold enforceDecision
  rw [Prog.outcomes_bind]
  refine (reading_evaluateFor user p.riskLevel p.amountMinor s).mono fun failed result t hread => ?_
  cases hread with
  | failed _ hnot => exact iff_of_false (by simp) fun h => hnot h.2
  | value hsame =>
    rw [Prog.onward_ok]
    by_cases hcontinue : p.decisionKind = .continue ∧
        (policyOf s user.userId p.riskLevel p.amountMinor).continueAnywayAllowed = false
    · rw [if_pos hcontinue]
      exact hthrows (by simp [verdict, if_pos hcontinue])
    · rw [if_neg hcontinue]
      by_cases hrelease : p.decisionKind = .release ∧
          (policyOf s user.userId p.riskLevel p.amountMinor).trustedContactReviewRequired = true
      · rw [if_pos hrelease]
        refine (outcomes_read_bind _ _ t).mpr ⟨?_, ?_⟩
        · have happroves := run_hasApprovedReview p.module p.eventId t
          rw [TrustedContactReviewService.hasApprovedReview, run_read] at happroves
          rw [Except.ok.inj (congrArg Prod.fst happroves),
            decide_eq_decide.mpr (hsame.approved p.module p.eventId)]
          by_cases happroved : Approved s p.module p.eventId
          · rw [if_pos (decide_eq_true happroved)]
            refine iff_of_true ⟨_, rfl⟩ ⟨?_, logsOnly_nil⟩
            exact ⟨_, by rw [verdict, if_neg hcontinue, if_neg fun h => h.2.2 happroved]⟩
          · rw [if_neg (by simpa using happroved)]
            refine hthrows ?_
            simp [verdict, if_neg hcontinue, if_pos
              (⟨hrelease.1, hrelease.2, happroved⟩ : _ ∧ _ ∧ ¬ Approved s p.module p.eventId)]
        · exact iff_of_false (by simp) fun h => not_logsOnly_cons (by decide) h.2
      · rw [if_neg hrelease]
        refine iff_of_true ⟨_, rfl⟩ ⟨?_, logsOnly_nil⟩
        exact ⟨_, by rw [verdict, if_neg hcontinue, if_neg fun h => hrelease ⟨h.1, h.2.1⟩]⟩

/-! ## What the verdict comes to -/

theorem verdict_continue_iff {user : AuthenticatedUser} {p : EnforceParams}
    (hkind : p.decisionKind = .continue) :
    (∃ policy, verdict s user p = .ok policy) ↔
      (policyOf s user.userId p.riskLevel p.amountMinor).continueAnywayAllowed = true := by
  constructor
  · rintro ⟨policy, hpolicy⟩
    exact allowed_of_verdict hpolicy hkind
  · intro hallowed
    exact ⟨_, by rw [verdict, if_neg (by simp [hallowed]), if_neg (by simp [hkind])]⟩

theorem verdict_release_iff {user : AuthenticatedUser} {p : EnforceParams}
    (hkind : p.decisionKind = .release) :
    (∃ policy, verdict s user p = .ok policy) ↔
      ((policyOf s user.userId p.riskLevel p.amountMinor).trustedContactReviewRequired = true →
        Approved s p.module p.eventId) := by
  constructor
  · rintro ⟨policy, hpolicy⟩
    exact approved_of_verdict hpolicy hkind
  · intro happroved
    exact ⟨_, by rw [verdict, if_neg (by simp [hkind]),
      if_neg fun h => h.2.2 (happroved h.2.1)]⟩

/-! ## The ends of a decision -/

section Decide

variable {g : Guard} (m : DecideSpec g) (user : AuthenticatedUser) (id : Uuid)
  (decision : g.Decision)

/-- The caller owns the event, which is pending, and the enforcement lets the decision through. -/
def Passes (v : Vocabulary g) (user : AuthenticatedUser) (id : Uuid) (decision : g.Decision)
    (s : Store) : Prop :=
  ∃ e, Owned s g user id e ∧ e.status = g.pending ∧
    ∃ policy, verdict s user (v.enforceParams id e decision) = .ok policy

/-- The ends of a decision that does not escalate. -/
inductive DecideEnd (v : Vocabulary g) (user : AuthenticatedUser) (id : Uuid)
    (decision : g.Decision) (s : Store) (failed : List DbStep) (t : Store) : Prop
  | decided (hpasses : Passes v user id decision s) (hlogs : LogsOnly failed)
      (hwritten : ∃ u, u.status = v.nextStatus decision ∧
        t.events = (s.setEvent g id u).events)
  | kept (hnot : ¬ (Passes v user id decision s ∧ LogsOnly failed)) (hsame : t.events = s.events)

variable {m user id decision}

theorem decideEnd_recordDecision {e : HeldEvent g} (notes : Option Text)
    (hescalates : m.escalates decision = false) (hpasses : Passes m.toVocabulary user id decision s)
    (hfound : s.events g id = some e) (hsame : s.Same t) (hlogs : LogsOnly failed) :
    Prog.Outcomes (fun failed' _ u => DecideEnd m.toVocabulary user id decision s
        (failed ++ failed') u)
      (recordDecision m user id e decision notes) t := by
  have hwritten : (t.setEvent g id (m.decidedEvent decision notes t.now e)).events =
      (s.setEvent g id (m.decidedEvent decision notes t.now e)).events :=
    events_setEvent hsame.events g id _
  have hfound' : (t.events g id).map (fun e => (m.decidedEvent decision notes t.now e,
      t.setEvent g id (m.decidedEvent decision notes t.now e))) =
      some (m.decidedEvent decision notes t.now e,
        t.setEvent g id (m.decidedEvent decision notes t.now e)) := by
    rw [hsame.events, hfound, Option.map_some]
  unfold recordDecision
  rw [Prog.outcomes_bind]
  refine (Prog.outcomes_attempt_some hfound').mpr ⟨?_, ?_⟩
  · rw [Prog.onward_ok, Prog.outcomes_bind]
    refine Prog.outcomes_act.mpr ⟨?_, ?_⟩
    · rw [Prog.onward_ok, if_neg (by simp [hescalates]), Prog.outcomes_pure]
      exact .decided hpasses (by simpa using hlogs) ⟨_, rfl, hwritten⟩
    · -- the append comes too late
      refine .decided hpasses (fun l hl => ?_) ⟨_, rfl, hwritten⟩
      rcases List.mem_append.mp hl with hl | hl
      · exact hlogs l hl
      · simpa using hl
  · refine .kept (fun h => ?_) hsame.events
    exact absurd (h.2 (.settle g id) (List.mem_append_right _ (List.mem_singleton_self _)))
      (by simp)

/-- **The ends of a decision** that does not escalate. -/
theorem decideEnd (notes : Option Text) (hescalates : m.escalates decision = false) (s : Store) :
    Prog.Outcomes (fun failed _ t => DecideEnd m.toVocabulary user id decision s failed t)
      (decideWith m user id decision notes) s := by
  unfold decideWith findOwned
  refine (outcomes_read_bind _ _ s).mpr ⟨?_, ?_⟩
  · cases hfound : (s.events g id).filter fun e => e.userId = user.userId with
    | none =>
      refine .kept (fun h => ?_) rfl
      obtain ⟨⟨e, howned, -⟩, -⟩ := h
      exact Option.filter_eq_none_iff.mp hfound e howned.found (by simpa using howned.mine)
    | some e =>
      obtain ⟨hevent, hmine⟩ := Option.filter_eq_some_iff.mp hfound
      have howned : Owned s g user id e := ⟨hevent, by simpa using hmine⟩
      have hsame : ∀ e', Owned s g user id e' → e' = e := fun e' howned' =>
        Option.some.inj (howned'.found.symm.trans hevent)
      dsimp only
      by_cases hpending : e.status = g.pending
      · rw [if_neg (not_not.mpr hpending), Prog.outcomes_bind, Prog.outcomes_iff]
        intro failed result t hends
        have hquiet := (quiet_enforceDecision user (m.enforceParams id e decision)).ends
          Store.Same.refl (fun _ _ _ => Store.Same.trans) hends
        have hiff := Prog.outcomes_iff.mp
          (passes_enforceDecision user (m.enforceParams id e decision) s) _ _ _ hends
        cases result with
        | error error =>
          refine .kept (fun h => ?_) hquiet.2.events
          obtain ⟨⟨e', howned', -, hverdict⟩, hlogs⟩ := h
          rw [hsame e' howned'] at hverdict
          obtain ⟨policy, hpolicy⟩ := hiff.mpr ⟨hverdict, hlogs⟩
          cases hpolicy
        | ok policy =>
          obtain ⟨hverdict, hlogs⟩ := hiff.mp ⟨policy, rfl⟩
          exact decideEnd_recordDecision notes hescalates ⟨e, howned, hpending, hverdict⟩ hevent
            hquiet.2 hlogs
      · rw [if_pos hpending]
        refine .kept (fun h => ?_) rfl
        obtain ⟨⟨e', howned', hpending', -⟩, -⟩ := h
        exact hpending (hsame e' howned' ▸ hpending')
  · refine .kept (fun h => ?_) rfl
    exact not_logsOnly_cons (by decide) h.2

/-! ## What a decision does to the rows -/

/-- Rows keep their owner, their risk and their details, and come to no status but the given. -/
def Writes (g : Guard) (status : g.Status) (s t : Store) : Prop :=
  ∀ id e', t.events g id = some e' → ∃ e, s.events g id = some e ∧ e'.userId = e.userId ∧
    e'.riskLevel = e.riskLevel ∧ e'.details = e.details ∧
    (e'.status = e.status ∨ e'.status = status)

theorem writes_of_events {status : g.Status} (h : t.events = s.events) : Writes g status s t := by
  intro id e he
  rw [h] at he
  exact ⟨e, he, rfl, rfl, rfl, Or.inl rfl⟩

theorem Writes.trans {status : g.Status} {s t u : Store} (hst : Writes g status s t)
    (htu : Writes g status t u) : Writes g status s u := by
  intro id e'' he''
  obtain ⟨e', he', huser', hrisk', hdetails', hstatus'⟩ := htu id e'' he''
  obtain ⟨e, he, huser, hrisk, hdetails, hstatus⟩ := hst id e' he'
  refine ⟨e, he, huser'.trans huser, hrisk'.trans hrisk, hdetails'.trans hdetails, ?_⟩
  rcases hstatus' with hsame | hnext
  · exact hstatus.imp hsame.trans hsame.trans
  · exact Or.inr hnext

/-- A program that brings rows to no status but the given. -/
abbrev WritesOnly {α : Type} (g : Guard) (status : g.Status) (p : Service α) : Prop :=
  p.Each fun _ s t => True ∧ Writes g status s t

theorem KeepsEvents.writes {α : Type} {status : g.Status} {p : Service α} (h : KeepsEvents p) :
    WritesOnly g status p :=
  h.mono fun _ _ _ hstep => ⟨trivial, writes_of_events hstep.2⟩

theorem writes_updateEvent {status : g.Status} {label : DbStep}
    {f : Store → HeldEvent g → HeldEvent g}
    (h : ∀ s e, (f s e).userId = e.userId ∧ (f s e).riskLevel = e.riskLevel ∧
      (f s e).details = e.details ∧ ((f s e).status = e.status ∨ (f s e).status = status)) :
    WritesOnly g status (updateEvent label g id f) := by
  refine Prog.Each.attempt (fun s r s' hs => ⟨trivial, ?_⟩) fun s _ =>
    ⟨trivial, writes_of_events rfl⟩
  obtain ⟨e, hfound, he⟩ := Option.map_eq_some_iff.mp hs
  cases he
  intro id' e' he'
  by_cases hid : id' = id
  · subst hid
    rw [Store.setEvent_self] at he'
    cases he'
    exact ⟨e, hfound, h s e⟩
  · rw [Store.setEvent_of_ne fun hsame => hid hsame.2] at he'
    exact ⟨e', he', rfl, rfl, rfl, Or.inl rfl⟩

theorem writes_recordDecision (existing : HeldEvent g) (notes : Option Text) :
    WritesOnly g (m.nextStatus decision) (recordDecision m user id existing decision notes) := by
  refine Prog.Each.bind (writes_updateEvent fun _ _ => ⟨rfl, rfl, rfl, Or.inr rfl⟩)
    fun updated => ?_
  refine (quiet_appendEvidence _).keepsEvents.writes.bind fun _ => ?_
  dsimp only
  split
  · refine Prog.Each.bind ?_ fun _ => Prog.Each.pure updated
    refine (keepsEvents_requestReview _).writes.bind fun review => ?_
    cases review with
    | none => exact Prog.Each.pure ()
    | some review =>
      exact Prog.Each.bind (writes_updateEvent fun _ _ => ⟨rfl, rfl, rfl, Or.inl rfl⟩)
        fun _ => Prog.Each.pure ()
  · exact Prog.Each.pure updated

/-- However its steps fail, a decision brings rows to its own status only. -/
theorem writes_decideWith (notes : Option Text) :
    WritesOnly g (m.nextStatus decision) (decideWith m user id decision notes) := by
  refine (quiet_read _).keepsEvents.writes.bind fun existing => ?_
  cases existing with
  | none => exact Prog.Each.throw _
  | some existing =>
    dsimp only
    split
    · exact Prog.Each.throw _
    · exact (quiet_enforceDecision _ _).keepsEvents.writes.bind fun _ =>
        writes_recordDecision existing notes

theorem writes_ends {notes : Option Text} {result : Except HttpError (HeldEvent g)}
    (h : Prog.Ends (decideWith m user id decision notes) s failed result t) :
    Writes g (m.nextStatus decision) s t :=
  ((writes_decideWith notes).ends (L := fun _ => True) (fun _ => writes_of_events rfl)
    (fun _ _ _ => Writes.trans) h).2

end Decide

end Protection
