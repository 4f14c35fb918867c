import Vigiscam.Protection.Modules

/-!
# What a decision does

`settle_outcome` lists what `settle` can do to the store it starts in, when nobody
else acts in between: it finds no event of the caller, or one that is decided, or
the enforcement blocks it, or it moves the event. The results about single calls
and about runs of calls are case analyses over this list and do not look at the
services again.
-/

namespace Protection

open Js Concurrency ProtectionEnforcementService TrustedContactReviewService

/-- An event of the user. -/
structure Owned (s : Store) (g : Guard) (user : AuthenticatedUser) (id : Uuid)
    (e : HeldEvent g) : Prop where
  found : s.events g id = some e
  mine : e.userId = user.userId

/-- The row of an event after a decision. -/
structure DecidedRow {g : Guard} (v : Vocabulary g) (e : HeldEvent g) (decision : g.Decision)
    (u : HeldEvent g) : Prop where
  status : u.status = v.nextStatus decision
  userId : u.userId = e.userId
  riskLevel : u.riskLevel = e.riskLevel
  amountMinor : v.amountMinor u.details = v.amountMinor e.details

/-- A review of the event is opened, on behalf of the user, with a contact that the
service chooses. -/
def OpensReview (s s' : Store) (g : Guard) (user : AuthenticatedUser) (id : Uuid) : Prop :=
  ∃ input contact t, s'.reviews = s.reviews ++ [openedReview input contact t] ∧
    input.user = user ∧ input.triggerModule = g.module ∧ input.triggerEventId = id ∧
    input.contactId = none ∧ eligible input s.contacts = some contact

/-- What an escalation does: it may open a review, and it may link the event to it. -/
structure Escalated (s s' : Store) (g : Guard) (user : AuthenticatedUser) (id : Uuid)
    (e : HeldEvent g) : Prop where
  context : s'.context = s.context
  events : ∃ link, s'.events = (s.setEvent g id { e with trustedContactReviewId := link }).events
  reviews : s'.reviews = s.reviews ∨ OpensReview s s' g user id

/-- The outcomes of a decision. -/
inductive Settled {g : Guard} (v : Vocabulary g) (user : AuthenticatedUser) (id : Uuid)
    (decision : g.Decision) (s : Store) : Except HttpError (HeldEvent g) → Store → Prop
  | notFound (h : ∀ e, ¬ Owned s g user id e) : Settled v user id decision s
      (.error (.notFound v.notFound)) s
  | alreadyDecided {e : HeldEvent g} (howned : Owned s g user id e) (h : e.status ≠ g.pending) :
      Settled v user id decision s (.error (v.alreadyDecidedIn e.status)) s
  | blocked {e : HeldEvent g} {error : HttpError} {s' : Store} (howned : Owned s g user id e)
      (hpending : e.status = g.pending)
      (hverdict : verdict s user (v.enforceParams id e decision) = .error error)
      (hsame : s.Same s') : Settled v user id decision s (.error error) s'
  | decided {e u : HeldEvent g} {policy : ProtectionPolicyDecision}
      {out : Except HttpError (HeldEvent g)} {s' : Store} (howned : Owned s g user id e)
      (hpending : e.status = g.pending)
      (hverdict : verdict s user (v.enforceParams id e decision) = .ok policy)
      (hrow : DecidedRow v e decision u) (hcontext : s'.context = s.context)
      (hevents : s'.events = (s.setEvent g id u).events)
      (hreviews : s'.reviews = s.reviews ∨
        v.escalates decision = true ∧ OpensReview s s' g user id)
      (hout : (∃ r, out = .ok r ∧ DecidedRow v e decision r) ∨
        v.escalates decision = true ∧ out = .error .internal) :
      Settled v user id decision s out s'

/-- What a decision that goes through has found and written. -/
structure Decides {g : Guard} (v : Vocabulary g) (user : AuthenticatedUser) (id : Uuid)
    (decision : g.Decision) (s s' : Store) (e u : HeldEvent g) : Prop where
  owned : Owned s g user id e
  pending : e.status = g.pending
  passes : ∃ policy, verdict s user (v.enforceParams id e decision) = .ok policy
  row : DecidedRow v e decision u
  context : s'.context = s.context
  events : s'.events = (s.setEvent g id u).events
  reviews : s'.reviews = s.reviews ∨ v.escalates decision = true ∧ OpensReview s s' g user id

section Settled

variable {g : Guard} {v : Vocabulary g} {user : AuthenticatedUser} {id : Uuid}
  {decision : g.Decision} {s s' : Store} {out : Except HttpError (HeldEvent g)}

/-- A decision leaves the store the same, or goes through. -/
theorem Settled.same_or_decides (h : Settled v user id decision s out s') :
    s.Same s' ∨ ∃ e u, Decides v user id decision s s' e u := by
  cases h with
  | notFound => exact Or.inl (.refl _)
  | alreadyDecided => exact Or.inl (.refl _)
  | blocked _ _ _ hsame => exact Or.inl hsame
  | decided howned hpending hverdict hrow hcontext hevents hreviews =>
    exact Or.inr ⟨_, _, howned, hpending, ⟨_, hverdict⟩, hrow, hcontext, hevents, hreviews⟩

/-- A decision that is refused leaves the store the same. -/
theorem Settled.same_of_error {error : HttpError} (h : Settled v user id decision s out s')
    (hout : out = .error error) (herror : error ≠ .internal) : s.Same s' := by
  cases h with
  | notFound => exact .refl _
  | alreadyDecided => exact .refl _
  | blocked _ _ _ hsame => exact hsame
  | decided _ _ _ _ _ _ _ hresult =>
    rcases hresult with ⟨r, hr, _⟩ | ⟨_, hinternal⟩
    · cases hr.symm.trans hout
    · cases hinternal.symm.trans hout
      exact absurd rfl herror

/-- An event that is decided is decided for good. -/
theorem Settled.refused_of_decided {e : HeldEvent g} (h : Settled v user id decision s out s')
    (howned : Owned s g user id e) (hdecided : e.status ≠ g.pending) :
    out = .error (v.alreadyDecidedIn e.status) ∧ s' = s := by
  have hsame : ∀ {e₀}, Owned s g user id e₀ → e₀ = e := fun h₀ =>
    Option.some.inj (h₀.found.symm.trans howned.found)
  cases h with
  | notFound hnone => exact absurd howned (hnone e)
  | alreadyDecided h₀ _ => exact ⟨by rw [hsame h₀], rfl⟩
  | blocked h₀ hpending => exact absurd (hsame h₀ ▸ hpending) hdecided
  | decided h₀ hpending => exact absurd (hsame h₀ ▸ hpending) hdecided

/-- A pending event is refused as the verdict says. -/
theorem Settled.refused_of_verdict {e : HeldEvent g} {error : HttpError}
    (h : Settled v user id decision s out s') (howned : Owned s g user id e)
    (hpending : e.status = g.pending)
    (hverdict : verdict s user (v.enforceParams id e decision) = .error error) :
    out = .error error ∧ s.Same s' := by
  cases h with
  | notFound hnone => exact absurd howned (hnone e)
  | alreadyDecided h₀ hne =>
    cases h₀.found.symm.trans howned.found
    exact absurd hpending hne
  | blocked h₀ _ hverdict₀ hsame =>
    cases h₀.found.symm.trans howned.found
    cases hverdict₀.symm.trans hverdict
    exact ⟨rfl, hsame⟩
  | decided h₀ _ hverdict₀ =>
    cases h₀.found.symm.trans howned.found
    cases hverdict₀.symm.trans hverdict

/-- A pending event that the verdict lets through is decided. -/
theorem Settled.accepted_of_verdict {e : HeldEvent g} {policy : ProtectionPolicyDecision}
    (h : Settled v user id decision s out s') (howned : Owned s g user id e)
    (hpending : e.status = g.pending)
    (hverdict : verdict s user (v.enforceParams id e decision) = .ok policy)
    (hescalates : v.escalates decision = false) :
    (∃ r, out = .ok r ∧ r.status = v.nextStatus decision) ∧
      ∃ u, s'.events g id = some u ∧ u.status = v.nextStatus decision := by
  cases h with
  | notFound hnone => exact absurd howned (hnone e)
  | alreadyDecided h₀ hne =>
    cases h₀.found.symm.trans howned.found
    exact absurd hpending hne
  | blocked h₀ _ hverdict₀ =>
    cases h₀.found.symm.trans howned.found
    cases hverdict₀.symm.trans hverdict
  | decided h₀ _ _ hrow _ hevents _ hout =>
    refine ⟨?_, _, by rw [hevents, Store.setEvent_self], hrow.status⟩
    -- an escalation alone could turn the recorded decision into an error
    rcases hout with ⟨r, hr, hrow'⟩ | ⟨hescalates', _⟩
    · exact ⟨r, hr, hrow'.status⟩
    · rw [hescalates] at hescalates'
      cases hescalates'

end Settled

/-! ## The parts -/

theorem run_findOwned_none {g : Guard} {user : AuthenticatedUser} {id : Uuid} {s : Store}
    (h : ∀ e, ¬ Owned s g user id e) : (findOwned g user id).run s = (.ok none, s) := by
  rw [findOwned, run_read, Option.filter_eq_none_iff.mpr]
  intro e he
  simpa using fun hmine => h e ⟨he, hmine⟩

theorem run_findOwned_some {g : Guard} {user : AuthenticatedUser} {id : Uuid} {s : Store}
    {e : HeldEvent g} (h : Owned s g user id e) :
    (findOwned g user id).run s = (.ok (some e), s) := by
  rw [findOwned, run_read, h.found, Option.filter_some, if_pos (by simpa using h.mine)]

/-- The events depend on the row that is written, and on the others as they were. -/
theorem events_setEvent {s s' : Store} (h : s'.events = s.events) (g : Guard) (id : Uuid)
    (e : HeldEvent g) : (s'.setEvent g id e).events = (s.setEvent g id e).events := by
  simp only [Store.setEvent, h]

theorem escalated_of_same {s s' : Store} {g : Guard} {user : AuthenticatedUser} {id : Uuid}
    {e : HeldEvent g} (h : s.events g id = some e) (hsame : s.Same s') :
    Escalated s s' g user id e where
  context := hsame.context
  events := ⟨e.trustedContactReviewId, by rw [Store.setEvent_eq_self h, hsame.events]⟩
  reviews := Or.inl hsame.reviews

/-- An escalation never fails but for a review whose id is taken. -/
theorem escalate_outcome {g : Guard} (m : DecideSpec g) (user : AuthenticatedUser) {id : Uuid}
    (existing : HeldEvent g) {s : Store} {e : HeldEvent g} (h : s.events g id = some e) :
    (((escalate m user id existing).run s).1 = .ok () ∨
      ((escalate m user id existing).run s).1 = .error .internal) ∧
    Escalated s ((escalate m user id existing).run s).2 g user id e := by
  rw [escalate, Prog.run_bind]
  have hrequest := requestReview_outcome (escalation m user id existing) s
  generalize (requestReview (escalation m user id existing)).run s = out at hrequest ⊢
  obtain ⟨result, s'⟩ := out
  cases hrequest with
  | nobody => exact ⟨Or.inl rfl, escalated_of_same h (.refl _)⟩
  | failed hsame => exact ⟨Or.inr rfl, escalated_of_same h hsame⟩
  | @opened contact s' hcontact hcontext hevents hreviews =>
    have hfound : s'.events g id = some e := by rw [hevents, h]
    rw [Prog.andThen_ok]
    dsimp only
    rw [Prog.run_bind, run_updateEvent hfound, Prog.andThen_ok, Prog.run_pure]
    refine ⟨Or.inl rfl, hcontext, ⟨_, events_setEvent hevents g id _⟩, Or.inr ?_⟩
    exact ⟨_, contact, s, hreviews, rfl, rfl, rfl, rfl, hcontact⟩

/-! ## One body for four modules -/

theorem OpensReview.of_same {s t s' : Store} {g : Guard} {user : AuthenticatedUser} {id : Uuid}
    (h : OpensReview t s' g user id) (hcontext : t.context = s.context)
    (hreviews : t.reviews = s.reviews) : OpensReview s s' g user id := by
  have hcontacts : t.contacts = s.contacts := congrArg Context.contacts hcontext
  rwa [OpensReview, hreviews, hcontacts] at h

/-- The update of an event and its record in the evidence. -/
theorem run_update_log {g : Guard} {id : Uuid} {t : Store} {e : HeldEvent g} {α : Type}
    (hfound : t.events g id = some e) (label : DbStep) (f : Store → HeldEvent g → HeldEvent g)
    (input : EvidenceVault.AppendEvidenceInput) (k : HeldEvent g → Service α) :
    ∃ t', (updateEvent label g id f >>= fun updated =>
        appendEvidence input >>= fun _ => k updated).run t = (k (f t e)).run t' ∧
      t'.context = t.context ∧ t'.events = (t.setEvent g id (f t e)).events ∧
      t'.reviews = t.reviews := by
  rw [Prog.run_bind, run_updateEvent hfound, Prog.andThen_ok, Prog.run_bind, run_appendEvidence,
    Prog.andThen_ok]
  exact ⟨_, rfl, rfl, rfl, rfl⟩

theorem recordDecision_outcome {g : Guard} (m : DecideSpec g) {user : AuthenticatedUser} {id : Uuid}
    {decision : g.Decision} (notes : Option Text) {s t : Store} {e : HeldEvent g}
    {policy : ProtectionPolicyDecision} (howned : Owned s g user id e)
    (hpending : e.status = g.pending)
    (hverdict : verdict s user (m.enforceParams id e decision) = .ok policy) (hsame : s.Same t) :
    Settled m.toVocabulary user id decision s
      ((recordDecision m user id e decision notes).run t).1
      ((recordDecision m user id e decision notes).run t).2 := by
  have hfound : t.events g id = some e := by rw [hsame.events, howned.found]
  obtain ⟨t', hrun, hcontext, hevents, hreviews⟩ := run_update_log hfound (.settle g id)
    (fun s => m.decidedEvent decision notes s.now)
    (userEvidence user m.entityType id (m.entityType ++ "_" ++ m.decisionName decision)
      (m.eventDescription decision) (decisionMetadata (m.decisionName decision) notes)
      (distinct_decisionMetadata _ _))
    fun updated => do
      if m.escalates decision then
        escalate m user id e
      pure updated
  -- `escalate` may link the event to the review it opens: the row is settled for any link
  have hrow : ∀ link, DecidedRow m.toVocabulary e decision
      { m.decidedEvent decision notes t.now e with trustedContactReviewId := link } :=
    fun link => ⟨rfl, rfl, rfl, rfl⟩
  have hcontext' := hcontext.trans hsame.context
  have hreviews' := hreviews.trans hsame.reviews
  have hevents' := hevents.trans (events_setEvent hsame.events g id _)
  rw [recordDecision, hrun]
  by_cases hescalates : m.escalates decision = true
  · have hdecided : t'.events g id = some (m.decidedEvent decision notes t.now e) :=
      hevents ▸ Store.setEvent_self t g id _
    obtain ⟨hresult, hescalated⟩ := escalate_outcome m user e hdecided
    rw [if_pos hescalates, Prog.run_bind]
    generalize (escalate m user id e).run t' = final at hresult hescalated ⊢
    obtain ⟨result, s'⟩ := final
    obtain ⟨link, hlink⟩ := hescalated.events
    have hfinal : ∀ out, _ → Settled m.toVocabulary user id decision s out s' := fun out hout =>
      .decided howned hpending hverdict (hrow link) (hescalated.context.trans hcontext')
        (by rw [hlink, events_setEvent hevents', Store.setEvent_setEvent])
        (hescalated.reviews.imp (·.trans hreviews') fun h =>
          ⟨hescalates, h.of_same hcontext' hreviews'⟩) hout
    -- a review that cannot be opened is an error, but the decision is recorded
    rcases hresult with rfl | rfl
    · exact hfinal _ (Or.inl ⟨_, rfl, hrow e.trustedContactReviewId⟩)
    · exact hfinal _ (Or.inr ⟨hescalates, rfl⟩)
  · rw [if_neg hescalates, Prog.run_pure]
    exact .decided howned hpending hverdict (hrow e.trustedContactReviewId) hcontext' hevents'
      (Or.inl hreviews') (Or.inl ⟨_, rfl, hrow e.trustedContactReviewId⟩)

theorem decideWith_outcome {g : Guard} (m : DecideSpec g) (user : AuthenticatedUser) (id : Uuid)
    (decision : g.Decision) (notes : Option Text) (s : Store) :
    Settled m.toVocabulary user id decision s ((decideWith m user id decision notes).run s).1
      ((decideWith m user id decision notes).run s).2 := by
  by_cases howned : ∃ e, Owned s g user id e
  · obtain ⟨e, howned⟩ := howned
    rw [decideWith, Prog.run_bind, run_findOwned_some howned, Prog.andThen_ok]
    dsimp only
    by_cases hpending : e.status = g.pending
    · rw [if_neg (not_not.mpr hpending)]
      -- the policy check only reads: what it decides depends on the store before it
      have hsame := (quiet_enforceDecision user (m.enforceParams id e decision)).run s
      have hresult := run_enforceDecision user (m.enforceParams id e decision) s
      cases hverdict : verdict s user (m.enforceParams id e decision) with
      | error error =>
        rw [Prog.run_bind_error (hresult.trans hverdict)]
        exact .blocked howned hpending hverdict hsame
      | ok policy =>
        rw [Prog.run_bind_ok (hresult.trans hverdict)]
        exact recordDecision_outcome m notes howned hpending hverdict hsame
    · rw [if_pos hpending]
      exact .alreadyDecided howned hpending
  · rw [decideWith, Prog.run_bind, run_findOwned_none fun e he => howned ⟨e, he⟩]
    exact .notFound fun e he => howned ⟨e, he⟩

/-! ## Guardian Pause -/

theorem recordResolution_outcome {user : AuthenticatedUser} {id : Uuid}
    {resolution : PauseResolution} (notes : Option Text) {s t : Store}
    {e : HeldEvent .guardianPause} {policy : ProtectionPolicyDecision}
    (howned : Owned s .guardianPause user id e) (hpending : e.status = Guard.guardianPause.pending)
    (hverdict : verdict s user (GuardianPauseService.vocabulary.enforceParams id e resolution) =
      .ok policy) (hsame : s.Same t) :
    Settled GuardianPauseService.vocabulary user id resolution s
      ((GuardianPauseService.recordResolution user id e resolution notes).run t).1
      ((GuardianPauseService.recordResolution user id e resolution notes).run t).2 := by
  have hfound : t.events .guardianPause id = some e := by rw [hsame.events, howned.found]
  rw [GuardianPauseService.recordResolution]
  obtain ⟨t', hrun, hcontext, hevents, hreviews⟩ := run_update_log hfound _ _ _ pure
  rw [hrun, Prog.run_pure]
  have hrow : ∀ count, DecidedRow GuardianPauseService.vocabulary e resolution
      { GuardianPauseService.vocabulary.decidedEvent resolution notes t.now e with
        details := { continueAnywayCount := count } } := fun count => ⟨rfl, rfl, rfl, rfl⟩
  exact .decided howned hpending hverdict (hrow _) (hcontext.trans hsame.context)
    (hevents.trans (events_setEvent hsame.events _ id _)) (Or.inl (hreviews.trans hsame.reviews))
    (Or.inl ⟨_, rfl, hrow _⟩)

theorem complete_outcome (user : AuthenticatedUser) (id : Uuid) (resolution : PauseResolution)
    (notes : Option Text) (s : Store) :
    Settled GuardianPauseService.vocabulary user id resolution s
      ((GuardianPauseService.complete user id resolution notes).run s).1
      ((GuardianPauseService.complete user id resolution notes).run s).2 := by
  by_cases howned : ∃ e, Owned s .guardianPause user id e
  · obtain ⟨e, howned⟩ := howned
    rw [GuardianPauseService.complete, Prog.run_bind, run_findOwned_some howned, Prog.andThen_ok]
    dsimp only
    by_cases hpending : e.status = GuardianPauseStatus.active
    · rw [if_neg (not_not.mpr hpending)]
      -- only `continuedAnyway` asks the enforcement service
      by_cases hcontinue : resolution = .continuedAnyway
      · rw [if_pos hcontinue]
        have hsame := (quiet_enforceDecision user
          (GuardianPauseService.vocabulary.enforceParams id e resolution)).run s
        have hresult := run_enforceDecision user
          (GuardianPauseService.vocabulary.enforceParams id e resolution) s
        cases hverdict : verdict s user
            (GuardianPauseService.vocabulary.enforceParams id e resolution) with
        | error error =>
          rw [Prog.run_bind_error (hresult.trans hverdict)]
          exact .blocked howned hpending hverdict hsame
        | ok policy =>
          rw [Prog.run_bind_ok (hresult.trans hverdict)]
          exact recordResolution_outcome notes howned hpending hverdict hsame
      · rw [if_neg hcontinue]
        have hother : GuardianPauseService.decisionKind resolution = .other := by
          cases resolution with
          | continuedAnyway => exact absurd rfl hcontinue
          | resolved => rfl
          | expired => rfl
        exact recordResolution_outcome notes howned hpending (verdict_other hother) (.refl s)
    · rw [if_pos hpending]
      exact .alreadyDecided howned hpending
  · rw [GuardianPauseService.complete, Prog.run_bind,
      run_findOwned_none fun e he => howned ⟨e, he⟩]
    exact .notFound fun e he => howned ⟨e, he⟩

/-! ## Any module -/

/-- **What a decision does**, in any of the modules. -/
theorem settle_outcome (g : Guard) (user : AuthenticatedUser) (id : Uuid) (decision : g.Decision)
    (notes : Option Text) (s : Store) :
    Settled g.vocabulary user id decision s ((settle g user id decision notes).run s).1
      ((settle g user id decision notes).run s).2 := by
  cases g with
  | scamHold => exact decideWith_outcome ScamHoldService.spec user id decision notes s
  | giftCardGuard => exact decideWith_outcome GiftCardGuardService.spec user id decision notes s
  | walletGuard => exact decideWith_outcome WalletGuardService.spec user id decision notes s
  | claimVerify => exact decideWith_outcome ClaimVerifyService.spec user id decision notes s
  | guardianPause => exact complete_outcome user id decision notes s

end Protection
