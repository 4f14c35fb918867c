import Vigiscam.Protection.Gate

/-!
# Elder protection

A user with the account's elder flag is to be protected on critical actions: no such action
goes ahead without the approval of a trusted contact. The policy blocks a continue by the flag.
Whether a release waits for a review, it reads off two settings alone, and not off the flag
(`review_required_iff`). So the flag protects exactly the calls that are no such release
(`protects_iff`).
-/

namespace Protection

open Js Concurrency ProtectionEnforcementService

/-- What the elder flag is to promise of a call in a state, in the modules that release: no
critical event of a user with the flag goes ahead without an approved review. -/
def Protects (c : Call) (s : Store) : Prop :=
  ∀ g id e status, g.releaseStatus ≠ none → s.elderMode e.userId = some true →
    e.riskLevel = .critical → (some status = g.releaseStatus ∨ status = g.continueStatus) →
    c.MovesTo s g id e status → Approved s g.module id

/-- Where the call releases a pending critical event of a user with the flag, one of the
settings asks for a review, or the event has an approved one. -/
def AsksForReview (c : Call) (s : Store) : Prop :=
  ∀ e, Owned s c.g c.user c.id e → e.status = c.g.pending → e.riskLevel = .critical →
    s.elderMode c.user.userId = some true → c.g.vocabulary.decisionKind c.decision = .release →
    (s.settingsOf c.user.userId).trustedContactRequired = true ∨
      (s.settingsOf c.user.userId).elderModeStrictLock = true ∨ Approved s c.g.module c.id

/-! ## The policy on a critical action -/

section Policy

variable {s : Store} {userId : Uuid} {amountMinor : Option Int}

/-- The account's flag is not asked whether a release waits for a review. -/
theorem review_required_iff :
    (policyOf s userId .critical amountMinor).trustedContactReviewRequired = true ↔
      (s.settingsOf userId).trustedContactRequired = true ∨
        (s.settingsOf userId).elderModeStrictLock = true := by
  simp [policyOf, evaluate]

/-- The flag blocks every continue. -/
theorem continue_blocked_of_elder (h : s.elderMode userId = some true) :
    (policyOf s userId .critical amountMinor).continueAnywayAllowed = false := by
  simp [policyOf, evaluate, h]

end Policy

/-! ## One call -/

/-- A decision that asks for a release writes the release status. -/
theorem releaseStatus_of_decisionKind {g : Guard} {decision : g.Decision}
    (h : g.vocabulary.decisionKind decision = .release) :
    some (g.vocabulary.nextStatus decision) = g.releaseStatus := by
  cases g <;> cases decision <;> first | rfl | cases h

/-- A release is never handed to a contact. -/
theorem escalates_of_decisionKind {g : Guard} {decision : g.Decision}
    (h : g.vocabulary.decisionKind decision = .release) :
    g.vocabulary.escalates decision = false := by
  cases g <;> cases decision <;> first | rfl | cases h

section Call

variable {c : Call} {s : Store}

/-- A call moves no other event than its own. -/
theorem Call.MovesTo.own {g : Guard} {id : Uuid} {e : HeldEvent g} {status : g.Status}
    (h : c.MovesTo s g id e status) : g = c.g ∧ id = c.id := by
  by_contra hother
  rcases (settle_outcome c.g c.user c.id c.decision c.notes s).same_or_decides with
    hsame | ⟨e₀, u, hdecides⟩
  · exact Call.not_movesTo hsame.events h
  · obtain ⟨hfound, hne, e', hfound', hstatus⟩ := h
    have hevents : (c.exec s).events = (s.setEvent c.g c.id u).events := hdecides.events
    rw [hevents, Store.setEvent_of_ne hother, hfound] at hfound'
    cases hfound'
    exact hne hstatus

/-- A call that moves its event decides it. -/
theorem Call.MovesTo.decides {e : HeldEvent c.g} {status : c.g.Status}
    (h : c.MovesTo s c.g c.id e status) :
    ∃ u, Decides c.g.vocabulary c.user c.id c.decision s (c.exec s) e u ∧
      c.g.vocabulary.nextStatus c.decision = status := by
  rcases (settle_outcome c.g c.user c.id c.decision c.notes s).same_or_decides with
    hsame | ⟨e₀, u, hdecides⟩
  · exact absurd h (Call.not_movesTo hsame.events)
  · obtain ⟨hfound, -, e', hfound', hstatus⟩ := h
    have hevents : (c.exec s).events = (s.setEvent c.g c.id u).events := hdecides.events
    rw [hevents, Store.setEvent_self] at hfound'
    cases hfound'
    cases hfound.symm.trans hdecides.owned.found
    exact ⟨u, hdecides, hdecides.row.status.symm.trans hstatus⟩

/-- A release that no setting asks a review for goes through. -/
theorem Call.releases {e : HeldEvent c.g} (howned : Owned s c.g c.user c.id e)
    (hpending : e.status = c.g.pending) (hcritical : e.riskLevel = .critical)
    (hkind : c.g.vocabulary.decisionKind c.decision = .release)
    (hrequired : (s.settingsOf c.user.userId).trustedContactRequired ≠ true)
    (hstrict : (s.settingsOf c.user.userId).elderModeStrictLock ≠ true) :
    c.MovesTo s c.g c.id e (c.g.vocabulary.nextStatus c.decision) := by
  have hnot : (policyOf s c.user.userId .critical
      (c.g.vocabulary.amountMinor e.details)).trustedContactReviewRequired ≠ true := by
    rw [Ne, review_required_iff]
    exact not_or.mpr ⟨hrequired, hstrict⟩
  have hverdict : verdict s c.user (c.g.vocabulary.enforceParams c.id e c.decision) =
      .ok (policyOf s c.user.userId .critical (c.g.vocabulary.amountMinor e.details)) := by
    simp only [verdict, Vocabulary.enforceParams, hkind, hcritical]
    rw [if_neg (by simp), if_neg fun h => hnot h.2.1]
  obtain ⟨-, u, hfound, hstatus⟩ :=
    (settle_outcome c.g c.user c.id c.decision c.notes s).accepted_of_verdict howned hpending
      hverdict (escalates_of_decisionKind hkind)
  refine ⟨howned.found, ?_, u, hfound, hstatus⟩
  rw [hpending]
  exact (nextStatus_ne_pending c.decision).symm

/-- **The elder flag protects where a review is asked for.** -/
theorem protects_iff (c : Call) (s : Store) : Protects c s ↔ AsksForReview c s := by
  constructor
  · intro hprotects e howned hpending hcritical helder hkind
    by_contra hnot
    obtain ⟨hrequired, hnot⟩ := not_or.mp hnot
    obtain ⟨hstrict, hmissing⟩ := not_or.mp hnot
    have hstatus := releaseStatus_of_decisionKind hkind
    have hmoves := Call.releases howned hpending hcritical hkind hrequired hstrict
    refine hmissing (hprotects c.g c.id e _ ?_ ?_ hcritical (Or.inl hstatus) hmoves)
    · rw [← hstatus]
      exact Option.some_ne_none _
    · rw [howned.mine]
      exact helder
  · intro hasks g id e status hmodule helder hcritical hstatus hmoves
    obtain ⟨rfl, rfl⟩ := hmoves.own
    obtain ⟨u, hdecides, rfl⟩ := hmoves.decides
    obtain ⟨policy, hverdict⟩ := hdecides.passes
    rw [hdecides.owned.mine] at helder
    have hrisk : (c.g.vocabulary.enforceParams c.id e c.decision).riskLevel = .critical := hcritical
    rcases hstatus with hrelease | hcontinue
    · have hkind := decisionKind_of_release hrelease
      rcases hasks e hdecides.owned hdecides.pending hcritical helder hkind with
        hrequired | hstrict | happroved
      · refine approved_of_verdict hverdict hkind ?_
        rw [hrisk, review_required_iff]
        exact Or.inl hrequired
      · refine approved_of_verdict hverdict hkind ?_
        rw [hrisk, review_required_iff]
        exact Or.inr hstrict
      · exact happroved
    · -- the flag blocks the continue that the verdict lets through
      have hallowed := allowed_of_verdict hverdict (decisionKind_of_continue hcontinue)
      rw [hrisk, continue_blocked_of_elder helder] at hallowed
      cases hallowed

end Call

/-! ## Runs of calls -/

/-- **Elder protection**: a call protects a user with the elder flag exactly where its release
is held to a review by a setting, or has one; and in a run of such calls no critical event of a
user who has the flag throughout went ahead before it had an approved review. -/
theorem elder_protected_iff (c : Call) (t : Store) :
    (Protects c t ↔ AsksForReview c t) ∧
    ∀ (s₀ s : Store) (log : List (Store × Call)), DecisionRun s₀ log s →
      (∀ m ∈ log, AsksForReview m.2 m.1) →
      (∀ m ∈ log, Protects m.2 m.1) ∧
      ∀ (g : Guard) (id : Uuid) (e e' : HeldEvent g), g.releaseStatus ≠ none →
        s₀.events g id = some e → e.status = g.pending → e.riskLevel = .critical →
        (∀ m ∈ log, m.1.elderMode e.userId = some true) → s.events g id = some e' →
        (some e'.status = g.releaseStatus ∨ e'.status = g.continueStatus) →
        ∃ m ∈ log, Approved m.1 g.module id := by
  refine ⟨protects_iff c t, fun s₀ s log hrun hasks => ?_⟩
  have hprotects : ∀ m ∈ log, Protects m.2 m.1 := fun m hm => (protects_iff ..).mpr (hasks m hm)
  refine ⟨hprotects, fun g id e e' hmodule hstart hpending hcritical helder hend hstatus => ?_⟩
  have hne : e.status ≠ e'.status := by
    rw [hpending]
    rcases hstatus with hrelease | hcontinue
    · exact fun heq => releaseStatus_ne_pending g (heq ▸ hrelease.symm)
    · exact hcontinue ▸ pending_ne_continue g
  obtain ⟨m, hm, e₁, hmoves, -, huser, hrisk⟩ := hrun.moved hstart hend hne
  exact ⟨m, hm, hprotects m hm g id e₁ e'.status hmodule (huser ▸ helder m hm)
    (hrisk.trans hcritical) hstatus hmoves⟩

/-! ## A critical transfer -/

/-- The owner of the pending transfer has the elder flag. -/
def elderStore : Store := { holdStore .critical with elderMode _ := some true }

/-- The same with a contact's approval of the transfer. -/
def elderApprovedStore : Store := { elderStore with
  reviews := [{
    id := sampleUuid 0x65
    userId := sampleUser.userId
    tenantId := some sampleUser.tenantId
    contactId := sampleUuid 0x66
    triggerModule := Guard.scamHold.module
    triggerEventId := holdId
    triggerSummary := []
    status := .decided
    requestedAt := noon
    decidedAt := some noon
    decision := some .approveAfterVerification
    decisionNotes := none
    decidedByContactToken := none
    evidenceEventId := none
    metadata := .null }] }

/-- The approved transfer is released. -/
theorem elder_protected_approved :
    ((((holdCall .releaseAfterVerification).exec elderApprovedStore).events .scamHold holdId).map
        (·.status) = some ScamHoldStatus.releaseAfterVerification) ∧
      Protects (holdCall .releaseAfterVerification) elderApprovedStore ∧
      Approved elderApprovedStore Guard.scamHold.module holdId := by
  obtain ⟨hcall, hruns⟩ :=
    elder_protected_iff (holdCall .releaseAfterVerification) elderApprovedStore
  have happroved : Approved elderApprovedStore Guard.scamHold.module holdId := by decide +kernel
  have hasks : AsksForReview (holdCall .releaseAfterVerification) elderApprovedStore :=
    fun _ _ _ _ _ _ => Or.inr (Or.inr happroved)
  have hrun : DecisionRun elderApprovedStore _ _ :=
    .call .start (holdCall .releaseAfterVerification)
  have hmoved : (((holdCall .releaseAfterVerification).exec elderApprovedStore).events .scamHold
      holdId).map (·.status) = some ScamHoldStatus.releaseAfterVerification := by
    decide +kernel
  obtain ⟨e', hfound, hstatus⟩ := Option.map_eq_some_iff.mp hmoved
  refine ⟨hmoved, hcall.mpr hasks, ?_⟩
  have hstart : elderApprovedStore.events .scamHold holdId = some (pendingHold .critical) :=
    Store.setEvent_self emptyStore .scamHold holdId (pendingHold .critical)
  obtain ⟨m, hm, hreview⟩ := (hruns _ _ _ hrun (by simpa using hasks)).2 .scamHold holdId _ e'
    (by decide) hstart rfl rfl (by simp [elderApprovedStore, elderStore]) hfound
    (Or.inl (congrArg some hstatus))
  cases List.mem_singleton.mp hm
  exact hreview

/-- With the settings as they come, a critical transfer is released without any review. -/
theorem elder_released_unreviewed :
    ((((holdCall .releaseAfterVerification).exec elderStore).events .scamHold holdId).map
        (·.status) = some ScamHoldStatus.releaseAfterVerification) ∧
      ¬ Protects (holdCall .releaseAfterVerification) elderStore := by
  have hmoved : (((holdCall .releaseAfterVerification).exec elderStore).events .scamHold
      holdId).map (·.status) = some ScamHoldStatus.releaseAfterVerification := by
    decide +kernel
  refine ⟨hmoved, fun hprotects => ?_⟩
  have hstart : elderStore.events .scamHold holdId = some (pendingHold .critical) :=
    Store.setEvent_self emptyStore .scamHold holdId (pendingHold .critical)
  have happroved := hprotects .scamHold holdId (pendingHold .critical)
    ScamHoldStatus.releaseAfterVerification (by decide) rfl rfl (Or.inl rfl)
    ⟨hstart, by decide, Option.map_eq_some_iff.mp hmoved⟩
  exact absurd happroved (by decide +kernel)

end Protection
