import Vigiscam.Concurrency.History
import Vigiscam.Protection.Outcomes

/-!
# The enforcement gate

Whatever happens to the settings, the elder flags, the contacts and the reviews
between two decisions: an event goes ahead only at a moment at which the policy of
its owner allows it (`decisions_gated`).
-/

namespace Protection

open Js Concurrency ProtectionEnforcementService

/-! ## Statuses of an action that goes ahead -/

/-- The status of an event that was continued. -/
def Guard.continueStatus : (g : Guard) → g.Status
  | .scamHold => ScamHoldStatus.continueAnyway
  | .giftCardGuard => GiftCardGuardDecision.continuedAnyway
  | .walletGuard => WalletGuardDecision.continuedAnyway
  | .claimVerify => ClaimVerifyDecision.continuedAnyway
  | .guardianPause => GuardianPauseStatus.continuedAnyway

/-- The status of an event that was released, in the modules that release. -/
def Guard.releaseStatus : (g : Guard) → Option g.Status
  | .scamHold => some ScamHoldStatus.releaseAfterVerification
  | .giftCardGuard => none
  | .walletGuard => some WalletGuardDecision.validated
  | .claimVerify => some ClaimVerifyDecision.trusted
  | .guardianPause => none

theorem pending_ne_continue (g : Guard) : g.pending ≠ g.continueStatus := by
  cases g <;> decide

theorem releaseStatus_ne_pending (g : Guard) : g.releaseStatus ≠ some g.pending := by
  cases g <;> decide

/-- Every decision takes an event out of its pending status. -/
theorem nextStatus_ne_pending {g : Guard} (decision : g.Decision) :
    g.vocabulary.nextStatus decision ≠ g.pending := by
  cases g <;> cases decision <;> decide

/-- The amount of an event, in the tables that have one. -/
def Guard.amount : (g : Guard) → g.Details → Option Int
  | .scamHold, details => some details.amountMinor
  | .giftCardGuard, details => details.denominationMinor
  | .walletGuard, _ => none
  | .claimVerify, _ => none
  | .guardianPause, _ => none

/-- The policy of an event's owner for it, in a state. -/
def HeldEvent.policy {g : Guard} (e : HeldEvent g) (s : Store) : ProtectionPolicyDecision :=
  policyOf s e.userId e.riskLevel (g.amount e.details)

theorem amountMinor_vocabulary (g : Guard) (details : g.Details) :
    g.vocabulary.amountMinor details = g.amount details := by
  cases g <;> rfl

/-- Each module asks the enforcement for a continue where it writes its continue status. -/
theorem decisionKind_of_continue {g : Guard} {decision : g.Decision}
    (h : g.vocabulary.nextStatus decision = g.continueStatus) :
    g.vocabulary.decisionKind decision = .continue := by
  cases g <;> cases decision <;> first | rfl | cases h

/-- Each module asks for a release where it writes its release status. -/
theorem decisionKind_of_release {g : Guard} {decision : g.Decision}
    (h : some (g.vocabulary.nextStatus decision) = g.releaseStatus) :
    g.vocabulary.decisionKind decision = .release := by
  cases g <;> cases decision <;> first | rfl | cases h

/-! ## One call -/

/-- A decision call. -/
structure Call where
  g : Guard
  user : AuthenticatedUser
  id : Uuid
  decision : g.Decision
  notes : Option Text

def Call.run (c : Call) (s : Store) : Except HttpError (HeldEvent c.g) × Store :=
  (settle c.g c.user c.id c.decision c.notes).run s

/-- The store after a call. -/
def Call.exec (c : Call) (s : Store) : Store := (c.run s).2

/-- The call moves an event, of this row before it, to a status. -/
def Call.MovesTo (c : Call) (s : Store) (g : Guard) (id : Uuid) (e : HeldEvent g)
    (status : g.Status) : Prop :=
  s.events g id = some e ∧ e.status ≠ status ∧
    ∃ e', (c.exec s).events g id = some e' ∧ e'.status = status

/-- What the gate promises of a call in a state. -/
structure Gated (c : Call) (s : Store) : Prop where
  continues : ∀ g id e, c.MovesTo s g id e g.continueStatus →
    (e.policy s).continueAnywayAllowed = true
  releases : ∀ g id e status, g.releaseStatus = some status → c.MovesTo s g id e status →
    (e.policy s).trustedContactReviewRequired = true → Approved s g.module id
  refuses : ∀ error, (c.run s).1 = .error error → error ≠ .internal →
    (c.exec s).events = s.events

theorem allowed_of_verdict {s : Store} {user : AuthenticatedUser} {p : EnforceParams}
    {policy : ProtectionPolicyDecision} (h : verdict s user p = .ok policy)
    (hkind : p.decisionKind = .continue) :
    (policyOf s user.userId p.riskLevel p.amountMinor).continueAnywayAllowed = true := by
  by_contra hblocked
  rw [verdict, if_pos ⟨hkind, by simpa using hblocked⟩] at h
  cases h

theorem approved_of_verdict {s : Store} {user : AuthenticatedUser} {p : EnforceParams}
    {policy : ProtectionPolicyDecision} (h : verdict s user p = .ok policy)
    (hkind : p.decisionKind = .release)
    (hrequired : (policyOf s user.userId p.riskLevel p.amountMinor).trustedContactReviewRequired =
      true) : Approved s p.module p.eventId := by
  by_contra hmissing
  have hnot : ¬ (p.decisionKind = .continue ∧
      (policyOf s user.userId p.riskLevel p.amountMinor).continueAnywayAllowed = false) := by
    simp [hkind]
  rw [verdict, if_neg hnot, if_pos ⟨hkind, hrequired, hmissing⟩] at h
  cases h

/-- A call that leaves the rows as they were moves no event. -/
theorem Call.not_movesTo {c : Call} {s : Store} (hevents : (c.exec s).events = s.events)
    {g : Guard} {id : Uuid} {e : HeldEvent g} {status : g.Status} :
    ¬ c.MovesTo s g id e status := by
  rintro ⟨hfound, hne, e', hfound', hstatus⟩
  rw [hevents, hfound] at hfound'
  cases hfound'
  exact hne hstatus

/-- A call that moves an event decides it, and the enforcement lets it. -/
theorem Call.moved {c : Call} {s : Store} {g : Guard} {id : Uuid} {e : HeldEvent g}
    {status : g.Status} (h : c.MovesTo s g id e status) :
    ∃ decision u, Decides g.vocabulary c.user id decision s (c.exec s) e u ∧
      g.vocabulary.nextStatus decision = status := by
  rcases (settle_outcome c.g c.user c.id c.decision c.notes s).same_or_decides with
    hsame | ⟨e₀, u, hdecides⟩
  · exact absurd h (Call.not_movesTo hsame.events)
  · obtain ⟨hfound, hne, e', hfound', hstatus⟩ := h
    have hevents : (c.exec s).events = (s.setEvent c.g c.id u).events := hdecides.events
    by_cases hevent : g = c.g ∧ id = c.id
    · obtain ⟨rfl, rfl⟩ := hevent
      rw [hevents, Store.setEvent_self] at hfound'
      cases hfound'
      cases hfound.symm.trans hdecides.owned.found
      exact ⟨c.decision, u, hdecides, hdecides.row.status.symm.trans hstatus⟩
    · rw [hevents, Store.setEvent_of_ne hevent, hfound] at hfound'
      cases hfound'
      exact absurd hstatus hne

/-- **The gate at one call.** -/
theorem gated (c : Call) (s : Store) : Gated c s where
  continues g id e h := by
    obtain ⟨decision, u, hdecides, hstatus⟩ := Call.moved h
    obtain ⟨policy, hverdict⟩ := hdecides.passes
    have hallowed := allowed_of_verdict hverdict (decisionKind_of_continue hstatus)
    rw [HeldEvent.policy, hdecides.owned.mine, ← amountMinor_vocabulary]
    exact hallowed
  releases g id e status hstatus h hrequired := by
    obtain ⟨decision, u, hdecides, hnext⟩ := Call.moved h
    obtain ⟨policy, hverdict⟩ := hdecides.passes
    rw [HeldEvent.policy, hdecides.owned.mine, ← amountMinor_vocabulary] at hrequired
    exact approved_of_verdict hverdict (decisionKind_of_release (hnext ▸ hstatus.symm)) hrequired
  refuses error hout herror :=
    ((settle_outcome c.g c.user c.id c.decision c.notes s).same_of_error hout herror).events

/-! ## Runs of calls -/

/-- What happens between two calls: settings, elder flags, contacts and reviews change
at will and events are opened, but the rows of events that are there stay. -/
def KeepsRows (s s' : Store) : Prop :=
  ∀ g id e, s.events g id = some e → s'.events g id = some e

/-- A run of decision calls, with the calls and the states they found. -/
abbrev DecisionRun (s₀ : Store) (log : List (Store × Call)) (s : Store) : Prop :=
  History Call.exec KeepsRows s₀ log s

/-- The event is there, and its owner, risk level and amount are those of `e`. -/
def Reads (g : Guard) (id : Uuid) (e : HeldEvent g) (s : Store) : Prop :=
  ∃ e', s.events g id = some e' ∧ e'.userId = e.userId ∧ e'.riskLevel = e.riskLevel ∧
    g.amount e'.details = g.amount e.details

theorem Reads.call {g : Guard} {id : Uuid} {e : HeldEvent g} (c : Call) (s : Store)
    (h : Reads g id e s) : Reads g id e (c.exec s) := by
  obtain ⟨e', hfound, huser, hrisk, hamount⟩ := h
  rcases (settle_outcome c.g c.user c.id c.decision c.notes s).same_or_decides with
    hsame | ⟨e₀, u, hdecides⟩
  · exact ⟨e', (congrFun (congrFun hsame.events g) id).trans hfound, huser, hrisk, hamount⟩
  · have hevents : (c.exec s).events = (s.setEvent c.g c.id u).events := hdecides.events
    by_cases hevent : g = c.g ∧ id = c.id
    · obtain ⟨rfl, rfl⟩ := hevent
      cases hfound.symm.trans hdecides.owned.found
      have hu := hdecides.row.amountMinor
      rw [amountMinor_vocabulary, amountMinor_vocabulary] at hu
      exact ⟨u, by rw [hevents, Store.setEvent_self], hdecides.row.userId.trans huser,
        hdecides.row.riskLevel.trans hrisk, hu.trans hamount⟩
    · exact ⟨e', by rw [hevents, Store.setEvent_of_ne hevent, hfound], huser, hrisk, hamount⟩

/-- An event that has come to a status was moved there by one of the calls. -/
theorem DecisionRun.moved {s₀ s : Store} {log : List (Store × Call)} (hrun : DecisionRun s₀ log s)
    {g : Guard} {id : Uuid} {e e' : HeldEvent g} (hstart : s₀.events g id = some e)
    (hend : s.events g id = some e') (hne : e.status ≠ e'.status) :
    ∃ m ∈ log, ∃ e₁, m.2.MovesTo m.1 g id e₁ e'.status ∧ e₁.policy m.1 = e.policy m.1 ∧
      e₁.userId = e.userId ∧ e₁.riskLevel = e.riskLevel := by
  have hback : ∀ s t, KeepsRows s t → Reads g id e s →
      (t.events g id).map (·.status) = some e'.status →
      (s.events g id).map (·.status) = some e'.status := by
    rintro s t hkeeps ⟨e₁, hfound, _⟩ ht
    rwa [hfound, ← hkeeps g id e₁ hfound]
  obtain ⟨m, hm, ⟨e₁, hfound, huser, hrisk, hamount⟩, hbefore, hafter⟩ :=
    hrun.cause (I := Reads g id e) (P := fun s => (s.events g id).map (·.status) = some e'.status)
      Reads.call (fun s t hkeeps ⟨e₁, hfound, h⟩ => ⟨e₁, hkeeps g id e₁ hfound, h⟩) hback
      ⟨e, hstart, rfl, rfl, rfl⟩ (by simpa [hstart] using hne) (by rw [hend]; rfl)
  refine ⟨m, hm, e₁, ⟨hfound, by simpa [hfound] using hbefore, ?_⟩, ?_, huser, hrisk⟩
  · simpa using hafter
  · rw [HeldEvent.policy, HeldEvent.policy, huser, hrisk, hamount]

/-- **The enforcement gate.** Every call of a run is gated; and an event that was pending
and went ahead did so at a moment at which the policy of its owner allowed it. -/
theorem decisions_gated {s₀ s : Store} {log : List (Store × Call)} (hrun : DecisionRun s₀ log s) :
    (∀ m ∈ log, Gated m.2 m.1) ∧
    ∀ g id e e', s₀.events g id = some e → e.status = g.pending → s.events g id = some e' →
      (e'.status = g.continueStatus → ∃ m ∈ log, (e.policy m.1).continueAnywayAllowed = true) ∧
      (g.releaseStatus = some e'.status → ∃ m ∈ log,
        (e.policy m.1).trustedContactReviewRequired = true → Approved m.1 g.module id) := by
  refine ⟨fun m _ => gated m.2 m.1, fun g id e e' hstart hpending hend =>
    ⟨fun h => ?_, fun h => ?_⟩⟩
  · have hne : e.status ≠ e'.status := by
      rw [hpending, h]
      exact pending_ne_continue g
    obtain ⟨m, hm, e₁, hmoves, hpolicy, -⟩ := hrun.moved hstart hend hne
    exact ⟨m, hm, hpolicy ▸ (gated m.2 m.1).continues g id e₁ (h ▸ hmoves)⟩
  · have hne : e.status ≠ e'.status := by
      rw [hpending]
      exact fun heq => releaseStatus_ne_pending g (heq ▸ h)
    obtain ⟨m, hm, e₁, hmoves, hpolicy, -⟩ := hrun.moved hstart hend hne
    exact ⟨m, hm, hpolicy ▸ (gated m.2 m.1).releases g id e₁ _ h hmoves⟩

/-! ## A continued transfer -/

/-- A well-formed id, for each hexadecimal digit. -/
def sampleUuid (digit : CodeUnit) : Uuid :=
  List.replicate 8 digit ++ 0x2D :: (List.replicate 4 digit ++ 0x2D :: 0x34 ::
    (List.replicate 3 digit ++ 0x2D :: 0x38 :: (List.replicate 3 digit ++ 0x2D ::
      List.replicate 12 digit)))

def sampleUser : AuthenticatedUser where
  userId := sampleUuid 0x61
  tenantId := sampleUuid 0x62
  role := .protectedUser

def holdId : Uuid := sampleUuid 0x64

def noon : Date := Date.newYear.noon

/-- A database without rows. -/
def emptyStore : Store where
  events _ _ := none
  mirrorSessions _ := none
  elderMode _ := none
  settings _ := none
  contacts := []
  reviews := []
  evidence := []
  auditLogs := []
  notifications := []
  now := noon
  uuid n := sampleUuid (digitUnit (n % 10))
  issued := 0
  token n := List.replicate (n + 1) 0x41
  drawn := 0

/-- A pending transfer of a given risk. -/
def pendingHold (riskLevel : RiskLevel) : HeldEvent .scamHold where
  userId := sampleUser.userId
  tenantId := some sampleUser.tenantId
  riskLevel := riskLevel
  status := ScamHoldStatus.pending
  decidedAt := none
  decisionNotes := none
  trustedContactReviewId := none
  details := { transactionType := .wireTransfer, amountMinor := 5000, recipient := "R" }

def holdStore (riskLevel : RiskLevel) : Store :=
  emptyStore.setEvent .scamHold holdId (pendingHold riskLevel)

def holdCall (decision : ScamHoldDecision) : Call where
  g := .scamHold
  user := sampleUser
  id := holdId
  decision := decision
  notes := none

/-- A transfer of low risk is continued, as the policy of its owner allows. -/
theorem decisions_gated_continue :
    (((holdCall .continueAnyway).exec (holdStore .low)).events .scamHold holdId).map
        (·.status) = some ScamHoldStatus.continueAnyway ∧
      ((pendingHold .low).policy (holdStore .low)).continueAnywayAllowed = true := by
  have hrun : DecisionRun (holdStore .low) _ _ := .call .start (holdCall .continueAnyway)
  have hmoved : (((holdCall .continueAnyway).exec (holdStore .low)).events .scamHold
      holdId).map (·.status) = some ScamHoldStatus.continueAnyway := by
    decide +kernel
  obtain ⟨e', hfound, hstatus⟩ := Option.map_eq_some_iff.mp hmoved
  obtain ⟨m, hm, hallowed⟩ := ((decisions_gated hrun).2 .scamHold holdId (pendingHold .low)
    e' (Store.setEvent_self _ _ _ _) rfl hfound).1 hstatus
  cases List.mem_singleton.mp hm
  exact ⟨hmoved, hallowed⟩

end Protection
