import Vigiscam.Protection.Approvals

/-!
# What becomes of an escalation

Escalating is itself a decision: it takes the event out of its pending status, so that
no later decision on it is accepted, whatever its review says. A release after
approval is possible only for an event that is still pending.
-/

namespace Protection

open Js Concurrency ProtectionEnforcementService TrustedContactReviewService

/-! ## A decision is final -/

/-- No operation changes the row of an event that is decided. -/
theorem Op.exec_decided {s : Store} {g : Guard} {id : Uuid} {e : HeldEvent g} (op : Op)
    (hfound : s.events g id = some e) (hdecided : e.status ≠ g.pending) :
    (op.exec s).events g id = some e := by
  have hkeep : ∀ t : Store, t.events = s.events → t.events g id = some e :=
    fun t ht => (congrFun (congrFun ht g) id).trans hfound
  cases op with
  | settle c =>
    rcases (settle_outcome c.g c.user c.id c.decision c.notes s).same_or_decides with
      hsame | ⟨e₀, u, hdecides⟩
    · exact hkeep _ hsame.events
    · -- a decision settles pending rows only, so it is about another row
      have hother : ¬ (g = c.g ∧ id = c.id) := by
        rintro ⟨rfl, rfl⟩
        cases hfound.symm.trans hdecides.owned.found
        exact hdecided hdecides.pending
      exact (congrFun (congrFun hdecides.events g) id).trans
        ((Store.setEvent_of_ne hother).trans hfound)
  | request input =>
    rcases (requestReview_outcome input s).same_or_opened with hsame | ⟨_, _, _, hevents, _⟩
    · exact hkeep _ hsame.events
    · exact hkeep _ hevents
  | review reviewId args =>
    rcases (decide_outcome reviewId args s).same_or_recorded with hsame | ⟨_, hevents, _⟩
    · exact hkeep _ hsame.events
    · exact hkeep _ hevents

/-- The row of an event that a call has moved. -/
theorem Call.row_of_moved {c : Call} {s : Store} {g : Guard} {id : Uuid} {e : HeldEvent g}
    {status : g.Status} (h : c.MovesTo s g id e status) :
    ∃ u, Owned (c.exec s) g c.user id u ∧ u.status = status ∧ u.status ≠ g.pending := by
  obtain ⟨decision, u, hdecides, hnext⟩ := Call.moved h
  have hfound : (c.exec s).events g id = some u := by
    rw [hdecides.events, Store.setEvent_self]
  have hstatus : u.status = status := hdecides.row.status.trans hnext
  refine ⟨u, ⟨hfound, hdecides.row.userId.trans hdecides.owned.mine⟩, hstatus, ?_⟩
  rw [hstatus, ← hnext]
  exact nextStatus_ne_pending decision

/-- **A decision is final**: after any further operations, every decision on the event is
refused as already decided, and changes nothing. -/
theorem decided_final {c : Call} {s₀ s : Store} {log : List (Store × Op)} {g : Guard} {id : Uuid}
    {e : HeldEvent g} {status : g.Status} (hmoves : c.MovesTo s₀ g id e status)
    (hrun : History Op.exec KeepsRows (c.exec s₀) log s) (decision : g.Decision)
    (notes : Option Text) :
    (settle g c.user id decision notes).run s =
      (.error (g.vocabulary.alreadyDecidedIn status), s) := by
  obtain ⟨u, howned, rfl, hdecided⟩ := Call.row_of_moved hmoves
  have hfound : s.events g id = some u :=
    hrun.keeps (I := fun s => s.events g id = some u)
      (fun op s h => Op.exec_decided op h hdecided) (fun s t ht h => ht g id u h) howned.found
  obtain ⟨hout, hsame⟩ := (settle_outcome g c.user id decision notes s).refused_of_decided
    ⟨hfound, howned.mine⟩ hdecided
  exact Prod.ext hout hsame

/-! ## Pending events -/

/-- An approved review stays approved. -/
theorem Op.exec_approved {s : Store} {module : TriggerModule} {eventId : Uuid} (op : Op)
    (h : Approved s module eventId) : Approved (op.exec s) module eventId := by
  obtain ⟨r, hr, hmodule, hevent, hstatus, hdecision⟩ := h
  refine ⟨r, ?_, hmodule, hevent, hstatus, hdecision⟩
  cases op with
  | settle c =>
    rcases (settle_outcome c.g c.user c.id c.decision c.notes s).same_or_decides with
      hsame | ⟨e, u, hdecides⟩
    · exact hsame.reviews.symm ▸ hr
    · rcases hdecides.reviews with hreviews | ⟨_, _, _, _, hadds, _⟩
      · exact hreviews.symm ▸ hr
      · exact hadds.symm ▸ List.mem_append_left _ hr
  | request input =>
    rcases (requestReview_outcome input s).same_or_opened with hsame | ⟨_, _, _, _, hreviews⟩
    · exact hsame.reviews.symm ▸ hr
    · exact hreviews.symm ▸ List.mem_append_left _ hr
  | review reviewId args =>
    rcases (decide_outcome reviewId args s).same_or_recorded with
      hsame | ⟨_, _, hreviews, hpending⟩
    · exact hsame.reviews.symm ▸ hr
    · -- only a pending review is answered, so not the approved one
      refine hreviews.symm ▸ mem_replaceRow_of_ne hr fun hfind => ?_
      rw [hpending r hfind] at hstatus
      cases hstatus

/-- A decision that approves makes an approved review. -/
theorem approved_of_decide {s : Store} {reviewId : Uuid} {args : DecideArgs}
    {r : TrustedContactReview} (h : ((decide reviewId args).run s).1 = .ok r)
    (hdecision : args.decision = .approveAfterVerification) :
    Approved ((Op.review reviewId args).exec s) r.triggerModule r.triggerEventId := by
  have hrecorded := decide_outcome reviewId args s
  rw [Op.exec]
  generalize (decide reviewId args).run s = out at h hrecorded ⊢
  obtain ⟨result, t⟩ := out
  cases hrecorded with
  | refused => cases h
  | recorded hfind _ _ _ _ hreviews =>
    cases h
    exact ⟨_, hreviews.symm ▸ mem_replaceRow_self hfind, rfl, rfl, rfl,
      by simp [decidedReview, hdecision]⟩

/-- What happens between two operations after an approval: no approved review goes. -/
def KeepsApprovals (s t : Store) : Prop :=
  ∀ module eventId, Approved s module eventId → Approved t module eventId

theorem verdict_release {s : Store} {user : AuthenticatedUser} {p : EnforceParams}
    (hkind : p.decisionKind = .release) :
    verdict s user p =
      let policy := policyOf s user.userId p.riskLevel p.amountMinor
      if policy.trustedContactReviewRequired = true ∧ ¬ Approved s p.module p.eventId then
        .error (releaseBlocked policy)
      else .ok policy := by
  simp [verdict, hkind]

/-- Releasing is not escalating. -/
theorem escalates_of_release {g : Guard} {decision : g.Decision}
    (h : some (g.vocabulary.nextStatus decision) = g.releaseStatus) :
    g.vocabulary.escalates decision = false := by
  cases g <;> cases decision <;> first | rfl | cases h

/-- A pending event with an approved review is released. -/
theorem released_of_approved {s : Store} {g : Guard} {user : AuthenticatedUser} {id : Uuid}
    {e : HeldEvent g} {release : g.Decision}
    (hrelease : some (g.vocabulary.nextStatus release) = g.releaseStatus)
    (howned : Owned s g user id e) (hpending : e.status = g.pending)
    (happroved : Approved s g.module id) (notes : Option Text) :
    (∃ r, ((settle g user id release notes).run s).1 = .ok r ∧
        r.status = g.vocabulary.nextStatus release) ∧
      ∃ u, ((settle g user id release notes).run s).2.events g id = some u ∧
        u.status = g.vocabulary.nextStatus release := by
  have hverdict := @verdict_release s user (g.vocabulary.enforceParams id e release)
    (decisionKind_of_release hrelease)
  rw [if_neg fun h => h.2 happroved] at hverdict
  exact (settle_outcome g user id release notes s).accepted_of_verdict howned hpending hverdict
    (escalates_of_release hrelease)

/-- A pending event whose policy requires a review is not released without an approval. -/
theorem refused_of_unapproved {s : Store} {g : Guard} {user : AuthenticatedUser} {id : Uuid}
    {e : HeldEvent g} {release : g.Decision}
    (hrelease : some (g.vocabulary.nextStatus release) = g.releaseStatus)
    (howned : Owned s g user id e) (hpending : e.status = g.pending)
    (hrequired : (e.policy s).trustedContactReviewRequired = true)
    (hmissing : ¬ Approved s g.module id) (notes : Option Text) :
    ((settle g user id release notes).run s).1 = .error (releaseBlocked (e.policy s)) ∧
      ((settle g user id release notes).run s).2.events = s.events := by
  rw [HeldEvent.policy, howned.mine, ← amountMinor_vocabulary] at hrequired ⊢
  have hverdict := @verdict_release s user (g.vocabulary.enforceParams id e release)
    (decisionKind_of_release hrelease)
  rw [if_pos ⟨hrequired, hmissing⟩] at hverdict
  obtain ⟨hout, hsame⟩ := (settle_outcome g user id release notes s).refused_of_verdict howned
    hpending hverdict
  exact ⟨hout, hsame.events⟩

/-! ## Escalated and pending events -/

/-- The status of an event that was escalated. -/
def Guard.escalatedStatus : (g : Guard) → Option g.Status
  | .scamHold => some ScamHoldStatus.sendToTrustedContact
  | .giftCardGuard => some GiftCardGuardDecision.escalatedToTrustedContact
  | .walletGuard => some WalletGuardDecision.escalatedToTrustedContact
  | .claimVerify => some ClaimVerifyDecision.escalatedToTrustedContact
  | .guardianPause => none

/-- **What an approval can still release.** In each module that releases:

- an event that its owner has escalated is not released any more, whatever is done
  afterwards to reviews, settings and contacts: the release is refused as already decided;
- an event that is still pending when a review of it has been approved is released, whatever
  else is done in between;
- until then its release is refused, where the policy requires a review. -/
theorem release_of_pending_only {g : Guard} {release : g.Decision}
    (hrelease : some (g.vocabulary.nextStatus release) = g.releaseStatus) :
    (∀ (c : Call) s₀ id e status, g.escalatedStatus = some status → c.MovesTo s₀ g id e status →
      ∀ log s, History Op.exec KeepsRows (c.exec s₀) log s → ∀ notes,
        (settle g c.user id release notes).run s =
          (.error (g.vocabulary.alreadyDecidedIn status), s)) ∧
    (∀ s₀ reviewId args r, ((decide reviewId args).run s₀).1 = .ok r →
      args.decision = .approveAfterVerification → r.triggerModule = g.module →
      ∀ log s, History Op.exec KeepsApprovals ((Op.review reviewId args).exec s₀) log s →
        ∀ user e, Owned s g user r.triggerEventId e → e.status = g.pending → ∀ notes,
          (∃ r', ((settle g user r.triggerEventId release notes).run s).1 = .ok r' ∧
              r'.status = g.vocabulary.nextStatus release) ∧
            ∃ u, ((settle g user r.triggerEventId release notes).run s).2.events g
              r.triggerEventId = some u ∧ u.status = g.vocabulary.nextStatus release) ∧
    (∀ s user id e, Owned s g user id e → e.status = g.pending →
      (e.policy s).trustedContactReviewRequired = true → ¬ Approved s g.module id → ∀ notes,
        ((settle g user id release notes).run s).1 = .error (releaseBlocked (e.policy s)) ∧
          ((settle g user id release notes).run s).2.events = s.events) := by
  -- after an escalation, after an approval, and where a review is missing
  refine ⟨fun c s₀ id e status _ hmoves log s hrun notes => ?_,
    fun s₀ reviewId args r hdecide hdecision hmodule log s hrun user e howned hpending notes => ?_,
    fun s user id e howned hpending hrequired hmissing notes => ?_⟩
  · exact decided_final hmoves hrun release notes
  · have happroved := approved_of_decide hdecide hdecision
    rw [hmodule] at happroved
    exact released_of_approved hrelease howned hpending
      (hrun.keeps (I := fun s => Approved s g.module r.triggerEventId)
        (fun op s h => Op.exec_approved op h) (fun s t ht h => ht _ _ h) happroved) notes
  · exact refused_of_unapproved hrelease howned hpending hrequired hmissing notes

/-! ## Two transfers -/

/-- A pending transfer of a user who has asked for reviews of what is critical. -/
def strictStore : Store :=
  { approverStore sampleUser with
    settings := fun _ => some { ProtectionSettings.default with trustedContactRequired := true } }

/-- The transfer, escalated. -/
def escalatedStore : Store := (holdCall .sendToTrustedContact).exec strictStore

/-- The transfer, with a review that its owner has asked for. -/
def reviewedStore : Store := (Op.request (requestHold sampleUser)).exec strictStore

theorem escalatedStore_row : (escalatedStore.events .scamHold holdId).map (·.status) =
    some ScamHoldStatus.sendToTrustedContact := by
  decide +kernel

/-- The escalated transfer is not released; the reviewed one is, once it is approved. -/
theorem release_of_pending_only_transfers :
    (∀ notes, (settle .scamHold sampleUser holdId ScamHoldDecision.releaseAfterVerification
        notes).run ((Op.review (sampleUuid 0x31) (approveHold sampleUser)).exec escalatedStore) =
      (.error (ScamHoldService.spec.alreadyDecidedIn ScamHoldStatus.sendToTrustedContact),
        (Op.review (sampleUuid 0x31) (approveHold sampleUser)).exec escalatedStore)) ∧
    (∃ r, ((holdCall .releaseAfterVerification).run
        ((Op.review (sampleUuid 0x30) (approveHold sampleUser)).exec reviewedStore)).1 = .ok r ∧
      r.status = ScamHoldStatus.releaseAfterVerification) ∧
    ((holdCall .releaseAfterVerification).run reviewedStore).1 =
      .error (releaseBlocked ((pendingHold .critical).policy reviewedStore)) := by
  obtain ⟨hescalated, happroved, hunapproved⟩ :=
    @release_of_pending_only .scamHold ScamHoldDecision.releaseAfterVerification rfl
  refine ⟨?_, ?_, ?_⟩
  · obtain ⟨e', hfound, hstatus⟩ := Option.map_eq_some_iff.mp escalatedStore_row
    exact hescalated (holdCall .sendToTrustedContact) strictStore holdId (pendingHold .critical) _
      rfl ⟨rfl, by decide, e', hfound, hstatus⟩ _ _
      (.call .start (Op.review (sampleUuid 0x31) (approveHold sampleUser)))
  · obtain ⟨r, hdecide, hmodule, hevent⟩ : ∃ r,
        ((decide (sampleUuid 0x30) (approveHold sampleUser)).run
        reviewedStore).1 = .ok r ∧ r.triggerModule = .scamHold ∧ r.triggerEventId = holdId :=
      ⟨_, rfl, rfl, rfl⟩
    have hreleased := happroved reviewedStore (sampleUuid 0x30) (approveHold sampleUser) r hdecide
      rfl hmodule
      [] _ .start sampleUser (pendingHold .critical)
    rw [hevent] at hreleased
    exact (hreleased ⟨rfl, rfl⟩ rfl none).1
  · exact (hunapproved reviewedStore sampleUser holdId (pendingHold .critical) ⟨rfl, rfl⟩ rfl rfl
      (by decide +kernel) none).1

/-- The review of the escalated transfer is approved, and its release is refused. -/
theorem escalated_not_released :
    (escalatedStore.events .scamHold holdId).map (·.status) =
        some ScamHoldStatus.sendToTrustedContact ∧
      Approved ((Op.review (sampleUuid 0x31) (approveHold sampleUser)).exec escalatedStore)
        .scamHold holdId ∧
      ((holdCall .releaseAfterVerification).run
        ((Op.review (sampleUuid 0x31) (approveHold sampleUser)).exec escalatedStore)).1 =
        .error (ScamHoldService.spec.alreadyDecidedIn ScamHoldStatus.sendToTrustedContact) := by
  refine ⟨escalatedStore_row, by decide +kernel, ?_⟩
  rfl

end Protection
