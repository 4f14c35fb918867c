import Vigiscam.Protection.Gate

/-!
# Concurrent decisions on one event

A decision reads the row, checks that it is pending, asks the enforcement and then
updates the row by its id alone. Between the check and the update another decision
can come through (`both_decisions_succeed`). Where no update finds the event already
decided, at most one decision succeeds and its status stays (`decided_once`).
-/

namespace Protection

open Js Concurrency ProtectionEnforcementService TrustedContactReviewService

/-! ## What the steps of a decision do to the event -/

/-- A program that writes no row of an event. -/
abbrev KeepsEvents {α : Type} (p : Service α) : Prop :=
  p.Each fun l s s' => ¬ l.writesEvent ∧ s'.events = s.events

theorem Quiet.keepsEvents {α : Type} {p : Service α} (h : Quiet p) : KeepsEvents p :=
  h.mono fun _ _ _ hstep => ⟨hstep.1, hstep.2.events⟩

theorem keepsEvents_updateReview (reviewId : Uuid)
    (f : Store → TrustedContactReview → TrustedContactReview) :
    KeepsEvents (updateReview reviewId f) := by
  refine Prog.Each.attempt (fun s r s' h => ⟨id, ?_⟩) fun s _ => ⟨id, rfl⟩
  obtain ⟨r₀, _, hr₀⟩ := Option.map_eq_some_iff.mp h
  cases hr₀
  rfl

theorem keepsEvents_createReview (input : RequestReviewInput) (contact : TrustedContact)
    (token : Text) : KeepsEvents (createReview input contact token) := by
  refine Prog.Each.attempt (fun s r s' h => ⟨id, ?_⟩) fun s _ => ⟨id, rfl⟩
  dsimp only at h
  split at h
  · cases h
  · cases h
    rfl

theorem quiet_resolveContact (input : RequestReviewInput) : Quiet (resolveContact input) := by
  unfold resolveContact
  cases present input.contactId with
  | some contactId => exact quiet_read _
  | none =>
    refine Prog.Each.bind (quiet_read _) fun approver => ?_
    cases approver with
    | some approver => exact Prog.Each.pure _
    | none => exact quiet_read _

theorem keepsEvents_requestReview (input : RequestReviewInput) :
    KeepsEvents (requestReview input) := by
  refine (quiet_resolveContact input).keepsEvents.bind fun contact => ?_
  cases contact with
  | none => exact Prog.Each.pure none
  | some contact =>
    refine quiet_generateContactToken.keepsEvents.bind fun token => ?_
    refine (keepsEvents_createReview input contact token).bind fun created => ?_
    refine Prog.Each.bind ?_ fun linked => ?_
    · exact (quiet_appendEvidence _).keepsEvents.bind fun _ => keepsEvents_updateReview _ _
    · exact (quiet_fanOutNotifications _ _ _ _).keepsEvents.bind fun _ => Prog.Each.pure _

section Event

variable (g : Guard) (id : Uuid)

/-- The status of the event, when there is one. -/
def statusOf (s : Store) : Option g.Status := (s.events g id).map (·.status)

/-- The step is the update that decides the event. -/
def IsSettle (l : DbStep) : Prop := l = .settle g id

/-- Every step of the program that decides the event takes it out of its pending status,
and no other step changes its status. -/
abbrev SettlesEvent {α : Type} (p : Service α) : Prop :=
  p.Each (Settles (IsSettle g id) (statusOf g id) (some g.pending))

variable {g id}

theorem KeepsEvents.settles {α : Type} {p : Service α} (h : KeepsEvents p) :
    SettlesEvent g id p := by
  refine h.mono fun l s s' hstep => ⟨fun hl => ?_, fun _ => ?_⟩
  · rw [IsSettle] at hl
    subst hl
    exact absurd trivial hstep.1
  · rw [statusOf, hstep.2]
    rfl

/-- The update of a decision. -/
theorem settles_update {f : Store → HeldEvent g → HeldEvent g}
    (h : ∀ s e, (f s e).status ≠ g.pending) :
    SettlesEvent g id (updateEvent (.settle g id) g id f) := by
  refine Prog.Each.attempt (fun s e s' hs => ?_) fun s hs => ?_
  · obtain ⟨e₀, _, he₀⟩ := Option.map_eq_some_iff.mp hs
    cases he₀
    refine ⟨fun _ => ?_, fun hl => absurd rfl hl⟩
    rw [statusOf, Store.setEvent_self, Option.map_some]
    exact fun heq => h s e₀ (Option.some.inj heq)
  · refine ⟨fun _ => ?_, fun _ => rfl⟩
    rw [statusOf, Option.map_eq_none_iff.mp hs]
    exact fun heq => nomatch heq

/-- The link of an event to its review. -/
theorem settles_link {f : Store → HeldEvent g → HeldEvent g}
    (h : ∀ s e, (f s e).status = e.status) :
    SettlesEvent g id (updateEvent (.link g id) g id f) := by
  have hlink : ¬ IsSettle g id (.link g id) := fun hl => nomatch hl
  refine Prog.Each.attempt (fun s e s' hs => ?_) fun s _ =>
    ⟨fun hl => absurd hl hlink, fun _ => rfl⟩
  obtain ⟨e₀, hfound, he₀⟩ := Option.map_eq_some_iff.mp hs
  cases he₀
  refine ⟨fun hl => absurd hl hlink, fun _ => ?_⟩
  rw [statusOf, statusOf, Store.setEvent_self, hfound, Option.map_some, Option.map_some, h]

/-! ### The decisions of the modules -/

theorem settles_escalate (m : DecideSpec g) (user : AuthenticatedUser) (existing : HeldEvent g) :
    SettlesEvent g id (escalate m user id existing) := by
  refine (keepsEvents_requestReview _).settles.bind fun review => ?_
  cases review with
  | none => exact Prog.Each.pure ()
  | some review =>
    refine Prog.Each.bind (settles_link ?_) fun _ => Prog.Each.pure ()
    exact fun _ _ => rfl

theorem settles_recordDecision (m : DecideSpec g) (user : AuthenticatedUser)
    (existing : HeldEvent g) (decision : g.Decision) (notes : Option Text)
    (hnext : m.nextStatus decision ≠ g.pending) :
    SettlesEvent g id (recordDecision m user id existing decision notes) := by
  refine (settles_update fun _ _ => hnext).bind fun updated => ?_
  refine (quiet_appendEvidence _).keepsEvents.settles.bind fun _ => ?_
  dsimp only
  split
  · exact (settles_escalate m user existing).bind fun _ => Prog.Each.pure updated
  · exact Prog.Each.pure updated

theorem settles_decideWith (m : DecideSpec g) (user : AuthenticatedUser) (decision : g.Decision)
    (notes : Option Text) (hnext : m.nextStatus decision ≠ g.pending) :
    SettlesEvent g id (decideWith m user id decision notes) := by
  refine (quiet_read _).keepsEvents.settles.bind fun existing => ?_
  cases existing with
  | none => exact Prog.Each.throw _
  | some existing =>
    dsimp only
    split
    · exact Prog.Each.throw _
    · exact (quiet_enforceDecision _ _).keepsEvents.settles.bind fun _ =>
        settles_recordDecision m user existing decision notes hnext

theorem settles_complete (user : AuthenticatedUser) (id : Uuid) (resolution : PauseResolution)
    (notes : Option Text) :
    SettlesEvent .guardianPause id (GuardianPauseService.complete user id resolution notes) := by
  have hnext : GuardianPauseService.nextStatus resolution ≠ GuardianPauseStatus.active := by
    cases resolution <;> decide
  have hrecord : ∀ existing, SettlesEvent .guardianPause id
      (GuardianPauseService.recordResolution user id existing resolution notes) := fun existing =>
    (settles_update fun _ _ => hnext).bind fun updated =>
      (quiet_appendEvidence _).keepsEvents.settles.bind fun _ => Prog.Each.pure updated
  refine (quiet_read _).keepsEvents.settles.bind fun existing => ?_
  cases existing with
  | none => exact Prog.Each.throw _
  | some existing =>
    dsimp only
    split
    · exact Prog.Each.throw _
    · split
      · exact (quiet_enforceDecision _ _).keepsEvents.settles.bind fun _ => hrecord existing
      · exact hrecord existing

/-- The steps of a decision, in any module. -/
theorem settles_settle (g : Guard) (user : AuthenticatedUser) (id : Uuid) (decision : g.Decision)
    (notes : Option Text) : SettlesEvent g id (settle g user id decision notes) := by
  have hnext := nextStatus_ne_pending decision
  cases g with
  | scamHold => exact settles_decideWith ScamHoldService.spec user decision notes hnext
  | giftCardGuard => exact settles_decideWith GiftCardGuardService.spec user decision notes hnext
  | walletGuard => exact settles_decideWith WalletGuardService.spec user decision notes hnext
  | claimVerify => exact settles_decideWith ClaimVerifyService.spec user decision notes hnext
  | guardianPause => exact settles_complete user id decision notes

theorem passes_decideWith (m : DecideSpec g) (user : AuthenticatedUser) (decision : g.Decision)
    (notes : Option Text) : (decideWith m user id decision notes).Passes (IsSettle g id) := by
  refine Prog.Passes.bind_right fun existing => ?_
  cases existing with
  | none => exact Prog.Passes.throw _
  | some existing =>
    dsimp only
    split
    · exact Prog.Passes.throw _
    · exact Prog.Passes.bind_right fun _ => Prog.Passes.bind_left (Prog.Passes.attempt rfl)

theorem passes_complete (user : AuthenticatedUser) (id : Uuid) (resolution : PauseResolution)
    (notes : Option Text) :
    (GuardianPauseService.complete user id resolution notes).Passes
      (IsSettle .guardianPause id) := by
  have hrecord : ∀ existing, (GuardianPauseService.recordResolution user id existing resolution
      notes).Passes (IsSettle .guardianPause id) :=
    fun existing => Prog.Passes.bind_left (Prog.Passes.attempt rfl)
  refine Prog.Passes.bind_right fun existing => ?_
  cases existing with
  | none => exact Prog.Passes.throw _
  | some existing =>
    dsimp only
    split
    · exact Prog.Passes.throw _
    · split
      · exact Prog.Passes.bind_right fun _ => hrecord existing
      · exact hrecord existing

/-- A decision that succeeds has updated the event. -/
theorem passes_settle (g : Guard) (user : AuthenticatedUser) (id : Uuid) (decision : g.Decision)
    (notes : Option Text) : (settle g user id decision notes).Passes (IsSettle g id) := by
  cases g with
  | scamHold => exact passes_decideWith ScamHoldService.spec user decision notes
  | giftCardGuard => exact passes_decideWith GiftCardGuardService.spec user decision notes
  | walletGuard => exact passes_decideWith WalletGuardService.spec user decision notes
  | claimVerify => exact passes_decideWith ClaimVerifyService.spec user decision notes
  | guardianPause => exact passes_complete user id decision notes

end Event

/-! ## Races -/

section Race

variable {ι : Type} [DecidableEq ι] {g : Guard} {id : Uuid}

/-- What one of the callers sends. -/
structure Request (g : Guard) where
  user : AuthenticatedUser
  decision : g.Decision
  notes : Option Text

/-- The decision of a request on the event. -/
def Request.program {g : Guard} (r : Request g) (id : Uuid) : Service (HeldEvent g) :=
  settle g r.user id r.decision r.notes

/-- Any number of callers who decide on one event. -/
def race (id : Uuid) (requests : ι → Request g) (s : Store) :
    Pool ι Store (Service (HeldEvent g)) where
  shared := s
  locals i := (requests i).program id

/-- The update that decides the event finds it pending. -/
def FindsItPending (g : Guard) (id : Uuid) (l : DbStep) (s : Store) : Prop :=
  IsSettle g id l → statusOf g id s = some g.pending

instance (g : Guard) (id : Uuid) (l : DbStep) (s : Store) : Decidable (FindsItPending g id l s) :=
  inferInstanceAs (Decidable (l = .settle g id → statusOf g id s = some g.pending))

/-- At most one of the callers has succeeded. -/
def AtMostOneSucceeds (t : Pool ι Store (Service (HeldEvent g))) : Prop :=
  ∀ i j r r', t.locals i = .pure r → t.locals j = .pure r' → i = j

/-- The event is decided once: nothing that is done from here changes its status. -/
def StatusStays (allowed : DbStep → Store → Prop) (g : Guard) (id : Uuid)
    (t : Pool ι Store (Service (HeldEvent g))) : Prop :=
  statusOf g id t.shared ≠ some g.pending →
    ∀ u, Pool.Run (Prog.interleaved allowed) t u → statusOf g id u.shared = statusOf g id t.shared

end Race

/-! ## Two decisions on a transfer -/

/-- One caller blocks the transfer and one continues it. -/
def contradictory (continues : Bool) : Request .scamHold where
  user := sampleUser
  decision := if continues then ScamHoldDecision.continueAnyway else ScamHoldDecision.block
  notes := none

/-- The callers after the steps of a caller. -/
def afterSteps (continues : Bool) (n : Nat)
    (t : Pool Bool Store (Service (HeldEvent .scamHold))) :
    Pool Bool Store (Service (HeldEvent .scamHold)) where
  shared := (Prog.advance n t.shared (t.locals continues)).1
  locals := Function.update t.locals continues (Prog.advance n t.shared (t.locals continues)).2

def raceStart : Pool Bool Store (Service (HeldEvent .scamHold)) :=
  race holdId contradictory (holdStore .low)

/-- The continue has read the row, and the block is done. -/
def raceBlocked : Pool Bool Store (Service (HeldEvent .scamHold)) :=
  afterSteps false 9 (afterSteps true 1 raceStart)

/-- The continue is done too. -/
def raceContinued : Pool Bool Store (Service (HeldEvent .scamHold)) :=
  afterSteps true 9 raceBlocked

end Protection
