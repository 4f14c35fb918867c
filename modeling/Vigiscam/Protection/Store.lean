import Vigiscam.Concurrency.Prog
import Vigiscam.Http
import Vigiscam.Protection.Enums

/-!
# The tables of the protection modules

Five modules hold an action of a user until it is decided: ScamHold, GiftCardGuard,
WalletGuard, ClaimVerify and Guardian Pause. Each has its own table, whose rows
share the columns of `HeldEvent` and have some of their own.

A service is a `Prog` over the `Store`: one step for each call of the database.
Tables are keyed by the primary key where rows are looked up by it; reviews and
contacts are lists in the order of their creation, which is the order of
`requestedAt` and `createdAt`.
-/

namespace Protection

open Js Concurrency EvidenceVault

/-! ## The guarded modules -/

/-- The modules that hold an action until it is decided. -/
inductive Guard where
  | scamHold | giftCardGuard | walletGuard | claimVerify | guardianPause
deriving DecidableEq

def Guard.module : Guard → TriggerModule
  | .scamHold => .scamHold
  | .giftCardGuard => .giftCardGuard
  | .walletGuard => .walletGuard
  | .claimVerify => .claimVerify
  | .guardianPause => .guardianPause

/-- The status column of a module, which four of them call `decision`. -/
abbrev Guard.Status : Guard → Type
  | .scamHold => ScamHoldStatus
  | .giftCardGuard => GiftCardGuardDecision
  | .walletGuard => WalletGuardDecision
  | .claimVerify => ClaimVerifyDecision
  | .guardianPause => GuardianPauseStatus

/-- What a caller can decide. -/
abbrev Guard.Decision : Guard → Type
  | .scamHold => ScamHoldDecision
  | .giftCardGuard => GiftCardGuardUserDecision
  | .walletGuard => WalletGuardUserDecision
  | .claimVerify => ClaimVerifyUserDecision
  | .guardianPause => PauseResolution

instance : (g : Guard) → DecidableEq g.Status
  | .scamHold => inferInstanceAs (DecidableEq ScamHoldStatus)
  | .giftCardGuard => inferInstanceAs (DecidableEq GiftCardGuardDecision)
  | .walletGuard => inferInstanceAs (DecidableEq WalletGuardDecision)
  | .claimVerify => inferInstanceAs (DecidableEq ClaimVerifyDecision)
  | .guardianPause => inferInstanceAs (DecidableEq GuardianPauseStatus)

structure ScamHoldDetails where
  transactionType : ScamHoldTransactionType
  amountMinor : Int
  recipient : Text

structure GiftCardDetails where
  denominationMinor : Option Int
  impersonationType : GiftCardGuardImpersonationType

structure WalletDetails where
  network : WalletNetwork

structure ClaimDetails where
  claimType : ClaimVerifyType

structure PauseDetails where
  continueAnywayCount : Int

/-- The columns that a module has of its own. -/
abbrev Guard.Details : Guard → Type
  | .scamHold => ScamHoldDetails
  | .giftCardGuard => GiftCardDetails
  | .walletGuard => WalletDetails
  | .claimVerify => ClaimDetails
  | .guardianPause => PauseDetails

/-- The status of a row that is not decided. -/
def Guard.pending : (g : Guard) → g.Status
  | .scamHold => ScamHoldStatus.pending
  | .giftCardGuard => GiftCardGuardDecision.pending
  | .walletGuard => WalletGuardDecision.pending
  | .claimVerify => ClaimVerifyDecision.pending
  | .guardianPause => GuardianPauseStatus.active

/-- A row of a module's table. Guardian Pause calls `decidedAt` and `decisionNotes`
`resolvedAt` and `resolutionNotes`. -/
structure HeldEvent (g : Guard) where
  userId : Uuid
  tenantId : Option Uuid
  riskLevel : RiskLevel
  status : g.Status
  decidedAt : Option Date
  decisionNotes : Option Text
  trustedContactReviewId : Option Uuid
  details : g.Details

/-! ## The other tables -/

/-- A row of `protection_settings`, by user. -/
structure ProtectionSettings where
  trustedContactRequired : Bool
  elderModeStrictLock : Bool
  allowContinueAnyway : Bool
  highRiskAmountThresholdMinor : Int
  guardianPauseDurationSeconds : Int

/-- The defaults of the schema. -/
def ProtectionSettings.default : ProtectionSettings where
  trustedContactRequired := false
  elderModeStrictLock := false
  allowContinueAnyway := true
  highRiskAmountThresholdMinor := 100000
  guardianPauseDurationSeconds := 30

structure TrustedContact where
  id : Uuid
  tenantId : Uuid
  userId : Uuid
  fullName : Text
  relationship : Option Text
  email : Option Text
  phone : Option Text
  status : ContactStatus
  canReceiveAlerts : Bool
  canApproveHighRiskActions : Bool

structure TrustedContactReview where
  id : Uuid
  userId : Uuid
  tenantId : Option Uuid
  contactId : Uuid
  triggerModule : TriggerModule
  triggerEventId : Uuid
  triggerSummary : Text
  status : ReviewStatus
  requestedAt : Date
  decidedAt : Option Date
  decision : Option ReviewDecision
  decisionNotes : Option Text
  decidedByContactToken : Option Text
  evidenceEventId : Option Uuid
  metadata : Value

structure AuditLog where
  actorId : Uuid
  actorType : Text
  action : Text
  targetType : Text
  targetId : Uuid
  metadata : Value

/-- A message handed to the notification service. -/
structure Notification where
  channel : Text
  recipient : Text
  subject : Text
  body : Text
  templateKey : Text
  tenantId : Option Uuid
  metadata : Value

/-- The database, with the clock and the sources of ids and tokens. -/
structure Store where
  events : (g : Guard) → Uuid → Option (HeldEvent g)
  /-- The owners of ScamMirror sessions, which reviews can name too. -/
  mirrorSessions : Uuid → Option Uuid
  /-- `User.elderModeEnabled`, by user. -/
  elderMode : Uuid → Option Bool
  settings : Uuid → Option ProtectionSettings
  contacts : List TrustedContact
  reviews : List TrustedContactReview
  evidence : List (Uuid × AppendEvidenceInput)
  auditLogs : List AuditLog
  notifications : List Notification
  now : Date
  /-- The id that is given out next, after so many. -/
  uuid : Nat → Uuid
  issued : Nat
  /-- The token that is drawn next, after so many. -/
  token : Nat → Text
  drawn : Nat

/-! ## Steps -/

/-- What a step of a service does. -/
inductive DbStep where
  | read
  | create
  | log
  | send
  | draw
  /-- The update that writes the decision of an event. -/
  | settle (g : Guard) (id : Uuid)
  /-- The update that links an event to its review. -/
  | link (g : Guard) (id : Uuid)
  /-- An update of a review. -/
  | review (id : Uuid)
deriving DecidableEq

/-- A service method: steps of the database that may throw. -/
abbrev Service := Prog Store DbStep HttpError

/-- A query. -/
def read {α : Type} (f : Store → α) : Service α := Prog.act .read .internal fun s => (f s, s)

@[simp] theorem run_read {α : Type} (f : Store → α) (s : Store) :
    (read f).run s = (.ok (f s), s) := rfl

/-- A fresh id. -/
def Store.issue (s : Store) : Uuid × Store := (s.uuid s.issued, { s with issued := s.issued + 1 })

/-- `evidence.append`. The row's hash and its place in the chain are the subject of
`Vigiscam.EvidenceVault`; here it is its input, under a fresh id. -/
def appendEvidence (input : AppendEvidenceInput) : Service Uuid :=
  Prog.act .log .internal fun s =>
    let (id, s) := s.issue
    (id, { s with evidence := s.evidence ++ [(id, input)] })

theorem run_appendEvidence (input : AppendEvidenceInput) (s : Store) :
    (appendEvidence input).run s = (.ok (s.uuid s.issued),
      { s with issued := s.issued + 1, evidence := s.evidence ++ [(s.uuid s.issued, input)] }) :=
  rfl

/-- `{ decision, notes: notes ?? null }`, which every decision records. -/
def decisionMetadata (decision : Text) (notes : Option Text) : Value :=
  .object [("decision", .string decision), ("notes", .ofNullable notes)]

theorem distinct_decisionMetadata (decision : Text) (notes : Option Text) :
    (decisionMetadata decision notes).Distinct := by
  refine ⟨?_, trivial, Value.distinct_ofNullable notes, trivial⟩
  show List.Nodup [utf16 "decision", utf16 "notes"]
  decide

/-- The input of an append on behalf of a user. -/
def userEvidence (user : AuthenticatedUser) (entityType : Text) (entityId : Uuid)
    (eventType eventDescription : Text) (metadata : Value) (h : metadata.Distinct) :
    AppendEvidenceInput where
  tenantId := some user.tenantId
  actorId := some user.userId
  actorType := some "USER"
  entityType := entityType
  entityId := entityId
  eventType := eventType
  eventDescription := eventDescription
  metadata := metadata
  ipAddress := none
  deviceId := none
  metadata_distinct := h

def createAuditLog (row : AuditLog) : Service Unit :=
  Prog.act .log .internal fun s => ((), { s with auditLogs := s.auditLogs ++ [row] })

def sendNotification (message : Notification) : Service Unit :=
  Prog.act .send .internal fun s => ((), { s with notifications := s.notifications ++ [message] })

/-- `randomBytes(24).toString('base64url')`. -/
def generateContactToken : Service Text :=
  Prog.act .draw .internal fun s => (s.token s.drawn, { s with drawn := s.drawn + 1 })

def Store.setEvent (s : Store) (g : Guard) (id : Uuid) (e : HeldEvent g) : Store :=
  { s with events := Function.update s.events g (Function.update (s.events g) id (some e)) }

@[simp] theorem Store.setEvent_self (s : Store) (g : Guard) (id : Uuid) (e : HeldEvent g) :
    (s.setEvent g id e).events g id = some e := by
  simp [Store.setEvent]

theorem Store.setEvent_of_ne {s : Store} {g g' : Guard} {id id' : Uuid} {e : HeldEvent g}
    (h : ¬ (g' = g ∧ id' = id)) : (s.setEvent g id e).events g' id' = s.events g' id' := by
  unfold Store.setEvent
  by_cases hg : g' = g
  · subst hg
    have hid : id' ≠ id := fun hid => h ⟨rfl, hid⟩
    simp [hid]
  · simp [hg]

@[simp] theorem Store.setEvent_setEvent (s : Store) (g : Guard) (id : Uuid)
    (e e' : HeldEvent g) : (s.setEvent g id e).setEvent g id e' = s.setEvent g id e' := by
  simp [Store.setEvent]

theorem Store.setEvent_eq_self {s : Store} {g : Guard} {id : Uuid} {e : HeldEvent g}
    (h : s.events g id = some e) : s.setEvent g id e = s := by
  rw [Store.setEvent, ← h, Function.update_eq_self, Function.update_eq_self]

/-- `update` of one row of a module's table; it throws when there is no such row. -/
def updateEvent (label : DbStep) (g : Guard) (id : Uuid)
    (f : Store → HeldEvent g → HeldEvent g) : Service (HeldEvent g) :=
  Prog.attempt label .internal fun s =>
    (s.events g id).map fun e => (f s e, s.setEvent g id (f s e))

theorem run_updateEvent {label : DbStep} {g : Guard} {id : Uuid}
    {f : Store → HeldEvent g → HeldEvent g} {s : Store} {e : HeldEvent g}
    (h : s.events g id = some e) :
    (updateEvent label g id f).run s = (.ok (f s e), s.setEvent g id (f s e)) := by
  refine Prog.run_attempt_some ?_
  rw [h]
  rfl

/-! ## What a step leaves as it was -/

/-- The settings a user is evaluated by: a missing row is created with the defaults. -/
def Store.settingsOf (s : Store) (userId : Uuid) : ProtectionSettings :=
  (s.settings userId).getD .default

/-- What decisions depend on beside the events and the reviews. -/
structure Context where
  mirrorSessions : Uuid → Option Uuid
  elderMode : Uuid → Option Bool
  settingsOf : Uuid → ProtectionSettings
  contacts : List TrustedContact

def Store.context (s : Store) : Context where
  mirrorSessions := s.mirrorSessions
  elderMode := s.elderMode
  settingsOf := s.settingsOf
  contacts := s.contacts

/-- The two stores agree on everything that decisions depend on. -/
structure Store.Same (s s' : Store) : Prop where
  context : s'.context = s.context
  events : s'.events = s.events
  reviews : s'.reviews = s.reviews

theorem Store.Same.refl (s : Store) : s.Same s := ⟨rfl, rfl, rfl⟩

theorem Store.Same.trans {s t u : Store} (h : s.Same t) (h' : t.Same u) : s.Same u :=
  ⟨h'.context.trans h.context, h'.events.trans h.events, h'.reviews.trans h.reviews⟩

/-- The step may write the row of an event. -/
def DbStep.writesEvent : DbStep → Prop
  | .settle _ _ => True
  | .link _ _ => True
  | _ => False

/-- A program whose steps all leave the store the same. -/
abbrev Quiet {α : Type} (p : Service α) : Prop :=
  p.Each fun l s s' => ¬ l.writesEvent ∧ s.Same s'

theorem Quiet.run {α : Type} {p : Service α} (h : Quiet p) (s : Store) : s.Same (p.run s).2 :=
  Prog.Each.run (I := s.Same) (h.mono fun _ _ _ hstep hs => hs.trans hstep.2) (.refl s)

theorem quiet_read {α : Type} (f : Store → α) : Quiet (read f) :=
  Prog.Each.act fun s => ⟨id, .refl s⟩

theorem quiet_appendEvidence (input : AppendEvidenceInput) : Quiet (appendEvidence input) :=
  Prog.Each.act fun _ => ⟨id, rfl, rfl, rfl⟩

theorem quiet_createAuditLog (row : AuditLog) : Quiet (createAuditLog row) :=
  Prog.Each.act fun _ => ⟨id, rfl, rfl, rfl⟩

theorem quiet_sendNotification (message : Notification) : Quiet (sendNotification message) :=
  Prog.Each.act fun _ => ⟨id, rfl, rfl, rfl⟩

theorem quiet_generateContactToken : Quiet generateContactToken :=
  Prog.Each.act fun _ => ⟨id, rfl, rfl, rfl⟩

end Protection
