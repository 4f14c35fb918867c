import Vigiscam.Protection.Enforcement

/-!
# The decisions of the guarded modules

`decide` of ScamHold, GiftCardGuard, WalletGuard and ClaimVerify has one body, whose
values differ (`DecideSpec`); `complete` of Guardian Pause has its own: it asks
the enforcement only for a continue, and never escalates. `settle` is the decision
of a module, whichever it is.
-/

namespace Protection

open Js Value Concurrency ProtectionEnforcementService

/-- `findFirst` of an event by its id and its owner. -/
def findOwned (g : Guard) (user : AuthenticatedUser) (id : Uuid) :
    Service (Option (HeldEvent g)) :=
  read fun s => (s.events g id).filter fun e => e.userId = user.userId

/-- How a module reads its events and the decisions on them. -/
structure Vocabulary (g : Guard) where
  notFound : Text
  /-- The message for an event that is decided, up to its status. -/
  alreadyDecided : Text
  statusName : g.Status → Text
  decisionKind : g.Decision → DecisionKind
  /-- The cast of a decision to the status column. -/
  nextStatus : g.Decision → g.Status
  amountMinor : g.Details → Option Int
  entityType : Text
  escalates : g.Decision → Bool

def Vocabulary.alreadyDecidedIn {g : Guard} (v : Vocabulary g) (status : g.Status) : HttpError :=
  .badRequest (v.alreadyDecided ++ v.statusName status ++ ")")

def Vocabulary.enforceParams {g : Guard} (v : Vocabulary g) (id : Uuid) (existing : HeldEvent g)
    (decision : g.Decision) : EnforceParams where
  module := g.module
  eventId := id
  riskLevel := existing.riskLevel
  amountMinor := v.amountMinor existing.details
  decisionKind := v.decisionKind decision

/-- The row of an event with a decision on it. -/
def Vocabulary.decidedEvent {g : Guard} (v : Vocabulary g) (decision : g.Decision)
    (notes : Option Text) (now : Date) (e : HeldEvent g) : HeldEvent g :=
  { e with status := v.nextStatus decision, decidedAt := some now, decisionNotes := notes }

/-! ## One body for four modules -/

/-- The values of a module's `decide`. -/
structure DecideSpec (g : Guard) extends Vocabulary g where
  decisionName : g.Decision → Text
  eventDescription : g.Decision → Text
  triggerSummary : HeldEvent g → Text
  /-- The key of the event's id in the metadata of a review. -/
  reviewKey : Text

/-- The review that an escalation asks for; no contact is named. -/
def escalation {g : Guard} (m : DecideSpec g) (user : AuthenticatedUser) (id : Uuid)
    (existing : HeldEvent g) : RequestReviewInput where
  user := user
  triggerModule := g.module
  triggerEventId := id
  triggerSummary := m.triggerSummary existing
  contactId := none
  metadata := object [(m.reviewKey, string id)]

/-- Open a review for an escalated event, and link the event to it. -/
def escalate {g : Guard} (m : DecideSpec g) (user : AuthenticatedUser) (id : Uuid)
    (existing : HeldEvent g) : Service Unit := do
  let review ← TrustedContactReviewService.requestReview (escalation m user id existing)
  match review with
  | some review =>
    let _ ← updateEvent (.link g id) g id fun _ e =>
      { e with trustedContactReviewId := some review.id }
  | none => pure ()

/-- What a decision does once the enforcement lets it through. -/
def recordDecision {g : Guard} (m : DecideSpec g) (user : AuthenticatedUser) (id : Uuid)
    (existing : HeldEvent g) (decision : g.Decision) (notes : Option Text) :
    Service (HeldEvent g) := do
  let updated ← updateEvent (.settle g id) g id fun s => m.decidedEvent decision notes s.now
  let _ ← appendEvidence (userEvidence user m.entityType id
    (m.entityType ++ "_" ++ m.decisionName decision) (m.eventDescription decision)
    (decisionMetadata (m.decisionName decision) notes) (distinct_decisionMetadata _ _))
  if m.escalates decision then
    escalate m user id existing
  pure updated

def decideWith {g : Guard} (m : DecideSpec g) (user : AuthenticatedUser) (id : Uuid)
    (decision : g.Decision) (notes : Option Text) : Service (HeldEvent g) := do
  let existing ← findOwned g user id
  match existing with
  | none => throw (.notFound m.notFound)
  | some existing =>
    if existing.status ≠ g.pending then
      throw (m.alreadyDecidedIn existing.status)
    else
      let _ ← enforceDecision user (m.enforceParams id existing decision)
      recordDecision m user id existing decision notes

/-! ## ScamHold -/

namespace ScamHoldService

def decisionKind : ScamHoldDecision → DecisionKind
  | .continueAnyway => .continue
  | .releaseAfterVerification => .release
  | _ => .other

def nextStatus : ScamHoldDecision → ScamHoldStatus
  | .releaseAfterVerification => .releaseAfterVerification
  | .block => .block
  | .sendToTrustedContact => .sendToTrustedContact
  | .saveOnly => .saveOnly
  | .continueAnyway => .continueAnyway

def spec : DecideSpec .scamHold where
  notFound := "ScamHold event not found"
  alreadyDecided := "ScamHold already decided ("
  statusName := ScamHoldStatus.name
  decisionName := ScamHoldDecision.name
  decisionKind := decisionKind
  nextStatus := nextStatus
  amountMinor details := some details.amountMinor
  entityType := "SCAMHOLD"
  eventDescription decision :=
    if decision = .continueAnyway then "User pushed past ScamHold warning"
    else "ScamHold decision: " ++ ScamHoldDecision.name decision
  escalates decision := decision = .sendToTrustedContact
  triggerSummary existing :=
    replaceFirst 0x5F 0x20 existing.details.transactionType.name ++ " for "
      ++ existing.details.recipient ++ " flagged as " ++ existing.riskLevel.name ++ " risk"
  reviewKey := "scamHoldEventId"

def decide := decideWith spec

end ScamHoldService

/-! ## GiftCardGuard -/

namespace GiftCardGuardService

def decisionKind : GiftCardGuardUserDecision → DecisionKind
  | .continuedAnyway => .continue
  | _ => .other

def nextStatus : GiftCardGuardUserDecision → GiftCardGuardDecision
  | .avoided => .avoided
  | .continuedAnyway => .continuedAnyway
  | .escalatedToTrustedContact => .escalatedToTrustedContact

def spec : DecideSpec .giftCardGuard where
  notFound := "Gift card warning not found"
  alreadyDecided := "Warning already decided ("
  statusName := GiftCardGuardDecision.name
  decisionName := GiftCardGuardUserDecision.name
  decisionKind := decisionKind
  nextStatus := nextStatus
  amountMinor details := details.denominationMinor
  entityType := "GIFTCARD_WARNING"
  eventDescription decision :=
    if decision = .continuedAnyway then "User continued past gift-card warning"
    else "Gift-card warning resolved: " ++ GiftCardGuardUserDecision.name decision
  escalates decision := decision = .escalatedToTrustedContact
  triggerSummary existing :=
    if existing.details.impersonationType ≠ .none then
      "Someone claiming " ++ replaceFirst 0x5F 0x20
        (lowerAscii existing.details.impersonationType.name) ++ " is asking for a gift card"
    else "Gift card request flagged as " ++ existing.riskLevel.name ++ " risk"
  reviewKey := "giftCardWarningId"

def decide := decideWith spec

end GiftCardGuardService

/-! ## WalletGuard -/

namespace WalletGuardService

def decisionKind : WalletGuardUserDecision → DecisionKind
  | .continuedAnyway => .continue
  | .validated => .release
  | _ => .other

def nextStatus : WalletGuardUserDecision → WalletGuardDecision
  | .validated => .validated
  | .blocked => .blocked
  | .escalatedToTrustedContact => .escalatedToTrustedContact
  | .continuedAnyway => .continuedAnyway

def spec : DecideSpec .walletGuard where
  notFound := "Wallet check not found"
  alreadyDecided := "Wallet check already decided ("
  statusName := WalletGuardDecision.name
  decisionName := WalletGuardUserDecision.name
  decisionKind := decisionKind
  nextStatus := nextStatus
  amountMinor _ := none
  entityType := "WALLET_CHECK"
  eventDescription decision :=
    if decision = .continuedAnyway then "User continued past WalletGuard warning"
    else "Wallet check resolved: " ++ WalletGuardUserDecision.name decision
  escalates decision := decision = .escalatedToTrustedContact
  triggerSummary existing :=
    existing.details.network.name ++ " wallet flagged as " ++ existing.riskLevel.name ++ " risk"
  reviewKey := "walletCheckId"

def decide := decideWith spec

end WalletGuardService

/-! ## ClaimVerify -/

namespace ClaimVerifyService

def decisionKind : ClaimVerifyUserDecision → DecisionKind
  | .continuedAnyway => .continue
  | .trusted => .release
  | _ => .other

def nextStatus : ClaimVerifyUserDecision → ClaimVerifyDecision
  | .trusted => .trusted
  | .rejected => .rejected
  | .escalatedToTrustedContact => .escalatedToTrustedContact
  | .continuedAnyway => .continuedAnyway

def spec : DecideSpec .claimVerify where
  notFound := "Claim verification not found"
  alreadyDecided := "Claim already decided ("
  statusName := ClaimVerifyDecision.name
  decisionName := ClaimVerifyUserDecision.name
  decisionKind := decisionKind
  nextStatus := nextStatus
  amountMinor _ := none
  entityType := "CLAIM_VERIFICATION"
  eventDescription decision :=
    if decision = .continuedAnyway then "User continued past claim warning"
    else "Claim verification resolved: " ++ ClaimVerifyUserDecision.name decision
  escalates decision := decision = .escalatedToTrustedContact
  triggerSummary existing :=
    "Claim of type " ++ replaceFirst 0x5F 0x20 (lowerAscii existing.details.claimType.name) ++ " "
      ++ "flagged as " ++ existing.riskLevel.name ++ " risk"
  reviewKey := "claimVerificationId"

def decide := decideWith spec

end ClaimVerifyService

/-! ## Guardian Pause -/

namespace GuardianPauseService

def decisionKind : PauseResolution → DecisionKind
  | .continuedAnyway => .continue
  | _ => .other

def nextStatus : PauseResolution → GuardianPauseStatus
  | .resolved => .resolved
  | .continuedAnyway => .continuedAnyway
  | .expired => .expired

def vocabulary : Vocabulary .guardianPause where
  notFound := "Pause event not found"
  alreadyDecided := "Pause already in terminal state ("
  statusName := GuardianPauseStatus.name
  decisionKind := decisionKind
  nextStatus := nextStatus
  amountMinor _ := none
  entityType := "GUARDIAN_PAUSE"
  escalates _ := false

def completeMetadata (resolution : PauseResolution) (continuedCount : Int) (notes : Option Text) :
    Value :=
  object [("resolution", string resolution.name),
    ("continueAnywayCount", number (.ofInt continuedCount)), ("notes", ofNullable notes)]

theorem distinct_completeMetadata (resolution : PauseResolution) (continuedCount : Int)
    (notes : Option Text) : (completeMetadata resolution continuedCount notes).Distinct := by
  refine ⟨?_, trivial, trivial, distinct_ofNullable notes, trivial⟩
  show List.Nodup [utf16 "resolution", utf16 "continueAnywayCount", utf16 "notes"]
  decide +kernel

def eventDescription (resolution : PauseResolution) (continuedCount : Int) : Text :=
  if resolution = .continuedAnyway then
    "User continued through pause (count=" ++ (Number.ofInt continuedCount).toText ++ ")"
  else "Pause " ++ lowerAscii (nextStatus resolution).name

/-- What a resolution does once the enforcement lets it through. -/
def recordResolution (user : AuthenticatedUser) (pauseEventId : Uuid)
    (existing : HeldEvent .guardianPause) (resolution : PauseResolution) (notes : Option Text) :
    Service (HeldEvent .guardianPause) := do
  let continuedCount :=
    if resolution = .continuedAnyway then existing.details.continueAnywayCount + 1
    else existing.details.continueAnywayCount
  let updated ← updateEvent (.settle .guardianPause pauseEventId) .guardianPause pauseEventId
    fun s e => { vocabulary.decidedEvent resolution notes s.now e with
      details := { continueAnywayCount := continuedCount } }
  let _ ← appendEvidence (userEvidence user vocabulary.entityType pauseEventId
    (vocabulary.entityType ++ "_" ++ (nextStatus resolution).name)
    (eventDescription resolution continuedCount)
    (completeMetadata resolution continuedCount notes) (distinct_completeMetadata _ _ _))
  pure updated

def complete (user : AuthenticatedUser) (pauseEventId : Uuid) (resolution : PauseResolution)
    (notes : Option Text) : Service (HeldEvent .guardianPause) := do
  let existing ← findOwned .guardianPause user pauseEventId
  match existing with
  | none => throw (.notFound vocabulary.notFound)
  | some existing =>
    if existing.status ≠ GuardianPauseStatus.active then
      throw (vocabulary.alreadyDecidedIn existing.status)
    else
      -- the policy is only asked about a continue
      if resolution = .continuedAnyway then
        let _ ← enforceDecision user (vocabulary.enforceParams pauseEventId existing resolution)
      recordResolution user pauseEventId existing resolution notes

end GuardianPauseService

/-! ## Any module -/

def Guard.vocabulary : (g : Guard) → Vocabulary g
  | .scamHold => ScamHoldService.spec.toVocabulary
  | .giftCardGuard => GiftCardGuardService.spec.toVocabulary
  | .walletGuard => WalletGuardService.spec.toVocabulary
  | .claimVerify => ClaimVerifyService.spec.toVocabulary
  | .guardianPause => GuardianPauseService.vocabulary

/-- `decide` or `complete`. -/
def settle : (g : Guard) → AuthenticatedUser → Uuid → g.Decision → Option Text →
    Service (HeldEvent g)
  | .scamHold => ScamHoldService.decide
  | .giftCardGuard => GiftCardGuardService.decide
  | .walletGuard => WalletGuardService.decide
  | .claimVerify => ClaimVerifyService.decide
  | .guardianPause => GuardianPauseService.complete

end Protection
