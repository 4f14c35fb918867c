import Mathlib.Logic.Function.Basic
import Vigiscam.Checks.Addresses
import Vigiscam.Checks.ClaimIndicators
import Vigiscam.Checks.Scoring
import Vigiscam.Clustering.Service
import Vigiscam.FraudGraph.Nodes
import Vigiscam.RiskFusion.Service

/-!
# The checks of the protection modules

`ScamHold.check`, `GiftCardGuard.scan`, `WalletGuard.check` and `ClaimVerify.verify` have one
body, whose values differ (`CheckSpec`): a risky action is scored and stored, a level that
triggers it pulls a Guardian Pause, every check emits a risk event, and a last update links the
row to its evidence and to its pause. Each of these is a write of its own, and no transaction
is around them. What ClaimVerify feeds into intake and WalletGuard into the fraud graph is
best-effort.

The rows are those that `decide` reads (`HeldEvent`), with all their columns.
-/

namespace Checks

open Js Value Concurrency EvidenceVault Protection
open RiskFusion (RiskEvent RiskModuleSource)

/-! ## The modules and their rows -/

inductive CheckModule where
  | scamHold | giftCardGuard | walletGuard | claimVerify
deriving DecidableEq

def CheckModule.guard : CheckModule → Guard
  | .scamHold => .scamHold
  | .giftCardGuard => .giftCardGuard
  | .walletGuard => .walletGuard
  | .claimVerify => .claimVerify

/-- The levels that pull a Guardian Pause. -/
def CheckModule.Triggers : CheckModule → RiskLevel → Prop
  | .scamHold, level => level = .critical
  | _, level => level = .high ∨ level = .critical

instance : (m : CheckModule) → (level : RiskLevel) → Decidable (m.Triggers level)
  | .scamHold, level => inferInstanceAs (Decidable (level = .critical))
  | .giftCardGuard, level | .walletGuard, level | .claimVerify, level =>
    inferInstanceAs (Decidable (level = .high ∨ level = .critical))

/-- The status of a row that its user has overridden. -/
def CheckModule.continued : (m : CheckModule) → m.guard.Status
  | .scamHold => ScamHoldStatus.continueAnyway
  | .giftCardGuard => GiftCardGuardDecision.continuedAnyway
  | .walletGuard => WalletGuardDecision.continuedAnyway
  | .claimVerify => ClaimVerifyDecision.continuedAnyway

structure ScamHoldColumns where
  currency : Text
  recipientRisk : Text
  urgencyDetected : Bool
  secrecyDetected : Bool
  activeCommunication : Bool

structure GiftCardColumns where
  cardBrand : Option Text
  currency : Text
  codeRevealRequested : Bool
  photoOfCodeRequested : Bool
  urgencyDetected : Bool
  secrecyDetected : Bool
  elderModeActive : Bool

structure WalletColumns where
  address : Text
  addressValid : Bool
  reputation : WalletReputation
  clipboardSwapDetected : Bool
  walletSwitched : Bool
  graphMatchScore : Option Int
  urgencyDetected : Bool
  secrecyDetected : Bool

structure ClaimColumns where
  subject : Value
  domainAgeDays : Option Int
  locationMismatch : Bool
  imageReuseDetected : Bool
  scamPhraseScore : Option Int
  paymentPressure : Bool
  secrecyDetected : Bool
  urgencyDetected : Bool

/-- The columns that a module has of its own and that no decision reads. -/
abbrev CheckModule.Columns : CheckModule → Type
  | .scamHold => ScamHoldColumns
  | .giftCardGuard => GiftCardColumns
  | .walletGuard => WalletColumns
  | .claimVerify => ClaimColumns

/-- A row of a module's table. -/
structure CheckEvent (m : CheckModule) extends HeldEvent m.guard where
  id : Uuid
  columns : m.Columns
  priorWarningsCount : Nat
  riskScore : Int
  riskBreakdown : Value
  guardianPauseEventId : Option Uuid
  evidenceEventId : Option Uuid
  metadata : Value
  createdAt : Date

inductive GuardianPauseTriggerType where
  | mediumRisk | continueAnyway | giftCardReveal | cryptoTransferRisk | walletSwitch
  | suspiciousClaim | scamHoldActive | urgency | secrecy | romancePressure
  | fakeAuthorityPressure | elderModeFinancial
deriving DecidableEq

def GuardianPauseTriggerType.name : GuardianPauseTriggerType → Text
  | .mediumRisk => "MEDIUM_RISK"
  | .continueAnyway => "CONTINUE_ANYWAY"
  | .giftCardReveal => "GIFT_CARD_REVEAL"
  | .cryptoTransferRisk => "CRYPTO_TRANSFER_RISK"
  | .walletSwitch => "WALLET_SWITCH"
  | .suspiciousClaim => "SUSPICIOUS_CLAIM"
  | .scamHoldActive => "SCAMHOLD_ACTIVE"
  | .urgency => "URGENCY"
  | .secrecy => "SECRECY"
  | .romancePressure => "ROMANCE_PRESSURE"
  | .fakeAuthorityPressure => "FAKE_AUTHORITY_PRESSURE"
  | .elderModeFinancial => "ELDER_MODE_FINANCIAL"

/-- A row of `pause_events`; its `expiresAt` is in milliseconds. -/
structure PauseEvent extends HeldEvent .guardianPause where
  id : Uuid
  triggerType : GuardianPauseTriggerType
  triggerSummary : Text
  evidenceEventId : Option Uuid
  startedAt : Date
  expiresAt : Int
  metadata : Value

/-- Rows are in the order of their creation. No event has an id that is still to be given out.
Intake and the fraud graph keep their own part, with the evidence that intake appends. -/
structure Store where
  events : (m : CheckModule) → List (CheckEvent m)
  pauses : List PauseEvent
  riskEvents : List RiskEvent
  evidence : List (Uuid × AppendEvidenceInput)
  signals : Clustering.Store
  graph : FraudGraph.Store
  now : Date
  /-- The id that is given out next, after so many. -/
  uuid : Nat → Uuid
  issued : Nat
  uuid_injective : Function.Injective uuid
  events_issued : ∀ m n, issued ≤ n → uuid n ∉ (events m).map CheckEvent.id

inductive DbStep where
  | countWarnings | createEvent | appendEvidence | countPauses | createPause | updatePause
  | createRiskEvent | linkEvent
  | signals (l : Clustering.ClusterStep)
  | graph (l : FraudGraph.GraphStep)

abbrev Program (α : Type) := Prog Store DbStep HttpError α

def signalsPart : Part Store Clustering.Store where
  get := Store.signals
  set signals s := { s with signals }
  set_get _ := rfl
  get_set _ _ := rfl

def graphPart : Part Store FraudGraph.Store where
  get := Store.graph
  set graph s := { s with graph }
  set_get _ := rfl
  get_set _ _ := rfl

/-! ## The calls of the database -/

/-- A day, in milliseconds. -/
def DAY : Int := 24 * 60 * 60 * 1000

/-- The warnings of the last 30 days that a user has overridden. -/
def Store.priorWarnings (s : Store) (m : CheckModule) (userId : Uuid) : Nat :=
  (s.events m).countP fun row =>
    row.userId = userId ∧ row.status = m.continued ∧
      s.now.getTime - 30 * DAY ≤ row.createdAt.getTime

def countWarnings (m : CheckModule) (userId : Uuid) : Program Nat :=
  Prog.act .countWarnings .internal fun s => (s.priorWarnings m userId, s)

/-- A new event, under the next id. -/
def Store.addEvent (s : Store) (m : CheckModule) (row : Uuid → CheckEvent m)
    (hrow : ∀ id, (row id).id = id) : Store :=
  { s with
    events := Function.update s.events m (s.events m ++ [row (s.uuid s.issued)])
    issued := s.issued + 1
    events_issued := by
      refine (Function.forall_update_iff s.events fun m rows =>
        ∀ n, s.issued + 1 ≤ n → s.uuid n ∉ rows.map CheckEvent.id).mpr ⟨?_, fun m' _ n hn => ?_⟩
      · exact Table.issued_append s.uuid_injective (s.events_issued m) (hrow _)
      · exact s.events_issued m' n (by omega) }

/-- The score is an integer column: NaN is refused. -/
def createEvent (m : CheckModule) (riskScore : Option Int)
    (row : Int → Date → Uuid → CheckEvent m) (hrow : ∀ score now id, (row score now id).id = id) :
    Program (CheckEvent m) :=
  Prog.attempt .createEvent .internal fun s =>
    riskScore.map fun score =>
      (row score s.now (s.uuid s.issued), s.addEvent m (row score s.now) (hrow score s.now))

/-- `evidence.append`, by its input, under a fresh id. -/
def appendEvidence (input : AppendEvidenceInput) : Program Uuid :=
  Prog.act .appendEvidence .internal fun s =>
    (s.uuid s.issued, { s with
      evidence := s.evidence ++ [(s.uuid s.issued, input)]
      issued := s.issued + 1
      events_issued := fun m n hn => s.events_issued m n (by omega) })

/-- The pauses of the last 7 days that a user has continued through. -/
def countPauses (userId : Uuid) : Program Nat :=
  Prog.act .countPauses .internal fun s =>
    (s.pauses.countP fun pause =>
      pause.userId = userId ∧ pause.status = GuardianPauseStatus.continuedAnyway ∧
        s.now.getTime - 7 * DAY ≤ pause.startedAt.getTime, s)

def createPause (row : Date → Uuid → PauseEvent) : Program PauseEvent :=
  Prog.act .createPause .internal fun s =>
    (row s.now (s.uuid s.issued), { s with
      pauses := s.pauses ++ [row s.now (s.uuid s.issued)]
      issued := s.issued + 1
      events_issued := fun m n hn => s.events_issued m n (by omega) })

def PauseEvent.withEvidence (evidenceEventId : Uuid) (pause : PauseEvent) : PauseEvent :=
  { pause with evidenceEventId := some evidenceEventId }

/-- `update`, of the row where it is still there. -/
def updatePause (id evidenceEventId : Uuid) : Program PauseEvent :=
  Prog.attempt .updatePause .internal fun s =>
    (Table.find PauseEvent.id id s.pauses).map fun pause =>
      (pause.withEvidence evidenceEventId, { s with
        pauses :=
          Table.modify PauseEvent.id id (PauseEvent.withEvidence evidenceEventId) s.pauses })

/-- The event with its evidence and its pause. -/
def CheckEvent.linked {m : CheckModule} (evidenceEventId : Uuid)
    (guardianPauseEventId : Option Uuid) (row : CheckEvent m) : CheckEvent m :=
  { row with evidenceEventId := some evidenceEventId, guardianPauseEventId }

@[simp] theorem CheckEvent.id_linked {m : CheckModule} (evidenceEventId : Uuid)
    (guardianPauseEventId : Option Uuid) (row : CheckEvent m) :
    (row.linked evidenceEventId guardianPauseEventId).id = row.id := rfl

def Store.linkEvent (s : Store) (m : CheckModule) (id evidenceEventId : Uuid)
    (guardianPauseEventId : Option Uuid) : Store :=
  { s with
    events := Function.update s.events m
      (Table.modify CheckEvent.id id (CheckEvent.linked evidenceEventId guardianPauseEventId)
        (s.events m))
    events_issued := by
      refine (Function.forall_update_iff s.events fun m rows =>
        ∀ n, s.issued ≤ n → s.uuid n ∉ rows.map CheckEvent.id).mpr
          ⟨fun n hn => ?_, fun m' _ => s.events_issued m'⟩
      rw [Table.map_modify (CheckEvent.id_linked evidenceEventId guardianPauseEventId)]
      exact s.events_issued m n hn }

/-- The last update of a check. -/
def linkEvent (m : CheckModule) (id evidenceEventId : Uuid) (guardianPauseEventId : Option Uuid) :
    Program (CheckEvent m) :=
  Prog.attempt .linkEvent .internal fun s =>
    (Table.find CheckEvent.id id (s.events m)).map fun row =>
      (row.linked evidenceEventId guardianPauseEventId,
        s.linkEvent m id evidenceEventId guardianPauseEventId)

/-! ## Guardian Pause -/

namespace GuardianPauseService

def DEFAULT_PAUSE_DURATION_SECONDS : Int := 30

structure StartPauseDto where
  riskLevel : RiskLevel
  triggerType : GuardianPauseTriggerType
  triggerSummary : Text
  durationSeconds : Option Int
  metadata : Value

def StartPauseDto.duration (dto : StartPauseDto) : Int :=
  dto.durationSeconds.getD DEFAULT_PAUSE_DURATION_SECONDS

def newPause (user : AuthenticatedUser) (dto : StartPauseDto) (priorContinueCount : Nat)
    (now : Date) (id : Uuid) : PauseEvent where
  userId := user.userId
  tenantId := some user.tenantId
  riskLevel := dto.riskLevel
  status := GuardianPauseStatus.active
  decidedAt := none
  decisionNotes := none
  trustedContactReviewId := none
  details := { continueAnywayCount := priorContinueCount }
  id := id
  triggerType := dto.triggerType
  triggerSummary := dto.triggerSummary
  evidenceEventId := none
  startedAt := now
  expiresAt := now.getTime + dto.duration * 1000
  metadata := dto.metadata

def startedMetadata (dto : StartPauseDto) (priorContinueCount : Nat) : Value :=
  object [("riskLevel", string dto.riskLevel.name), ("triggerType", string dto.triggerType.name),
    ("durationSeconds", number (.ofInt dto.duration)),
    ("priorContinueCount", number (.ofInt priorContinueCount))]

theorem distinct_startedMetadata (dto : StartPauseDto) (priorContinueCount : Nat) :
    (startedMetadata dto priorContinueCount).Distinct := by
  refine ⟨?_, trivial, trivial, trivial, trivial, trivial⟩
  show List.Nodup [utf16 "riskLevel", utf16 "triggerType", utf16 "durationSeconds",
    utf16 "priorContinueCount"]
  decide

/-- The evidence event of a pause that starts. -/
def startedEvidence (user : AuthenticatedUser) (dto : StartPauseDto) (priorContinueCount : Nat)
    (id : Uuid) : AppendEvidenceInput :=
  Protection.userEvidence user "GUARDIAN_PAUSE" id "GUARDIAN_PAUSE_STARTED"
    (utf16 "Pause started (trigger=" ++ dto.triggerType.name ++ utf16 ", risk="
      ++ dto.riskLevel.name ++ utf16 ")")
    (startedMetadata dto priorContinueCount) (distinct_startedMetadata dto priorContinueCount)

def start (user : AuthenticatedUser) (dto : StartPauseDto) : Program PauseEvent := do
  let priorContinueCount ← countPauses user.userId
  let created ← createPause (newPause user dto priorContinueCount)
  let evidenceEventId ← appendEvidence (startedEvidence user dto priorContinueCount created.id)
  updatePause created.id evidenceEventId

end GuardianPauseService

/-! ## The feed of risk events -/

namespace RiskEventRecorderService

structure RecordRiskEventInput where
  moduleSource : RiskModuleSource
  eventType : Text
  riskScore : Option Int
  riskLevel : RiskLevel
  triggerReason : Text
  recommendedAction : Text
  detectedSignals : Option (List Text)
  sessionId : Option Uuid
  metadata : Value

def newRiskEvent (user : AuthenticatedUser) (input : RecordRiskEventInput) (riskScore : Int)
    (id : Uuid) : RiskEvent where
  id := id
  tenantId := user.tenantId
  userId := user.userId
  sessionId := input.sessionId
  moduleSource := input.moduleSource
  eventType := input.eventType
  riskScore := riskScore
  riskLevel := input.riskLevel
  status := .open
  triggerReason := input.triggerReason
  recommendedAction := input.recommendedAction
  detectedSignals := input.detectedSignals.getD []
  metadata := input.metadata

/-- Every check emits a unified risk event. -/
def record (user : AuthenticatedUser) (input : RecordRiskEventInput) : Program RiskEvent :=
  Prog.attempt .createRiskEvent .internal fun s =>
    input.riskScore.map fun riskScore =>
      (newRiskEvent user input riskScore (s.uuid s.issued), { s with
        riskEvents := s.riskEvents ++ [newRiskEvent user input riskScore (s.uuid s.issued)]
        issued := s.issued + 1
        events_issued := fun m n hn => s.events_issued m n (by omega) })

end RiskEventRecorderService

end Checks
