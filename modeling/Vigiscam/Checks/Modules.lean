import Vigiscam.Checks.Service

/-!
# The four checks

`checkWith` is the body that the modules share, and each module gives it its values. ClaimVerify
feeds the indicators of a suspicious claim into intake once its pause is there, and WalletGuard
projects the wallet onto the fraud graph before the row is linked. Both are best-effort.
-/

namespace Checks

open Js Value Concurrency EvidenceVault Protection
open RiskFusion (RiskModuleSource)
open GuardianPauseService (StartPauseDto)
open RiskEventRecorderService (RecordRiskEventInput)

/-! ## Scores in texts and in metadata -/

/-- `${score}` -/
def scoreText : Option Int → Text
  | some score => (Number.ofInt score).toText
  | none => "NaN"

def scoreValue : Option Int → Value
  | some score => number (.ofInt score)
  | none => nonFinite

theorem distinct_scoreValue (score : Option Int) : (scoreValue score).Distinct := by
  cases score <;> trivial

def ScoringResult.breakdownValue (scoring : ScoringResult) : Value :=
  object (scoring.breakdown.map fun weight => (weight.1, scoreValue weight.2))

theorem ScoringResult.distinct_breakdownValue (scoring : ScoringResult) :
    scoring.breakdownValue.Distinct := by
  constructor
  · rw [List.map_map]
    exact scoring.nodup
  · refine distinctFields_iff.mpr fun field hfield => ?_
    obtain ⟨weight, -, rfl⟩ := List.mem_map.mp hfield
    exact distinct_scoreValue weight.2

/-- What the evidence of every check records of its score. -/
def ScoringResult.fields (scoring : ScoringResult) : List (Text × Value) :=
  [("riskScore", scoreValue scoring.score), ("riskLevel", string scoring.level.name),
    ("breakdown", scoring.breakdownValue)]

theorem ScoringResult.distinct_fields (scoring : ScoringResult) : DistinctFields scoring.fields :=
  ⟨distinct_scoreValue _, trivial, scoring.distinct_breakdownValue, trivial⟩

/-- `${type.toLowerCase().replace('_', ' ')}`, of an enumeration. -/
def spoken (name : Text) : Text := replaceFirst 0x5F 0x20 (lowerAscii name)

def recommendedAction (stop : Text) : RiskLevel → Text
  | .critical => stop
  | .high => "VERIFY_BEFORE_PROCEEDING"
  | .medium | .low => "PROCEED_WITH_CAUTION"

/-! ## One body for four modules -/

/-- The values of a module's check. -/
structure CheckSpec (m : CheckModule) (Dto : Type) where
  scoring : Dto → Nat → ScoringResult
  /-- The columns of its own; `none` where reading one of them throws. -/
  columns : Dto → Option (m.guard.Details × m.Columns)
  metadata : Dto → Option Value
  entityType : Text
  openedType : Text
  openedDescription : Dto → ScoringResult → Text
  openedMetadata : Dto → ScoringResult → Value
  distinct_openedMetadata : ∀ dto scoring, (openedMetadata dto scoring).Distinct
  triggerType : Dto → GuardianPauseTriggerType
  triggerSummary : Dto → RiskLevel → Text
  durationSeconds : Int
  /-- The key of the row's id in the metadata of its pause. -/
  pauseKey : Text
  moduleSource : RiskModuleSource
  riskEventType : Text
  triggerReason : Dto → RiskLevel → Text
  stopAction : Text
  detectedSignals : Dto → Option (List Text)
  /-- The key of the row's id in the metadata of its risk event. -/
  riskEventKey : Text
  /-- What follows a pause. -/
  feed : AuthenticatedUser → Dto → RiskLevel → Program Unit
  /-- What follows the risk event. -/
  project : Dto → ScoringResult → Program Unit

section Body

variable {m : CheckModule} {Dto : Type} (spec : CheckSpec m Dto) (user : AuthenticatedUser)
  (dto : Dto)

def CheckSpec.newEvent (columns : m.guard.Details × m.Columns) (priorWarningsCount : Nat)
    (scoring : ScoringResult) (riskScore : Int) (now : Date) (id : Uuid) : CheckEvent m where
  userId := user.userId
  tenantId := some user.tenantId
  riskLevel := scoring.level
  status := m.guard.pending
  decidedAt := none
  decisionNotes := none
  trustedContactReviewId := none
  details := columns.1
  id := id
  columns := columns.2
  priorWarningsCount := priorWarningsCount
  riskScore := riskScore
  riskBreakdown := scoring.breakdownValue
  guardianPauseEventId := none
  evidenceEventId := none
  metadata := (spec.metadata dto).getD null
  createdAt := now

def CheckSpec.openEvent (priorWarningsCount : Nat) (scoring : ScoringResult) :
    Program (CheckEvent m) :=
  match spec.columns dto with
  | none => throw .internal
  | some columns =>
    createEvent m scoring.score (spec.newEvent user dto columns priorWarningsCount scoring)
      fun _ _ _ => rfl

/-- The evidence event of a row. -/
def CheckSpec.openedEvidence (scoring : ScoringResult) (id : Uuid) : AppendEvidenceInput :=
  Protection.userEvidence user spec.entityType id spec.openedType
    (spec.openedDescription dto scoring) (spec.openedMetadata dto scoring)
    (spec.distinct_openedMetadata dto scoring)

/-- The pause of a row. -/
def CheckSpec.pause (scoring : ScoringResult) (id : Uuid) : StartPauseDto where
  riskLevel := scoring.level
  triggerType := spec.triggerType dto
  triggerSummary := spec.triggerSummary dto scoring.level
  durationSeconds := some spec.durationSeconds
  metadata := object [(spec.pauseKey, string id)]

/-- A level that triggers it pulls a Guardian Pause; its id goes onto the row later. -/
def CheckSpec.pullPause (scoring : ScoringResult) (id : Uuid) : Program (Option Uuid) :=
  if m.Triggers scoring.level then do
    let pause ← GuardianPauseService.start user (spec.pause dto scoring id)
    spec.feed user dto scoring.level
    return some pause.id
  else pure none

/-- The risk event of a row. -/
def CheckSpec.riskEvent (scoring : ScoringResult) (id evidenceEventId : Uuid) :
    RecordRiskEventInput where
  moduleSource := spec.moduleSource
  eventType := spec.riskEventType
  riskScore := scoring.score
  riskLevel := scoring.level
  triggerReason := spec.triggerReason dto scoring.level
  recommendedAction := recommendedAction spec.stopAction scoring.level
  detectedSignals := spec.detectedSignals dto
  sessionId := none
  metadata := object [(spec.riskEventKey, string id), ("evidenceEventId", string evidenceEventId)]

def checkWith : Program (CheckEvent m) := do
  let priorWarnings ← countWarnings m user.userId
  let scoring := spec.scoring dto priorWarnings
  let created ← spec.openEvent user dto priorWarnings scoring
  let evidenceEventId ← appendEvidence (spec.openedEvidence user dto scoring created.id)
  let guardianPauseEventId ← spec.pullPause user dto scoring created.id
  let _ ← RiskEventRecorderService.record user
    (spec.riskEvent dto scoring created.id evidenceEventId)
  spec.project dto scoring
  linkEvent m created.id evidenceEventId guardianPauseEventId

end Body

/-! ## ScamHold -/

namespace ScamHoldService

structure CheckScamHoldDto where
  transactionType : ScamHoldTransactionType
  amountMinor : Int
  currency : Text
  recipient : Text
  recipientRisk : Option Text
  urgencyDetected : Option Bool
  secrecyDetected : Option Bool
  activeCommunication : Option Bool
  metadata : Option Value

def scoring (dto : CheckScamHoldDto) (priorWarnings : Nat) : ScoringResult :=
  scoreScamHold {
    transactionType := dto.transactionType
    amountMinor := dto.amountMinor
    recipientRisk := some (dto.recipientRisk.getD "UNKNOWN")
    urgencyDetected := dto.urgencyDetected
    secrecyDetected := dto.secrecyDetected
    activeCommunication := dto.activeCommunication
    priorWarningsCount := priorWarnings }

def columns (dto : CheckScamHoldDto) : ScamHoldDetails × ScamHoldColumns :=
  ({ transactionType := dto.transactionType
     amountMinor := dto.amountMinor
     recipient := dto.recipient },
   { currency := dto.currency
     recipientRisk := dto.recipientRisk.getD "UNKNOWN"
     urgencyDetected := dto.urgencyDetected.getD false
     secrecyDetected := dto.secrecyDetected.getD false
     activeCommunication := dto.activeCommunication.getD false })

/-- The recipient is on the row, and not in the metadata. -/
def openedMetadata (dto : CheckScamHoldDto) (scoring : ScoringResult) : Value :=
  object (scoring.fields ++ [(utf16 "transactionType", string dto.transactionType.name)])

theorem distinct_openedMetadata (dto : CheckScamHoldDto) (scoring : ScoringResult) :
    (openedMetadata dto scoring).Distinct := by
  obtain ⟨hscore, hlevel, hbreakdown, -⟩ := scoring.distinct_fields
  refine ⟨?_, hscore, hlevel, hbreakdown, trivial, trivial⟩
  show List.Nodup [utf16 "riskScore", utf16 "riskLevel", utf16 "breakdown",
    utf16 "transactionType"]
  decide

def detectedSignals (dto : CheckScamHoldDto) : List Text :=
  (if dto.urgencyDetected = some true then ["urgency_detected"] else [])
    ++ (if dto.secrecyDetected = some true then ["secrecy_detected"] else [])
    ++ (if dto.activeCommunication = some true then ["active_communication"] else [])

def spec : CheckSpec .scamHold CheckScamHoldDto where
  scoring := scoring
  columns dto := some (columns dto)
  metadata := CheckScamHoldDto.metadata
  entityType := "SCAMHOLD"
  openedType := "SCAMHOLD_OPENED"
  openedDescription dto scoring :=
    utf16 "ScamHold opened: " ++ dto.transactionType.name ++ utf16 " " ++ scoring.level.name
      ++ utf16 " (score " ++ scoreText scoring.score ++ utf16 ")"
  openedMetadata := openedMetadata
  distinct_openedMetadata := distinct_openedMetadata
  triggerType _ := .scamHoldActive
  triggerSummary dto _ :=
    replaceFirst 0x5F 0x20 dto.transactionType.name ++ utf16 " flagged as CRITICAL risk"
  durationSeconds := 120
  pauseKey := "scamholdEventId"
  moduleSource := .scamHold
  riskEventType := "SCAMHOLD_CHECK"
  triggerReason dto level :=
    replaceFirst 0x5F 0x20 dto.transactionType.name ++ utf16 " flagged as " ++ level.name
      ++ utf16 " risk"
  stopAction := "DO_NOT_SEND"
  detectedSignals dto := some (detectedSignals dto)
  riskEventKey := "scamHoldEventId"
  feed _ _ _ := pure ()
  project _ _ := pure ()

def check : AuthenticatedUser → CheckScamHoldDto → Program (CheckEvent .scamHold) := checkWith spec

end ScamHoldService

/-! ## GiftCardGuard -/

namespace GiftCardGuardService

structure ScanGiftCardDto where
  cardBrand : Option Text
  /-- `some none` is a `null`, which the request may say. -/
  denominationMinor : Option (Option Int)
  currency : Option Text
  codeRevealRequested : Option Bool
  photoOfCodeRequested : Option Bool
  impersonationType : Option GiftCardGuardImpersonationType
  urgencyDetected : Option Bool
  secrecyDetected : Option Bool
  elderModeActive : Option Bool
  metadata : Option Value

def scoring (dto : ScanGiftCardDto) (priorWarnings : Nat) : ScoringResult :=
  scoreGiftCardGuard {
    codeRevealRequested := dto.codeRevealRequested
    photoOfCodeRequested := dto.photoOfCodeRequested
    impersonationType := dto.impersonationType
    urgencyDetected := dto.urgencyDetected
    secrecyDetected := dto.secrecyDetected
    elderModeActive := dto.elderModeActive
    priorWarningsCount := priorWarnings }

/-- `x !== undefined ? BigInt(x) : null`, which throws on a `null`. -/
def denominationColumn : Option (Option Int) → Option (Option Int)
  | none => some none
  | some none => none
  | some (some denomination) => some (some denomination)

def columns (dto : ScanGiftCardDto) : Option (GiftCardDetails × GiftCardColumns) :=
  (denominationColumn dto.denominationMinor).map fun denominationMinor =>
    ({ denominationMinor
       impersonationType := dto.impersonationType.getD .none },
     { cardBrand := dto.cardBrand
       currency := dto.currency.getD "USD"
       codeRevealRequested := dto.codeRevealRequested.getD false
       photoOfCodeRequested := dto.photoOfCodeRequested.getD false
       urgencyDetected := dto.urgencyDetected.getD false
       secrecyDetected := dto.secrecyDetected.getD false
       elderModeActive := dto.elderModeActive.getD false })

def openedMetadata (dto : ScanGiftCardDto) (scoring : ScoringResult) : Value :=
  object (scoring.fields ++ [(utf16 "cardBrand", ofNullable dto.cardBrand)])

theorem distinct_openedMetadata (dto : ScanGiftCardDto) (scoring : ScoringResult) :
    (openedMetadata dto scoring).Distinct := by
  obtain ⟨hscore, hlevel, hbreakdown, -⟩ := scoring.distinct_fields
  refine ⟨?_, hscore, hlevel, hbreakdown, distinct_ofNullable _, trivial⟩
  show List.Nodup [utf16 "riskScore", utf16 "riskLevel", utf16 "breakdown", utf16 "cardBrand"]
  decide

def triggerSummary (dto : ScanGiftCardDto) : Text :=
  match dto.impersonationType with
  | none | some .none => "Gift card request flagged as high-risk"
  | some impersonationType =>
    utf16 "Gift card requested by someone claiming " ++ spoken impersonationType.name

def spec : CheckSpec .giftCardGuard ScanGiftCardDto where
  scoring := scoring
  columns := columns
  metadata := ScanGiftCardDto.metadata
  entityType := "GIFTCARD_WARNING"
  openedType := "GIFTCARD_WARNING_OPENED"
  openedDescription _ scoring :=
    utf16 "GiftCardGuard scan: " ++ scoring.level.name ++ utf16 " (score "
      ++ scoreText scoring.score ++ utf16 ")"
  openedMetadata := openedMetadata
  distinct_openedMetadata := distinct_openedMetadata
  triggerType _ := .giftCardReveal
  triggerSummary dto _ := triggerSummary dto
  durationSeconds := 90
  pauseKey := "giftCardWarningId"
  moduleSource := .giftCardGuard
  riskEventType := "GIFTCARDGUARD_SCAN"
  triggerReason _ level := utf16 "Gift card request flagged as " ++ level.name ++ utf16 " risk"
  stopAction := "DO_NOT_PROCEED"
  detectedSignals _ := none
  riskEventKey := "giftCardWarningId"
  feed _ _ _ := pure ()
  project _ _ := pure ()

def scan : AuthenticatedUser → ScanGiftCardDto → Program (CheckEvent .giftCardGuard) :=
  checkWith spec

end GiftCardGuardService

/-! ## WalletGuard -/

namespace WalletGuardService

structure CheckWalletDto where
  network : WalletNetwork
  address : Text
  reputation : Option WalletReputation
  clipboardSwapDetected : Option Bool
  walletSwitched : Option Bool
  graphMatchScore : Option Int
  urgencyDetected : Option Bool
  secrecyDetected : Option Bool
  metadata : Option Value

def CheckWalletDto.addressValid (dto : CheckWalletDto) : Bool :=
  isAddressValid dto.network dto.address

/-- An address that is none is not ranked. -/
def scoring (dto : CheckWalletDto) (priorWarnings : Nat) : ScoringResult :=
  if dto.addressValid then
    scoreWalletGuard {
      reputation := some (dto.reputation.getD .unknown)
      clipboardSwapDetected := dto.clipboardSwapDetected
      walletSwitched := dto.walletSwitched
      graphMatchScore := dto.graphMatchScore
      urgencyDetected := dto.urgencyDetected
      secrecyDetected := dto.secrecyDetected
      priorWarningsCount := priorWarnings }
  else addressInvalid

def columns (dto : CheckWalletDto) : WalletDetails × WalletColumns :=
  ({ network := dto.network },
   { address := trim dto.address
     addressValid := dto.addressValid
     reputation := dto.reputation.getD .unknown
     clipboardSwapDetected := dto.clipboardSwapDetected.getD false
     walletSwitched := dto.walletSwitched.getD false
     graphMatchScore := dto.graphMatchScore
     urgencyDetected := dto.urgencyDetected.getD false
     secrecyDetected := dto.secrecyDetected.getD false })

/-- The address is on the row, and not in the metadata. -/
def openedMetadata (dto : CheckWalletDto) (scoring : ScoringResult) : Value :=
  object (scoring.fields ++ [(utf16 "network", string dto.network.name),
    (utf16 "addressValid", bool dto.addressValid)])

theorem distinct_openedMetadata (dto : CheckWalletDto) (scoring : ScoringResult) :
    (openedMetadata dto scoring).Distinct := by
  obtain ⟨hscore, hlevel, hbreakdown, -⟩ := scoring.distinct_fields
  refine ⟨?_, hscore, hlevel, hbreakdown, trivial, trivial, trivial⟩
  show List.Nodup [utf16 "riskScore", utf16 "riskLevel", utf16 "breakdown", utf16 "network",
    utf16 "addressValid"]
  decide

def triggerSummary (dto : CheckWalletDto) (level : RiskLevel) : Text :=
  if ¬ dto.addressValid then
    utf16 "Wallet address fails " ++ dto.network.name ++ utf16 " format check"
  else if dto.clipboardSwapDetected = some true then
    "Clipboard wallet was swapped between copy and paste"
  else dto.network.name ++ utf16 " wallet flagged as " ++ level.name ++ utf16 " risk"

/-- Project the wallet onto the fraud graph; a failure is only logged. -/
def projectWallet (toLowerCase : Text → Text) (dto : CheckWalletDto) (scoring : ScoringResult) :
    Program Unit :=
  tryCatch (do
      let _ ← (FraudGraph.recordNode toLowerCase {
        indicatorType := .cryptoWallet
        indicatorValue := dto.address
        category := some "CRYPTO_SCAM"
        riskScore := scoring.score }).onPart graphPart .graph
      return ())
    fun _ => pure ()

def spec (toLowerCase : Text → Text) : CheckSpec .walletGuard CheckWalletDto where
  scoring := scoring
  columns dto := some (columns dto)
  metadata := CheckWalletDto.metadata
  entityType := "WALLET_CHECK"
  openedType := "WALLET_CHECK_OPENED"
  openedDescription dto scoring :=
    utf16 "WalletGuard " ++ dto.network.name ++ utf16 ": " ++ scoring.level.name
      ++ utf16 " (score " ++ scoreText scoring.score ++ utf16 ", addressValid="
      ++ (if dto.addressValid then utf16 "true" else utf16 "false") ++ utf16 ")"
  openedMetadata := openedMetadata
  distinct_openedMetadata := distinct_openedMetadata
  triggerType dto :=
    if dto.walletSwitched = some true then .walletSwitch else .cryptoTransferRisk
  triggerSummary := triggerSummary
  durationSeconds := 90
  pauseKey := "walletCheckId"
  moduleSource := .walletGuard
  riskEventType := "WALLETGUARD_CHECK"
  triggerReason _ level := utf16 "Wallet transfer flagged as " ++ level.name ++ utf16 " risk"
  stopAction := "DO_NOT_PROCEED"
  detectedSignals _ := none
  riskEventKey := "walletCheckId"
  feed _ _ _ := pure ()
  project := projectWallet toLowerCase

def check (toLowerCase : Text → Text) :
    AuthenticatedUser → CheckWalletDto → Program (CheckEvent .walletGuard) :=
  checkWith (spec toLowerCase)

end WalletGuardService

/-! ## ClaimVerify -/

namespace ClaimVerifyService

structure VerifyClaimDto where
  claimType : ClaimVerifyType
  subject : Value
  domainAgeDays : Option Int
  locationMismatch : Option Bool
  imageReuseDetected : Option Bool
  scamPhraseScore : Option Int
  paymentPressure : Option Bool
  secrecyDetected : Option Bool
  urgencyDetected : Option Bool
  metadata : Option Value

/-- The scam category of a claim type. -/
def claimCategory : ClaimVerifyType → Option Text
  | .investment => some "INVESTMENT_SCAM"
  | .romance => some "ROMANCE_SCAM"
  | .charity => some "DONATION_SCAM"
  | .government => some "GOVERNMENT_IMPERSONATION"
  | .job | .workFromHome => some "FAKE_JOB_SCAM"
  | _ => none

def scoring (dto : VerifyClaimDto) (priorWarnings : Nat) : ScoringResult :=
  scoreClaimVerify {
    claimType := dto.claimType
    domainAgeDays := dto.domainAgeDays
    locationMismatch := dto.locationMismatch
    imageReuseDetected := dto.imageReuseDetected
    scamPhraseScore := dto.scamPhraseScore
    paymentPressure := dto.paymentPressure
    secrecyDetected := dto.secrecyDetected
    urgencyDetected := dto.urgencyDetected
    priorWarningsCount := priorWarnings }

def columns (dto : VerifyClaimDto) : ClaimDetails × ClaimColumns :=
  ({ claimType := dto.claimType },
   { subject := dto.subject
     domainAgeDays := dto.domainAgeDays
     locationMismatch := dto.locationMismatch.getD false
     imageReuseDetected := dto.imageReuseDetected.getD false
     scamPhraseScore := dto.scamPhraseScore
     paymentPressure := dto.paymentPressure.getD false
     secrecyDetected := dto.secrecyDetected.getD false
     urgencyDetected := dto.urgencyDetected.getD false })

/-- The subject is on the row, and not in the metadata. -/
def openedMetadata (dto : VerifyClaimDto) (scoring : ScoringResult) : Value :=
  object ((utf16 "claimType", string dto.claimType.name) :: scoring.fields)

theorem distinct_openedMetadata (dto : VerifyClaimDto) (scoring : ScoringResult) :
    (openedMetadata dto scoring).Distinct := by
  refine ⟨?_, trivial, scoring.distinct_fields⟩
  show List.Nodup [utf16 "claimType", utf16 "riskScore", utf16 "riskLevel", utf16 "breakdown"]
  decide

section Feed

variable (platform : ScamSignals.Platform) (user : AuthenticatedUser) (dto : VerifyClaimDto)
  (level : RiskLevel)

/-- The report of an indicator that a suspicious claim names. -/
def claimReport (indicator : ExtractedIndicator) : ScamSignals.IntakeOptions where
  dto := {
    indicatorType := indicator.indicatorType
    indicatorValue := indicator.indicatorValue
    category := claimCategory dto.claimType
    description := some (utf16 "Suspicious " ++ spoken dto.claimType.name
      ++ utf16 " claim flagged by ClaimVerify (" ++ level.name ++ utf16 ").")
    rawText := none
    geography := none }
  sourceType := .internal
  tenantId := some user.tenantId
  submittedByUserId := some user.userId
  origin := .internal "CLAIMVERIFY"
  ip := none

/-- A failed intake must not break the user's check. -/
def submitIndicator (indicator : ExtractedIndicator) : Program Unit :=
  tryCatch (do
      let _ ← (Clustering.intake platform (claimReport user dto level indicator)).onPart
        signalsPart .signals
      return ())
    fun _ => pure ()

/-- Feed the suspicious claim into signal intake, one indicator after the other. -/
def feedClaim : Program Unit :=
  (extractClaimIndicators platform.toLowerCase dto.subject).forM
    (submitIndicator platform user dto level)

end Feed

def spec (platform : ScamSignals.Platform) : CheckSpec .claimVerify VerifyClaimDto where
  scoring := scoring
  columns dto := some (columns dto)
  metadata := VerifyClaimDto.metadata
  entityType := "CLAIM_VERIFICATION"
  openedType := "CLAIM_VERIFICATION_OPENED"
  openedDescription dto scoring :=
    utf16 "ClaimVerify " ++ dto.claimType.name ++ utf16 ": " ++ scoring.level.name
      ++ utf16 " (score " ++ scoreText scoring.score ++ utf16 ")"
  openedMetadata := openedMetadata
  distinct_openedMetadata := distinct_openedMetadata
  triggerType _ := .suspiciousClaim
  triggerSummary dto level :=
    utf16 "Claim type " ++ spoken dto.claimType.name ++ utf16 " flagged as " ++ level.name
      ++ utf16 " risk"
  durationSeconds := 90
  pauseKey := "claimVerificationId"
  moduleSource := .claimVerify
  riskEventType := "CLAIMVERIFY_VERIFY"
  triggerReason _ level := utf16 "Claim verification flagged as " ++ level.name ++ utf16 " risk"
  stopAction := "DO_NOT_PROCEED"
  detectedSignals _ := none
  riskEventKey := "claimVerificationId"
  feed := feedClaim platform
  project _ _ := pure ()

def verify (platform : ScamSignals.Platform) :
    AuthenticatedUser → VerifyClaimDto → Program (CheckEvent .claimVerify) :=
  checkWith (spec platform)

end ClaimVerifyService

/-! ## Any module -/

/-- The request of a check. -/
abbrev CheckModule.Dto : CheckModule → Type
  | .scamHold => ScamHoldService.CheckScamHoldDto
  | .giftCardGuard => GiftCardGuardService.ScanGiftCardDto
  | .walletGuard => WalletGuardService.CheckWalletDto
  | .claimVerify => ClaimVerifyService.VerifyClaimDto

def CheckModule.scoring : (m : CheckModule) → m.Dto → Nat → ScoringResult
  | .scamHold => ScamHoldService.scoring
  | .giftCardGuard => GiftCardGuardService.scoring
  | .walletGuard => WalletGuardService.scoring
  | .claimVerify => ClaimVerifyService.scoring

/-- The request names a denomination that is `null`: no row is formed of it. -/
def CheckModule.Unreadable : (m : CheckModule) → m.Dto → Prop
  | .giftCardGuard, dto => dto.denominationMinor = some none
  | .scamHold, _ | .walletGuard, _ | .claimVerify, _ => False

def CheckModule.spec (platform : ScamSignals.Platform) : (m : CheckModule) → CheckSpec m m.Dto
  | .scamHold => ScamHoldService.spec
  | .giftCardGuard => GiftCardGuardService.spec
  | .walletGuard => WalletGuardService.spec platform.toLowerCase
  | .claimVerify => ClaimVerifyService.spec platform

/-- `check`, `scan` or `verify`. -/
def check (platform : ScamSignals.Platform) :
    (m : CheckModule) → AuthenticatedUser → m.Dto → Program (CheckEvent m)
  | .scamHold => ScamHoldService.check
  | .giftCardGuard => GiftCardGuardService.scan
  | .walletGuard => WalletGuardService.check platform.toLowerCase
  | .claimVerify => ClaimVerifyService.verify platform

theorem check_eq (platform : ScamSignals.Platform) (m : CheckModule) (user : AuthenticatedUser)
    (dto : m.Dto) : check platform m user dto = checkWith (m.spec platform) user dto := by
  cases m <;> rfl

end Checks
