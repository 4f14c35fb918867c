import Vigiscam.Concurrency.Prog
import Vigiscam.Concurrency.Table
import Vigiscam.EvidenceVault.Service
import Vigiscam.ScamSignals.Normalization

/-!
# Scam-signal intake (`scam-signals.service.ts`)

A report is normalized, merged into the signal of its indicator or stored as a new one,
scored, linked to a cluster, and queued for review where its status says so. Reports of the
public, of partners and of other modules share one private intake.

What intake hands to the classifier, the embeddings, the fraud graph and the OSINT sources
is best-effort, and writes no table that is here.
-/

namespace ScamSignals

open Js Value Concurrency EvidenceVault

/-! ## Rows -/

inductive ScamSignalStatus where
  | unverifiedReport | suspiciousSignal | patternMatch | underReview | highRiskIndicator
  | verifiedScamIntelligence | publicSafeAlert | archived | rejected
deriving DecidableEq

inductive SignalSourceType where
  | userReport | partnerReport | bankReport | investigator | governmentAdvisory | publicWeb
  | internal
deriving DecidableEq

inductive TenantType where
  | «public» | personal | family | bank | platform | investigator | agency | enterprise | internal
deriving DecidableEq

inductive ReviewQueueStatus where
  | pending | inReview | completed
deriving DecidableEq

/-- The decisions a reviewer can make on a scam signal. -/
inductive ReviewDecision where
  | markUnderReview | markHighRisk | promoteToVerified | reject | archive
deriving DecidableEq

structure ScamSignal where
  id : Uuid
  tenantId : Option Uuid
  submittedByUserId : Option Uuid
  sourceType : SignalSourceType
  category : Option Text
  indicatorType : IndicatorType
  indicatorValue : Text
  normalizedIndicator : Text
  description : Option Text
  rawText : Option Text
  reportCount : Nat
  confidenceScore : Int
  sourceReliabilityScore : Int
  evidenceStrengthScore : Int
  recencyScore : Int
  status : ScamSignalStatus
  geography : Option Text
  firstSeen : Date
  lastSeen : Date
  clusterId : Option Uuid
  publicSafeCandidate : Bool

/-- A row of `registry_review_queue`. -/
structure RegistryReviewQueue where
  id : Uuid
  signalId : Option Uuid
  reviewStatus : ReviewQueueStatus
  publicSafe : Bool
  assignedToUserId : Option Uuid
  reviewNotes : Option Text
  decision : Option ReviewDecision

/-- A message for the partner whose signal was verified. -/
structure SignalVerified where
  tenantId : Uuid
  signalId : Uuid
  indicatorType : IndicatorType
  indicatorValue : Text
  status : ScamSignalStatus
  confidenceScore : Int

/-- The database; rows are in the order of their creation. -/
structure Store where
  signals : List ScamSignal
  queue : List RegistryReviewQueue
  /-- `baseReliabilityScore`, by source. -/
  profiles : SignalSourceType → Option Int
  tenants : Uuid → Option TenantType
  evidence : List AppendEvidenceInput
  published : List SignalVerified
  now : Date
  uuid : Nat → Uuid
  issued : Nat

/-- What a step does. -/
inductive SignalStep where
  | read | create | queue | append | publish
  /-- A report is merged into a signal. -/
  | merge (id : Uuid)
  /-- A signal is linked to a cluster. -/
  | link (id : Uuid)
  /-- A reviewer's decision sets the status of a signal. -/
  | decide (id : Uuid) (status : ScamSignalStatus)

abbrev Program (α : Type) := Prog Store SignalStep HttpError α

/-- What intake uses from outside. -/
structure Platform where
  toLowerCase : Text → Text
  /-- The cluster that `clusterSignal` finds or creates for a signal, if any. -/
  clusterOf : ScamSignal → Option Uuid

/-! ## Names in texts -/

def indicatorName : IndicatorType → Text
  | .phone => "PHONE"
  | .email => "EMAIL"
  | .domain => "DOMAIN"
  | .url => "URL"
  | .cryptoWallet => "CRYPTO_WALLET"
  | .scamPhrase => "SCAM_PHRASE"
  | .fakeCompany => "FAKE_COMPANY"
  | .socialProfile => "SOCIAL_PROFILE"
  | .other => "OTHER"

def SignalSourceType.name : SignalSourceType → Text
  | userReport => "USER_REPORT"
  | partnerReport => "PARTNER_REPORT"
  | bankReport => "BANK_REPORT"
  | investigator => "INVESTIGATOR"
  | governmentAdvisory => "GOVERNMENT_ADVISORY"
  | publicWeb => "PUBLIC_WEB"
  | internal => "INTERNAL"

def TenantType.name : TenantType → Text
  | .«public» => "PUBLIC"
  | .personal => "PERSONAL"
  | .family => "FAMILY"
  | .bank => "BANK"
  | .platform => "PLATFORM"
  | .investigator => "INVESTIGATOR"
  | .agency => "AGENCY"
  | .enterprise => "ENTERPRISE"
  | .internal => "INTERNAL"

/-! ## Scores -/

structure SignalScores where
  sourceReliabilityScore : Int
  evidenceStrengthScore : Int
  recencyScore : Int
  confidenceScore : Int

/-- `Math.round((base / 100) * 30)`, for the scores from 0 to 100. -/
def reliabilityOf (base : Int) : Int := (base * 30 + 50) / 100

/-- Confidence model: 0–100 from weighted sub-scores. -/
def scoreSignal (base : Int) (hasDescription hasRawText : Bool) (reportCount : Nat)
    (hasCategory : Bool) : SignalScores :=
  let evidenceStrengthScore : Int :=
    min 25 ((if hasDescription then 8 else 3) + if hasRawText then 6 else 0)
  let repeatOccurrence : Int := min 15 (reportCount * 3)
  let categoryMatch : Int := if hasCategory then 8 else 0
  { sourceReliabilityScore := reliabilityOf base
    evidenceStrengthScore
    recencyScore := 10
    confidenceScore := min 100
      (reliabilityOf base + evidenceStrengthScore + 10 + repeatOccurrence + categoryMatch) }

/-- Auto-triage status — none of these mean "verified". -/
def deriveStatus (reportCount : Nat) (confidence : Int) : ScamSignalStatus :=
  if reportCount ≥ 3 then .patternMatch
  else if confidence ≥ 55 then .suspiciousSignal
  else .unverifiedReport

/-! ## Steps -/

def read {α : Type} (f : Store → α) : Program α := Prog.act .read .internal fun s => (f s, s)

@[simp] theorem run_read {α : Type} (f : Store → α) (s : Store) :
    (read f).run s = (.ok (f s), s) := rfl

/-- `scamSignal.update` of one row; it throws when there is no such row. -/
def updateSignal (label : SignalStep) (id : Uuid) (f : Date → ScamSignal → ScamSignal) :
    Program ScamSignal :=
  Prog.attempt label .internal fun s =>
    (Table.find ScamSignal.id id s.signals).map fun signal =>
      (f s.now signal, { s with signals := Table.modify ScamSignal.id id (f s.now) s.signals })

/-- `scamSignal.create`. -/
def createSignal (row : Date → Uuid → ScamSignal) : Program ScamSignal :=
  Prog.attempt .create .internal fun s =>
    let signal := row s.now (s.uuid s.issued)
    if signal.id ∈ s.signals.map ScamSignal.id then none
    else some (signal, { s with signals := s.signals ++ [signal], issued := s.issued + 1 })

def createQueueItem (row : Uuid → RegistryReviewQueue) : Program RegistryReviewQueue :=
  Prog.act .queue .internal fun s =>
    let item := row (s.uuid s.issued)
    (item, { s with queue := s.queue ++ [item], issued := s.issued + 1 })

/-- `evidence.append`, by its input. -/
def appendEvidence (input : AppendEvidenceInput) : Program Unit :=
  Prog.act .append .internal fun s => ((), { s with evidence := s.evidence ++ [input] })

/-! ## `ScamSignalsService` -/

structure SubmitScamReportDto where
  indicatorType : IndicatorType
  indicatorValue : Text
  category : Option Text
  description : Option Text
  rawText : Option Text
  geography : Option Text

/-- What the evidence entry of a report records of its origin. -/
inductive Origin where
  | anonymous
  | partner (principal : PartnerPrincipal) (tenantType : TenantType)
  | internal (sourceModule : Text)

def Origin.actorType : Origin → Text
  | .anonymous => "PUBLIC"
  | .partner _ _ => "PARTNER"
  | .internal _ => "INTERNAL"

/-- `extraEvidenceMetadata`. -/
def Origin.metadata : Origin → List (Text × Value)
  | .anonymous => []
  | .partner p tenantType =>
    [("partnerKeyId", string p.keyId), ("partnerKeyPrefix", string p.keyPrefix),
      ("tenantType", string tenantType.name)]
  | .internal sourceModule => [("sourceModule", string sourceModule)]

structure IntakeOptions where
  dto : SubmitScamReportDto
  sourceType : SignalSourceType
  tenantId : Option Uuid
  submittedByUserId : Option Uuid
  origin : Origin
  ip : Option Text

/-- What every report records. -/
def reportFields (opts : IntakeOptions) (signal : ScamSignal) : List (Text × Value) :=
  [("indicatorType", string (indicatorName opts.dto.indicatorType)),
    ("reportCount", number (.ofInt signal.reportCount)),
    ("confidenceScore", number (.ofInt signal.confidenceScore)),
    ("sourceType", string opts.sourceType.name)]

/-- The metadata of a report that came in. -/
def reportMetadata (opts : IntakeOptions) (signal : ScamSignal) : Value :=
  object (reportFields opts signal ++ opts.origin.metadata)

theorem distinct_reportMetadata (opts : IntakeOptions) (signal : ScamSignal) :
    Distinct (reportMetadata opts signal) := by
  unfold reportMetadata
  cases opts.origin with
  | anonymous =>
    refine ⟨?_, trivial, trivial, trivial, trivial, trivial⟩
    show List.Nodup [utf16 "indicatorType", utf16 "reportCount", utf16 "confidenceScore",
      utf16 "sourceType"]
    decide
  | partner principal tenantType =>
    refine ⟨?_, trivial, trivial, trivial, trivial, trivial, trivial, trivial, trivial⟩
    show List.Nodup [utf16 "indicatorType", utf16 "reportCount", utf16 "confidenceScore",
      utf16 "sourceType", utf16 "partnerKeyId", utf16 "partnerKeyPrefix", utf16 "tenantType"]
    decide
  | internal sourceModule =>
    refine ⟨?_, trivial, trivial, trivial, trivial, trivial, trivial⟩
    show List.Nodup [utf16 "indicatorType", utf16 "reportCount", utf16 "confidenceScore",
      utf16 "sourceType", utf16 "sourceModule"]
    decide

/-- The evidence entry of a report. -/
def reportEvent (opts : IntakeOptions) (signal : ScamSignal) (isDuplicate : Bool) :
    AppendEvidenceInput where
  tenantId := opts.tenantId
  actorId := none
  actorType := some opts.origin.actorType
  entityType := "SCAM_SIGNAL"
  entityId := signal.id
  eventType := if isDuplicate then "SIGNAL_DUPLICATE_MERGED" else "SIGNAL_COLLECTED"
  eventDescription := utf16 "Scam report " ++
    (if isDuplicate then utf16 "merged into an existing" else utf16 "collected as a new") ++
    utf16 " signal (" ++ indicatorName opts.dto.indicatorType ++ utf16 ")"
  metadata := reportMetadata opts signal
  ipAddress := opts.ip
  deviceId := none
  metadata_distinct := distinct_reportMetadata ..

section Intake

variable (platform : Platform)

/-- The signal of a report's indicator: the oldest with its type and normalized form. -/
def findExisting (dto : SubmitScamReportDto) (s : Store) : Option ScamSignal :=
  let normalized := normalizeIndicator platform.toLowerCase dto.indicatorType dto.indicatorValue
  s.signals.find? fun x => x.normalizedIndicator = normalized && x.indicatorType = dto.indicatorType

/-- A report is counted on the signal that was found, and the signal is triaged again. -/
def mergeReport (dto : SubmitScamReportDto) (base : Int) (existing : ScamSignal) :
    Program ScamSignal :=
  let reportCount := existing.reportCount + 1
  let category := existing.category.or dto.category
  let description := existing.description.or dto.description
  let rawText := existing.rawText.or dto.rawText
  let scores := scoreSignal base (present description).isSome (present rawText).isSome reportCount
    (present category).isSome
  updateSignal (.merge existing.id) existing.id fun now signal =>
    { signal with
      reportCount
      lastSeen := now
      category
      description
      rawText
      sourceReliabilityScore := scores.sourceReliabilityScore
      evidenceStrengthScore := scores.evidenceStrengthScore
      recencyScore := scores.recencyScore
      confidenceScore := scores.confidenceScore
      -- whatever the status was, also one that a reviewer has set
      status := deriveStatus reportCount scores.confidenceScore }

/-- The row of a report whose indicator has no signal. -/
def newSignal (opts : IntakeOptions) (base : Int) (now : Date) (id : Uuid) : ScamSignal :=
  let dto := opts.dto
  let scores := scoreSignal base (present dto.description).isSome (present dto.rawText).isSome 1
    (present dto.category).isSome
  { id
    tenantId := opts.tenantId
    submittedByUserId := opts.submittedByUserId
    sourceType := opts.sourceType
    category := dto.category
    indicatorType := dto.indicatorType
    -- kept as it was given, beside the form by which reports are merged
    indicatorValue := trim dto.indicatorValue
    normalizedIndicator :=
      normalizeIndicator platform.toLowerCase dto.indicatorType dto.indicatorValue
    description := dto.description
    rawText := dto.rawText
    reportCount := 1
    confidenceScore := scores.confidenceScore
    sourceReliabilityScore := scores.sourceReliabilityScore
    evidenceStrengthScore := scores.evidenceStrengthScore
    recencyScore := scores.recencyScore
    status := deriveStatus 1 scores.confidenceScore
    geography := dto.geography
    firstSeen := now
    lastSeen := now
    clusterId := none
    publicSafeCandidate := false }

/-- The part of `clusterSignal` that writes the signal. -/
def clusterSignal (signal : ScamSignal) : Program Unit :=
  match platform.clusterOf signal with
  | none => pure ()
  | some clusterId =>
    if signal.clusterId = some clusterId then pure ()
    else do
      let _ ← updateSignal (.link signal.id) signal.id fun _ x =>
        { x with clusterId := some clusterId }
      return ()

/-- Best-effort: a clustering failure must never fail intake. -/
def clusterAndRefresh (signal : ScamSignal) : Program ScamSignal :=
  tryCatch
    (do
      clusterSignal platform signal
      let refreshed ← read fun s => Table.find ScamSignal.id signal.id s.signals
      return refreshed.getD signal)
    fun _ => pure signal

/-- An item of a signal that is not completed. -/
def isOpenItem (signalId : Uuid) (item : RegistryReviewQueue) : Bool :=
  item.signalId = some signalId && item.reviewStatus ≠ .completed

/-- High-risk signals are queued for internal review. -/
def queueForReview (signal : ScamSignal) : Program Unit :=
  if signal.status = .suspiciousSignal || signal.status = .patternMatch then do
    let queued ← read fun s => s.queue.find? (isOpenItem signal.id)
    match queued with
    | some _ => return ()
    | none =>
      let _ ← createQueueItem fun id => {
        id
        signalId := some signal.id
        reviewStatus := .pending
        publicSafe := false
        assignedToUserId := none
        reviewNotes := none
        decision := none }
      return ()
  else pure ()

/-- The signal that a report is merged into, or a new one; and whether it is merged. -/
def mergeOrCreate (opts : IntakeOptions) (base : Int) (existing : Option ScamSignal) :
    Program (ScamSignal × Bool) :=
  match existing with
  | some existing => (·, true) <$> mergeReport opts.dto base existing
  | none => (·, false) <$> createSignal (newSignal platform opts base)

/-- The private intake engine. -/
def intake (opts : IntakeOptions) : Program ScamSignal := do
  let base ← read fun s => (s.profiles opts.sourceType).getD 35
  let existing ← read (findExisting platform opts.dto)
  let (signal, isDuplicate) ← mergeOrCreate platform opts base existing
  appendEvidence (reportEvent opts signal isDuplicate)
  let signal ← clusterAndRefresh platform signal
  queueForReview signal
  return signal

/-! ### The three ways in -/

structure SubmitReportResult where
  status : Text
  message : Text
  signalId : Uuid

/-- Public intake — anonymous. The public response never leaks internal status. -/
def submitReport (dto : SubmitScamReportDto) (ip : Option Text) : Program SubmitReportResult := do
  let signal ← intake platform {
    dto
    sourceType := .userReport
    tenantId := none
    submittedByUserId := none
    origin := .anonymous
    ip }
  return {
    status := "UNVERIFIED_REPORT"
    message := utf16 "Report received. " ++
      utf16 "VIGISCAM will review and classify the signal before any public-safe use."
    signalId := signal.id }

/-- Internal module intake. -/
def submitFromModule (dto : SubmitScamReportDto) (tenantId submittedByUserId : Option Uuid)
    (sourceModule : Text) : Program ScamSignal :=
  intake platform {
    dto
    sourceType := .internal
    tenantId
    submittedByUserId
    origin := .internal sourceModule
    ip := none }

/-- Map a partner tenant's type to the right source type. -/
def partnerSourceTypeFor : TenantType → SignalSourceType
  | .bank => .bankReport
  | .agency => .governmentAdvisory
  | .investigator => .investigator
  | .internal => .internal
  | .«public» | .personal | .family | .platform | .enterprise => .partnerReport

structure PartnerReportResult where
  status : Text
  message : Text
  signalId : Uuid
  internalStatus : ScamSignalStatus
  clusterId : Option Uuid
  confidenceScore : Int

/-- Partner intake: tagged with the partner tenant and its source type. -/
def submitPartnerReport (partner : PartnerPrincipal) (dto : SubmitScamReportDto)
    (ip : Option Text) : Program PartnerReportResult := do
  let tenant ← read (·.tenants partner.tenantId)
  match tenant with
  | none => throw (.notFound "Partner tenant not found")
  | some type =>
    -- the tenant is the partner's own, never one from the request
    let signal ← intake platform {
      dto
      sourceType := partnerSourceTypeFor type
      tenantId := some partner.tenantId
      submittedByUserId := none
      origin := .partner partner type
      ip }
    return {
      status := "PARTNER_REPORT_ACCEPTED"
      message := "Partner report accepted and queued for review."
      signalId := signal.id
      internalStatus := signal.status
      clusterId := signal.clusterId
      confidenceScore := signal.confidenceScore }

end Intake

end ScamSignals
