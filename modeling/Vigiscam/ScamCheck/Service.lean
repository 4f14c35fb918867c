import Mathlib.Data.List.Infix
import Vigiscam.Concurrency.Part
import Vigiscam.Registry.Service

/-!
# The public scam check (`scam-check.service.ts`, `scam-check.scoring.ts`)

Anyone, without a login, checks an indicator. The answer is scored by a published entry of the
registry, by the signals on record and by the language of the submitted text
(`a1scamshield.detection.ts`).
-/

namespace ScamCheck

open Js Value Concurrency EvidenceVault
open Protection (RiskLevel)
open Registry (RegistryEntry levelForScore)
open ScamSignals (ScamSignal ScamSignalStatus normalizeIndicator indicatorName)

/-! ## Scam language -/

structure ScamPhrase where
  /-- Lowercased substring to look for. -/
  pattern : Text
  /-- The manipulation tactic this phrase represents. -/
  tactic : Text
  /-- The risk signal it contributes to the risk scorer. -/
  signal : Text

def SCAM_PHRASE_LIBRARY : List ScamPhrase :=
  [⟨"do not tell anyone", "SECRECY", "SECRECY"⟩,
    ⟨"don't tell anyone", "SECRECY", "SECRECY"⟩,
    ⟨"keep this between us", "SECRECY", "SECRECY"⟩,
    ⟨"safe account", "FAKE_BANK_INSTRUCTION", "FAKE_AUTHORITY"⟩,
    ⟨"move your money", "FAKE_BANK_INSTRUCTION", "FAKE_AUTHORITY"⟩,
    ⟨"you are under investigation", "FAKE_AUTHORITY_THREAT", "FAKE_AUTHORITY"⟩,
    ⟨"install anydesk", "REMOTE_ACCESS_REQUEST", "REMOTE_ACCESS"⟩,
    ⟨"anydesk", "REMOTE_ACCESS_REQUEST", "REMOTE_ACCESS"⟩,
    ⟨"teamviewer", "REMOTE_ACCESS_REQUEST", "REMOTE_ACCESS"⟩,
    ⟨"gift card", "GIFT_CARD_DEMAND", "GIFT_CARD_REQUEST"⟩,
    ⟨"read me the code", "GIFT_CARD_DEMAND", "GIFT_CARD_REQUEST"⟩,
    ⟨"arrest", "THREAT", "THREAT_LANGUAGE"⟩,
    ⟨"warrant", "THREAT", "THREAT_LANGUAGE"⟩,
    ⟨"legal action", "THREAT", "THREAT_LANGUAGE"⟩,
    ⟨"act now", "URGENCY", "URGENCY"⟩,
    ⟨"right now", "URGENCY", "URGENCY"⟩,
    ⟨"immediately", "URGENCY", "URGENCY"⟩,
    ⟨"before it is too late", "URGENCY", "URGENCY"⟩,
    ⟨"send crypto", "CRYPTO_DEMAND", "CRYPTO_TRANSFER"⟩,
    ⟨"bitcoin", "CRYPTO_DEMAND", "CRYPTO_TRANSFER"⟩,
    ⟨"wire transfer", "PAYMENT_DEMAND", "PAYMENT_PRESSURE"⟩,
    ⟨"do not hang up", "ISOLATION", "ISOLATION"⟩,
    ⟨"do not call your bank", "ISOLATION", "ISOLATION"⟩,
    ⟨"do not talk to your family", "ISOLATION", "ISOLATION"⟩]

structure ScamLanguageResult where
  /-- The phrases that match, with their tactics. -/
  «matches» : List (Text × Text)
  tactics : List Text
  signals : List Text

/-- Scan text against the phrase library. A `Set` keeps what was added first. -/
def detectScamLanguage (toLowerCase : Text → Text) (text : Text) : ScamLanguageResult :=
  let found := SCAM_PHRASE_LIBRARY.filter fun entry => entry.pattern <:+: toLowerCase text
  { «matches» := found.map fun entry => (entry.pattern, entry.tactic)
    tactics := (found.map ScamPhrase.tactic).eraseDups
    signals := (found.map ScamPhrase.signal).eraseDups }

/-! ## Scoring -/

/-- How much each signal status contributes to a scam-check score. -/
def STATUS_WEIGHT : ScamSignalStatus → Int
  | .verifiedScamIntelligence => 75
  | .publicSafeAlert => 75
  | .highRiskIndicator => 65
  | .patternMatch => 45
  | .underReview => 35
  | .suspiciousSignal => 30
  | .unverifiedReport => 15
  | .archived => 5
  | .rejected => 0

structure SignalMatch where
  status : ScamSignalStatus
  confidenceScore : Int
  reportCount : Nat
deriving DecidableEq

structure ScamCheckScoreInput where
  registryListed : Bool
  registryConfidence : Option Int
  signals : List SignalMatch
  languageSignalCount : Nat

/-- `signals.reduce`: the first of the signals whose status weighs most. -/
def strongest (first : SignalMatch) (rest : List SignalMatch) : SignalMatch :=
  rest.foldl (fun best s => if STATUS_WEIGHT s.status > STATUS_WEIGHT best.status then s else best)
    first

def totalReports (signals : List SignalMatch) : Nat := (signals.map SignalMatch.reportCount).sum

def scoreScamCheck (input : ScamCheckScoreInput) : Int × RiskLevel :=
  -- a published registry entry is verified, public-safe intelligence — strongest
  let listed : Int :=
    if input.registryListed then max 0 (max 80 (input.registryConfidence.getD 0)) else 0
  -- the strongest matching status, then more for volume
  let matched : Int := match input.signals with
    | [] => listed
    | first :: rest =>
      max listed (STATUS_WEIGHT (strongest first rest).status)
        + min 15 (totalReports (first :: rest) * 2)
  let score := min 100 (max 0 (matched + min 20 (input.languageSignalCount * 8)))
  (score, levelForScore score)

/-! ## The check -/

structure ScamCheckDto where
  indicatorType : IndicatorType
  indicatorValue : Text
  rawText : Option Text
  createReport : Option Bool

structure MatchedIntelligence where
  inPublicRegistry : Bool
  reportsOnRecord : Nat
  scamLanguageDetected : List Text
deriving DecidableEq

structure ScamCheckResponse where
  checkId : Uuid
  input : IndicatorType × Text
  riskScore : Int
  riskLevel : RiskLevel
  category : Option Text
  assessment : Text
  matchedIntelligence : MatchedIntelligence
  recommendedAction : Text
  safeNextSteps : List Text
  reportSubmitted : Bool
deriving DecidableEq

/-- A row of `scam_check_results`. -/
structure ScamCheckResult where
  id : Uuid
  inputType : IndicatorType
  inputValue : Text
  normalizedInput : Text
  riskScore : Int
  riskLevel : RiskLevel
  category : Option Text
  matchedRegistry : Value
  matchedSignals : Value
  suggestedAction : Text
  savedToEvidence : Bool

/-- The database, with the entries of the registry and the checks. -/
structure Store extends ScamSignals.Store where
  entries : List RegistryEntry
  results : List ScamCheckResult

/-- What a step does. -/
inductive CheckStep where
  /-- A step on the signals. -/
  | signal (l : ScamSignals.SignalStep)
  | read | create

abbrev Program (α : Type) := Prog Store CheckStep HttpError α

/-- The database without the registry and the checks. -/
def signalPart : Part Store ScamSignals.Store where
  get := Store.toStore
  set base s := { s with toStore := base }
  set_get _ := rfl
  get_set _ _ := rfl

/-- A program of intake, beside the checks. -/
def beside {α : Type} (p : ScamSignals.Program α) : Program α := p.onPart signalPart .signal

def read {α : Type} (f : Store → α) : Program α := Prog.act .read .internal fun s => (f s, s)

/-- `scamCheckResult.create`. -/
def createResult (row : Uuid → ScamCheckResult) : Program ScamCheckResult :=
  Prog.act .create .internal fun s =>
    let result := row (s.uuid s.issued)
    (result, { s with results := s.results ++ [result], issued := s.issued + 1 })

def recommendedAction : RiskLevel → Text
  | .critical => "STOP_DO_NOT_SEND_MONEY_OR_INFORMATION"
  | .high => "DO_NOT_PROCEED_VERIFY_INDEPENDENTLY"
  | .medium => "VERIFY_BEFORE_PROCEEDING"
  | .low => "PROCEED_WITH_NORMAL_CAUTION"

/-- Status-based safe language only — never a direct accusation. -/
def assessment : RiskLevel → Text
  | .critical => utf16 "This indicator matches verified scam intelligence or strong high-risk " ++
      utf16 "signals. Do not send money or share information."
  | .high => "This is a high-risk indicator and is very likely connected to a scam."
  | .medium => utf16 "This indicator shows suspicious signals. Treat it with caution and verify " ++
      utf16 "independently."
  | .low => utf16 "No verified scam intelligence matched this indicator. No strong scam signals " ++
      utf16 "were found — always stay cautious."

def safeNextSteps (level : RiskLevel) : List Text :=
  [utf16 "Do not send money, gift cards, or cryptocurrency based on this contact.",
    utf16 "Never share passwords, one-time codes, or banking details.",
    utf16 "Verify any request through an official channel you find yourself — not a number or " ++
      utf16 "link they gave you.",
    utf16 "If you feel rushed or pressured, pause — urgency is itself a common scam tactic."] ++
  if level = .high ∨ level = .critical then
    [utf16 "If money may already have been sent, contact your bank immediately.",
      utf16 "Report this to VIGISCAM and to your local authorities."]
  else []

/-! ### What a check finds -/

section Check

variable (platform : ScamSignals.Platform) (dto : ScamCheckDto)

def normalized : Text :=
  normalizeIndicator platform.toLowerCase dto.indicatorType dto.indicatorValue

/-- `registryEntry.findFirst`: verified, PUBLISHED, public-safe entries only. -/
def registryMatch (entries : List RegistryEntry) : Option RegistryEntry :=
  entries.find? fun entry => entry.normalizedIndicator = normalized platform dto
    && entry.indicatorType = dto.indicatorType && entry.status = .published

/-- `scamSignal.findMany` of the indicator, with `take: 50`. -/
def signalsOnRecord (signals : List ScamSignal) : List ScamSignal :=
  (signals.filter fun signal => signal.normalizedIndicator = normalized platform dto
    && signal.indicatorType = dto.indicatorType).take 50

def signalMatch (signal : ScamSignal) : SignalMatch where
  status := signal.status
  confidenceScore := signal.confidenceScore
  reportCount := signal.reportCount

/-- `signals.find((s) => s.category)?.category`. -/
def signalCategory (signals : List ScamSignal) : Option Text :=
  (signals.find? fun signal => (present signal.category).isSome).bind ScamSignal.category

/-- The text that is scanned for scam language. -/
def scannedText : Text :=
  dto.rawText.getD (if dto.indicatorType = .scamPhrase then dto.indicatorValue else [])

/-- What a check makes of the entry and the signals that it found. -/
def scoreOf (entry : Option RegistryEntry) (signals : List ScamSignal) : Int × RiskLevel :=
  scoreScamCheck {
    registryListed := entry.isSome
    registryConfidence := entry.map (·.confidenceScore)
    signals := signals.map signalMatch
    languageSignalCount :=
      (detectScamLanguage platform.toLowerCase (scannedText dto)).signals.length }

/-- The category of the published entry, or else the first one of a signal. -/
def categoryOf (entry : Option RegistryEntry) (signals : List ScamSignal) : Option Text :=
  (entry.map (·.category)).or (signalCategory signals)

/-- `matchedRegistry`. -/
def matchedRegistry : Option RegistryEntry → Value
  | none => .null
  | some entry => object [("id", string entry.id), ("status", string entry.status.name),
      ("category", string entry.category)]

def resultOf (entry : Option RegistryEntry) (signals : List ScamSignal) (id : Uuid) :
    ScamCheckResult :=
  let (score, level) := scoreOf platform dto entry signals
  { id
    inputType := dto.indicatorType
    inputValue := trim dto.indicatorValue
    normalizedInput := normalized platform dto
    riskScore := score
    riskLevel := level
    category := categoryOf entry signals
    matchedRegistry := matchedRegistry entry
    matchedSignals := object [("count", number (.ofInt signals.length)),
      ("totalReports", number (.ofInt (totalReports (signals.map signalMatch))))]
    suggestedAction := recommendedAction level
    savedToEvidence := true }

def checkMetadata (score : Int) (level : RiskLevel) (inPublicRegistry : Bool) : Value :=
  object [("riskScore", number (.ofInt score)), ("riskLevel", string level.name),
    ("inPublicRegistry", .bool inPublicRegistry)]

theorem distinct_checkMetadata (score : Int) (level : RiskLevel) (inPublicRegistry : Bool) :
    Distinct (checkMetadata score level inPublicRegistry) := by
  refine ⟨?_, trivial, trivial, trivial, trivial⟩
  show List.Nodup [utf16 "riskScore", utf16 "riskLevel", utf16 "inPublicRegistry"]
  decide

/-- The evidence of a check that is complete. -/
def checkEvent (result : ScamCheckResult) (inPublicRegistry : Bool) (ip : Option Text) :
    AppendEvidenceInput where
  tenantId := none
  actorId := none
  actorType := some "PUBLIC"
  entityType := "SCAM_CHECK"
  entityId := result.id
  eventType := "SCAM_CHECK_COMPLETED"
  eventDescription := utf16 "Public scam check on a " ++ indicatorName result.inputType
    ++ utf16 " scored " ++ (Number.ofInt result.riskScore).toText ++ utf16 " ("
    ++ result.riskLevel.name ++ utf16 ")"
  metadata := checkMetadata result.riskScore result.riskLevel inPublicRegistry
  ipAddress := ip
  deviceId := none
  metadata_distinct := distinct_checkMetadata ..

/-- A scam report is filed from the check, where it asks for one. -/
def fileReport (category : Option Text) (ip : Option Text) : Program Bool :=
  if dto.createReport = some true then do
    let _ ← beside (ScamSignals.submitReport platform {
      indicatorType := dto.indicatorType
      indicatorValue := dto.indicatorValue
      category
      description := none
      rawText := dto.rawText
      geography := none } ip)
    return true
  else pure false

def responseOf (entry : Option RegistryEntry) (signals : List ScamSignal) (checkId : Uuid)
    (reportSubmitted : Bool) : ScamCheckResponse :=
  let (score, level) := scoreOf platform dto entry signals
  { checkId
    input := (dto.indicatorType, dto.indicatorValue)
    riskScore := score
    riskLevel := level
    category := categoryOf entry signals
    assessment := assessment level
    matchedIntelligence := {
      inPublicRegistry := entry.isSome
      reportsOnRecord := signals.length
      scamLanguageDetected :=
        (detectScamLanguage platform.toLowerCase (scannedText dto)).tactics }
    recommendedAction := recommendedAction level
    safeNextSteps := safeNextSteps level
    reportSubmitted }

def check (ip : Option Text) : Program ScamCheckResponse := do
  let entry ← read fun s => registryMatch platform dto s.entries
  -- used to score only; raw content is never returned
  let signals ← read fun s => signalsOnRecord platform dto s.signals
  let result ← createResult (resultOf platform dto entry signals)
  beside (ScamSignals.appendEvidence (checkEvent result entry.isSome ip))
  let reportSubmitted ← fileReport platform dto (categoryOf entry signals) ip
  return responseOf platform dto entry signals result.id reportSubmitted

end Check

end ScamCheck
