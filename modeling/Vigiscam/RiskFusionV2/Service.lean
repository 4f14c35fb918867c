import Vigiscam.Js.Gather
import Vigiscam.Js.Property
import Vigiscam.RiskFusionV2.Store

/-!
# Checks and reviews (`authenticity.service.ts`, `ai-feedback.service.ts`)

An authenticity check is run by the external service where there is one, and by a stub otherwise;
one that needs an image or a recording is not run without. Reviewers confirm or correct what is on
record of the engines.
-/

namespace RiskFusionV2

open Js Value Protection Concurrency EvidenceVault
open ModelGovernance (AIReviewerLabel)
open RiskFusion (Session)

/-! ## Requests and answers -/

structure RequestAuthenticityCheckDto where
  sessionId : Uuid
  checkType : AuthenticityCheckType
  imageBase64 : Option Text
  imageUrl : Option Text
  frameBase64 : Option Text
  frameUrl : Option Text
  audioBase64 : Option Text
  audioUrl : Option Text
  evidenceRef : Option Text
  payload : Option (List (Text × Value))

/-- The media fields that are given. -/
def RequestAuthenticityCheckDto.media (dto : RequestAuthenticityCheckDto) : List (Text × Value) :=
  optionalField "imageBase64" dto.imageBase64 ++ optionalField "imageUrl" dto.imageUrl ++
    optionalField "frameBase64" dto.frameBase64 ++ optionalField "frameUrl" dto.frameUrl ++
    optionalField "audioBase64" dto.audioBase64 ++ optionalField "audioUrl" dto.audioUrl ++
    optionalField "evidenceRef" dto.evidenceRef

/-- `{ ...fields, ...others }`. -/
def spread (fields others : List (Text × Value)) : List (Text × Value) :=
  others.foldl (fun fields f => setEntry f.1 f.2 fields) fields

/-- The payload of the request to the service. -/
def RequestAuthenticityCheckDto.fields (dto : RequestAuthenticityCheckDto) :
    List (Text × Value) :=
  spread (dto.payload.getD []) dto.media

structure AuthenticityRequest where
  checkType : AuthenticityCheckType
  sessionId : Uuid
  payload : Option (List (Text × Value))

structure AuthenticityResponse where
  result : AuthenticityResult
  score : Int
  modelVersion : Text
  metadata : Option (List (Text × Value))
  decision : Option (List (Text × Value))
  /-- The whole object. -/
  json : Value

/-! ## The stub and the client (`authenticity-stub.ts`, `authenticity.client.ts`) -/

def STUB_AUTHENTICITY_VERSION : Text := "authenticity-stub-1.0.0"

def SUSPICION_KEYS : List Text := ["suspectedDeepfake", "suspectedSynthetic", "suspectedSpoof"]

/-- `payload[k] === true`. -/
def isTrueField (payload : List (Text × Value)) (k : Text) : Bool :=
  match fieldOf payload k with
  | Value.bool b => b
  | _ => false

def stubResponse (result : AuthenticityResult) (score : Int) (metadata : List (Text × Value)) :
    AuthenticityResponse where
  result := result
  score := score
  modelVersion := STUB_AUTHENTICITY_VERSION
  metadata := some metadata
  decision := none
  json := object [("result", string result.name), ("score", number (.ofInt score)),
    ("modelVersion", string STUB_AUTHENTICITY_VERSION), ("metadata", object metadata)]

def stubAuthenticityCheck (req : AuthenticityRequest) : AuthenticityResponse :=
  match req.payload with
  | none => stubResponse .inconclusive 50 [("stub", bool true), ("reason", string "no-payload")]
  | some payload =>
    if SUSPICION_KEYS.any (isTrueField payload) then
      stubResponse .fail 30 [("stub", bool true), ("suspicionFlagged", bool true)]
    else stubResponse .pass 70 [("stub", bool true)]

/-- External or stub, as `callInsights`. -/
def callAuthenticity (baseUrl : Option Text) (reply : Option AuthenticityResponse)
    (req : AuthenticityRequest) : AuthenticityResponse × InsightSource :=
  match present baseUrl, reply with
  | some _, some output => (output, .external)
  | some _, none | none, _ => (stubAuthenticityCheck req, .stub)

/-! ## Checks -/

def IMAGE_CHECKS : List AuthenticityCheckType := [.liveFaceSeal, .sceneSeal, .antiFakeVideo]

def VOICE_CHECKS : List AuthenticityCheckType := [.voiceMatchSeal]

def IMAGE_KEYS : List Text := ["imageBase64", "imageUrl", "frameBase64", "frameUrl"]

def AUDIO_KEYS : List Text := ["audioBase64", "audioUrl"]

def hasMedia (keys : List Text) (payload : List (Text × Value)) : Bool :=
  keys.any fun k => (fieldOf payload k).truthy

/-- The medium that the check needs, and is not given. -/
def missingMedia (checkType : AuthenticityCheckType) (payload : List (Text × Value)) :
    Option Text :=
  if checkType ∈ IMAGE_CHECKS ∧ ¬ hasMedia IMAGE_KEYS payload then some "image"
  else if checkType ∈ VOICE_CHECKS ∧ ¬ hasMedia AUDIO_KEYS payload then some "audio"
  else none

structure CheckData where
  sessionId : Uuid
  checkType : AuthenticityCheckType
  result : AuthenticityResult
  score : Int
  modelVersion : Text
  source : InsightSource
  metadata : Value
  requestedByUserId : Uuid

def CheckData.row (data : CheckData) (id : Uuid) : AuthenticityCheck where
  id := id
  sessionId := data.sessionId
  checkType := data.checkType
  result := data.result
  score := data.score
  modelVersion := data.modelVersion
  source := data.source
  metadata := data.metadata
  requestedByUserId := data.requestedByUserId

def insertCheck (data : CheckData) : Program AuthenticityCheck :=
  Prog.act .create .internal fun s =>
    (data.row s.checks.next, { s with checks := s.checks.add (data.row s.checks.next) rfl })

def actorTypeFor (actor : AuthenticatedUser) : Text :=
  match actor.role with
  | .superAdmin | .complianceOfficer => "ADMIN"
  | .reviewer => "REVIEWER"
  | _ => "STAFF"

def inconclusiveReason (checkType : AuthenticityCheckType) (missing : Text) : Text :=
  utf16 "No " ++ missing ++ utf16 " media supplied for " ++ checkType.name ++
    utf16 "; cannot run inference."

def inconclusiveData (actor : AuthenticatedUser) (req : AuthenticityRequest) (missing : Text) :
    CheckData where
  sessionId := req.sessionId
  checkType := req.checkType
  result := .inconclusive
  score := 0
  modelVersion := "no-media"
  source := .stub
  metadata := object [("check", string req.checkType.name),
    ("reason", string (inconclusiveReason req.checkType missing)),
    ("missingMedia", string missing)]
  requestedByUserId := actor.userId

def inconclusiveMetadata (req : AuthenticityRequest) (missing : Text) : Value :=
  object [("checkType", string req.checkType.name), ("result", string "INCONCLUSIVE"),
    ("reason", string (inconclusiveReason req.checkType missing)), ("source", string "STUB")]

theorem distinct_inconclusiveMetadata (req : AuthenticityRequest) (missing : Text) :
    Distinct (inconclusiveMetadata req missing) := by
  refine ⟨?_, trivial, trivial, trivial, trivial, trivial⟩
  show List.Nodup [utf16 "checkType", utf16 "result", utf16 "reason", utf16 "source"]
  decide

def inconclusiveEvent (actor : AuthenticatedUser) (tenantId : Uuid) (req : AuthenticityRequest)
    (missing : Text) : AppendEvidenceInput where
  tenantId := some tenantId
  actorId := some actor.userId
  actorType := some (actorTypeFor actor)
  entityType := "SESSION"
  entityId := req.sessionId
  eventType := utf16 "AUTHENTICITY_" ++ req.checkType.name
  eventDescription := req.checkType.name ++ utf16 " verdict: INCONCLUSIVE (" ++
    inconclusiveReason req.checkType missing ++ utf16 ")"
  metadata := inconclusiveMetadata req missing
  ipAddress := none
  deviceId := none
  metadata_distinct := distinct_inconclusiveMetadata req missing

/-- An honest verdict where the medium is missing. The event is best-effort. -/
def persistInconclusive (actor : AuthenticatedUser) (tenantId : Uuid) (req : AuthenticityRequest)
    (missing : Text) : Program AuthenticityCheck := do
  let verdict ← insertCheck (inconclusiveData actor req missing)
  tryCatch (appendEvidence (inconclusiveEvent actor tenantId req missing)) fun _ => pure ()
  return verdict

/-- The decision of the service is folded into the metadata of the verdict. -/
def verdictMetadata (output : AuthenticityResponse) : Value :=
  match output.metadata, output.decision with
  | none, none => null
  | some metadata, none => object metadata
  | metadata, some decision => object (setEntry "decision" (object decision) (metadata.getD []))

def checkData (actor : AuthenticatedUser) (req : AuthenticityRequest)
    (output : AuthenticityResponse) (source : InsightSource) : CheckData where
  sessionId := req.sessionId
  checkType := req.checkType
  result := output.result
  score := output.score
  modelVersion := output.modelVersion
  source := source
  metadata := verdictMetadata output
  requestedByUserId := actor.userId

def InsightSource.name : InsightSource → Text
  | .stub => "STUB"
  | .external => "EXTERNAL"

def inputCanonical (req : AuthenticityRequest) : Text :=
  jsonStringify (object [("checkType", string req.checkType.name),
    ("sessionId", string req.sessionId), ("payload", (req.payload.map object).getD null)])

def authenticityData (p : Platform) (req : AuthenticityRequest) (output : AuthenticityResponse)
    (source : InsightSource) : DecisionData where
  serviceKind := utf16 "AUTHENTICITY_" ++ req.checkType.name
  modelVersion := output.modelVersion
  source := source
  entityType := "SESSION"
  entityId := req.sessionId
  inputDigest := p.sha256 (inputCanonical req)
  inputSnippet := (inputCanonical req).take SNIPPET_LEN
  output := output.json
  confidence := output.score
  requiresHumanReview :=
    (output.decision.map fun decision => (fieldOf decision "requiresHumanReview").truthy).getD false

def verdictEventMetadata (req : AuthenticityRequest) (output : AuthenticityResponse)
    (source : InsightSource) : Value :=
  object [("checkType", string req.checkType.name), ("result", string output.result.name),
    ("score", number (.ofInt output.score)), ("modelVersion", string output.modelVersion),
    ("source", string source.name)]

theorem distinct_verdictEventMetadata (req : AuthenticityRequest) (output : AuthenticityResponse)
    (source : InsightSource) : Distinct (verdictEventMetadata req output source) := by
  refine ⟨?_, trivial, trivial, trivial, trivial, trivial, trivial⟩
  show List.Nodup [utf16 "checkType", utf16 "result", utf16 "score", utf16 "modelVersion",
    utf16 "source"]
  decide

def verdictEvent (actor : AuthenticatedUser) (session : Session) (req : AuthenticityRequest)
    (output : AuthenticityResponse) (source : InsightSource) : AppendEvidenceInput where
  tenantId := some session.tenantId
  actorId := some actor.userId
  actorType := some (actorTypeFor actor)
  entityType := "SESSION"
  entityId := session.id
  eventType := utf16 "AUTHENTICITY_" ++ req.checkType.name
  eventDescription := req.checkType.name ++ utf16 " verdict: " ++ output.result.name ++
    utf16 " (" ++ (Number.ofInt output.score).toText ++ utf16 ")"
  metadata := verdictEventMetadata req output source
  ipAddress := none
  deviceId := none
  metadata_distinct := distinct_verdictEventMetadata req output source

def RequestAuthenticityCheckDto.request (dto : RequestAuthenticityCheckDto) :
    AuthenticityRequest where
  checkType := dto.checkType
  sessionId := dto.sessionId
  payload := some dto.fields

/-- A check of a session that has been found. -/
def checkSession (p : Platform) (actor : AuthenticatedUser) (dto : RequestAuthenticityCheckDto)
    (reply : Option AuthenticityResponse) (session : Session) : Program AuthenticityCheck :=
  match missingMedia dto.checkType dto.fields with
  | some missing => persistInconclusive actor session.tenantId dto.request missing
  | none => do
    let start ← read (·.now)
    let (output, source) := callAuthenticity p.aiServiceUrl reply dto.request
    let verdict ← insertCheck (checkData actor dto.request output source)
    insertDecision (authenticityData p dto.request output source) start
    appendEvidence (verdictEvent actor session dto.request output source)
    return verdict

def runCheck (p : Platform) (actor : AuthenticatedUser) (dto : RequestAuthenticityCheckDto)
    (reply : Option AuthenticityResponse) : Program AuthenticityCheck := do
  match ← read fun s => Table.find Session.id dto.sessionId s.sessions with
  | none => throw (.notFound "Session not found")
  | some session => checkSession p actor dto reply session

/-! ## Reviews -/

def reviewerLabelName : AIReviewerLabel → Text
  | .confirmedCorrect => "CONFIRMED_CORRECT"
  | .falsePositive => "FALSE_POSITIVE"
  | .falseNegative => "FALSE_NEGATIVE"
  | .correctedCategory => "CORRECTED_CATEGORY"
  | .inconclusiveAccepted => "INCONCLUSIVE_ACCEPTED"

def AIDecisionReviewStatus.name : AIDecisionReviewStatus → Text
  | .pending => "PENDING"
  | .confirmed => "CONFIRMED"
  | .corrected => "CORRECTED"
  | .notRequired => "NOT_REQUIRED"

def LABEL_TO_STATUS : AIReviewerLabel → AIDecisionReviewStatus
  | .confirmedCorrect => .confirmed
  | .inconclusiveAccepted => .confirmed
  | .falsePositive => .corrected
  | .falseNegative => .corrected
  | .correctedCategory => .corrected

structure SubmitAiFeedbackDto where
  label : AIReviewerLabel
  notes : Option Text
  correctedOutput : Option Value

def AIDecision.reviewed (user : AuthenticatedUser) (dto : SubmitAiFeedbackDto) (now : Int)
    (decision : AIDecision) : AIDecision :=
  { decision with review := {
      reviewStatus := LABEL_TO_STATUS dto.label
      reviewerLabel := some dto.label
      reviewedByUserId := some user.userId
      reviewedAt := some now
      reviewNotes := dto.notes } }

theorem AIDecision.id_reviewed (user : AuthenticatedUser) (dto : SubmitAiFeedbackDto) (now : Int)
    (decision : AIDecision) : (decision.reviewed user dto now).id = decision.id := rfl

def feedbackOn (user : AuthenticatedUser) (dto : SubmitAiFeedbackDto) (decision : AIDecision) :
    ModelFeedback where
  aiDecisionId := decision.id
  serviceKind := decision.serviceKind
  modelVersion := decision.modelVersion
  reviewerLabel := dto.label
  correctedOutput := dto.correctedOutput
  notes := dto.notes
  reviewedByUserId := user.userId

def reviewLog (user : AuthenticatedUser) (dto : SubmitAiFeedbackDto) (decision : AIDecision) :
    AuditLog where
  actorId := user.userId
  actorType := "REVIEWER"
  action := "AI_DECISION_REVIEWED"
  targetType := "AI_DECISION"
  targetId := decision.id
  metadata := object [("label", string (reviewerLabelName dto.label)),
    ("serviceKind", string decision.serviceKind),
    ("reviewStatus", string (LABEL_TO_STATUS dto.label).name)]

def Store.reviewed (s : Store) (user : AuthenticatedUser) (dto : SubmitAiFeedbackDto)
    (decision : AIDecision) : Store :=
  { s with
    decisions := s.decisions.modify decision.id (AIDecision.reviewed user dto s.now)
      (AIDecision.id_reviewed user dto s.now)
    feedback := s.feedback ++ [feedbackOn user dto decision]
    auditLogs := s.auditLogs ++ [reviewLog user dto decision] }

/-- The transaction of a review, on the decision that has been read. -/
def storeReview (user : AuthenticatedUser) (dto : SubmitAiFeedbackDto) (decision : AIDecision) :
    Program AIDecision :=
  Prog.attempt .review .internal fun s =>
    (Table.find AIDecision.id decision.id s.decisions.rows).map fun row =>
      (row.reviewed user dto s.now, s.reviewed user dto decision)

def submitFeedback (user : AuthenticatedUser) (decisionId : Uuid) (dto : SubmitAiFeedbackDto) :
    Program AIDecision := do
  match ← read fun s => Table.find AIDecision.id decisionId s.decisions.rows with
  | none => throw (.notFound "AI decision not found")
  | some decision => storeReview user dto decision

/-! ## Calls -/

inductive Call where
  | fuse (req : FuseRequest) (replies : InsightReplies)
  | check (actor : AuthenticatedUser) (dto : RequestAuthenticityCheckDto)
      (reply : Option AuthenticityResponse)
  | feedback (user : AuthenticatedUser) (decisionId : Uuid) (dto : SubmitAiFeedbackDto)
  | world (sessions : List Session) (now : Int)

def Call.program (p : Platform) : Call → Program Unit
  | fuse req replies => do let _ ← RiskFusionV2.fuse p req replies
  | check actor dto reply => do let _ ← runCheck p actor dto reply
  | feedback user decisionId dto => do let _ ← submitFeedback user decisionId dto
  | world sessions now => changeWorld sessions now

/-- The calls at their start. -/
def calling {ι : Type} (p : Platform) (calls : ι → Call) (s : Store) :
    Pool ι Store (Program Unit) where
  shared := s
  locals i := (calls i).program p

end RiskFusionV2
