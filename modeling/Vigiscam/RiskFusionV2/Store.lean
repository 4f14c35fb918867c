import Vigiscam.Common.Columns
import Vigiscam.Concurrency.Contract
import Vigiscam.Concurrency.Issued
import Vigiscam.Concurrency.Part
import Vigiscam.EvidenceVault.Json
import Vigiscam.EvidenceVault.Service
import Vigiscam.ModelGovernance.Feedback
import Vigiscam.RiskFusionV2.Insights

/-!
# What is known of a session

The assessments of the engines, the authenticity checks and the fused assessments of a session are
rows that are only ever added. Every answer of an engine goes on record as a decision, which
reviewers label.
-/

namespace RiskFusionV2

open Js Value Protection Concurrency EvidenceVault
open ModelGovernance (AIReviewerLabel)
open RiskFusion (FraudJourneyStage FusionBreakdown FusionResult PredictedAction Session
  VictimStateLabel fuseRiskScore)

/-! ## Rows -/

/-- `FraudJourneyAssessment`, `VictimStateAssessment` and `PredictedNextMove`. -/
structure Assessment (κ : Type) where
  id : Uuid
  sessionId : Uuid
  verdict : κ
  confidence : Int
  modelVersion : Text
  source : InsightSource
  detail : Value

inductive AuthenticityCheckType where
  | liveFaceSeal | voiceMatchSeal | sceneSeal | camViguard | dualAuth | antiFakeVideo
deriving DecidableEq

def AuthenticityCheckType.name : AuthenticityCheckType → Text
  | .liveFaceSeal => "LIVE_FACE_SEAL"
  | .voiceMatchSeal => "VOICE_MATCH_SEAL"
  | .sceneSeal => "SCENE_SEAL"
  | .camViguard => "CAM_VIGUARD"
  | .dualAuth => "DUAL_AUTH"
  | .antiFakeVideo => "ANTI_FAKE_VIDEO"

inductive AuthenticityResult where
  | pass | fail | inconclusive
deriving DecidableEq

def AuthenticityResult.name : AuthenticityResult → Text
  | .pass => "PASS"
  | .fail => "FAIL"
  | .inconclusive => "INCONCLUSIVE"

structure AuthenticityCheck where
  id : Uuid
  sessionId : Uuid
  checkType : AuthenticityCheckType
  result : AuthenticityResult
  score : Int
  modelVersion : Text
  source : InsightSource
  metadata : Value
  requestedByUserId : Uuid

structure RiskFusionAssessment where
  id : Uuid
  sessionId : Uuid
  fusedScore : Int
  fusedLevel : RiskLevel
  breakdown : FusionBreakdown
  fusedVersion : Text

inductive AIDecisionReviewStatus where
  | pending | confirmed | corrected | notRequired
deriving DecidableEq

/-- The columns that a review writes. -/
structure DecisionReview where
  reviewStatus : AIDecisionReviewStatus
  reviewerLabel : Option AIReviewerLabel
  reviewedByUserId : Option Uuid
  reviewedAt : Option Int
  reviewNotes : Option Text
deriving DecidableEq

def DecisionReview.pending : DecisionReview := ⟨.pending, none, none, none, none⟩

structure AIDecision where
  id : Uuid
  serviceKind : Text
  modelVersion : Text
  source : InsightSource
  entityType : Text
  entityId : Uuid
  inputDigest : Text
  inputSnippet : Text
  output : Value
  confidence : Int
  durationMs : Int
  requiresHumanReview : Bool
  review : DecisionReview

/-- What a reviewer has said of a decision. -/
structure ModelFeedback where
  aiDecisionId : Uuid
  serviceKind : Text
  modelVersion : Text
  reviewerLabel : AIReviewerLabel
  correctedOutput : Option Value
  notes : Option Text
  reviewedByUserId : Uuid

structure AuditLog where
  actorId : Uuid
  actorType : Text
  action : Text
  targetType : Text
  targetId : Uuid
  metadata : Value

/-! ## State and steps -/

abbrev AssessmentTable (κ : Type) : Type := Table.Issued Uuid (Assessment κ) Assessment.id

structure Store where
  /-- They belong to another service. -/
  sessions : List Session
  journeys : AssessmentTable FraudJourneyStage
  victimStates : AssessmentTable VictimStateLabel
  moves : AssessmentTable PredictedAction
  checks : Table.Issued Uuid AuthenticityCheck AuthenticityCheck.id
  fusions : Table.Issued Uuid RiskFusionAssessment RiskFusionAssessment.id
  decisions : Table.Issued Uuid AIDecision AIDecision.id
  feedback : List ModelFeedback
  auditLogs : List AuditLog
  evidence : List AppendEvidenceInput
  now : Int

/-- How the service is set up: where the engines are, and what hashes texts. -/
structure Platform where
  aiServiceUrl : Option Text
  sha256 : Text → Text

inductive Step where
  | read | create | audit | append | review | world
deriving DecidableEq

abbrev Program := Prog Store Step HttpError

def read {α : Type} (f : Store → α) : Program α := Prog.act .read .internal fun s => (f s, s)

def journeyTable : Part Store (AssessmentTable FraudJourneyStage) where
  get s := s.journeys
  set journeys s := { s with journeys }
  set_get _ := rfl
  get_set _ _ := rfl

def victimStateTable : Part Store (AssessmentTable VictimStateLabel) where
  get s := s.victimStates
  set victimStates s := { s with victimStates }
  set_get _ := rfl
  get_set _ _ := rfl

def moveTable : Part Store (AssessmentTable PredictedAction) where
  get s := s.moves
  set moves s := { s with moves }
  set_get _ := rfl
  get_set _ _ := rfl

/-- The row of an answer. -/
def assessed {κ : Type} (sessionId : Uuid) (result : InsightResult κ) (id : Uuid) :
    Assessment κ where
  id := id
  sessionId := sessionId
  verdict := result.output.verdict
  confidence := result.output.confidence
  modelVersion := result.output.modelVersion
  source := result.source
  detail := result.output.detail

def insertAssessment {κ : Type} (table : Part Store (AssessmentTable κ)) (sessionId : Uuid)
    (result : InsightResult κ) : Program (Assessment κ) :=
  Prog.act .create .internal fun s =>
    (assessed sessionId result (table.get s).next,
      table.set ((table.get s).add (assessed sessionId result (table.get s).next) rfl) s)

/-- What a decision says of an answer, besides how long it took. -/
structure DecisionData where
  serviceKind : Text
  modelVersion : Text
  source : InsightSource
  entityType : Text
  entityId : Uuid
  inputDigest : Text
  inputSnippet : Text
  output : Value
  confidence : Int
  requiresHumanReview : Bool

def DecisionData.row (data : DecisionData) (durationMs : Int) (id : Uuid) : AIDecision where
  id := id
  serviceKind := data.serviceKind
  modelVersion := data.modelVersion
  source := data.source
  entityType := data.entityType
  entityId := data.entityId
  inputDigest := data.inputDigest
  inputSnippet := data.inputSnippet
  output := data.output
  confidence := data.confidence
  durationMs := durationMs
  requiresHumanReview := data.requiresHumanReview
  review := .pending

theorem DecisionData.id_row (data : DecisionData) (durationMs : Int) (id : Uuid) :
    (data.row durationMs id).id = id := rfl

def Store.decided (s : Store) (data : DecisionData) (start : Int) : Store :=
  { s with
    decisions := s.decisions.add (data.row (s.now - start) s.decisions.next)
      (data.id_row (s.now - start) s.decisions.next) }

/-- `aIDecision.create`. -/
def insertDecision (data : DecisionData) (start : Int) : Program Unit :=
  Prog.act .audit .internal fun s => ((), s.decided data start)

def appendEvidence (input : AppendEvidenceInput) : Program Unit :=
  Prog.act .append .internal fun s => ((), { s with evidence := s.evidence ++ [input] })

/-- The sessions change, and time goes on. -/
def changeWorld (sessions : List Session) (now : Int) : Program Unit :=
  Prog.act .world .internal fun s => ((), { s with sessions, now })

/-! ## Fusion (`risk-fusion-v2.service.ts`) -/

def SNIPPET_LEN : Nat := 200

/-- A field that is left out where it is not given. -/
def optionalField (key : Text) : Option Text → List (Text × Value)
  | none => []
  | some text => [(key, string text)]

def InsightHints.value (hints : InsightHints) : Value :=
  object (optionalField "transcript" hints.transcript ++ optionalField "notes" hints.notes ++
    optionalField "forceStage" (hints.forceStage.map (·.name)) ++
    optionalField "forceState" (hints.forceState.map (·.name)))

structure FuseRequest where
  sessionId : Uuid
  hints : InsightHints

/-- What the external service answers to the calls of a request, where it is asked. -/
structure InsightReplies where
  journey : Option (Output FraudJourneyStage)
  victimState : Option (Output VictimStateLabel)
  move : Option (Output PredictedAction)

def FuseRequest.inputDigest (p : Platform) (req : FuseRequest) : Text :=
  p.sha256 (jsonStringify
    (object [("sessionId", string req.sessionId), ("hints", req.hints.value)]))

def FuseRequest.inputSnippet (req : FuseRequest) : Text :=
  (jsonStringify req.hints.value).take SNIPPET_LEN

/-- The decision of an engine on a session. -/
def insightData {κ : Type} (p : Platform) (req : FuseRequest) (kind : Text)
    (result : InsightResult κ) : DecisionData where
  serviceKind := kind
  modelVersion := result.output.modelVersion
  source := result.source
  entityType := "SESSION"
  entityId := req.sessionId
  inputDigest := req.inputDigest p
  inputSnippet := req.inputSnippet
  output := result.output.json
  confidence := result.output.confidence
  requiresHumanReview := false

/-- An answer is stored, and goes on record. -/
def recordInsight {κ : Type} (p : Platform) (req : FuseRequest)
    (table : Part Store (AssessmentTable κ)) (kind : Text) (result : InsightResult κ) :
    Program (Assessment κ) := do
  let start ← read (·.now)
  let row ← insertAssessment table req.sessionId result
  insertDecision (insightData p req kind result) start
  return row

def fusionRow (sessionId : Uuid) (fusion : FusionResult) (id : Uuid) : RiskFusionAssessment where
  id := id
  sessionId := sessionId
  fusedScore := fusion.fusedScore
  fusedLevel := fusion.fusedLevel
  breakdown := fusion.breakdown
  fusedVersion := fusion.fusedVersion

def insertFusion (sessionId : Uuid) (fusion : FusionResult) : Program RiskFusionAssessment :=
  Prog.act .create .internal fun s =>
    (fusionRow sessionId fusion s.fusions.next,
      { s with fusions := s.fusions.add (fusionRow sessionId fusion s.fusions.next) rfl })

structure FuseResponse where
  fusion : RiskFusionAssessment
  journey : Assessment FraudJourneyStage
  victimState : Assessment VictimStateLabel
  predictedMove : Assessment PredictedAction

/-- The failed authenticity checks of a session. -/
def failuresOf (sessionId : Uuid) (checks : List AuthenticityCheck) : Nat :=
  checks.countP fun check => check.sessionId = sessionId ∧ check.result = .fail

def journeyOf (p : Platform) (req : FuseRequest) (replies : InsightReplies) :
    InsightResult FraudJourneyStage :=
  callInsights p.aiServiceUrl replies.journey (stubAssessJourney req.hints)

def victimStateOf (p : Platform) (req : FuseRequest) (replies : InsightReplies) :
    InsightResult VictimStateLabel :=
  callInsights p.aiServiceUrl replies.victimState (stubAssessVictimState req.hints)

def moveOf (p : Platform) (req : FuseRequest) (replies : InsightReplies) :
    InsightResult PredictedAction :=
  callInsights p.aiServiceUrl replies.move
    (stubPredictNextMove (journeyOf p req replies).output.verdict)

/-- What is fused for a session of a risk score, with so many failed checks. -/
def fusionOf (p : Platform) (req : FuseRequest) (replies : InsightReplies) (baseScore : Int)
    (failures : Nat) : FusionResult :=
  fuseRiskScore {
    baseScore := baseScore
    stage := (journeyOf p req replies).output.verdict
    victimState := (victimStateOf p req replies).output.verdict
    predictedAction := (moveOf p req replies).output.verdict
    authenticityFailures := failures }

/-- The engines are asked, and what they answer is fused. -/
def fuse (p : Platform) (req : FuseRequest) (replies : InsightReplies) : Program FuseResponse := do
  match ← read fun s => Table.find Session.id req.sessionId s.sessions with
  | none => throw (.notFound "Session not found")
  | some session =>
    let journey ← recordInsight p req journeyTable "FRAUD_JOURNEY" (journeyOf p req replies)
    let victimState ← recordInsight p req victimStateTable "VICTIM_STATE"
      (victimStateOf p req replies)
    let predictedMove ← recordInsight p req moveTable "PREDICTED_NEXT_MOVE" (moveOf p req replies)
    let failures ← read fun s => failuresOf req.sessionId s.checks.rows
    let fusion ← insertFusion req.sessionId
      (fusionOf p req replies session.riskScore failures)
    return ⟨fusion, journey, victimState, predictedMove⟩

end RiskFusionV2
