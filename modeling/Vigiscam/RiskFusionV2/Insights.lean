import Vigiscam.Js.RegexLanguage
import Vigiscam.Js.Value
import Vigiscam.RiskFusion.Fusion

/-!
# Insights (`insights-stub.ts`, `insights.client.ts`)

Three engines say how far a fraud has come, in what state its victim is, and what comes next. The
external service answers where there is one; where it does not answer, and where there is none, a
stub answers by rules over the text of the session. `RiskFusion.fuseRiskScore` adds what the
answers weigh to the risk score of the session.
-/

namespace RiskFusion

open Js

deriving instance DecidableEq for FusionBreakdown

def FraudJourneyStage.name : FraudJourneyStage → Text
  | .initialContact => "INITIAL_CONTACT"
  | .trustBuilding => "TRUST_BUILDING"
  | .informationGathering => "INFORMATION_GATHERING"
  | .urgencyInjection => "URGENCY_INJECTION"
  | .paymentRequest => "PAYMENT_REQUEST"
  | .completed => "COMPLETED"
  | .intervened => "INTERVENED"

def VictimStateLabel.name : VictimStateLabel → Text
  | .calm => "CALM"
  | .confused => "CONFUSED"
  | .pressured => "PRESSURED"
  | .trusting => "TRUSTING"
  | .alarmed => "ALARMED"
  | .compromised => "COMPROMISED"

def PredictedAction.name : PredictedAction → Text
  | .requestPayment => "REQUEST_PAYMENT"
  | .requestRemoteAccess => "REQUEST_REMOTE_ACCESS"
  | .requestGiftCard => "REQUEST_GIFT_CARD"
  | .requestPersonalInfo => "REQUEST_PERSONAL_INFO"
  | .escalateUrgency => "ESCALATE_URGENCY"
  | .dropOff => "DROP_OFF"

end RiskFusion

namespace RiskFusionV2

open Js Value Protection
open RiskFusion (FraudJourneyStage VictimStateLabel PredictedAction)
open Regex hiding alt empty

/-! ## Verdicts -/

/-- `JourneyResult`, `VictimStateResult` and `PredictedMoveResult`. -/
structure Output (κ : Type) where
  verdict : κ
  confidence : Int
  modelVersion : Text
  /-- The field `evidence`, `signals` or `rationale`. -/
  detail : Value
  /-- The whole object. -/
  json : Value

structure InsightHints where
  transcript : Option Text
  notes : Option Text
  forceStage : Option FraudJourneyStage
  forceState : Option VictimStateLabel

/-- `${hints.transcript ?? ''} ${hints.notes ?? ''}`. -/
def InsightHints.text (hints : InsightHints) : Text :=
  hints.transcript.getD [] ++ utf16 " " ++ hints.notes.getD []

/-! ## Rules -/

/-- A rule, whose pattern is written without the `\b` at both of its ends. -/
structure InsightRule (κ : Type) where
  verdict : κ
  pattern : Regex
  keyword : Text

section Rules

variable {κ : Type} [DecidableEq κ]

def InsightRule.hits (text : Text) (rule : InsightRule κ) : Bool :=
  (between rule.pattern).test text

/-- One round of the loop over the rules: what is chosen, and the keywords that matched. -/
def tryRule (initial : κ) (text : Text) (found : κ × List Text) (rule : InsightRule κ) :
    κ × List Text :=
  if rule.hits text then
    -- the first rule wins
    (if found.1 = initial then rule.verdict else found.1, found.2 ++ [rule.keyword])
  else found

def tryRules (initial : κ) (rules : List (InsightRule κ)) (text : Text) : κ × List Text :=
  rules.foldl (tryRule initial text) (initial, [])

/-- The first rule that hits is chosen, and the keywords are those of all that do. -/
theorem tryRules_eq {initial : κ} {rules : List (InsightRule κ)} {text : Text}
    (hrules : ∀ rule ∈ rules, rule.verdict ≠ initial) :
    tryRules initial rules text =
      (((rules.find? (InsightRule.hits text)).map (·.verdict)).getD initial,
        (rules.filter (InsightRule.hits text)).map (·.keyword)) := by
  -- from a choice on, which is kept once it is made
  have hfrom : ∀ (chosen : κ) (matched : List Text),
      rules.foldl (tryRule initial text) (chosen, matched) =
        (if chosen = initial then
            ((rules.find? (InsightRule.hits text)).map (·.verdict)).getD initial
          else chosen,
          matched ++ (rules.filter (InsightRule.hits text)).map (·.keyword)) := by
    induction rules with
    | nil =>
      intro chosen matched
      by_cases h : chosen = initial <;> simp [h]
    | cons rule rules ih =>
      intro chosen matched
      obtain ⟨hrule, hrest⟩ := List.forall_mem_cons.mp hrules
      rw [List.foldl_cons, tryRule]
      by_cases hhits : rule.hits text
      · rw [if_pos hhits, ih hrest, List.find?_cons_of_pos hhits, List.filter_cons_of_pos hhits]
        by_cases h : chosen = initial <;> simp [h, hrule]
      · rw [if_neg hhits, ih hrest, List.find?_cons_of_neg hhits, List.filter_cons_of_neg hhits]
  rw [tryRules, hfrom, if_pos rfl, List.nil_append]

end Rules

/-- `{ matchedKeywords }`. -/
def matchedKeywords (keywords : List Text) : Value :=
  object [("matchedKeywords", array (keywords.map string))]

/-! ## Fraud journey -/

def STUB_JOURNEY_VERSION : Text := "fraud-journey-stub-1.0.0"

/-- `i'?ll` -/
def ill : Regex := chain [caseless "i", optional (caseless "'"), caseless "ll"]

def JOURNEY_RULES : List (InsightRule FraudJourneyStage) := [
  { verdict := .paymentRequest
    pattern := oneOf [caseless "payment", caseless "transfer", caseless "wire",
      spaced [caseless "gift", caseless "card"], strung [caseless "send", caseless "money"]]
    keyword := "payment-request" },
  { verdict := .urgencyInjection
    pattern := oneOf [caseless "urgent", strung [caseless "right", caseless "now"],
      caseless "immediately", strung [caseless "expires", caseless "today"]]
    keyword := "urgency" },
  { verdict := .informationGathering
    pattern := oneOf [strung [caseless "social", caseless "security"], caseless "ssn",
      caseless "password", strung [caseless "account", caseless "number"],
      strung [caseless "date", caseless "of", caseless "birth"]]
    keyword := "info-gathering" },
  { verdict := .trustBuilding
    pattern := oneOf [strung [caseless "trust", caseless "me"],
      strung [ill, caseless "help"], strung [caseless "i", caseless "understand"],
      strung [caseless "my", caseless "friend"]]
    keyword := "trust-building" }]

def journeyOutput (stage : FraudJourneyStage) (confidence : Int) (keywords : List Text) :
    Output FraudJourneyStage where
  verdict := stage
  confidence := confidence
  modelVersion := STUB_JOURNEY_VERSION
  detail := matchedKeywords keywords
  json := object [("stage", string stage.name), ("confidence", number (.ofInt confidence)),
    ("modelVersion", string STUB_JOURNEY_VERSION), ("evidence", matchedKeywords keywords)]

def stubAssessJourney (hints : InsightHints) : Output FraudJourneyStage :=
  match hints.forceStage with
  | some stage => journeyOutput stage 80 ["forced"]
  | none =>
    let (chosen, keywords) := tryRules .initialContact JOURNEY_RULES hints.text
    let confidence := if keywords.length = 0 then 35 else min 70 (35 + keywords.length * 12)
    journeyOutput chosen confidence keywords

/-! ## Victim state -/

def STUB_VICTIM_STATE_VERSION : Text := "victim-state-stub-1.0.0"

def VICTIM_RULES : List (InsightRule VictimStateLabel) := [
  { verdict := .compromised
    pattern := oneOf [
      strung [seq (caseless "ok") (optional (caseless "ay")), ill, caseless "do", caseless "it"],
      strung [caseless "alright", oneOf [caseless "then", caseless "fine"]],
      strung [ill, caseless "send", caseless "it"]]
    keyword := "compliance" },
  { verdict := .alarmed
    pattern := oneOf [caseless "scared", caseless "afraid", caseless "threatened",
      caseless "panic", caseless "terrified"]
    keyword := "fear" },
  { verdict := .pressured
    pattern := oneOf [
      strung [caseless "let", caseless "me", oneOf [caseless "think", caseless "check"]],
      caseless "wait",
      strung [caseless "but", chain [caseless "i", optional (caseless "'"), caseless "m"],
        caseless "not", caseless "sure"]]
    keyword := "hesitation" },
  { verdict := .confused
    pattern := oneOf [caseless "confused",
      strung [chain [caseless "don", optional (caseless "'"), caseless "t"],
        caseless "understand"],
      strung [caseless "what", caseless "do", caseless "you", caseless "mean"], caseless "why"]
    keyword := "confusion" },
  { verdict := .trusting
    pattern := oneOf [strung [caseless "thank", caseless "you"],
      strung [caseless "that", caseless "makes", caseless "sense"],
      strung [caseless "i", caseless "believe", caseless "you"]]
    keyword := "trust" }]

def victimStateOutput (state : VictimStateLabel) (confidence : Int) (keywords : List Text) :
    Output VictimStateLabel where
  verdict := state
  confidence := confidence
  modelVersion := STUB_VICTIM_STATE_VERSION
  detail := matchedKeywords keywords
  json := object [("state", string state.name), ("confidence", number (.ofInt confidence)),
    ("modelVersion", string STUB_VICTIM_STATE_VERSION), ("signals", matchedKeywords keywords)]

def stubAssessVictimState (hints : InsightHints) : Output VictimStateLabel :=
  match hints.forceState with
  | some state => victimStateOutput state 80 ["forced"]
  | none =>
    let (chosen, keywords) := tryRules .calm VICTIM_RULES hints.text
    let confidence := if keywords.length = 0 then 40 else min 70 (40 + keywords.length * 10)
    victimStateOutput chosen confidence keywords

/-! ## Predicted next move -/

def STUB_PREDICTED_MOVE_VERSION : Text := "predicted-move-stub-1.0.0"

def NEXT_MOVE_MAP : FraudJourneyStage → PredictedAction
  | .initialContact => .requestPersonalInfo
  | .trustBuilding => .requestPersonalInfo
  | .informationGathering => .escalateUrgency
  | .urgencyInjection => .requestPayment
  | .paymentRequest => .requestGiftCard
  | .completed => .dropOff
  | .intervened => .dropOff

def moveRationale (currentStage : FraudJourneyStage) (action : PredictedAction) : Text :=
  utf16 "Stage " ++ currentStage.name ++ utf16 " typically progresses to " ++ action.name

def stubPredictNextMove (currentStage : FraudJourneyStage) : Output PredictedAction :=
  let action := NEXT_MOVE_MAP currentStage
  let confidence : Int := if action = .dropOff then 40 else 55
  { verdict := action
    confidence := confidence
    modelVersion := STUB_PREDICTED_MOVE_VERSION
    detail := string (moveRationale currentStage action)
    json := object [("action", string action.name), ("confidence", number (.ofInt confidence)),
      ("modelVersion", string STUB_PREDICTED_MOVE_VERSION),
      ("rationale", string (moveRationale currentStage action))] }

/-! ## The client -/

inductive InsightSource where
  | stub | external
deriving DecidableEq

structure InsightResult (κ : Type) where
  output : Output κ
  source : InsightSource

/-- External or stub: `reply` is what the service answers, where it is asked and answers well. -/
def callInsights {κ : Type} (baseUrl : Option Text) (reply : Option (Output κ))
    (stub : Output κ) : InsightResult κ :=
  match present baseUrl, reply with
  | some _, some output => ⟨output, .external⟩
  | some _, none | none, _ => ⟨stub, .stub⟩

end RiskFusionV2
