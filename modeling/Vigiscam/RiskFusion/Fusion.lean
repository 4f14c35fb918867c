import Vigiscam.Checks.Monotone
import Vigiscam.RiskFusion.Service

/-!
# Risk fusion (`risk-fusion-v2/fusion.ts`)

The score of a session is raised by the stage of the fraud, the state of the victim, the move that
is expected next, and the checks of authenticity that failed.
-/

namespace RiskFusion

open Js Protection Scores

inductive FraudJourneyStage where
  | initialContact | trustBuilding | informationGathering | urgencyInjection | paymentRequest
  | completed | intervened
deriving DecidableEq

inductive VictimStateLabel where
  | calm | confused | pressured | trusting | alarmed | compromised
deriving DecidableEq

inductive PredictedAction where
  | requestPayment | requestRemoteAccess | requestGiftCard | requestPersonalInfo
  | escalateUrgency | dropOff
deriving DecidableEq

def RISK_FUSION_V2_VERSION : Text := "risk-fusion-v2-1.0.0"

def STAGE_WEIGHT : FraudJourneyStage → Int
  | .initialContact => 5
  | .trustBuilding => 10
  | .informationGathering => 20
  | .urgencyInjection => 25
  | .paymentRequest => 30
  | .completed => 30
  | .intervened => 0

def STATE_WEIGHT : VictimStateLabel → Int
  | .calm => 0
  | .confused => 10
  | .pressured => 15
  | .trusting => 12
  | .alarmed => 20
  | .compromised => 25

def ACTION_WEIGHT : PredictedAction → Int
  | .requestPayment => 20
  | .requestRemoteAccess => 18
  | .requestGiftCard => 18
  | .requestPersonalInfo => 12
  | .escalateUrgency => 10
  | .dropOff => 0

structure FusionInput where
  baseScore : Int
  stage : FraudJourneyStage
  victimState : VictimStateLabel
  predictedAction : PredictedAction
  /-- The FAIL verdicts on the session. -/
  authenticityFailures : Int

structure FusionBreakdown where
  baseScore : Int
  fraudJourneyBoost : Int
  victimStateBoost : Int
  predictedMoveBoost : Int
  authenticityPenalty : Int
  stage : FraudJourneyStage
  victimState : VictimStateLabel
  predictedAction : PredictedAction
  authenticityFailures : Int

structure FusionResult where
  fusedScore : Int
  fusedLevel : RiskLevel
  breakdown : FusionBreakdown
  fusedVersion : Text

/-- Each failed check adds 15, and all of them at most 30. -/
def authenticityPenalty (failures : Int) : Int := min 30 (max 0 failures * 15)

def fuseRiskScore (input : FusionInput) : FusionResult :=
  let fraudJourneyBoost := STAGE_WEIGHT input.stage
  let victimStateBoost := STATE_WEIGHT input.victimState
  let predictedMoveBoost := ACTION_WEIGHT input.predictedAction
  let penalty := authenticityPenalty input.authenticityFailures
  let summed :=
    input.baseScore + fraudJourneyBoost + victimStateBoost + predictedMoveBoost + penalty
  let fusedScore := max 0 (min 100 summed)
  { fusedScore
    fusedLevel := levelForScore (some fusedScore)
    breakdown := {
      baseScore := input.baseScore
      fraudJourneyBoost
      victimStateBoost
      predictedMoveBoost
      authenticityPenalty := penalty
      stage := input.stage
      victimState := input.victimState
      predictedAction := input.predictedAction
      authenticityFailures := input.authenticityFailures }
    fusedVersion := RISK_FUSION_V2_VERSION }

/-- The entries of the breakdown that are points. -/
def FusionBreakdown.points (b : FusionBreakdown) : List Int :=
  [b.baseScore, b.fraudJourneyBoost, b.victimStateBoost, b.predictedMoveBoost,
    b.authenticityPenalty]

/-! ## What raises the score -/

inductive FusionInput.Raise (i : FusionInput) : FusionInput → Prop
  | baseScore {baseScore : Int} (h : i.baseScore ≤ baseScore) : Raise i { i with baseScore }
  | stage {stage : FraudJourneyStage} (h : STAGE_WEIGHT i.stage < STAGE_WEIGHT stage) :
      Raise i { i with stage }
  | victimState {victimState : VictimStateLabel}
      (h : STATE_WEIGHT i.victimState < STATE_WEIGHT victimState) : Raise i { i with victimState }
  | predictedAction {predictedAction : PredictedAction}
      (h : ACTION_WEIGHT i.predictedAction < ACTION_WEIGHT predictedAction) :
      Raise i { i with predictedAction }
  | authenticityFailures {authenticityFailures : Int}
      (h : i.authenticityFailures ≤ authenticityFailures) : Raise i { i with authenticityFailures }

theorem authenticityPenalty_mono : Monotone authenticityPenalty := by
  intro a b h
  unfold authenticityPenalty
  omega

/-- The levels of the risk hub are those of the protection modules. -/
theorem levelForScore_eq : levelForScore = Checks.scoreToLevel := rfl

def riskFusion : Scorer FusionInput where
  score i := some (fuseRiskScore i).fusedScore
  points i := (fuseRiskScore i).breakdown.points.map some
  level i := (fuseRiskScore i).fusedLevel.severity
  action _ := 0
  Raise := FusionInput.Raise

theorem riskFusion_sound : riskFusion.Sound := by
  have hscore : ∀ i,
      (fuseRiskScore i).fusedScore = clamp (fuseRiskScore i).breakdown.points.sum := by
    intro i
    simp only [fuseRiskScore, FusionBreakdown.points, List.sum_cons, List.sum_nil, clamp]
    omega
  refine Scorer.sound_of_points (fun i => (fuseRiskScore i).breakdown.points) (fun _ => rfl)
    (fun i => congrArg some (hscore i)) (fun i => ?_) (fun _ => rfl)
    Checks.severity_scoreToLevel_mono fun i j h => ?_
  · rw [← hscore]
    rfl
  · cases h with simp only [fuseRiskScore, FusionBreakdown.points, List.forall₂_cons, le_refl,
      true_and, List.Forall₂.nil, and_true]
    | baseScore h => exact h
    | stage h => exact h.le
    | victimState h => exact h.le
    | predictedAction h => exact h.le
    | authenticityFailures h => exact authenticityPenalty_mono h

end RiskFusion
