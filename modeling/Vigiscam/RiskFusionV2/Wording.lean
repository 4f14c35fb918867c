import Vigiscam.RiskFusionV2.Insights

/-!
# What more text does to the score

The stubs look for words. Text that is added around what there is, and that does not touch its
words, takes no hit away, so that the journey only comes further. The victim may seem confused
instead of trusting, which weighs two points less; nothing else lowers the fused score
(`more_text`).
-/

namespace RiskFusionV2

open Js RiskFusion
open Regex hiding alt empty

/-! ## First hits -/

section First

variable {ρ : Type} {rules : List ρ} {p q : ρ → Bool} {R : ρ → ρ → Prop} {r : ρ}

/-- Where more of the rules hit, the first one is the same, or one that stands before it. -/
theorem find?_of_more (hrules : rules.Pairwise R) (hmore : ∀ r ∈ rules, p r = true → q r = true)
    (h : rules.find? p = some r) : ∃ r', rules.find? q = some r' ∧ (r' = r ∨ R r' r) := by
  induction rules with
  | nil => cases h
  | cons first rest ih =>
    obtain ⟨hfirst, hrest⟩ := List.pairwise_cons.mp hrules
    by_cases hq : q first = true
    · refine ⟨first, List.find?_cons_of_pos hq, ?_⟩
      by_cases hp : p first = true
      · rw [List.find?_cons_of_pos hp] at h
        exact Or.inl (Option.some.inj h)
      · rw [List.find?_cons_of_neg hp] at h
        exact Or.inr (hfirst r (List.mem_of_find?_eq_some h))
    · have hp : ¬ p first = true := fun hp => hq (hmore first List.mem_cons_self hp)
      rw [List.find?_cons_of_neg hp] at h
      rw [List.find?_cons_of_neg hq]
      exact ih hrest (fun r hr => hmore r (List.mem_cons_of_mem _ hr)) h

end First

/-! ## Choices -/

section Choices

variable {κ : Type} {s t : Text} {R : κ → κ → Prop}

theorem InsightRule.hits_of_surrounds {rule : InsightRule κ} (hrule : rule.pattern.edgeless = true)
    (hst : Surrounds s t) (h : rule.hits s = true) : rule.hits t = true :=
  (test_between_iff hrule).mpr (((test_between_iff hrule).mp h).surrounded hst)

/-- What is chosen for more text relates to what was chosen as the rules before do to those after
them, and as they all do to the initial value. -/
theorem chosen_of_surrounds [DecidableEq κ] (initial : κ) (rules : List (InsightRule κ))
    (hne : ∀ rule ∈ rules, rule.verdict ≠ initial)
    (hpattern : ∀ rule ∈ rules, rule.pattern.edgeless = true) (hrefl : ∀ k, R k k)
    (hinitial : ∀ rule ∈ rules, R rule.verdict initial)
    (hrules : rules.Pairwise fun a b => R a.verdict b.verdict) (hst : Surrounds s t) :
    R (tryRules initial rules t).1 (tryRules initial rules s).1 := by
  rw [tryRules_eq hne, tryRules_eq hne]
  dsimp only
  cases hs : rules.find? (InsightRule.hits s) with
  | none =>
    cases ht : rules.find? (InsightRule.hits t) with
    | none => exact hrefl _
    | some rule => exact hinitial rule (List.mem_of_find?_eq_some ht)
  | some rule =>
    obtain ⟨rule', ht, hrel⟩ := find?_of_more hrules
      (fun r hr => InsightRule.hits_of_surrounds (hpattern r hr) hst) hs
    rw [ht]
    rcases hrel with rfl | hrel
    · exact hrefl _
    · exact hrel

end Choices

/-! ## Points -/

/-- What a stage adds, by itself and by what the stub predicts of it. -/
def stagePoints (stage : FraudJourneyStage) : Int :=
  STAGE_WEIGHT stage + ACTION_WEIGHT (NEXT_MOVE_MAP stage)

/-- One state for another: it weighs no less, or it is confusion for trust. -/
def Settles (state' state : VictimStateLabel) : Prop :=
  STATE_WEIGHT state ≤ STATE_WEIGHT state' ∨ state = .trusting ∧ state' = .confused

instance (state' state : VictimStateLabel) : Decidable (Settles state' state) :=
  inferInstanceAs (Decidable (_ ∨ _))

section Hints

variable {hints hints' : InsightHints}

theorem stage_of_surrounds (htext : Surrounds hints.text hints'.text)
    (hstage : hints'.forceStage = hints.forceStage) :
    stagePoints (stubAssessJourney hints).verdict ≤
      stagePoints (stubAssessJourney hints').verdict := by
  rw [stubAssessJourney, stubAssessJourney, hstage]
  cases hints.forceStage with
  | some stage => exact le_refl _
  | none =>
    exact chosen_of_surrounds (R := fun stage' stage => stagePoints stage ≤ stagePoints stage')
      .initialContact JOURNEY_RULES (by decide) (by decide) (fun _ => le_refl _) (by decide)
      (by decide) htext

theorem state_of_surrounds (htext : Surrounds hints.text hints'.text)
    (hstate : hints'.forceState = hints.forceState) :
    Settles (stubAssessVictimState hints').verdict (stubAssessVictimState hints).verdict := by
  rw [stubAssessVictimState, stubAssessVictimState, hstate]
  cases hints.forceState with
  | some state => exact Or.inl (le_refl _)
  | none =>
    exact chosen_of_surrounds (R := Settles) .calm VICTIM_RULES (by decide) (by decide)
      (fun _ => Or.inl (le_refl _)) (by decide) (by decide) htext

/-! ## Scores -/

/-- The fusion of what the stubs answer. -/
def stubFusion (baseScore authenticityFailures : Int) (hints : InsightHints) : FusionResult :=
  let stage := (stubAssessJourney hints).verdict
  fuseRiskScore {
    baseScore := baseScore
    stage := stage
    victimState := (stubAssessVictimState hints).verdict
    predictedAction := (stubPredictNextMove stage).verdict
    authenticityFailures := authenticityFailures }

theorem fusedScore_stubFusion (baseScore authenticityFailures : Int) :
    (stubFusion baseScore authenticityFailures hints).fusedScore =
      max 0 (min 100 (baseScore + stagePoints (stubAssessJourney hints).verdict +
        STATE_WEIGHT (stubAssessVictimState hints).verdict +
        authenticityPenalty authenticityFailures)) := by
  show max 0 (min 100 (baseScore + STAGE_WEIGHT _ + STATE_WEIGHT _ +
    ACTION_WEIGHT (NEXT_MOVE_MAP _) + authenticityPenalty _)) = _
  rw [stagePoints]
  congr 2
  ring

/-- **More text**: where there is more text around what there was, with the same overrides, and no
less risk and no fewer failed checks, the fused score is at most two points lower; and it is not
lower, unless the victim seems confused now and seemed trusting before. -/
theorem more_text {baseScore baseScore' failures failures' : Int}
    (htext : Surrounds hints.text hints'.text) (hstage : hints'.forceStage = hints.forceStage)
    (hstate : hints'.forceState = hints.forceState) (hbase : baseScore ≤ baseScore')
    (hfailures : failures ≤ failures') :
    (stubFusion baseScore failures hints).fusedScore ≤
        (stubFusion baseScore' failures' hints').fusedScore + 2 ∧
      ((stubFusion baseScore' failures' hints').fusedScore <
          (stubFusion baseScore failures hints).fusedScore →
        (stubAssessVictimState hints).verdict = .trusting ∧
          (stubAssessVictimState hints').verdict = .confused) := by
  have hpoints := stage_of_surrounds htext hstage
  have hpenalty := authenticityPenalty_mono hfailures
  rw [fusedScore_stubFusion, fusedScore_stubFusion]
  rcases state_of_surrounds htext hstate with hweight | ⟨hbefore, hafter⟩
  · refine ⟨by omega, fun hlower => ?_⟩
    omega
  · refine ⟨?_, fun _ => ⟨hbefore, hafter⟩⟩
    rw [hbefore, hafter]
    show max 0 (min 100 (_ + _ + 12 + _)) ≤ max 0 (min 100 (_ + _ + 10 + _)) + 2
    omega

def grateful : InsightHints := ⟨some "Thank you.", none, none, none⟩

def puzzled : InsightHints := { grateful with notes := some "Why?" }

theorem more_text_sample :
    (stubFusion 20 0 grateful).fusedScore ≤ (stubFusion 20 0 puzzled).fusedScore + 2 ∧
      ((stubFusion 20 0 puzzled).fusedScore < (stubFusion 20 0 grateful).fusedScore →
        (stubAssessVictimState grateful).verdict = .trusting ∧
          (stubAssessVictimState puzzled).verdict = .confused) :=
  more_text ⟨[], utf16 "Why?", by decide, by decide, by decide⟩ rfl rfl (le_refl _) (le_refl _)

example : (stubFusion 20 0 grateful).fusedScore = 49 ∧
    (stubFusion 20 0 puzzled).fusedScore = 47 := by decide +kernel

end Hints

end RiskFusionV2
