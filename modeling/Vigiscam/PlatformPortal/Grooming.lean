import Vigiscam.Js.Number
import Vigiscam.Protection.Enums
import Vigiscam.Scores.Breakdown

/-!
# Signs of grooming (`grooming.scorer.ts`)

A platform flags what it sees of two users, never what they write. Two rules for the safety of
children come before the score.
-/

namespace PlatformPortal

open Js Protection Scores

inductive GroomingAgeGapSignal where
  | unknown | agesBothVerifiedAdult | ageGapSmall | ageGapModerate | ageGapLarge
  | adultToSuspectedMinor
deriving DecidableEq

def GroomingAgeGapSignal.name : GroomingAgeGapSignal → Text
  | .unknown => "UNKNOWN"
  | .agesBothVerifiedAdult => "AGES_BOTH_VERIFIED_ADULT"
  | .ageGapSmall => "AGE_GAP_SMALL"
  | .ageGapModerate => "AGE_GAP_MODERATE"
  | .ageGapLarge => "AGE_GAP_LARGE"
  | .adultToSuspectedMinor => "ADULT_TO_SUSPECTED_MINOR"

inductive GroomingRecommendedAction where
  | none | monitor | softIntervene | hardIntervene | suspendUser | escalateToTrustAndSafety
  | escalateToLawEnforcement
deriving DecidableEq

/-- The place of an action in the list of them. -/
def GroomingRecommendedAction.severity : GroomingRecommendedAction → Nat
  | .none => 0
  | .monitor => 1
  | .softIntervene => 2
  | .hardIntervene => 3
  | .suspendUser => 4
  | .escalateToTrustAndSafety => 5
  | .escalateToLawEnforcement => 6

structure GroomingCheckInput where
  ageGapSignal : GroomingAgeGapSignal
  relationshipDurationDays : Option Int
  loveBombingDetected : Option Bool
  isolationLanguageDetected : Option Bool
  paymentRequestDetected : Option Bool
  photoSolicitationDetected : Option Bool
  moveToPrivateChannelDetected : Option Bool
  piiEscalationDetected : Option Bool
  minorSuspected : Option Bool

structure GroomingCheckScoring where
  riskScore : Int
  riskLevel : RiskLevel
  recommendedAction : GroomingRecommendedAction
  breakdown : List BreakdownEntry

def AGE_GAP_POINTS : GroomingAgeGapSignal → Int
  | .unknown => 5
  | .agesBothVerifiedAdult => 0
  | .ageGapSmall => 0
  | .ageGapModerate => 10
  | .ageGapLarge => 20
  | .adultToSuspectedMinor => 40

/-- Compressed timelines go with grooming. -/
def relationshipDurationPoints : Option Int → Int
  | none => 0
  | some days =>
    if days < 0 then 0
    else if days ≤ 3 then 15
    else if days ≤ 14 then 10
    else if days ≤ 60 then 5
    else 0

namespace GroomingCheckInput

/-- `${input.relationshipDurationDays}`. -/
def durationText (input : GroomingCheckInput) : Text :=
  match input.relationshipDurationDays with
  | none => "undefined"
  | some days => (Number.ofInt days).toText

def breakdown (input : GroomingCheckInput) : List BreakdownEntry :=
  pushed "age_gap" (AGE_GAP_POINTS input.ageGapSignal)
      (utf16 "Age-gap signal \"" ++ input.ageGapSignal.name ++ utf16 "\"") ++
    pushed "relationship_duration" (relationshipDurationPoints input.relationshipDurationDays)
      (utf16 "Short relationship duration (" ++ input.durationText ++
        utf16 " day(s)) — compressed-timeline pattern") ++
    flagged input.loveBombingDetected "loveBombingDetected" 15
      "Love-bombing language pattern detected" ++
    flagged input.isolationLanguageDetected "isolationLanguageDetected" 20
      "\"Keep this between us\" / isolation language detected" ++
    flagged input.paymentRequestDetected "paymentRequestDetected" 25
      "Payment request inside an intimate context" ++
    flagged input.photoSolicitationDetected "photoSolicitationDetected" 25
      "Explicit-photo solicitation pattern detected" ++
    flagged input.moveToPrivateChannelDetected "moveToPrivateChannelDetected" 15
      "Push to move conversation off-platform" ++
    flagged input.piiEscalationDetected "piiEscalationDetected" 15
      "Requests for school / address / full name" ++
    flagged input.minorSuspected "minor_suspected" 35
      "Upstream classifier flagged the subject as a suspected minor"

def riskScore (input : GroomingCheckInput) : Int := min 100 (raw input.breakdown)

def minorWithEscalation (input : GroomingCheckInput) : Prop :=
  input.minorSuspected = some true ∧
    (input.paymentRequestDetected = some true ∨ input.photoSolicitationDetected = some true ∨
      input.moveToPrivateChannelDetected = some true ∨ input.piiEscalationDetected = some true)

instance (input : GroomingCheckInput) : Decidable input.minorWithEscalation :=
  inferInstanceAs (Decidable (_ ∧ _))

end GroomingCheckInput

/-- The two rules for the safety of children, and then the score. -/
def groomingVerdict (minorWithEscalation adultToSuspectedMinor : Prop)
    [Decidable minorWithEscalation] [Decidable adultToSuspectedMinor] (riskScore : Int) :
    RiskLevel × GroomingRecommendedAction :=
  if minorWithEscalation then (.critical, .escalateToLawEnforcement)
  else if adultToSuspectedMinor then (.critical, .escalateToTrustAndSafety)
  else if riskScore ≥ 80 then (.critical, .suspendUser)
  else if riskScore ≥ 60 then (.high, .hardIntervene)
  else if riskScore ≥ 30 then (.medium, .softIntervene)
  else if riskScore ≥ 10 then (.low, .monitor)
  else (.low, .none)

def scoreGroomingCheck (input : GroomingCheckInput) : GroomingCheckScoring :=
  let verdict := groomingVerdict input.minorWithEscalation
    (input.ageGapSignal = .adultToSuspectedMinor) input.riskScore
  { riskScore := input.riskScore
    riskLevel := verdict.1
    recommendedAction := verdict.2
    breakdown := input.breakdown }

/-! ## What raises the score -/

namespace GroomingCheckInput

inductive Raise (i : GroomingCheckInput) : GroomingCheckInput → Prop
  | ageGapSignal {ageGapSignal : GroomingAgeGapSignal}
      (h : AGE_GAP_POINTS i.ageGapSignal < AGE_GAP_POINTS ageGapSignal) :
      Raise i { i with ageGapSignal }
  | relationshipDurationDays {days days' : Int} (hgiven : i.relationshipDurationDays = some days)
      (h : days' ≤ days) (hnonneg : 0 ≤ days') :
      Raise i { i with relationshipDurationDays := some days' }
  | loveBombingDetected : Raise i { i with loveBombingDetected := some true }
  | isolationLanguageDetected : Raise i { i with isolationLanguageDetected := some true }
  | paymentRequestDetected : Raise i { i with paymentRequestDetected := some true }
  | photoSolicitationDetected : Raise i { i with photoSolicitationDetected := some true }
  | moveToPrivateChannelDetected : Raise i { i with moveToPrivateChannelDetected := some true }
  | piiEscalationDetected : Raise i { i with piiEscalationDetected := some true }
  | minorSuspected : Raise i { i with minorSuspected := some true }

theorem points_breakdown (i : GroomingCheckInput) : ∀ entry ∈ i.breakdown, 0 < entry.points := by
  intro entry hmem
  simp only [breakdown, List.mem_append] at hmem
  rcases hmem with (((((((hmem | hmem) | hmem) | hmem) | hmem) | hmem) | hmem) | hmem) | hmem
  · exact points_pushed entry hmem
  · exact points_pushed entry hmem
  all_goals exact points_flagged (by decide) entry hmem

theorem relationshipDurationPoints_anti {days days' : Int} (h : days' ≤ days)
    (hnonneg : 0 ≤ days') :
    relationshipDurationPoints (some days) ≤ relationshipDurationPoints (some days') := by
  simp only [relationshipDurationPoints]
  split_ifs <;> omega

theorem agePoints_le (ageGapSignal : GroomingAgeGapSignal) :
    AGE_GAP_POINTS ageGapSignal ≤ AGE_GAP_POINTS .adultToSuspectedMinor := by
  cases ageGapSignal <;> decide

/-- All that the answer is read off is at least as bad for the second input. -/
structure AtMost (i j : GroomingCheckInput) : Prop where
  sum : raw i.breakdown ≤ raw j.breakdown
  minorWithEscalation : i.minorWithEscalation → j.minorWithEscalation
  adultToSuspectedMinor : i.ageGapSignal = .adultToSuspectedMinor →
    j.ageGapSignal = .adultToSuspectedMinor

/-- A flag that is set, where the rules for children only ask for more flags. -/
theorem AtMost.of_flag {i j : GroomingCheckInput} (hsum : raw i.breakdown ≤ raw j.breakdown)
    (hage : i.ageGapSignal = j.ageGapSignal)
    (hminor : i.minorWithEscalation → j.minorWithEscalation) : i.AtMost j where
  sum := hsum
  minorWithEscalation := hminor
  adultToSuspectedMinor h := hage.symm.trans h

theorem Raise.atMost {i j : GroomingCheckInput} (h : i.Raise j) : i.AtMost j := by
  cases h with
  | @ageGapSignal ageGapSignal h =>
    refine ⟨?_, id, fun hadult => ?_⟩
    · simp only [breakdown, raw_append, raw_pushed, durationText]
      omega
    · -- no gap weighs more than that of an adult and a suspected minor
      rw [hadult] at h
      exact absurd h (not_lt.mpr (agePoints_le ageGapSignal))
  | relationshipDurationDays hgiven h hnonneg =>
    refine .of_flag ?_ rfl id
    have hpoints := relationshipDurationPoints_anti h hnonneg
    simp only [breakdown, raw_append, raw_pushed, hgiven]
    omega
  | loveBombingDetected | isolationLanguageDetected =>
    refine .of_flag ?_ rfl id
    simp only [breakdown, raw_append, durationText, add_le_add_iff_left, add_le_add_iff_right]
    exact raw_flagged_le (by decide)
  | paymentRequestDetected | photoSolicitationDetected | moveToPrivateChannelDetected
  | piiEscalationDetected =>
    refine .of_flag ?_ rfl fun h => ⟨h.1, by simp⟩
    simp only [breakdown, raw_append, durationText, add_le_add_iff_left, add_le_add_iff_right]
    exact raw_flagged_le (by decide)
  | minorSuspected =>
    refine .of_flag ?_ rfl fun h => ⟨rfl, h.2⟩
    simp only [breakdown, raw_append, durationText, add_le_add_iff_left]
    exact raw_flagged_le (by decide)

end GroomingCheckInput

/-- The rules for children answer with what no score reaches. -/
theorem groomingVerdict_mono {minor minor' adult adult' : Prop} [Decidable minor]
    [Decidable minor'] [Decidable adult] [Decidable adult'] {riskScore riskScore' : Int}
    (hminor : minor → minor') (hadult : adult → adult') (h : riskScore ≤ riskScore') :
    (groomingVerdict minor adult riskScore).1.severity ≤
        (groomingVerdict minor' adult' riskScore').1.severity ∧
      (groomingVerdict minor adult riskScore).2.severity ≤
        (groomingVerdict minor' adult' riskScore').2.severity := by
  by_cases hminor' : minor'
  · simp only [groomingVerdict, if_pos hminor']
    split_ifs <;> decide
  have hnot := mt hminor hminor'
  by_cases hadult' : adult'
  · simp only [groomingVerdict, if_neg hminor', if_neg hnot, if_pos hadult']
    split_ifs <;> decide
  simp only [groomingVerdict, if_neg hminor', if_neg hnot, if_neg hadult',
    if_neg (mt hadult hadult')]
  split_ifs <;> simp only [RiskLevel.severity, GroomingRecommendedAction.severity] <;> omega

def groomingCheck : Scorer GroomingCheckInput where
  score i := some (scoreGroomingCheck i).riskScore
  points i := (scoreGroomingCheck i).breakdown.map fun entry => some entry.points
  level i := (scoreGroomingCheck i).riskLevel.severity
  action i := (scoreGroomingCheck i).recommendedAction.severity
  Raise := GroomingCheckInput.Raise

theorem groomingCheck_sound : groomingCheck.Sound := by
  have hscore : ∀ i : GroomingCheckInput, i.riskScore = clamp (raw i.breakdown) := fun i =>
    (clamp_of_nonneg (raw_nonneg i.points_breakdown)).symm
  have hverdict : ∀ i j : GroomingCheckInput, i.Raise j →
      (scoreGroomingCheck i).riskLevel.severity ≤ (scoreGroomingCheck j).riskLevel.severity ∧
        (scoreGroomingCheck i).recommendedAction.severity ≤
          (scoreGroomingCheck j).recommendedAction.severity := by
    intro i j h
    refine groomingVerdict_mono h.atMost.minorWithEscalation h.atMost.adultToSuspectedMinor ?_
    rw [hscore, hscore]
    exact clamp_mono h.atMost.sum
  refine Scorer.sound_of_sum (fun i => i.breakdown.map BreakdownEntry.points) (fun i => ?_)
    (fun i => congrArg some (hscore i)) (fun i j h => ?_) (fun i j h => ?_) fun i j h => ?_
  · exact (List.map_map ..).symm
  · exact (GroomingCheckInput.Raise.atMost h).sum
  · exact (hverdict i j h).1
  · exact (hverdict i j h).2

end PlatformPortal
