import Vigiscam.Checks.Scoring
import Vigiscam.Scores.Scorer

/-!
# What raises the scores of the protection modules

Each of the four scores is the sum of weights that the input selects one by one, so that an adverse
change of one field raises one weight and leaves the others alone.
-/

namespace Checks

open Js Protection Scores

/-! ## Weights -/

theorem severity_scoreToLevel_mono :
    Monotone fun score => (scoreToLevel (some score)).severity := by
  intro a b h
  simp only [scoreToLevel]
  split_ifs <;> simp only [RiskLevel.severity] <;> omega

theorem weightOf_le {flag : Option Bool} {weight : Int} (h : 0 ≤ weight) :
    weightOf flag weight ≤ weightOf (some true) weight := by
  rw [weightOf, weightOf, if_pos rfl]
  split <;> omega

theorem priorWarningsWeight_mono : Monotone priorWarningsWeight := by
  intro a b h
  unfold priorWarningsWeight
  omega

theorem thirdOf_mono {a b : Int} (h : a ≤ b) : thirdOf (some a) ≤ thirdOf (some b) := by
  simp only [thirdOf]
  omega

theorem amountScore_mono : Monotone amountScore := by
  intro a b h
  unfold amountScore
  split_ifs <;> omega

theorem domainAgeScore_anti {a b : Int} (h : a ≤ b) :
    domainAgeScore (some b) ≤ domainAgeScore (some a) := by
  unfold domainAgeScore
  simp only
  split_ifs <;> omega

/-- Where every weight is a number, the score is their sum, in its range. -/
theorem totalScore_eq {breakdown : List (Text × Option Int)} {numbers : List Int}
    (h : breakdown.map Prod.snd = numbers.map some) :
    totalScore breakdown = some (clamp numbers.sum) := by
  rw [totalScore, mapM_eq_some_iff.mpr h]
  rfl

/-- A scorer of a protection module. -/
def scorer {ι : Type} (score : ι → ScoringResult) (Raise : ι → ι → Prop) : Scorer ι where
  score i := (score i).score
  points i := (score i).breakdown.map Prod.snd
  level i := (score i).level.severity
  action _ := 0
  Raise := Raise

theorem sound_scorer {ι : Type} {score : ι → ScoringResult} {Raise : ι → ι → Prop}
    (numbers : ι → List Int)
    (hnumbers : ∀ i, (score i).breakdown.map Prod.snd = (numbers i).map some)
    (htotal : ∀ i, (score i).score = totalScore (score i).breakdown)
    (hraise : ∀ i j, Raise i j → List.Forall₂ (· ≤ ·) (numbers i) (numbers j)) :
    (scorer score Raise).Sound := by
  have hscore : ∀ i, (score i).score = some (clamp (numbers i).sum) := fun i =>
    (htotal i).trans (totalScore_eq (hnumbers i))
  refine Scorer.sound_of_points numbers hnumbers hscore (fun i => ?_) (fun _ => rfl)
    severity_scoreToLevel_mono hraise
  show (score i).level.severity = _
  rw [(score i).level_eq, hscore]

/-! ## ScamHold -/

/-- An input of the scorer, whose risk is one of its type. -/
abbrev TypedScamHoldInput : Type :=
  { input : ScamHoldInput //
    input.recipientRisk.getD "UNKNOWN" ∈ RECIPIENT_RISK_SCORE.map Prod.fst }

namespace ScamHoldInput

inductive Raise (i : ScamHoldInput) : ScamHoldInput → Prop
  | transactionType {transactionType : ScamHoldTransactionType}
      (h : TRANSACTION_TYPE_SCORE i.transactionType < TRANSACTION_TYPE_SCORE transactionType) :
      Raise i { i with transactionType }
  | amountMinor {amountMinor : Int} (h : i.amountMinor ≤ amountMinor) :
      Raise i { i with amountMinor }
  | recipientRisk {risk : Text} {w w' : Int}
      (hw : recipientRiskWeight (i.recipientRisk.getD "UNKNOWN") = some w)
      (hw' : recipientRiskWeight risk = some w') (h : w < w') :
      Raise i { i with recipientRisk := some risk }
  | urgencyDetected : Raise i { i with urgencyDetected := some true }
  | secrecyDetected : Raise i { i with secrecyDetected := some true }
  | activeCommunication : Raise i { i with activeCommunication := some true }
  | priorWarningsCount {priorWarningsCount : Nat} (h : i.priorWarningsCount ≤ priorWarningsCount) :
      Raise i { i with priorWarningsCount }

def numbers (i : ScamHoldInput) : List Int :=
  [TRANSACTION_TYPE_SCORE i.transactionType, amountScore i.amountMinor,
    (recipientRiskWeight (i.recipientRisk.getD "UNKNOWN")).getD 0, weightOf i.urgencyDetected 15,
    weightOf i.secrecyDetected 15, weightOf i.activeCommunication 10,
    priorWarningsWeight i.priorWarningsCount]

theorem raise_numbers {i j : ScamHoldInput} (h : i.Raise j) :
    List.Forall₂ (· ≤ ·) i.numbers j.numbers := by
  cases h with simp only [numbers, List.forall₂_cons, le_refl, true_and, List.Forall₂.nil, and_true]
  | transactionType h => exact h.le
  | amountMinor h => exact amountScore_mono h
  | recipientRisk hw hw' h =>
    rw [Option.getD_some, hw, hw']
    exact h.le
  | urgencyDetected => exact weightOf_le (by decide)
  | secrecyDetected => exact weightOf_le (by decide)
  | activeCommunication => exact weightOf_le (by decide)
  | priorWarningsCount h => exact priorWarningsWeight_mono h

end ScamHoldInput

/-- A risk of the type has a weight. -/
theorem recipientRiskWeight_of_mem {risk : Text} (h : risk ∈ RECIPIENT_RISK_SCORE.map Prod.fst) :
    ∃ w, recipientRiskWeight risk = some w := by
  obtain ⟨row, hrow, hname⟩ := List.mem_map.mp h
  obtain ⟨found, hfound⟩ := Option.isSome_iff_exists.mp
    (List.find?_isSome (p := (·.1 = risk)).mpr ⟨row, hrow, decide_eq_true hname⟩)
  exact ⟨found.2, congrArg (Option.map Prod.snd) hfound⟩

def scamHold : Scorer TypedScamHoldInput :=
  scorer (fun i => scoreScamHold i.val) fun i j => i.val.Raise j.val

theorem scamHold_sound : scamHold.Sound := by
  refine sound_scorer (fun i => i.val.numbers) (fun i => ?_) (fun i => rfl)
    fun i j h => ScamHoldInput.raise_numbers h
  obtain ⟨w, hw⟩ := recipientRiskWeight_of_mem i.property
  simp only [scoreScamHold, scoring, ScamHoldInput.numbers, List.map_cons, List.map_nil, hw,
    Option.getD_some]

/-! ## GiftCardGuard -/

namespace GiftCardInput

inductive Raise (i : GiftCardInput) : GiftCardInput → Prop
  | codeRevealRequested : Raise i { i with codeRevealRequested := some true }
  | photoOfCodeRequested : Raise i { i with photoOfCodeRequested := some true }
  | impersonationType {type : GiftCardGuardImpersonationType}
      (h : IMPERSONATION_SCORE (i.impersonationType.getD .none) < IMPERSONATION_SCORE type) :
      Raise i { i with impersonationType := some type }
  | urgencyDetected : Raise i { i with urgencyDetected := some true }
  | secrecyDetected : Raise i { i with secrecyDetected := some true }
  | elderModeActive : Raise i { i with elderModeActive := some true }
  | priorWarningsCount {priorWarningsCount : Nat} (h : i.priorWarningsCount ≤ priorWarningsCount) :
      Raise i { i with priorWarningsCount }

def numbers (i : GiftCardInput) : List Int :=
  [25, weightOf i.codeRevealRequested 25, weightOf i.photoOfCodeRequested 25,
    IMPERSONATION_SCORE (i.impersonationType.getD .none), weightOf i.urgencyDetected 15,
    weightOf i.secrecyDetected 15, weightOf i.elderModeActive 20,
    priorWarningsWeight i.priorWarningsCount]

theorem raise_numbers {i j : GiftCardInput} (h : i.Raise j) :
    List.Forall₂ (· ≤ ·) i.numbers j.numbers := by
  cases h with simp only [numbers, List.forall₂_cons, le_refl, true_and, List.Forall₂.nil, and_true]
  | impersonationType h => exact h.le
  | priorWarningsCount h => exact priorWarningsWeight_mono h
  | codeRevealRequested => exact weightOf_le (by decide)
  | photoOfCodeRequested => exact weightOf_le (by decide)
  | urgencyDetected => exact weightOf_le (by decide)
  | secrecyDetected => exact weightOf_le (by decide)
  | elderModeActive => exact weightOf_le (by decide)

end GiftCardInput

def giftCardGuard : Scorer GiftCardInput := scorer scoreGiftCardGuard GiftCardInput.Raise

theorem giftCardGuard_sound : giftCardGuard.Sound :=
  sound_scorer GiftCardInput.numbers (fun _ => rfl) (fun _ => rfl)
    fun _ _ h => GiftCardInput.raise_numbers h

/-! ## WalletGuard -/

namespace WalletInput

inductive Raise (i : WalletInput) : WalletInput → Prop
  | reputation {reputation : WalletReputation}
      (h : REPUTATION_SCORE (i.reputation.getD .unknown) < REPUTATION_SCORE reputation) :
      Raise i { i with reputation := some reputation }
  | clipboardSwapDetected : Raise i { i with clipboardSwapDetected := some true }
  | walletSwitched : Raise i { i with walletSwitched := some true }
  | graphMatchScore {score score' : Int} (hgiven : i.graphMatchScore = some score)
      (h : score ≤ score') : Raise i { i with graphMatchScore := some score' }
  | urgencyDetected : Raise i { i with urgencyDetected := some true }
  | secrecyDetected : Raise i { i with secrecyDetected := some true }
  | priorWarningsCount {priorWarningsCount : Nat} (h : i.priorWarningsCount ≤ priorWarningsCount) :
      Raise i { i with priorWarningsCount }

def numbers (i : WalletInput) : List Int :=
  [REPUTATION_SCORE (i.reputation.getD .unknown), weightOf i.clipboardSwapDetected 30,
    weightOf i.walletSwitched 20, thirdOf i.graphMatchScore, weightOf i.urgencyDetected 15,
    weightOf i.secrecyDetected 15, priorWarningsWeight i.priorWarningsCount]

theorem raise_numbers {i j : WalletInput} (h : i.Raise j) :
    List.Forall₂ (· ≤ ·) i.numbers j.numbers := by
  cases h with simp only [numbers, List.forall₂_cons, le_refl, true_and, List.Forall₂.nil, and_true]
  | reputation h => exact h.le
  | graphMatchScore hgiven h =>
    rw [hgiven]
    exact thirdOf_mono h
  | priorWarningsCount h => exact priorWarningsWeight_mono h
  | clipboardSwapDetected => exact weightOf_le (by decide)
  | walletSwitched => exact weightOf_le (by decide)
  | urgencyDetected => exact weightOf_le (by decide)
  | secrecyDetected => exact weightOf_le (by decide)

end WalletInput

def walletGuard : Scorer WalletInput := scorer scoreWalletGuard WalletInput.Raise

theorem walletGuard_sound : walletGuard.Sound :=
  sound_scorer WalletInput.numbers (fun _ => rfl) (fun _ => rfl)
    fun _ _ h => WalletInput.raise_numbers h

/-! ## ClaimVerify -/

namespace ClaimInput

inductive Raise (i : ClaimInput) : ClaimInput → Prop
  | claimType {claimType : ClaimVerifyType}
      (h : CLAIM_TYPE_BASELINE i.claimType < CLAIM_TYPE_BASELINE claimType) :
      Raise i { i with claimType }
  | domainAgeDays {days days' : Int} (hgiven : i.domainAgeDays = some days) (h : days' ≤ days) :
      Raise i { i with domainAgeDays := some days' }
  | locationMismatch : Raise i { i with locationMismatch := some true }
  | imageReuseDetected : Raise i { i with imageReuseDetected := some true }
  | scamPhraseScore {score score' : Int} (hgiven : i.scamPhraseScore = some score)
      (h : score ≤ score') : Raise i { i with scamPhraseScore := some score' }
  | paymentPressure : Raise i { i with paymentPressure := some true }
  | secrecyDetected : Raise i { i with secrecyDetected := some true }
  | urgencyDetected : Raise i { i with urgencyDetected := some true }
  | priorWarningsCount {priorWarningsCount : Nat} (h : i.priorWarningsCount ≤ priorWarningsCount) :
      Raise i { i with priorWarningsCount }

def numbers (i : ClaimInput) : List Int :=
  [CLAIM_TYPE_BASELINE i.claimType, domainAgeScore i.domainAgeDays,
    weightOf i.locationMismatch 15, weightOf i.imageReuseDetected 25, thirdOf i.scamPhraseScore,
    weightOf i.paymentPressure 15, weightOf i.secrecyDetected 15, weightOf i.urgencyDetected 15,
    priorWarningsWeight i.priorWarningsCount]

theorem raise_numbers {i j : ClaimInput} (h : i.Raise j) :
    List.Forall₂ (· ≤ ·) i.numbers j.numbers := by
  cases h with simp only [numbers, List.forall₂_cons, le_refl, true_and, List.Forall₂.nil, and_true]
  | claimType h => exact h.le
  | domainAgeDays hgiven h =>
    rw [hgiven]
    exact domainAgeScore_anti h
  | scamPhraseScore hgiven h =>
    rw [hgiven]
    exact thirdOf_mono h
  | priorWarningsCount h => exact priorWarningsWeight_mono h
  | locationMismatch => exact weightOf_le (by decide)
  | imageReuseDetected => exact weightOf_le (by decide)
  | paymentPressure => exact weightOf_le (by decide)
  | secrecyDetected => exact weightOf_le (by decide)
  | urgencyDetected => exact weightOf_le (by decide)

end ClaimInput

def claimVerify : Scorer ClaimInput := scorer scoreClaimVerify ClaimInput.Raise

theorem claimVerify_sound : claimVerify.Sound :=
  sound_scorer ClaimInput.numbers (fun _ => rfl) (fun _ => rfl)
    fun _ _ h => ClaimInput.raise_numbers h

end Checks
