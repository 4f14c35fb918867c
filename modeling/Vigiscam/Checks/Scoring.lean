import Vigiscam.Protection.Enums

/-!
# The scores of the protection modules (`*.scoring.ts`)

Each module adds up the weights of what it was told, keeps the sum in the range 0 to 100, and
reads a level off it. The weights are returned beside the score. A weight that is looked up
under a name that has none is NaN, and so is the score: `none`.
-/

namespace Checks

open Js Protection

/-- NaN is below every bound. -/
def scoreToLevel : Option Int → RiskLevel
  | none => .low
  | some score =>
    if 86 ≤ score then .critical
    else if 61 ≤ score then .high
    else if 31 ≤ score then .medium
    else .low

/-- The level is that of the score, and each weight has a key of its own. -/
structure ScoringResult where
  score : Option Int
  level : RiskLevel
  breakdown : List (Text × Option Int)
  level_eq : level = scoreToLevel score
  nodup : (breakdown.map Prod.fst).Nodup

/-- The sum of the weights, in the range 0 to 100. -/
def totalScore (breakdown : List (Text × Option Int)) : Option Int :=
  (breakdown.mapM Prod.snd).map fun weights => min 100 (max 0 weights.sum)

/-- The score of these weights, and its level. -/
def scoring (breakdown : List (Text × Option Int)) (h : (breakdown.map Prod.fst).Nodup) :
    ScoringResult where
  score := totalScore breakdown
  level := scoreToLevel (totalScore breakdown)
  breakdown := breakdown
  level_eq := rfl
  nodup := h

/-- The weight of a flag that is set. -/
def weightOf (flag : Option Bool) (weight : Int) : Int := if flag = some true then weight else 0

/-- Repeat offenders gain 5 for each earlier warning, and at most 20. -/
def priorWarningsWeight (priorWarningsCount : Nat) : Int := min (priorWarningsCount * 5) 20

/-- A third of a score that comes from elsewhere, and at most 30. -/
def thirdOf : Option Int → Int
  | some score => min 30 (score / 3)
  | none => 0

/-! ## ScamHold -/

def TRANSACTION_TYPE_SCORE : ScamHoldTransactionType → Int
  | .crypto => 25
  | .giftCard => 30
  | .wireTransfer => 15
  | .bankTransfer => 10
  | .paymentApp => 10
  | .onlinePayment => 5

def RECIPIENT_RISK_SCORE : List (Text × Int) :=
  [("UNKNOWN", 5), ("NEW", 10), ("KNOWN_RISKY", 30), ("SUSPICIOUS_WALLET", 40)]

/-- `RECIPIENT_RISK_SCORE[risk]`. The request may name any risk, and what is no number here
makes the sum no number. -/
def recipientRiskWeight (risk : Text) : Option Int :=
  (RECIPIENT_RISK_SCORE.find? (·.1 = risk)).map (·.2)

/-- By the amount in major units, of whatever currency. -/
def amountScore (amountMinor : Int) : Int :=
  if amountMinor < 100 * 100 then 0
  else if amountMinor < 1000 * 100 then 5
  else if amountMinor < 5000 * 100 then 15
  else if amountMinor < 10000 * 100 then 25
  else 35

structure ScamHoldInput where
  transactionType : ScamHoldTransactionType
  amountMinor : Int
  recipientRisk : Option Text
  urgencyDetected : Option Bool
  secrecyDetected : Option Bool
  activeCommunication : Option Bool
  priorWarningsCount : Nat

def scoreScamHold (input : ScamHoldInput) : ScoringResult :=
  scoring
    [("transactionType", some (TRANSACTION_TYPE_SCORE input.transactionType)),
      ("amount", some (amountScore input.amountMinor)),
      ("recipientRisk", recipientRiskWeight (input.recipientRisk.getD "UNKNOWN")),
      ("urgency", some (weightOf input.urgencyDetected 15)),
      ("secrecy", some (weightOf input.secrecyDetected 15)),
      ("activeCommunication", some (weightOf input.activeCommunication 10)),
      ("priorWarnings", some (priorWarningsWeight input.priorWarningsCount))]
    (by
      show List.Nodup [utf16 "transactionType", utf16 "amount", utf16 "recipientRisk",
        utf16 "urgency", utf16 "secrecy", utf16 "activeCommunication", utf16 "priorWarnings"]
      decide)

/-! ## GiftCardGuard -/

def IMPERSONATION_SCORE : GiftCardGuardImpersonationType → Int
  | .none => 0
  | .government => 35
  | .bank => 35
  | .techSupport => 35
  | .lawEnforcement => 35
  | .employer => 30
  | .romance => 30
  | .utility => 25
  | .charity => 20
  | .other => 15

structure GiftCardInput where
  codeRevealRequested : Option Bool
  photoOfCodeRequested : Option Bool
  impersonationType : Option GiftCardGuardImpersonationType
  urgencyDetected : Option Bool
  secrecyDetected : Option Bool
  elderModeActive : Option Bool
  priorWarningsCount : Nat

def scoreGiftCardGuard (input : GiftCardInput) : ScoringResult :=
  scoring
    [("baseline", some 25),
      ("codeReveal", some (weightOf input.codeRevealRequested 25)),
      ("photoOfCode", some (weightOf input.photoOfCodeRequested 25)),
      ("impersonation", some (IMPERSONATION_SCORE (input.impersonationType.getD .none))),
      ("urgency", some (weightOf input.urgencyDetected 15)),
      ("secrecy", some (weightOf input.secrecyDetected 15)),
      ("elderMode", some (weightOf input.elderModeActive 20)),
      ("priorWarnings", some (priorWarningsWeight input.priorWarningsCount))]
    (by
      show List.Nodup [utf16 "baseline", utf16 "codeReveal", utf16 "photoOfCode",
        utf16 "impersonation", utf16 "urgency", utf16 "secrecy", utf16 "elderMode",
        utf16 "priorWarnings"]
      decide)

/-! ## WalletGuard -/

inductive WalletReputation where
  | unknown | new | knownRisky | suspiciousWallet | confirmedScam
deriving DecidableEq

def REPUTATION_SCORE : WalletReputation → Int
  | .unknown => 0
  | .new => 5
  | .knownRisky => 35
  | .suspiciousWallet => 50
  | .confirmedScam => 80

structure WalletInput where
  reputation : Option WalletReputation
  clipboardSwapDetected : Option Bool
  walletSwitched : Option Bool
  graphMatchScore : Option Int
  urgencyDetected : Option Bool
  secrecyDetected : Option Bool
  priorWarningsCount : Nat

def scoreWalletGuard (input : WalletInput) : ScoringResult :=
  scoring
    [("reputation", some (REPUTATION_SCORE (input.reputation.getD .unknown))),
      ("clipboardSwap", some (weightOf input.clipboardSwapDetected 30)),
      ("walletSwitched", some (weightOf input.walletSwitched 20)),
      ("graphMatch", some (thirdOf input.graphMatchScore)),
      ("urgency", some (weightOf input.urgencyDetected 15)),
      ("secrecy", some (weightOf input.secrecyDetected 15)),
      ("priorWarnings", some (priorWarningsWeight input.priorWarningsCount))]
    (by
      show List.Nodup [utf16 "reputation", utf16 "clipboardSwap", utf16 "walletSwitched",
        utf16 "graphMatch", utf16 "urgency", utf16 "secrecy", utf16 "priorWarnings"]
      decide)

/-- What stands for the score of an address that is none: there is no point in ranking a typo. -/
def addressInvalid : ScoringResult where
  score := some 100
  level := .critical
  breakdown := [("addressInvalid", some 100)]
  level_eq := rfl
  nodup := List.nodup_singleton _

/-! ## ClaimVerify -/

def CLAIM_TYPE_BASELINE : ClaimVerifyType → Int
  | .romance => 20
  | .investment => 15
  | .inheritance => 20
  | .oilProject => 25
  | .goldProject => 25
  | .roadConstruction => 20
  | .businessPartnership => 15
  | .legalClaim => 15
  | .immigration => 15
  | .workFromHome => 15
  | .job => 10
  | .government => 10
  | .hospital => 10
  | .medicalEmergency => 10
  | .charity => 10
  | .other => 5

def domainAgeScore : Option Int → Int
  | none => 0
  | some days => if days < 30 then 20 else if days < 90 then 10 else 0

structure ClaimInput where
  claimType : ClaimVerifyType
  domainAgeDays : Option Int
  locationMismatch : Option Bool
  imageReuseDetected : Option Bool
  scamPhraseScore : Option Int
  paymentPressure : Option Bool
  secrecyDetected : Option Bool
  urgencyDetected : Option Bool
  priorWarningsCount : Nat

def scoreClaimVerify (input : ClaimInput) : ScoringResult :=
  scoring
    [("claimTypeBaseline", some (CLAIM_TYPE_BASELINE input.claimType)),
      ("domainAge", some (domainAgeScore input.domainAgeDays)),
      ("locationMismatch", some (weightOf input.locationMismatch 15)),
      ("imageReuse", some (weightOf input.imageReuseDetected 25)),
      ("scamPhraseNlp", some (thirdOf input.scamPhraseScore)),
      ("paymentPressure", some (weightOf input.paymentPressure 15)),
      ("secrecy", some (weightOf input.secrecyDetected 15)),
      ("urgency", some (weightOf input.urgencyDetected 15)),
      ("priorWarnings", some (priorWarningsWeight input.priorWarningsCount))]
    (by
      show List.Nodup [utf16 "claimTypeBaseline", utf16 "domainAge", utf16 "locationMismatch",
        utf16 "imageReuse", utf16 "scamPhraseNlp", utf16 "paymentPressure", utf16 "secrecy",
        utf16 "urgency", utf16 "priorWarnings"]
      decide)

end Checks
