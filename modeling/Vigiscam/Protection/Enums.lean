import Vigiscam.EvidenceVault.Service

/-!
# The enumerations of the protection modules (`schema.prisma` and the DTOs)

Each enumeration with the text that stands for it on the wire and in the
database. A decision DTO is cast to the status column (`as unknown as`), so the
two share their texts.
-/

namespace Protection

open Js

inductive RiskLevel where
  | low | medium | high | critical
deriving DecidableEq

def RiskLevel.name : RiskLevel → Text
  | .low => "LOW"
  | .medium => "MEDIUM"
  | .high => "HIGH"
  | .critical => "CRITICAL"

def RiskLevel.severity : RiskLevel → Nat
  | .low => 0
  | .medium => 1
  | .high => 2
  | .critical => 3

/-- `TrustedContactReviewTriggerModule`. -/
inductive TriggerModule where
  | guardianPause | scamHold | giftCardGuard | walletGuard | claimVerify | scamMirror
deriving DecidableEq

def TriggerModule.name : TriggerModule → Text
  | .guardianPause => "GUARDIAN_PAUSE"
  | .scamHold => "SCAMHOLD"
  | .giftCardGuard => "GIFTCARDGUARD"
  | .walletGuard => "WALLETGUARD"
  | .claimVerify => "CLAIMVERIFY"
  | .scamMirror => "SCAMMIRROR"

inductive ScamHoldStatus where
  | pending | releaseAfterVerification | block | sendToTrustedContact | saveOnly
  | continueAnyway
deriving DecidableEq

def ScamHoldStatus.name : ScamHoldStatus → Text
  | .pending => "PENDING"
  | .releaseAfterVerification => "RELEASE_AFTER_VERIFICATION"
  | .block => "BLOCK"
  | .sendToTrustedContact => "SEND_TO_TRUSTED_CONTACT"
  | .saveOnly => "SAVE_ONLY"
  | .continueAnyway => "CONTINUE_ANYWAY"

inductive ScamHoldDecision where
  | releaseAfterVerification | block | sendToTrustedContact | saveOnly | continueAnyway
deriving DecidableEq

def ScamHoldDecision.name : ScamHoldDecision → Text
  | .releaseAfterVerification => "RELEASE_AFTER_VERIFICATION"
  | .block => "BLOCK"
  | .sendToTrustedContact => "SEND_TO_TRUSTED_CONTACT"
  | .saveOnly => "SAVE_ONLY"
  | .continueAnyway => "CONTINUE_ANYWAY"

inductive ScamHoldTransactionType where
  | crypto | giftCard | wireTransfer | bankTransfer | paymentApp | onlinePayment
deriving DecidableEq

def ScamHoldTransactionType.name : ScamHoldTransactionType → Text
  | .crypto => "CRYPTO"
  | .giftCard => "GIFT_CARD"
  | .wireTransfer => "WIRE_TRANSFER"
  | .bankTransfer => "BANK_TRANSFER"
  | .paymentApp => "PAYMENT_APP"
  | .onlinePayment => "ONLINE_PAYMENT"

inductive GiftCardGuardDecision where
  | pending | avoided | continuedAnyway | escalatedToTrustedContact
deriving DecidableEq

def GiftCardGuardDecision.name : GiftCardGuardDecision → Text
  | .pending => "PENDING"
  | .avoided => "AVOIDED"
  | .continuedAnyway => "CONTINUED_ANYWAY"
  | .escalatedToTrustedContact => "ESCALATED_TO_TRUSTED_CONTACT"

inductive GiftCardGuardUserDecision where
  | avoided | continuedAnyway | escalatedToTrustedContact
deriving DecidableEq

def GiftCardGuardUserDecision.name : GiftCardGuardUserDecision → Text
  | .avoided => "AVOIDED"
  | .continuedAnyway => "CONTINUED_ANYWAY"
  | .escalatedToTrustedContact => "ESCALATED_TO_TRUSTED_CONTACT"

inductive GiftCardGuardImpersonationType where
  | none | government | bank | techSupport | lawEnforcement | employer | romance | utility
  | charity | other
deriving DecidableEq

def GiftCardGuardImpersonationType.name : GiftCardGuardImpersonationType → Text
  | .none => "NONE"
  | .government => "GOVERNMENT"
  | .bank => "BANK"
  | .techSupport => "TECH_SUPPORT"
  | .lawEnforcement => "LAW_ENFORCEMENT"
  | .employer => "EMPLOYER"
  | .romance => "ROMANCE"
  | .utility => "UTILITY"
  | .charity => "CHARITY"
  | .other => "OTHER"

inductive WalletGuardDecision where
  | pending | validated | blocked | escalatedToTrustedContact | continuedAnyway
deriving DecidableEq

def WalletGuardDecision.name : WalletGuardDecision → Text
  | .pending => "PENDING"
  | .validated => "VALIDATED"
  | .blocked => "BLOCKED"
  | .escalatedToTrustedContact => "ESCALATED_TO_TRUSTED_CONTACT"
  | .continuedAnyway => "CONTINUED_ANYWAY"

inductive WalletGuardUserDecision where
  | validated | blocked | escalatedToTrustedContact | continuedAnyway
deriving DecidableEq

def WalletGuardUserDecision.name : WalletGuardUserDecision → Text
  | .validated => "VALIDATED"
  | .blocked => "BLOCKED"
  | .escalatedToTrustedContact => "ESCALATED_TO_TRUSTED_CONTACT"
  | .continuedAnyway => "CONTINUED_ANYWAY"

inductive WalletNetwork where
  | eth | btc | trx | sol | bsc | matic | arbitrum | optimism | other
deriving DecidableEq

def WalletNetwork.name : WalletNetwork → Text
  | .eth => "ETH"
  | .btc => "BTC"
  | .trx => "TRX"
  | .sol => "SOL"
  | .bsc => "BSC"
  | .matic => "MATIC"
  | .arbitrum => "ARBITRUM"
  | .optimism => "OPTIMISM"
  | .other => "OTHER"

inductive ClaimVerifyDecision where
  | pending | trusted | rejected | escalatedToTrustedContact | continuedAnyway
deriving DecidableEq

def ClaimVerifyDecision.name : ClaimVerifyDecision → Text
  | .pending => "PENDING"
  | .trusted => "TRUSTED"
  | .rejected => "REJECTED"
  | .escalatedToTrustedContact => "ESCALATED_TO_TRUSTED_CONTACT"
  | .continuedAnyway => "CONTINUED_ANYWAY"

inductive ClaimVerifyUserDecision where
  | trusted | rejected | escalatedToTrustedContact | continuedAnyway
deriving DecidableEq

def ClaimVerifyUserDecision.name : ClaimVerifyUserDecision → Text
  | .trusted => "TRUSTED"
  | .rejected => "REJECTED"
  | .escalatedToTrustedContact => "ESCALATED_TO_TRUSTED_CONTACT"
  | .continuedAnyway => "CONTINUED_ANYWAY"

inductive ClaimVerifyType where
  | romance | investment | charity | hospital | medicalEmergency | oilProject | goldProject
  | roadConstruction | businessPartnership | inheritance | legalClaim | government | immigration
  | job | workFromHome | other
deriving DecidableEq

def ClaimVerifyType.name : ClaimVerifyType → Text
  | .romance => "ROMANCE"
  | .investment => "INVESTMENT"
  | .charity => "CHARITY"
  | .hospital => "HOSPITAL"
  | .medicalEmergency => "MEDICAL_EMERGENCY"
  | .oilProject => "OIL_PROJECT"
  | .goldProject => "GOLD_PROJECT"
  | .roadConstruction => "ROAD_CONSTRUCTION"
  | .businessPartnership => "BUSINESS_PARTNERSHIP"
  | .inheritance => "INHERITANCE"
  | .legalClaim => "LEGAL_CLAIM"
  | .government => "GOVERNMENT"
  | .immigration => "IMMIGRATION"
  | .job => "JOB"
  | .workFromHome => "WORK_FROM_HOME"
  | .other => "OTHER"

inductive GuardianPauseStatus where
  | active | resolved | continuedAnyway | expired
deriving DecidableEq

def GuardianPauseStatus.name : GuardianPauseStatus → Text
  | .active => "ACTIVE"
  | .resolved => "RESOLVED"
  | .continuedAnyway => "CONTINUED_ANYWAY"
  | .expired => "EXPIRED"

inductive PauseResolution where
  | resolved | continuedAnyway | expired
deriving DecidableEq

def PauseResolution.name : PauseResolution → Text
  | .resolved => "RESOLVED"
  | .continuedAnyway => "CONTINUED_ANYWAY"
  | .expired => "EXPIRED"

/-- `TrustedContactReviewStatus`. -/
inductive ReviewStatus where
  | pending | decided | expired | cancelled
deriving DecidableEq

def ReviewStatus.name : ReviewStatus → Text
  | .pending => "PENDING"
  | .decided => "DECIDED"
  | .expired => "EXPIRED"
  | .cancelled => "CANCELLED"

/-- `TrustedContactReviewDecision`. -/
inductive ReviewDecision where
  | approveAfterVerification | rejectHighRisk | needMoreInformation | callUserImmediately
  | escalateToBankOrAgency
deriving DecidableEq

def ReviewDecision.name : ReviewDecision → Text
  | .approveAfterVerification => "APPROVE_AFTER_VERIFICATION"
  | .rejectHighRisk => "REJECT_HIGH_RISK"
  | .needMoreInformation => "NEED_MORE_INFORMATION"
  | .callUserImmediately => "CALL_USER_IMMEDIATELY"
  | .escalateToBankOrAgency => "ESCALATE_TO_BANK_OR_AGENCY"

inductive ContactStatus where
  | active | inactive
deriving DecidableEq

end Protection
