import Vigiscam.Protection.Enums
import Vigiscam.Scores.Breakdown

/-!
# What the teller sees (`teller-assist.scorer.ts`)

A teller notes what a customer wants and how the customer behaves, and gets a score, a level and
an action. Two behaviours of scams that are under way tip the level to CRITICAL by themselves.
-/

namespace BankPortal

open Js Protection Scores

inductive TellerTransactionChannel where
  | internalTransfer | ach | wireDomestic | wireInternational | cryptoPurchase | giftCardPurchase
  | cashWithdrawal | check
deriving DecidableEq

def TellerTransactionChannel.name : TellerTransactionChannel → Text
  | .internalTransfer => "INTERNAL_TRANSFER"
  | .ach => "ACH"
  | .wireDomestic => "WIRE_DOMESTIC"
  | .wireInternational => "WIRE_INTERNATIONAL"
  | .cryptoPurchase => "CRYPTO_PURCHASE"
  | .giftCardPurchase => "GIFT_CARD_PURCHASE"
  | .cashWithdrawal => "CASH_WITHDRAWAL"
  | .check => "CHECK"

inductive TellerRecipientType where
  | existingPayee | newPayee | foreignPayee | businessNew | cryptoExchange | peerToPeerApp | unknown
deriving DecidableEq

def TellerRecipientType.name : TellerRecipientType → Text
  | .existingPayee => "EXISTING_PAYEE"
  | .newPayee => "NEW_PAYEE"
  | .foreignPayee => "FOREIGN_PAYEE"
  | .businessNew => "BUSINESS_NEW"
  | .cryptoExchange => "CRYPTO_EXCHANGE"
  | .peerToPeerApp => "PEER_TO_PEER_APP"
  | .unknown => "UNKNOWN"

inductive TellerCustomerStatedReason where
  | noneGiven | personalPayment | investmentOpportunity | governmentFeeOrFine | techSupportFee
  | familyEmergency | romanticPartner | lotteryOrPrizeFee | businessInvoice | charity | other
deriving DecidableEq

def TellerCustomerStatedReason.name : TellerCustomerStatedReason → Text
  | .noneGiven => "NONE_GIVEN"
  | .personalPayment => "PERSONAL_PAYMENT"
  | .investmentOpportunity => "INVESTMENT_OPPORTUNITY"
  | .governmentFeeOrFine => "GOVERNMENT_FEE_OR_FINE"
  | .techSupportFee => "TECH_SUPPORT_FEE"
  | .familyEmergency => "FAMILY_EMERGENCY"
  | .romanticPartner => "ROMANTIC_PARTNER"
  | .lotteryOrPrizeFee => "LOTTERY_OR_PRIZE_FEE"
  | .businessInvoice => "BUSINESS_INVOICE"
  | .charity => "CHARITY"
  | .other => "OTHER"

inductive TellerBehaviorSignal where
  | distressed | confused | onPhoneDuringTransaction | receivingInstructionsFromCaller
  | coachedResponses | refusedToExplain | firstTimeLargeTransfer | elderlyAndPressured
  | secrecyRequested | urgencyPressure
deriving DecidableEq

def TellerBehaviorSignal.name : TellerBehaviorSignal → Text
  | .distressed => "DISTRESSED"
  | .confused => "CONFUSED"
  | .onPhoneDuringTransaction => "ON_PHONE_DURING_TRANSACTION"
  | .receivingInstructionsFromCaller => "RECEIVING_INSTRUCTIONS_FROM_CALLER"
  | .coachedResponses => "COACHED_RESPONSES"
  | .refusedToExplain => "REFUSED_TO_EXPLAIN"
  | .firstTimeLargeTransfer => "FIRST_TIME_LARGE_TRANSFER"
  | .elderlyAndPressured => "ELDERLY_AND_PRESSURED"
  | .secrecyRequested => "SECRECY_REQUESTED"
  | .urgencyPressure => "URGENCY_PRESSURE"

inductive TellerRecommendedAction where
  | proceed | verifyVerbally | callFamilyOrTrustedContact | delayAndEscalateToAnalyst
  | refuseAndEscalateToFraud
deriving DecidableEq

/-- The place of an action in the list of them. -/
def TellerRecommendedAction.severity : TellerRecommendedAction → Nat
  | .proceed => 0
  | .verifyVerbally => 1
  | .callFamilyOrTrustedContact => 2
  | .delayAndEscalateToAnalyst => 3
  | .refuseAndEscalateToFraud => 4

structure TellerAssistInput where
  transactionChannel : TellerTransactionChannel
  amountMinor : Int
  recipientType : TellerRecipientType
  customerStatedReason : Option TellerCustomerStatedReason
  behaviorSignals : Option (List TellerBehaviorSignal)
  /-- The bank has marked the customer as elderly. -/
  elderMode : Option Bool

structure TellerAssistScoring where
  riskScore : Int
  riskLevel : RiskLevel
  recommendedAction : TellerRecommendedAction
  breakdown : List BreakdownEntry

/-! ## Points -/

def CHANNEL_POINTS : TellerTransactionChannel → Int
  | .internalTransfer => 0
  | .ach => 5
  | .wireDomestic => 10
  | .wireInternational => 20
  | .cryptoPurchase => 30
  | .giftCardPurchase => 30
  | .cashWithdrawal => 10
  | .check => 5

def RECIPIENT_POINTS : TellerRecipientType → Int
  | .existingPayee => 0
  | .newPayee => 10
  | .foreignPayee => 20
  | .businessNew => 15
  | .cryptoExchange => 25
  | .peerToPeerApp => 15
  | .unknown => 10

def REASON_POINTS : TellerCustomerStatedReason → Int
  | .noneGiven => 10
  | .personalPayment => 0
  | .investmentOpportunity => 25
  | .governmentFeeOrFine => 35
  | .techSupportFee => 35
  | .familyEmergency => 20
  | .romanticPartner => 25
  | .lotteryOrPrizeFee => 40
  | .businessInvoice => 5
  | .charity => 10
  | .other => 5

/-- Behaviour predicts best. -/
def BEHAVIOR_POINTS : TellerBehaviorSignal → Int
  | .distressed => 10
  | .confused => 10
  | .onPhoneDuringTransaction => 15
  | .receivingInstructionsFromCaller => 35
  | .coachedResponses => 25
  | .refusedToExplain => 20
  | .firstTimeLargeTransfer => 15
  | .elderlyAndPressured => 25
  | .secrecyRequested => 20
  | .urgencyPressure => 15

def amountBandPoints (cents : Int) : Int :=
  if cents ≥ 5000000 then 25
  else if cents ≥ 1000000 then 15
  else if cents ≥ 500000 then 10
  else if cents ≥ 100000 then 5
  else 0

namespace TellerAssistInput

/-- A customer who gives no reason is one whose reason is NONE_GIVEN. -/
def reason (input : TellerAssistInput) : TellerCustomerStatedReason :=
  input.customerStatedReason.getD .noneGiven

def signals (input : TellerAssistInput) : List TellerBehaviorSignal :=
  input.behaviorSignals.getD []

def breakdown (input : TellerAssistInput) : List BreakdownEntry :=
  pushed "channel" (CHANNEL_POINTS input.transactionChannel)
      (utf16 "Channel \"" ++ input.transactionChannel.name ++ utf16 "\" carries baseline risk") ++
    pushed "recipient" (RECIPIENT_POINTS input.recipientType)
      (utf16 "Recipient classification \"" ++ input.recipientType.name ++ utf16 "\"") ++
    pushed "customer_stated_reason" (REASON_POINTS input.reason)
      (utf16 "Customer stated reason \"" ++ input.reason.name ++
        utf16 "\" — known scammer-favoured framing") ++
    pushed "amount_band" (amountBandPoints input.amountMinor)
      "Amount band — larger transfers correlate with higher scam losses" ++
    input.signals.flatMap (fun sig => pushed (utf16 "behavior:" ++ sig.name) (BEHAVIOR_POINTS sig)
      (utf16 "Behavior signal observed: " ++ sig.name)) ++
    flagged input.elderMode "elder_mode" 15
      "Customer is registered in Elder Mode — extra protective weighting"

def behaviorTotal (input : TellerAssistInput) : Int :=
  ((input.signals.map BEHAVIOR_POINTS).filter (· > 0)).sum

def riskScore (input : TellerAssistInput) : Int := min 100 (raw input.breakdown)

/-- These tip the level, whatever the score is. -/
def hardStop (input : TellerAssistInput) : Bool :=
  input.signals.contains .receivingInstructionsFromCaller || input.reason = .lotteryOrPrizeFee ||
    input.reason = .techSupportFee

end TellerAssistInput

def tellerLevel (hardStop : Bool) (riskScore : Int) : RiskLevel :=
  if hardStop then .critical
  else if riskScore ≥ 80 then .critical
  else if riskScore ≥ 60 then .high
  else if riskScore ≥ 30 then .medium
  else .low

def tellerAction (elderMode : Option Bool) (behaviorTotal : Int) :
    RiskLevel → TellerRecommendedAction
  | .critical => .refuseAndEscalateToFraud
  | .high => .delayAndEscalateToAnalyst
  | .medium =>
    if elderMode = some true ∨ behaviorTotal ≥ 25 then .callFamilyOrTrustedContact
    else .verifyVerbally
  | .low => .proceed

def scoreTellerAssist (input : TellerAssistInput) : TellerAssistScoring :=
  let riskLevel := tellerLevel input.hardStop input.riskScore
  { riskScore := input.riskScore
    riskLevel
    recommendedAction := tellerAction input.elderMode input.behaviorTotal riskLevel
    breakdown := input.breakdown }

/-! ## What raises the score -/

namespace TellerAssistInput

inductive Raise (i : TellerAssistInput) : TellerAssistInput → Prop
  | transactionChannel {transactionChannel : TellerTransactionChannel}
      (h : CHANNEL_POINTS i.transactionChannel < CHANNEL_POINTS transactionChannel) :
      Raise i { i with transactionChannel }
  | amountMinor {amountMinor : Int} (h : i.amountMinor ≤ amountMinor) :
      Raise i { i with amountMinor }
  | recipientType {recipientType : TellerRecipientType}
      (h : RECIPIENT_POINTS i.recipientType < RECIPIENT_POINTS recipientType) :
      Raise i { i with recipientType }
  | customerStatedReason {reason : TellerCustomerStatedReason}
      (h : REASON_POINTS i.reason < REASON_POINTS reason) :
      Raise i { i with customerStatedReason := some reason }
  | behaviorSignals {before rest : List TellerBehaviorSignal} {sig : TellerBehaviorSignal}
      (h : i.signals = before ++ rest) :
      Raise i { i with behaviorSignals := some (before ++ sig :: rest) }
  | elderMode : Raise i { i with elderMode := some true }

theorem raw_breakdown (i : TellerAssistInput) :
    raw i.breakdown = max 0 (CHANNEL_POINTS i.transactionChannel) +
      max 0 (RECIPIENT_POINTS i.recipientType) + max 0 (REASON_POINTS i.reason) +
      max 0 (amountBandPoints i.amountMinor) +
      (i.signals.map fun sig => max 0 (BEHAVIOR_POINTS sig)).sum +
      raw (flagged i.elderMode "elder_mode" 15
        "Customer is registered in Elder Mode — extra protective weighting") := by
  simp only [breakdown, raw_append, raw_pushed, raw_flatMap]

theorem points_breakdown (i : TellerAssistInput) : ∀ entry ∈ i.breakdown, 0 < entry.points := by
  intro entry hmem
  simp only [breakdown, List.mem_append, List.mem_flatMap] at hmem
  rcases hmem with ((((hmem | hmem) | hmem) | hmem) | ⟨sig, -, hmem⟩) | hmem
  · exact points_pushed entry hmem
  · exact points_pushed entry hmem
  · exact points_pushed entry hmem
  · exact points_pushed entry hmem
  · exact points_pushed entry hmem
  · exact points_flagged (by decide) entry hmem

theorem amountBandPoints_mono : Monotone amountBandPoints := by
  intro a b h
  unfold amountBandPoints
  split_ifs <;> omega

theorem behaviorTotal_eq (i : TellerAssistInput) :
    i.behaviorTotal = (i.signals.map BEHAVIOR_POINTS).sum := by
  rw [behaviorTotal, List.filter_eq_self.mpr]
  intro points hmem
  obtain ⟨sig, -, rfl⟩ := List.mem_map.mp hmem
  cases sig <;> rfl

/-- All that the answer is read off is at least as bad for the second input. -/
structure AtMost (i j : TellerAssistInput) : Prop where
  sum : raw i.breakdown ≤ raw j.breakdown
  hardStop : i.hardStop = true → j.hardStop = true
  elderMode : i.elderMode = some true → j.elderMode = some true
  behaviorTotal : i.behaviorTotal ≤ j.behaviorTotal

/-- A hard stop is a reason that no other one outweighs, but for another hard stop. -/
theorem hardStop_of_reason {reason reason' : TellerCustomerStatedReason}
    (h : REASON_POINTS reason < REASON_POINTS reason')
    (hstop : reason = .lotteryOrPrizeFee ∨ reason = .techSupportFee) :
    reason' = .lotteryOrPrizeFee := by
  rcases hstop with rfl | rfl <;> cases reason' <;> revert h <;> decide

theorem Raise.atMost {i j : TellerAssistInput} (h : i.Raise j) : i.AtMost j := by
  cases h with
  | transactionChannel h =>
    refine ⟨?_, id, id, le_refl _⟩
    rw [raw_breakdown, raw_breakdown]
    simp only [reason, signals]
    omega
  | amountMinor h =>
    refine ⟨?_, id, id, le_refl _⟩
    have hband := amountBandPoints_mono h
    rw [raw_breakdown, raw_breakdown]
    simp only [reason, signals]
    omega
  | recipientType h =>
    refine ⟨?_, id, id, le_refl _⟩
    rw [raw_breakdown, raw_breakdown]
    simp only [reason, signals]
    omega
  | @customerStatedReason given h =>
    refine ⟨?_, fun hstop => ?_, id, le_refl _⟩
    · rw [raw_breakdown, raw_breakdown]
      simp only [reason, signals, Option.getD_some] at h ⊢
      omega
    · simp only [hardStop, Bool.or_eq_true, decide_eq_true_eq, or_assoc] at hstop ⊢
      rcases hstop with hcaller | hreason
      · exact Or.inl hcaller
      · exact Or.inr (Or.inl (hardStop_of_reason h hreason))
  | @behaviorSignals before rest sig h =>
    have hpoints : 0 < BEHAVIOR_POINTS sig := by cases sig <;> decide
    have hsignals : i.behaviorSignals.getD [] = before ++ rest := h
    refine ⟨?_, fun hstop => ?_, id, ?_⟩
    · rw [raw_breakdown, raw_breakdown]
      simp only [signals, hsignals, reason, Option.getD_some, List.map_append, List.map_cons,
        List.sum_append, List.sum_cons]
      omega
    · simp only [hardStop, signals, hsignals, reason, Option.getD_some, List.contains_iff_mem,
        List.mem_append, List.mem_cons, Bool.or_eq_true, or_assoc] at hstop ⊢
      tauto
    · rw [behaviorTotal_eq, behaviorTotal_eq]
      simp only [signals, hsignals, Option.getD_some, List.map_append, List.map_cons,
        List.sum_append, List.sum_cons]
      omega
  | elderMode =>
    refine ⟨?_, id, fun _ => rfl, le_refl _⟩
    rw [raw_breakdown, raw_breakdown]
    exact Int.add_le_add_left (raw_flagged_le (by decide)) _

end TellerAssistInput

theorem tellerLevel_mono {hardStop hardStop' : Bool} {riskScore riskScore' : Int}
    (hstop : hardStop = true → hardStop' = true) (h : riskScore ≤ riskScore') :
    (tellerLevel hardStop riskScore).severity ≤ (tellerLevel hardStop' riskScore').severity := by
  cases hardStop with
  | true =>
    rw [hstop rfl]
    exact le_refl _
  | false =>
    simp only [tellerLevel, Bool.false_eq_true, if_false]
    split_ifs <;> simp only [RiskLevel.severity] <;> omega

/-- Every level has actions of its own. -/
theorem severity_tellerAction (elderMode : Option Bool) (total : Int) (level : RiskLevel) :
    level.severity ≤ (tellerAction elderMode total level).severity ∧
      (tellerAction elderMode total level).severity ≤ level.severity + 1 := by
  cases level with
  | medium =>
    rw [tellerAction]
    split <;> decide
  | low => exact ⟨le_refl 0, Nat.zero_le 1⟩
  | high => exact ⟨Nat.le_succ 2, le_refl 3⟩
  | critical => exact ⟨Nat.le_succ 3, le_refl 4⟩

theorem severity_injective : Function.Injective RiskLevel.severity := by
  intro a b h
  cases a <;> cases b <;> first | rfl | cases h

theorem tellerAction_mono {elderMode elderMode' : Option Bool} {total total' : Int}
    {level level' : RiskLevel} (helder : elderMode = some true → elderMode' = some true)
    (htotal : total ≤ total') (hlevel : level.severity ≤ level'.severity) :
    (tellerAction elderMode total level).severity ≤
      (tellerAction elderMode' total' level').severity := by
  rcases Nat.lt_or_eq_of_le hlevel with hlt | heq
  · have hbefore := severity_tellerAction elderMode total level
    have hafter := severity_tellerAction elderMode' total' level'
    omega
  · -- at one level, more care is never a weaker action
    obtain rfl := severity_injective heq
    have hcare : elderMode = some true ∨ total ≥ 25 → elderMode' = some true ∨ total' ≥ 25 :=
      Or.imp helder fun h => le_trans h htotal
    cases level with
    | medium =>
      rw [tellerAction, tellerAction]
      split_ifs with hmild hmild'
      · exact le_refl _
      · exact absurd (hcare hmild) hmild'
      · decide
      · exact le_refl _
    | low => exact le_refl _
    | high => exact le_refl _
    | critical => exact le_refl _

def tellerAssist : Scorer TellerAssistInput where
  score i := some (scoreTellerAssist i).riskScore
  points i := (scoreTellerAssist i).breakdown.map fun entry => some entry.points
  level i := (scoreTellerAssist i).riskLevel.severity
  action i := (scoreTellerAssist i).recommendedAction.severity
  Raise := TellerAssistInput.Raise

theorem tellerAssist_sound : tellerAssist.Sound := by
  have hscore : ∀ i : TellerAssistInput, i.riskScore = clamp (raw i.breakdown) := fun i =>
    (clamp_of_nonneg (raw_nonneg i.points_breakdown)).symm
  have hlevel : ∀ i j : TellerAssistInput, i.AtMost j →
      (scoreTellerAssist i).riskLevel.severity ≤ (scoreTellerAssist j).riskLevel.severity := by
    intro i j h
    refine tellerLevel_mono h.hardStop ?_
    rw [hscore, hscore]
    exact clamp_mono h.sum
  refine Scorer.sound_of_sum (fun i => i.breakdown.map BreakdownEntry.points) (fun i => ?_)
    (fun i => congrArg some (hscore i)) (fun i j h => ?_) (fun i j h => ?_) fun i j h => ?_
  · exact (List.map_map ..).symm
  · exact (TellerAssistInput.Raise.atMost h).sum
  · exact hlevel i j (TellerAssistInput.Raise.atMost h)
  · have hmost := TellerAssistInput.Raise.atMost h
    exact tellerAction_mono hmost.elderMode hmost.behaviorTotal (hlevel i j hmost)

end BankPortal
