import Vigiscam.BankPortal.TellerAssist
import Vigiscam.Portals.Isolation

/-!
# The portal of a bank (`bank-portal.service.ts`)

The queue of an analyst has the held transactions and the wallet checks of the bank's own
customers; the scores of the tellers and the reviews of the cases are the bank's. What banks do
runs at once with whatever the customers do, and any step may fail: no bank learns of what
another one does, from no answer and no error, and no bank changes what another one sees
(`bank_isolation`).
-/

namespace BankPortal

open Js Value Concurrency EvidenceVault Protection Portals

/-! ## Rows of customers -/

structure ScamHoldEvent where
  id : Uuid
  userId : Uuid
  tenantId : Option Uuid
  transactionType : ScamHoldTransactionType
  amountMinor : Int
  currency : Text
  recipient : Text
  riskScore : Int
  riskLevel : RiskLevel
  status : ScamHoldStatus
  createdAt : Date

structure WalletCheck where
  id : Uuid
  userId : Uuid
  tenantId : Option Uuid
  network : WalletNetwork
  address : Text
  riskScore : Int
  riskLevel : RiskLevel
  decision : WalletGuardDecision
  createdAt : Date

/-- The rows of customers, of whatever tenant. -/
structure Customers where
  scamHolds : List ScamHoldEvent
  walletChecks : List WalletCheck

/-! ## The queue -/

/-- A `BigInt` as a text. -/
def bigIntText (n : Int) : Text := utf16 (toString n)

/-- A held transaction in the queue, with the columns that are selected. -/
structure ScamHoldItem where
  id : Uuid
  userId : Uuid
  transactionType : ScamHoldTransactionType
  amountMinor : Text
  currency : Text
  recipient : Text
  riskScore : Int
  riskLevel : RiskLevel
  status : ScamHoldStatus
  createdAt : Date

def ScamHoldEvent.item (event : ScamHoldEvent) : ScamHoldItem where
  id := event.id
  userId := event.userId
  transactionType := event.transactionType
  amountMinor := bigIntText event.amountMinor
  currency := event.currency
  recipient := event.recipient
  riskScore := event.riskScore
  riskLevel := event.riskLevel
  status := event.status
  createdAt := event.createdAt

structure WalletItem where
  id : Uuid
  userId : Uuid
  network : WalletNetwork
  address : Text
  riskScore : Int
  riskLevel : RiskLevel
  decision : WalletGuardDecision
  createdAt : Date

def WalletCheck.item (check : WalletCheck) : WalletItem where
  id := check.id
  userId := check.userId
  network := check.network
  address := check.address
  riskScore := check.riskScore
  riskLevel := check.riskLevel
  decision := check.decision
  createdAt := check.createdAt

structure BankQueue where
  generatedAt : Text
  minRiskLevel : QueueRiskFilter
  limit : Nat
  scamHoldEvents : List ScamHoldItem
  walletChecks : List WalletItem

/-! ## Tellers and analysts -/

def TellerRecommendedAction.name : TellerRecommendedAction → Text
  | .proceed => "PROCEED"
  | .verifyVerbally => "VERIFY_VERBALLY"
  | .callFamilyOrTrustedContact => "CALL_FAMILY_OR_TRUSTED_CONTACT"
  | .delayAndEscalateToAnalyst => "DELAY_AND_ESCALATE_TO_ANALYST"
  | .refuseAndEscalateToFraud => "REFUSE_AND_ESCALATE_TO_FRAUD"

structure TellerAssistDto where
  transactionChannel : TellerTransactionChannel
  amountMinor : Int
  currency : Option Text
  recipientType : TellerRecipientType
  customerStatedReason : Option TellerCustomerStatedReason
  behaviorSignals : Option (List TellerBehaviorSignal)
  elderMode : Option Bool
  customerReference : Option Text

def TellerAssistDto.input (dto : TellerAssistDto) : TellerAssistInput where
  transactionChannel := dto.transactionChannel
  amountMinor := dto.amountMinor
  recipientType := dto.recipientType
  customerStatedReason := dto.customerStatedReason
  behaviorSignals := dto.behaviorSignals
  elderMode := dto.elderMode

/-- The columns that `teller_assist_scores` has of its own. -/
structure TellerColumns where
  customerReference : Option Text
  transactionChannel : TellerTransactionChannel
  amountMinor : Int
  currency : Text
  recipientType : TellerRecipientType
  customerStatedReason : Option TellerCustomerStatedReason
  behaviorSignals : List TellerBehaviorSignal
  riskScore : Int
  recommendedAction : TellerRecommendedAction
  riskBreakdown : List Scores.BreakdownEntry

def TellerAssistDto.columns (dto : TellerAssistDto) (scoring : TellerAssistScoring) :
    TellerColumns where
  customerReference := dto.customerReference
  transactionChannel := dto.transactionChannel
  amountMinor := dto.amountMinor
  currency := dto.currency.getD "USD"
  recipientType := dto.recipientType
  customerStatedReason := dto.customerStatedReason
  behaviorSignals := dto.behaviorSignals.getD []
  riskScore := scoring.riskScore
  recommendedAction := scoring.recommendedAction
  riskBreakdown := scoring.breakdown

def tellerMetadata (dto : TellerAssistDto) (scoring : TellerAssistScoring) : Value :=
  .object [("riskScore", .number (Number.ofInt scoring.riskScore)),
    ("riskLevel", .string scoring.riskLevel.name),
    ("recommendedAction", .string scoring.recommendedAction.name),
    ("transactionChannel", .string dto.transactionChannel.name),
    ("recipientType", .string dto.recipientType.name)]

theorem distinct_tellerMetadata (dto : TellerAssistDto) (scoring : TellerAssistScoring) :
    (tellerMetadata dto scoring).Distinct := by
  refine ⟨?_, trivial, trivial, trivial, trivial, trivial, trivial⟩
  show List.Nodup [utf16 "riskScore", utf16 "riskLevel", utf16 "recommendedAction",
    utf16 "transactionChannel", utf16 "recipientType"]
  decide

def tellerEvent (user : AuthenticatedUser) (dto : TellerAssistDto) (scoring : TellerAssistScoring)
    (row : Scored TellerColumns) : AppendEvidenceInput :=
  deskEvent user "TELLER_ASSIST_SCORE" row.id "BANK_PORTAL_TELLER_SCORED"
    (utf16 "Teller scored a " ++ scoring.riskLevel.name ++ utf16 " transaction (" ++
      scoring.recommendedAction.name ++ utf16 ")")
    (tellerMetadata dto scoring) (distinct_tellerMetadata dto scoring)

structure TellerAssistResponse where
  row : Scored TellerColumns
  amountMinor : Text
  scoring : TellerAssistScoring

inductive BankCaseReviewDecision where
  | allow | block | needMoreInfo | escalateToFraud | contactCustomer
deriving DecidableEq

def BankCaseReviewDecision.name : BankCaseReviewDecision → Text
  | .allow => "ALLOW"
  | .block => "BLOCK"
  | .needMoreInfo => "NEED_MORE_INFO"
  | .escalateToFraud => "ESCALATE_TO_FRAUD"
  | .contactCustomer => "CONTACT_CUSTOMER"

structure ReviewCaseDto where
  decision : BankCaseReviewDecision
  notes : Option Text

def reviewMetadata (scamHoldEventId : Uuid) (dto : ReviewCaseDto) : Value :=
  .object [("scamHoldEventId", .string scamHoldEventId), ("decision", .string dto.decision.name)]

theorem distinct_reviewMetadata (scamHoldEventId : Uuid) (dto : ReviewCaseDto) :
    (reviewMetadata scamHoldEventId dto).Distinct := by
  refine ⟨?_, trivial, trivial, trivial⟩
  show List.Nodup [utf16 "scamHoldEventId", utf16 "decision"]
  decide

def reviewEvent (user : AuthenticatedUser) (scamHoldEventId : Uuid) (dto : ReviewCaseDto)
    (row : Review BankCaseReviewDecision) : AppendEvidenceInput :=
  deskEvent user "BANK_CASE_REVIEW" row.id (utf16 "BANK_PORTAL_CASE_" ++ dto.decision.name)
    (utf16 "Bank analyst recorded a " ++ dto.decision.name ++ utf16 " review on ScamHold " ++
      scamHoldEventId)
    (reviewMetadata scamHoldEventId dto) (distinct_reviewMetadata scamHoldEventId dto)

/-! ## The service -/

abbrev BankStore := Store Customers TellerColumns BankCaseReviewDecision

abbrev Service := Program Customers TellerColumns BankCaseReviewDecision

def BankPortalService.getQueue (user : AuthenticatedUser) (query : QueueQueryDto) :
    Service BankQueue := do
  let levels := riskLevelsAtOrAbove query.min
  let scamHolds ← read fun s =>
    listed ScamHoldEvent.tenantId ScamHoldEvent.riskLevel user.tenantId levels query.size
      s.world.scamHolds
  let walletChecks ← read fun s =>
    listed WalletCheck.tenantId WalletCheck.riskLevel user.tenantId levels query.size
      s.world.walletChecks
  let now ← read fun s => s.now
  return {
    generatedAt := now.toISOString
    minRiskLevel := query.min
    limit := query.size
    scamHoldEvents := scamHolds.map ScamHoldEvent.item
    walletChecks := walletChecks.map WalletCheck.item }

def BankPortalService.tellerAssist (user : AuthenticatedUser) (dto : TellerAssistDto) :
    Service TellerAssistResponse := do
  let scoring := scoreTellerAssist dto.input
  let updated ← recordScore user scoring.riskLevel (dto.columns scoring)
    (tellerEvent user dto scoring)
  return ⟨updated, bigIntText updated.columns.amountMinor, scoring⟩

def caseTexts : ReviewTexts where
  notFound := "ScamHold case not found"
  reviewed := "This case has already been reviewed by your bank"

/-- `findUnique` of the case, with the tenant of its customer. -/
def Customers.tenantOf (customers : Customers) (scamHoldEventId : Uuid) : Option (Option Uuid) :=
  (Table.find ScamHoldEvent.id scamHoldEventId customers.scamHolds).map ScamHoldEvent.tenantId

def BankPortalService.reviewCase (user : AuthenticatedUser) (scamHoldEventId : Uuid)
    (dto : ReviewCaseDto) : Service (Review BankCaseReviewDecision) :=
  reviewSubject caseTexts Customers.tenantOf user scamHoldEventId dto.decision dto.notes
    (reviewEvent user scamHoldEventId dto)

/-- The routes of the controller. -/
inductive Request where
  | queue (query : QueueQueryDto)
  | tellerAssist (dto : TellerAssistDto)
  | reviewCase (scamHoldId : Uuid) (dto : ReviewCaseDto)

inductive Response where
  | queue (queue : BankQueue)
  | tellerAssist (response : TellerAssistResponse)
  | reviewCase (review : Review BankCaseReviewDecision)

def serve (user : AuthenticatedUser) : Request → Service Response
  | .queue query => return .queue (← BankPortalService.getQueue user query)
  | .tellerAssist dto => return .tellerAssist (← BankPortalService.tellerAssist user dto)
  | .reviewCase scamHoldId dto =>
    return .reviewCase (← BankPortalService.reviewCase user scamHoldId dto)

/-! ## Isolation -/

section Isolation

variable {ids : Uuid → Nat → Uuid} {T : Uuid} {user : AuthenticatedUser}

/-- The customers of the bank have the same rows. -/
structure SameCustomers (T : Uuid) (v w : Customers) : Prop where
  scamHolds : SameRows ScamHoldEvent.id ScamHoldEvent.tenantId T v.scamHolds w.scamHolds
  walletChecks : SameRows WalletCheck.id WalletCheck.tenantId T v.walletChecks w.walletChecks

theorem similar_getQueue (query : QueueQueryDto) :
    Prog.Similar (Alike ids (SameCustomers user.tenantId) user.tenantId) Eq
      (BankPortalService.getQueue user query) (BankPortalService.getQueue user query) := by
  refine Prog.Similar.bind (similar_read fun x y hxy => hxy.world.scamHolds.listed _ _ _) ?_
  rintro scamHolds _ rfl
  refine Prog.Similar.bind (similar_read fun x y hxy => hxy.world.walletChecks.listed _ _ _) ?_
  rintro walletChecks _ rfl
  refine Prog.Similar.bind (similar_read fun x y hxy => hxy.now) ?_
  rintro now _ rfl
  exact Prog.Similar.pure rfl

theorem similar_serve (hids : Distinguished ids) (request : Request) :
    Prog.Similar (Alike ids (SameCustomers user.tenantId) user.tenantId) Eq
      (serve user request) (serve user request) := by
  cases request with
  | queue query =>
    refine Prog.Similar.bind (similar_getQueue query) ?_
    rintro queue _ rfl
    exact Prog.Similar.pure rfl
  | tellerAssist dto =>
    refine Prog.Similar.bind (R := Eq) ?_ ?_
    · refine Prog.Similar.bind (similar_recordScore hids _ _ _) ?_
      rintro updated _ rfl
      exact Prog.Similar.pure rfl
    · rintro response _ rfl
      exact Prog.Similar.pure rfl
  | reviewCase scamHoldId dto =>
    refine Prog.Similar.bind (similar_reviewSubject hids
      (fun v w hvw => hvw.scamHolds.tenantOf scamHoldId) dto.decision dto.notes _) ?_
    rintro review _ rfl
    exact Prog.Similar.pure rfl

theorem hidden_serve (hids : Distinguished ids) (hT : user.tenantId ≠ T) (request : Request) :
    Prog.Hidden (Alike ids (SameCustomers T) T) (fun _ => True) (serve user request) := by
  have hanswer : ∀ {α : Type} {p : Service α} (f : α → Response),
      Prog.Hidden (Alike ids (SameCustomers T) T) (fun _ => True) p →
        Prog.Hidden (Alike ids (SameCustomers T) T) (fun _ => True)
          (p >>= fun a => pure (f a)) := fun f hp =>
    Prog.Hidden.bind hp fun _ _ => Prog.Hidden.pure trivial
  cases request with
  | queue query =>
    refine hanswer _ (Prog.Hidden.bind hidden_read fun scamHolds _ => ?_)
    refine Prog.Hidden.bind hidden_read fun walletChecks _ => ?_
    exact Prog.Hidden.bind hidden_read fun now _ => Prog.Hidden.pure trivial
  | tellerAssist dto =>
    refine hanswer _ (Prog.Hidden.bind (hidden_recordScore hids hT _ _ fun _ => rfl) ?_)
    exact fun updated _ => Prog.Hidden.pure trivial
  | reviewCase scamHoldId dto =>
    exact hanswer _ (hidden_reviewSubject hids hT scamHoldId dto.decision dto.notes fun _ => rfl)

/-! ## Runs -/

variable {ι : Type} [DecidableEq ι] {calls calls' : ι → Call Customers Request}
  {s s' : BankStore} {t : Pool ι BankStore (Service (Option Response))}

/-- The calls at their start. -/
def calling (calls : ι → Call Customers Request) (s : BankStore) :
    Pool ι BankStore (Service (Option Response)) where
  shared := s
  locals i := (calls i).program serve

/-- **Isolation of banks**: a run is matched, from a store that has the same rows of the bank, by
one in which no other bank does anything, and the customers of others do anything else: the calls
of the bank's employees end as they did, with the same answers or the same errors, and the rows of
the bank are the same at its end. -/
theorem bank_isolation (hids : Distinguished ids) (hs : Alike ids (SameCustomers T) T s s')
    (hcalls : ∀ i, ¬ (calls i).Others T → (calls i).Seen (SameCustomers T) T (calls' i))
    (hrun : Pool.Run (Prog.interleaved fun _ _ => True) (calling calls s) t) :
    ∃ t', Pool.Run (Prog.interleaved fun _ _ => True) (calling calls' s') t' ∧
      Alike ids (SameCustomers T) T t.shared t'.shared ∧
      (∀ i, ¬ (calls i).Others T → (t'.locals i).conclusion = (t.locals i).conclusion) ∧
      ∀ i, (calls i).Others T → t'.locals i = (calls' i).program serve :=
  run_isolated hs (fun _ request hT => hT ▸ similar_serve hids request)
    (fun _ request hT => hidden_serve hids hT request) hcalls hrun

/-- A held transaction of a customer of the tenant. -/
def sampleHold (id tenantId : Uuid) : ScamHoldEvent where
  id := id
  userId := "customer"
  tenantId := some tenantId
  transactionType := .wireTransfer
  amountMinor := 100000
  currency := "USD"
  recipient := "a stranger"
  riskScore := 80
  riskLevel := .critical
  status := .pending
  createdAt := Date.newYear

def sampleStore (scamHolds : List ScamHoldEvent) : BankStore where
  world := ⟨scamHolds, []⟩
  scores := []
  reviews := []
  evidence := []
  now := Date.newYear
  uuid := sampleIds
  issued _ := 0

def sampleAnalyst (tenantId : Uuid) : AuthenticatedUser := ⟨"analyst", tenantId, .bankAnalyst⟩

/-- Analysts of two banks review the same case, and the first bank sees its queue. -/
def sampleCalls : Bool × Bool → Call Customers Request
  | (false, _) => .desk (sampleAnalyst "second bank") (.reviewCase "second case" ⟨.block, none⟩)
  | (true, false) => .desk (sampleAnalyst "first bank") (.reviewCase "second case" ⟨.allow, none⟩)
  | (true, true) => .desk (sampleAnalyst "first bank") (.queue ⟨none, none⟩)

theorem sampleStore_alike : Alike sampleIds (SameCustomers "first bank") "first bank"
    (sampleStore [sampleHold "first case" "first bank", sampleHold "second case" "second bank"])
    (sampleStore [sampleHold "first case" "first bank"]) where
  left := ⟨rfl, List.forall_mem_nil _, List.forall_mem_nil _⟩
  right := ⟨rfl, List.forall_mem_nil _, List.forall_mem_nil _⟩
  world := ⟨⟨by decide, by decide, rfl⟩, ⟨.nil, .nil, rfl⟩⟩
  scores := rfl
  reviews := rfl
  evidence := rfl
  now := rfl
  issued := rfl

theorem sampleCalls_seen (i : Bool × Bool) (h : ¬ (sampleCalls i).Others "first bank") :
    (sampleCalls i).Seen (SameCustomers "first bank") "first bank" (sampleCalls i) := by
  obtain ⟨first, second⟩ := i
  cases first with
  | false => exact absurd ⟨"second bank", by decide, rfl⟩ h
  | true =>
    cases second with
    | false => exact seen_desk (sampleAnalyst "first bank") _
    | true => exact seen_desk (sampleAnalyst "first bank") _

/-- The second bank reviews its case, which is no case of the first one's. -/
theorem bank_isolation_sample :
    let t := Prog.turns (calling sampleCalls (sampleStore
      [sampleHold "first case" "first bank", sampleHold "second case" "second bank"]))
      [((false, false), 5), ((true, false), 5), ((true, true), 3)]
    ∃ t', Pool.Run (Prog.interleaved fun _ _ => True)
        (calling sampleCalls (sampleStore [sampleHold "first case" "first bank"])) t' ∧
      Alike sampleIds (SameCustomers "first bank") "first bank" t.shared t'.shared ∧
      (∀ i, ¬ (sampleCalls i).Others "first bank" →
        (t'.locals i).conclusion = (t.locals i).conclusion) ∧
      ∀ i, (sampleCalls i).Others "first bank" → t'.locals i = (sampleCalls i).program serve :=
  bank_isolation sampleIds_distinguished sampleStore_alike sampleCalls_seen
    (Prog.run_turns .refl (Prog.permittedTurns_true _ _))

end Isolation

end BankPortal
