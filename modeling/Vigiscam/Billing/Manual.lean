import Vigiscam.Billing.Idempotence
import Vigiscam.Concurrency.Noted
import Vigiscam.Concurrency.Part
import Vigiscam.EvidenceVault.Service

/-!
# Manual contracts and Stripe

An enterprise pays by invoice: an administrator sets its plan (`setManualInvoice`), and the
row says so in its `manualInvoice` column. The row has one status and one plan, which
webhooks write as well. None of the writes looks at `manualInvoice`, or at the subscription
that the row records.

`contracts_kept` says which writes of webhooks do harm (`Overrides`): where a run has none
of them, contracts stay as they were set, and a subscription that is not the recorded one
takes no plan away.
-/

namespace Billing

open Js Value Concurrency EvidenceVault

/-! ## The rest of the service -/

/-- The tables of billing, with the evidence beside them. -/
structure Accounts extends Store where
  evidence : List AppendEvidenceInput

inductive AccountStep where
  | billing (l : DbStep)
  | read | appendEvidence
deriving DecidableEq

abbrev AccountProgram (α : Type) := Prog Accounts AccountStep HttpError α

/-- The tables of billing are a part. -/
def accounts : Part Accounts Store where
  get := Accounts.toStore
  set s a := { a with toStore := s }
  set_get _ := rfl
  get_set _ _ := rfl

def onAccounts {α : Type} (p : Program α) : AccountProgram α := p.onPart accounts .billing

def read {α : Type} (f : Accounts → α) : AccountProgram α :=
  Prog.act .read .internal fun a => (f a, a)

def appendEvidence (input : AppendEvidenceInput) : AccountProgram Unit :=
  Prog.act .appendEvidence .internal fun a => ((), { a with evidence := a.evidence ++ [input] })

def refuseWhere (p : Bool) (err : HttpError) : AccountProgram Unit :=
  if p then throw err else pure ()

/-- An evidence event about a subscription. -/
def subscriptionEvidence (tenantId actorId : Uuid) (actorType eventType description : Text)
    (metadata : Value) (h : metadata.Distinct) : AppendEvidenceInput where
  tenantId := some tenantId
  actorId := some actorId
  actorType := some actorType
  entityType := "TENANT_SUBSCRIPTION"
  entityId := tenantId
  eventType := eventType
  eventDescription := description
  metadata := metadata
  ipAddress := none
  deviceId := none
  metadata_distinct := h

/-! ### Plans -/

def ENTITLED_STATUSES : List SubscriptionStatus := [.trialing, .active, .manual]

/-- The plan of a row that is found: its own in an entitled status, and FREE otherwise. -/
def entitledPlan : Option TenantSubscription → BillingPlan
  | none => .free
  | some row => if row.status ∉ ENTITLED_STATUSES then .free else row.plan

def resolveEffectivePlan (tenantId : Uuid) : AccountProgram BillingPlan := do
  let row ← read (·.subscriptions tenantId)
  return entitledPlan row

/-- What `resolveEffectivePlan` gives. -/
def Store.effectivePlan (s : Store) (tenantId : Uuid) : BillingPlan :=
  entitledPlan (s.subscriptions tenantId)

theorem run_resolveEffectivePlan (tenantId : Uuid) (a : Accounts) :
    (resolveEffectivePlan tenantId).run a = (.ok (a.effectivePlan tenantId), a) := rfl

/-! ### Manual invoices -/

structure SetManualInvoiceDto where
  plan : BillingPlan
  note : Option Text

/-- `upsertSubscription` with a plan, the status MANUAL and `manualInvoice`. -/
def upsertManualInvoice (tenantId : Uuid) (plan : BillingPlan) :
    AccountProgram TenantSubscription :=
  Prog.attempt (.billing .upsertSubscription) .internal fun a =>
    (a.rowOrNew tenantId).map fun old =>
      let row := { old with plan, status := .manual, manualInvoice := true }
      (row, { a with subscriptions := Function.update a.subscriptions tenantId (some row) })

def SetManualInvoiceDto.metadata (dto : SetManualInvoiceDto) : Value :=
  .object [("plan", .string dto.plan.code), ("note", .ofNullable dto.note)]

theorem SetManualInvoiceDto.distinct_metadata (dto : SetManualInvoiceDto) :
    dto.metadata.Distinct := by
  refine ⟨?_, trivial, ?_, trivial⟩
  · show List.Nodup [utf16 "plan", utf16 "note"]
    decide
  · cases dto.note <;> trivial

section Requests

variable (platform : Platform)

def setManualInvoice (admin : AuthenticatedUser) (tenantId : Uuid) (dto : SetManualInvoiceDto) :
    AccountProgram TenantSubscription := do
  let tenant ← read (·.tenants tenantId)
  refuseWhere (!tenant) (.badRequest "Tenant not found")
  let row ← upsertManualInvoice tenantId dto.plan
  appendEvidence (subscriptionEvidence tenantId admin.userId "ADMIN" "BILLING_MANUAL_INVOICE_SET"
    (utf16 "Manual-invoice billing set: " ++ dto.plan.code) dto.metadata dto.distinct_metadata)
  onAccounts (recordBillingAudit platform (some admin.userId) "MANUAL_INVOICE_SET"
    (.string tenantId) dto.metadata)
  return row

/-! ### Checkout and portal -/

/-- What a call of Stripe's library throws. -/
structure StripeError where
  message : Text
  code : Option Text
  /-- The type of the error is `StripeInvalidRequestError`. -/
  invalidRequest : Bool

structure CheckoutSession where
  id : Text
  url : Option Text

/-- What the calls of Stripe's library give. -/
structure StripeApi where
  customersCreate : (email tenantId : Text) → Except StripeError Text
  checkoutSessionsCreate :
    (customerId priceId tenantId successUrl cancelUrl : Text) → Except StripeError CheckoutSession
  billingPortalSessionsCreate : (customerId returnUrl : Text) → Except StripeError Text

/-- A failure is the caller's where the request was invalid, and Stripe's otherwise. -/
def stripeCall {α : Type} (op : Text) : Except StripeError α → AccountProgram α
  | .ok a => pure a
  | .error e =>
    let code := match present e.code with
      | some code => utf16 " [" ++ code ++ utf16 "]"
      | none => []
    let message := utf16 "Stripe " ++ op ++ utf16 " failed: " ++ e.message ++ code
    throw (if e.invalidRequest then .badRequest message else .badGateway message)

/-- The configuration keys of checkout and portal. -/
structure CheckoutConfig extends Config where
  nodeEnv : Option Text
  appPublicUrl : Option Text

variable (config : CheckoutConfig) (api : StripeApi)

def CheckoutConfig.isConfigured : Bool := (StripeService.new config.toConfig).client

def assertBillingConfiguredInProduction : AccountProgram Unit :=
  refuseWhere (config.nodeEnv == some (utf16 "production") && !config.isConfigured)
    (.serviceUnavailable "Billing is not available: Stripe is not configured in this environment.")

def ensureCustomer (tenantId email : Text) (existingCustomerId : Option Text) :
    AccountProgram Text :=
  if !config.isConfigured then
    pure (existingCustomerId.getD (utf16 "cus_stub_" ++ tenantId.take 8))
  else
    match present existingCustomerId with
    | some id => pure id
    | none => stripeCall "customers.create" (api.customersCreate email tenantId)

def createCheckoutSession (customerId priceId tenantId successUrl cancelUrl : Text) :
    AccountProgram CheckoutSession :=
  if !config.isConfigured then
    pure {
      id := utf16 "cs_stub_" ++ tenantId.take 8
      url := some (utf16 "https://stub.billing.local/checkout?tenant=" ++ tenantId
        ++ utf16 "&price=" ++ priceId) }
  else
    stripeCall "checkout.sessions.create"
      (api.checkoutSessionsCreate customerId priceId tenantId successUrl cancelUrl)

def createBillingPortalSession (customerId returnUrl : Text) : AccountProgram Text :=
  if !config.isConfigured then
    pure (utf16 "https://stub.billing.local/portal?customer=" ++ customerId)
  else
    stripeCall "billingPortal.sessions.create"
      (api.billingPortalSessionsCreate customerId returnUrl)

def BillingPlan.priceEnvVar : BillingPlan → Option Text
  | .free => none
  | .basic => some "STRIPE_PRICE_BASIC"
  | .familyGuardian => some "STRIPE_PRICE_FAMILY_GUARDIAN"
  | .premiumShield => some "STRIPE_PRICE_PREMIUM_SHIELD"

/-- `config.get(priceEnvVar)` of the plan. -/
def CheckoutConfig.price : BillingPlan → Option Text
  | .free => none
  | .basic => config.stripePriceBasic
  | .familyGuardian => config.stripePriceFamilyGuardian
  | .premiumShield => config.stripePricePremiumShield

def PURCHASABLE_PLANS : List BillingPlan := [.basic, .familyGuardian, .premiumShield]

structure StartCheckoutDto where
  plan : BillingPlan
  successUrl : Option Text
  cancelUrl : Option Text

/-- `{ stripeCustomerId }`. -/
def customerData (customerId : Text) : SubscriptionData where
  plan := none
  status := none
  stripeCustomerId := .string customerId
  stripeSubscriptionId := .undefined
  stripePriceId := .undefined
  currentPeriodEnd := none
  cancelAtPeriodEnd := .undefined

def upsertCustomer (tenantId : Uuid) (customerId : Text) : AccountProgram Unit :=
  onAccounts (upsertSubscription platform (.string tenantId) (customerData customerId))

/-- `APP_PUBLIC_URL`, or its default, with a path. -/
def CheckoutConfig.appUrl (path : Text) : Text :=
  config.appPublicUrl.getD "https://app.vigiscam.local" ++ path

def checkoutMetadata (plan : BillingPlan) (sessionId : Text) : Value :=
  .object [("plan", .string plan.code), ("sessionId", .string sessionId)]

theorem distinct_checkoutMetadata (plan : BillingPlan) (sessionId : Text) :
    (checkoutMetadata plan sessionId).Distinct := by
  refine ⟨?_, trivial, trivial, trivial⟩
  show List.Nodup [utf16 "plan", utf16 "sessionId"]
  decide

def startCheckout (user : AuthenticatedUser) (email : Text) (dto : StartCheckoutDto) :
    AccountProgram CheckoutSession := do
  assertBillingConfiguredInProduction config
  refuseWhere (dto.plan ∉ PURCHASABLE_PLANS) (.badRequest "This plan is not purchasable")
  let priceId := config.price dto.plan
  refuseWhere (config.isConfigured && (present priceId).isNone)
    (.badRequest (utf16 "No Stripe price configured for " ++ dto.plan.code ++ utf16 " (set "
      ++ dto.plan.priceEnvVar.getD "null" ++ utf16 ")"))
  let effectivePriceId := priceId.getD (utf16 "price_stub_" ++ dto.plan.code)
  let existing ← read (·.subscriptions user.tenantId)
  let customerId ← ensureCustomer config api user.tenantId email
    (existing.bind (·.stripeCustomerId))
  let session ← createCheckoutSession config api customerId effectivePriceId user.tenantId
    (dto.successUrl.getD (config.appUrl "/billing/success"))
    (dto.cancelUrl.getD (config.appUrl "/billing/cancel"))
  upsertCustomer platform user.tenantId customerId
  appendEvidence (subscriptionEvidence user.tenantId user.userId "USER" "BILLING_CHECKOUT_STARTED"
    (utf16 "Checkout started for " ++ dto.plan.code) (checkoutMetadata dto.plan session.id)
    (distinct_checkoutMetadata dto.plan session.id))
  onAccounts (recordBillingAudit platform (some user.userId) "CHECKOUT_STARTED"
    (.string user.tenantId) (checkoutMetadata dto.plan session.id))
  return session

/-- The customer id is stored where the row had none. -/
def rememberCustomer (tenantId : Uuid) (existing : Option Text) (customerId : Text) :
    AccountProgram Unit :=
  if (present existing).isNone then upsertCustomer platform tenantId customerId else pure ()

def openPortal (user : AuthenticatedUser) (email : Text) : AccountProgram Text := do
  assertBillingConfiguredInProduction config
  let existing ← read (·.subscriptions user.tenantId)
  let stripeCustomerId := existing.bind (·.stripeCustomerId)
  let customerId ← ensureCustomer config api user.tenantId email stripeCustomerId
  rememberCustomer platform user.tenantId stripeCustomerId customerId
  let url ← createBillingPortalSession config api customerId (config.appUrl "/billing")
  onAccounts (recordBillingAudit platform (some user.userId) "PORTAL_OPENED"
    (.string user.tenantId) (.object [("customerId", .string customerId)]))
  return url

end Requests

/-! ## What a webhook does to a contract -/

section Contracts

variable (platform : Platform) (config : Config)

/-- A row with `manualInvoice` has the status that the administrator gave it. -/
def Store.Contracts (s : Store) : Prop :=
  ∀ tenant row, s.subscriptions tenant = some row → row.manualInvoice = true → row.status = .manual

def isDeleted (event : Value) : Bool :=
  (event.get "type").any (·.isText "customer.subscription.deleted")

/-- The subscription that an event is about. -/
def subscriptionOf (event : Value) : Option Text :=
  ((objectOf event).bind (·.get "id")).bind Value.asText

/-- The event is about a subscription other than the one that the tenant has recorded. -/
def Leftover (event : Value) (row : Option TenantSubscription) : Prop :=
  (subscriptionOf event).isSome ∧ row.bind (·.stripeSubscriptionId) ≠ subscriptionOf event

instance (event : Value) (row : Option TenantSubscription) : Decidable (Leftover event row) :=
  inferInstanceAs (Decidable (_ ∧ _))

/-- From `s` to `t` every contract keeps its status and its plan, and so does the plan of every
tenant where the event deletes a subscription that is not the recorded one. -/
structure Safe (event : Value) (s t : Store) : Prop where
  contract : ∀ tenant row, s.subscriptions tenant = some row → row.manualInvoice = true →
    (t.subscriptions tenant).map (·.status) = some .manual ∧
      t.effectivePlan tenant = s.effectivePlan tenant
  leftover : isDeleted event = true → ∀ tenant, Leftover event (s.subscriptions tenant) →
    t.effectivePlan tenant = s.effectivePlan tenant

/-- The tenant with its row that the event writes to, where it does and there is a row. -/
def target (s : Store) (event : Value) : Option (Uuid × TenantSubscription) := do
  let change ← (asked platform config event).join
  let tenant ← uuidArgument platform change.1
  let row ← s.subscriptions tenant
  let _ ← written platform row change.2
  return (tenant, row)

/-- The row that the event writes to is a contract, or it has a plan that is not from the
subscription that the event deletes. -/
def Overrides (s : Store) (event : Value) : Prop :=
  (target platform config s event).any fun (_, row) =>
    row.manualInvoice ||
      (isDeleted event && Leftover event (some row) && entitledPlan (some row) != .free)

instance (s : Store) (event : Value) : Decidable (Overrides platform config s event) :=
  inferInstanceAs (Decidable (_ = true))

/-- A delivery comes to the `switch`: the event is logged now, or it was and is not
processed yet. -/
def TakenUp (s : Store) (event : Value) : Prop :=
  ∃ id tenantId, eventId platform event = some id ∧ extractTenantId event = some tenantId ∧
    match s.events id with
    | none => (loggedEvent platform event tenantId).isSome
    | some row => row.processedAt = none

end Contracts

section Events

variable {platform : Platform} {config : Config} {s s' t : Store} {event : Value} {tid : Value}
  {data : SubscriptionData} {tenant : Uuid}

/-! ### What an event writes -/

theorem mapStripeStatus_ne (v : Value) : mapStripeStatus v ≠ .manual := by
  unfold mapStripeStatus
  split_ifs <;> simp

theorem status_of_subscriptionState {sub : Value} {deleted : Bool}
    (h : subscriptionState platform config sub deleted = some data) :
    ∃ status, data.status = some status ∧ status ≠ .manual ∧
      (deleted = true → status = .canceled) := by
  simp only [subscriptionState, Option.bind_eq_bind, Option.bind_eq_some_iff, Option.pure_def,
    Option.some.injEq] at h
  obtain ⟨_, -, _, -, status, -, _, -, _, -, _, -, rfl⟩ := h
  refine ⟨_, rfl, ?_, fun hdeleted => if_pos hdeleted⟩
  split
  · simp
  · exact mapStripeStatus_ne status

/-- Every write of an event is of a status other than MANUAL, and of the status CANCELED where
the subscription is deleted. -/
theorem status_of_asked (h : asked platform config event = some (some (tid, data))) :
    ∃ status, data.status = some status ∧ status ≠ .manual ∧
      (isDeleted event = true → status = .canceled) := by
  obtain ⟨tenantId, -, hasks⟩ := Option.bind_eq_some_iff.mp h
  simp only [asksFor, Option.bind_eq_bind, Option.bind_eq_some_iff, Option.pure_def] at hasks
  obtain ⟨type, htype, hasks⟩ := hasks
  have hdeleted : isDeleted event = type.isText "customer.subscription.deleted" := by
    rw [isDeleted, htype, Option.any_some]
  split at hasks
  · -- a checkout is no deletion
    rename_i hcheckout
    simp only [Option.bind_eq_some_iff, Option.some.injEq, Option.map_eq_some_iff,
      Prod.mk.injEq] at hasks
    obtain ⟨session, -, tid', -, state, hstate, data', rfl, -, rfl⟩ := hasks
    simp only [checkoutState, Option.bind_eq_bind, Option.bind_eq_some_iff,
      Option.pure_def] at hstate
    obtain ⟨_, -, _, -, hstate⟩ := hstate
    split at hstate
    · obtain rfl := Option.some.inj (Option.some.inj hstate)
      refine ⟨.active, rfl, by simp, fun h => ?_⟩
      rw [hdeleted, isText_eq_true.mp hcheckout] at h
      exact absurd h (by decide)
    · cases Option.some.inj hstate
  · split at hasks
    · simp only [Option.bind_eq_some_iff] at hasks
      obtain ⟨sub, -, tid', -, hasks⟩ := hasks
      split at hasks
      · simp only [Option.bind_eq_some_iff, Option.some.injEq, Prod.mk.injEq] at hasks
        obtain ⟨data', hstate, -, rfl⟩ := hasks
        rw [hdeleted]
        exact status_of_subscriptionState hstate
      · cases hasks
    · split at hasks
      · cases hasks
      · cases hasks

/-- A row that is written takes the status and the plan of the data where they are given. -/
theorem row_of_written {old row : TenantSubscription} (h : written platform old data = some row) :
    row.status = data.status.getD old.status ∧ row.plan = data.plan.getD old.plan ∧
      row.manualInvoice = old.manualInvoice := by
  simp only [written, Option.bind_eq_bind, Option.bind_eq_some_iff, Option.pure_def,
    Option.some.injEq] at h
  obtain ⟨_, -, _, -, _, -, _, -, _, -, rfl⟩ := h
  exact ⟨rfl, rfl, rfl⟩

/-- What `upsert` writes is one row. -/
theorem row_of_upsert (h : s.upsert platform tid data = some s') :
    ∃ tenant old row, uuidArgument platform tid = some tenant ∧ s.rowOrNew tenant = some old ∧
      written platform old data = some row ∧
      s'.subscriptions = Function.update s.subscriptions tenant (some row) := by
  simp only [Store.upsert, Option.bind_eq_bind, Option.bind_eq_some_iff, Option.pure_def,
    Option.some.injEq] at h
  obtain ⟨tenant, htenant, old, hold, row, hrow, rfl⟩ := h
  exact ⟨tenant, old, row, htenant, hold, hrow, rfl⟩

/-- A new row is no contract. -/
theorem row_of_rowOrNew {old : TenantSubscription} (hold : s.rowOrNew tenant = some old)
    (hmanual : old.manualInvoice = true) : s.subscriptions tenant = some old := by
  cases hrow : s.subscriptions tenant with
  | none =>
    rw [Store.rowOrNew, hrow] at hold
    obtain ⟨-, hdefault⟩ := Option.ite_none_right_eq_some.mp hold
    rw [← Option.some.inj hdefault] at hmanual
    cases hmanual
  | some row =>
    rw [Store.rowOrNew, hrow] at hold
    exact hold

theorem entitledPlan_canceled {row : TenantSubscription} (h : row.status = .canceled) :
    entitledPlan (some row) = .free := by
  simp [entitledPlan, ENTITLED_STATUSES, h]

/-! ### Safe writes -/

theorem effectivePlan_congr (h : s'.subscriptions tenant = s.subscriptions tenant) :
    s'.effectivePlan tenant = s.effectivePlan tenant := by
  rw [Store.effectivePlan, Store.effectivePlan, h]

theorem Safe.congr {s₀ t₀ : Store} (h : Safe event s₀ t₀) (hs : s.subscriptions = s₀.subscriptions)
    (ht : t.subscriptions = t₀.subscriptions) : Safe event s t where
  contract tenant row hrow hmanual := by
    rw [effectivePlan_congr (congrFun ht tenant), effectivePlan_congr (congrFun hs tenant), ht]
    exact h.contract tenant row (hs ▸ hrow) hmanual
  leftover hdeleted tenant hleftover := by
    rw [effectivePlan_congr (congrFun ht tenant), effectivePlan_congr (congrFun hs tenant)]
    exact h.leftover hdeleted tenant (hs ▸ hleftover)

theorem Safe.refl (hs : s.Contracts) : Safe event s s where
  contract tenant row hrow hmanual := by
    refine ⟨?_, rfl⟩
    rw [hrow, Option.map_some, hs tenant row hrow hmanual]
  leftover _ _ _ := rfl

/-- The write of an event to a new row takes nothing away. -/
theorem safe_of_new {row : TenantSubscription} (hs : s.Contracts)
    (hnone : s.subscriptions tenant = none)
    (hdeleted : isDeleted event = true → row.status = .canceled)
    (hs' : s'.subscriptions = Function.update s.subscriptions tenant (some row)) :
    Safe event s s' where
  contract tenant' row' hrow' hmanual := by
    have hne : tenant' ≠ tenant := by
      rintro rfl
      simp [hnone] at hrow'
    have hsame : s'.subscriptions tenant' = s.subscriptions tenant' := by
      rw [hs', Function.update_of_ne hne]
    rw [effectivePlan_congr hsame, hsame]
    exact (@Safe.refl s event hs).contract tenant' row' hrow' hmanual
  leftover hevent tenant' _ := by
    by_cases htenant : tenant' = tenant
    · subst htenant
      -- no row before, and a cancelled one after: FREE both times
      rw [Store.effectivePlan, Store.effectivePlan, hnone, hs', Function.update_self,
        entitledPlan_canceled (hdeleted hevent)]
      rfl
    · exact effectivePlan_congr (by rw [hs', Function.update_of_ne htenant])

/-- The write of an event to a row that is there is safe exactly where it overrides nothing. -/
theorem safe_of_old_iff {old row : TenantSubscription} (hs : s.Contracts)
    (hold : s.subscriptions tenant = some old) (hstatus : row.status ≠ .manual)
    (hdeleted : isDeleted event = true → row.status = .canceled)
    (hs' : s'.subscriptions = Function.update s.subscriptions tenant (some row)) :
    Safe event s s' ↔ ¬ (old.manualInvoice = true ∨
      (isDeleted event = true ∧ Leftover event (some old)) ∧ entitledPlan (some old) ≠ .free) := by
  have hself : s'.subscriptions tenant = some row := by rw [hs', Function.update_self]
  constructor
  · rintro hsafe (hmanual | ⟨⟨hevent, hleftover⟩, hplan⟩)
    · have hkept := (hsafe.contract tenant old hold hmanual).1
      rw [hself, Option.map_some, Option.some.injEq] at hkept
      exact hstatus hkept
    · have hkept := hsafe.leftover hevent tenant (hold ▸ hleftover)
      rw [Store.effectivePlan, Store.effectivePlan, hself, hold,
        entitledPlan_canceled (hdeleted hevent)] at hkept
      exact hplan hkept.symm
  · intro hnot
    have hothers : ∀ tenant' ≠ tenant, s'.subscriptions tenant' = s.subscriptions tenant' := by
      intro tenant' hne
      rw [hs', Function.update_of_ne hne]
    refine ⟨fun tenant' row' hrow' hmanual => ?_, fun hevent tenant' hleftover => ?_⟩
    · have hne : tenant' ≠ tenant := by
        rintro rfl
        rw [hold, Option.some.injEq] at hrow'
        exact hnot (Or.inl (hrow' ▸ hmanual))
      rw [effectivePlan_congr (hothers tenant' hne), hothers tenant' hne]
      exact (@Safe.refl s event hs).contract tenant' row' hrow' hmanual
    · by_cases htenant : tenant' = tenant
      · subst htenant
        rw [hold] at hleftover
        rw [Store.effectivePlan, Store.effectivePlan, hself, hold,
          entitledPlan_canceled (hdeleted hevent)]
        by_contra hplan
        exact hnot (Or.inr ⟨⟨hevent, hleftover⟩, Ne.symm hplan⟩)
      · exact effectivePlan_congr (hothers tenant' htenant)

/-- **A write of an event is safe exactly where it overrides nothing.** -/
theorem safe_upsert_iff (hs : s.Contracts)
    (hasked : asked platform config event = some (some (tid, data)))
    (hupsert : s.upsert platform tid data = some s') :
    Safe event s s' ↔ ¬ Overrides platform config s event := by
  obtain ⟨tenant, old, row, htenant, hold, hwritten, hs'⟩ := row_of_upsert hupsert
  obtain ⟨status, hgiven, hmanual, hdeleted⟩ := status_of_asked hasked
  have hstatus : row.status = status := by
    rw [(row_of_written hwritten).1, hgiven, Option.getD_some]
  subst hstatus
  cases hrow : s.subscriptions tenant with
  | none =>
    have htarget : target platform config s event = none := by
      simp [target, hasked, htenant, hrow]
    simp [Overrides, htarget, safe_of_new hs hrow hdeleted hs']
  | some old' =>
    rw [Store.rowOrNew, hrow, Option.some.injEq] at hold
    subst hold
    have htarget : target platform config s event = some (tenant, old') := by
      simp [target, hasked, htenant, hrow, hwritten]
    rw [safe_of_old_iff hs hrow hmanual hdeleted hs']
    simp [Overrides, htarget]

/-- Where there is a row to write to, it is written. -/
theorem upsert_of_target {x : Uuid × TenantSubscription}
    (h : target platform config s event = some x) :
    ∃ tid data s', asked platform config event = some (some (tid, data)) ∧
      s.upsert platform tid data = some s' := by
  simp only [target, Option.bind_eq_bind, Option.bind_eq_some_iff, Option.pure_def] at h
  obtain ⟨⟨tid, data⟩, hchange, tenant, htenant, old, hold, row, hwritten, -⟩ := h
  refine ⟨tid, data, { s with
    subscriptions := Function.update s.subscriptions tenant (some row) },
    Option.join_eq_some_iff.mp hchange, ?_⟩
  simp [Store.upsert, htenant, Store.rowOrNew, hold, hwritten]

/-- Where the event writes nothing, nothing is overridden. -/
theorem not_overrides_of_upsert_none
    (h : ∀ tid data, asked platform config event = some (some (tid, data)) →
      s.upsert platform tid data = none) : ¬ Overrides platform config s event := by
  cases htarget : target platform config s event with
  | none => simp [Overrides, htarget]
  | some x =>
    obtain ⟨tid, data, s', hasked, hupsert⟩ := upsert_of_target htarget
    rw [h tid data hasked] at hupsert
    cases hupsert

/-! ### A delivery -/

/-- The subscriptions after the `switch`. -/
theorem subscriptions_processEvent (s : Store) (hextract : extractTenantId event = some tid) :
    (∃ tid' data s', asked platform config event = some (some (tid', data)) ∧
        s.upsert platform tid' data = some s' ∧
        ((processEvent platform config event tid).run s).2.subscriptions = s'.subscriptions) ∨
      (∀ tid' data, asked platform config event = some (some (tid', data)) →
        s.upsert platform tid' data = none) ∧
        ((processEvent platform config event tid).run s).2.subscriptions = s.subscriptions := by
  obtain ⟨audit, hperform⟩ := @performs_processEvent platform config event tid
  have hasked : asked platform config event = asksFor platform config event tid := by
    rw [asked, hextract, Option.bind_some]
  rw [hperform, hasked]
  cases asksFor platform config event tid with
  | none => exact Or.inr ⟨fun _ _ h => (by cases h), rfl⟩
  | some change =>
    cases change with
    | none => exact Or.inr ⟨fun _ _ h => (by cases h), rfl⟩
    | some change =>
      obtain ⟨tid', data⟩ := change
      cases hupsert : s.upsert platform tid' data with
      | some s' =>
        obtain ⟨t, hrun, hsame⟩ := run_perform_upsert audit hupsert
        rw [hrun]
        exact Or.inl ⟨tid', data, s', rfl, hupsert, hsame.subscriptions⟩
      | none =>
        refine Or.inr ⟨fun _ _ h => ?_, ?_⟩
        · cases h
          exact hupsert
        · cases audit with
          | none => exact congrArg (·.2.subscriptions) (run_upsertSubscription_none hupsert)
          | some metadata =>
            show ((upsertSubscription platform tid' data >>= fun _ => _).run s).2.subscriptions = _
            rw [Prog.run_bind, run_upsertSubscription_none hupsert, Prog.andThen_error]

/-- Marking an event leaves the subscriptions alone. -/
theorem subscriptions_updateBillingEvent (logRow : BillingEvent) (now : Date) (s : Store) :
    ((updateBillingEvent platform logRow now tid).run s).2.subscriptions = s.subscriptions := by
  have heach : (updateBillingEvent platform logRow now tid).Each fun _ x x' =>
      x.subscriptions = s.subscriptions → x'.subscriptions = s.subscriptions := by
    refine Prog.Each.attempt (fun x _ x' hupdate hx => ?_) fun x _ hx => hx
    simp only [Option.bind_eq_bind, Option.bind_eq_some_iff, Option.pure_def, Option.some.injEq,
      Prod.mk.injEq] at hupdate
    obtain ⟨row, -, named, -, -, rfl⟩ := hupdate
    exact hx
  exact heach.run (I := fun x : Store => x.subscriptions = s.subscriptions) rfl

/-- A delivery that comes to the `switch` goes on from the log with the event in it. -/
theorem run_handleWebhook_takenUp (now : Date) (h : TakenUp platform s event) :
    ∃ s₀ logRow tid, s₀.subscriptions = s.subscriptions ∧ extractTenantId event = some tid ∧
      (handleWebhook platform config now event).run s = (do
        processEvent platform config event tid
        updateBillingEvent platform logRow now tid
        return { received := true, deduped := false } : Program WebhookResult).run s₀ := by
  obtain ⟨id, tid, hid, hextract, hlog⟩ := h
  obtain ⟨v, hv, hv'⟩ := eventId_eq_some hid
  cases hrow : s.events id with
  | none =>
    simp only [hrow] at hlog
    obtain ⟨row, hnew⟩ := Option.isSome_iff_exists.mp hlog
    exact ⟨s.setEvent row, row, tid, rfl, hextract,
      run_handleWebhook_new now hv hv' hrow hextract hnew⟩
  | some row =>
    simp only [hrow] at hlog
    refine ⟨s, row, tid, rfl, hextract, ?_⟩
    simp only [handleWebhook, hv, Prog.run_bind, run_orThrow_some, Prog.andThen_ok,
      run_findBillingEvent hv', hrow, Option.bind_some, hlog, Option.isSome_none,
      Bool.false_eq_true, if_false, hextract, logEvent, Prog.run_pure]

/-- A delivery that does not come to the `switch` changes nothing. -/
theorem run_handleWebhook_not_takenUp (now : Date) (h : ¬ TakenUp platform s event) :
    ((handleWebhook platform config now event).run s).2 = s := by
  by_cases hacted : Acted platform config s event
  · cases hacted with
    | @redelivered id row hid hrow hprocessed =>
      obtain ⟨v, hv, hv'⟩ := eventId_eq_some hid
      simp only [handleWebhook, hv, Prog.run_bind, run_orThrow_some, Prog.andThen_ok,
        run_findBillingEvent hv', hrow, Option.bind_some, hprocessed, if_true, Prog.run_pure]
    | @logged id tid hid hrow hextract hlogged =>
      refine absurd ⟨id, tid, hid, hextract, ?_⟩ h
      simp only [hrow, hlogged]
    | @retried id row tid hid hrow hprocessed hextract =>
      refine absurd ⟨id, tid, hid, hextract, ?_⟩ h
      simp only [hrow, hprocessed]
  · rw [run_handleWebhook_of_not_acted hacted]

/-- **A delivery is safe exactly where it does not come to override anything.** -/
theorem safe_delivery_iff (hs : s.Contracts) (now : Date) :
    Safe event s ((handleWebhook platform config now event).run s).2 ↔
      ¬ (TakenUp platform s event ∧ Overrides platform config s event) := by
  by_cases htaken : TakenUp platform s event
  · obtain ⟨s₀, logRow, tid, hs₀, hextract, hrun⟩ :=
      @run_handleWebhook_takenUp platform config s event now htaken
    have hcontracts : s₀.Contracts := by
      rw [Store.Contracts, hs₀]
      exact hs
    have hoverrides : Overrides platform config s₀ event ↔ Overrides platform config s event := by
      simp only [Overrides, target, hs₀]
    -- after the switch the subscriptions stay as they are
    have hafter : ((handleWebhook platform config now event).run s).2.subscriptions =
        ((processEvent platform config event tid).run s₀).2.subscriptions := by
      rw [hrun, Prog.run_bind]
      cases hprocess : (processEvent platform config event tid).run s₀ with
      | mk result s₁ =>
        cases result with
        | error e => rw [Prog.andThen_error]
        | ok u =>
          rw [Prog.andThen_ok, Prog.run_bind]
          have hmarked := @subscriptions_updateBillingEvent platform tid logRow now s₁
          cases hupdate : (updateBillingEvent platform logRow now tid).run s₁ with
          | mk result' s₂ =>
            rw [hupdate] at hmarked
            cases result' with
            | error e => exact hmarked
            | ok u' => exact hmarked
    rw [and_iff_right htaken, ← hoverrides]
    rcases @subscriptions_processEvent platform config event tid s₀ hextract with
      ⟨tid', data, s', hasked, hupsert, hsame⟩ | ⟨hnone, hsame⟩
    · rw [← safe_upsert_iff hcontracts hasked hupsert]
      exact ⟨fun h => h.congr hs₀ (hafter.trans hsame).symm,
        fun h => h.congr hs₀.symm (hafter.trans hsame)⟩
    · refine iff_of_true ?_ (not_overrides_of_upsert_none hnone)
      exact (Safe.refl hcontracts).congr hs₀.symm (hafter.trans hsame)
  · rw [run_handleWebhook_not_takenUp now htaken]
    exact iff_of_true (Safe.refl hs) fun h => htaken h.1

/-! ### The steps of a delivery -/

/-- A step leaves the subscriptions alone, or it writes what the event asks for. -/
def Follows (platform : Platform) (config : Config) (event : Value) (l : DbStep) (s s' : Store) :
    Prop :=
  s'.subscriptions = s.subscriptions ∨ l = .upsertSubscription ∧
    ∃ tid data, asked platform config event = some (some (tid, data)) ∧
      s.upsert platform tid data = some s'

theorem follows_upsertSubscription (h : asked platform config event = some (some (tid, data))) :
    (upsertSubscription platform tid data).Each (Follows platform config event) := by
  refine Prog.Each.attempt (fun s _ s' hupsert => ?_) fun s _ => Or.inl rfl
  obtain ⟨t, ht, hpair⟩ := Option.map_eq_some_iff.mp hupsert
  obtain ⟨-, rfl⟩ := Prod.mk.inj hpair
  exact Or.inr ⟨rfl, tid, data, h, ht⟩

/-- An audit write leaves the subscriptions alone. -/
theorem same_recordBillingAudit (actorId : Option Uuid) (action : Text) (tid metadata : Value) :
    (recordBillingAudit platform actorId action tid metadata).Each
      fun _ s s' => s'.subscriptions = s.subscriptions := by
  refine Prog.Each.tryCatch (Prog.Each.attempt (fun s _ s' haudit => ?_) fun _ _ => rfl)
    fun _ => Prog.Each.pure _
  obtain ⟨row, -, hpair⟩ := Option.map_eq_some_iff.mp haudit
  obtain ⟨-, rfl⟩ := Prod.mk.inj hpair
  rfl

theorem follows_processEvent (hextract : extractTenantId event = some tid) :
    (processEvent platform config event tid).Each (Follows platform config event) := by
  obtain ⟨audit, hperform⟩ := @performs_processEvent platform config event tid
  have hasked : asked platform config event = asksFor platform config event tid := by
    rw [asked, hextract, Option.bind_some]
  rw [hperform]
  cases hchange : asksFor platform config event tid with
  | none => trivial
  | some change =>
    cases change with
    | none => trivial
    | some change =>
      have hupsert := follows_upsertSubscription (hasked.trans hchange)
      cases audit with
      | none => exact hupsert
      | some metadata =>
        exact Prog.Each.bind hupsert fun _ =>
          (same_recordBillingAudit ..).mono fun _ _ _ h => Or.inl h

theorem follows_handleWebhook (now : Date) :
    (handleWebhook platform config now event).Each (Follows platform config event) := by
  have horThrow : ∀ {α : Type} (o : Option α),
      (orThrow o).Each (Follows platform config event) := by
    intro α o
    cases o <;> trivial
  have hfind : ∀ v, (findBillingEvent platform v).Each (Follows platform config event) := by
    refine fun v => Prog.Each.attempt (fun s _ s' h => ?_) fun _ _ => Or.inl rfl
    obtain ⟨id, -, hpair⟩ := Option.map_eq_some_iff.mp h
    obtain ⟨-, rfl⟩ := Prod.mk.inj hpair
    exact Or.inl rfl
  have hcreate : ∀ v type tid, (createBillingEvent platform v type tid event).Each
      (Follows platform config event) := by
    refine fun v type tid => Prog.Each.attempt (fun s row s' h => ?_) fun _ _ => Or.inl rfl
    simp only [Option.bind_eq_bind, Option.bind_eq_some_iff] at h
    obtain ⟨row', -, h⟩ := h
    split at h
    · cases h
    · obtain ⟨-, rfl⟩ := Prod.mk.inj (Option.some.inj h)
      exact Or.inl rfl
  have hupdate : ∀ logRow tid, (updateBillingEvent platform logRow now tid).Each
      (Follows platform config event) := by
    refine fun logRow tid => Prog.Each.attempt (fun s _ s' h => ?_) fun _ _ => Or.inl rfl
    simp only [Option.bind_eq_bind, Option.bind_eq_some_iff, Option.pure_def, Option.some.injEq,
      Prod.mk.injEq] at h
    obtain ⟨row, -, named, -, -, rfl⟩ := h
    exact Or.inl rfl
  refine Prog.Each.bind (horThrow _) fun v => Prog.Each.bind (hfind v) fun already => ?_
  split
  · exact Prog.Each.pure _
  · cases hextract : extractTenantId event with
    | none => trivial
    | some tid =>
      show (logEvent platform v event tid already >>= _).Each _
      refine Prog.Each.bind ?_ fun logRow => Prog.Each.bind (follows_processEvent hextract)
        fun _ => Prog.Each.bind (hupdate logRow tid) fun _ => Prog.Each.pure _
      cases already with
      | some row => trivial
      | none => exact Prog.Each.bind (horThrow _) fun type => hcreate _ type tid

/-- A step of a delivery that overrides nothing is safe. -/
theorem safe_of_follows {l : DbStep} (hs : s.Contracts) (h : Follows platform config event l s s')
    (hspares : l = .upsertSubscription → ¬ Overrides platform config s event) :
    Safe event s s' := by
  rcases h with hsame | ⟨hl, tid, data, hasked, hupsert⟩
  · exact (Safe.refl hs).congr rfl hsame
  · exact (safe_upsert_iff hs hasked hupsert).mpr (hspares hl)

end Events

/-! ## The other requests -/

section Others

variable {platform : Platform}

/-- A step keeps every contract. -/
def Keeps (_ : AccountStep) (a a' : Accounts) : Prop := a.Contracts → a'.Contracts

theorem keeps_read {α : Type} (f : Accounts → α) : (read f).Each Keeps :=
  Prog.Each.act fun _ h => h

theorem keeps_appendEvidence (input : AppendEvidenceInput) : (appendEvidence input).Each Keeps :=
  Prog.Each.act fun _ h => h

theorem keeps_refuseWhere (p : Bool) (err : HttpError) : (refuseWhere p err).Each Keeps := by
  unfold refuseWhere
  split
  · exact Prog.Each.throw _
  · exact Prog.Each.pure _

/-- What the steps do to the tables of billing. -/
theorem each_onAccounts {α : Type} {p : Program α} {R : DbStep → Store → Store → Prop}
    (h : p.Each R) :
    (onAccounts p).Each fun l' a a' => ∃ l, l' = .billing l ∧ R l a.toStore a'.toStore := by
  have heach : (onAccounts p).Each _ := Prog.Each.onPart h
  refine heach.mono ?_
  rintro _ a a' ⟨l, rfl, hstep, -⟩
  exact ⟨l, rfl, hstep⟩

theorem keeps_onAccounts {α : Type} {p : Program α}
    (h : p.Each fun _ s s' => s.Contracts → s'.Contracts) : (onAccounts p).Each Keeps := by
  refine (each_onAccounts h).mono ?_
  rintro _ a a' ⟨l, -, hkeeps⟩
  exact hkeeps

theorem keeps_recordBillingAudit (actorId : Option Uuid) (action : Text) (tid metadata : Value) :
    (onAccounts (recordBillingAudit platform actorId action tid metadata)).Each Keeps := by
  refine keeps_onAccounts ((same_recordBillingAudit ..).mono fun _ s s' hsame hs => ?_)
  rw [Store.Contracts, hsame]
  exact hs

/-- A contract that is set is one. -/
theorem contracts_update {s s' : Store} {tenant : Uuid} {row : TenantSubscription}
    (hs : s.Contracts) (hrow : row.manualInvoice = true → row.status = .manual)
    (hs' : s'.subscriptions = Function.update s.subscriptions tenant (some row)) :
    s'.Contracts := by
  intro tenant' row' h hmanual
  by_cases htenant : tenant' = tenant
  · subst htenant
    rw [hs', Function.update_self, Option.some.injEq] at h
    subst h
    exact hrow hmanual
  · rw [hs', Function.update_of_ne htenant] at h
    exact hs tenant' row' h hmanual

theorem keeps_upsertManualInvoice (tenantId : Uuid) (plan : BillingPlan) :
    (upsertManualInvoice tenantId plan).Each Keeps := by
  refine Prog.Each.attempt (fun a _ a' h => ?_) fun _ _ h => h
  obtain ⟨old, -, hpair⟩ := Option.map_eq_some_iff.mp h
  obtain ⟨-, rfl⟩ := Prod.mk.inj hpair
  intro ha
  refine contracts_update ha ?_ rfl
  intro _
  rfl

/-- A customer id leaves the status and the flag of the row alone. -/
theorem keeps_upsertCustomer (tenantId : Uuid) (customerId : Text) :
    (upsertCustomer platform tenantId customerId).Each Keeps := by
  refine keeps_onAccounts (Prog.Each.attempt (fun s _ s' h => ?_) fun _ _ h => h)
  obtain ⟨t, ht, hpair⟩ := Option.map_eq_some_iff.mp h
  obtain ⟨-, rfl⟩ := Prod.mk.inj hpair
  obtain ⟨tenant, old, row, -, hold, hwritten, ht'⟩ := row_of_upsert ht
  obtain ⟨hstatus, -, hmanual⟩ := row_of_written hwritten
  intro hs
  refine contracts_update hs (fun hrow => ?_) ht'
  rw [hstatus]
  rw [hmanual] at hrow
  exact hs tenant old (row_of_rowOrNew hold hrow) hrow

theorem keeps_stripeCall {α : Type} (op : Text) (result : Except StripeError α) :
    (stripeCall op result).Each Keeps := by
  cases result <;> trivial

theorem keeps_ensureCustomer (config : CheckoutConfig) (api : StripeApi) (tenantId email : Text)
    (existing : Option Text) : (ensureCustomer config api tenantId email existing).Each Keeps := by
  unfold ensureCustomer
  split
  · trivial
  · split
    · trivial
    · exact keeps_stripeCall ..

theorem keeps_setManualInvoice (admin : AuthenticatedUser) (tenantId : Uuid)
    (dto : SetManualInvoiceDto) : (setManualInvoice platform admin tenantId dto).Each Keeps :=
  Prog.Each.bind (keeps_read _) fun _ => Prog.Each.bind (keeps_refuseWhere ..) fun _ =>
    Prog.Each.bind (keeps_upsertManualInvoice ..) fun _ =>
      Prog.Each.bind (keeps_appendEvidence _) fun _ =>
        Prog.Each.bind (keeps_recordBillingAudit ..) fun _ => Prog.Each.pure _

theorem keeps_startCheckout (config : CheckoutConfig) (api : StripeApi) (user : AuthenticatedUser)
    (email : Text) (dto : StartCheckoutDto) :
    (startCheckout platform config api user email dto).Each Keeps := by
  refine Prog.Each.bind (keeps_refuseWhere ..) fun _ => Prog.Each.bind (keeps_refuseWhere ..)
    fun _ => Prog.Each.bind (keeps_refuseWhere ..) fun _ => Prog.Each.bind (keeps_read _)
      fun existing => Prog.Each.bind (keeps_ensureCustomer ..) fun customerId => ?_
  refine Prog.Each.bind ?_ fun session => Prog.Each.bind (keeps_upsertCustomer ..) fun _ =>
    Prog.Each.bind (keeps_appendEvidence _) fun _ =>
      Prog.Each.bind (keeps_recordBillingAudit ..) fun _ => Prog.Each.pure _
  unfold createCheckoutSession
  split
  · trivial
  · exact keeps_stripeCall ..

theorem keeps_openPortal (config : CheckoutConfig) (api : StripeApi) (user : AuthenticatedUser)
    (email : Text) : (openPortal platform config api user email).Each Keeps := by
  refine Prog.Each.bind (keeps_refuseWhere ..) fun _ => Prog.Each.bind (keeps_read _)
    fun existing => Prog.Each.bind (keeps_ensureCustomer ..) fun customerId => ?_
  refine Prog.Each.bind ?_ fun _ => Prog.Each.bind ?_ fun url =>
    Prog.Each.bind (keeps_recordBillingAudit ..) fun _ => Prog.Each.pure _
  · unfold rememberCustomer
    split
    · exact keeps_upsertCustomer ..
    · trivial
  · unfold createBillingPortalSession
    split
    · trivial
    · exact keeps_stripeCall ..

end Others

/-! ## Requests in any order -/

inductive Request where
  | webhook (delivery : Delivery)
  | setManualInvoice (admin : AuthenticatedUser) (tenantId : Uuid) (dto : SetManualInvoiceDto)
  | startCheckout (config : CheckoutConfig) (api : StripeApi) (user : AuthenticatedUser)
      (email : Text) (dto : StartCheckoutDto)
  | openPortal (config : CheckoutConfig) (api : StripeApi) (user : AuthenticatedUser)
      (email : Text)

section Requests

variable (platform : Platform) (config : Config)

def Request.program : Request → AccountProgram Unit
  | .webhook d => (fun _ => ()) <$> onAccounts (handleWebhook platform config d.now d.event)
  | .setManualInvoice admin tenantId dto =>
    (fun _ => ()) <$> Billing.setManualInvoice platform admin tenantId dto
  | .startCheckout config api user email dto =>
    (fun _ => ()) <$> Billing.startCheckout platform config api user email dto
  | .openPortal config api user email =>
    (fun _ => ()) <$> Billing.openPortal platform config api user email

/-- Requests that may interleave. -/
def requests {ι : Type} (request : ι → Request) (a : Accounts) :
    Pool ι Accounts (AccountProgram Unit) where
  shared := a
  locals i := (request i).program platform config

/-- The step is not the write of a webhook that overrides something. -/
def Request.Spares : Request → AccountStep → Accounts → Prop
  | .webhook d, .billing .upsertSubscription, a => ¬ Overrides platform config a.toStore d.event
  | _, _, _ => True

instance (request : Request) (l : AccountStep) (a : Accounts) :
    Decidable (request.Spares platform config l a) := by
  unfold Request.Spares
  split <;> infer_instance

end Requests

section Runs

variable {platform : Platform} {config : Config}

/-- A delivery makes no contracts. -/
theorem manualInvoice_of_follows {event : Value} {l : DbStep} {s s' : Store} {tenant : Uuid}
    {row' : TenantSubscription} (h : Follows platform config event l s s')
    (hrow : s'.subscriptions tenant = some row') (hmanual : row'.manualInvoice = true) :
    ∃ row, s.subscriptions tenant = some row ∧ row.manualInvoice = true := by
  rcases h with hsame | ⟨-, tid, data, -, hupsert⟩
  · exact ⟨row', hsame ▸ hrow, hmanual⟩
  · obtain ⟨tenant', old, new, -, hold, hwritten, hs'⟩ := row_of_upsert hupsert
    rw [hs'] at hrow
    by_cases htenant : tenant = tenant'
    · subst htenant
      rw [Function.update_self, Option.some.injEq] at hrow
      subst hrow
      rw [(row_of_written hwritten).2.2] at hmanual
      exact ⟨old, row_of_rowOrNew hold hmanual, hmanual⟩
    · rw [Function.update_of_ne htenant] at hrow
      exact ⟨row', hrow, hmanual⟩

/-- A step of a request keeps every contract, and that of a webhook is safe. -/
def Request.Kept (platform : Platform) (config : Config) (request : Request) (l : AccountStep)
    (a a' : Accounts) : Prop :=
  request.Spares platform config l a → a.Contracts →
    a'.Contracts ∧ ∀ d, request = .webhook d → Safe d.event a.toStore a'.toStore

theorem kept_of_keeps {request : Request} {p : AccountProgram Unit} (h : p.Each Keeps)
    (hrequest : ∀ d, request ≠ .webhook d) : p.Each (request.Kept platform config) :=
  h.mono fun _ _ _ hkeeps _ ha => ⟨hkeeps ha, fun d hd => absurd hd (hrequest d)⟩

theorem kept_program (request : Request) :
    (request.program platform config).Each (request.Kept platform config) := by
  cases request with
  | webhook d =>
    refine Prog.Each.bind ((each_onAccounts (follows_handleWebhook d.now)).mono ?_)
      fun _ => Prog.Each.pure _
    rintro _ a a' ⟨l, rfl, hfollows⟩ hspares ha
    have hsafe : Safe d.event a.toStore a'.toStore := by
      refine safe_of_follows ha hfollows ?_
      rintro rfl
      exact hspares
    refine ⟨?_, ?_⟩
    · intro tenant row' hrow' hmanual
      obtain ⟨row, hrow, hflag⟩ := manualInvoice_of_follows hfollows hrow' hmanual
      have hstatus := (hsafe.contract tenant row hrow hflag).1
      rw [hrow', Option.map_some, Option.some.injEq] at hstatus
      exact hstatus
    · rintro d' hd'
      cases hd'
      exact hsafe
  | setManualInvoice admin tenantId dto =>
    exact kept_of_keeps (Prog.Each.bind (keeps_setManualInvoice ..) fun _ => Prog.Each.pure _) nofun
  | startCheckout config api user email dto =>
    exact kept_of_keeps (Prog.Each.bind (keeps_startCheckout ..) fun _ => Prog.Each.pure _) nofun
  | openPortal config api user email =>
    exact kept_of_keeps (Prog.Each.bind (keeps_openPortal ..) fun _ => Prog.Each.pure _) nofun

/-- **Contracts are kept where no webhook overrides one.** In every interleaving of requests
and with any failing steps, where no write of a webhook is of a contract, or takes away a
plan that is not from the subscription that has ended, every row with `manualInvoice` is
MANUAL and every step of a webhook is safe; and in every state of such a run, the delivery of
an event is safe exactly where it does not come to such a write. -/
theorem contracts_kept {ι : Type} [DecidableEq ι] {request : ι → Request} {a : Accounts}
    {t : Pool ι Accounts (AccountProgram Unit)} (ha : ∀ tenant, a.subscriptions tenant = none)
    (hrun : Pool.Run (Prog.interleavedBy fun i => (request i).Spares platform config)
      (requests platform config request a) t) :
    t.shared.Contracts ∧
      (∀ i d t', request i = .webhook d →
        Pool.Step (Prog.interleavedBy fun i => (request i).Spares platform config) i t t' →
        Safe d.event t.shared.toStore t'.shared.toStore) ∧
      ∀ d : Delivery, Safe d.event t.shared.toStore
          ((handleWebhook platform config d.now d.event).run t.shared.toStore).2 ↔
        ¬ (TakenUp platform t.shared.toStore d.event ∧
          Overrides platform config t.shared.toStore d.event) := by
  obtain ⟨hcontracts, heach⟩ := Run.each_by (I := fun a : Accounts => a.Contracts)
    (R := fun i => (request i).Kept platform config) hrun (fun i => kept_program (request i))
    (fun tenant row hrow => absurd hrow (by simp [requests, ha tenant]))
    fun i l x y hspares hkept hx => (hkept hspares hx).1
  refine ⟨hcontracts, ?_, fun d => safe_delivery_iff hcontracts d.now⟩
  rintro i d _ hd ⟨hmoves⟩
  rcases moves_step (heach i) hmoves with hsame | ⟨l, hspares, hkept⟩
  · rw [hsame]
    exact Safe.refl hcontracts
  · exact (hkept hspares hcontracts).2 d hd

/-! ### A contract -/

def sampleAdmin : AuthenticatedUser where
  userId := "admin"
  tenantId := "vigiscam"
  role := .superAdmin

/-- A subscription, and a contract for the same tenant. -/
def sampleRequests : Fin 2 → Request
  | 0 => .webhook subscribed
  | 1 => .setManualInvoice sampleAdmin "t" { plan := .familyGuardian, note := none }

def emptyAccounts : Accounts where
  toStore := tenantStore
  evidence := []

/-- Of the tenant `t`: the status, and the effective plan. -/
def Store.standing (s : Store) : Option SubscriptionStatus × BillingPlan :=
  ((s.subscriptions "t").map (·.status), s.effectivePlan "t")

/-- The contract is set after the tenant has subscribed. -/
theorem contracts_kept_after_subscription :
    (Prog.turns (requests unsignedPlatform liveConfig sampleRequests emptyAccounts)
      [(0, 9), (1, 9)]).shared.standing = (some .manual, .familyGuardian) ∧
    (Prog.turns (requests unsignedPlatform liveConfig sampleRequests emptyAccounts)
      [(0, 9), (1, 9)]).shared.Contracts := by
  refine ⟨by decide +kernel, ?_⟩
  refine (@contracts_kept unsignedPlatform liveConfig _ _ sampleRequests emptyAccounts _
    (fun _ => rfl) (Prog.run_turns .refl ?_)).1
  decide +kernel

/-- The deletion of a subscription `old` of the tenant `t`. -/
def oldDeleted : Delivery where
  event := object [("id", string "evt4"), ("type", string "customer.subscription.deleted"),
    ("data", object [("object", object [("id", string "old"), ("status", string "canceled"),
      ("items", object []), ("metadata", object [("tenantId", string "t")])])])]
  now := someNoon

/-- The end of the subscription that the tenant had before ends its contract; and the end of a
subscription that the tenant has replaced takes the plan of the new one away. -/
theorem leftover_overrides :
    let requests := requests unsignedPlatform liveConfig sampleRequests emptyAccounts
    let deliver := fun (d : Delivery) (s : Store) =>
      ((handleWebhook unsignedPlatform liveConfig d.now d.event).run s).2
    (∃ t, Pool.Run (Prog.interleavedBy fun _ _ _ => True) requests t ∧
      (t.shared.subscriptions "t").map (·.manualInvoice) = some true ∧
      t.shared.standing = (some .manual, .familyGuardian) ∧
      (deliver deleted t.shared.toStore).standing = (some .canceled, .free) ∧
      ¬ Safe deleted.event t.shared.toStore (deliver deleted t.shared.toStore)) ∧
    ∃ t, Pool.Run (Prog.interleavedBy fun _ _ _ => True) requests t ∧
      (t.shared.subscriptions "t").bind (·.stripeSubscriptionId) = some (utf16 "sub") ∧
      t.shared.standing = (some .active, .premiumShield) ∧
      (deliver oldDeleted t.shared.toStore).standing = (some .canceled, .free) ∧
      ¬ Safe oldDeleted.event t.shared.toStore (deliver oldDeleted t.shared.toStore) := by
  intro requests deliver
  have hrun : ∀ order, Pool.Run (Prog.interleavedBy fun _ _ _ => True) requests
      (Prog.turns requests order) := fun order =>
    Prog.run_turns .refl (Prog.permittedTurns_true ..)
  refine ⟨⟨Prog.turns requests [(0, 9), (1, 9)], hrun _, by decide +kernel, by decide +kernel,
    by decide +kernel, fun hsafe => ?_⟩, Prog.turns requests [(0, 9)], hrun _, by decide +kernel,
    by decide +kernel, by decide +kernel, fun hsafe => ?_⟩
  · have hflag : ((Prog.turns requests [(0, 9), (1, 9)]).shared.subscriptions "t").map
        (·.manualInvoice) = some true := by decide +kernel
    obtain ⟨row, hrow, hmanual⟩ := Option.map_eq_some_iff.mp hflag
    exact absurd (hsafe.contract "t" row hrow hmanual).1 (by decide +kernel)
  · exact absurd (hsafe.leftover (by decide +kernel) "t" (by decide +kernel)) (by decide +kernel)

end Runs

end Billing
