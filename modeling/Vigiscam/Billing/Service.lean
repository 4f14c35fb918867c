import Vigiscam.Billing.Stripe
import Vigiscam.Concurrency.Prog

/-!
# The billing webhook (`billing.service.ts`, `billing.controller.ts`)

`webhook` is the public endpoint, `handleWebhook` what it does with an event. Both are
programs over the `Store`, one step for each call of the database. The event is a value
of unknown shape, also after its signature was checked, so every read of a field is
one of `Vigiscam.Js.Property`, and a database call refuses an argument that is no value
of its column.
-/

namespace Billing

open Js Value Concurrency

/-! ## The tables -/

/-- A row of `billing_events`, by its unique `stripeEventId`. -/
structure BillingEvent where
  stripeEventId : Text
  type : Text
  tenantId : Option Uuid
  payload : Value
  processedAt : Option Date

/-- A row of `tenant_subscriptions`, by its unique `tenantId`. -/
structure TenantSubscription where
  plan : BillingPlan
  status : SubscriptionStatus
  stripeCustomerId : Option Text
  stripeSubscriptionId : Option Text
  stripePriceId : Option Text
  currentPeriodEnd : Option Date
  cancelAtPeriodEnd : Bool
  manualInvoice : Bool

/-- The defaults of the schema. -/
def TenantSubscription.default : TenantSubscription where
  plan := .free
  status := .inactive
  stripeCustomerId := none
  stripeSubscriptionId := none
  stripePriceId := none
  currentPeriodEnd := none
  cancelAtPeriodEnd := false
  manualInvoice := false

structure AuditLog where
  actorId : Option Uuid
  actorType : Text
  action : Text
  targetType : Text
  targetId : Text
  metadata : Value

/-- The tables that billing uses. A row of `events` stands under its `stripeEventId`. -/
structure Store where
  tenants : Uuid → Bool
  events : Text → Option BillingEvent
  subscriptions : Uuid → Option TenantSubscription
  audit : List AuditLog
  events_key : ∀ id row, events id = some row → row.stripeEventId = id

/-- The calls of the database. -/
inductive DbStep where
  | findBillingEvent | createBillingEvent | upsertSubscription | createAuditLog
  | updateBillingEvent
deriving DecidableEq

abbrev Program (α : Type) := Prog Store DbStep HttpError α

/-! ## Arguments of the columns -/

section Columns

variable (platform : Platform)

/-- An argument for a text column that is not nullable. -/
def textArgument (v : Value) : Option Text := v.asText.filter platform.textColumn

def uuidArgument (v : Value) : Option Uuid := v.asText.bind platform.uuidColumn

/-- An argument `v ?? fallback` for a nullable uuid column. -/
def uuidOr (fallback : Option Uuid) (v : Value) : Option (Option Uuid) :=
  match v with
  | .null | .undefined => some fallback
  | v => (uuidArgument platform v).map some

/-- What a nullable text column holds after an update; `undefined` leaves it alone. -/
def nullableText (old : Option Text) (v : Value) : Option (Option Text) :=
  match v with
  | .undefined => some old
  | .null => some none
  | v => (textArgument platform v).map some

/-- What a boolean column holds after an update; `undefined` leaves it alone. -/
def boolArgument (old : Bool) : Value → Option Bool
  | .undefined => some old
  | .bool b => some b
  | _ => none

/-- What a date column holds after an update with a date that may be invalid. -/
def dateArgument (old : Option Date) : Option (Option Date) → Option (Option Date)
  | none => some old
  | some date => date.map some

/-- The data of `upsertSubscription`. A field that is left out is `none` or `undefined`;
a date that is given may be invalid. -/
structure SubscriptionData where
  plan : Option BillingPlan
  status : Option SubscriptionStatus
  stripeCustomerId : Value
  stripeSubscriptionId : Value
  stripePriceId : Value
  currentPeriodEnd : Option (Option Date)
  cancelAtPeriodEnd : Value

/-- `old` with the data written over it. -/
def written (old : TenantSubscription) (data : SubscriptionData) : Option TenantSubscription := do
  let stripeCustomerId ← nullableText platform old.stripeCustomerId data.stripeCustomerId
  let stripeSubscriptionId ←
    nullableText platform old.stripeSubscriptionId data.stripeSubscriptionId
  let stripePriceId ← nullableText platform old.stripePriceId data.stripePriceId
  let currentPeriodEnd ← dateArgument old.currentPeriodEnd data.currentPeriodEnd
  let cancelAtPeriodEnd ← boolArgument old.cancelAtPeriodEnd data.cancelAtPeriodEnd
  return { old with
    plan := data.plan.getD old.plan
    status := data.status.getD old.status
    stripeCustomerId, stripeSubscriptionId, stripePriceId, currentPeriodEnd, cancelAtPeriodEnd }

/-- The row of a tenant: the one there is, or a new one where the tenant exists. -/
def Store.rowOrNew (s : Store) (tenantId : Uuid) : Option TenantSubscription :=
  match s.subscriptions tenantId with
  | some row => some row
  | none => if s.tenants tenantId then some TenantSubscription.default else none

/-- The store after `upsert`. -/
def Store.upsert (s : Store) (tenantId : Value) (data : SubscriptionData) : Option Store := do
  let id ← uuidArgument platform tenantId
  let old ← s.rowOrNew id
  let row ← written platform old data
  return { s with subscriptions := Function.update s.subscriptions id (some row) }

/-- The row that `billingEvent.create` inserts. -/
def newBillingEvent (stripeEventId type tenantId payload : Value) : Option BillingEvent := do
  let stripeEventId ← textArgument platform stripeEventId
  let type ← textArgument platform type
  let tenantId ← uuidOr platform none tenantId
  if platform.jsonColumn payload then
    return { stripeEventId, type, tenantId, payload := readBack payload, processedAt := none }
  else none

end Columns

def Store.setEvent (s : Store) (row : BillingEvent) : Store :=
  { s with
    events := Function.update s.events row.stripeEventId (some row)
    events_key := by
      intro id row' h
      by_cases hid : id = row.stripeEventId
      · rw [hid, Function.update_self] at h
        rw [hid, ← Option.some.inj h]
      · rw [Function.update_of_ne hid] at h
        exact s.events_key id row' h }

@[simp] theorem Store.events_setEvent (s : Store) (row : BillingEvent) :
    (s.setEvent row).events row.stripeEventId = some row :=
  Function.update_self ..

/-! ## The calls of the database -/

section Service

variable (platform : Platform) (config : Config)

/-- A value, or the exception of computing it. -/
def orThrow {α : Type} : Option α → Program α
  | some a => pure a
  | none => throw .internal

def findBillingEvent (stripeEventId : Value) : Program (Option BillingEvent) :=
  Prog.attempt .findBillingEvent .internal fun s =>
    (textArgument platform stripeEventId).map fun id => (s.events id, s)

/-- The `stripeEventId` is unique. -/
def createBillingEvent (stripeEventId type tenantId payload : Value) : Program BillingEvent :=
  Prog.attempt .createBillingEvent .internal fun s => do
    let row ← newBillingEvent platform stripeEventId type tenantId payload
    match s.events row.stripeEventId with
    | some _ => none
    | none => some (row, s.setEvent row)

/-- `update` of the row that was found or created, where it is still there. -/
def updateBillingEvent (logRow : BillingEvent) (processedAt : Date) (tenantId : Value) :
    Program Unit :=
  Prog.attempt .updateBillingEvent .internal fun s => do
    let row ← s.events logRow.stripeEventId
    let tenantId ← uuidOr platform logRow.tenantId tenantId
    return ((), s.setEvent { row with processedAt := some processedAt, tenantId })

def upsertSubscription (tenantId : Value) (data : SubscriptionData) : Program Unit :=
  Prog.attempt .upsertSubscription .internal fun s =>
    (s.upsert platform tenantId data).map fun s' => ((), s')

/-- The row that `auditLog.create` inserts. -/
def newAuditLog (actorId : Option Uuid) (action : Text) (tenantId metadata : Value) :
    Option AuditLog := do
  let targetId ← textArgument platform tenantId
  if platform.jsonColumn metadata then
    return {
      actorId
      actorType := if actorId.isSome then "USER" else "SYSTEM"
      action := utf16 "BILLING_" ++ action
      targetType := "TENANT_SUBSCRIPTION"
      targetId
      metadata := readBack metadata }
  else none

def createAuditLog (actorId : Option Uuid) (action : Text) (tenantId metadata : Value) :
    Program Unit :=
  Prog.attempt .createAuditLog .internal fun s =>
    (newAuditLog platform actorId action tenantId metadata).map fun row =>
      ((), { s with audit := s.audit ++ [row] })

/-! ### What a call does -/

section Runs

variable {platform} {s s' : Store} {stripeEventId type tenantId payload v : Value}

@[simp] theorem run_orThrow_some {α : Type} (a : α) : (orThrow (some a)).run s = (.ok a, s) := rfl

@[simp] theorem run_orThrow_none {α : Type} :
    (orThrow (none : Option α)).run s = (.error .internal, s) := rfl

theorem run_findBillingEvent {id : Text} (h : textArgument platform v = some id) :
    (findBillingEvent platform v).run s = (.ok (s.events id), s) := by
  refine Prog.run_attempt_some ?_
  rw [h]
  rfl

theorem run_findBillingEvent_none (h : textArgument platform v = none) :
    (findBillingEvent platform v).run s = (.error .internal, s) := by
  refine Prog.run_attempt_none ?_
  rw [h]
  rfl

theorem run_createBillingEvent {row : BillingEvent}
    (hnew : newBillingEvent platform stripeEventId type tenantId payload = some row)
    (hfree : s.events row.stripeEventId = none) :
    (createBillingEvent platform stripeEventId type tenantId payload).run s
      = (.ok row, s.setEvent row) := by
  refine Prog.run_attempt_some ?_
  simp only [hnew, hfree, Option.bind_eq_bind, Option.bind_some]

theorem run_createBillingEvent_none
    (hnew : newBillingEvent platform stripeEventId type tenantId payload = none) :
    (createBillingEvent platform stripeEventId type tenantId payload).run s
      = (.error .internal, s) := by
  refine Prog.run_attempt_none ?_
  simp only [hnew, Option.bind_eq_bind, Option.bind_none]

theorem run_updateBillingEvent {logRow row : BillingEvent} {now : Date} {tenant : Option Uuid}
    (hrow : s.events logRow.stripeEventId = some row)
    (htenant : uuidOr platform logRow.tenantId tenantId = some tenant) :
    (updateBillingEvent platform logRow now tenantId).run s
      = (.ok (), s.setEvent { row with processedAt := some now, tenantId := tenant }) := by
  refine Prog.run_attempt_some ?_
  simp only [hrow, htenant, Option.bind_eq_bind, Option.bind_some, Option.pure_def]

theorem run_updateBillingEvent_none {logRow : BillingEvent} {now : Date}
    (htenant : uuidOr platform logRow.tenantId tenantId = none) :
    (updateBillingEvent platform logRow now tenantId).run s = (.error .internal, s) := by
  refine Prog.run_attempt_none ?_
  cases hrow : s.events logRow.stripeEventId with
  | none => rfl
  | some row => simp only [htenant, Option.bind_eq_bind, Option.bind_some, Option.bind_none]

theorem run_upsertSubscription {data : SubscriptionData}
    (h : s.upsert platform tenantId data = some s') :
    (upsertSubscription platform tenantId data).run s = (.ok (), s') := by
  refine Prog.run_attempt_some ?_
  rw [h]
  rfl

theorem run_upsertSubscription_none {data : SubscriptionData}
    (h : s.upsert platform tenantId data = none) :
    (upsertSubscription platform tenantId data).run s = (.error .internal, s) := by
  refine Prog.run_attempt_none ?_
  rw [h]
  rfl

end Runs

/-! ## `handleWebhook` -/

/-- A failed audit write is logged, and no more. -/
def recordBillingAudit (actorId : Option Uuid) (action : Text) (tenantId metadata : Value) :
    Program Unit :=
  tryCatch (createAuditLog platform actorId action tenantId metadata) fun _ => pure ()

/-- `event.data.object`. -/
def objectOf (event : Value) : Option Value := do
  let data ← event.get "data"
  data.get "object"

def extractTenantId (event : Value) : Option Value := do
  let obj ← objectOf event
  return (obj.getOpt "metadata").getOpt "tenantId"

/-- What `applySubscriptionState` writes for a subscription. -/
def subscriptionState (sub : Value) (deleted : Bool) : Option SubscriptionData := do
  let items ← sub.get "items"
  let priceId := (((items.getOpt "data").first.getOpt "price").getOpt "id").coalesce .null
  let plan ← planFromPriceId config priceId
  let status ← sub.get "status"
  let id ← sub.get "id"
  let currentPeriodEnd ← sub.get "current_period_end"
  let cancelAtPeriodEnd ← sub.get "cancel_at_period_end"
  return {
    plan := some (if deleted then .free else plan)
    status := some (if deleted then .canceled else mapStripeStatus status)
    stripeCustomerId := .undefined
    stripeSubscriptionId := id
    stripePriceId := priceId.coalesce .undefined
    currentPeriodEnd :=
      if currentPeriodEnd.truthy then some (platform.dateOfSeconds currentPeriodEnd) else none
    cancelAtPeriodEnd := cancelAtPeriodEnd.coalesce (.bool false) }

def applySubscriptionState (tenantId sub : Value) (deleted : Bool) : Program Unit := do
  let data ← orThrow (subscriptionState platform config sub deleted)
  upsertSubscription platform tenantId data
  recordBillingAudit platform none "SUBSCRIPTION_STATE_CHANGED" tenantId
    (.object [("plan", .ofNullable (data.plan.map BillingPlan.code)),
      ("status", .ofNullable (data.status.map SubscriptionStatus.code)),
      ("stripeSubscriptionId", data.stripeSubscriptionId), ("deleted", .bool deleted)])

/-- What the `checkout.session.completed` case writes; `none` where it writes nothing. -/
def checkoutState (tenantId session : Value) : Option (Option SubscriptionData) := do
  let customer ← session.get "customer"
  let subscription ← session.get "subscription"
  if tenantId.truthy && customer.asText.isSome then
    return some {
      plan := none
      status := some .active
      stripeCustomerId := customer
      stripeSubscriptionId := if subscription.asText.isSome then subscription else .undefined
      stripePriceId := .undefined
      currentPeriodEnd := none
      cancelAtPeriodEnd := .undefined }
  else return none

/-- `object.metadata?.tenantId ?? tenantId`. -/
def tenantOf (object tenantId : Value) : Option Value := do
  let metadata ← object.get "metadata"
  return (metadata.getOpt "tenantId").coalesce tenantId

/-- The `switch` over the type of the event. -/
def processEvent (event tenantId : Value) : Program Unit := do
  let type ← orThrow (event.get "type")
  if type.isText "checkout.session.completed" then
    let session ← orThrow (objectOf event)
    let tid ← orThrow (tenantOf session tenantId)
    match ← orThrow (checkoutState tid session) with
    | some data => upsertSubscription platform tid data
    | none => pure ()
  else if type.isText "customer.subscription.created" || type.isText "customer.subscription.updated"
      || type.isText "customer.subscription.deleted" then
    let sub ← orThrow (objectOf event)
    let tid ← orThrow (tenantOf sub tenantId)
    if tid.truthy then
      applySubscriptionState platform config tid sub (type.isText "customer.subscription.deleted")
    else pure ()
  else
    -- logged, no state change; the log line has the type in it
    orThrow (if type.printable then some () else none)

structure WebhookResult where
  received : Bool
  deduped : Bool
deriving DecidableEq

/-- The row of the event: the one that was there, or a new one. -/
def logEvent (id event tenantId : Value) : Option BillingEvent → Program BillingEvent
  | some already => pure already
  | none => do
    let type ← orThrow (event.get "type")
    createBillingEvent platform id type tenantId event

/-- Idempotent webhook handler. Dedupes on the Stripe event id; a redelivery
short-circuits. Recognized events drive the subscription row. -/
def handleWebhook (now : Date) (event : Value) : Program WebhookResult := do
  let id ← orThrow (event.get "id")
  let already ← findBillingEvent platform id
  if (already.bind (·.processedAt)).isSome then
    return { received := true, deduped := true }
  else
    let tenantId ← orThrow (extractTenantId event)
    let logRow ← logEvent platform id event tenantId already
    processEvent platform config event tenantId
    updateBillingEvent platform logRow now tenantId
    return { received := true, deduped := false }

/-! ## The endpoint -/

/-- A request to the webhook: the raw body, where there is one, and the
`stripe-signature` header. -/
structure WebhookRequest where
  rawBody : Option (List UInt8)
  signature : Option Text

/-- Stripe webhook receiver. Public: the signature replaces the authentication. -/
def webhook (now : Date) (request : WebhookRequest) : Program WebhookResult :=
  match request.rawBody with
  | none => throw (.badRequest "Missing raw request body for webhook verification")
  | some raw =>
    match (StripeService.new config).constructWebhookEvent platform (.buffer raw)
        request.signature with
    | .error err => throw (.badRequest (utf16 "Webhook signature verification failed: " ++ err))
    | .ok event => handleWebhook platform config now event

end Service

end Billing
