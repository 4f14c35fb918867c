import Vigiscam.Concurrency.Contract
import Vigiscam.Concurrency.Table
import Vigiscam.EvidenceVault.Json
import Vigiscam.Identity.Auth

/-!
# Outbound webhooks (`webhook.service.ts`)

Partners subscribe to event types, and every event is posted to the subscriptions that match it,
with a signature over the body. Publishing starts a delivery for each subscription and waits for
none of them: `deliver` computes its message before it first waits, so `start` puts the messages
of all subscriptions into `started`, and `runStarted` is what becomes of one of them.

A post is answered by the endpoint, or fails; `wire` holds what has been posted.
-/

namespace Webhooks

open Js Value Concurrency EvidenceVault
open Identity (Tenant RequestContext)

/-! ## Rows -/

inductive WebhookEventType where
  | signalVerified | registryPublished | registryUnpublished | publicAlertPublished
deriving DecidableEq

inductive WebhookSubscriptionStatus where
  | active | paused | revoked
deriving DecidableEq

inductive WebhookDeliveryStatus where
  | pending | succeeded | failed
deriving DecidableEq

def WebhookEventType.code : WebhookEventType → Text
  | signalVerified => "SIGNAL_VERIFIED"
  | registryPublished => "REGISTRY_PUBLISHED"
  | registryUnpublished => "REGISTRY_UNPUBLISHED"
  | publicAlertPublished => "PUBLIC_ALERT_PUBLISHED"

structure WebhookSubscription where
  id : Uuid
  tenantId : Uuid
  url : Text
  /-- The shared HMAC secret. -/
  secret : Text
  eventTypes : List WebhookEventType
  status : WebhookSubscriptionStatus
  revokedAt : Option Int
deriving DecidableEq

/-- A subscription as it is told to an admin: all but its secret. -/
structure SafeSubscription where
  id : Uuid
  tenantId : Uuid
  url : Text
  eventTypes : List WebhookEventType
  status : WebhookSubscriptionStatus
  revokedAt : Option Int
deriving DecidableEq

def WebhookSubscription.safe (sub : WebhookSubscription) : SafeSubscription where
  id := sub.id
  tenantId := sub.tenantId
  url := sub.url
  eventTypes := sub.eventTypes
  status := sub.status
  revokedAt := sub.revokedAt

structure IssuedWebhookSubscription where
  /-- The shared secret, returned exactly once. -/
  rawSecret : Text
  record : SafeSubscription

/-- What an endpoint answers. -/
structure Response where
  status : Nat
  text : Text
deriving DecidableEq

/-- `res.ok`. -/
def Response.ok (res : Response) : Bool := 200 ≤ res.status && res.status ≤ 299

structure WebhookDelivery where
  id : Uuid
  subscriptionId : Uuid
  tenantId : Uuid
  eventType : WebhookEventType
  payload : Value
  signature : Text
  status : WebhookDeliveryStatus
  responseStatus : Option Nat
  responseBody : Option Text
  error : Option Text
  deliveredAt : Option Int
  succeededAt : Option Int

/-- What `deliver` has computed when it first waits. -/
structure Message where
  subscriptionId : Uuid
  tenantId : Uuid
  url : Text
  eventType : WebhookEventType
  envelope : Value
  body : Text
  sigHeader : Text

/-- A request on its way to an endpoint, and what came back. -/
structure Post where
  url : Text
  signature : Text
  event : Text
  deliveryId : Uuid
  body : Text
  answer : Except Text Response

/-- The database and the wire, with the clock and the sources of ids, of random bytes and of
answers. -/
structure Store where
  tenants : List Tenant
  subscriptions : List WebhookSubscription
  deliveries : List WebhookDelivery
  started : List Message
  wire : List Post
  evidence : List AppendEvidenceInput
  now : Int
  uuid : Nat → Uuid
  issued : Nat
  randomBytes : Nat → Text
  drawn : Nat
  answers : Nat → Except Text Response

/-- What the service uses of the language's runtime. -/
structure Platform where
  /-- `createHmac('sha256', secret).update(message).digest('hex')`. -/
  hmac : Text → Text → Text
  newDate : Int → Date
  /-- `String(err)`. -/
  errorText : HttpError → Text

/-! ## Steps -/

inductive DbStep where
  | read | draw | create | update | log | start | take | post | clock
deriving DecidableEq

abbrev Program := Prog Store DbStep HttpError

def read {α : Type} (f : Store → α) : Program α := Prog.act .read .internal fun s => (f s, s)

/-- A fresh id. -/
def Store.issue (s : Store) : Uuid × Store := (s.uuid s.issued, { s with issued := s.issued + 1 })

def appendEvidence (input : AppendEvidenceInput) : Program Unit :=
  Prog.act .log .internal fun s => ((), { s with evidence := s.evidence ++ [input] })

def tick (now : Int) : Program Unit := Prog.act .clock .internal fun s => ((), { s with now })

/-! ## Management -/

structure CreateWebhookSubscriptionDto where
  tenantId : Uuid
  url : Text
  eventTypes : List WebhookEventType

def generateSecret : Program Text :=
  Prog.act .draw .internal fun s =>
    (utf16 "whsec_" ++ s.randomBytes s.drawn, { s with drawn := s.drawn + 1 })

def newSubscription (dto : CreateWebhookSubscriptionDto) (secret : Text) (id : Uuid) :
    WebhookSubscription where
  id := id
  tenantId := dto.tenantId
  url := dto.url
  secret := secret
  eventTypes := dto.eventTypes
  status := .active
  revokedAt := none

def insertSubscription (dto : CreateWebhookSubscriptionDto) (secret : Text) :
    Program WebhookSubscription :=
  Prog.act .create .internal fun s =>
    (newSubscription dto secret s.issue.1, { s.issue.2 with
      subscriptions := s.subscriptions ++ [newSubscription dto secret s.issue.1] })

def createdMetadata (tenant : Tenant) (dto : CreateWebhookSubscriptionDto) : Value :=
  .object [("tenantId", .string tenant.id),
    ("eventTypes", .array (dto.eventTypes.map fun event => .string event.code)),
    ("url", .string dto.url)]

theorem distinctItems_codes (events : List WebhookEventType) :
    DistinctItems (events.map fun event => string event.code) := by
  induction events with
  | nil => trivial
  | cons event events ih => exact ⟨trivial, ih⟩

theorem distinct_createdMetadata (tenant : Tenant) (dto : CreateWebhookSubscriptionDto) :
    (createdMetadata tenant dto).Distinct := by
  refine ⟨?_, trivial, distinctItems_codes dto.eventTypes, trivial, trivial⟩
  show List.Nodup [utf16 "tenantId", utf16 "eventTypes", utf16 "url"]
  decide

def revokedMetadata (sub : WebhookSubscription) : Value :=
  .object [("tenantId", .string sub.tenantId), ("url", .string sub.url)]

theorem distinct_revokedMetadata (sub : WebhookSubscription) : (revokedMetadata sub).Distinct := by
  refine ⟨?_, trivial, trivial, trivial⟩
  show List.Nodup [utf16 "tenantId", utf16 "url"]
  decide

def createSubscription (actor : AuthenticatedUser) (dto : CreateWebhookSubscriptionDto)
    (ctx : RequestContext) : Program IssuedWebhookSubscription := do
  match ← read fun s => Table.find Tenant.id dto.tenantId s.tenants with
  | none => throw (.notFound "Tenant not found")
  | some tenant =>
    let rawSecret ← generateSecret
    let record ← insertSubscription dto rawSecret
    appendEvidence {
      tenantId := some tenant.id
      actorId := some actor.userId
      actorType := some "ADMIN"
      entityType := "WEBHOOK_SUBSCRIPTION"
      entityId := record.id
      eventType := "WEBHOOK_SUBSCRIPTION_CREATED"
      eventDescription := "Webhook subscription created for " ++ tenant.name ++ " -> " ++ dto.url
      metadata := createdMetadata tenant dto
      ipAddress := ctx.ip
      deviceId := none
      metadata_distinct := distinct_createdMetadata tenant dto }
    return { rawSecret := rawSecret, record := record.safe }

/-- The subscriptions, newest first, optionally those of one tenant. An empty id is no filter. -/
def listSubscriptions (tenantId : Option Uuid) : Program (List SafeSubscription) :=
  read fun s =>
    let rows := match present tenantId with
      | none => s.subscriptions
      | some tenantId => s.subscriptions.filter (·.tenantId = tenantId)
    (rows.reverse.take 200).map WebhookSubscription.safe

def findSubscription (id : Uuid) : Program (Option WebhookSubscription) :=
  read fun s => Table.find WebhookSubscription.id id s.subscriptions

def WebhookSubscription.revoke (sub : WebhookSubscription) (now : Int) : WebhookSubscription :=
  { sub with status := .revoked, revokedAt := some now }

/-- `webhookSubscription.update` by id; it throws when there is no such row. -/
def setRevoked (id : Uuid) : Program SafeSubscription :=
  Prog.attempt .update .internal fun s =>
    (Table.find WebhookSubscription.id id s.subscriptions).map fun sub =>
      ((sub.revoke s.now).safe, { s with
        subscriptions := Table.modify WebhookSubscription.id id (·.revoke s.now) s.subscriptions })

def revokeSubscription (actor : AuthenticatedUser) (id : Uuid) (ctx : RequestContext) :
    Program SafeSubscription := do
  match ← findSubscription id with
  | none => throw (.notFound "Webhook subscription not found")
  | some sub =>
    if sub.status = .revoked then
      match ← findSubscription id with
      | none => throw .internal
      | some sub => return sub.safe
    else
      let updated ← setRevoked id
      appendEvidence {
        tenantId := some sub.tenantId
        actorId := some actor.userId
        actorType := some "ADMIN"
        entityType := "WEBHOOK_SUBSCRIPTION"
        entityId := sub.id
        eventType := "WEBHOOK_SUBSCRIPTION_REVOKED"
        eventDescription := "Webhook subscription revoked"
        metadata := revokedMetadata sub
        ipAddress := ctx.ip
        deviceId := none
        metadata_distinct := distinct_revokedMetadata sub }
      return updated

/-- The recent deliveries of a subscription. -/
def listDeliveries (subscriptionId : Uuid) (limit : Int) : Program (List WebhookDelivery) :=
  read fun s =>
    (s.deliveries.filter (·.subscriptionId = subscriptionId)).reverse.take
      (min (max limit 1) 500).toNat

/-! ## Signatures -/

def signedPayload (timestamp : Int) (body : Text) : Text :=
  (Number.ofInt timestamp).toText ++ utf16 "." ++ body

/-- `t=<timestamp>,v1=<signature>`. -/
def sigHeader (p : Platform) (secret : Text) (timestamp : Int) (body : Text) : Text :=
  utf16 "t=" ++ (Number.ofInt timestamp).toText ++ utf16 ",v1=" ++
    p.hmac secret (signedPayload timestamp body)

def envelope (id : Uuid) (eventType : WebhookEventType) (tenantId occurredAt : Text)
    (data : Value) : Value :=
  .object [("id", .string id), ("eventType", .string eventType.code),
    ("tenantId", .string tenantId), ("occurredAt", .string occurredAt), ("data", data)]

/-! ## Publish and deliver -/

def Matches (eventType : WebhookEventType) (sub : WebhookSubscription) : Prop :=
  sub.status = .active ∧ eventType ∈ sub.eventTypes

instance (eventType : WebhookEventType) (sub : WebhookSubscription) :
    Decidable (Matches eventType sub) :=
  inferInstanceAs (Decidable (_ ∧ _))

/-- The first part of `deliver`, up to where it first waits. -/
def Store.message (p : Platform) (s : Store) (sub : WebhookSubscription)
    (eventType : WebhookEventType) (data : Value) : Message :=
  let timestamp := s.now / 1000
  let envelope := envelope s.issue.1 eventType sub.tenantId
    (p.newDate (timestamp * 1000)).toISOString data
  let body := jsonStringify envelope
  { subscriptionId := sub.id
    tenantId := sub.tenantId
    url := sub.url
    eventType := eventType
    envelope := envelope
    body := body
    sigHeader := sigHeader p sub.secret timestamp body }

/-- One more delivery is started. -/
def Store.startOne (p : Platform) (eventType : WebhookEventType) (data : Value) (s : Store)
    (sub : WebhookSubscription) : Store :=
  { s.issue.2 with started := s.started ++ [s.message p sub eventType data] }

/-- `for (const sub of subs) void this.deliver(sub, eventType, data)`. -/
def start (p : Platform) (subs : List WebhookSubscription) (eventType : WebhookEventType)
    (data : Value) : Program Unit :=
  Prog.act .start .internal fun s => ((), subs.foldl (Store.startOne p eventType data) s)

/-- Every active subscription of the event type, of whatever tenant. -/
def broadcastPublic (p : Platform) (eventType : WebhookEventType) (data : Value) :
    Program Unit := do
  let subs ← read fun s => s.subscriptions.filter (Matches eventType)
  start p subs eventType data

/-- Every active subscription of the tenant and of the event type. -/
def publish (p : Platform) (eventType : WebhookEventType) (tenantId : Option Uuid)
    (data : Value) : Program Unit :=
  match present tenantId with
  | none => pure ()
  | some tenantId => do
    let subs ← read fun s =>
      s.subscriptions.filter fun sub => sub.tenantId = tenantId ∧ Matches eventType sub
    start p subs eventType data

def newDelivery (m : Message) (now : Int) (id : Uuid) : WebhookDelivery where
  id := id
  subscriptionId := m.subscriptionId
  tenantId := m.tenantId
  eventType := m.eventType
  payload := m.envelope
  signature := m.sigHeader
  status := .pending
  responseStatus := none
  responseBody := none
  error := none
  deliveredAt := some now
  succeededAt := none

/-- `webhookDelivery.create`. -/
def createDelivery (m : Message) : Program WebhookDelivery :=
  Prog.act .create .internal fun s =>
    (newDelivery m s.now s.issue.1, { s.issue.2 with
      deliveries := s.deliveries ++ [newDelivery m s.now s.issue.1] })

/-- `fetch`, and the text of its answer. -/
def post (m : Message) (deliveryId : Uuid) : Program (Except Text Response) :=
  Prog.act .post .internal fun s =>
    (s.answers s.wire.length, { s with
      wire := s.wire ++ [{
        url := m.url
        signature := m.sigHeader
        event := m.eventType.code
        deliveryId := deliveryId
        body := m.body
        answer := s.answers s.wire.length }] })

/-- What is written of an answer. -/
def WebhookDelivery.answered (res : Response) (now : Int) (d : WebhookDelivery) :
    WebhookDelivery :=
  { d with
    status := if res.ok then .succeeded else .failed
    responseStatus := some res.status
    responseBody := some (res.text.take 2000)
    succeededAt := if res.ok then some now else none }

/-- What is written of an error. -/
def WebhookDelivery.errored (text : Text) (d : WebhookDelivery) : WebhookDelivery :=
  { d with status := .failed, error := some (text.take 2000) }

/-- `webhookDelivery.update` by id; it throws when there is no such row. -/
def updateDelivery (id : Uuid) (f : Int → WebhookDelivery → WebhookDelivery) : Program Unit :=
  Prog.attempt .update .internal fun s =>
    (Table.find WebhookDelivery.id id s.deliveries).map fun _ => ((), { s with
      deliveries := Table.modify WebhookDelivery.id id (f s.now) s.deliveries })

/-- The error is written, where that works. -/
def noteError (id : Uuid) (text : Text) : Program Unit :=
  tryCatch (updateDelivery id fun _ => WebhookDelivery.errored text) fun _ => pure ()

/-- The rest of `deliver`. A delivery that cannot be recorded is not posted. -/
def deliver (p : Platform) (m : Message) : Program Unit := do
  match ← (tryCatch (do return some (← createDelivery m)) fun _ => pure none) with
  | none => return ()
  | some delivery =>
    tryCatch
      (do
        match ← post m delivery.id with
        | .error text => noteError delivery.id text
        | .ok res => updateDelivery delivery.id fun now => WebhookDelivery.answered res now)
      fun err => noteError delivery.id (p.errorText err)

/-- The delivery that was started first goes on. -/
def takeStarted : Program (Option Message) :=
  Prog.act .take .internal fun s => (s.started.head?, { s with started := s.started.tail })

def runStarted (p : Platform) : Program Unit := do
  match ← takeStarted with
  | none => return ()
  | some m => deliver p m

end Webhooks
