import Vigiscam.Concurrency.Table
import Vigiscam.Concurrency.Prog
import Vigiscam.Http
import Vigiscam.Js.Property

/-!
# Notifications (`notification.service.ts`, `notification-retry.worker.ts`)

A notification has a row before it is handed to the adapter of its channel, and the row says what
became of each attempt. A first attempt that fails puts a job into the queue, which workers take:
a job runs for as long as its runs throw, three times at most (`defaultJobOptions`).

The processes `ι` are the modules that send, and the workers; each draws ids of its own. The queue
is a service of its own, of which the model has what it promises where no worker stalls: one worker
at a time has a job, and a job is added once for an id. Providers answer as they like.
-/

namespace Notifications

open Js Value Concurrency

/-! ## Rows -/

inductive NotificationChannel where
  | email | sms | push | inApp | websocket
deriving DecidableEq

inductive NotificationDeliveryStatus where
  | pending | sent | failed | skipped
deriving DecidableEq

structure NotificationSendArgs where
  recipient : Text
  subject : Text
  body : Text
  metadata : Option Value

structure SendNotificationInput extends NotificationSendArgs where
  channel : NotificationChannel
  tenantId : Option Uuid
  userId : Option Uuid
  templateKey : Text
  relatedRiskEventId : Option Uuid
  relatedEvidenceId : Option Uuid

structure NotificationDelivery where
  id : Uuid
  tenantId : Option Uuid
  userId : Option Uuid
  channel : NotificationChannel
  recipient : Text
  templateKey : Text
  status : NotificationDeliveryStatus
  attempts : Nat
  lastError : Option Text
  payloadDigest : Text
  providerMessageId : Option Text
  sentAt : Option Int
  readAt : Option Int
  relatedRiskEventId : Option Uuid
  relatedEvidenceId : Option Uuid

/-! ## Adapters -/

structure AdapterResult where
  ok : Bool
  providerMessageId : Option Text
  error : Option Text
  skipped : Bool

/-- What a provider answers: the id of the message, or an error. -/
abbrev Answer := Except Text (Option Text)

structure Platform where
  /-- The credentials of the channel are there. -/
  configured : NotificationChannel → Bool
  /-- `REDIS_URL` is set. -/
  redis : Bool
  sha256 : Text → Text

def AdapterResult.sent (providerMessageId : Option Text) : AdapterResult :=
  ⟨true, providerMessageId, none, false⟩

def AdapterResult.skip : AdapterResult := ⟨true, none, none, true⟩

def AdapterResult.failed (error : Text) : AdapterResult := ⟨false, none, some error, false⟩

def AdapterResult.ofAnswer : Answer → AdapterResult
  | .ok providerMessageId => .sent providerMessageId
  | .error error => .failed error

/-- `!args.metadata?.tenantId`. -/
def NotificationSendArgs.lacksTenant (args : NotificationSendArgs) : Bool :=
  !((args.metadata.getD undefined).getOpt "tenantId").truthy

/-- `adapter.send(args)`, where the provider gives an answer. -/
def adapterSend (p : Platform) (channel : NotificationChannel) (args : NotificationSendArgs)
    (answer : Answer) : AdapterResult :=
  match channel with
  | .email | .sms | .push =>
    if p.configured channel then .ofAnswer answer else .skip
  | .inApp =>
    if args.lacksTenant then .failed "in-app alert requires metadata.tenantId"
    else .ofAnswer answer
  | .websocket =>
    if args.lacksTenant then .failed "websocket emit requires metadata.tenantId"
    else .sent none

/-- `res.ok ? (res.skipped ? 'SKIPPED' : 'SENT') : 'FAILED'`. -/
def AdapterResult.status (res : AdapterResult) : NotificationDeliveryStatus :=
  if res.ok then if res.skipped then .skipped else .sent else .failed

/-- What has been handed to an adapter, for which delivery. -/
structure Handed where
  deliveryId : Uuid
  channel : NotificationChannel
  args : NotificationSendArgs
  result : AdapterResult

/-! ## The queue -/

structure NotificationDeliveryPayload where
  deliveryId : Uuid
  tenantId : Option Uuid
  channel : Text
  recipient : Text
  templateKey : Text
  subject : Text
  body : Text
  /-- `variables`. -/
  metadata : Option Value

inductive JobState (ι : Type) where
  | waiting
  | active (worker : ι)
  | completed
  | failed

structure Job (ι : Type) where
  data : NotificationDeliveryPayload
  attemptsMade : Nat
  state : JobState ι

/-- `retry:${delivery.id}`. -/
def retryJobId (deliveryId : Uuid) : Text := utf16 "retry:" ++ deliveryId

def Job.id {ι : Type} (job : Job ι) : Text := retryJobId job.data.deliveryId

/-- The job after a run of it, which has thrown or not. -/
def Job.after {ι : Type} (thrown : Bool) (job : Job ι) : Job ι :=
  { job with
    attemptsMade := job.attemptsMade + 1
    state := if !thrown then .completed
      else if job.attemptsMade + 1 < 3 then .waiting
      else .failed }

/-! ## State and steps -/

structure Store (ι : Type) where
  deliveries : List NotificationDelivery
  /-- What has been handed to adapters. -/
  wire : List Handed
  answers : Nat → Answer
  jobs : List (Job ι)
  /-- `new Date()`. -/
  now : Int
  uuid : ι → Nat → Uuid
  issued : ι → Nat

inductive NotificationStep where
  | create | send | update | enqueue | take | settle | clock

variable {ι : Type} [DecidableEq ι]

abbrev Program (ι : Type) := Prog (Store ι) NotificationStep HttpError

def payloadDigest (p : Platform) (input : SendNotificationInput) : Text :=
  p.sha256 (input.templateKey ++ utf16 "|" ++ input.recipient ++ utf16 "|" ++ input.body)

def newDelivery (p : Platform) (input : SendNotificationInput) (id : Uuid) :
    NotificationDelivery where
  id := id
  tenantId := input.tenantId
  userId := input.userId
  channel := input.channel
  recipient := input.recipient
  templateKey := input.templateKey
  status := .pending
  attempts := 0
  lastError := none
  payloadDigest := payloadDigest p input
  providerMessageId := none
  sentAt := none
  readAt := none
  relatedRiskEventId := input.relatedRiskEventId
  relatedEvidenceId := input.relatedEvidenceId

/-- A new row, with the next id that the process draws. -/
def Store.created (s : Store ι) (p : Platform) (i : ι) (input : SendNotificationInput) : Store ι :=
  { s with
    deliveries := s.deliveries ++ [newDelivery p input (s.uuid i (s.issued i))]
    issued := Function.update s.issued i (s.issued i + 1) }

def createDelivery (p : Platform) (i : ι) (input : SendNotificationInput) : Program ι Uuid :=
  Prog.act .create .internal fun s => (s.uuid i (s.issued i), s.created p i input)

def callAdapter (p : Platform) (deliveryId : Uuid) (channel : NotificationChannel)
    (args : NotificationSendArgs) : Program ι AdapterResult :=
  Prog.act .send .internal fun s =>
    let res := adapterSend p channel args (s.answers s.wire.length)
    (res, { s with wire := s.wire ++ [⟨deliveryId, channel, args, res⟩] })

/-- The outcome of an attempt, on the row. -/
def NotificationDelivery.attempted (res : AdapterResult) (now : Int)
    (delivery : NotificationDelivery) : NotificationDelivery :=
  { delivery with
    status := res.status
    attempts := delivery.attempts + 1
    lastError := res.error
    providerMessageId := res.providerMessageId
    sentAt := if res.status = .sent then some now else delivery.sentAt }

def Store.attempted (s : Store ι) (deliveryId : Uuid) (res : AdapterResult) : Store ι :=
  { s with
    deliveries := Table.modify NotificationDelivery.id deliveryId
      (NotificationDelivery.attempted res s.now) s.deliveries }

/-- The update throws when there is no such row. -/
def updateDelivery (deliveryId : Uuid) (res : AdapterResult) : Program ι Unit :=
  Prog.attempt .update .internal fun s =>
    (Table.find NotificationDelivery.id deliveryId s.deliveries).map fun _ =>
      ((), s.attempted deliveryId res)

/-! ## The service -/

def attemptDelivery (p : Platform) (deliveryId : Uuid) (channel : NotificationChannel)
    (args : NotificationSendArgs) : Program ι AdapterResult := do
  let res ← callAdapter p deliveryId channel args
  updateDelivery deliveryId res
  return res

def toQueueChannel : NotificationChannel → Text
  | .email => "email"
  | .sms => "sms"
  | .push => "push"
  | .inApp => "in-app"
  | .websocket => "websocket"

def KEBAB_TO_CHANNEL (channel : Text) : Option NotificationChannel :=
  if channel = utf16 "email" then some .email
  else if channel = utf16 "sms" then some .sms
  else if channel = utf16 "push" then some .push
  else if channel = utf16 "in-app" then some .inApp
  else if channel = utf16 "websocket" then some .websocket
  else none

theorem KEBAB_TO_CHANNEL_toQueueChannel (channel : NotificationChannel) :
    KEBAB_TO_CHANNEL (toQueueChannel channel) = some channel := by
  cases channel <;> decide

/-- The payload of a retry, as the queue gives it back: its metadata as JSON keeps them. -/
def retryPayload (deliveryId : Uuid) (input : SendNotificationInput) :
    NotificationDeliveryPayload where
  deliveryId := deliveryId
  tenantId := input.tenantId
  channel := toQueueChannel input.channel
  recipient := input.recipient
  templateKey := input.templateKey
  subject := input.subject
  body := input.body
  metadata := input.metadata.map readBack

/-- `queue.add`. A job of an id that is there already is not added. -/
def Store.add (s : Store ι) (data : NotificationDeliveryPayload) : Store ι :=
  match Table.find Job.id (retryJobId data.deliveryId) s.jobs with
  | some _ => s
  | none => { s with jobs := s.jobs ++ [⟨data, 0, .waiting⟩] }

def addJob (data : NotificationDeliveryPayload) : Program ι Unit :=
  Prog.act .enqueue .internal fun s => ((), s.add data)

/-- Without Redis, the payload is dropped. -/
def enqueue (p : Platform) (data : NotificationDeliveryPayload) : Program ι Unit :=
  if p.redis then addJob data else pure ()

def AdapterResult.failing (res : AdapterResult) : Bool := !res.ok && !res.skipped

def send (p : Platform) (i : ι) (input : SendNotificationInput) : Program ι Uuid := do
  let deliveryId ← createDelivery p i input
  let res ← attemptDelivery p deliveryId input.channel input.toNotificationSendArgs
  if res.failing then enqueue p (retryPayload deliveryId input)
  return deliveryId

def NotificationDeliveryPayload.args (payload : NotificationDeliveryPayload) :
    NotificationSendArgs where
  recipient := payload.recipient
  subject := payload.subject
  body := payload.body
  metadata := payload.metadata

/-- It throws on failure, so that the queue runs the job again. -/
def retryFromQueue (p : Platform) (payload : NotificationDeliveryPayload) : Program ι Unit := do
  match KEBAB_TO_CHANNEL payload.channel with
  | none => throw .internal
  | some channel =>
    let res ← attemptDelivery p payload.deliveryId channel payload.args
    if res.failing then throw .internal

def markRead (deliveryId userId : Uuid) : Program ι Unit :=
  Prog.act .update .internal fun s => ((), { s with
    deliveries := s.deliveries.map fun delivery =>
      if delivery.id = deliveryId ∧ delivery.userId = some userId then
        { delivery with readAt := some s.now }
      else delivery })

/-! ## Workers -/

def JobState.isWaiting : JobState ι → Bool
  | .waiting => true
  | _ => false

def Job.takenBy (worker : ι) (job : Job ι) : Job ι := { job with state := .active worker }

/-- A change of a job. -/
def Store.withJob (s : Store ι) (jobId : Text) (f : Job ι → Job ι) : Store ι :=
  { s with jobs := Table.modify Job.id jobId f s.jobs }

/-- A worker takes a job that is waiting. -/
def takeJob (worker : ι) (jobId : Text) : Program ι (Option NotificationDeliveryPayload) :=
  Prog.act .take .internal fun s =>
    match (Table.find Job.id jobId s.jobs).filter (·.state.isWaiting) with
    | none => (none, s)
    | some job => (some job.data, s.withJob jobId (Job.takenBy worker))

/-- The end of a run of a job. -/
def settleJob (jobId : Text) (thrown : Bool) : Program ι Unit :=
  Prog.act .settle .internal fun s => ((), s.withJob jobId (Job.after thrown))

/-- A run of a job that has been taken: `true` where it has thrown. -/
def runJob (p : Platform) (data : NotificationDeliveryPayload) : Program ι Bool :=
  tryCatch (do retryFromQueue p data; return false) fun _ => return true

def takeAndRun (p : Platform) (worker : ι) (jobId : Text) : Program ι Unit := do
  match ← takeJob worker jobId with
  | none => return ()
  | some data =>
    let thrown ← runJob p data
    settleJob jobId thrown

/-- One round of a worker. What the queue itself throws ends the round. -/
def work (p : Platform) (worker : ι) (jobId : Text) : Program ι Unit :=
  tryCatch (takeAndRun p worker jobId) fun _ => return ()

/-! ## Processes -/

/-- What a process does: it sends one notification, or works on jobs, one after the other. -/
inductive Process where
  | sender (input : SendNotificationInput)
  | worker (jobIds : List Text)
  | reader (deliveryId userId : Uuid)
  | clock (now : Int)

def rounds (p : Platform) (worker : ι) : List Text → Program ι Unit
  | [] => return ()
  | jobId :: rest => do
    work p worker jobId
    rounds p worker rest

def Process.program (p : Platform) (i : ι) : Process → Program ι Unit
  | .sender input => do let _ ← send p i input
  | .worker jobIds => rounds p i jobIds
  | .reader deliveryId userId => markRead deliveryId userId
  | .clock now => Prog.act .clock .internal fun s => ((), { s with now })

/-- The processes at their start. -/
def running (p : Platform) (processes : ι → Process) (s : Store ι) :
    Pool ι (Store ι) (Program ι Unit) where
  shared := s
  locals i := (processes i).program p i

end Notifications
