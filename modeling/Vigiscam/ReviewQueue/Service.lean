import Vigiscam.Concurrency.Issued
import Vigiscam.Concurrency.Part
import Vigiscam.Registry.SafeLanguage
import Vigiscam.Registry.Service
import Vigiscam.ScamSignals.Review

/-!
# The review queue (`review-queue.service.ts`)

Intake queues a signal for review, and `createCandidate` an entry of the registry; both have their
items in one table. Reviewers claim items (`assign`), a decision on a signal completes the item of
the signal (`reviewSignal`), and one on an entry those of the entry (`approve`, `reject`).

The steps that write signals and entries are those of their own modules, whose stores are parts of
this one. The items are here with all their columns, so the queues of the parts stay empty.
-/

namespace ReviewQueue

open Js Concurrency
open EvidenceVault (AppendEvidenceInput)
open ScamSignals (ScamSignal ReviewQueueStatus ReviewDecision ReviewSignalDto IntakeOptions)
open Registry (RegistryEntry RegistryPublicStatus assertPublicSafeLanguage requireStatus
  updateEntry logEvidence)

/-! ## The table -/

/-- A row of `registry_review_queue`. -/
structure RegistryReviewQueue where
  id : Uuid
  signalId : Option Uuid
  registryEntryId : Option Uuid
  reviewStatus : ReviewQueueStatus
  publicSafe : Bool
  assignedToUserId : Option Uuid
  reviewNotes : Option Text
  decision : Option Text
deriving DecidableEq

abbrev QueueTable := Table.Issued Uuid RegistryReviewQueue RegistryReviewQueue.id

structure Store where
  signals : ScamSignals.Store
  registry : Registry.Store
  queue : QueueTable
  /-- The ids of the entries, and how many are given out. -/
  uuid : Nat → Uuid
  issued : Nat

inductive QueueStep where
  | signal (l : ScamSignals.SignalStep)
  | registry (l : Registry.RegistryStep)
  | read | create | update | updateMany | createEntry

abbrev Program (α : Type) := Prog Store QueueStep HttpError α

def signalsPart : Part Store ScamSignals.Store where
  get := Store.signals
  set signals s := { s with signals }
  set_get _ := rfl
  get_set _ _ := rfl

def registryPart : Part Store Registry.Store where
  get := Store.registry
  set registry s := { s with registry }
  set_get _ := rfl
  get_set _ _ := rfl

def onSignals {α : Type} (p : ScamSignals.Program α) : Program α := p.onPart signalsPart .signal

def onRegistry {α : Type} (p : Registry.Program α) : Program α :=
  p.onPart registryPart .registry

def read {α : Type} (f : Store → α) : Program α := Prog.act .read .internal fun s => (f s, s)

/-- An item that is not reviewed yet. -/
def pendingItem (signalId registryEntryId : Option Uuid) (id : Uuid) : RegistryReviewQueue where
  id := id
  signalId := signalId
  registryEntryId := registryEntryId
  reviewStatus := .pending
  publicSafe := false
  assignedToUserId := none
  reviewNotes := none
  decision := none

/-- `registryReviewQueue.create`. -/
def createItem (row : Uuid → RegistryReviewQueue) (hrow : ∀ id, (row id).id = id) :
    Program RegistryReviewQueue :=
  Prog.act .create .internal fun s =>
    (row s.queue.next, { s with queue := s.queue.add (row s.queue.next) (hrow _) })

/-- `registryReviewQueue.update` of one row; it throws when there is no such row. -/
def updateItem (id : Uuid) (f : RegistryReviewQueue → RegistryReviewQueue)
    (hf : ∀ item, (f item).id = item.id) : Program RegistryReviewQueue :=
  Prog.attempt .update .internal fun s =>
    (Table.find RegistryReviewQueue.id id s.queue.rows).map fun item =>
      (f item, { s with queue := s.queue.modify id f hf })

/-- An item of the signal that is not completed. -/
def isOpenItem (signalId : Uuid) (item : RegistryReviewQueue) : Bool :=
  item.signalId = some signalId && item.reviewStatus ≠ .completed

/-! ## Intake -/

/-- High-risk signals are queued for internal review. -/
def queueForReview (signal : ScamSignal) : Program Unit :=
  if signal.status = .suspiciousSignal || signal.status = .patternMatch then do
    match ← read fun s => s.queue.rows.find? (isOpenItem signal.id) with
    | some _ => return ()
    | none =>
      let _ ← createItem (pendingItem (some signal.id) none) fun _ => rfl
      return ()
  else pure ()

/-- The private intake engine. -/
def intake (platform : ScamSignals.Platform) (opts : IntakeOptions) : Program ScamSignal := do
  let signal ← onSignals do
    let base ← ScamSignals.read fun s => (s.profiles opts.sourceType).getD 35
    let existing ← ScamSignals.read (ScamSignals.findExisting platform opts.dto)
    let (signal, isDuplicate) ← ScamSignals.mergeOrCreate platform opts base existing
    ScamSignals.appendEvidence (ScamSignals.reportEvent opts signal isDuplicate)
    ScamSignals.clusterAndRefresh platform signal
  queueForReview signal
  return signal

/-! ## Reviewers -/

def requireItem (id : Uuid) : Program RegistryReviewQueue := do
  match ← read fun s => Table.find RegistryReviewQueue.id id s.queue.rows with
  | none => throw (.notFound "Review-queue item not found")
  | some item => return item

/-- Whatever the status of the item is, also of one that is completed. -/
def claimed (reviewer : AuthenticatedUser) (item : RegistryReviewQueue) : RegistryReviewQueue :=
  { item with assignedToUserId := some reviewer.userId, reviewStatus := .inReview }

/-- A reviewer claims a queue item. -/
def assign (reviewer : AuthenticatedUser) (queueId : Uuid) (ip : Option Text) :
    Program RegistryReviewQueue := do
  let _ ← requireItem queueId
  let updated ← updateItem queueId (claimed reviewer) fun _ => rfl
  onSignals (ScamSignals.appendEvidence (ScamSignals.reviewerEvent reviewer "REVIEW_QUEUE_ITEM"
    queueId "REVIEW_STARTED" "Reviewer claimed a review-queue item" Value.undefined trivial ip))
  return updated

/-- The decision completes the open item of the signal, or a completed one is created. Notes that
were not sent leave those of the item. -/
def completeItem (reviewer : AuthenticatedUser) (signalId : Uuid) (dto : ReviewSignalDto) :
    Program RegistryReviewQueue := do
  match ← read fun s => s.queue.rows.reverse.find? (isOpenItem signalId) with
  | some item =>
    updateItem item.id
      (fun item => { item with
        reviewStatus := .completed
        assignedToUserId := some reviewer.userId
        reviewNotes := dto.notes.or item.reviewNotes
        decision := some dto.decision.name
        publicSafe := dto.decision = .promoteToVerified }) fun _ => rfl
  | none =>
    createItem
      (fun id => {
        id
        signalId := some signalId
        registryEntryId := none
        reviewStatus := .completed
        publicSafe := dto.decision = .promoteToVerified
        assignedToUserId := some reviewer.userId
        reviewNotes := dto.notes
        decision := some dto.decision.name }) fun _ => rfl

structure ReviewResult where
  signal : ScamSignal
  reviewItem : RegistryReviewQueue

/-- Apply a reviewer decision to a signal and close out its queue item. -/
def reviewSignal (reviewer : AuthenticatedUser) (signalId : Uuid) (dto : ReviewSignalDto)
    (ip : Option Text) : Program ReviewResult := do
  match ← onSignals (ScamSignals.read fun s => Table.find ScamSignal.id signalId s.signals) with
  | none => throw (.notFound "Scam signal not found")
  | some signal =>
    let updated ← onSignals (ScamSignals.decideSignal signal dto)
    let reviewItem ← completeItem reviewer signalId dto
    onSignals do
      ScamSignals.appendEvidence (ScamSignals.reviewerEvent reviewer "SCAM_SIGNAL" signalId
        "REVIEW_COMPLETED"
        (utf16 "Reviewer decision " ++ dto.decision.name ++ utf16 " — signal status set to "
          ++ (ScamSignals.decisionStatus dto.decision).name)
        (ScamSignals.reviewMetadata dto) (ScamSignals.distinct_reviewMetadata dto) ip)
      ScamSignals.notifyPartner updated dto
    return { signal := updated, reviewItem }

/-! ## Entries of the registry -/

structure CreateRegistryCandidateDto where
  signalId : Uuid
  publicStatus : RegistryPublicStatus
  publicSafeSummary : Text
  recommendedAction : Option Text
  category : Option Text

/-- The row of a candidate: raw report data is never copied across. -/
def newEntry (dto : CreateRegistryCandidateDto) (signal : ScamSignal) (now : Date) (id : Uuid) :
    RegistryEntry where
  id := id
  indicatorType := signal.indicatorType
  indicatorValue := signal.indicatorValue
  normalizedIndicator := signal.normalizedIndicator
  category := (dto.category.or signal.category).getD "OTHER"
  status := .candidate
  publicStatus := some dto.publicStatus
  confidenceScore := signal.confidenceScore
  publicSafeSummary := dto.publicSafeSummary
  recommendedAction := dto.recommendedAction
  firstSeen := some signal.firstSeen
  lastSeen := some signal.lastSeen
  evidenceCount := signal.reportCount
  sourceSignalId := some signal.id
  publishedAt := none
  updatedAt := now

/-- `registryEntry.create`; it throws where the id is taken. -/
def createEntry (p : Registry.Platform) (dto : CreateRegistryCandidateDto) (signal : ScamSignal) :
    Program RegistryEntry :=
  Prog.attempt .createEntry .internal fun s =>
    let entry := newEntry dto signal (p.newDate s.registry.now) (s.uuid s.issued)
    if entry.id ∈ s.registry.entries.map RegistryEntry.id then none
    else some (entry, { s with
      registry := { s.registry with entries := s.registry.entries ++ [entry] }
      issued := s.issued + 1 })

/-- A reviewer turns a verified signal into a registry CANDIDATE. -/
def createCandidate (p : Registry.Platform) (reviewer : AuthenticatedUser)
    (dto : CreateRegistryCandidateDto) (ip : Option Text) : Program RegistryEntry := do
  match ← onSignals (ScamSignals.read fun s => Table.find ScamSignal.id dto.signalId s.signals) with
  | none => throw (.notFound "Scam signal not found")
  | some signal =>
    if signal.status ≠ .verifiedScamIntelligence then
      throw (.badRequest
        "Only a signal promoted to verified intelligence can become a registry candidate")
    else
      assertPublicSafeLanguage dto.publicSafeSummary "publicSafeSummary"
      match present dto.recommendedAction with
      | none => pure ()
      | some recommendedAction =>
        assertPublicSafeLanguage recommendedAction "recommendedAction"
      match ← read fun s => s.registry.entries.find? (·.sourceSignalId = some signal.id) with
      | some _ => throw (.conflict "A registry entry already exists for this signal")
      | none =>
        let entry ← createEntry p dto signal
        let _ ← createItem (pendingItem none (some entry.id)) fun _ => rfl
        onRegistry (logEvidence entry reviewer "REVIEWER" "REGISTRY_CANDIDATE_CREATED"
          "Registry candidate created from a verified signal" ip)
        return entry

/-- What is left of `createCandidate` when the texts were searched. -/
def createOnce (p : Registry.Platform) (reviewer : AuthenticatedUser)
    (dto : CreateRegistryCandidateDto) (signal : ScamSignal) (ip : Option Text) :
    Program RegistryEntry := do
  match ← read fun s => s.registry.entries.find? (·.sourceSignalId = some signal.id) with
  | some _ => throw (.conflict "A registry entry already exists for this signal")
  | none =>
    let entry ← createEntry p dto signal
    let _ ← createItem (pendingItem none (some entry.id)) fun _ => rfl
    onRegistry (logEvidence entry reviewer "REVIEWER" "REGISTRY_CANDIDATE_CREATED"
      "Registry candidate created from a verified signal" ip)
    return entry

/-- The items of the entry that are not completed are. -/
def completed (actor : AuthenticatedUser) (registryEntryId : Uuid) (decision : Text)
    (item : RegistryReviewQueue) : RegistryReviewQueue :=
  if item.registryEntryId = some registryEntryId ∧ item.reviewStatus ≠ .completed then
    { item with
      reviewStatus := .completed
      assignedToUserId := some actor.userId
      decision := some decision }
  else item

theorem id_completed (actor : AuthenticatedUser) (registryEntryId : Uuid) (decision : Text)
    (item : RegistryReviewQueue) :
    (completed actor registryEntryId decision item).id = item.id := by
  unfold completed
  split <;> rfl

def markQueueComplete (registryEntryId : Uuid) (actor : AuthenticatedUser) (decision : Text) :
    Program Unit :=
  Prog.act .updateMany .internal fun s =>
    ((), { s with
      queue := s.queue.map (completed actor registryEntryId decision)
        (id_completed actor registryEntryId decision) })

/-- Public-safe review approval. -/
def approve (p : Registry.Platform) (admin : AuthenticatedUser) (id : Uuid) (ip : Option Text) :
    Program RegistryEntry := do
  let updated ← onRegistry do
    let _ ← requireStatus id [.candidate, .underReview]
    updateEntry p id fun now entry => { entry with
      status := .approvedPublicSafe
      approvedByUserId := some admin.userId
      approvedAt := some now }
  markQueueComplete id admin "APPROVED"
  onRegistry (logEvidence updated admin "ADMIN" "REGISTRY_APPROVED"
    "Registry entry passed public-safe review" ip)
  return updated

def reject (p : Registry.Platform) (admin : AuthenticatedUser) (id : Uuid) (ip : Option Text) :
    Program RegistryEntry := do
  let updated ← onRegistry do
    let _ ← requireStatus id [.candidate, .underReview, .approvedPublicSafe]
    updateEntry p id fun _ entry => { entry with status := .rejected }
  markQueueComplete id admin "REJECTED"
  onRegistry (logEvidence updated admin "ADMIN" "REGISTRY_REJECTED" "Registry entry rejected" ip)
  return updated

end ReviewQueue
