import Vigiscam.Registry.Search

/-!
# Publishing (`registry.service.ts`)

A method checks the status of the entry, and then updates its row by its id. `approve` and
`reject` complete the review of the entry and append the evidence. `publish` and `unpublish`
append the evidence and then delete every cached search; telling the partner and drafting
takedowns come after that, and are best-effort.
-/

namespace Registry

open Js Value Concurrency EvidenceVault
open ScamSignals (indicatorName)

/-! ## Texts -/

def RegistryEntryStatus.name : RegistryEntryStatus → Text
  | candidate => "CANDIDATE"
  | underReview => "UNDER_REVIEW"
  | approvedPublicSafe => "APPROVED_PUBLIC_SAFE"
  | published => "PUBLISHED"
  | rejected => "REJECTED"
  | archived => "ARCHIVED"

/-- `allowed.join(' or ')`. -/
def joinOr : List RegistryEntryStatus → Text
  | [] => []
  | [status] => status.name
  | status :: rest => status.name ++ utf16 " or " ++ joinOr rest

/-! ## Steps -/

def read {α : Type} (f : Store → α) : Program α := Prog.act .read .internal fun s => (f s, s)

def requireStatus (id : Uuid) (allowed : List RegistryEntryStatus) : Program RegistryEntry := do
  match ← read fun s => Table.find RegistryEntry.id id s.entries with
  | none => throw (.notFound "Registry entry not found")
  | some entry =>
    if entry.status ∈ allowed then return entry
    else throw (.badRequest (utf16 "Registry entry status is " ++ entry.status.name
      ++ utf16 "; this action requires " ++ joinOr allowed))

/-- The check returns the entry of the id, or throws; it writes nothing. -/
theorem run_requireStatus (id : Uuid) (allowed : List RegistryEntryStatus) (s : Store) :
    (∃ e, (requireStatus id allowed).run s = (.error e, s)) ∨
      ∃ entry, (requireStatus id allowed).run s = (.ok entry, s) ∧
        Table.find RegistryEntry.id id s.entries = some entry ∧ entry.status ∈ allowed := by
  rw [requireStatus, read, Prog.run_bind, Prog.run_act, Prog.andThen_ok]
  cases hfind : Table.find RegistryEntry.id id s.entries with
  | none => exact Or.inl ⟨_, rfl⟩
  | some entry =>
    by_cases hstatus : entry.status ∈ allowed
    · simp only [if_pos hstatus]
      exact Or.inr ⟨entry, rfl, rfl, hstatus⟩
    · simp only [if_neg hstatus]
      exact Or.inl ⟨_, rfl⟩

/-- `registryEntry.update` of one row; it throws when there is no such row. -/
def updateEntry (p : Platform) (id : Uuid) (f : Date → RegistryEntry → RegistryEntry) :
    Program RegistryEntry :=
  Prog.attempt .update .internal fun s =>
    let change := fun entry => { f (p.newDate s.now) entry with updatedAt := p.newDate s.now }
    (Table.find RegistryEntry.id id s.entries).map fun entry =>
      (change entry, { s with entries := Table.modify RegistryEntry.id id change s.entries })

/-- What an evidence entry records of an entry. -/
def entryMetadata (entry : RegistryEntry) : Value :=
  object [("status", string entry.status.name),
    ("indicatorType", string (indicatorName entry.indicatorType))]

theorem distinct_entryMetadata (entry : RegistryEntry) : Distinct (entryMetadata entry) := by
  refine ⟨?_, trivial, trivial, trivial⟩
  show List.Nodup [utf16 "status", utf16 "indicatorType"]
  decide

/-- `evidence.append`, by its input. -/
def logEvidence (entry : RegistryEntry) (actor : AuthenticatedUser) (actorType eventType : Text)
    (description : Text) (ip : Option Text) : Program Unit :=
  Prog.act .append .internal fun s =>
    ((), { s with evidence := s.evidence ++ [{
      tenantId := none
      actorId := some actor.userId
      actorType := some actorType
      entityType := "REGISTRY_ENTRY"
      entityId := entry.id
      eventType := eventType
      eventDescription := description
      metadata := entryMetadata entry
      ipAddress := ip
      deviceId := none
      metadata_distinct := distinct_entryMetadata entry }] })

/-- Every cached search response is deleted; it returns how many there were. -/
def invalidateSearchCache : Program Nat :=
  Prog.act .invalidate .internal fun s =>
    ((s.cache.deletePrefix SEARCH_CACHE_PREFIX).1,
      { s with cache := (s.cache.deletePrefix SEARCH_CACHE_PREFIX).2 })

def noticeOf (entry : RegistryEntry) (eventType : Text) (tenantId : Uuid) : RegistryNotice where
  eventType := eventType
  tenantId := tenantId
  registryEntryId := entry.id
  indicatorType := entry.indicatorType
  indicatorValue := entry.indicatorValue
  publicStatus := entry.publicStatus
  publishedAt := entry.publishedAt

/-- The partner whose signal seeded the entry is told. A webhook failure must never break the
publish or unpublish action. -/
def notifyPartner (entry : RegistryEntry) (eventType : Text) : Program Unit :=
  match entry.sourceSignalId with
  | none => pure ()
  | some signalId =>
    tryCatch
      (do
        match ← read fun s => s.tenantOf signalId with
        | none => return ()
        | some tenantId =>
          Prog.act .notify .internal fun s =>
            ((), { s with notices := s.notices ++ [noticeOf entry eventType tenantId] }))
      fun _ => pure ()

/-- `takedownAutomation.tryAutomate`, by its argument. Best-effort — never breaks publish. -/
def tryAutomate (entry : RegistryEntry) : Program Unit :=
  tryCatch
    (Prog.act .automate .internal fun s => ((), { s with automated := s.automated ++ [entry] }))
    fun _ => pure ()

/-- The open review of the entry is completed. -/
def markQueueComplete (registryEntryId : Uuid) (actor : AuthenticatedUser) (decision : Text) :
    Program Unit :=
  Prog.act .queue .internal fun s =>
    ((), { s with queue := s.queue.map fun item =>
      if item.registryEntryId = some registryEntryId ∧ item.completed = false then
        { item with
          completed := true
          assignedToUserId := some actor.userId
          decision := some decision }
      else item })

/-! ## `approve`, `publish`, `unpublish` and `reject` -/

section Publish

variable (p : Platform)

/-- Public-safe review approval. -/
def approve (admin : AuthenticatedUser) (id : Uuid) (ip : Option Text) :
    Program RegistryEntry := do
  let _ ← requireStatus id [.candidate, .underReview]
  let updated ← updateEntry p id fun now entry => { entry with
    status := .approvedPublicSafe
    approvedByUserId := some admin.userId
    approvedAt := some now }
  markQueueComplete id admin "APPROVED"
  logEvidence updated admin "ADMIN" "REGISTRY_APPROVED"
    "Registry entry passed public-safe review" ip
  return updated

/-- Publish an approved entry — it becomes publicly searchable. -/
def publish (admin : AuthenticatedUser) (id : Uuid) (ip : Option Text) :
    Program RegistryEntry := do
  let _ ← requireStatus id [.approvedPublicSafe]
  let updated ← updateEntry p id fun now entry =>
    { entry with status := .published, publishedAt := some now }
  logEvidence updated admin "ADMIN" "REGISTRY_PUBLISHED"
    "Registry entry published to the public registry" ip
  let _ ← invalidateSearchCache
  notifyPartner updated "REGISTRY_PUBLISHED"
  tryAutomate updated
  return updated

/-- Remove a published entry from the public registry. -/
def unpublish (admin : AuthenticatedUser) (id : Uuid) (ip : Option Text) :
    Program RegistryEntry := do
  let _ ← requireStatus id [.published]
  let updated ← updateEntry p id fun _ entry =>
    { entry with status := .approvedPublicSafe, publishedAt := none }
  logEvidence updated admin "ADMIN" "REGISTRY_UNPUBLISHED"
    "Registry entry removed from the public registry" ip
  let _ ← invalidateSearchCache
  notifyPartner updated "REGISTRY_UNPUBLISHED"
  return updated

def reject (admin : AuthenticatedUser) (id : Uuid) (ip : Option Text) :
    Program RegistryEntry := do
  let _ ← requireStatus id [.candidate, .underReview, .approvedPublicSafe]
  let updated ← updateEntry p id fun _ entry => { entry with status := .rejected }
  markQueueComplete id admin "REJECTED"
  logEvidence updated admin "ADMIN" "REGISTRY_REJECTED" "Registry entry rejected" ip
  return updated

end Publish

end Registry
