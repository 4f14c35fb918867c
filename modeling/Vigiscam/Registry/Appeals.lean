import Vigiscam.Common.Columns
import Vigiscam.Concurrency.Issued
import Vigiscam.Concurrency.Part
import Vigiscam.Registry.Lifecycle

/-!
# Appeals (`registry-appeal.service.ts`)

Anyone who is affected by a published entry may contest it, without logging in. Staff review the
appeal and decide on it; a decision that accepts it may take the entry from the public registry,
by the same `unpublish` that administrators use.
-/

namespace RegistryAppeals

open Js Value Common Concurrency EvidenceVault Registry

/-! ## Rows -/

inductive RegistryAppealType where
  | correction | removal | ownershipDispute
deriving DecidableEq

def RegistryAppealType.name : RegistryAppealType → Text
  | .correction => "CORRECTION"
  | .removal => "REMOVAL"
  | .ownershipDispute => "OWNERSHIP_DISPUTE"

inductive RegistryAppealStatus where
  | submitted | underReview | accepted | rejected
deriving DecidableEq

def RegistryAppealStatus.name : RegistryAppealStatus → Text
  | .submitted => "SUBMITTED"
  | .underReview => "UNDER_REVIEW"
  | .accepted => "ACCEPTED"
  | .rejected => "REJECTED"

structure RegistryAppeal where
  id : Uuid
  registryEntryId : Uuid
  appealType : RegistryAppealType
  status : RegistryAppealStatus
  submitterName : Text
  submitterEmail : Text
  submitterRelationship : Option Text
  reason : Text
  requestedChange : Option Text
  reviewedByUserId : Option Uuid
  reviewedAt : Option Int
  reviewNotes : Option Text
  resolutionAction : Option Text

structure CreateRegistryAppealDto where
  appealType : RegistryAppealType
  submitterName : Text
  submitterEmail : Text
  submitterRelationship : Option Text
  reason : Text
  requestedChange : Option Text

inductive AppealDecision where
  | accepted | rejected
deriving DecidableEq

structure DecideRegistryAppealDto where
  decision : AppealDecision
  reviewNotes : Text
  resolutionAction : Given Text
  unpublishEntry : Option Bool

/-! ## State and steps -/

abbrev AppealTable := Table.Issued Uuid RegistryAppeal RegistryAppeal.id

/-- The registry with its evidence, and the appeals. -/
structure Store where
  registry : Registry.Store
  appeals : AppealTable

inductive AppealStep where
  | read | create | update | append
  | registry (step : RegistryStep)

abbrev Program := Prog Store AppealStep HttpError

def registryPart : Part Store Registry.Store where
  get s := s.registry
  set registry s := { s with registry }
  set_get _ := rfl
  get_set _ _ := rfl

/-- A method of the registry. -/
def onRegistry {α : Type} (q : Registry.Program α) : Program α :=
  q.onPart registryPart .registry

def read {α : Type} (f : Store → α) : Program α := Prog.act .read .internal fun s => (f s, s)

def appendEvidence (input : AppendEvidenceInput) : Program Unit :=
  Prog.act .append .internal fun s =>
    ((), { s with registry := { s.registry with evidence := s.registry.evidence ++ [input] } })

/-! ## Filing -/

def APPEAL_ACK : Text :=
  utf16 "Appeal received. A VIGISCAM compliance reviewer will assess it. " ++
    utf16 "The registry entry is unchanged until a decision is made."

structure FileAppealResult where
  status : Text
  message : Text
  appealId : Uuid

/-- Only a published entry is publicly visible, and thus appealable. -/
def findPublished (entryId : Uuid) (entries : List RegistryEntry) : Option RegistryEntry :=
  (Table.find RegistryEntry.id entryId entries).filter (·.status = .published)

def newAppeal (entry : RegistryEntry) (dto : CreateRegistryAppealDto) (id : Uuid) :
    RegistryAppeal where
  id := id
  registryEntryId := entry.id
  appealType := dto.appealType
  status := .submitted
  submitterName := dto.submitterName
  submitterEmail := dto.submitterEmail
  submitterRelationship := dto.submitterRelationship
  reason := dto.reason
  requestedChange := dto.requestedChange
  reviewedByUserId := none
  reviewedAt := none
  reviewNotes := none
  resolutionAction := none

def insertAppeal (entry : RegistryEntry) (dto : CreateRegistryAppealDto) : Program RegistryAppeal :=
  Prog.act .create .internal fun s =>
    (newAppeal entry dto s.appeals.next, { s with
      appeals := s.appeals.add (newAppeal entry dto s.appeals.next) rfl })

def filedMetadata (entry : RegistryEntry) (dto : CreateRegistryAppealDto) : Value :=
  object [("registryEntryId", string entry.id), ("appealType", string dto.appealType.name)]

theorem distinct_filedMetadata (entry : RegistryEntry) (dto : CreateRegistryAppealDto) :
    Distinct (filedMetadata entry dto) := by
  refine ⟨?_, trivial, trivial, trivial⟩
  show List.Nodup [utf16 "registryEntryId", utf16 "appealType"]
  decide

def filedEvent (entry : RegistryEntry) (appeal : RegistryAppeal) (dto : CreateRegistryAppealDto)
    (ip : Option Text) : AppendEvidenceInput where
  tenantId := none
  actorId := none
  actorType := some "PUBLIC"
  entityType := "REGISTRY_APPEAL"
  entityId := appeal.id
  eventType := "REGISTRY_APPEAL_FILED"
  eventDescription := utf16 "Appeal (" ++ dto.appealType.name ++
    utf16 ") filed against a published registry entry"
  metadata := filedMetadata entry dto
  ipAddress := ip
  deviceId := none
  metadata_distinct := distinct_filedMetadata entry dto

def fileAppeal (entryId : Uuid) (dto : CreateRegistryAppealDto) (ip : Option Text) :
    Program FileAppealResult := do
  match ← read fun s => findPublished entryId s.registry.entries with
  | none => throw (.notFound "Registry entry not found")
  | some entry =>
    let appeal ← insertAppeal entry dto
    appendEvidence (filedEvent entry appeal dto ip)
    -- the public response never echoes back internal appeal state
    return ⟨"APPEAL_RECEIVED", APPEAL_ACK, appeal.id⟩

/-! ## Reviews and decisions -/

/-- `allowed.join(' or ')`. -/
def joinOr : List RegistryAppealStatus → Text
  | [] => []
  | [status] => status.name
  | status :: rest => status.name ++ utf16 " or " ++ joinOr rest

/-- What is made of an appeal that has been looked up. -/
def checkStatus (allowed : List RegistryAppealStatus) :
    Option RegistryAppeal → Program RegistryAppeal
  | none => throw (.notFound "Registry appeal not found")
  | some appeal =>
    if appeal.status ∈ allowed then return appeal
    else throw (.badRequest (utf16 "Appeal status is " ++ appeal.status.name
      ++ utf16 "; this action requires " ++ joinOr allowed))

def requireStatus (id : Uuid) (allowed : List RegistryAppealStatus) : Program RegistryAppeal := do
  let appeal ← read fun s => Table.find RegistryAppeal.id id s.appeals.rows
  checkStatus allowed appeal

/-- `registryAppeal.update` of one row; it throws when there is no such row. -/
def updateAppeal (id : Uuid) (f : Int → RegistryAppeal → RegistryAppeal)
    (hf : ∀ now row, (f now row).id = row.id) : Program RegistryAppeal :=
  Prog.attempt .update .internal fun s =>
    (Table.find RegistryAppeal.id id s.appeals.rows).map fun row =>
      (f s.registry.now row, { s with
        appeals := s.appeals.modify id (f s.registry.now) (hf s.registry.now) })

def appealMetadata (appeal : RegistryAppeal) : Value :=
  object [("status", string appeal.status.name), ("appealType", string appeal.appealType.name),
    ("registryEntryId", string appeal.registryEntryId)]

theorem distinct_appealMetadata (appeal : RegistryAppeal) :
    Distinct (appealMetadata appeal) := by
  refine ⟨?_, trivial, trivial, trivial, trivial⟩
  show List.Nodup [utf16 "status", utf16 "appealType", utf16 "registryEntryId"]
  decide

def appealEvent (appeal : RegistryAppeal) (actor : AuthenticatedUser)
    (actorType eventType description : Text) (ip : Option Text) : AppendEvidenceInput where
  tenantId := none
  actorId := some actor.userId
  actorType := some actorType
  entityType := "REGISTRY_APPEAL"
  entityId := appeal.id
  eventType := eventType
  eventDescription := description
  metadata := appealMetadata appeal
  ipAddress := ip
  deviceId := none
  metadata_distinct := distinct_appealMetadata appeal

def RegistryAppeal.reviewed (reviewer : AuthenticatedUser) (appeal : RegistryAppeal) :
    RegistryAppeal :=
  { appeal with status := .underReview, reviewedByUserId := some reviewer.userId }

theorem RegistryAppeal.id_reviewed (reviewer : AuthenticatedUser) (appeal : RegistryAppeal) :
    (appeal.reviewed reviewer).id = appeal.id := rfl

/-- Claim an appeal for review. -/
def startReview (reviewer : AuthenticatedUser) (id : Uuid) (ip : Option Text) :
    Program RegistryAppeal := do
  let appeal ← requireStatus id [.submitted]
  let updated ← updateAppeal appeal.id (fun _ => RegistryAppeal.reviewed reviewer)
    fun _ => RegistryAppeal.id_reviewed reviewer
  appendEvidence (appealEvent updated reviewer "REVIEWER" "REGISTRY_APPEAL_UNDER_REVIEW"
    "Registry appeal taken under review" ip)
  return updated

def AppealDecision.status : AppealDecision → RegistryAppealStatus
  | .accepted => .accepted
  | .rejected => .rejected

def RegistryAppeal.decided (admin : AuthenticatedUser) (dto : DecideRegistryAppealDto) (now : Int)
    (appeal : RegistryAppeal) : RegistryAppeal :=
  { appeal with
    status := dto.decision.status
    reviewedByUserId := some admin.userId
    reviewedAt := some now
    reviewNotes := some dto.reviewNotes
    resolutionAction := dto.resolutionAction.nullable appeal.resolutionAction }

theorem RegistryAppeal.id_decided (admin : AuthenticatedUser) (dto : DecideRegistryAppealDto)
    (now : Int) (appeal : RegistryAppeal) : (appeal.decided admin dto now).id = appeal.id := rfl

/-- `accepted && dto.unpublishEntry`. -/
def DecideRegistryAppealDto.Unpublishes (dto : DecideRegistryAppealDto) : Prop :=
  dto.decision = .accepted ∧ dto.unpublishEntry = some true

instance (dto : DecideRegistryAppealDto) : Decidable dto.Unpublishes :=
  inferInstanceAs (Decidable (_ ∧ _))

/-- The entry that has been looked up is unpublished, where it is published. -/
def unpublishFound (p : Registry.Platform) (admin : AuthenticatedUser) (ip : Option Text) :
    Option RegistryEntry → Program Unit
  | none => return ()
  | some entry =>
    if entry.status = .published then do
      let _ ← onRegistry (Registry.unpublish p admin entry.id ip)
    else return ()

/-- An accepted appeal may also pull the entry from the public registry. -/
def unpublishEntry (p : Registry.Platform) (admin : AuthenticatedUser) (appeal : RegistryAppeal)
    (ip : Option Text) : Program Unit := do
  let entry ← read fun s => Table.find RegistryEntry.id appeal.registryEntryId s.registry.entries
  unpublishFound p admin ip entry

def AppealDecision.eventType : AppealDecision → Text
  | .accepted => "REGISTRY_APPEAL_ACCEPTED"
  | .rejected => "REGISTRY_APPEAL_REJECTED"

def AppealDecision.description : AppealDecision → Text
  | .accepted => "Registry appeal accepted by compliance review"
  | .rejected => "Registry appeal rejected by compliance review"

/-- Record the terminal decision on an appeal. -/
def decideAppeal (p : Registry.Platform) (admin : AuthenticatedUser) (id : Uuid)
    (dto : DecideRegistryAppealDto) (ip : Option Text) : Program RegistryAppeal := do
  let appeal ← requireStatus id [.submitted, .underReview]
  if dto.Unpublishes then unpublishEntry p admin appeal ip
  let updated ← updateAppeal appeal.id (RegistryAppeal.decided admin dto)
    (RegistryAppeal.id_decided admin dto)
  appendEvidence (appealEvent updated admin "COMPLIANCE_OFFICER" dto.decision.eventType
    dto.decision.description ip)
  return updated

/-! ## Calls -/

/-- What a process does: it files, reviews or decides, or it is a call on an entry. -/
inductive Call where
  | file (entryId : Uuid) (dto : CreateRegistryAppealDto) (ip : Option Text)
  | startReview (reviewer : AuthenticatedUser) (id : Uuid) (ip : Option Text)
  | decide (admin : AuthenticatedUser) (id : Uuid) (dto : DecideRegistryAppealDto)
      (ip : Option Text)
  | lifecycle (entryId : Uuid) (call : LifecycleCall)

def Call.program (p : Registry.Platform) : Call → Program Unit
  | file entryId dto ip => do let _ ← fileAppeal entryId dto ip
  | startReview reviewer id ip => do let _ ← RegistryAppeals.startReview reviewer id ip
  | decide admin id dto ip => do let _ ← decideAppeal p admin id dto ip
  | lifecycle entryId call => onRegistry (call.program p entryId)

/-- The calls at their start. -/
def calling {ι : Type} (p : Registry.Platform) (calls : ι → Call) (s : Store) :
    Pool ι Store (Program Unit) where
  shared := s
  locals i := (calls i).program p

end RegistryAppeals
