import Vigiscam.EvidenceVault.Files

/-!
# Partner evidence exports (`evidence-export.service.ts`)

A partner exports the evidence of its tenant as a bundle: the events in a fixed shape, with
a checksum over the text of their array. The bundle is a row of the same table as those of
`processBundle`, and is served again from its JSON column.
-/

namespace PartnerIntelligence

open Js Value Concurrency EvidenceVault EvidenceVault.Files

structure CreateExportRequestDto where
  entityType : Option Text
  entityId : Option Text
  «from» : Option Text
  «to» : Option Text

/-- Cap one bundle at this many events. -/
def maxBundleEvents : Nat := 5000

/-- Thirty days, in milliseconds. -/
def defaultTtl : Int := 30 * 24 * 60 * 60 * 1000

/-! ## Rows and payload -/

section Export

-- `createdAt` is the time at which the row of an event was written, by the event's id.
variable (platform : Platform) (createdAt : Uuid → Date)

/-- One bound of a range of dates; `none` where the text is no date. -/
def dateBound (holds : Date → EvidenceEvent → Bool) (text : Option Text) :
    Option (EvidenceEvent → Bool) :=
  match present text with
  | none => some fun _ => true
  | some text => (platform.parseDate text).map holds

/-- The events that a request asks for; `none` where a date is none. -/
def CreateExportRequestDto.selects (dto : CreateExportRequestDto) :
    Option (EvidenceEvent → Bool) := do
  let after ← dateBound platform (fun d e => d ≤ e.occurredAt) dto.from
  let before ← dateBound platform (fun d e => e.occurredAt ≤ d) dto.«to»
  return fun e => (present dto.entityType).all (e.entityType = ·) &&
    (present dto.entityId).all (e.entityId = ·) && after e && before e

/-- `findMany` of the tenant's events that are asked for, by their sequence. -/
def exported (tenantId : Uuid) (selects : EvidenceEvent → Bool) (s : Files.Store) :
    List EvidenceEvent :=
  ((s.events.filter fun e => e.tenantId = some tenantId && selects e).insertionSort
    fun a b => a.sequence ≤ b.sequence).take maxBundleEvents

/-- The fields of an event in a bundle. -/
def projectFields (e : EvidenceEvent) : List (Text × Value) :=
  [("id", string e.id), ("sequence", number (.ofInt e.sequence)),
    ("actorId", ofNullable e.actorId), ("actorType", ofNullable e.actorType),
    ("entityType", string e.entityType), ("entityId", string e.entityId),
    ("eventType", string e.eventType), ("eventDescription", string e.eventDescription),
    ("metadata", Json.read e.metadata), ("ipAddress", ofNullable e.ipAddress),
    ("previousHash", ofNullable e.previousHash), ("eventHash", string e.eventHash),
    ("occurredAt", string e.occurredAt.toISOString),
    ("createdAt", string (createdAt e.id).toISOString)]

/-- Project an event into the stable shape used in the bundle. -/
def project (e : EvidenceEvent) : Value := object (projectFields createdAt e)

/-- A field of the request in an object; one that was not sent is left out. -/
def sent : Option Text → Value
  | none => undefined
  | some text => string text

def CreateExportRequestDto.value (dto : CreateExportRequestDto) : Value :=
  object [("entityType", sent dto.entityType), ("entityId", sent dto.entityId),
    ("from", sent dto.from), ("to", sent dto.«to»)]

/-- The checksum of a list of events: over the JSON of their array. -/
def eventsChecksum (events : Value) : Text :=
  utf16 "sha256:" ++ platform.sha256 (jsonStringify events)

def payload (tenantId : Uuid) (dto : CreateExportRequestDto) (events : List Value)
    (now : Date) (bundleId : Uuid) : Value :=
  object [("bundleId", string bundleId), ("tenantId", string tenantId),
    ("generatedAt", string now.toISOString), ("filters", dto.value),
    ("recordCount", number (.ofInt events.length)),
    ("checksum", string (eventsChecksum platform (array events))), ("events", array events)]

/-- The row of a partner's bundle. -/
def exportRow (partner : PartnerPrincipal) (dto : CreateExportRequestDto) (events : List Value)
    (now : Date) (id : Uuid) : EvidenceExportBundle where
  id := id
  tenantId := partner.tenantId
  requestedByKeyId := some partner.keyId
  filters := jsonb dto.value
  recordCount := events.length
  checksum := eventsChecksum platform (array events)
  bundle := jsonb (payload platform partner.tenantId dto events now id)
  status := .ready
  expiresAt := some (now.getTime + defaultTtl)

/-! ## The audit entry -/

def generatedMetadata (partner : PartnerPrincipal) (dto : CreateExportRequestDto)
    (recordCount : Nat) : Value :=
  object [("partnerKeyId", string partner.keyId), ("partnerKeyPrefix", string partner.keyPrefix),
    ("recordCount", number (.ofInt recordCount)),
    ("filterEntityType", ofNullable dto.entityType), ("filterEntityId", ofNullable dto.entityId),
    ("filterFrom", ofNullable dto.from), ("filterTo", ofNullable dto.«to»)]

theorem distinct_generatedMetadata (partner : PartnerPrincipal) (dto : CreateExportRequestDto)
    (recordCount : Nat) : Distinct (generatedMetadata partner dto recordCount) := by
  refine ⟨?_, trivial, trivial, trivial, distinct_ofNullable _, distinct_ofNullable _,
    distinct_ofNullable _, distinct_ofNullable _, trivial⟩
  show List.Nodup [utf16 "partnerKeyId", utf16 "partnerKeyPrefix", utf16 "recordCount",
    utf16 "filterEntityType", utf16 "filterEntityId", utf16 "filterFrom", utf16 "filterTo"]
  decide

/-- An export of evidence is itself recorded as evidence. -/
def generatedEvent (partner : PartnerPrincipal) (dto : CreateExportRequestDto)
    (bundle : EvidenceExportBundle) : AppendEvidenceInput where
  tenantId := some partner.tenantId
  actorId := none
  actorType := some "PARTNER"
  entityType := "EVIDENCE_EXPORT_BUNDLE"
  entityId := bundle.id
  eventType := "EVIDENCE_EXPORT_GENERATED"
  eventDescription := utf16 "Partner export bundle generated (" ++ decimal bundle.recordCount
    ++ utf16 " events, checksum " ++ bundle.checksum ++ utf16 ")"
  metadata := generatedMetadata partner dto bundle.recordCount
  ipAddress := none
  deviceId := none
  metadata_distinct := distinct_generatedMetadata ..

/-! ## `EvidenceExportService` -/

def generateBundle (partner : PartnerPrincipal) (dto : CreateExportRequestDto) :
    Program Value :=
  match dto.selects platform with
  | none => throw .internal
  | some selects => do
    let rows ← read (exported partner.tenantId selects)
    let events := rows.map (project createdAt)
    let now ← read (·.now)
    let bundle ← createBundle (exportRow platform partner dto events now)
    let _ ← appendEvidence platform (generatedEvent partner dto bundle)
    return payload platform partner.tenantId dto events now bundle.id

/-- `findFirst` of a bundle of the tenant. -/
def findBundle (tenantId id : Uuid) (s : Files.Store) : Option EvidenceExportBundle :=
  s.bundles.find? fun b => b.id = id && b.tenantId = tenantId

/-- Re-serve a frozen bundle. Tenant-scoped; expiry honoured. -/
def getBundle (tenantId id : Uuid) : Program Value := do
  let record ← read (findBundle tenantId id)
  match record with
  | none => throw (.notFound "Evidence export bundle not found")
  | some record =>
    let now ← read (·.now)
    if record.status = .expired || record.expiresAt.any (· < now.getTime) then
      throw (.notFound "Evidence export bundle has expired")
    else return record.bundle

end Export

end PartnerIntelligence
