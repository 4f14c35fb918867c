import Vigiscam.EvidenceVault.Hash

/-!
# Evidence events and their hash (`evidence.hash.ts`, `EvidenceEvent`)

The hash of an event is taken over the canonical form of a thirteen-field object.
`canonical_eq_iff` says what the canonical form determines: every field, the
metadata up to `Same`.

SHA-256 is a parameter throughout, from the canonical text to the hex digest.
-/

namespace EvidenceVault

open Js Value

/-- The content of one evidence event, in the exact shape that gets hashed. -/
structure HashableEvent where
  sequence : Int
  tenantId : Option Text
  actorId : Option Text
  actorType : Option Text
  entityType : Text
  entityId : Text
  eventType : Text
  eventDescription : Text
  metadata : Value
  ipAddress : Option Text
  deviceId : Option Text
  occurredAt : Date
  previousHash : Option Text

namespace HashableEvent

/-- The object literal that `computeEventHash` serializes. -/
def fields (e : HashableEvent) : List (Text × Value) :=
  [("sequence", number (.ofInt e.sequence)),
   ("tenantId", ofNullable e.tenantId),
   ("actorId", ofNullable e.actorId),
   ("actorType", ofNullable e.actorType),
   ("entityType", string e.entityType),
   ("entityId", string e.entityId),
   ("eventType", string e.eventType),
   ("eventDescription", string e.eventDescription),
   ("metadata", orNull e.metadata),
   ("ipAddress", ofNullable e.ipAddress),
   ("deviceId", ofNullable e.deviceId),
   ("occurredAt", string e.occurredAt.toISOString),
   ("previousHash", ofNullable e.previousHash)]

/-- The text that is hashed. -/
def canonical (e : HashableEvent) : Text := stableStringify (object e.fields)

/-- Two events with the same hashed content. -/
structure Agree (e f : HashableEvent) : Prop where
  sequence : e.sequence = f.sequence
  tenantId : e.tenantId = f.tenantId
  actorId : e.actorId = f.actorId
  actorType : e.actorType = f.actorType
  entityType : e.entityType = f.entityType
  entityId : e.entityId = f.entityId
  eventType : e.eventType = f.eventType
  eventDescription : e.eventDescription = f.eventDescription
  metadata : Same e.metadata f.metadata
  ipAddress : e.ipAddress = f.ipAddress
  deviceId : e.deviceId = f.deviceId
  occurredAt : e.occurredAt = f.occurredAt
  previousHash : e.previousHash = f.previousHash

theorem nodup_fields (e : HashableEvent) : (e.fields.map Prod.fst).Nodup := by
  show List.Nodup [utf16 "sequence", "tenantId", "actorId", "actorType", "entityType",
    "entityId", "eventType", "eventDescription", "metadata", "ipAddress", "deviceId",
    "occurredAt", "previousHash"]
  decide

theorem distinct_fields {e : HashableEvent} (h : Distinct e.metadata) :
    Distinct (object e.fields) :=
  ⟨e.nodup_fields, trivial, distinct_ofNullable _, distinct_ofNullable _,
    distinct_ofNullable _, trivial, trivial, trivial, trivial, distinct_orNull h,
    distinct_ofNullable _, distinct_ofNullable _, trivial, distinct_ofNullable _, trivial⟩

/-- **The canonical form determines the content of an event.** -/
theorem canonical_inj {e f : HashableEvent} (h : e.canonical = f.canonical) : Agree e f := by
  have hfields := Same.fields_of_keys_eq (stableStringify_inj h) rfl f.nodup_fields
  obtain - | ⟨hsequence, - | ⟨htenant, - | ⟨hactor, - | ⟨hactorType, - | ⟨hentityType, - |
    ⟨hentity, - | ⟨heventType, - | ⟨hdescription, - | ⟨hmetadata, - | ⟨hip, - | ⟨hdevice, - |
    ⟨hoccurred, - | ⟨hprevious, -⟩⟩⟩⟩⟩⟩⟩⟩⟩⟩⟩⟩⟩ := hfields
  exact {
    sequence := Number.ofInt_inj hsequence.number_eq
    tenantId := htenant.ofNullable_eq
    actorId := hactor.ofNullable_eq
    actorType := hactorType.ofNullable_eq
    entityType := hentityType.string_eq
    entityId := hentity.string_eq
    eventType := heventType.string_eq
    eventDescription := hdescription.string_eq
    metadata := Same.iff_orNull.mp (Same.orNull_iff.mp hmetadata)
    ipAddress := hip.ofNullable_eq
    deviceId := hdevice.ofNullable_eq
    occurredAt := Date.toISOString_inj hoccurred.string_eq
    previousHash := hprevious.ofNullable_eq }

theorem canonical_agree {e f : HashableEvent} (h : Agree e f) (he : Distinct e.metadata)
    (hf : Distinct f.metadata) : e.canonical = f.canonical := by
  have hmetadata : Same (orNull e.metadata) (orNull f.metadata) :=
    Same.orNull_iff.mpr (Same.iff_orNull.mpr h.metadata)
  refine stableStringify_same (.object (List.Perm.refl _) ?_ (List.Perm.refl _))
    (distinct_fields he) (distinct_fields hf)
  unfold fields
  rw [h.sequence, h.tenantId, h.actorId, h.actorType, h.entityType, h.entityId, h.eventType,
    h.eventDescription, h.ipAddress, h.deviceId, h.occurredAt, h.previousHash]
  exact .cons (.refl _) (.cons (.refl _) (.cons (.refl _) (.cons (.refl _) (.cons (.refl _)
    (.cons (.refl _) (.cons (.refl _) (.cons (.refl _) (.cons hmetadata (SameFields.refl _)))))))))

theorem canonical_eq_iff {e f : HashableEvent} (he : Distinct e.metadata)
    (hf : Distinct f.metadata) : e.canonical = f.canonical ↔ Agree e f :=
  ⟨canonical_inj, fun h => canonical_agree h he hf⟩

end HashableEvent

/-- SHA-256 over the canonical event content plus the previous chain link. -/
def computeEventHash (sha256 : Text → Text) (event : HashableEvent) : Text :=
  sha256 event.canonical

/-- A row of `evidence_events`, as the store returns it. -/
structure EvidenceEvent where
  id : Text
  tenantId : Option Text
  sequence : Int
  actorId : Option Text
  actorType : Option Text
  entityType : Text
  entityId : Text
  eventType : Text
  eventDescription : Text
  metadata : Option Json
  ipAddress : Option Text
  deviceId : Option Text
  previousHash : Option Text
  eventHash : Text
  occurredAt : Date

namespace EvidenceEvent

/-- The content of a row, as `verifyChain` hashes it. -/
def hashable (e : EvidenceEvent) : HashableEvent where
  sequence := e.sequence
  tenantId := e.tenantId
  actorId := e.actorId
  actorType := e.actorType
  entityType := e.entityType
  entityId := e.entityId
  eventType := e.eventType
  eventDescription := e.eventDescription
  metadata := Json.read e.metadata
  ipAddress := e.ipAddress
  deviceId := e.deviceId
  occurredAt := e.occurredAt
  previousHash := e.previousHash

theorem distinct_hashable (e : EvidenceEvent) : Distinct e.hashable.metadata :=
  Json.distinct_read e.metadata

end EvidenceEvent

end EvidenceVault
