import Vigiscam.Common.Columns
import Vigiscam.Concurrency.Contract
import Vigiscam.Concurrency.Issued
import Vigiscam.EvidenceVault.Service
import Vigiscam.Identity.Auth
import Vigiscam.Js.Property
import Vigiscam.Lists.Ranking
import Vigiscam.Takedown.Templates

/-!
# Takedown requests (`takedown.service.ts`, `takedown-automation.service.ts`)

A request to a provider is drafted by staff, or by the automation when an entry is published; it
is submitted, and moved on, by staff alone. The rows of other services, the registry entries and
what is known of their indicators, change under the hands of both.
-/

namespace Takedown

open Js Value Common Concurrency EvidenceVault Registry
open Identity (RequestContext)

/-! ## Rows -/

inductive TakedownStatus where
  | draft | submitted | acknowledged | inProgress | completed | rejected | withdrawn
deriving DecidableEq

def TakedownStatus.name : TakedownStatus → Text
  | .draft => "DRAFT"
  | .submitted => "SUBMITTED"
  | .acknowledged => "ACKNOWLEDGED"
  | .inProgress => "IN_PROGRESS"
  | .completed => "COMPLETED"
  | .rejected => "REJECTED"
  | .withdrawn => "WITHDRAWN"

inductive TakedownProviderType where
  | domainRegistrar | hostingProvider | telecomCarrier | emailProvider | socialPlatform
  | paymentProvider | appStore | lawEnforcement | other
deriving DecidableEq

def TakedownProviderType.name : TakedownProviderType → Text
  | .domainRegistrar => "DOMAIN_REGISTRAR"
  | .hostingProvider => "HOSTING_PROVIDER"
  | .telecomCarrier => "TELECOM_CARRIER"
  | .emailProvider => "EMAIL_PROVIDER"
  | .socialPlatform => "SOCIAL_PLATFORM"
  | .paymentProvider => "PAYMENT_PROVIDER"
  | .appStore => "APP_STORE"
  | .lawEnforcement => "LAW_ENFORCEMENT"
  | .other => "OTHER"

structure TakedownRequest where
  id : Uuid
  registryEntryId : Uuid
  providerType : TakedownProviderType
  providerName : Text
  providerReference : Option Text
  status : TakedownStatus
  details : Text
  submittedByUserId : Option Uuid
  submittedAt : Option Int
  resolvedByUserId : Option Uuid
  resolvedAt : Option Int
  outcomeNotes : Option Text
deriving DecidableEq

structure TakedownProviderTemplate where
  id : Uuid
  providerType : TakedownProviderType
  providerName : Text
  detectorPattern : Text
  detailsTemplate : Text
  enabled : Bool
  priority : Int
deriving DecidableEq

/-- What is known of an indicator, by one provider. -/
structure OsintEnrichment where
  indicatorType : IndicatorType
  normalizedIndicator : Text
  data : Value

/-- Legal status transitions for a takedown request. -/
def TRANSITIONS : TakedownStatus → List TakedownStatus
  | .draft => [.submitted, .withdrawn]
  | .submitted => [.acknowledged, .inProgress, .completed, .rejected, .withdrawn]
  | .acknowledged => [.inProgress, .completed, .rejected, .withdrawn]
  | .inProgress => [.completed, .rejected, .withdrawn]
  | .completed => []
  | .rejected => []
  | .withdrawn => []

def TERMINAL : List TakedownStatus := [.completed, .rejected, .withdrawn]

/-! ## State and steps -/

abbrev TakedownTable := Table.Issued Uuid TakedownRequest TakedownRequest.id

abbrev TemplateTable := Table.Issued Uuid TakedownProviderTemplate TakedownProviderTemplate.id

/-- The database. -/
structure Store where
  takedowns : TakedownTable
  templates : TemplateTable
  /-- The rows of the registry. -/
  entries : List RegistryEntry
  /-- The enrichments, in the order of their creation. -/
  enrichments : List OsintEnrichment
  evidence : List AppendEvidenceInput
  /-- `new Date()`. -/
  now : Int

inductive TakedownStep where
  | read | create | append | world
  /-- The status of a request is written, which was found in another one. -/
  | update (id : Uuid) (found : TakedownStatus)

abbrev Program := Prog Store TakedownStep HttpError

def read {α : Type} (f : Store → α) : Program α := Prog.act .read .internal fun s => (f s, s)

def appendEvidence (input : AppendEvidenceInput) : Program Unit :=
  Prog.act .append .internal fun s => ((), { s with evidence := s.evidence ++ [input] })

/-! ## Staff -/

structure CreateTakedownDto where
  registryEntryId : Uuid
  providerType : TakedownProviderType
  providerName : Text
  providerReference : Option Text
  details : Text

structure UpdateTakedownStatusDto where
  status : TakedownStatus
  providerReference : Given Text
  notes : Given Text

def evidenceMetadata (takedown : TakedownRequest) : Value :=
  object [("status", string takedown.status.name),
    ("providerType", string takedown.providerType.name),
    ("registryEntryId", string takedown.registryEntryId)]

theorem distinct_evidenceMetadata (takedown : TakedownRequest) :
    Distinct (evidenceMetadata takedown) := by
  refine ⟨?_, trivial, trivial, trivial, trivial⟩
  show List.Nodup [utf16 "status", utf16 "providerType", utf16 "registryEntryId"]
  decide

def takedownEvent (takedown : TakedownRequest) (actor : AuthenticatedUser)
    (eventType description : Text) (ctx : RequestContext) : AppendEvidenceInput where
  tenantId := none
  actorId := some actor.userId
  actorType := some "ADMIN"
  entityType := "TAKEDOWN_REQUEST"
  entityId := takedown.id
  eventType := eventType
  eventDescription := description
  metadata := evidenceMetadata takedown
  ipAddress := ctx.ip
  deviceId := none
  metadata_distinct := distinct_evidenceMetadata takedown

def logEvidence (takedown : TakedownRequest) (actor : AuthenticatedUser)
    (eventType description : Text) (ctx : RequestContext) : Program Unit :=
  appendEvidence (takedownEvent takedown actor eventType description ctx)

/-- The columns of a request that is drafted. -/
def drafted (registryEntryId : Uuid) (providerType : TakedownProviderType)
    (providerName : Text) (providerReference : Option Text) (details : Text) (id : Uuid) :
    TakedownRequest where
  id := id
  registryEntryId := registryEntryId
  providerType := providerType
  providerName := providerName
  providerReference := providerReference
  status := .draft
  details := details
  submittedByUserId := none
  submittedAt := none
  resolvedByUserId := none
  resolvedAt := none
  outcomeNotes := none

/-- `takedownRequest.create`. -/
def insertTakedown (registryEntryId : Uuid) (providerType : TakedownProviderType)
    (providerName : Text) (providerReference : Option Text) (details : Text) :
    Program TakedownRequest :=
  Prog.act .create .internal fun s =>
    let takedown := drafted registryEntryId providerType providerName providerReference details
      s.takedowns.next
    (takedown, { s with takedowns := s.takedowns.add takedown rfl })

/-- Open a takedown request (DRAFT) against a registry entry. -/
def createTakedown (actor : AuthenticatedUser) (dto : CreateTakedownDto) (ctx : RequestContext) :
    Program TakedownRequest := do
  match ← read fun s => Table.find RegistryEntry.id dto.registryEntryId s.entries with
  | none => throw (.notFound "Registry entry not found")
  | some entry =>
    if entry.status = .rejected then
      throw (.badRequest "Cannot open a takedown for a rejected registry entry")
    let takedown ← insertTakedown entry.id dto.providerType dto.providerName
      dto.providerReference dto.details
    logEvidence takedown actor "TAKEDOWN_CREATED"
      (utf16 "Takedown request drafted against " ++ dto.providerName ++ utf16 " (" ++
        dto.providerType.name ++ utf16 ")") ctx
    return takedown

def getTakedown (id : Uuid) : Program TakedownRequest := do
  match ← read fun s => Table.find TakedownRequest.id id s.takedowns.rows with
  | none => throw (.notFound "Takedown request not found")
  | some takedown => return takedown

/-- The columns that `updateStatus` writes. -/
def TakedownRequest.moved (actor : AuthenticatedUser) (dto : UpdateTakedownStatusDto) (now : Int)
    (takedown : TakedownRequest) : TakedownRequest :=
  { takedown with
    status := dto.status
    providerReference := dto.providerReference.nullable takedown.providerReference
    outcomeNotes := dto.notes.nullable takedown.outcomeNotes
    submittedByUserId :=
      if dto.status = .submitted then some actor.userId else takedown.submittedByUserId
    submittedAt := if dto.status = .submitted then some now else takedown.submittedAt
    resolvedByUserId :=
      if dto.status ∈ TERMINAL then some actor.userId else takedown.resolvedByUserId
    resolvedAt := if dto.status ∈ TERMINAL then some now else takedown.resolvedAt }

@[simp] theorem TakedownRequest.id_moved (actor : AuthenticatedUser)
    (dto : UpdateTakedownStatusDto) (now : Int) (takedown : TakedownRequest) :
    (takedown.moved actor dto now).id = takedown.id := rfl

/-- `takedownRequest.update` by id; it throws when there is no such row. -/
def writeStatus (actor : AuthenticatedUser) (id : Uuid) (dto : UpdateTakedownStatusDto)
    (found : TakedownStatus) : Program TakedownRequest :=
  Prog.attempt (.update id found) .internal fun s =>
    (Table.find TakedownRequest.id id s.takedowns.rows).map fun takedown =>
      (takedown.moved actor dto s.now, { s with
        takedowns := s.takedowns.modify id (TakedownRequest.moved actor dto s.now)
          (TakedownRequest.id_moved actor dto s.now) })

def refusal (fromStatus toStatus : TakedownStatus) : HttpError :=
  .badRequest (utf16 "Cannot move a takedown from " ++ fromStatus.name ++ utf16 " to " ++
    toStatus.name ++
      match TRANSITIONS fromStatus with
      | [] => utf16 " — it is already in a final state"
      | first :: others =>
        utf16 "; allowed: " ++ first.name ++ others.flatMap fun status => utf16 ", " ++ status.name)

/-- Advance a takedown request to a new status. -/
def updateStatus (actor : AuthenticatedUser) (id : Uuid) (dto : UpdateTakedownStatusDto)
    (ctx : RequestContext) : Program TakedownRequest := do
  let takedown ← getTakedown id
  if dto.status ∈ TRANSITIONS takedown.status then
    let updated ← writeStatus actor id dto takedown.status
    logEvidence updated actor (utf16 "TAKEDOWN_" ++ dto.status.name)
      (utf16 "Takedown request moved to " ++ dto.status.name) ctx
    return updated
  else
    throw (refusal takedown.status dto.status)

/-! ## The automation -/

/-- What the automation uses of the language's runtime. -/
structure Platform where
  /-- `new RegExp(pattern, 'i').test(value)`; there is none where the pattern is not valid. -/
  testIgnoringCase : Text → Text → Option Bool

/-- Which provider type to look for given an indicator type. -/
def TYPE_TO_PROVIDER : IndicatorType → Option TakedownProviderType
  | .domain => some .domainRegistrar
  | .url => some .domainRegistrar
  | .email => some .emailProvider
  | .phone => some .telecomCarrier
  | .cryptoWallet => some .paymentProvider
  | .socialProfile => some .socialPlatform
  | .scamPhrase => none
  | .fakeCompany => none
  | .other => none

structure AutomateResult where
  matched : Nat
  created : Nat
  takedownIds : List Uuid
deriving DecidableEq

/-- The latest enrichment of the indicator. -/
def latestEnrichment (entry : RegistryEntry) (enrichments : List OsintEnrichment) :
    Option OsintEnrichment :=
  enrichments.reverse.find? fun row =>
    row.indicatorType = entry.indicatorType ∧ row.normalizedIndicator = entry.normalizedIndicator

/-- The registrar is under `data.registrar`; nothing is known of other providers. -/
def extractDetectedName (data : Option Value) (providerType : TakedownProviderType) :
    Option Text :=
  match data, providerType with
  | some (.object fields), .domainRegistrar =>
    match fieldOf fields "registrar" with
    | .string registrar => some registrar
    | _ => none
  | _, _ => none

/-- `pattern.replace(/^\(\?i\)/, '')`. -/
def cleaned (pattern : Text) : Text :=
  if (utf16 "(?i)").isPrefixOf pattern then pattern.drop 4 else pattern

/-- A pattern that is not valid matches nothing. -/
def matchesPattern (p : Platform) (pattern value : Text) : Bool :=
  (p.testIgnoringCase (cleaned pattern) value).getD false

/-- The enabled templates for the provider, those of a higher priority first. -/
def candidates (providerType : TakedownProviderType) (templates : List TakedownProviderTemplate) :
    List TakedownProviderTemplate :=
  Ranking.descending TakedownProviderTemplate.priority
    (templates.filter fun template => template.enabled ∧ template.providerType = providerType)

def matching (p : Platform) (providerType : TakedownProviderType) (detectedName : Text)
    (templates : List TakedownProviderTemplate) : List TakedownProviderTemplate :=
  (candidates providerType templates).filter fun template =>
    matchesPattern p template.detectorPattern detectedName

def draftMetadata (entry : RegistryEntry) (template : TakedownProviderTemplate)
    (detectedName : Text) : Value :=
  object [("registryEntryId", string entry.id), ("templateId", string template.id),
    ("providerType", string template.providerType.name),
    ("providerName", string template.providerName), ("detectedName", string detectedName)]

theorem distinct_draftMetadata (entry : RegistryEntry) (template : TakedownProviderTemplate)
    (detectedName : Text) : Distinct (draftMetadata entry template detectedName) := by
  refine ⟨?_, trivial, trivial, trivial, trivial, trivial, trivial⟩
  show List.Nodup [utf16 "registryEntryId", utf16 "templateId", utf16 "providerType",
    utf16 "providerName", utf16 "detectedName"]
  decide

def draftEvent (entry : RegistryEntry) (template : TakedownProviderTemplate)
    (detectedName : Text) (takedown : TakedownRequest) : AppendEvidenceInput where
  tenantId := none
  actorId := none
  actorType := some "SYSTEM"
  entityType := "TAKEDOWN_REQUEST"
  entityId := takedown.id
  eventType := "TAKEDOWN_AUTO_DRAFTED"
  eventDescription := utf16 "Auto-drafted takedown to " ++ template.providerName ++ utf16 " (" ++
    detectedName ++ utf16 ")"
  metadata := draftMetadata entry template detectedName
  ipAddress := none
  deviceId := none
  metadata_distinct := distinct_draftMetadata entry template detectedName

/-- Only the highest-priority match is acted on. -/
def actOn (entry : RegistryEntry) (detectedName : Text) (template : TakedownProviderTemplate)
    (matched : Nat) : Program AutomateResult := do
  let existing ← read fun s => s.takedowns.rows.find? fun row =>
    row.registryEntryId = entry.id ∧ row.providerName = template.providerName
  match existing with
  | some _ => return ⟨matched, 0, []⟩
  | none =>
    let takedown ← insertTakedown entry.id template.providerType template.providerName none
      (renderTemplate template.detailsTemplate entry)
    appendEvidence (draftEvent entry template detectedName takedown)
    return ⟨matched, 1, [takedown.id]⟩

def tryAutomate (p : Platform) (entry : RegistryEntry) : Program AutomateResult := do
  match TYPE_TO_PROVIDER entry.indicatorType with
  | none => return ⟨0, 0, []⟩
  | some providerType =>
    let osint ← read fun s => latestEnrichment entry s.enrichments
    match present (extractDetectedName (osint.map (·.data)) providerType) with
    | none => return ⟨0, 0, []⟩
    | some detectedName =>
      match ← read fun s => matching p providerType detectedName s.templates.rows with
      | [] => return ⟨0, 0, []⟩
      | template :: others => actOn entry detectedName template (others.length + 1)

/-! ## Templates, and other services -/

structure CreateTakedownTemplateDto where
  providerType : TakedownProviderType
  providerName : Text
  detectorPattern : Text
  detailsTemplate : Text
  enabled : Option Bool
  priority : Option Int

/-- A template is enabled, and has the lowest priority, unless it is said otherwise. -/
def newTemplate (dto : CreateTakedownTemplateDto) (id : Uuid) : TakedownProviderTemplate where
  id := id
  providerType := dto.providerType
  providerName := dto.providerName
  detectorPattern := dto.detectorPattern
  detailsTemplate := dto.detailsTemplate
  enabled := dto.enabled.getD true
  priority := dto.priority.getD 0

/-- `takedownProviderTemplate.create`; there is one template for a provider. -/
def createTemplate (dto : CreateTakedownTemplateDto) : Program TakedownProviderTemplate :=
  Prog.attempt .create .internal fun s =>
    if s.templates.rows.any fun row =>
        row.providerType = dto.providerType ∧ row.providerName = dto.providerName then
      none
    else
      let template := newTemplate dto s.templates.next
      some (template, { s with templates := s.templates.add template rfl })

/-- What other services make of their rows, as time goes on. -/
def changeWorld (entries : List RegistryEntry) (enrichments : List OsintEnrichment) (now : Int) :
    Program Unit :=
  Prog.act .world .internal fun s => ((), { s with entries, enrichments, now })

end Takedown
