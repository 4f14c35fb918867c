import Vigiscam.Concurrency.Issued
import Vigiscam.Registry.SafeLanguage
import Vigiscam.Registry.Search

/-!
# Public alerts (`public-alert.service.ts`, `public-alert.transitions.ts`)

An alert is drafted, published, and withdrawn or expired. The public lists the published alerts
that have not expired, for a minute from the cache of the node.

Times are in milliseconds.
-/

namespace PublicAlerts

open Js Value Common Concurrency EvidenceVault
open Registry (assertPublicSafeLanguage floor)

/-! ## Alerts -/

inductive PublicAlertSeverity where
  | info | warning | critical
deriving DecidableEq

def PublicAlertSeverity.name : PublicAlertSeverity → Text
  | .info => "INFO"
  | .warning => "WARNING"
  | .critical => "CRITICAL"

inductive PublicAlertStatus where
  | draft | published | expired | withdrawn
deriving DecidableEq

def PublicAlertStatus.name : PublicAlertStatus → Text
  | .draft => "DRAFT"
  | .published => "PUBLISHED"
  | .expired => "EXPIRED"
  | .withdrawn => "WITHDRAWN"

structure PublicAlert where
  id : Uuid
  title : Text
  body : Text
  region : Text
  severity : PublicAlertSeverity
  category : Option Text
  registryEntryIds : List Uuid
  status : PublicAlertStatus
  createdByUserId : Option Uuid
  publishedByUserId : Option Uuid
  publishedAt : Option Int
  expiresAt : Option Int
  withdrawnAt : Option Int

/-- EXPIRED and WITHDRAWN are terminal. -/
def ALERT_TRANSITIONS : PublicAlertStatus → List PublicAlertStatus
  | .draft => [.published, .withdrawn]
  | .published => [.expired, .withdrawn]
  | .expired => []
  | .withdrawn => []

def canTransition (fromStatus toStatus : PublicAlertStatus) : Bool :=
  (ALERT_TRANSITIONS fromStatus).contains toStatus

/-- What the public sees of an alert. -/
structure PublicAlertItem where
  id : Uuid
  title : Text
  body : Text
  region : Text
  severity : PublicAlertSeverity
  category : Option Text
  publishedAt : Option Int
  expiresAt : Option Int
deriving DecidableEq

/-- The columns that `listPublic` selects. -/
def PublicAlert.item (alert : PublicAlert) : PublicAlertItem where
  id := alert.id
  title := alert.title
  body := alert.body
  region := alert.region
  severity := alert.severity
  category := alert.category
  publishedAt := alert.publishedAt
  expiresAt := alert.expiresAt

/-- What `broadcastPublic` tells the subscribed tenants. -/
structure PublicAlertPublished where
  alertId : Uuid
  title : Text
  body : Text
  region : Text
  severity : PublicAlertSeverity
  category : Option Text
  registryEntryIds : List Uuid
  publishedAt : Option Int

/-! ## State and steps -/

abbrev AlertTable := Table.Issued Uuid PublicAlert PublicAlert.id

/-- The database, and the cache of the node. -/
structure Store where
  alerts : AlertTable
  evidence : List AppendEvidenceInput
  broadcasts : List PublicAlertPublished
  cache : Cache (List PublicAlertItem)
  /-- `Date.now()`. -/
  now : Int

inductive AlertStep where
  | create | find | update | append | invalidate | broadcast | lookUp | query | fill
deriving DecidableEq

abbrev Program (α : Type) := Prog Store AlertStep HttpError α

def appendEvidence (input : AppendEvidenceInput) : Program Unit :=
  Prog.act .append .internal fun s => ((), { s with evidence := s.evidence ++ [input] })

def actorTypeFor (actor : AuthenticatedUser) : Text :=
  match actor.role with
  | .superAdmin | .complianceOfficer => "ADMIN"
  | .reviewer => "REVIEWER"
  | _ => "STAFF"

def alertEvent (actor : AuthenticatedUser) (alert : PublicAlert) (eventType description : Text)
    (metadata : Value) (h : Distinct metadata) (ip : Option Text) : AppendEvidenceInput where
  tenantId := none
  actorId := some actor.userId
  actorType := some (actorTypeFor actor)
  entityType := "PUBLIC_ALERT"
  entityId := alert.id
  eventType := eventType
  eventDescription := description
  metadata := metadata
  ipAddress := ip
  deviceId := none
  metadata_distinct := h

/-! ## Authoring -/

structure CreatePublicAlertDto where
  title : Text
  body : Text
  region : Text
  severity : Option PublicAlertSeverity
  category : Option Text
  registryEntryIds : Option (List Uuid)
  expiresAt : Option Text

def newAlert (actor : AuthenticatedUser) (dto : CreatePublicAlertDto) (expiresAt : Option Int)
    (id : Uuid) : PublicAlert where
  id := id
  title := dto.title
  body := dto.body
  region := dto.region
  severity := dto.severity.getD .warning
  category := dto.category
  registryEntryIds := dto.registryEntryIds.getD []
  status := .draft
  createdByUserId := some actor.userId
  publishedByUserId := none
  publishedAt := none
  expiresAt := expiresAt
  withdrawnAt := none

def creationMetadata (alert : PublicAlert) : Value :=
  object [("region", string alert.region), ("severity", string alert.severity.name),
    ("category", ofNullable alert.category)]

theorem distinct_creationMetadata (alert : PublicAlert) : Distinct (creationMetadata alert) := by
  refine ⟨?_, trivial, trivial, distinct_ofNullable _, trivial⟩
  show List.Nodup [utf16 "region", utf16 "severity", utf16 "category"]
  decide

/-- `dto.expiresAt ? new Date(dto.expiresAt) : null`; what the database is given, where the text is
no date, is refused. -/
def expiryOf (parseDate : Text → Option Int) (expiresAt : Option Text) : Option (Option Int) :=
  match present expiresAt with
  | none => some none
  | some text => (parseDate text).map some

/-- `publicAlert.create`. -/
def createAlert (parseDate : Text → Option Int) (actor : AuthenticatedUser)
    (dto : CreatePublicAlertDto) : Program PublicAlert :=
  Prog.attempt .create .internal fun s =>
    (expiryOf parseDate dto.expiresAt).map fun expiresAt =>
      let alert := newAlert actor dto expiresAt s.alerts.next
      (alert, { s with alerts := s.alerts.add alert rfl })

def create (parseDate : Text → Option Int) (actor : AuthenticatedUser) (dto : CreatePublicAlertDto)
    (ip : Option Text) : Program PublicAlert := do
  assertPublicSafeLanguage dto.title "title"
  assertPublicSafeLanguage dto.body "body"
  let alert ← createAlert parseDate actor dto
  appendEvidence (alertEvent actor alert "PUBLIC_ALERT_CREATED"
    (utf16 "Public alert drafted for " ++ alert.region ++ utf16 ": \"" ++ alert.title ++ utf16 "\"")
    (creationMetadata alert) (distinct_creationMetadata alert) ip)
  return alert

/-! ## Moving an alert -/

structure UpdatePublicAlertStatusDto where
  status : PublicAlertStatus
  reason : Option Text

def getInternal (id : Uuid) : Program PublicAlert := do
  match ← Prog.act .find .internal fun s => (Table.find PublicAlert.id id s.alerts.rows, s) with
  | none => throw (.notFound "Public alert not found")
  | some alert => return alert

/-- The columns that a move to the status writes. -/
def PublicAlert.moved (actor : AuthenticatedUser) (status : PublicAlertStatus) (now : Int)
    (alert : PublicAlert) : PublicAlert :=
  match status with
  | .draft => { alert with status }
  | .published =>
    { alert with status, publishedByUserId := some actor.userId, publishedAt := some now }
  | .expired => { alert with status, expiresAt := some now }
  | .withdrawn => { alert with status, withdrawnAt := some now }

theorem PublicAlert.id_moved (actor : AuthenticatedUser) (status : PublicAlertStatus) (now : Int)
    (alert : PublicAlert) : (alert.moved actor status now).id = alert.id := by
  cases status <;> rfl

/-- `publicAlert.update`; it throws when there is no such row. -/
def updateAlert (actor : AuthenticatedUser) (id : Uuid) (status : PublicAlertStatus) :
    Program PublicAlert :=
  Prog.attempt .update .internal fun s =>
    (Table.find PublicAlert.id id s.alerts.rows).map fun alert =>
      (alert.moved actor status s.now, { s with
        alerts := s.alerts.modify id (PublicAlert.moved actor status s.now)
          (PublicAlert.id_moved actor status s.now) })

def moveMetadata (alert : PublicAlert) (previousStatus : PublicAlertStatus) : Value :=
  object [("region", string alert.region), ("severity", string alert.severity.name),
    ("previousStatus", string previousStatus.name)]

theorem distinct_moveMetadata (alert : PublicAlert) (previousStatus : PublicAlertStatus) :
    Distinct (moveMetadata alert previousStatus) := by
  refine ⟨?_, trivial, trivial, trivial, trivial⟩
  show List.Nodup [utf16 "region", utf16 "severity", utf16 "previousStatus"]
  decide

def ALERTS_CACHE_PREFIX : Text := "public-alerts:"

def ALERTS_CACHE_TTL_MS : Int := 60000

/-- Every cached listing is deleted. -/
def invalidateListings : Program Unit :=
  Prog.act .invalidate .internal fun s =>
    ((), { s with cache := (s.cache.deletePrefix ALERTS_CACHE_PREFIX).2 })

def publication (alert : PublicAlert) : PublicAlertPublished where
  alertId := alert.id
  title := alert.title
  body := alert.body
  region := alert.region
  severity := alert.severity
  category := alert.category
  registryEntryIds := alert.registryEntryIds
  publishedAt := alert.publishedAt

/-- The subscribed tenants are told of a publication; a failure is logged. -/
def broadcast (status : PublicAlertStatus) (alert : PublicAlert) : Program Unit :=
  if status = .published then
    tryCatch
      (Prog.act .broadcast .internal fun s =>
        ((), { s with broadcasts := s.broadcasts ++ [publication alert] }))
      fun _ => pure ()
  else pure ()

def updateStatus (actor : AuthenticatedUser) (id : Uuid) (dto : UpdatePublicAlertStatusDto)
    (ip : Option Text) : Program PublicAlert := do
  let current ← getInternal id
  if canTransition current.status dto.status then
    let updated ← updateAlert actor id dto.status
    appendEvidence (alertEvent actor updated (utf16 "PUBLIC_ALERT_" ++ dto.status.name)
      (dto.reason.getD (utf16 "Public alert moved to " ++ dto.status.name))
      (moveMetadata updated current.status) (distinct_moveMetadata updated current.status) ip)
    invalidateListings
    broadcast dto.status updated
    return updated
  else
    throw (.badRequest (utf16 "Cannot move a public alert from " ++ current.status.name ++
      utf16 " to " ++ dto.status.name))

/-! ## The public listing -/

structure Filters where
  region : Option Text
  minSeverity : Option Text
  limit : Option Number

def DEFAULT_LIMIT : Int := 50

def MAX_LIMIT : Int := 200

def Filters.size (filters : Filters) : Int :=
  min MAX_LIMIT (max 1 (floor (filters.limit.getD (.ofInt DEFAULT_LIMIT))))

def Filters.cacheKey (filters : Filters) : Text :=
  ALERTS_CACHE_PREFIX ++ utf16 "r=" ++ filters.region.getD [] ++ utf16 "|s=" ++
    filters.minSeverity.getD [] ++ utf16 "|l=" ++ (Number.ofInt filters.size).toText

/-- The severities from a minimum on; a text that names none asks for all of them. -/
def severityAtOrAbove (minSeverity : Option Text) : List PublicAlertSeverity :=
  let ordered : List PublicAlertSeverity := [.info, .warning, .critical]
  match minSeverity with
  | none => ordered
  | some minimum =>
    if ∃ severity ∈ ordered, severity.name = minimum then
      ordered.dropWhile (·.name ≠ minimum)
    else ordered

/-- The alert has not expired. -/
def Unexpired (expiresAt : Option Int) (now : Int) : Prop := ∀ expiry ∈ expiresAt, now < expiry

instance (expiresAt : Option Int) (now : Int) : Decidable (Unexpired expiresAt now) :=
  inferInstanceAs (Decidable (∀ expiry ∈ expiresAt, now < expiry))

def Filters.selects (filters : Filters) (now : Int) (alert : PublicAlert) : Bool :=
  alert.status = .published && (present filters.region).all (alert.region = ·) &&
    (severityAtOrAbove filters.minSeverity).contains alert.severity &&
    Unexpired alert.expiresAt now

/-- Descending order of `publishedAt`, in which the database has missing values first. -/
def PublishedLater (a b : PublicAlert) : Prop :=
  match a.publishedAt, b.publishedAt with
  | none, _ => True
  | some _, none => False
  | some x, some y => y ≤ x

instance : DecidableRel PublishedLater := fun a b => by
  unfold PublishedLater
  split <;> infer_instance

/-- What the database answers. -/
def Filters.listing (filters : Filters) (now : Int) (alerts : List PublicAlert) :
    List PublicAlertItem :=
  (((alerts.filter (filters.selects now)).insertionSort PublishedLater).take
    filters.size.toNat).map PublicAlert.item

/-- PUBLISHED alerts only, cached for a minute. -/
def listPublic (filters : Filters) : Program (List PublicAlertItem) := do
  let cached ← Prog.act .lookUp .internal fun s =>
    ((s.cache.get filters.cacheKey s.now).1, { s with
      cache := (s.cache.get filters.cacheKey s.now).2 })
  match cached with
  | some items => return items
  | none =>
    let items ← Prog.act .query .internal fun s => (filters.listing s.now s.alerts.rows, s)
    Prog.act .fill .internal fun s =>
      ((), { s with cache := s.cache.set filters.cacheKey items ALERTS_CACHE_TTL_MS s.now })
    return items

end PublicAlerts
