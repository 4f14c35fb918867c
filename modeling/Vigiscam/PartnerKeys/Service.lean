import Vigiscam.Identity.ApiKeys
import Vigiscam.Identity.Auth
import Vigiscam.Identity.Suspension

/-!
# The keys of partners (`partner-key.service.ts`)

Super admins issue, re-tier and revoke the keys that `api-key.guard.ts` admits requests by. The
raw key is drawn at random, returned once, and stored as its digest.
-/

namespace PartnerKeys

open Js Concurrency Identity

/-- Tenants that may hold partner API keys. -/
def ELIGIBLE_TENANT_TYPES : List TenantType :=
  [.bank, .platform, .investigator, .agency, .enterprise, .internal]

structure CreatePartnerKeyDto where
  tenantId : Uuid
  scopes : List PartnerApiKeyScope
  plan : Option PartnerApiKeyPlan
  expiresAt : Option Int

/-- A generated key: the raw key, its hash and a short display prefix. -/
structure RawKey where
  raw : Text
  hash : Text
  keyPrefix : Text
deriving DecidableEq

structure IssuedPartnerKey where
  /-- The raw key, shown exactly once. -/
  rawKey : Text
  record : PartnerApiKey
deriving DecidableEq

/-- The columns of a key that are told to an admin: all but its hash. -/
structure SafeKey where
  id : Uuid
  tenantId : Uuid
  keyPrefix : Text
  scopes : List PartnerApiKeyScope
  plan : PartnerApiKeyPlan
  status : PartnerApiKeyStatus
  expiresAt : Option Int
  lastUsedAt : Option Int
deriving DecidableEq

def safeSelect (key : PartnerApiKey) : SafeKey where
  id := key.id
  tenantId := key.tenantId
  keyPrefix := key.keyPrefix
  scopes := key.scopes
  plan := key.plan
  status := key.status
  expiresAt := key.expiresAt
  lastUsedAt := key.lastUsedAt

def tenantTypeName : TenantType → Text
  | .publicTenant => "PUBLIC"
  | .personal => "PERSONAL"
  | .family => "FAMILY"
  | .bank => "BANK"
  | .platform => "PLATFORM"
  | .investigator => "INVESTIGATOR"
  | .agency => "AGENCY"
  | .enterprise => "ENTERPRISE"
  | .internal => "INTERNAL"

/-! ## Parts of the service -/

def rawKeyOf (p : Platform) (random : Text) : RawKey where
  raw := "vsk_" ++ random
  hash := p.sha256 ("vsk_" ++ random)
  keyPrefix := (utf16 "vsk_" ++ random).take 10

/-- `randomBytes(20).toString('hex')` behind `vsk_`. -/
def generateRawKey (p : Platform) : Program RawKey :=
  Prog.act .draw .internal fun s =>
    (rawKeyOf p (s.token s.drawn), { s with drawn := s.drawn + 1 })

/-- The columns of a new key. -/
def newKey (dto : CreatePartnerKeyDto) (key : RawKey) (id : Uuid) : PartnerApiKey where
  id := id
  tenantId := dto.tenantId
  keyHash := key.hash
  keyPrefix := key.keyPrefix
  scopes := dto.scopes
  plan := dto.plan.getD .free
  status := .active
  expiresAt := dto.expiresAt
  lastUsedAt := none

/-- `partnerApiKey.create`; hashes are unique. -/
def createKey (dto : CreatePartnerKeyDto) (key : RawKey) : Program PartnerApiKey :=
  Prog.attempt .create .internal fun s =>
    if key.hash ∈ s.apiKeys.map PartnerApiKey.keyHash then none
    else some (newKey dto key s.issue.1, { s.issue.2 with
      apiKeys := s.apiKeys ++ [newKey dto key s.issue.1] })

/-- What a service writes to a key. -/
inductive KeyChange where
  /-- `{ plan }`. -/
  | plan (newPlan : PartnerApiKeyPlan)
  /-- `{ status: 'REVOKED', revokedAt: now }`. -/
  | revoked
deriving DecidableEq

def KeyChange.apply : KeyChange → PartnerApiKey → PartnerApiKey
  | .plan newPlan, key => { key with plan := newPlan }
  | .revoked, key => { key with status := .revoked }

@[simp] theorem KeyChange.apply_id (change : KeyChange) (key : PartnerApiKey) :
    (change.apply key).id = key.id := by
  cases change <;> rfl

@[simp] theorem KeyChange.apply_keyHash (change : KeyChange) (key : PartnerApiKey) :
    (change.apply key).keyHash = key.keyHash := by
  cases change <;> rfl

@[simp] theorem KeyChange.apply_tenantId (change : KeyChange) (key : PartnerApiKey) :
    (change.apply key).tenantId = key.tenantId := by
  cases change <;> rfl

def findKey (id : Uuid) : Program (Option PartnerApiKey) :=
  read fun s => Table.find PartnerApiKey.id id s.apiKeys

/-- `partnerApiKey.update` by id; it throws when there is no such row. -/
def updateKey (id : Uuid) (change : KeyChange) : Program SafeKey :=
  Prog.attempt .touch .internal fun s =>
    (Table.find PartnerApiKey.id id s.apiKeys).map fun key =>
      (safeSelect (change.apply key),
        { s with apiKeys := Table.modify PartnerApiKey.id id change.apply s.apiKeys })

/-! ## What the evidence records -/

def issuedMetadata (tenant : Tenant) (record : PartnerApiKey) : Value :=
  .object [("tenantId", .string tenant.id),
    ("scopes", .array (record.scopes.map fun scope => .string (scopeName scope))),
    ("plan", .string (planName record.plan)), ("keyPrefix", .string record.keyPrefix)]

theorem distinctItems_strings (texts : List Text) :
    Value.DistinctItems (texts.map Value.string) := by
  induction texts with
  | nil => trivial
  | cons text texts ih => exact ⟨trivial, ih⟩

theorem distinct_issuedMetadata (tenant : Tenant) (record : PartnerApiKey) :
    (issuedMetadata tenant record).Distinct := by
  refine ⟨?_, trivial, ?_, trivial, trivial, trivial⟩
  · show List.Nodup [utf16 "tenantId", utf16 "scopes", utf16 "plan", utf16 "keyPrefix"]
    decide
  · show Value.DistinctItems (record.scopes.map fun scope => Value.string (scopeName scope))
    have hmap := distinctItems_strings (record.scopes.map scopeName)
    rwa [List.map_map] at hmap

def planMetadata (key : PartnerApiKey) (plan : PartnerApiKeyPlan) : Value :=
  .object [("tenantId", .string key.tenantId), ("keyPrefix", .string key.keyPrefix),
    ("from", .string (planName key.plan)), ("to", .string (planName plan))]

theorem distinct_planMetadata (key : PartnerApiKey) (plan : PartnerApiKeyPlan) :
    (planMetadata key plan).Distinct := by
  refine ⟨?_, trivial, trivial, trivial, trivial, trivial⟩
  show List.Nodup [utf16 "tenantId", utf16 "keyPrefix", utf16 "from", utf16 "to"]
  decide

def revokedMetadata (key : PartnerApiKey) : Value :=
  .object [("tenantId", .string key.tenantId), ("keyPrefix", .string key.keyPrefix)]

theorem distinct_revokedMetadata (key : PartnerApiKey) : (revokedMetadata key).Distinct := by
  refine ⟨?_, trivial, trivial, trivial⟩
  show List.Nodup [utf16 "tenantId", utf16 "keyPrefix"]
  decide

/-! ## The service -/

/-- Issue a new key for a partner tenant. -/
def issueKey (p : Platform) (actor : AuthenticatedUser) (dto : CreatePartnerKeyDto)
    (ctx : RequestContext) : Program IssuedPartnerKey := do
  match ← read fun s => Table.find Tenant.id dto.tenantId s.tenants with
  | none => throw (.notFound "Tenant not found")
  | some tenant =>
    if tenant.type ∉ ELIGIBLE_TENANT_TYPES then
      throw (.badRequest ("Tenant type " ++ tenantTypeName tenant.type ++
        " cannot hold a partner API key — partner keys are only for institutional tenants " ++
        "(BANK, PLATFORM, INVESTIGATOR, AGENCY, ENTERPRISE, INTERNAL)."))
    else
      let key ← generateRawKey p
      let record ← createKey dto key
      appendEvidence {
        tenantId := some tenant.id
        actorId := some actor.userId
        actorType := some "ADMIN"
        entityType := "PARTNER_API_KEY"
        entityId := record.id
        eventType := "PARTNER_KEY_ISSUED"
        eventDescription := "Partner API key issued (" ++ key.keyPrefix ++ "…) to " ++
          tenant.name ++ " on " ++ planName record.plan ++ " plan"
        metadata := issuedMetadata tenant record
        ipAddress := ctx.ip
        deviceId := none
        metadata_distinct := distinct_issuedMetadata tenant record }
      return { rawKey := key.raw, record := record }

/-- Update an existing key's plan tier. -/
def updatePlan (actor : AuthenticatedUser) (id : Uuid) (plan : PartnerApiKeyPlan)
    (ctx : RequestContext) : Program (Option SafeKey) := do
  match ← findKey id with
  | none => throw (.notFound "Partner API key not found")
  | some key =>
    if key.plan = plan then
      return (← findKey id).map safeSelect
    else
      let updated ← updateKey id (.plan plan)
      appendEvidence {
        tenantId := some key.tenantId
        actorId := some actor.userId
        actorType := some "ADMIN"
        entityType := "PARTNER_API_KEY"
        entityId := key.id
        eventType := "PARTNER_KEY_PLAN_CHANGED"
        eventDescription := "Partner API key plan changed " ++ planName key.plan ++ " -> " ++
          planName plan ++ " (" ++ key.keyPrefix ++ "…)"
        metadata := planMetadata key plan
        ipAddress := ctx.ip
        deviceId := none
        metadata_distinct := distinct_planMetadata key plan }
      return some updated

/-- Revoke a key. Revoking a revoked key is a no-op. -/
def revokeKey (actor : AuthenticatedUser) (id : Uuid) (ctx : RequestContext) :
    Program (Option SafeKey) := do
  match ← findKey id with
  | none => throw (.notFound "Partner API key not found")
  | some key =>
    if key.status = .revoked then
      return (← findKey id).map safeSelect
    else
      let updated ← updateKey id .revoked
      appendEvidence {
        tenantId := some key.tenantId
        actorId := some actor.userId
        actorType := some "ADMIN"
        entityType := "PARTNER_API_KEY"
        entityId := key.id
        eventType := "PARTNER_KEY_REVOKED"
        eventDescription := "Partner API key revoked (" ++ key.keyPrefix ++ "…)"
        metadata := revokedMetadata key
        ipAddress := ctx.ip
        deviceId := none
        metadata_distinct := distinct_revokedMetadata key }
      return some updated

/-- List keys, newest first, optionally those of one tenant. An empty id is no filter. -/
def listKeys (tenantId : Option Uuid) : Program (List SafeKey) :=
  read fun s =>
    let rows := match present tenantId with
      | none => s.apiKeys
      | some tenantId => s.apiKeys.filter (·.tenantId = tenantId)
    (rows.reverse.take 200).map safeSelect

/-!
## A server with partners

Processes that serve the requests of partners, beside administrators and the clock, over one
store: requests are admitted by `api-key.guard.ts`, and administrators manage keys and tenants.
-/

/-- A call of a super admin. -/
inductive AdminCall where
  | issue (actor : AuthenticatedUser) (dto : CreatePartnerKeyDto) (ctx : RequestContext)
  | updatePlan (actor : AuthenticatedUser) (id : Uuid) (plan : PartnerApiKeyPlan)
    (ctx : RequestContext)
  | revoke (actor : AuthenticatedUser) (id : Uuid) (ctx : RequestContext)
  | list (tenantId : Option Uuid)
  | setStatus (admin : AuthenticatedUser) (tenantId : Uuid) (dto : SetTenantStatusDto)
    (ctx : RequestContext)

def AdminCall.program (p : Platform) : AdminCall → Program Unit
  | issue actor dto ctx => do let _ ← issueKey p actor dto ctx
  | updatePlan actor id plan ctx => do let _ ← PartnerKeys.updatePlan actor id plan ctx
  | revoke actor id ctx => do let _ ← revokeKey actor id ctx
  | list tenantId => do let _ ← listKeys tenantId
  | setStatus admin tenantId dto ctx => do let _ ← setTenantStatus admin tenantId dto ctx

/-- What a process of the server does, one thing after the other. -/
inductive Process where
  | serving (requests : List PartnerRequest)
  | managing (calls : List AdminCall)
  | clock (times : List Int)

/-- The partner of a request, where it is admitted; what the guard throws goes to the caller. -/
def letIn (p : Platform) (request : PartnerRequest) : Program (List PartnerPrincipal) :=
  tryCatch (do return [← canActivate p request]) fun _ => pure []

/-- A request is in flight until its writes are through; then the next one is served. -/
def serve (p : Platform) : List PartnerRequest → Program (List PartnerPrincipal)
  | [] => pure []
  | request :: rest => do
    let first ← letIn p request
    let others ← serve p rest
    return first ++ others

/-- The calls of an administrator, up to the first one that throws. -/
def manage (p : Platform) : List AdminCall → Program (List PartnerPrincipal)
  | [] => pure []
  | call :: rest => do
    call.program p
    manage p rest

def tell : List Int → Program (List PartnerPrincipal)
  | [] => pure []
  | now :: rest => do
    tick now
    tell rest

def Process.program (p : Platform) : Process → Program (List PartnerPrincipal)
  | serving requests => serve p requests
  | managing calls => manage p calls
  | clock times => tell times

abbrev Server (ι : Type) := Pool ι Store (Program (List PartnerPrincipal))

/-- The processes at their start. -/
def server {ι : Type} (p : Platform) (processes : ι → Process) (s : Store) : Server ι where
  shared := s
  locals i := (processes i).program p

/-! ### A partner -/

/-- A partner of the bank with one request left on the first day. -/
def sampleKey : PartnerApiKey where
  id := "K"
  tenantId := "T"
  keyHash := sampleDigest "first"
  keyPrefix := "vsk_"
  scopes := []
  plan := .free
  status := .active
  expiresAt := none
  lastUsedAt := none

def samplePartner : Store :=
  { sampleAccounts .active with apiKeys := [sampleKey], usage := [⟨"K", 0, 999⟩] }

def sampleRequest : PartnerRequest := ⟨some (.one "first"), none⟩

end PartnerKeys
