import Vigiscam.Identity.Store

/-!
# Keys of partners (`api-key.guard.ts`, `plan-limits.ts`)

A partner calls with a key of its tenant in a header. The guard admits the request of an active
key that has not expired, has the scopes that the route requires, and is within the daily quota
of its plan.
-/

namespace Identity

open Js Concurrency

/-! ## Plans -/

/-- Daily request quota per plan; `none` is unlimited. -/
def DAILY_LIMITS : PartnerApiKeyPlan → Option Int
  | .free => some 1000
  | .pro => some 100000
  | .enterprise => none

/-- A day, in milliseconds. -/
def dayMs : Int := 24 * 60 * 60 * 1000

/-- UTC midnight today: the bucket that the daily usage counter uses. -/
def todayUtcBucket (now : Int) : Int := now - now % dayMs

def nextUtcMidnight (today : Int) : Int := today + dayMs

theorem todayUtcBucket_le (now : Int) :
    todayUtcBucket now ≤ now ∧ now < nextUtcMidnight (todayUtcBucket now) := by
  unfold todayUtcBucket nextUtcMidnight dayMs
  omega

def planName : PartnerApiKeyPlan → Text
  | .free => "FREE"
  | .pro => "PRO"
  | .enterprise => "ENTERPRISE"

def scopeName : PartnerApiKeyScope → Text
  | .reportSubmit => "REPORT_SUBMIT"
  | .readTenantIntel => "READ_TENANT_INTEL"
  | .evidenceExport => "EVIDENCE_EXPORT"
  | .webhookManage => "WEBHOOK_MANAGE"
  | .agencyFeed => "AGENCY_FEED"

/-- `missing.join(', ')`. -/
def joinScopes : List PartnerApiKeyScope → Text
  | [] => []
  | [scope] => scopeName scope
  | scope :: rest => scopeName scope ++ utf16 ", " ++ joinScopes rest

/-! ## The guard -/

/-- The value of the header, which may be sent more than once. -/
inductive HeaderValue where
  | one (value : Text)
  | many (values : List Text)

def extractKey : Option HeaderValue → Option Text
  | none => none
  | some (.one value) => some value
  | some (.many values) => values.head?

/-- A partner's request: its header, and the scopes that the route requires. -/
structure PartnerRequest where
  header : Option HeaderValue
  required : Option (List PartnerApiKeyScope)

/-- The checks of a key that need no query: its status, its expiry and its scopes. -/
def checkKey (required : Option (List PartnerApiKeyScope)) (now : Int) (key : PartnerApiKey) :
    Except HttpError Unit :=
  let missing := (required.getD []).filter (· ∉ key.scopes)
  if key.status ≠ .active then throw (.unauthorized "Invalid or revoked API key")
  else if key.expiresAt.any (· < now) then throw (.unauthorized "API key has expired")
  else if missing ≠ [] then
    throw (.denied ("API key is missing required scope(s): " ++ joinScopes missing))
  else pure ()

/-- The requests of a key on a day. -/
def requestCount (keyId : Uuid) (date : Int) (s : Store) : Int :=
  ((s.usage.find? fun u => u.keyId = keyId ∧ u.date = date).map (·.requestCount)).getD 0

/-- Over-quota requests fail. -/
def checkQuota (p : Platform) (key : PartnerApiKey) (today : Int) : Program Unit :=
  match DAILY_LIMITS key.plan with
  | none => pure ()
  | some limit => do
    let currentCount ← read (requestCount key.id today)
    if currentCount ≥ limit then
      throw (.tooManyRequests
        ("Daily quota exceeded for " ++ planName key.plan ++ " plan (" ++
          (Number.ofInt limit).toText ++ " requests/day)")
        (planName key.plan) limit (p.newDate (nextUtcMidnight today)).toISOString)

/-- `partnerApiKey.update` of the last use; it throws when there is no such key. -/
def touchKey (keyId : Uuid) : Program Unit :=
  Prog.attempt .touch .internal fun s =>
    (Table.find PartnerApiKey.id keyId s.apiKeys).map fun _ => ((), { s with
      apiKeys := Table.modify PartnerApiKey.id keyId (fun k => { k with lastUsedAt := some s.now })
        s.apiKeys })

/-- `partnerApiKeyUsage.upsert` of one more request. -/
def countRequest (keyId : Uuid) (date : Int) : Program Unit :=
  Prog.act .touch .internal fun s => ((), { s with
    usage :=
      if s.usage.any fun u => u.keyId = keyId ∧ u.date = date then
        s.usage.map fun u =>
          if u.keyId = keyId ∧ u.date = date then { u with requestCount := u.requestCount + 1 }
          else u
      else s.usage ++ [⟨keyId, date, 1⟩] })

/-- A best-effort write: what it throws is dropped. -/
def bestEffort (q : Program Unit) : Program Unit := tryCatch q fun _ => pure ()

/-- Admit a request, for the partner whose key it carries. -/
def canActivate (p : Platform) (request : PartnerRequest) : Program PartnerPrincipal := do
  match present (extractKey request.header) with
  | none => throw (.unauthorized "Missing X-API-Key header")
  | some raw =>
    let (key, now) ← read fun s =>
      (Table.find PartnerApiKey.keyHash (p.sha256 raw) s.apiKeys, s.now)
    match key with
    | none => throw (.unauthorized "Invalid or revoked API key")
    | some key =>
      match checkKey request.required now key with
      | .error e => throw e
      | .ok () =>
        let today := todayUtcBucket now
        checkQuota p key today
        bestEffort (touchKey key.id)
        bestEffort (countRequest key.id today)
        return { keyId := key.id, tenantId := key.tenantId, keyPrefix := key.keyPrefix }

end Identity
