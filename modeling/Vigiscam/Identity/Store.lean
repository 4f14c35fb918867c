import Vigiscam.Concurrency.Prog
import Vigiscam.Concurrency.Table
import Vigiscam.EvidenceVault.Service
import Vigiscam.Http

/-!
# Accounts, tenants and keys

Who may act for whom: users belong to tenants through memberships, hold refresh tokens, and
partners of a tenant call with its API keys. Staff are the members of the one internal tenant.

Instants are in milliseconds. Hashing and the lower case of a text are parameters.
-/

namespace Identity

open Js Concurrency EvidenceVault

/-! ## Rows -/

inductive TenantType where
  | publicTenant | personal | family | bank | platform | investigator | agency | enterprise
  | internal
deriving DecidableEq

inductive TenantStatus where
  | active | suspended | closed
deriving DecidableEq

inductive UserStatus where
  | active | pending | suspended | disabled
deriving DecidableEq

inductive MembershipStatus where
  | active | invited | suspended | removed
deriving DecidableEq

inductive PartnerApiKeyScope where
  | reportSubmit | readTenantIntel | evidenceExport | webhookManage | agencyFeed
deriving DecidableEq

inductive PartnerApiKeyPlan where
  | free | pro | enterprise
deriving DecidableEq

inductive PartnerApiKeyStatus where
  | active | revoked | expired
deriving DecidableEq

structure Tenant where
  id : Uuid
  name : Text
  type : TenantType
  status : TenantStatus
deriving DecidableEq

structure User where
  id : Uuid
  email : Text
  passwordHash : Text
  fullName : Text
  status : UserStatus
  lastLoginAt : Option Int
deriving DecidableEq

/-- A user's role in a tenant. -/
structure Membership where
  id : Uuid
  userId : Uuid
  tenantId : Uuid
  role : MembershipRole
  status : MembershipStatus
  isPrimary : Bool
deriving DecidableEq

/-- A hashed, rotating refresh token. The raw token is never stored. -/
structure RefreshToken where
  id : Uuid
  userId : Uuid
  tokenHash : Text
  expiresAt : Int
  revokedAt : Option Int
  userAgent : Option Text
  ipAddress : Option Text
deriving DecidableEq

structure PartnerApiKey where
  id : Uuid
  tenantId : Uuid
  keyHash : Text
  keyPrefix : Text
  scopes : List PartnerApiKeyScope
  plan : PartnerApiKeyPlan
  status : PartnerApiKeyStatus
  expiresAt : Option Int
  lastUsedAt : Option Int
deriving DecidableEq

/-- The requests of a key on one day. -/
structure PartnerApiKeyUsage where
  keyId : Uuid
  date : Int
  requestCount : Int
deriving DecidableEq

structure AuditLog where
  actorId : Uuid
  actorType : Text
  action : Text
  ipAddress : Option Text
  userAgent : Option Text

/-- The database, with the clock and the sources of ids and tokens. -/
structure Store where
  tenants : List Tenant
  users : List User
  memberships : List Membership
  refreshTokens : List RefreshToken
  apiKeys : List PartnerApiKey
  usage : List PartnerApiKeyUsage
  auditLogs : List AuditLog
  evidence : List (Uuid × AppendEvidenceInput)
  now : Int
  /-- The id that is given out next, after so many. -/
  uuid : Nat → Uuid
  issued : Nat
  /-- The token that is drawn next, after so many. -/
  token : Nat → Text
  drawn : Nat

/-- What the services use of the language's runtime, of their libraries and of their
configuration. -/
structure Platform where
  toLowerCase : Text → Text
  newDate : Int → Date
  /-- SHA-256, to hex digits. -/
  sha256 : Text → Text
  /-- `bcrypt.compare`. -/
  compare : Text → Text → Bool
  refreshTtlDays : Int

/-! ## Steps -/

/-- What a service writes to a membership. -/
inductive MembershipChange where
  /-- `{ role }`. -/
  | role (newRole : MembershipRole)
  /-- `{ status: 'REMOVED', isPrimary: false }`. -/
  | removed
  /-- `{ role, status: 'ACTIVE', isPrimary: true }`. -/
  | granted (newRole : MembershipRole)
deriving DecidableEq

def MembershipChange.apply : MembershipChange → Membership → Membership
  | .role newRole, m => { m with role := newRole }
  | .removed, m => { m with status := .removed, isPrimary := false }
  | .granted newRole, m => { m with role := newRole, status := .active, isPrimary := true }

@[simp] theorem MembershipChange.apply_id (change : MembershipChange) (m : Membership) :
    (change.apply m).id = m.id := by
  cases change <;> rfl

@[simp] theorem MembershipChange.apply_tenantId (change : MembershipChange) (m : Membership) :
    (change.apply m).tenantId = m.tenantId := by
  cases change <;> rfl

/-- What a step of a service does. -/
inductive DbStep where
  | read
  | draw
  | log
  /-- The update of a timestamp or of a count. -/
  | touch
  | create
  /-- The update that revokes a refresh token. -/
  | revoke (id : Uuid)
  /-- The update that revokes what has a hash. -/
  | revokeAll
  /-- An update of a membership. -/
  | membership (id : Uuid) (change : MembershipChange)
  /-- The update of a tenant's status. -/
  | tenant (id : Uuid)
  | clock
deriving DecidableEq

/-- A service method: steps of the database that may throw. -/
abbrev Program := Prog Store DbStep HttpError

def read {α : Type} (f : Store → α) : Program α := Prog.act .read .internal fun s => (f s, s)

/-- A fresh id. -/
def Store.issue (s : Store) : Uuid × Store := (s.uuid s.issued, { s with issued := s.issued + 1 })

/-- `evidence.append`. The row's hash and its place in the chain are the subject of
`Vigiscam.EvidenceVault`; here it is its input, under a fresh id. -/
def appendEvidence (input : AppendEvidenceInput) : Program Unit :=
  Prog.act .log .internal fun s =>
    ((), { s.issue.2 with evidence := s.evidence ++ [(s.issue.1, input)] })

/-- The clock goes on. -/
def tick (now : Int) : Program Unit := Prog.act .clock .internal fun s => ((), { s with now })

end Identity
