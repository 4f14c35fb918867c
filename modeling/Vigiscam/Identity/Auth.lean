import Vigiscam.Identity.Store

/-!
# Sessions (`auth.service.ts`)

A session is a short-lived access token with a refresh token. Logging in issues the first pair,
`refresh` spends a refresh token for the next one, and `logout` revokes it.
-/

namespace Identity

open Js Concurrency

/-- Claims carried inside a signed access token. -/
structure JwtPayload where
  sub : Uuid
  email : Text
  tenantId : Uuid
  role : MembershipRole
deriving DecidableEq

/-- Request metadata captured for audit logging. -/
structure RequestContext where
  ip : Option Text
  userAgent : Option Text

/-- The user of a session, as it is told to the caller. -/
structure SessionUser where
  id : Uuid
  email : Text
  fullName : Text
  tenantId : Uuid
  role : MembershipRole
deriving DecidableEq

/-- A token pair. The access token is given by its claims, which it carries in the clear. -/
structure AuthResult where
  accessToken : JwtPayload
  refreshToken : Text
  user : SessionUser
deriving DecidableEq

structure LoginDto where
  email : Text
  password : Text

/-! ## Parts of the service -/

/-- `findFirst` with the primary membership first. -/
def primaryMembership (userId : Uuid) (s : Store) : Option Membership :=
  let active := s.memberships.filter fun m => m.userId = userId ∧ m.status = .active
  (active.find? (·.isPrimary)).or active.head?

def getPrimaryMembership (userId : Uuid) : Program Membership := do
  match ← read (primaryMembership userId) with
  | none => throw (.unauthorized "No active tenant membership for this account")
  | some membership => return membership

def writeAudit (action : Text) (actorId : Uuid) (ctx : RequestContext) : Program Unit :=
  Prog.act .log .internal fun s =>
    ((), { s with auditLogs := s.auditLogs ++ [{
      actorId := actorId
      actorType := "USER"
      action := action
      ipAddress := ctx.ip
      userAgent := ctx.userAgent }] })

/-- The last login of the user is now. -/
def Store.loggedIn (s : Store) (userId : Uuid) : Store :=
  { s with
    users := Table.modify User.id userId (fun u => { u with lastLoginAt := some s.now }) s.users }

/-- `user.update` of the last login; it throws when there is no such user. -/
def touchLogin (userId : Uuid) : Program Unit :=
  Prog.attempt .touch .internal fun s =>
    (Table.find User.id userId s.users).map fun _ => ((), s.loggedIn userId)

/-- `randomBytes(40).toString('hex')`, and the time. -/
def drawToken : Program (Text × Int) :=
  Prog.act .draw .internal fun s => ((s.token s.drawn, s.now), { s with drawn := s.drawn + 1 })

/-- The columns of a new refresh token. -/
def newToken (p : Platform) (userId : Uuid) (ctx : RequestContext) (refreshToken : Text)
    (now : Int) (id : Uuid) : RefreshToken where
  id := id
  userId := userId
  tokenHash := p.sha256 refreshToken
  expiresAt := now + p.refreshTtlDays * 24 * 60 * 60 * 1000
  revokedAt := none
  userAgent := ctx.userAgent
  ipAddress := ctx.ip

/-- The refresh token with a new id. -/
def Store.addToken (s : Store) (row : Uuid → RefreshToken) : Store :=
  { s.issue.2 with refreshTokens := s.refreshTokens ++ [row s.issue.1] }

/-- `refreshToken.create`; hashes are unique. -/
def createToken (row : Uuid → RefreshToken) : Program Unit :=
  Prog.attempt .create .internal fun s =>
    if (row s.issue.1).tokenHash ∈ s.refreshTokens.map RefreshToken.tokenHash then none
    else some ((), s.addToken row)

/-- The pair of a session of the user in the tenant of the membership. -/
def tokenPair (user : User) (membership : Membership) (refreshToken : Text) : AuthResult where
  accessToken := {
    sub := user.id
    email := user.email
    tenantId := membership.tenantId
    role := membership.role }
  refreshToken := refreshToken
  user := {
    id := user.id
    email := user.email
    fullName := user.fullName
    tenantId := membership.tenantId
    role := membership.role }

def issueTokens (p : Platform) (user : User) (membership : Membership) (ctx : RequestContext) :
    Program AuthResult := do
  let (refreshToken, now) ← drawToken
  createToken (newToken p user.id ctx refreshToken now)
  return tokenPair user membership refreshToken

/-! ## The service -/

/-- Verify credentials and issue a token pair. -/
def login (p : Platform) (dto : LoginDto) (ctx : RequestContext) : Program AuthResult := do
  let email := trim (p.toLowerCase dto.email)
  match ← read fun s => Table.find User.email email s.users with
  | none => throw (.unauthorized "Invalid email or password")
  | some user =>
    -- the same response whether the email exists or not
    if !p.compare dto.password user.passwordHash then
      throw (.unauthorized "Invalid email or password")
    else if user.status ≠ .active then
      throw (.unauthorized "This account is not active")
    else
      let membership ← getPrimaryMembership user.id
      touchLogin user.id
      writeAudit "USER_LOGIN" user.id ctx
      issueTokens p user membership ctx

/-- The token of a hash with its user. -/
def storedToken (tokenHash : Text) (s : Store) : Option (RefreshToken × Option User) :=
  (Table.find RefreshToken.tokenHash tokenHash s.refreshTokens).map fun stored =>
    (stored, Table.find User.id stored.userId s.users)

/-- The rows of an id are revoked now. -/
def Store.revoke (s : Store) (id : Uuid) : Store :=
  { s with
    refreshTokens := Table.modify RefreshToken.id id (fun t => { t with revokedAt := some s.now })
      s.refreshTokens }

/-- The unrevoked rows of a hash are revoked now. -/
def Store.revokeAll (s : Store) (tokenHash : Text) : Store :=
  { s with
    refreshTokens := s.refreshTokens.map fun t =>
      if t.tokenHash = tokenHash ∧ t.revokedAt = none then { t with revokedAt := some s.now }
      else t }

/-- `refreshToken.update` by id; it throws when there is no such row. -/
def revokeToken (id : Uuid) : Program Unit :=
  Prog.attempt (.revoke id) .internal fun s =>
    (Table.find RefreshToken.id id s.refreshTokens).map fun _ => ((), s.revoke id)

/-- Rotate a refresh token: validate it, issue a new pair, spend the old one. -/
def refresh (p : Platform) (rawToken : Text) (ctx : RequestContext) : Program AuthResult := do
  let (stored, now) ← read fun s => (storedToken (p.sha256 rawToken) s, s.now)
  match stored with
  | none => throw (.unauthorized "Invalid or expired refresh token")
  | some (stored, user) =>
    if stored.revokedAt.isSome || stored.expiresAt < now then
      throw (.unauthorized "Invalid or expired refresh token")
    else
      match user with
      | none => throw .internal
      | some user =>
        if user.status ≠ .active then throw (.unauthorized "This account is not active")
        else
          let membership ← getPrimaryMembership stored.userId
          let result ← issueTokens p user membership ctx
          revokeToken stored.id
          return result

/-- Revoke a refresh token. -/
def logout (p : Platform) (rawToken : Text) : Program Unit :=
  Prog.act .revokeAll .internal fun s => ((), s.revokeAll (p.sha256 rawToken))

/-! ## A user with a session -/

/-- The digests of the tokens below. -/
def sampleDigest (raw : Text) : Text :=
  if raw = utf16 "first" then
    "a7937b64b8caa58f03721bb6bacf5c78cb235febe0e70b1b84cd99541461a08e"
  else if raw = utf16 "second" then
    "16367aacb67a4a017c8da8ab95682ccb390863780f7114dda0a0e0c55644c7c4"
  else if raw = utf16 "third" then
    "b1e99324505bd32da0e1f85dcf5e19a09db0481e8a15f62c41eb320304a8e927"
  else []

def sampleHash : Text := "$2a$05$CCCCCCCCCCCCCCCCCCCCC.E5YPO9kmyuRGyh0XouQYb4YMJKvyOeW"

def samplePlatform : Platform where
  toLowerCase := lowerAscii
  newDate _ := Date.newYear.noon
  sha256 := sampleDigest
  compare plain hash := plain = utf16 "U*U" && hash = sampleHash
  refreshTtlDays := 7

def sampleContext : RequestContext := ⟨none, none⟩

/-- A user of one tenant, who holds the first token. -/
def sampleAccounts (status : TenantStatus) : Store where
  tenants := [⟨"T", "Bank", .bank, status⟩]
  users := [⟨"U", "a@b.example", sampleHash, "A", .active, none⟩]
  memberships := [⟨"M", "U", "T", .bankAnalyst, .active, true⟩]
  refreshTokens := [⟨"R", "U", sampleDigest "first", 1000, none, none, none⟩]
  apiKeys := []
  usage := []
  auditLogs := []
  evidence := []
  now := 0
  uuid n := utf16 "E" ++ List.replicate n 0x30
  issued := 0
  token n := if n = 0 then "second" else "third"
  drawn := 0

end Identity
