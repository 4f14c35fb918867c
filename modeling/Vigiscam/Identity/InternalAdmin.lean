import Vigiscam.Identity.Auth

/-!
# Staff roles (`internal-admin.service.ts`)

Staff hold their role by a membership of the one internal tenant. Super admins grant, change and
revoke these roles; each method checks what it read before it writes.
-/

namespace Identity

open Js Concurrency EvidenceVault

/-- The tenant of the staff. -/
def INTERNAL_TENANT_ID : Uuid := "11111111-1111-4111-8111-111111111111"

/-- The roles that staff may be given. -/
inductive InternalRole where
  | superAdmin | reviewer | complianceOfficer | support
deriving DecidableEq

def InternalRole.membershipRole : InternalRole → MembershipRole
  | superAdmin => .superAdmin
  | reviewer => .reviewer
  | complianceOfficer => .complianceOfficer
  | support => .support

/-- The name of a role in the database. -/
def roleName : MembershipRole → Text
  | .individual => "INDIVIDUAL"
  | .familyGuardian => "FAMILY_GUARDIAN"
  | .protectedUser => "PROTECTED_USER"
  | .bankAdmin => "BANK_ADMIN"
  | .bankAnalyst => "BANK_ANALYST"
  | .platformAdmin => "PLATFORM_ADMIN"
  | .platformModerator => "PLATFORM_MODERATOR"
  | .investigator => "INVESTIGATOR"
  | .agencyAnalyst => "AGENCY_ANALYST"
  | .enterpriseAdmin => "ENTERPRISE_ADMIN"
  | .superAdmin => "SUPER_ADMIN"
  | .reviewer => "REVIEWER"
  | .complianceOfficer => "COMPLIANCE_OFFICER"
  | .support => "SUPPORT"

structure GrantInternalRoleDto where
  email : Text
  role : InternalRole

structure ChangeInternalRoleDto where
  role : InternalRole

def sampleAdmin (userId : Uuid) : AuthenticatedUser where
  userId := userId
  tenantId := INTERNAL_TENANT_ID
  role := .superAdmin

/-! ## Parts of the service -/

/-- An active super admin of the staff. -/
def Membership.IsSuperAdmin (m : Membership) : Prop :=
  m.tenantId = INTERNAL_TENANT_ID ∧ m.role = .superAdmin ∧ m.status = .active

instance (m : Membership) : Decidable m.IsSuperAdmin :=
  inferInstanceAs (Decidable (_ ∧ _ ∧ _))

/-- How many active super admins there are beside the membership. -/
def remainingSuperAdmins (excludeMembershipId : Uuid) (s : Store) : Nat :=
  s.memberships.countP fun m => m.IsSuperAdmin ∧ m.id ≠ excludeMembershipId

/-- Refuse any change that would leave no active super admin. -/
def assertNotLastSuperAdmin (excludeMembershipId : Uuid) : Program Unit := do
  let remaining ← read (remainingSuperAdmins excludeMembershipId)
  if remaining = 0 then
    throw (.badRequest "Cannot remove or demote the last active SUPER_ADMIN")

def requireInternalMembership (id : Uuid) : Program Membership := do
  match ← read fun s => Table.find Membership.id id s.memberships with
  | none => throw (.notFound "Internal staff membership not found")
  | some membership =>
    if membership.tenantId ≠ INTERNAL_TENANT_ID then
      throw (.notFound "Internal staff membership not found")
    else return membership

/-- The memberships after the update of one of them, where it is there. -/
def changed (id : Uuid) (change : MembershipChange) (memberships : List Membership) :
    Option (Membership × List Membership) :=
  (Table.find Membership.id id memberships).map fun membership =>
    (change.apply membership, Table.modify Membership.id id change.apply memberships)

/-- `membership.update` by id; it throws when there is no such row. -/
def updateMembership (id : Uuid) (change : MembershipChange) : Program Membership :=
  Prog.attempt (.membership id change) .internal fun s =>
    (changed id change s.memberships).map fun r => (r.1, { s with memberships := r.2 })

/-- No membership of the user is primary. -/
def clearPrimary (userId : Uuid) (memberships : List Membership) : List Membership :=
  Table.modify Membership.userId userId (fun m => { m with isPrimary := false }) memberships

/-- The transaction of a grant. A user has one membership of a tenant. -/
def grantMembership (existing : Option Membership) (userId : Uuid) (role : MembershipRole) :
    Program Membership :=
  match existing with
  | some existing =>
    Prog.attempt (.membership existing.id (.granted role)) .internal fun s =>
      (changed existing.id (.granted role) (clearPrimary userId s.memberships)).map fun r =>
        (r.1, { s with memberships := r.2 })
  | none =>
    Prog.attempt .create .internal fun s =>
      if s.memberships.any fun m => m.userId = userId ∧ m.tenantId = INTERNAL_TENANT_ID then none
      else
        let membership : Membership := {
          id := s.issue.1
          userId := userId
          tenantId := INTERNAL_TENANT_ID
          role := role
          status := .active
          isPrimary := true }
        some (membership, { s.issue.2 with
          memberships := clearPrimary userId s.memberships ++ [membership] })

/-- What an evidence entry records of a role. -/
def roleMetadata (role : MembershipRole) : Value := .object [("role", .string (roleName role))]

theorem distinct_roleMetadata (role : MembershipRole) : (roleMetadata role).Distinct :=
  ⟨List.nodup_singleton _, trivial, trivial⟩

def logEvidence (admin : AuthenticatedUser) (targetUserId : Uuid) (eventType description : Text)
    (role : MembershipRole) (ctx : RequestContext) : Program Unit :=
  appendEvidence {
    tenantId := some INTERNAL_TENANT_ID
    actorId := some admin.userId
    actorType := some "ADMIN"
    entityType := "USER"
    entityId := targetUserId
    eventType := eventType
    eventDescription := description
    metadata := roleMetadata role
    ipAddress := ctx.ip
    deviceId := none
    metadata_distinct := distinct_roleMetadata role }

/-! ## The service -/

/-- Grant an internal role to an existing account. -/
def grantRole (p : Platform) (admin : AuthenticatedUser) (dto : GrantInternalRoleDto)
    (ctx : RequestContext) : Program Membership := do
  let email := trim (p.toLowerCase dto.email)
  match ← read fun s => Table.find User.email email s.users with
  | none => throw (.notFound
      "No VIGISCAM account with that email — the person must register an account first")
  | some user =>
    let existing ← read fun s => s.memberships.find? fun m =>
      m.userId = user.id ∧ m.tenantId = INTERNAL_TENANT_ID
    if existing.any fun m => m.status = .active then
      throw (.conflict "This account already holds an internal role — change the role instead")
    else
      let role := dto.role.membershipRole
      let membership ← grantMembership existing user.id role
      logEvidence admin user.id "INTERNAL_ROLE_GRANTED"
        ("Internal role " ++ roleName role ++ " granted to " ++ email) role ctx
      return membership

/-- Change the role of an existing internal staff membership. -/
def changeRole (admin : AuthenticatedUser) (membershipId : Uuid) (dto : ChangeInternalRoleDto)
    (ctx : RequestContext) : Program Membership := do
  let membership ← requireInternalMembership membershipId
  let newRole := dto.role.membershipRole
  if membership.role = newRole then
    throw (.badRequest ("This membership already holds the " ++ roleName newRole ++ " role"))
  else if membership.userId = admin.userId ∧ newRole ≠ .superAdmin then
    throw (.badRequest "You cannot demote your own SUPER_ADMIN role")
  else
    if membership.role = .superAdmin ∧ newRole ≠ .superAdmin then
      assertNotLastSuperAdmin membership.id
    let updated ← updateMembership membership.id (.role newRole)
    logEvidence admin membership.userId "INTERNAL_ROLE_CHANGED"
      ("Internal role changed from " ++ roleName membership.role ++ " to " ++ roleName newRole)
      newRole ctx
    return updated

/-- Revoke an internal staff membership. -/
def revokeRole (admin : AuthenticatedUser) (membershipId : Uuid) (ctx : RequestContext) :
    Program Membership := do
  let membership ← requireInternalMembership membershipId
  if membership.userId = admin.userId then
    throw (.badRequest "You cannot revoke your own internal role")
  else if membership.status ≠ .active then
    throw (.badRequest "This internal membership is not active")
  else
    if membership.role = .superAdmin then
      assertNotLastSuperAdmin membership.id
    let updated ← updateMembership membership.id .removed
    logEvidence admin membership.userId "INTERNAL_ROLE_REVOKED"
      ("Internal role " ++ roleName membership.role ++ " revoked") membership.role ctx
    return updated

end Identity
