import Vigiscam.Concurrency.Prog
import Vigiscam.Concurrency.Table
import Vigiscam.EvidenceVault.Service
import Vigiscam.Http
import Vigiscam.Protection.Enums

/-!
# Guardianship (`guardianship.service.ts`)

A guardian asks for a link to a protected user; the protected user grants, declines or
revokes it; and the guardian reads a summary while the link is active. One row of
`guardian_links` is used again for every request of the same pair.
-/

namespace Families

open Js Concurrency EvidenceVault Protection

/-! ## The tables -/

structure User where
  id : Uuid
  email : Text
  fullName : Text
deriving DecidableEq

inductive GuardianLinkStatus where
  | pending | active | declined | revoked
deriving DecidableEq

structure GuardianLink where
  id : Uuid
  tenantId : Uuid
  guardianUserId : Uuid
  protectedUserId : Uuid
  status : GuardianLinkStatus
  scope : List Text
  requestedAt : Date
  consentGrantedAt : Option Date
  consentRevokedAt : Option Date
deriving DecidableEq

/-- The ordered pair that a link is unique for. -/
def GuardianLink.pair (l : GuardianLink) : Uuid × Uuid := (l.guardianUserId, l.protectedUserId)

structure RiskEvent where
  id : Uuid
  userId : Uuid
  eventType : Text
  riskLevel : RiskLevel
  riskScore : Int
  createdAt : Date
deriving DecidableEq

structure Alert where
  userId : Uuid
  readAt : Option Date
deriving DecidableEq

/-- Rows are in the order of their creation. -/
structure Store where
  users : List User
  links : List GuardianLink
  riskEvents : List RiskEvent
  alerts : List Alert
  evidence : List AppendEvidenceInput
  /-- The id that is given out next, after so many. -/
  uuid : Nat → Uuid
  issued : Nat

inductive DbStep where
  | read | createLink | updateLink | appendEvidence
deriving DecidableEq

abbrev Program (α : Type) := Prog Store DbStep HttpError α

/-! ## The calls of the database -/

def read {α : Type} (f : Store → α) : Program α := Prog.act .read .internal fun s => (f s, s)

@[simp] theorem run_read {α : Type} (f : Store → α) (s : Store) :
    (read f).run s = (.ok (f s), s) := rfl

def findLink (id : Uuid) : Program (Option GuardianLink) :=
  read fun s => Table.find GuardianLink.id id s.links

def findPair (pair : Uuid × Uuid) : Program (Option GuardianLink) :=
  read fun s => Table.find GuardianLink.pair pair s.links

def updateLink (id : Uuid) (f : GuardianLink → GuardianLink) : Program GuardianLink :=
  Prog.attempt .updateLink .internal fun s =>
    (Table.find GuardianLink.id id s.links).map fun l =>
      (f l, { s with links := Table.modify GuardianLink.id id f s.links })

/-- `create`, under a fresh id; the id and the pair are unique. -/
def createLink (row : Uuid → GuardianLink) : Program GuardianLink :=
  Prog.attempt .createLink .internal fun s =>
    let l := row (s.uuid s.issued)
    if l.id ∈ s.links.map GuardianLink.id ∨ l.pair ∈ s.links.map GuardianLink.pair then none
    else some (l, { s with links := s.links ++ [l], issued := s.issued + 1 })

def appendEvidence (input : AppendEvidenceInput) : Program Unit :=
  Prog.act .appendEvidence .internal fun s => ((), { s with evidence := s.evidence ++ [input] })

theorem run_updateLink {id : Uuid} {f : GuardianLink → GuardianLink} {l : GuardianLink} {s : Store}
    (h : Table.find GuardianLink.id id s.links = some l) :
    (updateLink id f).run s =
      (.ok (f l), { s with links := Table.modify GuardianLink.id id f s.links }) := by
  refine Prog.run_attempt_some ?_
  rw [h]
  rfl

theorem run_createLink {row : Uuid → GuardianLink} {s : Store}
    (hid : (row (s.uuid s.issued)).id ∉ s.links.map GuardianLink.id)
    (hpair : (row (s.uuid s.issued)).pair ∉ s.links.map GuardianLink.pair) :
    (createLink row).run s = (.ok (row (s.uuid s.issued)),
      { s with links := s.links ++ [row (s.uuid s.issued)], issued := s.issued + 1 }) :=
  Prog.run_attempt_some (if_neg fun h => h.elim hid hpair)

theorem run_createLink_taken {row : Uuid → GuardianLink} {s : Store}
    (h : (row (s.uuid s.issued)).id ∈ s.links.map GuardianLink.id ∨
      (row (s.uuid s.issued)).pair ∈ s.links.map GuardianLink.pair) :
    (createLink row).run s = (.error .internal, s) :=
  Prog.run_attempt_none (if_pos h)

@[simp] theorem run_appendEvidence (input : AppendEvidenceInput) (s : Store) :
    (appendEvidence input).run s = (.ok (), { s with evidence := s.evidence ++ [input] }) := rfl

/-! ## The service -/

def DEFAULT_SCOPE : List Text := ["RISK_OVERVIEW", "ALERTS"]

/-- What an evidence event says about a link. -/
def linkMetadata (link : GuardianLink) : Value :=
  .object [("guardianUserId", .string link.guardianUserId),
    ("protectedUserId", .string link.protectedUserId)]

theorem distinct_linkMetadata (link : GuardianLink) : (linkMetadata link).Distinct := by
  refine ⟨?_, trivial, trivial, trivial⟩
  show List.Nodup [utf16 "guardianUserId", utf16 "protectedUserId"]
  decide

def linkEvidence (link : GuardianLink) (actorId : Uuid) (actorType eventType description : Text)
    (ip : Option Text) : AppendEvidenceInput where
  tenantId := some link.tenantId
  actorId := some actorId
  actorType := some actorType
  entityType := "GUARDIAN_LINK"
  entityId := link.id
  eventType := eventType
  eventDescription := description
  metadata := linkMetadata link
  ipAddress := ip
  deviceId := none
  metadata_distinct := distinct_linkMetadata link

def logEvidence (link : GuardianLink) (actorId : Uuid) (actorType eventType description : Text)
    (ip : Option Text) : Program Unit :=
  appendEvidence (linkEvidence link actorId actorType eventType description ip)

/-- A link that is asked for again. -/
def GuardianLink.reopen (now : Date) (l : GuardianLink) : GuardianLink :=
  { l with
    status := .pending
    scope := DEFAULT_SCOPE
    requestedAt := now
    consentGrantedAt := none
    consentRevokedAt := none }

/-- The link that a first request creates. -/
def newLink (now : Date) (guardian : AuthenticatedUser) (protectedUserId id : Uuid) :
    GuardianLink where
  id := id
  tenantId := guardian.tenantId
  guardianUserId := guardian.userId
  protectedUserId := protectedUserId
  status := .pending
  scope := DEFAULT_SCOPE
  requestedAt := now
  consentGrantedAt := none
  consentRevokedAt := none

/-- `toLowerCase` is left open: nothing here depends on it. -/
def requestGuardianship (toLowerCase : Text → Text) (now : Date) (guardian : AuthenticatedUser)
    (protectedUserEmail : Text) (ip : Option Text) : Program GuardianLink := do
  let email := trim (toLowerCase protectedUserEmail)
  match ← read fun s => Table.find User.email email s.users with
  | none => throw (.notFound "No VIGISCAM account with that email")
  | some protectedUser =>
    if protectedUser.id = guardian.userId then
      throw (.badRequest "You cannot request guardianship of your own account")
    else
      match ← findPair (guardian.userId, protectedUser.id) with
      | some existing =>
        if existing.status = .pending ∨ existing.status = .active then
          throw (.conflict "A guardianship request already exists for this person")
        else
          -- a declined or revoked link is taken up again, so that the pair keeps its one row
          let link ← updateLink existing.id (GuardianLink.reopen now)
          logEvidence link guardian.userId "USER" "GUARDIANSHIP_REQUESTED"
            "Guardianship requested; awaiting protected-user consent" ip
          return link
      | none =>
        let link ← createLink (newLink now guardian protectedUser.id)
        logEvidence link guardian.userId "USER" "GUARDIANSHIP_REQUESTED"
          "Guardianship requested; awaiting protected-user consent" ip
        return link

def requireProtectedUserLink (user : AuthenticatedUser) (id : Uuid) : Program GuardianLink := do
  match ← findLink id with
  | none => throw (.notFound "Guardianship request not found")
  | some link =>
    if link.protectedUserId ≠ user.userId then
      throw (.notFound "Guardianship request not found")
    else return link

/-- A change of consent by the protected user: the status it asks for and the refusal of
any other, what it writes, and the evidence it leaves. -/
structure ConsentChange where
  expected : GuardianLinkStatus
  refusal : Text
  write : Date → GuardianLink → GuardianLink
  eventType : Text
  description : Text

def changeConsent (change : ConsentChange) (now : Date) (user : AuthenticatedUser) (id : Uuid)
    (ip : Option Text) : Program GuardianLink := do
  let link ← requireProtectedUserLink user id
  if link.status ≠ change.expected then throw (.badRequest change.refusal)
  else
    let updated ← updateLink id (change.write now)
    logEvidence updated user.userId "USER" change.eventType change.description ip
    return updated

def consentGranted : ConsentChange where
  expected := .pending
  refusal := "This guardianship request is not pending"
  write now l := { l with status := .active, consentGrantedAt := some now }
  eventType := "CONSENT_GRANTED"
  description := "Protected user granted monitoring consent"

def consentDeclined : ConsentChange where
  expected := .pending
  refusal := "This guardianship request is not pending"
  write _ l := { l with status := .declined }
  eventType := "CONSENT_DECLINED"
  description := "Protected user declined the guardianship request"

def consentRevoked : ConsentChange where
  expected := .active
  refusal := "This guardianship is not active"
  write now l := { l with status := .revoked, consentRevokedAt := some now }
  eventType := "CONSENT_REVOKED"
  description := "Protected user revoked monitoring consent"

/-- The protected user grants consent — the only thing that activates monitoring. -/
def grantConsent := changeConsent consentGranted

def declineConsent := changeConsent consentDeclined

/-- The protected user revokes consent — monitoring stops immediately. -/
def revokeConsent := changeConsent consentRevoked

/-- What a guardian sees of a risk event. -/
structure RiskEventSummary where
  id : Uuid
  eventType : Text
  riskLevel : RiskLevel
  riskScore : Int
  createdAt : Date
deriving DecidableEq

def RiskEvent.summary (r : RiskEvent) : RiskEventSummary where
  id := r.id
  eventType := r.eventType
  riskLevel := r.riskLevel
  riskScore := r.riskScore
  createdAt := r.createdAt

/-- What a guardian sees. -/
structure ProtectedSummary where
  protectedUser : Uuid × Text
  scope : List Text
  consentGrantedAt : Option Date
  openAlerts : Nat
  recentRiskEvents : List RiskEventSummary
deriving DecidableEq

/-- The newest ten risk events of a user. -/
def recentRiskEvents (s : Store) (userId : Uuid) : List RiskEvent :=
  (s.riskEvents.filter (·.userId = userId)).reverse.take 10

/-- The number of unread alerts of a user. -/
def openAlerts (s : Store) (userId : Uuid) : Nat :=
  s.alerts.countP fun a => a.userId = userId ∧ a.readAt = none

/-- A guardian views a protected user's summary. Allowed ONLY while consent is ACTIVE, and
every access is written to the Evidence Vault. -/
def getProtectedSummary (guardian : AuthenticatedUser) (id : Uuid) (ip : Option Text) :
    Program ProtectedSummary := do
  match ← findLink id with
  | none => throw (.notFound "Guardianship not found")
  | some link =>
    if link.guardianUserId ≠ guardian.userId then throw (.notFound "Guardianship not found")
    else
      -- `include: { protectedUser: true }`, which the foreign key makes sure of
      match ← read fun s => Table.find User.id link.protectedUserId s.users with
      | none => throw .internal
      | some protectedUser =>
        if link.status ≠ .active then
          throw (.denied
            "Monitoring is not active — consent was not granted or has been revoked")
        else
          let events ← read fun s => recentRiskEvents s link.protectedUserId
          let alerts ← read fun s => openAlerts s link.protectedUserId
          logEvidence link guardian.userId "GUARDIAN" "GUARDIAN_ACCESSED_PROTECTED_USER"
            "Guardian viewed the protected user's risk summary" ip
          return {
            protectedUser := (protectedUser.id, protectedUser.fullName)
            scope := link.scope
            consentGrantedAt := link.consentGrantedAt
            openAlerts := alerts
            recentRiskEvents := events.map RiskEvent.summary }

end Families
