import Vigiscam.Concurrency.Part
import Vigiscam.RiskFusion.Service

/-!
# Monitored sessions (`sessions.service.ts`)

A session is started and ended by its user. The rows are those that FreezeLock flags, and so the
store of the risk hub is a part of the store here.
-/

namespace Sessions

open Js Value Concurrency EvidenceVault
open RiskFusion (Session SessionType)

structure Device where
  id : Uuid
  userId : Uuid

structure Store where
  hub : RiskFusion.Store
  devices : List Device
  now : Date

inductive SessionStep where
  | read | create | update | clock
  /-- A step of the risk hub. -/
  | hub (l : RiskFusion.DbStep)

abbrev Program (α : Type) := Prog Store SessionStep HttpError α

def hubPart : Part Store RiskFusion.Store where
  get := Store.hub
  set hub s := { s with hub }
  set_get _ := rfl
  get_set _ _ := rfl

def read {α : Type} (f : Store → α) : Program α := Prog.act .read .internal fun s => (f s, s)

/-- A new session, under the next id. -/
def addSession (hub : RiskFusion.Store) (row : Session) : RiskFusion.Store :=
  { hub with
    sessions := hub.sessions ++ [row]
    issued := hub.issued + 1
    riskEvents_issued := hub.not_mem_riskEvents
    freezeLockEvents_issued := hub.not_mem_freezeLockEvents }

/-- `session.create`; it throws where the id is taken. -/
def createSession (row : Date → Uuid → Session) : Program Session :=
  Prog.attempt .create .internal fun s =>
    let session := row s.now (s.hub.uuid s.hub.issued)
    if session.id ∈ s.hub.sessions.map Session.id then none
    else some (session, { s with hub := addSession s.hub session })

/-- `session.update` of one row; it throws when there is no such row. -/
def updateSession (id : Uuid) (f : Date → Session → Session) : Program Session :=
  Prog.attempt .update .internal fun s =>
    (Table.find Session.id id s.hub.sessions).map fun row =>
      (f s.now row, { s with
        hub := { s.hub with
          sessions := Table.modify Session.id id (f s.now) s.hub.sessions } })

/-! ## The evidence -/

/-- An evidence event of a session. -/
def sessionEvidence (user : AuthenticatedUser) (session : Session) (eventType description : Text)
    (deviceId : Option Uuid) : AppendEvidenceInput where
  tenantId := some user.tenantId
  actorId := some user.userId
  actorType := some "USER"
  entityType := "SESSION"
  entityId := session.id
  eventType := eventType
  eventDescription := description
  metadata := undefined
  ipAddress := none
  deviceId := deviceId
  metadata_distinct := trivial

def appendEvidence (input : AppendEvidenceInput) : Program Unit :=
  (RiskFusion.appendEvidence input).onPart hubPart .hub

/-! ## The service -/

structure StartSessionDto where
  type : SessionType
  deviceId : Option Uuid

/-- The row of a new session. -/
def newSession (user : AuthenticatedUser) (dto : StartSessionDto) (now : Date) (id : Uuid) :
    Session where
  id := id
  userId := user.userId
  tenantId := user.tenantId
  deviceId := dto.deviceId
  type := dto.type
  status := .active
  riskScore := 0
  startedAt := now
  endedAt := none

/-- A device that is named is the user's. -/
def requireDevice (user : AuthenticatedUser) (deviceId : Option Uuid) : Program Unit :=
  match present deviceId with
  | none => pure ()
  | some deviceId => do
    match ← read fun s => Table.find Device.id deviceId s.devices with
    | none => throw (.notFound "Device not found")
    | some device =>
      if device.userId = user.userId then pure () else throw (.notFound "Device not found")

def start (user : AuthenticatedUser) (dto : StartSessionDto) : Program Session := do
  requireDevice user dto.deviceId
  let session ← createSession (newSession user dto)
  appendEvidence (sessionEvidence user session "SESSION_STARTED"
    (session.type.name ++ utf16 " session started") dto.deviceId)
  return session

def requireOwnedSession (user : AuthenticatedUser) (id : Uuid) : Program Session := do
  match ← read fun s => Table.find Session.id id s.hub.sessions with
  | none => throw (.notFound "Session not found")
  | some session =>
    if session.userId = user.userId then return session
    else throw (.notFound "Session not found")

/-- The columns of an end. -/
def endedRow (now : Date) (row : Session) : Session :=
  { row with status := .ended, endedAt := some now }

def endSession (user : AuthenticatedUser) (id : Uuid) : Program Session := do
  let session ← requireOwnedSession user id
  if session.status = .ended then return session
  else
    let ended ← updateSession id endedRow
    appendEvidence (sessionEvidence user ended "SESSION_ENDED"
      (ended.type.name ++ utf16 " session ended") none)
    return ended

/-- `FreezeLockService.trigger`. -/
def trigger (user : AuthenticatedUser) (input : RiskFusion.FreezeLockService.FreezeLockTrigger)
    (ip : Option Text) : Program RiskFusion.FreezeLockEvent :=
  (RiskFusion.FreezeLockService.trigger user input ip).onPart hubPart .hub

end Sessions
