import Vigiscam.Checks.Service
import Vigiscam.Concurrency.Part
import Vigiscam.ScamMirror.Sanitizer

/-!
# Training sessions (`scammirror.service.ts`)

A user plays a scam conversation in a session, whose row has the whole transcript. `recordInput`
reads the row, and writes it back with one turn more; a text that `sanitize` rejects closes the
session instead, and pulls a Guardian Pause. `endSession` is the `end` of the source.
-/

namespace ScamMirror

open Js Value Concurrency EvidenceVault Protection
open Checks (GuardianPauseService.StartPauseDto graphPart)

/-! ## Tables -/

inductive ScamMirrorPersona where
  | techSupport | bankImpersonation | romance | government | investment | inheritance | employer
  | other
deriving DecidableEq

def ScamMirrorPersona.name : ScamMirrorPersona → Text
  | .techSupport => "TECH_SUPPORT"
  | .bankImpersonation => "BANK_IMPERSONATION"
  | .romance => "ROMANCE"
  | .government => "GOVERNMENT"
  | .investment => "INVESTMENT"
  | .inheritance => "INHERITANCE"
  | .employer => "EMPLOYER"
  | .other => "OTHER"

inductive ScamMirrorStatus where
  | active | endedLearned | endedAbandoned | abortedRealCreds
deriving DecidableEq

def ScamMirrorStatus.name : ScamMirrorStatus → Text
  | .active => "ACTIVE"
  | .endedLearned => "ENDED_LEARNED"
  | .endedAbandoned => "ENDED_ABANDONED"
  | .abortedRealCreds => "ABORTED_REAL_CREDS"

inductive TurnRole where
  | user | scammer
deriving DecidableEq

def TurnRole.name : TurnRole → Text
  | .user => "USER"
  | .scammer => "SCAMMER"

/-- One turn of a transcript; `time` is the field `at` of the source. -/
structure Turn where
  turn : Nat
  role : TurnRole
  text : Text
  tacticsDetected : List Tactic
  time : Text
deriving DecidableEq

/-- A row of `scam_mirror_sessions`; `turns` is `none` where the column holds no array. -/
structure ScamMirrorSession where
  id : Uuid
  userId : Uuid
  tenantId : Option Uuid
  persona : ScamMirrorPersona
  scenario : Text
  turns : Option (List Turn)
  tacticsObserved : List Tactic
  status : ScamMirrorStatus
  startedAt : Date
  endedAt : Option Date
  endReason : Option Text
  guardianPauseEventId : Option Uuid
  evidenceEventId : Option Uuid
  metadata : Value

/-- Pauses, evidence and the fraud graph are where the checks have them. -/
structure Store where
  sessions : List ScamMirrorSession
  checks : Checks.Store

/-- What closes a session or writes its transcript says which session it was meant for, and a
write of the transcript what its call has read of it. -/
inductive DbStep where
  | clock | find | create
  | record (id : Uuid) (existingTurns : List Turn) (turn : Turn)
  | close (id : Uuid)
  | link (id : Uuid)
  | checks (l : Checks.DbStep)

abbrev Program (α : Type) := Prog Store DbStep HttpError α

def checksPart : Part Store Checks.Store where
  get := Store.checks
  set checks s := { s with checks }
  set_get _ := rfl
  get_set _ _ := rfl

/-! ## The calls of the database -/

/-- `new Date()`. -/
def readClock : Program Date := Prog.act .clock .internal fun s => (s.checks.now, s)

/-- The session of an id, if it is of the user. -/
def findFirst (sessionId userId : Uuid) : Program (Option ScamMirrorSession) :=
  Prog.act .find .internal fun s =>
    (s.sessions.find? fun row => row.id = sessionId ∧ row.userId = userId, s)

/-- A new session, under the next id. -/
def createSession (row : Date → Uuid → ScamMirrorSession) : Program ScamMirrorSession :=
  Prog.act .create .internal fun s =>
    (row s.checks.now (s.checks.uuid s.checks.issued), {
      sessions := s.sessions ++ [row s.checks.now (s.checks.uuid s.checks.issued)]
      checks := { s.checks with
        issued := s.checks.issued + 1
        events_issued := fun m n hn => s.checks.events_issued m n (by omega) } })

/-- `update`, of the row where it is still there. -/
def updateSession (l : DbStep) (id : Uuid) (f : ScamMirrorSession → ScamMirrorSession) :
    Program ScamMirrorSession :=
  Prog.attempt l .internal fun s =>
    (Table.find ScamMirrorSession.id id s.sessions).map fun row =>
      (f row, { s with sessions := Table.modify ScamMirrorSession.id id f s.sessions })

/-- `evidence.append`. -/
def appendEvidence (input : AppendEvidenceInput) : Program Uuid :=
  (Checks.appendEvidence input).onPart checksPart .checks

/-! ## `start` -/

structure StartSessionDto where
  persona : ScamMirrorPersona
  scenario : Text
  metadata : Value

def newSession (user : AuthenticatedUser) (dto : StartSessionDto) (now : Date) (id : Uuid) :
    ScamMirrorSession where
  id := id
  userId := user.userId
  tenantId := some user.tenantId
  persona := dto.persona
  scenario := dto.scenario
  turns := some []
  tacticsObserved := []
  status := .active
  startedAt := now
  endedAt := none
  endReason := none
  guardianPauseEventId := none
  evidenceEventId := none
  metadata := readBack dto.metadata

def start (user : AuthenticatedUser) (dto : StartSessionDto) : Program ScamMirrorSession :=
  createSession (newSession user dto)

/-! ## `recordInput` -/

/-- A column that holds no array reads as the empty transcript. -/
def readTurns (session : ScamMirrorSession) : List Turn := session.turns.getD []

def requireActiveSession (user : AuthenticatedUser) (sessionId : Uuid) :
    Program ScamMirrorSession := do
  let session ← findFirst sessionId user.userId
  match session with
  | none => throw (.notFound "ScamMirror session not found")
  | some session =>
    if session.status ≠ .active then
      throw (.badRequest (utf16 "Session already ended (" ++ session.status.name ++ utf16 ")"))
    return session

/-- `status`, `endedAt` and `endReason`. -/
def ScamMirrorSession.closed (status : ScamMirrorStatus) (endedAt : Date) (endReason : Text)
    (row : ScamMirrorSession) : ScamMirrorSession :=
  { row with status, endedAt := some endedAt, endReason := some endReason }

def sessionEvidence (user : AuthenticatedUser) (session : ScamMirrorSession)
    (status : ScamMirrorStatus) (eventDescription : Text) (metadata : Value)
    (h : metadata.Distinct) : AppendEvidenceInput :=
  userEvidence user "SCAMMIRROR_SESSION" session.id (utf16 "SCAMMIRROR_" ++ status.name)
    eventDescription metadata h

def abortedMetadata (session : ScamMirrorSession) (reason : SanitizerReason) : Value :=
  object [("reason", string reason.name), ("persona", string session.persona.name)]

theorem distinct_abortedMetadata (session : ScamMirrorSession) (reason : SanitizerReason) :
    (abortedMetadata session reason).Distinct := by
  refine ⟨?_, trivial, trivial, trivial⟩
  show List.Nodup [utf16 "reason", utf16 "persona"]
  decide

/-- The reason is logged, and not the text. -/
def abortedEvidence (user : AuthenticatedUser) (session : ScamMirrorSession)
    (reason : SanitizerReason) : AppendEvidenceInput :=
  sessionEvidence user session .abortedRealCreds
    (utf16 "ScamMirror aborted — real " ++ reason.name ++ utf16 " detected in input")
    (abortedMetadata session reason) (distinct_abortedMetadata session reason)

/-- The pause of an aborted session. -/
def abortedPause (session : ScamMirrorSession) (reason : SanitizerReason) :
    GuardianPauseService.StartPauseDto where
  riskLevel := .high
  triggerType := .secrecy
  triggerSummary :=
    "You typed a real credential into a training simulation. Take a moment."
  durationSeconds := some 90
  metadata := object [("scamMirrorSessionId", string session.id),
    ("sanitizerReason", string reason.name)]

def abortForRealCreds (user : AuthenticatedUser) (session : ScamMirrorSession)
    (reason : SanitizerReason) : Program ScamMirrorSession := do
  let now ← readClock
  let aborted ← updateSession (.close session.id) session.id
    (.closed .abortedRealCreds now (utf16 "Sanitizer rejected input — " ++ reason.name))
  let evidenceEventId ← appendEvidence (abortedEvidence user session reason)
  let pause ← (Checks.GuardianPauseService.start user (abortedPause session reason)).onPart
    checksPart .checks
  updateSession (.link aborted.id) aborted.id fun row =>
    { row with evidenceEventId := some evidenceEventId, guardianPauseEventId := some pause.id }

structure RecordInputDto where
  role : TurnRole
  text : Text

def newTurn (existingTurns : List Turn) (dto : RecordInputDto) (now : Date) : Turn where
  turn := existingTurns.length + 1
  role := dto.role
  text := dto.text
  tacticsDetected := detectTactics dto.text
  time := now.toISOString

/-- The transcript as it was read with one turn more, and the tactics with those of the turn. -/
def ScamMirrorSession.recorded (session : ScamMirrorSession) (turn : Turn)
    (row : ScamMirrorSession) : ScamMirrorSession :=
  { row with
    turns := some (readTurns session ++ [turn])
    tacticsObserved := (session.tacticsObserved ++ turn.tacticsDetected).eraseDups }

def recordInput (user : AuthenticatedUser) (sessionId : Uuid) (dto : RecordInputDto) :
    Program ScamMirrorSession := do
  let session ← requireActiveSession user sessionId
  match sanitize dto.text with
  | .rejected reason => abortForRealCreds user session reason
  | .ok =>
    let now ← readClock
    let turn := newTurn (readTurns session) dto now
    updateSession (.record session.id (readTurns session) turn) session.id (session.recorded turn)

/-! ## `end` -/

def endStatus (learned : Bool) : ScamMirrorStatus :=
  if learned then .endedLearned else .endedAbandoned

def endReasonOf (learned : Bool) : Text :=
  if learned then "User completed the simulation" else "User abandoned"

def endedMetadata (session ended : ScamMirrorSession) : Value :=
  object [("persona", string session.persona.name),
    ("tacticsObserved", array (ended.tacticsObserved.map (string ·.name))),
    ("turnCount", number (.ofInt (readTurns ended).length))]

theorem distinctItems_strings {α : Type} (f : α → Text) (l : List α) :
    DistinctItems (l.map (string <| f ·)) := by
  induction l with
  | nil => trivial
  | cons a l ih => exact ⟨trivial, ih⟩

theorem distinct_endedMetadata (session ended : ScamMirrorSession) :
    (endedMetadata session ended).Distinct := by
  refine ⟨?_, trivial, distinctItems_strings Tactic.name ended.tacticsObserved, trivial, trivial⟩
  show List.Nodup [utf16 "persona", utf16 "tacticsObserved", utf16 "turnCount"]
  decide

def endedEvidence (user : AuthenticatedUser) (session ended : ScamMirrorSession)
    (learned : Bool) : AppendEvidenceInput :=
  sessionEvidence user session (endStatus learned)
    (utf16 "ScamMirror " ++ session.persona.name ++ utf16 " session "
      ++ lowerAscii (endStatus learned).name)
    (endedMetadata session ended) (distinct_endedMetadata session ended)

section End

variable (toLowerCase : Text → Text)

/-- Project the learned tactics onto the fraud graph; a failure is only logged. -/
def projectTactics : List Tactic → Program Unit
  | [] => pure ()
  | tactic :: tactics => do
    tryCatch (do
        let _ ← ((FraudGraph.recordNode toLowerCase {
          indicatorType := .scamPhrase
          indicatorValue := tactic.name
          category := some "SCRIPT_PATTERN"
          riskScore := none }).onPart graphPart .graph).onPart checksPart .checks
        return ())
      fun _ => pure ()
    projectTactics tactics

def endSession (user : AuthenticatedUser) (sessionId : Uuid) (learned : Bool) :
    Program ScamMirrorSession := do
  let session ← requireActiveSession user sessionId
  let now ← readClock
  let ended ← updateSession (.close session.id) session.id
    (.closed (endStatus learned) now (endReasonOf learned))
  let evidenceEventId ← appendEvidence (endedEvidence user session ended learned)
  if learned then
    projectTactics toLowerCase ended.tacticsObserved
  updateSession (.link session.id) session.id fun row =>
    { row with evidenceEventId := some evidenceEventId }

end End

end ScamMirror
