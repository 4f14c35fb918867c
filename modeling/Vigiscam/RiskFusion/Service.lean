import Vigiscam.Concurrency.Prog
import Vigiscam.Concurrency.Table
import Vigiscam.Protection.Enforcement

/-!
# The risk hub (`risk.service.ts`, `risk.scoring.ts`, `freezelock.service.ts`)

`createRiskEvent` scores the signals of a user and stores them as a risk event, with an
evidence event. A serious one raises an alert, and a critical one fires FreezeLock, an
intervention with evidence and an alert of its own. Each write is a step, and no transaction
is around them.
-/

namespace RiskFusion

open Js Value Concurrency EvidenceVault Protection
open Protection.ProtectionEnforcementService (stringArray distinct_stringArray)

/-! ## Scoring -/

def SIGNAL_WEIGHTS : List (Text × Int) := [
  ("REMOTE_ACCESS", 25),
  ("GIFT_CARD_REQUEST", 25),
  ("CRYPTO_TRANSFER", 20),
  ("WALLET_SWITCH", 20),
  ("FAKE_AUTHORITY", 20),
  ("THREAT_LANGUAGE", 20),
  ("URGENCY", 15),
  ("SECRECY", 15),
  ("ROMANCE_PRESSURE", 15),
  ("PAYMENT_PRESSURE", 15),
  ("ISOLATION", 15),
  ("ELDER_TARGETED", 10),
  -- FREEZEGUARD technical-takeover signals
  ("DEVICE_COMPROMISE", 25),
  ("REMOTE_INPUT", 20),
  ("CLIPBOARD_HIJACK", 20),
  ("SCREEN_SHARE", 15),
  ("SUSPICIOUS_BROWSER", 10)]

def UNKNOWN_SIGNAL_WEIGHT : Int := 5

/-- The names that every object inherits. -/
def inheritedNames : List Text :=
  ["constructor", "__defineGetter__", "__defineSetter__", "hasOwnProperty", "__lookupGetter__",
    "__lookupSetter__", "isPrototypeOf", "propertyIsEnumerable", "toString", "valueOf",
    "__proto__", "toLocaleString"]

/-- `SIGNAL_WEIGHTS[signal] ?? UNKNOWN_SIGNAL_WEIGHT`; an inherited name gives an object. -/
def signalWeight (signal : Text) : Option Int :=
  match SIGNAL_WEIGHTS.find? (·.1 = signal) with
  | some (_, weight) => some weight
  | none => if signal ∈ inheritedNames then none else some UNKNOWN_SIGNAL_WEIGHT

/-- The sum of the weights, in the range 0 to 100. A sum with an object in it is a text, and
its score is NaN: `none`. -/
def scoreSignals (signals : List Text) : Option Int :=
  (signals.mapM signalWeight).map fun weights => min 100 (max 0 weights.sum)

/-- NaN is below every bound. -/
def levelForScore : Option Int → RiskLevel
  | none => .low
  | some score =>
    if 86 ≤ score then .critical
    else if 61 ≤ score then .high
    else if 31 ≤ score then .medium
    else .low

def recommendedActionForLevel : RiskLevel → Text
  | .critical => "TRIGGER_INTERVENTION"
  | .high => "REQUIRE_VERIFICATION"
  | .medium => "WARN_USER"
  | .low => "MONITOR"

/-! ## The tables -/

inductive RiskModuleSource where
  | riskFusion | freezeGuard | a1ScamShield | guardianPause | scamHold | giftCardGuard
  | walletGuard | claimVerify | manual
deriving DecidableEq

inductive RiskEventStatus where
  | open | intervening | resolved | dismissed
deriving DecidableEq

structure RiskEvent where
  id : Uuid
  tenantId : Uuid
  userId : Uuid
  sessionId : Option Uuid
  moduleSource : RiskModuleSource
  eventType : Text
  riskScore : Int
  riskLevel : RiskLevel
  status : RiskEventStatus
  triggerReason : Text
  recommendedAction : Text
  detectedSignals : List Text
  metadata : Value

structure FreezeLockEvent where
  id : Uuid
  tenantId : Uuid
  userId : Uuid
  riskEventId : Option Uuid
  sessionId : Option Uuid
  trigger : Text
  actions : List Text

inductive AlertSeverity where
  | info | warning | high | critical
deriving DecidableEq

structure Alert where
  tenantId : Uuid
  userId : Uuid
  riskEventId : Option Uuid
  type : Text
  severity : AlertSeverity
  title : Text
  message : Text

inductive SessionType where
  | liveCall | video | remoteDesktop | browser | screenShare
deriving DecidableEq

def SessionType.name : SessionType → Text
  | .liveCall => "LIVE_CALL"
  | .video => "VIDEO"
  | .remoteDesktop => "REMOTE_DESKTOP"
  | .browser => "BROWSER"
  | .screenShare => "SCREEN_SHARE"

inductive SessionStatus where
  | active | ended | flagged
deriving DecidableEq

/-- A monitored session. -/
structure Session where
  id : Uuid
  userId : Uuid
  tenantId : Uuid
  deviceId : Option Uuid
  type : SessionType
  status : SessionStatus
  riskScore : Int
  startedAt : Date
  endedAt : Option Date

/-- Rows are in the order of their creation. No row has an id that is still to be given out. -/
structure Store where
  riskEvents : List RiskEvent
  freezeLockEvents : List FreezeLockEvent
  alerts : List Alert
  sessions : List Session
  evidence : List AppendEvidenceInput
  /-- The id that is given out next, after so many. -/
  uuid : Nat → Uuid
  issued : Nat
  uuid_injective : Function.Injective uuid
  riskEvents_issued : ∀ n, issued ≤ n → uuid n ∉ riskEvents.map RiskEvent.id
  freezeLockEvents_issued : ∀ n, issued ≤ n → uuid n ∉ freezeLockEvents.map FreezeLockEvent.id

inductive DbStep where
  | createRiskEvent | updateRiskEvent | createFreezeLockEvent | updateSessions | createAlert
  | appendEvidence
deriving DecidableEq

abbrev Program (α : Type) := Prog Store DbStep HttpError α

theorem Store.not_mem_riskEvents (s : Store) (n : Nat) (hn : s.issued + 1 ≤ n) :
    s.uuid n ∉ s.riskEvents.map RiskEvent.id :=
  s.riskEvents_issued n (by omega)

theorem Store.not_mem_freezeLockEvents (s : Store) (n : Nat) (hn : s.issued + 1 ≤ n) :
    s.uuid n ∉ s.freezeLockEvents.map FreezeLockEvent.id :=
  s.freezeLockEvents_issued n (by omega)

/-- A new risk event, under the next id. -/
def Store.addRiskEvent (s : Store) (row : Uuid → RiskEvent) (hrow : ∀ id, (row id).id = id) :
    Store :=
  { s with
    riskEvents := s.riskEvents ++ [row (s.uuid s.issued)]
    issued := s.issued + 1
    riskEvents_issued := Table.issued_append s.uuid_injective s.riskEvents_issued (hrow _)
    freezeLockEvents_issued := s.not_mem_freezeLockEvents }

def Store.addFreezeLockEvent (s : Store) (row : Uuid → FreezeLockEvent)
    (hrow : ∀ id, (row id).id = id) : Store :=
  { s with
    freezeLockEvents := s.freezeLockEvents ++ [row (s.uuid s.issued)]
    issued := s.issued + 1
    riskEvents_issued := s.not_mem_riskEvents
    freezeLockEvents_issued := Table.issued_append s.uuid_injective s.freezeLockEvents_issued
      (hrow _) }

def RiskEvent.withStatus (status : RiskEventStatus) (row : RiskEvent) : RiskEvent :=
  { row with status }

@[simp] theorem RiskEvent.id_withStatus (status : RiskEventStatus) (row : RiskEvent) :
    (row.withStatus status).id = row.id := rfl

def Store.setStatus (s : Store) (id : Uuid) (status : RiskEventStatus) : Store :=
  { s with
    riskEvents := Table.modify RiskEvent.id id (RiskEvent.withStatus status) s.riskEvents
    riskEvents_issued := by
      intro n hn
      rw [Table.map_modify (RiskEvent.id_withStatus status)]
      exact s.riskEvents_issued n hn }

/-! ## The calls of the database -/

/-- The score is an integer column: NaN is refused. -/
def createRiskEvent (riskScore : Option Int) (row : Int → Uuid → RiskEvent)
    (hrow : ∀ score id, (row score id).id = id) : Program RiskEvent :=
  Prog.attempt .createRiskEvent .internal fun s =>
    riskScore.map fun score =>
      (row score (s.uuid s.issued), s.addRiskEvent (row score) (hrow score))

/-- `update`, of the row where it is still there. -/
def updateRiskEvent (id : Uuid) (status : RiskEventStatus) : Program RiskEvent :=
  Prog.attempt .updateRiskEvent .internal fun s =>
    (Table.find RiskEvent.id id s.riskEvents).map fun row =>
      (row.withStatus status, s.setStatus id status)

def createFreezeLockEvent (row : Uuid → FreezeLockEvent) (hrow : ∀ id, (row id).id = id) :
    Program FreezeLockEvent :=
  Prog.act .createFreezeLockEvent .internal fun s =>
    (row (s.uuid s.issued), s.addFreezeLockEvent row hrow)

/-- `updateMany`: the sessions with this id and user. -/
def flagSessions (id userId : Uuid) : Program Unit :=
  Prog.act .updateSessions .internal fun s =>
    ((), { s with
      sessions := s.sessions.map fun row =>
        if row.id = id ∧ row.userId = userId then { row with status := .flagged } else row })

def AlertsService.create (input : Alert) : Program Unit :=
  Prog.act .createAlert .internal fun s => ((), { s with alerts := s.alerts ++ [input] })

def appendEvidence (input : AppendEvidenceInput) : Program Unit :=
  Prog.act .appendEvidence .internal fun s => ((), { s with evidence := s.evidence ++ [input] })

/-- An evidence event of a user. -/
def userEvidence (user : AuthenticatedUser) (ip : Option Text) (entityType : Text)
    (entityId : Uuid) (eventType description : Text) (metadata : Value) (h : metadata.Distinct) :
    AppendEvidenceInput where
  tenantId := some user.tenantId
  actorId := some user.userId
  actorType := some "USER"
  entityType := entityType
  entityId := entityId
  eventType := eventType
  eventDescription := description
  metadata := metadata
  ipAddress := ip
  deviceId := none
  metadata_distinct := h

/-! ## FreezeLock -/

namespace FreezeLockService

/-- The intervention actions applied when no explicit set is supplied. -/
def DEFAULT_FREEZELOCK_ACTIONS : List Text :=
  ["DISPLAY_INTERVENTION_WARNING", "PAUSE_RISKY_ACTION", "NOTIFY_TRUSTED_CONTACT",
    "START_EVIDENCE_CAPTURE"]

structure FreezeLockTrigger where
  trigger : Text
  riskEventId : Option Uuid
  sessionId : Option Uuid
  actions : Option (List Text)

def FreezeLockTrigger.actionsOrDefault (input : FreezeLockTrigger) : List Text :=
  match input.actions with
  | some (action :: rest) => action :: rest
  | _ => DEFAULT_FREEZELOCK_ACTIONS

def newEvent (user : AuthenticatedUser) (input : FreezeLockTrigger) (id : Uuid) :
    FreezeLockEvent where
  id := id
  tenantId := user.tenantId
  userId := user.userId
  riskEventId := input.riskEventId
  sessionId := input.sessionId
  trigger := input.trigger
  actions := input.actionsOrDefault

def metadata (input : FreezeLockTrigger) : Value :=
  object [("actions", stringArray input.actionsOrDefault)]

theorem distinct_metadata (input : FreezeLockTrigger) : (metadata input).Distinct :=
  ⟨List.nodup_singleton _, distinct_stringArray _, trivial⟩

/-- The evidence event of an intervention. -/
def evidence (user : AuthenticatedUser) (ip : Option Text) (input : FreezeLockTrigger)
    (id : Uuid) : AppendEvidenceInput :=
  userEvidence user ip "FREEZELOCK" id "FREEZELOCK_EXECUTED"
    (utf16 "FreezeLock executed: " ++ input.trigger) (metadata input) (distinct_metadata input)

def alert (user : AuthenticatedUser) (input : FreezeLockTrigger) : Alert where
  tenantId := user.tenantId
  userId := user.userId
  riskEventId := input.riskEventId
  type := "HUMAN_PAUSE_REQUIRED"
  severity := .critical
  title := "Emergency intervention triggered"
  message := input.trigger

/-- Flag the affected session, if one was supplied and is the caller's. -/
def flagSession (user : AuthenticatedUser) (sessionId : Option Uuid) : Program Unit :=
  match present sessionId with
  | some id => flagSessions id user.userId
  | none => pure ()

def trigger (user : AuthenticatedUser) (input : FreezeLockTrigger) (ip : Option Text) :
    Program FreezeLockEvent := do
  let event ← createFreezeLockEvent (newEvent user input) fun _ => rfl
  flagSession user input.sessionId
  appendEvidence (evidence user ip input event.id)
  AlertsService.create (alert user input)
  return event

end FreezeLockService

/-! ## The risk service -/

namespace RiskService

structure CreateRiskEventDto where
  eventType : Text
  triggerReason : Text
  signals : List Text
  moduleSource : Option RiskModuleSource
  sessionId : Option Uuid

structure RiskEventResult where
  riskEvent : RiskEvent
  interventionTriggered : Bool
  freezeLockEventId : Option Uuid

def newRiskEvent (user : AuthenticatedUser) (dto : CreateRiskEventDto) (level : RiskLevel)
    (score : Int) (id : Uuid) : RiskEvent where
  id := id
  tenantId := user.tenantId
  userId := user.userId
  sessionId := dto.sessionId
  moduleSource := dto.moduleSource.getD .riskFusion
  eventType := dto.eventType
  riskScore := score
  riskLevel := level
  status := .open
  triggerReason := dto.triggerReason
  recommendedAction := recommendedActionForLevel level
  detectedSignals := dto.signals
  metadata := null

/-- `${riskScore}` -/
def scoreText (score : Int) : Text := (Number.ofInt score).toText

def metadata (dto : CreateRiskEventDto) (row : RiskEvent) : Value :=
  object [("riskScore", number (.ofInt row.riskScore)), ("riskLevel", string row.riskLevel.name),
    ("signals", stringArray dto.signals)]

theorem distinct_metadata (dto : CreateRiskEventDto) (row : RiskEvent) :
    (metadata dto row).Distinct := by
  refine ⟨?_, trivial, trivial, distinct_stringArray _, trivial⟩
  show List.Nodup [utf16 "riskScore", utf16 "riskLevel", utf16 "signals"]
  decide

/-- The evidence event of a risk event. -/
def evidence (user : AuthenticatedUser) (ip : Option Text) (dto : CreateRiskEventDto)
    (row : RiskEvent) : AppendEvidenceInput :=
  userEvidence user ip "RISK_EVENT" row.id "RISK_SCORE_UPDATED"
    (utf16 "Risk event \"" ++ dto.eventType ++ utf16 "\" scored " ++ scoreText row.riskScore
      ++ utf16 " (" ++ row.riskLevel.name ++ utf16 ")")
    (metadata dto row) (distinct_metadata dto row)

def alert (user : AuthenticatedUser) (dto : CreateRiskEventDto) (level : RiskLevel) (id : Uuid) :
    Alert where
  tenantId := user.tenantId
  userId := user.userId
  riskEventId := some id
  type := "HIGH_RISK_DETECTED"
  severity := if level = .critical then .critical else .high
  title := "High-risk activity detected"
  message := dto.eventType ++ utf16 ": " ++ dto.triggerReason

/-- HIGH and above: alert the user. -/
def alertWhereHigh (user : AuthenticatedUser) (dto : CreateRiskEventDto) (level : RiskLevel)
    (id : Uuid) : Program Unit :=
  if level = .high ∨ level = .critical then AlertsService.create (alert user dto level id)
  else pure ()

def freezeLockTrigger (dto : CreateRiskEventDto) (row : RiskEvent) :
    FreezeLockService.FreezeLockTrigger where
  trigger := utf16 "Critical risk score (" ++ scoreText row.riskScore ++ utf16 ") — "
    ++ dto.eventType
  riskEventId := some row.id
  sessionId := dto.sessionId
  actions := none

/-- CRITICAL: fire an emergency intervention. -/
def interveneWhereCritical (user : AuthenticatedUser) (dto : CreateRiskEventDto)
    (ip : Option Text) (level : RiskLevel) (row : RiskEvent) :
    Program (RiskEvent × Option Uuid) :=
  if level = .critical then do
    let freeze ← FreezeLockService.trigger user (freezeLockTrigger dto row) ip
    let updated ← updateRiskEvent row.id .intervening
    return (updated, some freeze.id)
  else pure (row, none)

def createRiskEvent (user : AuthenticatedUser) (dto : CreateRiskEventDto) (ip : Option Text) :
    Program RiskEventResult := do
  let riskScore := scoreSignals dto.signals
  let riskLevel := levelForScore riskScore
  let riskEvent ← RiskFusion.createRiskEvent riskScore (newRiskEvent user dto riskLevel)
    fun _ _ => rfl
  appendEvidence (evidence user ip dto riskEvent)
  alertWhereHigh user dto riskLevel riskEvent.id
  let (riskEvent, freezeLockEventId) ← interveneWhereCritical user dto ip riskLevel riskEvent
  return { riskEvent, interventionTriggered := freezeLockEventId.isSome, freezeLockEventId }

end RiskService

end RiskFusion
