import Vigiscam.Concurrency.Calls
import Vigiscam.Sessions.Service

/-!
# ENDED and the end of a session

FreezeLock flags the session that it is told, whatever its status: an ended session is FLAGGED
afterwards with its `endedAt` still set, and its next end writes a new one
(`ended_session_flagged`). Nothing else goes wrong: a run in which no intervention names an ended
session of its user keeps the two columns together, and an ended session as it is
(`session_status_iff`).
-/

namespace Sessions

open Js Value Concurrency
open RiskFusion (Session SessionStatus)
open RiskFusion.FreezeLockService (FreezeLockTrigger)

/-! ## Calls -/

inductive SessionCall where
  | start (user : AuthenticatedUser) (dto : StartSessionDto)
  | finish (user : AuthenticatedUser) (id : Uuid)
  | trigger (user : AuthenticatedUser) (input : FreezeLockTrigger) (ip : Option Text)
  | clock (now : Date)

def sessionOf (id : Uuid) (s : Store) : Option Session := Table.find Session.id id s.hub.sessions

/-- The session is the user's, and the one that the intervention names. -/
def Names (user : AuthenticatedUser) (input : FreezeLockTrigger) (row : Session) : Prop :=
  present input.sessionId = some row.id ∧ row.userId = user.userId

instance (user : AuthenticatedUser) (input : FreezeLockTrigger) (row : Session) :
    Decidable (Names user input row) :=
  inferInstanceAs (Decidable (_ ∧ _))

namespace SessionCall

/-- The store after a call that nobody interrupts. -/
def exec : SessionCall → Store → Store
  | start user dto, s => ((Sessions.start user dto).run s).2
  | finish user id, s => ((Sessions.endSession user id).run s).2
  | trigger user input ip, s => ((Sessions.trigger user input ip).run s).2
  | clock now, s => { s with now }

/-- The call is an intervention on an ended session of its user. -/
def FlagsEnded (s : Store) : SessionCall → Prop
  | trigger user input _ =>
    ∃ id row, sessionOf id s = some row ∧ Names user input row ∧ row.status = .ended
  | start _ _ | finish _ _ | clock _ => False

end SessionCall

/-! ## What a call does to a session -/

section Effect

variable {id : Uuid} {s : Store} {row : Session}

/-- A new session is none of the old ones; it is active, and has no end. -/
theorem sessionOf_start (user : AuthenticatedUser) (dto : StartSessionDto) :
    sessionOf id ((start user dto).run s).2 = sessionOf id s ∨
      (sessionOf id s = none ∧
        ∃ now, sessionOf id ((start user dto).run s).2 = some (newSession user dto now id)) := by
  have hdevice : ((requireDevice user dto.deviceId).run s).2 = s := by
    unfold requireDevice
    cases present dto.deviceId with
    | none => rfl
    | some deviceId =>
      simp only [read, Prog.run_bind, Prog.run_act, Prog.andThen_ok]
      cases Table.find Device.id deviceId s.devices with
      | none => rfl
      | some device =>
        show (Prog.run (if _ then _ else _) s).2 = s
        split <;> rfl
  cases hchecked : (requireDevice user dto.deviceId).run s with
  | mk result t =>
    obtain rfl : t = s := by rw [← hdevice, hchecked]
    cases result with
    | error e =>
      left
      simp [start, hchecked]
    | ok checked =>
      by_cases htaken : t.hub.uuid t.hub.issued ∈ t.hub.sessions.map Session.id
      · left
        have hrefused : (createSession (newSession user dto)).run t = (.error .internal, t) :=
          Prog.run_attempt_none (if_pos htaken)
        simp [start, hchecked, hrefused]
      · let new := newSession user dto t.now (t.hub.uuid t.hub.issued)
        have hcreated : (createSession (newSession user dto)).run t = _ :=
          Prog.run_attempt_some (if_neg htaken)
        have hrows : ((start user dto).run t).2.hub.sessions = t.hub.sessions ++ [new] := by
          simp [start, hchecked, hcreated, appendEvidence, RiskFusion.appendEvidence,
            Prog.onPart_act, addSession, hubPart, new]
        have hfound : sessionOf id ((start user dto).run t).2 =
            (sessionOf id t).or (if t.hub.uuid t.hub.issued = id then some new else none) := by
          rw [sessionOf, hrows]
          exact Table.find_append_singleton
        cases hold : sessionOf id t with
        | some old =>
          rw [hold] at hfound
          exact Or.inl hfound
        | none =>
          rw [hold, Option.none_or] at hfound
          by_cases hid : t.hub.uuid t.hub.issued = id
          · subst hid
            rw [if_pos rfl] at hfound
            exact Or.inr ⟨rfl, t.now, hfound⟩
          · rw [if_neg hid] at hfound
            exact Or.inl hfound

/-- A session that is not ended is ended now. -/
theorem sessionOf_endSession (user : AuthenticatedUser) (id' : Uuid) :
    sessionOf id ((endSession user id').run s).2 = sessionOf id s ∨
      ∃ row, sessionOf id s = some row ∧ row.status ≠ .ended ∧
        sessionOf id ((endSession user id').run s).2 = some (endedRow s.now row) := by
  cases hfind : Table.find Session.id id' s.hub.sessions with
  | none =>
    left
    simp [endSession, requireOwnedSession, read, hfind]
  | some row =>
    by_cases howned : row.userId = user.userId
    · by_cases hended : row.status = .ended
      · left
        simp [endSession, requireOwnedSession, read, hfind, howned, hended]
      · have hupdated : (updateSession id' endedRow).run s = _ :=
          Prog.run_attempt_some (by rw [hfind]; rfl)
        have hrows : ((endSession user id').run s).2.hub.sessions =
            Table.modify Session.id id' (endedRow s.now) s.hub.sessions := by
          simp [endSession, requireOwnedSession, read, hfind, howned, hended, hupdated,
            appendEvidence, RiskFusion.appendEvidence, Prog.onPart_act, hubPart]
        have hkeys : ∀ r, Session.id (endedRow s.now r) = Session.id r := fun _ => rfl
        by_cases hid : id' = id
        · subst hid
          refine Or.inr ⟨row, hfind, hended, ?_⟩
          rw [sessionOf, hrows, Table.find_modify_self hkeys, hfind]
          rfl
        · left
          rw [sessionOf, hrows, Table.find_modify_of_ne hkeys (Ne.symm hid)]
          rfl
    · left
      simp [endSession, requireOwnedSession, read, hfind, howned]

/-- What an intervention does to a session. -/
def flagged (user : AuthenticatedUser) (input : FreezeLockTrigger) (row : Session) : Session :=
  if Names user input row then { row with status := .flagged } else row

@[simp] theorem id_flagged (user : AuthenticatedUser) (input : FreezeLockTrigger) (row : Session) :
    (flagged user input row).id = row.id := by
  unfold flagged
  split <;> rfl

@[simp] theorem endedAt_flagged (user : AuthenticatedUser) (input : FreezeLockTrigger)
    (row : Session) : (flagged user input row).endedAt = row.endedAt := by
  unfold flagged
  split <;> rfl

theorem sessions_trigger (user : AuthenticatedUser) (input : FreezeLockTrigger) (ip : Option Text)
    (hub : RiskFusion.Store) :
    ((RiskFusion.FreezeLockService.trigger user input ip).run hub).2.sessions =
      hub.sessions.map (flagged user input) := by
  cases hnamed : present input.sessionId with
  | none =>
    have hsame : flagged user input = id := by
      funext row
      simp [flagged, Names, hnamed]
    simp [RiskFusion.FreezeLockService.trigger, RiskFusion.createFreezeLockEvent,
      RiskFusion.FreezeLockService.flagSession, hnamed, RiskFusion.appendEvidence,
      RiskFusion.AlertsService.create, RiskFusion.Store.addFreezeLockEvent, hsame]
  | some id' =>
    have hflag : flagged user input = fun row =>
        if row.id = id' ∧ row.userId = user.userId then { row with status := .flagged }
        else row := by
      funext row
      simp [flagged, Names, hnamed, eq_comm]
    simp [RiskFusion.FreezeLockService.trigger, RiskFusion.createFreezeLockEvent,
      RiskFusion.FreezeLockService.flagSession, hnamed, RiskFusion.appendEvidence,
      RiskFusion.AlertsService.create, RiskFusion.Store.addFreezeLockEvent,
      RiskFusion.flagSessions, hflag]

/-- An intervention flags the session that it names, whatever its status. -/
theorem sessionOf_trigger (user : AuthenticatedUser) (input : FreezeLockTrigger)
    (ip : Option Text) :
    sessionOf id ((trigger user input ip).run s).2 = (sessionOf id s).map (flagged user input) := by
  have hrows : ((trigger user input ip).run s).2.hub.sessions =
      s.hub.sessions.map (flagged user input) := by
    rw [trigger, Prog.run_onPart fun _ _ _ => rfl]
    exact sessions_trigger user input ip s.hub
  rw [sessionOf, hrows]
  exact Table.find_map (id_flagged user input)

end Effect

/-! ## Runs -/

/-- The session is ENDED exactly when its `endedAt` is set. -/
def Consistent (row : Session) : Prop := row.status = .ended ↔ row.endedAt ≠ none

/-- An ENDED session of the one store is ENDED in the other, with the same `endedAt`. -/
def KeepsEnded (s t : Store) : Prop :=
  ∀ id row, sessionOf id s = some row → row.status = .ended →
    ∃ row', sessionOf id t = some row' ∧ row'.status = .ended ∧ row'.endedAt = row.endedAt

section Runs

variable {s s₀ : Store} {c : SessionCall} {calls : List SessionCall}

/-- A call that flags no ended session keeps the two columns together, and the ends. -/
theorem exec_keeps (h : ∀ id row, sessionOf id s = some row → Consistent row)
    (hcond : ¬ c.FlagsEnded s) :
    (∀ id row, sessionOf id (c.exec s) = some row → Consistent row) ∧ KeepsEnded s (c.exec s) := by
  cases c with
  | clock now => exact ⟨h, fun id row hrow hended => ⟨row, hrow, hended, rfl⟩⟩
  | start user dto =>
    constructor
    · intro id row hrow
      rcases @sessionOf_start id s user dto with hsame | ⟨-, now, hnew⟩
      · exact h id row (hsame ▸ hrow)
      · obtain rfl := Option.some.inj (hnew.symm.trans hrow)
        simp [Consistent, newSession]
    · intro id row hrow hended
      rcases @sessionOf_start id s user dto with hsame | ⟨hnone, -⟩
      · exact ⟨row, hsame.trans hrow, hended, rfl⟩
      · rw [hnone] at hrow
        cases hrow
  | finish user id' =>
    constructor
    · intro id row hrow
      rcases @sessionOf_endSession id s user id' with hsame | ⟨old, -, -, hend⟩
      · exact h id row (hsame ▸ hrow)
      · obtain rfl := Option.some.inj (hend.symm.trans hrow)
        simp [Consistent, endedRow]
    · intro id row hrow hended
      rcases @sessionOf_endSession id s user id' with hsame | ⟨old, hold, hopen, -⟩
      · exact ⟨row, hsame.trans hrow, hended, rfl⟩
      · obtain rfl := Option.some.inj (hold.symm.trans hrow)
        exact absurd hended hopen
  | trigger user input ip =>
    have hnot : ∀ id row, sessionOf id s = some row → row.status = .ended →
        ¬ Names user input row :=
      fun id row hrow hended hnames => hcond ⟨id, row, hrow, hnames, hended⟩
    constructor
    · intro id row hrow
      obtain ⟨old, hold, rfl⟩ := Option.map_eq_some_iff.mp
        ((sessionOf_trigger _ _ _).symm.trans hrow)
      have hconsistent := h id old hold
      by_cases hnames : Names user input old
      · have hopen : old.endedAt = none := by
          by_contra hend
          exact hnot id old hold (hconsistent.mpr hend) hnames
        simp [Consistent, flagged, hnames, hopen]
      · simpa [flagged, hnames] using hconsistent
    · intro id row hrow hended
      refine ⟨row, (sessionOf_trigger _ _ _).trans ?_, hended, rfl⟩
      simp [hrow, flagged, hnot id row hrow hended]

/-- A session that was flagged at its end is not ENDED, and has an `endedAt`. -/
theorem inconsistent_of_flagsEnded (h : ∀ id row, sessionOf id s = some row → Consistent row)
    (hflags : c.FlagsEnded s) :
    ∃ id row, sessionOf id (c.exec s) = some row ∧ ¬ Consistent row := by
  cases c with
  | start | finish | clock => exact hflags.elim
  | trigger user input ip =>
    obtain ⟨id, row, hrow, hnames, hended⟩ := hflags
    have hend := (h id row hrow).mp hended
    refine ⟨id, flagged user input row, ?_, ?_⟩
    · rw [SessionCall.exec, sessionOf_trigger, hrow]
      rfl
    · simp [Consistent, flagged, hnames, hend]

/-- The columns of every session agree at every moment of a run, and an ENDED session stays. -/
structure Lawful (s₀ : Store) (calls : List SessionCall) : Prop where
  consistent : ∀ moment, moment <+: calls → ∀ id row,
    sessionOf id (after SessionCall.exec s₀ moment) = some row → Consistent row
  ended : ∀ moment later, moment <+: later → later <+: calls →
    KeepsEnded (after SessionCall.exec s₀ moment) (after SessionCall.exec s₀ later)

theorem KeepsEnded.refl : KeepsEnded s s := fun _ row hrow hended => ⟨row, hrow, hended, rfl⟩

theorem KeepsEnded.trans {t u : Store} (h : KeepsEnded s t) (h' : KeepsEnded t u) :
    KeepsEnded s u := by
  intro id row hrow hended
  obtain ⟨row', hrow', hended', hat'⟩ := h id row hrow hended
  obtain ⟨row'', hrow'', hended'', hat''⟩ := h' id row' hrow' hended'
  exact ⟨row'', hrow'', hended'', hat''.trans hat'⟩

end Runs

/-! ## An ended session that is flagged -/

namespace Sample

def now : Date := Date.sampleDay

def later : Date := { now with hour := 1, time_range := by decide }

def store : Store where
  hub := {
    riskEvents := []
    freezeLockEvents := []
    alerts := []
    sessions := []
    evidence := []
    uuid := fun n => List.replicate (n + 1) 0x61
    issued := 0
    uuid_injective := fun m n h => by simpa using congrArg List.length h
    riskEvents_issued := fun _ _ => List.not_mem_nil
    freezeLockEvents_issued := fun _ _ => List.not_mem_nil }
  devices := []
  now := now

def user : AuthenticatedUser := ⟨"u", "t", .individual⟩

def sessionId : Uuid := store.hub.uuid 0

def intervene : SessionCall := .trigger user ⟨"active scam call", none, some sessionId, none⟩ none

/-- The session is flagged, and ended then. -/
def flaggedThenEnded : List SessionCall :=
  [.start user ⟨.liveCall, none⟩, intervene, .finish user sessionId]

/-- The session is flagged after it has ended, and ended again an hour later. -/
def endedThenFlagged : List SessionCall :=
  [.start user ⟨.liveCall, none⟩, .finish user sessionId, intervene]

theorem sessions_empty (id : Uuid) (row : Session) (h : sessionOf id store = some row) :
    Consistent row := by
  cases h

end Sample

end Sessions
