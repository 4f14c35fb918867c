import Vigiscam.Concurrency.Failures
import Vigiscam.RiskFusion.Service

/-!
# Risk events whose steps fail

A critical risk event is written in up to eight steps, and every one of them may fail. Nothing
is caught on the way and nothing is undone, so a failure leaves behind what was written before
it: `risk_event_complete_iff` says that the risk event is stored with all that belongs to it
exactly where its first write does not come about, or no write fails.
-/

namespace RiskFusion

open Js Concurrency EvidenceVault Protection

/-- The rows that have come after those of before. -/
def added {ρ : Type} (before after : List ρ) : List ρ := after.drop before.length

@[simp] theorem added_self {ρ : Type} (rows : List ρ) : added rows rows = [] :=
  List.drop_length

@[simp] theorem added_append {ρ : Type} (rows new : List ρ) : added rows (rows ++ new) = new :=
  List.drop_left

/-- The risk event has all that belongs to it among the rows. -/
structure Complete (evidence : List AppendEvidenceInput) (alerts : List Alert)
    (freezes : List FreezeLockEvent) (row : RiskEvent) : Prop where
  recorded : ∃ e ∈ evidence, e.entityType = utf16 "RISK_EVENT" ∧ e.entityId = row.id
  alerted : row.riskLevel = .high ∨ row.riskLevel = .critical →
    ∃ a ∈ alerts, a.type = utf16 "HIGH_RISK_DETECTED" ∧ a.riskEventId = some row.id
  intervened : row.riskLevel = .critical → ∃ f ∈ freezes, f.riskEventId = some row.id ∧
    (∃ e ∈ evidence, e.entityType = utf16 "FREEZELOCK" ∧ e.entityId = f.id) ∧
      ∃ a ∈ alerts, a.type = utf16 "HUMAN_PAUSE_REQUIRED" ∧ a.riskEventId = some row.id
  status : row.riskLevel = .critical → row.status = .intervening

/-- From `s` to `t` no risk event was stored, or it was with all that belongs to it. -/
def AllOrNothing (s t : Store) : Prop :=
  ∀ row ∈ added s.riskEvents t.riskEvents, Complete (added s.evidence t.evidence)
    (added s.alerts t.alerts) (added s.freezeLockEvents t.freezeLockEvents) row

theorem allOrNothing_self (s : Store) : AllOrNothing s s := by
  intro row hrow
  rw [added_self] at hrow
  cases hrow

variable {s t : Store} {user : AuthenticatedUser} {dto : RiskService.CreateRiskEventDto}
  {ip : Option Text} {row : RiskEvent} {evidence : List AppendEvidenceInput}
  {alerts : List Alert} {freezes : List FreezeLockEvent}

/-- One risk event was stored, with these rows. -/
structure Wrote (s : Store) (row : RiskEvent) (evidence : List AppendEvidenceInput)
    (alerts : List Alert) (freezes : List FreezeLockEvent) (t : Store) : Prop where
  riskEvents : t.riskEvents = s.riskEvents ++ [row]
  evidence : t.evidence = s.evidence ++ evidence
  alerts : t.alerts = s.alerts ++ alerts
  freezes : t.freezeLockEvents = s.freezeLockEvents ++ freezes

theorem Wrote.allOrNothing_iff (h : Wrote s row evidence alerts freezes t) :
    AllOrNothing s t ↔ Complete evidence alerts freezes row := by
  simp [AllOrNothing, h.riskEvents, h.evidence, h.alerts, h.freezes]

/-! ## One write after the other -/

section Writes

variable {P : List DbStep → Except HttpError Unit → Store → Prop}

theorem outcomes_appendEvidence (h : Wrote s row evidence alerts freezes t)
    (input : AppendEvidenceInput)
    (hok : ∀ u, Wrote s row (evidence ++ [input]) alerts freezes u → P [] (.ok ()) u)
    (hfailed : P [.appendEvidence] (.error .internal) t) :
    Prog.Outcomes P (appendEvidence input) t := by
  refine ⟨hok _ ⟨h.riskEvents, ?_, h.alerts, h.freezes⟩, hfailed⟩
  show t.evidence ++ [input] = _
  rw [h.evidence, List.append_assoc]

theorem outcomes_createAlert (h : Wrote s row evidence alerts freezes t) (input : Alert)
    (hok : ∀ u, Wrote s row evidence (alerts ++ [input]) freezes u → P [] (.ok ()) u)
    (hfailed : P [.createAlert] (.error .internal) t) :
    Prog.Outcomes P (AlertsService.create input) t := by
  refine ⟨hok _ ⟨h.riskEvents, h.evidence, ?_, h.freezes⟩, hfailed⟩
  show t.alerts ++ [input] = _
  rw [h.alerts, List.append_assoc]

/-- Whether a session is flagged or not, the rows that count stay as they are. -/
theorem outcomes_flagSession (h : Wrote s row evidence alerts freezes t) (sessionId : Option Uuid)
    (hok : ∀ u, Wrote s row evidence alerts freezes u → P [] (.ok ()) u)
    (hfailed : P [.updateSessions] (.error .internal) t) :
    Prog.Outcomes P (FreezeLockService.flagSession user sessionId) t := by
  unfold FreezeLockService.flagSession
  cases present sessionId with
  | none => exact hok t h
  | some id => exact ⟨hok _ ⟨h.riskEvents, h.evidence, h.alerts, h.freezes⟩, hfailed⟩

end Writes

theorem outcomes_createFreezeLockEvent
    {P : List DbStep → Except HttpError FreezeLockEvent → Store → Prop}
    (h : Wrote s row evidence alerts freezes t) (new : Uuid → FreezeLockEvent)
    (hnew : ∀ id, (new id).id = id)
    (hok : ∀ id u, Wrote s row evidence alerts (freezes ++ [new id]) u → P [] (.ok (new id)) u)
    (hfailed : P [.createFreezeLockEvent] (.error .internal) t) :
    Prog.Outcomes P (createFreezeLockEvent new hnew) t := by
  refine ⟨hok (t.uuid t.issued) _ ⟨h.riskEvents, h.evidence, h.alerts, ?_⟩, hfailed⟩
  show t.freezeLockEvents ++ _ = _
  rw [h.freezes, List.append_assoc]

/-- The new risk event is the only row of its id. -/
theorem Wrote.setStatus (h : Wrote s row evidence alerts freezes t)
    (hid : row.id ∉ s.riskEvents.map RiskEvent.id) (status : RiskEventStatus) :
    Wrote s (row.withStatus status) evidence alerts freezes (t.setStatus row.id status) where
  riskEvents := by
    show Table.modify RiskEvent.id row.id _ t.riskEvents = _
    rw [h.riskEvents, Table.modify_append_new hid]
  evidence := h.evidence
  alerts := h.alerts
  freezes := h.freezes

theorem Wrote.find (h : Wrote s row evidence alerts freezes t)
    (hid : row.id ∉ s.riskEvents.map RiskEvent.id) :
    Table.find RiskEvent.id row.id t.riskEvents = some row := by
  rw [h.riskEvents, Table.find_append_new hid]

theorem outcomes_updateRiskEvent {P : List DbStep → Except HttpError RiskEvent → Store → Prop}
    (h : Wrote s row evidence alerts freezes t) (hid : row.id ∉ s.riskEvents.map RiskEvent.id)
    (status : RiskEventStatus)
    (hok : ∀ u, Wrote s (row.withStatus status) evidence alerts freezes u →
      P [] (.ok (row.withStatus status)) u)
    (hfailed : P [.updateRiskEvent] (.error .internal) t) :
    Prog.Outcomes P (updateRiskEvent row.id status) t := by
  have hfound : (Table.find RiskEvent.id row.id t.riskEvents).map (fun r =>
      (r.withStatus status, t.setStatus row.id status)) =
        some (row.withStatus status, t.setStatus row.id status) := by
    rw [h.find hid, Option.map_some]
  exact (Prog.outcomes_attempt_some hfound).mpr ⟨hok _ (h.setStatus hid status), hfailed⟩

/-! ## What is missing -/

theorem not_complete_of_no_evidence : ¬ Complete [] alerts freezes row := by
  rintro ⟨⟨e, he, -⟩, -, -, -⟩
  cases he

theorem not_complete_of_no_alert (hlevel : row.riskLevel = .high ∨ row.riskLevel = .critical) :
    ¬ Complete evidence [] freezes row := by
  intro h
  obtain ⟨a, ha, -⟩ := h.alerted hlevel
  cases ha

theorem not_complete_of_no_freeze (hlevel : row.riskLevel = .critical) :
    ¬ Complete evidence alerts [] row := by
  intro h
  obtain ⟨f, hf, -⟩ := h.intervened hlevel
  cases hf

/-- The evidence of the risk event is none of the intervention. -/
theorem not_complete_of_freeze_evidence (hlevel : row.riskLevel = .critical) :
    ¬ Complete [RiskService.evidence user ip dto row] alerts freezes row := by
  intro h
  obtain ⟨f, -, -, ⟨e, he, htype, -⟩, -⟩ := h.intervened hlevel
  obtain rfl := List.mem_singleton.mp he
  have hne : utf16 "RISK_EVENT" ≠ utf16 "FREEZELOCK" := by decide
  exact hne htype

/-- The alert of the risk event is none of the intervention. -/
theorem not_complete_of_freeze_alert (hlevel : row.riskLevel = .critical) (level : RiskLevel)
    (id : Uuid) : ¬ Complete evidence [RiskService.alert user dto level id] freezes row := by
  intro h
  obtain ⟨f, -, -, -, a, ha, htype, -⟩ := h.intervened hlevel
  obtain rfl := List.mem_singleton.mp ha
  have hne : utf16 "HIGH_RISK_DETECTED" ≠ utf16 "HUMAN_PAUSE_REQUIRED" := by decide
  exact hne htype

theorem not_complete_of_open (hlevel : row.riskLevel = .critical) (hstatus : row.status = .open) :
    ¬ Complete evidence alerts freezes row := by
  intro h
  have := h.status hlevel
  rw [hstatus] at this
  cases this

/-! ## All ends of the call -/

/-- After its first write the call is complete exactly where no write fails. -/
def Settles (s : Store) (failed : List DbStep) (t : Store) : Prop :=
  .createRiskEvent ∉ failed ∧ (AllOrNothing s t ↔ failed = [])

theorem Wrote.settles_failed (h : Wrote s row evidence alerts freezes t)
    (hmissing : ¬ Complete evidence alerts freezes row) {l : DbStep} (hl : l ≠ .createRiskEvent) :
    Settles s [l] t := by
  refine ⟨fun hmem => hl (List.mem_singleton.mp hmem).symm, ?_⟩
  rw [h.allOrNothing_iff]
  exact iff_of_false hmissing (List.cons_ne_nil _ _)

theorem Wrote.settles (h : Wrote s row evidence alerts freezes t)
    (hcomplete : Complete evidence alerts freezes row) : Settles s [] t :=
  ⟨List.not_mem_nil, iff_of_true (h.allOrNothing_iff.mpr hcomplete) rfl⟩

/-- Everything is there at the end of an intervention. -/
theorem complete_intervening (id : Uuid) :
    Complete
      [RiskService.evidence user ip dto row,
        FreezeLockService.evidence user ip (RiskService.freezeLockTrigger dto row) id]
      [RiskService.alert user dto .critical row.id,
        FreezeLockService.alert user (RiskService.freezeLockTrigger dto row)]
      [FreezeLockService.newEvent user (RiskService.freezeLockTrigger dto row) id]
      (row.withStatus .intervening) where
  recorded := ⟨_, List.mem_cons_self, rfl, rfl⟩
  alerted _ := ⟨_, List.mem_cons_self, rfl, rfl⟩
  intervened _ := ⟨_, List.mem_cons_self, rfl,
    ⟨_, List.mem_cons_of_mem _ List.mem_cons_self, rfl, rfl⟩,
    ⟨_, List.mem_cons_of_mem _ List.mem_cons_self, rfl, rfl⟩⟩
  status _ := rfl

theorem outcomes_interveneWhereCritical
    (h : Wrote s row [RiskService.evidence user ip dto row]
      [RiskService.alert user dto .critical row.id] [] t)
    (hlevel : row.riskLevel = .critical) (hstatus : row.status = .open)
    (hid : row.id ∉ s.riskEvents.map RiskEvent.id) :
    Prog.Outcomes (fun failed _ u => Settles s failed u)
      (RiskService.interveneWhereCritical user dto ip .critical row) t := by
  unfold RiskService.interveneWhereCritical FreezeLockService.trigger
  rw [if_pos rfl]
  simp only [Prog.outcomes_bind]
  refine outcomes_createFreezeLockEvent h _ _ (fun id u hu => ?_)
    (h.settles_failed (not_complete_of_no_freeze hlevel) (by decide))
  simp only [Prog.onward_ok, Prog.outcomes_bind, List.nil_append]
  refine outcomes_flagSession hu _ (fun v hv => ?_)
    (hu.settles_failed (not_complete_of_freeze_evidence hlevel) (by decide))
  simp only [Prog.onward_ok, Prog.outcomes_bind, List.nil_append]
  refine outcomes_appendEvidence hv _ (fun w hw => ?_)
    (hv.settles_failed (not_complete_of_freeze_evidence hlevel) (by decide))
  simp only [Prog.onward_ok, Prog.outcomes_bind, List.nil_append]
  refine outcomes_createAlert hw _ (fun x hx => ?_)
    (hw.settles_failed (not_complete_of_freeze_alert hlevel _ _) (by decide))
  simp only [Prog.onward_ok, Prog.outcomes_bind, Prog.outcomes_pure, List.nil_append]
  refine outcomes_updateRiskEvent hx hid _ (fun y hy => ?_)
    (hx.settles_failed (not_complete_of_open hlevel hstatus) (by decide))
  exact hy.settles (complete_intervening id)

/-- A risk event below CRITICAL needs no intervention. -/
theorem complete_of_not_critical (hlevel : row.riskLevel ≠ .critical)
    (halert : row.riskLevel = .high →
      ∃ a ∈ alerts, a.type = utf16 "HIGH_RISK_DETECTED" ∧ a.riskEventId = some row.id) :
    Complete [RiskService.evidence user ip dto row] alerts freezes row where
  recorded := ⟨_, List.mem_cons_self, rfl, rfl⟩
  alerted hlevel' := halert (hlevel'.resolve_right hlevel)
  intervened hcritical := absurd hcritical hlevel
  status hcritical := absurd hcritical hlevel

/-- What comes after the evidence of the risk event. -/
theorem outcomes_serious (h : Wrote s row [RiskService.evidence user ip dto row] [] [] t)
    (hstatus : row.status = .open) (hid : row.id ∉ s.riskEvents.map RiskEvent.id) :
    Prog.Outcomes (fun failed _ u => Settles s failed u)
      (RiskService.alertWhereHigh user dto row.riskLevel row.id >>= fun _ =>
        RiskService.interveneWhereCritical user dto ip row.riskLevel row) t := by
  rw [Prog.outcomes_bind]
  unfold RiskService.alertWhereHigh
  by_cases hcritical : row.riskLevel = .critical
  · rw [hcritical, if_pos (Or.inr rfl)]
    refine outcomes_createAlert h _ (fun u hu => ?_)
      (h.settles_failed (not_complete_of_no_alert (Or.inr hcritical)) (by decide))
    simp only [Prog.onward_ok, List.nil_append] at hu ⊢
    exact outcomes_interveneWhereCritical hu hcritical hstatus hid
  · have hnothing : RiskService.interveneWhereCritical user dto ip row.riskLevel row =
        pure (row, none) := if_neg hcritical
    rw [hnothing]
    by_cases hhigh : row.riskLevel = .high
    · rw [if_pos (Or.inl hhigh)]
      refine outcomes_createAlert h _ (fun u hu => ?_)
        (h.settles_failed (not_complete_of_no_alert (Or.inl hhigh)) (by decide))
      exact hu.settles (complete_of_not_critical hcritical fun _ =>
        ⟨_, List.mem_cons_self, rfl, rfl⟩)
    · rw [if_neg (by simp [hhigh, hcritical])]
      exact h.settles (complete_of_not_critical hcritical fun h => absurd h hhigh)

/-- **A risk event is stored with all that belongs to it exactly where no write fails**, or
none comes about: its score is NaN, or its first write fails. -/
theorem risk_event_complete_iff {failed : List DbStep}
    {result : Except HttpError RiskService.RiskEventResult}
    (h : Prog.Ends (RiskService.createRiskEvent user dto ip) s failed result t) :
    AllOrNothing s t ↔
      scoreSignals dto.signals = none ∨ .createRiskEvent ∈ failed ∨ failed = [] := by
  let P : List DbStep → Except HttpError RiskService.RiskEventResult → Store → Prop :=
    fun failed _ t => AllOrNothing s t ↔
      scoreSignals dto.signals = none ∨ .createRiskEvent ∈ failed ∨ failed = []
  have hall : Prog.Outcomes P (RiskService.createRiskEvent user dto ip) s := by
    unfold RiskService.createRiskEvent
    rw [Prog.outcomes_bind]
    have hrefused : P [.createRiskEvent] (.error .internal) s :=
      iff_of_true (allOrNothing_self s) (Or.inr (Or.inl (List.mem_singleton_self _)))
    cases hscore : scoreSignals dto.signals with
    | none =>
      exact (Prog.outcomes_attempt_none rfl).mpr
        ⟨iff_of_true (allOrNothing_self s) (Or.inl hscore), hrefused⟩
    | some score =>
      refine (Prog.outcomes_attempt_some rfl).mpr ⟨?_, hrefused⟩
      let row := RiskService.newRiskEvent user dto (levelForScore (some score)) score
        (s.uuid s.issued)
      have hwrote : Wrote s row [] [] []
          (s.addRiskEvent (RiskService.newRiskEvent user dto (levelForScore (some score)) score)
            fun _ => rfl) :=
        ⟨rfl, (List.append_nil _).symm, (List.append_nil _).symm, (List.append_nil _).symm⟩
      have hid : row.id ∉ s.riskEvents.map RiskEvent.id := s.riskEvents_issued _ le_rfl
      -- what settles the call is what is asked for
      have hsettles : ∀ failed u, Settles s failed u → (AllOrNothing s u ↔
          scoreSignals dto.signals = none ∨ .createRiskEvent ∈ failed ∨ failed = []) := by
        rintro failed u ⟨hcreate, hiff⟩
        rw [hiff, hscore]
        simp [hcreate]
      rw [Prog.onward_ok, Prog.outcomes_bind]
      refine outcomes_appendEvidence hwrote _ (fun u hu => ?_)
        (hsettles _ _ (hwrote.settles_failed not_complete_of_no_evidence (by decide)))
      rw [Prog.onward_ok, ← Prog.bind_assoc, Prog.outcomes_bind]
      refine (outcomes_serious hu rfl hid).mono fun failed result v hv => ?_
      cases result with
      | error e => exact hsettles _ _ hv
      | ok r =>
        show AllOrNothing s v ↔ _ ∨ _ ∈ failed ++ [] ∨ failed ++ [] = []
        rw [List.append_nil]
        exact hsettles _ _ hv
  exact Prog.outcomes_iff.mp hall _ _ _ h

/-! ### A critical event -/

def emptyStore : Store where
  riskEvents := []
  freezeLockEvents := []
  alerts := []
  sessions := []
  evidence := []
  uuid n := List.replicate n 0
  issued := 0
  uuid_injective m n h := by simpa using congrArg List.length h
  riskEvents_issued _ _ := List.not_mem_nil
  freezeLockEvents_issued _ _ := List.not_mem_nil

def sampleUser : AuthenticatedUser where
  userId := "u"
  tenantId := "t"
  role := .individual

def takeover : RiskService.CreateRiskEventDto where
  eventType := "REMOTE_ACCESS_DETECTED"
  triggerReason := "Remote-access tool launched during a banking session"
  signals := ["REMOTE_ACCESS", "DEVICE_COMPROMISE", "GIFT_CARD_REQUEST", "REMOTE_INPUT"]
  moduleSource := none
  sessionId := none

/-- The call where the steps fail that the list says. -/
def takeoverEnd (fails : List Bool) :
    List DbStep × Except HttpError RiskService.RiskEventResult × Store :=
  (RiskService.createRiskEvent sampleUser takeover none).outcome fails emptyStore

/-- Where no step fails, the event is stored with all that belongs to it. -/
theorem risk_event_complete_takeover :
    (takeoverEnd []).2.2.riskEvents.map (fun row => (row.riskLevel, row.status)) =
        [(.critical, .intervening)] ∧
      AllOrNothing emptyStore (takeoverEnd []).2.2 := by
  refine ⟨by decide +kernel, ?_⟩
  refine (risk_event_complete_iff (Prog.ends_outcome [] _ emptyStore)).mpr (Or.inr (Or.inr ?_))
  show (takeoverEnd []).1 = []
  decide +kernel

/-- FreezeLock fails: a critical event stays behind that nobody intervenes in. -/
theorem critical_without_intervention :
    Prog.Ends (RiskService.createRiskEvent sampleUser takeover none) emptyStore
        [.createFreezeLockEvent] (takeoverEnd [false, false, false, true]).2.1
        (takeoverEnd [false, false, false, true]).2.2 ∧
      (takeoverEnd [false, false, false, true]).2.2.riskEvents.map
        (fun row => (row.riskLevel, row.status)) = [(.critical, .open)] ∧
      (takeoverEnd [false, false, false, true]).2.2.freezeLockEvents.length = 0 ∧
      ¬ AllOrNothing emptyStore (takeoverEnd [false, false, false, true]).2.2 := by
  have hfailed : (takeoverEnd [false, false, false, true]).1 = [.createFreezeLockEvent] := by
    decide +kernel
  have hends := Prog.ends_outcome [false, false, false, true]
    (RiskService.createRiskEvent sampleUser takeover none) emptyStore
  have hlevels : (takeoverEnd [false, false, false, true]).2.2.riskEvents.map
      (fun row => (row.riskLevel, row.status)) = [(.critical, .open)] := by
    decide +kernel
  refine ⟨hfailed ▸ hends, hlevels, by decide +kernel, fun hall => ?_⟩
  obtain ⟨row, hrow⟩ : ∃ row, (takeoverEnd [false, false, false, true]).2.2.riskEvents = [row] :=
    List.length_eq_one_iff.mp (by decide +kernel)
  rw [hrow, List.map_singleton, List.singleton_inj, Prod.mk.injEq] at hlevels
  have hcomplete := hall row (by rw [hrow]; exact List.mem_singleton_self row)
  have hstatus := hcomplete.status hlevels.1
  rw [hlevels.2] at hstatus
  cases hstatus

end RiskFusion
