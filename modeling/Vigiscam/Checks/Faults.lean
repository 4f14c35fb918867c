import Vigiscam.Checks.Modules
import Vigiscam.Concurrency.Failures
import Vigiscam.RiskFusion.Faults
import Vigiscam.ScamSignals.Verdicts

/-!
# Checks whose steps fail

The row of a check is stored first, without its pause. The pause, the risk event and the update
that links them come later, and a failure on the way leaves the row as it is, open to the
decision of its user. `no_pause_lost_iff` says which ends of a check leave a row that triggers
a pause and has none.
-/

namespace Checks

open Js Concurrency EvidenceVault Protection
open RiskFusion (added added_self added_append)

/-- The steps whose failure is caught. -/
def DbStep.BestEffort : DbStep → Prop
  | .signals _ | .graph _ => True
  | _ => False

/-- Every row that was stored from `s` to `t`, and whose level triggers a pause, has an existing
pause of its user. -/
def NoPauseLost (s t : Store) : Prop :=
  ∀ m, ∀ row ∈ added (s.events m) (t.events m), m.Triggers row.riskLevel →
    ∃ pause ∈ t.pauses, row.guardianPauseEventId = some pause.id ∧ pause.userId = row.userId

variable {s t : Store} {m : CheckModule} {row : CheckEvent m} {level : RiskLevel} {l : DbStep}
  {failed : List DbStep}

theorem noPauseLost_of_events (h : t.events = s.events) : NoPauseLost s t := by
  intro m row hrow
  rw [h, added_self] at hrow
  cases hrow

/-- One row was stored. -/
def Wrote (s : Store) (row : CheckEvent m) (t : Store) : Prop :=
  t.events = Function.update s.events m (s.events m ++ [row])

theorem Wrote.noPauseLost_iff (h : Wrote s row t) :
    NoPauseLost s t ↔ (m.Triggers row.riskLevel →
      ∃ pause ∈ t.pauses, row.guardianPauseEventId = some pause.id ∧
        pause.userId = row.userId) := by
  have hown : added (s.events m) (t.events m) = [row] := by
    rw [h, Function.update_self, added_append]
  constructor
  · intro hall
    exact hall m row (by rw [hown]; exact List.mem_singleton_self row)
  · intro hrow m' row' hrow'
    by_cases hm : m' = m
    · subst hm
      rw [hown] at hrow'
      rwa [List.mem_singleton.mp hrow']
    · rw [h, Function.update_of_ne hm, added_self] at hrow'
      cases hrow'

/-! ## What settles a check -/

/-- Once the row is stored, the check is settled by its level and by the steps that fail. -/
def Settles (m : CheckModule) (level : RiskLevel) (s : Store) (failed : List DbStep) (t : Store) :
    Prop :=
  .countWarnings ∉ failed ∧ .createEvent ∉ failed ∧
    (NoPauseLost s t ↔ ¬ m.Triggers level ∨ ∀ l ∈ failed, l.BestEffort)

/-- The steps that come after the row is stored, and whose failure is not caught. -/
def DbStep.Required : DbStep → Prop
  | .countWarnings | .createEvent | .signals _ | .graph _ => False
  | .appendEvidence | .countPauses | .createPause | .updatePause | .createRiskEvent
  | .linkEvent => True

theorem DbStep.Required.ne (h : l.Required) :
    l ≠ .countWarnings ∧ l ≠ .createEvent ∧ ¬ l.BestEffort := by
  cases l <;> simp_all [DbStep.Required, DbStep.BestEffort]

theorem settles_append {pre : List DbStep} (hpre : ∀ l ∈ pre, l.BestEffort)
    (h : Settles m level s failed t) : Settles m level s (pre ++ failed) t := by
  obtain ⟨hcount, hcreate, hiff⟩ := h
  refine ⟨fun hmem => ?_, fun hmem => ?_, ?_⟩
  · rcases List.mem_append.mp hmem with hmem | hmem
    · exact hpre _ hmem
    · exact hcount hmem
  · rcases List.mem_append.mp hmem with hmem | hmem
    · exact hpre _ hmem
    · exact hcreate hmem
  · rw [hiff, List.forall_mem_append, and_iff_right hpre]

/-- A required step fails while the row has no pause. -/
theorem Wrote.settles_failed (h : Wrote s row t) (hlevel : row.riskLevel = level)
    (hnone : row.guardianPauseEventId = none) (hl : l.Required) : Settles m level s [l] t := by
  obtain ⟨hcount, hcreate, hbest⟩ := hl.ne
  refine ⟨by simpa using hcount.symm, by simpa using hcreate.symm, ?_⟩
  rw [h.noPauseLost_iff, hlevel, hnone]
  simp [hbest, imp_false]

/-- The row has its pause where it triggers one. -/
theorem Wrote.settles (h : Wrote s row t) (hlevel : row.riskLevel = level)
    (hlinked : m.Triggers level →
      ∃ pause ∈ t.pauses, row.guardianPauseEventId = some pause.id ∧ pause.userId = row.userId) :
    Settles m level s [] t := by
  refine ⟨List.not_mem_nil, List.not_mem_nil, ?_⟩
  rw [h.noPauseLost_iff, hlevel]
  exact iff_of_true hlinked (Or.inr fun l hl => absurd hl List.not_mem_nil)

/-! ## One write after the other -/

section Writes

variable {user : AuthenticatedUser}

theorem outcomes_appendEvidence {P : List DbStep → Except HttpError Uuid → Store → Prop}
    (h : Wrote s row t) (input : AppendEvidenceInput)
    (hok : ∀ id u, Wrote s row u → u.pauses = t.pauses → P [] (.ok id) u)
    (hfailed : P [.appendEvidence] (.error .internal) t) :
    Prog.Outcomes P (appendEvidence input) t :=
  ⟨hok _ _ h rfl, hfailed⟩

theorem outcomes_createPause {P : List DbStep → Except HttpError PauseEvent → Store → Prop}
    (h : Wrote s row t) (new : Date → Uuid → PauseEvent)
    (hok : ∀ now id u, Wrote s row u → new now id ∈ u.pauses → P [] (.ok (new now id)) u)
    (hfailed : P [.createPause] (.error .internal) t) :
    Prog.Outcomes P (createPause new) t :=
  ⟨hok _ _ _ h (List.mem_append_right _ (List.mem_singleton_self _)), hfailed⟩

theorem outcomes_updatePause {P : List DbStep → Except HttpError PauseEvent → Store → Prop}
    (h : Wrote s row t) {pause : PauseEvent} (hpause : pause ∈ t.pauses) (evidenceEventId : Uuid)
    (hok : ∀ found u, Wrote s row u →
      (∃ p ∈ u.pauses, found.id = p.id ∧ p.userId = pause.userId) → P [] (.ok found) u)
    (hfailed : P [.updatePause] (.error .internal) t) :
    Prog.Outcomes P (updatePause pause.id evidenceEventId) t := by
  obtain ⟨found, hfound⟩ : ∃ found, Table.find PauseEvent.id pause.id t.pauses = some found := by
    refine Option.ne_none_iff_exists'.mp fun hnone => ?_
    exact Table.find_eq_none_iff.mp hnone (List.mem_map_of_mem hpause)
  refine (Prog.outcomes_attempt_some (by rw [hfound]; rfl)).mpr ⟨?_, hfailed⟩
  have hid : found.id = pause.id := Table.key_of_find hfound
  refine hok _ _ h ⟨pause.withEvidence evidenceEventId, ?_, hid, rfl⟩
  exact Table.mem_modify.mpr ⟨pause, hpause, if_pos rfl⟩

/-- A pause that starts is there in the end, under the id that is returned. -/
theorem outcomes_start {P : List DbStep → Except HttpError PauseEvent → Store → Prop}
    (h : Wrote s row t) (dto : GuardianPauseService.StartPauseDto)
    (hok : ∀ pause u, Wrote s row u →
      (∃ p ∈ u.pauses, pause.id = p.id ∧ p.userId = user.userId) → P [] (.ok pause) u)
    (hfailed : ∀ l u, DbStep.Required l → Wrote s row u → P [l] (.error .internal) u) :
    Prog.Outcomes P (GuardianPauseService.start user dto) t := by
  unfold GuardianPauseService.start
  rw [Prog.outcomes_bind]
  refine Prog.outcomes_act.mpr ⟨?_, hfailed .countPauses t trivial h⟩
  rw [Prog.onward_ok, Prog.outcomes_bind]
  refine outcomes_createPause h _ (fun now id u hu hpause => ?_)
    (hfailed .createPause t trivial h)
  rw [Prog.onward_ok, Prog.outcomes_bind]
  refine outcomes_appendEvidence hu _ (fun evidenceEventId v hv hpauses => ?_)
    (hfailed .appendEvidence u trivial hu)
  rw [← hpauses] at hpause
  rw [Prog.onward_ok]
  exact outcomes_updatePause hv hpause _ (fun found w hw hfound => hok found w hw hfound)
    (hfailed .updatePause v trivial hv)

theorem outcomes_record {P : List DbStep → Except HttpError RiskFusion.RiskEvent → Store → Prop}
    (h : Wrote s row t) {input : RiskEventRecorderService.RecordRiskEventInput} {riskScore : Int}
    (hscore : input.riskScore = some riskScore)
    (hok : ∀ event u, Wrote s row u → u.pauses = t.pauses → P [] (.ok event) u)
    (hfailed : P [.createRiskEvent] (.error .internal) t) :
    Prog.Outcomes P (RiskEventRecorderService.record user input) t := by
  refine (Prog.outcomes_attempt_some (by rw [hscore]; rfl)).mpr ⟨?_, hfailed⟩
  exact hok _ _ h rfl

theorem Wrote.find (h : Wrote s row t) (hid : row.id ∉ (s.events m).map CheckEvent.id) :
    Table.find CheckEvent.id row.id (t.events m) = some row := by
  rw [h, Function.update_self, Table.find_append_new hid]

/-- The last update gives the row its pause. -/
theorem Wrote.linkEvent (h : Wrote s row t) (hid : row.id ∉ (s.events m).map CheckEvent.id)
    (evidenceEventId : Uuid) (guardianPauseEventId : Option Uuid) :
    Wrote s (row.linked evidenceEventId guardianPauseEventId)
      (t.linkEvent m row.id evidenceEventId guardianPauseEventId) := by
  show Function.update t.events m _ = _
  rw [h, Function.update_self, Function.update_idem, Table.modify_append_new hid]

theorem outcomes_linkEvent {P : List DbStep → Except HttpError (CheckEvent m) → Store → Prop}
    (h : Wrote s row t) (hid : row.id ∉ (s.events m).map CheckEvent.id) (evidenceEventId : Uuid)
    (guardianPauseEventId : Option Uuid)
    (hok : ∀ u, Wrote s (row.linked evidenceEventId guardianPauseEventId) u →
      u.pauses = t.pauses → P [] (.ok (row.linked evidenceEventId guardianPauseEventId)) u)
    (hfailed : P [.linkEvent] (.error .internal) t) :
    Prog.Outcomes P (linkEvent m row.id evidenceEventId guardianPauseEventId) t := by
  refine (Prog.outcomes_attempt_some (by rw [h.find hid]; rfl)).mpr ⟨?_, hfailed⟩
  exact hok _ (h.linkEvent hid evidenceEventId guardianPauseEventId) rfl

end Writes

/-! ## What is best-effort -/

/-- The tables that a lost pause is about stay as they are. -/
def Store.SameRows (s t : Store) : Prop := t.events = s.events ∧ t.pauses = s.pauses

theorem Store.sameRows_refl (s : Store) : s.SameRows s := ⟨rfl, rfl⟩

theorem Store.sameRows_trans (s t u : Store) (hst : s.SameRows t) (htu : t.SameRows u) :
    s.SameRows u :=
  ⟨htu.1.trans hst.1, htu.2.trans hst.2⟩

abbrev Harmless {α : Type} (p : Program α) : Prop := p.Harmless DbStep.BestEffort Store.SameRows

/-- What a module adds to a check keeps its rows, and never makes it fail. -/
structure CheckSpec.Careful {Dto : Type} (spec : CheckSpec m Dto) : Prop where
  feed : ∀ user dto level, Harmless (spec.feed user dto level)
  project : ∀ dto scoring, Harmless (spec.project dto scoring)

theorem harmless_nothing : Harmless (pure () : Program Unit) :=
  Prog.harmless_pure Store.sameRows_refl ()

/-- A program on another part of the database, whose exceptions are caught. -/
theorem harmless_onPart {τ ℓ α : Type} (part : Part Store τ) (label : ℓ → DbStep)
    (hlabel : ∀ l, (label l).BestEffort) (hpart : ∀ (s : Store) u, s.SameRows (part.set u s))
    (p : Prog τ ℓ HttpError α) :
    Harmless (tryCatch (do
        let _ ← p.onPart part label
        return ())
      fun _ => pure () : Program Unit) := by
  refine Prog.harmless_tryCatch Store.sameRows_refl Store.sameRows_trans () ?_
  refine Prog.Each.bind ?_ fun _ => Prog.Each.pure ()
  refine (Prog.Each.onPart (Prog.each_of_forall (fun _ _ _ => trivial) p)).mono ?_
  rintro l' t t' ⟨l, rfl, -, ht⟩
  rw [ht]
  exact ⟨hlabel l, hpart t _⟩

theorem careful_spec (platform : ScamSignals.Platform) (m : CheckModule) :
    (m.spec platform).Careful := by
  cases m with
  | scamHold => exact ⟨fun _ _ _ => harmless_nothing, fun _ _ => harmless_nothing⟩
  | giftCardGuard => exact ⟨fun _ _ _ => harmless_nothing, fun _ _ => harmless_nothing⟩
  | walletGuard =>
    refine ⟨fun _ _ _ => harmless_nothing, fun dto scoring => ?_⟩
    exact harmless_onPart graphPart .graph (fun _ => trivial) (fun _ _ => ⟨rfl, rfl⟩) _
  | claimVerify =>
    refine ⟨fun user dto level => ?_, fun _ _ => harmless_nothing⟩
    refine Prog.harmless_forM Store.sameRows_refl Store.sameRows_trans (fun indicator => ?_) _
    exact harmless_onPart signalsPart .signals (fun _ => trivial) (fun _ _ => ⟨rfl, rfl⟩) _

/-! ## All ends of a check -/

theorem Wrote.same {u : Store} (h : Wrote s row t) (hsame : t.SameRows u) : Wrote s row u :=
  hsame.1.trans h

section Check

variable {Dto : Type} {spec : CheckSpec m Dto} {user : AuthenticatedUser} {dto : Dto}
  {scoring : ScoringResult}

/-- Where a pause is pulled, it is there in the end. -/
theorem outcomes_pullPause {P : List DbStep → Except HttpError (Option Uuid) → Store → Prop}
    {id : Uuid} (hspec : spec.Careful) (h : Wrote s row t)
    (hok : ∀ failed pauseId u, (∀ l ∈ failed, l.BestEffort) → Wrote s row u →
      (m.Triggers scoring.level →
        ∃ pause ∈ u.pauses, pauseId = some pause.id ∧ pause.userId = user.userId) →
      P failed (.ok pauseId) u)
    (hfailed : ∀ l u, DbStep.Required l → Wrote s row u → P [l] (.error .internal) u) :
    Prog.Outcomes P (spec.pullPause user dto scoring id) t := by
  unfold CheckSpec.pullPause
  by_cases htriggers : m.Triggers scoring.level
  · rw [if_pos htriggers, Prog.outcomes_bind]
    refine outcomes_start h _ (fun pause u hu hpause => ?_) hfailed
    rw [Prog.onward_ok, Prog.outcomes_bind]
    refine (hspec.feed user dto scoring.level).outcomes fun failed _ v hbest hsame => ?_
    rw [Prog.onward_ok, Prog.outcomes_pure, List.nil_append, List.append_nil]
    refine hok failed _ v hbest (hu.same hsame) fun _ => ?_
    obtain ⟨p, hp, hid, huser⟩ := hpause
    rw [hsame.2]
    exact ⟨p, hp, congrArg some hid, huser⟩
  · rw [if_neg htriggers, Prog.outcomes_pure]
    exact hok [] none t (fun l hl => absurd hl List.not_mem_nil) h fun h => absurd h htriggers

/-- What comes after the pause. -/
theorem outcomes_finish (hspec : spec.Careful) (h : Wrote s row t)
    (hlevel : row.riskLevel = scoring.level) (hnone : row.guardianPauseEventId = none)
    (huser : row.userId = user.userId) (hid : row.id ∉ (s.events m).map CheckEvent.id)
    {score : Int} (hscore : scoring.score = some score) {pauseId : Option Uuid}
    (hpause : m.Triggers scoring.level →
      ∃ pause ∈ t.pauses, pauseId = some pause.id ∧ pause.userId = user.userId)
    (evidenceEventId : Uuid) :
    Prog.Outcomes (fun failed _ u => Settles m scoring.level s failed u)
      (do
        let _ ← RiskEventRecorderService.record user
          (spec.riskEvent dto scoring row.id evidenceEventId)
        spec.project dto scoring
        linkEvent m row.id evidenceEventId pauseId) t := by
  have hfailed : ∀ {l u}, DbStep.Required l → Wrote s row u →
      Settles m scoring.level s [l] u := fun hl hu => hu.settles_failed hlevel hnone hl
  rw [Prog.outcomes_bind]
  refine outcomes_record h hscore (fun event u hu hpauses => ?_) (hfailed (by exact trivial) h)
  rw [Prog.onward_ok, Prog.outcomes_bind]
  refine (hspec.project dto scoring).outcomes fun failed _ v hbest hsame => ?_
  have hv := hu.same hsame
  simp only [Prog.onward_ok, List.nil_append]
  refine outcomes_linkEvent hv hid _ _ (fun w hw hpauses' => ?_) ?_
  · refine settles_append hbest (hw.settles hlevel fun htriggers => ?_)
    obtain ⟨pause, hmem, hpauseId, howner⟩ := hpause htriggers
    rw [hpauses', hsame.2, hpauses]
    exact ⟨pause, hmem, hpauseId, howner.trans huser.symm⟩
  · exact settles_append hbest (hfailed (by exact trivial) hv)

/-- What comes after the row. -/
theorem outcomes_stored (hspec : spec.Careful) (h : Wrote s row t)
    (hlevel : row.riskLevel = scoring.level) (hnone : row.guardianPauseEventId = none)
    (huser : row.userId = user.userId) (hid : row.id ∉ (s.events m).map CheckEvent.id)
    {score : Int} (hscore : scoring.score = some score) :
    Prog.Outcomes (fun failed _ u => Settles m scoring.level s failed u)
      (do
        let evidenceEventId ← appendEvidence (spec.openedEvidence user dto scoring row.id)
        let pauseId ← spec.pullPause user dto scoring row.id
        let _ ← RiskEventRecorderService.record user
          (spec.riskEvent dto scoring row.id evidenceEventId)
        spec.project dto scoring
        linkEvent m row.id evidenceEventId pauseId) t := by
  rw [Prog.outcomes_bind]
  refine outcomes_appendEvidence h _ (fun evidenceEventId u hu _ => ?_)
    (h.settles_failed hlevel hnone (by exact trivial))
  rw [Prog.onward_ok, Prog.outcomes_bind]
  refine outcomes_pullPause hspec hu (fun failed pauseId v hbest hv hpause => ?_)
    (fun l v hl hv => hv.settles_failed hlevel hnone hl)
  simp only [Prog.onward_ok, List.nil_append]
  refine (outcomes_finish hspec hv hlevel hnone huser hid hscore hpause evidenceEventId).mono ?_
  exact fun failed' _ w hw => settles_append hbest hw

/-- A NaN triggers nothing. -/
theorem not_triggers_of_nan (h : scoring.score = none) : ¬ m.Triggers scoring.level := by
  rw [scoring.level_eq, h]
  cases m <;> simp [CheckModule.Triggers, scoreToLevel]

/-- All ends of the body that the checks share. -/
theorem noPauseLost_checkWith_iff (hspec : spec.Careful)
    {result : Except HttpError (CheckEvent m)}
    (h : Prog.Ends (checkWith spec user dto) s failed result t) :
    NoPauseLost s t ↔ spec.columns dto = none ∨
      ¬ m.Triggers (spec.scoring dto (s.priorWarnings m user.userId)).level ∨
        .countWarnings ∈ failed ∨ .createEvent ∈ failed ∨ ∀ l ∈ failed, l.BestEffort := by
  let scoring := spec.scoring dto (s.priorWarnings m user.userId)
  let P : List DbStep → Except HttpError (CheckEvent m) → Store → Prop := fun failed _ t =>
    NoPauseLost s t ↔ spec.columns dto = none ∨ ¬ m.Triggers scoring.level ∨
      .countWarnings ∈ failed ∨ .createEvent ∈ failed ∨ ∀ l ∈ failed, l.BestEffort
  have hnothing : NoPauseLost s s := noPauseLost_of_events rfl
  have hall : Prog.Outcomes P (checkWith spec user dto) s := by
    unfold checkWith
    rw [Prog.outcomes_bind]
    refine Prog.outcomes_act.mpr ⟨?_, iff_of_true hnothing (by simp)⟩
    rw [Prog.onward_ok, Prog.outcomes_bind]
    show Prog.Outcomes _ (spec.openEvent user dto _ scoring) s
    unfold CheckSpec.openEvent
    cases hcolumns : spec.columns dto with
    | none => exact iff_of_true hnothing (Or.inl hcolumns)
    | some columns =>
      have hrefused : P [.createEvent] (.error .internal) s := iff_of_true hnothing (by simp)
      cases hscore : scoring.score with
      | none =>
        refine (Prog.outcomes_attempt_none rfl).mpr ⟨?_, hrefused⟩
        exact iff_of_true hnothing (Or.inr (Or.inl (not_triggers_of_nan hscore)))
      | some score =>
        refine (Prog.outcomes_attempt_some rfl).mpr ⟨?_, hrefused⟩
        have hwrote : Wrote s (spec.newEvent user dto columns (s.priorWarnings m user.userId)
          scoring
            score s.now (s.uuid s.issued)) (s.addEvent m (spec.newEvent user dto columns
              (s.priorWarnings m user.userId) scoring score s.now) fun _ => rfl) := rfl
        have hid := s.events_issued m _ le_rfl
        rw [Prog.onward_ok]
        refine (outcomes_stored hspec hwrote rfl rfl rfl hid hscore).mono ?_
        rintro failed result u ⟨hcount, hcreate, hiff⟩
        show NoPauseLost s u ↔ _
        rw [hiff]
        simp only [hcolumns, List.nil_append, hcount, hcreate, reduceCtorEq, false_or]
        exact Iff.rfl
  exact Prog.outcomes_iff.mp hall _ _ _ h

end Check

theorem columns_eq_none_iff (platform : ScamSignals.Platform) (dto : m.Dto) :
    (m.spec platform).columns dto = none ↔ m.Unreadable dto := by
  cases m with
  | giftCardGuard =>
    show Option.map _ (GiftCardGuardService.denominationColumn dto.denominationMinor) = none ↔ _
    rw [Option.map_eq_none_iff]
    show _ ↔ dto.denominationMinor = some none
    cases dto.denominationMinor with
    | none => simp [GiftCardGuardService.denominationColumn]
    | some denomination => cases denomination <;> simp [GiftCardGuardService.denominationColumn]
  | scamHold => exact iff_of_false (Option.some_ne_none _) id
  | walletGuard => exact iff_of_false (Option.some_ne_none _) id
  | claimVerify => exact iff_of_false (Option.some_ne_none _) id

theorem scoring_spec (platform : ScamSignals.Platform) (m : CheckModule) :
    (m.spec platform).scoring = m.scoring := by
  cases m <;> rfl

/-- **A check loses no pause exactly where nothing is stored, its level triggers none, or only
what is caught fails.** -/
theorem no_pause_lost_iff {platform : ScamSignals.Platform} {user : AuthenticatedUser}
    {dto : m.Dto} {result : Except HttpError (CheckEvent m)}
    (h : Prog.Ends (check platform m user dto) s failed result t) :
    NoPauseLost s t ↔ m.Unreadable dto ∨
      ¬ m.Triggers (m.scoring dto (s.priorWarnings m user.userId)).level ∨
        .countWarnings ∈ failed ∨ .createEvent ∈ failed ∨ ∀ l ∈ failed, l.BestEffort := by
  rw [check_eq] at h
  rw [noPauseLost_checkWith_iff (careful_spec platform m) h, columns_eq_none_iff, scoring_spec]

/-! ### A gift card -/

def emptyStore : Store where
  events _ := []
  pauses := []
  riskEvents := []
  evidence := []
  signals := { ScamSignals.emptyStore with clusters := [] }
  graph := {
    nodes := []
    now := ScamSignals.emptyStore.now
    uuid := ScamSignals.emptyStore.uuid
    issued := 0 }
  now := ScamSignals.emptyStore.now
  uuid n := List.replicate n 0
  issued := 0
  uuid_injective := RiskFusion.emptyStore.uuid_injective
  events_issued _ _ _ := List.not_mem_nil

/-- Someone claims to be the government, and asks for the code of a card. -/
def codeRequest : GiftCardGuardService.ScanGiftCardDto where
  cardBrand := some "Amazon"
  denominationMinor := some (some 50000)
  currency := none
  codeRevealRequested := some true
  photoOfCodeRequested := none
  impersonationType := some .government
  urgencyDetected := some true
  secrecyDetected := none
  elderModeActive := none
  metadata := none

/-- The scan where the steps fail that the list says. -/
def scanEnd (fails : List Bool) :
    List DbStep × Except HttpError (CheckEvent .giftCardGuard) × Store :=
  (check ScamSignals.plainPlatform .giftCardGuard RiskFusion.sampleUser codeRequest).outcome fails
    emptyStore

/-- Where no step fails, the row has its pause. -/
theorem no_pause_lost_code_request :
    ((scanEnd []).2.2.events .giftCardGuard).map (fun row =>
        (row.riskLevel, row.guardianPauseEventId.isSome)) = [(.critical, true)] ∧
      NoPauseLost emptyStore (scanEnd []).2.2 := by
  have hnone : (scanEnd []).1.length = 0 := by decide +kernel
  refine ⟨by decide +kernel, ?_⟩
  refine (no_pause_lost_iff (Prog.ends_outcome [] _ emptyStore)).mpr ?_
  refine Or.inr (Or.inr (Or.inr (Or.inr fun l hl => ?_)))
  have hmem : l ∈ (scanEnd []).1 := hl
  rw [List.eq_nil_of_length_eq_zero hnone] at hmem
  cases hmem

/-- The pause is not created: the row stays, critical and pending, without a pause. -/
theorem warning_without_pause :
    Prog.Ends (check ScamSignals.plainPlatform .giftCardGuard RiskFusion.sampleUser codeRequest)
        emptyStore [.createPause] (scanEnd [false, false, false, false, true]).2.1
        (scanEnd [false, false, false, false, true]).2.2 ∧
      ((scanEnd [false, false, false, false, true]).2.2.events .giftCardGuard).map (fun row =>
        (row.riskLevel, row.status, row.guardianPauseEventId)) = [(.critical, .pending, none)] ∧
      ¬ NoPauseLost emptyStore (scanEnd [false, false, false, false, true]).2.2 := by
  have hfailed : (scanEnd [false, false, false, false, true]).1 = [.createPause] := rfl
  have hends := Prog.ends_outcome [false, false, false, false, true]
    (check ScamSignals.plainPlatform .giftCardGuard RiskFusion.sampleUser codeRequest) emptyStore
  have hrows : ((scanEnd [false, false, false, false, true]).2.2.events .giftCardGuard).map
      (fun row => (row.riskLevel, row.status, row.guardianPauseEventId)) =
        [(.critical, .pending, none)] := by
    decide +kernel
  refine ⟨hfailed ▸ hends, hrows, fun hall => ?_⟩
  obtain ⟨row, hrow⟩ : ∃ row,
      (scanEnd [false, false, false, false, true]).2.2.events .giftCardGuard = [row] :=
    List.length_eq_one_iff.mp (by decide +kernel)
  rw [hrow, List.map_singleton, List.singleton_inj] at hrows
  obtain ⟨hlevel, hrest⟩ := Prod.mk.inj hrows
  have hnone : row.guardianPauseEventId = none := (Prod.mk.inj hrest).2
  obtain ⟨pause, -, hpause, -⟩ := hall .giftCardGuard row
    (by rw [hrow]; exact List.mem_singleton_self row) (Or.inr hlevel)
  rw [hnone] at hpause
  cases hpause

end Checks
