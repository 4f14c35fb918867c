import Vigiscam.Common.Columns
import Vigiscam.Concurrency.Calls
import Vigiscam.Concurrency.Failures
import Vigiscam.Concurrency.Table

/-!
# The registry of models (`model-registry.service.ts`)

`setStatus` retires the ACTIVE version of a service before it activates another one. `register`
writes the status that it is given, and retires nothing. There is one ACTIVE model of a service at
most exactly in the runs where no version is registered as ACTIVE beside an ACTIVE version
(`one_active_iff`).
-/

namespace ModelGovernance

open Js Common Concurrency

/-! ## The table -/

inductive ModelStatus where
  | draft | shadow | active | retired
deriving DecidableEq

inductive AIDecisionSource where
  | stub | external
deriving DecidableEq

structure ModelRegistry where
  id : Uuid
  serviceKind : Text
  modelName : Text
  version : Text
  status : ModelStatus
  source : AIDecisionSource
  metrics : Option Value
  notes : Option Text
  registeredByUserId : Option Uuid

/-- What a version is registered under. -/
def ModelRegistry.key (m : ModelRegistry) : Text × Text := (m.serviceKind, m.version)

/-- The rows, in the order of their creation. -/
structure Store where
  models : List ModelRegistry
  uuid : Nat → Uuid
  issued : Nat
  uuid_injective : Function.Injective uuid
  models_issued : ∀ n, issued ≤ n → uuid n ∉ models.map ModelRegistry.id
  ids_nodup : (models.map ModelRegistry.id).Nodup
  keys_nodup : (models.map ModelRegistry.key).Nodup

def emptyStore (uuid : Nat → Uuid) (h : Function.Injective uuid) : Store :=
  ⟨[], uuid, 0, h, fun _ _ => List.not_mem_nil, List.nodup_nil, List.nodup_nil⟩

/-- The same rows, with other columns. -/
def Store.rewrite (s : Store) (f : ModelRegistry → ModelRegistry) (hid : ∀ m, (f m).id = m.id)
    (hkey : ∀ m, (f m).key = m.key) : Store :=
  have hids : (s.models.map f).map ModelRegistry.id = s.models.map ModelRegistry.id := by
    rw [List.map_map]
    exact List.map_congr_left fun m _ => hid m
  have hkeys : (s.models.map f).map ModelRegistry.key = s.models.map ModelRegistry.key := by
    rw [List.map_map]
    exact List.map_congr_left fun m _ => hkey m
  { s with
    models := s.models.map f
    models_issued := by
      rw [hids]
      exact s.models_issued
    ids_nodup := by
      rw [hids]
      exact s.ids_nodup
    keys_nodup := by
      rw [hkeys]
      exact s.keys_nodup }

/-- A new row, under the next id. -/
def Store.add (s : Store) (m : ModelRegistry) (hid : m.id = s.uuid s.issued)
    (hkey : m.key ∉ s.models.map ModelRegistry.key) : Store :=
  { s with
    models := s.models ++ [m]
    issued := s.issued + 1
    models_issued := Table.issued_append s.uuid_injective s.models_issued hid
    ids_nodup := Table.nodup_append_new s.ids_nodup (hid ▸ s.models_issued s.issued le_rfl)
    keys_nodup := Table.nodup_append_new s.keys_nodup hkey }

/-! ## The service -/

inductive RegistryStep where
  | upsert | find | retire | update
deriving DecidableEq

abbrev Program (α : Type) := Prog Store RegistryStep HttpError α

structure RegisterModelDto where
  serviceKind : Text
  modelName : Text
  version : Text
  status : Given ModelStatus
  source : Given AIDecisionSource
  metrics : Option Value
  notes : Given Text

/-- The row of a version that is new. -/
def newModel (user : AuthenticatedUser) (dto : RegisterModelDto) (id : Uuid) : ModelRegistry where
  id := id
  serviceKind := dto.serviceKind
  modelName := dto.modelName
  version := dto.version
  status := (dto.status.required .draft).getD .draft
  source := (dto.source.required .external).getD .external
  metrics := dto.metrics
  notes := dto.notes.nullable none
  registeredByUserId := some user.userId

/-- The columns that a version gets when it is registered again. -/
def RegisterModelDto.update (dto : RegisterModelDto) (m : ModelRegistry) : ModelRegistry :=
  { m with
    modelName := dto.modelName
    status := (dto.status.required m.status).getD m.status
    source := (dto.source.required m.source).getD m.source
    metrics := dto.metrics.or m.metrics
    notes := dto.notes.nullable m.notes }

/-- Only the version is written that `dto` names. -/
def RegisterModelDto.rewrite (dto : RegisterModelDto) (m : ModelRegistry) : ModelRegistry :=
  if m.key = (dto.serviceKind, dto.version) then dto.update m else m

theorem RegisterModelDto.id_rewrite (dto : RegisterModelDto) (m : ModelRegistry) :
    (dto.rewrite m).id = m.id := by
  unfold rewrite
  split <;> rfl

theorem RegisterModelDto.key_rewrite (dto : RegisterModelDto) (m : ModelRegistry) :
    (dto.rewrite m).key = m.key := by
  unfold rewrite
  split <;> rfl

/-- `upsert`; the client refuses a null for a column that has none, whichever branch is taken. -/
def register (user : AuthenticatedUser) (dto : RegisterModelDto) : Program Unit :=
  Prog.attempt .upsert .internal fun s =>
    if dto.status = .null ∨ dto.source = .null then none
    else if h : (dto.serviceKind, dto.version) ∈ s.models.map ModelRegistry.key then
      some ((), s.rewrite dto.rewrite dto.id_rewrite dto.key_rewrite)
    else some ((), s.add (newModel user dto (s.uuid s.issued)) rfl h)

/-- The newest ACTIVE model of a service. -/
def getActive (serviceKind : Text) (s : Store) : Option ModelRegistry :=
  (s.models.filter fun m => m.serviceKind = serviceKind ∧ m.status = .active).getLast?

def ModelRegistry.withStatus (status : ModelStatus) (m : ModelRegistry) : ModelRegistry :=
  { m with status }

/-- The row where another version of its service becomes the active one. -/
def retired (serviceKind : Text) (id : Uuid) (m : ModelRegistry) : ModelRegistry :=
  if m.serviceKind = serviceKind ∧ m.status = .active ∧ m.id ≠ id then m.withStatus .retired else m

/-- `updateMany` of the other active versions. -/
def retireOthers (serviceKind : Text) (id : Uuid) : Program Unit :=
  Prog.act .retire .internal fun s =>
    ((), s.rewrite (retired serviceKind id)
      (fun m => by unfold retired; split <;> rfl) (fun m => by unfold retired; split <;> rfl))

def updateStatus (id : Uuid) (status : ModelStatus) : Program Unit :=
  Prog.attempt .update .internal fun s =>
    if id ∈ s.models.map ModelRegistry.id then
      some ((), s.rewrite (fun m => if m.id = id then m.withStatus status else m)
        (fun m => by split <;> rfl) (fun m => by split <;> rfl))
    else none

def setStatus (id : Text) (status : ModelStatus) : Program Unit := do
  match ← Prog.act .find .internal fun s =>
    (Table.find ModelRegistry.id (uuidColumn id) s.models, s) with
  | none => throw (.notFound "Model not found")
  | some model =>
    if status = .active then retireOthers model.serviceKind (uuidColumn id)
    updateStatus (uuidColumn id) status

/-! ## Calls -/

inductive RegistryCall where
  | register (user : AuthenticatedUser) (dto : RegisterModelDto)
  | setStatus (id : Text) (status : ModelStatus)

def RegistryCall.program : RegistryCall → Program Unit
  | register user dto => ModelGovernance.register user dto
  | setStatus id status => ModelGovernance.setStatus id status

/-- A call, and which of its steps fail, one after the other. -/
structure Event where
  call : RegistryCall
  fails : List Bool

namespace Event

/-- The store after a call that nobody interrupts. -/
def exec (e : Event) (s : Store) : Store := (Prog.outcome e.fails e.call.program s).2.2

/-- The steps of the call that fail. -/
def failed (e : Event) (s : Store) : List RegistryStep :=
  (Prog.outcome e.fails e.call.program s).1

end Event

/-- The call registers a version as ACTIVE while another version of the service is, and nothing
keeps it from that. -/
def RegistryCall.Doubles (failed : List RegistryStep) (s : Store) : RegistryCall → Prop
  | register _ dto => dto.status = .value .active ∧ dto.source ≠ .null ∧ .upsert ∉ failed ∧
      ∃ m ∈ s.models, m.serviceKind = dto.serviceKind ∧ m.version ≠ dto.version ∧
        m.status = .active
  | setStatus _ _ => False

/-- What a call can come to. -/
inductive CallEnd (e : Event) (failed : List RegistryStep) (s t : Store) : Prop
  | untouched (hidle : ¬ e.call.Doubles failed s) (h : t = s)
  | rewritten (user : AuthenticatedUser) (dto : RegisterModelDto)
      (hcall : e.call = .register user dto) (hsource : dto.source ≠ .null)
      (hdone : .upsert ∉ failed)
      (hknown : (dto.serviceKind, dto.version) ∈ s.models.map ModelRegistry.key)
      (hmodels : t.models = s.models.map dto.rewrite)
  | added (user : AuthenticatedUser) (dto : RegisterModelDto)
      (hcall : e.call = .register user dto) (hsource : dto.source ≠ .null)
      (hdone : .upsert ∉ failed)
      (hnew : (dto.serviceKind, dto.version) ∉ s.models.map ModelRegistry.key)
      (hmodels : t.models = s.models ++ [newModel user dto (s.uuid s.issued)])
  | retiredOnly (model : ModelRegistry) (hidle : ¬ e.call.Doubles failed s)
      (hmodels : t.models = s.models.map (retired model.serviceKind model.id))
  | demoted (id : Uuid) (status : ModelStatus) (hidle : ¬ e.call.Doubles failed s)
      (hstatus : status ≠ .active)
      (hmodels : t.models = s.models.map fun m => if m.id = id then m.withStatus status else m)
  | promoted (model : ModelRegistry) (hidle : ¬ e.call.Doubles failed s)
      (hmodel : model ∈ s.models)
      (hmodels : t.models = (s.models.map (retired model.serviceKind model.id)).map
        fun m => if m.id = model.id then m.withStatus .active else m)

section Ends

variable {e : Event} {s : Store}

theorem ends_register {user : AuthenticatedUser} {dto : RegisterModelDto}
    (hcall : e.call = .register user dto) :
    Prog.Outcomes (fun failed _ t => CallEnd e failed s t) (register user dto) s := by
  have hdoubles : ∀ failed, e.call.Doubles failed s → dto.status = .value .active ∧
      dto.source ≠ .null ∧ .upsert ∉ failed := by
    intro failed h
    rw [hcall] at h
    exact ⟨h.1, h.2.1, h.2.2.1⟩
  refine Prog.outcomes_attempt (.untouched (fun h => ?_) rfl)
    (fun hnone => .untouched (fun h => ?_) rfl) fun _ t hsome => ?_
  · exact (hdoubles _ h).2.2 (List.mem_singleton_self _)
  · obtain ⟨hstatus, hsource, -⟩ := hdoubles _ h
    rw [if_neg (by simp [hstatus, hsource])] at hnone
    split at hnone <;> cases hnone
  · obtain ⟨hgiven, hsome⟩ := Option.ite_none_left_eq_some.mp hsome
    rw [not_or] at hgiven
    split at hsome
    · next hknown =>
      cases hsome
      exact .rewritten user dto hcall hgiven.2 List.not_mem_nil hknown rfl
    · next hnew =>
      cases hsome
      exact .added user dto hcall hgiven.2 List.not_mem_nil hnew rfl

theorem ends_updateStatus {P : List RegistryStep → Except HttpError Unit → Store → Prop}
    {id : Uuid} {status : ModelStatus} (hfailed : P [.update] (.error .internal) s)
    (hnone : P [] (.error .internal) s)
    (hdone : ∀ t : Store, t.models = (s.models.map fun m =>
      if m.id = id then m.withStatus status else m) → P [] (.ok ()) t) :
    Prog.Outcomes P (updateStatus id status) s := by
  refine Prog.outcomes_attempt hfailed (fun _ => hnone) fun _ t hsome => ?_
  obtain ⟨-, hsome⟩ := Option.ite_none_right_eq_some.mp hsome
  cases hsome
  exact hdone _ rfl

theorem ends_setStatus {id : Text} {status : ModelStatus}
    (hidle : ∀ failed, ¬ e.call.Doubles failed s) :
    Prog.Outcomes (fun failed _ t => CallEnd e failed s t) (setStatus id status) s := by
  simp only [setStatus, Prog.outcomes_bind, Prog.outcomes_act, Prog.onward_ok, Prog.onward_error]
  refine ⟨?_, .untouched (hidle _) rfl⟩
  cases hfind : Table.find ModelRegistry.id (uuidColumn id) s.models with
  | none => exact .untouched (hidle _) rfl
  | some model =>
    have hid : model.id = uuidColumn id := Table.key_of_find hfind
    rw [← hid]
    by_cases hstatus : status = .active
    · subst hstatus
      simp only [if_true, retireOthers, Prog.outcomes_bind, Prog.outcomes_act, Prog.onward_ok,
        Prog.onward_error]
      refine ⟨?_, .untouched (hidle _) rfl⟩
      refine ends_updateStatus ?_ ?_ fun t ht => ?_
      · exact .retiredOnly model (hidle _) rfl
      · exact .retiredOnly model (hidle _) rfl
      · exact .promoted model (hidle _) (Table.mem_of_find hfind) ht
    · simp only [if_neg hstatus]
      exact ends_updateStatus (.untouched (hidle _) rfl) (.untouched (hidle _) rfl)
        fun t ht => .demoted model.id status (hidle _) hstatus ht

/-- **What a call can come to.** -/
theorem callEnd (e : Event) (s : Store) : CallEnd e (e.failed s) s (e.exec s) := by
  have hend : Prog.Outcomes (fun failed _ t => CallEnd e failed s t) e.call.program s := by
    cases hcall : e.call with
    | register user dto => exact ends_register hcall
    | setStatus id status => exact ends_setStatus fun failed h => by rwa [hcall] at h
  exact Prog.outcomes_iff.mp hend _ _ _ (Prog.ends_outcome _ _ _)

end Ends

/-! ## One ACTIVE model of a service -/

/-- No two models of a service are ACTIVE. -/
def OneActive (models : List ModelRegistry) : Prop :=
  ∀ m ∈ models, ∀ m' ∈ models, m.status = .active → m'.status = .active →
    m.serviceKind = m'.serviceKind → m.id = m'.id

section Active

variable {e : Event} {s s₀ : Store} {models models' : List ModelRegistry}

/-- A change that makes nothing ACTIVE. -/
theorem OneActive.of_active (h : OneActive models)
    (hactive : ∀ m' ∈ models', m'.status = .active → ∃ m ∈ models, m.status = .active ∧
      m.id = m'.id ∧ m.serviceKind = m'.serviceKind) : OneActive models' := by
  intro m' hm' n' hn' hmactive hnactive hkind
  obtain ⟨m, hm, hmstatus, hmid, hmkind⟩ := hactive m' hm' hmactive
  obtain ⟨n, hn, hnstatus, hnid, hnkind⟩ := hactive n' hn' hnactive
  rw [← hmid, ← hnid]
  exact h m hm n hn hmstatus hnstatus (hmkind.trans (hkind.trans hnkind.symm))

/-- A change that makes one model ACTIVE, of a service that has no other. -/
theorem OneActive.of_active_or (model : ModelRegistry) (h : OneActive models)
    (hactive : ∀ m' ∈ models', m'.status = .active → m'.id = model.id ∧
        m'.serviceKind = model.serviceKind ∨
      (m'.serviceKind ≠ model.serviceKind ∧ ∃ m ∈ models, m.status = .active ∧ m.id = m'.id ∧
        m.serviceKind = m'.serviceKind)) : OneActive models' := by
  intro m' hm' n' hn' hmactive hnactive hkind
  rcases hactive m' hm' hmactive with ⟨hmid, hmkind⟩ | ⟨hmkind, m, hm, hmstatus, hmid, hmsame⟩
  · rcases hactive n' hn' hnactive with ⟨hnid, -⟩ | ⟨hnkind, -⟩
    · exact hmid.trans hnid.symm
    · exact absurd (hkind.symm.trans hmkind) hnkind
  · rcases hactive n' hn' hnactive with ⟨-, hnkind⟩ | ⟨-, n, hn, hnstatus, hnid, hnsame⟩
    · exact absurd (hkind.trans hnkind) hmkind
    · rw [← hmid, ← hnid]
      exact h m hm n hn hmstatus hnstatus (hmsame.trans (hkind.trans hnsame.symm))

theorem active_retired {m : ModelRegistry} {serviceKind : Text} {id : Uuid}
    (h : (retired serviceKind id m).status = .active) :
    retired serviceKind id m = m ∧ m.status = .active ∧
      (m.serviceKind ≠ serviceKind ∨ m.id = id) := by
  unfold retired at h ⊢
  split at h
  · cases h
  · next hnot =>
    rw [if_neg hnot]
    refine ⟨rfl, h, ?_⟩
    by_contra hboth
    rw [not_or, not_not] at hboth
    exact hnot ⟨hboth.1, h, hboth.2⟩

theorem key_injOn {m m' : ModelRegistry} (hm : m ∈ s.models) (hm' : m' ∈ s.models)
    (hkind : m.serviceKind = m'.serviceKind) (hversion : m.version = m'.version) : m = m' :=
  List.inj_on_of_nodup_map s.keys_nodup hm hm' (Prod.ext hkind hversion)

/-- A version that is registered again. -/
theorem OneActive.rewritten (h : OneActive s.models) {dto : RegisterModelDto}
    (hknown : (dto.serviceKind, dto.version) ∈ s.models.map ModelRegistry.key)
    (halone : dto.status = .value .active → ∀ m ∈ s.models, m.serviceKind = dto.serviceKind →
      m.version ≠ dto.version → m.status ≠ .active) :
    OneActive (s.models.map dto.rewrite) := by
  obtain ⟨known, hmem, hkey⟩ := List.mem_map.mp hknown
  obtain ⟨hkind, hversion⟩ := Prod.mk.injEq .. ▸ hkey
  -- a version that is ACTIVE afterwards was ACTIVE before, or is the one that the call names
  have hbecomes : ∀ m ∈ s.models, (dto.rewrite m).status = .active →
      m.status = .active ∨ m = known ∧ dto.status = .value .active := by
    intro m hm hactive
    unfold RegisterModelDto.rewrite at hactive
    split at hactive
    · next hsame =>
      cases hstatus : dto.status with
      | undefined =>
        left
        simpa [RegisterModelDto.update, hstatus, Given.required] using hactive
      | null =>
        left
        simpa [RegisterModelDto.update, hstatus, Given.required] using hactive
      | value status =>
        right
        have hgiven : status = .active := by
          simpa [RegisterModelDto.update, hstatus, Given.required] using hactive
        exact ⟨List.inj_on_of_nodup_map s.keys_nodup hm hmem (hsame.trans hkey.symm),
          congrArg Given.value hgiven⟩
    · exact Or.inl hactive
  by_cases hgiven : dto.status = .value .active
  · refine h.of_active_or known fun m' hm' hactive => ?_
    obtain ⟨m, hm, rfl⟩ := List.mem_map.mp hm'
    have hsame := congrArg Prod.fst (dto.key_rewrite m)
    by_cases hknown : m = known
    · subst hknown
      exact Or.inl ⟨dto.id_rewrite m, hsame⟩
    · have hwas := (hbecomes m hm hactive).resolve_right fun hnamed => hknown hnamed.1
      refine Or.inr ⟨fun hother => ?_, m, hm, hwas, (dto.id_rewrite m).symm, hsame.symm⟩
      have hkind' : m.serviceKind = known.serviceKind := hsame.symm.trans hother
      refine halone hgiven m hm (hkind'.trans hkind) (fun hv => ?_) hwas
      exact hknown (key_injOn hm hmem hkind' (hv.trans hversion.symm))
  · refine h.of_active fun m' hm' hactive => ?_
    obtain ⟨m, hm, rfl⟩ := List.mem_map.mp hm'
    have hwas := (hbecomes m hm hactive).resolve_right fun hnamed => hgiven hnamed.2
    exact ⟨m, hm, hwas, (dto.id_rewrite m).symm, (congrArg Prod.fst (dto.key_rewrite m)).symm⟩

/-- A version that is registered for the first time. -/
theorem OneActive.added (h : OneActive models) {model : ModelRegistry}
    (halone : model.status = .active → ∀ m ∈ models, m.serviceKind = model.serviceKind →
      m.status ≠ .active) : OneActive (models ++ [model]) := by
  by_cases hactive : model.status = .active
  · refine h.of_active_or model fun m hm hstatus => ?_
    rw [List.mem_append, List.mem_singleton] at hm
    rcases hm with hm | rfl
    · exact Or.inr ⟨fun hkind => halone hactive m hm hkind hstatus, m, hm, hstatus, rfl, rfl⟩
    · exact Or.inl ⟨rfl, rfl⟩
  · refine h.of_active fun m hm hstatus => ?_
    rw [List.mem_append, List.mem_singleton] at hm
    rcases hm with hm | rfl
    · exact ⟨m, hm, hstatus, rfl, rfl⟩
    · exact absurd hstatus hactive

theorem OneActive.retired (h : OneActive models) (serviceKind : Text) (id : Uuid) :
    OneActive (models.map (retired serviceKind id)) := by
  refine h.of_active fun m' hm' hactive => ?_
  obtain ⟨m, hm, rfl⟩ := List.mem_map.mp hm'
  obtain ⟨hsame, hstatus, -⟩ := active_retired hactive
  rw [hsame]
  exact ⟨m, hm, hstatus, rfl, rfl⟩

/-- A version that takes the place of the ACTIVE one. -/
theorem OneActive.promoted (h : OneActive s.models) {model : ModelRegistry}
    (hmodel : model ∈ s.models) :
    OneActive ((s.models.map (ModelGovernance.retired model.serviceKind model.id)).map
      fun m => if m.id = model.id then m.withStatus .active else m) := by
  refine h.of_active_or model fun m' hm' hactive => ?_
  rw [List.map_map] at hm'
  obtain ⟨m, hm, rfl⟩ := List.mem_map.mp hm'
  have hid : (ModelGovernance.retired model.serviceKind model.id m).id = m.id := by
    unfold ModelGovernance.retired
    split <;> rfl
  have hkind :
      (ModelGovernance.retired model.serviceKind model.id m).serviceKind = m.serviceKind := by
    unfold ModelGovernance.retired
    split <;> rfl
  by_cases hnamed : m.id = model.id
  · simp only [Function.comp_apply, hid, if_pos hnamed]
    have hsame : m = model := List.inj_on_of_nodup_map s.ids_nodup hm hmodel hnamed
    exact Or.inl ⟨hid.trans hnamed, hkind.trans (congrArg _ hsame)⟩
  · simp only [Function.comp_apply, hid, if_neg hnamed] at hactive ⊢
    obtain ⟨hsame, hstatus, hother⟩ := active_retired hactive
    rw [hsame]
    exact Or.inr ⟨hother.resolve_right hnamed, m, hm, hstatus, rfl, rfl⟩

/-- **A call that does not double** leaves one ACTIVE model of a service at most. -/
theorem OneActive.exec (h : OneActive s.models) (hcond : ¬ e.call.Doubles (e.failed s) s) :
    OneActive (e.exec s).models := by
  have halone : ∀ user dto, e.call = .register user dto → dto.source ≠ .null →
      .upsert ∉ e.failed s → dto.status = .value .active → ∀ m ∈ s.models,
      m.serviceKind = dto.serviceKind → m.version ≠ dto.version → m.status ≠ .active := by
    intro user dto hcall hsource hdone hgiven m hm hkind hversion hactive
    rw [hcall] at hcond
    exact hcond ⟨hgiven, hsource, hdone, m, hm, hkind, hversion, hactive⟩
  cases callEnd e s with
  | untouched _ hsame => rwa [hsame]
  | rewritten user dto hcall hsource hdone hknown hmodels =>
    rw [hmodels]
    exact h.rewritten hknown (halone user dto hcall hsource hdone)
  | added user dto hcall hsource hdone hnew hmodels =>
    rw [hmodels]
    refine h.added fun hactive m hm hkind => ?_
    have hgiven : dto.status = .value .active := by
      cases hstatus : dto.status with
      | undefined => simp [newModel, hstatus, Given.required] at hactive
      | null => simp [newModel, hstatus, Given.required] at hactive
      | value status => simpa [newModel, hstatus, Given.required] using hactive
    refine halone user dto hcall hsource hdone hgiven m hm hkind fun hversion => hnew ?_
    exact List.mem_map.mpr ⟨m, hm, Prod.ext hkind hversion⟩
  | retiredOnly model _ hmodels =>
    rw [hmodels]
    exact h.retired model.serviceKind model.id
  | demoted id status _ hstatus hmodels =>
    rw [hmodels]
    refine h.of_active fun m' hm' hactive => ?_
    obtain ⟨m, hm, rfl⟩ := List.mem_map.mp hm'
    split at hactive
    · exact absurd hactive hstatus
    · next hother =>
      simp only [if_neg hother]
      exact ⟨m, hm, hactive, rfl, rfl⟩
  | promoted model _ hmodel hmodels =>
    rw [hmodels]
    exact h.promoted hmodel

/-- After a call that doubles, two versions of the service are ACTIVE. -/
theorem not_oneActive_exec (hdoubles : e.call.Doubles (e.failed s) s) :
    ¬ OneActive (e.exec s).models := by
  -- the version that the call names, and another one, both ACTIVE in `models'`
  have htwo : ∀ {models' : List ModelRegistry} {m m' : ModelRegistry}, m ∈ models' →
      m' ∈ models' → m.status = .active → m'.status = .active → m.serviceKind = m'.serviceKind →
      m.id ≠ m'.id → ¬ OneActive models' :=
    fun hm hm' hactive hactive' hkind hne hone => hne (hone _ hm _ hm' hactive hactive' hkind)
  cases callEnd e s with
  | untouched hidle _ => exact absurd hdoubles hidle
  | retiredOnly _ hidle _ => exact absurd hdoubles hidle
  | demoted _ _ hidle _ _ => exact absurd hdoubles hidle
  | promoted _ hidle _ _ => exact absurd hdoubles hidle
  | rewritten user dto hcall _ _ hknown hmodels =>
    rw [hcall] at hdoubles
    obtain ⟨hgiven, -, -, other, hother, hkind, hversion, hactive⟩ := hdoubles
    obtain ⟨known, hmem, hkey⟩ := List.mem_map.mp hknown
    have hnamed : dto.rewrite known = dto.update known := if_pos hkey
    have hleft : dto.rewrite other = other := if_neg fun hsame =>
      hversion (congrArg Prod.snd hsame)
    rw [hmodels]
    refine htwo (List.mem_map.mpr ⟨known, hmem, hnamed⟩) (List.mem_map.mpr ⟨other, hother, hleft⟩)
      ?_ hactive ((congrArg Prod.fst hkey).trans hkind.symm) fun hid => ?_
    · simp [RegisterModelDto.update, hgiven, Given.required]
    · have hsame : known = other := List.inj_on_of_nodup_map s.ids_nodup hmem hother hid
      rw [← hsame] at hversion
      exact hversion (congrArg Prod.snd hkey)
  | added user dto hcall _ _ hnew hmodels =>
    rw [hcall] at hdoubles
    obtain ⟨hgiven, -, -, other, hother, hkind, -, hactive⟩ := hdoubles
    rw [hmodels]
    refine htwo (List.mem_append_right _ (List.mem_singleton_self _))
      (List.mem_append_left _ hother) ?_ hactive hkind.symm fun hid => ?_
    · simp [newModel, hgiven, Given.required]
    · exact s.models_issued s.issued le_rfl (List.mem_map.mpr ⟨other, hother, hid.symm⟩)

/-- **When there is one ACTIVE model of a service**: at every moment of a run there is one at most,
exactly where no call of the run registers a version as ACTIVE while another version of its service
is ACTIVE. -/
theorem one_active_iff (h₀ : OneActive s₀.models) (events : List Event) :
    (∀ moment, moment <+: events → OneActive (after Event.exec s₀ moment).models) ↔
      ∀ before e, before ++ [e] <+: events →
        ¬ e.call.Doubles (e.failed (after Event.exec s₀ before)) (after Event.exec s₀ before) := by
  constructor
  · intro h before e hprefix hdoubles
    have hnext := h _ hprefix
    rw [after_concat] at hnext
    exact not_oneActive_exec hdoubles hnext
  · intro hcond
    refine forall_prefix h₀ fun before e hprefix hbefore => ?_
    rw [after_concat]
    exact hbefore.exec (hcond before e hprefix)

/-- Where one model of a service is ACTIVE at most, `getActive` is right about which. -/
theorem getActive_eq_some_iff (h : OneActive s.models) {serviceKind : Text} {m : ModelRegistry} :
    getActive serviceKind s = some m ↔
      m ∈ s.models ∧ m.serviceKind = serviceKind ∧ m.status = .active := by
  have hmem : ∀ m', getActive serviceKind s = some m' →
      m' ∈ s.models ∧ m'.serviceKind = serviceKind ∧ m'.status = .active := by
    intro m' hactive
    simpa using List.mem_filter.mp (List.mem_of_getLast? hactive)
  refine ⟨hmem m, fun hm => ?_⟩
  have hne : (s.models.filter fun m => m.serviceKind = serviceKind ∧ m.status = .active) ≠ [] :=
    List.ne_nil_of_mem (List.mem_filter.mpr ⟨hm.1, decide_eq_true hm.2⟩)
  obtain ⟨m', hsome⟩ := Option.ne_none_iff_exists'.mp (mt List.getLast?_eq_none_iff.mp hne)
  obtain ⟨hm', hkind', hactive'⟩ := hmem m' hsome
  have hid := h m' hm' m hm.1 hactive' hm.2.2 (hkind'.trans hm.2.1.symm)
  rw [← List.inj_on_of_nodup_map s.ids_nodup hm' hm.1 hid]
  exact hsome

end Active

/-! ## Two versions of a service -/

namespace Sample

def superAdmin : AuthenticatedUser := ⟨"ada", "agency", .superAdmin⟩

def store : Store :=
  emptyStore (fun n => List.replicate n 0x30) zeros_injective

/-- A version that comes with its status. -/
def registered (version : Text) (status : ModelStatus) : Event where
  call := .register superAdmin
    ⟨"nlp", "detector", version, .value status, .undefined, none, .undefined⟩
  fails := []

/-- The second version becomes the active one. -/
def promotion : Event := ⟨.setStatus (List.replicate 1 0x30) .active, []⟩

/-- The second version is registered as a DRAFT, and takes the place of the first one then. -/
def succession : List Event := [registered "1" .active, registered "2" .draft, promotion]

theorem succession_alone : ∀ before e, before ++ [e] <+: succession →
    ¬ e.call.Doubles (e.failed (after Event.exec store before))
      (after Event.exec store before) := by
  refine forall_call_cons ?_ (forall_call_cons ?_ (forall_call_cons ?_ forall_call_nil))
  · rintro ⟨-, -, -, m, hm, -⟩
    exact List.not_mem_nil hm
  · rintro ⟨hgiven, -⟩
    exact absurd hgiven (by decide)
  · exact fun h => h

end Sample

open Sample in
theorem one_active_iff_succession :
    OneActive store.models ∧
      (getActive "nlp" (after Event.exec store succession)).map ModelRegistry.version = some "2" ∧
      ∀ moment, moment <+: succession → OneActive (after Event.exec store moment).models :=
  ⟨fun _ h => absurd h List.not_mem_nil, by decide,
    (one_active_iff (fun _ h => absurd h List.not_mem_nil) succession).mpr succession_alone⟩

/-- **Two versions are registered as ACTIVE**, and both are. -/
theorem two_active :
    ((after Event.exec Sample.store [Sample.registered "1" .active,
        Sample.registered "2" .active]).models.map fun m => (m.serviceKind, m.version, m.status)) =
      [(utf16 "nlp", utf16 "1", .active), (utf16 "nlp", utf16 "2", .active)] ∧
      ¬ OneActive (after Event.exec Sample.store [Sample.registered "1" .active,
        Sample.registered "2" .active]).models := by
  refine ⟨by decide, fun h => ?_⟩
  have hid := h _ (List.mem_cons_self ..) _
    (List.mem_cons_of_mem _ (List.mem_cons_self ..)) rfl rfl rfl
  exact absurd hid (by decide)

end ModelGovernance
