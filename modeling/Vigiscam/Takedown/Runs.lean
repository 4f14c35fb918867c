import Vigiscam.Takedown.Service

/-!
# No takedown leaves without staff

Staff and automations run at once, and any step may fail. A request is drafted by a member of
staff, or by an automation from the best of the templates that it found (`takedown_drafted`). What
is beyond the draft has been moved there by staff, who have submitted it before, unless it is
withdrawn, and an update that has returned is in the evidence log (`status_attributed`). A request
in a final state is left alone by every call that begins from then on (`final_state`), and where
every update writes to a request that is as it was found, statuses go along the legal transitions
(`lawful_paths`).
-/

namespace Takedown

open Js Value Common Concurrency EvidenceVault Registry
open Identity (RequestContext)

/-! ## Runs -/

/-- What a process does. -/
inductive Call where
  | create (actor : AuthenticatedUser) (dto : CreateTakedownDto) (ctx : RequestContext)
  | update (actor : AuthenticatedUser) (id : Uuid) (dto : UpdateTakedownStatusDto)
      (ctx : RequestContext)
  | automate (entry : RegistryEntry)
  | template (dto : CreateTakedownTemplateDto)
  | world (entries : List RegistryEntry) (enrichments : List OsintEnrichment) (now : Int)

def Call.program (p : Platform) : Call → Program Unit
  | create actor dto ctx => do let _ ← createTakedown actor dto ctx
  | update actor id dto ctx => do let _ ← updateStatus actor id dto ctx
  | automate entry => do let _ ← tryAutomate p entry
  | template dto => do let _ ← createTemplate dto
  | world entries enrichments now => changeWorld entries enrichments now

/-- The calls at their start. -/
def calling {ι : Type} (p : Platform) (calls : ι → Call) (s : Store) :
    Pool ι Store (Program Unit) where
  shared := s
  locals i := (calls i).program p

abbrev TakedownRun {ι : Type} [DecidableEq ι] :
    Pool ι Store (Program Unit) → Pool ι Store (Program Unit) → Prop :=
  Pool.Run (Prog.interleaved fun _ _ => True)

/-! ## What is known of a request -/

section Known

variable {ι : Type} {p : Platform} {calls : ι → Call} {x y z : Store}
  {row row' : TakedownRequest}

/-- The best of the templates of the provider whose pattern the name matches. -/
structure Best (p : Platform) (providerType : TakedownProviderType) (detectedName : Text)
    (templates : List TakedownProviderTemplate) (template : TakedownProviderTemplate) : Prop where
  mem : template ∈ templates
  enabled : template.enabled
  isFor : template.providerType = providerType
  isMatch : matchesPattern p template.detectorPattern detectedName
  priority : ∀ other ∈ templates, other.enabled → other.providerType = providerType →
    matchesPattern p other.detectorPattern detectedName → other.priority ≤ template.priority

/-- The request is the one that a member of staff has asked for. -/
def ByStaff (calls : ι → Call) (row : TakedownRequest) : Prop :=
  ∃ i actor dto ctx, calls i = .create actor dto ctx ∧ row.registryEntryId = dto.registryEntryId ∧
    row.providerType = dto.providerType ∧ row.providerName = dto.providerName ∧
    row.details = dto.details

/-- The request is the one that the best template gives, of those that there were at a time. -/
def ByAutomation (p : Platform) (calls : ι → Call) (templates : List TakedownProviderTemplate)
    (row : TakedownRequest) : Prop :=
  ∃ i entry providerType detectedName found template, calls i = .automate entry ∧
    TYPE_TO_PROVIDER entry.indicatorType = some providerType ∧ found <+: templates ∧
    Best p providerType detectedName found template ∧ row.registryEntryId = entry.id ∧
    row.providerType = providerType ∧ row.providerName = template.providerName ∧
    row.details = renderTemplate template.detailsTemplate entry

/-- A call has submitted the request, and its actor is the one on record. -/
def Submitted (calls : ι → Call) (row : TakedownRequest) : Prop :=
  ∃ i actor dto ctx, calls i = .update actor row.id dto ctx ∧ dto.status = .submitted ∧
    row.submittedByUserId = some actor.userId

/-- A call has moved the request to its status, and its actor is on record where that is final. -/
def Moved (calls : ι → Call) (row : TakedownRequest) (i : ι) (actor : AuthenticatedUser) : Prop :=
  ∃ dto ctx, calls i = .update actor row.id dto ctx ∧ dto.status = row.status ∧
    (row.status ∈ TERMINAL → row.resolvedByUserId = some actor.userId)

/-- What there is to say of a request. -/
structure Accounted (p : Platform) (calls : ι → Call) (s : Store) (row : TakedownRequest) :
    Prop where
  origin : ByStaff calls row ∨ ByAutomation p calls s.templates.rows row
  moved : row.status ≠ .draft → ∃ i actor, Moved calls row i actor
  submitted : row.status ≠ .draft → row.status ≠ .withdrawn → Submitted calls row

def AllAccounted (p : Platform) (calls : ι → Call) (s : Store) : Prop :=
  ∀ row ∈ s.takedowns.rows, Accounted p calls s row

/-- Requests stay, and stay submitted; templates and evidence are added. -/
structure Ahead (calls : ι → Call) (x y : Store) : Prop where
  takedowns : ∀ row ∈ x.takedowns.rows, ∃ row' ∈ y.takedowns.rows, row'.id = row.id ∧
    (Submitted calls row → Submitted calls row')
  templates : x.templates.rows <+: y.templates.rows
  evidence : x.evidence ⊆ y.evidence

theorem closed_ahead : Closed (Ahead calls) where
  refl _ := ⟨fun row h => ⟨row, h, rfl, fun h => h⟩, List.prefix_refl _, fun _ h => h⟩
  trans := by
    rintro s t u hst htu
    refine ⟨fun row hrow => ?_, hst.templates.trans htu.templates,
      fun _ h => htu.evidence (hst.evidence h)⟩
    obtain ⟨row', hrow', hid, hkept⟩ := hst.takedowns row hrow
    obtain ⟨row'', hrow'', hid', hkept'⟩ := htu.takedowns row' hrow'
    exact ⟨row'', hrow'', hid'.trans hid, fun h => hkept' (hkept h)⟩

/-- A process may take any step, relies on `Ahead` and guarantees it. -/
def anywhere (calls : ι → Call) : Contract Store TakedownStep where
  may _ _ := True
  rely := Ahead calls
  guar := Ahead calls

theorem Accounted.ahead (h : Accounted p calls x row) (hxy : Ahead calls x y) :
    Accounted p calls y row where
  origin := by
    refine h.origin.imp_right ?_
    rintro ⟨i, entry, providerType, name, found, template, hcall, htype, hfound, hrest⟩
    exact ⟨i, entry, providerType, name, found, template, hcall, htype,
      hfound.trans hxy.templates, hrest⟩
  moved := h.moved
  submitted := h.submitted

/-- A step after which every request is an old one, or is accounted for. -/
theorem within_of_ahead (hx : AllAccounted p calls x) (hxy : Ahead calls x y)
    (hrows : ∀ row ∈ y.takedowns.rows, row ∈ x.takedowns.rows ∨ Accounted p calls y row) :
    Prog.Within (AllAccounted p calls) (anywhere calls) x y ∧ Ahead calls x y := by
  refine ⟨⟨fun row hrow => ?_, hxy⟩, hxy⟩
  rcases hrows row hrow with hold | hnew
  · exact (hx row hold).ahead hxy
  · exact hnew

/-- A step that leaves the requests alone. -/
theorem within_same (hx : AllAccounted p calls x) (htakedowns : y.takedowns = x.takedowns)
    (htemplates : x.templates.rows <+: y.templates.rows) (hevidence : x.evidence ⊆ y.evidence) :
    Prog.Within (AllAccounted p calls) (anywhere calls) x y ∧ Ahead calls x y :=
  within_of_ahead hx ⟨fun row h => ⟨row, htakedowns ▸ h, rfl, fun h => h⟩, htemplates, hevidence⟩
    fun _ h => Or.inl (htakedowns ▸ h)

end Known

/-! ## What the programs ensure -/

section Programs

variable {ι : Type} {p : Platform} {calls : ι → Call} {s : Store} {α β : Type}
  {post : α → Store → Prop}

theorem ensures_read_bind {f : Store → β} {k : β → Program α}
    (h : ∀ t, Ahead calls s t → AllAccounted p calls t →
      (k (f t)).Ensures (AllAccounted p calls) (anywhere calls) post t) :
    (read f >>= k).Ensures (AllAccounted p calls) (anywhere calls) post s :=
  Prog.Ensures.act_bind fun t hst ht _ =>
    ⟨(within_same ht rfl (List.prefix_refl _) fun _ h => h).1, h t hst ht⟩

/-- The event is in the log from then on. -/
theorem ensures_appendEvidence_bind {input : AppendEvidenceInput} {k : Unit → Program α}
    (h : ∀ t, Ahead calls s t → input ∈ t.evidence →
      (k ()).Ensures (AllAccounted p calls) (anywhere calls) post t) :
    (appendEvidence input >>= k).Ensures (AllAccounted p calls) (anywhere calls) post s := by
  refine Prog.Ensures.act_bind fun t hst ht _ => ?_
  obtain ⟨hwithin, hahead⟩ := within_same (y := { t with evidence := t.evidence ++ [input] }) ht
    rfl (List.prefix_refl _) fun _ h => List.mem_append_left _ h
  exact ⟨hwithin, h _ (closed_ahead.trans hst hahead)
    (List.mem_append_right _ (List.mem_singleton_self _))⟩

/-- A request is drafted by a call that accounts for it. -/
theorem ensures_insertTakedown_bind {registryEntryId : Uuid} {providerType : TakedownProviderType}
    {providerName details : Text} {providerReference : Option Text}
    {k : TakedownRequest → Program α}
    (horigin : ∀ t, Ahead calls s t → ∀ id,
      ByStaff calls (drafted registryEntryId providerType providerName providerReference details
        id) ∨ ByAutomation p calls t.templates.rows (drafted registryEntryId providerType
          providerName providerReference details id))
    (h : ∀ row t, (k row).Ensures (AllAccounted p calls) (anywhere calls) post t) :
    (insertTakedown registryEntryId providerType providerName providerReference details >>=
      k).Ensures (AllAccounted p calls) (anywhere calls) post s := by
  refine Prog.Ensures.act_bind fun t hst ht _ => ⟨?_, h _ _⟩
  have hahead : Ahead calls t { t with
      takedowns := t.takedowns.add (drafted registryEntryId providerType providerName
        providerReference details t.takedowns.next) rfl } :=
    ⟨fun row hrow => ⟨row, List.mem_append_left _ hrow, rfl, fun h => h⟩, List.prefix_refl _,
      fun _ h => h⟩
  refine (within_of_ahead ht hahead fun row hrow => ?_).1
  rcases List.mem_append.mp hrow with hold | hnew
  · exact Or.inl hold
  · obtain rfl := List.mem_singleton.mp hnew
    exact Or.inr ⟨horigin t hst _, fun h => absurd rfl h, fun h => absurd rfl h⟩

theorem ensures_createTakedown {i : ι} {actor : AuthenticatedUser} {dto : CreateTakedownDto}
    {ctx : RequestContext} (hi : calls i = .create actor dto ctx) :
    (createTakedown actor dto ctx).Ensures (AllAccounted p calls) (anywhere calls)
      (fun _ _ => True) s := by
  refine ensures_read_bind fun t _ _ => ?_
  cases hfind : Table.find RegistryEntry.id dto.registryEntryId t.entries with
  | none => trivial
  | some entry =>
    have hentry : entry.id = dto.registryEntryId := Table.key_of_find hfind
    dsimp only
    split
    · trivial
    · exact ensures_insertTakedown_bind
        (fun _ _ id => Or.inl ⟨i, actor, dto, ctx, hi, hentry, rfl, rfl, rfl⟩)
        fun row u => ensures_appendEvidence_bind fun _ _ _ _ _ => trivial

/-! ### Status updates -/

/-- What is known of a request beyond the draft that a legal move leads on from. -/
theorem submitted_of_legal {row : TakedownRequest} {status : TakedownStatus}
    (hrow : Accounted p calls s row) (hlegal : status ∈ TRANSITIONS row.status)
    (hsubmit : status ≠ .submitted) (hwithdraw : status ≠ .withdrawn) : Submitted calls row := by
  refine hrow.submitted ?_ ?_ <;> intro hstatus <;> rw [hstatus] at hlegal <;>
    simp [TRANSITIONS, hsubmit, hwithdraw] at hlegal

/-- Nothing leads back to the draft. -/
theorem ne_draft_of_legal {fromStatus toStatus : TakedownStatus}
    (h : toStatus ∈ TRANSITIONS fromStatus) : toStatus ≠ .draft := by
  rintro rfl
  cases fromStatus <;> simp [TRANSITIONS] at h

theorem submitted_moved {row : TakedownRequest} {actor : AuthenticatedUser}
    {dto : UpdateTakedownStatusDto} {now : Int} (hne : dto.status ≠ .submitted)
    (h : Submitted calls row) : Submitted calls (row.moved actor dto now) := by
  obtain ⟨i, actor', dto', ctx', hcall, hstatus, hsubmitted⟩ := h
  refine ⟨i, actor', dto', ctx', hcall, hstatus, ?_⟩
  show (if dto.status = .submitted then some actor.userId else row.submittedByUserId) = _
  rw [if_neg hne]
  exact hsubmitted

/-- The event of an update. -/
def Logged (id : Uuid) (actor : AuthenticatedUser) (status : TakedownStatus) (s : Store) : Prop :=
  ∃ event ∈ s.evidence, event.entityType = utf16 "TAKEDOWN_REQUEST" ∧ event.entityId = id ∧
    event.eventType = utf16 "TAKEDOWN_" ++ status.name ∧ event.actorId = some actor.userId

theorem Logged.ahead {id : Uuid} {actor : AuthenticatedUser} {status : TakedownStatus}
    {x y : Store} (h : Logged id actor status x) (hxy : Ahead calls x y) :
    Logged id actor status y := by
  obtain ⟨event, hevent, hrest⟩ := h
  exact ⟨event, hxy.evidence hevent, hrest⟩

/-- A legal move of a request by a call, which accounts for it. -/
theorem accounted_moved {i : ι} {actor : AuthenticatedUser} {dto : UpdateTakedownStatusDto}
    {ctx : RequestContext} {row : TakedownRequest} {now : Int}
    (hi : calls i = .update actor row.id dto ctx) (hrow : Accounted p calls s row)
    (hsubmitted : dto.status ≠ .submitted → dto.status ≠ .withdrawn → Submitted calls row) :
    Accounted p calls s (row.moved actor dto now) where
  origin := hrow.origin
  moved _ := ⟨i, actor, dto, ctx, hi, rfl, fun hterminal => if_pos hterminal⟩
  submitted _ hwithdrawn := by
    by_cases hsubmit : dto.status = .submitted
    · exact ⟨i, actor, dto, ctx, hi, hsubmit, if_pos hsubmit⟩
    · exact submitted_moved hsubmit (hsubmitted hsubmit hwithdrawn)

/-- The request of the id has been submitted. -/
def SubmittedId (calls : ι → Call) (id : Uuid) (s : Store) : Prop :=
  ∃ row ∈ s.takedowns.rows, row.id = id ∧ Submitted calls row

theorem SubmittedId.ahead {id : Uuid} {x y : Store} (h : SubmittedId calls id x)
    (hxy : Ahead calls x y) : SubmittedId calls id y := by
  obtain ⟨row, hrow, hid, hsubmitted⟩ := h
  obtain ⟨row', hrow', hid', hkept⟩ := hxy.takedowns row hrow
  exact ⟨row', hrow', hid'.trans hid, hkept hsubmitted⟩

theorem SubmittedId.row {id : Uuid} {row : TakedownRequest} (h : SubmittedId calls id s)
    (hrow : row ∈ s.takedowns.rows) (hid : row.id = id) : Submitted calls row := by
  obtain ⟨row', hrow', hid', hsubmitted⟩ := h
  obtain rfl := s.takedowns.eq_of_key hrow hrow' (hid.trans hid'.symm)
  exact hsubmitted

/-- What a request that has been found says of a legal move of it. -/
theorem ensures_getTakedown (id : Uuid) (status : TakedownStatus) :
    (getTakedown id).Ensures (AllAccounted p calls) (anywhere calls)
      (fun row t => status ∈ TRANSITIONS row.status → status ≠ .submitted → status ≠ .withdrawn →
        SubmittedId calls id t) s := by
  refine ensures_read_bind fun t _ ht => ?_
  cases hfind : Table.find TakedownRequest.id id t.takedowns.rows with
  | none => trivial
  | some row =>
    intro u htu hlegal hsubmit hwithdraw
    obtain ⟨hrow, hid⟩ := Table.Issued.find_eq_some_iff.mp hfind
    exact SubmittedId.ahead
      ⟨row, hrow, hid, submitted_of_legal (ht row hrow) hlegal hsubmit hwithdraw⟩ htu

/-- The rows after a legal move. -/
theorem within_moved {i : ι} {actor : AuthenticatedUser} {id : Uuid}
    {dto : UpdateTakedownStatusDto} {ctx : RequestContext}
    (hi : calls i = .update actor id dto ctx) (hs : AllAccounted p calls s)
    (hsubmitted : dto.status ≠ .submitted → dto.status ≠ .withdrawn → SubmittedId calls id s) :
    Prog.Within (AllAccounted p calls) (anywhere calls) s { s with
      takedowns := s.takedowns.modify id (TakedownRequest.moved actor dto s.now)
        (TakedownRequest.id_moved actor dto s.now) } := by
  have hkept : ∀ row ∈ s.takedowns.rows, row.id = id → Submitted calls row →
      Submitted calls (row.moved actor dto s.now) := by
    intro row hrow hid hold
    by_cases hsubmit : dto.status = .submitted
    · exact ⟨i, actor, dto, ctx, hid ▸ hi, hsubmit, if_pos hsubmit⟩
    · exact submitted_moved hsubmit hold
  have hahead : Ahead calls s { s with
      takedowns := s.takedowns.modify id (TakedownRequest.moved actor dto s.now)
        (TakedownRequest.id_moved actor dto s.now) } := by
    refine ⟨fun row hrow => ⟨_, Table.mem_modify.mpr ⟨row, hrow, rfl⟩, ?_⟩, List.prefix_refl _,
      fun _ h => h⟩
    split
    · rename_i hid
      exact ⟨rfl, hkept row hrow hid⟩
    · exact ⟨rfl, fun h => h⟩
  refine (within_of_ahead hs hahead fun row' hrow' => ?_).1
  obtain ⟨row, hrow, rfl⟩ := Table.mem_modify.mp hrow'
  by_cases hid : row.id = id
  · rw [if_pos hid]
    exact Or.inr ((accounted_moved (hid ▸ hi) (hs row hrow) fun hsubmit hwithdraw =>
      (hsubmitted hsubmit hwithdraw).row hrow hid).ahead hahead)
  · rw [if_neg hid]
    exact Or.inl hrow

theorem ensures_updateStatus {i : ι} {actor : AuthenticatedUser} {id : Uuid}
    {dto : UpdateTakedownStatusDto} {ctx : RequestContext}
    (hi : calls i = .update actor id dto ctx) :
    (updateStatus actor id dto ctx).Ensures (AllAccounted p calls) (anywhere calls)
      (fun _ t => Logged id actor dto.status t) s := by
  refine Prog.Ensures.bind closed_ahead (ensures_getTakedown id dto.status) fun row t hfound => ?_
  split
  · rename_i hlegal
    refine Prog.Ensures.attempt_bind (fun u row' v htu hu _ hupdate => ?_) fun u _ hu _ _ =>
      (within_same hu rfl (List.prefix_refl _) fun _ h => h).1
    obtain ⟨row'', hfind, hpair⟩ := Option.map_eq_some_iff.mp hupdate
    obtain ⟨rfl, rfl⟩ := Prod.mk.inj hpair
    have hid : row''.id = id := Table.key_of_find hfind
    refine ⟨within_moved hi hu fun hsubmit hwithdraw =>
      (hfound hlegal hsubmit hwithdraw).ahead htu, ?_⟩
    refine ensures_appendEvidence_bind fun w _ hevent z hwz => ?_
    exact Logged.ahead ⟨_, hevent, rfl, hid, rfl, rfl⟩ hwz
  · trivial

/-! ### Automations -/

/-- The first of the matching templates is the best one. -/
theorem best_of_matching {providerType : TakedownProviderType} {detectedName : Text}
    {templates others : List TakedownProviderTemplate} {template : TakedownProviderTemplate}
    (h : matching p providerType detectedName templates = template :: others) :
    Best p providerType detectedName templates template := by
  have hmem : ∀ other, other ∈ template :: others ↔ (other ∈ templates ∧ other.enabled ∧
      other.providerType = providerType) ∧
        matchesPattern p other.detectorPattern detectedName := by
    intro other
    rw [← h, matching, candidates, List.mem_filter, Ranking.mem_descending, List.mem_filter]
    simp
  have hsorted : (template :: others).Pairwise
      (Ranking.Before TakedownProviderTemplate.priority) := by
    rw [← h]
    exact (List.pairwise_insertionSort _ _).filter _
  obtain ⟨⟨hin, henabled, htype⟩, hmatch⟩ := (hmem template).mp List.mem_cons_self
  refine ⟨hin, henabled, htype, hmatch, fun other hother henabled' htype' hmatch' => ?_⟩
  rcases List.mem_cons.mp ((hmem other).mpr ⟨⟨hother, henabled', htype'⟩, hmatch'⟩) with rfl | hrest
  · exact le_refl _
  · exact List.rel_of_pairwise_cons hsorted hrest

theorem ensures_tryAutomate {i : ι} {entry : RegistryEntry} (hi : calls i = .automate entry) :
    (tryAutomate p entry).Ensures (AllAccounted p calls) (anywhere calls) (fun _ _ => True) s := by
  rw [tryAutomate]
  cases htype : TYPE_TO_PROVIDER entry.indicatorType with
  | none => exact fun _ _ => trivial
  | some providerType =>
    refine ensures_read_bind fun t _ _ => ?_
    cases present (extractDetectedName
        ((latestEnrichment entry t.enrichments).map (·.data)) providerType) with
    | none => exact fun _ _ => trivial
    | some detectedName =>
      refine ensures_read_bind fun u _ _ => ?_
      cases hmatching : matching p providerType detectedName u.templates.rows with
      | nil => exact fun _ _ => trivial
      | cons template others =>
        refine ensures_read_bind fun v huv _ => ?_
        have hbest := best_of_matching hmatching
        split
        · exact fun _ _ => trivial
        · refine ensures_insertTakedown_bind (fun w hvw id => Or.inr ?_) fun row w =>
            ensures_appendEvidence_bind fun _ _ _ _ _ => trivial
          exact ⟨i, entry, providerType, detectedName, u.templates.rows, template, hi, htype,
            huv.templates.trans hvw.templates, hbest, rfl, hbest.isFor, rfl, rfl⟩

/-- A status update that is done is logged. -/
def Call.Done (s : Store) : Call → Prop
  | update actor id dto _ => Logged id actor dto.status s
  | _ => True

theorem ensures_call (i : ι) :
    ((calls i).program p).Ensures (AllAccounted p calls) (anywhere calls)
      (fun _ t => (calls i).Done t) s := by
  cases hi : calls i with
  | create actor dto ctx =>
    exact Prog.Ensures.bind closed_ahead (ensures_createTakedown hi) fun _ _ _ _ _ => trivial
  | update actor id dto ctx =>
    exact Prog.Ensures.bind closed_ahead (ensures_updateStatus hi) fun _ t ht u htu =>
      Logged.ahead ht htu
  | automate entry =>
    exact Prog.Ensures.bind closed_ahead (ensures_tryAutomate hi) fun _ _ _ _ _ => trivial
  | template dto =>
    refine Prog.Ensures.attempt_bind (fun t row u _ ht _ hcreate => ?_) fun t _ ht _ _ =>
      (within_same ht rfl (List.prefix_refl _) fun _ h => h).1
    split at hcreate
    · cases hcreate
    · obtain ⟨-, rfl⟩ := Prod.mk.inj (Option.some.inj hcreate)
      exact ⟨(within_same (y := { t with
        templates := t.templates.add (newTemplate dto t.templates.next) rfl }) ht rfl
          (List.prefix_append _ _) fun _ h => h).1, fun _ _ => trivial⟩
  | world entries enrichments now =>
    refine fun t _ ht => ⟨fun _ => ⟨?_, fun _ _ => trivial⟩, trivial⟩
    exact (within_same (y := { t with entries, enrichments, now }) ht rfl (List.prefix_refl _)
      fun _ h => h).1

end Programs

/-! ## Accounts -/

section Accounts

variable {ι : Type} [DecidableEq ι] {p : Platform} {calls : ι → Call} {s : Store}
  {t : Pool ι Store (Program Unit)}

theorem run_accounted (hs : s.takedowns.rows = []) (hrun : TakedownRun (calling p calls s) t) :
    AllAccounted p calls t.shared ∧ ∀ i, (t.locals i).Ensures (AllAccounted p calls)
      (anywhere calls) (fun _ t => (calls i).Done t) t.shared := by
  refine Run.ensures (c := fun _ => anywhere calls) (fun i _ t => (calls i).Done t) hrun
    (fun _ => closed_ahead) (fun _ => closed_ahead.refl) (fun _ _ _ _ _ h => h)
    (fun row hrow => ?_) fun i => ensures_call i
  rw [show (calling p calls s).shared.takedowns.rows = [] from hs] at hrow
  cases hrow

/-! ### A domain that is registered with GoDaddy -/

/-- Patterns that are plain words. -/
def samplePlatform : Platform where
  testIgnoringCase pattern value :=
    some ((lowerAscii value).tails.any fun rest => (lowerAscii pattern).isPrefixOf rest)

def sampleTemplate : CreateTakedownTemplateDto where
  providerType := .domainRegistrar
  providerName := "GoDaddy"
  detectorPattern := "(?i)godaddy"
  detailsTemplate := Sample.requestText
  enabled := none
  priority := none

def sampleEntry : RegistryEntry := Sample.reportedWith "INVESTMENT_SCAM" "Promises a fortune."

def sampleStore : Store where
  takedowns := .empty numbered numbered_injective
  templates := .empty numbered numbered_injective
  entries := [sampleEntry]
  enrichments := [⟨.domain, "quick-gains.example",
    object [("registrar", string "GoDaddy.com, LLC")]⟩]
  evidence := []
  now := 0

def sampleReviewer : AuthenticatedUser := ⟨"R", "V", .reviewer⟩

def sampleMove (status : TakedownStatus) : UpdateTakedownStatusDto := ⟨status, .undefined, .null⟩

/-- An automation, a template that it finds, and two moves of what it drafts. -/
def sampleCalls : Bool × Bool → Call
  | (false, false) => .template sampleTemplate
  | (false, true) => .automate sampleEntry
  | (true, false) => .update sampleReviewer (numbered 0) (sampleMove .submitted) ⟨none, none⟩
  | (true, true) => .update sampleReviewer (numbered 0) (sampleMove .completed) ⟨none, none⟩

def sampleTurns : List ((Bool × Bool) × Nat) :=
  [((false, false), 1), ((false, true), 5), ((true, false), 3), ((true, true), 3)]

def sampleDone : Pool (Bool × Bool) Store (Program Unit) :=
  Prog.turns (calling samplePlatform sampleCalls sampleStore) sampleTurns

theorem sampleDone_run : TakedownRun (calling samplePlatform sampleCalls sampleStore) sampleDone :=
  Prog.run_turns .refl (Prog.permittedTurns_true _ _)

/-- **Nothing is done without staff**: in any interleaving and with any failing steps, a request
beyond the draft was moved to its status by a call of staff, who is on record where it is final;
the move is in the evidence log where that call has returned; and unless it is withdrawn, staff
have submitted it. -/
theorem status_attributed (hs : s.takedowns.rows = [])
    (hrun : TakedownRun (calling p calls s) t) :
    ∀ row ∈ t.shared.takedowns.rows, row.status ≠ .draft →
      (∃ i actor dto ctx, calls i = .update actor row.id dto ctx ∧ dto.status = row.status ∧
        (row.status ∈ TERMINAL → row.resolvedByUserId = some actor.userId) ∧
        (Prog.returned (t.locals i) = some () → Logged row.id actor row.status t.shared)) ∧
      (row.status ≠ .withdrawn → ∃ i actor dto ctx, calls i = .update actor row.id dto ctx ∧
        dto.status = .submitted ∧ row.submittedByUserId = some actor.userId) := by
  obtain ⟨haccounted, hlocals⟩ := run_accounted hs hrun
  intro row hrow hdraft
  refine ⟨?_, (haccounted row hrow).submitted hdraft⟩
  obtain ⟨i, actor, dto, ctx, hi, hstatus, hresolved⟩ := (haccounted row hrow).moved hdraft
  refine ⟨i, actor, dto, ctx, hi, hstatus, hresolved, fun hdone => ?_⟩
  have hensures := hlocals i
  rw [Prog.eq_pure_of_returned hdone, hi] at hensures
  exact hstatus ▸ hensures t.shared (closed_ahead.refl _)

theorem status_attributed_sample : (∃ row ∈ sampleDone.shared.takedowns.rows, row.status ≠ .draft) ∧
    ∀ row ∈ sampleDone.shared.takedowns.rows, row.status ≠ .draft →
      (∃ i actor dto ctx, sampleCalls i = .update actor row.id dto ctx ∧
        dto.status = row.status ∧
        (row.status ∈ TERMINAL → row.resolvedByUserId = some actor.userId) ∧
        (Prog.returned (sampleDone.locals i) = some () →
          Logged row.id actor row.status sampleDone.shared)) ∧
      (row.status ≠ .withdrawn → ∃ i actor dto ctx, sampleCalls i = .update actor row.id dto ctx ∧
        dto.status = .submitted ∧ row.submittedByUserId = some actor.userId) :=
  ⟨by decide, status_attributed rfl sampleDone_run⟩

end Accounts

/-! ## Final states -/

section Final

variable {ι : Type} [DecidableEq ι] {p : Platform} {calls : ι → Call} {s : Store}
  {t : Pool ι Store (Program Unit)} {row : TakedownRequest}

/-- No request is changed, and what is new is a draft. -/
def Grows (x y : Store) : Prop :=
  y.takedowns.rows = x.takedowns.rows ∨
    ∃ row, y.takedowns.rows = x.takedowns.rows ++ [row] ∧ row.status = .draft

/-- The request stays as it is. -/
def Stays (row : TakedownRequest) (x y : Store) : Prop :=
  row ∈ x.takedowns.rows → row ∈ y.takedowns.rows

theorem closed_stays : Closed (Stays row) := ⟨fun _ h => h, fun hst htu h => htu (hst h)⟩

theorem Grows.stays {x y : Store} (h : Grows x y) : Stays row x y := by
  intro hx
  rcases h with hsame | ⟨new, hadd, -⟩
  · exact hsame ▸ hx
  · exact hadd ▸ List.mem_append_left _ hx

/-! ### The programs, step by step -/

theorem each_read_grows {α : Type} (f : Store → α) :
    (read f).Each fun _ x y => Grows x y :=
  Prog.Each.act fun _ => Or.inl rfl

theorem each_append_grows (input : AppendEvidenceInput) :
    (appendEvidence input).Each fun _ x y => Grows x y :=
  Prog.Each.act fun _ => Or.inl rfl

theorem each_insert_grows (registryEntryId : Uuid) (providerType : TakedownProviderType)
    (providerName : Text) (providerReference : Option Text) (details : Text) :
    (insertTakedown registryEntryId providerType providerName providerReference details).Each
      fun _ x y => Grows x y :=
  Prog.Each.act fun _ => Or.inr ⟨_, rfl, rfl⟩

theorem each_create_grows (actor : AuthenticatedUser) (dto : CreateTakedownDto)
    (ctx : RequestContext) :
    (createTakedown actor dto ctx).Each fun _ x y => Grows x y := by
  refine Prog.Each.bind (each_read_grows _) fun entry => ?_
  cases entry with
  | none => exact Prog.Each.throw _
  | some entry =>
    dsimp only
    split
    · exact Prog.Each.throw _
    · exact Prog.Each.bind (each_insert_grows ..) fun _ =>
        Prog.Each.bind (each_append_grows _) fun _ => Prog.Each.pure _

theorem each_automate_grows (entry : RegistryEntry) :
    (tryAutomate p entry).Each fun _ x y => Grows x y := by
  rw [tryAutomate]
  cases TYPE_TO_PROVIDER entry.indicatorType with
  | none => exact Prog.Each.pure _
  | some providerType =>
    refine Prog.Each.bind (each_read_grows _) fun osint => ?_
    cases present (extractDetectedName (osint.map (·.data)) providerType) with
    | none => exact Prog.Each.pure _
    | some detectedName =>
      refine Prog.Each.bind (each_read_grows _) fun found => ?_
      cases found with
      | nil => exact Prog.Each.pure _
      | cons template others =>
        refine Prog.Each.bind (each_read_grows _) fun existing => ?_
        cases existing with
        | some _ => exact Prog.Each.pure _
        | none =>
          exact Prog.Each.bind (each_insert_grows ..) fun _ =>
            Prog.Each.bind (each_append_grows _) fun _ => Prog.Each.pure _

/-- A call that is no status update changes no request. -/
theorem each_call_grows (call : Call) (h : ∀ actor id dto ctx, call ≠ .update actor id dto ctx) :
    (call.program p).Each fun _ x y => Grows x y := by
  cases call with
  | create actor dto ctx =>
    exact Prog.Each.bind (each_create_grows actor dto ctx) fun _ => Prog.Each.pure _
  | update actor id dto ctx => exact absurd rfl (h actor id dto ctx)
  | automate entry => exact Prog.Each.bind (each_automate_grows entry) fun _ => Prog.Each.pure _
  | template dto =>
    refine Prog.Each.bind (Prog.Each.attempt (fun x a y hcreate => ?_)
      fun _ _ => Or.inl rfl) fun _ => Prog.Each.pure _
    split at hcreate
    · cases hcreate
    · obtain ⟨-, rfl⟩ := Prod.mk.inj (Option.some.inj hcreate)
      exact Or.inl rfl
  | world entries enrichments now => exact Prog.Each.act fun _ => Or.inl rfl

/-- A status update that begins when the request is final leaves it alone. -/
theorem safe_updateStatus {actor : AuthenticatedUser} {id : Uuid} {dto : UpdateTakedownStatusDto}
    {ctx : RequestContext} (hrow : row ∈ s.takedowns.rows) (hterminal : row.status ∈ TERMINAL) :
    (updateStatus actor id dto ctx).Safe (fun _ _ => True) (Stays row) s := by
  refine fun t hst => ⟨fun _ => ⟨fun h => h, ?_⟩, trivial⟩
  dsimp only
  cases hfind : Table.find TakedownRequest.id id t.takedowns.rows with
  | none => trivial
  | some found =>
    show Prog.Safe _ _ (if dto.status ∈ TRANSITIONS found.status then _ else _ : Program _) t
    split
    · rename_i hlegal
      have hne : row.id ≠ id := by
        intro hid
        have hsame : found = row := t.takedowns.eq_of_key (Table.mem_of_find hfind) (hst hrow)
          ((Table.key_of_find hfind).trans hid.symm)
        subst hsame
        have hnone : TRANSITIONS found.status = [] := by
          revert hterminal
          cases found.status <;> simp [TERMINAL, TRANSITIONS]
        rw [hnone] at hlegal
        cases hlegal
      refine Prog.Safe.attempt_bind closed_stays (fun u a v _ _ hupdate => ?_)
      obtain ⟨_, -, hpair⟩ := Option.map_eq_some_iff.mp hupdate
      obtain ⟨-, rfl⟩ := Prod.mk.inj hpair
      refine ⟨fun hu => Table.mem_modify.mpr ⟨row, hu, if_neg hne⟩, ?_⟩
      exact Prog.Each.safe ((Prog.Each.bind (each_append_grows _)
        fun _ => Prog.Each.pure _).mono fun _ _ _ h => h.stays)
    · trivial

/-- **A final state is final**: a request that is completed, rejected or withdrawn is left as it
is by every call that begins from then on, in any interleaving and with any failing steps. -/
theorem final_state (hrow : row ∈ s.takedowns.rows) (hterminal : row.status ∈ TERMINAL)
    (hrun : TakedownRun (calling p calls s) t) : row ∈ t.shared.takedowns.rows := by
  refine Run.safe closed_stays hrun (fun i => ?_) hrow
  show ((calls i).program p).Safe _ _ s
  by_cases hupdate : ∃ actor id dto ctx, calls i = .update actor id dto ctx
  · obtain ⟨actor, id, dto, ctx, hi⟩ := hupdate
    rw [hi]
    exact Prog.Safe.map (fun _ => ()) (safe_updateStatus hrow hterminal)
  · exact Prog.Each.safe ((each_call_grows (calls i) fun actor id dto ctx h =>
      hupdate ⟨actor, id, dto, ctx, h⟩).mono fun _ _ _ h => h.stays)

def sampleTakedown : TakedownRequest :=
  (drafted "E" .domainRegistrar "GoDaddy" none "Please suspend it." (numbered 0)).moved
    sampleReviewer (sampleMove .completed) 0

/-- A request that is completed, which somebody submits and withdraws. -/
def sampleClosed : Store :=
  { sampleStore with takedowns := sampleStore.takedowns.add sampleTakedown rfl }

def sampleRefused : Pool (Bool × Bool) Store (Program Unit) :=
  Prog.turns (calling samplePlatform sampleCalls sampleClosed) sampleTurns

theorem final_state_sample : sampleTakedown ∈ sampleRefused.shared.takedowns.rows :=
  final_state List.mem_cons_self (by decide) (Prog.run_turns .refl (Prog.permittedTurns_true _ _))

end Final

/-! ## Legal paths -/

section Paths

variable {ι : Type} [DecidableEq ι] {p : Platform} {calls : ι → Call} {s x y z : Store}
  {t : Pool ι Store (Program Unit)}

/-- One status leads to another one by legal transitions. -/
def Leads : TakedownStatus → TakedownStatus → Prop :=
  Relation.ReflTransGen fun fromStatus toStatus => toStatus ∈ TRANSITIONS fromStatus

/-- Every request has gone along legal transitions, a new one from the draft. -/
structure Lawful (x y : Store) : Prop where
  old : ∀ row ∈ x.takedowns.rows, ∃ row' ∈ y.takedowns.rows, row'.id = row.id ∧
    Leads row.status row'.status
  new : ∀ row' ∈ y.takedowns.rows,
    (∃ row ∈ x.takedowns.rows, row.id = row'.id) ∨ Leads .draft row'.status

theorem closed_lawful : Closed Lawful where
  refl _ := ⟨fun row h => ⟨row, h, rfl, .refl⟩, fun row h => Or.inl ⟨row, h, rfl⟩⟩
  trans := by
    rintro x y z hxy hyz
    refine ⟨fun row hrow => ?_, fun row'' hrow'' => ?_⟩
    · obtain ⟨row', hrow', hid, hleads⟩ := hxy.old row hrow
      obtain ⟨row'', hrow'', hid', hleads'⟩ := hyz.old row' hrow'
      exact ⟨row'', hrow'', hid'.trans hid, hleads.trans hleads'⟩
    · rcases hyz.new row'' hrow'' with ⟨row', hrow', hid'⟩ | hnew
      · refine (hxy.new row' hrow').imp (fun ⟨row, hrow, hid⟩ => ⟨row, hrow, hid.trans hid'⟩) ?_
        intro hleads
        obtain ⟨again, hagain, hid, hleads'⟩ := hyz.old row' hrow'
        obtain rfl := z.takedowns.eq_of_key hagain hrow'' (hid.trans hid')
        exact hleads.trans hleads'
      · exact Or.inr hnew

theorem Grows.lawful (h : Grows x y) : Lawful x y := by
  rcases h with hsame | ⟨new, hadd, hdraft⟩
  · exact ⟨fun row hrow => ⟨row, hsame ▸ hrow, rfl, .refl⟩,
      fun row hrow => Or.inl ⟨row, hsame ▸ hrow, rfl⟩⟩
  · refine ⟨fun row hrow => ⟨row, hadd ▸ List.mem_append_left _ hrow, rfl, .refl⟩,
      fun row hrow => ?_⟩
    rw [hadd] at hrow
    rcases List.mem_append.mp hrow with hold | hnew
    · exact Or.inl ⟨row, hold, rfl⟩
    · obtain rfl := List.mem_singleton.mp hnew
      exact Or.inr (hdraft ▸ .refl)

/-- A status is written to a request that is in the status that it was found in. -/
def AsFound : TakedownStep → Store → Prop
  | .update id found, s => ∀ row ∈ s.takedowns.rows, row.id = id → row.status = found
  | _, _ => True

instance : (l : TakedownStep) → (s : Store) → Decidable (AsFound l s)
  | .update id found, s =>
    inferInstanceAs (Decidable (∀ row ∈ s.takedowns.rows, row.id = id → row.status = found))
  | .read, _ | .create, _ | .append, _ | .world, _ => isTrue trivial

/-- The rows after a legal move. -/
theorem lawful_moved {actor : AuthenticatedUser} {id : Uuid} {dto : UpdateTakedownStatusDto}
    {found : TakedownStatus} (hlegal : dto.status ∈ TRANSITIONS found)
    (hfound : AsFound (.update id found) x) :
    Lawful x { x with
      takedowns := x.takedowns.modify id (TakedownRequest.moved actor dto x.now)
        (TakedownRequest.id_moved actor dto x.now) } := by
  have hmoves : ∀ row ∈ x.takedowns.rows,
      (if row.id = id then row.moved actor dto x.now else row).id = row.id ∧
        Leads row.status (if row.id = id then row.moved actor dto x.now else row).status := by
    intro row hrow
    split
    · rename_i hid
      exact ⟨rfl, .single (hfound row hrow hid ▸ hlegal)⟩
    · exact ⟨rfl, .refl⟩
  refine ⟨fun row hrow => ⟨_, Table.mem_modify.mpr ⟨row, hrow, rfl⟩, hmoves row hrow⟩,
    fun row' hrow' => ?_⟩
  obtain ⟨row, hrow, rfl⟩ := Table.mem_modify.mp hrow'
  exact Or.inl ⟨row, hrow, (hmoves row hrow).1.symm⟩

theorem lawful_updateStatus (actor : AuthenticatedUser) (id : Uuid)
    (dto : UpdateTakedownStatusDto) (ctx : RequestContext) :
    (updateStatus actor id dto ctx).Safe AsFound Lawful s := by
  refine Prog.Safe.bind_each closed_lawful (Prog.Each.bind ?_ fun found => ?_) fun row t _ => ?_
  · exact (each_read_grows _).mono fun _ _ _ h => h.lawful
  · cases found with
    | none => exact Prog.Each.throw _
    | some row => exact Prog.Each.pure _
  · split
    · rename_i hlegal
      refine Prog.Safe.attempt_bind closed_lawful fun u row' v _ hfound hupdate => ?_
      obtain ⟨_, -, hpair⟩ := Option.map_eq_some_iff.mp hupdate
      obtain ⟨-, rfl⟩ := Prod.mk.inj hpair
      exact ⟨lawful_moved hlegal hfound, Prog.Each.safe ((Prog.Each.bind (each_append_grows _)
        fun _ => Prog.Each.pure _).mono fun _ _ _ h => h.lawful)⟩
    · trivial

/-- **Legal paths**: where every status is written to a request that is still as it was found, the
requests go along legal transitions, in any interleaving and with any failing steps, and new ones
start from the draft. -/
theorem lawful_paths (hrun : Pool.Run (Prog.interleaved AsFound) (calling p calls s) t) :
    Lawful s t.shared := by
  refine Run.safe closed_lawful hrun fun i => ?_
  show ((calls i).program p).Safe _ _ s
  by_cases hupdate : ∃ actor id dto ctx, calls i = .update actor id dto ctx
  · obtain ⟨actor, id, dto, ctx, hi⟩ := hupdate
    rw [hi]
    exact Prog.Safe.map (fun _ => ()) (lawful_updateStatus actor id dto ctx)
  · exact Prog.Each.safe ((each_call_grows (calls i) fun actor id dto ctx h =>
      hupdate ⟨actor, id, dto, ctx, h⟩).mono fun _ _ _ h => h.lawful)

theorem lawful_paths_sample : Lawful sampleStore sampleDone.shared := by
  have hrun : Pool.Run (Prog.interleaved AsFound)
      (calling samplePlatform sampleCalls sampleStore) sampleDone :=
    Prog.run_turns .refl (by decide)
  exact lawful_paths hrun

end Paths

end Takedown
