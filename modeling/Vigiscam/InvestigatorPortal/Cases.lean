import Vigiscam.Concurrency.Calls
import Vigiscam.Concurrency.Failures
import Vigiscam.InvestigatorPortal.Service

/-!
# Closed cases

`CaseEnd` says all that a call can come to, whichever of its steps fail. A case that is CLOSED
stays as it is, with its links and its notes, and no call of another tenant changes a case
(`case_freeze`).

CLOSED has two ways in. `closeCase` writes the end and the disposition with the status, and
records the closure; `updateCase` writes the status that it is told. The three agree exactly in
the runs where no update of an open case gives CLOSED, and no closure goes unrecorded
(`case_closed_iff`).
-/

namespace InvestigatorPortal

open Js Value Common Concurrency EvidenceVault

/-! ## Calls -/

inductive CaseCall where
  | createCase (dto : CreateCaseDto)
  | updateCase (caseId : Text) (dto : UpdateCaseDto)
  | linkEntity (kind : LinkKind) (caseId : Text) (dto : LinkEntityDto)
  | unlinkEntity (kind : LinkKind) (caseId linkId : Text)
  | addNote (caseId : Text) (dto : AddNoteDto)
  | closeCase (caseId : Text) (dto : CloseCaseDto)

def CaseCall.program (user : AuthenticatedUser) : CaseCall → Program Unit
  | createCase dto => do let _ ← InvestigatorPortal.createCase user dto
  | updateCase caseId dto => do let _ ← InvestigatorPortal.updateCase user caseId dto
  | linkEntity kind caseId dto => do let _ ← InvestigatorPortal.linkEntity kind user caseId dto
  | unlinkEntity kind caseId linkId => InvestigatorPortal.unlinkEntity kind user caseId linkId
  | addNote caseId dto => do let _ ← InvestigatorPortal.addNote user caseId dto
  | closeCase caseId dto => do let _ ← InvestigatorPortal.closeCase user caseId dto

/-- A call, and when it is made. -/
structure Event where
  user : AuthenticatedUser
  call : CaseCall
  now : Date
  /-- Which of its steps fail, one after the other. -/
  fails : List Bool

def Store.at (s : Store) (now : Date) : Store := { s with now }

namespace Event

/-- The store after a call that nobody interrupts. -/
def exec (e : Event) (s : Store) : Store :=
  (Prog.outcome e.fails (e.call.program e.user) (s.at e.now)).2.2

/-- The steps of the call that fail. -/
def failed (e : Event) (s : Store) : List CaseStep :=
  (Prog.outcome e.fails (e.call.program e.user) (s.at e.now)).1

end Event

/-! ## What there is of a case -/

def caseOf (id : Uuid) (s : Store) : Option InvestigatorCase :=
  Table.find InvestigatorCase.id id s.cases

def linksOf (kind : LinkKind) (id : Uuid) (s : Store) : List CaseLink :=
  (s.links kind).filter (·.caseId = id)

def notesOf (id : Uuid) (s : Store) : List InvestigatorCaseNote := s.notes.filter (·.caseId = id)

/-- The case has the same row, links and notes in both stores. -/
structure SameCase (id : Uuid) (s t : Store) : Prop where
  row : caseOf id t = caseOf id s
  links : ∀ kind, linksOf kind id t = linksOf kind id s
  notes : notesOf id t = notesOf id s

theorem SameCase.refl (id : Uuid) (s : Store) : SameCase id s s := ⟨rfl, fun _ => rfl, rfl⟩

theorem SameCase.trans {id : Uuid} {s t u : Store} (h : SameCase id s t) (h' : SameCase id t u) :
    SameCase id s u :=
  ⟨h'.row.trans h.row, fun kind => (h'.links kind).trans (h.links kind), h'.notes.trans h.notes⟩

/-- The event says that the case was closed. -/
structure Closing (id : Uuid) (event : AppendEvidenceInput) : Prop where
  entityType : event.entityType = "INVESTIGATOR_CASE"
  entityId : uuidColumn event.entityId = id
  eventType : event.eventType = "INVESTIGATOR_CASE_CLOSED"

/-- The closure of the case is on record. -/
def Recorded (id : Uuid) (s : Store) : Prop := ∃ event ∈ s.evidence, Closing id event.2

/-- What an event of a case adds to the record. -/
theorem recorded_append {id eventId : Uuid} {s t : Store} {user : AuthenticatedUser}
    {caseId eventType description : Text} {metadata : Value} {hdistinct : metadata.Distinct}
    (h : t.evidence = s.evidence ++
      [(eventId, caseEvidence user caseId eventType description metadata hdistinct)]) :
    Recorded id t ↔
      Recorded id s ∨ (uuidColumn caseId = id ∧ eventType = "INVESTIGATOR_CASE_CLOSED") := by
  have hclosing : Closing id (caseEvidence user caseId eventType description metadata hdistinct) ↔
      uuidColumn caseId = id ∧ eventType = "INVESTIGATOR_CASE_CLOSED" :=
    ⟨fun h => ⟨h.entityId, h.eventType⟩, fun h => ⟨rfl, h.1, h.2⟩⟩
  simp [Recorded, h, or_and_right, exists_or, hclosing]

theorem recorded_other {id eventId : Uuid} {s t : Store} {user : AuthenticatedUser}
    {caseId eventType description : Text} {metadata : Value} {hdistinct : metadata.Distinct}
    (h : t.evidence = s.evidence ++
      [(eventId, caseEvidence user caseId eventType description metadata hdistinct)])
    (hother : eventType ≠ "INVESTIGATOR_CASE_CLOSED") : Recorded id t ↔ Recorded id s := by
  rw [recorded_append h]
  exact or_iff_left fun hclosing => hother hclosing.2

/-- The row is one of an open case of the caller's tenant. -/
structure OpenTo (user : AuthenticatedUser) (s : Store) (row : InvestigatorCase) : Prop where
  found : caseOf row.id s = some row
  tenantId : row.tenantId = user.tenantId
  status : row.status ≠ .closed

/-! ## What a call can come to -/

/-- The call leaves an open case CLOSED without an end, or without a record: an update that gives
CLOSED and is done, or a closure whose event is not appended. -/
def Event.Misses (e : Event) (failed : List CaseStep) (s : Store) : Prop :=
  match e.call with
  | .updateCase caseId dto =>
    (∃ row, uuidColumn caseId = row.id ∧ OpenTo e.user s row) ∧ dto.status = .value .closed ∧
      dto.title ≠ .null ∧ dto.severity ≠ .null ∧ .read ∉ failed ∧ .updateCase ∉ failed
  | .closeCase _ _ => .appendEvidence ∈ failed
  | .createCase _ | .linkEntity _ _ _ | .unlinkEntity _ _ _ | .addNote _ _ => False

/-- The tables that calls on the rows of the cases leave alone. -/
structure SameLinks (s t : Store) : Prop where
  links : t.links = s.links
  notes : t.notes = s.notes

inductive CaseEnd (e : Event) (failed : List CaseStep) (s t : Store) : Prop
  | untouched (hidle : ¬ e.Misses failed s) (hcases : t.cases = s.cases) (hlinks : SameLinks s t)
      (hrecorded : ∀ id, Recorded id t ↔ Recorded id s)
  | created (row : InvestigatorCase) (hidle : ¬ e.Misses failed s)
      (hfresh : row.id ∉ s.cases.map InvestigatorCase.id)
      (hopen : row.status = .open) (hend : row.closedAt = none)
      (hcases : t.cases = s.cases ++ [row]) (hlinks : SameLinks s t)
      (hrecorded : ∀ id, Recorded id t ↔ Recorded id s)
  | updated (caseId : Text) (dto : UpdateCaseDto) (row updated : InvestigatorCase)
      (hcall : e.call = .updateCase caseId dto) (hid : uuidColumn caseId = row.id)
      (hopen : OpenTo e.user s row) (happly : dto.apply row = some updated)
      (hcases : t.cases = Table.modify InvestigatorCase.id row.id
        (fun row => (dto.apply row).getD row) s.cases) (hlinks : SameLinks s t)
      (hrecorded : ∀ id, Recorded id t ↔ Recorded id s)
      (hdone : .read ∉ failed ∧ .updateCase ∉ failed)
  | closed (caseId : Text) (dto : CloseCaseDto) (row : InvestigatorCase)
      (hcall : e.call = .closeCase caseId dto) (hid : uuidColumn caseId = row.id)
      (hopen : OpenTo e.user s row)
      (hcases : t.cases = Table.modify InvestigatorCase.id row.id (dto.close s.now) s.cases)
      (hlinks : SameLinks s t)
      (hrecorded : ∀ id, Recorded id t ↔
        Recorded id s ∨ (id = row.id ∧ .appendEvidence ∉ failed))
  | attached (row : InvestigatorCase) (hidle : ¬ e.Misses failed s)
      (hopen : OpenTo e.user s row) (hcases : t.cases = s.cases)
      (hlinks : ∀ kind id, id ≠ row.id → linksOf kind id t = linksOf kind id s)
      (hnotes : ∀ id, id ≠ row.id → notesOf id t = notesOf id s)
      (hrecorded : ∀ id, Recorded id t ↔ Recorded id s)

section Ends

variable {e : Event} {failed : List CaseStep} {user : AuthenticatedUser} {s t : Store} {id : Uuid}
  {caseId : Text}

theorem CaseEnd.nothing (hidle : ¬ e.Misses failed s) : CaseEnd e failed s s :=
  .untouched hidle rfl ⟨rfl, rfl⟩ fun _ => Iff.rfl

/-- A call that asks for an open case ends where there is none. -/
theorem outcomes_requireOpen
    {P : List CaseStep → Except HttpError InvestigatorCase → Store → Prop}
    (hfailed : P [.read] (.error .internal) s)
    (hrefused : ∀ error, (∀ row, uuidColumn caseId = row.id → ¬ OpenTo user s row) →
      P [] (.error error) s)
    (hopen : ∀ row, uuidColumn caseId = row.id → OpenTo user s row → P [] (.ok row) s) :
    Prog.Outcomes P (requireOpen user caseId) s := by
  simp only [requireOpen, read, Prog.outcomes_bind, Prog.outcomes_act, Prog.onward_ok,
    Prog.onward_error]
  refine ⟨?_, hfailed⟩
  -- an open case that is named is the one that is found
  have hnamed : ∀ row, uuidColumn caseId = row.id → OpenTo user s row →
      Table.find InvestigatorCase.id (uuidColumn caseId) s.cases = some row :=
    fun row hid hopen => hid ▸ hopen.found
  cases hfind : Table.find InvestigatorCase.id (uuidColumn caseId) s.cases with
  | none =>
    refine hrefused _ fun row hid hopen => ?_
    have := (hnamed row hid hopen).symm.trans hfind
    cases this
  | some found =>
    have hid := Table.key_of_find hfind
    have hfound : ∀ row, uuidColumn caseId = row.id → OpenTo user s row → row = found :=
      fun row hid hopen => Option.some.inj ((hnamed row hid hopen).symm.trans hfind)
    by_cases htenant : found.tenantId = user.tenantId
    · by_cases hclosed : found.status = .closed
      · simp only [htenant, hclosed, ne_eq, not_true_eq_false, if_false, if_true]
        exact hrefused _ fun row hid hopen => hopen.status (hfound row hid hopen ▸ hclosed)
      · simp only [htenant, hclosed, ne_eq, not_true_eq_false, if_false]
        exact hopen found hid.symm ⟨hid ▸ hfind, htenant, hclosed⟩
    · simp only [htenant, ne_eq, not_false_eq_true, if_true]
      exact hrefused _ fun row hid hopen => htenant (hfound row hid hopen ▸ hopen.tenantId)

theorem ends_createCase (dto : CreateCaseDto) (hidle : ∀ failed, ¬ e.Misses failed s) :
    Prog.Outcomes (fun failed _ t => CaseEnd e failed s t) (createCase user dto) s := by
  rw [createCase, Prog.outcomes_bind]
  refine Prog.outcomes_attempt (.nothing (hidle _)) (fun _ => .nothing (hidle _))
    fun row t hcreated => ?_
  obtain ⟨hfresh, hrow⟩ := Option.ite_none_left_eq_some.mp hcreated
  cases hrow
  simp only [appendEvidence, Prog.onward_ok, Prog.outcomes_bind, Prog.outcomes_act,
    Prog.onward_error]
  refine ⟨?_, .created _ (hidle _) hfresh rfl rfl rfl ⟨rfl, rfl⟩ fun _ => Iff.rfl⟩
  have hother : utf16 "INVESTIGATOR_CASE_CREATED" ≠ "INVESTIGATOR_CASE_CLOSED" := by decide
  refine Prog.outcomes_attempt ?_ (fun _ => ?_) fun linked u hlinked => ?_
  · exact .created _ (hidle _) hfresh rfl rfl rfl ⟨rfl, rfl⟩
      fun id => recorded_other rfl hother
  · exact .created _ (hidle _) hfresh rfl rfl rfl ⟨rfl, rfl⟩
      fun id => recorded_other rfl hother
  · rw [Table.find_append_new hfresh] at hlinked
    cases hlinked
    exact .created ((newCase user dto (s.uuid s.issued)).withEvidence (s.uuid (s.issued + 1)))
      (hidle _) hfresh rfl rfl (Table.modify_append_new hfresh) ⟨rfl, rfl⟩
      fun id => recorded_other rfl hother

theorem ends_updateCase {dto : UpdateCaseDto} (huser : e.user = user)
    (hcall : e.call = .updateCase caseId dto) :
    Prog.Outcomes (fun failed _ t => CaseEnd e failed s t) (updateCase user caseId dto) s := by
  rw [updateCase, Prog.outcomes_bind]
  have hmisses : ∀ failed, e.Misses failed s ↔ (∃ row, uuidColumn caseId = row.id ∧
      OpenTo e.user s row) ∧ dto.status = .value .closed ∧ dto.title ≠ .null ∧
        dto.severity ≠ .null ∧ .read ∉ failed ∧ .updateCase ∉ failed := by
    intro failed
    rw [Event.Misses, hcall]
  subst huser
  refine outcomes_requireOpen (.nothing ?_) (fun error hnone => .nothing ?_) fun row hid hopen => ?_
  · simp [hmisses]
  · rw [hmisses]
    rintro ⟨⟨row, hid, hopen⟩, -⟩
    exact hnone row hid hopen
  simp only [Prog.onward_ok, Prog.outcomes_bind]
  have hfound : Table.find InvestigatorCase.id row.id s.cases = some row := hopen.found
  refine Prog.outcomes_attempt (.nothing ?_) (fun hrefused => .nothing ?_)
    fun updated t hupdated => ?_
  · simp [hmisses]
  · rw [hid, hfound, Option.bind_some, Option.map_eq_none_iff] at hrefused
    rw [hmisses]
    rintro ⟨-, hstatus, htitle, hseverity, -⟩
    exact UpdateCaseDto.apply_ne_none_iff.mpr ⟨htitle, hseverity, by simp [hstatus]⟩ hrefused
  rw [hid, hfound, Option.bind_some] at hupdated
  obtain ⟨updated, happly, hrow⟩ := Option.map_eq_some_iff.mp hupdated
  cases hrow
  simp only [appendEvidence, Prog.onward_ok, Prog.outcomes_bind, Prog.outcomes_act,
    Prog.onward_error, Prog.outcomes_pure]
  constructor
  · exact .updated caseId dto row _ hcall hid hopen happly rfl ⟨rfl, rfl⟩
      (fun id => recorded_other rfl (by decide)) (by decide)
  · exact .updated caseId dto row _ hcall hid hopen happly rfl ⟨rfl, rfl⟩ (fun _ => Iff.rfl)
      (by decide)

theorem ends_closeCase {dto : CloseCaseDto} (huser : e.user = user)
    (hcall : e.call = .closeCase caseId dto) :
    Prog.Outcomes (fun failed _ t => CaseEnd e failed s t) (closeCase user caseId dto) s := by
  rw [closeCase, Prog.outcomes_bind]
  have hmisses : ∀ failed, e.Misses failed s ↔ .appendEvidence ∈ failed := by
    intro failed
    rw [Event.Misses, hcall]
  subst huser
  refine outcomes_requireOpen (.nothing (by simp [hmisses]))
    (fun _ _ => .nothing (by simp [hmisses]))
    fun row hid hopen => ?_
  simp only [Prog.onward_ok, Prog.outcomes_bind]
  refine Prog.outcomes_attempt (.nothing (by simp [hmisses]))
    (fun _ => .nothing (by simp [hmisses])) fun updated t hupdated => ?_
  rw [hid, show Table.find InvestigatorCase.id row.id s.cases = some row from hopen.found]
    at hupdated
  cases hupdated
  simp only [appendEvidence, Prog.onward_ok, Prog.outcomes_bind, Prog.outcomes_act,
    Prog.onward_error, Prog.outcomes_pure]
  constructor
  · refine .closed caseId dto row hcall hid hopen rfl ⟨rfl, rfl⟩ fun id => ?_
    rw [recorded_append rfl, hid]
    simp [eq_comm]
  · refine .closed caseId dto row hcall hid hopen rfl ⟨rfl, rfl⟩ fun id => ?_
    exact (or_iff_left fun hsame => hsame.2 (List.mem_singleton_self _)).symm

/-! ### Links and notes -/

theorem linksOf_update {kind : LinkKind} {links : List CaseLink} {kind' : LinkKind}
    (ht : t.links = Function.update s.links kind links)
    (h : links.filter (·.caseId = id) = (s.links kind).filter (·.caseId = id)) :
    linksOf kind' id t = linksOf kind' id s := by
  rw [linksOf, linksOf, ht]
  by_cases hkind : kind' = kind
  · subst hkind
    rw [Function.update_self]
    exact h
  · rw [Function.update_of_ne hkind]

theorem outcomes_createLink {kind : LinkKind} {row : Uuid → CaseLink}
    {P : List CaseStep → Except HttpError (Option CaseLink) → Store → Prop}
    (hfailed : P [.createLink] (.error .internal) s) (hlinked : P [] (.ok none) s)
    (hadded : ∀ h, P [] (.ok (some (row (s.uuid s.issued))))
      (s.addLink kind (row (s.uuid s.issued)) h)) :
    Prog.Outcomes P (createLink kind row) s := by
  rw [createLink, Prog.outcomes_act]
  refine ⟨?_, hfailed⟩
  by_cases htaken : (row (s.uuid s.issued)).id ∈ (s.links kind).map CaseLink.id
  · simpa only [dif_pos htaken] using hlinked
  · simp only [dif_neg htaken]
    split
    · exact hlinked
    · exact hadded htaken

theorem ends_linkEntity {kind : LinkKind} {dto : LinkEntityDto} (huser : e.user = user)
    (hidle : ∀ failed, ¬ e.Misses failed s) :
    Prog.Outcomes (fun failed _ t => CaseEnd e failed s t) (linkEntity kind user caseId dto) s := by
  rw [linkEntity, Prog.outcomes_bind]
  refine outcomes_requireOpen (.nothing (hidle _)) (fun _ _ => .nothing (hidle _))
    fun row hid hopen => ?_
  simp only [Prog.onward_ok, Prog.outcomes_bind]
  refine outcomes_createLink (.nothing (hidle _)) (.nothing (hidle _)) fun hfresh => ?_
  simp only [appendEvidence, Prog.onward_ok, Prog.outcomes_bind, Prog.outcomes_act,
    Prog.onward_error, Prog.outcomes_pure]
  subst huser
  have hlinks : ∀ kind' id, id ≠ row.id →
      linksOf kind' id (s.addLink kind (newLink e.user caseId dto (s.uuid s.issued)) hfresh) =
        linksOf kind' id s := by
    intro kind' id hne
    refine linksOf_update rfl ?_
    simp [newLink, hid, Ne.symm hne]
  have hother : kind.linked ≠ "INVESTIGATOR_CASE_CLOSED" := by cases kind <;> decide
  constructor
  · exact .attached row (hidle _) hopen rfl hlinks (fun _ _ => rfl)
      fun id => recorded_other rfl hother
  · exact .attached row (hidle _) hopen rfl hlinks (fun _ _ => rfl) fun _ => Iff.rfl

/-- A link is looked up by its id, and must be one of the case. -/
theorem outcomes_requireLink {kind : LinkKind} {linkId : Text}
    {P : List CaseStep → Except HttpError CaseLink → Store → Prop}
    (hend : ∀ failed error, P failed (.error error) s)
    (hlink : ∀ link ∈ s.links kind, link.id = uuidColumn linkId → link.caseId = caseId →
      P [] (.ok link) s) : Prog.Outcomes P (requireLink kind caseId linkId) s := by
  simp only [requireLink, read, Prog.outcomes_bind, Prog.outcomes_act, Prog.onward_ok,
    Prog.onward_error]
  refine ⟨?_, hend _ _⟩
  cases hfind : Table.find CaseLink.id (uuidColumn linkId) (s.links kind) with
  | none => exact hend _ _
  | some link =>
    by_cases hcase : link.caseId = caseId
    · simpa [hcase] using
        hlink link (Table.mem_of_find hfind) (Table.key_of_find hfind) hcase
    · simpa [hcase] using hend _ _

/-- A link of a case is no link of another: its id is its own. -/
theorem filter_removed {kind : LinkKind} {link : CaseLink} (hlink : link ∈ s.links kind)
    (hne : id ≠ link.caseId) :
    ((s.links kind).filter (·.id ≠ link.id)).filter (·.caseId = id) =
      (s.links kind).filter (·.caseId = id) := by
  rw [List.filter_filter]
  refine List.filter_congr fun l hl => ?_
  have hother : l.caseId = id → l.id ≠ link.id := by
    rintro rfl hsame
    exact hne (congrArg CaseLink.caseId
      (List.inj_on_of_nodup_map (s.links_nodup kind) hl hlink hsame))
  by_cases hid : l.caseId = id <;> simp [hid, hother]

theorem ends_unlinkEntity {kind : LinkKind} {linkId : Text} (huser : e.user = user)
    (hidle : ∀ failed, ¬ e.Misses failed s) :
    Prog.Outcomes (fun failed _ t => CaseEnd e failed s t)
      (unlinkEntity kind user caseId linkId) s := by
  rw [unlinkEntity, Prog.outcomes_bind]
  refine outcomes_requireOpen (.nothing (hidle _)) (fun _ _ => .nothing (hidle _))
    fun row hid hopen => ?_
  simp only [Prog.onward_ok, Prog.outcomes_bind]
  refine outcomes_requireLink (fun _ _ => .nothing (hidle _))
    fun link hlink hlinkId hcase => ?_
  simp only [Prog.onward_ok, Prog.outcomes_bind]
  refine Prog.outcomes_attempt (.nothing (hidle _)) (fun _ => .nothing (hidle _))
    fun _ t hdeleted => ?_
  obtain ⟨-, hrow⟩ := Option.ite_none_right_eq_some.mp hdeleted
  cases hrow
  simp only [appendEvidence, Prog.onward_ok, Prog.outcomes_bind, Prog.outcomes_act,
    Prog.onward_error, Prog.outcomes_pure]
  subst huser
  have hlinks : ∀ kind' id, id ≠ row.id →
      linksOf kind' id (s.removeLink kind (uuidColumn linkId)) = linksOf kind' id s := by
    intro kind' id hne
    refine linksOf_update rfl ?_
    rw [← hlinkId]
    refine filter_removed hlink ?_
    rwa [← link.caseId_column, hcase, hid]
  have hother : kind.unlinked ≠ "INVESTIGATOR_CASE_CLOSED" := by cases kind <;> decide
  constructor
  · exact .attached row (hidle _) hopen rfl hlinks (fun _ _ => rfl)
      fun id => recorded_other rfl hother
  · exact .attached row (hidle _) hopen rfl hlinks (fun _ _ => rfl) fun _ => Iff.rfl

/-! ### Notes -/

theorem ends_addNote {dto : AddNoteDto} (huser : e.user = user)
    (hidle : ∀ failed, ¬ e.Misses failed s) :
    Prog.Outcomes (fun failed _ t => CaseEnd e failed s t) (addNote user caseId dto) s := by
  rw [addNote, Prog.outcomes_bind]
  refine outcomes_requireOpen (.nothing (hidle _)) (fun _ _ => .nothing (hidle _))
    fun row hid hopen => ?_
  simp only [Prog.onward_ok, Prog.outcomes_bind]
  refine Prog.outcomes_attempt (.nothing (hidle _)) (fun _ => .nothing (hidle _))
    fun note t hcreated => ?_
  obtain ⟨hfresh, hnote⟩ := Option.ite_none_left_eq_some.mp hcreated
  cases hnote
  simp only [appendEvidence, Prog.onward_ok, Prog.outcomes_bind, Prog.outcomes_act,
    Prog.onward_error]
  subst huser
  have hnotes : ∀ {t : Store} {note : InvestigatorCaseNote}, t.notes = s.notes ++ [note] →
      note.caseId = row.id → ∀ id, id ≠ row.id → notesOf id t = notesOf id s := by
    intro t note ht hnote id hne
    simp [notesOf, ht, hnote, Ne.symm hne]
  have hother : utf16 "INVESTIGATOR_CASE_NOTE_ADDED" ≠ "INVESTIGATOR_CASE_CLOSED" := by decide
  refine ⟨?_, .attached row (hidle _) hopen rfl (fun _ _ _ => rfl) (hnotes rfl hid)
    fun _ => Iff.rfl⟩
  refine Prog.outcomes_attempt ?_ (fun _ => ?_) fun linked u hlinked => ?_
  · exact .attached row (hidle _) hopen rfl (fun _ _ _ => rfl) (hnotes rfl hid)
      fun id => recorded_other rfl hother
  · exact .attached row (hidle _) hopen rfl (fun _ _ _ => rfl) (hnotes rfl hid)
      fun id => recorded_other rfl hother
  · rw [Table.find_append_new hfresh] at hlinked
    cases hlinked
    exact .attached row (hidle _) hopen rfl (fun _ _ _ => rfl)
      (hnotes (Table.modify_append_new hfresh) hid) fun id => recorded_other rfl hother

/-- **What a call can come to.** -/
theorem caseEnd (e : Event) (s : Store) : CaseEnd e (e.failed s) (s.at e.now) (e.exec s) := by
  have hend : Prog.Outcomes (fun failed _ t => CaseEnd e failed (s.at e.now) t)
      (e.call.program e.user) (s.at e.now) := by
    have hidle : (match e.call with | .updateCase _ _ | .closeCase _ _ => False | _ => True) →
        ∀ failed, ¬ e.Misses failed (s.at e.now) := by
      intro hcall failed
      unfold Event.Misses
      split <;> simp_all
    cases hcall : e.call with
    | createCase dto => exact (ends_createCase dto (hidle (by simp [hcall]))).discard
    | updateCase caseId dto => exact (ends_updateCase rfl hcall).discard
    | linkEntity kind caseId dto => exact (ends_linkEntity rfl (hidle (by simp [hcall]))).discard
    | unlinkEntity kind caseId linkId => exact ends_unlinkEntity rfl (hidle (by simp [hcall]))
    | addNote caseId dto => exact (ends_addNote rfl (hidle (by simp [hcall]))).discard
    | closeCase caseId dto => exact (ends_closeCase rfl hcall).discard
  exact Prog.outcomes_iff.mp hend _ _ _ (Prog.ends_outcome _ _ _)

end Ends

/-! ## Closed cases, and those of other tenants -/

section Freeze

variable {e : Event} {s s₀ : Store} {id : Uuid} {row : InvestigatorCase} {events : List Event}

/-- A call changes an open case of the caller's tenant only. -/
theorem sameCase_of_not_openTo (hfound : caseOf id s = some row) (hnot : ¬ OpenTo e.user s row) :
    SameCase id s (e.exec s) := by
  have hid : row.id = id := Table.key_of_find hfound
  -- the case that a call names is another one
  have hother : ∀ named, OpenTo e.user (s.at e.now) named → id ≠ named.id := by
    rintro named hopen rfl
    obtain rfl : named = row := Option.some.inj (hopen.found.symm.trans hfound)
    exact hnot ⟨hopen.found, hopen.tenantId, hopen.status⟩
  have hrows : ∀ {f : InvestigatorCase → InvestigatorCase} {named : InvestigatorCase},
      OpenTo e.user (s.at e.now) named → (∀ r, (f r).id = r.id) →
      (e.exec s).cases = Table.modify InvestigatorCase.id named.id f (s.at e.now).cases →
      caseOf id (e.exec s) = caseOf id s := by
    intro f named hopen hf hcases
    rw [caseOf, hcases, Table.find_modify_of_ne hf (hother named hopen)]
    rfl
  have hlinks : SameLinks (s.at e.now) (e.exec s) → (∀ kind, linksOf kind id (e.exec s) =
      linksOf kind id s) ∧ notesOf id (e.exec s) = notesOf id s := by
    intro h
    refine ⟨fun kind => ?_, ?_⟩
    · rw [linksOf, h.links]
      rfl
    · rw [notesOf, h.notes]
      rfl
  cases caseEnd e s with
  | untouched _ hcases hsame =>
    refine ⟨?_, (hlinks hsame).1, (hlinks hsame).2⟩
    rw [caseOf, hcases]
    rfl
  | created new _ hfresh _ _ hcases hsame =>
    refine ⟨?_, (hlinks hsame).1, (hlinks hsame).2⟩
    rw [caseOf, hcases]
    exact (Table.find_append_of_find hfound).trans hfound.symm
  | updated caseId dto named _ _ _ hopen _ hcases hsame =>
    exact ⟨hrows hopen dto.id_apply hcases, (hlinks hsame).1, (hlinks hsame).2⟩
  | closed caseId dto named _ _ hopen hcases hsame =>
    exact ⟨hrows (f := dto.close e.now) hopen (fun _ => rfl) hcases, (hlinks hsame).1,
      (hlinks hsame).2⟩
  | attached named _ hopen hcases hkept hnotes =>
    have hne := hother named hopen
    refine ⟨?_, fun kind => hkept kind id hne, hnotes id hne⟩
    rw [caseOf, hcases]
    rfl

/-- **A closed case is frozen, and a case is its tenant's**: at every moment of a run of calls of
any users, with whichever of their steps failing, a case that is CLOSED stays as it is to the end,
and the next call leaves every case of another tenant alone: the row, the links and the notes. -/
theorem case_freeze (s₀ : Store) (events : List Event) :
    (∀ moment later, moment <+: later → later <+: events → ∀ id row,
      caseOf id (after Event.exec s₀ moment) = some row → row.status = .closed →
        SameCase id (after Event.exec s₀ moment) (after Event.exec s₀ later)) ∧
    ∀ before e, before ++ [e] <+: events → ∀ id row,
      caseOf id (after Event.exec s₀ before) = some row → row.tenantId ≠ e.user.tenantId →
        SameCase id (after Event.exec s₀ before) (after Event.exec s₀ (before ++ [e])) := by
  constructor
  · rintro moment later ⟨rest, rfl⟩ - id row hfound hclosed
    induction rest using List.reverseRecOn with
    | nil => simpa using SameCase.refl id _
    | append_singleton rest e ih =>
      rw [← List.append_assoc, after_concat]
      refine ih.trans (sameCase_of_not_openTo (ih.row.trans hfound) ?_)
      exact fun hopen => hopen.status hclosed
  · intro before e _ id row hfound htenant
    rw [after_concat]
    exact sameCase_of_not_openTo hfound fun hopen => htenant hopen.tenantId

end Freeze

/-! ## CLOSED, the end, and the record -/

/-- A case is CLOSED exactly when it has an end and a disposition, and its closure is on record. -/
def Consistent (s : Store) : Prop :=
  ∀ id row, caseOf id s = some row →
    (row.status = .closed ↔ row.closedAt ≠ none ∧ row.disposition ≠ none ∧ Recorded id s)

/-- A row with what is on record of its closure. -/
def Settled (recorded : Prop) (row : InvestigatorCase) : Prop :=
  if row.status = .closed then row.closedAt ≠ none ∧ row.disposition ≠ none ∧ recorded
  else row.closedAt = none ∧ ¬ recorded

/-- Every row is settled, and nothing is on record of cases that there are not. -/
structure Lawful (s : Store) : Prop where
  settled : ∀ id row, caseOf id s = some row → Settled (Recorded id s) row
  known : ∀ id, caseOf id s = none → ¬ Recorded id s

theorem Lawful.consistent {s : Store} (h : Lawful s) : Consistent s := by
  intro id row hrow
  have hsettled := h.settled id row hrow
  by_cases hclosed : row.status = .closed
  · rw [Settled, if_pos hclosed] at hsettled
    exact ⟨fun _ => hsettled, fun _ => hclosed⟩
  · rw [Settled, if_neg hclosed] at hsettled
    exact ⟨fun h => absurd h hclosed, fun h => absurd hsettled.1 h.1⟩

section Closing

variable {e : Event} {s s₀ : Store} {events : List Event}

theorem misses_at {failed : List CaseStep} (now : Date) :
    e.Misses failed (s.at now) ↔ e.Misses failed s := by
  have hopen : ∀ row, OpenTo e.user (s.at now) row ↔ OpenTo e.user s row :=
    fun row => ⟨fun h => ⟨h.found, h.tenantId, h.status⟩, fun h => ⟨h.found, h.tenantId, h.status⟩⟩
  unfold Event.Misses
  simp only [hopen]

/-- A row that one call has changed, and the record of its case. -/
theorem Lawful.modify {t : Store} {named : InvestigatorCase}
    {f : InvestigatorCase → InvestigatorCase}
    (h : Lawful s) (hfound : caseOf named.id s = some named) (hf : ∀ row, (f row).id = row.id)
    (hcases : t.cases = Table.modify InvestigatorCase.id named.id f s.cases)
    (hothers : ∀ id, id ≠ named.id → (Recorded id t ↔ Recorded id s))
    (hnamed : Settled (Recorded named.id t) (f named)) : Lawful t := by
  have hrow : caseOf named.id t = some (f named) := by
    rw [caseOf, hcases, Table.find_modify_self hf]
    exact congrArg (Option.map f) hfound
  have hkept : ∀ id, id ≠ named.id → caseOf id t = caseOf id s := fun id hne => by
    rw [caseOf, hcases, Table.find_modify_of_ne hf hne]
    rfl
  constructor
  · intro id row hid
    by_cases hsame : id = named.id
    · subst hsame
      obtain rfl := Option.some.inj (hrow.symm.trans hid)
      exact hnamed
    · rw [hothers id hsame]
      exact h.settled id row ((hkept id hsame).symm.trans hid)
  · intro id hnone
    by_cases hsame : id = named.id
    · subst hsame
      rw [hrow] at hnone
      cases hnone
    · rw [hothers id hsame]
      exact h.known id ((hkept id hsame).symm.trans hnone)

/-- Every call but those that miss keeps the rows and the record in step. -/
theorem Lawful.exec (h : Lawful s) (hcond : ¬ e.Misses (e.failed s) s) : Lawful (e.exec s) := by
  have hrows : (e.exec s).cases = s.cases → (∀ id, Recorded id (e.exec s) ↔ Recorded id s) →
      Lawful (e.exec s) := by
    intro hcases hrecorded
    have hsame : ∀ id, caseOf id (e.exec s) = caseOf id s := fun id => by rw [caseOf, hcases]; rfl
    refine ⟨fun id row hrow => ?_, fun id hnone => ?_⟩
    · rw [hrecorded]
      exact h.settled id row ((hsame id).symm.trans hrow)
    · rw [hrecorded]
      exact h.known id ((hsame id).symm.trans hnone)
  cases caseEnd e s with
  | untouched _ hcases _ hrecorded => exact hrows hcases hrecorded
  | attached _ _ _ hcases _ _ hrecorded => exact hrows hcases hrecorded
  | created row _ hfresh hopen hend hcases _ hrecorded =>
    have hnew : caseOf row.id s = none := Table.find_eq_none_iff.mpr hfresh
    have hfound : ∀ id, caseOf id (e.exec s) =
        (caseOf id s).or (if row.id = id then some row else none) := fun id => by
      rw [caseOf, hcases]
      exact Table.find_append_singleton
    constructor
    · intro id row' hrow'
      rw [hfound] at hrow'
      have hsame : Recorded id (e.exec s) ↔ Recorded id s := hrecorded id
      rw [hsame]
      cases hold : caseOf id s with
      | some old =>
        rw [hold] at hrow'
        obtain rfl : old = row' := Option.some.inj hrow'
        exact h.settled id old hold
      | none =>
        rw [hold, Option.none_or] at hrow'
        obtain ⟨rfl, hrow⟩ := Option.ite_none_right_eq_some.mp hrow'
        obtain rfl := Option.some.inj hrow
        rw [Settled, if_neg (by rw [hopen]; decide)]
        exact ⟨hend, h.known _ hnew⟩
    · intro id hnone
      rw [hfound, Option.or_eq_none_iff] at hnone
      have hsame : Recorded id (e.exec s) ↔ Recorded id s := hrecorded id
      rw [hsame]
      exact h.known id hnone.1
  | updated caseId dto row updated hcall hid hopen happly hcases _ hrecorded hdone =>
    have hsettled := h.settled row.id row hopen.found
    rw [Settled, if_neg hopen.status] at hsettled
    obtain ⟨hstatus, -, hend, -⟩ := UpdateCaseDto.apply_eq_some happly
    obtain ⟨htitle, hseverity, hnull⟩ :=
      UpdateCaseDto.apply_ne_none_iff.mp (by rw [happly]; exact Option.some_ne_none _)
    have hnot : updated.status ≠ .closed := by
      intro hclosed
      refine hcond ((misses_at e.now).mp ?_)
      rw [Event.Misses, hcall]
      refine ⟨⟨row, hid, hopen⟩, ?_, htitle, hseverity, hdone⟩
      rw [hclosed] at hstatus
      cases hgiven : dto.status with
      | undefined => simp [hgiven, Given.required, hopen.status] at hstatus
      | null => exact absurd hgiven hnull
      | value status => simpa [hgiven, Given.required] using hstatus
    refine h.modify hopen.found dto.id_apply hcases (fun id _ => hrecorded id) ?_
    have hsame : Recorded row.id (e.exec s) ↔ Recorded row.id s := hrecorded row.id
    rw [happly, Option.getD_some, Settled, if_neg hnot, hsame]
    exact ⟨hend.trans hsettled.1, hsettled.2⟩
  | closed caseId dto row hcall hid hopen hcases _ hrecorded =>
    have happended : .appendEvidence ∉ e.failed s := by
      intro hfailed
      refine hcond ?_
      rw [Event.Misses, hcall]
      exact hfailed
    refine h.modify (f := dto.close e.now) hopen.found (fun _ => rfl) hcases
      (fun id hne => (hrecorded id).trans (or_iff_left fun hsame => hne hsame.1)) ?_
    rw [Settled, if_pos (show (dto.close e.now row).status = .closed from rfl)]
    exact ⟨Option.some_ne_none _, Option.some_ne_none _,
      (hrecorded row.id).mpr (Or.inr ⟨rfl, happended⟩)⟩

/-- A case that a call has left CLOSED without an end, or without a record. -/
theorem Lawful.not_consistent (h : Lawful s) (hmisses : e.Misses (e.failed s) s) :
    ¬ Consistent (e.exec s) := by
  intro hconsistent
  have hrow : ∀ {named : InvestigatorCase} {f : InvestigatorCase → InvestigatorCase},
      OpenTo e.user (s.at e.now) named → (∀ row, (f row).id = row.id) →
      (e.exec s).cases = Table.modify InvestigatorCase.id named.id f s.cases →
      caseOf named.id (e.exec s) = some (f named) := by
    intro named f hopen hf hcases
    rw [caseOf, hcases, Table.find_modify_self hf]
    exact congrArg (Option.map f) hopen.found
  have hsettled : ∀ {named : InvestigatorCase}, OpenTo e.user (s.at e.now) named →
      named.closedAt = none ∧ ¬ Recorded named.id s := by
    intro named hopen
    have hsettled := h.settled named.id named hopen.found
    rwa [Settled, if_neg hopen.status] at hsettled
  cases caseEnd e s with
  | untouched hidle => exact hidle ((misses_at e.now).mpr hmisses)
  | created _ hidle => exact hidle ((misses_at e.now).mpr hmisses)
  | attached _ hidle => exact hidle ((misses_at e.now).mpr hmisses)
  | updated caseId dto row updated hcall hid hopen happly hcases =>
    rw [Event.Misses, hcall] at hmisses
    obtain ⟨hstatus, -, hend, -⟩ := UpdateCaseDto.apply_eq_some happly
    rw [hmisses.2.1] at hstatus
    have hupdated := hrow hopen dto.id_apply hcases
    rw [happly] at hupdated
    have hclosed := (hconsistent row.id updated hupdated).mp (Option.some.inj hstatus).symm
    exact hclosed.1 (hend.trans (hsettled hopen).1)
  | closed caseId dto row hcall hid hopen hcases _ hrecorded =>
    rw [Event.Misses, hcall] at hmisses
    have hclosed :=
      (hconsistent row.id _ (hrow (f := dto.close e.now) hopen (fun _ => rfl) hcases)).mp rfl
    rcases (hrecorded row.id).mp hclosed.2.2 with hold | ⟨-, hnot⟩
    · exact (hsettled hopen).2 hold
    · exact hnot hmisses

/-- **When CLOSED tells the truth**: at every moment of a run a case is CLOSED exactly when its end
and its disposition are set and its closure is on record, exactly where no call of the run misses:
no update gives an open case CLOSED, and no closure fails to append its event. -/
theorem case_closed_iff (h₀ : Lawful s₀) (events : List Event) :
    (∀ moment, moment <+: events → Consistent (after Event.exec s₀ moment)) ↔
      ∀ before e, before ++ [e] <+: events →
        ¬ e.Misses (e.failed (after Event.exec s₀ before)) (after Event.exec s₀ before) := by
  constructor
  · intro h
    have hlawful : ∀ moment, moment <+: events → Lawful (after Event.exec s₀ moment) := by
      refine forall_prefix h₀ fun before e hprefix hbefore => ?_
      rw [after_concat]
      refine hbefore.exec fun hmisses => hbefore.not_consistent hmisses ?_
      have hnext := h _ hprefix
      rwa [after_concat] at hnext
    intro before e hprefix hmisses
    have hnext := h _ hprefix
    rw [after_concat] at hnext
    have hbefore := (List.prefix_append before [e]).trans hprefix
    exact (hlawful before hbefore).not_consistent hmisses hnext
  · intro hcond
    have hlawful : ∀ moment, moment <+: events → Lawful (after Event.exec s₀ moment) := by
      refine forall_prefix h₀ fun before e hprefix hbefore => ?_
      rw [after_concat]
      exact hbefore.exec (hcond before e hprefix)
    exact fun moment hmoment => (hlawful moment hmoment).consistent

end Closing

/-! ## A case, from its opening to its end -/

namespace Sample

def now : Date :=
  { Date.sampleDay with
    month := 3
    day := 2
    hour := 9
    month_range := by decide
    day_range := by decide
    time_range := by decide }

def investigator : AuthenticatedUser := ⟨"ada", "agency", .investigator⟩

def store : Store where
  cases := []
  links _ := []
  notes := []
  evidence := []
  uuid n := [Fin.ofNat 65536 (0x30 + n)]
  issued := 0
  now := now
  links_nodup _ := List.nodup_nil

/-- A call of the investigator, none of whose steps fails. -/
def event (call : CaseCall) : Event := ⟨investigator, call, now, []⟩

def opening : Event := event (.createCase ⟨"Card mules", none, none, none⟩)

def closing : Event := event (.closeCase [0x30] ⟨.confirmedScam, none⟩)

/-- The update that gives CLOSED. -/
def closedByUpdate : Event :=
  event (.updateCase [0x30] ⟨.undefined, .undefined, .undefined, .value .closed, .undefined⟩)

theorem lawful : Lawful store :=
  ⟨fun _ _ h => (nomatch h), fun _ _ ⟨_, h, _⟩ => (nomatch h)⟩

end Sample

open Sample in
theorem case_closed_iff_opened_and_closed :
    (caseOf [0x30] (after Event.exec store [opening, closing])).map InvestigatorCase.status =
        some .closed ∧
      ∀ moment, moment <+: [opening, closing] → Consistent (after Event.exec store moment) := by
  refine ⟨by decide, (case_closed_iff lawful [opening, closing]).mpr fun before e hprefix => ?_⟩
  have hcall : e = opening ∨ e = closing := by
    have hmem : e ∈ [opening, closing] := hprefix.subset (by simp)
    simpa using hmem
  rcases hcall with rfl | rfl
  · exact fun h => h
  · have hnone : closing.failed (after Event.exec store before) = [] := Prog.outcome_nil _ _
    rw [hnone]
    exact List.not_mem_nil

/-- **An update closes a case**: it is CLOSED, and has no end, no disposition and no record. -/
theorem closed_by_update :
    ∃ row, caseOf [0x30] (after Event.exec Sample.store [Sample.opening, Sample.closedByUpdate]) =
        some row ∧ row.status = .closed ∧ row.closedAt = none ∧ row.disposition = none ∧
      ¬ Consistent (after Event.exec Sample.store [Sample.opening, Sample.closedByUpdate]) := by
  refine ⟨_, rfl, by decide, by decide, by decide, fun h => ?_⟩
  exact ((h [0x30] _ rfl).mp (by decide)).1 (by decide)

end InvestigatorPortal
