import Mathlib.Logic.Function.Basic
import Vigiscam.Common.Columns
import Vigiscam.Concurrency.Prog
import Vigiscam.Concurrency.Table
import Vigiscam.Protection.Store

/-!
# The investigator console (`investigator-portal.service.ts`)

A case belongs to a tenant. It binds evidence events and scam clusters by links, and has notes.
Every mutation asks for an open case of the caller's tenant first (`requireOpen`), and appends an
evidence event last; no transaction is around them.
-/

namespace InvestigatorPortal

open Js Value Common Concurrency EvidenceVault
open Protection (userEvidence)

/-! ## The tables -/

inductive CaseStatus where
  | open | inProgress | awaitingInformation | onHold | closed
deriving DecidableEq

def CaseStatus.name : CaseStatus → Text
  | .open => "OPEN"
  | .inProgress => "IN_PROGRESS"
  | .awaitingInformation => "AWAITING_INFORMATION"
  | .onHold => "ON_HOLD"
  | .closed => "CLOSED"

inductive CaseSeverity where
  | low | medium | high | critical
deriving DecidableEq

def CaseSeverity.name : CaseSeverity → Text
  | .low => "LOW"
  | .medium => "MEDIUM"
  | .high => "HIGH"
  | .critical => "CRITICAL"

inductive CaseDisposition where
  | confirmedScam | unfounded | referredToAgency | referredToPlatform | insufficientEvidence
  | duplicate | other
deriving DecidableEq

def CaseDisposition.name : CaseDisposition → Text
  | .confirmedScam => "CONFIRMED_SCAM"
  | .unfounded => "UNFOUNDED"
  | .referredToAgency => "REFERRED_TO_AGENCY"
  | .referredToPlatform => "REFERRED_TO_PLATFORM"
  | .insufficientEvidence => "INSUFFICIENT_EVIDENCE"
  | .duplicate => "DUPLICATE"
  | .other => "OTHER"

structure InvestigatorCase where
  id : Uuid
  tenantId : Uuid
  title : Text
  summary : Option Text
  severity : CaseSeverity
  status : CaseStatus
  assignedToUserId : Option Uuid
  createdByUserId : Uuid
  closedAt : Option Date
  disposition : Option CaseDisposition
  evidenceEventId : Option Uuid

/-- The two tables of links have the same columns. -/
inductive LinkKind where
  | evidence | cluster
deriving DecidableEq

/-- A row of `investigator_case_evidence` or of `investigator_case_clusters`. -/
structure CaseLink where
  id : Uuid
  caseId : Uuid
  /-- `evidenceEventId` or `clusterId`. -/
  entityId : Uuid
  linkedByUserId : Uuid
  rationale : Option Text
  caseId_column : uuidColumn caseId = caseId

structure InvestigatorCaseNote where
  id : Uuid
  caseId : Uuid
  authorUserId : Uuid
  body : Text
  evidenceEventId : Option Uuid

/-- The database. No two links of a kind have the same id. -/
structure Store where
  cases : List InvestigatorCase
  links : LinkKind → List CaseLink
  notes : List InvestigatorCaseNote
  evidence : List (Uuid × AppendEvidenceInput)
  uuid : Nat → Uuid
  issued : Nat
  now : Date
  links_nodup : ∀ kind, ((links kind).map CaseLink.id).Nodup

/-! ## Steps -/

inductive CaseStep where
  | read | createCase | updateCase | createLink | deleteLink | createNote | updateNote
  | appendEvidence
deriving DecidableEq

abbrev Program (α : Type) := Prog Store CaseStep HttpError α

def read {α : Type} (f : Store → α) : Program α := Prog.act .read .internal fun s => (f s, s)

/-- `investigatorCase.create`; it throws where the id is taken. -/
def createRow (row : Uuid → InvestigatorCase) : Program InvestigatorCase :=
  Prog.attempt .createCase .internal fun s =>
    let created := row (s.uuid s.issued)
    if created.id ∈ s.cases.map InvestigatorCase.id then none
    else some (created, { s with cases := s.cases ++ [created], issued := s.issued + 1 })

/-- `investigatorCase.update`, of the row where it is there, and `f` writes no column that it
must not. -/
def updateRow (id : Uuid) (f : Date → InvestigatorCase → Option InvestigatorCase) :
    Program InvestigatorCase :=
  Prog.attempt .updateCase .internal fun s =>
    (Table.find InvestigatorCase.id id s.cases).bind fun row =>
      (f s.now row).map fun updated => (updated, { s with
        cases := Table.modify InvestigatorCase.id id (fun row => (f s.now row).getD row) s.cases })

/-- A new link, under an id that no link of its kind has. -/
def Store.addLink (s : Store) (kind : LinkKind) (link : CaseLink)
    (h : link.id ∉ (s.links kind).map CaseLink.id) : Store :=
  { s with
    links := Function.update s.links kind (s.links kind ++ [link])
    issued := s.issued + 1
    links_nodup := by
      refine (Function.forall_update_iff s.links
        fun _ links => (links.map CaseLink.id).Nodup).mpr ⟨?_, fun other _ => s.links_nodup other⟩
      exact Table.nodup_append_new (s.links_nodup kind) h }

/-- `create` of a link; `none` is the error P2002, of an entity that is linked already. -/
def createLink (kind : LinkKind) (row : Uuid → CaseLink) : Program (Option CaseLink) :=
  Prog.act .createLink .internal fun s =>
    let link := row (s.uuid s.issued)
    if h : link.id ∈ (s.links kind).map CaseLink.id then (none, s)
    else if ∃ l ∈ s.links kind, l.caseId = link.caseId ∧ l.entityId = link.entityId then (none, s)
    else (some link, s.addLink kind link h)

def Store.removeLink (s : Store) (kind : LinkKind) (id : Uuid) : Store :=
  { s with
    links := Function.update s.links kind ((s.links kind).filter (·.id ≠ id))
    links_nodup := by
      refine (Function.forall_update_iff s.links
        fun _ links => (links.map CaseLink.id).Nodup).mpr ⟨?_, fun other _ => s.links_nodup other⟩
      exact (List.filter_sublist.map CaseLink.id).nodup (s.links_nodup kind) }

/-- `delete` of a link; it throws where there is none. -/
def deleteLink (kind : LinkKind) (id : Uuid) : Program Unit :=
  Prog.attempt .deleteLink .internal fun s =>
    if id ∈ (s.links kind).map CaseLink.id then some ((), s.removeLink kind id) else none

def createNote (row : Uuid → InvestigatorCaseNote) : Program InvestigatorCaseNote :=
  Prog.attempt .createNote .internal fun s =>
    let note := row (s.uuid s.issued)
    if note.id ∈ s.notes.map InvestigatorCaseNote.id then none
    else some (note, { s with notes := s.notes ++ [note], issued := s.issued + 1 })

def InvestigatorCaseNote.withEvidence (evidenceEventId : Uuid) (note : InvestigatorCaseNote) :
    InvestigatorCaseNote :=
  { note with evidenceEventId := some evidenceEventId }

def linkNote (id evidenceEventId : Uuid) : Program InvestigatorCaseNote :=
  Prog.attempt .updateNote .internal fun s =>
    (Table.find InvestigatorCaseNote.id id s.notes).map fun note =>
      (note.withEvidence evidenceEventId, { s with
        notes := Table.modify InvestigatorCaseNote.id id
          (InvestigatorCaseNote.withEvidence evidenceEventId) s.notes })

/-- `evidence.append`, by its input. -/
def appendEvidence (input : AppendEvidenceInput) : Program Uuid :=
  Prog.act .appendEvidence .internal fun s =>
    (s.uuid s.issued, { s with
      evidence := s.evidence ++ [(s.uuid s.issued, input)], issued := s.issued + 1 })

/-- The evidence event of a case, which is named as the caller spells it. -/
def caseEvidence (user : AuthenticatedUser) (caseId : Text) (eventType eventDescription : Text)
    (metadata : Value) (h : metadata.Distinct) : AppendEvidenceInput :=
  userEvidence user "INVESTIGATOR_CASE" caseId eventType eventDescription metadata h

/-! ## Cases -/

structure CreateCaseDto where
  title : Text
  summary : Option Text
  severity : Option CaseSeverity
  assignedToUserId : Option Text

def newCase (user : AuthenticatedUser) (dto : CreateCaseDto) (id : Uuid) : InvestigatorCase where
  id := id
  tenantId := user.tenantId
  title := dto.title
  summary := dto.summary
  severity := dto.severity.getD .medium
  status := .open
  assignedToUserId := dto.assignedToUserId.map uuidColumn
  createdByUserId := user.userId
  closedAt := none
  disposition := none
  evidenceEventId := none

def createdMetadata (row : InvestigatorCase) : Value :=
  object [("severity", string row.severity.name),
    ("assignedToUserId", ofNullable row.assignedToUserId)]

theorem distinct_createdMetadata (row : InvestigatorCase) : (createdMetadata row).Distinct := by
  refine ⟨?_, trivial, distinct_ofNullable _, trivial⟩
  show List.Nodup [utf16 "severity", utf16 "assignedToUserId"]
  decide

def InvestigatorCase.withEvidence (evidenceEventId : Uuid) (row : InvestigatorCase) :
    InvestigatorCase :=
  { row with evidenceEventId := some evidenceEventId }

def createCase (user : AuthenticatedUser) (dto : CreateCaseDto) : Program InvestigatorCase := do
  let row ← createRow (newCase user dto)
  let evidenceEventId ← appendEvidence (caseEvidence user row.id "INVESTIGATOR_CASE_CREATED"
    (utf16 "Case \"" ++ dto.title ++ utf16 "\" opened") (createdMetadata row)
    (distinct_createdMetadata row))
  updateRow row.id fun _ row => some (row.withEvidence evidenceEventId)

def requireOpen (user : AuthenticatedUser) (caseId : Text) : Program InvestigatorCase := do
  match ← read fun s => Table.find InvestigatorCase.id (uuidColumn caseId) s.cases with
  | none => throw (.notFound "Case not found")
  | some found =>
    if found.tenantId ≠ user.tenantId then throw (.notFound "Case not found")
    else if found.status = .closed then
      throw (.badRequest "Case is closed — reopen before mutating")
    else return found

/-- `status` is any status for the validator, CLOSED included. -/
structure UpdateCaseDto where
  title : Given Text
  summary : Given Text
  severity : Given CaseSeverity
  status : Given CaseStatus
  assignedToUserId : Given Text

/-- The row with the columns that the request gives. -/
def UpdateCaseDto.apply (dto : UpdateCaseDto) (row : InvestigatorCase) :
    Option InvestigatorCase := do
  let title ← dto.title.required row.title
  let severity ← dto.severity.required row.severity
  let status ← dto.status.required row.status
  return { row with
    title
    summary := dto.summary.nullable row.summary
    severity
    status
    assignedToUserId := (dto.assignedToUserId.map uuidColumn).nullable row.assignedToUserId }

/-- What an update writes: the status is the one that is given, and no other column of an end. -/
theorem UpdateCaseDto.apply_eq_some {dto : UpdateCaseDto} {row updated : InvestigatorCase}
    (h : dto.apply row = some updated) :
    dto.status.required row.status = some updated.status ∧ updated.id = row.id ∧
      updated.closedAt = row.closedAt ∧ updated.disposition = row.disposition := by
  unfold apply at h
  cases htitle : dto.title.required row.title with
  | none => simp [htitle] at h
  | some title =>
    cases hseverity : dto.severity.required row.severity with
    | none => simp [htitle, hseverity] at h
    | some severity =>
      cases hstatus : dto.status.required row.status with
      | none => simp [htitle, hseverity, hstatus] at h
      | some status =>
        simp only [htitle, hseverity, hstatus, Option.bind_eq_bind, Option.bind_some,
          Option.pure_def, Option.some.injEq] at h
        subst h
        exact ⟨rfl, rfl, rfl, rfl⟩

/-- An update is refused for a null only. -/
theorem UpdateCaseDto.apply_ne_none_iff {dto : UpdateCaseDto} {row : InvestigatorCase} :
    dto.apply row ≠ none ↔ dto.title ≠ .null ∧ dto.severity ≠ .null ∧ dto.status ≠ .null := by
  rw [← @Given.required_ne_none_iff _ dto.title row.title,
    ← @Given.required_ne_none_iff _ dto.severity row.severity,
    ← @Given.required_ne_none_iff _ dto.status row.status, apply]
  cases dto.title.required row.title <;> cases dto.severity.required row.severity <;>
    cases dto.status.required row.status <;> simp

theorem UpdateCaseDto.id_apply (dto : UpdateCaseDto) (row : InvestigatorCase) :
    ((dto.apply row).getD row).id = row.id := by
  cases h : dto.apply row with
  | none => rfl
  | some updated => exact (apply_eq_some h).2.1

def UpdateCaseDto.json (dto : UpdateCaseDto) : Value :=
  object [("title", dto.title.json string), ("summary", dto.summary.json string),
    ("severity", dto.severity.json (string ·.name)), ("status", dto.status.json (string ·.name)),
    ("assignedToUserId", dto.assignedToUserId.json string)]

def updatedMetadata (dto : UpdateCaseDto) (existing : InvestigatorCase) : Value :=
  object [("changes", dto.json), ("previousStatus", string existing.status.name)]

theorem distinct_updatedMetadata (dto : UpdateCaseDto) (existing : InvestigatorCase) :
    (updatedMetadata dto existing).Distinct := by
  have hdto : dto.json.Distinct := by
    have hstring : ∀ text, (string text).Distinct := fun _ => trivial
    refine ⟨?_, Given.distinct_json hstring _, Given.distinct_json hstring _,
      Given.distinct_json (fun severity : CaseSeverity => hstring severity.name) _,
      Given.distinct_json (fun status : CaseStatus => hstring status.name) _,
      Given.distinct_json hstring _, trivial⟩
    show List.Nodup [utf16 "title", utf16 "summary", utf16 "severity", utf16 "status",
      utf16 "assignedToUserId"]
    decide
  refine ⟨?_, hdto, trivial, trivial⟩
  show List.Nodup [utf16 "changes", utf16 "previousStatus"]
  decide

def updateCase (user : AuthenticatedUser) (caseId : Text) (dto : UpdateCaseDto) :
    Program InvestigatorCase := do
  let existing ← requireOpen user caseId
  let updated ← updateRow (uuidColumn caseId) fun _ row => dto.apply row
  let _ ← appendEvidence (caseEvidence user caseId "INVESTIGATOR_CASE_UPDATED" "Case updated"
    (updatedMetadata dto existing) (distinct_updatedMetadata dto existing))
  return updated

/-! ## Links -/

structure LinkEntityDto where
  entityId : Text
  rationale : Option Text

namespace LinkKind

/-- How an entity of the kind is called in an event. -/
def noun : LinkKind → Text
  | evidence => "Evidence event"
  | cluster => "ScamCluster"

/-- How it is called in an error. -/
def title : LinkKind → Text
  | evidence => "Evidence"
  | cluster => "Cluster"

/-- The column of the entity. -/
def column : LinkKind → Text
  | evidence => "evidenceEventId"
  | cluster => "clusterId"

def linked : LinkKind → Text
  | evidence => "INVESTIGATOR_CASE_EVIDENCE_LINKED"
  | cluster => "INVESTIGATOR_CASE_CLUSTER_LINKED"

def unlinked : LinkKind → Text
  | evidence => "INVESTIGATOR_CASE_EVIDENCE_UNLINKED"
  | cluster => "INVESTIGATOR_CASE_CLUSTER_UNLINKED"

end LinkKind

def newLink (user : AuthenticatedUser) (caseId : Text) (dto : LinkEntityDto) (id : Uuid) :
    CaseLink where
  id := id
  caseId := uuidColumn caseId
  entityId := uuidColumn dto.entityId
  linkedByUserId := user.userId
  rationale := dto.rationale
  caseId_column := lowerAscii_lowerAscii caseId

def linkedMetadata (kind : LinkKind) (dto : LinkEntityDto) : Value :=
  object [(kind.column, string dto.entityId), ("rationale", ofNullable dto.rationale)]

theorem distinct_linkedMetadata (kind : LinkKind) (dto : LinkEntityDto) :
    (linkedMetadata kind dto).Distinct := by
  refine ⟨?_, trivial, distinct_ofNullable _, trivial⟩
  show List.Nodup [kind.column, utf16 "rationale"]
  cases kind <;> decide

def linkEntity (kind : LinkKind) (user : AuthenticatedUser) (caseId : Text) (dto : LinkEntityDto) :
    Program CaseLink := do
  let _ ← requireOpen user caseId
  match ← createLink kind (newLink user caseId dto) with
  | none => throw (.badRequest (kind.title ++ utf16 " already linked to this case"))
  | some row =>
    let _ ← appendEvidence (caseEvidence user caseId kind.linked
      (kind.noun ++ utf16 " " ++ dto.entityId ++ utf16 " linked to case") (linkedMetadata kind dto)
      (distinct_linkedMetadata kind dto))
    return row

def linkEvidence : AuthenticatedUser → Text → LinkEntityDto → Program CaseLink :=
  linkEntity .evidence

def linkCluster : AuthenticatedUser → Text → LinkEntityDto → Program CaseLink :=
  linkEntity .cluster

/-- The link, where it is one of the case as the caller spells it. -/
def requireLink (kind : LinkKind) (caseId linkId : Text) : Program CaseLink := do
  match ← read fun s => Table.find CaseLink.id (uuidColumn linkId) (s.links kind) with
  | none => throw (.notFound (kind.title ++ utf16 " link not found"))
  | some link =>
    if link.caseId ≠ caseId then throw (.notFound (kind.title ++ utf16 " link not found"))
    else return link

def unlinkEntity (kind : LinkKind) (user : AuthenticatedUser) (caseId linkId : Text) :
    Program Unit := do
  let _ ← requireOpen user caseId
  let link ← requireLink kind caseId linkId
  deleteLink kind (uuidColumn linkId)
  let _ ← appendEvidence (caseEvidence user caseId kind.unlinked
    (kind.noun ++ utf16 " " ++ link.entityId ++ utf16 " unlinked from case")
    (object [(kind.column, string link.entityId)]) ⟨List.nodup_singleton _, trivial, trivial⟩)

def unlinkEvidence : AuthenticatedUser → Text → Text → Program Unit := unlinkEntity .evidence

def unlinkCluster : AuthenticatedUser → Text → Text → Program Unit := unlinkEntity .cluster

/-! ## Notes -/

structure AddNoteDto where
  body : Text

def newNote (user : AuthenticatedUser) (caseId : Text) (dto : AddNoteDto) (id : Uuid) :
    InvestigatorCaseNote where
  id := id
  caseId := uuidColumn caseId
  authorUserId := user.userId
  body := dto.body
  evidenceEventId := none

def notedMetadata (noteId : Uuid) (dto : AddNoteDto) : Value :=
  object [("noteId", string noteId), ("length", number (.ofInt dto.body.length))]

theorem distinct_notedMetadata (noteId : Uuid) (dto : AddNoteDto) :
    (notedMetadata noteId dto).Distinct := by
  refine ⟨?_, trivial, trivial, trivial⟩
  show List.Nodup [utf16 "noteId", utf16 "length"]
  decide

def addNote (user : AuthenticatedUser) (caseId : Text) (dto : AddNoteDto) :
    Program InvestigatorCaseNote := do
  let _ ← requireOpen user caseId
  let row ← createNote (newNote user caseId dto)
  let evidenceEventId ← appendEvidence (caseEvidence user caseId "INVESTIGATOR_CASE_NOTE_ADDED"
    (utf16 "Note added to case (" ++ utf16 (toString dto.body.length) ++ utf16 " chars)")
    (notedMetadata row.id dto) (distinct_notedMetadata row.id dto))
  linkNote row.id evidenceEventId

/-! ## Close -/

structure CloseCaseDto where
  disposition : CaseDisposition
  notes : Option Text

/-- The columns of a closure. -/
def CloseCaseDto.close (dto : CloseCaseDto) (now : Date) (row : InvestigatorCase) :
    InvestigatorCase :=
  { row with status := .closed, closedAt := some now, disposition := some dto.disposition }

def closedMetadata (dto : CloseCaseDto) : Value :=
  object [("disposition", string dto.disposition.name), ("notes", ofNullable dto.notes)]

theorem distinct_closedMetadata (dto : CloseCaseDto) : (closedMetadata dto).Distinct := by
  refine ⟨?_, trivial, distinct_ofNullable _, trivial⟩
  show List.Nodup [utf16 "disposition", utf16 "notes"]
  decide

def closeCase (user : AuthenticatedUser) (caseId : Text) (dto : CloseCaseDto) :
    Program InvestigatorCase := do
  let _ ← requireOpen user caseId
  let updated ← updateRow (uuidColumn caseId) fun now row => some (dto.close now row)
  let _ ← appendEvidence (caseEvidence user caseId "INVESTIGATOR_CASE_CLOSED"
    (utf16 "Case closed with disposition " ++ dto.disposition.name) (closedMetadata dto)
    (distinct_closedMetadata dto))
  return updated

end InvestigatorPortal
