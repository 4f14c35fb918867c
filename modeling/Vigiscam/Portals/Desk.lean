import Vigiscam.Concurrency.Table
import Vigiscam.Concurrency.Prog
import Vigiscam.EvidenceVault.Service
import Vigiscam.Http
import Vigiscam.Protection.Enums

/-!
# The desk of an institution (`bank-portal.service.ts`, `platform-portal.service.ts`)

The portals of the banks and of the platforms do the same with different rows: an employee has
something scored, and records the opinion of the institution on a case of one of its own users,
once. Each is written to the evidence log of the tenant, and its row then refers to the event.

What an institution sees of other services is their part of the `world`. Ids are random: what one
tenant draws does not depend on what the others draw.
-/

namespace Portals

open Js Value Concurrency EvidenceVault
open Protection (RiskLevel)

/-! ## Rows -/

/-- A row of `teller_assist_scores` or of `grooming_check_scores`, with the columns `χ` of its
own. -/
structure Scored (χ : Type) where
  id : Uuid
  tenantId : Uuid
  /-- `tellerUserId`, or `moderatorUserId`. -/
  byUserId : Uuid
  riskLevel : RiskLevel
  columns : χ
  evidenceEventId : Option Uuid
  createdAt : Date

/-- A row of `bank_case_reviews` or of `platform_moderation_decisions`, with decisions `δ`. -/
structure Review (δ : Type) where
  id : Uuid
  tenantId : Uuid
  /-- `scamHoldEventId`, or `claimVerificationId`. -/
  subjectId : Uuid
  /-- `reviewedByUserId`, or `decidedByUserId`. -/
  byUserId : Uuid
  decision : δ
  notes : Option Text
  evidenceEventId : Option Uuid

/-- An event of the evidence log, by its input. -/
structure EvidenceEvent where
  id : Uuid
  input : AppendEvidenceInput

/-- The database, with the part `ω` of other services. -/
structure Store (ω χ δ : Type) where
  world : ω
  scores : List (Scored χ)
  reviews : List (Review δ)
  evidence : List EvidenceEvent
  now : Date
  uuid : Uuid → Nat → Uuid
  issued : Uuid → Nat

variable {ω χ δ α : Type}

inductive DeskStep where
  | read | create | append | update | world | clock

abbrev Program (ω χ δ : Type) := Prog (Store ω χ δ) DeskStep HttpError

def read (f : Store ω χ δ → α) : Program ω χ δ α := Prog.act .read .internal fun s => (f s, s)

/-- The next id that the tenant draws. -/
def Store.next (s : Store ω χ δ) (tenantId : Uuid) : Uuid := s.uuid tenantId (s.issued tenantId)

def Store.draw (s : Store ω χ δ) (tenantId : Uuid) : Store ω χ δ :=
  { s with issued := Function.update s.issued tenantId (s.issued tenantId + 1) }

/-- `evidence.append`, by its input; it returns the id of the event. -/
def appendEvidence (tenantId : Uuid) (input : AppendEvidenceInput) : Program ω χ δ Uuid :=
  Prog.act .append .internal fun s => (s.next tenantId, { s.draw tenantId with
    evidence := s.evidence ++ [⟨s.next tenantId, input⟩] })

/-- An event of an employee of the tenant. -/
def deskEvent (user : AuthenticatedUser) (entityType : Text) (entityId : Uuid)
    (eventType description : Text) (metadata : Value) (h : Distinct metadata) :
    AppendEvidenceInput where
  tenantId := some user.tenantId
  actorId := some user.userId
  actorType := some "USER"
  entityType := entityType
  entityId := entityId
  eventType := eventType
  eventDescription := description
  metadata := metadata
  ipAddress := none
  deviceId := none
  metadata_distinct := h

/-! ## Scores -/

def newScore (user : AuthenticatedUser) (riskLevel : RiskLevel) (columns : χ) (id : Uuid)
    (createdAt : Date) : Scored χ where
  id := id
  tenantId := user.tenantId
  byUserId := user.userId
  riskLevel := riskLevel
  columns := columns
  evidenceEventId := none
  createdAt := createdAt

def insertScore (user : AuthenticatedUser) (riskLevel : RiskLevel) (columns : χ) :
    Program ω χ δ (Scored χ) :=
  Prog.act .create .internal fun s =>
    let row := newScore user riskLevel columns (s.next user.tenantId) s.now
    (row, { s.draw user.tenantId with scores := s.scores ++ [row] })

def Scored.withEvidence (eventId : Uuid) (row : Scored χ) : Scored χ :=
  { row with evidenceEventId := some eventId }

/-- The update of a row by its id; it throws when there is no such row. -/
def setScoreEvidence (id eventId : Uuid) : Program ω χ δ (Scored χ) :=
  Prog.attempt .update .internal fun s =>
    (Table.find Scored.id id s.scores).map fun row =>
      (row.withEvidence eventId, { s with
        scores := Table.modify Scored.id id (Scored.withEvidence eventId) s.scores })

/-- A score is recorded, and then the event of it. -/
def recordScore (user : AuthenticatedUser) (riskLevel : RiskLevel) (columns : χ)
    (event : Scored χ → AppendEvidenceInput) : Program ω χ δ (Scored χ) := do
  let row ← insertScore user riskLevel columns
  let eventId ← appendEvidence user.tenantId (event row)
  setScoreEvidence row.id eventId

/-! ## Reviews -/

def newReview (user : AuthenticatedUser) (subjectId : Uuid) (decision : δ) (notes : Option Text)
    (id : Uuid) : Review δ where
  id := id
  tenantId := user.tenantId
  subjectId := subjectId
  byUserId := user.userId
  decision := decision
  notes := notes
  evidenceEventId := none

/-- `findUnique` by the tenant and the case. -/
def findReview (tenantId subjectId : Uuid) (reviews : List (Review δ)) : Option (Review δ) :=
  reviews.find? fun row => row.tenantId = tenantId ∧ row.subjectId = subjectId

/-- A tenant has one review of a case at most: the database refuses a second one. -/
def insertReview (user : AuthenticatedUser) (subjectId : Uuid) (decision : δ)
    (notes : Option Text) : Program ω χ δ (Review δ) :=
  Prog.attempt .create .internal fun s =>
    match findReview user.tenantId subjectId s.reviews with
    | some _ => none
    | none =>
      let row := newReview user subjectId decision notes (s.next user.tenantId)
      some (row, { s.draw user.tenantId with reviews := s.reviews ++ [row] })

def Review.withEvidence (eventId : Uuid) (row : Review δ) : Review δ :=
  { row with evidenceEventId := some eventId }

def setReviewEvidence (id eventId : Uuid) : Program ω χ δ (Review δ) :=
  Prog.attempt .update .internal fun s =>
    (Table.find Review.id id s.reviews).map fun row =>
      (row.withEvidence eventId, { s with
        reviews := Table.modify Review.id id (Review.withEvidence eventId) s.reviews })

/-- The texts of a portal. -/
structure ReviewTexts where
  notFound : Text
  reviewed : Text

/-- The review of a case that is the tenant's own. -/
def recordReview (texts : ReviewTexts) (user : AuthenticatedUser) (subjectId : Uuid) (decision : δ)
    (notes : Option Text) (event : Review δ → AppendEvidenceInput) : Program ω χ δ (Review δ) := do
  match ← read fun s => findReview user.tenantId subjectId s.reviews with
  | some _ => throw (.badRequest texts.reviewed)
  | none =>
    let row ← insertReview user subjectId decision notes
    let eventId ← appendEvidence user.tenantId (event row)
    setReviewEvidence row.id eventId

/-- What is done with the tenant of a case. A case of somebody else is answered for as one that
does not exist. -/
def reviewOwn (texts : ReviewTexts) (user : AuthenticatedUser) (subjectId : Uuid) (decision : δ)
    (notes : Option Text) (event : Review δ → AppendEvidenceInput) :
    Option (Option Uuid) → Program ω χ δ (Review δ)
  | none => throw (.notFound texts.notFound)
  | some tenantId =>
    if tenantId = some user.tenantId then
      recordReview texts user subjectId decision notes event
    else
      throw (.notFound texts.notFound)

/-- A case is found by its id, with the tenant of its user. -/
def reviewSubject (texts : ReviewTexts) (tenantOf : ω → Uuid → Option (Option Uuid))
    (user : AuthenticatedUser) (subjectId : Uuid) (decision : δ) (notes : Option Text)
    (event : Review δ → AppendEvidenceInput) : Program ω χ δ (Review δ) := do
  let tenantId ← read fun s => tenantOf s.world subjectId
  reviewOwn texts user subjectId decision notes event tenantId

/-! ## Queues -/

/-- The rows of the tenant at the levels, newest first. -/
def listed {ρ : Type} (tenantId : ρ → Option Uuid) (riskLevel : ρ → RiskLevel) (tenant : Uuid)
    (levels : List RiskLevel) (limit : Nat) (rows : List ρ) : List ρ :=
  ((rows.filter fun row => tenantId row = some tenant ∧ riskLevel row ∈ levels).reverse).take limit

inductive QueueRiskFilter where
  | medium | high | critical
deriving DecidableEq

def riskLevelsAtOrAbove : QueueRiskFilter → List RiskLevel
  | .critical => [.critical]
  | .high => [.high, .critical]
  | .medium => [.medium, .high, .critical]

structure QueueQueryDto where
  minRiskLevel : Option QueueRiskFilter
  limit : Option Nat

def QueueQueryDto.min (query : QueueQueryDto) : QueueRiskFilter := query.minRiskLevel.getD .medium

def QueueQueryDto.size (query : QueueQueryDto) : Nat := query.limit.getD 50

/-! ## Calls -/

/-- What happens at the portals: requests `κ` of employees, changes of the rows of other services,
and time. -/
inductive Call (ω κ : Type) where
  | desk (user : AuthenticatedUser) (request : κ)
  | world (rows : ω)
  | clock (now : Date)

/-- A call, with what `serve` answers to requests. -/
def Call.program {κ ρ : Type} (serve : AuthenticatedUser → κ → Program ω χ δ ρ) :
    Call ω κ → Program ω χ δ (Option ρ)
  | .desk user request => do
    let response ← serve user request
    return some response
  | .world rows => Prog.act .world .internal fun s => (none, { s with world := rows })
  | .clock now => Prog.act .clock .internal fun s => (none, { s with now })

/-- The tenant of the employee who calls. -/
def Call.tenantId {κ : Type} : Call ω κ → Option Uuid
  | .desk user _ => some user.tenantId
  | .world _ => none
  | .clock _ => none

end Portals
