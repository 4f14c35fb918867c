import Vigiscam.PlatformPortal.Grooming
import Vigiscam.Portals.Isolation

/-!
# The portal of a platform (`platform-portal.service.ts`)

The queue of a moderator has the claims of the platform's own users and the grooming checks of its
own moderators. What `bank_isolation` says of banks holds of platforms (`platform_isolation`); here
the queue shows rows that the desks themselves write.
-/

namespace PlatformPortal

open Js Value Concurrency EvidenceVault Protection Portals

/-! ## Rows -/

structure ClaimVerification where
  id : Uuid
  userId : Uuid
  tenantId : Option Uuid
  claimType : ClaimVerifyType
  riskScore : Int
  riskLevel : RiskLevel
  decision : ClaimVerifyDecision
  createdAt : Date

/-- The columns that `grooming_check_scores` has of its own. -/
structure GroomingColumns where
  subjectReference : Option Text
  ageGapSignal : GroomingAgeGapSignal
  relationshipDurationDays : Option Int
  loveBombingDetected : Bool
  isolationLanguageDetected : Bool
  paymentRequestDetected : Bool
  photoSolicitationDetected : Bool
  moveToPrivateChannelDetected : Bool
  piiEscalationDetected : Bool
  minorSuspected : Bool
  riskScore : Int
  recommendedAction : GroomingRecommendedAction
  riskBreakdown : List Scores.BreakdownEntry

/-! ## The queue -/

/-- A claim in the queue, with the columns that are selected. -/
structure ClaimItem where
  id : Uuid
  userId : Uuid
  claimType : ClaimVerifyType
  riskScore : Int
  riskLevel : RiskLevel
  decision : ClaimVerifyDecision
  createdAt : Date

def ClaimVerification.item (claim : ClaimVerification) : ClaimItem where
  id := claim.id
  userId := claim.userId
  claimType := claim.claimType
  riskScore := claim.riskScore
  riskLevel := claim.riskLevel
  decision := claim.decision
  createdAt := claim.createdAt

structure GroomingItem where
  id : Uuid
  moderatorUserId : Uuid
  subjectReference : Option Text
  ageGapSignal : GroomingAgeGapSignal
  minorSuspected : Bool
  riskScore : Int
  riskLevel : RiskLevel
  recommendedAction : GroomingRecommendedAction
  createdAt : Date

def groomingItem (row : Scored GroomingColumns) : GroomingItem where
  id := row.id
  moderatorUserId := row.byUserId
  subjectReference := row.columns.subjectReference
  ageGapSignal := row.columns.ageGapSignal
  minorSuspected := row.columns.minorSuspected
  riskScore := row.columns.riskScore
  riskLevel := row.riskLevel
  recommendedAction := row.columns.recommendedAction
  createdAt := row.createdAt

structure ModerationQueue where
  generatedAt : Text
  minRiskLevel : QueueRiskFilter
  limit : Nat
  claimVerifications : List ClaimItem
  groomingChecks : List GroomingItem

/-! ## Moderators -/

def GroomingRecommendedAction.name : GroomingRecommendedAction → Text
  | .none => "NONE"
  | .monitor => "MONITOR"
  | .softIntervene => "SOFT_INTERVENE"
  | .hardIntervene => "HARD_INTERVENE"
  | .suspendUser => "SUSPEND_USER"
  | .escalateToTrustAndSafety => "ESCALATE_TO_TRUST_AND_SAFETY"
  | .escalateToLawEnforcement => "ESCALATE_TO_LAW_ENFORCEMENT"

/-- The DTO is the input of the scorer, and a reference. -/
structure GroomingCheckDto extends GroomingCheckInput where
  subjectReference : Option Text

def GroomingCheckDto.columns (dto : GroomingCheckDto) (scoring : GroomingCheckScoring) :
    GroomingColumns where
  subjectReference := dto.subjectReference
  ageGapSignal := dto.ageGapSignal
  relationshipDurationDays := dto.relationshipDurationDays
  loveBombingDetected := dto.loveBombingDetected.getD false
  isolationLanguageDetected := dto.isolationLanguageDetected.getD false
  paymentRequestDetected := dto.paymentRequestDetected.getD false
  photoSolicitationDetected := dto.photoSolicitationDetected.getD false
  moveToPrivateChannelDetected := dto.moveToPrivateChannelDetected.getD false
  piiEscalationDetected := dto.piiEscalationDetected.getD false
  minorSuspected := dto.minorSuspected.getD false
  riskScore := scoring.riskScore
  recommendedAction := scoring.recommendedAction
  riskBreakdown := scoring.breakdown

def groomingMetadata (dto : GroomingCheckDto) (scoring : GroomingCheckScoring) : Value :=
  .object [("riskScore", .number (Number.ofInt scoring.riskScore)),
    ("riskLevel", .string scoring.riskLevel.name),
    ("recommendedAction", .string scoring.recommendedAction.name),
    ("minorSuspected", .bool (dto.minorSuspected.getD false)),
    ("ageGapSignal", .string dto.ageGapSignal.name)]

theorem distinct_groomingMetadata (dto : GroomingCheckDto) (scoring : GroomingCheckScoring) :
    (groomingMetadata dto scoring).Distinct := by
  refine ⟨?_, trivial, trivial, trivial, trivial, trivial, trivial⟩
  show List.Nodup [utf16 "riskScore", utf16 "riskLevel", utf16 "recommendedAction",
    utf16 "minorSuspected", utf16 "ageGapSignal"]
  decide

def groomingEvent (user : AuthenticatedUser) (dto : GroomingCheckDto)
    (scoring : GroomingCheckScoring) (row : Scored GroomingColumns) : AppendEvidenceInput :=
  deskEvent user "GROOMING_CHECK" row.id "PLATFORM_PORTAL_GROOMING_SCORED"
    (utf16 "Grooming check scored " ++ scoring.riskLevel.name ++ utf16 " (" ++
      scoring.recommendedAction.name ++ utf16 ")")
    (groomingMetadata dto scoring) (distinct_groomingMetadata dto scoring)

structure GroomingCheckResponse where
  row : Scored GroomingColumns
  scoring : GroomingCheckScoring

inductive PlatformModerationDecision where
  | approveContent | removeContent | warnUser | suspendUser | escalateToTrustAndSafety
  | escalateToLawEnforcement
deriving DecidableEq

def PlatformModerationDecision.name : PlatformModerationDecision → Text
  | .approveContent => "APPROVE_CONTENT"
  | .removeContent => "REMOVE_CONTENT"
  | .warnUser => "WARN_USER"
  | .suspendUser => "SUSPEND_USER"
  | .escalateToTrustAndSafety => "ESCALATE_TO_TRUST_AND_SAFETY"
  | .escalateToLawEnforcement => "ESCALATE_TO_LAW_ENFORCEMENT"

structure ModerationDecisionDto where
  decision : PlatformModerationDecision
  notes : Option Text

def moderationMetadata (claimVerificationId : Uuid) (dto : ModerationDecisionDto) : Value :=
  .object [("claimVerificationId", .string claimVerificationId),
    ("decision", .string dto.decision.name)]

theorem distinct_moderationMetadata (claimVerificationId : Uuid) (dto : ModerationDecisionDto) :
    (moderationMetadata claimVerificationId dto).Distinct := by
  refine ⟨?_, trivial, trivial, trivial⟩
  show List.Nodup [utf16 "claimVerificationId", utf16 "decision"]
  decide

def moderationEvent (user : AuthenticatedUser) (claimVerificationId : Uuid)
    (dto : ModerationDecisionDto) (row : Review PlatformModerationDecision) :
    AppendEvidenceInput :=
  deskEvent user "PLATFORM_MODERATION" row.id (utf16 "PLATFORM_PORTAL_MOD_" ++ dto.decision.name)
    (utf16 "Moderator recorded " ++ dto.decision.name ++ utf16 " on claim " ++
      claimVerificationId)
    (moderationMetadata claimVerificationId dto)
    (distinct_moderationMetadata claimVerificationId dto)

/-! ## The service -/

abbrev PlatformStore :=
  Store (List ClaimVerification) GroomingColumns PlatformModerationDecision

abbrev Service := Program (List ClaimVerification) GroomingColumns PlatformModerationDecision

namespace PlatformPortalService

def getModerationQueue (user : AuthenticatedUser) (query : QueueQueryDto) :
    Service ModerationQueue := do
  let levels := riskLevelsAtOrAbove query.min
  let claims ← read fun s =>
    listed ClaimVerification.tenantId ClaimVerification.riskLevel user.tenantId levels query.size
      s.world
  let groomingChecks ← read fun s =>
    listed (fun row => some row.tenantId) Scored.riskLevel user.tenantId levels query.size s.scores
  let now ← read fun s => s.now
  return {
    generatedAt := now.toISOString
    minRiskLevel := query.min
    limit := query.size
    claimVerifications := claims.map ClaimVerification.item
    groomingChecks := groomingChecks.map groomingItem }

def groomingCheck (user : AuthenticatedUser) (dto : GroomingCheckDto) :
    Service GroomingCheckResponse := do
  let scoring := scoreGroomingCheck dto.toGroomingCheckInput
  let updated ← recordScore user scoring.riskLevel (dto.columns scoring)
    (groomingEvent user dto scoring)
  return ⟨updated, scoring⟩

def claimTexts : ReviewTexts where
  notFound := "Claim verification not found"
  reviewed := "This claim has already been moderated by your platform"

/-- `findUnique` of the claim, with the tenant of its user. -/
def tenantOf (claims : List ClaimVerification) (claimVerificationId : Uuid) :
    Option (Option Uuid) :=
  (Table.find ClaimVerification.id claimVerificationId claims).map ClaimVerification.tenantId

def decideOnClaim (user : AuthenticatedUser) (claimVerificationId : Uuid)
    (dto : ModerationDecisionDto) : Service (Review PlatformModerationDecision) :=
  reviewSubject claimTexts tenantOf user claimVerificationId dto.decision dto.notes
    (moderationEvent user claimVerificationId dto)

end PlatformPortalService

open PlatformPortalService

/-- The routes of the controller. -/
inductive Request where
  | queue (query : QueueQueryDto)
  | groomingCheck (dto : GroomingCheckDto)
  | decideOnClaim (claimVerificationId : Uuid) (dto : ModerationDecisionDto)

inductive Response where
  | queue (queue : ModerationQueue)
  | groomingCheck (response : GroomingCheckResponse)
  | decideOnClaim (decision : Review PlatformModerationDecision)

def serve (user : AuthenticatedUser) : Request → Service Response
  | .queue query => return .queue (← getModerationQueue user query)
  | .groomingCheck dto => return .groomingCheck (← PlatformPortalService.groomingCheck user dto)
  | .decideOnClaim claimVerificationId dto =>
    return .decideOnClaim (← PlatformPortalService.decideOnClaim user claimVerificationId dto)

/-! ## Isolation -/

section Isolation

variable {ids : Uuid → Nat → Uuid} {T : Uuid} {user : AuthenticatedUser}

abbrev SameClaims (T : Uuid) : List ClaimVerification → List ClaimVerification → Prop :=
  SameRows ClaimVerification.id ClaimVerification.tenantId T

/-- The rows of the moderators of the platform. -/
theorem listed_scores (levels : List RiskLevel) (limit : Nat)
    (rows : List (Scored GroomingColumns)) :
    listed (fun row => some row.tenantId) Scored.riskLevel T levels limit rows =
      (((Table.owned Scored.tenantId T rows).filter
        fun row => row.riskLevel ∈ levels).reverse).take limit := by
  have howned : Table.owned (fun row : Scored GroomingColumns => some row.tenantId) (some T) rows =
      Table.owned Scored.tenantId T rows :=
    List.filter_congr fun row _ => decide_eq_decide.mpr Option.some_inj
  rw [listed_owned, howned]

theorem similar_getModerationQueue (query : QueueQueryDto) :
    Prog.Similar (Alike ids (SameClaims user.tenantId) user.tenantId) Eq
      (getModerationQueue user query) (getModerationQueue user query) := by
  refine Prog.Similar.bind (similar_read fun x y hxy => hxy.world.listed _ _ _) ?_
  rintro claims _ rfl
  refine Prog.Similar.bind (similar_read fun x y hxy => ?_) ?_
  · exact Eq.trans (listed_scores _ _ _) (hxy.scores ▸ (listed_scores _ _ _).symm)
  rintro groomingChecks _ rfl
  refine Prog.Similar.bind (similar_read fun x y hxy => hxy.now) ?_
  rintro now _ rfl
  exact Prog.Similar.pure rfl

theorem similar_serve (hids : Distinguished ids) (request : Request) :
    Prog.Similar (Alike ids (SameClaims user.tenantId) user.tenantId) Eq
      (serve user request) (serve user request) := by
  cases request with
  | queue query =>
    refine Prog.Similar.bind (similar_getModerationQueue query) ?_
    rintro queue _ rfl
    exact Prog.Similar.pure rfl
  | groomingCheck dto =>
    refine Prog.Similar.bind (R := Eq) ?_ ?_
    · refine Prog.Similar.bind (similar_recordScore hids _ _ _) ?_
      rintro updated _ rfl
      exact Prog.Similar.pure rfl
    · rintro response _ rfl
      exact Prog.Similar.pure rfl
  | decideOnClaim claimVerificationId dto =>
    refine Prog.Similar.bind (similar_reviewSubject hids
      (fun v w hvw => hvw.tenantOf claimVerificationId) dto.decision dto.notes _) ?_
    rintro decision _ rfl
    exact Prog.Similar.pure rfl

theorem hidden_serve (hids : Distinguished ids) (hT : user.tenantId ≠ T) (request : Request) :
    Prog.Hidden (Alike ids (SameClaims T) T) (fun _ => True) (serve user request) := by
  have hanswer : ∀ {α : Type} {p : Service α} (f : α → Response),
      Prog.Hidden (Alike ids (SameClaims T) T) (fun _ => True) p →
        Prog.Hidden (Alike ids (SameClaims T) T) (fun _ => True)
          (p >>= fun a => pure (f a)) := fun f hp =>
    Prog.Hidden.bind hp fun _ _ => Prog.Hidden.pure trivial
  cases request with
  | queue query =>
    refine hanswer _ (Prog.Hidden.bind hidden_read fun claims _ => ?_)
    refine Prog.Hidden.bind hidden_read fun groomingChecks _ => ?_
    exact Prog.Hidden.bind hidden_read fun now _ => Prog.Hidden.pure trivial
  | groomingCheck dto =>
    refine hanswer _ (Prog.Hidden.bind (hidden_recordScore hids hT _ _ fun _ => rfl) ?_)
    exact fun updated _ => Prog.Hidden.pure trivial
  | decideOnClaim claimVerificationId dto =>
    exact hanswer _ (hidden_reviewSubject hids hT claimVerificationId dto.decision dto.notes
      fun _ => rfl)

/-! ## Runs -/

variable {ι : Type} [DecidableEq ι] {calls calls' : ι → Call (List ClaimVerification) Request}
  {s s' : PlatformStore} {t : Pool ι PlatformStore (Service (Option Response))}

/-- The calls at their start. -/
def calling (calls : ι → Call (List ClaimVerification) Request) (s : PlatformStore) :
    Pool ι PlatformStore (Service (Option Response)) where
  shared := s
  locals i := (calls i).program serve

/-- **Isolation of platforms**: a run is matched, from a store that has the same rows of the
platform, by one in which no other platform does anything, and the users of others claim anything
else: the calls of the platform's moderators end as they did, and its rows are the same at the
end. -/
theorem platform_isolation (hids : Distinguished ids) (hs : Alike ids (SameClaims T) T s s')
    (hcalls : ∀ i, ¬ (calls i).Others T → (calls i).Seen (SameClaims T) T (calls' i))
    (hrun : Pool.Run (Prog.interleaved fun _ _ => True) (calling calls s) t) :
    ∃ t', Pool.Run (Prog.interleaved fun _ _ => True) (calling calls' s') t' ∧
      Alike ids (SameClaims T) T t.shared t'.shared ∧
      (∀ i, ¬ (calls i).Others T → (t'.locals i).conclusion = (t.locals i).conclusion) ∧
      ∀ i, (calls i).Others T → t'.locals i = (calls' i).program serve :=
  run_isolated hs (fun _ request hT => hT ▸ similar_serve hids request)
    (fun _ request hT => hidden_serve hids hT request) hcalls hrun

def sampleStore (claims : List ClaimVerification) : PlatformStore where
  world := claims
  scores := []
  reviews := []
  evidence := []
  now := Date.newYear
  uuid := sampleIds
  issued _ := 0

def sampleModerator (tenantId : Uuid) : AuthenticatedUser :=
  ⟨"moderator", tenantId, .platformModerator⟩

/-- A conversation that a platform has flagged. -/
def sampleCheck : GroomingCheckDto where
  ageGapSignal := .adultToSuspectedMinor
  relationshipDurationDays := some 3
  loveBombingDetected := some true
  isolationLanguageDetected := none
  paymentRequestDetected := none
  photoSolicitationDetected := none
  moveToPrivateChannelDetected := none
  piiEscalationDetected := none
  minorSuspected := none
  subjectReference := none

/-- Moderators of two platforms check conversations, and the first one sees its queue. -/
def sampleCalls : Bool × Bool → Call (List ClaimVerification) Request
  | (false, _) => .desk (sampleModerator "second platform") (.groomingCheck sampleCheck)
  | (true, false) => .desk (sampleModerator "first platform") (.groomingCheck sampleCheck)
  | (true, true) => .desk (sampleModerator "first platform") (.queue ⟨none, none⟩)

theorem sampleStore_alike : Alike sampleIds (SameClaims "first platform") "first platform"
    (sampleStore []) (sampleStore []) where
  left := ⟨rfl, List.forall_mem_nil _, List.forall_mem_nil _⟩
  right := ⟨rfl, List.forall_mem_nil _, List.forall_mem_nil _⟩
  world := ⟨.nil, .nil, rfl⟩
  scores := rfl
  reviews := rfl
  evidence := rfl
  now := rfl
  issued := rfl

theorem sampleCalls_seen (i : Bool × Bool) (h : ¬ (sampleCalls i).Others "first platform") :
    (sampleCalls i).Seen (SameClaims "first platform") "first platform" (sampleCalls i) := by
  obtain ⟨first, second⟩ := i
  cases first with
  | false => exact absurd ⟨"second platform", by decide, rfl⟩ h
  | true =>
    cases second with
    | false => exact seen_desk (sampleModerator "first platform") _
    | true => exact seen_desk (sampleModerator "first platform") _

/-- The queue of the first platform is the same without the check of the second one. -/
theorem platform_isolation_sample :
    let t := Prog.turns (calling sampleCalls (sampleStore []))
      [((false, false), 4), ((true, false), 4), ((true, true), 4)]
    ∃ t', Pool.Run (Prog.interleaved fun _ _ => True) (calling sampleCalls (sampleStore [])) t' ∧
      Alike sampleIds (SameClaims "first platform") "first platform" t.shared t'.shared ∧
      (∀ i, ¬ (sampleCalls i).Others "first platform" →
        (t'.locals i).conclusion = (t.locals i).conclusion) ∧
      ∀ i, (sampleCalls i).Others "first platform" →
        t'.locals i = (sampleCalls i).program serve :=
  platform_isolation sampleIds_distinguished sampleStore_alike sampleCalls_seen
    (Prog.run_turns .refl (Prog.permittedTurns_true _ _))

end Isolation

end PlatformPortal
