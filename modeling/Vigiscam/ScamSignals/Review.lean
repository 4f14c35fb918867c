import Vigiscam.ScamSignals.Intake

/-!
# Reviews of signals (`review-queue.service.ts`)

A reviewer's decision sets the status of a signal and closes its item in the queue. Every
decision is evidence, and a partner is told when a signal of its tenant is verified.
-/

namespace ScamSignals

open Js Value Concurrency EvidenceVault

/-! ## Decisions -/

/-- Maps a reviewer decision to the scam-signal status it sets. -/
def decisionStatus : ReviewDecision → ScamSignalStatus
  | .markUnderReview => .underReview
  | .markHighRisk => .highRiskIndicator
  | .promoteToVerified => .verifiedScamIntelligence
  | .reject => .rejected
  | .archive => .archived

def ReviewDecision.name : ReviewDecision → Text
  | markUnderReview => "MARK_UNDER_REVIEW"
  | markHighRisk => "MARK_HIGH_RISK"
  | promoteToVerified => "PROMOTE_TO_VERIFIED"
  | reject => "REJECT"
  | archive => "ARCHIVE"

def ScamSignalStatus.name : ScamSignalStatus → Text
  | unverifiedReport => "UNVERIFIED_REPORT"
  | suspiciousSignal => "SUSPICIOUS_SIGNAL"
  | patternMatch => "PATTERN_MATCH"
  | underReview => "UNDER_REVIEW"
  | highRiskIndicator => "HIGH_RISK_INDICATOR"
  | verifiedScamIntelligence => "VERIFIED_SCAM_INTELLIGENCE"
  | publicSafeAlert => "PUBLIC_SAFE_ALERT"
  | archived => "ARCHIVED"
  | rejected => "REJECTED"

structure ReviewSignalDto where
  decision : ReviewDecision
  notes : Option Text

/-! ## The queue -/

/-- `registryReviewQueue.update` of one row; it throws when there is no such row. -/
def updateQueueItem (id : Uuid) (f : RegistryReviewQueue → RegistryReviewQueue) :
    Program RegistryReviewQueue :=
  Prog.attempt .queue .internal fun s =>
    (Table.find RegistryReviewQueue.id id s.queue).map fun item =>
      (f item, { s with queue := Table.modify RegistryReviewQueue.id id f s.queue })

def reviewerEvent (reviewer : AuthenticatedUser) (entityType : Text) (entityId : Uuid)
    (eventType eventDescription : Text) (metadata : Value) (h : Distinct metadata)
    (ip : Option Text) : AppendEvidenceInput where
  tenantId := none
  actorId := some reviewer.userId
  actorType := some "REVIEWER"
  entityType := entityType
  entityId := entityId
  eventType := eventType
  eventDescription := eventDescription
  metadata := metadata
  ipAddress := ip
  deviceId := none
  metadata_distinct := h

/-- A reviewer claims a queue item. -/
def assign (reviewer : AuthenticatedUser) (queueId : Uuid) (ip : Option Text) :
    Program RegistryReviewQueue := do
  let item ← read fun s => Table.find RegistryReviewQueue.id queueId s.queue
  match item with
  | none => throw (.notFound "Review-queue item not found")
  | some _ =>
    let updated ← updateQueueItem queueId ({ · with
      assignedToUserId := some reviewer.userId
      reviewStatus := .inReview })
    appendEvidence (reviewerEvent reviewer "REVIEW_QUEUE_ITEM" queueId "REVIEW_STARTED"
      "Reviewer claimed a review-queue item" undefined trivial ip)
    return updated

/-- The item of a signal is completed with the decision, or a completed one is created. Notes
that were not sent leave those of the item. -/
def completeItem (reviewer : AuthenticatedUser) (signalId : Uuid) (dto : ReviewSignalDto) :
    Program RegistryReviewQueue := do
  let openItem ← read fun s => s.queue.reverse.find? (isOpenItem signalId)
  match openItem with
  | some item =>
    updateQueueItem item.id fun item => { item with
      reviewStatus := .completed
      assignedToUserId := some reviewer.userId
      reviewNotes := dto.notes.or item.reviewNotes
      decision := some dto.decision
      publicSafe := dto.decision = .promoteToVerified }
  | none =>
    createQueueItem fun id => {
      id
      signalId := some signalId
      reviewStatus := .completed
      publicSafe := dto.decision = .promoteToVerified
      assignedToUserId := some reviewer.userId
      reviewNotes := dto.notes
      decision := some dto.decision }

/-! ## Reviewing a signal -/

def reviewMetadata (dto : ReviewSignalDto) : Value :=
  object [("decision", string dto.decision.name),
    ("newStatus", string (decisionStatus dto.decision).name), ("notes", ofNullable dto.notes)]

theorem distinct_reviewMetadata (dto : ReviewSignalDto) : Distinct (reviewMetadata dto) := by
  refine ⟨?_, trivial, trivial, distinct_ofNullable _, trivial⟩
  show List.Nodup [utf16 "decision", utf16 "newStatus", utf16 "notes"]
  decide

/-- The message that a signal was verified. -/
def verifiedMessage (signal : ScamSignal) (tenantId : Uuid) : SignalVerified where
  tenantId := tenantId
  signalId := signal.id
  indicatorType := signal.indicatorType
  indicatorValue := signal.indicatorValue
  status := signal.status
  confidenceScore := signal.confidenceScore

/-- Best-effort: a webhook failure must never break the review action. -/
def notifyPartner (signal : ScamSignal) (dto : ReviewSignalDto) : Program Unit :=
  match dto.decision, signal.tenantId with
  | .promoteToVerified, some tenantId =>
    tryCatch
      (Prog.act .publish .internal fun s =>
        ((), { s with published := s.published ++ [verifiedMessage signal tenantId] }))
      fun _ => pure ()
  | _, _ => pure ()

structure ReviewResult where
  signal : ScamSignal
  reviewItem : RegistryReviewQueue

/-- The update of a signal by a decision. -/
def decideSignal (signal : ScamSignal) (dto : ReviewSignalDto) : Program ScamSignal :=
  updateSignal (.decide signal.id (decisionStatus dto.decision)) signal.id fun _ x =>
    { x with
      status := decisionStatus dto.decision
      publicSafeCandidate := dto.decision = .promoteToVerified || signal.publicSafeCandidate }

/-- Apply a reviewer decision to a signal and close out its queue item. -/
def reviewSignal (reviewer : AuthenticatedUser) (signalId : Uuid) (dto : ReviewSignalDto)
    (ip : Option Text) : Program ReviewResult := do
  let signal ← read fun s => Table.find ScamSignal.id signalId s.signals
  match signal with
  | none => throw (.notFound "Scam signal not found")
  | some signal =>
    let updated ← decideSignal signal dto
    let reviewItem ← completeItem reviewer signalId dto
    appendEvidence (reviewerEvent reviewer "SCAM_SIGNAL" signalId "REVIEW_COMPLETED"
      (utf16 "Reviewer decision " ++ dto.decision.name ++ utf16 " — signal status set to "
        ++ (decisionStatus dto.decision).name)
      (reviewMetadata dto) (distinct_reviewMetadata dto) ip)
    notifyPartner updated dto
    return { signal := updated, reviewItem }

/-! ## Steps that store no report -/

/-- A step that stores a report. -/
def SignalStep.Stores : SignalStep → Prop
  | create | merge _ => True
  | read | queue | append | publish | link _ | decide _ _ => False

instance : (l : SignalStep) → Decidable l.Stores
  | .create | .merge _ => isTrue trivial
  | .read | .queue | .append | .publish | .link _ | .decide _ _ => isFalse id

/-- A step that stores no report, and changes nothing of a signal but what a reviewer decides. -/
structure Reviewed (l : SignalStep) (s t : Store) : Prop where
  stores : ¬ l.Stores
  rows : ∃ g : ScamSignal → ScamSignal, t.signals = s.signals.map g ∧ ∀ x, g x =
    { x with status := (g x).status, publicSafeCandidate := (g x).publicSafeCandidate }

theorem reviewed_of_same {l : SignalStep} {s t : Store} (hl : ¬ l.Stores)
    (h : t.signals = s.signals) : Reviewed l s t :=
  ⟨hl, fun x => x, by rw [h, List.map_id'], fun _ => rfl⟩

theorem reviewed_read {α : Type} (f : Store → α) : (read f).Each Reviewed :=
  Prog.Each.act fun _ => reviewed_of_same id rfl

theorem reviewed_appendEvidence (input : AppendEvidenceInput) :
    (appendEvidence input).Each Reviewed :=
  Prog.Each.act fun _ => reviewed_of_same id rfl

theorem reviewed_createQueueItem (row : Uuid → RegistryReviewQueue) :
    (createQueueItem row).Each Reviewed :=
  Prog.Each.act fun _ => reviewed_of_same id rfl

theorem reviewed_updateQueueItem (id : Uuid) (f : RegistryReviewQueue → RegistryReviewQueue) :
    (updateQueueItem id f).Each Reviewed := by
  refine Prog.Each.attempt (fun s item t hupdate => ?_) fun s _ => reviewed_of_same (fun h => h) rfl
  obtain ⟨item, -, hpair⟩ := Option.map_eq_some_iff.mp hupdate
  obtain ⟨-, rfl⟩ := Prod.mk.inj hpair
  exact reviewed_of_same (fun h => h) rfl

theorem reviewed_queueForReview (signal : ScamSignal) :
    (queueForReview signal).Each Reviewed := by
  unfold queueForReview
  split
  · refine Prog.Each.bind (reviewed_read _) fun queued => ?_
    cases queued with
    | some _ => trivial
    | none => exact Prog.Each.bind (reviewed_createQueueItem _) fun _ => Prog.Each.pure _
  · trivial

theorem reviewed_assign (reviewer : AuthenticatedUser) (queueId : Uuid) (ip : Option Text) :
    (assign reviewer queueId ip).Each Reviewed := by
  refine Prog.Each.bind (reviewed_read _) fun item => ?_
  cases item with
  | none => trivial
  | some _ =>
    refine Prog.Each.bind (reviewed_updateQueueItem ..) fun _ => ?_
    exact Prog.Each.bind (reviewed_appendEvidence _) fun _ => Prog.Each.pure _

theorem reviewed_decideSignal (signal : ScamSignal) (dto : ReviewSignalDto) :
    (decideSignal signal dto).Each Reviewed := by
  refine Prog.Each.attempt (fun s x t hupdate => ?_) fun s _ => reviewed_of_same id rfl
  obtain ⟨x, -, hpair⟩ := Option.map_eq_some_iff.mp hupdate
  obtain ⟨-, rfl⟩ := Prod.mk.inj hpair
  refine ⟨id, _, rfl, fun x => ?_⟩
  dsimp only
  split <;> rfl

theorem reviewed_reviewSignal (reviewer : AuthenticatedUser) (signalId : Uuid)
    (dto : ReviewSignalDto) (ip : Option Text) :
    (reviewSignal reviewer signalId dto ip).Each Reviewed := by
  refine Prog.Each.bind (reviewed_read _) fun signal => ?_
  cases signal with
  | none => trivial
  | some signal =>
    refine Prog.Each.bind (reviewed_decideSignal signal dto) fun updated => ?_
    refine Prog.Each.bind (Prog.Each.bind (reviewed_read _) fun openItem => ?_) fun item => ?_
    · cases openItem with
      | some item => exact reviewed_updateQueueItem ..
      | none => exact reviewed_createQueueItem _
    · refine Prog.Each.bind (reviewed_appendEvidence _) fun _ => ?_
      refine Prog.Each.bind ?_ fun _ => Prog.Each.pure _
      unfold notifyPartner
      split
      · exact Prog.Each.tryCatch (Prog.Each.act fun _ => reviewed_of_same id rfl)
          fun _ => Prog.Each.pure _
      · trivial

end ScamSignals
