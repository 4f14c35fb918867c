import Vigiscam.Protection.Store

/-!
# Trusted-contact reviews (`trusted-contact-review.service.ts`)

`requestReview` opens a review for an event and sends its contact a one-time token;
`decide` records the contact's decision and burns the token; `hasApprovedReview` is
what the enforcement of the guarded modules looks up.
-/

namespace Protection

open Js Value Concurrency

structure RequestReviewInput where
  user : AuthenticatedUser
  triggerModule : TriggerModule
  triggerEventId : Uuid
  triggerSummary : Text
  contactId : Option Uuid
  metadata : Value

namespace TrustedContactReviewService

/-! ## Choosing a contact -/

/-- An active contact of the user with the given id. -/
def isNamed (user : AuthenticatedUser) (contactId : Uuid) (c : TrustedContact) : Bool :=
  c.id = contactId && c.userId = user.userId && c.status = .active

def isApprover (user : AuthenticatedUser) (c : TrustedContact) : Bool :=
  c.userId = user.userId && c.status = .active && c.canApproveHighRiskActions

def isAlertable (user : AuthenticatedUser) (c : TrustedContact) : Bool :=
  c.userId = user.userId && c.status = .active && c.canReceiveAlerts

/-- `resolveContact` over the table of contacts: the contact that is named, or the first
approver, or the first that receives alerts. -/
def eligible (input : RequestReviewInput) (contacts : List TrustedContact) :
    Option TrustedContact :=
  match present input.contactId with
  | some contactId => contacts.find? (isNamed input.user contactId)
  | none =>
    match contacts.find? (isApprover input.user) with
    | some approver => some approver
    | none => contacts.find? (isAlertable input.user)

def resolveContact (input : RequestReviewInput) : Service (Option TrustedContact) :=
  match present input.contactId with
  | some contactId => read (·.contacts.find? (isNamed input.user contactId))
  | none => do
    let approver ← read (·.contacts.find? (isApprover input.user))
    match approver with
    | some approver => pure (some approver)
    | none => read (·.contacts.find? (isAlertable input.user))

/-! ## Requesting a review -/

/-- The row that `requestReview` creates. -/
def newReview (input : RequestReviewInput) (contact : TrustedContact) (token : Text) (id : Uuid)
    (requestedAt : Date) : TrustedContactReview where
  id := id
  userId := input.user.userId
  tenantId := some input.user.tenantId
  contactId := contact.id
  triggerModule := input.triggerModule
  triggerEventId := input.triggerEventId
  triggerSummary := input.triggerSummary
  status := .pending
  requestedAt := requestedAt
  decidedAt := none
  decision := none
  decisionNotes := none
  decidedByContactToken := some token
  evidenceEventId := none
  metadata := readBack input.metadata

/-- `create` of a review; it throws when the primary key is taken. -/
def createReview (input : RequestReviewInput) (contact : TrustedContact) (token : Text) :
    Service TrustedContactReview :=
  Prog.attempt .create .internal fun s =>
    let (id, s) := s.issue
    let row := newReview input contact token id s.now
    if s.reviews.any (·.id = id) then none
    else some (row, { s with reviews := s.reviews ++ [row] })

/-- The rows with the one of an id replaced. -/
def replaceRow (id : Uuid) (f : TrustedContactReview → TrustedContactReview) :
    List TrustedContactReview → List TrustedContactReview
  | [] => []
  | r :: rs => if r.id = id then f r :: rs else r :: replaceRow id f rs

/-- A row after the replacement was there before, or is the one that replaces. -/
theorem mem_replaceRow {id : Uuid} {f : TrustedContactReview → TrustedContactReview}
    {rs : List TrustedContactReview} {r' : TrustedContactReview} (h : r' ∈ replaceRow id f rs) :
    r' ∈ rs ∨ ∃ r ∈ rs, r' = f r := by
  induction rs with
  | nil => exact Or.inl h
  | cons r rs ih =>
    rw [replaceRow] at h
    split at h
    · rcases List.mem_cons.mp h with rfl | h
      · exact Or.inr ⟨r, List.mem_cons_self, rfl⟩
      · exact Or.inl (List.mem_cons_of_mem _ h)
    · rcases List.mem_cons.mp h with rfl | h
      · exact Or.inl List.mem_cons_self
      · rcases ih h with h | ⟨r₀, hr₀, rfl⟩
        · exact Or.inl (List.mem_cons_of_mem _ h)
        · exact Or.inr ⟨r₀, List.mem_cons_of_mem _ hr₀, rfl⟩

/-- A row that is not the one of the id stays. -/
theorem mem_replaceRow_of_ne {id : Uuid} {f : TrustedContactReview → TrustedContactReview}
    {rs : List TrustedContactReview} {r : TrustedContactReview} (h : r ∈ rs)
    (hne : rs.find? (·.id = id) ≠ some r) : r ∈ replaceRow id f rs := by
  induction rs with
  | nil => cases h
  | cons r₀ rs ih =>
    rw [replaceRow]
    split
    case isTrue hid =>
      rcases List.mem_cons.mp h with rfl | h
      · simp [hid] at hne
      · exact List.mem_cons_of_mem _ h
    case isFalse hid =>
      rcases List.mem_cons.mp h with rfl | h
      · exact List.mem_cons_self
      · rw [List.find?_cons_of_neg (by simpa using hid)] at hne
        exact List.mem_cons_of_mem _ (ih h hne)

theorem mem_replaceRow_self {id : Uuid} {f : TrustedContactReview → TrustedContactReview}
    {rs : List TrustedContactReview} {r : TrustedContactReview}
    (h : rs.find? (·.id = id) = some r) : f r ∈ replaceRow id f rs := by
  induction rs with
  | nil => cases h
  | cons r₀ rs ih =>
    rw [replaceRow]
    split
    case isTrue hid =>
      rw [List.find?_cons_of_pos (by simpa using hid)] at h
      cases h
      exact List.mem_cons_self
    case isFalse hid =>
      rw [List.find?_cons_of_neg (by simpa using hid)] at h
      exact List.mem_cons_of_mem _ (ih h)

/-- `update` of a review; it throws when there is no such row. -/
def updateReview (id : Uuid) (f : Store → TrustedContactReview → TrustedContactReview) :
    Service TrustedContactReview :=
  Prog.attempt (.review id) .internal fun s =>
    (s.reviews.find? (·.id = id)).map fun r =>
      (f s r, { s with reviews := replaceRow id (f s) s.reviews })

theorem run_updateReview {id : Uuid} {f : Store → TrustedContactReview → TrustedContactReview}
    {s : Store} {r : TrustedContactReview} (h : s.reviews.find? (·.id = id) = some r) :
    (updateReview id f).run s =
      (.ok (f s r), { s with reviews := replaceRow id (f s) s.reviews }) := by
  refine Prog.run_attempt_some ?_
  rw [h]
  rfl

/-- Send a message; a failure is only logged. -/
def trySend (message : Notification) : Service Unit :=
  tryCatch (sendNotification message) fun _ => pure ()

/-- Send a message to an address that may be missing. -/
def trySendTo (recipient : Option Text) (message : Notification) : Service Unit :=
  match present recipient with
  | some recipient => trySend { message with recipient := recipient }
  | none => pure ()

def fanOutNotifications (contact : TrustedContact) (review : TrustedContactReview)
    (summary token : Text) : Service Unit := do
  let link : Text := "https://vigiscam.com/review/" ++ review.id ++ "?token=" ++ token
  let message : Notification :=
    { channel := "EMAIL", recipient := [], subject := "A trusted contact decision is needed"
      body := contact.fullName ++ ", the person who lists you as a trusted "
        ++ "contact in VIGISCAM has hit a risky situation:\n\n" ++ "  " ++ summary ++ "\n\n"
        ++ "Decide here: " ++ link
      templateKey := "trusted-contact.review-request", tenantId := review.tenantId
      metadata := object [("reviewId", string review.id),
        ("triggerModule", string review.triggerModule.name)] }
  trySendTo contact.email message
  trySendTo contact.phone
    { message with channel := "SMS", body := "VIGISCAM: " ++ summary ++ " Decide: " ++ link }

def requestMetadata (input : RequestReviewInput) (contact : TrustedContact) : Value :=
  object [("triggerModule", string input.triggerModule.name),
    ("triggerEventId", string input.triggerEventId),
    ("contactRelationship", ofNullable contact.relationship)]

theorem distinct_requestMetadata (input : RequestReviewInput) (contact : TrustedContact) :
    (requestMetadata input contact).Distinct := by
  refine ⟨?_, trivial, trivial, distinct_ofNullable _, trivial⟩
  show List.Nodup [utf16 "triggerModule", utf16 "triggerEventId", utf16 "contactRelationship"]
  decide

/-- Record a new review in the evidence, and link it to its record. -/
def recordRequest (input : RequestReviewInput) (contact : TrustedContact)
    (created : TrustedContactReview) : Service TrustedContactReview := do
  let evidence ← appendEvidence (userEvidence input.user "TRUSTED_CONTACT_REVIEW" created.id
    "TRUSTED_CONTACT_REVIEW_REQUESTED"
    ("Review requested from " ++ contact.fullName ++ " (" ++ lowerAscii input.triggerModule.name
      ++ ")")
    (requestMetadata input contact) (distinct_requestMetadata input contact))
  updateReview created.id fun _ r => { r with evidenceEventId := some evidence }

/-- Open a review and ask its contact; nothing when no contact is eligible. -/
def requestReview (input : RequestReviewInput) : Service (Option TrustedContactReview) := do
  let contact ← resolveContact input
  match contact with
  | none => pure none
  | some contact =>
    let token ← generateContactToken
    let created ← createReview input contact token
    let linked ← recordRequest input contact created
    fanOutNotifications contact linked input.triggerSummary token
    pure (some linked)

/-! ### What a request does -/

theorem run_resolveContact (input : RequestReviewInput) (s : Store) :
    (resolveContact input).run s = (.ok (eligible input s.contacts), s) := by
  unfold resolveContact eligible
  cases present input.contactId with
  | some contactId => rfl
  | none =>
    show Prog.run _ s = _
    simp only [read, Prog.run_bind, Prog.run_act, Prog.andThen_ok]
    cases s.contacts.find? (isApprover input.user) with
    | some approver => rfl
    | none => rfl

/-- The row of a request that is made in the state `s`. -/
def openedReview (input : RequestReviewInput) (contact : TrustedContact) (s : Store) :
    TrustedContactReview :=
  { newReview input contact (s.token s.drawn) (s.uuid s.issued) s.now with
    evidenceEventId := some (s.uuid (s.issued + 1)) }

/-- The outcomes of a request: nobody is asked, or a new review is, or its id is taken. -/
inductive Requested (input : RequestReviewInput) (s : Store) :
    Except HttpError (Option TrustedContactReview) → Store → Prop
  | nobody (h : eligible input s.contacts = none) : Requested input s (.ok none) s
  | opened {contact : TrustedContact} {s' : Store}
      (hcontact : eligible input s.contacts = some contact) (hcontext : s'.context = s.context)
      (hevents : s'.events = s.events)
      (hreviews : s'.reviews = s.reviews ++ [openedReview input contact s]) :
      Requested input s (.ok (some (openedReview input contact s))) s'
  | failed {s' : Store} (h : s.Same s') : Requested input s (.error .internal) s'

/-- A request leaves the store the same, or opens a review. -/
theorem Requested.same_or_opened {input : RequestReviewInput} {s s' : Store}
    {out : Except HttpError (Option TrustedContactReview)} (h : Requested input s out s') :
    s.Same s' ∨ ∃ contact, eligible input s.contacts = some contact ∧ s'.context = s.context ∧
      s'.events = s.events ∧ s'.reviews = s.reviews ++ [openedReview input contact s] := by
  cases h with
  | nobody => exact Or.inl (.refl _)
  | opened hcontact hcontext hevents hreviews =>
    exact Or.inr ⟨_, hcontact, hcontext, hevents, hreviews⟩
  | failed hsame => exact Or.inl hsame

theorem quiet_trySend (message : Notification) : Quiet (trySend message) :=
  (quiet_sendNotification message).tryCatch fun _ => Prog.Each.pure ()

theorem quiet_trySendTo (recipient : Option Text) (message : Notification) :
    Quiet (trySendTo recipient message) := by
  unfold trySendTo
  cases present recipient with
  | some recipient => exact quiet_trySend _
  | none => exact Prog.Each.pure ()

theorem run_trySendTo (recipient : Option Text) (message : Notification) (s : Store) :
    ((trySendTo recipient message).run s).1 = .ok () := by
  unfold trySendTo
  cases present recipient <;> rfl

theorem quiet_fanOutNotifications (contact : TrustedContact) (review : TrustedContactReview)
    (summary token : Text) : Quiet (fanOutNotifications contact review summary token) :=
  (quiet_trySendTo _ _).bind fun _ => quiet_trySendTo _ _

theorem run_fanOutNotifications (contact : TrustedContact) (review : TrustedContactReview)
    (summary token : Text) (s : Store) :
    ((fanOutNotifications contact review summary token).run s).1 = .ok () := by
  rw [fanOutNotifications, Prog.run_bind_ok (run_trySendTo _ _ _)]
  exact run_trySendTo _ _ _

/-- The update of a row that was just added changes that row only. -/
theorem update_last {reviews : List TrustedContactReview} {row : TrustedContactReview}
    (hfresh : reviews.any (·.id = row.id) = false)
    (f : TrustedContactReview → TrustedContactReview) :
    (reviews ++ [row]).find? (·.id = row.id) = some row ∧
      replaceRow row.id f (reviews ++ [row]) = reviews ++ [f row] := by
  induction reviews with
  | nil => simp [replaceRow]
  | cons r rs ih =>
    simp only [List.any_cons, Bool.or_eq_false_iff, decide_eq_false_iff_not] at hfresh
    obtain ⟨hfind, hreplace⟩ := ih hfresh.2
    constructor
    · rw [List.cons_append, List.find?_cons_of_neg (by simpa using hfresh.1), hfind]
    · rw [List.cons_append, replaceRow, if_neg hfresh.1, hreplace, List.cons_append]

theorem run_createReview_taken {s : Store} (h : s.reviews.any (·.id = s.uuid s.issued) = true)
    (input : RequestReviewInput) (contact : TrustedContact) (token : Text) :
    (createReview input contact token).run s = (.error .internal, s) :=
  Prog.run_attempt_none (if_pos h)

theorem run_createReview_fresh {s : Store} (h : s.reviews.any (·.id = s.uuid s.issued) = false)
    (input : RequestReviewInput) (contact : TrustedContact) (token : Text) :
    (createReview input contact token).run s =
      (.ok (newReview input contact token (s.uuid s.issued) s.now), { s with
        issued := s.issued + 1
        reviews := s.reviews ++ [newReview input contact token (s.uuid s.issued) s.now] }) :=
  Prog.run_attempt_some (if_neg (by simp [h]))

theorem run_recordRequest (input : RequestReviewInput) (contact : TrustedContact)
    {s : Store} {reviews : List TrustedContactReview} {created : TrustedContactReview}
    (hreviews : s.reviews = reviews ++ [created])
    (hfresh : reviews.any (·.id = created.id) = false) :
    ∃ s', (recordRequest input contact created).run s =
        (.ok { created with evidenceEventId := some (s.uuid s.issued) }, s') ∧
      s'.context = s.context ∧ s'.events = s.events ∧
      s'.reviews = reviews ++ [{ created with evidenceEventId := some (s.uuid s.issued) }] := by
  obtain ⟨hfind, hmap⟩ := update_last hfresh fun r =>
    { r with evidenceEventId := some (s.uuid s.issued) }
  rw [← hreviews] at hfind hmap
  rw [recordRequest, Prog.run_bind, run_appendEvidence, Prog.andThen_ok]
  exact ⟨_, run_updateReview hfind, rfl, rfl, hmap⟩

/-- Nobody is asked. -/
theorem run_requestReview_nobody {input : RequestReviewInput} {s : Store}
    (hnobody : eligible input s.contacts = none) :
    (requestReview input).run s = (.ok none, s) := by
  rw [requestReview, Prog.run_bind, run_resolveContact, Prog.andThen_ok, hnobody]
  rfl

/-- The request of a contact, from the token on. -/
theorem run_requestReview_some {input : RequestReviewInput} {contact : TrustedContact} {s : Store}
    (hcontact : eligible input s.contacts = some contact) :
    (requestReview input).run s = Prog.andThen
      (fun created => do
        let linked ← recordRequest input contact created
        fanOutNotifications contact linked input.triggerSummary (s.token s.drawn)
        pure (some linked))
      ((createReview input contact (s.token s.drawn)).run { s with drawn := s.drawn + 1 }) := by
  have hdraw : generateContactToken.run s =
      (.ok (s.token s.drawn), { s with drawn := s.drawn + 1 }) := rfl
  rw [requestReview, Prog.run_bind, run_resolveContact, Prog.andThen_ok, hcontact]
  dsimp only
  rw [Prog.run_bind, hdraw, Prog.andThen_ok, Prog.run_bind]

/-- The id of the new review is taken: a token is drawn for nothing. -/
theorem run_requestReview_taken {input : RequestReviewInput} {contact : TrustedContact} {s : Store}
    (hcontact : eligible input s.contacts = some contact)
    (htaken : s.reviews.any (·.id = s.uuid s.issued) = true) :
    (requestReview input).run s = (.error .internal, { s with drawn := s.drawn + 1 }) := by
  rw [run_requestReview_some hcontact,
    run_createReview_taken (s := { s with drawn := s.drawn + 1 }) htaken, Prog.andThen_error]

/-- A review is opened. -/
theorem run_requestReview_opened {input : RequestReviewInput} {contact : TrustedContact} {s : Store}
    (hcontact : eligible input s.contacts = some contact)
    (hfresh : s.reviews.any (·.id = s.uuid s.issued) = false) :
    ∃ s', (requestReview input).run s = (.ok (some (openedReview input contact s)), s') ∧
      s'.context = s.context ∧ s'.events = s.events ∧
      s'.reviews = s.reviews ++ [openedReview input contact s] := by
  obtain ⟨s', hrecord, hcontext, hevents, hreviews⟩ := run_recordRequest input contact
    (s := { s with
      drawn := s.drawn + 1, issued := s.issued + 1
      reviews := s.reviews ++ [newReview input contact _ _ _] }) rfl hfresh
  have hsame := (quiet_fanOutNotifications contact (openedReview input contact s)
    input.triggerSummary (s.token s.drawn)).run s'
  rw [run_requestReview_some hcontact,
    run_createReview_fresh (s := { s with drawn := s.drawn + 1 }) hfresh, Prog.andThen_ok,
    Prog.run_bind, hrecord, Prog.andThen_ok, Prog.run_bind_ok (run_fanOutNotifications _ _ _ _ _)]
  exact ⟨_, rfl, hsame.context.trans hcontext, hsame.events.trans hevents,
    hsame.reviews.trans hreviews⟩

/-- **The outcome of a request.** -/
theorem requestReview_outcome (input : RequestReviewInput) (s : Store) :
    Requested input s ((requestReview input).run s).1 ((requestReview input).run s).2 := by
  cases hcontact : eligible input s.contacts with
  | none =>
    rw [run_requestReview_nobody hcontact]
    exact .nobody hcontact
  | some contact =>
    cases htaken : s.reviews.any (·.id = s.uuid s.issued) with
    | true =>
      rw [run_requestReview_taken hcontact htaken]
      exact .failed ⟨rfl, rfl, rfl⟩
    | false =>
      obtain ⟨s', hrun, hcontext, hevents, hreviews⟩ := run_requestReview_opened hcontact htaken
      rw [hrun]
      exact .opened hcontact hcontext hevents hreviews

/-! ## Deciding a review -/

structure DecideArgs where
  decision : ReviewDecision
  notes : Option Text
  decidedByContactToken : Option Text
  caller : Option AuthenticatedUser

/-- The protected user, or a super admin. -/
def callerOwnsReview (args : DecideArgs) (existing : TrustedContactReview) : Bool :=
  args.caller.any fun caller => caller.userId = existing.userId || caller.role = .superAdmin

/-- The one-time token, while it is not burned. -/
def tokenMatches (args : DecideArgs) (existing : TrustedContactReview) : Bool :=
  (present existing.decidedByContactToken).isSome &&
    args.decidedByContactToken = existing.decidedByContactToken

/-- The row with the decision of its contact, and its token burned. -/
def decidedReview (args : DecideArgs) (now : Date) (r : TrustedContactReview) :
    TrustedContactReview :=
  { r with
    status := .decided, decision := some args.decision, decisionNotes := args.notes
    decidedAt := some now, decidedByContactToken := none }

def decisionEvidence (args : DecideArgs) (existing : TrustedContactReview) :
    EvidenceVault.AppendEvidenceInput where
  tenantId := existing.tenantId
  actorId := args.caller.map (·.userId)
  actorType := some (if args.caller.isSome then "USER" else "EXTERNAL_TRUSTED_CONTACT")
  entityType := "TRUSTED_CONTACT_REVIEW"
  entityId := existing.id
  eventType := "TRUSTED_CONTACT_REVIEW_" ++ args.decision.name
  eventDescription := "Trusted contact recorded decision: " ++ args.decision.name
  metadata := decisionMetadata args.decision.name args.notes
  ipAddress := none
  deviceId := none
  metadata_distinct := distinct_decisionMetadata _ _

/-- Record the decision of the trusted contact. -/
def decide (reviewId : Uuid) (args : DecideArgs) : Service TrustedContactReview := do
  let existing ← read (·.reviews.find? (·.id = reviewId))
  match existing with
  | none => throw (.notFound "Trusted-contact review not found")
  | some existing =>
    if existing.status ≠ .pending then
      throw (.badRequest ("Review already in terminal state (" ++ existing.status.name ++ ")"))
    else if !callerOwnsReview args existing && !tokenMatches args existing then
      throw (.badRequest ("Decision requires either the protected user / admin to be logged in, "
        ++ "or the one-time decidedByContactToken"))
    else
      let updated ← updateReview existing.id fun s r => decidedReview args s.now r
      let _ ← appendEvidence (decisionEvidence args existing)
      pure updated

/-- The outcomes of a decision: it is refused, or written to the pending review. -/
inductive Recorded (reviewId : Uuid) (args : DecideArgs) (s : Store) :
    Except HttpError TrustedContactReview → Store → Prop
  | refused (e : HttpError) : Recorded reviewId args s (.error e) s
  | recorded {existing : TrustedContactReview} {s' : Store}
      (hfind : s.reviews.find? (·.id = reviewId) = some existing)
      (hpending : existing.status = .pending)
      (hentitled : callerOwnsReview args existing = true ∨ tokenMatches args existing = true)
      (hcontext : s'.context = s.context) (hevents : s'.events = s.events)
      (hreviews : s'.reviews = replaceRow reviewId (decidedReview args s.now) s.reviews) :
      Recorded reviewId args s (.ok (decidedReview args s.now existing)) s'

/-- A decision leaves the store the same, or replaces one pending review. -/
theorem Recorded.same_or_recorded {reviewId : Uuid} {args : DecideArgs} {s s' : Store}
    {out : Except HttpError TrustedContactReview} (h : Recorded reviewId args s out s') :
    s.Same s' ∨ (s'.context = s.context ∧ s'.events = s.events ∧
      s'.reviews = replaceRow reviewId (decidedReview args s.now) s.reviews ∧
      ∀ r, s.reviews.find? (·.id = reviewId) = some r → r.status = .pending) := by
  cases h with
  | refused => exact Or.inl (.refl _)
  | recorded hfind hpending _ hcontext hevents hreviews =>
    refine Or.inr ⟨hcontext, hevents, hreviews, fun r hr => ?_⟩
    cases hfind.symm.trans hr
    exact hpending

/-- **The outcome of a decision.** -/
theorem decide_outcome (reviewId : Uuid) (args : DecideArgs) (s : Store) :
    Recorded reviewId args s ((decide reviewId args).run s).1 ((decide reviewId args).run s).2 := by
  rw [decide, Prog.run_bind, run_read, Prog.andThen_ok]
  cases hfind : s.reviews.find? (·.id = reviewId) with
  | none => exact .refused _
  | some existing =>
    have hid : existing.id = reviewId := by simpa using List.find?_some hfind
    subst hid
    dsimp only
    by_cases hpending : existing.status = .pending
    · rw [if_neg (not_not.mpr hpending)]
      -- neither the owner of the review nor the holder of its token
      by_cases hrefused : (!callerOwnsReview args existing && !tokenMatches args existing) = true
      · rw [if_pos hrefused]
        exact .refused _
      · rw [if_neg hrefused, Prog.run_bind, run_updateReview hfind, Prog.andThen_ok,
          Prog.run_bind, run_appendEvidence]
        refine .recorded hfind hpending ?_ rfl rfl rfl
        simpa [Decidable.or_iff_not_imp_left] using hrefused
    · rw [if_pos hpending]
      exact .refused _

/-! ## Reading reviews -/

/-- The rows a page of `list` has, newest first. -/
def page (user : AuthenticatedUser) (limit : Int) (reviews : List TrustedContactReview) :
    List TrustedContactReview :=
  ((reviews.filter (·.userId = user.userId)).reverse).take (min (max limit 1) 200).toNat

def list (user : AuthenticatedUser) (limit : Int) : Service (List TrustedContactReview) :=
  read fun s => page user limit s.reviews

/-- A review that approves the release of an event. -/
def approves (triggerModule : TriggerModule) (triggerEventId : Uuid)
    (r : TrustedContactReview) : Bool :=
  r.triggerModule = triggerModule && r.triggerEventId = triggerEventId &&
    r.status = .decided && r.decision = some .approveAfterVerification

def hasApprovedReview (triggerModule : TriggerModule) (triggerEventId : Uuid) : Service Bool :=
  read fun s => (s.reviews.find? (approves triggerModule triggerEventId)).isSome

end TrustedContactReviewService

end Protection
