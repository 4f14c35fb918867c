import Vigiscam.Protection.Gate

/-!
# Where approvals come from

`hasApprovedReview` looks a review up by module and event id only. Whether an
approval is sound, that is requested by the owner of the event and addressed to a
contact who may give it, depends on every request that was ever made: the public
endpoint takes any event id and any contact of its caller.

`approvals_sound` shows that approvals are sound in every run whose requests are
careful; `approval_unsound` runs into one that is not.
-/

namespace Protection

open Js Value Concurrency TrustedContactReviewService

/-! ## Operations -/

/-- The owner of an event of any module. -/
def Store.owner (s : Store) : TriggerModule → Uuid → Option Uuid
  | .guardianPause, id => (s.events .guardianPause id).map (·.userId)
  | .scamHold, id => (s.events .scamHold id).map (·.userId)
  | .giftCardGuard, id => (s.events .giftCardGuard id).map (·.userId)
  | .walletGuard, id => (s.events .walletGuard id).map (·.userId)
  | .claimVerify, id => (s.events .claimVerify id).map (·.userId)
  | .scamMirror, id => s.mirrorSessions id

theorem owner_module (s : Store) (g : Guard) (id : Uuid) :
    s.owner g.module id = (s.events g id).map (·.userId) := by
  cases g <;> rfl

/-- The operations that write reviews or the events they are about. -/
inductive Op where
  /-- A decision on an event, which may escalate it. -/
  | settle (c : Call)
  /-- The `review-request` endpoint. -/
  | request (input : RequestReviewInput)
  /-- The `review/:id/decision` endpoint. -/
  | review (reviewId : Uuid) (args : DecideArgs)

def Op.exec : Op → Store → Store
  | .settle c, s => c.exec s
  | .request input, s => ((requestReview input).run s).2
  | .review reviewId args, s => ((decide reviewId args).run s).2

/-- Who asks for a review, and the contact that is named. -/
def Op.requester : Op → Option AuthenticatedUser
  | .settle c => some c.user
  | .request input => some input.user
  | .review _ _ => none

def Op.named : Op → Option Uuid
  | .settle _ => none
  | .request input => present input.contactId
  | .review _ _ => none

/-- The columns of a review that its request writes and nothing changes. -/
structure SameRequest (r row : TrustedContactReview) : Prop where
  id : r.id = row.id
  userId : r.userId = row.userId
  contactId : r.contactId = row.contactId
  triggerModule : r.triggerModule = row.triggerModule
  triggerEventId : r.triggerEventId = row.triggerEventId

theorem SameRequest.refl (r : TrustedContactReview) : SameRequest r r := ⟨rfl, rfl, rfl, rfl, rfl⟩

theorem SameRequest.trans {r r' row : TrustedContactReview} (h : SameRequest r r')
    (h' : SameRequest r' row) : SameRequest r row :=
  ⟨h.id.trans h'.id, h.userId.trans h'.userId, h.contactId.trans h'.contactId,
    h.triggerModule.trans h'.triggerModule, h.triggerEventId.trans h'.triggerEventId⟩

/-- What happens between two operations: contacts, settings and elder flags change at
will, events are opened and keep their owners, and no review is opened or changes
what it was requested for. -/
structure KeepsReviews (s t : Store) : Prop where
  owner : ∀ module id o, s.owner module id = some o → t.owner module id = some o
  reviews : ∀ r ∈ t.reviews, ∃ row ∈ s.reviews, SameRequest r row

/-- A run of operations, with the states they found. -/
abbrev ReviewRun (s₀ : Store) (log : List (Store × Op)) (s : Store) : Prop :=
  History Op.exec KeepsReviews s₀ log s

/-! ## Sound approvals -/

/-- The contact may be asked: it is an active contact of the user that holds the
permission to approve; or, where no contact is named and the user has no active
approver, one that receives alerts. -/
structure MayDecide (s : Store) (user : AuthenticatedUser) (named : Option Uuid)
    (contact : TrustedContact) : Prop where
  listed : contact ∈ s.contacts
  mine : contact.userId = user.userId
  active : contact.status = .active
  permitted : contact.canApproveHighRiskActions = true ∨
    named = none ∧ (∀ c ∈ s.contacts, isApprover user c = false) ∧ contact.canReceiveAlerts = true

/-- One of the operations opened the review, for a user who owned its event, with a
contact that might be asked. -/
def RequestedBy (log : List (Store × Op)) (owner : Uuid) (r : TrustedContactReview) : Prop :=
  ∃ m ∈ log, ∃ row contact user,
    (m.2.exec m.1).reviews = m.1.reviews ++ [row] ∧ SameRequest r row ∧
    m.2.requester = some user ∧ r.userId = user.userId ∧ user.userId = owner ∧
    r.contactId = contact.id ∧ MayDecide m.1 user m.2.named contact

/-- Every review that approves an event was requested by its owner, and addressed to a
contact of the owner who may give the approval. -/
def ApprovalsSound (log : List (Store × Op)) (s : Store) : Prop :=
  ∀ module eventId, ((hasApprovedReview module eventId).run s).1 = .ok true →
    ∃ owner, s.owner module eventId = some owner ∧
      ∀ r ∈ s.reviews, approves module eventId r = true → RequestedBy log owner r

/-- A request that is answered names an event of its caller, and no contact without the
permission to approve. -/
def Careful (s : Store) : Op → Prop
  | .request input => ∀ contact, eligible input s.contacts = some contact →
      s.owner input.triggerModule input.triggerEventId = some input.user.userId ∧
        ((present input.contactId).isSome = true → contact.canApproveHighRiskActions = true)
  | _ => True

/-! ## What an operation does to reviews -/

/-- A contact that is chosen may be asked. -/
theorem mayDecide_of_eligible {input : RequestReviewInput} {s : Store} {contact : TrustedContact}
    (h : eligible input s.contacts = some contact)
    (hnamed : (present input.contactId).isSome = true → contact.canApproveHighRiskActions = true) :
    MayDecide s input.user (present input.contactId) contact := by
  unfold eligible at h
  cases hname : present input.contactId with
  -- the user named a contact
  | some contactId =>
    rw [hname] at h hnamed
    have hmatch := List.find?_some h
    simp only [isNamed, Bool.and_eq_true, decide_eq_true_eq] at hmatch
    exact ⟨List.mem_of_find?_eq_some h, hmatch.1.2, hmatch.2, Or.inl (hnamed rfl)⟩
  | none =>
    rw [hname] at h
    -- no contact was named: an approver comes before a contact who only gets alerts
    cases happrover : s.contacts.find? (isApprover input.user) with
    | some approver =>
      rw [happrover] at h
      cases h
      have hmatch := List.find?_some happrover
      simp only [isApprover, Bool.and_eq_true, decide_eq_true_eq] at hmatch
      exact ⟨List.mem_of_find?_eq_some happrover, hmatch.1.1, hmatch.1.2, Or.inl hmatch.2⟩
    | none =>
      rw [happrover] at h
      have hmatch := List.find?_some h
      simp only [isAlertable, Bool.and_eq_true, decide_eq_true_eq] at hmatch
      refine ⟨List.mem_of_find?_eq_some h, hmatch.1.1, hmatch.1.2, Or.inr ⟨rfl, ?_, hmatch.2⟩⟩
      simpa using happrover

theorem owner_of_same {s t : Store} (hevents : t.events = s.events)
    (hcontext : t.context = s.context) : t.owner = s.owner := by
  have hmirror : t.mirrorSessions = s.mirrorSessions := congrArg Context.mirrorSessions hcontext
  funext module id
  cases module <;> simp only [Store.owner, hevents, hmirror]

/-- A decision keeps the owners of all events. -/
theorem owner_of_decides {g : Guard} {user : AuthenticatedUser} {id : Uuid}
    {decision : g.Decision} {s t : Store} {e u : HeldEvent g}
    (h : Decides g.vocabulary user id decision s t e u) : t.owner = s.owner := by
  have hmirror : t.mirrorSessions = s.mirrorSessions := congrArg Context.mirrorSessions h.context
  have hrows : ∀ g' id', (t.events g' id').map (·.userId) = (s.events g' id').map (·.userId) := by
    intro g' id'
    rw [h.events]
    by_cases hevent : g' = g ∧ id' = id
    · obtain ⟨rfl, rfl⟩ := hevent
      rw [Store.setEvent_self, h.owned.found, Option.map_some, Option.map_some, h.row.userId]
    · rw [Store.setEvent_of_ne hevent]
  funext module id
  cases module with
  | scamMirror => exact congrFun hmirror id
  | guardianPause => exact hrows .guardianPause id
  | scamHold => exact hrows .scamHold id
  | giftCardGuard => exact hrows .giftCardGuard id
  | walletGuard => exact hrows .walletGuard id
  | claimVerify => exact hrows .claimVerify id

/-- No operation changes the owner of an event. -/
theorem owner_exec (op : Op) (s : Store) : (op.exec s).owner = s.owner := by
  cases op with
  | settle c =>
    rcases (settle_outcome c.g c.user c.id c.decision c.notes s).same_or_decides with
      hsame | ⟨e, u, hdecides⟩
    · exact owner_of_same hsame.events hsame.context
    · exact owner_of_decides hdecides
  | request input =>
    rcases (requestReview_outcome input s).same_or_opened with
      hsame | ⟨_, _, hcontext, hevents, _⟩
    · exact owner_of_same hsame.events hsame.context
    · exact owner_of_same hevents hcontext
  | review reviewId args =>
    rcases (decide_outcome reviewId args s).same_or_recorded with hsame | ⟨hcontext, hevents, _⟩
    · exact owner_of_same hsame.events hsame.context
    · exact owner_of_same hevents hcontext

/-- What an operation does to the reviews: the rows stay as they were requested, and at
most one is added. -/
theorem reviews_exec (op : Op) (s : Store) :
    (∀ r ∈ (op.exec s).reviews, ∃ row ∈ s.reviews, SameRequest r row) ∨
    ∃ input contact t, (op.exec s).reviews = s.reviews ++ [openedReview input contact t] ∧
      op.requester = some input.user ∧ op.named = present input.contactId ∧
      eligible input s.contacts = some contact ∧
      (Careful s op → s.owner input.triggerModule input.triggerEventId = some input.user.userId ∧
        ((present input.contactId).isSome = true → contact.canApproveHighRiskActions = true)) := by
  have hkeep : ∀ t : Store, t.reviews = s.reviews →
      ∀ r ∈ t.reviews, ∃ row ∈ s.reviews, SameRequest r row :=
    fun t ht r hr => ⟨r, ht ▸ hr, .refl r⟩
  cases op with
  | settle c =>
    rcases (settle_outcome c.g c.user c.id c.decision c.notes s).same_or_decides with
      hsame | ⟨e, u, hdecides⟩
    · exact Or.inl (hkeep _ hsame.reviews)
    · rcases hdecides.reviews with
        hreviews | ⟨_, input, contact, t, hadds, huser, hmodule, hid, hnamed, hcontact⟩
      · exact Or.inl (hkeep _ hreviews)
      · refine Or.inr ⟨input, contact, t, hadds, congrArg some huser.symm, ?_, hcontact, ?_⟩
        · rw [hnamed]
          rfl
        · -- a review that a decision opens names no contact and is about the decider's own event
          intro _
          rw [hmodule, hid, owner_module, hdecides.owned.found, huser, ← hdecides.owned.mine,
            hnamed]
          exact ⟨rfl, fun h => absurd h (by decide)⟩
  | request input =>
    rcases (requestReview_outcome input s).same_or_opened with
      hsame | ⟨contact, hcontact, _, _, hreviews⟩
    · exact Or.inl (hkeep _ hsame.reviews)
    · exact Or.inr ⟨input, contact, s, hreviews, rfl, rfl, hcontact, fun h => h contact hcontact⟩
  | review reviewId args =>
    rcases (decide_outcome reviewId args s).same_or_recorded with hsame | ⟨_, _, hreviews, _⟩
    · exact Or.inl (hkeep _ hsame.reviews)
    · -- an answer keeps every request and fills in the answered one
      refine Or.inl fun r hr => ?_
      rcases mem_replaceRow (hreviews ▸ hr) with hr | ⟨row, hrow, rfl⟩
      · exact ⟨r, hr, .refl r⟩
      · exact ⟨row, hrow, rfl, rfl, rfl, rfl, rfl⟩

/-! ## Careful runs -/

theorem RequestedBy.mono {log log' : List (Store × Op)} {owner : Uuid}
    {r r' : TrustedContactReview} (h : RequestedBy log owner r) (hlog : ∀ m ∈ log, m ∈ log')
    (hr : SameRequest r' r) : RequestedBy log' owner r' := by
  obtain ⟨m, hm, row, contact, user, hadds, hrow, huser, hmine, howner, hcontact, hmay⟩ := h
  exact ⟨m, hlog m hm, row, contact, user, hadds, hr.trans hrow, huser, hr.userId.trans hmine,
    howner, hr.contactId.trans hcontact, hmay⟩

/-- Every review was requested by the owner of its event. -/
def ReviewsSound (log : List (Store × Op)) (s : Store) : Prop :=
  ∀ r ∈ s.reviews, ∃ owner, s.owner r.triggerModule r.triggerEventId = some owner ∧
    RequestedBy log owner r

/-- A careful operation keeps the reviews sound. -/
theorem ReviewsSound.exec {log : List (Store × Op)} {s : Store} (h : ReviewsSound log s) {op : Op}
    (hcareful : Careful s op) : ReviewsSound (log ++ [(s, op)]) (op.exec s) := by
  have hold : ∀ r, (∃ row ∈ s.reviews, SameRequest r row) → ∃ owner,
      s.owner r.triggerModule r.triggerEventId = some owner ∧
        RequestedBy (log ++ [(s, op)]) owner r := by
    rintro r ⟨row, hrow, hsame⟩
    obtain ⟨owner, howner, hby⟩ := h row hrow
    rw [← hsame.triggerModule, ← hsame.triggerEventId] at howner
    exact ⟨owner, howner, hby.mono (fun _ => List.mem_append_left _) hsame⟩
  intro r hr
  rw [owner_exec]
  -- every review is one that was there, perhaps answered, or the one that the call opened
  rcases reviews_exec op s with hkeep | ⟨input, contact, t, hadds, hby, hnamed, hcontact, hchecks⟩
  · exact hold r (hkeep r hr)
  · rw [hadds, List.mem_append, List.mem_singleton] at hr
    rcases hr with hr | rfl
    · exact hold r ⟨r, hr, .refl r⟩
    · obtain ⟨howner, hpermitted⟩ := hchecks hcareful
      exact ⟨input.user.userId, howner, (s, op),
        List.mem_append_right _ (List.mem_singleton_self _),
        _, contact, input.user, hadds, .refl _, hby, rfl, rfl, rfl,
        hnamed ▸ mayDecide_of_eligible hcontact hpermitted⟩

theorem ReviewRun.reviewsSound {s₀ s : Store} {log : List (Store × Op)}
    (hrun : ReviewRun s₀ log s) (hstart : s₀.reviews = [])
    (hcareful : ∀ m ∈ log, Careful m.1 m.2) : ReviewsSound log s := by
  induction hrun with
  | start =>
    intro r hr
    rw [hstart] at hr
    cases hr
  | call _ op ih =>
    have hsound := ih fun m hm => hcareful m (List.mem_append_left _ hm)
    exact hsound.exec (hcareful _ (List.mem_append_right _ (List.mem_singleton_self _)))
  | outside _ hkeeps ih =>
    intro r hr
    obtain ⟨row, hrow, hsame⟩ := hkeeps.reviews r hr
    obtain ⟨owner, howner, hby⟩ := ih hcareful row hrow
    rw [← hsame.triggerModule, ← hsame.triggerEventId] at howner
    exact ⟨owner, hkeeps.owner _ _ _ howner, hby.mono (fun _ => id) hsame⟩

/-- **Approvals of careful runs are sound.** Where every request that is answered names an
event of its caller and no contact without the permission, an event is only approved
by reviews of its owner, by contacts who may approve it. -/
theorem approvals_sound {s₀ s : Store} {log : List (Store × Op)} (hrun : ReviewRun s₀ log s)
    (hstart : s₀.reviews = []) (hcareful : ∀ m ∈ log, Careful m.1 m.2) : ApprovalsSound log s := by
  have hsound := hrun.reviewsSound hstart hcareful
  intro module eventId happroved
  rw [ProtectionEnforcementService.run_hasApprovedReview] at happroved
  obtain ⟨r, hr, hmodule, hevent, _⟩ : Approved s module eventId := by simpa using happroved
  obtain ⟨owner, howner, _⟩ := hsound r hr
  rw [hmodule, hevent] at howner
  refine ⟨owner, howner, fun r' hr' happroves => ?_⟩
  have hmatch : r'.triggerModule = module ∧ r'.triggerEventId = eventId := by
    simp only [approves, Bool.and_eq_true, decide_eq_true_eq] at happroves
    exact ⟨happroves.1.1.1, happroves.1.1.2⟩
  obtain ⟨owner', howner', hby⟩ := hsound r' hr'
  rw [hmatch.1, hmatch.2, howner] at howner'
  cases howner'
  exact hby

/-! ## Two approvals of a transfer -/

def approver (user : AuthenticatedUser) : TrustedContact where
  id := sampleUuid 0x65
  tenantId := user.tenantId
  userId := user.userId
  fullName := "C"
  relationship := none
  email := none
  phone := none
  status := .active
  canReceiveAlerts := true
  canApproveHighRiskActions := true

/-- A pending transfer, and a user with an approver. -/
def approverStore (user : AuthenticatedUser) : Store :=
  { holdStore .critical with contacts := [approver user] }

/-- The user asks for a review of the transfer. -/
def requestHold (user : AuthenticatedUser) : RequestReviewInput where
  user := user
  triggerModule := .scamHold
  triggerEventId := holdId
  triggerSummary := "Please look at this transfer"
  contactId := some (sampleUuid 0x65)
  metadata := undefined

/-- The user decides the first review in the place of the contact. -/
def approveHold (user : AuthenticatedUser) : DecideArgs where
  decision := .approveAfterVerification
  notes := none
  decidedByContactToken := none
  caller := some user

/-- The user asks for a review of the transfer, and approves it. -/
def requestedStore (user : AuthenticatedUser) : Store :=
  (Op.request (requestHold user)).exec (approverStore user)

def approvedStore (user : AuthenticatedUser) : Store :=
  (Op.review (sampleUuid 0x30) (approveHold user)).exec (requestedStore user)

def approvalLog (user : AuthenticatedUser) : List (Store × Op) :=
  [(approverStore user, .request (requestHold user)),
    (requestedStore user, .review (sampleUuid 0x30) (approveHold user))]

theorem run_approvalLog (user : AuthenticatedUser) :
    ReviewRun (approverStore user) (approvalLog user) (approvedStore user) :=
  .call (.call .start (Op.request (requestHold user)))
    (Op.review (sampleUuid 0x30) (approveHold user))

/-- The approval of the owner is sound. -/
theorem approvals_sound_owner :
    ((hasApprovedReview .scamHold holdId).run (approvedStore sampleUser)).1 = .ok true ∧
      ApprovalsSound (approvalLog sampleUser) (approvedStore sampleUser) := by
  refine ⟨by decide +kernel, approvals_sound (run_approvalLog sampleUser) rfl ?_⟩
  intro m hm
  rcases List.mem_cons.mp hm with rfl | hm
  · have howner : (approverStore sampleUser).owner .scamHold holdId = some sampleUser.userId := by
      decide +kernel
    intro contact hcontact
    have happrover : some (approver sampleUser) = some contact := hcontact
    cases happrover
    exact ⟨howner, fun _ => rfl⟩
  · cases List.mem_singleton.mp hm
    trivial

/-- Another user. -/
def stranger : AuthenticatedUser where
  userId := sampleUuid 0x63
  tenantId := sampleUuid 0x62
  role := .individual

/-- A stranger approves the transfer: the endpoint takes any event id. -/
theorem approval_unsound :
    ReviewRun (approverStore stranger) (approvalLog stranger) (approvedStore stranger) ∧
      (approverStore stranger).reviews = [] ∧
      ¬ ApprovalsSound (approvalLog stranger) (approvedStore stranger) := by
  refine ⟨run_approvalLog stranger, rfl, fun hsound => ?_⟩
  obtain ⟨owner, howner, hall⟩ := hsound .scamHold holdId (by decide +kernel)
  have hhold : (approvedStore stranger).owner .scamHold holdId = some sampleUser.userId := by
    decide +kernel
  have hstranger : ∃ r ∈ (approvedStore stranger).reviews, approves .scamHold holdId r = true ∧
      r.userId ≠ sampleUser.userId := by
    decide +kernel
  obtain ⟨r, hr, happroves, hne⟩ := hstranger
  obtain ⟨m, hm, row, contact, user, -, -, -, hmine, hows, -⟩ := hall r hr happroves
  cases howner.symm.trans hhold
  exact hne (hmine.trans hows)

end Protection
