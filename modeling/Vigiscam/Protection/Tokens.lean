import Vigiscam.Protection.Approvals

/-!
# Who sees the one-time token

The token that lets a contact decide a review is a column of the review, and the
review endpoints return whole rows. `responses_hide_tokens_iff` says in which
sequences of calls the responses to the protected user depend on no token.
-/

namespace Protection

open Js Concurrency TrustedContactReviewService

/-! ## Calls and responses -/

/-- A call of the review endpoints by the protected user. -/
inductive ReviewCall where
  /-- `POST review-request`; the caller takes the place of the user. -/
  | request (input : RequestReviewInput)
  /-- `GET reviews`. -/
  | list (limit : Int)

inductive ReviewResponse where
  | requested (result : Except HttpError (Option TrustedContactReview))
  | listed (result : Except HttpError (List TrustedContactReview))

def ReviewCall.run (user : AuthenticatedUser) : ReviewCall → Store → ReviewResponse × Store
  | .request input, s =>
    let out := (requestReview { input with user := user }).run s
    (.requested out.1, out.2)
  | .list limit, s =>
    let out := (TrustedContactReviewService.list user limit).run s
    (.listed out.1, out.2)

/-- The responses to a sequence of calls. -/
def responses (user : AuthenticatedUser) : List ReviewCall → Store → List ReviewResponse
  | [], _ => []
  | c :: cs, s => (c.run user s).1 :: responses user cs (c.run user s).2

/-! ## States that differ in tokens only -/

/-- The row without its token, where it is pending. -/
def maskToken (r : TrustedContactReview) : TrustedContactReview :=
  if r.status = .pending then { r with decidedByContactToken := none } else r

/-- The states differ only in the tokens of pending reviews: those that are there, and those
that are drawn for the reviews that are opened. -/
structure DifferInTokens (s s' : Store) : Prop where
  rest : s' = { s with reviews := s'.reviews, token := s'.token }
  reviews : s'.reviews.map maskToken = s.reviews.map maskToken

/-- The responses depend on no token of a pending review. -/
def HidesTokens (user : AuthenticatedUser) (calls : List ReviewCall) (s : Store) : Prop :=
  ∀ s', DifferInTokens s s' → responses user calls s' = responses user calls s

/-- The call opens a review: there is a contact to ask, and the id is free. -/
def Opens (s : Store) (input : RequestReviewInput) : Prop :=
  (eligible input s.contacts).isSome = true ∧ s.reviews.any (·.id = s.uuid s.issued) = false

/-- No pending review is among those the call returns: it opens none, and the newest reviews
of the user, as many as it asks for, are all closed. -/
def Silent (user : AuthenticatedUser) (s : Store) : ReviewCall → Prop
  | .request input => ¬ Opens s { input with user := user }
  | .list limit => ∀ r ∈ page user limit s.reviews, r.status ≠ .pending

/-! ## Pages and masks -/

/-- A page of changed rows, where the changes keep the owners. -/
theorem page_map {f : TrustedContactReview → TrustedContactReview}
    (hf : ∀ r, (f r).userId = r.userId) (user : AuthenticatedUser) (limit : Int)
    (rs : List TrustedContactReview) : page user limit (rs.map f) = (page user limit rs).map f := by
  have hmine : ((fun r : TrustedContactReview => decide (r.userId = user.userId)) ∘ f) =
      fun r => decide (r.userId = user.userId) := by
    funext r
    simp [hf]
  rw [page, page, List.filter_map, hmine, ← List.map_reverse, List.map_take]

theorem maskToken_id (r : TrustedContactReview) : (maskToken r).id = r.id := by
  unfold maskToken
  split <;> rfl

theorem maskToken_userId (r : TrustedContactReview) : (maskToken r).userId = r.userId := by
  unfold maskToken
  split <;> rfl

theorem maskToken_status (r : TrustedContactReview) : (maskToken r).status = r.status := by
  unfold maskToken
  split <;> rfl

theorem maskToken_closed {r : TrustedContactReview} (h : r.status ≠ .pending) : maskToken r = r :=
  if_neg h

/-- Rows that are closed are told apart by their masks. -/
theorem eq_of_mask {rs rs' : List TrustedContactReview} (h : rs'.map maskToken = rs.map maskToken)
    (hclosed : ∀ r ∈ rs, r.status ≠ .pending) : rs' = rs := by
  have hmask : rs.map maskToken = rs := by
    calc rs.map maskToken = rs.map id :=
          List.map_congr_left fun r hr => maskToken_closed (hclosed r hr)
      _ = rs := List.map_id rs
  have hclosed' : ∀ r ∈ rs', r.status ≠ .pending := by
    intro r hr
    have hmem : maskToken r ∈ rs := by
      rw [← hmask, ← h]
      exact List.mem_map_of_mem hr
    rw [← maskToken_status]
    exact hclosed _ hmem
  calc rs' = rs'.map id := (List.map_id rs').symm
    _ = rs'.map maskToken := List.map_congr_left fun r hr => (maskToken_closed (hclosed' r hr)).symm
    _ = rs := h.trans hmask

theorem any_id_of_mask {rs rs' : List TrustedContactReview}
    (h : rs'.map maskToken = rs.map maskToken) (x : Uuid) :
    rs'.any (·.id = x) = rs.any (·.id = x) := by
  have hany : ∀ l : List TrustedContactReview,
      l.any (·.id = x) = (l.map maskToken).any (·.id = x) := by
    intro l
    simp [List.any_map, Function.comp_def, maskToken_id]
  rw [hany rs', hany rs, h]

/-! ## Silent calls -/

/-- How many tokens have been drawn after a call that is silent. -/
def ReviewCall.drawn (user : AuthenticatedUser) (s : Store) : ReviewCall → Nat
  | .request input =>
    if (eligible { input with user := user } s.contacts).isSome then s.drawn + 1 else s.drawn
  | .list _ => s.drawn

/-- The response to a silent request. -/
def silentResult (input : RequestReviewInput) (s : Store) :
    Except HttpError (Option TrustedContactReview) :=
  if (eligible input s.contacts).isSome then .error .internal else .ok none

theorem run_silent_request {input : RequestReviewInput} {s : Store} (h : ¬ Opens s input) :
    (requestReview input).run s = (silentResult input s, { s with
      drawn := if (eligible input s.contacts).isSome then s.drawn + 1 else s.drawn }) := by
  cases hcontact : eligible input s.contacts with
  | none =>
    rw [run_requestReview_nobody hcontact, silentResult, hcontact]
    rfl
  | some contact =>
    have htaken : s.reviews.any (·.id = s.uuid s.issued) = true := by
      by_contra hfree
      exact h ⟨by rw [hcontact]; rfl, by simpa using hfree⟩
    rw [run_requestReview_taken hcontact htaken, silentResult, hcontact]
    rfl

/-- A silent call changes nothing but how many tokens have been drawn. -/
theorem silent_run {user : AuthenticatedUser} {s : Store} {c : ReviewCall}
    (h : Silent user s c) : (c.run user s).2 = { s with drawn := c.drawn user s } := by
  cases c with
  | list limit => rfl
  | request input => exact congrArg Prod.snd (run_silent_request h)

/-- Whether a call is silent does not depend on the tokens drawn so far. -/
theorem silent_drawn {user : AuthenticatedUser} {s : Store} {n : Nat} {c : ReviewCall} :
    Silent user { s with drawn := n } c ↔ Silent user s c := by
  cases c <;> rfl

section Differ

variable {user : AuthenticatedUser} {s s' : Store} {c : ReviewCall}

theorem page_of_differ (h : DifferInTokens s s') {limit : Int}
    (hsilent : Silent user s (.list limit)) :
    page user limit s'.reviews = page user limit s.reviews := by
  refine eq_of_mask ?_ hsilent
  rw [← page_map maskToken_userId, ← page_map maskToken_userId, h.reviews]

theorem opens_of_differ (h : DifferInTokens s s') (input : RequestReviewInput) :
    Opens s' input ↔ Opens s input := by
  have hany := any_id_of_mask h.reviews (s.uuid s.issued)
  rw [h.rest, Opens, Opens]
  simp only [hany]

/-- A silent call is silent whatever the tokens are. -/
theorem silent_of_differ (h : DifferInTokens s s') (hsilent : Silent user s c) :
    Silent user s' c := by
  cases c with
  | request input => exact fun hopens => hsilent ((opens_of_differ h _).mp hopens)
  | list limit =>
    show ∀ r ∈ page user limit s'.reviews, r.status ≠ .pending
    rw [page_of_differ h hsilent]
    exact hsilent

/-- A silent call returns the same whatever the tokens are. -/
theorem response_of_differ (h : DifferInTokens s s') (hsilent : Silent user s c) :
    (c.run user s').1 = (c.run user s).1 := by
  cases c with
  | request input =>
    have hcontacts : s'.contacts = s.contacts := by rw [h.rest]
    show ReviewResponse.requested _ = ReviewResponse.requested _
    rw [run_silent_request (silent_of_differ h hsilent), run_silent_request hsilent, silentResult,
      silentResult, hcontacts]
  | list limit =>
    exact congrArg (fun rs => ReviewResponse.listed (.ok rs)) (page_of_differ h hsilent)

theorem differ_after (h : DifferInTokens s s') (hsilent : Silent user s c) :
    DifferInTokens (c.run user s).2 (c.run user s').2 := by
  have hdrawn : c.drawn user s' = c.drawn user s := by
    rw [h.rest]
    cases c <;> rfl
  rw [silent_run hsilent, silent_run (silent_of_differ h hsilent), hdrawn]
  exact ⟨by rw [h.rest], h.reviews⟩

end Differ

/-- Silent calls hide the tokens. -/
theorem hidesTokens_of_silent {user : AuthenticatedUser} {calls : List ReviewCall} {s : Store}
    (hsilent : ∀ c ∈ calls, Silent user s c) : HidesTokens user calls s := by
  intro s' h
  induction calls generalizing s s' with
  | nil => rfl
  | cons c cs ih =>
    have hc := hsilent c List.mem_cons_self
    have hcs : ∀ c' ∈ cs, Silent user (c.run user s).2 c' := by
      intro c' hc'
      rw [silent_run hc, silent_drawn]
      exact hsilent c' (List.mem_cons_of_mem _ hc')
    rw [responses, responses, response_of_differ h hc, ih hcs _ (differ_after h hc)]

/-! ## Calls that return a pending review -/

/-- The row with another token, where it is pending. -/
def scrambleToken (r : TrustedContactReview) : TrustedContactReview :=
  if r.status = .pending then
    { r with decidedByContactToken := some (r.decidedByContactToken.getD [] ++ [0x41]) }
  else r

/-- The store with other tokens: those of pending reviews, and those that are drawn. -/
def Store.scramble (s : Store) : Store :=
  { s with reviews := s.reviews.map scrambleToken, token := fun n => s.token n ++ [0x41] }

theorem scrambleToken_ne {r : TrustedContactReview} (h : r.status = .pending) :
    scrambleToken r ≠ r := by
  intro heq
  have htoken : some (r.decidedByContactToken.getD [] ++ [0x41]) = r.decidedByContactToken := by
    have hfield := congrArg TrustedContactReview.decidedByContactToken heq
    rwa [scrambleToken, if_pos h] at hfield
  cases hr : r.decidedByContactToken with
  | none =>
    rw [hr] at htoken
    cases htoken
  | some token =>
    rw [hr] at htoken
    simp at htoken

theorem scrambleToken_userId (r : TrustedContactReview) :
    (scrambleToken r).userId = r.userId := by
  unfold scrambleToken
  split <;> rfl

theorem maskToken_scrambleToken (r : TrustedContactReview) :
    maskToken (scrambleToken r) = maskToken r := by
  unfold scrambleToken
  split
  case isTrue h => simp [maskToken, h]
  case isFalse => rfl

theorem differ_scramble (s : Store) : DifferInTokens s s.scramble := by
  refine ⟨rfl, ?_⟩
  rw [Store.scramble, List.map_map]
  exact List.map_congr_left fun r _ => maskToken_scrambleToken r

/-- A call that is not silent returns a token. -/
theorem response_scramble_ne {user : AuthenticatedUser} {s : Store} {c : ReviewCall}
    (h : ¬ Silent user s c) : (c.run user s.scramble).1 ≠ (c.run user s).1 := by
  intro heq
  cases c with
  | request input =>
    obtain ⟨hcontact, hfree⟩ := not_not.mp h
    obtain ⟨contact, hcontact⟩ := Option.isSome_iff_exists.mp hcontact
    have hfree' : s.scramble.reviews.any (·.id = s.scramble.uuid s.scramble.issued) = false :=
      (any_id_of_mask (differ_scramble s).reviews _).trans hfree
    -- the response to a request shows the drawn token, which the scrambled store draws otherwise
    obtain ⟨t, hrun, _⟩ := run_requestReview_opened hcontact hfree
    obtain ⟨t', hrun', _⟩ := run_requestReview_opened (s := s.scramble) hcontact hfree'
    have hresult := ReviewResponse.requested.inj heq
    rw [hrun, hrun'] at hresult
    have htoken := congrArg TrustedContactReview.decidedByContactToken
      (Option.some.inj (Except.ok.inj hresult))
    have hdrawn : s.token s.drawn ++ [0x41] = s.token s.drawn := Option.some.inj htoken
    simp at hdrawn
  | list limit =>
    have hpage : page user limit (s.reviews.map scrambleToken) = page user limit s.reviews :=
      Except.ok.inj (ReviewResponse.listed.inj heq)
    rw [page_map scrambleToken_userId] at hpage
    refine h fun r hr hpending => scrambleToken_ne hpending ?_
    exact List.map_inj_left.mp (hpage.trans (List.map_id _).symm) r hr

theorem responses_scramble_ne {user : AuthenticatedUser} {calls : List ReviewCall} {s : Store}
    (h : ∃ c ∈ calls, ¬ Silent user s c) :
    responses user calls s.scramble ≠ responses user calls s := by
  induction calls generalizing s with
  | nil =>
    obtain ⟨c, hc, _⟩ := h
    cases hc
  | cons c cs ih =>
    intro heq
    rw [responses, responses, List.cons.injEq] at heq
    by_cases hsilent : Silent user s c
    · -- the first call that is not silent comes later, and finds the same state
      obtain ⟨c', hc', hleak⟩ := h
      have hmem : c' ∈ cs := (List.mem_cons.mp hc').resolve_left fun h => hleak (h ▸ hsilent)
      have hafter : (c.run user s.scramble).2 = (c.run user s).2.scramble := by
        rw [silent_run hsilent, silent_run (silent_of_differ (differ_scramble s) hsilent)]
        cases c <;> rfl
      refine ih ⟨c', hmem, ?_⟩ (hafter ▸ heq.2)
      rwa [silent_run hsilent, silent_drawn]
    · exact response_scramble_ne hsilent heq.1

/-- **Who sees the tokens.** The responses to a sequence of calls depend on no token of a
pending review if and only if no call of it opens a review or lists a pending one. -/
theorem responses_hide_tokens_iff (user : AuthenticatedUser) (calls : List ReviewCall) (s : Store) :
    HidesTokens user calls s ↔ ∀ c ∈ calls, Silent user s c := by
  constructor
  · intro hhides c hc
    by_contra hleak
    exact responses_scramble_ne ⟨c, hc, hleak⟩ (hhides s.scramble (differ_scramble s))
  · exact hidesTokens_of_silent

/-- The user lists the review of a transfer, and sees its token. -/
theorem list_shows_token :
    let s := requestedStore sampleUser
    let s' := { s with reviews := s.reviews.map scrambleToken }
    DifferInTokens s s' ∧
      responses sampleUser [.list 50] s' ≠ responses sampleUser [.list 50] s := by
  refine ⟨⟨rfl, (differ_scramble _).reviews⟩, ?_⟩
  have hpending : ∃ r ∈ page sampleUser 50 (requestedStore sampleUser).reviews,
      r.status = .pending := by
    decide +kernel
  obtain ⟨r, hr, hstatus⟩ := hpending
  exact @responses_scramble_ne sampleUser [.list 50] (requestedStore sampleUser)
    ⟨.list 50, List.mem_singleton_self _, fun hsilent => hsilent r hr hstatus⟩

end Protection
