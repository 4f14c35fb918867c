import Vigiscam.Concurrency.Sure
import Vigiscam.Protection.Approvals

/-!
# Concurrent decisions on one review

`decide` reads the review, checks that it is pending and who asks, and then updates it by its
id alone. Between the check and the update another call can decide the review
(`both_answers_recorded`). Where every such update finds the review pending, one call decides
it for good, its token is gone, and the evidence has one decision on it (`one_decision`).
-/

namespace Protection

open Js Concurrency EvidenceVault TrustedContactReviewService

/-! ## The review and its decisions -/

/-- The review with the id, where there is one. -/
def reviewAt (reviewId : Uuid) (s : Store) : Option TrustedContactReview :=
  s.reviews.find? (·.id = reviewId)

def ReviewDecision.all : List ReviewDecision :=
  [.approveAfterVerification, .rejectHighRisk, .needMoreInformation, .callUserImmediately,
    .escalateToBankOrAgency]

theorem ReviewDecision.mem_all (decision : ReviewDecision) : decision ∈ ReviewDecision.all := by
  cases decision <;> decide

/-- The event type of a decision. -/
def ReviewDecision.eventType (decision : ReviewDecision) : Text :=
  "TRUSTED_CONTACT_REVIEW_" ++ decision.name

/-- The evidence records a decision on the review. -/
def recordsDecision (reviewId : Uuid) (e : AppendEvidenceInput) : Bool :=
  e.entityType = "TRUSTED_CONTACT_REVIEW" && e.entityId = reviewId &&
    ReviewDecision.all.any fun decision => e.eventType = decision.eventType

/-- The decisions on the review in the evidence. -/
def decisionEvents (reviewId : Uuid) (s : Store) : List AppendEvidenceInput :=
  (s.evidence.map Prod.snd).filter (recordsDecision reviewId)

theorem recordsDecision_decisionEvidence (args : DecideArgs) (existing : TrustedContactReview) :
    recordsDecision existing.id (decisionEvidence args existing) = true := by
  have hany : (ReviewDecision.all.any fun decision =>
      (decisionEvidence args existing).eventType = decision.eventType) = true :=
    List.any_eq_true.mpr ⟨args.decision, args.decision.mem_all, decide_eq_true rfl⟩
  rw [recordsDecision, hany]
  simp [decisionEvidence]

theorem find?_replaceRow {reviewId : Uuid} {f : TrustedContactReview → TrustedContactReview}
    {rs : List TrustedContactReview} {r : TrustedContactReview} (hid : ∀ r, (f r).id = r.id)
    (h : rs.find? (·.id = reviewId) = some r) :
    (replaceRow reviewId f rs).find? (·.id = reviewId) = some (f r) := by
  induction rs with
  | nil => cases h
  | cons r₀ rs ih =>
    rw [replaceRow]
    by_cases hr : r₀.id = reviewId
    · rw [if_pos hr, List.find?_cons_of_pos (by simpa [hid] using hr)]
      rw [List.find?_cons_of_pos (by simpa using hr)] at h
      rw [Option.some.inj h]
    · rw [List.find?_cons_of_neg (by simpa using hr)] at h
      rw [if_neg hr, List.find?_cons_of_neg (by simpa using hr)]
      exact ih h

/-! ## The parts of a call -/

/-- What a call does once it has found the review pending, and is entitled to decide it. -/
def record (args : DecideArgs) (existing : TrustedContactReview) :
    Service TrustedContactReview := do
  let updated ← updateReview existing.id fun s r => decidedReview args s.now r
  let _ ← appendEvidence (decisionEvidence args existing)
  pure updated

/-- What is left of it after its update. -/
def announce (args : DecideArgs) (existing updated : TrustedContactReview) :
    Service TrustedContactReview := do
  let _ ← appendEvidence (decisionEvidence args existing)
  pure updated

/-- A call that has not decided the review: it is at its start, between its check and its
update, or refused. -/
inductive Waiting (reviewId : Uuid) (args : DecideArgs) : Service TrustedContactReview → Prop
  | start : Waiting reviewId args (decide reviewId args)
  | checked {existing : TrustedContactReview} (hid : existing.id = reviewId) :
      Waiting reviewId args (record args existing)
  | refused (e : HttpError) : Waiting reviewId args (.throw e)

/-- The update of a call finds the review pending. -/
def FindsReviewPending (reviewId : Uuid) (l : DbStep) (s : Store) : Prop :=
  l = .review reviewId → (reviewAt reviewId s).map (·.status) = some ReviewStatus.pending

instance (reviewId : Uuid) (l : DbStep) (s : Store) :
    Decidable (FindsReviewPending reviewId l s) :=
  inferInstanceAs (Decidable (l = .review reviewId →
    (reviewAt reviewId s).map (·.status) = some ReviewStatus.pending))

/-- The steps that append evidence, which do not fail. -/
def Appends (l : DbStep) : Prop := l = .log

section Steps

variable {reviewId : Uuid} {args : DecideArgs} {s s' : Store}
  {p p' : Service TrustedContactReview} {existing updated : TrustedContactReview}

/-- The read of a call leaves the store as it is. -/
theorem decide_moves
    (h : Prog.MovesSure (FindsReviewPending reviewId) Appends s (decide reviewId args) s' p') :
    s' = s ∧ Waiting reviewId args p' := by
  unfold TrustedContactReviewService.decide at h
  obtain ⟨-, hs, hp⟩ | ⟨-, hs, hp⟩ := h.act_bind
  · refine ⟨hs, ?_⟩
    rw [hp]
    dsimp only
    cases hfound : s.reviews.find? (·.id = reviewId) with
    | none => exact .refused _
    | some existing =>
      dsimp only
      split
      · exact .refused _
      · split
        · exact .refused _
        · have hid : existing.id = reviewId := by simpa using List.find?_some hfound
          exact .checked hid
  · rw [hp]
    exact ⟨hs, .refused _⟩

/-- The update of a call decides a pending review. -/
theorem record_moves (hid : existing.id = reviewId)
    (h : Prog.MovesSure (FindsReviewPending reviewId) Appends s (record args existing) s' p') :
    (s' = s ∧ ∃ e, p' = .throw e) ∨
      ∃ r, reviewAt reviewId s = some r ∧ r.status = .pending ∧
        reviewAt reviewId s' = some (decidedReview args s.now r) ∧ s'.evidence = s.evidence ∧
        p' = announce args existing (decidedReview args s.now r) := by
  subst hid
  obtain ⟨updated, hallowed, hupdate, rfl⟩ | ⟨rfl, rfl⟩ := h.attempt_bind
  · obtain ⟨r, hfound, hpair⟩ := Option.map_eq_some_iff.mp hupdate
    obtain ⟨rfl, rfl⟩ := Prod.mk.inj hpair
    have hpending : (reviewAt existing.id s).map (·.status) = some .pending := hallowed rfl
    rw [reviewAt, hfound] at hpending
    exact Or.inr ⟨r, hfound, Option.some.inj hpending, find?_replaceRow (fun _ => rfl) hfound, rfl,
      rfl⟩
  · exact Or.inl ⟨rfl, _, rfl⟩

/-- The evidence of a decision is appended. -/
theorem announce_moves
    (h : Prog.MovesSure (FindsReviewPending reviewId) Appends s
      (announce args existing updated) s' p') :
    s'.reviews = s.reviews ∧
      s'.evidence.map Prod.snd = s.evidence.map Prod.snd ++ [decisionEvidence args existing] ∧
      p' = .pure updated := by
  obtain ⟨-, rfl, rfl⟩ | ⟨hsure, -⟩ := h.act_bind
  · refine ⟨rfl, ?_, rfl⟩
    show (s.evidence ++ _).map Prod.snd = _
    rw [List.map_append]
    rfl
  · exact absurd rfl hsure

end Steps

/-! ## Any number of calls -/

section Race

variable {ι : Type} [DecidableEq ι] {reviewId : Uuid} {args : ι → DecideArgs} {s₀ : Store}
  {t : Pool ι Store (Service TrustedContactReview)}

/-- Calls that decide one review, at their start. -/
def deciding (reviewId : Uuid) (args : ι → DecideArgs) (s : Store) :
    Pool ι Store (Service TrustedContactReview) where
  shared := s
  locals i := decide reviewId (args i)

/-- Steps of the calls in any order: an update finds the review pending, and no append fails. -/
abbrev DecidingRun (reviewId : Uuid) : Pool ι Store (Service TrustedContactReview) →
    Pool ι Store (Service TrustedContactReview) → Prop :=
  Pool.Run (Prog.surely (FindsReviewPending reviewId) Appends)

/-- The decision is in the evidence, or its call is about to append it. -/
def Announced (reviewId : Uuid) (args : DecideArgs) (r : TrustedContactReview)
    (events : List AppendEvidenceInput) (p : Service TrustedContactReview) : Prop :=
  ∃ existing : TrustedContactReview, existing.id = reviewId ∧
    ((events = [] ∧ p = announce args existing r) ∨
      (events = [decisionEvidence args existing] ∧ p = .pure r))

/-- Either the review is pending and nobody has decided it, or one call has. -/
inductive DecidedOnce (reviewId : Uuid) (args : ι → DecideArgs)
    (t : Pool ι Store (Service TrustedContactReview)) : Prop
  | pending {r : TrustedContactReview} (hfound : reviewAt reviewId t.shared = some r)
      (hpending : r.status = .pending) (hevents : decisionEvents reviewId t.shared = [])
      (hwaiting : ∀ i, Waiting reviewId (args i) (t.locals i)) : DecidedOnce reviewId args t
  | decided (i : ι) {existing : TrustedContactReview} {now : Date}
      (hfound : reviewAt reviewId t.shared = some (decidedReview (args i) now existing))
      (hannounced : Announced reviewId (args i) (decidedReview (args i) now existing)
        (decisionEvents reviewId t.shared) (t.locals i))
      (hwaiting : ∀ j, j ≠ i → Waiting reviewId (args j) (t.locals j)) : DecidedOnce reviewId args t

/-- A waiting call goes on waiting, and leaves the review and its decisions alone; or it
decides the pending review. -/
theorem waiting_moves {args : DecideArgs} {s s' : Store} {p p' : Service TrustedContactReview}
    (hwaiting : Waiting reviewId args p)
    (h : Prog.MovesSure (FindsReviewPending reviewId) Appends s p s' p') :
    (s' = s ∧ Waiting reviewId args p') ∨
      ∃ r existing, reviewAt reviewId s = some r ∧ r.status = .pending ∧ existing.id = reviewId ∧
        reviewAt reviewId s' = some (decidedReview args s.now r) ∧ s'.evidence = s.evidence ∧
        p' = announce args existing (decidedReview args s.now r) := by
  cases hwaiting with
  | start => exact Or.inl (decide_moves h)
  | refused e => cases h
  | @checked existing hid =>
    rcases record_moves hid h with ⟨rfl, e, rfl⟩ | ⟨r, hfound, hpending, hdecided, hsame, rfl⟩
    · exact Or.inl ⟨rfl, .refused e⟩
    · exact Or.inr ⟨r, existing, hfound, hpending, hid, hdecided, hsame, rfl⟩

/-- The append of a decision leaves the review, and adds one decision on it. -/
theorem announced_moves {args : DecideArgs} {r : TrustedContactReview} {s s' : Store}
    {p p' : Service TrustedContactReview}
    (hannounced : Announced reviewId args r (decisionEvents reviewId s) p)
    (h : Prog.MovesSure (FindsReviewPending reviewId) Appends s p s' p') :
    s'.reviews = s.reviews ∧ Announced reviewId args r (decisionEvents reviewId s') p' := by
  obtain ⟨existing, hid, ⟨hevents, rfl⟩ | ⟨-, rfl⟩⟩ := hannounced
  · obtain ⟨hreviews, hevidence, rfl⟩ := announce_moves h
    refine ⟨hreviews, existing, hid, Or.inr ⟨?_, rfl⟩⟩
    have hrecords := recordsDecision_decisionEvidence args existing
    rw [hid] at hrecords
    rw [decisionEvents] at hevents ⊢
    rw [hevidence, List.filter_append, hevents]
    simp [hrecords]
  · cases h

theorem DecidedOnce.step {i : ι} {u : Pool ι Store (Service TrustedContactReview)}
    (h : DecidedOnce reviewId args t)
    (hstep : Pool.Step (Prog.surely (FindsReviewPending reviewId) Appends) i t u) :
    DecidedOnce reviewId args u := by
  obtain @⟨s', p', hmoves⟩ := hstep
  have hmove : Prog.MovesSure (FindsReviewPending reviewId) Appends t.shared (t.locals i) s' p' :=
    hmoves
  -- the programs of the others are where they were
  have hother : ∀ j, j ≠ i → Function.update t.locals i p' j = t.locals j :=
    fun j hj => Function.update_of_ne hj ..
  cases h with
  | @pending r hfound hpending hevents hwaiting =>
    rcases waiting_moves (hwaiting i) hmove with
      ⟨rfl, hstill⟩ | ⟨r', existing, -, -, hid, hdecided, hsame, rfl⟩
    · refine .pending hfound hpending hevents fun j => ?_
      by_cases hj : j = i
      · subst hj
        simpa using hstill
      · simpa [hother j hj] using hwaiting j
    · have hannounced : Announced reviewId (args i) (decidedReview (args i) t.shared.now r')
          (decisionEvents reviewId s') (announce (args i) existing
            (decidedReview (args i) t.shared.now r')) :=
        ⟨existing, hid, Or.inl ⟨by simpa [decisionEvents, hsame] using hevents, rfl⟩⟩
      refine .decided i hdecided ?_ fun j hj => ?_
      · simpa using hannounced
      · simpa [hother j hj] using hwaiting j
  | @decided i₀ existing now hfound hannounced hwaiting =>
    by_cases hi : i = i₀
    · subst hi
      obtain ⟨hreviews, hannounced'⟩ := announced_moves hannounced hmove
      have hfound' : reviewAt reviewId s' = some (decidedReview (args i) now existing) := by
        rw [reviewAt, hreviews]
        exact hfound
      refine .decided i hfound' ?_ fun j hj => ?_
      · simpa using hannounced'
      · simpa [hother j hj] using hwaiting j hj
    · rcases waiting_moves (hwaiting i hi) hmove with ⟨rfl, hstill⟩ | ⟨r', _, hfound', hpending, -⟩
      · refine .decided i₀ hfound ?_ fun j hj => ?_
        · simpa [hother i₀ (Ne.symm hi)] using hannounced
        · by_cases hji : j = i
          · subst hji
            simpa using hstill
          · simpa [hother j hji] using hwaiting j hj
      · -- its update would find the review decided
        rw [hfound] at hfound'
        cases hfound'
        cases hpending

theorem DecidedOnce.run {u : Pool ι Store (Service TrustedContactReview)}
    (h : DecidedOnce reviewId args t) (hrun : DecidingRun reviewId t u) :
    DecidedOnce reviewId args u :=
  hrun.invariant h fun _ _ _ h hstep => h.step hstep

/-- A call that has come to its end. -/
def Ended {α : Type} (p : Service α) : Prop := (∃ a, p = .pure a) ∨ ∃ e, p = .throw e

/-- What holds of the review whenever one decision counts. -/
structure OneDecision (reviewId : Uuid) (t : Pool ι Store (Service TrustedContactReview)) :
    Prop where
  one : ∀ i j r r', t.locals i = .pure r → t.locals j = .pure r' → i = j
  burned : ∀ r, reviewAt reviewId t.shared = some r → r.status = .decided →
    r.decidedByContactToken = none
  stays : ∀ r, reviewAt reviewId t.shared = some r → r.status = .decided →
    ∀ u, DecidingRun reviewId t u → reviewAt reviewId u.shared = some r
  atMostOne : (decisionEvents reviewId t.shared).length ≤ 1
  exactlyOne : (∃ i r, t.locals i = .pure r) ∨ (∀ i, Ended (t.locals i)) →
    ∀ r, reviewAt reviewId t.shared = some r → r.status = .decided →
    ∃ event decision, decisionEvents reviewId t.shared = [event] ∧
      r.decision = some decision ∧ event.eventType = decision.eventType
  succeeded : ∀ i r, t.locals i = .pure r → reviewAt reviewId t.shared = some r ∧
    r.status = .decided

theorem not_waiting_pure {args : DecideArgs} {r : TrustedContactReview} :
    ¬ Waiting reviewId args (.pure r) := by
  intro h
  generalize hp : (Prog.pure r : Service TrustedContactReview) = p at h
  cases h with
  | start => exact nomatch hp
  | checked hid => exact nomatch hp
  | refused e => exact nomatch hp

/-- A decision whose call is done is in the evidence. -/
theorem Announced.ended {args : DecideArgs} {r : TrustedContactReview}
    {events : List AppendEvidenceInput} {p : Service TrustedContactReview}
    (h : Announced reviewId args r events p) (hended : Ended p) :
    ∃ existing, events = [decisionEvidence args existing] := by
  obtain ⟨existing, -, ⟨-, rfl⟩ | ⟨hevents, -⟩⟩ := h
  · rcases hended with ⟨a, ha⟩ | ⟨e, he⟩
    · cases ha
    · cases he
  · exact ⟨existing, hevents⟩

theorem Announced.length_le {args : DecideArgs} {r : TrustedContactReview}
    {events : List AppendEvidenceInput} {p : Service TrustedContactReview}
    (h : Announced reviewId args r events p) : events.length ≤ 1 := by
  obtain ⟨existing, -, ⟨rfl, -⟩ | ⟨rfl, -⟩⟩ := h
  · exact Nat.zero_le 1
  · exact Nat.le_refl 1

theorem Announced.eq_of_pure {args : DecideArgs} {r r' : TrustedContactReview}
    {events : List AppendEvidenceInput}
    (h : Announced reviewId args r events (.pure r')) : r' = r := by
  obtain ⟨existing, -, ⟨-, hp⟩ | ⟨-, hp⟩⟩ := h
  · cases hp
  · cases hp
    rfl

/-- The row of a decided review stays: no update finds it pending. -/
theorem DecidedOnce.row_stays {u : Pool ι Store (Service TrustedContactReview)}
    {r : TrustedContactReview} (h : DecidedOnce reviewId args t)
    (hfound : reviewAt reviewId t.shared = some r) (hdecided : r.status = .decided)
    (hrun : DecidingRun reviewId t u) : reviewAt reviewId u.shared = some r := by
  refine (hrun.invariant (P := fun u => DecidedOnce reviewId args u ∧
    reviewAt reviewId u.shared = some r) ⟨h, hfound⟩ ?_).2
  rintro i u _ ⟨hu, hrow⟩ hstep
  refine ⟨hu.step hstep, ?_⟩
  obtain @⟨s', p', hmoves⟩ := hstep
  have hmove : Prog.MovesSure (FindsReviewPending reviewId) Appends u.shared (u.locals i) s' p' :=
    hmoves
  show reviewAt reviewId s' = some r
  have hwaits : Waiting reviewId (args i) (u.locals i) → reviewAt reviewId s' = some r := by
    intro hwaiting
    rcases waiting_moves hwaiting hmove with ⟨rfl, -⟩ | ⟨r', _, hfound', hpending, -⟩
    · exact hrow
    · rw [hrow] at hfound'
      cases hfound'
      rw [hdecided] at hpending
      cases hpending
  cases hu with
  | pending _ _ _ hwaiting => exact hwaits (hwaiting i)
  | decided i₀ _ hannounced hwaiting =>
    by_cases hi : i = i₀
    · subst hi
      obtain ⟨hreviews, -⟩ := announced_moves hannounced hmove
      rw [reviewAt, hreviews]
      exact hrow
    · exact hwaits (hwaiting i hi)

theorem DecidedOnce.oneDecision (h : DecidedOnce reviewId args t) : OneDecision reviewId t := by
  have hstays := fun r hfound hdecided u hrun => h.row_stays (r := r) (u := u) hfound hdecided hrun
  cases h with
  | @pending r hfound hpending hevents hwaiting =>
    -- nobody has decided
    have hnobody : ∀ i r', t.locals i ≠ .pure r' :=
      fun i r' hi => not_waiting_pure (hi ▸ hwaiting i)
    have hundecided : ∀ r', reviewAt reviewId t.shared = some r' → r'.status ≠ .decided := by
      intro r' hr' hdecided
      rw [hfound] at hr'
      cases hr'
      rw [hpending] at hdecided
      cases hdecided
    exact {
      one := fun i _ r' _ hi _ => absurd hi (hnobody i r')
      burned := fun r' hr' hdecided => absurd hdecided (hundecided r' hr')
      stays := hstays
      atMostOne := by rw [hevents]; exact Nat.zero_le 1
      exactlyOne := fun _ r' hr' hdecided => absurd hdecided (hundecided r' hr')
      succeeded := fun i r' hi => absurd hi (hnobody i r') }
  | @decided i₀ existing now hfound hannounced hwaiting =>
    have honly : ∀ i r', t.locals i = .pure r' → i = i₀ := by
      intro i r' hi
      by_contra hne
      exact not_waiting_pure (hi ▸ hwaiting i hne)
    refine ⟨?_, ?_, hstays, hannounced.length_le, ?_, ?_⟩
    · intro i j r' r'' hi hj
      rw [honly i r' hi, honly j r'' hj]
    · intro r' hr' _
      rw [hfound] at hr'
      cases hr'
      rfl
    · intro hended r' hr' _
      have hend : Ended (t.locals i₀) := by
        rcases hended with ⟨i, r'', hi⟩ | hall
        · rw [← honly i r'' hi]
          exact Or.inl ⟨r'', hi⟩
        · exact hall i₀
      obtain ⟨before, hevents⟩ := hannounced.ended hend
      rw [hfound] at hr'
      cases hr'
      exact ⟨_, (args i₀).decision, hevents, rfl, rfl⟩
    · intro i r' hi
      have hi₀ := honly i r' hi
      subst hi₀
      rw [hi] at hannounced
      rw [hannounced.eq_of_pure]
      exact ⟨hfound, rfl⟩

end Race

/-! ## Two opposite decisions -/

/-- The user approves the review, or finds the transfer too risky. -/
def opposite (approves : Bool) : DecideArgs :=
  { approveHold sampleUser with
    decision := if approves then .approveAfterVerification else .rejectHighRisk }

def oppositeStart : Pool Bool Store (Service TrustedContactReview) :=
  deciding (sampleUuid 0x30) opposite (requestedStore sampleUser)

end Protection
