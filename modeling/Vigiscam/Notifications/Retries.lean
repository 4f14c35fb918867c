import Vigiscam.Concurrency.Owned
import Vigiscam.Concurrency.Sure
import Vigiscam.Notifications.Service

/-!
# What becomes of a notification

Modules and workers run at once, and any step may fail: a provider may have accepted a message
whose row could not be updated. A delivery is held by the module that has created it, until it is
in the queue, and then by the worker that has its job; so what is known of one delivery (`Sound`)
is only changed by its holder. A notification is handed over four times at most, and is accepted
twice only where the outcome of an attempt has not been written (`handed_bounded`); its row says
what became of an attempt (`rows_truthful`); and whatever is handed over is what a module has sent
(`retries_alike`).
-/

namespace Notifications

open Js Value Concurrency

/-! ## One delivery -/

section Views

variable {ι : Type} {s : Store ι} {d d' : Uuid}

/-- All that a store has of one delivery, but for whether its user has read it. -/
structure View (ι : Type) where
  row : Option NotificationDelivery
  wire : List Handed
  job : Option (Job ι)

def NotificationDelivery.unread (delivery : NotificationDelivery) : NotificationDelivery :=
  { delivery with readAt := none }

def view (s : Store ι) (d : Uuid) : View ι where
  row := (Table.find NotificationDelivery.id d s.deliveries).map NotificationDelivery.unread
  wire := Table.owned Handed.deliveryId d s.wire
  job := Table.find Job.id (retryJobId d) s.jobs

theorem retryJobId_injective : Function.Injective retryJobId := fun _ _ h =>
  List.append_cancel_left h

theorem find_create_of_ne {r : NotificationDelivery} (h : d ≠ r.id) :
    Table.find NotificationDelivery.id d (s.deliveries ++ [r]) =
      Table.find NotificationDelivery.id d s.deliveries := by
  rw [Table.find_append_singleton, if_neg (Ne.symm h), Option.or_none]

theorem view_handed (h : Handed) :
    view { s with wire := s.wire ++ [h] } h.deliveryId =
      { view s h.deliveryId with wire := (view s h.deliveryId).wire ++ [h] } := by
  have hwire : Table.owned Handed.deliveryId h.deliveryId (s.wire ++ [h]) =
      Table.owned Handed.deliveryId h.deliveryId s.wire ++ [h] := by
    rw [Table.owned, List.filter_append, List.filter_cons_of_pos (by simp), List.filter_nil]
    rfl
  exact congrArg (fun wire => { view s h.deliveryId with wire }) hwire

theorem view_handed_of_ne (h : Handed) (hd : d ≠ h.deliveryId) :
    view { s with wire := s.wire ++ [h] } d = view s d :=
  congrArg (fun wire => { view s d with wire }) (Table.owned_append_of_ne (Ne.symm hd))

theorem view_attempted (res : AdapterResult) :
    view (s.attempted d res) d =
      { view s d with row := (view s d).row.map (NotificationDelivery.attempted res s.now) } := by
  have hrow : (view (s.attempted d res) d).row =
      (view s d).row.map (NotificationDelivery.attempted res s.now) := by
    show (Table.find NotificationDelivery.id d (Table.modify NotificationDelivery.id d
      (NotificationDelivery.attempted res s.now) s.deliveries)).map _ = _
    rw [Table.find_modify_self (f := NotificationDelivery.attempted res s.now) fun _ => rfl,
      view, Option.map_map, Option.map_map]
    rfl
  exact congrArg (fun row => { view s d with row }) hrow

theorem view_attempted_of_ne (res : AdapterResult) (hd : d' ≠ d) :
    view (s.attempted d res) d' = view s d' := by
  have hfind : Table.find NotificationDelivery.id d' (s.attempted d res).deliveries =
      Table.find NotificationDelivery.id d' s.deliveries :=
    Table.find_modify_of_ne (fun _ => rfl) hd
  exact congrArg (fun row : Option NotificationDelivery =>
    { view s d' with row := row.map NotificationDelivery.unread }) hfind

/-- Reading changes no view. -/
theorem find_read (userId : Uuid) (now : Int) :
    (Table.find NotificationDelivery.id d (s.deliveries.map fun delivery =>
      if delivery.id = d' ∧ delivery.userId = some userId then
        { delivery with readAt := some now }
      else delivery)).map NotificationDelivery.unread = (view s d).row := by
  rw [Table.find_map fun delivery => by split <;> rfl, view, Option.map_map]
  congr 1
  funext delivery
  rw [Function.comp_apply]
  split <;> rfl

theorem view_withJob {f : Job ι → Job ι} (hf : ∀ job, (f job).id = job.id) :
    view (s.withJob (retryJobId d) f) d = { view s d with job := (view s d).job.map f } :=
  congrArg (fun job => { view s d with job }) (Table.find_modify_self hf)

theorem view_withJob_of_ne {f : Job ι → Job ι} (hf : ∀ job, (f job).id = job.id) (hd : d' ≠ d) :
    view (s.withJob (retryJobId d) f) d' = view s d' :=
  congrArg (fun job => { view s d' with job })
    (Table.find_modify_of_ne hf fun hsame => hd (retryJobId_injective hsame))

end Views

/-! ## What is known of it -/

section Known

variable {ι : Type} {p : Platform} {asked : SendNotificationInput → Prop} {d : Uuid}
  {input : SendNotificationInput} {row : NotificationDelivery} {wire : List Handed}
  {job : Job ι} {h : Handed}

/-- The provider has accepted the message. -/
def Handed.accepted (h : Handed) : Bool := h.result.ok && !h.result.skipped

def accepted (wire : List Handed) : Nat := wire.countP Handed.accepted

/-- The row as it was created. -/
def NotificationDelivery.original (row : NotificationDelivery) : NotificationDelivery :=
  { row with
    status := .pending
    attempts := 0
    lastError := none
    providerMessageId := none
    sentAt := none
    readAt := none }

/-- A message is that of the notification, but for its metadata, which a retry has as JSON keeps
them. -/
structure Carries (input : SendNotificationInput) (h : Handed) : Prop where
  channel : h.channel = input.channel
  recipient : h.args.recipient = input.recipient
  subject : h.args.subject = input.subject
  body : h.args.body = input.body
  metadata : h.args.metadata = input.metadata ∨ h.args.metadata = input.metadata.map readBack

/-- A row says what became of one of the attempts. -/
structure Tells (row : NotificationDelivery) (h : Handed) : Prop where
  status : row.status = h.result.status
  lastError : row.lastError = h.result.error
  providerMessageId : row.providerMessageId = h.result.providerMessageId

structure Truthful (row : NotificationDelivery) (wire : List Handed) : Prop where
  attempts : row.attempts ≤ wire.length
  untried : row.attempts = 0 → row.unread = row.original
  tried : 0 < row.attempts → ∃ h ∈ wire, Tells row h
  sentAt : row.sentAt.isSome ↔ row.status = .sent

/-- The notification may be handed over once more: no acceptance of it has been written. -/
structure Retriable (row : NotificationDelivery) (wire : List Handed) : Prop where
  accounted : accepted wire + row.attempts ≤ wire.length
  status : row.status = .failed
  sentAt : row.sentAt = none

/-- The job of a delivery, whose message has been handed over before. -/
structure Queued (d : Uuid) (input : SendNotificationInput) (row : NotificationDelivery)
    (wire : List Handed) (job : Job ι) : Prop where
  data : job.data = retryPayload d input
  waiting : job.state.isWaiting →
    Retriable row wire ∧ wire.length ≤ 1 + job.attemptsMade ∧ job.attemptsMade < 3
  bound : wire.length ≤ 4

/-- A delivery with its attempts, and with its job, if there is one. -/
structure Recorded (p : Platform) (asked : SendNotificationInput → Prop) (d : Uuid)
    (input : SendNotificationInput) (row : NotificationDelivery) (wire : List Handed)
    (job : Option (Job ι)) : Prop where
  asked : asked input
  original : row.original = newDelivery p input d
  carries : ∀ h ∈ wire, Carries input h
  truthful : Truthful row wire
  accounted : accepted wire + row.attempts ≤ 1 + wire.length
  unqueued : job = none → wire.length ≤ 1
  queued : ∀ j, job = some j → Queued d input row wire j

def Sound (p : Platform) (asked : SendNotificationInput → Prop) (d : Uuid) (v : View ι) : Prop :=
  match v.row with
  | none => v.wire = [] ∧ v.job = none
  | some row => ∃ input, Recorded p asked d input row v.wire v.job

/-! ### Attempts -/

theorem accepted_append (wire : List Handed) (h : Handed) :
    accepted (wire ++ [h]) = accepted wire + if h.accepted then 1 else 0 := by
  rw [accepted, List.countP_append, List.countP_singleton]
  rfl

/-- No acceptance has been written. -/
structure Ready (row : NotificationDelivery) (wire : List Handed) : Prop where
  accounted : accepted wire + row.attempts ≤ wire.length
  sentAt : row.sentAt = none

theorem Retriable.ready (hr : Retriable row wire) : Ready row wire :=
  ⟨hr.accounted, hr.sentAt⟩

/-- There is room for one attempt, by whoever holds the delivery. -/
structure Room (wire : List Handed) (job : Option (Job ι)) : Prop where
  bound : wire.length < 4
  unqueued : job = none → wire = []
  taken : ∀ j, job = some j → ¬ j.state.isWaiting

variable {job : Option (Job ι)}

/-- The message is handed over. -/
theorem Recorded.handed (hrec : Recorded p asked d input row wire job) (hready : Ready row wire)
    (hroom : Room wire job) (hcarries : Carries input h) :
    Recorded p asked d input row (wire ++ [h]) job where
  asked := hrec.asked
  original := hrec.original
  carries h' hh' := by
    rcases List.mem_append.mp hh' with hold | hnew
    · exact hrec.carries h' hold
    · exact List.mem_singleton.mp hnew ▸ hcarries
  truthful := {
    attempts := by
      have := hrec.truthful.attempts
      rw [List.length_append, List.length_singleton]
      omega
    untried := hrec.truthful.untried
    tried := fun htried => by
      obtain ⟨h', hh', htells⟩ := hrec.truthful.tried htried
      exact ⟨h', List.mem_append_left _ hh', htells⟩
    sentAt := hrec.truthful.sentAt }
  accounted := by
    have := hready.accounted
    rw [accepted_append, List.length_append, List.length_singleton]
    split <;> omega
  unqueued hjob := by
    rw [hroom.unqueued hjob]
    rfl
  queued j hj := {
    data := (hrec.queued j hj).data
    waiting := fun hwaiting => absurd hwaiting (hroom.taken j hj)
    bound := by
      have := hroom.bound
      rw [List.length_append, List.length_singleton]
      omega }

/-- The outcome of the attempt is written. -/
theorem Recorded.attempted (hrec : Recorded p asked d input row wire job)
    (hready : Ready row wire) (hroom : Room wire job) (hcarries : Carries input h)
    (now : Int) :
    Recorded p asked d input (row.attempted h.result now) (wire ++ [h]) job :=
  { hrec.handed hready hroom hcarries with
    truthful := {
      attempts := by
        have := hrec.truthful.attempts
        show row.attempts + 1 ≤ (wire ++ [h]).length
        rw [List.length_append, List.length_singleton]
        omega
      untried := nofun
      tried := fun _ => ⟨h, List.mem_append_right _ (List.mem_singleton_self h), rfl, rfl, rfl⟩
      sentAt := by
        show (if h.result.status = .sent then some now else row.sentAt).isSome ↔
          h.result.status = .sent
        rw [hready.sentAt]
        split <;> simp_all }
    accounted := by
      have := hready.accounted
      show accepted (wire ++ [h]) + (row.attempts + 1) ≤ 1 + (wire ++ [h]).length
      rw [accepted_append, List.length_append, List.length_singleton]
      split <;> omega
    queued := fun j hj =>
      { (hrec.handed hready hroom hcarries).queued j hj with
        waiting := fun hwaiting => absurd hwaiting (hroom.taken j hj) } }

/-- Once more, where the outcome of an attempt could not be written. -/
theorem Retriable.handed (hr : Retriable row wire) (h : Handed) : Retriable row (wire ++ [h]) where
  accounted := by
    have := hr.accounted
    rw [accepted_append, List.length_append, List.length_singleton]
    split <;> omega
  status := hr.status
  sentAt := hr.sentAt

theorem not_accepted_of_failing (hfailing : h.result.failing) : h.accepted = false := by
  revert hfailing
  rw [AdapterResult.failing, Handed.accepted]
  cases h.result.ok <;> simp

/-- Once more, where an attempt has failed. -/
theorem Ready.failed (hready : Ready row wire) (hfailing : h.result.failing) (now : Int) :
    Retriable (row.attempted h.result now) (wire ++ [h]) := by
  have hstatus : h.result.status = .failed := by
    rw [AdapterResult.failing, Bool.and_eq_true] at hfailing
    rw [AdapterResult.status, if_neg (by simpa using hfailing.1)]
  refine ⟨?_, hstatus, ?_⟩
  · have := hready.accounted
    show accepted (wire ++ [h]) + (row.attempts + 1) ≤ (wire ++ [h]).length
    rw [accepted_append, not_accepted_of_failing hfailing, List.length_append,
      List.length_singleton]
    simp only [Bool.false_eq_true, if_false]
    omega
  · show (if h.result.status = .sent then some now else row.sentAt) = none
    rw [if_neg (by rw [hstatus]; exact nofun), hready.sentAt]

/-! ### Jobs -/

/-- A job is added, or has gone on. -/
theorem Recorded.withJob (hrec : Recorded p asked d input row wire job) {j : Job ι}
    (hj : Queued d input row wire j) : Recorded p asked d input row wire (some j) :=
  { hrec with
    unqueued := nofun
    queued := fun _ hj' => Option.some.inj hj' ▸ hj }

theorem Queued.takenBy {j : Job ι} (hj : Queued d input row wire j) (worker : ι) :
    Queued d input row wire (j.takenBy worker) :=
  { hj with waiting := nofun }

/-- The end of a run that has thrown, or not. -/
theorem Queued.after {j : Job ι} {worker : ι} {thrown : Bool}
    (hj : Queued d input row wire (j.takenBy worker))
    (hthrown : thrown → Retriable row wire ∧ wire.length ≤ 2 + j.attemptsMade) :
    Queued d input row wire ((j.takenBy worker).after thrown) where
  data := hj.data
  waiting hwaiting := by
    cases thrown with
    | false => exact absurd hwaiting Bool.false_ne_true
    | true =>
      obtain ⟨hretriable, hlength⟩ := hthrown rfl
      have hlimit : j.attemptsMade + 1 < 3 := by
        by_contra hnot
        have hstate : ((j.takenBy worker).after true).state = .failed := if_neg hnot
        rw [hstate] at hwaiting
        exact Bool.false_ne_true hwaiting
      refine ⟨hretriable, ?_, hlimit⟩
      show wire.length ≤ 1 + (j.attemptsMade + 1)
      omega
  bound := hj.bound

end Known

/-! ## Who holds it -/

section Holders

variable {ι : Type} {ids : ι → Nat → Uuid} {p : Platform} {asked : SendNotificationInput → Prop}
  {i j : ι} {d : Uuid} {s t : Store ι} {job : Option (Job ι)}

/-- A delivery that is not queued is held by the process that drew its id, and a job by the
worker that has taken it. -/
inductive Holds (ids : ι → Nat → Uuid) (i : ι) (d : Uuid) : Option (Job ι) → Prop
  | sender (n : Nat) (h : d = ids i n) : Holds ids i d none
  | worker (job : Job ι) (h : job.state = .active i) : Holds ids i d (some job)

theorem Holds.unique (hids : Distinguished ids) (hi : Holds ids i d job) (hj : Holds ids j d job) :
    j = i := by
  cases hi with
  | sender n hn =>
    cases hj with
    | sender m hm => exact (hids _ _ _ _ (hm.symm.trans hn)).1
  | worker job hstate =>
    cases hj with
    | worker _ hstate' => exact JobState.active.inj (hstate'.symm.trans hstate)

def Keeps (ids : ι → Nat → Uuid) (i : ι) (s t : Store ι) : Prop :=
  ∀ d, Holds ids i d (view s d).job → view t d = view s d

theorem closed_keeps (i : ι) : Closed (Keeps ids i) where
  refl _ _ _ := rfl
  trans {s t u} hst htu d hd := by
    have ht := hst d hd
    exact (htu d (ht ▸ hd)).trans ht

/-- What is known of the store. -/
structure Fine (p : Platform) (asked : SendNotificationInput → Prop) (ids : ι → Nat → Uuid)
    (s : Store ι) : Prop where
  uuid : s.uuid = ids
  nodup : (s.deliveries.map NotificationDelivery.id).Nodup
  drawn : ∀ id ∈ s.deliveries.map NotificationDelivery.id, ∃ i n, n < s.issued i ∧ id = ids i n
  sound : ∀ d, Sound p asked d (view s d)

/-- A step that leaves all views alone. -/
theorem within_same (hs : Fine p asked ids s) (huuid : t.uuid = s.uuid)
    (hissued : t.issued = s.issued)
    (hdeliveries : t.deliveries.map NotificationDelivery.id =
      s.deliveries.map NotificationDelivery.id) (hview : ∀ d, view t d = view s d) :
    Prog.Within (Fine p asked ids) (holding (Keeps ids) i : Contract _ NotificationStep) s t where
  inv :=
    { uuid := huuid.trans hs.uuid
      nodup := hdeliveries ▸ hs.nodup
      drawn := by
        rw [hdeliveries, hissued]
        exact hs.drawn
      sound := fun d => hview d ▸ hs.sound d }
  guar _ _ d _ := hview d

/-- A step that changes one delivery, which nobody else holds. -/
theorem within_only (hs : Fine p asked ids s) (huuid : t.uuid = s.uuid)
    (hissued : t.issued = s.issued)
    (hdeliveries : t.deliveries.map NotificationDelivery.id =
      s.deliveries.map NotificationDelivery.id) (hview : ∀ d' ≠ d, view t d' = view s d')
    (hsound : Sound p asked d (view t d)) (hfree : ∀ j ≠ i, ¬ Holds ids j d (view s d).job) :
    Prog.Within (Fine p asked ids) (holding (Keeps ids) i : Contract _ NotificationStep) s t where
  inv :=
    { uuid := huuid.trans hs.uuid
      nodup := hdeliveries ▸ hs.nodup
      drawn := by
        rw [hdeliveries, hissued]
        exact hs.drawn
      sound := fun d' => by
        by_cases hd : d' = d
        · exact hd ▸ hsound
        · exact hview d' hd ▸ hs.sound d' }
  guar j hj d' hd' := by
    refine hview d' fun hd => ?_
    subst hd
    exact hfree j hj hd'

theorem Holds.free (hids : Distinguished ids) (hi : Holds ids i d job) :
    ∀ j ≠ i, ¬ Holds ids j d job := fun _ hj hholds => hj (hi.unique hids hholds)

/-- Nobody holds a job that waits. -/
theorem not_holds_of_waiting {j : Job ι} (hj : j.state.isWaiting) : ¬ Holds ids i d (some j) := by
  rintro (_ | ⟨_, hactive⟩)
  rw [hactive] at hj
  exact Bool.false_ne_true hj

end Holders

/-! ## Attempts, by whoever holds the delivery -/

section Attempt

variable {ι : Type} {ids : ι → Nat → Uuid} {p : Platform} {asked : SendNotificationInput → Prop}
  {i : ι} {d : Uuid} {s t : Store ι} {job : Option (Job ι)} {input : SendNotificationInput}
  {row : NotificationDelivery} {wire : List Handed}

/-- What an attempt leaves. -/
inductive Attempted (input : SendNotificationInput) (row : NotificationDelivery)
    (wire : List Handed) (job : Option (Job ι)) : Except HttpError AdapterResult → View ι → Prop
  | done (h : Handed) (now : Int) (hcarries : Carries input h) :
    Attempted input row wire job (.ok h.result)
      ⟨some (row.attempted h.result now), wire ++ [h], job⟩
  | unwritten (e : HttpError) (h : Handed) (hcarries : Carries input h) :
    Attempted input row wire job (.error e) ⟨some row, wire ++ [h], job⟩
  | refused (e : HttpError) : Attempted input row wire job (.error e) ⟨some row, wire, job⟩

theorem holds_attemptDelivery (hids : Distinguished ids) {channel : NotificationChannel}
    {args : NotificationSendArgs} (hview : view s d = ⟨some row, wire, job⟩)
    (hholds : Holds ids i d job) (hrec : Recorded p asked d input row wire job)
    (hready : Ready row wire) (hroom : Room wire job)
    (hcarries : ∀ result, Carries input ⟨d, channel, args, result⟩) :
    (attemptDelivery p d channel args).Holds (Fine p asked ids) (Keeps ids) i
      (fun r t => Attempted input row wire job r (view t d)) s := by
  have hkept : ∀ {s t : Store ι} {row wire}, view s d = ⟨some row, wire, job⟩ →
      Keeps ids i s t → view t d = ⟨some row, wire, job⟩ := fun hs hst =>
    (hst d (by rw [hs]; exact hholds)).trans hs
  have hfree : ∀ {s : Store ι} {row wire}, view s d = ⟨some row, wire, job⟩ →
      ∀ j ≠ i, ¬ Holds ids j d (view s d).job := fun hs => by
    rw [hs]
    exact hholds.free hids
  refine Prog.Assures.act_then (closed_keeps i) (fun t hst ht _ => ?_) fun t hst => ?_
  · -- the adapter is called
    have htd := hkept hview hst
    let h : Handed := ⟨d, channel, args, adapterSend p channel args (t.answers t.wire.length)⟩
    have hhanded : view { t with wire := t.wire ++ [h] } d = ⟨some row, wire ++ [h], job⟩ :=
      (view_handed h).trans (by rw [htd])
    have hrec' := hrec.handed hready hroom (hcarries h.result)
    refine ⟨within_only ht rfl rfl rfl (fun d' hd' => view_handed_of_ne h hd')
      (by rw [hhanded]; exact ⟨input, hrec'⟩) (hfree htd), ?_⟩
    -- and the row is updated
    refine Prog.Assures.attempt_then (closed_keeps i) (fun u b v htu hu _ hupdate => ?_)
      (fun u _ hu _ _ => within_same hu rfl rfl rfl fun _ => rfl) fun u htu => ?_
    · have hud := hkept hhanded htu
      obtain ⟨_, -, hpair⟩ := Option.map_eq_some_iff.mp hupdate
      obtain ⟨rfl, rfl⟩ := Prod.mk.inj hpair
      have hattempted : view (u.attempted d h.result) d =
          ⟨some (row.attempted h.result u.now), wire ++ [h], job⟩ :=
        (view_attempted h.result).trans (by rw [hud]; rfl)
      have hrec'' := hrec.attempted hready hroom (hcarries h.result) u.now
      refine ⟨within_only (t := u.attempted d h.result) hu rfl rfl (Table.map_modify fun _ => rfl)
        (fun d' hd' => view_attempted_of_ne _ hd')
        (by rw [hattempted]; exact ⟨input, hrec''⟩) (hfree hud), ?_⟩
      refine Prog.Assures.pure fun w hw => ?_
      rw [hkept hattempted hw]
      exact .done h u.now (hcarries _)
    · rw [hkept hhanded htu]
      exact .unwritten _ h (hcarries _)
  · rw [hkept hview hst]
    exact .refused _

/-! ## Senders -/

theorem fresh_id (hids : Distinguished ids) (hs : Fine p asked ids s) (i : ι) :
    s.uuid i (s.issued i) ∉ s.deliveries.map NotificationDelivery.id := by
  intro hmem
  obtain ⟨j, n, hn, hid⟩ := hs.drawn _ hmem
  rw [hs.uuid] at hid
  obtain ⟨rfl, rfl⟩ := hids _ _ _ _ hid
  exact lt_irrefl _ hn

/-- Nothing is known of an id that has not been drawn. -/
theorem view_fresh (hids : Distinguished ids) (hs : Fine p asked ids s) (i : ι) :
    view s (s.uuid i (s.issued i)) = ⟨none, [], none⟩ := by
  have hsound := hs.sound (s.uuid i (s.issued i))
  have hrow : (view s (s.uuid i (s.issued i))).row = none := by
    rw [view, Table.find_eq_none_iff.mpr (fresh_id hids hs i)]
    rfl
  rw [Sound, hrow] at hsound
  generalize view s (s.uuid i (s.issued i)) = v at hrow hsound
  obtain ⟨row, wire, job⟩ := v
  obtain rfl : row = none := hrow
  obtain ⟨rfl, rfl⟩ := hsound
  rfl

theorem recorded_new (hasked : asked input) (d : Uuid) :
    Recorded p asked d input (newDelivery p input d) [] (none : Option (Job ι)) where
  asked := hasked
  original := rfl
  carries := nofun
  truthful := ⟨Nat.le_refl 0, fun _ => rfl, fun h => absurd h (lt_irrefl 0), by
    show (none : Option Int).isSome ↔ NotificationDeliveryStatus.pending = .sent
    simp⟩
  accounted := Nat.zero_le _
  unqueued _ := Nat.zero_le _
  queued := nofun

variable [DecidableEq ι]

theorem view_created (hids : Distinguished ids) (hs : Fine p asked ids s) (i : ι)
    (input : SendNotificationInput) :
    view (s.created p i input) (s.uuid i (s.issued i)) =
      ⟨some (newDelivery p input (s.uuid i (s.issued i))), [], none⟩ := by
  have hrow : (view (s.created p i input) (s.uuid i (s.issued i))).row =
      some (newDelivery p input (s.uuid i (s.issued i))) := by
    have hfind : Table.find NotificationDelivery.id (s.uuid i (s.issued i))
        (s.created p i input).deliveries = some (newDelivery p input (s.uuid i (s.issued i))) :=
      Table.find_append_new (r := newDelivery p input (s.uuid i (s.issued i)))
        (fresh_id hids hs i)
    rw [view, hfind]
    rfl
  exact (congrArg (fun row => { view s (s.uuid i (s.issued i)) with row }) hrow).trans
    (by rw [view_fresh hids hs])

theorem within_created (hids : Distinguished ids) (hs : Fine p asked ids s) (hasked : asked input) :
    Prog.Within (Fine p asked ids) (holding (Keeps ids) i : Contract _ NotificationStep) s
      (s.created p i input) := by
  have hothers : ∀ d ≠ s.uuid i (s.issued i), view (s.created p i input) d = view s d := by
    intro d hd
    have hfind : Table.find NotificationDelivery.id d (s.created p i input).deliveries =
        Table.find NotificationDelivery.id d s.deliveries :=
      find_create_of_ne (r := newDelivery p input (s.uuid i (s.issued i))) hd
    exact congrArg (fun row : Option NotificationDelivery =>
      { view s d with row := row.map NotificationDelivery.unread }) hfind
  refine ⟨⟨hs.uuid, Table.nodup_append_new hs.nodup (fresh_id hids hs i), ?_, fun d => ?_⟩, ?_⟩
  · intro id hid
    have hissued : ∀ j, s.issued j ≤ (s.created p i input).issued j := by
      intro j
      show s.issued j ≤ Function.update s.issued i (s.issued i + 1) j
      rw [Function.update_apply]
      split
      · next hj => exact hj ▸ Nat.le_succ _
      · exact Nat.le_refl _
    rw [Store.created, List.map_append, List.mem_append] at hid
    rcases hid with hold | hnew
    · obtain ⟨j, n, hn, hid⟩ := hs.drawn id hold
      exact ⟨j, n, hn.trans_le (hissued j), hid⟩
    · refine ⟨i, s.issued i, ?_, ?_⟩
      · show s.issued i < Function.update s.issued i (s.issued i + 1) i
        rw [Function.update_self]
        exact Nat.lt_succ_self _
      · exact (List.mem_singleton.mp hnew).trans (congrFun (congrFun hs.uuid _) _)
  · by_cases hd : d = s.uuid i (s.issued i)
    · subst hd
      rw [view_created hids hs]
      exact ⟨input, recorded_new hasked _⟩
    · exact hothers d hd ▸ hs.sound d
  · intro j hj d hd
    refine hothers d fun hdrawn => ?_
    subst hdrawn
    rw [view_fresh hids hs] at hd
    cases hd with
    | sender n hn =>
      exact hj (hids _ _ _ _ ((congrFun (congrFun hs.uuid _) _).symm.trans hn)).1.symm

omit [DecidableEq ι] in
/-- A job is added for a delivery that has none. -/
theorem holds_addJob (hids : Distinguished ids) (hview : view s d = ⟨some row, wire, none⟩)
    (hholds : Holds ids i d (none : Option (Job ι)))
    (hrec : Recorded p asked d input row wire (none : Option (Job ι)))
    (hretriable : Retriable row wire) :
    (addJob (retryPayload d input)).Holds (Fine p asked ids) (Keeps ids) i
      (fun _ _ => True) s := by
  refine Prog.Assures.act (closed_keeps i) (fun t hst ht _ => ?_) fun _ _ => trivial
  have htd : view t d = ⟨some row, wire, none⟩ :=
    (hst d (by rw [hview]; exact hholds)).trans hview
  have hnone : Table.find Job.id (retryJobId d) t.jobs = none := congrArg View.job htd
  let job : Job ι := ⟨retryPayload d input, 0, .waiting⟩
  let u : Store ι := { t with jobs := t.jobs ++ [job] }
  have hadded : t.add (retryPayload d input) = u := by
    rw [Store.add, show Table.find Job.id
      (retryJobId (retryPayload d input).deliveryId) t.jobs = none from hnone]
  have hfind : ∀ d', Table.find Job.id (retryJobId d') u.jobs =
      (Table.find Job.id (retryJobId d') t.jobs).or
        (if retryJobId d = retryJobId d' then some job else none) :=
    fun d' => Table.find_append_singleton
  have hud : view u d = ⟨some row, wire, some job⟩ := by
    have hjob : (view u d).job = some job := by
      rw [view, hfind, hnone, if_pos rfl]
      rfl
    exact (congrArg (fun job => { view t d with job }) hjob).trans (by rw [htd])
  have hlength := hrec.unqueued rfl
  have hqueued : Queued d input row wire job :=
    { data := rfl
      waiting := fun _ => ⟨hretriable, hlength, Nat.zero_lt_succ 2⟩
      bound := hlength.trans (by decide) }
  refine ⟨?_, fun _ _ => trivial⟩
  dsimp only
  rw [hadded]
  refine within_only (d := d) ht rfl rfl rfl (fun d' hd' => ?_) ?_ ?_
  · have hjob : (view u d').job = (view t d').job := by
      rw [view, hfind, if_neg fun h => hd' (retryJobId_injective h).symm, Option.or_none]
      rfl
    exact congrArg (fun job => { view t d' with job }) hjob
  · rw [hud]
    exact ⟨input, hrec.withJob hqueued⟩
  · rw [htd]
    exact hholds.free hids

theorem holds_send (hids : Distinguished ids) (hasked : asked input) :
    (send p i input).Holds (Fine p asked ids) (Keeps ids) i (fun _ _ => True) s := by
  refine Prog.Assures.act_then (closed_keeps i) (fun t _ ht _ => ?_) fun _ _ => trivial
  refine ⟨within_created hids ht hasked, ?_⟩
  have hholds : Holds ids i (t.uuid i (t.issued i)) (none : Option (Job ι)) :=
    .sender _ (congrFun (congrFun ht.uuid _) _)
  have hnew := recorded_new (p := p) (ι := ι) hasked (t.uuid i (t.issued i))
  have hready : Ready (newDelivery p input (t.uuid i (t.issued i))) [] := ⟨Nat.le_refl 0, rfl⟩
  have hroom : Room [] (none : Option (Job ι)) := ⟨by decide, fun _ => rfl, nofun⟩
  have hcarries : ∀ result, Carries input
      ⟨t.uuid i (t.issued i), input.channel, input.toNotificationSendArgs, result⟩ :=
    fun _ => ⟨rfl, rfl, rfl, rfl, .inl rfl⟩
  have hattempt := holds_attemptDelivery hids (view_created hids ht i input) hholds hnew hready
    hroom hcarries
  refine Prog.Assures.bind (closed_keeps i) hattempt (fun res u hu => ?_) fun _ _ _ => trivial
  generalize hud : view u (t.uuid i (t.issued i)) = v at hu
  cases hu with
  | done h now hcarries =>
    have hrec := hnew.attempted hready hroom hcarries now
    dsimp only
    split
    · next hfailing =>
      have henqueue : (enqueue p (retryPayload (t.uuid i (t.issued i)) input)).Holds
          (Fine p asked ids) (Keeps ids) i (fun _ _ => True) u := by
        rw [enqueue]
        split
        · exact holds_addJob hids hud hholds hrec (hready.failed hfailing now)
        · exact Prog.Assures.pure fun _ _ => trivial
      exact Prog.Assures.bind (closed_keeps i) henqueue
        (fun _ _ _ => Prog.Assures.pure fun _ _ => trivial) fun _ _ _ => trivial
    · exact Prog.Assures.pure fun _ _ => trivial

/-! ## Workers -/

/-- The end of a run of a job: where it has thrown, it may be run again. -/
inductive Ran (p : Platform) (asked : SendNotificationInput → Prop) (d : Uuid)
    (input : SendNotificationInput) (job : Job ι) (made : Nat) (thrown : Prop) : View ι → Prop
  | mk (row : NotificationDelivery) (wire : List Handed)
    (hrec : Recorded p asked d input row wire (some job))
    (hthrown : thrown → Retriable row wire ∧ wire.length ≤ 2 + made) :
    Ran p asked d input job made thrown ⟨some row, wire, some job⟩

variable {job : Job ι} {made : Nat}

omit [DecidableEq ι] in
theorem Ran.job_eq {thrown : Prop} {v : View ι} (h : Ran p asked d input job made thrown v) :
    v.job = some job := by
  cases h
  rfl

omit [DecidableEq ι] in
theorem Ran.imp {thrown thrown' : Prop} {v : View ι} (h : Ran p asked d input job made thrown v)
    (himp : thrown' → thrown) : Ran p asked d input job made thrown' v := by
  cases h with
  | mk row wire hrec hthrown => exact .mk row wire hrec fun h => hthrown (himp h)

omit [DecidableEq ι] in
theorem retryFromQueue_payload (p : Platform) (d : Uuid) (input : SendNotificationInput) :
    (retryFromQueue p (retryPayload d input) : Program ι Unit) = (do
      let res ← attemptDelivery p d input.channel (retryPayload d input).args
      if res.failing then throw .internal) := by
  rw [retryFromQueue, show (retryPayload d input).channel = toQueueChannel input.channel from rfl,
    KEBAB_TO_CHANNEL_toQueueChannel]
  rfl

omit [DecidableEq ι] in
theorem holds_retryFromQueue (hids : Distinguished ids) (hactive : job.state = .active i)
    (hview : view s d = ⟨some row, wire, some job⟩)
    (hrec : Recorded p asked d input row wire (some job)) (hretriable : Retriable row wire)
    (hlength : wire.length ≤ 1 + made) (hmade : made < 3) :
    (retryFromQueue p (retryPayload d input)).Holds (Fine p asked ids) (Keeps ids) i
      (fun r t => Ran p asked d input job made (∃ e, r = .error e) (view t d)) s := by
  have hholds : Holds ids i d (some job) := .worker job hactive
  have hroom : Room wire (some job) := by
    refine ⟨by omega, nofun, fun j hj hwaiting => ?_⟩
    obtain rfl := Option.some.inj hj
    rw [hactive] at hwaiting
    exact Bool.false_ne_true hwaiting
  have hcarries : ∀ result, Carries input
      ⟨d, input.channel, (retryPayload d input).args, result⟩ :=
    fun _ => ⟨rfl, rfl, rfl, rfl, .inr rfl⟩
  have hkept : ∀ {thrown : Prop} {t u : Store ι}, Keeps ids i t u →
      Ran p asked d input job made thrown (view t d) →
        Ran p asked d input job made thrown (view u d) := by
    intro thrown t u htu hran
    rw [htu d (by rw [hran.job_eq]; exact hholds)]
    exact hran
  have hattempt := holds_attemptDelivery hids hview hholds hrec hretriable.ready hroom hcarries
  rw [retryFromQueue_payload]
  refine Prog.Assures.bind (closed_keeps i) hattempt (fun res t ht => ?_) fun e t ht => ?_
  · generalize htd : view t d = v at ht
    cases ht with
    | done h now hh =>
      have hrec' := hrec.attempted hretriable.ready hroom hh now
      have hran : Ran p asked d input job made h.result.failing (view t d) := by
        rw [htd]
        refine .mk _ _ hrec' fun hfailing => ⟨hretriable.ready.failed hfailing now, ?_⟩
        rw [List.length_append, List.length_singleton]
        omega
      split
      · next hfailing =>
        exact Prog.Assures.throw fun u hu => (hkept hu hran).imp fun _ => hfailing
      · exact Prog.Assures.pure fun u hu => (hkept hu hran).imp fun ⟨_, he⟩ => nomatch he
  · generalize view t d = v at ht
    cases ht with
    | unwritten _ h hh =>
      refine .mk _ _ (hrec.handed hretriable.ready hroom hh) fun _ => ⟨hretriable.handed h, ?_⟩
      rw [List.length_append, List.length_singleton]
      omega
    | refused =>
      exact .mk _ _ hrec fun _ => ⟨hretriable, by omega⟩

/-- The end of a run, by what `runJob` says of it. -/
def RunEnd (p : Platform) (asked : SendNotificationInput → Prop) (d : Uuid)
    (input : SendNotificationInput) (job : Job ι) (made : Nat) :
    Except HttpError Bool → View ι → Prop
  | .ok thrown, v => Ran p asked d input job made (thrown = true) v
  | .error _, v => Ran p asked d input job made True v

omit [DecidableEq ι] in
theorem holds_runJob (hids : Distinguished ids) (hactive : job.state = .active i)
    (hview : view s d = ⟨some row, wire, some job⟩)
    (hrec : Recorded p asked d input row wire (some job)) (hretriable : Retriable row wire)
    (hlength : wire.length ≤ 1 + made) (hmade : made < 3) :
    (runJob p (retryPayload d input)).Holds (Fine p asked ids) (Keeps ids) i
      (fun r t => RunEnd p asked d input job made r (view t d)) s := by
  have hkept : ∀ {thrown : Prop} {t u : Store ι}, Keeps ids i t u →
      Ran p asked d input job made thrown (view t d) →
        Ran p asked d input job made thrown (view u d) := by
    intro thrown t u htu hran
    rw [htu d (by rw [hran.job_eq]; exact .worker job hactive)]
    exact hran
  have hretry := holds_retryFromQueue hids hactive hview hrec hretriable hlength hmade
  have hbody : (retryFromQueue p (retryPayload d input) >>= fun _ => pure false).Holds
      (Fine p asked ids) (Keeps ids) i
        (fun r t => RunEnd p asked d input job made r (view t d)) s := by
    refine Prog.Assures.bind (closed_keeps i) hretry (fun _ t ht => ?_) fun e t ht => ?_
    · exact Prog.Assures.pure fun u hu =>
        (hkept hu ht).imp fun hthrown => absurd hthrown Bool.false_ne_true
    · exact ht.imp fun _ => ⟨e, rfl⟩
  refine Prog.Assures.tryCatch (closed_keeps i) hbody (fun _ _ ht => ht) fun e t ht => ?_
  exact Prog.Assures.pure fun u hu => (hkept hu ht).imp fun _ => trivial

omit [DecidableEq ι] in
theorem id_takenBy (worker : ι) (job : Job ι) : (job.takenBy worker).id = job.id := rfl

omit [DecidableEq ι] in
theorem id_after (thrown : Bool) (job : Job ι) : (job.after thrown).id = job.id := rfl

omit [DecidableEq ι] in
/-- What is known of a delivery that has a job. -/
theorem Fine.queued (hs : Fine p asked ids s) (hjob : (view s d).job = some job) :
    ∃ input row wire, view s d = ⟨some row, wire, some job⟩ ∧
      Recorded p asked d input row wire (some job) := by
  have hsound := hs.sound d
  generalize hv : view s d = v at hjob hsound
  obtain ⟨row, wire, _⟩ := v
  obtain rfl := hjob
  cases row with
  | none => exact absurd hsound.2 nofun
  | some row =>
    obtain ⟨input, hrec⟩ := hsound
    exact ⟨input, row, wire, rfl, hrec⟩

omit [DecidableEq ι] in
/-- The run of a job that is taken is settled. -/
theorem holds_settleJob (hids : Distinguished ids) {thrown : Bool}
    (hran : Ran p asked d input (job.takenBy i) job.attemptsMade (thrown = true) (view s d)) :
    (settleJob (retryJobId d) thrown).Holds (Fine p asked ids) (Keeps ids) i
      (fun _ _ => True) s := by
  refine Prog.Assures.act (closed_keeps i) (fun t hst ht _ => ⟨?_, fun _ _ => trivial⟩)
    fun _ _ => trivial
  have hholds : Holds ids i d (some (job.takenBy i)) := .worker _ rfl
  rw [← hst d (by rw [hran.job_eq]; exact hholds)] at hran
  generalize htd : view t d = v at hran
  cases hran with
  | mk row wire hrec hthrown =>
    have hview : view (t.withJob (retryJobId d) (Job.after thrown)) d =
        ⟨some row, wire, some ((job.takenBy i).after thrown)⟩ :=
      (view_withJob (id_after thrown)).trans (by rw [htd]; rfl)
    refine within_only (d := d) ht rfl rfl rfl
      (fun d' hd' => view_withJob_of_ne (id_after thrown) hd') ?_ ?_
    · rw [hview]
      exact ⟨input, hrec.withJob ((hrec.queued _ rfl).after hthrown)⟩
    · rw [htd]
      exact hholds.free hids

omit [DecidableEq ι] in
theorem holds_takeAndRun (hids : Distinguished ids) (jobId : Text) :
    (takeAndRun p i jobId).Holds (Fine p asked ids) (Keeps ids) i (fun _ _ => True) s := by
  refine Prog.Assures.act_then (closed_keeps i) (fun t _ ht _ => ?_) fun _ _ => trivial
  cases hfind : (Table.find Job.id jobId t.jobs).filter (·.state.isWaiting) with
  | none =>
    exact ⟨within_same ht rfl rfl rfl fun _ => rfl, Prog.Assures.pure fun _ _ => trivial⟩
  | some job =>
    obtain ⟨hfound, hwaiting⟩ := Option.filter_eq_some_iff.mp hfind
    have hid : job.id = jobId := Table.key_of_find hfound
    obtain rfl : retryJobId job.data.deliveryId = jobId := hid
    obtain ⟨input, row, wire, hview, hrec⟩ := ht.queued (d := job.data.deliveryId) hfound
    have hqueued := hrec.queued job rfl
    obtain ⟨hretriable, hlength, hmade⟩ := hqueued.waiting hwaiting
    have hrec' := hrec.withJob (hqueued.takenBy i)
    have htaken : view (t.withJob (retryJobId job.data.deliveryId) (Job.takenBy i))
        job.data.deliveryId = ⟨some row, wire, some (job.takenBy i)⟩ :=
      (view_withJob (id_takenBy i)).trans (by rw [hview]; rfl)
    refine ⟨within_only (d := job.data.deliveryId) ht rfl rfl rfl
      (fun d' hd' => view_withJob_of_ne (id_takenBy i) hd') ?_ ?_, ?_⟩
    · rw [htaken]
      exact ⟨input, hrec'⟩
    · rw [hview]
      exact fun _ _ => not_holds_of_waiting hwaiting
    · have hrun := holds_runJob hids rfl htaken hrec' hretriable hlength hmade
      rw [← hqueued.data] at hrun
      exact Prog.Assures.bind (closed_keeps i) hrun (fun _ u hu => holds_settleJob hids hu)
        fun _ _ _ => trivial

omit [DecidableEq ι] in
theorem holds_rounds (hids : Distinguished ids) (jobIds : List Text) :
    (rounds p i jobIds).Holds (Fine p asked ids) (Keeps ids) i (fun _ _ => True) s := by
  induction jobIds generalizing s with
  | nil => exact Prog.Assures.pure fun _ _ => trivial
  | cons jobId rest ih =>
    have hwork : (work p i jobId).Holds (Fine p asked ids) (Keeps ids) i (fun _ _ => True) s :=
      Prog.Assures.tryCatch (closed_keeps i) (holds_takeAndRun hids jobId) (fun _ _ _ => trivial)
        fun _ _ _ => Prog.Assures.pure fun _ _ => trivial
    exact Prog.Assures.bind (closed_keeps i) hwork (fun _ _ _ => ih) fun _ _ _ => trivial

/-! ## Runs -/

/-- Some process sends the notification. -/
def Asked (processes : ι → Process) (input : SendNotificationInput) : Prop :=
  ∃ i, processes i = .sender input

theorem holds_program (hids : Distinguished ids) {processes : ι → Process} (i : ι) :
    ((processes i).program p i).Holds (Fine p (Asked processes) ids) (Keeps ids) i
      (fun _ _ => True) s := by
  cases hprocess : processes i with
  | sender input =>
    exact Prog.Assures.bind (closed_keeps i) (holds_send hids ⟨i, hprocess⟩)
      (fun _ _ _ => Prog.Assures.pure fun _ _ => trivial) fun _ _ _ => trivial
  | worker jobIds => exact holds_rounds hids jobIds
  | reader deliveryId userId =>
    refine Prog.Assures.act (closed_keeps i) (fun t _ ht _ => ⟨?_, fun _ _ => trivial⟩)
      fun _ _ => trivial
    refine within_same ht rfl rfl ?_ fun d => ?_
    · dsimp only
      rw [List.map_map]
      refine List.map_congr_left fun row _ => ?_
      rw [Function.comp_apply]
      split <;> rfl
    · exact congrArg (fun row => { view t d with row }) (find_read userId t.now)
  | clock now =>
    exact Prog.Assures.act (closed_keeps i) (fun t _ ht _ =>
      ⟨within_same ht rfl rfl rfl fun _ => rfl, fun _ _ => trivial⟩) fun _ _ => trivial

/-- A store that has no notifications yet. -/
structure Started (ids : ι → Nat → Uuid) (s : Store ι) : Prop where
  uuid : s.uuid = ids
  deliveries : s.deliveries = []
  wire : s.wire = []
  jobs : s.jobs = []

omit [DecidableEq ι] in
theorem Started.fine (hs : Started ids s) : Fine p asked ids s where
  uuid := hs.uuid
  nodup := by
    rw [hs.deliveries]
    exact .nil
  drawn := by
    rw [hs.deliveries]
    exact nofun
  sound d := by
    have hview : view s d = ⟨none, [], none⟩ := by
      rw [view, hs.deliveries, hs.wire, hs.jobs]
      rfl
    rw [hview]
    exact ⟨rfl, rfl⟩

variable {processes : ι → Process} {u : Pool ι (Store ι) (Program ι Unit)}

theorem run_fine (hids : Distinguished ids) (hs : Started ids s)
    (hrun : Pool.Run (Prog.interleaved fun _ _ => True) (running p processes s) u) :
    Fine p (Asked processes) ids u.shared :=
  Run.holding (fun _ _ _ => True) closed_keeps hrun hs.fine fun i => holds_program hids i

omit [DecidableEq ι] in
/-- What is known of a row. -/
theorem Fine.recorded (hs : Fine p asked ids s) {row : NotificationDelivery}
    (hrow : row ∈ s.deliveries) : ∃ input,
      Recorded p asked row.id input row.unread (Table.owned Handed.deliveryId row.id s.wire)
        (view s row.id).job := by
  have hsound := hs.sound row.id
  have hfind : (view s row.id).row = some row.unread := by
    rw [view, (Table.find_eq_some_iff hs.nodup).mpr ⟨hrow, rfl⟩]
    rfl
  rw [Sound, hfind] at hsound
  exact hsound

def samplePlatform : Platform where
  configured _ := true
  redis := true
  sha256 := id

def sampleInput : SendNotificationInput where
  recipient := "titus@example.com"
  subject := "Heads up"
  body := "Pending review"
  metadata := none
  channel := .email
  tenantId := none
  userId := none
  templateKey := "trusted-contact.review-request"
  relatedRiskEventId := none
  relatedEvidenceId := none

/-- The id of a process: a sender has the first one. -/
def sampleIds : Bool → Nat → Uuid :=
  unaryThen (0x30 : CodeUnit) 0x31 fun i => if i then utf16 "sender" else utf16 "worker"

theorem sampleIds_distinguished : Distinguished sampleIds := by
  refine distinguished_unaryThen (by decide) fun i j hij => ?_
  cases i <;> cases j <;> revert hij <;> decide

/-- The provider refuses the first message, and accepts the next one. -/
def sampleAnswers : Nat → Answer
  | 0 => .error "upstream 500"
  | _ => .ok (some "sg-1")

def sampleStore : Store Bool where
  deliveries := []
  wire := []
  answers := sampleAnswers
  jobs := []
  now := 0
  uuid := sampleIds
  issued _ := 0

theorem sampleStore_started : Started sampleIds sampleStore := ⟨rfl, rfl, rfl, rfl⟩

def sampleProcesses : Bool → Process
  | true => .sender sampleInput
  | false => .worker [retryJobId (sampleIds true 0)]

/-- The worker sends what the module could not send. -/
def sampleEnd : Pool Bool (Store Bool) (Program Bool Unit) :=
  Prog.turns (running samplePlatform sampleProcesses sampleStore) [(true, 4), (false, 4)]

def sampleRow : NotificationDelivery :=
  ((newDelivery samplePlatform sampleInput (sampleIds true 0)).attempted
    (.failed "upstream 500") 0).attempted (.sent (some "sg-1")) 0

/-- **Four attempts, one acceptance**: a notification is handed over four times at most, and is
accepted by its provider once at most, but for attempts whose outcome could not be written. -/
theorem handed_bounded (hids : Distinguished ids) (hs : Started ids s)
    (hrun : Pool.Run (Prog.interleaved fun _ _ => True) (running p processes s) u)
    {row : NotificationDelivery} (hrow : row ∈ u.shared.deliveries) :
    let wire := Table.owned Handed.deliveryId row.id u.shared.wire
    wire.length ≤ 4 ∧ accepted wire ≤ 1 + (wire.length - row.attempts) := by
  obtain ⟨input, hrec⟩ := (run_fine hids hs hrun).recorded hrow
  have hattempts : row.attempts ≤ _ := hrec.truthful.attempts
  have haccounted : _ + row.attempts ≤ _ := hrec.accounted
  refine ⟨?_, by omega⟩
  cases hjob : (view u.shared row.id).job with
  | none => exact (hrec.unqueued hjob).trans (by decide)
  | some job => exact (hrec.queued job hjob).bound

theorem handed_bounded_sample :
    let wire := Table.owned Handed.deliveryId sampleRow.id sampleEnd.shared.wire
    wire.length ≤ 4 ∧ accepted wire ≤ 1 + (wire.length - sampleRow.attempts) :=
  handed_bounded sampleIds_distinguished sampleStore_started
    (Prog.run_turns .refl (Prog.permittedTurns_true _ _)) List.mem_cons_self

/-- **Rows tell the truth**: a row that counts no attempt is as it was created, and any other one
has the outcome of an attempt that has been made; it has been sent when it says so. -/
theorem rows_truthful (hids : Distinguished ids) (hs : Started ids s)
    (hrun : Pool.Run (Prog.interleaved fun _ _ => True) (running p processes s) u)
    {row : NotificationDelivery} (hrow : row ∈ u.shared.deliveries) :
    Truthful row.unread (Table.owned Handed.deliveryId row.id u.shared.wire) := by
  obtain ⟨input, hrec⟩ := (run_fine hids hs hrun).recorded hrow
  exact hrec.truthful

theorem rows_truthful_sample :
    Truthful sampleRow.unread (Table.owned Handed.deliveryId sampleRow.id sampleEnd.shared.wire) :=
  rows_truthful sampleIds_distinguished sampleStore_started
    (Prog.run_turns .refl (Prog.permittedTurns_true _ _)) List.mem_cons_self

/-- **A retry is the same message**: whatever is handed to an adapter has a row, and carries what
a process has sent, over the channel of the row and with its digest. -/
theorem retries_alike (hids : Distinguished ids) (hs : Started ids s)
    (hrun : Pool.Run (Prog.interleaved fun _ _ => True) (running p processes s) u)
    {h : Handed} (hhanded : h ∈ u.shared.wire) :
    ∃ i input, processes i = .sender input ∧ Carries input h ∧
      ∃ row ∈ u.shared.deliveries, row.original = newDelivery p input h.deliveryId := by
  have hsound := (run_fine hids hs hrun).sound h.deliveryId
  have hmem : h ∈ Table.owned Handed.deliveryId h.deliveryId u.shared.wire :=
    Table.mem_owned.mpr ⟨hhanded, rfl⟩
  cases hfind : Table.find NotificationDelivery.id h.deliveryId u.shared.deliveries with
  | none =>
    rw [Sound, view, hfind] at hsound
    rw [show Table.owned Handed.deliveryId h.deliveryId u.shared.wire = [] from hsound.1] at hmem
    exact absurd hmem List.not_mem_nil
  | some row =>
    rw [Sound, view, hfind] at hsound
    obtain ⟨input, hrec⟩ := hsound
    obtain ⟨i, hi⟩ := hrec.asked
    exact ⟨i, input, hi, hrec.carries h hmem, row, Table.mem_of_find hfind, hrec.original⟩

theorem retries_alike_sample :
    ∃ i input, sampleProcesses i = .sender input ∧
      Carries input ⟨sampleIds true 0, .email, sampleInput.toNotificationSendArgs,
        .failed "upstream 500"⟩ ∧
      ∃ row ∈ sampleEnd.shared.deliveries,
        row.original = newDelivery samplePlatform input (sampleIds true 0) :=
  retries_alike sampleIds_distinguished sampleStore_started
    (Prog.run_turns .refl (Prog.permittedTurns_true _ _)) List.mem_cons_self

end Attempt

end Notifications
