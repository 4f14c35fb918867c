import Vigiscam.Billing.Order
import Vigiscam.Concurrency.Once

/-!
# One delivery after the other

Deliveries of events interleave, and any step of one may fail. A delivery takes an event
up by logging it, or by finding it logged and not processed; then it writes the
subscription and at last marks the event as processed. A redelivery that comes before
the mark takes the event up again and writes the subscription a second time.

`webhook_at_most_once` is what there is instead: where an event that is logged is taken
up only while no other delivery of it has written the subscription, or is about to, the
change of each event is applied at most once.
-/

namespace Billing

open Js Value Concurrency

section Deliveries

variable (platform : Platform) (config : Config)

/-- The steps that take an event up: the event is found logged and not processed, or a row
is made for it. -/
def Takes (event : Value) : DbStep → Store → Prop
  | .findBillingEvent, s => ∃ id row, eventId platform event = some id ∧
      s.events id = some row ∧ row.processedAt = none
  | .createBillingEvent, s => ∃ id tenantId, eventId platform event = some id ∧
      s.events id = none ∧ extractTenantId event = some tenantId ∧
      (loggedEvent platform event tenantId).isSome
  | _, _ => False

/-- The step that writes what the event asks for to the subscription of its tenant. -/
def Applies (event : Value) (l : DbStep) (s : Store) : Prop :=
  l = .upsertSubscription ∧
    (asked platform config event).join.any fun change =>
      (s.upsert platform change.1 change.2).isSome

instance (event : Value) (l : DbStep) (s : Store) : Decidable (Applies platform config event l s) :=
  inferInstanceAs (Decidable (_ ∧ _))

/-- The event is logged. -/
def Logged (id : Option Text) (s : Store) : Prop := ∃ id', id = some id' ∧ (s.events id').isSome

end Deliveries

variable {platform : Platform} {config : Config} {event tenantId : Value} {now : Date}

/-! ## What the handler keeps to -/

theorem not_applies {l : DbStep} (h : l ≠ .upsertSubscription) (s : Store) :
    ¬ Applies platform config event l s := fun happlies => h happlies.1

theorem never_orThrow {α : Type} (o : Option α) :
    (orThrow o).Never (Applies platform config event) := by
  cases o <;> trivial

theorem never_recordBillingAudit (actorId : Option Uuid) (action : Text) (tid metadata : Value) :
    (recordBillingAudit platform actorId action tid metadata).Never
      (Applies platform config event) :=
  Prog.Each.tryCatch (Prog.Never.attempt (not_applies (by decide))) fun _ => Prog.Each.pure _

theorem never_updateBillingEvent (logRow : BillingEvent) (now : Date) (tid : Value) :
    (updateBillingEvent platform logRow now tid).Never (Applies platform config event) :=
  Prog.Never.attempt (not_applies (by decide))

theorem never_logEvent (id : Value) (already : Option BillingEvent) :
    (logEvent platform id event tenantId already).Never (Applies platform config event) := by
  cases already with
  | some row => trivial
  | none =>
    exact Prog.Each.bind (never_orThrow _) fun _ => Prog.Never.attempt (not_applies (by decide))

theorem once_processEvent (tid : Value) :
    (processEvent platform config event tid).AppliesOnce (Applies platform config event) := by
  obtain ⟨audit, hperform⟩ := @performs_processEvent platform config event tid
  rw [hperform]
  cases asksFor platform config event tid with
  | none => trivial
  | some change =>
    cases change with
    | none => trivial
    | some change =>
      cases audit with
      | none => exact Prog.AppliesOnce.attempt ..
      | some metadata =>
        exact Prog.AppliesOnce.bind_left (Prog.AppliesOnce.attempt ..) fun _ =>
          never_recordBillingAudit ..

/-- A delivery writes the subscription at most once. -/
theorem once_handleWebhook : (handleWebhook platform config now event).AppliesOnce
    (Applies platform config event) := by
  refine Prog.AppliesOnce.bind_right (never_orThrow _) fun id => ?_
  refine Prog.AppliesOnce.bind_right (Prog.Never.attempt (not_applies (by decide)))
    fun already => ?_
  split
  · trivial
  · refine Prog.AppliesOnce.bind_right (never_orThrow _) fun tid => ?_
    refine Prog.AppliesOnce.bind_right (never_logEvent ..) fun logRow => ?_
    refine Prog.AppliesOnce.bind_left (once_processEvent tid) fun _ => ?_
    exact Prog.Each.bind (never_updateBillingEvent ..) fun _ => Prog.Each.pure _

/-- The row of an event is made once. -/
theorem takesFirst_logEvent {v tid : Value} {k : BillingEvent → Program WebhookResult}
    (hv : event.get "id" = some v) (htid : extractTenantId event = some tid) :
    (logEvent platform v event tid none >>= k).TakesFirst (Takes platform event)
      (Applies platform config event) := by
  unfold logEvent
  cases htype : event.get "type" with
  | none => trivial
  | some type =>
    refine Prog.TakesFirst.attempt_bind (not_applies (by decide)) fun s row s' hcreate => ?_
    -- the insert that succeeds is what takes the event up: its id was free
    refine Or.inl ?_
    simp only [Option.bind_eq_bind, Option.bind_eq_some_iff] at hcreate
    obtain ⟨row', hnew, hcreate⟩ := hcreate
    have hid : eventId platform event = some row'.stripeEventId := by
      rw [eventId, hv, Option.bind_some, stripeEventId_newBillingEvent hnew]
    refine ⟨row'.stripeEventId, tid, hid, ?_, htid, ?_⟩
    · cases hrow : s.events row'.stripeEventId with
      | none => rfl
      | some _ =>
        rw [hrow] at hcreate
        cases hcreate
    · simp only [loggedEvent, hv, htype, hnew, Option.bind_eq_bind, Option.bind_some,
        Option.isSome_some]

/-- A delivery takes its event up before it writes the subscription. -/
theorem takesFirst_handleWebhook : (handleWebhook platform config now event).TakesFirst
    (Takes platform event) (Applies platform config event) := by
  unfold handleWebhook
  cases hv : event.get "id" with
  | none => trivial
  | some v =>
    refine Prog.TakesFirst.attempt_bind (not_applies (by decide)) fun s already s' hfind => ?_
    obtain ⟨id, hid, hpair⟩ := Option.map_eq_some_iff.mp hfind
    obtain ⟨rfl, rfl⟩ := Prod.mk.inj hpair
    have heventId : eventId platform event = some id := by
      rw [eventId, hv, Option.bind_some, hid]
    cases hrow : s.events id with
    | some row =>
      cases hprocessed : row.processedAt with
      | none => exact Or.inl ⟨id, row, heventId, hrow, hprocessed⟩
      | some date =>
        -- a redelivery: nothing is done
        refine Or.inr ?_
        rw [Option.bind_some, hprocessed, Option.isSome_some, if_pos rfl]
        trivial
    | none =>
      refine Or.inr ?_
      rw [Option.bind_none, Option.isSome_none, if_neg Bool.false_ne_true]
      cases htid : extractTenantId event with
      | none => trivial
      | some tid => exact takesFirst_logEvent hv htid

/-! ## The log of events grows -/

/-- What is logged stays, and an event that is taken up is logged. -/
def Logs (platform : Platform) (event : Value) (l : DbStep) (s s' : Store) : Prop :=
  (Takes platform event l s → Logged (eventId platform event) s') ∧
    ∀ id, Logged id s → Logged id s'

theorem logged_mono {s s' : Store} (h : ∀ id, (s.events id).isSome → (s'.events id).isSome) :
    ∀ id, Logged id s → Logged id s' := by
  rintro _ ⟨id, rfl, hid⟩
  exact ⟨id, rfl, h id hid⟩

theorem events_setEvent_isSome {s : Store} {row : BillingEvent} {id : Text}
    (h : (s.events id).isSome ∨ id = row.stripeEventId) : ((s.setEvent row).events id).isSome := by
  by_cases hid : id = row.stripeEventId
  · rw [hid, Store.events_setEvent]
    rfl
  · show (Function.update s.events row.stripeEventId (some row) id).isSome
    rw [Function.update_of_ne hid]
    exact h.resolve_right hid

theorem logs_of_events {l : DbStep} {s s' : Store} (htakes : ¬ Takes platform event l s)
    (h : s'.events = s.events) : Logs platform event l s s' :=
  ⟨fun h => absurd h htakes, logged_mono fun _ hid => h ▸ hid⟩

theorem logs_findBillingEvent (v : Value) :
    (findBillingEvent platform v).Each (Logs platform event) := by
  have hsame : ∀ s, Logs platform event .findBillingEvent s s := by
    refine fun s => ⟨?_, fun _ h => h⟩
    rintro ⟨id, row, hid, hrow, -⟩
    exact ⟨id, hid, hrow ▸ rfl⟩
  refine Prog.Each.attempt (fun s already s' hfind => ?_) fun s _ => hsame s
  obtain ⟨id, -, hpair⟩ := Option.map_eq_some_iff.mp hfind
  obtain ⟨-, rfl⟩ := Prod.mk.inj hpair
  exact hsame s

theorem logs_upsertSubscription (tid : Value) (data : SubscriptionData) :
    (upsertSubscription platform tid data).Each (Logs platform event) := by
  refine Prog.Each.attempt (fun s _ s' hupsert => ?_) fun s _ => logs_of_events (fun h => h) rfl
  obtain ⟨t, ht, hpair⟩ := Option.map_eq_some_iff.mp hupsert
  obtain ⟨-, rfl⟩ := Prod.mk.inj hpair
  exact logs_of_events (fun h => h) (events_upsert ht)

theorem logs_recordBillingAudit (actorId : Option Uuid) (action : Text) (tid metadata : Value) :
    (recordBillingAudit platform actorId action tid metadata).Each (Logs platform event) := by
  refine Prog.Each.tryCatch (Prog.Each.attempt (fun s _ s' haudit => ?_) fun s _ =>
    logs_of_events (fun h => h) rfl) fun _ => Prog.Each.pure _
  obtain ⟨row, -, hpair⟩ := Option.map_eq_some_iff.mp haudit
  obtain ⟨-, rfl⟩ := Prod.mk.inj hpair
  exact logs_of_events (fun h => h) rfl

theorem logs_updateBillingEvent (logRow : BillingEvent) (tid : Value) :
    (updateBillingEvent platform logRow now tid).Each (Logs platform event) := by
  refine Prog.Each.attempt (fun s _ s' hupdate => ?_) fun s _ => logs_of_events (fun h => h) rfl
  simp only [Option.bind_eq_bind, Option.bind_eq_some_iff, Option.pure_def, Option.some.injEq,
    Prod.mk.injEq] at hupdate
  obtain ⟨row, -, named, -, -, rfl⟩ := hupdate
  exact ⟨fun h => h.elim, logged_mono fun _ hid => events_setEvent_isSome (Or.inl hid)⟩

theorem logs_createBillingEvent {v type tid : Value} (hv : event.get "id" = some v)
    (htype : event.get "type" = some type) (htid : extractTenantId event = some tid) :
    (createBillingEvent platform v type tid event).Each (Logs platform event) := by
  refine Prog.Each.attempt (fun s row s' hcreate => ?_) fun s hcreate => ?_
  · simp only [Option.bind_eq_bind, Option.bind_eq_some_iff] at hcreate
    obtain ⟨row', hnew, hcreate⟩ := hcreate
    split at hcreate
    · cases hcreate
    · obtain ⟨-, rfl⟩ := Prod.mk.inj (Option.some.inj hcreate)
      refine ⟨fun _ => ⟨row'.stripeEventId, ?_, events_setEvent_isSome (Or.inr rfl)⟩,
        logged_mono fun id hid => events_setEvent_isSome (Or.inl hid)⟩
      rw [eventId, hv, Option.bind_some, stripeEventId_newBillingEvent hnew]
  · -- a row that can be made, and is not there, is made
    refine ⟨?_, fun _ h => h⟩
    rintro ⟨id, tid', hid, hrow, htid', hlogged⟩
    obtain rfl : tid = tid' := Option.some.inj (htid.symm.trans htid')
    simp only [loggedEvent, hv, htype, Option.bind_eq_bind, Option.bind_some] at hlogged
    obtain ⟨row, hnew⟩ := Option.isSome_iff_exists.mp hlogged
    rw [eventId, hv, Option.bind_some, stripeEventId_newBillingEvent hnew] at hid
    obtain rfl := Option.some.inj hid
    simp only [hnew, hrow, Option.bind_eq_bind, Option.bind_some] at hcreate
    cases hcreate

theorem logs_processEvent (tid : Value) :
    (processEvent platform config event tid).Each (Logs platform event) := by
  obtain ⟨audit, hperform⟩ := @performs_processEvent platform config event tid
  rw [hperform]
  cases asksFor platform config event tid with
  | none => trivial
  | some change =>
    cases change with
    | none => trivial
    | some change =>
      cases audit with
      | none => exact logs_upsertSubscription ..
      | some metadata =>
        exact Prog.Each.bind (logs_upsertSubscription ..) fun _ => logs_recordBillingAudit ..

theorem logs_handleWebhook : (handleWebhook platform config now event).Each
    (Logs platform event) := by
  have hrest : ∀ logRow tid, (do
      processEvent platform config event tid
      updateBillingEvent platform logRow now tid
      return { received := true, deduped := false } : Program WebhookResult).Each
        (Logs platform event) := fun logRow tid =>
    Prog.Each.bind (logs_processEvent tid) fun _ =>
      Prog.Each.bind (logs_updateBillingEvent logRow tid) fun _ => Prog.Each.pure _
  unfold handleWebhook
  cases hv : event.get "id" with
  | none => trivial
  | some v =>
    show (findBillingEvent platform v >>= _).Each _
    refine Prog.Each.bind (logs_findBillingEvent v) fun already => ?_
    split
    · exact Prog.Each.pure _
    · -- the event is not processed yet: new, or logged by a delivery that did not come to its end
      cases htid : extractTenantId event with
      | none => trivial
      | some tid =>
        show (logEvent platform v event tid already >>= _).Each _
        refine Prog.Each.bind ?_ fun logRow => hrest logRow tid
        cases already with
        | some row => trivial
        | none =>
          cases htype : event.get "type" with
          | none =>
            unfold logEvent
            rw [htype]
            trivial
          | some type =>
            unfold logEvent
            rw [htype]
            exact logs_createBillingEvent hv htype htid

theorem disciplined_handleWebhook {ι : Type} {events : ι → Value} (i : ι) (now : Date) :
    Disciplined (fun i => Takes platform (events i)) (fun i => Applies platform config (events i))
      (fun i => eventId platform (events i)) Logged i
      (handleWebhook platform config now (events i)) where
  once := once_handleWebhook
  holds := logs_handleWebhook

/-! ## Many deliveries -/

/-- Deliveries that may interleave: each one has its event and the time of its end, and
at first nothing is applied. -/
def deliveries {ι : Type} (platform : Platform) (config : Config) (delivery : ι → Delivery)
    (s : Store) : Pool ι (Store × List ι) (Program WebhookResult) where
  shared := (s, [])
  locals i := handleWebhook platform config (delivery i).now (delivery i).event

/-- The steps of the deliveries that write the subscription. -/
abbrev Writes {ι : Type} (platform : Platform) (config : Config) (delivery : ι → Delivery) :
    ι → DbStep → Store → Prop :=
  fun i => Applies platform config (delivery i).event

/-- Where the step takes up an event that is logged, no other delivery of the event has
written the subscription, or may yet write it without looking at the log again. -/
def RetriesAlone {ι : Type} (platform : Platform) (config : Config) (delivery : ι → Delivery) :
    ι → Pool ι (Store × List ι) (Program WebhookResult) →
      Pool ι (Store × List ι) (Program WebhookResult) → Prop :=
  TakesAlone (fun i => Takes platform (delivery i).event) (Writes platform config delivery)
    (fun i => eventId platform (delivery i).event) Logged

/-- **Each event is applied at most once**, in every interleaving and with any failing
steps, where a logged event is taken up only while no other delivery of it has applied
it, or is about to. -/
theorem webhook_at_most_once {ι : Type} [DecidableEq ι] {delivery : ι → Delivery} {s : Store}
    {t : Pool ι (Store × List ι) (Program WebhookResult)}
    (hrun : Pool.RunWhere (Counted (Writes platform config delivery))
      (RetriesAlone platform config delivery) (deliveries platform config delivery s) t) :
    (t.shared.2.map fun i => eventId platform (delivery i).event).Nodup :=
  RunWhere.at_most_once hrun rfl (fun i => disciplined_handleWebhook i _)
    fun _ => takesFirst_handleWebhook

/-! ### Redeliveries -/

/-- The new subscription is delivered twice. -/
def twice : Fin 2 → Delivery
  | 0 => subscribed
  | 1 => subscribed

/-- A delivery that could not write the subscription has ended, and is retried. -/
theorem webhook_at_most_once_retried :
    ∃ t, Pool.RunWhere (Counted (Writes unsignedPlatform liveConfig twice))
        (RetriesAlone unsignedPlatform liveConfig twice)
        (deliveries unsignedPlatform liveConfig twice tenantStore) t ∧
      t.shared.2 = [1] ∧
      (t.shared.2.map fun i => eventId unsignedPlatform (twice i).event).Nodup := by
  let start := deliveries unsignedPlatform liveConfig twice tenantStore
  let writes := Writes unsignedPlatform liveConfig twice
  have hstart : ∀ j, j ≠ 0 → eventId unsignedPlatform (twice j).event
      = eventId unsignedPlatform (twice 0).event →
        ¬ Busy (fun i => Takes unsignedPlatform (twice i).event) writes start j := by
    rintro j - - (hbusy | hbusy)
    · exact hbusy takesFirst_handleWebhook
    · cases hbusy
  -- the first delivery logs the event, and cannot write the subscription
  let failed := (start.advanced writes 0 2).failed 0
  have hfirst : Pool.Solo (Counted writes) 0 start failed :=
    Relation.ReflTransGen.trans (solo_advanced 0 2 start) (solo_failed 0 _)
  have hfailed : ∀ j, j ≠ 1 → eventId unsignedPlatform (twice j).event
      = eventId unsignedPlatform (twice 1).event →
        ¬ Busy (fun i => Takes unsignedPlatform (twice i).event) writes failed j := by
    intro j hj _
    obtain rfl : j = 0 := by omega
    exact not_busy_of_ended (by decide +kernel) (by decide +kernel)
  have hrun : Pool.RunWhere (Counted writes) (RetriesAlone unsignedPlatform liveConfig twice)
      start (failed.advanced writes 1 9) :=
    (Solo.runWhere hfirst hstart).1.trans (Solo.runWhere (solo_advanced 1 9 _) hfailed).1
  exact ⟨_, hrun, by decide +kernel, webhook_at_most_once hrun⟩

/-- A new subscription, its end, and the new subscription again. -/
def replayed : Fin 3 → Delivery
  | 0 => subscribed
  | 1 => deleted
  | 2 => subscribed

/-- A delivery that could not mark its event is retried: the event is applied again, after
the subscription has ended. -/
theorem redelivery_applies_twice :
    ∃ t, Pool.Run (Counted (Writes unsignedPlatform liveConfig replayed))
        (deliveries unsignedPlatform liveConfig replayed tenantStore) t ∧
      ¬ (t.shared.2.map fun i => eventId unsignedPlatform (replayed i).event).Nodup ∧
      (t.shared.1.subscriptions "t").map (fun row => (row.plan, row.status))
        = some (.premiumShield, .active) := by
  let start := deliveries unsignedPlatform liveConfig replayed tenantStore
  let writes := Writes unsignedPlatform liveConfig replayed
  refine ⟨((((start.advanced writes 0 4).failed 0).advanced writes 1 9).advanced writes 2 9),
    ?_, ?_, ?_⟩
  · refine (solo_advanced 0 4 _).run.trans ((solo_failed 0 _).run.trans ?_)
    exact (solo_advanced 1 9 _).run.trans (solo_advanced 2 9 _).run
  · decide +kernel
  · decide +kernel

end Billing
