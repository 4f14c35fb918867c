import Vigiscam.Billing.Service

/-!
# Only Stripe drives the webhook

With a client and a webhook secret configured, a request should have an effect only
where Stripe's `constructEvent` accepted exactly its body with its header
(`Authentic`). A request whose signature header is missing or empty is not checked at
all: its body is parsed and handled as an event.

`Acted` lists the events that the handler does not turn away before its first write, and
`run_handleWebhook_refused_iff` that these are all. `webhook_authentic_iff` then says
exactly for which requests the endpoint keeps to what Stripe accepted: the header is
there, or the body is none that the handler acts on.
-/

namespace Billing

open Js Value Concurrency

variable {platform : Platform} {config : Config} {now : Date} {s s' : Store} {event : Value}

/-! ## What an event asks for -/

/-- The subscription an event is about, and what is written to it: `none` where computing
it throws, `some none` where the event changes nothing. -/
def asksFor (platform : Platform) (config : Config) (event tenantId : Value) :
    Option (Option (Value × SubscriptionData)) := do
  let type ← event.get "type"
  if type.isText "checkout.session.completed" then
    let session ← objectOf event
    let tid ← tenantOf session tenantId
    let state ← checkoutState tid session
    return state.map (tid, ·)
  else if type.isText "customer.subscription.created" || type.isText "customer.subscription.updated"
      || type.isText "customer.subscription.deleted" then
    let sub ← objectOf event
    let tid ← tenantOf sub tenantId
    if tid.truthy then
      let state ← subscriptionState platform config sub
        (type.isText "customer.subscription.deleted")
      return some (tid, state)
    else return none
  else if type.printable then return none else none

/-- The tenant that the `switch` finds is the one that was extracted before. -/
theorem tenantOf_eq {object tenantId tid : Value} (hextract : extractTenantId event = some tenantId)
    (hobject : objectOf event = some object) (htid : tenantOf object tenantId = some tid) :
    tid = tenantId := by
  simp only [extractTenantId, hobject, Option.bind_eq_bind, Option.bind_some, Option.pure_def,
    Option.some.injEq] at hextract
  cases hmetadata : object.get "metadata" with
  | none =>
    simp only [tenantOf, hmetadata, Option.bind_eq_bind, Option.bind_none] at htid
    cases htid
  | some metadata =>
    simp only [tenantOf, hmetadata, Option.bind_eq_bind, Option.bind_some, Option.pure_def,
      Option.some.injEq] at htid
    rw [getOpt_of_get hmetadata] at hextract
    rw [← htid, ← hextract, coalesce_self]

/-- What an event asks for, it asks for the tenant that was extracted before. -/
theorem tenant_of_asksFor {tenantId tid : Value} {data : SubscriptionData}
    (hextract : extractTenantId event = some tenantId)
    (h : asksFor platform config event tenantId = some (some (tid, data))) : tid = tenantId := by
  simp only [asksFor, Option.bind_eq_bind, Option.bind_eq_some_iff, Option.pure_def] at h
  -- one case for each branch of `processEvent`
  obtain ⟨type, -, h⟩ := h
  split at h
  · simp only [Option.bind_eq_some_iff, Option.some.injEq, Option.map_eq_some_iff,
      Prod.mk.injEq] at h
    obtain ⟨session, hsession, tid', htid', state, -, data', -, rfl, -⟩ := h
    exact tenantOf_eq hextract hsession htid'
  · split at h
    · simp only [Option.bind_eq_some_iff] at h
      obtain ⟨sub, hsub, tid', htid', h⟩ := h
      split at h
      · simp only [Option.bind_eq_some_iff, Option.some.injEq, Prod.mk.injEq] at h
        obtain ⟨data', -, rfl, -⟩ := h
        exact tenantOf_eq hextract hsub htid'
      · cases h
    · split at h
      · cases h
      · cases h

/-- What is asked for can be computed, and written. -/
def Writable (platform : Platform) (s : Store) :
    Option (Option (Value × SubscriptionData)) → Prop
  | none => False
  | some none => True
  | some (some (tid, data)) => (s.upsert platform tid data).isSome

theorem events_upsert {tenantId : Value} {data : SubscriptionData}
    (h : s.upsert platform tenantId data = some s') : s'.events = s.events := by
  simp only [Store.upsert, Option.bind_eq_bind, Option.bind_eq_some_iff, Option.pure_def,
    Option.some.injEq] at h
  obtain ⟨_, -, _, -, _, -, rfl⟩ := h
  rfl

/-- An audit write has no say in the result. -/
theorem run_recordBillingAudit (actorId : Option Uuid) (action : Text) (tenantId metadata : Value)
    (s : Store) : ∃ audit, (recordBillingAudit platform actorId action tenantId metadata).run s
      = (.ok (), { s with audit := audit }) := by
  cases hnew : newAuditLog platform actorId action tenantId metadata with
  | some row =>
    refine ⟨s.audit ++ [row], Prog.run_tryCatch_ok (Prog.run_attempt_some ?_)⟩
    rw [hnew]
    rfl
  | none =>
    refine ⟨s.audit, (Prog.run_tryCatch_error (Prog.run_attempt_none ?_)).trans rfl⟩
    rw [hnew]
    rfl

/-- The program writes what is asked for and leaves the events alone, or it throws and
changes nothing. -/
structure Carries (platform : Platform) (asked : Option (Option (Value × SubscriptionData)))
    (p : Program Unit) : Prop where
  writes : ∀ s, Writable platform s asked →
    ∃ s', p.run s = (.ok (), s') ∧ s'.events = s.events ∧ (asked = some none → s' = s)
  refuses : ∀ s, ¬ Writable platform s asked → p.run s = (.error .internal, s)

section Carries

variable {α : Type}

theorem Carries.throw : Carries platform none (orThrow none) where
  writes _ h := h.elim
  refuses _ _ := rfl

theorem Carries.pure : Carries platform (some none) (pure ()) where
  writes s _ := ⟨s, rfl, rfl, fun _ => rfl⟩
  refuses _ h := absurd trivial h

theorem Carries.upsert (tid : Value) (data : SubscriptionData) :
    Carries platform (some (some (tid, data))) (upsertSubscription platform tid data) where
  writes s h := by
    obtain ⟨s', hs'⟩ := Option.isSome_iff_exists.mp h
    exact ⟨s', run_upsertSubscription hs', events_upsert hs', fun h => (nomatch h)⟩
  refuses s h := run_upsertSubscription_none (Option.not_isSome_iff_eq_none.mp h)

/-- An audit write may follow a write. -/
theorem Carries.audited {p : Program Unit} {change : Value × SubscriptionData}
    (h : Carries platform (some (some change)) p) (actorId : Option Uuid)
    (action : Text) (tenantId metadata : Value) :
    Carries platform (some (some change))
      (p >>= fun _ => recordBillingAudit platform actorId action tenantId metadata) where
  writes s hs := by
    obtain ⟨s', hrun, hevents, -⟩ := h.writes s hs
    obtain ⟨audit, haudit⟩ := run_recordBillingAudit actorId action tenantId metadata s'
    refine ⟨{ s' with audit := audit }, ?_, hevents, fun h => (nomatch h)⟩
    rw [Prog.run_bind, hrun, Prog.andThen_ok, haudit]
  refuses s hs := by
    rw [Prog.run_bind, h.refuses s hs, Prog.andThen_error]

/-- What is computed first may throw. -/
theorem Carries.bind {f : α → Option (Option (Value × SubscriptionData))} {k : α → Program Unit}
    (o : Option α) (h : ∀ a, Carries platform (f a) (k a)) :
    Carries platform (o >>= f) (orThrow o >>= k) := by
  cases o with
  | none => exact Carries.throw
  | some a => exact h a

theorem carries_applySubscriptionState (tid sub : Value) (deleted : Bool) :
    Carries platform (do return some (tid, ← subscriptionState platform config sub deleted))
      (applySubscriptionState platform config tid sub deleted) :=
  Carries.bind _ fun data => (Carries.upsert tid data).audited none _ tid _

/-- The `switch` does what the event asks for. -/
theorem carries_processEvent (event tenantId : Value) :
    Carries platform (asksFor platform config event tenantId)
      (processEvent platform config event tenantId) := by
  refine Carries.bind _ fun type => ?_
  split
  · -- a completed checkout
    refine Carries.bind _ fun session => Carries.bind _ fun tid => Carries.bind _ fun state => ?_
    cases state with
    | none => exact Carries.pure
    | some data => exact Carries.upsert tid data
  · split
    · -- the state of a subscription
      refine Carries.bind _ fun sub => Carries.bind _ fun tid => ?_
      split
      · exact carries_applySubscriptionState tid sub _
      · exact Carries.pure
    · split
      · exact Carries.pure
      · exact Carries.throw

end Carries

/-! ## The events that are acted on -/

/-- The id under which the event is looked up. -/
def eventId (platform : Platform) (event : Value) : Option Text :=
  (event.get "id").bind (textArgument platform)

/-- The row that is logged for the event. -/
def loggedEvent (platform : Platform) (event tenantId : Value) : Option BillingEvent := do
  let id ← event.get "id"
  let type ← event.get "type"
  newBillingEvent platform id type tenantId event

/-- The events that the handler does not turn away before its first write: a redelivery
is accepted as it is, a new event is logged, and an event that was logged but not
processed is processed. -/
inductive Acted (platform : Platform) (config : Config) (s : Store) (event : Value) : Prop
  | redelivered {id : Text} {row : BillingEvent} (hid : eventId platform event = some id)
      (hrow : s.events id = some row) (hprocessed : row.processedAt.isSome)
  | logged {id : Text} {tenantId : Value} (hid : eventId platform event = some id)
      (hrow : s.events id = none) (htenant : extractTenantId event = some tenantId)
      (hlogged : (loggedEvent platform event tenantId).isSome)
  | retried {id : Text} {row : BillingEvent} {tenantId : Value}
      (hid : eventId platform event = some id) (hrow : s.events id = some row)
      (hprocessed : row.processedAt = none) (htenant : extractTenantId event = some tenantId)
      (hwritable : Writable platform s (asksFor platform config event tenantId))
      (huuid : (uuidOr platform row.tenantId tenantId).isSome)

theorem stripeEventId_newBillingEvent {v type tenantId payload : Value} {row : BillingEvent}
    (h : newBillingEvent platform v type tenantId payload = some row) :
    textArgument platform v = some row.stripeEventId := by
  simp only [newBillingEvent, Option.bind_eq_bind, Option.bind_eq_some_iff, Option.pure_def,
    Option.ite_none_right_eq_some, Option.some.injEq] at h
  obtain ⟨id, hid, _, -, _, -, -, rfl⟩ := h
  exact hid

theorem stripeEventId_loggedEvent {v tenantId : Value} {id : Text} {row : BillingEvent}
    (hv : event.get "id" = some v) (hid : textArgument platform v = some id)
    (h : loggedEvent platform event tenantId = some row) : row.stripeEventId = id := by
  simp only [loggedEvent, hv, Option.bind_eq_bind, Option.bind_some,
    Option.bind_eq_some_iff] at h
  obtain ⟨type, -, hnew⟩ := h
  rw [stripeEventId_newBillingEvent hnew] at hid
  exact Option.some.inj hid

/-- A tenant whose subscription can be written is one that the log can name. -/
theorem uuidOr_of_writable {tenantId tid : Value} {data : SubscriptionData}
    {fallback : Option Uuid} (hextract : extractTenantId event = some tenantId)
    (hasked : asksFor platform config event tenantId = some (some (tid, data)))
    (hwritable : Writable platform s (asksFor platform config event tenantId)) :
    (uuidOr platform fallback tenantId).isSome := by
  obtain rfl := tenant_of_asksFor hextract hasked
  rw [hasked] at hwritable
  cases huuid : uuidArgument platform tid with
  | none =>
    simp only [Writable, Store.upsert, huuid, Option.bind_eq_bind, Option.bind_none,
      Option.isSome_none, Bool.false_eq_true] at hwritable
  | some id =>
    simp only [uuidOr]
    split
    · rfl
    · rfl
    · rw [huuid]
      rfl

theorem eventId_eq_some {id : Text} (h : eventId platform event = some id) :
    ∃ v, event.get "id" = some v ∧ textArgument platform v = some id :=
  Option.bind_eq_some_iff.mp h

theorem run_logEvent {v tenantId : Value} {row : BillingEvent} (hv : event.get "id" = some v)
    (hlogged : loggedEvent platform event tenantId = some row)
    (hfree : s.events row.stripeEventId = none) :
    (logEvent platform v event tenantId none).run s = (.ok row, s.setEvent row) := by
  simp only [loggedEvent, hv, Option.bind_eq_bind, Option.bind_some,
    Option.bind_eq_some_iff] at hlogged
  obtain ⟨type, htype, hnew⟩ := hlogged
  simp only [logEvent, htype, Prog.run_bind, run_orThrow_some, Prog.andThen_ok]
  exact run_createBillingEvent hnew hfree

theorem run_logEvent_none {v tenantId : Value} (hv : event.get "id" = some v)
    (hlogged : loggedEvent platform event tenantId = none) :
    (logEvent platform v event tenantId none).run s = (.error .internal, s) := by
  simp only [loggedEvent, hv, Option.bind_eq_bind, Option.bind_some] at hlogged
  cases htype : event.get "type" with
  | none => simp only [logEvent, htype, Prog.run_bind, run_orThrow_none, Prog.andThen_error]
  | some type =>
    rw [htype, Option.bind_some] at hlogged
    simp only [logEvent, htype, Prog.run_bind, run_orThrow_some, Prog.andThen_ok]
    exact run_createBillingEvent_none hlogged

section Logged

variable {tenantId : Value}

/-- A logged event is processed where what it asks for can be written, and it is refused
as a whole otherwise. -/
theorem run_processed {logRow row : BillingEvent} (now : Date) (result : WebhookResult)
    (hrow : s.events logRow.stripeEventId = some row)
    (hwritable : Writable platform s (asksFor platform config event tenantId))
    (huuid : (uuidOr platform logRow.tenantId tenantId).isSome) :
    ∃ s', (do
      processEvent platform config event tenantId
      updateBillingEvent platform logRow now tenantId
      return result : Program WebhookResult).run s = (.ok result, s') := by
  obtain ⟨s', hrun, hevents, -⟩ := (carries_processEvent event tenantId).writes s hwritable
  obtain ⟨tenant, htenant⟩ := Option.isSome_iff_exists.mp huuid
  rw [← hevents] at hrow
  refine ⟨s'.setEvent { row with processedAt := some now, tenantId := tenant }, ?_⟩
  rw [Prog.run_bind, hrun, Prog.andThen_ok, Prog.run_bind, run_updateBillingEvent hrow htenant,
    Prog.andThen_ok, Prog.run_pure]

theorem run_processed_none (now : Date) (logRow : BillingEvent) (result : WebhookResult)
    (hextract : extractTenantId event = some tenantId)
    (h : Writable platform s (asksFor platform config event tenantId) →
      ¬ (uuidOr platform logRow.tenantId tenantId).isSome) :
    (do
      processEvent platform config event tenantId
      updateBillingEvent platform logRow now tenantId
      return result : Program WebhookResult).run s = (.error .internal, s) := by
  by_cases hwritable : Writable platform s (asksFor platform config event tenantId)
  · -- the tenant is no uuid, so nothing was written to its subscription
    have hnothing : asksFor platform config event tenantId = some none := by
      cases hasked : asksFor platform config event tenantId with
      | none =>
        rw [hasked] at hwritable
        exact hwritable.elim
      | some change =>
        cases change with
        | none => rfl
        | some change => exact absurd (uuidOr_of_writable hextract hasked hwritable) (h hwritable)
    obtain ⟨s', hrun, -, hsame⟩ := (carries_processEvent event tenantId).writes s hwritable
    rw [hsame hnothing] at hrun
    rw [Prog.run_bind, hrun, Prog.andThen_ok, Prog.run_bind,
      run_updateBillingEvent_none (Option.not_isSome_iff_eq_none.mp (h hwritable)),
      Prog.andThen_error]
  · rw [Prog.run_bind, (carries_processEvent event tenantId).refuses s hwritable,
      Prog.andThen_error]

end Logged

/-- The handler turns away every event that is not acted on, and changes nothing. -/
theorem run_handleWebhook_of_not_acted (h : ¬ Acted platform config s event) :
    (handleWebhook platform config now event).run s = (.error .internal, s) := by
  cases hv : event.get "id" with
  | none => simp only [handleWebhook, hv, Prog.run_bind, run_orThrow_none, Prog.andThen_error]
  | some v =>
    cases hid : textArgument platform v with
    | none =>
      simp only [handleWebhook, hv, Prog.run_bind, run_orThrow_some, Prog.andThen_ok,
        run_findBillingEvent_none hid, Prog.andThen_error]
    | some id =>
      have heventId : eventId platform event = some id := by rw [eventId, hv, Option.bind_some, hid]
      have hnot : ((s.events id).bind (·.processedAt)).isSome = false := by
        cases hrow : s.events id with
        | none => rfl
        | some row =>
          cases hprocessed : row.processedAt with
          | none => rw [Option.bind_some, hprocessed, Option.isSome_none]
          | some date =>
            exact absurd (Acted.redelivered heventId hrow (hprocessed ▸ rfl)) h
      simp only [handleWebhook, hv, Prog.run_bind, run_orThrow_some, Prog.andThen_ok,
        run_findBillingEvent hid, hnot, Bool.false_eq_true, if_false]
      cases htenant : extractTenantId event with
      | none => rw [run_orThrow_none, Prog.andThen_error]
      | some tenantId =>
        rw [run_orThrow_some, Prog.andThen_ok, Prog.run_bind]
        cases hrow : s.events id with
        | none =>
          -- nothing is logged: the row cannot be made
          have hlogged : loggedEvent platform event tenantId = none :=
            Option.not_isSome_iff_eq_none.mp fun hlogged =>
              h (Acted.logged heventId hrow htenant hlogged)
          rw [run_logEvent_none hv hlogged, Prog.andThen_error]
        | some row =>
          -- the row is there, and what the event asks for is not done
          rw [hrow, Option.bind_some, Option.isSome_eq_false_iff, Option.isNone_iff_eq_none] at hnot
          exact run_processed_none now row _ htenant fun hwritable huuid =>
            h (Acted.retried heventId hrow hnot htenant hwritable huuid)

/-- A new event is logged, and then processed. -/
theorem run_handleWebhook_new {id : Text} {v tenantId : Value} {row : BillingEvent} (now : Date)
    (hv : event.get "id" = some v) (hid : textArgument platform v = some id)
    (hrow : s.events id = none) (htenant : extractTenantId event = some tenantId)
    (hnew : loggedEvent platform event tenantId = some row) :
    (handleWebhook platform config now event).run s = (do
      processEvent platform config event tenantId
      updateBillingEvent platform row now tenantId
      return { received := true, deduped := false } : Program WebhookResult).run
        (s.setEvent row) := by
  have hfree : s.events row.stripeEventId = none := by
    rw [stripeEventId_loggedEvent hv hid hnew]
    exact hrow
  have hlog := run_logEvent hv hnew hfree
  simp only [handleWebhook, hv, Prog.run_bind, run_orThrow_some, Prog.andThen_ok,
    run_findBillingEvent hid, hrow, Option.bind_none, Option.isSome_none, Bool.false_eq_true,
    if_false, htenant, hlog]

/-- An event that is acted on is accepted, or it leaves its row behind. -/
theorem run_handleWebhook_of_acted (now : Date) (h : Acted platform config s event) :
    (∃ result, ((handleWebhook platform config now event).run s).1 = .ok result) ∨
      ((handleWebhook platform config now event).run s).2.events ≠ s.events := by
  cases h with
  | @redelivered id row hid hrow hprocessed =>
    obtain ⟨v, hv, hv'⟩ := eventId_eq_some hid
    refine Or.inl ⟨{ received := true, deduped := true }, ?_⟩
    simp only [handleWebhook, hv, Prog.run_bind, run_orThrow_some, Prog.andThen_ok,
      run_findBillingEvent hv', hrow, Option.bind_some, hprocessed, if_true, Prog.run_pure]
  | @logged id tenantId hid hrow htenant hlogged =>
    obtain ⟨v, hv, hv'⟩ := eventId_eq_some hid
    obtain ⟨row, hnew⟩ := Option.isSome_iff_exists.mp hlogged
    have hid : row.stripeEventId = id := stripeEventId_loggedEvent hv hv' hnew
    have hfree : s.events row.stripeEventId = none := hid ▸ hrow
    rw [run_handleWebhook_new now hv hv' hrow htenant hnew]
    by_cases hdone : Writable platform (s.setEvent row) (asksFor platform config event tenantId) ∧
        (uuidOr platform row.tenantId tenantId).isSome
    · obtain ⟨s', hprocessed⟩ := run_processed now
        { received := true, deduped := false } (s.events_setEvent row) hdone.1 hdone.2
      exact Or.inl ⟨_, congrArg Prod.fst hprocessed⟩
    · -- the row of the event stays, whatever becomes of the rest
      have hrefused := run_processed_none now row
        { received := true, deduped := false } htenant
        fun hwritable huuid => hdone ⟨hwritable, huuid⟩
      refine Or.inr fun hevents => ?_
      rw [hrefused] at hevents
      have hrow' := congrFun hevents row.stripeEventId
      rw [Store.events_setEvent, hfree] at hrow'
      cases hrow'
  | @retried id row tenantId hid hrow hprocessed htenant hwritable huuid =>
    obtain ⟨v, hv, hv'⟩ := eventId_eq_some hid
    have hkey : s.events row.stripeEventId = some row := (s.events_key id row hrow).symm ▸ hrow
    obtain ⟨s', hrun⟩ := run_processed now
      { received := true, deduped := false } hkey hwritable huuid
    refine Or.inl ⟨{ received := true, deduped := false }, ?_⟩
    simp only [handleWebhook, hv, Prog.run_bind, run_orThrow_some, Prog.andThen_ok,
      run_findBillingEvent hv', hrow, Option.bind_some, hprocessed, Option.isSome_none,
      Bool.false_eq_true, if_false, htenant, logEvent, Prog.run_pure] at hrun ⊢
    rw [hrun]

/-! ## The endpoint -/

/-- A client and a webhook secret are configured. -/
def Config.Live (config : Config) : Prop :=
  (present config.stripeSecretKey).isSome ∧ (present config.stripeWebhookSecret).isSome

/-- Stripe accepts the body of the request with its header. -/
def Authentic (platform : Platform) (config : Config) (request : WebhookRequest) : Prop :=
  ∃ raw signature secret event, request.rawBody = some raw ∧ request.signature = some signature ∧
    config.stripeWebhookSecret = some secret ∧
      platform.constructEvent (.buffer raw) signature secret = .ok event

/-- The endpoint does to the request what it should: billing events and subscriptions
change only where Stripe accepted the body with the header, and any other request is
rejected and leaves the store as it was. -/
structure OnlyAuthentic (platform : Platform) (config : Config) (now : Date) (s : Store)
    (request : WebhookRequest) : Prop where
  changes : ((webhook platform config now request).run s).2.events ≠ s.events ∨
    ((webhook platform config now request).run s).2.subscriptions ≠ s.subscriptions →
      Authentic platform config request
  others : ¬ Authentic platform config request →
    ∃ e, (webhook platform config now request).run s = (.error e, s)

/-- There is a body, and it is one that the handler acts on. -/
def BodyActed (platform : Platform) (config : Config) (s : Store) (request : WebhookRequest) :
    Prop :=
  ∃ raw event, request.rawBody = some raw ∧ platform.parse (platform.decodeUtf8 raw) = .ok event ∧
    Acted platform config s event

/-- A signature is checked where it is there. -/
theorem constructWebhookEvent_signed {raw : RawBody} {signature : Text}
    (hlive : config.Live) (hsigned : present (some signature) = some signature) :
    ∃ secret, config.stripeWebhookSecret = some secret ∧
      (StripeService.new config).constructWebhookEvent platform raw (some signature)
        = platform.constructEvent raw signature secret := by
  obtain ⟨secret, hsecret⟩ := Option.isSome_iff_exists.mp hlive.2
  refine ⟨secret, eq_some_of_present hsecret, ?_⟩
  simp only [StripeService.constructWebhookEvent, StripeService.new, hlive.1, hsecret, hsigned]

/-- Without a signature the body is parsed as it is. -/
theorem constructWebhookEvent_unsigned {raw : List UInt8} {signature : Option Text}
    (hunsigned : present signature = none) :
    (StripeService.new config).constructWebhookEvent platform (.buffer raw) signature
      = platform.parse (platform.decodeUtf8 raw) := by
  rw [StripeService.constructWebhookEvent, hunsigned]
  split
  · rename_i h
    cases h
  · rfl

theorem run_webhook {raw : List UInt8} {request : WebhookRequest}
    (hraw : request.rawBody = some raw)
    (hevent : (StripeService.new config).constructWebhookEvent platform (.buffer raw)
      request.signature = .ok event) :
    webhook platform config now request = handleWebhook platform config now event := by
  simp only [webhook, hraw, hevent]

/-- A request whose body does not give an event is rejected. -/
theorem run_webhook_rejected {request : WebhookRequest}
    (h : ∀ raw event, request.rawBody = some raw →
      (StripeService.new config).constructWebhookEvent platform (.buffer raw) request.signature
        ≠ .ok event) :
    ∃ e, (webhook platform config now request).run s = (.error e, s) := by
  cases hraw : request.rawBody with
  | none =>
    refine ⟨.badRequest "Missing raw request body for webhook verification", ?_⟩
    simp only [webhook, hraw, Prog.run_throw]
  | some raw =>
    cases hevent : (StripeService.new config).constructWebhookEvent platform (.buffer raw)
        request.signature with
    | ok event => exact absurd hevent (h raw event hraw)
    | error err =>
      refine ⟨.badRequest (utf16 "Webhook signature verification failed: " ++ err), ?_⟩
      simp only [webhook, hraw, hevent, Prog.run_throw]

/-- **Where the webhook keeps to what Stripe accepted.** With a client and a webhook
secret configured, the endpoint does to a request what it should exactly where the
signature header is there and not empty, or the body is none that the handler acts on. -/
theorem webhook_authentic_iff (hlive : config.Live)
    (hempty : ∀ raw secret event, platform.constructEvent raw [] secret ≠ .ok event)
    (s : Store) (now : Date) (request : WebhookRequest) :
    OnlyAuthentic platform config now s request ↔
      (present request.signature).isSome ∨ ¬ BodyActed platform config s request := by
  constructor
  · intro h
    by_contra hnot
    rw [not_or, Option.not_isSome_iff_eq_none, not_not] at hnot
    obtain ⟨hunsigned, raw, event, hraw, hparse, hacted⟩ := hnot
    have hauthentic : ¬ Authentic platform config request := by
      rintro ⟨raw', signature, secret, event', -, hsignature, -, haccepted⟩
      rw [hsignature] at hunsigned
      rw [eq_nil_of_not_present hunsigned] at haccepted
      exact hempty _ _ _ haccepted
    obtain ⟨e, he⟩ := h.others hauthentic
    rw [run_webhook hraw ((constructWebhookEvent_unsigned hunsigned).trans hparse)] at he
    rcases run_handleWebhook_of_acted now hacted with ⟨result, hok⟩ | hevents
    · rw [he] at hok
      cases hok
    · rw [he] at hevents
      exact hevents rfl
  · rintro h
    have hothers : ¬ Authentic platform config request →
        ∃ e, (webhook platform config now request).run s = (.error e, s) := by
      intro hauthentic
      cases hsignature : present request.signature with
      | some signature =>
        refine run_webhook_rejected fun raw event hraw hevent => hauthentic ?_
        rw [eq_some_of_present hsignature] at hevent
        obtain ⟨secret, hsecret, hconstruct⟩ := constructWebhookEvent_signed hlive
          ((eq_some_of_present hsignature) ▸ hsignature)
        exact ⟨raw, signature, secret, event, hraw, eq_some_of_present hsignature, hsecret,
          hconstruct.symm.trans hevent⟩
      | none =>
        -- the body is parsed unchecked, and nothing in it is acted on
        have hbody : ¬ BodyActed platform config s request :=
          h.resolve_left fun hsigned => by
            rw [hsignature] at hsigned
            cases hsigned
        by_cases hparse : ∃ raw event, request.rawBody = some raw ∧
            platform.parse (platform.decodeUtf8 raw) = .ok event
        · obtain ⟨raw, event, hraw, hevent⟩ := hparse
          refine ⟨.internal, ?_⟩
          rw [run_webhook hraw ((constructWebhookEvent_unsigned hsignature).trans hevent)]
          exact run_handleWebhook_of_not_acted fun hacted =>
            hbody ⟨raw, event, hraw, hevent, hacted⟩
        · refine run_webhook_rejected fun raw event hraw hevent => hparse ⟨raw, event, hraw, ?_⟩
          exact (constructWebhookEvent_unsigned hsignature).symm.trans hevent
    refine ⟨fun hchanged => ?_, hothers⟩
    by_contra hauthentic
    obtain ⟨e, he⟩ := hothers hauthentic
    rw [he] at hchanged
    exact hchanged.elim (fun h => h rfl) fun h => h rfl

/-! ### A forged event -/

def liveConfig : Config where
  stripeSecretKey := some "sk"
  stripeWebhookSecret := some "whsec"
  stripePriceBasic := some "basic"
  stripePriceFamilyGuardian := some "family"
  stripePricePremiumShield := some "premium"

def forgedText : Text :=
  utf16 "\x7b\"id\":\"evt\",\"type\":\"customer.subscription.created\",\"data\":\x7b\"object\":"
    ++ utf16 "\x7b\"items\":\x7b\"data\":[\x7b\"price\":\x7b\"id\":\"premium\"\x7d\x7d]\x7d,"
    ++ utf16 "\"status\":\"active\",\"metadata\":\x7b\"tenantId\":\"t\"\x7d\x7d\x7d\x7d"

/-- What `JSON.parse` gives of `forgedText`. -/
def forgedEvent : Value :=
  object [("id", string "evt"), ("type", string "customer.subscription.created"),
    ("data", object [("object", object [
      ("items", object [("data", array [object [("price", object [("id", string "premium")])]])]),
      ("status", string "active"), ("metadata", object [("tenantId", string "t")])])])]

/-- A platform where Stripe has signed nothing, and one body is the text of an event. -/
def unsignedPlatform : Platform where
  constructEvent _ _ _ := .error "No signatures found matching the expected signature for payload"
  decodeUtf8 bytes := bytes.map fun b => Fin.ofNat 65536 b.toNat
  parse text := if text = forgedText then .ok forgedEvent else .error "SyntaxError"
  dateOfSeconds _ := none
  textColumn text := !text.contains 0
  uuidColumn text := if text = utf16 "t" then some text else none
  jsonColumn _ := true

def tenantStore : Store where
  tenants id := id = utf16 "t"
  events _ := none
  subscriptions _ := none
  audit := []
  events_key _ _ h := nomatch h

/-- The body of the forged event, without a signature. -/
def forgedRequest : WebhookRequest where
  rawBody := some (forgedText.map fun c => UInt8.ofNat c.val)
  signature := none

/-- A moment of processing. -/
def someNoon : Date := Date.sampleDay.noon

/-- With a wrong signature the same body is rejected. -/
theorem webhook_authentic_iff_forged :
    OnlyAuthentic unsignedPlatform liveConfig someNoon tenantStore
      { forgedRequest with signature := some "t=1,v1=0" } :=
  (webhook_authentic_iff ⟨rfl, rfl⟩ (fun _ _ _ h => by cases h) _ _ _).mpr (Or.inl rfl)

/-- Without a signature, anyone can set the plan of any tenant. -/
theorem forged_event_sets_plan :
    liveConfig.Live ∧
      (((webhook unsignedPlatform liveConfig someNoon forgedRequest).run
        tenantStore).2.subscriptions "t").map (·.plan) = some BillingPlan.premiumShield ∧
      ¬ OnlyAuthentic unsignedPlatform liveConfig someNoon tenantStore forgedRequest := by
  have hplan : (((webhook unsignedPlatform liveConfig someNoon forgedRequest).run
      tenantStore).2.subscriptions "t").map (·.plan) = some BillingPlan.premiumShield := by
    decide +kernel
  refine ⟨⟨rfl, rfl⟩, hplan, fun h => ?_⟩
  have hchanged : ((webhook unsignedPlatform liveConfig someNoon forgedRequest).run
      tenantStore).2.subscriptions ≠ tenantStore.subscriptions := by
    intro hsame
    rw [hsame] at hplan
    cases hplan
  obtain ⟨_, signature, _, _, -, hsignature, -⟩ := h.changes (Or.inr hchanged)
  cases hsignature

end Billing
