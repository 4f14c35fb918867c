import Vigiscam.Billing.Authenticity
import Vigiscam.Concurrency.Updates

/-!
# The order of webhooks

The handler applies an event to the row of its tenant when the event arrives; nothing in
it looks at when Stripe created the event. An event is an `Update` of the row's columns
(`writes`), so a sequence of deliveries leaves in each column what the last event
*delivered* that writes the column wrote, and `webhook_order` says exactly when this is
the row that the order of creation gives.
-/

namespace Billing

open Js Value Concurrency Updates

variable {platform : Platform} {config : Config} {s s' : Store} {event tenantId : Value}
  {tenant : Uuid}

/-! ## The columns -/

/-- The columns of a subscription that an event can write. -/
inductive Column where
  | plan | status | stripeCustomerId | stripeSubscriptionId | stripePriceId | currentPeriodEnd
  | cancelAtPeriodEnd
deriving DecidableEq

abbrev Column.type : Column → Type
  | plan => BillingPlan
  | status => SubscriptionStatus
  | stripeCustomerId | stripeSubscriptionId | stripePriceId => Option Text
  | currentPeriodEnd => Option Date
  | cancelAtPeriodEnd => Bool

def TenantSubscription.cell (row : TenantSubscription) : (c : Column) → c.type
  | .plan => row.plan
  | .status => row.status
  | .stripeCustomerId => row.stripeCustomerId
  | .stripeSubscriptionId => row.stripeSubscriptionId
  | .stripePriceId => row.stripePriceId
  | .currentPeriodEnd => row.currentPeriodEnd
  | .cancelAtPeriodEnd => row.cancelAtPeriodEnd

/-- A row is its cells, with the flag that no event writes. -/
theorem TenantSubscription.eq_of_cell {a b : TenantSubscription} (hcell : a.cell = b.cell)
    (hmanual : a.manualInvoice = b.manualInvoice) : a = b := by
  have hplan := congrFun hcell .plan
  have hstatus := congrFun hcell .status
  have hcustomer := congrFun hcell .stripeCustomerId
  have hsubscription := congrFun hcell .stripeSubscriptionId
  have hprice := congrFun hcell .stripePriceId
  have hperiod := congrFun hcell .currentPeriodEnd
  have hcancel := congrFun hcell .cancelAtPeriodEnd
  cases a
  cases b
  simp_all [cell]

section Arguments

variable (platform)

/-- What a nullable text column is written; `none` where the argument is refused. -/
def textUpdate (v : Value) : Option (Option (Option Text)) :=
  match v with
  | .undefined => some none
  | .null => some (some none)
  | v => (textArgument platform v).map fun text => some (some text)

def boolUpdate : Value → Option (Option Bool)
  | .undefined => some none
  | .bool b => some (some b)
  | _ => none

def dateUpdate : Option (Option Date) → Option (Option (Option Date))
  | none => some none
  | some date => date.map fun d => some (some d)

/-- What the data writes, where every column takes its argument. -/
def SubscriptionData.update (data : SubscriptionData) : Option (Update Column.type) := do
  let stripeCustomerId ← textUpdate platform data.stripeCustomerId
  let stripeSubscriptionId ← textUpdate platform data.stripeSubscriptionId
  let stripePriceId ← textUpdate platform data.stripePriceId
  let currentPeriodEnd ← dateUpdate data.currentPeriodEnd
  let cancelAtPeriodEnd ← boolUpdate data.cancelAtPeriodEnd
  return fun
    | .plan => data.plan
    | .status => data.status
    | .stripeCustomerId => stripeCustomerId
    | .stripeSubscriptionId => stripeSubscriptionId
    | .stripePriceId => stripePriceId
    | .currentPeriodEnd => currentPeriodEnd
    | .cancelAtPeriodEnd => cancelAtPeriodEnd

end Arguments

theorem nullableText_eq (old : Option Text) (v : Value) :
    nullableText platform old v = (textUpdate platform v).map (·.getD old) := by
  cases v with
  | string text =>
    show (textArgument platform (string text)).map some
      = ((textArgument platform (string text)).map fun text => some (some text)).map (·.getD old)
    rw [Option.map_map]
    rfl
  | _ => rfl

theorem boolArgument_eq (old : Bool) (v : Value) :
    boolArgument old v = (boolUpdate v).map (·.getD old) := by
  cases v <;> rfl

theorem dateArgument_eq (old : Option Date) (date : Option (Option Date)) :
    dateArgument old date = (dateUpdate date).map (·.getD old) := by
  cases date with
  | none => rfl
  | some date => cases date <;> rfl

/-- A row is written as an update of its columns. -/
theorem written_eq {data : SubscriptionData} {u : Update Column.type} (old : TenantSubscription)
    (hu : data.update platform = some u) :
    ∃ row, written platform old data = some row ∧ row.cell = apply old.cell u ∧
      row.manualInvoice = old.manualInvoice := by
  simp only [SubscriptionData.update, Option.bind_eq_bind, Option.bind_eq_some_iff,
    Option.pure_def, Option.some.injEq] at hu
  obtain ⟨customer, hcustomer, subscription, hsubscription, price, hprice, period, hperiod, cancel,
    hcancel, rfl⟩ := hu
  -- an undefined field is left as it was: `none` in the update is the old cell
  refine ⟨{ old with
      plan := data.plan.getD old.plan
      status := data.status.getD old.status
      stripeCustomerId := customer.getD old.stripeCustomerId
      stripeSubscriptionId := subscription.getD old.stripeSubscriptionId
      stripePriceId := price.getD old.stripePriceId
      currentPeriodEnd := period.getD old.currentPeriodEnd
      cancelAtPeriodEnd := cancel.getD old.cancelAtPeriodEnd }, ?_, ?_, rfl⟩
  · simp only [written, nullableText_eq, dateArgument_eq, boolArgument_eq, hcustomer, hsubscription,
      hprice, hperiod, hcancel, Option.map_some, Option.bind_eq_bind, Option.bind_some,
      Option.pure_def]
  · funext c
    cases c <;> rfl

/-! ## What an event does to the row -/

/-- The `switch`, by what the event asks for: nothing can be computed, nothing is written,
or the subscription is written and the change may be audited. -/
def perform (platform : Platform) (audit : Option Value) :
    Option (Option (Value × SubscriptionData)) → Program Unit
  | none => throw .internal
  | some none => pure ()
  | some (some (tid, data)) =>
    match audit with
    | none => upsertSubscription platform tid data
    | some metadata => do
      upsertSubscription platform tid data
      recordBillingAudit platform none "SUBSCRIPTION_STATE_CHANGED" tid metadata

/-- The program does what is asked for, and no more than audit it. -/
def Performs (platform : Platform) (asked : Option (Option (Value × SubscriptionData)))
    (p : Program Unit) : Prop :=
  ∃ audit, p = perform platform audit asked

/-- What is computed first may throw. -/
theorem Performs.bind {α : Type} {f : α → Option (Option (Value × SubscriptionData))}
    {k : α → Program Unit} (o : Option α) (h : ∀ a, Performs platform (f a) (k a)) :
    Performs platform (o >>= f) (orThrow o >>= k) := by
  cases o with
  | none => exact ⟨none, rfl⟩
  | some a => exact h a

theorem performs_processEvent (event tenantId : Value) :
    Performs platform (asksFor platform config event tenantId)
      (processEvent platform config event tenantId) := by
  refine Performs.bind _ fun type => ?_
  split
  · -- a completed checkout
    refine Performs.bind _ fun session => Performs.bind _ fun tid => Performs.bind _ fun state => ?_
    cases state with
    | none => exact ⟨none, rfl⟩
    | some data => exact ⟨none, rfl⟩
  · split
    · -- the state of a subscription
      refine Performs.bind _ fun sub => Performs.bind _ fun tid => ?_
      split
      · exact Performs.bind _ fun data => ⟨some _, rfl⟩
      · exact ⟨none, rfl⟩
    · split
      · exact ⟨none, rfl⟩
      · exact ⟨none, rfl⟩

/-- Two stores with the same tenants, events and subscriptions. -/
structure Store.Same (s t : Store) : Prop where
  tenants : t.tenants = s.tenants
  events : t.events = s.events
  subscriptions : t.subscriptions = s.subscriptions

/-- The subscription is written as it is asked for, whatever becomes of the audit. -/
theorem run_perform_upsert {tid : Value} {data : SubscriptionData} (audit : Option Value)
    (h : s.upsert platform tid data = some s') :
    ∃ t, (perform platform audit (some (some (tid, data)))).run s = (.ok (), t) ∧ s'.Same t := by
  cases audit with
  | none => exact ⟨s', run_upsertSubscription h, rfl, rfl, rfl⟩
  | some metadata =>
    obtain ⟨rows, hrows⟩ := @run_recordBillingAudit platform none
      "SUBSCRIPTION_STATE_CHANGED" tid metadata s'
    refine ⟨{ s' with audit := rows }, ?_, rfl, rfl, rfl⟩
    show (upsertSubscription platform tid data >>= fun _ => _).run s = _
    rw [Prog.run_bind, run_upsertSubscription h, Prog.andThen_ok, hrows]

theorem rowOrNew_congr {t : Store} (htenants : t.tenants tenant = s.tenants tenant)
    (hsubscriptions : t.subscriptions tenant = s.subscriptions tenant) :
    t.rowOrNew tenant = s.rowOrNew tenant := by
  rw [Store.rowOrNew, Store.rowOrNew, htenants, hsubscriptions]

/-- Where both rows are there or none is, they are the same where they are found the same. -/
theorem subscriptions_eq_iff {t : Store} {row row' : TenantSubscription}
    (hs : s.rowOrNew tenant = some row) (ht : t.rowOrNew tenant = some row')
    (hnone : s.subscriptions tenant = none ↔ t.subscriptions tenant = none) :
    s.subscriptions tenant = t.subscriptions tenant ↔ row = row' := by
  unfold Store.rowOrNew at hs ht
  cases hrow : s.subscriptions tenant with
  | none =>
    -- no row in either store: both come from the defaults
    have hrow' := hnone.mp hrow
    rw [hrow] at hs
    rw [hrow'] at ht
    obtain ⟨-, hdefault⟩ := Option.ite_none_right_eq_some.mp hs
    obtain ⟨-, hdefault'⟩ := Option.ite_none_right_eq_some.mp ht
    rw [hrow', ← Option.some.inj hdefault, ← Option.some.inj hdefault']
    exact ⟨fun _ => rfl, fun _ => rfl⟩
  | some r =>
    cases hrow' : t.subscriptions tenant with
    | none =>
      rw [hnone.mpr hrow'] at hrow
      cases hrow
    | some r' =>
      rw [hrow] at hs
      rw [hrow'] at ht
      rw [Option.some.injEq, ← Option.some.inj hs, ← Option.some.inj ht]

/-! ## Deliveries -/

/-- A delivery of an event: what was sent, and when it is processed. -/
structure Delivery where
  event : Value
  now : Date

section Deliveries

variable (platform : Platform) (config : Config)

/-- The deliveries are handled one after the other. -/
def deliverAll : List Delivery → Store → Store
  | [], s => s
  | d :: ds, s => deliverAll ds ((handleWebhook platform config d.now d.event).run s).2

/-- What an event asks for, of the tenant that it names. -/
def asked (event : Value) : Option (Option (Value × SubscriptionData)) :=
  (extractTenantId event).bind (asksFor platform config event)

/-- What an event writes to the row of its tenant. -/
def writes (event : Value) : Update Column.type :=
  match asked platform config event with
  | some (some (_, data)) => (data.update platform).getD Update.nothing
  | _ => Update.nothing

/-- An event that is about the subscription of the tenant: it names the tenant, it can be
logged, and what it asks for can be computed and is taken by the columns. -/
structure About (tenant : Uuid) (event : Value) : Prop where
  tenant : (extractTenantId event).bind (uuidArgument platform) = some tenant
  logged : ((extractTenantId event).bind (loggedEvent platform event)).isSome
  computed : (asked platform config event).isSome
  taken : (asked platform config event).join.all fun change => (change.2.update platform).isSome

/-- An event that changes nothing. -/
def Silent (event : Value) : Prop := asked platform config event = some none

end Deliveries

/-- What a new event does to the row of its tenant: its columns are updated, and a row
is made where there was none and the event writes anything. -/
structure Updated (platform : Platform) (config : Config) (tenant : Uuid) (event : Value)
    (s s' : Store) : Prop where
  row : ∀ row, s.rowOrNew tenant = some row → ∃ row', s'.rowOrNew tenant = some row' ∧
    row'.cell = apply row.cell (writes platform config event) ∧
    row'.manualInvoice = row.manualInvoice
  none : s'.subscriptions tenant = none ↔
    s.subscriptions tenant = none ∧ Silent platform config event

theorem updated_of_silent (hsilent : Silent platform config event)
    (htenants : s'.tenants = s.tenants) (hsubscriptions : s'.subscriptions = s.subscriptions) :
    Updated platform config tenant event s s' where
  row row hrow := by
    refine ⟨row, ?_, ?_, rfl⟩
    · rw [rowOrNew_congr (congrFun htenants tenant) (congrFun hsubscriptions tenant)]
      exact hrow
    · rw [writes, hsilent]
      rfl
  none := by
    rw [hsubscriptions]
    exact ⟨fun h => ⟨h, hsilent⟩, And.left⟩

theorem updated_of_writes {tid : Value} {data : SubscriptionData} {u : Update Column.type}
    {old row : TenantSubscription} (hasked : asked platform config event = some (some (tid, data)))
    (hu : data.update platform = some u) (hold : s.rowOrNew tenant = some old)
    (hcell : row.cell = apply old.cell u) (hmanual : row.manualInvoice = old.manualInvoice)
    (hsubscriptions : s'.subscriptions = Function.update s.subscriptions tenant (some row)) :
    Updated platform config tenant event s s' where
  row old' hold' := by
    rw [hold] at hold'
    obtain rfl := Option.some.inj hold'
    refine ⟨row, ?_, ?_, hmanual⟩
    · rw [Store.rowOrNew, hsubscriptions, Function.update_self]
    · rw [writes, hasked]
      dsimp only
      rw [hu, Option.getD_some]
      exact hcell
  none := by
    rw [hsubscriptions, Function.update_self]
    constructor
    · intro h
      cases h
    · rintro ⟨-, hsilent⟩
      rw [Silent, hasked] at hsilent
      cases hsilent

theorem id_of_loggedEvent {row : BillingEvent}
    (h : loggedEvent platform event tenantId = some row) :
    ∃ v, event.get "id" = some v ∧ textArgument platform v = some row.stripeEventId := by
  simp only [loggedEvent, Option.bind_eq_bind, Option.bind_eq_some_iff] at h
  obtain ⟨v, hv, _, -, hnew⟩ := h
  exact ⟨v, hv, stripeEventId_newBillingEvent hnew⟩

/-- What the event asks for is done, and nothing happens to the log. -/
theorem run_processEvent_about {tid : Value} {s₀ : Store} (h : About platform config tenant event)
    (htid : extractTenantId event = some tid) (hrow : (s.rowOrNew tenant).isSome)
    (htenants : s₀.tenants = s.tenants) (hsubscriptions : s₀.subscriptions = s.subscriptions) :
    ∃ t, (processEvent platform config event tid).run s₀ = (.ok (), t) ∧ t.events = s₀.events ∧
      ∀ s', s'.tenants = t.tenants → s'.subscriptions = t.subscriptions →
        Updated platform config tenant event s s' := by
  obtain ⟨audit, hperform⟩ := @performs_processEvent platform config event tid
  obtain ⟨a, ha⟩ := Option.isSome_iff_exists.mp h.computed
  have hasks : asksFor platform config event tid = some a := by
    rw [← ha, asked, htid, Option.bind_some]
  rw [hperform, hasks]
  cases a with
  -- an event of another kind, or a checkout without a subscription: nothing is written
  | none =>
    refine ⟨s₀, rfl, rfl, fun s' hs' hs'' => updated_of_silent ha (hs'.trans htenants) ?_⟩
    exact hs''.trans hsubscriptions
  | some change =>
    obtain ⟨tid', data⟩ := change
    obtain rfl : tid' = tid := tenant_of_asksFor htid hasks
    have htaken := h.taken
    rw [ha] at htaken
    obtain ⟨u, hu⟩ := Option.isSome_iff_exists.mp htaken
    obtain ⟨old, hold⟩ := Option.isSome_iff_exists.mp hrow
    obtain ⟨row, hwritten, hcell, hmanual⟩ := written_eq old hu
    have huuid : uuidArgument platform tid' = some tenant := by
      have htenant := h.tenant
      rwa [htid, Option.bind_some] at htenant
    have hupsert : s₀.upsert platform tid' data = some
        { s₀ with subscriptions := Function.update s₀.subscriptions tenant (some row) } := by
      have hold₀ : s₀.rowOrNew tenant = some old := by
        rw [rowOrNew_congr (congrFun htenants tenant) (congrFun hsubscriptions tenant)]
        exact hold
      simp only [Store.upsert, huuid, hold₀, hwritten, Option.bind_eq_bind, Option.bind_some,
        Option.pure_def]
    obtain ⟨t, hrun, hsame⟩ := run_perform_upsert audit hupsert
    refine ⟨t, hrun, hsame.events, fun s' hs' hs'' => ?_⟩
    refine updated_of_writes ha hu hold hcell hmanual ?_
    rw [hs'', hsame.subscriptions, hsubscriptions]

/-- A new event about the subscription is accepted, and updates its row. -/
theorem run_delivery (now : Date) (h : About platform config tenant event)
    (hnew : ∀ id, eventId platform event = some id → s.events id = none)
    (hrow : (s.rowOrNew tenant).isSome) :
    ∃ s' id, eventId platform event = some id ∧
      (handleWebhook platform config now event).run s
        = (.ok { received := true, deduped := false }, s') ∧
      Updated platform config tenant event s s' ∧ ∀ id' ≠ id, s'.events id' = s.events id' := by
  cases htid : extractTenantId event with
  | none =>
    have htenant := h.tenant
    rw [htid] at htenant
    cases htenant
  | some tid =>
    have hlogged := h.logged
    rw [htid, Option.bind_some] at hlogged
    obtain ⟨logRow, hlogRow⟩ := Option.isSome_iff_exists.mp hlogged
    obtain ⟨v, hv, hid⟩ := id_of_loggedEvent hlogRow
    have heventId : eventId platform event = some logRow.stripeEventId := by
      rw [eventId, hv, Option.bind_some, hid]
    -- a new event: the insert succeeds and the retry branch is not taken
    have hfree := hnew _ heventId
    obtain ⟨t, hrun, hevents, hupdated⟩ :=
      @run_processEvent_about platform config s event tenant tid (s.setEvent logRow) h htid hrow
        rfl rfl
    have hlog : t.events logRow.stripeEventId = some logRow := by
      rw [hevents, Store.events_setEvent]
    -- the last step names the tenant by the extracted id where the log row has none
    have huuid : (uuidOr platform logRow.tenantId tid).isSome := by
      have htenant := h.tenant
      rw [htid, Option.bind_some] at htenant
      unfold uuidOr
      split
      · rfl
      · rfl
      · rw [htenant]
        rfl
    obtain ⟨named, hnamed⟩ := Option.isSome_iff_exists.mp huuid
    refine ⟨t.setEvent { logRow with processedAt := some now, tenantId := named },
      logRow.stripeEventId, heventId, ?_, hupdated _ rfl rfl, fun id' hne => ?_⟩
    · rw [run_handleWebhook_new now hv hid hfree htid hlogRow, Prog.run_bind, hrun, Prog.andThen_ok,
        Prog.run_bind, run_updateBillingEvent hlog hnamed, Prog.andThen_ok, Prog.run_pure]
    · show Function.update t.events logRow.stripeEventId _ id' = s.events id'
      rw [Function.update_of_ne hne, hevents]
      show Function.update s.events logRow.stripeEventId _ id' = s.events id'
      rw [Function.update_of_ne hne]

/-- Many events about the subscription, one after the other, update its row in turn. -/
theorem deliverAll_updated {ds : List Delivery} {row : TenantSubscription}
    (habout : ∀ d ∈ ds, About platform config tenant d.event)
    (hdistinct : (ds.map fun d => eventId platform d.event).Nodup)
    (hnew : ∀ d ∈ ds, ∀ id, eventId platform d.event = some id → s.events id = none)
    (hrow : s.rowOrNew tenant = some row) :
    (∃ row', (deliverAll platform config ds s).rowOrNew tenant = some row' ∧
      row'.cell = applyAll row.cell (ds.map fun d => writes platform config d.event) ∧
      row'.manualInvoice = row.manualInvoice) ∧
    ((deliverAll platform config ds s).subscriptions tenant = none ↔
      s.subscriptions tenant = none ∧ ∀ d ∈ ds, Silent platform config d.event) := by
  induction ds generalizing s row with
  | nil =>
    refine ⟨⟨row, hrow, rfl, rfl⟩, ?_⟩
    exact ⟨fun h => ⟨h, fun _ hd => absurd hd List.not_mem_nil⟩, And.left⟩
  | cons d ds ih =>
    obtain ⟨hhead, htail⟩ := List.forall_mem_cons.mp habout
    obtain ⟨hfresh, hnodup⟩ := List.nodup_cons.mp hdistinct
    obtain ⟨s', id, hid, hrun, hupdated, hothers⟩ :=
      run_delivery d.now hhead (hnew d List.mem_cons_self) (hrow ▸ rfl)
    obtain ⟨row', hrow', hcell, hmanual⟩ := hupdated.row row hrow
    -- the other events are still new
    have hnew' : ∀ e ∈ ds, ∀ id', eventId platform e.event = some id' → s'.events id' = none := by
      intro e he id' hid'
      have hne : id' ≠ id := by
        rintro rfl
        exact hfresh (List.mem_map.mpr ⟨e, he, hid'.trans hid.symm⟩)
      rw [hothers id' hne]
      exact hnew e (List.mem_cons_of_mem _ he) id' hid'
    obtain ⟨⟨row'', hrow'', hcell'', hmanual''⟩, hnone⟩ := ih htail hnodup hnew' hrow'
    have hdeliver : deliverAll platform config (d :: ds) s = deliverAll platform config ds s' := by
      rw [deliverAll, hrun]
    rw [hdeliver]
    refine ⟨⟨row'', hrow'', ?_, hmanual''.trans hmanual⟩, ?_⟩
    · rw [hcell'', hcell]
      rfl
    · rw [hnone, hupdated.none, List.forall_mem_cons, and_assoc]

/-! ## The order of delivery -/

/-- Stripe created one event before the other. -/
def CreatedBefore (a b : Value) : Prop :=
  ∃ m n : Int, a.get "created" = some (number (.ofInt m)) ∧
    b.get "created" = some (number (.ofInt n)) ∧ m < n

/-- New events about the subscription of the tenant, in the order of their creation and
in the order of their delivery. -/
structure Reordered (platform : Platform) (config : Config) (tenant : Uuid) (s : Store)
    (created delivered : List Delivery) : Prop where
  inOrder : (created.map (·.event)).Pairwise CreatedBefore
  same : (delivered.map (·.event)).Perm (created.map (·.event))
  distinct : (created.map fun d => eventId platform d.event).Nodup
  new : ∀ d ∈ created, ∀ id, eventId platform d.event = some id → s.events id = none
  about : ∀ d ∈ created, About platform config tenant d.event
  tenant : (s.rowOrNew tenant).isSome

section Reordered

variable {created delivered : List Delivery}

theorem Reordered.mem (h : Reordered platform config tenant s created delivered) {d : Delivery}
    (hd : d ∈ delivered) : ∃ e ∈ created, e.event = d.event :=
  List.mem_map.mp (h.same.mem_iff.mp (List.mem_map.mpr ⟨d, hd, rfl⟩))

theorem Reordered.perm (h : Reordered platform config tenant s created delivered) {α : Type}
    (f : Value → α) : (delivered.map fun d => f d.event).Perm (created.map fun d => f d.event) := by
  have hperm := h.same.map f
  rwa [List.map_map, List.map_map] at hperm

/-- **The last event delivered wins.** In each column the row of the tenant holds what the
last event delivered that writes the column wrote; so it is the row that the order of
creation gives exactly where this event and the last one created that writes the column
write the same, for every column. -/
theorem webhook_order (h : Reordered platform config tenant s created delivered) :
    (∃ old row, s.rowOrNew tenant = some old ∧
      (deliverAll platform config delivered s).rowOrNew tenant = some row ∧
      ∀ c, row.cell c
        = (lastWrite (delivered.map fun d => writes platform config d.event) c).getD (old.cell c)) ∧
    ((deliverAll platform config delivered s).subscriptions tenant
        = (deliverAll platform config created s).subscriptions tenant ↔
      ∀ c, lastWrite (delivered.map fun d => writes platform config d.event) c
        = lastWrite (created.map fun d => writes platform config d.event) c) := by
  obtain ⟨old, hold⟩ := Option.isSome_iff_exists.mp h.tenant
  have habout : ∀ d ∈ delivered, About platform config tenant d.event := by
    intro d hd
    obtain ⟨e, he, heq⟩ := h.mem hd
    exact heq ▸ h.about e he
  have hnew : ∀ d ∈ delivered, ∀ id, eventId platform d.event = some id → s.events id = none := by
    intro d hd
    obtain ⟨e, he, heq⟩ := h.mem hd
    exact heq ▸ h.new e he
  have hnodup : (delivered.map fun d => eventId platform d.event).Nodup :=
    (h.perm (eventId platform)).nodup_iff.mpr h.distinct
  -- whether a row is created at all does not depend on the order
  have hsilent : (∀ d ∈ delivered, Silent platform config d.event) ↔
      ∀ d ∈ created, Silent platform config d.event := by
    constructor
    · intro hall d hd
      obtain ⟨e, he, heq⟩ := List.mem_map.mp (h.same.mem_iff.mpr (List.mem_map.mpr ⟨d, hd, rfl⟩))
      exact heq ▸ hall e he
    · intro hall d hd
      obtain ⟨e, he, heq⟩ := h.mem hd
      exact heq ▸ hall e he
  obtain ⟨⟨row, hrow, hcell, hmanual⟩, hnone⟩ := deliverAll_updated habout hnodup hnew hold
  obtain ⟨⟨row', hrow', hcell', hmanual'⟩, hnone'⟩ :=
    deliverAll_updated h.about h.distinct h.new hold
  refine ⟨⟨old, row, hold, hrow, fun c => ?_⟩, ?_⟩
  · rw [hcell, applyAll_eq]
  · rw [← applyAll_eq_iff (h.perm (writes platform config)) old.cell, ← hcell, ← hcell',
      subscriptions_eq_iff hrow hrow' (by rw [hnone, hnone', hsilent])]
    exact ⟨fun heq => heq ▸ rfl, fun heq => TenantSubscription.eq_of_cell heq
      (hmanual.trans hmanual'.symm)⟩

end Reordered

/-! ### A late update -/

/-- An event about the subscription `sub` of the tenant `t`. -/
def stripeEvent (id type : Text) (created : Int) (status : Text) : Value :=
  object [("id", string id), ("type", string type), ("created", number (.ofInt created)),
    ("data", object [("object", object [("id", string "sub"), ("customer", string "cus"),
      ("subscription", string "sub"), ("status", string status),
      ("items", object [("data", array [object [("price", object [("id", string "premium")])]])]),
      ("metadata", object [("tenantId", string "t")])])])]

/-- A delivery at noon. -/
def delivered (id type : Text) (created : Int) (status : Text) : Delivery where
  event := stripeEvent id type created status
  now := someNoon

def checkout : Delivery := delivered "evt1" "checkout.session.completed" 1 "complete"

def subscribed : Delivery := delivered "evt2" "customer.subscription.created" 2 "active"

def deleted : Delivery := delivered "evt3" "customer.subscription.deleted" 3 "canceled"

/-- Two new events, of which the later one is delivered first. -/
theorem reordered_swap {a b : Delivery} (hcreated : CreatedBefore a.event b.event)
    (hids : eventId platform a.event ≠ eventId platform b.event) (hnew : ∀ id, s.events id = none)
    (ha : About platform config tenant a.event) (hb : About platform config tenant b.event)
    (hrow : (s.rowOrNew tenant).isSome) : Reordered platform config tenant s [a, b] [b, a] where
  inOrder := by
    simpa using hcreated
  same := List.Perm.swap ..
  distinct := by
    simpa using hids
  new _ _ id _ := hnew id
  about := by
    intro d hd
    rcases List.mem_pair.mp hd with rfl | rfl
    · exact ha
    · exact hb
  tenant := hrow

theorem about_checkout : About unsignedPlatform liveConfig "t" checkout.event :=
  ⟨by decide +kernel, by decide +kernel, by decide +kernel, by decide +kernel⟩

theorem about_subscribed : About unsignedPlatform liveConfig "t" subscribed.event :=
  ⟨by decide +kernel, by decide +kernel, by decide +kernel, by decide +kernel⟩

theorem about_deleted : About unsignedPlatform liveConfig "t" deleted.event :=
  ⟨by decide +kernel, by decide +kernel, by decide +kernel, by decide +kernel⟩

/-- The checkout and the new subscription may come in either order. -/
theorem webhook_order_checkout :
    (deliverAll unsignedPlatform liveConfig [subscribed, checkout] tenantStore).subscriptions "t"
      = (deliverAll unsignedPlatform liveConfig [checkout, subscribed] tenantStore).subscriptions
        "t" := by
  have hcreated : CreatedBefore checkout.event subscribed.event := ⟨1, 2, rfl, rfl, by decide⟩
  refine (webhook_order (reordered_swap hcreated (by decide +kernel) (fun _ => rfl) about_checkout
    about_subscribed (by decide +kernel))).2.mpr fun c => ?_
  cases c <;> decide +kernel

/-- An update that arrives after the deletion gives the cancelled tenant its plan back. -/
theorem late_update_reentitles :
    Reordered unsignedPlatform liveConfig "t" tenantStore [subscribed, deleted]
      [deleted, subscribed] ∧
    ((deliverAll unsignedPlatform liveConfig [subscribed, deleted] tenantStore).subscriptions
      "t").map (fun row => (row.plan, row.status)) = some (.free, .canceled) ∧
    ((deliverAll unsignedPlatform liveConfig [deleted, subscribed] tenantStore).subscriptions
      "t").map (fun row => (row.plan, row.status)) = some (.premiumShield, .active) := by
  have hcreated : CreatedBefore subscribed.event deleted.event := ⟨2, 3, rfl, rfl, by decide⟩
  refine ⟨?_, by decide +kernel, by decide +kernel⟩
  exact reordered_swap hcreated (by decide +kernel) (fun _ => rfl) about_subscribed about_deleted
    (by decide +kernel)

end Billing
