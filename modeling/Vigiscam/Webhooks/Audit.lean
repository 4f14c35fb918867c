import Vigiscam.Webhooks.Service

/-!
# Every post is recorded, and goes where it belongs (`webhook.service.ts`)

Publishers, broadcasts, deliveries and administrators run at once, and any step may fail. Even so
every post on the wire has its delivery row, with the envelope that it carries and the signature
that it bears; it goes to the endpoint of a subscription of the event type, is signed with the
secret of that subscription, and carries data that was published for its tenant, or to everybody
(`posts_recorded`). A delivery is marked as succeeded only if its endpoint has answered so
(`succeeded_answered`).
-/

namespace Webhooks

open Js Value Concurrency EvidenceVault
open Identity (RequestContext)

/-! ## Runs -/

/-- What a process does. -/
inductive Call where
  | create (actor : AuthenticatedUser) (dto : CreateWebhookSubscriptionDto) (ctx : RequestContext)
  | revoke (actor : AuthenticatedUser) (id : Uuid) (ctx : RequestContext)
  | publish (eventType : WebhookEventType) (tenantId : Option Uuid) (data : Value)
  | broadcast (eventType : WebhookEventType) (data : Value)
  | deliver
  | clock (now : Int)

def Call.program (p : Platform) : Call → Program Unit
  | create actor dto ctx => do let _ ← createSubscription actor dto ctx
  | revoke actor id ctx => do let _ ← revokeSubscription actor id ctx
  | publish eventType tenantId data => Webhooks.publish p eventType tenantId data
  | broadcast eventType data => broadcastPublic p eventType data
  | deliver => runStarted p
  | clock now => tick now

/-- The calls at their start. -/
def calling {ι : Type} (p : Platform) (calls : ι → Call) (s : Store) :
    Pool ι Store (Program Unit) where
  shared := s
  locals i := (calls i).program p

/-- Some call tells the tenant of the data. -/
def Told {ι : Type} (calls : ι → Call) (tenantId : Uuid) (eventType : WebhookEventType)
    (data : Value) : Prop :=
  ∃ i, calls i = .publish eventType (some tenantId) data ∨ calls i = .broadcast eventType data

/-! ## What happens to the rows -/

/-- A subscription keeps all but its status. -/
structure SameSubscription (sub sub' : WebhookSubscription) : Prop where
  id : sub'.id = sub.id
  tenantId : sub'.tenantId = sub.tenantId
  url : sub'.url = sub.url
  secret : sub'.secret = sub.secret
  eventTypes : sub'.eventTypes = sub.eventTypes

/-- A delivery keeps what it carries. -/
structure SameDelivery (d d' : WebhookDelivery) : Prop where
  id : d'.id = d.id
  subscriptionId : d'.subscriptionId = d.subscriptionId
  tenantId : d'.tenantId = d.tenantId
  eventType : d'.eventType = d.eventType
  payload : d'.payload = d.payload
  signature : d'.signature = d.signature

theorem SameSubscription.refl (sub : WebhookSubscription) : SameSubscription sub sub :=
  ⟨rfl, rfl, rfl, rfl, rfl⟩

theorem SameSubscription.trans {a b c : WebhookSubscription} (h : SameSubscription a b)
    (h' : SameSubscription b c) : SameSubscription a c :=
  ⟨h'.id.trans h.id, h'.tenantId.trans h.tenantId, h'.url.trans h.url, h'.secret.trans h.secret,
    h'.eventTypes.trans h.eventTypes⟩

theorem SameDelivery.refl (d : WebhookDelivery) : SameDelivery d d :=
  ⟨rfl, rfl, rfl, rfl, rfl, rfl⟩

theorem SameDelivery.trans {a b c : WebhookDelivery} (h : SameDelivery a b)
    (h' : SameDelivery b c) : SameDelivery a c :=
  ⟨h'.id.trans h.id, h'.subscriptionId.trans h.subscriptionId, h'.tenantId.trans h.tenantId,
    h'.eventType.trans h.eventType, h'.payload.trans h.payload, h'.signature.trans h.signature⟩

/-- Subscriptions and deliveries keep what they are, and what has been posted stays posted. -/
structure Ahead (x y : Store) : Prop where
  subscriptions : ∀ sub ∈ x.subscriptions, ∃ sub' ∈ y.subscriptions, SameSubscription sub sub'
  deliveries : ∀ d ∈ x.deliveries, ∃ d' ∈ y.deliveries, SameDelivery d d'
  wire : x.wire ⊆ y.wire

theorem closed_ahead : Closed Ahead where
  refl _ := ⟨fun sub h => ⟨sub, h, .refl sub⟩, fun d h => ⟨d, h, .refl d⟩, fun _ h => h⟩
  trans := by
    rintro s t u hst htu
    refine ⟨fun sub hsub => ?_, fun d hd => ?_, fun _ h => htu.wire (hst.wire h)⟩
    · obtain ⟨sub', hsub', hsame⟩ := hst.subscriptions sub hsub
      obtain ⟨sub'', hsub'', hsame'⟩ := htu.subscriptions sub' hsub'
      exact ⟨sub'', hsub'', hsame.trans hsame'⟩
    · obtain ⟨d', hd', hsame⟩ := hst.deliveries d hd
      obtain ⟨d'', hd'', hsame'⟩ := htu.deliveries d' hd'
      exact ⟨d'', hd'', hsame.trans hsame'⟩

/-- What leaves the records and the posts as they are. -/
theorem ahead_same {x y : Store} (hsubs : y.subscriptions = x.subscriptions)
    (hdeliveries : y.deliveries = x.deliveries) (hwire : y.wire = x.wire) : Ahead x y where
  subscriptions sub hsub := ⟨sub, hsubs ▸ hsub, .refl sub⟩
  deliveries d hd := ⟨d, hdeliveries ▸ hd, .refl d⟩
  wire := by simp [hwire]

/-! ## What is kept -/

section Kept

variable {p : Platform} {told : Uuid → WebhookEventType → Value → Prop} {x y : Store}
  {m : Message}

/-- The message is one for the subscription, by its secret, with data that it may be told. -/
structure For (p : Platform) (told : Uuid → WebhookEventType → Value → Prop) (m : Message)
    (sub : WebhookSubscription) : Prop where
  subscriptionId : m.subscriptionId = sub.id
  tenantId : m.tenantId = sub.tenantId
  url : m.url = sub.url
  eventType : m.eventType ∈ sub.eventTypes
  signed : ∃ timestamp, m.sigHeader = sigHeader p sub.secret timestamp m.body
  body : m.body = jsonStringify m.envelope
  told : ∃ id occurredAt data, m.envelope = envelope id m.eventType sub.tenantId occurredAt data ∧
    told sub.tenantId m.eventType data

theorem For.same {sub sub' : WebhookSubscription} (h : For p told m sub)
    (hsame : SameSubscription sub sub') : For p told m sub' where
  subscriptionId := h.subscriptionId.trans hsame.id.symm
  tenantId := h.tenantId.trans hsame.tenantId.symm
  url := h.url.trans hsame.url.symm
  eventType := hsame.eventTypes ▸ h.eventType
  signed := hsame.secret ▸ h.signed
  body := h.body
  told := hsame.tenantId ▸ h.told

/-- The message is for a subscription that there is. -/
def Addressed (p : Platform) (told : Uuid → WebhookEventType → Value → Prop) (s : Store)
    (m : Message) : Prop :=
  ∃ sub ∈ s.subscriptions, For p told m sub

theorem Addressed.ahead (h : Addressed p told x m) (hxy : Ahead x y) : Addressed p told y m := by
  obtain ⟨sub, hsub, hfor⟩ := h
  obtain ⟨sub', hsub', hsame⟩ := hxy.subscriptions sub hsub
  exact ⟨sub', hsub', hfor.same hsame⟩

/-- The delivery is that of the message. -/
structure Of (m : Message) (d : WebhookDelivery) : Prop where
  subscriptionId : d.subscriptionId = m.subscriptionId
  tenantId : d.tenantId = m.tenantId
  eventType : d.eventType = m.eventType
  payload : d.payload = m.envelope
  signature : d.signature = m.sigHeader

theorem Of.same {d d' : WebhookDelivery} (h : Of m d) (hsame : SameDelivery d d') : Of m d' where
  subscriptionId := hsame.subscriptionId.trans h.subscriptionId
  tenantId := hsame.tenantId.trans h.tenantId
  eventType := hsame.eventType.trans h.eventType
  payload := hsame.payload.trans h.payload
  signature := hsame.signature.trans h.signature

/-- The delivery of the id is there, and is that of the message. -/
def Stored (s : Store) (m : Message) (deliveryId : Uuid) : Prop :=
  ∃ d ∈ s.deliveries, d.id = deliveryId ∧ Of m d

theorem Stored.ahead {deliveryId : Uuid} (h : Stored x m deliveryId) (hxy : Ahead x y) :
    Stored y m deliveryId := by
  obtain ⟨d, hd, hid, hof⟩ := h
  obtain ⟨d', hd', hsame⟩ := hxy.deliveries d hd
  exact ⟨d', hd', hsame.id.trans hid, hof.same hsame⟩

/-- The post is that of the message. -/
structure Sends (m : Message) (post : Post) : Prop where
  url : post.url = m.url
  signature : post.signature = m.sigHeader
  event : post.event = m.eventType.code
  body : post.body = m.body

/-- What is known of a post: a message that it sends, which is addressed and stored. -/
def Recorded (p : Platform) (told : Uuid → WebhookEventType → Value → Prop) (s : Store)
    (post : Post) : Prop :=
  ∃ m, Sends m post ∧ Addressed p told s m ∧ Stored s m post.deliveryId

/-- The endpoint has answered the delivery with a success, which is the one on record. -/
def Answered (s : Store) (d : WebhookDelivery) : Prop :=
  ∃ post ∈ s.wire, post.deliveryId = d.id ∧
    ∃ res, post.answer = .ok res ∧ res.ok ∧ d.responseStatus = some res.status

structure Audited (p : Platform) (told : Uuid → WebhookEventType → Value → Prop) (s : Store) :
    Prop where
  started : ∀ m ∈ s.started, Addressed p told s m
  wire : ∀ post ∈ s.wire, Recorded p told s post
  succeeded : ∀ d ∈ s.deliveries, d.status = .succeeded → Answered s d

theorem Recorded.ahead {post : Post} (h : Recorded p told x post) (hxy : Ahead x y) :
    Recorded p told y post := by
  obtain ⟨m, hsends, haddressed, hstored⟩ := h
  exact ⟨m, hsends, haddressed.ahead hxy, hstored.ahead hxy⟩

theorem Answered.ahead {d : WebhookDelivery} (h : Answered x d) (hxy : Ahead x y) :
    Answered y d := by
  obtain ⟨post, hpost, hanswer⟩ := h
  exact ⟨post, hxy.wire hpost, hanswer⟩

/-- A process may take any step, relies on `Ahead` and guarantees it. -/
def anywhere : Contract Store DbStep where
  may _ _ := True
  rely := Ahead
  guar := Ahead

/-- A step that leaves started messages, posts and successes alone. -/
theorem Audited.of_ahead (hx : Audited p told x) (hxy : Ahead x y)
    (hstarted : ∀ m ∈ y.started, m ∈ x.started ∨ Addressed p told y m)
    (hwire : ∀ post ∈ y.wire, post ∈ x.wire ∨ Recorded p told y post)
    (hdeliveries : ∀ d ∈ y.deliveries, d.status = .succeeded → d ∈ x.deliveries ∨ Answered y d) :
    Prog.Within (Audited p told) anywhere x y ∧ Ahead x y := by
  refine ⟨⟨⟨fun m hm => ?_, fun post hpost => ?_, fun d hd hstatus => ?_⟩, hxy⟩, hxy⟩
  · rcases hstarted m hm with hold | hnew
    · exact (hx.started m hold).ahead hxy
    · exact hnew
  · rcases hwire post hpost with hold | hnew
    · exact (hx.wire post hold).ahead hxy
    · exact hnew
  · rcases hdeliveries d hd hstatus with hold | hnew
    · exact (hx.succeeded d hold hstatus).ahead hxy
    · exact hnew

theorem within_same (hx : Audited p told x) (hsubs : y.subscriptions = x.subscriptions)
    (hdeliveries : y.deliveries = x.deliveries) (hwire : y.wire = x.wire)
    (hstarted : y.started = x.started) :
    Prog.Within (Audited p told) anywhere x y ∧ Ahead x y := by
  have hxy : Ahead x y := ahead_same hsubs hdeliveries hwire
  refine hx.of_ahead hxy (fun m hm => Or.inl ?_) (fun post hpost => Or.inl ?_)
    fun d hd _ => Or.inl ?_
  · rwa [hstarted] at hm
  · rwa [hwire] at hpost
  · rwa [hdeliveries] at hd

end Kept

/-! ## What the programs ensure -/

section Programs

variable {p : Platform} {told : Uuid → WebhookEventType → Value → Prop} {s : Store} {m : Message}
  {α : Type} {post : α → Store → Prop}

/-- A step that reads goes on with what it has read. -/
theorem ensures_read_bind {β : Type} {f : Store → β} {k : β → Program α}
    (h : ∀ t, Ahead s t → Audited p told t → (k (f t)).Ensures (Audited p told) anywhere post t) :
    (read f >>= k).Ensures (Audited p told) anywhere post s :=
  Prog.Ensures.act_bind fun t hst ht _ => ⟨(within_same ht rfl rfl rfl rfl).1, h t hst ht⟩

/-- The evidence is appended. -/
theorem each_appendEvidence (input : AppendEvidenceInput) :
    (appendEvidence input).Each fun _ x y =>
      Audited p told x → Prog.Within (Audited p told) anywhere x y ∧ Ahead x y :=
  Prog.Each.act fun _ hx => within_same hx rfl rfl rfl rfl

theorem ensures_appendEvidence_bind {input : AppendEvidenceInput} {k : Unit → Program α}
    (h : ∀ t, Ahead s t → (k ()).Ensures (Audited p told) anywhere post t) :
    (appendEvidence input >>= k).Ensures (Audited p told) anywhere post s :=
  Prog.Ensures.each_bind closed_ahead (each_appendEvidence input) fun _ t hst => h t hst

theorem ensures_createSubscription (actor : AuthenticatedUser)
    (dto : CreateWebhookSubscriptionDto) (ctx : RequestContext) :
    (createSubscription actor dto ctx).Ensures (Audited p told) anywhere (fun _ _ => True) s := by
  refine ensures_read_bind fun t _ _ => ?_
  cases Table.find Identity.Tenant.id dto.tenantId t.tenants with
  | none => trivial
  | some tenant =>
    refine Prog.Ensures.act_bind fun u _ hu _ =>
      ⟨(within_same (y := { u with drawn := u.drawn + 1 }) hu rfl rfl rfl rfl).1, ?_⟩
    refine Prog.Ensures.act_bind fun v _ hv _ => ⟨?_, ?_⟩
    · have hahead : Ahead v { v.issue.2 with
          subscriptions := v.subscriptions ++
            [newSubscription dto (utf16 "whsec_" ++ u.randomBytes u.drawn) v.issue.1] } :=
        ⟨fun sub hsub => ⟨sub, List.mem_append_left _ hsub, .refl sub⟩,
          fun d hd => ⟨d, hd, .refl d⟩, fun _ h => h⟩
      exact (hv.of_ahead hahead (fun _ h => Or.inl h) (fun _ h => Or.inl h)
        fun _ h _ => Or.inl h).1
    · exact ensures_appendEvidence_bind fun _ _ _ _ => trivial

theorem within_revoke {x : Store} {id : Uuid} (hx : Audited p told x) :
    Prog.Within (Audited p told) anywhere x { x with
      subscriptions := Table.modify WebhookSubscription.id id (·.revoke x.now)
        x.subscriptions } := by
  have hahead : Ahead x { x with
      subscriptions := Table.modify WebhookSubscription.id id (·.revoke x.now)
        x.subscriptions } := by
    refine ⟨fun sub hsub => ?_, fun d hd => ⟨d, hd, .refl d⟩, fun _ h => h⟩
    refine ⟨_, Table.mem_modify.mpr ⟨sub, hsub, rfl⟩, ?_⟩
    split
    · exact ⟨rfl, rfl, rfl, rfl, rfl⟩
    · exact .refl sub
  exact (hx.of_ahead hahead (fun _ h => Or.inl h) (fun _ h => Or.inl h) fun _ h _ => Or.inl h).1

theorem ensures_revokeSubscription (actor : AuthenticatedUser) (id : Uuid)
    (ctx : RequestContext) :
    (revokeSubscription actor id ctx).Ensures (Audited p told) anywhere (fun _ _ => True) s := by
  refine ensures_read_bind fun t _ _ => ?_
  cases Table.find WebhookSubscription.id id t.subscriptions with
  | none => trivial
  | some sub =>
    dsimp only
    split
    · refine ensures_read_bind fun u _ _ => ?_
      cases Table.find WebhookSubscription.id id u.subscriptions with
      | none => trivial
      | some sub => exact fun _ _ => trivial
    · refine Prog.Ensures.attempt_bind (fun u safe v _ hu _ hupdate => ?_) fun u _ hu _ _ =>
        (within_same hu rfl rfl rfl rfl).1
      obtain ⟨row, -, hpair⟩ := Option.map_eq_some_iff.mp hupdate
      obtain ⟨-, rfl⟩ := Prod.mk.inj hpair
      exact ⟨within_revoke hu, ensures_appendEvidence_bind fun _ _ _ _ => trivial⟩

/-! ### Publishing -/

/-- The deliveries that are started are those of the messages. -/
theorem startOne_foldl (eventType : WebhookEventType) (data : Value) (y : Store)
    (subs : List WebhookSubscription) :
    (subs.foldl (Store.startOne p eventType data) y).subscriptions = y.subscriptions ∧
    (subs.foldl (Store.startOne p eventType data) y).deliveries = y.deliveries ∧
    (subs.foldl (Store.startOne p eventType data) y).wire = y.wire ∧
    ∀ m ∈ (subs.foldl (Store.startOne p eventType data) y).started,
      m ∈ y.started ∨ ∃ z, ∃ sub ∈ subs, m = Store.message p z sub eventType data := by
  induction subs generalizing y with
  | nil => exact ⟨rfl, rfl, rfl, fun m hm => Or.inl hm⟩
  | cons sub rest ih =>
    obtain ⟨hsubs, hdeliveries, hwire, hstarted⟩ := ih (y.startOne p eventType data sub)
    refine ⟨hsubs, hdeliveries, hwire, fun m hm => ?_⟩
    rcases hstarted m hm with hold | ⟨z, sub', hsub', hmessage⟩
    · rcases List.mem_append.mp hold with hold | hnew
      · exact Or.inl hold
      · exact Or.inr ⟨y, sub, List.mem_cons_self, List.mem_singleton.mp hnew⟩
    · exact Or.inr ⟨z, sub', List.mem_cons_of_mem _ hsub', hmessage⟩

/-- What `deliver` computes is for the subscription that it is given. -/
theorem for_message {z : Store} {sub : WebhookSubscription} {eventType : WebhookEventType}
    {data : Value} (hevent : eventType ∈ sub.eventTypes)
    (htold : told sub.tenantId eventType data) :
    For p told (z.message p sub eventType data) sub where
  subscriptionId := rfl
  tenantId := rfl
  url := rfl
  eventType := hevent
  signed := ⟨_, rfl⟩
  body := rfl
  told := ⟨_, _, data, rfl, htold⟩

/-- Deliveries are started for subscriptions that may be told. -/
theorem ensures_start {subs : List WebhookSubscription} {eventType : WebhookEventType}
    {data : Value} (hsubs : ∀ sub ∈ subs, sub ∈ s.subscriptions ∧ eventType ∈ sub.eventTypes ∧
      told sub.tenantId eventType data) :
    (start p subs eventType data).Ensures (Audited p told) anywhere (fun _ _ => True) s := by
  refine fun t hst ht => ⟨fun _ => ⟨?_, fun _ _ => trivial⟩, trivial⟩
  show Prog.Within (Audited p told) anywhere t (subs.foldl (Store.startOne p eventType data) t)
  obtain ⟨hsame, hdeliveries, hwire, hstarted⟩ :=
    startOne_foldl (p := p) eventType data t subs
  have hahead : Ahead t (subs.foldl (Store.startOne p eventType data) t) :=
    ahead_same hsame hdeliveries hwire
  refine (ht.of_ahead hahead (fun m hm => ?_) (fun post hpost => Or.inl (hwire ▸ hpost))
    fun d hd _ => Or.inl (hdeliveries ▸ hd)).1
  rcases hstarted m hm with hold | ⟨z, sub, hsub, rfl⟩
  · exact Or.inl hold
  · obtain ⟨hmem, hevent, htold⟩ := hsubs sub hsub
    have haddressed : Addressed p told s (z.message p sub eventType data) :=
      ⟨sub, hmem, for_message hevent htold⟩
    exact Or.inr ((haddressed.ahead hst).ahead hahead)

theorem ensures_publish {eventType : WebhookEventType} {tenantId : Option Uuid} {data : Value}
    (htold : ∀ t, tenantId = some t → told t eventType data) :
    (publish p eventType tenantId data).Ensures (Audited p told) anywhere (fun _ _ => True) s := by
  rw [publish]
  cases htenant : present tenantId with
  | none => exact fun _ _ => trivial
  | some t =>
    refine ensures_read_bind fun u _ _ => ensures_start fun sub hsub => ?_
    obtain ⟨hmem, hmatches⟩ := List.mem_filter.mp hsub
    obtain ⟨htenantId, -, hevent⟩ := of_decide_eq_true hmatches
    exact ⟨hmem, hevent, htenantId ▸ htold t (eq_some_of_present htenant)⟩

theorem ensures_broadcastPublic {eventType : WebhookEventType} {data : Value}
    (htold : ∀ t, told t eventType data) :
    (broadcastPublic p eventType data).Ensures (Audited p told) anywhere (fun _ _ => True) s := by
  refine ensures_read_bind fun u _ _ => ensures_start fun sub hsub => ?_
  obtain ⟨hmem, hmatches⟩ := List.mem_filter.mp hsub
  exact ⟨hmem, (of_decide_eq_true hmatches : Matches eventType sub).2, htold _⟩

/-! ### Delivering -/

/-- A delivery row is changed in what is written of an answer only. -/
theorem ahead_updateDelivery {x : Store} {id : Uuid} {f : WebhookDelivery → WebhookDelivery}
    (hf : ∀ d, SameDelivery d (f d)) :
    Ahead x { x with deliveries := Table.modify WebhookDelivery.id id f x.deliveries } := by
  refine ⟨fun sub hsub => ⟨sub, hsub, .refl sub⟩, fun d hd => ?_, fun _ h => h⟩
  refine ⟨_, Table.mem_modify.mpr ⟨d, hd, rfl⟩, ?_⟩
  split
  · exact hf d
  · exact .refl d

/-- An update is in order where a row that it makes a success is one that has been answered. -/
theorem ensures_updateDelivery {id : Uuid} {f : Int → WebhookDelivery → WebhookDelivery}
    (hf : ∀ now d, SameDelivery d (f now d))
    (hanswered : ∀ t, Ahead s t → ∀ now d, d.id = id → (f now d).status = .succeeded →
      Answered t (f now d)) :
    (updateDelivery id f).Ensures (Audited p told) anywhere (fun _ _ => True) s := by
  refine Prog.Ensures.attempt_last (fun t u v hst ht _ hupdate => ?_) fun t _ ht _ _ =>
    (within_same ht rfl rfl rfl rfl).1
  obtain ⟨_, -, hpair⟩ := Option.map_eq_some_iff.mp hupdate
  obtain ⟨-, rfl⟩ := Prod.mk.inj hpair
  refine ⟨?_, fun _ _ => trivial⟩
  refine (ht.of_ahead (ahead_updateDelivery (hf t.now)) (fun _ h => Or.inl h)
    (fun _ h => Or.inl h) fun d hd hstatus => ?_).1
  obtain ⟨row, hrow, rfl⟩ := Table.mem_modify.mp hd
  by_cases hid : row.id = id
  · rw [if_pos hid] at hstatus ⊢
    exact Or.inr ((hanswered t hst t.now row hid hstatus).ahead
      (ahead_updateDelivery (hf t.now)))
  · rw [if_neg hid]
    exact Or.inl hrow

theorem ensures_noteError (id : Uuid) (text : Text) :
    (noteError id text).Ensures (Audited p told) anywhere (fun _ _ => True) s := by
  refine Prog.Ensures.tryCatch (ensures_updateDelivery (fun _ _ => ⟨rfl, rfl, rfl, rfl, rfl, rfl⟩)
    fun _ _ _ _ _ hstatus => ?_) fun _ _ _ _ => trivial
  cases hstatus

/-- What is left of a delivery that has been posted. -/
theorem ensures_outcome {deliveryId : Uuid} {answer : Except Text Response} :
    (∃ post ∈ s.wire, post.deliveryId = deliveryId ∧ post.answer = answer) →
    (match answer with
      | .error text => noteError deliveryId text
      | .ok res => updateDelivery deliveryId fun now => WebhookDelivery.answered res now :
        Program Unit).Ensures (Audited p told) anywhere (fun _ _ => True) s := by
  intro hposted
  cases answer with
  | error text => exact ensures_noteError deliveryId text
  | ok res =>
    refine ensures_updateDelivery (fun _ _ => ⟨rfl, rfl, rfl, rfl, rfl, rfl⟩)
      fun t hst now d hid hstatus => ?_
    obtain ⟨post, hpost, hdelivery, hanswer⟩ := hposted
    have hok : res.ok = true := by
      by_contra hnot
      simp [WebhookDelivery.answered, hnot] at hstatus
    exact ⟨post, hst.wire hpost, hdelivery.trans hid.symm, res, hanswer, hok, rfl⟩

/-- **A delivery** records its message before it posts it. -/
theorem ensures_deliver (hm : Addressed p told s m) :
    (deliver p m).Ensures (Audited p told) anywhere (fun _ _ => True) s := by
  have hcreate : (tryCatch (do return some (← createDelivery m)) fun _ => pure none :
      Program (Option WebhookDelivery)).Ensures (Audited p told) anywhere
        (fun r t => ∀ d, r = some d → Stored t m d.id) s := by
    refine Prog.Ensures.tryCatch (Prog.Ensures.act_bind fun t hst ht _ => ?_)
      fun _ _ _ _ _ hnone => by cases hnone
    have hahead : Ahead t { t.issue.2 with
        deliveries := t.deliveries ++ [newDelivery m t.now t.issue.1] } :=
      ⟨fun sub hsub => ⟨sub, hsub, .refl sub⟩,
        fun d hd => ⟨d, List.mem_append_left _ hd, .refl d⟩, fun _ h => h⟩
    refine ⟨(ht.of_ahead hahead (fun _ h => Or.inl h) (fun _ h => Or.inl h)
      fun d hd hstatus => ?_).1, fun u htu d hd => ?_⟩
    · rcases List.mem_append.mp hd with hold | hnew
      · exact Or.inl hold
      · obtain rfl := List.mem_singleton.mp hnew
        cases hstatus
    · obtain rfl := Option.some.inj hd
      have hstored : Stored { t.issue.2 with
          deliveries := t.deliveries ++ [newDelivery m t.now t.issue.1] } m t.issue.1 :=
        ⟨_, List.mem_append_right _ (List.mem_singleton_self _), rfl, ⟨rfl, rfl, rfl, rfl, rfl⟩⟩
      exact hstored.ahead htu
  refine Prog.Ensures.bind closed_ahead (hcreate.frame closed_ahead (fun _ _ h => h)
    fun _ _ h => h) ?_
  rintro r t ⟨hstored, hst⟩
  cases r with
  | none => exact fun _ _ => trivial
  | some delivery =>
    refine Prog.Ensures.tryCatch (Prog.Ensures.act_bind fun u htu hu _ => ?_)
      fun _ _ => ensures_noteError _ _
    have hahead : Ahead u { u with
        wire := u.wire ++ [{
          url := m.url
          signature := m.sigHeader
          event := m.eventType.code
          deliveryId := delivery.id
          body := m.body
          answer := u.answers u.wire.length }] } :=
      ⟨fun sub hsub => ⟨sub, hsub, .refl sub⟩, fun d hd => ⟨d, hd, .refl d⟩,
        fun _ h => List.mem_append_left _ h⟩
    refine ⟨(hu.of_ahead hahead (fun _ h => Or.inl h) (fun post hpost => ?_)
      fun _ h _ => Or.inl h).1, ensures_outcome ⟨_, List.mem_append_right _
        (List.mem_singleton_self _), rfl, rfl⟩⟩
    rcases List.mem_append.mp hpost with hold | hnew
    · exact Or.inl hold
    · obtain rfl := List.mem_singleton.mp hnew
      exact Or.inr ⟨m, ⟨rfl, rfl, rfl, rfl⟩, ((hm.ahead hst).ahead htu).ahead hahead,
        ((hstored delivery rfl).ahead htu).ahead hahead⟩

theorem ensures_runStarted :
    (runStarted p).Ensures (Audited p told) anywhere (fun _ _ => True) s := by
  refine Prog.Ensures.act_bind fun t hst ht _ => ⟨?_, ?_⟩
  · have hahead : Ahead t { t with started := t.started.tail } := ahead_same rfl rfl rfl
    exact (ht.of_ahead hahead (fun _ h => Or.inl (List.mem_of_mem_tail h)) (fun _ h => Or.inl h)
      fun _ h _ => Or.inl h).1
  · dsimp only
    cases hhead : t.started.head? with
    | none => exact fun _ _ => trivial
    | some m =>
      obtain ⟨sub, hsub, hfor⟩ := ht.started m (List.mem_of_mem_head? hhead)
      exact ensures_deliver ⟨sub, hsub, hfor⟩

theorem ensures_call {ι : Type} (calls : ι → Call) (i : ι) :
    ((calls i).program p).Ensures (Audited p (Told calls)) anywhere (fun _ _ => True) s := by
  cases hcall : calls i with
  | create actor dto ctx =>
    exact Prog.Ensures.bind closed_ahead (ensures_createSubscription actor dto ctx)
      fun _ _ _ _ _ => trivial
  | revoke actor id ctx =>
    exact Prog.Ensures.bind closed_ahead (ensures_revokeSubscription actor id ctx)
      fun _ _ _ _ _ => trivial
  | publish eventType tenantId data =>
    exact ensures_publish fun t ht => ⟨i, Or.inl (by rw [hcall, ht])⟩
  | broadcast eventType data => exact ensures_broadcastPublic fun t => ⟨i, Or.inr hcall⟩
  | deliver => exact ensures_runStarted
  | clock now =>
    refine fun t _ ht => ⟨fun _ => ⟨?_, fun _ _ => trivial⟩, trivial⟩
    exact (within_same (y := { t with now }) ht rfl rfl rfl rfl).1

end Programs

/-! ## Runs -/

section Runs

variable {ι : Type} [DecidableEq ι] {p : Platform} {calls : ι → Call} {s : Store}
  {t : Pool ι Store (Program Unit)}

abbrev WebhookRun : Pool ι Store (Program Unit) → Pool ι Store (Program Unit) → Prop :=
  Pool.Run (Prog.interleaved fun _ _ => True)

theorem run_audited (hs : Audited p (Told calls) s) (hrun : WebhookRun (calling p calls s) t) :
    Audited p (Told calls) t.shared :=
  (Run.ensures (c := fun _ => anywhere) (fun _ _ _ => True) hrun (fun _ => closed_ahead)
    (fun _ => closed_ahead.refl) (fun _ _ _ _ _ h => h) hs fun i => ensures_call calls i).1

/-- A store in which nothing has been delivered yet. -/
structure Quiet (s : Store) : Prop where
  started : s.started = []
  wire : s.wire = []
  deliveries : s.deliveries = []

theorem Quiet.audited {told : Uuid → WebhookEventType → Value → Prop} (h : Quiet s) :
    Audited p told s := by
  refine ⟨fun m hm => ?_, fun post hpost => ?_, fun d hd => ?_⟩
  · rw [h.started] at hm
    cases hm
  · rw [h.wire] at hpost
    cases hpost
  · rw [h.deliveries] at hd
    cases hd

/-- An endpoint that is told of verified signals, and answers that it is well. -/
def sampleSubscription : WebhookSubscription where
  id := "W"
  tenantId := "T"
  url := "https://bank.example/hook"
  secret := "whsec_1"
  eventTypes := [.signalVerified]
  status := .active
  revokedAt := none

def sampleEndpoint : Store where
  tenants := []
  subscriptions := [sampleSubscription]
  deliveries := []
  started := []
  wire := []
  evidence := []
  now := 1000
  uuid n := Number.toText (Number.ofInt n)
  issued := 0
  randomBytes n := Number.toText (Number.ofInt n)
  drawn := 0
  answers _ := .ok ⟨200, "ok"⟩

def samplePlatform : Platform where
  hmac secret message := secret ++ utf16 "." ++ message
  newDate _ := Date.sampleDay
  errorText _ := "error"

/-- One process publishes, and the other one delivers. -/
def sampleCalls : Bool → Call
  | true => .publish .signalVerified (some "T") (.object [])
  | false => .deliver

def sampleDelivered : Pool Bool Store (Program Unit) :=
  Prog.turns (calling samplePlatform sampleCalls sampleEndpoint) [(true, 2), (false, 4)]

theorem sampleDelivered_run :
    WebhookRun (calling samplePlatform sampleCalls sampleEndpoint) sampleDelivered :=
  Prog.run_turns .refl (Prog.permittedTurns_true _ _)

/-- **A delivery is marked as succeeded only if its endpoint has answered so**, with the status
that is on record. -/
theorem succeeded_answered (hs : Quiet s) (hrun : WebhookRun (calling p calls s) t) :
    ∀ d ∈ t.shared.deliveries, d.status = .succeeded → ∃ post ∈ t.shared.wire,
      post.deliveryId = d.id ∧ ∃ res, post.answer = .ok res ∧ res.ok ∧
        d.responseStatus = some res.status :=
  fun d hd hstatus => (run_audited hs.audited hrun).succeeded d hd hstatus

theorem succeeded_answered_sample : ∃ d ∈ sampleDelivered.shared.deliveries,
    d.status = .succeeded ∧ ∃ post ∈ sampleDelivered.shared.wire,
      post.deliveryId = d.id ∧ ∃ res, post.answer = .ok res ∧ res.ok ∧
        d.responseStatus = some res.status := by
  have hstatus : sampleDelivered.shared.deliveries.map (·.status) = [.succeeded] := by rfl
  obtain ⟨d, hd, hsucceeded⟩ :=
    List.mem_map.mp (hstatus ▸ List.mem_singleton_self WebhookDeliveryStatus.succeeded)
  exact ⟨d, hd, hsucceeded, succeeded_answered ⟨rfl, rfl, rfl⟩ sampleDelivered_run d hd hsucceeded⟩

end Runs

end Webhooks
