import Vigiscam.Webhooks.Audit
import Vigiscam.Js.Number

/-!
# What a partner can rely on (`webhook.service.ts`)

The signature of a post binds its time and its body: who signs another body with it has found a
collision of the HMAC (`altered_post_collides`). A subscription that is revoked while nothing is
under way for it stays silent: whatever is published from then on, it gets no delivery, and every
post is of a delivery for another one (`revoked_silent`).
-/

namespace Webhooks

open Js Value Concurrency EvidenceVault
open Identity (RequestContext)

/-! ## Signatures -/

section Signatures

variable {p : Platform} {secret : Text} {t t' : Int} {body body' : Text}

/-- A header determines its time, and the signature in it. -/
theorem sigHeader_inj (h : sigHeader p secret t body = sigHeader p secret t' body') :
    t = t' ∧ p.hmac secret (signedPayload t body) = p.hmac secret (signedPayload t' body') := by
  have hcomma : ∀ r, Stops Number.isNumberUnit (utf16 ",v1=" ++ r) := fun _ => by
    show ¬ Number.isNumberUnit 0x2C
    decide
  unfold sigHeader at h
  simp only [List.append_assoc] at h
  obtain ⟨htime, hrest⟩ :=
    Number.toText_append_inj (hcomma _) (hcomma _) (List.append_cancel_left h)
  exact ⟨Number.ofInt_inj htime, List.append_cancel_left hrest⟩

theorem signedPayload_inj (h : signedPayload t body = signedPayload t body') : body = body' :=
  List.append_cancel_left h

/-- Two different texts with one signature. -/
def Collide (p : Platform) (secret message message' : Text) : Prop :=
  message ≠ message' ∧ p.hmac secret message = p.hmac secret message'

/-- Another body under the same header is a collision. -/
theorem collide_of_sigHeader (h : sigHeader p secret t body = sigHeader p secret t' body')
    (hbody : body ≠ body') : Collide p secret (signedPayload t body) (signedPayload t body') := by
  obtain ⟨rfl, hsame⟩ := sigHeader_inj h
  exact ⟨fun hpayload => hbody (signedPayload_inj hpayload), hsame⟩

end Signatures

/-- **Posts cannot be altered**: in every run, a post is signed with the secret of a subscription
there is, and nobody finds another body that its signature fits, for any time, unless the two
collide. -/
theorem altered_post_collides {ι : Type} [DecidableEq ι] {p : Platform} {calls : ι → Call}
    {s : Store} {t : Pool ι Store (Program Unit)} (hs : Quiet s)
    (hrun : WebhookRun (calling p calls s) t) :
    ∀ post ∈ t.shared.wire, ∃ sub ∈ t.shared.subscriptions, post.url = sub.url ∧
      ∃ time, post.signature = sigHeader p sub.secret time post.body ∧
        ∀ time' body, post.signature = sigHeader p sub.secret time' body → time' = time ∧
          (body = post.body ∨
            Collide p sub.secret (signedPayload time post.body) (signedPayload time body)) := by
  intro post hpost
  obtain ⟨m, hsends, ⟨sub, hsub, hfor⟩, -⟩ := (run_audited hs.audited hrun).wire post hpost
  obtain ⟨time, hsigned⟩ := hfor.signed
  have hsignature : post.signature = sigHeader p sub.secret time post.body := by
    rw [hsends.signature, hsigned, hsends.body]
  refine ⟨sub, hsub, hsends.url.trans hfor.url, time, hsignature, fun time' body h => ?_⟩
  have hheader := hsignature.symm.trans h
  refine ⟨(sigHeader_inj hheader).1.symm, ?_⟩
  by_cases hbody : post.body = body
  · exact Or.inl hbody.symm
  · exact Or.inr (collide_of_sigHeader hheader hbody)

theorem altered_post_collides_sample :
    sampleDelivered.shared.wire ≠ [] ∧ ∀ post ∈ sampleDelivered.shared.wire,
    ∃ sub ∈ sampleDelivered.shared.subscriptions, post.url = sub.url ∧
      ∃ time, post.signature = sigHeader samplePlatform sub.secret time post.body ∧
        ∀ time' body, post.signature = sigHeader samplePlatform sub.secret time' body →
          time' = time ∧ (body = post.body ∨ Collide samplePlatform sub.secret
            (signedPayload time post.body) (signedPayload time body)) :=
  ⟨List.cons_ne_nil _ _, altered_post_collides ⟨rfl, rfl, rfl⟩ sampleDelivered_run⟩

/-! ## Revoked subscriptions -/

/-- Subscriptions have ids of their own, which are not issued again. -/
structure WellIssued (s : Store) : Prop where
  injective : Function.Injective s.uuid
  fresh : ∀ n, s.issued ≤ n → s.uuid n ∉ s.subscriptions.map WebhookSubscription.id
  nodup : (s.subscriptions.map WebhookSubscription.id).Nodup

def Withdrawn (id : Uuid) (s : Store) : Prop :=
  ∃ sub, Table.find WebhookSubscription.id id s.subscriptions = some sub ∧ sub.status = .revoked

/-- Ids stay distinct, and a subscription that is revoked stays so. -/
def Keeps (id : Uuid) (x y : Store) : Prop :=
  WellIssued x → WellIssued y ∧ (Withdrawn id x → Withdrawn id y)

section Keeps

variable {p : Platform} {id : Uuid} {x y : Store}

theorem keeps_same (hsubs : y.subscriptions = x.subscriptions) (huuid : y.uuid = x.uuid)
    (hissued : x.issued ≤ y.issued) : Keeps id x y := by
  intro hx
  refine ⟨⟨huuid ▸ hx.injective, fun n hn => ?_, hsubs ▸ hx.nodup⟩, ?_⟩
  · rw [hsubs, huuid]
    exact hx.fresh n (le_trans hissued hn)
  · rintro ⟨sub, hfind, hstatus⟩
    exact ⟨sub, hsubs ▸ hfind, hstatus⟩

theorem keeps_insert {dto : CreateWebhookSubscriptionDto} {secret : Text} :
    Keeps id x { x.issue.2 with
      subscriptions := x.subscriptions ++ [newSubscription dto secret x.issue.1] } := by
  intro hx
  refine ⟨⟨hx.injective, Table.issued_append hx.injective hx.fresh rfl,
    Table.nodup_append_new hx.nodup (hx.fresh x.issued (le_refl _))⟩, ?_⟩
  rintro ⟨sub, hfind, hstatus⟩
  exact ⟨sub, Table.find_append_of_find hfind, hstatus⟩

theorem keeps_revoke {k : Uuid} {now : Int} :
    Keeps id x { x with
      subscriptions := Table.modify WebhookSubscription.id k (·.revoke now) x.subscriptions } := by
  have hids : (Table.modify WebhookSubscription.id k (·.revoke now) x.subscriptions).map
      WebhookSubscription.id = x.subscriptions.map WebhookSubscription.id :=
    Table.map_modify fun _ => rfl
  have hid : ∀ sub : WebhookSubscription, (sub.revoke now).id = sub.id := fun _ => rfl
  intro hx
  refine ⟨⟨hx.injective, fun n hn => ?_, ?_⟩, ?_⟩
  · rw [hids]
    exact hx.fresh n hn
  · rw [hids]
    exact hx.nodup
  · rintro ⟨sub, hfind, hstatus⟩
    by_cases hk : id = k
    · subst hk
      exact ⟨sub.revoke now, (Table.find_modify_self hid).trans (hfind ▸ rfl), rfl⟩
    · exact ⟨sub, (Table.find_modify_of_ne hid hk).trans hfind, hstatus⟩

/-- What is started takes ids, and leaves the subscriptions as they are. -/
theorem startOne_foldl_same (eventType : WebhookEventType) (data : Value) (y : Store)
    (subs : List WebhookSubscription) :
    (subs.foldl (Store.startOne p eventType data) y).uuid = y.uuid ∧
      y.issued ≤ (subs.foldl (Store.startOne p eventType data) y).issued := by
  induction subs generalizing y with
  | nil => exact ⟨rfl, le_refl _⟩
  | cons sub rest ih =>
    obtain ⟨huuid, hissued⟩ := ih (y.startOne p eventType data sub)
    exact ⟨huuid, le_trans (Nat.le_succ y.issued) hissued⟩

theorem keeps_start {eventType : WebhookEventType} {data : Value}
    (subs : List WebhookSubscription) :
    Keeps id x (subs.foldl (Store.startOne p eventType data) x) := by
  obtain ⟨hsubs, -⟩ := startOne_foldl (p := p) eventType data x subs
  obtain ⟨huuid, hissued⟩ := startOne_foldl_same (p := p) eventType data x subs
  exact keeps_same hsubs huuid hissued

/-- A step that starts no delivery, records none and posts none. -/
structure Hushed (id : Uuid) (x y : Store) : Prop where
  keeps : Keeps id x y
  ahead : Ahead x y
  started : y.started ⊆ x.started
  deliveries : ∀ d ∈ y.deliveries, ∃ d' ∈ x.deliveries, SameDelivery d' d
  wire : y.wire ⊆ x.wire

/-- A step on the subscriptions is of that kind, where it keeps them. -/
theorem hushed_of_keeps (hkeeps : Keeps id x y) (hahead : Ahead x y)
    (hstarted : y.started = x.started) (hdeliveries : y.deliveries = x.deliveries)
    (hwire : y.wire = x.wire) : Hushed id x y where
  keeps := hkeeps
  ahead := hahead
  started := by simp [hstarted]
  deliveries d hd := ⟨d, hdeliveries ▸ hd, .refl d⟩
  wire := by simp [hwire]

theorem hushed_same (hsubs : y.subscriptions = x.subscriptions) (huuid : y.uuid = x.uuid)
    (hissued : x.issued ≤ y.issued) (hstarted : y.started = x.started)
    (hdeliveries : y.deliveries = x.deliveries) (hwire : y.wire = x.wire) : Hushed id x y :=
  hushed_of_keeps (keeps_same hsubs huuid hissued) (ahead_same hsubs hdeliveries hwire) hstarted
    hdeliveries hwire

/-! ### The programs, step by step -/

theorem hushed_read {α : Type} (f : Store → α) : (read f).Each fun _ x y => Hushed id x y :=
  Prog.Each.act fun _ => hushed_same rfl rfl (le_refl _) rfl rfl rfl

theorem hushed_appendEvidence (input : AppendEvidenceInput) :
    (appendEvidence input).Each fun _ x y => Hushed id x y :=
  Prog.Each.act fun _ => hushed_same rfl rfl (le_refl _) rfl rfl rfl

theorem hushed_createSubscription (actor : AuthenticatedUser)
    (dto : CreateWebhookSubscriptionDto) (ctx : RequestContext) :
    (createSubscription actor dto ctx).Each fun _ x y => Hushed id x y := by
  refine Prog.Each.bind (hushed_read _) fun tenant => ?_
  cases tenant with
  | none => exact Prog.Each.throw _
  | some tenant =>
    have hdraw : generateSecret.Each fun _ x y => Hushed id x y :=
      Prog.Each.act fun _ => hushed_same rfl rfl (le_refl _) rfl rfl rfl
    refine Prog.Each.bind hdraw fun secret => ?_
    have hinsert : (insertSubscription dto secret).Each fun _ x y => Hushed id x y := by
      refine Prog.Each.act fun x => hushed_of_keeps keeps_insert ?_ rfl rfl rfl
      exact ⟨fun sub hsub => ⟨sub, List.mem_append_left _ hsub, .refl sub⟩,
        fun d hd => ⟨d, hd, .refl d⟩, fun _ h => h⟩
    exact Prog.Each.bind hinsert fun record =>
      Prog.Each.bind (hushed_appendEvidence _) fun _ => Prog.Each.pure _

theorem hushed_setRevoked (k : Uuid) : (setRevoked k).Each fun _ x y => Hushed id x y := by
  refine Prog.Each.attempt (fun x a y hupdate => ?_) fun _ _ =>
    hushed_same rfl rfl (le_refl _) rfl rfl rfl
  obtain ⟨row, -, hpair⟩ := Option.map_eq_some_iff.mp hupdate
  obtain ⟨-, rfl⟩ := Prod.mk.inj hpair
  refine hushed_of_keeps keeps_revoke ?_ rfl rfl rfl
  refine ⟨fun sub hsub => ⟨_, Table.mem_modify.mpr ⟨sub, hsub, rfl⟩, ?_⟩,
    fun d hd => ⟨d, hd, .refl d⟩, fun _ h => h⟩
  split
  · exact ⟨rfl, rfl, rfl, rfl, rfl⟩
  · exact .refl sub

theorem hushed_revokeSubscription (actor : AuthenticatedUser) (k : Uuid) (ctx : RequestContext) :
    (revokeSubscription actor k ctx).Each fun _ x y => Hushed id x y := by
  refine Prog.Each.bind (hushed_read _) fun sub => ?_
  cases sub with
  | none => exact Prog.Each.throw _
  | some sub =>
    dsimp only
    split
    · refine Prog.Each.bind (hushed_read _) fun sub => ?_
      cases sub with
      | none => exact Prog.Each.throw _
      | some sub => exact Prog.Each.pure _
    · exact Prog.Each.bind (hushed_setRevoked k) fun updated =>
        Prog.Each.bind (hushed_appendEvidence _) fun _ => Prog.Each.pure _

theorem hushed_updateDelivery (k : Uuid) {f : Int → WebhookDelivery → WebhookDelivery}
    (hf : ∀ now d, SameDelivery d (f now d)) :
    (updateDelivery k f).Each fun _ x y => Hushed id x y := by
  refine Prog.Each.attempt (fun x a y hupdate => ?_) fun _ _ =>
    hushed_same rfl rfl (le_refl _) rfl rfl rfl
  obtain ⟨row, -, hpair⟩ := Option.map_eq_some_iff.mp hupdate
  obtain ⟨-, rfl⟩ := Prod.mk.inj hpair
  refine ⟨keeps_same rfl rfl (le_refl _), ahead_updateDelivery (hf x.now), fun _ h => h,
    fun d hd => ?_, fun _ h => h⟩
  obtain ⟨d', hd', rfl⟩ := Table.mem_modify.mp hd
  refine ⟨d', hd', ?_⟩
  split
  · exact hf x.now d'
  · exact .refl d'

theorem hushed_noteError (k : Uuid) (text : Text) :
    (noteError k text).Each fun _ x y => Hushed id x y :=
  (hushed_updateDelivery (f := fun _ => WebhookDelivery.errored text) k
    fun _ _ => ⟨rfl, rfl, rfl, rfl, rfl, rfl⟩).tryCatch fun _ => Prog.Each.pure _

/-- What is left of a delivery that has been posted. -/
theorem hushed_outcome (k : Uuid) (answer : Except Text Response) :
    (match answer with
      | .error text => noteError k text
      | .ok res => updateDelivery k fun now => WebhookDelivery.answered res now :
        Program Unit).Each fun _ x y => Hushed id x y := by
  cases answer with
  | error text => exact hushed_noteError k text
  | ok res => exact hushed_updateDelivery k fun _ _ => ⟨rfl, rfl, rfl, rfl, rfl, rfl⟩

theorem keeps_deliver (m : Message) : (deliver p m).Each fun _ x y => Keeps id x y := by
  have hcreate : (createDelivery m).Each fun _ x y => Keeps id x y :=
    Prog.Each.act fun x => keeps_same rfl rfl (Nat.le_succ x.issued)
  refine Prog.Each.bind ((Prog.Each.bind hcreate fun _ => Prog.Each.pure _).tryCatch
    fun _ => Prog.Each.pure _) fun delivery => ?_
  cases delivery with
  | none => exact Prog.Each.pure _
  | some delivery =>
    refine Prog.Each.tryCatch ?_ fun _ =>
      (hushed_noteError delivery.id _).mono fun _ _ _ h => h.keeps
    have hpost : (post m delivery.id).Each fun _ x y => Keeps id x y :=
      Prog.Each.act fun _ => keeps_same rfl rfl (le_refl _)
    exact Prog.Each.bind hpost fun answer =>
      (hushed_outcome delivery.id answer).mono fun _ _ _ h => h.keeps

theorem keeps_publishing {eventType : WebhookEventType} {data : Value}
    (f : Store → List WebhookSubscription) :
    (do start p (← read f) eventType data : Program Unit).Each fun _ x y => Keeps id x y :=
  Prog.Each.bind ((hushed_read f).mono fun _ _ _ h => h.keeps) fun subs =>
    Prog.Each.act fun _ => keeps_start subs

theorem keeps_call (call : Call) : (call.program p).Each fun _ x y => Keeps id x y := by
  cases call with
  | create actor dto ctx =>
    exact Prog.Each.bind ((hushed_createSubscription actor dto ctx).mono fun _ _ _ h => h.keeps)
      fun _ => Prog.Each.pure _
  | revoke actor k ctx =>
    exact Prog.Each.bind ((hushed_revokeSubscription actor k ctx).mono fun _ _ _ h => h.keeps)
      fun _ => Prog.Each.pure _
  | publish eventType tenantId data =>
    show (publish p eventType tenantId data).Each fun _ x y => Keeps id x y
    rw [publish]
    cases present tenantId with
    | none => exact Prog.Each.pure _
    | some t => exact keeps_publishing _
  | broadcast eventType data => exact keeps_publishing _
  | deliver =>
    refine Prog.Each.bind (Prog.Each.act fun _ => keeps_same rfl rfl (le_refl _)) fun m => ?_
    cases m with
    | none => exact Prog.Each.pure _
    | some m => exact keeps_deliver m
  | clock now => exact Prog.Each.act fun _ => keeps_same rfl rfl (le_refl _)

end Keeps

/-! ### The revocation -/

section Revocation

variable {ι : Type} [DecidableEq ι] {p : Platform} {calls : ι → Call} {id : Uuid} {s : Store}
  {u : Pool ι Store (Program Unit)}

/-- A process relies on revoked subscriptions to stay so. -/
def keeping (id : Uuid) : Contract Store DbStep where
  may _ _ := True
  rely x y := Withdrawn id x → Withdrawn id y
  guar x y := Withdrawn id x → Withdrawn id y

theorem closed_keeping : Closed (keeping id).rely where
  refl _ := fun h => h
  trans hst htu := fun h => htu (hst h)

theorem within_of_keeps {x y : Store} (h : Keeps id x y) (hx : WellIssued x) :
    Prog.Within WellIssued (keeping id) x y ∧ (keeping id).rely x y :=
  ⟨⟨(h hx).1, (h hx).2⟩, (h hx).2⟩

theorem ensures_revoke_withdrawn (actor : AuthenticatedUser) (ctx : RequestContext) :
    (revokeSubscription actor id ctx).Ensures WellIssued (keeping id)
      (fun _ t => Withdrawn id t) s := by
  have hread : ∀ {t : Store}, WellIssued t → Prog.Within WellIssued (keeping id) t t :=
    fun ht => ⟨ht, fun h => h⟩
  refine Prog.Ensures.act_bind fun t _ ht _ => ⟨hread ht, ?_⟩
  dsimp only
  cases hfind : Table.find WebhookSubscription.id id t.subscriptions with
  | none => trivial
  | some sub =>
    dsimp only
    split
    · rename_i hstatus
      refine Prog.Ensures.act_bind fun v htv hv _ => ⟨hread hv, ?_⟩
      dsimp only
      cases Table.find WebhookSubscription.id id v.subscriptions with
      | none => trivial
      | some sub' => exact fun w hvw => hvw (htv ⟨sub, hfind, hstatus⟩)
    · refine Prog.Ensures.attempt_bind (fun v safe w _ hv _ hupdate => ?_) fun v _ hv _ _ =>
        hread hv
      obtain ⟨row, hrow, hpair⟩ := Option.map_eq_some_iff.mp hupdate
      obtain ⟨-, rfl⟩ := Prod.mk.inj hpair
      have hid : ∀ sub : WebhookSubscription, (sub.revoke v.now).id = sub.id := fun _ => rfl
      have hwithdrawn : Withdrawn id { v with
          subscriptions := Table.modify WebhookSubscription.id id (·.revoke v.now)
            v.subscriptions } :=
        ⟨row.revoke v.now, (Table.find_modify_self hid).trans (hrow ▸ rfl), rfl⟩
      exact ⟨(within_of_keeps keeps_revoke hv).1, Prog.Ensures.each_bind closed_keeping
        ((hushed_appendEvidence _).mono fun _ _ _ h => within_of_keeps h.keeps)
          fun _ z hwz t hzt => hzt (hwz hwithdrawn)⟩

/-- A revocation that has returned has revoked the subscription. -/
theorem withdrawn_of_returned {actor : AuthenticatedUser} {ctx : RequestContext} {j : ι}
    (hs : WellIssued s) (hrun : WebhookRun (calling p calls s) u)
    (hj : calls j = .revoke actor id ctx) (hdone : Prog.returned (u.locals j) = some ()) :
    WellIssued u.shared ∧ Withdrawn id u.shared := by
  have hend : WellIssued u.shared ∧ ∀ i, (u.locals i).Ensures WellIssued (keeping id)
      (fun _ t => i = j → Withdrawn id t) u.shared := by
    refine Run.ensures (c := fun _ => keeping id) (fun i _ t => i = j → Withdrawn id t) hrun
      (fun _ => closed_keeping) (fun _ _ h => h) (fun _ _ _ _ _ h => h) hs fun i => ?_
    by_cases hi : i = j
    · subst hi
      show ((calls i).program p).Ensures _ _ _ _
      rw [hj]
      exact Prog.Ensures.bind closed_keeping (ensures_revoke_withdrawn actor ctx)
        fun _ t ht v htv _ => htv ht
    · exact Prog.Ensures.each closed_keeping ((keeps_call (calls i)).mono
        fun _ _ _ h => within_of_keeps h) fun _ _ _ h => absurd h hi
  have hensures := hend.2 j
  rw [Prog.eq_pure_of_returned hdone] at hensures
  exact ⟨hend.1, hensures u.shared (closed_keeping.refl _) rfl⟩

end Revocation

/-! ### Silence -/

/-- From `s₀` on, nothing has been delivered to the subscription. -/
structure Silent (id : Uuid) (s₀ s : Store) : Prop where
  wellIssued : WellIssued s
  withdrawn : Withdrawn id s
  started : ∀ m ∈ s.started, m.subscriptionId ≠ id
  deliveries : ∀ d ∈ s.deliveries, d.subscriptionId = id → ∃ d₀ ∈ s₀.deliveries, SameDelivery d₀ d
  wire : ∀ post ∈ s.wire, post ∈ s₀.wire ∨
    ∃ d ∈ s.deliveries, d.id = post.deliveryId ∧ d.subscriptionId ≠ id

section Silence

variable {ι : Type} [DecidableEq ι] {p : Platform} {calls : ι → Call} {id : Uuid}
  {s s₀ x y : Store} {m : Message} {α β : Type} {post : α → Store → Prop}

/-- The delivery is on record, and is for another subscription. -/
def Elsewhere (id deliveryId : Uuid) (s : Store) : Prop :=
  ∃ d ∈ s.deliveries, d.id = deliveryId ∧ d.subscriptionId ≠ id

theorem Elsewhere.ahead {deliveryId : Uuid} (h : Elsewhere id deliveryId x) (hxy : Ahead x y) :
    Elsewhere id deliveryId y := by
  obtain ⟨d, hd, hid, hother⟩ := h
  obtain ⟨d', hd', hsame⟩ := hxy.deliveries d hd
  exact ⟨d', hd', hsame.id.trans hid, hsame.subscriptionId ▸ hother⟩

/-- A step that starts, records and posts only for other subscriptions. -/
theorem Silent.of_ahead (hx : Silent id s₀ x) (hkeeps : Keeps id x y) (hxy : Ahead x y)
    (hstarted : ∀ m ∈ y.started, m ∈ x.started ∨ m.subscriptionId ≠ id)
    (hdeliveries : ∀ d ∈ y.deliveries,
      (∃ d' ∈ x.deliveries, SameDelivery d' d) ∨ d.subscriptionId ≠ id)
    (hwire : ∀ post ∈ y.wire, post ∈ x.wire ∨ Elsewhere id post.deliveryId y) :
    Prog.Within (Silent id s₀) anywhere x y := by
  refine ⟨⟨(hkeeps hx.wellIssued).1, (hkeeps hx.wellIssued).2 hx.withdrawn, fun m hm => ?_,
    fun d hd hown => ?_, fun post hpost => ?_⟩, hxy⟩
  · exact (hstarted m hm).elim (hx.started m) fun h => h
  · rcases hdeliveries d hd with ⟨d', hd', hsame⟩ | hother
    · obtain ⟨d₀, hd₀, hsame₀⟩ := hx.deliveries d' hd' (hsame.subscriptionId ▸ hown)
      exact ⟨d₀, hd₀, hsame₀.trans hsame⟩
    · exact absurd hown hother
  · rcases hwire post hpost with hold | hnew
    · exact (hx.wire post hold).imp_right fun h => Elsewhere.ahead h hxy
    · exact Or.inr hnew

theorem Hushed.within (h : Hushed id x y) (hx : Silent id s₀ x) :
    Prog.Within (Silent id s₀) anywhere x y ∧ Ahead x y :=
  ⟨hx.of_ahead h.keeps h.ahead (fun _ hm => Or.inl (h.started hm))
    (fun d hd => Or.inl (h.deliveries d hd)) fun _ hpost => Or.inl (h.wire hpost), h.ahead⟩

/-- A program of such steps alone. -/
theorem ensures_of_hushed {q : Program α} (hq : q.Each fun _ x y => Hushed id x y) :
    q.Ensures (Silent id s₀) anywhere (fun _ _ => True) s :=
  Prog.Ensures.each closed_ahead (hq.mono fun _ _ _ h => h.within) fun _ _ _ => trivial

/-- Nobody starts a delivery for a subscription that was not read. -/
theorem silent_start {eventType : WebhookEventType} {data : Value}
    {subs : List WebhookSubscription} (hsubs : ∀ sub ∈ subs, sub.id ≠ id) :
    (start p subs eventType data).Ensures (Silent id s₀) anywhere (fun _ _ => True) s := by
  refine fun t _ ht => ⟨fun _ => ⟨?_, fun _ _ => trivial⟩, trivial⟩
  show Prog.Within (Silent id s₀) anywhere t (subs.foldl (Store.startOne p eventType data) t)
  obtain ⟨hsame, hdeliveries, hwire, hstarted⟩ :=
    startOne_foldl (p := p) eventType data t subs
  refine ht.of_ahead (keeps_start subs) (ahead_same hsame hdeliveries hwire) (fun m hm => ?_)
    (fun d hd => Or.inl ⟨d, hdeliveries ▸ hd, .refl d⟩) fun post hpost => Or.inl (hwire ▸ hpost)
  rcases hstarted m hm with hold | ⟨z, sub, hsub, rfl⟩
  · exact Or.inl hold
  · exact Or.inr (hsubs sub hsub)

/-- A revoked subscription is not among those that match. -/
theorem Silent.ne_of_active (hx : Silent id s₀ x) {sub : WebhookSubscription}
    (hsub : sub ∈ x.subscriptions) (hactive : sub.status = .active) : sub.id ≠ id := by
  rintro rfl
  obtain ⟨row, hfind, hrevoked⟩ := hx.withdrawn
  have hrow : Table.find WebhookSubscription.id sub.id x.subscriptions = some sub :=
    (Table.find_eq_some_iff hx.wellIssued.nodup).mpr ⟨hsub, rfl⟩
  obtain rfl := Option.some.inj (hrow.symm.trans hfind)
  rw [hactive] at hrevoked
  cases hrevoked

theorem silent_publishing {eventType : WebhookEventType} {data : Value}
    {f : Store → List WebhookSubscription}
    (hf : ∀ t, ∀ sub ∈ f t, sub ∈ t.subscriptions ∧ sub.status = .active) :
    (do start p (← read f) eventType data : Program Unit).Ensures (Silent id s₀) anywhere
      (fun _ _ => True) s := by
  refine Prog.Ensures.act_bind fun t _ ht _ => ⟨((hushed_same rfl rfl (le_refl _) rfl rfl
    rfl).within ht).1, silent_start fun sub hsub => ?_⟩
  exact ht.ne_of_active (hf t sub hsub).1 (hf t sub hsub).2

/-- A delivery for another subscription. -/
theorem silent_deliver (hm : m.subscriptionId ≠ id) :
    (deliver p m).Ensures (Silent id s₀) anywhere (fun _ _ => True) s := by
  have hcreate : (tryCatch (do return some (← createDelivery m)) fun _ => pure none :
      Program (Option WebhookDelivery)).Ensures (Silent id s₀) anywhere
        (fun r t => ∀ d, r = some d → Elsewhere id d.id t) s := by
    refine Prog.Ensures.tryCatch (Prog.Ensures.act_bind fun t _ ht _ => ?_)
      fun _ _ _ _ _ hnone => by cases hnone
    have hahead : Ahead t { t.issue.2 with
        deliveries := t.deliveries ++ [newDelivery m t.now t.issue.1] } :=
      ⟨fun sub hsub => ⟨sub, hsub, .refl sub⟩,
        fun d hd => ⟨d, List.mem_append_left _ hd, .refl d⟩, fun _ h => h⟩
    refine ⟨ht.of_ahead (keeps_same rfl rfl (Nat.le_succ t.issued)) hahead (fun _ h => Or.inl h)
      (fun d hd => ?_) fun _ h => Or.inl h, fun u htu d hd => ?_⟩
    · rcases List.mem_append.mp hd with hold | hnew
      · exact Or.inl ⟨d, hold, .refl d⟩
      · obtain rfl := List.mem_singleton.mp hnew
        exact Or.inr hm
    · obtain rfl := Option.some.inj hd
      exact Elsewhere.ahead ⟨_, List.mem_append_right _ (List.mem_singleton_self _), rfl, hm⟩ htu
  refine Prog.Ensures.bind closed_ahead hcreate fun r t hother => ?_
  cases r with
  | none => exact fun _ _ => trivial
  | some delivery =>
    refine Prog.Ensures.tryCatch (Prog.Ensures.act_bind fun u htu hu _ => ?_)
      fun _ _ => ensures_of_hushed (hushed_noteError _ _)
    refine ⟨?_, ensures_of_hushed (hushed_outcome _ _)⟩
    have hahead : Ahead u { u with
        wire := u.wire ++ [{
          url := m.url
          signature := m.sigHeader
          event := m.eventType.code
          deliveryId := delivery.id
          body := m.body
          answer := u.answers u.wire.length }] } :=
      ⟨fun sub hsub => ⟨sub, hsub, .refl sub⟩, fun d hd => ⟨d, hd, .refl d⟩,
        fun _ h => List.mem_append_left _ h⟩
    refine hu.of_ahead (keeps_same rfl rfl (le_refl _)) hahead (fun _ h => Or.inl h)
      (fun d hd => Or.inl ⟨d, hd, .refl d⟩) fun post hpost => ?_
    rcases List.mem_append.mp hpost with hold | hnew
    · exact Or.inl hold
    · obtain rfl := List.mem_singleton.mp hnew
      exact Or.inr (((hother delivery rfl).ahead htu).ahead hahead)

theorem silent_call (call : Call) :
    (call.program p).Ensures (Silent id s₀) anywhere (fun _ _ => True) s := by
  cases call with
  | create actor dto ctx =>
    exact ensures_of_hushed (Prog.Each.bind (hushed_createSubscription actor dto ctx)
      fun _ => Prog.Each.pure _)
  | revoke actor k ctx =>
    exact ensures_of_hushed (Prog.Each.bind (hushed_revokeSubscription actor k ctx)
      fun _ => Prog.Each.pure _)
  | publish eventType tenantId data =>
    show (publish p eventType tenantId data).Ensures _ _ _ _
    rw [publish]
    cases present tenantId with
    | none => exact fun _ _ => trivial
    | some t =>
      refine silent_publishing fun u sub hsub => ?_
      obtain ⟨hmem, hmatches⟩ := List.mem_filter.mp hsub
      exact ⟨hmem, (of_decide_eq_true hmatches).2.1⟩
  | broadcast eventType data =>
    refine silent_publishing fun u sub hsub => ?_
    obtain ⟨hmem, hmatches⟩ := List.mem_filter.mp hsub
    exact ⟨hmem, (of_decide_eq_true hmatches : Matches eventType sub).1⟩
  | deliver =>
    refine Prog.Ensures.act_bind fun t _ ht _ => ⟨?_, ?_⟩
    · exact ht.of_ahead (keeps_same rfl rfl (le_refl _)) (ahead_same rfl rfl rfl)
        (fun _ h => Or.inl (List.mem_of_mem_tail h)) (fun d hd => Or.inl ⟨d, hd, .refl d⟩)
        fun _ h => Or.inl h
    · dsimp only
      cases hhead : t.started.head? with
      | none => exact fun _ _ => trivial
      | some m => exact silent_deliver (ht.started m (List.mem_of_mem_head? hhead))
  | clock now =>
    exact ensures_of_hushed (Prog.Each.act fun _ => hushed_same rfl rfl (le_refl _) rfl rfl rfl)

/-- **Revoked subscriptions are silent**: once a revocation has returned, and nothing is under way
for its subscription, no call that begins from then on records a delivery for it, and whatever is
posted is of a delivery for another one. -/
theorem revoked_silent {κ : Type} [DecidableEq κ] {later : κ → Call} {actor : AuthenticatedUser}
    {ctx : RequestContext} {j : ι} {u : Pool ι Store (Program Unit)}
    {t : Pool κ Store (Program Unit)} (hs : WellIssued s)
    (hbefore : WebhookRun (calling p calls s) u) (hj : calls j = .revoke actor id ctx)
    (hdone : Prog.returned (u.locals j) = some ())
    (hnothing : ∀ m ∈ u.shared.started, m.subscriptionId ≠ id)
    (hafter : WebhookRun (calling p later u.shared) t) :
    (∀ d ∈ t.shared.deliveries, d.subscriptionId = id →
        ∃ d₀ ∈ u.shared.deliveries, SameDelivery d₀ d) ∧
      ∀ post ∈ t.shared.wire, post ∈ u.shared.wire ∨
        ∃ d ∈ t.shared.deliveries, d.id = post.deliveryId ∧ d.subscriptionId ≠ id := by
  obtain ⟨hwell, hwithdrawn⟩ := withdrawn_of_returned hs hbefore hj hdone
  have hsilent : Silent id u.shared u.shared :=
    ⟨hwell, hwithdrawn, hnothing, fun d hd _ => ⟨d, hd, .refl d⟩, fun _ h => Or.inl h⟩
  have hend := (Run.ensures (c := fun _ : κ => anywhere) (fun _ _ _ => True) hafter
    (fun _ => closed_ahead) (fun _ => closed_ahead.refl) (fun _ _ _ _ _ h => h) hsilent
    fun i => silent_call (later i)).1
  exact ⟨hend.deliveries, hend.wire⟩

theorem sampleEndpoint_wellIssued : WellIssued sampleEndpoint where
  injective m n h := Int.ofNat.inj (Number.ofInt_inj (Number.toText_inj h))
  fresh n _ hmem := by
    obtain ⟨c, rest, htext, hc⟩ := Number.toText_head (Number.ofInt n)
    have hw : c :: rest = utf16 "W" := htext.symm.trans (List.mem_singleton.mp hmem)
    obtain rfl := (List.cons.inj hw).1
    revert hc
    decide
  nodup := List.nodup_singleton _

/-- An administrator revokes the subscription, before anything is published. -/
def sampleRevocation : Bool → Call
  | true => .revoke ⟨"A", "V", .superAdmin⟩ "W" ⟨none, none⟩
  | false => .clock 2000

def sampleRevoked : Pool Bool Store (Program Unit) :=
  Prog.turns (calling samplePlatform sampleRevocation sampleEndpoint) [(true, 3), (false, 1)]

theorem revoked_silent_sample :
    (∀ d ∈ (Prog.turns (calling samplePlatform sampleCalls sampleRevoked.shared)
        [(true, 2), (false, 4)]).shared.deliveries, d.subscriptionId = "W" →
        ∃ d₀ ∈ sampleRevoked.shared.deliveries, SameDelivery d₀ d) ∧
      ∀ post ∈ (Prog.turns (calling samplePlatform sampleCalls sampleRevoked.shared)
        [(true, 2), (false, 4)]).shared.wire, post ∈ sampleRevoked.shared.wire ∨
        ∃ d ∈ (Prog.turns (calling samplePlatform sampleCalls sampleRevoked.shared)
          [(true, 2), (false, 4)]).shared.deliveries,
          d.id = post.deliveryId ∧ d.subscriptionId ≠ "W" :=
  revoked_silent (j := true) sampleEndpoint_wellIssued
    (Prog.run_turns .refl (Prog.permittedTurns_true _ _)) rfl rfl nofun
    (Prog.run_turns .refl (Prog.permittedTurns_true _ _))

end Silence

end Webhooks
