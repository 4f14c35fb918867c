import Vigiscam.PublicAlerts.Freshness
import Vigiscam.ReviewQueue.Runs

/-!
# What the public reads

The public reads the published entries of the registry (`search`) and the published alerts
(`listPublic`). The summary and the recommended action of an entry, and the title and the body of
an alert, were searched for accusations before they were stored. Nothing searches the category
that a reviewer gives an entry, nor the region and the category of an alert. What the public reads
is safe where nothing is published with an accusation in these (`public_texts_safe`).

The node has one cache for searches and listings, under keys that start differently. Here each has
its own.
-/

namespace PublicTexts

open Js Common Concurrency
open Registry (RegistryEntry PublicRegistryEntry RegistrySearchQuery RegistrySearchResult SafeText
  toPublicRegistryEntry search)
open PublicAlerts (PublicAlert PublicAlertItem Filters listPublic CreatePublicAlertDto
  UpdatePublicAlertStatusDto)
open ReviewQueue (CreateRegistryCandidateDto)

/-! ## Calls -/

structure Store where
  review : ReviewQueue.Store
  alerts : PublicAlerts.Store

inductive Call where
  | createCandidate (reviewer : AuthenticatedUser) (dto : CreateRegistryCandidateDto)
    (ip : Option Text)
  | approve (admin : AuthenticatedUser) (id : Uuid) (ip : Option Text)
  | reject (admin : AuthenticatedUser) (id : Uuid) (ip : Option Text)
  | publish (admin : AuthenticatedUser) (id : Uuid) (ip : Option Text)
  | unpublish (admin : AuthenticatedUser) (id : Uuid) (ip : Option Text)
  | search (query : RegistrySearchQuery)
  | createAlert (actor : AuthenticatedUser) (dto : CreatePublicAlertDto) (ip : Option Text)
  | updateStatus (actor : AuthenticatedUser) (id : Uuid) (dto : UpdatePublicAlertStatusDto)
    (ip : Option Text)
  | listPublic (filters : Filters)
  /-- What other operations write of the signals. -/
  | others (signals : ScamSignals.Store)
  | clock (now : Int)

namespace Store

def registry (s : Store) : Registry.Store := s.review.registry

def setRegistry (registry : Registry.Store) (s : Store) : Store :=
  { s with review := { s.review with registry } }

end Store

section Exec

variable (p : Registry.Platform) (parseDate : Text → Option Int)

/-- The state after a call that nobody interrupts. -/
def Call.exec : Call → Store → Store
  | createCandidate reviewer dto ip, s =>
    { s with review := ((ReviewQueue.createCandidate p reviewer dto ip).run s.review).2 }
  | approve admin id ip, s =>
    { s with review := ((ReviewQueue.approve p admin id ip).run s.review).2 }
  | reject admin id ip, s =>
    { s with review := ((ReviewQueue.reject p admin id ip).run s.review).2 }
  | publish admin id ip, s => s.setRegistry ((Registry.publish p admin id ip).run s.registry).2
  | unpublish admin id ip, s => s.setRegistry ((Registry.unpublish p admin id ip).run s.registry).2
  | search query, s => s.setRegistry ((Registry.search p query).run s.registry).2
  | createAlert actor dto ip, s =>
    { s with alerts := ((PublicAlerts.create parseDate actor dto ip).run s.alerts).2 }
  | updateStatus actor id dto ip, s =>
    { s with alerts := ((PublicAlerts.updateStatus actor id dto ip).run s.alerts).2 }
  | listPublic filters, s =>
    { s with alerts := ((PublicAlerts.listPublic filters).run s.alerts).2 }
  | others signals, s => { s with review := { s.review with signals } }
  | clock now, s => { s.setRegistry { s.registry with now } with alerts := { s.alerts with now } }

/-- A reviewer gave the entry its category, in a call of the run. -/
def Wrote (s₀ : Store) (calls : List Call) (id : Uuid) : Prop :=
  ∃ before reviewer dto ip entry, before ++ [.createCandidate reviewer dto ip] <+: calls ∧
    dto.category.isSome ∧
    ((ReviewQueue.createCandidate p reviewer dto ip).run
      (after (Call.exec p parseDate) s₀ before).review).1 = .ok entry ∧
    entry.id = id

end Exec

/-! ## Safe texts -/

/-- The texts of an entry that reviewers wrote; `written` says of which entries the category is. -/
structure SafeEntry (written : Uuid → Prop) (item : PublicRegistryEntry) : Prop where
  summary : SafeText item.summary
  recommendedAction : ∀ action ∈ item.recommendedAction, SafeText action
  category : written item.id → SafeText item.category

/-- The texts of an alert. -/
structure SafeAlert (item : PublicAlertItem) : Prop where
  title : SafeText item.title
  body : SafeText item.body
  region : SafeText item.region
  category : ∀ category ∈ item.category, SafeText category

/-- Whatever the public searches or lists now, what it reads is safe. -/
structure ReadsSafe (p : Registry.Platform) (written : Uuid → Prop) (s : Store) : Prop where
  searches : ∀ query result, ((search p query).run s.registry).1 = .ok result →
    ∀ item ∈ result.items, SafeEntry written item
  listings : ∀ filters items, ((listPublic filters).run s.alerts).1 = .ok items →
    ∀ item ∈ items, SafeAlert item

/-- The call publishes an entry or an alert with an accusation in a field that nothing searches. -/
def Call.Accuses (written : Uuid → Prop) (s : Store) : Call → Prop
  | publish _ id _ => written id ∧
    ∃ entry, Table.find RegistryEntry.id id s.registry.entries = some entry ∧
      entry.status = .approvedPublicSafe ∧ ¬ SafeText entry.category
  | updateStatus _ id dto _ => dto.status = .published ∧
    ∃ alert ∈ s.alerts.alerts.rows, alert.id = id ∧ alert.status = .draft ∧
      ¬ (SafeText alert.region ∧ ∀ category ∈ alert.category, SafeText category)
  | createCandidate _ _ _ | approve _ _ _ | reject _ _ _ | unpublish _ _ _ | search _
  | createAlert _ _ _ | listPublic _ | others _ | clock _ => False

/-! ## The registry -/

/-- What is kept of the registry: what is published, or cached, is safe. -/
structure SafeRegistry (written : Uuid → Prop) (s : Registry.Store) : Prop where
  nodup : (s.entries.map RegistryEntry.id).Nodup
  gated : ∀ entry ∈ s.entries, SafeText entry.publicSafeSummary ∧
    ∀ action ∈ entry.recommendedAction, SafeText action
  published : ∀ entry ∈ s.entries, entry.status = .published → written entry.id →
    SafeText entry.category
  cached : s.cache.Holds fun _ result => ∀ item ∈ result.items, SafeEntry written item

/-- The columns that no transition writes. -/
structure SameTexts (a b : RegistryEntry) : Prop where
  id : a.id = b.id
  summary : a.publicSafeSummary = b.publicSafeSummary
  recommendedAction : a.recommendedAction = b.recommendedAction
  category : a.category = b.category

section Registry

variable {p : Registry.Platform} {written : Uuid → Prop} {s : Registry.Store} {α : Type}

/-- What a page of published entries shows. -/
theorem SafeRegistry.answer {query : RegistrySearchQuery} {result : RegistrySearchResult}
    (h : SafeRegistry written s) (hanswer : Registry.answer p query s.entries = some result) :
    ∀ item ∈ result.items, SafeEntry written item := by
  obtain ⟨-, hresult⟩ := Option.ite_none_right_eq_some.mp hanswer
  obtain rfl := Option.some.inj hresult
  intro item hitem
  obtain ⟨entry, hentry, rfl⟩ := List.mem_map.mp hitem
  have hsorted := List.mem_of_mem_drop (List.mem_of_mem_take (List.mem_of_mem_take hentry))
  obtain ⟨hmem, hselects⟩ := List.mem_filter.mp ((List.mem_insertionSort _).mp hsorted)
  simp only [Registry.selects, Bool.and_eq_true, decide_eq_true_eq] at hselects
  obtain ⟨hsummary, haction⟩ := h.gated entry hmem
  exact ⟨hsummary, haction, h.published entry hmem hselects.1.1.1⟩

theorem SafeRegistry.of_cache {cache : Cache RegistrySearchResult} (h : SafeRegistry written s)
    (hcached : cache.Holds fun _ result => ∀ item ∈ result.items, SafeEntry written item) :
    SafeRegistry written { s with cache } :=
  ⟨h.nodup, h.gated, h.published, hcached⟩

/-- A search answers what is cached or published. -/
theorem gives_search (query : RegistrySearchQuery) :
    (search p query).Gives (SafeRegistry written) fun result =>
      ∀ item ∈ result.items, SafeEntry written item := by
  intro s h
  cases hget : (s.cache.get (Registry.buildCacheKey p query) s.now).1 with
  | some cached =>
    rw [Registry.run_search_hit hget]
    refine ⟨h.of_cache h.cached.get, fun result hresult => ?_⟩
    rw [← Except.ok.inj hresult]
    exact h.cached.of_get hget
  | none =>
    rw [Registry.run_search_miss hget]
    cases hanswer : Registry.answer p query s.entries with
    | none =>
      refine ⟨h.of_cache h.cached.get, fun result hresult => ?_⟩
      cases hresult
    | some found =>
      refine ⟨h.of_cache (h.cached.get.set (h.answer hanswer)), fun result hresult => ?_⟩
      rw [← Except.ok.inj hresult]
      exact h.answer hanswer

theorem gives_requireStatus (id : Uuid) (allowed : List Registry.RegistryEntryStatus) :
    (Registry.requireStatus id allowed).Gives (SafeRegistry written) fun _ => True := by
  intro s hs
  rcases Registry.run_requireStatus id allowed s with ⟨e, hcheck⟩ | ⟨entry, hcheck, -⟩ <;>
    rw [hcheck] <;>
    exact ⟨hs, fun _ _ => trivial⟩

/-- A change of the rows of an id, which publishes them only with a safe category. -/
theorem SafeRegistry.modify {id : Uuid} {change : RegistryEntry → RegistryEntry}
    (h : SafeRegistry written s) (hsame : ∀ entry, SameTexts (change entry) entry)
    (hpublic : ∀ entry ∈ s.entries, entry.id = id → (change entry).status = .published →
      written id → SafeText entry.category) :
    SafeRegistry written
      { s with entries := Table.modify RegistryEntry.id id change s.entries } := by
  refine ⟨?_, fun entry hentry => ?_, fun entry hentry hstatus hwritten => ?_, h.cached⟩
  · rw [Table.map_modify fun entry => (hsame entry).id]
    exact h.nodup
  · obtain ⟨old, hold, rfl⟩ := Table.mem_modify.mp hentry
    split
    · rw [(hsame old).summary, (hsame old).recommendedAction]
      exact h.gated old hold
    · exact h.gated old hold
  · obtain ⟨old, hold, rfl⟩ := Table.mem_modify.mp hentry
    by_cases hid : old.id = id
    · rw [if_pos hid] at hstatus hwritten ⊢
      rw [(hsame old).id, hid] at hwritten
      rw [(hsame old).category]
      exact hpublic old hold hid hstatus hwritten
    · rw [if_neg hid] at hstatus hwritten ⊢
      exact h.published old hold hstatus hwritten

theorem SafeRegistry.update {id : Uuid} {f : Date → RegistryEntry → RegistryEntry}
    (h : SafeRegistry written s) (hsame : ∀ now entry, SameTexts (f now entry) entry)
    (hpublic : ∀ entry ∈ s.entries, entry.id = id → ∀ now, (f now entry).status = .published →
      written id → SafeText entry.category) :
    SafeRegistry written ((Registry.updateEntry p id f).run s).2 := by
  cases hfind : Table.find RegistryEntry.id id s.entries with
  | none =>
    rw [Registry.updateEntry, Prog.run_attempt_none (by rw [hfind]; rfl)]
    exact h
  | some found =>
    rw [Registry.updateEntry, Prog.run_attempt_some (by rw [hfind]; rfl)]
    refine h.modify (fun entry => ?_) fun entry hentry hid => hpublic entry hentry hid _
    have hsame := hsame (p.newDate s.now) entry
    exact ⟨hsame.id, hsame.summary, hsame.recommendedAction, hsame.category⟩

/-- An update that does not publish. -/
theorem gives_updateEntry {id : Uuid} {f : Date → RegistryEntry → RegistryEntry}
    (hsame : ∀ now entry, SameTexts (f now entry) entry)
    (hprivate : ∀ now entry, (f now entry).status ≠ .published) :
    (Registry.updateEntry p id f).Gives (SafeRegistry written) fun _ => True :=
  fun _ h => ⟨h.update hsame fun entry _ _ now hstatus => absurd hstatus (hprivate now entry),
    fun _ _ => trivial⟩

/-- A step that writes neither entries nor answers. -/
theorem gives_aside {l : Registry.RegistryStep} {e : HttpError}
    {f : Registry.Store → α × Registry.Store} (hentries : ∀ s, (f s).2.entries = s.entries)
    (hcache : ∀ s, (f s).2.cache = s.cache) :
    (Prog.act l e f).Gives (SafeRegistry written) fun _ => True := by
  refine Prog.gives_act fun s h => ⟨⟨?_, ?_, ?_, ?_⟩, trivial⟩
  · exact (hentries s).symm ▸ h.nodup
  · exact (hentries s).symm ▸ h.gated
  · exact (hentries s).symm ▸ h.published
  · exact (hcache s).symm ▸ h.cached

theorem gives_logEvidence (entry : RegistryEntry) (actor : AuthenticatedUser)
    (actorType eventType description : Text) (ip : Option Text) :
    (Registry.logEvidence entry actor actorType eventType description ip).Gives
      (SafeRegistry written) fun _ => True :=
  gives_aside (fun _ => rfl) fun _ => rfl

theorem gives_invalidateSearchCache :
    Registry.invalidateSearchCache.Gives (SafeRegistry written) fun _ => True :=
  Prog.gives_act fun _ h => ⟨h.of_cache (h.cached.keep _), trivial⟩

theorem gives_notifyPartner (entry : RegistryEntry) (eventType : Text) :
    (Registry.notifyPartner entry eventType).Gives (SafeRegistry written) fun _ => True := by
  unfold Registry.notifyPartner
  split
  · exact Prog.gives_pure trivial
  · refine Prog.Gives.tryCatch ?_ fun _ => Prog.gives_pure trivial
    refine Prog.Gives.bind (gives_aside (fun _ => rfl) fun _ => rfl) fun tenantId _ => ?_
    cases tenantId with
    | none => exact Prog.gives_pure trivial
    | some tenantId => exact gives_aside (fun _ => rfl) fun _ => rfl

theorem gives_tryAutomate (entry : RegistryEntry) :
    (Registry.tryAutomate entry).Gives (SafeRegistry written) fun _ => True :=
  Prog.Gives.tryCatch (gives_aside (fun _ => rfl) fun _ => rfl) fun _ => Prog.gives_pure trivial

theorem gives_unpublish (admin : AuthenticatedUser) (id : Uuid) (ip : Option Text) :
    (Registry.unpublish p admin id ip).Gives (SafeRegistry written) fun _ => True := by
  refine Prog.Gives.bind (gives_requireStatus id _) fun _ _ => ?_
  refine Prog.Gives.bind (gives_updateEntry (fun _ _ => ⟨rfl, rfl, rfl, rfl⟩)
    fun _ _ h => nomatch h) fun updated _ => ?_
  refine Prog.Gives.bind (gives_logEvidence updated _ _ _ _ _) fun _ _ => ?_
  refine Prog.Gives.bind gives_invalidateSearchCache fun _ _ => ?_
  exact Prog.Gives.bind (gives_notifyPartner updated _) fun _ _ => Prog.gives_pure trivial

theorem SafeRegistry.andThen {β : Type} {q : Registry.Program α} {k : α → Registry.Program β}
    (h : SafeRegistry written (q.run s).2)
    (hk : ∀ a, (k a).Gives (SafeRegistry written) fun _ => True) :
    SafeRegistry written ((q >>= k).run s).2 := by
  rw [Prog.run_bind]
  cases hrun : q.run s with
  | mk result t =>
    rw [hrun] at h
    cases result with
    | error e => exact h
    | ok a => exact (hk a t h).1

/-- A publication, of an entry whose category is safe where a reviewer gave it. -/
theorem SafeRegistry.publish {admin : AuthenticatedUser} {id : Uuid} {ip : Option Text}
    (h : SafeRegistry written s)
    (hsafe : ∀ entry, Table.find RegistryEntry.id id s.entries = some entry →
      entry.status = .approvedPublicSafe → written id → SafeText entry.category) :
    SafeRegistry written ((Registry.publish p admin id ip).run s).2 := by
  have hrest : ∀ updated, (do
      Registry.logEvidence updated admin "ADMIN" "REGISTRY_PUBLISHED"
        "Registry entry published to the public registry" ip
      let _ ← Registry.invalidateSearchCache
      Registry.notifyPartner updated "REGISTRY_PUBLISHED"
      Registry.tryAutomate updated
      return updated : Registry.Program RegistryEntry).Gives (SafeRegistry written)
        fun _ => True := by
    intro updated
    refine Prog.Gives.bind (gives_logEvidence updated _ _ _ _ _) fun _ _ => ?_
    refine Prog.Gives.bind gives_invalidateSearchCache fun _ _ => ?_
    refine Prog.Gives.bind (gives_notifyPartner updated _) fun _ _ => ?_
    exact Prog.Gives.bind (gives_tryAutomate updated) fun _ _ => Prog.gives_pure trivial
  rw [Registry.publish]
  rcases Registry.run_requireStatus id [.approvedPublicSafe] s with
    ⟨e, hcheck⟩ | ⟨entry, hcheck, hfind, hstatus⟩
  · rw [Prog.run_bind, hcheck]
    exact h
  · rw [Prog.run_bind, hcheck]
    refine SafeRegistry.andThen (h.update (fun _ _ => ⟨rfl, rfl, rfl, rfl⟩) ?_) hrest
    -- the row that is published is the one whose status was checked
    intro row hrow hid now _ hwritten
    have hrow' := (Table.find_eq_some_iff h.nodup).mpr ⟨hrow, hid⟩
    obtain rfl := Option.some.inj (hrow'.symm.trans hfind)
    exact hsafe row hfind (List.mem_singleton.mp hstatus) hwritten

end Registry

/-! ## Reviews -/

section Review

variable {p : Registry.Platform} {written : Uuid → Prop} {α : Type} {Q : α → Prop}

theorem gives_onRegistry {q : Registry.Program α} (h : q.Gives (SafeRegistry written) Q) :
    (ReviewQueue.onRegistry q).Gives (fun s => SafeRegistry written s.registry) Q := by
  intro s hs
  have hrun : (ReviewQueue.onRegistry q).run s = _ := Prog.run_onPart (fun _ _ _ => rfl) q s
  rw [hrun]
  exact h s.registry hs

theorem gives_onSignals (q : ScamSignals.Program α) :
    (ReviewQueue.onSignals q).Gives (fun s => SafeRegistry written s.registry) fun _ => True := by
  intro s hs
  have hrun : (ReviewQueue.onSignals q).run s = _ := Prog.run_onPart (fun _ _ _ => rfl) q s
  rw [hrun]
  exact ⟨hs, fun _ _ => trivial⟩

/-- A decision on an entry does not publish it. -/
theorem gives_decided {f : Date → RegistryEntry → RegistryEntry} (id : Uuid)
    (allowed : List Registry.RegistryEntryStatus) (actor : AuthenticatedUser) (decision : Text)
    (log : RegistryEntry → Registry.Program Unit)
    (hsame : ∀ now entry, SameTexts (f now entry) entry)
    (hprivate : ∀ now entry, (f now entry).status ≠ .published)
    (hlog : ∀ entry, (log entry).Gives (SafeRegistry written) fun _ => True) :
    (do
      let updated ← ReviewQueue.onRegistry do
        let _ ← Registry.requireStatus id allowed
        Registry.updateEntry p id f
      ReviewQueue.markQueueComplete id actor decision
      ReviewQueue.onRegistry (log updated)
      return updated : ReviewQueue.Program RegistryEntry).Gives
      (fun s => SafeRegistry written s.registry) fun _ => True := by
  refine Prog.Gives.bind (gives_onRegistry (Prog.Gives.bind (gives_requireStatus id allowed)
    fun _ _ => gives_updateEntry hsame hprivate)) fun updated _ => ?_
  refine Prog.Gives.bind (Prog.gives_act (Q := fun _ => True) fun s hs => ⟨hs, trivial⟩)
    fun _ _ => ?_
  exact (gives_onRegistry (hlog updated)).bind fun _ _ => Prog.gives_pure trivial

theorem gives_approve (admin : AuthenticatedUser) (id : Uuid) (ip : Option Text) :
    (ReviewQueue.approve p admin id ip).Gives (fun s => SafeRegistry written s.registry)
      fun _ => True := by
  refine gives_decided id _ _ _ _ (fun _ _ => ?_) (fun _ _ => ?_)
    fun _ => gives_logEvidence _ _ _ _ _ _
  · exact ⟨rfl, rfl, rfl, rfl⟩
  · exact fun h => nomatch h

theorem gives_reject (admin : AuthenticatedUser) (id : Uuid) (ip : Option Text) :
    (ReviewQueue.reject p admin id ip).Gives (fun s => SafeRegistry written s.registry)
      fun _ => True := by
  refine gives_decided id _ _ _ _ (fun _ _ => ?_) (fun _ _ => ?_)
    fun _ => gives_logEvidence _ _ _ _ _ _
  · exact ⟨rfl, rfl, rfl, rfl⟩
  · exact fun h => nomatch h

/-- A step that leaves the registry alone. -/
theorem gives_act_aside {l : ReviewQueue.QueueStep} {e : HttpError}
    {f : ReviewQueue.Store → α × ReviewQueue.Store} (h : ∀ s, (f s).2.registry = s.registry) :
    (Prog.act l e f).Gives (fun s => SafeRegistry written s.registry) fun _ => True := by
  refine Prog.gives_act fun s hs => ⟨?_, trivial⟩
  rw [h]
  exact hs

/-- A new candidate, whose summary and recommended action were searched. Its category need not be
safe, as it is not published. -/
theorem gives_createEntry {dto : CreateRegistryCandidateDto} {signal : ScamSignals.ScamSignal}
    (hsummary : SafeText dto.publicSafeSummary)
    (haction : ∀ action ∈ dto.recommendedAction, SafeText action) :
    (ReviewQueue.createEntry p dto signal).Gives (fun s => SafeRegistry written s.registry)
      fun _ => True := by
  refine Prog.gives_attempt fun s entry t hs hcreate => ⟨?_, trivial⟩
  obtain ⟨hfree, hnew⟩ := Option.ite_none_left_eq_some.mp hcreate
  obtain ⟨-, rfl⟩ := Prod.mk.inj (Option.some.inj hnew)
  refine ⟨Table.nodup_append_new hs.nodup hfree, fun row hrow => ?_, fun row hrow hstatus => ?_,
    hs.cached⟩
  · rcases List.mem_append.mp hrow with hrow | hrow
    · exact hs.gated row hrow
    · obtain rfl := List.mem_singleton.mp hrow
      exact ⟨hsummary, haction⟩
  · rcases List.mem_append.mp hrow with hrow | hrow
    · exact hs.published row hrow hstatus
    · obtain rfl := List.mem_singleton.mp hrow
      cases hstatus

theorem gives_createOnce {dto : CreateRegistryCandidateDto} {signal : ScamSignals.ScamSignal}
    {reviewer : AuthenticatedUser} {ip : Option Text} (hsummary : SafeText dto.publicSafeSummary)
    (haction : ∀ action ∈ dto.recommendedAction, SafeText action) :
    (ReviewQueue.createOnce p reviewer dto signal ip).Gives
      (fun s => SafeRegistry written s.registry) fun _ => True := by
  refine Prog.Gives.bind (gives_act_aside fun _ => rfl) fun duplicate _ => ?_
  cases duplicate with
  | some _ => exact Prog.gives_throw _
  | none =>
    refine Prog.Gives.bind (gives_createEntry hsummary haction) fun entry _ => ?_
    refine Prog.Gives.bind (gives_act_aside fun _ => rfl) fun _ _ => ?_
    exact Prog.Gives.bind (gives_onRegistry (gives_logEvidence entry _ _ _ _ _))
      fun _ _ => Prog.gives_pure trivial

theorem gives_createCandidate (reviewer : AuthenticatedUser) (dto : CreateRegistryCandidateDto)
    (ip : Option Text) :
    (ReviewQueue.createCandidate p reviewer dto ip).Gives
      (fun s => SafeRegistry written s.registry) fun _ => True := by
  refine (gives_onSignals _).bind fun found _ => ?_
  cases found with
  | none => exact Prog.gives_throw _
  | some signal =>
    by_cases hverified : signal.status ≠ .verifiedScamIntelligence
    · simp only [if_pos hverified]
      exact Prog.gives_throw _
    · simp only [if_neg hverified]
      refine Prog.Gives.bind (Registry.gives_assertPublicSafeLanguage _ _) fun _ hsummary => ?_
      cases hpresent : present dto.recommendedAction with
      | none =>
        refine gives_createOnce hsummary fun action haction => ?_
        rw [Option.mem_def.mp haction] at hpresent
        obtain rfl := eq_nil_of_not_present hpresent
        decide
      | some recommendedAction =>
        refine Prog.Gives.bind (Registry.gives_assertPublicSafeLanguage _ _) fun _ hsafe => ?_
        refine gives_createOnce hsummary fun action haction => ?_
        obtain rfl := Option.some.inj ((eq_some_of_present hpresent).symm.trans haction)
        exact hsafe

end Review

/-! ## Alerts -/

/-- What is kept of the alerts: what is published, or cached, is safe. -/
structure SafeAlerts (s : PublicAlerts.Store) : Prop where
  gated : ∀ alert ∈ s.alerts.rows, SafeText alert.title ∧ SafeText alert.body
  published : ∀ alert ∈ s.alerts.rows, alert.status = .published →
    SafeText alert.region ∧ ∀ category ∈ alert.category, SafeText category
  cached : s.cache.Holds fun _ items => ∀ item ∈ items, SafeAlert item

section Alerts

variable {parseDate : Text → Option Int} {s : PublicAlerts.Store}

theorem SafeAlerts.listing (h : SafeAlerts s) (filters : Filters) (now : Int) :
    ∀ item ∈ filters.listing now s.alerts.rows, SafeAlert item := by
  intro item hitem
  obtain ⟨alert, hmem, rfl, hpublished, -⟩ :=
    PublicAlerts.current_listing filters now s.alerts.rows item hitem
  obtain ⟨htitle, hbody⟩ := h.gated alert hmem
  obtain ⟨hregion, hcategory⟩ := h.published alert hmem hpublished
  exact ⟨htitle, hbody, hregion, hcategory⟩

/-- A listing answers what is cached or published. -/
theorem gives_listPublic (filters : Filters) :
    (listPublic filters).Gives SafeAlerts fun items => ∀ item ∈ items, SafeAlert item := by
  intro s h
  cases hget : (s.cache.get filters.cacheKey s.now).1 with
  | some cached =>
    rw [PublicAlerts.run_listPublic_hit hget]
    refine ⟨⟨h.gated, h.published, h.cached.get⟩, fun items hitems => ?_⟩
    rw [← Except.ok.inj hitems]
    exact h.cached.of_get hget
  | none =>
    have hlisting := h.listing filters s.now
    rw [PublicAlerts.run_listPublic_miss hget]
    refine ⟨⟨h.gated, h.published, h.cached.get.set hlisting⟩, fun items hitems => ?_⟩
    rw [← Except.ok.inj hitems]
    exact hlisting

/-- A new draft, whose title and body were searched. -/
theorem gives_createAlert (actor : AuthenticatedUser) (dto : CreatePublicAlertDto)
    (ip : Option Text) :
    (PublicAlerts.create parseDate actor dto ip).Gives SafeAlerts fun _ => True := by
  refine Prog.Gives.bind (Registry.gives_assertPublicSafeLanguage _ _) fun _ htitle => ?_
  refine Prog.Gives.bind (Registry.gives_assertPublicSafeLanguage _ _) fun _ hbody => ?_
  have hcreate : (PublicAlerts.createAlert parseDate actor dto).Gives SafeAlerts
      fun _ => True := by
    refine Prog.gives_attempt fun s alert t hs hcreate => ⟨?_, trivial⟩
    obtain ⟨expiresAt, -, hnew⟩ := Option.map_eq_some_iff.mp hcreate
    obtain ⟨-, rfl⟩ := Prod.mk.inj hnew
    refine ⟨fun row hrow => ?_, fun row hrow hstatus => ?_, hs.cached⟩
    · rcases List.mem_append.mp hrow with hrow | hrow
      · exact hs.gated row hrow
      · obtain rfl := List.mem_singleton.mp hrow
        exact ⟨htitle, hbody⟩
    · rcases List.mem_append.mp hrow with hrow | hrow
      · exact hs.published row hrow hstatus
      · obtain rfl := List.mem_singleton.mp hrow
        cases hstatus
  refine hcreate.bind fun alert _ => ?_
  refine Prog.Gives.bind (Prog.gives_act (Q := fun _ => True) fun s hs => ⟨⟨hs.gated, hs.published,
    hs.cached⟩, trivial⟩) fun _ _ => Prog.gives_pure trivial

/-- The texts of an alert that is moved are those that it had. -/
theorem texts_moved (actor : AuthenticatedUser) (status : PublicAlerts.PublicAlertStatus)
    (now : Int) (alert : PublicAlert) :
    let moved := alert.moved actor status now
    moved.title = alert.title ∧ moved.body = alert.body ∧ moved.region = alert.region ∧
      moved.category = alert.category ∧ moved.status = status := by
  cases status <;> exact ⟨rfl, rfl, rfl, rfl, rfl⟩

/-- A change of status that publishes no accusation. -/
theorem SafeAlerts.updateStatus {actor : AuthenticatedUser} {id : Uuid}
    {dto : UpdatePublicAlertStatusDto} {ip : Option Text} (h : SafeAlerts s)
    (hsafe : dto.status = .published → ∀ alert ∈ s.alerts.rows, alert.id = id →
      alert.status = .draft →
        SafeText alert.region ∧ ∀ category ∈ alert.category, SafeText category) :
    SafeAlerts ((PublicAlerts.updateStatus actor id dto ip).run s).2 := by
  rcases PublicAlerts.run_updateStatus actor id dto ip s with
    hsame | ⟨hcache, current, hcurrent, hid, hmay, halerts⟩
  · rw [hsame]
    exact h
  · have hrows : ∀ alert ∈ ((PublicAlerts.updateStatus actor id dto ip).run s).2.alerts.rows,
        ∃ old ∈ s.alerts.rows,
          (if old.id = id then old.moved actor dto.status s.now else old) = alert := by
      rw [halerts]
      exact fun alert halert => Table.mem_modify.mp halert
    refine ⟨fun alert halert => ?_, fun alert halert hpublished => ?_, ?_⟩
    · obtain ⟨old, hold, rfl⟩ := hrows alert halert
      split
      · obtain ⟨htitle, hbody, -⟩ := texts_moved actor dto.status s.now old
        rw [htitle, hbody]
        exact h.gated old hold
      · exact h.gated old hold
    · obtain ⟨old, hold, rfl⟩ := hrows alert halert
      by_cases hsame : old.id = id
      · rw [if_pos hsame] at hpublished ⊢
        obtain ⟨-, -, hregion, hcategory, hstatus⟩ := texts_moved actor dto.status s.now old
        rw [hregion, hcategory]
        -- only a draft is published
        have hpublish : dto.status = .published := hstatus.symm.trans hpublished
        obtain rfl := s.alerts.eq_of_key hold hcurrent (hsame.trans hid.symm)
        refine hsafe hpublish old hold hsame ?_
        rw [hpublish] at hmay
        cases hdraft : old.status <;> rw [hdraft] at hmay <;> first | rfl | cases hmay
      · rw [if_neg hsame] at hpublished ⊢
        exact h.published old hold hpublished
    · rw [hcache]
      exact h.cached.keep _

end Alerts

/-! ## Runs -/

/-- What is kept of both. -/
structure Safe (written : Uuid → Prop) (s : Store) : Prop where
  registry : SafeRegistry written s.registry
  alerts : SafeAlerts s.alerts

section Runs

variable {p : Registry.Platform} {parseDate : Text → Option Int} {written : Uuid → Prop}
  {s s₀ : Store} {calls : List Call}

/-- **A call that publishes no accusation keeps what is public safe.** -/
theorem Safe.exec {call : Call} (h : Safe written s) (hcareful : ¬ call.Accuses written s) :
    Safe written (call.exec p parseDate s) := by
  cases call with
  | createCandidate reviewer dto ip =>
    exact ⟨(gives_createCandidate reviewer dto ip s.review h.registry).1, h.alerts⟩
  | approve admin id ip => exact ⟨(gives_approve admin id ip s.review h.registry).1, h.alerts⟩
  | reject admin id ip => exact ⟨(gives_reject admin id ip s.review h.registry).1, h.alerts⟩
  | publish admin id ip =>
    refine ⟨h.registry.publish fun entry hfind hstatus hwritten => ?_, h.alerts⟩
    by_contra hunsafe
    exact hcareful ⟨hwritten, entry, hfind, hstatus, hunsafe⟩
  | unpublish admin id ip =>
    exact ⟨(gives_unpublish admin id ip s.registry h.registry).1, h.alerts⟩
  | search query => exact ⟨(gives_search query s.registry h.registry).1, h.alerts⟩
  | createAlert actor dto ip =>
    exact ⟨h.registry, (gives_createAlert actor dto ip s.alerts h.alerts).1⟩
  | updateStatus actor id dto ip =>
    refine ⟨h.registry, h.alerts.updateStatus fun hpublish alert halert hid hdraft => ?_⟩
    by_contra hunsafe
    exact hcareful ⟨hpublish, alert, halert, hid, hdraft, hunsafe⟩
  | listPublic filters => exact ⟨h.registry, (gives_listPublic filters s.alerts h.alerts).1⟩
  | others signals => exact ⟨h.registry, h.alerts⟩
  | clock now =>
    obtain ⟨⟨hnodup, hgated, hpublished, hcached⟩, ⟨hgated', hpublished', hcached'⟩⟩ := h
    exact ⟨⟨hnodup, hgated, hpublished, hcached⟩, ⟨hgated', hpublished', hcached'⟩⟩

theorem Safe.readsSafe (h : Safe written s) : ReadsSafe p written s where
  searches query := (gives_search query s.registry h.registry).2
  listings filters := (gives_listPublic filters s.alerts h.alerts).2

/-- **What the public reads is safe**, at every moment of a run that publishes no entry with an
accusation for a category that a reviewer gave, and no alert with one in its region or category. -/
theorem public_texts_safe (hstart : Safe (Wrote p parseDate s₀ calls) s₀)
    (hcareful : ∀ before call, before ++ [call] <+: calls →
      ¬ call.Accuses (Wrote p parseDate s₀ calls) (after (Call.exec p parseDate) s₀ before)) :
    ∀ before, before <+: calls →
      ReadsSafe p (Wrote p parseDate s₀ calls) (after (Call.exec p parseDate) s₀ before) := by
  have hsafe : ∀ before, before <+: calls →
      Safe (Wrote p parseDate s₀ calls) (after (Call.exec p parseDate) s₀ before) := by
    refine forall_prefix hstart fun before call hmoment hbefore => ?_
    rw [after_concat]
    exact hbefore.exec (hcareful before call hmoment)
  exact fun before hbefore => (hsafe before hbefore).readsSafe

end Runs

/-! ## A category -/

namespace Sample

open ReviewQueue.Sample (reported ann)

def verified : ScamSignals.ScamSignal := { reported with status := .verifiedScamIntelligence }

/-- The signal, and nothing else. -/
def store : Store where
  review := { ReviewQueue.Sample.store with
    signals := { ReviewQueue.Sample.store.signals with signals := [verified] } }
  alerts := PublicAlerts.Sample.store

def candidate (category : Option Text) : CreateRegistryCandidateDto :=
  ⟨"s", .highRiskVerified, "Reported by three banks.", none, category⟩

/-- The entry is created, approved and published; its id is that of the first entry. -/
def publication (category : Option Text) : List Call :=
  [.createCandidate ann (candidate category) none, .approve ann [0] none, .publish ann [0] none]

def everything : RegistrySearchQuery := ⟨none, none, none, none, none⟩

theorem safe (written : Uuid → Prop) : Safe written store where
  registry := {
    nodup := List.nodup_nil
    gated _ h := absurd h List.not_mem_nil
    published _ h := absurd h List.not_mem_nil
    cached := Cache.holds_empty }
  alerts := {
    gated _ h := absurd h List.not_mem_nil
    published _ h := absurd h List.not_mem_nil
    cached := Cache.holds_empty }

/-- What a search shows of the entry. -/
def shown (category : Text) : PublicRegistryEntry where
  id := [0]
  indicatorType := .email
  indicator := "ann@example.org"
  category := category
  publicStatus := some .highRiskVerified
  riskLevel := .low
  summary := "Reported by three banks."
  recommendedAction := none
  firstSeen := some ReviewQueue.Sample.day
  lastSeen := some ReviewQueue.Sample.day
  evidenceCount := 1
  publishedAt := some ReviewQueue.Sample.day

end Sample

section Sample

open Sample
open ReviewQueue.Sample (registryPlatform ann)
open PublicAlerts.Sample (parseDate)

theorem public_texts_safe_romance :
    ReadsSafe registryPlatform
      (Wrote registryPlatform parseDate store (publication (some "ROMANCE")))
      (after (Call.exec registryPlatform parseDate) store (publication (some "ROMANCE"))) := by
  refine public_texts_safe (safe _) ?_ _ List.prefix_rfl
  refine forall_call_cons (fun h => h) (forall_call_cons (fun h => h)
    (forall_call_cons ?_ forall_call_nil))
  rintro ⟨-, entry, hfind, -, hunsafe⟩
  have hcategory : (Table.find RegistryEntry.id [0] (after (Call.exec registryPlatform parseDate)
      store ((publication (some "ROMANCE")).take 2)).registry.entries).map RegistryEntry.category =
        some "ROMANCE" := by decide +kernel
  have hromance : entry.category = "ROMANCE" :=
    Option.some.inj ((congrArg (Option.map RegistryEntry.category) hfind).symm.trans hcategory)
  rw [hromance] at hunsafe
  exact hunsafe (by decide)

/-- **A category is published that accuses someone**, and found by a search. -/
theorem not_readsSafe_category :
    ¬ ReadsSafe registryPlatform
      (Wrote registryPlatform parseDate store (publication (some "Bob is a scammer")))
      (after (Call.exec registryPlatform parseDate) store
        (publication (some "Bob is a scammer"))) := by
  rintro ⟨hsearches, -⟩
  have hwrote : Wrote registryPlatform parseDate store (publication (some "Bob is a scammer"))
      [0] := by
    refine ⟨[], ann, candidate (some "Bob is a scammer"), none,
      ReviewQueue.newEntry (candidate (some "Bob is a scammer")) verified ReviewQueue.Sample.day
        [0], ⟨_, rfl⟩, rfl, ?_, rfl⟩
    decide +kernel
  have hresult : ((search registryPlatform everything).run (after (Call.exec registryPlatform
      parseDate) store (publication (some "Bob is a scammer"))).registry).1 =
      .ok ⟨[shown "Bob is a scammer"], 1, 50, false⟩ := by decide +kernel
  have hsafe := hsearches everything _ hresult _ (List.mem_singleton_self _)
  exact absurd (hsafe.category hwrote) (by decide)

end Sample

end PublicTexts
