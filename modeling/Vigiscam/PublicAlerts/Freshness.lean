import Mathlib.Data.List.Sort
import Vigiscam.Concurrency.Calls
import Vigiscam.PublicAlerts.Service

/-!
# Whether a listed alert is current

A listing is of published alerts, from the table or from the cache, as a change of status deletes
every cached listing (`Good`). Nothing deletes a listing when an alert of it expires: it is current
exactly where no cached one is answered with such an alert (`listings_current_iff`).
-/

namespace PublicAlerts

open Js Common Concurrency
open Registry (assertPublicSafeLanguage)

/-! ## What a call does -/

section Run

variable {s : Store} {filters : Filters}

/-- A draft changes nothing that the public sees. -/
theorem run_create (parseDate : Text → Option Int) (actor : AuthenticatedUser)
    (dto : CreatePublicAlertDto) (ip : Option Text) (s : Store) :
    let t := ((create parseDate actor dto ip).run s).2
    t.cache = s.cache ∧ (t.alerts = s.alerts ∨ ∃ expiresAt,
      t.alerts = s.alerts.add (newAlert actor dto expiresAt s.alerts.next) rfl) := by
  simp only [create, assertPublicSafeLanguage]
  cases Registry.findUnsafeLanguage dto.title with
  | some _ => exact ⟨rfl, Or.inl rfl⟩
  | none =>
    cases Registry.findUnsafeLanguage dto.body with
    | some _ => exact ⟨rfl, Or.inl rfl⟩
    | none =>
      simp only [Prog.run_bind, Prog.run_pure, Prog.andThen_ok]
      cases hexpiry : expiryOf parseDate dto.expiresAt with
      | none =>
        rw [createAlert, Prog.run_attempt_none (by rw [hexpiry]; rfl)]
        exact ⟨rfl, Or.inl rfl⟩
      | some expiresAt =>
        rw [createAlert, Prog.run_attempt_some (by rw [hexpiry]; rfl)]
        exact ⟨rfl, Or.inr ⟨expiresAt, rfl⟩⟩

/-- A change of status leaves no listing in the cache. -/
theorem run_updateStatus (actor : AuthenticatedUser) (id : Uuid) (dto : UpdatePublicAlertStatusDto)
    (ip : Option Text) (s : Store) :
    let t := ((updateStatus actor id dto ip).run s).2
    t = s ∨ (t.cache = (s.cache.deletePrefix ALERTS_CACHE_PREFIX).2 ∧
      ∃ current ∈ s.alerts.rows, current.id = id ∧
        canTransition current.status dto.status = true ∧
        t.alerts = s.alerts.modify id (PublicAlert.moved actor dto.status s.now)
          (PublicAlert.id_moved actor dto.status s.now)) := by
  simp only [updateStatus, getInternal, Prog.run_bind, Prog.run_act, Prog.andThen_ok]
  cases hfind : Table.find PublicAlert.id id s.alerts.rows with
  | none => exact Or.inl rfl
  | some current =>
    simp only [Prog.run_pure, Prog.andThen_ok]
    by_cases hmay : canTransition current.status dto.status = true
    · right
      rw [if_pos hmay, Prog.run_bind, updateAlert, Prog.run_attempt_some (by rw [hfind]; rfl)]
      refine ⟨?_, current, Table.mem_of_find hfind, Table.key_of_find hfind, hmay, ?_⟩ <;>
        unfold broadcast <;> split <;> rfl
    · rw [if_neg hmay]
      exact Or.inl rfl

theorem run_listPublic_hit {items : List PublicAlertItem}
    (h : (s.cache.get filters.cacheKey s.now).1 = some items) :
    (listPublic filters).run s =
      (.ok items, { s with cache := (s.cache.get filters.cacheKey s.now).2 }) := by
  simp only [listPublic, Prog.run_bind, Prog.run_act, Prog.andThen_ok, h, Prog.run_pure]

theorem run_listPublic_miss (h : (s.cache.get filters.cacheKey s.now).1 = none) :
    (listPublic filters).run s =
      (.ok (filters.listing s.now s.alerts.rows), { s with
        cache := (s.cache.get filters.cacheKey s.now).2.set filters.cacheKey
          (filters.listing s.now s.alerts.rows) ALERTS_CACHE_TTL_MS s.now }) := by
  simp only [listPublic, Prog.run_bind, Prog.run_act, Prog.andThen_ok, h, Prog.run_pure]

end Run

/-! ## Runs -/

inductive AlertCall where
  | create (actor : AuthenticatedUser) (dto : CreatePublicAlertDto) (ip : Option Text)
  | updateStatus (actor : AuthenticatedUser) (id : Uuid) (dto : UpdatePublicAlertStatusDto)
      (ip : Option Text)
  | listPublic (filters : Filters)

/-- A call, and the time of it. -/
structure Event where
  call : AlertCall
  now : Int

/-- The store at the time of the call. -/
def Event.at (e : Event) (s : Store) : Store := { s with now := e.now }

/-- The store after the call. -/
def Event.exec (parseDate : Text → Option Int) (e : Event) (s : Store) : Store :=
  match e.call with
  | .create actor dto ip => ((create parseDate actor dto ip).run (e.at s)).2
  | .updateStatus actor id dto ip => ((updateStatus actor id dto ip).run (e.at s)).2
  | .listPublic filters => ((listPublic filters).run (e.at s)).2

/-- What a listing answers. -/
def response (filters : Filters) (now : Int) (s : Store) :
    Except HttpError (List PublicAlertItem) :=
  ((listPublic filters).run { s with now }).1

/-- The item is of an alert that is PUBLISHED. -/
def OfPublished (alerts : List PublicAlert) (item : PublicAlertItem) : Prop :=
  ∃ alert ∈ alerts, alert.item = item ∧ alert.status = .published

/-- Every item is of an alert that is PUBLISHED and has not expired. -/
def Current (alerts : List PublicAlert) (now : Int) (items : List PublicAlertItem) : Prop :=
  ∀ item ∈ items, ∃ alert ∈ alerts, alert.item = item ∧ alert.status = .published ∧
    Unexpired alert.expiresAt now

/-- Every cached listing is of alerts that are PUBLISHED. -/
def Good (s : Store) : Prop :=
  s.cache.Holds fun key items => ALERTS_CACHE_PREFIX.isPrefixOf key = true ∧
    ∀ item ∈ items, OfPublished s.alerts.rows item

/-- A listing is answered from the cache with an alert that has expired by now. -/
def Stale (filters : Filters) (now : Int) (s : Store) : Prop :=
  ∃ items, (s.cache.get filters.cacheKey now).1 = some items ∧
    ∃ item ∈ items, ¬ Unexpired item.expiresAt now

instance (filters : Filters) (now : Int) (s : Store) : Decidable (Stale filters now s) :=
  decidable_of_iff
    ((s.cache.get filters.cacheKey now).1.any fun items =>
      items.any fun item => !decide (Unexpired item.expiresAt now)) <| by
    simp [Stale, Option.any_eq_true]

section Runs

variable {parseDate : Text → Option Int} {s s₀ : Store} {filters : Filters} {now : Int}

theorem current_listing (filters : Filters) (now : Int) (alerts : List PublicAlert) :
    Current alerts now (filters.listing now alerts) := by
  intro item hitem
  obtain ⟨alert, halert, hsame⟩ := List.mem_map.mp hitem
  have hselected := (List.mem_insertionSort _).mp (List.mem_of_mem_take halert)
  obtain ⟨hmem, hselects⟩ := List.mem_filter.mp hselected
  simp only [Filters.selects, Bool.and_eq_true, decide_eq_true_eq] at hselects
  exact ⟨alert, hmem, hsame, hselects.1.1.1, hselects.2⟩

theorem isPrefixOf_cacheKey (filters : Filters) :
    ALERTS_CACHE_PREFIX.isPrefixOf filters.cacheKey = true := by
  rw [List.isPrefixOf_iff_prefix, Filters.cacheKey]
  simp only [List.append_assoc]
  exact List.prefix_append _ _

theorem OfPublished.mono {alerts alerts' : List PublicAlert} {item : PublicAlertItem}
    (h : OfPublished alerts item) (hsub : alerts ⊆ alerts') : OfPublished alerts' item := by
  obtain ⟨alert, hmem, hsame⟩ := h
  exact ⟨alert, hsub hmem, hsame⟩

theorem Good.mono {t : Store} (h : Good s) (hcache : t.cache = s.cache)
    (hsub : s.alerts.rows ⊆ t.alerts.rows) : Good t := by
  rw [Good, hcache]
  exact Cache.Holds.mono h fun _ _ hold => ⟨hold.1, fun item hitem => (hold.2 item hitem).mono hsub⟩

/-- Where no cached listing is left, all of them are good. -/
theorem good_of_deletePrefix {t : Store} (h : Good s)
    (hcache : t.cache = (s.cache.deletePrefix ALERTS_CACHE_PREFIX).2) : Good t := by
  rw [Good, hcache]
  refine (Cache.holds_deletePrefix h).mono fun key items hold => ?_
  rw [hold.1.1] at hold
  exact absurd hold.2 (by decide)

/-- **Every call keeps the cached listings good.** -/
theorem Good.exec (e : Event) (h : Good s) : Good (e.exec parseDate s) := by
  have hat : Good (e.at s) := h
  rw [Event.exec]
  split
  · next actor dto ip _ =>
    obtain ⟨hcache, halerts | ⟨expiresAt, halerts⟩⟩ := run_create parseDate actor dto ip (e.at s)
    · exact hat.mono hcache (by rw [halerts]; exact List.Subset.refl _)
    · exact hat.mono hcache (by rw [halerts]; exact List.subset_append_left _ _)
  · next actor id dto ip _ =>
    rcases run_updateStatus actor id dto ip (e.at s) with hsame | ⟨hcache, -⟩
    · rw [hsame]
      exact hat
    · exact good_of_deletePrefix hat hcache
  · next filters _ =>
    cases hget : ((e.at s).cache.get filters.cacheKey (e.at s).now).1 with
    | some items =>
      rw [run_listPublic_hit hget]
      exact Cache.Holds.get hat
    | none =>
      rw [run_listPublic_miss hget]
      refine Cache.Holds.set (Cache.Holds.get hat)
        ⟨isPrefixOf_cacheKey filters, fun item hitem => ?_⟩
      obtain ⟨alert, hmem, hsame, hpublished, -⟩ := current_listing filters _ _ item hitem
      exact ⟨alert, hmem, hsame, hpublished⟩

/-- A listing is current where it is not answered from the cache with an expired alert. -/
theorem Good.current_iff (h : Good s) :
    (∀ items, response filters now s = .ok items → Current s.alerts.rows now items) ↔
      ¬ Stale filters now s := by
  cases hget : (s.cache.get filters.cacheKey now).1 with
  | none =>
    have hresponse : response filters now s = .ok (filters.listing now s.alerts.rows) :=
      congrArg Prod.fst (run_listPublic_miss (s := { s with now }) hget)
    refine iff_of_true (fun items hitems => ?_) ?_
    · rw [← Except.ok.inj (hresponse.symm.trans hitems)]
      exact current_listing filters now _
    · rintro ⟨items, hitems, -⟩
      cases hget.symm.trans hitems
  | some cached =>
    have hresponse : response filters now s = .ok cached :=
      congrArg Prod.fst (run_listPublic_hit (s := { s with now }) hget)
    have hof := (Cache.Holds.of_get h hget).2
    constructor
    · rintro hcurrent ⟨items, hitems, item, hitem, hexpired⟩
      obtain rfl := Option.some.inj (hget.symm.trans hitems)
      obtain ⟨alert, -, rfl, -, hunexpired⟩ := hcurrent cached hresponse item hitem
      exact hexpired hunexpired
    · intro hstale items hitems item hitem
      obtain rfl := Except.ok.inj (hresponse.symm.trans hitems)
      obtain ⟨alert, hmem, rfl, hpublished⟩ := hof item hitem
      refine ⟨alert, hmem, rfl, hpublished, ?_⟩
      by_contra hexpired
      exact hstale ⟨cached, hget, alert.item, hitem, hexpired⟩

/-- **When every listing is current**: in a run of the calls, at whatever times, every listing has
only alerts that are PUBLISHED and have not expired at its moment, exactly where no listing is
answered from the cache with an alert that has expired since. -/
theorem listings_current_iff (h₀ : Good s₀) (events : List Event) :
    (∀ before e, before ++ [e] <+: events → ∀ filters, e.call = .listPublic filters →
        ∀ items, response filters e.now (after (Event.exec parseDate) s₀ before) = .ok items →
          Current (after (Event.exec parseDate) s₀ before).alerts.rows e.now items) ↔
      ∀ before e, before ++ [e] <+: events → ∀ filters, e.call = .listPublic filters →
        ¬ Stale filters e.now (after (Event.exec parseDate) s₀ before) := by
  have hgood : ∀ moment, moment <+: events → Good (after (Event.exec parseDate) s₀ moment) := by
    refine forall_prefix h₀ fun before e _ hbefore => ?_
    rw [after_concat]
    exact hbefore.exec e
  refine forall_congr' fun before => forall_congr' fun e => forall_congr' fun hprefix =>
    forall_congr' fun filters => forall_congr' fun _ => ?_
  exact (hgood before ((List.prefix_append before [e]).trans hprefix)).current_iff

end Runs

/-! ## An alert that is listed twice -/

namespace Sample

def admin : AuthenticatedUser := ⟨"ada", "agency", .superAdmin⟩

/-- Every text is read as the same time. -/
def parseDate (_ : Text) : Option Int := some 30000

def store : Store where
  alerts := Table.Issued.empty (fun n => List.replicate n 0x30) zeros_injective
  evidence := []
  broadcasts := []
  cache := Cache.empty
  now := 0

def drafting (expiresAt : Option Text) : Event where
  call := .create admin ⟨"Bank calls", "The caller is no bank.", "GB", none, none, none, expiresAt⟩
    none
  now := 0

def publishing : Event := ⟨.updateStatus admin [] ⟨.published, none⟩ none, 0⟩

def everything : Filters := ⟨none, none, none⟩

def listing (now : Int) : Event := ⟨.listPublic everything, now⟩

/-- An alert without an expiry. -/
def lasting : List Event := [drafting none, publishing, listing 0, listing 31000]

theorem good : Good store := fun _ h => absurd h List.not_mem_nil

theorem lasting_fresh : ∀ before e, before ++ [e] <+: lasting → ∀ filters,
    e.call = .listPublic filters →
      ¬ Stale filters e.now (after (Event.exec parseDate) store before) := by
  refine forall_call_cons ?_ (forall_call_cons ?_ (forall_call_cons ?_ (forall_call_cons ?_
    forall_call_nil)))
  · exact fun filters hcall => nomatch hcall
  · exact fun filters hcall => nomatch hcall
  · rintro filters ⟨⟩
    decide +kernel
  · rintro filters ⟨⟩
    decide +kernel

end Sample

open Sample in
theorem listings_current_iff_lasting :
    response everything 31000 (after (Event.exec parseDate) store (lasting.take 3)) =
        .ok [⟨[], "Bank calls", "The caller is no bank.", "GB", .warning, none, some 0, none⟩] ∧
      ∀ before e, before ++ [e] <+: lasting → ∀ filters, e.call = .listPublic filters →
        ∀ items, response filters e.now (after (Event.exec parseDate) store before) = .ok items →
          Current (after (Event.exec parseDate) store before).alerts.rows e.now items :=
  ⟨by decide +kernel, (listings_current_iff good lasting).mpr lasting_fresh⟩

/-- **An alert is listed after it has expired**, from the cache. -/
theorem expired_alert_listed :
    let s := after (Event.exec Sample.parseDate) Sample.store
      [Sample.drafting (some "1970-01-01T00:00:30Z"), Sample.publishing, Sample.listing 0]
    ∃ item, response Sample.everything 31000 s = .ok [item] ∧ item.expiresAt = some 30000 ∧
      ¬ Current s.alerts.rows 31000 [item] := by
  refine ⟨⟨[], "Bank calls", "The caller is no bank.", "GB", .warning, none, some 0, some 30000⟩,
    by decide +kernel, rfl, fun h => ?_⟩
  obtain ⟨alert, -, hitem, -, hunexpired⟩ := h _ (List.mem_singleton_self _)
  have hexpiry : alert.expiresAt = some 30000 := congrArg PublicAlertItem.expiresAt hitem
  exact absurd (hunexpired 30000 hexpiry) (by decide)

end PublicAlerts
