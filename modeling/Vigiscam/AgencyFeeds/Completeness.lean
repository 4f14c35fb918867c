import Vigiscam.AgencyFeeds.Service

/-!
# What a consumer of a feed receives

A consumer calls `consumeFeed` again and again, each time with the cursor that came
with the page before, until no more is announced (`Reading`). The cursor of a page is
the time of the call, also where the page was cut off at the limit, so the next call
starts behind every entry that was left out: the consumer receives the first page and
nothing more (`Reading.received_eq`), which is everything exactly where everything fits
into one page (`feed_complete_iff`).
-/

namespace AgencyFeeds

open Js Concurrency Registry

variable {parseDate : Text → Option Date} {partner : PartnerPrincipal} {feedId : Uuid}
  {limit : Option Int} {s s' t : Store} {feed : AgencyFeed} {now later : Date}
  {since : Option Text} {received : List FeedItem}

/-! ## Reading a feed -/

/-- The entry matches the feed's filters. -/
def AgencyFeed.Matches (feed : AgencyFeed) (entry : RegistryEntry) : Prop :=
  entry.status = .published ∧
    (feed.categories ≠ [] → entry.category ∈ feed.categories) ∧
    (feed.indicatorTypes ≠ [] → entry.indicatorType ∈ feed.indicatorTypes)

instance (feed : AgencyFeed) : DecidablePred feed.Matches :=
  fun _ => inferInstanceAs (Decidable (_ ∧ _))

/-- The entries that the feed is to deliver. -/
def matching (feed : AgencyFeed) (s : Store) : List RegistryEntry :=
  s.entries.filter feed.Matches

/-- The feed is there, it is the partner's, and it is active. -/
structure Readable (s : Store) (partner : PartnerPrincipal) (feedId : Uuid) (feed : AgencyFeed) :
    Prop where
  found : s.feeds feedId = some feed
  owned : feed.tenantId = partner.tenantId
  active : feed.status = .active

/-- The entries are the same, and so is the feed but for the time of its last delivery. -/
structure Unchanged (feedId : Uuid) (s t : Store) : Prop where
  entries : t.entries = s.entries
  feed : ∀ f, s.feeds feedId = some f →
    ∃ date, t.feeds feedId = some { f with lastDeliveredAt := date }

/-- A consumer reads until no more is announced. The first call is at `now` with the
cursor `since`; nothing changes between two calls. -/
inductive Reading (parseDate : Text → Option Date) (partner : PartnerPrincipal) (feedId : Uuid)
    (limit : Option Int) : Store → Date → Option Text → List FeedItem → Prop
  | last {s s' : Store} {now : Date} {since : Option Text} {result : FeedConsumeResult}
      (hcall : (consumeFeed parseDate now partner feedId since limit).run s = (.ok result, s'))
      (hdone : result.hasMore = false) :
      Reading parseDate partner feedId limit s now since result.items
  | more {s s' t : Store} {now later : Date} {since : Option Text} {result : FeedConsumeResult}
      {rest : List FeedItem}
      (hcall : (consumeFeed parseDate now partner feedId since limit).run s = (.ok result, s'))
      (hmore : result.hasMore = true) (hsame : Unchanged feedId s' t)
      (hrest : Reading parseDate partner feedId limit t later (some result.untilCursor) rest) :
      Reading parseDate partner feedId limit s now since (result.items ++ rest)

/-! ## One call -/

/-- The rows that a call reads, one more than a page has. -/
def rowsRead (feed : AgencyFeed) (since : Option Date) (now : Date) (limit : Option Int)
    (s : Store) : List RegistryEntry :=
  ((s.entries.filter (feed.Selects since now)).insertionSort
    fun a b => a.updatedAt ≤ b.updatedAt).take (pageSize limit + 1)

/-- A call for a readable feed returns a page, and changes nothing that a call reads. -/
theorem run_consumeFeed (now : Date) (limit : Option Int)
    (hread : Readable s partner feedId feed) (date : Option Date)
    (hsince : sinceOf parseDate since = pure date) :
    ∃ s', (consumeFeed parseDate now partner feedId since limit).run s =
        (.ok (resultOf (pageSize limit) date now (rowsRead feed date now limit s)), s') ∧
      Unchanged feedId s s' := by
  -- the delivery row is written before the feed's `lastDeliveredAt`
  let s₁ : Store := { s with deliveries := s.deliveries ++
    [{ feedId
       tenantId := partner.tenantId
       requestedByKeyId := partner.keyId
       itemCount := (pageOf (pageSize limit) (rowsRead feed date now limit s)).length
       sinceCursor := date
       untilCursor := now }] }
  let s₂ : Store := { s₁ with
    feeds := Function.update s.feeds feedId (some { feed with lastDeliveredAt := some now }) }
  have hupdate : (updateLastDelivered feedId now).run s₁ = (.ok (), s₂) :=
    Prog.run_attempt_some (by rw [show s₁.feeds feedId = some feed from hread.found]; rfl)
  refine ⟨s₂, ?_, rfl, fun f hf => ?_⟩
  · have hfind : (findFeed feedId).run s = (.ok (some feed), s) :=
      congrArg (fun found => (Except.ok found, s)) hread.found
    simp only [consumeFeed, Prog.run_bind, hfind, Prog.andThen_ok, hread.owned, hread.active,
      ne_eq, not_true_eq_false, if_false, hsince, Prog.run_pure, findEntries, Prog.run_act,
      createDelivery]
    exact (congrArg (Prog.andThen _) hupdate).trans rfl
  · obtain rfl := Option.some.inj (hread.found.symm.trans hf)
    exact ⟨some now, Function.update_self ..⟩

/-! ## The whole reading -/

theorem sinceOf_none (parseDate : Text → Option Date) : sinceOf parseDate none = pure none := rfl

/-- The cursor of a page is read back as the time of its call. -/
theorem sinceOf_untilCursor (hparse : parseDate now.toISOString = some now) :
    sinceOf parseDate (some now.toISOString) = pure (some now) := by
  have hpresent : present (some now.toISOString) = some now.toISOString := by
    refine Option.filter_some_pos (decide_eq_true fun hnil => ?_)
    simp [Date.toISOString] at hnil
  rw [sinceOf, hpresent]
  simp only [hparse]

/-- Behind a cursor that is later than every entry nothing is left. -/
theorem rowsRead_after (hbefore : ∀ e ∈ matching feed s, e.updatedAt < now) (later : Date) :
    rowsRead feed (some now) later limit s = [] := by
  have hnone : s.entries.filter (feed.Selects (some now) later) = [] := by
    refine List.filter_eq_nil_iff.mpr fun e he hselects => ?_
    obtain ⟨hstatus, hcategory, htype, hafter, -⟩ := of_decide_eq_true hselects
    have hmatch : e ∈ matching feed s :=
      List.mem_filter.mpr ⟨he, decide_eq_true ⟨hstatus, hcategory, htype⟩⟩
    exact absurd (hafter now rfl) (not_lt_of_gt (hbefore e hmatch))
  rw [rowsRead, hnone]
  rfl

/-- The first call reads among all entries that match. -/
theorem rowsRead_first (hbefore : ∀ e ∈ matching feed s, e.updatedAt < now) :
    rowsRead feed none now limit s =
      ((matching feed s).insertionSort fun a b => a.updatedAt ≤ b.updatedAt).take
        (pageSize limit + 1) := by
  have hsame : s.entries.filter (feed.Selects none now) = matching feed s := by
    refine List.filter_congr fun e he => decide_eq_decide.mpr ⟨?_, fun hmatch => ?_⟩
    · rintro ⟨hstatus, hcategory, htype, -, -⟩
      exact ⟨hstatus, hcategory, htype⟩
    · exact ⟨hmatch.1, hmatch.2.1, hmatch.2.2, fun _ h => (nomatch h),
        le_of_lt (hbefore e (List.mem_filter.mpr ⟨he, decide_eq_true hmatch⟩))⟩
  rw [rowsRead, hsame]

theorem pageOf_take (n : Nat) (rows : List RegistryEntry) :
    pageOf n (rows.take (n + 1)) = (rows.take n).map projectEntry := by
  rw [pageOf]
  split
  · rw [List.take_take, Nat.min_eq_left (Nat.le_succ n)]
  · rename_i h
    rw [List.length_take, not_lt] at h
    have hlength : rows.length ≤ n := by omega
    rw [List.take_of_length_le hlength, List.take_of_length_le (by omega)]

/-- A call behind every entry returns an empty page and announces no more. -/
theorem Reading.empty (hread : Readable s partner feedId feed)
    (hparse : parseDate now.toISOString = some now)
    (hbefore : ∀ e ∈ matching feed s, e.updatedAt < now)
    (h : Reading parseDate partner feedId limit s later (some now.toISOString) received) :
    received = [] := by
  obtain ⟨s₁, hrun, -⟩ := run_consumeFeed later limit hread (some now)
    (sinceOf_untilCursor hparse)
  rw [rowsRead_after hbefore] at hrun
  cases h with
  | last hcall hdone =>
    rw [hrun] at hcall
    cases hcall
    rfl
  | more hcall hmore hsame hrest =>
    rw [hrun] at hcall
    cases hcall
    cases hmore

theorem Unchanged.readable (h : Unchanged feedId s t) (hread : Readable s partner feedId feed) :
    ∃ date, Readable t partner feedId { feed with lastDeliveredAt := date } := by
  obtain ⟨date, hfound⟩ := h.feed feed hread.found
  exact ⟨date, hfound, hread.owned, hread.active⟩

/-- The consumer receives the oldest entries, up to the limit, and nothing more. -/
theorem Reading.received_eq (hread : Readable s partner feedId feed)
    (hparse : parseDate now.toISOString = some now)
    (hbefore : ∀ e ∈ matching feed s, e.updatedAt < now)
    (h : Reading parseDate partner feedId limit s now none received) :
    received = (((matching feed s).insertionSort
      fun a b => a.updatedAt ≤ b.updatedAt).take (pageSize limit)).map projectEntry := by
  obtain ⟨s₁, hrun, hsame₁⟩ := run_consumeFeed now limit hread none (sinceOf_none parseDate)
  rw [rowsRead_first hbefore] at hrun
  cases h with
  | last hcall hdone =>
    rw [hrun] at hcall
    cases hcall
    exact pageOf_take _ _
  | @more _ s' t _ _ _ result rest hcall hmore hsame hrest =>
    rw [hrun] at hcall
    cases hcall
    -- the next call is made from a store with the same entries and the same filters
    obtain ⟨_, hread₁⟩ := hsame₁.readable hread
    obtain ⟨_, hread'⟩ := hsame.readable hread₁
    have hmatching : t.entries = s.entries := hsame.entries.trans hsame₁.entries
    have hrest_nil := hrest.empty hread' hparse fun e he => hbefore e (by
      rw [matching, ← hmatching]
      exact he)
    rw [hrest_nil, List.append_nil]
    exact pageOf_take _ _

/-- A consumer comes to an end. -/
theorem exists_reading (hread : Readable s partner feedId feed)
    (hparse : parseDate now.toISOString = some now)
    (hbefore : ∀ e ∈ matching feed s, e.updatedAt < now) (later : Date) (limit : Option Int) :
    ∃ received, Reading parseDate partner feedId limit s now none received := by
  obtain ⟨s₁, hrun, hsame⟩ := run_consumeFeed now limit hread none (sinceOf_none parseDate)
  obtain ⟨date, hread₁⟩ := hsame.readable hread
  obtain ⟨s₂, hrun₂, -⟩ := run_consumeFeed later limit hread₁ (some now)
    (sinceOf_untilCursor hparse)
  have hempty : rowsRead { feed with lastDeliveredAt := date } (some now) later limit s₁ = [] :=
    rowsRead_after (fun e he => hbefore e (by
      rw [matching, ← hsame.entries]
      exact he)) later
  rw [hempty] at hrun₂
  by_cases hmore : (resultOf (pageSize limit) none now (rowsRead feed none now limit s)).hasMore
  · exact ⟨_, .more hrun hmore ⟨rfl, fun f hf => ⟨f.lastDeliveredAt, hf⟩⟩ (.last hrun₂ rfl)⟩
  · exact ⟨_, .last hrun (Bool.eq_false_iff.mpr hmore)⟩

/-- **When a feed is complete.** Where every entry that matches was updated before the
first call and nothing changes, a consumer comes to an end, and it receives every entry
exactly once if and only if all of them fit into one page. -/
theorem feed_complete_iff (hread : Readable s partner feedId feed)
    (hparse : parseDate now.toISOString = some now)
    (hbefore : ∀ e ∈ matching feed s, e.updatedAt < now) (limit : Option Int) :
    (∃ received, Reading parseDate partner feedId limit s now none received) ∧
      ∀ received, Reading parseDate partner feedId limit s now none received →
        (received.Perm ((matching feed s).map projectEntry) ↔
          (matching feed s).length ≤ pageSize limit) := by
  refine ⟨exists_reading hread hparse hbefore now limit, fun received hreading => ?_⟩
  rw [hreading.received_eq hread hparse hbefore]
  constructor
  · intro hperm
    have hlength := hperm.length_eq
    rw [List.length_map, List.length_map, List.length_take, List.length_insertionSort] at hlength
    omega
  · intro hfits
    rw [List.take_of_length_le (by rw [List.length_insertionSort]; exact hfits)]
    exact (List.perm_insertionSort _ _).map projectEntry

/-! ### A feed of two entries -/

/-- A day of January 2026, at midnight. -/
def january (day : Nat) (h : 1 ≤ day ∧ day ≤ 31) : Date := Date.january day h

def callTime : Date := Date.sampleDay

def sampleEntry (id : Uuid) (updatedAt : Date) : RegistryEntry where
  id := id
  indicatorType := .domain
  indicatorValue := "a.example"
  normalizedIndicator := "a.example"
  category := "PHISHING"
  status := .published
  publicStatus := none
  confidenceScore := 80
  publicSafeSummary := "summary"
  recommendedAction := none
  firstSeen := none
  lastSeen := none
  evidenceCount := 1
  sourceSignalId := none
  publishedAt := none
  updatedAt := updatedAt

def sampleFeed : AgencyFeed where
  tenantId := [0x74]
  categories := []
  indicatorTypes := []
  status := .active
  lastDeliveredAt := none

def samplePartner : PartnerPrincipal where
  keyId := [0x6B]
  tenantId := [0x74]
  keyPrefix := [0x6B]

def twoEntries : Store where
  feeds _ := some sampleFeed
  entries := [sampleEntry [0x31] (january 1 (by decide)),
    sampleEntry [0x32] (january 2 (by decide))]
  deliveries := []

/-- `new Date(text)` on the one text that the readings below pass. -/
def parseCallTime (text : Text) : Option Date :=
  if text = callTime.toISOString then some callTime else none

theorem parseCallTime_callTime : parseCallTime callTime.toISOString = some callTime := if_pos rfl

theorem readable_twoEntries : Readable twoEntries samplePartner [0x66] sampleFeed := ⟨rfl, rfl, rfl⟩

theorem before_twoEntries : ∀ e ∈ matching sampleFeed twoEntries, e.updatedAt < callTime := by
  decide

/-- Two entries fit into a page of fifty, but not into a page of one. -/
theorem feed_complete_iff_two :
    (∃ received, Reading parseCallTime samplePartner [0x66] none twoEntries callTime none received ∧
      received.Perm ((matching sampleFeed twoEntries).map projectEntry)) ∧
    ∃ received, Reading parseCallTime samplePartner [0x66] (some 1) twoEntries callTime none
      received ∧
      ¬ received.Perm ((matching sampleFeed twoEntries).map projectEntry) := by
  obtain ⟨⟨received, hreading⟩, hiff⟩ :=
    feed_complete_iff readable_twoEntries parseCallTime_callTime before_twoEntries none
  obtain ⟨⟨cut, hcut⟩, hiff'⟩ :=
    feed_complete_iff readable_twoEntries parseCallTime_callTime before_twoEntries (some 1)
  exact ⟨⟨received, hreading, (hiff received hreading).mpr (by decide)⟩,
    ⟨cut, hcut, fun hperm => absurd ((hiff' cut hcut).mp hperm) (by decide)⟩⟩

/-- With a limit of one, the second entry is never delivered. -/
theorem second_entry_lost :
    (∃ received,
      Reading parseCallTime samplePartner [0x66] (some 1) twoEntries callTime none received) ∧
    ∀ received,
      Reading parseCallTime samplePartner [0x66] (some 1) twoEntries callTime none received →
        projectEntry (sampleEntry [0x32] (january 2 (by decide))) ∉ received := by
  refine ⟨exists_reading readable_twoEntries parseCallTime_callTime before_twoEntries callTime
    (some 1),
    fun received hreading => ?_⟩
  rw [hreading.received_eq readable_twoEntries parseCallTime_callTime before_twoEntries]
  decide

end AgencyFeeds
