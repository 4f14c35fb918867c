import Vigiscam.Lists.Pages
import Vigiscam.Registry.CacheKeys

/-!
# Page after page of a search

A client that asks for one page after the other until there are no more gets each entry that it
looks for once, the one that was seen last first (`walk_complete`). The pages have different keys,
so that no search of the walk is answered with another page, whatever the cache keeps in between.
-/

namespace Registry

open Js Concurrency Common

/-- The query for the page that has `k` pages before it. -/
def RegistrySearchQuery.onPage (query : RegistrySearchQuery) (k : Nat) : RegistrySearchQuery :=
  { query with page := some (.ofInt (k + 1)) }

section Pages

variable (p : Platform) (query : RegistrySearchQuery)

/-- The rows that a query is about, in the order of the search. -/
def found (entries : List RegistryEntry) : List RegistryEntry :=
  (entries.filter (selects p query)).insertionSort SeenLater

/-- How many rows a page has. -/
def RegistrySearchQuery.size : Nat := query.pageSize.toNat

theorem size_pos : 0 < query.size := by
  unfold RegistrySearchQuery.size RegistrySearchQuery.pageSize MAX_PAGE_SIZE
  omega

variable {p query} {entries : List RegistryEntry} {k : Nat}

theorem pageNumber_onPage : (query.onPage k).pageNumber = k + 1 := by
  have hfloor : floor (.ofInt (k + 1)) = (k : Int) + 1 := Int.ediv_one _
  show max 1 (floor (.ofInt (k + 1))) = _
  omega

theorem skip_onPage : (query.onPage k).skip = k * query.size := by
  have hnonneg : 0 ≤ query.pageSize := by
    unfold RegistrySearchQuery.pageSize MAX_PAGE_SIZE
    omega
  show (((query.onPage k).pageNumber - 1) * query.pageSize).toNat = _
  rw [pageNumber_onPage, add_sub_cancel_right, Int.toNat_mul (Int.natCast_nonneg k) hnonneg]
  rfl

theorem rowsOf_onPage : rowsOf p (query.onPage k) entries =
    Pages.window query.size k (found p query entries) := by
  rw [rowsOf, skip_onPage]
  rfl

/-- What the search of a page computes. -/
def pageResult (p : Platform) (query : RegistrySearchQuery) (entries : List RegistryEntry)
    (k : Nat) : RegistrySearchResult where
  items := (Pages.page query.size k (found p query entries)).map toPublicRegistryEntry
  page := k + 1
  limit := query.pageSize
  hasMore := Pages.hasNext query.size k (found p query entries)

theorem answer_onPage (hskip : p.skips (k * query.size) = true) :
    answer p (query.onPage k) entries = some (pageResult p query entries k) := by
  rw [answer, skip_onPage, if_pos hskip, resultOf, rowsOf_onPage, pageNumber_onPage]
  rfl

/-! ## The order of the rows -/

/-- The entries that a query is about, each once, the one that was seen last first. -/
structure InOrder (p : Platform) (query : RegistrySearchQuery)
    (entries rows : List RegistryEntry) : Prop where
  each : rows.Perm (entries.filter (selects p query))
  published : ∀ entry ∈ rows, entry.status = .published
  nodup : rows.Nodup
  descending : rows.Pairwise fun a b =>
    ∃ x y, a.lastSeen = some x ∧ b.lastSeen = some y ∧ y < x

theorem seenLater_total (a b : RegistryEntry) : SeenLater a b ∨ SeenLater b a := by
  unfold SeenLater
  cases a.lastSeen with
  | none => exact Or.inl trivial
  | some x =>
    cases b.lastSeen with
    | none => exact Or.inr trivial
    | some y => exact (le_total y x)

theorem seenLater_trans {a b c : RegistryEntry} (hab : SeenLater a b) (hbc : SeenLater b c) :
    SeenLater a c := by
  unfold SeenLater at *
  cases ha : a.lastSeen with
  | none => trivial
  | some x =>
    cases hb : b.lastSeen with
    | none =>
      rw [ha, hb] at hab
      exact hab.elim
    | some y =>
      cases hc : c.lastSeen with
      | none =>
        rw [hb, hc] at hbc
        exact hbc.elim
      | some z =>
        rw [ha, hb] at hab
        rw [hb, hc] at hbc
        exact le_trans hbc hab

instance : Std.Total SeenLater := ⟨seenLater_total⟩

instance : IsTrans RegistryEntry SeenLater := ⟨fun _ _ _ => seenLater_trans⟩

theorem published_of_selects {entry : RegistryEntry} (h : selects p query entry = true) :
    entry.status = .published := by
  simp only [selects, Bool.and_eq_true, decide_eq_true_eq] at h
  exact h.1.1.1

theorem inOrder_found (hseen : ∀ entry ∈ entries, entry.lastSeen ≠ none)
    (hdistinct : (entries.map RegistryEntry.lastSeen).Nodup) :
    InOrder p query entries (found p query entries) := by
  have hperm : (found p query entries).Perm (entries.filter (selects p query)) :=
    List.perm_insertionSort _ _
  have hnodup : (found p query entries).Nodup :=
    hperm.nodup_iff.mpr ((List.Nodup.of_map _ hdistinct).filter _)
  have hdiffer : (found p query entries).Pairwise fun a b => a.lastSeen ≠ b.lastSeen := by
    refine List.pairwise_map.mp ((hperm.map RegistryEntry.lastSeen).nodup_iff.mpr ?_)
    exact hdistinct.sublist (List.filter_sublist.map _)
  refine ⟨hperm, fun entry h => ?_, hnodup, ?_⟩
  · exact published_of_selects (List.mem_filter.mp (hperm.mem_iff.mp h)).2
  · have hsorted := (List.pairwise_insertionSort SeenLater _).and hdiffer
    refine hsorted.imp_of_mem fun {a b} ha hb hab => ?_
    have hin : ∀ entry ∈ found p query entries, ∃ x, entry.lastSeen = some x := fun entry h =>
      Option.ne_none_iff_exists'.mp (hseen entry (List.mem_filter.mp (hperm.mem_iff.mp h)).1)
    obtain ⟨x, hx⟩ := hin a ha
    obtain ⟨y, hy⟩ := hin b hb
    obtain ⟨hle, hne⟩ := hab
    rw [SeenLater, hx, hy] at hle
    rw [hx, hy] at hne
    exact ⟨x, y, hx, hy, lt_of_le_of_ne hle fun heq => hne (congrArg some heq.symm)⟩

/-! ## The walk -/

/-- A moment between two searches: the time, and what the cache still has. A cache that is
disabled has nothing. -/
structure Moment where
  now : Int
  kept : CacheItem RegistrySearchResult → Bool

def Store.at (s : Store) (m : Moment) : Store :=
  { s with now := m.now, cache := s.cache.keep m.kept }

/-- What a client gets that searches page after page until there are no more; `none` where a
search fails, or where the client gives up before. -/
def walk (p : Platform) (query : RegistrySearchQuery) :
    List Moment → Nat → Store → Option (List PublicRegistryEntry)
  | [], _, _ => none
  | m :: rest, k, s =>
    match (search p (query.onPage k)).run (s.at m) with
    | (.error _, _) => none
    | (.ok result, t) =>
      if result.hasMore then (walk p query rest (k + 1) t).map (result.items ++ ·)
      else some result.items

/-- The cache has nothing but pages before page `k`. -/
def OnlyBefore (p : Platform) (query : RegistrySearchQuery) (k : Nat)
    (cache : Cache RegistrySearchResult) : Prop :=
  cache.Holds fun key _ => ∃ j < k, key = buildCacheKey p (query.onPage j)

theorem onPage_key_inj {j k : Nat}
    (h : buildCacheKey p (query.onPage j) = buildCacheKey p (query.onPage k)) : j = k := by
  have hpage := (buildCacheKey_eq h).1
  rw [pageNumber_onPage, pageNumber_onPage] at hpage
  omega

/-- A page is not found before it is searched. -/
theorem OnlyBefore.get_eq_none {cache : Cache RegistrySearchResult}
    (h : OnlyBefore p query k cache) (now : Int) :
    (cache.get (buildCacheKey p (query.onPage k)) now).1 = none := by
  cases hget : (cache.get (buildCacheKey p (query.onPage k)) now).1 with
  | none => rfl
  | some result =>
    obtain ⟨j, hj, hkey⟩ := Cache.Holds.of_get h hget
    have := onPage_key_inj hkey
    omega

/-- The store where a page is in the cache. -/
def Store.fill (p : Platform) (query : RegistrySearchQuery) (k : Nat) (s : Store) : Store :=
  { s with
    cache := (s.cache.get (buildCacheKey p (query.onPage k)) s.now).2.set
      (buildCacheKey p (query.onPage k)) (pageResult p query s.entries k)
      SEARCH_CACHE_TTL_MS s.now }

theorem OnlyBefore.fill {s : Store} (h : OnlyBefore p query k s.cache) :
    OnlyBefore p query (k + 1) (s.fill p query k).cache :=
  (h.get.mono fun _ _ ⟨j, hj, hkey⟩ => ⟨j, by omega, hkey⟩).set ⟨k, by omega, rfl⟩

/-- A search that misses the cache. -/
theorem run_search_onPage {s : Store} (hskip : p.skips (k * query.size) = true)
    (hmiss : (s.cache.get (buildCacheKey p (query.onPage k)) s.now).1 = none) :
    (search p (query.onPage k)).run s =
      (.ok (pageResult p query s.entries k), s.fill p query k) := by
  rw [run_search_miss hmiss, answer_onPage hskip]
  rfl

/-- From a page on, the walk gives what is left, if there are moments for all of the pages. -/
theorem walk_eq (moments : List Moment) {s : Store}
    (hskips : ∀ n ≤ s.entries.length, p.skips n = true)
    (hcache : OnlyBefore p query k s.cache)
    (hk : k ≤ Pages.last query.size (found p query s.entries)) :
    walk p query moments k s =
      if Pages.last query.size (found p query s.entries) < k + moments.length then
        some (((found p query s.entries).drop (k * query.size)).map toPublicRegistryEntry)
      else none := by
  have hlength : (found p query s.entries).length ≤ s.entries.length :=
    (List.length_insertionSort _ _).trans_le (List.length_filter_le _ _)
  induction moments generalizing k s with
  | nil => exact (if_neg (by rw [List.length_nil]; omega)).symm
  | cons m rest ih =>
    have hskip := hskips _ ((Pages.skip_le_length hk).trans hlength)
    have hkept : OnlyBefore p query k (s.at m).cache := hcache.keep m.kept
    have hrun := run_search_onPage (s := s.at m) hskip (hkept.get_eq_none _)
    rw [walk, hrun]
    show (if Pages.hasNext query.size k (found p query s.entries) = true then _ else _) = _
    by_cases hmore : k < Pages.last query.size (found p query s.entries)
    · -- the rest of the walk goes on from the page, which is in the cache now
      have hrest := ih (s := (s.at m).fill p query k) hskips hkept.fill hmore hlength
      rw [if_pos ((Pages.hasNext_iff (size_pos query)).mpr hmore), hrest, List.length_cons]
      show (if Pages.last query.size (found p query s.entries) < k + 1 + rest.length then _
        else none).map _ = _
      have hcount : k + 1 + rest.length = k + (rest.length + 1) := by omega
      rw [hcount]
      split
      · show some ((Pages.page query.size k (found p query s.entries)).map toPublicRegistryEntry ++
          ((found p query s.entries).drop ((k + 1) * query.size)).map toPublicRegistryEntry) = _
        rw [← List.map_append, Pages.page_append_drop]
      · rfl
    · have heq : k = Pages.last query.size (found p query s.entries) := by omega
      have hlast : ¬ Pages.hasNext query.size k (found p query s.entries) = true :=
        fun h => hmore ((Pages.hasNext_iff (size_pos query)).mp h)
      rw [if_neg hlast, if_pos (by rw [List.length_cons]; omega)]
      show some ((Pages.page query.size k (found p query s.entries)).map _) = _
      rw [heq, Pages.page_last (size_pos query)]

/-- **A walk finds every entry**: from an empty cache on it ends after the last page, with the
entries that the query is about, each once and in order; and a page after the last one is empty. -/
theorem walk_complete (p : Platform) (query : RegistrySearchQuery) (s : Store)
    (hcache : s.cache = .empty) (hseen : ∀ entry ∈ s.entries, entry.lastSeen ≠ none)
    (hdistinct : (s.entries.map RegistryEntry.lastSeen).Nodup)
    (hskips : ∀ n ≤ s.entries.length, p.skips n = true) :
    ∃ rows last, InOrder p query s.entries rows ∧
      (∀ moments, walk p query moments 0 s =
        if last < moments.length then some (rows.map toPublicRegistryEntry) else none) ∧
      ∀ k, last < k → ∀ t : Store, t.entries = s.entries →
        p.skips (query.onPage k).skip = true →
        (t.cache.get (buildCacheKey p (query.onPage k)) t.now).1 = none →
        ∃ result u, (search p (query.onPage k)).run t = (.ok result, u) ∧
          result.items = [] ∧ result.hasMore = false := by
  refine ⟨found p query s.entries, Pages.last query.size (found p query s.entries),
    inOrder_found hseen hdistinct, fun moments => ?_, fun k hk t ht hskip hmiss => ?_⟩
  · have hempty : OnlyBefore p query 0 s.cache := hcache ▸ Cache.holds_empty
    have hwalk := walk_eq moments hskips hempty (Nat.zero_le _)
    rwa [Nat.zero_add, Nat.zero_mul, List.drop_zero] at hwalk
  · rw [skip_onPage] at hskip
    refine ⟨_, _, run_search_onPage hskip hmiss, ?_, ?_⟩
    · show (Pages.page query.size k (found p query t.entries)).map _ = []
      rw [ht, Pages.page_of_last_lt (size_pos query) hk, List.map_nil]
    · show Pages.hasNext query.size k (found p query t.entries) = false
      rw [ht, ← Bool.not_eq_true, Pages.hasNext_iff (size_pos query)]
      exact Nat.not_lt.mpr hk.le

end Pages

/-! ## A walk of two pages -/

/-- An entry that was seen on a day of January. -/
def januaryEntry (id : Uuid) (day : Nat) (h : 1 ≤ day ∧ day ≤ 31) : RegistryEntry :=
  { walletEntry with
    id
    lastSeen := some (Date.january day h).noon }

/-- Two public entries, and one that is not. -/
def januaryStore : Store :=
  { walletStore with
    entries := [januaryEntry "a" 3 (by decide), januaryEntry "b" 9 Date.sampleDay.day_range,
      { januaryEntry "c" 5 (by decide) with status := .candidate }] }

/-- One wallet a page. -/
def oneByOne : RegistrySearchQuery := { walletQuery "bc1qAb" with limit := some (.ofInt 1) }

/-- The walk through the two entries, in which the cache loses everything again and again. -/
theorem walk_complete_january : ∃ rows last,
    InOrder asciiPlatform oneByOne januaryStore.entries rows ∧
    (∀ moments, walk asciiPlatform oneByOne moments 0 januaryStore =
      if last < moments.length then some (rows.map toPublicRegistryEntry) else none) ∧
    ∀ k, last < k → ∀ t : Store, t.entries = januaryStore.entries →
      asciiPlatform.skips (oneByOne.onPage k).skip = true →
      (t.cache.get (buildCacheKey asciiPlatform (oneByOne.onPage k)) t.now).1 = none →
      ∃ result u, (search asciiPlatform (oneByOne.onPage k)).run t = (.ok result, u) ∧
        result.items = [] ∧ result.hasMore = false :=
  walk_complete asciiPlatform oneByOne januaryStore rfl (by decide) (by decide) fun _ _ => rfl

end Registry
