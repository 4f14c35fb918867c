import Mathlib.Data.List.Lex
import Vigiscam.Registry.CacheKeys

/-!
# What public search shows of the registry

An answer is computed from the searched and published columns of the published entries alone
(`answer_published`). Two databases with the same ones therefore give the same answers
(`SamePublished.answer`), also where the answers go through one cache: both runs find the same
in it, and keep the same in it (`search_sameVisit`). The approver of an entry, its source
signal, the score behind its level and every entry that is not published never count.

The database has its rows in the order of their ids, so that a stable sort by `lastSeen`
breaks ties by id.
-/

namespace Registry

open Js Concurrency Common

/-- The searched and published columns of an entry. -/
structure PublishedColumns where
  entry : PublicRegistryEntry
  normalizedIndicator : Text
deriving DecidableEq

def columnsOf (entry : RegistryEntry) : PublishedColumns where
  entry := toPublicRegistryEntry entry
  normalizedIndicator := entry.normalizedIndicator

/-- What is public of a table of entries. -/
def publishedColumns (entries : List RegistryEntry) : List PublishedColumns :=
  (entries.filter (·.status = .published)).map columnsOf

theorem mem_publishedColumns {entries : List RegistryEntry} {columns : PublishedColumns} :
    columns ∈ publishedColumns entries ↔
      ∃ entry ∈ entries, entry.status = .published ∧ columnsOf entry = columns := by
  simp [publishedColumns, and_assoc]

/-- Two tables, in the order of their ids, that agree on what is public of them. -/
structure SamePublished (x y : List RegistryEntry) : Prop where
  ordered : x.Pairwise (·.id < ·.id)
  ordered' : y.Pairwise (·.id < ·.id)
  same : ∀ columns, columns ∈ publishedColumns x ↔ columns ∈ publishedColumns y

/-! ## An answer reads the public columns alone -/

section Columns

variable (p : Platform)

/-- `selectsText`, of the columns. -/
def showsText (type : Option IndicatorType) (q : Text) (columns : PublishedColumns) : Bool :=
  match q, type with
  | [], _ => true
  | q, some type =>
    columns.normalizedIndicator = ScamSignals.normalizeIndicator p.toLowerCase type q
  | q, none => p.contains columns.normalizedIndicator (p.toLowerCase q)
    || p.contains (p.lower columns.entry.indicator) (p.lower q)

/-- `selects`, of the columns of a published entry. -/
def shows (query : RegistrySearchQuery) (columns : PublishedColumns) : Bool :=
  (parseType p query.type).all (columns.entry.indicatorType = ·)
    && (present query.category).all (columns.entry.category = p.toUpperCase ·)
    && showsText p (parseType p query.type) query.text columns

/-- `SeenLater`, of the columns. -/
def ShownLater (a b : PublishedColumns) : Prop :=
  match a.entry.lastSeen, b.entry.lastSeen with
  | none, _ => True
  | some _, none => False
  | some x, some y => y ≤ x

instance : DecidableRel ShownLater := fun a b => by
  unfold ShownLater
  split <;> infer_instance

/-- The page of a query, and one row more. -/
def pageOf (query : RegistrySearchQuery) (columns : List PublishedColumns) :
    List PublishedColumns :=
  (((columns.filter (shows p query)).insertionSort ShownLater).drop query.skip).take
    (query.pageSize.toNat + 1)

/-- The answer to a query, of what is public. -/
def publicAnswer (query : RegistrySearchQuery) (columns : List PublishedColumns) :
    Option RegistrySearchResult :=
  if p.skips query.skip then
    some {
      items := ((pageOf p query columns).take query.pageSize.toNat).map PublishedColumns.entry
      page := query.pageNumber
      limit := query.pageSize
      hasMore := query.pageSize.toNat < (pageOf p query columns).length }
  else none

variable {p} {query : RegistrySearchQuery} {entries : List RegistryEntry}

/-- The status filter is never widened, and the rest of the filter reads public columns. -/
theorem selects_eq (entry : RegistryEntry) :
    selects p query entry = (decide (entry.status = .published) && shows p query (columnsOf entry))
    := by
  have htext : selectsText p (parseType p query.type) query.text entry
      = showsText p (parseType p query.type) query.text (columnsOf entry) := by
    cases query.text with
    | nil => rfl
    | cons c q =>
      cases parseType p query.type with
      | none => rfl
      | some type => rfl
  rw [selects, htext, shows]
  simp only [Bool.and_assoc]
  rfl

theorem map_columnsOf_filter_selects :
    (entries.filter (selects p query)).map columnsOf
      = (publishedColumns entries).filter (shows p query) := by
  have hselects : selects p query = fun entry =>
      (shows p query ∘ columnsOf) entry && decide (entry.status = .published) := by
    funext entry
    rw [selects_eq, Bool.and_comm]
    rfl
  rw [hselects, ← List.filter_filter, publishedColumns, List.filter_map]

theorem map_columnsOf_rowsOf :
    (rowsOf p query entries).map columnsOf = pageOf p query (publishedColumns entries) := by
  have hsort : ((entries.filter (selects p query)).insertionSort SeenLater).map columnsOf
      = ((entries.filter (selects p query)).map columnsOf).insertionSort ShownLater :=
    List.map_insertionSort SeenLater ShownLater columnsOf _ fun a _ b _ => Iff.rfl
  rw [rowsOf, List.map_take, List.map_drop, hsort, map_columnsOf_filter_selects, pageOf]

/-- **An answer is computed from what is public of the table.** -/
theorem answer_published (query : RegistrySearchQuery) (entries : List RegistryEntry) :
    answer p query entries = publicAnswer p query (publishedColumns entries) := by
  rw [answer, publicAnswer, ← map_columnsOf_rowsOf, resultOf, ← List.map_take, List.map_map,
    List.length_map]
  rfl

theorem mem_of_mem_pageOf {columns : List PublishedColumns} {x : PublishedColumns}
    (h : x ∈ pageOf p query columns) : x ∈ columns := by
  have hsorted := List.mem_of_mem_drop (List.mem_of_mem_take h)
  exact List.mem_of_mem_filter ((List.mem_insertionSort _).mp hsorted)

/-- An item of an answer is a published entry of the table. -/
theorem items_published {result : RegistrySearchResult}
    (h : answer p query entries = some result) :
    ∀ item ∈ result.items,
      ∃ entry ∈ entries, entry.status = .published ∧ toPublicRegistryEntry entry = item := by
  intro item hitem
  rw [answer_published, publicAnswer] at h
  split at h
  · cases h
    obtain ⟨x, hx, rfl⟩ := List.mem_map.mp hitem
    obtain ⟨entry, hentry, hstatus, hcolumns⟩ :=
      mem_publishedColumns.mp (mem_of_mem_pageOf (List.mem_of_mem_take hx))
    exact ⟨entry, hentry, hstatus, congrArg PublishedColumns.entry hcolumns⟩
  · cases h

end Columns

/-! ## Databases with the same public columns -/

/-- The public columns are in the order of the ids. -/
theorem pairwise_publishedColumns {entries : List RegistryEntry}
    (h : entries.Pairwise (·.id < ·.id)) :
    (publishedColumns entries).Pairwise (·.entry.id < ·.entry.id) :=
  List.pairwise_map.mpr (h.sublist List.filter_sublist)

/-- What is public of the tables is the same list. -/
theorem SamePublished.publishedColumns_eq {x y : List RegistryEntry} (h : SamePublished x y) :
    publishedColumns x = publishedColumns y := by
  have hx := pairwise_publishedColumns h.ordered
  have hy := pairwise_publishedColumns h.ordered'
  have hnodup : ∀ {columns : List PublishedColumns},
      columns.Pairwise (·.entry.id < ·.entry.id) → columns.Nodup := by
    intro columns hcolumns
    refine hcolumns.imp ?_
    rintro a _ hlt rfl
    exact lt_irrefl _ hlt
  have hperm : (publishedColumns x).Perm (publishedColumns y) :=
    (List.perm_ext_iff_of_nodup (hnodup hx) (hnodup hy)).mpr h.same
  exact hperm.eq_of_pairwise (fun a b _ _ hab hba => absurd hba (lt_asymm hab)) hx hy

theorem SamePublished.answer {p : Platform} {x y : List RegistryEntry} (h : SamePublished x y)
    (query : RegistrySearchQuery) : answer p query x = answer p query y := by
  rw [answer_published, answer_published, h.publishedColumns_eq]

/-! ## Searches that share a cache -/

/-- A query, and the database that it finds; between two queries the database may change. -/
structure Visit where
  query : RegistrySearchQuery
  database : Store

/-- The same query at the same time, to databases with the same public columns. -/
structure SameVisit (v w : Visit) : Prop where
  query : v.query = w.query
  now : v.database.now = w.database.now
  published : SamePublished v.database.entries w.database.entries

section Visits

variable (p : Platform)

/-- What a query returns, with the cache that it finds. -/
def visit (cache : Cache RegistrySearchResult) (v : Visit) :
    Except HttpError RegistrySearchResult × Store :=
  (search p v.query).run { v.database with cache }

/-- The responses to queries that come one after the other. -/
def responses : Cache RegistrySearchResult → List Visit →
    List (Except HttpError RegistrySearchResult)
  | _, [] => []
  | cache, v :: rest => (visit p cache v).1 :: responses (visit p cache v).2.cache rest

variable {p} {cache : Cache RegistrySearchResult} {v w : Visit}

/-- Searches of the two databases return the same, and leave the same in the cache. -/
theorem search_sameVisit (h : SameVisit v w) :
    (visit p cache v).1 = (visit p cache w).1 ∧
      (visit p cache v).2.cache = (visit p cache w).2.cache := by
  obtain ⟨query, database⟩ := v
  obtain ⟨query', database'⟩ := w
  obtain ⟨rfl, hnow, hpublished⟩ := h
  simp only [visit] at hnow hpublished ⊢
  have hanswer := hpublished.answer (p := p) query
  cases hget : (cache.get (buildCacheKey p query) database.now).1 with
  | some cached =>
    rw [run_search_hit hget, run_search_hit (hnow ▸ hget)]
    rw [hnow]
    exact ⟨rfl, rfl⟩
  | none =>
    rw [run_search_miss hget, run_search_miss (hnow ▸ hget)]
    simp only [hanswer, hnow]
    cases answer p query database'.entries with
    | none => exact ⟨rfl, rfl⟩
    | some result => exact ⟨rfl, rfl⟩

/-- A result of the cache that the run starts with, or an answer from the database of a visit. -/
def Computed (p : Platform) (cache : Cache RegistrySearchResult) (visits : List Visit)
    (result : RegistrySearchResult) : Prop :=
  (∃ item ∈ cache.items, item.value = result) ∨
    ∃ v ∈ visits, Registry.answer p v.query v.database.entries = some result

/-- A search returns what was computed before or what it computes, and keeps only such in the
cache. -/
theorem visit_computed (P : RegistrySearchResult → Prop) (hcache : cache.Holds fun _ => P)
    (hanswer : ∀ result, answer p v.query v.database.entries = some result → P result) :
    (∀ result, (visit p cache v).1 = .ok result → P result) ∧
      (visit p cache v).2.cache.Holds fun _ => P := by
  rw [visit]
  cases hget : (cache.get (buildCacheKey p v.query) v.database.now).1 with
  | some cached =>
    rw [run_search_hit hget]
    refine ⟨fun result hresult => ?_, hcache.get⟩
    cases hresult
    exact hcache.of_get hget
  | none =>
    rw [run_search_miss hget]
    simp only
    cases h : answer p v.query v.database.entries with
    | none => exact ⟨fun _ hresult => (nomatch hresult), hcache.get⟩
    | some answered =>
      refine ⟨fun result hresult => ?_, hcache.get.set (hanswer answered h)⟩
      cases hresult
      exact hanswer answered h

/-- Every result of a run was in the cache at its start, or is an answer from the database of
one of its visits. -/
theorem responses_computed (visits : List Visit) (cache : Cache RegistrySearchResult)
    {result : RegistrySearchResult} (h : .ok result ∈ responses p cache visits) :
    Computed p cache visits result := by
  have hrun : ∀ (P : RegistrySearchResult → Prop) (rest : List Visit)
      (c : Cache RegistrySearchResult), c.Holds (fun _ => P) →
      (∀ v ∈ rest, ∀ r, answer p v.query v.database.entries = some r → P r) →
      ∀ r, .ok r ∈ responses p c rest → P r := by
    intro P rest
    induction rest with
    | nil => exact fun _ _ _ _ h => nomatch h
    | cons v rest ih =>
      intro c hc hanswers r hr
      obtain ⟨hfirst, hkept⟩ := visit_computed P hc (hanswers v List.mem_cons_self)
      rcases List.mem_cons.mp hr with hr | hr
      · exact hfirst r hr.symm
      · exact ih _ hkept (fun w hw => hanswers w (List.mem_cons_of_mem v hw)) r hr
  refine hrun (Computed p cache visits) visits cache ?_ ?_ result h
  · exact fun item hitem => Or.inl ⟨item, hitem, rfl⟩
  · exact fun v hv r hr => Or.inr ⟨v, hv, hr⟩

/-- A database in which the published entry has another approver, another score in its band,
and a candidate beside it. -/
def approvedStore : Store := { walletStore with
  entries := [{ walletEntry with
      confidenceScore := 85
      sourceSignalId := some "s"
      approvedByUserId := some "admin" },
    { walletEntry with id := "f", status := .candidate }] }

/-- A wallet is searched for twice. -/
def walletVisits (database : Store) : List Visit :=
  [⟨walletQuery "bc1qAb", database⟩, ⟨walletQuery " bc1qAb ", database⟩]

end Visits

end Registry
