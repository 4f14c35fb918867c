import Mathlib.Data.List.Sort
import Vigiscam.Common.Cache
import Vigiscam.Protection.Enums
import Vigiscam.ScamSignals.Intake

/-!
# Public search of the registry (`registry.service.ts`, `registry.mapper.ts`)

`search` answers from the cache of the node where it can, and else from the database
(`queryDatabase`), and then keeps the answer in the cache for a minute.
-/

namespace Registry

open Js Concurrency Common EvidenceVault
open Protection (RiskLevel)
open ScamSignals (normalizeIndicator indicatorName)

/-! ## Public-safe entries -/

/-- Map a 0–100 score to a risk level. -/
def levelForScore (score : Int) : RiskLevel :=
  if score ≥ 86 then .critical
  else if score ≥ 61 then .high
  else if score ≥ 31 then .medium
  else .low

/-- The public-safe shape of a registry entry: an explicit allowlist of its fields. -/
structure PublicRegistryEntry where
  id : Uuid
  indicatorType : IndicatorType
  indicator : Text
  category : Text
  publicStatus : Option RegistryPublicStatus
  riskLevel : RiskLevel
  summary : Text
  recommendedAction : Option Text
  firstSeen : Option Date
  lastSeen : Option Date
  evidenceCount : Int
  publishedAt : Option Date
deriving DecidableEq

def toPublicRegistryEntry (entry : RegistryEntry) : PublicRegistryEntry where
  id := entry.id
  indicatorType := entry.indicatorType
  indicator := entry.indicatorValue
  category := entry.category
  publicStatus := entry.publicStatus
  riskLevel := levelForScore entry.confidenceScore
  summary := entry.publicSafeSummary
  recommendedAction := entry.recommendedAction
  firstSeen := entry.firstSeen
  lastSeen := entry.lastSeen
  evidenceCount := entry.evidenceCount
  publishedAt := entry.publishedAt

/-! ## Queries -/

structure RegistrySearchQuery where
  q : Option Text
  type : Option Text
  category : Option Text
  page : Option Number
  limit : Option Number

structure RegistrySearchResult where
  items : List PublicRegistryEntry
  page : Int
  limit : Int
  hasMore : Bool
deriving DecidableEq

/-- Cap on page size — protects the cache and the public endpoint from abuse. -/
def MAX_PAGE_SIZE : Int := 100

def DEFAULT_PAGE_SIZE : Int := 50

def SEARCH_CACHE_TTL_MS : Int := 60000

def SEARCH_CACHE_PREFIX : Text := "registry:search:"

/-- `Math.floor`. -/
def floor (x : Number) : Int := x.mantissa / 10 ^ x.scale

namespace RegistrySearchQuery

/-- The page that the query asks for, from 1. -/
def pageNumber (query : RegistrySearchQuery) : Int := max 1 (floor (query.page.getD (.ofInt 1)))

def pageSize (query : RegistrySearchQuery) : Int :=
  min MAX_PAGE_SIZE (max 1 (floor (query.limit.getD (.ofInt DEFAULT_PAGE_SIZE))))

/-- How many rows come before the page. -/
def skip (query : RegistrySearchQuery) : Nat := ((query.pageNumber - 1) * query.pageSize).toNat

/-- The text that the query looks for; empty where it looks for none. -/
def text (query : RegistrySearchQuery) : Text := trim (query.q.getD [])

end RegistrySearchQuery

/-- What search uses of the language's runtime and of the database. -/
structure Platform where
  toLowerCase : Text → Text
  toUpperCase : Text → Text
  /-- `LIKE`: whether a column's value contains a pattern. -/
  contains : Text → Text → Bool
  /-- The lower case of the database, in which a search that ignores case compares. -/
  lower : Text → Text
  /-- The numbers of rows that the database takes for `skip`. -/
  skips : Nat → Bool
  /-- `new Date(ms)`. -/
  newDate : Int → Date

section Search

variable (p : Platform)

/-- `raw.toUpperCase()`, where it is the name of an indicator type. -/
def parseType (raw : Option Text) : Option IndicatorType :=
  (present raw).bind fun raw =>
    [IndicatorType.phone, .email, .domain, .url, .cryptoWallet, .scamPhrase, .fakeCompany,
      .socialProfile, .other].find? (indicatorName · = p.toUpperCase raw)

/-- Whether an entry has the text that a query of the type looks for. -/
def selectsText (type : Option IndicatorType) (q : Text) (entry : RegistryEntry) : Bool :=
  match q, type with
  | [], _ => true
  | q, some type => entry.normalizedIndicator = normalizeIndicator p.toLowerCase type q
  | q, none => p.contains entry.normalizedIndicator (p.toLowerCase q)
    || p.contains (p.lower entry.indicatorValue) (p.lower q)

/-- `where`: PUBLISHED is the only publicly visible status. -/
def selects (query : RegistrySearchQuery) (entry : RegistryEntry) : Bool :=
  entry.status = .published
    && (parseType p query.type).all (entry.indicatorType = ·)
    && (present query.category).all (entry.category = p.toUpperCase ·)
    && selectsText p (parseType p query.type) query.text entry

/-- Descending order of `lastSeen`, in which the database has missing values first. -/
def SeenLater (a b : RegistryEntry) : Prop :=
  match a.lastSeen, b.lastSeen with
  | none, _ => True
  | some _, none => False
  | some x, some y => y ≤ x

instance : DecidableRel SeenLater := fun a b => by
  unfold SeenLater
  split <;> infer_instance

/-- The rows of the page, and one more to know whether a next page exists. -/
def rowsOf (query : RegistrySearchQuery) (entries : List RegistryEntry) : List RegistryEntry :=
  (((entries.filter (selects p query)).insertionSort SeenLater).drop query.skip).take
    (query.pageSize.toNat + 1)

def resultOf (query : RegistrySearchQuery) (rows : List RegistryEntry) : RegistrySearchResult where
  items := (rows.take query.pageSize.toNat).map toPublicRegistryEntry
  page := query.pageNumber
  limit := query.pageSize
  hasMore := query.pageSize.toNat < rows.length

/-- `['registry:search:', 'q=…', 't=…', 'c=…', 'p=…', 'l=…'].join('|')`. -/
def buildCacheKey (query : RegistrySearchQuery) : Text :=
  SEARCH_CACHE_PREFIX ++ utf16 "|q=" ++ p.toLowerCase query.text
    ++ utf16 "|t=" ++ query.type.getD []
    ++ utf16 "|c=" ++ query.category.getD []
    ++ utf16 "|p=" ++ (Number.ofInt query.pageNumber).toText
    ++ utf16 "|l=" ++ (Number.ofInt query.pageSize).toText

/-! ## The state of a node -/

/-- What a partner is told of the entry that came from its signal. -/
structure RegistryNotice where
  eventType : Text
  tenantId : Uuid
  registryEntryId : Uuid
  indicatorType : IndicatorType
  indicatorValue : Text
  publicStatus : Option RegistryPublicStatus
  publishedAt : Option Date

/-- An item of the queue for public-safe review. -/
structure RegistryReviewQueue where
  registryEntryId : Option Uuid
  completed : Bool
  assignedToUserId : Option Uuid
  decision : Option Text

/-- The database, and the cache of the node. -/
structure Store where
  entries : List RegistryEntry
  /-- The tenants of the signals. -/
  tenantOf : Uuid → Option Uuid
  evidence : List AppendEvidenceInput
  notices : List RegistryNotice
  /-- The entries that were handed to the takedown automation. -/
  automated : List RegistryEntry
  cache : Cache RegistrySearchResult
  /-- `Date.now()`. -/
  now : Int
  queue : List RegistryReviewQueue := []

/-- What a step does. -/
inductive RegistryStep where
  | lookUp | find | fill | read | update | append | invalidate | notify | automate | clock | queue
deriving DecidableEq

abbrev Program (α : Type) := Prog Store RegistryStep HttpError α

def cacheGet (key : Text) : Program (Option RegistrySearchResult) :=
  Prog.act .lookUp .internal fun s =>
    ((s.cache.get key s.now).1, { s with cache := (s.cache.get key s.now).2 })

def cacheSet (key : Text) (result : RegistrySearchResult) : Program Unit :=
  Prog.act .fill .internal fun s =>
    ((), { s with cache := s.cache.set key result SEARCH_CACHE_TTL_MS s.now })

/-- `registryEntry.findMany`; it throws where it does not take `skip`. -/
def findMany (query : RegistrySearchQuery) : Program (List RegistryEntry) :=
  Prog.attempt .find .internal fun s =>
    if p.skips query.skip then some (rowsOf p query s.entries, s) else none

/-- The response that a query computes from the database. -/
def queryDatabase (query : RegistrySearchQuery) : Program RegistrySearchResult := do
  let rows ← findMany p query
  return resultOf query rows

/-- What `queryDatabase` computes from a table, where the database takes the query. -/
def answer (query : RegistrySearchQuery) (entries : List RegistryEntry) :
    Option RegistrySearchResult :=
  if p.skips query.skip then some (resultOf query (rowsOf p query entries)) else none

theorem run_queryDatabase (query : RegistrySearchQuery) (s : Store) :
    (queryDatabase p query).run s =
      ((answer p query s.entries).elim (.error .internal) .ok, s) := by
  rw [queryDatabase, Prog.run_bind, answer]
  by_cases hskip : p.skips query.skip = true
  · have hfind : (findMany p query).run s = (.ok (rowsOf p query s.entries), s) :=
      Prog.run_attempt_some (if_pos hskip)
    rw [hfind, if_pos hskip]
    rfl
  · have hfind : (findMany p query).run s = (.error .internal, s) :=
      Prog.run_attempt_none (if_neg hskip)
    rw [hfind, if_neg hskip]
    rfl

def search (query : RegistrySearchQuery) : Program RegistrySearchResult := do
  match ← cacheGet (buildCacheKey p query) with
  | some cached => return cached
  | none =>
    let result ← queryDatabase p query
    cacheSet (buildCacheKey p query) result
    return result

section Run

variable {p} {query : RegistrySearchQuery} {s : Store}

theorem run_cacheGet (key : Text) (s : Store) :
    (cacheGet key).run s =
      (.ok (s.cache.get key s.now).1, { s with cache := (s.cache.get key s.now).2 }) := rfl

/-- A search that finds an answer in the cache. -/
theorem run_search_hit {cached : RegistrySearchResult}
    (h : (s.cache.get (buildCacheKey p query) s.now).1 = some cached) :
    (search p query).run s =
      (.ok cached, { s with cache := (s.cache.get (buildCacheKey p query) s.now).2 }) := by
  rw [search, Prog.run_bind, run_cacheGet, h]
  rfl

/-- A search that finds none leaves the answer of the database in the cache. -/
theorem run_search_miss (h : (s.cache.get (buildCacheKey p query) s.now).1 = none) :
    (search p query).run s =
      match answer p query s.entries with
      | none =>
        (.error .internal, { s with cache := (s.cache.get (buildCacheKey p query) s.now).2 })
      | some result =>
        (.ok result, { s with
          cache := (s.cache.get (buildCacheKey p query) s.now).2.set (buildCacheKey p query) result
            SEARCH_CACHE_TTL_MS s.now }) := by
  rw [search, Prog.run_bind, run_cacheGet, h, Prog.andThen_ok]
  show (queryDatabase p query >>= _).run _ = _
  rw [Prog.run_bind, run_queryDatabase]
  cases answer p query s.entries with
  | none => rfl
  | some result => rfl

end Run

end Search

end Registry
