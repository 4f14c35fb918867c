import Mathlib.Data.List.Sort
import Vigiscam.Concurrency.Prog
import Vigiscam.Registry.Entry

/-!
# Cross-border agency feeds (`agency-feed.service.ts`)

`consumeFeed` returns one page of the published registry entries that match a feed's
filters, with a cursor for the next call.
-/

namespace AgencyFeeds

open Js Concurrency Registry

inductive AgencyFeedStatus where
  | active | paused | revoked
deriving DecidableEq

/-- The status as the error text has it. -/
def AgencyFeedStatus.lower : AgencyFeedStatus → Text
  | .active => "active"
  | .paused => "paused"
  | .revoked => "revoked"

structure AgencyFeed where
  tenantId : Uuid
  categories : List Text
  indicatorTypes : List IndicatorType
  status : AgencyFeedStatus
  lastDeliveredAt : Option Date
deriving DecidableEq

structure AgencyFeedDelivery where
  feedId : Uuid
  tenantId : Uuid
  requestedByKeyId : Uuid
  itemCount : Nat
  sinceCursor : Option Date
  untilCursor : Date
deriving DecidableEq

structure Store where
  feeds : Uuid → Option AgencyFeed
  entries : List RegistryEntry
  deliveries : List AgencyFeedDelivery

inductive DbStep where
  | findFeed | findEntries | createDelivery | updateFeed
deriving DecidableEq

abbrev Program (α : Type) := Prog Store DbStep HttpError α

/-- Per-call cap on items the feed can return. -/
def MAX_FEED_ITEMS : Int := 200

def DEFAULT_FEED_ITEMS : Int := 50

/-- The page size of a call. -/
def pageSize (requestedLimit : Option Int) : Nat :=
  (min MAX_FEED_ITEMS (max 1 (requestedLimit.getD DEFAULT_FEED_ITEMS))).toNat

/-- The entries that a call asks for. -/
def AgencyFeed.Selects (feed : AgencyFeed) (since : Option Date) (now : Date)
    (entry : RegistryEntry) : Prop :=
  entry.status = .published ∧
    (feed.categories ≠ [] → entry.category ∈ feed.categories) ∧
    (feed.indicatorTypes ≠ [] → entry.indicatorType ∈ feed.indicatorTypes) ∧
    (∀ date ∈ since, date < entry.updatedAt) ∧ entry.updatedAt ≤ now

instance (feed : AgencyFeed) (since : Option Date) (now : Date) :
    DecidablePred (feed.Selects since now) :=
  fun _ => inferInstanceAs (Decidable (_ ∧ _))

/-- What the agency receives of an entry. -/
structure FeedItem where
  id : Uuid
  indicatorType : IndicatorType
  indicator : Text
  category : Text
  publicStatus : Option RegistryPublicStatus
  summary : Text
  recommendedAction : Option Text
  firstSeen : Option Date
  lastSeen : Option Date
  publishedAt : Option Date
  updatedAt : Date
deriving DecidableEq

/-- Public-safe projection. -/
def projectEntry (entry : RegistryEntry) : FeedItem where
  id := entry.id
  indicatorType := entry.indicatorType
  indicator := entry.indicatorValue
  category := entry.category
  publicStatus := entry.publicStatus
  summary := entry.publicSafeSummary
  recommendedAction := entry.recommendedAction
  firstSeen := entry.firstSeen
  lastSeen := entry.lastSeen
  publishedAt := entry.publishedAt
  updatedAt := entry.updatedAt

structure FeedConsumeResult where
  items : List FeedItem
  count : Nat
  untilCursor : Text
  sinceCursor : Option Text
  hasMore : Bool

/-! ## The calls of the database -/

def findFeed (feedId : Uuid) : Program (Option AgencyFeed) :=
  Prog.act .findFeed .internal fun s => (s.feeds feedId, s)

/-- `findMany` of the entries of a call, by ascending `updatedAt`. -/
def findEntries (feed : AgencyFeed) (since : Option Date) (now : Date) (take : Nat) :
    Program (List RegistryEntry) :=
  Prog.act .findEntries .internal fun s =>
    (((s.entries.filter (feed.Selects since now)).insertionSort
      fun a b => a.updatedAt ≤ b.updatedAt).take take, s)

def createDelivery (delivery : AgencyFeedDelivery) : Program Unit :=
  Prog.act .createDelivery .internal fun s =>
    ((), { s with deliveries := s.deliveries ++ [delivery] })

def updateLastDelivered (feedId : Uuid) (now : Date) : Program Unit :=
  Prog.attempt .updateFeed .internal fun s =>
    (s.feeds feedId).map fun feed =>
      ((), { s with
        feeds := Function.update s.feeds feedId (some { feed with lastDeliveredAt := some now }) })

/-! ## `consumeFeed` -/

section Consume

variable (parseDate : Text → Option Date)

/-- `sinceIso ? new Date(sinceIso) : null`. A query with an invalid date throws. -/
def sinceOf (sinceIso : Option Text) : Program (Option Date) :=
  match present sinceIso with
  | none => pure none
  | some text =>
    match parseDate text with
    | some date => pure (some date)
    | none => throw .internal

/-- The page that a call returns, of one row more than the page holds. -/
def pageOf (limit : Nat) (rows : List RegistryEntry) : List FeedItem :=
  (if limit < rows.length then rows.take limit else rows).map projectEntry

/-- The response to a call that read `rows`. -/
def resultOf (limit : Nat) (since : Option Date) (now : Date) (rows : List RegistryEntry) :
    FeedConsumeResult where
  items := pageOf limit rows
  count := (pageOf limit rows).length
  sinceCursor := since.map Date.toISOString
  untilCursor := now.toISOString
  hasMore := limit < rows.length

/-- Consume a feed as the agency partner. `parseDate` is `new Date(text)`, and `now` the
time of the call. -/
def consumeFeed (now : Date) (partner : PartnerPrincipal) (feedId : Uuid)
    (sinceIso : Option Text) (requestedLimit : Option Int) : Program FeedConsumeResult := do
  match ← findFeed feedId with
  | none => throw (.notFound "Agency feed not found")
  | some feed =>
    if feed.tenantId ≠ partner.tenantId then
      -- a 404, not a 403, so the feeds of other tenants are not confirmed
      throw (.notFound "Agency feed not found")
    else if feed.status ≠ .active then
      throw (.denied (utf16 "Feed is " ++ feed.status.lower))
    else
      let limit := pageSize requestedLimit
      let since ← sinceOf parseDate sinceIso
      let rows ← findEntries feed since now (limit + 1)
      createDelivery
        { feedId
          tenantId := feed.tenantId
          requestedByKeyId := partner.keyId
          itemCount := (pageOf limit rows).length
          sinceCursor := since
          untilCursor := now }
      updateLastDelivered feedId now
      return resultOf limit since now rows

end Consume

end AgencyFeeds
