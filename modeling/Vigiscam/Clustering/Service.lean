import Vigiscam.Concurrency.Part
import Vigiscam.ScamSignals.Intake

/-!
# Clusters of signals (`clustering.ts`, `cluster.service.ts`)

Signals that share a domain root or an email domain are linked to one cluster. The key of a
cluster is unique; what it counts of its signals is recomputed after every link, by a read and
a separate update. Intake clusters each signal that it has stored, and goes on where that fails.
-/

namespace Clustering

open Js Value Concurrency EvidenceVault ScamSignals

/-! ## Keys -/

inductive ClusterMatchType where
  | sharedIndicator | sharedDomainRoot | sharedPhone | sharedEmail | sharedWallet | sharedPhrase
  | sharedCategory | manual
deriving DecidableEq

def ClusterMatchType.name : ClusterMatchType → Text
  | sharedIndicator => "SHARED_INDICATOR"
  | sharedDomainRoot => "SHARED_DOMAIN_ROOT"
  | sharedPhone => "SHARED_PHONE"
  | sharedEmail => "SHARED_EMAIL"
  | sharedWallet => "SHARED_WALLET"
  | sharedPhrase => "SHARED_PHRASE"
  | sharedCategory => "SHARED_CATEGORY"
  | manual => "MANUAL"

structure DerivedClusterKey where
  /-- Stable unique key — the find-or-create handle for the cluster. -/
  key : Text
  matchType : ClusterMatchType
  label : Text

section Keys

variable (toLowerCase : Text → Text)

/-- Reduce a hostname to its registrable root (the last two labels). -/
def domainRoot (host : Text) : Option Text :=
  let clean := ((toLowerCase (trim host)).reverse.dropWhile (· = 0x2E)).reverse
  if clean = [] ∨ clean.any isBlank then none
  else
    let labels := (clean.splitOn 0x2E).filter (· ≠ [])
    if labels.length < 2 then none
    else some ([(0x2E : CodeUnit)].intercalate (labels.drop (labels.length - 2)))

/-- Extract the domain part of an email address. -/
def emailDomain (email : Text) : Option Text :=
  if (0x40 : CodeUnit) ∈ email then
    let domain := toLowerCase (trim (afterLast 0x40 email))
    if (0x2E : CodeUnit) ∈ domain ∧ ¬ domain.any isBlank then some domain else none
  else none

/-- Derive the cluster a signal belongs to. -/
def deriveClusterKey (indicatorType : IndicatorType) (normalizedIndicator : Text) :
    Option DerivedClusterKey :=
  match indicatorType with
  | .domain | .url =>
    (domainRoot toLowerCase (normalizeDomain toLowerCase normalizedIndicator)).map fun root => {
      key := utf16 "domain-root:" ++ root
      matchType := .sharedDomainRoot
      label := utf16 "Domain root — " ++ root }
  | .email =>
    (emailDomain toLowerCase normalizedIndicator).map fun domain => {
      key := utf16 "email-domain:" ++ domain
      matchType := .sharedEmail
      label := utf16 "Email domain — " ++ domain }
  | .phone | .cryptoWallet | .scamPhrase | .fakeCompany | .socialProfile | .other => none

end Keys

example : (deriveClusterKey lowerAscii .domain (utf16 "pay.secure-bank-login.com")).map (·.key) =
    some (utf16 "domain-root:secure-bank-login.com") := by decide

example : emailDomain lowerAscii (utf16 "user@localhost") = none := by decide

/-! ## Rows -/

structure ScamCluster where
  id : Uuid
  clusterKey : Text
  matchType : ClusterMatchType
  label : Text
  category : Option Text
  signalCount : Nat
  confidenceScore : Int
  firstSeen : Date
  lastSeen : Date
deriving DecidableEq

/-- The database, with the clusters. -/
structure Store extends ScamSignals.Store where
  clusters : List ScamCluster

/-- What `aggregate` computes of the signals of a cluster. -/
structure Aggregate where
  count : Nat
  minFirstSeen : Option Date
  maxLastSeen : Option Date
  maxConfidenceScore : Option Int
deriving DecidableEq

/-- What a step does. -/
inductive ClusterStep where
  /-- A step that does not concern the clusters. -/
  | signal (l : SignalStep)
  | read | link
  | create (clusterKey : Text)
  /-- The aggregates of a cluster are written. -/
  | recount (clusterId : Uuid) (aggregate : Aggregate)

abbrev Program (α : Type) := Prog Store ClusterStep HttpError α

/-- The database without the clusters. -/
def signalPart : Part Store ScamSignals.Store where
  get := Store.toStore
  set base s := { s with toStore := base }
  set_get _ := rfl
  get_set _ _ := rfl

/-- A program of intake or review, beside the clusters. -/
def beside {α : Type} (p : ScamSignals.Program α) : Program α := p.onPart signalPart .signal

/-! ## Steps -/

def read {α : Type} (f : Store → α) : Program α := Prog.act .read .internal fun s => (f s, s)

/-- The row of a new cluster. -/
def newCluster (derived : DerivedClusterKey) (category : Option Text) (now : Date) (id : Uuid) :
    ScamCluster where
  id := id
  clusterKey := derived.key
  matchType := derived.matchType
  label := derived.label
  category := category
  signalCount := 0
  confidenceScore := 0
  firstSeen := now
  lastSeen := now

/-- A cluster of the key can be created: the key and the next id are new. -/
def Store.FreeFor (s : Store) (clusterKey : Text) : Prop :=
  clusterKey ∉ s.clusters.map ScamCluster.clusterKey ∧
    s.uuid s.issued ∉ s.clusters.map ScamCluster.id

instance (s : Store) (clusterKey : Text) : Decidable (s.FreeFor clusterKey) :=
  inferInstanceAs (Decidable (_ ∧ _))

/-- The store with another cluster. -/
def Store.addCluster (s : Store) (cluster : ScamCluster) : Store :=
  { s with clusters := s.clusters ++ [cluster], issued := s.issued + 1 }

/-- `scamCluster.create`; it throws where the key is taken. -/
def createCluster (derived : DerivedClusterKey) (category : Option Text) : Program ScamCluster :=
  Prog.attempt (.create derived.key) .internal fun s =>
    let cluster := newCluster derived category s.now (s.uuid s.issued)
    if s.FreeFor derived.key then some (cluster, s.addCluster cluster) else none

/-- The store after a signal is linked. -/
def Store.linkSignal (s : Store) (signalId clusterId : Uuid) : Store :=
  { s with
    signals := Table.modify ScamSignal.id signalId
      (fun signal => { signal with clusterId := some clusterId }) s.signals }

/-- `scamSignal.update` of the cluster. -/
def linkSignal (signalId clusterId : Uuid) : Program Unit :=
  Prog.attempt .link .internal fun s =>
    (Table.find ScamSignal.id signalId s.signals).map fun _ => ((), s.linkSignal signalId clusterId)

/-- The signals of a cluster. -/
def members (clusterId : Uuid) (signals : List ScamSignal) : List ScamSignal :=
  signals.filter (·.clusterId = some clusterId)

def aggregate (clusterId : Uuid) (signals : List ScamSignal) : Aggregate where
  count := (members clusterId signals).length
  minFirstSeen := ((members clusterId signals).map (·.firstSeen)).min?
  maxLastSeen := ((members clusterId signals).map (·.lastSeen)).max?
  maxConfidenceScore := ((members clusterId signals).map (·.confidenceScore)).max?

/-- The cluster with these aggregates. -/
def ScamCluster.withAggregate (cluster : ScamCluster) (agg : Aggregate) : ScamCluster :=
  { cluster with
    signalCount := agg.count
    confidenceScore := agg.maxConfidenceScore.getD 0
    -- a date that is not there leaves the column alone
    firstSeen := agg.minFirstSeen.getD cluster.firstSeen
    lastSeen := agg.maxLastSeen.getD cluster.lastSeen }

/-- The store after a recount. -/
def Store.writeAggregate (s : Store) (clusterId : Uuid) (agg : Aggregate) : Store :=
  { s with clusters := Table.modify ScamCluster.id clusterId (·.withAggregate agg) s.clusters }

def writeAggregate (clusterId : Uuid) (agg : Aggregate) : Program ScamCluster :=
  Prog.attempt (.recount clusterId agg) .internal fun s =>
    (Table.find ScamCluster.id clusterId s.clusters).map fun cluster =>
      (cluster.withAggregate agg, s.writeAggregate clusterId agg)

/-! ## `ClusterService` -/

/-- What the evidence records of a link. -/
def clusterMetadata (derived : DerivedClusterKey) (signalId : Uuid) : Value :=
  object [("matchType", string derived.matchType.name), ("signalId", string signalId)]

theorem distinct_clusterMetadata (derived : DerivedClusterKey) (signalId : Uuid) :
    Distinct (clusterMetadata derived signalId) := by
  refine ⟨?_, trivial, trivial, trivial⟩
  show List.Nodup [utf16 "matchType", utf16 "signalId"]
  decide

def clusterEvent (derived : DerivedClusterKey) (clusterId signalId : Uuid) (existed : Bool)
    (ip : Option Text) : AppendEvidenceInput where
  tenantId := none
  actorId := none
  actorType := some "SYSTEM"
  entityType := "SCAM_CLUSTER"
  entityId := clusterId
  eventType := if existed then "CLUSTER_LINKED" else "CLUSTER_CREATED"
  eventDescription :=
    (if existed then utf16 "Signal linked to scam cluster (" else utf16 "Scam cluster created (") ++
      derived.label ++ utf16 ")"
  metadata := clusterMetadata derived signalId
  ipAddress := ip
  deviceId := none
  metadata_distinct := distinct_clusterMetadata ..

/-- Recompute a cluster's aggregates from its current member signals. -/
def recount (clusterId : Uuid) : Program ScamCluster := do
  let agg ← read fun s => aggregate clusterId s.signals
  writeAggregate clusterId agg

section Service

variable (platform : Platform)

/-- The cluster of a key, or a new one. -/
def findOrCreate (derived : DerivedClusterKey) (category : Option Text)
    (existing : Option ScamCluster) : Program ScamCluster :=
  match existing with
  | some existing => pure existing
  | none => createCluster derived category

/-- The link of a signal, where its copy in hand is not linked already. -/
def ensureLinked (signal : ScamSignal) (clusterId : Uuid) : Program Unit :=
  if signal.clusterId = some clusterId then pure () else linkSignal signal.id clusterId

/-- Log only a meaningful change — a new cluster, or a newly linked signal. -/
def logLink (derived : DerivedClusterKey) (signal : ScamSignal) (clusterId : Uuid) (existed : Bool)
    (ip : Option Text) : Program Unit :=
  if ¬ existed ∨ signal.clusterId ≠ some clusterId then
    beside (appendEvidence (clusterEvent derived clusterId signal.id existed ip))
  else pure ()

/-- Auto-cluster a signal by its shared indicator pattern. -/
def clusterSignal (signal : ScamSignal) (ip : Option Text) : Program (Option ScamCluster) :=
  match deriveClusterKey platform.toLowerCase signal.indicatorType signal.normalizedIndicator with
  | none => pure none
  | some derived => do
    let existing ← read fun s => Table.find ScamCluster.clusterKey derived.key s.clusters
    let cluster ← findOrCreate derived signal.category existing
    ensureLinked signal cluster.id
    let updated ← recount cluster.id
    logLink derived signal cluster.id existing.isSome ip
    return some updated

/-- Best-effort: a clustering failure must never fail intake. -/
def clusterAndRefresh (signal : ScamSignal) (ip : Option Text) : Program ScamSignal :=
  tryCatch
    (do
      let _ ← clusterSignal platform signal ip
      let refreshed ← read fun s => Table.find ScamSignal.id signal.id s.signals
      return refreshed.getD signal)
    fun _ => pure signal

/-- The intake engine, with the clusters that it finds or creates. -/
def intake (opts : IntakeOptions) : Program ScamSignal := do
  let base ← beside (ScamSignals.read fun s => (s.profiles opts.sourceType).getD 35)
  let existing ← beside (ScamSignals.read (findExisting platform opts.dto))
  let (signal, isDuplicate) ← beside (mergeOrCreate platform opts base existing)
  beside (appendEvidence (reportEvent opts signal isDuplicate))
  let signal ← clusterAndRefresh platform signal opts.ip
  beside (queueForReview signal)
  return signal

end Service

end Clustering
