import Vigiscam.EvidenceVault.Files
import Vigiscam.FraudGraph.Edges

/-!
# Reading the identity graph (`identity-graph.service.ts`, `identity-collision.service.ts`)

Reviewers search the graph and export the cluster of a campaign, which is recorded as evidence;
a consumer asks for the cluster around one identifier. A node is shown by its masked display value.

How the database matches a text, without its letter case, is the parameter `contains`.
-/

namespace IdentityGraph

open Js Value Concurrency FraudGraph
open EvidenceVault (AppendEvidenceInput)

/-- The display value of a row. -/
def display (node : FraudGraphNode) : Text :=
  mask {
    nodeType := node.nodeType
    normalizedIndicator := node.normalizedIndicator
    displayMask := node.displayMask
    label := node.label }

/-- The riskiest first, then those with the most signals. -/
def byRisk (rows : List FraudGraphNode) : List FraudGraphNode :=
  rows.insertionSort fun a b =>
    b.riskScore < a.riskScore ∨ (a.riskScore = b.riskScore ∧ b.signalCount ≤ a.signalCount)

/-- The label or the indicator contains the text. -/
def mentions (contains : Text → Text → Bool) (q : Text) (node : FraudGraphNode) : Bool :=
  contains q node.label || node.normalizedIndicator.any (contains q)

/-! ## `IdentityGraphService.search` -/

structure SearchGraphDto where
  q : Text
  nodeTypes : Option (List FraudGraphNodeType)
  indicatorType : Option IndicatorType
  limit : Option Int

structure MaskedSearchResult where
  id : Uuid
  nodeType : FraudGraphNodeType
  display : Text
  category : Option Text
  riskScore : Int
  signalCount : Nat
  firstSeen : Date
  lastSeen : Date

def toMaskedSearchResult (node : FraudGraphNode) : MaskedSearchResult where
  id := node.id
  nodeType := node.nodeType
  display := display node
  category := node.category
  riskScore := node.riskScore
  signalCount := node.signalCount
  firstSeen := node.firstSeen
  lastSeen := node.lastSeen

section Search

variable (toLowerCase : Text → Text) (contains : Text → Text → Bool)

/-- The rows that a search asks for. -/
def SearchGraphDto.selects (dto : SearchGraphDto) (node : FraudGraphNode) : Bool :=
  mentions contains (toLowerCase dto.q) node
    && (dto.nodeTypes.all fun types => types = [] || types.contains node.nodeType)
    && dto.indicatorType.all (node.indicatorType = some ·)

def search (dto : SearchGraphDto) : EdgeProgram (List MaskedSearchResult) := do
  let limit := (min (max (dto.limit.getD 50) 1) 200).toNat
  let rows ← readGraph fun g =>
    (byRisk (g.store.nodes.filter (dto.selects toLowerCase contains))).take limit
  return rows.map toMaskedSearchResult

end Search

/-! ## `IdentityGraphService.exportCluster` -/

structure ExportClusterDto where
  notes : Option Text

structure CampaignSnapshot where
  id : Uuid
  label : Text
  category : Option Text
  riskScore : Int
  signalCount : Nat
  firstSeen : Date
  lastSeen : Date

structure EdgeSnapshot where
  id : Uuid
  edgeType : FraudGraphEdgeType
  weight : ℚ
  evidenceCount : Nat
  sourceNodeId : Uuid
  targetNodeId : Uuid

structure ClusterSnapshot where
  campaign : CampaignSnapshot
  members : List MaskedSearchResult
  edges : List EdgeSnapshot

def buildSnapshot (campaign : FraudGraphNode) (members : List FraudGraphNode)
    (edges : List FraudGraphEdge) : ClusterSnapshot where
  campaign := {
    id := campaign.id
    label := campaign.label
    category := campaign.category
    riskScore := campaign.riskScore
    signalCount := campaign.signalCount
    firstSeen := campaign.firstSeen
    lastSeen := campaign.lastSeen }
  members := members.map toMaskedSearchResult
  edges := edges.map fun e =>
    { id := e.id
      edgeType := e.edgeType
      weight := e.weight
      evidenceCount := e.evidenceCount
      sourceNodeId := e.sourceNodeId
      targetNodeId := e.targetNodeId }

/-- The graph, and the vault of the evidence. -/
structure Store where
  graph : Graph
  vault : EvidenceVault.Files.Store

inductive ReportStep where
  | graph (l : EdgeStep)
  | vault (l : EvidenceVault.Files.FileStep)

abbrev Program (α : Type) := Prog Store ReportStep HttpError α

def graphPart : Part Store Graph where
  get := Store.graph
  set graph s := { s with graph }
  set_get _ := rfl
  get_set _ _ := rfl

def vaultPart : Part Store EvidenceVault.Files.Store where
  get := Store.vault
  set vault s := { s with vault }
  set_get _ := rfl
  get_set _ _ := rfl

/-- A program on the graph. -/
def onGraph {α : Type} (p : EdgeProgram α) : Program α := p.onPart graphPart .graph

/-- What the evidence records of an export. -/
def reportMetadata (campaign : FraudGraphNode) (memberCount edgeCount : Nat)
    (dto : ExportClusterDto) : Value :=
  object [("campaignLabel", string campaign.label), ("memberCount", number (.ofInt memberCount)),
    ("edgeCount", number (.ofInt edgeCount)), ("notes", ofNullable dto.notes)]

theorem distinct_reportMetadata (campaign : FraudGraphNode) (memberCount edgeCount : Nat)
    (dto : ExportClusterDto) :
    (reportMetadata campaign memberCount edgeCount dto).Distinct := by
  refine ⟨?_, trivial, trivial, trivial, distinct_ofNullable _, trivial⟩
  show List.Nodup [utf16 "campaignLabel", utf16 "memberCount", utf16 "edgeCount", utf16 "notes"]
  decide

def reportEvent (user : AuthenticatedUser) (campaign : FraudGraphNode)
    (members : List FraudGraphNode) (edges : List FraudGraphEdge) (dto : ExportClusterDto) :
    AppendEvidenceInput where
  tenantId := some user.tenantId
  actorId := some user.userId
  actorType := some "REVIEWER"
  entityType := "FRAUD_GRAPH_CAMPAIGN"
  entityId := campaign.id
  eventType := "IDENTITY_COLLISION_REPORT"
  eventDescription := utf16 "Identity Collision Graph export for campaign \"" ++ campaign.label
    ++ utf16 "\" (" ++ EvidenceVault.Files.decimal members.length ++ utf16 " members, "
    ++ EvidenceVault.Files.decimal edges.length ++ utf16 " edges)"
  metadata := reportMetadata campaign members.length edges.length dto
  ipAddress := none
  deviceId := none
  metadata_distinct := distinct_reportMetadata ..

/-- The edges that touch a node. -/
def touching (g : Graph) (id : Text) : List FraudGraphEdge :=
  g.edges.filter fun e => e.sourceNodeId = asUuid id ∨ e.targetNodeId = asUuid id

/-- The ends of the edges, without the id as it is spelled. -/
def memberIds (id : Text) (edges : List FraudGraphEdge) : List Uuid :=
  (edges.flatMap fun e => [e.sourceNodeId, e.targetNodeId]).filter (· ≠ id)

def exportCluster (platform : EvidenceVault.Files.Platform) (user : AuthenticatedUser)
    (campaignNodeId : Text) (dto : ExportClusterDto) : Program (ClusterSnapshot × Uuid) := do
  match ← onGraph (readGraph (·.node campaignNodeId)) with
  | none => throw (.notFound "Campaign node not found")
  | some campaign =>
    if campaign.nodeType ≠ .campaign then
      throw (.notFound "Export expects a CAMPAIGN node id")
    else
      let edges ← onGraph (readGraph fun g => touching g campaignNodeId)
      let members ← onGraph (readGraph fun g =>
        g.store.nodes.filter fun node => node.id ∈ memberIds campaignNodeId edges)
      let evidenceEventId ← (EvidenceVault.Files.appendEvidence platform
        (reportEvent user campaign members edges dto)).onPart vaultPart .vault
      return (buildSnapshot campaign members edges, evidenceEventId)

/-! ## `IdentityCollisionService.search` -/

inductive CollisionSearchType where
  | name | phone | email | wallet | domain | handle | image | voice | phrase
deriving DecidableEq

structure CollisionSearchDto where
  query : Text
  searchType : CollisionSearchType

/-- The frontend's taxonomy of nodes. -/
inductive FrontendNodeType where
  | handle | phone | wallet | domain | email | image | voice | phrase
deriving DecidableEq

inductive RiskBand where
  | critical | high | medium | low
deriving DecidableEq

/-- A single linked identifier as the consumer page renders it. -/
structure CollisionNode where
  type : FrontendNodeType
  value : Text
  role : Text
  risk : RiskBand

structure CollisionResult where
  found : Bool
  query : Text
  queryType : Text
  matchCount : Nat
  clusterName : Option Text
  riskScore : Int
  nodes : List CollisionNode
  victimReports : Nat
  linkedClusters : List Text
  firstSeen : Option Text
  lastActive : Option Text

def SEED_CANDIDATES : Nat := 5

def MAX_NODES : Nat := 24

/-- `HUMAN_LABEL` -/
def humanLabel : CollisionSearchType → Text
  | .name => "Name"
  | .phone => "Phone Number"
  | .email => "Email Address"
  | .wallet => "Crypto Wallet"
  | .domain => "Website / Domain"
  | .handle => "Social Media Handle"
  | .image => "Profile Image"
  | .voice => "Voice Sample"
  | .phrase => "Script Phrase"

/-- `ROLE_BY_TYPE` -/
def roleByType : FrontendNodeType → Text
  | .handle => "Linked identity"
  | .phone => "Contact number"
  | .wallet => "Payment destination"
  | .domain => "Linked domain / site"
  | .email => "Email used"
  | .image => "Profile photo reuse"
  | .voice => "Voice sample match"
  | .phrase => "Script phrase match"

/-- `TYPE_FILTER`: what kinds of nodes a search is about. -/
def typeFilter : CollisionSearchType → FraudGraphNode → Bool
  | .name, _ => true
  | .phone, node => node.indicatorType = some .phone
  | .email, node => node.indicatorType = some .email
  | .wallet, node => node.indicatorType = some .cryptoWallet
  | .domain, node => node.indicatorType = some .domain || node.indicatorType = some .url
  | .handle, node => node.nodeType = .profile || node.indicatorType = some .socialProfile
  | .image, node => node.nodeType = .faceSignal
  | .voice, node => node.nodeType = .voiceSignal
  | .phrase, node => node.nodeType = .scriptPattern || node.indicatorType = some .scamPhrase

def indicatorToFrontendType : Option IndicatorType → FrontendNodeType
  | some .phone => .phone
  | some .email => .email
  | some .domain | some .url => .domain
  | some .cryptoWallet => .wallet
  | some .scamPhrase => .phrase
  | _ => .handle

def frontendNodeType (node : FraudGraphNode) : FrontendNodeType :=
  match node.nodeType with
  | .profile | .actor => .handle
  | .faceSignal => .image
  | .voiceSignal => .voice
  | .scriptPattern => .phrase
  | .paymentRequest | .giftCardRequest => .wallet
  | .ipRange => .domain
  | .indicator => indicatorToFrontendType node.indicatorType
  | .campaign => .handle

def riskBand (riskScore : Int) : RiskBand :=
  if 80 ≤ riskScore then .critical
  else if 60 ≤ riskScore then .high
  else if 40 ≤ riskScore then .medium
  else .low

/-- Only presentation fields leave here. -/
def toCollisionNode (node : FraudGraphNode) (roleOverride : Option Text) : CollisionNode where
  type := frontendNodeType node
  value := display node
  role := roleOverride.getD (roleByType (frontendNodeType node))
  risk := riskBand node.riskScore

def minDate : List Date → Option Date
  | [] => none
  | d :: ds => some (ds.foldl (fun a b => if a.getTime ≤ b.getTime then a else b) d)

def maxDate : List Date → Option Date
  | [] => none
  | d :: ds => some (ds.foldl (fun a b => if b.getTime ≤ a.getTime then a else b) d)

/-- The ends of the edges that are not collected yet, in the order in which they come up. -/
def nextIds (byId : List FraudGraphNode) (edges : List FraudGraphEdge) : List Uuid :=
  ((edges.flatMap fun e => [e.sourceNodeId, e.targetNodeId]).filter fun id =>
    id ∉ byId.map FraudGraphNode.id).eraseDups

/-- So many hops from the frontier. What is fetched is not collected yet, so it goes last. -/
def collectHops : Nat → List FraudGraphNode → List Uuid → EdgeProgram (List FraudGraphNode)
  | 0, byId, _ => pure byId
  | hops + 1, byId, frontier =>
    if MAX_NODES ≤ byId.length then pure byId
    else do
      let edges ← readGraph fun g =>
        g.edges.filter fun e => e.sourceNodeId ∈ frontier ∨ e.targetNodeId ∈ frontier
      let fetchIds := (nextIds byId edges).take (MAX_NODES - byId.length)
      if fetchIds = [] then pure byId
      else
        let fetched ← readGraph fun g => g.store.nodes.filter fun node => node.id ∈ fetchIds
        collectHops hops (byId ++ fetched) (fetched.map FraudGraphNode.id)

/-- Seed → one hop → two hops, deduped, capped at MAX_NODES (incl. seed). -/
def collectNeighbourhood (seed : FraudGraphNode) : EdgeProgram (List FraudGraphNode) :=
  collectHops 2 [seed] [seed.id]

/-- The nodes that are drawn beside the seed. -/
def memberNodes (seed : FraudGraphNode) (collected : List FraudGraphNode) : List FraudGraphNode :=
  collected.filter fun node => node.nodeType ≠ .campaign ∧ node.id ≠ seed.id

/-- Clean "no fraud-graph match" envelope. -/
def noMatch (q : Text) (searchType : CollisionSearchType) : CollisionResult where
  found := false
  query := q
  queryType := humanLabel searchType
  matchCount := 0
  clusterName := none
  riskScore := 0
  nodes := []
  victimReports := 0
  linkedClusters := []
  firstSeen := none
  lastActive := none

/-- The cluster around the seed, as the page renders it. -/
def cluster (q : Text) (searchType : CollisionSearchType) (seed : FraudGraphNode)
    (collected : List FraudGraphNode) : CollisionResult :=
  let campaigns := collected.filter fun node => node.nodeType = .campaign
  let members := memberNodes seed collected
  let linkedClusters := (((campaigns.insertionSort fun a b => b.riskScore ≤ a.riskScore).map
    (·.label)).filter (· ≠ [])).eraseDups
  let nodes := toCollisionNode seed (some "Primary identifier")
    :: members.map fun node => toCollisionNode node none
  let allInCluster := seed :: members ++ campaigns
  { found := true
    query := q
    queryType := humanLabel searchType
    matchCount := nodes.length
    clusterName := linkedClusters.head?
    riskScore := (campaigns.map (·.riskScore)).foldl max (max seed.riskScore 0)
    nodes
    victimReports := seed.signalCount + (members.map (·.signalCount)).sum
    linkedClusters
    firstSeen := (minDate (allInCluster.map (·.firstSeen))).map (·.toISOString)
    lastActive := (maxDate (allInCluster.map (·.lastSeen))).map (·.toISOString) }

/-- The nodes that a search matches, of which the first is its seed. -/
def candidates (contains : Text → Text → Bool) (dto : CollisionSearchDto) (g : Graph) :
    List FraudGraphNode :=
  (byRisk (g.store.nodes.filter fun node =>
    mentions contains (trim dto.query) node && typeFilter dto.searchType node)).take SEED_CANDIDATES

def collisionSearch (contains : Text → Text → Bool) (dto : CollisionSearchDto) :
    EdgeProgram CollisionResult := do
  match ← readGraph (candidates contains dto) with
  | [] => return noMatch (trim dto.query) dto.searchType
  | seed :: _ => do
    let collected ← collectNeighbourhood seed
    return cluster (trim dto.query) dto.searchType seed collected

end IdentityGraph
