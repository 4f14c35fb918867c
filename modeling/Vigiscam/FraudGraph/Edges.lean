import Mathlib.Data.List.Lex
import Mathlib.Data.Rat.Defs
import Vigiscam.Concurrency.Part
import Vigiscam.FraudGraph.Nodes
import Vigiscam.ScamSignals.Intake

/-!
# Edges and campaigns of the fraud graph (`fraud-graph.service.ts`)

An edge is stored once for each pair of nodes and edge type, under the order of the two ids. A
signal that is processed is linked to its cluster's signals and to the signals with a similar
text, and the members of a campaign are linked to its node.

The ids of the database are UUIDs, which it reads in any letter case and writes in lower case;
the ids of a request are compared as they are spelled.
-/

namespace FraudGraph

open Js Concurrency ScamSignals

/-! ## Tables -/

inductive FraudGraphEdgeType where
  | coOccurrenceCluster | similarText | sharedCategory | campaignMembership
  | similarProfilePhoto | similarScript | samePaymentRequest | handleConfusability
  | voicePatternMatch | facePatternMatch | sharedVictimStory
deriving DecidableEq

structure FraudGraphEdge where
  id : Uuid
  sourceNodeId : Uuid
  targetNodeId : Uuid
  edgeType : FraudGraphEdgeType
  weight : ℚ
  evidenceCount : Nat
  firstSeen : Date
  lastSeen : Date

/-- The columns that are unique together. -/
def FraudGraphEdge.key (edge : FraudGraphEdge) : Uuid × Uuid × FraudGraphEdgeType :=
  (edge.sourceNodeId, edge.targetNodeId, edge.edgeType)

structure SignalSimilarity where
  signalAId : Uuid
  signalBId : Uuid
  score : ℚ

/-- The nodes with the edges between them, and the signals that they come from. -/
structure Graph where
  store : Store
  edges : List FraudGraphEdge
  signals : List ScamSignal
  similarities : List SignalSimilarity

inductive EdgeStep where
  | read | upsert | delete
  | node (l : GraphStep)

abbrev EdgeProgram (α : Type) := Prog Graph EdgeStep HttpError α

def storePart : Part Graph Store where
  get := Graph.store
  set store g := { g with store }
  set_get _ := rfl
  get_set _ _ := rfl

/-- A program on the nodes. -/
def onNodes {α : Type} (p : Program α) : EdgeProgram α := p.onPart storePart .node

def readGraph {α : Type} (f : Graph → α) : EdgeProgram α :=
  Prog.act .read .internal fun g => (f g, g)

/-- A UUID as its column holds it. -/
def asUuid (id : Text) : Uuid := lowerAscii id

/-- `fraudGraphNode.findUnique` by the id. -/
def Graph.node (g : Graph) (id : Text) : Option FraudGraphNode :=
  Table.find FraudGraphNode.id (asUuid id) g.store.nodes

/-- `fraudGraphNode.findUnique` by the indicator. -/
def Graph.nodeOf (g : Graph) (indicatorType : IndicatorType) (normalizedIndicator : Text) :
    Option FraudGraphNode :=
  Table.find FraudGraphNode.key (some indicatorType, some normalizedIndicator) g.store.nodes

/-! ## Edges -/

/-- `[sourceNodeId, targetNodeId]`: the two ids in the order of their spelling. -/
def canonicalPair (nodeAId nodeBId : Text) : Text × Text :=
  if nodeAId < nodeBId then (nodeAId, nodeBId) else (nodeBId, nodeAId)

/-- The key of an edge between two nodes that are named. -/
def edgeKey (nodeAId nodeBId : Text) (edgeType : FraudGraphEdgeType) :
    Uuid × Uuid × FraudGraphEdgeType :=
  (asUuid (canonicalPair nodeAId nodeBId).1, asUuid (canonicalPair nodeAId nodeBId).2, edgeType)

def Graph.newEdge (g : Graph) (key : Uuid × Uuid × FraudGraphEdgeType) (weight : ℚ) :
    FraudGraphEdge where
  id := g.store.uuid g.store.issued
  sourceNodeId := key.1
  targetNodeId := key.2.1
  edgeType := key.2.2
  weight := weight
  evidenceCount := 1
  firstSeen := g.store.now
  lastSeen := g.store.now

/-- The update of an edge that is there. -/
def strengthen (weight : ℚ) (now : Date) (edge : FraudGraphEdge) : FraudGraphEdge :=
  { edge with weight, evidenceCount := edge.evidenceCount + 1, lastSeen := now }

/-- `fraudGraphEdge.upsert`. -/
def Graph.upsert (g : Graph) (key : Uuid × Uuid × FraudGraphEdgeType) (weight : ℚ) : Graph :=
  match Table.find FraudGraphEdge.key key g.edges with
  | some _ =>
    { g with edges := Table.modify FraudGraphEdge.key key (strengthen weight g.store.now) g.edges }
  | none =>
    { g with
      edges := g.edges ++ [g.newEdge key weight]
      store := { g.store with issued := g.store.issued + 1 } }

/-- Idempotent edge upsert with canonical pair ordering. Returns true on write. -/
def upsertEdge (nodeAId nodeBId : Text) (edgeType : FraudGraphEdgeType) (weight : ℚ) :
    EdgeProgram Bool :=
  if nodeAId = nodeBId then pure false -- self-loop guard
  else
    tryCatch
      (do
        Prog.act .upsert .internal fun g =>
          ((), g.upsert (edgeKey nodeAId nodeBId edgeType) weight)
        return true)
      fun _ => pure false

/-! ## `processSignal` -/

/-- A signal is counted on the node that was found. -/
def countSignal (signal : ScamSignal) (existing : FraudGraphNode) : Program FraudGraphNode :=
  updateNode existing.id fun now node =>
    { node with
      signalCount := node.signalCount + 1
      riskScore := max existing.riskScore signal.confidenceScore
      category := existing.category.or signal.category
      lastSeen := now }

/-- The row of a signal whose indicator has no node. -/
def nodeOfSignal (signal : ScamSignal) (now : Date) (id : Uuid) : FraudGraphNode where
  id := id
  nodeType := .indicator
  indicatorType := some signal.indicatorType
  normalizedIndicator := some signal.normalizedIndicator
  label := signal.indicatorValue
  displayMask := none
  category := signal.category
  signalCount := 1
  riskScore := signal.confidenceScore
  firstSeen := now
  lastSeen := now

/-- Find-or-create a node for this signal's indicator + bump aggregates. -/
def ensureNodeForSignal (signal : ScamSignal) : Program FraudGraphNode := do
  let existing ← read fun s => Table.find FraudGraphNode.key
    (some signal.indicatorType, some signal.normalizedIndicator) s.nodes
  match existing with
  | some existing => countSignal signal existing
  | none => createNode (nodeOfSignal signal)

/-- How many of the peers are linked. -/
def linkEach {π : Type} (link : π → EdgeProgram Bool) : List π → EdgeProgram Nat
  | [] => pure 0
  | peer :: peers => do
    let wrote ← link peer
    let written ← linkEach link peers
    return (if wrote then 1 else 0) + written

/-- An edge to the node of the other signal's indicator, where there is one. -/
def linkSignal (node : FraudGraphNode) (other : ScamSignal) (edgeType : FraudGraphEdgeType)
    (weight : ℚ) : EdgeProgram Bool := do
  match ← readGraph fun g => g.nodeOf other.indicatorType other.normalizedIndicator with
  | none => return false
  | some otherNode => upsertEdge node.id otherNode.id edgeType weight

def CLUSTER_PEER_SCAN_CAP : Nat := 200

def SIMILARITY_PEER_SCAN_CAP : Nat := 50

/-- Create / strengthen CO_OCCURRENCE_CLUSTER edges to all cluster siblings. -/
def linkClusterPeers (node : FraudGraphNode) (signal : ScamSignal) : EdgeProgram Nat :=
  match present signal.clusterId with
  | none => pure 0
  | some clusterId => do
    let siblings ← readGraph fun g =>
      (g.signals.filter fun sib => sib.clusterId = some clusterId ∧ sib.id ≠ signal.id).take
        CLUSTER_PEER_SCAN_CAP
    linkEach (fun sib => linkSignal node sib .coOccurrenceCluster 1) siblings

/-- The peer of one similarity. -/
def linkSimilar (node : FraudGraphNode) (signal : ScamSignal) (sim : SignalSimilarity) :
    EdgeProgram Bool := do
  let otherId := if sim.signalAId = signal.id then sim.signalBId else sim.signalAId
  match ← readGraph fun g => Table.find ScamSignal.id otherId g.signals with
  | none => return false
  | some other => linkSignal node other .similarText sim.score

/-- Create / strengthen SIMILAR_TEXT edges to embedding-similar peers. -/
def linkSimilarityPeers (node : FraudGraphNode) (signal : ScamSignal) : EdgeProgram Nat := do
  let sims ← readGraph fun g =>
    ((g.similarities.filter fun sim =>
      sim.signalAId = signal.id ∨ sim.signalBId = signal.id).insertionSort
        fun a b => b.score ≤ a.score).take SIMILARITY_PEER_SCAN_CAP
  linkEach (linkSimilar node signal) sims

structure ProcessSignalResult where
  node : FraudGraphNode
  clusterEdges : Nat
  similarityEdges : Nat

/-- Project a signal onto the graph. -/
def processSignal (signal : ScamSignal) : EdgeProgram ProcessSignalResult := do
  let node ← onNodes (ensureNodeForSignal signal)
  let clusterEdges ← linkClusterPeers node signal
  let similarityEdges ← linkSimilarityPeers node signal
  return { node, clusterEdges, similarityEdges }

/-! ## Campaigns -/

structure CreateCampaignInput where
  label : Text
  category : Option Text

/-- Campaigns have no indicator pair. -/
def newCampaign (input : CreateCampaignInput) (now : Date) (id : Uuid) : FraudGraphNode where
  id := id
  nodeType := .campaign
  indicatorType := none
  normalizedIndicator := none
  label := input.label
  displayMask := none
  category := input.category
  signalCount := 0
  riskScore := 0
  firstSeen := now
  lastSeen := now

/-- Create a new CAMPAIGN-type node. -/
def createCampaign (input : CreateCampaignInput) : EdgeProgram FraudGraphNode :=
  onNodes (createNode (newCampaign input))

def requireCampaign (id : Text) : EdgeProgram FraudGraphNode := do
  match ← readGraph fun g => g.node id with
  | none => throw (.notFound "Campaign not found")
  | some campaign =>
    if campaign.nodeType = .campaign then return campaign
    else throw (.notFound "Campaign not found")

/-- The membership edges of a campaign, the heaviest first. -/
def Graph.membershipEdges (g : Graph) (id : Text) : List FraudGraphEdge :=
  (g.edges.filter fun edge => edge.edgeType = .campaignMembership ∧
    (edge.sourceNodeId = asUuid id ∨ edge.targetNodeId = asUuid id)).insertionSort
      fun a b => b.weight ≤ a.weight

/-- The end of an edge that is not spelled like the id. -/
def otherEnd (id : Text) (edge : FraudGraphEdge) : Uuid :=
  if edge.sourceNodeId = id then edge.targetNodeId else edge.sourceNodeId

/-- Get a campaign with its indicator members projected. -/
def getCampaignWithMembers (id : Text) :
    EdgeProgram (FraudGraphNode × List FraudGraphNode) := do
  let campaign ← requireCampaign id
  let edges ← readGraph fun g => g.membershipEdges id
  let memberIds := edges.map (otherEnd id)
  if memberIds = [] then return (campaign, [])
  else
    let members ← readGraph fun g => g.store.nodes.filter fun node => node.id ∈ memberIds
    return (campaign, members)

/-- Attach an INDICATOR node as a member of a CAMPAIGN. -/
def addCampaignMember (campaignId nodeId : Text) : EdgeProgram FraudGraphNode := do
  if campaignId = nodeId then throw (.badRequest "A campaign cannot reference itself")
  else
    let _ ← requireCampaign campaignId
    match ← readGraph fun g => g.node nodeId with
    | none => throw (.notFound "Indicator node not found")
    | some indicator =>
      if indicator.nodeType ≠ .indicator then
        throw (.badRequest "Campaign members must be INDICATOR nodes")
      else
        let _ ← upsertEdge campaignId nodeId .campaignMembership 1
        return indicator

/-- `fraudGraphEdge.delete`; it throws when there is no such edge. -/
def deleteEdge (key : Uuid × Uuid × FraudGraphEdgeType) : EdgeProgram Unit :=
  Prog.attempt .delete .internal fun g =>
    (Table.find FraudGraphEdge.key key g.edges).map fun _ =>
      ((), { g with edges := g.edges.filter fun edge => edge.key ≠ key })

/-- Remove a member from a campaign (idempotent: no error if not a member). -/
def removeCampaignMember (campaignId nodeId : Text) : EdgeProgram Unit :=
  tryCatch (deleteEdge (edgeKey campaignId nodeId .campaignMembership)) fun _ => pure ()

end FraudGraph
