import Vigiscam.FraudGraph.Campaigns

/-!
# What a finding does to the graph

`recordNode` and `ensureNodeForSignal` normalise and merge in different ways, and do the same to
the nodes: the node of the indicator is found and counts one more, or is created (`Counted`). A
signal that is processed then gets its edges, which leave the nodes alone (`Linking`).
-/

namespace FraudGraph

open Js Concurrency ScamSignals

/-! ## Nodes -/

abbrev IndicatorKey := Option IndicatorType × Option Text

/-- The ids of the nodes are distinct, and those that are still to be given out are of none. -/
structure Store.Keyed (s : Store) : Prop where
  ids : (s.nodes.map FraudGraphNode.id).Nodup
  injective : Function.Injective s.uuid
  fresh : ∀ n, s.issued ≤ n → s.uuid n ∉ s.nodes.map FraudGraphNode.id

/-- A finding is counted on the node of its indicator. -/
inductive Counted (key : IndicatorKey) (score : Int) (s : Store) : FraudGraphNode → Store → Prop
  | created {node : FraudGraphNode}
    (hnew : Table.find FraudGraphNode.key key s.nodes = none)
    (hid : node.id = s.uuid s.issued)
    (hkey : node.key = key)
    (htype : node.nodeType = .indicator)
    (hcount : node.signalCount = 1)
    (hrisk : node.riskScore = score) :
    Counted key score s node { s with nodes := s.nodes ++ [node], issued := s.issued + 1 }
  | updated {node e : FraudGraphNode} {f : FraudGraphNode → FraudGraphNode}
    (hfound : Table.find FraudGraphNode.key key s.nodes = some e)
    (hnode : f e = node)
    (hid : ∀ node, (f node).id = node.id)
    (hkey : ∀ node, (f node).key = node.key)
    (htype : ∀ node, (f node).nodeType = node.nodeType)
    (hcount : node.signalCount = e.signalCount + 1)
    (hrisk : node.riskScore = max e.riskScore score) :
    Counted key score s node { s with nodes := Table.modify FraudGraphNode.id e.id f s.nodes }

section Nodes

variable {s s' : Store} {node e : FraudGraphNode} {key : IndicatorKey} {score : Int}
  {f : Date → FraudGraphNode → FraudGraphNode}

/-- An id is given out once, so the row of a new indicator is created. -/
theorem Store.Keyed.run_createNode (h : s.Keyed) (row : Date → Uuid → FraudGraphNode)
    (hid : (row s.now (s.uuid s.issued)).id = s.uuid s.issued)
    (hnew : (row s.now (s.uuid s.issued)).indicatorType ≠ none →
      (row s.now (s.uuid s.issued)).key ∉ s.nodes.map FraudGraphNode.key) :
    (createNode row).run s = (.ok (row s.now (s.uuid s.issued)),
      { s with nodes := s.nodes ++ [row s.now (s.uuid s.issued)], issued := s.issued + 1 }) := by
  refine Prog.run_attempt_some (if_neg ?_)
  rintro (htaken | ⟨htype, -, htaken⟩)
  · rw [hid] at htaken
    exact h.fresh s.issued (Nat.le_refl _) htaken
  · exact hnew htype htaken

theorem Store.Keyed.run_updateNode (h : s.Keyed) (he : e ∈ s.nodes) :
    (updateNode e.id f).run s = (.ok (f s.now e),
      { s with nodes := Table.modify FraudGraphNode.id e.id (f s.now) s.nodes }) := by
  have hfind : Table.find FraudGraphNode.id e.id s.nodes = some e :=
    (Table.find_eq_some_iff h.ids).mpr ⟨he, rfl⟩
  exact Prog.run_attempt_some (by rw [hfind]; rfl)

theorem counted_recordNode (h : s.Keyed) (toLowerCase : Text → Text) (input : RecordNodeInput) :
    ∃ node s', (recordNode toLowerCase input).run s = (.ok node, s') ∧
      Counted (some input.indicatorType, some (input.normalized toLowerCase))
        (input.riskScore.getD 0) s node s' := by
  cases hfind : Table.find FraudGraphNode.key
      (some input.indicatorType, some (input.normalized toLowerCase)) s.nodes with
  | none =>
    have hrun : (recordNode toLowerCase input).run s =
        (createNode (newNode toLowerCase input)).run s := by
      simp [recordNode, FraudGraph.read, hfind]
    rw [hrun,
      h.run_createNode (newNode toLowerCase input) rfl fun _ => Table.find_eq_none_iff.mp hfind]
    exact ⟨_, _, rfl, .created hfind rfl rfl rfl rfl rfl⟩
  | some e =>
    have hrun : (recordNode toLowerCase input).run s =
        (countFinding toLowerCase input e).run s := by
      simp [recordNode, FraudGraph.read, hfind]
    rw [hrun, countFinding, h.run_updateNode (Table.mem_of_find hfind)]
    exact ⟨_, _, rfl, .updated hfind rfl (fun _ => rfl) (fun _ => rfl) (fun _ => rfl) rfl rfl⟩

theorem counted_ensureNodeForSignal (h : s.Keyed) (signal : ScamSignal) :
    ∃ node s', (ensureNodeForSignal signal).run s = (.ok node, s') ∧
      Counted (some signal.indicatorType, some signal.normalizedIndicator)
        signal.confidenceScore s node s' := by
  cases hfind : Table.find FraudGraphNode.key
      (some signal.indicatorType, some signal.normalizedIndicator) s.nodes with
  | none =>
    have hrun : (ensureNodeForSignal signal).run s = (createNode (nodeOfSignal signal)).run s := by
      simp [ensureNodeForSignal, FraudGraph.read, hfind]
    rw [hrun,
      h.run_createNode (nodeOfSignal signal) rfl fun _ => Table.find_eq_none_iff.mp hfind]
    exact ⟨_, _, rfl, .created hfind rfl rfl rfl rfl rfl⟩
  | some e =>
    have hrun : (ensureNodeForSignal signal).run s = (countSignal signal e).run s := by
      simp [ensureNodeForSignal, FraudGraph.read, hfind]
    rw [hrun, countSignal, h.run_updateNode (Table.mem_of_find hfind)]
    exact ⟨_, _, rfl, .updated hfind rfl (fun _ => rfl) (fun _ => rfl) (fun _ => rfl) rfl rfl⟩

/-- A new row under the id that is given out. -/
theorem Store.Keyed.append (h : s.Keyed) (hid : node.id = s.uuid s.issued) :
    Store.Keyed { s with nodes := s.nodes ++ [node], issued := s.issued + 1 } := by
  refine ⟨Table.nodup_append_new h.ids ?_, h.injective,
    Table.issued_append h.injective h.fresh hid⟩
  rw [hid]
  exact h.fresh s.issued (Nat.le_refl _)

theorem Counted.keyed (hcounted : Counted key score s node s') (h : s.Keyed) : s'.Keyed := by
  cases hcounted with
  | created hnew hid hkey htype hcount hrisk => exact h.append hid
  | updated hfound hnode hid hkey htype hcount hrisk =>
    refine ⟨?_, h.injective, ?_⟩
    · rw [Table.map_modify hid]
      exact h.ids
    · rw [Table.map_modify hid]
      exact h.fresh

theorem Counted.canonical (hcounted : Counted key score s node s') (h : Canonical s) :
    Canonical s' := by
  cases hcounted with
  | created hnew hid hkey htype hcount hrisk =>
    refine ⟨List.forall_mem_append.mpr ⟨h.nodes, List.forall_mem_singleton.mpr ?_⟩, h.fresh⟩
    rw [hid]
    exact h.fresh _
  | updated hfound hnode hid hkey htype hcount hrisk =>
    refine ⟨fun n hn => ?_, h.fresh⟩
    obtain ⟨old, hold, rfl⟩ := Table.mem_modify.mp hn
    split
    · rw [hid]
      exact h.nodes old hold
    · exact h.nodes old hold

/-- The node that is counted on is the one that is found from then on. -/
theorem Counted.find (hcounted : Counted key score s node s') :
    Table.find FraudGraphNode.key key s'.nodes = some node := by
  cases hcounted with
  | created hnew hid hkey htype hcount hrisk =>
    subst hkey
    exact Table.find_append_new (Table.find_eq_none_iff.mp hnew)
  | @updated e f hfound hnode hid hkey htype hcount hrisk =>
    have hkeep : ∀ node : FraudGraphNode,
        (if node.id = e.id then f node else node).key = node.key := by
      intro node
      split
      · exact hkey node
      · rfl
    rw [Table.modify, Table.find_map hkeep, hfound, Option.map_some, if_pos rfl, hnode]

/-- The nodes that were there stay, under their ids and indicators. -/
theorem Counted.kept (hcounted : Counted key score s node s') (he : e ∈ s.nodes) :
    ∃ e' ∈ s'.nodes, e'.id = e.id ∧ e'.key = e.key := by
  cases hcounted with
  | created hnew hid hkey htype hcount hrisk => exact ⟨e, List.mem_append_left _ he, rfl, rfl⟩
  | @updated found f hfound hnode hid hkey htype hcount hrisk =>
    refine ⟨_, Table.mem_modify.mpr ⟨e, he, rfl⟩, ?_⟩
    by_cases hsame : e.id = found.id
    · rw [if_pos hsame]
      exact ⟨hid e, hkey e⟩
    · rw [if_neg hsame]
      exact ⟨rfl, rfl⟩

end Nodes

/-! ## Edges -/

/-- Edges are written, and nothing else. -/
structure Linking (g g' : Graph) (new : EdgeKey → Prop) : Prop where
  nodes : g'.store.nodes = g.store.nodes
  uuid : g'.store.uuid = g.store.uuid
  issued : g.store.issued ≤ g'.store.issued
  signals : g'.signals = g.signals
  keys : ∀ key, key ∈ g'.keys ↔ key ∈ g.keys ∨ new key

section Edges

variable {g g' g'' : Graph} {new new' : EdgeKey → Prop} {node : FraudGraphNode}
  {edgeType : FraudGraphEdgeType} {weight : ℚ}

theorem Linking.none (g : Graph) : Linking g g fun _ => False :=
  ⟨rfl, rfl, Nat.le_refl _, rfl, fun _ => (or_iff_left id).symm⟩

theorem Linking.trans (h : Linking g g' new) (h' : Linking g' g'' new') :
    Linking g g'' fun key => new key ∨ new' key where
  nodes := h'.nodes.trans h.nodes
  uuid := h'.uuid.trans h.uuid
  issued := h.issued.trans h'.issued
  signals := h'.signals.trans h.signals
  keys key := by rw [h'.keys, h.keys, or_assoc]

theorem Linking.congr (h : Linking g g' new) (hnew : ∀ key, new key ↔ new' key) :
    Linking g g' new' :=
  { h with keys := fun key => by rw [h.keys, hnew] }

theorem Linking.keyed (h : Linking g g' new) (hkeyed : g.store.Keyed) : g'.store.Keyed := by
  refine ⟨?_, ?_, fun n hn => ?_⟩
  · rw [h.nodes]
    exact hkeyed.ids
  · rw [h.uuid]
    exact hkeyed.injective
  · rw [h.uuid, h.nodes]
    exact hkeyed.fresh n (h.issued.trans hn)

theorem linking_upsert (key : EdgeKey) (weight : ℚ) :
    Linking g (g.upsert key weight) (· = key) where
  nodes := nodes_upsert key weight
  uuid := uuid_upsert key weight
  issued := by
    unfold Graph.upsert
    split
    · exact Nat.le_refl _
    · exact Nat.le_succ _
  signals := by
    unfold Graph.upsert
    split <;> rfl
  keys _ := mem_keys_upsert

/-- The key of the edge to the node of another signal's indicator. -/
def LinksTo (g : Graph) (node : FraudGraphNode) (edgeType : FraudGraphEdgeType)
    (other : ScamSignal) (key : EdgeKey) : Prop :=
  ∃ otherNode, g.nodeOf other.indicatorType other.normalizedIndicator = some otherNode ∧
    node.id ≠ otherNode.id ∧ key = edgeKey node.id otherNode.id edgeType

theorem linking_linkSignal (g : Graph) (node : FraudGraphNode) (other : ScamSignal)
    (edgeType : FraudGraphEdgeType) (weight : ℚ) :
    ∃ wrote g', (linkSignal node other edgeType weight).run g = (.ok wrote, g') ∧
      Linking g g' (LinksTo g node edgeType other) := by
  cases hother : g.nodeOf other.indicatorType other.normalizedIndicator with
  | none =>
    refine ⟨false, g, by simp [linkSignal, readGraph, hother],
      (Linking.none g).congr fun key => ?_⟩
    simp [LinksTo, hother]
  | some otherNode =>
    have hrun : (linkSignal node other edgeType weight).run g =
        (upsertEdge node.id otherNode.id edgeType weight).run g := by
      simp [linkSignal, readGraph, hother]
    rw [hrun, run_upsertEdge]
    by_cases hsame : node.id = otherNode.id
    · rw [if_pos hsame]
      refine ⟨false, g, rfl, (Linking.none g).congr fun key => ?_⟩
      simp [LinksTo, hother, hsame]
    · rw [if_neg hsame]
      refine ⟨true, _, rfl, (linking_upsert _ _).congr fun key => ?_⟩
      simp [LinksTo, hother, hsame]

/-- Linking reads the nodes and the signals only, which no link changes. -/
theorem linking_linkEach {π : Type} {link : π → EdgeProgram Bool} {new : π → EdgeKey → Prop}
    (hlink : ∀ peer g', g'.store.nodes = g.store.nodes → g'.signals = g.signals →
      ∃ wrote g'', (link peer).run g' = (.ok wrote, g'') ∧ Linking g' g'' (new peer))
    (peers : List π) :
    ∃ written g', (linkEach link peers).run g = (.ok written, g') ∧
      Linking g g' fun key => ∃ peer ∈ peers, new peer key := by
  induction peers generalizing g with
  | nil => exact ⟨0, g, rfl, (Linking.none g).congr fun key => by simp⟩
  | cons peer peers ih =>
    obtain ⟨wrote, g', hrun, hfirst⟩ := hlink peer g rfl rfl
    obtain ⟨written, g'', hruns, hrest⟩ := ih fun peer g₁ hnodes hsignals =>
      hlink peer g₁ (hnodes.trans hfirst.nodes) (hsignals.trans hfirst.signals)
    refine ⟨(if wrote then 1 else 0) + written, g'', ?_, (hfirst.trans hrest).congr fun key => ?_⟩
    · simp [linkEach, hrun, hruns]
    · simp

theorem linksTo_congr (hnodes : g'.store.nodes = g.store.nodes) (other : ScamSignal) :
    LinksTo g' node edgeType other = LinksTo g node edgeType other := by
  unfold LinksTo Graph.nodeOf
  rw [hnodes]

/-- The signals that a signal is linked to in its cluster. -/
def Graph.siblings (g : Graph) (signal : ScamSignal) : List ScamSignal :=
  match present signal.clusterId with
  | none => []
  | some clusterId =>
    (g.signals.filter fun sib => sib.clusterId = some clusterId ∧ sib.id ≠ signal.id).take
      CLUSTER_PEER_SCAN_CAP

theorem linking_linkClusterPeers (g : Graph) (node : FraudGraphNode) (signal : ScamSignal) :
    ∃ written g', (linkClusterPeers node signal).run g = (.ok written, g') ∧
      Linking g g' fun key =>
        ∃ sib ∈ g.siblings signal, LinksTo g node .coOccurrenceCluster sib key := by
  cases hcluster : present signal.clusterId with
  | none =>
    refine ⟨0, g, by simp [linkClusterPeers, hcluster], (Linking.none g).congr fun key => ?_⟩
    simp [Graph.siblings, hcluster]
  | some clusterId =>
    have hrun : (linkClusterPeers node signal).run g = (linkEach
        (fun sib => linkSignal node sib .coOccurrenceCluster 1) (g.siblings signal)).run g := by
      simp only [linkClusterPeers, Graph.siblings, hcluster]
      rfl
    rw [hrun]
    refine linking_linkEach (fun sib g' hnodes _ => ?_) _
    obtain ⟨wrote, g'', hlink, hlinking⟩ := linking_linkSignal g' node sib .coOccurrenceCluster 1
    exact ⟨wrote, g'', hlink, hlinking.congr fun key => by rw [linksTo_congr hnodes]⟩

/-- A similarity gives edges of its own type. -/
theorem linking_linkSimilarityPeers (g : Graph) (node : FraudGraphNode) (signal : ScamSignal) :
    ∃ written g' new, (linkSimilarityPeers node signal).run g = (.ok written, g') ∧
      Linking g g' new ∧ ∀ key, new key → key.2.2 = .similarText := by
  let new : SignalSimilarity → EdgeKey → Prop := fun sim key => ∃ other,
    Table.find ScamSignal.id (if sim.signalAId = signal.id then sim.signalBId else sim.signalAId)
      g.signals = some other ∧ LinksTo g node .similarText other key
  have hlink : ∀ sim g', g'.store.nodes = g.store.nodes → g'.signals = g.signals →
      ∃ wrote g'', (linkSimilar node signal sim).run g' = (.ok wrote, g'') ∧
        Linking g' g'' (new sim) := by
    intro sim g' hnodes hsignals
    cases hother : Table.find ScamSignal.id
        (if sim.signalAId = signal.id then sim.signalBId else sim.signalAId) g.signals with
    | none =>
      refine ⟨false, g', by simp [linkSimilar, readGraph, hsignals, hother],
        (Linking.none g').congr fun key => ?_⟩
      simp [new, hother]
    | some other =>
      obtain ⟨wrote, g'', hrun, hlinking⟩ := linking_linkSignal g' node other .similarText sim.score
      refine ⟨wrote, g'', ?_, hlinking.congr fun key => ?_⟩
      · rw [← hrun]
        simp [linkSimilar, readGraph, hsignals, hother]
      · rw [linksTo_congr hnodes]
        simp [new, hother]
  obtain ⟨written, g', hrun, hlinking⟩ := linking_linkEach hlink
    (((g.similarities.filter fun sim =>
      sim.signalAId = signal.id ∨ sim.signalBId = signal.id).insertionSort
        fun a b => b.score ≤ a.score).take SIMILARITY_PEER_SCAN_CAP)
  refine ⟨written, g', _, hrun, hlinking, ?_⟩
  rintro key ⟨sim, -, other, -, otherNode, -, -, rfl⟩
  rfl

/-- **What processing a signal does**: it is counted, and is linked to its siblings. -/
theorem run_processSignal (hkeyed : g.store.Keyed) (signal : ScamSignal) :
    ∃ result s' g', (processSignal signal).run g = (.ok result, g') ∧
      Counted (some signal.indicatorType, some signal.normalizedIndicator)
        signal.confidenceScore g.store result.node s' ∧
      ∃ new, Linking { g with store := s' } g' new ∧
        ∀ key, key.2.2 = .coOccurrenceCluster → (new key ↔ ∃ sib ∈ g.siblings signal,
          LinksTo { g with store := s' } result.node .coOccurrenceCluster sib key) := by
  obtain ⟨node, s', hensure, hcounted⟩ := counted_ensureNodeForSignal hkeyed signal
  have hnode := run_onNodes (ensureNodeForSignal signal) g
  rw [hensure] at hnode
  obtain ⟨clusterEdges, g₁, hcluster, hlinking⟩ :=
    linking_linkClusterPeers { g with store := s' } node signal
  obtain ⟨similarityEdges, g₂, new, hsimilar, hlinking', htype⟩ :=
    linking_linkSimilarityPeers g₁ node signal
  refine ⟨⟨node, clusterEdges, similarityEdges⟩, s', g₂, ?_, hcounted, _,
    hlinking.trans hlinking', fun key hkey => ?_⟩
  · simp [processSignal, hnode, hcluster, hsimilar]
  · refine or_iff_left fun hnew => ?_
    rw [htype key hnew] at hkey
    cases hkey

end Edges

end FraudGraph
