import Vigiscam.Graphs.Layers
import Vigiscam.IdentityGraph.Service

/-!
# The neighbourhood of a seed

The search for linked identities collects the seed, the nodes beside it and those beside them, up
to `MAX_NODES`. The nodes with their edges are a graph in which the distance of two nodes is that
of a shortest walk between them (`distance`), and each hop collects the next layer of it.
-/

namespace IdentityGraph

open Js Concurrency FraudGraph Layers

/-! ## The graph of the nodes -/

/-- The ids of the nodes that an edge joins, in either direction. -/
def joins (g : Graph) : SimpleGraph Uuid :=
  SimpleGraph.fromRel fun a b => ∃ e ∈ g.edges, e.sourceNodeId = a ∧ e.targetNodeId = b

noncomputable def distance (g : Graph) (a b : FraudGraphNode) : ℕ∞ := (joins g).edist a.id b.id

open scoped Classical in
/-- The nodes at a distance of at most `radius`. -/
noncomputable def ball (g : Graph) (seed : FraudGraphNode) (radius : ℕ) : List FraudGraphNode :=
  g.store.nodes.filter fun node => distance g seed node ≤ radius

/-- Each id has one node, and each edge joins nodes. -/
structure Consistent (g : Graph) : Prop where
  ids : (g.store.nodes.map FraudGraphNode.id).Nodup
  ends : ∀ e ∈ g.edges, e.sourceNodeId ∈ g.store.nodes.map FraudGraphNode.id ∧
    e.targetNodeId ∈ g.store.nodes.map FraudGraphNode.id

section Search

variable {g : Graph} {seed : FraudGraphNode} {byId : List FraudGraphNode} {frontier : List Uuid}
  {u v : Uuid} {n hops : ℕ}

theorem joins_adj : (joins g).Adj u v ↔ u ≠ v ∧ ∃ e ∈ g.edges,
    (e.sourceNodeId = u ∧ e.targetNodeId = v) ∨ (e.sourceNodeId = v ∧ e.targetNodeId = u) := by
  rw [joins, SimpleGraph.fromRel_adj]
  refine and_congr_right fun _ => ⟨?_, ?_⟩
  · rintro (⟨e, he, hends⟩ | ⟨e, he, hends⟩)
    · exact ⟨e, he, Or.inl hends⟩
    · exact ⟨e, he, Or.inr hends⟩
  · rintro ⟨e, he, hends | hends⟩
    · exact Or.inl ⟨e, he, hends⟩
    · exact Or.inr ⟨e, he, hends⟩

/-- What an edge joins is a node. -/
theorem Consistent.mem_ids (hg : Consistent g) (hadj : (joins g).Adj u v) :
    v ∈ g.store.nodes.map FraudGraphNode.id := by
  obtain ⟨-, e, he, ⟨-, rfl⟩ | ⟨rfl, -⟩⟩ := joins_adj.mp hadj
  · exact (hg.ends e he).2
  · exact (hg.ends e he).1

theorem Consistent.whole_ball (hg : Consistent g) (hseed : seed ∈ g.store.nodes) (radius : ℕ) :
    Whole (joins g) seed.id radius ((ball g seed radius).map FraudGraphNode.id) := by
  refine ⟨hg.ids.sublist (List.filter_sublist.map _), fun v => ?_⟩
  constructor
  · intro hv
    obtain ⟨node, hnode, rfl⟩ := List.mem_map.mp hv
    exact of_decide_eq_true (List.mem_filter.mp hnode).2
  · intro hle
    -- a walk that ends elsewhere than at the seed ends at a node
    have hid : v ∈ g.store.nodes.map FraudGraphNode.id := by
      obtain ⟨p, -⟩ := SimpleGraph.exists_walk_of_edist_ne_top (ne_top_of_le_ne_top
        (ENat.natCast_ne_top radius) hle)
      by_cases hnil : p.Nil
      · exact hnil.eq ▸ List.mem_map.mpr ⟨seed, hseed, rfl⟩
      · exact hg.mem_ids (p.adj_penultimate hnil)
    obtain ⟨node, hnode, rfl⟩ := List.mem_map.mp hid
    exact List.mem_map.mpr ⟨node, List.mem_filter.mpr ⟨hnode, decide_eq_true hle⟩, rfl⟩

/-! ## One hop -/

/-- The edges that a hop reads. -/
def edgesOf (g : Graph) (frontier : List Uuid) : List FraudGraphEdge :=
  g.edges.filter fun e => e.sourceNodeId ∈ frontier ∨ e.targetNodeId ∈ frontier

/-- The nodes that a hop fetches. -/
def nodesOf (g : Graph) (ids : List Uuid) : List FraudGraphNode :=
  g.store.nodes.filter fun node => node.id ∈ ids

theorem mem_nextIds {edges : List FraudGraphEdge} : v ∈ nextIds byId edges ↔
    v ∉ byId.map FraudGraphNode.id ∧ ∃ e ∈ edges, v = e.sourceNodeId ∨ v = e.targetNodeId := by
  rw [nextIds, List.mem_eraseDups, List.mem_filter, decide_eq_true_iff, and_comm, List.mem_flatMap]
  simp only [List.mem_cons, List.not_mem_nil, or_false]

/-- The ends of the edges at the last layer that are not collected are the next layer. -/
theorem mem_nextIds_iff (hwhole : Whole (joins g) seed.id n (byId.map FraudGraphNode.id))
    (hfrontier : ∀ v, v ∈ frontier ↔ (joins g).edist seed.id v = n) :
    v ∈ nextIds byId (edgesOf g frontier) ↔ (joins g).edist seed.id v = (n + 1 : ℕ) := by
  rw [mem_nextIds, edist_eq_succ_iff, hwhole.mem]
  refine and_congr_right fun hnot => ?_
  -- the end that is not collected is not in the frontier, so the other end is
  have hnew : v ∉ frontier := fun hv => hnot ((hfrontier v).mp hv).le
  constructor
  · rintro ⟨e, he, rfl | rfl⟩
    · obtain ⟨he, htouch⟩ := List.mem_filter.mp he
      have hother := (of_decide_eq_true htouch).resolve_left hnew
      refine ⟨e.targetNodeId, (hfrontier _).mp hother, joins_adj.mpr ⟨?_, e, he, Or.inr ⟨rfl, rfl⟩⟩⟩
      exact fun hsame => hnew (hsame ▸ hother)
    · obtain ⟨he, htouch⟩ := List.mem_filter.mp he
      have hother := (of_decide_eq_true htouch).resolve_right hnew
      refine ⟨e.sourceNodeId, (hfrontier _).mp hother, joins_adj.mpr ⟨?_, e, he, Or.inl ⟨rfl, rfl⟩⟩⟩
      exact fun hsame => hnew (hsame ▸ hother)
  · rintro ⟨u, hu, hadj⟩
    have hfront := (hfrontier u).mpr hu
    obtain ⟨-, e, he, ⟨rfl, rfl⟩ | ⟨rfl, rfl⟩⟩ := joins_adj.mp hadj
    · exact ⟨e, List.mem_filter.mpr ⟨he, decide_eq_true (Or.inl hfront)⟩, Or.inr rfl⟩
    · exact ⟨e, List.mem_filter.mpr ⟨he, decide_eq_true (Or.inr hfront)⟩, Or.inl rfl⟩

/-- Each id that names a node is fetched, once. -/
theorem Consistent.perm_nodesOf (hg : Consistent g) {ids : List Uuid} (hnodup : ids.Nodup)
    (hids : ∀ v ∈ ids, v ∈ g.store.nodes.map FraudGraphNode.id) :
    ((nodesOf g ids).map FraudGraphNode.id).Perm ids := by
  refine (List.perm_ext_iff_of_nodup (hg.ids.sublist (List.filter_sublist.map _)) hnodup).mpr
    fun v => ⟨fun hv => ?_, fun hv => ?_⟩
  · obtain ⟨node, hnode, rfl⟩ := List.mem_map.mp hv
    exact of_decide_eq_true (List.mem_filter.mp hnode).2
  · obtain ⟨node, hnode, rfl⟩ := List.mem_map.mp (hids v hv)
    exact List.mem_map.mpr ⟨node, List.mem_filter.mpr ⟨hnode, decide_eq_true hv⟩, rfl⟩

theorem run_collectHops_full (h : MAX_NODES ≤ byId.length) :
    (collectHops hops byId frontier).run g = (.ok byId, g) := by
  cases hops with
  | zero => rfl
  | succ hops =>
    rw [collectHops, if_pos h]
    rfl

/-- What a hop adds to the nodes that are collected. -/
def fetchIds (g : Graph) (byId : List FraudGraphNode) (frontier : List Uuid) : List Uuid :=
  (nextIds byId (edgesOf g frontier)).take (MAX_NODES - byId.length)

theorem run_collectHops_succ (h : byId.length < MAX_NODES) {ids : List Uuid}
    (hids : fetchIds g byId frontier = ids) :
    (collectHops (hops + 1) byId frontier).run g =
      if ids = [] then (.ok byId, g)
      else (collectHops hops (byId ++ nodesOf g ids)
        ((nodesOf g ids).map FraudGraphNode.id)).run g := by
  rw [collectHops, if_neg (not_le.mpr h), ← hids]
  show (if fetchIds g byId frontier = [] then pure byId else _ : EdgeProgram _).run g = _
  by_cases hnil : fetchIds g byId frontier = []
  · rw [if_pos hnil, if_pos hnil]
    rfl
  · rw [if_neg hnil, if_neg hnil]
    rfl

/-! ## All hops -/

theorem Consistent.mem_of_id (hg : Consistent g) {rows : List FraudGraphNode}
    {node : FraudGraphNode} (hstored : ∀ row ∈ rows, row ∈ g.store.nodes)
    (hnode : node ∈ g.store.nodes) (hid : node.id ∈ rows.map FraudGraphNode.id) : node ∈ rows := by
  obtain ⟨row, hrow, hsame⟩ := List.mem_map.mp hid
  rwa [← List.inj_on_of_nodup_map hg.ids (hstored row hrow) hnode hsame]

/-- The hops from a layer gather the layers after it. -/
theorem Consistent.gathered_collectHops (hg : Consistent g) (hops : ℕ)
    (hstored : ∀ node ∈ byId, node ∈ g.store.nodes)
    (hwhole : Whole (joins g) seed.id n (byId.map FraudGraphNode.id))
    (hfrontier : ∀ v, v ∈ frontier ↔ (joins g).edist seed.id v = n)
    (hcap : byId.length ≤ MAX_NODES) :
    ∃ collected, (collectHops hops byId frontier).run g = (.ok collected, g) ∧
      (∀ node ∈ collected, node ∈ g.store.nodes) ∧
      Gathered (joins g) seed.id MAX_NODES (n + hops) (collected.map FraudGraphNode.id) := by
  induction hops generalizing n byId frontier with
  | zero =>
    refine ⟨byId, rfl, hstored, hwhole.gathered ?_⟩
    rwa [List.length_map]
  | succ hops ih =>
    rcases hcap.eq_or_lt with hfull | hroom
    · refine ⟨byId, run_collectHops_full hfull.ge, hstored, ?_⟩
      have hgathered := hwhole.gathered_append List.nodup_nil (by simp)
        (by rwa [List.append_nil, List.length_map] : _ = MAX_NODES)
        (Nat.add_le_add_left (Nat.succ_pos hops) n)
      rwa [List.append_nil] at hgathered
    · have hnext : ∀ v, v ∈ nextIds byId (edgesOf g frontier) ↔
          (joins g).edist seed.id v = (n + 1 : ℕ) := fun v => mem_nextIds_iff hwhole hfrontier
      obtain ⟨ids, hids⟩ : ∃ ids, fetchIds g byId frontier = ids := ⟨_, rfl⟩
      rw [run_collectHops_succ hroom hids]
      by_cases hnil : ids = []
      · -- there is room, so the next layer is empty
        rw [if_pos hnil]
        refine ⟨byId, rfl, hstored, (hwhole.of_empty (fun v hv => ?_) (by omega)).gathered ?_⟩
        · rw [hnil, fetchIds, List.take_eq_nil_iff] at hids
          have hempty := hids.resolve_left (by omega)
          exact absurd ((hnext v).mpr hv) (hempty ▸ List.not_mem_nil)
        · rwa [List.length_map]
      · rw [if_neg hnil]
        have hlayer : ∀ v ∈ ids, (joins g).edist seed.id v = (n + 1 : ℕ) := fun v hv =>
          (hnext v).mp (List.mem_of_mem_take (hids ▸ hv))
        have hnodup : ids.Nodup := hids ▸ (nodup_eraseDups _).sublist (List.take_sublist _ _)
        have hperm : ((nodesOf g ids).map FraudGraphNode.id).Perm ids := by
          refine hg.perm_nodesOf hnodup fun v hv => ?_
          obtain ⟨u, -, hadj⟩ := exists_adj_of_edist_eq_succ (hlayer v hv)
          exact hg.mem_ids hadj
        have hnew : ((nodesOf g ids).map FraudGraphNode.id).Nodup := hperm.nodup_iff.mpr hnodup
        have hstored' : ∀ node ∈ byId ++ nodesOf g ids, node ∈ g.store.nodes := by
          intro node hnode
          rcases List.mem_append.mp hnode with hold | hnew
          · exact hstored node hold
          · exact List.mem_of_mem_filter hnew
        have hlength : (byId ++ nodesOf g ids).length = byId.length +
            min (MAX_NODES - byId.length) (nextIds byId (edgesOf g frontier)).length := by
          have hfetched : (nodesOf g ids).length = ids.length := by
            rw [← hperm.length_eq, List.length_map]
          rw [List.length_append, hfetched, ← hids, fetchIds, List.length_take]
        by_cases hall : (nextIds byId (edgesOf g frontier)).length ≤ MAX_NODES - byId.length
        · -- the whole layer is fetched
          have hlayer' : ∀ v, v ∈ (nodesOf g ids).map FraudGraphNode.id ↔
              (joins g).edist seed.id v = (n + 1 : ℕ) := by
            intro v
            rw [hperm.mem_iff, ← hids, fetchIds, List.take_of_length_le hall]
            exact hnext v
          rw [show n + (hops + 1) = n + 1 + hops by omega]
          refine ih hstored' ?_ hlayer' (by omega)
          rw [List.map_append]
          exact hwhole.append hnew hlayer'
        · -- the cap is reached within the layer
          refine ⟨_, run_collectHops_full (by omega), hstored', ?_⟩
          have hfull : ((byId ++ nodesOf g ids).map FraudGraphNode.id).length = MAX_NODES := by
            rw [List.length_map]
            omega
          rw [List.map_append] at hfull ⊢
          exact hwhole.gathered_append hnew (fun v hv => hlayer v (hperm.mem_iff.mp hv)) hfull
            (by omega)

/-- The search collects as much as the cap allows of the nodes within two hops, those beside the
seed before the others. -/
theorem collectNeighbourhood_spec (hg : Consistent g) (hseed : seed ∈ g.store.nodes) :
    ∃ collected, (collectNeighbourhood seed).run g = (.ok collected, g) ∧
      (collected.map FraudGraphNode.id).Nodup ∧ seed ∈ collected ∧
      (∀ node ∈ collected, node ∈ ball g seed 2) ∧
      collected.length = min 24 (ball g seed 2).length ∧
      (∀ far ∈ collected, distance g seed far = 2 →
        ∀ node ∈ g.store.nodes, distance g seed node = 1 → node ∈ collected) ∧
      ((ball g seed 2).length ≤ 24 → ∀ node, node ∈ collected ↔ node ∈ ball g seed 2) := by
  have hfrontier : ∀ v, v ∈ [seed.id] ↔ (joins g).edist seed.id v = (0 : ℕ) := by
    intro v
    rw [List.mem_singleton, Nat.cast_zero, SimpleGraph.edist_eq_zero_iff]
    exact eq_comm
  obtain ⟨collected, hrun, hstored, hgathered⟩ := hg.gathered_collectHops 2
    (fun node hnode => List.mem_singleton.mp hnode ▸ hseed) whole_zero hfrontier
    (show 1 ≤ MAX_NODES by decide)
  have hball := hg.whole_ball hseed 2
  have hmem : ∀ node ∈ g.store.nodes,
      node.id ∈ collected.map FraudGraphNode.id → node ∈ collected := fun node hnode =>
    hg.mem_of_id hstored hnode
  have hnear : ∀ node ∈ collected, node ∈ ball g seed 2 := fun node hnode =>
    hg.mem_of_id (fun node => List.mem_of_mem_filter) (hstored node hnode)
      ((hball.mem _).mpr (hgathered.near _ (List.mem_map_of_mem hnode)))
  refine ⟨collected, hrun, hgathered.nodup, ?_, hnear, ?_, ?_, ?_⟩
  · exact hmem seed hseed (hgathered.mem_self (by decide))
  · rw [← List.length_map FraudGraphNode.id, ← List.length_map FraudGraphNode.id]
    exact hgathered.length_eq hball
  · intro far hfar htwo node hnode hone
    refine hmem node hnode (hgathered.nearer _ (List.mem_map_of_mem hfar) _ ?_)
    show distance g seed node < distance g seed far
    rw [hone, htwo]
    decide
  · intro hsmall node
    refine ⟨hnear node, fun hnode => hmem node (List.mem_of_mem_filter hnode) ?_⟩
    have hwhole := hgathered.whole hball (by rwa [List.length_map])
    exact (hwhole.mem _).mpr ((hball.mem _).mp (List.mem_map_of_mem hnode))

end Search

namespace Sample

def now : Date := Date.sampleDay

def member (id : Uuid) : FraudGraphNode where
  id := id
  nodeType := .indicator
  indicatorType := some .phone
  normalizedIndicator := some id
  label := id
  displayMask := none
  category := none
  signalCount := 1
  riskScore := 50
  firstSeen := now
  lastSeen := now

def edge (sourceNodeId targetNodeId : Uuid) : FraudGraphEdge where
  id := sourceNodeId ++ targetNodeId
  sourceNodeId := sourceNodeId
  targetNodeId := targetNodeId
  edgeType := .coOccurrenceCluster
  weight := 1
  evidenceCount := 1
  firstSeen := now
  lastSeen := now

/-- A chain of three nodes, of which two are joined twice. -/
def chain : Graph where
  store := {
    nodes := [member [1], member [2], member [3]]
    now := now
    uuid := fun n => List.replicate n 4
    issued := 0 }
  edges := [edge [1] [2], edge [2] [3], edge [2] [3]]
  signals := []
  similarities := []

theorem consistent_chain : Consistent chain := ⟨by decide, by decide⟩

end Sample

open Sample in
theorem collectNeighbourhood_spec_chain :
    ∃ collected, (collectNeighbourhood (member [1])).run chain = (.ok collected, chain) ∧
      member [1] ∈ collected ∧ collected.length = min 24 (ball chain (member [1]) 2).length := by
  obtain ⟨collected, hrun, -, hseed, -, hlength, -⟩ :=
    collectNeighbourhood_spec consistent_chain (List.mem_cons_self : member [1] ∈ _)
  exact ⟨collected, hrun, hseed, hlength⟩

end IdentityGraph
