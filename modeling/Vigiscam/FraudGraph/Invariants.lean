import Mathlib.Data.Sym.Sym2
import Vigiscam.Concurrency.Triple
import Vigiscam.FraudGraph.Edges

/-!
# What the calls keep of the fraud graph

The edges of a graph are in the order of their ids, unique for each pair of nodes and type, and a
membership joins a campaign and an indicator (`Lawful`). What each call does to the nodes, to the
edges and to the memberships is stated once, on the way that it ends: `Grown`, `Apart`, and a run
lemma for each call on campaigns.
-/

namespace FraudGraph

open Js Concurrency ScamSignals

/-! ## What the graph keeps -/

def typeOf (id : Uuid) (nodes : List FraudGraphNode) : Option FraudGraphNodeType :=
  (Table.find FraudGraphNode.id id nodes).map (·.nodeType)

/-- The ids of the database are as it writes them. -/
structure Canonical (s : Store) : Prop where
  nodes : ∀ node ∈ s.nodes, asUuid node.id = node.id
  fresh : ∀ n, asUuid (s.uuid n) = s.uuid n

/-- No node is lost, and none changes its type. -/
def TypesKept (nodes nodes' : List FraudGraphNode) : Prop :=
  ∀ id t, typeOf id nodes = some t → typeOf id nodes' = some t

abbrev EdgeKey := Uuid × Uuid × FraudGraphEdgeType

def Graph.keys (g : Graph) : List EdgeKey := g.edges.map FraudGraphEdge.key

/-- The nodes that an edge joins, in no order, with its type. -/
def pairOf (key : EdgeKey) : Sym2 Uuid × FraudGraphEdgeType := (s(key.1, key.2.1), key.2.2)

/-- One of the two nodes is a campaign, and the other an indicator. -/
def JoinsCampaign (nodes : List FraudGraphNode) (key : EdgeKey) : Prop :=
  (typeOf key.1 nodes = some .campaign ∧ typeOf key.2.1 nodes = some .indicator) ∨
    (typeOf key.1 nodes = some .indicator ∧ typeOf key.2.1 nodes = some .campaign)

structure Lawful (g : Graph) : Prop where
  ordered : ∀ key ∈ g.keys, key.1 < key.2.1
  unique : (g.keys.map pairOf).Nodup
  membership : ∀ key ∈ g.keys, key.2.2 = .campaignMembership → JoinsCampaign g.store.nodes key

/-- There is a membership edge between the two nodes. -/
def Linked (g : Graph) (c n : Uuid) : Prop := (s(c, n), .campaignMembership) ∈ g.keys.map pairOf

section Keys

variable {g : Graph} {key key' : EdgeKey} {nodes nodes' : List FraudGraphNode}

/-- The pair of an edge determines its key. -/
theorem key_eq_of_pair (h : key.1 < key.2.1) (h' : key'.1 < key'.2.1)
    (hpair : pairOf key = pairOf key') : key = key' := by
  obtain ⟨hnodes, htype⟩ := Prod.mk.inj hpair
  rcases Sym2.eq_iff.mp hnodes with ⟨hsource, htarget⟩ | ⟨hsource, htarget⟩
  · exact Prod.ext hsource (Prod.ext htarget htype)
  · rw [hsource, htarget] at h
    exact absurd h h'.asymm

theorem JoinsCampaign.mono (h : JoinsCampaign nodes key) (hkept : TypesKept nodes nodes') :
    JoinsCampaign nodes' key :=
  h.imp (fun h => ⟨hkept _ _ h.1, hkept _ _ h.2⟩) fun h => ⟨hkept _ _ h.1, hkept _ _ h.2⟩

/-- Changes of the nodes that keep their types. -/
theorem Lawful.withNodes {store : Store} (h : Lawful g)
    (hkept : TypesKept g.store.nodes store.nodes) :
    Lawful { g with store } :=
  ⟨h.ordered, h.unique, fun key hkey htype => (h.membership key hkey htype).mono hkept⟩

theorem keys_upsert (key : EdgeKey) (weight : ℚ) :
    (g.upsert key weight).keys = if key ∈ g.keys then g.keys else g.keys ++ [key] := by
  cases hfind : Table.find FraudGraphEdge.key key g.edges with
  | some edge =>
    have hmem : key ∈ g.keys :=
      List.mem_map.mpr ⟨edge, Table.mem_of_find hfind, Table.key_of_find hfind⟩
    rw [if_pos hmem, Graph.upsert, hfind]
    exact Table.map_modify fun _ => rfl
  | none =>
    have hmem : key ∉ g.keys := Table.find_eq_none_iff.mp hfind
    rw [if_neg hmem, Graph.upsert, hfind]
    simp [Graph.keys, Graph.newEdge, FraudGraphEdge.key]

@[simp] theorem nodes_upsert (key : EdgeKey) (weight : ℚ) :
    (g.upsert key weight).store.nodes = g.store.nodes := by
  unfold Graph.upsert
  split <;> rfl

@[simp] theorem uuid_upsert (key : EdgeKey) (weight : ℚ) :
    (g.upsert key weight).store.uuid = g.store.uuid := by
  unfold Graph.upsert
  split <;> rfl

theorem mem_keys_upsert {weight : ℚ} :
    key' ∈ (g.upsert key weight).keys ↔ key' ∈ g.keys ∨ key' = key := by
  rw [keys_upsert]
  by_cases hmem : key ∈ g.keys
  · rw [if_pos hmem]
    exact ⟨Or.inl, fun h => h.elim id fun h => h ▸ hmem⟩
  · rw [if_neg hmem]
    simp

/-- An edge in order is added, or is there. -/
theorem Lawful.upsert {weight : ℚ} (h : Lawful g) (hordered : key.1 < key.2.1)
    (hjoins : key.2.2 = .campaignMembership → JoinsCampaign g.store.nodes key) :
    Lawful (g.upsert key weight) := by
  refine ⟨fun key' hkey' => ?_, ?_, fun key' hkey' htype => ?_⟩
  · rcases mem_keys_upsert.mp hkey' with hold | rfl
    · exact h.ordered key' hold
    · exact hordered
  · rw [keys_upsert]
    by_cases hmem : key ∈ g.keys
    · rw [if_pos hmem]
      exact h.unique
    · rw [if_neg hmem, List.map_append, List.map_singleton, List.nodup_append]
      refine ⟨h.unique, List.nodup_singleton _, fun pair hpair pair' hpair' => ?_⟩
      obtain ⟨key', hkey', rfl⟩ := List.mem_map.mp hpair
      rw [List.mem_singleton.mp hpair']
      -- an edge of the same pair would have the same key
      intro hsame
      exact hmem (key_eq_of_pair (h.ordered key' hkey') hordered hsame ▸ hkey')
  · rw [nodes_upsert]
    rcases mem_keys_upsert.mp hkey' with hold | rfl
    · exact h.membership key' hold htype
    · exact hjoins htype

theorem linked_upsert {weight : ℚ} {c n : Uuid} :
    Linked (g.upsert key weight) c n ↔
      Linked g c n ∨ pairOf key = (s(c, n), .campaignMembership) := by
  constructor
  · intro h
    obtain ⟨key', hkey', hpair⟩ := List.mem_map.mp h
    rcases mem_keys_upsert.mp hkey' with hold | rfl
    · exact Or.inl (List.mem_map.mpr ⟨key', hold, hpair⟩)
    · exact Or.inr hpair
  · rintro (h | h)
    · obtain ⟨key', hkey', hpair⟩ := List.mem_map.mp h
      exact List.mem_map.mpr ⟨key', mem_keys_upsert.mpr (Or.inl hkey'), hpair⟩
    · exact List.mem_map.mpr ⟨key, mem_keys_upsert.mpr (Or.inr rfl), h⟩

end Keys

/-! ## The ids of a request -/

/-- The ids compare as the ids of the rows that they name. -/
def SpelledInOrder (a b : Text) : Prop := asUuid a ≠ asUuid b → (a < b ↔ asUuid a < asUuid b)

instance (a b : Text) : Decidable (SpelledInOrder a b) := inferInstanceAs (Decidable (_ → _))

theorem spelledInOrder_of_canonical {a b : Text} (ha : asUuid a = a) (hb : asUuid b = b) :
    SpelledInOrder a b := by
  intro _
  rw [ha, hb]

/-- The key of two nodes is in order, and is the key of the pair. -/
theorem edgeKey_spec {a b : Text} {edgeType : FraudGraphEdgeType} (hne : asUuid a ≠ asUuid b)
    (hspelled : SpelledInOrder a b) :
    (edgeKey a b edgeType).1 < (edgeKey a b edgeType).2.1 ∧
      pairOf (edgeKey a b edgeType) = (s(asUuid a, asUuid b), edgeType) := by
  have horder := hspelled hne
  by_cases hlt : a < b
  · rw [edgeKey, canonicalPair, if_pos hlt]
    exact ⟨horder.mp hlt, rfl⟩
  · rw [edgeKey, canonicalPair, if_neg hlt]
    have hnot : ¬ asUuid a < asUuid b := fun h => hlt (horder.mpr h)
    exact ⟨lt_of_le_of_ne (not_lt.mp hnot) hne.symm, Prod.ext Sym2.eq_swap rfl⟩

/-! ## What a step does to the nodes -/

/-- The nodes of the one store are in the other, and the ids are as the database writes them. -/
structure Grown (s s' : Store) : Prop where
  canonical : Canonical s'
  types : TypesKept s.nodes s'.nodes

section Nodes

variable {s : Store}

theorem typeOf_append {id : Uuid} {t : FraudGraphNodeType} {nodes new : List FraudGraphNode}
    (h : typeOf id nodes = some t) : typeOf id (nodes ++ new) = some t := by
  obtain ⟨node, hfind, htype⟩ := Option.map_eq_some_iff.mp h
  exact Option.map_eq_some_iff.mpr ⟨node, Table.find_append_of_find hfind, htype⟩

theorem gives_createNode {row : Date → Uuid → FraudGraphNode}
    (hrow : ∀ now id, (row now id).id = id) :
    (createNode row).Gives (Grown s) fun node => asUuid node.id = node.id := by
  refine Prog.gives_attempt fun s' node t hs' hcreate => ?_
  obtain ⟨-, hnode⟩ := Option.ite_none_left_eq_some.mp hcreate
  obtain ⟨rfl, rfl⟩ := Prod.mk.inj (Option.some.inj hnode)
  have hid : asUuid (row s'.now (s'.uuid s'.issued)).id = (row s'.now (s'.uuid s'.issued)).id := by
    rw [hrow]
    exact hs'.canonical.fresh _
  refine ⟨⟨⟨fun node hnode => ?_, hs'.canonical.fresh⟩, fun id t h => ?_⟩, hid⟩
  · rcases List.mem_append.mp hnode with hold | hnew
    · exact hs'.canonical.nodes node hold
    · rw [List.mem_singleton.mp hnew]
      exact hid
  · exact typeOf_append (hs'.types id t h)

theorem gives_updateNode {id : Uuid} {f : Date → FraudGraphNode → FraudGraphNode}
    (hid : ∀ now node, (f now node).id = node.id)
    (htype : ∀ now node, (f now node).nodeType = node.nodeType) :
    (updateNode id f).Gives (Grown s) fun node => asUuid node.id = node.id := by
  refine Prog.gives_attempt fun s' node t hs' hupdate => ?_
  obtain ⟨found, hfind, hnode⟩ := Option.map_eq_some_iff.mp hupdate
  obtain ⟨rfl, rfl⟩ := Prod.mk.inj hnode
  have hkeep : ∀ node : FraudGraphNode,
      (if node.id = id then f s'.now node else node).id = node.id := by
    intro node
    split
    · exact hid _ _
    · rfl
  refine ⟨⟨⟨fun node hnode => ?_, hs'.canonical.fresh⟩, fun id' t h => ?_⟩, ?_⟩
  · obtain ⟨old, hold, rfl⟩ := Table.mem_modify.mp hnode
    rw [hkeep]
    exact hs'.canonical.nodes old hold
  · have hbefore := hs'.types id' t h
    obtain ⟨old, hold, hold'⟩ := Option.map_eq_some_iff.mp hbefore
    rw [typeOf, Table.modify, Table.find_map hkeep, hold, Option.map_map, Option.map_some, ← hold']
    show some (FraudGraphNode.nodeType (if _ then _ else _)) = some old.nodeType
    split
    · exact congrArg some (htype _ _)
    · rfl
  · rw [hid]
    exact hs'.canonical.nodes found (Table.mem_of_find hfind)

theorem gives_recordNode (toLowerCase : Text → Text) (input : RecordNodeInput) :
    (recordNode toLowerCase input).Gives (Grown s) fun node => asUuid node.id = node.id := by
  refine Prog.Gives.bind (Prog.gives_act fun s' hs' => ⟨hs', trivial⟩ :
    Prog.Gives _ (fun _ => True) _) fun existing _ => ?_
  cases existing with
  | none => exact gives_createNode fun _ _ => rfl
  | some existing => exact gives_updateNode (fun _ _ => rfl) fun _ _ => rfl

theorem gives_ensureNodeForSignal (signal : ScamSignal) :
    (ensureNodeForSignal signal).Gives (Grown s) fun node => asUuid node.id = node.id := by
  refine Prog.Gives.bind (Prog.gives_act fun s' hs' => ⟨hs', trivial⟩ :
    Prog.Gives _ (fun _ => True) _) fun existing _ => ?_
  cases existing with
  | none => exact gives_createNode fun _ _ => rfl
  | some existing => exact gives_updateNode (fun _ _ => rfl) fun _ _ => rfl

end Nodes

/-! ## What a call does to the graph -/

/-- What every call keeps of a graph. -/
structure Kept (g g' : Graph) : Prop where
  grown : Grown g.store g'.store
  lawful : Lawful g'

/-- A call that leaves the memberships alone. -/
structure Apart (g g' : Graph) : Prop extends Kept g g' where
  linked : ∀ c n, Linked g' c n ↔ Linked g c n

section Programs

variable {g g' g'' : Graph} {α : Type} {Q : α → Prop} {c n : Uuid}

theorem Grown.refl {s : Store} (h : Canonical s) : Grown s s := ⟨h, fun _ _ h => h⟩

theorem Grown.trans {s s' s'' : Store} (h : Grown s s') (h' : Grown s' s'') : Grown s s'' :=
  ⟨h'.canonical, fun id t ht => h'.types id t (h.types id t ht)⟩

theorem Apart.refl (hcanonical : Canonical g.store) (hlawful : Lawful g) : Apart g g :=
  ⟨⟨Grown.refl hcanonical, hlawful⟩, fun _ _ => Iff.rfl⟩

theorem Apart.trans (h : Apart g g') (h' : Apart g' g'') : Apart g g'' :=
  ⟨⟨h.grown.trans h'.grown, h'.lawful⟩, fun c n => (h'.linked c n).trans (h.linked c n)⟩

theorem run_onNodes (p : Program α) (g : Graph) :
    (onNodes p).run g = ((p.run g.store).1, { g with store := (p.run g.store).2 }) :=
  Prog.run_onPart (fun _ _ _ => rfl) p g

/-- A program on the nodes leaves the edges alone. -/
theorem gives_onNodes {p : Program α} (hp : ∀ s, p.Gives (Grown s) Q) :
    (onNodes p).Gives (Apart g) Q := by
  intro g' hg'
  obtain ⟨hstate, hvalue⟩ := hp g'.store g'.store (Grown.refl hg'.grown.canonical)
  rw [run_onNodes]
  refine ⟨⟨⟨hg'.grown.trans hstate, hg'.lawful.withNodes hstate.types⟩, fun c n => ?_⟩, hvalue⟩
  exact hg'.linked c n

theorem gives_readGraph {f : Graph → α} (h : ∀ g', Apart g g' → Q (f g')) :
    (readGraph f).Gives (Apart g) Q :=
  Prog.gives_act fun g' hg' => ⟨hg', h g' hg'⟩

theorem run_upsertEdge (a b : Text) (edgeType : FraudGraphEdgeType) (weight : ℚ) (g : Graph) :
    (upsertEdge a b edgeType weight).run g =
      if a = b then (.ok false, g) else (.ok true, g.upsert (edgeKey a b edgeType) weight) := by
  by_cases h : a = b
  · simp [upsertEdge, h]
  · rw [upsertEdge, if_neg h, if_neg h]
    exact Prog.run_tryCatch_ok rfl

/-- An edge of another type, between two nodes of the database. -/
theorem gives_upsertEdge {a b : Uuid} {edgeType : FraudGraphEdgeType} {weight : ℚ}
    (ha : asUuid a = a) (hb : asUuid b = b) (htype : edgeType ≠ .campaignMembership) :
    (upsertEdge a b edgeType weight).Gives (Apart g) fun _ => True := by
  intro g' hg'
  rw [run_upsertEdge]
  by_cases hab : a = b
  · rw [if_pos hab]
    exact ⟨hg', fun _ _ => trivial⟩
  · rw [if_neg hab]
    obtain ⟨hordered, hpair⟩ : (edgeKey a b edgeType).1 < (edgeKey a b edgeType).2.1 ∧
        pairOf (edgeKey a b edgeType) = (s(asUuid a, asUuid b), edgeType) :=
      edgeKey_spec (by rwa [ha, hb]) (spelledInOrder_of_canonical ha hb)
    refine ⟨hg'.trans ⟨⟨⟨⟨?_, ?_⟩, ?_⟩, ?_⟩, fun c n => ?_⟩, fun _ _ => trivial⟩
    · rw [nodes_upsert]
      exact hg'.grown.canonical.nodes
    · rw [uuid_upsert]
      exact hg'.grown.canonical.fresh
    · rw [nodes_upsert]
      exact fun _ _ h => h
    · exact hg'.lawful.upsert hordered fun h => absurd h htype
    · rw [linked_upsert, hpair]
      refine or_iff_left fun h => htype (Prod.mk.inj h).2

theorem gives_linkEach {π : Type} {link : π → EdgeProgram Bool}
    (hlink : ∀ peer, (link peer).Gives (Apart g) fun _ => True) (peers : List π) :
    (linkEach link peers).Gives (Apart g) fun _ => True := by
  induction peers with
  | nil => exact Prog.gives_pure trivial
  | cons peer peers ih =>
    refine (hlink peer).bind fun _ _ => ih.bind fun _ _ => ?_
    exact Prog.gives_pure trivial

theorem gives_linkSignal {node : FraudGraphNode} {other : ScamSignal}
    {edgeType : FraudGraphEdgeType} {weight : ℚ} (hnode : asUuid node.id = node.id)
    (htype : edgeType ≠ .campaignMembership) :
    (linkSignal node other edgeType weight).Gives (Apart g) fun _ => True := by
  refine (gives_readGraph (Q := fun found => ∀ otherNode, found = some otherNode →
    asUuid otherNode.id = otherNode.id) fun g' hg' otherNode hfound => ?_).bind
      fun found hfound => ?_
  · exact hg'.grown.canonical.nodes otherNode (Table.mem_of_find hfound)
  · cases found with
    | none => exact Prog.gives_pure trivial
    | some otherNode => exact gives_upsertEdge hnode (hfound otherNode rfl) htype

/-- A signal that is processed leaves the memberships alone. -/
theorem gives_processSignal (signal : ScamSignal) :
    (processSignal signal).Gives (Apart g) fun _ => True := by
  refine (gives_onNodes fun _ => gives_ensureNodeForSignal signal).bind fun node hnode => ?_
  refine Prog.Gives.bind (Q := fun _ => True) ?_ fun _ _ =>
    Prog.Gives.bind (Q := fun _ => True) ?_ fun _ _ => Prog.gives_pure trivial
  · unfold linkClusterPeers
    cases present signal.clusterId with
    | none => exact Prog.gives_pure trivial
    | some clusterId =>
      refine (gives_readGraph (Q := fun _ => True) fun _ _ => trivial).bind fun siblings _ => ?_
      exact gives_linkEach (fun _ => gives_linkSignal hnode (by decide)) siblings
  · refine (gives_readGraph (Q := fun _ => True) fun _ _ => trivial).bind fun sims _ => ?_
    refine gives_linkEach (fun sim => ?_) sims
    refine (gives_readGraph (Q := fun _ => True) fun _ _ => trivial).bind fun other _ => ?_
    cases other with
    | none => exact Prog.gives_pure trivial
    | some other => exact gives_linkSignal hnode (by decide)

/-! ### The calls on campaigns -/

theorem typeOf_of_node {id : Text} {node : FraudGraphNode} (h : g.node id = some node) :
    typeOf (asUuid id) g.store.nodes = some node.nodeType :=
  congrArg (Option.map FraudGraphNode.nodeType) h

/-- What an addition needs: two names, one of a campaign and one of an indicator. -/
structure Addable (g : Graph) (a b : Text) : Prop where
  campaign : typeOf (asUuid a) g.store.nodes = some .campaign
  indicator : typeOf (asUuid b) g.store.nodes = some .indicator

theorem Addable.ne {a b : Text} (h : Addable g a b) : asUuid a ≠ asUuid b := by
  intro hab
  have hsame := h.campaign
  rw [hab, h.indicator] at hsame
  cases hsame

/-- `requireCampaign` of a campaign, and of anything else. -/
theorem run_requireCampaign (id : Text) (g : Graph) :
    (∃ campaign, g.node id = some campaign ∧ campaign.nodeType = .campaign ∧
        (requireCampaign id).run g = (.ok campaign, g)) ∨
      (typeOf (asUuid id) g.store.nodes ≠ some .campaign ∧
        ∃ e, (requireCampaign id).run g = (.error e, g)) := by
  cases hnode : g.node id with
  | none =>
    right
    refine ⟨?_, .notFound "Campaign not found", ?_⟩
    · rw [typeOf, show Table.find _ (asUuid id) g.store.nodes = none from hnode]
      simp
    · simp [requireCampaign, readGraph, hnode]
  | some node =>
    by_cases htype : node.nodeType = .campaign
    · left
      exact ⟨node, rfl, htype, by simp [requireCampaign, readGraph, hnode, htype]⟩
    · right
      refine ⟨?_, .notFound "Campaign not found", ?_⟩
      · rw [typeOf_of_node hnode]
        simpa using htype
      · simp [requireCampaign, readGraph, hnode, htype]

theorem run_addCampaignMember_of_addable {a b : Text} (h : Addable g a b) :
    ∃ node, (addCampaignMember a b).run g =
      (.ok node, g.upsert (edgeKey a b .campaignMembership) 1) := by
  have hne : a ≠ b := fun hab => h.ne (congrArg asUuid hab)
  obtain ⟨node, hfound, htype⟩ := Option.map_eq_some_iff.mp h.indicator
  have hnode : g.node b = some node := hfound
  have hupsert := run_upsertEdge a b .campaignMembership 1 g
  rw [if_neg hne] at hupsert
  rcases run_requireCampaign a g with ⟨campaign, -, -, hrun⟩ | ⟨hnot, -⟩
  · exact ⟨node, by simp [addCampaignMember, hne, hrun, readGraph, hnode, htype, hupsert]⟩
  · exact absurd h.campaign hnot

theorem run_addCampaignMember_of_not_addable {a b : Text} (h : ¬ Addable g a b) :
    ∃ e, (addCampaignMember a b).run g = (.error e, g) := by
  by_cases hab : a = b
  · exact ⟨.badRequest "A campaign cannot reference itself", by simp [addCampaignMember, hab]⟩
  · rcases run_requireCampaign a g with ⟨campaign, hcampaign, hctype, hrun⟩ | ⟨-, e, hrun⟩
    · cases hnode : g.node b with
      | none =>
        exact ⟨.notFound "Indicator node not found",
          by simp [addCampaignMember, hab, hrun, readGraph, hnode]⟩
      | some node =>
        have htype : node.nodeType ≠ .indicator := by
          intro htype
          refine h ⟨?_, ?_⟩
          · rw [typeOf_of_node hcampaign, hctype]
          · rw [typeOf_of_node hnode, htype]
        exact ⟨.badRequest "Campaign members must be INDICATOR nodes",
          by simp [addCampaignMember, hab, hrun, readGraph, hnode, htype]⟩
    · exact ⟨e, by simp [addCampaignMember, hab, hrun]⟩

theorem run_removeCampaignMember (a b : Text) (g : Graph) :
    ((removeCampaignMember a b).run g).2.store = g.store ∧
      ((removeCampaignMember a b).run g).2.keys =
        g.keys.filter (· ≠ edgeKey a b .campaignMembership) := by
  let key := edgeKey a b .campaignMembership
  have hfilter : (g.edges.filter fun edge => edge.key ≠ key).map FraudGraphEdge.key =
      g.keys.filter (· ≠ key) := by
    rw [Graph.keys, List.filter_map]
    rfl
  cases hfind : Table.find FraudGraphEdge.key key g.edges with
  | some edge =>
    have hdelete : (deleteEdge key).run g = _ := Prog.run_attempt_some (by rw [hfind]; rfl)
    rw [removeCampaignMember, Prog.run_tryCatch_ok hdelete]
    exact ⟨rfl, hfilter⟩
  | none =>
    have hdelete : (deleteEdge key).run g = (.error .internal, g) :=
      Prog.run_attempt_none (by rw [hfind]; rfl)
    rw [removeCampaignMember, Prog.run_tryCatch_error hdelete]
    refine ⟨rfl, (List.filter_eq_self.mpr fun key' hkey' => ?_).symm⟩
    have hmem := Table.find_eq_none_iff.mp hfind
    refine decide_eq_true fun hsame => hmem ?_
    have hsame' : key' = key := hsame
    exact hsame' ▸ hkey'

end Programs

end FraudGraph
