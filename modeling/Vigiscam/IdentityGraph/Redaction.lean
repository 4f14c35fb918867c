import Vigiscam.IdentityGraph.Recording

/-!
# No personal data through the graph

Intake and the other modules record any text as an indicator of any type. A handle, a short number
or whatever else has none of the shapes of the masker is shown by its label, so the reads show it
as it was found (`handle_shown`). `shows_nobody`: nobody's indicator or label is shown where each
indicator of a person that gets a row has a shape that hides it, and only there.
-/

namespace IdentityGraph

open Js Concurrency FraudGraph ScamSignals

/-! ## What the reads show -/

/-- A value that a read shows of a node. -/
inductive Shown (toLowerCase : Text → Text) (contains : Text → Text → Bool) (g : Graph)
    (node : FraudGraphNode) : Text → Prop
  | search (dto : SearchGraphDto) {rows : List MaskedSearchResult} {row : MaskedSearchResult}
    (hrun : ((search toLowerCase contains dto).run g).1 = .ok rows) (hrow : row ∈ rows)
    (hid : row.id = node.id) : Shown toLowerCase contains g node row.display
  | cluster (platform : EvidenceVault.Files.Platform) (user : AuthenticatedUser)
    (campaignNodeId : Text) (dto : ExportClusterDto) {s : Store} {snapshot : ClusterSnapshot}
    {evidenceEventId : Uuid} {row : MaskedSearchResult} (hgraph : s.graph = g)
    (hrun : ((exportCluster platform user campaignNodeId dto).run s).1 =
      .ok (snapshot, evidenceEventId))
    (hrow : row ∈ snapshot.members) (hid : row.id = node.id) :
    Shown toLowerCase contains g node row.display
  /-- A drawn node has no id: it stands where the node of the graph does. -/
  | collision (dto : CollisionSearchDto) {seed : FraudGraphNode}
    {rest collected : List FraudGraphNode}
    {result : CollisionResult} {drawn : CollisionNode}
    (hseed : candidates contains dto g = seed :: rest)
    (hcollected : ((collectNeighbourhood seed).run g).1 = .ok collected)
    (hrun : ((collisionSearch contains dto).run g).1 = .ok result)
    (hdrawn : (node, drawn) ∈ (seed :: memberNodes seed collected).zip result.nodes) :
    Shown toLowerCase contains g node drawn.value

section Reads

variable {toLowerCase : Text → Text} {contains : Text → Text → Bool} {g : Graph}
  {node : FraudGraphNode} {v : Text}

theorem mem_byRisk {rows : List FraudGraphNode} : node ∈ byRisk rows ↔ node ∈ rows :=
  List.mem_insertionSort _

/-- A row with the id of a node is of that node. -/
theorem display_of_id (hids : (g.store.nodes.map FraudGraphNode.id).Nodup)
    (hnode : node ∈ g.store.nodes) {found : FraudGraphNode} (hfound : found ∈ g.store.nodes)
    (hid : (toMaskedSearchResult found).id = node.id) :
    (toMaskedSearchResult found).display = display node := by
  rw [List.inj_on_of_nodup_map hids hfound hnode hid]
  rfl

@[simp] theorem run_readGraph {α : Type} (f : Graph → α) (g : Graph) :
    (readGraph f).run g = (.ok (f g), g) := rfl

@[simp] theorem run_onGraph_readGraph {α : Type} (f : Graph → α) (s : Store) :
    (onGraph (readGraph f)).run s = (.ok (f s.graph), s) := rfl

/-- Collecting reads the graph, and leaves it as it is. -/
theorem reads_collectHops (hops : Nat) (byId : List FraudGraphNode) (frontier : List Uuid) :
    (collectHops hops byId frontier).Each fun _ s s' => s' = s := by
  induction hops generalizing byId frontier with
  | zero => exact Prog.Each.pure byId
  | succ hops ih =>
    rw [collectHops]
    by_cases hfull : MAX_NODES ≤ byId.length
    · rw [if_pos hfull]
      exact Prog.Each.pure byId
    · rw [if_neg hfull]
      refine Prog.Each.bind (Prog.Each.act fun _ => rfl) fun edges => ?_
      by_cases hnone : (nextIds byId edges).take (MAX_NODES - byId.length) = []
      · simp only [if_pos hnone]
        exact Prog.Each.pure byId
      · simp only [if_neg hnone]
        exact Prog.Each.bind (Prog.Each.act fun _ => rfl) fun fetched => ih _ _

theorem run_collectNeighbourhood (seed : FraudGraphNode) :
    ((collectNeighbourhood seed).run g).2 = g :=
  Prog.Each.run (I := (· = g))
    ((reads_collectHops 2 [seed] [seed.id]).mono fun _ _ _ hsame hg => hsame.trans hg) rfl

theorem zip_map_self {α β : Type} {l : List α} {f : α → β} {a : α} {b : β}
    (h : (a, b) ∈ l.zip (l.map f)) : b = f a := by
  have hzip : l.zip (l.map f) = l.map fun a => (a, f a) := by
    simpa using List.zip_map' (f := id) (g := f) (l := l)
  rw [hzip] at h
  obtain ⟨a', -, heq⟩ := List.mem_map.mp h
  rw [← (Prod.mk.inj heq).2, (Prod.mk.inj heq).1]

/-- The nodes that are drawn, in their order. -/
theorem collision_value {dto : CollisionSearchDto} {seed : FraudGraphNode}
    {rest collected : List FraudGraphNode} {result : CollisionResult} {drawn : CollisionNode}
    (hseed : candidates contains dto g = seed :: rest)
    (hcollected : ((collectNeighbourhood seed).run g).1 = .ok collected)
    (hrun : ((collisionSearch contains dto).run g).1 = .ok result)
    (hdrawn : (node, drawn) ∈ (seed :: memberNodes seed collected).zip result.nodes) :
    drawn.value = display node := by
  have hcollect : (collectNeighbourhood seed).run g = (.ok collected, g) :=
    Prod.ext hcollected (run_collectNeighbourhood seed)
  have hresult : result.nodes = toCollisionNode seed (some "Primary identifier")
      :: (memberNodes seed collected).map fun node => toCollisionNode node none := by
    rw [collisionSearch, Prog.run_bind, run_readGraph, Prog.andThen_ok, hseed] at hrun
    have hrun' : ((collectNeighbourhood seed >>= fun collected =>
        (pure (cluster (trim dto.query) dto.searchType seed collected) :
          EdgeProgram CollisionResult)).run g).1 = .ok result := hrun
    rw [Prog.run_bind, hcollect] at hrun'
    obtain rfl := Except.ok.inj hrun'
    rfl
  rw [hresult, List.zip_cons_cons, List.mem_cons] at hdrawn
  rcases hdrawn with hfirst | hmember
  · obtain ⟨rfl, rfl⟩ := Prod.mk.inj hfirst
    rfl
  · rw [zip_map_self hmember]
    rfl

theorem exportCluster_members {platform : EvidenceVault.Files.Platform} {user : AuthenticatedUser}
    {campaignNodeId : Text} {dto : ExportClusterDto} {s : Store} {snapshot : ClusterSnapshot}
    {evidenceEventId : Uuid} {row : MaskedSearchResult}
    (hrun : ((exportCluster platform user campaignNodeId dto).run s).1 =
      .ok (snapshot, evidenceEventId)) (hrow : row ∈ snapshot.members) :
    ∃ found ∈ s.graph.store.nodes, row = toMaskedSearchResult found := by
  cases hnode : s.graph.node campaignNodeId with
  | none => simp [exportCluster, hnode] at hrun
  | some campaign =>
    by_cases htype : campaign.nodeType = .campaign
    · let edges := touching s.graph campaignNodeId
      let members := s.graph.store.nodes.filter fun node => node.id ∈ memberIds campaignNodeId edges
      let append : Program Uuid := (EvidenceVault.Files.appendEvidence platform
        (reportEvent user campaign members edges dto)).onPart vaultPart .vault
      have hsnapshot : ((append >>= fun id =>
          (pure (buildSnapshot campaign members edges, id) : Program _)).run s).1 =
          .ok (snapshot, evidenceEventId) := by
        simpa [exportCluster, hnode, htype] using hrun
      obtain ⟨id, t, -, hpure⟩ := Prog.run_bind_eq_ok (Prod.ext hsnapshot rfl)
      obtain ⟨rfl, -⟩ := Prod.mk.inj (Except.ok.inj (Prod.mk.inj hpure).1)
      obtain ⟨found, hfound, rfl⟩ := List.mem_map.mp hrow
      exact ⟨found, (List.mem_filter.mp hfound).1, rfl⟩
    · simp [exportCluster, hnode, htype] at hrun

/-- **What a read shows** of a node is its display value. -/
theorem shown_display (hids : (g.store.nodes.map FraudGraphNode.id).Nodup)
    (hnode : node ∈ g.store.nodes) (h : Shown toLowerCase contains g node v) :
    v = display node := by
  cases h with
  | search dto hrun hrow hid =>
    obtain rfl := Except.ok.inj hrun
    obtain ⟨found, hfound, rfl⟩ := List.mem_map.mp hrow
    refine display_of_id hids hnode ?_ hid
    exact (List.mem_filter.mp (mem_byRisk.mp (List.mem_of_mem_take hfound))).1
  | cluster platform user campaignNodeId dto hgraph hrun hrow hid =>
    subst hgraph
    obtain ⟨found, hfound, rfl⟩ := exportCluster_members hrun hrow
    exact display_of_id hids hnode hfound hid
  | collision dto hseed hcollected hrun hdrawn =>
    exact collision_value hseed hcollected hrun hdrawn

end Reads

/-! ## Runs -/

/-- What a call has to be, so that nobody's indicator or label is shown. -/
def Keeps (toLowerCase : Text → Text) (g : Graph) : GraphCall → Prop
  | .recordNode input => KeepsFinding toLowerCase g.store input
  | .processSignal signal => Redacts g.store signal.indicatorType signal.normalizedIndicator
  | .createCampaign _ | .addCampaignMember _ _ | .removeCampaignMember _ _ | .others _ _ _ => True

/-- The signal of the call is as the intake has it. -/
def OfIntake (toLowerCase : Text → Text) : GraphCall → Prop
  | .processSignal signal => Normalized toLowerCase signal
  | _ => True

section Runs

variable {toLowerCase : Text → Text} {g g₀ : Graph} {nodes : List FraudGraphNode}
  {call : GraphCall} {calls : List GraphCall}

/-- Linking a signal writes edges only. -/
theorem nodes_upsertEdge (a b : Text) (edgeType : FraudGraphEdgeType) (weight : ℚ) :
    (upsertEdge a b edgeType weight).Each fun _ g g' => g'.store.nodes = g.store.nodes := by
  unfold upsertEdge
  by_cases hsame : a = b
  · rw [if_pos hsame]
    exact Prog.Each.pure false
  · rw [if_neg hsame]
    refine Prog.Each.tryCatch (Prog.Each.bind (Prog.Each.act fun g => ?_) fun _ => Prog.Each.pure _)
      fun _ => Prog.Each.pure _
    exact nodes_upsert _ _

theorem nodes_linkEach {π : Type} {link : π → EdgeProgram Bool}
    (hlink : ∀ peer, (link peer).Each fun _ g g' => g'.store.nodes = g.store.nodes)
    (peers : List π) :
    (linkEach link peers).Each fun _ g g' => g'.store.nodes = g.store.nodes := by
  induction peers with
  | nil => exact Prog.Each.pure 0
  | cons peer peers ih =>
    exact (hlink peer).bind fun _ => ih.bind fun _ => Prog.Each.pure _

theorem nodes_linkSignal (node : FraudGraphNode) (other : ScamSignal)
    (edgeType : FraudGraphEdgeType) (weight : ℚ) :
    (linkSignal node other edgeType weight).Each fun _ g g' => g'.store.nodes = g.store.nodes := by
  refine Prog.Each.bind (Prog.Each.act fun _ => rfl) fun found => ?_
  cases found with
  | none => exact Prog.Each.pure false
  | some otherNode => exact nodes_upsertEdge ..

theorem nodes_processSignal (signal : ScamSignal) :
    ((processSignal signal).run g).2.store.nodes =
      ((ensureNodeForSignal signal).run g.store).2.nodes := by
  have hlinks : ∀ node, (do
      let clusterEdges ← linkClusterPeers node signal
      let similarityEdges ← linkSimilarityPeers node signal
      return ({ node, clusterEdges, similarityEdges } : ProcessSignalResult) :
        EdgeProgram ProcessSignalResult).Each fun _ g g' => g'.store.nodes = g.store.nodes := by
    intro node
    refine Prog.Each.bind ?_ fun _ => Prog.Each.bind ?_ fun _ => Prog.Each.pure _
    · unfold linkClusterPeers
      cases present signal.clusterId with
      | none => exact Prog.Each.pure 0
      | some clusterId =>
        refine Prog.Each.bind (Prog.Each.act fun _ => rfl) fun siblings => ?_
        exact nodes_linkEach (fun sib => nodes_linkSignal ..) siblings
    · refine Prog.Each.bind (Prog.Each.act fun _ => rfl) fun sims => ?_
      refine nodes_linkEach (fun sim => ?_) sims
      refine Prog.Each.bind (Prog.Each.act fun _ => rfl) fun other => ?_
      cases other with
      | none => exact Prog.Each.pure false
      | some other => exact nodes_linkSignal ..
  rw [processSignal, Prog.run_bind, run_onNodes]
  cases hresult : ((ensureNodeForSignal signal).run g.store).1 with
  | error e => rfl
  | ok node =>
    let after : Graph := { g with store := ((ensureNodeForSignal signal).run g.store).2 }
    exact Prog.Each.run (I := fun g' => g'.store.nodes = after.store.nodes) (s := after)
      ((hlinks node).mono fun _ _ _ hsame hg => hsame.trans hg) rfl

/-- **What a call does** to the rows. -/
theorem call_step (hlower : LowerCaseParts toLowerCase) (hsound : Sound toLowerCase g.store.nodes)
    (hmasked : Masked g.store.nodes) (hcall : OfIntake toLowerCase call) :
    Sound toLowerCase (call.exec toLowerCase g).store.nodes ∧
      (Masked (call.exec toLowerCase g).store.nodes ↔ Keeps toLowerCase g call) := by
  have hsame : ∀ {g' : Graph}, g'.store.nodes = g.store.nodes →
      Sound toLowerCase g'.store.nodes ∧ (Masked g'.store.nodes ↔ True) := by
    intro g' hnodes
    rw [hnodes]
    exact ⟨hsound, iff_true_intro hmasked⟩
  cases call with
  | recordNode input =>
    rw [GraphCall.exec, run_onNodes]
    exact recordNode_step hlower hsound hmasked
  | processSignal signal =>
    rw [GraphCall.exec, nodes_processSignal]
    exact ensureNodeForSignal_step hlower hsound hmasked hcall
  | createCampaign input =>
    rw [GraphCall.exec, createCampaign, run_onNodes]
    refine ⟨⟨nodup_createNode hsound.ids, ?_⟩, iff_true_intro ?_⟩
    · exact (forall_createNode hsound.recorded).mpr fun _ h => by cases h
    · refine (forall_createNode hmasked).mpr fun _ h => ?_
      rcases h with h | ⟨h, -⟩
      · cases h
      · cases h
  | addCampaignMember a b =>
    refine hsame ?_
    by_cases haddable : Addable g a b
    · obtain ⟨node, hrun⟩ := run_addCampaignMember_of_addable haddable
      rw [GraphCall.exec, hrun]
      exact nodes_upsert _ _
    · obtain ⟨e, hrun⟩ := run_addCampaignMember_of_not_addable haddable
      rw [GraphCall.exec, hrun]
  | removeCampaignMember a b =>
    exact hsame (congrArg FraudGraph.Store.nodes (run_removeCampaignMember a b g).1)
  | others signals similarities now => exact hsame rfl

/-- The conditions of a run: the profiles, faces and voices of its start can be shown, and every
call keeps what is shown masked. -/
structure Careful (toLowerCase : Text → Text) (g₀ : Graph) (calls : List GraphCall) : Prop where
  start : ∀ node ∈ g₀.store.nodes, isSensitiveType node.nodeType → Discreet node
  keeps : ∀ before call, before ++ [call] <+: calls →
    Keeps toLowerCase (after (GraphCall.exec toLowerCase) g₀ before) call

/-- A call of a run is one of its calls. -/
theorem mem_of_moment {before : List GraphCall} (h : before ++ [call] <+: calls) : call ∈ calls :=
  h.subset (by simp)

theorem Careful.masked (hcareful : Careful toLowerCase g₀ calls)
    (hlower : LowerCaseParts toLowerCase) (hids : (g₀.store.nodes.map FraudGraphNode.id).Nodup)
    (hnew : ∀ node ∈ g₀.store.nodes, node.nodeType ≠ .indicator)
    (hintake : ∀ call ∈ calls, OfIntake toLowerCase call) :
    ∀ before, before <+: calls →
      Sound toLowerCase (after (GraphCall.exec toLowerCase) g₀ before).store.nodes ∧
        Masked (after (GraphCall.exec toLowerCase) g₀ before).store.nodes := by
  refine forall_prefix ⟨⟨hids, fun node hnode h => absurd h (hnew node hnode)⟩, ?_⟩ ?_
  · rintro node hnode (htype | ⟨htype, -⟩)
    · exact (discreet_iff htype).mp (hcareful.start node hnode htype)
    · exact absurd htype (hnew node hnode)
  · intro before call hmoment hbefore
    rw [after_concat]
    obtain ⟨hsound, hiff⟩ := call_step hlower hbefore.1 hbefore.2
      (hintake call (mem_of_moment hmoment))
    exact ⟨hsound, hiff.mpr (hcareful.keeps before call hmoment)⟩

/-- A run that shows nobody is careful. -/
theorem careful_of_masked (hlower : LowerCaseParts toLowerCase)
    (hids : (g₀.store.nodes.map FraudGraphNode.id).Nodup)
    (hnew : ∀ node ∈ g₀.store.nodes, node.nodeType ≠ .indicator)
    (hintake : ∀ call ∈ calls, OfIntake toLowerCase call)
    (hmasked : ∀ before, before <+: calls →
      Masked (after (GraphCall.exec toLowerCase) g₀ before).store.nodes) :
    Careful toLowerCase g₀ calls := by
  have hsound : ∀ before, before <+: calls →
      Sound toLowerCase (after (GraphCall.exec toLowerCase) g₀ before).store.nodes := by
    refine forall_prefix ⟨hids, fun node hnode h => absurd h (hnew node hnode)⟩ ?_
    intro before call hmoment hbefore
    rw [after_concat]
    have hprefix : before <+: calls := (List.prefix_append before [call]).trans hmoment
    exact (call_step hlower hbefore (hmasked before hprefix)
      (hintake call (mem_of_moment hmoment))).1
  refine ⟨fun node hnode htype => ?_, fun before call hmoment => ?_⟩
  · exact (discreet_iff htype).mpr (hmasked [] List.nil_prefix node hnode (Or.inl htype))
  · have hprefix : before <+: calls := (List.prefix_append before [call]).trans hmoment
    have hafter := hmasked _ hmoment
    rw [after_concat] at hafter
    exact (call_step hlower (hsound before hprefix) (hmasked before hprefix)
      (hintake call (mem_of_moment hmoment))).2.mp hafter

/-- **No personal data through the graph**: in a run that starts without indicators, the searches
and the exports show nobody's indicator or label where the run is careful, and no display value has
one at any moment only then. -/
theorem shows_nobody (hlower : LowerCaseParts toLowerCase)
    (hids : (g₀.store.nodes.map FraudGraphNode.id).Nodup)
    (hnew : ∀ node ∈ g₀.store.nodes, node.nodeType ≠ .indicator)
    (hintake : ∀ call ∈ calls, OfIntake toLowerCase call) :
    (Careful toLowerCase g₀ calls → ∀ before, before <+: calls → ∀ contains,
      ∀ node ∈ (after (GraphCall.exec toLowerCase) g₀ before).store.nodes, Sensitive node →
        ∀ v, Shown toLowerCase contains (after (GraphCall.exec toLowerCase) g₀ before) node v →
          ¬ Reveals v node) ∧
    ((∀ before, before <+: calls →
      ∀ node ∈ (after (GraphCall.exec toLowerCase) g₀ before).store.nodes, Sensitive node →
        ¬ Reveals (display node) node) → Careful toLowerCase g₀ calls) := by
  refine ⟨fun hcareful before hmoment contains node hnode hsensitive v hshown => ?_,
    fun hmasked => ?_⟩
  · obtain ⟨hsound, hmasked⟩ := hcareful.masked hlower hids hnew hintake before hmoment
    rw [shown_display hsound.ids hnode hshown]
    exact hmasked node hnode hsensitive
  · exact careful_of_masked hlower hids hnew hintake hmasked

end Runs

/-! ## A handle, and an address -/

namespace Sample

/-- An address is found. -/
def address : List GraphCall := [.recordNode ⟨.email, "Mallory@evil.example", none, none⟩]

/-- A handle is found, which no shape hides. -/
def handle : RecordNodeInput := ⟨.socialProfile, "@alice_w", none, none⟩

/-- `ILIKE` of an ASCII text. -/
def contains (q column : Text) : Bool := decide (lowerAscii q <:+: lowerAscii column)

def reached (calls : List GraphCall) : Graph :=
  after (GraphCall.exec lowerAscii) FraudGraph.Sample.graph calls

def row : FraudGraphNode :=
  newNode lowerAscii handle FraudGraph.Sample.now FraudGraph.Sample.campaignId

end Sample

open Sample in
theorem careful_address : Careful lowerAscii FraudGraph.Sample.graph address := by
  refine ⟨fun node hnode => absurd hnode List.not_mem_nil, fun before call hmoment => ?_⟩
  obtain ⟨hbefore, hcall⟩ : before = [] ∧
      call = .recordNode ⟨.email, "Mallory@evil.example", none, none⟩ := by
    obtain ⟨rest, hrest⟩ := hmoment
    cases before with
    | nil => exact ⟨rfl, (List.cons.inj hrest).1⟩
    | cons first before => exact absurd (List.cons.inj hrest).2 (by simp)
  subst hbefore hcall
  refine ⟨fun _ _ _ => ?_, fun node hnode => by cases hnode⟩
  exact Or.inl ⟨"mallory", "evil.example", ⟨by decide, by decide, by decide, by decide, by decide⟩,
    0x61, by decide, by decide⟩

open Sample in
/-- An address is on record, and no answer shows it. -/
theorem shows_nobody_address :
    (∃ node ∈ (reached address).store.nodes, Sensitive node) ∧
      ∀ before, before <+: address → ∀ contains, ∀ node ∈ (reached before).store.nodes,
        Sensitive node → ∀ v, Shown lowerAscii contains (reached before) node v →
          ¬ Reveals v node := by
  refine ⟨⟨_, List.mem_singleton_self _, Or.inr ⟨rfl, rfl⟩⟩, ?_⟩
  exact (shows_nobody lowerCaseParts_lowerAscii (by decide)
    (fun node hnode => absurd hnode List.not_mem_nil)
    (fun call hcall => by rw [List.mem_singleton.mp hcall]; trivial)).1 careful_address

open Sample in
/-- The search shows the handle as it was found. -/
theorem handle_shown :
    ∃ node ∈ (reached [.recordNode handle]).store.nodes, Sensitive node ∧
      Shown lowerAscii contains (reached [.recordNode handle]) node (utf16 "@alice_w") ∧
      Reveals (utf16 "@alice_w") node := by
  have hnodes : (reached [.recordNode handle]).store.nodes = [row] := rfl
  have hdisplay : (toMaskedSearchResult row).display = utf16 "@alice_w" := by decide
  have hrun : ((search lowerAscii contains ⟨"alice", none, none, none⟩).run
      (reached [.recordNode handle])).1 = .ok [toMaskedSearchResult row] := by
    have hselects :
        SearchGraphDto.selects lowerAscii contains ⟨"alice", none, none, none⟩ row = true := by
      decide
    simp [search, hnodes, hselects, byRisk]
  refine ⟨row, by rw [hnodes]; exact List.mem_singleton_self row, ?_, ?_, Or.inl List.infix_rfl⟩
  · exact Or.inr ⟨rfl, rfl⟩
  · rw [← hdisplay]
    exact Shown.search _ hrun (List.mem_singleton_self _) rfl

end IdentityGraph
