import Vigiscam.Concurrency.Calls
import Vigiscam.FraudGraph.Invariants

/-!
# The campaign graph

The order of the two ids of an edge, and the end that a reader takes for the member, go by the
spelling of the ids in the request, and the row that they name does not: a campaign that is named
in upper case gets its edges the wrong way round, and they are not found again
(`misspelled_membership`). Where the ids of a request compare as those of the rows do, the edges
are in order and unique, and a campaign has the members that were added to it and not removed
since (`campaign_graph`).
-/

namespace FraudGraph

open Js Concurrency ScamSignals

/-! ## Runs -/

inductive GraphCall where
  | createCampaign (input : CreateCampaignInput)
  | addCampaignMember (campaignId nodeId : Text)
  | removeCampaignMember (campaignId nodeId : Text)
  | recordNode (input : RecordNodeInput)
  | processSignal (signal : ScamSignal)
  /-- What the other services write: the signals, their similarities, and the clock. -/
  | others (signals : List ScamSignal) (similarities : List SignalSimilarity) (now : Date)

namespace GraphCall

/-- The graph after a call that nobody interrupts. -/
def exec (toLowerCase : Text → Text) : GraphCall → Graph → Graph
  | createCampaign input, g => ((FraudGraph.createCampaign input).run g).2
  | addCampaignMember a b, g => ((FraudGraph.addCampaignMember a b).run g).2
  | removeCampaignMember a b, g => ((FraudGraph.removeCampaignMember a b).run g).2
  | recordNode input, g => ((onNodes (FraudGraph.recordNode toLowerCase input)).run g).2
  | processSignal signal, g => ((FraudGraph.processSignal signal).run g).2
  | others signals similarities now, g =>
    { g with signals, similarities, store := { g.store with now } }

/-- The ids of the call compare as those of the rows that they name. -/
def Spelled : GraphCall → Prop
  | addCampaignMember a b | removeCampaignMember a b => SpelledInOrder a b
  | createCampaign _ | recordNode _ | processSignal _ | others _ _ _ => True

end GraphCall

section Runs

variable (toLowerCase : Text → Text) (g₀ : Graph)

/-- The last call has added the node to the campaign. -/
def JustAdded (c n : Uuid) (calls : List GraphCall) : Prop :=
  ∃ before a b, calls = before ++ [.addCampaignMember a b] ∧ asUuid a = c ∧ asUuid b = n ∧
    ∃ node, ((addCampaignMember a b).run (after (GraphCall.exec toLowerCase) g₀ before)).1 =
      .ok node

/-- The last call has removed the one of the two nodes from the other. -/
def JustRemoved (c n : Uuid) (calls : List GraphCall) : Prop :=
  ∃ before a b, calls = before ++ [.removeCampaignMember a b] ∧ s(asUuid a, asUuid b) = s(c, n)

/-- The last addition of the node to the campaign was not followed by a removal. -/
def Member (c n : Uuid) : List GraphCall → Prop :=
  Since (JustAdded toLowerCase g₀ c n) fun calls => ¬ JustRemoved c n calls

variable {toLowerCase g₀} {calls : List GraphCall} {call : GraphCall} {c n : Uuid} {g : Graph}

theorem justAdded_concat :
    JustAdded toLowerCase g₀ c n (calls ++ [call]) ↔
      ∃ a b, call = .addCampaignMember a b ∧ asUuid a = c ∧ asUuid b = n ∧
        ∃ node, ((addCampaignMember a b).run
          (after (GraphCall.exec toLowerCase) g₀ calls)).1 = .ok node := by
  constructor
  · rintro ⟨before, a, b, hcalls, h⟩
    obtain ⟨rfl, hcall⟩ := List.append_inj' hcalls rfl
    exact ⟨a, b, List.singleton_inj.mp hcall, h⟩
  · rintro ⟨a, b, rfl, h⟩
    exact ⟨calls, a, b, rfl, h⟩

theorem justRemoved_concat :
    JustRemoved c n (calls ++ [call]) ↔
      ∃ a b, call = .removeCampaignMember a b ∧ s(asUuid a, asUuid b) = s(c, n) := by
  constructor
  · rintro ⟨before, a, b, hcalls, h⟩
    obtain ⟨rfl, hcall⟩ := List.append_inj' hcalls rfl
    exact ⟨a, b, List.singleton_inj.mp hcall, h⟩
  · rintro ⟨a, b, rfl, h⟩
    exact ⟨calls, a, b, rfl, h⟩

/-- The graph agrees with the history of its calls. -/
structure Faithful (toLowerCase : Text → Text) (g₀ g : Graph) (calls : List GraphCall) : Prop where
  canonical : Canonical g.store
  lawful : Lawful g
  members : ∀ c n, typeOf c g.store.nodes ≠ some .indicator →
    (Linked g c n ↔ Member toLowerCase g₀ c n calls)

/-- A call that neither adds nor removes a member. -/
theorem Faithful.apart {g' : Graph} (h : Faithful toLowerCase g₀ g calls) (hapart : Apart g g')
    (hadd : ∀ a b, call ≠ .addCampaignMember a b)
    (hremove : ∀ a b, call ≠ .removeCampaignMember a b) :
    Faithful toLowerCase g₀ g' (calls ++ [call]) := by
  refine ⟨hapart.grown.canonical, hapart.lawful, fun c n htype => ?_⟩
  rw [Member, since_concat, justAdded_concat, justRemoved_concat, hapart.linked,
    h.members c n fun hindicator => htype (hapart.grown.types _ _ hindicator)]
  constructor
  · intro hmember
    refine Or.inr ⟨hmember, ?_⟩
    rintro ⟨a, b, hcall, -⟩
    exact hremove a b hcall
  · rintro (⟨a, b, hcall, -⟩ | ⟨hmember, -⟩)
    · exact absurd hcall (hadd a b)
    · exact hmember

theorem joinsCampaign_edgeKey {a b : Text} (h : Addable g a b) :
    JoinsCampaign g.store.nodes (edgeKey a b .campaignMembership) := by
  by_cases hlt : a < b
  · rw [edgeKey, canonicalPair, if_pos hlt]
    exact Or.inl ⟨h.campaign, h.indicator⟩
  · rw [edgeKey, canonicalPair, if_neg hlt]
    exact Or.inr ⟨h.indicator, h.campaign⟩

theorem Faithful.add {a b : Text}
    (h : Faithful toLowerCase g₀ (after (GraphCall.exec toLowerCase) g₀ calls) calls)
    (hspelled : SpelledInOrder a b) :
    Faithful toLowerCase g₀
      ((GraphCall.addCampaignMember a b).exec toLowerCase
        (after (GraphCall.exec toLowerCase) g₀ calls))
      (calls ++ [.addCampaignMember a b]) := by
  by_cases haddable : Addable (after (GraphCall.exec toLowerCase) g₀ calls) a b
  · obtain ⟨node, hrun⟩ := run_addCampaignMember_of_addable haddable
    obtain ⟨hordered, hpair⟩ : _ ∧ pairOf (edgeKey a b .campaignMembership) =
        (s(asUuid a, asUuid b), .campaignMembership) := edgeKey_spec haddable.ne hspelled
    rw [GraphCall.exec, hrun]
    refine ⟨⟨?_, ?_⟩, h.lawful.upsert hordered fun _ => joinsCampaign_edgeKey haddable,
      fun c n htype => ?_⟩
    · rw [nodes_upsert]
      exact h.canonical.nodes
    · rw [uuid_upsert]
      exact h.canonical.fresh
    · rw [nodes_upsert] at htype
      rw [linked_upsert, hpair, Member, since_concat, justAdded_concat, justRemoved_concat,
        h.members c n htype]
      constructor
      · rintro (hmember | hnew)
        · refine Or.inr ⟨hmember, ?_⟩
          rintro ⟨_, _, hcall, -⟩
          cases hcall
        · rcases Sym2.eq_iff.mp (Prod.mk.inj hnew).1 with ⟨hc, hn⟩ | ⟨-, hc⟩
          · exact Or.inl ⟨a, b, rfl, hc, hn, node, congrArg Prod.fst hrun⟩
          · -- the member that was added is no campaign
            exact absurd (hc ▸ haddable.indicator) htype
      · rintro (⟨a', b', hcall, rfl, rfl, -⟩ | ⟨hmember, -⟩)
        · obtain ⟨rfl, rfl⟩ := GraphCall.addCampaignMember.inj hcall
          exact Or.inr rfl
        · exact Or.inl hmember
  · obtain ⟨e, hrun⟩ := run_addCampaignMember_of_not_addable haddable
    rw [GraphCall.exec, hrun]
    refine ⟨h.canonical, h.lawful, fun c n htype => ?_⟩
    rw [Member, since_concat, justAdded_concat, justRemoved_concat, h.members c n htype]
    constructor
    · intro hmember
      refine Or.inr ⟨hmember, ?_⟩
      rintro ⟨_, _, hcall, -⟩
      cases hcall
    · rintro (⟨a', b', hcall, -, -, node, hok⟩ | ⟨hmember, -⟩)
      · obtain ⟨rfl, rfl⟩ := GraphCall.addCampaignMember.inj hcall
        rw [hrun] at hok
        cases hok
      · exact hmember

/-- No edge joins a node with itself. -/
theorem Lawful.not_linked_self (h : Lawful g) (c : Uuid) : ¬ Linked g c c := by
  intro hlinked
  obtain ⟨key, hkey, hpair⟩ := List.mem_map.mp hlinked
  have hlt := h.ordered key hkey
  rcases Sym2.eq_iff.mp (Prod.mk.inj hpair).1 with ⟨hsource, htarget⟩ | ⟨hsource, htarget⟩ <;>
    · rw [hsource, htarget] at hlt
      exact lt_irrefl _ hlt

/-- A removal takes the edge of the two nodes, and no other. -/
theorem linked_remove {g' : Graph} {a b : Text} (hlawful : Lawful g)
    (hspelled : SpelledInOrder a b)
    (hkeys : g'.keys = g.keys.filter (· ≠ edgeKey a b .campaignMembership)) :
    Linked g' c n ↔ Linked g c n ∧ s(asUuid a, asUuid b) ≠ s(c, n) := by
  have hmem : Linked g' c n ↔ ∃ key ∈ g.keys, key ≠ edgeKey a b .campaignMembership ∧
      pairOf key = (s(c, n), .campaignMembership) := by
    rw [Linked, hkeys]
    simp [and_assoc]
  rw [hmem]
  by_cases hab : asUuid a = asUuid b
  · -- the two names are of one node, which no edge joins with itself
    constructor
    · rintro ⟨key, hkey, -, hpair⟩
      have hlinked : Linked g c n := List.mem_map.mpr ⟨key, hkey, hpair⟩
      refine ⟨hlinked, fun hsame => ?_⟩
      rw [Linked, ← hsame, hab] at hlinked
      exact hlawful.not_linked_self _ hlinked
    · rintro ⟨hlinked, -⟩
      obtain ⟨key, hkey, hpair⟩ := List.mem_map.mp hlinked
      refine ⟨key, hkey, fun hsame => ?_, hpair⟩
      have hlt := hlawful.ordered key hkey
      rw [hsame, edgeKey, canonicalPair] at hlt
      by_cases hord : a < b
      · rw [if_pos hord] at hlt
        exact absurd hab hlt.ne
      · rw [if_neg hord] at hlt
        exact absurd hab hlt.ne'
  · obtain ⟨hordered, hpair⟩ : _ ∧ pairOf (edgeKey a b .campaignMembership) =
        (s(asUuid a, asUuid b), .campaignMembership) := edgeKey_spec hab hspelled
    constructor
    · rintro ⟨key, hkey, hne, hkeypair⟩
      refine ⟨List.mem_map.mpr ⟨key, hkey, hkeypair⟩, fun hsame => hne ?_⟩
      exact key_eq_of_pair (hlawful.ordered key hkey) hordered (by rw [hkeypair, hpair, hsame])
    · rintro ⟨hlinked, hne⟩
      obtain ⟨key, hkey, hkeypair⟩ := List.mem_map.mp hlinked
      refine ⟨key, hkey, fun hsame => hne ?_, hkeypair⟩
      rw [hsame, hpair] at hkeypair
      exact (Prod.mk.inj hkeypair).1

theorem Faithful.remove {a b : Text} (h : Faithful toLowerCase g₀ g calls)
    (hspelled : SpelledInOrder a b) :
    Faithful toLowerCase g₀ ((GraphCall.removeCampaignMember a b).exec toLowerCase g)
      (calls ++ [.removeCampaignMember a b]) := by
  obtain ⟨hstore, hkeys⟩ := run_removeCampaignMember a b g
  have hsub : ∀ key, key ∈ ((GraphCall.removeCampaignMember a b).exec toLowerCase g).keys →
      key ∈ g.keys := by
    intro key hkey
    rw [GraphCall.exec, hkeys] at hkey
    exact (List.mem_filter.mp hkey).1
  refine ⟨?_, ⟨fun key hkey => h.lawful.ordered key (hsub key hkey), ?_, fun key hkey htype => ?_⟩,
    fun c n htype => ?_⟩
  · rw [GraphCall.exec, hstore]
    exact h.canonical
  · rw [GraphCall.exec, hkeys]
    exact h.lawful.unique.sublist (List.filter_sublist.map pairOf)
  · rw [GraphCall.exec, hstore]
    exact h.lawful.membership key (hsub key hkey) htype
  · rw [GraphCall.exec, hstore] at htype
    rw [GraphCall.exec, linked_remove h.lawful hspelled hkeys, h.members c n htype, Member,
      since_concat, justAdded_concat, justRemoved_concat]
    constructor
    · rintro ⟨hmember, hne⟩
      refine Or.inr ⟨hmember, ?_⟩
      rintro ⟨a', b', hcall, hsame⟩
      obtain ⟨rfl, rfl⟩ := GraphCall.removeCampaignMember.inj hcall
      exact hne hsame
    · rintro (⟨_, _, hcall, -⟩ | ⟨hmember, hnot⟩)
      · cases hcall
      · exact ⟨hmember, fun hsame => hnot ⟨a, b, rfl, hsame⟩⟩

theorem Faithful.concat
    (h : Faithful toLowerCase g₀ (after (GraphCall.exec toLowerCase) g₀ calls) calls)
    (hspelled : call.Spelled) :
    Faithful toLowerCase g₀ (after (GraphCall.exec toLowerCase) g₀ (calls ++ [call]))
      (calls ++ [call]) := by
  have hrefl := Apart.refl h.canonical h.lawful
  rw [after_concat]
  cases call with
  | addCampaignMember a b => exact h.add hspelled
  | removeCampaignMember a b => exact h.remove hspelled
  | createCampaign input =>
    have hnew : ∀ s, (createNode (newCampaign input)).Gives (Grown s) fun node =>
        asUuid node.id = node.id := fun _ => gives_createNode fun _ _ => rfl
    have hgives := gives_onNodes (g := after (GraphCall.exec toLowerCase) g₀ calls) hnew
    refine h.apart (hgives _ hrefl).1 ?_ ?_ <;> simp
  | recordNode input =>
    have hgives := gives_onNodes (g := after (GraphCall.exec toLowerCase) g₀ calls) fun _ =>
      gives_recordNode toLowerCase input
    refine h.apart (hgives _ hrefl).1 ?_ ?_ <;> simp
  | processSignal signal =>
    refine h.apart (gives_processSignal signal _ hrefl).1 ?_ ?_ <;> simp
  | others signals similarities now =>
    have hapart : Apart (after (GraphCall.exec toLowerCase) g₀ calls)
        ((GraphCall.others signals similarities now).exec toLowerCase
          (after (GraphCall.exec toLowerCase) g₀ calls)) :=
      ⟨⟨⟨⟨h.canonical.nodes, h.canonical.fresh⟩, fun _ _ h => h⟩,
        ⟨h.lawful.ordered, h.lawful.unique, h.lawful.membership⟩⟩, fun _ _ => Iff.rfl⟩
    refine h.apart hapart ?_ ?_ <;> simp

/-! ### Reading a campaign -/

/-- The members that are read are the nodes that the campaign is linked with. -/
theorem run_getCampaignWithMembers {campaign : FraudGraphNode}
    (hcampaign : g.node c = some campaign)
    (htype : campaign.nodeType = .campaign) (hc : asUuid c = c) :
    ∃ members, (getCampaignWithMembers c).run g = (.ok (campaign, members), g) ∧
      ∀ node, node ∈ members ↔ node ∈ g.store.nodes ∧ Linked g c node.id := by
  have hrequire : (requireCampaign c).run g = (.ok campaign, g) := by
    simp [requireCampaign, readGraph, hcampaign, htype]
  have hids : ∀ n, n ∈ (g.membershipEdges c).map (otherEnd c) ↔ Linked g c n := by
    intro n
    constructor
    · intro hn
      obtain ⟨edge, hedge, rfl⟩ := List.mem_map.mp hn
      rw [Graph.membershipEdges, List.mem_insertionSort, List.mem_filter, hc] at hedge
      obtain ⟨hmem, hedge⟩ := hedge
      obtain ⟨hedgeType, hends⟩ := of_decide_eq_true hedge
      refine List.mem_map.mpr ⟨edge.key, List.mem_map.mpr ⟨edge, hmem, rfl⟩, ?_⟩
      refine Prod.ext ?_ hedgeType
      by_cases hsource : edge.sourceNodeId = c
      · simp [pairOf, FraudGraphEdge.key, otherEnd, hsource]
      · simp [pairOf, FraudGraphEdge.key, otherEnd, hsource, hends.resolve_left hsource]
    · intro hlinked
      obtain ⟨key, hkey, hpair⟩ := List.mem_map.mp hlinked
      obtain ⟨edge, hedge, rfl⟩ := List.mem_map.mp hkey
      obtain ⟨hnodes, hedgeType⟩ := Prod.mk.inj hpair
      have hends : edge.sourceNodeId = c ∧ edge.targetNodeId = n ∨
          edge.sourceNodeId = n ∧ edge.targetNodeId = c := Sym2.eq_iff.mp hnodes
      refine List.mem_map.mpr ⟨edge, ?_, ?_⟩
      · rw [Graph.membershipEdges, List.mem_insertionSort, List.mem_filter, hc]
        exact ⟨hedge, decide_eq_true ⟨hedgeType, hends.imp And.left And.right⟩⟩
      · rcases hends with ⟨hsource, htarget⟩ | ⟨hsource, htarget⟩
        · rw [otherEnd, if_pos hsource, htarget]
        · by_cases hsame : edge.sourceNodeId = c
          · rw [otherEnd, if_pos hsame, htarget, ← hsame, hsource]
          · rw [otherEnd, if_neg hsame, hsource]
  let memberIds := (g.membershipEdges c).map (otherEnd c)
  have hrun : (getCampaignWithMembers c).run g =
      Prog.run (if memberIds = [] then pure (campaign, [])
        else do
          let members ← readGraph fun g => g.store.nodes.filter fun node => node.id ∈ memberIds
          return (campaign, members)) g := by
    rw [getCampaignWithMembers, Prog.run_bind, hrequire]
    rfl
  by_cases hempty : memberIds = []
  · refine ⟨[], by rw [hrun, if_pos hempty]; rfl, fun node => ?_⟩
    have hnone : (g.membershipEdges c).map (otherEnd c) = [] := hempty
    rw [← hids, hnone]
    simp
  · refine ⟨_, by rw [hrun, if_neg hempty]; rfl, fun node => ?_⟩
    rw [List.mem_filter, decide_eq_true_eq, hids]

/-! ### The theorem -/

/-- The edges of a graph, by the nodes that they join. -/
structure WellFormed (g : Graph) : Prop where
  ordered : ∀ edge ∈ g.edges, edge.sourceNodeId < edge.targetNodeId
  unique : (g.edges.map fun edge =>
    (s(edge.sourceNodeId, edge.targetNodeId), edge.edgeType)).Nodup
  membership : ∀ edge ∈ g.edges, edge.edgeType = .campaignMembership →
    ∃ campaign indicator, g.node campaign.id = some campaign ∧
      g.node indicator.id = some indicator ∧
      campaign.nodeType = .campaign ∧ indicator.nodeType = .indicator ∧
      s(edge.sourceNodeId, edge.targetNodeId) = s(campaign.id, indicator.id)

theorem Lawful.wellFormed (h : Lawful g) (hcanonical : Canonical g.store) : WellFormed g := by
  have hrow : ∀ {id t}, typeOf id g.store.nodes = some t →
      ∃ node, g.node node.id = some node ∧ node.nodeType = t ∧ node.id = id := by
    intro id t ht
    obtain ⟨node, hfind, htype⟩ := Option.map_eq_some_iff.mp ht
    refine ⟨node, ?_, htype, Table.key_of_find hfind⟩
    rw [Graph.node, hcanonical.nodes node (Table.mem_of_find hfind), Table.key_of_find hfind]
    exact hfind
  refine ⟨fun edge hedge => h.ordered _ (List.mem_map.mpr ⟨edge, hedge, rfl⟩), ?_,
    fun edge hedge htype => ?_⟩
  · have hunique := h.unique
    rw [Graph.keys, List.map_map] at hunique
    exact hunique
  · rcases h.membership _ (List.mem_map.mpr ⟨edge, hedge, rfl⟩) htype with ⟨hc, hn⟩ | ⟨hn, hc⟩
    · obtain ⟨campaign, hcampaign, hctype, hcid⟩ := hrow hc
      obtain ⟨indicator, hindicator, hitype, hnid⟩ := hrow hn
      refine ⟨campaign, indicator, hcampaign, hindicator, hctype, hitype, ?_⟩
      rw [hcid, hnid]
      rfl
    · obtain ⟨campaign, hcampaign, hctype, hcid⟩ := hrow hc
      obtain ⟨indicator, hindicator, hitype, hnid⟩ := hrow hn
      refine ⟨campaign, indicator, hcampaign, hindicator, hctype, hitype, ?_⟩
      rw [hcid, hnid]
      exact Sym2.eq_swap

/-- A campaign is read with the nodes that were added to it and not removed since. -/
def ReadsMembers (toLowerCase : Text → Text) (g₀ g : Graph) (calls : List GraphCall) : Prop :=
  ∀ c campaign, g.node c = some campaign → campaign.nodeType = .campaign → asUuid c = c →
    ∃ members, (getCampaignWithMembers c).run g = (.ok (campaign, members), g) ∧
      ∀ n, (∃ node ∈ members, node.id = n) ↔ Member toLowerCase g₀ c n calls

/-- **The campaign graph**: in every run, from a graph without edges, whose additions and removals
spell their ids in the order of the rows that they name, the edges are well formed, and a campaign
is read with its members. -/
theorem campaign_graph (hedges : g₀.edges = []) (hcanonical : Canonical g₀.store)
    (calls : List GraphCall) (hspelled : ∀ call ∈ calls, call.Spelled) :
    WellFormed (after (GraphCall.exec toLowerCase) g₀ calls) ∧
      ReadsMembers toLowerCase g₀ (after (GraphCall.exec toLowerCase) g₀ calls) calls := by
  have hkeys : g₀.keys = [] := by rw [Graph.keys, hedges]; rfl
  have hstart : Faithful toLowerCase g₀ g₀ [] := by
    refine ⟨hcanonical, ⟨by simp [hkeys], by simp [hkeys], by simp [hkeys]⟩, fun c n _ => ?_⟩
    rw [Member, since_nil]
    constructor
    · intro h
      rw [Linked, hkeys] at h
      exact absurd h List.not_mem_nil
    · rintro ⟨before, a, b, hcalls, -⟩
      exact absurd hcalls (by simp)
  have hfaithful : Faithful toLowerCase g₀ (after (GraphCall.exec toLowerCase) g₀ calls) calls := by
    refine forall_prefix (P := fun calls =>
      Faithful toLowerCase g₀ (after (GraphCall.exec toLowerCase) g₀ calls) calls) hstart ?_ calls
      List.prefix_rfl
    intro before call hmoment hbefore
    exact hbefore.concat (hspelled call (hmoment.subset (by simp)))
  refine ⟨hfaithful.lawful.wellFormed hfaithful.canonical, fun c campaign hnode htype hc => ?_⟩
  obtain ⟨members, hrun, hmembers⟩ := run_getCampaignWithMembers hnode htype hc
  have hnotIndicator : typeOf c (after (GraphCall.exec toLowerCase) g₀ calls).store.nodes ≠
      some .indicator := by
    rw [← hc, typeOf_of_node hnode, htype]
    simp
  refine ⟨members, hrun, fun n => ?_⟩
  rw [← hfaithful.members c n hnotIndicator]
  constructor
  · rintro ⟨node, hnode, rfl⟩
    exact ((hmembers node).mp hnode).2
  · intro hlinked
    -- a node that is linked is an indicator of the graph
    obtain ⟨key, hkey, hpair⟩ := List.mem_map.mp hlinked
    obtain ⟨hnodes, hedgeType⟩ := Prod.mk.inj hpair
    have hn : typeOf n (after (GraphCall.exec toLowerCase) g₀ calls).store.nodes =
        some .indicator := by
      rcases hfaithful.lawful.membership key hkey hedgeType,
        Sym2.eq_iff.mp hnodes with ⟨⟨hsource, htarget⟩ | ⟨hsource, htarget⟩, ⟨hs, ht⟩ | ⟨hs, ht⟩⟩
      · rwa [ht] at htarget
      · rw [ht] at htarget
        exact absurd htarget hnotIndicator
      · rw [hs] at hsource
        exact absurd hsource hnotIndicator
      · rwa [hs] at hsource
    obtain ⟨node, hfind, -⟩ := Option.map_eq_some_iff.mp hn
    obtain rfl := Table.key_of_find hfind
    exact ⟨node, (hmembers node).mpr ⟨Table.mem_of_find hfind, hlinked⟩, rfl⟩

end Runs

/-! ## A campaign that is named in upper case -/

namespace Sample

def campaignId : Uuid := "b0000000-0000-4000-8000-000000000000"

def nodeId : Uuid := "a0000000-0000-4000-8000-000000000000"

def now : Date := Date.sampleDay

def graph : Graph where
  store := {
    nodes := []
    now := now
    uuid := fun n => if n = 0 then campaignId else if n = 1 then nodeId else List.replicate n 0x61
    issued := 0 }
  edges := []
  signals := []
  similarities := []

/-- A campaign and an indicator. -/
def rows : List GraphCall :=
  [.createCampaign ⟨"Safe account", none⟩, .recordNode ⟨.phone, "+15551234567", none, none⟩]

/-- The indicator is added to the campaign. -/
def added : List GraphCall := rows ++ [.addCampaignMember campaignId nodeId]

/-- The same, with the id of the campaign in upper case. -/
def addedUpper : List GraphCall := rows ++ [.addCampaignMember (upperAscii campaignId) nodeId]

def state (calls : List GraphCall) : Graph := after (GraphCall.exec lowerAscii) graph calls

theorem canonical_graph : Canonical graph.store := by
  refine ⟨fun node hnode => absurd hnode List.not_mem_nil, fun n => ?_⟩
  rcases n with _ | _ | n
  · decide
  · decide
  · show asUuid (List.replicate (n + 2) 0x61) = List.replicate (n + 2) 0x61
    simp [asUuid, lowerAscii, lowerUnit]

end Sample

open Sample in
theorem campaign_graph_added :
    WellFormed (state added) ∧ ReadsMembers lowerAscii graph (state added) added := by
  refine campaign_graph rfl canonical_graph added fun call hcall => ?_
  simp only [added, rows, List.cons_append, List.nil_append, List.mem_cons, List.not_mem_nil,
    or_false] at hcall
  rcases hcall with rfl | rfl | rfl
  · trivial
  · trivial
  · exact spelledInOrder_of_canonical (by decide) (by decide)

open Sample in
/-- The edge is stored the wrong way round, and the removal of the member leaves it there. -/
theorem misspelled_membership :
    (state addedUpper).keys = [(campaignId, nodeId, .campaignMembership)] ∧
      nodeId < campaignId ∧ ¬ WellFormed (state addedUpper) ∧
      ¬ ReadsMembers lowerAscii graph
        (state (addedUpper ++ [.removeCampaignMember campaignId nodeId]))
        (addedUpper ++ [.removeCampaignMember campaignId nodeId]) := by
  have hkeys : (state addedUpper).keys = [(campaignId, nodeId, .campaignMembership)] := by
    decide +kernel
  have horder : nodeId < campaignId := by decide
  refine ⟨hkeys, horder, fun h => ?_, fun h => ?_⟩
  · have hmem : (campaignId, nodeId, FraudGraphEdgeType.campaignMembership) ∈
        (state addedUpper).keys := by rw [hkeys]; exact List.mem_singleton_self _
    obtain ⟨edge, hedge, hkey⟩ := List.mem_map.mp hmem
    have hlt := h.ordered edge hedge
    rw [(Prod.mk.inj hkey).1, (Prod.mk.inj (Prod.mk.inj hkey).2).1] at hlt
    exact hlt.asymm horder
  · let removed := addedUpper ++ [.removeCampaignMember campaignId nodeId]
    have hlinked : Linked (state removed) campaignId nodeId := by
      have hstill : (state removed).keys = [(campaignId, nodeId, .campaignMembership)] := by
        decide +kernel
      rw [Linked, hstill]
      exact List.mem_singleton_self _
    have hcampaign : ((state removed).node campaignId).map (·.nodeType) = some .campaign := by
      decide +kernel
    have hnode : ((state removed).node nodeId).map (·.id) = some nodeId := by decide +kernel
    obtain ⟨campaign, hfound, htype⟩ := Option.map_eq_some_iff.mp hcampaign
    obtain ⟨node, hnodeFound, hid⟩ := Option.map_eq_some_iff.mp hnode
    obtain ⟨members, hrun, hmembers⟩ := h campaignId campaign hfound htype (by decide)
    obtain ⟨members', hrun', hmembers'⟩ := run_getCampaignWithMembers hfound htype (by decide)
    have hsame : members' = members := by
      have hvalue := congrArg Prod.fst (hrun'.symm.trans hrun)
      exact (Prod.mk.inj (Except.ok.inj hvalue)).2
    have hmember : Member lowerAscii graph campaignId nodeId removed := by
      refine (hmembers nodeId).mp ⟨node, ?_, hid⟩
      rw [← hsame, hmembers', hid]
      exact ⟨Table.mem_of_find hnodeFound, hlinked⟩
    rcases since_concat.mp hmember with hadded | ⟨-, hnot⟩
    · obtain ⟨_, _, hcall, -⟩ := justAdded_concat.mp hadded
      cases hcall
    · exact hnot (justRemoved_concat.mpr ⟨campaignId, nodeId, rfl, by decide⟩)

end FraudGraph
