import Vigiscam.FraudGraph.Aggregates

/-!
# The edges of a cluster

A signal that is processed is linked to those of its cluster whose indicators have a node by then.
Of two signals, the one that is processed later finds the other's node, so that after all members
of a cluster were processed each two of its indicators are joined, in whatever order the calls
came (`cluster_complete`). A scan reads at most `CLUSTER_PEER_SCAN_CAP` siblings.
-/

namespace FraudGraph

open Js Concurrency ScamSignals

/-! ## Memberships -/

def indicatorOf (signal : ScamSignal) : IndicatorKey :=
  (some signal.indicatorType, some signal.normalizedIndicator)

/-- What the row of a signal says of its cluster. -/
structure Membership where
  signalId : Uuid
  clusterId : Uuid
  indicator : IndicatorKey

def membership (signal : ScamSignal) : Option Membership :=
  (present signal.clusterId).map fun clusterId => ⟨signal.id, clusterId, indicatorOf signal⟩

def memberships (signals : List ScamSignal) : List Membership := signals.filterMap membership

/-- The signals of a cluster. -/
def membersOf (signals : List ScamSignal) (clusterId : Uuid) : List ScamSignal :=
  signals.filter fun signal => signal.clusterId = some clusterId

theorem ne_nil_of_present {s : Option Text} {t : Text} (h : present s = some t) : t ≠ [] := by
  have hfilter := (Option.filter_eq_some_iff.mp h).2
  exact of_decide_eq_true hfilter

section Members

variable {signals signals' : List ScamSignal} {signal : ScamSignal} {a b : Membership}

theorem membership_eq_some : membership signal = some a ↔
    present signal.clusterId = some a.clusterId ∧ signal.id = a.signalId ∧
      indicatorOf signal = a.indicator := by
  rw [membership, Option.map_eq_some_iff]
  constructor
  · rintro ⟨clusterId, hcluster, rfl⟩
    exact ⟨hcluster, rfl, rfl⟩
  · rintro ⟨hcluster, hid, hindicator⟩
    exact ⟨a.clusterId, hcluster, by rw [hid, hindicator]⟩

/-- A signal has one membership. -/
theorem membership_unique (hids : (signals.map ScamSignal.id).Nodup) (ha : a ∈ memberships signals)
    (hb : b ∈ memberships signals) (hid : a.signalId = b.signalId) : a = b := by
  obtain ⟨s, hs, hsa⟩ := List.mem_filterMap.mp ha
  obtain ⟨t, ht, htb⟩ := List.mem_filterMap.mp hb
  have hsame : s.id = t.id := by
    rw [(membership_eq_some.mp hsa).2.1, (membership_eq_some.mp htb).2.1, hid]
  obtain rfl := List.inj_on_of_nodup_map hids hs ht hsame
  exact Option.some.inj (hsa.symm.trans htb)

/-- Where memberships stay, no cluster loses signals. -/
theorem length_membersOf_le (hids : (signals.map ScamSignal.id).Nodup)
    (hkept : ∀ m ∈ memberships signals, m ∈ memberships signals') {c : Uuid} (hc : c ≠ []) :
    (membersOf signals c).length ≤ (membersOf signals' c).length := by
  have hsub : ((membersOf signals c).map ScamSignal.id).Subperm
      ((membersOf signals' c).map ScamSignal.id) := by
    refine (hids.sublist (List.filter_sublist.map _)).subperm fun id hid => ?_
    obtain ⟨s, hs, rfl⟩ := List.mem_map.mp hid
    obtain ⟨hmem, hcluster⟩ := List.mem_filter.mp hs
    have hpresent : present s.clusterId = some c := by
      rw [of_decide_eq_true hcluster]
      simp [present, hc]
    obtain ⟨t, ht, hsame⟩ := List.mem_filterMap.mp (hkept ⟨s.id, c, indicatorOf s⟩
      (List.mem_filterMap.mpr ⟨s, hmem, membership_eq_some.mpr ⟨hpresent, rfl, rfl⟩⟩))
    obtain ⟨htcluster, htid, -⟩ := membership_eq_some.mp hsame
    refine List.mem_map.mpr ⟨t, List.mem_filter.mpr ⟨ht, ?_⟩, htid⟩
    exact decide_eq_true (eq_some_of_present htcluster)
  simpa using hsub.length_le

/-- The siblings of a member fit into one scan. -/
theorem mem_siblings {g : Graph} (hsignal : membership signal = some a)
    (ha : a ∈ memberships g.signals) (hsize : (membersOf g.signals a.clusterId).length ≤ 201)
    {sib : ScamSignal} :
    sib ∈ g.siblings signal ↔
      sib ∈ g.signals ∧ sib.clusterId = some a.clusterId ∧ sib.id ≠ signal.id := by
  obtain ⟨hcluster, hid, -⟩ := membership_eq_some.mp hsignal
  have hall : (g.signals.filter fun sib =>
      sib.clusterId = some a.clusterId ∧ sib.id ≠ signal.id).length ≤ CLUSTER_PEER_SCAN_CAP := by
    obtain ⟨row, hrow, hsame⟩ := List.mem_filterMap.mp ha
    obtain ⟨hrowCluster, hrowId, -⟩ := membership_eq_some.mp hsame
    have hself : row ∈ membersOf g.signals a.clusterId :=
      List.mem_filter.mpr ⟨hrow, decide_eq_true (eq_some_of_present hrowCluster)⟩
    have hfewer : ((membersOf g.signals a.clusterId).filter fun sib => sib.id ≠ signal.id).length <
        (membersOf g.signals a.clusterId).length := by
      refine List.length_filter_lt_length_iff_exists.mpr ⟨row, hself, ?_⟩
      simp [hrowId, hid]
    have hfilter : (g.signals.filter fun sib =>
        sib.clusterId = some a.clusterId ∧ sib.id ≠ signal.id) =
        (membersOf g.signals a.clusterId).filter fun sib => sib.id ≠ signal.id := by
      rw [membersOf, List.filter_filter]
      refine List.filter_congr fun sib _ => ?_
      rw [Bool.and_comm, Bool.decide_and]
    rw [hfilter]
    show _ ≤ 200
    omega
  rw [Graph.siblings, hcluster]
  dsimp only
  rw [List.take_of_length_le hall, List.mem_filter, decide_eq_true_iff]

end Members

/-! ## What a call does to the edges of clusters -/

/-- Nodes and edges of clusters stay, and those of `new` come to them. -/
structure Weaves (g g' : Graph) (new : EdgeKey → Prop) : Prop where
  keyed : g'.store.Keyed
  canonical : Canonical g'.store
  kept : ∀ e ∈ g.store.nodes, ∃ e' ∈ g'.store.nodes, e'.id = e.id ∧ e'.key = e.key
  keys : ∀ key, key.2.2 = .coOccurrenceCluster → (key ∈ g'.keys ↔ key ∈ g.keys ∨ new key)

section Calls

variable {toLowerCase : Text → Text} {g g' : Graph} {call : GraphCall} {signal : ScamSignal}

theorem weaves_processSignal (toLowerCase : Text → Text) (hkeyed : g.store.Keyed)
    (hcanonical : Canonical g.store) (signal : ScamSignal) :
    ∃ node, ((GraphCall.processSignal signal).exec toLowerCase g).nodeOf signal.indicatorType
        signal.normalizedIndicator = some node ∧
      Weaves g ((GraphCall.processSignal signal).exec toLowerCase g) fun key =>
        ∃ sib ∈ g.siblings signal, LinksTo ((GraphCall.processSignal signal).exec toLowerCase g)
          node .coOccurrenceCluster sib key := by
  obtain ⟨result, s', g', hrun, hcounted, new, hlinking, hnew⟩ := run_processSignal hkeyed signal
  have hexec : (GraphCall.processSignal signal).exec toLowerCase g = g' := by
    rw [GraphCall.exec, hrun]
  rw [hexec]
  refine ⟨result.node, ?_, hlinking.keyed (hcounted.keyed hkeyed), ?_, fun e he => ?_,
    fun key hkey => ?_⟩
  · rw [Graph.nodeOf, hlinking.nodes]
    exact hcounted.find
  · have hcanonical' := hcounted.canonical hcanonical
    exact ⟨hlinking.nodes ▸ hcanonical'.nodes, hlinking.uuid ▸ hcanonical'.fresh⟩
  · rw [hlinking.nodes]
    exact hcounted.kept he
  · rw [hlinking.keys, hnew key hkey]
    refine or_congr_right (exists_congr fun sib => and_congr_right fun _ => ?_)
    rw [linksTo_congr hlinking.nodes]

/-- The other calls write no edges of clusters. -/
theorem weaves_exec (hkeyed : g.store.Keyed) (hcanonical : Canonical g.store)
    (hcall : ∀ signal, call ≠ .processSignal signal) :
    Weaves g (call.exec toLowerCase g) fun _ => False := by
  have hsame : ∀ e ∈ g.store.nodes, ∃ e' ∈ g.store.nodes, e'.id = e.id ∧ e'.key = e.key :=
    fun e he => ⟨e, he, rfl, rfl⟩
  cases call with
  | recordNode input =>
    obtain ⟨node, s', hrun, hcounted⟩ := counted_recordNode hkeyed toLowerCase input
    rw [GraphCall.exec, run_onNodes, hrun]
    exact ⟨hcounted.keyed hkeyed, hcounted.canonical hcanonical, fun e he => hcounted.kept he,
      fun key _ => (or_iff_left id).symm⟩
  | processSignal signal => exact absurd rfl (hcall signal)
  | createCampaign input =>
    have hcreate := hkeyed.run_createNode (newCampaign input) rfl fun h => absurd rfl h
    rw [GraphCall.exec, createCampaign, run_onNodes, hcreate]
    refine ⟨hkeyed.append rfl, ⟨List.forall_mem_append.mpr ⟨hcanonical.nodes, ?_⟩,
      hcanonical.fresh⟩, fun e he => ⟨e, List.mem_append_left _ he, rfl, rfl⟩,
      fun key _ => (or_iff_left id).symm⟩
    exact List.forall_mem_singleton.mpr (hcanonical.fresh _)
  | addCampaignMember a b =>
    by_cases haddable : Addable g a b
    · obtain ⟨node, hrun⟩ := run_addCampaignMember_of_addable haddable
      have hlinking : Linking g (g.upsert (edgeKey a b .campaignMembership) 1) _ :=
        linking_upsert _ _
      rw [GraphCall.exec, hrun]
      refine ⟨hlinking.keyed hkeyed, ⟨hlinking.nodes ▸ hcanonical.nodes,
        hlinking.uuid ▸ hcanonical.fresh⟩, hlinking.nodes.symm ▸ hsame, fun key hkey => ?_⟩
      rw [hlinking.keys]
      refine or_congr_right (iff_false_intro fun heq => ?_)
      rw [heq] at hkey
      cases hkey
    · obtain ⟨e, hrun⟩ := run_addCampaignMember_of_not_addable haddable
      rw [GraphCall.exec, hrun]
      exact ⟨hkeyed, hcanonical, hsame, fun key _ => (or_iff_left id).symm⟩
  | removeCampaignMember a b =>
    obtain ⟨hstore, hkeys⟩ := run_removeCampaignMember a b g
    rw [GraphCall.exec]
    refine ⟨hstore.symm ▸ hkeyed, hstore.symm ▸ hcanonical, hstore.symm ▸ hsame,
      fun key hkey => ?_⟩
    rw [hkeys, List.mem_filter, or_iff_left id]
    refine and_iff_left (decide_eq_true fun heq => ?_)
    rw [heq] at hkey
    cases hkey
  | others signals similarities now =>
    exact ⟨⟨hkeyed.ids, hkeyed.injective, hkeyed.fresh⟩,
      ⟨hcanonical.nodes, hcanonical.fresh⟩, hsame, fun key _ => (or_iff_left id).symm⟩

end Calls

/-! ## Runs -/

/-- The nodes of the two indicators have an edge of their cluster. -/
def Joined (g : Graph) (a b : IndicatorKey) : Prop :=
  ∃ n ∈ g.store.nodes, ∃ m ∈ g.store.nodes, n.key = a ∧ m.key = b ∧
    (s(n.id, m.id), FraudGraphEdgeType.coOccurrenceCluster) ∈ g.keys.map pairOf

/-- The edge is between the nodes of two indicators that share a cluster. -/
def Shares (g : Graph) (key : EdgeKey) : Prop :=
  ∃ a ∈ memberships g.signals, ∃ b ∈ memberships g.signals,
    a.clusterId = b.clusterId ∧ a.indicator ≠ b.indicator ∧
    ∃ n ∈ g.store.nodes, ∃ m ∈ g.store.nodes, n.key = a.indicator ∧ m.key = b.indicator ∧
      s(n.id, m.id) = s(key.1, key.2.1)

/-- What the signals of a run are: rows with their own ids, that stay in their clusters, and a
signal that is processed is in the cluster that it names. -/
structure Steady (toLowerCase : Text → Text) (g₀ : Graph) (calls : List GraphCall) : Prop where
  ids : ∀ before, before <+: calls →
    ((after (GraphCall.exec toLowerCase) g₀ before).signals.map ScamSignal.id).Nodup
  kept : ∀ before later, before <+: later → later <+: calls →
    ∀ a ∈ memberships (after (GraphCall.exec toLowerCase) g₀ before).signals,
      a ∈ memberships (after (GraphCall.exec toLowerCase) g₀ later).signals
  processed : ∀ before signal, before ++ [.processSignal signal] <+: calls →
    ∀ a, membership signal = some a →
      a ∈ memberships (after (GraphCall.exec toLowerCase) g₀ before).signals

/-- The signal was processed as a member of its cluster. -/
def Processed (calls : List GraphCall) (a : Membership) : Prop :=
  ∃ signal, GraphCall.processSignal signal ∈ calls ∧ membership signal = some a

/-- What holds at every moment of a run, of the clusters that are small at its end. -/
structure Woven (g : Graph) (calls : List GraphCall) (small : Uuid → Prop) : Prop where
  keyed : g.store.Keyed
  canonical : Canonical g.store
  placed : ∀ a, Processed calls a → ∃ node ∈ g.store.nodes, node.key = a.indicator
  joined : ∀ a b, Processed calls a → Processed calls b → a.clusterId = b.clusterId →
    a.indicator ≠ b.indicator → small a.clusterId → Joined g a.indicator b.indicator
  shares : ∀ key ∈ g.keys, key.2.2 = .coOccurrenceCluster → Shares g key

section Runs

variable {toLowerCase : Text → Text} {g g' g₀ : Graph} {call : GraphCall}
  {calls before : List GraphCall} {signal : ScamSignal} {new : EdgeKey → Prop}
  {a b : Membership} {small : Uuid → Prop}

theorem Joined.symm {a b : IndicatorKey} (h : Joined g a b) : Joined g b a := by
  obtain ⟨n, hn, m, hm, hna, hmb, hkey⟩ := h
  exact ⟨m, hm, n, hn, hmb, hna, Sym2.eq_swap ▸ hkey⟩

theorem Weaves.joined (h : Weaves g g' new) {a b : IndicatorKey} (hjoined : Joined g a b) :
    Joined g' a b := by
  obtain ⟨n, hn, m, hm, rfl, rfl, hpair⟩ := hjoined
  obtain ⟨key, hkey, heq⟩ := List.mem_map.mp hpair
  obtain ⟨n', hn', hnid, hnkey⟩ := h.kept n hn
  obtain ⟨m', hm', hmid, hmkey⟩ := h.kept m hm
  refine ⟨n', hn', m', hm', hnkey, hmkey, List.mem_map.mpr ⟨key, ?_, ?_⟩⟩
  · exact (h.keys key (Prod.mk.inj heq).2).mpr (Or.inl hkey)
  · rw [heq, hnid, hmid]

theorem Weaves.shares (h : Weaves g g' new)
    (hkept : ∀ a ∈ memberships g.signals, a ∈ memberships g'.signals) {key : EdgeKey}
    (hshares : Shares g key) : Shares g' key := by
  obtain ⟨a, ha, b, hb, hcluster, hne, n, hn, m, hm, hna, hmb, hpair⟩ := hshares
  obtain ⟨n', hn', hnid, hnkey⟩ := h.kept n hn
  obtain ⟨m', hm', hmid, hmkey⟩ := h.kept m hm
  exact ⟨a, hkept a ha, b, hkept b hb, hcluster, hne, n', hn', m', hm', hnkey.trans hna,
    hmkey.trans hmb, by rw [hnid, hmid, hpair]⟩

theorem processed_concat : Processed (calls ++ [call]) a ↔
    Processed calls a ∨ ∃ signal, call = .processSignal signal ∧ membership signal = some a := by
  constructor
  · rintro ⟨signal, hmem, hsignal⟩
    rcases List.mem_append.mp hmem with hold | hnew
    · exact Or.inl ⟨signal, hold, hsignal⟩
    · exact Or.inr ⟨signal, (List.mem_singleton.mp hnew).symm, hsignal⟩
  · rintro (⟨signal, hmem, hsignal⟩ | ⟨signal, rfl, hsignal⟩)
    · exact ⟨signal, List.mem_append_left _ hmem, hsignal⟩
    · exact ⟨signal, List.mem_append_right _ (List.mem_singleton_self _), hsignal⟩

/-- An edge of a cluster is between the node and that of the other signal. -/
theorem exists_of_linksTo {node : FraudGraphNode} {sib : ScamSignal} {key : EdgeKey}
    (hcanonical : Canonical g.store) (hnode : node ∈ g.store.nodes)
    (hlinks : LinksTo g node .coOccurrenceCluster sib key) :
    ∃ other ∈ g.store.nodes, other.key = indicatorOf sib ∧
      pairOf key = (s(node.id, other.id), .coOccurrenceCluster) := by
  obtain ⟨other, hother, hne, rfl⟩ := hlinks
  have hmem : other ∈ g.store.nodes := Table.mem_of_find hother
  have hnodeId := hcanonical.nodes node hnode
  have hotherId := hcanonical.nodes other hmem
  refine ⟨other, hmem, Table.key_of_find hother, ?_⟩
  have hne' : asUuid node.id ≠ asUuid other.id := by rwa [hnodeId, hotherId]
  rw [(edgeKey_spec hne' (spelledInOrder_of_canonical hnodeId hotherId)).2, hnodeId, hotherId]

/-- **The later of two signals finds the node of the other.** -/
theorem joined_processSignal (h : Woven g before small)
    (hids : (g.signals.map ScamSignal.id).Nodup) (hsignal : membership signal = some a)
    (ha : a ∈ memberships g.signals) (hb : b ∈ memberships g.signals) (hdone : Processed before b)
    (hcluster : a.clusterId = b.clusterId) (hne : a.indicator ≠ b.indicator)
    (hsize : (membersOf g.signals a.clusterId).length ≤ 201) :
    Joined ((GraphCall.processSignal signal).exec toLowerCase g) a.indicator b.indicator := by
  obtain ⟨node, hnode, hweaves⟩ :=
    weaves_processSignal toLowerCase h.keyed h.canonical signal
  obtain ⟨-, hid, hindicator⟩ := membership_eq_some.mp hsignal
  obtain ⟨sib, hsib, hsame⟩ := List.mem_filterMap.mp hb
  obtain ⟨hsibCluster, hsibId, hsibIndicator⟩ := membership_eq_some.mp hsame
  have hsibling : sib ∈ g.siblings signal := by
    refine (mem_siblings hsignal ha hsize).mpr ⟨hsib, ?_, fun heq => hne ?_⟩
    · rw [hcluster]
      exact eq_some_of_present hsibCluster
    · rw [membership_unique hids ha hb (by rw [← hid, ← hsibId, heq])]
  have hmem : node ∈ _ := Table.mem_of_find hnode
  have hkey : node.key = indicatorOf signal := Table.key_of_find hnode
  obtain ⟨placed, hplaced, hplacedKey⟩ := h.placed b hdone
  obtain ⟨placed', hplaced', -, hplacedKey'⟩ := hweaves.kept placed hplaced
  obtain ⟨other, hother⟩ : ∃ other, ((GraphCall.processSignal signal).exec toLowerCase g).nodeOf
      sib.indicatorType sib.normalizedIndicator = some other := by
    refine Option.ne_none_iff_exists'.mp fun hnone => ?_
    refine Table.find_eq_none_iff.mp hnone (List.mem_map.mpr ⟨placed', hplaced', ?_⟩)
    rw [hplacedKey', hplacedKey, ← hsibIndicator]
    rfl
  have hotherKey : other.key = indicatorOf sib := Table.key_of_find hother
  have hlinks : LinksTo ((GraphCall.processSignal signal).exec toLowerCase g) node
      .coOccurrenceCluster sib (edgeKey node.id other.id .coOccurrenceCluster) := by
    refine ⟨other, hother, fun heq => hne ?_, rfl⟩
    have hsameNode := List.inj_on_of_nodup_map hweaves.keyed.ids hmem (Table.mem_of_find hother) heq
    rw [← hindicator, ← hsibIndicator, ← hkey, ← hotherKey, hsameNode]
  obtain ⟨other', hother', hotherKey', hpair⟩ := exists_of_linksTo hweaves.canonical hmem hlinks
  refine ⟨node, hmem, other', hother', hkey.trans hindicator, hotherKey'.trans hsibIndicator, ?_⟩
  exact List.mem_map.mpr ⟨_, (hweaves.keys _ rfl).mpr (Or.inr ⟨sib, hsibling, hlinks⟩), hpair⟩

/-- **An edge that is written joins indicators of one cluster.** -/
theorem shares_processSignal (h : Woven g before small)
    (hmember : ∀ a, membership signal = some a → a ∈ memberships g.signals)
    (hkept : ∀ a ∈ memberships g.signals,
      a ∈ memberships ((GraphCall.processSignal signal).exec toLowerCase g).signals) :
    ∀ key ∈ ((GraphCall.processSignal signal).exec toLowerCase g).keys,
      key.2.2 = .coOccurrenceCluster →
        Shares ((GraphCall.processSignal signal).exec toLowerCase g) key := by
  intro key hkey htype
  obtain ⟨node, hnode, hweaves⟩ :=
    weaves_processSignal toLowerCase h.keyed h.canonical signal
  rcases (hweaves.keys key htype).mp hkey with hold | ⟨sib, hsibling, hlinks⟩
  · exact hweaves.shares hkept (h.shares key hold htype)
  · cases hcluster : present signal.clusterId with
    | none => simp [Graph.siblings, hcluster] at hsibling
    | some c =>
      rw [Graph.siblings, hcluster] at hsibling
      obtain ⟨hsib, hfilter⟩ := List.mem_filter.mp (List.mem_of_mem_take hsibling)
      have hsibCluster : sib.clusterId = some c := (of_decide_eq_true hfilter).1
      have ha : (⟨signal.id, c, indicatorOf signal⟩ : Membership) ∈ memberships g.signals :=
        hmember _ (membership_eq_some.mpr ⟨hcluster, rfl, rfl⟩)
      have hb : (⟨sib.id, c, indicatorOf sib⟩ : Membership) ∈ memberships g.signals := by
        refine List.mem_filterMap.mpr ⟨sib, hsib, membership_eq_some.mpr ⟨?_, rfl, rfl⟩⟩
        rw [hsibCluster]
        exact (congrArg present (eq_some_of_present hcluster)).symm.trans hcluster
      have hmem : node ∈ _ := Table.mem_of_find hnode
      obtain ⟨other, hother, hotherKey, hpair⟩ := exists_of_linksTo hweaves.canonical hmem hlinks
      refine ⟨_, hkept _ ha, _, hkept _ hb, rfl, fun hsame => ?_, node, hmem, other, hother,
        Table.key_of_find hnode, hotherKey, (Prod.mk.inj hpair).1.symm⟩
      -- of one indicator there is one node, which is not linked to itself
      obtain ⟨found, hfound, hne, -⟩ := hlinks
      have hfound' : Table.find FraudGraphNode.key (indicatorOf sib) _ = some found := hfound
      have hnode' : Table.find FraudGraphNode.key (indicatorOf signal) _ = some node := hnode
      rw [← show indicatorOf signal = indicatorOf sib from hsame, hnode'] at hfound'
      exact hne (congrArg FraudGraphNode.id (Option.some.inj hfound'))

theorem Woven.processSignal (h : Woven g before small)
    (hids : (g.signals.map ScamSignal.id).Nodup)
    (hmember : ∀ a, membership signal = some a → a ∈ memberships g.signals)
    (hdone : ∀ a, Processed before a → a ∈ memberships g.signals)
    (hsmall : ∀ a ∈ memberships g.signals, small a.clusterId →
      (membersOf g.signals a.clusterId).length ≤ 201)
    (hkept : ∀ a ∈ memberships g.signals,
      a ∈ memberships ((GraphCall.processSignal signal).exec toLowerCase g).signals) :
    Woven ((GraphCall.processSignal signal).exec toLowerCase g)
      (before ++ [.processSignal signal]) small := by
  obtain ⟨node, hnode, hweaves⟩ :=
    weaves_processSignal toLowerCase h.keyed h.canonical signal
  refine ⟨hweaves.keyed, hweaves.canonical, fun a ha => ?_, fun a b ha hb hcluster hne hc => ?_,
    shares_processSignal h hmember hkept⟩
  · rcases processed_concat.mp ha with hold | ⟨_, heq, hsignal⟩
    · obtain ⟨placed, hplaced, hkey⟩ := h.placed a hold
      obtain ⟨placed', hplaced', -, hkey'⟩ := hweaves.kept placed hplaced
      exact ⟨placed', hplaced', hkey'.trans hkey⟩
    · obtain rfl := GraphCall.processSignal.inj heq
      refine ⟨node, Table.mem_of_find hnode, ?_⟩
      rw [← (membership_eq_some.mp hsignal).2.2]
      exact Table.key_of_find hnode
  · rcases processed_concat.mp ha with haold | ⟨_, heqa, hsignala⟩
    · rcases processed_concat.mp hb with hbold | ⟨_, heqb, hsignalb⟩
      · exact hweaves.joined (h.joined a b haold hbold hcluster hne hc)
      · obtain rfl := GraphCall.processSignal.inj heqb
        have hbmem := hmember b hsignalb
        exact (joined_processSignal h hids hsignalb hbmem (hdone a haold) haold hcluster.symm
          hne.symm (hsmall b hbmem (hcluster ▸ hc))).symm
    · obtain rfl := GraphCall.processSignal.inj heqa
      rcases processed_concat.mp hb with hbold | ⟨_, heqb, hsignalb⟩
      · have hamem := hmember a hsignala
        exact joined_processSignal h hids hsignala hamem (hdone b hbold) hbold hcluster hne
          (hsmall a hamem hc)
      · -- a signal has one membership
        obtain rfl := GraphCall.processSignal.inj heqb
        rw [hsignala] at hsignalb
        exact absurd (congrArg Membership.indicator (Option.some.inj hsignalb)) hne

/-- Another call neither processes a signal nor links one. -/
theorem Woven.other (h : Woven g before small) (hcall : ∀ signal, call ≠ .processSignal signal)
    (hkept : ∀ a ∈ memberships g.signals, a ∈ memberships (call.exec toLowerCase g).signals) :
    Woven (call.exec toLowerCase g) (before ++ [call]) small := by
  have hweaves : Weaves g (call.exec toLowerCase g) _ := weaves_exec h.keyed h.canonical hcall
  have hold : ∀ {a}, Processed (before ++ [call]) a → Processed before a := by
    intro a ha
    rcases processed_concat.mp ha with hold | ⟨signal, heq, -⟩
    · exact hold
    · exact absurd heq (hcall signal)
  refine ⟨hweaves.keyed, hweaves.canonical, fun a ha => ?_, fun a b ha hb hcluster hne hc => ?_,
    fun key hkey htype => ?_⟩
  · obtain ⟨placed, hplaced, hkey⟩ := h.placed a (hold ha)
    obtain ⟨placed', hplaced', -, hkey'⟩ := hweaves.kept placed hplaced
    exact ⟨placed', hplaced', hkey'.trans hkey⟩
  · exact hweaves.joined (h.joined a b (hold ha) (hold hb) hcluster hne hc)
  · have hbefore := ((hweaves.keys key htype).mp hkey).resolve_right id
    exact hweaves.shares hkept (h.shares key hbefore htype)

theorem Steady.woven (hsteady : Steady toLowerCase g₀ calls) (hkeyed : g₀.store.Keyed)
    (hcanonical : Canonical g₀.store)
    (hedges : ∀ e ∈ g₀.edges, e.edgeType ≠ .coOccurrenceCluster) :
    ∀ before, before <+: calls →
      Woven (after (GraphCall.exec toLowerCase) g₀ before) before fun c =>
        (membersOf (after (GraphCall.exec toLowerCase) g₀ calls).signals c).length ≤ 201 := by
  refine forall_prefix ?_ fun before call hmoment h => ?_
  · refine ⟨hkeyed, hcanonical, ?_, ?_, fun key hkey htype => ?_⟩
    · rintro a ⟨signal, hmem, -⟩
      exact absurd hmem List.not_mem_nil
    · rintro a b ⟨signal, hmem, -⟩
      exact absurd hmem List.not_mem_nil
    · obtain ⟨e, he, rfl⟩ := List.mem_map.mp hkey
      exact absurd htype (hedges e he)
  · have hbefore : before <+: calls := (List.prefix_append before [call]).trans hmoment
    have hkept := hsteady.kept before _ (List.prefix_append before [call]) hmoment
    rw [after_concat] at hkept ⊢
    by_cases hcall : ∃ signal, call = .processSignal signal
    · obtain ⟨signal, rfl⟩ := hcall
      have hend := hsteady.kept before calls hbefore (List.prefix_refl calls)
      refine h.processSignal (hsteady.ids before hbefore)
        (hsteady.processed before signal hmoment) ?_ (fun a ha hsize => ?_) hkept
      · -- what was processed before was a member then
        rintro a ⟨earlier, hmem, hsignal⟩
        obtain ⟨l, r, rfl⟩ := List.append_of_mem hmem
        have hl : l ++ [.processSignal earlier] <+: l ++ .processSignal earlier :: r := by simp
        exact hsteady.kept l _ ((List.prefix_append l _).trans hl) hbefore a
          (hsteady.processed l earlier (hl.trans hbefore) a hsignal)
      · obtain ⟨s, -, hs⟩ := List.mem_filterMap.mp ha
        have hne : a.clusterId ≠ [] := ne_nil_of_present (membership_eq_some.mp hs).1
        exact (length_membersOf_le (hsteady.ids before hbefore) hend hne).trans hsize
    · exact h.other (fun signal heq => hcall ⟨signal, heq⟩) hkept

/-- **The edges of clusters are complete, and sound**: after all members were processed, each two
indicators of a cluster whose siblings fit into one scan are joined, and an edge joins indicators
of one cluster only. -/
theorem cluster_complete (hkeyed : g₀.store.Keyed) (hcanonical : Canonical g₀.store)
    (hedges : ∀ e ∈ g₀.edges, e.edgeType ≠ .coOccurrenceCluster)
    (hsteady : Steady toLowerCase g₀ calls)
    (hall : ∀ a ∈ memberships (after (GraphCall.exec toLowerCase) g₀ calls).signals,
      Processed calls a) :
    (∀ a ∈ memberships (after (GraphCall.exec toLowerCase) g₀ calls).signals,
      ∀ b ∈ memberships (after (GraphCall.exec toLowerCase) g₀ calls).signals,
        a.clusterId = b.clusterId → a.indicator ≠ b.indicator →
        (membersOf (after (GraphCall.exec toLowerCase) g₀ calls).signals a.clusterId).length ≤ 201 →
          Joined (after (GraphCall.exec toLowerCase) g₀ calls) a.indicator b.indicator) ∧
    ∀ e ∈ (after (GraphCall.exec toLowerCase) g₀ calls).edges,
      e.edgeType = .coOccurrenceCluster →
        Shares (after (GraphCall.exec toLowerCase) g₀ calls) e.key := by
  have hwoven := hsteady.woven hkeyed hcanonical hedges calls (List.prefix_refl calls)
  refine ⟨fun a ha b hb hcluster hne hsize => ?_, fun e he htype => ?_⟩
  · exact hwoven.joined a b (hall a ha) (hall b hb) hcluster hne hsize
  · exact hwoven.shares e.key (List.mem_map_of_mem he) htype

/-- A run in which nothing but signals of the table is processed. -/
theorem steady_of_processSignal (hkeyed : g₀.store.Keyed)
    (hids : (g₀.signals.map ScamSignal.id).Nodup)
    (hcalls : ∀ call ∈ calls, ∃ signal ∈ g₀.signals, call = .processSignal signal) :
    Steady toLowerCase g₀ calls ∧
      (after (GraphCall.exec toLowerCase) g₀ calls).signals = g₀.signals := by
  have hsame : ∀ before, before <+: calls →
      (after (GraphCall.exec toLowerCase) g₀ before).store.Keyed ∧
        (after (GraphCall.exec toLowerCase) g₀ before).signals = g₀.signals := by
    refine forall_prefix ⟨hkeyed, rfl⟩ fun before call hmoment h => ?_
    obtain ⟨signal, -, rfl⟩ := hcalls call (hmoment.subset (by simp))
    obtain ⟨result, s', g', hrun, hcounted, new, hlinking, -⟩ := run_processSignal h.1 signal
    rw [after_concat, GraphCall.exec, hrun]
    exact ⟨hlinking.keyed (hcounted.keyed h.1), hlinking.signals.trans h.2⟩
  refine ⟨⟨fun before hbefore => ?_, fun before later hbefore hlater a ha => ?_,
    fun before signal hmoment a ha => ?_⟩, (hsame calls (List.prefix_refl calls)).2⟩
  · rw [(hsame before hbefore).2]
    exact hids
  · rw [(hsame before (hbefore.trans hlater)).2] at ha
    rw [(hsame later hlater).2]
    exact ha
  · obtain ⟨row, hrow, heq⟩ := hcalls (.processSignal signal) (hmoment.subset (by simp))
    obtain rfl := GraphCall.processSignal.inj heq
    rw [(hsame before ((List.prefix_append before _).trans hmoment)).2]
    exact List.mem_filterMap.mpr ⟨signal, hrow, ha⟩

end Runs

namespace Sample

def clusterId : Uuid := [0x63]

def reported (id value : Text) : ScamSignal where
  id := id
  tenantId := none
  submittedByUserId := none
  sourceType := .userReport
  category := none
  indicatorType := .domain
  indicatorValue := value
  normalizedIndicator := value
  description := none
  rawText := none
  reportCount := 1
  confidenceScore := 10
  sourceReliabilityScore := 10
  evidenceStrengthScore := 0
  recencyScore := 0
  status := .unverifiedReport
  geography := none
  firstSeen := now
  lastSeen := now
  clusterId := some clusterId
  publicSafeCandidate := false

def domainA : ScamSignal := reported campaignId "a.evil.example"

def domainB : ScamSignal := reported nodeId "b.evil.example"

theorem canonical_blank : Canonical blank.store where
  nodes _ h := absurd h List.not_mem_nil
  fresh n := by
    show asUuid (List.replicate n 0x61) = List.replicate n 0x61
    simp [asUuid, lowerAscii, lowerUnit]

theorem membership_reported (id value : Text) : membership (reported id value) =
    some ⟨id, clusterId, indicatorOf (reported id value)⟩ :=
  membership_eq_some.mpr ⟨rfl, rfl, rfl⟩

/-- Two signals of one cluster. -/
def clustered : Graph := { blank with signals := [domainA, domainB] }

def bothProcessed : List GraphCall := [.processSignal domainA, .processSignal domainB]

end Sample

open Sample in
theorem cluster_complete_both : Joined (after (GraphCall.exec lowerAscii) clustered bothProcessed)
    (indicatorOf domainA) (indicatorOf domainB) := by
  have hkeyed : clustered.store.Keyed := keyed_blank
  have hids : (clustered.signals.map ScamSignal.id).Nodup := by decide
  obtain ⟨hsteady, hsignals⟩ : Steady lowerAscii clustered bothProcessed ∧ _ :=
    steady_of_processSignal hkeyed hids fun call hcall => by
      rcases List.mem_pair.mp hcall with rfl | rfl
      · exact ⟨domainA, List.mem_cons_self, rfl⟩
      · exact ⟨domainB, List.mem_cons_of_mem _ List.mem_cons_self, rfl⟩
  have hall : ∀ signal ∈ clustered.signals, GraphCall.processSignal signal ∈ bothProcessed := by
    intro signal hsignal
    rcases List.mem_pair.mp hsignal with rfl | rfl
    · exact List.mem_cons_self
    · exact List.mem_cons_of_mem _ List.mem_cons_self
  have hA : domainA ∈ clustered.signals := List.mem_cons_self
  have hB : domainB ∈ clustered.signals := List.mem_cons_of_mem _ List.mem_cons_self
  have hcomplete := (cluster_complete hkeyed canonical_blank
    (fun e he => absurd he List.not_mem_nil) hsteady fun a ha => by
      rw [hsignals] at ha
      obtain ⟨signal, hsignal, hsame⟩ := List.mem_filterMap.mp ha
      exact ⟨signal, hall signal hsignal, hsame⟩).1
  rw [hsignals] at hcomplete
  refine hcomplete _ (List.mem_filterMap.mpr ⟨domainA, hA, membership_reported ..⟩) _
    (List.mem_filterMap.mpr ⟨domainB, hB, membership_reported ..⟩) rfl (by decide) ?_
  exact (List.length_filter_le _ _).trans (by decide)

end FraudGraph
