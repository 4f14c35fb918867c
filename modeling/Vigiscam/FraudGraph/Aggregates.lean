import Vigiscam.Concurrency.Tally
import Vigiscam.FraudGraph.Counting

/-!
# The aggregates of the indicators

What the nodes say of the indicators is a tally of the findings: one node for each indicator that
was found, with the number of its findings and the greatest of their scores
(`aggregates_tally`). So the order of the calls does not matter (`aggregates_perm`).
-/

namespace FraudGraph

open Js Concurrency ScamSignals Tally

/-- The finding of a call: the indicator as it is stored, and the score; a missing score is 0. -/
def finding (toLowerCase : Text → Text) : GraphCall → Option (Item IndicatorKey)
  | .recordNode input =>
    some ⟨(some input.indicatorType, some (input.normalized toLowerCase)), input.riskScore.getD 0⟩
  | .processSignal signal =>
    some ⟨(some signal.indicatorType, some signal.normalizedIndicator), signal.confidenceScore⟩
  | .createCampaign _ | .addCampaignMember _ _ | .removeCampaignMember _ _ | .others _ _ _ => none

def indicators (nodes : List FraudGraphNode) : List FraudGraphNode :=
  nodes.filter fun node => node.indicatorType.isSome

/-- The columns of an indicator's node that the findings decide. -/
def aggregate (node : FraudGraphNode) : Row IndicatorKey :=
  ⟨node.key, node.signalCount, node.riskScore⟩

/-- The nodes of the indicators are of their type. -/
def Typed (nodes : List FraudGraphNode) : Prop :=
  ∀ node ∈ indicators nodes, node.nodeType = .indicator

def aggregates (nodes : List FraudGraphNode) : List (Row IndicatorKey) :=
  (indicators nodes).map aggregate

section Steps

variable {s s' : Store} {node : FraudGraphNode} {nodes : List FraudGraphNode} {key : IndicatorKey}
  {score : Int}

theorem keys_aggregates : (aggregates nodes).map Row.key =
    (indicators nodes).map FraudGraphNode.key := by
  rw [aggregates, List.map_map]
  rfl

theorem mem_keys_aggregates (hkey : key.1.isSome) :
    key ∈ (aggregates nodes).map Row.key ↔ key ∈ nodes.map FraudGraphNode.key := by
  rw [keys_aggregates]
  constructor
  · exact fun h => (List.filter_sublist.map FraudGraphNode.key).subset h
  · intro h
    obtain ⟨node, hnode, rfl⟩ := List.mem_map.mp h
    exact List.mem_map_of_mem (List.mem_filter.mpr ⟨hnode, hkey⟩)

theorem aggregates_append (node : FraudGraphNode) :
    aggregates (nodes ++ [node]) =
      aggregates nodes ++ if node.indicatorType.isSome then [aggregate node] else [] := by
  rw [aggregates, indicators, List.filter_append, List.map_append]
  by_cases h : node.indicatorType.isSome <;> simp [h, aggregates, indicators]

theorem typed_append (h : Typed nodes)
    (hnode : node.indicatorType.isSome → node.nodeType = .indicator) :
    Typed (nodes ++ [node]) := by
  intro n hn
  obtain ⟨hmem, hsome⟩ := List.mem_filter.mp hn
  rcases List.mem_append.mp hmem with hold | hnew
  · exact h n (List.mem_filter.mpr ⟨hold, hsome⟩)
  · obtain rfl := List.mem_singleton.mp hnew
    exact hnode hsome

theorem Counted.typed (hcounted : Counted key score s node s') (h : Typed s.nodes) :
    Typed s'.nodes := by
  cases hcounted with
  | created hnew hid hkey htype hcount hrisk => exact typed_append h fun _ => htype
  | @updated e f hfound hnode hid hkey htype hcount hrisk =>
    intro n hn
    obtain ⟨hmem, hsome⟩ := List.mem_filter.mp hn
    obtain ⟨old, hold, rfl⟩ := Table.mem_modify.mp hmem
    by_cases hsame : old.id = e.id
    · rw [if_pos hsame] at hsome ⊢
      rw [htype]
      have hkeep : (f old).indicatorType = old.indicatorType := congrArg Prod.fst (hkey old)
      exact h old (List.mem_filter.mpr ⟨hold, hkeep ▸ hsome⟩)
    · rw [if_neg hsame] at hsome ⊢
      exact h old (List.mem_filter.mpr ⟨hold, hsome⟩)

/-- A change of the nodes that leaves their indicators alone. -/
theorem indicators_map {f : FraudGraphNode → FraudGraphNode}
    (hf : ∀ node, (f node).key = node.key) :
    indicators (nodes.map f) = (indicators nodes).map f := by
  rw [indicators, List.filter_map]
  congr 1
  refine List.filter_congr fun node _ => ?_
  exact congrArg (fun key : IndicatorKey => key.1.isSome) (hf node)

/-- The node of an indicator, counted once more, is its row, counted once more. -/
theorem aggregates_modify {e : FraudGraphNode} {f : FraudGraphNode → FraudGraphNode}
    (he : e ∈ nodes) (hsome : e.key.1.isSome) (hids : (nodes.map FraudGraphNode.id).Nodup)
    (hkeys : ((aggregates nodes).map Row.key).Nodup) (hkey : ∀ node, (f node).key = node.key)
    (hcount : (f e).signalCount = e.signalCount + 1)
    (hrisk : (f e).riskScore = max e.riskScore score) :
    aggregates (Table.modify FraudGraphNode.id e.id f nodes) =
      Table.modify Row.key e.key (Row.add score) (aggregates nodes) := by
  have hkeep : ∀ node : FraudGraphNode,
      (if node.id = e.id then f node else node).key = node.key := by
    intro node
    split
    · exact hkey node
    · rfl
  rw [aggregates, Table.modify, indicators_map hkeep, List.map_map, Table.modify, aggregates,
    List.map_map]
  refine List.map_congr_left fun node hnode => ?_
  have hmem : node ∈ nodes := List.mem_of_mem_filter hnode
  show aggregate (if node.id = e.id then f node else node) =
    if node.key = e.key then (aggregate node).add score else aggregate node
  by_cases hid : node.id = e.id
  · obtain rfl := List.inj_on_of_nodup_map hids hmem he hid
    rw [if_pos rfl, if_pos rfl, aggregate, hkey, hcount, hrisk]
    rfl
  · -- a node of the same indicator would be the same node
    have hother : node.key ≠ e.key := by
      intro hsame
      rw [keys_aggregates] at hkeys
      have heq := List.inj_on_of_nodup_map hkeys hnode (List.mem_filter.mpr ⟨he, hsome⟩) hsame
      exact hid (congrArg FraudGraphNode.id heq)
    rw [if_neg hid, if_neg hother]

/-- **A finding is one more item of the tally.** -/
theorem Counted.aggregates (hcounted : Counted key score s node s') (hsome : key.1.isSome)
    (hids : (s.nodes.map FraudGraphNode.id).Nodup)
    (hkeys : ((aggregates s.nodes).map Row.key).Nodup) :
    aggregates s'.nodes = add (aggregates s.nodes) ⟨key, score⟩ := by
  cases hcounted with
  | created hnew hid hkey htype hcount hrisk =>
    have hnone : key ∉ (FraudGraph.aggregates s.nodes).map Row.key := by
      rw [mem_keys_aggregates hsome]
      exact Table.find_eq_none_iff.mp hnew
    have hindicator : node.indicatorType.isSome := by
      rw [← hkey] at hsome
      exact hsome
    rw [aggregates_append, if_pos hindicator, aggregate, hkey, hcount, hrisk]
    exact (add_of_not_mem ⟨key, score⟩ hnone).symm
  | @updated e f hfound hnode hid hkey htype hcount hrisk =>
    subst hnode
    have he : e ∈ s.nodes := Table.mem_of_find hfound
    obtain rfl : e.key = key := Table.key_of_find hfound
    rw [aggregates_modify he hsome hids hkeys hkey hcount hrisk]
    refine (add_of_mem ⟨e.key, score⟩ ?_).symm
    exact (mem_keys_aggregates hsome).mpr (List.mem_map_of_mem he)

end Steps

/-! ## Runs -/

section Runs

variable {toLowerCase : Text → Text} {g g₀ : Graph} {call : GraphCall}
  {calls calls' : List GraphCall}

/-- The nodes after a call. -/
structure CountedCall (toLowerCase : Text → Text) (g g' : Graph) (call : GraphCall) : Prop where
  keyed : g'.store.Keyed
  typed : Typed g.store.nodes → Typed g'.store.nodes
  aggregates : aggregates g'.store.nodes =
    ((finding toLowerCase call).elim (aggregates g.store.nodes) (add (aggregates g.store.nodes)))

/-- A call that leaves the nodes alone. -/
theorem countedCall_of_same {g' : Graph} (hkeyed : g.store.Keyed)
    (hnone : finding toLowerCase call = none) (hnodes : g'.store.nodes = g.store.nodes)
    (huuid : g'.store.uuid = g.store.uuid) (hissued : g.store.issued ≤ g'.store.issued) :
    CountedCall toLowerCase g g' call := by
  refine ⟨⟨?_, ?_, fun n hn => ?_⟩, fun h => hnodes ▸ h, ?_⟩
  · rw [hnodes]
    exact hkeyed.ids
  · rw [huuid]
    exact hkeyed.injective
  · rw [huuid, hnodes]
    exact hkeyed.fresh n (hissued.trans hn)
  · rw [hnone, hnodes]
    rfl

theorem countedCall (hkeyed : g.store.Keyed)
    (hkeys : ((aggregates g.store.nodes).map Row.key).Nodup) (call : GraphCall) :
    CountedCall toLowerCase g (call.exec toLowerCase g) call := by
  cases call with
  | recordNode input =>
    obtain ⟨node, s', hrun, hcounted⟩ := counted_recordNode hkeyed toLowerCase input
    rw [GraphCall.exec, run_onNodes, hrun]
    exact ⟨hcounted.keyed hkeyed, hcounted.typed, hcounted.aggregates rfl hkeyed.ids hkeys⟩
  | processSignal signal =>
    obtain ⟨result, s', g', hrun, hcounted, new, hlinking, -⟩ := run_processSignal hkeyed signal
    rw [GraphCall.exec, hrun]
    refine ⟨hlinking.keyed (hcounted.keyed hkeyed), ?_, ?_⟩
    · rw [hlinking.nodes]
      exact hcounted.typed
    · rw [hlinking.nodes]
      exact hcounted.aggregates rfl hkeyed.ids hkeys
  | createCampaign input =>
    have hcreate := hkeyed.run_createNode (newCampaign input) rfl fun h => absurd rfl h
    rw [GraphCall.exec, createCampaign, run_onNodes, hcreate]
    refine ⟨hkeyed.append rfl, fun h => typed_append h fun hsome => ?_, ?_⟩
    · cases hsome
    · rw [aggregates_append]
      exact List.append_nil _
  | addCampaignMember a b =>
    by_cases haddable : Addable g a b
    · obtain ⟨node, hrun⟩ := run_addCampaignMember_of_addable haddable
      rw [GraphCall.exec, hrun]
      have hlinking : Linking g (g.upsert (edgeKey a b .campaignMembership) 1) _ :=
        linking_upsert _ _
      exact countedCall_of_same hkeyed rfl hlinking.nodes hlinking.uuid hlinking.issued
    · obtain ⟨e, hrun⟩ := run_addCampaignMember_of_not_addable haddable
      rw [GraphCall.exec, hrun]
      exact countedCall_of_same hkeyed rfl rfl rfl (Nat.le_refl _)
  | removeCampaignMember a b =>
    rw [GraphCall.exec]
    have hstore := (run_removeCampaignMember a b g).1
    exact countedCall_of_same hkeyed rfl (by rw [hstore]) (by rw [hstore]) (by rw [hstore])
  | others signals similarities now => exact countedCall_of_same hkeyed rfl rfl rfl (Nat.le_refl _)

/-- **The indicators are the tally of the findings.** -/
theorem aggregates_tally (hkeyed : g₀.store.Keyed)
    (hnew : ∀ node ∈ g₀.store.nodes, node.indicatorType = none) (calls : List GraphCall) :
    (after (GraphCall.exec toLowerCase) g₀ calls).store.Keyed ∧
      Typed (after (GraphCall.exec toLowerCase) g₀ calls).store.nodes ∧
      aggregates (after (GraphCall.exec toLowerCase) g₀ calls).store.nodes =
        tally (calls.filterMap (finding toLowerCase)) := by
  induction calls using List.reverseRecOn with
  | nil =>
    have hnone : indicators g₀.store.nodes = [] := List.filter_eq_nil_iff.mpr fun node hnode => by
      simp [hnew node hnode]
    rw [after_nil, Typed, aggregates, hnone]
    exact ⟨hkeyed, fun _ h => absurd h List.not_mem_nil, rfl⟩
  | append_singleton calls call ih =>
    obtain ⟨hkeyed', htyped, htally⟩ := ih
    have hkeys : ((aggregates (after (GraphCall.exec toLowerCase) g₀ calls).store.nodes).map
        Row.key).Nodup := by
      rw [htally]
      exact nodup_tally _
    have hcall : CountedCall toLowerCase _ _ call := countedCall hkeyed' hkeys call
    rw [after_concat, List.filterMap_append]
    refine ⟨hcall.keyed, hcall.typed htyped, ?_⟩
    rw [hcall.aggregates, htally]
    cases hfinding : finding toLowerCase call with
    | none => simp [hfinding]
    | some item => simp [hfinding]

/-- **The aggregates do not depend on the order of the calls**: each indicator that was found has
one node, with the number of its findings and the greatest of their scores. -/
theorem aggregates_perm (hkeyed : g₀.store.Keyed)
    (hnew : ∀ node ∈ g₀.store.nodes, node.indicatorType = none) (hcalls : calls.Perm calls') :
    (aggregates (after (GraphCall.exec toLowerCase) g₀ calls).store.nodes).Perm
        (aggregates (after (GraphCall.exec toLowerCase) g₀ calls').store.nodes) ∧
      ((indicators (after (GraphCall.exec toLowerCase) g₀ calls).store.nodes).map
        FraudGraphNode.key).Nodup ∧
      Typed (after (GraphCall.exec toLowerCase) g₀ calls).store.nodes ∧
      ∀ row, row ∈ aggregates (after (GraphCall.exec toLowerCase) g₀ calls).store.nodes ↔
        row.Of (calls.filterMap (finding toLowerCase)) := by
  have htally : ∀ calls, aggregates (after (GraphCall.exec toLowerCase) g₀ calls).store.nodes =
      tally (calls.filterMap (finding toLowerCase)) := fun calls =>
    (aggregates_tally hkeyed hnew calls).2.2
  refine ⟨?_, ?_, (aggregates_tally hkeyed hnew calls).2.1, fun row => ?_⟩
  · rw [htally, htally]
    exact tally_perm (hcalls.filterMap _)
  · rw [← keys_aggregates, htally]
    exact nodup_tally _
  · rw [htally]
    exact mem_tally

end Runs

namespace Sample

/-- A graph without rows. -/
def blank : Graph where
  store := { nodes := [], now := now, uuid := fun n => List.replicate n 0x61, issued := 0 }
  edges := []
  signals := []
  similarities := []

theorem keyed_blank : blank.store.Keyed where
  ids := List.nodup_nil
  injective m n h := by simpa [blank] using congrArg List.length h
  fresh _ _ := List.not_mem_nil

def found : GraphCall := .recordNode ⟨.email, "Mallory@evil.example", none, some 40⟩

def foundAgain : GraphCall := .recordNode ⟨.email, " mallory@evil.example", none, none⟩

end Sample

open Sample in
theorem aggregates_perm_blank :
    (aggregates (after (GraphCall.exec lowerAscii) blank [found, foundAgain]).store.nodes).Perm
      (aggregates (after (GraphCall.exec lowerAscii) blank [foundAgain, found]).store.nodes) :=
  (aggregates_perm keyed_blank (fun _ h => absurd h List.not_mem_nil)
    (List.Perm.swap foundAgain found [])).1

end FraudGraph
