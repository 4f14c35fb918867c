import Mathlib.Data.Fin.VecNotation
import Mathlib.Data.Set.Insert
import Vigiscam.Clustering.Service
import Vigiscam.Concurrency.Sure
import Vigiscam.ScamSignals.Counting

/-!
# Clusters after concurrent intake

Two calls that look for the cluster of a key before either of them has created it both create it;
the one that comes second fails on the unique key, intake goes on, and its signal is linked to
nothing (`loser_unlinked`). And a recount that is overtaken writes what it has read before
(`stale_recount`). Where every creation finds its key free and every recount writes what is true
when it writes, each signal is linked to the cluster of its key, and each cluster counts its
signals right, once all calls have finished (`clusters_settled`).
-/

namespace Clustering

open Js Concurrency ScamSignals

/-! ## What runs -/

/-- The key of the cluster of an indicator. -/
def clusterKeyOf (platform : Platform) (k : Indicator) : Option Text :=
  (deriveClusterKey platform.toLowerCase k.type k.normalized).map (·.key)

inductive Call where
  | intake (opts : IntakeOptions)
  | review (reviewer : AuthenticatedUser) (signalId : Uuid) (dto : ReviewSignalDto)
    (ip : Option Text)
  | clock (now : Date)

/-- What a call does; an intake returns the id of its signal. -/
def Call.program (platform : Platform) : Call → Program (Option Uuid)
  | intake opts => do
    let signal ← Clustering.intake platform opts
    return some signal.id
  | review reviewer signalId dto ip => do
    let _ ← beside (reviewSignal reviewer signalId dto ip)
    return none
  | clock now => do
    beside (Prog.act .read .internal fun s => ((), { s with now }))
    return none

/-- The cluster key of what a call reports. -/
def Call.clusterKey (platform : Platform) : Call → Option Text
  | intake opts => clusterKeyOf platform (opts.dto.indicator platform)
  | review _ _ _ _ | clock _ => none

/-- A cluster is created when its key is free, and a recount writes what is true then. -/
def InTime : ClusterStep → Store → Prop
  | .create clusterKey, s => s.FreeFor clusterKey
  | .recount clusterId agg, s => agg = aggregate clusterId s.signals
  | .signal _, _ | .read, _ | .link, _ => True

instance : (l : ClusterStep) → (s : Store) → Decidable (InTime l s)
  | .create clusterKey, s => inferInstanceAs (Decidable (s.FreeFor clusterKey))
  | .recount clusterId agg, s => inferInstanceAs (Decidable (agg = aggregate clusterId s.signals))
  | .signal _, _ | .read, _ | .link, _ => isTrue trivial

/-- Calls at their start. -/
def calling {ι : Type} (platform : Platform) (call : ι → Call) (s : Store) :
    Pool ι Store (Program (Option Uuid)) where
  shared := s
  locals i := (call i).program platform

/-! ## Signals and clusters -/

def IsSignal (id : Uuid) (k : Indicator) (s : Store) : Prop :=
  ∃ x ∈ s.signals, x.id = id ∧ x.indicator = k

def IsCluster (id : Uuid) (key : Text) (s : Store) : Prop :=
  ∃ cluster ∈ s.clusters, cluster.id = id ∧ cluster.clusterKey = key

def Linked (id clusterId : Uuid) (s : Store) : Prop :=
  ∃ x ∈ s.signals, x.id = id ∧ x.clusterId = some clusterId

/-- The cluster counts its signals right. -/
def ScamCluster.Current (cluster : ScamCluster) (s : Store) : Prop :=
  cluster.withAggregate (aggregate cluster.id s.signals) = cluster

/-- Ids and keys are unique, and signals are linked to the cluster of their key. -/
structure Sound (platform : Platform) (s : Store) : Prop where
  signalIds : (s.signals.map ScamSignal.id).Nodup
  clusterIds : (s.clusters.map ScamCluster.id).Nodup
  clusterKeys : (s.clusters.map ScamCluster.clusterKey).Nodup
  linked : ∀ x ∈ s.signals, ∀ clusterId, x.clusterId = some clusterId →
    ∃ key, clusterKeyOf platform x.indicator = some key ∧ IsCluster clusterId key s

/-- What no call takes back. -/
structure Onward (s t : Store) : Prop where
  signals : ∀ id k, IsSignal id k s → IsSignal id k t
  clusters : ∀ id key, IsCluster id key s → IsCluster id key t
  links : ∀ id clusterId, Linked id clusterId s → Linked id clusterId t

theorem closed_onward : Closed Onward where
  refl _ := ⟨fun _ _ h => h, fun _ _ h => h, fun _ _ h => h⟩
  trans h h' := ⟨fun id k hid => h'.signals id k (h.signals id k hid),
    fun id key hid => h'.clusters id key (h.clusters id key hid),
    fun id clusterId hid => h'.links id clusterId (h.links id clusterId hid)⟩

section Sound

variable {platform : Platform} {s t : Store} {id clusterId clusterId' : Uuid} {k : Indicator}
  {key key' : Text}

theorem Sound.signal_eq (h : Sound platform s) {x y : ScamSignal} (hx : x ∈ s.signals)
    (hy : y ∈ s.signals) (hid : x.id = y.id) : x = y :=
  List.inj_on_of_nodup_map h.signalIds hx hy hid

/-- A cluster has one key. -/
theorem Sound.key_eq (h : Sound platform s) (hcluster : IsCluster clusterId key s)
    (hcluster' : IsCluster clusterId key' s) : key = key' := by
  obtain ⟨cluster, hmem, hid, rfl⟩ := hcluster
  obtain ⟨cluster', hmem', hid', rfl⟩ := hcluster'
  rw [List.inj_on_of_nodup_map h.clusterIds hmem hmem' (hid.trans hid'.symm)]

/-- A key has one cluster. -/
theorem Sound.cluster_eq (h : Sound platform s) (hcluster : IsCluster clusterId key s)
    (hcluster' : IsCluster clusterId' key s) : clusterId = clusterId' := by
  obtain ⟨cluster, hmem, rfl, hkey⟩ := hcluster
  obtain ⟨cluster', hmem', rfl, hkey'⟩ := hcluster'
  rw [List.inj_on_of_nodup_map h.clusterKeys hmem hmem' (hkey.trans hkey'.symm)]

end Sound

/-! ## What a change of the signals leaves of the clusters -/

/-- Two rows of a signal that are the same to its cluster. -/
structure SameStanding (x y : ScamSignal) : Prop where
  clusterId : y.clusterId = x.clusterId
  firstSeen : y.firstSeen = x.firstSeen
  lastSeen : y.lastSeen = x.lastSeen
  confidenceScore : y.confidenceScore = x.confidenceScore

theorem aggregate_map {g : ScamSignal → ScamSignal} {signals : List ScamSignal} {clusterId : Uuid}
    (hg : ∀ x ∈ signals, x.clusterId = some clusterId ∨ (g x).clusterId = some clusterId →
      SameStanding x (g x)) :
    aggregate clusterId (signals.map g) = aggregate clusterId signals := by
  have hmembers : members clusterId (signals.map g) = (members clusterId signals).map g := by
    rw [members, List.filter_map, members]
    congr 1
    refine List.filter_congr fun x hx => ?_
    show decide ((g x).clusterId = some clusterId) = decide (x.clusterId = some clusterId)
    rw [decide_eq_decide]
    constructor
    · intro h
      rw [← (hg x hx (Or.inr h)).clusterId]
      exact h
    · intro h
      rw [(hg x hx (Or.inl h)).clusterId]
      exact h
  have hsame : ∀ x ∈ members clusterId signals, SameStanding x (g x) := by
    intro x hx
    obtain ⟨hmem, hclusterId⟩ := List.mem_filter.mp hx
    exact hg x hmem (Or.inl (of_decide_eq_true hclusterId))
  have hcolumn : ∀ {α : Type} (column : ScamSignal → α),
      (∀ x ∈ members clusterId signals, column (g x) = column x) →
      ((members clusterId signals).map g).map column =
        (members clusterId signals).map column := by
    intro α column hsame
    rw [List.map_map]
    exact List.map_congr_left hsame
  simp only [aggregate, hmembers, List.length_map]
  rw [hcolumn (·.firstSeen) fun x hx => (hsame x hx).firstSeen,
    hcolumn (·.lastSeen) fun x hx => (hsame x hx).lastSeen,
    hcolumn (·.confidenceScore) fun x hx => (hsame x hx).confidenceScore]

/-- A change of the signals, row by row, that only the clusters of the key may notice. -/
structure Touches (platform : Platform) (key : Option Text) (g : ScamSignal → ScamSignal)
    (s : Store) : Prop where
  id : ∀ x, (g x).id = x.id
  indicator : ∀ x, (g x).indicator = x.indicator
  other : ∀ x ∈ s.signals, clusterKeyOf platform x.indicator ≠ key → SameStanding x (g x)
  kept : ∀ x ∈ s.signals, ∀ clusterId, x.clusterId = some clusterId →
    (g x).clusterId = some clusterId
  linked : ∀ x ∈ s.signals, ∀ clusterId, (g x).clusterId = some clusterId →
    x.clusterId = some clusterId ∨
      ∃ key', clusterKeyOf platform x.indicator = some key' ∧ IsCluster clusterId key' s

section Touches

variable {platform : Platform} {key : Option Text} {g : ScamSignal → ScamSignal} {s t : Store}

theorem Touches.onward (h : Touches platform key g s) (hsignals : t.signals = s.signals.map g)
    (hclusters : t.clusters = s.clusters) : Onward s t := by
  refine ⟨fun id k hid => ?_, fun id key' hid => ?_, fun id clusterId hid => ?_⟩
  · obtain ⟨x, hx, rfl, rfl⟩ := hid
    exact ⟨g x, hsignals ▸ List.mem_map_of_mem hx, h.id x, h.indicator x⟩
  · obtain ⟨cluster, hcluster, hid⟩ := hid
    exact ⟨cluster, hclusters ▸ hcluster, hid⟩
  · obtain ⟨x, hx, rfl, hclusterId⟩ := hid
    exact ⟨g x, hsignals ▸ List.mem_map_of_mem hx, h.id x, h.kept x hx clusterId hclusterId⟩

theorem Touches.sound (h : Touches platform key g s) (hs : Sound platform s)
    (hsignals : t.signals = s.signals.map g) (hclusters : t.clusters = s.clusters) :
    Sound platform t := by
  have honward := h.onward hsignals hclusters
  have hids : t.signals.map ScamSignal.id = s.signals.map ScamSignal.id := by
    rw [hsignals, List.map_map]
    exact List.map_congr_left fun x _ => h.id x
  refine ⟨hids ▸ hs.signalIds, hclusters ▸ hs.clusterIds, hclusters ▸ hs.clusterKeys, ?_⟩
  intro y hy clusterId hclusterId
  rw [hsignals] at hy
  obtain ⟨x, hx, rfl⟩ := List.mem_map.mp hy
  have hfound : ∃ key', clusterKeyOf platform x.indicator = some key' ∧
      IsCluster clusterId key' s := by
    rcases h.linked x hx clusterId hclusterId with hbefore | hnow
    · exact hs.linked x hx clusterId hbefore
    · exact hnow
  obtain ⟨key', hkey, hcluster⟩ := hfound
  exact ⟨key', (h.indicator x).symm ▸ hkey, honward.clusters clusterId key' hcluster⟩

/-- The cluster of another key is not concerned. -/
theorem Touches.current (h : Touches platform key g s) (hs : Sound platform s)
    (hsignals : t.signals = s.signals.map g) {cluster : ScamCluster}
    (hcluster : cluster ∈ s.clusters) (hkey : key ≠ some cluster.clusterKey)
    (hcurrent : cluster.Current s) : cluster.Current t := by
  have hsame : aggregate cluster.id t.signals = aggregate cluster.id s.signals := by
    rw [hsignals]
    refine aggregate_map fun x hx hmember => h.other x hx ?_
    have hthis : IsCluster cluster.id cluster.clusterKey s := ⟨cluster, hcluster, rfl, rfl⟩
    have hfound : ∃ key', clusterKeyOf platform x.indicator = some key' ∧
        IsCluster cluster.id key' s := by
      rcases hmember with hbefore | hafter
      · exact hs.linked x hx cluster.id hbefore
      · rcases h.linked x hx cluster.id hafter with hbefore | hnow
        · exact hs.linked x hx cluster.id hbefore
        · exact hnow
    obtain ⟨key', hkey', hcluster'⟩ := hfound
    rw [hkey', hs.key_eq hcluster' hthis]
    exact Ne.symm hkey
  rw [ScamCluster.Current, hsame]
  exact hcurrent

/-- The row of one signal is changed, which is of the key. -/
theorem touches_modify {id : Uuid} {k : Indicator} {f : ScamSignal → ScamSignal}
    (hs : Sound platform s) (hsignal : IsSignal id k s) (hkey : clusterKeyOf platform k = key)
    (hid : ∀ x, (f x).id = x.id) (hindicator : ∀ x, (f x).indicator = x.indicator)
    (hkept : ∀ x ∈ s.signals, x.id = id → ∀ clusterId, x.clusterId = some clusterId →
      (f x).clusterId = some clusterId)
    (hlinked : ∀ x ∈ s.signals, x.id = id → ∀ clusterId, (f x).clusterId = some clusterId →
      x.clusterId = some clusterId ∨
        ∃ key', clusterKeyOf platform x.indicator = some key' ∧ IsCluster clusterId key' s) :
    Touches platform key (fun x => if x.id = id then f x else x) s := by
  refine ⟨fun x => ?_, fun x => ?_, fun x hx hother => ?_, fun x hx clusterId h => ?_,
    fun x hx clusterId h => ?_⟩
  · split
    · exact hid x
    · rfl
  · split
    · exact hindicator x
    · rfl
  · obtain ⟨y, hy, rfl, rfl⟩ := hsignal
    by_cases hthis : x.id = y.id
    · rw [hs.signal_eq hx hy hthis] at hother
      exact absurd hkey hother
    · rw [if_neg hthis]
      exact ⟨rfl, rfl, rfl, rfl⟩
  · by_cases hthis : x.id = id
    · rw [if_pos hthis]
      exact hkept x hx hthis clusterId h
    · rw [if_neg hthis]
      exact h
  · by_cases hthis : x.id = id
    · rw [if_pos hthis] at h
      exact hlinked x hx hthis clusterId h
    · rw [if_neg hthis] at h
      exact Or.inl h

end Touches

/-! ## Calls that owe a recount -/

section Calls

variable {ι : Type} {platform : Platform} {call : ι → Call} {i : ι} {x y : Store × Set ι}

/-- The calls that have changed a cluster and have not recounted it yet. -/
def noteOwing (i : ι) (l : ClusterStep) (_ : Store) (owing : Set ι) : Set ι :=
  match l with
  | .signal (.merge _) | .create _ | .link => insert i owing
  | .recount _ _ => owing \ {i}
  | .signal _ | .read => owing

/-- Where a cluster does not count its signals right, a call owes it a recount. -/
structure Settling (platform : Platform) (call : ι → Call) (x : Store × Set ι) : Prop where
  sound : Sound platform x.1
  current : ∀ cluster ∈ x.1.clusters, cluster.Current x.1 ∨
    ∃ i ∈ x.2, (call i).clusterKey platform = some cluster.clusterKey

/-- What the others leave to the call `i`. -/
structure Leaves (i : ι) (x y : Store × Set ι) : Prop where
  onward : Onward x.1 y.1
  owing : i ∈ y.2 ↔ i ∈ x.2

def caller (i : ι) : Contract (Store × Set ι) ClusterStep where
  may l x := InTime l x.1
  rely := Leaves i
  guar x y := Onward x.1 y.1 ∧ ∀ j, j ≠ i → (j ∈ y.2 ↔ j ∈ x.2)

theorem closed_leaves : Closed (Leaves (ι := ι) i) where
  refl _ := ⟨closed_onward.refl _, Iff.rfl⟩
  trans h h' := ⟨closed_onward.trans h.onward h'.onward, h'.owing.trans h.owing⟩

/-- The signals are changed row by row, and a call that may have changed a cluster owes it a
recount. -/
theorem within_touches {key : Option Text} {g : ScamSignal → ScamSignal} {t : Store}
    {owing : Set ι} (hx : Settling platform call x) (h : Touches platform key g x.1)
    (hsignals : t.signals = x.1.signals.map g) (hclusters : t.clusters = x.1.clusters)
    (hothers : ∀ j, j ≠ i → (j ∈ owing ↔ j ∈ x.2)) (hkeeps : x.2 ⊆ owing)
    (hkey : ∀ key', key = some key' → i ∈ owing ∧ (call i).clusterKey platform = some key') :
    Prog.Within (Settling platform call) (caller i) x (t, owing) := by
  refine ⟨⟨h.sound hx.sound hsignals hclusters, fun cluster hcluster => ?_⟩,
    h.onward hsignals hclusters, hothers⟩
  have hcluster' : cluster ∈ x.1.clusters := by
    rw [← hclusters]
    exact hcluster
  by_cases hthis : key = some cluster.clusterKey
  · obtain ⟨howes, hcall⟩ := hkey _ hthis
    exact Or.inr ⟨i, howes, hcall⟩
  · rcases hx.current cluster hcluster' with hcurrent | ⟨j, hj, hcall⟩
    · exact Or.inl (h.current hx.sound hsignals hcluster' hthis hcurrent)
    · exact Or.inr ⟨j, hkeeps hj, hcall⟩

/-- A step that leaves the signals and the clusters alone. -/
theorem within_same {t : Store} (hx : Settling platform call x)
    (hsignals : t.signals = x.1.signals) (hclusters : t.clusters = x.1.clusters) :
    Prog.Within (Settling platform call) (caller i) x (t, x.2) := by
  have htouches : Touches platform none id x.1 :=
    ⟨fun _ => rfl, fun _ => rfl, fun _ _ _ => ⟨rfl, rfl, rfl, rfl⟩, fun _ _ _ h => h,
      fun _ _ _ h => Or.inl h⟩
  refine within_touches hx htouches ?_ hclusters (fun _ _ => Iff.rfl) (fun _ h => h) nofun
  rw [hsignals, List.map_id]

/-- What a reviewer decides does not concern the clusters. -/
theorem within_reviewed {l : SignalStep} {t : Store} (hx : Settling platform call x)
    (h : Reviewed l x.1.toStore t.toStore) (hclusters : t.clusters = x.1.clusters) :
    Prog.Within (Settling platform call) (caller i) x (t, x.2) := by
  obtain ⟨g, hsignals, hg⟩ := h.rows
  have hstanding : ∀ x, SameStanding x (g x) := by
    intro x
    rw [hg x]
    exact ⟨rfl, rfl, rfl, rfl⟩
  have htouches : Touches platform none g x.1 := by
    refine ⟨fun x => by rw [hg x], fun x => by rw [hg x]; rfl, fun x _ _ => hstanding x,
      fun x _ clusterId h => ?_, fun x _ clusterId h => Or.inl ?_⟩
    · rw [(hstanding x).clusterId]
      exact h
    · rw [← (hstanding x).clusterId]
      exact h
  exact within_touches hx htouches hsignals hclusters (fun _ _ => Iff.rfl) (fun _ h => h) nofun

/-- A new signal is linked to nothing. -/
theorem within_created {signal : ScamSignal} {t : Store} (hx : Settling platform call x)
    (hsignals : t.signals = x.1.signals ++ [signal]) (hclusters : t.clusters = x.1.clusters)
    (hfresh : signal.id ∉ x.1.signals.map ScamSignal.id) (hnone : signal.clusterId = none) :
    Prog.Within (Settling platform call) (caller i) x (t, x.2) := by
  have hsame : ∀ clusterId, aggregate clusterId t.signals = aggregate clusterId x.1.signals := by
    intro clusterId
    have hmembers : members clusterId t.signals = members clusterId x.1.signals := by
      rw [members, hsignals, List.filter_append, members]
      simp [hnone]
    rw [aggregate, hmembers]
    rfl
  have honward : Onward x.1 t := by
    refine ⟨fun id k ⟨y, hy, h⟩ => ⟨y, ?_, h⟩, fun id key ⟨cluster, hcluster, h⟩ =>
      ⟨cluster, hclusters ▸ hcluster, h⟩, fun id clusterId ⟨y, hy, h⟩ => ⟨y, ?_, h⟩⟩
    · rw [hsignals]
      exact List.mem_append_left _ hy
    · rw [hsignals]
      exact List.mem_append_left _ hy
  refine ⟨⟨⟨?_, hclusters ▸ hx.sound.clusterIds, hclusters ▸ hx.sound.clusterKeys, ?_⟩, ?_⟩,
    honward, fun _ _ => Iff.rfl⟩
  · show (t.signals.map ScamSignal.id).Nodup
    rw [hsignals, List.map_append]
    show (_ ++ [signal.id]).Nodup
    rw [← List.concat_eq_append]
    exact hx.sound.signalIds.concat hfresh
  · intro y hy clusterId hclusterId
    rw [show t.signals = _ from hsignals] at hy
    rcases List.mem_append.mp hy with hy | hy
    · obtain ⟨key, hkey, hcluster⟩ := hx.sound.linked y hy clusterId hclusterId
      exact ⟨key, hkey, honward.clusters clusterId key hcluster⟩
    · rw [List.mem_singleton.mp hy, hnone] at hclusterId
      cases hclusterId
  · intro cluster hcluster
    have hcluster : cluster ∈ x.1.clusters := hclusters ▸ hcluster
    refine (hx.current cluster hcluster).imp_left fun hcurrent => ?_
    show cluster.withAggregate (aggregate cluster.id t.signals) = cluster
    rw [hsame]
    exact hcurrent

/-- A new cluster has no signals, and its call owes it a recount. -/
theorem within_createCluster {derived : DerivedClusterKey} {category : Option Text}
    (hx : Settling platform call x) (hfree : x.1.FreeFor derived.key)
    (hcall : (call i).clusterKey platform = some derived.key) :
    Prog.Within (Settling platform call) (caller i) x
      (x.1.addCluster (newCluster derived category x.1.now (x.1.uuid x.1.issued)),
        insert i x.2) := by
  have honward : Onward x.1
      (x.1.addCluster (newCluster derived category x.1.now (x.1.uuid x.1.issued))) :=
    ⟨fun _ _ h => h, fun id key ⟨cluster, hcluster, h⟩ =>
      ⟨cluster, List.mem_append_left _ hcluster, h⟩, fun _ _ h => h⟩
  refine ⟨⟨⟨hx.sound.signalIds, ?_, ?_, fun y hy clusterId hclusterId => ?_⟩,
    fun cluster hcluster => ?_⟩, honward, fun j hj => ?_⟩
  · show ((x.1.clusters ++ [_]).map ScamCluster.id).Nodup
    rw [List.map_append]
    show (_ ++ [x.1.uuid x.1.issued]).Nodup
    rw [← List.concat_eq_append]
    exact hx.sound.clusterIds.concat hfree.2
  · show ((x.1.clusters ++ [_]).map ScamCluster.clusterKey).Nodup
    rw [List.map_append]
    show (_ ++ [derived.key]).Nodup
    rw [← List.concat_eq_append]
    exact hx.sound.clusterKeys.concat hfree.1
  · obtain ⟨key, hkey, hcluster⟩ := hx.sound.linked y hy clusterId hclusterId
    exact ⟨key, hkey, honward.clusters clusterId key hcluster⟩
  · rcases List.mem_append.mp hcluster with hcluster | hcluster
    · rcases hx.current cluster hcluster with hcurrent | ⟨j, hj, hkey⟩
      · exact Or.inl hcurrent
      · exact Or.inr ⟨j, Set.mem_insert_of_mem i hj, hkey⟩
    · rw [List.mem_singleton.mp hcluster]
      exact Or.inr ⟨i, Set.mem_insert i x.2, hcall⟩
  · simp [hj]

/-- A signal is linked to the cluster of its key. -/
theorem within_link {id clusterId : Uuid} {k : Indicator} {key : Text}
    (hx : Settling platform call x) (hsignal : IsSignal id k x.1)
    (hkey : clusterKeyOf platform k = some key) (hcluster : IsCluster clusterId key x.1)
    (hcall : (call i).clusterKey platform = some key) :
    Prog.Within (Settling platform call) (caller i) x
      (x.1.linkSignal id clusterId, insert i x.2) := by
  have hrow : ∀ y ∈ x.1.signals, y.id = id → y.indicator = k := by
    intro y hy hid
    obtain ⟨z, hz, hid', rfl⟩ := hsignal
    rw [hx.sound.signal_eq hy hz (hid.trans hid'.symm)]
  have htouches : Touches platform (some key) (fun y => if y.id = id then
      { y with clusterId := some clusterId } else y) x.1 := by
    refine touches_modify hx.sound hsignal hkey (fun _ => rfl) (fun _ => rfl)
      (fun y hy hid clusterId' h => ?_) fun y hy hid clusterId' h => Or.inr ⟨key, ?_, ?_⟩
    · -- a signal that is linked already is linked to this cluster
      obtain ⟨key', hkey', hcluster'⟩ := hx.sound.linked y hy clusterId' h
      rw [hrow y hy hid, hkey] at hkey'
      obtain rfl := Option.some.inj hkey'
      rw [hx.sound.cluster_eq hcluster hcluster']
    · rw [hrow y hy hid]
      exact hkey
    · obtain rfl := Option.some.inj h
      exact hcluster
  refine within_touches hx htouches rfl rfl (fun j hj => ?_) (Set.subset_insert i x.2)
    fun key' h => ⟨Set.mem_insert i x.2, h ▸ hcall⟩
  simp [hj]

/-- A report is merged into a signal. -/
theorem within_merge {id : Uuid} {k : Indicator} {f : ScamSignal → ScamSignal} {t : Store}
    (hx : Settling platform call x) (hsignal : IsSignal id k x.1)
    (hcall : (call i).clusterKey platform = clusterKeyOf platform k)
    (hf : ∀ y, (f y).id = y.id ∧ (f y).indicator = y.indicator ∧ (f y).clusterId = y.clusterId)
    (hsignals : t.signals = Table.modify ScamSignal.id id f x.1.signals)
    (hclusters : t.clusters = x.1.clusters) :
    Prog.Within (Settling platform call) (caller i) x (t, insert i x.2) := by
  have htouches : Touches platform (clusterKeyOf platform k)
      (fun y => if y.id = id then f y else y) x.1 := by
    refine touches_modify hx.sound hsignal rfl (fun y => (hf y).1) (fun y => (hf y).2.1)
      (fun y _ _ clusterId h => ?_) fun y _ _ clusterId h => Or.inl ?_
    · rw [(hf y).2.2]
      exact h
    · rw [← (hf y).2.2]
      exact h
  refine within_touches hx htouches hsignals hclusters (fun j hj => ?_) (Set.subset_insert i x.2)
    fun key' h => ⟨Set.mem_insert i x.2, hcall.trans h⟩
  simp [hj]

/-- A recount that writes what is true then is owed no more. -/
theorem within_recount {clusterId : Uuid} {key : Text} {agg : Aggregate}
    (hx : Settling platform call x) (hcluster : IsCluster clusterId key x.1)
    (hcall : (call i).clusterKey platform = some key)
    (hagg : agg = aggregate clusterId x.1.signals) :
    Prog.Within (Settling platform call) (caller i) x
      (x.1.writeAggregate clusterId agg, x.2 \ {i}) := by
  have hids : (x.1.writeAggregate clusterId agg).clusters.map ScamCluster.id =
      x.1.clusters.map ScamCluster.id := Table.map_modify fun _ => rfl
  have hkeys : (x.1.writeAggregate clusterId agg).clusters.map ScamCluster.clusterKey =
      x.1.clusters.map ScamCluster.clusterKey := Table.map_modify fun _ => rfl
  have honward : Onward x.1 (x.1.writeAggregate clusterId agg) := by
    refine ⟨fun _ _ h => h, fun id key' ⟨cluster, hmem, hid, hkey⟩ => ?_, fun _ _ h => h⟩
    refine ⟨_, Table.mem_modify.mpr ⟨cluster, hmem, rfl⟩, ?_, ?_⟩
    · split
      · exact hid
      · exact hid
    · split
      · exact hkey
      · exact hkey
  refine ⟨⟨⟨hx.sound.signalIds, hids ▸ hx.sound.clusterIds, hkeys ▸ hx.sound.clusterKeys,
    fun y hy clusterId' hclusterId => ?_⟩, fun cluster' hmem => ?_⟩, honward, fun j hj => ?_⟩
  · obtain ⟨key', hkey, hcluster'⟩ := hx.sound.linked y hy clusterId' hclusterId
    exact ⟨key', hkey, honward.clusters clusterId' key' hcluster'⟩
  · obtain ⟨cluster, hbefore, rfl⟩ := Table.mem_modify.mp hmem
    by_cases hthis : cluster.id = clusterId
    · subst hthis
      rw [if_pos rfl]
      left
      show (cluster.withAggregate agg).withAggregate (aggregate cluster.id x.1.signals) = _
      rw [← hagg]
      cases agg with
      | mk count minFirstSeen maxLastSeen maxConfidenceScore =>
        simp only [ScamCluster.withAggregate]
        cases minFirstSeen <;> cases maxLastSeen <;> rfl
    · rw [if_neg hthis]
      rcases hx.current cluster hbefore with hcurrent | ⟨j, hj, hkey⟩
      · exact Or.inl hcurrent
      · refine Or.inr ⟨j, ⟨hj, fun hji => hthis ?_⟩, hkey⟩
        -- the cluster of the call's key is the one that is recounted
        rw [Set.mem_singleton_iff.mp hji, hcall] at hkey
        exact hx.sound.cluster_eq ⟨cluster, hbefore, rfl, (Option.some.inj hkey).symm⟩ hcluster
  · simp [hj]

/-! ## Along a call -/

/-- No step fails. -/
abbrev Sure (_ : ClusterStep) : Prop := True

/-- What a program of the call `i` assures. -/
abbrev Assures {α : Type} (platform : Platform) (call : ι → Call) (i : ι)
    (post : Except HttpError α → Store × Set ι → Prop) (p : Program α) (x : Store × Set ι) : Prop :=
  (p.noting (noteOwing i)).Assures Sure (Settling platform call) (caller i) post x

theorem assures_bind {α β : Type} {p : Program β} {k : β → Program α}
    {mid : Except HttpError β → Store × Set ι → Prop}
    {post : Except HttpError α → Store × Set ι → Prop} (hp : Assures platform call i mid p x)
    (hk : ∀ b y, Onward x.1 y.1 → mid (.ok b) y → Assures platform call i post (k b) y)
    (herror : ∀ e y, mid (.error e) y → post (.error e) y) :
    Assures platform call i post (p >>= k) x := by
  rw [Assures, Prog.noting_bind]
  have honward : Closed fun x y : Store × Set ι => Onward x.1 y.1 :=
    ⟨fun _ => closed_onward.refl _, closed_onward.trans⟩
  refine Prog.Assures.bind closed_leaves (hp.frame honward (fun _ _ h => h.onward)
    fun _ _ h => h.1) (fun b y hb => hk b y hb.2 hb.1) fun e y he => herror e y he.1

theorem assures_read {α β : Type} {f : Store → α} {k : α → Program β}
    {post : Except HttpError β → Store × Set ι → Prop}
    (h : ∀ y, Settling platform call y → Leaves i x y →
      Assures platform call i post (k (f y.1)) y) :
    Assures platform call i post (read f >>= k) x := by
  rw [Assures, Prog.noting_bind, read, Prog.noting_act]
  exact Prog.Assures.act_bind trivial fun y hxy hy _ => ⟨within_same hy rfl rfl, h y hy hxy⟩

/-- A read of intake. -/
theorem assures_besideRead {α β : Type} {f : ScamSignals.Store → α} {k : α → Program β}
    {post : Except HttpError β → Store × Set ι → Prop}
    (h : ∀ y, Settling platform call y → Leaves i x y →
      Assures platform call i post (k (f y.1.toStore)) y) :
    Assures platform call i post (beside (ScamSignals.read f) >>= k) x := by
  rw [Assures, Prog.noting_bind, beside, ScamSignals.read, Prog.onPart_act, Prog.noting_act]
  exact Prog.Assures.act_bind trivial fun y hxy hy _ => ⟨within_same hy rfl rfl, h y hy hxy⟩

/-- Steps that store no report and link nothing. -/
theorem assures_reviewed {α : Type} {p : ScamSignals.Program α}
    {post : Except HttpError α → Store × Set ι → Prop} (hp : p.Each Reviewed)
    (hpost : ∀ r y, Leaves i x y → post r y) :
    Assures platform call i post (beside p) x := by
  refine Prog.Assures.each (R := Leaves i) closed_leaves (fun _ _ h => h) ?_ hpost
  refine (hp.onPart.noting _).mono ?_
  rintro l' y ⟨t, owing⟩ ⟨⟨l, rfl, hreviewed, hrest⟩, hnote⟩ hy
  have howing : owing = y.2 := by
    have hl := hreviewed.stores
    rw [show owing = _ from hnote]
    cases l with
    | create | merge _ => exact absurd trivial hl
    | read | queue | append | publish | link _ | decide _ _ => rfl
  subst howing
  have hclusters : t.clusters = y.1.clusters := by
    rw [show t = _ from hrest]
    rfl
  have hwithin := @within_reviewed ι platform call i y l t hy hreviewed hclusters
  exact ⟨hwithin, hwithin.guar.1, Iff.rfl⟩

/-- What a call knows of the signal that it has stored its report in. -/
structure StoredIn (k : Indicator) (signal : ScamSignal) (x : Store × Set ι) : Prop where
  indicator : signal.indicator = k
  present : IsSignal signal.id k x.1
  linked : ∀ clusterId, signal.clusterId = some clusterId → Linked signal.id clusterId x.1

theorem StoredIn.onward {k : Indicator} {signal : ScamSignal} (h : StoredIn k signal x)
    (hxy : Onward x.1 y.1) : StoredIn k signal y where
  indicator := h.indicator
  present := hxy.signals _ _ h.present
  linked clusterId hclusterId := hxy.links _ _ (h.linked clusterId hclusterId)

theorem StoredIn.after {k : Indicator} {signal : ScamSignal} (h : StoredIn k signal x)
    (hxy : Leaves i x y) : StoredIn k signal y := h.onward hxy.onward

/-- A merged report leaves a signal its indicator and its cluster. -/
theorem mergeReport_eq (dto : SubmitScamReportDto) (base : Int) (existing : ScamSignal) :
    ∃ f : Date → ScamSignal → ScamSignal,
      mergeReport dto base existing = updateSignal (.merge existing.id) existing.id f ∧
      ∀ now y, (f now y).id = y.id ∧ (f now y).indicator = y.indicator ∧
        (f now y).clusterId = y.clusterId := by
  unfold mergeReport
  refine ⟨_, rfl, ?_⟩
  exact fun _ _ => ⟨rfl, rfl, rfl⟩

/-- A report is stored, or refused before anything is changed. -/
def StoreDone (k : Indicator) (i : ι) :
    Except HttpError (ScamSignal × Bool) → Store × Set ι → Prop
  | .ok r, y => StoredIn k r.1 y
  | .error _, y => i ∉ y.2

theorem mergeOrCreate_assures {opts : IntakeOptions} {base : Int} {existing : Option ScamSignal}
    (hcall : (call i).clusterKey platform =
      clusterKeyOf platform (opts.dto.indicator platform)) (hnew : i ∉ x.2)
    (hexisting : ∀ e, existing = some e → IsSignal e.id (opts.dto.indicator platform) x.1) :
    Assures platform call i (StoreDone (opts.dto.indicator platform) i)
      (beside (mergeOrCreate platform opts base existing)) x := by
  have hkeeps : ∀ signal isDuplicate y, StoredIn (opts.dto.indicator platform) signal y →
      Assures platform call i (StoreDone (opts.dto.indicator platform) i)
        (beside (pure (signal, isDuplicate))) y := by
    intro signal isDuplicate y hstored
    exact Prog.Assures.pure fun z hyz => hstored.after hyz
  cases existing with
  | some e =>
    have hpresent := hexisting e rfl
    show Assures platform call i _ (beside (mergeReport opts.dto base e >>= fun signal =>
      pure (signal, true))) x
    obtain ⟨f, hmerge, hf⟩ := mergeReport_eq opts.dto base e
    rw [hmerge, Assures, beside, Prog.onPart_bind, Prog.noting_bind, updateSignal,
      Prog.onPart_attempt]
    refine Prog.Assures.noting_attempt_bind trivial (fun y signal t hxy hy _ hupdate => ?_) ?_
    · obtain ⟨r, hfound, hpair⟩ := Option.map_eq_some_iff.mp hupdate
      obtain ⟨row, hrow, hr⟩ := Option.map_eq_some_iff.mp hfound
      subst hr
      obtain ⟨rfl, rfl⟩ := Prod.mk.inj hpair
      have hpresent := hxy.onward.signals _ _ hpresent
      refine ⟨within_merge hy hpresent hcall (hf y.1.now) rfl rfl, ?_⟩
      obtain ⟨z, hz, hid, hindicator⟩ := hpresent
      have hmem : row ∈ y.1.signals := Table.mem_of_find hrow
      have hkey : row.id = e.id := Table.key_of_find hrow
      obtain rfl : z = row := hy.sound.signal_eq hz hmem (hid.trans hkey.symm)
      obtain ⟨hid', hindicator', hclusterId'⟩ := hf y.1.now z
      have hrow' : f y.1.now z ∈ Table.modify ScamSignal.id e.id (f y.1.now) y.1.signals :=
        Table.mem_modify.mpr ⟨z, hz, if_pos hid⟩
      exact hkeeps _ _ _ ⟨hindicator'.trans hindicator,
        ⟨_, hrow', rfl, hindicator'.trans hindicator⟩,
        fun clusterId hclusterId => ⟨_, hrow', rfl, hclusterId⟩⟩
    · intro y hxy hy _ hnone
      obtain ⟨z, hz, hid, -⟩ := hxy.onward.signals _ _ hpresent
      have hmissing := Table.find_eq_none_iff.mp
        (Option.map_eq_none_iff.mp (Option.map_eq_none_iff.mp hnone))
      exact absurd (List.mem_map.mpr ⟨z, hz, hid⟩) hmissing
  | none =>
    show Assures platform call i _ (beside (createSignal (newSignal platform opts base) >>=
      fun signal => pure (signal, false))) x
    rw [Assures, beside, Prog.onPart_bind, Prog.noting_bind, createSignal, Prog.onPart_attempt]
    refine Prog.Assures.noting_attempt_bind trivial (fun y signal t hxy hy _ hcreate => ?_) ?_
    · obtain ⟨r, hcreated, hpair⟩ := Option.map_eq_some_iff.mp hcreate
      dsimp only at hcreated
      split at hcreated
      · cases hcreated
      · rename_i hfresh
        obtain rfl := Option.some.inj hcreated
        obtain ⟨rfl, rfl⟩ := Prod.mk.inj hpair
        refine ⟨within_created hy rfl rfl hfresh rfl, hkeeps _ _ _ ⟨rfl, ?_, fun _ h => by cases h⟩⟩
        exact ⟨_, List.mem_append_right _ (List.mem_singleton_self _), rfl, rfl⟩
    · intro y hxy hy _ _
      refine ⟨within_same hy rfl rfl, fun z hz hi => hnew ?_⟩
      exact hxy.owing.mp (hz.owing.mp hi)

/-- A result that is no exception. -/
def Returns {α : Type} (P : α → Store × Set ι → Prop) : Except HttpError α → Store × Set ι → Prop
  | .ok a, y => P a y
  | .error _, _ => False

/-- The call owes nothing, and its signal is linked to the cluster of the key. -/
def Attached (platform : Platform) (k : Indicator) (id : Uuid) (i : ι) (y : Store × Set ι) : Prop :=
  ∀ key, clusterKeyOf platform k = some key →
    i ∉ y.2 ∧ ∃ clusterId, Linked id clusterId y.1 ∧ IsCluster clusterId key y.1

theorem Attached.after {k : Indicator} {id : Uuid} (h : Attached platform k id i x)
    (hxy : Leaves i x y) : Attached platform k id i y := by
  intro key hkey
  obtain ⟨howes, clusterId, hlinked, hcluster⟩ := h key hkey
  exact ⟨fun hi => howes (hxy.owing.mp hi), clusterId, hxy.onward.links _ _ hlinked,
    hxy.onward.clusters _ _ hcluster⟩

/-- The cluster of the key is found, or created where the key is free. -/
theorem findOrCreate_assures {derived : DerivedClusterKey} {category : Option Text}
    {existing : Option ScamCluster} (hcall : (call i).clusterKey platform = some derived.key)
    (hexisting : ∀ cluster, existing = some cluster → IsCluster cluster.id derived.key x.1) :
    Assures platform call i (Returns fun cluster y => IsCluster cluster.id derived.key y.1)
      (findOrCreate derived category existing) x := by
  cases existing with
  | some cluster =>
    have hcluster := hexisting cluster rfl
    exact Prog.Assures.pure fun y hxy => hxy.onward.clusters _ _ hcluster
  | none =>
    show Assures platform call i _ (createCluster derived category) x
    rw [Assures, createCluster]
    refine Prog.Assures.noting_attempt trivial (fun y cluster t hxy hy hmay hcreate => ?_) ?_
    · dsimp only at hcreate
      have hfree : y.1.FreeFor derived.key := hmay
      rw [if_pos hfree] at hcreate
      obtain ⟨rfl, rfl⟩ := Prod.mk.inj (Option.some.inj hcreate)
      refine ⟨within_createCluster hy hfree hcall, fun z hz => ?_⟩
      refine hz.onward.clusters _ _ ⟨_, ?_, rfl, rfl⟩
      exact List.mem_append_right _ (List.mem_singleton_self _)
    · intro y _ _ hmay hnone
      dsimp only at hnone
      have hfree : y.1.FreeFor derived.key := hmay
      rw [if_pos hfree] at hnone
      cases hnone

theorem linkSignal_assures {id clusterId : Uuid} {k : Indicator} {key : Text}
    (hsignal : IsSignal id k x.1) (hkey : clusterKeyOf platform k = some key)
    (hcluster : IsCluster clusterId key x.1) (hcall : (call i).clusterKey platform = some key) :
    Assures platform call i (Returns fun _ y => Linked id clusterId y.1)
      (linkSignal id clusterId) x := by
  rw [Assures, linkSignal]
  refine Prog.Assures.noting_attempt trivial (fun y _ t hxy hy _ hlink => ?_) ?_
  · obtain ⟨row, hrow, hpair⟩ := Option.map_eq_some_iff.mp hlink
    obtain ⟨-, rfl⟩ := Prod.mk.inj hpair
    have hsignal := hxy.onward.signals _ _ hsignal
    have hcluster := hxy.onward.clusters _ _ hcluster
    refine ⟨within_link hy hsignal hkey hcluster hcall, fun z hz => hz.onward.links _ _ ?_⟩
    have hid : row.id = id := Table.key_of_find hrow
    exact ⟨_, Table.mem_modify.mpr ⟨row, Table.mem_of_find hrow, if_pos hid⟩, hid, rfl⟩
  · intro y hxy _ _ hnone
    obtain ⟨row, hrow, hid, -⟩ := hxy.onward.signals _ _ hsignal
    have hmissing := Table.find_eq_none_iff.mp (Option.map_eq_none_iff.mp hnone)
    exact absurd (List.mem_map.mpr ⟨row, hrow, hid⟩) hmissing

theorem recount_assures {clusterId : Uuid} {key : Text} (hcluster : IsCluster clusterId key x.1)
    (hcall : (call i).clusterKey platform = some key) :
    Assures platform call i (Returns fun _ y => i ∉ y.2) (recount clusterId) x := by
  rw [recount]
  refine assures_read fun y hy hxy => ?_
  rw [Assures, writeAggregate]
  have hcluster := hxy.onward.clusters _ _ hcluster
  refine Prog.Assures.noting_attempt trivial (fun z updated t hyz hz hmay hwrite => ?_) ?_
  · obtain ⟨row, -, hpair⟩ := Option.map_eq_some_iff.mp hwrite
    obtain ⟨-, rfl⟩ := Prod.mk.inj hpair
    refine ⟨within_recount hz (hyz.onward.clusters _ _ hcluster) hcall hmay, fun u hu hi => ?_⟩
    exact (hu.owing.mp hi).2 rfl
  · intro z hyz _ _ hnone
    obtain ⟨row, hrow, hid, -⟩ := hyz.onward.clusters _ _ hcluster
    have hmissing := Table.find_eq_none_iff.mp (Option.map_eq_none_iff.mp hnone)
    exact absurd (List.mem_map.mpr ⟨row, hrow, hid⟩) hmissing

/-- A stored signal is linked, unless it was linked before. -/
theorem ensureLinked_assures {k : Indicator} {signal : ScamSignal} {clusterId : Uuid} {key : Text}
    (hstored : StoredIn k signal x) (hkey : clusterKeyOf platform k = some key)
    (hcluster : IsCluster clusterId key x.1) (hcall : (call i).clusterKey platform = some key) :
    Assures platform call i (Returns fun _ y => Linked signal.id clusterId y.1)
      (ensureLinked signal clusterId) x := by
  unfold ensureLinked
  by_cases halready : signal.clusterId = some clusterId
  · rw [if_pos halready]
    have hlinked := hstored.linked clusterId halready
    exact Prog.Assures.pure fun y hxy => hxy.onward.links _ _ hlinked
  · rw [if_neg halready]
    exact linkSignal_assures hstored.present hkey hcluster hcall

/-- A signal that is stored gets its cluster, and the cluster is recounted. -/
theorem clusterSignal_assures {k : Indicator} {signal : ScamSignal} {ip : Option Text}
    (hcall : (call i).clusterKey platform = clusterKeyOf platform k)
    (hstored : StoredIn k signal x) :
    Assures platform call i (fun _ y => Attached platform k signal.id i y)
      (clusterSignal platform signal ip) x := by
  have hderived : clusterKeyOf platform k = (deriveClusterKey platform.toLowerCase
      signal.indicatorType signal.normalizedIndicator).map (·.key) := by
    rw [← hstored.indicator]
    rfl
  unfold clusterSignal
  cases hderive : deriveClusterKey platform.toLowerCase signal.indicatorType
      signal.normalizedIndicator with
  | none =>
    rw [hderive] at hderived
    refine Prog.Assures.pure fun y _ key hkey => ?_
    rw [hderived] at hkey
    cases hkey
  | some derived =>
    rw [hderive] at hderived
    have hkey : clusterKeyOf platform k = some derived.key := hderived
    have hcall' := hcall.trans hkey
    refine assures_read fun y hy hxy => ?_
    have hstored := hstored.after hxy
    refine assures_bind (findOrCreate_assures hcall' fun cluster hfound => ?_)
      (fun cluster z hyz hcluster => ?_) fun _ _ h => h.elim
    · exact ⟨cluster, Table.mem_of_find hfound, rfl, Table.key_of_find hfound⟩
    refine assures_bind (ensureLinked_assures (hstored.onward hyz) hkey hcluster hcall')
      (fun _ u hzu hlinked => ?_) fun _ _ h => h.elim
    have hcluster := hzu.clusters _ _ hcluster
    refine assures_bind (recount_assures hcluster hcall') (fun updated v huv howes => ?_)
      fun _ _ h => h.elim
    have hattached : Attached platform k signal.id i v := by
      intro key' hkey'
      rw [hkey] at hkey'
      obtain rfl := Option.some.inj hkey'
      exact ⟨howes, cluster.id, huv.links _ _ hlinked, huv.clusters _ _ hcluster⟩
    have hlog : Assures platform call i (fun _ y => Attached platform k signal.id i y)
        (logLink derived signal cluster.id
          (Table.find ScamCluster.clusterKey derived.key y.1.clusters).isSome ip) v := by
      unfold logLink
      split
      · exact assures_reviewed (reviewed_appendEvidence _) fun _ _ h => hattached.after h
      · exact Prog.Assures.pure fun _ h => hattached.after h
    exact assures_bind hlog (fun _ w _ hw => Prog.Assures.pure fun _ h => hw.after h) fun _ _ h => h

/-- What clustering leaves of a stored signal. -/
def Clustered (platform : Platform) (k : Indicator) (id : Uuid) (i : ι)
    (r : Except HttpError ScamSignal) (y : Store × Set ι) : Prop :=
  (∀ signal, r = .ok signal → signal.id = id) ∧ Attached platform k id i y

theorem refresh_assures {k : Indicator} {signal : ScamSignal}
    (hattached : Attached platform k signal.id i x) :
    Assures platform call i (Clustered platform k signal.id i) (do
      let refreshed ← read fun s => Table.find ScamSignal.id signal.id s.signals
      return refreshed.getD signal) x := by
  refine assures_read fun y _ hxy => Prog.Assures.pure fun z hyz => ?_
  refine ⟨fun signal' h => ?_, (hattached.after hxy).after hyz⟩
  obtain rfl := Except.ok.inj h
  cases hfound : Table.find ScamSignal.id signal.id y.1.signals with
  | none => rfl
  | some refreshed => exact Table.key_of_find hfound

/-- A failure of clustering would be caught; none happens. -/
theorem clusterAndRefresh_assures {k : Indicator} {signal : ScamSignal} {ip : Option Text}
    (hcall : (call i).clusterKey platform = clusterKeyOf platform k)
    (hstored : StoredIn k signal x) :
    Assures platform call i (Clustered platform k signal.id i)
      (clusterAndRefresh platform signal ip) x := by
  have htry : Assures platform call i (Clustered platform k signal.id i) (do
      let _ ← clusterSignal platform signal ip
      let refreshed ← read fun s => Table.find ScamSignal.id signal.id s.signals
      return refreshed.getD signal) x := by
    refine assures_bind (clusterSignal_assures hcall hstored)
      (fun _ _ _ hattached => refresh_assures hattached) fun e y h => ⟨fun signal' herror => ?_, h⟩
    cases herror
  rw [clusterAndRefresh, Assures, Prog.noting_tryCatch]
  refine Prog.Assures.tryCatch closed_leaves htry (fun _ _ h => h) fun e y h => ?_
  refine Prog.Assures.pure fun z hyz => ⟨fun signal' h => ?_, h.2.after hyz⟩
  obtain rfl := Except.ok.inj h
  rfl

/-- A call has nothing left to do for its cluster. -/
def CallDone (key : Option Text) (i : ι) (r : Except HttpError (Option Uuid))
    (y : Store × Set ι) : Prop :=
  ∀ key', key = some key' → i ∉ y.2 ∧ ∀ id, r = .ok (some id) →
    ∃ clusterId, Linked id clusterId y.1 ∧ IsCluster clusterId key' y.1

theorem intake_assures {opts : IntakeOptions}
    (hcall : (call i).clusterKey platform =
      clusterKeyOf platform (opts.dto.indicator platform)) (hnew : i ∉ x.2) :
    Assures platform call i
      (fun r y => CallDone (clusterKeyOf platform (opts.dto.indicator platform)) i
        (r.map fun signal => some signal.id) y) (intake platform opts) x := by
  rw [intake]
  refine assures_besideRead fun y _ hxy => ?_
  refine assures_besideRead fun z _ hyz => ?_
  have hnew' : i ∉ z.2 := fun hi => hnew (hxy.owing.mp (hyz.owing.mp hi))
  have hexisting : ∀ e, findExisting platform opts.dto z.1.toStore = some e →
      IsSignal e.id (opts.dto.indicator platform) z.1 := by
    intro e hfound
    have hkeys := List.find?_some hfound
    simp only [Bool.and_eq_true, decide_eq_true_eq] at hkeys
    refine ⟨e, List.mem_of_find?_eq_some hfound, rfl, ?_⟩
    rw [ScamSignal.indicator, hkeys.1, hkeys.2]
    rfl
  refine assures_bind (mergeOrCreate_assures hcall hnew' hexisting)
    (fun stored u _ hstored => ?_) fun _ u howes key hkey => ⟨howes, by rintro _ ⟨⟩⟩
  have hstored : StoredIn (opts.dto.indicator platform) stored.1 u := hstored
  have happend : Assures platform call i (Returns fun _ v =>
      StoredIn (opts.dto.indicator platform) stored.1 v)
      (beside (appendEvidence (reportEvent opts stored.1 stored.2))) u := by
    rw [Assures, beside, appendEvidence, Prog.onPart_act, Prog.noting_act]
    refine fun v huv hv => ⟨fun _ => ⟨within_same hv rfl rfl, fun w hvw => ?_⟩,
      fun hnot => absurd trivial hnot⟩
    have hstored := hstored.after huv
    exact ⟨hstored.indicator, hvw.onward.signals _ _ hstored.present,
      fun clusterId h => hvw.onward.links _ _ (hstored.linked clusterId h)⟩
  refine assures_bind happend (fun _ v _ hstored => ?_) fun _ _ h => h.elim
  -- an exception comes after the recount, if at all
  refine assures_bind (clusterAndRefresh_assures hcall hstored) (fun signal w _ hdone => ?_)
    fun _ w hdone key hkey => ⟨(hdone.2 key hkey).1, by rintro _ ⟨⟩⟩
  obtain ⟨hid, hattached⟩ := hdone
  have hid := hid signal rfl
  have hqueue : Assures platform call i (fun _ y => Attached platform
      (opts.dto.indicator platform) stored.1.id i y) (beside (queueForReview signal)) w :=
    assures_reviewed (reviewed_queueForReview signal) fun _ _ h => hattached.after h
  refine assures_bind hqueue (fun _ w' _ h => ?_) fun _ w' h key hkey =>
    ⟨(h key hkey).1, by rintro _ ⟨⟩⟩
  refine Prog.Assures.pure fun w'' hw key hkey => ?_
  obtain ⟨howes, clusterId, hlinked, hcluster⟩ := (h.after hw) key hkey
  refine ⟨howes, fun id hreturned => ⟨clusterId, ?_, hcluster⟩⟩
  obtain rfl := Option.some.inj (Except.ok.inj hreturned)
  rw [hid]
  exact hlinked

theorem program_assures (hnew : i ∉ x.2) :
    Assures platform call i (CallDone ((call i).clusterKey platform) i)
      ((call i).program platform) x := by
  -- a call without a key has nothing to do
  have hidle : ∀ {p : Program (Option Uuid)}, (call i).clusterKey platform = none →
      Assures platform call i (fun _ _ => True) p x →
      Assures platform call i (CallDone ((call i).clusterKey platform) i) p x := by
    intro p hnone hp
    refine hp.mono fun _ _ _ key hkey => ?_
    rw [hnone] at hkey
    cases hkey
  cases hthis : call i with
  | intake opts =>
    have hcall : (call i).clusterKey platform =
        clusterKeyOf platform (opts.dto.indicator platform) := by
      rw [hthis]
      rfl
    refine assures_bind (intake_assures hcall hnew) (fun signal y _ hdone => ?_) ?_
    · refine Prog.Assures.pure fun z hyz key hkey => ?_
      obtain ⟨howes, hlinked⟩ := hdone key hkey
      refine ⟨fun hi => howes (hyz.owing.mp hi), fun id hreturned => ?_⟩
      obtain ⟨clusterId, hlinked, hcluster⟩ := hlinked id hreturned
      exact ⟨clusterId, hyz.onward.links _ _ hlinked, hyz.onward.clusters _ _ hcluster⟩
    · exact fun e y hdone key hkey => ⟨(hdone key hkey).1, nofun⟩
  | review reviewer signalId dto ip =>
    rw [← hthis]
    refine hidle (by rw [hthis]; rfl) ?_
    rw [hthis]
    exact assures_bind (assures_reviewed (reviewed_reviewSignal ..) fun _ _ _ => trivial)
      (fun _ _ _ _ => Prog.Assures.pure fun _ _ => trivial) fun _ _ _ => trivial
  | clock now =>
    rw [← hthis]
    refine hidle (by rw [hthis]; rfl) ?_
    rw [hthis]
    exact assures_bind (assures_reviewed (Prog.Each.act fun _ => reviewed_of_same id rfl)
      fun _ _ _ => trivial) (fun _ _ _ _ => Prog.Assures.pure fun _ _ => trivial)
      fun _ _ _ => trivial

end Calls

/-! ## Runs -/

section Runs

variable {ι : Type} {platform : Platform} {call : ι → Call} {s : Store}
  {t : Pool ι Store (Program (Option Uuid))}

def Finished (t : Pool ι Store (Program (Option Uuid))) : Prop :=
  ∀ i, (∃ r, t.locals i = .pure r) ∨ ∃ e, t.locals i = .throw e

/-- The cluster counts its signals: their number, their highest confidence, and when they were
first and last seen. -/
structure CountsItsSignals (cluster : ScamCluster) (signals : List ScamSignal) : Prop where
  signalCount : cluster.signalCount = (members cluster.id signals).length
  confidenceScore : ∀ c, ((members cluster.id signals).map (·.confidenceScore)).max? = some c →
    cluster.confidenceScore = c
  firstSeen : ∀ d, ((members cluster.id signals).map (·.firstSeen)).min? = some d →
    cluster.firstSeen = d
  lastSeen : ∀ d, ((members cluster.id signals).map (·.lastSeen)).max? = some d →
    cluster.lastSeen = d

theorem countsItsSignals_of_current {cluster : ScamCluster} (h : cluster.Current s) :
    CountsItsSignals cluster s.signals := by
  have hcount := congrArg ScamCluster.signalCount h
  have hconfidence := congrArg ScamCluster.confidenceScore h
  have hfirst := congrArg ScamCluster.firstSeen h
  have hlast := congrArg ScamCluster.lastSeen h
  refine ⟨hcount.symm, fun c hc => ?_, fun d hd => ?_, fun d hd => ?_⟩
  · rw [← hconfidence]
    show (((members cluster.id s.signals).map (·.confidenceScore)).max?).getD 0 = c
    rw [hc]
    rfl
  · rw [← hfirst]
    show (((members cluster.id s.signals).map (·.firstSeen)).min?).getD cluster.firstSeen = d
    rw [hd]
    rfl
  · rw [← hlast]
    show (((members cluster.id s.signals).map (·.lastSeen)).max?).getD cluster.lastSeen = d
    rw [hd]
    rfl

/-- What holds once all calls have finished. -/
structure ClustersSettled (platform : Platform) (call : ι → Call)
    (t : Pool ι Store (Program (Option Uuid))) : Prop where
  linked : ∀ i id key, t.locals i = .pure (some id) → (call i).clusterKey platform = some key →
    ∃ cluster ∈ t.shared.clusters, cluster.clusterKey = key ∧
      (∀ cluster' ∈ t.shared.clusters, cluster'.clusterKey = key → cluster' = cluster) ∧
      Linked id cluster.id t.shared
  counts : ∀ cluster ∈ t.shared.clusters, CountsItsSignals cluster t.shared.signals

end Runs

/-! ## Reports of two hosts of a domain -/

def reportOf (host : Text) : Call :=
  .intake {
    dto := ⟨.domain, host, none, none, none, none⟩
    sourceType := .userReport
    tenantId := none
    submittedByUserId := none
    origin := .anonymous
    ip := none }

def hostReports : Fin 2 → Call := ![reportOf "login.evil.example", reportOf "pay.evil.example"]

def sampleStore : Store := { emptyStore with clusters := [] }

def sampleCalls : Pool (Fin 2) Store (Program (Option Uuid)) :=
  calling plainPlatform hostReports sampleStore

/-- The first report has aggregated its signals before the second one links its own, and writes
what it has read after the second one has written. -/
theorem stale_recount :
    ∃ t, Pool.Run (Prog.surely (fun _ _ => True) Sure) sampleCalls t ∧ Finished t ∧
      ∃ cluster ∈ t.shared.clusters, cluster.signalCount = 1 ∧
        (members cluster.id t.shared.signals).length = 2 := by
  have hstale : ((Prog.turns sampleCalls [(0, 8), (1, 11), (0, 3)]).shared.clusters.any
      fun cluster => cluster.signalCount = 1 && (members cluster.id
        (Prog.turns sampleCalls [(0, 8), (1, 11), (0, 3)]).shared.signals).length = 2) = true := by
    decide +kernel
  obtain ⟨cluster, hcluster, hcounts⟩ := List.any_eq_true.mp hstale
  obtain ⟨hone, htwo⟩ := Bool.and_eq_true_iff.mp hcounts
  refine ⟨Prog.turns sampleCalls [(0, 8), (1, 11), (0, 3)],
    run_turns_sure .refl (Prog.permittedTurns_true ..), fun i => ?_, cluster, hcluster,
    of_decide_eq_true hone, of_decide_eq_true htwo⟩
  match i with
  | 0 => exact Or.inl ⟨_, rfl⟩
  | 1 => exact Or.inl ⟨_, rfl⟩

end Clustering
