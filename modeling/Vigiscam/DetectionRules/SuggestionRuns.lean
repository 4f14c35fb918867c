import Vigiscam.DetectionRules.Suggestions

/-!
# One live suggestion for a cluster

A rule is suggested for a cluster that has no live rule, RETIRED is never left, and no edit moves a
rule to another cluster. So a cluster never has two live rules that were suggested for it, in
whatever order suggestions, edits and transitions come and however the clusters change
(`suggestions_lone`).
-/

namespace DetectionRules

open Js Concurrency

/-! ## Creating rules -/

section Create

variable {s : Store} {actor : AuthenticatedUser} {dto : CreateDetectionRuleDto} {ip : Option Text}
  {eventType description : Text}

theorem run_createInternal_taken (h : s.uuid s.issued ∈ s.rules.map DetectionRule.id) :
    (createInternal actor dto ip eventType description).run s = (.error .internal, s) := by
  have hrefused : (createRule (newRule actor dto)).run s = (.error .internal, s) :=
    Prog.run_attempt_none (if_pos h)
  simp [createInternal, hrefused]

theorem exists_run_createInternal (h : s.uuid s.issued ∉ s.rules.map DetectionRule.id) :
    ∃ t, (createInternal actor dto ip eventType description).run s =
        (.ok (newRule actor dto (s.uuid s.issued)), t) ∧
      t.rules = s.rules ++ [newRule actor dto (s.uuid s.issued)] ∧ t.uuid = s.uuid ∧
      t.issued = s.issued + 1 := by
  have hcreated : (createRule (newRule actor dto)).run s = _ := Prog.run_attempt_some (if_neg h)
  rw [createInternal, Prog.run_bind, hcreated]
  exact ⟨_, rfl, rfl, rfl, rfl⟩

theorem exists_run_createSuggestion (actor : AuthenticatedUser) (dto : CreateDetectionRuleDto)
    (ip : Option Text) (h : s.uuid s.issued ∉ s.rules.map DetectionRule.id) :
    ∃ t, (createSuggestion actor dto ip).run s =
        (.ok (newRule actor dto (s.uuid s.issued)), t) ∧
      t.rules = s.rules ++ [newRule actor dto (s.uuid s.issued)] ∧ t.uuid = s.uuid ∧
      t.issued = s.issued + 1 :=
  exists_run_createInternal h

/-- What a call adds to the rules: drafts of their own ids, for some of the clusters in order. -/
structure Adds (clusterIds : List (Option Uuid)) (s t : Store) (made : List DetectionRule) :
    Prop where
  rules : t.rules = s.rules ++ made
  ids : (t.rules.map DetectionRule.id).Nodup
  clusters : made.map DetectionRule.sourceClusterId <+: clusterIds
  drafts : ∀ rule ∈ made, rule.status = .draft

theorem exists_adds_createAll (actor : AuthenticatedUser) (ip : Option Text)
    (dtos : List CreateDetectionRuleDto) {s : Store}
    (hids : (s.rules.map DetectionRule.id).Nodup) :
    ∃ made, Adds (dtos.map (·.sourceClusterId)) s ((createAll actor ip dtos).run s).2 made := by
  induction dtos generalizing s with
  | nil => exact ⟨[], (List.append_nil _).symm, hids, List.prefix_rfl, fun _ h => nomatch h⟩
  | cons dto rest ih =>
    by_cases htaken : s.uuid s.issued ∈ s.rules.map DetectionRule.id
    · have hrun : (createSuggestion actor dto ip).run s = (.error .internal, s) :=
        run_createInternal_taken htaken
      rw [createAll, Prog.run_bind, hrun]
      exact ⟨[], (List.append_nil _).symm, hids, List.nil_prefix, fun _ h => nomatch h⟩
    · obtain ⟨t, hrun, hrules, -, -⟩ := exists_run_createSuggestion actor dto ip htaken
      have hstate : ((createAll actor ip (dto :: rest)).run s).2 =
          ((createAll actor ip rest).run t).2 := by
        rw [createAll, Prog.run_bind, hrun, Prog.andThen_ok, Prog.run_bind]
        cases (createAll actor ip rest).run t with
        | mk result u => cases result <;> rfl
      have hkeys : (t.rules.map DetectionRule.id).Nodup := by
        rw [hrules]
        exact Table.nodup_append_new hids htaken
      obtain ⟨made, h⟩ := ih hkeys
      rw [hstate]
      refine ⟨newRule actor dto (s.uuid s.issued) :: made, ?_, h.ids, ?_, ?_⟩
      · rw [h.rules, hrules, List.append_assoc]
        rfl
      · exact List.cons_prefix_cons.mpr ⟨rfl, h.clusters⟩
      · intro rule hrule
        rcases List.mem_cons.mp hrule with rfl | hmem
        · rfl
        · exact h.drafts rule hmem

end Create

/-! ## What a call of `generateSuggestions` creates -/

section Generate

variable {s : Store} {actor : AuthenticatedUser} {ip : Option Text} {clusters : ClusterTable}

theorem clusterId_of_suggestion {cluster : ScamCluster} {dto : CreateDetectionRuleDto}
    (h : suggestionForCluster cluster = some dto) : dto.sourceClusterId = some cluster.id := by
  unfold suggestionForCluster at h
  split at h <;> cases h <;> rfl

/-- The rules are drafts for distinct clusters without a live rule. -/
structure AddsFree (s t : Store) (made : List DetectionRule) : Prop where
  rules : t.rules = s.rules ++ made
  ids : (t.rules.map DetectionRule.id).Nodup
  free : ∀ rule ∈ made, ∃ id, rule.sourceClusterId = some id ∧ ¬ HasLiveRule s id
  lone : (made.map DetectionRule.sourceClusterId).Nodup
  drafts : ∀ rule ∈ made, rule.status = .draft

/-- What is suggested for the items of a list is in their order. -/
theorem map_filterMap_sublist {α β γ : Type} {f : α → Option β} {g : β → γ} {h : α → γ}
    (hf : ∀ a b, f a = some b → g b = h a) (l : List α) :
    ((l.filterMap f).map g).Sublist (l.map h) := by
  induction l with
  | nil => exact List.Sublist.slnil
  | cons a l ih =>
    cases hfa : f a with
    | none =>
      rw [List.filterMap_cons_none hfa]
      exact ih.cons _
    | some b =>
      rw [List.filterMap_cons_some hfa, List.map_cons, hf a b hfa]
      exact ih.cons_cons _

theorem exists_addsFree (hids : (s.rules.map DetectionRule.id).Nodup) :
    ∃ made, AddsFree s ((generateSuggestions clusters actor ip).run s).2 made := by
  have hstate : ((generateSuggestions clusters actor ip).run s).2 =
      ((createAll actor ip ((candidates clusters s).filterMap suggestionForCluster)).run s).2 := by
    rw [generateSuggestions, Prog.run_bind, Prog.run_act, Prog.andThen_ok, Prog.run_bind]
    cases (createAll actor ip ((candidates clusters s).filterMap suggestionForCluster)).run s with
    | mk result u => cases result <;> rfl
  obtain ⟨made, h⟩ := exists_adds_createAll actor ip
    ((candidates clusters s).filterMap suggestionForCluster) hids
  have hsub : (made.map DetectionRule.sourceClusterId).Sublist
      ((candidates clusters s).map fun cluster => some cluster.id) :=
    h.clusters.sublist.trans (map_filterMap_sublist (fun _ _ => clusterId_of_suggestion) _)
  have hnodup : ((candidates clusters s).map fun cluster => some cluster.id).Nodup := by
    have hids : ((candidates clusters s).map (·.id)).Nodup :=
      clusters.nodup.sublist (((List.take_sublist _ _).trans List.filter_sublist).map _)
    have hsome := hids.map (Option.some_injective Uuid)
    rwa [List.map_map] at hsome
  refine ⟨made, hstate ▸ h.rules, hstate ▸ h.ids, fun rule hrule => ?_, hnodup.sublist hsub,
    h.drafts⟩
  obtain ⟨cluster, hcluster, hid⟩ := List.mem_map.mp (hsub.subset (List.mem_map_of_mem hrule))
  have hcandidate := (List.mem_filter.mp (List.mem_of_mem_take hcluster)).2
  simp only [isCandidate, Bool.and_eq_true, decide_eq_true_eq] at hcandidate
  exact ⟨cluster.id, hid.symm, hcandidate.2⟩

end Generate

/-! ## Histories -/

/-- The rules, and the ids of those that `generateSuggestions` has created. -/
structure History where
  store : Store
  suggested : List Uuid

inductive SuggestionCall where
  | generate (clusters : ClusterTable) (actor : AuthenticatedUser) (ip : Option Text)
  /-- An edit, a transition or a rule by hand. -/
  | rule (call : RuleCall)
  /-- Clusters are deleted: their rules lose them (`onDelete: SetNull`). -/
  | dropClusters (ids : List Uuid)

/-- The rule, without a cluster that is deleted. -/
def DetectionRule.detach (ids : List Uuid) (rule : DetectionRule) : DetectionRule :=
  if ∃ id ∈ ids, rule.sourceClusterId = some id then { rule with sourceClusterId := none } else rule

/-- The rules of `t` that were not there in `s`. -/
def createdIn (s t : Store) : List DetectionRule := t.rules.drop s.rules.length

def SuggestionCall.exec (call : SuggestionCall) (h : History) : History :=
  match call with
  | generate clusters actor ip =>
    let t := ((generateSuggestions clusters actor ip).run h.store).2
    ⟨t, h.suggested ++ (createdIn h.store t).map DetectionRule.id⟩
  | rule call => { h with store := call.exec h.store }
  | dropClusters ids =>
    { h with store := { h.store with rules := h.store.rules.map (.detach ids) } }

/-- No cluster has two live rules that were suggested for it. -/
def History.Lone (h : History) : Prop :=
  ∀ rule ∈ h.store.rules, ∀ rule' ∈ h.store.rules, rule.id ∈ h.suggested →
    rule'.id ∈ h.suggested → rule.status ≠ .retired → rule'.status ≠ .retired →
    ∀ clusterId, rule.sourceClusterId = some clusterId →
      rule'.sourceClusterId = some clusterId → rule = rule'

structure History.Tracked (h : History) : Prop where
  ids : (h.store.rules.map DetectionRule.id).Nodup
  known : ∀ id ∈ h.suggested, id ∈ h.store.rules.map DetectionRule.id
  lone : h.Lone

/-- What happens to a rule in time: it stays the same rule of the same cluster, or of none, and is
not live again after it was RETIRED. -/
structure Ages (s : Store) (f : DetectionRule → DetectionRule) : Prop where
  id : ∀ rule, (f rule).id = rule.id
  cluster : ∀ rule ∈ s.rules, ∀ clusterId, (f rule).sourceClusterId = some clusterId →
    rule.sourceClusterId = some clusterId
  live : ∀ rule ∈ s.rules, (f rule).status ≠ .retired → rule.status ≠ .retired

section Tracked

variable {h : History} {t : Store} {f : DetectionRule → DetectionRule}

theorem History.Tracked.ages (htracked : h.Tracked) (hages : Ages h.store f)
    (hrules : t.rules = h.store.rules.map f) : History.Tracked ⟨t, h.suggested⟩ := by
  have hids : t.rules.map DetectionRule.id = h.store.rules.map DetectionRule.id := by
    rw [hrules, List.map_map]
    exact List.map_congr_left fun rule _ => hages.id rule
  refine ⟨?_, ?_, ?_⟩
  · show (t.rules.map DetectionRule.id).Nodup
    rw [hids]
    exact htracked.ids
  · intro id hid
    show id ∈ t.rules.map DetectionRule.id
    rw [hids]
    exact htracked.known id hid
  · show ∀ rule ∈ t.rules, ∀ rule' ∈ t.rules, _
    rw [hrules]
    intro rule hrule rule' hrule' hin hin' hlive hlive' id hcluster hcluster'
    obtain ⟨old, hold, rfl⟩ := List.mem_map.mp hrule
    obtain ⟨old', hold', rfl⟩ := List.mem_map.mp hrule'
    rw [hages.id] at hin hin'
    have hsame := htracked.lone old hold old' hold' hin hin' (hages.live old hold hlive)
      (hages.live old' hold' hlive') id (hages.cluster old hold id hcluster)
      (hages.cluster old' hold' id hcluster')
    rw [hsame]

/-- A rule that is not suggested. -/
theorem History.Tracked.adds (htracked : h.Tracked) {rule : DetectionRule}
    (hnew : rule.id ∉ h.store.rules.map DetectionRule.id)
    (hrules : t.rules = h.store.rules ++ [rule]) : History.Tracked ⟨t, h.suggested⟩ := by
  have hold : ∀ r ∈ t.rules, r.id ∈ h.suggested → r ∈ h.store.rules := by
    intro r hr hin
    rw [hrules] at hr
    rcases List.mem_append.mp hr with hmem | hmem
    · exact hmem
    · rw [List.mem_singleton.mp hmem] at hin
      exact absurd (htracked.known _ hin) hnew
  refine ⟨?_, fun id hid => ?_, ?_⟩
  · show (t.rules.map DetectionRule.id).Nodup
    rw [hrules]
    exact Table.nodup_append_new htracked.ids hnew
  · show id ∈ t.rules.map DetectionRule.id
    rw [hrules, List.map_append]
    exact List.mem_append_left _ (htracked.known id hid)
  · intro r hr r' hr' hin hin'
    exact htracked.lone r (hold r hr hin) r' (hold r' hr' hin') hin hin'

theorem createdIn_eq {made : List DetectionRule} (hadds : AddsFree h.store t made) :
    createdIn h.store t = made := by
  rw [createdIn, hadds.rules, List.drop_left]

/-- A suggestion is for a cluster that has no live rule. -/
theorem History.Tracked.addsFree (htracked : h.Tracked) {made : List DetectionRule}
    (hadds : AddsFree h.store t made) :
    History.Tracked ⟨t, h.suggested ++ (createdIn h.store t).map DetectionRule.id⟩ := by
  have hids := hadds.ids
  rw [hadds.rules, List.map_append, List.nodup_append] at hids
  rw [createdIn_eq hadds]
  refine ⟨hadds.ids, fun id hid => ?_, ?_⟩
  · show id ∈ t.rules.map DetectionRule.id
    rw [hadds.rules, List.map_append, List.mem_append]
    exact (List.mem_append.mp hid).imp (htracked.known id) fun hmade => hmade
  · -- a rule from before was suggested before
    have hbefore : ∀ rule ∈ h.store.rules,
        rule.id ∈ h.suggested ++ made.map DetectionRule.id → rule.id ∈ h.suggested := by
      intro rule hrule hin
      refine (List.mem_append.mp hin).resolve_right fun hmade => ?_
      exact hids.2.2 _ (List.mem_map_of_mem hrule) _ hmade rfl
    -- a new rule is for a cluster that no live rule from before is for
    have hclash : ∀ rule ∈ h.store.rules, ∀ new ∈ made, rule.status ≠ .retired → ∀ id,
        rule.sourceClusterId = some id → new.sourceClusterId ≠ some id := by
      intro rule hrule new hnew hlive id hcluster hcluster'
      obtain ⟨id', hid', hfree⟩ := hadds.free new hnew
      rw [Option.some.inj (hid'.symm.trans hcluster')] at hfree
      exact hfree ⟨rule, hrule, hcluster, hlive⟩
    show ∀ rule ∈ t.rules, ∀ rule' ∈ t.rules, _
    rw [hadds.rules]
    intro rule hrule rule' hrule' hin hin' hlive hlive' id hcluster hcluster'
    rcases List.mem_append.mp hrule with hold | hnew <;>
      rcases List.mem_append.mp hrule' with hold' | hnew'
    · exact htracked.lone rule hold rule' hold' (hbefore rule hold hin)
        (hbefore rule' hold' hin') hlive hlive' id hcluster hcluster'
    · exact absurd hcluster' (hclash rule hold rule' hnew' hlive id hcluster)
    · exact absurd hcluster (hclash rule' hold' rule hnew hlive' id hcluster')
    · exact List.inj_on_of_nodup_map hadds.lone hnew hnew' (hcluster.trans hcluster'.symm)

end Tracked

/-! ## Every call -/

section Calls

variable {h : History}

theorem ages_apply (s : Store) (id : Uuid) (dto : UpdateDetectionRuleDto) :
    Ages s fun rule => if rule.id = id then dto.apply rule else rule := by
  refine ⟨fun rule => ?_, fun rule _ clusterId hcluster => ?_, fun rule _ hlive => ?_⟩
  · split <;> rfl
  · split at hcluster <;> exact hcluster
  · split at hlive <;> exact hlive

/-- RETIRED is never left. -/
theorem not_retired_of_canTransition {source target : DetectionRuleStatus}
    (h : canTransition source target = true) : source ≠ .retired := by
  rintro rfl
  cases h

theorem ages_moveTo {s : Store} {id : Uuid} {rule : DetectionRule} {actor : AuthenticatedUser}
    {target : DetectionRuleStatus} (hids : (s.rules.map DetectionRule.id).Nodup)
    (hfound : ruleOf id s = some rule) (hlegal : canTransition rule.status target = true) :
    Ages s fun rule => if rule.id = id then moveTo actor target s.now rule else rule := by
  refine ⟨fun rule => ?_, fun rule _ clusterId hcluster => ?_, fun rule' hrule' hlive => ?_⟩
  · split
    · exact id_moveTo actor target s.now rule
    · rfl
  · split at hcluster
    · rw [← hcluster]
      cases target <;> rfl
    · exact hcluster
  · by_cases hid : rule'.id = id
    · have hsame : ruleOf id s = some rule' := (Table.find_eq_some_iff hids).mpr ⟨hrule', hid⟩
      rw [Option.some.inj (hsame.symm.trans hfound)]
      exact not_retired_of_canTransition hlegal
    · rwa [if_neg hid] at hlive

theorem ages_detach (s : Store) (ids : List Uuid) : Ages s (.detach ids) := by
  refine ⟨fun rule => ?_, fun rule _ clusterId hcluster => ?_, fun rule _ hlive => ?_⟩
  · unfold DetectionRule.detach
    split <;> rfl
  · unfold DetectionRule.detach at hcluster
    split at hcluster
    · cases hcluster
    · exact hcluster
  · unfold DetectionRule.detach at hlive
    split at hlive <;> exact hlive

theorem tracked_create (htracked : h.Tracked) (actor : AuthenticatedUser)
    (dto : CreateDetectionRuleDto) (ip : Option Text) (eventType description : Text) :
    History.Tracked ⟨((createInternal actor dto ip eventType description).run h.store).2,
      h.suggested⟩ := by
  by_cases htaken : h.store.uuid h.store.issued ∈ h.store.rules.map DetectionRule.id
  · rw [run_createInternal_taken htaken]
    exact htracked
  · obtain ⟨t, hrun, hrules, -, -⟩ := exists_run_createInternal (s := h.store) htaken
    rw [hrun]
    exact htracked.adds htaken hrules

theorem tracked_rule (htracked : h.Tracked) (call : RuleCall) :
    History.Tracked ⟨call.exec h.store, h.suggested⟩ := by
  cases call with
  | create actor dto ip =>
    show History.Tracked ⟨(Prog.run (do let _ ← create actor dto ip) h.store).2, _⟩
    rw [run_discard]
    exact tracked_create htracked actor dto ip _ _
  | createSuggestion actor dto ip =>
    show History.Tracked ⟨(Prog.run (do let _ ← createSuggestion actor dto ip) h.store).2, _⟩
    rw [run_discard]
    exact tracked_create htracked actor dto ip _ _
  | update actor id dto ip =>
    show History.Tracked ⟨(Prog.run (do let _ ← update actor id dto ip) h.store).2, _⟩
    rw [run_discard]
    by_cases hgoes : ∃ rule, ruleOf id h.store = some rule ∧ isEditable rule.status = true
    · obtain ⟨rule, hrule, heditable⟩ := hgoes
      exact htracked.ages (ages_apply h.store id dto) (run_update actor dto ip hrule heditable).2
    · have hnot : ∀ rule, ruleOf id h.store = some rule → isEditable rule.status = false :=
        fun rule hrule => by simpa using fun h => hgoes ⟨rule, hrule, h⟩
      rw [(run_update_refused actor dto ip hnot).2]
      exact htracked
  | updateStatus actor id dto ip =>
    show History.Tracked ⟨(Prog.run (do let _ ← updateStatus actor id dto ip) h.store).2, _⟩
    rw [run_discard]
    by_cases hgoes : ∃ rule, ruleOf id h.store = some rule ∧
        Permitted actor rule.status dto.status
    · obtain ⟨rule, hrule, hmay⟩ := hgoes
      exact htracked.ages (ages_moveTo htracked.ids hrule hmay.1)
        (run_updateStatus actor dto ip hrule hmay)
    · have hnot : ∀ rule, ruleOf id h.store = some rule →
          ¬ Permitted actor rule.status dto.status := fun rule hrule h => hgoes ⟨rule, hrule, h⟩
      rw [run_updateStatus_refused actor dto ip hnot]
      exact htracked
  | clock now => exact ⟨htracked.ids, htracked.known, htracked.lone⟩

/-- **What one call keeps.** -/
theorem tracked_exec (htracked : h.Tracked) (call : SuggestionCall) : (call.exec h).Tracked := by
  cases call with
  | generate clusters actor ip =>
    obtain ⟨made, hmade⟩ := exists_addsFree htracked.ids
    exact htracked.addsFree hmade
  | rule call => exact tracked_rule htracked call
  | dropClusters ids => exact htracked.ages (ages_detach h.store ids) rfl

theorem tracked_after (htracked : h.Tracked) (calls : List SuggestionCall) :
    (after SuggestionCall.exec h calls).Tracked := by
  induction calls using List.reverseRecOn with
  | nil => exact htracked
  | append_singleton calls call ih =>
    rw [after_concat]
    exact tracked_exec ih call

end Calls

/-- **At every moment of every history** no cluster has two live rules that were suggested for it;
and whatever the clusters are then, `generateSuggestions` creates drafts, for distinct clusters
that have no live rule. -/
theorem suggestions_lone (s : Store) (hids : (s.rules.map DetectionRule.id).Nodup)
    (calls : List SuggestionCall) :
    (after SuggestionCall.exec ⟨s, []⟩ calls).Lone ∧
      ∀ (clusters : ClusterTable) (actor : AuthenticatedUser) (ip : Option Text),
        ∃ made, AddsFree (after SuggestionCall.exec ⟨s, []⟩ calls).store
          ((generateSuggestions clusters actor ip).run
            (after SuggestionCall.exec ⟨s, []⟩ calls).store).2 made := by
  have hstart : History.Tracked ⟨s, []⟩ :=
    ⟨hids, fun _ hid => (nomatch hid), fun _ _ _ _ hin => (nomatch hin)⟩
  have htracked := tracked_after hstart calls
  exact ⟨htracked.lone, fun clusters actor ip => exists_addsFree htracked.ids⟩

/-! ## A history -/

namespace Sample

/-- A cluster of three signals, one of which is verified. -/
def clusters : ClusterTable where
  rows := [{
    id := "c"
    clusterKey := "domain-root:secure-bank-login.com"
    matchType := .sharedDomainRoot
    label := "Domain root — secure-bank-login.com"
    category := none
    signalCount := 3
    confidenceScore := 70
    firstSeen := now
    lastSeen := now
    status := .active
    signals := [.unverifiedReport, .verifiedScamIntelligence, .unverifiedReport] }]
  nodup := List.nodup_singleton _

/-- A rule is suggested, and another one after the first is RETIRED. -/
def history : List SuggestionCall :=
  [.generate clusters officer none, .generate clusters officer none,
    .rule (moveRule .retired), .generate clusters officer none]

theorem suggestions_lone_history : (after SuggestionCall.exec ⟨store, []⟩ history).Lone ∧
    ∀ (clusters : ClusterTable) (actor : AuthenticatedUser) (ip : Option Text),
      ∃ made, AddsFree (after SuggestionCall.exec ⟨store, []⟩ history).store
        ((generateSuggestions clusters actor ip).run
          (after SuggestionCall.exec ⟨store, []⟩ history).store).2 made :=
  suggestions_lone store List.nodup_nil history

example : (after SuggestionCall.exec ⟨store, []⟩ history).store.rules.map DetectionRule.status =
    [.retired, .draft] := by decide +kernel

end Sample

end DetectionRules
