import Mathlib.Algebra.GroupWithZero.Nat
import Mathlib.Algebra.BigOperators.Group.List.Lemmas
import Mathlib.Data.List.Dedup
import Mathlib.Data.Set.Function
import Vigiscam.Js.Gather
import Vigiscam.Js.Text

/-!
# What reviewers say of the models (`ai-feedback.service.ts`)

The database groups the feedback by service, version and label, and `feedbackStats` puts the groups
of a model together again, under the text `service::version`. Two models can have the same text:
each model has its own entry, with its own counts, exactly where no two models that occur do
(`faithful_iff`).
-/

namespace ModelGovernance

open Js

/-! ## Rows and groups -/

inductive AIReviewerLabel where
  | confirmedCorrect | falsePositive | falseNegative | correctedCategory | inconclusiveAccepted
deriving DecidableEq

structure ModelFeedback where
  serviceKind : Text
  modelVersion : Text
  /-- The column has no nulls, but `feedbackStats` has a branch for them. -/
  reviewerLabel : Option AIReviewerLabel
deriving DecidableEq

/-- What a row is feedback on. -/
def ModelFeedback.model (r : ModelFeedback) : Text × Text := (r.serviceKind, r.modelVersion)

theorem ModelFeedback.ext_of_model {r r' : ModelFeedback} (hmodel : r.model = r'.model)
    (hlabel : r.reviewerLabel = r'.reviewerLabel) : r = r' := by
  cases r
  cases r'
  obtain ⟨rfl, rfl⟩ := Prod.mk.inj hmodel
  exact congrArg _ hlabel

/-- A group of rows that are the same in the three columns. -/
structure FeedbackGroup where
  row : ModelFeedback
  count : Nat

/-- What `groupBy` gives of the rows: each group that occurs once, in any order, with its size. -/
structure Grouping (rows : List ModelFeedback) where
  groups : List FeedbackGroup
  nodup : (groups.map FeedbackGroup.row).Nodup
  occurs : ∀ r, r ∈ groups.map FeedbackGroup.row ↔ r ∈ rows
  counted : ∀ g ∈ groups, g.count = rows.count g.row

/-- The rows that a query is about: an empty name is no filter. -/
def matching (serviceKind : Option Text) (rows : List ModelFeedback) : List ModelFeedback :=
  match serviceKind with
  | none | some [] => rows
  | some kind => rows.filter (·.serviceKind = kind)

/-! ## The statistics -/

/-- The key of a model. -/
def modelKey (m : Text × Text) : Text := m.1 ++ utf16 "::" ++ m.2

structure ModelStats where
  serviceKind : Text
  modelVersion : Text
  /-- The object's fields, in the order in which they were set; `null` is a field too. -/
  labels : List (Option AIReviewerLabel × Nat)

def ModelStats.model (m : ModelStats) : Text × Text := (m.serviceKind, m.modelVersion)

/-- `g.reviewerLabel ? g._count._all : 0`. -/
def FeedbackGroup.labelled (g : FeedbackGroup) : Nat :=
  if g.row.reviewerLabel.isSome then g.count else 0

def startStats (g : FeedbackGroup) : ModelStats := ⟨g.row.serviceKind, g.row.modelVersion, []⟩

/-- `entry.labels[g.reviewerLabel] = …`. -/
def ModelStats.setLabel (m : ModelStats) (g : FeedbackGroup) : ModelStats :=
  { m with labels := setEntry g.row.reviewerLabel g.labelled m.labels }

def byModel (groups : List FeedbackGroup) : List (Text × ModelStats) :=
  gather (fun g => modelKey g.row.model) startStats ModelStats.setLabel groups

/-- An entry of the answer, without the rates. -/
structure FeedbackStats where
  model : Text × Text
  total : Nat
  labels : List (Option AIReviewerLabel × Nat)

def statsOf (m : ModelStats) : FeedbackStats :=
  ⟨m.model, (m.labels.map Prod.snd).sum, m.labels⟩

def feedbackStats (groups : List FeedbackGroup) : List FeedbackStats :=
  (byModel groups).map fun e => statsOf e.2

/-- `labels[label] ?? 0`. -/
def FeedbackStats.count (e : FeedbackStats) (label : AIReviewerLabel) : Nat :=
  getEntry (some label) 0 e.labels

/-- One entry for each model that occurs, which counts the rows of the model with each label, and
all those with a label. -/
structure Faithful (rows : List ModelFeedback) (stats : List FeedbackStats) : Prop where
  nodup : (stats.map FeedbackStats.model).Nodup
  occurs : ∀ m, m ∈ stats.map FeedbackStats.model ↔ m ∈ rows.map ModelFeedback.model
  counted : ∀ e ∈ stats, ∀ label,
    e.count label = rows.countP fun r => r.model = e.model ∧ r.reviewerLabel = some label
  total : ∀ e ∈ stats,
    e.total = rows.countP fun r => r.model = e.model ∧ r.reviewerLabel.isSome

/-- No two models of the rows have the same key. -/
def KeysDiffer (rows : List ModelFeedback) : Prop :=
  Set.InjOn modelKey {m | m ∈ rows.map ModelFeedback.model}

/-! ## Sizes of groups -/

section Sizes

variable {rows : List ModelFeedback} (g : Grouping rows)

/-- The groups of a kind have as many rows as there are of the kind. -/
theorem Grouping.sum_count (q : ModelFeedback → Bool) :
    ((g.groups.filter fun x => q x.row).map FeedbackGroup.count).sum = rows.countP q := by
  have hperm : (g.groups.map FeedbackGroup.row).Perm rows.dedup :=
    (List.perm_ext_iff_of_nodup g.nodup rows.nodup_dedup).mpr fun r => by
      rw [g.occurs, List.mem_dedup]
  have hcounts : (g.groups.filter fun x => q x.row).map FeedbackGroup.count =
      ((g.groups.map FeedbackGroup.row).filter q).map fun r => rows.count r := by
    rw [List.filter_map, List.map_map]
    exact List.map_congr_left fun x hx => g.counted x (List.mem_of_mem_filter hx)
  rw [hcounts, ((hperm.filter q).map _).sum_eq]
  exact List.sum_map_count_dedup_filter_eq_countP q rows

theorem sum_labelled (groups : List FeedbackGroup) :
    (groups.map FeedbackGroup.labelled).sum =
      ((groups.filter fun x => x.row.reviewerLabel.isSome).map FeedbackGroup.count).sum := by
  induction groups with
  | nil => rfl
  | cons x groups ih =>
    rw [List.map_cons, List.sum_cons, ih, FeedbackGroup.labelled, List.filter_cons]
    split
    · rfl
    · exact Nat.zero_add _

/-- One model has a group for each label. -/
theorem Grouping.nodup_labels (m : Text × Text) :
    ((g.groups.filter (·.row.model = m)).map (·.row.reviewerLabel)).Nodup := by
  have hrows : ((g.groups.filter (·.row.model = m)).map FeedbackGroup.row).Nodup :=
    g.nodup.sublist (List.filter_sublist.map _)
  refine List.Nodup.map_on (fun x hx y hy hlabel => ?_) (List.Nodup.of_map _ hrows)
  have hmodel : x.row.model = y.row.model :=
    (of_decide_eq_true (List.mem_filter.mp hx).2).trans
      (of_decide_eq_true (List.mem_filter.mp hy).2).symm
  exact List.inj_on_of_nodup_map hrows hx hy (ModelFeedback.ext_of_model hmodel hlabel)

end Sizes

/-! ## Entries -/

section Entries

variable {groups : List FeedbackGroup} {k : Text} {m : ModelStats}

theorem model_foldl (gs : List FeedbackGroup) (m : ModelStats) :
    (gs.foldl ModelStats.setLabel m).model = m.model := by
  induction gs generalizing m with
  | nil => rfl
  | cons x gs ih => exact ih (m.setLabel x)

/-- Labels that are new are fields that come last. -/
theorem labels_foldl (gs : List FeedbackGroup) (m : ModelStats)
    (h : (m.labels.map Prod.fst ++ gs.map (·.row.reviewerLabel)).Nodup) :
    (gs.foldl ModelStats.setLabel m).labels =
      m.labels ++ gs.map fun x => (x.row.reviewerLabel, x.labelled) := by
  induction gs generalizing m with
  | nil => exact (List.append_nil _).symm
  | cons x gs ih =>
    have hset : (m.setLabel x).labels = m.labels ++ [(x.row.reviewerLabel, x.labelled)] := by
      refine if_neg fun hmem => ?_
      exact (List.nodup_append.mp h).2.2 _ hmem _ List.mem_cons_self rfl
    rw [List.foldl_cons, ih, hset, List.append_assoc]
    · rfl
    · rw [hset, List.map_append, List.append_assoc]
      exact h

/-- An entry comes from the groups of its key, and is of the model of one of them. -/
theorem exists_of_mem_byModel (h : (k, m) ∈ byModel groups) :
    ∃ x ∈ groups, modelKey x.row.model = k ∧ m.model = x.row.model ∧
      m = (groups.filter fun y => modelKey y.row.model = k).foldl ModelStats.setLabel
        (startStats x) := by
  have hgathered := mem_gather.mp h
  cases hfilter : groups.filter (fun y => modelKey y.row.model = k) with
  | nil =>
    rw [hfilter] at hgathered
    cases hgathered
  | cons x rest =>
    have hx : x ∈ groups.filter (fun y => modelKey y.row.model = k) :=
      hfilter ▸ List.mem_cons_self
    rw [hfilter] at hgathered
    have hm := (Option.some.inj hgathered).symm
    refine ⟨x, List.mem_of_mem_filter hx, of_decide_eq_true (List.mem_filter.mp hx).2, ?_, hm⟩
    rw [hm, model_foldl]
    rfl

theorem key_of_mem_byModel (h : (k, m) ∈ byModel groups) : modelKey m.model = k := by
  obtain ⟨x, -, hkey, hmodel, -⟩ := exists_of_mem_byModel h
  rw [hmodel, hkey]

end Entries

section Faithful

variable {rows : List ModelFeedback} (g : Grouping rows)

theorem mem_models_iff {m : Text × Text} :
    m ∈ rows.map ModelFeedback.model ↔ ∃ x ∈ g.groups, x.row.model = m := by
  rw [List.mem_map]
  constructor
  · rintro ⟨r, hr, rfl⟩
    obtain ⟨x, hx, rfl⟩ := List.mem_map.mp ((g.occurs r).mpr hr)
    exact ⟨x, hx, rfl⟩
  · rintro ⟨x, hx, rfl⟩
    exact ⟨x.row, (g.occurs _).mp (List.mem_map_of_mem hx), rfl⟩

/-- Where keys differ, an entry is of the groups of its model. -/
theorem KeysDiffer.labels_eq (h : KeysDiffer rows) {k : Text} {m : ModelStats}
    (hm : (k, m) ∈ byModel g.groups) :
    m.labels = (g.groups.filter (·.row.model = m.model)).map
      fun x => (x.row.reviewerLabel, x.labelled) := by
  obtain ⟨x, hx, hkey, hmodel, heq⟩ := exists_of_mem_byModel hm
  have hfilter : (g.groups.filter fun y => modelKey y.row.model = k) =
      g.groups.filter (·.row.model = m.model) := by
    refine List.filter_congr fun y hy => decide_eq_decide.mpr ?_
    rw [← hkey, hmodel]
    have hoccurs : ∀ z ∈ g.groups, z.row.model ∈ rows.map ModelFeedback.model :=
      fun z hz => (mem_models_iff g).mpr ⟨z, hz, rfl⟩
    exact ⟨fun hsame => h (hoccurs y hy) (hoccurs x hx) hsame, congrArg modelKey⟩
  rw [hfilter] at heq
  rw [congrArg ModelStats.labels heq, labels_foldl]
  · rfl
  · exact g.nodup_labels _

/-- What a field of an entry says. -/
theorem KeysDiffer.count_eq (h : KeysDiffer rows) {k : Text} {m : ModelStats}
    (hm : (k, m) ∈ byModel g.groups) (label : AIReviewerLabel) :
    (statsOf m).count label =
      rows.countP fun r => r.model = m.model ∧ r.reviewerLabel = some label := by
  show getEntry (some label) 0 m.labels = _
  cases hfind : Table.find Prod.fst (some label) m.labels with
  | none =>
    have hnone : ∀ r ∈ rows, ¬ (r.model = m.model ∧ r.reviewerLabel = some label) := by
      rintro r hr ⟨hmodel, hlabel⟩
      obtain ⟨x, hx, rfl⟩ := List.mem_map.mp ((g.occurs r).mpr hr)
      refine Table.find_eq_none_iff.mp hfind (List.mem_map.mpr ⟨(some label, x.labelled), ?_, rfl⟩)
      rw [h.labels_eq g hm]
      exact List.mem_map.mpr
        ⟨x, List.mem_filter.mpr ⟨hx, decide_eq_true hmodel⟩, by rw [hlabel]⟩
    rw [getEntry, hfind, List.countP_eq_zero.mpr fun r hr => by simpa using hnone r hr]
    rfl
  | some e =>
    have he := Table.mem_of_find hfind
    rw [h.labels_eq g hm] at he
    obtain ⟨x, hx, rfl⟩ := List.mem_map.mp he
    have hkey : Prod.fst (x.row.reviewerLabel, x.labelled) = some label :=
      Table.key_of_find hfind
    have hlabel : x.row.reviewerLabel = some label := hkey
    obtain ⟨hmem, hmodel⟩ := List.mem_filter.mp hx
    have hsame : ∀ r, r = x.row ↔ r.model = m.model ∧ r.reviewerLabel = some label := by
      intro r
      constructor
      · rintro rfl
        exact ⟨of_decide_eq_true hmodel, hlabel⟩
      · rintro ⟨hr, hrlabel⟩
        exact ModelFeedback.ext_of_model (hr.trans (of_decide_eq_true hmodel).symm)
          (hrlabel.trans hlabel.symm)
    have hcount : getEntry (some label) 0 m.labels = x.labelled := by
      rw [getEntry, hfind]
      rfl
    have hlabelled : x.labelled = x.count := if_pos (by rw [hlabel]; rfl)
    rw [hcount, hlabelled, g.counted x hmem, List.count]
    refine List.countP_congr fun r _ => ?_
    rw [beq_iff_eq, decide_eq_true_iff, hsame]

theorem KeysDiffer.total_eq (h : KeysDiffer rows) {k : Text} {m : ModelStats}
    (hm : (k, m) ∈ byModel g.groups) :
    (statsOf m).total = rows.countP fun r => r.model = m.model ∧ r.reviewerLabel.isSome := by
  show (m.labels.map Prod.snd).sum = _
  rw [h.labels_eq g hm, List.map_map]
  show (((g.groups.filter _).map FeedbackGroup.labelled)).sum = _
  rw [sum_labelled, List.filter_filter, ← g.sum_count]
  congr 2
  refine List.filter_congr fun x _ => ?_
  rw [Bool.and_comm, Bool.decide_and, Bool.decide_eq_true]

/-- **The statistics are those of the models** exactly where no two models that occur have the
same key. -/
theorem faithful_iff (serviceKind : Option Text) (rows : List ModelFeedback)
    (g : Grouping (matching serviceKind rows)) :
    Faithful (matching serviceKind rows) (feedbackStats g.groups) ↔
      KeysDiffer (matching serviceKind rows) := by
  have hentries : ∀ e ∈ feedbackStats g.groups, ∃ m, (modelKey m.model, m) ∈ byModel g.groups ∧
      e = statsOf m := by
    rintro e he
    obtain ⟨⟨k, m⟩, hm, rfl⟩ := List.mem_map.mp he
    exact ⟨m, (key_of_mem_byModel hm).symm ▸ hm, rfl⟩
  constructor
  · -- two models of one key would share the entry of the key
    intro h m₁ h₁ m₂ h₂ hkey
    obtain ⟨e₁, he₁, rfl⟩ := List.mem_map.mp ((h.occurs m₁).mpr h₁)
    obtain ⟨e₂, he₂, rfl⟩ := List.mem_map.mp ((h.occurs m₂).mpr h₂)
    obtain ⟨s₁, hs₁, rfl⟩ := hentries e₁ he₁
    obtain ⟨s₂, hs₂, rfl⟩ := hentries e₂ he₂
    have hsame := List.inj_on_of_nodup_map (nodup_gather g.groups) hs₁ hs₂ hkey
    rw [(Prod.mk.inj hsame).2]
  · intro h
    refine ⟨?_, fun m => ⟨?_, ?_⟩, ?_, ?_⟩
    · have hkeys : ((feedbackStats g.groups).map FeedbackStats.model).map modelKey =
          (byModel g.groups).map Prod.fst := by
        rw [feedbackStats, List.map_map, List.map_map]
        exact List.map_congr_left fun e he => key_of_mem_byModel he
      exact List.Nodup.of_map modelKey (hkeys ▸ nodup_gather g.groups)
    · intro hm
      obtain ⟨e, he, rfl⟩ := List.mem_map.mp hm
      obtain ⟨s, hs, rfl⟩ := hentries e he
      obtain ⟨x, hx, -, hmodel, -⟩ := exists_of_mem_byModel hs
      exact (mem_models_iff g).mpr ⟨x, hx, hmodel.symm⟩
    · intro hm
      obtain ⟨x, hx, rfl⟩ := (mem_models_iff g).mp hm
      have hkey : modelKey x.row.model ∈ (byModel g.groups).map Prod.fst :=
        mem_keys_gather.mpr (List.mem_map.mpr ⟨x, hx, rfl⟩)
      obtain ⟨⟨k, s⟩, hs, hsame⟩ := List.mem_map.mp hkey
      obtain ⟨y, hy, -, hmodel, -⟩ := exists_of_mem_byModel hs
      -- the entry of the key is of this model
      have heq : s.model = x.row.model :=
        h ((mem_models_iff g).mpr ⟨y, hy, hmodel.symm⟩) hm ((key_of_mem_byModel hs).trans hsame)
      exact List.mem_map.mpr ⟨statsOf s, List.mem_map.mpr ⟨(k, s), hs, rfl⟩, heq⟩
    · rintro e he label
      obtain ⟨m, hm, rfl⟩ := hentries e he
      exact h.count_eq g hm label
    · rintro e he
      obtain ⟨m, hm, rfl⟩ := hentries e he
      exact h.total_eq g hm

end Faithful

/-! ## Two models of one key -/

/-- Two rows of version `c` of the service `a::b`. -/
def sampleRow : ModelFeedback := ⟨"a::b", "c", some .falsePositive⟩

/-- A row of version `b::c` of the service `a`. -/
def otherRow : ModelFeedback := ⟨"a", "b::c", some .falsePositive⟩

def sampleRows : List ModelFeedback := [sampleRow, sampleRow, otherRow]

def sampleGrouping : Grouping sampleRows where
  groups := [⟨sampleRow, 2⟩, ⟨otherRow, 1⟩]
  nodup := by decide
  occurs r := by simp [sampleRows]
  counted := by decide

/-- Both models get one entry, where the count of the one takes the place of the other's. -/
theorem sampleGrouping_not_faithful :
    feedbackStats sampleGrouping.groups = [⟨("a::b", "c"), 1, [(some .falsePositive, 1)]⟩] ∧
      ¬ Faithful sampleRows (feedbackStats sampleGrouping.groups) := by
  have hstats : feedbackStats sampleGrouping.groups =
      [⟨("a::b", "c"), 1, [(some .falsePositive, 1)]⟩] := rfl
  refine ⟨hstats, fun h => ?_⟩
  have hcount := h.total _ (hstats ▸ List.mem_singleton_self _)
  revert hcount
  decide

end ModelGovernance
