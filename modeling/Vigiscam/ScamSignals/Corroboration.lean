import Vigiscam.Concurrency.Calls
import Vigiscam.Concurrency.Triple
import Vigiscam.ScamSignals.Verdicts

/-!
# What another report makes of a score (`scam-signals.service.ts`)

A report that is merged into a signal scores it again, by its own source: the reliability of the
sources before it is forgotten. What it adds to the signal may be less than that
(`corroboration_iff`).
-/

namespace ScamSignals

open Js Concurrency EvidenceVault

/-! ## Calls -/

inductive TriageCall where
  /-- A report of any source, by whichever of the three ways. -/
  | intake (opts : IntakeOptions)
  | assign (reviewer : AuthenticatedUser) (queueId : Uuid) (ip : Option Text)
  | review (reviewer : AuthenticatedUser) (signalId : Uuid) (dto : ReviewSignalDto)
    (ip : Option Text)
  | clock (now : Date)

def TriageCall.program (platform : Platform) : TriageCall → Program Unit
  | intake opts => (fun _ => ()) <$> ScamSignals.intake platform opts
  | assign reviewer queueId ip => (fun _ => ()) <$> ScamSignals.assign reviewer queueId ip
  | review reviewer signalId dto ip => (fun _ => ()) <$> reviewSignal reviewer signalId dto ip
  | clock now => Prog.act .read .internal fun s => ((), { s with now })

def TriageCall.exec (platform : Platform) (call : TriageCall) (s : Store) : Store :=
  ((call.program platform).run s).2

/-- The signal that a call merges a report into, with the report. -/
def TriageCall.mergesInto (platform : Platform) (s : Store) :
    TriageCall → Option (ScamSignal × IntakeOptions)
  | intake opts => (findExisting platform opts.dto s).map (·, opts)
  | assign .. | review .. | clock _ => none

/-! ## Gain and loss -/

/-- The order of the automatic triage. -/
def ScamSignalStatus.rank : ScamSignalStatus → Nat
  | unverifiedReport => 0
  | suspiciousSignal => 1
  | patternMatch => 2
  | underReview | highRiskIndicator | verifiedScamIntelligence | publicSafeAlert | archived
  | rejected => 0

/-- The reliability of a source that a report has. -/
def baseOf (s : Store) (opts : IntakeOptions) : Int := (s.profiles opts.sourceType).getD 35

/-- A report has what the signal lacks. -/
def filled (old new : Option Text) : Bool := old = none && (present new).isSome

/-- What a report adds to a signal besides its source. -/
def gain (x : ScamSignal) (dto : SubmitScamReportDto) : Int :=
  (if x.reportCount < 5 then 3 else 0) +
    (if filled x.description dto.description then 5 else 0) +
    (if filled x.rawText dto.rawText then 6 else 0) +
    if filled x.category dto.category then 8 else 0

/-- The report is worth no less than the sources before it, by what it adds. -/
def Corroborates (platform : Platform) (s : Store) (call : TriageCall) : Prop :=
  ∀ m ∈ call.mergesInto platform s, m.1.status.AutoTriage →
    m.1.sourceReliabilityScore ≤ reliabilityOf (baseOf s m.2) + gain m.1 m.2.dto

/-- The signal that a report is merged into has no lower score, and no lower status, after it. -/
def NotWeakened (platform : Platform) (s : Store) (call : TriageCall) : Prop :=
  ∀ m ∈ call.mergesInto platform s, m.1.status.AutoTriage →
    ∃ y ∈ Table.find ScamSignal.id m.1.id (call.exec platform s).signals,
      m.1.confidenceScore ≤ y.confidenceScore ∧ m.1.status.rank ≤ y.status.rank

instance : (status : ScamSignalStatus) → Decidable status.AutoTriage
  | .unverifiedReport | .suspiciousSignal | .patternMatch => isTrue trivial
  | .underReview | .highRiskIndicator | .verifiedScamIntelligence | .publicSafeAlert | .archived
  | .rejected => isFalse id

instance (platform : Platform) (s : Store) (call : TriageCall) :
    Decidable (Corroborates platform s call) := by
  unfold Corroborates
  infer_instance

instance (platform : Platform) (s : Store) (call : TriageCall) :
    Decidable (NotWeakened platform s call) := by
  unfold NotWeakened
  infer_instance

/-! ## Scored rows -/

/-- The row is scored by what it holds and by a source of so much reliability. -/
structure ScoredBy (base : Int) (x : ScamSignal) : Prop where
  source : x.sourceReliabilityScore = reliabilityOf base
  confidence : x.confidenceScore = (scoreSignal base (present x.description).isSome
    (present x.rawText).isSome x.reportCount (present x.category).isSome).confidenceScore
  status : x.status = deriveStatus x.reportCount x.confidenceScore

/-- A reliability that can be configured. -/
def InRange (base : Int) : Prop := 0 ≤ base ∧ base ≤ 100

/-- Every signal that no reviewer has decided is scored as intake scores it. -/
structure Triaged (profiles : SignalSourceType → Option Int) (s : Store) : Prop where
  profiles : s.profiles = profiles
  ids : (s.signals.map ScamSignal.id).Nodup
  scored : ∀ x ∈ s.signals, x.status.AutoTriage → ∃ base, InRange base ∧ ScoredBy base x

variable {platform : Platform} {profiles : SignalSourceType → Option Int} {s t : Store}
  {x : ScamSignal} {opts : IntakeOptions} {base base' : Int}

theorem isSome_present_or (old new : Option Text) :
    (present (old.or new)).isSome = ((present old).isSome || filled old new) := by
  cases old <;> simp [filled, present]

/-- Below the caps, the points are added up. -/
theorem confidence_eq (hbase : InRange base) (description rawText category : Bool) (n : Nat) :
    (scoreSignal base description rawText n category).confidenceScore =
      reliabilityOf base + (if description then 8 else 3) + (if rawText then 6 else 0) + 10 +
        min 15 (n * 3 : Int) + if category then 8 else 0 := by
  obtain ⟨hlow, hhigh⟩ := hbase
  simp only [scoreSignal, reliabilityOf]
  cases description <;> cases rawText <;> cases category <;>
    simp only [if_true, if_false, Bool.false_eq_true] <;> omega

theorem rank_deriveStatus_le {n : Nat} {confidence confidence' : Int}
    (h : confidence ≤ confidence') :
    (deriveStatus n confidence).rank ≤ (deriveStatus (n + 1) confidence').rank := by
  simp only [deriveStatus]
  split_ifs <;> simp only [ScamSignalStatus.rank] <;> omega

/-! ## What a call leaves -/

/-- A row without its cluster. -/
def unlinked (x : ScamSignal) : ScamSignal := { x with clusterId := none }

theorem Triaged.of_same (h : Triaged profiles s) (hsignals : t.signals = s.signals)
    (hprofiles : t.profiles = s.profiles) : Triaged profiles t where
  profiles := hprofiles.trans h.profiles
  ids := hsignals ▸ h.ids
  scored x hx := h.scored x (hsignals ▸ hx)

/-- One row is changed, and is scored as intake does, or decided by a reviewer. -/
theorem Triaged.modify {id : Uuid} {f : ScamSignal → ScamSignal} (h : Triaged profiles s)
    (hid : ∀ x, (f x).id = x.id)
    (hrow : ∀ x ∈ s.signals, (f x).status.AutoTriage → ∃ base, InRange base ∧ ScoredBy base (f x)) :
    Triaged profiles { s with signals := Table.modify ScamSignal.id id f s.signals } where
  profiles := h.profiles
  ids := by
    show ((Table.modify ScamSignal.id id f s.signals).map ScamSignal.id).Nodup
    rw [Table.map_modify hid]
    exact h.ids
  scored y hy hauto := by
    obtain ⟨x, hx, rfl⟩ := Table.mem_modify.mp hy
    by_cases hkey : x.id = id
    · rw [if_pos hkey] at hauto ⊢
      exact hrow x hx hauto
    · rw [if_neg hkey] at hauto ⊢
      exact h.scored x hx hauto

/-- A run of the program leaves the signals scored. -/
def Rescores (profiles : SignalSourceType → Option Int) {α : Type} (p : Program α) : Prop :=
  p.Gives (Triaged profiles) fun _ => True

theorem Rescores.pure {α : Type} (a : α) : Rescores profiles (Pure.pure a : Program α) :=
  Prog.gives_pure trivial

theorem Rescores.bind {α β : Type} {p : Program α} {k : α → Program β} (hp : Rescores profiles p)
    (hk : ∀ a, Rescores profiles (k a)) : Rescores profiles (p >>= k) :=
  Prog.Gives.bind hp fun a _ => hk a

theorem triaged_read {α : Type} (f : Store → α) : Rescores profiles (read f) :=
  Prog.gives_act fun _ hs => ⟨hs, trivial⟩

theorem triaged_appendEvidence (input : AppendEvidenceInput) :
    Rescores profiles (appendEvidence input) :=
  Prog.gives_act fun _ hs => ⟨hs.of_same rfl rfl, trivial⟩

theorem triaged_createQueueItem (row : Uuid → RegistryReviewQueue) :
    Rescores profiles (createQueueItem row) :=
  Prog.gives_act fun _ hs => ⟨hs.of_same rfl rfl, trivial⟩

theorem triaged_updateQueueItem (id : Uuid) (f : RegistryReviewQueue → RegistryReviewQueue) :
    Rescores profiles (updateQueueItem id f) := by
  refine Prog.gives_attempt fun s item t hs hupdate => ?_
  obtain ⟨item, -, hpair⟩ := Option.map_eq_some_iff.mp hupdate
  obtain ⟨-, rfl⟩ := Prod.mk.inj hpair
  exact ⟨hs.of_same rfl rfl, trivial⟩

theorem triaged_updateSignal {l : SignalStep} {id : Uuid} {f : Date → ScamSignal → ScamSignal}
    (hid : ∀ now x, (f now x).id = x.id)
    (hrow : ∀ s : Store, Triaged profiles s → ∀ x ∈ s.signals, (f s.now x).status.AutoTriage →
      ∃ base, InRange base ∧ ScoredBy base (f s.now x)) :
    Rescores profiles (updateSignal l id f) := by
  refine Prog.gives_attempt fun s x t hs hupdate => ?_
  obtain ⟨x, -, hpair⟩ := Option.map_eq_some_iff.mp hupdate
  obtain ⟨-, rfl⟩ := Prod.mk.inj hpair
  exact ⟨hs.modify (hid s.now) (hrow s hs), trivial⟩

/-- The row that a report makes of another one. -/
def merged (dto : SubmitScamReportDto) (base : Int) (existing : ScamSignal) (now : Date)
    (signal : ScamSignal) : ScamSignal :=
  let scores := scoreSignal base (present (existing.description.or dto.description)).isSome
    (present (existing.rawText.or dto.rawText)).isSome (existing.reportCount + 1)
    (present (existing.category.or dto.category)).isSome
  { signal with
    reportCount := existing.reportCount + 1
    lastSeen := now
    category := existing.category.or dto.category
    description := existing.description.or dto.description
    rawText := existing.rawText.or dto.rawText
    sourceReliabilityScore := scores.sourceReliabilityScore
    evidenceStrengthScore := scores.evidenceStrengthScore
    recencyScore := scores.recencyScore
    confidenceScore := scores.confidenceScore
    status := deriveStatus (existing.reportCount + 1) scores.confidenceScore }

theorem mergeReport_eq_merged (dto : SubmitScamReportDto) (base : Int) (existing : ScamSignal) :
    mergeReport dto base existing =
      updateSignal (.merge existing.id) existing.id (merged dto base existing) := rfl

theorem scored_merged (dto : SubmitScamReportDto) (base : Int) (existing : ScamSignal) (now : Date)
    (signal : ScamSignal) : ScoredBy base (merged dto base existing now signal) := ⟨rfl, rfl, rfl⟩

theorem scored_newSignal (opts : IntakeOptions) (base : Int) (now : Date) (id : Uuid) :
    ScoredBy base (newSignal platform opts base now id) := ⟨rfl, rfl, rfl⟩

theorem triaged_mergeOrCreate (opts : IntakeOptions) (hbase : InRange base)
    (existing : Option ScamSignal) :
    Rescores profiles (mergeOrCreate platform opts base existing) := by
  cases existing with
  | some existing =>
    refine Rescores.bind ?_ fun _ => Rescores.pure _
    rw [mergeReport_eq_merged]
    exact triaged_updateSignal (fun _ _ => rfl) fun s _ x _ _ =>
      ⟨base, hbase, scored_merged ..⟩
  | none =>
    refine Rescores.bind ?_ fun _ => Rescores.pure _
    refine Prog.gives_attempt fun s x t hs hcreate => ?_
    dsimp only at hcreate
    split at hcreate
    · cases hcreate
    · rename_i hfresh
      obtain ⟨-, rfl⟩ := Prod.mk.inj (Option.some.inj hcreate)
      refine ⟨⟨hs.profiles, Table.nodup_append_new hs.ids hfresh, fun y hy hauto => ?_⟩, trivial⟩
      rcases List.mem_append.mp hy with hy | hy
      · exact hs.scored y hy hauto
      · rw [List.mem_singleton.mp hy]
        exact ⟨base, hbase, scored_newSignal ..⟩

theorem triaged_clusterAndRefresh (signal : ScamSignal) :
    Rescores profiles (clusterAndRefresh platform signal) := by
  refine Prog.Gives.tryCatch ?_ fun _ => Rescores.pure _
  refine Rescores.bind ?_ fun _ =>
    Rescores.bind (triaged_read _) fun _ => Rescores.pure _
  unfold clusterSignal
  split
  · exact Rescores.pure _
  · split
    · exact Rescores.pure _
    · refine Rescores.bind ?_ fun _ => Rescores.pure _
      refine triaged_updateSignal (fun _ _ => rfl) fun s hs x hx hauto => ?_
      obtain ⟨base, hbase, hscored⟩ := hs.scored x hx hauto
      exact ⟨base, hbase, hscored.source, hscored.confidence, hscored.status⟩

theorem triaged_queueForReview (signal : ScamSignal) :
    Rescores profiles (queueForReview signal) := by
  unfold queueForReview
  split
  · refine Rescores.bind (triaged_read _) fun queued => ?_
    cases queued with
    | some _ => exact Rescores.pure _
    | none =>
      exact Rescores.bind (triaged_createQueueItem _) fun _ => Rescores.pure _
  · exact Rescores.pure _

theorem triaged_intake (hprofiles : ∀ source, InRange ((profiles source).getD 35))
    (opts : IntakeOptions) :
    Rescores profiles (intake platform opts) := by
  refine Prog.Gives.bind (Q := InRange) (Prog.gives_act fun s hs => ⟨hs, ?_⟩) fun base hbase => ?_
  · show InRange ((s.profiles opts.sourceType).getD 35)
    rw [hs.profiles]
    exact hprofiles opts.sourceType
  · refine Rescores.bind (triaged_read _) fun existing => ?_
    refine Rescores.bind (triaged_mergeOrCreate opts hbase existing) fun result => ?_
    refine Rescores.bind (triaged_appendEvidence _) fun _ => ?_
    refine Rescores.bind (triaged_clusterAndRefresh _) fun signal => ?_
    exact Rescores.bind (triaged_queueForReview signal) fun _ => Rescores.pure _

theorem triaged_assign (reviewer : AuthenticatedUser) (queueId : Uuid) (ip : Option Text) :
    Rescores profiles (ScamSignals.assign reviewer queueId ip) := by
  refine Rescores.bind (triaged_read _) fun item => ?_
  cases item with
  | none => exact Prog.gives_throw _
  | some _ =>
    refine Rescores.bind (triaged_updateQueueItem _ _) fun _ => ?_
    exact Rescores.bind (triaged_appendEvidence _) fun _ => Rescores.pure _

/-- A decision takes the signal out of the automatic triage. -/
theorem triaged_reviewSignal (reviewer : AuthenticatedUser) (signalId : Uuid)
    (dto : ReviewSignalDto) (ip : Option Text) :
    Rescores profiles (reviewSignal reviewer signalId dto ip) := by
  refine Rescores.bind (triaged_read _) fun signal => ?_
  cases signal with
  | none => exact Prog.gives_throw _
  | some signal =>
    refine Rescores.bind ?_ fun updated => ?_
    · exact triaged_updateSignal (fun _ _ => rfl) fun s _ x _ hauto =>
        absurd hauto (decisionStatus_not_autoTriage dto.decision)
    refine Rescores.bind (Rescores.bind (triaged_read _) fun openItem => ?_) fun item => ?_
    · cases openItem with
      | some item => exact triaged_updateQueueItem _ _
      | none => exact triaged_createQueueItem _
    · refine Rescores.bind (triaged_appendEvidence _) fun _ => ?_
      refine Rescores.bind ?_ fun _ => Rescores.pure _
      unfold notifyPartner
      split
      · exact Prog.Gives.tryCatch (Prog.gives_act fun _ hs => ⟨hs.of_same rfl rfl, trivial⟩)
          fun _ => Rescores.pure _
      · exact Rescores.pure _

theorem Triaged.exec (hprofiles : ∀ source, InRange ((profiles source).getD 35))
    (call : TriageCall) (h : Triaged profiles s) : Triaged profiles (call.exec platform s) := by
  have hgives : Rescores profiles (call.program platform) := by
    cases call with
    | intake opts =>
      exact Rescores.bind (triaged_intake hprofiles opts) fun _ => Rescores.pure _
    | assign reviewer queueId ip =>
      exact Rescores.bind (triaged_assign _ _ _) fun _ => Rescores.pure _
    | review reviewer signalId dto ip =>
      exact Rescores.bind (triaged_reviewSignal _ _ _ _) fun _ => Rescores.pure _
    | clock now => exact Prog.gives_act fun _ hs => ⟨hs.of_same rfl rfl, trivial⟩
  exact (hgives s h).1

/-! ## A report that is merged -/

/-- The rows are those of `rows`, but for the clusters. -/
def RowsOf (rows : List ScamSignal) (s : Store) : Prop :=
  s.signals.map unlinked = rows.map unlinked

/-- A run of the program writes no more of a signal than its cluster. -/
def LinksOnly (rows : List ScamSignal) {α : Type} (p : Program α) : Prop :=
  p.Gives (RowsOf rows) fun _ => True

theorem linksOnly_clusterAndRefresh (rows : List ScamSignal) (signal : ScamSignal) :
    LinksOnly rows (clusterAndRefresh platform signal) := by
  refine Prog.Gives.tryCatch ?_ fun _ => Prog.gives_pure trivial
  refine Prog.Gives.bind (Q := fun _ => True) ?_ fun _ _ => Prog.Gives.bind (Q := fun _ => True)
    (Prog.gives_act fun _ hs => ⟨hs, trivial⟩) fun _ _ => Prog.gives_pure trivial
  unfold clusterSignal
  split
  · exact Prog.gives_pure trivial
  · split
    · exact Prog.gives_pure trivial
    · refine Prog.Gives.bind (Q := fun _ => True) (Prog.gives_attempt fun s x t hs hupdate => ?_)
        fun _ _ => Prog.gives_pure trivial
      obtain ⟨x, -, hpair⟩ := Option.map_eq_some_iff.mp hupdate
      obtain ⟨-, rfl⟩ := Prod.mk.inj hpair
      refine ⟨Eq.trans (Table.map_modify ?_) hs, trivial⟩
      exact fun _ => rfl

theorem linksOnly_queueForReview (rows : List ScamSignal) (signal : ScamSignal) :
    LinksOnly rows (queueForReview signal) := by
  unfold queueForReview
  split
  · refine Prog.Gives.bind (Q := fun _ => True) (Prog.gives_act fun _ hs => ⟨hs, trivial⟩)
      fun queued _ => ?_
    cases queued with
    | some _ => exact Prog.gives_pure trivial
    | none =>
      exact Prog.Gives.bind (Q := fun _ => True) (Prog.gives_act fun _ hs => ⟨hs, trivial⟩)
        fun _ _ => Prog.gives_pure trivial
  · exact Prog.gives_pure trivial

/-- The rows after a report that is merged. -/
theorem rowsOf_intake (hx : findExisting platform opts.dto s = some x) :
    RowsOf (Table.modify ScamSignal.id x.id (merged opts.dto (baseOf s opts) x s.now) s.signals)
      ((intake platform opts).run s).2 := by
  have hmem : x ∈ s.signals := List.mem_of_find?_eq_some hx
  have hsome : ∃ y, Table.find ScamSignal.id x.id s.signals = some y := by
    cases hfind : Table.find ScamSignal.id x.id s.signals with
    | some y => exact ⟨y, rfl⟩
    | none => exact absurd (List.mem_map_of_mem hmem) (Table.find_eq_none_iff.mp hfind)
  obtain ⟨y, hy⟩ := hsome
  have hmerge : (mergeOrCreate platform opts (baseOf s opts) (some x)).run s =
      (.ok (merged opts.dto (baseOf s opts) x s.now y, true), { s with
        signals := Table.modify ScamSignal.id x.id (merged opts.dto (baseOf s opts) x s.now)
          s.signals }) := by
    rw [mergeOrCreate, mergeReport_eq_merged, Prog.run_map, updateSignal,
      Prog.run_attempt_some (by rw [hy]; rfl)]
    rfl
  have hrest : ∀ (signal : ScamSignal) (event : AppendEvidenceInput) (rows : List ScamSignal),
      LinksOnly rows (do
        appendEvidence event
        let signal ← clusterAndRefresh platform signal
        queueForReview signal
        return signal) := by
    intro signal event rows
    refine Prog.Gives.bind (Q := fun _ => True) (Prog.gives_act fun _ hs => ⟨hs, trivial⟩)
      fun _ _ => ?_
    refine Prog.Gives.bind (linksOnly_clusterAndRefresh rows signal) fun signal _ => ?_
    exact Prog.Gives.bind (linksOnly_queueForReview rows signal) fun _ _ => Prog.gives_pure trivial
  have hrun : (intake platform opts).run s = (do
      appendEvidence (reportEvent opts (merged opts.dto (baseOf s opts) x s.now y) true)
      let signal ← clusterAndRefresh platform (merged opts.dto (baseOf s opts) x s.now y)
      queueForReview signal
      return signal : Program ScamSignal).run { s with
        signals := Table.modify ScamSignal.id x.id (merged opts.dto (baseOf s opts) x s.now)
          s.signals } := by
    rw [intake, Prog.run_bind, run_read, Prog.andThen_ok, Prog.run_bind, run_read,
      Prog.andThen_ok, hx, Prog.run_bind]
    exact congrArg (Prog.andThen _) hmerge
  rw [hrun]
  exact (hrest _ _ _ _ rfl).1

/-- **One report more**: the score goes up by the gain, and from one reliability to another. -/
theorem confidence_merged (hbase : InRange base) (hbase' : InRange base') (hx : ScoredBy base x)
    (dto : SubmitScamReportDto) (now : Date) (signal : ScamSignal) :
    (merged dto base' x now signal).confidenceScore =
      x.confidenceScore - x.sourceReliabilityScore + reliabilityOf base' + gain x dto := by
  have hfilled : ∀ {old new}, filled old new = true → (present old).isSome = false := by
    intro old new h
    simp only [filled, Bool.and_eq_true, decide_eq_true_eq] at h
    rw [h.1]
    rfl
  have hpoints : ∀ (old new : Option Text) (w v : Int),
      (if (present (old.or new)).isSome then w else v) =
        (if (present old).isSome then w else v) + if filled old new then w - v else 0 := by
    intro old new w v
    rw [isSome_present_or]
    cases h : filled old new with
    | false => simp
    | true =>
      rw [hfilled h]
      simp
  have hcount : min 15 (((x.reportCount + 1 : Nat) : Int) * 3) =
      min 15 ((x.reportCount : Int) * 3) + if x.reportCount < 5 then 3 else 0 := by
    split <;> omega
  rw [merged, confidence_eq hbase', hx.confidence, hx.source, confidence_eq hbase, hpoints, hpoints,
    hpoints, hcount, gain]
  ring_nf

theorem status_merged (dto : SubmitScamReportDto) (base : Int) (existing : ScamSignal) (now : Date)
    (signal : ScamSignal) : (merged dto base existing now signal).status =
      deriveStatus (existing.reportCount + 1)
        (merged dto base existing now signal).confidenceScore := rfl

/-- What the signal has become. -/
theorem exists_merged (hids : (s.signals.map ScamSignal.id).Nodup)
    (hx : findExisting platform opts.dto s = some x) :
    ∃ y, Table.find ScamSignal.id x.id ((TriageCall.intake opts).exec platform s).signals =
        some y ∧
      y.confidenceScore = (merged opts.dto (baseOf s opts) x s.now x).confidenceScore ∧
      y.status = (merged opts.dto (baseOf s opts) x s.now x).status := by
  have hmem : x ∈ s.signals := List.mem_of_find?_eq_some hx
  have hfind : Table.find ScamSignal.id x.id s.signals = some x :=
    (Table.find_eq_some_iff hids).mpr ⟨hmem, rfl⟩
  have hrows := rowsOf_intake hx
  have hstore : (TriageCall.intake opts).exec platform s = ((intake platform opts).run s).2 := by
    show ((_ <$> intake platform opts : Program Unit).run s).2 = _
    rw [Prog.run_map]
  rw [hstore]
  have hkeys : ∀ x : ScamSignal, ScamSignal.id (unlinked x) = ScamSignal.id x := fun _ => rfl
  have hmapped : (Table.find ScamSignal.id x.id ((intake platform opts).run s).2.signals).map
      unlinked = some (unlinked (merged opts.dto (baseOf s opts) x s.now x)) := by
    have hid : ∀ r, (merged opts.dto (baseOf s opts) x s.now r).id = r.id := fun _ => rfl
    rw [← Table.find_map hkeys, hrows, Table.find_map hkeys, Table.find_modify_self hid, hfind]
    rfl
  obtain ⟨y, hy, hsame⟩ := Option.map_eq_some_iff.mp hmapped
  have hconfidence := congrArg ScamSignal.confidenceScore hsame
  have hstatus := congrArg ScamSignal.status hsame
  exact ⟨y, hy, hconfidence, hstatus⟩

/-- **A report more**: it weakens no signal exactly where it corroborates it. -/
theorem notWeakened_iff (hprofiles : ∀ source, InRange ((profiles source).getD 35))
    (h : Triaged profiles s) (call : TriageCall) :
    NotWeakened platform s call ↔ Corroborates platform s call := by
  refine forall_congr' fun m => forall_congr' fun hcall => forall_congr' fun hauto => ?_
  cases call with
  | assign reviewer queueId ip => cases hcall
  | review reviewer signalId dto ip => cases hcall
  | clock now => cases hcall
  | intake opts =>
    obtain ⟨x, hx, rfl⟩ := Option.map_eq_some_iff.mp hcall
    dsimp only at hauto ⊢
    obtain ⟨base, hbase, hscored⟩ := h.scored x (List.mem_of_find?_eq_some hx) hauto
    have hbase' : InRange (baseOf s opts) := by
      rw [baseOf, h.profiles]
      exact hprofiles _
    obtain ⟨y, hy, hconfidence, hstatus⟩ := exists_merged h.ids hx
    rw [status_merged, ← hconfidence] at hstatus
    rw [confidence_merged hbase hbase' hscored] at hconfidence
    constructor
    · rintro ⟨y', hy', hle, -⟩
      rw [hy, Option.mem_some_iff] at hy'
      subst hy'
      omega
    · intro hle
      have hmono : x.confidenceScore ≤ y.confidenceScore := by omega
      refine ⟨y, hy, hmono, ?_⟩
      rw [hscored.status, hstatus]
      exact rank_deriveStatus_le hmono

/-- **When corroboration never weakens**: from an empty table, in every run of reports of any
source and of reviews, no report lowers the score or the status of a signal that no reviewer has
decided, exactly where every report is worth no less than the reliability that it replaces. -/
theorem corroboration_iff (platform : Platform) (s₀ : Store) (hempty : s₀.signals = [])
    (hprofiles : ∀ source base, s₀.profiles source = some base → InRange base)
    (calls : List TriageCall) :
    (∀ before call, before ++ [call] <+: calls →
      NotWeakened platform (after (TriageCall.exec platform) s₀ before) call) ↔
      ∀ before call, before ++ [call] <+: calls →
        Corroborates platform (after (TriageCall.exec platform) s₀ before) call := by
  have hrange : ∀ source, InRange ((s₀.profiles source).getD 35) := by
    intro source
    cases hsource : s₀.profiles source with
    | none => exact ⟨by decide, by decide⟩
    | some base => exact hprofiles source base hsource
  have hstart : Triaged s₀.profiles s₀ := by
    refine ⟨rfl, ?_, fun x hx => ?_⟩
    · rw [hempty]
      exact List.nodup_nil
    · rw [hempty] at hx
      cases hx
  have hevery : ∀ before, before <+: calls →
      Triaged s₀.profiles (after (TriageCall.exec platform) s₀ before) := by
    refine forall_prefix hstart fun before call _ ih => ?_
    rw [after_concat]
    exact ih.exec hrange call
  refine forall_congr' fun before => forall_congr' fun call => forall_congr' fun hmoment => ?_
  have hbefore := hevery before ((List.prefix_append before [call]).trans hmoment)
  exact notWeakened_iff hrange hbefore call

/-! ### A bank, and somebody else -/

/-- The sources as they are configured at first. -/
def seededProfiles : SignalSourceType → Option Int
  | .governmentAdvisory => some 95
  | .bankReport => some 85
  | .partnerReport => some 80
  | .investigator => some 80
  | .internal => some 70
  | .userReport => some 35
  | .publicWeb => some 25

/-- A report of a phone by a source. -/
def reportBy (sourceType : SignalSourceType) (description : Option Text) : TriageCall :=
  .intake {
    dto := ⟨.phone, "(555) 123-4567", some "BANK_IMPERSONATION", description, description, none⟩
    sourceType
    tenantId := none
    submittedByUserId := none
    origin := .anonymous
    ip := none }

/-- Nothing is there but the sources. -/
def seededStore : Store := { emptyStore with profiles := seededProfiles }

/-- An anonymous report, and a bank that confirms it. -/
def confirmed : List TriageCall :=
  [reportBy .userReport none, reportBy .bankReport (some "called at night")]

/-- The bank's report does not weaken the signal. -/
theorem corroboration_iff_confirmed :
    NotWeakened plainPlatform
      (after (TriageCall.exec plainPlatform) seededStore [reportBy .userReport none])
      (reportBy .bankReport (some "called at night")) := by
  refine (corroboration_iff plainPlatform seededStore rfl (fun source base h => ?_)
    confirmed).mpr ?_ _ _ List.prefix_rfl
  · cases source <;> (cases h; exact ⟨by decide, by decide⟩)
  · exact forall_call_cons (by decide) (forall_call_cons (by decide) forall_call_nil)

/-- **A report that weakens**: a bank reports a phone, and somebody else reports it too. The score
is lower for it, and the signal is no longer suspicious. -/
theorem anonymous_report_weakens :
    let s := after (TriageCall.exec plainPlatform) seededStore
      [reportBy .bankReport (some "called at night")]
    s.signals.map (fun x => (x.confidenceScore, x.status)) = [(61, .suspiciousSignal)] ∧
      ((reportBy .userReport none).exec plainPlatform s).signals.map
        (fun x => (x.confidenceScore, x.status)) = [(49, .unverifiedReport)] ∧
      ¬ NotWeakened plainPlatform s (reportBy .userReport none) := by
  exact ⟨by decide, by decide, by decide⟩

end ScamSignals
