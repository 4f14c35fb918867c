import Vigiscam.Concurrency.Noted
import Vigiscam.ScamSignals.Review

/-!
# Reviewer decisions and later reports

Two parts of the program write the status of a signal: a reviewer's decision, and intake when
a report is merged into the signal. Intake triages every signal again that it finds, also one
that a reviewer has decided (`deriveStatus_autoTriage`).

The history of a run has the last decision on each signal. `verdicts_survive` says when the
statuses agree with it: as long as no report is merged into a signal that was decided.
-/

namespace ScamSignals

open Js Concurrency

/-! ## Statuses -/

/-- The statuses that intake gives by itself. -/
def ScamSignalStatus.AutoTriage : ScamSignalStatus → Prop
  | unverifiedReport | suspiciousSignal | patternMatch => True
  | underReview | highRiskIndicator | verifiedScamIntelligence | publicSafeAlert | archived
  | rejected => False

theorem deriveStatus_autoTriage (reportCount : Nat) (confidence : Int) :
    (deriveStatus reportCount confidence).AutoTriage := by
  unfold deriveStatus
  split
  · trivial
  · split
    · trivial
    · trivial

/-- No decision gives a status of the automatic triage. -/
theorem decisionStatus_not_autoTriage (decision : ReviewDecision) :
    ¬ (decisionStatus decision).AutoTriage := by
  cases decision <;> exact id

/-! ## What runs, and its history -/

inductive Process where
  | report (dto : SubmitScamReportDto) (ip : Option Text)
  | partnerReport (partner : PartnerPrincipal) (dto : SubmitScamReportDto) (ip : Option Text)
  | moduleReport (dto : SubmitScamReportDto) (tenantId submittedByUserId : Option Uuid)
    (sourceModule : Text)
  | assign (reviewer : AuthenticatedUser) (queueId : Uuid) (ip : Option Text)
  | review (reviewer : AuthenticatedUser) (signalId : Uuid) (dto : ReviewSignalDto)
    (ip : Option Text)
  | clock (now : Date)

def Process.program (platform : Platform) : Process → Program Unit
  | report dto ip => (fun _ => ()) <$> submitReport platform dto ip
  | partnerReport partner dto ip => (fun _ => ()) <$> submitPartnerReport platform partner dto ip
  | moduleReport dto tenantId submittedByUserId sourceModule =>
    (fun _ => ()) <$> submitFromModule platform dto tenantId submittedByUserId sourceModule
  | assign reviewer queueId ip => (fun _ => ()) <$> ScamSignals.assign reviewer queueId ip
  | review reviewer signalId dto ip => (fun _ => ()) <$> reviewSignal reviewer signalId dto ip
  | clock now => Prog.act .read .internal fun s => ((), { s with now })

/-- The last decision on each signal. -/
abbrev Decisions := Uuid → Option ScamSignalStatus

/-- A decision that finds its signal is noted. -/
def noteDecision (l : SignalStep) (s : Store) (decisions : Decisions) : Decisions :=
  match l with
  | .decide id status =>
    if id ∈ s.signals.map ScamSignal.id then Function.update decisions id (some status)
    else decisions
  | _ => decisions

/-- Processes at their start; nothing is decided. -/
def processes {ι : Type} (platform : Platform) (process : ι → Process) (s : Store) :
    Pool ι (Store × Decisions) (Prog (Store × Decisions) SignalStep HttpError Unit) where
  shared := (s, fun _ => none)
  locals i := ((process i).program platform).noting noteDecision

/-- No report is merged into a signal that was decided. -/
def MergesUndecided : SignalStep → Store × Decisions → Prop
  | .merge id, x => x.2 id = none
  | _, _ => True

instance : (l : SignalStep) → (x : Store × Decisions) → Decidable (MergesUndecided l x)
  | .merge id, x => inferInstanceAs (Decidable (x.2 id = none))
  | .read, _ | .create, _ | .queue, _ | .append, _ | .publish, _ | .link _, _ | .decide _ _, _ =>
    isTrue trivial

/-- The signal has the status that the last decision set; before any decision, one of the
automatic triage. -/
def Follows (decisions : Decisions) (x : ScamSignal) : Prop :=
  match decisions x.id with
  | some status => x.status = status
  | none => x.status.AutoTriage

/-! ## What a step leaves of a row -/

/-- How a row has come about by a step from `s`. -/
inductive RowAfter (l : SignalStep) (s : Store) (y : ScamSignal) : Prop
  | kept {x : ScamSignal} : x ∈ s.signals → x.id = y.id → x.status = y.status →
      (∀ status, l ≠ .decide y.id status) → RowAfter l s y
  | triaged : l = .merge y.id → y.status.AutoTriage → RowAfter l s y
  | decided {x : ScamSignal} : x ∈ s.signals → x.id = y.id → l = .decide y.id y.status →
      RowAfter l s y
  | created : y.id ∉ s.signals.map ScamSignal.id → y.status.AutoTriage →
      (∀ status, l ≠ .decide y.id status) → RowAfter l s y

/-- What every step of every process does to the table. -/
structure Change (l : SignalStep) (s t : Store) : Prop where
  keeps : s.signals.map ScamSignal.id ⊆ t.signals.map ScamSignal.id
  rows : ∀ y ∈ t.signals, RowAfter l s y

section Steps

variable {platform : Platform} {l : SignalStep} {s t : Store}

/-- A step that is no decision and leaves the table alone. -/
theorem change_of_same (h : t.signals = s.signals) (hl : ∀ id status, l ≠ .decide id status) :
    Change l s t where
  keeps := by rw [h]; exact List.Subset.refl _
  rows y hy := .kept (h ▸ hy) rfl rfl (hl y.id)

/-- The rows of one id are changed. -/
theorem change_modify {id : Uuid} {f : ScamSignal → ScamSignal} (hid : ∀ x, (f x).id = x.id)
    (hrow : ∀ x ∈ s.signals, x.id = id → RowAfter l s (f x))
    (hother : ∀ id', id' ≠ id → ∀ status, l ≠ .decide id' status) :
    Change l s { s with signals := Table.modify ScamSignal.id id f s.signals } where
  keeps := by
    show _ ⊆ (Table.modify ScamSignal.id id f s.signals).map ScamSignal.id
    rw [Table.map_modify hid]
    exact List.Subset.refl _
  rows y hy := by
    obtain ⟨x, hx, rfl⟩ := Table.mem_modify.mp hy
    by_cases h : x.id = id
    · rw [if_pos h]
      exact hrow x hx h
    · rw [if_neg h]
      exact .kept hx rfl rfl (hother x.id h)

/-- An update does nothing where it finds no row. -/
theorem change_updateSignal {id : Uuid} {f : Date → ScamSignal → ScamSignal}
    (hid : ∀ now x, (f now x).id = x.id)
    (hrow : ∀ s : Store, ∀ x ∈ s.signals, x.id = id → RowAfter l s (f s.now x))
    (hother : ∀ id', id' ≠ id → ∀ status, l ≠ .decide id' status) :
    (updateSignal l id f).Each Change := by
  refine Prog.Each.attempt (fun s x t hupdate => ?_) fun s hnone => ?_
  · obtain ⟨x, -, hpair⟩ := Option.map_eq_some_iff.mp hupdate
    obtain ⟨-, rfl⟩ := Prod.mk.inj hpair
    exact change_modify (hid s.now) (hrow s) hother
  · have hmissing := Table.find_eq_none_iff.mp (Option.map_eq_none_iff.mp hnone)
    refine ⟨List.Subset.refl _, fun y hy => .kept hy rfl rfl (hother y.id fun h => hmissing ?_)⟩
    exact List.mem_map.mpr ⟨y, hy, h⟩

theorem change_read {α : Type} (f : Store → α) : (read f).Each Change :=
  Prog.Each.act fun _ => change_of_same rfl nofun

theorem change_appendEvidence (input : EvidenceVault.AppendEvidenceInput) :
    (appendEvidence input).Each Change :=
  Prog.Each.act fun _ => change_of_same rfl nofun

theorem change_createQueueItem (row : Uuid → RegistryReviewQueue) :
    (createQueueItem row).Each Change :=
  Prog.Each.act fun _ => change_of_same rfl nofun

theorem change_updateQueueItem (id : Uuid) (f : RegistryReviewQueue → RegistryReviewQueue) :
    (updateQueueItem id f).Each Change := by
  refine Prog.Each.attempt (fun s item t hupdate => ?_) fun s _ => change_of_same rfl nofun
  obtain ⟨item, -, hpair⟩ := Option.map_eq_some_iff.mp hupdate
  obtain ⟨-, rfl⟩ := Prod.mk.inj hpair
  exact change_of_same rfl nofun

/-- A merged report triages the signal again, whatever its status was. -/
theorem change_mergeReport (dto : SubmitScamReportDto) (base : Int) (existing : ScamSignal) :
    (mergeReport dto base existing).Each Change := by
  unfold mergeReport
  refine change_updateSignal (fun _ _ => rfl) (fun s x _ hid => ?_) fun _ _ _ h => nomatch h
  exact .triaged (congrArg SignalStep.merge hid.symm) (deriveStatus_autoTriage ..)

theorem autoTriage_newSignal (opts : IntakeOptions) (base : Int) (now : Date) (id : Uuid) :
    (newSignal platform opts base now id).status.AutoTriage := by
  have hstatus : (newSignal platform opts base now id).status
      = deriveStatus 1 (newSignal platform opts base now id).confidenceScore := rfl
  rw [hstatus]
  exact deriveStatus_autoTriage ..

theorem change_createSignal (opts : IntakeOptions) (base : Int) :
    (createSignal (newSignal platform opts base)).Each Change := by
  refine Prog.Each.attempt (fun s x t hcreate => ?_) fun s _ => change_of_same rfl nofun
  dsimp only at hcreate
  split at hcreate
  · cases hcreate
  · rename_i hfresh
    obtain ⟨-, rfl⟩ := Prod.mk.inj (Option.some.inj hcreate)
    refine ⟨fun id hid => ?_, fun y hy => ?_⟩
    · rw [List.map_append]
      exact List.mem_append_left _ hid
    · rcases List.mem_append.mp hy with hy | hy
      · exact .kept hy rfl rfl nofun
      · rw [List.mem_singleton.mp hy]
        exact .created hfresh (autoTriage_newSignal ..) nofun

theorem change_clusterAndRefresh (signal : ScamSignal) :
    (clusterAndRefresh platform signal).Each Change := by
  refine Prog.Each.tryCatch ?_ fun _ => Prog.Each.pure _
  refine Prog.Each.bind ?_ fun _ => Prog.Each.bind (change_read _) fun _ => Prog.Each.pure _
  unfold clusterSignal
  split
  · trivial
  · split
    · trivial
    · refine Prog.Each.bind ?_ fun _ => Prog.Each.pure _
      exact change_updateSignal (fun _ _ => rfl) (fun s x hx _ => .kept hx rfl rfl nofun)
        fun _ _ _ h => nomatch h

theorem change_queueForReview (signal : ScamSignal) : (queueForReview signal).Each Change := by
  unfold queueForReview
  split
  · refine Prog.Each.bind (change_read _) fun queued => ?_
    cases queued with
    | some _ => trivial
    | none => exact Prog.Each.bind (change_createQueueItem _) fun _ => Prog.Each.pure _
  · trivial

theorem change_intake (opts : IntakeOptions) : (intake platform opts).Each Change := by
  refine Prog.Each.bind (change_read _) fun base => ?_
  refine Prog.Each.bind (change_read _) fun existing => ?_
  refine Prog.Each.bind ?_ fun merged => ?_
  · cases existing with
    | some existing => exact Prog.Each.bind (change_mergeReport ..) fun _ => Prog.Each.pure _
    | none => exact Prog.Each.bind (change_createSignal opts base) fun _ => Prog.Each.pure _
  · refine Prog.Each.bind (change_appendEvidence _) fun _ => ?_
    refine Prog.Each.bind (change_clusterAndRefresh _) fun signal => ?_
    exact Prog.Each.bind (change_queueForReview signal) fun _ => Prog.Each.pure _

theorem change_decideSignal (signal : ScamSignal) (dto : ReviewSignalDto) :
    (decideSignal signal dto).Each Change := by
  unfold decideSignal
  refine change_updateSignal (fun _ _ => rfl) (fun s x hx hid => ?_) fun id hne status heq => ?_
  · exact .decided hx rfl (by rw [← hid])
  · exact hne (SignalStep.decide.inj heq).1.symm

theorem change_reviewSignal (reviewer : AuthenticatedUser) (signalId : Uuid)
    (dto : ReviewSignalDto) (ip : Option Text) :
    (reviewSignal reviewer signalId dto ip).Each Change := by
  refine Prog.Each.bind (change_read _) fun signal => ?_
  cases signal with
  | none => trivial
  | some signal =>
    refine Prog.Each.bind (change_decideSignal signal dto) fun updated => ?_
    refine Prog.Each.bind (Prog.Each.bind (change_read _) fun openItem => ?_) fun item => ?_
    · cases openItem with
      | some item => exact change_updateQueueItem ..
      | none => exact change_createQueueItem _
    · refine Prog.Each.bind (change_appendEvidence _) fun _ => ?_
      refine Prog.Each.bind ?_ fun _ => Prog.Each.pure _
      unfold notifyPartner
      split
      · exact Prog.Each.tryCatch (Prog.Each.act fun _ => change_of_same rfl nofun)
          fun _ => Prog.Each.pure _
      · trivial

theorem change_assign (reviewer : AuthenticatedUser) (queueId : Uuid) (ip : Option Text) :
    (ScamSignals.assign reviewer queueId ip).Each Change := by
  refine Prog.Each.bind (change_read _) fun item => ?_
  cases item with
  | none => trivial
  | some _ =>
    refine Prog.Each.bind (change_updateQueueItem ..) fun _ => ?_
    exact Prog.Each.bind (change_appendEvidence _) fun _ => Prog.Each.pure _

/-- What every step of every process does. -/
theorem change_process (process : Process) : (process.program platform).Each Change := by
  cases process with
  | report dto ip =>
    exact Prog.Each.bind (Prog.Each.bind (change_intake _) fun _ => Prog.Each.pure _)
      fun _ => Prog.Each.pure _
  | partnerReport partner dto ip =>
    refine Prog.Each.bind (Prog.Each.bind (change_read _) fun tenant => ?_)
      fun _ => Prog.Each.pure _
    cases tenant with
    | none => trivial
    | some type => exact Prog.Each.bind (change_intake _) fun _ => Prog.Each.pure _
  | moduleReport dto tenantId submittedByUserId sourceModule =>
    exact Prog.Each.bind (change_intake _) fun _ => Prog.Each.pure _
  | assign reviewer queueId ip =>
    exact Prog.Each.bind (change_assign ..) fun _ => Prog.Each.pure _
  | review reviewer signalId dto ip =>
    exact Prog.Each.bind (change_reviewSignal ..) fun _ => Prog.Each.pure _
  | clock now => exact Prog.Each.act fun _ => change_of_same rfl nofun

end Steps

/-! ## Verdicts -/

/-- Statuses follow the decisions, and only signals that are there were decided. -/
structure Agree (x : Store × Decisions) : Prop where
  follows : ∀ signal ∈ x.1.signals, Follows x.2 signal
  known : ∀ id, x.2 id ≠ none → id ∈ x.1.signals.map ScamSignal.id

/-- A step that is no decision on a signal notes nothing about it. -/
theorem noteDecision_of_ne {l : SignalStep} {id : Uuid} (h : ∀ status, l ≠ .decide id status)
    (s : Store) (decisions : Decisions) : noteDecision l s decisions id = decisions id := by
  cases l with
  | decide id' status =>
    have hne : id ≠ id' := fun heq => h status (heq ▸ rfl)
    unfold noteDecision
    dsimp only
    split
    · exact Function.update_of_ne hne ..
    · rfl
  | read | create | queue | append | publish | merge _ | link _ => rfl

/-- Only signals that are there are noted. -/
theorem known_of_noteDecision {l : SignalStep} {s : Store} {decisions : Decisions} {id : Uuid}
    (h : noteDecision l s decisions id ≠ none) :
    decisions id ≠ none ∨ id ∈ s.signals.map ScamSignal.id := by
  by_cases hl : ∃ status, l = .decide id status
  · obtain ⟨status, rfl⟩ := hl
    unfold noteDecision at h
    dsimp only at h
    split at h
    · rename_i hmem
      exact Or.inr hmem
    · exact Or.inl h
  · rw [noteDecision_of_ne (not_exists.mp hl)] at h
    exact Or.inl h

/-- A step keeps the statuses in agreement with the decisions, where no report is merged
into a signal that was decided. -/
theorem agree_step {l : SignalStep} {x y : Store × Decisions} (hallowed : MergesUndecided l x)
    (hchange : Prog.Noted noteDecision Change l x y) (hx : Agree x) : Agree y := by
  obtain ⟨s, decisions⟩ := x
  obtain ⟨t, decisions'⟩ := y
  obtain ⟨hchange, hnote⟩ := hchange
  dsimp only at hchange hnote
  subst hnote
  refine ⟨fun signal hsignal => ?_, fun id hid => ?_⟩
  · show Follows (noteDecision l s decisions) signal
    cases hchange.rows signal hsignal with
    | @kept before hbefore hid hstatus hl =>
      have hfollows : Follows decisions before := hx.follows before hbefore
      unfold Follows at hfollows ⊢
      rw [noteDecision_of_ne hl, ← hid, ← hstatus]
      exact hfollows
    | triaged hl hauto =>
      -- the signal was not decided, and is not decided now
      subst hl
      have hnone : decisions signal.id = none := hallowed
      have hl : ∀ status, SignalStep.merge signal.id ≠ .decide signal.id status := nofun
      unfold Follows
      rw [noteDecision_of_ne hl, hnone]
      exact hauto
    | @decided before hbefore hid hl =>
      have hmem : signal.id ∈ s.signals.map ScamSignal.id := List.mem_map.mpr ⟨before, hbefore, hid⟩
      have hnoted : noteDecision l s decisions signal.id = some signal.status := by
        rw [hl, noteDecision, if_pos hmem, Function.update_self]
      unfold Follows
      rw [hnoted]
    | created hfresh hauto hl =>
      have hnone : decisions signal.id = none := by
        by_contra hdecided
        exact hfresh (hx.known signal.id hdecided)
      unfold Follows
      rw [noteDecision_of_ne hl, hnone]
      exact hauto
  · rcases known_of_noteDecision hid with hknown | hmem
    · exact hchange.keeps (hx.known id hknown)
    · exact hchange.keeps hmem

/-- **Verdicts survive reports** that are not merged into a decided signal: in every run, and
whichever steps fail, each signal has the status that the last decision on it set, and a signal
without a decision one of the automatic triage. -/
theorem verdicts_survive {ι : Type} [DecidableEq ι] {platform : Platform} {process : ι → Process}
    {s : Store}
    {t : Pool ι (Store × Decisions) (Prog (Store × Decisions) SignalStep HttpError Unit)}
    (hstart : ∀ signal ∈ s.signals, signal.status.AutoTriage)
    (hrun : Pool.Run (Prog.interleaved MergesUndecided) (processes platform process s) t) :
    ∀ signal ∈ t.shared.1.signals, Follows t.shared.2 signal := by
  have hagree : Agree t.shared := by
    refine Run.each hrun (fun i => (change_process (process i)).noting noteDecision) ?_
      fun l x y => agree_step
    exact ⟨hstart, fun id hid => absurd rfl hid⟩
  exact hagree.follows

/-! ### A report after a verdict -/

/-- No clusters. -/
def plainPlatform : Platform where
  toLowerCase := lowerAscii
  clusterOf _ := none

/-- An empty database. -/
def emptyStore : Store where
  signals := []
  queue := []
  profiles _ := none
  tenants _ := none
  evidence := []
  published := []
  now := Date.sampleDay.noon
  uuid n := List.replicate (n + 1) 0x30
  issued := 0

/-- An anonymous report. -/
def reportOf (indicatorType : IndicatorType) (indicatorValue : Text) : Process :=
  .report ⟨indicatorType, indicatorValue, none, none, none, none⟩ none

/-- A reviewer verifies the first signal. -/
def verification : Process :=
  .review ⟨"r", "t", .reviewer⟩ "0" ⟨.promoteToVerified, none⟩ none

/-- A report of a phone, its verification, and another report. -/
def reports (last : Process) : Fin 3 → Process
  | 0 => reportOf .phone "(555) 123-4567"
  | 1 => verification
  | 2 => last

/-- What a process does alone. -/
def alone (process : Process) (x : Store × Decisions) : Store × Decisions :=
  (Prog.advance 20 x ((process.program plainPlatform).noting noteDecision)).1

/-- The steps that a process takes alone are allowed. -/
abbrev MayRun (allowed : SignalStep → Store × Decisions → Prop) (process : Process)
    (x : Store × Decisions) : Prop :=
  Prog.Permitted allowed 20 x ((process.program plainPlatform).noting noteDecision)

/-- After the first report and its verification. -/
def verified : Store × Decisions :=
  alone verification (alone (reports verification 0) (emptyStore, fun _ => none))

theorem run_reports {allowed : SignalStep → Store × Decisions → Prop} {last : Process}
    (hfirst : MayRun allowed (reports last 0) (emptyStore, fun _ => none))
    (hreview : MayRun allowed verification (alone (reports last 0) (emptyStore, fun _ => none)))
    (hlast : MayRun allowed last verified) :
    ∃ t, Pool.Run (Prog.interleaved allowed)
        (processes plainPlatform (reports last) emptyStore) t ∧ t.shared = alone last verified :=
  ⟨_, Prog.run_advance 2 20 (Prog.run_advance 1 20 (Prog.run_advance 0 20 Pool.Run.refl hfirst)
    hreview) hlast, rfl⟩

/-- The last report has another indicator. -/
theorem verdicts_survive_other :
    ∃ t, Pool.Run (Prog.interleaved MergesUndecided)
        (processes plainPlatform (reports (reportOf .email "a@b.example")) emptyStore) t ∧
      t.shared.1.signals.map (·.status) = [.verifiedScamIntelligence, .unverifiedReport] ∧
      ∀ signal ∈ t.shared.1.signals, Follows t.shared.2 signal := by
  obtain ⟨t, hrun, hshared⟩ := @run_reports MergesUndecided (reportOf .email "a@b.example")
    (by decide +kernel) (by decide +kernel)
    (by decide +kernel)
  refine ⟨t, hrun, ?_,
    verdicts_survive (s := emptyStore) (fun _ h => absurd h List.not_mem_nil) hrun⟩
  rw [hshared]
  decide +kernel

/-- The last report has the phone of the first, in another spelling: the verified signal is an
unverified report again. -/
theorem report_demotes_verified :
    ∃ t, Pool.Run (Prog.interleaved fun _ _ => True)
        (processes plainPlatform (reports (reportOf .phone "555-123-4567")) emptyStore) t ∧
      ∃ signal ∈ t.shared.1.signals, t.shared.2 signal.id = some .verifiedScamIntelligence ∧
        signal.status = .unverifiedReport := by
  obtain ⟨t, hrun, hshared⟩ := @run_reports (fun _ _ => True) (reportOf .phone "555-123-4567")
    (Prog.permitted_true ..) (Prog.permitted_true ..) (Prog.permitted_true ..)
  have hdemoted : (t.shared.1.signals.any fun signal =>
      t.shared.2 signal.id = some .verifiedScamIntelligence &&
        signal.status = .unverifiedReport) = true := by
    rw [hshared]
    decide +kernel
  obtain ⟨signal, hsignal, hdemoted⟩ := List.any_eq_true.mp hdemoted
  obtain ⟨hdecided, hstatus⟩ := Bool.and_eq_true_iff.mp hdemoted
  exact ⟨t, hrun, signal, hsignal, of_decide_eq_true hdecided, of_decide_eq_true hstatus⟩

end ScamSignals
