import Vigiscam.Concurrency.Calls
import Vigiscam.Concurrency.Triple
import Vigiscam.ReviewQueue.Service

/-!
# What the queue keeps

The operations that complete items, and intake, leave the completed items alone and look for an
open one before they open another. Claiming an item does neither: an item that is completed and
claimed again is in review again (`assign_reopens`). In a run without such claims the completed
items stay as they are, and a signal has one open item at most, and only in such a run
(`queue_kept_iff`).
-/

namespace ReviewQueue

open Js Concurrency
open ScamSignals (ScamSignal ReviewSignalDto IntakeOptions)

/-! ## What is kept -/

/-- The items that were completed are so, with the same decision and assignee. -/
def Settled (s t : Store) : Prop :=
  ∀ item ∈ s.queue.rows, item.reviewStatus = .completed → ∃ item' ∈ t.queue.rows,
    item'.id = item.id ∧ item'.reviewStatus = .completed ∧ item'.decision = item.decision ∧
      item'.assignedToUserId = item.assignedToUserId

/-- No signal has two items that are not completed. -/
def OneOpen (s : Store) : Prop :=
  ∀ signalId, (s.queue.rows.filter (isOpenItem signalId)).length ≤ 1

/-- What an operation keeps of the queue. -/
structure Keeps (s t : Store) : Prop where
  settled : Settled s t
  oneOpen : OneOpen s → OneOpen t

theorem isOpenItem_iff {signalId : Uuid} {item : RegistryReviewQueue} :
    isOpenItem signalId item ↔ item.signalId = some signalId ∧ item.reviewStatus ≠ .completed := by
  simp [isOpenItem]

section Keeps

variable {s t u : Store}

theorem Settled.trans (h : Settled s t) (h' : Settled t u) : Settled s u := by
  intro item hitem hcompleted
  obtain ⟨item', hitem', hid, hcompleted', hdecision, hassignee⟩ := h item hitem hcompleted
  obtain ⟨item'', hitem'', hid', hcompleted'', hdecision', hassignee'⟩ :=
    h' item' hitem' hcompleted'
  exact ⟨item'', hitem'', hid'.trans hid, hcompleted'', hdecision'.trans hdecision,
    hassignee'.trans hassignee⟩

theorem Keeps.trans (h : Keeps s t) (h' : Keeps t u) : Keeps s u :=
  ⟨h.settled.trans h'.settled, fun hs => h'.oneOpen (h.oneOpen hs)⟩

/-- A step that leaves the queue alone. -/
theorem keeps_of_same (h : t.queue.rows = s.queue.rows) : Keeps s t := by
  refine ⟨fun item hitem hcompleted => ?_, fun hs signalId => ?_⟩
  · exact ⟨item, h ▸ hitem, rfl, hcompleted, rfl, rfl⟩
  · rw [h]
    exact hs signalId

/-- A change of the rows that leaves the completed ones alone, and moves no row to a signal. -/
theorem keeps_map {f : RegistryReviewQueue → RegistryReviewQueue}
    (h : t.queue.rows = s.queue.rows.map f)
    (hcompleted : ∀ item ∈ s.queue.rows, item.reviewStatus = .completed → f item = item)
    (hsignal : ∀ item ∈ s.queue.rows, (f item).signalId = item.signalId) : Keeps s t := by
  refine ⟨fun item hitem hdone => ?_, fun hs signalId => ?_⟩
  · refine ⟨item, ?_, rfl, hdone, rfl, rfl⟩
    rw [h]
    exact List.mem_map.mpr ⟨item, hitem, hcompleted item hitem hdone⟩
  · refine le_trans ?_ (hs signalId)
    rw [h, ← List.countP_eq_length_filter, ← List.countP_eq_length_filter, List.countP_map]
    refine List.countP_mono_left fun item hitem hopen => ?_
    -- what is open was open
    obtain ⟨hsame, hstatus⟩ := isOpenItem_iff.mp hopen
    refine isOpenItem_iff.mpr ⟨(hsignal item hitem).symm.trans hsame, fun hdone => ?_⟩
    rw [hcompleted item hitem hdone] at hstatus
    exact hstatus hdone

/-- A new row that is no second open one. -/
theorem keeps_append {row : RegistryReviewQueue} (h : t.queue.rows = s.queue.rows ++ [row])
    (hrow : ∀ signalId, isOpenItem signalId row →
      s.queue.rows.filter (isOpenItem signalId) = []) : Keeps s t := by
  refine ⟨fun item hitem hdone => ?_, fun hs signalId => ?_⟩
  · refine ⟨item, ?_, rfl, hdone, rfl, rfl⟩
    rw [h]
    exact List.mem_append_left _ hitem
  · rw [h, List.filter_append]
    by_cases hopen : isOpenItem signalId row
    · simp [hrow signalId hopen, hopen]
    · simpa [hopen] using hs signalId

end Keeps

/-! ## The operations -/

section Programs

variable {α : Type} {s s₀ : Store} {Q : α → Prop}

/-- What a run of a program does to the queue, it does in whatever comes before and after it. -/
theorem gives_of_keeps {p : Program α} (h : ∀ s, Keeps s (p.run s).2) :
    p.Gives (Keeps s₀) fun _ => True :=
  fun s hs => ⟨hs.trans (h s), fun _ _ => trivial⟩

theorem keeps_of_gives {p : Program α} (h : p.Gives (Keeps s) Q) : Keeps s (p.run s).2 :=
  (h s (keeps_of_same rfl)).1

theorem gives_onSignals (p : ScamSignals.Program α) :
    (onSignals p).Gives (Keeps s₀) fun _ => True := by
  refine gives_of_keeps fun s => keeps_of_same ?_
  have hrun : (onSignals p).run s = _ := Prog.run_onPart (fun _ _ _ => rfl) p s
  rw [hrun]
  rfl

theorem gives_onRegistry (p : Registry.Program α) :
    (onRegistry p).Gives (Keeps s₀) fun _ => True := by
  refine gives_of_keeps fun s => keeps_of_same ?_
  have hrun : (onRegistry p).run s = _ := Prog.run_onPart (fun _ _ _ => rfl) p s
  rw [hrun]
  rfl

theorem gives_read (f : Store → α) : (read f).Gives (Keeps s₀) fun _ => True :=
  Prog.gives_act fun _ hs => ⟨hs, trivial⟩

theorem run_read_bind {β : Type} (f : Store → α) (k : α → Program β) (s : Store) :
    (read f >>= k).run s = (k (f s)).run s := rfl

theorem keeps_queueForReview (signal : ScamSignal) (s : Store) :
    Keeps s ((queueForReview signal).run s).2 := by
  by_cases hrisk : signal.status = .suspiciousSignal || signal.status = .patternMatch
  · cases hfind : s.queue.rows.find? (isOpenItem signal.id) with
    | some item =>
      refine keeps_of_same ?_
      simp [queueForReview, hrisk, read, hfind]
    | none =>
      have hrun : ((queueForReview signal).run s).2.queue.rows =
          s.queue.rows ++ [pendingItem (some signal.id) none s.queue.next] := by
        simp [queueForReview, hrisk, read, createItem, hfind]
      refine keeps_append hrun fun signalId hopen => List.filter_eq_nil_iff.mpr fun item hitem => ?_
      have hsame : signal.id = signalId := Option.some.inj (isOpenItem_iff.mp hopen).1
      exact hsame ▸ List.find?_eq_none.mp hfind item hitem
  · refine keeps_of_same ?_
    simp [queueForReview, hrisk]

/-- An update of an item that is not completed. -/
theorem keeps_updateItem {id : Uuid} {f : RegistryReviewQueue → RegistryReviewQueue}
    {hf : ∀ item, (f item).id = item.id}
    (hopen : ∀ item ∈ s.queue.rows, item.id = id → item.reviewStatus ≠ .completed)
    (hsignal : ∀ item, (f item).signalId = item.signalId) :
    Keeps s ((updateItem id f hf).run s).2 := by
  cases hfind : Table.find RegistryReviewQueue.id id s.queue.rows with
  | none =>
    have hrun : (updateItem id f hf).run s = _ := Prog.run_attempt_none (by rw [hfind]; rfl)
    rw [hrun]
    exact keeps_of_same rfl
  | some item =>
    have hrun : (updateItem id f hf).run s = _ := Prog.run_attempt_some (by rw [hfind]; rfl)
    rw [hrun]
    refine keeps_map (Table.Issued.rows_modify hf) (fun row hrow hdone => ?_) fun row _ => ?_
    · exact if_neg fun hid => hopen row hrow hid hdone
    · split
      · exact hsignal row
      · rfl

theorem keeps_completeItem (reviewer : AuthenticatedUser) (signalId : Uuid) (dto : ReviewSignalDto)
    (s : Store) : Keeps s ((completeItem reviewer signalId dto).run s).2 := by
  cases hfind : s.queue.rows.reverse.find? (isOpenItem signalId) with
  | some item =>
    have hmem : item ∈ s.queue.rows := List.mem_reverse.mp (List.mem_of_find?_eq_some hfind)
    have hopen := (isOpenItem_iff.mp (List.find?_some hfind)).2
    rw [completeItem, run_read_bind, hfind]
    refine keeps_updateItem (fun row hrow hid => ?_) fun _ => rfl
    rw [s.queue.eq_of_key hrow hmem hid]
    exact hopen
  | none =>
    rw [completeItem, run_read_bind, hfind]
    refine keeps_append rfl fun signalId' hopen => ?_
    exact absurd rfl (isOpenItem_iff.mp hopen).2

/-- Only an item of an entry is opened. -/
theorem gives_createItem_of_entry {row : Uuid → RegistryReviewQueue} {hrow : ∀ id, (row id).id = id}
    (hsignal : ∀ id, (row id).signalId = none) :
    (createItem row hrow).Gives (Keeps s₀) fun _ => True := by
  refine gives_of_keeps fun s => keeps_append rfl fun signalId hopen => ?_
  have hsome := (isOpenItem_iff.mp hopen).1
  rw [hsignal] at hsome
  cases hsome

theorem gives_markQueueComplete (registryEntryId : Uuid) (actor : AuthenticatedUser)
    (decision : Text) :
    (markQueueComplete registryEntryId actor decision).Gives (Keeps s₀) fun _ => True := by
  refine gives_of_keeps fun s => keeps_map rfl (fun item _ hdone => ?_) fun item _ => ?_
  · exact if_neg fun h => h.2 hdone
  · unfold completed
    split <;> rfl

theorem keeps_intake (platform : ScamSignals.Platform) (opts : IntakeOptions) (s : Store) :
    Keeps s ((intake platform opts).run s).2 :=
  keeps_of_gives <| (gives_onSignals _).bind fun signal _ =>
    (gives_of_keeps (keeps_queueForReview signal)).bind fun _ _ => Prog.gives_pure trivial

theorem keeps_reviewSignal (reviewer : AuthenticatedUser) (signalId : Uuid) (dto : ReviewSignalDto)
    (ip : Option Text) (s : Store) : Keeps s ((reviewSignal reviewer signalId dto ip).run s).2 := by
  refine keeps_of_gives (Q := fun _ => True) <| (gives_onSignals _).bind fun found _ => ?_
  cases found with
  | none => exact Prog.gives_throw _
  | some signal =>
    refine (gives_onSignals _).bind fun updated _ => ?_
    refine (gives_of_keeps (keeps_completeItem reviewer signalId dto)).bind fun reviewItem _ => ?_
    exact (gives_onSignals _).bind fun _ _ => Prog.gives_pure trivial

theorem gives_createEntry (p : Registry.Platform) (dto : CreateRegistryCandidateDto)
    (signal : ScamSignal) : (createEntry p dto signal).Gives (Keeps s₀) fun _ => True := by
  refine Prog.gives_attempt fun s entry t hs hcreate => ⟨?_, trivial⟩
  obtain ⟨-, hnew⟩ := Option.ite_none_left_eq_some.mp hcreate
  obtain ⟨-, rfl⟩ := Prod.mk.inj (Option.some.inj hnew)
  exact hs.trans (keeps_of_same rfl)

theorem gives_createOnce (p : Registry.Platform) (reviewer : AuthenticatedUser)
    (dto : CreateRegistryCandidateDto) (signal : ScamSignal) (ip : Option Text) :
    (createOnce p reviewer dto signal ip).Gives (Keeps s₀) fun _ => True := by
  refine (gives_read _).bind fun duplicate _ => ?_
  cases duplicate with
  | some _ => exact Prog.gives_throw _
  | none =>
    refine (gives_createEntry p dto signal).bind fun entry _ => ?_
    refine (gives_createItem_of_entry fun _ => rfl).bind fun _ _ => ?_
    exact (gives_onRegistry _).bind fun _ _ => Prog.gives_pure trivial

theorem keeps_createCandidate (p : Registry.Platform) (reviewer : AuthenticatedUser)
    (dto : CreateRegistryCandidateDto) (ip : Option Text) (s : Store) :
    Keeps s ((createCandidate p reviewer dto ip).run s).2 := by
  refine keeps_of_gives (Q := fun _ => True) <| (gives_onSignals _).bind fun found _ => ?_
  cases found with
  | none => exact Prog.gives_throw _
  | some signal =>
    by_cases hverified : signal.status ≠ .verifiedScamIntelligence
    · simp only [if_pos hverified]
      exact Prog.gives_throw _
    · simp only [if_neg hverified]
      refine (Registry.gives_assertPublicSafeLanguage _ _).bind fun _ _ => ?_
      cases present dto.recommendedAction with
      | none => exact gives_createOnce p reviewer dto signal ip
      | some recommendedAction =>
        refine (Registry.gives_assertPublicSafeLanguage _ _).bind fun _ _ => ?_
        exact gives_createOnce p reviewer dto signal ip

/-- A decision on an entry completes the items of the entry. -/
theorem gives_decided (update : Registry.Program Registry.RegistryEntry) (id : Uuid)
    (admin : AuthenticatedUser) (decision : Text)
    (log : Registry.RegistryEntry → Registry.Program Unit) :
    (do
      let updated ← onRegistry update
      markQueueComplete id admin decision
      onRegistry (log updated)
      return updated : Program Registry.RegistryEntry).Gives (Keeps s₀) fun _ => True := by
  refine (gives_onRegistry _).bind fun updated _ => ?_
  refine Prog.Gives.bind (gives_markQueueComplete id admin decision) fun _ _ => ?_
  exact (gives_onRegistry _).bind fun _ _ => Prog.gives_pure trivial

/-- The item of the id is claimed, if there is one. -/
theorem rows_assign (reviewer : AuthenticatedUser) (queueId : Uuid) (ip : Option Text) (s : Store) :
    ((assign reviewer queueId ip).run s).2.queue.rows =
      Table.modify RegistryReviewQueue.id queueId (claimed reviewer) s.queue.rows := by
  cases hfind : Table.find RegistryReviewQueue.id queueId s.queue.rows with
  | none =>
    have hsame : Table.modify RegistryReviewQueue.id queueId (claimed reviewer) s.queue.rows =
        s.queue.rows := by
      refine (List.map_congr_left fun item hitem => if_neg fun hid => ?_).trans (List.map_id _)
      exact Table.find_eq_none_iff.mp hfind (List.mem_map.mpr ⟨item, hitem, hid⟩)
    rw [hsame]
    simp [assign, requireItem, read, hfind]
  | some item =>
    have hupdate : (updateItem queueId (claimed reviewer) fun _ => rfl).run s = _ :=
      Prog.run_attempt_some (by rw [hfind]; rfl)
    have hlog : ∀ (input : EvidenceVault.AppendEvidenceInput) (s : Store),
        (onSignals (ScamSignals.appendEvidence input)).run s = _ := fun input s =>
      Prog.run_onPart (fun _ _ _ => rfl) _ s
    simp [assign, requireItem, read, hfind, hupdate, hlog]
    rfl

/-- A claim of an item that is not completed. -/
theorem keeps_assign {reviewer : AuthenticatedUser} {queueId : Uuid} {ip : Option Text}
    (hopen : ∀ item ∈ s.queue.rows, item.id = queueId → item.reviewStatus ≠ .completed) :
    Keeps s ((assign reviewer queueId ip).run s).2 := by
  refine keeps_map (rows_assign reviewer queueId ip s) (fun item hitem hdone => ?_) fun item _ => ?_
  · exact if_neg fun hid => hopen item hitem hid hdone
  · split <;> rfl

/-- **A completed item that is claimed is in review again.** -/
theorem assign_reopens {reviewer : AuthenticatedUser} {queueId : Uuid} {ip : Option Text}
    {item : RegistryReviewQueue} (hitem : item ∈ s.queue.rows) (hid : item.id = queueId)
    (hdone : item.reviewStatus = .completed) :
    ¬ Settled s ((assign reviewer queueId ip).run s).2 := by
  intro hsettled
  obtain ⟨item', hitem', hsame, hdone', -⟩ := hsettled item hitem hdone
  rw [rows_assign] at hitem'
  obtain ⟨old, -, rfl⟩ := Table.mem_modify.mp hitem'
  by_cases hold : old.id = queueId
  · rw [if_pos hold] at hdone'
    cases hdone'
  · rw [if_neg hold, hid] at hsame
    exact hold hsame

end Programs

/-! ## Runs -/

inductive QueueCall where
  | intake (opts : IntakeOptions)
  | assign (reviewer : AuthenticatedUser) (queueId : Uuid) (ip : Option Text)
  | reviewSignal (reviewer : AuthenticatedUser) (signalId : Uuid) (dto : ReviewSignalDto)
    (ip : Option Text)
  | createCandidate (reviewer : AuthenticatedUser) (dto : CreateRegistryCandidateDto)
    (ip : Option Text)
  | approve (admin : AuthenticatedUser) (id : Uuid) (ip : Option Text)
  | reject (admin : AuthenticatedUser) (id : Uuid) (ip : Option Text)
  /-- What other operations write of the signals and the entries. -/
  | others (signals : ScamSignals.Store) (registry : Registry.Store)

namespace QueueCall

section Exec

variable (platform : ScamSignals.Platform) (p : Registry.Platform)

/-- The state after a call that nobody interrupts. -/
def exec : QueueCall → Store → Store
  | intake opts, s => ((ReviewQueue.intake platform opts).run s).2
  | assign reviewer queueId ip, s => ((ReviewQueue.assign reviewer queueId ip).run s).2
  | reviewSignal reviewer signalId dto ip, s =>
    ((ReviewQueue.reviewSignal reviewer signalId dto ip).run s).2
  | createCandidate reviewer dto ip, s => ((ReviewQueue.createCandidate p reviewer dto ip).run s).2
  | approve admin id ip, s => ((ReviewQueue.approve p admin id ip).run s).2
  | reject admin id ip, s => ((ReviewQueue.reject p admin id ip).run s).2
  | others signals registry, s => { s with signals, registry }

end Exec

/-- The call claims an item that is completed. -/
def Reopens (s : Store) : QueueCall → Prop
  | assign _ queueId _ =>
    ∃ item ∈ s.queue.rows, item.id = queueId ∧ item.reviewStatus = .completed
  | intake _ | reviewSignal _ _ _ _ | createCandidate _ _ _ | approve _ _ _ | reject _ _ _
  | others _ _ => False

end QueueCall

section Runs

variable {platform : ScamSignals.Platform} {p : Registry.Platform} {s s₀ : Store}
  {call : QueueCall} {calls : List QueueCall}

theorem keeps_exec (h : ¬ call.Reopens s) : Keeps s (call.exec platform p s) := by
  cases call with
  | intake opts => exact keeps_intake platform opts s
  | assign reviewer queueId ip =>
    exact keeps_assign fun item hitem hid hdone => h ⟨item, hitem, hid, hdone⟩
  | reviewSignal reviewer signalId dto ip => exact keeps_reviewSignal reviewer signalId dto ip s
  | createCandidate reviewer dto ip => exact keeps_createCandidate p reviewer dto ip s
  | approve admin id ip => exact keeps_of_gives (gives_decided _ _ _ _ _)
  | reject admin id ip => exact keeps_of_gives (gives_decided _ _ _ _ _)
  | others signals registry => exact keeps_of_same rfl

/-- At every moment of a run, the items that were completed before are so still, with the same
decision and assignee, and no signal has two items that are not completed. -/
def QueueKept (platform : ScamSignals.Platform) (p : Registry.Platform) (s₀ : Store)
    (calls : List QueueCall) : Prop :=
  (∀ before later, before <+: later → later <+: calls →
    Settled (after (QueueCall.exec platform p) s₀ before)
      (after (QueueCall.exec platform p) s₀ later)) ∧
  ∀ before, before <+: calls → OneOpen (after (QueueCall.exec platform p) s₀ before)

/-- **When the queue is kept**: exactly where no call claims a completed item. -/
theorem queue_kept_iff (hstart : OneOpen s₀) :
    QueueKept platform p s₀ calls ↔
      ∀ before call, before ++ [call] <+: calls →
        ¬ call.Reopens (after (QueueCall.exec platform p) s₀ before) := by
  constructor
  · rintro ⟨hsettled, -⟩ before call hmoment hreopens
    have hstep := hsettled before _ (List.prefix_append before [call]) hmoment
    rw [after_concat] at hstep
    cases call with
    | assign reviewer queueId ip =>
      obtain ⟨item, hitem, hid, hdone⟩ := hreopens
      exact assign_reopens hitem hid hdone hstep
    | intake _ | reviewSignal _ _ _ _ | createCandidate _ _ _ | approve _ _ _ | reject _ _ _
    | others _ _ => exact hreopens
  · intro hcareful
    have hkeeps : ∀ before later, before <+: later → later <+: calls →
        Keeps (after (QueueCall.exec platform p) s₀ before)
          (after (QueueCall.exec platform p) s₀ later) := by
      rintro before _ ⟨rest, rfl⟩ hlater
      induction rest using List.reverseRecOn with
      | nil =>
        rw [List.append_nil]
        exact keeps_of_same rfl
      | append_singleton rest call ih =>
        rw [← List.append_assoc] at hlater ⊢
        rw [after_concat]
        exact (ih ((List.prefix_append _ [call]).trans hlater)).trans
          (keeps_exec (hcareful _ call hlater))
    refine ⟨fun before later h hlater => (hkeeps before later h hlater).settled,
      fun before hbefore => ?_⟩
    exact (hkeeps [] before List.nil_prefix hbefore).oneOpen hstart

end Runs

/-! ## A claim of a completed item -/

namespace Sample

def day : Date := Date.sampleDay.noon

def platform : ScamSignals.Platform where
  toLowerCase := lowerAscii
  clusterOf _ := none

def registryPlatform : Registry.Platform where
  toLowerCase := lowerAscii
  toUpperCase := upperAscii
  contains value q := value.tails.any (q.isPrefixOf ·)
  lower := lowerAscii
  skips _ := true
  newDate _ := day

def reported : ScamSignal where
  id := "s"
  tenantId := none
  submittedByUserId := none
  sourceType := .userReport
  category := none
  indicatorType := .email
  indicatorValue := "ann@example.org"
  normalizedIndicator := "ann@example.org"
  description := none
  rawText := none
  reportCount := 1
  confidenceScore := 20
  sourceReliabilityScore := 20
  evidenceStrengthScore := 10
  recencyScore := 10
  status := .suspiciousSignal
  geography := none
  firstSeen := day
  lastSeen := day
  clusterId := none
  publicSafeCandidate := false

/-- One signal, and no items. -/
def store : Store where
  signals := {
    signals := [reported]
    queue := []
    profiles _ := none
    tenants _ := none
    evidence := []
    published := []
    now := day
    uuid n := [Fin.ofNat _ n]
    issued := 0 }
  registry := {
    entries := []
    tenantOf _ := none
    evidence := []
    notices := []
    automated := []
    cache := Common.Cache.empty
    now := 0 }
  queue := Table.Issued.empty (fun n => List.replicate n 0x30) zeros_injective
  uuid n := [Fin.ofNat _ n]
  issued := 0

def ann : AuthenticatedUser := ⟨"ann", "agency", .reviewer⟩

def bob : AuthenticatedUser := ⟨"bob", "agency", .reviewer⟩

/-- The decision on the signal, which completes its item. -/
def deciding : QueueCall := .reviewSignal ann "s" ⟨.reject, none⟩ none

/-- Another reviewer claims the item. -/
def claiming : QueueCall := .assign bob [] none

end Sample

open Sample in
theorem queue_kept_iff_decided : QueueKept platform registryPlatform store [deciding] := by
  refine (queue_kept_iff fun signalId => Nat.zero_le _).mpr ?_
  exact forall_call_cons (fun h => h) forall_call_nil

open Sample in
/-- **A completed item does not stay so**: it is claimed by another reviewer. -/
theorem not_queueKept_claimed :
    ¬ QueueKept platform registryPlatform store [deciding, claiming] := by
  rintro ⟨hsettled, -⟩
  have hstep := hsettled [deciding] [deciding, claiming] (List.prefix_append [deciding] [claiming])
    List.prefix_rfl
  have hitem :
      (⟨[], some "s", none, .completed, false, some "ann", none, some "REJECT"⟩ :
        RegistryReviewQueue) ∈
        (after (QueueCall.exec platform registryPlatform) store [deciding]).queue.rows :=
    List.mem_singleton_self _
  exact assign_reopens hitem rfl rfl hstep

end ReviewQueue
