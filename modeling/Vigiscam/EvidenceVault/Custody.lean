import Vigiscam.Concurrency.Failures
import Vigiscam.EvidenceVault.Processes

/-!
# The chain of custody of a file

An upload writes the row of its file, and then appends the event; `setLegalHold` writes the
row, and then appends the event. No transaction is around the two, and nothing is undone.
`CustodyEnd` says all that a call can come to: the change of the row is accompanied by its
event exactly where the append does not fail (`custody_atomic_iff`). Where no append of these
calls fails, the events on record tell the legal hold of every file (`Determined`).
-/

namespace EvidenceVault

open Js Value Concurrency

/-- The legal hold that an event of this type gives its file. -/
def holdRecorded (entityType eventType : Text) (metadata : Value) : Option Bool :=
  if entityType = "EVIDENCE_FILE" then
    if eventType = "EVIDENCE_FILE_LEGAL_HOLD_SET" then some true
    else if eventType = "EVIDENCE_FILE_LEGAL_HOLD_LIFTED" then some false
    else if eventType = "EVIDENCE_FILE_UPLOADED" then
      match metadata.getOpt "legalHold" with
      | .bool b => some b
      | _ => none
    else none
  else none

/-- The legal hold that a custody event gives its file. -/
def EvidenceEvent.legalHold (e : EvidenceEvent) : Option Bool :=
  holdRecorded e.entityType e.eventType (Json.read e.metadata)

namespace Files

/-! ## Calls, and what they come to -/

/-- The operations that write a row and record it. -/
inductive CustodyCall where
  | upload (eventId : Uuid) (file : Upload) (opts : UploadOptions)
  | setLegalHold (fileId : Uuid) (legalHold : Bool)

namespace CustodyCall

def program (platform : Platform) (user : AuthenticatedUser) : CustodyCall → Program EvidenceFile
  | upload eventId file opts => Files.upload platform user eventId file opts
  | setLegalHold fileId legalHold => Files.setLegalHold platform user fileId legalHold

def eventType : CustodyCall → Text
  | upload _ _ _ => "EVIDENCE_FILE_UPLOADED"
  | setLegalHold _ true => "EVIDENCE_FILE_LEGAL_HOLD_SET"
  | setLegalHold _ false => "EVIDENCE_FILE_LEGAL_HOLD_LIFTED"

/-- The call has written the row of `file`. -/
def Wrote (s t : Store) (file : EvidenceFile) : CustodyCall → Prop
  | upload _ _ _ => file.id ∉ s.files.map EvidenceFile.id ∧ t.files = s.files ++ [file]
  | setLegalHold fileId legalHold =>
    (∃ old, Table.find EvidenceFile.id fileId s.files = some old ∧ old.legalHold ≠ legalHold ∧
      file = { old with legalHold }) ∧
    t.files = Table.modify EvidenceFile.id fileId ({ · with legalHold }) s.files

end CustodyCall

/-- The event records the legal hold of the file, in the chain of its tenant. -/
structure Concerns (file : EvidenceFile) (event : EvidenceEvent) : Prop where
  tenantId : event.tenantId = file.tenantId
  entityId : event.entityId = file.id
  legalHold : event.legalHold = some file.legalHold

/-- The table of files is unchanged, or the change of a row has its custody event. -/
def Accompanied (call : CustodyCall) (s t : Store) : Prop :=
  t.files = s.files ∨ ∃ file event, call.Wrote s t file ∧ t.events = s.events ++ [event] ∧
    event.eventType = call.eventType ∧ Concerns file event

/-- What a call comes to, with the steps that failed. -/
inductive CustodyEnd (call : CustodyCall) (s : Store) (failed : List FileStep) (t : Store) : Prop
  | untouched (hfiles : t.files = s.files) (hevents : t.events = s.events)
      (happend : .append ∉ failed)
  | recorded (file : EvidenceFile) (event : EvidenceEvent) (hwrote : call.Wrote s t file)
      (hevents : t.events = s.events ++ [event]) (htype : event.eventType = call.eventType)
      (hconcerns : Concerns file event) (happend : .append ∉ failed)
  | unrecorded (file : EvidenceFile) (hwrote : call.Wrote s t file)
      (hevents : t.events = s.events) (happend : .append ∈ failed)

/-- The ids that are still to be issued are those of no event. -/
def Store.FreshIds (s : Store) : Prop :=
  ∀ n, s.issued ≤ n → s.uuid n ∉ s.events.map EvidenceEvent.id

section Ends

variable {platform : Platform} {user : AuthenticatedUser} {s t : Store}

/-! ### What the events record -/

theorem read_column (v : Value) (h : Distinct v) : Json.read (column v h) = readBack v := by
  unfold column readBack
  split
  · next hv => simp only [hv]; rfl
  · next hv => simp only [hv]; rfl

/-- The row of an appended input. -/
abbrev rowOf (platform : Platform) (input : AppendEvidenceInput) (s : Store) : EvidenceEvent :=
  (Call.mk input s.now).row platform.sha256 (findLast input.tenantId s.events) (s.uuid s.issued)
    (column input.metadata input.metadata_distinct)

theorem legalHold_rowOf (input : AppendEvidenceInput) (s : Store) :
    (rowOf platform input s).legalHold
      = holdRecorded input.entityType input.eventType (readBack input.metadata) := by
  show holdRecorded _ _ (Json.read (column input.metadata input.metadata_distinct)) = _
  rw [read_column]
  rfl

theorem holdRecorded_upload (evidenceEventId : Uuid) (file : Upload) (sha256 : Text) (b : Bool) :
    holdRecorded "EVIDENCE_FILE" "EVIDENCE_FILE_UPLOADED"
      (readBack (uploadMetadata evidenceEventId file sha256 b)) = some b := rfl

theorem holdRecorded_hold (b : Bool) (metadata : Value) :
    holdRecorded "EVIDENCE_FILE"
      (if b then utf16 "EVIDENCE_FILE_LEGAL_HOLD_SET" else utf16 "EVIDENCE_FILE_LEGAL_HOLD_LIFTED")
      metadata = some b := by
  cases b with
  | false => rfl
  | true => rfl

/-! ### Where the calls end -/

/-- An append that does not fail adds its row. -/
theorem outcomes_append {P : List FileStep → Except HttpError Uuid → Store → Prop}
    (hfresh : s.FreshIds) (input : AppendEvidenceInput) :
    Prog.Outcomes P (appendEvidence platform input) s ↔
      P [] (.ok (s.uuid s.issued)) { s with
        events := s.events ++ [rowOf platform input s], issued := s.issued + 1 } ∧
      P [.append] (.error .internal) s :=
  Prog.outcomes_attempt_some (if_neg (hfresh s.issued le_rfl))

/-- Neither files nor events have changed. -/
structure Quiet (s t : Store) : Prop where
  files : t.files = s.files
  events : t.events = s.events
  uuid : t.uuid = s.uuid
  issued : t.issued = s.issued

theorem Quiet.rfl : Quiet s s := ⟨by rfl, by rfl, by rfl, by rfl⟩

theorem Quiet.trans {u : Store} (hst : Quiet s t) (htu : Quiet t u) : Quiet s u :=
  ⟨htu.files.trans hst.files, htu.events.trans hst.events, htu.uuid.trans hst.uuid,
    htu.issued.trans hst.issued⟩

theorem Quiet.freshIds (h : Quiet s t) (hs : s.FreshIds) : t.FreshIds := by
  intro n hn
  rw [h.uuid, h.events]
  exact hs n (h.issued ▸ hn)

/-- What comes before the row is written leaves files and events alone. -/
abbrev QuietSteps {α : Type} (p : Program α) : Prop :=
  p.Each fun l s t => l ≠ .append ∧ Quiet s t

theorem quietSteps_read {α : Type} (f : Store → α) : QuietSteps (read f) :=
  Prog.Each.act fun _ => ⟨by simp, Quiet.rfl⟩

theorem quietSteps_requireEvent (eventId : Uuid) : QuietSteps (requireEvent user eventId) := by
  refine Prog.Each.bind (quietSteps_read _) fun event => ?_
  cases event with
  | none => trivial
  | some event =>
    dsimp only
    split <;> trivial

theorem quietSteps_blobUpload (tenantId eventId filename : Text) (data : List UInt8) :
    QuietSteps (blobUpload platform tenantId eventId filename data) := by
  unfold blobUpload
  split
  · exact Prog.Each.act fun s => ⟨by simp, by rfl, by rfl, by rfl, by rfl⟩
  · trivial

variable {call : CustodyCall} {failed failed' : List FileStep}

theorem CustodyEnd.after (hquiet : Quiet s t) (hfailed : .append ∉ failed) {u : Store}
    (h : CustodyEnd call t failed' u) : CustodyEnd call s (failed ++ failed') u := by
  have hwrote : ∀ file, call.Wrote t u file → call.Wrote s u file := by
    intro file hfile
    cases call with
    | upload => simpa [CustodyCall.Wrote, hquiet.files] using hfile
    | setLegalHold => simpa [CustodyCall.Wrote, hquiet.files] using hfile
  cases h with
  | untouched hfiles hevents happend =>
    exact .untouched (hfiles.trans hquiet.files) (hevents.trans hquiet.events)
      (by simp [hfailed, happend])
  | recorded file event hfile hevents htype hconcerns happend =>
    exact .recorded file event (hwrote file hfile) (hquiet.events ▸ hevents) htype hconcerns
      (by simp [hfailed, happend])
  | unrecorded file hfile hevents happend =>
    exact .unrecorded file (hwrote file hfile) (hevents.trans hquiet.events) (by simp [happend])

/-- Quiet steps come first. -/
theorem outcomes_quiet_bind {α β : Type} {p : Program α} {k : α → Program β}
    (hp : QuietSteps p)
    (hk : ∀ a t, Quiet s t → (k a).Outcomes (fun failed _ u => CustodyEnd call t failed u) t) :
    (p >>= k).Outcomes (fun failed _ u => CustodyEnd call s failed u) s := by
  rw [Prog.outcomes_bind, Prog.outcomes_iff]
  intro failed result t hends
  obtain ⟨hlabels, hquiet⟩ := hp.ends (fun _ => Quiet.rfl) (fun _ _ _ => Quiet.trans) hends
  have hfailed : .append ∉ failed := fun h => hlabels _ h rfl
  cases result with
  | error e =>
    simp only [Prog.onward_error]
    exact .untouched hquiet.files hquiet.events hfailed
  | ok a =>
    rw [Prog.onward_ok]
    exact (hk a t hquiet).mono fun failed' _ u hu => hu.after hquiet hfailed

/-- The row is written, and then its event is appended. -/
theorem outcomes_record {α : Type} {file : EvidenceFile} {input : AppendEvidenceInput} {a : α}
    (hfresh : t.FreshIds) (hwrote : ∀ u : Store, u.files = t.files → call.Wrote s u file)
    (hevents : t.events = s.events) (htype : input.eventType = call.eventType)
    (htenant : input.tenantId = file.tenantId) (hentity : input.entityId = file.id)
    (hhold : holdRecorded input.entityType input.eventType (readBack input.metadata)
      = some file.legalHold) :
    (appendEvidence platform input >>= fun _ => (pure a : Program α)).Outcomes
      (fun failed _ u => CustodyEnd call s failed u) t := by
  rw [Prog.outcomes_bind, outcomes_append hfresh]
  constructor
  · rw [Prog.onward_ok, Prog.outcomes_pure]
    exact .recorded file (rowOf platform input t) (hwrote _ rfl) (by rw [hevents]) htype
      ⟨htenant, hentity, (legalHold_rowOf input t).trans hhold⟩ (by simp)
  · exact .unrecorded file (hwrote t rfl) hevents (by simp)

/-- A row is added, or it is refused, or the step fails. -/
theorem outcomes_createFile {P : List FileStep → Except HttpError EvidenceFile → Store → Prop}
    {row : Option (Uuid → EvidenceFile)}
    (hrow : ∀ make, row = some make → s.uuid s.issued ∉ s.files.map EvidenceFile.id →
      P [] (.ok (make (s.uuid s.issued))) { s with
        files := s.files ++ [make (s.uuid s.issued)], issued := s.issued + 1 })
    (hrefused : ∀ failed, .append ∉ failed → P failed (.error .internal) s) :
    (createFile row).Outcomes P s := by
  unfold createFile
  by_cases htaken : s.uuid s.issued ∈ s.files.map EvidenceFile.id
  · refine (Prog.outcomes_attempt_none ?_).mpr ?_
    · exact if_pos htaken
    · exact ⟨hrefused _ (by simp), hrefused _ (by simp)⟩
  · cases row with
    | none =>
      refine (Prog.outcomes_attempt_none ?_).mpr ?_
      · exact if_neg htaken
      · exact ⟨hrefused _ (by simp), hrefused _ (by simp)⟩
    | some make =>
      refine (Prog.outcomes_attempt_some ?_).mpr
        ⟨hrow make rfl htaken, hrefused [.createFile] (by simp)⟩
      exact if_neg htaken

theorem outcomes_upload (hfresh : s.FreshIds) (eventId : Uuid) (file : Upload)
    (opts : UploadOptions) :
    (upload platform user eventId file opts).Outcomes
      (fun failed _ u => CustodyEnd (.upload eventId file opts) s failed u) s := by
  refine outcomes_quiet_bind (quietSteps_requireEvent eventId) fun event s₁ h₁ => ?_
  refine outcomes_quiet_bind (quietSteps_blobUpload ..) fun result s₂ h₂ => ?_
  refine outcomes_quiet_bind (quietSteps_read _) fun now s₃ h₃ => ?_
  have hfresh₃ : s₃.FreshIds := h₃.freshIds (h₂.freshIds (h₁.freshIds hfresh))
  rw [Prog.outcomes_bind]
  refine outcomes_createFile (fun make hmake htaken => ?_) fun failed hfailed => ?_
  · obtain ⟨retentionUntil, -, rfl⟩ := Option.map_eq_some_iff.mp hmake
    rw [Prog.onward_ok]
    exact outcomes_record (fun n hn => hfresh₃ n (Nat.le_of_succ_le hn))
      (fun u hu => ⟨htaken, hu⟩) rfl rfl rfl rfl (holdRecorded_upload ..)
  · exact .untouched rfl rfl hfailed

theorem outcomes_setLegalHold (hfresh : s.FreshIds) (fileId : Uuid) (legalHold : Bool) :
    (setLegalHold platform user fileId legalHold).Outcomes
      (fun failed _ u => CustodyEnd (.setLegalHold fileId legalHold) s failed u) s := by
  have hsame : ∀ failed, .append ∉ failed →
      CustodyEnd (.setLegalHold fileId legalHold) s failed s :=
    fun failed hfailed => .untouched rfl rfl hfailed
  unfold setLegalHold
  rw [Prog.outcomes_bind]
  refine Prog.outcomes_act.mpr ?_
  refine ⟨?_, hsame _ (by simp)⟩
  simp only [Prog.onward_ok]
  cases hfind : Table.find EvidenceFile.id fileId s.files with
  | none => exact hsame _ (by simp)
  | some file =>
    dsimp only
    split
    · exact hsame _ (by simp)
    split
    · exact hsame _ (by simp)
    next hhold =>
    have hid : file.id = fileId := Table.key_of_find hfind
    rw [Prog.outcomes_bind]
    refine (Prog.outcomes_attempt_some (by rw [hfind]; rfl)).mpr ?_
    refine ⟨?_, hsame _ (by simp)⟩
    rw [Prog.onward_ok]
    refine outcomes_record hfresh (fun u hu => ⟨⟨file, hfind, hhold, rfl⟩, hu⟩) rfl ?_ rfl hid.symm
      (holdRecorded_hold legalHold _)
    cases legalHold <;> rfl

/-- **What a call comes to.** -/
theorem custodyEnd (hfresh : s.FreshIds) {result : Except HttpError EvidenceFile}
    (h : Prog.Ends (call.program platform user) s failed result t) :
    CustodyEnd call s failed t := by
  cases call with
  | upload eventId file opts =>
    exact Prog.outcomes_iff.mp (outcomes_upload hfresh eventId file opts) _ _ _ h
  | setLegalHold fileId legalHold =>
    exact Prog.outcomes_iff.mp (outcomes_setLegalHold hfresh fileId legalHold) _ _ _ h

/-- The row that a call wrote is another than before. -/
theorem CustodyCall.Wrote.files_ne {file : EvidenceFile} (h : call.Wrote s t file) :
    t.files ≠ s.files := by
  cases call with
  | upload eventId upload opts =>
    intro hfiles
    have hlength := congrArg List.length (h.2.symm.trans hfiles)
    simp at hlength
  | setLegalHold fileId legalHold =>
    obtain ⟨⟨old, hfind, hold, rfl⟩, hfiles⟩ := h
    intro hsame
    have hnew := @Table.find_modify_self _ _ _ EvidenceFile.id fileId
      (fun f => { f with legalHold }) s.files fun _ => rfl
    rw [← hfiles, hsame, hfind] at hnew
    exact hold (congrArg EvidenceFile.legalHold (Option.some.inj hnew))

/-- **The change of a row is accompanied by its event where the append does not fail.** -/
theorem CustodyEnd.accompanied_iff (h : CustodyEnd call s failed t) :
    Accompanied call s t ↔ .append ∉ failed := by
  cases h with
  | untouched hfiles hevents happend => exact iff_of_true (Or.inl hfiles) happend
  | recorded file event hwrote hevents htype hconcerns happend =>
    exact iff_of_true (Or.inr ⟨file, event, hwrote, hevents, htype, hconcerns⟩) happend
  | unrecorded file hwrote hevents happend =>
    refine iff_of_false ?_ fun hnot => hnot happend
    rintro (hfiles | ⟨_, event, -, hmore, -⟩)
    · exact hwrote.files_ne hfiles
    · rw [hevents] at hmore
      simp at hmore

end Ends

/-! ## Runs -/

/-- The legal hold that the last custody event of a file gives it. -/
def recordedHold (events : List EvidenceEvent) (file : EvidenceFile) : Option Bool :=
  ((events.filter fun e => e.tenantId = file.tenantId && e.entityId = file.id).filterMap
    EvidenceEvent.legalHold).getLast?

/-- The events on record tell the legal hold of every file. -/
structure Determined (s : Store) : Prop where
  nodup : (s.files.map EvidenceFile.id).Nodup
  hold : ∀ f ∈ s.files, recordedHold s.events f = some f.legalHold

/-- What is no custody call; the rest of the application appends events of its own types. -/
def Process.Other : Process → Prop
  | .user _ (.upload _ _ _) => False
  | .user _ (.setLegalHold _ _) => False
  | .record input => ∀ metadata, holdRecorded input.entityType input.eventType metadata = none
  | _ => True

/-- Calls one after the other, of which any steps may fail, but for the appends of the custody
calls. -/
inductive CustodyRun (platform : Platform) (s₀ : Store) : Store → Prop
  | start : CustodyRun platform s₀ s₀
  | custody {s t : Store} {failed : List FileStep} {result : Except HttpError EvidenceFile}
      (user : AuthenticatedUser) (call : CustodyCall) : CustodyRun platform s₀ s → s.FreshIds →
      .append ∉ failed → Prog.Ends (call.program platform user) s failed result t →
      CustodyRun platform s₀ t
  | other {s t : Store} {failed : List FileStep} {result : Except HttpError Unit}
      (process : Process) : CustodyRun platform s₀ s → process.Other →
      Prog.Ends (process.program platform) s failed result t → CustodyRun platform s₀ t

section Runs

variable {platform : Platform} {s t : Store} {file f : EvidenceFile} {event : EvidenceEvent}

theorem recordedHold_concerns {events : List EvidenceEvent} (h : Concerns file event) :
    recordedHold (events ++ [event]) file = some file.legalHold := by
  simp [recordedHold, h.tenantId, h.entityId, h.legalHold]

theorem recordedHold_of_ne {events : List EvidenceEvent} (h : event.entityId ≠ f.id) :
    recordedHold (events ++ [event]) f = recordedHold events f := by
  simp [recordedHold, h]

theorem recordedHold_of_none {events : List EvidenceEvent} (h : event.legalHold = none) :
    recordedHold (events ++ [event]) f = recordedHold events f := by
  rw [recordedHold, List.filter_append, List.filterMap_append]
  by_cases hf : (event.tenantId = f.tenantId && event.entityId = f.id) = true
  · simp [hf, h, recordedHold]
  · simp [hf, recordedHold]

/-- A call that records what it writes. -/
theorem Determined.recorded {call : CustodyCall} (h : Determined s) (hwrote : call.Wrote s t file)
    (hevents : t.events = s.events ++ [event]) (hconcerns : Concerns file event) :
    Determined t := by
  cases call with
  | upload eventId upload opts =>
    obtain ⟨hnew, hfiles⟩ := hwrote
    constructor
    · rw [hfiles, List.map_append, List.map_singleton]
      simpa using h.nodup.concat hnew
    · intro f hf
      rw [hfiles] at hf
      rw [hevents]
      rcases List.mem_append.mp hf with hf | hf
      · have hne : event.entityId ≠ f.id := by
          rw [hconcerns.entityId]
          rintro hid
          exact hnew (hid ▸ List.mem_map_of_mem hf)
        rw [recordedHold_of_ne hne, h.hold f hf]
      · rw [List.mem_singleton.mp hf]
        exact recordedHold_concerns hconcerns
  | setLegalHold fileId legalHold =>
    obtain ⟨⟨old, hfind, -, rfl⟩, hfiles⟩ := hwrote
    have hid : old.id = fileId := Table.key_of_find hfind
    constructor
    · rw [hfiles, Table.map_modify]
      · exact h.nodup
      · exact fun _ => rfl
    · intro f hf
      rw [hfiles] at hf
      obtain ⟨g, hg, rfl⟩ := Table.mem_modify.mp hf
      rw [hevents]
      by_cases hgid : g.id = fileId
      · -- the row that was found is the only one of its id
        have hsame : g = old := List.inj_on_of_nodup_map h.nodup hg (Table.mem_of_find hfind)
          (hgid.trans hid.symm)
        rw [if_pos hgid, hsame]
        exact recordedHold_concerns hconcerns
      · have hne : event.entityId ≠ g.id := by
          rw [hconcerns.entityId]
          exact fun hsame => hgid (hsame.symm.trans hid)
        rw [if_neg hgid, recordedHold_of_ne hne, h.hold g hg]

/-! ### What is no custody call -/

/-- Files, and what the events tell of them, are left alone. -/
structure Aside (s t : Store) : Prop where
  files : t.files = s.files
  hold : ∀ f, recordedHold t.events f = recordedHold s.events f

theorem Aside.rfl : Aside s s := ⟨by rfl, fun _ => by rfl⟩

theorem Aside.trans {u : Store} (hst : Aside s t) (htu : Aside t u) : Aside s u :=
  ⟨htu.files.trans hst.files, fun f => (htu.hold f).trans (hst.hold f)⟩

theorem Determined.aside (h : Determined s) (haside : Aside s t) : Determined t where
  nodup := haside.files ▸ h.nodup
  hold f hf := by
    rw [haside.hold]
    exact h.hold f (haside.files ▸ hf)

theorem aside_read {α : Type} (f : Store → α) : Steps Aside (read f) :=
  Prog.Each.act fun _ => Aside.rfl

theorem aside_append {input : AppendEvidenceInput}
    (h : ∀ metadata, holdRecorded input.entityType input.eventType metadata = none) :
    Steps Aside (appendEvidence platform input) := by
  refine Prog.Each.attempt (fun s id t happend => ?_) fun _ _ => Aside.rfl
  dsimp only at happend
  split at happend
  · cases happend
  · obtain ⟨-, rfl⟩ := Prod.mk.inj (Option.some.inj happend)
    exact ⟨by rfl, fun f => recordedHold_of_none ((legalHold_rowOf input s).trans (h _))⟩

theorem aside_requireEvent (user : AuthenticatedUser) (eventId : Uuid) :
    Steps Aside (requireEvent user eventId) :=
  (quietSteps_requireEvent eventId).mono fun _ s t h =>
    ⟨h.2.files, fun f => by rw [h.2.events]⟩

theorem aside_processBundle (eventId tenantId requestedByUserId : Uuid) :
    Steps Aside (processBundle platform eventId tenantId requestedByUserId) := by
  refine Prog.Each.bind (aside_read _) fun event => ?_
  cases event with
  | none => trivial
  | some event =>
    refine Prog.Each.bind (aside_read _) fun files => ?_
    refine Prog.Each.bind (aside_read _) fun now => ?_
    refine Prog.Each.bind
      (steps_createBundle (fun _ => Aside.rfl) fun s => ⟨by rfl, fun _ => by rfl⟩) fun bundle => ?_
    exact Prog.Each.bind (aside_append fun _ => rfl) fun _ => Prog.Each.pure _

theorem aside_op (user : AuthenticatedUser) (op : Op) (h : (Process.user user op).Other) :
    Steps Aside (op.program platform user) := by
  cases op with
  | upload => exact h.elim
  | setLegalHold => exact h.elim
  | generateShareLinks eventId fileId expiresInSeconds =>
    refine Steps.map _ (Prog.Each.bind (aside_requireEvent ..) fun event => ?_)
    refine Prog.Each.bind (aside_read _) fun files => ?_
    split
    · trivial
    · refine Prog.Each.bind (aside_read _) fun now => ?_
      exact Prog.Each.bind (aside_append fun _ => rfl) fun _ => Prog.Each.pure _
  | exportBundle eventId expiresInSeconds =>
    refine Steps.map _ (Prog.Each.bind (aside_requireEvent ..) fun event => ?_)
    refine Prog.Each.bind (aside_read _) fun files => ?_
    refine Prog.Each.bind (aside_read _) fun now => ?_
    exact Prog.Each.bind (aside_append fun _ => rfl) fun _ => Prog.Each.pure _
  | publicSafeView eventId =>
    refine Steps.map _ (Prog.Each.bind (aside_requireEvent ..) fun event => ?_)
    exact Prog.Each.bind (aside_read _) fun files => Prog.Each.pure _
  | requestExportBundle eventId =>
    refine Steps.map _ (Prog.Each.bind (aside_requireEvent ..) fun event => ?_)
    refine Prog.Each.bind (Prog.Each.act fun s => ?_) fun queued => ?_
    · dsimp only
      split
      · exact ⟨by rfl, fun _ => by rfl⟩
      · exact Aside.rfl
    · split
      · trivial
      · exact Prog.Each.bind (aside_processBundle ..) fun _ => Prog.Each.pure _
  | getBundle bundleId =>
    refine Steps.map _ (Prog.Each.bind (aside_read _) fun bundle => ?_)
    cases bundle with
    | none => trivial
    | some bundle =>
      dsimp only
      split <;> trivial

theorem aside_process (process : Process) (h : process.Other) :
    Steps Aside (process.program platform) := by
  cases process with
  | user user op => exact (aside_op user op h).map _
  | worker job => exact (aside_processBundle ..).map _
  | record input => exact (aside_append h).map _
  | clock now => exact Prog.Each.act fun s => ⟨by rfl, fun _ => by rfl⟩

/-- **A run leaves the legal holds determined.** -/
theorem CustodyRun.determined {s₀ : Store} (h₀ : Determined s₀) (h : CustodyRun platform s₀ t) :
    Determined t := by
  induction h with
  | start => exact h₀
  | custody user call _ hfresh happend hends ih =>
    cases custodyEnd hfresh hends with
    | untouched hfiles hevents =>
      exact ih.aside ⟨hfiles, fun f => by rw [hevents]⟩
    | recorded file event hwrote hevents _ hconcerns =>
      exact ih.recorded hwrote hevents hconcerns
    | unrecorded _ _ _ hfailed => exact absurd hfailed happend
  | other process _ hother hends ih =>
    have heach := (@aside_process platform process hother).mono
      fun _ _ _ h => And.intro trivial h
    exact ih.aside (heach.ends (fun _ => Aside.rfl) (fun _ _ _ => Aside.trans) hends).2

end Runs

/-! ### A file under legal hold -/

/-- An upload of three bytes under legal hold. -/
def heldFile : CustodyCall :=
  .upload "e" ⟨"f.txt", "text/plain", [1, 2, 3], 3⟩ ⟨none, some true, .undefined⟩

/-- The end of a call where the steps fail that the list says. -/
def custodyOutcome (call : CustodyCall) (fails : List Bool) (s : Store) :
    List FileStep × Except HttpError EvidenceFile × Store :=
  (call.program localPlatform (memberOf "a")).outcome fails s

/-- The store with the file. -/
def heldStore : Store := (custodyOutcome heldFile [] (storeOf (some "a"))).2.2

theorem ends_custodyOutcome (call : CustodyCall) (fails : List Bool) (s : Store) :
    Prog.Ends (call.program localPlatform (memberOf "a")) s (custodyOutcome call fails s).1
      (custodyOutcome call fails s).2.1 (custodyOutcome call fails s).2.2 :=
  Prog.ends_outcome fails _ s

theorem freshIds_storeOf : (storeOf (some "a")).FreshIds := by
  intro n _ hmem
  have hid : List.replicate (n + 1) (0x30 : CodeUnit) = [0x65] := List.mem_singleton.mp hmem
  rw [List.replicate_succ] at hid
  exact absurd (List.cons.inj hid).1 (by decide)

/-- The hold is lifted, and the append of its event fails. -/
def liftedStore : Store :=
  (custodyOutcome (.setLegalHold "0" false) [false, false, true] heldStore).2.2

end Files

end EvidenceVault
