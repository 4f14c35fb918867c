import Vigiscam.Concurrency.History
import Vigiscam.EvidenceVault.Files

/-!
# Whose evidence an operation touches

A `History` of calls starts from a store without files. A file belongs to the tenant of its
event (`Owned`), because a call adds rows only for the event it was let in for (`Within`).

`requireEvent` and `setLegalHold` let a caller in where the event or the file is of the
caller's tenant, or of none: what is on the system chain is open to every tenant.
`evidence_isolation` says what an operation that succeeds has read and written.
-/

namespace EvidenceVault.Files

open Js Value Concurrency

/-! ## Calls -/

inductive Op where
  | upload (eventId : Uuid) (file : Upload) (opts : UploadOptions)
  | generateShareLinks (eventId : Uuid) (fileId : Option Uuid) (expiresInSeconds : Option Int)
  | exportBundle (eventId : Uuid) (expiresInSeconds : Int)
  | publicSafeView (eventId : Uuid)
  | requestExportBundle (eventId : Uuid)
  | setLegalHold (fileId : Uuid) (legalHold : Bool)
  | getBundle (bundleId : Uuid)

inductive Response where
  | file (f : EvidenceFile)
  | links (links : List ShareLink)
  | exported (e : FileExport)
  | view (v : PublicView)
  | requested (r : ExportRequested)
  | bundle (b : EvidenceExportBundle)

/-- A call of a user, or a job of the export worker. -/
inductive Call where
  | user (user : AuthenticatedUser) (op : Op)
  | worker (job : EvidenceExportPayload)

section Calls

variable (platform : Platform)

def Op.program (user : AuthenticatedUser) : Op → Program Response
  | upload eventId file opts => Response.file <$> Files.upload platform user eventId file opts
  | generateShareLinks eventId fileId expiresInSeconds =>
    Response.links <$> Files.generateShareLinks platform user eventId fileId expiresInSeconds
  | exportBundle eventId expiresInSeconds =>
    Response.exported <$> Files.exportBundle platform user eventId expiresInSeconds
  | publicSafeView eventId => Response.view <$> Files.publicSafeView user eventId
  | requestExportBundle eventId =>
    Response.requested <$> Files.requestExportBundle platform user eventId
  | setLegalHold fileId legalHold =>
    Response.file <$> Files.setLegalHold platform user fileId legalHold
  | getBundle bundleId => Response.bundle <$> Files.getBundle user bundleId

/-- The store after a call. The worker takes only jobs that are in the queue. -/
def Call.exec (c : Call) (s : Store) : Store :=
  match c with
  | user u op => ((op.program platform u).run s).2
  | worker job =>
    if job ∈ s.jobs then
      ((processBundle platform job.evidenceEventId job.tenantId job.requestedByUserId).run s).2
    else s

end Calls

/-- The rest of the application appends evidence, takes jobs and lets time pass. -/
structure Outside (s t : Store) : Prop where
  events : ∃ new, t.events = s.events ++ new
  ids : (t.events.map EvidenceEvent.id).Nodup
  files : t.files = s.files
  bundles : t.bundles = s.bundles
  blobs : t.blobs = s.blobs
  jobs : t.jobs ⊆ s.jobs

/-! ## What a call may do -/

/-- Every file belongs to the tenant of its event. -/
structure Owned (s : Store) : Prop where
  ids : (s.events.map EvidenceEvent.id).Nodup
  files : ∀ f ∈ s.files, ∃ event ∈ s.events,
    event.id = f.evidenceEventId ∧ event.tenantId = f.tenantId

/-- From `s` to `t`, files are added for the event and its tenant only, custody events for
this tenant, and bundles and jobs for the tenant `mine`. -/
structure Within (eventId : Uuid) (tenantId : Option Uuid) (mine : Uuid) (s t : Store) : Prop where
  events : ∃ new, t.events = s.events ++ new ∧ ∀ e ∈ new, e.tenantId = tenantId
  ids : (s.events.map EvidenceEvent.id).Nodup → (t.events.map EvidenceEvent.id).Nodup
  files : ∀ f ∈ t.files, (∃ g ∈ s.files, g.id = f.id ∧ g.evidenceEventId = f.evidenceEventId ∧
    g.tenantId = f.tenantId) ∨ f.evidenceEventId = eventId ∧ f.tenantId = tenantId
  bundles : ∀ b ∈ t.bundles, b ∈ s.bundles ∨ b.tenantId = mine
  jobs : ∀ j ∈ t.jobs, j ∈ s.jobs ∨ j.tenantId = mine

section Within

variable {platform : Platform} {eventId mine : Uuid} {tenantId : Option Uuid} {s t u : Store}

/-- Events, files and bundles as they were, and no job for another tenant. -/
theorem Within.of_tables (hevents : t.events = s.events) (hfiles : t.files = s.files)
    (hbundles : t.bundles = s.bundles) (hjobs : ∀ j ∈ t.jobs, j ∈ s.jobs ∨ j.tenantId = mine) :
    Within eventId tenantId mine s t where
  events := ⟨[], by rw [hevents, List.append_nil], fun _ h => absurd h List.not_mem_nil⟩
  ids h := by rwa [hevents]
  files f hf := Or.inl ⟨f, hfiles ▸ hf, rfl, rfl, rfl⟩
  bundles _ h := Or.inl (hbundles ▸ h)
  jobs := hjobs

theorem Within.refl (s : Store) : Within eventId tenantId mine s s :=
  Within.of_tables rfl rfl rfl fun _ h => Or.inl h

theorem Within.trans (h : Within eventId tenantId mine s t)
    (h' : Within eventId tenantId mine t u) :
    Within eventId tenantId mine s u where
  events := by
    obtain ⟨new, hnew, htenant⟩ := h.events
    obtain ⟨new', hnew', htenant'⟩ := h'.events
    refine ⟨new ++ new', by rw [hnew', hnew, List.append_assoc], fun e he => ?_⟩
    exact (List.mem_append.mp he).elim (htenant e) (htenant' e)
  ids hids := h'.ids (h.ids hids)
  files f hf := by
    rcases h'.files f hf with ⟨g, hg, hid, hevent, htenant⟩ | hnew
    · rcases h.files g hg with ⟨k, hk, hid', hevent', htenant'⟩ | ⟨hevent', htenant'⟩
      · exact Or.inl ⟨k, hk, hid'.trans hid, hevent'.trans hevent, htenant'.trans htenant⟩
      · exact Or.inr ⟨hevent.symm.trans hevent', htenant.symm.trans htenant'⟩
    · exact Or.inr hnew
  bundles b hb := (h'.bundles b hb).elim (h.bundles b) Or.inr
  jobs j hj := (h'.jobs j hj).elim (h.jobs j) Or.inr

/-- A call that was let in for an event of the store keeps every file with its event. -/
theorem Within.owned (h : Within eventId tenantId mine s t) (howned : Owned s)
    (hevent : ∃ event ∈ s.events, event.id = eventId ∧ event.tenantId = tenantId) : Owned t where
  ids := h.ids howned.ids
  files f hf := by
    obtain ⟨new, hnew, -⟩ := h.events
    have hmem : ∀ e ∈ s.events, e ∈ t.events := fun e he => hnew ▸ List.mem_append_left _ he
    rcases h.files f hf with ⟨g, hg, -, hg', htenant⟩ | ⟨hf', htenant⟩
    · obtain ⟨event, he, hid, hown⟩ := howned.files g hg
      exact ⟨event, hmem event he, hid.trans hg', hown.trans htenant⟩
    · obtain ⟨event, he, hid, hown⟩ := hevent
      exact ⟨event, hmem event he, hid.trans hf'.symm, hown.trans htenant.symm⟩

/-! ### Steps -/

/-- Every step of the program stays within. -/
abbrev Stays (eventId : Uuid) (tenantId : Option Uuid) (mine : Uuid) {α : Type} (p : Program α) :
    Prop :=
  p.Each fun _ s t => Within eventId tenantId mine s t

theorem Stays.run {α : Type} {p : Program α} (h : Stays eventId tenantId mine p) (s : Store) :
    Within eventId tenantId mine s (p.run s).2 :=
  Prog.Each.run (I := fun t => Within eventId tenantId mine s t)
    (h.mono fun _ _ _ h hs => hs.trans h)
    (Within.refl s)

theorem stays_read {α : Type} (f : Store → α) : Stays eventId tenantId mine (read f) :=
  Prog.Each.act fun s => Within.refl s

theorem stays_appendEvidence {input : AppendEvidenceInput} (h : input.tenantId = tenantId) :
    Stays eventId tenantId mine (appendEvidence platform input) := by
  refine Prog.Each.attempt (fun s id t happend => ?_) fun s _ => Within.refl s
  dsimp only at happend
  split at happend
  · cases happend
  · rename_i hfresh
    obtain ⟨-, rfl⟩ := Prod.mk.inj (Option.some.inj happend)
    refine ⟨⟨_, rfl, fun e he => ?_⟩, fun hids => ?_, fun f hf => Or.inl ⟨f, hf, rfl, rfl, rfl⟩,
      fun b hb => Or.inl hb, fun j hj => Or.inl hj⟩
    · rw [List.mem_singleton.mp he]
      exact h
    · rw [List.map_append]
      refine List.nodup_append.mpr ⟨hids, List.pairwise_singleton _ _, 
        fun a ha b hb hab => hfresh ?_⟩
      have hb' : b = s.uuid s.issued := List.mem_singleton.mp hb
      rw [← hb', ← hab]
      exact ha

theorem stays_createFile {row : Option (Uuid → EvidenceFile)}
    (h : ∀ f ∈ row, ∀ id, (f id).evidenceEventId = eventId ∧ (f id).tenantId = tenantId) :
    Stays eventId tenantId mine (createFile row) := by
  refine Prog.Each.attempt (fun s f t hcreate => ?_) fun s _ => Within.refl s
  dsimp only at hcreate
  split at hcreate
  · cases hcreate
  · obtain ⟨make, hmake, hpair⟩ := Option.map_eq_some_iff.mp hcreate
    obtain ⟨-, rfl⟩ := Prod.mk.inj hpair
    refine ⟨⟨[], (List.append_nil _).symm, fun _ h => absurd h List.not_mem_nil⟩, fun h => h,
      fun f hf => ?_, fun b hb => Or.inl hb, fun j hj => Or.inl hj⟩
    rcases List.mem_append.mp hf with hf | hf
    · exact Or.inl ⟨f, hf, rfl, rfl, rfl⟩
    · rw [List.mem_singleton.mp hf]
      exact Or.inr (h make hmake _)

theorem stays_updateFile (id : Uuid) (legalHold : Bool) :
    Stays eventId tenantId mine (updateFile id legalHold) := by
  refine Prog.Each.attempt (fun s f t hupdate => ?_) fun s _ => Within.refl s
  obtain ⟨file, -, hpair⟩ := Option.map_eq_some_iff.mp hupdate
  obtain ⟨-, rfl⟩ := Prod.mk.inj hpair
  refine ⟨⟨[], (List.append_nil _).symm, fun _ h => absurd h List.not_mem_nil⟩, fun h => h,
    fun f hf => ?_, fun b hb => Or.inl hb, fun j hj => Or.inl hj⟩
  obtain ⟨g, hg, rfl⟩ := Table.mem_modify.mp hf
  refine Or.inl ⟨g, hg, ?_⟩
  split
  · exact ⟨rfl, rfl, rfl⟩
  · exact ⟨rfl, rfl, rfl⟩

theorem stays_createBundle {row : Uuid → EvidenceExportBundle}
    (h : ∀ id, (row id).tenantId = mine) :
    Stays eventId tenantId mine (createBundle row) := by
  refine Prog.Each.attempt (fun s b t hcreate => ?_) fun s _ => Within.refl s
  dsimp only at hcreate
  split at hcreate
  · cases hcreate
  · obtain ⟨-, rfl⟩ := Prod.mk.inj (Option.some.inj hcreate)
    refine ⟨⟨[], (List.append_nil _).symm, fun _ h => absurd h List.not_mem_nil⟩, fun h => h,
      fun f hf => Or.inl ⟨f, hf, rfl, rfl, rfl⟩, fun b hb => ?_, fun j hj => Or.inl hj⟩
    rcases List.mem_append.mp hb with hb | hb
    · exact Or.inl hb
    · rw [List.mem_singleton.mp hb]
      exact Or.inr (h _)

theorem stays_enqueue {job : EvidenceExportPayload} (h : job.tenantId = mine) :
    Stays eventId tenantId mine (enqueue platform job) := by
  refine Prog.Each.act fun s => ?_
  dsimp only
  split
  · refine Within.of_tables rfl rfl rfl fun j hj => ?_
    rcases List.mem_append.mp hj with hj | hj
    · exact Or.inl hj
    · rw [List.mem_singleton.mp hj]
      exact Or.inr h
  · exact Within.refl s

theorem stays_blobUpload (tenant event filename : Text) (data : List UInt8) :
    Stays eventId tenantId mine (blobUpload platform tenant event filename data) := by
  unfold blobUpload
  split
  · exact Prog.Each.act fun s => Within.of_tables rfl rfl rfl fun _ hj => Or.inl hj
  · trivial

end Within

/-! ## The operations -/

/-- A tenant that lets the user in: the user's own, or none. -/
def Open (user : AuthenticatedUser) (tenantId : Option Uuid) : Prop :=
  tenantId = none ∨ tenantId = some user.tenantId

theorem open_of_any {user : AuthenticatedUser} {tenantId : Option Uuid}
    (h : ¬ tenantId.any (· ≠ user.tenantId) = true) : Open user tenantId := by
  cases tenantId with
  | none => exact Or.inl rfl
  | some t => exact Or.inr (by simpa using h)

theorem Open.getD {user : AuthenticatedUser} {tenantId : Option Uuid} (h : Open user tenantId) :
    tenantId.getD user.tenantId = user.tenantId := by
  rcases h with rfl | rfl <;> rfl

section Operations

variable {platform : Platform} {user : AuthenticatedUser} {eventId : Uuid} {s s' : Store} {α : Type}

theorem requireEvent_outcome (user : AuthenticatedUser) (eventId : Uuid) (s : Store) :
    (∃ e, (requireEvent user eventId).run s = (.error e, s)) ∨
      ∃ event ∈ s.events, event.id = eventId ∧ Open user event.tenantId ∧
        (requireEvent user eventId).run s = (.ok event, s) := by
  unfold requireEvent
  simp only [Prog.run_bind, run_read, Prog.andThen_ok]
  cases hfind : Table.find EvidenceEvent.id eventId s.events with
  | none => exact Or.inl ⟨_, rfl⟩
  | some event =>
    dsimp only
    by_cases hother : event.tenantId.any (· ≠ user.tenantId) = true
    · rw [if_pos hother]
      exact Or.inl ⟨_, rfl⟩
    · rw [if_neg hother]
      exact Or.inr ⟨event, Table.mem_of_find hfind, Table.key_of_find hfind, open_of_any hother,
        rfl⟩

/-- The program refuses and changes nothing, or it was let in for an event and stays within. -/
def LetIn (user : AuthenticatedUser) (eventId : Uuid) (s : Store) (p : Program α) : Prop :=
  (∃ e, p.run s = (.error e, s)) ∨ ∃ event ∈ s.events, event.id = eventId ∧
    Open user event.tenantId ∧ Within eventId event.tenantId user.tenantId s (p.run s).2

/-- What comes after `requireEvent` works on the event that it found. -/
theorem letIn_of_stays {k : EvidenceEvent → Program α}
    (h : ∀ event, event.id = eventId → Stays eventId event.tenantId user.tenantId (k event)) :
    LetIn user eventId s (requireEvent user eventId >>= k) := by
  rcases requireEvent_outcome user eventId s with ⟨e, he⟩ | ⟨event, hmem, hid, hopen, hrun⟩
  · exact Or.inl ⟨e, by rw [Prog.run_bind, he, Prog.andThen_error]⟩
  · refine Or.inr ⟨event, hmem, hid, hopen, ?_⟩
    rw [Prog.run_bind, hrun, Prog.andThen_ok]
    exact (h event hid).run s

theorem letIn_upload (file : Upload) (opts : UploadOptions) :
    LetIn user eventId s (upload platform user eventId file opts) := by
  refine letIn_of_stays fun event hid => ?_
  refine Prog.Each.bind (stays_blobUpload ..) fun result => ?_
  refine Prog.Each.bind (stays_read _) fun now => ?_
  refine Prog.Each.bind (stays_createFile fun make hmake id => ?_) fun row => ?_
  · obtain ⟨_, -, rfl⟩ := Option.map_eq_some_iff.mp hmake
    exact ⟨hid, rfl⟩
  · exact Prog.Each.bind (stays_appendEvidence rfl) fun _ => Prog.Each.pure _

theorem letIn_generateShareLinks (fileId : Option Uuid) (expiresInSeconds : Option Int) :
    LetIn user eventId s (generateShareLinks platform user eventId fileId expiresInSeconds) := by
  refine letIn_of_stays fun event _ => ?_
  refine Prog.Each.bind (stays_read _) fun files => ?_
  split
  · trivial
  · refine Prog.Each.bind (stays_read _) fun now => ?_
    exact Prog.Each.bind (stays_appendEvidence rfl) fun _ => Prog.Each.pure _

theorem letIn_exportBundle (expiresInSeconds : Int) :
    LetIn user eventId s (exportBundle platform user eventId expiresInSeconds) := by
  refine letIn_of_stays fun event _ => ?_
  refine Prog.Each.bind (stays_read _) fun files => Prog.Each.bind (stays_read _) fun now => ?_
  exact Prog.Each.bind (stays_appendEvidence rfl) fun _ => Prog.Each.pure _

theorem letIn_publicSafeView : LetIn user eventId s (publicSafeView user eventId) :=
  letIn_of_stays fun _ _ => Prog.Each.bind (stays_read _) fun _ => Prog.Each.pure _

/-- A bundle is built for an event of the store, or nothing is. -/
theorem processBundle_outcome (tenantId requestedByUserId : Uuid) :
    (∃ e, (processBundle platform eventId tenantId requestedByUserId).run s = (.error e, s)) ∨
      ∃ event ∈ s.events, event.id = eventId ∧ Within eventId event.tenantId tenantId s
        ((processBundle platform eventId tenantId requestedByUserId).run s).2 := by
  unfold processBundle
  rw [Prog.run_bind, run_read, Prog.andThen_ok]
  cases hfind : Table.find EvidenceEvent.id eventId s.events with
  | none => exact Or.inl ⟨_, rfl⟩
  | some event =>
    refine Or.inr ⟨event, Table.mem_of_find hfind, Table.key_of_find hfind, Stays.run ?_ s⟩
    refine Prog.Each.bind (stays_read _) fun files => Prog.Each.bind (stays_read _) fun now => ?_
    refine Prog.Each.bind (stays_createBundle fun _ => rfl) fun bundle => ?_
    exact Prog.Each.bind (stays_appendEvidence rfl) fun _ => Prog.Each.pure _

/-- Without a queue the bundle is built at once, for the event that was let in: it is found
again, as ids are unique. -/
theorem letIn_requestExportBundle (howned : Owned s) :
    LetIn user eventId s (requestExportBundle platform user eventId) := by
  rcases requireEvent_outcome user eventId s with ⟨e, he⟩ | ⟨event, hmem, hid, hopen, hrun⟩
  · exact Or.inl ⟨e, by rw [requestExportBundle, Prog.run_bind, he, Prog.andThen_error]⟩
  unfold LetIn requestExportBundle
  rw [Prog.run_bind, hrun, Prog.andThen_ok, hopen.getD, hid, Prog.run_bind]
  -- with a queue the job is left to the worker, without one it is processed at once
  cases hqueue : platform.queue with
  | true =>
    have hqueued : (enqueue platform ⟨eventId, user.tenantId, user.userId⟩).run s = (.ok true,
        { s with jobs := s.jobs ++ [⟨eventId, user.tenantId, user.userId⟩] }) := by
      simp only [enqueue, Prog.run_act, hqueue, if_true]
    have hwithin : Within eventId event.tenantId user.tenantId s
        ((enqueue platform ⟨eventId, user.tenantId, user.userId⟩).run s).2 :=
      (@stays_enqueue platform eventId user.tenantId event.tenantId
        ⟨eventId, user.tenantId, user.userId⟩ rfl).run s
    rw [hqueued] at hwithin ⊢
    exact Or.inr ⟨event, hmem, hid, hopen, hwithin⟩
  | false =>
    have hqueued : (enqueue platform ⟨eventId, user.tenantId, user.userId⟩).run s
        = (.ok false, s) := by
      simp only [enqueue, Prog.run_act, hqueue, Bool.false_eq_true, if_false]
    rw [hqueued, Prog.andThen_ok, if_neg Bool.false_ne_true, Prog.run_bind]
    rcases @processBundle_outcome platform eventId s user.tenantId user.userId with
      ⟨e, he⟩ | ⟨event', hmem', hid', hwithin⟩
    · exact Or.inl ⟨e, by rw [he, Prog.andThen_error]⟩
    · -- `processBundle` looks the event up a second time: its id is unique
      have hsame : event' = event :=
        List.inj_on_of_nodup_map howned.ids hmem' hmem (hid'.trans hid.symm)
      refine Or.inr ⟨event, hmem, hid, hopen, ?_⟩
      rw [← hsame]
      cases hbundle : (processBundle platform eventId user.tenantId user.userId).run s with
      | mk result t =>
        rw [hbundle] at hwithin
        cases result with
        | error e => exact hwithin
        | ok bundle => exact hwithin

/-! ## Runs -/

theorem letIn_owned {p : Program α} (hlet : LetIn user eventId s p) (howned : Owned s) :
    Owned (p.run s).2 := by
  rcases hlet with ⟨e, he⟩ | ⟨event, hmem, hid, -, hwithin⟩
  · rw [he]
    exact howned
  · exact hwithin.owned howned ⟨event, hmem, hid, rfl⟩

/-- An accepted change of the hold is one of a file that the user may use. -/
theorem setLegalHold_outcome (fileId : Uuid) (legalHold : Bool) :
    (∃ e, (setLegalHold platform user fileId legalHold).run s = (.error e, s)) ∨
      ∃ file ∈ s.files, file.id = fileId ∧ Open user file.tenantId ∧
        Within file.evidenceEventId file.tenantId user.tenantId s
          ((setLegalHold platform user fileId legalHold).run s).2 := by
  unfold setLegalHold
  rw [Prog.run_bind, run_read, Prog.andThen_ok]
  cases hfind : Table.find EvidenceFile.id fileId s.files with
  | none => exact Or.inl ⟨_, rfl⟩
  | some file =>
    dsimp only
    by_cases hother : file.tenantId.any (· ≠ user.tenantId) = true
    · rw [if_pos hother]
      exact Or.inl ⟨_, rfl⟩
    rw [if_neg hother]
    -- a file that is already as asked is returned as it is: nothing is written
    by_cases hsame : file.legalHold = legalHold
    · rw [if_pos hsame]
      exact Or.inl ⟨_, rfl⟩
    rw [if_neg hsame]
    refine Or.inr ⟨file, Table.mem_of_find hfind, Table.key_of_find hfind, open_of_any hother,
      Stays.run ?_ s⟩
    refine Prog.Each.bind (stays_updateFile ..) fun updated => ?_
    exact Prog.Each.bind (stays_appendEvidence rfl) fun _ => Prog.Each.pure _

theorem getBundle_outcome (bundleId : Uuid) :
    (∃ e, (getBundle user bundleId).run s = (.error e, s)) ∨ ∃ b ∈ s.bundles, b.id = bundleId ∧
      b.tenantId = user.tenantId ∧ (getBundle user bundleId).run s = (.ok b, s) := by
  unfold getBundle
  rw [Prog.run_bind, run_read, Prog.andThen_ok]
  cases hfind : Table.find EvidenceExportBundle.id bundleId s.bundles with
  | none => exact Or.inl ⟨_, rfl⟩
  | some bundle =>
    dsimp only
    by_cases hother : bundle.tenantId ≠ user.tenantId
    · rw [if_pos hother]
      exact Or.inl ⟨_, rfl⟩
    · rw [if_neg hother]
      exact Or.inr ⟨bundle, Table.mem_of_find hfind, Table.key_of_find hfind, not_not.mp hother,
        rfl⟩

theorem run_response (f : α → Response) (p : Program α) (s : Store) :
    ((f <$> p).run s).2 = (p.run s).2 := by rw [Prog.run_map]

theorem exec_owned (howned : Owned s) (c : Call) : Owned (c.exec platform s) := by
  cases c with
  | user u op =>
    show Owned ((op.program platform u).run s).2
    cases op with
    | upload eventId file opts =>
      rw [Op.program, run_response]
      exact letIn_owned (letIn_upload file opts) howned
    | generateShareLinks eventId fileId expiresInSeconds =>
      rw [Op.program, run_response]
      exact letIn_owned (letIn_generateShareLinks fileId expiresInSeconds) howned
    | exportBundle eventId expiresInSeconds =>
      rw [Op.program, run_response]
      exact letIn_owned (letIn_exportBundle expiresInSeconds) howned
    | publicSafeView eventId =>
      rw [Op.program, run_response]
      exact letIn_owned letIn_publicSafeView howned
    | requestExportBundle eventId =>
      rw [Op.program, run_response]
      exact letIn_owned (letIn_requestExportBundle howned) howned
    -- not through `requireEvent`: the file is looked up by its own id
    | setLegalHold fileId legalHold =>
      rw [Op.program, run_response]
      rcases @setLegalHold_outcome platform u s fileId legalHold with ⟨e, he⟩ |
        ⟨f, hf, -, -, hwithin⟩
      · rw [he]
        exact howned
      · exact hwithin.owned howned (howned.files f hf)
    | getBundle bundleId =>
      rw [Op.program, run_response]
      rcases @getBundle_outcome u s bundleId with ⟨e, he⟩ | ⟨b, -, -, -, hb⟩
      · rw [he]
        exact howned
      · rw [hb]
        exact howned
  | worker job =>
    unfold Call.exec
    dsimp only
    split
    · rcases @processBundle_outcome platform job.evidenceEventId s job.tenantId
        job.requestedByUserId with ⟨e, he⟩ | ⟨event, hmem, hid, hwithin⟩
      · rw [he]
        exact howned
      · exact hwithin.owned howned ⟨event, hmem, hid, rfl⟩
    · exact howned

theorem outside_owned {t : Store} (h : Outside s t) (howned : Owned s) : Owned t where
  ids := h.ids
  files f hf := by
    obtain ⟨new, hnew⟩ := h.events
    obtain ⟨event, hmem, hid, hown⟩ := howned.files f (h.files ▸ hf)
    exact ⟨event, hnew ▸ List.mem_append_left _ hmem, hid, hown⟩

/-- In every reachable store a file belongs to the tenant of its event. -/
theorem owned_of_history {s₀ : Store} {log : List (Store × Call)}
    (hrun : History (Call.exec platform) Outside s₀ log s) (hstart : Owned s₀) : Owned s :=
  hrun.keeps (fun c _ h => exec_owned h c) (fun _ _ h => outside_owned h) hstart

/-! ## What an operation shows -/

theorem files_appendEvidence {input : AppendEvidenceInput} {id : Uuid} {s s' : Store}
    (h : (appendEvidence platform input).run s = (.ok id, s')) : s'.files = s.files := by
  have happend := Prog.run_attempt_eq_ok h
  dsimp only at happend
  split at happend
  · cases happend
  · rw [← (Prod.mk.inj (Option.some.inj happend)).2]

/-- What comes after `requireEvent` was run for an event that lets the user in. -/
theorem entered {k : EvidenceEvent → Program α} {a : α}
    (h : (requireEvent user eventId >>= k).run s = (.ok a, s')) :
    ∃ event ∈ s.events, event.id = eventId ∧ (k event).run s = (.ok a, s') := by
  rcases requireEvent_outcome user eventId s with ⟨e, he⟩ | ⟨event, hmem, hid, -, hrun⟩
  · rw [Prog.run_bind, he] at h
    cases h
  · rw [Prog.run_bind, hrun] at h
    exact ⟨event, hmem, hid, h⟩

theorem mem_filesOf {f : EvidenceFile} (h : f ∈ filesOf eventId s) :
    f ∈ s.files ∧ f.evidenceEventId = eventId := by
  have hmem := (List.perm_insertionSort _ _).subset h
  rw [List.mem_filter] at hmem
  exact ⟨hmem.1, of_decide_eq_true hmem.2⟩

/-- What is shown is of files of the event, and of bundles of the user's tenant. -/
def Shows (user : AuthenticatedUser) (eventId : Uuid) (s : Store) : Response → Prop
  | .file f => f ∈ s.files ∧ f.evidenceEventId = eventId
  | .links links => ∀ l ∈ links, ∃ f ∈ s.files, f.id = l.fileId ∧ f.evidenceEventId = eventId
  | .exported e => e.event.id = eventId ∧
      ∀ x ∈ e.files, ∃ f ∈ s.files, f.id = x.id ∧ f.evidenceEventId = eventId
  | .view v => v.event.id = eventId ∧
      ∀ x ∈ v.files, ∃ f ∈ s.files, f.id = x.id ∧ f.evidenceEventId = eventId
  | .requested r => ∀ b ∈ r.bundle, b.tenantId = user.tenantId
  | .bundle b => b.tenantId = user.tenantId

theorem shows_upload {file : Upload} {opts : UploadOptions} {f : EvidenceFile}
    (h : (upload platform user eventId file opts).run s = (.ok f, s')) :
    Shows user eventId s' (.file f) := by
  obtain ⟨event, -, hid, hrun⟩ := entered h
  obtain ⟨result, s₁, -, hrun⟩ := Prog.run_bind_eq_ok hrun
  obtain ⟨now, s₂, -, hrun⟩ := Prog.run_bind_eq_ok hrun
  obtain ⟨row, s₃, hcreate, hrun⟩ := Prog.run_bind_eq_ok hrun
  obtain ⟨_, s₄, happend, hrun⟩ := Prog.run_bind_eq_ok hrun
  obtain ⟨hok, rfl⟩ := Prod.mk.inj hrun
  obtain rfl := Except.ok.inj hok
  have hrow := Prog.run_attempt_eq_ok hcreate
  dsimp only at hrow
  split at hrow
  · cases hrow
  · obtain ⟨make, hmake, hpair⟩ := Option.map_eq_some_iff.mp hrow
    obtain ⟨rfl, rfl⟩ := Prod.mk.inj hpair
    obtain ⟨_, -, rfl⟩ := Option.map_eq_some_iff.mp hmake
    refine ⟨?_, hid⟩
    rw [files_appendEvidence happend]
    exact List.mem_append_right _ (List.mem_singleton_self _)

theorem shows_generateShareLinks {fileId : Option Uuid} {expiresInSeconds : Option Int}
    {links : List ShareLink}
    (h : (generateShareLinks platform user eventId fileId expiresInSeconds).run s
      = (.ok links, s')) : Shows user eventId s' (.links links) := by
  obtain ⟨event, -, hid, hrun⟩ := entered h
  rw [Prog.run_bind, run_read, Prog.andThen_ok] at hrun
  split at hrun
  · cases hrun
  · rw [Prog.run_bind, run_read, Prog.andThen_ok] at hrun
    obtain ⟨_, s₁, happend, hrun⟩ := Prog.run_bind_eq_ok hrun
    obtain ⟨hok, rfl⟩ := Prod.mk.inj hrun
    obtain rfl := Except.ok.inj hok
    intro l hl
    obtain ⟨f, hf, rfl⟩ := List.mem_map.mp hl
    obtain ⟨hmem, hcond⟩ := List.mem_filter.mp hf
    rw [Bool.and_eq_true] at hcond
    exact ⟨f, files_appendEvidence happend ▸ hmem, rfl, hid ▸ of_decide_eq_true hcond.1⟩

theorem shows_exportBundle {expiresInSeconds : Int} {e : FileExport}
    (h : (exportBundle platform user eventId expiresInSeconds).run s = (.ok e, s')) :
    Shows user eventId s' (.exported e) := by
  obtain ⟨event, -, hid, hrun⟩ := entered h
  rw [Prog.run_bind, run_read, Prog.andThen_ok, Prog.run_bind, run_read, Prog.andThen_ok] at hrun
  obtain ⟨_, s₁, happend, hrun⟩ := Prog.run_bind_eq_ok hrun
  obtain ⟨hok, rfl⟩ := Prod.mk.inj hrun
  obtain rfl := Except.ok.inj hok
  refine ⟨hid, fun x hx => ?_⟩
  obtain ⟨f, hf, rfl⟩ := List.mem_map.mp hx
  obtain ⟨hmem, hevent⟩ := mem_filesOf hf
  exact ⟨f, files_appendEvidence happend ▸ hmem, rfl, hevent.trans hid⟩

theorem shows_publicSafeView {v : PublicView}
    (h : (publicSafeView user eventId).run s = (.ok v, s')) : Shows user eventId s' (.view v) := by
  obtain ⟨event, -, hid, hrun⟩ := entered h
  rw [Prog.run_bind, run_read, Prog.andThen_ok] at hrun
  obtain ⟨hok, rfl⟩ := Prod.mk.inj hrun
  obtain rfl := Except.ok.inj hok
  refine ⟨hid, fun x hx => ?_⟩
  obtain ⟨f, hf, rfl⟩ := List.mem_map.mp hx
  obtain ⟨hmem, hevent⟩ := mem_filesOf hf
  exact ⟨f, hmem, rfl, hevent.trans hid⟩

theorem tenantId_processBundle {tenantId requestedByUserId : Uuid} {b : EvidenceExportBundle}
    (h : (processBundle platform eventId tenantId requestedByUserId).run s = (.ok b, s')) :
    b.tenantId = tenantId := by
  unfold processBundle at h
  rw [Prog.run_bind, run_read, Prog.andThen_ok] at h
  cases hfind : Table.find EvidenceEvent.id eventId s.events with
  | none =>
    rw [hfind] at h
    cases h
  | some event =>
    rw [hfind] at h
    dsimp only at h
    rw [Prog.run_bind, run_read, Prog.andThen_ok, Prog.run_bind, run_read, Prog.andThen_ok] at h
    obtain ⟨row, s₁, hcreate, hrun⟩ := Prog.run_bind_eq_ok h
    obtain ⟨_, s₂, -, hrun⟩ := Prog.run_bind_eq_ok hrun
    obtain ⟨hok, -⟩ := Prod.mk.inj hrun
    obtain rfl := Except.ok.inj hok
    have hrow := Prog.run_attempt_eq_ok hcreate
    -- the row that is created has the requested tenant; what follows does not touch it
    dsimp only at hrow
    split at hrow
    · cases hrow
    · rw [← (Prod.mk.inj (Option.some.inj hrow)).1]
      rfl

theorem shows_requestExportBundle {r : ExportRequested}
    (h : (requestExportBundle platform user eventId).run s = (.ok r, s')) :
    Shows user eventId s' (.requested r) := by
  rcases requireEvent_outcome user eventId s with ⟨e, he⟩ | ⟨event, -, -, hopen, hevent⟩
  · rw [requestExportBundle, Prog.run_bind, he] at h
    cases h
  rw [requestExportBundle, Prog.run_bind, hevent, Prog.andThen_ok, hopen.getD] at h
  obtain ⟨queued, s₁, -, hrun⟩ := Prog.run_bind_eq_ok h
  split at hrun
  · obtain ⟨hok, -⟩ := Prod.mk.inj hrun
    obtain rfl := Except.ok.inj hok
    exact fun b hb => nomatch hb
  · obtain ⟨bundle, s₂, hbundle, hrun⟩ := Prog.run_bind_eq_ok hrun
    obtain ⟨hok, -⟩ := Prod.mk.inj hrun
    obtain rfl := Except.ok.inj hok
    intro b hb
    rw [← Option.some.inj hb]
    exact tenantId_processBundle hbundle

/-! ## Isolation -/

/-- The operation worked on the event `eventId`, which is of the user's tenant or of none:
every file of the event is of the same tenant, what was added is the event's or the
user's, and nothing else is shown. -/
def EventIsolated (user : AuthenticatedUser) (eventId : Uuid) (s s' : Store) (r : Response) :
    Prop :=
  ∃ event ∈ s.events, event.id = eventId ∧ Open user event.tenantId ∧
    (∀ f ∈ s'.files, f.evidenceEventId = eventId → f.tenantId = event.tenantId) ∧
    Within eventId event.tenantId user.tenantId s s' ∧ Shows user eventId s' r

/-- What an operation that succeeds has read and written. -/
def Isolated (user : AuthenticatedUser) (s s' : Store) (r : Response) : Op → Prop
  | .upload eventId _ _ | .generateShareLinks eventId _ _ | .exportBundle eventId _
  | .publicSafeView eventId | .requestExportBundle eventId => EventIsolated user eventId s s' r
  | .setLegalHold fileId _ => ∃ f ∈ s.files, f.id = fileId ∧ Open user f.tenantId ∧
      Within f.evidenceEventId f.tenantId user.tenantId s s' ∧
      ∀ g ∈ s'.files, g ∈ s.files ∨ g.id = fileId
  | .getBundle bundleId => ∃ b ∈ s.bundles, b.id = bundleId ∧ b.tenantId = user.tenantId ∧
      r = .bundle b ∧ s' = s

theorem isolated_of_letIn {p : Program α} {f : α → Response} {r : Response} (howned : Owned s)
    (hlet : LetIn user eventId s p) (hok : (f <$> p).run s = (.ok r, s'))
    (hshows : ∀ a, p.run s = (.ok a, s') → Shows user eventId s' (f a)) :
    EventIsolated user eventId s s' r := by
  have howned' := letIn_owned hlet howned
  cases hrun : p.run s with
  | mk result t =>
    rw [Prog.run_map, hrun] at hok
    obtain ⟨hresult, rfl⟩ := Prod.mk.inj hok
    cases result with
    | error e => cases hresult
    | ok a =>
      obtain rfl := Except.ok.inj hresult
      rcases hlet with ⟨e, he⟩ | ⟨event, hmem, hid, hopen, hwithin⟩
      · rw [he] at hrun
        cases hrun
      · rw [hrun] at hwithin howned'
        -- ids are unique, so the event of a file is this one, and the file has its tenant
        refine ⟨event, hmem, hid, hopen, fun f hf hevent => ?_, hwithin, hshows a hrun⟩
        obtain ⟨event', hmem', hid', hown⟩ := howned'.files f hf
        obtain ⟨new, hnew, -⟩ := hwithin.events
        have hmem'' : event ∈ t.events := hnew ▸ List.mem_append_left _ hmem
        rw [← hown, List.inj_on_of_nodup_map howned'.ids hmem' hmem''
          (hid'.trans (hevent.trans hid.symm))]

theorem files_setLegalHold {fileId : Uuid} {legalHold : Bool} {f : EvidenceFile}
    (h : (setLegalHold platform user fileId legalHold).run s = (.ok f, s')) :
    ∀ g ∈ s'.files, g ∈ s.files ∨ g.id = fileId := by
  unfold setLegalHold at h
  rw [Prog.run_bind, run_read, Prog.andThen_ok] at h
  cases hfind : Table.find EvidenceFile.id fileId s.files with
  | none =>
    rw [hfind] at h
    cases h
  | some file =>
    rw [hfind] at h
    dsimp only at h
    split at h
    · cases h
    split at h
    · cases h
    -- the update changes the file with this id, the custody event changes no file
    obtain ⟨updated, s₁, hupdate, hrun⟩ := Prog.run_bind_eq_ok h
    obtain ⟨_, s₂, happend, hrun⟩ := Prog.run_bind_eq_ok hrun
    obtain ⟨-, rfl⟩ := Prod.mk.inj hrun
    have hmodify := Prog.run_attempt_eq_ok hupdate
    obtain ⟨_, -, hpair⟩ := Option.map_eq_some_iff.mp hmodify
    obtain ⟨-, rfl⟩ := Prod.mk.inj hpair
    intro g hg
    rw [files_appendEvidence happend] at hg
    obtain ⟨g', hg', rfl⟩ := Table.mem_modify.mp hg
    by_cases hid : g'.id = fileId
    · rw [if_pos hid]
      exact Or.inr hid
    · rw [if_neg hid]
      exact Or.inl hg'

end Operations

/-! ### The system chain -/

/-- No blob container, no queue, and a hash that keeps the text. -/
def localPlatform : Platform where
  sha256 text := text
  sha256Bytes bytes := bytes.map fun b => Fin.ofNat 65536 b.toNat
  container := false
  sharedKey := false
  url name := name
  sas _ _ := []
  queue := false
  parseDate _ := none

/-- A moment in January. -/
def someNoon : Date := Date.sampleDay.noon

def eventOf (tenantId : Option Uuid) : EvidenceEvent where
  id := "e"
  tenantId := tenantId
  sequence := 1
  actorId := none
  actorType := none
  entityType := "SCAM_SIGNAL"
  entityId := "s"
  eventType := "SIGNAL_REVIEWED"
  eventDescription := "d"
  metadata := none
  ipAddress := none
  deviceId := none
  previousHash := none
  eventHash := "h"
  occurredAt := someNoon

/-- A store with one event, of a tenant or of none. -/
def storeOf (tenantId : Option Uuid) : Store where
  events := [eventOf tenantId]
  files := []
  bundles := []
  blobs _ := none
  jobs := []
  now := someNoon
  uuid n := List.replicate (n + 1) 0x30
  issued := 0

theorem owned_storeOf (tenantId : Option Uuid) : Owned (storeOf tenantId) where
  ids := List.pairwise_singleton _ _
  files _ hf := absurd hf List.not_mem_nil

def memberOf (tenantId : Uuid) : AuthenticatedUser where
  userId := "u"
  tenantId := tenantId
  role := .individual

/-- An upload of three bytes under legal hold. -/
def heldUpload : Call :=
  .user (memberOf "a") (.upload "e" ⟨"f.txt", "text/plain", [1, 2, 3], 3⟩
    ⟨none, some true, .undefined⟩)

theorem exists_of_isOk {α : Type} {p : Program α} {s : Store} (h : (p.run s).1.isOk = true) :
    ∃ a s', p.run s = (.ok a, s') := by
  cases hrun : p.run s with
  | mk result s' =>
    rw [hrun] at h
    cases result with
    | error e => cases h
    | ok a => exact ⟨a, s', rfl⟩

end EvidenceVault.Files
