import Vigiscam.Concurrency.Rely
import Vigiscam.EvidenceVault.Isolation

/-!
# What runs beside each other in the evidence vault

Calls of users, jobs of the export worker and appends of the rest of the application
interleave step by step, and any step may fail. `Rules` names what the single steps are to
satisfy; then every step of every program satisfies it, uploads apart, which are the only
programs that add a file.
-/

namespace EvidenceVault.Files

open Js Value Concurrency

/-- What runs beside each other: calls of users, jobs of the worker, and what the rest of the
application does. -/
inductive Process where
  | user (user : AuthenticatedUser) (op : Op)
  | worker (job : EvidenceExportPayload)
  | record (input : AppendEvidenceInput)
  | clock (now : Date)

def Process.program (platform : Platform) : Process → Program Unit
  | user u op => (fun _ => ()) <$> op.program platform u
  | worker job => (fun _ => ()) <$>
      processBundle platform job.evidenceEventId job.tenantId job.requestedByUserId
  | record input => (fun _ => ()) <$> appendEvidence platform input
  | clock now => Prog.act .read .internal fun s => ((), { s with now })

/-- Processes at their start. -/
def processes {ι : Type} (platform : Platform) (process : ι → Process) (s : Store) :
    Pool ι Store (Program Unit) where
  shared := s
  locals i := (process i).program platform

/-- The row of the bundle that `processBundle` makes. -/
def manifestRow (platform : Platform) (event : EvidenceEvent) (files : List EvidenceFile)
    (now : Date) (tenantId requestedByUserId : Uuid) : Uuid → EvidenceExportBundle :=
  let manifest := manifest event files now requestedByUserId
  bundleRow event.id tenantId files.length (platform.sha256 (jsonStringify manifest)) manifest now

/-! ## Rules for steps -/

variable {platform : Platform} {R : Store → Store → Prop}

/-- Every step of the program is within `R`. -/
abbrev Steps (R : Store → Store → Prop) {α : Type} (p : Program α) : Prop :=
  p.Each fun _ s t => R s t

/-- What the single steps do to the store, other than those of an upload, is within `R`. -/
structure Rules (platform : Platform) (R : Store → Store → Prop) : Prop where
  refl : ∀ s, R s s
  clock : ∀ s now, R s { s with now }
  event : ∀ (s : Store) row, R s { s with events := s.events ++ [row], issued := s.issued + 1 }
  hold : ∀ (s : Store) id legalHold, R s
    { s with files := Table.modify EvidenceFile.id id ({ · with legalHold }) s.files }
  bundle : ∀ (s : Store) event files now tenantId requestedByUserId, R s { s with
    bundles := s.bundles ++
      [manifestRow platform event files now tenantId requestedByUserId (s.uuid s.issued)]
    issued := s.issued + 1 }
  job : ∀ (s : Store) job, R s { s with jobs := s.jobs ++ [job] }

theorem Steps.map {α β : Type} {p : Program α} (f : α → β) (h : Steps R p) : Steps R (f <$> p) :=
  Prog.Each.bind h fun _ => Prog.Each.pure _

theorem Rules.steps_read {α : Type} (hR : Rules platform R) (f : Store → α) : Steps R (read f) :=
  Prog.Each.act fun s => hR.refl s

/-! ### Steps that a full table or a missing row refuses -/

theorem Rules.steps_append (hR : Rules platform R) (input : AppendEvidenceInput) :
    Steps R (appendEvidence platform input) := by
  refine Prog.Each.attempt (fun s id t happend => ?_) fun s _ => hR.refl s
  dsimp only at happend
  split at happend
  · cases happend
  · obtain ⟨-, rfl⟩ := Prod.mk.inj (Option.some.inj happend)
    exact hR.event s _

theorem Rules.steps_updateFile (hR : Rules platform R) (id : Uuid) (legalHold : Bool) :
    Steps R (updateFile id legalHold) := by
  refine Prog.Each.attempt (fun s f t hupdate => ?_) fun s _ => hR.refl s
  obtain ⟨file, -, hpair⟩ := Option.map_eq_some_iff.mp hupdate
  obtain ⟨-, rfl⟩ := Prod.mk.inj hpair
  exact hR.hold s id legalHold

/-- A row of a bundle is added whole. -/
theorem steps_createBundle {row : Uuid → EvidenceExportBundle} (hrefl : ∀ s, R s s)
    (h : ∀ s : Store, R s
      { s with bundles := s.bundles ++ [row (s.uuid s.issued)], issued := s.issued + 1 }) :
    Steps R (createBundle row) := by
  refine Prog.Each.attempt (fun s b t hcreate => ?_) fun s _ => hrefl s
  dsimp only at hcreate
  split at hcreate
  · cases hcreate
  · obtain ⟨-, rfl⟩ := Prod.mk.inj (Option.some.inj hcreate)
    exact h s

theorem Rules.steps_enqueue (hR : Rules platform R) (job : EvidenceExportPayload) :
    Steps R (enqueue platform job) := by
  refine Prog.Each.act fun s => ?_
  dsimp only
  split
  · exact hR.job s job
  · exact hR.refl s

/-! ### Programs -/

theorem Rules.steps_requireEvent (hR : Rules platform R) (user : AuthenticatedUser)
    (eventId : Uuid) :
    Steps R (requireEvent user eventId) := by
  refine Prog.Each.bind (hR.steps_read _) fun event => ?_
  cases event with
  | none => trivial
  | some event =>
    dsimp only
    split
    · trivial
    · trivial

theorem Rules.steps_processBundle (hR : Rules platform R)
    (eventId tenantId requestedByUserId : Uuid) :
    Steps R (processBundle platform eventId tenantId requestedByUserId) := by
  refine Prog.Each.bind (hR.steps_read _) fun event => ?_
  cases event with
  | none => trivial
  | some event =>
    refine Prog.Each.bind (hR.steps_read _) fun files => ?_
    refine Prog.Each.bind (hR.steps_read _) fun now => ?_
    refine Prog.Each.bind (steps_createBundle hR.refl fun s => hR.bundle s ..) fun bundle => ?_
    exact Prog.Each.bind (hR.steps_append _) fun _ => Prog.Each.pure _

theorem Rules.steps_generateShareLinks (hR : Rules platform R) (user : AuthenticatedUser)
    (eventId : Uuid) (fileId : Option Uuid) (expiresInSeconds : Option Int) :
    Steps R (generateShareLinks platform user eventId fileId expiresInSeconds) := by
  refine Prog.Each.bind (hR.steps_requireEvent ..) fun event => ?_
  refine Prog.Each.bind (hR.steps_read _) fun files => ?_
  split
  · trivial
  · refine Prog.Each.bind (hR.steps_read _) fun now => ?_
    exact Prog.Each.bind (hR.steps_append _) fun _ => Prog.Each.pure _

theorem Rules.steps_exportBundle (hR : Rules platform R) (user : AuthenticatedUser)
    (eventId : Uuid) (expiresInSeconds : Int) :
    Steps R (exportBundle platform user eventId expiresInSeconds) := by
  refine Prog.Each.bind (hR.steps_requireEvent ..) fun event => ?_
  refine Prog.Each.bind (hR.steps_read _) fun files => ?_
  refine Prog.Each.bind (hR.steps_read _) fun now => ?_
  exact Prog.Each.bind (hR.steps_append _) fun _ => Prog.Each.pure _

theorem Rules.steps_publicSafeView (hR : Rules platform R) (user : AuthenticatedUser)
    (eventId : Uuid) :
    Steps R (publicSafeView user eventId) := by
  refine Prog.Each.bind (hR.steps_requireEvent ..) fun event => ?_
  exact Prog.Each.bind (hR.steps_read _) fun files => Prog.Each.pure _

theorem Rules.steps_requestExportBundle (hR : Rules platform R) (user : AuthenticatedUser)
    (eventId : Uuid) :
    Steps R (requestExportBundle platform user eventId) := by
  refine Prog.Each.bind (hR.steps_requireEvent ..) fun event => ?_
  refine Prog.Each.bind (hR.steps_enqueue _) fun queued => ?_
  split
  · trivial
  · exact Prog.Each.bind (hR.steps_processBundle ..) fun _ => Prog.Each.pure _

theorem Rules.steps_setLegalHold (hR : Rules platform R) (user : AuthenticatedUser) (fileId : Uuid)
    (legalHold : Bool) :
    Steps R (setLegalHold platform user fileId legalHold) := by
  refine Prog.Each.bind (hR.steps_read _) fun file => ?_
  cases file with
  | none => trivial
  | some file =>
    dsimp only
    split
    · trivial
    split
    · trivial
    refine Prog.Each.bind (hR.steps_updateFile ..) fun updated => ?_
    exact Prog.Each.bind (hR.steps_append _) fun _ => Prog.Each.pure _

theorem Rules.steps_getBundle (hR : Rules platform R) (user : AuthenticatedUser) (bundleId : Uuid) :
    Steps R (getBundle user bundleId) := by
  refine Prog.Each.bind (hR.steps_read _) fun bundle => ?_
  cases bundle with
  | none => trivial
  | some bundle =>
    dsimp only
    split
    · trivial
    · trivial

/-! ## Rules for uploads -/

/-- All single steps are within `R`. -/
structure AllRules (platform : Platform) (R : Store → Store → Prop) : Prop
    extends Rules platform R where
  bytes : ∀ s name data, R s { s with blobs := Function.update s.blobs name (some data) }
  file : ∀ (s : Store) f, R s { s with files := s.files ++ [f], issued := s.issued + 1 }

theorem AllRules.steps_createFile (hR : AllRules platform R) (row : Option (Uuid → EvidenceFile)) :
    Steps R (createFile row) := by
  refine Prog.Each.attempt (fun s f t hcreate => ?_) fun s _ => hR.refl s
  dsimp only at hcreate
  split at hcreate
  · cases hcreate
  · obtain ⟨make, -, hpair⟩ := Option.map_eq_some_iff.mp hcreate
    obtain ⟨-, rfl⟩ := Prod.mk.inj hpair
    exact hR.file s _

theorem AllRules.steps_upload (hR : AllRules platform R) (user : AuthenticatedUser)
    (eventId : Uuid) (file : Upload) (opts : UploadOptions) :
    Steps R (upload platform user eventId file opts) := by
  refine Prog.Each.bind (hR.steps_requireEvent ..) fun event => ?_
  refine Prog.Each.bind ?_ fun result => Prog.Each.bind (hR.steps_read _) fun now => ?_
  · unfold blobUpload
    split
    · exact Prog.Each.act fun s => hR.bytes s _ _
    · trivial
  · refine Prog.Each.bind (hR.steps_createFile _) fun row => ?_
    exact Prog.Each.bind (hR.steps_append _) fun _ => Prog.Each.pure _

theorem AllRules.steps_op (hR : AllRules platform R) (user : AuthenticatedUser) (op : Op) :
    Steps R (op.program platform user) := by
  cases op with
  | upload eventId file opts => exact (hR.steps_upload ..).map _
  | generateShareLinks eventId fileId expiresInSeconds =>
    exact (hR.steps_generateShareLinks ..).map _
  | exportBundle eventId expiresInSeconds => exact (hR.steps_exportBundle ..).map _
  | publicSafeView eventId => exact (hR.steps_publicSafeView ..).map _
  | requestExportBundle eventId => exact (hR.steps_requestExportBundle ..).map _
  | setLegalHold fileId legalHold => exact (hR.steps_setLegalHold ..).map _
  | getBundle bundleId => exact (hR.steps_getBundle ..).map _

/-- **Every step of every process is within `R`** where the single steps are. -/
theorem AllRules.steps_process (hR : AllRules platform R) (process : Process) :
    Steps R (process.program platform) := by
  cases process with
  | user u op => exact (hR.steps_op u op).map _
  | worker job => exact (hR.steps_processBundle ..).map _
  | record input => exact (hR.steps_append input).map _
  | clock now => exact Prog.Each.act fun s => hR.clock s now

end EvidenceVault.Files
