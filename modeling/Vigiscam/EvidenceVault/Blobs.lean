import Vigiscam.EvidenceVault.Processes

/-!
# Files and their bytes

A row of `evidence_files` has the hash of the bytes that were uploaded, and the bytes are
in the container under the name of the row. Nothing keeps a second upload from that name:
the file name comes from the client, and `uploadData` replaces what was there, also what
is under legal hold.

Processes interleave, and any step may fail. `rows_match_bytes` says what remains: as long
as an upload does not replace bytes by bytes of another hash, every row has the hash of
the bytes under its name.
-/

namespace EvidenceVault

open Js Value Concurrency

/-- The name of a file's blob. -/
def EvidenceFile.blob (f : EvidenceFile) : Text :=
  Files.blobName (f.tenantId.getD "system") f.evidenceEventId f.filename

namespace Files

section Bytes

variable (platform : Platform)

/-- An upload does not replace bytes by bytes of another hash. -/
def KeepsBytes : FileStep → Store → Prop
  | .uploadData name data, s =>
    match s.blobs name with
    | none => True
    | some bytes => platform.sha256Bytes bytes = platform.sha256Bytes data
  | _, _ => True

instance : (l : FileStep) → (s : Store) → Decidable (KeepsBytes platform l s)
  | .uploadData name data, s => by
    unfold KeepsBytes
    dsimp only
    split <;> infer_instance
  | .read, _ | .createFile, _ | .updateFile, _ | .createBundle, _ | .append, _ | .enqueue, _ =>
    isTrue trivial

/-- Every row has the hash of the bytes that are stored under its name. -/
def Recorded (s : Store) : Prop :=
  ∀ f ∈ s.files, ∃ bytes, s.blobs f.blob = some bytes ∧ platform.sha256Bytes bytes = f.sha256

/-- Stored bytes keep their hash, and rows go on to match their bytes. -/
structure Preserves (s t : Store) : Prop where
  bytes : ∀ name bytes, s.blobs name = some bytes → ∃ bytes', t.blobs name = some bytes' ∧
    platform.sha256Bytes bytes' = platform.sha256Bytes bytes
  recorded : Recorded platform s → Recorded platform t

end Bytes

variable {platform : Platform} {s t u : Store}

theorem closed_preserves : Closed (Preserves platform) where
  refl _ := ⟨fun _ bytes h => ⟨bytes, h, rfl⟩, id⟩
  trans {s t u} hst htu := by
    refine ⟨fun name bytes h => ?_, htu.recorded ∘ hst.recorded⟩
    obtain ⟨bytes', h', hash⟩ := hst.bytes name bytes h
    obtain ⟨bytes'', h'', hash'⟩ := htu.bytes name bytes' h'
    exact ⟨bytes'', h'', hash'.trans hash⟩

/-- A step that leaves the blobs alone, and adds no row. -/
theorem preserves_of_blobs (hblobs : t.blobs = s.blobs)
    (hfiles : ∀ f ∈ t.files, ∃ g ∈ s.files, g.blob = f.blob ∧ g.sha256 = f.sha256) :
    Preserves platform s t where
  bytes name bytes h := ⟨bytes, hblobs ▸ h, rfl⟩
  recorded hs f hf := by
    obtain ⟨g, hg, hblob, hsha⟩ := hfiles f hf
    obtain ⟨bytes, hbytes, hash⟩ := hs g hg
    exact ⟨bytes, by rw [hblobs, ← hblob, hbytes], hash.trans hsha⟩

theorem preserves_of_same (hblobs : t.blobs = s.blobs) (hfiles : t.files = s.files) :
    Preserves platform s t :=
  preserves_of_blobs hblobs fun f hf => ⟨f, hfiles ▸ hf, rfl, rfl⟩

/-- Only an upload touches the blobs, or adds a row. -/
theorem rules_preserves : Rules platform (Preserves platform) where
  refl := closed_preserves.refl
  clock _ _ := preserves_of_same rfl rfl
  event _ _ := preserves_of_same rfl rfl
  hold s id legalHold := by
    refine preserves_of_blobs rfl fun f hf => ?_
    obtain ⟨g, hg, rfl⟩ := Table.mem_modify.mp hf
    refine ⟨g, hg, ?_⟩
    split
    · exact ⟨rfl, rfl⟩
    · exact ⟨rfl, rfl⟩
  bundle _ _ _ _ _ _ := preserves_of_same rfl rfl
  job _ _ := preserves_of_same rfl rfl

/-! ## Uploads -/

/-- Bytes may be stored under a free name, or where bytes of the same hash are. -/
theorem preserves_uploadData {name : Text} {data : List UInt8}
    (hkeeps : KeepsBytes platform (.uploadData name data) s) :
    Preserves platform s { s with blobs := Function.update s.blobs name (some data) } := by
  have hbytes : ∀ name' bytes, s.blobs name' = some bytes → ∃ bytes',
      Function.update s.blobs name (some data) name' = some bytes' ∧
        platform.sha256Bytes bytes' = platform.sha256Bytes bytes := by
    intro name' bytes h
    by_cases hname : name' = name
    · subst hname
      rw [KeepsBytes, h] at hkeeps
      exact ⟨data, Function.update_self .., hkeeps.symm⟩
    · exact ⟨bytes, by rw [Function.update_of_ne hname, h], rfl⟩
  refine ⟨hbytes, fun hs f hf => ?_⟩
  obtain ⟨bytes, h, hash⟩ := hs f hf
  obtain ⟨bytes', h', hash'⟩ := hbytes _ _ h
  exact ⟨bytes', h', hash'.trans hash⟩

/-- A row may be added whose bytes are stored. -/
theorem preserves_createFile {f : EvidenceFile} {bytes : List UInt8}
    (hblobs : t.blobs = s.blobs) (hfiles : t.files = s.files ++ [f])
    (hbytes : s.blobs f.blob = some bytes) (hash : platform.sha256Bytes bytes = f.sha256) :
    Preserves platform s t where
  bytes name bytes h := ⟨bytes, hblobs ▸ h, rfl⟩
  recorded hs g hg := by
    rw [hblobs]
    rw [hfiles] at hg
    rcases List.mem_append.mp hg with hg | hg
    · exact hs g hg
    · rw [List.mem_singleton.mp hg]
      exact ⟨bytes, hbytes, hash⟩

/-- **An upload is safe**: when it adds its row, its bytes are stored, and the others have
kept their hash. -/
theorem safe_upload (hcontainer : platform.container = true) (user : AuthenticatedUser)
    (eventId : Uuid) (file : Upload) (opts : UploadOptions) :
    (upload platform user eventId file opts).Safe (KeepsBytes platform) (Preserves platform) s := by
  have hR := @closed_preserves platform
  refine Prog.Safe.bind_each hR (rules_preserves.steps_requireEvent ..) fun event s₁ _ => ?_
  dsimp only
  rw [blobUpload, hcontainer, if_pos rfl]
  refine Prog.Safe.act_bind fun s₂ _ hkeeps => ⟨preserves_uploadData hkeeps, ?_⟩
  refine Prog.Safe.bind_each hR (rules_preserves.steps_read _) fun now s₃ hafter => ?_
  refine Prog.Safe.attempt_bind hR fun s₄ row s₅ hmore _ hcreate => ?_
  -- the bytes that were stored have kept their hash
  obtain ⟨bytes, hbytes, hash⟩ := (hR.trans hafter hmore).bytes _ _ (Function.update_self ..)
  dsimp only at hcreate
  split at hcreate
  · cases hcreate
  · obtain ⟨make, hmake, hpair⟩ := Option.map_eq_some_iff.mp hcreate
    obtain ⟨rfl, rfl⟩ := Prod.mk.inj hpair
    obtain ⟨_, -, rfl⟩ := Option.map_eq_some_iff.mp hmake
    refine ⟨preserves_createFile rfl rfl hbytes hash, ?_⟩
    exact Prog.Each.safe (Prog.Each.bind (rules_preserves.steps_append _) fun _ => Prog.Each.pure _)

/-- Every process is safe. -/
theorem safe_process (hcontainer : platform.container = true) (process : Process) :
    (process.program platform).Safe (KeepsBytes platform) (Preserves platform) s := by
  have hR := @rules_preserves platform
  cases process with
  | user user op =>
    refine Prog.Safe.map _ ?_
    cases op with
    | upload eventId file opts =>
      exact Prog.Safe.map _ (safe_upload hcontainer user eventId file opts)
    | generateShareLinks eventId fileId expiresInSeconds =>
      exact Prog.Each.safe ((hR.steps_generateShareLinks ..).map _)
    | exportBundle eventId expiresInSeconds =>
      exact Prog.Each.safe ((hR.steps_exportBundle ..).map _)
    | publicSafeView eventId => exact Prog.Each.safe ((hR.steps_publicSafeView ..).map _)
    | requestExportBundle eventId => exact Prog.Each.safe ((hR.steps_requestExportBundle ..).map _)
    | setLegalHold fileId legalHold => exact Prog.Each.safe ((hR.steps_setLegalHold ..).map _)
    | getBundle bundleId => exact Prog.Each.safe ((hR.steps_getBundle ..).map _)
  | worker job => exact Prog.Each.safe ((hR.steps_processBundle ..).map _)
  | record input => exact Prog.Each.safe ((hR.steps_append input).map _)
  | clock now => exact Prog.Each.safe (Prog.Each.act fun s => hR.clock s now)

/-! ## Every run -/

/-- **Rows match their bytes** as long as no upload replaces bytes by bytes of another hash:
whatever runs beside each other and whichever steps fail. -/
theorem rows_match_bytes {ι : Type} [DecidableEq ι] {process : ι → Process} {s₀ : Store}
    {t : Pool ι Store (Program Unit)} (hcontainer : platform.container = true)
    (hstart : s₀.files = [])
    (hrun : Pool.Run (Prog.interleaved (KeepsBytes platform)) (processes platform process s₀) t) :
    Recorded platform t.shared := by
  have hrecorded : Recorded platform s₀ := by
    intro f hf
    rw [hstart] at hf
    cases hf
  exact (Run.safe closed_preserves hrun fun i => safe_process hcontainer (process i)).recorded
    hrecorded

/-! ### Names that come twice -/

/-- There is a blob container. -/
def containerPlatform : Platform := { localPlatform with container := true }

/-- An upload to the event of `storeOf`. -/
def uploadOf (name : Text) (data : List UInt8) (legalHold : Bool) : Process :=
  .user (memberOf "a") (.upload "e" ⟨name, "text/plain", data, data.length⟩
    ⟨none, some legalHold, .undefined⟩)

/-- Three bytes under legal hold, and a fourth byte under some name. -/
def uploads (name : Text) : Bool → Process
  | false => uploadOf "f.txt" [1, 2, 3] true
  | true => uploadOf name [4] false

/-- Two uploads, one after the other. -/
theorem run_uploads {allowed : FileStep → Store → Prop} {name : Text}
    (hfirst : Prog.Permitted allowed 9 (storeOf (some "a"))
      ((uploads name false).program containerPlatform))
    (hsecond : Prog.Permitted allowed 9 (Prog.advance 9 (storeOf (some "a"))
      ((uploads name false).program containerPlatform)).1
      ((uploads name true).program containerPlatform)) :
    ∃ t, Pool.Run (Prog.interleaved allowed)
        (processes containerPlatform (uploads name) (storeOf (some "a"))) t ∧
      t.shared = (Prog.advance 9 (Prog.advance 9 (storeOf (some "a"))
        ((uploads name false).program containerPlatform)).1
        ((uploads name true).program containerPlatform)).1 :=
  ⟨_, Prog.run_advance true 9 (Prog.run_advance false 9 Pool.Run.refl hfirst) hsecond, rfl⟩

/-- Both uploads have a row, and its bytes. -/
theorem rows_match_bytes_two_names :
    ∃ t, Pool.Run (Prog.interleaved (KeepsBytes containerPlatform))
        (processes containerPlatform (uploads "g.txt") (storeOf (some "a"))) t ∧
      t.shared.files.map (·.filename) = [utf16 "f.txt", utf16 "g.txt"] ∧
      Recorded containerPlatform t.shared := by
  obtain ⟨t, hrun, hshared⟩ := @run_uploads (KeepsBytes containerPlatform) "g.txt"
    (by decide +kernel) (by decide +kernel)
  refine ⟨t, hrun, ?_, rows_match_bytes rfl rfl hrun⟩
  rw [hshared]
  decide +kernel

/-- The second upload has the name of the first: the file under legal hold has lost its
bytes. -/
theorem held_file_overwritten :
    ∃ t, Pool.Run (Prog.interleaved fun _ _ => True)
        (processes containerPlatform (uploads "f.txt") (storeOf (some "a"))) t ∧
      ∃ f ∈ t.shared.files, f.legalHold = true ∧
        ∃ bytes, t.shared.blobs f.blob = some bytes ∧
          containerPlatform.sha256Bytes bytes ≠ f.sha256 := by
  obtain ⟨t, hrun, hshared⟩ := @run_uploads (fun _ _ => True) "f.txt"
    (Prog.permitted_true ..) (Prog.permitted_true ..)
  have hlost : (t.shared.files.any fun f => f.legalHold && (t.shared.blobs f.blob).any fun bytes =>
      containerPlatform.sha256Bytes bytes ≠ f.sha256) = true := by
    rw [hshared]
    decide +kernel
  obtain ⟨f, hf, hlost⟩ := List.any_eq_true.mp hlost
  obtain ⟨hhold, hlost⟩ := Bool.and_eq_true_iff.mp hlost
  obtain ⟨bytes, hbytes, hother⟩ := (Option.any_eq_true ..).mp hlost
  exact ⟨t, hrun, f, hf, hhold, bytes, hbytes, of_decide_eq_true hother⟩

end Files

end EvidenceVault
