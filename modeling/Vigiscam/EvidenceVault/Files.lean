import Vigiscam.Concurrency.Prog
import Vigiscam.Concurrency.Table
import Vigiscam.EvidenceVault.Json
import Vigiscam.EvidenceVault.Service
import Vigiscam.Http

/-!
# Evidence files (`evidence-file.service.ts`, `blob.service.ts`)

Files hang on an evidence event. Their rows are in the database and their bytes in a blob
container, under a name that is made of the tenant, the event and the file name. A bundle
is a manifest of an event and its files, with a checksum.

Every operation is a program over the `Store`; each call of the database, of the container
and of the queue is one step.
-/

namespace EvidenceVault

open Js Value Concurrency

/-! ## Rows -/

/-- A row of `evidence_files`. -/
structure EvidenceFile where
  id : Uuid
  evidenceEventId : Uuid
  tenantId : Option Uuid
  filename : Text
  mimeType : Text
  sizeBytes : Nat
  sha256 : Text
  blobUri : Text
  uploadedAt : Date
  retentionUntil : Option Date
  legalHold : Bool
  uploadedByUserId : Option Uuid
  metadata : Value

inductive EvidenceExportBundleStatus where
  | ready | expired
deriving DecidableEq

/-- A row of `evidence_export_bundles`. -/
structure EvidenceExportBundle where
  id : Uuid
  tenantId : Uuid
  requestedByKeyId : Option Uuid
  filters : Value
  recordCount : Nat
  checksum : Text
  bundle : Value
  status : EvidenceExportBundleStatus
  expiresAt : Option Int

/-- A job of the evidence-export queue. -/
structure EvidenceExportPayload where
  evidenceEventId : Uuid
  tenantId : Uuid
  requestedByUserId : Uuid
deriving DecidableEq

namespace Files

/-- What is stored: the tables, the blobs by their names, and the queue; with the clock
and the source of ids. -/
structure Store where
  events : List EvidenceEvent
  files : List EvidenceFile
  bundles : List EvidenceExportBundle
  blobs : Text → Option (List UInt8)
  jobs : List EvidenceExportPayload
  now : Date
  uuid : Nat → Uuid
  issued : Nat

/-- What a step does. -/
inductive FileStep where
  | read | createFile | updateFile | createBundle | append | enqueue
  /-- `uploadData` under a name. -/
  | uploadData (blobName : Text) (data : List UInt8)
deriving DecidableEq

abbrev Program (α : Type) := Prog Store FileStep HttpError α

/-- What the service uses from outside the repository, and the configuration. -/
structure Platform where
  /-- `createHash('sha256').update(text).digest('hex')`. -/
  sha256 : Text → Text
  /-- The same of a buffer. -/
  sha256Bytes : List UInt8 → Text
  /-- A blob container is configured. -/
  container : Bool
  /-- There is a shared key to sign URLs with. -/
  sharedKey : Bool
  /-- `getBlockBlobClient(blobName).url`. -/
  url : Text → Text
  /-- The signed query of a blob, by its name and the time it expires. -/
  sas : Text → Int → Text
  /-- Redis is there, so that jobs are queued. -/
  queue : Bool
  /-- `new Date(text)`; `none` for an invalid date. -/
  parseDate : Text → Option Date

/-! ## Steps -/

def read {α : Type} (f : Store → α) : Program α := Prog.act .read .internal fun s => (f s, s)

@[simp] theorem run_read {α : Type} (f : Store → α) (s : Store) :
    (read f).run s = (.ok (f s), s) := rfl

/-- What a JSON column keeps of a value, up to the order of its keys. -/
def column (v : Value) (h : Distinct v) : Option Json :=
  match hv : stored v with
  | none => none
  | some w => some ⟨w, plain_stored hv, distinct_stored h hv⟩

section Service

variable (platform : Platform)

/-- `evidence.append`, done in one go: the advisory lock lets no other append of the chain
come in between. -/
def appendEvidence (input : AppendEvidenceInput) : Program Uuid :=
  Prog.attempt .append .internal fun s =>
    let id := s.uuid s.issued
    if id ∈ s.events.map EvidenceEvent.id then none
    else
      let row := (Call.mk input s.now).row platform.sha256 (findLast input.tenantId s.events) id
        (column input.metadata input.metadata_distinct)
      some (id, { s with events := s.events ++ [row], issued := s.issued + 1 })

/-- `evidenceFile.create`; `none` is data that the row does not take. -/
def createFile (row : Option (Uuid → EvidenceFile)) : Program EvidenceFile :=
  Prog.attempt .createFile .internal fun s =>
    let id := s.uuid s.issued
    if id ∈ s.files.map EvidenceFile.id then none
    else row.map fun row =>
      (row id, { s with files := s.files ++ [row id], issued := s.issued + 1 })

/-- `evidenceFile.update` of `legalHold`. -/
def updateFile (id : Uuid) (legalHold : Bool) : Program EvidenceFile :=
  Prog.attempt .updateFile .internal fun s =>
    (Table.find EvidenceFile.id id s.files).map fun file =>
      ({ file with legalHold },
        { s with files := Table.modify EvidenceFile.id id ({ · with legalHold }) s.files })

def createBundle (row : Uuid → EvidenceExportBundle) : Program EvidenceExportBundle :=
  Prog.attempt .createBundle .internal fun s =>
    let id := s.uuid s.issued
    if id ∈ s.bundles.map EvidenceExportBundle.id then none
    else some (row id, { s with bundles := s.bundles ++ [row id], issued := s.issued + 1 })

/-- `queue.enqueue`: whether there is a queue, and so a job. -/
def enqueue (job : EvidenceExportPayload) : Program Bool :=
  Prog.act .enqueue .internal fun s =>
    (platform.queue, if platform.queue then { s with jobs := s.jobs ++ [job] } else s)

/-! ## `BlobService` -/

/-- Server-derived prefix, then the file name. -/
def blobName (tenantId evidenceEventId filename : Text) : Text :=
  utf16 "tenant-" ++ tenantId ++ 0x2F :: (evidenceEventId ++ 0x2F :: filename)

/-- Upload a buffer; the URL of the blob, where there is a container. -/
def blobUpload (tenantId evidenceEventId filename : Text) (data : List UInt8) :
    Program (Option Text) :=
  if platform.container then
    let name := blobName tenantId evidenceEventId filename
    Prog.act (.uploadData name data) .internal fun s =>
      (some (platform.url name), { s with blobs := Function.update s.blobs name (some data) })
  else pure none

/-- Time-bound read URL for the given blob. -/
def generateReadUrl (now : Date) (tenantId evidenceEventId filename : Text)
    (expiresInSeconds : Int) : Option Text :=
  if platform.container && platform.sharedKey then
    let name := blobName tenantId evidenceEventId filename
    some (platform.url name ++ 0x3F :: platform.sas name (now.getTime + expiresInSeconds * 1000))
  else none

/-! ## `EvidenceFileService` -/

/-- The event, where the caller may use it: its tenant is the caller's, or it has none. -/
def requireEvent (user : AuthenticatedUser) (evidenceEventId : Uuid) : Program EvidenceEvent := do
  let event ← read fun s => Table.find EvidenceEvent.id evidenceEventId s.events
  match event with
  | none => throw (.notFound "Evidence event not found")
  | some event =>
    if event.tenantId.any (· ≠ user.tenantId) then throw (.denied "Forbidden") else pure event

/-- `findMany` of the files of an event, in the order of their upload. -/
def filesOf (evidenceEventId : Uuid) (s : Store) : List EvidenceFile :=
  (s.files.filter (·.evidenceEventId = evidenceEventId)).insertionSort
    fun a b => a.uploadedAt ≤ b.uploadedAt

/-- A number in a text. -/
def decimal (n : Nat) : Text := utf16 (toString n)

/-- A custody event of a user. -/
def custody (tenantId : Option Uuid) (userId : Uuid) (entityType : Text) (entityId : Uuid)
    (eventType eventDescription : Text) (metadata : Value) (h : Distinct metadata) :
    AppendEvidenceInput where
  tenantId := tenantId
  actorId := some userId
  actorType := some "USER"
  entityType := entityType
  entityId := entityId
  eventType := eventType
  eventDescription := eventDescription
  metadata := metadata
  ipAddress := none
  deviceId := none
  metadata_distinct := h

/-! ### Bundles -/

/-- A `Date` in an object. -/
def date (d : Date) : Value := toJSON [] (string d.toISOString)

/-- One file of a manifest. -/
def manifestFile (f : EvidenceFile) : Value :=
  object [("id", string f.id), ("filename", string f.filename), ("mimeType", string f.mimeType),
    ("sizeBytes", string (decimal f.sizeBytes)), ("sha256", string f.sha256),
    ("uploadedAt", date f.uploadedAt)]

/-- The manifest of an event and its files. -/
def manifest (event : EvidenceEvent) (files : List EvidenceFile) (now : Date)
    (requestedByUserId : Uuid) : Value :=
  object [("kind", string "VIGISCAM_EVIDENCE_BUNDLE"),
    ("event", object [("id", string event.id), ("eventType", string event.eventType),
      ("occurredAt", date event.occurredAt), ("eventHash", string event.eventHash)]),
    ("files", array (files.map manifestFile)),
    ("generatedAt", string now.toISOString),
    ("requestedByUserId", string requestedByUserId)]

/-- Seven days, in milliseconds. -/
def bundleTtl : Int := 7 * 24 * 60 * 60 * 1000

/-- The row of a bundle. -/
def bundleRow (evidenceEventId tenantId : Uuid) (recordCount : Nat) (checksum : Text)
    (manifest : Value) (now : Date) (id : Uuid) : EvidenceExportBundle where
  id := id
  tenantId := tenantId
  requestedByKeyId := none
  filters := jsonb (object [("evidenceEventId", string evidenceEventId)])
  recordCount := recordCount
  checksum := checksum
  bundle := jsonb manifest
  status := .ready
  expiresAt := some (now.getTime + bundleTtl)

/-- The metadata of a persisted bundle. -/
def bundleMetadata (evidenceEventId : Uuid) (recordCount : Nat) (checksum : Text) : Value :=
  object [("evidenceEventId", string evidenceEventId), ("recordCount", number (.ofInt recordCount)),
    ("checksum", string checksum)]

theorem distinct_bundleMetadata (evidenceEventId : Uuid) (recordCount : Nat) (checksum : Text) :
    Distinct (bundleMetadata evidenceEventId recordCount checksum) := by
  refine ⟨?_, trivial, trivial, trivial, trivial⟩
  show List.Nodup [utf16 "evidenceEventId", utf16 "recordCount", utf16 "checksum"]
  decide

/-- Build + persist the export bundle. -/
def processBundle (evidenceEventId tenantId requestedByUserId : Uuid) :
    Program EvidenceExportBundle := do
  let event ← read fun s => Table.find EvidenceEvent.id evidenceEventId s.events
  match event with
  | none => throw (.notFound "Evidence event not found")
  | some event =>
    let files ← read (filesOf event.id)
    let now ← read (·.now)
    let manifest := manifest event files now requestedByUserId
    let checksum := platform.sha256 (jsonStringify manifest)
    let bundle ← createBundle (bundleRow event.id tenantId files.length checksum manifest now)
    let _ ← appendEvidence platform (custody event.tenantId requestedByUserId
      "EVIDENCE_EXPORT_BUNDLE" bundle.id "EVIDENCE_BUNDLE_PERSISTED"
      (utf16 "Evidence bundle persisted (" ++ decimal files.length ++ utf16 " file(s), checksum "
        ++ checksum.take 12 ++ utf16 "…)")
      (bundleMetadata event.id files.length checksum) (distinct_bundleMetadata ..))
    return bundle

structure ExportRequested where
  queued : Bool
  bundle : Option EvidenceExportBundle

/-- Request a persisted export bundle: a job, or the bundle itself without a queue. -/
def requestExportBundle (user : AuthenticatedUser) (evidenceEventId : Uuid) :
    Program ExportRequested := do
  let event ← requireEvent user evidenceEventId
  let tenantId := event.tenantId.getD user.tenantId
  let queued ← enqueue platform
    { evidenceEventId := event.id, tenantId, requestedByUserId := user.userId }
  if queued then return { queued := true, bundle := none }
  else
    let bundle ← processBundle platform event.id tenantId user.userId
    return { queued := false, bundle := some bundle }

/-- Fetch a persisted bundle (tenant-scoped). -/
def getBundle (user : AuthenticatedUser) (bundleId : Uuid) : Program EvidenceExportBundle := do
  let bundle ← read fun s => Table.find EvidenceExportBundle.id bundleId s.bundles
  match bundle with
  | none => throw (.notFound "Export bundle not found")
  | some bundle =>
    if bundle.tenantId ≠ user.tenantId then throw (.notFound "Export bundle not found")
    else pure bundle

/-! ### Files -/

structure Upload where
  originalname : Text
  mimetype : Text
  buffer : List UInt8
  size : Nat

structure UploadOptions where
  retentionUntil : Option Text
  legalHold : Option Bool
  metadata : Value

/-- `retentionUntil ? new Date(retentionUntil) : null`; `none` for an invalid date. -/
def UploadOptions.retention (opts : UploadOptions) : Option (Option Date) :=
  match present opts.retentionUntil with
  | none => some none
  | some text => (platform.parseDate text).map some

/-- The row of an uploaded file; `none` where `retentionUntil` is no date. -/
def fileRow (user : AuthenticatedUser) (event : EvidenceEvent) (file : Upload)
    (opts : UploadOptions) (sha256 blobUri : Text) (now : Date) : Option (Uuid → EvidenceFile) :=
  (opts.retention platform).map fun retentionUntil id => {
    id
    evidenceEventId := event.id
    tenantId := event.tenantId
    filename := file.originalname
    mimeType := file.mimetype
    sizeBytes := file.size
    sha256
    blobUri
    uploadedAt := now
    retentionUntil
    legalHold := opts.legalHold.getD false
    uploadedByUserId := some user.userId
    metadata := jsonb opts.metadata }

def uploadMetadata (evidenceEventId : Uuid) (file : Upload) (sha256 : Text) (legalHold : Bool) :
    Value :=
  object [("evidenceEventId", string evidenceEventId), ("sizeBytes", number (.ofInt file.size)),
    ("mimeType", string file.mimetype), ("sha256", string sha256), ("legalHold", .bool legalHold)]

theorem distinct_uploadMetadata (evidenceEventId : Uuid) (file : Upload) (sha256 : Text)
    (legalHold : Bool) : Distinct (uploadMetadata evidenceEventId file sha256 legalHold) := by
  refine ⟨?_, trivial, trivial, trivial, trivial, trivial, trivial⟩
  show List.Nodup [utf16 "evidenceEventId", utf16 "sizeBytes", utf16 "mimeType", utf16 "sha256",
    utf16 "legalHold"]
  decide

def upload (user : AuthenticatedUser) (evidenceEventId : Uuid) (file : Upload)
    (opts : UploadOptions) : Program EvidenceFile := do
  let event ← requireEvent user evidenceEventId
  let sha256 := platform.sha256Bytes file.buffer
  let result ← blobUpload platform (event.tenantId.getD "system") event.id file.originalname
    file.buffer
  let blobUri := result.getD
    (utf16 "blob://stub/" ++ event.id ++ 0x2F :: file.originalname)
  let now ← read (·.now)
  let row ← createFile (fileRow platform user event file opts sha256 blobUri now)
  let _ ← appendEvidence platform (custody event.tenantId user.userId "EVIDENCE_FILE" row.id
    "EVIDENCE_FILE_UPLOADED"
    (utf16 "File \"" ++ file.originalname ++ utf16 "\" uploaded to evidence event " ++ event.id)
    (uploadMetadata event.id file sha256 (opts.legalHold.getD false)) (distinct_uploadMetadata ..))
  return row

structure ShareLink where
  fileId : Uuid
  filename : Text
  url : Option Text

def shareMetadata (fileIds : List Uuid) (expiresInSeconds : Int) : Value :=
  object [("fileIds", array (fileIds.map string)),
    ("expiresInSeconds", number (.ofInt expiresInSeconds))]

theorem distinct_shareMetadata (fileIds : List Uuid) (expiresInSeconds : Int) :
    Distinct (shareMetadata fileIds expiresInSeconds) := by
  have hitems : DistinctItems (fileIds.map string) := by
    induction fileIds with
    | nil => trivial
    | cons id ids ih => exact ⟨trivial, ih⟩
  refine ⟨?_, hitems, trivial, trivial⟩
  show List.Nodup [utf16 "fileIds", utf16 "expiresInSeconds"]
  decide

def generateShareLinks (user : AuthenticatedUser) (evidenceEventId : Uuid) (fileId : Option Uuid)
    (expiresInSeconds : Option Int) : Program (List ShareLink) := do
  let event ← requireEvent user evidenceEventId
  let files ← read fun s => s.files.filter fun f =>
    f.evidenceEventId = event.id && (present fileId).all (f.id = ·)
  if (present fileId).isSome && files.isEmpty then throw (.notFound "Evidence file not found")
  else
    let expiresInSeconds := expiresInSeconds.getD (15 * 60)
    let now ← read (·.now)
    let links := files.map fun f => {
      fileId := f.id
      filename := f.filename
      url := generateReadUrl platform now (event.tenantId.getD "system") event.id f.filename
        expiresInSeconds : ShareLink }
    let _ ← appendEvidence platform (custody event.tenantId user.userId "EVIDENCE_FILE" event.id
      "EVIDENCE_FILE_SHARED"
      (utf16 "Generated signed URLs for " ++ decimal links.length ++ utf16 " file(s)")
      (shareMetadata (links.map (·.fileId)) expiresInSeconds) (distinct_shareMetadata ..))
    return links

/-- What a view shows of an event. -/
structure EventView where
  id : Uuid
  eventType : Text
  occurredAt : Date

def EventView.of (event : EvidenceEvent) : EventView where
  id := event.id
  eventType := event.eventType
  occurredAt := event.occurredAt

structure ExportedFile where
  id : Uuid
  filename : Text
  mimeType : Text
  sizeBytes : Text
  sha256 : Text
  legalHold : Bool
  retentionUntil : Option Date
  uploadedAt : Date
  url : Option Text

structure FileExport where
  event : EventView
  files : List ExportedFile

def exportMetadata (fileCount : Nat) (expiresInSeconds : Int) : Value :=
  object [("fileCount", number (.ofInt fileCount)),
    ("expiresInSeconds", number (.ofInt expiresInSeconds))]

theorem distinct_exportMetadata (fileCount : Nat) (expiresInSeconds : Int) :
    Distinct (exportMetadata fileCount expiresInSeconds) := by
  refine ⟨?_, trivial, trivial, trivial⟩
  show List.Nodup [utf16 "fileCount", utf16 "expiresInSeconds"]
  decide

/-- Metadata and signed URLs for every file on the event. -/
def exportBundle (user : AuthenticatedUser) (evidenceEventId : Uuid) (expiresInSeconds : Int) :
    Program FileExport := do
  let event ← requireEvent user evidenceEventId
  let files ← read (filesOf event.id)
  let now ← read (·.now)
  let fileResults := files.map fun f => {
    id := f.id
    filename := f.filename
    mimeType := f.mimeType
    sizeBytes := decimal f.sizeBytes
    sha256 := f.sha256
    legalHold := f.legalHold
    retentionUntil := f.retentionUntil
    uploadedAt := f.uploadedAt
    -- the blob is named as in `upload`, with `system` for the system chain
    url := generateReadUrl platform now (event.tenantId.getD "system") event.id f.filename
      expiresInSeconds : ExportedFile }
  let _ ← appendEvidence platform (custody event.tenantId user.userId "EVIDENCE_FILE" event.id
    "EVIDENCE_BUNDLE_EXPORTED"
    (utf16 "Bundle exported (" ++ decimal files.length ++ utf16 " file(s))")
    (exportMetadata files.length expiresInSeconds) (distinct_exportMetadata ..))
  return { event := EventView.of event, files := fileResults }

structure PublicFile where
  id : Uuid
  filename : Text
  mimeType : Text
  sizeBytes : Text
  uploadedAt : Date

structure PublicView where
  event : EventView
  files : List PublicFile

/-- Public-safe redacted view: no signed URLs, no blob paths. -/
def publicSafeView (user : AuthenticatedUser) (evidenceEventId : Uuid) : Program PublicView := do
  let event ← requireEvent user evidenceEventId
  let files ← read (filesOf event.id)
  return {
    event := EventView.of event
    files := files.map fun f => {
      id := f.id
      filename := f.filename
      mimeType := f.mimeType
      sizeBytes := decimal f.sizeBytes
      uploadedAt := f.uploadedAt } }

def holdMetadata (fileId : Uuid) (legalHold : Bool) : Value :=
  object [("fileId", string fileId), ("legalHold", .bool legalHold)]

theorem distinct_holdMetadata (fileId : Uuid) (legalHold : Bool) :
    Distinct (holdMetadata fileId legalHold) := by
  refine ⟨?_, trivial, trivial, trivial⟩
  show List.Nodup [utf16 "fileId", utf16 "legalHold"]
  decide

def setLegalHold (user : AuthenticatedUser) (fileId : Uuid) (legalHold : Bool) :
    Program EvidenceFile := do
  let file ← read fun s => Table.find EvidenceFile.id fileId s.files
  match file with
  | none => throw (.notFound "Evidence file not found")
  | some file =>
    if file.tenantId.any (· ≠ user.tenantId) then throw (.denied "Forbidden")
    else if file.legalHold = legalHold then
      throw (.badRequest (utf16 "Legal hold is already " ++ if legalHold then "set" else "cleared"))
    else
      let updated ← updateFile fileId legalHold
      let _ ← appendEvidence platform (custody file.tenantId user.userId "EVIDENCE_FILE" fileId
        (if legalHold then "EVIDENCE_FILE_LEGAL_HOLD_SET" else "EVIDENCE_FILE_LEGAL_HOLD_LIFTED")
        ((if legalHold then utf16 "Legal hold placed on file "
          else utf16 "Legal hold lifted on file ") ++ file.filename)
        (holdMetadata fileId legalHold) (distinct_holdMetadata ..))
      return updated

end Service

end Files

end EvidenceVault
