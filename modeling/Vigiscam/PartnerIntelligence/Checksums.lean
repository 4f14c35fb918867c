import Vigiscam.EvidenceVault.Processes
import Vigiscam.PartnerIntelligence.EvidenceExport

/-!
# Bundles and their checksums

A bundle has a checksum so that whoever gets the bundle can check it: by the text of its
events for a partner's bundle, by the text of the manifest for a user's. The text that is
hashed has the keys in the order of the code, and the JSON column gives them back in its
own. So the text that a reader hashes is never the one that was hashed
(`checksum_never_verifies`).
-/

namespace PartnerIntelligence

open Js Value Concurrency EvidenceVault EvidenceVault.Files

/-! ## What a reader hashes -/

/-- What the checksum of a bundle is documented to be over, in what `getBundle` returns: the
events of a partner's bundle, and the whole manifest of a user's. -/
def content (record : EvidenceExportBundle) (bundle : Value) : Value :=
  match record.requestedByKeyId with
  | none => bundle
  | some _ => bundle.getOpt "events"

/-- The checksum over a content. -/
def checksumOver (platform : Platform) (record : EvidenceExportBundle) (content : Value) : Text :=
  match record.requestedByKeyId with
  | none => platform.sha256 (jsonStringify content)
  | some _ => eventsChecksum platform content

/-- A bundle was made from a content: the checksum is over this content, and the column has
its JSONB form. -/
structure MadeFrom (platform : Platform) (original : Value) (record : EvidenceExportBundle) :
    Prop where
  content : content record record.bundle = jsonb original
  checksum : record.checksum = checksumOver platform record original

/-- There is something to check: the text of no events at all is that of an empty array, before
the column and after it. -/
def HasContent (record : EvidenceExportBundle) : Prop :=
  record.requestedByKeyId ≠ none → record.recordCount ≠ 0

/-- What `getBundle` returns of a row, to a user or to a partner. -/
inductive Returned (s : Files.Store) : EvidenceExportBundle → Value → Prop
  | user {user : AuthenticatedUser} {id : Uuid} {record : EvidenceExportBundle} {s' : Files.Store} :
      (Files.getBundle user id).run s = (.ok record, s') → Returned s record record.bundle
  | partner {tenantId id : Uuid} {record : EvidenceExportBundle} {bundle : Value}
      {s' : Files.Store} :
      findBundle tenantId id s = some record → (getBundle tenantId id).run s = (.ok bundle, s') →
        Returned s record bundle

/-! ## Texts part in the column -/

section Texts

variable {platform : Platform} {createdAt : Uuid → Date}

theorem plain_ofNullable (s : Option Text) : Plain (ofNullable s) := by
  cases s <;> trivial

theorem plain_read (j : Option Json) : Plain (Json.read j) := by
  cases j with
  | none => trivial
  | some j => exact j.plain

theorem plain_project (e : EvidenceEvent) : Plain (project createdAt e) :=
  ⟨trivial, trivial, plain_ofNullable _, plain_ofNullable _, trivial, trivial, trivial, trivial,
    plain_read _, plain_ofNullable _, plain_ofNullable _, trivial, trivial, trivial, trivial⟩

/-- The column puts `actorId` after `id`, where `project` has `sequence`. -/
theorem parts_project (e : EvidenceEvent) :
    Parts (project createdAt e) (jsonbOf (project createdAt e)) := by
  have hkeys : (projectFields createdAt e).map Prod.fst = [utf16 "id", utf16 "sequence",
    utf16 "actorId", utf16 "actorType", utf16 "entityType", utf16 "entityId", utf16 "eventType",
    utf16 "eventDescription", utf16 "metadata", utf16 "ipAddress", utf16 "previousHash",
    utf16 "eventHash", utf16 "occurredAt", utf16 "createdAt"] := rfl
  obtain ⟨rest, hrest⟩ := jsonbOf_object (projectFields createdAt e) (by rw [hkeys]; decide)
    (by rw [hkeys]; decide +kernel) (List.mem_cons_self ..)
    (List.mem_cons_of_mem _ (List.mem_cons_of_mem _ (List.mem_cons_self ..)))
  rw [project, hrest]
  exact parts_of_keys (by decide)

/-- The column puts `eventHash` after `id`, where the manifest has `eventType`. -/
theorem parts_manifest (event : EvidenceEvent) (files : List EvidenceFile) (now : Date)
    (requestedByUserId : Uuid) :
    Parts (readBack (manifest event files now requestedByUserId))
      (jsonb (manifest event files now requestedByUserId)) := by
  let eventFields : List (Text × Value) :=
    [("id", string event.id), ("eventType", string event.eventType),
      ("occurredAt", string event.occurredAt.toISOString), ("eventHash", string event.eventHash)]
  let fields : List (Text × Value) := [("kind", string "VIGISCAM_EVIDENCE_BUNDLE"),
    ("event", object eventFields), ("files", array (storedItems (files.map manifestFile))),
    ("generatedAt", string now.toISOString), ("requestedByUserId", string requestedByUserId)]
  have hread : readBack (manifest event files now requestedByUserId) = object fields := rfl
  have heventKeys : eventFields.map Prod.fst =
    [utf16 "id", utf16 "eventType", utf16 "occurredAt", utf16 "eventHash"] := rfl
  have hkeys : fields.map Prod.fst = [utf16 "kind", utf16 "event", utf16 "files",
    utf16 "generatedAt", utf16 "requestedByUserId"] := rfl
  obtain ⟨rest, hrest⟩ := jsonbOf_object fields (by rw [hkeys]; decide)
    (by rw [hkeys]; decide +kernel) (List.mem_cons_self ..)
    (List.mem_cons_of_mem _ (List.mem_cons_self ..))
  obtain ⟨eventRest, heventRest⟩ := jsonbOf_object eventFields
    (by rw [heventKeys]; decide) (by rw [heventKeys]; decide +kernel) (List.mem_cons_self ..)
    (List.mem_cons_of_mem _ (List.mem_cons_of_mem _ (List.mem_cons_of_mem _
      (List.mem_cons_self ..))))
  rw [jsonb, hread, hrest, heventRest]
  -- `event` and `files` change places, and so do the fields of the event: one of them suffices
  exact (parts_of_keys (by decide)).second

/-- The events of a bundle come back in their JSONB form. -/
theorem events_payload (platform : Platform) (tenantId : Uuid) (dto : CreateExportRequestDto)
    (events : List Value) (now : Date) (bundleId : Uuid) :
    (jsonb (payload platform tenantId dto events now bundleId)).getOpt "events"
      = jsonb (array events) := by
  let fields : List (Text × Value) :=
    [("bundleId", string bundleId), ("tenantId", string tenantId),
      ("generatedAt", string now.toISOString), ("filters", readBack dto.value),
      ("recordCount", number (.ofInt events.length)),
      ("checksum", string (eventsChecksum platform (array events))),
      ("events", array (storedItems events))]
  have hread : readBack (payload platform tenantId dto events now bundleId) = object fields := rfl
  have hnd : (fields.map Prod.fst).Nodup := by
    show List.Nodup [utf16 "bundleId", utf16 "tenantId", utf16 "generatedAt", utf16 "filters",
      utf16 "recordCount", utf16 "checksum", utf16 "events"]
    decide
  have hevents : (utf16 "events", array (storedItems events)) ∈ fields := by
    simp [fields]
  rw [jsonb, hread, getOpt_jsonbOf hnd hevents]
  rfl

/-- The text of the events changes in the column, where there are some. -/
theorem text_events_ne {rows : List EvidenceEvent} (h : rows ≠ []) :
    jsonStringify (array (rows.map (project createdAt)))
      ≠ jsonStringify (jsonb (array (rows.map (project createdAt)))) := by
  obtain ⟨e, rest, rfl⟩ := List.exists_cons_of_ne_nil h
  have hread : readBack (array ((e :: rest).map (project createdAt)))
      = array (project createdAt e :: storedItems (rest.map (project createdAt))) := by
    show array (storedItems (project createdAt e :: rest.map (project createdAt))) = _
    rw [storedItems_cons, readBack_plain (plain_project e)]
  rw [jsonStringify_jsonb, jsonStringify, jsonb, hread]
  exact (parts_project e).first.ne

/-! ## Rows of bundles -/

/-- A bundle was made from a content whose text is another one in the column. -/
def Made (platform : Platform) (record : EvidenceExportBundle) : Prop :=
  ∃ original, MadeFrom platform original record ∧ (HasContent record →
    jsonStringify original ≠ jsonStringify (content record record.bundle))

theorem made_manifestRow (event : EvidenceEvent) (files : List EvidenceFile) (now : Date)
    (tenantId requestedByUserId id : Uuid) :
    Made platform (manifestRow platform event files now tenantId requestedByUserId id) := by
  refine ⟨manifest event files now requestedByUserId, ⟨rfl, rfl⟩, fun _ => ?_⟩
  show jsonStringify _ ≠ jsonStringify (jsonb _)
  rw [jsonStringify_jsonb]
  exact (parts_manifest event files now requestedByUserId).ne

theorem made_exportRow (partner : PartnerPrincipal) (dto : CreateExportRequestDto)
    (rows : List EvidenceEvent) (now : Date) (id : Uuid) :
    Made platform (exportRow platform partner dto (rows.map (project createdAt)) now id) := by
  have hcontent := events_payload platform partner.tenantId dto
    (rows.map (project createdAt)) now id
  refine ⟨array (rows.map (project createdAt)), ⟨hcontent, rfl⟩, fun hsome => ?_⟩
  have hrows : rows ≠ [] := by
    rintro rfl
    exact hsome nofun rfl
  show jsonStringify _ ≠ jsonStringify ((jsonb _).getOpt "events")
  rw [hcontent]
  exact text_events_ne hrows

end Texts

/-! ## Every run -/

/-- What runs beside each other: exports of partners, and the processes of the vault. -/
inductive Exporting where
  | partner (partner : PartnerPrincipal) (dto : CreateExportRequestDto)
  | vault (process : Process)

section Runs

variable {platform : Platform} {createdAt : Uuid → Date}

def Exporting.program (platform : Platform) (createdAt : Uuid → Date) : Exporting → Program Unit
  | partner p dto => (fun _ => ()) <$> generateBundle platform createdAt p dto
  | vault process => process.program platform

/-- Exports at their start. -/
def exports {ι : Type} (platform : Platform) (createdAt : Uuid → Date) (process : ι → Exporting)
    (s : Files.Store) : Pool ι Files.Store (Program Unit) where
  shared := s
  locals i := (process i).program platform createdAt

/-- Only bundles that were made so are added. -/
def AddsMade (platform : Platform) (s t : Files.Store) : Prop :=
  ∀ record ∈ t.bundles, record ∈ s.bundles ∨ Made platform record

theorem closed_addsMade : Closed (AddsMade platform) where
  refl _ _ h := Or.inl h
  trans hst htu record h := (htu record h).elim (hst record) Or.inr

theorem addsMade_append {s t : Files.Store} {record : EvidenceExportBundle}
    (ht : t.bundles = s.bundles ++ [record]) (h : Made platform record) :
    AddsMade platform s t := by
  intro b hb
  rw [ht] at hb
  rcases List.mem_append.mp hb with hb | hb
  · exact Or.inl hb
  · rw [List.mem_singleton.mp hb]
    exact Or.inr h

theorem rules_addsMade : AllRules platform (AddsMade platform) where
  refl := closed_addsMade.refl
  clock _ _ _ h := Or.inl h
  event _ _ _ h := Or.inl h
  hold _ _ _ _ h := Or.inl h
  bundle _ _ _ _ _ _ := addsMade_append rfl (made_manifestRow ..)
  job _ _ _ h := Or.inl h
  bytes _ _ _ _ h := Or.inl h
  file _ _ _ h := Or.inl h

theorem steps_generateBundle (partner : PartnerPrincipal) (dto : CreateExportRequestDto) :
    Steps (AddsMade platform) (generateBundle platform createdAt partner dto) := by
  have hR := (@rules_addsMade platform).toRules
  unfold generateBundle
  cases dto.selects platform with
  | none => trivial
  | some selects =>
    refine Prog.Each.bind (hR.steps_read _) fun rows => ?_
    refine Prog.Each.bind (hR.steps_read _) fun now => ?_
    refine Prog.Each.bind (steps_createBundle hR.refl fun s => ?_) fun bundle => ?_
    · exact addsMade_append rfl (made_exportRow partner dto rows now _)
    · exact Prog.Each.bind (hR.steps_append _) fun _ => Prog.Each.pure _

theorem steps_exporting (process : Exporting) :
    Steps (AddsMade platform) (process.program platform createdAt) := by
  cases process with
  | partner p dto => exact (steps_generateBundle p dto).map _
  | vault process => exact rules_addsMade.steps_process process

/-- What is returned is in the table, as it is there. -/
theorem mem_of_returned {s : Files.Store} {record : EvidenceExportBundle} {bundle : Value}
    (h : Returned s record bundle) : record ∈ s.bundles ∧ bundle = record.bundle := by
  cases h with
  | @user user id _ s' hok =>
    rcases @getBundle_outcome user s id with ⟨e, he⟩ | ⟨found, hfound, -, -, hrun⟩
    · rw [he] at hok
      cases hok
    · rw [hrun] at hok
      obtain rfl := Except.ok.inj (Prod.mk.inj hok).1
      exact ⟨hfound, rfl⟩
  | @partner tenantId id _ _ s' hfind hok =>
    refine ⟨List.mem_of_find?_eq_some hfind, ?_⟩
    unfold getBundle at hok
    rw [Prog.run_bind, run_read, Prog.andThen_ok, hfind] at hok
    dsimp only at hok
    rw [Prog.run_bind, run_read, Prog.andThen_ok] at hok
    split at hok
    · cases hok
    · exact (Except.ok.inj (Prod.mk.inj hok).1).symm

/-- **No checksum verifies**: what a reader hashes of a bundle that has content is another
text than the one that was hashed, in every run and whatever fails. So the checksum is
another one, unless SHA-256 collides on the two. -/
theorem checksum_never_verifies {ι : Type} [DecidableEq ι] {process : ι → Exporting}
    {s₀ : Files.Store}
    {t : Pool ι Files.Store (Program Unit)} (hstart : s₀.bundles = [])
    (hrun : Pool.Run (Prog.interleaved fun _ _ => True) (exports platform createdAt process s₀) t)
    {record : EvidenceExportBundle} {bundle : Value} (hreturned : Returned t.shared record bundle)
    (hcontent : HasContent record) :
    ∃ original, MadeFrom platform original record ∧
      jsonStringify original ≠ jsonStringify (content record bundle) ∧
      (Set.InjOn platform.sha256 {jsonStringify original, jsonStringify (content record bundle)} →
        checksumOver platform record (content record bundle) ≠ record.checksum) := by
  obtain ⟨hmem, rfl⟩ := mem_of_returned hreturned
  have hadds := Run.safe closed_addsMade hrun fun i => Prog.Each.safe (steps_exporting (process i))
  have hmade : Made platform record := by
    rcases hadds record hmem with hstored | hmade
    · rw [show (exports platform createdAt process s₀).shared.bundles = [] from hstart] at hstored
      cases hstored
    · exact hmade
  obtain ⟨original, hfrom, htext⟩ := hmade
  refine ⟨original, hfrom, htext hcontent, fun hinj hsame => htext hcontent ?_⟩
  rw [hfrom.checksum] at hsame
  refine hinj (Set.mem_insert ..) (Set.mem_insert_of_mem _ rfl) ?_
  -- the user's bundles have the checksum itself, the partner's have `sha256:` before it
  unfold checksumOver at hsame
  split at hsame
  · exact hsame.symm
  · exact (List.append_cancel_left hsame).symm

end Runs

/-! ### A bundle of one event -/

/-- A partner of the tenant `a`. -/
def somePartner : PartnerPrincipal where
  keyId := "k"
  tenantId := "a"
  keyPrefix := "p"

/-- The partner exports everything. -/
def partnerExport : Exporting := .partner somePartner ⟨none, none, none, none⟩

/-- A user of the tenant asks for a bundle of the event. -/
def userExport : Exporting := .vault (.user (memberOf "a") (.requestExportBundle "e"))

/-- One process, over the event of `storeOf`; its hash keeps the text. -/
def alone (process : Exporting) : Pool Unit Files.Store (Program Unit) :=
  exports localPlatform (fun _ => someNoon) (fun _ => process) (storeOf (some "a"))

/-- The store after the process. -/
def afterAlone (process : Exporting) : Files.Store :=
  (Prog.advance 9 (alone process).shared ((alone process).locals ())).1

theorem run_alone (process : Exporting) :
    ∃ t, Pool.Run (Prog.interleaved fun _ _ => True) (alone process) t ∧
      t.shared = afterAlone process :=
  ⟨_, Prog.run_advance () 9 Pool.Run.refl (Prog.permitted_true ..), rfl⟩

/-- The partner's bundle. -/
theorem checksum_never_verifies_export :
    ∃ record bundle, Returned (afterAlone partnerExport) record bundle ∧ record.recordCount = 1 ∧
      checksumOver localPlatform record (content record bundle) ≠ record.checksum := by
  have hget : ((getBundle "a" "0").run (afterAlone partnerExport)).1.isOk = true := by
    decide +kernel
  have hfind : ((findBundle "a" "0" (afterAlone partnerExport)).map (·.recordCount)) = some 1 := by
    decide +kernel
  obtain ⟨bundle, s', hok⟩ := exists_of_isOk hget
  obtain ⟨record, hrecord, hcount⟩ := Option.map_eq_some_iff.mp hfind
  have hreturned := Returned.partner hrecord hok
  obtain ⟨t, hrun, hshared⟩ := run_alone partnerExport
  rw [← hshared] at hreturned
  obtain ⟨original, -, -, hchecksum⟩ := checksum_never_verifies rfl hrun hreturned fun _ => by
    rw [hcount]
    decide
  exact ⟨record, bundle, hshared ▸ hreturned, hcount, hchecksum fun _ _ _ _ h => h⟩

/-- The user's bundle: a reader of its manifest gets another checksum. -/
theorem manifest_checksum_differs :
    ∃ t, Pool.Run (Prog.interleaved fun _ _ => True) (alone userExport) t ∧
      ∃ record, Returned t.shared record record.bundle ∧ record.requestedByKeyId = none ∧
        localPlatform.sha256 (jsonStringify record.bundle) ≠ record.checksum := by
  have hget : ((Files.getBundle (memberOf "a") "0").run (afterAlone userExport)).1.isOk = true := by
    decide +kernel
  have hdiffers : ((afterAlone userExport).bundles.all fun b => b.requestedByKeyId = none &&
      localPlatform.sha256 (jsonStringify b.bundle) ≠ b.checksum) = true := by
    decide +kernel
  obtain ⟨record, s', hok⟩ := exists_of_isOk hget
  obtain ⟨t, hrun, hshared⟩ := run_alone userExport
  have hreturned := Returned.user hok
  have hrecord := List.all_eq_true.mp hdiffers record (mem_of_returned hreturned).1
  obtain ⟨hkey, hother⟩ := Bool.and_eq_true_iff.mp hrecord
  exact ⟨t, hrun, record, hshared ▸ hreturned, of_decide_eq_true hkey, of_decide_eq_true hother⟩

end PartnerIntelligence
