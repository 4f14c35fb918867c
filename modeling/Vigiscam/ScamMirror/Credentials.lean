import Mathlib.Data.Fin.VecNotation
import Vigiscam.Checks.Faults
import Vigiscam.Concurrency.Contract
import Vigiscam.ScamMirror.Accepted
import Vigiscam.ScamMirror.Service

/-!
# What is stored of credentials

Every text of a session, of an evidence event and of a pause is accepted by the sanitizer, in every
interleaving of the steps of any calls, where the scenario and the metadata of every `start` are
accepted (`stores_no_credentials`). The service checks the text of a turn only: a scenario with a
card number is stored (`card_stored`).
-/

namespace ScamMirror

open Js Value Concurrency EvidenceVault

/-! ## The texts of a row -/

mutual

/-- The strings in a value, and the keys of its objects. -/
def textsOf : Value → List Text
  | .string s => [s]
  | .array items => textsOfItems items
  | .object fields => textsOfFields fields
  | .toJSON own result => textsOfFields own ++ textsOf result
  | .null | .undefined | .nonFinite | .bool _ | .number _ => []

def textsOfItems : List Value → List Text
  | [] => []
  | v :: vs => textsOf v ++ textsOfItems vs

def textsOfFields : List (Text × Value) → List Text
  | [] => []
  | (key, v) :: fields => key :: textsOf v ++ textsOfFields fields

end

def Turn.texts (turn : Turn) : List Text :=
  turn.role.name :: turn.text :: turn.time :: turn.tacticsDetected.map Tactic.name

def ScamMirrorSession.texts (row : ScamMirrorSession) : List Text :=
  [row.id, row.userId, row.persona.name, row.scenario, row.status.name] ++ row.tenantId.toList
    ++ (readTurns row).flatMap Turn.texts ++ row.tacticsObserved.map Tactic.name
    ++ row.endReason.toList ++ row.guardianPauseEventId.toList ++ row.evidenceEventId.toList
    ++ textsOf row.metadata

def evidenceTexts (row : Uuid × AppendEvidenceInput) : List Text :=
  [row.1, row.2.entityType, row.2.entityId, row.2.eventType, row.2.eventDescription]
    ++ row.2.tenantId.toList ++ row.2.actorId.toList ++ row.2.actorType.toList
    ++ row.2.ipAddress.toList ++ row.2.deviceId.toList ++ textsOf row.2.metadata

def pauseTexts (row : Checks.PauseEvent) : List Text :=
  [row.id, row.userId, row.riskLevel.name, Protection.GuardianPauseStatus.name row.status,
    row.triggerType.name, row.triggerSummary] ++ row.tenantId.toList ++ row.decisionNotes.toList
    ++ row.trustedContactReviewId.toList ++ row.evidenceEventId.toList ++ textsOf row.metadata

inductive Place where
  | sessions | evidence | pauses

/-- All texts of a table. -/
def Store.texts (s : Store) : Place → List Text
  | .sessions => s.sessions.flatMap ScamMirrorSession.texts
  | .evidence => s.checks.evidence.flatMap evidenceTexts
  | .pauses => s.checks.pauses.flatMap pauseTexts

/-- What is in the tables now and was not before is accepted. -/
def Clean (s t : Store) : Prop :=
  ∀ place, ∀ text ∈ t.texts place, text ∈ s.texts place ∨ Accepted text

theorem closed_clean : Closed Clean where
  refl _ := fun _ _ h => Or.inl h
  trans h h' place text ht := by
    rcases h' place text ht with hs | haccepted
    · exact h place text hs
    · exact Or.inr haccepted

section Rows

variable {ρ : Type} {texts : ρ → List Text} {rows : List ρ} {new : ρ} {f : ρ → ρ}

theorem texts_append (hnew : ∀ text ∈ texts new, Accepted text) :
    ∀ text ∈ (rows ++ [new]).flatMap texts, text ∈ rows.flatMap texts ∨ Accepted text := by
  intro text htext
  rw [List.flatMap_append, List.mem_append] at htext
  rcases htext with hold | hadded
  · exact Or.inl hold
  · rw [List.flatMap_singleton] at hadded
    exact Or.inr (hnew text hadded)

theorem texts_modify {key : ρ → Uuid} {id : Uuid}
    (hf : ∀ row ∈ rows, ∀ text ∈ texts (f row), text ∈ texts row ∨ Accepted text) :
    ∀ text ∈ (Table.modify key id f rows).flatMap texts,
      text ∈ rows.flatMap texts ∨ Accepted text := by
  intro text htext
  obtain ⟨row', hrow', htext⟩ := List.mem_flatMap.mp htext
  obtain ⟨row, hrow, rfl⟩ := Table.mem_modify.mp hrow'
  by_cases hid : key row = id
  · rw [if_pos hid] at htext
    rcases hf row hrow text htext with hold | haccepted
    · exact Or.inl (List.mem_flatMap.mpr ⟨row, hrow, hold⟩)
    · exact Or.inr haccepted
  · rw [if_neg hid] at htext
    exact Or.inl (List.mem_flatMap.mpr ⟨row, hrow, htext⟩)

end Rows

/-! ## What a program writes -/

/-- The id that is given out next. -/
def Store.nextId (s : Store) : Uuid := s.checks.uuid s.checks.issued

/-- A step that may give out an id gives out one that is accepted. -/
def IdAccepted (_ : DbStep) (s : Store) : Prop := Accepted s.nextId

instance (l : DbStep) (s : Store) : Decidable (IdAccepted l s) :=
  inferInstanceAs (Decidable (sanitize _ = _))

/-- Nothing is relied on, and nothing guaranteed, beyond the invariant. -/
def writer : Contract Store DbStep where
  may := IdAccepted
  rely _ _ := True
  guar _ _ := True

theorem closed_true {σ : Type} : Closed fun _ _ : σ => True :=
  ⟨fun _ => trivial, fun _ _ => trivial⟩

section Writes

variable {α β : Type} {s₀ : Store} {Q : α → Prop} {R : β → Prop}

/-- From any state that is clean the program writes accepted texts only, and what it returns has
`Q`. -/
def Writes (s₀ : Store) (Q : α → Prop) (p : Program α) : Prop :=
  ∀ s, p.Ensures (Clean s₀) writer (fun a _ => Q a) s

theorem writes_pure {a : α} (h : Q a) : Writes s₀ Q (Pure.pure a) := fun _ _ _ => h

theorem writes_throw (e : HttpError) : Writes s₀ Q (MonadExcept.throw e) := fun _ => trivial

theorem Writes.bind {p : Program α} {k : α → Program β} (hp : Writes s₀ Q p)
    (hk : ∀ a, Q a → Writes s₀ R (k a)) : Writes s₀ R (p >>= k) :=
  fun s => Prog.Ensures.bind closed_true (hp s) fun a t ha => hk a ha t

theorem Writes.mono {P : α → Prop} {p : Program α} (hp : Writes s₀ Q p) (h : ∀ a, Q a → P a) :
    Writes s₀ P p :=
  fun s => (hp s).mono fun a _ => h a

theorem writes_act {l : DbStep} {e : HttpError} {f : Store → α × Store}
    (h : ∀ s, Clean s₀ s → Accepted s.nextId → Clean s (f s).2 ∧ Q (f s).1) :
    Writes s₀ Q (Prog.act l e f) := by
  intro s t _ ht
  refine ⟨fun hmay => ?_, trivial⟩
  obtain ⟨hclean, hvalue⟩ := h t ht hmay
  exact ⟨⟨closed_clean.trans ht hclean, trivial⟩, fun _ _ => hvalue⟩

theorem writes_attempt {l : DbStep} {e : HttpError} {f : Store → Option (α × Store)}
    (h : ∀ s a t, Clean s₀ s → f s = some (a, t) → Clean s t ∧ Q a) :
    Writes s₀ Q (Prog.attempt l e f) := by
  intro s t _ ht
  refine ⟨fun _ => ?_, trivial⟩
  show Prog.Within (Clean s₀) writer t (((f t).map (·.2)).getD t) ∧
    Prog.Ensures (Clean s₀) writer (fun a _ => Q a)
      (((f t).map fun r => Prog.pure r.1).getD (Prog.throw e)) (((f t).map (·.2)).getD t)
  cases hf : f t with
  | none => exact ⟨⟨ht, trivial⟩, trivial⟩
  | some r =>
    obtain ⟨hclean, hvalue⟩ := h t r.1 r.2 ht hf
    exact ⟨⟨closed_clean.trans ht hclean, trivial⟩, fun _ _ => hvalue⟩

/-- Steps that write no text of a session, of an evidence event or of a pause. -/
theorem writes_each {p : Program α}
    (h : p.Each fun _ s t => ∀ place, t.texts place = s.texts place) :
    Writes s₀ (fun _ => True) p := by
  intro s
  refine Prog.Ensures.each_within (R := fun _ _ => True) closed_true (fun _ _ _ => trivial) ?_
    fun _ _ _ => trivial
  refine h.mono fun l s t hsame hs => ⟨⟨?_, trivial⟩, trivial⟩
  intro place text htext
  exact hs place text (hsame place ▸ htext)

end Writes

/-! ## Texts of the service -/

/-- The texts that the service has ready are accepted. -/
structure ReadyTexts : Prop where
  persona : ∀ persona : ScamMirrorPersona, Accepted persona.name
  status : ∀ status : ScamMirrorStatus, Accepted status.name
  role : ∀ role : TurnRole, Accepted role.name
  reason : ∀ reason : SanitizerReason, Accepted reason.name
  tactic : ∀ tactic : Tactic, Accepted tactic.name
  eventType : ∀ status : ScamMirrorStatus, Accepted (utf16 "SCAMMIRROR_" ++ status.name)
  endReason : ∀ learned, Accepted (endReasonOf learned)
  abortReason : ∀ reason : SanitizerReason,
    Accepted (utf16 "Sanitizer rejected input — " ++ reason.name)
  aborted : ∀ reason : SanitizerReason,
    Accepted (utf16 "ScamMirror aborted — real " ++ reason.name ++ utf16 " detected in input")
  ended : ∀ (persona : ScamMirrorPersona) (learned : Bool), Accepted (utf16 "ScamMirror "
    ++ persona.name ++ utf16 " session " ++ lowerAscii (endStatus learned).name)
  actorType : Accepted (utf16 "USER")
  entityTypes : Accepted (utf16 "SCAMMIRROR_SESSION") ∧ Accepted (utf16 "GUARDIAN_PAUSE")
  abortedKeys : Accepted (utf16 "reason") ∧ Accepted (utf16 "persona")
  endedKeys : Accepted (utf16 "tacticsObserved") ∧ Accepted (utf16 "turnCount")
  pause : ∀ text ∈ [Protection.RiskLevel.name .high, Protection.GuardianPauseStatus.name .active,
    Checks.GuardianPauseTriggerType.name .secrecy,
    utf16 "You typed a real credential into a training simulation. Take a moment.",
    utf16 "scamMirrorSessionId", utf16 "sanitizerReason"], Accepted text
  started : Accepted (utf16 "GUARDIAN_PAUSE_STARTED") ∧
    Accepted (utf16 "Pause started (trigger=SECRECY, risk=HIGH)")
  startedMetadata : ∀ text ∈ [utf16 "riskLevel", Protection.RiskLevel.name .high,
    utf16 "triggerType", Checks.GuardianPauseTriggerType.name .secrecy, utf16 "durationSeconds",
    utf16 "priorContinueCount"], Accepted text

theorem accepted_of_all {texts : List Text} (h : texts.all isPlain = true) :
    ∀ text ∈ texts, Accepted text :=
  fun text htext => accepted_of_isPlain (List.all_eq_true.mp h text htext)

theorem readyTexts : ReadyTexts where
  persona persona := by cases persona <;> exact accepted_of_isPlain (by decide +kernel)
  status status := by cases status <;> exact accepted_of_isPlain (by decide +kernel)
  role role := by cases role <;> exact accepted_of_isPlain (by decide +kernel)
  reason reason := by cases reason <;> exact accepted_of_isPlain (by decide +kernel)
  tactic tactic := by cases tactic <;> exact accepted_of_isPlain (by decide +kernel)
  eventType status := by cases status <;> exact accepted_of_isPlain (by decide +kernel)
  endReason learned := by cases learned <;> exact accepted_of_isPlain (by decide +kernel)
  abortReason reason := by cases reason <;> exact accepted_of_isPlain (by decide +kernel)
  aborted reason := by cases reason <;> exact accepted_of_isPlain (by decide +kernel)
  ended persona learned := by
    cases persona <;> cases learned <;> exact accepted_of_isPlain (by decide +kernel)
  actorType := accepted_of_isPlain (by decide +kernel)
  entityTypes := by constructor <;> exact accepted_of_isPlain (by decide +kernel)
  abortedKeys := by constructor <;> exact accepted_of_isPlain (by decide +kernel)
  endedKeys := by constructor <;> exact accepted_of_isPlain (by decide +kernel)
  pause := accepted_of_all (by decide +kernel)
  started := by constructor <;> exact accepted_of_isPlain (by decide +kernel)
  startedMetadata := accepted_of_all (by decide +kernel)

theorem accepted_tactics (tactics : List Tactic) :
    ∀ text ∈ tactics.map Tactic.name, Accepted text := by
  have ready := readyTexts
  intro text htext
  obtain ⟨tactic, -, rfl⟩ := List.mem_map.mp htext
  exact ready.tactic tactic

/-! ## Rows that a call writes -/

section Rows

variable {user : AuthenticatedUser} {session row : ScamMirrorSession} {now : Date} {id : Uuid}

theorem texts_closed {status : ScamMirrorStatus} {endReason : Text} (h : Accepted endReason) :
    ∀ text ∈ (row.closed status now endReason).texts, text ∈ row.texts ∨ Accepted text := by
  have ready := readyTexts
  have hstatus := ready.status status
  intro text htext
  simp only [ScamMirrorSession.texts, ScamMirrorSession.closed, readTurns, List.mem_append,
    List.mem_cons, List.not_mem_nil, Option.mem_toList, or_false] at htext ⊢
  grind

theorem texts_newTurn {existingTurns : List Turn} {dto : RecordInputDto}
    (h : sanitize dto.text = .ok) :
    ∀ text ∈ (newTurn existingTurns dto now).texts, Accepted text := by
  have ready := readyTexts
  intro text htext
  rcases List.mem_cons.mp htext with rfl | htext
  · exact ready.role _
  rcases List.mem_cons.mp htext with rfl | htext
  · exact h
  rcases List.mem_cons.mp htext with rfl | htext
  · exact accepted_toISOString now
  · exact accepted_tactics _ text htext

theorem texts_recorded {turn : Turn} (hsession : ∀ text ∈ session.texts, Accepted text)
    (hturn : ∀ text ∈ turn.texts, Accepted text) :
    ∀ text ∈ (session.recorded turn row).texts, text ∈ row.texts ∨ Accepted text := by
  have hturns : ∀ text ∈ (readTurns session ++ [turn]).flatMap Turn.texts, Accepted text := by
    intro text htext
    rw [List.flatMap_append, List.mem_append, List.flatMap_singleton] at htext
    rcases htext with hold | hnew
    · refine hsession text ?_
      simp only [ScamMirrorSession.texts, List.mem_append]
      tauto
    · exact hturn text hnew
  have htactics := accepted_tactics (session.tacticsObserved ++ turn.tacticsDetected).eraseDups
  intro text htext
  have hturns := hturns text
  have htactics := htactics text
  simp only [ScamMirrorSession.texts, ScamMirrorSession.recorded, readTurns, List.mem_append,
    Option.getD_some] at htext hturns ⊢
  tauto

theorem texts_newSession {dto : StartSessionDto} (huser : Accepted user.userId)
    (htenant : Accepted user.tenantId) (hscenario : Accepted dto.scenario)
    (hmetadata : ∀ text ∈ textsOf (readBack dto.metadata), Accepted text) (hid : Accepted id) :
    ∀ text ∈ (newSession user dto now id).texts, Accepted text := by
  have ready := readyTexts
  intro text htext
  have hpersona := ready.persona dto.persona
  have hstatus := ready.status .active
  simp only [ScamMirrorSession.texts, newSession, readTurns, List.mem_append, List.mem_cons,
    List.not_mem_nil, Option.getD_some, List.flatMap_nil, List.map_nil, Option.toList_none,
    Option.toList_some, or_false] at htext
  grind

theorem texts_userEvidence {entityType eventType eventDescription : Text} {entityId : Uuid}
    {metadata : Value} {hdistinct : metadata.Distinct} (huser : Accepted user.userId)
    (htenant : Accepted user.tenantId) (hid : Accepted id) (hentityId : Accepted entityId)
    (hentity : Accepted entityType) (hevent : Accepted eventType)
    (hdescription : Accepted eventDescription)
    (hmetadata : ∀ text ∈ textsOf metadata, Accepted text) :
    ∀ text ∈ evidenceTexts (id, Protection.userEvidence user entityType entityId eventType
      eventDescription metadata hdistinct), Accepted text := by
  have ready := readyTexts
  have hactor := ready.actorType
  intro text htext
  simp only [evidenceTexts, Protection.userEvidence, List.mem_append, List.mem_cons,
    List.not_mem_nil, Option.toList_none, Option.toList_some, or_false] at htext
  grind

theorem texts_abortedMetadata {reason : SanitizerReason} :
    ∀ text ∈ textsOf (abortedMetadata session reason), Accepted text := by
  have ready := readyTexts
  have hpersona := ready.persona session.persona
  have hreason := ready.reason reason
  obtain ⟨hkey, hkey'⟩ := ready.abortedKeys
  intro text htext
  simp only [abortedMetadata, textsOf, textsOfFields, List.mem_cons, List.not_mem_nil,
    List.cons_append, List.nil_append, or_false] at htext
  grind

theorem textsOfItems_strings (tactics : List Tactic) :
    textsOfItems (tactics.map (string ·.name)) = tactics.map Tactic.name := by
  induction tactics with
  | nil => rfl
  | cons tactic tactics ih => simp [textsOfItems, textsOf, ih]

theorem texts_endedMetadata {ended : ScamMirrorSession} :
    ∀ text ∈ textsOf (endedMetadata session ended), Accepted text := by
  have ready := readyTexts
  have hpersona := ready.persona session.persona
  have htactics := accepted_tactics ended.tacticsObserved
  have hkey := ready.abortedKeys.2
  obtain ⟨hkey', hkey''⟩ := ready.endedKeys
  intro text htext
  simp only [endedMetadata, textsOf, textsOfFields, textsOfItems_strings, List.mem_append,
    List.mem_cons, List.not_mem_nil, List.cons_append, List.nil_append, or_false] at htext
  grind

theorem texts_abortedEvidence {reason : SanitizerReason} (huser : Accepted user.userId)
    (htenant : Accepted user.tenantId) (hsession : Accepted session.id) (hid : Accepted id) :
    ∀ text ∈ evidenceTexts (id, abortedEvidence user session reason), Accepted text := by
  have ready := readyTexts
  exact texts_userEvidence huser htenant hid hsession ready.entityTypes.1
    (ready.eventType .abortedRealCreds) (ready.aborted reason) texts_abortedMetadata

theorem texts_endedEvidence {ended : ScamMirrorSession} {learned : Bool}
    (huser : Accepted user.userId) (htenant : Accepted user.tenantId)
    (hsession : Accepted session.id) (hid : Accepted id) :
    ∀ text ∈ evidenceTexts (id, endedEvidence user session ended learned), Accepted text := by
  have ready := readyTexts
  exact texts_userEvidence huser htenant hid hsession ready.entityTypes.1
    (ready.eventType (endStatus learned)) (ready.ended session.persona learned)
    texts_endedMetadata

theorem texts_abortedPause {reason : SanitizerReason} {n : Nat} (huser : Accepted user.userId)
    (htenant : Accepted user.tenantId) (hsession : Accepted session.id) (hid : Accepted id) :
    ∀ text ∈ pauseTexts (Checks.GuardianPauseService.newPause user (abortedPause session reason) n
      now id), Accepted text := by
  have ready := readyTexts
  have hpause := ready.pause
  simp only [List.forall_mem_cons] at hpause
  obtain ⟨hlevel, hstatus, htrigger, hsummary, hkey, hkey', -⟩ := hpause
  have hreason := ready.reason reason
  intro text htext
  simp only [pauseTexts, Checks.GuardianPauseService.newPause, abortedPause, textsOf,
    textsOfFields, List.mem_cons, List.not_mem_nil, List.cons_append, List.nil_append,
    Option.toList_none, Option.toList_some, or_false] at htext
  rcases htext with rfl | rfl | rfl | rfl | rfl | rfl | rfl | rfl | rfl | rfl | rfl
  · exact hid
  · exact huser
  · exact hlevel
  · exact hstatus
  · exact htrigger
  · exact hsummary
  · exact htenant
  · exact hkey
  · exact hsession
  · exact hkey'
  · exact hreason

theorem texts_startedEvidence {reason : SanitizerReason} {n : Nat} {pauseId : Uuid}
    (huser : Accepted user.userId) (htenant : Accepted user.tenantId) (hpause : Accepted pauseId)
    (hid : Accepted id) :
    ∀ text ∈ evidenceTexts (id, Checks.GuardianPauseService.startedEvidence user
      (abortedPause session reason) n pauseId), Accepted text := by
  have ready := readyTexts
  have hmetadata : ∀ text ∈ textsOf
      (Checks.GuardianPauseService.startedMetadata (abortedPause session reason) n),
      Accepted text := fun text htext => ready.startedMetadata text htext
  exact texts_userEvidence huser htenant hid hpause ready.entityTypes.2 ready.started.1
    ready.started.2 hmetadata

end Rows

/-! ## Calls -/

section Programs

variable {s₀ : Store} {user : AuthenticatedUser} {session : ScamMirrorSession}

/-- A change of one table. -/
theorem clean_of_sessions {s : Store} {sessions : List ScamMirrorSession}
    (h : ∀ text ∈ sessions.flatMap ScamMirrorSession.texts,
      text ∈ s.sessions.flatMap ScamMirrorSession.texts ∨ Accepted text) :
    Clean s { s with sessions } := by
  intro place text htext
  cases place with
  | sessions => exact h text htext
  | evidence | pauses => exact Or.inl htext

theorem writes_readClock : Writes s₀ (fun _ => True) readClock :=
  writes_act fun s _ _ => ⟨closed_clean.refl s, trivial⟩

theorem writes_updateSession {l : DbStep} {id : Uuid} {f : ScamMirrorSession → ScamMirrorSession}
    (hf : ∀ row, ∀ text ∈ (f row).texts, text ∈ row.texts ∨ Accepted text) :
    Writes s₀ (fun _ => True) (updateSession l id f) := by
  refine writes_attempt fun s row t _ hupdate => ⟨?_, trivial⟩
  obtain ⟨row, -, hpair⟩ := Option.map_eq_some_iff.mp hupdate
  obtain ⟨-, rfl⟩ := Prod.mk.inj hpair
  exact clean_of_sessions (texts_modify fun row _ => hf row)

theorem writes_link {id evidenceEventId : Uuid} (h : Accepted evidenceEventId) :
    Writes s₀ (fun _ => True) (updateSession (.link id) id fun row =>
      { row with evidenceEventId := some evidenceEventId }) := by
  refine writes_updateSession fun row text htext => ?_
  simp only [ScamMirrorSession.texts, readTurns, List.mem_append, Option.toList_some,
    List.mem_singleton] at htext ⊢
  grind

theorem writes_linkPause {id evidenceEventId pauseId : Uuid} (h : Accepted evidenceEventId)
    (hpause : Accepted pauseId) :
    Writes s₀ (fun _ => True) (updateSession (.link id) id fun row =>
      { row with
        evidenceEventId := some evidenceEventId
        guardianPauseEventId := some pauseId }) := by
  refine writes_updateSession fun row text htext => ?_
  simp only [ScamMirrorSession.texts, readTurns, List.mem_append, Option.toList_some,
    List.mem_singleton] at htext ⊢
  grind

theorem writes_appendEvidence {input : AppendEvidenceInput}
    (h : ∀ id, Accepted id → ∀ text ∈ evidenceTexts (id, input), Accepted text) :
    Writes s₀ Accepted (appendEvidence input) := by
  rw [appendEvidence, Checks.appendEvidence, Prog.onPart_act]
  refine writes_act fun s _ hid => ⟨?_, hid⟩
  intro place text htext
  cases place with
  | evidence => exact texts_append (h _ hid) text htext
  | sessions | pauses => exact Or.inl htext

theorem writes_start {dto : Checks.GuardianPauseService.StartPauseDto}
    (hpause : ∀ n now id, Accepted id →
      ∀ text ∈ pauseTexts (Checks.GuardianPauseService.newPause user dto n now id), Accepted text)
    (hevidence : ∀ n id pauseId, Accepted pauseId → Accepted id →
      ∀ text ∈ evidenceTexts (id, Checks.GuardianPauseService.startedEvidence user dto n pauseId),
        Accepted text) :
    Writes s₀ (fun pause => Accepted pause.id)
      ((Checks.GuardianPauseService.start user dto).onPart checksPart .checks) := by
  unfold Checks.GuardianPauseService.start
  rw [Prog.onPart_bind, Checks.countPauses, Prog.onPart_act]
  refine Writes.bind (Q := fun _ => True)
    (writes_act fun s _ _ => ⟨closed_clean.refl s, trivial⟩) fun n _ => ?_
  rw [Prog.onPart_bind, Checks.createPause, Prog.onPart_act]
  refine Writes.bind (Q := fun pause => Accepted pause.id)
    (writes_act fun s _ hid => ⟨?_, hid⟩) fun created hcreated => ?_
  · intro place text htext
    cases place with
    | pauses => exact texts_append (hpause n _ _ hid) text htext
    | sessions | evidence => exact Or.inl htext
  rw [Prog.onPart_bind]
  refine Writes.bind (writes_appendEvidence fun id hid => hevidence n id created.id hcreated hid)
    fun evidenceEventId hid => ?_
  rw [Checks.updatePause, Prog.onPart_attempt]
  refine writes_attempt fun s pause t _ hupdate => ?_
  obtain ⟨⟨pause', checks⟩, hfound, hpair⟩ := Option.map_eq_some_iff.mp hupdate
  obtain ⟨row, hrow, hpair'⟩ := Option.map_eq_some_iff.mp hfound
  obtain ⟨rfl, rfl⟩ := Prod.mk.inj hpair'
  obtain ⟨rfl, rfl⟩ := Prod.mk.inj hpair
  constructor
  · intro place text htext
    cases place with
    | sessions | evidence => exact Or.inl htext
    | pauses =>
      refine texts_modify (fun row _ text htext => ?_) text htext
      simp only [pauseTexts, Checks.PauseEvent.withEvidence, List.mem_append, Option.toList_some,
        List.mem_singleton] at htext ⊢
      grind
  · show Accepted row.id
    rw [Table.key_of_find hrow]
    exact hcreated

/-- What a session in the table says is accepted, where all of them were. -/
def AllAccepted (row : ScamMirrorSession) : Prop := ∀ text ∈ row.texts, Accepted text

theorem AllAccepted.id (h : AllAccepted session) : Accepted session.id :=
  h session.id (by simp [ScamMirrorSession.texts])

theorem writes_requireActiveSession {sessionId : Uuid}
    (hsessions : ∀ text ∈ s₀.texts .sessions, Accepted text) :
    Writes s₀ AllAccepted (requireActiveSession user sessionId) := by
  refine Writes.bind (Q := fun found => ∀ row, found = some row → AllAccepted row)
    (writes_act fun s hs _ => ⟨closed_clean.refl s, ?_⟩) fun found hfound => ?_
  · intro row hrow text htext
    have hmem : text ∈ s.texts .sessions :=
      List.mem_flatMap.mpr ⟨row, List.mem_of_find?_eq_some hrow, htext⟩
    exact (hs .sessions text hmem).elim (hsessions text) id
  · cases found with
    | none => exact writes_throw _
    | some session =>
      dsimp only
      split
      · exact writes_throw _
      · exact writes_pure (hfound session rfl)

/-- A program on the fraud graph writes none of these tables. -/
theorem each_graph {α : Type} (p : FraudGraph.Program α) :
    ((p.onPart Checks.graphPart Checks.DbStep.graph).onPart checksPart DbStep.checks).Each
      fun _ s t => ∀ place, t.texts place = s.texts place := by
  refine (Prog.each_onPart p).onPart.mono ?_
  rintro _ s t ⟨_, -, ⟨-, hgraph⟩, hchecks⟩ place
  rw [hchecks, hgraph]
  cases place <;> rfl

theorem writes_projectTactics {toLowerCase : Text → Text} (tactics : List Tactic) :
    Writes s₀ (fun _ => True) (projectTactics toLowerCase tactics) := by
  induction tactics with
  | nil => exact writes_pure trivial
  | cons tactic tactics ih =>
    refine Writes.bind (Q := fun _ => True) (writes_each ?_) fun _ _ => ih
    refine Prog.Each.tryCatch ?_ fun _ => Prog.Each.pure _
    exact (each_graph _).bind fun _ => Prog.Each.pure _

section Users

variable (huser : Accepted user.userId) (htenant : Accepted user.tenantId)
include huser htenant

theorem writes_abortForRealCreds {reason : SanitizerReason} (hsession : AllAccepted session) :
    Writes s₀ (fun _ => True) (abortForRealCreds user session reason) := by
  have ready := readyTexts
  have hreason := ready.abortReason reason
  refine writes_readClock.bind fun now _ => ?_
  refine (writes_updateSession fun row => texts_closed hreason).bind fun aborted _ => ?_
  refine (writes_appendEvidence fun id hid =>
    texts_abortedEvidence huser htenant hsession.id hid).bind fun evidenceEventId hid => ?_
  refine (writes_start (fun n now id hid => texts_abortedPause huser htenant hsession.id hid)
    fun n id pauseId hpause hid => texts_startedEvidence huser htenant hpause hid).bind
      fun pause hpause => ?_
  exact writes_linkPause hid hpause

theorem writes_recordInput {sessionId : Uuid} {dto : RecordInputDto}
    (hsessions : ∀ text ∈ s₀.texts .sessions, Accepted text) :
    Writes s₀ (fun _ => True) (recordInput user sessionId dto) := by
  refine (writes_requireActiveSession hsessions).bind fun session hsession => ?_
  split
  · exact writes_abortForRealCreds huser htenant hsession
  · next hok =>
    refine writes_readClock.bind fun now _ => ?_
    exact writes_updateSession fun row => texts_recorded hsession (texts_newTurn hok)

theorem writes_endSession {toLowerCase : Text → Text} {sessionId : Uuid} {learned : Bool}
    (hsessions : ∀ text ∈ s₀.texts .sessions, Accepted text) :
    Writes s₀ (fun _ => True) (endSession toLowerCase user sessionId learned) := by
  have ready := readyTexts
  have hreason := ready.endReason learned
  refine (writes_requireActiveSession hsessions).bind fun session hsession => ?_
  refine writes_readClock.bind fun now _ => ?_
  refine (writes_updateSession fun row => texts_closed hreason).bind fun ended _ => ?_
  refine (writes_appendEvidence fun id hid =>
    texts_endedEvidence huser htenant hsession.id hid).bind fun evidenceEventId hid => ?_
  dsimp only
  split
  · exact (writes_projectTactics _).bind fun _ _ => writes_link hid
  · exact writes_link hid

end Users

end Programs

/-! ## Runs -/

inductive Call where
  | start (user : AuthenticatedUser) (dto : StartSessionDto)
  | recordInput (user : AuthenticatedUser) (sessionId : Uuid) (dto : RecordInputDto)
  | endSession (user : AuthenticatedUser) (sessionId : Uuid) (learned : Bool)

def Call.program (toLowerCase : Text → Text) : Call → Program ScamMirrorSession
  | .start user dto => ScamMirror.start user dto
  | .recordInput user sessionId dto => ScamMirror.recordInput user sessionId dto
  | .endSession user sessionId learned => ScamMirror.endSession toLowerCase user sessionId learned

def Call.user : Call → AuthenticatedUser
  | .start user _ | .recordInput user _ _ | .endSession user _ _ => user

/-- The scenario and the metadata of a `start` are accepted, and the ids of the caller. -/
def Call.Accepted (call : Call) : Prop :=
  ScamMirror.Accepted call.user.userId ∧ ScamMirror.Accepted call.user.tenantId ∧
    match call with
    | .start _ dto => ScamMirror.Accepted dto.scenario ∧
        ∀ text ∈ textsOf (readBack dto.metadata), ScamMirror.Accepted text
    | .recordInput _ _ _ | .endSession _ _ _ => True

instance : (call : Call) → Decidable call.Accepted
  | .start _ _ | .recordInput _ _ _ | .endSession _ _ _ => inferInstanceAs (Decidable (_ ∧ _ ∧ _))

/-- Calls at their start. -/
def calling {ι : Type} (toLowerCase : Text → Text) (call : ι → Call) (s : Store) :
    Pool ι Store (Program ScamMirrorSession) where
  shared := s
  locals i := (call i).program toLowerCase

theorem writes_call {s₀ : Store} {toLowerCase : Text → Text} {call : Call}
    (h : call.Accepted) (hsessions : ∀ text ∈ s₀.texts .sessions, ScamMirror.Accepted text) :
    Writes s₀ (fun _ => True) (call.program toLowerCase) := by
  obtain ⟨huser, htenant, hrest⟩ := h
  cases call with
  | recordInput user sessionId dto => exact writes_recordInput huser htenant hsessions
  | endSession user sessionId learned => exact writes_endSession huser htenant hsessions
  | start user dto =>
    obtain ⟨hscenario, hmetadata⟩ := hrest
    refine writes_act fun s _ hid => ⟨?_, trivial⟩
    intro place text htext
    cases place with
    | sessions =>
      refine texts_append ?_ text htext
      exact texts_newSession huser htenant hscenario hmetadata hid
    | evidence | pauses => exact Or.inl htext

/-- **No credential is stored.** In every interleaving of the steps of any calls, of which any step
may fail, where every `start` has a scenario and metadata that are accepted: every text of a session
is accepted, and so is every text that has been written to an evidence event or to a pause. -/
theorem stores_no_credentials {ι : Type} [DecidableEq ι] {toLowerCase : Text → Text}
    {call : ι → Call} {s : Store} (hsessions : ∀ text ∈ s.texts .sessions, Accepted text)
    (hcalls : ∀ i, (call i).Accepted) {t : Pool ι Store (Program ScamMirrorSession)}
    (hrun : Pool.Run (Prog.interleaved IdAccepted) (calling toLowerCase call s) t) :
    (∀ text ∈ t.shared.texts .sessions, Accepted text) ∧
      ∀ place, ∀ text ∈ t.shared.texts place, text ∈ s.texts place ∨ Accepted text := by
  have hclean : Clean s t.shared :=
    (Run.ensures (c := fun _ => writer) (fun _ _ _ => True) hrun (fun _ => closed_true)
      (fun _ _ => trivial) (fun _ _ _ _ _ _ => trivial) (closed_clean.refl s)
      fun i => writes_call (hcalls i) hsessions s).1
  refine ⟨fun text htext => ?_, hclean⟩
  exact (hclean .sessions text htext).elim (hsessions text) id

/-- Of a session that is started, the texts are accepted where its scenario and its metadata are,
and only there. -/
theorem newSession_accepted_iff {user : AuthenticatedUser} {dto : StartSessionDto} {now : Date}
    {id : Uuid} (huser : Accepted user.userId) (htenant : Accepted user.tenantId)
    (hid : Accepted id) : AllAccepted (newSession user dto now id) ↔
      (Call.start user dto).Accepted := by
  constructor
  · intro h
    refine ⟨huser, htenant, h _ (by simp [ScamMirrorSession.texts, newSession]), ?_⟩
    intro text htext
    exact h text (List.mem_append_right _ htext)
  · rintro ⟨-, -, hscenario, hmetadata⟩
    exact texts_newSession huser htenant hscenario hmetadata hid

/-! ## A training session -/

def trainee : AuthenticatedUser := ⟨"trainee", "tenant", .individual⟩

def trainingStore : Store := { sessions := [], checks := Checks.emptyStore }

/-- A session, a turn of it, and its end. -/
def trainingCalls : Fin 3 → Call :=
  ![.start trainee ⟨.bankImpersonation, "My bank calls about a transfer", .undefined⟩,
    .recordInput trainee [] ⟨.scammer, "Act fast!"⟩, .endSession trainee [] true]

def trainingOrder : List (Fin 3 × Nat) := (List.finRange 3).zip [1, 3, 7]

theorem stores_no_credentials_training :
    (Prog.turns (calling lowerAscii trainingCalls trainingStore) trainingOrder).shared.sessions.map
        (fun row => (row.status, (readTurns row).map Turn.turn)) = [(.endedLearned, [1])] ∧
      ∀ text ∈ (Prog.turns (calling lowerAscii trainingCalls trainingStore)
        trainingOrder).shared.texts .sessions, Accepted text := by
  refine ⟨by decide +kernel, (stores_no_credentials (s := trainingStore) (fun _ h => nomatch h)
    (by decide +kernel) (Prog.run_turns .refl (by decide +kernel))).1⟩

/-- The scenario has a card number. -/
def cardCalls : Fin 2 → Call :=
  ![.start trainee ⟨.bankImpersonation, "My card 4242 4242 4242 4242 is locked", .undefined⟩,
    .endSession trainee [] true]

/-- A scenario with a card number is stored, and is still there when the session has ended. -/
theorem card_stored :
    ∃ t, Pool.Run (Prog.interleaved IdAccepted) (calling lowerAscii cardCalls trainingStore) t ∧
      t.shared.sessions.map ScamMirrorSession.status = [.endedLearned] ∧
      sanitize "My card 4242 4242 4242 4242 is locked" = .rejected .creditCard ∧
      utf16 "My card 4242 4242 4242 4242 is locked" ∈ t.shared.texts .sessions :=
  ⟨Prog.turns (calling lowerAscii cardCalls trainingStore) [(0, 1), (1, 5)],
    Prog.run_turns .refl (by decide +kernel), by decide +kernel, by decide +kernel,
    by decide +kernel⟩

end ScamMirror
