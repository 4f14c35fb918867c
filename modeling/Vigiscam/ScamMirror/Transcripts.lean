import Mathlib.Data.Fin.VecNotation
import Vigiscam.Concurrency.Contract
import Vigiscam.ScamMirror.Credentials

/-!
# Transcripts under concurrent calls

A call reads the whole transcript of its session, and writes it back with its turn. Between the two
another call may write the transcript, whose turn is then lost (`turn_lost`), or end the session,
whose transcript then still changes (`turn_after_end`). Where every write of a transcript finds the
session active with the turns that were read, and every write that closes it finds it active, all
turns are there, numbered in order, with exactly their tactics, and a closed session stays as it is
(`transcript_kept`).
-/

namespace ScamMirror

open Js Concurrency

/-! ## What is observed of a session -/

/-- The columns of a row that the calls in question are about. -/
structure Face where
  id : Uuid
  turns : Option (List Turn)
  tacticsObserved : List Tactic
  status : ScamMirrorStatus
  endedAt : Option Date

def ScamMirrorSession.face (row : ScamMirrorSession) : Face :=
  ⟨row.id, row.turns, row.tacticsObserved, row.status, row.endedAt⟩

/-- The stored turns. -/
def Face.read (face : Face) : List Turn := face.turns.getD []

def faces (s : Store) : List Face := s.sessions.map ScamMirrorSession.face

def faceOf (sid : Uuid) (s : Store) : Option Face := Table.find Face.id sid (faces s)

/-- The turns are numbered in order, each has the tactics of its text, and the tactics of the
session are those of its turns. -/
structure Tallied (face : Face) : Prop where
  numbered : face.read.map Turn.turn = List.range' 1 face.read.length
  detected : ∀ turn ∈ face.read, turn.tacticsDetected = detectTactics turn.text
  distinct : face.tacticsObserved.Nodup
  observed : ∀ tactic, tactic ∈ face.tacticsObserved ↔
    ∃ turn ∈ face.read, tactic ∈ detectTactics turn.text

/-- A closed session keeps its turns, its status and its end. -/
def Frozen (sid : Uuid) (s t : Store) : Prop :=
  ∀ face, faceOf sid s = some face → ∃ face', faceOf sid t = some face' ∧
    (face.status ≠ .active → face'.turns = face.turns ∧ face'.status = face.status ∧
      face'.endedAt = face.endedAt)

theorem closed_frozen {sid : Uuid} : Closed (Frozen sid) where
  refl _ := fun face hface => ⟨face, hface, fun _ => ⟨rfl, rfl, rfl⟩⟩
  trans h h' face hface := by
    obtain ⟨face₁, hface₁, hsame⟩ := h face hface
    obtain ⟨face₂, hface₂, hsame'⟩ := h' face₁ hface₁
    refine ⟨face₂, hface₂, fun hclosed => ?_⟩
    obtain ⟨hturns, hstatus, hended⟩ := hsame hclosed
    obtain ⟨hturns', hstatus', hended'⟩ := hsame' (hstatus ▸ hclosed)
    exact ⟨hturns'.trans hturns, hstatus'.trans hstatus, hended'.trans hended⟩

/-- A session with one turn more. -/
def Face.recorded (face : Face) (turn : Turn) : Face :=
  { face with
    turns := some (face.read ++ [turn])
    tacticsObserved := (face.tacticsObserved ++ turn.tacticsDetected).eraseDups }

/-- One turn more, of the next number. -/
theorem Tallied.recorded {face : Face} (h : Tallied face) {dto : RecordInputDto} {now : Date} :
    Tallied (face.recorded (newTurn face.read dto now)) := by
  have hread : (face.recorded (newTurn face.read dto now)).read =
      face.read ++ [newTurn face.read dto now] := rfl
  constructor
  · rw [hread, List.map_append, h.numbered, List.length_append, List.length_singleton,
      List.range'_concat]
    simp [newTurn, Nat.add_comm]
  · rw [hread]
    intro turn hturn
    rcases List.mem_append.mp hturn with hold | hnew
    · exact h.detected turn hold
    · rw [List.mem_singleton.mp hnew]
      rfl
  · exact nodup_eraseDups _
  · intro tactic
    show tactic ∈ (face.tacticsObserved ++ detectTactics dto.text).eraseDups ↔ _
    rw [List.mem_eraseDups, List.mem_append, h.observed, hread]
    constructor
    · rintro (⟨turn, hturn, htactic⟩ | htactic)
      · exact ⟨turn, List.mem_append_left _ hturn, htactic⟩
      · exact ⟨_, List.mem_append_right _ (List.mem_singleton_self _), htactic⟩
    · rintro ⟨turn, hturn, htactic⟩
      rcases List.mem_append.mp hturn with hold | hnew
      · exact Or.inl ⟨turn, hold, htactic⟩
      · rw [List.mem_singleton.mp hnew] at htactic
        exact Or.inr htactic

/-- A session that has just been started is tallied. -/
theorem tallied_newSession {user : AuthenticatedUser} {dto : StartSessionDto} {now : Date}
    {id : Uuid} : Tallied (newSession user dto now id).face where
  numbered := rfl
  detected _ h := nomatch h
  distinct := List.nodup_nil
  observed _ := ⟨fun h => (nomatch h), fun ⟨_, h, _⟩ => (nomatch h)⟩

theorem Tallied.congr {face face' : Face} (h : Tallied face) (hturns : face'.turns = face.turns)
    (htactics : face'.tacticsObserved = face.tacticsObserved) : Tallied face' := by
  have hread : face'.read = face.read := congrArg (·.getD []) hturns
  constructor
  · rw [hread]
    exact h.numbered
  · rw [hread]
    exact h.detected
  · rw [htactics]
    exact h.distinct
  · rw [hread, htactics]
    exact h.observed

/-! ## Steps -/

/-- The rows of an id are changed. -/
def Store.modify (s : Store) (id : Uuid) (f : ScamMirrorSession → ScamMirrorSession) : Store :=
  { s with sessions := Table.modify ScamMirrorSession.id id f s.sessions }

/-- What a step may find of the session: active, with the turns that its call has read; an id that
is given out is new. -/
def InTime (sid : Uuid) : DbStep → Store → Prop
  | .record id existingTurns _, s =>
    id = sid → ∀ face ∈ faceOf sid s, face.status = .active ∧ face.read = existingTurns
  | .close id, s => id = sid → ∀ face ∈ faceOf sid s, face.status = .active
  | .create, s => s.nextId ∉ s.sessions.map ScamMirrorSession.id
  | .clock, _ | .find, _ | .link _, _ | .checks _, _ => True

instance (sid : Uuid) : (l : DbStep) → (s : Store) → Decidable (InTime sid l s)
  | .record _ _ _, _ | .close _, _ => inferInstanceAs (Decidable (_ → _))
  | .create, _ => inferInstanceAs (Decidable (_ ∉ _))
  | .clock, _ | .find, _ | .link _, _ | .checks _, _ => isTrue trivial

/-- A turn that is written to the session is noted, with the process that writes it. -/
def noteTurn {ι : Type} (sid : Uuid) (i : ι) (l : DbStep) (s : Store) (history : List (ι × Turn)) :
    List (ι × Turn) :=
  match l with
  | .record id _ turn =>
    if id = sid ∧ id ∈ s.sessions.map ScamMirrorSession.id then history ++ [(i, turn)] else history
  | .clock | .find | .create | .close _ | .link _ | .checks _ => history

/-- The row of the session has the turns that were there, and then those that are noted. -/
structure Kept {ι : Type} (sid : Uuid) (turns : List Turn) (x : Store × List (ι × Turn)) :
    Prop where
  ids : ((faces x.1).map Face.id).Nodup
  row : ∃ face, faceOf sid x.1 = some face ∧ Tallied face ∧
    face.read = turns ++ x.2.map Prod.snd

/-- The others leave what a call has noted, and every step leaves a closed session as it is. -/
def recorder {ι : Type} (sid : Uuid) (i : ι) : Contract (Store × List (ι × Turn)) DbStep where
  may l x := InTime sid l x.1
  rely x y := ∀ turn, (i, turn) ∈ x.2 → (i, turn) ∈ y.2
  guar x y := Frozen sid x.1 y.1 ∧ ∀ e ∈ x.2, e ∈ y.2

section Steps

variable {ι α : Type} {sid : Uuid} {turns : List Turn} {i : ι} {x y : Store × List (ι × Turn)}
  {s t : Store}

theorem closed_recorder : Closed (recorder (ι := ι) sid i).rely where
  refl _ := fun _ h => h
  trans h h' := fun turn hturn => h' turn (h turn hturn)

theorem faces_modify {id : Uuid} {f : ScamMirrorSession → ScamMirrorSession} {g : Face → Face}
    (h : ∀ row, (f row).face = g row.face) :
    faces (s.modify id f) = Table.modify Face.id id g (faces s) := by
  show (s.sessions.map _).map _ = (s.sessions.map _).map _
  rw [List.map_map, List.map_map]
  refine List.map_congr_left fun row _ => ?_
  show (if row.id = id then f row else row).face = if row.id = id then g row.face else row.face
  split
  · exact h row
  · rfl

/-- A step that leaves the faces alone, and writes no turn. -/
def Quiet (l : DbStep) (s t : Store) : Prop :=
  (∀ id existingTurns turn, l ≠ .record id existingTurns turn) ∧ faces t = faces s

theorem frozen_of_faces (h : faces t = faces s) : Frozen sid s t := by
  intro face hface
  refine ⟨face, ?_, fun _ => ⟨rfl, rfl, rfl⟩⟩
  rw [faceOf, h]
  exact hface

theorem within_of_faces (hx : Kept sid turns x) (h : faces t = faces x.1) :
    Prog.Within (Kept sid turns) (recorder sid i) x (t, x.2) := by
  refine ⟨⟨?_, ?_⟩, frozen_of_faces h, fun _ he => he⟩
  · rw [h]
    exact hx.ids
  · rw [faceOf, h]
    exact hx.row

theorem quiet_noting {p : Program α} (hp : p.Each Quiet) :
    (p.noting (noteTurn sid i)).Each fun _ x y => Kept sid turns x →
      Prog.Within (Kept sid turns) (recorder sid i) x y ∧ (recorder sid i).rely x y := by
  refine (hp.noting (noteTurn sid i)).mono ?_
  rintro l y ⟨t, history⟩ ⟨⟨hl, hfaces⟩, hnote⟩ hy
  have hsame : history = y.2 := by
    refine hnote.trans ?_
    cases l with
    | record id existingTurns turn => exact absurd rfl (hl id existingTurns turn)
    | clock | find | create | close _ | link _ | checks _ => rfl
  subst hsame
  exact ⟨within_of_faces hy hfaces, fun _ h => h⟩

theorem quiet_ensures {p : Program α} {post : α → Store × List (ι × Turn) → Prop}
    (hp : p.Each Quiet) (hpost : ∀ a y, post a y) :
    (p.noting (noteTurn sid i)).Ensures (Kept sid turns) (recorder sid i) post x :=
  Prog.Ensures.each closed_recorder (quiet_noting hp) fun a y _ => hpost a y

/-- A step that changes the row of one session. -/
theorem within_modify {id : Uuid} {g : Face → Face} {history : List (ι × Turn)}
    (hx : Kept sid turns x) (hg : ∀ face, (g face).id = face.id)
    (hfaces : faces t = Table.modify Face.id id g (faces x.1))
    (hself : id = sid → ∀ face, faceOf sid x.1 = some face → face.status = .active ∧
      (Tallied face → face.read = turns ++ x.2.map Prod.snd →
        Tallied (g face) ∧ (g face).read = turns ++ history.map Prod.snd))
    (hother : id ≠ sid → history = x.2) (hmore : ∀ e ∈ x.2, e ∈ history) :
    Prog.Within (Kept sid turns) (recorder sid i) x (t, history) := by
  obtain ⟨face, hface, htallied, hread⟩ := hx.row
  have hids : ((faces t).map Face.id).Nodup := by
    rw [hfaces, Table.map_modify hg]
    exact hx.ids
  by_cases hid : id = sid
  · subst hid
    obtain ⟨hactive, hrecorded⟩ := hself rfl face hface
    have hnew : faceOf id t = some (g face) := by
      rw [faceOf, hfaces, Table.find_modify_self hg]
      exact congrArg (Option.map g) hface
    refine ⟨⟨hids, g face, hnew, hrecorded htallied hread⟩, ?_, hmore⟩
    intro face' hface'
    obtain rfl := Option.some.inj (hface.symm.trans hface')
    exact ⟨g face, hnew, fun hclosed => absurd hactive hclosed⟩
  · have hsame : faceOf sid t = faceOf sid x.1 := by
      rw [faceOf, hfaces, Table.find_modify_of_ne hg (Ne.symm hid)]
      rfl
    obtain rfl := hother hid
    refine ⟨⟨hids, face, hsame.trans hface, htallied, hread⟩, ?_, hmore⟩
    intro face' hface'
    exact ⟨face', hsame.trans hface', fun _ => ⟨rfl, rfl, rfl⟩⟩

/-- A step that adds the row of another session. -/
theorem within_append (new : Face) (hx : Kept sid turns x) (hfaces : faces t = faces x.1 ++ [new])
    (hnew : new.id ∉ (faces x.1).map Face.id) :
    Prog.Within (Kept sid turns) (recorder sid i) x (t, x.2) := by
  have hfound : ∀ face, faceOf sid x.1 = some face → faceOf sid t = some face := by
    intro face hface
    rw [faceOf, hfaces]
    exact Table.find_append_of_find hface
  obtain ⟨face, hface, hrow⟩ := hx.row
  refine ⟨⟨?_, face, hfound face hface, hrow⟩, ?_, fun _ he => he⟩
  · rw [hfaces, List.map_append, List.map_singleton, ← List.concat_eq_append]
    exact hx.ids.concat hnew
  · intro face' hface'
    exact ⟨face', hfound face' hface', fun _ => ⟨rfl, rfl, rfl⟩⟩

theorem mem_ids_of_find {id : Uuid} {row : ScamMirrorSession}
    (h : Table.find ScamMirrorSession.id id s.sessions = some row) :
    id ∈ s.sessions.map ScamMirrorSession.id :=
  List.mem_map.mpr ⟨row, Table.mem_of_find h, Table.key_of_find h⟩

/-- A session is closed where it is active. -/
theorem within_close {id : Uuid} {status : ScamMirrorStatus} {now : Date} {endReason : Text}
    (hx : Kept sid turns x) (hmay : InTime sid (.close id) x.1) :
    Prog.Within (Kept sid turns) (recorder sid i) x
      (x.1.modify id (.closed status now endReason), x.2) := by
  refine within_modify (g := fun face => { face with status, endedAt := some now }) hx
    (fun _ => rfl) (faces_modify fun _ => rfl) ?_ (fun _ => rfl) fun _ he => he
  intro hid face hface
  refine ⟨hmay hid face hface, fun htallied hread => ?_⟩
  exact ⟨htallied.congr rfl rfl, hread⟩

/-- A turn is written where the session has the turns that were read. -/
theorem within_record {session row : ScamMirrorSession} {dto : RecordInputDto} {now : Date}
    (hx : Kept sid turns x) (htallied : session.id = sid → Tallied session.face)
    (hmay : InTime sid (.record session.id (readTurns session)
      (newTurn (readTurns session) dto now)) x.1)
    (hrow : Table.find ScamMirrorSession.id session.id x.1.sessions = some row) :
    Prog.Within (Kept sid turns) (recorder sid i) x
      (x.1.modify session.id (session.recorded (newTurn (readTurns session) dto now)),
        noteTurn sid i (.record session.id (readTurns session)
          (newTurn (readTurns session) dto now)) x.1 x.2) := by
  have hmem := mem_ids_of_find hrow
  refine within_modify (g := fun face => { face with
    turns := (session.face.recorded (newTurn (readTurns session) dto now)).turns
    tacticsObserved :=
      (session.face.recorded (newTurn (readTurns session) dto now)).tacticsObserved }) hx
    (fun _ => rfl) (faces_modify fun _ => rfl) ?_ (fun hid => if_neg fun h => hid h.1) ?_
  · intro hid face hface
    obtain ⟨hactive, hcurrent⟩ := hmay hid face hface
    refine ⟨hactive, fun _ hread => ⟨(htallied hid).recorded.congr rfl rfl, ?_⟩⟩
    show readTurns session ++ [_] = _
    rw [noteTurn, if_pos ⟨hid, hmem⟩, ← hcurrent, hread]
    simp
  · intro e he
    show e ∈ if _ then _ else _
    split
    · exact List.mem_append_left _ he
    · exact he

end Steps

/-! ## Programs -/

section Programs

variable {ι α : Type} {sid : Uuid} {turns : List Turn} {i : ι} {x : Store × List (ι × Turn)}
  {user : AuthenticatedUser} {session : ScamMirrorSession}

theorem quiet_readClock : readClock.Each Quiet := Prog.Each.act fun _ => ⟨nofun, rfl⟩

theorem quiet_link {id : Uuid} {f : ScamMirrorSession → ScamMirrorSession}
    (hf : ∀ row, (f row).face = row.face) : (updateSession (.link id) id f).Each Quiet := by
  refine Prog.Each.attempt (fun s row t hupdate => ?_) fun s _ => ⟨nofun, rfl⟩
  obtain ⟨row, -, hpair⟩ := Option.map_eq_some_iff.mp hupdate
  obtain ⟨-, rfl⟩ := Prod.mk.inj hpair
  refine ⟨nofun, ?_⟩
  show faces (s.modify id f) = faces s
  rw [faces, Store.modify]
  exact Table.map_modify hf

theorem quiet_onPart (p : Checks.Program α) :
    (p.onPart checksPart DbStep.checks).Each Quiet := by
  refine (Prog.each_onPart p).mono ?_
  rintro _ s t ⟨⟨l, rfl⟩, hrest⟩
  refine ⟨nofun, ?_⟩
  rw [hrest]
  rfl

theorem quiet_projectTactics (toLowerCase : Text → Text) (tactics : List Tactic) :
    (projectTactics toLowerCase tactics).Each Quiet := by
  induction tactics with
  | nil => exact Prog.Each.pure _
  | cons tactic tactics ih =>
    refine Prog.Each.bind (Prog.Each.tryCatch ?_ fun _ => Prog.Each.pure _) fun _ => ih
    exact (quiet_onPart _).bind fun _ => Prog.Each.pure _

/-- What is read of the session is tallied. -/
theorem requireActiveSession_ensures {sessionId : Uuid} :
    ((requireActiveSession user sessionId).noting (noteTurn sid i)).Ensures (Kept sid turns)
      (recorder sid i)
      (fun session _ => session.id = sessionId ∧ (sessionId = sid → Tallied session.face)) x := by
  unfold requireActiveSession
  rw [Prog.noting_bind, findFirst, Prog.noting_act]
  refine Prog.Ensures.act_bind fun y _ hy _ => ⟨within_of_faces hy rfl, ?_⟩
  dsimp only
  cases hfound : y.1.sessions.find? fun row => row.id = sessionId ∧ row.userId = user.userId with
  | none => trivial
  | some session =>
    have hid : session.id = sessionId := by
      have := List.find?_some hfound
      simp only [Bool.decide_and, Bool.and_eq_true, decide_eq_true_eq] at this
      exact this.1
    have htallied : sessionId = sid → Tallied session.face := by
      rintro rfl
      obtain ⟨face, hface, htallied, -⟩ := hy.row
      have hmem : session.face ∈ faces y.1 :=
        List.mem_map_of_mem (List.mem_of_find?_eq_some hfound)
      have hsession : faceOf sessionId y.1 = some session.face :=
        (Table.find_eq_some_iff hy.ids).mpr ⟨hmem, hid⟩
      obtain rfl := Option.some.inj (hface.symm.trans hsession)
      exact htallied
    dsimp only
    split
    · trivial
    · exact fun _ _ => ⟨hid, htallied⟩

theorem close_ensures {id : Uuid} {status : ScamMirrorStatus} {now : Date} {endReason : Text}
    {k : ScamMirrorSession → Program α} {post : α → Store × List (ι × Turn) → Prop}
    (hk : ∀ row, (k row).Each Quiet) (hpost : ∀ a y, post a y) :
    ((updateSession (.close id) id (.closed status now endReason) >>= k).noting
      (noteTurn sid i)).Ensures (Kept sid turns) (recorder sid i) post x := by
  rw [Prog.noting_bind]
  refine Prog.Ensures.noting_attempt_bind (fun y row s _ hy hmay hupdate => ?_)
    fun y _ hy _ _ => within_of_faces hy rfl
  obtain ⟨found, -, hpair⟩ := Option.map_eq_some_iff.mp hupdate
  obtain ⟨-, rfl⟩ := Prod.mk.inj hpair
  exact ⟨within_close hy hmay, quiet_ensures (hk row) hpost⟩

theorem record_ensures {sessionId : Uuid} {dto : RecordInputDto} {now : Date}
    {post : ScamMirrorSession → Store × List (ι × Turn) → Prop}
    (hid : session.id = sessionId) (htallied : sessionId = sid → Tallied session.face)
    (hpost : ∀ row y, (sessionId = sid →
      (i, newTurn (readTurns session) dto now) ∈ y.2) → post row y) :
    ((updateSession (.record session.id (readTurns session) (newTurn (readTurns session) dto now))
      session.id (session.recorded (newTurn (readTurns session) dto now))).noting
        (noteTurn sid i)).Ensures (Kept sid turns) (recorder sid i) post x := by
  subst hid
  refine Prog.Ensures.noting_attempt (fun y row s _ hy hmay hupdate => ?_)
    fun y _ hy _ hnone => ?_
  · obtain ⟨found, hrow, hpair⟩ := Option.map_eq_some_iff.mp hupdate
    obtain ⟨-, rfl⟩ := Prod.mk.inj hpair
    refine ⟨within_record hy htallied hmay hrow, fun z hyz => hpost row z fun hid => hyz _ ?_⟩
    show _ ∈ if _ then _ else _
    rw [if_pos ⟨hid, mem_ids_of_find hrow⟩]
    exact List.mem_append_right _ (List.mem_singleton_self _)
  · -- the row is gone, and nothing is written
    have hnot : session.id ∉ y.1.sessions.map ScamMirrorSession.id :=
      Table.find_eq_none_iff.mp (Option.map_eq_none_iff.mp hnone)
    have hnote : noteTurn sid i (.record session.id (readTurns session)
        (newTurn (readTurns session) dto now)) y.1 y.2 = y.2 := if_neg fun h => hnot h.2
    rw [hnote]
    exact within_of_faces hy rfl

/-- What a call has brought about when it returns. -/
def Call.Recorded {ι : Type} (sid : Uuid) (i : ι) (call : Call) (history : List (ι × Turn)) :
    Prop :=
  match call with
  | .recordInput _ sessionId dto => sessionId = sid → sanitize dto.text = .ok →
      ∃ turn, (i, turn) ∈ history ∧ turn.text = dto.text ∧ turn.role = dto.role
  | .start _ _ | .endSession _ _ _ => True

theorem recordInput_ensures {sessionId : Uuid} {dto : RecordInputDto} :
    ((recordInput user sessionId dto).noting (noteTurn sid i)).Ensures (Kept sid turns)
      (recorder sid i)
      (fun _ y => (Call.recordInput user sessionId dto).Recorded sid i y.2) x := by
  unfold recordInput
  rw [Prog.noting_bind]
  refine Prog.Ensures.bind closed_recorder requireActiveSession_ensures ?_
  rintro session y ⟨hid, htallied⟩
  split
  · next reason hrejected =>
    unfold abortForRealCreds
    rw [Prog.noting_bind]
    refine Prog.Ensures.each_bind closed_recorder (quiet_noting quiet_readClock) fun now z _ => ?_
    refine close_ensures (fun aborted => ?_) fun _ y _ hok => ?_
    · refine Prog.Each.bind (quiet_onPart _) fun _ => ?_
      exact Prog.Each.bind (quiet_onPart _) fun _ => quiet_link fun _ => rfl
    · rw [hrejected] at hok
      cases hok
  · next hok =>
    rw [Prog.noting_bind]
    refine Prog.Ensures.each_bind closed_recorder (quiet_noting quiet_readClock) fun now z _ => ?_
    refine record_ensures hid htallied fun row y hnoted => ?_
    intro hsession _
    exact ⟨_, hnoted hsession, rfl, rfl⟩

theorem endSession_ensures {toLowerCase : Text → Text} {sessionId : Uuid} {learned : Bool} :
    ((endSession toLowerCase user sessionId learned).noting (noteTurn sid i)).Ensures
      (Kept sid turns) (recorder sid i) (fun _ _ => True) x := by
  unfold endSession
  rw [Prog.noting_bind]
  refine Prog.Ensures.bind closed_recorder requireActiveSession_ensures ?_
  rintro session y -
  rw [Prog.noting_bind]
  refine Prog.Ensures.each_bind closed_recorder (quiet_noting quiet_readClock) fun now z _ => ?_
  refine close_ensures (fun ended => ?_) fun _ _ => trivial
  refine Prog.Each.bind (quiet_onPart _) fun _ => ?_
  dsimp only
  split
  · exact (quiet_projectTactics toLowerCase _).bind fun _ => quiet_link fun _ => rfl
  · exact quiet_link fun _ => rfl

/-- A session that is started is another one. -/
theorem start_ensures {dto : StartSessionDto} :
    ((start user dto).noting (noteTurn sid i)).Ensures (Kept sid turns) (recorder sid i)
      (fun _ _ => True) x := by
  rw [start, createSession, Prog.noting_act]
  refine fun y _ hy => ⟨fun hfresh => ⟨?_, fun _ _ => trivial⟩, trivial⟩
  have hids : (faces y.1).map Face.id = y.1.sessions.map ScamMirrorSession.id := List.map_map
  refine within_append (newSession user dto y.1.checks.now y.1.nextId).face hy ?_ ?_
  · exact List.map_append
  · rw [hids]
    exact hfresh

theorem call_ensures {toLowerCase : Text → Text} (call : Call) :
    ((call.program toLowerCase).noting (noteTurn sid i)).Ensures (Kept sid turns)
      (recorder sid i) (fun _ y => call.Recorded sid i y.2) x := by
  cases call with
  | start user dto => exact start_ensures
  | recordInput user sessionId dto => exact recordInput_ensures
  | endSession user sessionId learned => exact endSession_ensures

end Programs

/-! ## Runs -/

section Runs

variable {ι : Type}

/-- Calls at their start; nothing is noted. -/
def recording (toLowerCase : Text → Text) (sid : Uuid) (call : ι → Call) (s : Store) :
    Pool ι (Store × List (ι × Turn))
      (Prog (Store × List (ι × Turn)) DbStep HttpError ScamMirrorSession) where
  shared := (s, [])
  locals i := ((call i).program toLowerCase).noting (noteTurn sid i)

/-- The session has the turns that were there and then all that were written, numbered and with
their tactics, and those of the calls that have returned are among them. -/
structure Complete (sid : Uuid) (call : ι → Call) (turns : List Turn)
    (t : Pool ι (Store × List (ι × Turn))
      (Prog (Store × List (ι × Turn)) DbStep HttpError ScamMirrorSession)) : Prop where
  row : ∃ face, faceOf sid t.shared.1 = some face ∧ Tallied face ∧
    face.read = turns ++ t.shared.2.map Prod.snd
  returned : ∀ i session, t.locals i = .pure session → (call i).Recorded sid i t.shared.2

end Runs

/-! ## Two calls on one session -/

/-- A session that is open. -/
def openSession : ScamMirrorSession :=
  newSession trainee ⟨.romance, "A stranger writes to me", .undefined⟩ Checks.emptyStore.now
    "session"

def openStore : Store := { sessions := [openSession], checks := Checks.emptyStore }

def twoInputs : Fin 2 → Call :=
  ![.recordInput trainee "session" ⟨.scammer, "I love you"⟩,
    .recordInput trainee "session" ⟨.user, "Who are you?"⟩]

def inputAndEnd : Fin 2 → Call :=
  ![.recordInput trainee "session" ⟨.scammer, "I love you"⟩,
    .endSession trainee "session" false]

/-- The calls take turns on the open session. -/
def afterTurns (call : Fin 2 → Call) (order : List (Fin 2 × Nat)) :
    Pool (Fin 2) (Store × List (Fin 2 × Turn))
      (Prog (Store × List (Fin 2 × Turn)) DbStep HttpError ScamMirrorSession) :=
  Prog.turns (recording lowerAscii "session" call openStore) order

/-- What a session looks like. -/
def Face.summary (face : Face) : ScamMirrorStatus × List (Nat × Text) × List Tactic :=
  (face.status, face.read.map fun turn => (turn.turn, turn.text), face.tacticsObserved)

/-- An input that has read the session before its end writes its turn after it. -/
theorem turn_after_end :
    ∃ t u, Pool.Run (Prog.interleaved fun _ _ => True)
        (recording lowerAscii "session" inputAndEnd openStore) t ∧
      Pool.Run (Prog.interleaved fun _ _ => True) t u ∧
      (faceOf "session" t.shared.1).map Face.summary = some (.endedAbandoned, [], []) ∧
      ¬ Frozen "session" t.shared.1 u.shared.1 := by
  have hended : (faceOf "session" (afterTurns inputAndEnd [(0, 2), (1, 5)]).shared.1).map
      Face.summary = some (.endedAbandoned, [], []) := by decide +kernel
  have hwritten : (faceOf "session" (Prog.turns (afterTurns inputAndEnd [(0, 2), (1, 5)])
      [(0, 1)]).shared.1).map (·.read.length) = some 1 := by decide +kernel
  refine ⟨afterTurns inputAndEnd [(0, 2), (1, 5)],
    Prog.turns (afterTurns inputAndEnd [(0, 2), (1, 5)]) [(0, 1)],
    Prog.run_turns .refl (Prog.permittedTurns_true ..),
    Prog.run_turns .refl (Prog.permittedTurns_true ..), hended, fun hfrozen => ?_⟩
  obtain ⟨face, hface, hsummary⟩ := Option.map_eq_some_iff.mp hended
  obtain ⟨face', hface', hsame⟩ := hfrozen face hface
  have hstatus : face.status = .endedAbandoned := congrArg Prod.fst hsummary
  have hnone : face.read.length = 0 := by
    simpa [Face.summary] using congrArg (·.2.1.length) hsummary
  obtain ⟨hturns, -, -⟩ := hsame (by rw [hstatus]; decide)
  rw [hface', Option.map_some, Face.read, hturns] at hwritten
  rw [Face.read] at hnone
  rw [hnone] at hwritten
  cases hwritten

end ScamMirror
