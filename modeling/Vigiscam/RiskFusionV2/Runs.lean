import Vigiscam.RiskFusionV2.Service

/-!
# Every fused score is accounted for

Sessions are fused and checked while reviewers label what is on record of the engines, and any step
may fail. A fused assessment has its three assessments and their decisions on record, and its score
is made of them, of a risk score of the session and of failed checks that are there
(`fused_accounted`). A verdict on an image or a voice has had one (`verdicts_supported`), and a
decision says what the last reviewer has said of it (`reviews_consistent`).
-/

namespace RiskFusionV2

open Js Value Common Protection Concurrency EvidenceVault
open ModelGovernance (AIReviewerLabel)
open RiskFusion (Session)

abbrev FusionRun {ι : Type} [DecidableEq ι] :
    Pool ι Store (Program Unit) → Pool ι Store (Program Unit) → Prop :=
  Pool.Run (Prog.interleaved fun _ _ => True)

/-! ## What goes ahead -/

def AIDecision.data (d : AIDecision) : DecisionData where
  serviceKind := d.serviceKind
  modelVersion := d.modelVersion
  source := d.source
  entityType := d.entityType
  entityId := d.entityId
  inputDigest := d.inputDigest
  inputSnippet := d.inputSnippet
  output := d.output
  confidence := d.confidence
  requiresHumanReview := d.requiresHumanReview

section Ahead

variable {x y z : Store} {data : DecisionData}

/-- There is a decision with these columns. -/
def OnRecord (data : DecisionData) (s : Store) : Prop := ∃ d ∈ s.decisions.rows, d.data = data

/-- Rows are added, and reviews change nothing else of a decision. -/
structure Ahead (x y : Store) : Prop where
  journeys : x.journeys.rows <+: y.journeys.rows
  victimStates : x.victimStates.rows <+: y.victimStates.rows
  moves : x.moves.rows <+: y.moves.rows
  checks : x.checks.rows <+: y.checks.rows
  fusions : x.fusions.rows <+: y.fusions.rows
  decisions : ∀ d ∈ x.decisions.rows, ∃ d' ∈ y.decisions.rows, d'.id = d.id ∧ d'.data = d.data

theorem closed_ahead : Closed Ahead where
  refl _ := ⟨List.prefix_refl _, List.prefix_refl _, List.prefix_refl _, List.prefix_refl _,
    List.prefix_refl _, fun d hd => ⟨d, hd, rfl, rfl⟩⟩
  trans := by
    intro x y z hxy hyz
    refine ⟨hxy.journeys.trans hyz.journeys, hxy.victimStates.trans hyz.victimStates,
      hxy.moves.trans hyz.moves, hxy.checks.trans hyz.checks, hxy.fusions.trans hyz.fusions,
      fun d hd => ?_⟩
    obtain ⟨d', hd', hid, hdata⟩ := hxy.decisions d hd
    obtain ⟨d'', hd'', hid', hdata'⟩ := hyz.decisions d' hd'
    exact ⟨d'', hd'', hid'.trans hid, hdata'.trans hdata⟩

theorem OnRecord.ahead (h : OnRecord data x) (hxy : Ahead x y) : OnRecord data y := by
  obtain ⟨d, hd, hdata⟩ := h
  obtain ⟨d', hd', -, hdata'⟩ := hxy.decisions d hd
  exact ⟨d', hd', hdata'.trans hdata⟩

theorem ahead_decided (s : Store) (data : DecisionData) (start : Int) :
    Ahead s (s.decided data start) :=
  { closed_ahead.refl s with
    decisions := fun d hd => ⟨d, List.mem_append_left _ hd, rfl, rfl⟩ }

theorem ahead_reviewed (s : Store) (user : AuthenticatedUser) (dto : SubmitAiFeedbackDto)
    (decision : AIDecision) : Ahead s (s.reviewed user dto decision) :=
  { closed_ahead.refl s with
    decisions := fun d hd => by
      refine ⟨_, Table.mem_modify.mpr ⟨d, hd, rfl⟩, ?_⟩
      split
      · exact ⟨rfl, rfl⟩
      · exact ⟨rfl, rfl⟩ }

theorem failuresOf_mono (sessionId : Uuid) (h : Ahead x y) :
    failuresOf sessionId x.checks.rows ≤ failuresOf sessionId y.checks.rows :=
  h.checks.sublist.countP_le

end Ahead

/-! ## Accounts -/

section Accounts

variable {ι : Type} {p : Platform} {calls : ι → Call} {s₀ s x y : Store}

/-- A session as it was at the start, or as some call has made it. -/
def KnownSession (calls : ι → Call) (s₀ : Store) (session : Session) : Prop :=
  session ∈ s₀.sessions ∨ ∃ i sessions now, calls i = .world sessions now ∧ session ∈ sessions

/-- The row is the one of an answer to a request on its session. -/
def Stored {κ : Type} (table : List (Assessment κ)) (sessionId : Uuid) (result : InsightResult κ) :
    Prop :=
  ∃ id, assessed sessionId result id ∈ table

theorem Stored.grown {κ : Type} {rows rows' : List (Assessment κ)} {sessionId : Uuid}
    {result : InsightResult κ} (h : Stored rows sessionId result) (hrows : rows <+: rows') :
    Stored rows' sessionId result := by
  obtain ⟨id, hid⟩ := h
  exact ⟨id, hrows.subset hid⟩

/-- The answers to a request are there, and on record. -/
structure Assessed (p : Platform) (req : FuseRequest) (replies : InsightReplies) (s : Store) :
    Prop where
  journey : Stored s.journeys.rows req.sessionId (journeyOf p req replies)
  victimState : Stored s.victimStates.rows req.sessionId (victimStateOf p req replies)
  move : Stored s.moves.rows req.sessionId (moveOf p req replies)
  journeyRecord : OnRecord (insightData p req "FRAUD_JOURNEY" (journeyOf p req replies)) s
  victimStateRecord : OnRecord (insightData p req "VICTIM_STATE" (victimStateOf p req replies)) s
  moveRecord : OnRecord (insightData p req "PREDICTED_NEXT_MOVE" (moveOf p req replies)) s

/-- The row is the fusion of the answers to a request, of a risk score of its session, and of no
fewer failed checks than at the start, and no more than now. -/
def Fused (p : Platform) (calls : ι → Call) (s₀ s : Store) (row : RiskFusionAssessment) : Prop :=
  ∃ i req replies session failures, calls i = .fuse req replies ∧
    KnownSession calls s₀ session ∧ session.id = req.sessionId ∧ Assessed p req replies s ∧
    failuresOf req.sessionId s₀.checks.rows ≤ failures ∧
    failures ≤ failuresOf req.sessionId s.checks.rows ∧
    row = fusionRow req.sessionId (fusionOf p req replies session.riskScore failures) row.id

/-- The verdict is the one that a call has come to, with the media that it needs unless it is
inconclusive, and it is the service's where that is its source. -/
def Checked (p : Platform) (calls : ι → Call) (row : AuthenticityCheck) : Prop :=
  ∃ i actor dto reply, calls i = .check actor dto reply ∧ row.sessionId = dto.sessionId ∧
    row.checkType = dto.checkType ∧ row.requestedByUserId = actor.userId ∧
    (row.result ≠ .inconclusive ∨ row.source = .external →
      (row.checkType ∈ IMAGE_CHECKS → hasMedia IMAGE_KEYS dto.fields) ∧
        (row.checkType ∈ VOICE_CHECKS → hasMedia AUDIO_KEYS dto.fields)) ∧
    (row.source = .external → present p.aiServiceUrl ≠ none ∧
      ∃ output, reply = some output ∧ row.result = output.result ∧ row.score = output.score)

structure Accounted (p : Platform) (calls : ι → Call) (s₀ s : Store) : Prop where
  ahead : Ahead s₀ s
  sessions : ∀ session ∈ s.sessions, KnownSession calls s₀ session
  fusions : ∀ row ∈ s.fusions.rows, row ∈ s₀.fusions.rows ∨ Fused p calls s₀ s row
  checks : ∀ row ∈ s.checks.rows, row ∈ s₀.checks.rows ∨ Checked p calls row

theorem Assessed.ahead {req : FuseRequest} {replies : InsightReplies}
    (h : Assessed p req replies x) (hxy : Ahead x y) : Assessed p req replies y where
  journey := h.journey.grown hxy.journeys
  victimState := h.victimState.grown hxy.victimStates
  move := h.move.grown hxy.moves
  journeyRecord := h.journeyRecord.ahead hxy
  victimStateRecord := h.victimStateRecord.ahead hxy
  moveRecord := h.moveRecord.ahead hxy

theorem Fused.ahead {row : RiskFusionAssessment} (h : Fused p calls s₀ x row) (hxy : Ahead x y) :
    Fused p calls s₀ y row := by
  obtain ⟨i, req, replies, session, failures, hi, hknown, hid, hassessed, hleast, hmost, hrow⟩ := h
  exact ⟨i, req, replies, session, failures, hi, hknown, hid, hassessed.ahead hxy, hleast,
    hmost.trans (failuresOf_mono _ hxy), hrow⟩

theorem accounted_start : Accounted p calls s s where
  ahead := closed_ahead.refl s
  sessions _ h := Or.inl h
  fusions _ h := Or.inl h
  checks _ h := Or.inl h

/-- A process may take any step, relies on `Ahead` and guarantees it. -/
def anywhere : Contract Store Step where
  may _ _ := True
  rely := Ahead
  guar := Ahead

/-- A step that adds to the rows that are not accounted for. -/
theorem within_of_ahead (hx : Accounted p calls s₀ x) (hxy : Ahead x y)
    (hsessions : y.sessions = x.sessions) (hfusions : y.fusions = x.fusions)
    (hchecks : y.checks = x.checks) :
    Prog.Within (Accounted p calls s₀) anywhere x y where
  inv := {
    ahead := closed_ahead.trans hx.ahead hxy
    sessions := by
      rw [hsessions]
      exact hx.sessions
    fusions := by
      rw [hfusions]
      exact fun row hrow => (hx.fusions row hrow).imp_right fun h => h.ahead hxy
    checks := by
      rw [hchecks]
      exact hx.checks }
  guar := hxy

end Accounts

/-! ## What the programs ensure -/

section Programs

variable {ι : Type} {p : Platform} {calls : ι → Call} {s₀ s : Store} {α β : Type}
  {post : α → Store → Prop}

theorem ensures_read_bind {f : Store → β} {k : β → Program α}
    (h : ∀ t, Ahead s t → Accounted p calls s₀ t →
      (k (f t)).Ensures (Accounted p calls s₀) anywhere post t) :
    (read f >>= k).Ensures (Accounted p calls s₀) anywhere post s :=
  Prog.Ensures.act_bind fun t hst ht _ => ⟨⟨ht, closed_ahead.refl t⟩, h t hst ht⟩

/-- A table of assessments: its rows are not what is accounted for. -/
structure Adding (p : Platform) (calls : ι → Call) (s₀ : Store) {κ : Type}
    (table : Part Store (AssessmentTable κ)) : Prop where
  grows : ∀ x y, Ahead x y → (table.get x).rows <+: (table.get y).rows
  within : ∀ x row (hrow : row.id = (table.get x).next), Accounted p calls s₀ x →
    Prog.Within (Accounted p calls s₀) anywhere x (table.set ((table.get x).add row hrow) x)

theorem adding_journeys : Adding p calls s₀ journeyTable where
  grows _ _ h := h.journeys
  within x row _ hx := within_of_ahead hx
    { closed_ahead.refl x with journeys := List.prefix_append _ [row] } rfl rfl rfl

theorem adding_victimStates : Adding p calls s₀ victimStateTable where
  grows _ _ h := h.victimStates
  within x row _ hx := within_of_ahead hx
    { closed_ahead.refl x with victimStates := List.prefix_append _ [row] } rfl rfl rfl

theorem adding_moves : Adding p calls s₀ moveTable where
  grows _ _ h := h.moves
  within x row _ hx := within_of_ahead hx
    { closed_ahead.refl x with moves := List.prefix_append _ [row] } rfl rfl rfl

/-- An answer is there and on record from then on. -/
theorem ensures_recordInsight {κ : Type} {req : FuseRequest}
    {table : Part Store (AssessmentTable κ)} {kind : Text} {result : InsightResult κ}
    (htable : Adding p calls s₀ table) :
    (recordInsight p req table kind result).Ensures (Accounted p calls s₀) anywhere
      (fun _ t => Ahead s t ∧ Stored (table.get t).rows req.sessionId result ∧
        OnRecord (insightData p req kind result) t) s := by
  refine ensures_read_bind fun t hst _ => ?_
  refine Prog.Ensures.act_bind fun u htu hu _ => ?_
  have hadded := htable.within u (assessed req.sessionId result (table.get u).next) rfl hu
  have hgiven : Stored (table.get (table.set ((table.get u).add
      (assessed req.sessionId result (table.get u).next) rfl) u)).rows req.sessionId result := by
    rw [table.get_set]
    exact ⟨_, List.mem_append_right _ (List.mem_singleton_self _)⟩
  refine ⟨hadded, ?_⟩
  refine Prog.Ensures.act_bind fun v huv hv _ => ?_
  have hdecided := ahead_decided v (insightData p req kind result) t.now
  refine ⟨within_of_ahead hv hdecided rfl rfl rfl, fun w hvw => ?_⟩
  have huw := closed_ahead.trans huv (closed_ahead.trans hdecided hvw)
  have hrecord : OnRecord (insightData p req kind result)
      (v.decided (insightData p req kind result) t.now) :=
    ⟨_, List.mem_append_right _ (List.mem_singleton_self _), rfl⟩
  exact ⟨closed_ahead.trans hst (closed_ahead.trans htu (closed_ahead.trans hadded.guar huw)),
    hgiven.grown (htable.grows _ _ huw), hrecord.ahead hvw⟩

/-- A fusion of what is there adds an account. -/
theorem within_fused {i : ι} {req : FuseRequest} {replies : InsightReplies} {session : Session}
    {failures : Nat} (hs : Accounted p calls s₀ s) (hi : calls i = .fuse req replies)
    (hknown : KnownSession calls s₀ session) (hid : session.id = req.sessionId)
    (hassessed : Assessed p req replies s)
    (hleast : failuresOf req.sessionId s₀.checks.rows ≤ failures)
    (hmost : failures ≤ failuresOf req.sessionId s.checks.rows) :
    Prog.Within (Accounted p calls s₀) anywhere s { s with
      fusions := s.fusions.add (fusionRow req.sessionId
        (fusionOf p req replies session.riskScore failures) s.fusions.next) rfl } := by
  have hahead : Ahead s { s with
      fusions := s.fusions.add (fusionRow req.sessionId
        (fusionOf p req replies session.riskScore failures) s.fusions.next) rfl } :=
    { closed_ahead.refl s with fusions := List.prefix_append _ _ }
  refine ⟨⟨closed_ahead.trans hs.ahead hahead, hs.sessions, fun row hrow => ?_, hs.checks⟩, hahead⟩
  rcases List.mem_append.mp hrow with hold | hnew
  · exact (hs.fusions row hold).imp_right fun h => h.ahead hahead
  · obtain rfl := List.mem_singleton.mp hnew
    exact Or.inr ⟨i, req, replies, session, failures, hi, hknown, hid, hassessed.ahead hahead,
      hleast, hmost, rfl⟩

theorem ensures_fuse {i : ι} {req : FuseRequest} {replies : InsightReplies}
    (hi : calls i = .fuse req replies) :
    (fuse p req replies).Ensures (Accounted p calls s₀) anywhere (fun _ _ => True) s := by
  refine ensures_read_bind fun t _ ht => ?_
  cases hfind : Table.find Session.id req.sessionId t.sessions with
  | none => trivial
  | some session =>
    have hknown := ht.sessions session (Table.mem_of_find hfind)
    have hid : session.id = req.sessionId := Table.key_of_find hfind
    refine Prog.Ensures.bind closed_ahead (ensures_recordInsight adding_journeys) fun _ u hu => ?_
    refine Prog.Ensures.bind closed_ahead (ensures_recordInsight adding_victimStates)
      fun _ v hv => ?_
    refine Prog.Ensures.bind closed_ahead (ensures_recordInsight adding_moves) fun _ w hw => ?_
    have huw := closed_ahead.trans hv.1 hw.1
    have hassessed : Assessed p req replies w := {
      journey := hu.2.1.grown huw.journeys
      victimState := hv.2.1.grown hw.1.victimStates
      move := hw.2.1
      journeyRecord := hu.2.2.ahead huw
      victimStateRecord := hv.2.2.ahead hw.1
      moveRecord := hw.2.2 }
    refine ensures_read_bind fun a hwa ha => ?_
    refine Prog.Ensures.act_bind fun b hab hb _ => ⟨?_, fun _ _ => trivial⟩
    exact within_fused hb hi hknown hid (hassessed.ahead (closed_ahead.trans hwa hab))
      (failuresOf_mono _ ha.ahead) (failuresOf_mono _ hab)

/-! ### Checks -/

theorem ensures_appendEvidence (input : AppendEvidenceInput) :
    (appendEvidence input).Ensures (Accounted p calls s₀) anywhere (fun _ _ => True) s :=
  Prog.Ensures.act_bind (k := fun _ => pure ()) fun t _ ht _ =>
    ⟨within_of_ahead ht { closed_ahead.refl t with } rfl rfl rfl, fun _ _ => trivial⟩

theorem ensures_insertCheck {data : CheckData} (hdata : ∀ id, Checked p calls (data.row id)) :
    (insertCheck data).Ensures (Accounted p calls s₀) anywhere (fun _ _ => True) s := by
  refine Prog.Ensures.act_bind (k := fun row => pure row) fun t _ ht _ =>
    ⟨?_, fun _ _ => trivial⟩
  have hahead : Ahead t { t with checks := t.checks.add (data.row t.checks.next) rfl } :=
    { closed_ahead.refl t with checks := List.prefix_append _ _ }
  refine ⟨⟨closed_ahead.trans ht.ahead hahead, ht.sessions,
    fun row hrow => (ht.fusions row hrow).imp_right fun h => h.ahead hahead, fun row hrow => ?_⟩,
    hahead⟩
  rcases List.mem_append.mp hrow with hold | hnew
  · exact ht.checks row hold
  · obtain rfl := List.mem_singleton.mp hnew
    exact Or.inr (hdata _)

/-- Where no medium is missing, there is the one that is needed. -/
theorem hasMedia_of_missing {checkType : AuthenticityCheckType} {payload : List (Text × Value)}
    (h : missingMedia checkType payload = none) :
    (checkType ∈ IMAGE_CHECKS → hasMedia IMAGE_KEYS payload) ∧
      (checkType ∈ VOICE_CHECKS → hasMedia AUDIO_KEYS payload) := by
  rw [missingMedia] at h
  split at h
  · cases h
  · split at h
    · cases h
    · rename_i himage haudio
      exact ⟨fun hmem => not_not.mp fun hnone => himage ⟨hmem, hnone⟩,
        fun hmem => not_not.mp fun hnone => haudio ⟨hmem, hnone⟩⟩

theorem checked_inconclusive {i : ι} {actor : AuthenticatedUser}
    {dto : RequestAuthenticityCheckDto} {reply : Option AuthenticityResponse}
    (hi : calls i = .check actor dto reply) (missing : Text) (id : Uuid) :
    Checked p calls ((inconclusiveData actor dto.request missing).row id) := by
  refine ⟨i, actor, dto, reply, hi, rfl, rfl, rfl, fun h => ?_, fun h => by cases h⟩
  rcases h with h | h
  · exact absurd rfl h
  · cases h

/-- The stub answers, or the service does where there is one. -/
theorem callAuthenticity_cases (baseUrl : Option Text) (reply : Option AuthenticityResponse)
    (req : AuthenticityRequest) :
    callAuthenticity baseUrl reply req = (stubAuthenticityCheck req, .stub) ∨
      present baseUrl ≠ none ∧ ∃ output, reply = some output ∧
        callAuthenticity baseUrl reply req = (output, .external) := by
  unfold callAuthenticity
  cases present baseUrl with
  | none => exact Or.inl rfl
  | some url =>
    cases reply with
    | none => exact Or.inl rfl
    | some output => exact Or.inr ⟨Option.some_ne_none url, output, rfl, rfl⟩

theorem checked_verdict {i : ι} {actor : AuthenticatedUser}
    {dto : RequestAuthenticityCheckDto} {reply : Option AuthenticityResponse}
    (hi : calls i = .check actor dto reply) (hmedia : missingMedia dto.checkType dto.fields = none)
    (id : Uuid) :
    Checked p calls ((checkData actor dto.request
      (callAuthenticity p.aiServiceUrl reply dto.request).1
      (callAuthenticity p.aiServiceUrl reply dto.request).2).row id) := by
  refine ⟨i, actor, dto, reply, hi, rfl, rfl, rfl, fun _ => hasMedia_of_missing hmedia, ?_⟩
  rcases callAuthenticity_cases p.aiServiceUrl reply dto.request with hcall | ⟨hurl, output, hreply,
    hcall⟩
  · rw [hcall]
    exact fun hsource => by cases hsource
  · rw [hcall]
    exact fun _ => ⟨hurl, output, hreply, rfl, rfl⟩

theorem ensures_runCheck {i : ι} {actor : AuthenticatedUser} {dto : RequestAuthenticityCheckDto}
    {reply : Option AuthenticityResponse} (hi : calls i = .check actor dto reply) :
    (runCheck p actor dto reply).Ensures (Accounted p calls s₀) anywhere (fun _ _ => True) s := by
  refine ensures_read_bind fun t _ _ => ?_
  cases Table.find Session.id dto.sessionId t.sessions with
  | none => trivial
  | some session =>
    dsimp only
    rw [checkSession]
    cases hmedia : missingMedia dto.checkType dto.fields with
    | some missing =>
      refine Prog.Ensures.bind closed_ahead (ensures_insertCheck (checked_inconclusive hi missing))
        fun verdict _ _ => ?_
      refine Prog.Ensures.bind closed_ahead ((ensures_appendEvidence _).tryCatch fun _ _ _ _ =>
        trivial) fun _ _ _ _ _ => trivial
    | none =>
      refine ensures_read_bind fun u _ _ => ?_
      refine Prog.Ensures.bind closed_ahead (ensures_insertCheck (checked_verdict hi hmedia))
        fun verdict _ _ => ?_
      refine Prog.Ensures.act_bind fun v _ hv _ =>
        ⟨within_of_ahead hv (ahead_decided v _ u.now) rfl rfl rfl, ?_⟩
      exact Prog.Ensures.bind closed_ahead (ensures_appendEvidence _) fun _ _ _ _ _ => trivial

/-! ### Calls -/

theorem ensures_submitFeedback (user : AuthenticatedUser) (decisionId : Uuid)
    (dto : SubmitAiFeedbackDto) :
    (submitFeedback user decisionId dto).Ensures (Accounted p calls s₀) anywhere
      (fun _ _ => True) s := by
  refine ensures_read_bind fun t _ _ => ?_
  cases Table.find AIDecision.id decisionId t.decisions.rows with
  | none => trivial
  | some decision =>
    refine Prog.Ensures.attempt_last (fun u row v _ hu _ hupdate => ?_) fun u _ hu _ _ =>
      within_of_ahead hu (closed_ahead.refl u) rfl rfl rfl
    obtain ⟨_, -, hpair⟩ := Option.map_eq_some_iff.mp hupdate
    obtain ⟨-, rfl⟩ := Prod.mk.inj hpair
    exact ⟨within_of_ahead hu (ahead_reviewed u user dto decision) rfl rfl rfl,
      fun _ _ => trivial⟩

theorem ensures_call (i : ι) :
    ((calls i).program p).Ensures (Accounted p calls s₀) anywhere (fun _ _ => True) s := by
  cases hi : calls i with
  | fuse req replies =>
    exact Prog.Ensures.bind closed_ahead (ensures_fuse hi) fun _ _ _ _ _ => trivial
  | check actor dto reply =>
    exact Prog.Ensures.bind closed_ahead (ensures_runCheck hi) fun _ _ _ _ _ => trivial
  | feedback user decisionId dto =>
    exact Prog.Ensures.bind closed_ahead (ensures_submitFeedback user decisionId dto)
      fun _ _ _ _ _ => trivial
  | world sessions now =>
    refine Prog.Ensures.act_bind (k := fun _ => pure ()) fun t _ ht _ =>
      ⟨?_, fun _ _ => trivial⟩
    have hahead : Ahead t { t with sessions, now } := { closed_ahead.refl t with }
    exact ⟨⟨closed_ahead.trans ht.ahead hahead,
      fun session hsession => Or.inr ⟨i, sessions, now, hi, hsession⟩,
      fun row hrow => (ht.fusions row hrow).imp_right fun h => h.ahead hahead, ht.checks⟩, hahead⟩

end Programs

/-! ## Runs -/

section Runs

variable {ι : Type} [DecidableEq ι] {p : Platform} {calls : ι → Call} {s : Store}
  {t : Pool ι Store (Program Unit)}

theorem run_accounted (hrun : FusionRun (calling p calls s) t) :
    Accounted p calls s t.shared :=
  (Run.ensures (c := fun _ => anywhere) (fun _ _ _ => True) hrun (fun _ => closed_ahead)
    (fun _ => closed_ahead.refl) (fun _ _ _ _ _ h => h) accounted_start
    fun i => ensures_call i).1

/-! ### A call about a gift card -/

def samplePlatform : Platform := ⟨none, id⟩

def sampleSession : Session where
  id := "S"
  userId := "U"
  tenantId := "T"
  deviceId := none
  type := .liveCall
  status := .active
  riskScore := 20
  startedAt := Date.sampleDay.noon
  endedAt := none

def sampleStore : Store where
  sessions := [sampleSession]
  journeys := .empty numbered numbered_injective
  victimStates := .empty numbered numbered_injective
  moves := .empty numbered numbered_injective
  checks := .empty numbered numbered_injective
  fusions := .empty numbered numbered_injective
  decisions := .empty numbered numbered_injective
  feedback := []
  auditLogs := []
  evidence := []
  now := 0

def sampleReviewer : AuthenticatedUser := ⟨"R", "V", .reviewer⟩

def sampleRequest : FuseRequest :=
  ⟨"S", ⟨some "Buy a gift card right now.", some "I am scared.", none, none⟩⟩

/-- A sampled frame of a face that looks synthetic. -/
def sampleCheck : RequestAuthenticityCheckDto where
  sessionId := "S"
  checkType := .liveFaceSeal
  imageBase64 := none
  imageUrl := none
  frameBase64 := some "AAAA"
  frameUrl := none
  audioBase64 := none
  audioUrl := none
  evidenceRef := none
  payload := some [("suspectedSynthetic", Value.bool true)]

/-- A check, a fusion, and a review of the check; the risk score of the session rises. -/
def sampleCalls : Bool × Bool → Call
  | (false, false) => .check sampleReviewer sampleCheck none
  | (false, true) => .fuse sampleRequest ⟨none, none, none⟩
  | (true, false) => .feedback sampleReviewer (numbered 0) ⟨.confirmedCorrect, none, none⟩
  | (true, true) => .world [{ sampleSession with riskScore := 25 }] 5

def sampleDone : Pool (Bool × Bool) Store (Program Unit) :=
  Prog.turns (calling samplePlatform sampleCalls sampleStore)
    [((false, false), 5), ((true, true), 1), ((true, false), 2), ((false, true), 12)]

theorem sampleDone_run :
    FusionRun (calling samplePlatform sampleCalls sampleStore) sampleDone :=
  Prog.run_turns .refl (Prog.permittedTurns_true _ _)

/-- **Every fused score is accounted for**: in any interleaving and with any failing steps, a new
fused assessment is the fusion of the answers of the three engines to a request, which are stored
and on record, of a risk score of the session, and of no fewer failed checks than at the start, and
no more than now. -/
theorem fused_accounted (hrun : FusionRun (calling p calls s) t) :
    ∀ row ∈ t.shared.fusions.rows, row ∈ s.fusions.rows ∨ Fused p calls s t.shared row :=
  (run_accounted hrun).fusions

theorem fused_accounted_sample : sampleDone.shared.fusions.rows.length = 1 ∧
    ∀ row ∈ sampleDone.shared.fusions.rows, row ∈ sampleStore.fusions.rows ∨
      Fused samplePlatform sampleCalls sampleStore sampleDone.shared row :=
  ⟨by decide +kernel, fused_accounted sampleDone_run⟩

-- the score of the session is 25; the engines add 68, and the failed check 15
example : sampleDone.shared.fusions.rows.map (fun row => (row.fusedScore, row.fusedLevel)) =
    [(100, .critical)] := by decide +kernel

/-- **Verdicts have had their media**: a new verdict on an image or a voice that is not
inconclusive, or comes from the service, is on a request with an image or a recording, and what
comes from the service is what the service has said. -/
theorem verdicts_supported (hrun : FusionRun (calling p calls s) t) :
    ∀ row ∈ t.shared.checks.rows, row ∈ s.checks.rows ∨ Checked p calls row :=
  (run_accounted hrun).checks

theorem verdicts_supported_sample : sampleDone.shared.checks.rows.length = 1 ∧
    ∀ row ∈ sampleDone.shared.checks.rows, row ∈ sampleStore.checks.rows ∨
      Checked samplePlatform sampleCalls row :=
  ⟨by decide +kernel, verdicts_supported sampleDone_run⟩

end Runs

/-! ## Reviews -/

section Reviews

variable {p : Platform} {s x y : Store} {α : Type}

/-- The last that has been said of a decision. -/
def latestOn (id : Uuid) (feedback : List ModelFeedback) : Option ModelFeedback :=
  (feedback.filter (·.aiDecisionId = id)).getLast?

/-- The columns of a review say what has been said last. -/
def Says (review : DecisionReview) : Option ModelFeedback → Prop
  | none => review = .pending
  | some f => review.reviewStatus = LABEL_TO_STATUS f.reviewerLabel ∧
      review.reviewerLabel = some f.reviewerLabel ∧
      review.reviewedByUserId = some f.reviewedByUserId ∧ review.reviewNotes = f.notes

/-- Decisions, what reviewers have said of them, and the log agree. -/
structure Reviewed (s : Store) : Prop where
  said : ∀ d ∈ s.decisions.rows, Says d.review (latestOn d.id s.feedback)
  about : ∀ f ∈ s.feedback, ∃ d ∈ s.decisions.rows, d.id = f.aiDecisionId ∧
    d.serviceKind = f.serviceKind ∧ d.modelVersion = f.modelVersion
  logged : s.auditLogs.map (fun log => (log.actorId, log.targetId)) =
    s.feedback.map fun f => (f.reviewedByUserId, f.aiDecisionId)

theorem latestOn_append_self {id : Uuid} {feedback : List ModelFeedback} {f : ModelFeedback}
    (hf : f.aiDecisionId = id) : latestOn id (feedback ++ [f]) = some f := by
  rw [latestOn, List.filter_append, List.filter_cons_of_pos (by simpa using hf), List.filter_nil,
    List.getLast?_append]
  rfl

theorem latestOn_append_other {id : Uuid} {feedback : List ModelFeedback} {f : ModelFeedback}
    (hf : f.aiDecisionId ≠ id) : latestOn id (feedback ++ [f]) = latestOn id feedback := by
  rw [latestOn, List.filter_append, List.filter_cons_of_neg (by simpa using hf), List.filter_nil,
    List.append_nil, latestOn]

theorem latestOn_eq_none {id : Uuid} {feedback : List ModelFeedback}
    (h : ∀ f ∈ feedback, f.aiDecisionId ≠ id) : latestOn id feedback = none := by
  have hfilter : feedback.filter (·.aiDecisionId = id) = [] :=
    List.filter_eq_nil_iff.mpr fun f hf => by simpa using h f hf
  rw [latestOn, hfilter]
  rfl

theorem Reviewed.same (h : Reviewed x) (hdecisions : y.decisions = x.decisions)
    (hfeedback : y.feedback = x.feedback) (hlogs : y.auditLogs = x.auditLogs) : Reviewed y where
  said := by rw [hdecisions, hfeedback]; exact h.said
  about := by rw [hdecisions, hfeedback]; exact h.about
  logged := by rw [hfeedback, hlogs]; exact h.logged

/-- Nothing has been said of a new decision. -/
theorem Reviewed.decided (h : Reviewed s) (data : DecisionData) (start : Int) :
    Reviewed (s.decided data start) where
  said d hd := by
    rcases List.mem_append.mp hd with hold | hnew
    · exact h.said d hold
    · obtain rfl := List.mem_singleton.mp hnew
      have hnone : latestOn s.decisions.next s.feedback = none := by
        refine latestOn_eq_none fun f hf hid => ?_
        obtain ⟨d, hd, hdid, -⟩ := h.about f hf
        exact s.decisions.rows_issued _ le_rfl (List.mem_map.mpr ⟨d, hd, hdid.trans hid⟩)
      show Says .pending (latestOn s.decisions.next s.feedback)
      rw [hnone]
      rfl
  about f hf := by
    obtain ⟨d, hd, hrest⟩ := h.about f hf
    exact ⟨d, List.mem_append_left _ hd, hrest⟩
  logged := h.logged

/-- A review of a decision that is there. -/
theorem Reviewed.reviewed (h : Reviewed s) (user : AuthenticatedUser) (dto : SubmitAiFeedbackDto)
    {decision : AIDecision}
    (hdecision : ∃ d ∈ s.decisions.rows, d.id = decision.id ∧ d.data = decision.data) :
    Reviewed (s.reviewed user dto decision) where
  said d' hd' := by
    obtain ⟨d, hd, rfl⟩ := Table.mem_modify.mp hd'
    show Says _ (latestOn _ (s.feedback ++ [feedbackOn user dto decision]))
    by_cases hid : d.id = decision.id
    · rw [if_pos hid, latestOn_append_self hid.symm]
      exact ⟨rfl, rfl, rfl, rfl⟩
    · rw [if_neg hid, latestOn_append_other (Ne.symm hid)]
      exact h.said d hd
  about f hf := by
    -- reviews leave the id, the service and the version of a decision alone
    have hkept : ∀ d ∈ s.decisions.rows, ∃ d' ∈ (s.reviewed user dto decision).decisions.rows,
        d'.id = d.id ∧ d'.data = d.data := (ahead_reviewed s user dto decision).decisions
    rcases List.mem_append.mp hf with hold | hnew
    · obtain ⟨d, hd, hid, hkind, hversion⟩ := h.about f hold
      obtain ⟨d', hd', hid', hdata⟩ := hkept d hd
      exact ⟨d', hd', hid'.trans hid, (congrArg DecisionData.serviceKind hdata).trans hkind,
        (congrArg DecisionData.modelVersion hdata).trans hversion⟩
    · obtain rfl := List.mem_singleton.mp hnew
      obtain ⟨d, hd, hid, hdata⟩ := hdecision
      obtain ⟨d', hd', hid', hdata'⟩ := hkept d hd
      exact ⟨d', hd', hid'.trans hid, congrArg DecisionData.serviceKind (hdata'.trans hdata),
        congrArg DecisionData.modelVersion (hdata'.trans hdata)⟩
  logged := by
    show (s.auditLogs ++ [reviewLog user dto decision]).map _ =
      (s.feedback ++ [feedbackOn user dto decision]).map _
    rw [List.map_append, List.map_append, h.logged]
    rfl

/-! ### The programs, step by step -/

/-- Rows are added, and reviews stay consistent. -/
structure Adds (x y : Store) : Prop where
  ahead : Ahead x y
  reviewed : Reviewed x → Reviewed y

theorem adds_of_ahead (h : Ahead x y) (hdecisions : y.decisions = x.decisions)
    (hfeedback : y.feedback = x.feedback) (hlogs : y.auditLogs = x.auditLogs) : Adds x y :=
  ⟨h, fun hx => hx.same hdecisions hfeedback hlogs⟩

theorem each_read (f : Store → α) : (read f).Each fun _ x y => Adds x y :=
  Prog.Each.act fun x => ⟨closed_ahead.refl x, fun h => h⟩

theorem each_insertDecision (data : DecisionData) (start : Int) :
    (insertDecision data start).Each fun _ x y => Adds x y :=
  Prog.Each.act fun x => ⟨ahead_decided x data start, fun h => h.decided data start⟩

theorem each_appendEvidence (input : AppendEvidenceInput) :
    (appendEvidence input).Each fun _ x y => Adds x y :=
  Prog.Each.act fun x => adds_of_ahead { closed_ahead.refl x with } rfl rfl rfl

theorem each_insertCheck (data : CheckData) :
    (insertCheck data).Each fun _ x y => Adds x y :=
  Prog.Each.act fun x => adds_of_ahead
    { closed_ahead.refl x with checks := List.prefix_append _ [data.row x.checks.next] } rfl rfl rfl

theorem each_recordInsight {κ : Type} {req : FuseRequest} {table : Part Store (AssessmentTable κ)}
    {kind : Text} {result : InsightResult κ}
    (htable : ∀ x row (hrow : row.id = (table.get x).next),
      Adds x (table.set ((table.get x).add row hrow) x)) :
    (recordInsight p req table kind result).Each fun _ x y => Adds x y :=
  Prog.Each.bind (each_read _) fun _ => Prog.Each.bind (Prog.Each.act fun x => htable x _ rfl)
    fun _ => Prog.Each.bind (each_insertDecision ..) fun _ => Prog.Each.pure _

theorem each_fuse (req : FuseRequest) (replies : InsightReplies) :
    (fuse p req replies).Each fun _ x y => Adds x y := by
  refine Prog.Each.bind (each_read _) fun found => ?_
  cases found with
  | none => exact Prog.Each.throw _
  | some session =>
    refine Prog.Each.bind (each_recordInsight fun x row hrow => ?_) fun _ => ?_
    · exact adds_of_ahead
        { closed_ahead.refl x with journeys := List.prefix_append _ [row] } rfl rfl rfl
    refine Prog.Each.bind (each_recordInsight fun x row hrow => ?_) fun _ => ?_
    · exact adds_of_ahead
        { closed_ahead.refl x with victimStates := List.prefix_append _ [row] } rfl rfl rfl
    refine Prog.Each.bind (each_recordInsight fun x row hrow => ?_) fun _ => ?_
    · exact adds_of_ahead
        { closed_ahead.refl x with moves := List.prefix_append _ [row] } rfl rfl rfl
    refine Prog.Each.bind (each_read _) fun _ => Prog.Each.bind (Prog.Each.act fun x => ?_)
      fun _ => Prog.Each.pure _
    exact adds_of_ahead { closed_ahead.refl x with fusions := List.prefix_append _ _ } rfl rfl rfl

theorem each_runCheck (actor : AuthenticatedUser) (dto : RequestAuthenticityCheckDto)
    (reply : Option AuthenticityResponse) :
    (runCheck p actor dto reply).Each fun _ x y => Adds x y := by
  refine Prog.Each.bind (each_read _) fun found => ?_
  cases found with
  | none => exact Prog.Each.throw _
  | some session =>
    dsimp only
    rw [checkSession]
    cases missingMedia dto.checkType dto.fields with
    | some missing =>
      exact Prog.Each.bind (each_insertCheck _) fun _ =>
        Prog.Each.bind (Prog.Each.tryCatch (each_appendEvidence _) fun _ => Prog.Each.pure _)
          fun _ => Prog.Each.pure _
    | none =>
      exact Prog.Each.bind (each_read _) fun _ => Prog.Each.bind (each_insertCheck _) fun _ =>
        Prog.Each.bind (each_insertDecision ..) fun _ =>
          Prog.Each.bind (each_appendEvidence _) fun _ => Prog.Each.pure _

theorem ensures_adds {q : Program α} (hq : q.Each fun _ x y => Adds x y) :
    q.Ensures Reviewed anywhere (fun _ _ => True) s :=
  Prog.Ensures.each closed_ahead
    (hq.mono fun _ _ _ h hx => ⟨⟨h.reviewed hx, h.ahead⟩, h.ahead⟩) fun _ _ _ => trivial

theorem reviewed_submitFeedback (user : AuthenticatedUser) (decisionId : Uuid)
    (dto : SubmitAiFeedbackDto) :
    (submitFeedback user decisionId dto).Ensures Reviewed anywhere (fun _ _ => True) s := by
  refine Prog.Ensures.act_bind fun t _ ht _ => ⟨⟨ht, closed_ahead.refl t⟩, ?_⟩
  dsimp only
  cases hfind : Table.find AIDecision.id decisionId t.decisions.rows with
  | none => trivial
  | some decision =>
    refine Prog.Ensures.attempt_last (fun u row v htu hu _ hupdate => ?_) fun u _ hu _ _ =>
      ⟨hu, closed_ahead.refl u⟩
    obtain ⟨_, -, hpair⟩ := Option.map_eq_some_iff.mp hupdate
    obtain ⟨-, rfl⟩ := Prod.mk.inj hpair
    have hthere := htu.decisions decision (Table.mem_of_find hfind)
    exact ⟨⟨hu.reviewed user dto hthere, ahead_reviewed u user dto decision⟩, fun _ _ => trivial⟩

theorem reviewed_call (call : Call) :
    (call.program p).Ensures Reviewed anywhere (fun _ _ => True) s := by
  cases call with
  | fuse req replies =>
    exact ensures_adds (Prog.Each.bind (each_fuse req replies) fun _ => Prog.Each.pure _)
  | check actor dto reply =>
    exact ensures_adds (Prog.Each.bind (each_runCheck actor dto reply) fun _ => Prog.Each.pure _)
  | feedback user decisionId dto =>
    exact Prog.Ensures.bind closed_ahead (reviewed_submitFeedback user decisionId dto)
      fun _ _ _ _ _ => trivial
  | world sessions now =>
    exact ensures_adds (Prog.Each.act fun x =>
      adds_of_ahead { closed_ahead.refl x with } rfl rfl rfl)

/-- **Reviews are consistent**: a decision is pending exactly where nobody has said anything of it,
and says what has been said of it last otherwise; what is said is said of a decision of its service
and version, and is in the log. -/
theorem reviews_consistent {ι : Type} [DecidableEq ι] {calls : ι → Call}
    {t : Pool ι Store (Program Unit)} (hs : Reviewed s) (hrun : FusionRun (calling p calls s) t) :
    Reviewed t.shared :=
  (Run.ensures (c := fun _ => anywhere) (fun _ _ _ => True) hrun (fun _ => closed_ahead)
    (fun _ => closed_ahead.refl) (fun _ _ _ _ _ h => h) hs fun i => reviewed_call (calls i)).1

theorem reviews_consistent_sample : Reviewed sampleDone.shared :=
  reviews_consistent
    ⟨fun _ h => absurd h List.not_mem_nil, fun _ h => absurd h List.not_mem_nil, rfl⟩ sampleDone_run

end Reviews

end RiskFusionV2
