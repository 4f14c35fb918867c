import Vigiscam.Concurrency.Contract
import Vigiscam.Identity.ApiKeys
import Vigiscam.Notifications.Service
import Vigiscam.Protection.Enums

/-!
# Sockets and rooms (`events.gateway.ts`, `events.service.ts`, `event-channels.ts`)

A client opens a socket with an access token, and the gateway lets the socket into the room of
the token's tenant and into that of its user. An event is emitted to a room, and goes to the
sockets that are in it at that moment. Sockets open and close at any time, also while the gateway
still works on their connection, and any step may fail.

What a socket receives is addressed to one tenant and one user, those of an access token that its
client has presented and that was valid when it did (`deliveries_addressed`). Once the gateway is
through with a socket, it receives all that is emitted to these two, until it closes
(`clients_reached`).
-/

namespace Events

open Js Concurrency
open Identity (HeaderValue)
open Notifications (AdapterResult)
open Protection (RiskLevel TriggerModule)

/-! ## Events -/

structure RiskAlertPayload where
  riskLevel : RiskLevel
  reason : Text
  evidenceEventId : Option Text
deriving DecidableEq

inductive PauseStatus where
  | started | tick | expired | resolved
deriving DecidableEq

structure GuardianPauseCountdownPayload where
  pauseEventId : Text
  status : PauseStatus
  remainingSeconds : Int
deriving DecidableEq

structure TrustedContactReviewRequestPayload where
  reviewId : Text
  triggerModule : TriggerModule
  userId : Text
  requestedAt : Text
deriving DecidableEq

structure FreezeLockTriggeredPayload where
  freezeLockEventId : Text
  trigger : Text
  actions : List Text
deriving DecidableEq

/-- A channel with its payload (`EventPayloads`). -/
inductive Event where
  | riskAlert (payload : RiskAlertPayload)
  | guardianPauseCountdown (payload : GuardianPauseCountdownPayload)
  | trustedContactReviewRequest (payload : TrustedContactReviewRequestPayload)
  | freezeLockTriggered (payload : FreezeLockTriggeredPayload)
deriving DecidableEq

/-- Whom an event is emitted to. -/
inductive Audience where
  | tenant (tenantId : Text)
  | user (userId : Text)
deriving DecidableEq

/-- The tenant-scoped room name. -/
def tenantRoom (tenantId : Text) : Text := "tenant:" ++ tenantId

/-- The user-scoped room name. -/
def userRoom (userId : Text) : Text := "user:" ++ userId

def Audience.room : Audience → Text
  | tenant tenantId => tenantRoom tenantId
  | user userId => userRoom userId

/-- No id of a tenant makes the room of a user, nor the room of another tenant. -/
theorem room_injective : Function.Injective Audience.room := by
  intro a b h
  cases a with
  | tenant a =>
    cases b with
    | tenant b => exact congrArg Audience.tenant (List.append_cancel_left h)
    | user b => exact absurd (List.head_eq_of_cons_eq h) (by decide)
  | user a =>
    cases b with
    | tenant b => exact absurd (List.head_eq_of_cons_eq h) (by decide)
    | user b => exact congrArg Audience.user (List.append_cancel_left h)

/-! ## Connections -/

/-- `socket.handshake`: the `token` of its `auth`, of whatever shape, and the header. -/
structure Handshake where
  token : Value
  authorization : Option HeaderValue

/-- What the gateway reads of the claims of a token. -/
structure JwtPayload where
  type : Option Text
  sub : Option Text
  tenantId : Option Text
deriving DecidableEq

/-- `socket.data`. -/
structure SocketData where
  userId : Text
  tenantId : Text
deriving DecidableEq

/-- The rooms of a connection, by whom they are for. -/
def SocketData.audiences (data : SocketData) : List Audience :=
  [.tenant data.tenantId, .user data.userId]

def BEARER : Text := "Bearer "

/-- The auth field of the handshake, and the standard header for clients that lack it. -/
def extractToken (handshake : Handshake) : Option Text :=
  match present handshake.token.asText with
  | some fromAuth =>
    some (if BEARER.isPrefixOf fromAuth then fromAuth.drop 7 else fromAuth)
  | none =>
    match Identity.extractKey handshake.authorization with
    | some header => if BEARER.isPrefixOf header then some (header.drop 7) else none
    | none => none

/-- Whom an access token is for. A token of another type, and one that lacks the tenant or the
user, opens no socket. -/
def JwtPayload.socketData (payload : JwtPayload) : Option SocketData := do
  guard (payload.type = some (utf16 "access"))
  let userId ← present payload.sub
  let tenantId ← present payload.tenantId
  return ⟨userId, tenantId⟩

/-! ## The server -/

/-- An event that has been emitted, and the sockets it has gone to. -/
structure Emission (ι : Type) where
  audience : Audience
  event : Event
  receivers : List ι
deriving DecidableEq

/-- What the server holds. The socket of a client is known by the process of the client. -/
structure Store (ι : Type) where
  sockets : List ι
  /-- The members of rooms. -/
  joined : List (ι × Text)
  emissions : List (Emission ι)
  now : Int
  /-- The times that the clock has told before. -/
  earlier : List Int

inductive Step where
  | connect | verify | join | leave | emit | tick
deriving DecidableEq

/-- Programs of the server, whose exceptions carry a message. -/
abbrev Program (ι α : Type) := Prog (Store ι) Step Text α

section Steps

variable {ι : Type} [DecidableEq ι]

namespace Store

def times (s : Store ι) : List Int := s.now :: s.earlier

def connected (s : Store ι) (i : ι) : Store ι := { s with sockets := s.sockets ++ [i] }

/-- A socket that has closed joins nothing. -/
def entered (s : Store ι) (i : ι) (room : Text) : Store ι :=
  if i ∈ s.sockets then { s with joined := s.joined ++ [(i, room)] } else s

/-- A socket that closes leaves its rooms. -/
def left (s : Store ι) (i : ι) : Store ι :=
  { s with sockets := s.sockets.filter (· ≠ i), joined := s.joined.filter (·.1 ≠ i) }

def members (s : Store ι) (room : Text) : List ι :=
  s.sockets.filter fun i => (i, room) ∈ s.joined

def emitted (s : Store ι) (audience : Audience) (event : Event) : Store ι :=
  { s with emissions := s.emissions ++ [⟨audience, event, s.members audience.room⟩] }

def told (s : Store ι) (now : Int) : Store ι := { s with now := now, earlier := s.times }

/-- The server as it starts. -/
def start (now : Int) : Store ι := ⟨[], [], [], now, []⟩

end Store

/-- A client opens its socket. -/
def connect (i : ι) : Program ι Unit := Prog.act .connect "" fun s => ((), s.connected i)

/-- `socket.disconnect(true)`, and what becomes of a socket whose client goes away. -/
def disconnect (i : ι) : Program ι Unit := Prog.act .leave "" fun s => ((), s.left i)

/-- `socket.join(room)`. -/
def join (i : ι) (room : Text) : Program ι Unit := Prog.act .join "" fun s => ((), s.entered i room)

/-- `jwt.verifyAsync(token)`, which rejects tokens that are not signed or that have expired. -/
def verifyAsync (verify : Int → Text → Option JwtPayload) (token : Text) :
    Program ι JwtPayload :=
  Prog.attempt .verify "invalid token" fun s => (verify s.now token).map (·, s)

def admitSocket (i : ι) (payload : JwtPayload) : Program ι Unit :=
  match payload.socketData with
  | none => throw (utf16 "not an access token")
  | some data => do
    join i (tenantRoom data.tenantId)
    join i (userRoom data.userId)

def handleConnection (verify : Int → Text → Option JwtPayload) (i : ι) (handshake : Handshake) :
    Program ι Unit :=
  match present (extractToken handshake) with
  | none => disconnect i
  | some token =>
    tryCatch (do admitSocket i (← verifyAsync verify token)) fun _ => disconnect i

def emitTo (audience : Audience) (event : Event) : Program ι Unit :=
  Prog.act .emit "" fun s => ((), s.emitted audience event)

def emitToTenant (tenantId : Text) (event : Event) : Program ι Unit :=
  emitTo (.tenant tenantId) event

def emitToUser (userId : Text) (event : Event) : Program ι Unit := emitTo (.user userId) event

/-! ## What modules emit -/

def emitRiskAlert (tenantId : Text) (payload : RiskAlertPayload) : Program ι Unit :=
  emitToTenant tenantId (.riskAlert payload)

def emitGuardianPauseCountdown (userId : Text) (payload : GuardianPauseCountdownPayload) :
    Program ι Unit :=
  emitToUser userId (.guardianPauseCountdown payload)

def emitTrustedContactReviewRequest (contactUserId : Text)
    (payload : TrustedContactReviewRequestPayload) : Program ι Unit :=
  emitToUser contactUserId (.trustedContactReviewRequest payload)

def emitFreezeLockTriggered (tenantId : Text) (payload : FreezeLockTriggeredPayload) :
    Program ι Unit :=
  emitToTenant tenantId (.freezeLockTriggered payload)

/-- What `websocket.adapter.ts` reads of a notification. -/
structure WebsocketArgs where
  body : Text
  tenantId : Option Text
  riskLevel : Option RiskLevel
  evidenceEventId : Option Text

/-- A notification goes to its whole tenant, whoever its recipient is. -/
def websocketSend (args : WebsocketArgs) : Program ι AdapterResult :=
  match present args.tenantId with
  | none => return .failed "websocket emit requires metadata.tenantId"
  | some tenantId => do
    emitRiskAlert tenantId ⟨args.riskLevel.getD .medium, args.body, args.evidenceEventId⟩
    return .sent none

/-- A call of a module. -/
inductive EmitCall where
  | riskAlert (tenantId : Text) (payload : RiskAlertPayload)
  | guardianPauseCountdown (userId : Text) (payload : GuardianPauseCountdownPayload)
  | trustedContactReviewRequest (contactUserId : Text)
    (payload : TrustedContactReviewRequestPayload)
  | freezeLockTriggered (tenantId : Text) (payload : FreezeLockTriggeredPayload)
  | notification (args : WebsocketArgs)

def EmitCall.program : EmitCall → Program ι Unit
  | riskAlert tenantId payload => emitRiskAlert tenantId payload
  | guardianPauseCountdown userId payload => emitGuardianPauseCountdown userId payload
  | trustedContactReviewRequest contactUserId payload =>
    emitTrustedContactReviewRequest contactUserId payload
  | freezeLockTriggered tenantId payload => emitFreezeLockTriggered tenantId payload
  | notification args => do let _ ← websocketSend args

/-! ## Processes -/

inductive Process (ι : Type) where
  | client (handshake : Handshake)
  /-- The network, in which clients go away. -/
  | network (gone : List ι)
  | emitter (calls : List EmitCall)
  | clock (times : List Int)

def closeAll : List ι → Program ι Unit
  | [] => pure ()
  | i :: rest => do
    disconnect i
    closeAll rest

def emitAll : List EmitCall → Program ι Unit
  | [] => pure ()
  | call :: rest => do
    call.program
    emitAll rest

def tell : List Int → Program ι Unit
  | [] => pure ()
  | now :: rest => do
    Prog.act .tick "" fun s => ((), s.told now)
    tell rest

def Process.program (verify : Int → Text → Option JwtPayload) (i : ι) :
    Process ι → Program ι Unit
  | client handshake => do
    connect i
    handleConnection verify i handshake
  | network gone => closeAll gone
  | emitter calls => emitAll calls
  | clock times => tell times

/-- The processes at the start of the server. -/
def server (verify : Int → Text → Option JwtPayload) (processes : ι → Process ι) (now : Int) :
    Pool ι (Store ι) (Program ι Unit) where
  shared := .start now
  locals i := (processes i).program verify i

abbrev EventRun := Pool.Run (Prog.interleaved (σ := Store ι) (ℓ := Step) (ε := Text) (α := Unit)
  (ι := ι) fun _ _ => True)

end Steps

/-! ## What the others do to a socket -/

section Sockets

variable {ι : Type} {i j : ι} {x y z : Store ι} {audiences : List Audience}

/-- The socket has not been opened, and is let into no room. What has been emitted since goes to it
where it has been in the room all the time, and only then. -/
structure Leaves (i : ι) (x y : Store ι) : Prop where
  sockets : i ∈ y.sockets → i ∈ x.sockets
  entered : ∀ room, (i, room) ∈ y.joined → (i, room) ∈ x.joined
  stayed : i ∈ y.sockets → ∀ room, (i, room) ∈ x.joined → (i, room) ∈ y.joined
  times : ∀ now ∈ x.times, now ∈ y.times
  emissions : ∃ new, y.emissions = x.emissions ++ new ∧ ∀ e ∈ new,
    (i ∈ e.receivers → (i, e.audience.room) ∈ x.joined) ∧
      (i ∈ y.sockets → (i, e.audience.room) ∈ x.joined → i ∈ e.receivers)

theorem Leaves.refl (i : ι) (x : Store ι) : Leaves i x x where
  sockets h := h
  entered _ h := h
  stayed _ _ h := h
  times _ h := h
  emissions := ⟨[], (List.append_nil _).symm, fun _ h => absurd h List.not_mem_nil⟩

theorem Leaves.trans (hxy : Leaves i x y) (hyz : Leaves i y z) : Leaves i x z where
  sockets h := hxy.sockets (hyz.sockets h)
  entered room h := hxy.entered room (hyz.entered room h)
  stayed h room hroom := hyz.stayed h room (hxy.stayed (hyz.sockets h) room hroom)
  times now h := hyz.times now (hxy.times now h)
  emissions := by
    obtain ⟨new, hnew, hreach⟩ := hxy.emissions
    obtain ⟨newer, hnewer, hreach'⟩ := hyz.emissions
    refine ⟨new ++ newer, by rw [hnewer, hnew, List.append_assoc], fun e he => ?_⟩
    rcases List.mem_append.mp he with he | he
    · obtain ⟨honly, hall⟩ := hreach e he
      exact ⟨honly, fun h => hall (hyz.sockets h)⟩
    · obtain ⟨honly, hall⟩ := hreach' e he
      exact ⟨fun h => hxy.entered _ (honly h),
        fun h hroom => hall h (hxy.stayed (hyz.sockets h) _ hroom)⟩

theorem closed_leaves (i : ι) : Closed (Leaves i) := ⟨Leaves.refl i, Leaves.trans⟩

/-- Nothing is emitted. -/
theorem Leaves.of_silent (hsockets : i ∈ y.sockets → i ∈ x.sockets)
    (hentered : ∀ room, (i, room) ∈ y.joined → (i, room) ∈ x.joined)
    (hstayed : i ∈ y.sockets → ∀ room, (i, room) ∈ x.joined → (i, room) ∈ y.joined)
    (htimes : ∀ now ∈ x.times, now ∈ y.times) (hemissions : y.emissions = x.emissions) :
    Leaves i x y where
  sockets := hsockets
  entered := hentered
  stayed := hstayed
  times := htimes
  emissions := ⟨[], hemissions.trans (List.append_nil _).symm, fun _ h => absurd h List.not_mem_nil⟩

/-! ## What a socket hears -/

/-- The socket is in rooms of these only, and has received nothing else. -/
structure Confined (audiences : List Audience) (i : ι) (x : Store ι) : Prop where
  joined : ∀ room, (i, room) ∈ x.joined → ∃ a ∈ audiences, a.room = room
  received : ∀ e ∈ x.emissions, i ∈ e.receivers → e.audience ∈ audiences

theorem Confined.audience_of_joined (h : Confined audiences i x) {a : Audience}
    (ha : (i, a.room) ∈ x.joined) : a ∈ audiences := by
  obtain ⟨b, hb, hroom⟩ := h.joined _ ha
  exact room_injective hroom ▸ hb

theorem Confined.leaves (h : Confined audiences i x) (hxy : Leaves i x y) :
    Confined audiences i y := by
  refine ⟨fun room hroom => h.joined room (hxy.entered room hroom), fun e he hi => ?_⟩
  obtain ⟨new, hnew, hreach⟩ := hxy.emissions
  rw [hnew] at he
  rcases List.mem_append.mp he with he | he
  · exact h.received e he hi
  · exact h.audience_of_joined ((hreach e he).1 hi)

theorem Confined.more (h : Confined [] i x) : Confined audiences i x where
  joined room hroom := by
    obtain ⟨a, ha, -⟩ := h.joined room hroom
    exact absurd ha List.not_mem_nil
  received e he hi := absurd (h.received e he hi) List.not_mem_nil

theorem Confined.connected (h : Confined audiences i x) : Confined audiences i (x.connected i) :=
  ⟨h.joined, h.received⟩

theorem confined_start (now : Int) : Confined [] i (.start now) :=
  ⟨fun _ h => absurd h List.not_mem_nil, fun _ h => absurd h List.not_mem_nil⟩

/-! ## What steps do -/

theorem leaves_connected (hij : i ≠ j) : Leaves i x (x.connected j) := by
  refine .of_silent (fun h => ?_) (fun _ h => h) (fun _ _ h => h) (fun _ h => h) rfl
  exact (List.mem_append.mp h).resolve_right fun h => hij (List.mem_singleton.mp h)

theorem leaves_told {now : Int} : Leaves i x (x.told now) :=
  .of_silent (fun h => h) (fun _ h => h) (fun _ _ h => h) (fun _ h => List.mem_cons_of_mem _ h) rfl

variable [DecidableEq ι]

theorem mem_joined_entered {room room' : Text} :
    (i, room') ∈ (x.entered j room).joined ↔
      (i, room') ∈ x.joined ∨ j ∈ x.sockets ∧ i = j ∧ room' = room := by
  rw [Store.entered]
  split
  · rename_i hopen
    simp [hopen]
  · rename_i hclosed
    simp [hclosed]

@[simp] theorem sockets_entered (x : Store ι) (j : ι) (room : Text) :
    (x.entered j room).sockets = x.sockets := by
  rw [Store.entered]
  split <;> rfl

@[simp] theorem times_entered (x : Store ι) (j : ι) (room : Text) :
    (x.entered j room).times = x.times := by
  rw [Store.entered]
  split <;> rfl

@[simp] theorem emissions_entered (x : Store ι) (j : ι) (room : Text) :
    (x.entered j room).emissions = x.emissions := by
  rw [Store.entered]
  split <;> rfl

theorem leaves_entered {room : Text} (hij : i ≠ j) : Leaves i x (x.entered j room) := by
  refine .of_silent (by simp) (fun room' h => ?_) (fun _ room' h => ?_) (by simp)
    (emissions_entered x j room)
  · exact (mem_joined_entered.mp h).resolve_right fun h => hij h.2.1
  · exact mem_joined_entered.mpr (Or.inl h)

theorem mem_sockets_left : i ∈ (x.left j).sockets ↔ i ∈ x.sockets ∧ i ≠ j := by
  rw [Store.left, List.mem_filter, decide_eq_true_iff]

theorem leaves_left : Leaves i x (x.left j) := by
  refine .of_silent (fun h => (mem_sockets_left.mp h).1) (fun _ h => List.mem_of_mem_filter h)
    (fun h room hroom => ?_) (fun _ h => h) rfl
  exact List.mem_filter.mpr ⟨hroom, decide_eq_true (mem_sockets_left.mp h).2⟩

theorem mem_members {room : Text} :
    i ∈ x.members room ↔ i ∈ x.sockets ∧ (i, room) ∈ x.joined := by
  rw [Store.members, List.mem_filter, decide_eq_true_iff]

theorem leaves_emitted {audience : Audience} {event : Event} :
    Leaves i x (x.emitted audience event) where
  sockets h := h
  entered _ h := h
  stayed _ _ h := h
  times _ h := h
  emissions := by
    refine ⟨[⟨audience, event, x.members audience.room⟩], rfl, fun e he => ?_⟩
    obtain rfl := List.mem_singleton.mp he
    exact ⟨fun h => (mem_members.mp h).2, fun h hroom => mem_members.mpr ⟨h, hroom⟩⟩

theorem Confined.entered (h : Confined audiences i x) {a : Audience} (ha : a ∈ audiences) :
    Confined audiences i (x.entered i a.room) := by
  refine ⟨fun room hroom => ?_, fun e he => ?_⟩
  · rcases mem_joined_entered.mp hroom with hroom | ⟨-, -, rfl⟩
    · exact h.joined room hroom
    · exact ⟨a, ha, rfl⟩
  · rw [emissions_entered] at he
    exact h.received e he

end Sockets

/-! ## Connections among others -/

section Runs

variable {ι : Type} [DecidableEq ι] {verify : Int → Text → Option JwtPayload}
  {processes : ι → Process ι} {i : ι} {x y : Store ι} {handshake : Handshake} {data : SocketData}
  {now : Int} {s t : Pool ι (Store ι) (Program ι Unit)}

/-- The client has presented an access token of this user in this tenant, which was valid at a time
that the clock has told. -/
def Presented (verify : Int → Text → Option JwtPayload) (handshake : Handshake)
    (data : SocketData) (x : Store ι) : Prop :=
  ∃ token ∈ extractToken handshake, ∃ now ∈ x.times, ∃ payload ∈ verify now token,
    payload.type = some (utf16 "access") ∧ payload.sub = some data.userId ∧
      payload.tenantId = some data.tenantId

omit [DecidableEq ι] in
theorem Presented.mono (h : Presented verify handshake data x)
    (htimes : ∀ now ∈ x.times, now ∈ y.times) : Presented verify handshake data y := by
  obtain ⟨token, htoken, now, hnow, hrest⟩ := h
  exact ⟨token, htoken, now, htimes now hnow, hrest⟩

theorem Presented.entered (h : Presented verify handshake data x) (j : ι) (room : Text) :
    Presented verify handshake data (x.entered j room) :=
  h.mono (by simp)

omit [DecidableEq ι] in
theorem presented_of_socketData {token : Text} {payload : JwtPayload}
    (htoken : extractToken handshake = some token) (hverify : verify x.now token = some payload)
    (hdata : payload.socketData = some data) : Presented verify handshake data x := by
  obtain ⟨_, haccess, hrest⟩ := Option.bind_eq_some_iff.mp hdata
  obtain ⟨userId, huser, hrest⟩ := Option.bind_eq_some_iff.mp hrest
  obtain ⟨tenantId, htenant, hsome⟩ := Option.bind_eq_some_iff.mp hrest
  obtain rfl := Option.some.inj hsome
  refine ⟨token, htoken, x.now, List.mem_cons_self, payload, hverify, ?_,
    eq_some_of_present huser, eq_some_of_present htenant⟩
  by_contra hne
  simp [guard, hne] at haccess

/-- What the socket has received is of one tenant and one user, whose token it has presented. -/
def Accounted (verify : Int → Text → Option JwtPayload) (processes : ι → Process ι) (i : ι)
    (x : Store ι) : Prop :=
  Confined [] i x ∨ ∃ handshake data, processes i = .client handshake ∧
    Presented verify handshake data x ∧ Confined data.audiences i x

omit [DecidableEq ι] in
theorem Accounted.leaves (h : Accounted verify processes i x) (hxy : Leaves i x y) :
    Accounted verify processes i y := by
  rcases h with h | ⟨handshake, data, hi, hpresented, h⟩
  · exact Or.inl (h.leaves hxy)
  · exact Or.inr ⟨handshake, data, hi, hpresented.mono hxy.times, h.leaves hxy⟩

/-- The socket is in the rooms, unless it has closed. -/
def InRooms (audiences : List Audience) (i : ι) (x : Store ι) : Prop :=
  i ∈ x.sockets → ∀ a ∈ audiences, (i, a.room) ∈ x.joined

omit [DecidableEq ι] in
theorem InRooms.leaves {audiences : List Audience} (h : InRooms audiences i x)
    (hxy : Leaves i x y) : InRooms audiences i y :=
  fun hi a ha => hxy.stayed hi _ (h (hxy.sockets hi) a ha)

theorem InRooms.entered {audiences : List Audience} (h : InRooms audiences i x) (a : Audience) :
    InRooms (audiences ++ [a]) i (x.entered i a.room) := by
  intro hi b hb
  rw [sockets_entered] at hi
  rcases List.mem_append.mp hb with hb | hb
  · exact mem_joined_entered.mpr (Or.inl (h hi b hb))
  · exact mem_joined_entered.mpr (Or.inr ⟨hi, rfl, congrArg _ (List.mem_singleton.mp hb)⟩)

/-- The gateway is through with the socket. -/
def Settled (verify : Int → Text → Option JwtPayload) (processes : ι → Process ι) (i : ι)
    (x : Store ι) : Prop :=
  ∀ handshake, processes i = .client handshake → i ∈ x.sockets → ∃ data,
    Presented verify handshake data x ∧ Confined data.audiences i x ∧ InRooms data.audiences i x

omit [DecidableEq ι] in
theorem Settled.leaves (h : Settled verify processes i x) (hxy : Leaves i x y) :
    Settled verify processes i y := by
  intro handshake hi hopen
  obtain ⟨data, hpresented, hconfined, hrooms⟩ := h handshake hi (hxy.sockets hopen)
  exact ⟨data, hpresented.mono hxy.times, hconfined.leaves hxy, hrooms.leaves hxy⟩

/-- A process leaves the sockets of others to them. -/
def own (i : ι) : Contract (Store ι) Step where
  may _ _ := True
  rely := Leaves i
  guar x y := ∀ j, j ≠ i → Leaves j x y

omit [DecidableEq ι] in
/-- A step that leaves all sockets to their clients. -/
theorem within_of_leaves (h : ∀ j, Leaves j x y) (hx : ∀ j, Accounted verify processes j x) :
    Prog.Within (fun x => ∀ j, Accounted verify processes j x) (own i) x y :=
  ⟨fun j => (hx j).leaves (h j), fun j _ => h j⟩

theorem within_entered {a : Audience} (hi : processes i = .client handshake)
    (hpresented : Presented verify handshake data x) (hconfined : Confined data.audiences i x)
    (ha : a ∈ data.audiences) (hx : ∀ j, Accounted verify processes j x) :
    Prog.Within (fun x => ∀ j, Accounted verify processes j x) (own i) x
      (x.entered i a.room) := by
  refine ⟨fun j => ?_, fun j hj => leaves_entered hj⟩
  by_cases hj : j = i
  · subst hj
    exact Or.inr ⟨handshake, data, hi, hpresented.entered j a.room, hconfined.entered ha⟩
  · exact (hx j).leaves (leaves_entered hj)

/-! ### Processes that open no socket -/

/-- No step opens a socket or lets one into a room. -/
abbrev Unopened : Program ι Unit → Prop := Prog.Each fun _ x y => ∀ j, Leaves j x y

theorem unopened_disconnect (i : ι) : Unopened (disconnect i) :=
  Prog.Each.act fun _ _ => leaves_left

theorem unopened_emitTo (audience : Audience) (event : Event) :
    Unopened (emitTo audience event : Program ι Unit) :=
  Prog.Each.act fun _ _ => leaves_emitted

theorem unopened_websocketSend (args : WebsocketArgs) :
    Unopened (do let _ ← (websocketSend args : Program ι _)) := by
  rw [websocketSend]
  split
  · exact Prog.Each.pure _
  · exact Prog.Each.bind (Prog.Each.bind (unopened_emitTo _ _) fun _ => Prog.Each.pure _) fun _ =>
      Prog.Each.pure _

theorem unopened_call (call : EmitCall) : Unopened (call.program : Program ι Unit) := by
  cases call with
  | riskAlert tenantId payload => exact unopened_emitTo _ _
  | guardianPauseCountdown userId payload => exact unopened_emitTo _ _
  | trustedContactReviewRequest contactUserId payload => exact unopened_emitTo _ _
  | freezeLockTriggered tenantId payload => exact unopened_emitTo _ _
  | notification args => exact unopened_websocketSend args

theorem unopened_closeAll (gone : List ι) : Unopened (closeAll gone) := by
  induction gone with
  | nil => exact Prog.Each.pure _
  | cons i rest ih => exact Prog.Each.bind (unopened_disconnect i) fun _ => ih

theorem unopened_emitAll (calls : List EmitCall) : Unopened (emitAll calls : Program ι Unit) := by
  induction calls with
  | nil => exact Prog.Each.pure _
  | cons call rest ih => exact Prog.Each.bind (unopened_call call) fun _ => ih

omit [DecidableEq ι] in
theorem unopened_tell (times : List Int) : Unopened (tell times : Program ι Unit) := by
  induction times with
  | nil => exact Prog.Each.pure _
  | cons now rest ih => exact Prog.Each.bind (Prog.Each.act fun _ _ => leaves_told) fun _ => ih

omit [DecidableEq ι] in
/-- What opens no socket of its own is within the contract, and brings about what holds of closed
sockets. -/
theorem ensures_unopened {q : Program ι Unit} (hq : Unopened q) {post : Unit → Store ι → Prop}
    (hpost : ∀ y, Leaves i x y → post () y) :
    q.Ensures (fun x => ∀ j, Accounted verify processes j x) (own i) post x :=
  Prog.Ensures.each (closed_leaves i)
    (hq.mono fun _ _ _ h hx => ⟨within_of_leaves h hx, h i⟩) fun _ => hpost

/-! ### Clients -/

/-- A socket is closed, and stays so. -/
theorem ensures_disconnect :
    (disconnect i).Ensures (fun x => ∀ j, Accounted verify processes j x) (own i)
      (fun _ => Settled verify processes i) x := by
  refine fun y _ hy => ⟨fun _ => ⟨within_of_leaves (fun _ => leaves_left) hy, ?_⟩, trivial⟩
  intro z hz handshake _ hopen
  exact absurd rfl (mem_sockets_left.mp (hz.sockets hopen)).2

theorem ensures_admitSocket {payload : JwtPayload} (hi : processes i = .client handshake)
    (hconfined : Confined [] i x)
    (hpresented : ∀ data, payload.socketData = some data → Presented verify handshake data x) :
    (admitSocket i payload).Ensures (fun x => ∀ j, Accounted verify processes j x) (own i)
      (fun _ => Settled verify processes i) x := by
  rw [admitSocket]
  cases hdata : payload.socketData with
  | none => trivial
  | some data =>
    have hpresented := hpresented data hdata
    have htenant : Audience.tenant data.tenantId ∈ data.audiences := List.mem_cons_self
    have huser : Audience.user data.userId ∈ data.audiences :=
      List.mem_cons_of_mem _ List.mem_cons_self
    refine Prog.Ensures.act_bind fun y hxy hy _ => ?_
    have hpresented := hpresented.mono hxy.times
    have hconfined : Confined data.audiences i y := (hconfined.leaves hxy).more
    refine ⟨within_entered hi hpresented hconfined htenant hy, ?_⟩
    have hpresented := hpresented.entered i (Audience.tenant data.tenantId).room
    have hconfined := hconfined.entered htenant
    have hrooms : InRooms [] i y := fun _ _ h => absurd h List.not_mem_nil
    have hrooms := hrooms.entered (.tenant data.tenantId)
    refine fun z hyz hz => ⟨fun _ => ?_, trivial⟩
    have hpresented := hpresented.mono hyz.times
    have hconfined := hconfined.leaves hyz
    refine ⟨within_entered hi hpresented hconfined huser hz, fun u hzu => ?_⟩
    have hrooms := (hrooms.leaves hyz).entered (.user data.userId)
    refine Settled.leaves (x := z.entered i (Audience.user data.userId).room) ?_ hzu
    intro handshake' hi' _
    obtain rfl := Process.client.inj (hi.symm.trans hi')
    exact ⟨data, hpresented.entered i _, hconfined.entered huser, hrooms⟩

theorem ensures_handleConnection (hi : processes i = .client handshake)
    (hconfined : Confined [] i x) :
    (handleConnection verify i handshake).Ensures
      (fun x => ∀ j, Accounted verify processes j x) (own i)
      (fun _ => Settled verify processes i) x := by
  rw [handleConnection]
  cases htoken : present (extractToken handshake) with
  | none => exact ensures_disconnect
  | some token =>
    refine Prog.Ensures.tryCatch ?_ fun _ _ => ensures_disconnect
    refine Prog.Ensures.attempt_bind (fun y payload z hxy hy _ hverify => ?_)
      fun y _ hy _ _ => within_of_leaves (fun j => .refl j y) hy
    obtain ⟨_, hpayload, hpair⟩ := Option.map_eq_some_iff.mp hverify
    obtain ⟨rfl, rfl⟩ := Prod.mk.inj hpair
    refine ⟨within_of_leaves (fun j => .refl j y) hy, ?_⟩
    exact ensures_admitSocket hi (hconfined.leaves hxy) fun data hdata =>
      presented_of_socketData (eq_some_of_present htoken) hpayload hdata

theorem ensures_process (hconfined : Confined [] i x) :
    ((processes i).program verify i).Ensures (fun x => ∀ j, Accounted verify processes j x)
      (own i) (fun _ => Settled verify processes i) x := by
  cases hi : processes i with
  | client handshake =>
    refine Prog.Ensures.act_bind fun y hxy hy _ => ?_
    have hconnected := (hconfined.leaves hxy).connected
    refine ⟨⟨fun j => ?_, fun j hj => leaves_connected hj⟩, ensures_handleConnection hi hconnected⟩
    by_cases hj : j = i
    · subst hj
      exact Or.inl hconnected
    · exact (hy j).leaves (leaves_connected hj)
  | network gone =>
    refine ensures_unopened (unopened_closeAll gone) fun y _ handshake hclient => ?_
    rw [hi] at hclient
    cases hclient
  | emitter calls =>
    refine ensures_unopened (unopened_emitAll calls) fun y _ handshake hclient => ?_
    rw [hi] at hclient
    cases hclient
  | clock times =>
    refine ensures_unopened (unopened_tell times) fun y _ handshake hclient => ?_
    rw [hi] at hclient
    cases hclient

theorem run_accounted (hrun : EventRun (server verify processes now) t) :
    (∀ i, Accounted verify processes i t.shared) ∧ ∀ i, (t.locals i).Ensures
      (fun x => ∀ j, Accounted verify processes j x) (own i)
      (fun _ => Settled verify processes i) t.shared :=
  Run.ensures (c := own) (fun i _ => Settled verify processes i) hrun closed_leaves
    (fun _ x j _ => .refl j x) (fun _ j _ _ hj h => h j hj)
    (fun _ => Or.inl (confined_start now)) fun _ => ensures_process (confined_start now)

/-! ### Clients of two tenants -/

def samplePayload (tenantId : Text) : JwtPayload :=
  ⟨some (utf16 "access"), some (utf16 "user"), some tenantId⟩

/-- Tokens are the ids of their tenants, for as long as they are valid. -/
def sampleVerify (now : Int) (token : Text) : Option JwtPayload :=
  if now < 10 then some (samplePayload token) else none

def sampleHandshake (tenantId : Text) : Handshake :=
  ⟨.undefined, some (.one (BEARER ++ tenantId))⟩

/-- Two clients, a module that alerts the tenant of the first one, and the network. -/
def sampleProcesses : Bool × Bool → Process (Bool × Bool)
  | (false, false) => .client (sampleHandshake "A")
  | (false, true) => .client (sampleHandshake "B")
  | (true, false) => .emitter [.riskAlert "A" ⟨.high, "scam", none⟩]
  | (true, true) => .network []

/-- Both clients are let in. -/
def sampleOpened : Pool (Bool × Bool) (Store (Bool × Bool)) (Program (Bool × Bool) Unit) :=
  Prog.turns (server sampleVerify sampleProcesses 0) [((false, false), 4), ((false, true), 4)]

def sampleAlerted : Pool (Bool × Bool) (Store (Bool × Bool)) (Program (Bool × Bool) Unit) :=
  Prog.turns sampleOpened [((true, false), 1)]

theorem sampleOpened_run : EventRun (server sampleVerify sampleProcesses 0) sampleOpened :=
  Prog.run_turns .refl (Prog.permittedTurns_true _ _)

theorem sampleAlerted_run : EventRun sampleOpened sampleAlerted :=
  Prog.run_turns .refl (Prog.permittedTurns_true _ _)

/-- The alert is emitted by then. -/
theorem sampleAlerted_server : EventRun (server sampleVerify sampleProcesses 0) sampleAlerted :=
  Prog.run_turns sampleOpened_run (Prog.permittedTurns_true _ _)

theorem extractToken_sample (tenantId : Text) :
    extractToken (sampleHandshake tenantId) = some tenantId := by
  have hbearer : BEARER.isPrefixOf (BEARER ++ tenantId) = true :=
    List.isPrefixOf_iff_prefix.mpr (List.prefix_append _ _)
  show (if BEARER.isPrefixOf (BEARER ++ tenantId) then _ else none) = _
  rw [if_pos hbearer]
  exact congrArg some (List.drop_left' rfl)

theorem tenantId_of_presented {tenantId : Text} {x : Store (Bool × Bool)} {data : SocketData}
    (h : Presented sampleVerify (sampleHandshake tenantId) data x) : data.tenantId = tenantId := by
  obtain ⟨token, htoken, now, -, payload, hpayload, -, -, htenant⟩ := h
  obtain rfl := Option.some.inj ((extractToken_sample tenantId).symm.trans htoken)
  rw [Option.mem_def, sampleVerify] at hpayload
  split at hpayload
  · obtain rfl := Option.some.inj hpayload
    exact (Option.some.inj htenant).symm
  · cases hpayload

/-! ### What a client receives -/

/-- **Deliveries are addressed**: all that a socket has received, in any interleaving and with any
failing steps, was emitted to one tenant or to one user, those of an access token that its client
has presented and that was valid at a time before. -/
theorem deliveries_addressed (hrun : EventRun (server verify processes now) t) (i : ι) :
    (∀ e ∈ t.shared.emissions, i ∉ e.receivers) ∨
      ∃ handshake data, processes i = .client handshake ∧
        Presented verify handshake data t.shared ∧ ∀ e ∈ t.shared.emissions, i ∈ e.receivers →
          e.audience = .tenant data.tenantId ∨ e.audience = .user data.userId := by
  rcases (run_accounted hrun).1 i with h | ⟨handshake, data, hi, hpresented, h⟩
  · exact Or.inl fun e he hreceived => absurd (h.received e he hreceived) List.not_mem_nil
  · refine Or.inr ⟨handshake, data, hi, hpresented, fun e he hreceived => ?_⟩
    simpa only [SocketData.audiences, List.mem_cons, List.not_mem_nil, or_false] using
      h.received e he hreceived

theorem deliveries_addressed_sample :
    (∃ e ∈ sampleAlerted.shared.emissions, e.audience = .tenant "A") ∧
      ∀ e ∈ sampleAlerted.shared.emissions, (false, true) ∈ e.receivers →
        e.audience ≠ .tenant "A" := by
  refine ⟨by decide, fun e he hreceived hother => ?_⟩
  rcases deliveries_addressed sampleAlerted_server (false, true) with
    h | ⟨handshake, data, hi, hpresented, h⟩
  · exact h e he hreceived
  · obtain rfl := Process.client.inj hi
    rcases h e he hreceived with htenant | huser
    · rw [hother, tenantId_of_presented hpresented] at htenant
      exact absurd (Audience.tenant.inj htenant) (by decide)
    · rw [hother] at huser
      cases huser

/-! ### What reaches a client -/

theorem guarded_admitSocket (payload : JwtPayload) :
    (admitSocket i payload).Each fun _ x y => ∀ j, j ≠ i → Leaves j x y := by
  rw [admitSocket]
  cases payload.socketData with
  | none => exact Prog.Each.throw _
  | some data =>
    exact Prog.Each.bind (Prog.Each.act fun _ _ hj => leaves_entered hj) fun _ =>
      Prog.Each.act fun _ _ hj => leaves_entered hj

/-- The steps of a process leave the sockets of others to them. -/
theorem guarded_process (i : ι) :
    ((processes i).program verify i).Each fun _ x y => ∀ j, j ≠ i → Leaves j x y := by
  have hunopened : ∀ {q : Program ι Unit}, Unopened q →
      q.Each fun _ x y => ∀ j, j ≠ i → Leaves j x y :=
    fun hq => hq.mono fun _ _ _ h j _ => h j
  cases processes i with
  | client handshake =>
    refine Prog.Each.bind (Prog.Each.act fun _ _ hj => leaves_connected hj) fun _ => ?_
    rw [handleConnection]
    split
    · exact hunopened (unopened_disconnect i)
    · refine Prog.Each.tryCatch (Prog.Each.bind ?_ guarded_admitSocket) fun _ =>
        hunopened (unopened_disconnect i)
      refine Prog.Each.attempt (fun x payload y hverify j _ => ?_) fun x _ j _ => .refl j x
      obtain ⟨_, -, hpair⟩ := Option.map_eq_some_iff.mp hverify
      obtain ⟨-, rfl⟩ := Prod.mk.inj hpair
      exact .refl j x
  | network gone => exact hunopened (unopened_closeAll gone)
  | emitter calls => exact hunopened (unopened_emitAll calls)
  | clock times => exact hunopened (unopened_tell times)

/-- From when the gateway is through with a socket on, everybody leaves it to its client. -/
theorem run_leaves (hrun : EventRun (server verify processes now) s)
    (hdone : (s.locals i).returned = some ()) (hrest : EventRun s t) :
    Leaves i s.shared t.shared := by
  have heach := (Run.each_by (R := fun j _ x y => ∀ k, k ≠ j → Leaves k x y) (I := fun _ => True)
    hrun guarded_process trivial fun _ _ _ _ _ _ _ => trivial).2
  refine (Run.each_by (R := fun _ _ x y => Leaves i x y) (I := Leaves i s.shared) hrest
    (fun j => ?_) (.refl i s.shared) fun _ _ _ _ _ hstep h => h.trans hstep).1
  by_cases hj : j = i
  · subst hj
    rw [Prog.eq_pure_of_returned hdone]
    exact Prog.Each.pure _
  · exact (heach j).mono fun _ _ _ h => h i fun hij => hj hij.symm

/-- **Clients are reached**: once the gateway is through with a socket, what is emitted goes to it
exactly where it is addressed to the tenant or to the user of the token, until the socket
closes. -/
theorem clients_reached (hi : processes i = .client handshake)
    (hrun : EventRun (server verify processes now) s) (hdone : (s.locals i).returned = some ())
    (hrest : EventRun s t) (hopen : i ∈ t.shared.sockets) :
    ∃ data, Presented verify handshake data s.shared ∧
      ∀ e ∈ t.shared.emissions.drop s.shared.emissions.length,
        i ∈ e.receivers ↔ e.audience = .tenant data.tenantId ∨ e.audience = .user data.userId := by
  have hleaves := run_leaves hrun hdone hrest
  have hpost := (run_accounted hrun).2 i
  rw [Prog.eq_pure_of_returned hdone] at hpost
  have hsettled : Settled verify processes i s.shared := hpost s.shared (.refl i s.shared)
  obtain ⟨data, hpresented, hconfined, hrooms⟩ := hsettled handshake hi (hleaves.sockets hopen)
  refine ⟨data, hpresented, fun e he => ?_⟩
  obtain ⟨new, hnew, hreach⟩ := hleaves.emissions
  rw [hnew, List.drop_left] at he
  obtain ⟨honly, hall⟩ := hreach e he
  have haudience : e.audience ∈ data.audiences ↔
      e.audience = .tenant data.tenantId ∨ e.audience = .user data.userId := by
    simp only [SocketData.audiences, List.mem_cons, List.not_mem_nil, or_false]
  rw [← haudience]
  exact ⟨fun h => hconfined.audience_of_joined (honly h),
    fun h => hall hopen (hrooms (hleaves.sockets hopen) _ h)⟩

theorem clients_reached_sample :
    (∃ e ∈ sampleAlerted.shared.emissions.drop sampleOpened.shared.emissions.length,
      e.audience = .tenant "A") ∧
    ∀ e ∈ sampleAlerted.shared.emissions.drop sampleOpened.shared.emissions.length,
      e.audience = .tenant "A" → (false, false) ∈ e.receivers := by
  refine ⟨by decide, fun e he haudience => ?_⟩
  obtain ⟨data, hpresented, h⟩ := clients_reached (i := (false, false)) rfl sampleOpened_run
    (by decide) sampleAlerted_run (by decide)
  rw [h e he, tenantId_of_presented hpresented]
  exact Or.inl haudience

end Runs

end Events
