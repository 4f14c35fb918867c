import Mathlib.Logic.Function.Basic
import Vigiscam.Common.CacheRuns

/-!
# Invalidation across processes (`cache-invalidation-bus.ts`)

The processes that share a Redis channel publish their deletes on it, each under its own node id,
and drop what comes under that id as their own echo. The node id is the HOSTNAME of the process's
environment, where it has one: two processes with one HOSTNAME take each other's messages for
echoes (`invalidation_reaches_iff`).

Redis has, for every process, the messages that it has still to deliver. It delivers them in any
order, and may lose some.
-/

namespace Common

open Js Concurrency

variable {ι α : Type} [DecidableEq ι]

/-! ## The bus -/

/-- What a process is given when it starts. -/
structure Environment where
  hostname : Option Text
  /-- `Math.random().toString(36).slice(2, 10)` -/
  random : Text

def Environment.nodeId (env : Environment) : Text :=
  env.hostname.getD (utf16 "node-" ++ env.random)

/-- A message on the channel. Who sent it is not on the wire, but for the node id. -/
structure Wire (ι : Type) where
  sender : ι
  nodeId : Text
  msg : InvalidationMessage

structure Network (ι α : Type) where
  caches : ι → Cache α
  /-- What is still to be delivered to a process. -/
  inbox : ι → List (Wire ι)

def Network.start : Network ι α := ⟨fun _ => Cache.empty, fun _ => []⟩

/-- What a call publishes. -/
def CacheCall.published : CacheCall α → Option InvalidationMessage
  | .delete key => some (.delete key)
  | .deletePrefix start => some (.deletePrefix start)
  | .get _ | .set _ _ _ | .clear | .message _ => none

/-- Redis takes a message for every subscriber, the sender among them. -/
def Network.publish (env : ι → Environment) (sender : ι) (msg : InvalidationMessage)
    (net : Network ι α) : Network ι α :=
  { net with inbox := fun i => net.inbox i ++ [⟨sender, (env sender).nodeId, msg⟩] }

/-- The subscriber: a message under its own node id is its echo. -/
def receive (env : Environment) (wire : Wire ι) (cache : Cache α) : Cache α :=
  if wire.nodeId = env.nodeId then cache else cache.onMessage wire.msg

inductive NetworkEvent (ι α : Type) where
  /-- A call of the cache of a process. -/
  | call (i : ι) (e : CacheEvent α) (own : ∀ msg, e.call ≠ .message msg)
  /-- Redis delivers a message that waits for a process, whichever it is. -/
  | deliver (i : ι) (n : Nat)
  /-- Redis loses it. -/
  | lose (i : ι) (n : Nat)

def Network.drop (i : ι) (n : Nat) (net : Network ι α) : Network ι α :=
  { net with inbox := Function.update net.inbox i ((net.inbox i).eraseIdx n) }

def Network.update (i : ι) (f : Cache α → Cache α) (net : Network ι α) : Network ι α :=
  { net with caches := Function.update net.caches i (f (net.caches i)) }

def NetworkEvent.exec (env : ι → Environment) (event : NetworkEvent ι α) (net : Network ι α) :
    Network ι α :=
  match event with
  | .call i e _ =>
    match e.call.published with
    | some msg => (net.update i e.exec).publish env i msg
    | none => net.update i e.exec
  | .deliver i n =>
    match (net.inbox i)[n]? with
    | some wire => (net.update i (receive (env i) wire)).drop i n
    | none => net
  | .lose i n => net.drop i n

variable {env : ι → Environment} {net : Network ι α} {i j : ι}

/-! ## What a delivery does -/

/-- Every message that waits is tagged with the node id of its sender. -/
def Tagged (env : ι → Environment) (net : Network ι α) : Prop :=
  ∀ i, ∀ wire ∈ net.inbox i, wire.nodeId = (env wire.sender).nodeId

omit [DecidableEq ι] in
theorem tagged_start : Tagged env (Network.start : Network ι α) := by
  intro i wire hwire
  exact absurd hwire List.not_mem_nil

omit [DecidableEq ι] in
theorem Tagged.publish (h : Tagged env net) (sender : ι) (msg : InvalidationMessage) :
    Tagged env (net.publish env sender msg) := by
  intro i wire hwire
  rcases List.mem_append.mp hwire with hmem | hmem
  · exact h i wire hmem
  · rw [List.mem_singleton.mp hmem]

theorem Tagged.drop (h : Tagged env net) (i : ι) (n : Nat) : Tagged env (net.drop i n) := by
  intro j wire hwire
  by_cases hj : j = i
  · subst hj
    simp only [Network.drop, Function.update_self] at hwire
    exact h j wire (List.mem_of_mem_eraseIdx hwire)
  · simp only [Network.drop, Function.update_of_ne hj] at hwire
    exact h j wire hwire

theorem Tagged.exec (h : Tagged env net) (event : NetworkEvent ι α) :
    Tagged env (event.exec env net) := by
  unfold NetworkEvent.exec
  cases event with
  | call i e _ =>
    have hcalled : Tagged env (net.update i e.exec) := h
    dsimp only
    split
    · exact hcalled.publish i _
    · exact hcalled
  | deliver i n =>
    dsimp only
    split
    · next wire _ =>
      have hreceived : Tagged env (net.update i (receive (env i) wire)) := h
      exact hreceived.drop i n
    · exact h
  | lose i n => exact h.drop i n

theorem tagged_after (env : ι → Environment) (events : List (NetworkEvent ι α)) :
    Tagged env (after (NetworkEvent.exec env) Network.start events) := by
  induction events using List.reverseRecOn with
  | nil => exact tagged_start
  | append_singleton events event ih =>
    rw [after_concat]
    exact ih.exec event

theorem caches_deliver {n : Nat} {wire : Wire ι} (h : (net.inbox i)[n]? = some wire) :
    ((NetworkEvent.deliver i n).exec env net).caches i = receive (env i) wire (net.caches i) := by
  simp [NetworkEvent.exec, h, Network.drop, Network.update]

omit [DecidableEq ι] in
/-- A message that is not taken for an echo leaves no key that it is about. -/
theorem cleared_receive {wire : Wire ι} {self : Environment} {cache : Cache α}
    (hne : wire.nodeId ≠ self.nodeId) :
    ∀ item ∈ (receive self wire cache).items, ¬ wire.msg.Matches item.key := by
  intro item hitem
  rw [receive, if_neg hne] at hitem
  exact (mem_onMessage.mp hitem).2

/-! ## Two processes with one node id -/

/-- One process sets a key, and the other deletes it. -/
def crossing (i j : ι) (key : Text) (value : α) : List (NetworkEvent ι α) :=
  [.call i ⟨.set key value 60000, 0⟩ (by simp), .call j ⟨.delete key, 0⟩ (by simp)]

theorem after_crossing (env : ι → Environment) (hne : i ≠ j) (key : Text) (value : α) :
    (after (NetworkEvent.exec env) Network.start (crossing i j key value)).caches i =
        Cache.empty.set key value 60000 0 ∧
      (after (NetworkEvent.exec env) Network.start (crossing i j key value)).inbox i =
        [⟨j, (env j).nodeId, .delete key⟩] := by
  simp [crossing, after, NetworkEvent.exec, CacheCall.published, Network.publish, Network.update,
    Network.start, CacheEvent.exec, Function.update_of_ne hne]

/-- **When invalidation reaches the other processes**: in every run, whatever message of another
process is delivered to a process leaves it without the keys that the message is about, exactly
where no two processes have the same node id. -/
theorem invalidation_reaches_iff [Inhabited α] (env : ι → Environment) :
    (∀ (before : List (NetworkEvent ι α)) i n wire,
      ((after (NetworkEvent.exec env) Network.start before).inbox i)[n]? = some wire →
      wire.sender ≠ i →
        ∀ item ∈ ((after (NetworkEvent.exec env) Network.start
          (before ++ [.deliver i n])).caches i).items, ¬ wire.msg.Matches item.key) ↔
      ∀ i j, i ≠ j → (env i).nodeId ≠ (env j).nodeId := by
  constructor
  · intro hreaches i j hne hsame
    obtain ⟨hcache, hinbox⟩ := after_crossing env hne [] (default : α)
    have hwire : ((after (NetworkEvent.exec env) Network.start
        (crossing i j [] (default : α))).inbox i)[0]? =
          some ⟨j, (env j).nodeId, .delete []⟩ := by
      rw [hinbox]
      rfl
    refine hreaches _ i 0 _ hwire (Ne.symm hne) ⟨[], default, 60000⟩ ?_ rfl
    rw [after_concat, caches_deliver hwire, hcache, receive, if_pos hsame.symm]
    exact mem_put_self ..
  · intro hdistinct before i n wire hwire hsender
    have htag := tagged_after env before i wire (List.mem_of_getElem? hwire)
    rw [after_concat, caches_deliver hwire]
    exact cleared_receive (htag ▸ hdistinct wire.sender i hsender)

/-- Two processes on the host `api-1`. -/
def oneHost (i : Bool) : Environment := ⟨some "api-1", if i then "a" else "b"⟩

/-- **A deleted key is served**: the other process on the host takes the message for its echo. -/
theorem deleted_key_served :
    let net := after (NetworkEvent.exec oneHost) Network.start
      (crossing false true (utf16 "registry:1") "published" ++ [.deliver false 0, .deliver true 0])
    net.inbox false = [] ∧ net.inbox true = [] ∧
      ((net.caches true).get (utf16 "registry:1") 1).1 = none ∧
      ((net.caches false).get (utf16 "registry:1") 1).1 = some "published" := by
  refine ⟨rfl, rfl, ?_, ?_⟩ <;> decide

end Common
