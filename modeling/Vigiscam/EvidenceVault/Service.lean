import Vigiscam.EvidenceVault.Event

/-!
# The evidence log of a tenant (`evidence.service.ts`)

`append` reads the last row of the tenant's chain, hashes the new event over that
row's hash and inserts it; `verifyChain` walks the chain in sequence order. This
module has the functions the two are made of. How appends interleave is in
`Vigiscam.EvidenceVault.Runs`.

`verifyChain_intact_iff` states what the verifier checks: every row names the
hash of the row before it (`Links`), and every row hashes to what it says.
-/

namespace EvidenceVault

open Js Value

/-! ## The data of an append -/

/-- Input for appending one event to the evidence chain. A field that the caller
leaves out is `none`, and metadata that it leaves out is `undefined`. -/
structure AppendEvidenceInput where
  tenantId : Option Text
  actorId : Option Text
  actorType : Option Text
  entityType : Text
  entityId : Text
  eventType : Text
  eventDescription : Text
  metadata : Value
  ipAddress : Option Text
  deviceId : Option Text
  metadata_distinct : Distinct metadata

/-- A call of `append`: its input, and the time it read when it started. -/
structure Call where
  input : AppendEvidenceInput
  occurredAt : Date

/-- The key that the advisory lock of a tenant is taken on. -/
def tenantKey (tenantId : Option Text) : Text := tenantId.getD "__system__"

/-- The event a call hashes, after it read `last` as the tail of the chain. -/
def Call.event (call : Call) (last : Option EvidenceEvent) : HashableEvent where
  sequence := (last.map (·.sequence)).getD 0 + 1
  tenantId := call.input.tenantId
  actorId := call.input.actorId
  actorType := call.input.actorType
  entityType := call.input.entityType
  entityId := call.input.entityId
  eventType := call.input.eventType
  eventDescription := call.input.eventDescription
  metadata := orNull call.input.metadata
  ipAddress := call.input.ipAddress
  deviceId := call.input.deviceId
  occurredAt := call.occurredAt
  previousHash := last.map (·.eventHash)

/-- The row a call inserts. The store chooses the `id`, and it gives the metadata
back as `metadata`. -/
def Call.row (sha256 : Text → Text) (call : Call) (last : Option EvidenceEvent) (id : Text)
    (metadata : Option Json) : EvidenceEvent :=
  let event := call.event last
  { id := id
    tenantId := event.tenantId
    sequence := event.sequence
    actorId := event.actorId
    actorType := event.actorType
    entityType := event.entityType
    entityId := event.entityId
    eventType := event.eventType
    eventDescription := event.eventDescription
    metadata := metadata
    ipAddress := event.ipAddress
    deviceId := event.deviceId
    previousHash := event.previousHash
    eventHash := computeEventHash sha256 event
    occurredAt := event.occurredAt }

/-- What a JSON column may give back of a value: its JSON form, up to key order. -/
def StoredAs (v : Value) (stored : Option Json) : Prop := Same (readBack v) (Json.read stored)

/-! ## Reading a chain -/

/-- The rows of one chain. -/
def rowsOf (tenantId : Option Text) (table : List EvidenceEvent) : List EvidenceEvent :=
  table.filter (·.tenantId = tenantId)

/-- `findFirst` by descending sequence. -/
def findLast (tenantId : Option Text) (table : List EvidenceEvent) : Option EvidenceEvent :=
  ((rowsOf tenantId table).insertionSort (fun a b => b.sequence ≤ a.sequence)).head?

/-- `findMany` by ascending sequence. -/
def chain (tenantId : Option Text) (table : List EvidenceEvent) : List EvidenceEvent :=
  (rowsOf tenantId table).insertionSort (fun a b => a.sequence ≤ b.sequence)

/-- A list in strictly ascending sequence. -/
def Ascending (rows : List EvidenceEvent) : Prop := rows.Pairwise (·.sequence < ·.sequence)

/-- In an ascending list a sequence number has one row. -/
theorem Ascending.eq_of_sequence {rows : List EvidenceEvent} (h : Ascending rows)
    {a b : EvidenceEvent} (ha : a ∈ rows) (hb : b ∈ rows) (heq : a.sequence = b.sequence) :
    a = b :=
  List.inj_on_of_nodup_map (List.pairwise_map.mpr (h.imp fun hlt => ne_of_lt hlt)) ha hb heq

theorem chain_of_ascending {tenantId : Option Text} {table : List EvidenceEvent}
    (h : Ascending (rowsOf tenantId table)) : chain tenantId table = rowsOf tenantId table :=
  List.Pairwise.insertionSort_eq (h.imp fun hlt => le_of_lt hlt)

theorem chain_singleton {tenantId : Option Text} {e : EvidenceEvent} (h : e.tenantId = tenantId) :
    chain tenantId [e] = [e] := by
  have hrows : rowsOf tenantId [e] = [e] := List.filter_eq_self.mpr (by simp [h])
  rw [chain, hrows]
  rfl

theorem findLast_of_ascending {tenantId : Option Text} {table : List EvidenceEvent}
    (h : Ascending (rowsOf tenantId table)) :
    findLast tenantId table = (rowsOf tenantId table).getLast? := by
  have hsorted : (rowsOf tenantId table).insertionSort (fun a b => b.sequence ≤ a.sequence)
      = (rowsOf tenantId table).reverse := by
    refine List.Perm.eq_of_pairwise ?_
      (List.pairwise_insertionSort (fun a b : EvidenceEvent => b.sequence ≤ a.sequence) _) ?_
      ((List.perm_insertionSort _ _).trans (List.reverse_perm _).symm)
    · intro a b ha hb hba hab
      exact h.eq_of_sequence ((List.perm_insertionSort _ _).subset ha) (List.mem_reverse.mp hb)
        (le_antisymm hab hba)
    · exact List.pairwise_reverse.mpr (h.imp fun hlt => le_of_lt hlt)
  rw [findLast, hsorted, List.head?_reverse]

/-! ## `verifyChain` -/

/-- Result of verifying a tenant's evidence chain. -/
structure ChainVerification where
  intact : Bool
  totalEvents : Nat
  brokenAtSequence : Option Int
  reason : Option Text
deriving DecidableEq

/-- The loop of `verifyChain`, with the hash it carries from row to row. -/
def verifyFrom (sha256 : Text → Text) (totalEvents : Nat) :
    Option Text → List EvidenceEvent → ChainVerification
  | _, [] => ⟨true, totalEvents, none, none⟩
  | previousHash, e :: events =>
    if e.previousHash ≠ previousHash then
      ⟨false, totalEvents, some e.sequence,
        some "Chain link broken — previousHash does not match the prior event."⟩
    else if computeEventHash sha256 e.hashable ≠ e.eventHash then
      ⟨false, totalEvents, some e.sequence,
        some "Event content has been altered since it was recorded."⟩
    else verifyFrom sha256 totalEvents (some e.eventHash) events

/-- Walk the tenant's chain and confirm no event was altered or re-linked. -/
def verifyChain (sha256 : Text → Text) (tenantId : Option Text) (table : List EvidenceEvent) :
    ChainVerification :=
  let events := chain tenantId table
  verifyFrom sha256 events.length none events

/-- Every row names the hash of the row before it. -/
def Links : Option Text → List EvidenceEvent → Prop
  | _, [] => True
  | previousHash, e :: events => e.previousHash = previousHash ∧ Links (some e.eventHash) events

/-- `last?.eventHash ?? null`, for the last row of a chain. -/
def tailHash (rows : List EvidenceEvent) : Option Text := rows.getLast?.map (·.eventHash)

theorem links_append_singleton {previousHash : Option Text} {rows : List EvidenceEvent}
    {e : EvidenceEvent} :
    Links previousHash (rows ++ [e]) ↔ Links previousHash rows ∧
      e.previousHash = (tailHash rows).or previousHash := by
  induction rows generalizing previousHash with
  | nil =>
    constructor
    · rintro ⟨h, -⟩
      exact ⟨trivial, h⟩
    · rintro ⟨-, h⟩
      exact ⟨h, trivial⟩
  | cons r rows ih =>
    rw [List.cons_append, Links, Links, ih, and_assoc]
    refine and_congr_right fun _ => and_congr_right fun _ => ?_
    rw [tailHash, tailHash, List.getLast?_cons]
    cases rows.getLast? <;> exact Iff.rfl

/-- A chain goes on with a row that names the hash of its last row. -/
theorem links_concat {rows : List EvidenceEvent} {e : EvidenceEvent} :
    Links none (rows ++ [e]) ↔ Links none rows ∧ e.previousHash = tailHash rows := by
  rw [links_append_singleton, Option.or_none]

/-- A row hashes to what it says. -/
def Hashed (sha256 : Text → Text) (e : EvidenceEvent) : Prop :=
  computeEventHash sha256 e.hashable = e.eventHash

theorem verifyFrom_intact_iff {sha256 : Text → Text} {n : Nat} {events : List EvidenceEvent}
    {previousHash : Option Text} :
    (verifyFrom sha256 n previousHash events).intact = true ↔
      Links previousHash events ∧ ∀ e ∈ events, Hashed sha256 e := by
  induction events generalizing previousHash with
  | nil => exact ⟨fun _ => ⟨trivial, fun e he => absurd he List.not_mem_nil⟩, fun _ => rfl⟩
  | cons e events ih =>
    rw [verifyFrom, List.forall_mem_cons]
    -- `verifyFrom` stops at the first broken row: the link is checked before the hash
    by_cases hlink : e.previousHash = previousHash
    · rw [if_neg (not_not_intro hlink)]
      by_cases hhash : Hashed sha256 e
      · have hcomputed : computeEventHash sha256 e.hashable = e.eventHash := hhash
        rw [if_neg (not_not_intro hcomputed), ih]
        constructor
        · rintro ⟨hlinks, hhashes⟩
          exact ⟨⟨hlink, hlinks⟩, hhash, hhashes⟩
        · rintro ⟨⟨-, hlinks⟩, -, hhashes⟩
          exact ⟨hlinks, hhashes⟩
      · have hcomputed : computeEventHash sha256 e.hashable ≠ e.eventHash := hhash
        rw [if_pos hcomputed]
        constructor
        · intro h
          exact absurd h (by simp)
        · rintro ⟨-, h, -⟩
          exact absurd h hhash
    · rw [if_pos hlink]
      constructor
      · intro h
        exact absurd h (by simp)
      · rintro ⟨⟨h, -⟩, -⟩
        exact absurd h hlink

theorem verifyFrom_of_intact {sha256 : Text → Text} {n : Nat} {events : List EvidenceEvent}
    {previousHash : Option Text}
    (h : (verifyFrom sha256 n previousHash events).intact = true) :
    verifyFrom sha256 n previousHash events = ⟨true, n, none, none⟩ := by
  induction events generalizing previousHash with
  | nil => rfl
  | cons e events ih =>
    rw [verifyFrom] at h ⊢
    split at h
    · exact absurd h (by simp)
    split at h
    · exact absurd h (by simp)
    next hlink hhash =>
    rw [if_neg hlink, if_neg hhash]
    exact ih h

/-- **What `verifyChain` checks**: the links from row to row, and each row's hash. -/
theorem verifyChain_intact_iff {sha256 : Text → Text} {tenantId : Option Text}
    {table : List EvidenceEvent} :
    (verifyChain sha256 tenantId table).intact = true ↔
      Links none (chain tenantId table) ∧ ∀ e ∈ chain tenantId table, Hashed sha256 e :=
  verifyFrom_intact_iff

/-- An intact chain is reported with its length and nothing else. -/
theorem verifyChain_of_intact {sha256 : Text → Text} {tenantId : Option Text}
    {table : List EvidenceEvent} (h : (verifyChain sha256 tenantId table).intact = true) :
    verifyChain sha256 tenantId table = ⟨true, (chain tenantId table).length, none, none⟩ :=
  verifyFrom_of_intact h

end EvidenceVault
