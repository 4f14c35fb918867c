import Vigiscam.Concurrency.Pool
import Vigiscam.EvidenceVault.Service

/-!
# Interleaved appends

Every call of `append` is a process. Its transaction takes the advisory lock of
the tenant, reads the tail of the chain, inserts its row and commits; until the
commit nobody else sees the row, and the transaction can be rolled back at any
point. The lock is held to the end of the transaction, and two tenants share a
lock when `hashtext` maps their keys to one number.

`outline_of_run` is the invariant: the committed rows of a tenant were each
appended to the ones before (`Built`), and a process that holds its tenant's lock
has read what is still the tail of that chain.
-/

namespace EvidenceVault

open Js Value Concurrency

/-! ## The store and the transactions -/

/-- A committed append: the call, and the row it wrote. -/
structure Written where
  call : Call
  row : EvidenceEvent

/-- The committed appends in the order of their commits, and who holds which
advisory lock. -/
structure Store where
  committed : List Written
  locks : Int → Option Nat

/-- The rows of `evidence_events` that others can see. -/
def Store.table (x : Store) : List EvidenceEvent := x.committed.map (·.row)

/-- The committed appends of a tenant. -/
def Store.written (x : Store) (tenantId : Option Text) : List Written :=
  x.committed.filter (·.row.tenantId = tenantId)

/-- How far a call has come. -/
inductive Phase where
  | idle
  | begun (call : Call)
  | locked (call : Call)
  | read (call : Call) (last : Option EvidenceEvent)
  | created (call : Call) (row : EvidenceEvent)
  | done (row : EvidenceEvent)
  | failed

/-- The call whose transaction is open. -/
def Phase.open? : Phase → Option Call
  | .begun call | .locked call | .read call _ | .created call _ => some call
  | .idle | .done _ | .failed => none

/-- The constraints of `evidence_events`: an `Int` sequence, the primary key, and
`@@unique([tenantId, sequence])`, which does not compare null tenants. -/
def Insertable (table : List EvidenceEvent) (row : EvidenceEvent) : Prop :=
  row.sequence ≤ 2147483647 ∧
    ∀ e ∈ table, e.id ≠ row.id ∧
      (row.tenantId ≠ none → e.tenantId = row.tenantId → e.sequence ≠ row.sequence)

instance (table : List EvidenceEvent) (row : EvidenceEvent) : Decidable (Insertable table row) :=
  inferInstanceAs (Decidable (_ ∧ _))

/-- `pg_advisory_xact_lock(hashtext(tenantKey))`. -/
def lockKey (hashtext : Text → Int) (call : Call) : Int :=
  hashtext (tenantKey call.input.tenantId)

/-- The end of a transaction releases its locks. -/
def release (i : Nat) (locks : Int → Option Nat) : Int → Option Nat :=
  fun key => if locks key = some i then none else locks key

/-- The database steps of a call of `append`. -/
inductive AppendStep (sha256 : Text → Text) (hashtext : Text → Int) :
    LocalStep Nat Store Phase
  | begin {i : Nat} {x : Store} (call : Call) :
      AppendStep sha256 hashtext i x .idle x (.begun call)
  /-- The lock is waited for until it is free. -/
  | lock {i : Nat} {x : Store} {call : Call} :
      x.locks (lockKey hashtext call) = none →
      AppendStep sha256 hashtext i x (.begun call)
        { x with locks := Function.update x.locks (lockKey hashtext call) (some i) }
        (.locked call)
  | readTail {i : Nat} {x : Store} {call : Call} :
      AppendStep sha256 hashtext i x (.locked call) x
        (.read call (findLast call.input.tenantId x.table))
  | create {i : Nat} {x : Store} {call : Call} {last : Option EvidenceEvent} (id : Text)
      (metadata : Option Json) :
      StoredAs (orNull call.input.metadata) metadata →
      Insertable x.table (call.row sha256 last id metadata) →
      AppendStep sha256 hashtext i x (.read call last) x
        (.created call (call.row sha256 last id metadata))
  | commit {i : Nat} {x : Store} {call : Call} {row : EvidenceEvent} :
      AppendStep sha256 hashtext i x (.created call row)
        ⟨x.committed ++ [⟨call, row⟩], release i x.locks⟩ (.done row)
  /-- Whatever fails, the transaction is rolled back. -/
  | abort {i : Nat} {x : Store} {phase : Phase} {call : Call} : phase.open? = some call →
      AppendStep sha256 hashtext i x phase { x with locks := release i x.locks } .failed

/-- No event yet, no call yet. -/
def initial : Pool Nat Store Phase := ⟨⟨[], fun _ => none⟩, fun _ => .idle⟩

/-! ## A chain that appends built -/

section Built

variable {sha256 : Text → Text} {tenantId : Option Text} {ws : List Written} {w : Written}

/-- A call wrote its row with `last` as the tail of the chain. -/
def IsAppend (sha256 : Text → Text) (last : Option EvidenceEvent) (w : Written) : Prop :=
  ∃ id metadata, StoredAs (orNull w.call.input.metadata) metadata ∧
    w.row = w.call.row sha256 last id metadata

/-- The appends of one tenant, each with the one before as the tail. -/
inductive Built (sha256 : Text → Text) (tenantId : Option Text) : List Written → Prop
  | nil : Built sha256 tenantId []
  | snoc {ws : List Written} {w : Written} : Built sha256 tenantId ws →
      w.call.input.tenantId = tenantId → IsAppend sha256 (ws.getLast?.map (·.row)) w →
      Built sha256 tenantId (ws ++ [w])

/-- The content that was hashed when a row was written: the metadata is the one the
caller passed, not the one the store gives back. -/
def Written.event (w : Written) : HashableEvent :=
  { w.row.hashable with metadata := orNull w.call.input.metadata }

theorem IsAppend.sequence {last : Option EvidenceEvent} (h : IsAppend sha256 last w) :
    w.row.sequence = (last.map (·.sequence)).getD 0 + 1 := by
  obtain ⟨_, _, -, hrow⟩ := h
  rw [hrow]
  rfl

theorem IsAppend.previousHash {last : Option EvidenceEvent} (h : IsAppend sha256 last w) :
    w.row.previousHash = last.map (·.eventHash) := by
  obtain ⟨_, _, -, hrow⟩ := h
  rw [hrow]
  rfl

theorem IsAppend.row_tenantId {last : Option EvidenceEvent} (h : IsAppend sha256 last w) :
    w.row.tenantId = w.call.input.tenantId := by
  obtain ⟨_, _, -, hrow⟩ := h
  rw [hrow]
  rfl

theorem IsAppend.eventHash {last : Option EvidenceEvent} (h : IsAppend sha256 last w) :
    w.row.eventHash = sha256 w.event.canonical := by
  obtain ⟨id, metadata, -, hrow⟩ := h
  unfold Written.event
  rw [hrow]
  rfl

theorem IsAppend.stored {last : Option EvidenceEvent} (h : IsAppend sha256 last w) :
    StoredAs (orNull w.call.input.metadata) w.row.metadata := by
  obtain ⟨_, _, hstored, hrow⟩ := h
  rw [hrow]
  exact hstored

/-- Sequence numbers are exactly `1 … n`. -/
theorem Built.sequences (h : Built sha256 tenantId ws) :
    ws.map (·.row.sequence) = (List.range ws.length).map fun n : Nat => (n : Int) + 1 := by
  induction h with
  | nil => rfl
  | @snoc ws w _ _ happend ih =>
    have hlast : ((ws.getLast?.map (·.row)).map (·.sequence)).getD 0 = ws.length := by
      rw [Option.map_map]
      have hmap := congrArg List.getLast? ih
      rw [List.getLast?_map, List.getLast?_map, List.getLast?_range] at hmap
      show (ws.getLast?.map (·.row.sequence)).getD 0 = ws.length
      rw [hmap]
      by_cases hzero : ws.length = 0
      · simp [hzero]
      · simp [hzero]
        omega
    rw [List.map_append, List.length_append, List.length_singleton, List.range_succ,
      List.map_append, ih, List.map_singleton, List.map_singleton, happend.sequence, hlast]

theorem Built.ascending (h : Built sha256 tenantId ws) : Ascending (ws.map (·.row)) := by
  have hpairs : ((List.range ws.length).map fun n : Nat => (n : Int) + 1).Pairwise (· < ·) :=
    List.pairwise_map.mpr (List.pairwise_lt_range.imp fun hlt => by omega)
  rw [← h.sequences] at hpairs
  exact List.pairwise_map.mpr (List.pairwise_map.mp hpairs)

/-- Every row names the hash of the row before it. -/
theorem Built.links (h : Built sha256 tenantId ws) : Links none (ws.map (·.row)) := by
  induction h with
  | nil => trivial
  | snoc _ _ happend ih =>
    rw [List.map_append, List.map_singleton, links_concat]
    refine ⟨ih, ?_⟩
    rw [happend.previousHash, tailHash, List.getLast?_map]

theorem Built.exists_append (h : Built sha256 tenantId ws) (hw : w ∈ ws) :
    ∃ last, IsAppend sha256 last w := by
  induction h with
  | nil => exact absurd hw List.not_mem_nil
  | snoc _ _ happend ih =>
    rcases List.mem_append.mp hw with hw | hw
    · exact ih hw
    · rw [List.mem_singleton.mp hw]
      exact ⟨_, happend⟩

/-- The texts that are hashed for a list of appends: the content that was appended,
and the content that the verifier reads. -/
def hashedTexts (ws : List Written) : Set Text :=
  {text | ∃ w ∈ ws, text = w.event.canonical ∨ text = w.row.hashable.canonical}

/-- The verifier reads back what was hashed exactly when the metadata is storable. -/
theorem IsAppend.canonical_iff {last : Option EvidenceEvent} (h : IsAppend sha256 last w) :
    w.row.hashable.canonical = w.event.canonical ↔ Storable w.call.input.metadata := by
  have hdistinct : Distinct (orNull w.call.input.metadata) :=
    distinct_orNull w.call.input.metadata_distinct
  have hmetadata : Same (Json.read w.row.metadata) (orNull w.call.input.metadata) ↔
      Storable w.call.input.metadata := by
    have hstored := stableStringify_same h.stored (distinct_readBack hdistinct)
      (Json.distinct_read w.row.metadata)
    rw [← stableStringify_eq_iff (Json.distinct_read w.row.metadata) hdistinct, ← hstored,
      eq_comm, stableStringify_readBack hdistinct, storable_orNull]
  rw [HashableEvent.canonical_eq_iff w.row.distinct_hashable hdistinct, ← hmetadata]
  constructor
  · exact fun hagree => hagree.metadata
  · exact fun hsame => ⟨rfl, rfl, rfl, rfl, rfl, rfl, rfl, rfl, hsame, rfl, rfl, rfl, rfl⟩

/-- A row with storable metadata verifies. -/
theorem Built.hashed_of_storable (h : Built sha256 tenantId ws) (hw : w ∈ ws)
    (hstorable : Storable w.call.input.metadata) : Hashed sha256 w.row := by
  obtain ⟨last, happend⟩ := h.exists_append hw
  rw [Hashed, computeEventHash, happend.canonical_iff.mpr hstorable, happend.eventHash]

/-- Where no two hashed texts collide, no other row verifies. -/
theorem Built.hashed_iff (h : Built sha256 tenantId ws)
    (hinj : Set.InjOn sha256 (hashedTexts ws)) (hw : w ∈ ws) :
    Hashed sha256 w.row ↔ Storable w.call.input.metadata := by
  refine ⟨fun hhashed => ?_, h.hashed_of_storable hw⟩
  obtain ⟨last, happend⟩ := h.exists_append hw
  rw [Hashed, computeEventHash, happend.eventHash] at hhashed
  exact happend.canonical_iff.mp (hinj ⟨w, hw, Or.inr rfl⟩ ⟨w, hw, Or.inl rfl⟩ hhashed)

end Built

/-! ## Every run builds every chain -/

section Runs

variable {sha256 : Text → Text} {hashtext : Text → Int} {s t : Pool Nat Store Phase}
  {tenantId : Option Text} {x : Store} {i : Nat}

/-- What holds of the committed rows: the chain of every tenant is built. -/
def Inv (sha256 : Text → Text) (x : Store) : Prop :=
  ∀ tenantId, Built sha256 tenantId (x.written tenantId)

/-- A process that has the lock has read what is still the tail of its chain. -/
def Assert (sha256 : Text → Text) (hashtext : Text → Int) (i : Nat) (x : Store) :
    Phase → Prop
  | .idle | .begun _ | .done _ | .failed => True
  | .locked call => x.locks (lockKey hashtext call) = some i
  | .read call last => x.locks (lockKey hashtext call) = some i ∧
      last = findLast call.input.tenantId x.table
  | .created call row => x.locks (lockKey hashtext call) = some i ∧
      IsAppend sha256 (findLast call.input.tenantId x.table) ⟨call, row⟩

theorem rowsOf_table (x : Store) (tenantId : Option Text) :
    rowsOf tenantId x.table = (x.written tenantId).map (·.row) := by
  rw [rowsOf, Store.table, List.filter_map]
  rfl

theorem Inv.ascending (h : Inv sha256 x) (tenantId : Option Text) :
    Ascending (rowsOf tenantId x.table) := by
  rw [rowsOf_table]
  exact (h tenantId).ascending

theorem Inv.findLast_eq (h : Inv sha256 x) (tenantId : Option Text) :
    findLast tenantId x.table = (x.written tenantId).getLast?.map (·.row) := by
  rw [findLast_of_ascending (h.ascending tenantId), rowsOf_table, List.getLast?_map]

theorem Inv.chain_eq (h : Inv sha256 x) (tenantId : Option Text) :
    chain tenantId x.table = (x.written tenantId).map (·.row) := by
  rw [chain_of_ascending (h.ascending tenantId), rowsOf_table]

/-- The chain of another tenant does not change with a commit. -/
theorem written_commit_of_ne {w : Written} {locks : Int → Option Nat}
    (h : w.row.tenantId ≠ tenantId) :
    Store.written ⟨x.committed ++ [w], locks⟩ tenantId = x.written tenantId := by
  rw [Store.written, List.filter_append, List.filter_singleton]
  simp [h, Store.written]

theorem written_commit_self {w : Written} {locks : Int → Option Nat}
    (h : w.row.tenantId = tenantId) :
    Store.written ⟨x.committed ++ [w], locks⟩ tenantId = x.written tenantId ++ [w] := by
  rw [Store.written, List.filter_append, List.filter_singleton]
  simp [h, Store.written]

theorem findLast_commit_of_ne {w : Written} {locks : Int → Option Nat}
    (h : w.row.tenantId ≠ tenantId) :
    findLast tenantId (Store.table ⟨x.committed ++ [w], locks⟩) = findLast tenantId x.table := by
  rw [findLast, findLast, rowsOf_table, rowsOf_table, written_commit_of_ne h]

theorem release_of_ne {locks : Int → Option Nat} {key : Int} {j : Nat} (hij : i ≠ j)
    (h : locks key = some j) : release i locks key = some j := by
  rw [release, h, if_neg (by simpa using Ne.symm hij)]

theorem inv_commit {call : Call} {row : EvidenceEvent} {locks : Int → Option Nat}
    (h : Inv sha256 x)
    (happend : IsAppend sha256 (findLast call.input.tenantId x.table) ⟨call, row⟩) :
    Inv sha256 ⟨x.committed ++ [⟨call, row⟩], locks⟩ := by
  intro tenantId
  by_cases htenant : row.tenantId = tenantId
  · rw [written_commit_self htenant]
    have hcall : call.input.tenantId = tenantId := happend.row_tenantId.symm.trans htenant
    refine (h tenantId).snoc hcall ?_
    rwa [hcall, h.findLast_eq] at happend
  · rw [written_commit_of_ne htenant]
    exact h tenantId

/-- A step keeps the chains built and its own process's assertion. -/
theorem append_local {l l' : Phase} {x' : Store} (hinv : Inv sha256 x)
    (h : Assert sha256 hashtext i x l) (hstep : AppendStep sha256 hashtext i x l x' l') :
    Inv sha256 x' ∧ Assert sha256 hashtext i x' l' := by
  cases hstep with
  | begin call => exact ⟨hinv, trivial⟩
  | lock hfree => exact ⟨hinv, Function.update_self _ _ _⟩
  | readTail => exact ⟨hinv, h, rfl⟩
  | create id metadata hstored _ =>
    obtain ⟨hlock, rfl⟩ := h
    exact ⟨hinv, hlock, id, metadata, hstored, rfl⟩
  | commit => exact ⟨inv_commit hinv h.2, trivial⟩
  | abort => exact ⟨hinv, trivial⟩

/-- A step does not disturb the other processes: a commit needs the lock of its
tenant, so it changes no chain that another process has the lock of. -/
theorem append_other {j : Nat} {l l' m : Phase} {x' : Store} (hij : i ≠ j)
    (hi : Assert sha256 hashtext i x l) (hj : Assert sha256 hashtext j x m)
    (hstep : AppendStep sha256 hashtext i x l x' l') : Assert sha256 hashtext j x' m := by
  have hlocks : ∀ key, x.locks key = some j → x'.locks key = some j := by
    intro key hkey
    cases hstep with
    | begin | readTail | create => exact hkey
    | @lock _ _ call hfree =>
      have hne : key ≠ lockKey hashtext call := by
        rintro rfl
        rw [hfree] at hkey
        cases hkey
      exact (Function.update_of_ne hne _ _).trans hkey
    | commit | abort => exact release_of_ne hij hkey
  have htail : ∀ call : Call, x.locks (lockKey hashtext call) = some j →
      findLast call.input.tenantId x'.table = findLast call.input.tenantId x.table := by
    intro call hkey
    cases hstep with
    | begin | lock | readTail | create | abort => rfl
    | @commit _ _ mine row =>
      obtain ⟨hmine, happend⟩ := hi
      refine findLast_commit_of_ne fun heq => hij ?_
      -- the same tenant would mean the same lock
      have hkeys : lockKey hashtext mine = lockKey hashtext call := by
        rw [lockKey, lockKey, ← heq, ← happend.row_tenantId]
      rw [hkeys, hkey] at hmine
      exact (Option.some.inj hmine).symm
  cases m with
  | idle => trivial
  | begun => trivial
  | done => trivial
  | failed => trivial
  | locked call => exact hlocks _ hj
  | read call last => exact ⟨hlocks _ hj.1, by rw [htail call hj.1]; exact hj.2⟩
  | created call row => exact ⟨hlocks _ hj.1, by rw [htail call hj.1]; exact hj.2⟩

/-- **Along every run the chain of every tenant is built**, and every process that
has a lock has read the tail of its chain. -/
theorem outline_of_run (hrun : Pool.Run (AppendStep sha256 hashtext) initial s) :
    Pool.Outline (Inv sha256) (Assert sha256 hashtext) s :=
  hrun.outline ⟨fun _ => .nil, fun _ => trivial⟩
    (fun _ _ _ _ _ hinv h hstep => append_local hinv h hstep)
    (fun _ _ _ _ _ _ _ hij _ hi hj hstep => append_other hij hi hj hstep)

/-- A step leaves the chain of every tenant but its own call's as it was. -/
theorem written_step (hrun : Pool.Run (AppendStep sha256 hashtext) initial s)
    (hstep : Pool.Step (AppendStep sha256 hashtext) i s t)
    (hother : ∀ call, (s.locals i).open? = some call → call.input.tenantId ≠ tenantId) :
    t.shared.written tenantId = s.shared.written tenantId := by
  have hassert := (outline_of_run hrun).locals i
  obtain ⟨hstep⟩ := hstep
  generalize s.locals i = l at hstep hassert hother
  cases hstep with
  | begin | lock | readTail | create | abort => rfl
  | @commit _ _ call row =>
    refine written_commit_of_ne ?_
    rw [hassert.2.row_tenantId]
    exact hother call rfl

theorem release_update {locks : Int → Option Nat} {key : Int} (hfree : ∀ k, locks k = none) :
    release i (Function.update locks key (some i)) = locks := by
  funext k
  unfold release
  by_cases hk : k = key
  · rw [hk, Function.update_self, if_pos rfl, hfree]
  · rw [Function.update_of_ne hk, hfree]
    rfl

/-- While no lock is held, a call that has not started can run to its end. -/
theorem run_append (i : Nat) (call : Call) (id : Text) (metadata : Option Json)
    (hrun : Pool.Run (AppendStep sha256 hashtext) initial s) (hidle : s.locals i = .idle)
    (hfree : ∀ key, s.shared.locks key = none)
    (hstored : StoredAs (orNull call.input.metadata) metadata)
    (hinsert : Insertable s.shared.table
      (call.row sha256 (findLast call.input.tenantId s.shared.table) id metadata)) :
    let row := call.row sha256 (findLast call.input.tenantId s.shared.table) id metadata
    Pool.Run (AppendStep sha256 hashtext) initial
      ⟨⟨s.shared.committed ++ [⟨call, row⟩], s.shared.locks⟩,
        Function.update s.locals i (.done row)⟩ := by
  have hlocked := ((hrun.at hidle).next (.begin call)).next (.lock (hfree _))
  have hcreated := (hlocked.next .readTail).next (.create id metadata hstored hinsert)
  have hdone := hcreated.next .commit
  rwa [release_update hfree] at hdone

end Runs

end EvidenceVault
