import Mathlib.Algebra.Order.Ring.Rat
import Mathlib.Data.List.Lex
import Vigiscam.Concurrency.Calls
import Vigiscam.Http
import Vigiscam.Lists.Keyed
import Vigiscam.Lists.Ranking

/-!
# Embeddings and the links between similar signals (`embedding.service.ts`)

A signal has one embedding, which is replaced whenever the signal is embedded again. Its best
matches among the embeddings of the same model are then linked with it, and the other links of the
signal are left as they are. So a link says how similar its two signals are exactly as long as every
call leaves only such links alone as its embedding does not contradict (`links_current_iff`).
-/

namespace Ai

open Js Table Ranking Concurrency

/-! ## Tables -/

inductive AIDecisionSource where
  | stub | external
deriving DecidableEq

structure SignalEmbedding (V : Type) where
  signalId : Uuid
  modelVersion : Text
  source : AIDecisionSource
  vector : V
deriving DecidableEq

structure SignalSimilarity where
  signalAId : Uuid
  signalBId : Uuid
  score : ℚ
  modelVersion : Text
deriving DecidableEq

def SignalSimilarity.key (link : SignalSimilarity) : (Uuid × Uuid) × Text :=
  ((link.signalAId, link.signalBId), link.modelVersion)

structure Store (V : Type) where
  embeddings : Keyed (SignalEmbedding.signalId (V := V))
  similarities : Keyed SignalSimilarity.key

def Store.empty {V : Type} : Store V := ⟨.empty, .empty⟩

/-! ## Calls -/

structure EmbeddingOutput (V : Type) where
  modelVersion : Text
  vector : V

structure EmbeddingClientResult (V : Type) where
  output : EmbeddingOutput V
  source : AIDecisionSource

/-- The order in which the database lists rows. -/
structure Listing (ρ : Type) where
  list : List ρ → List ρ
  perm : ∀ rows, (list rows).Perm rows

/-- A call of `embedSignal`. -/
structure Call (V : Type) where
  signalId : Uuid
  text : Text
  /-- What the client answers. -/
  result : Option (EmbeddingClientResult V)
  listing : Listing (SignalEmbedding V)

/-- How similar two vectors are. -/
structure Similarity (V : Type) where
  of : V → V → ℚ
  symm : ∀ v w, of v w = of w v

/-- `cosineSimilarity`, in exact numbers. -/
def cosineSimilarity (a b : List ℚ) : ℚ :=
  if a.length ≠ b.length ∨ a.length = 0 then 0
  else
    let dot := (List.zipWith (· * ·) a b).sum
    if 1 < dot then 1 else if dot < -1 then -1 else dot

theorem cosineSimilarity_comm (a b : List ℚ) : cosineSimilarity a b = cosineSimilarity b a := by
  by_cases hlength : a.length = b.length
  · have hdot : List.zipWith (· * ·) a b = List.zipWith (· * ·) b a :=
      List.zipWith_comm_of_comm fun x y => mul_comm x y
    simp only [cosineSimilarity, hlength, hdot, ne_eq]
  · rw [cosineSimilarity, cosineSimilarity, if_pos (Or.inl hlength),
      if_pos (Or.inl (Ne.symm hlength))]

def cosine : Similarity (List ℚ) := ⟨cosineSimilarity, cosineSimilarity_comm⟩

/-! ## The service -/

def SIMILARITY_THRESHOLD : ℚ := 7 / 10

def TOP_N_SIMILAR : Nat := 5

def SCAN_CAP : Nat := 5000

structure Scored where
  otherId : Uuid
  score : ℚ
deriving DecidableEq

/-- `[aId, bId]`. -/
def pairOf (signalId otherId : Uuid) : Uuid × Uuid :=
  if signalId < otherId then (signalId, otherId) else (otherId, signalId)

def linkOf (signalId : Uuid) (modelVersion : Text) (m : Scored) : SignalSimilarity where
  signalAId := (pairOf signalId m.otherId).1
  signalBId := (pairOf signalId m.otherId).2
  score := m.score
  modelVersion := modelVersion

/-- The update of a link that is there. -/
def rescoreBy (new link : SignalSimilarity) : SignalSimilarity := { link with score := new.score }

theorem key_rescoreBy (new link : SignalSimilarity) : (rescoreBy new link).key = link.key := rfl

section Service

variable {V : Type} (sim : Similarity V)

def scoreOf (vector : V) (c : SignalEmbedding V) : Scored := ⟨c.signalId, sim.of vector c.vector⟩

/-- The embedding can be compared with one of the signal. -/
def comparable (signalId : Uuid) (modelVersion : Text) (e : SignalEmbedding V) : Bool :=
  e.signalId ≠ signalId && e.modelVersion = modelVersion

def candidates (listing : Listing (SignalEmbedding V)) (signalId : Uuid) (modelVersion : Text)
    (s : Store V) : List (SignalEmbedding V) :=
  (listing.list (s.embeddings.rows.filter (comparable signalId modelVersion))).take SCAN_CAP

def best (vector : V) (candidates : List (SignalEmbedding V)) : List Scored :=
  (descending Scored.score
    ((candidates.map (scoreOf sim vector)).filter (SIMILARITY_THRESHOLD ≤ ·.score))).take
      TOP_N_SIMILAR

/-- The number of links that are written, and the store with them. -/
def persistSimilar (listing : Listing (SignalEmbedding V)) (signalId : Uuid) (vector : V)
    (modelVersion : Text) (s : Store V) : Nat × Store V :=
  let scored := best sim vector (candidates listing signalId modelVersion s)
  (scored.length,
    { s with
      similarities := s.similarities.upsertAll rescoreBy key_rescoreBy
        (scored.map (linkOf signalId modelVersion)) })

structure EmbedSignalResult (V : Type) where
  embedding : SignalEmbedding V
  newSimilarityLinks : Nat

/-- The update of an embedding that is there. -/
def replaceBy (new e : SignalEmbedding V) : SignalEmbedding V :=
  { e with modelVersion := new.modelVersion, source := new.source, vector := new.vector }

theorem signalId_replaceBy (new e : SignalEmbedding V) :
    (replaceBy new e).signalId = e.signalId := rfl

def Store.upsertEmbedding (s : Store V) (embedding : SignalEmbedding V) : Store V :=
  { s with
    embeddings := s.embeddings.upsert embedding (replaceBy embedding)
      (signalId_replaceBy embedding) }

/-- The text is too short to be embedded. -/
def tooShort (text : Text) : Bool := text.isEmpty || (trim text).length < 3

def embedSignal (c : Call V) (s : Store V) : Option (EmbedSignalResult V) × Store V :=
  if tooShort c.text then (none, s)
  else
    match c.result with
    | none => (none, s)
    | some r =>
      let embedding := ⟨c.signalId, r.output.modelVersion, r.source, r.output.vector⟩
      let written := persistSimilar sim c.listing c.signalId r.output.vector r.output.modelVersion
        (s.upsertEmbedding embedding)
      (some ⟨embedding, written.1⟩, written.2)

/-- The store after the calls, which come one after the other. -/
def embedded (calls : List (Call V)) : Store V :=
  after (fun c s => (embedSignal sim c s).2) .empty calls

end Service

/-! ## Links that are current -/

section Current

variable {V : Type} {sim : Similarity V}

/-- The link is between two signals, and says how similar their embeddings of its model are. -/
structure SignalSimilarity.CurrentIn (sim : Similarity V)
    (embeddings : Keyed (SignalEmbedding.signalId (V := V))) (link : SignalSimilarity) : Prop where
  ordered : link.signalAId < link.signalBId
  similar : SIMILARITY_THRESHOLD ≤ link.score
  score_eq : ∃ a b, embeddings.get link.signalAId = some a ∧
    embeddings.get link.signalBId = some b ∧
    a.modelVersion = link.modelVersion ∧ b.modelVersion = link.modelVersion ∧
    link.score = sim.of a.vector b.vector

def LinksCurrent (sim : Similarity V) (s : Store V) : Prop :=
  ∀ link ∈ s.similarities.rows, link.CurrentIn sim s.embeddings

/-- What is embedded by a call. -/
def Call.embeds (c : Call V) : Option (EmbeddingClientResult V) :=
  if tooShort c.text then none else c.result

/-- How the embeddings that are compared with the new one of the signal score, in the order of the
listing. -/
def Call.scores (sim : Similarity V) (c : Call V) (output : EmbeddingOutput V) (s : Store V) :
    List Scored :=
  (c.listing.list (s.embeddings.rows.filter (comparable c.signalId output.modelVersion))).map
    (scoreOf sim output.vector)

/-- The embedding of the other signal is one of the five best matches of the new one: it reaches the
threshold, and fewer than five score better, or as well and are listed before it. -/
def Call.Rematches (sim : Similarity V) (c : Call V) (output : EmbeddingOutput V) (s : Store V)
    (e : SignalEmbedding V) : Prop :=
  SIMILARITY_THRESHOLD ≤ sim.of output.vector e.vector ∧
    ahead Scored.score (scoreOf sim output.vector e) (c.scores sim output s) < TOP_N_SIMILAR

/-- Every link of the signal is of the model of the new embedding, and has either the score of the
new embedding or its signal among the best matches. -/
def Call.KeepsLinks (sim : Similarity V) (c : Call V) (s : Store V) : Prop :=
  ∀ r, c.embeds = some r → ∀ e ∈ s.embeddings.rows, ∀ link ∈ s.similarities.rows,
    (link.signalAId, link.signalBId) = pairOf c.signalId e.signalId →
      link.modelVersion = r.output.modelVersion ∧
      (link.score = sim.of r.output.vector e.vector ∨ c.Rematches sim r.output s e)

/-! ### Pairs -/

variable {id o o' : Uuid} {link : SignalSimilarity}

theorem pairOf_lt (hne : o ≠ id) : (pairOf id o).1 < (pairOf id o).2 := by
  unfold pairOf
  split
  · assumption
  · next h => exact lt_of_le_of_ne (not_lt.mp h) hne

theorem pairOf_inj (h : pairOf id o = pairOf id o') : o = o' := by
  unfold pairOf at h
  split at h <;> split at h <;> simp only [Prod.mk.injEq] at h
  · exact h.2
  · exact h.2.trans h.1
  · exact h.1.trans h.2
  · exact h.1

/-- A link of a signal has another signal. -/
theorem exists_pairOf (hordered : link.signalAId < link.signalBId)
    (h : link.signalAId = id ∨ link.signalBId = id) :
    ∃ o, (o = link.signalAId ∨ o = link.signalBId) ∧ o ≠ id ∧
      (link.signalAId, link.signalBId) = pairOf id o := by
  rcases h with rfl | rfl
  · exact ⟨link.signalBId, Or.inr rfl, hordered.ne', (if_pos hordered).symm⟩
  · exact ⟨link.signalAId, Or.inl rfl, hordered.ne, (if_neg hordered.not_gt).symm⟩

/-- What is asked of a link of two given signals. -/
theorem currentIn_pair_iff {embeddings : Keyed (SignalEmbedding.signalId (V := V))}
    {x e : SignalEmbedding V} (hx : embeddings.get id = some x) (he : embeddings.get o = some e)
    (hne : o ≠ id) (hpair : (link.signalAId, link.signalBId) = pairOf id o) :
    link.CurrentIn sim embeddings ↔ SIMILARITY_THRESHOLD ≤ link.score ∧
      x.modelVersion = link.modelVersion ∧ e.modelVersion = link.modelVersion ∧
      link.score = sim.of x.vector e.vector := by
  have hlt : link.signalAId < link.signalBId := by
    have := pairOf_lt hne
    rwa [← hpair] at this
  unfold pairOf at hpair
  split at hpair <;> obtain ⟨hA, hB⟩ := Prod.mk.inj hpair
  · constructor
    · rintro ⟨-, hsimilar, a, b, ha, hb, hva, hvb, hscore⟩
      rw [hA, hx] at ha
      rw [hB, he] at hb
      obtain rfl := Option.some.inj ha
      obtain rfl := Option.some.inj hb
      exact ⟨hsimilar, hva, hvb, hscore⟩
    · rintro ⟨hsimilar, hvx, hve, hscore⟩
      exact ⟨hlt, hsimilar, x, e, hA ▸ hx, hB ▸ he, hvx, hve, hscore⟩
  · constructor
    · rintro ⟨-, hsimilar, a, b, ha, hb, hva, hvb, hscore⟩
      rw [hA, he] at ha
      rw [hB, hx] at hb
      obtain rfl := Option.some.inj ha
      obtain rfl := Option.some.inj hb
      exact ⟨hsimilar, hvb, hva, hscore.trans (sim.symm _ _)⟩
    · rintro ⟨hsimilar, hvx, hve, hscore⟩
      exact ⟨hlt, hsimilar, e, x, hA ▸ he, hB ▸ hx, hve, hvx, hscore.trans (sim.symm _ _)⟩

/-! ### What a call writes -/

variable {c : Call V} {s : Store V} {r : EmbeddingClientResult V} {e : SignalEmbedding V}
  {m : Scored}

/-- The new embedding of a call. -/
def Call.embedding (c : Call V) (r : EmbeddingClientResult V) : SignalEmbedding V :=
  ⟨c.signalId, r.output.modelVersion, r.source, r.output.vector⟩

theorem embedSignal_of_none (h : c.embeds = none) : (embedSignal sim c s).2 = s := by
  rw [Call.embeds] at h
  rw [embedSignal]
  split at h
  · next hshort => rw [if_pos hshort]
  · next hshort => rw [if_neg hshort, h]

theorem embedSignal_of_some (h : c.embeds = some r) :
    (embedSignal sim c s).2 = (persistSimilar sim c.listing c.signalId r.output.vector
      r.output.modelVersion (s.upsertEmbedding (c.embedding r))).2 := by
  rw [Call.embeds] at h
  split at h
  · exact absurd h (by simp)
  · next hshort =>
    rw [embedSignal, if_neg hshort, h]
    rfl

theorem get_upsertEmbedding_self :
    (s.upsertEmbedding (c.embedding r)).embeddings.get c.signalId = some (c.embedding r) := by
  refine Keyed.get_upsert_self (signalId_replaceBy (c.embedding r)) fun e he => ?_
  cases e
  exact congrArg (SignalEmbedding.mk · _ _ _) he

theorem get_upsertEmbedding_of_ne (hne : o ≠ c.signalId) :
    (s.upsertEmbedding (c.embedding r)).embeddings.get o = s.embeddings.get o :=
  Keyed.get_upsert_of_ne (signalId_replaceBy (c.embedding r)) hne

/-- The embeddings that are compared are those of before the call. -/
theorem filter_upsertEmbedding {modelVersion : Text} :
    (s.upsertEmbedding (c.embedding r)).embeddings.rows.filter
        (comparable c.signalId modelVersion) =
      s.embeddings.rows.filter (comparable c.signalId modelVersion) := by
  refine Keyed.filter_upsert (signalId_replaceBy (c.embedding r)) fun e he => ?_
  simp [comparable, he, Call.embedding]

/-- The rows of the links that a call writes. -/
def Call.writes (sim : Similarity V) (c : Call V) (r : EmbeddingClientResult V) (s : Store V) :
    List SignalSimilarity :=
  (best sim r.output.vector (candidates c.listing c.signalId r.output.modelVersion s)).map
    (linkOf c.signalId r.output.modelVersion)

theorem candidates_upsertEmbedding {modelVersion : Text} :
    candidates c.listing c.signalId modelVersion (s.upsertEmbedding (c.embedding r)) =
      candidates c.listing c.signalId modelVersion s := by
  rw [candidates, candidates, filter_upsertEmbedding]

theorem mem_comparable {modelVersion : Text} :
    e ∈ c.listing.list (s.embeddings.rows.filter (comparable c.signalId modelVersion)) ↔
      e ∈ s.embeddings.rows ∧ e.signalId ≠ c.signalId ∧ e.modelVersion = modelVersion := by
  rw [(c.listing.perm _).mem_iff, List.mem_filter, comparable, Bool.and_eq_true, decide_eq_true_iff,
    decide_eq_true_iff]

/-- **What is among the best.** -/
theorem mem_best_iff (hcap : s.embeddings.rows.length ≤ SCAN_CAP) :
    m ∈ best sim r.output.vector (candidates c.listing c.signalId r.output.modelVersion s) ↔
      ∃ e ∈ s.embeddings.rows, e.signalId ≠ c.signalId ∧ e.modelVersion = r.output.modelVersion ∧
        scoreOf sim r.output.vector e = m ∧ c.Rematches sim r.output s e := by
  have hlength : (c.listing.list (s.embeddings.rows.filter
      (comparable c.signalId r.output.modelVersion))).length ≤ SCAN_CAP := by
    rw [(c.listing.perm _).length_eq]
    exact (List.length_filter_le _ _).trans hcap
  have hfilter : ∀ e : SignalEmbedding V, SIMILARITY_THRESHOLD ≤ sim.of r.output.vector e.vector →
      ahead Scored.score (scoreOf sim r.output.vector e)
        ((c.scores sim r.output s).filter (SIMILARITY_THRESHOLD ≤ ·.score)) =
      ahead Scored.score (scoreOf sim r.output.vector e) (c.scores sim r.output s) :=
    fun e he => ahead_filter fun b _ hb => decide_eq_true (he.trans hb)
  rw [best, candidates, List.take_of_length_le hlength, mem_take_descending, List.mem_filter,
    ← Call.scores]
  constructor
  · rintro ⟨⟨hmem, hscore⟩, hahead⟩
    obtain ⟨e, he, rfl⟩ := List.mem_map.mp hmem
    obtain ⟨hrow, hne, hversion⟩ := mem_comparable.mp he
    rw [decide_eq_true_iff] at hscore
    exact ⟨e, hrow, hne, hversion, rfl, hscore, hfilter e hscore ▸ hahead⟩
  · rintro ⟨e, hrow, hne, hversion, rfl, hscore, hahead⟩
    refine ⟨⟨List.mem_map_of_mem (mem_comparable.mpr ⟨hrow, hne, hversion⟩), ?_⟩, ?_⟩
    · exact decide_eq_true hscore
    · exact (hfilter e hscore).trans_lt hahead

theorem nodup_best :
    ((best sim r.output.vector (candidates c.listing c.signalId r.output.modelVersion s)).map
      Scored.otherId).Nodup := by
  have hrows : ((candidates c.listing c.signalId r.output.modelVersion s).map
      SignalEmbedding.signalId).Nodup := by
    refine List.Nodup.sublist ((List.take_sublist _ _).map _) ?_
    rw [((c.listing.perm _).map SignalEmbedding.signalId).nodup_iff]
    exact s.embeddings.nodup.sublist (List.filter_sublist.map _)
  refine List.Nodup.sublist ((List.take_sublist _ _).map _) ?_
  rw [(descending_perm.map Scored.otherId).nodup_iff]
  refine List.Nodup.sublist (List.filter_sublist.map _) ?_
  rw [List.map_map]
  exact hrows

/-- A call writes no link twice. -/
theorem nodup_writes : ((c.writes sim r s).map SignalSimilarity.key).Nodup := by
  have hinj : Function.Injective fun o => (pairOf c.signalId o, r.output.modelVersion) :=
    fun o o' h => pairOf_inj (Prod.mk.inj h).1
  have hmap : ((c.writes sim r s).map SignalSimilarity.key) = ((best sim r.output.vector
      (candidates c.listing c.signalId r.output.modelVersion s)).map Scored.otherId).map
        fun o => (pairOf c.signalId o, r.output.modelVersion) := by
    rw [Call.writes, List.map_map, List.map_map]
    rfl
  rw [hmap]
  exact nodup_best.map hinj

theorem embeddings_embedSignal (h : c.embeds = some r) :
    (embedSignal sim c s).2.embeddings = (s.upsertEmbedding (c.embedding r)).embeddings := by
  rw [embedSignal_of_some h]
  rfl

theorem similarities_embedSignal (h : c.embeds = some r) :
    (embedSignal sim c s).2.similarities =
      s.similarities.upsertAll rescoreBy key_rescoreBy (c.writes sim r s) := by
  rw [embedSignal_of_some h, Call.writes, ← candidates_upsertEmbedding (r := r)]
  rfl

/-- A row of the links after a call was written by it, or is an old one with another key. -/
theorem mem_similarities_iff {link : SignalSimilarity} (h : c.embeds = some r) :
    link ∈ (embedSignal sim c s).2.similarities.rows ↔ link ∈ c.writes sim r s ∨
      (link ∈ s.similarities.rows ∧ link.key ∉ (c.writes sim r s).map SignalSimilarity.key) := by
  have hwrites : ∀ new old : SignalSimilarity, old.key = new.key → rescoreBy new old = new := by
    rintro ⟨A, B, score, version⟩ ⟨A', B', score', version'⟩ hkey
    obtain ⟨⟨rfl, rfl⟩, rfl⟩ := hkey
    rfl
  rw [Keyed.mem_iff_get, similarities_embedSignal h]
  by_cases hkey : link.key ∈ (c.writes sim r s).map SignalSimilarity.key
  · obtain ⟨new, hnew, hsame⟩ := List.mem_map.mp hkey
    rw [← hsame, Keyed.get_upsertAll_of_mem _ hwrites nodup_writes hnew, hsame]
    constructor
    · intro heq
      obtain rfl := Option.some.inj heq
      exact Or.inl hnew
    · rintro (hlink | ⟨-, hnot⟩)
      · exact congrArg some (List.inj_on_of_nodup_map nodup_writes hnew hlink hsame)
      · exact absurd hkey hnot
  · rw [Keyed.get_upsertAll_of_not_mem _ hkey, ← Keyed.mem_iff_get, and_iff_left hkey]
    exact ⟨Or.inr, fun hor => hor.resolve_left fun hlink => hkey (List.mem_map_of_mem hlink)⟩

/-- The signals that a call links with its own. -/
theorem mem_writes_iff {link : SignalSimilarity} (hcap : s.embeddings.rows.length ≤ SCAN_CAP) :
    link ∈ c.writes sim r s ↔
      ∃ e ∈ s.embeddings.rows, e.signalId ≠ c.signalId ∧ e.modelVersion = r.output.modelVersion ∧
        c.Rematches sim r.output s e ∧
        linkOf c.signalId r.output.modelVersion (scoreOf sim r.output.vector e) = link := by
  rw [Call.writes, List.mem_map]
  constructor
  · rintro ⟨m, hm, hlink⟩
    obtain ⟨e, hrow, hne, hversion, rfl, hmatch⟩ := (mem_best_iff hcap).mp hm
    exact ⟨e, hrow, hne, hversion, hmatch, hlink⟩
  · rintro ⟨e, hrow, hne, hversion, hmatch, hlink⟩
    exact ⟨_, (mem_best_iff hcap).mpr ⟨e, hrow, hne, hversion, rfl, hmatch⟩, hlink⟩

/-! ### One call, and a run of calls -/

/-- The embedding of another signal is there before the call, and after it. -/
theorem get_of_mem (h : c.embeds = some r) (he : e ∈ s.embeddings.rows)
    (hne : e.signalId ≠ c.signalId) :
    (embedSignal sim c s).2.embeddings.get e.signalId = some e := by
  rw [embeddings_embedSignal h, get_upsertEmbedding_of_ne hne, ← Keyed.mem_iff_get]
  exact he

theorem get_signalId (h : c.embeds = some r) :
    (embedSignal sim c s).2.embeddings.get c.signalId = some (c.embedding r) := by
  rw [embeddings_embedSignal h, get_upsertEmbedding_self]

/-- What a call writes is current. -/
theorem currentIn_of_mem_writes {link : SignalSimilarity} (h : c.embeds = some r)
    (hcap : s.embeddings.rows.length ≤ SCAN_CAP) (hlink : link ∈ c.writes sim r s) :
    link.CurrentIn sim (embedSignal sim c s).2.embeddings := by
  obtain ⟨e, hrow, hne, hversion, ⟨hscore, -⟩, rfl⟩ := (mem_writes_iff hcap).mp hlink
  exact (currentIn_pair_iff (get_signalId h) (get_of_mem h hrow hne) hne rfl).mpr
    ⟨hscore, rfl, hversion, rfl⟩

/-- A link of two other signals is as current as before. -/
theorem currentIn_of_other {link : SignalSimilarity} (h : c.embeds = some r)
    (hA : link.signalAId ≠ c.signalId) (hB : link.signalBId ≠ c.signalId)
    (hcurrent : link.CurrentIn sim s.embeddings) :
    link.CurrentIn sim (embedSignal sim c s).2.embeddings := by
  obtain ⟨hordered, hsimilar, a, b, ha, hb, hrest⟩ := hcurrent
  refine ⟨hordered, hsimilar, a, b, ?_, ?_, hrest⟩
  · rw [embeddings_embedSignal h, get_upsertEmbedding_of_ne hA, ha]
  · rw [embeddings_embedSignal h, get_upsertEmbedding_of_ne hB, hb]

/-- **The links are current after a call exactly where it keeps the links of its signal.** -/
theorem linksCurrent_embedSignal_iff (hcap : s.embeddings.rows.length ≤ SCAN_CAP)
    (hcurrent : LinksCurrent sim s) :
    LinksCurrent sim (embedSignal sim c s).2 ↔ c.KeepsLinks sim s := by
  cases h : c.embeds with
  | none =>
    rw [embedSignal_of_none h]
    exact ⟨fun _ r hr => absurd (h.symm.trans hr) (by simp), fun _ => hcurrent⟩
  | some r =>
    constructor
    · intro hafter r' hr e he link hlink hpair
      obtain rfl := Option.some.inj (h.symm.trans hr)
      have hbefore := hcurrent link hlink
      have hne : e.signalId ≠ c.signalId := by
        intro hsame
        have hlt := hbefore.ordered
        rw [hsame, pairOf, ite_self] at hpair
        obtain ⟨hA, hB⟩ := Prod.mk.inj hpair
        rw [hA, hB] at hlt
        exact lt_irrefl _ hlt
      by_cases hkey : link.key ∈ (c.writes sim r s).map SignalSimilarity.key
      · -- the link is written again, from the other signal's embedding
        obtain ⟨new, hnew, hsame⟩ := List.mem_map.mp hkey
        obtain ⟨e', he', -, -, hmatch, rfl⟩ := (mem_writes_iff hcap).mp hnew
        obtain ⟨hpair', hversion⟩ := Prod.mk.inj hsame
        have hid : e'.signalId = e.signalId := pairOf_inj (hpair'.trans hpair)
        obtain rfl := List.inj_on_of_nodup_map s.embeddings.nodup he' he hid
        exact ⟨hversion.symm, Or.inr hmatch⟩
      · have hnow := hafter link ((mem_similarities_iff h).mpr (Or.inr ⟨hlink, hkey⟩))
        obtain ⟨-, hversion, -, hscore⟩ :=
          (currentIn_pair_iff (get_signalId h) (get_of_mem h he hne) hne hpair).mp hnow
        exact ⟨hversion.symm, Or.inl hscore⟩
    · intro hkeeps link hlink
      rcases (mem_similarities_iff h).mp hlink with hnew | ⟨hold, hkey⟩
      · exact currentIn_of_mem_writes h hcap hnew
      · have hbefore := hcurrent link hold
        by_cases hjoins : link.signalAId = c.signalId ∨ link.signalBId = c.signalId
        · obtain ⟨o, hside, hne, hpair⟩ := exists_pairOf hbefore.ordered hjoins
          obtain ⟨e, he, hversion⟩ : ∃ e, s.embeddings.get o = some e ∧
              e.modelVersion = link.modelVersion := by
            obtain ⟨a, b, ha, hb, hva, hvb, -⟩ := hbefore.score_eq
            rcases hside with rfl | rfl
            · exact ⟨a, ha, hva⟩
            · exact ⟨b, hb, hvb⟩
          obtain ⟨hrow, rfl⟩ := Keyed.get_eq_some_iff.mp he
          obtain ⟨hnow, hscore | hmatch⟩ := hkeeps r h e hrow link hold hpair
          · exact (currentIn_pair_iff (get_signalId h) (get_of_mem h hrow hne) hne hpair).mpr
              ⟨hbefore.similar, hnow.symm, hversion, hscore⟩
          · -- then the link was written again
            have hwritten : linkOf c.signalId r.output.modelVersion
                (scoreOf sim r.output.vector e) ∈ c.writes sim r s :=
              (mem_writes_iff hcap).mpr ⟨e, hrow, hne, hversion.trans hnow, hmatch, rfl⟩
            exact absurd (List.mem_map.mpr ⟨_, hwritten, Prod.ext hpair.symm hnow.symm⟩) hkey
        · rw [not_or] at hjoins
          exact currentIn_of_other h hjoins.1 hjoins.2 hbefore

theorem length_le_embedSignal :
    s.embeddings.rows.length ≤ (embedSignal sim c s).2.embeddings.rows.length := by
  cases h : c.embeds with
  | none => rw [embedSignal_of_none h]
  | some r =>
    rw [embeddings_embedSignal h]
    exact Keyed.length_le_upsert (signalId_replaceBy (c.embedding r))

@[simp] theorem embedded_concat (calls : List (Call V)) (c : Call V) :
    embedded sim (calls ++ [c]) = (embedSignal sim c (embedded sim calls)).2 := after_concat calls c

theorem length_le_embedded {before calls : List (Call V)} (h : before <+: calls) :
    (embedded sim before).embeddings.rows.length ≤ (embedded sim calls).embeddings.rows.length := by
  obtain ⟨rest, rfl⟩ := h
  induction rest using List.reverseRecOn with
  | nil => rw [List.append_nil]
  | append_singleton rest c ih =>
    rw [← List.append_assoc, embedded_concat]
    exact ih.trans length_le_embedSignal

theorem linksCurrent_empty : LinksCurrent sim (embedded sim []) := by
  intro link hlink
  exact absurd hlink List.not_mem_nil

/-- **The links are current at every moment of a run exactly where every call of it keeps the links
of its signal.** -/
theorem links_current_iff (sim : Similarity V) (calls : List (Call V))
    (hcap : (embedded sim calls).embeddings.rows.length ≤ SCAN_CAP) :
    (∀ before, before <+: calls → LinksCurrent sim (embedded sim before)) ↔
      ∀ before c, before ++ [c] <+: calls → c.KeepsLinks sim (embedded sim before) := by
  have hsize : ∀ before, before <+: calls →
      (embedded sim before).embeddings.rows.length ≤ SCAN_CAP :=
    fun before hbefore => (length_le_embedded hbefore).trans hcap
  constructor
  · intro hcurrent before c hprefix
    have hbefore := (List.prefix_append before [c]).trans hprefix
    have hnow := hcurrent _ hprefix
    rw [embedded_concat] at hnow
    exact (linksCurrent_embedSignal_iff (hsize before hbefore) (hcurrent before hbefore)).mp hnow
  · intro hkeeps
    refine forall_prefix linksCurrent_empty fun before c hprefix hcurrent => ?_
    have hbefore := (List.prefix_append before [c]).trans hprefix
    rw [embedded_concat]
    exact (linksCurrent_embedSignal_iff (hsize before hbefore) hcurrent).mpr
      (hkeeps before c hprefix)

end Current

/-! ## A run -/

namespace Sample

def inOrder : Listing (SignalEmbedding (List ℚ)) := ⟨id, fun _ => List.Perm.refl _⟩

def embedAs (signalId : String) (vector : List ℚ) : Call (List ℚ) where
  signalId := signalId
  text := "Your parcel is waiting, pay the fee"
  result := some ⟨⟨"text-embedding-2", vector⟩, .external⟩
  listing := inOrder

/-- Two reports with a similar text, the first of which comes in again with another text. -/
def rewordedReport : List (Call (List ℚ)) :=
  [embedAs "0b1c6e8e-3c7a-4d5e-9f00-5a1d2c3b4e5f" [1, 0],
    embedAs "7d2f9a10-88b4-4f6e-a1c2-0e9d8c7b6a54" [1, 0],
    embedAs "0b1c6e8e-3c7a-4d5e-9f00-5a1d2c3b4e5f" [0, 1]]

theorem links_current_iff_reworded :
    (∀ before, before <+: rewordedReport → LinksCurrent cosine (embedded cosine before)) ↔
      ∀ before c, before ++ [c] <+: rewordedReport →
        c.KeepsLinks cosine (embedded cosine before) :=
  links_current_iff cosine rewordedReport (by decide +kernel)

/-- The link is still there after the third call, with the score of the first embedding. -/
theorem link_left_over : ¬LinksCurrent cosine (embedded cosine rewordedReport) := by
  intro hcurrent
  have hlink : (⟨"0b1c6e8e-3c7a-4d5e-9f00-5a1d2c3b4e5f", "7d2f9a10-88b4-4f6e-a1c2-0e9d8c7b6a54", 1,
      "text-embedding-2"⟩ : SignalSimilarity) ∈
        (embedded cosine rewordedReport).similarities.rows := by
    decide +kernel
  obtain ⟨a, b, ha, hb, -, -, hscore⟩ := (hcurrent _ hlink).score_eq
  have hfirst : ((embedded cosine rewordedReport).embeddings.get
      "0b1c6e8e-3c7a-4d5e-9f00-5a1d2c3b4e5f").map SignalEmbedding.vector = some [0, 1] := by
    decide +kernel
  have hsecond : ((embedded cosine rewordedReport).embeddings.get
      "7d2f9a10-88b4-4f6e-a1c2-0e9d8c7b6a54").map SignalEmbedding.vector = some [1, 0] := by
    decide +kernel
  rw [ha] at hfirst
  rw [hb] at hsecond
  have hzero : cosine.of a.vector b.vector = 0 := by
    rw [Option.some.inj hfirst, Option.some.inj hsecond]
    decide +kernel
  rw [hzero] at hscore
  exact one_ne_zero hscore

end Sample

end Ai
