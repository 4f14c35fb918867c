import Mathlib.Combinatorics.SimpleGraph.Metric
import Mathlib.Data.List.Perm.Subperm

/-!
# Searching a graph by layers

A search from a vertex gathers one layer of the graph after the other: the vertices at distance
one, those at distance two, and so on. `Whole` says that all layers so far are gathered, and
`Gathered` what a search keeps that stops at a number of vertices: it gathers as many as there
are, and none of a layer before the layer before it is whole.
-/

namespace Layers

variable {V : Type*} {G : SimpleGraph V} {s u v : V} {n m cap : ℕ} {xs new : List V}

/-! ## Distances -/

theorem edist_le_succ_of_adj (hu : G.edist s u ≤ n) (hadj : G.Adj u v) :
    G.edist s v ≤ (n + 1 : ℕ) := by
  have hone : G.edist u v ≤ 1 := SimpleGraph.edist_le_one_iff_adj_or_eq.mpr (Or.inl hadj)
  calc G.edist s v ≤ G.edist s u + G.edist u v := SimpleGraph.edist_triangle
    _ ≤ (n + 1 : ℕ) := by
      push_cast
      exact add_le_add hu hone

/-- The last step of a shortest walk. -/
theorem exists_adj_of_edist_eq_succ (h : G.edist s v = (n + 1 : ℕ)) :
    ∃ u, G.edist s u = n ∧ G.Adj u v := by
  obtain ⟨p, hp⟩ := SimpleGraph.exists_walk_of_edist_eq_coe h
  have hnil : ¬ p.Nil := by
    rw [← SimpleGraph.Walk.length_eq_zero_iff]
    omega
  have hadj := p.adj_penultimate hnil
  refine ⟨p.penultimate, le_antisymm ?_ ?_, hadj⟩
  · have hlength : p.dropLast.length = n := by
      rw [SimpleGraph.Walk.length_dropLast]
      omega
    calc G.edist s p.penultimate ≤ p.dropLast.length := SimpleGraph.edist_le _
      _ = n := by rw [hlength]
  · -- a shorter way to the step before would be a shorter way to the end
    by_contra hlt
    rw [not_le] at hlt
    obtain ⟨k, hk⟩ := ENat.ne_top_iff_exists.mp hlt.ne_top
    rw [← hk, Nat.cast_lt] at hlt
    have hle : G.edist s v ≤ (k + 1 : ℕ) := edist_le_succ_of_adj hk.symm.le hadj
    rw [h, Nat.cast_le] at hle
    omega

theorem le_succ_iff : G.edist s v ≤ (n + 1 : ℕ) ↔ G.edist s v ≤ n ∨ G.edist s v = (n + 1 : ℕ) := by
  constructor
  · intro h
    rcases h.lt_or_eq with hlt | heq
    · push_cast at hlt
      exact Or.inl (ENat.lt_natCast_add_one_iff.mp hlt)
    · exact Or.inr heq
  · rintro (h | h)
    · exact h.trans (Nat.cast_le.mpr (by omega))
    · exact h.le

theorem ne_succ_of_le (h : G.edist s v ≤ n) : G.edist s v ≠ (n + 1 : ℕ) := by
  intro heq
  rw [heq, Nat.cast_le] at h
  omega

/-- A vertex of the next layer is beside one of the last layer, and is not gathered yet. -/
theorem edist_eq_succ_iff :
    G.edist s v = (n + 1 : ℕ) ↔ ¬ G.edist s v ≤ n ∧ ∃ u, G.edist s u = n ∧ G.Adj u v := by
  constructor
  · intro h
    exact ⟨fun hle => ne_succ_of_le hle h, exists_adj_of_edist_eq_succ h⟩
  · rintro ⟨hnot, u, hu, hadj⟩
    exact (le_succ_iff.mp (edist_le_succ_of_adj hu.le hadj)).resolve_left hnot

/-- After a layer that is empty there is no other. -/
theorem edist_le_of_empty (hempty : ∀ v, G.edist s v ≠ (n + 1 : ℕ)) (hnm : n ≤ m)
    (h : G.edist s v ≤ m) : G.edist s v ≤ n := by
  induction m, hnm using Nat.le_induction generalizing v with
  | base => exact h
  | succ m hnm ih =>
    rcases le_succ_iff.mp h with hle | heq
    · exact ih hle
    · obtain ⟨u, hu, hadj⟩ := exists_adj_of_edist_eq_succ heq
      have hnext : G.edist s v ≤ (n + 1 : ℕ) := edist_le_succ_of_adj (ih hu.le) hadj
      exact (le_succ_iff.mp hnext).resolve_right (hempty v)

/-! ## What is gathered -/

/-- The vertices at a distance of at most `n`, each once. -/
structure Whole (G : SimpleGraph V) (s : V) (n : ℕ) (xs : List V) : Prop where
  nodup : xs.Nodup
  mem : ∀ v, v ∈ xs ↔ G.edist s v ≤ n

/-- What a search up to the distance `n` has gathered of at most `cap` vertices. -/
structure Gathered (G : SimpleGraph V) (s : V) (cap n : ℕ) (xs : List V) : Prop where
  nodup : xs.Nodup
  near : ∀ v ∈ xs, G.edist s v ≤ n
  nearer : ∀ v ∈ xs, ∀ u, G.edist s u < G.edist s v → u ∈ xs
  bounded : xs.length ≤ cap
  full : xs.length = cap ∨ ∀ v, G.edist s v ≤ n → v ∈ xs

theorem whole_zero : Whole G s 0 [s] := by
  refine ⟨List.nodup_singleton s, fun v => ?_⟩
  rw [List.mem_singleton, Nat.cast_zero, nonpos_iff_eq_zero, SimpleGraph.edist_eq_zero_iff]
  exact eq_comm

/-- The next layer is new. -/
theorem Whole.nodup_append (h : Whole G s n xs) (hnew : new.Nodup)
    (hlayer : ∀ v ∈ new, G.edist s v = (n + 1 : ℕ)) : (xs ++ new).Nodup := by
  refine List.nodup_append.mpr ⟨h.nodup, hnew, fun u hu v hv huv => ?_⟩
  have hle : G.edist s v ≤ n := huv ▸ (h.mem u).mp hu
  exact ne_succ_of_le hle (hlayer v hv)

theorem Whole.append (h : Whole G s n xs) (hnew : new.Nodup)
    (hlayer : ∀ v, v ∈ new ↔ G.edist s v = (n + 1 : ℕ)) : Whole G s (n + 1) (xs ++ new) := by
  refine ⟨h.nodup_append hnew fun v => (hlayer v).mp, fun v => ?_⟩
  rw [List.mem_append, h.mem, hlayer, le_succ_iff]

theorem Whole.of_empty (h : Whole G s n xs) (hempty : ∀ v, G.edist s v ≠ (n + 1 : ℕ))
    (hnm : n ≤ m) : Whole G s m xs := by
  refine ⟨h.nodup, fun v => ?_⟩
  rw [h.mem]
  exact ⟨fun hle => hle.trans (Nat.cast_le.mpr hnm), edist_le_of_empty hempty hnm⟩

/-- A search that has gathered all. -/
theorem Whole.gathered (h : Whole G s n xs) (hcap : xs.length ≤ cap) : Gathered G s cap n xs where
  nodup := h.nodup
  near v hv := (h.mem v).mp hv
  nearer v hv u hu := (h.mem u).mpr (hu.le.trans ((h.mem v).mp hv))
  bounded := hcap
  full := Or.inr fun v => (h.mem v).mpr

/-- A search that stops within a layer. -/
theorem Whole.gathered_append (h : Whole G s n xs) (hnew : new.Nodup)
    (hlayer : ∀ v ∈ new, G.edist s v = (n + 1 : ℕ)) (hcap : (xs ++ new).length = cap)
    (hnm : n + 1 ≤ m) : Gathered G s cap m (xs ++ new) where
  nodup := h.nodup_append hnew hlayer
  near v hv := by
    have hle : G.edist s v ≤ (n + 1 : ℕ) := by
      rcases List.mem_append.mp hv with hold | hnew
      · exact le_succ_iff.mpr (Or.inl ((h.mem v).mp hold))
      · exact (hlayer v hnew).le
    exact hle.trans (Nat.cast_le.mpr hnm)
  nearer v hv u hu := by
    refine List.mem_append_left new ((h.mem u).mpr ?_)
    rcases List.mem_append.mp hv with hold | hnew
    · exact hu.le.trans ((h.mem v).mp hold)
    · rw [hlayer v hnew] at hu
      exact (le_succ_iff.mp hu.le).resolve_right hu.ne
  bounded := hcap.le
  full := Or.inl hcap

/-- What is gathered begins with the vertex that the search starts from. -/
theorem Gathered.mem_self (h : Gathered G s cap n xs) (hcap : 0 < cap) : s ∈ xs := by
  rcases h.full with hfull | hall
  · obtain ⟨v, hv⟩ := List.exists_mem_of_length_pos (hfull ▸ hcap)
    by_cases hsame : s = v
    · exact hsame ▸ hv
    · refine h.nearer v hv s ?_
      rw [SimpleGraph.edist_self]
      exact SimpleGraph.edist_pos_of_ne hsame
  · exact hall s (by simp)

/-! ## How much is gathered -/

section Ball

variable {ball : List V}

/-- As many as there are, up to the cap. -/
theorem Gathered.length_eq (h : Gathered G s cap n xs) (hball : Whole G s n ball) :
    xs.length = min cap ball.length := by
  have hsub : xs.length ≤ ball.length :=
    (h.nodup.subperm fun v hv => (hball.mem v).mpr (h.near v hv)).length_le
  rcases h.full with hfull | hall
  · omega
  · have hle : ball.length ≤ xs.length :=
      (hball.nodup.subperm fun v hv => hall v ((hball.mem v).mp hv)).length_le
    have := h.bounded
    omega

/-- A search that the cap does not stop. -/
theorem Gathered.whole (h : Gathered G s cap n xs) (hball : Whole G s n ball)
    (hcap : ball.length ≤ cap) : Whole G s n xs := by
  have hsub : xs.Subperm ball := h.nodup.subperm fun v hv => (hball.mem v).mpr (h.near v hv)
  have hperm : xs.Perm ball := by
    refine hsub.perm_of_length_le ?_
    rw [h.length_eq hball, min_eq_right hcap]
  exact ⟨h.nodup, fun v => hperm.mem_iff.trans (hball.mem v)⟩

end Ball

end Layers
