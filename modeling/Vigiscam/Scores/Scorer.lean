import Mathlib.Algebra.Order.BigOperators.Group.List
import Mathlib.Algebra.Order.Group.Int
import Mathlib.Algebra.Ring.Int.Defs
import Mathlib.Data.Int.ConditionallyCompleteOrder
import Mathlib.Order.ConditionallyCompleteLattice.Basic

/-!
# Scores that explain themselves

A scorer adds up points, keeps the sum in the range 0 to 100, and returns the points beside the
score. It answers with a level too, and may recommend an action. `Raise` says which single changes
of an input are adverse.

`Scorer.Sound` is what is expected of a scorer: the points account for the score, and no adverse
change lowers an answer. Every point is a number there; in general it may be none (NaN).
-/

namespace Scores

/-- A sum, kept in the range 0 to 100. -/
def clamp (sum : Int) : Int := min 100 (max 0 sum)

theorem clamp_nonneg (sum : Int) : 0 ≤ clamp sum := le_min (by decide) (le_max_left _ _)

theorem clamp_le (sum : Int) : clamp sum ≤ 100 := min_le_left _ _

theorem clamp_mono {sum sum' : Int} (h : sum ≤ sum') : clamp sum ≤ clamp sum' :=
  min_le_min_left _ (max_le_max_left _ h)

theorem clamp_of_nonneg {sum : Int} (h : 0 ≤ sum) : clamp sum = min 100 sum := by
  rw [clamp, max_eq_right h]

/-- A list of points that are all numbers. -/
theorem mapM_eq_some_iff {α β : Type} {f : α → Option β} {l : List α} {numbers : List β} :
    l.mapM f = some numbers ↔ l.map f = numbers.map some := by
  induction l generalizing numbers with
  | nil => cases numbers <;> simp
  | cons a l ih =>
    rw [List.mapM_cons, List.map_cons]
    cases numbers with
    | nil => cases f a <;> cases l.mapM f <;> simp
    | cons n numbers =>
      rw [List.map_cons, List.cons.injEq, ← ih]
      cases f a <;> cases l.mapM f <;> simp

/-- The score is the sum of the points, in the range 0 to 100. -/
def Explained (score : Option Int) (points : List (Option Int)) : Prop :=
  ∃ numbers : List Int, points = numbers.map some ∧ score = some (clamp numbers.sum)

/-- How an input of type `ι` is scored. -/
structure Scorer (ι : Type) where
  score : ι → Option Int
  points : ι → List (Option Int)
  /-- How severe the level is. -/
  level : ι → Nat
  /-- How severe the recommended action is, 0 where none is ever recommended. -/
  action : ι → Nat
  /-- The second input is the first with one change, an adverse one. -/
  Raise : ι → ι → Prop

structure Scorer.Sound {ι : Type} (s : Scorer ι) : Prop where
  bounded : ∀ i, ∃ n, s.score i = some n ∧ 0 ≤ n ∧ n ≤ 100
  explained : ∀ i, Explained (s.score i) (s.points i)
  score_mono : ∀ i j, s.Raise i j → ∀ n ∈ s.score i, ∀ m ∈ s.score j, n ≤ m
  level_mono : ∀ i j, s.Raise i j → s.level i ≤ s.level j
  action_mono : ∀ i j, s.Raise i j → s.action i ≤ s.action j

variable {ι : Type} {s : Scorer ι}

/-- A scorer is sound whose sum, level and action no adverse change lowers. -/
theorem Scorer.sound_of_sum (numbers : ι → List Int)
    (hpoints : ∀ i, s.points i = (numbers i).map some)
    (hscore : ∀ i, s.score i = some (clamp (numbers i).sum))
    (hsum : ∀ i j, s.Raise i j → (numbers i).sum ≤ (numbers j).sum)
    (hlevel : ∀ i j, s.Raise i j → s.level i ≤ s.level j)
    (haction : ∀ i j, s.Raise i j → s.action i ≤ s.action j) : s.Sound where
  bounded i := ⟨_, hscore i, clamp_nonneg _, clamp_le _⟩
  explained i := ⟨numbers i, hpoints i, hscore i⟩
  score_mono i j hraise n hn m hm := by
    rw [hscore, Option.mem_some_iff] at hn hm
    rw [← hn, ← hm]
    exact clamp_mono (hsum i j hraise)
  level_mono := hlevel
  action_mono := haction

/-- A scorer is sound whose every point no adverse change lowers, whose level is that of its score,
and who recommends nothing. -/
theorem Scorer.sound_of_points (numbers : ι → List Int) {severity : Int → Nat}
    (hpoints : ∀ i, s.points i = (numbers i).map some)
    (hscore : ∀ i, s.score i = some (clamp (numbers i).sum))
    (hlevel : ∀ i, s.level i = severity (clamp (numbers i).sum))
    (haction : ∀ i, s.action i = 0) (hseverity : Monotone severity)
    (hraise : ∀ i j, s.Raise i j → List.Forall₂ (· ≤ ·) (numbers i) (numbers j)) : s.Sound := by
  have hsum : ∀ i j, s.Raise i j → (numbers i).sum ≤ (numbers j).sum :=
    fun i j h => (hraise i j h).sum_le_sum
  refine Scorer.sound_of_sum numbers hpoints hscore hsum (fun i j h => ?_) fun i j _ => ?_
  · rw [hlevel, hlevel]
    exact hseverity (clamp_mono (hsum i j h))
  · rw [haction, haction]

end Scores
