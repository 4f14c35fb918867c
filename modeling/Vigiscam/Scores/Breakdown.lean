import Vigiscam.Js.Text
import Vigiscam.Scores.Scorer

/-!
# Breakdowns of a score

The lines of a breakdown name what adds points, how many and why. Nothing is said of what adds
none.
-/

namespace Scores

open Js

structure BreakdownEntry where
  key : Text
  points : Int
  reason : Text
deriving DecidableEq

/-- The line of points that depend on a value. -/
def pushed (key : Text) (points : Int) (reason : Text) : List BreakdownEntry :=
  if points > 0 then [⟨key, points, reason⟩] else []

/-- The line of a flag that is set. -/
def flagged (flag : Option Bool) (key : Text) (points : Int) (reason : Text) :
    List BreakdownEntry :=
  if flag = some true then [⟨key, points, reason⟩] else []

/-- The sum of the points. -/
def raw (breakdown : List BreakdownEntry) : Int := (breakdown.map BreakdownEntry.points).sum

variable {key reason : Text} {points : Int} {breakdown breakdown' : List BreakdownEntry}

@[simp] theorem raw_nil : raw [] = 0 := rfl

@[simp] theorem raw_append : raw (breakdown ++ breakdown') = raw breakdown + raw breakdown' := by
  simp [raw]

@[simp] theorem raw_pushed : raw (pushed key points reason) = max 0 points := by
  unfold pushed
  split
  · simp [raw]
    omega
  · simp
    omega

theorem raw_flagged_le {flag : Option Bool} (h : 0 ≤ points) :
    raw (flagged flag key points reason) ≤ raw (flagged (some true) key points reason) := by
  rw [flagged, flagged, if_pos rfl]
  split
  · exact le_refl _
  · simpa [raw] using h

theorem raw_flatMap {α : Type} (f : α → List BreakdownEntry) (l : List α) :
    raw (l.flatMap f) = (l.map fun a => raw (f a)).sum := by
  induction l with
  | nil => rfl
  | cons a l ih => simp [ih]

/-- No line takes points away. -/
theorem raw_nonneg (h : ∀ entry ∈ breakdown, 0 < entry.points) : 0 ≤ raw breakdown := by
  refine List.sum_nonneg fun n hn => ?_
  obtain ⟨entry, hmem, rfl⟩ := List.mem_map.mp hn
  exact (h entry hmem).le

theorem points_pushed : ∀ entry ∈ pushed key points reason, 0 < entry.points := by
  intro entry hmem
  unfold pushed at hmem
  split at hmem
  · rw [List.mem_singleton.mp hmem]
    assumption
  · exact absurd hmem List.not_mem_nil

theorem points_flagged {flag : Option Bool} (h : 0 < points) :
    ∀ entry ∈ flagged flag key points reason, 0 < entry.points := by
  intro entry hmem
  unfold flagged at hmem
  split at hmem
  · rw [List.mem_singleton.mp hmem]
    exact h
  · exact absurd hmem List.not_mem_nil

end Scores
