import Mathlib.Data.List.Sort
import Mathlib.Order.Defs.LinearOrder

/-!
# The best of a list

`descending f l` is the list with the greatest values of `f` first; elements of the same value stay
in their order. An element has its place there after those that are `ahead` of it: those with a
greater value, and those with the same value that are before it in the list. So it is among the
first `n` exactly where fewer than `n` are ahead of it (`mem_take_descending`).
-/

namespace Ranking

variable {α β : Type} [DecidableEq α] [LinearOrder β] {f : α → β} {l s : List α} {a x : α} {n : Nat}

/-- One element may come before another. -/
def Before (f : α → β) (a b : α) : Prop := f b ≤ f a

instance : DecidableRel (Before f) := fun _ _ => inferInstanceAs (Decidable (_ ≤ _))

instance : Std.Total (Before f) := ⟨fun a b => le_total (f b) (f a)⟩

instance : IsTrans α (Before f) := ⟨fun _ _ _ hab hbc => le_trans hbc hab⟩

def descending (f : α → β) (l : List α) : List α := l.insertionSort (Before f)

/-- How many elements of the list are ahead of one of them. -/
def ahead (f : α → β) (a : α) (l : List α) : Nat :=
  l.countP (f a < f ·) + (l.takeWhile (· ≠ a)).countP (f · = f a)

omit [DecidableEq α] in
@[simp] theorem mem_descending : a ∈ descending f l ↔ a ∈ l := List.mem_insertionSort _

omit [DecidableEq α] in
theorem descending_perm : (descending f l).Perm l := List.perm_insertionSort _ _

theorem ahead_cons_self : ahead f a (a :: l) = l.countP (f a < f ·) := by
  simp [ahead]

theorem ahead_cons (hne : x ≠ a) :
    ahead f a (x :: l) = ahead f a l + if f a ≤ f x then 1 else 0 := by
  rw [ahead, ahead, List.takeWhile_cons_of_pos (by simpa using hne), List.countP_cons,
    List.countP_cons]
  simp only [decide_eq_true_iff]
  rcases lt_trichotomy (f a) (f x) with hlt | heq | hgt
  · rw [if_pos hlt, if_neg hlt.ne', if_pos hlt.le]
    omega
  · rw [if_neg heq.not_lt, if_pos heq.symm, if_pos heq.le]
    omega
  · rw [if_neg hgt.not_gt, if_neg hgt.ne, if_neg hgt.not_ge]
    omega

/-! ## The place of an element -/

/-- An element is put after those with a greater value. -/
theorem idxOf_orderedInsert_self (hsorted : s.Pairwise (Before f)) :
    (s.orderedInsert (Before f) a).idxOf a = s.countP (f a < f ·) := by
  induction s with
  | nil => simp
  | cons b s ih =>
    rw [List.pairwise_cons] at hsorted
    by_cases hb : Before f a b
    · -- nothing in the rest is greater than `b`
      have hnone : (b :: s).countP (f a < f ·) = 0 := by
        rw [List.countP_eq_zero]
        intro c hc
        have hcb : f c ≤ f b := by
          rcases List.mem_cons.mp hc with rfl | hc
          · exact le_rfl
          · exact hsorted.1 c hc
        simpa using hcb.trans hb
      rw [List.orderedInsert_cons_of_le _ _ hb, List.idxOf_cons_self, hnone]
    · have hlt : f a < f b := not_le.mp hb
      have hne : b ≠ a := fun hsame => hlt.ne (congrArg f hsame.symm)
      have hcount : (b :: s).countP (f a < f ·) = s.countP (f a < f ·) + 1 :=
        List.countP_cons_of_pos (decide_eq_true hlt)
      rw [List.orderedInsert_of_not_le _ _ hb, List.idxOf_cons_ne _ hne, ih hsorted.2, hcount]

/-- It moves those of its value, and those with a smaller one, by one place. -/
theorem idxOf_orderedInsert_of_ne (hne : x ≠ a) (ha : a ∈ s) (hsorted : s.Pairwise (Before f)) :
    (s.orderedInsert (Before f) x).idxOf a = s.idxOf a + if f a ≤ f x then 1 else 0 := by
  induction s with
  | nil => exact absurd ha List.not_mem_nil
  | cons b s ih =>
    rw [List.pairwise_cons] at hsorted
    by_cases hx : Before f x b
    · have hab : f a ≤ f b := by
        rcases List.mem_cons.mp ha with rfl | ha
        · exact le_rfl
        · exact hsorted.1 a ha
      rw [List.orderedInsert_cons_of_le _ _ hx, List.idxOf_cons_ne _ hne, if_pos (hab.trans hx)]
    · rw [List.orderedInsert_of_not_le _ _ hx]
      by_cases hb : b = a
      · subst hb
        have hnot : ¬f b ≤ f x := hx
        rw [List.idxOf_cons_self, List.idxOf_cons_self, if_neg hnot]
      · have ha' : a ∈ s := (List.mem_cons.mp ha).resolve_left (Ne.symm hb)
        rw [List.idxOf_cons_ne _ hb, List.idxOf_cons_ne _ hb, ih ha' hsorted.2]
        omega

theorem idxOf_descending (ha : a ∈ l) : (descending f l).idxOf a = ahead f a l := by
  induction l with
  | nil => exact absurd ha List.not_mem_nil
  | cons x l ih =>
    have hsorted : (descending f l).Pairwise (Before f) := List.pairwise_insertionSort _ _
    have hcons : descending f (x :: l) = (descending f l).orderedInsert (Before f) x := rfl
    rw [hcons]
    by_cases hx : x = a
    · subst hx
      rw [idxOf_orderedInsert_self hsorted, ahead_cons_self]
      exact descending_perm.countP_eq _
    · have ha' : a ∈ l := (List.mem_cons.mp ha).resolve_left (Ne.symm hx)
      rw [idxOf_orderedInsert_of_ne hx (mem_descending.mpr ha') hsorted, ahead_cons hx,
        ih ha']

theorem mem_take_descending : a ∈ (descending f l).take n ↔ a ∈ l ∧ ahead f a l < n := by
  constructor
  · intro h
    have ha : a ∈ l := mem_descending.mp (List.mem_of_mem_take h)
    rw [List.mem_take_iff_idxOf_lt (mem_descending.mpr ha), idxOf_descending ha] at h
    exact ⟨ha, h⟩
  · rintro ⟨ha, h⟩
    rw [List.mem_take_iff_idxOf_lt (mem_descending.mpr ha), idxOf_descending ha]
    exact h

/-- A filter that keeps all with a value as great as the element's changes nothing for it. -/
theorem ahead_filter {p : α → Bool} (h : ∀ b ∈ l, f a ≤ f b → p b = true) :
    ahead f a (l.filter p) = ahead f a l := by
  induction l with
  | nil => rfl
  | cons x l ih =>
    have ih := ih fun b hb => h b (List.mem_cons_of_mem _ hb)
    have hx := h x List.mem_cons_self
    by_cases hsame : x = a
    · subst hsame
      rw [List.filter_cons_of_pos (hx le_rfl), ahead_cons_self, ahead_cons_self, List.countP_filter]
      refine List.countP_congr fun b hb => ?_
      simp only [Bool.and_eq_true, decide_eq_true_iff, and_iff_left_iff_imp]
      exact fun hlt => h b (List.mem_cons_of_mem _ hb) hlt.le
    · rw [List.filter_cons, ahead_cons hsame]
      split
      · rw [ahead_cons hsame, ih]
      · next hp => rw [ih, if_neg fun hle => hp (hx hle), Nat.add_zero]

end Ranking
