import Mathlib.Data.List.Basic

/-!
# Pages of a list

A list is read page by page. Page `k`, counted from 0, skips `k * size` items and takes `size + 1`
of them: the extra one only says whether there is a next page. Page after page gives the whole list
(`page_append_drop`), and the last page is the one with `(length - 1) / size` pages before it
(`hasNext_iff`, `page_of_last_lt`).
-/

namespace Pages

variable {α : Type} {size k : Nat} {l : List α}

/-- What is read of the list for a page. -/
def window (size k : Nat) (l : List α) : List α := (l.drop (k * size)).take (size + 1)

/-- The page itself. -/
def page (size k : Nat) (l : List α) : List α := (window size k l).take size

def hasNext (size k : Nat) (l : List α) : Bool := size < (window size k l).length

/-- How many pages come before the last one. -/
def last (size : Nat) (l : List α) : Nat := (l.length - 1) / size

theorem page_eq : page size k l = (l.drop (k * size)).take size := by
  rw [page, window, List.take_take, Nat.min_eq_left (Nat.le_succ size)]

/-- A page, and what comes after it, is what comes after the pages before it. -/
theorem page_append_drop : page size k l ++ l.drop ((k + 1) * size) = l.drop (k * size) := by
  rw [page_eq, Nat.succ_mul, ← List.drop_drop, List.take_append_drop]

theorem hasNext_iff_lt : hasNext size k l = true ↔ (k + 1) * size < l.length := by
  rw [hasNext, decide_eq_true_iff, window, List.length_take, List.length_drop, Nat.succ_mul]
  omega

theorem hasNext_iff (hsize : 0 < size) : hasNext size k l = true ↔ k < last size l := by
  have hdiv : k < last size l ↔ (k + 1) * size ≤ l.length - 1 := Nat.le_div_iff_mul_le hsize
  have hpos : 0 < (k + 1) * size := Nat.mul_pos (Nat.succ_pos k) hsize
  rw [hasNext_iff_lt, hdiv]
  omega

/-- After the last page there is nothing. -/
theorem drop_of_last_lt (hsize : 0 < size) (h : last size l < k) : l.drop (k * size) = [] := by
  have hdiv := (Nat.div_lt_iff_lt_mul hsize).mp h
  exact List.drop_eq_nil_of_le (by omega)

theorem page_of_last_lt (hsize : 0 < size) (h : last size l < k) : page size k l = [] := by
  rw [page_eq, drop_of_last_lt hsize h, List.take_nil]

/-- The last page is what is left. -/
theorem page_last (hsize : 0 < size) : page size (last size l) l = l.drop (last size l * size) := by
  have hrest : l.drop ((last size l + 1) * size) = [] :=
    drop_of_last_lt hsize (Nat.lt_succ_self _)
  rw [← page_append_drop, hrest, List.append_nil]

theorem skip_le_length (h : k ≤ last size l) : k * size ≤ l.length := by
  have hmul : k * size ≤ last size l * size := Nat.mul_le_mul_right size h
  have hdiv : last size l * size ≤ l.length - 1 := Nat.div_mul_le_self _ _
  omega

end Pages
