import Mathlib.Algebra.BigOperators.Group.List.Basic

/-!
# Sums over the places of a list

A checksum adds up a weight for each symbol, which depends on its place counted from the right
(`total`). A symbol that is replaced by another one is missed exactly where the two have one weight
there (`total_replaced_iff`), and two neighbours that are exchanged are missed exactly where the
difference of the weights at their places is the same for both (`total_exchanged_iff`).
-/

namespace CheckDigits

variable {α M N : Type} {w : Nat → α → M} {l l' : List α} {x y : α}

/-- The weights of all symbols, with the places counted from the right. -/
def total [Add M] [Zero M] (w : Nat → α → M) (l : List α) : M := (l.reverse.mapIdx w).sum

section Sums

variable [AddCommMonoid M] [AddCommMonoid N]

@[simp] theorem total_nil (w : Nat → α → M) : total w [] = 0 := rfl

/-- The first symbol is at the last place. -/
theorem total_cons (w : Nat → α → M) (x : α) (l : List α) :
    total w (x :: l) = total w l + w l.length x := by
  rw [total, List.reverse_cons, List.mapIdx_concat, List.sum_append, List.sum_singleton,
    List.length_reverse]
  rfl

theorem map_total (f : M →+ N) (w : Nat → α → M) (l : List α) :
    f (total w l) = total (fun i x => f (w i x)) l := by
  induction l with
  | nil => exact map_zero f
  | cons x l ih => rw [total_cons, total_cons, map_add, ih]

end Sums

section Changes

variable [AddCancelCommMonoid M]

/-- What is before the change keeps its places. -/
theorem total_append_iff (h : l.length = l'.length) (a : List α) :
    total w (a ++ l) = total w (a ++ l') ↔ total w l = total w l' := by
  induction a with
  | nil => exact Iff.rfl
  | cons x a ih =>
    have hlength : (a ++ l).length = (a ++ l').length := by
      rw [List.length_append, List.length_append, h]
    rw [List.cons_append, List.cons_append, total_cons, total_cons, hlength, add_left_inj, ih]

/-- **One symbol is replaced.** -/
theorem total_replaced_iff (a b : List α) :
    total w (a ++ x :: b) = total w (a ++ y :: b) ↔ w b.length x = w b.length y := by
  have hlength : (x :: b).length = (y :: b).length := rfl
  rw [total_append_iff hlength, total_cons, total_cons, add_right_inj]

/-- **Two neighbours are exchanged.** -/
theorem total_exchanged_iff (a b : List α) :
    total w (a ++ x :: y :: b) = total w (a ++ y :: x :: b) ↔
      w b.length y + w (b.length + 1) x = w b.length x + w (b.length + 1) y := by
  have hlength : (x :: y :: b).length = (y :: x :: b).length := rfl
  rw [total_append_iff hlength, total_cons, total_cons, total_cons, total_cons, List.length_cons,
    List.length_cons, add_assoc, add_assoc, add_right_inj]

end Changes

end CheckDigits
