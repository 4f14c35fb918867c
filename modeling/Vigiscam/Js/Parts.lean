import Mathlib.Data.List.Basic
import Mathlib.Data.List.Infix

/-!
# Parts of a list

Where a unit `c` stands in a list, a part of the list that has no `c` is on one side of it
(`infix_append_cons`), and a part that has one has it there, where the list has no other
(`pivot_infix_iff`).
-/

namespace Parts

variable {α : Type} {a b t u v : List α} {c : α}

/-- A part without `c` is on one side of it. -/
theorem infix_append_cons (h : c ∉ t) : t <:+: a ++ c :: b ↔ t <:+: a ∨ t <:+: b := by
  constructor
  · rintro ⟨p, q, hpq⟩
    rcases List.append_eq_append_iff.mp hpq with ⟨a', ha, -⟩ | ⟨c', hc, hq⟩
    · exact Or.inl ⟨p, a', ha.symm⟩
    · rcases List.cons_eq_append_iff.mp hq with ⟨rfl, -⟩ | ⟨c'', rfl, rfl⟩
      · left
        rw [List.append_nil] at hc
        exact ⟨p, [], by rw [List.append_nil, hc]⟩
      · -- the part starts before `c` or after it
        rcases List.append_eq_append_iff.mp hc with ⟨a', -, ht⟩ | ⟨d, -, hd⟩
        · exact absurd (by simp [ht]) h
        · rcases List.cons_eq_append_iff.mp hd with ⟨rfl, rfl⟩ | ⟨e, rfl, rfl⟩
          · exact absurd List.mem_cons_self h
          · exact Or.inr ⟨e, q, rfl⟩
  · rintro (⟨p, q, rfl⟩ | ⟨p, q, rfl⟩)
    · exact ⟨p, q ++ c :: b, by simp⟩
    · exact ⟨a ++ c :: p, q, by simp⟩

/-- A part with `c` has it where the list has its only one. -/
theorem pivot_infix_iff (ha : c ∉ a) (hb : c ∉ b) :
    u ++ c :: v <:+: a ++ c :: b ↔ u <:+ a ∧ v <+: b := by
  constructor
  · rintro ⟨p, q, hpq⟩
    have hsplit : (p ++ u) ++ c :: (v ++ q) = a ++ c :: b := by simpa using hpq
    obtain ⟨hleft, -, hright⟩ := (List.append_cons_inj_of_notMem ha hb).mp hsplit.symm
    exact ⟨⟨p, hleft.symm⟩, ⟨q, hright.symm⟩⟩
  · rintro ⟨⟨p, rfl⟩, ⟨q, rfl⟩⟩
    exact ⟨p, q, by simp⟩

/-- A `c` after a part without one is the first one, or a later one. -/
theorem append_cons_cases {x y : List α} (ha : c ∉ a) (h : a ++ c :: b = x ++ c :: y) :
    (x = a ∧ y = b) ∨ ∃ z, b = z ++ c :: y ∧ x = a ++ c :: z := by
  rcases List.append_eq_append_iff.mp h with ⟨z, rfl, hz⟩ | ⟨z, rfl, hz⟩
  · rcases List.cons_eq_append_iff.mp hz with ⟨rfl, hy⟩ | ⟨z', rfl, hb⟩
    · exact Or.inl ⟨by simp, (List.cons.inj hy).2⟩
    · exact Or.inr ⟨z', hb, by simp⟩
  · rcases List.cons_eq_append_iff.mp hz with ⟨rfl, hy⟩ | ⟨z', rfl, -⟩
    · exact Or.inl ⟨by simp, (List.cons.inj hy).2.symm⟩
    · exact absurd (List.mem_append_right x List.mem_cons_self) ha

/-- A list that `c` splits into two has it once. -/
theorem splitOn_eq_pair_iff [DecidableEq α] {s : List α} :
    s.splitOn c = [a, b] ↔ s = a ++ c :: b ∧ c ∉ a ∧ c ∉ b := by
  have hsingle : ∀ t : List α, c ∉ t → t.splitOn c = [t] := by
    intro t ht
    rw [List.splitOn_eq_splitOnP]
    refine List.splitOnP_eq_singleton fun x hx => beq_false_of_ne ?_
    rintro rfl
    exact ht hx
  have hcons : ∀ t r : List α, c ∉ t → (t ++ c :: r).splitOn c = t :: r.splitOn c := by
    intro t r ht
    rw [List.splitOn_eq_splitOnP, List.splitOn_eq_splitOnP]
    refine List.splitOnP_append_cons_of_forall_mem (fun x hx => beq_false_of_ne ?_) c (by simp) r
    rintro rfl
    exact ht hx
  constructor
  · intro h
    by_cases hs : c ∈ s
    · obtain ⟨t, r, rfl, ht⟩ := List.eq_append_cons_of_mem hs
      rw [hcons t r ht] at h
      obtain ⟨rfl, hr⟩ := List.cons.inj h
      by_cases hc : c ∈ r
      · obtain ⟨t', r', rfl, ht'⟩ := List.eq_append_cons_of_mem hc
        rw [hcons t' r' ht'] at hr
        have hnil := (List.cons.inj hr).2
        rw [List.splitOn_eq_splitOnP] at hnil
        exact absurd hnil (List.splitOnP_ne_nil _ _)
      · rw [hsingle r hc] at hr
        obtain rfl := List.singleton_inj.mp hr
        exact ⟨rfl, ht, hc⟩
    · rw [hsingle s hs] at h
      cases h
  · rintro ⟨rfl, ha, hb⟩
    rw [hcons a b ha, hsingle b hb]

end Parts
