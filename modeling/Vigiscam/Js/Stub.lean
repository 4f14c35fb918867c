import Vigiscam.Js.Parts

/-!
# Texts whose middle is covered

A stub shows the head and the tail of a list, and a filler in the place of what stands between
them. What can be read of it lies in one of the three, or runs from one into the next
(`Stub.legible_iff`); a list without the units of the filler lies in the head or in the tail.
-/

namespace Parts

variable {α : Type} {a b t u v : List α}

/-- A part of two lists is a part of one of them, or runs from the first into the second. -/
theorem infix_append_iff :
    t <:+: a ++ b ↔ t <:+: a ∨ t <:+: b ∨ ∃ u v, t = u ++ v ∧ u <:+ a ∧ v <+: b := by
  constructor
  · rintro ⟨p, q, hpq⟩
    rcases List.append_eq_append_iff.mp hpq with ⟨a', ha, -⟩ | ⟨c, hc, hb⟩
    · exact Or.inl ⟨p, a', ha.symm⟩
    · rcases List.append_eq_append_iff.mp hc with ⟨u, ha, ht⟩ | ⟨d, -, hd⟩
      · exact Or.inr (Or.inr ⟨u, c, ht, ⟨p, ha.symm⟩, ⟨q, hb.symm⟩⟩)
      · exact Or.inr (Or.inl ⟨d, q, by rw [← hd, hb]⟩)
  · rintro (⟨p, q, rfl⟩ | ⟨p, q, rfl⟩ | ⟨u, v, rfl, ⟨p, rfl⟩, ⟨q, rfl⟩⟩)
    · exact ⟨p, q ++ b, by simp⟩
    · exact ⟨a ++ p, q, by simp⟩
    · exact ⟨p, q, by simp⟩

/-- A start of two lists is a start of the first, or goes on into the second. -/
theorem prefix_append_iff : v <+: a ++ b ↔ v <+: a ∨ ∃ w, v = a ++ w ∧ w <+: b := by
  constructor
  · rintro ⟨q, hq⟩
    rcases List.append_eq_append_iff.mp hq with ⟨a', ha, -⟩ | ⟨w, hv, hb⟩
    · exact Or.inl ⟨a', ha.symm⟩
    · exact Or.inr ⟨w, hv, q, hb.symm⟩
  · rintro (⟨q, rfl⟩ | ⟨w, rfl, q, rfl⟩)
    · exact ⟨q ++ b, by simp⟩
    · exact ⟨q, by simp⟩

end Parts

/-- What is shown of a list: a head, a filler and a tail. -/
structure Stub (α : Type) where
  head : List α
  fill : List α
  tail : List α

namespace Stub

variable {α : Type} (stub : Stub α) {t : List α}

def text : List α := stub.head ++ stub.fill ++ stub.tail

/-- The list can be read: in the head, the filler or the tail, or from one into the next. -/
def Legible (t : List α) : Prop :=
  t <:+: stub.head ∨ t <:+: stub.fill ∨ t <:+: stub.tail ∨
    (∃ u v, t = u ++ v ∧ u <:+ stub.head ∧ v <+: stub.fill) ∨
    (∃ u v, t = u ++ v ∧ u <:+ stub.fill ∧ v <+: stub.tail) ∨
    ∃ u v, t = u ++ stub.fill ++ v ∧ u <:+ stub.head ∧ v <+: stub.tail

variable {stub}

theorem legible_iff : stub.Legible t ↔ t <:+: stub.text := by
  rw [text, List.append_assoc, Parts.infix_append_iff, Parts.infix_append_iff]
  constructor
  · rintro (h | h | h | ⟨u, v, ht, hu, hv⟩ | h | ⟨u, v, ht, hu, hv⟩)
    · exact Or.inl h
    · exact Or.inr (Or.inl (Or.inl h))
    · exact Or.inr (Or.inl (Or.inr (Or.inl h)))
    · exact Or.inr (Or.inr ⟨u, v, ht, hu, Parts.prefix_append_iff.mpr (Or.inl hv)⟩)
    · exact Or.inr (Or.inl (Or.inr (Or.inr h)))
    · refine Or.inr (Or.inr ⟨u, stub.fill ++ v, by rw [ht, List.append_assoc], hu, ?_⟩)
      exact Parts.prefix_append_iff.mpr (Or.inr ⟨v, rfl, hv⟩)
  · rintro (h | (h | h | h) | ⟨u, v, ht, hu, hv⟩)
    · exact Or.inl h
    · exact Or.inr (Or.inl h)
    · exact Or.inr (Or.inr (Or.inl h))
    · exact Or.inr (Or.inr (Or.inr (Or.inr (Or.inl h))))
    · rcases Parts.prefix_append_iff.mp hv with hv | ⟨w, rfl, hw⟩
      · exact Or.inr (Or.inr (Or.inr (Or.inl ⟨u, v, ht, hu, hv⟩)))
      · refine Or.inr (Or.inr (Or.inr (Or.inr (Or.inr ⟨u, w, ?_, hu, hw⟩))))
        rw [ht, List.append_assoc]

/-- A list without units of the filler is read in the head or in the tail. -/
theorem infix_of_disjoint (hfill : stub.fill ≠ []) (hdisjoint : ∀ c ∈ stub.fill, c ∉ t)
    (h : t <:+: stub.text) : t <:+: stub.head ∨ t <:+: stub.tail := by
  have hnil : ∀ {w : List α}, w ⊆ stub.fill → w ⊆ t → w = [] := by
    intro w hw ht
    exact List.eq_nil_iff_forall_not_mem.mpr fun c hc => hdisjoint c (hw hc) (ht hc)
  rcases legible_iff.mpr h with h | h | h | ⟨u, v, rfl, hu, hv⟩ | ⟨u, v, rfl, hu, hv⟩ |
    ⟨u, v, rfl, -⟩
  · exact Or.inl h
  · obtain rfl := hnil h.subset (List.Subset.refl _)
    exact Or.inl (List.nil_infix)
  · exact Or.inr h
  · obtain rfl := hnil hv.subset (List.subset_append_right u v)
    rw [List.append_nil]
    exact Or.inl hu.isInfix
  · obtain rfl := hnil hu.subset (List.subset_append_left u v)
    exact Or.inr hv.isInfix
  · exact absurd (hnil (List.Subset.refl _) (by simp)) hfill

/-- A list without units of the filler that is longer than the head and the tail is hidden. -/
theorem not_infix_of_length (hfill : stub.fill ≠ []) (hdisjoint : ∀ c ∈ stub.fill, c ∉ t)
    (hhead : stub.head.length < t.length) (htail : stub.tail.length < t.length) :
    ¬ t <:+: stub.text := by
  intro h
  rcases infix_of_disjoint hfill hdisjoint h with h | h
  · exact absurd h.length_le (Nat.not_le.mpr hhead)
  · exact absurd h.length_le (Nat.not_le.mpr htail)

end Stub
