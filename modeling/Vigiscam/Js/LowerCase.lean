import Vigiscam.Js.Text

/-!
# `toLowerCase`, character by character

The characters of a text are its surrogate pairs and its other units. `lower` says what a code
point becomes; half of a pair that stands alone stays what it is.

A text without surrogates that a text holds in lower case is also held by every longer text
(`infix_lowerCase`): where an edge makes a pair of two halves, neither half was part of it.
-/

namespace Js

variable {lower : Nat → Text} {p s t : Text} {c d : CodeUnit}

/-- The code point of a surrogate pair. -/
def codePoint (high low : CodeUnit) : Nat :=
  0x10000 + (high.val - 0xD800) * 0x400 + (low.val - 0xDC00)

/-- A unit that is no part of a pair. -/
def lowerAlone (lower : Nat → Text) (c : CodeUnit) : Text :=
  if isSurrogate c then [c] else lower c

def lowerCase (lower : Nat → Text) : Text → Text
  | [] => []
  | [c] => lowerAlone lower c
  | c :: d :: rest =>
    if isHighSurrogate c && isLowSurrogate d then lower (codePoint c d) ++ lowerCase lower rest
    else lowerAlone lower c ++ lowerCase lower (d :: rest)

/-- The two texts meet in the middle of a pair. -/
def SplitPair (s t : Text) : Prop :=
  ∃ c ∈ s.getLast?, ∃ d ∈ t.head?, isHighSurrogate c = true ∧ isLowSurrogate d = true

theorem isLowSurrogate_of_high (h : isHighSurrogate c = true) : isLowSurrogate c = false := by
  simp only [isHighSurrogate, isLowSurrogate, Bool.and_eq_true, decide_eq_true_eq,
    Bool.and_eq_false_imp, decide_eq_false_iff_not] at h ⊢
  exact fun hlow => absurd (hlow.trans h.2) (by decide)

theorem lowerCase_cons (h : ¬ SplitPair [c] s) :
    lowerCase lower (c :: s) = lowerAlone lower c ++ lowerCase lower s := by
  cases s with
  | nil => simp [lowerCase]
  | cons d s =>
    rw [lowerCase, if_neg]
    rw [Bool.and_eq_true]
    exact fun hpair => h ⟨c, rfl, d, rfl, hpair⟩

/-- Two texts that do not meet in the middle of a pair. -/
theorem lowerCase_append (h : ¬ SplitPair s t) :
    lowerCase lower (s ++ t) = lowerCase lower s ++ lowerCase lower t := by
  induction s using lowerCase.induct with
  | case1 => rfl
  | case2 c =>
    rw [List.singleton_append, lowerCase_cons h]
    rfl
  | case3 c d rest hpair ih =>
    rw [List.cons_append, List.cons_append, lowerCase, lowerCase, if_pos hpair, if_pos hpair, ih,
      List.append_assoc]
    rintro ⟨c', hc', hmeet⟩
    refine h ⟨c', ?_, hmeet⟩
    cases rest with
    | nil => cases hc'
    | cons e rest => rwa [List.getLast?_cons_cons, List.getLast?_cons_cons]
  | case4 c d rest hpair ih =>
    rw [List.cons_append, List.cons_append, lowerCase, lowerCase, if_neg hpair, if_neg hpair,
      ← List.cons_append, ih, List.append_assoc]
    rintro ⟨c', hc', hmeet⟩
    refine h ⟨c', ?_, hmeet⟩
    rwa [List.getLast?_cons_cons]

theorem infix_lowerCase_append (hp : ∀ c ∈ p, isSurrogate c = false)
    (h : p <:+: lowerCase lower s) : p <:+: lowerCase lower (s ++ t) := by
  by_cases hsplit : SplitPair s t
  · obtain ⟨c, hc, d, hd, hhigh, hlow⟩ := hsplit
    obtain ⟨s, rfl⟩ := List.getLast?_eq_some_iff.mp hc
    have hclear : ∀ u, ¬ SplitPair s (c :: u) := by
      rintro u ⟨b, hb, e, he, -, hlow'⟩
      cases he
      rw [isLowSurrogate_of_high hhigh] at hlow'
      cases hlow'
    have halone : lowerCase lower [c] = [c] := by
      simp [lowerCase, lowerAlone, isSurrogate, hhigh]
    rw [lowerCase_append (hclear []), halone] at h
    rw [List.append_assoc, List.singleton_append, lowerCase_append (hclear t)]
    refine List.IsInfix.trans ?_ (List.prefix_append _ _).isInfix
    rcases List.infix_concat_iff.mp h with hend | hinside
    · rcases List.suffix_concat_iff.mp hend with rfl | ⟨p', rfl, -⟩
      · exact List.nil_infix
      · have hnone := hp c (List.mem_append_right _ (List.mem_singleton_self c))
        simp [isSurrogate, hhigh] at hnone
    · exact hinside
  · rw [lowerCase_append hsplit]
    exact h.trans (List.prefix_append _ _).isInfix

theorem infix_append_lowerCase (hp : ∀ c ∈ p, isSurrogate c = false)
    (h : p <:+: lowerCase lower t) : p <:+: lowerCase lower (s ++ t) := by
  by_cases hsplit : SplitPair s t
  · obtain ⟨c, hc, d, hd, hhigh, hlow⟩ := hsplit
    obtain ⟨t, rfl⟩ := List.head?_eq_some_iff.mp hd
    have hclear : ∀ u e, u.getLast? = some d → ¬ SplitPair u e := by
      rintro u e hu ⟨b, hb, -, -, hhigh', -⟩
      rw [hu, Option.mem_some_iff] at hb
      rw [← hb] at hhigh'
      rw [isLowSurrogate_of_high hhigh'] at hlow
      cases hlow
    have halone : lowerAlone lower d = [d] := by
      simp [lowerAlone, isSurrogate, hlow]
    rw [lowerCase_cons (hclear [d] t rfl), halone] at h
    rw [← List.singleton_append, ← List.append_assoc,
      lowerCase_append (hclear (s ++ [d]) t (by simp))]
    refine List.IsInfix.trans ?_ (List.suffix_append _ _).isInfix
    rcases List.infix_cons_iff.mp h with hstart | hinside
    · rcases List.prefix_cons_iff.mp hstart with rfl | ⟨p', rfl, -⟩
      · exact List.nil_infix
      · have hnone := hp d (List.mem_cons_self ..)
        simp [isSurrogate, hlow] at hnone
    · exact hinside
  · rw [lowerCase_append hsplit]
    exact h.trans (List.suffix_append _ _).isInfix

/-- **What a text holds in lower case, every longer text holds.** -/
theorem infix_lowerCase (hp : ∀ c ∈ p, isSurrogate c = false) (a b : Text)
    (h : p <:+: lowerCase lower s) : p <:+: lowerCase lower (a ++ s ++ b) :=
  infix_lowerCase_append hp (infix_append_lowerCase hp h)

end Js
