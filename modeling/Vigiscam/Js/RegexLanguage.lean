import Mathlib.Computability.Language
import Mathlib.Tactic.Abel
import Vigiscam.Js.Regex

/-!
# The languages of regular expressions

After each word of an expression without edges a match of it may end (`mem_ends`), so that `\br\b`
is found exactly where a word of `r` stands between edges (`test_between_iff`). The words of an
expression are a language, and languages are a semiring: expressions are compared by computing in
it.

`strung` has parts with `\s+` between them, `apart` has single spaces there, and `loose` has other
blanks at one place at least; blanks are one space or a gap (`lang_blanks`).
-/

namespace Js

namespace Regex

/-! ## Where a match may end -/

/-- Without `\b`. -/
def edgeless : Regex → Bool
  | empty | one _ | many _ | manyLazy _ => true
  | seq a b | alt a b => a.edgeless && b.edgeless
  | rep _ _ a => a.edgeless
  | edge => false

section Ends

variable {p : CodeUnit → Bool} {a b r : Regex} {c e : Cursor} {s w t : Text}
  {last : Option CodeUnit}

theorem mem_manyEnds (last : Option CodeUnit) (hw : ∀ u ∈ w, p u = true) :
    ⟨after last w, t⟩ ∈ manyEnds p last (w ++ t) := by
  induction w generalizing last with
  | nil => cases t <;> exact List.mem_cons_self
  | cons u w ih =>
    obtain ⟨hu, hw⟩ := List.forall_mem_cons.mp hw
    refine List.mem_cons_of_mem _ ?_
    rw [if_pos hu]
    exact ih (some u) hw

section Rounds

variable {round : Cursor → List Cursor} {P : Text → Prop} {least more : Nat}
  (hround : ∀ last v t, P v → ⟨after last v, t⟩ ∈ round ⟨last, v ++ t⟩) {ws : List Text}

include hround

/-- Rounds that go on. -/
theorem mem_moreEnds (hws : ∀ v ∈ ws, P v ∧ v ≠ []) (hmore : ws.length ≤ more) :
    ⟨after last ws.flatten, t⟩ ∈ moreEnds round more ⟨last, ws.flatten ++ t⟩ := by
  induction more generalizing ws last with
  | zero =>
    obtain rfl := List.eq_nil_of_length_eq_zero (Nat.le_zero.mp hmore)
    exact List.mem_singleton_self _
  | succ more ih =>
    cases ws with
    | nil => exact List.mem_append_right _ (List.mem_singleton_self _)
    | cons v ws =>
      obtain ⟨⟨hv, hne⟩, hws⟩ := List.forall_mem_cons.mp hws
      have hnext := hround last v (ws.flatten ++ t) hv
      refine List.mem_append_left _ (List.mem_flatMap.mpr ⟨⟨after last v, ws.flatten ++ t⟩, ?_, ?_⟩)
      · rw [List.flatten_cons, List.append_assoc]
        refine List.mem_filter.mpr ⟨hnext, decide_eq_true fun hsame => hne ?_⟩
        exact List.self_eq_append_left.mp hsame
      · rw [List.flatten_cons, after_append]
        exact ih hws (Nat.le_of_succ_le_succ hmore)

theorem mem_repEnds (hws : ∀ v ∈ ws, P v) (hleast : least ≤ ws.length)
    (hmore : ws.length ≤ least + more) :
    ⟨after last ws.flatten, t⟩ ∈ repEnds round more least ⟨last, ws.flatten ++ t⟩ := by
  induction least generalizing ws last with
  | zero =>
    -- empty rounds add nothing
    have hflat : (ws.filter (· ≠ [])).flatten = ws.flatten := by
      rw [List.flatten_filter_ne_nil]
    rw [← hflat]
    refine mem_moreEnds hround (fun v hv => ?_) ?_
    · obtain ⟨hv, hne⟩ := List.mem_filter.mp hv
      exact ⟨hws v hv, of_decide_eq_true hne⟩
    · exact (List.length_filter_le _ _).trans (by omega)
  | succ least ih =>
    cases ws with
    | nil => exact absurd hleast (by simp)
    | cons v ws =>
      obtain ⟨hv, hws⟩ := List.forall_mem_cons.mp hws
      rw [List.length_cons] at hleast hmore
      refine List.mem_flatMap.mpr ⟨⟨after last v, ws.flatten ++ t⟩, ?_, ?_⟩
      · rw [List.flatten_cons, List.append_assoc]
        exact hround last v _ hv
      · rw [List.flatten_cons, after_append]
        exact ih hws (by omega) (by omega)

end Rounds

/-- **After a word of an expression without edges, a match of it may end.** -/
theorem mem_ends (last : Option CodeUnit) (t : Text) (hr : r.edgeless = true)
    (hword : r.Word w) : ⟨after last w, t⟩ ∈ r.ends ⟨last, w ++ t⟩ := by
  induction r generalizing w last t with
  | empty =>
    obtain rfl : w = [] := hword
    exact List.mem_singleton_self _
  | one p =>
    obtain ⟨u, hu, rfl⟩ := hword
    show _ ∈ if p u then [(⟨some u, [] ++ t⟩ : Cursor)] else []
    rw [if_pos hu]
    exact List.mem_singleton_self _
  | seq a b iha ihb =>
    rw [edgeless, Bool.and_eq_true] at hr
    obtain ⟨v, v', hv, hv', rfl⟩ := hword
    rw [after_append, List.append_assoc]
    exact List.mem_flatMap.mpr ⟨_, iha _ _ hr.1 hv, ihb _ _ hr.2 hv'⟩
  | alt a b iha ihb =>
    rw [edgeless, Bool.and_eq_true] at hr
    rcases hword with hword | hword
    · exact List.mem_append_left _ (iha _ _ hr.1 hword)
    · exact List.mem_append_right _ (ihb _ _ hr.2 hword)
  | rep least more a iha =>
    obtain ⟨ws, hws, hleast, hmore, rfl⟩ := hword
    exact mem_repEnds (fun last v t hv => iha last t hr hv) hws hleast hmore
  | many p => exact List.mem_reverse.mpr (mem_manyEnds last hword)
  | manyLazy p => exact mem_manyEnds last hword
  | edge => cases hr

/-- A match may end after the words of an expression, and nowhere else. -/
theorem mem_ends_iff (hr : r.edgeless = true) : e ∈ r.ends c ↔ ∃ w, c.Reads w e ∧ r.Word w := by
  constructor
  · exact word_of_ends
  · rintro ⟨w, ⟨hrest, hlast⟩, hword⟩
    obtain ⟨last, s⟩ := c
    obtain ⟨last', t⟩ := e
    obtain rfl : s = w ++ t := hrest
    obtain rfl : last' = after last w := hlast
    exact mem_ends last t hr hword

/-! ## Tests between edges -/

/-- A word of the expression stands in the text between edges. -/
def Stands (r : Regex) (s : Text) : Prop :=
  ∃ a w b, s = a ++ w ++ b ∧ r.Word w ∧
    (⟨after none a, w ++ b⟩ : Cursor).atEdge = true ∧
    (⟨after none (a ++ w), b⟩ : Cursor).atEdge = true

theorem testFrom_iff {last : Option CodeUnit} :
    r.testFrom last s = true ↔ ∃ a b, s = a ++ b ∧ r.ends ⟨after last a, b⟩ ≠ [] := by
  induction s generalizing last with
  | nil =>
    rw [testFrom, decide_eq_true_iff]
    constructor
    · exact fun h => ⟨[], [], rfl, h⟩
    · rintro ⟨a, b, hs, h⟩
      obtain ⟨rfl, rfl⟩ := List.append_eq_nil_iff.mp hs.symm
      exact h
  | cons u rest ih =>
    rw [testFrom, Bool.or_eq_true, decide_eq_true_iff, ih]
    constructor
    · rintro (h | ⟨a, b, rfl, h⟩)
      · exact ⟨[], u :: rest, rfl, h⟩
      · exact ⟨u :: a, b, rfl, h⟩
    · rintro ⟨a, b, hs, h⟩
      cases a with
      | nil =>
        obtain rfl : u :: rest = b := hs
        exact Or.inl h
      | cons v a =>
        obtain ⟨rfl, rfl⟩ := List.cons.inj hs
        exact Or.inr ⟨a, b, rfl, h⟩

theorem mem_ends_edge : e ∈ edge.ends c ↔ e = c ∧ c.atEdge = true := by
  rw [ends]
  split
  · next h => simp [h]
  · next h => simp [h]

theorem mem_ends_between :
    e ∈ (between r).ends c ↔ c.atEdge = true ∧ e ∈ r.ends c ∧ e.atEdge = true := by
  constructor
  · intro h
    obtain ⟨d, hd, hrest⟩ := List.mem_flatMap.mp h
    have hrest : e ∈ (r.ends d).flatMap (seq edge empty).ends := hrest
    obtain ⟨d', hd', hlast⟩ := List.mem_flatMap.mp hrest
    have hlast : e ∈ (edge.ends d').flatMap empty.ends := hlast
    obtain ⟨d'', hd'', he⟩ := List.mem_flatMap.mp hlast
    obtain rfl := List.mem_singleton.mp he
    obtain ⟨rfl, hedge⟩ := mem_ends_edge.mp hd
    obtain ⟨rfl, hedge'⟩ := mem_ends_edge.mp hd''
    exact ⟨hedge, hd', hedge'⟩
  · rintro ⟨hedge, he, hedge'⟩
    refine List.mem_flatMap.mpr ⟨c, mem_ends_edge.mpr ⟨rfl, hedge⟩, ?_⟩
    refine List.mem_flatMap.mpr ⟨e, he, ?_⟩
    exact List.mem_flatMap.mpr ⟨e, mem_ends_edge.mpr ⟨rfl, hedge'⟩, List.mem_singleton_self e⟩

/-- **`/\br\b/.test(s)`.** -/
theorem test_between_iff (hr : r.edgeless = true) : (between r).test s = true ↔ r.Stands s := by
  rw [test, testFrom_iff]
  constructor
  · rintro ⟨a, b, rfl, h⟩
    obtain ⟨e, he⟩ := List.exists_mem_of_ne_nil _ h
    obtain ⟨hedge, he, hedge'⟩ := mem_ends_between.mp he
    obtain ⟨w, ⟨hrest, hlast⟩, hword⟩ := word_of_ends he
    obtain ⟨last, t⟩ := e
    obtain rfl : b = w ++ t := hrest
    obtain rfl : last = after (after none a) w := hlast
    rw [← after_append] at hedge'
    exact ⟨a, w, t, by rw [List.append_assoc], hword, hedge, hedge'⟩
  · rintro ⟨a, w, b, rfl, hword, hedge, hedge'⟩
    rw [after_append] at hedge'
    have he := mem_ends_between.mpr ⟨hedge, mem_ends (after none a) b hr hword, hedge'⟩
    exact ⟨a, w ++ b, by rw [List.append_assoc], List.ne_nil_of_mem he⟩

/-- More text around a text, which does not touch a word of it. -/
def Surrounds (s t : Text) : Prop :=
  ∃ a b, t = a ++ s ++ b ∧ ¬ ((after none a).any isWordUnit ∧ s.head?.any isWordUnit) ∧
    ¬ ((after none s).any isWordUnit ∧ b.head?.any isWordUnit)

/-- Edges stay where they are. -/
theorem atEdge_of_surrounds {a b c d : Text}
    (hc : ¬ ((after none c).any isWordUnit ∧ (a ++ b).head?.any isWordUnit))
    (hd : ¬ ((after none (a ++ b)).any isWordUnit ∧ d.head?.any isWordUnit))
    (h : (⟨after none a, b⟩ : Cursor).atEdge = true) :
    (⟨after none (c ++ a), b ++ d⟩ : Cursor).atEdge = true := by
  rw [Cursor.atEdge] at h ⊢
  rw [after_append, after_eq (after none c) a]
  rw [after_eq none a] at h
  cases ha : a.getLast? with
  | none =>
    obtain rfl := List.getLast?_eq_none_iff.mp ha
    cases b with
    | nil => cases h
    | cons u b => simp_all [after]
  | some v =>
    rw [ha] at h
    cases b with
    | nil =>
      rw [List.append_nil, after_eq none a, ha] at hd
      simp_all
    | cons u b => exact h

/-- A word goes on standing in a text when there is more around it. -/
theorem Stands.surrounded (h : r.Stands s) (hst : Surrounds s t) : r.Stands t := by
  obtain ⟨a, w, b, rfl, hword, hedge, hedge'⟩ := h
  obtain ⟨c, d, rfl, hc, hd⟩ := hst
  refine ⟨c ++ a, w, b ++ d, by simp, hword, ?_, ?_⟩
  · rw [List.append_assoc] at hc hd
    rw [← List.append_assoc]
    exact atEdge_of_surrounds hc hd hedge
  · rw [List.append_assoc]
    exact atEdge_of_surrounds hc hd hedge'

/-! ## Languages -/

/-- The words of an expression. -/
def lang (r : Regex) : Language CodeUnit := {w | r.Word w}

theorem mem_lang : w ∈ r.lang ↔ r.Word w := Iff.rfl

/-- What stands in a text is a word of one of two parts of the language. -/
theorem stands_add (h : r.lang = a.lang + b.lang) : r.Stands s ↔ a.Stands s ∨ b.Stands s := by
  have hword : ∀ w, r.Word w ↔ a.Word w ∨ b.Word w := by
    intro w
    rw [← mem_lang, h, Language.mem_add, mem_lang, mem_lang]
  simp only [Stands, hword, or_and_right, and_or_left, exists_or]

theorem word_oneOf {rs : List Regex} : (oneOf rs).Word w ↔ ∃ r ∈ rs, r.Word w := by
  induction rs with
  | nil => simp [oneOf, Word]
  | cons r rs ih =>
    cases rs with
    | nil => simp [oneOf]
    | cons r' rs =>
      have hcons : (oneOf (r :: r' :: rs)).Word w ↔ r.Word w ∨ (oneOf (r' :: rs)).Word w := Iff.rfl
      rw [hcons, ih]
      simp only [List.mem_cons, exists_eq_or_imp]

/-- One of several tests passes. -/
theorem stands_oneOf {rs : List Regex} (hrs : ∀ r ∈ rs, r.edgeless = true) :
    (oneOf rs).Stands s ↔ ∃ r ∈ rs, (between r).test s = true := by
  constructor
  · rintro ⟨a, w, b, hs, hword, hedges⟩
    obtain ⟨r, hr, hword⟩ := word_oneOf.mp hword
    exact ⟨r, hr, (test_between_iff (hrs r hr)).mpr ⟨a, w, b, hs, hword, hedges⟩⟩
  · rintro ⟨r, hr, htest⟩
    obtain ⟨a, w, b, hs, hword, hedges⟩ := (test_between_iff (hrs r hr)).mp htest
    exact ⟨a, w, b, hs, word_oneOf.mpr ⟨r, hr, hword⟩, hedges⟩

@[simp] theorem lang_empty : empty.lang = 1 := rfl

@[simp] theorem lang_seq : (seq a b).lang = a.lang * b.lang := by
  ext w
  rw [mem_lang, Language.mem_mul]
  constructor
  · rintro ⟨v, v', hv, hv', rfl⟩
    exact ⟨v, hv, v', hv', rfl⟩
  · rintro ⟨v, hv, v', hv', rfl⟩
    exact ⟨v, v', hv, hv', rfl⟩

@[simp] theorem lang_alt : (alt a b).lang = a.lang + b.lang := rfl

@[simp] theorem lang_optional : (optional r).lang = 1 + r.lang := by
  ext w
  rw [mem_lang, Language.mem_add, Language.mem_one]
  constructor
  · rintro ⟨ws, hws, -, hlength, rfl⟩
    match ws, hlength with
    | [], _ => exact Or.inl rfl
    | [v], _ =>
      right
      rw [List.flatten_singleton]
      exact hws v (List.mem_singleton_self v)
  · rintro (rfl | h)
    · exact ⟨[], by simp, by simp, by simp, rfl⟩
    · refine ⟨[w], fun v hv => ?_, by simp, by simp, by simp⟩
      rw [List.mem_singleton.mp hv]
      exact h

@[simp] theorem lang_chain_nil : (chain []).lang = 1 := rfl

@[simp] theorem lang_chain_cons {rs : List Regex} :
    (chain (r :: rs)).lang = r.lang * (chain rs).lang := lang_seq

theorem lang_never : (one fun _ => false).lang = 0 := by
  ext w
  simp [mem_lang, Word]

@[simp] theorem lang_oneOf_nil : (oneOf []).lang = 0 := lang_never

@[simp] theorem lang_oneOf_cons {rs : List Regex} :
    (oneOf (r :: rs)).lang = r.lang + (oneOf rs).lang := by
  cases rs with
  | nil => rw [lang_oneOf_nil, add_zero]; rfl
  | cons r' rs => rfl

end Ends

/-! ## Blanks between words -/

/-- `\s+` -/
def blanks : Regex := seq (one isBlank) (many isBlank)

/-- One space. -/
def space : Regex := one (· = 0x20)

/-- Blanks that are not one space. -/
def gap : Regex :=
  alt (one fun u => isBlank u && u ≠ 0x20) (chain [one isBlank, one isBlank, many isBlank])

/-- Parts with `\s+` between them. -/
def strung : List Regex → Regex
  | [] => empty
  | [r] => r
  | r :: rs => chain [r, blanks, strung rs]

/-- Parts with single spaces between them. -/
def apart : List Regex → Regex
  | [] => empty
  | [r] => r
  | r :: rs => chain [r, space, apart rs]

/-- Parts with blanks between them that are not all single spaces. -/
def loose : List Regex → Regex
  | [] | [_] => one fun _ => false
  | r :: rs => alt (chain [r, gap, strung rs]) (chain [r, space, loose rs])

theorem lang_blanks : blanks.lang = space.lang + gap.lang := by
  ext w
  simp only [Language.mem_add, mem_lang]
  constructor
  · rintro ⟨_, v, ⟨u, hu, rfl⟩, hv, rfl⟩
    cases v with
    | nil =>
      by_cases hspace : u = 0x20
      · exact Or.inl ⟨u, decide_eq_true hspace, rfl⟩
      · exact Or.inr (Or.inl ⟨u, by simp [hu, hspace], rfl⟩)
    | cons u' v =>
      obtain ⟨hu', hv⟩ := List.forall_mem_cons.mp hv
      exact Or.inr (Or.inr ⟨[u], u' :: v, ⟨u, hu, rfl⟩, ⟨[u'], v, ⟨u', hu', rfl⟩,
        ⟨v, [], hv, rfl, by simp⟩, rfl⟩, rfl⟩)
  · rintro (⟨u, hu, rfl⟩ | ⟨u, hu, rfl⟩ | ⟨_, _, ⟨u, hu, rfl⟩, ⟨_, _, ⟨u', hu', rfl⟩,
      ⟨v, _, hv, rfl, rfl⟩, rfl⟩, rfl⟩)
    · obtain rfl : u = 0x20 := of_decide_eq_true hu
      exact ⟨[0x20], [], ⟨0x20, by decide, rfl⟩, by simp [Word], rfl⟩
    · rw [Bool.and_eq_true] at hu
      exact ⟨[u], [], ⟨u, hu.1, rfl⟩, by simp [Word], rfl⟩
    · refine ⟨[u], u' :: v, ⟨u, hu, rfl⟩, List.forall_mem_cons.mpr ⟨hu', hv⟩, by simp⟩

end Regex

end Js
