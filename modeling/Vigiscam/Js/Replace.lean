import Mathlib.Data.Sum.Basic
import Vigiscam.Js.Text

/-!
# Replacing every occurrence of a plain text

`replaceAll pattern value s` is `s.replace(/pattern/g, value)` for a pattern of plain units. The
value is not inserted as it is: `$$`, `$&`, `` $` `` and `$'` stand in it for a dollar sign, the
occurrence, and what is before and after it (`substitution`). A value without them is inserted
literally (`substitution_of_plain`).

`scan p fs s` is the text with the placeholders of `fs` marked, from left to right, and `fill`
writes a text for each placeholder. To replace one of several placeholders is to fill in that one
and to leave the others (`replaceAll_eq_fill`).
-/

namespace Js

/-! ## What is inserted -/

/-- `GetSubstitution`, for a pattern without groups. -/
def substitution (matched before after : Text) : Text → Text
  | [] => []
  | [c] => [c]
  | c :: d :: value =>
    if c = 0x24 then
      if d = 0x24 then d :: substitution matched before after value
      else if d = 0x26 then matched ++ substitution matched before after value
      else if d = 0x60 then before ++ substitution matched before after value
      else if d = 0x27 then after ++ substitution matched before after value
      else c :: substitution matched before after (d :: value)
    else c :: substitution matched before after (d :: value)

/-- The value has a dollar sign before one of `$`, `&`, `` ` `` and `'`. -/
def isSpecial : Text → Bool
  | c :: d :: value =>
    (c = 0x24 && (d = 0x24 || d = 0x26 || d = 0x60 || d = 0x27)) || isSpecial (d :: value)
  | _ => false

example : isSpecial (utf16 "$5 or $<b>") = false ∧ isSpecial (utf16 "pay $$") = true := by decide

theorem substitution_of_plain {matched before after value : Text} (h : isSpecial value = false) :
    substitution matched before after value = value := by
  induction value using substitution.induct with
  | case1 => rfl
  | case2 c => rfl
  | case3 value ih => simp [isSpecial] at h
  | case4 => simp [isSpecial] at h
  | case5 => simp [isSpecial] at h
  | case6 => simp [isSpecial] at h
  | case7 d value h1 h2 h3 h4 ih =>
    simp only [isSpecial, Bool.or_eq_false_iff] at h
    simp [substitution, h1, h2, h3, h4, ih h.2]
  | case8 c d value hc ih =>
    simp only [isSpecial, Bool.or_eq_false_iff] at h
    simp [substitution, hc, ih h.2]

/-- A special value that is inserted on its own loses a dollar sign. -/
theorem count_substitution {matched : Text} (hmatched : matched.count 0x24 = 0) (value : Text) :
    (substitution matched [] [] value).count 0x24 ≤ value.count 0x24 ∧
      (isSpecial value = true →
        (substitution matched [] [] value).count 0x24 < value.count 0x24) := by
  induction value using substitution.induct with
  | case1 => simp [substitution, isSpecial]
  | case2 c => simp [substitution, isSpecial]
  | case3 value ih =>
    simp [substitution]
    omega
  | case4 value _ ih =>
    simp [substitution, hmatched]
    omega
  | case5 value _ _ ih =>
    simp [substitution]
    omega
  | case6 value _ _ _ ih =>
    simp [substitution]
    omega
  | case7 d value h1 h2 h3 h4 ih =>
    simp only [substitution, isSpecial, h1, h2, h3, h4, if_true, if_false, decide_false,
      Bool.or_false, Bool.and_false, Bool.false_or, List.count_cons_self]
    exact ⟨Nat.succ_le_succ ih.1, fun h => Nat.succ_lt_succ (ih.2 h)⟩
  | case8 c d value hc ih =>
    simp only [substitution, isSpecial, hc, if_false, decide_false, Bool.false_and, Bool.false_or,
      List.count_cons_of_ne hc]
    exact ih

/-! ## One pattern -/

/-- The text after `n` units of an occurrence, where `before` is what is before it. -/
def replaceFrom (pattern value : Text) : Text → Nat → Text → Text
  | _, _, [] => []
  | before, n + 1, c :: rest => replaceFrom pattern value (before ++ [c]) n rest
  | before, 0, c :: rest =>
    if pattern.isPrefixOf (c :: rest) then
      substitution pattern before ((c :: rest).drop pattern.length) value
        ++ replaceFrom pattern value (before ++ [c]) (pattern.length - 1) rest
    else c :: replaceFrom pattern value (before ++ [c]) 0 rest

/-- `s.replace(/pattern/g, value)`, for a pattern of plain units. -/
def replaceAll (pattern value s : Text) : Text := replaceFrom pattern value [] 0 s

example : replaceAll (utf16 "[a]") (utf16 "<$&$$>") (utf16 "x[a][b][a]") =
    utf16 "x<[a]$>[b]<[a]$>" := by decide

/-! ## Marked placeholders -/

section Placeholders

variable {ι : Type} (p : ι → Text)

/-- The placeholder that the text begins with. -/
def foundAt (fs : List ι) (s : Text) : Option ι := fs.find? fun f => (p f).isPrefixOf s

/-- The marks after `n` units of a placeholder. -/
def scanFrom (fs : List ι) : Nat → Text → List (CodeUnit ⊕ ι)
  | _, [] => []
  | n + 1, _ :: rest => scanFrom fs n rest
  | 0, c :: rest =>
    match foundAt p fs (c :: rest) with
    | some f => .inr f :: scanFrom fs ((p f).length - 1) rest
    | none => .inl c :: scanFrom fs 0 rest

/-- The units of a text outside the placeholders of `fs`, and these placeholders. -/
def scan (fs : List ι) (s : Text) : List (CodeUnit ⊕ ι) := scanFrom p fs 0 s

def fill (text : ι → Text) (marks : List (CodeUnit ⊕ ι)) : Text :=
  marks.flatMap (Sum.elim (fun c => [c]) text)

/-- One placeholder stays marked, and the others become text. -/
def keepOnly [DecidableEq ι] (f : ι) (text : ι → Text) (marks : List (CodeUnit ⊕ ι)) :
    List (CodeUnit ⊕ ι) :=
  marks.flatMap (Sum.elim (fun c => [.inl c])
    fun g => if g = f then [.inr f] else (text g).map .inl)

variable {p} {f g : ι} {fs : List ι} {s t rest value : Text} {c : CodeUnit} {n : Nat}
  {text : ι → Text} {marks : List (CodeUnit ⊕ ι)}

/-- Where its placeholder occurs, the value must be plain. -/
theorem replaceFrom_eq_fill {before : Text}
    (h : .inr f ∈ scanFrom p [f] n s → isSpecial value = false) :
    replaceFrom (p f) value before n s = fill (fun _ => value) (scanFrom p [f] n s) := by
  induction s generalizing before n with
  | nil => cases n <;> rfl
  | cons c rest ih =>
    cases n with
    | succ n => exact ih h
    | zero =>
      rw [scanFrom] at h ⊢
      rw [replaceFrom]
      by_cases hp : (p f).isPrefixOf (c :: rest) = true
      · simp only [foundAt, List.find?_cons, hp] at h ⊢
        rw [if_pos trivial, substitution_of_plain (h List.mem_cons_self),
          ih fun hmem => h (List.mem_cons_of_mem _ hmem)]
        rfl
      · simp only [foundAt, List.find?_cons, Bool.eq_false_iff.mpr hp, List.find?_nil] at h ⊢
        rw [if_neg (by simp), ih fun hmem => h (List.mem_cons_of_mem _ hmem)]
        rfl

/-! ### The marks of a text -/

theorem scanFrom_eq_scan_drop : scanFrom p fs n s = scan p fs (s.drop n) := by
  induction s generalizing n with
  | nil => cases n <;> rfl
  | cons c rest ih =>
    cases n with
    | zero => rfl
    | succ n => exact ih

theorem prefix_of_foundAt (h : foundAt p fs s = some f) : p f <+: s :=
  List.isPrefixOf_iff_prefix.mp (List.find?_some (p := fun f => (p f).isPrefixOf s) h)

theorem foundAt_singleton (h : p f <+: s) : foundAt p [f] s = some f := by
  simp [foundAt, List.isPrefixOf_iff_prefix.mpr h]

theorem not_prefix_of_foundAt (h : foundAt p fs s = none) (hf : f ∈ fs) : ¬p f <+: s :=
  fun hprefix => List.find?_eq_none.mp h f hf (List.isPrefixOf_iff_prefix.mpr hprefix)

theorem foundAt_eq_none (h : ∀ f ∈ fs, ¬p f <+: s) : foundAt p fs s = none :=
  List.find?_eq_none.mpr fun f hf hprefix => h f hf (List.isPrefixOf_iff_prefix.mp hprefix)

theorem scan_cons (h : foundAt p fs (c :: rest) = none) :
    scan p fs (c :: rest) = .inl c :: scan p fs rest := by
  rw [scan, scanFrom, h, scan]

theorem scan_placeholder (hne : p f ≠ []) (h : foundAt p fs (p f ++ rest) = some f) :
    scan p fs (p f ++ rest) = .inr f :: scan p fs rest := by
  obtain ⟨c, body, hbody⟩ := List.exists_cons_of_ne_nil hne
  have hrest : (body ++ rest).drop ((p f).length - 1) = rest := by
    rw [hbody]
    exact List.drop_left
  have hcons : p f ++ rest = c :: (body ++ rest) := by
    rw [hbody, List.cons_append]
  rw [hcons] at h ⊢
  rw [scan, scanFrom, h]
  show .inr f :: scanFrom p fs ((p f).length - 1) (body ++ rest) = _
  rw [scanFrom_eq_scan_drop, hrest]

/-- No placeholder begins where its first unit is not. -/
theorem scan_append_of_not_mem {mark : CodeUnit} (hmark : ∀ f, [mark] <+: p f) (ht : mark ∉ t) :
    scan p fs (t ++ rest) = t.map .inl ++ scan p fs rest := by
  induction t with
  | nil => rfl
  | cons c t ih =>
    rw [List.mem_cons, not_or] at ht
    have hnone : foundAt p fs (c :: (t ++ rest)) = none :=
      foundAt_eq_none fun f _ hprefix =>
        ht.1 (List.cons_prefix_cons.mp ((hmark f).trans hprefix)).1
    rw [List.cons_append, scan_cons hnone, ih ht.2]
    rfl

/-- What marks are made of: every placeholder begins with a unit that is not in the rest of any,
and none is the start of another. -/
structure Placeholders (p : ι → Text) (mark : CodeUnit) : Prop where
  starts : ∀ f, ∃ body, p f = mark :: body ∧ mark ∉ body
  free : ∀ f g, p f <+: p g → f = g

section Found

variable {mark : CodeUnit} (hp : Placeholders p mark)

include hp

theorem Placeholders.mark_prefix (f : ι) : [mark] <+: p f := by
  obtain ⟨body, hbody, -⟩ := hp.starts f
  exact hbody ▸ List.prefix_append [mark] body

theorem Placeholders.ne_nil (f : ι) : p f ≠ [] := by
  obtain ⟨body, hbody, -⟩ := hp.starts f
  exact hbody ▸ List.cons_ne_nil _ _

/-- Only one placeholder can be at a place. -/
theorem Placeholders.eq_of_prefix (hf : p f <+: s) (hg : p g <+: s) : f = g := by
  rcases List.prefix_or_prefix_of_prefix hf hg with h | h
  · exact hp.free f g h
  · exact (hp.free g f h).symm

/-- A text is empty, goes on after a unit, or goes on after a placeholder. -/
theorem scan_induction {P : Text → Prop} (fs : List ι) (nil : P [])
    (unit : ∀ c rest, foundAt p fs (c :: rest) = none → P rest → P (c :: rest))
    (placeholder : ∀ g rest, foundAt p fs (p g ++ rest) = some g → P rest → P (p g ++ rest))
    (s : Text) : P s := by
  induction hn : s.length using Nat.strong_induction_on generalizing s with
  | _ n ih =>
    cases hfound : foundAt p fs s with
    | none =>
      cases s with
      | nil => exact nil
      | cons c rest => exact unit c rest hfound (ih rest.length (by simp [← hn]) rest rfl)
    | some g =>
      obtain ⟨rest, rfl⟩ := prefix_of_foundAt hfound
      have hlength : rest.length < n := by
        have := List.length_pos_of_ne_nil (hp.ne_nil g)
        rw [← hn, List.length_append]
        omega
      exact placeholder g rest hfound (ih rest.length hlength rest rfl)

/-- The text of another placeholder is passed over. -/
theorem scan_other (hne : g ≠ f) :
    scan p [f] (p g ++ rest) = (p g).map .inl ++ scan p [f] rest := by
  obtain ⟨body, hbody, hnot⟩ := hp.starts g
  have hnone : foundAt p [f] (mark :: (body ++ rest)) = none := by
    refine foundAt_eq_none fun h hmem hprefix => ?_
    rw [List.mem_singleton.mp hmem, ← List.cons_append, ← hbody] at hprefix
    exact hne (hp.eq_of_prefix (List.prefix_append _ _) hprefix)
  rw [hbody, List.cons_append, scan_cons hnone, scan_append_of_not_mem hp.mark_prefix hnot]
  rfl

theorem fill_scan (fs : List ι) (s : Text) : fill p (scan p fs s) = s := by
  induction s using scan_induction hp fs with
  | nil => rfl
  | unit c rest hnone ih =>
    rw [scan_cons hnone]
    exact congrArg (c :: ·) ih
  | placeholder g rest hfound ih =>
    rw [scan_placeholder (hp.ne_nil g) hfound]
    exact congrArg (p g ++ ·) ih

end Found

/-! ### One placeholder among several -/

variable [DecidableEq ι]

theorem mem_keepOnly : .inr f ∈ keepOnly f text marks ↔ .inr f ∈ marks := by
  simp only [keepOnly, List.mem_flatMap, Sum.exists, Sum.elim_inl, Sum.elim_inr,
    List.mem_singleton, reduceCtorEq, and_false, exists_false, false_or]
  constructor
  · rintro ⟨g, hg, hmem⟩
    split at hmem
    · next hsame => exact hsame ▸ hg
    · simp at hmem
  · intro h
    exact ⟨f, h, by simp⟩

/-- To fill in the placeholder that is left is to fill in all. -/
theorem fill_keepOnly :
    fill (fun _ => value) (keepOnly f text marks) = fill (Function.update text f value) marks := by
  induction marks with
  | nil => rfl
  | cons m marks ih =>
    simp only [fill, keepOnly, List.flatMap_cons, List.flatMap_append] at ih ⊢
    rw [ih]
    congr 1
    cases m with
    | inl c => rfl
    | inr g =>
      by_cases hg : g = f
      · subst hg
        simp
      · simp [hg, List.flatMap_map]

/-- **One placeholder among several is replaced**, if no other occurrence of it has been formed by
what was filled in before. -/
theorem replaceAll_fill (hown : scan p [f] (fill text marks) = keepOnly f text marks)
    (hplain : .inr f ∈ marks → isSpecial value = false) :
    replaceAll (p f) value (fill text marks) = fill (Function.update text f value) marks := by
  have hscan : .inr f ∈ scanFrom p [f] 0 (fill text marks) → isSpecial value = false := by
    intro hmem
    rw [← scan, hown, mem_keepOnly] at hmem
    exact hplain hmem
  rw [replaceAll, replaceFrom_eq_fill hscan, ← scan, hown, fill_keepOnly]

/-- **The marks of one placeholder are those among the marks of several.** -/
theorem scan_singleton {mark : CodeUnit} (hp : Placeholders p mark) (hf : f ∈ fs) (s : Text) :
    scan p [f] s = keepOnly f p (scan p fs s) := by
  induction s using scan_induction hp fs with
  | nil => rfl
  | unit c rest hnone ih =>
    have hnone' : foundAt p [f] (c :: rest) = none :=
      foundAt_eq_none fun g hg => List.mem_singleton.mp hg ▸ not_prefix_of_foundAt hnone hf
    rw [scan_cons hnone, scan_cons hnone', ih]
    rfl
  | placeholder g rest hfound ih =>
    rw [scan_placeholder (hp.ne_nil g) hfound]
    by_cases hsame : g = f
    · subst hsame
      rw [scan_placeholder (hp.ne_nil g) (foundAt_singleton (List.prefix_append _ _)), ih]
      simp [keepOnly]
    · rw [scan_other hp hsame, ih]
      simp [keepOnly, hsame]

end Placeholders

end Js
