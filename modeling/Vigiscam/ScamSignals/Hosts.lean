import Vigiscam.IdentityGraph.Rows

/-!
# The host of an indicator (`normalization.ts`)

`normalizeDomain` cuts the host out of a text in lower case (`hostPart`), and takes `www.` before
it and a dot after it away, each once. What it makes of a text without separators is left
(`normalizeDomain_plain`).
-/

open Js

namespace ScamSignals

open IdentityGraph (LowerCaseParts trim_part)

/-- What stands between scheme, userinfo, port, path, query and fragment. -/
def hostPart (v : Text) : Text :=
  before 0x3A (afterLast 0x40 (before 0x23 (before 0x3F (before 0x2F (stripScheme v)))))

/-- `replace(/^www\./, '')`. -/
def stripWww (s : Text) : Text := stripPrefix (utf16 "www.") s

/-- `replace(/\.$/, '')`. -/
def dropDot (s : Text) : Text := if s.getLast? = some 0x2E then s.dropLast else s

/-- A unit that ends the host, or the part before it. -/
def isSeparator (c : CodeUnit) : Bool :=
  c = 0x2F || c = 0x3F || c = 0x23 || c = 0x40 || c = 0x3A

/-- What `toLowerCase` keeps of the blanks at the edges. -/
structure LowerCaseEdges (toLowerCase : Text → Text) : Prop extends LowerCaseParts toLowerCase where
  trimmed : ∀ s, trim s = s → trim (toLowerCase s) = toLowerCase s

variable {toLowerCase : Text → Text} {r s t v : Text} {c : CodeUnit}

theorem normalizeDomain_eq (toLowerCase : Text → Text) (raw : Text) :
    normalizeDomain toLowerCase raw =
      dropDot (stripWww (hostPart (toLowerCase (trim raw)))) := rfl

/-! ## Blanks -/

theorem trim_eq_self_iff : trim s = s ↔
    (∀ c ∈ s.head?, isBlank c = false) ∧ ∀ c ∈ s.getLast?, isBlank c = false := by
  constructor
  · intro htrim
    have hstart : s.dropWhile isBlank = s := by
      have hlength := (List.rdropWhile_prefix isBlank (s.dropWhile isBlank)).length_le
      change (trim s).length ≤ _ at hlength
      rw [htrim] at hlength
      exact (List.dropWhile_suffix isBlank).eq_of_length_le hlength
    have hend : s.rdropWhile isBlank = s := by
      change (s.dropWhile isBlank).rdropWhile isBlank = s at htrim
      rwa [hstart] at htrim
    constructor
    · intro c hc
      have hnot := List.head?_dropWhile_not isBlank s
      rw [hstart, hc] at hnot
      simpa using hnot
    · intro c hc
      have hne : s ≠ [] := by
        rintro rfl
        cases hc
      have hnot := List.rdropWhile_eq_self_iff.mp hend hne
      rw [List.getLast?_eq_some_getLast hne, Option.mem_some_iff] at hc
      simpa [hc] using hnot
  · rintro ⟨hhead, hlast⟩
    have hstart : s.dropWhile isBlank = s := by
      cases s with
      | nil => rfl
      | cons c s => simp [hhead c rfl]
    show (s.dropWhile isBlank).rdropWhile isBlank = s
    rw [hstart, List.rdropWhile_eq_self_iff]
    intro hne
    simp [hlast _ (List.getLast_mem_getLast? hne)]

theorem trim_eq_of_length_le (h : s.length ≤ (trim s).length) : trim s = s :=
  (trim_part s).sublist.eq_of_length_le h

/-- Every unit is blank. -/
def AllBlank (s : Text) : Prop := ∀ c ∈ s, isBlank c = true

theorem allBlank_nil : AllBlank [] := fun _ hc => absurd hc List.not_mem_nil

theorem trim_of_not_blank (h : ∀ c ∈ s, isBlank c = false) : trim s = s :=
  trim_eq_self_iff.mpr
    ⟨fun c hc => h c (List.mem_of_mem_head? hc), fun c hc => h c (List.mem_of_getLast? hc)⟩

/-- The blanks around a text that has none at its edges. -/
theorem trim_between {b b' : Text} (hb : AllBlank b) (hb' : AllBlank b') (htrim : trim t = t) :
    trim (b ++ t ++ b') = t := by
  obtain ⟨hhead, hlast⟩ := trim_eq_self_iff.mp htrim
  rw [List.append_assoc, trim, List.dropWhile_append_of_pos hb]
  cases t with
  | nil =>
    have hnil : b'.dropWhile isBlank = [] := List.dropWhile_eq_nil_iff.mpr hb'
    rw [List.nil_append, hnil]
    rfl
  | cons c t =>
    have hstart : (c :: t ++ b').dropWhile isBlank = c :: t ++ b' :=
      List.dropWhile_cons_of_neg (by simp [hhead c rfl])
    have hnot : ∀ hne : c :: t ≠ [], ¬ isBlank ((c :: t).getLast hne) = true := by
      intro hne
      simp [hlast _ (List.getLast_mem_getLast? hne)]
    rw [hstart, List.reverse_append,
      List.dropWhile_append_of_pos fun d hd => hb' d (List.mem_reverse.mp hd)]
    exact List.rdropWhile_eq_self_iff.mpr hnot

theorem exists_trim (s : Text) :
    ∃ b b', AllBlank b ∧ AllBlank b' ∧ s = b ++ trim s ++ b' := by
  refine ⟨s.takeWhile isBlank, (s.dropWhile isBlank).rtakeWhile isBlank,
    fun c hc => List.mem_takeWhile_imp hc, fun c hc => List.mem_rtakeWhile_imp hc, ?_⟩
  have hend : (s.dropWhile isBlank).rdropWhile isBlank ++
      (s.dropWhile isBlank).rtakeWhile isBlank = s.dropWhile isBlank :=
    List.rdropWhile_append_rtakeWhile
  rw [List.append_assoc]
  show s = s.takeWhile isBlank ++ ((s.dropWhile isBlank).rdropWhile isBlank ++ _)
  rw [hend, List.takeWhile_append_dropWhile]

theorem trim_append_blank {b : Text} (hb : AllBlank b) (s : Text) : trim (s ++ b) = trim s := by
  obtain ⟨b₁, b₂, hb₁, hb₂, hs⟩ := exists_trim s
  have hb' : AllBlank (b₂ ++ b) := fun c hc => (List.mem_append.mp hc).elim (hb₂ c) (hb c)
  calc trim (s ++ b) = trim (b₁ ++ trim s ++ (b₂ ++ b)) := by
        rw [← List.append_assoc, ← hs]
    _ = trim s := trim_between hb₁ hb' (trim_trim s)

/-- A text without blanks that begins another one begins it before the blanks at its end. -/
theorem prefix_of_append_blank {p b : Text} (hp : ∀ c ∈ p, isBlank c = false) (hb : AllBlank b)
    (h : p <+: s ++ b) : p <+: s := by
  rcases List.prefix_or_prefix_of_prefix h (List.prefix_append s b) with hpre | ⟨r, rfl⟩
  · exact hpre
  · have hr : r = [] := by
      rw [List.eq_nil_iff_forall_not_mem]
      intro c hc
      have hblank := hb c (((List.prefix_append_right_inj s).mp h).subset hc)
      rw [hp c (List.mem_append_right s hc)] at hblank
      cases hblank
    rw [hr, List.append_nil]

/-! ## What is cut off -/

theorem dropDot_start (s : Text) : dropDot s <+: s := by
  rw [dropDot]
  split
  · exact List.dropLast_prefix s
  · exact List.prefix_refl s

theorem dropDot_concat (s : Text) : dropDot (s ++ [0x2E]) = s := by simp [dropDot]

theorem dropDot_of_getLast? (h : s.getLast? ≠ some 0x2E) : dropDot s = s := if_neg h

theorem dropDot_eq_self_iff : dropDot s = s ↔ s.getLast? ≠ some 0x2E := by
  refine ⟨fun h hlast => ?_, dropDot_of_getLast?⟩
  obtain ⟨t, rfl⟩ := List.getLast?_eq_some_iff.mp hlast
  rw [dropDot_concat] at h
  have hlength := congrArg List.length h
  simp at hlength

theorem stripWww_suffix (s : Text) : stripWww s <:+ s := by
  rw [stripWww, stripPrefix]
  split
  · exact List.drop_suffix _ s
  · exact List.suffix_refl s

theorem stripWww_append (s : Text) : stripWww (utf16 "www." ++ s) = s := rfl

theorem stripWww_of_no_www (h : ¬ utf16 "www." <+: s) : stripWww s = s :=
  if_neg fun hpre => h (List.isPrefixOf_iff_prefix.mp hpre)

theorem stripWww_eq_self_iff : stripWww s = s ↔ ¬ utf16 "www." <+: s := by
  refine ⟨?_, stripWww_of_no_www⟩
  rintro h ⟨t, rfl⟩
  rw [stripWww_append] at h
  have hlength := congrArg List.length h
  rw [List.length_append] at hlength
  exact absurd hlength (by simp [utf16, unitsOf])

/-! ## The host -/

theorem before_start (c : CodeUnit) (s : Text) : before c s <+: s := List.takeWhile_prefix _

theorem afterLast_suffix (c : CodeUnit) (s : Text) : afterLast c s <:+ s :=
  List.reverse_prefix.mp (by
    rw [afterLast, List.reverse_reverse]
    exact List.takeWhile_prefix _)

theorem stripScheme_suffix (s : Text) : stripScheme s <:+ s := by
  cases s with
  | nil => exact List.suffix_refl []
  | cons c s =>
    rw [stripScheme]
    split
    · exact ((List.drop_suffix 3 _).trans (List.dropWhile_suffix _)).trans (List.suffix_cons c s)
    · exact List.suffix_refl _

theorem hostPart_part (v : Text) : hostPart v <:+: v :=
  (before_start ..).isInfix.trans <| (afterLast_suffix ..).isInfix.trans <|
    (before_start ..).isInfix.trans <| (before_start ..).isInfix.trans <|
      (before_start ..).isInfix.trans (stripScheme_suffix v).isInfix

theorem ne_of_mem_before {x : CodeUnit} (h : c ∈ before x s) : c ≠ x := by
  simpa using List.mem_takeWhile_imp h

theorem ne_of_mem_afterLast {x : CodeUnit} (h : c ∈ afterLast x s) : c ≠ x := by
  simpa using List.mem_takeWhile_imp (List.mem_reverse.mp h)

theorem not_separator_hostPart (h : c ∈ hostPart v) : isSeparator c = false := by
  have hcolon := ne_of_mem_before h
  have hafter := (before_start ..).subset h
  have hat := ne_of_mem_afterLast hafter
  have hcut := (afterLast_suffix ..).subset hafter
  have hhash := ne_of_mem_before hcut
  have hquery := ne_of_mem_before ((before_start ..).subset hcut)
  have hslash := ne_of_mem_before ((before_start ..).subset ((before_start ..).subset hcut))
  simp [isSeparator, hcolon, hat, hhash, hquery, hslash]

theorem before_of_notMem (h : c ∉ s) : before c s = s :=
  List.takeWhile_eq_self_iff.mpr fun d hd => by
    simp only [ne_eq, decide_eq_true_eq]
    exact fun hdc => h (hdc ▸ hd)

theorem afterLast_of_notMem (h : c ∉ s) : afterLast c s = s := by
  have hrev : s.reverse.takeWhile (· ≠ c) = s.reverse :=
    before_of_notMem (s := s.reverse) fun hmem => h (List.mem_reverse.mp hmem)
  rw [afterLast, hrev, List.reverse_reverse]

/-- There is no scheme without a colon. -/
theorem stripScheme_of_notMem (h : 0x3A ∉ s) : stripScheme s = s := by
  cases s with
  | nil => rfl
  | cons c s =>
    rw [stripScheme, if_neg]
    rw [Bool.and_eq_true]
    rintro ⟨-, hpre⟩
    have hcolon := (List.isPrefixOf_iff_prefix.mp hpre).subset (List.mem_cons_self ..)
    exact h (List.mem_cons_of_mem c ((List.dropWhile_suffix _).subset hcolon))

/-- A text without separators is its own host. -/
theorem hostPart_of_plain (h : ∀ c ∈ s, isSeparator c = false) : hostPart s = s := by
  have hnot : ∀ x : CodeUnit, isSeparator x = true → x ∉ s := fun x hx hmem => by
    rw [h x hmem] at hx
    cases hx
  rw [hostPart, stripScheme_of_notMem (hnot _ (by decide)), before_of_notMem (hnot _ (by decide)),
    before_of_notMem (hnot _ (by decide)), before_of_notMem (hnot _ (by decide)),
    afterLast_of_notMem (hnot _ (by decide)), before_of_notMem (hnot _ (by decide))]

/-- What is left to do on a part in lower case without separators. -/
theorem normalizeDomain_plain (hlower : LowerCaseParts toLowerCase) (hpart : r <:+: toLowerCase t)
    (hplain : ∀ c ∈ r, isSeparator c = false) :
    normalizeDomain toLowerCase r = dropDot (stripWww (trim r)) := by
  rw [normalizeDomain_eq, hlower.part t (trim r) ((trim_part r).trans hpart),
    hostPart_of_plain fun c hc => hplain c ((trim_part r).subset hc)]

/-- What is normal stays so exactly where nothing is left to be taken away. -/
theorem dropDot_stripWww_trim_eq_self_iff : dropDot (stripWww (trim r)) = r ↔
    trim r = r ∧ ¬ utf16 "www." <+: r ∧ r.getLast? ≠ some 0x2E := by
  constructor
  · intro h
    have hdot := (dropDot_start (stripWww (trim r))).length_le
    have hwww := (stripWww_suffix (trim r)).length_le
    have htrim : trim r = r := trim_eq_of_length_le (by rw [h] at hdot; omega)
    rw [htrim] at h hdot hwww
    have hstrip : stripWww r = r := (stripWww_suffix r).eq_of_length_le (by rw [h] at hdot; omega)
    rw [hstrip] at h
    exact ⟨htrim, stripWww_eq_self_iff.mp hstrip, dropDot_eq_self_iff.mp h⟩
  · rintro ⟨htrim, hwww, hdot⟩
    rw [htrim, stripWww_of_no_www hwww, dropDot_of_getLast? hdot]

end ScamSignals
