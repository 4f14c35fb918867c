import Vigiscam.ScamSignals.Hosts

/-!
# Normalizing twice (`normalization.ts`)

What is normal is normalized to itself for most types of indicators. A domain is not where a
second `www.`, a second dot or a blank comes to stand at an edge of its host, and an address of a
page is not where a blank comes to stand at its end (`normalizeIndicator_twice_iff`).
-/

open Js

namespace ScamSignals

open IdentityGraph (LowerCaseParts trim_part)

/-- A host, less one `www.` before it, at whose edges nothing is left to be taken away once a dot
after it is. -/
structure SettledHost (s : Text) : Prop where
  /-- No second `www.`, unless it is the whole host. -/
  www : utf16 "www." <+: s → s = utf16 "www."
  dots : ¬ utf16 ".." <:+ s
  start : ∀ c ∈ s.head?, isBlank c = false
  finish : ∀ c, isBlank c = true → ¬ [c] <:+ s ∧ ¬ [c, 0x2E] <:+ s

/-- No blank stands before the slashes at the end. -/
def SettledUrl (v : Text) : Prop :=
  ∀ start c n, isBlank c = true → v ≠ start ++ c :: List.replicate n 0x2F

/-- An indicator is normalized once and for all. -/
def Settled (toLowerCase : Text → Text) (type : IndicatorType) (value : Text) : Prop :=
  match type with
  | .domain => SettledHost (stripWww (hostPart (toLowerCase (trim value))))
  | .url => SettledUrl (toLowerCase (trim value))
  | _ => True

variable {toLowerCase : Text → Text} {value r s t a : Text} {c : CodeUnit}

/-! ## Domains -/

theorem settledHost_of_getLast? (hdot : s.getLast? ≠ some 0x2E) :
    SettledHost s ↔ trim s = s ∧ ¬ utf16 "www." <+: s := by
  have hnot : ∀ t : Text, ¬ t ++ [0x2E] <:+ s := by
    rintro t ⟨u, rfl⟩
    exact hdot (by simp)
  rw [trim_eq_self_iff]
  constructor
  · intro h
    refine ⟨⟨h.start, fun c hc => ?_⟩, fun hwww => ?_⟩
    · obtain ⟨t, rfl⟩ := List.getLast?_eq_some_iff.mp hc
      rw [Bool.eq_false_iff]
      exact fun hblank => (h.finish c hblank).1 (List.suffix_append t [c])
    · exact hnot (utf16 "www") (h.www hwww ▸ List.suffix_refl _)
  · rintro ⟨⟨hstart, hlast⟩, hwww⟩
    refine ⟨fun h => absurd h hwww, hnot [0x2E], hstart, fun c hblank => ⟨?_, hnot [c]⟩⟩
    rintro ⟨t, rfl⟩
    rw [hlast c (by simp)] at hblank
    cases hblank

theorem settledHost_concat : SettledHost (t ++ [0x2E]) ↔
    trim t = t ∧ ¬ utf16 "www." <+: t ∧ t.getLast? ≠ some 0x2E := by
  have hdots : utf16 ".." <:+ t ++ [0x2E] ↔ t.getLast? = some 0x2E := by
    show [0x2E] ++ [0x2E] <:+ t ++ [0x2E] ↔ _
    rw [List.suffix_append_inj_of_length_eq rfl, and_iff_left rfl,
      List.singleton_suffix_iff_getLast?_eq_some]
  have hend : ∀ c, [c, 0x2E] <:+ t ++ [0x2E] ↔ t.getLast? = some c := by
    intro c
    show [c] ++ [0x2E] <:+ t ++ [0x2E] ↔ _
    rw [List.suffix_append_inj_of_length_eq rfl, and_iff_left rfl,
      List.singleton_suffix_iff_getLast?_eq_some]
  rw [trim_eq_self_iff]
  constructor
  · intro h
    refine ⟨⟨fun c hc => ?_, fun c hc => ?_⟩, fun hwww => ?_,
      fun hlast => h.dots (hdots.mpr hlast)⟩
    · exact h.start c (by rw [List.head?_append, hc]; rfl)
    · rw [Bool.eq_false_iff]
      exact fun hblank => (h.finish c hblank).2 ((hend c).mpr hc)
    · have hall := h.www (hwww.trans (List.prefix_append t _))
      have hlength := hwww.length_le
      rw [← hall, List.length_append] at hlength
      simp at hlength
  · rintro ⟨⟨hstart, hlast⟩, hwww, hdot⟩
    refine ⟨fun h => ?_, fun h => hdot (hdots.mp h), fun c hc => ?_,
      fun c hblank => ⟨?_, fun h => ?_⟩⟩
    · rcases List.prefix_concat_iff.mp h with hall | hpre
      · exact hall.symm
      · exact absurd hpre hwww
    · cases t with
      | nil =>
        cases hc
        rfl
      | cons d t => exact hstart c hc
    · rintro ⟨u, hu⟩
      obtain ⟨-, hc⟩ := List.append_inj' hu rfl
      cases hc
      cases hblank
    · rw [hlast c ((hend c).mp h)] at hblank
      cases hblank

/-- The edges of the host without its dot. -/
theorem settledHost_iff : SettledHost s ↔
    trim (dropDot s) = dropDot s ∧ ¬ utf16 "www." <+: dropDot s ∧
      (dropDot s).getLast? ≠ some 0x2E := by
  by_cases hdot : s.getLast? = some 0x2E
  · obtain ⟨t, rfl⟩ := List.getLast?_eq_some_iff.mp hdot
    rw [dropDot_concat, settledHost_concat]
  · rw [dropDot_of_getLast? hdot, settledHost_of_getLast? hdot]
    exact ⟨fun h => ⟨h.1, h.2, hdot⟩, fun h => ⟨h.1, h.2.1⟩⟩

theorem normalizeDomain_part (toLowerCase : Text → Text) (value : Text) :
    normalizeDomain toLowerCase value <:+: hostPart (toLowerCase (trim value)) :=
  (dropDot_start _).isInfix.trans (stripWww_suffix _).isInfix

theorem normalizeDomain_twice_iff (hlower : LowerCaseEdges toLowerCase) (value : Text) :
    normalizeDomain toLowerCase (normalizeDomain toLowerCase value) =
      normalizeDomain toLowerCase value ↔
        SettledHost (stripWww (hostPart (toLowerCase (trim value)))) := by
  have hpart := normalizeDomain_part toLowerCase value
  rw [normalizeDomain_plain hlower.toLowerCaseParts (hpart.trans (hostPart_part _))
    fun c hc => not_separator_hostPart (hpart.subset hc), dropDot_stripWww_trim_eq_self_iff,
    settledHost_iff]
  rfl

/-! ## Addresses of pages -/

/-- The slashes at the end. -/
def stripSlashes (s : Text) : Text := s.rdropWhile (· = 0x2F)

theorem normalizeUrl_eq (toLowerCase : Text → Text) (raw : Text) :
    normalizeUrl toLowerCase raw = stripSlashes (toLowerCase (trim raw)) := rfl

/-- What is left after the slashes ends in a blank where one stands before them. -/
theorem getLast?_stripSlashes_iff (hblank : isBlank c = true) :
    (stripSlashes s).getLast? = some c ↔ ∃ start n, s = start ++ c :: List.replicate n 0x2F := by
  have hslash : c ≠ 0x2F := by
    rintro rfl
    cases hblank
  constructor
  · intro hlast
    obtain ⟨start, hstart⟩ := List.getLast?_eq_some_iff.mp hlast
    refine ⟨start, (s.rtakeWhile (· = 0x2F)).length, ?_⟩
    have hslashes : s.rtakeWhile (· = 0x2F) =
        List.replicate (s.rtakeWhile (· = 0x2F)).length 0x2F :=
      List.eq_replicate_iff.mpr ⟨rfl, fun d hd => by simpa using List.mem_rtakeWhile_imp hd⟩
    have hsplit : stripSlashes s ++ s.rtakeWhile (· = 0x2F) = s :=
      List.rdropWhile_append_rtakeWhile
    rw [← hslashes, ← List.singleton_append, ← List.append_assoc, ← hstart, hsplit]
  · rintro ⟨start, n, rfl⟩
    induction n with
    | zero =>
      rw [stripSlashes, List.replicate_zero, List.rdropWhile_concat_neg _ _ _ (by simpa)]
      simp
    | succ n ih =>
      rw [List.replicate_succ', ← List.cons_append, ← List.append_assoc, stripSlashes,
        List.rdropWhile_concat_pos _ _ _ (by simp)]
      exact ih

theorem normalizeUrl_twice_iff (hlower : LowerCaseEdges toLowerCase) (value : Text) :
    normalizeUrl toLowerCase (normalizeUrl toLowerCase value) = normalizeUrl toLowerCase value ↔
      SettledUrl (toLowerCase (trim value)) := by
  have hedges := hlower.trimmed _ (trim_trim value)
  rw [normalizeUrl_eq toLowerCase value]
  generalize hw : toLowerCase (trim value) = w at hedges ⊢
  have hpre : stripSlashes w <+: w := List.rdropWhile_prefix _ _
  have hsame : toLowerCase (trim (stripSlashes w)) = trim (stripSlashes w) :=
    hlower.part (trim value) _ (by rw [hw]; exact (trim_part _).trans hpre.isInfix)
  have hidem : stripSlashes (stripSlashes w) = stripSlashes w := List.rdropWhile_idempotent _ _
  rw [normalizeUrl_eq, hsame]
  have htrim : trim (stripSlashes w) = stripSlashes w ↔ SettledUrl w := by
    rw [trim_eq_self_iff]
    constructor
    · rintro ⟨-, hlast⟩ start c n hblank heq
      rw [hlast c ((getLast?_stripSlashes_iff hblank).mpr ⟨start, n, heq⟩)] at hblank
      cases hblank
    · intro h
      refine ⟨fun c hc => ?_, fun c hc => ?_⟩
      · obtain ⟨rest, hrest⟩ := hpre
        refine (trim_eq_self_iff.mp hedges).1 c ?_
        rw [← hrest, List.head?_append, hc]
        rfl
      · rw [Bool.eq_false_iff]
        intro hblank
        obtain ⟨start, n, heq⟩ := (getLast?_stripSlashes_iff hblank).mp hc
        exact h start c n hblank heq
  rw [← htrim]
  constructor
  · intro h
    refine trim_eq_of_length_le ?_
    have hlength := (List.rdropWhile_prefix (· = 0x2F) (trim (stripSlashes w))).length_le
    change (stripSlashes (trim (stripSlashes w))).length ≤ _ at hlength
    rwa [h] at hlength
  · intro h
    rw [h, hidem]

/-! ## Phrases -/

/-- Every part is in lower case. -/
def Lowered (toLowerCase : Text → Text) (s : Text) : Prop := ∀ t, t <:+: s → toLowerCase t = t

theorem Lowered.part (h : Lowered toLowerCase s) (hpart : t <:+: s) : Lowered toLowerCase t :=
  fun u hu => h u (hu.trans hpart)

theorem collapseBlanks_cons (hblank : isBlank c = false) (s : Text) :
    collapseBlanks (c :: s) = c :: collapseBlanks s := by
  cases s <;> simp [collapseBlanks, hblank]

theorem LowerCaseParts.blank (hlower : LowerCaseParts toLowerCase) (ha : toLowerCase a = a)
    (hs : toLowerCase s = s) : toLowerCase (a ++ 0x20 :: s) = a ++ 0x20 :: s :=
  hlower.around a s 0x20 (by decide) (by decide) ha hs

/-- The texts between the blanks are in lower case, and so is what is made of them. -/
theorem lower_collapseBlanks (hlower : LowerCaseParts toLowerCase) (ha : Lowered toLowerCase a)
    (hs : Lowered toLowerCase s)
    (hjoin : (∀ c ∈ s.head?, isBlank c = false) → Lowered toLowerCase (a ++ s)) :
    toLowerCase (a ++ collapseBlanks s) = a ++ collapseBlanks s := by
  induction s using collapseBlanks.induct generalizing a with
  | case1 =>
    rw [collapseBlanks, List.append_nil]
    exact ha a (List.infix_refl a)
  | case2 c hblank =>
    rw [collapseBlanks, if_pos hblank]
    exact LowerCaseParts.blank hlower (ha a (List.infix_refl a)) (hs [] List.nil_infix)
  | case3 c hblank =>
    rw [collapseBlanks, if_neg hblank]
    exact hjoin (by simpa using hblank) _ (List.infix_refl _)
  | case4 c d s hc hd ih =>
    rw [collapseBlanks, if_pos hc, if_pos hd]
    refine ih ha (hs.part (List.suffix_cons c _).isInfix) fun hhead => ?_
    rw [hhead d rfl] at hd
    cases hd
  | case5 c d s hc hd ih =>
    rw [collapseBlanks, if_pos hc, if_neg hd]
    have hrest := hs.part (List.suffix_cons c (d :: s)).isInfix
    exact LowerCaseParts.blank hlower (ha a (List.infix_refl a))
      (ih (a := []) (hs.part List.nil_infix) hrest fun _ => hrest)
  | case6 c d s hc ih =>
    rw [collapseBlanks, if_neg hc, ← List.singleton_append, ← List.append_assoc]
    have hall := hjoin (by simpa using hc)
    have hassoc : a ++ c :: d :: s = a ++ [c] ++ d :: s := by simp
    rw [hassoc] at hall
    exact ih (hall.part (List.prefix_append _ _).isInfix)
      (hs.part (List.suffix_cons c _).isInfix) fun _ => hall

theorem collapseBlanks_head? (s : Text) (h : ∀ c ∈ s.head?, isBlank c = false) :
    (collapseBlanks s).head? = s.head? := by
  cases s with
  | nil => rfl
  | cons c s => rw [collapseBlanks_cons (h c rfl), List.head?_cons, List.head?_cons]

theorem getLast?_cons_of_eq_some (d : CodeUnit) (h : s.getLast? = some c) :
    (d :: s).getLast? = some c := by
  obtain ⟨t, rfl⟩ := List.getLast?_eq_some_iff.mp h
  rw [← List.cons_append, List.getLast?_concat]

theorem collapseBlanks_getLast? (s : Text) (h : ∀ c ∈ s.getLast?, isBlank c = false) :
    (collapseBlanks s).getLast? = s.getLast? := by
  induction s using collapseBlanks.induct with
  | case1 => rfl
  | case2 c hblank =>
    rw [h c rfl] at hblank
    cases hblank
  | case3 c hblank => rw [collapseBlanks, if_neg hblank]
  | case4 c d s hc hd ih =>
    rw [List.getLast?_cons_cons] at h ⊢
    rw [collapseBlanks, if_pos hc, if_pos hd, ih h]
  | case5 c d s hc hd ih =>
    rw [List.getLast?_cons_cons] at h ⊢
    have hlast := ih h
    rw [List.getLast?_eq_some_getLast (List.cons_ne_nil d s)] at hlast ⊢
    rw [collapseBlanks, if_pos hc, if_neg hd]
    exact getLast?_cons_of_eq_some _ hlast
  | case6 c d s hc ih =>
    rw [List.getLast?_cons_cons] at h ⊢
    have hlast := ih h
    rw [List.getLast?_eq_some_getLast (List.cons_ne_nil d s)] at hlast ⊢
    rw [collapseBlanks, if_neg hc]
    exact getLast?_cons_of_eq_some _ hlast

theorem collapseBlanks_collapseBlanks (s : Text) :
    collapseBlanks (collapseBlanks s) = collapseBlanks s := by
  induction s using collapseBlanks.induct with
  | case1 => rfl
  | case2 c hblank =>
    rw [collapseBlanks, if_pos hblank]
    rfl
  | case3 c hblank => rw [collapseBlanks, if_neg hblank, collapseBlanks, if_neg hblank]
  | case4 c d s hc hd ih => rwa [collapseBlanks, if_pos hc, if_pos hd]
  | case5 c d s hc hd ih =>
    have hd' : isBlank d = false := by simpa using hd
    rw [collapseBlanks, if_pos hc, if_neg hd]
    rw [collapseBlanks_cons hd'] at ih ⊢
    rw [collapseBlanks, if_pos (by decide), if_neg hd, ih]
  | case6 c d s hc ih =>
    have hc' : isBlank c = false := by simpa using hc
    rw [collapseBlanks_cons hc', collapseBlanks_cons hc', ih]

theorem normalizePhrase_twice (hlower : LowerCaseEdges toLowerCase) (value : Text) :
    normalizePhrase toLowerCase (normalizePhrase toLowerCase value) =
      normalizePhrase toLowerCase value := by
  have hedges := trim_eq_self_iff.mp (hlower.trimmed _ (trim_trim value))
  have htrim : trim (normalizePhrase toLowerCase value) = normalizePhrase toLowerCase value := by
    rw [trim_eq_self_iff, normalizePhrase, collapseBlanks_head? _ hedges.1,
      collapseBlanks_getLast? _ hedges.2]
    exact hedges
  have hall : Lowered toLowerCase (toLowerCase (trim value)) := hlower.part (trim value)
  have hsame : toLowerCase (normalizePhrase toLowerCase value) =
      normalizePhrase toLowerCase value :=
    lower_collapseBlanks (a := []) hlower.toLowerCaseParts (hall.part List.nil_infix) hall
      fun _ => hall
  rw [normalizePhrase, htrim, hsame]
  exact collapseBlanks_collapseBlanks _

/-! ## The other types -/

theorem lower_trim_twice (hlower : LowerCaseEdges toLowerCase) (value : Text) :
    toLowerCase (trim (toLowerCase (trim value))) = toLowerCase (trim value) := by
  rw [hlower.trimmed _ (trim_trim value)]
  exact hlower.part (trim value) _ (List.infix_refl _)

theorem normalizeWallet_twice (hlower : LowerCaseEdges toLowerCase) (value : Text) :
    normalizeWallet toLowerCase (normalizeWallet toLowerCase value) =
      normalizeWallet toLowerCase value := by
  by_cases hevm :
      ((utf16 "0x").isPrefixOf (trim value) || (utf16 "0X").isPrefixOf (trim value)) = true
  · have hfirst : normalizeWallet toLowerCase value = toLowerCase (trim value) := if_pos hevm
    rw [hfirst, normalizeWallet, hlower.trimmed _ (trim_trim value)]
    split
    · exact hlower.part (trim value) _ (List.infix_refl _)
    · rfl
  · have hfirst : normalizeWallet toLowerCase value = trim value := if_neg hevm
    rw [hfirst, normalizeWallet, trim_trim, if_neg hevm]

theorem not_isBlank_of_isDigit (h : isDigit c) : isBlank c = false := by
  obtain ⟨hlow, hhigh⟩ := h
  simp [isBlank, Fin.le_def, Fin.ext_iff]
  omega

/-- A plus and digits. -/
theorem normalizePhone_digits (digits : Text) (h : ∀ c ∈ digits, isDigit c) :
    normalizePhone (0x2B :: digits) = 0x2B :: digits := by
  have htrim : trim (0x2B :: digits) = 0x2B :: digits := by
    rw [trim_eq_self_iff]
    refine ⟨fun c hc => by cases hc; rfl, fun c hc => ?_⟩
    rcases List.mem_cons.mp (List.mem_of_getLast? hc) with rfl | hmem
    · rfl
    · exact not_isBlank_of_isDigit (h c hmem)
  have hdigits : (0x2B :: digits).filter (isDigit ·) = digits := by
    rw [List.filter_cons_of_neg (by decide), List.filter_eq_self]
    exact fun c hc => by simpa using h c hc
  rw [normalizePhone, htrim, hdigits]
  rfl

theorem normalizePhone_twice (value : Text) :
    normalizePhone (normalizePhone value) = normalizePhone value := by
  have hdigits : ∀ c ∈ (trim value).filter (isDigit ·), isDigit c := fun c hc => by
    simpa using (List.mem_filter.mp hc).2
  have hform : ∃ digits : Text, normalizePhone value = 0x2B :: digits ∧
      ∀ c ∈ digits, isDigit c := by
    rw [normalizePhone]
    split
    · exact ⟨_, rfl, hdigits⟩
    · split
      · refine ⟨0x31 :: (trim value).filter (isDigit ·), rfl, fun c hc => ?_⟩
        rcases List.mem_cons.mp hc with rfl | hmem
        · decide
        · exact hdigits c hmem
      · exact ⟨_, rfl, hdigits⟩
  obtain ⟨digits, hform, hall⟩ := hform
  rw [hform, normalizePhone_digits digits hall]

/-- **When normalizing is done once and for all**: for every type but domains and addresses of
pages always, and for these exactly where nothing comes to stand at an edge that is taken away
there. -/
theorem normalizeIndicator_twice_iff (toLowerCase : Text → Text)
    (hlower : LowerCaseEdges toLowerCase) (type : IndicatorType) (value : Text) :
    normalizeIndicator toLowerCase type (normalizeIndicator toLowerCase type value) =
      normalizeIndicator toLowerCase type value ↔ Settled toLowerCase type value := by
  cases type with
  | phone => exact iff_of_true (normalizePhone_twice value) trivial
  | domain => exact normalizeDomain_twice_iff hlower value
  | url => exact normalizeUrl_twice_iff hlower value
  | cryptoWallet => exact iff_of_true (normalizeWallet_twice hlower value) trivial
  | scamPhrase => exact iff_of_true (normalizePhrase_twice hlower value) trivial
  | email | fakeCompany | socialProfile | other =>
    exact iff_of_true (lower_trim_twice hlower value) trivial

/-! ## Texts of ASCII -/

theorem lowerCaseEdges_lowerAscii : LowerCaseEdges lowerAscii where
  toLowerCaseParts := IdentityGraph.lowerCaseParts_lowerAscii
  trimmed s h := by rw [← lowerAscii_trim, h]

/-- A host between one `www.` and one dot is normalized once and for all. -/
theorem normalizeIndicator_twice_iff_host :
    normalizeIndicator lowerAscii .domain (normalizeIndicator lowerAscii .domain
      (utf16 "http://WWW.Evil.com./x")) =
        normalizeIndicator lowerAscii .domain (utf16 "http://WWW.Evil.com./x") ↔
      Settled lowerAscii .domain (utf16 "http://WWW.Evil.com./x") :=
  normalizeIndicator_twice_iff lowerAscii lowerCaseEdges_lowerAscii .domain _

/-- **A second `www.`**: a report of `www.www.evil.com` is stored as `www.evil.com`, and what is
stored is normalized to `evil.com`. -/
theorem second_www :
    normalizeIndicator lowerAscii .domain (utf16 "www.www.evil.com") = utf16 "www.evil.com" ∧
      normalizeIndicator lowerAscii .domain (utf16 "www.evil.com") = utf16 "evil.com" ∧
      ¬ ∀ type value, normalizeIndicator lowerAscii type
        (normalizeIndicator lowerAscii type value) = normalizeIndicator lowerAscii type value := by
  have hfirst : normalizeIndicator lowerAscii .domain (utf16 "www.www.evil.com") =
      utf16 "www.evil.com" := by decide
  have hsecond : normalizeIndicator lowerAscii .domain (utf16 "www.evil.com") =
      utf16 "evil.com" := by decide
  refine ⟨hfirst, hsecond, fun h => ?_⟩
  have htwice := h .domain (utf16 "www.www.evil.com")
  rw [hfirst, hsecond] at htwice
  exact absurd htwice (by decide)

end ScamSignals
