import Mathlib.Data.List.ReduceOption
import Vigiscam.Checks.ClaimIndicators
import Vigiscam.ScamSignals.Addresses

/-!
# The host of a suspicious site, read twice (`claim-indicators.ts`, `normalization.ts`)

A claim's site is reduced to its host by `toDomain`, which decides whether it is reported, and by
`normalizeDomain`, under which it is stored. Both go by the authority: what stands between the
scheme and the first `/`, `?` or `#`. `toDomain` takes it as it is but for the blanks around it, and
only behind a scheme of letters and before a path on one line (`Readable`). `normalizeDomain` takes
the host out of it (`SiteParts`). The two read one host where there is nothing to be taken off that
only one of them takes off (`hosts_agree_iff`).
-/

namespace Checks

open Js Value
open ScamSignals

/-- `[/?#]`. -/
def isPathUnit (c : CodeUnit) : Bool := c = 0x2F || c = 0x3F || c = 0x23

/-! ## Well-formed domains -/

section Domains

variable {s t : Text} {c : CodeUnit}

theorem mem_intercalate {ls : List Text} (h : c ∈ [0x2E].intercalate ls) :
    c = 0x2E ∨ ∃ l ∈ ls, c ∈ l := by
  induction ls with
  | nil => exact absurd h List.not_mem_nil
  | cons l ls ih =>
    cases ls with
    | nil =>
      rw [List.intercalate_singleton] at h
      exact Or.inr ⟨l, List.mem_singleton_self l, h⟩
    | cons l' ls =>
      rw [List.intercalate_cons_cons, List.mem_append, List.mem_append] at h
      rcases h with (h | h) | h
      · exact Or.inr ⟨l, List.mem_cons_self, h⟩
      · exact Or.inl (List.mem_singleton.mp h)
      · rcases ih h with hdot | ⟨m, hm, hc⟩
        · exact Or.inl hdot
        · exact Or.inr ⟨m, List.mem_cons_of_mem _ hm, hc⟩

theorem domain_iff : DOMAIN_RE s = true ↔
    2 ≤ (s.splitOn 0x2E).length ∧ ∀ l ∈ s.splitOn 0x2E, isRun isLabelUnit 1 l = true := by
  simp [DOMAIN_RE]

theorem label_or_dot (h : DOMAIN_RE s = true) (hc : c ∈ s) : isLabelUnit c = true ∨ c = 0x2E := by
  have hjoin : [0x2E].intercalate (s.splitOn 0x2E) = s := List.intercalate_splitOn 0x2E
  rw [← hjoin] at hc
  rcases mem_intercalate hc with hdot | ⟨l, hl, hc⟩
  · exact Or.inr hdot
  · exact Or.inl (((isRun_iff _).mp ((domain_iff.mp h).2 l hl)).1 c hc)

theorem dot_mem (h : DOMAIN_RE s = true) : 0x2E ∈ s := by
  by_contra hnot
  have hlength := (domain_iff.mp h).1
  rw [List.splitOn_eq_singleton hnot] at hlength
  exact Nat.not_succ_le_self 1 hlength

theorem domain_ne_nil (h : DOMAIN_RE s = true) : s ≠ [] := List.ne_nil_of_mem (dot_mem h)

/-- No label is empty. -/
theorem getLast?_domain (h : DOMAIN_RE s = true) : s.getLast? ≠ some 0x2E := by
  intro hlast
  obtain ⟨t, rfl⟩ := List.getLast?_eq_some_iff.mp hlast
  have hempty := (domain_iff.mp h).2 [] (by simp [List.splitOn_append_cons_self])
  simp [isRun] at hempty

/-- A first label, and what comes after it. -/
theorem domain_cons_label (hs : 0x2E ∉ s) :
    DOMAIN_RE (s ++ 0x2E :: t) = true ↔
      isRun isLabelUnit 1 s = true ∧ ∀ l ∈ t.splitOn 0x2E, isRun isLabelUnit 1 l = true := by
  have hne := List.length_pos_of_ne_nil (List.splitOn_ne_nil 0x2E t)
  rw [domain_iff, List.splitOn_append_cons_self_of_not_mem hs, List.forall_mem_cons,
    List.length_cons, and_iff_right (by omega)]

/-- What comes after `www.` is a domain, or a single label. -/
theorem domain_www (h : DOMAIN_RE (utf16 "www." ++ t) = true) :
    DOMAIN_RE t = true ∨ isRun isLabelUnit 1 t = true := by
  have hlabels := ((domain_cons_label (s := utf16 "www") (t := t) (by decide)).mp h).2
  by_cases hdot : 0x2E ∈ t
  · left
    obtain ⟨a, b, rfl⟩ := List.append_of_mem hdot
    refine domain_iff.mpr ⟨?_, hlabels⟩
    have ha := List.length_pos_of_ne_nil (List.splitOn_ne_nil 0x2E a)
    have hb := List.length_pos_of_ne_nil (List.splitOn_ne_nil 0x2E b)
    rw [List.splitOn_append_cons_self, List.length_append]
    omega
  · right
    rw [List.splitOn_eq_singleton hdot] at hlabels
    exact hlabels t (List.mem_singleton_self t)

theorem not_domain_label (h : isRun isLabelUnit 1 s = true) : DOMAIN_RE s ≠ true := by
  intro hdomain
  have hdot := ((isRun_iff _).mp h).1 _ (dot_mem hdomain)
  exact absurd hdot (by decide)

theorem label_or_dot_spec (h : isLabelUnit c = true ∨ c = 0x2E) :
    isBlank c = false ∧ isSeparator c = false := by
  simp only [isLabelUnit, isAlnum, isLower, isUpper, Bool.or_eq_true, Bool.and_eq_true,
    decide_eq_true_eq] at h
  simp [isDigit, Fin.le_def, Fin.ext_iff] at h
  simp [isBlank, isSeparator, Fin.le_def, Fin.ext_iff]
  omega

theorem mem_trim (hc : c ∈ s) (hblank : isBlank c = false) : c ∈ trim s := by
  obtain ⟨b, b', hb, hb', hs⟩ := exists_trim s
  rw [hs, List.mem_append, List.mem_append] at hc
  rcases hc with (hc | hc) | hc
  · exact absurd (hb c hc) (by simp [hblank])
  · exact hc
  · exact absurd (hb' c hc) (by simp [hblank])

/-- A domain has neither blanks nor separators. -/
theorem domain_clear (h : DOMAIN_RE s = true) (hc : c ∈ s) :
    isBlank c = false ∧ isSeparator c = false :=
  label_or_dot_spec (label_or_dot h hc)

theorem trim_domain (h : DOMAIN_RE s = true) : trim s = s :=
  trim_of_not_blank fun _ hc => (domain_clear h hc).1

theorem domain_not_mem (h : DOMAIN_RE s = true) (hc : isSeparator c = true) : c ∉ s := by
  intro hmem
  rw [(domain_clear h hmem).2] at hc
  cases hc

end Domains

/-! ## The path of an address -/

section Paths

variable {s t p : Text} {c : CodeUnit}

/-- `[^/?#]*` -/
def upToPath (s : Text) : Text := s.takeWhile (!isPathUnit ·)

/-- What starts with the first `/`, `?` or `#`. -/
def fromPath (s : Text) : Text := s.dropWhile (!isPathUnit ·)

/-- No unit that `.` does not match. -/
def OneLine (s : Text) : Prop := ∀ c ∈ s, isLineEnd c = false

theorem upToPath_append_fromPath (s : Text) : upToPath s ++ fromPath s = s :=
  List.takeWhile_append_dropWhile

theorem not_path_upToPath : ∀ c ∈ upToPath s, isPathUnit c = false :=
  fun c hc => by simpa using List.mem_takeWhile_imp hc

/-- The path is missing, or it starts with a unit of its own. -/
theorem fromPath_cases (s : Text) :
    fromPath s = [] ∨ ∃ c rest, isPathUnit c = true ∧ fromPath s = c :: rest := by
  have hnot := List.head?_dropWhile_not (!isPathUnit ·) s
  cases h : fromPath s with
  | nil => exact .inl rfl
  | cons c rest =>
    rw [fromPath] at h
    rw [h] at hnot
    exact .inr ⟨c, rest, by simpa using hnot, rfl⟩

theorem upToPath_of_not_path (h : ∀ c ∈ s, isPathUnit c = false) :
    upToPath s = s ∧ fromPath s = [] := by
  constructor
  · exact List.takeWhile_eq_self_iff.mpr fun c hc => by simp [h c hc]
  · exact List.dropWhile_eq_nil_iff.mpr fun c hc => by simp [h c hc]

theorem upToPath_append (hp : ∀ c ∈ p, isPathUnit c = false) (hc : isPathUnit c = true) :
    upToPath (p ++ c :: t) = p ∧ fromPath (p ++ c :: t) = c :: t := by
  have hall : ∀ d ∈ p, (!isPathUnit d) = true := fun d hd => by simp [hp d hd]
  constructor
  · rw [upToPath, List.takeWhile_append_of_pos hall, List.takeWhile_cons_of_neg (by simp [hc]),
      List.append_nil]
  · rw [fromPath, List.dropWhile_append_of_pos hall, List.dropWhile_cons_of_neg (by simp [hc])]

theorem any_isLineEnd_eq_false : s.any isLineEnd = false ↔ OneLine s := by simp [OneLine]

theorem cutPath_append (hp : ∀ c ∈ p, isPathUnit c = false) :
    cutPath (p ++ t) = p ++ cutPath t := by
  induction p with
  | nil => rfl
  | cons c p ih =>
    obtain ⟨hc, hp⟩ := List.forall_mem_cons.mp hp
    have hnot : ¬ ((c = 0x2F || c = 0x3F || c = 0x23) && !(p ++ t).any isLineEnd) = true := by
      rw [isPathUnit] at hc
      simp [hc]
    rw [List.cons_append, cutPath, if_neg hnot, ih hp, List.cons_append]

theorem not_isLineEnd_of_path (hc : isPathUnit c = true) : isLineEnd c = false := by
  simp only [isPathUnit, Bool.or_eq_true, decide_eq_true_eq] at hc
  rcases hc with (rfl | rfl) | rfl <;> rfl

theorem isSeparator_of_path (hc : isPathUnit c = true) :
    isBlank c = false ∧ isSeparator c = true := by
  simp only [isPathUnit, Bool.or_eq_true, decide_eq_true_eq] at hc
  rcases hc with (rfl | rfl) | rfl <;> exact ⟨rfl, rfl⟩

/-- A path without line breaks is cut off. -/
theorem cutPath_of_oneLine (h : OneLine (fromPath s)) : cutPath s = upToPath s := by
  conv_lhs => rw [← upToPath_append_fromPath s, cutPath_append not_path_upToPath]
  rcases fromPath_cases s with hnil | ⟨c, rest, hc, hrest⟩
  · rw [hnil, cutPath, List.append_nil]
  · rw [hrest] at h ⊢
    have hline := any_isLineEnd_eq_false.mpr (List.forall_mem_cons.mp h).2
    rw [isPathUnit] at hc
    rw [cutPath, if_pos (by rw [hc, hline]; rfl), List.append_nil]

/-- Of any other path something is left. -/
theorem exists_path_cutPath (h : ¬ OneLine (fromPath s)) :
    ∃ c ∈ cutPath s, isPathUnit c = true := by
  rcases fromPath_cases s with hnil | ⟨c, rest, hc, hrest⟩
  · exact absurd (by rw [hnil]; exact fun c hc => absurd hc List.not_mem_nil) h
  · refine ⟨c, ?_, hc⟩
    have hline : ¬ rest.any isLineEnd = false := by
      rw [any_isLineEnd_eq_false]
      intro hone
      rw [hrest] at h
      exact h (List.forall_mem_cons.mpr ⟨not_isLineEnd_of_path hc, hone⟩)
    rw [← upToPath_append_fromPath s, cutPath_append not_path_upToPath, hrest, cutPath,
      if_neg (by simpa using fun _ => hline)]
    exact List.mem_append_right _ List.mem_cons_self

end Paths

/-! ## Lower case -/

section Sites

variable {toLowerCase : Text → Text} {name r rest s t u : Text} {c : CodeUnit}

/-- What `toLowerCase` keeps of a site: the units that start a path are no letters, and the case of
no letter depends on what is on the other side of them; a blank stays one. -/
structure LowerCaseSites (toLowerCase : Text → Text) : Prop extends
    IdentityGraph.LowerCaseParts toLowerCase where
  path : ∀ a b c, isPathUnit c = true →
    toLowerCase (a ++ c :: b) = toLowerCase a ++ c :: toLowerCase b
  stays : ∀ s c, isPathUnit c = true ∨ isLineEnd c = true → (c ∈ toLowerCase s ↔ c ∈ s)
  trim : ∀ s, toLowerCase (trim s) = trim (toLowerCase s)
  ascii : ∀ s, (∀ c ∈ s, c < 0x80) → toLowerCase s = lowerAscii s

theorem oneLine_lower (hlower : LowerCaseSites toLowerCase) (s : Text) :
    OneLine (toLowerCase s) ↔ OneLine s := by
  constructor
  · intro h c hc
    by_contra hline
    rw [Bool.not_eq_false] at hline
    rw [h c ((hlower.stays s c (.inr hline)).mpr hc)] at hline
    cases hline
  · intro h c hc
    by_contra hline
    rw [Bool.not_eq_false] at hline
    rw [h c ((hlower.stays s c (.inr hline)).mp hc)] at hline
    cases hline

theorem not_path_lower (hlower : LowerCaseSites toLowerCase) (h : ∀ c ∈ s, isPathUnit c = false) :
    ∀ c ∈ toLowerCase s, isPathUnit c = false := by
  intro c hc
  by_contra hpath
  rw [Bool.not_eq_false] at hpath
  rw [h c ((hlower.stays s c (.inl hpath)).mp hc)] at hpath
  cases hpath

/-- A text is cut in the same place in lower case. -/
theorem paths_lower (hlower : LowerCaseSites toLowerCase) (s : Text) :
    upToPath (toLowerCase s) = toLowerCase (upToPath s) ∧
      (OneLine (fromPath (toLowerCase s)) ↔ OneLine (fromPath s)) := by
  have hclear := not_path_lower hlower (not_path_upToPath (s := s))
  rcases fromPath_cases s with hnil | ⟨c, rest, hc, hrest⟩
  · have hwhole : upToPath s = s := by
      have hs := upToPath_append_fromPath s
      rwa [hnil, List.append_nil] at hs
    rw [hwhole] at hclear ⊢
    obtain ⟨hup, hfrom⟩ := upToPath_of_not_path hclear
    rw [hup, hfrom, hnil]
    exact ⟨rfl, Iff.rfl⟩
  · have hs : toLowerCase s = toLowerCase (upToPath s) ++ c :: toLowerCase rest := by
      conv_lhs => rw [← upToPath_append_fromPath s, hrest, hlower.path _ _ _ hc]
    obtain ⟨hup, hfrom⟩ := upToPath_append (t := toLowerCase rest) hclear hc
    rw [hs, hup, hfrom, hrest]
    refine ⟨rfl, ?_⟩
    rw [OneLine, OneLine, List.forall_mem_cons, List.forall_mem_cons]
    exact and_congr_right fun _ => oneLine_lower hlower rest

/-- What `toDomain` makes of a text behind its scheme is a domain where what is before its path
is one, and the path is cut off. -/
theorem domain_cutPath_iff (hlower : LowerCaseSites toLowerCase) (s : Text) :
    DOMAIN_RE (toLowerCase (trim (cutPath s))) = true ↔
      OneLine (fromPath (toLowerCase s)) ∧ DOMAIN_RE (trim (upToPath (toLowerCase s))) = true := by
  obtain ⟨hup, hline⟩ := paths_lower hlower s
  rw [hup, hline]
  by_cases hone : OneLine (fromPath s)
  · rw [cutPath_of_oneLine hone, hlower.trim, and_iff_right hone]
  · refine iff_of_false (fun h => ?_) fun h => hone h.1
    -- a unit of the path is left, and it is no blank
    obtain ⟨c, hc, hpath⟩ := exists_path_cutPath hone
    have hmem := (hlower.stays _ c (.inl hpath)).mpr hc
    rw [hlower.trim] at h
    exact domain_not_mem h (isSeparator_of_path hpath).2
      (mem_trim hmem (isSeparator_of_path hpath).1)

/-! ## Schemes -/

/-- `[a-z]+:\/\/`, of either case. -/
def LetterScheme (r : Text) : Prop :=
  ∃ name rest, name ≠ [] ∧ (∀ c ∈ name, (isLower c || isUpper c) = true) ∧
    r = name ++ utf16 "://" ++ rest

theorem stripLetters_append (hname : name ≠ [])
    (hletters : ∀ c ∈ name, (isLower c || isUpper c) = true) (rest : Text) :
    stripLetters (name ++ utf16 "://" ++ rest) = rest := by
  have hdrop : (name ++ utf16 "://" ++ rest).dropWhile (fun c => isLower c || isUpper c) =
      utf16 "://" ++ rest := by
    rw [List.append_assoc, List.dropWhile_append_of_pos hletters]
    exact List.dropWhile_cons_of_neg (by decide)
  obtain ⟨c, name, rfl⟩ := List.exists_cons_of_ne_nil hname
  have hhead := hletters c List.mem_cons_self
  rw [stripLetters]
  simp only [hdrop]
  rw [if_pos]
  · rfl
  · rw [Bool.and_eq_true]
    exact ⟨hhead, rfl⟩

theorem stripLetters_of_not (h : ¬ LetterScheme r) : stripLetters r = r := by
  refine if_neg fun hmatch => h ?_
  rw [Bool.and_eq_true, List.isPrefixOf_iff_prefix] at hmatch
  obtain ⟨hhead, rest, hrest⟩ := hmatch
  refine ⟨r.takeWhile (fun c => isLower c || isUpper c), rest, ?_, ?_, ?_⟩
  · cases r with
    | nil => cases hhead
    | cons c r =>
      have hc : (isLower c || isUpper c) = true := hhead
      simp [hc]
  · intro c hc
    have hletter := List.mem_takeWhile_imp hc
    exact hletter
  · rw [List.append_assoc, hrest, List.takeWhile_append_dropWhile]

theorem lowerLetter_spec (h : (isLower c || isUpper c) = true) :
    c < 0x80 ∧ isLowerLetter (lowerUnit c) = true := by
  simp only [isLower, isUpper, Bool.or_eq_true, Bool.and_eq_true, decide_eq_true_eq, Fin.le_def]
    at h
  simp only [isLowerLetter, Bool.and_eq_true, decide_eq_true_eq, Fin.le_def, Fin.lt_def,
    val_lowerUnit]
  simp at h ⊢
  split <;> omega

/-- A scheme of letters is a scheme in lower case. -/
theorem stripScheme_lower (hlower : LowerCaseSites toLowerCase) (hname : name ≠ [])
    (hletters : ∀ c ∈ name, (isLower c || isUpper c) = true) (rest : Text) :
    stripScheme (toLowerCase (name ++ utf16 "://" ++ rest)) = toLowerCase rest := by
  have hnil : toLowerCase [] = [] := hlower.ascii [] fun c hc => absurd hc List.not_mem_nil
  have hcolon : toLowerCase (name ++ [0x3A]) = lowerAscii name ++ [0x3A] := by
    rw [hlower.ascii, lowerAscii, List.map_append]
    · rfl
    · intro c hc
      rcases List.mem_append.mp hc with hc | hc
      · exact (lowerLetter_spec (hletters c hc)).1
      · rw [List.mem_singleton.mp hc]
        decide
  have hscheme : IsScheme (lowerAscii name) := by
    obtain ⟨c, name, rfl⟩ := List.exists_cons_of_ne_nil hname
    refine ⟨⟨lowerUnit c, rfl, (lowerLetter_spec (hletters c List.mem_cons_self)).2⟩, ?_⟩
    intro d hd
    obtain ⟨e, he, rfl⟩ := List.mem_map.mp hd
    simp [isSchemeUnit, (lowerLetter_spec (hletters e he)).2]
  calc stripScheme (toLowerCase (name ++ utf16 "://" ++ rest))
      = stripScheme (toLowerCase ((name ++ [0x3A]) ++ 0x2F :: ([] ++ 0x2F :: rest))) := by
        rw [List.append_assoc, List.append_assoc]
        rfl
    _ = stripScheme (lowerAscii name ++ utf16 "://" ++ toLowerCase rest) := by
        rw [hlower.path (name ++ [0x3A]) _ 0x2F (by decide), hlower.path [] rest 0x2F (by decide),
          hcolon, hnil, List.append_assoc, List.append_assoc]
        rfl
    _ = toLowerCase rest := stripScheme_append hscheme _

/-! ## What `toDomain` reports -/

variable (toLowerCase u) in
/-- What follows the scheme, in lower case. -/
def address : Text := stripScheme (toLowerCase (trim u))

variable (toLowerCase u) in
/-- What stands between the scheme and the path. -/
def authority : Text := upToPath (address toLowerCase u)

/-- There is no scheme or one of letters, and no line break in what follows the authority. -/
structure Readable (toLowerCase : Text → Text) (u : Text) : Prop where
  scheme : address toLowerCase u = toLowerCase (trim u) ∨ LetterScheme (trim u)
  oneLine : OneLine (fromPath (address toLowerCase u))

theorem Readable.address_eq (hlower : LowerCaseSites toLowerCase) (h : Readable toLowerCase u) :
    address toLowerCase u = toLowerCase (stripLetters (trim u)) := by
  by_cases hletters : LetterScheme (trim u)
  · obtain ⟨name, rest, hname, hunits, hu⟩ := hletters
    rw [address, hu, stripScheme_lower hlower hname hunits, stripLetters_append hname hunits]
  · rw [stripLetters_of_not hletters]
    exact h.scheme.resolve_right hletters

/-- `toDomain` takes the authority out of what it can read. -/
theorem Readable.toDomain_eq (hlower : LowerCaseSites toLowerCase) (h : Readable toLowerCase u) :
    toDomain toLowerCase (trim u) = trim (authority toLowerCase u) := by
  have hone := h.oneLine
  rw [h.address_eq hlower] at hone
  obtain ⟨hup, hline⟩ := paths_lower hlower (stripLetters (trim u))
  rw [toDomain, cutPath_of_oneLine (hline.mp hone), hlower.trim, ← hup, authority,
    h.address_eq hlower]

/-- A scheme that `toDomain` does not take off leaves its colon before the path. -/
theorem colon_mem_upToPath (hname : IsScheme name) (rest : Text) :
    0x3A ∈ upToPath (name ++ utf16 "://" ++ rest) := by
  have hclear : ∀ c ∈ name ++ [0x3A], isPathUnit c = false := by
    intro c hc
    by_contra hpath
    rw [Bool.not_eq_false] at hpath
    have hsep := (isSeparator_of_path hpath).2
    rcases List.mem_append.mp hc with hc | hc
    · rw [(isSchemeUnit_spec (hname.2 c hc)).2] at hsep
      cases hsep
    · rw [List.mem_singleton.mp hc] at hpath
      cases hpath
  have hsplit : name ++ utf16 "://" ++ rest = (name ++ [0x3A]) ++ 0x2F :: 0x2F :: rest := by
    rw [List.append_assoc, List.append_assoc]
    rfl
  rw [hsplit, (upToPath_append hclear (by decide)).1]
  exact List.mem_append_right _ (List.mem_singleton_self _)

/-- A site is reported where `toDomain` can read it and its authority is a domain but for
blanks. -/
theorem domain_toDomain_iff (hlower : LowerCaseSites toLowerCase) (u : Text) :
    DOMAIN_RE (toDomain toLowerCase (trim u)) = true ↔
      Readable toLowerCase u ∧ DOMAIN_RE (trim (authority toLowerCase u)) = true := by
  constructor
  · intro h
    have hcut := (domain_cutPath_iff hlower _).mp h
    have hreadable : Readable toLowerCase u := by
      by_cases hletters : LetterScheme (trim u)
      · refine ⟨.inr hletters, ?_⟩
        obtain ⟨name, rest, hname, hunits, hu⟩ := hletters
        rw [address, hu, stripScheme_lower hlower hname hunits]
        rw [hu, stripLetters_append hname hunits] at hcut
        exact hcut.1
      · rw [stripLetters_of_not hletters] at hcut
        rcases stripScheme_cases (toLowerCase (trim u)) with hsame | ⟨name, rest, hname, hscheme⟩
        · exact ⟨.inl hsame, by rw [address, hsame]; exact hcut.1⟩
        · rw [hscheme] at hcut
          exact absurd (mem_trim (colon_mem_upToPath hname rest) (by decide))
            (domain_not_mem hcut.2 (by decide))
    exact ⟨hreadable, by rwa [hreadable.toDomain_eq hlower] at h⟩
  · rintro ⟨hreadable, hdomain⟩
    rwa [hreadable.toDomain_eq hlower]

/-! ## What `normalizeDomain` makes of it -/

/-- The host of an authority, without userinfo and port. -/
def hostOf (a : Text) : Text := before 0x3A (afterLast 0x40 a)

theorem normalizeDomain_authority (toLowerCase : Text → Text) (u : Text) :
    normalizeDomain toLowerCase u = dropDot (stripWww (hostOf (authority toLowerCase u))) := by
  have hpath : ∀ s, before 0x23 (before 0x3F (before 0x2F s)) = upToPath s := by
    intro s
    rw [before, before, before, List.takeWhile_takeWhile, List.takeWhile_takeWhile, upToPath]
    congr 1
    funext c
    simp [isPathUnit, Bool.and_comm, Bool.and_left_comm]
  rw [normalizeDomain_eq, hostPart, hpath]
  rfl

/-- Userinfo, a host with what `normalizeDomain` takes off it, and a port. -/
structure SiteParts (a info www host dot port : Text) : Prop where
  eq : a = info ++ (www ++ host ++ dot) ++ port
  info : info = [] ∨ info.getLast? = some 0x40
  www : www = utf16 "www." ∨ www = [] ∧ ¬ utf16 "www." <+: host
  host : DOMAIN_RE host = true
  dot : dot = [] ∨ dot = [0x2E]
  port : port = [] ∨ ∃ p, port = 0x3A :: p ∧ 0x40 ∉ p

/-- The authority names a site. -/
def NamesSite (a : Text) : Prop := ∃ info www host dot port, SiteParts a info www host dot port

theorem afterLast_append (hs : c ∉ s) (t : Text) : afterLast c (t ++ c :: s) = s := by
  have hall : ∀ d ∈ s.reverse, decide (d ≠ c) = true := by
    intro d hd
    rw [decide_eq_true_eq]
    rintro rfl
    exact hs (List.mem_reverse.mp hd)
  rw [afterLast, List.reverse_append, List.reverse_cons, List.append_assoc,
    List.takeWhile_append_of_pos hall, List.singleton_append,
    List.takeWhile_cons_of_neg (by simp), List.append_nil, List.reverse_reverse]

theorem exists_afterLast (c : CodeUnit) (s : Text) :
    ∃ t, s = t ++ afterLast c s ∧ (t = [] ∨ t.getLast? = some c) := by
  refine ⟨s.rdropWhile (· ≠ c), List.rdropWhile_append_rtakeWhile.symm, ?_⟩
  by_cases hnil : s.rdropWhile (· ≠ c) = []
  · exact .inl hnil
  · right
    have hlast := List.rdropWhile_last_not (· ≠ c) s hnil
    rw [List.getLast?_eq_some_getLast hnil]
    simpa using hlast

theorem exists_before (c : CodeUnit) (s : Text) :
    ∃ t, s = before c s ++ t ∧ (t = [] ∨ ∃ p, t = c :: p) := by
  refine ⟨s.dropWhile (· ≠ c), List.takeWhile_append_dropWhile.symm, ?_⟩
  have hnot := List.head?_dropWhile_not (· ≠ c) s
  cases h : s.dropWhile (· ≠ c) with
  | nil => exact .inl rfl
  | cons d p =>
    rw [h] at hnot
    have hd : d = c := by simpa using hnot
    exact .inr ⟨p, by rw [hd]⟩

theorem exists_dropDot (s : Text) : ∃ dot, s = dropDot s ++ dot ∧ (dot = [] ∨ dot = [0x2E]) := by
  by_cases hlast : s.getLast? = some 0x2E
  · obtain ⟨t, rfl⟩ := List.getLast?_eq_some_iff.mp hlast
    exact ⟨[0x2E], by rw [dropDot_concat], .inr rfl⟩
  · exact ⟨[], by rw [dropDot_of_getLast? hlast, List.append_nil], .inl rfl⟩

theorem exists_stripWww (s : Text) : ∃ www, s = www ++ stripWww s ∧
    (www = utf16 "www." ∨ www = [] ∧ ¬ utf16 "www." <+: s) := by
  by_cases hwww : utf16 "www." <+: s
  · obtain ⟨t, rfl⟩ := hwww
    exact ⟨utf16 "www.", by rw [stripWww_append], .inl rfl⟩
  · exact ⟨[], by rw [stripWww_of_no_www hwww, List.nil_append], .inr ⟨rfl, hwww⟩⟩

theorem namesSite_of_host (h : DOMAIN_RE (dropDot (stripWww (hostOf s))) = true) :
    NamesSite s := by
  obtain ⟨info, hinfo, hat⟩ := exists_afterLast 0x40 s
  obtain ⟨port, hport, hcolon⟩ := exists_before 0x3A (afterLast 0x40 s)
  obtain ⟨www, hwww, hstart⟩ := exists_stripWww (hostOf s)
  obtain ⟨dot, hdot, hend⟩ := exists_dropDot (stripWww (hostOf s))
  refine ⟨info, www, _, dot, port, ?_, hat, ?_, h, hend, ?_⟩
  · rw [List.append_assoc www, ← hdot, ← hwww, List.append_assoc, hostOf, ← hport, ← hinfo]
  · rcases hstart with hstart | ⟨hnil, hno⟩
    · exact .inl hstart
    · refine .inr ⟨hnil, fun hpre => hno ?_⟩
      rw [← stripWww_of_no_www hno]
      exact hpre.trans (dropDot_start _)
  · rcases hcolon with hnil | ⟨p, rfl⟩
    · exact .inl hnil
    · refine .inr ⟨p, rfl, fun hmem => ?_⟩
      refine ne_of_mem_afterLast (c := 0x40) (x := 0x40) (s := s) ?_ rfl
      rw [hport]
      exact List.mem_append_right _ (List.mem_cons_of_mem _ hmem)

/-- A domain of its own does not begin with `www.` for the dot after it. -/
theorem no_www_append_dot {host dot : Text} (h : DOMAIN_RE host = true)
    (hdot : dot = [] ∨ dot = [0x2E]) (hno : ¬ utf16 "www." <+: host) :
    ¬ utf16 "www." <+: host ++ dot := by
  rcases hdot with rfl | rfl
  · rwa [List.append_nil]
  · intro hpre
    rcases List.prefix_concat_iff.mp hpre with heq | hpre
    · have hwww : utf16 "www." = utf16 "www" ++ [0x2E] := rfl
      obtain ⟨hhost, -⟩ := List.append_inj' (heq.symm.trans hwww) rfl
      rw [hhost] at h
      exact absurd h (by decide)
    · exact hno hpre

theorem SiteParts.clear {a info www host dot port : Text}
    (h : SiteParts a info www host dot port) (hc : c ∈ www ++ host ++ dot) :
    isBlank c = false ∧ isSeparator c = false := by
  refine label_or_dot_spec ?_
  rcases List.mem_append.mp hc with hc | hc
  · rcases List.mem_append.mp hc with hc | hc
    · have hall : (utf16 "www.").all (fun c => isLabelUnit c || c = 0x2E) = true := by decide
      rcases h.www with hwww | ⟨hwww, -⟩
      · rw [hwww] at hc
        simpa using List.all_eq_true.mp hall c hc
      · rw [hwww] at hc
        cases hc
    · exact label_or_dot h.host hc
  · rcases h.dot with hdot | hdot
    · rw [hdot] at hc
      cases hc
    · rw [hdot, List.mem_singleton] at hc
      exact .inr hc

theorem SiteParts.bare {a info www host dot port : Text}
    (h : SiteParts a info www host dot port) (hat : 0x40 ∉ a) (hcolon : 0x3A ∉ a) :
    info = [] ∧ port = [] := by
  constructor
  · refine h.info.resolve_right fun hlast => hat ?_
    rw [h.eq, List.mem_append, List.mem_append]
    exact .inl (.inl (List.mem_of_getLast? hlast))
  · refine h.port.resolve_right fun ⟨p, hport, _⟩ => hcolon ?_
    rw [h.eq, hport]
    exact List.mem_append_right _ List.mem_cons_self

/-- The host is all that `normalizeDomain` leaves. -/
theorem SiteParts.host_eq {a info www host dot port : Text}
    (h : SiteParts a info www host dot port) : dropDot (stripWww (hostOf a)) = host := by
  have hclear : ∀ c, isSeparator c = true → c ∉ www ++ host ++ dot := by
    intro c hc hmem
    rw [(h.clear hmem).2] at hc
    cases hc
  have hport : 0x40 ∉ port := by
    rcases h.port with hport | ⟨p, hport, hp⟩
    · rw [hport]
      exact List.not_mem_nil
    · rw [hport, List.mem_cons, not_or]
      exact ⟨by decide, hp⟩
  have hafter : afterLast 0x40 a = www ++ host ++ dot ++ port := by
    have hat : 0x40 ∉ www ++ host ++ dot ++ port := by
      rw [List.mem_append, not_or]
      exact ⟨hclear 0x40 (by decide), hport⟩
    rcases h.info with hinfo | hinfo
    · rw [h.eq, hinfo, List.nil_append, afterLast_of_notMem hat]
    · obtain ⟨i, hi⟩ := List.getLast?_eq_some_iff.mp hinfo
      rw [h.eq, hi, List.append_assoc, List.append_assoc, List.singleton_append,
        afterLast_append hat]
  have hhost : hostOf a = www ++ host ++ dot := by
    rw [hostOf, hafter, before_append, if_neg (hclear 0x3A (by decide))]
    rcases h.port with hport | ⟨p, hport, -⟩
    · rw [hport]
      exact List.append_nil _
    · rw [hport]
      exact List.append_nil _
  have hstrip : stripWww (www ++ host ++ dot) = host ++ dot := by
    rcases h.www with hwww | ⟨hwww, hno⟩
    · rw [hwww, List.append_assoc, stripWww_append]
    · rw [hwww, List.nil_append, stripWww_of_no_www (no_www_append_dot h.host h.dot hno)]
  rw [hhost, hstrip]
  rcases h.dot with hdot | hdot
  · rw [hdot, List.append_nil, dropDot_of_getLast? (getLast?_domain h.host)]
  · rw [hdot, dropDot_concat]

/-- What is stored is a domain exactly where the authority names a site. -/
theorem domain_normalizeDomain_iff (toLowerCase : Text → Text) (u : Text) :
    DOMAIN_RE (normalizeDomain toLowerCase u) = true ↔ NamesSite (authority toLowerCase u) := by
  rw [normalizeDomain_authority]
  constructor
  · exact namesSite_of_host
  · rintro ⟨info, www, host, dot, port, hparts⟩
    rw [hparts.host_eq]
    exact hparts.host

/-! ## Where the two agree -/

/-- `www.` and a single label. -/
def WwwLabel (a : Text) : Prop := ∃ label, isRun isLabelUnit 1 label = true ∧
  a = utf16 "www." ++ label

theorem WwwLabel.domain (h : WwwLabel s) : DOMAIN_RE s = true := by
  obtain ⟨label, hlabel, rfl⟩ := h
  have hdot : 0x2E ∉ label := fun hmem =>
    absurd (((isRun_iff _).mp hlabel).1 _ hmem) (by decide)
  refine (domain_cons_label (s := utf16 "www") (t := label) (by decide)).mpr ⟨by decide, ?_⟩
  rw [List.splitOn_eq_singleton hdot]
  exact fun l hl => List.mem_singleton.mp hl ▸ hlabel

theorem hostOf_domain (h : DOMAIN_RE s = true) : hostOf s = s := by
  rw [hostOf, afterLast_of_notMem (domain_not_mem h (by decide)),
    before_of_notMem (domain_not_mem h (by decide))]

theorem domain_dropDot_stripWww (h : DOMAIN_RE s = true) :
    DOMAIN_RE (dropDot (stripWww s)) = true ↔ ¬ WwwLabel s := by
  by_cases hwww : utf16 "www." <+: s
  · obtain ⟨t, rfl⟩ := hwww
    have hlabel : WwwLabel (utf16 "www." ++ t) ↔ isRun isLabelUnit 1 t = true :=
      ⟨fun ⟨l, hl, heq⟩ => List.append_cancel_left heq ▸ hl, fun ht => ⟨t, ht, rfl⟩⟩
    have hlast : t.getLast? ≠ some 0x2E := fun hlast =>
      getLast?_domain h (by rw [List.getLast?_append, hlast]; rfl)
    rw [stripWww_append, dropDot_of_getLast? hlast, hlabel]
    exact ⟨fun hdomain ht => not_domain_label ht hdomain,
      fun hnot => (domain_www h).resolve_right hnot⟩
  · rw [stripWww_of_no_www hwww, dropDot_of_getLast? (getLast?_domain h)]
    exact iff_of_true h fun ⟨label, _, heq⟩ => hwww (heq ▸ List.prefix_append _ _)

/-- An authority that is a domain is stored as the site is. -/
theorem normalizeDomain_of_domain (hlower : LowerCaseSites toLowerCase)
    (h : DOMAIN_RE (authority toLowerCase u) = true) :
    normalizeDomain toLowerCase (authority toLowerCase u) = normalizeDomain toLowerCase u := by
  have hpart : authority toLowerCase u <:+: toLowerCase (trim u) :=
    (List.takeWhile_prefix _).isInfix.trans (stripScheme_suffix _).isInfix
  rw [normalizeDomain_plain hlower.toLowerCaseParts hpart fun c hc => (domain_clear h hc).2,
    trim_domain h, normalizeDomain_authority, hostOf_domain h]

/-- Blanks around a domain are stored with it. -/
theorem not_namesSite_of_blanks (hdomain : DOMAIN_RE (trim s) = true) (h : trim s ≠ s) :
    ¬ NamesSite s := by
  rintro ⟨info, www, host, dot, port, hparts⟩
  have hclear : ∀ c, isSeparator c = true → isBlank c = false → c ∉ s := fun c hc hblank hmem =>
    domain_not_mem hdomain hc (mem_trim hmem hblank)
  obtain ⟨hinfo, hport⟩ := hparts.bare (hclear 0x40 rfl rfl) (hclear 0x3A rfl rfl)
  refine h (trim_of_not_blank fun c hc => ?_)
  have hs := hparts.eq
  rw [hinfo, hport, List.nil_append, List.append_nil] at hs
  exact (hparts.clear (hs ▸ hc)).1

theorem namesSite_domain_iff (h : NamesSite s) : DOMAIN_RE s = true ↔
    ∀ info www host dot port, SiteParts s info www host dot port →
      info = [] ∧ dot = [] ∧ port = [] := by
  constructor
  · intro hdomain info www host dot port hparts
    obtain ⟨hinfo, hport⟩ := hparts.bare (domain_not_mem hdomain (by decide))
      (domain_not_mem hdomain (by decide))
    refine ⟨hinfo, hparts.dot.resolve_right fun hdot => getLast?_domain hdomain ?_, hport⟩
    have hs := hparts.eq
    rw [hinfo, hport, hdot, List.nil_append, List.append_nil] at hs
    rw [hs, List.getLast?_concat]
  · intro hbare
    obtain ⟨info, www, host, dot, port, hparts⟩ := h
    obtain ⟨hinfo, hdot, hport⟩ := hbare info www host dot port hparts
    have hs := hparts.eq
    rw [hinfo, hdot, hport, List.nil_append, List.append_nil, List.append_nil] at hs
    rcases hparts.www with hwww | ⟨hwww, -⟩
    · rw [hs, hwww]
      refine (domain_cons_label (s := utf16 "www") (t := host) (by decide)).mpr ⟨by decide, ?_⟩
      exact (domain_iff.mp hparts.host).2
    · rw [hs, hwww, List.nil_append]
      exact hparts.host

/-! ## Reports -/

variable {subject : Value} {keys : List Text} {raw : Text}

theorem trim_firstString (h : firstString subject keys = some raw) :
    trim raw = raw ∧ raw ≠ [] := by
  induction keys with
  | nil => cases h
  | cons key keys ih =>
    rw [firstString] at h
    split at h
    · split at h
      · exact ih h
      · next hne =>
        obtain rfl := Option.some.inj h
        exact ⟨trim_trim _, hne⟩
    · exact ih h

/-- What is taken from a text of some shape is of one type. -/
theorem type_of_shape {type : IndicatorType} {P : Text → Prop} [DecidablePred P] {v : Text → Text}
    {o : Option Text} {i : ExtractedIndicator}
    (h : (o.bind fun raw => if P raw then push type (v raw) else none) = some i) :
    i.indicatorType = type := by
  obtain ⟨raw, -, hraw⟩ := Option.bind_eq_some_iff.mp h
  split at hraw
  · rw [push] at hraw
    split at hraw
    · cases hraw
    · cases hraw
      rfl
  · cases hraw

theorem domainIndicator_iff {i : ExtractedIndicator} :
    domainIndicator toLowerCase subject = some i ↔
      ∃ raw, firstString subject ["websiteDomain", "domain", "website", "url"] = some raw ∧
        DOMAIN_RE (toDomain toLowerCase raw) = true ∧ i = ⟨.domain, toDomain toLowerCase raw⟩ := by
  rw [domainIndicator, Option.bind_eq_some_iff]
  refine exists_congr fun raw => and_congr_right fun _ => ?_
  by_cases h : DOMAIN_RE (toDomain toLowerCase raw) = true
  · rw [if_pos h, push, if_neg (domain_ne_nil h), Option.some_inj, and_iff_right h, eq_comm]
  · rw [if_neg h]
    exact iff_of_false (fun hnone => nomatch hnone) fun hi => h hi.1

/-- The other indicators are of other types. -/
theorem domain_mem_iff {i : ExtractedIndicator} :
    i ∈ extractClaimIndicators toLowerCase subject ∧ i.indicatorType = .domain ↔
      domainIndicator toLowerCase subject = some i := by
  rw [extractClaimIndicators, List.reduceOption_mem_iff]
  constructor
  · rintro ⟨hmem, htype⟩
    simp only [List.mem_cons, List.not_mem_nil, or_false] at hmem
    rcases hmem with h | h | h | h | h
    · exact h.symm
    · cases htype.symm.trans (type_of_shape h.symm)
    · cases htype.symm.trans (type_of_shape h.symm)
    · cases htype.symm.trans (type_of_shape h.symm)
    · cases htype.symm.trans (type_of_shape h.symm)
  · intro h
    refine ⟨by rw [h]; exact List.mem_cons_self, ?_⟩
    obtain ⟨raw, -, -, rfl⟩ := domainIndicator_iff.mp h
    rfl

/-- The site is reported exactly where it is stored as a domain, and as what it is stored. -/
def HostsAgree (toLowerCase : Text → Text) (subject : Value) (u : Text) : Prop :=
  ((∃ i ∈ extractClaimIndicators toLowerCase subject, i.indicatorType = .domain) ↔
    DOMAIN_RE (normalizeDomain toLowerCase u) = true) ∧
  ∀ i ∈ extractClaimIndicators toLowerCase subject, i.indicatorType = .domain →
    normalizeIndicator toLowerCase .domain i.indicatorValue = normalizeDomain toLowerCase u

/-- The two read one host in a text. -/
structure OneHost (toLowerCase : Text → Text) (u : Text) : Prop where
  /-- A site behind a scheme of letters, and with a path on one line. -/
  readable : NamesSite (authority toLowerCase u) → Readable toLowerCase u
  /-- Neither userinfo nor a dot after the host nor a port. -/
  bare : ∀ info www host dot port,
    SiteParts (authority toLowerCase u) info www host dot port → info = [] ∧ dot = [] ∧ port = []
  /-- No blanks around the host. -/
  edges : Readable toLowerCase u → DOMAIN_RE (trim (authority toLowerCase u)) = true →
    trim (authority toLowerCase u) = authority toLowerCase u
  /-- More than one label after `www.`. -/
  labels : Readable toLowerCase u → ¬ WwwLabel (authority toLowerCase u)

theorem namesSite_ne_nil (h : NamesSite s) : s ≠ [] := by
  rintro rfl
  obtain ⟨info, www, host, dot, port, hparts⟩ := h
  have hnil := hparts.eq
  simp only [List.nil_eq, List.append_eq_nil_iff] at hnil
  exact domain_ne_nil hparts.host hnil.1.2.1.2

theorem firstString_site (hu : asText (subject.getOpt "websiteDomain") = some u)
    (keys : List Text) : firstString subject ("websiteDomain" :: keys) =
      if trim u = [] then firstString subject keys else some (trim u) := by
  rw [firstString, hu]

/-- The one indicator of a domain that there can be. -/
theorem reported_iff (hlower : LowerCaseSites toLowerCase)
    (hraw : firstString subject ["websiteDomain", "domain", "website", "url"] = some (trim u))
    (i : ExtractedIndicator) :
    i ∈ extractClaimIndicators toLowerCase subject ∧ i.indicatorType = .domain ↔
      (Readable toLowerCase u ∧ DOMAIN_RE (trim (authority toLowerCase u)) = true) ∧
        i = ⟨.domain, trim (authority toLowerCase u)⟩ := by
  rw [domain_mem_iff, domainIndicator_iff]
  constructor
  · rintro ⟨raw, hsome, hdomain, hi⟩
    rw [hraw] at hsome
    obtain rfl := Option.some.inj hsome
    have hreported := (domain_toDomain_iff hlower u).mp hdomain
    rw [hreported.1.toDomain_eq hlower] at hi
    exact ⟨hreported, hi⟩
  · rintro ⟨hreported, hi⟩
    refine ⟨trim u, hraw, (domain_toDomain_iff hlower u).mpr hreported, ?_⟩
    rwa [hreported.1.toDomain_eq hlower]

/-- What is read out of one text. -/
theorem hosts_agree_text (hlower : LowerCaseSites toLowerCase)
    (hraw : firstString subject ["websiteDomain", "domain", "website", "url"] = some (trim u)) :
    HostsAgree toLowerCase subject u ↔ OneHost toLowerCase u := by
  have hnames := domain_normalizeDomain_iff toLowerCase u
  -- an authority that is a domain is one for both, but for `www.` before its only label
  have hstored : DOMAIN_RE (authority toLowerCase u) = true →
      (NamesSite (authority toLowerCase u) ↔ ¬ WwwLabel (authority toLowerCase u)) := by
    intro hdomain
    rw [← hnames, normalizeDomain_authority, hostOf_domain hdomain]
    exact domain_dropDot_stripWww hdomain
  constructor
  · rintro ⟨hboth, -⟩
    have hreported : NamesSite (authority toLowerCase u) ↔
        Readable toLowerCase u ∧ DOMAIN_RE (trim (authority toLowerCase u)) = true := by
      rw [← hnames, ← hboth]
      constructor
      · rintro ⟨i, hi⟩
        exact ((reported_iff hlower hraw i).mp hi).1
      · intro h
        exact ⟨_, (reported_iff hlower hraw _).mpr ⟨h, rfl⟩⟩
    have hedges : Readable toLowerCase u → DOMAIN_RE (trim (authority toLowerCase u)) = true →
        trim (authority toLowerCase u) = authority toLowerCase u := by
      intro hreadable hdomain
      by_contra hblank
      exact not_namesSite_of_blanks hdomain hblank (hreported.mpr ⟨hreadable, hdomain⟩)
    refine ⟨fun hsite => (hreported.mp hsite).1, ?_, hedges, ?_⟩
    · intro info www host dot port hparts
      have hsite : NamesSite (authority toLowerCase u) := ⟨info, www, host, dot, port, hparts⟩
      obtain ⟨hreadable, hdomain⟩ := hreported.mp hsite
      rw [hedges hreadable hdomain] at hdomain
      exact (namesSite_domain_iff hsite).mp hdomain info www host dot port hparts
    · intro hreadable hwww
      have hdomain := hwww.domain
      refine (hstored hdomain).mp (hreported.mpr ⟨hreadable, ?_⟩) hwww
      rwa [trim_domain hdomain]
  · intro h
    constructor
    · rw [hnames]
      constructor
      · rintro ⟨i, hi⟩
        obtain ⟨⟨hreadable, hdomain⟩, -⟩ := (reported_iff hlower hraw i).mp hi
        rw [h.edges hreadable hdomain] at hdomain
        exact (hstored hdomain).mpr (h.labels hreadable)
      · intro hsite
        have hdomain := (namesSite_domain_iff hsite).mpr h.bare
        refine ⟨_, (reported_iff hlower hraw _).mpr ⟨⟨h.readable hsite, ?_⟩, rfl⟩⟩
        rwa [trim_domain hdomain]
    · intro i hi htype
      obtain ⟨⟨hreadable, hdomain⟩, rfl⟩ := (reported_iff hlower hraw i).mp ⟨hi, htype⟩
      have hedges := h.edges hreadable hdomain
      rw [hedges] at hdomain
      show normalizeDomain toLowerCase (trim (authority toLowerCase u)) = _
      rw [hedges]
      exact normalizeDomain_of_domain hlower hdomain

/-- **The two read one host** in the text of a site, where it is one. A text without one is passed
over for the next key. -/
theorem hosts_agree_iff (hlower : LowerCaseSites toLowerCase)
    (hu : asText (subject.getOpt "websiteDomain") = some u) :
    HostsAgree toLowerCase subject u ↔
      if trim u = [] then
        ∀ raw, firstString subject ["domain", "website", "url"] = some raw →
          ¬ (Readable toLowerCase raw ∧ DOMAIN_RE (trim (authority toLowerCase raw)) = true)
      else OneHost toLowerCase u := by
  have hfirst := firstString_site hu ["domain", "website", "url"]
  split
  · next hblank =>
    rw [if_pos hblank] at hfirst
    have hnot : ¬ DOMAIN_RE (normalizeDomain toLowerCase u) = true := by
      intro hdomain
      refine namesSite_ne_nil ((domain_normalizeDomain_iff toLowerCase u).mp hdomain) ?_
      have hnil : toLowerCase [] = [] := hlower.ascii [] fun c hc => absurd hc List.not_mem_nil
      rw [authority, address, hblank, hnil]
      rfl
    have hnone : HostsAgree toLowerCase subject u ↔
        ∀ i, ¬ (i ∈ extractClaimIndicators toLowerCase subject ∧ i.indicatorType = .domain) := by
      constructor
      · rintro ⟨hboth, -⟩ i hi
        exact hnot (hboth.mp ⟨i, hi⟩)
      · intro h
        exact ⟨iff_of_false (fun ⟨i, hi⟩ => h i hi) hnot,
          fun i hi htype => absurd ⟨hi, htype⟩ (h i)⟩
    rw [hnone]
    constructor
    · intro h raw hraw hreported
      have htrim := (trim_firstString hraw).1
      rw [← hfirst, ← htrim] at hraw
      exact h _ ((reported_iff hlower hraw _).mpr ⟨hreported, rfl⟩)
    · intro h i hi
      obtain ⟨raw, hraw, -⟩ := domainIndicator_iff.mp (domain_mem_iff.mp hi)
      have htrim := (trim_firstString hraw).1
      refine h raw (hfirst ▸ hraw) ((reported_iff hlower (by rwa [htrim]) i).mp hi).1
  · next hsome =>
    rw [if_neg hsome] at hfirst
    exact hosts_agree_text hlower hfirst

end Sites

/-! ## Sites in ASCII -/

namespace Sample

theorem lowerUnit_eq_iff_of_site {c d : CodeUnit} (h : isPathUnit c = true ∨ isLineEnd c = true) :
    lowerUnit d = c ↔ d = c := by
  simp only [isPathUnit, isLineEnd, Bool.or_eq_true, decide_eq_true_eq, Fin.ext_iff] at h
  simp only [Fin.ext_iff, val_lowerUnit]
  simp at h
  split <;> omega

theorem lowerCaseSites_lowerAscii : LowerCaseSites lowerAscii where
  toLowerCaseParts := IdentityGraph.lowerCaseParts_lowerAscii
  path a b c hc := by
    have hunit : lowerUnit c = c := (lowerUnit_eq_iff_of_site (.inl hc)).mpr rfl
    rw [lowerAscii, List.map_append, List.map_cons, hunit]
    rfl
  stays s c hc := by
    rw [lowerAscii, List.mem_map]
    constructor
    · rintro ⟨d, hd, heq⟩
      exact (lowerUnit_eq_iff_of_site hc).mp heq ▸ hd
    · exact fun h => ⟨c, h, (lowerUnit_eq_iff_of_site hc).mpr rfl⟩
  trim := lowerAscii_trim
  ascii s _ := rfl

def site (u : Text) : Value := .object [("websiteDomain", .string u)]

def login : Text := utf16 "HTTPS://www.Pay.Evil.example/login?to=me"

theorem login_reported : extractClaimIndicators lowerAscii (site login) =
    [⟨.domain, utf16 "www.pay.evil.example"⟩] := rfl

theorem hosts_agree_iff_login : OneHost lowerAscii login := by
  have hagree : HostsAgree lowerAscii (site login) login ↔ _ :=
    hosts_agree_iff lowerCaseSites_lowerAscii rfl
  rw [if_neg (by decide)] at hagree
  refine hagree.mp ⟨iff_of_true ⟨_, by rw [login_reported]; exact List.mem_cons_self, rfl⟩ ?_, ?_⟩
  · decide
  · intro i hi _
    rw [login_reported, List.mem_singleton] at hi
    rw [hi]
    decide

/-- A site with a port is stored without it, and not reported. -/
theorem port_not_reported :
    ¬ HostsAgree lowerAscii (site (utf16 "https://evil.example:8080/pay"))
      (utf16 "https://evil.example:8080/pay") := by
  rintro ⟨hboth, -⟩
  obtain ⟨i, hi, -⟩ := hboth.mpr (by decide)
  have hnone : extractClaimIndicators lowerAscii (site (utf16 "https://evil.example:8080/pay")) =
      [] := rfl
  rw [hnone] at hi
  cases hi

end Sample

end Checks
