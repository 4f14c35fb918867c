import Vigiscam.Clustering.Service
import Vigiscam.ScamSignals.Addresses

/-!
# One key for one host (`clustering.ts`)

A host is reported as a domain or within the address of a page. The key of its cluster is taken
from what is stored, which is normalized once more for it: a domain by `normalizeDomain` twice, an
address by `normalizeUrl` and then by `normalizeDomain`.

`same_key_iff` says for which texts the two come to one key. They do not where the text is a scheme
alone (`TwoKeys.scheme`), and where what a second round takes off the host is needed
(`Misread`): a `www.` before a single label, and blanks inside of a `www.` or of a dot.
-/

namespace Clustering

open Js ScamSignals
open IdentityGraph (trim_part)

/-! ## Roots -/

/-- The labels of a host. -/
def labels (host : Text) : List Text := (host.splitOn 0x2E).filter (· ≠ [])

/-- A host that has a root: two labels at least, and no blank. -/
def Rooted (host : Text) : Prop :=
  (∀ c ∈ host, isBlank c = false) ∧ 2 ≤ (labels host).length

instance (host : Text) : Decidable (Rooted host) :=
  inferInstanceAs (Decidable ((∀ c ∈ host, isBlank c = false) ∧ 2 ≤ (labels host).length))

/-- The last two labels. -/
def rootOf (host : Text) : Option Text :=
  if Rooted host then
    some ([(0x2E : CodeUnit)].intercalate ((labels host).drop ((labels host).length - 2)))
  else none

variable {toLowerCase : Text → Text} {x y z w s t b h h' : Text}

@[simp]
theorem labels_nil : labels [] = [] := rfl

/-- A dot stands between labels and belongs to none. -/
theorem labels_append_dot (s t : Text) : labels (s ++ 0x2E :: t) = labels s ++ labels t := by
  simp [labels, List.splitOn_append_cons_self]

theorem labels_www (s : Text) : labels (utf16 "www." ++ s) = utf16 "www" :: labels s := by
  have hsplit : utf16 "www." ++ s = utf16 "www" ++ 0x2E :: s := rfl
  rw [hsplit, labels_append_dot]
  rfl

theorem labels_concat_dot (s : Text) : labels (s ++ [0x2E]) = labels s := by
  rw [labels_append_dot, labels_nil, List.append_nil]

theorem labels_dropDot (s : Text) : labels (dropDot s) = labels s := by
  by_cases hdot : s.getLast? = some 0x2E
  · obtain ⟨t, rfl⟩ := List.getLast?_eq_some_iff.mp hdot
    rw [dropDot_concat, labels_concat_dot]
  · rw [dropDot_of_getLast? hdot]

/-- The dots at the end, which the root takes off. -/
def stripDots (s : Text) : Text := s.rdropWhile (· = 0x2E)

theorem exists_stripDots (s : Text) : ∃ n, s = stripDots s ++ List.replicate n 0x2E :=
  exists_rdropWhile 0x2E s

theorem labels_append_replicate (s : Text) (n : Nat) :
    labels (s ++ List.replicate n 0x2E) = labels s := by
  induction n with
  | zero => simp
  | succ n ih => rw [List.replicate_succ', ← List.append_assoc, labels_concat_dot, ih]

/-- The dots at the end make no difference to the root. -/
theorem rooted_stripDots : Rooted (stripDots s) ↔ Rooted s := by
  obtain ⟨n, hn⟩ := exists_stripDots s
  have hlabels : labels s = labels (stripDots s) := by
    rw [hn, labels_append_replicate, ← hn]
  have hblank : (∀ c ∈ s, isBlank c = false) ↔ ∀ c ∈ stripDots s, isBlank c = false := by
    constructor
    · exact fun h c hc => h c ((List.rdropWhile_prefix _ s).subset hc)
    · intro h c hc
      rw [hn] at hc
      rcases List.mem_append.mp hc with hc | hc
      · exact h c hc
      · rw [List.eq_of_mem_replicate hc]
        rfl
  rw [Rooted, Rooted, hlabels, hblank]

theorem domainRoot_eq (hlower : toLowerCase (trim x) = trim x) :
    domainRoot toLowerCase x = rootOf (trim x) := by
  have hclean : ((toLowerCase (trim x)).reverse.dropWhile (· = 0x2E)).reverse =
      stripDots (trim x) := by
    rw [hlower]
    rfl
  obtain ⟨n, hn⟩ := exists_stripDots (trim x)
  have hlabels : labels (trim x) = labels (stripDots (trim x)) := by
    rw [hn, labels_append_replicate, ← hn]
  rw [domainRoot, hclean, rootOf, hlabels]
  by_cases hrooted : Rooted (trim x)
  · obtain ⟨hblank, hcount⟩ := rooted_stripDots.mpr hrooted
    have hne : stripDots (trim x) ≠ [] := by
      intro hnil
      rw [hnil] at hcount
      simp at hcount
    have hany : (stripDots (trim x)).any isBlank = false := by
      simpa using hblank
    rw [if_neg (by simp [hne, hany]), if_pos hrooted]
    exact if_neg (Nat.not_lt.mpr hcount)
  · rw [if_neg hrooted]
    split
    · rfl
    · rename_i hclear
      refine if_pos ?_
      by_contra hcount
      refine hrooted (rooted_stripDots.mp ⟨?_, Nat.not_lt.mp hcount⟩)
      simpa using fun hany => hclear (Or.inr hany)

/-! ## Two rounds and one -/

/-- What a host is read as: without a dot after it and the blanks around. -/
def reading (s : Text) : Text := trim (dropDot s)

/-- What two rounds make of a host that one round reads as `y`, where both see the same dot (`once`)
or the second one finds another: a host with a root comes of one without, or the other way. -/
inductive Misread (once : Prop) (y : Text) : Prop where
  /-- `www.` stands before a single label, which has no root of its own. -/
  | label (z : Text) (hy : y = utf16 "www." ++ z) (hclear : ∀ c ∈ z, isBlank c = false)
      (hone : (labels z).length = 1)
  /-- Blanks stand between `www.` and a host. -/
  | start (b host : Text) (hy : y = utf16 "www." ++ b ++ host) (hne : b ≠ []) (hb : AllBlank b)
      (hhost : Rooted host)
  /-- Blanks stand between a host and the dot after it. -/
  | finish (lead host b : Text) (honce : once) (hy : y = lead ++ host ++ b ++ [0x2E]) (hne : b ≠ [])
      (hb : AllBlank b) (hhost : Rooted host)
      (hlead : (lead = [] ∧ ¬ utf16 "www." <+: host) ∨
        ∃ b', AllBlank b' ∧ lead = utf16 "www." ++ b')

theorem rootOf_of_not_rooted (h : ¬ Rooted x) : rootOf x = none := if_neg h

theorem rootOf_isSome_iff : (rootOf x).isSome = true ↔ Rooted x := by
  rw [rootOf]
  split <;> simp [*]

theorem not_rooted_of_blank {c : CodeUnit} (hc : c ∈ x) (hblank : isBlank c = true) :
    ¬ Rooted x := by
  intro h
  rw [h.1 c hc] at hblank
  cases hblank

theorem rootOf_congr (hblank : (∀ c ∈ x, isBlank c = false) ↔ ∀ c ∈ y, isBlank c = false)
    (hlabels : labels x = labels y) : rootOf x = rootOf y := by
  have hrooted : Rooted x ↔ Rooted y := by
    rw [Rooted, Rooted, hlabels, hblank]
  rw [rootOf, rootOf, hlabels]
  simp only [hrooted]

/-- Of a host without blanks, only the labels count. -/
theorem rootOf_reading (h : ∀ c ∈ x, isBlank c = false) : rootOf (reading x) = rootOf x := by
  have hdot : ∀ c ∈ dropDot x, isBlank c = false := fun c hc => h c ((dropDot_start x).subset hc)
  rw [reading, trim_of_not_blank hdot]
  exact rootOf_congr (iff_of_true hdot h) (labels_dropDot x)

/-- `www.` is a label before the others, and the root changes where there is just one. -/
theorem rootOf_www (h : ∀ c ∈ z, isBlank c = false) :
    rootOf (utf16 "www." ++ z) = rootOf z ↔ (labels z).length ≠ 1 := by
  have hwww : ∀ c ∈ utf16 "www." ++ z, isBlank c = false := by
    intro c hc
    rcases List.mem_append.mp hc with hc | hc
    · have hall : (utf16 "www.").all (!isBlank ·) = true := by decide
      simpa using List.all_eq_true.mp hall c hc
    · exact h c hc
  by_cases hcount : 2 ≤ (labels z).length
  · refine iff_of_true ?_ (by omega)
    have hleft : Rooted (utf16 "www." ++ z) := ⟨hwww, by rw [labels_www, List.length_cons]; omega⟩
    rw [rootOf, if_pos hleft, rootOf, if_pos ⟨h, hcount⟩, labels_www, List.length_cons]
    obtain ⟨n, hn⟩ := Nat.exists_eq_add_of_le hcount
    have hdrop : (labels z).length + 1 - 2 = (labels z).length - 2 + 1 := by omega
    rw [hdrop, List.drop_succ_cons]
  · have hright : ¬ Rooted z := fun hrooted => hcount hrooted.2
    rw [rootOf_of_not_rooted hright, ← Option.not_isSome_iff_eq_none, rootOf_isSome_iff, Rooted,
      labels_www, List.length_cons]
    constructor
    · intro hnot hone
      exact hnot ⟨hwww, by omega⟩
    · rintro hne ⟨-, hlen⟩
      omega

/-- A trimmed text is not changed where blanks and a dot are added and taken off again. -/
theorem reading_concat {b : Text} (htrim : trim y = y) (hb : AllBlank b) :
    reading (y ++ b ++ [0x2E]) = y := by
  have hbetween := trim_between  allBlank_nil hb htrim
  rw [reading, dropDot_concat]
  exact hbetween

theorem stripWww_append_of_www (t : Text) (h : utf16 "www." <+: s) :
    stripWww (s ++ t) = stripWww s ++ t := by
  obtain ⟨u, rfl⟩ := h
  rw [List.append_assoc, stripWww_append, stripWww_append]

theorem exists_rooted_of_trim (h : Rooted (trim s)) : ∃ b host b', AllBlank b ∧ AllBlank b' ∧
    Rooted host ∧ s = b ++ host ++ b' := by
  obtain ⟨b, b', hb, hb', hs⟩ := exists_trim s
  exact ⟨b, _, b', hb, hb', h, hs⟩

theorem Rooted.trim_eq {host b b' : Text} (h : Rooted host) (hb : AllBlank b) (hb' : AllBlank b') :
    trim (b ++ host ++ b') = host :=
  trim_between hb hb' (trim_of_not_blank h.1)

theorem rooted_concat_dot : Rooted (x ++ [0x2E]) ↔ Rooted x := by
  rw [Rooted, Rooted, labels_concat_dot]
  refine and_congr_left fun _ => ⟨fun h c hc => h c (List.mem_append_left _ hc), fun h c hc => ?_⟩
  rcases List.mem_append.mp hc with hc | hc
  · exact h c hc
  · rw [List.mem_singleton.mp hc]
    rfl

theorem Rooted.ne_nil (h : Rooted x) : x ≠ [] := by
  rintro rfl
  have hcount := h.2
  simp at hcount

theorem not_blank_www : ∀ c ∈ utf16 "www.", isBlank c = false := by
  have hall : (utf16 "www.").all (!isBlank ·) = true := by decide
  exact fun c hc => by simpa using List.all_eq_true.mp hall c hc

/-- Only `www` gets to `www.` by a dot after it. -/
theorem eq_www_of_append_dot {b : Text} (hb : AllBlank b) (hnot : ¬ utf16 "www." <+: y)
    (h : utf16 "www." <+: y ++ b ++ [0x2E]) : y = utf16 "www" ∧ b = [] := by
  rcases List.prefix_concat_iff.mp h with hall | hpre
  · have hall : utf16 "www" ++ [0x2E] = y ++ b ++ [0x2E] := hall
    obtain ⟨hwww, -⟩ := List.append_inj' hall rfl
    have hnil : b = [] := by
      rw [List.eq_nil_iff_forall_not_mem]
      intro c hc
      have hmem : c ∈ utf16 "www" := hwww ▸ List.mem_append_right y hc
      have hclear := not_blank_www c (List.mem_append_left [0x2E] hmem)
      rw [hb c hc] at hclear
      cases hclear
    rw [hnil, List.append_nil] at hwww
    exact ⟨hwww.symm, hnil⟩
  · exact absurd (prefix_of_append_blank not_blank_www hb hpre) hnot

/-! ### A host without blanks -/

theorem misread_clear_iff {once : Prop} (hclear : ∀ c ∈ y, isBlank c = false) :
    Misread once y ↔ ∃ z, y = utf16 "www." ++ z ∧ (labels z).length = 1 := by
  have hnone : ∀ b : Text, AllBlank b → b ≠ [] → ¬ b <:+: y := by
    intro b hb hne hpart
    obtain ⟨c, t, rfl⟩ := List.exists_cons_of_ne_nil hne
    have hc := hclear c (hpart.subset (List.mem_cons_self ..))
    rw [hb c (List.mem_cons_self ..)] at hc
    cases hc
  constructor
  · rintro (⟨z, hy, -, hone⟩ | ⟨b, host, rfl, hne, hb, -⟩ | ⟨lead, host, b, -, rfl, hne, hb, -, -⟩)
    · exact ⟨z, hy, hone⟩
    · exact absurd ⟨_, _, rfl⟩ (hnone b hb hne)
    · exact absurd ⟨_, _, rfl⟩ (hnone b hb hne)
  · rintro ⟨z, rfl, hone⟩
    exact .label z rfl (fun c hc => hclear c (List.mem_append_right _ hc)) hone

theorem second_clear_iff {once : Prop} (hclear : ∀ c ∈ y, isBlank c = false)
    (hx : x = y ∨ ∃ b, AllBlank b ∧ x = y ++ b ++ [0x2E]) :
    rootOf (reading (stripWww x)) = rootOf y ↔ ¬ Misread once y := by
  rw [misread_clear_iff hclear]
  by_cases hwww : utf16 "www." <+: y
  · have hstrip : rootOf (reading (stripWww x)) = rootOf (stripWww y) := by
      have hrest : ∀ c ∈ stripWww y, isBlank c = false := fun c hc =>
        hclear c ((stripWww_suffix y).subset hc)
      rcases hx with rfl | ⟨b, hb, rfl⟩
      · exact rootOf_reading hrest
      · rw [List.append_assoc, stripWww_append_of_www _ hwww, ← List.append_assoc,
          reading_concat (trim_of_not_blank hrest) hb]
    obtain ⟨z, rfl⟩ := hwww
    have hz : ∀ c ∈ z, isBlank c = false := fun c hc => hclear c (List.mem_append_right _ hc)
    rw [hstrip, stripWww_append, eq_comm, rootOf_www hz]
    refine not_congr ⟨fun hone => ⟨z, rfl, hone⟩, ?_⟩
    rintro ⟨z', hz', hone⟩
    rwa [List.append_cancel_left hz']
  · refine iff_of_true ?_ ?_
    · rcases hx with rfl | ⟨b, hb, rfl⟩
      · rw [stripWww_of_no_www hwww, rootOf_reading hclear]
      · by_cases hdot : utf16 "www." <+: y ++ b ++ [0x2E]
        · obtain ⟨rfl, rfl⟩ := eq_www_of_append_dot hb hwww hdot
          have hleft : ¬ Rooted (reading (stripWww (utf16 "www" ++ [] ++ [0x2E]))) := fun h =>
            h.ne_nil rfl
          have hright : ¬ Rooted (utf16 "www") := fun h => absurd h.2 (by decide)
          rw [rootOf_of_not_rooted hleft, rootOf_of_not_rooted hright]
        · rw [stripWww_of_no_www hdot, reading_concat (trim_of_not_blank hclear) hb]
    · rintro ⟨z, rfl, -⟩
      exact hwww (List.prefix_append _ z)

/-! ### A host with blanks -/

/-- No dot is taken off: blanks between `www.` and a host. -/
theorem rooted_trim_stripWww_iff {c : CodeUnit} (htrim : trim y = y) (hc : c ∈ y)
    (hblank : isBlank c = true) : Rooted (trim (stripWww y)) ↔
      ∃ b host, y = utf16 "www." ++ b ++ host ∧ b ≠ [] ∧ AllBlank b ∧ Rooted host := by
  constructor
  · intro h
    by_cases hwww : utf16 "www." <+: y
    · obtain ⟨q, rfl⟩ := hwww
      rw [stripWww_append] at h
      obtain ⟨b, host, b', hb, hb', hhost, rfl⟩ := exists_rooted_of_trim h
      have hend : b' = [] := by
        rcases List.eq_nil_or_concat b' with hnil | ⟨t, d, rfl⟩
        · exact hnil
        · have hd := (trim_eq_self_iff.mp htrim).2 d (by simp)
          rw [hb' d (by simp)] at hd
          cases hd
      subst hend
      refine ⟨b, host, by simp, ?_, hb, hhost⟩
      rintro rfl
      have hclear : isBlank c = false := by
        rcases List.mem_append.mp hc with hc | hc
        · exact not_blank_www c hc
        · exact hhost.1 c (by simpa using hc)
      rw [hclear] at hblank
      cases hblank
    · rw [stripWww_of_no_www hwww, htrim] at h
      exact absurd h (not_rooted_of_blank hc hblank)
  · rintro ⟨b, host, rfl, -, hb, hhost⟩
    rw [List.append_assoc, stripWww_append]
    have htrim := hhost.trim_eq hb allBlank_nil
    rw [List.append_nil] at htrim
    rwa [htrim]

theorem not_blank_www_append {host : Text} (h : ∀ c ∈ host, isBlank c = false) :
    ∀ c ∈ utf16 "www." ++ host, isBlank c = false := by
  intro c hc
  rcases List.mem_append.mp hc with hc | hc
  · exact not_blank_www c hc
  · exact h c hc

theorem getLast?_stripWww (h : s.getLast? ≠ some 0x2E) : (stripWww s).getLast? ≠ some 0x2E := by
  intro hlast
  obtain ⟨t, ht⟩ := List.getLast?_eq_some_iff.mp hlast
  obtain ⟨u, hu⟩ := stripWww_suffix s
  refine h ?_
  rw [← hu, ht, ← List.append_assoc, List.getLast?_concat]

/-- A dot is taken off, and blanks before it, or between `www.` and a host. -/
theorem misread_of_rooted {p : Text} {c : CodeUnit} (htrim : trim (p ++ [0x2E]) = p ++ [0x2E])
    (hc : c ∈ p) (hblank : isBlank c = true) (h : Rooted (trim (stripWww p))) :
    Misread True (p ++ [0x2E]) := by
  have hnot : ¬ ∀ c ∈ p, isBlank c = false := by
    intro hclear
    rw [hclear c hc] at hblank
    cases hblank
  obtain ⟨b, host, b', hb, hb', hhost, hsplit⟩ := exists_rooted_of_trim h
  by_cases hwww : utf16 "www." <+: p
  · obtain ⟨q, rfl⟩ := hwww
    rw [stripWww_append] at hsplit
    subst hsplit
    by_cases hend : b' = []
    · subst hend
      refine .start b (host ++ [0x2E]) (by simp) ?_ hb (rooted_concat_dot.mpr hhost)
      rintro rfl
      exact hnot (not_blank_www_append (by simpa using hhost.1))
    · exact .finish (utf16 "www." ++ b) host b' trivial (by simp) hend hb' hhost
        (.inr ⟨b, hb, rfl⟩)
  · rw [stripWww_of_no_www hwww] at hsplit
    subst hsplit
    have hstart : b = [] := by
      cases b with
      | nil => rfl
      | cons d b =>
        have hd := (trim_eq_self_iff.mp htrim).1 d rfl
        rw [hb d (List.mem_cons_self ..)] at hd
        cases hd
    subst hstart
    refine .finish [] host b' trivial (by simp) ?_ hb' hhost (.inl ⟨rfl, fun h => hwww ?_⟩)
    · rintro rfl
      exact hnot (by simpa using hhost.1)
    · simpa using h.trans (List.prefix_append host b')

theorem rooted_of_misread {p : Text} {c : CodeUnit} (hc : c ∈ p) (hblank : isBlank c = true)
    (h : Misread True (p ++ [0x2E])) : Rooted (trim (stripWww p)) := by
  cases h with
  | label z hy hclear =>
    have hc' := not_blank_www_append hclear c (hy ▸ List.mem_append_left _ hc)
    rw [hc'] at hblank
    cases hblank
  | start b host hy hne hb hhost =>
    obtain ⟨host', d, rfl⟩ := (List.eq_nil_or_concat host).resolve_left hhost.ne_nil
    rw [List.concat_eq_append] at hy hhost
    rw [← List.append_assoc] at hy
    obtain ⟨rfl, hd⟩ := List.append_inj' hy rfl
    cases hd
    have hhost' := rooted_concat_dot.mp hhost
    have htrim := hhost'.trim_eq hb allBlank_nil
    rw [List.append_nil] at htrim
    rwa [List.append_assoc, stripWww_append, htrim]
  | finish lead host b _ hy hne hb hhost hlead =>
    obtain ⟨rfl, -⟩ := List.append_inj' hy rfl
    rcases hlead with ⟨rfl, hno⟩ | ⟨b', hb', rfl⟩
    · have hno' : ¬ utf16 "www." <+: host ++ b := fun h =>
        hno (prefix_of_append_blank not_blank_www hb h)
      have htrim := hhost.trim_eq allBlank_nil hb
      rw [List.nil_append] at htrim ⊢
      rwa [stripWww_of_no_www hno', htrim]
    · rwa [List.append_assoc, List.append_assoc, stripWww_append, ← List.append_assoc,
        hhost.trim_eq hb' hb]

theorem rooted_reading_stripWww_iff {c : CodeUnit} (htrim : trim y = y) (hc : c ∈ y)
    (hblank : isBlank c = true) : Rooted (reading (stripWww y)) ↔ Misread True y := by
  by_cases hdot : y.getLast? = some 0x2E
  · obtain ⟨p, rfl⟩ := List.getLast?_eq_some_iff.mp hdot
    have hcp : c ∈ p := by
      rcases List.mem_append.mp hc with hcp | hcp
      · exact hcp
      · rw [List.mem_singleton.mp hcp] at hblank
        cases hblank
    have hstrip : stripWww (p ++ [0x2E]) = stripWww p ++ [0x2E] := by
      by_cases hwww : utf16 "www." <+: p
      · exact stripWww_append_of_www _ hwww
      · rw [stripWww_of_no_www hwww, stripWww_of_no_www]
        intro h
        obtain ⟨rfl, -⟩ := eq_www_of_append_dot  allBlank_nil hwww (by simpa using h)
        rw [not_blank_www c (List.mem_append_left [0x2E] hcp)] at hblank
        cases hblank
    rw [reading, hstrip, dropDot_concat]
    exact ⟨misread_of_rooted htrim hcp hblank, rooted_of_misread hcp hblank⟩
  · rw [reading, dropDot_of_getLast? (getLast?_stripWww hdot),
      rooted_trim_stripWww_iff htrim hc hblank]
    constructor
    · rintro ⟨b, host, hy, hne, hb, hhost⟩
      exact .start b host hy hne hb hhost
    · intro h
      cases h with
      | label z hy hclear =>
        subst hy
        rw [not_blank_www_append hclear c hc] at hblank
        cases hblank
      | start b host hy hne hb hhost => exact ⟨b, host, hy, hne, hb, hhost⟩
      | finish lead host b _ hy =>
        subst hy
        exact absurd (List.getLast?_concat ..) hdot

/-- Two rounds and one come to the same root exactly where nothing is misread. -/
theorem second_iff {once : Prop} (htrim : trim y = y) (honce : once → x = y)
    (hother : ¬ once → x = [] ∧ y = [] ∨ ∃ b, AllBlank b ∧ x = y ++ b ++ [0x2E]) :
    rootOf (reading (stripWww x)) = rootOf y ↔ ¬ Misread once y := by
  by_cases hclear : ∀ c ∈ y, isBlank c = false
  · refine second_clear_iff hclear ?_
    by_cases h : once
    · exact .inl (honce h)
    · rcases hother h with ⟨rfl, rfl⟩ | hdot
      · exact .inl rfl
      · exact .inr hdot
  · simp only [not_forall, Bool.not_eq_false] at hclear
    obtain ⟨c, hc, hblank⟩ := hclear
    rw [rootOf_of_not_rooted (not_rooted_of_blank hc hblank), ← Option.not_isSome_iff_eq_none,
      rootOf_isSome_iff, not_iff_not]
    by_cases h : once
    · rw [honce h, rooted_reading_stripWww_iff htrim hc hblank]
      simp only [h]
    · rcases hother h with ⟨-, rfl⟩ | ⟨b, hb, rfl⟩
      · cases hc
      · have hstrip : stripWww (y ++ b ++ [0x2E]) = stripWww y ++ b ++ [0x2E] := by
          by_cases hwww : utf16 "www." <+: y
          · rw [List.append_assoc, stripWww_append_of_www _ hwww, ← List.append_assoc]
          · rw [stripWww_of_no_www hwww, stripWww_of_no_www]
            intro hdot
            obtain ⟨rfl, -⟩ := eq_www_of_append_dot hb hwww hdot
            rw [not_blank_www c (List.mem_append_left [0x2E] hc)] at hblank
            cases hblank
        rw [reading, hstrip, dropDot_concat, trim_append_blank hb,
          rooted_trim_stripWww_iff htrim hc hblank]
        constructor
        · rintro ⟨b, host, hy, hne, hb, hhost⟩
          exact .start b host hy hne hb hhost
        · intro hmisread
          cases hmisread with
          | label z hy hclear =>
            subst hy
            rw [not_blank_www_append hclear c hc] at hblank
            cases hblank
          | start b host hy hne hb hhost => exact ⟨b, host, hy, hne, hb, hhost⟩
          | finish lead host b honce => exact absurd honce h

/-! ## The keys -/

/-- The dot after the host, if any, is found by both: no blanks are cut off behind it in the address
only. -/
def SameDot (w : Text) : Prop :=
  ¬ (hostPart w ≠ addressHost w ∧ (addressHost w).getLast? = some 0x2E)

/-- A text in lower case comes to two keys. -/
inductive TwoKeys (w : Text) : Prop where
  /-- A scheme alone that would be a host. -/
  | scheme (name : Text) (h : SchemeOnly w name) (hlabels : 2 ≤ (labels (stripWww name)).length)
  | host (h : ∀ name, ¬ SchemeOnly w name)
      (hmisread : Misread (SameDot w) (reading (stripWww (addressHost w))))

theorem stripWww_append_blank (hb : AllBlank b) (s : Text) :
    stripWww (s ++ b) = stripWww s ++ b := by
  by_cases hwww : utf16 "www." <+: s
  · exact stripWww_append_of_www b hwww
  · rw [stripWww_of_no_www hwww, stripWww_of_no_www fun h =>
      hwww (prefix_of_append_blank not_blank_www hb h)]

theorem dropDot_append_blank (hne : b ≠ []) (hb : AllBlank b) (s : Text) :
    dropDot (s ++ b) = s ++ b := by
  refine dropDot_of_getLast? fun hlast => ?_
  rw [List.getLast?_append_of_ne_nil _ hne] at hlast
  have hdot := hb _ (List.mem_of_getLast? hlast)
  cases hdot

/-- A dot after a host and blanks. -/
theorem exists_trim_concat_dot (s : Text) :
    ∃ b, AllBlank b ∧ trim (s ++ [0x2E]) = trim s ++ b ++ [0x2E] := by
  obtain ⟨b, b', hb, hb', hs⟩ := exists_trim s
  by_cases hnil : trim s = []
  · refine ⟨[], allBlank_nil, ?_⟩
    have hall : AllBlank s := by
      rw [hs, hnil, List.append_nil]
      exact fun c hc => (List.mem_append.mp hc).elim (hb c) (hb' c)
    have hdot := trim_between hall allBlank_nil (trim_of_not_blank (s := [0x2E]) (by simp; rfl))
    rw [List.append_nil] at hdot
    rw [hdot, hnil]
    rfl
  · refine ⟨b', hb', ?_⟩
    have hedges : trim (trim s ++ b' ++ [0x2E]) = trim s ++ b' ++ [0x2E] := by
      rw [trim_eq_self_iff]
      constructor
      · intro c hc
        obtain ⟨d, t, hcons⟩ := List.exists_cons_of_ne_nil hnil
        refine (trim_eq_self_iff.mp (trim_trim s)).1 c ?_
        rw [hcons] at hc ⊢
        exact hc
      · intro c hc
        rw [List.getLast?_concat, Option.mem_some_iff] at hc
        rw [← hc]
        rfl
    have hbetween := trim_between hb allBlank_nil hedges
    rw [List.append_nil] at hbetween
    calc trim (s ++ [0x2E]) = trim (b ++ (trim s ++ b' ++ [0x2E])) := by
          rw [congrArg (· ++ [0x2E]) hs]
          simp only [List.append_assoc]
      _ = trim s ++ b' ++ [0x2E] := hbetween

/-- What the two read of one host. -/
theorem readings (hb : AllBlank b) (hhost : hostPart w = addressHost w ++ b) :
    (SameDot w → reading (stripWww (hostPart w)) = reading (stripWww (addressHost w))) ∧
      (¬ SameDot w →
        reading (stripWww (hostPart w)) = [] ∧ reading (stripWww (addressHost w)) = [] ∨
        ∃ b, AllBlank b ∧ reading (stripWww (hostPart w)) =
          reading (stripWww (addressHost w)) ++ b ++ [0x2E]) := by
  rw [hhost, stripWww_append_blank hb]
  by_cases hnil : b = []
  · have hsame : SameDot w := fun h => h.1 (by rw [hhost, hnil, List.append_nil])
    exact ⟨fun _ => by rw [hnil, List.append_nil], fun h => absurd hsame h⟩
  · rw [reading, dropDot_append_blank hnil hb, trim_append_blank hb]
    constructor
    · intro hsame
      have hdot : (addressHost w).getLast? ≠ some 0x2E := fun hlast => by
        refine hsame ⟨fun h => hnil ?_, hlast⟩
        rwa [hhost, List.append_right_eq_self] at h
      rw [reading, dropDot_of_getLast? (getLast?_stripWww hdot)]
    · intro hother
      by_cases hlast : (stripWww (addressHost w)).getLast? = some 0x2E
      · obtain ⟨s, hs⟩ := List.getLast?_eq_some_iff.mp hlast
        rw [reading, hs, dropDot_concat]
        exact .inr (exists_trim_concat_dot s)
      · obtain ⟨-, hdot⟩ := not_not.mp hother
        have hrest : stripWww (addressHost w) = [] := by
          by_cases hwww : utf16 "www." <+: addressHost w
          · obtain ⟨z, hz⟩ := hwww
            rw [← hz, stripWww_append] at hlast ⊢
            by_contra hz'
            rw [← hz, List.getLast?_append_of_ne_nil _ hz'] at hdot
            exact hlast hdot
          · rw [stripWww_of_no_www hwww] at hlast
            exact absurd hdot hlast
        rw [hrest]
        exact .inl ⟨rfl, rfl⟩

/-- The root of what is stored, which is normalized once more. -/
theorem root_of_part (hlower : LowerCaseEdges toLowerCase) (hpart : x <:+: toLowerCase t) :
    domainRoot toLowerCase (normalizeDomain toLowerCase x) =
      rootOf (reading (stripWww (hostPart (trim x)))) := by
  have hsame : toLowerCase (trim x) = trim x := hlower.part t _ ((trim_part x).trans hpart)
  have hsecond : normalizeDomain toLowerCase x <:+: x := by
    refine (normalizeDomain_part toLowerCase x).trans ((hostPart_part _).trans ?_)
    rw [hsame]
    exact trim_part x
  rw [domainRoot_eq (hlower.part t _ ((trim_part _).trans (hsecond.trans hpart))),
    normalizeDomain_eq, hsame]
  rfl

theorem root_of_domain (hlower : LowerCaseEdges toLowerCase) (u : Text) :
    domainRoot toLowerCase (normalizeDomain toLowerCase (normalizeDomain toLowerCase u)) =
      rootOf (reading (stripWww (reading (stripWww (hostPart (toLowerCase (trim u))))))) := by
  have hpart := normalizeDomain_part toLowerCase u
  rw [root_of_part hlower (hpart.trans (hostPart_part _)), hostPart_of_plain]
  · rfl
  · exact fun c hc => not_separator_hostPart (hpart.subset ((trim_part _).subset hc))

theorem root_of_url (hlower : LowerCaseEdges toLowerCase) (u : Text) :
    domainRoot toLowerCase (normalizeDomain toLowerCase (normalizeUrl toLowerCase u)) =
      rootOf (reading (stripWww (addressHost (toLowerCase (trim u))))) := by
  have hpart : normalizeUrl toLowerCase u <:+: toLowerCase (trim u) :=
    (List.rdropWhile_prefix _ _).isInfix
  exact root_of_part hlower hpart

theorem deriveClusterKey_eq_iff (a b : Text) :
    deriveClusterKey toLowerCase .domain a = deriveClusterKey toLowerCase .url b ↔
      domainRoot toLowerCase (normalizeDomain toLowerCase a) =
        domainRoot toLowerCase (normalizeDomain toLowerCase b) := by
  refine ⟨fun h => ?_, fun h => by simp only [deriveClusterKey, h]⟩
  refine Option.map_injective (fun root root' heq => ?_) h
  exact List.append_cancel_left (congrArg DerivedClusterKey.key heq)

/-- **When a host has one key**: reported as a domain and as an address, a text comes to the same
key of a cluster, or to none both times, exactly where it does not come to two. -/
theorem same_key_iff (toLowerCase : Text → Text) (hlower : LowerCaseEdges toLowerCase) (u : Text) :
    deriveClusterKey toLowerCase .domain (normalizeIndicator toLowerCase .domain u) =
      deriveClusterKey toLowerCase .url (normalizeIndicator toLowerCase .url u) ↔
        ¬ TwoKeys (toLowerCase (trim u)) := by
  rw [deriveClusterKey_eq_iff]
  show domainRoot toLowerCase (normalizeDomain toLowerCase (normalizeDomain toLowerCase u)) =
    domainRoot toLowerCase (normalizeDomain toLowerCase (normalizeUrl toLowerCase u)) ↔ _
  rw [root_of_domain hlower, root_of_url hlower]
  have hedges := hlower.trimmed _ (trim_trim u)
  generalize toLowerCase (trim u) = w at hedges ⊢
  by_cases hscheme : ∃ name, SchemeOnly w name
  · obtain ⟨name, hname⟩ := hscheme
    obtain ⟨hhost, haddress⟩ := hname.hosts
    have hclear : ∀ c ∈ stripWww name, isBlank c = false := fun c hc =>
      (isSchemeUnit_spec (hname.1.2 c ((stripWww_suffix name).subset hc))).1
    have hnone : rootOf (reading (stripWww (reading (stripWww [])))) = none :=
      rootOf_of_not_rooted fun h => h.ne_nil rfl
    rw [hhost, haddress, hnone, rootOf_reading hclear, eq_comm, ← Option.not_isSome_iff_eq_none,
      rootOf_isSome_iff, not_iff_not]
    constructor
    · exact fun h => .scheme name hname h.2
    · intro h
      cases h with
      | scheme name' hname' hlabels =>
        rw [← haddress, hname'.hosts.2]
        rw [← haddress, hname'.hosts.2] at hclear
        exact ⟨hclear, hlabels⟩
      | host hnot => exact absurd hname (hnot name)
  · have hnot : ∀ name, ¬ SchemeOnly w name := not_exists.mp hscheme
    obtain ⟨b, hb, hhost⟩ := hostPart_addressHost hedges hnot
    obtain ⟨hsame, hother⟩ := readings hb hhost
    have htrim : trim (reading (stripWww (addressHost w))) = reading (stripWww (addressHost w)) :=
      trim_trim _
    rw [second_iff htrim hsame hother, not_iff_not]
    constructor
    · exact .host hnot
    · intro h
      cases h with
      | scheme name hname => exact absurd hname (hnot name)
      | host _ hmisread => exact hmisread

/-- A page of a shop, with port, path and `www.`. -/
theorem same_key_iff_page :
    deriveClusterKey lowerAscii .domain (normalizeIndicator lowerAscii .domain
      (utf16 "HTTPS://www.Pay.Evil.com:8443/login/")) =
      deriveClusterKey lowerAscii .url (normalizeIndicator lowerAscii .url
        (utf16 "HTTPS://www.Pay.Evil.com:8443/login/")) ↔
        ¬ TwoKeys (lowerAscii (trim (utf16 "HTTPS://www.Pay.Evil.com:8443/login/"))) :=
  same_key_iff lowerAscii lowerCaseEdges_lowerAscii _

/-- **A host that is no domain**: `www.www.com` has a cluster as an address, and none as a
domain. -/
theorem second_www_unclustered :
    deriveClusterKey lowerAscii .domain (normalizeIndicator lowerAscii .domain
      (utf16 "www.www.com")) = none ∧
      (deriveClusterKey lowerAscii .url (normalizeIndicator lowerAscii .url
        (utf16 "www.www.com"))).map (·.key) = some (utf16 "domain-root:www.com") ∧
      ¬ ∀ u, deriveClusterKey lowerAscii .domain (normalizeIndicator lowerAscii .domain u) =
        deriveClusterKey lowerAscii .url (normalizeIndicator lowerAscii .url u) := by
  have hdomain : (deriveClusterKey lowerAscii .domain (normalizeIndicator lowerAscii .domain
      (utf16 "www.www.com"))).map (·.key) = none := by decide
  have hurl : (deriveClusterKey lowerAscii .url (normalizeIndicator lowerAscii .url
      (utf16 "www.www.com"))).map (·.key) = some (utf16 "domain-root:www.com") := by decide
  refine ⟨Option.map_eq_none_iff.mp hdomain, hurl, fun h => ?_⟩
  have hkeys := congrArg (Option.map (·.key)) (h (utf16 "www.www.com"))
  rw [hdomain, hurl] at hkeys
  cases hkeys

end Clustering
