import Vigiscam.ScamSignals.Idempotence

/-!
# The host in an address (`normalization.ts`)

`normalizeUrl` cuts the slashes off an address before its host is looked for. The host is that of
the whole address but for the blanks at its end (`hostPart_addressHost`), unless nothing but slashes
follows the scheme (`SchemeOnly`): then the scheme is taken for the host.
-/

open Js

namespace ScamSignals

open IdentityGraph (trim_part)

/-- `[a-z][a-z0-9+.-]*` -/
def IsScheme (name : Text) : Prop :=
  (∃ c ∈ name.head?, isLowerLetter c = true) ∧ ∀ c ∈ name, isSchemeUnit c = true

/-- Nothing but slashes follows the scheme. -/
def SchemeOnly (w name : Text) : Prop :=
  IsScheme name ∧ ∃ n, w = name ++ 0x3A :: List.replicate (n + 2) 0x2F

/-- The host of an address, without the slashes and the blanks at its end. -/
def addressHost (w : Text) : Text := hostPart (trim (stripSlashes w))

variable {name rest s t w b : Text} {c x : CodeUnit}

/-! ## Schemes -/

theorem isSchemeUnit_spec (h : isSchemeUnit c = true) :
    isBlank c = false ∧ isSeparator c = false := by
  simp only [isSchemeUnit, isLowerLetter, Bool.or_eq_true, Bool.and_eq_true,
    decide_eq_true_eq] at h
  simp [isDigit, Fin.le_def, Fin.ext_iff] at h
  simp [isBlank, isSeparator, Fin.le_def, Fin.ext_iff]
  omega

theorem stripScheme_append (hname : IsScheme name) (rest : Text) :
    stripScheme (name ++ utf16 "://" ++ rest) = rest := by
  obtain ⟨⟨c, hc, hletter⟩, hunits⟩ := hname
  obtain ⟨name, rfl⟩ := List.head?_eq_some_iff.mp hc
  have hdrop : (name ++ utf16 "://" ++ rest).dropWhile isSchemeUnit = utf16 "://" ++ rest := by
    rw [List.append_assoc,
      List.dropWhile_append_of_pos fun d hd => hunits d (List.mem_cons_of_mem c hd)]
    exact List.dropWhile_cons_of_neg (by decide)
  show stripScheme (c :: (name ++ utf16 "://" ++ rest)) = rest
  rw [stripScheme, hdrop, hletter]
  rfl

/-- A scheme is taken off, or there is none. -/
theorem stripScheme_cases (s : Text) :
    stripScheme s = s ∨ ∃ name rest, IsScheme name ∧ s = name ++ utf16 "://" ++ rest := by
  cases s with
  | nil => exact .inl rfl
  | cons c s =>
    rw [stripScheme]
    split
    · rename_i hmatch
      rw [Bool.and_eq_true, List.isPrefixOf_iff_prefix] at hmatch
      obtain ⟨hletter, rest, hrest⟩ := hmatch
      refine .inr ⟨c :: s.takeWhile isSchemeUnit, rest, ⟨⟨c, rfl, hletter⟩, fun d hd => ?_⟩, ?_⟩
      · rcases List.mem_cons.mp hd with rfl | hd
        · simp [isSchemeUnit, hletter]
        · exact List.mem_takeWhile_imp hd
      · rw [List.append_assoc, hrest, List.cons_append, List.takeWhile_append_dropWhile]
    · exact .inl rfl

theorem not_blank_scheme (hname : IsScheme name) :
    ∀ c ∈ name ++ utf16 "://", isBlank c = false := by
  intro c hc
  rcases List.mem_append.mp hc with hc | hc
  · exact (isSchemeUnit_spec (hname.2 c hc)).1
  · have hall : (utf16 "://").all (!isBlank ·) = true := by decide
    simpa using List.all_eq_true.mp hall c hc

/-! ## Blanks at the end -/

theorem stripScheme_append_blank (hb : AllBlank b) (s : Text) :
    stripScheme (s ++ b) = stripScheme s ++ b := by
  have hmatch : ∀ name rest, IsScheme name → s = name ++ utf16 "://" ++ rest →
      stripScheme (s ++ b) = stripScheme s ++ b := by
    rintro name rest hname rfl
    rw [stripScheme_append hname, List.append_assoc, stripScheme_append hname]
  rcases stripScheme_cases s with hs | ⟨name, rest, hname, hs⟩
  · rcases stripScheme_cases (s ++ b) with hsb | ⟨name, rest, hname, hsb⟩
    · rw [hs, hsb]
    · obtain ⟨rest', hrest'⟩ := prefix_of_append_blank (not_blank_scheme hname) hb
        ⟨rest, hsb.symm⟩
      exact hmatch name rest' hname hrest'.symm
  · exact hmatch name rest hname hs

theorem before_append (x : CodeUnit) (s t : Text) :
    before x (s ++ t) = if x ∈ s then before x s else s ++ before x t := by
  rw [before, List.takeWhile_append]
  by_cases hx : x ∈ s
  · rw [if_pos hx, if_neg]
    · rfl
    · intro hlength
      have hall := (List.takeWhile_prefix fun c => decide (c ≠ x)).eq_of_length hlength
      have hne := List.takeWhile_eq_self_iff.mp hall x hx
      simp at hne
  · have hall : s.takeWhile (fun c => decide (c ≠ x)) = s := before_of_notMem hx
    rw [if_neg hx, hall, if_pos rfl]
    rfl

theorem before_append_blank (hx : isBlank x = false) (hb : AllBlank b) (s : Text) :
    before x (s ++ b) = before x s ∨ before x (s ++ b) = before x s ++ b := by
  have hnot : x ∉ b := fun hmem => by
    rw [hb x hmem] at hx
    cases hx
  rw [before_append]
  split
  · exact .inl rfl
  · rename_i hs
    rw [before_of_notMem hnot, before_of_notMem hs]
    exact .inr rfl

theorem afterLast_append_blank (hx : isBlank x = false) (hb : AllBlank b) (s : Text) :
    afterLast x (s ++ b) = afterLast x s ++ b := by
  have hall : ∀ c ∈ b.reverse, decide (c ≠ x) = true := by
    intro c hc
    rw [decide_eq_true_eq]
    rintro rfl
    rw [hb c (List.mem_reverse.mp hc)] at hx
    cases hx
  rw [afterLast, List.reverse_append, List.takeWhile_append_of_pos hall, List.reverse_append,
    List.reverse_reverse]
  rfl

/-- Blanks at the end of a text are at the end of its host, or not in it. -/
theorem hostPart_append_blank (hb : AllBlank b) (s : Text) :
    hostPart (s ++ b) = hostPart s ∨ hostPart (s ++ b) = hostPart s ++ b := by
  have hcut : ∀ {x : CodeUnit} {u v : Text}, isBlank x = false → v = u ∨ v = u ++ b →
      before x v = before x u ∨ before x v = before x u ++ b := by
    rintro x u v hx (rfl | rfl)
    · exact .inl rfl
    · exact before_append_blank hx hb u
  have hafter : ∀ {u v : Text}, v = u ∨ v = u ++ b →
      afterLast 0x40 v = afterLast 0x40 u ∨ afterLast 0x40 v = afterLast 0x40 u ++ b := by
    rintro u v (rfl | rfl)
    · exact .inl rfl
    · exact .inr (afterLast_append_blank (by decide) hb u)
  refine hcut (by decide) (hafter (hcut (by decide) (hcut (by decide) (hcut (by decide) ?_))))
  exact .inr (stripScheme_append_blank hb s)

/-! ## Slashes at the end -/

theorem exists_stripSlashes (s : Text) : ∃ n, s = stripSlashes s ++ List.replicate n 0x2F :=
  exists_rdropWhile 0x2F s

theorem stripSlashes_append_replicate (s : Text) (n : Nat) :
    stripSlashes (s ++ List.replicate n 0x2F) = stripSlashes s := by
  induction n with
  | zero => simp
  | succ n ih =>
    rw [List.replicate_succ', ← List.append_assoc, stripSlashes,
      List.rdropWhile_concat_pos _ _ _ (by simp)]
    exact ih

theorem stripSlashes_of_getLast? (h : s.getLast? ≠ some 0x2F) : stripSlashes s = s := by
  rw [stripSlashes, List.rdropWhile_eq_self_iff]
  intro hne hlast
  rw [List.getLast?_eq_some_getLast hne] at h
  exact h (congrArg some (by simpa using hlast))

theorem getLast?_stripSlashes (s : Text) : (stripSlashes s).getLast? ≠ some 0x2F := by
  intro h
  obtain ⟨t, ht⟩ := List.getLast?_eq_some_iff.mp h
  have hne : s.rdropWhile (· = 0x2F) ≠ [] := by
    intro hnil
    rw [stripSlashes, hnil] at ht
    simp at ht
  have hnot := List.rdropWhile_last_not (· = 0x2F) s hne
  rw [stripSlashes] at h
  rw [List.getLast?_eq_some_getLast hne, Option.some_inj] at h
  simp [h] at hnot

theorem before_stripSlashes (s : Text) : before 0x2F (stripSlashes s) = before 0x2F s := by
  obtain ⟨n, hn⟩ := exists_stripSlashes s
  have hnone : before 0x2F (List.replicate n 0x2F) = [] := by
    cases n <;> rfl
  rw [congrArg (before 0x2F) hn, before_append, hnone, List.append_nil]
  split
  · rfl
  · rename_i hmem
    exact before_of_notMem hmem

theorem stripScheme_stripSlashes (h : ∀ name, ¬ SchemeOnly w name) :
    stripScheme (stripSlashes w) = stripSlashes (stripScheme w) := by
  rcases stripScheme_cases w with hw | ⟨name, rest, hname, rfl⟩
  · rcases stripScheme_cases (stripSlashes w) with hs | ⟨name, rest, hname, hs⟩
    · rw [hs, hw]
    · -- a scheme at the start of a part is at the start of the whole
      obtain ⟨n, hn⟩ := exists_stripSlashes w
      rw [hs, List.append_assoc] at hn
      rw [hs, stripScheme_append hname, hn, stripScheme_append hname,
        stripSlashes_append_replicate, stripSlashes_of_getLast?]
      intro hlast
      refine getLast?_stripSlashes w ?_
      rw [hs, List.getLast?_append, hlast]
      rfl
  · rw [stripScheme_append hname]
    obtain ⟨n, hn⟩ := exists_stripSlashes rest
    by_cases hnil : stripSlashes rest = []
    · rw [hnil, List.nil_append] at hn
      exact absurd ⟨hname, n, by rw [hn]; simp [utf16, unitsOf, List.replicate_succ]⟩ (h name)
    · have hend : (name ++ utf16 "://" ++ stripSlashes rest).getLast? ≠ some 0x2F := by
        rw [List.getLast?_append_of_ne_nil _ hnil]
        exact getLast?_stripSlashes rest
      have hall : stripSlashes (name ++ utf16 "://" ++ rest) =
          name ++ utf16 "://" ++ stripSlashes rest := by
        rw [congrArg (name ++ utf16 "://" ++ ·) hn, ← List.append_assoc,
          stripSlashes_append_replicate, stripSlashes_of_getLast? hend]
      rw [hall, stripScheme_append hname]

/-- The host of a text is that of its address, and blanks after it. -/
theorem hostPart_addressHost (htrim : trim w = w) (h : ∀ name, ¬ SchemeOnly w name) :
    ∃ b, AllBlank b ∧ hostPart w = addressHost w ++ b := by
  have hslashes : hostPart (stripSlashes w) = hostPart w := by
    rw [hostPart, stripScheme_stripSlashes h, before_stripSlashes]
    rfl
  obtain ⟨b, b', hb, hb', hs⟩ := exists_trim (stripSlashes w)
  have hstart : b = [] := by
    cases b with
    | nil => rfl
    | cons c b =>
      obtain ⟨n, hn⟩ := exists_stripSlashes w
      rw [hs] at hn
      have hc := (trim_eq_self_iff.mp htrim).1 c (by rw [hn]; rfl)
      rw [hb c (List.mem_cons_self ..)] at hc
      cases hc
  rw [hstart, List.nil_append] at hs
  rw [← hslashes, hs]
  rcases hostPart_append_blank hb' (trim (stripSlashes w)) with hhost | hhost
  · exact ⟨[], allBlank_nil, by rw [hhost, List.append_nil]; rfl⟩
  · exact ⟨b', hb', hhost⟩

/-- A scheme alone is no host, but it is taken for one in an address. -/
theorem SchemeOnly.hosts (h : SchemeOnly w name) : hostPart w = [] ∧ addressHost w = name := by
  obtain ⟨hname, n, rfl⟩ := h
  have hnot : ∀ x : CodeUnit, isSeparator x = true → x ∉ name := fun x hx hmem => by
    rw [(isSchemeUnit_spec (hname.2 x hmem)).2] at hx
    cases hx
  have hsplit : name ++ 0x3A :: List.replicate (n + 2) 0x2F =
      name ++ utf16 "://" ++ List.replicate n 0x2F := by
    simp [utf16, unitsOf, List.replicate_succ]
  constructor
  · rw [hsplit, hostPart, stripScheme_append hname]
    cases n <;> rfl
  · have hslashes : stripSlashes (name ++ 0x3A :: List.replicate (n + 2) 0x2F) =
        name ++ [0x3A] := by
      rw [List.append_cons, stripSlashes_append_replicate, stripSlashes_of_getLast? (by simp)]
    have hclear : ∀ c ∈ name ++ [0x3A], isBlank c = false := fun c hc => by
      rcases List.mem_append.mp hc with hc | hc
      · exact (isSchemeUnit_spec (hname.2 c hc)).1
      · rw [List.mem_singleton.mp hc]
        rfl
    have hno : ∀ x : CodeUnit, isSeparator x = true → x ≠ 0x3A → x ∉ name ++ [0x3A] := by
      intro x hx hne hmem
      rcases List.mem_append.mp hmem with hmem | hmem
      · exact hnot x hx hmem
      · exact hne (List.mem_singleton.mp hmem)
    have hscheme : stripScheme (name ++ [0x3A]) = name ++ [0x3A] := by
      rcases stripScheme_cases (name ++ [0x3A]) with hs | ⟨name', rest, -, hs⟩
      · exact hs
      · refine absurd ?_ (hno 0x2F (by decide) (by decide))
        rw [hs]
        simp [utf16, unitsOf]
    rw [addressHost, hslashes, trim_of_not_blank hclear, hostPart, hscheme,
      before_of_notMem (hno 0x2F (by decide) (by decide)),
      before_of_notMem (hno 0x3F (by decide) (by decide)),
      before_of_notMem (hno 0x23 (by decide) (by decide)),
      afterLast_of_notMem (hno 0x40 (by decide) (by decide)), before_append,
      if_neg (hnot 0x3A (by decide))]
    show name ++ [] = name
    exact List.append_nil name

end ScamSignals
