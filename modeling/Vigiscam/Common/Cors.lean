import Vigiscam.Js.RegExp

/-!
# Allowed origins (`cors-matcher.ts`)

An entry of `CORS_ORIGINS` is compared exactly, but one with a `*` is compiled to a regular
expression: the units that an expression has a use for are escaped, and each `*` becomes `[^.]*`, so
that it stands for a part of one host segment. `newRegExp_globSource` is the correctness of the
escaping, for every text, and `isOriginAllowed_iff` what the expressions accept.
-/

namespace Common

open Js

/-! ## The matchers -/

/-- `[.+?^${}()|[\]\\]` -/
def isMetaUnit (c : CodeUnit) : Bool := c ∈ utf16 ".+?^$\x7b\x7d()|[]\\"

/-- `pattern.replace(/[.+?^${}()|[\]\\]/g, '\\$&')` -/
def escape (pattern : Text) : Text :=
  pattern.flatMap fun c => if isMetaUnit c then [0x5C, c] else [c]

/-- `escaped.replace(/\*/g, '[^.]*')` -/
def replaceStars (escaped : Text) : Text :=
  escaped.flatMap fun c => if c = 0x2A then utf16 "[^.]*" else [c]

def globSource (pattern : Text) : Text := [0x5E] ++ replaceStars (escape pattern) ++ [0x24]

inductive Matcher where
  | exact (origin : Text)
  | glob (re : Regex)

def Matcher.test : Matcher → Text → Bool
  | .exact origin', origin => origin = origin'
  | .glob re, origin => re.matchesWhole origin

/-- The matcher of one entry; `none` where its expression is none. -/
def matcherOf (pattern : Text) : Option Matcher :=
  if 0x2A ∈ pattern then (newRegExp (globSource pattern)).map .glob else some (.exact pattern)

def buildCorsMatchers (patterns : List Text) : Option (List Matcher) := patterns.mapM matcherOf

/-- A caller without an `Origin` header is allowed. -/
def isOriginAllowed (matchers : List Matcher) (origin : Option Text) : Bool :=
  match present origin with
  | none => true
  | some origin => matchers.any (·.test origin)

/-! ## What a pattern stands for -/

/-- The text is the pattern with each `*` replaced by a text without a dot. -/
inductive Filled : Text → Text → Prop
  | nil : Filled [] []
  | literal {c : CodeUnit} {pattern s : Text} : c ≠ 0x2A → Filled pattern s →
      Filled (c :: pattern) (c :: s)
  | star {w pattern s : Text} : 0x2E ∉ w → Filled pattern s → Filled (0x2A :: pattern) (w ++ s)

/-- The pattern accepts the origin: it is the origin, or it has a `*` and the origin fills it. -/
def Accepts (pattern origin : Text) : Prop :=
  (0x2A ∉ pattern ∧ origin = pattern) ∨ (0x2A ∈ pattern ∧ Filled pattern origin)

variable {pattern origin : Text}

/-- A filled pattern has as many dots as the pattern. -/
theorem Filled.count_dot (h : Filled pattern origin) :
    origin.count 0x2E = pattern.count 0x2E := by
  induction h with
  | nil => rfl
  | @literal c pattern s _ _ ih => rw [List.count_cons, List.count_cons, ih]
  | @star w pattern s hw _ ih =>
    rw [List.count_append, List.count_eq_zero_of_not_mem hw, ih, Nat.zero_add,
      List.count_cons_of_ne (by decide)]

/-- A pattern without `*` is filled by itself only. -/
theorem Filled.eq_of_not_mem (h : Filled pattern origin) (hstar : 0x2A ∉ pattern) :
    origin = pattern := by
  induction h with
  | nil => rfl
  | literal _ _ ih => rw [ih fun hmem => hstar (List.mem_cons_of_mem _ hmem)]
  | star _ _ _ => exact absurd (List.mem_cons_self ..) hstar

/-- What comes after the last `*` of a pattern ends what fills it. -/
theorem Filled.suffix {start tail : Text} (h : Filled pattern origin)
    (hpattern : pattern = start ++ 0x2A :: tail) (htail : 0x2A ∉ tail) : tail <:+ origin := by
  induction h generalizing start with
  | nil => simp at hpattern
  | @literal c pattern s hc _ ih =>
    rcases List.cons_eq_append_iff.mp hpattern with ⟨-, hstar⟩ | ⟨start', -, hrest⟩
    · exact absurd (List.cons.inj hstar).1.symm hc
    · exact (ih hrest).trans (List.suffix_cons c s)
  | @star w pattern s _ hfilled ih =>
    rcases List.cons_eq_append_iff.mp hpattern with ⟨-, hstar⟩ | ⟨start', -, hrest⟩
    · -- this `*` is the last one
      obtain rfl : tail = pattern := (List.cons.inj hstar).2
      rw [hfilled.eq_of_not_mem htail]
      exact List.suffix_append w tail
    · exact (ih hrest).trans (List.suffix_append w s)

/-! ## The expression of a pattern -/

/-- The term of a unit of a pattern. -/
def term (c : CodeUnit) : Regex := if c = 0x2A then .many (· ≠ 0x2E) else .one (· = c)

/-- The units that are escaped, and `*`, are those that a source does not have as they are. -/
theorem isSyntaxUnit_iff (c : CodeUnit) :
    isSyntaxUnit c = true ↔ isMetaUnit c = true ∨ c = 0x2A := by
  have hsyntax : utf16 "^$\\.*+?()[]\x7b\x7d|" =
      [0x5E, 0x24, 0x5C, 0x2E, 0x2A, 0x2B, 0x3F, 0x28, 0x29, 0x5B, 0x5D, 0x7B, 0x7D, 0x7C] := rfl
  have hmeta : utf16 ".+?^$\x7b\x7d()|[]\\" =
      [0x2E, 0x2B, 0x3F, 0x5E, 0x24, 0x7B, 0x7D, 0x28, 0x29, 0x7C, 0x5B, 0x5D, 0x5C] := rfl
  simp only [isSyntaxUnit, isMetaUnit, hsyntax, hmeta, decide_eq_true_eq, List.mem_cons,
    List.not_mem_nil, or_false]
  tauto

/-- **The escaping is right**: whatever the pattern, its source is an expression, with the term of
each of its units. -/
theorem parseTerms_replaceStars (pattern : Text) :
    parseTerms (replaceStars (escape pattern) ++ [0x24]) = some (pattern.map term) := by
  induction pattern with
  | nil => rfl
  | cons c pattern ih =>
    by_cases hstar : c = 0x2A
    · subst hstar
      show parseTerms (0x5B :: 0x5E :: 0x2E :: 0x5D :: 0x2A ::
        (replaceStars (escape pattern) ++ [0x24])) = _
      rw [parseTerms, if_neg (by decide), if_pos rfl]
      simp [ih, term]
    · have hterm : term c = .one (· = c) := if_neg hstar
      by_cases hmeta : isMetaUnit c = true
      · have hsource : replaceStars (escape (c :: pattern)) ++ [0x24] =
            0x5C :: c :: (replaceStars (escape pattern) ++ [0x24]) := by
          simp [escape, replaceStars, hmeta, hstar]
        rw [hsource, parseTerms, if_pos rfl, if_pos ((isSyntaxUnit_iff c).mpr (Or.inl hmeta)), ih]
        simp [hterm]
      · have hsource : replaceStars (escape (c :: pattern)) ++ [0x24] =
            c :: (replaceStars (escape pattern) ++ [0x24]) := by
          simp [escape, replaceStars, hmeta, hstar]
        have hplain : ¬ isSyntaxUnit c = true := by
          rw [isSyntaxUnit_iff]
          simp [hstar, hmeta]
        have hne : ∀ d, isSyntaxUnit d = true → c ≠ d := fun d hd hsame => hplain (hsame ▸ hd)
        rw [hsource, parseTerms.eq_def]
        dsimp only
        rw [if_neg (hne 0x5C (by decide)), if_neg (hne 0x5B (by decide)),
          if_neg (hne 0x24 (by decide)), if_neg hplain, ih]
        simp [hterm]

theorem newRegExp_globSource (pattern : Text) :
    newRegExp (globSource pattern) = some (Regex.chain (pattern.map term)) := by
  show (if (0x5E : CodeUnit) = 0x5E then
    (parseTerms (replaceStars (escape pattern) ++ [0x24])).map Regex.chain else none) = _
  rw [if_pos rfl, parseTerms_replaceStars]
  rfl

theorem plain_term (c : CodeUnit) : (term c).Plain := by
  unfold term
  split <;> trivial

/-- The words of a pattern's expression are what fills the pattern. -/
theorem word_iff_filled : (Regex.chain (pattern.map term)).Word origin ↔ Filled pattern origin := by
  induction pattern generalizing origin with
  | nil =>
    constructor
    · intro h
      obtain rfl : origin = [] := h
      exact .nil
    · intro h
      cases h
      rfl
  | cons c pattern ih =>
    rw [List.map_cons, Regex.word_chain_cons]
    by_cases hstar : c = 0x2A
    · subst hstar
      have hword : ∀ w, (term 0x2A).Word w ↔ 0x2E ∉ w := by
        intro w
        show (∀ u ∈ w, decide (u ≠ 0x2E) = true) ↔ _
        simp only [decide_eq_true_eq]
        exact ⟨fun h hmem => h _ hmem rfl, fun h u hu hsame => h (hsame ▸ hu)⟩
      constructor
      · rintro ⟨w, s, hw, hs, rfl⟩
        exact .star ((hword w).mp hw) (ih.mp hs)
      · intro h
        cases h with
        | literal hc _ => exact absurd rfl hc
        | star hw hs => exact ⟨_, _, (hword _).mpr hw, ih.mpr hs, rfl⟩
    · have hterm : term c = .one (· = c) := if_neg hstar
      rw [hterm]
      constructor
      · rintro ⟨w, s, ⟨u, hu, rfl⟩, hs, rfl⟩
        obtain rfl : u = c := of_decide_eq_true hu
        exact .literal hstar (ih.mp hs)
      · intro h
        cases h with
        | literal _ hs => exact ⟨[c], _, ⟨c, decide_eq_true rfl, rfl⟩, ih.mpr hs, rfl⟩
        | star _ _ => exact absurd rfl hstar

/-! ## What is allowed -/

/-- Every entry has a matcher, which accepts what the entry does. -/
theorem exists_matcher (pattern : Text) :
    ∃ matcher, matcherOf pattern = some matcher ∧
      ∀ origin, matcher.test origin = true ↔ Accepts pattern origin := by
  unfold matcherOf
  by_cases hstar : 0x2A ∈ pattern
  · rw [if_pos hstar, newRegExp_globSource]
    refine ⟨_, rfl, fun origin => ?_⟩
    have hplain : (Regex.chain (pattern.map term)).Plain := by
      refine Regex.plain_chain fun r hr => ?_
      obtain ⟨c, -, rfl⟩ := List.mem_map.mp hr
      exact plain_term c
    rw [Matcher.test, Regex.matchesWhole_iff hplain, word_iff_filled]
    simp [Accepts, hstar]
  · rw [if_neg hstar]
    refine ⟨_, rfl, fun origin => ?_⟩
    simp [Matcher.test, Accepts, hstar]

theorem exists_matchers (patterns : List Text) :
    ∃ matchers, buildCorsMatchers patterns = some matchers ∧
      ∀ origin, matchers.any (·.test origin) = true ↔ ∃ p ∈ patterns, Accepts p origin := by
  induction patterns with
  | nil => exact ⟨[], rfl, by simp⟩
  | cons p patterns ih =>
    obtain ⟨matcher, hmatcher, htest⟩ := exists_matcher p
    obtain ⟨matchers, hmatchers, hany⟩ := ih
    refine ⟨matcher :: matchers, ?_, fun origin => ?_⟩
    · rw [buildCorsMatchers] at hmatchers ⊢
      rw [List.mapM_cons, hmatcher, hmatchers]
      rfl
    · rw [List.any_cons, Bool.or_eq_true, htest, hany]
      simp

/-- An accepted origin has the dots of the pattern, and its literal end. -/
theorem Accepts.shape (h : Accepts pattern origin) :
    origin.count 0x2E = pattern.count 0x2E ∧
      ∀ start tail, pattern = start ++ 0x2A :: tail → 0x2A ∉ tail → tail <:+ origin := by
  rcases h with ⟨hstar, rfl⟩ | ⟨-, hfilled⟩
  · refine ⟨rfl, fun start tail hpattern _ => absurd ?_ hstar⟩
    rw [hpattern]
    exact List.mem_append_right _ (List.mem_cons_self ..)
  · exact ⟨hfilled.count_dot, fun start tail => hfilled.suffix⟩

/-- **Allowed origins.** Whatever the patterns, their matchers can be built; and a non-empty origin
is allowed exactly where it is a pattern without `*`, or a pattern with each `*` replaced by a text
without a dot. So it has as many dots as the pattern that accepts it, and ends with what comes after
the last `*` of it. -/
theorem isOriginAllowed_iff (patterns : List Text) :
    ∃ matchers, buildCorsMatchers patterns = some matchers ∧
      ∀ origin, origin ≠ [] →
        (isOriginAllowed matchers (some origin) = true ↔ ∃ p ∈ patterns, Accepts p origin) ∧
        ∀ p, Accepts p origin → origin.count 0x2E = p.count 0x2E ∧
          ∀ start tail, p = start ++ 0x2A :: tail → 0x2A ∉ tail → tail <:+ origin := by
  obtain ⟨matchers, hmatchers, hany⟩ := exists_matchers patterns
  refine ⟨matchers, hmatchers, fun origin hne => ⟨?_, fun p => Accepts.shape⟩⟩
  have hpresent : present (some origin) = some origin := by simp [present, hne]
  rw [isOriginAllowed, hpresent]
  exact hany origin

end Common
