import Vigiscam.Ai.NlpStub
import Vigiscam.DetectionRules.Suggestions

/-!
# The phrases of a suggested rule, and what the classifier flags

The classifier finds a tactic by its patterns, and the rule that is suggested for the tactic lists
phrases. Each pattern is taken apart into the wordings that hold a phrase and those that do not
(`Wordings`). So the phrases match what was flagged exactly where a text with a wording of the
second kind also holds a phrase (`phrases_match_iff`).
-/

namespace DetectionRules

open Js Ai
open Regex hiding alt

/-! ## What is claimed of a text -/

/-- `text.toLowerCase().includes(phrase)`, for one of the phrases of the tactic. -/
def HoldsPhrase (toLowerCase : Text → Text) (tactic text : Text) : Prop :=
  ∃ phrases, phrasesOf tactic = some (.own phrases) ∧ ∃ p ∈ phrases, p <:+: toLowerCase text

/-- Every tactic that the classifier finds in the text is one of whose phrases the text holds. -/
def PhrasesMatch (toLowerCase : Text → Text) (input : NlpClassificationInput) : Prop :=
  ∀ tactic ∈ (classifyWithStub input).manipulationTactics,
    HoldsPhrase toLowerCase tactic (input.text.getD [])

/-- `toLowerCase` lowers what a text has of ASCII in its place. -/
def LowersAscii (toLowerCase : Text → Text) : Prop :=
  ∀ s w, w <:+: s → (∀ u ∈ w, u < 0x80) → lowerAscii w <:+: toLowerCase s

/-! ## Wordings -/

/-- A phrase, by its words, and what comes after it. -/
structure Wording where
  words : List Text
  tail : Regex := empty

def Wording.phrase (x : Wording) : Text := [0x20].intercalate x.words

def Wording.regex (x : Wording) : Regex := seq (apart (x.words.map caseless)) x.tail

/-- The wordings of a tactic with a phrase of it, and those without. -/
structure Wordings where
  listed : List Wording
  unlisted : List Regex

def urgency : Wordings where
  listed := [⟨["urgent"], empty⟩, ⟨["immediately"], empty⟩, ⟨["right", "now"], empty⟩,
    ⟨["expires", "today"], empty⟩, ⟨["act", "now"], empty⟩]
  unlisted := [loose [caseless "right", caseless "now"],
    strung [caseless "expire", caseless "today"],
    loose [caseless "expires", caseless "today"],
    strung [seq (caseless "expire") (optional (caseless "s")), caseless "in", digit],
    loose [caseless "act", caseless "now"],
    strung [dont, caseless "wait"]]

def secrecy : Wordings where
  listed := [⟨["do", "not", "tell", "anyone"], empty⟩, ⟨["keep", "this", "secret"], empty⟩,
    ⟨["between", "you", "and", "me"], empty⟩]
  unlisted := [strung [dont, caseless "tell", oneOf [caseless "anyone", caseless "anybody"]],
    strung [caseless "do", caseless "not", caseless "tell", caseless "anybody"],
    loose [caseless "do", caseless "not", caseless "tell", caseless "anyone"],
    strung [caseless "keep", caseless "secret"],
    strung [caseless "keep", caseless "a", caseless "secret"],
    strung [caseless "keep", caseless "this", caseless "a", caseless "secret"],
    loose [caseless "keep", caseless "this", caseless "secret"],
    strung [caseless "between", caseless "me"],
    loose [caseless "between", caseless "you", caseless "and", caseless "me"]]

def fakeAuthority : Wordings where
  listed := [⟨["official", "notice"], empty⟩, ⟨["court", "order"], empty⟩,
    ⟨["law", "enforcement"],
      seq blanks (oneOf [caseless "notice", caseless "order", caseless "action"])⟩]
  unlisted := [loose [caseless "official", caseless "notice"],
    strung [caseless "official", oneOf [caseless "order", caseless "action"]],
    strung [oneOf [caseless "government", caseless "federal"],
      oneOf [caseless "notice", caseless "order", caseless "action"]],
    seq (loose [caseless "law", caseless "enforcement"])
      (seq blanks (oneOf [caseless "notice", caseless "order", caseless "action"])),
    loose [caseless "court", caseless "order"],
    strung [caseless "court", oneOf [caseless "notice", caseless "action"]],
    strung [caseless "on", caseless "behalf", caseless "of"]]

def pressure : Wordings where
  listed := [⟨["or", "else"], empty⟩, ⟨["will", "be", "arrested"], empty⟩,
    ⟨["final", "notice"], empty⟩, ⟨["final", "warning"], empty⟩]
  unlisted := [loose [caseless "or", caseless "else"],
    strung [caseless "otherwise", caseless "you", caseless "will"],
    loose [caseless "will", caseless "be", caseless "arrested"],
    strung [caseless "will", caseless "be", oneOf [caseless "sued", caseless "charged"]],
    loose [caseless "final", caseless "notice"],
    loose [caseless "final", caseless "warning"]]

/-- The wordings of the tactics, in the order of `TACTIC_PATTERNS`. -/
def WORDINGS : List (Text × Wordings) :=
  [("urgency", urgency), ("secrecy", secrecy), ("fake-authority", fakeAuthority),
    ("pressure", pressure)]

def Wordings.listedRegex (x : Wordings) : Regex := oneOf (x.listed.map Wording.regex)

def Wordings.unlistedRegex (x : Wordings) : Regex := oneOf x.unlisted

theorem lang_caseless_append (s t : Text) :
    (caseless (s ++ t)).lang = (caseless s).lang * (caseless t).lang := by
  induction s with
  | nil =>
    rw [List.nil_append]
    exact (one_mul _).symm
  | cons u s ih =>
    have hcons : ∀ v : Text,
        (caseless (u :: v)).lang = (one (lowerUnit · = u)).lang * (caseless v).lang :=
      fun v => lang_seq
    rw [List.cons_append, hcons, hcons, ih, mul_assoc]

theorem urgency_splits : (oneOf urgencyPatterns).lang =
    urgency.listedRegex.lang + urgency.unlistedRegex.lang := by
  have hexpires : (caseless (utf16 "expires")).lang =
      (caseless (utf16 "expire")).lang * (caseless (utf16 "s")).lang :=
    lang_caseless_append (utf16 "expire") (utf16 "s")
  simp only [Wordings.listedRegex, Wordings.unlistedRegex, urgency,
    urgencyPatterns, Wording.regex, List.map_cons, List.map_nil, strung, apart, loose,
    lang_oneOf_cons, lang_oneOf_nil, lang_chain_cons, lang_chain_nil, lang_optional, lang_seq,
    lang_alt, lang_empty, lang_never, lang_blanks, hexpires, mul_add, add_mul, mul_assoc,
    mul_one, one_mul, mul_zero, add_zero]
  abel

theorem secrecy_splits : (oneOf secrecyPatterns).lang =
    secrecy.listedRegex.lang + secrecy.unlistedRegex.lang := by
  simp only [Wordings.listedRegex, Wordings.unlistedRegex, secrecy,
    secrecyPatterns, Wording.regex, List.map_cons, List.map_nil, strung, apart, loose,
    lang_oneOf_cons, lang_oneOf_nil, lang_chain_cons, lang_chain_nil, lang_optional, lang_seq,
    lang_alt, lang_empty, lang_never, lang_blanks, mul_add, add_mul, mul_assoc,
    mul_one, one_mul, mul_zero, add_zero]
  abel

theorem fakeAuthority_splits : (oneOf fakeAuthorityPatterns).lang =
    fakeAuthority.listedRegex.lang + fakeAuthority.unlistedRegex.lang := by
  simp only [Wordings.listedRegex, Wordings.unlistedRegex, fakeAuthority,
    fakeAuthorityPatterns, Wording.regex, List.map_cons, List.map_nil, strung, apart, loose,
    lang_oneOf_cons, lang_oneOf_nil, lang_chain_cons, lang_chain_nil, lang_seq,
    lang_alt, lang_empty, lang_never, lang_blanks, mul_add, add_mul, mul_assoc,
    mul_one, mul_zero, add_zero]
  abel

theorem pressure_splits : (oneOf pressurePatterns).lang =
    pressure.listedRegex.lang + pressure.unlistedRegex.lang := by
  simp only [Wordings.listedRegex, Wordings.unlistedRegex, pressure,
    pressurePatterns, Wording.regex, List.map_cons, List.map_nil, strung, apart, loose,
    lang_oneOf_cons, lang_oneOf_nil, lang_chain_cons, lang_chain_nil, lang_seq,
    lang_alt, lang_empty, lang_never, lang_blanks, mul_add, add_mul,
    mul_one, mul_zero, add_zero]
  abel

/-! ## From words to texts -/

section Texts

variable {toLowerCase : Text → Text} {x : Wordings} {w text : Text}

theorem word_caseless {s : Text} (h : (caseless s).Word w) : lowerAscii w = s := by
  induction s generalizing w with
  | nil =>
    obtain rfl : w = [] := h
    rfl
  | cons u s ih =>
    obtain ⟨_, v, ⟨u', hu, rfl⟩, hv, rfl⟩ := h
    rw [← ih hv, ← of_decide_eq_true hu]
    rfl

/-- Words that are apart spell a phrase. -/
theorem lowerAscii_of_apart {words : List Text} (h : (apart (words.map caseless)).Word w) :
    lowerAscii w = [0x20].intercalate words := by
  induction words generalizing w with
  | nil =>
    obtain rfl : w = [] := h
    rfl
  | cons word words ih =>
    cases words with
    | nil => simpa using word_caseless h
    | cons word' words =>
      obtain ⟨v, _, hv, ⟨_, _, ⟨u, hu, rfl⟩, ⟨v', _, hv', rfl, rfl⟩, rfl⟩, rfl⟩ := h
      obtain rfl : u = 0x20 := of_decide_eq_true hu
      rw [List.intercalate_cons_cons, ← ih hv', ← word_caseless hv]
      simp [lowerAscii]
      rfl

theorem lt_of_lowerUnit_lt {u : CodeUnit} (h : lowerUnit u < 0x80) : u < 0x80 := by
  have hval : (lowerUnit u).val < 0x80 := h
  rw [val_lowerUnit] at hval
  have : u.val < 0x80 := by
    split at hval <;> omega
  exact this

/-- What is said of the wordings of a tactic. -/
structure Wordings.Fit (x : Wordings) (tactic : Text) (patterns : List Regex) : Prop where
  splits : (oneOf patterns).lang = x.listedRegex.lang + x.unlistedRegex.lang
  edgeless : ∀ r ∈ x.unlistedRegex :: patterns, r.edgeless = true
  phrases : ∃ phrases, phrasesOf tactic = some (.own phrases) ∧
    ∀ y ∈ x.listed, y.phrase ∈ phrases ∧ y.phrase.all (· < 0x80) = true

/-- A wording with a phrase. -/
theorem holdsPhrase_of_listed {tactic : Text} {patterns : List Regex}
    (hlower : LowersAscii toLowerCase) (hfit : x.Fit tactic patterns)
    (h : x.listedRegex.Stands text) : HoldsPhrase toLowerCase tactic text := by
  obtain ⟨a, w, b, rfl, hword, -⟩ := h
  obtain ⟨r, hr, hword⟩ := word_oneOf.mp hword
  obtain ⟨y, hy, rfl⟩ := List.mem_map.mp hr
  obtain ⟨v, v', hv, -, rfl⟩ := hword
  obtain ⟨phrases, hown, hphrases⟩ := hfit.phrases
  obtain ⟨hmem, hascii⟩ := hphrases y hy
  have hphrase : lowerAscii v = y.phrase := lowerAscii_of_apart hv
  refine ⟨phrases, hown, y.phrase, hmem, hphrase ▸ hlower _ v ?_ fun u hu => ?_⟩
  · exact ⟨a, v' ++ b, by simp⟩
  · have hu' : lowerUnit u ∈ y.phrase := hphrase ▸ List.mem_map_of_mem hu
    exact lt_of_lowerUnit_lt (of_decide_eq_true (List.all_eq_true.mp hascii _ hu'))

/-- **One tactic.** -/
theorem Wordings.Fit.holds_iff {tactic : Text} {patterns : List Regex}
    (hfit : x.Fit tactic patterns) (hlower : LowersAscii toLowerCase) :
    ((∃ r ∈ patterns, (between r).test text = true) → HoldsPhrase toLowerCase tactic text) ↔
      ((between x.unlistedRegex).test text = true → HoldsPhrase toLowerCase tactic text) := by
  obtain ⟨hunlisted, hpatterns⟩ := List.forall_mem_cons.mp hfit.edgeless
  rw [← stands_oneOf hpatterns, test_between_iff hunlisted, stands_add hfit.splits]
  constructor
  · exact fun h hstands => h (Or.inr hstands)
  · rintro h (hlisted | hstands)
    · exact holdsPhrase_of_listed hlower hfit hlisted
    · exact h hstands

end Texts

/-! ## The tactics -/

theorem urgency_fit : urgency.Fit "urgency" urgencyPatterns where
  splits := urgency_splits
  edgeless := by decide
  phrases := ⟨_, rfl, by decide⟩

theorem secrecy_fit : secrecy.Fit "secrecy" secrecyPatterns where
  splits := secrecy_splits
  edgeless := by decide
  phrases := ⟨_, rfl, by decide⟩

theorem fakeAuthority_fit : fakeAuthority.Fit "fake-authority" fakeAuthorityPatterns where
  splits := fakeAuthority_splits
  edgeless := by decide
  phrases := ⟨_, rfl, by decide⟩

theorem pressure_fit : pressure.Fit "pressure" pressurePatterns where
  splits := pressure_splits
  edgeless := by decide
  phrases := ⟨_, rfl, by decide⟩

/-- **The phrases match what was flagged exactly where every tactic with a wording that no phrase
covers has a phrase in the text as well.** -/
theorem phrases_match_iff (toLowerCase : Text → Text) (hlower : LowersAscii toLowerCase)
    (input : NlpClassificationInput) :
    PhrasesMatch toLowerCase input ↔ ∀ e ∈ WORDINGS,
      (between e.2.unlistedRegex).test (input.text.getD []) = true →
        HoldsPhrase toLowerCase e.1 (input.text.getD []) := by
  have hflagged : PhrasesMatch toLowerCase input ↔ ∀ e ∈ TACTIC_PATTERNS,
      (∃ r ∈ e.2, (between r).test (input.text.getD []) = true) →
        HoldsPhrase toLowerCase e.1 (input.text.getD []) := by
    constructor
    · intro h e he hfound
      exact h e.1 (mem_hits.mpr ⟨e.2, he, hfound⟩)
    · intro h tactic htactic
      obtain ⟨rs, hrs, hfound⟩ := mem_hits.mp htactic
      exact h (tactic, rs) hrs hfound
  rw [hflagged]
  simp only [TACTIC_PATTERNS, WORDINGS, List.forall_mem_cons]
  exact and_congr (urgency_fit.holds_iff hlower) (and_congr (secrecy_fit.holds_iff hlower)
    (and_congr (fakeAuthority_fit.holds_iff hlower) (and_congr (pressure_fit.holds_iff hlower)
      (by simp))))

namespace Sample

theorem lowersAscii_lowerAscii : LowersAscii lowerAscii := by
  rintro s w ⟨a, b, rfl⟩ -
  exact ⟨lowerAscii a, lowerAscii b, by simp [lowerAscii]⟩

def parcel : NlpClassificationInput where
  text := some (utf16 "Your parcel is held. Don't wait, pay the fee today.")
  hintedCategory := none

theorem phrases_match_iff_parcel :
    PhrasesMatch lowerAscii parcel ↔ ∀ e ∈ WORDINGS,
      (between e.2.unlistedRegex).test (parcel.text.getD []) = true →
        HoldsPhrase lowerAscii e.1 (parcel.text.getD []) :=
  phrases_match_iff lowerAscii lowersAscii_lowerAscii parcel

/-- Urgency is found in the text, which holds none of its phrases. -/
theorem parcel_not_matched : ¬PhrasesMatch lowerAscii parcel := by
  intro h
  have hflagged : (utf16 "urgency") ∈ (classifyWithStub parcel).manipulationTactics := by
    decide +kernel
  obtain ⟨phrases, hown, p, hp, hpart⟩ := h _ hflagged
  obtain rfl : _ = phrases := Phrases.own.inj (Option.some.inj hown)
  have hnone : ∀ p ∈ ([utf16 "urgent", utf16 "right now", utf16 "immediately",
      utf16 "expires today", utf16 "act now"] : List Text),
      ¬p <:+: lowerAscii (parcel.text.getD []) := by
    decide +kernel
  exact hnone p hp hpart

end Sample

end DetectionRules
