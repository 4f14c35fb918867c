import Vigiscam.Js.RegexLanguage

/-!
# The rule-based text classifier (`nlp-stub.ts`)

A category or a tactic is found where one of its patterns is. The classifier never looks sure: both
numbers that it gives are at most 70 (`classifyWithStub_bounded`).
-/

namespace Ai

open Js
open Regex hiding alt

/-- `\d` -/
def digit : Regex := one (isDigit ·)

/-- `.` -/
def anyUnit : Regex := one fun u => !isLineEnd u

/-- `don.?t` -/
def dont : Regex := chain [caseless "don", optional anyUnit, caseless "t"]

/-! ## Patterns

They are written without the `\b` at both of their ends. -/

def CATEGORY_PATTERNS : List (Text × List Regex) := [
  ("BANK_IMPERSONATION", [
    strung [caseless "safe", caseless "account"],
    chain [caseless "verify", blanks, optional (seq (caseless "your") blanks), caseless "account"],
    chain [caseless "account", blanks, optional (seq (caseless "is") blanks),
      oneOf [caseless "locked", caseless "suspended", strung [caseless "on", caseless "hold"]]],
    chain [caseless "bank", blanks,
      oneOf [caseless "security", strung [caseless "fraud", caseless "team"]]]]),
  ("GIFT_CARD_SCAM", [
    chain [caseless "gift", blanks, caseless "card", optional (caseless "s")],
    chain [oneOf [strung [caseless "google", caseless "play"], caseless "itunes",
      caseless "amazon"], blanks, caseless "card"],
    chain [oneOf [caseless "read", caseless "share"], blanks, optional (seq (caseless "me") blanks),
      caseless "the", blanks, caseless "code"]]),
  ("REMOTE_ACCESS_SCAM", [
    strung [caseless "remote", caseless "access"],
    oneOf [caseless "teamviewer", caseless "anydesk", caseless "logmein"],
    chain [caseless "install", many fun u => !isLineEnd u,
      oneOf [caseless "remote", caseless "support"], blanks, caseless "tool"]]),
  ("TECH_SUPPORT_SCAM", [
    chain [oneOf [caseless "microsoft", caseless "apple", caseless "windows"], blanks,
      oneOf [caseless "support", caseless "technician"]],
    chain [caseless "your", blanks, caseless "computer", blanks,
      optional (seq (caseless "is") blanks), caseless "infected"]]),
  ("GOVERNMENT_IMPERSONATION", [
    oneOf [caseless "irs", strung [caseless "social", caseless "security"], caseless "hmrc",
      caseless "cra"],
    chain [caseless "social", blanks, caseless "security", blanks,
      optional (seq (caseless "number") blanks), optional (seq (caseless "is") blanks),
      oneOf [caseless "suspended", caseless "compromised"]],
    oneOf [strung [caseless "arrest", caseless "warrant"],
      strung [caseless "warrant", caseless "for", caseless "your", caseless "arrest"]]]),
  ("CRYPTO_SCAM", [
    chain [caseless "crypto", blanks, oneOf [caseless "investment", caseless "opportunity"]],
    chain [caseless "bitcoin", blanks, oneOf [caseless "profit", caseless "investment"]],
    chain [caseless "guaranteed", blanks, caseless "return", optional (caseless "s")]]),
  ("ROMANCE_SCAM", [
    caseless "soulmate",
    chain [caseless "my", blanks, optional (seq (caseless "only") blanks), caseless "love"],
    chain [oneOf [caseless "send", caseless "wire"], blanks, optional (seq (caseless "me") blanks),
      optional (seq (caseless "some") blanks), caseless "money"]])]

def urgencyPatterns : List Regex := [
  oneOf [caseless "urgent", caseless "immediately", strung [caseless "right", caseless "now"],
    chain [caseless "expire", optional (caseless "s"), blanks,
      oneOf [caseless "today", strung [caseless "in", digit]]]],
  oneOf [strung [caseless "act", caseless "now"], strung [dont, caseless "wait"]]]

def secrecyPatterns : List Regex := [
  chain [oneOf [strung [caseless "do", caseless "not"], dont], blanks, caseless "tell", blanks,
    oneOf [caseless "anyone", caseless "anybody"]],
  chain [caseless "keep", blanks, optional (seq (caseless "this") blanks),
    optional (seq (caseless "a") blanks), caseless "secret"],
  chain [caseless "between", blanks,
    optional (chain [caseless "you", blanks, caseless "and", blanks]), caseless "me"]]

def fakeAuthorityPatterns : List Regex := [
  chain [oneOf [caseless "official", caseless "government",
      strung [caseless "law", caseless "enforcement"], caseless "federal", caseless "court"],
    blanks, oneOf [caseless "notice", caseless "order", caseless "action"]],
  strung [caseless "on", caseless "behalf", caseless "of"]]

def pressurePatterns : List Regex := [
  oneOf [strung [caseless "or", caseless "else"],
    strung [caseless "otherwise", caseless "you", caseless "will"],
    chain [caseless "will", blanks, caseless "be", blanks,
      oneOf [caseless "arrested", caseless "sued", caseless "charged"]]],
  chain [caseless "final", blanks, oneOf [caseless "notice", caseless "warning"]]]

def TACTIC_PATTERNS : List (Text × List Regex) := [
  ("urgency", urgencyPatterns), ("secrecy", secrecyPatterns),
  ("fake-authority", fakeAuthorityPatterns), ("pressure", pressurePatterns)]

/-! ## The classifier -/

structure NlpClassificationInput where
  text : Option Text
  hintedCategory : Option Text

structure NlpClassificationOutput where
  category : Option Text
  categoryConfidence : Nat
  scamScore : Nat
  manipulationTactics : List Text
  modelVersion : Text
deriving DecidableEq

def STUB_MODEL_VERSION : Text := "nlp-stub-1.0.0"

/-- The names of the groups of patterns of which one is found in the text. -/
def hits (groups : List (Text × List Regex)) (text : Text) : List Text :=
  (groups.filter fun g => g.2.any fun r => (between r).test text).map Prod.fst

def classifyWithStub (input : NlpClassificationInput) : NlpClassificationOutput :=
  let text := input.text.getD []
  let categoryHits := hits CATEGORY_PATTERNS text
  let tacticHits := hits TACTIC_PATTERNS text
  { category := categoryHits.head?.or input.hintedCategory
    categoryConfidence :=
      if categoryHits.length ≠ 0 then min 70 (35 + categoryHits.length * 15)
      else if (present input.hintedCategory).isSome then 20 else 0
    scamScore := min 70 ((if categoryHits.length ≠ 0 then 30 else 10) + categoryHits.length * 12
      + tacticHits.length * 8)
    manipulationTactics := tacticHits
    modelVersion := STUB_MODEL_VERSION }

theorem mem_hits {groups : List (Text × List Regex)} {name text : Text} :
    name ∈ hits groups text ↔
      ∃ rs, (name, rs) ∈ groups ∧ ∃ r ∈ rs, (between r).test text = true := by
  simp [hits]

/-- **The classifier never looks sure.** -/
theorem classifyWithStub_bounded (input : NlpClassificationInput) :
    (classifyWithStub input).categoryConfidence ≤ 70 ∧ (classifyWithStub input).scamScore ≤ 70 := by
  constructor
  · rw [classifyWithStub]
    dsimp only
    split
    · exact min_le_left _ _
    · split <;> decide
  · exact min_le_left _ _

end Ai
