import Vigiscam.Js.Date
import Vigiscam.Js.Regex

/-!
# What a training session must not hold (`sanitizer.ts`, `tactics.ts`)

`sanitize` rejects a text that looks like a real credential, and names the kind of credential.
`detectTactics` names the tactics of manipulation that a text shows.
-/

namespace ScamMirror

open Js
open Regex hiding alt

/-! ## `sanitize` -/

inductive SanitizerReason where
  | creditCard | ethPrivateKey | bitcoinWif | mnemonicPhrase | ssn
deriving DecidableEq

def SanitizerReason.name : SanitizerReason → Text
  | .creditCard => "CREDIT_CARD"
  | .ethPrivateKey => "ETH_PRIVATE_KEY"
  | .bitcoinWif => "BITCOIN_WIF"
  | .mnemonicPhrase => "MNEMONIC_PHRASE"
  | .ssn => "SSN"

inductive SanitizerVerdict where
  | ok
  | rejected (reason : SanitizerReason)
deriving DecidableEq

/-- `\d` -/
def digit : Regex := one (isDigit ·)

/-- `\W` -/
def notWord : Regex := one fun u => !isWordUnit u

def isSeparator (u : CodeUnit) : Bool := u = 0x20 || u = 0x2D

/-- `/\b(?:\d[ -]*?){13,19}\b/g` -/
def cardNumber : Regex := between (rep 13 6 (seq digit (manyLazy isSeparator)))

/-- The loop of `luhnValid`, over the digits from the right. -/
def luhnLoop : Nat → Bool → Text → Nat
  | sum, _, [] => sum
  | sum, alt, u :: rest =>
    let n := u.val - 48
    let n := if alt then (if n * 2 > 9 then n * 2 - 9 else n * 2) else n
    luhnLoop (sum + n) (!alt) rest

def luhnValid (digits : Text) : Bool := luhnLoop 0 false digits.reverse % 10 = 0

def hasCreditCard (input : Text) : Bool :=
  (cardNumber.matchAll input).any fun raw =>
    let digits := raw.filter (isDigit ·)
    13 ≤ digits.length && digits.length ≤ 19 && luhnValid digits

/-- `/\b0x[a-fA-F0-9]{64}\b/` -/
def ethPrivateKey : Regex := between (seq (verbatim "0x") (times 64 (one isHex)))

def hasEthPrivateKey (input : Text) : Bool := ethPrivateKey.test input

/-- `/\b[5KL][1-9A-HJ-NP-Za-km-z]{50,51}\b/` -/
def bitcoinWif : Regex :=
  between (seq (one fun u => u = 0x35 || u = 0x4B || u = 0x4C) (rep 50 1 (one isBase58)))

def hasBitcoinWif (input : Text) : Bool := bitcoinWif.test input

/-- `split(/\r?\n/)` -/
def splitLines : Text → List Text
  | [] => [[]]
  | 0x0D :: 0x0A :: rest => [] :: splitLines rest
  | 0x0A :: rest => [] :: splitLines rest
  | u :: rest =>
    match splitLines rest with
    | [] => [[u]]
    | line :: lines => (u :: line) :: lines

/-- `/^(?:[a-z]{3,8} ){11,}[a-z]{3,8}$/`: at least 12 words, with single spaces between them. -/
def isMnemonicLine (line : Text) : Bool :=
  let words := line.splitOn 0x20
  12 ≤ words.length && words.all (isRunOf isLower 3 8)

def hasMnemonic (input : Text) : Bool :=
  (splitLines input).any fun line => isMnemonicLine (trim line)

/-- `/\b\d{3}-\d{2}-\d{4}\b/` -/
def dashedSsn : Regex :=
  between (chain [times 3 digit, verbatim "-", times 2 digit, verbatim "-", times 4 digit])

/-- `/\b(?:ssn|social\s*security)\W{0,4}\d{3}\W?\d{2}\W?\d{4}\b/i` -/
def labelledSsn : Regex :=
  between (chain [oneOf [caseless "ssn", phrase ["social", "security"]], rep 0 4 notWord,
    times 3 digit, optional notWord, times 2 digit, optional notWord, times 4 digit])

def hasSsn (input : Text) : Bool := dashedSsn.test input || labelledSsn.test input

def sanitize (input : Text) : SanitizerVerdict :=
  if hasCreditCard input then .rejected .creditCard
  else if hasEthPrivateKey input then .rejected .ethPrivateKey
  else if hasBitcoinWif input then .rejected .bitcoinWif
  else if hasMnemonic input then .rejected .mnemonicPhrase
  else if hasSsn input then .rejected .ssn
  else .ok

example : sanitize (utf16 "card: 4242 4242-4242 4242.") = .rejected .creditCard := by
  decide +kernel

example : sanitize (utf16 "my Social  Security # 123 45 6789") = .rejected .ssn := by
  decide +kernel

example : sanitize (utf16 "call me on 555-123-4567") = .ok := by decide +kernel

/-! ## `detectTactics` -/

inductive Tactic where
  | urgency | secrecy | authority | isolation | reward | threat | emotionalPressure
deriving DecidableEq

def Tactic.name : Tactic → Text
  | .urgency => "URGENCY"
  | .secrecy => "SECRECY"
  | .authority => "AUTHORITY"
  | .isolation => "ISOLATION"
  | .reward => "REWARD"
  | .threat => "THREAT"
  | .emotionalPressure => "EMOTIONAL_PRESSURE"

/-- `(?:a|b|…)`, of texts. -/
def anyOf (texts : List Text) : Regex := oneOf (texts.map caseless)

/-- `don'?t` -/
def dont : Regex := chain [caseless "don", optional (caseless "'"), caseless "t"]

/-- The alternatives of each tactic; they stand between edges of words. -/
def PATTERNS : List (Tactic × Regex) := [
  (.urgency, oneOf [phrase ["right", "now"], caseless "immediately", caseless "asap",
    seq (caseless "urgent") (optional (caseless "ly")), phrase ["today", "only"],
    phrase ["limited", "time"], caseless "hurry", caseless "quickly", phrase ["act", "fast"]]),
  (.secrecy, oneOf [spaced [dont, caseless "tell"], phrase ["between", "us"],
    spaced [caseless "keep", anyOf ["this", "it"], anyOf ["secret", "confidential", "private"]],
    phrase ["nobody", "can", "know"]]),
  (.authority, oneOf [caseless "officer", caseless "agent", phrase ["i", "am", "from"],
    caseless "irs", caseless "fbi", caseless "police", caseless "sheriff", caseless "federal",
    caseless "court", phrase ["tax", "authority"], caseless "customs"]),
  (.isolation, oneOf [
    spaced [dont, caseless "trust", anyOf ["them", "him", "her", "anyone"]],
    spaced [seq (caseless "they")
      (optional (oneOf [caseless "'ll", seq (many isBlank) (caseless "will")])), caseless "lie"],
    phrase ["nobody", "believes", "you"], phrase ["stay", "on", "the", "line"],
    spaced [dont, caseless "hang", caseless "up"]]),
  (.reward, oneOf [spaced [caseless "you", oneOf [caseless "won", phrase ["have", "won"]]],
    caseless "congratulations", caseless "prize", phrase ["free", "money"],
    caseless "inheritance", caseless "lottery", caseless "grant"]),
  (.threat, oneOf [caseless "arrest", caseless "lawsuit", caseless "jail", caseless "prison",
    seq (caseless "deport") (optional (anyOf ["ation", "ed"])), caseless "fine",
    caseless "warrant", phrase ["legal", "action"]]),
  (.emotionalPressure, oneOf [
    spaced [caseless "my", anyOf ["family", "child", "mother", "father", "son", "daughter"],
      anyOf ["is", "are"], oneOf [caseless "dying", caseless "sick", phrase ["in", "trouble"]]],
    phrase ["i", "love", "you"], phrase ["trust", "me", "please"],
    spaced [chain [caseless "you", optional (caseless "'"), caseless "re"], caseless "my",
      caseless "only", caseless "hope"]])]

def detectTactics (text : Text) : List Tactic :=
  (PATTERNS.filter fun pattern => (between pattern.2).test text).map Prod.fst

theorem nodup_detectTactics (text : Text) : (detectTactics text).Nodup := by
  refine List.Nodup.sublist (List.filter_sublist.map Prod.fst) ?_
  show List.Nodup [Tactic.urgency, .secrecy, .authority, .isolation, .reward, .threat,
    .emotionalPressure]
  decide

example : detectTactics (utf16 "I am from the IRS. Don't tell anyone, act  fast!") =
    [.urgency, .secrecy, .authority] := by decide +kernel

end ScamMirror
