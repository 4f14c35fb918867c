import Vigiscam.Registry.Entry

/-!
# Indicator normalization (`normalization.ts`)

Normalizing before storage and lookup is what makes deduplication and registry matching
reliable. `toLowerCase` is a parameter: on texts of the whole of Unicode it follows the tables
of the language's runtime.
-/

open Js

namespace ScamSignals

/-! ## Parts of a text -/

/-- `split(c)[0]`: what stands before the first `c`. -/
def before (c : CodeUnit) (s : Text) : Text := s.takeWhile (· ≠ c)

/-- `split(c).pop()`: what stands after the last `c`. -/
def afterLast (c : CodeUnit) (s : Text) : Text := (s.reverse.takeWhile (· ≠ c)).reverse

/-- `replace(/^prefix/, '')`. -/
def stripPrefix (start s : Text) : Text := if start.isPrefixOf s then s.drop start.length else s

/-- `[a-z]`. -/
def isLowerLetter (c : CodeUnit) : Bool := 0x61 ≤ c && c ≤ 0x7A

/-- `[a-z0-9+.-]`. -/
def isSchemeUnit (c : CodeUnit) : Bool :=
  isLowerLetter c || isDigit c || c = 0x2B || c = 0x2E || c = 0x2D

/-- `replace(/^[a-z][a-z0-9+.-]*:\/\//, '')`. A colon is no unit of the scheme, so the scheme
ends where its units do. -/
def stripScheme : Text → Text
  | [] => []
  | c :: s =>
    if isLowerLetter c && (utf16 "://").isPrefixOf (s.dropWhile isSchemeUnit) then
      (s.dropWhile isSchemeUnit).drop 3
    else c :: s

/-- `replace(/\s+/g, ' ')`. -/
def collapseBlanks : Text → Text
  | [] => []
  | [c] => if isBlank c then [0x20] else [c]
  | c :: d :: s =>
    if isBlank c then
      if isBlank d then collapseBlanks (d :: s) else 0x20 :: collapseBlanks (d :: s)
    else c :: collapseBlanks (d :: s)

example : stripScheme (utf16 "https://a.b/c") = utf16 "a.b/c" := by decide

example : collapseBlanks (utf16 "a \t b ") = utf16 "a b " := by decide

/-! ## Normalizing -/

/-- Phone: digits only, with a country prefix. -/
def normalizePhone (raw : Text) : Text :=
  let trimmed := trim raw
  let digits := trimmed.filter (isDigit ·)
  if (utf16 "+").isPrefixOf trimmed then 0x2B :: digits
  else if digits.length = 10 then utf16 "+1" ++ digits
  else 0x2B :: digits

section Lower

variable (toLowerCase : Text → Text)

/-- Domain: strip scheme, path, port and userinfo, lowercase, drop a leading "www.". -/
def normalizeDomain (raw : Text) : Text :=
  let v := stripScheme (toLowerCase (trim raw))
  let v := before 0x23 (before 0x3F (before 0x2F v))
  let v := before 0x3A (afterLast 0x40 v)
  let v := stripPrefix (utf16 "www.") v
  if v.getLast? = some 0x2E then v.dropLast else v

/-- URL: lowercase, trim trailing slashes. -/
def normalizeUrl (raw : Text) : Text :=
  ((toLowerCase (trim raw)).reverse.dropWhile (· = 0x2F)).reverse

def normalizeEmail (raw : Text) : Text := toLowerCase (trim raw)

/-- Crypto wallet: trim; lowercase EVM (0x…) addresses, leave others as they are. -/
def normalizeWallet (raw : Text) : Text :=
  let v := trim raw
  if (utf16 "0x").isPrefixOf v || (utf16 "0X").isPrefixOf v then toLowerCase v else v

/-- Phrase: lowercase, trim, collapse internal whitespace. -/
def normalizePhrase (raw : Text) : Text := collapseBlanks (toLowerCase (trim raw))

/-- Dispatch normalization by indicator type. -/
def normalizeIndicator (type : IndicatorType) (value : Text) : Text :=
  match type with
  | .phone => normalizePhone value
  | .domain => normalizeDomain toLowerCase value
  | .url => normalizeUrl toLowerCase value
  | .email => normalizeEmail toLowerCase value
  | .cryptoWallet => normalizeWallet toLowerCase value
  | .scamPhrase => normalizePhrase toLowerCase value
  | .fakeCompany | .socialProfile | .other => toLowerCase (trim value)

end Lower

example : normalizeIndicator lowerAscii .domain (utf16 " HTTPS://me@WWW.Evil.example:8080/x?y ")
    = utf16 "evil.example" := by decide

example : normalizeIndicator lowerAscii .phone (utf16 "(555) 123-4567") = utf16 "+15551234567" := by
  decide

end ScamSignals
