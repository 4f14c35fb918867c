import Vigiscam.Js.Pattern
import Vigiscam.Js.Property
import Vigiscam.ScamSignals.Normalization

/-!
# Indicators of a claim's subject (`claim-indicators.ts`)

The subject of a claim is an object of any shape. At most one indicator of each type is taken
out of it, from the first of several keys that holds a text, and only where that is well
formed.
-/

namespace Checks

open Js Value

structure ExtractedIndicator where
  indicatorType : IndicatorType
  indicatorValue : Text

/-! ## Shapes -/

/-- `[^\s@]`. -/
def isAddressUnit (c : CodeUnit) : Bool := !isBlank c && c ≠ 0x40

/-- `/^[^\s@]+@[^\s@]+\.[^\s@]+$/`: one `@`, and a dot inside of what comes after it. -/
def EMAIL_RE (s : Text) : Bool :=
  match s.splitOn 0x40 with
  | [name, host] =>
    isRun isAddressUnit 1 name && host.all isAddressUnit && 0x2E ∈ host.tail.dropLast
  | _ => false

/-- `[0-9 ()-]`. -/
def isPhoneUnit (c : CodeUnit) : Bool := isDigit c || c = 0x20 || c = 0x28 || c = 0x29 || c = 0x2D

/-- `/^\+?[0-9][0-9 ()-]{6,}$/`. -/
def PHONE_RE (s : Text) : Bool :=
  let s := ScamSignals.stripPrefix "+" s
  s.head?.any (isDigit ·) && isRun isPhoneUnit 6 s.tail

/-- `[a-z0-9-]`, of either case. -/
def isLabelUnit (c : CodeUnit) : Bool := isAlnum c || c = 0x2D

/-- `/^[a-z0-9-]+(?:\.[a-z0-9-]+)+$/i`. -/
def DOMAIN_RE (s : Text) : Bool :=
  let labels := s.splitOn 0x2E
  2 ≤ labels.length && labels.all (isRun isLabelUnit 1)

/-! ## `toDomain` -/

/-- `replace(/^[a-z]+:\/\//i, '')`. -/
def stripLetters (s : Text) : Text :=
  let isLetter := fun c => isLower c || isUpper c
  if s.head?.any isLetter && (utf16 "://").isPrefixOf (s.dropWhile isLetter) then
    (s.dropWhile isLetter).drop 3
  else s

/-- `replace(/[/?#].*$/, '')`: the first of these units whose line is the last one. -/
def cutPath : Text → Text
  | [] => []
  | c :: s =>
    if (c = 0x2F || c = 0x3F || c = 0x23) && !s.any isLineEnd then [] else c :: cutPath s

section Lower

variable (toLowerCase : Text → Text)

/-- "https://secure-login.example.com/path" -> "secure-login.example.com". -/
def toDomain (raw : Text) : Text := toLowerCase (trim (cutPath (stripLetters raw)))

/-! ## Extraction -/

/-- The first of the keys with a text that is not blank, trimmed. -/
def firstString (subject : Value) : List Text → Option Text
  | [] => none
  | key :: keys =>
    match asText (subject.getOpt key) with
    | some value => if trim value = [] then firstString subject keys else some (trim value)
    | none => firstString subject keys

/-- `push`, of a value that is not empty. -/
def push (indicatorType : IndicatorType) (indicatorValue : Text) : Option ExtractedIndicator :=
  if indicatorValue = [] then none else some { indicatorType, indicatorValue }

def domainIndicator (subject : Value) : Option ExtractedIndicator :=
  (firstString subject ["websiteDomain", "domain", "website", "url"]).bind fun raw =>
    if DOMAIN_RE (toDomain toLowerCase raw) then push .domain (toDomain toLowerCase raw) else none

def emailIndicator (subject : Value) : Option ExtractedIndicator :=
  (firstString subject ["email", "contactEmail"]).bind fun email =>
    if EMAIL_RE email then push .email (toLowerCase email) else none

def phoneIndicator (subject : Value) : Option ExtractedIndicator :=
  (firstString subject ["phone", "phoneNumber", "contactPhone"]).bind fun phone =>
    if PHONE_RE phone then
      push .phone (phone.filter fun c => !(isBlank c || c = 0x28 || c = 0x29 || c = 0x2D))
    else none

def walletIndicator (subject : Value) : Option ExtractedIndicator :=
  (firstString subject ["wallet", "walletAddress", "cryptoWallet", "address"]).bind fun wallet =>
    if isRun isAlnum 20 wallet then push .cryptoWallet wallet else none

def companyIndicator (subject : Value) : Option ExtractedIndicator :=
  (firstString subject ["personOrBusinessName", "businessName", "company", "name"]).bind fun name =>
    if 2 ≤ name.length then push .fakeCompany name else none

/-- The indicators of a subject. Their types differ, so none is `seen` twice. -/
def extractClaimIndicators (subject : Value) : List ExtractedIndicator :=
  [domainIndicator toLowerCase subject, emailIndicator toLowerCase subject, phoneIndicator subject,
    walletIndicator subject, companyIndicator subject].reduceOption

end Lower

example : toDomain lowerAscii (utf16 "https://Secure-Login.example.com/path") =
    utf16 "secure-login.example.com" := by decide

example : EMAIL_RE (utf16 "a@b.c") = true ∧ EMAIL_RE (utf16 "a@.c") = false := by decide

end Checks
