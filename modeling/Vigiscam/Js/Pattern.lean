import Vigiscam.Js.Number

/-!
# Patterns of a text

The regular expressions that ask a whole text for a start and a run of units of one class,
and the classes of ASCII units that they name.
-/

namespace Js

/-! ## Classes -/

/-- `[a-z]`. -/
def isLower (c : CodeUnit) : Bool := 0x61 ≤ c && c ≤ 0x7A

/-- `[A-Z]`. -/
def isUpper (c : CodeUnit) : Bool := 0x41 ≤ c && c ≤ 0x5A

/-- `[a-zA-Z0-9]`. -/
def isAlnum (c : CodeUnit) : Bool := isLower c || isUpper c || isDigit c

/-- `[a-fA-F0-9]`. -/
def isHex (c : CodeUnit) : Bool := isDigit c || (0x61 ≤ c && c ≤ 0x66) || (0x41 ≤ c && c ≤ 0x46)

/-- `[a-km-zA-HJ-NP-Z1-9]`: a letter or a digit that is none of `l`, `I`, `O` and `0`. -/
def isBase58 (c : CodeUnit) : Bool := isAlnum c && !(c = 0x6C || c = 0x49 || c = 0x4F || c = 0x30)

/-- `[a-z0-9]`. -/
def isLowerAlnum (c : CodeUnit) : Bool := isLower c || isDigit c

/-- The units that `.` does not match. -/
def isLineEnd (c : CodeUnit) : Bool := c = 0x0A || c = 0x0D || c = 0x2028 || c = 0x2029

example : isBase58 0x6B = true ∧ isBase58 0x6C = false := by decide

/-! ## Shapes -/

section Shapes

variable (p : CodeUnit → Bool) {n m : Nat} {s t : Text}

/-- `/^[p]{n,}$/`. -/
def isRun (n : Nat) (s : Text) : Bool := s.all p && n ≤ s.length

/-- `/^[p]{n,m}$/`. -/
def isRunOf (n m : Nat) (s : Text) : Bool := isRun p n s && s.length ≤ m

/-- `/^start…$/`, where `rest` is asked what comes after the start. -/
def startsThen (start : Text) (rest : Text → Bool) (s : Text) : Bool :=
  start.isPrefixOf s && rest (s.drop start.length)

theorem isRun_iff : isRun p n s = true ↔ (∀ c ∈ s, p c = true) ∧ n ≤ s.length := by
  simp [isRun]

theorem isRunOf_iff :
    isRunOf p n m s = true ↔ (∀ c ∈ s, p c = true) ∧ n ≤ s.length ∧ s.length ≤ m := by
  simp [isRunOf, isRun, and_assoc]

theorem startsThen_iff {rest : Text → Bool} :
    startsThen t rest s = true ↔ ∃ u, s = t ++ u ∧ rest u = true := by
  rw [startsThen, Bool.and_eq_true, List.isPrefixOf_iff_prefix]
  constructor
  · rintro ⟨⟨u, rfl⟩, hrest⟩
    rw [List.drop_left] at hrest
    exact ⟨u, rfl, hrest⟩
  · rintro ⟨u, rfl, hrest⟩
    refine ⟨List.prefix_append t u, ?_⟩
    rwa [List.drop_left]

end Shapes

end Js
