import Mathlib.Algebra.GroupWithZero.Nat
import Mathlib.Data.Fin.Basic
import Mathlib.Data.List.Basic
import Mathlib.Data.List.DropRight
import Mathlib.Order.Fin.Basic

/-!
# JavaScript text and its JSON quotation

A JavaScript string is a sequence of 16-bit code units, not of characters: it
may hold half of a surrogate pair, and `Array.prototype.sort` compares strings
unit by unit. `Text` is that sequence, `utf16` reads a literal into it, and
`quote` is `JSON.stringify` on a string (the well-formed variant, which escapes
a lone surrogate).

The one fact everything above rests on is that quotation can be read back from
any text that goes on after it (`quote_inj`): two quotations that continue to
the same text are quotations of the same string, with the same continuation.
-/

namespace Js

/-- One UTF-16 code unit. -/
abbrev CodeUnit := Fin 65536

/-- A JavaScript string. -/
abbrev Text := List CodeUnit

-- literals and membership tests find these before any instance of the library

instance (priority := 1100) neZero_units : NeZero 65536 := ⟨by decide⟩

instance (priority := 1100) lawfulBEq_codeUnit : LawfulBEq CodeUnit := inferInstance

instance (priority := 1100) lawfulBEq_text : LawfulBEq Text := inferInstance

/-- The code units of one Unicode scalar value. -/
def unitsOf (c : Char) : Text :=
  if c.toNat < 0x10000 then [Fin.ofNat 65536 c.toNat]
  else [Fin.ofNat 65536 (0xD800 + (c.toNat - 0x10000) / 0x400),
    Fin.ofNat 65536 (0xDC00 + (c.toNat - 0x10000) % 0x400)]

/-- A string literal as JavaScript holds it. -/
def utf16 (s : String) : Text := s.toList.flatMap unitsOf

instance : Coe String Text := ⟨utf16⟩

/-- The values of a `Set`, in the order in which they were added. -/
theorem nodup_eraseDups {α : Type} [BEq α] [LawfulBEq α] (l : List α) : l.eraseDups.Nodup := by
  induction hn : l.length using Nat.strong_induction_on generalizing l with
  | _ n ih =>
    cases l with
    | nil => simp
    | cons a l =>
      rw [List.eraseDups_cons, List.nodup_cons]
      constructor
      · simp [List.mem_eraseDups]
      · refine ih _ ?_ _ rfl
        have := List.length_filter_le (fun b => !b == a) l
        simp only [List.length_cons] at hn
        omega

/-! ## Quotation -/

def isHighSurrogate (c : CodeUnit) : Bool := 0xD800 ≤ c && c ≤ 0xDBFF

def isLowSurrogate (c : CodeUnit) : Bool := 0xDC00 ≤ c && c ≤ 0xDFFF

def isSurrogate (c : CodeUnit) : Bool := isHighSurrogate c || isLowSurrogate c

/-- A lower-case hexadecimal digit. -/
def hexDigit (n : Nat) : CodeUnit :=
  if n < 10 then Fin.ofNat 65536 (0x30 + n) else Fin.ofNat 65536 (0x57 + n)

/-- The four digits after `\u`. -/
def hexDigits (c : CodeUnit) : Text :=
  [hexDigit (c.val / 4096), hexDigit (c.val / 256 % 16), hexDigit (c.val / 16 % 16),
    hexDigit (c.val % 16)]

/-- One code unit inside a JSON string: `"` and `\` and the control characters
are escaped, and so is a surrogate (this is only asked about lone ones). -/
def quoteUnit (c : CodeUnit) : Text :=
  if c = 0x22 then [0x5C, 0x22]
  else if c = 0x5C then [0x5C, 0x5C]
  else if c = 0x08 then [0x5C, 0x62]
  else if c = 0x09 then [0x5C, 0x74]
  else if c = 0x0A then [0x5C, 0x6E]
  else if c = 0x0C then [0x5C, 0x66]
  else if c = 0x0D then [0x5C, 0x72]
  else if c < 0x20 ∨ isSurrogate c then 0x5C :: 0x75 :: hexDigits c
  else [c]

/-- Whether a string starts with a surrogate pair. -/
def startsPair (c : CodeUnit) : Text → Bool
  | [] => false
  | d :: _ => isHighSurrogate c && isLowSurrogate d

/-- The inside of a JSON string: a surrogate pair goes through as it is, every
other unit through `quoteUnit`. -/
def quoteBody : Text → Text
  | [] => []
  | [c] => quoteUnit c
  | c :: d :: rest =>
    if startsPair c (d :: rest) then c :: d :: quoteBody rest
    else quoteUnit c ++ quoteBody (d :: rest)

/-- `JSON.stringify` of a string. -/
def quote (s : Text) : Text := 0x22 :: (quoteBody s ++ [0x22])

example : quote (utf16 "a\"b\n") = utf16 "\"a\\\"b\\n\"" := by decide

/-! ## String methods -/

/-- `toLowerCase` of a unit, on ASCII. -/
def lowerUnit (c : CodeUnit) : CodeUnit := if 0x41 ≤ c ∧ c ≤ 0x5A then c + 0x20 else c

theorem val_lowerUnit (c : CodeUnit) :
    (lowerUnit c).val = if 0x41 ≤ c.val ∧ c.val ≤ 0x5A then c.val + 0x20 else c.val := by
  have hc := c.isLt
  rw [lowerUnit]
  by_cases h : 0x41 ≤ c ∧ c ≤ 0x5A
  · have hval : 0x41 ≤ c.val ∧ c.val ≤ 0x5A := h
    rw [if_pos h, if_pos hval]
    show (c.val + 0x20) % 65536 = _
    omega
  · have hval : ¬ (0x41 ≤ c.val ∧ c.val ≤ 0x5A) := h
    rw [if_neg h, if_neg hval]

/-- `toLowerCase` of an ASCII text. -/
def lowerAscii (s : Text) : Text := s.map lowerUnit

theorem lowerUnit_lowerUnit (c : CodeUnit) : lowerUnit (lowerUnit c) = lowerUnit c := by
  unfold lowerUnit
  grind

@[simp] theorem lowerAscii_lowerAscii (s : Text) : lowerAscii (lowerAscii s) = lowerAscii s := by
  rw [lowerAscii, lowerAscii, List.map_map]
  exact List.map_congr_left fun c _ => lowerUnit_lowerUnit c

/-- `toUpperCase` of a unit, on ASCII. -/
def upperUnit (c : CodeUnit) : CodeUnit := if 0x61 ≤ c ∧ c ≤ 0x7A then c - 0x20 else c

/-- `toUpperCase` of an ASCII text. -/
def upperAscii (s : Text) : Text := s.map upperUnit

/-- `replace` of the first unit `c` by `d`. -/
def replaceFirst (c d : CodeUnit) : Text → Text
  | [] => []
  | x :: s => if x = c then d :: s else x :: replaceFirst c d s

example : replaceFirst 0x5F 0x20 (lowerAscii (utf16 "TECH_SUPPORT")) = utf16 "tech support" := by
  decide

/-- White space and line terminators, which `trim` and `\s` take for blank. -/
def isBlank (c : CodeUnit) : Bool :=
  (0x09 ≤ c && c ≤ 0x0D) || c = 0x20 || c = 0xA0 || c = 0x1680 || (0x2000 ≤ c && c ≤ 0x200A)
    || c = 0x2028 || c = 0x2029 || c = 0x202F || c = 0x205F || c = 0x3000 || c = 0xFEFF

/-- No letter is blank. -/
theorem isBlank_lowerUnit (c : CodeUnit) : isBlank (lowerUnit c) = isBlank c := by
  rw [Bool.eq_iff_iff]
  simp only [isBlank, Bool.or_eq_true, Bool.and_eq_true, decide_eq_true_eq, Fin.le_def,
    Fin.ext_iff, val_lowerUnit]
  split
  · simp
    omega
  · rfl

/-- `trim`. -/
def trim (s : Text) : Text := ((s.dropWhile isBlank).reverse.dropWhile isBlank).reverse

theorem lowerAscii_trim (s : Text) : lowerAscii (trim s) = trim (lowerAscii s) := by
  have hblank : isBlank ∘ lowerUnit = isBlank := funext isBlank_lowerUnit
  simp only [trim, lowerAscii, ← List.map_reverse, List.dropWhile_map, hblank]

example : trim (utf16 " a b\n") = utf16 "a b" := by decide

/-- What stands first after the blanks is no blank. -/
theorem dropWhile_isBlank_prefix {s t : Text} (h : t <+: s.dropWhile isBlank) :
    t.dropWhile isBlank = t := by
  cases t with
  | nil => rfl
  | cons c t =>
    obtain ⟨rest, hrest⟩ := h
    have hnot := List.head?_dropWhile_not isBlank s
    rw [← hrest] at hnot
    exact List.dropWhile_cons_of_neg (by simpa using hnot)

/-- What is cut off the end of a text, of one unit. -/
theorem exists_rdropWhile (c : CodeUnit) (s : Text) :
    ∃ n, s = s.rdropWhile (· = c) ++ List.replicate n c := by
  have hunits : s.rtakeWhile (· = c) = List.replicate (s.rtakeWhile (· = c)).length c :=
    List.eq_replicate_iff.mpr ⟨rfl, fun d hd => by simpa using List.mem_rtakeWhile_imp hd⟩
  refine ⟨(s.rtakeWhile (· = c)).length, ?_⟩
  rw [← hunits]
  exact List.rdropWhile_append_rtakeWhile.symm

theorem trim_trim (s : Text) : trim (trim s) = trim s := by
  have hstart : (trim s).dropWhile isBlank = trim s :=
    dropWhile_isBlank_prefix (List.rdropWhile_prefix isBlank _)
  show ((trim s).dropWhile isBlank).rdropWhile isBlank = trim s
  rw [hstart]
  exact List.rdropWhile_idempotent isBlank (s.dropWhile isBlank)

/-- A string that a condition takes for present: neither missing nor empty. -/
def present (s : Option Text) : Option Text := s.filter (· ≠ [])

theorem eq_some_of_present {s : Option Text} {t : Text} (h : present s = some t) : s = some t :=
  Option.eq_some_of_filter_eq_some h

theorem eq_nil_of_not_present {t : Text} (h : present (some t) = none) : t = [] := by
  simpa [present] using h

/-! ## Reading one unit back -/

/-- The value of a hexadecimal digit. -/
def unhex (c : CodeUnit) : Nat := if c.val < 0x40 then c.val - 0x30 else c.val - 0x57

theorem unhex_hexDigit {n : Nat} (hn : n < 16) : unhex (hexDigit n) = n := by
  unfold hexDigit
  split
  · rw [unhex, Fin.val_ofNat, Nat.mod_eq_of_lt (by omega), if_pos (by omega)]
    omega
  · rw [unhex, Fin.val_ofNat, Nat.mod_eq_of_lt (by omega), if_neg (by omega)]
    omega

/-- The unit a quotation starts with, and what follows it. -/
def readUnit : Text → Option (CodeUnit × Text)
  | 0x5C :: 0x75 :: a :: b :: c :: d :: rest =>
    some (Fin.ofNat 65536 (unhex a * 4096 + unhex b * 256 + unhex c * 16 + unhex d), rest)
  | 0x5C :: e :: rest =>
    some (if e = 0x62 then 0x08 else if e = 0x74 then 0x09 else if e = 0x6E then 0x0A
      else if e = 0x66 then 0x0C else if e = 0x72 then 0x0D else e, rest)
  | c :: rest => some (c, rest)
  | [] => none

theorem readUnit_hexDigits (c : CodeUnit) (r : Text) :
    readUnit (0x5C :: 0x75 :: (hexDigits c ++ r)) = some (c, r) := by
  have hc := c.isLt
  show some (Fin.ofNat 65536 _, r) = some (c, r)
  rw [unhex_hexDigit (by omega), unhex_hexDigit (by omega), unhex_hexDigit (by omega),
    unhex_hexDigit (by omega)]
  congr 2
  apply Fin.ext
  rw [Fin.val_ofNat]
  omega

/-- A quoted unit reads back as that unit, whatever text goes on after it. -/
theorem readUnit_quoteUnit (c : CodeUnit) (r : Text) :
    readUnit (quoteUnit c ++ r) = some (c, r) := by
  unfold quoteUnit
  split
  · next h => subst h; rfl
  split
  · next h => subst h; rfl
  split
  · next h => subst h; rfl
  split
  · next h => subst h; rfl
  split
  · next h => subst h; rfl
  split
  · next h => subst h; rfl
  split
  · next h => subst h; rfl
  split
  · exact readUnit_hexDigits c r
  · next hq hb _ _ _ _ _ _ =>
    -- the only unit `readUnit` treats specially is the backslash
    show readUnit (c :: r) = some (c, r)
    unfold readUnit
    split
    · next h => exact absurd (List.cons.inj h).1 hb
    · next h => exact absurd (List.cons.inj h).1 hb
    · next h =>
      obtain ⟨rfl, rfl⟩ := List.cons.inj h
      rfl
    · next h => cases h

theorem quoteUnit_inj {c d : CodeUnit} {r r' : Text}
    (h : quoteUnit c ++ r = quoteUnit d ++ r') : c = d ∧ r = r' := by
  have hread := congrArg readUnit h
  rw [readUnit_quoteUnit, readUnit_quoteUnit] at hread
  exact Prod.mk.inj (Option.some.inj hread)

/-- A quoted unit is never taken for the closing quote or for the first half of
a surrogate pair. -/
theorem quoteUnit_head (c : CodeUnit) :
    ∃ h t, quoteUnit c = h :: t ∧ h ≠ 0x22 ∧ isHighSurrogate h = false := by
  unfold quoteUnit
  repeat' split
  all_goals try exact ⟨0x5C, _, rfl, by decide, by decide⟩
  next hq _ _ _ _ _ _ hs =>
    refine ⟨c, [], rfl, hq, ?_⟩
    rw [isSurrogate] at hs
    simp at hs
    exact hs.2.1

/-! ## Reading a whole quotation back -/

/-- A nonempty body starts with a surrogate pair as it is, or with a quoted unit. -/
theorem quoteBody_cons (c : CodeUnit) (s : Text) :
    (∃ d rest, s = d :: rest ∧ isHighSurrogate c = true ∧
      quoteBody (c :: s) = c :: d :: quoteBody rest) ∨
    quoteBody (c :: s) = quoteUnit c ++ quoteBody s := by
  cases s with
  | nil => exact Or.inr (List.append_nil _).symm
  | cons d rest =>
    rw [quoteBody]
    split
    · next h =>
      rw [startsPair, Bool.and_eq_true] at h
      exact Or.inl ⟨d, rest, rfl, h.1, rfl⟩
    · exact Or.inr rfl

theorem quoteBody_cons_ne_quote {c : CodeUnit} {s r r' : Text} :
    quoteBody (c :: s) ++ r ≠ 0x22 :: r' := by
  intro h
  rcases quoteBody_cons c s with ⟨d, rest, -, hc, heq⟩ | heq
  · rw [heq] at h
    rw [(List.cons.inj h).1] at hc
    exact absurd hc (by decide)
  · obtain ⟨q, t, hq, hne, -⟩ := quoteUnit_head c
    rw [heq, hq] at h
    exact hne (List.cons.inj h).1

/-- A pair kept as it is cannot be confused with a quoted unit. -/
theorem quoteUnit_ne_high {c d : CodeUnit} {r r' : Text} (hc : isHighSurrogate c = true) :
    quoteUnit d ++ r ≠ c :: r' := by
  intro h
  obtain ⟨q, t, hq, -, hlow⟩ := quoteUnit_head d
  rw [hq] at h
  rw [(List.cons.inj h).1, hc] at hlow
  cases hlow

/-- Two closed quotation bodies with the same text are the same string with the
same continuation. The induction is on the length, as a pair takes two units. -/
theorem quoteBody_inj : ∀ (n : Nat) {s t : Text} {r r' : Text}, s.length ≤ n →
    quoteBody s ++ 0x22 :: r = quoteBody t ++ 0x22 :: r' → s = t ∧ r = r'
  | _, [], [], _, _, _, h => ⟨rfl, (List.cons.inj h).2⟩
  | _, [], _ :: _, _, _, _, h => absurd h.symm quoteBody_cons_ne_quote
  | _, _ :: _, [], _, _, _, h => absurd h quoteBody_cons_ne_quote
  | 0, _ :: _, _ :: _, _, _, hn, _ => absurd hn (Nat.not_succ_le_zero _)
  | n + 1, c :: s, c' :: s', r, r', hn, h => by
    have hs : s.length ≤ n := Nat.le_of_succ_le_succ hn
    -- a surrogate pair is written as it is, anything else unit by unit
    rcases quoteBody_cons c s with ⟨d, rest, rfl, hc, heq⟩ | heq
    · rcases quoteBody_cons c' s' with ⟨d', rest', rfl, hc', heq'⟩ | heq'
      · rw [heq, heq'] at h
        obtain ⟨rfl, h₁⟩ := List.cons.inj h
        obtain ⟨rfl, h₂⟩ := List.cons.inj h₁
        obtain ⟨rfl, hr⟩ := quoteBody_inj n (Nat.le_of_succ_le hs) h₂
        exact ⟨rfl, hr⟩
      · rw [heq, heq', List.append_assoc] at h
        exact absurd h.symm (quoteUnit_ne_high hc)
    · rcases quoteBody_cons c' s' with ⟨d', rest', rfl, hc', heq'⟩ | heq'
      · rw [heq, heq', List.append_assoc] at h
        exact absurd h (quoteUnit_ne_high hc')
      · rw [heq, heq', List.append_assoc, List.append_assoc] at h
        obtain ⟨rfl, h₁⟩ := quoteUnit_inj h
        obtain ⟨rfl, hr⟩ := quoteBody_inj n hs h₁
        exact ⟨rfl, hr⟩

/-- **A quotation can be read back** from any text that goes on after it. -/
theorem quote_inj {s t r r' : Text} (h : quote s ++ r = quote t ++ r') : s = t ∧ r = r' := by
  have hbody : quoteBody s ++ [0x22] ++ r = quoteBody t ++ [0x22] ++ r' := (List.cons.inj h).2
  rw [List.append_assoc, List.append_assoc] at hbody
  exact quoteBody_inj s.length (Nat.le_refl _) hbody

end Js
