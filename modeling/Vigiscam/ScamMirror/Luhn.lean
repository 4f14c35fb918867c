import Mathlib.Data.ZMod.Basic
import Vigiscam.Lists.CheckDigits
import Vigiscam.ScamMirror.Sanitizer

/-!
# What the Luhn checksum detects (`sanitizer.ts`)

`luhnValid` goes through the digits from the right and doubles every second one. The sum is that of
the weights of the places (`luhnValid_iff_dvd`), and modulo 10 each weight is a permutation of the
digits: a digit that is replaced is always noticed (`luhnValid_replaced_iff`). Doubling moves every
digit by an amount of its own but for 0 and 9, so that only the exchange of these two is missed
(`luhnValid_exchanged_iff`).
-/

namespace ScamMirror

open Js CheckDigits

variable {a b ds : Text} {d x y : CodeUnit} {i m n : Nat}

/-! ## The sum -/

/-- A digit doubled, with 9 subtracted above 9. -/
def doubled (n : Nat) : Nat := if 9 < n * 2 then n * 2 - 9 else n * 2

/-- What a digit adds at an offset from the right. -/
def luhnWeight (i : Nat) (d : CodeUnit) : Nat :=
  let n := d.val - 0x30
  if i % 2 = 0 then n else doubled n

def luhnSum (ds : Text) : Nat := total luhnWeight ds

example : luhnSum (utf16 "79927398713") = 70 := by decide

theorem luhnLoop_cons (sum i : Nat) (d : CodeUnit) (ds : Text) :
    luhnLoop sum (i % 2 = 1) (d :: ds) = luhnLoop (sum + luhnWeight i d) ((i + 1) % 2 = 1) ds := by
  have hturn : (!decide (i % 2 = 1)) = decide ((i + 1) % 2 = 1) := by
    rw [← decide_not, decide_eq_decide]
    omega
  rw [luhnLoop, hturn]
  congr 2
  rw [luhnWeight, doubled]
  by_cases hi : i % 2 = 1
  · have heven : ¬ i % 2 = 0 := by omega
    rw [if_pos (decide_eq_true hi), if_neg heven]
  · have heven : i % 2 = 0 := by omega
    rw [if_neg (by simpa using hi), if_pos heven]

/-- The flag is set at the odd offsets. The induction is on the digits from the right. -/
theorem luhnLoop_eq (sum i : Nat) (ds : Text) :
    luhnLoop sum (i % 2 = 1) ds = sum + (ds.mapIdx fun j => luhnWeight (j + i)).sum := by
  induction ds generalizing sum i with
  | nil => rfl
  | cons d ds ih =>
    rw [luhnLoop_cons, ih, List.mapIdx_cons, List.sum_cons, Nat.zero_add, Nat.add_assoc]
    simp only [Nat.add_right_comm, Nat.add_assoc]

theorem luhnValid_iff_dvd : luhnValid ds = true ↔ 10 ∣ luhnSum ds := by
  have hloop : luhnLoop 0 false ds.reverse = luhnSum ds :=
    (luhnLoop_eq 0 0 ds.reverse).trans (Nat.zero_add _)
  rw [luhnValid, decide_eq_true_iff, hloop, Nat.dvd_iff_mod_eq_zero]

/-- The weight of a place, modulo 10. -/
def residue (i : Nat) (d : CodeUnit) : ZMod 10 := luhnWeight i d

theorem luhnValid_iff_residues : luhnValid ds = true ↔ total residue ds = 0 := by
  rw [luhnValid_iff_dvd, ← ZMod.natCast_eq_zero_iff]
  have hcast : ((luhnSum ds : Nat) : ZMod 10) = total residue ds :=
    map_total (Nat.castAddMonoidHom (ZMod 10)) luhnWeight ds
  rw [hcast]

/-! ## Doubling -/

theorem doubled_lt (hn : n < 10) : doubled n < 10 := by
  rw [doubled]
  split <;> omega

/-- Doubling is a permutation of the digits. -/
theorem doubled_inj (hm : m < 10) (hn : n < 10) : doubled m = doubled n ↔ m = n := by
  rw [doubled, doubled]
  split <;> split <;> omega

/-- Doubling moves two digits by the same amount modulo 10 where they are the same one, or 0
and 9. -/
theorem doubled_moves_iff (hm : m < 10) (hn : n < 10) :
    (n + doubled m) % 10 = (m + doubled n) % 10 ↔ m = n ∨ m + n = 9 ∧ (m = 0 ∨ n = 0) := by
  rw [doubled, doubled]
  split <;> split <;> omega

theorem digit_lt (hd : isDigit d) : d.val - 0x30 < 10 := by
  simp [isDigit] at hd
  omega

theorem digit_eq_iff (hx : isDigit x) (hy : isDigit y) :
    x = y ↔ x.val - 0x30 = y.val - 0x30 := by
  simp [isDigit, Fin.ext_iff] at hx hy ⊢
  omega

/-! ## What is detected -/

theorem residue_inj (hx : isDigit x) (hy : isDigit y) : residue i x = residue i y ↔ x = y := by
  have hx' := digit_lt hx
  have hy' := digit_lt hy
  rw [residue, residue, ZMod.natCast_eq_natCast_iff', digit_eq_iff hx hy, luhnWeight, luhnWeight]
  by_cases hi : i % 2 = 0
  · rw [if_pos hi, if_pos hi, Nat.mod_eq_of_lt hx', Nat.mod_eq_of_lt hy']
  · rw [if_neg hi, if_neg hi, Nat.mod_eq_of_lt (doubled_lt hx'), Nat.mod_eq_of_lt (doubled_lt hy'),
      doubled_inj hx' hy']

/-- The two digits that are told apart by no sum of one and the other doubled. -/
def ZeroNine (x y : CodeUnit) : Prop := x = 0x30 ∧ y = 0x39 ∨ x = 0x39 ∧ y = 0x30

instance (x y : CodeUnit) : Decidable (ZeroNine x y) := inferInstanceAs (Decidable (_ ∨ _))

theorem zeroNine_iff (hx : isDigit x) (hy : isDigit y) : ZeroNine x y ↔
    x.val - 0x30 + (y.val - 0x30) = 9 ∧ (x.val - 0x30 = 0 ∨ y.val - 0x30 = 0) := by
  simp [isDigit, ZeroNine, Fin.ext_iff] at hx hy ⊢
  omega

theorem residue_exchange_iff (hx : isDigit x) (hy : isDigit y) :
    residue i y + residue (i + 1) x = residue i x + residue (i + 1) y ↔ x = y ∨ ZeroNine x y := by
  have hx' := digit_lt hx
  have hy' := digit_lt hy
  simp only [residue, ← Nat.cast_add]
  rw [ZMod.natCast_eq_natCast_iff', digit_eq_iff hx hy, zeroNine_iff hx hy, luhnWeight, luhnWeight,
    luhnWeight, luhnWeight]
  -- one of the two places doubles its digit
  by_cases hi : i % 2 = 0
  · rw [if_pos hi, if_neg (by omega), if_pos hi, if_neg (by omega), doubled_moves_iff hx' hy']
  · rw [if_neg hi, if_pos (by omega), if_neg hi, if_pos (by omega), Nat.add_comm (doubled _),
      Nat.add_comm (doubled _), eq_comm, doubled_moves_iff hx' hy']

/-- **Every change of one digit is detected.** -/
theorem luhnValid_replaced_iff (h : luhnValid (a ++ x :: b) = true) (hx : isDigit x)
    (hy : isDigit y) : luhnValid (a ++ y :: b) = true ↔ x = y := by
  rw [luhnValid_iff_residues] at h ⊢
  rw [← h, total_replaced_iff, residue_inj hy hx, eq_comm]

/-- **The exchange of two neighbours is detected**, but for 0 and 9. -/
theorem luhnValid_exchanged_iff (h : luhnValid (a ++ x :: y :: b) = true) (hx : isDigit x)
    (hy : isDigit y) : luhnValid (a ++ y :: x :: b) = true ↔ x = y ∨ ZeroNine x y := by
  rw [luhnValid_iff_residues] at h ⊢
  rw [← h, eq_comm, total_exchanged_iff, residue_exchange_iff hx hy]

/-- **What `luhnValid` computes and detects**, of digits of any number. -/
theorem luhnValid_detects (ds : Text) (hds : ∀ d ∈ ds, isDigit d) :
    (luhnValid ds = true ↔ 10 ∣ luhnSum ds) ∧
      (luhnValid ds = true →
        (∀ a x b y, ds = a ++ x :: b → isDigit y → y ≠ x → luhnValid (a ++ y :: b) = false) ∧
        ∀ a x y b, ds = a ++ x :: y :: b → x ≠ y → ¬ ZeroNine x y →
          luhnValid (a ++ y :: x :: b) = false) := by
  refine ⟨luhnValid_iff_dvd, fun hvalid => ⟨?_, ?_⟩⟩
  · rintro a x b y rfl hy hne
    have hx : isDigit x := hds x (by simp)
    rw [← Bool.not_eq_true, luhnValid_replaced_iff hvalid hx hy]
    exact fun heq => hne heq.symm
  · rintro a x y b rfl hne hpair
    have hx : isDigit x := hds x (by simp)
    have hy : isDigit y := hds y (by simp)
    rw [← Bool.not_eq_true, luhnValid_exchanged_iff hvalid hx hy, not_or]
    exact ⟨hne, hpair⟩

theorem luhnValid_detects_changes : 10 ∣ luhnSum (utf16 "79927398713") ∧
    luhnValid (utf16 "79927398718") = false ∧ luhnValid (utf16 "79972398713") = false := by
  have hall : (utf16 "79927398713").all (isDigit ·) = true := by decide
  obtain ⟨hsum, hdetects⟩ := luhnValid_detects (utf16 "79927398713") fun d hd =>
    of_decide_eq_true (List.all_eq_true.mp hall d hd)
  have hvalid : luhnValid (utf16 "79927398713") = true := by decide
  obtain ⟨hreplaced, hexchanged⟩ := hdetects hvalid
  exact ⟨hsum.mp hvalid,
    hreplaced (utf16 "7992739871") 0x33 [] 0x38 rfl (by decide) (by decide),
    hexchanged (utf16 "799") 0x32 0x37 (utf16 "398713") rfl (by decide) (by decide)⟩

end ScamMirror
