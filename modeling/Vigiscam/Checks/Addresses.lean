import Vigiscam.Js.Pattern
import Vigiscam.Protection.Enums

/-!
# Formats of wallet addresses (`address-validators.ts`)

The format alone: whether the address exists is not asked.
-/

namespace Checks

open Js Protection

/-- `0x` and 40 hex digits: the checksum of the case is not asked for. -/
def isEvmAddress (address : Text) : Bool := startsThen "0x" (isRunOf isHex 40 40) address

/-- Legacy (`1…`), P2SH (`3…`) and bech32 (`bc1…`). -/
def isBitcoinAddress (address : Text) : Bool :=
  startsThen "1" (isRunOf isBase58 25 34) address || startsThen "3" (isRunOf isBase58 25 34) address
    || startsThen "bc1" (isRunOf isLowerAlnum 23 87) address

def VALIDATORS : WalletNetwork → Text → Bool
  | .eth | .bsc | .matic | .arbitrum | .optimism => isEvmAddress
  | .btc => isBitcoinAddress
  | .trx => startsThen "T" (isRunOf isBase58 33 33)
  | .sol => isRunOf isBase58 32 44
  -- the caller has left the validation out: anything without blanks
  | .other => isRunOf (fun c => !isBlank c) 8 128

/-- True iff the address parses cleanly under the network's format. -/
def isAddressValid (network : WalletNetwork) (address : Text) : Bool :=
  VALIDATORS network (trim address)

/-! ## What every format asks for -/

theorem not_isBlank_of_isAlnum {c : CodeUnit} (h : isAlnum c = true) : isBlank c = false := by
  have hrange : c.val < 0x7B ∧ 0x2F < c.val := by
    simp only [isAlnum, isLower, isUpper, Bool.or_eq_true, decide_eq_true_eq] at h
    simp [isDigit, Fin.le_def] at h
    omega
  simp [isBlank, Fin.le_def, Fin.ext_iff]
  omega

theorem isAlnum_of_isHex {c : CodeUnit} (h : isHex c = true) : isAlnum c = true := by
  simp only [isHex, Bool.or_eq_true, Bool.and_eq_true, decide_eq_true_eq, Fin.le_def] at h
  simp only [isAlnum, isLower, isUpper, Bool.or_eq_true, Bool.and_eq_true, decide_eq_true_eq,
    Fin.le_def]
  rcases h with (h | h) | h
  · exact Or.inr h
  · exact Or.inl (Or.inl ⟨h.1, h.2.trans (by decide)⟩)
  · exact Or.inl (Or.inr ⟨h.1, h.2.trans (by decide)⟩)

theorem isAlnum_of_isLowerAlnum {c : CodeUnit} (h : isLowerAlnum c = true) : isAlnum c = true := by
  simp only [isLowerAlnum, Bool.or_eq_true] at h
  simp only [isAlnum, Bool.or_eq_true]
  tauto

theorem isAlnum_of_isBase58 {c : CodeUnit} (h : isBase58 c = true) : isAlnum c = true :=
  (Bool.and_eq_true_iff.mp h).1

/-- Letters and digits, so many that none of the formats is shorter or longer. -/
def Addressable (s : Text) : Prop := (∀ c ∈ s, isAlnum c = true) ∧ 8 ≤ s.length ∧ s.length ≤ 128

theorem addressable_of_run {p : CodeUnit → Bool} (hp : ∀ c, p c = true → isAlnum c = true)
    {start s : Text} {n m : Nat} (h : startsThen start (isRunOf p n m) s = true)
    (hstart : start.all isAlnum = true) (hmin : 8 ≤ start.length + n)
    (hmax : start.length + m ≤ 128) : Addressable s := by
  obtain ⟨u, rfl, hu⟩ := startsThen_iff.mp h
  obtain ⟨hall, hlo, hhi⟩ := (isRunOf_iff p).mp hu
  refine ⟨fun c hc => ?_, ?_, ?_⟩
  · rcases List.mem_append.mp hc with hc | hc
    · exact List.all_eq_true.mp hstart c hc
    · exact hp c (hall c hc)
  · rw [List.length_append]
    omega
  · rw [List.length_append]
    omega

/-- An address of some network is letters and digits; only of OTHER more is taken. -/
theorem addressable_of_valid {network : WalletNetwork} {address : Text} (hne : network ≠ .other)
    (h : isAddressValid network address = true) : Addressable (trim address) := by
  have hevm (h : isEvmAddress (trim address) = true) : Addressable (trim address) :=
    addressable_of_run (fun _ => isAlnum_of_isHex) h rfl (by decide) (by decide)
  cases network with
  | eth => exact hevm h
  | bsc => exact hevm h
  | matic => exact hevm h
  | arbitrum => exact hevm h
  | optimism => exact hevm h
  | btc =>
    rcases Bool.or_eq_true_iff.mp h with h | h
    · rcases Bool.or_eq_true_iff.mp h with h | h
      · exact addressable_of_run (fun _ => isAlnum_of_isBase58) h rfl (by decide) (by decide)
      · exact addressable_of_run (fun _ => isAlnum_of_isBase58) h rfl (by decide) (by decide)
    · exact addressable_of_run (fun _ => isAlnum_of_isLowerAlnum) h rfl (by decide) (by decide)
  | trx => exact addressable_of_run (fun _ => isAlnum_of_isBase58) h rfl (by decide) (by decide)
  | sol =>
    obtain ⟨hall, hlo, hhi⟩ := (isRunOf_iff _).mp h
    exact ⟨fun c hc => isAlnum_of_isBase58 (hall c hc), by omega, by omega⟩
  | other => exact absurd rfl hne

/-- Every network's format is one that OTHER takes. -/
theorem isAddressValid_other {network : WalletNetwork} {address : Text}
    (h : isAddressValid network address = true) : isAddressValid .other address = true := by
  by_cases hne : network = .other
  · rwa [hne] at h
  · obtain ⟨hall, hlo, hhi⟩ := addressable_of_valid hne h
    refine (isRunOf_iff _).mpr ⟨fun c hc => ?_, hlo, hhi⟩
    rw [not_isBlank_of_isAlnum (hall c hc), Bool.not_false]

/-- Blanks around an address do not count. -/
@[simp] theorem isAddressValid_trim (network : WalletNetwork) (address : Text) :
    isAddressValid network (trim address) = isAddressValid network address := by
  simp [isAddressValid, trim_trim]

example : isAddressValid .eth (utf16 " 0xde0B295669a9FD93d5F28D9Ec85E40f4cb697BAe") = true := by
  decide

example : isAddressValid .btc (utf16 "0xde0B295669a9FD93d5F28D9Ec85E40f4cb697BAe") = false := by
  decide

end Checks
