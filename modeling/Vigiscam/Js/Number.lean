import Mathlib.Data.Nat.Digits.Lemmas
import Vigiscam.Js.Text

/-!
# JavaScript numbers as text

A finite `Number` is represented by the decimal JavaScript prints for it: the
shortest decimal that reads back as that `Number`, so equal decimals and equal
`Number`s are the same thing (`-0` prints as `0` and is identified with it).
`Number.toText` is `Number::toString`, the text `JSON.stringify` writes.

The spec prints a positive number from its significant digits and the position
of the decimal point, in one of four layouts. `numeral` picks the layout and
`Numeral.text` writes it out; each is injective, hence so is `Number.toText`
(`Number.toText_inj`).
-/

namespace Js

/-! ## Where a run of units stops -/

section Stops

variable {α : Type} {p : α → Prop} {a b r r' : List α}

/-- A text that does not go on with a unit of class `p`. -/
def Stops (p : α → Prop) : List α → Prop
  | [] => True
  | x :: _ => ¬ p x

/-- Two maximal runs of class `p` with the same text are the same run. -/
theorem Stops.append_inj (ha : ∀ x ∈ a, p x) (hb : ∀ x ∈ b, p x) (hr : Stops p r)
    (hr' : Stops p r') (h : a ++ r = b ++ r') : a = b ∧ r = r' := by
  induction a generalizing b with
  | nil =>
    cases b with
    | nil => exact ⟨rfl, h⟩
    | cons y b =>
      rw [List.nil_append] at h
      -- `r` would start with a unit of `b`, but it stops the run
      rw [h] at hr
      exact absurd (hb y List.mem_cons_self) hr
  | cons x a ih =>
    cases b with
    | nil =>
      rw [List.nil_append] at h
      rw [← h] at hr'
      exact absurd (ha x List.mem_cons_self) hr'
    | cons y b =>
      obtain ⟨rfl, h'⟩ := List.cons.inj h
      obtain ⟨rfl, hr''⟩ := ih (fun z hz => ha z (List.mem_cons_of_mem _ hz))
        (fun z hz => hb z (List.mem_cons_of_mem _ hz)) h'
      exact ⟨rfl, hr''⟩

end Stops

/-! ## Digits -/

def isDigit (c : CodeUnit) : Prop := 0x30 ≤ c.val ∧ c.val ≤ 0x39

instance : DecidablePred isDigit :=
  fun c => inferInstanceAs (Decidable (0x30 ≤ c.val ∧ c.val ≤ 0x39))

def digitUnit (d : Nat) : CodeUnit := Fin.ofNat 65536 (0x30 + d)

def digitsText (ds : List Nat) : Text := ds.map digitUnit

theorem digitUnit_inj {d e : Nat} (hd : d < 10) (he : e < 10)
    (h : digitUnit d = digitUnit e) : d = e := by
  have hval := congrArg Fin.val h
  rw [digitUnit, digitUnit, Fin.val_ofNat, Fin.val_ofNat, Nat.mod_eq_of_lt (by omega),
    Nat.mod_eq_of_lt (by omega)] at hval
  omega

theorem isDigit_digitUnit {d : Nat} (hd : d < 10) : isDigit (digitUnit d) := by
  rw [isDigit, digitUnit, Fin.val_ofNat, Nat.mod_eq_of_lt (by omega)]
  omega

theorem isDigit_of_mem_digitsText {ds : List Nat} (hds : ∀ d ∈ ds, d < 10) :
    ∀ c ∈ digitsText ds, isDigit c := by
  intro c hc
  obtain ⟨d, hd, rfl⟩ := List.mem_map.mp hc
  exact isDigit_digitUnit (hds d hd)

theorem digitsText_inj {ds es : List Nat} (hds : ∀ d ∈ ds, d < 10) (hes : ∀ e ∈ es, e < 10)
    (h : digitsText ds = digitsText es) : ds = es := by
  induction ds generalizing es with
  | nil => exact (List.map_eq_nil_iff.mp h.symm).symm
  | cons d ds ih =>
    cases es with
    | nil => cases h
    | cons e es =>
      obtain ⟨hde, hrest⟩ := List.cons.inj h
      rw [digitUnit_inj (hds d List.mem_cons_self) (hes e List.mem_cons_self) hde,
        ih (fun x hx => hds x (List.mem_cons_of_mem _ hx))
          (fun x hx => hes x (List.mem_cons_of_mem _ hx)) hrest]

/-- The digits of a natural number, most significant first (`0` is one digit). -/
def natDigits (n : Nat) : List Nat := if n = 0 then [0] else (Nat.digits 10 n).reverse

theorem natDigits_lt {n : Nat} : ∀ d ∈ natDigits n, d < 10 := by
  intro d hd
  unfold natDigits at hd
  split at hd
  · rw [List.mem_singleton.mp hd]
    decide
  · exact Nat.digits_lt_base (by decide) (List.mem_reverse.mp hd)

theorem natDigits_inj {m n : Nat} (h : natDigits m = natDigits n) : m = n := by
  have key : ∀ {k : Nat}, Nat.ofDigits 10 (natDigits k).reverse = k := by
    intro k
    unfold natDigits
    split
    · next hk => rw [hk]; rfl
    · rw [List.reverse_reverse, Nat.ofDigits_digits]
  rw [← @key m, ← @key n, h]

/-! ## The layouts of a decimal -/

/-- A decimal as it is laid out: digits, digits after a point, an exponent. -/
structure Numeral where
  int : List Nat
  frac : Option (List Nat)
  exp : Option Int
deriving DecidableEq

/-- An exponent: its sign is always written. -/
def exponentText (e : Int) : Text :=
  0x65 :: (if 0 ≤ e then 0x2B else 0x2D) :: digitsText (natDigits e.natAbs)

def fracText : Option (List Nat) → Text
  | none => []
  | some f => 0x2E :: digitsText f

def expText : Option Int → Text
  | none => []
  | some e => exponentText e

def Numeral.text (t : Numeral) : Text := digitsText t.int ++ (fracText t.frac ++ expText t.exp)

/-- The layout of the positive number `0.s × 10ⁿ`: `Number::toString`, steps 6 to 10. -/
def numeral (s : List Nat) (n : Int) : Numeral :=
  if s.length ≤ n ∧ n ≤ 21 then ⟨s ++ List.replicate (n - s.length).toNat 0, none, none⟩
  else if 0 < n ∧ n ≤ 21 then ⟨s.take n.toNat, some (s.drop n.toNat), none⟩
  else if -6 < n ∧ n ≤ 0 then ⟨[0], some (List.replicate (-n).toNat 0 ++ s), none⟩
  else ⟨s.take 1, if s.length = 1 then none else some (s.drop 1), some (n - 1)⟩

/-- All digits of a layout are digits. -/
structure Numeral.Wf (t : Numeral) : Prop where
  int : ∀ d ∈ t.int, d < 10
  frac : ∀ f ∈ t.frac, ∀ d ∈ f, d < 10

theorem not_isDigit_point : ¬ isDigit 0x2E := by decide

theorem not_isDigit_e : ¬ isDigit 0x65 := by decide

theorem stops_expText (e : Option Int) : Stops isDigit (expText e) := by
  cases e with
  | none => trivial
  | some e => exact not_isDigit_e

theorem stops_fracText (f : Option (List Nat)) (e : Option Int) :
    Stops isDigit (fracText f ++ expText e) := by
  cases f with
  | none => exact stops_expText e
  | some f => exact not_isDigit_point

theorem expText_inj {e e' : Option Int} (h : expText e = expText e') : e = e' := by
  cases e with
  | none =>
    cases e' with
    | none => rfl
    | some e' => cases h
  | some e =>
    cases e' with
    | none => cases h
    | some e' =>
      obtain ⟨-, h₁⟩ := List.cons.inj h
      obtain ⟨hsign, h₂⟩ := List.cons.inj h₁
      have habs := natDigits_inj (digitsText_inj natDigits_lt natDigits_lt h₂)
      congr 1
      split at hsign <;> split at hsign
      · omega
      · exact absurd hsign (by decide)
      · exact absurd hsign (by decide)
      · omega

theorem Numeral.text_inj {t t' : Numeral} (ht : t.Wf) (ht' : t'.Wf)
    (h : t.text = t'.text) : t = t' := by
  obtain ⟨int, frac, exp⟩ := t
  obtain ⟨int', frac', exp'⟩ := t'
  obtain ⟨hint, hrest⟩ : digitsText int = digitsText int' ∧
      fracText frac ++ expText exp = fracText frac' ++ expText exp' :=
        Stops.append_inj (isDigit_of_mem_digitsText ht.int)
    (isDigit_of_mem_digitsText ht'.int) (stops_fracText _ _) (stops_fracText _ _) h
  obtain rfl := digitsText_inj ht.int ht'.int hint
  -- the point comes before a fraction and `e` before an exponent, so no text has both readings
  cases frac with
  | none =>
    cases frac' with
    | none => rw [show exp = exp' from expText_inj hrest]
    | some f' =>
      cases exp with
      | none => cases hrest
      | some e => exact absurd (List.cons.inj hrest).1 (by decide)
  | some f =>
    cases frac' with
    | none =>
      cases exp' with
      | none => cases hrest
      | some e => exact absurd (List.cons.inj hrest).1 (by decide)
    | some f' =>
      have hf := ht.frac f rfl
      have hf' := ht'.frac f' rfl
      obtain ⟨hfrac, hexp⟩ := Stops.append_inj (isDigit_of_mem_digitsText hf)
        (isDigit_of_mem_digitsText hf') (stops_expText exp) (stops_expText exp')
        (List.cons.inj hrest).2
      rw [digitsText_inj hf hf' hfrac, expText_inj hexp]

/-! ## From the layout back to the digits -/

/-- Significant digits: not empty, no leading and no trailing zero. -/
structure Significant (s : List Nat) : Prop where
  lt : ∀ d ∈ s, d < 10
  head : ∀ d ∈ s.head?, d ≠ 0
  last : ∀ d ∈ s.getLast?, d ≠ 0
  ne_nil : s ≠ []

theorem Significant.head_ne {d : Nat} {s : List Nat} (h : Significant (d :: s)) : d ≠ 0 :=
  h.head d rfl

theorem numeral_wf {s : List Nat} (hs : Significant s) (n : Int) : (numeral s n).Wf := by
  have hzeros : ∀ (k : Nat), ∀ d ∈ List.replicate k 0, d < 10 := by
    intro k d hd
    rw [List.eq_of_mem_replicate hd]
    decide
  unfold numeral
  -- the four cases of the language's Number::toString
  split
  · refine ⟨fun d hd => ?_, fun f hf => nomatch hf⟩
    rcases List.mem_append.mp hd with hd | hd
    · exact hs.lt d hd
    · exact hzeros _ d hd
  split
  · refine ⟨fun d hd => hs.lt d (List.mem_of_mem_take hd), fun f hf d hd => ?_⟩
    obtain rfl := Option.some.inj hf
    exact hs.lt d (List.mem_of_mem_drop hd)
  split
  · refine ⟨fun d hd => ?_, fun f hf d hd => ?_⟩
    · rw [List.mem_singleton.mp hd]
      decide
    · obtain rfl := Option.some.inj hf
      rcases List.mem_append.mp hd with hd | hd
      · exact hzeros _ d hd
      · exact hs.lt d hd
  · refine ⟨fun d hd => hs.lt d (List.mem_of_mem_take hd), fun f hf d hd => ?_⟩
    split at hf
    · cases hf
    · obtain rfl := Option.some.inj hf
      exact hs.lt d (List.mem_of_mem_drop hd)

/-- Leading zeros can be told from a text that does not start with one. -/
theorem zeros_append_inj {t t' : List Nat} (ht : Stops (· = 0) t) (ht' : Stops (· = 0) t')
    {a b : Nat} (h : List.replicate a 0 ++ t = List.replicate b 0 ++ t') : t = t' ∧ a = b := by
  obtain ⟨hz, hrest⟩ := Stops.append_inj (fun d hd => List.eq_of_mem_replicate hd)
    (fun d hd => List.eq_of_mem_replicate hd) ht ht' h
  refine ⟨hrest, ?_⟩
  simpa using congrArg List.length hz

theorem Significant.stops {s : List Nat} (hs : Significant s) : Stops (· = 0) s := by
  cases s with
  | nil => trivial
  | cons d s => exact hs.head d rfl

theorem Significant.stops_reverse {s : List Nat} (hs : Significant s) :
    Stops (· = 0) s.reverse := by
  cases hrev : s.reverse with
  | nil => trivial
  | cons d t =>
    refine hs.last d ?_
    rw [← List.head?_reverse, hrev]
    rfl

/-- Trailing zeros can be told from significant digits. -/
theorem append_zeros_inj {s s' : List Nat} (hs : Significant s) (hs' : Significant s')
    {a b : Nat} (h : s ++ List.replicate a 0 = s' ++ List.replicate b 0) : s = s' ∧ a = b := by
  have hrev := congrArg List.reverse h
  rw [List.reverse_append, List.reverse_append, List.reverse_replicate,
    List.reverse_replicate] at hrev
  obtain ⟨hss, hab⟩ := zeros_append_inj hs.stops_reverse hs'.stops_reverse hrev
  exact ⟨List.reverse_injective hss, hab⟩

/-- The four layouts, with what each says about the position of the point. -/
theorem numeral_cases (s : List Nat) (n : Int) :
    (s.length ≤ n ∧
      numeral s n = ⟨s ++ List.replicate (n - s.length).toNat 0, none, none⟩) ∨
    (0 < n ∧ n < s.length ∧ numeral s n = ⟨s.take n.toNat, some (s.drop n.toNat), none⟩) ∨
    (n ≤ 0 ∧ numeral s n = ⟨[0], some (List.replicate (-n).toNat 0 ++ s), none⟩) ∨
    numeral s n = ⟨s.take 1, if s.length = 1 then none else some (s.drop 1), some (n - 1)⟩ := by
  unfold numeral
  split
  · next h => exact Or.inl ⟨h.1, rfl⟩
  split
  · next h₁ h₂ => exact Or.inr (Or.inl ⟨h₂.1, by omega, rfl⟩)
  split
  · next h => exact Or.inr (Or.inr (Or.inl ⟨h.2, rfl⟩))
  · exact Or.inr (Or.inr (Or.inr rfl))

/-- The layout with a point inside the digits is not the one with leading zeros. -/
theorem Significant.take_ne_zero {s : List Nat} (hs : Significant s) {n : Int} (hn : 0 < n) :
    s.take n.toNat ≠ [0] := by
  intro h
  cases s with
  | nil => exact hs.ne_nil rfl
  | cons d s =>
    obtain ⟨k, hk⟩ : ∃ k, n.toNat = k + 1 := ⟨n.toNat - 1, by omega⟩
    rw [hk, List.take_succ_cons] at h
    exact hs.head_ne (List.cons.inj h).1

/-- The exponent layout determines the digits. -/
theorem take_one_inj {s s' : List Nat} (hs : Significant s) (hs' : Significant s')
    (hint : s.take 1 = s'.take 1)
    (hfrac : (if s.length = 1 then none else some (s.drop 1))
      = if s'.length = 1 then none else some (s'.drop 1)) : s = s' := by
  cases s with
  | nil => exact absurd rfl hs.ne_nil
  | cons d s =>
    cases s' with
    | nil => exact absurd rfl hs'.ne_nil
    | cons d' s' =>
      obtain rfl : d = d' := (List.cons.inj hint).1
      cases s <;> cases s' <;> simp_all

theorem numeral_inj {s s' : List Nat} (hs : Significant s) (hs' : Significant s')
    {n n' : Int} (h : numeral s n = numeral s' n') : s = s' ∧ n = n' := by
  rcases numeral_cases s n with ⟨hn, heq⟩ | ⟨hn, hn₂, heq⟩ | ⟨hn, heq⟩ | heq <;>
    rcases numeral_cases s' n' with ⟨hn', heq'⟩ | ⟨hn', hn₂', heq'⟩ | ⟨hn', heq'⟩ | heq' <;>
    rw [heq, heq'] at h <;> injection h with hint hfrac hexp
  -- the sixteen pairs of layouts: all but the diagonal differ in a part that is there or not
  · obtain ⟨rfl, hz⟩ := append_zeros_inj hs hs' hint
    exact ⟨rfl, by omega⟩
  · cases hfrac
  · cases hfrac
  · cases hexp
  · cases hfrac
  · have hlen := congrArg List.length hint
    rw [List.length_take, List.length_take] at hlen
    obtain rfl : n = n' := by omega
    refine ⟨?_, rfl⟩
    rw [← List.take_append_drop n.toNat s, hint, Option.some.inj hfrac,
      List.take_append_drop]
  · exact absurd hint (hs.take_ne_zero hn)
  · cases hexp
  · cases hfrac
  · exact absurd hint.symm (hs'.take_ne_zero hn')
  · obtain ⟨rfl, hz⟩ := zeros_append_inj hs.stops hs'.stops (Option.some.inj hfrac)
    exact ⟨rfl, by omega⟩
  · cases hexp
  · cases hexp
  · cases hexp
  · cases hexp
  · have hn := Option.some.inj hexp
    exact ⟨take_one_inj hs hs' hint hfrac, by omega⟩

/-! ## Numbers -/

/-- A finite `Number`: `mantissa / 10 ^ scale`, where only an integer has a
mantissa that ends in a zero. -/
structure Number where
  mantissa : Int
  scale : Nat
  canonical : scale = 0 ∨ mantissa % 10 ≠ 0
deriving DecidableEq

namespace Number

def ofInt (n : Int) : Number := ⟨n, 0, Or.inl rfl⟩

theorem ofInt_inj {m n : Int} (h : ofInt m = ofInt n) : m = n := congrArg mantissa h

/-- The significant digits of a magnitude, most significant first. -/
def significant (m : Nat) : List Nat := ((Nat.digits 10 m).dropWhile (· = 0)).reverse

/-- Where the decimal point stands, counted from before the first digit. -/
def point (m scale : Nat) : Int := (Nat.digits 10 m).length - scale

/-- The digits of a number without its sign. -/
def magnitudeText (m scale : Nat) : Text := (numeral (significant m) (point m scale)).text

/-- `Number::toString`. -/
def toText (x : Number) : Text :=
  if x.mantissa = 0 then [0x30]
  else if x.mantissa < 0 then 0x2D :: magnitudeText x.mantissa.natAbs x.scale
  else magnitudeText x.mantissa.natAbs x.scale

example : toText (ofInt 1200) = utf16 "1200" := by decide
example : toText ⟨-15, 8, Or.inr (by decide)⟩ = utf16 "-1.5e-7" := by decide

/-- The digits of a magnitude, least significant first, are its trailing zeros
and then its significant digits. -/
theorem digits_eq_significant (m : Nat) :
    ∃ a, Nat.digits 10 m = List.replicate a 0 ++ (significant m).reverse := by
  refine ⟨((Nat.digits 10 m).takeWhile (· = 0)).length, ?_⟩
  have hz : (Nat.digits 10 m).takeWhile (· = 0) =
      List.replicate ((Nat.digits 10 m).takeWhile (· = 0)).length 0 :=
    List.eq_replicate_of_mem fun d hd => by simpa using List.all_eq_true.mp List.all_takeWhile d hd
  rw [← hz, significant, List.reverse_reverse, List.takeWhile_append_dropWhile]

theorem significant_spec {m : Nat} (hm : m ≠ 0) : Significant (significant m) := by
  obtain ⟨a, ha⟩ := digits_eq_significant m
  have hne : Nat.digits 10 m ≠ [] := Nat.digits_ne_nil_iff_ne_zero.mpr hm
  have hlast : ∀ d ∈ (Nat.digits 10 m).getLast?, d ≠ 0 := by
    intro d hd
    rw [List.getLast?_eq_some_getLast hne] at hd
    rw [← Option.some.inj hd]
    exact Nat.getLast_digit_ne_zero 10 hm
  -- the most significant digit is not a trailing zero, so something is left
  have hsig : significant m ≠ [] := by
    intro h
    rw [h, List.reverse_nil, List.append_nil] at ha
    refine hlast 0 ?_ rfl
    rw [ha, List.getLast?_replicate, if_neg]
    · rfl
    · rintro rfl
      exact hne ha
  refine ⟨?_, ?_, ?_, hsig⟩
  · intro d hd
    refine Nat.digits_lt_base (by decide) (m := m) ?_
    rw [ha]
    exact List.mem_append_right _ (List.mem_reverse.mpr hd)
  · intro d hd
    refine hlast d ?_
    rw [ha, List.getLast?_append, List.getLast?_reverse, hd]
    rfl
  · intro d hd
    rw [significant, List.getLast?_reverse] at hd
    have hnot := List.head?_dropWhile_not (· = 0) (Nat.digits 10 m)
    rw [hd] at hnot
    simpa using hnot

/-- Only an integer has zeros after its significant digits. -/
theorem scale_or_zeros (x : Number) {a : Nat} {t : List Nat}
    (h : Nat.digits 10 x.mantissa.natAbs = List.replicate a 0 ++ t) : x.scale = 0 ∨ a = 0 := by
  rcases x.canonical with hx | hx
  · exact Or.inl hx
  · refine Or.inr ?_
    cases a with
    | zero => rfl
    | succ a =>
      rw [Nat.digits_def' (by decide) (by omega)] at h
      have := (List.cons.inj h).1
      omega

/-- The significant digits and the point give the magnitude and the scale back. -/
theorem significant_inj {x y : Number}
    (hs : significant x.mantissa.natAbs = significant y.mantissa.natAbs)
    (hp : point x.mantissa.natAbs x.scale = point y.mantissa.natAbs y.scale) :
    x.mantissa.natAbs = y.mantissa.natAbs ∧ x.scale = y.scale := by
  obtain ⟨a, ha⟩ := digits_eq_significant x.mantissa.natAbs
  obtain ⟨b, hb⟩ := digits_eq_significant y.mantissa.natAbs
  have hx := x.scale_or_zeros ha
  have hy := y.scale_or_zeros hb
  rw [point, point, ha, hb, hs, List.length_append, List.length_append, List.length_replicate,
    List.length_replicate] at hp
  have hab : a = b ∧ x.scale = y.scale := by omega
  refine ⟨Nat.digits.injective 10 ?_, hab.2⟩
  rw [ha, hb, hab.1, hs]

theorem magnitudeText_inj {x y : Number} (hx : x.mantissa ≠ 0) (hy : y.mantissa ≠ 0)
    (h : magnitudeText x.mantissa.natAbs x.scale = magnitudeText y.mantissa.natAbs y.scale) :
    x.mantissa.natAbs = y.mantissa.natAbs ∧ x.scale = y.scale := by
  have hsx := significant_spec (Int.natAbs_ne_zero.mpr hx)
  have hsy := significant_spec (Int.natAbs_ne_zero.mpr hy)
  obtain ⟨hs, hp⟩ := numeral_inj hsx hsy
    (Numeral.text_inj (numeral_wf hsx _) (numeral_wf hsy _) h)
  exact significant_inj hs hp

/-! ### The units of a number -/

/-- The units a number is written with. -/
def isNumberUnit (c : CodeUnit) : Prop :=
  isDigit c ∨ c = 0x2B ∨ c = 0x2D ∨ c = 0x2E ∨ c = 0x65

instance : DecidablePred isNumberUnit :=
  fun c => inferInstanceAs (Decidable (isDigit c ∨ c = 0x2B ∨ c = 0x2D ∨ c = 0x2E ∨ c = 0x65))

theorem isNumberUnit_of_mem_digitsText {ds : List Nat} (hds : ∀ d ∈ ds, d < 10) :
    ∀ c ∈ digitsText ds, isNumberUnit c :=
  fun c hc => Or.inl (isDigit_of_mem_digitsText hds c hc)

theorem isNumberUnit_of_mem_expText (e : Option Int) : ∀ c ∈ expText e, isNumberUnit c := by
  intro c hc
  cases e with
  | none => cases hc
  | some e =>
    rcases List.mem_cons.mp hc with rfl | hc
    · decide
    rcases List.mem_cons.mp hc with rfl | hc
    · split <;> decide
    · exact isNumberUnit_of_mem_digitsText natDigits_lt c hc

theorem isNumberUnit_of_mem_fracText {f : Option (List Nat)}
    (hf : ∀ ds ∈ f, ∀ d ∈ ds, d < 10) : ∀ c ∈ fracText f, isNumberUnit c := by
  intro c hc
  cases f with
  | none => cases hc
  | some f =>
    rcases List.mem_cons.mp hc with rfl | hc
    · decide
    · exact isNumberUnit_of_mem_digitsText (hf f rfl) c hc

theorem isNumberUnit_of_mem_numeral {t : Numeral} (ht : t.Wf) :
    ∀ c ∈ t.text, isNumberUnit c := by
  intro c hc
  rcases List.mem_append.mp hc with hc | hc
  · exact isNumberUnit_of_mem_digitsText ht.int c hc
  rcases List.mem_append.mp hc with hc | hc
  · exact isNumberUnit_of_mem_fracText ht.frac c hc
  · exact isNumberUnit_of_mem_expText _ c hc

/-- Every layout has a digit before the point. -/
theorem numeral_int_ne_nil {s : List Nat} (hs : Significant s) (n : Int) :
    (numeral s n).int ≠ [] := by
  have htake : ∀ {k : Nat}, 0 < k → s.take k ≠ [] := by
    intro k hk h
    rcases List.take_eq_nil_iff.mp h with h | h
    · omega
    · exact hs.ne_nil h
  rcases numeral_cases s n with ⟨-, heq⟩ | ⟨hn, -, heq⟩ | ⟨-, heq⟩ | heq <;> rw [heq]
  · exact List.append_ne_nil_of_left_ne_nil hs.ne_nil _
  · exact htake (by omega)
  · exact List.cons_ne_nil _ _
  · exact htake (by omega)

theorem magnitudeText_head {x : Number} (hx : x.mantissa ≠ 0) :
    ∃ c t, magnitudeText x.mantissa.natAbs x.scale = c :: t ∧ isDigit c := by
  have hs := significant_spec (Int.natAbs_ne_zero.mpr hx)
  have hwf := numeral_wf hs (point x.mantissa.natAbs x.scale)
  rw [magnitudeText, Numeral.text]
  cases hint : (numeral (significant x.mantissa.natAbs) (point x.mantissa.natAbs x.scale)).int with
  | nil => exact absurd hint (numeral_int_ne_nil hs _)
  | cons d ds =>
    exact ⟨digitUnit d, _, rfl, isDigit_digitUnit
      (hwf.int d (by rw [hint]; exact List.mem_cons_self))⟩

theorem isNumberUnit_of_mem_magnitudeText {x : Number} (hx : x.mantissa ≠ 0) :
    ∀ c ∈ magnitudeText x.mantissa.natAbs x.scale, isNumberUnit c :=
  isNumberUnit_of_mem_numeral
    (numeral_wf (significant_spec (Int.natAbs_ne_zero.mpr hx)) _)

theorem isNumberUnit_of_mem_toText (x : Number) : ∀ c ∈ x.toText, isNumberUnit c := by
  intro c hc
  unfold toText at hc
  split at hc
  · rw [List.mem_singleton.mp hc]
    decide
  next hx =>
  split at hc
  · rcases List.mem_cons.mp hc with rfl | hc
    · decide
    · exact isNumberUnit_of_mem_magnitudeText hx c hc
  · exact isNumberUnit_of_mem_magnitudeText hx c hc

/-- A number starts with a digit or a minus sign. -/
theorem toText_head (x : Number) : ∃ c t, x.toText = c :: t ∧ (isDigit c ∨ c = 0x2D) := by
  unfold toText
  split
  · exact ⟨0x30, [], rfl, Or.inl (by decide)⟩
  next hx =>
  split
  · exact ⟨0x2D, _, rfl, Or.inr rfl⟩
  · obtain ⟨c, t, heq, hc⟩ := magnitudeText_head hx
    exact ⟨c, t, heq, Or.inl hc⟩

/-! ### Injectivity -/

/-- No positive number prints as zero does. -/
theorem magnitudeText_ne_zero {x : Number} (hx : x.mantissa ≠ 0) :
    magnitudeText x.mantissa.natAbs x.scale ≠ [0x30] := by
  intro h
  have hs := significant_spec (Int.natAbs_ne_zero.mpr hx)
  have hzero : (⟨[0], none, none⟩ : Numeral).Wf :=
    ⟨fun d hd => by rw [List.mem_singleton.mp hd]; decide, fun f hf => nomatch hf⟩
  have heq := Numeral.text_inj (numeral_wf hs _) hzero h
  rcases numeral_cases (significant x.mantissa.natAbs) (point x.mantissa.natAbs x.scale) with
    ⟨-, hl⟩ | ⟨-, -, hl⟩ | ⟨-, hl⟩ | hl <;> rw [hl] at heq <;> injection heq with hint hfrac hexp
  · cases hsig : significant x.mantissa.natAbs with
    | nil => exact hs.ne_nil hsig
    | cons d ds =>
      rw [hsig] at hint hs
      exact hs.head_ne (List.cons.inj hint).1
  · cases hfrac
  · cases hfrac
  · cases hexp

/-- A minus sign tells a negative number from a positive one. -/
theorem magnitudeText_ne_minus {x : Number} (hx : x.mantissa ≠ 0) (t : Text) :
    magnitudeText x.mantissa.natAbs x.scale ≠ 0x2D :: t := by
  intro h
  obtain ⟨c, t', heq, hc⟩ := magnitudeText_head hx
  rw [heq] at h
  rw [(List.cons.inj h).1] at hc
  exact absurd hc (by decide)

theorem ext_magnitude {x y : Number} (hsign : x.mantissa < 0 ↔ y.mantissa < 0)
    (h : x.mantissa.natAbs = y.mantissa.natAbs ∧ x.scale = y.scale) : x = y := by
  obtain ⟨m, e, hx⟩ := x
  obtain ⟨m', e', hy⟩ := y
  dsimp only at hsign h
  obtain rfl : m = m' := by omega
  obtain rfl := h.2
  rfl

/-- **`Number::toString` is injective**: a number can be read back from its text. -/
theorem toText_inj {x y : Number} (h : x.toText = y.toText) : x = y := by
  -- zero is written as one digit, and no other number has that text
  unfold toText at h
  by_cases hx : x.mantissa = 0
  · rw [if_pos hx] at h
    by_cases hy : y.mantissa = 0
    · refine ext_magnitude (by omega) ⟨by omega, ?_⟩
      have := x.canonical
      have := y.canonical
      omega
    · rw [if_neg hy] at h
      split at h
      · exact absurd h (by simp)
      · exact absurd h.symm (magnitudeText_ne_zero hy)
  · rw [if_neg hx] at h
    by_cases hy : y.mantissa = 0
    · rw [if_pos hy] at h
      split at h
      · exact absurd h (by simp)
      · exact absurd h (magnitudeText_ne_zero hx)
    · rw [if_neg hy] at h
      -- both nonzero: the texts start with the same sign
      split at h <;> split at h
      · exact ext_magnitude (by omega) (magnitudeText_inj hx hy (List.cons.inj h).2)
      · exact absurd h.symm (magnitudeText_ne_minus hy _)
      · exact absurd h (magnitudeText_ne_minus hx _)
      · exact ext_magnitude (by omega) (magnitudeText_inj hx hy h)

/-- A number can be read back from any text that stops it. -/
theorem toText_append_inj {x y : Number} {r r' : Text} (hr : Stops isNumberUnit r)
    (hr' : Stops isNumberUnit r') (h : x.toText ++ r = y.toText ++ r') : x = y ∧ r = r' := by
  obtain ⟨htext, hrest⟩ := Stops.append_inj x.isNumberUnit_of_mem_toText
    y.isNumberUnit_of_mem_toText hr hr' h
  exact ⟨toText_inj htext, hrest⟩

/-- A number can be read back from the end of a text that stops before it. -/
theorem append_toText_inj {x y : Number} {r r' : Text} (hr : Stops isNumberUnit r.reverse)
    (hr' : Stops isNumberUnit r'.reverse) (h : r ++ x.toText = r' ++ y.toText) :
    r = r' ∧ x = y := by
  have hrev := congrArg List.reverse h
  rw [List.reverse_append, List.reverse_append] at hrev
  obtain ⟨htext, hrest⟩ := Stops.append_inj
    (fun c hc => x.isNumberUnit_of_mem_toText c (List.mem_reverse.mp hc))
    (fun c hc => y.isNumberUnit_of_mem_toText c (List.mem_reverse.mp hc)) hr hr' hrev
  exact ⟨List.reverse_injective hrest, toText_inj (List.reverse_injective htext)⟩

end Number

end Js
