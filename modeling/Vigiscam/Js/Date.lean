import Mathlib.Order.Basic
import Vigiscam.Js.Number

/-!
# JavaScript dates as text

A valid `Date` is represented by its UTC calendar fields, which is what
`toISOString` prints: a four-digit year, or a sign and six digits outside
0 … 9999. The calendar fields can be read back from the text
(`Date.toISOString_inj`).
-/

namespace Js

/-- The `width` decimal digits of `n`, most significant first. -/
def padded : Nat → Nat → Text
  | 0, _ => []
  | width + 1, n => padded width (n / 10) ++ [digitUnit (n % 10)]

theorem length_padded (width n : Nat) : (padded width n).length = width := by
  induction width generalizing n with
  | zero => rfl
  | succ width ih => rw [padded, List.length_append, ih, List.length_singleton]

theorem isDigit_of_mem_padded {width n : Nat} : ∀ c ∈ padded width n, isDigit c := by
  induction width generalizing n with
  | zero =>
    intro c hc
    exact absurd hc List.not_mem_nil
  | succ width ih =>
    intro c hc
    rcases List.mem_append.mp hc with hc | hc
    · exact ih c hc
    · rw [List.mem_singleton.mp hc]
      exact isDigit_digitUnit (Nat.mod_lt _ (by omega))

theorem padded_inj {width m n : Nat} (hm : m < 10 ^ width) (hn : n < 10 ^ width)
    (h : padded width m = padded width n) : m = n := by
  induction width generalizing m n with
  | zero =>
    rw [Nat.pow_zero] at hm hn
    omega
  | succ width ih =>
    rw [Nat.pow_succ] at hm hn
    obtain ⟨hquot, hrem⟩ := List.append_inj' h rfl
    have hdiv := ih (by omega) (by omega) hquot
    have hmod := digitUnit_inj (Nat.mod_lt m (by omega)) (Nat.mod_lt n (by omega))
      (List.cons.inj hrem).1
    omega

/-- Two padded numbers of one width can be told apart in front of any text. -/
theorem padded_append_inj {width m n : Nat} {r r' : Text} (hm : m < 10 ^ width)
    (hn : n < 10 ^ width) (h : padded width m ++ r = padded width n ++ r') :
    m = n ∧ r = r' := by
  obtain ⟨htext, hrest⟩ := List.append_inj h (by rw [length_padded, length_padded])
  exact ⟨padded_inj hm hn htext, hrest⟩

def daysIn (year : Int) (month : Nat) : Nat :=
  if month = 2 then
    if year % 4 = 0 ∧ (year % 100 ≠ 0 ∨ year % 400 = 0) then 29 else 28
  else if month = 4 ∨ month = 6 ∨ month = 9 ∨ month = 11 then 30
  else 31

/-- A valid date, by its UTC calendar fields. -/
structure Date where
  year : Int
  month : Nat
  day : Nat
  hour : Nat
  minute : Nat
  second : Nat
  millisecond : Nat
  year_range : year.natAbs ≤ 275760
  month_range : 1 ≤ month ∧ month ≤ 12
  day_range : 1 ≤ day ∧ day ≤ daysIn year month
  time_range : hour < 24 ∧ minute < 60 ∧ second < 60 ∧ millisecond < 1000
deriving DecidableEq

namespace Date

/-- A year of four digits, or of a sign and six digits. -/
def yearText (y : Int) : Text :=
  if y < 0 then 0x2D :: padded 6 y.natAbs
  else if y ≤ 9999 then padded 4 y.natAbs
  else 0x2B :: padded 6 y.natAbs

/-- `Date.prototype.toISOString`. -/
def toISOString (d : Date) : Text :=
  yearText d.year ++ 0x2D :: (padded 2 d.month ++ 0x2D :: (padded 2 d.day ++ 0x54 ::
    (padded 2 d.hour ++ 0x3A :: (padded 2 d.minute ++ 0x3A :: (padded 2 d.second ++ 0x2E ::
      (padded 3 d.millisecond ++ [0x5A]))))))

example : toISOString ⟨2026, 1, 9, 0, 0, 0, 7, by decide, by decide, by decide, by decide⟩
    = utf16 "2026-01-09T00:00:00.007Z" := by decide

/-- Noon of the same day. -/
def noon (d : Date) : Date :=
  { d with
    hour := 12
    minute := 0
    second := 0
    millisecond := 0
    time_range := by decide }

/-- A day of January 2026, at midnight. -/
def january (day : Nat) (h : 1 ≤ day ∧ day ≤ 31) : Date :=
  ⟨2026, 1, day, 0, 0, 0, 0, by decide, by decide, h, by decide⟩

/-- The day of most samples. -/
def sampleDay : Date := january 9 (by decide)

/-- A day two years before. -/
def newYear : Date := ⟨2024, 1, 1, 0, 0, 0, 0, by decide, by decide, by decide, by decide⟩

/-- A digit at the front tells an unsigned year from a signed one. -/
theorem padded_ne_sign {width n : Nat} {c : CodeUnit} {r r' : Text} (hc : ¬ isDigit c) :
    padded (width + 1) n ++ r ≠ c :: r' := by
  intro h
  cases htext : padded (width + 1) n with
  | nil =>
    have hlen := length_padded (width + 1) n
    rw [htext] at hlen
    exact absurd hlen (by simp)
  | cons d t =>
    rw [htext] at h
    refine hc ?_
    rw [← (List.cons.inj h).1]
    exact isDigit_of_mem_padded d (htext ▸ List.mem_cons_self)

theorem yearText_append_inj {y z : Int} {r r' : Text} (hy : y.natAbs ≤ 275760)
    (hz : z.natAbs ≤ 275760) (h : yearText y ++ r = yearText z ++ r') : y = z ∧ r = r' := by
  have hminus : ¬ isDigit 0x2D := by decide
  have hplus : ¬ isDigit 0x2B := by decide
  unfold yearText at h
  -- four digits, or a sign and six: the first unit tells them apart
  split at h
  · split at h
    · obtain ⟨habs, hrest⟩ := padded_append_inj (by omega) (by omega) (List.cons.inj h).2
      exact ⟨by omega, hrest⟩
    split at h
    · exact absurd h.symm (padded_ne_sign hminus)
    · exact absurd (List.cons.inj h).1 (by decide)
  split at h
  · split at h
    · exact absurd h (padded_ne_sign hminus)
    split at h
    · obtain ⟨habs, hrest⟩ := padded_append_inj (by omega) (by omega) h
      exact ⟨by omega, hrest⟩
    · exact absurd h (padded_ne_sign hplus)
  · split at h
    · exact absurd (List.cons.inj h).1 (by decide)
    split at h
    · exact absurd h.symm (padded_ne_sign hplus)
    · obtain ⟨habs, hrest⟩ := padded_append_inj (by omega) (by omega) (List.cons.inj h).2
      exact ⟨by omega, hrest⟩

theorem day_le (d : Date) : d.day ≤ 31 := by
  have hle : daysIn d.year d.month ≤ 31 := by
    unfold daysIn
    repeat' split
    all_goals omega
  exact le_trans d.day_range.2 hle

theorem day_lt (d : Date) : d.day < 10 ^ 2 := by
  have hday := d.day_le
  omega

/-- **`toISOString` is injective.** -/
theorem toISOString_inj {a b : Date} (h : a.toISOString = b.toISOString) : a = b := by
  have hmonths := a.month_range
  have hmonths' := b.month_range
  have htime := a.time_range
  have htime' := b.time_range
  unfold toISOString at h
  obtain ⟨hyear, h⟩ := yearText_append_inj a.year_range b.year_range h
  obtain ⟨hmonth, h⟩ := padded_append_inj (by omega) (by omega) (List.cons.inj h).2
  obtain ⟨hday, h⟩ := padded_append_inj a.day_lt b.day_lt (List.cons.inj h).2
  obtain ⟨hhour, h⟩ := padded_append_inj (by omega) (by omega) (List.cons.inj h).2
  obtain ⟨hminute, h⟩ := padded_append_inj (by omega) (by omega) (List.cons.inj h).2
  obtain ⟨hsecond, h⟩ := padded_append_inj (by omega) (by omega) (List.cons.inj h).2
  obtain ⟨hmilli, -⟩ := padded_append_inj (by omega) (by omega) (List.cons.inj h).2
  cases a
  cases b
  simp_all

/-! ## The time value -/

/-- The days from the first of January 1970 to a day of the calendar. A year is counted
from its March, so that a leap day is its last day. -/
def dayNumber (year : Int) (month day : Nat) : Int :=
  let y := if month ≤ 2 then year - 1 else year
  let m : Int := if month ≤ 2 then month + 9 else month - 3
  let era := y / 400
  let yearOfEra := y - era * 400
  let dayOfYear := (153 * m + 2) / 5 + day - 1
  era * 146097 + (yearOfEra * 365 + yearOfEra / 4 - yearOfEra / 100 + dayOfYear) - 719468

/-- `getTime`: the milliseconds since the first of January 1970. -/
def getTime (d : Date) : Int :=
  (((dayNumber d.year d.month d.day * 24 + d.hour) * 60 + d.minute) * 60 + d.second) * 1000
    + d.millisecond

example : getTime ⟨2000, 3, 1, 0, 0, 0, 7, by decide, by decide, by decide, by decide⟩
    = 951868800007 := by decide

/-! ## The order of dates -/

/-- A number that grows with the date: its fields as digits of mixed bases. -/
def ordinal (d : Date) : Int :=
  (((((d.year * 13 + d.month) * 32 + d.day) * 24 + d.hour) * 60 + d.minute) * 60 + d.second) * 1000
    + d.millisecond

theorem ordinal_injective : Function.Injective ordinal := by
  intro a b h
  have hmonths := a.month_range
  have hmonths' := b.month_range
  have hday : a.day < 32 := lt_of_le_of_lt a.day_le (by decide)
  have hday' : b.day < 32 := lt_of_le_of_lt b.day_le (by decide)
  have htime := a.time_range
  have htime' := b.time_range
  unfold ordinal at h
  have hmilli : a.millisecond = b.millisecond := by omega
  have hsecond : a.second = b.second := by omega
  have hminute : a.minute = b.minute := by omega
  have hhour : a.hour = b.hour := by omega
  have hdays : a.day = b.day := by omega
  have hmonth : a.month = b.month := by omega
  have hyear : a.year = b.year := by omega
  cases a
  cases b
  simp_all

instance : LinearOrder Date := LinearOrder.lift' ordinal ordinal_injective

end Date

end Js
