import Vigiscam.Js.RegexSearch
import Vigiscam.ScamMirror.Accepted
import Vigiscam.ScamMirror.Luhn

/-!
# The card numbers that the sanitizer finds (`sanitizer.ts`)

`hasCreditCard` reads a text from left to right. Where a digit stands with no unit of a word before
it, it goes on to the end of the group in which the 13th digit stands, over any spaces and dashes;
where that group ends by the 19th digit and no unit of a word follows, the digits are checked, and
the search goes on behind them. A number with other digits before it is hidden by what they make of
its start, and one of several groups behind its 13th digit is cut short.
-/

namespace ScamMirror

open Js CheckDigits
open Regex hiding alt

/-- The digits `ds` stand in a text one after the other, with a text of `gap` between any two. -/
inductive Spelled (gap : Text → Prop) : Text → Text → Prop where
  | one {d : CodeUnit} (hd : isDigit d) : Spelled gap [d] [d]
  | cons {d : CodeUnit} {s ds w : Text} (hd : isDigit d) (hs : gap s) (h : Spelled gap ds w) :
      Spelled gap (d :: ds) (d :: (s ++ w))

/-- `[ -]*` -/
def Gap (s : Text) : Prop := ∀ u ∈ s, isSeparator u = true

/-- Nothing, or a single space or dash. -/
def ShortGap (s : Text) : Prop := Gap s ∧ s.length ≤ 1

/-- A number as the search takes it: the group of the 13th digit is the last one. -/
def CardNumber (ds w : Text) : Prop :=
  ∃ front v group, Spelled Gap front v ∧ front.length = 13 ∧ (∀ u ∈ group, isDigit u) ∧
    group.length ≤ 6 ∧ ds = front ++ group ∧ w = v ++ group

/-- No unit of a word is next to what stands between two positions. -/
structure Apart (c e : Cursor) : Prop where
  before : c.last.any isWordUnit = false
  behind : e.rest.head?.any isWordUnit = false

/-- A number stands here, up to `e`. -/
def CardNumberAt (ds : Text) (c e : Cursor) : Prop := ∃ w, CardNumber ds w ∧ c.Reads w e ∧ Apart c e

/-! ## The rounds -/

section Rounds

variable {c e : Cursor} {d u : CodeUnit} {s w : Text} {last : Option CodeUnit} {more n : Nat}

/-- `\d[ -]*?` -/
def round : Cursor → List Cursor := (seq digit (manyLazy isSeparator)).ends

theorem isWordUnit_of_isDigit (h : isDigit d) : isWordUnit d = true := by
  simp [isWordUnit, isAlnum, h]

theorem isSeparator_spec (h : isSeparator u = true) : ¬ isDigit u ∧ isWordUnit u = false := by
  simp only [isSeparator, Bool.or_eq_true, decide_eq_true_eq] at h
  rcases h with rfl | rfl <;> decide

theorem round_cons (hu : isDigit u) : round ⟨last, u :: s⟩ = manyEnds isSeparator (some u) s := by
  show (digit.ends ⟨last, u :: s⟩).flatMap (manyLazy isSeparator).ends = _
  rw [digit, ends, if_pos (decide_eq_true hu), List.flatMap_singleton]
  rfl

theorem round_eq_nil (h : ∀ u ∈ c.rest.head?, ¬ isDigit u) : round c = [] := by
  obtain ⟨last, s⟩ := c
  cases s with
  | nil => rfl
  | cons u s =>
    show (digit.ends ⟨last, u :: s⟩).flatMap (manyLazy isSeparator).ends = _
    rw [digit, ends, if_neg (by simpa using h u rfl), List.flatMap_nil]

/-- A round goes on. -/
theorem filter_round (hu : isDigit u) :
    (round ⟨last, u :: s⟩).filter (·.rest ≠ u :: s) = round ⟨last, u :: s⟩ := by
  rw [List.filter_eq_self, round_cons hu]
  intro e he
  obtain ⟨w, hw, -⟩ := word_of_manyEnds he
  rw [decide_eq_true_eq]
  intro hsame
  have hrest : s = w ++ e.rest := hw.rest
  have hlength := congrArg List.length hrest
  rw [List.length_append, hsame, List.length_cons] at hlength
  omega

/-- The first end at an edge, after more rounds. -/
def firstMore (more : Nat) (c : Cursor) : Option Cursor :=
  (moreEnds round more c).find? Cursor.atEdge

/-- Behind a digit with no other digit next to it there is nothing to be read. -/
theorem firstMore_of_not_digit (hd : isDigit d) (h : ∀ u ∈ s.head?, ¬ isDigit u) :
    firstMore more ⟨some d, s⟩ =
      if s.head?.any isWordUnit = false then some ⟨some d, s⟩ else none := by
  have hedge : (⟨some d, s⟩ : Cursor).atEdge = !s.head?.any isWordUnit := by
    simp [Cursor.atEdge, isWordUnit_of_isDigit hd]
  rw [firstMore, moreEnds_of_round_eq_nil round (round_eq_nil h), List.find?_singleton, hedge]
  cases s.head?.any isWordUnit <;> rfl

/-- Where a digit has separators behind it, the search ends before them. -/
theorem findSome?_firstMore (hd : isDigit d) :
    (manyEnds isSeparator (some d) s).findSome? (firstMore more) = firstMore more ⟨some d, s⟩ := by
  cases s with
  | nil => rw [manyEnds, List.findSome?_singleton]
  | cons u s =>
    rw [manyEnds]
    by_cases hu : isSeparator u = true
    · obtain ⟨hdigit, hword⟩ := isSeparator_spec hu
      have hfirst : firstMore more ⟨some d, u :: s⟩ = some ⟨some d, u :: s⟩ := by
        rw [firstMore_of_not_digit hd (by simpa using hdigit), if_pos (by simpa using hword)]
      rw [List.findSome?_cons, hfirst]
    · rw [if_neg hu, List.findSome?_singleton]

theorem firstMore_digit (hd : isDigit d) (hu : isDigit u) :
    firstMore more ⟨some d, u :: s⟩ =
      match more with
      | 0 => none
      | more + 1 => firstMore more ⟨some u, s⟩ := by
  have hedge : [(⟨some d, u :: s⟩ : Cursor)].find? Cursor.atEdge = none := by
    simp [Cursor.atEdge, isWordUnit_of_isDigit hd, isWordUnit_of_isDigit hu]
  cases more with
  | zero => exact hedge
  | succ more =>
    rw [firstMore, find?_moreEnds_succ, filter_round hu, round_cons hu, hedge, Option.or_none]
    exact findSome?_firstMore hu

/-- What is left of a group is read up to its end, in no more than `more` rounds. -/
def GroupEnds (more : Nat) (c e : Cursor) : Prop :=
  ∃ group, (∀ u ∈ group, isDigit u) ∧ group.length ≤ more ∧ c.Reads group e ∧
    e.rest.head?.any isWordUnit = false

theorem eq_of_reads_nil (h : c.Reads [] e) : e = c := by
  obtain ⟨last, rest⟩ := e
  rw [show rest = c.rest from h.rest.symm, show last = c.last from h.last]

theorem groupEnds_of_not_digit (h : ∀ u ∈ c.rest.head?, ¬ isDigit u) :
    GroupEnds more c e ↔ e = c ∧ c.rest.head?.any isWordUnit = false := by
  constructor
  · rintro ⟨group, hgroup, -, hreads, hedge⟩
    cases group with
    | nil =>
      obtain rfl := eq_of_reads_nil hreads
      exact ⟨rfl, hedge⟩
    | cons u group => exact absurd (hgroup u List.mem_cons_self) (h u (by rw [hreads.rest]; rfl))
  · rintro ⟨rfl, hedge⟩
    exact ⟨[], by simp, Nat.zero_le _, .refl _, hedge⟩

theorem groupEnds_digit (hu : isDigit u) : GroupEnds more ⟨last, u :: s⟩ e ↔
    ∃ m, more = m + 1 ∧ GroupEnds m ⟨some u, s⟩ e := by
  constructor
  · rintro ⟨group, hgroup, hlength, hreads, hedge⟩
    cases group with
    | nil =>
      obtain rfl := eq_of_reads_nil hreads
      simp [isWordUnit_of_isDigit hu] at hedge
    | cons u' group =>
      obtain ⟨rfl, hrest⟩ := List.cons.inj hreads.rest
      rw [List.length_cons] at hlength
      exact ⟨more - 1, by omega, group, (List.forall_mem_cons.mp hgroup).2, by omega,
        ⟨hrest, hreads.last⟩, hedge⟩
  · rintro ⟨m, rfl, group, hgroup, hlength, hreads, hedge⟩
    exact ⟨u :: group, List.forall_mem_cons.mpr ⟨hu, hgroup⟩, Nat.succ_le_succ hlength,
      ⟨congrArg (u :: ·) hreads.rest, hreads.last⟩, hedge⟩

theorem firstMore_iff_of_not_digit (hd : isDigit d) (h : ∀ u ∈ s.head?, ¬ isDigit u) :
    firstMore more ⟨some d, s⟩ = some e ↔ GroupEnds more ⟨some d, s⟩ e := by
  rw [firstMore_of_not_digit hd h, groupEnds_of_not_digit h]
  split
  · next hedge => rw [Option.some_inj, eq_comm, and_iff_left hedge]
  · next hedge => exact iff_of_false (fun hnone => nomatch hnone) fun hboth => hedge hboth.2

/-- After a digit, the search ends with its group. The induction is on the text: each digit of the
group takes one of the rounds. -/
theorem firstMore_iff (hd : isDigit d) :
    firstMore more ⟨some d, s⟩ = some e ↔ GroupEnds more ⟨some d, s⟩ e := by
  induction s generalizing d more with
  | nil => exact firstMore_iff_of_not_digit hd (by simp)
  | cons u s ih =>
    by_cases hu : isDigit u
    · rw [firstMore_digit hd hu, groupEnds_digit hu]
      cases more with
      | zero => simp
      | succ more =>
        exact (ih hu).trans ⟨fun h => ⟨more, rfl, h⟩, fun ⟨m, hm, h⟩ => Nat.succ.inj hm ▸ h⟩
    · exact firstMore_iff_of_not_digit hd (by simpa using hu)

/-! ## The digits that are needed -/

/-- The first end at an edge, after `n` rounds that are needed. -/
def firstRep (more n : Nat) (c : Cursor) : Option Cursor :=
  (repEnds round more n c).find? Cursor.atEdge

theorem head?_spelled {gap : Text → Prop} {ds w : Text} (h : Spelled gap ds w) :
    ∃ d rest, isDigit d ∧ w = d :: rest := by
  cases h with
  | one hd => exact ⟨_, [], hd, rfl⟩
  | cons hd hs h => exact ⟨_, _, hd, rfl⟩

theorem firstRep_of_not_digit (h : ∀ u ∈ c.rest.head?, ¬ isDigit u) :
    firstRep more (n + 1) c = none := by
  rw [firstRep, find?_repEnds_succ, round_eq_nil h, List.findSome?_nil]

/-- So many digits are read, and the group of the last one. -/
def DigitsEnd (more n : Nat) (c e : Cursor) : Prop :=
  ∃ ds v m, Spelled Gap ds v ∧ ds.length = n ∧ c.Reads v m ∧ GroupEnds more m e

theorem not_digitsEnd_of_not_digit (h : ∀ u ∈ c.rest.head?, ¬ isDigit u) :
    ¬ DigitsEnd more n c e := by
  rintro ⟨ds, v, m, hv, -, hreads, -⟩
  obtain ⟨d, rest, hd, rfl⟩ := head?_spelled hv
  exact h d (by rw [hreads.rest]; rfl) hd

theorem digitsEnd_one (hu : isDigit u) :
    DigitsEnd more 1 ⟨last, u :: s⟩ e ↔ GroupEnds more ⟨some u, s⟩ e := by
  constructor
  · rintro ⟨ds, v, m, hv, hlength, hreads, hgroup⟩
    cases hv with
    | one hd =>
      obtain ⟨rfl, hrest⟩ := List.cons.inj hreads.rest
      rwa [eq_of_reads_nil (c := ⟨some u, s⟩) ⟨hrest, hreads.last⟩] at hgroup
    | cons hd hs hv =>
      cases hv <;> simp at hlength
  · intro hgroup
    exact ⟨[u], [u], _, .one hu, rfl, ⟨rfl, rfl⟩, hgroup⟩

/-- A gap ends with the next digit. -/
theorem gap_append (hs : Gap s) (hw : ∀ u ∈ w.head?, isDigit u) :
    (s ++ w).takeWhile isSeparator = s ∧ (s ++ w).dropWhile isSeparator = w := by
  have hnot : ∀ u ∈ w.head?, ¬ isSeparator u = true := fun u hu hsep =>
    (isSeparator_spec hsep).1 (hw u hu)
  rw [List.takeWhile_append_of_pos hs, List.dropWhile_append_of_pos hs]
  cases w with
  | nil => simp
  | cons u w =>
    rw [List.takeWhile_cons_of_neg (hnot u rfl), List.dropWhile_cons_of_neg (hnot u rfl),
      List.append_nil]
    exact ⟨rfl, rfl⟩

theorem digitsEnd_succ (hu : isDigit u) :
    DigitsEnd more (n + 2) ⟨last, u :: s⟩ e ↔
      DigitsEnd more (n + 1)
        ⟨after (some u) (s.takeWhile isSeparator), s.dropWhile isSeparator⟩ e := by
  constructor
  · rintro ⟨ds, v, m, hv, hlength, hreads, hgroup⟩
    cases hv with
    | one hd => simp at hlength
    | @cons d gap ds w hd hgap hw =>
      obtain ⟨rfl, hrest⟩ := List.cons.inj hreads.rest
      have hrest : s = gap ++ (w ++ m.rest) := by rw [← List.append_assoc]; exact hrest
      obtain ⟨d', rest, hd', hd''⟩ := head?_spelled hw
      obtain ⟨htake, hdrop⟩ := gap_append hgap (w := w ++ m.rest) (by
        rw [hd'']
        simpa using hd')
      rw [hrest, htake, hdrop]
      refine ⟨ds, w, m, hw, Nat.succ.inj hlength, ⟨rfl, ?_⟩, hgroup⟩
      rw [hreads.last]
      exact after_append (some u) gap w
  · rintro ⟨ds, v, m, hv, hlength, hreads, hgroup⟩
    refine ⟨u :: ds, u :: (s.takeWhile isSeparator ++ v), m,
      .cons hu (fun _ hx => List.mem_takeWhile_imp hx) hv, by rw [List.length_cons, hlength],
      ⟨?_, ?_⟩, hgroup⟩
    · have hrest : s.dropWhile isSeparator = v ++ m.rest := hreads.rest
      show u :: s = u :: (s.takeWhile isSeparator ++ v) ++ m.rest
      rw [List.cons_append, List.append_assoc, ← hrest, List.takeWhile_append_dropWhile]
    · rw [hreads.last]
      exact (after_append (some u) (s.takeWhile isSeparator) v).symm

theorem digit_next_or_not (c : Cursor) :
    (∃ last u s, isDigit u ∧ c = ⟨last, u :: s⟩) ∨ ∀ u ∈ c.rest.head?, ¬ isDigit u := by
  obtain ⟨last, s⟩ := c
  cases s with
  | nil => exact Or.inr (by simp)
  | cons u s =>
    by_cases hu : isDigit u
    · exact Or.inl ⟨last, u, s, hu, rfl⟩
    · exact Or.inr (by simpa using hu)

theorem firstRep_iff_of_not_digit (h : ∀ u ∈ c.rest.head?, ¬ isDigit u) :
    firstRep more (n + 1) c = some e ↔ DigitsEnd more (n + 1) c e := by
  rw [firstRep_of_not_digit h]
  exact iff_of_false (fun hnone => nomatch hnone) (not_digitsEnd_of_not_digit h)

/-- The search goes on over the gaps to the digit that is needed, and to the end of its group. The
induction is on the digits. -/
theorem firstRep_iff : firstRep more (n + 1) c = some e ↔ DigitsEnd more (n + 1) c e := by
  induction n generalizing c with
  | zero =>
    rcases digit_next_or_not c with ⟨last, u, s, hu, rfl⟩ | hnot
    · rw [digitsEnd_one hu, ← firstMore_iff hu, ← findSome?_firstMore hu, firstRep,
        find?_repEnds_succ, round_cons hu]
      rfl
    · exact firstRep_iff_of_not_digit hnot
  | succ n ih =>
    rcases digit_next_or_not c with ⟨last, u, s, hu, rfl⟩ | hnot
    · -- from a separator no digit is read, so that all of them are passed
      have hgap : ∀ last x rest, isSeparator x = true →
          firstRep more (n + 1) ⟨last, x :: rest⟩ = none := fun last x rest hx =>
        firstRep_of_not_digit (by simpa using (isSeparator_spec hx).1)
      rw [digitsEnd_succ hu, ← ih, ← findSome?_manyEnds hgap, firstRep, find?_repEnds_succ,
        round_cons hu]
      rfl
    · exact firstRep_iff_of_not_digit hnot

/-! ## The numbers that are found -/

theorem atEdge_of_digit (hu : isDigit u) :
    (⟨last, u :: s⟩ : Cursor).atEdge = true ↔ last.any isWordUnit = false := by
  simp [Cursor.atEdge, isWordUnit_of_isDigit hu]

/-- **The search takes the numbers.** -/
theorem takes_cardNumber : cardNumber.Takes c e ↔ ∃ ds, CardNumberAt ds c e := by
  rw [cardNumber, takes_between]
  show _ ∧ firstRep 6 13 c = some e ↔ _
  rw [firstRep_iff]
  constructor
  · rintro ⟨hedge, front, v, m, hv, hlength, hreads, group, hgroup, hmore, hreads', hbehind⟩
    obtain ⟨last, s⟩ := c
    obtain ⟨d, rest, hd, rfl⟩ := head?_spelled hv
    obtain rfl : s = d :: rest ++ m.rest := hreads.rest
    exact ⟨front ++ group, _, ⟨front, _, group, hv, hlength, hgroup, hmore, rfl, rfl⟩,
      hreads.append hreads', (atEdge_of_digit hd).mp hedge, hbehind⟩
  · rintro ⟨_, _, ⟨front, v, group, hv, hlength, hgroup, hmore, rfl, rfl⟩, hreads, hapart⟩
    obtain ⟨last, s⟩ := c
    obtain ⟨d, rest, hd, rfl⟩ := head?_spelled hv
    have hs : s = d :: (rest ++ group ++ e.rest) := hreads.rest
    refine ⟨?_, front, _, ⟨after last (d :: rest), group ++ e.rest⟩, hv, hlength, ⟨?_, rfl⟩,
      group, hgroup, hmore, ⟨rfl, ?_⟩, hapart.behind⟩
    · rw [hs, atEdge_of_digit hd]
      exact hapart.before
    · rw [hs, List.append_assoc]
      rfl
    · rw [hreads.last, after_append]

theorem Spelled.filter {ds : Text} (h : Spelled Gap ds w) :
    w.filter (isDigit ·) = ds ∧ ∀ d ∈ ds, isDigit d := by
  induction h with
  | one hd => simp [hd]
  | cons hd hs _ ih =>
    obtain ⟨hfilter, hdigits⟩ := ih
    have hnone : ∀ u ∈ _, ¬ isDigit u := fun u hu => (isSeparator_spec (hs u hu)).1
    refine ⟨?_, List.forall_mem_cons.mpr ⟨hd, hdigits⟩⟩
    rw [List.filter_cons_of_pos (by simpa using hd), List.filter_append, hfilter,
      List.filter_eq_nil_iff.mpr (by simpa using hnone), List.nil_append]

/-- The digits of a number. -/
theorem CardNumber.digits {ds : Text} (h : CardNumber ds w) :
    w.filter (isDigit ·) = ds ∧ (∀ d ∈ ds, isDigit d) ∧ 13 ≤ ds.length ∧ ds.length ≤ 19 := by
  obtain ⟨front, v, group, hv, hlength, hgroup, hmore, rfl, rfl⟩ := h
  obtain ⟨hfilter, hdigits⟩ := hv.filter
  refine ⟨?_, ?_, ?_, ?_⟩
  · rw [List.filter_append, hfilter, List.filter_eq_self.mpr (by simpa using hgroup)]
  · exact List.forall_mem_append.mpr ⟨hdigits, hgroup⟩
  · rw [List.length_append]
    omega
  · rw [List.length_append]
    omega

/-- A number that the search of a text comes to. -/
def Found (t ds : Text) : Prop :=
  ∃ c e, Passes (fun c e => ∃ ds, CardNumberAt ds c e) ⟨none, t⟩ c ∧ CardNumberAt ds c e

theorem cardNumber_goes_on (h : cardNumber.Takes c e) : e.rest ≠ c.rest := by
  obtain ⟨ds, w, hnumber, hreads, -⟩ := takes_cardNumber.mp h
  intro hsame
  have hrest := hreads.rest
  rw [hsame, List.self_eq_append_left] at hrest
  obtain ⟨hfilter, -, hlength, -⟩ := hnumber.digits
  rw [hrest] at hfilter
  rw [← hfilter] at hlength
  exact absurd hlength (by decide)

/-- **The sanitizer checks the numbers that the search comes to.** -/
theorem hasCreditCard_iff {t : Text} :
    hasCreditCard t = true ↔ ∃ ds, Found t ds ∧ luhnValid ds = true := by
  have htakes : cardNumber.Takes = fun c e => ∃ ds, CardNumberAt ds c e :=
    funext fun c => funext fun e => propext takes_cardNumber
  have hmem : ∀ w, w ∈ cardNumber.matchAll t ↔ cardNumber.Comes w ⟨none, t⟩ := fun w =>
    mem_matchAll_iff fun _ _ => cardNumber_goes_on
  rw [hasCreditCard, List.any_eq_true]
  constructor
  · rintro ⟨w, hw, hvalid⟩
    obtain ⟨c, e, hpass, htake, hreads⟩ := (hmem w).mp hw
    obtain ⟨ds, w', hnumber, hreads', hapart⟩ := takes_cardNumber.mp htake
    obtain rfl := List.append_cancel_right (hreads.rest.symm.trans hreads'.rest)
    rw [htakes] at hpass
    simp only [hnumber.digits.1, Bool.and_eq_true] at hvalid
    exact ⟨ds, ⟨c, e, hpass, w, hnumber, hreads, hapart⟩, hvalid.2⟩
  · rintro ⟨ds, ⟨c, e, hpass, w, hnumber, hreads, hapart⟩, hvalid⟩
    rw [← htakes] at hpass
    have htake := takes_cardNumber.mpr ⟨ds, w, hnumber, hreads, hapart⟩
    refine ⟨w, (hmem w).mpr ⟨c, e, hpass, htake, hreads⟩, ?_⟩
    obtain ⟨hfilter, -, hleast, hmost⟩ := hnumber.digits
    simp [hfilter, hleast, hmost, hvalid]

end Rounds

/-! ## The checksum -/

/-- What the digit at a place from the right adds: every second digit is doubled, and the digits of
what comes out are added. -/
def luhnTerm (i : Nat) (d : CodeUnit) : Nat :=
  let n := d.val - 0x30
  if i % 2 = 1 then n * 2 / 10 + n * 2 % 10 else n

/-- The digits pass the Luhn checksum. -/
def Luhn (ds : Text) : Prop := (ds.reverse.mapIdx luhnTerm).sum % 10 = 0

instance (ds : Text) : Decidable (Luhn ds) := inferInstanceAs (Decidable (_ = _))

theorem luhnTerm_eq {d : CodeUnit} (hd : isDigit d) (i : Nat) : luhnTerm i d = luhnWeight i d := by
  have hlt := digit_lt hd
  rw [luhnTerm, luhnWeight, doubled]
  by_cases hi : i % 2 = 1
  · have heven : ¬ i % 2 = 0 := by omega
    rw [if_pos hi, if_neg heven]
    split <;> omega
  · have heven : i % 2 = 0 := by omega
    rw [if_neg hi, if_pos heven]

theorem luhnValid_iff {ds : Text} (hds : ∀ d ∈ ds, isDigit d) : luhnValid ds = true ↔ Luhn ds := by
  have hsum : total luhnTerm ds = luhnSum ds := by
    induction ds with
    | nil => rfl
    | cons d ds ih =>
      obtain ⟨hd, hds⟩ := List.forall_mem_cons.mp hds
      rw [luhnSum, total_cons, total_cons, ih hds, luhnTerm_eq hd, luhnSum]
  rw [luhnValid_iff_dvd, ← hsum, Nat.dvd_iff_mod_eq_zero]
  rfl

/-! ## Cards in a text -/

/-- A card number stands in a text, with no unit of a word next to it. -/
structure CardAt (t a ds w b : Text) : Prop where
  eq : t = a ++ w ++ b
  spelled : Spelled ShortGap ds w
  least : 13 ≤ ds.length
  most : ds.length ≤ 19
  luhn : Luhn ds
  before : a.getLast?.any isWordUnit = false
  behind : b.head?.any isWordUnit = false

def HoldsCard (t : Text) : Prop := ∃ a ds w b, CardAt t a ds w b

/-- A number that the search comes to passes the checksum. -/
def FindsCard (t : Text) : Prop := ∃ ds, Found t ds ∧ Luhn ds

theorem hasCreditCard_iff_finds {t : Text} : hasCreditCard t = true ↔ FindsCard t := by
  rw [hasCreditCard_iff]
  refine exists_congr fun ds => and_congr_right ?_
  rintro ⟨c, e, -, w, hnumber, -⟩
  exact luhnValid_iff hnumber.digits.2.1

/-- **A card is rejected** where the search comes to a number that passes the checksum, or the text
holds another credential. -/
theorem cards_rejected_iff (t : Text) :
    (HoldsCard t → sanitize t ≠ .ok) ↔
      (HoldsCard t → FindsCard t ∨ hasEthPrivateKey t = true ∨ hasBitcoinWif t = true ∨
        hasMnemonic t = true ∨ hasSsn t = true) := by
  have hrejected : sanitize t ≠ .ok ↔ FindsCard t ∨ hasEthPrivateKey t = true ∨
      hasBitcoinWif t = true ∨ hasMnemonic t = true ∨ hasSsn t = true := by
    rw [← hasCreditCard_iff_finds, Ne, ← Accepted, accepted_iff]
    simp only [← Bool.not_eq_true, ← not_or, not_not]
  rw [hrejected]

/-! ## Cards with nothing before them -/

section First

variable {a b w ds : Text} {c d e : Cursor} {last : Option CodeUnit}

/-- No digit stands before, not even with separators behind it. -/
def NoDigitBefore (a : Text) : Prop :=
  ∀ x gap, a = x ++ gap → Gap gap → ∀ u ∈ x.getLast?, ¬ isDigit u

theorem Spelled.units (h : Spelled Gap ds w) : ∀ u ∈ w, isDigit u ∨ isSeparator u = true := by
  induction h with
  | one hd => simpa using Or.inl hd
  | cons hd hs _ ih =>
    refine List.forall_mem_cons.mpr ⟨Or.inl hd, List.forall_mem_append.mpr ⟨?_, ih⟩⟩
    exact fun u hu => Or.inr (hs u hu)

theorem CardNumber.units (h : CardNumber ds w) : ∀ u ∈ w, isDigit u ∨ isSeparator u = true := by
  obtain ⟨front, v, group, hv, -, hgroup, -, -, rfl⟩ := h
  exact List.forall_mem_append.mpr ⟨hv.units, fun u hu => Or.inl (hgroup u hu)⟩

theorem CardNumber.head? (h : CardNumber ds w) : ∃ d rest, isDigit d ∧ w = d :: rest := by
  obtain ⟨front, v, group, hv, -, -, -, -, rfl⟩ := h
  obtain ⟨d, rest, hd, rfl⟩ := head?_spelled hv
  exact ⟨d, rest ++ group, hd, rfl⟩

/-- No number that begins before such a place goes past it. -/
theorem prefix_of_number (ha : NoDigitBefore a) (hne : a ≠ []) (hw : CardNumber ds w)
    (h : w <+: a ++ b) : w <+: a := by
  rcases List.prefix_or_prefix_of_prefix h (List.prefix_append a b) with hpre | ⟨z, rfl⟩
  · exact hpre
  · exfalso
    -- the last unit before the separators at the end would be a digit
    have hsplit : a.rdropWhile isSeparator ++ a.rtakeWhile isSeparator = a :=
      List.rdropWhile_append_rtakeWhile
    have hgap : Gap (a.rtakeWhile isSeparator) := fun u hu => List.mem_rtakeWhile_imp hu
    have hx : a.rdropWhile isSeparator ≠ [] := by
      intro hnil
      obtain ⟨u, a, rfl⟩ := List.exists_cons_of_ne_nil hne
      obtain ⟨d, rest, hd, heq⟩ := hw.head?
      have hud : u = d := (List.cons.inj heq).1
      have hsep := List.rdropWhile_eq_nil_iff.mp hnil u List.mem_cons_self
      exact (isSeparator_spec hsep).1 (hud ▸ hd)
    have hlast := List.getLast?_eq_some_getLast hx
    refine ha _ _ hsplit.symm hgap _ hlast ?_
    refine (hw.units _ ?_).resolve_right (List.rdropWhile_last_not _ _ hx)
    exact List.mem_append_left z ((List.rdropWhile_prefix isSeparator a).subset
      (List.getLast_mem hx))

theorem noDigitBefore_of_append {v : Text} (h : NoDigitBefore (v ++ a)) : NoDigitBefore a := by
  rintro x gap rfl hgap u hu
  refine h (v ++ x) gap (List.append_assoc ..).symm hgap u ?_
  rw [List.getLast?_append, Option.mem_def.mp hu]
  rfl

/-- The search comes to such a place. The induction is on the length of the text before it, as a
number can be passed at once. -/
theorem passes_of_noDigitBefore (ha : NoDigitBefore a) :
    Passes (fun c e => ∃ ds, CardNumberAt ds c e) ⟨last, a ++ b⟩ ⟨after last a, b⟩ := by
  induction hn : a.length using Nat.strong_induction_on generalizing a last with
  | _ n ih =>
    cases a with
    | nil => exact .here _
    | cons u a =>
      by_cases hnumber : ∃ e ds, CardNumberAt ds ⟨last, u :: a ++ b⟩ e
      · obtain ⟨e, ds, w, hw, hreads, hapart⟩ := hnumber
        obtain ⟨rest, hrest⟩ := prefix_of_number ha (List.cons_ne_nil u a) hw
          ⟨e.rest, hreads.rest.symm⟩
        have he : e = ⟨after last w, rest ++ b⟩ := by
          obtain ⟨last', s⟩ := e
          obtain rfl : last' = after last w := hreads.last
          have hs : u :: a ++ b = w ++ s := hreads.rest
          rw [← hrest, List.append_assoc] at hs
          rw [List.append_cancel_left hs]
        have hlength : rest.length < n := by
          obtain ⟨d, w, -, rfl⟩ := hw.head?
          rw [← hn, ← hrest, List.length_append, List.length_cons]
          omega
        refine .found ⟨ds, w, hw, hreads, hapart⟩ ?_
        rw [he, ← hrest, after_append]
        exact ih rest.length hlength (noDigitBefore_of_append (hrest ▸ ha)) rfl
      · refine .unit (fun e ⟨ds, h⟩ => hnumber ⟨e, ds, h⟩) (ih a.length ?_ ?_ rfl)
        · rw [← hn]
          exact Nat.lt_succ_self _
        · exact noDigitBefore_of_append (v := [u]) ha

end First

/-- **A card with no digits before it is rejected**, whatever comes behind it, where the group of
its 13th digit is the last one. -/
theorem rejected_of_noDigitBefore {t a ds w b : Text} (h : CardAt t a ds w b) (hw : CardNumber ds w)
    (ha : NoDigitBefore a) : sanitize t = .rejected .creditCard := by
  have hfinds : FindsCard t := by
    refine ⟨ds, ⟨⟨after none a, w ++ b⟩, ⟨after none (a ++ w), b⟩, ?_, w, hw, ⟨rfl, ?_⟩, ?_, ?_⟩,
      h.luhn⟩
    · rw [h.eq, List.append_assoc]
      exact passes_of_noDigitBefore ha
    · exact after_append none a w
    · rw [after_eq, Option.or_none]
      exact h.before
    · exact h.behind
  rw [sanitize, if_pos (hasCreditCard_iff_finds.mpr hfinds)]

namespace Sample

theorem spelled_group {ds : Text} (hne : ds ≠ []) (hds : ∀ d ∈ ds, isDigit d) :
    Spelled ShortGap ds ds := by
  induction ds with
  | nil => exact absurd rfl hne
  | cons d ds ih =>
    obtain ⟨hd, hds⟩ := List.forall_mem_cons.mp hds
    by_cases hnil : ds = []
    · rw [hnil]
      exact .one hd
    · have hnone : ShortGap [] := ⟨fun u hu => absurd hu List.not_mem_nil, Nat.zero_le _⟩
      exact .cons hd hnone (ih hnil hds)

theorem spelled_append {gap : Text → Prop} {s ds ds' w w' : Text} (h : Spelled gap ds w)
    (hs : gap s) (h' : Spelled gap ds' w') : Spelled gap (ds ++ ds') (w ++ s ++ w') := by
  induction h with
  | one hd => exact .cons hd hs h'
  | cons hd ht _ ih =>
    have hnext := Spelled.cons hd ht ih
    simpa [List.append_assoc] using hnext

def card : Text := utf16 "4242 4242 4242 4242"

theorem spelled_card : Spelled ShortGap (utf16 "4242424242424242") card := by
  have hgroup : Spelled ShortGap (utf16 "4242") (utf16 "4242") := by
    refine spelled_group (by decide) fun d hd => ?_
    have hall : (utf16 "4242").all (isDigit ·) = true := by decide
    exact of_decide_eq_true (List.all_eq_true.mp hall d hd)
  have hspace : ShortGap [0x20] := by
    refine ⟨fun u hu => ?_, Nat.le_refl _⟩
    rw [List.mem_singleton.mp hu]
    decide
  have htwo := spelled_append hgroup hspace hgroup
  have hfour := spelled_append htwo hspace htwo
  exact hfour

def hidden : Text := utf16 "pin 1234 4242 4242 4242 4242"

/-- The group before the card is taken for its start. -/
theorem card_hidden : ¬ (HoldsCard hidden → sanitize hidden ≠ .ok) := by
  have hcard : CardAt hidden (utf16 "pin 1234 ") (utf16 "4242424242424242") card [] := by
    refine ⟨rfl, spelled_card, ?_, ?_, ?_, ?_, ?_⟩
    all_goals decide
  have hok : sanitize hidden = .ok := by decide +kernel
  exact fun h => h ⟨_, _, _, _, hcard⟩ hok

end Sample

end ScamMirror
