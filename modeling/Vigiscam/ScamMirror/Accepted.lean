import Vigiscam.Js.Parts
import Vigiscam.ScamMirror.Sanitizer

/-!
# Texts that the sanitizer accepts

The texts that the service writes of its own are accepted: those that it has ready, which are
computed, and the time of a turn (`accepted_toISOString`), whatever the time.
-/

namespace ScamMirror

open Js
open Regex hiding alt

def Accepted (text : Text) : Prop := sanitize text = .ok

instance (text : Text) : Decidable (Accepted text) := inferInstanceAs (Decidable (_ = _))

theorem accepted_iff {input : Text} : Accepted input ↔
    hasCreditCard input = false ∧ hasEthPrivateKey input = false ∧ hasBitcoinWif input = false ∧
      hasMnemonic input = false ∧ hasSsn input = false := by
  unfold Accepted sanitize
  cases hasCreditCard input <;> cases hasEthPrivateKey input <;> cases hasBitcoinWif input <;>
    cases hasMnemonic input <;> cases hasSsn input <;> simp

/-! ## What the expressions need -/

section Words

variable {w s : Text}

theorem word_times_digit {n : Nat} (h : (times n digit).Word w) :
    (∀ u ∈ w, isDigit u) ∧ w.length = n := by
  obtain ⟨hdigits, hleast, hmore⟩ := word_rep_one h
  exact ⟨fun u hu => of_decide_eq_true (hdigits u hu), by omega⟩

theorem exists_digit_of_word_times {n : Nat} (hn : 0 < n) (h : (times n digit).Word w) :
    ∃ u ∈ w, isDigit u := by
  obtain ⟨hdigits, hlength⟩ := word_times_digit h
  have hne : w ≠ [] := by
    rintro rfl
    simp at hlength
    omega
  obtain ⟨u, hu⟩ := List.exists_mem_of_ne_nil w hne
  exact ⟨u, hu, hdigits u hu⟩

theorem le_countP_flatten {p : CodeUnit → Bool} {ws : List Text}
    (h : ∀ v ∈ ws, 1 ≤ v.countP p) : ws.length ≤ ws.flatten.countP p := by
  induction ws with
  | nil => simp
  | cons v ws ih =>
    obtain ⟨hv, hws⟩ := List.forall_mem_cons.mp h
    have := ih hws
    simp only [List.flatten_cons, List.countP_append, List.length_cons]
    omega

/-- A card number is 13 digits at least, and nothing but separators between them. -/
theorem word_cardNumber (h : cardNumber.Word w) :
    (∀ u ∈ w, isDigit u ∨ isSeparator u) ∧ 13 ≤ w.countP (isDigit ·) := by
  obtain ⟨ws, hws, hleast, -, rfl⟩ := word_between.mp h
  have hround : ∀ v ∈ ws, (∀ u ∈ v, isDigit u ∨ isSeparator u) ∧ 1 ≤ v.countP (isDigit ·) := by
    intro v hv
    obtain ⟨_, rest, ⟨u, hu, rfl⟩, hrest, rfl⟩ := hws v hv
    have hu : isDigit u := of_decide_eq_true hu
    refine ⟨?_, ?_⟩
    · simp only [List.singleton_append, List.forall_mem_cons]
      exact ⟨Or.inl hu, fun u hu => Or.inr (hrest u hu)⟩
    · simp [hu]
  refine ⟨?_, hleast.trans (le_countP_flatten fun v hv => (hround v hv).2)⟩
  intro u hu
  obtain ⟨v, hv, hu⟩ := List.mem_flatten.mp hu
  exact (hround v hv).1 u hu

theorem length_of_word_ethPrivateKey (h : ethPrivateKey.Word w) : 64 ≤ w.length := by
  obtain ⟨v, v', -, hv', rfl⟩ := word_between.mp h
  obtain ⟨-, hleast, -⟩ := word_rep_one hv'
  rw [List.length_append]
  omega

theorem length_of_word_bitcoinWif (h : bitcoinWif.Word w) : 50 ≤ w.length := by
  obtain ⟨v, v', -, hv', rfl⟩ := word_between.mp h
  obtain ⟨-, hleast, -⟩ := word_rep_one hv'
  rw [List.length_append]
  omega

/-- A dash, two digits, a dash and four digits. -/
theorem word_dashedSsn (h : dashedSsn.Word w) :
    ∃ a b c, w = a ++ 0x2D :: (b ++ 0x2D :: c) ∧ (∀ u ∈ a, isDigit u) ∧ (∀ u ∈ b, isDigit u) ∧
      (∀ u ∈ c, isDigit u) ∧ a.length = 3 ∧ c.length = 4 := by
  obtain ⟨a, _, ha, ⟨_, _, hdash, ⟨b, _, hb, ⟨_, _, hdash', hrest, rfl⟩, rfl⟩, rfl⟩, rfl⟩ :=
    word_between.mp h
  obtain rfl := word_verbatim.mp hdash
  obtain rfl := word_verbatim.mp hdash'
  have hc := word_times_digit (word_chain_singleton.mp hrest)
  have ha := word_times_digit ha
  exact ⟨a, b, _, rfl, ha.1, (word_times_digit hb).1, hc.1, ha.2, hc.2⟩

/-- A labelled number has the letter `s`, and a digit. -/
theorem word_labelledSsn (h : labelledSsn.Word w) :
    (∃ u ∈ w, lowerUnit u = 0x73) ∧ ∃ u ∈ w, isDigit u := by
  obtain ⟨v, _, hv, ⟨_, _, -, ⟨d, _, hd, -, rfl⟩, rfl⟩, rfl⟩ := word_between.mp h
  constructor
  · suffices hs : ∃ u ∈ v, lowerUnit u = 0x73 by
      obtain ⟨u, hu, hlower⟩ := hs
      exact ⟨u, List.mem_append_left _ hu, hlower⟩
    rcases hv with ⟨_, rest, ⟨u, hu, rfl⟩, -, rfl⟩ |
      ⟨_, rest, ⟨_, rest', ⟨u, hu, rfl⟩, -, rfl⟩, -, rfl⟩
    · exact ⟨u, by simp, of_decide_eq_true hu⟩
    · exact ⟨u, by simp, of_decide_eq_true hu⟩
  · obtain ⟨u, hu, hdigit⟩ := exists_digit_of_word_times (Nat.zero_lt_succ 2) hd
    exact ⟨u, by simp [hu], hdigit⟩

/-! ### Lines -/

theorem mem_of_mem_splitLines {line : Text} {u : CodeUnit} (hline : line ∈ splitLines s)
    (hu : u ∈ line) : u ∈ s := by
  induction s using splitLines.induct generalizing line with
  | case1 =>
    rw [splitLines, List.mem_singleton] at hline
    rwa [← hline]
  | case2 rest ih =>
    rw [splitLines] at hline
    rcases List.mem_cons.mp hline with rfl | hline
    · cases hu
    · simp [ih hline hu]
  | case3 rest ih =>
    rw [splitLines] at hline
    rcases List.mem_cons.mp hline with rfl | hline
    · cases hu
    · simp [ih hline hu]
  | case4 d rest _ _ hrest ih =>
    rw [splitLines, hrest] at hline
    · obtain rfl := List.mem_singleton.mp hline
      rw [List.mem_singleton.mp hu]
      exact List.mem_cons_self
    · assumption
    · assumption
  | case5 d rest _ _ first lines hrest ih =>
    rw [splitLines, hrest] at hline
    · rcases List.mem_cons.mp hline with rfl | hline
      · rcases List.mem_cons.mp hu with rfl | hu
        · exact List.mem_cons_self
        · exact List.mem_cons_of_mem d (ih (hrest ▸ List.mem_cons_self) hu)
      · exact List.mem_cons_of_mem d (ih (hrest ▸ List.mem_cons_of_mem first hline) hu)
    · assumption
    · assumption

theorem mem_of_mem_trim {u : CodeUnit} (hu : u ∈ trim s) : u ∈ s := by
  have hu := List.mem_reverse.mp hu
  have hu := List.mem_reverse.mp ((List.dropWhile_sublist isBlank).subset hu)
  exact (List.dropWhile_sublist isBlank).subset hu

/-- Where there is no space, there are no twelve words. -/
theorem hasMnemonic_of_notMem (h : 0x20 ∉ s) : hasMnemonic s = false := by
  rw [hasMnemonic, List.any_eq_false]
  intro line hline
  have hspace : 0x20 ∉ trim line := fun hu => h (mem_of_mem_splitLines hline (mem_of_mem_trim hu))
  have hone : (trim line).splitOn 0x20 = [trim line] := by
    rw [List.splitOn_eq_splitOnP]
    refine List.splitOnP_eq_singleton fun u hu => beq_false_of_ne ?_
    rintro rfl
    exact hspace hu
  simp [isMnemonicLine, hone]

/-! ## Texts without digits -/

/-- A text that has no digit, no private key and no mnemonic. -/
def isPlain (s : Text) : Bool :=
  (s.all fun u => !decide (isDigit u)) && !hasBitcoinWif s && !hasMnemonic s

/-- Every other credential has a digit. -/
theorem accepted_of_isPlain (h : isPlain s = true) : Accepted s := by
  simp only [isPlain, Bool.and_eq_true, Bool.not_eq_true', List.all_eq_true,
    decide_eq_false_iff_not] at h
  obtain ⟨⟨hdigits, hwif⟩, hmnemonic⟩ := h
  have hnot : ∀ {r : Regex}, (∀ w, r.Word w → ∃ u ∈ w, isDigit u) → r.test s = false := by
    intro r hr
    rw [Bool.eq_false_iff]
    intro htest
    obtain ⟨w, hpart, hword⟩ := word_of_test htest
    obtain ⟨u, hu, hdigit⟩ := hr w hword
    exact hdigits u (hpart.subset hu) hdigit
  refine accepted_iff.mpr ⟨?_, hnot fun w hw => ?_, hwif, hmnemonic, ?_⟩
  · rw [hasCreditCard, List.any_eq_false]
    intro raw hraw
    obtain ⟨hpart, hword⟩ := word_of_mem_matchAll hraw
    obtain ⟨-, hcount⟩ := word_cardNumber hword
    have hzero : raw.countP (isDigit ·) = 0 := by
      rw [List.countP_eq_zero]
      intro u hu
      simpa using hdigits u (hpart.subset hu)
    omega
  · obtain ⟨v, v', hv, -, rfl⟩ := word_between.mp hw
    obtain rfl := word_verbatim.mp hv
    exact ⟨0x30, by simp [utf16, unitsOf], by decide⟩
  · rw [hasSsn, Bool.or_eq_false_iff]
    refine ⟨hnot fun w hw => ?_, hnot fun w hw => (word_labelledSsn hw).2⟩
    obtain ⟨a, _, ha, -, rfl⟩ := word_between.mp hw
    obtain ⟨u, hu, hdigit⟩ := exists_digit_of_word_times (Nat.zero_lt_succ 2) ha
    exact ⟨u, List.mem_append_left _ hu, hdigit⟩

end Words

/-! ## Times -/

section Times

variable {w : Text} (d : Date)

def dateText : Text := Date.yearText d.year ++ 0x2D :: (padded 2 d.month ++ 0x2D :: padded 2 d.day)

def timeText : Text :=
  padded 2 d.hour ++ 0x3A :: (padded 2 d.minute ++ 0x3A :: (padded 2 d.second ++ 0x2E ::
    (padded 3 d.millisecond ++ [0x5A])))

theorem toISOString_eq : d.toISOString = dateText d ++ 0x54 :: timeText d := by
  simp [Date.toISOString, dateText, timeText]

/-- What a time has besides digits. -/
def timeMarks : Text := [0x2D, 0x2B, 0x54, 0x3A, 0x2E, 0x5A]

theorem mem_yearText {y : Int} {u : CodeUnit} (hu : u ∈ Date.yearText y) :
    isDigit u ∨ u ∈ timeMarks := by
  unfold Date.yearText at hu
  split at hu
  · rcases List.mem_cons.mp hu with rfl | hu
    · exact Or.inr (by decide)
    · exact Or.inl (isDigit_of_mem_padded u hu)
  split at hu
  · exact Or.inl (isDigit_of_mem_padded u hu)
  · rcases List.mem_cons.mp hu with rfl | hu
    · exact Or.inr (by decide)
    · exact Or.inl (isDigit_of_mem_padded u hu)

theorem mem_toISOString {u : CodeUnit} (hu : u ∈ d.toISOString) :
    isDigit u ∨ u ∈ timeMarks := by
  simp only [Date.toISOString, List.mem_append, List.mem_cons, List.not_mem_nil, or_false] at hu
  rcases hu with hu | rfl | hu | rfl | hu | rfl | hu | rfl | hu | rfl | hu | rfl | hu | rfl
  · exact mem_yearText hu
  all_goals first
    | exact Or.inl (isDigit_of_mem_padded u hu)
    | exact Or.inr (by decide)

theorem lowerUnit_ne_of_mem_toISOString {u : CodeUnit} (hu : u ∈ d.toISOString) :
    lowerUnit u ≠ 0x73 := by
  rcases mem_toISOString d hu with hdigit | hmark
  · obtain ⟨hlow, hhigh⟩ := hdigit
    have hnot : ¬ (0x41 ≤ u ∧ u ≤ 0x5A) := by
      rintro ⟨hle, -⟩
      have : 0x41 ≤ u.val := hle
      omega
    rw [lowerUnit, if_neg hnot]
    rintro rfl
    exact absurd hhigh (by decide)
  · have hmarks : timeMarks.all (lowerUnit · ≠ 0x73) = true := by decide
    exact of_decide_eq_true (List.all_eq_true.mp hmarks u hmark)

/-- A part without a `T` is in the date or in the time of day. -/
theorem infix_toISOString (h : 0x54 ∉ w) : w <:+: d.toISOString ↔
    w <:+: dateText d ∨ w <:+: timeText d := by
  rw [toISOString_eq]
  exact Parts.infix_append_cons h

theorem countP_yearText_le (y : Int) : (Date.yearText y).countP (isDigit ·) ≤ 6 := by
  have hpadded : ∀ n, (padded 6 n).countP (isDigit ·) ≤ 6 := by
    intro n
    exact List.countP_le_length.trans_eq (length_padded 6 n)
  have hfour : ∀ n, (padded 4 n).countP (isDigit ·) ≤ 4 := by
    intro n
    exact List.countP_le_length.trans_eq (length_padded 4 n)
  unfold Date.yearText
  split
  · rw [List.countP_cons_of_neg (by decide)]
    exact hpadded _
  split
  · exact (hfour _).trans (by omega)
  · rw [List.countP_cons_of_neg (by decide)]
    exact hpadded _

theorem countP_dateText_le : (dateText d).countP (isDigit ·) ≤ 10 := by
  have hyear := countP_yearText_le d.year
  have hmonth := List.countP_le_length (p := (isDigit ·)) (l := padded 2 d.month)
  have hday := List.countP_le_length (p := (isDigit ·)) (l := padded 2 d.day)
  rw [length_padded] at hmonth hday
  rw [dateText, List.countP_append, List.countP_cons_of_neg (by decide), List.countP_append,
    List.countP_cons_of_neg (by decide)]
  omega

theorem countP_timeText_le : (timeText d).countP (isDigit ·) ≤ 9 := by
  have hhour := List.countP_le_length (p := (isDigit ·)) (l := padded 2 d.hour)
  have hminute := List.countP_le_length (p := (isDigit ·)) (l := padded 2 d.minute)
  have hsecond := List.countP_le_length (p := (isDigit ·)) (l := padded 2 d.second)
  have hmillisecond := List.countP_le_length (p := (isDigit ·)) (l := padded 3 d.millisecond)
  rw [length_padded] at hhour hminute hsecond hmillisecond
  rw [timeText, List.countP_append, List.countP_cons_of_neg (by decide), List.countP_append,
    List.countP_cons_of_neg (by decide), List.countP_append, List.countP_cons_of_neg (by decide),
    List.countP_append, List.countP_cons_of_neg (by decide), List.countP_nil]
  omega

theorem length_toISOString_le : d.toISOString.length ≤ 27 := by
  have hyear : (Date.yearText d.year).length ≤ 7 := by
    unfold Date.yearText
    split
    · simp [length_padded]
    split <;> simp [length_padded]
  simp only [Date.toISOString, List.length_append, List.length_cons, length_padded, List.length_nil]
  omega

/-- What comes after a dash of the date, which is the sign of the year or stands before the month
or the day. -/
theorem dash_of_dateText {x y : Text} (h : dateText d = x ++ 0x2D :: y) :
    x = [] ∨ y = padded 2 d.month ++ 0x2D :: padded 2 d.day ∨ y = padded 2 d.day := by
  have hdigits : ∀ width n, (0x2D : CodeUnit) ∉ padded width n := by
    intro width n hmem
    exact absurd (isDigit_of_mem_padded _ hmem) (by decide)
  have hrest : ∀ {z : Text}, padded 2 d.month ++ 0x2D :: padded 2 d.day = z ++ 0x2D :: y →
      y = padded 2 d.day := by
    intro z hz
    rcases Parts.append_cons_cases (hdigits 2 d.month) hz with ⟨-, rfl⟩ | ⟨z', hz', -⟩
    · rfl
    · refine absurd ?_ (hdigits 2 d.day)
      rw [hz']
      simp
  have hyear : ∀ {year z : Text}, (0x2D : CodeUnit) ∉ year →
      year ++ 0x2D :: (padded 2 d.month ++ 0x2D :: padded 2 d.day) = z ++ 0x2D :: y →
      y = padded 2 d.month ++ 0x2D :: padded 2 d.day ∨ y = padded 2 d.day := by
    intro year z hnot hz
    rcases Parts.append_cons_cases hnot hz with ⟨-, rfl⟩ | ⟨z', hz', -⟩
    · exact Or.inl rfl
    · exact Or.inr (hrest hz')
  unfold dateText Date.yearText at h
  split at h
  · -- a sign, which is a dash of its own
    rcases Parts.append_cons_cases (a := []) List.not_mem_nil h with ⟨rfl, -⟩ | ⟨z, hz, -⟩
    · exact Or.inl rfl
    · exact Or.inr (hyear (hdigits 6 _) hz)
  split at h
  · exact Or.inr (hyear (hdigits 4 _) h)
  · refine Or.inr (hyear (fun hmem => ?_) h)
    rcases List.mem_cons.mp hmem with hsign | hmem
    · exact absurd hsign (by decide)
    · exact hdigits 6 _ hmem

/-- Four digits come after the second dash of a number, and never after a dash of a date that has
something before it. -/
theorem not_dashedSsn_infix (hw : dashedSsn.Word w) : ¬ w <:+: d.toISOString := by
  obtain ⟨a, b, c, rfl, ha, hb, hc, hthree, hfour⟩ := word_dashedSsn hw
  have hmark : ∀ {v : Text} {u : CodeUnit}, (∀ u ∈ v, isDigit u) → ¬ isDigit u → u ∉ v :=
    fun hv hu hmem => hu (hv _ hmem)
  have hT : (0x54 : CodeUnit) ∉ a ++ 0x2D :: (b ++ 0x2D :: c) := by
    simp [hmark ha (u := 0x54) (by decide), hmark hb (u := 0x54) (by decide),
      hmark hc (u := 0x54) (by decide)]
  rw [infix_toISOString d hT]
  rintro (⟨p, q, hpq⟩ | hpart)
  · have hsplit : dateText d = (p ++ a ++ 0x2D :: b) ++ 0x2D :: (c ++ q) := by
      rw [← hpq]
      simp
    rcases dash_of_dateText d hsplit with hnil | hmonth | hday
    · simp at hnil
    · have hthird := congrArg (·[2]?) hmonth
      have hin : 2 < c.length := by omega
      rw [List.getElem?_append_left hin, List.getElem?_append_right (by simp [length_padded]),
        length_padded] at hthird
      exact hmark hc (by decide) (List.mem_of_getElem? hthird)
    · have hlength := congrArg List.length hday
      rw [List.length_append, length_padded] at hlength
      omega
  · -- the time of day has no dash
    have hmem := hpart.subset (a := (0x2D : CodeUnit)) (by simp)
    simp only [timeText, List.mem_append, List.mem_cons, List.not_mem_nil, or_false] at hmem
    rcases hmem with hmem | hmem | hmem | hmem | hmem | hmem | hmem | hmem
    all_goals first
      | exact absurd (isDigit_of_mem_padded _ hmem) (by decide)
      | exact absurd hmem (by decide)

/-- **The time of a turn is accepted.** -/
theorem accepted_toISOString : Accepted d.toISOString := by
  have hlength := length_toISOString_le d
  rw [accepted_iff]
  refine ⟨?_, ?_, ?_, ?_, ?_⟩
  · rw [hasCreditCard, List.any_eq_false]
    intro raw hraw
    obtain ⟨hpart, hword⟩ := word_of_mem_matchAll hraw
    obtain ⟨hunits, hdigits⟩ := word_cardNumber hword
    have hT : (0x54 : CodeUnit) ∉ raw := by
      intro hmem
      have := hunits _ hmem
      revert this
      decide
    exfalso
    rcases (infix_toISOString d hT).mp hpart with hdate | htime
    · have := hdate.countP_le (p := (isDigit ·))
      have := countP_dateText_le d
      omega
    · have := htime.countP_le (p := (isDigit ·))
      have := countP_timeText_le d
      omega
  · rw [hasEthPrivateKey, Bool.eq_false_iff]
    intro htest
    obtain ⟨w, hpart, hword⟩ := word_of_test htest
    have := hpart.length_le
    have := length_of_word_ethPrivateKey hword
    omega
  · rw [hasBitcoinWif, Bool.eq_false_iff]
    intro htest
    obtain ⟨w, hpart, hword⟩ := word_of_test htest
    have := hpart.length_le
    have := length_of_word_bitcoinWif hword
    omega
  · refine hasMnemonic_of_notMem fun hmem => ?_
    have := mem_toISOString d hmem
    revert this
    decide
  · rw [hasSsn, Bool.or_eq_false_iff, Bool.eq_false_iff, Bool.eq_false_iff]
    refine ⟨fun htest => ?_, fun htest => ?_⟩
    · obtain ⟨w, hpart, hword⟩ := word_of_test htest
      exact not_dashedSsn_infix d hword hpart
    · obtain ⟨w, hpart, hword⟩ := word_of_test htest
      obtain ⟨u, hu, hlower⟩ := (word_labelledSsn hword).1
      exact lowerUnit_ne_of_mem_toISOString d (hpart.subset hu) hlower

end Times

end ScamMirror
