import Vigiscam.Js.Pattern

/-!
# Regular expressions

`Regex.ends` is the backtracking matcher of the language: from a position it gives the positions
where a match may end, in the order in which they are tried, so that the first of them is the
match. `test` and `matchAll` are the methods over it.

`Regex.Word` is what an expression matches wherever it stands, without the edges of words: a match
is a part of the text that is a word of the expression (`word_of_ends`, `word_of_test`,
`word_of_mem_matchAll`).
-/

namespace Js

/-- The expressions in use: without captures, and with `*` on classes only. -/
inductive Regex where
  | empty
  /-- One unit of a class. -/
  | one (p : CodeUnit → Bool)
  | seq (a b : Regex)
  | alt (a b : Regex)
  /-- `a{least,least + more}` -/
  | rep (least more : Nat) (a : Regex)
  /-- `[p]*` -/
  | many (p : CodeUnit → Bool)
  /-- `[p]*?` -/
  | manyLazy (p : CodeUnit → Bool)
  /-- `\b` -/
  | edge

/-- `\w` -/
def isWordUnit (u : CodeUnit) : Bool := isAlnum u || u = 0x5F

/-- A position in a text: the unit before it, and what comes after it. -/
structure Cursor where
  last : Option CodeUnit
  rest : Text
deriving DecidableEq

/-- The unit before the end of a text that comes after a unit. -/
def after : Option CodeUnit → Text → Option CodeUnit
  | last, [] => last
  | _, u :: w => after (some u) w

@[simp] theorem after_append (last : Option CodeUnit) (v w : Text) :
    after last (v ++ w) = after (after last v) w := by
  induction v generalizing last with
  | nil => rfl
  | cons u v ih => exact ih (some u)

theorem after_eq (last : Option CodeUnit) (w : Text) : after last w = w.getLast?.or last := by
  induction w generalizing last with
  | nil => rfl
  | cons u w ih =>
    rw [after, ih, List.getLast?_cons]
    cases w.getLast? <;> rfl

/-- A text is read on the way from one position to another. -/
structure Cursor.Reads (c : Cursor) (w : Text) (e : Cursor) : Prop where
  rest : c.rest = w ++ e.rest
  last : e.last = after c.last w

theorem Cursor.Reads.refl (c : Cursor) : c.Reads [] c := ⟨rfl, rfl⟩

theorem Cursor.Reads.append {c d e : Cursor} {v w : Text} (h : c.Reads v d) (h' : d.Reads w e) :
    c.Reads (v ++ w) e := by
  refine ⟨?_, ?_⟩
  · rw [h.rest, h'.rest, List.append_assoc]
  · rw [h'.last, h.last, after_append]

/-- A word starts or ends here. -/
def Cursor.atEdge (c : Cursor) : Bool := c.last.any isWordUnit != c.rest.head?.any isWordUnit

namespace Regex

/-! ## Matching -/

/-- After each number of units of a class, the least first. -/
def manyEnds (p : CodeUnit → Bool) : Option CodeUnit → Text → List Cursor
  | last, [] => [⟨last, []⟩]
  | last, u :: rest => ⟨last, u :: rest⟩ :: if p u then manyEnds p (some u) rest else []

/-- As many rounds as there can be, and not more than `more`; each has to go on. -/
def moreEnds (round : Cursor → List Cursor) : Nat → Cursor → List Cursor
  | 0, c => [c]
  | more + 1, c => ((round c).filter (·.rest ≠ c.rest)).flatMap (moreEnds round more) ++ [c]

/-- The rounds of a repetition, of which the first `least` are needed. -/
def repEnds (round : Cursor → List Cursor) (more : Nat) : Nat → Cursor → List Cursor
  | 0, c => moreEnds round more c
  | least + 1, c => (round c).flatMap (repEnds round more least)

/-- Where a match from here may end, in the order of the search. -/
def ends : Regex → Cursor → List Cursor
  | empty, c => [c]
  | one _, ⟨_, []⟩ => []
  | one p, ⟨_, u :: rest⟩ => if p u then [⟨some u, rest⟩] else []
  | seq a b, c => (a.ends c).flatMap b.ends
  | alt a b, c => a.ends c ++ b.ends c
  | rep least more a, c => repEnds a.ends more least c
  | many p, c => (manyEnds p c.last c.rest).reverse
  | manyLazy p, c => manyEnds p c.last c.rest
  | edge, c => if c.atEdge then [c] else []

/-- There is a match from here or from a later position. -/
def testFrom (r : Regex) : Option CodeUnit → Text → Bool
  | last, [] => r.ends ⟨last, []⟩ ≠ []
  | last, u :: rest => r.ends ⟨last, u :: rest⟩ ≠ [] || testFrom r (some u) rest

/-- `test`. -/
def test (r : Regex) (s : Text) : Bool := r.testFrom none s

/-- The matches after so many units, each where the search comes to it after the one before. -/
def matchesFrom (r : Regex) : Nat → Option CodeUnit → Text → List Text
  | skip, last, [] => if skip = 0 ∧ r.ends ⟨last, []⟩ ≠ [] then [[]] else []
  | skip, last, u :: rest =>
    match (if skip = 0 then (r.ends ⟨last, u :: rest⟩).head? else none) with
    | some found =>
      let length := rest.length + 1 - found.rest.length
      (u :: rest).take length :: matchesFrom r (length - 1) (some u) rest
    | none => matchesFrom r (skip - 1) (some u) rest

/-- `match`, of an expression with the flag `g`. -/
def matchAll (r : Regex) (s : Text) : List Text := r.matchesFrom 0 none s

/-! ## Expressions -/

/-- One after the other. -/
def chain (rs : List Regex) : Regex := rs.foldr seq empty

/-- `(?:a|b|…)` -/
def oneOf : List Regex → Regex
  | [] => one fun _ => false
  | [r] => r
  | r :: rs => alt r (oneOf rs)

/-- `r{n}` -/
def times (n : Nat) (r : Regex) : Regex := rep n 0 r

/-- `r?` -/
def optional (r : Regex) : Regex := rep 0 1 r

/-- `\bα\b` -/
def between (r : Regex) : Regex := chain [edge, r, edge]

/-- A text as it is. -/
def verbatim (s : Text) : Regex := chain (s.map fun u => one (· = u))

/-- A text with the flag `i`, in lower case here. -/
def caseless (s : Text) : Regex := chain (s.map fun u => one (lowerUnit · = u))

/-- Parts with `\s*` between them. -/
def spaced : List Regex → Regex
  | [] => empty
  | [r] => r
  | r :: rs => chain [r, many isBlank, spaced rs]

/-- Words with `\s*` between them, with the flag `i`. -/
def phrase (words : List Text) : Regex := spaced (words.map caseless)

example : (between (caseless "irs")).test (utf16 "The IRS!") = true ∧
    (between (caseless "irs")).test (utf16 "first") = false := by decide

example : (chain [rep 1 1 (one (isDigit ·)), manyLazy (· = 0x20)]).matchAll (utf16 "1 234") =
    [utf16 "1", utf16 "23", utf16 "4"] := by decide

/-! ## Words -/

/-- What an expression matches, wherever it stands. -/
def Word : Regex → Text → Prop
  | empty, w => w = []
  | one p, w => ∃ u, p u = true ∧ w = [u]
  | seq a b, w => ∃ v v', a.Word v ∧ b.Word v' ∧ w = v ++ v'
  | alt a b, w => a.Word w ∨ b.Word w
  | rep least more a, w => ∃ ws : List Text, (∀ v ∈ ws, a.Word v) ∧ least ≤ ws.length ∧
      ws.length ≤ least + more ∧ w = ws.flatten
  | many p, w | manyLazy p, w => ∀ u ∈ w, p u = true
  | edge, w => w = []

section Words

variable {p : CodeUnit → Bool} {a b r : Regex} {c e : Cursor} {s w : Text}

theorem word_of_manyEnds {last : Option CodeUnit} (h : e ∈ manyEnds p last s) :
    ∃ w, (⟨last, s⟩ : Cursor).Reads w e ∧ ∀ u ∈ w, p u = true := by
  induction s generalizing last with
  | nil =>
    obtain rfl := List.mem_singleton.mp h
    exact ⟨[], .refl _, fun _ hu => absurd hu List.not_mem_nil⟩
  | cons u rest ih =>
    rcases List.mem_cons.mp h with rfl | h
    · exact ⟨[], .refl _, fun _ hu => absurd hu List.not_mem_nil⟩
    · by_cases hu : p u = true
      · rw [if_pos hu] at h
        obtain ⟨w, hreads, hw⟩ := ih h
        refine ⟨u :: w, ⟨congrArg (u :: ·) hreads.rest, hreads.last⟩, ?_⟩
        simpa [hu] using hw
      · rw [if_neg hu] at h
        cases h

section Rounds

variable {round : Cursor → List Cursor} {P : Text → Prop} {least more : Nat}
  (hround : ∀ c e, e ∈ round c → ∃ w, c.Reads w e ∧ P w)

/-- The texts of rounds with `P`, from `c` to `e`. -/
def Rounds (P : Text → Prop) (c e : Cursor) (ws : List Text) : Prop :=
  (∀ v ∈ ws, P v) ∧ c.Reads ws.flatten e

theorem rounds_nil : Rounds P c c [] := ⟨fun _ hv => absurd hv List.not_mem_nil, .refl c⟩

include hround in
theorem rounds_cons {d : Cursor} {ws : List Text} (hd : d ∈ round c) (h : Rounds P d e ws) :
    ∃ w, Rounds P c e (w :: ws) := by
  obtain ⟨w, hw, hP⟩ := hround c d hd
  refine ⟨w, ?_, ?_⟩
  · simpa [hP] using h.1
  · exact hw.append h.2

include hround in
theorem rounds_of_moreEnds (h : e ∈ moreEnds round more c) :
    ∃ ws, Rounds P c e ws ∧ ws.length ≤ more := by
  induction more generalizing c with
  | zero =>
    obtain rfl := List.mem_singleton.mp h
    exact ⟨[], rounds_nil, Nat.le_refl _⟩
  | succ more ih =>
    rcases List.mem_append.mp h with h | h
    · obtain ⟨d, hd, hlast⟩ := List.mem_flatMap.mp h
      obtain ⟨ws, hws, hmore⟩ := ih hlast
      obtain ⟨w, hall⟩ := rounds_cons hround (List.mem_of_mem_filter hd) hws
      exact ⟨w :: ws, hall, Nat.succ_le_succ hmore⟩
    · obtain rfl := List.mem_singleton.mp h
      exact ⟨[], rounds_nil, Nat.zero_le _⟩

include hround in
theorem rounds_of_repEnds (h : e ∈ repEnds round more least c) :
    ∃ ws, Rounds P c e ws ∧ least ≤ ws.length ∧ ws.length ≤ least + more := by
  induction least generalizing c with
  | zero =>
    obtain ⟨ws, hws, hmore⟩ := rounds_of_moreEnds hround h
    exact ⟨ws, hws, Nat.zero_le _, by omega⟩
  | succ least ih =>
    obtain ⟨d, hd, hlast⟩ := List.mem_flatMap.mp h
    obtain ⟨ws, hws, hleast, hmore⟩ := ih hlast
    obtain ⟨w, hall⟩ := rounds_cons hround hd hws
    refine ⟨w :: ws, hall, Nat.succ_le_succ hleast, ?_⟩
    rw [List.length_cons]
    omega

end Rounds

/-- Where a match ends, a word has been read. -/
theorem word_of_ends (h : e ∈ r.ends c) : ∃ w, c.Reads w e ∧ r.Word w := by
  induction r generalizing c e with
  | empty =>
    obtain rfl := List.mem_singleton.mp h
    exact ⟨[], .refl _, rfl⟩
  | one p =>
    obtain ⟨last, rest⟩ := c
    cases rest with
    | nil => cases h
    | cons u rest =>
      by_cases hu : p u = true
      · rw [ends, if_pos hu] at h
        obtain rfl := List.mem_singleton.mp h
        exact ⟨[u], ⟨rfl, rfl⟩, u, hu, rfl⟩
      · rw [ends, if_neg hu] at h
        cases h
  | seq a b iha ihb =>
    obtain ⟨d, hd, he⟩ := List.mem_flatMap.mp h
    obtain ⟨v, hv, hword⟩ := iha hd
    obtain ⟨v', hv', hword'⟩ := ihb he
    exact ⟨v ++ v', hv.append hv', v, v', hword, hword', rfl⟩
  | alt a b iha ihb =>
    rcases List.mem_append.mp h with h | h
    · obtain ⟨w, hw, hword⟩ := iha h
      exact ⟨w, hw, Or.inl hword⟩
    · obtain ⟨w, hw, hword⟩ := ihb h
      exact ⟨w, hw, Or.inr hword⟩
  | rep least more a iha =>
    obtain ⟨ws, ⟨hws, hreads⟩, hleast, hmore⟩ := rounds_of_repEnds (fun _ _ => iha) h
    exact ⟨ws.flatten, hreads, ws, hws, hleast, hmore, rfl⟩
  | many p =>
    obtain ⟨w, hw, hall⟩ := word_of_manyEnds (List.mem_reverse.mp h)
    exact ⟨w, hw, hall⟩
  | manyLazy p =>
    obtain ⟨w, hw, hall⟩ := word_of_manyEnds h
    exact ⟨w, hw, hall⟩
  | edge =>
    by_cases hc : c.atEdge = true
    · rw [ends, if_pos hc] at h
      obtain rfl := List.mem_singleton.mp h
      exact ⟨[], .refl _, rfl⟩
    · rw [ends, if_neg hc] at h
      cases h

theorem word_of_ends_ne_nil {last : Option CodeUnit} (h : r.ends ⟨last, s⟩ ≠ []) :
    ∃ w, w <+: s ∧ r.Word w := by
  obtain ⟨e, he⟩ := List.exists_mem_of_ne_nil _ h
  obtain ⟨w, hw, hword⟩ := word_of_ends he
  exact ⟨w, ⟨e.rest, hw.rest.symm⟩, hword⟩

theorem word_of_testFrom {last : Option CodeUnit} (h : r.testFrom last s = true) :
    ∃ w, w <:+: s ∧ r.Word w := by
  induction s generalizing last with
  | nil =>
    obtain ⟨w, hw, hword⟩ := word_of_ends_ne_nil (of_decide_eq_true h)
    exact ⟨w, hw.isInfix, hword⟩
  | cons u rest ih =>
    rcases Bool.or_eq_true_iff.mp h with h | h
    · obtain ⟨w, hw, hword⟩ := word_of_ends_ne_nil (of_decide_eq_true h)
      exact ⟨w, hw.isInfix, hword⟩
    · obtain ⟨w, hw, hword⟩ := ih h
      exact ⟨w, hw.trans (List.suffix_cons u rest).isInfix, hword⟩

/-- A text that passes the test has a part that is a word. -/
theorem word_of_test (h : r.test s = true) : ∃ w, w <:+: s ∧ r.Word w := word_of_testFrom h

theorem word_of_mem_matchesFrom {skip : Nat} {last : Option CodeUnit}
    (h : w ∈ r.matchesFrom skip last s) : w <:+: s ∧ r.Word w := by
  induction s generalizing skip last with
  | nil =>
    rw [matchesFrom] at h
    split at h
    · next hends =>
      obtain rfl := List.mem_singleton.mp h
      obtain ⟨w, hw, hword⟩ := word_of_ends_ne_nil hends.2
      rw [List.prefix_nil.mp hw] at hword
      exact ⟨List.infix_rfl, hword⟩
    · cases h
  | cons u rest ih =>
    have hlater : w <:+: rest → w <:+: u :: rest := (·.trans (List.suffix_cons u rest).isInfix)
    rw [matchesFrom] at h
    split at h
    · next found hfound =>
      have hends : found ∈ r.ends ⟨last, u :: rest⟩ := by
        split at hfound
        · exact List.mem_of_mem_head? hfound
        · cases hfound
      rcases List.mem_cons.mp h with rfl | h
      · -- the match is what the text has before its end
        obtain ⟨v, hv, hword⟩ := word_of_ends hends
        have hv : u :: rest = v ++ found.rest := hv.rest
        have hlength : rest.length + 1 - found.rest.length = v.length := by
          have := congrArg List.length hv
          simp only [List.length_cons, List.length_append] at this
          omega
        rw [hlength, hv, List.take_left]
        exact ⟨(List.prefix_append v found.rest).isInfix, hword⟩
      · exact (ih h).imp hlater id
    · exact (ih h).imp hlater id

/-- **A match is a part of the text that is a word.** -/
theorem word_of_mem_matchAll (h : w ∈ r.matchAll s) : w <:+: s ∧ r.Word w :=
  word_of_mem_matchesFrom h

/-! ### Words of some expressions -/

theorem word_chain_cons {rs : List Regex} :
    (chain (r :: rs)).Word w ↔ ∃ v v', r.Word v ∧ (chain rs).Word v' ∧ w = v ++ v' := Iff.rfl

theorem word_chain_singleton : (chain [r]).Word w ↔ r.Word w := by
  constructor
  · rintro ⟨v, _, hv, rfl, rfl⟩
    simpa using hv
  · intro h
    exact ⟨w, [], h, rfl, by simp⟩

theorem word_between : (between r).Word w ↔ r.Word w := by
  constructor
  · rintro ⟨_, _, rfl, ⟨v, _, hv, ⟨_, _, rfl, rfl, rfl⟩, rfl⟩, rfl⟩
    simpa using hv
  · intro h
    exact ⟨[], w, rfl, ⟨w, [], h, ⟨[], [], rfl, rfl, rfl⟩, by simp⟩, rfl⟩

theorem length_flatten_of_forall {ws : List Text} (h : ∀ v ∈ ws, v.length = 1) :
    ws.flatten.length = ws.length := by
  induction ws with
  | nil => rfl
  | cons v ws ih =>
    obtain ⟨hv, hws⟩ := List.forall_mem_cons.mp h
    rw [List.flatten_cons, List.length_append, hv, ih hws, List.length_cons]
    omega

/-- A number of units of one class. -/
theorem word_rep_one {least more : Nat} (h : (rep least more (one p)).Word w) :
    (∀ u ∈ w, p u = true) ∧ least ≤ w.length ∧ w.length ≤ least + more := by
  obtain ⟨ws, hws, hleast, hmore, rfl⟩ := h
  have hlength : ws.flatten.length = ws.length := by
    refine length_flatten_of_forall fun v hv => ?_
    obtain ⟨u, -, rfl⟩ := hws v hv
    rfl
  refine ⟨?_, by omega, by omega⟩
  intro u hu
  obtain ⟨v, hv, hu⟩ := List.mem_flatten.mp hu
  obtain ⟨u', hp, rfl⟩ := hws v hv
  rwa [List.mem_singleton.mp hu]

/-- A text as it is matches that text only. -/
theorem word_verbatim {t : Text} : (verbatim t).Word w ↔ w = t := by
  induction t generalizing w with
  | nil => exact Iff.rfl
  | cons u t ih =>
    constructor
    · rintro ⟨_, v', ⟨u', hu, rfl⟩, hv', rfl⟩
      rw [ih.mp hv', of_decide_eq_true hu]
      rfl
    · rintro rfl
      exact ⟨[u], t, ⟨u, decide_eq_true rfl, rfl⟩, ih.mpr rfl, rfl⟩

end Words

end Regex

end Js
