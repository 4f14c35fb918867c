import Vigiscam.Js.RegexLanguage

/-!
# The search of all matches

`matchAll` reads a text from left to right: where a match starts it takes the first one that the
matcher finds, and goes on behind it; elsewhere it goes on by one unit (`Passes`). Where no match is
empty, it finds exactly the matches at the positions that it comes to (`mem_matchAll_iff`).

Between edges, the first match is the first end of a word that is at an edge
(`head?_ends_between`), and a repetition looks for it round by round (`find?_repEnds_succ`,
`find?_moreEnds_succ`).
-/

namespace Js

/-- A search comes from one position to another. `Match` says where a match that is taken starts and
ends. -/
inductive Passes (Match : Cursor → Cursor → Prop) : Cursor → Cursor → Prop where
  | here (c : Cursor) : Passes Match c c
  | unit {last : Option CodeUnit} {u : CodeUnit} {rest : Text} {d : Cursor}
      (hnone : ∀ e, ¬ Match ⟨last, u :: rest⟩ e) (h : Passes Match ⟨some u, rest⟩ d) :
      Passes Match ⟨last, u :: rest⟩ d
  | found {c e d : Cursor} (hmatch : Match c e) (h : Passes Match e d) : Passes Match c d

namespace Regex

variable {r : Regex} {c d e : Cursor} {s w : Text} {last : Option CodeUnit}

/-- The match that is taken here. -/
def Takes (r : Regex) (c e : Cursor) : Prop := (r.ends c).head? = some e

/-- The text between two positions of a match. -/
theorem Takes.reads (h : r.Takes c e) : ∃ w, c.Reads w e ∧ r.Word w :=
  word_of_ends (List.mem_of_head? h)

theorem takes_unique {e' : Cursor} (h : r.Takes c e) (h' : r.Takes c e') : e = e' :=
  Option.some.inj (h.symm.trans h')

theorem ends_eq_nil_iff : r.ends c = [] ↔ ∀ e, ¬ r.Takes c e := by
  rw [← List.head?_eq_none_iff, Option.eq_none_iff_forall_ne_some]
  rfl

/-- From where a match is taken, the search goes on behind it. -/
theorem passes_of_takes (h : r.Takes c e) :
    Passes r.Takes c d ↔ d = c ∨ Passes r.Takes e d := by
  constructor
  · intro hpass
    cases hpass with
    | here => exact Or.inl rfl
    | unit hnone => exact absurd h (hnone e)
    | found hmatch hpass =>
      rw [takes_unique h hmatch]
      exact Or.inr hpass
  · rintro (rfl | hpass)
    · exact .here _
    · exact .found h hpass

theorem passes_of_not_takes {u : CodeUnit} {rest : Text}
    (h : ∀ e, ¬ r.Takes ⟨last, u :: rest⟩ e) :
    Passes r.Takes ⟨last, u :: rest⟩ d ↔
      d = ⟨last, u :: rest⟩ ∨ Passes r.Takes ⟨some u, rest⟩ d := by
  constructor
  · intro hpass
    cases hpass with
    | here => exact Or.inl rfl
    | unit hnone hpass => exact Or.inr hpass
    | found hmatch => exact absurd hmatch (h _)
  · rintro (rfl | hpass)
    · exact .here _
    · exact .unit h hpass

section Search

variable (hne : ∀ c e, r.Takes c e → e.rest ≠ c.rest)

include hne in
theorem not_takes_end (last : Option CodeUnit) (e : Cursor) : ¬ r.Takes ⟨last, []⟩ e := by
  intro h
  obtain ⟨w, hw, -⟩ := h.reads
  exact hne _ _ h (List.append_eq_nil_iff.mp hw.rest.symm).2

/-- A match comes up in the search from here. -/
def Comes (r : Regex) (w : Text) (c : Cursor) : Prop :=
  ∃ d e, Passes r.Takes c d ∧ r.Takes d e ∧ d.Reads w e

theorem comes_of_takes {v : Text} (h : r.Takes c e) (hv : c.Reads v e) :
    r.Comes w c ↔ w = v ∨ r.Comes w e := by
  constructor
  · rintro ⟨d, e', hpass, htake, hw⟩
    rcases (passes_of_takes h).mp hpass with rfl | hpass
    · obtain rfl := takes_unique h htake
      exact Or.inl (List.append_cancel_right (hw.rest.symm.trans hv.rest))
    · exact Or.inr ⟨d, e', hpass, htake, hw⟩
  · rintro (rfl | ⟨d, e', hpass, htake, hw⟩)
    · exact ⟨c, e, .here c, h, hv⟩
    · exact ⟨d, e', .found h hpass, htake, hw⟩

theorem comes_of_not_takes {u : CodeUnit} {rest : Text}
    (h : ∀ e, ¬ r.Takes ⟨last, u :: rest⟩ e) :
    r.Comes w ⟨last, u :: rest⟩ ↔ r.Comes w ⟨some u, rest⟩ := by
  constructor
  · rintro ⟨d, e, hpass, htake, hw⟩
    rcases (passes_of_not_takes h).mp hpass with rfl | hpass
    · exact absurd htake (h e)
    · exact ⟨d, e, hpass, htake, hw⟩
  · rintro ⟨d, e, hpass, htake, hw⟩
    exact ⟨d, e, .unit h hpass, htake, hw⟩

include hne in
/-- The induction is on the text; what is still to be passed of a match is counted by `skip`. -/
theorem mem_matchesFrom_iff {skip : Nat} (hskip : skip ≤ s.length) :
    w ∈ r.matchesFrom skip last s ↔ r.Comes w ⟨after last (s.take skip), s.drop skip⟩ := by
  induction s generalizing skip last with
  | nil =>
    obtain rfl : skip = 0 := Nat.le_zero.mp hskip
    have hnone := ends_eq_nil_iff.mpr (not_takes_end hne last)
    rw [matchesFrom, if_neg (fun h => h.2 hnone)]
    refine iff_of_false List.not_mem_nil ?_
    rintro ⟨d, e, hpass, htake, -⟩
    cases hpass with
    | here => exact not_takes_end hne last e htake
    | found hmatch => exact not_takes_end hne last _ hmatch
  | cons u rest ih =>
    cases skip with
    | succ skip =>
      rw [matchesFrom, if_neg (Nat.succ_ne_zero skip)]
      exact ih (Nat.le_of_succ_le_succ hskip)
    | zero =>
      rw [matchesFrom, if_pos rfl]
      show _ ↔ r.Comes w ⟨last, u :: rest⟩
      cases hhead : (r.ends ⟨last, u :: rest⟩).head? with
      | none =>
        have hnone : ∀ e, ¬ r.Takes ⟨last, u :: rest⟩ e := fun e he => by
          rw [Takes, hhead] at he
          cases he
        rw [comes_of_not_takes hnone]
        exact ih (Nat.zero_le _)
      | some found =>
        have htake : r.Takes ⟨last, u :: rest⟩ found := hhead
        obtain ⟨v, hv, -⟩ := htake.reads
        rw [comes_of_takes htake hv]
        -- the match is what the text has before its end, and the rest of it is passed
        cases v with
        | nil => exact absurd hv.rest.symm (hne _ _ htake)
        | cons u' v =>
          obtain ⟨rfl, hrest⟩ := List.cons.inj hv.rest
          have hrest : rest = v ++ found.rest := hrest
          have hlength : rest.length + 1 - found.rest.length = v.length + 1 := by
            rw [hrest, List.length_append]
            omega
          have hbehind : (⟨after (some u) (rest.take v.length), rest.drop v.length⟩ : Cursor) =
              found := by
            rw [hrest, List.take_left, List.drop_left]
            exact congrArg (Cursor.mk · found.rest) hv.last.symm
          show w ∈ (u :: rest).take _ :: matchesFrom r _ (some u) rest ↔ _
          rw [hlength, List.mem_cons, List.take_succ_cons, Nat.add_sub_cancel,
            ih (by rw [hrest, List.length_append]; omega), hbehind, hrest, List.take_left]

include hne in
/-- **The matches of a text** are the ones that its search comes to. -/
theorem mem_matchAll_iff : w ∈ r.matchAll s ↔ r.Comes w ⟨none, s⟩ :=
  mem_matchesFrom_iff hne (Nat.zero_le _)

end Search

/-! ## The first match between edges -/

theorem ends_edge : edge.ends c = if c.atEdge then [c] else [] := rfl

theorem ends_between :
    (between r).ends c = if c.atEdge then (r.ends c).filter Cursor.atEdge else [] := by
  have hlast : ∀ d : Cursor, (chain [edge]).ends d = if d.atEdge then [d] else [] := by
    intro d
    show (edge.ends d).flatMap empty.ends = _
    rw [ends_edge]
    split <;> rfl
  have hinner : (chain [r, edge]).ends c = (r.ends c).filter Cursor.atEdge := by
    show (r.ends c).flatMap (chain [edge]).ends = _
    rw [funext hlast]
    induction r.ends c with
    | nil => rfl
    | cons d ds ih =>
      rw [List.flatMap_cons, List.filter_cons, ih]
      split <;> rfl
  show (edge.ends c).flatMap (chain [r, edge]).ends = _
  rw [ends_edge]
  split
  · rw [List.flatMap_singleton, hinner]
  · rfl

theorem takes_between :
    (between r).Takes c e ↔ c.atEdge = true ∧ (r.ends c).find? Cursor.atEdge = some e := by
  rw [Takes, ends_between]
  split
  · next hedge => rw [List.head?_filter, and_iff_right hedge]
  · next hedge => exact iff_of_false (fun h => nomatch h) fun h => hedge h.1

section Rounds

variable (round : Cursor → List Cursor) (p : Cursor → Bool) (more least : Nat)

theorem find?_repEnds_succ (c : Cursor) : (repEnds round more (least + 1) c).find? p =
    (round c).findSome? fun d => (repEnds round more least d).find? p := by
  rw [repEnds, List.find?_flatMap]

theorem find?_moreEnds_succ (c : Cursor) : (moreEnds round (more + 1) c).find? p =
    (((round c).filter (·.rest ≠ c.rest)).findSome? fun d => (moreEnds round more d).find? p).or
      ([c].find? p) := by
  rw [moreEnds, List.find?_append, List.find?_flatMap]

/-- Without a round to go on with, a repetition ends where it is. -/
theorem moreEnds_of_round_eq_nil (h : round c = []) (more : Nat) :
    moreEnds round more c = [c] := by
  cases more with
  | zero => rfl
  | succ more =>
    rw [moreEnds, h]
    rfl

end Rounds

/-- What is not found before a unit of a class is found behind all of them. -/
theorem findSome?_manyEnds {α : Type} {f : Cursor → Option α} {p : CodeUnit → Bool}
    (hf : ∀ last u rest, p u = true → f ⟨last, u :: rest⟩ = none) (last : Option CodeUnit)
    (s : Text) : (manyEnds p last s).findSome? f =
      f ⟨after last (s.takeWhile p), s.dropWhile p⟩ := by
  induction s generalizing last with
  | nil =>
    rw [manyEnds, List.findSome?_singleton]
    rfl
  | cons u rest ih =>
    rw [manyEnds]
    by_cases hu : p u = true
    · rw [if_pos hu, List.findSome?_cons, hf last u rest hu, ih (some u),
        List.takeWhile_cons_of_pos hu, List.dropWhile_cons_of_pos hu]
      rfl
    · rw [if_neg hu, List.findSome?_singleton, List.takeWhile_cons_of_neg hu,
        List.dropWhile_cons_of_neg hu]
      rfl

end Regex

end Js
