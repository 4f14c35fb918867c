import Vigiscam.Js.RegexLanguage

/-!
# Expressions that are made from a text

`newRegExp` reads the source of an expression `/^…$/` whose terms are units, escaped units and
`[^c]*`; it is `none` where the source goes beyond. Such an expression has no edges and no rounds
(`Regex.Plain`), so that a match may end exactly where a word of it does, and the expression matches
the texts that are words of it (`matchesWhole_iff`).
-/

namespace Js

namespace Regex

/-! ## Plain expressions -/

def Plain : Regex → Prop
  | empty | one _ | many _ | manyLazy _ => True
  | seq a b | alt a b => a.Plain ∧ b.Plain
  | rep _ _ _ | edge => False

theorem plain_chain {rs : List Regex} (h : ∀ r ∈ rs, r.Plain) : (chain rs).Plain := by
  induction rs with
  | nil => trivial
  | cons r rs ih =>
    obtain ⟨hr, hrs⟩ := List.forall_mem_cons.mp h
    exact ⟨hr, ih hrs⟩

variable {r : Regex}

theorem edgeless_of_plain (h : r.Plain) : r.edgeless = true := by
  induction r with
  | empty | one | many | manyLazy => rfl
  | seq a b iha ihb | alt a b iha ihb =>
    rw [edgeless, iha h.1, ihb h.2]
    rfl
  | rep | edge => exact h.elim

/-- `/^r$/.test(s)`, without the flag `m`: a match from the first unit on that may end at the
last. -/
def matchesWhole (r : Regex) (s : Text) : Bool := (r.ends ⟨none, s⟩).any fun e => e.rest = []

/-- **A plain expression matches its words.** -/
theorem matchesWhole_iff (h : r.Plain) {s : Text} : r.matchesWhole s = true ↔ r.Word s := by
  rw [matchesWhole, List.any_eq_true]
  constructor
  · rintro ⟨e, he, hend⟩
    obtain ⟨w, hw, hword⟩ := (mem_ends_iff (edgeless_of_plain h)).mp he
    have hs : s = w := by simpa [of_decide_eq_true hend] using hw.rest
    rwa [hs]
  · intro hword
    have hreads : (⟨none, s⟩ : Cursor).Reads s ⟨after none s, []⟩ := ⟨(List.append_nil s).symm, rfl⟩
    have hend := (mem_ends_iff (edgeless_of_plain h)).mpr ⟨s, hreads, hword⟩
    exact ⟨_, hend, decide_eq_true rfl⟩

end Regex

/-! ## Sources -/

/-- The units that a source does not have as they are: `^ $ \ . * + ? ( ) [ ] { } |`. -/
def isSyntaxUnit (c : CodeUnit) : Bool := c ∈ utf16 "^$\\.*+?()[]\x7b\x7d|"

/-- The terms of a source up to the `$` at its end. -/
def parseTerms : Text → Option (List Regex)
  | [] => none
  | c :: rest =>
    if c = 0x5C then
      match rest with
      | d :: rest => if isSyntaxUnit d then (parseTerms rest).map (.one (· = d) :: ·) else none
      | [] => none
    else if c = 0x5B then
      match rest with
      | caret :: d :: bracket :: star :: rest =>
        if caret = 0x5E ∧ d ≠ 0x5C ∧ d ≠ 0x5D ∧ bracket = 0x5D ∧ star = 0x2A then
          (parseTerms rest).map (.many (· ≠ d) :: ·)
        else none
      | _ => none
    else if c = 0x24 then if rest = [] then some [] else none
    else if isSyntaxUnit c then none
    else (parseTerms rest).map (.one (· = c) :: ·)

/-- `new RegExp(source)`, of a source `^…$`. -/
def newRegExp : Text → Option Regex
  | [] => none
  | c :: rest => if c = 0x5E then (parseTerms rest).map Regex.chain else none

end Js
