import Mathlib.Data.List.Sort
import Mathlib.Data.Fintype.Fin
import Vigiscam.Js.Value
import Vigiscam.Js.Date

/-!
# The canonical form of an evidence event (`evidence.hash.ts`)

`stableStringify` writes a value as JSON with sorted keys. It reads every value
with `toJSON` by its own fields and writes `undefined` as `null`, and up to that
and the order of keys it is injective (`stableStringify_inj`,
`stableStringify_same`).

A value is `Storable` when a JSON column keeps what `stableStringify` sees of it:
no field without a JSON form, and no `toJSON` that returns anything but the
value's own fields. These are the values whose text is the same before and after
the column (`stableStringify_readBack`).
-/

namespace EvidenceVault

open Js Value
open Js.Number (isNumberUnit)

/-! ## `stableStringify` -/

/-- `texts.join(',')`. -/
def join : List Text → Text
  | [] => []
  | t :: ts => t ++ ts.flatMap (0x2C :: ·)

/-- Fields in the order of `keys.sort()`. -/
def sortByKey {α : Type} (fields : List (Text × α)) : List (Text × α) :=
  fields.insertionSort (fun a b => a.1 ≤ b.1)

/-- One field of a serialized object. -/
def member (field : Text × Text) : Text := quote field.1 ++ 0x3A :: field.2

mutual

/-- Deterministic JSON serialization, object keys sorted recursively. -/
def stableStringify : Value → Text
  | null | undefined | nonFinite => utf16 "null"
  | .bool true => utf16 "true"
  | .bool false => utf16 "false"
  | number x => x.toText
  | string s => quote s
  | array items => 0x5B :: (join (stringifyItems items) ++ [0x5D])
  | object fields | toJSON fields _ =>
    0x7B :: (join ((sortByKey (stringifyFields fields)).map member) ++ [0x7D])

def stringifyItems : List Value → List Text
  | [] => []
  | v :: vs => stableStringify v :: stringifyItems vs

def stringifyFields : List (Text × Value) → List (Text × Text)
  | [] => []
  | (k, v) :: fs => (k, stableStringify v) :: stringifyFields fs

end

example : stableStringify (object [("b", number (.ofInt 1)), ("a", array [undefined, null])])
    = utf16 "\x7b\"a\":[null,null],\"b\":1\x7d" := by decide

theorem stringifyItems_eq_map (vs : List Value) : stringifyItems vs = vs.map stableStringify := by
  induction vs with
  | nil => rfl
  | cons v vs ih => rw [stringifyItems, ih, List.map_cons]

/-- A field with its value serialized. -/
def stringifyField (f : Text × Value) : Text × Text := (f.1, stableStringify f.2)

theorem stringifyFields_eq_map (fs : List (Text × Value)) :
    stringifyFields fs = fs.map stringifyField := by
  induction fs with
  | nil => rfl
  | cons f fs ih =>
    obtain ⟨k, v⟩ := f
    rw [stringifyFields, ih, List.map_cons, stringifyField]

/-- Sorting by key and serializing the values commute. -/
theorem sortByKey_stringifyFields (fs : List (Text × Value)) :
    sortByKey (stringifyFields fs) = (sortByKey fs).map stringifyField := by
  rw [stringifyFields_eq_map]
  exact (List.map_insertionSort (fun a b : Text × Value => a.1 ≤ b.1)
    (fun a b : Text × Text => a.1 ≤ b.1) stringifyField fs fun _ _ _ _ => Iff.rfl).symm

theorem perm_sortByKey {α : Type} (fs : List (Text × α)) : (sortByKey fs).Perm fs :=
  List.perm_insertionSort _ fs

/-! ## Which kind of value a text starts -/

inductive Kind where
  | null | true | false | number | string | array | object
deriving DecidableEq

/-- What `stableStringify` takes a value for. -/
def kind : Value → Kind
  | null | undefined | nonFinite => .null
  | .bool true => .true
  | .bool false => .false
  | number _ => .number
  | string _ => .string
  | array _ => .array
  | object _ | toJSON _ _ => .object

/-- The values of a kind. -/
def Kind.Is : Kind → Value → Prop
  | .null, v => Nullish v
  | .true, v => v = bool Bool.true
  | .false, v => v = bool Bool.false
  | .number, v => ∃ x, v = .number x
  | .string, v => ∃ s, v = .string s
  | .array, v => ∃ items, v = .array items
  | .object, v => ∃ fields, v = .object fields ∨ ∃ result, v = toJSON fields result

theorem kind_spec (v : Value) : (kind v).Is v := by
  rcases v with _ | _ | _ | b | x | s | vs | fs | ⟨own, result⟩
  · trivial
  · trivial
  · trivial
  · cases b <;> rfl
  · exact ⟨x, rfl⟩
  · exact ⟨s, rfl⟩
  · exact ⟨vs, rfl⟩
  · exact ⟨fs, Or.inl rfl⟩
  · exact ⟨own, Or.inr ⟨result, rfl⟩⟩

/-- The kind of value whose text starts with a unit, if any does. -/
def kindAt (c : CodeUnit) : Option Kind :=
  if c = 0x6E then some .null
  else if c = 0x74 then some .true
  else if c = 0x66 then some .false
  else if c = 0x22 then some .string
  else if c = 0x5B then some .array
  else if c = 0x7B then some .object
  else if isDigit c ∨ c = 0x2D then some .number
  else none

theorem kindAt_number {c : CodeUnit} (hc : isDigit c ∨ c = 0x2D) :
    kindAt c = some .number := by
  have hne : ∀ d : CodeUnit, ¬ (isDigit d ∨ d = 0x2D) → c ≠ d := by
    rintro d hd rfl
    exact hd hc
  unfold kindAt
  rw [if_neg (hne _ (by decide)), if_neg (hne _ (by decide)), if_neg (hne _ (by decide)),
    if_neg (hne _ (by decide)), if_neg (hne _ (by decide)), if_neg (hne _ (by decide)), if_pos hc]

theorem stableStringify_head (v : Value) :
    ∃ c t, stableStringify v = c :: t ∧ kindAt c = some (kind v) := by
  rcases v with _ | _ | _ | b | x | s | vs | fs | ⟨own, r⟩
  · exact ⟨0x6E, _, rfl, by decide⟩
  · exact ⟨0x6E, _, rfl, by decide⟩
  · exact ⟨0x6E, _, rfl, by decide⟩
  · cases b with
    | true => exact ⟨0x74, _, rfl, by decide⟩
    | false => exact ⟨0x66, _, rfl, by decide⟩
  · obtain ⟨c, t, htext, hc⟩ := x.toText_head
    refine ⟨c, t, ?_, kindAt_number hc⟩
    rw [stableStringify, htext]
  · exact ⟨0x22, _, rfl, by rfl⟩
  · exact ⟨0x5B, _, rfl, by rfl⟩
  · exact ⟨0x7B, _, rfl, by rfl⟩
  · exact ⟨0x7B, _, rfl, by rfl⟩

/-- Values whose texts start alike are of one kind. -/
theorem is_of_append_eq {v w : Value} {r r' : Text}
    (h : stableStringify v ++ r = stableStringify w ++ r') : (kind v).Is w := by
  obtain ⟨c, t, hv, hc⟩ := stableStringify_head v
  obtain ⟨d, u, hw, hd⟩ := stableStringify_head w
  rw [hv, hw] at h
  rw [(List.cons.inj h).1, hd] at hc
  rw [← Option.some.inj hc]
  exact kind_spec w

theorem stableStringify_nullish {v : Value} (h : Nullish v) :
    stableStringify v = utf16 "null" := by
  cases v with
  | null => rfl
  | undefined => rfl
  | nonFinite => rfl
  | _ => exact h.elim

/-- No value starts with the unit that closes an array. -/
theorem stableStringify_ne_close {v : Value} {r r' : Text} :
    stableStringify v ++ r ≠ 0x5D :: r' := by
  intro h
  obtain ⟨c, t, hv, hc⟩ := stableStringify_head v
  rw [hv] at h
  rw [(List.cons.inj h).1] at hc
  have hnone : kindAt 0x5D = none := by decide
  exact absurd (hnone.symm.trans hc) (by simp)

/-! ## Reading a joined list back -/

section Join

variable {α : Type} {f : α → Text} {R : α → α → Prop} {close : CodeUnit}

/-- Two texts that can be told apart in front of whatever stops a number. -/
def Reads (f : α → Text) (R : α → α → Prop) (x y : α) : Prop :=
  ∀ r r' : Text, Stops isNumberUnit r → Stops isNumberUnit r' →
    f x ++ r = f y ++ r' → R x y ∧ r = r'

theorem stops_rest (hclose : ¬ isNumberUnit close) (ts : List Text) (r : Text) :
    Stops isNumberUnit (ts.flatMap (0x2C :: ·) ++ close :: r) := by
  cases ts with
  | nil => exact hclose
  | cons t ts => exact (by decide : ¬ isNumberUnit 0x2C)

/-- The items after the first, each with its comma. -/
theorem rest_inj (hclose : ¬ isNumberUnit close) (hcomma : close ≠ 0x2C) :
    ∀ {xs ys : List α} {r r' : Text}, (∀ x ∈ xs, ∀ y ∈ ys, Reads f R x y) →
      (xs.map f).flatMap (0x2C :: ·) ++ close :: r = (ys.map f).flatMap (0x2C :: ·) ++ close :: r' →
      List.Forall₂ R xs ys ∧ r = r'
  | [], [], _, _, _, h => ⟨.nil, (List.cons.inj h).2⟩
  | [], _ :: _, _, _, _, h => absurd (List.cons.inj h).1 hcomma
  | _ :: _, [], _, _, _, h => absurd (List.cons.inj h).1.symm hcomma
  | x :: xs, y :: ys, r, r', hreads, h => by
    simp only [List.map_cons, List.flatMap_cons, List.cons_append, List.append_assoc,
      List.cons.injEq, true_and] at h
    obtain ⟨hxy, hrest⟩ := hreads x List.mem_cons_self y List.mem_cons_self _ _
      (stops_rest hclose _ r) (stops_rest hclose _ r') h
    obtain ⟨hall, rfl⟩ := rest_inj hclose hcomma
      (fun z hz w hw => hreads z (List.mem_cons_of_mem _ hz) w (List.mem_cons_of_mem _ hw)) hrest
    exact ⟨.cons hxy hall, rfl⟩

/-- Two joined lists that are closed by one unit have the same items, where no
item starts with that unit. -/
theorem join_inj (hclose : ¬ isNumberUnit close) (hcomma : close ≠ 0x2C)
    (hne : ∀ (x : α) (r r' : Text), f x ++ r ≠ close :: r') {xs ys : List α} {r r' : Text}
    (hreads : ∀ x ∈ xs, ∀ y ∈ ys, Reads f R x y)
    (h : join (xs.map f) ++ close :: r = join (ys.map f) ++ close :: r') :
    List.Forall₂ R xs ys ∧ r = r' := by
  -- an empty list is followed by the closing bracket, which no element starts with
  cases xs with
  | nil =>
    cases ys with
    | nil => exact ⟨.nil, (List.cons.inj h).2⟩
    | cons y ys =>
      rw [List.map_cons, join, List.append_assoc] at h
      exact absurd h.symm (hne y _ _)
  | cons x xs =>
    cases ys with
    | nil =>
      rw [List.map_cons, join, List.append_assoc] at h
      exact absurd h (hne x _ _)
    | cons y ys =>
      rw [List.map_cons, List.map_cons, join, join, List.append_assoc, List.append_assoc] at h
      obtain ⟨hxy, hrest⟩ := hreads x List.mem_cons_self y List.mem_cons_self _ _
        (stops_rest hclose _ r) (stops_rest hclose _ r') h
      obtain ⟨hall, rfl⟩ := rest_inj hclose hcomma
        (fun z hz w hw => hreads z (List.mem_cons_of_mem _ hz) w (List.mem_cons_of_mem _ hw))
        hrest
      exact ⟨.cons hxy hall, rfl⟩

end Join

/-! ## Injectivity -/

/-- Two fields with the same key and the same value. -/
def SameField (f g : Text × Value) : Prop := f.1 = g.1 ∧ Same f.2 g.2

theorem sameItems_of_forall₂ {vs ws : List Value} (h : List.Forall₂ Same vs ws) :
    SameItems vs ws := by
  induction h with
  | nil => exact .nil
  | cons hvw _ ih => exact .cons hvw ih

theorem sameFields_of_forall₂ {fs gs : List (Text × Value)} (h : List.Forall₂ SameField fs gs) :
    SameFields fs gs := by
  induction h with
  | nil => exact .nil
  | @cons f g _ _ hfg _ ih =>
    obtain ⟨k, v⟩ := f
    obtain ⟨k', w⟩ := g
    obtain ⟨rfl, hvw⟩ := hfg
    exact .cons hvw ih

/-- What `stableStringify` writes of one field. -/
def fieldText (f : Text × Value) : Text := member (stringifyField f)

/-- A field is told apart by its key and by its value. -/
theorem reads_field {f g : Text × Value} (hvalue : Reads stableStringify Same f.2 g.2) :
    Reads fieldText SameField f g := by
  intro r r' hr hr' h
  obtain ⟨k, v⟩ := f
  obtain ⟨k', w⟩ := g
  change (quote k ++ 0x3A :: stableStringify v) ++ r
    = (quote k' ++ 0x3A :: stableStringify w) ++ r' at h
  rw [List.append_assoc, List.append_assoc] at h
  obtain ⟨rfl, hrest⟩ := quote_inj h
  obtain ⟨hsame, rfl⟩ := hvalue _ _ hr hr' (List.cons.inj hrest).2
  exact ⟨⟨rfl, hsame⟩, rfl⟩

theorem fieldText_ne_close (f : Text × Value) (r r' : Text) :
    fieldText f ++ r ≠ 0x7D :: r' := by
  intro h
  exact absurd (List.cons.inj h).1 (by decide)

/-- Objects whose values can be told apart can be told apart. -/
theorem object_inj {fs gs : List (Text × Value)} {r r' : Text}
    (hreads : ∀ f ∈ fs, ∀ w, Reads stableStringify Same f.2 w)
    (h : stableStringify (object fs) ++ r = stableStringify (object gs) ++ r') :
    Same (object fs) (object gs) ∧ r = r' := by
  rw [stableStringify, stableStringify, sortByKey_stringifyFields, sortByKey_stringifyFields,
    List.map_map, List.map_map, List.cons_append, List.cons_append, List.append_assoc,
    List.append_assoc] at h
  obtain ⟨hall, hrest⟩ := join_inj (f := fieldText) (R := SameField) (by decide) (by decide)
    fieldText_ne_close
    (fun f hf g _ => reads_field (hreads f ((perm_sortByKey fs).subset hf) g.2)) (List.cons.inj h).2
  exact ⟨.object (perm_sortByKey fs).symm (sameFields_of_forall₂ hall) (perm_sortByKey gs),
    hrest⟩

theorem reads_nullish {v w : Value} (hv : Nullish v) (hkind : kind v = .null) :
    Reads stableStringify Same v w := by
  intro r r' _ _ h
  have hw : Kind.null.Is w := hkind ▸ is_of_append_eq h
  rw [stableStringify_nullish hv, stableStringify_nullish hw] at h
  exact ⟨.nullish hv hw, List.append_cancel_left h⟩

theorem reads_object {fs : List (Text × Value)}
    (hreads : ∀ f ∈ fs, ∀ w, Reads stableStringify Same f.2 w) (w : Value) :
    Reads stableStringify Same (object fs) w := by
  intro r r' _ _ h
  obtain ⟨gs, rfl | ⟨result, rfl⟩⟩ : Kind.object.Is w := is_of_append_eq h
  · exact object_inj hreads h
  · obtain ⟨hsame, hrest⟩ : Same (object fs) (object gs) ∧ r = r' := object_inj hreads h
    exact ⟨.toJSONRight hsame, hrest⟩

mutual

/-- **A value can be read back from its text**, up to key order, whatever text
stops it. -/
theorem reads_stableStringify : ∀ v w : Value, Reads stableStringify Same v w
  | null, _ => reads_nullish (by trivial) rfl
  | undefined, _ => reads_nullish (by trivial) rfl
  | nonFinite, _ => reads_nullish (by trivial) rfl
  | .bool b, w => by
    intro r r' _ _ h
    -- `true` and `false` are words of their own, so the value is read off the text
    have hw : w = .bool b := by
      cases b
      · exact is_of_append_eq h
      · exact is_of_append_eq h
    subst hw
    exact ⟨.bool b, List.append_cancel_left h⟩
  | number x, w => by
    intro r r' hr hr' h
    obtain ⟨y, rfl⟩ : Kind.number.Is w := is_of_append_eq h
    obtain ⟨rfl, hrest⟩ := Number.toText_append_inj hr hr' h
    exact ⟨.number x, hrest⟩
  | string s, w => by
    intro r r' _ _ h
    obtain ⟨t, rfl⟩ : Kind.string.Is w := is_of_append_eq h
    obtain ⟨rfl, hrest⟩ := quote_inj h
    exact ⟨.string s, hrest⟩
  | array vs, w => by
    intro r r' _ _ h
    obtain ⟨ws, rfl⟩ : Kind.array.Is w := is_of_append_eq h
    rw [stableStringify, stableStringify, stringifyItems_eq_map, stringifyItems_eq_map,
      List.cons_append, List.cons_append, List.append_assoc, List.append_assoc] at h
    obtain ⟨hall, hrest⟩ := join_inj (R := Same) (by decide) (by decide)
      (fun _ _ _ => stableStringify_ne_close) (fun v hv u _ => reads_items vs v hv u)
      (List.cons.inj h).2
    exact ⟨.array (sameItems_of_forall₂ hall), hrest⟩
  -- the sort is by key, and `reads_object` reads the members in the sorted order
  | object fs, w => reads_object (reads_fields fs) w
  | toJSON own _, w => by
    intro r r' hr hr' h
    obtain ⟨hsame, hrest⟩ := reads_object (reads_fields own) w r r' hr hr' h
    exact ⟨.toJSONLeft hsame, hrest⟩

theorem reads_items : ∀ (vs : List Value), ∀ v ∈ vs, ∀ w, Reads stableStringify Same v w
  | v :: vs, u, hu, w => by
    rcases List.mem_cons.mp hu with heq | hu
    · rw [heq]
      exact reads_stableStringify v w
    · exact reads_items vs u hu w

theorem reads_fields : ∀ (fs : List (Text × Value)), ∀ f ∈ fs, ∀ w,
    Reads stableStringify Same f.2 w
  | (k, v) :: fs, f, hf, w => by
    rcases List.mem_cons.mp hf with rfl | hf
    · exact reads_stableStringify v w
    · exact reads_fields fs f hf w

end

/-- **`stableStringify` is injective** up to key order, `undefined` against
`null`, and `toJSON`. -/
theorem stableStringify_inj {v w : Value} (h : stableStringify v = stableStringify w) :
    Same v w :=
  (reads_stableStringify v w [] [] trivial trivial (by rw [h])).1

/-! ## Values with the same text -/

/-- Objects with the same fields are sorted into the same list. -/
theorem sortByKey_eq_of_perm {α : Type} {fs gs : List (Text × α)} (hperm : fs.Perm gs)
    (hnd : (fs.map Prod.fst).Nodup) : sortByKey fs = sortByKey gs := by
  refine List.Perm.eq_of_pairwise ?_ (List.pairwise_insertionSort _ fs)
    (List.pairwise_insertionSort _ gs)
    ((perm_sortByKey fs).trans (hperm.trans (perm_sortByKey gs).symm))
  intro f g hf hg hle hge
  exact List.inj_on_of_nodup_map hnd ((perm_sortByKey fs).subset hf)
    (hperm.symm.subset ((perm_sortByKey gs).subset hg)) (le_antisymm hle hge)

theorem keys_stringifyFields (fs : List (Text × Value)) :
    (stringifyFields fs).map Prod.fst = fs.map Prod.fst := by
  rw [stringifyFields_eq_map, List.map_map]
  rfl

mutual

/-- **Equal values have one text**: the order of keys does not show. -/
theorem stableStringify_same : ∀ {v w : Value}, Same v w → Distinct v → Distinct w →
    stableStringify v = stableStringify w
  | _, _, .nullish hv hw, _, _ => by
    rw [stableStringify_nullish hv, stableStringify_nullish hw]
  | _, _, .bool _, _, _ => rfl
  | _, _, .number _, _, _ => rfl
  | _, _, .string _, _, _ => rfl
  | _, _, .array h, hv, hw => by
    rw [stableStringify, stableStringify, stringifyItems_same h hv hw]
  | .object fs, .object gs, .object hperm h hperm', hv, hw => by
    have hv' := distinctFields_iff.mpr fun f hf =>
      distinctFields_iff.mp hv.2 f (hperm.symm.subset hf)
    have hw' := distinctFields_iff.mpr fun g hg =>
      distinctFields_iff.mp hw.2 g (hperm'.subset hg)
    -- the members are the same up to their order, and the sort forgets the order
    have hmid := stringifyFields_same h hv' hw'
    have hfs : (stringifyFields fs).Perm (stringifyFields gs) := by
      rw [stringifyFields_eq_map] at hmid
      rw [stringifyFields_eq_map, stringifyFields_eq_map]
      refine (hperm.map stringifyField).trans ?_
      rw [hmid, stringifyFields_eq_map]
      exact hperm'.map stringifyField
    rw [stableStringify, stableStringify, sortByKey_eq_of_perm hfs]
    rw [keys_stringifyFields]
    exact hv.1
  | _, _, .toJSONLeft h, hv, hw => by
    rw [stableStringify]
    exact stableStringify_same h hv.1 hw
  | _, _, .toJSONRight h, hv, hw => by
    rw [stableStringify_same h hv hw.1]
    rfl

theorem stringifyItems_same : ∀ {vs ws : List Value}, SameItems vs ws →
    DistinctItems vs → DistinctItems ws → stringifyItems vs = stringifyItems ws
  | _, _, .nil, _, _ => rfl
  | _, _, .cons h hrest, hv, hw => by
    rw [stringifyItems, stringifyItems, stableStringify_same h hv.1 hw.1,
      stringifyItems_same hrest hv.2 hw.2]

theorem stringifyFields_same : ∀ {fs gs : List (Text × Value)}, SameFields fs gs →
    DistinctFields fs → DistinctFields gs → stringifyFields fs = stringifyFields gs
  | _, _, .nil, _, _ => rfl
  | _, _, .cons h hrest, hv, hw => by
    rw [stringifyFields, stringifyFields, stableStringify_same h hv.1 hw.1,
      stringifyFields_same hrest hv.2 hw.2]

end

theorem stableStringify_eq_iff {v w : Value} (hv : Distinct v) (hw : Distinct w) :
    stableStringify v = stableStringify w ↔ Same v w :=
  ⟨stableStringify_inj, fun h => stableStringify_same h hv hw⟩

/-- **A JSON column keeps the text of a value exactly when the value is storable.** -/
theorem stableStringify_readBack {v : Value} (hv : Distinct v) :
    stableStringify v = stableStringify (readBack v) ↔ Storable v := by
  rw [stableStringify_eq_iff hv (distinct_readBack hv), same_readBack_iff hv]

end EvidenceVault
