import Mathlib.Data.List.Nodup
import Vigiscam.Js.Number

/-!
# JavaScript data and its JSON form

`Value` is the data a program can hand to a JSON column: besides JSON itself it
has `undefined`, the non-finite numbers, and values with a `toJSON` method (a
`Date`, a decimal, a class instance), which have enumerable fields of their own
and a value that the method returns.

`Value.stored` is what a JSON column keeps of such a value: `undefined` fields
are dropped, `undefined` items and non-finite numbers become `null`, and a value
with `toJSON` is replaced by what the method returns. `Json` is the data that
comes back from a JSON column. `Value.Same` is equality up to the order of
object keys, with `undefined` read as `null`.
-/

namespace Js

inductive Value where
  | null
  | undefined
  | nonFinite
  | bool (b : Bool)
  | number (x : Number)
  | string (s : Text)
  | array (items : List Value)
  | object (fields : List (Text × Value))
  /-- A value with a `toJSON` method: its own enumerable fields, and what the
  method returns. -/
  | toJSON (own : List (Text × Value)) (result : Value)

namespace Value

/-- The values that are written `null`. -/
def Nullish : Value → Prop
  | null | undefined | nonFinite => True
  | _ => False

/-- `v ?? null`. -/
def orNull : Value → Value
  | undefined => null
  | v => v

/-- `null` for an absent value, a string otherwise. -/
def ofNullable : Option Text → Value
  | none => null
  | some s => string s

/-! ## Well-formed values -/

/-! An object has at most one field of each key, at every depth. -/

mutual

def Distinct : Value → Prop
  | null | undefined | nonFinite | bool _ | number _ | string _ => True
  | array items => DistinctItems items
  | object fields => (fields.map Prod.fst).Nodup ∧ DistinctFields fields
  | toJSON own result => ((own.map Prod.fst).Nodup ∧ DistinctFields own) ∧ Distinct result

def DistinctItems : List Value → Prop
  | [] => True
  | v :: vs => Distinct v ∧ DistinctItems vs

def DistinctFields : List (Text × Value) → Prop
  | [] => True
  | (_, v) :: fs => Distinct v ∧ DistinctFields fs

end

/-! Plain JSON: no `undefined`, no non-finite number, no `toJSON`. -/

mutual

def Plain : Value → Prop
  | null | bool _ | number _ | string _ => True
  | undefined | nonFinite | toJSON _ _ => False
  | array items => PlainItems items
  | object fields => PlainFields fields

def PlainItems : List Value → Prop
  | [] => True
  | v :: vs => Plain v ∧ PlainItems vs

def PlainFields : List (Text × Value) → Prop
  | [] => True
  | (_, v) :: fs => Plain v ∧ PlainFields fs

end

theorem distinct_ofNullable (s : Option Text) : Distinct (ofNullable s) := by
  cases s <;> trivial

theorem distinctFields_iff {fs : List (Text × Value)} :
    DistinctFields fs ↔ ∀ f ∈ fs, Distinct f.2 := by
  induction fs with
  | nil => exact ⟨fun _ f hf => absurd hf List.not_mem_nil, fun _ => trivial⟩
  | cons f fs ih =>
    obtain ⟨k, v⟩ := f
    rw [List.forall_mem_cons, ← ih]
    exact Iff.rfl

/-- Keys are distinct, so a key has one value. -/
theorem eq_of_nodup_keys {fs : List (Text × Value)} {k : Text} {v w : Value}
    (hnd : (fs.map Prod.fst).Nodup) (hv : (k, v) ∈ fs) (hw : (k, w) ∈ fs) : v = w :=
  congrArg Prod.snd (List.inj_on_of_nodup_map hnd hv hw rfl)

/-! ## What a JSON column keeps -/

mutual

/-- What a JSON column keeps of a value; `none` for a value that has no JSON form. -/
def stored : Value → Option Value
  | null => some null
  | undefined => none
  | nonFinite => some null
  | bool b => some (bool b)
  | number x => some (number x)
  | string s => some (string s)
  | array items => some (array (storedItems items))
  | object fields => some (object (storedFields fields))
  | toJSON _ result => stored result

def storedItems : List Value → List Value
  | [] => []
  | v :: vs => (stored v).getD null :: storedItems vs

def storedFields : List (Text × Value) → List (Text × Value)
  | [] => []
  | (k, v) :: fs =>
    match stored v with
    | none => storedFields fs
    | some w => (k, w) :: storedFields fs

end

/-- What the column reads back as: a value without a JSON form leaves it empty. -/
def readBack (v : Value) : Value := (stored v).getD null

example : stored (object [("a", undefined), ("b", array [undefined, null])])
    = some (object [("b", array [null, null])]) := rfl

theorem storedItems_cons (v : Value) (vs : List Value) :
    storedItems (v :: vs) = readBack v :: storedItems vs := rfl

theorem storedFields_none {k : Text} {v : Value} (h : stored v = none)
    (fs : List (Text × Value)) : storedFields ((k, v) :: fs) = storedFields fs := by
  rw [storedFields, h]

theorem storedFields_some {k : Text} {v w : Value} (h : stored v = some w)
    (fs : List (Text × Value)) : storedFields ((k, v) :: fs) = (k, w) :: storedFields fs := by
  rw [storedFields, h]

/-- The kept fields are the fields whose value has a JSON form. -/
theorem mem_storedFields : ∀ {fs : List (Text × Value)} {k : Text} {w : Value},
    (k, w) ∈ storedFields fs → ∃ v, (k, v) ∈ fs ∧ stored v = some w
  | (k₀, v₀) :: fs, k, w, h => by
    cases hs : stored v₀ with
    | none =>
      rw [storedFields_none hs] at h
      obtain ⟨v, hmem, hv⟩ := mem_storedFields h
      exact ⟨v, List.mem_cons_of_mem _ hmem, hv⟩
    | some w₀ =>
      rw [storedFields_some hs] at h
      rcases List.mem_cons.mp h with heq | h
      · cases heq
        exact ⟨v₀, List.mem_cons_self, hs⟩
      · obtain ⟨v, hmem, hv⟩ := mem_storedFields h
        exact ⟨v, List.mem_cons_of_mem _ hmem, hv⟩

theorem keys_storedFields : ∀ (fs : List (Text × Value)),
    ((storedFields fs).map Prod.fst).Sublist (fs.map Prod.fst)
  | [] => List.Sublist.slnil
  | (k, v) :: fs => by
    cases hs : stored v with
    | none =>
      rw [storedFields_none hs]
      exact (keys_storedFields fs).cons k
    | some w =>
      rw [storedFields_some hs]
      exact (keys_storedFields fs).cons_cons k

mutual

theorem plain_stored : ∀ {v w : Value}, stored v = some w → Plain w
  | null, _, h | nonFinite, _, h | bool _, _, h | number _, _, h | string _, _, h => by
    cases h
    trivial
  | array items, _, h => by
    cases h
    exact plain_storedItems items
  | object fields, _, h => by
    cases h
    exact plain_storedFields fields
  | toJSON _ result, _, h => plain_stored (v := result) h

theorem plain_storedItems : ∀ vs : List Value, PlainItems (storedItems vs)
  | [] => trivial
  | v :: vs => by
    refine ⟨?_, plain_storedItems vs⟩
    cases hs : stored v with
    | none => trivial
    | some w => exact plain_stored hs

theorem plain_storedFields : ∀ fs : List (Text × Value), PlainFields (storedFields fs)
  | [] => trivial
  | (k, v) :: fs => by
    cases hs : stored v with
    | none =>
      rw [storedFields_none hs]
      exact plain_storedFields fs
    | some w =>
      rw [storedFields_some hs]
      exact ⟨plain_stored hs, plain_storedFields fs⟩

end

mutual

theorem distinct_stored : ∀ {v w : Value}, Distinct v → stored v = some w → Distinct w
  | null, _, _, h | nonFinite, _, _, h | bool _, _, _, h | number _, _, _, h
  | string _, _, _, h => by
    cases h
    trivial
  | array _, _, hv, h => by
    cases h
    exact distinct_storedItems hv
  | object fields, _, hv, h => by
    cases h
    exact ⟨hv.1.sublist (keys_storedFields fields), distinct_storedFields hv.2⟩
  | toJSON _ result, _, hv, h => distinct_stored (v := result) hv.2 h

theorem distinct_storedItems : ∀ {vs : List Value},
    DistinctItems vs → DistinctItems (storedItems vs)
  | [], _ => trivial
  | v :: vs, h => by
    refine ⟨?_, distinct_storedItems h.2⟩
    cases hs : stored v with
    | none => trivial
    | some w => exact distinct_stored h.1 hs

theorem distinct_storedFields : ∀ {fs : List (Text × Value)},
    DistinctFields fs → DistinctFields (storedFields fs)
  | [], _ => trivial
  | (k, v) :: fs, h => by
    cases hs : stored v with
    | none =>
      rw [storedFields_none hs]
      exact distinct_storedFields h.2
    | some w =>
      rw [storedFields_some hs]
      exact ⟨distinct_stored h.1 hs, distinct_storedFields h.2⟩

end

mutual

/-- Plain JSON is kept as it is. -/
theorem stored_plain : ∀ {v : Value}, Plain v → stored v = some v
  | null, _ | bool _, _ | number _, _ | string _, _ => rfl
  | array _, h => by rw [stored, storedItems_plain h]
  | object _, h => by rw [stored, storedFields_plain h]

theorem storedItems_plain : ∀ {vs : List Value}, PlainItems vs → storedItems vs = vs
  | [], _ => rfl
  | v :: vs, h => by
    rw [storedItems, stored_plain h.1, storedItems_plain h.2]
    rfl

theorem storedFields_plain : ∀ {fs : List (Text × Value)},
    PlainFields fs → storedFields fs = fs
  | [], _ => rfl
  | (k, v) :: fs, h => by rw [storedFields_some (stored_plain h.1), storedFields_plain h.2]

end

/-! ## Equality up to key order -/

mutual

/-- Equal up to the order of object keys, where the values written `null` are
not told apart and a value with `toJSON` is read by its own fields. -/
inductive Same : Value → Value → Prop
  | nullish {v w : Value} : Nullish v → Nullish w → Same v w
  | bool (b : Bool) : Same (bool b) (bool b)
  | number (x : Number) : Same (number x) (number x)
  | string (s : Text) : Same (string s) (string s)
  | array {vs ws : List Value} : SameItems vs ws → Same (array vs) (array ws)
  | object {fs fs' gs gs' : List (Text × Value)} :
      fs.Perm fs' → SameFields fs' gs' → gs'.Perm gs → Same (object fs) (object gs)
  | toJSONLeft {own : List (Text × Value)} {r w : Value} :
      Same (object own) w → Same (toJSON own r) w
  | toJSONRight {own : List (Text × Value)} {r v : Value} :
      Same v (object own) → Same v (toJSON own r)

inductive SameItems : List Value → List Value → Prop
  | nil : SameItems [] []
  | cons {v w : Value} {vs ws : List Value} :
      Same v w → SameItems vs ws → SameItems (v :: vs) (w :: ws)

inductive SameFields : List (Text × Value) → List (Text × Value) → Prop
  | nil : SameFields [] []
  | cons {k : Text} {v w : Value} {fs gs : List (Text × Value)} :
      Same v w → SameFields fs gs → SameFields ((k, v) :: fs) ((k, w) :: gs)

end

theorem SameFields.exists_right : ∀ {fs gs : List (Text × Value)} {k : Text} {v : Value},
    SameFields fs gs → (k, v) ∈ fs → ∃ w, (k, w) ∈ gs ∧ Same v w
  | (k₀, v₀) :: fs, (_, w₀) :: gs, k, v, .cons hsame hrest, h => by
    rcases List.mem_cons.mp h with heq | h
    · cases heq
      exact ⟨w₀, List.mem_cons_self, hsame⟩
    · obtain ⟨w, hw, hvw⟩ := SameFields.exists_right hrest h
      exact ⟨w, List.mem_cons_of_mem _ hw, hvw⟩

/-- The same objects have the same field under every key. -/
theorem Same.exists_field {fs gs : List (Text × Value)} {k : Text} {v : Value}
    (h : Same (.object fs) (.object gs)) (hv : (k, v) ∈ fs) : ∃ w, (k, w) ∈ gs ∧ Same v w := by
  cases h with
  | nullish hl => exact hl.elim
  | object hperm hfields hperm' =>
    obtain ⟨w, hw, hvw⟩ := hfields.exists_right (hperm.subset hv)
    exact ⟨w, hperm'.subset hw, hvw⟩

theorem Same.string_eq {s t : Text} (h : Same (.string s) (.string t)) : s = t := by
  cases h with
  | nullish hl => exact hl.elim
  | string => rfl

theorem Same.number_eq {x y : Number} (h : Same (.number x) (.number y)) : x = y := by
  cases h with
  | nullish hl => exact hl.elim
  | number => rfl

/-- An absent value is told from every string. -/
theorem Same.ofNullable_eq {s t : Option Text} (h : Same (ofNullable s) (ofNullable t)) :
    s = t := by
  cases s with
  | none =>
    cases t with
    | none => rfl
    | some t =>
      cases h with
      | nullish _ hr => exact hr.elim
  | some s =>
    cases t with
    | none =>
      cases h with
      | nullish hl => exact hl.elim
    | some t => rw [Same.string_eq h]

/-- Only the values written `null` are the same as `null`. -/
theorem Same.nullish_of_null_left {w : Value} (h : Same .null w) : Nullish w := by
  cases h with
  | nullish _ hr => exact hr
  | toJSONRight h =>
    cases h with
    | nullish _ hr => exact hr.elim

theorem Same.nullish_of_null_right {v : Value} (h : Same v .null) : Nullish v := by
  cases h with
  | nullish hl => exact hl
  | toJSONLeft h =>
    cases h with
    | nullish hl => exact hl.elim

theorem orNull_of_ne {v : Value} (h : v ≠ undefined) : orNull v = v := by
  cases v with
  | undefined => exact absurd rfl h
  | _ => rfl

theorem Same.orNull_iff {v w : Value} : Same (orNull v) w ↔ Same v w := by
  by_cases hv : v = .undefined
  · subst hv
    constructor
    · intro h
      exact .nullish trivial h.nullish_of_null_left
    · intro h
      cases h with
      | nullish _ hr => exact .nullish trivial hr
      | toJSONRight h =>
        cases h with
        | nullish _ hr => exact hr.elim
  · rw [orNull_of_ne hv]

theorem Same.iff_orNull {v w : Value} : Same v (orNull w) ↔ Same v w := by
  by_cases hw : w = .undefined
  · subst hw
    constructor
    · intro h
      exact .nullish h.nullish_of_null_right trivial
    · intro h
      cases h with
      | nullish hl => exact .nullish hl trivial
      | toJSONLeft h =>
        cases h with
        | nullish hl => exact hl.elim
  · rw [orNull_of_ne hw]

theorem distinct_orNull {v : Value} (h : Distinct v) : Distinct (orNull v) := by
  by_cases hv : v = .undefined
  · subst hv
    trivial
  · rwa [orNull_of_ne hv]

/-- The same objects with the same list of keys have the same values, position by
position. -/
theorem Same.fields_of_keys_eq {fs gs : List (Text × Value)}
    (h : Same (.object fs) (.object gs)) (hkeys : fs.map Prod.fst = gs.map Prod.fst)
    (hnd : (gs.map Prod.fst).Nodup) : SameFields fs gs := by
  -- `Same` does not go down to a tail: the induction is on the parts of both field lists
  have hpart : ∀ fs' gs' : List (Text × Value), fs' ⊆ fs → gs' ⊆ gs →
      fs'.map Prod.fst = gs'.map Prod.fst → SameFields fs' gs' := by
    intro fs'
    induction fs' with
    | nil =>
      intro gs' _ _ hkeys'
      cases gs' with
      | nil => exact .nil
      | cons => exact absurd hkeys' (by simp)
    | cons f fs' ih =>
      intro gs' hfs hgs hkeys'
      cases gs' with
      | nil => exact absurd hkeys' (by simp)
      | cons g gs' =>
        obtain ⟨k, v⟩ := f
        obtain ⟨k', w⟩ := g
        obtain ⟨hk, hrest⟩ := List.cons.inj hkeys'
        obtain rfl : k = k' := hk
        obtain ⟨w', hw', hsame⟩ := h.exists_field (hfs List.mem_cons_self)
        obtain rfl := eq_of_nodup_keys hnd hw' (hgs List.mem_cons_self)
        exact .cons hsame (ih gs' (fun x hx => hfs (List.mem_cons_of_mem _ hx))
          (fun x hx => hgs (List.mem_cons_of_mem _ hx)) hrest)
  exact hpart fs gs (fun _ hx => hx) (fun _ hx => hx) hkeys

mutual

theorem Same.refl : ∀ v : Value, Same v v
  | .null => .nullish trivial trivial
  | .undefined => .nullish trivial trivial
  | .nonFinite => .nullish trivial trivial
  | .bool b => .bool b
  | .number x => .number x
  | .string s => .string s
  | .array vs => .array (SameItems.refl vs)
  | .object fs => .object (List.Perm.refl _) (SameFields.refl fs) (List.Perm.refl _)
  | .toJSON own _ => .toJSONLeft (.toJSONRight
      (.object (List.Perm.refl _) (SameFields.refl own) (List.Perm.refl _)))

theorem SameItems.refl : ∀ vs : List Value, SameItems vs vs
  | [] => .nil
  | v :: vs => .cons (Same.refl v) (SameItems.refl vs)

theorem SameFields.refl : ∀ fs : List (Text × Value), SameFields fs fs
  | [] => .nil
  | (_, v) :: fs => .cons (Same.refl v) (SameFields.refl fs)

end

/-! ## Values a JSON column keeps unchanged -/

mutual

/-- Every object field has a JSON form, and every `toJSON` returns the value's own
fields, at every depth. -/
def Storable : Value → Prop
  | null | undefined | nonFinite | bool _ | number _ | string _ => True
  | array items => StorableItems items
  | object fields => StorableFields fields
  | toJSON own result => ∃ w, stored result = some w ∧ Same (object own) w

def StorableItems : List Value → Prop
  | [] => True
  | v :: vs => Storable v ∧ StorableItems vs

def StorableFields : List (Text × Value) → Prop
  | [] => True
  | (_, v) :: fs => (stored v ≠ none ∧ Storable v) ∧ StorableFields fs

end

mutual

/-- Plain JSON is storable. -/
theorem Plain.storable : ∀ {v : Value}, Plain v → Storable v
  | null, _ | bool _, _ | number _, _ | string _, _ => trivial
  | array _, h => PlainItems.storable h
  | object _, h => PlainFields.storable h

theorem PlainItems.storable : ∀ {vs : List Value}, PlainItems vs → StorableItems vs
  | [], _ => trivial
  | _ :: _, h => ⟨Plain.storable h.1, PlainItems.storable h.2⟩

theorem PlainFields.storable : ∀ {fs : List (Text × Value)},
    PlainFields fs → StorableFields fs
  | [], _ => trivial
  | (_, v) :: _, h =>
    ⟨⟨by rw [stored_plain h.1]; exact Option.some_ne_none v, Plain.storable h.1⟩,
      PlainFields.storable h.2⟩

end

theorem storable_orNull {v : Value} : Storable (orNull v) ↔ Storable v := by
  by_cases hv : v = .undefined
  · subst hv
    exact Iff.rfl
  · rw [orNull_of_ne hv]

/-- A plain value is not read by its own fields: it has no `toJSON`. -/
theorem Same.of_toJSON {own : List (Text × Value)} {r w : Value} (hw : Plain w)
    (h : Same (.toJSON own r) w) : Same (.object own) w := by
  cases h with
  | nullish hl => exact hl.elim
  | toJSONLeft h => exact h
  | toJSONRight => exact hw.elim

theorem plain_readBack (v : Value) : Plain (readBack v) := by
  unfold readBack
  cases h : stored v with
  | none => trivial
  | some w => exact plain_stored h

theorem distinct_readBack {v : Value} (hv : Distinct v) : Distinct (readBack v) := by
  unfold readBack
  cases h : stored v with
  | none => trivial
  | some w => exact distinct_stored hv h

theorem readBack_of_stored {v w : Value} (h : stored v = some w) : readBack v = w := by
  rw [readBack, h]
  rfl

/-- No object is the same as `null`. -/
theorem Same.not_object_null {fs : List (Text × Value)} : ¬ Same (.object fs) .null := by
  intro h
  cases h with
  | nullish hl => exact hl

theorem toJSON_storable_iff {own : List (Text × Value)} {r : Value} :
    Same (toJSON own r) (readBack (toJSON own r)) ↔ Storable (toJSON own r) := by
  have hback : readBack (toJSON own r) = readBack r := rfl
  constructor
  · intro h
    have hown := Same.of_toJSON (plain_readBack _) h
    cases hr : stored r with
    | none =>
      rw [hback, readBack, hr] at hown
      exact absurd hown Same.not_object_null
    | some w =>
      rw [hback, readBack_of_stored hr] at hown
      exact ⟨w, hr, hown⟩
  · rintro ⟨w, hr, hown⟩
    rw [hback, readBack_of_stored hr]
    exact .toJSONLeft hown

/-- An object is kept unchanged when each of its fields is kept, unchanged. -/
theorem object_same_stored_iff {fs : List (Text × Value)} (hnd : (fs.map Prod.fst).Nodup) :
    Same (object fs) (object (storedFields fs)) ↔
      ∀ f ∈ fs, ∃ w, stored f.2 = some w ∧ Same f.2 w := by
  constructor
  · rintro h ⟨k, v⟩ hf
    obtain ⟨w, hw, hsame⟩ := h.exists_field hf
    obtain ⟨v', hv', hstored⟩ := mem_storedFields hw
    obtain rfl := eq_of_nodup_keys hnd hf hv'
    exact ⟨w, hstored, hsame⟩
  · intro h
    refine .object (List.Perm.refl _) ?_ (List.Perm.refl _)
    clear hnd
    induction fs with
    | nil => exact .nil
    | cons f fs ih =>
      obtain ⟨k, v⟩ := f
      obtain ⟨⟨w, hw, hsame⟩, hrest⟩ := List.forall_mem_cons.mp h
      rw [storedFields_some hw]
      exact .cons hsame (ih hrest)

mutual

/-- **What a JSON column gives back of a value is the same value exactly when the
value is storable.** -/
theorem same_readBack_iff : ∀ {v : Value}, Distinct v → (Same v (readBack v) ↔ Storable v)
  | null, _ | undefined, _ | nonFinite, _ =>
    ⟨fun _ => trivial, fun _ => .nullish trivial trivial⟩
  | bool b, _ => ⟨fun _ => trivial, fun _ => .bool b⟩
  | number x, _ => ⟨fun _ => trivial, fun _ => .number x⟩
  | string s, _ => ⟨fun _ => trivial, fun _ => .string s⟩
  | array vs, hv => by
    rw [Storable, ← sameItems_readBack_iff hv]
    constructor
    · intro h
      cases h with
      | nullish hl => exact hl.elim
      | array h => exact h
    · exact .array
  | object fs, hv => by
    rw [Storable, ← sameFields_readBack_iff hv.2]
    exact object_same_stored_iff hv.1
  | toJSON _ _, _ => toJSON_storable_iff

theorem sameItems_readBack_iff : ∀ {vs : List Value}, DistinctItems vs →
    (SameItems vs (storedItems vs) ↔ StorableItems vs)
  | [], _ => ⟨fun _ => trivial, fun _ => .nil⟩
  | v :: vs, hvs => by
    rw [StorableItems, ← same_readBack_iff hvs.1, ← sameItems_readBack_iff hvs.2]
    constructor
    · intro h
      cases h with
      | cons hv hrest => exact ⟨hv, hrest⟩
    · rintro ⟨hv, hrest⟩
      exact .cons hv hrest

theorem sameFields_readBack_iff : ∀ {fs : List (Text × Value)}, DistinctFields fs →
    ((∀ f ∈ fs, ∃ w, stored f.2 = some w ∧ Same f.2 w) ↔ StorableFields fs)
  | [], _ => ⟨fun _ => trivial, fun _ f hf => absurd hf List.not_mem_nil⟩
  | (k, v) :: fs, hfs => by
    rw [StorableFields, List.forall_mem_cons, ← sameFields_readBack_iff hfs.2,
      ← same_readBack_iff hfs.1]
    refine and_congr ?_ Iff.rfl
    constructor
    · rintro ⟨w, hw, hsame⟩
      rw [readBack_of_stored hw]
      exact ⟨by rw [hw]; exact Option.some_ne_none w, hsame⟩
    · rintro ⟨hne, hsame⟩
      obtain ⟨w, hw⟩ := Option.ne_none_iff_exists'.mp hne
      rw [readBack_of_stored hw] at hsame
      exact ⟨w, hw, hsame⟩

end

end Value

/-- What a JSON column holds: plain JSON whose objects have distinct keys. -/
structure Json where
  val : Value
  plain : val.Plain
  distinct : val.Distinct

/-- An empty column reads as `null`. -/
def Json.read : Option Json → Value
  | none => .null
  | some j => j.val

theorem Json.distinct_read (j : Option Json) : (Json.read j).Distinct := by
  cases j with
  | none => trivial
  | some j => exact j.distinct

end Js
