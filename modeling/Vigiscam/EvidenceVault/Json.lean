import Vigiscam.EvidenceVault.Hash
import Vigiscam.Js.Property

/-!
# `JSON.stringify` and JSONB columns

`jsonStringify` writes the fields of an object in the order in which they stand. A JSONB
column keeps the value and not this order: it gives the fields back by the length of
their keys and then bytewise (`jsonb`). So the text of an object survives the column
only where its keys come in that order; `Parts` says of two values that their texts differ
before either one ends.
-/

namespace EvidenceVault

open Js Value

/-! ## `JSON.stringify` -/

mutual

/-- The JSON text of a plain value. -/
def jsonText : Value → Text
  | null | undefined | nonFinite => utf16 "null"
  | .bool true => utf16 "true"
  | .bool false => utf16 "false"
  | number x => x.toText
  | string s => quote s
  | array items => 0x5B :: (join (jsonItems items) ++ [0x5D])
  | object fields | toJSON fields _ => 0x7B :: (join ((jsonFields fields).map member) ++ [0x7D])

def jsonItems : List Value → List Text
  | [] => []
  | v :: vs => jsonText v :: jsonItems vs

def jsonFields : List (Text × Value) → List (Text × Text)
  | [] => []
  | (k, v) :: fs => (k, jsonText v) :: jsonFields fs

end

/-- `JSON.stringify` of an object or an array. -/
def jsonStringify (v : Value) : Text := jsonText (readBack v)

example : jsonStringify (object [("b", toJSON [] (string "x")), ("a", array [undefined, null])])
    = utf16 "\x7b\"b\":\"x\",\"a\":[null,null]\x7d" := by decide

/-! ## JSONB -/

/-- The bytes of one code unit that is no half of a pair. -/
def unitBytes (c : CodeUnit) : List Nat :=
  if c.val < 0x80 then [c.val]
  else if c.val < 0x800 then [0xC0 + c.val / 0x40, 0x80 + c.val % 0x40]
  else [0xE0 + c.val / 0x1000, 0x80 + c.val / 0x40 % 0x40, 0x80 + c.val % 0x40]

/-- The bytes of a surrogate pair. -/
def pairBytes (c d : CodeUnit) : List Nat :=
  let n := 0x10000 + (c.val - 0xD800) * 0x400 + (d.val - 0xDC00)
  [0xF0 + n / 0x40000, 0x80 + n / 0x1000 % 0x40, 0x80 + n / 0x40 % 0x40, 0x80 + n % 0x40]

/-- The UTF-8 form of a text. -/
def utf8 : Text → List Nat
  | [] => []
  | [c] => unitBytes c
  | c :: d :: rest =>
    if startsPair c (d :: rest) then pairBytes c d ++ utf8 rest else unitBytes c ++ utf8 (d :: rest)

/-- The order of the keys of a JSONB object: shorter keys first, then bytewise. -/
def jsonbLe (k k' : Text) : Prop :=
  (utf8 k).length < (utf8 k').length ∨
    (utf8 k).length = (utf8 k').length ∧ utf8 k ≤ utf8 k'

instance (k k' : Text) : Decidable (jsonbLe k k') := inferInstanceAs (Decidable (_ ∨ _))

/-- Fields in the order of a JSONB object. -/
def sortJsonb {α : Type} (fields : List (Text × α)) : List (Text × α) :=
  fields.insertionSort fun a b => jsonbLe a.1 b.1

mutual

/-- A plain value with the keys of its objects in the order of JSONB. -/
def jsonbOf : Value → Value
  | array items => array (jsonbItems items)
  | object fields => object (sortJsonb (jsonbFields fields))
  | v => v

def jsonbItems : List Value → List Value
  | [] => []
  | v :: vs => jsonbOf v :: jsonbItems vs

def jsonbFields : List (Text × Value) → List (Text × Value)
  | [] => []
  | (k, v) :: fs => (k, jsonbOf v) :: jsonbFields fs

end

/-- What a JSONB column gives back of a value. -/
def jsonb (v : Value) : Value := jsonbOf (readBack v)

example : jsonb (object [("bb", null), ("c", undefined), ("a", object [("y", null), ("x", null)])])
    = object [("a", object [("x", null), ("y", null)]), ("bb", null)] := by rfl

/-! ## The keys of a JSONB object -/

theorem jsonbFields_eq_map (fs : List (Text × Value)) :
    jsonbFields fs = fs.map fun f => (f.1, jsonbOf f.2) := by
  induction fs with
  | nil => rfl
  | cons f fs ih => rw [jsonbFields, ih, List.map_cons]

theorem keys_jsonbFields (fs : List (Text × Value)) :
    (jsonbFields fs).map Prod.fst = fs.map Prod.fst := by
  rw [jsonbFields_eq_map, List.map_map]
  rfl

/-- The fields of a JSONB object are told by its keys in order. -/
theorem sortJsonb_eq_map {fs : List (Text × Value)} (hnd : (fs.map Prod.fst).Nodup) :
    sortJsonb fs = ((fs.map Prod.fst).insertionSort jsonbLe).map fun k => (k, fieldOf fs k) := by
  have hfields : fs = (fs.map Prod.fst).map fun k => (k, fieldOf fs k) := by
    rw [List.map_map]
    conv_lhs => rw [← List.map_id fs]
    refine List.map_congr_left fun f hf => ?_
    exact Prod.ext rfl (fieldOf_of_mem hnd hf).symm
  unfold sortJsonb
  conv_lhs => rw [hfields]
  exact (List.map_insertionSort jsonbLe (fun a b => jsonbLe a.1 b.1) (fun k => (k, fieldOf fs k)) _
    fun _ _ _ _ => Iff.rfl).symm

/-- A JSONB object has the JSONB form of each value. -/
theorem fieldOf_jsonbFields {fs : List (Text × Value)} {k : Text} {v : Value}
    (hnd : (fs.map Prod.fst).Nodup) (h : (k, v) ∈ fs) :
    fieldOf (jsonbFields fs) k = jsonbOf v := by
  refine fieldOf_of_mem (by rwa [keys_jsonbFields]) ?_
  rw [jsonbFields_eq_map]
  exact List.mem_map_of_mem (f := fun f : Text × Value => (f.1, jsonbOf f.2)) h

theorem getOpt_jsonbOf {fs : List (Text × Value)} {k : Text} {v : Value}
    (hnd : (fs.map Prod.fst).Nodup) (h : (k, v) ∈ fs) :
    (jsonbOf (object fs)).getOpt k = jsonbOf v := by
  show fieldOf (sortJsonb (jsonbFields fs)) k = jsonbOf v
  have hperm : (sortJsonb (jsonbFields fs)).Perm (jsonbFields fs) := List.perm_insertionSort ..
  refine fieldOf_of_mem ?_ (hperm.mem_iff.mpr ?_)
  · rw [(hperm.map Prod.fst).nodup_iff, keys_jsonbFields]
    exact hnd
  · rw [jsonbFields_eq_map]
    exact List.mem_map_of_mem (f := fun f : Text × Value => (f.1, jsonbOf f.2)) h

/-- How a JSONB object starts, by its first two keys in order. -/
theorem jsonbOf_object (fs : List (Text × Value)) {k₁ k₂ : Text} {v₁ v₂ : Value}
    (hnd : (fs.map Prod.fst).Nodup)
    (hkeys : ((fs.map Prod.fst).insertionSort jsonbLe).take 2 = [k₁, k₂]) (h₁ : (k₁, v₁) ∈ fs)
    (h₂ : (k₂, v₂) ∈ fs) :
    ∃ rest, jsonbOf (object fs) = object ((k₁, jsonbOf v₁) :: (k₂, jsonbOf v₂) :: rest) := by
  obtain ⟨keys, hsorted⟩ : ∃ keys, (fs.map Prod.fst).insertionSort jsonbLe = k₁ :: k₂ :: keys := by
    refine ⟨((fs.map Prod.fst).insertionSort jsonbLe).drop 2, ?_⟩
    conv_lhs => rw [← List.take_append_drop 2 ((fs.map Prod.fst).insertionSort jsonbLe), hkeys]
    rfl
  refine ⟨keys.map fun k => (k, fieldOf (jsonbFields fs) k), ?_⟩
  show object (sortJsonb (jsonbFields fs)) = _
  rw [sortJsonb_eq_map (by rwa [keys_jsonbFields]), keys_jsonbFields, hsorted, List.map_cons,
    List.map_cons, fieldOf_jsonbFields hnd h₁, fieldOf_jsonbFields hnd h₂]

/-! ## What a column gives back is plain -/

theorem plainFields_iff {fs : List (Text × Value)} : PlainFields fs ↔ ∀ f ∈ fs, Plain f.2 := by
  induction fs with
  | nil => exact ⟨fun _ f hf => absurd hf List.not_mem_nil, fun _ => trivial⟩
  | cons f fs ih =>
    obtain ⟨k, v⟩ := f
    rw [List.forall_mem_cons, ← ih]
    exact Iff.rfl

mutual

theorem plain_jsonbOf : ∀ {v : Value}, Plain v → Plain (jsonbOf v)
  | null, _ | .bool _, _ | number _, _ | string _, _ => trivial
  | array _, h => plain_jsonbItems h
  | object fields, h => by
    show PlainFields (sortJsonb (jsonbFields fields))
    refine plainFields_iff.mpr fun f hf => ?_
    exact plainFields_iff.mp (plain_jsonbFields h) f ((List.perm_insertionSort ..).mem_iff.mp hf)

theorem plain_jsonbItems : ∀ {vs : List Value}, PlainItems vs → PlainItems (jsonbItems vs)
  | [], _ => trivial
  | _ :: _, h => ⟨plain_jsonbOf h.1, plain_jsonbItems h.2⟩

theorem plain_jsonbFields : ∀ {fs : List (Text × Value)}, PlainFields fs →
    PlainFields (jsonbFields fs)
  | [], _ => trivial
  | (_, _) :: _, h => ⟨plain_jsonbOf h.1, plain_jsonbFields h.2⟩

end

theorem plain_jsonb (v : Value) : Plain (jsonb v) := plain_jsonbOf (plain_readBack v)

theorem readBack_plain {v : Value} (h : Plain v) : readBack v = v :=
  readBack_of_stored (stored_plain h)

/-- The text of what a column gives back. -/
theorem jsonStringify_jsonb (v : Value) : jsonStringify (jsonb v) = jsonText (jsonb v) := by
  rw [jsonStringify, readBack_plain (plain_jsonb v)]

/-! ## Where two texts part -/

/-- The texts of two values differ before either one ends. -/
def Parts (v w : Value) : Prop := ∀ r r' : Text, jsonText v ++ r ≠ jsonText w ++ r'

section Parts

variable {k k₁ k₂ : Text} {v v₁ v₂ w : Value} {fs gs : List (Text × Value)} {vs ws : List Value}

theorem Parts.ne (h : Parts v w) : jsonText v ≠ jsonText w :=
  fun heq => h [] [] (by rw [heq])

/-- Objects that start with the same field and go on with different keys. -/
theorem parts_of_keys (h : k₁ ≠ k₂) :
    Parts (object ((k, v) :: (k₁, v₁) :: fs)) (object ((k, v) :: (k₂, v₂) :: gs)) := by
  intro r r' heq
  simp only [jsonText, jsonFields, List.map_cons, join, List.flatMap_cons, member,
    List.cons_append, List.append_assoc] at heq
  have hfirst := List.append_cancel_left (List.cons.inj heq).2
  have hsecond := List.append_cancel_left (List.cons.inj hfirst).2
  exact h (quote_inj (List.cons.inj hsecond).2).1

/-- Objects that start with the same field and go on with values that part. -/
theorem Parts.second (h : Parts v₁ v₂) :
    Parts (object ((k, v) :: (k₁, v₁) :: fs)) (object ((k, v) :: (k₁, v₂) :: gs)) := by
  intro r r' heq
  simp only [jsonText, jsonFields, List.map_cons, join, List.flatMap_cons, member,
    List.cons_append, List.append_assoc] at heq
  have hfirst := List.append_cancel_left (List.cons.inj heq).2
  have hsecond := List.append_cancel_left (List.cons.inj hfirst).2
  have hkey := (quote_inj (List.cons.inj hsecond).2).2
  exact h _ _ (List.cons.inj hkey).2

/-- Arrays whose first items part. -/
theorem Parts.first (h : Parts v w) : Parts (array (v :: vs)) (array (w :: ws)) := by
  intro r r' heq
  simp only [jsonText, jsonItems, join, List.cons_append, List.append_assoc] at heq
  exact h _ _ (List.cons.inj heq).2

end Parts

end EvidenceVault
