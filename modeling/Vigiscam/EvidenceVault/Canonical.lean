import Vigiscam.EvidenceVault.Hash

/-!
# The text of a value is its canonical form (`evidence.hash.ts`)

JSON values are `Alike` where one comes out of the other by reordering the fields of objects and by
reading `undefined` as `null`, at any depth and in any number of steps. Nothing in this speaks of
texts. Values are alike exactly where `stableStringify` writes one text for both
(`stableStringify_canonical`).
-/

namespace EvidenceVault

open Js Value

/-! ## JSON values with `undefined` -/

mutual

/-- JSON, where any value may be `undefined`: no number that is not finite, and no `toJSON`. -/
def Bare : Value → Prop
  | null | undefined | .bool _ | number _ | string _ => True
  | nonFinite | toJSON _ _ => False
  | array items => BareItems items
  | object fields => BareFields fields

def BareItems : List Value → Prop
  | [] => True
  | v :: vs => Bare v ∧ BareItems vs

def BareFields : List (Text × Value) → Prop
  | [] => True
  | (_, v) :: fs => Bare v ∧ BareFields fs

end

/-- A JSON value: its objects have distinct keys. -/
structure JsonData where
  val : Value
  bare : Bare val
  distinct : val.Distinct

/-- Equal up to the order of object keys and up to `undefined` being read as `null`: the least
equivalence with these two rules that can be applied inside of arrays and objects. -/
inductive Alike : Value → Value → Prop where
  | refl (v : Value) : Alike v v
  | symm {v w : Value} : Alike v w → Alike w v
  | trans {u v w : Value} : Alike u v → Alike v w → Alike u w
  | undefined : Alike .undefined .null
  | reorder {fs gs : List (Text × Value)} : fs.Perm gs → Alike (.object fs) (.object gs)
  | item {vs ws : List Value} {v w : Value} :
      Alike v w → Alike (.array (vs ++ v :: ws)) (.array (vs ++ w :: ws))
  | field {fs gs : List (Text × Value)} {k : Text} {v w : Value} :
      Alike v w → Alike (.object (fs ++ (k, v) :: gs)) (.object (fs ++ (k, w) :: gs))

variable {u v w : Value} {vs ws : List Value} {fs gs : List (Text × Value)} {k : Text}

/-! ## Alike values have one text -/

theorem distinctItems_iff : DistinctItems vs ↔ ∀ v ∈ vs, Distinct v := by
  induction vs with
  | nil => exact ⟨fun _ v hv => absurd hv List.not_mem_nil, fun _ => trivial⟩
  | cons v vs ih =>
    rw [List.forall_mem_cons, ← ih]
    exact Iff.rfl

theorem distinct_array_middle :
    Distinct (array (vs ++ v :: ws)) ↔
      Distinct v ∧ DistinctItems vs ∧ DistinctItems ws := by
  show DistinctItems _ ↔ _
  rw [distinctItems_iff, List.forall_mem_append, List.forall_mem_cons, ← distinctItems_iff,
    ← distinctItems_iff]
  tauto

theorem distinct_object_middle :
    Distinct (object (fs ++ (k, v) :: gs)) ↔
      Distinct v ∧ ((fs ++ (k, v) :: gs).map Prod.fst).Nodup ∧ DistinctFields fs ∧
        DistinctFields gs := by
  show _ ∧ DistinctFields _ ↔ _
  rw [distinctFields_iff, List.forall_mem_append, List.forall_mem_cons, ← distinctFields_iff,
    ← distinctFields_iff]
  tauto

/-- The rules keep keys distinct. -/
theorem Alike.distinct_iff (h : Alike v w) : Distinct v ↔ Distinct w := by
  induction h with
  | refl v => exact Iff.rfl
  | symm _ ih => exact ih.symm
  | trans _ _ ih ih' => exact ih.trans ih'
  | undefined => exact Iff.rfl
  | @reorder fs gs hperm =>
    show _ ∧ DistinctFields fs ↔ _ ∧ DistinctFields gs
    rw [distinctFields_iff, distinctFields_iff, (hperm.map Prod.fst).nodup_iff]
    exact and_congr_right fun _ => ⟨fun h f hf => h f (hperm.symm.subset hf),
      fun h f hf => h f (hperm.subset hf)⟩
  | item _ ih => rw [distinct_array_middle, distinct_array_middle, ih]
  | @field fs gs k v w _ ih =>
    rw [distinct_object_middle, distinct_object_middle, ih, List.map_append, List.map_append]
    exact Iff.rfl

theorem text_reorder (hperm : fs.Perm gs) (hfs : Distinct (object fs)) :
    stableStringify (object fs) = stableStringify (object gs) := by
  rw [stableStringify, stableStringify, stringifyFields_eq_map, stringifyFields_eq_map,
    sortByKey_eq_of_perm (hperm.map stringifyField)]
  rw [← stringifyFields_eq_map, keys_stringifyFields]
  exact hfs.1

theorem text_item (h : stableStringify v = stableStringify w) :
    stableStringify (array (vs ++ v :: ws)) = stableStringify (array (vs ++ w :: ws)) := by
  rw [stableStringify, stableStringify, stringifyItems_eq_map, stringifyItems_eq_map,
    List.map_append, List.map_append, List.map_cons, List.map_cons, h]

theorem text_field (h : stableStringify v = stableStringify w) :
    stableStringify (object (fs ++ (k, v) :: gs)) =
      stableStringify (object (fs ++ (k, w) :: gs)) := by
  have hfield : stringifyField (k, v) = stringifyField (k, w) := congrArg (Prod.mk k) h
  rw [stableStringify, stableStringify, stringifyFields_eq_map, stringifyFields_eq_map,
    List.map_append, List.map_append, List.map_cons, List.map_cons, hfield]

/-- No rule shows in the text. -/
theorem Alike.text_eq (h : Alike v w) (hv : Distinct v) :
    stableStringify v = stableStringify w := by
  induction h with
  | refl v => rfl
  | symm h ih => exact (ih (h.distinct_iff.mpr hv)).symm
  | trans h _ ih ih' => exact (ih hv).trans (ih' (h.distinct_iff.mp hv))
  | undefined => rfl
  | reorder hperm => exact text_reorder hperm hv
  | item _ ih => exact text_item (ih (distinct_array_middle.mp hv).1)
  | field _ ih => exact text_field (ih (distinct_object_middle.mp hv).1)

/-! ## Values with one text are alike -/

theorem bareFields_iff : BareFields fs ↔ ∀ f ∈ fs, Bare f.2 := by
  induction fs with
  | nil => exact ⟨fun _ f hf => absurd hf List.not_mem_nil, fun _ => trivial⟩
  | cons f fs ih =>
    obtain ⟨k, v⟩ := f
    rw [List.forall_mem_cons, ← ih]
    exact Iff.rfl

theorem bareFields_perm (h : fs.Perm gs) (hfs : BareFields fs) : BareFields gs :=
  bareFields_iff.mpr fun f hf => bareFields_iff.mp hfs f (h.symm.subset hf)

theorem alike_null (hnull : Nullish v) (hv : Bare v) : Alike v null := by
  cases v with
  | null => exact .refl _
  | undefined => exact .undefined
  | nonFinite => exact hv.elim
  | _ => exact hnull.elim

mutual

/-- What is the same is reached by the rules. -/
theorem alike_of_same : ∀ {v w : Value}, Same v w → Bare v → Bare w → Alike v w
  | _, _, .nullish hv hw, hbare, hbare' => (alike_null hv hbare).trans (alike_null hw hbare').symm
  | _, _, .bool _, _, _ => .refl _
  | _, _, .number _, _, _ => .refl _
  | _, _, .string _, _, _ => .refl _
  | _, _, .array h, hv, hw => alike_of_sameItems h hv hw []
  | .object _, .object _, .object hperm h hperm', hv, hw =>
    (Alike.reorder hperm).trans <|
      (alike_of_sameFields h (bareFields_perm hperm hv) (bareFields_perm hperm'.symm hw) []).trans
        (.reorder hperm')
  | _, _, .toJSONLeft _, hv, _ => hv.elim
  | _, _, .toJSONRight _, _, hw => hw.elim

/-- The items are replaced one after the other, behind those that are done. -/
theorem alike_of_sameItems : ∀ {vs ws : List Value}, SameItems vs ws → BareItems vs →
    BareItems ws → ∀ done, Alike (array (done ++ vs)) (array (done ++ ws))
  | _, _, .nil, _, _, _ => .refl _
  | v :: vs, w :: ws, .cons h hrest, hv, hw, done => by
    have hnext := alike_of_sameItems hrest hv.2 hw.2 (done ++ [w])
    rw [List.append_assoc, List.append_assoc] at hnext
    exact (Alike.item (alike_of_same h hv.1 hw.1)).trans hnext

theorem alike_of_sameFields : ∀ {fs gs : List (Text × Value)}, SameFields fs gs → BareFields fs →
    BareFields gs → ∀ done, Alike (object (done ++ fs)) (object (done ++ gs))
  | _, _, .nil, _, _, _ => .refl _
  | (k, v) :: fs, (_, w) :: gs, .cons h hrest, hv, hw, done => by
    have hnext := alike_of_sameFields hrest hv.2 hw.2 (done ++ [(k, w)])
    rw [List.append_assoc, List.append_assoc] at hnext
    exact (Alike.field (alike_of_same h hv.1 hw.1)).trans hnext

end

/-- **The text of a value is its canonical form**: two values have one text exactly where they are
equal up to the order of keys and up to `undefined` being read as `null`. -/
theorem stableStringify_canonical (a b : JsonData) :
    stableStringify a.val = stableStringify b.val ↔ Alike a.val b.val := by
  constructor
  · intro h
    exact alike_of_same (stableStringify_inj h) a.bare b.bare
  · intro h
    exact h.text_eq a.distinct

end EvidenceVault
