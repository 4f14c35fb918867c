import Vigiscam.Js.Value

/-!
# Reading a value of unknown shape

What the operators of the language give on a value that came from `JSON.parse` and
whose shape nobody has checked. The keys that are read here are no property of a
string, an array, a number or a boolean.
-/

namespace Js.Value

/-- The own field `k` of an object. -/
def fieldOf (fields : List (Text × Value)) (k : Text) : Value :=
  ((fields.find? (·.1 = k)).map (·.2)).getD undefined

/-- `v.k`. On `null` and `undefined` it throws: `none`. -/
def get (v : Value) (k : Text) : Option Value :=
  match v with
  | null | undefined => none
  | object fields | toJSON fields _ => some (fieldOf fields k)
  | nonFinite | bool _ | number _ | string _ | array _ => some undefined

/-- `v?.k`. -/
def getOpt (v : Value) (k : Text) : Value := (v.get k).getD undefined

/-- `v?.[0]`. -/
def first : Value → Value
  | array (v :: _) => v
  | string (c :: _) => string [c]
  | object fields | toJSON fields _ => fieldOf fields "0"
  | _ => undefined

/-- `v ?? w`. -/
def coalesce (v w : Value) : Value :=
  match v with
  | null | undefined => w
  | _ => v

/-- Whether `v` is truthy. The non-finite numbers that JSON gives are infinite. -/
def truthy : Value → Bool
  | null | undefined => false
  | bool b => b
  | number x => x.mantissa ≠ 0
  | string s => s ≠ []
  | nonFinite | array _ | object _ | toJSON _ _ => true

/-- `v === s` for a string `s`. -/
def isText (v : Value) (s : Text) : Bool :=
  match v with
  | string t => t = s
  | _ => false

/-- `typeof v === 'string'`, with the string. -/
def asText : Value → Option Text
  | string s => some s
  | _ => none

/-! Whether `${v}` gives a text. An object whose own field hides `toString` has none. -/

mutual

def printable : Value → Bool
  | null | undefined | nonFinite | bool _ | number _ | string _ => true
  | array items => printableItems items
  | object fields | toJSON fields _ => fields.all fun f => f.1 ≠ utf16 "toString"

def printableItems : List Value → Bool
  | [] => true
  | v :: vs => printable v && printableItems vs

end

theorem isText_eq_true {v : Value} {s : Text} : v.isText s = true ↔ v = string s := by
  cases v <;> simp [isText]

@[simp] theorem coalesce_self (v : Value) : coalesce v v = v := by
  cases v <;> rfl

/-- A key of an object has one value. -/
theorem fieldOf_of_mem {fs : List (Text × Value)} (hnd : (fs.map Prod.fst).Nodup) {k : Text}
    {v : Value} (h : (k, v) ∈ fs) : fieldOf fs k = v := by
  unfold fieldOf
  cases hfind : fs.find? (·.1 = k) with
  | none =>
    have hnone := List.find?_eq_none.mp hfind _ h
    exact absurd (decide_eq_true rfl) hnone
  | some f =>
    have hkey : f.1 = k := by simpa using List.find?_some hfind
    have hmem : (k, f.2) ∈ fs := by
      rw [← hkey]
      exact List.mem_of_find?_eq_some hfind
    exact eq_of_nodup_keys hnd hmem h

/-- Where `v.k` is read without an exception, `v?.k` is the same. -/
theorem getOpt_of_get {v w : Value} {k : Text} (h : v.get k = some w) : v.getOpt k = w := by
  rw [getOpt, h]
  rfl

end Js.Value
