import Vigiscam.Http
import Vigiscam.Js.Value

/-!
# Fields of a request, and columns

A field that is optional for the validator may be left out, and may be null. An update leaves the
column of a field alone that is left out; a null is written to a column that may be null, and is
refused for one that may not. An id may be spelled in any letter case.
-/

namespace Common

open Js

/-- A column of ids reads an id in any letter case, and keeps it in lower case. -/
def uuidColumn (id : Text) : Uuid := lowerAscii id

/-- What is given for a field that may be left out, or be null. -/
inductive Given (α : Type) where
  | undefined | null | value (a : α)
deriving DecidableEq

namespace Given

variable {α : Type}

/-- What is written to a column that has no null: the database client refuses one. -/
def required : Given α → α → Option α
  | undefined, old => some old
  | null, _ => none
  | value a, _ => some a

/-- What is written to a column that may be null. -/
def nullable : Given α → Option α → Option α
  | undefined, old => old
  | null, _ => none
  | value a, _ => some a

def map {β : Type} (f : α → β) : Given α → Given β
  | undefined => undefined
  | null => null
  | value a => value (f a)

def json (f : α → Value) : Given α → Value
  | undefined => Value.undefined
  | null => Value.null
  | value a => f a

theorem required_ne_none_iff {given : Given α} {old : α} :
    given.required old ≠ none ↔ given ≠ .null := by
  cases given <;> simp [required]

theorem distinct_json {f : α → Value} (hf : ∀ a, (f a).Distinct) :
    ∀ given : Given α, (given.json f).Distinct
  | undefined => trivial
  | null => trivial
  | value a => hf a

end Given

/-- Numbers as ids, which are all different. -/
def numbered (n : Nat) : Uuid := (Number.ofInt n).toText

theorem numbered_injective : Function.Injective numbered :=
  fun _ _ h => Int.ofNat.inj (Number.ofInt_inj (Number.toText_inj h))

end Common
