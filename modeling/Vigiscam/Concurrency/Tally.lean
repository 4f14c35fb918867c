import Mathlib.Data.List.Induction
import Mathlib.Order.Bounds.Basic
import Vigiscam.Concurrency.Table

/-!
# Tallies

Items come in one by one, each with a key and a score. A tally has one row for each key that
occurs, with how often it occurs and the greatest of its scores. What the row of a key is does not
depend on the order of the items (`mem_tally`, `tally_perm`).
-/

namespace Tally

structure Item (κ : Type) where
  key : κ
  score : ℤ

structure Row (κ : Type) where
  key : κ
  count : ℕ
  top : ℤ

variable {κ : Type}

/-- One more item of the key. -/
def Row.add (score : ℤ) (row : Row κ) : Row κ :=
  { row with count := row.count + 1, top := max row.top score }

/-- The scores of a key. -/
def scores (items : List (Item κ)) (k : κ) : Set ℤ :=
  {x | ∃ item ∈ items, item.key = k ∧ item.score = x}

theorem scores_concat (items : List (Item κ)) (item : Item κ) (k : κ) :
    scores (items ++ [item]) k =
      scores items k ∪ {x | item.key = k ∧ item.score = x} := by
  ext x
  constructor
  · rintro ⟨i, hi, hkey, hscore⟩
    rcases List.mem_append.mp hi with hold | hnew
    · exact Or.inl ⟨i, hold, hkey, hscore⟩
    · obtain rfl := List.mem_singleton.mp hnew
      exact Or.inr ⟨hkey, hscore⟩
  · rintro (⟨i, hi, hkey, hscore⟩ | ⟨hkey, hscore⟩)
    · exact ⟨i, List.mem_append_left _ hi, hkey, hscore⟩
    · exact ⟨item, List.mem_append_right _ (List.mem_singleton_self item), hkey, hscore⟩

variable [DecidableEq κ]

/-- The item is counted on the row of its key, or gets a row. -/
def add (rows : List (Row κ)) (item : Item κ) : List (Row κ) :=
  match Table.find Row.key item.key rows with
  | some _ => Table.modify Row.key item.key (Row.add item.score) rows
  | none => rows ++ [⟨item.key, 1, item.score⟩]

def tally (items : List (Item κ)) : List (Row κ) := items.foldl add []

@[simp] theorem tally_concat (items : List (Item κ)) (item : Item κ) :
    tally (items ++ [item]) = add (tally items) item := by
  simp [tally, List.foldl_append]

/-- The row says what the items do of its key. -/
structure Row.Of (items : List (Item κ)) (row : Row κ) : Prop where
  count : row.count = items.countP (·.key = row.key)
  top : IsGreatest (scores items row.key) row.top

/-- Each key that occurs has its row. -/
structure Tallied (items : List (Item κ)) (rows : List (Row κ)) : Prop where
  nodup : (rows.map Row.key).Nodup
  occurs : ∀ item ∈ items, item.key ∈ rows.map Row.key
  rows : ∀ row ∈ rows, row.Of items

section Rows

variable {items items' : List (Item κ)} {item : Item κ} {row : Row κ} {rows : List (Row κ)}

theorem add_of_mem (item : Item κ) (h : item.key ∈ rows.map Row.key) :
    add rows item = Table.modify Row.key item.key (Row.add item.score) rows := by
  cases hfind : Table.find Row.key item.key rows with
  | none => exact absurd h (Table.find_eq_none_iff.mp hfind)
  | some row => rw [add, hfind]

theorem add_of_not_mem (item : Item κ) (h : item.key ∉ rows.map Row.key) :
    add rows item = rows ++ [⟨item.key, 1, item.score⟩] := by
  rw [add, Table.find_eq_none_iff.mpr h]

/-- An item of another key. -/
theorem Row.Of.concat_of_ne (h : row.Of items) (hne : item.key ≠ row.key) :
    row.Of (items ++ [item]) := by
  refine ⟨?_, ?_⟩
  · rw [List.countP_append, List.countP_singleton, decide_eq_false hne, h.count]
    rfl
  · have hnone : {x | item.key = row.key ∧ item.score = x} = (∅ : Set ℤ) :=
      Set.eq_empty_of_forall_notMem fun x hx => hne hx.1
    rw [scores_concat, hnone, Set.union_empty]
    exact h.top

/-- An item of the key. -/
theorem Row.Of.concat (h : row.Of items) (hkey : item.key = row.key) :
    (row.add item.score).Of (items ++ [item]) := by
  refine ⟨?_, ?_⟩
  · show row.count + 1 = (items ++ [item]).countP (·.key = row.key)
    rw [List.countP_append, List.countP_singleton, decide_eq_true hkey, h.count]
    rfl
  · show IsGreatest (scores (items ++ [item]) row.key) (max row.top item.score)
    have hone : {x | item.key = row.key ∧ item.score = x} = {item.score} := by
      ext x
      simp [hkey, eq_comm]
    rw [scores_concat, hone]
    exact h.top.union isGreatest_singleton

/-- The first item of a key. -/
theorem Row.of_first (hnew : ∀ i ∈ items, i.key ≠ item.key) :
    (⟨item.key, 1, item.score⟩ : Row κ).Of (items ++ [item]) := by
  refine ⟨?_, ?_⟩
  · have hzero : items.countP (·.key = item.key) = 0 :=
      List.countP_eq_zero.mpr fun i hi => by simpa using hnew i hi
    rw [List.countP_append, List.countP_singleton, hzero, decide_eq_true rfl]
    rfl
  · have hnone : scores items item.key = ∅ :=
      Set.eq_empty_of_forall_notMem fun x ⟨i, hi, hkey, _⟩ => hnew i hi hkey
    have hone : {x | item.key = item.key ∧ item.score = x} = {item.score} := by
      ext x
      simp [eq_comm]
    show IsGreatest (scores (items ++ [item]) item.key) item.score
    rw [scores_concat, hnone, hone, Set.empty_union]
    exact isGreatest_singleton

theorem Tallied.add (h : Tallied items rows) (item : Item κ) :
    Tallied (items ++ [item]) (add rows item) := by
  by_cases hmem : item.key ∈ rows.map Row.key
  · have hkeys : (Table.modify Row.key item.key (Row.add item.score) rows).map Row.key =
        rows.map Row.key := Table.map_modify fun _ => rfl
    rw [add_of_mem item hmem]
    refine ⟨hkeys ▸ h.nodup, fun i hi => ?_, fun r hr => ?_⟩
    · rw [hkeys]
      rcases List.mem_append.mp hi with hold | hnew
      · exact h.occurs i hold
      · rwa [List.mem_singleton.mp hnew]
    · obtain ⟨old, hold, rfl⟩ := Table.mem_modify.mp hr
      by_cases hkey : old.key = item.key
      · rw [if_pos hkey]
        exact (h.rows old hold).concat hkey.symm
      · rw [if_neg hkey]
        exact (h.rows old hold).concat_of_ne (Ne.symm hkey)
  · rw [add_of_not_mem item hmem]
    refine ⟨Table.nodup_append_new h.nodup hmem, fun i hi => ?_, fun r hr => ?_⟩
    · rw [List.map_append, List.mem_append]
      rcases List.mem_append.mp hi with hold | hlast
      · exact Or.inl (h.occurs i hold)
      · exact Or.inr (by simp [List.mem_singleton.mp hlast])
    · rcases List.mem_append.mp hr with hold | hlast
      · refine (h.rows r hold).concat_of_ne fun hkey => hmem ?_
        exact hkey ▸ List.mem_map_of_mem hold
      · rw [List.mem_singleton.mp hlast]
        exact Row.of_first fun i hi hkey => hmem (hkey ▸ h.occurs i hi)

theorem tallied_tally (items : List (Item κ)) : Tallied items (tally items) := by
  induction items using List.reverseRecOn with
  | nil => exact ⟨List.nodup_nil, fun _ h => absurd h List.not_mem_nil,
      fun _ h => absurd h List.not_mem_nil⟩
  | append_singleton items item ih =>
    rw [tally_concat]
    exact ih.add item

/-- **What a tally is**: the rows that say what the items do. -/
theorem mem_tally : row ∈ tally items ↔ row.Of items := by
  have htallied := tallied_tally items
  refine ⟨htallied.rows row, fun h => ?_⟩
  obtain ⟨⟨item, hitem, hkey, -⟩, -⟩ := h.top
  obtain ⟨found, hfound, hsame⟩ := List.mem_map.mp (hkey ▸ htallied.occurs item hitem)
  have hof := htallied.rows found hfound
  -- the row of the key says the same
  have hcount : found.count = row.count := by rw [hof.count, h.count, hsame]
  have htop : found.top = row.top := by
    have hgreatest := hof.top
    rw [hsame] at hgreatest
    exact hgreatest.unique h.top
  have heq : found = row := by
    cases found
    cases row
    simp_all
  exact heq ▸ hfound

theorem Row.of_perm (h : items.Perm items') : row.Of items ↔ row.Of items' := by
  have hscores : scores items row.key = scores items' row.key := by
    ext x
    exact exists_congr fun item => and_congr_left fun _ => h.mem_iff
  constructor
  · exact fun hof => ⟨hof.count.trans (h.countP_eq _), hscores ▸ hof.top⟩
  · exact fun hof => ⟨hof.count.trans (h.countP_eq _).symm, hscores ▸ hof.top⟩

theorem nodup_tally (items : List (Item κ)) : ((tally items).map Row.key).Nodup :=
  (tallied_tally items).nodup

/-- **The order of the items does not matter.** -/
theorem tally_perm (h : items.Perm items') : (tally items).Perm (tally items') := by
  have hnodup : ∀ items : List (Item κ), (tally items).Nodup := fun items =>
    List.Nodup.of_map Row.key (nodup_tally items)
  refine (List.perm_ext_iff_of_nodup (hnodup items) (hnodup items')).mpr fun row => ?_
  rw [mem_tally, mem_tally, Row.of_perm h]

end Rows

end Tally
