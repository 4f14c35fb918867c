import Vigiscam.Concurrency.Table
import Vigiscam.Js.Text

/-!
# The cache of one node (`cache.service.ts`)

A `Map` from keys to values with a time of expiry. A `Map` has each key once and keeps
the keys in the order they were first set in, so the first one is the oldest.

`Holds P` says that every value in the cache is one that its key may have. Each operation
keeps it, so what `get` returns has it (`Holds.of_get`).
-/

open Js

namespace Common

variable {α : Type}

structure CacheItem (α : Type) where
  key : Text
  value : α
  expiresAt : Int

structure Cache (α : Type) where
  items : List (CacheItem α)
  nodup : (items.map CacheItem.key).Nodup

namespace Cache

def maxEntries : Nat := 1000

def empty : Cache α := ⟨[], List.nodup_nil⟩

/-! ## The operations of the `Map` -/

/-- `store.delete` of the keys that are not kept. -/
def keep (p : CacheItem α → Bool) (cache : Cache α) : Cache α where
  items := cache.items.filter p
  nodup := cache.nodup.sublist (List.filter_sublist.map CacheItem.key)

/-- A key that is there keeps its place. -/
def put (item : CacheItem α) : List (CacheItem α) → List (CacheItem α)
  | [] => [item]
  | x :: rest => if x.key = item.key then item :: rest else x :: put item rest

theorem mem_put {item x : CacheItem α} {items : List (CacheItem α)} (h : x ∈ put item items) :
    x = item ∨ x ∈ items := by
  induction items with
  | nil => exact Or.inl (List.mem_singleton.mp h)
  | cons y rest ih =>
    rw [put] at h
    split at h
    · exact (List.mem_cons.mp h).imp id (List.mem_cons_of_mem y)
    · rcases List.mem_cons.mp h with rfl | h
      · exact Or.inr List.mem_cons_self
      · exact (ih h).imp id (List.mem_cons_of_mem y)

theorem nodup_put {item : CacheItem α} {items : List (CacheItem α)}
    (h : (items.map CacheItem.key).Nodup) : ((put item items).map CacheItem.key).Nodup := by
  induction items with
  | nil => exact List.nodup_singleton _
  | cons y rest ih =>
    obtain ⟨hnot, hrest⟩ := List.nodup_cons.mp h
    rw [put]
    split
    · next hkey => exact List.nodup_cons.mpr ⟨hkey ▸ hnot, hrest⟩
    · next hkey =>
      refine List.nodup_cons.mpr ⟨fun hmem => ?_, ih hrest⟩
      obtain ⟨x, hx, hsame⟩ := List.mem_map.mp hmem
      -- the key of `y` is neither the new one nor one of the others
      rcases mem_put hx with rfl | hx
      · exact hkey hsame.symm
      · exact hnot (List.mem_map.mpr ⟨x, hx, hsame⟩)

/-! ## `CacheService` -/

/-- `get`: a value that has expired is deleted. -/
def get (key : Text) (now : Int) (cache : Cache α) : Option α × Cache α :=
  match Table.find CacheItem.key key cache.items with
  | none => (none, cache)
  | some item =>
    if item.expiresAt < now then (none, cache.keep fun x => x.key ≠ key)
    else (some item.value, cache)

/-- The oldest key makes room where the cache is full. -/
def evict (cache : Cache α) : Cache α where
  items := if maxEntries ≤ cache.items.length then cache.items.tail else cache.items
  nodup := by
    split
    · exact cache.nodup.sublist ((List.tail_sublist _).map CacheItem.key)
    · exact cache.nodup

def set (key : Text) (value : α) (ttlMs now : Int) (cache : Cache α) : Cache α where
  items := put ⟨key, value, now + ttlMs⟩ cache.evict.items
  nodup := nodup_put cache.evict.nodup

/-- `deletePrefix`, with the number of keys that it deletes. -/
def deletePrefix (start : Text) (cache : Cache α) : Nat × Cache α :=
  ((cache.items.filter fun x => start.isPrefixOf x.key).length,
    cache.keep fun x => !start.isPrefixOf x.key)

def delete (key : Text) (cache : Cache α) : Cache α := cache.keep fun x => x.key ≠ key

def clear (_ : Cache α) : Cache α := empty

/-- The keys of a cache. -/
def keys (cache : Cache α) : List Text := cache.items.map CacheItem.key

/-! ## What a cache holds -/

/-- Every value is one that its key may have. -/
def Holds (P : Text → α → Prop) (cache : Cache α) : Prop :=
  ∀ item ∈ cache.items, P item.key item.value

section Holds

variable {P Q : Text → α → Prop} {cache : Cache α} {key : Text} {value : α} {now : Int}

theorem holds_empty : Holds P (empty : Cache α) := fun _ h => nomatch h

theorem Holds.mono (h : Holds P cache) (hPQ : ∀ k v, P k v → Q k v) : Holds Q cache :=
  fun item hitem => hPQ _ _ (h item hitem)

theorem Holds.keep (h : Holds P cache) (p : CacheItem α → Bool) : Holds P (cache.keep p) :=
  fun item hitem => h item (List.mem_filter.mp hitem).1

/-- What `get` returns is what the key may have. -/
theorem Holds.of_get (h : Holds P cache) (hget : (cache.get key now).1 = some value) :
    P key value := by
  rw [Cache.get] at hget
  split at hget
  · cases hget
  · next item hfind =>
    split at hget
    · cases hget
    · rw [← Table.key_of_find hfind, ← Option.some.inj hget]
      exact h item (Table.mem_of_find hfind)

theorem Holds.get (h : Holds P cache) : Holds P (cache.get key now).2 := by
  rw [Cache.get]
  split
  · exact h
  · split
    · exact h.keep _
    · exact h

theorem Holds.set {ttlMs : Int} (h : Holds P cache) (hvalue : P key value) :
    Holds P (cache.set key value ttlMs now) := by
  intro item hitem
  rcases mem_put hitem with rfl | hitem
  · exact hvalue
  · refine h item ?_
    rw [evict] at hitem
    split at hitem
    · exact List.mem_of_mem_tail hitem
    · exact hitem

/-- After `deletePrefix` no key with the prefix is left. -/
theorem holds_deletePrefix {start : Text} (h : Holds P cache) :
    Holds (fun k v => P k v ∧ start.isPrefixOf k = false) (cache.deletePrefix start).2 := by
  intro item hitem
  obtain ⟨hmem, hkey⟩ := List.mem_filter.mp hitem
  exact ⟨h item hmem, by simpa using hkey⟩

end Holds

end Cache

end Common
