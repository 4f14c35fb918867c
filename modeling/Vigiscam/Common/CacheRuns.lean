import Vigiscam.Common.Cache
import Vigiscam.Concurrency.Calls
import Vigiscam.Concurrency.Latest
import Vigiscam.Js.Slots

/-!
# Runs of the cache

The purpose of the cache is a store that forgets: for each key it holds what was set last, unless
something has dropped it since (`effect` says what a call does to a key, and `latest` what is held
of it after a run). The cache may forget more, for it makes room and it expires, but what it holds
is what that store holds (`Refines`). `cache_serves_latest` puts it in terms of the run.
-/

namespace Common

open Js Concurrency

variable {α : Type}

/-! ## Messages from other nodes -/

inductive InvalidationMessage where
  | delete (key : Text)
  | deletePrefix (start : Text)

/-- What `CacheService` does with a message of the bus. -/
def Cache.onMessage : InvalidationMessage → Cache α → Cache α
  | .delete key, cache => cache.delete key
  | .deletePrefix start, cache => (cache.deletePrefix start).2

/-! ## Calls -/

inductive CacheCall (α : Type) where
  | get (key : Text)
  | set (key : Text) (value : α) (ttlMs : Int)
  | delete (key : Text)
  | deletePrefix (start : Text)
  | clear
  | message (msg : InvalidationMessage)

/-- A call, at the time that it reads from the clock. -/
structure CacheEvent (α : Type) where
  call : CacheCall α
  now : Int

def CacheEvent.exec (e : CacheEvent α) (cache : Cache α) : Cache α :=
  match e.call with
  | .get key => (cache.get key e.now).2
  | .set key value ttlMs => cache.set key value ttlMs e.now
  | .delete key => cache.delete key
  | .deletePrefix start => (cache.deletePrefix start).2
  | .clear => cache.clear
  | .message msg => cache.onMessage msg

/-! ## The store that the cache stands for -/

/-- The message is about the key. -/
def InvalidationMessage.Matches (key : Text) : InvalidationMessage → Prop
  | .delete key' => key' = key
  | .deletePrefix start => start <+: key

instance (key : Text) : (msg : InvalidationMessage) → Decidable (msg.Matches key)
  | .delete key' => inferInstanceAs (Decidable (key' = key))
  | .deletePrefix start => inferInstanceAs (Decidable (start <+: key))

/-- The call drops the key. -/
def CacheCall.Drops (key : Text) : CacheCall α → Prop
  | .get _ | .set _ _ _ => False
  | .delete key' => key' = key
  | .deletePrefix start => start <+: key
  | .clear => True
  | .message msg => msg.Matches key

instance (key : Text) : (call : CacheCall α) → Decidable (call.Drops key)
  | .get _ | .set _ _ _ => inferInstanceAs (Decidable False)
  | .delete key' => inferInstanceAs (Decidable (key' = key))
  | .deletePrefix start => inferInstanceAs (Decidable (start <+: key))
  | .clear => inferInstanceAs (Decidable True)
  | .message msg => inferInstanceAs (Decidable (msg.Matches key))

/-- What a call does to what is held of a key: a value with its time of expiry is written, or it
is dropped, or left alone. -/
def CacheEvent.effect (key : Text) (e : CacheEvent α) : Option (Option (α × Int)) :=
  match e.call with
  | .set key' value ttlMs => if key' = key then some (some (value, e.now + ttlMs)) else none
  | call => if call.Drops key then some none else none

/-- Every entry of the cache is what is held of its key after the calls. -/
def Refines (cache : Cache α) (events : List (CacheEvent α)) : Prop :=
  ∀ item ∈ cache.items,
    latest (CacheEvent.effect item.key) events = some (item.value, item.expiresAt)

variable {cache : Cache α} {events : List (CacheEvent α)} {e : CacheEvent α}

theorem refines_empty : Refines (Cache.empty : Cache α) [] := by
  intro item hitem
  exact absurd hitem List.not_mem_nil

/-- Entries that stay, and that the call does not touch. -/
theorem Refines.of_untouched (h : Refines cache events) {cache' : Cache α}
    (hstays : ∀ item ∈ cache'.items, item ∈ cache.items ∧ e.effect item.key = none) :
    Refines cache' (events ++ [e]) := by
  intro item hitem
  obtain ⟨hmem, hnone⟩ := hstays item hitem
  rw [latest_concat_of_none hnone]
  exact h item hmem

/-! ## One call -/

/-- `get` deletes the key where it has expired, and nothing else. -/
theorem get_snd (key : Text) (now : Int) (cache : Cache α) :
    (cache.get key now).2 = cache ∨ (cache.get key now).2 = cache.delete key := by
  rw [Cache.get]
  split
  · exact Or.inl rfl
  · split
    · exact Or.inr rfl
    · exact Or.inl rfl

theorem mem_of_mem_get {key : Text} {now : Int} {item : CacheItem α}
    (h : item ∈ (cache.get key now).2.items) : item ∈ cache.items := by
  rcases get_snd key now cache with hsame | hdeleted
  · rwa [hsame] at h
  · rw [hdeleted] at h
    exact (List.mem_filter.mp h).1

theorem mem_of_mem_evict {item : CacheItem α} (h : item ∈ cache.evict.items) :
    item ∈ cache.items := by
  rw [Cache.evict] at h
  split at h
  · exact List.mem_of_mem_tail h
  · exact h

theorem mem_put_self (item : CacheItem α) (items : List (CacheItem α)) :
    item ∈ Cache.put item items := by
  induction items with
  | nil => exact List.mem_singleton_self item
  | cons x items ih =>
    rw [Cache.put]
    split
    · exact List.mem_cons_self ..
    · exact List.mem_cons_of_mem x ih

/-- An entry after `set` is the new one, or one of another key. -/
theorem mem_set {key : Text} {value : α} {ttlMs now : Int} {item : CacheItem α}
    (h : item ∈ (cache.set key value ttlMs now).items) :
    item = ⟨key, value, now + ttlMs⟩ ∨ item ∈ cache.items ∧ item.key ≠ key := by
  by_cases hkey : item.key = key
  · left
    exact List.inj_on_of_nodup_map (cache.set key value ttlMs now).nodup h (mem_put_self ..) hkey
  · rcases Cache.mem_put h with rfl | hmem
    · exact absurd rfl hkey
    · exact Or.inr ⟨mem_of_mem_evict hmem, hkey⟩

theorem mem_delete {key : Text} {item : CacheItem α} :
    item ∈ (cache.delete key).items ↔ item ∈ cache.items ∧ item.key ≠ key := by
  simp [Cache.delete, Cache.keep]

theorem mem_deletePrefix {start : Text} {item : CacheItem α} :
    item ∈ (cache.deletePrefix start).2.items ↔ item ∈ cache.items ∧ ¬ start <+: item.key := by
  simp [Cache.deletePrefix, Cache.keep, ← List.isPrefixOf_iff_prefix]

theorem mem_onMessage {msg : InvalidationMessage} {item : CacheItem α} :
    item ∈ (cache.onMessage msg).items ↔ item ∈ cache.items ∧ ¬ msg.Matches item.key := by
  cases msg with
  | delete key => exact mem_delete.trans (and_congr_right fun _ => not_congr eq_comm)
  | deletePrefix start => exact mem_deletePrefix

/-- What a call other than `set` leaves in the cache, it leaves alone. -/
theorem effect_eq_none {key : Text} (hset : ∀ value ttlMs, e.call ≠ .set key value ttlMs)
    (hdrops : ¬ e.call.Drops key) : e.effect key = none := by
  unfold CacheEvent.effect
  cases hcall : e.call with
  | set key' value ttlMs =>
    refine if_neg fun hkey => ?_
    subst hkey
    exact hset value ttlMs hcall
  | get key' => exact if_neg (hcall ▸ hdrops)
  | delete key' => exact if_neg (hcall ▸ hdrops)
  | deletePrefix start => exact if_neg (hcall ▸ hdrops)
  | clear => exact if_neg (hcall ▸ hdrops)
  | message msg => exact if_neg (hcall ▸ hdrops)

/-- **One call** keeps the cache within the store that it stands for. -/
theorem Refines.exec (h : Refines cache events) : Refines (e.exec cache) (events ++ [e]) := by
  cases hcall : e.call with
  | set key value ttlMs =>
    intro item hitem
    rw [CacheEvent.exec, hcall] at hitem
    have heffect : ∀ key', e.effect key' =
        if key = key' then some (some (value, e.now + ttlMs)) else none := by
      intro key'
      simp [CacheEvent.effect, hcall]
    rcases mem_set hitem with rfl | ⟨hmem, hkey⟩
    · exact latest_concat_of_some ((heffect key).trans (if_pos rfl))
    · rw [latest_concat_of_none ((heffect item.key).trans (if_neg (Ne.symm hkey)))]
      exact h item hmem
  | get key =>
    refine h.of_untouched fun item hitem => ?_
    rw [CacheEvent.exec, hcall] at hitem
    exact ⟨mem_of_mem_get hitem, effect_eq_none (by simp [hcall])
      (by simp [hcall, CacheCall.Drops])⟩
  | delete key =>
    refine h.of_untouched fun item hitem => ?_
    rw [CacheEvent.exec, hcall] at hitem
    obtain ⟨hmem, hkey⟩ := mem_delete.mp hitem
    exact ⟨hmem, effect_eq_none (by simp [hcall]) (by rw [hcall]; exact Ne.symm hkey)⟩
  | deletePrefix start =>
    refine h.of_untouched fun item hitem => ?_
    rw [CacheEvent.exec, hcall] at hitem
    obtain ⟨hmem, hkey⟩ := mem_deletePrefix.mp hitem
    exact ⟨hmem, effect_eq_none (by simp [hcall]) (by rw [hcall]; exact hkey)⟩
  | clear =>
    refine h.of_untouched fun item hitem => ?_
    rw [CacheEvent.exec, hcall] at hitem
    exact absurd hitem List.not_mem_nil
  | message msg =>
    refine h.of_untouched fun item hitem => ?_
    rw [CacheEvent.exec, hcall] at hitem
    obtain ⟨hmem, hkey⟩ := mem_onMessage.mp hitem
    exact ⟨hmem, effect_eq_none (by simp [hcall]) (by rw [hcall]; exact hkey)⟩

/-! ## The size -/

theorem length_put_le (item : CacheItem α) (items : List (CacheItem α)) :
    (Cache.put item items).length ≤ items.length + 1 := by
  induction items with
  | nil => simp [Cache.put]
  | cons x items ih =>
    rw [Cache.put]
    split
    · simp
    · simpa using ih

/-- Room is made before an entry is added. -/
theorem length_set_le (h : cache.items.length ≤ Cache.maxEntries) (key : Text) (value : α)
    (ttlMs now : Int) : (cache.set key value ttlMs now).items.length ≤ Cache.maxEntries := by
  refine (length_put_le _ _).trans ?_
  rw [Cache.evict]
  split
  · rw [List.length_tail]
    simp only [Cache.maxEntries] at h ⊢
    omega
  · next hroom => exact Nat.lt_of_not_le hroom

theorem length_exec_le (h : cache.items.length ≤ Cache.maxEntries) :
    (e.exec cache).items.length ≤ Cache.maxEntries := by
  have hkeep : ∀ p, (cache.keep p).items.length ≤ Cache.maxEntries := fun p =>
    (List.length_filter_le _ _).trans h
  unfold CacheEvent.exec
  cases e.call with
  | set key value ttlMs => exact length_set_le h key value ttlMs e.now
  | get key =>
    rcases get_snd key e.now cache with hsame | hdeleted
    · show (cache.get key e.now).2.items.length ≤ _
      rwa [hsame]
    · show (cache.get key e.now).2.items.length ≤ _
      rw [hdeleted]
      exact hkeep _
  | delete key => exact hkeep _
  | deletePrefix start => exact hkeep _
  | clear => exact Nat.zero_le _
  | message msg =>
    cases msg with
    | delete key => exact hkeep _
    | deletePrefix start => exact hkeep _

/-! ## Deleting by prefix -/

/-- The loop of `applyDeletePrefix`, over the slots of the `Map`. -/
def applyDeletePrefix (start : Text) (slots : List (Option (CacheItem α))) :
    List (Option (CacheItem α)) × Nat :=
  sweep CacheItem.key (fun item => start.isPrefixOf item.key) slots

/-- The loop deletes and counts what `deletePrefix` does. -/
theorem applyDeletePrefix_eq (start : Text) {slots : List (Option (CacheItem α))}
    (h : entries slots = cache.items) :
    entries (applyDeletePrefix start slots).1 = (cache.deletePrefix start).2.items ∧
      (applyDeletePrefix start slots).2 = (cache.deletePrefix start).1 := by
  have hnd : ((entries slots).map CacheItem.key).Nodup := h ▸ cache.nodup
  obtain ⟨hleft, hcount⟩ := entries_sweep (p := fun item => start.isPrefixOf item.key) hnd
  rw [applyDeletePrefix, hleft, hcount, h]
  exact ⟨rfl, List.countP_eq_length_filter⟩

/-! ## Runs -/

theorem refines_after (events : List (CacheEvent α)) :
    Refines (after CacheEvent.exec Cache.empty events) events := by
  induction events using List.reverseRecOn with
  | nil => exact refines_empty
  | append_singleton events e ih =>
    rw [after_concat]
    exact ih.exec

theorem length_after_le (events : List (CacheEvent α)) :
    (after CacheEvent.exec (Cache.empty : Cache α) events).items.length ≤ Cache.maxEntries := by
  induction events using List.reverseRecOn with
  | nil => exact Nat.zero_le _
  | append_singleton events e ih =>
    rw [after_concat]
    exact length_exec_le ih

theorem find_of_get {key : Text} {now : Int} {value : α}
    (h : (cache.get key now).1 = some value) :
    ∃ item ∈ cache.items, item.key = key ∧ item.value = value ∧ now ≤ item.expiresAt := by
  rw [Cache.get] at h
  split at h
  · cases h
  · next item hfind =>
    split at h
    · cases h
    · next hlive =>
      exact ⟨item, Table.mem_of_find hfind, Table.key_of_find hfind, Option.some.inj h,
        Int.not_lt.mp hlive⟩

/-- Only a `set` of the key writes it. -/
theorem set_of_effect {key : Text} {value : α} {expiresAt : Int}
    (h : e.effect key = some (some (value, expiresAt))) :
    ∃ ttlMs, e.call = .set key value ttlMs ∧ expiresAt = e.now + ttlMs := by
  unfold CacheEvent.effect at h
  cases hcall : e.call with
  | set key' value' ttlMs =>
    simp only [hcall] at h
    split at h
    · next hkey =>
      obtain ⟨rfl, rfl⟩ := Prod.mk.inj (Option.some.inj (Option.some.inj h))
      exact ⟨ttlMs, by rw [hkey], rfl⟩
    · cases h
  | get key' => simp [hcall, CacheCall.Drops] at h
  | delete key' => simp [hcall] at h
  | deletePrefix start => simp [hcall] at h
  | clear => simp [hcall] at h
  | message msg => simp [hcall] at h

/-- What leaves a key alone neither sets nor drops it. -/
theorem untouched_of_effect {key : Text} (h : e.effect key = none) :
    (∀ value ttlMs, e.call ≠ .set key value ttlMs) ∧ ¬ e.call.Drops key := by
  constructor
  · intro value ttlMs hcall
    simp [CacheEvent.effect, hcall] at h
  · intro hdrops
    unfold CacheEvent.effect at h
    split at h
    · next hcall =>
      rw [hcall] at hdrops
      exact hdrops
    · rw [if_pos hdrops] at h
      cases h

/-- What `get` returns is what was set last, and has not expired. -/
theorem get_after {events : List (CacheEvent α)} {key : Text} {now : Int} {value : α}
    (h : ((after CacheEvent.exec Cache.empty events).get key now).1 = some value) :
    ∃ earlier t ttlMs later, events = earlier ++ ⟨.set key value ttlMs, t⟩ :: later ∧
      (∀ e ∈ later, (∀ value' ttlMs', e.call ≠ .set key value' ttlMs') ∧ ¬ e.call.Drops key) ∧
      now ≤ t + ttlMs := by
  obtain ⟨item, hmem, rfl, rfl, hlive⟩ := find_of_get h
  obtain ⟨earlier, e, later, hevents, heffect, hlater⟩ :=
    latest_eq_some_iff.mp (refines_after events item hmem)
  obtain ⟨ttlMs, hcall, hexpires⟩ := set_of_effect heffect
  refine ⟨earlier, e.now, ttlMs, later, ?_, fun e' he' => untouched_of_effect (hlater e' he'),
    hexpires ▸ hlive⟩
  rw [hevents, ← hcall]

/-- **The cache as a store with expiry.** After any run, at any time:

- what `get` returns of a key is what a `set` of the run wrote that has not expired, and no later
  call has set the key again or dropped it;
- there are `maxEntries` entries at most;
- `deletePrefix` leaves exactly the entries whose keys do not start with the prefix, and returns
  the number of those that do, as its loop over the slots of the `Map` does. -/
theorem cache_serves_latest (events : List (CacheEvent α)) :
    let cache := after CacheEvent.exec (Cache.empty : Cache α) events
    (∀ key now value, (cache.get key now).1 = some value →
      ∃ earlier t ttlMs later, events = earlier ++ ⟨.set key value ttlMs, t⟩ :: later ∧
        (∀ e ∈ later, (∀ value' ttlMs', e.call ≠ .set key value' ttlMs') ∧ ¬ e.call.Drops key) ∧
        now ≤ t + ttlMs) ∧
    cache.items.length ≤ Cache.maxEntries ∧
    ∀ start, (cache.deletePrefix start).2.items =
        cache.items.filter (fun item => ¬ start <+: item.key) ∧
      (cache.deletePrefix start).1 = (cache.items.filter fun item => start <+: item.key).length ∧
      ∀ slots, entries slots = cache.items →
        entries (applyDeletePrefix start slots).1 = (cache.deletePrefix start).2.items ∧
          (applyDeletePrefix start slots).2 = (cache.deletePrefix start).1 := by
  refine ⟨fun key now value => get_after, length_after_le events, fun start => ⟨?_, ?_, ?_⟩⟩
  · simp [Cache.deletePrefix, Cache.keep, ← List.isPrefixOf_iff_prefix]
  · simp [Cache.deletePrefix, ← List.isPrefixOf_iff_prefix]
  · exact fun slots => applyDeletePrefix_eq start

end Common
