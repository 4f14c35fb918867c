import Vigiscam.Concurrency.Contract
import Vigiscam.Registry.CacheKeys
import Vigiscam.Registry.Service

/-!
# How old a search result can be

`publish` and `unpublish` delete the cached searches after they have updated the row. A search
that read the table before the update, and fills the cache after the deletion, puts an old
answer back.

The history of a run has every table that there was (`tables`), how many updates the last
deletion came after (`settled`), and for each process how many updates it read after, or has
made (`read`, `wrote`). `search_ensures` says what a search answers with: where every fill
comes from a read that the last deletion is not ahead of (`MayFill`), a table that is as new
as the last deletion at its start.
-/

namespace Registry

open Js Concurrency Common

/-! ## What runs, and its history -/

inductive Process where
  | search (query : RegistrySearchQuery)
  | publish (admin : AuthenticatedUser) (id : Uuid) (ip : Option Text)
  | unpublish (admin : AuthenticatedUser) (id : Uuid) (ip : Option Text)
  | clock (now : Int)

/-- A search returns its result. -/
def Process.program (p : Platform) : Process → Program (Option RegistrySearchResult)
  | search query => do
    let result ← Registry.search p query
    return some result
  | publish admin id ip => do
    let _ ← Registry.publish p admin id ip
    return none
  | unpublish admin id ip => do
    let _ ← Registry.unpublish p admin id ip
    return none
  | clock now => Prog.act .clock .internal fun s => (none, { s with now })

structure History (ι : Type) where
  /-- The table before each update. -/
  past : List (List RegistryEntry)
  /-- The number of updates before the last deletion of the cached searches. -/
  settled : Nat
  /-- The number of updates before the last read of a process. -/
  read : ι → Nat
  /-- The number of updates up to the last one of a process. -/
  wrote : ι → Nat

section Runs

variable {ι : Type}

def note [DecidableEq ι] (i : ι) (l : RegistryStep) (s : Store) (h : History ι) : History ι :=
  match l with
  | .update => { h with
      past := h.past ++ [s.entries]
      wrote := Function.update h.wrote i (h.past.length + 1) }
  | .find => { h with read := Function.update h.read i h.past.length }
  | .invalidate => { h with settled := h.past.length }
  | _ => h

/-- Every table that there was, and the one that there is. -/
def tables (x : Store × History ι) : List (List RegistryEntry) := x.2.past ++ [x.1.entries]

/-- The tables from update `n` on. -/
def since (x : Store × History ι) (n : Nat) : List (List RegistryEntry) := (tables x).drop n

/-- Processes at their start, with no update yet. -/
def processes [DecidableEq ι] (p : Platform) (process : ι → Process) (s : Store) :
    Pool ι (Store × History ι)
      (Prog (Store × History ι) RegistryStep HttpError (Option RegistrySearchResult)) where
  shared := (s, ⟨[], 0, fun _ => 0, fun _ => 0⟩)
  locals i := ((process i).program p).noting (note i)

/-- A search fills the cache only where no deletion since its read of the table has come after
an update since that read. -/
def MayFill (i : ι) : RegistryStep → Store × History ι → Prop
  | .fill, x => x.2.settled ≤ x.2.read i
  | _, _ => True

instance (i : ι) : (l : RegistryStep) → (x : Store × History ι) → Decidable (MayFill i l x)
  | .fill, x => inferInstanceAs (Decidable (x.2.settled ≤ x.2.read i))
  | .lookUp, _ | .find, _ | .read, _ | .update, _ | .append, _ | .invalidate, _ | .notify, _
  | .automate, _ | .clock, _ | .queue, _ => isTrue trivial

/-! ## The contract of a process -/

/-- What a process relies on: no table is forgotten, no deletion is taken back, and what is
noted of the process itself stays. -/
structure Keeps (i : ι) (x y : Store × History ι) : Prop where
  tables : tables x <+: tables y
  settled : x.2.settled ≤ y.2.settled
  read : y.2.read i = x.2.read i
  wrote : y.2.wrote i = x.2.wrote i

def contract (i : ι) : Contract (Store × History ι) RegistryStep where
  may := MayFill i
  rely := Keeps i
  guar x y := ∀ j, j ≠ i → Keeps j x y

/-- The cache holds answers from tables that are as new as the last deletion. -/
structure Sound (p : Platform) (asked : RegistrySearchQuery → Prop) (x : Store × History ι) :
    Prop where
  settled : x.2.settled ≤ x.2.past.length
  cache : x.1.cache.Holds (Cached p asked (· ∈ since x x.2.settled))

theorem Keeps.refl (i : ι) (x : Store × History ι) : Keeps i x x :=
  ⟨List.prefix_refl _, Nat.le_refl _, rfl, rfl⟩

theorem closed_keeps (i : ι) : Closed (Keeps i) where
  refl := Keeps.refl i
  trans h h' := ⟨h.tables.trans h'.tables, h.settled.trans h'.settled, h'.read.trans h.read,
    h'.wrote.trans h.wrote⟩

section Since

variable {x y : Store × History ι} {m n : Nat} {table : List RegistryEntry}

theorem since_of_prefix (h : tables x <+: tables y) (hmem : table ∈ since x n) :
    table ∈ since y n := by
  obtain ⟨rest, hrest⟩ := h
  rw [since, ← hrest, List.drop_append]
  exact List.mem_append_left _ hmem

theorem since_of_le (h : m ≤ n) (hmem : table ∈ since x n) : table ∈ since x m := by
  rw [since, ← Nat.add_sub_cancel' h, ← List.drop_drop] at hmem
  exact List.mem_of_mem_drop hmem

theorem now_mem_since (h : n ≤ x.2.past.length) : x.1.entries ∈ since x n := by
  rw [since, tables, List.drop_append_of_le_length h]
  exact List.mem_append_right _ (List.mem_singleton_self _)

theorem length_past_le (h : tables x <+: tables y) : x.2.past.length ≤ y.2.past.length := by
  have hlen := h.length_le
  rw [tables, tables, List.length_append, List.length_append] at hlen
  exact Nat.le_of_add_le_add_right hlen

end Since

/-! ## Steps that leave the table and the cache alone -/

/-- Steps of which nothing is noted. -/
def RegistryStep.Aside : RegistryStep → Prop
  | read | append | notify | automate | clock | queue => True
  | lookUp | find | fill | update | invalidate => False

structure LeavesAlone (l : RegistryStep) (s t : Store) : Prop where
  aside : l.Aside
  entries : t.entries = s.entries
  cache : t.cache = s.cache

variable {p : Platform} {asked : RegistrySearchQuery → Prop} {i : ι} {x y : Store × History ι}

theorem note_aside [DecidableEq ι] {l : RegistryStep} (h : l.Aside) (s : Store)
    (history : History ι) :
    note i l s history = history := by
  cases l with
  | read | append | notify | automate | clock | queue => rfl
  | lookUp | find | fill | update | invalidate => exact h.elim

/-- A step after which the tables and the history are the same. -/
theorem keeps_of_same (j : ι) (hentries : y.1.entries = x.1.entries) (hhistory : y.2 = x.2) :
    Keeps j x y := by
  have htables : tables x = tables y := by rw [tables, tables, hentries, hhistory]
  exact ⟨htables ▸ List.prefix_refl _, hhistory ▸ Nat.le_refl _, by rw [hhistory],
    by rw [hhistory]⟩

/-- A step that changes nothing but the cache, which it leaves sound. -/
theorem within_of_cache {cache : Cache RegistrySearchResult} (hsound : Sound p asked x)
    (hcache : cache.Holds (Cached p asked (· ∈ since x x.2.settled))) :
    Prog.Within (Sound p asked) (contract i) x ({ x.1 with cache := cache }, x.2) :=
  ⟨⟨hsound.settled, hcache⟩, fun j _ => keeps_of_same j rfl rfl⟩

theorem each_aside [DecidableEq ι] {α : Type} {q : Program α} (h : q.Each LeavesAlone) :
    (q.noting (note i)).Each fun _ x y => Sound p asked x →
      Prog.Within (Sound p asked) (contract i) x y ∧ Keeps i x y := by
  refine (h.noting (note i)).mono ?_
  rintro l x y ⟨hstep, hnote⟩ hsound
  have hhistory : y.2 = x.2 := hnote.trans (note_aside hstep.aside _ _)
  have htables : tables y = tables x := by rw [tables, tables, hstep.entries, hhistory]
  refine ⟨⟨⟨?_, ?_⟩, fun j _ => keeps_of_same j hstep.entries hhistory⟩,
    keeps_of_same i hstep.entries hhistory⟩
  · rw [hhistory]
    exact hsound.settled
  · rw [hstep.cache, hhistory, since, htables]
    exact hsound.cache

end Runs

/-! ## What a search answers with -/

section Contracts

variable {ι : Type} [DecidableEq ι] {p : Platform} {asked : RegistrySearchQuery → Prop} {i : ι}
  {x y : Store × History ι} {n : Nat}

/-- A result that may be returned for the query: the answer of a query with its key, from a
table that there was since the update `n`. -/
def Fresh (p : Platform) (asked : RegistrySearchQuery → Prop) (query : RegistrySearchQuery)
    (n : Nat) (result : RegistrySearchResult) (y : Store × History ι) : Prop :=
  Cached p asked (· ∈ since y n) (buildCacheKey p query) result

omit [DecidableEq ι] in
theorem Cached.mono {tables tables' : List RegistryEntry → Prop} {key : Text}
    {result : RegistrySearchResult} (h : Cached p asked tables key result)
    (htables : ∀ table, tables table → tables' table) : Cached p asked tables' key result := by
  obtain ⟨x, hx, hkey, table, hmem, hanswer⟩ := h
  exact ⟨x, hx, hkey, table, htables table hmem, hanswer⟩

omit [DecidableEq ι] in
theorem Fresh.after {query : RegistrySearchQuery} {result : RegistrySearchResult}
    (h : Fresh p asked query n result x) (hxy : Keeps i x y) : Fresh p asked query n result y :=
  Cached.mono h fun _ => since_of_prefix hxy.tables

/-- The last step of a search that found nothing in the cache: `rows` are those of the table at
its read. -/
theorem fill_ensures {query : RegistrySearchQuery} {rows : List RegistryEntry}
    {table : List RegistryEntry} (hquery : asked query) (hn : n ≤ x.2.read i)
    (hread : ∀ y, Keeps i x y → table ∈ since y (x.2.read i))
    (hanswer : answer p query table = some (resultOf query rows)) :
    Prog.Ensures (Sound p asked) (contract i) (fun result y => Fresh p asked query n result y)
      ((do
        cacheSet (buildCacheKey p query) (resultOf query rows)
        return resultOf query rows : Program RegistrySearchResult).noting (note i)) x := by
  rw [Prog.noting_bind, cacheSet, Prog.noting_act]
  have hfresh : ∀ y, Keeps i x y → ∀ m, m ≤ x.2.read i →
      Fresh p asked query m (resultOf query rows) y := fun y hxy m hm =>
    ⟨query, hquery, rfl, table, since_of_le hm (hread y hxy), hanswer⟩
  refine Prog.Ensures.act_bind fun y hxy hsound hmay => ⟨?_, ?_⟩
  · -- the fill is allowed: the last deletion is not ahead of the read
    have hsettled : y.2.settled ≤ x.2.read i := hxy.read ▸ hmay
    exact within_of_cache hsound (hsound.cache.set (hfresh y hxy _ hsettled))
  · refine Prog.Ensures.pure fun z hyz => ?_
    refine Fresh.after (i := i) ?_ hyz
    exact hfresh y hxy n hn

/-- A search that finds nothing in the cache reads the table as it is now. -/
theorem queryDatabase_ensures {query : RegistrySearchQuery} (hquery : asked query)
    (hn : n ≤ x.2.settled) :
    Prog.Ensures (Sound p asked) (contract i) (fun result y => Fresh p asked query n result y)
      ((do
        let result ← queryDatabase p query
        cacheSet (buildCacheKey p query) result
        return result : Program RegistrySearchResult).noting (note i)) x := by
  rw [queryDatabase, Prog.bind_assoc, Prog.noting_bind, findMany]
  -- the read is noted, also where the database refuses it
  have hread : ∀ y, Sound p asked y → Prog.Within (Sound p asked) (contract i) y
      (y.1, note i .find y.1 y.2) := fun y hsound =>
    ⟨⟨hsound.settled, hsound.cache⟩, fun j hj => ⟨List.prefix_refl _, Nat.le_refl _,
      Function.update_of_ne hj .., rfl⟩⟩
  refine Prog.Ensures.noting_attempt_bind (fun y rows s hxy hsound _ hfind => ?_)
    fun y _ hsound _ _ => hread y hsound
  split at hfind
  · next hskip =>
    obtain ⟨rfl, rfl⟩ := Prod.mk.inj (Option.some.inj hfind)
    refine ⟨hread y hsound, ?_⟩
    have hnow : (note i .find y.1 y.2).read i = y.2.past.length := Function.update_self ..
    have hanswer :
        answer p query y.1.entries = some (resultOf query (rowsOf p query y.1.entries)) :=
      if_pos hskip
    refine fill_ensures hquery ?_ (fun z hyz => ?_) hanswer
    · show n ≤ (note i .find y.1 y.2).read i
      rw [hnow]
      exact (hn.trans hxy.settled).trans hsound.settled
    · refine since_of_prefix hyz.tables ?_
      show y.1.entries ∈ since _ ((note i .find y.1 y.2).read i)
      rw [hnow]
      exact now_mem_since (Nat.le_refl _)
  · cases hfind

/-- **What a search answers with**: an answer from a table that there was since the update
that was settled when it started. -/
theorem search_ensures {query : RegistrySearchQuery} (hquery : asked query)
    (hn : n ≤ x.2.settled) :
    Prog.Ensures (Sound p asked) (contract i) (fun result y => Fresh p asked query n result y)
      ((search p query).noting (note i)) x := by
  rw [search, Prog.noting_bind, cacheGet, Prog.noting_act]
  refine Prog.Ensures.act_bind fun y hxy hsound _ =>
    ⟨within_of_cache hsound hsound.cache.get, ?_⟩
  cases hget : (y.1.cache.get (buildCacheKey p query) y.1.now).1 with
  | some cached =>
    refine Prog.Ensures.pure fun z hyz => Fresh.after (i := i) ?_ hyz
    exact (hsound.cache.of_get hget).mono fun _ => since_of_le (hn.trans hxy.settled)
  | none => exact queryDatabase_ensures hquery (hn.trans hxy.settled)

/-! ## What a publication leaves -/

/-- An update is the newest table. -/
theorem within_update (hsound : Sound p asked x) (entries : List RegistryEntry) :
    Prog.Within (Sound p asked) (contract i) x
      ({ x.1 with entries := entries }, note i .update x.1 x.2) := by
  have htables : tables x <+: tables ({ x.1 with entries := entries }, note i .update x.1 x.2) :=
    List.prefix_append _ _
  refine ⟨⟨?_, ?_⟩, fun j hj => ⟨htables, Nat.le_refl _, rfl, Function.update_of_ne hj ..⟩⟩
  · show x.2.settled ≤ (x.2.past ++ [x.1.entries]).length
    rw [List.length_append]
    exact Nat.le_add_right_of_le hsound.settled
  · refine hsound.cache.mono ?_
    rintro key result ⟨query, hquery, hkey, table, hmem, hanswer⟩
    exact ⟨query, hquery, hkey, table, since_of_prefix htables hmem, hanswer⟩

theorem prefix_buildCacheKey (query : RegistrySearchQuery) :
    SEARCH_CACHE_PREFIX.isPrefixOf (buildCacheKey p query) = true := by
  rw [List.isPrefixOf_iff_prefix, buildCacheKey]
  simp only [List.append_assoc]
  exact List.prefix_append _ _

/-- After the deletion of the cached searches none is left. -/
theorem within_invalidate (hsound : Sound p asked x) :
    Prog.Within (Sound p asked) (contract i) x
      ({ x.1 with cache := (x.1.cache.deletePrefix SEARCH_CACHE_PREFIX).2 },
        note i .invalidate x.1 x.2) := by
  refine ⟨⟨Nat.le_refl _, ?_⟩, fun j _ => ⟨List.prefix_refl _, hsound.settled, rfl, rfl⟩⟩
  refine (Cache.holds_deletePrefix hsound.cache).mono ?_
  rintro key result ⟨⟨query, -, rfl, -⟩, hnot⟩
  rw [prefix_buildCacheKey] at hnot
  cases hnot

theorem each_requireStatus (id : Uuid) (allowed : List RegistryEntryStatus) :
    (requireStatus id allowed).Each LeavesAlone := by
  refine Prog.Each.bind (Prog.Each.act fun s => ⟨trivial, rfl, rfl⟩) fun entry => ?_
  cases entry with
  | none => exact Prog.Each.throw _
  | some entry =>
    show Prog.Each _ (if entry.status ∈ allowed then _ else _)
    split
    · exact Prog.Each.pure _
    · exact Prog.Each.throw _

theorem each_notifyPartner (entry : RegistryEntry) (eventType : Text) :
    (notifyPartner entry eventType).Each LeavesAlone := by
  unfold notifyPartner
  split
  · exact Prog.Each.pure _
  · refine Prog.Each.tryCatch ?_ fun _ => Prog.Each.pure _
    refine Prog.Each.bind (Prog.Each.act fun s => ⟨trivial, rfl, rfl⟩) fun tenant => ?_
    cases tenant with
    | none => exact Prog.Each.pure _
    | some tenantId => exact Prog.Each.act fun s => ⟨trivial, rfl, rfl⟩

theorem each_tryAutomate (entry : RegistryEntry) : (tryAutomate entry).Each LeavesAlone :=
  Prog.Each.tryCatch (Prog.Each.act fun _ => ⟨trivial, rfl, rfl⟩) fun _ => Prog.Each.pure _

/-- **An update is settled when its call returns**: what `publish` and `unpublish` have in
common, with `rest` for what comes after the deletion of the cached searches. -/
theorem change_ensures {id : Uuid} {allowed : List RegistryEntryStatus}
    {f : Date → RegistryEntry → RegistryEntry} {admin : AuthenticatedUser}
    {eventType description : Text} {ip : Option Text} {rest : RegistryEntry → Program RegistryEntry}
    (hrest : ∀ entry, (rest entry).Each LeavesAlone) :
    Prog.Ensures (Sound p asked) (contract i) (fun _ y => y.2.wrote i ≤ y.2.settled)
      ((do
        let _ ← requireStatus id allowed
        let updated ← updateEntry p id f
        logEvidence updated admin "ADMIN" eventType description ip
        let _ ← invalidateSearchCache
        rest updated).noting (note i)) x := by
  rw [Prog.noting_bind]
  refine Prog.Ensures.each_bind (closed_keeps i) (each_aside (each_requireStatus id allowed)) ?_
  intro _ y _
  rw [Prog.noting_bind, updateEntry]
  refine Prog.Ensures.noting_attempt_bind (fun z updated _ _ hsound _ hfind => ?_)
    fun z _ hsound _ _ => within_update hsound z.1.entries
  obtain ⟨entry, -, hentry⟩ := Option.map_eq_some_iff.mp hfind
  obtain ⟨-, rfl⟩ := Prod.mk.inj hentry
  refine ⟨within_update hsound _, ?_⟩
  rw [Prog.noting_bind]
  refine Prog.Ensures.each_bind (closed_keeps i)
    (each_aside (Prog.Each.act fun s => ⟨trivial, rfl, rfl⟩)) ?_
  intro _ u hzu
  rw [Prog.noting_bind, invalidateSearchCache, Prog.noting_act]
  refine Prog.Ensures.act_bind fun v huv hsound _ => ⟨within_invalidate hsound, ?_⟩
  -- the update is in the tables, all of which the deletion comes after
  have hwrote : v.2.wrote i ≤ v.2.past.length := by
    rw [huv.wrote, hzu.wrote]
    show Function.update z.2.wrote i (z.2.past.length + 1) i ≤ _
    rw [Function.update_self]
    have hlen := length_past_le (hzu.tables.trans huv.tables)
    rwa [show (note i .update z.1 z.2).past = z.2.past ++ [z.1.entries] from rfl,
      List.length_append] at hlen
  refine Prog.Ensures.each (closed_keeps i) (each_aside (hrest updated)) fun _ w hvw => ?_
  rw [hvw.wrote]
  exact hwrote.trans hvw.settled

/-! ## Runs -/

/-- What the process of a publication has settled when it returns. -/
def Process.Changes : Process → Prop
  | publish _ _ _ | unpublish _ _ _ => True
  | search _ | clock _ => False

theorem changes_ensures {process : Process} (h : process.Changes) :
    Prog.Ensures (Sound p asked) (contract i) (fun _ y => y.2.wrote i ≤ y.2.settled)
      ((process.program p).noting (note i)) x := by
  -- the process drops the entry that the call returns
  have hreturn : ∀ (q : Program RegistryEntry),
      Prog.Ensures (Sound p asked) (contract i) (fun _ y => y.2.wrote i ≤ y.2.settled)
        (q.noting (note i)) x →
      Prog.Ensures (Sound p asked) (contract i) (fun _ y => y.2.wrote i ≤ y.2.settled)
        ((do
          let _ ← q
          return none : Program (Option RegistrySearchResult)).noting (note i)) x := by
    intro q hq
    rw [Prog.noting_bind]
    refine Prog.Ensures.bind (closed_keeps i) hq fun _ y hy => Prog.Ensures.pure fun z hyz => ?_
    rw [hyz.wrote]
    exact hy.trans hyz.settled
  cases process with
  | search query => exact h.elim
  | clock now => exact h.elim
  | publish admin id ip =>
    refine hreturn _ (change_ensures fun entry => ?_)
    exact Prog.Each.bind (each_notifyPartner entry _) fun _ =>
      Prog.Each.bind (each_tryAutomate entry) fun _ => Prog.Each.pure _
  | unpublish admin id ip =>
    refine hreturn _ (change_ensures fun entry => ?_)
    exact Prog.Each.bind (each_notifyPartner entry _) fun _ => Prog.Each.pure _

theorem search_process_ensures {query : RegistrySearchQuery} (hquery : asked query)
    (hn : n ≤ x.2.settled) :
    Prog.Ensures (Sound p asked) (contract i)
      (fun found y => ∀ result, found = some result → Fresh p asked query n result y)
      (((Process.search query).program p).noting (note i)) x := by
  rw [Process.program, Prog.noting_bind]
  refine Prog.Ensures.bind (closed_keeps i) (search_ensures hquery hn) ?_
  intro result y hfresh
  refine Prog.Ensures.pure fun z hyz => ?_
  rintro _ ⟨⟩
  exact Fresh.after hfresh hyz

/-- Every process keeps its contract. -/
theorem process_ensures {process : Process}
    (hasked : ∀ query, process = .search query → asked query) :
    Prog.Ensures (Sound p asked) (contract i) (fun _ _ => True)
      ((process.program p).noting (note i)) x := by
  cases process with
  | search query =>
    exact (search_process_ensures (hasked query rfl) (Nat.zero_le _)).mono fun _ _ _ => trivial
  | publish admin id ip =>
    have hchanges : (Process.publish admin id ip).Changes := trivial
    exact (changes_ensures hchanges).mono fun _ _ _ => trivial
  | unpublish admin id ip =>
    have hchanges : (Process.unpublish admin id ip).Changes := trivial
    exact (changes_ensures hchanges).mono fun _ _ _ => trivial
  | clock now =>
    exact Prog.Ensures.each (closed_keeps i)
      (each_aside (Prog.Each.act fun s => ⟨trivial, rfl, rfl⟩)) fun _ _ _ => trivial

/-- The ids of the entries that a search returns. -/
def RegistrySearchResult.ids (result : RegistrySearchResult) : List Uuid :=
  result.items.map PublicRegistryEntry.id

omit [DecidableEq ι] in
/-- A search answers with published entries only. -/
theorem published_of_answer {query : RegistrySearchQuery} {table : List RegistryEntry}
    {result : RegistrySearchResult} {id : Uuid} (hanswer : answer p query table = some result)
    (hid : id ∈ result.ids) : ∃ entry ∈ table, entry.id = id ∧ entry.status = .published := by
  rw [answer] at hanswer
  split at hanswer
  · obtain rfl := Option.some.inj hanswer
    obtain ⟨item, hitem, rfl⟩ := List.mem_map.mp hid
    obtain ⟨entry, hentry, rfl⟩ := List.mem_map.mp hitem
    have hrow := List.mem_of_mem_drop (List.mem_of_mem_take (List.mem_of_mem_take hentry))
    obtain ⟨hmem, hselects⟩ := List.mem_filter.mp ((List.mem_insertionSort _).mp hrow)
    simp only [selects, Bool.and_eq_true, decide_eq_true_eq] at hselects
    exact ⟨entry, hmem, rfl, hselects.1.1.1⟩
  · cases hanswer

end Contracts

section Main

variable {ι : Type} [DecidableEq ι] {p : Platform} {process : ι → Process} {store : Store}
  {s t : Pool ι (Store × History ι)
    (Prog (Store × History ι) RegistryStep HttpError (Option RegistrySearchResult))}
  {i j : ι} {query : RegistrySearchQuery} {result : RegistrySearchResult} {id : Uuid}

/-- The queries of the searches that there are. -/
def Asked (process : ι → Process) (query : RegistrySearchQuery) : Prop :=
  ∃ k, process k = .search query

/-- **A search that starts after a publication has returned** answers from a table since the
update of the publication. -/
theorem fresh_answer (hcache : store.cache = .empty)
    (hbefore : Pool.Run (Prog.interleavedBy MayFill) (processes p process store) s)
    (hafter : Pool.Run (Prog.interleavedBy MayFill) s t)
    (hchanges : (process j).Changes) (hreturned : s.locals j = .pure none)
    (hsearch : process i = .search query)
    (hstart : s.locals i = (processes p process store).locals i)
    (hanswer : t.locals i = .pure (some result)) :
    Fresh p (Asked process) query (s.shared.2.wrote j) result t.shared := by
  have hempty : Sound p (Asked process) (processes p process store).shared := by
    refine ⟨Nat.le_refl _, ?_⟩
    show Cache.Holds _ store.cache
    rw [hcache]
    exact Cache.holds_empty
  -- up to the return of the publication: its update is settled
  obtain ⟨hsound, hlocals⟩ := Run.ensures (c := contract)
    (fun k _ y => k = j → y.2.wrote j ≤ y.2.settled) hbefore closed_keeps
    (fun k x l _ => Keeps.refl l x) (fun k l x y hl h => h l hl) hempty fun k => by
      by_cases hk : k = j
      · subst hk
        exact (changes_ensures hchanges).mono fun _ _ h _ => h
      · exact (process_ensures fun x hx => ⟨k, hx⟩).mono fun _ _ _ h => absurd h hk
  have hsettled : s.shared.2.wrote j ≤ s.shared.2.settled := by
    have hj := hlocals j
    rw [hreturned] at hj
    exact hj s.shared (Keeps.refl j _) rfl
  -- from the start of the search on: it answers from a table since then
  obtain ⟨-, hlocals⟩ := Run.ensures (c := contract)
    (fun k found y => k = i → ∀ result, found = some result →
      Fresh p (Asked process) query (s.shared.2.wrote j) result y) hafter closed_keeps
    (fun k x l _ => Keeps.refl l x) (fun k l x y hl h => h l hl) hsound fun k => by
      by_cases hk : k = i
      · subst hk
        rw [hstart]
        show Prog.Ensures _ _ _ (((process k).program p).noting (note k)) _
        rw [hsearch]
        exact (search_process_ensures ⟨k, hsearch⟩ hsettled).mono fun _ _ h _ => h
      · exact (hlocals k).mono fun _ _ _ h => absurd h hk
  have hi := hlocals i
  rw [hanswer] at hi
  exact hi t.shared (Keeps.refl i _) rfl result rfl

/-- **No stale public result**, where no search fills the cache with a table that is older
than the last deletion: a search that starts after `unpublish` of an entry has returned does
not return it, unless it is published again; and one that starts after `publish` has returned
does not omit it, where the database has it in every answer since then. -/
theorem no_stale_answers (hlower : LowerCaseLaws p.toLowerCase) (hcache : store.cache = .empty)
    (hbefore : Pool.Run (Prog.interleavedBy MayFill) (processes p process store) s)
    (hafter : Pool.Run (Prog.interleavedBy MayFill) s t)
    (hreturned : s.locals j = .pure none) (hsearch : process i = .search query)
    (hstart : s.locals i = (processes p process store).locals i)
    (hanswer : t.locals i = .pure (some result)) :
    (∀ admin ip, process j = .unpublish admin id ip →
      (∀ table ∈ since t.shared (s.shared.2.wrote j), ∀ entry ∈ table, entry.id = id →
        entry.status ≠ .published) →
      id ∉ result.ids) ∧
    (∀ admin ip, process j = .publish admin id ip →
      (∀ k x, process k = .search x → ToldApart p x query) →
      (∀ table ∈ since t.shared (s.shared.2.wrote j), ∀ direct, answer p query table = some direct →
        id ∈ direct.ids) →
      id ∈ result.ids) := by
  have hfresh : (process j).Changes →
      Fresh p (Asked process) query (s.shared.2.wrote j) result t.shared := fun hchanges =>
    fresh_answer hcache hbefore hafter hchanges hreturned hsearch hstart hanswer
  constructor
  · -- the response is the answer from a table since the update, none of which shows the id
    intro admin ip hj hnever hid
    obtain ⟨x, -, -, table, hmem, hdirect⟩ := hfresh (hj ▸ trivial)
    obtain ⟨entry, hentry, hsame, hpublished⟩ := published_of_answer hdirect hid
    exact hnever table hmem entry hentry hsame hpublished
  · -- here the cached answer must be the one to this query, and not to another with its key
    intro admin ip hj htold halways
    have hasked : ∀ x, Asked process x → ToldApart p x query := fun x ⟨k, hk⟩ => htold k x hk
    obtain ⟨table, hmem, hdirect⟩ := answer_of_cached hlower hasked (hfresh (hj ▸ trivial))
    exact halways table hmem result hdirect

end Main

/-! ## A search across an unpublication -/

/-- A search, the unpublication of what it finds, and the same search again. -/
def searches : Fin 3 → Process
  | 0 => .search (walletQuery "bc1qAb")
  | 1 => .unpublish ⟨"a", "t", .superAdmin⟩ "e" none
  | 2 => .search (walletQuery "bc1qAb")

abbrev start : Pool (Fin 3) (Store × History (Fin 3))
    (Prog (Store × History (Fin 3)) RegistryStep HttpError (Option RegistrySearchResult)) :=
  processes asciiPlatform searches walletStore

/-- Whether the entry is published in one of the tables since the update `n`. -/
def publishedSince (x : Store × History (Fin 3)) (n : Nat) : Bool :=
  (since x n).any fun table => table.any fun entry =>
    entry.id = utf16 "e" && entry.status = .published

theorem not_published_of_since {x : Store × History (Fin 3)} {n : Nat}
    (h : publishedSince x n = false) :
    ∀ table ∈ since x n, ∀ entry ∈ table, entry.id = utf16 "e" → entry.status ≠ .published := by
  intro table htable entry hentry hid hpublished
  have hany : publishedSince x n = true := by
    refine List.any_eq_true.mpr ⟨table, htable, List.any_eq_true.mpr ⟨entry, hentry, ?_⟩⟩
    rw [hid, hpublished]
    rfl
  rw [h] at hany
  cases hany

/-- The ids that a process has returned, where it is a search that has returned. -/
def foundBy (s : Pool (Fin 3) (Store × History (Fin 3))
    (Prog (Store × History (Fin 3)) RegistryStep HttpError (Option RegistrySearchResult)))
    (i : Fin 3) : Option (List Uuid) :=
  ((s.locals i).returned.bind id).map (·.ids)

theorem result_of_foundBy {s : Pool (Fin 3) (Store × History (Fin 3))
    (Prog (Store × History (Fin 3)) RegistryStep HttpError (Option RegistrySearchResult))}
    {i : Fin 3} {ids : List Uuid} (h : foundBy s i = some ids) :
    ∃ result, s.locals i = .pure (some result) ∧ result.ids = ids := by
  obtain ⟨result, hresult, hids⟩ := Option.map_eq_some_iff.mp h
  obtain ⟨found, hreturned, rfl⟩ := Option.bind_eq_some_iff.mp hresult
  exact ⟨result, Prog.eq_pure_of_returned hreturned, hids⟩

/-- Where the first search is done before the unpublication, the second does not find the
entry. -/
theorem no_stale_answers_unpublished :
    let s := Prog.turns start [(0, 3), (1, 4)]
    let t := Prog.turns s [(2, 3)]
    Pool.Run (Prog.interleavedBy MayFill) start s ∧ Pool.Run (Prog.interleavedBy MayFill) s t ∧
      s.locals 1 = .pure none ∧
      ∃ result, t.locals 2 = .pure (some result) ∧ utf16 "e" ∉ result.ids := by
  intro s t
  have hbefore : Pool.Run (Prog.interleavedBy MayFill) start s :=
    Prog.run_turns Pool.Run.refl (by decide +kernel)
  have hafter : Pool.Run (Prog.interleavedBy MayFill) s t :=
    Prog.run_turns Pool.Run.refl (by decide +kernel)
  have hreturned : s.locals 1 = .pure none := Prog.eq_pure_of_returned (by decide +kernel)
  have hfound : foundBy t 2 = some [] := by decide +kernel
  obtain ⟨result, hanswer, -⟩ := result_of_foundBy hfound
  have hnever : publishedSince t.shared (s.shared.2.wrote 1) = false := by decide +kernel
  exact ⟨hbefore, hafter, hreturned, result, hanswer,
    (no_stale_answers lowerCaseLaws_ascii rfl hbefore hafter hreturned rfl rfl hanswer).1 _ _ rfl
      (not_published_of_since hnever)⟩

/-- A search reads the table before the unpublication, and fills the cache after it has
returned: the next search returns the entry that is not published any more. -/
theorem unpublished_entry_returned :
    let s := Prog.turns start [(0, 2), (1, 4), (0, 1)]
    let t := Prog.turns s [(2, 1)]
    Pool.Run (Prog.interleavedBy fun _ _ _ => True) start s ∧
      Pool.Run (Prog.interleavedBy fun _ _ _ => True) s t ∧
      s.locals 1 = .pure none ∧ s.locals 2 = start.locals 2 ∧
      (∀ table ∈ since t.shared (s.shared.2.wrote 1), ∀ entry ∈ table, entry.id = utf16 "e" →
        entry.status ≠ .published) ∧
      ∃ result, t.locals 2 = .pure (some result) ∧ utf16 "e" ∈ result.ids := by
  intro s t
  have hreturned : s.locals 1 = .pure none := Prog.eq_pure_of_returned (by decide +kernel)
  have hfound : foundBy t 2 = some [utf16 "e"] := by decide +kernel
  have hnever : publishedSince t.shared (s.shared.2.wrote 1) = false := by decide +kernel
  obtain ⟨result, hanswer, hids⟩ := result_of_foundBy hfound
  refine ⟨Prog.run_turns Pool.Run.refl (Prog.permittedTurns_true ..),
    Prog.run_turns Pool.Run.refl (Prog.permittedTurns_true ..), hreturned, rfl,
    not_published_of_since hnever, result, hanswer, ?_⟩
  rw [hids]
  exact List.mem_singleton_self _

end Registry
