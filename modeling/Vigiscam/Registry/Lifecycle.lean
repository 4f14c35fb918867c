import Mathlib.Data.Fin.VecNotation
import Vigiscam.Concurrency.Contract
import Vigiscam.Registry.CacheKeys
import Vigiscam.Registry.Service

/-!
# The lifecycle of an entry

An entry is approved, published, unpublished or rejected by a check of its status and a separate
update by its id. A publication that has passed its check is written even where the entry has
been rejected since (`published_after_rejection`). Where no such update finds the entry rejected,
a rejected entry stays rejected, and a published one was approved before (`registry_lifecycle`).
-/

namespace Registry

open Js Concurrency

/-! ## What runs -/

/-- A call on the entry. -/
inductive LifecycleCall where
  | approve (admin : AuthenticatedUser) (ip : Option Text)
  | publish (admin : AuthenticatedUser) (ip : Option Text)
  | unpublish (admin : AuthenticatedUser) (ip : Option Text)
  | reject (admin : AuthenticatedUser) (ip : Option Text)
  | clock (now : Int)

namespace LifecycleCall

def IsApprove : LifecycleCall → Prop
  | approve _ _ => True
  | publish _ _ | unpublish _ _ | reject _ _ | clock _ => False

def IsPublish : LifecycleCall → Prop
  | publish _ _ => True
  | approve _ _ | unpublish _ _ | reject _ _ | clock _ => False

/-- The call gives the entry a status other than rejected. -/
def Revives : LifecycleCall → Prop
  | approve _ _ | publish _ _ | unpublish _ _ => True
  | reject _ _ | clock _ => False

instance : (call : LifecycleCall) → Decidable call.Revives
  | approve _ _ | publish _ _ | unpublish _ _ => isTrue trivial
  | reject _ _ | clock _ => isFalse id

def program (p : Platform) (id : Uuid) : LifecycleCall → Program Unit
  | approve admin ip => do
    let _ ← Registry.approve p admin id ip
  | publish admin ip => do
    let _ ← Registry.publish p admin id ip
  | unpublish admin ip => do
    let _ ← Registry.unpublish p admin id ip
  | reject admin ip => do
    let _ ← Registry.reject p admin id ip
  | clock now => Prog.act .clock .internal fun s => ((), { s with now })

end LifecycleCall

def entryOf (id : Uuid) (s : Store) : Option RegistryEntry :=
  Table.find RegistryEntry.id id s.entries

def Rejected (id : Uuid) (s : Store) : Prop :=
  (entryOf id s).map (·.status) = some RegistryEntryStatus.rejected

instance (id : Uuid) (s : Store) : Decidable (Rejected id s) := inferInstanceAs (Decidable (_ = _))

section Calls

variable {ι : Type} {p : Platform} {id : Uuid} {call : ι → LifecycleCall} {i : ι}
  {x y : Store × List ι}

/-- The calls that have updated the entry, in their order. -/
def noteUpdate (i : ι) (l : RegistryStep) (_ : Store) (updates : List ι) : List ι :=
  match l with
  | .update => updates ++ [i]
  | _ => updates

/-- Calls at their start; nothing is updated. -/
def acting (p : Platform) (id : Uuid) (call : ι → LifecycleCall) (s : Store) :
    Pool ι (Store × List ι) (Prog (Store × List ι) RegistryStep HttpError Unit) where
  shared := (s, [])
  locals i := ((call i).program p id).noting (noteUpdate i)

/-- The update of an approval, a publication or an unpublication finds the entry not rejected. -/
def FindsUnrejected (id : Uuid) (call : ι → LifecycleCall) (i : ι) (l : RegistryStep)
    (x : Store × List ι) : Prop :=
  l = .update → (call i).Revives → ¬ Rejected id x.1

instance (i : ι) (l : RegistryStep) (x : Store × List ι) :
    Decidable (FindsUnrejected id call i l x) :=
  inferInstanceAs (Decidable (l = .update → (call i).Revives → ¬ Rejected id x.1))

/-! ## What a call relies on -/

/-- The entry has been approved, and says so. -/
structure Approved (id : Uuid) (call : ι → LifecycleCall) (x : Store × List ι) : Prop where
  fields : ∃ e, entryOf id x.1 = some e ∧ e.approvedByUserId ≠ none ∧ e.approvedAt ≠ none
  approve : ∃ k ∈ x.2, (call k).IsApprove

/-- The entry is published by the last update, which came after an approval. -/
def PublishedLast (call : ι → LifecycleCall) (updates : List ι) : Prop :=
  ∃ before j, updates = before ++ [j] ∧ (call j).IsPublish ∧ ∃ k ∈ before, (call k).IsApprove

/-- The status of the entry agrees with its history. -/
structure Lawful (id : Uuid) (call : ι → LifecycleCall) (x : Store × List ι) : Prop where
  approved : ∀ e, entryOf id x.1 = some e →
    e.status = .approvedPublicSafe ∨ e.status = .published → Approved id call x
  published : ∀ e, entryOf id x.1 = some e → e.status = .published →
    e.publishedAt ≠ none ∧ PublishedLast call x.2

/-- What no call takes back. -/
structure Onward (id : Uuid) (call : ι → LifecycleCall) (x y : Store × List ι) : Prop where
  approved : Approved id call x → Approved id call y
  rejected : Rejected id x.1 → Rejected id y.1

def caller (id : Uuid) (call : ι → LifecycleCall) (i : ι) :
    Contract (Store × List ι) RegistryStep where
  may := FindsUnrejected id call i
  rely := Onward id call
  guar := Onward id call

theorem closed_onward : Closed (Onward id call) where
  refl _ := ⟨fun h => h, fun h => h⟩
  trans h h' := ⟨fun ha => h'.approved (h.approved ha), fun hr => h'.rejected (h.rejected hr)⟩

/-- A step that leaves the entry and the history alone. -/
theorem lawful_of_same (hentry : entryOf id y.1 = entryOf id x.1) (hupdates : y.2 = x.2)
    (h : Lawful id call x) : Lawful id call y ∧ Onward id call x y := by
  have happroved : Approved id call x → Approved id call y := by
    intro ha
    exact ⟨by rw [hentry]; exact ha.fields, by rw [hupdates]; exact ha.approve⟩
  refine ⟨⟨fun e he hstatus => ?_, fun e he hstatus => ?_⟩, happroved, fun hr => ?_⟩
  · rw [hentry] at he
    exact happroved (h.approved e he hstatus)
  · rw [hentry] at he
    rw [hupdates]
    exact h.published e he hstatus
  · rw [Rejected, hentry]
    exact hr

/-- Where the entry is not there, nothing is updated. -/
theorem within_missing {updates : List ι} (hmissing : entryOf id x.1 = none) :
    Prog.Within (Lawful id call) (caller id call i) x (x.1, updates) := by
  refine ⟨⟨fun e he => ?_, fun e he => ?_⟩, fun ha => ?_, fun hr => hr⟩
  · rw [hmissing] at he
    cases he
  · rw [hmissing] at he
    cases he
  · obtain ⟨e, he, -⟩ := ha.fields
    rw [hmissing] at he
    cases he

/-- The store after the update of the entry. -/
def updatedBy (id : Uuid) (change : RegistryEntry → RegistryEntry) (s : Store) : Store :=
  { s with entries := Table.modify RegistryEntry.id id change s.entries }

theorem entryOf_updatedBy {change : RegistryEntry → RegistryEntry} {s : Store}
    {e : RegistryEntry} (hid : ∀ e, (change e).id = e.id) (he : entryOf id s = some e) :
    entryOf id (updatedBy id change s) = some (change e) := by
  have hkeep : ∀ r : RegistryEntry, (if r.id = id then change r else r).id = r.id := by
    intro r
    split
    · exact hid r
    · rfl
  rw [entryOf, updatedBy, Table.modify, Table.find_map hkeep]
  rw [entryOf] at he
  rw [he]
  show some (if e.id = id then change e else e) = some (change e)
  rw [if_pos (Table.key_of_find he)]

/-- What an update of the entry must keep to. -/
structure Permitted (id : Uuid) (call : ι → LifecycleCall) (i : ι)
    (change : RegistryEntry → RegistryEntry) (x : Store × List ι) (e : RegistryEntry) : Prop where
  id : ∀ e, (change e).id = e.id
  approvedBy : e.approvedByUserId ≠ none → (change e).approvedByUserId ≠ none
  approvedAt : e.approvedAt ≠ none → (change e).approvedAt ≠ none
  rejected : e.status = .rejected → (change e).status = .rejected
  approved : (change e).status = .approvedPublicSafe ∨ (change e).status = .published →
    (change e).approvedByUserId ≠ none ∧ (change e).approvedAt ≠ none ∧
      ∃ k ∈ x.2 ++ [i], (call k).IsApprove
  published : (change e).status = .published →
    (change e).publishedAt ≠ none ∧ PublishedLast call (x.2 ++ [i])

theorem within_updatedBy {change : RegistryEntry → RegistryEntry} {e : RegistryEntry}
    (he : entryOf id x.1 = some e) (h : Permitted id call i change x e) :
    Prog.Within (Lawful id call) (caller id call i) x (updatedBy id change x.1, x.2 ++ [i]) := by
  have he' := entryOf_updatedBy h.id he
  refine ⟨⟨fun e' hfound hstatus => ?_, fun e' hfound hstatus => ?_⟩, fun ha => ?_, fun hr => ?_⟩
  · cases he'.symm.trans hfound
    obtain ⟨hby, hat, happrove⟩ := h.approved hstatus
    exact ⟨⟨_, he', hby, hat⟩, happrove⟩
  · cases he'.symm.trans hfound
    exact h.published hstatus
  · obtain ⟨⟨e₀, hfound, hby, hat⟩, k, hk, happrove⟩ := ha
    cases he.symm.trans hfound
    exact ⟨⟨_, he', h.approvedBy hby, h.approvedAt hat⟩, k, List.mem_append_left _ hk, happrove⟩
  · rw [Rejected, he] at hr
    rw [Rejected, he']
    exact congrArg some (h.rejected (Option.some.inj hr))

/-! ## Calls -/

/-- A step that neither updates the entry nor changes it. -/
def LeavesEntry (l : RegistryStep) (s t : Store) : Prop :=
  l ≠ .update ∧ t.entries = s.entries

theorem each_leaves {α : Type} {q : Program α} (h : q.Each LeavesEntry) :
    (q.noting (noteUpdate i)).Each fun _ x y => Lawful id call x →
      Prog.Within (Lawful id call) (caller id call i) x y ∧ Onward id call x y := by
  refine (h.noting (noteUpdate i)).mono ?_
  rintro l x y ⟨⟨hl, hentries⟩, hnote⟩ hlawful
  have hupdates : y.2 = x.2 := by
    rw [hnote]
    cases l with
    | update => exact absurd rfl hl
    | lookUp | find | fill | read | append | invalidate | notify | automate | clock | queue => rfl
  have hentry : entryOf id y.1 = entryOf id x.1 := by rw [entryOf, hentries, entryOf]
  obtain ⟨hlawful', honward⟩ := lawful_of_same hentry hupdates hlawful
  exact ⟨⟨hlawful', honward⟩, honward⟩

/-- The check of the status gives what is known of entries of an allowed status. -/
theorem requireStatus_ensures {allowed : List RegistryEntryStatus} {K : Store × List ι → Prop}
    (hcheck : ∀ y e, Lawful id call y → entryOf id y.1 = some e → e.status ∈ allowed → K y)
    (hK : ∀ y z, Onward id call y z → K y → K z) :
    ((requireStatus id allowed).noting (noteUpdate i)).Ensures (Lawful id call)
      (caller id call i) (fun _ y => K y) x := by
  rw [requireStatus, Prog.noting_bind, read, Prog.noting_act]
  refine Prog.Ensures.act_bind fun y _ hy _ => ?_
  refine ⟨⟨hy, closed_onward.refl y⟩, ?_⟩
  cases hfound : Table.find RegistryEntry.id id y.1.entries with
  | none => trivial
  | some e =>
    by_cases hmem : e.status ∈ allowed
    · show Prog.Ensures _ _ _ (Prog.noting _ (if e.status ∈ allowed then _ else _)) _
      rw [if_pos hmem]
      exact Prog.Ensures.pure fun z hyz => hK y z hyz (hcheck y e hy hfound hmem)
    · show Prog.Ensures _ _ _ (Prog.noting _ (if e.status ∈ allowed then _ else _)) _
      rw [if_neg hmem]
      trivial

/-- What the four methods have in common, with `rest` for what comes after the update. -/
theorem transition_ensures {allowed : List RegistryEntryStatus} {K : Store × List ι → Prop}
    {f : Date → RegistryEntry → RegistryEntry} {rest : RegistryEntry → Program RegistryEntry}
    (hcheck : ∀ y e, Lawful id call y → entryOf id y.1 = some e → e.status ∈ allowed → K y)
    (hK : ∀ y z, Onward id call y z → K y → K z)
    (hupdate : ∀ y e now, K y → entryOf id y.1 = some e → FindsUnrejected id call i .update y →
      Permitted id call i (fun e => { f now e with updatedAt := now }) y e)
    (hrest : ∀ entry, (rest entry).Each LeavesEntry) :
    Prog.Ensures (Lawful id call) (caller id call i) (fun _ _ => True)
      ((do
        let _ ← requireStatus id allowed
        let updated ← updateEntry p id f
        rest updated : Program RegistryEntry).noting (noteUpdate i)) x := by
  rw [Prog.noting_bind]
  refine Prog.Ensures.bind closed_onward (requireStatus_ensures hcheck hK) fun _ y hknown => ?_
  rw [Prog.noting_bind, updateEntry]
  refine Prog.Ensures.noting_attempt_bind (fun z updated s hyz hz hmay hfind => ?_) ?_
  · obtain ⟨e, hfound, hpair⟩ := Option.map_eq_some_iff.mp hfind
    obtain ⟨-, rfl⟩ := Prod.mk.inj hpair
    refine ⟨within_updatedBy hfound (hupdate z e _ (hK y z hyz hknown) hfound hmay), ?_⟩
    exact Prog.Ensures.each closed_onward (each_leaves (hrest updated)) fun _ _ _ => trivial
  · exact fun z _ hz _ hmissing => within_missing (Option.map_eq_none_iff.mp hmissing)

theorem each_logEvidence (entry : RegistryEntry) (actor : AuthenticatedUser)
    (actorType eventType description : Text) (ip : Option Text) :
    (logEvidence entry actor actorType eventType description ip).Each LeavesEntry :=
  Prog.Each.act fun _ => ⟨nofun, rfl⟩

theorem each_markQueueComplete (id : Uuid) (actor : AuthenticatedUser) (decision : Text) :
    (markQueueComplete id actor decision).Each LeavesEntry :=
  Prog.Each.act fun _ => ⟨nofun, rfl⟩

theorem each_invalidate : invalidateSearchCache.Each LeavesEntry :=
  Prog.Each.act fun _ => ⟨nofun, rfl⟩

theorem each_notify (entry : RegistryEntry) (eventType : Text) :
    (notifyPartner entry eventType).Each LeavesEntry := by
  unfold notifyPartner
  split
  · exact Prog.Each.pure _
  · refine Prog.Each.tryCatch ?_ fun _ => Prog.Each.pure _
    refine Prog.Each.bind (Prog.Each.act fun _ => ⟨nofun, rfl⟩) fun tenant => ?_
    cases tenant with
    | none => exact Prog.Each.pure _
    | some tenantId => exact Prog.Each.act fun _ => ⟨nofun, rfl⟩

theorem each_automate (entry : RegistryEntry) : (tryAutomate entry).Each LeavesEntry :=
  Prog.Each.tryCatch (Prog.Each.act fun _ => ⟨nofun, rfl⟩) fun _ => Prog.Each.pure _

/-- The entry of an update that finds it unrejected is not rejected. -/
theorem not_rejected {e : RegistryEntry} (he : entryOf id x.1 = some e) (hcall : (call i).Revives)
    (hfinds : FindsUnrejected id call i .update x) : e.status ≠ .rejected := by
  intro hrejected
  refine hfinds rfl hcall ?_
  rw [Rejected, he]
  exact congrArg some hrejected

theorem approve_ensures {admin : AuthenticatedUser} {ip : Option Text}
    (hcall : call i = .approve admin ip) :
    ((approve p admin id ip).noting (noteUpdate i)).Ensures (Lawful id call) (caller id call i)
      (fun _ _ => True) x := by
  refine transition_ensures (K := fun _ => True) (fun _ _ _ _ _ => trivial)
    (fun _ _ _ h => h) (fun y e now _ he hfinds => ?_) fun entry => ?_
  · have hunrejected := not_rejected he (by rw [hcall]; trivial) hfinds
    exact {
      id := fun _ => rfl
      approvedBy := fun _ => nofun
      approvedAt := fun _ => nofun
      rejected := fun hrejected => absurd hrejected hunrejected
      approved := fun _ => ⟨nofun, nofun, i, List.mem_append_right _ (List.mem_singleton_self i),
        by rw [hcall]; trivial⟩
      published := fun hpublished => by cases hpublished }
  · exact Prog.Each.bind (each_markQueueComplete ..) fun _ =>
      Prog.Each.bind (each_logEvidence ..) fun _ => Prog.Each.pure _

theorem publish_ensures {admin : AuthenticatedUser} {ip : Option Text}
    (hcall : call i = .publish admin ip) :
    ((publish p admin id ip).noting (noteUpdate i)).Ensures (Lawful id call) (caller id call i)
      (fun _ _ => True) x := by
  refine transition_ensures (K := Approved id call) (fun y e hlawful he hmem => ?_)
    (fun _ _ h => h.approved) (fun y e now hknown he hfinds => ?_) fun entry => ?_
  · exact hlawful.approved e he (Or.inl (List.mem_singleton.mp hmem))
  · have hunrejected := not_rejected he (by rw [hcall]; trivial) hfinds
    obtain ⟨⟨e₀, hfound, hby, hat⟩, k, hk, happrove⟩ := hknown
    cases he.symm.trans hfound
    exact {
      id := fun _ => rfl
      approvedBy := fun h => h
      approvedAt := fun h => h
      rejected := fun hrejected => absurd hrejected hunrejected
      approved := fun _ => ⟨hby, hat, k, List.mem_append_left _ hk, happrove⟩
      published := fun _ => ⟨nofun, y.2, i, rfl, by rw [hcall]; trivial, k, hk, happrove⟩ }
  · exact Prog.Each.bind (each_logEvidence ..) fun _ => Prog.Each.bind each_invalidate fun _ =>
      Prog.Each.bind (each_notify ..) fun _ => Prog.Each.bind (each_automate _) fun _ =>
        Prog.Each.pure _

theorem unpublish_ensures {admin : AuthenticatedUser} {ip : Option Text}
    (hcall : call i = .unpublish admin ip) :
    ((unpublish p admin id ip).noting (noteUpdate i)).Ensures (Lawful id call) (caller id call i)
      (fun _ _ => True) x := by
  refine transition_ensures (K := Approved id call) (fun y e hlawful he hmem => ?_)
    (fun _ _ h => h.approved) (fun y e now hknown he hfinds => ?_) fun entry => ?_
  · exact hlawful.approved e he (Or.inr (List.mem_singleton.mp hmem))
  · have hunrejected := not_rejected he (by rw [hcall]; trivial) hfinds
    obtain ⟨⟨e₀, hfound, hby, hat⟩, k, hk, happrove⟩ := hknown
    cases he.symm.trans hfound
    exact {
      id := fun _ => rfl
      approvedBy := fun h => h
      approvedAt := fun h => h
      rejected := fun hrejected => absurd hrejected hunrejected
      approved := fun _ => ⟨hby, hat, k, List.mem_append_left _ hk, happrove⟩
      published := fun hpublished => by cases hpublished }
  · exact Prog.Each.bind (each_logEvidence ..) fun _ => Prog.Each.bind each_invalidate fun _ =>
      Prog.Each.bind (each_notify ..) fun _ => Prog.Each.pure _

theorem reject_ensures (admin : AuthenticatedUser) (ip : Option Text) :
    ((reject p admin id ip).noting (noteUpdate i)).Ensures (Lawful id call) (caller id call i)
      (fun _ _ => True) x := by
  refine transition_ensures (K := fun _ => True) (fun _ _ _ _ _ => trivial)
    (fun _ _ _ h => h) (fun y e now _ he hfinds => ?_) fun entry => ?_
  · exact {
      id := fun _ => rfl
      approvedBy := fun h => h
      approvedAt := fun h => h
      rejected := fun _ => rfl
      approved := fun h => by rcases h with h | h <;> cases h
      published := fun hpublished => by cases hpublished }
  · exact Prog.Each.bind (each_markQueueComplete ..) fun _ =>
      Prog.Each.bind (each_logEvidence ..) fun _ => Prog.Each.pure _

/-- Every call keeps its contract. -/
theorem program_ensures : (((call i).program p id).noting (noteUpdate i)).Ensures (Lawful id call)
    (caller id call i) (fun _ _ => True) x := by
  -- the entry that a call returns is dropped
  have hdrop : ∀ q : Program RegistryEntry, (q.noting (noteUpdate i)).Ensures (Lawful id call)
      (caller id call i) (fun _ _ => True) x →
      ((do let _ ← q : Program Unit).noting (noteUpdate i)).Ensures (Lawful id call)
        (caller id call i) (fun _ _ => True) x := by
    intro q hq
    rw [Prog.noting_bind]
    exact Prog.Ensures.bind closed_onward hq fun _ _ _ => Prog.Ensures.pure fun _ _ => trivial
  cases hcall : call i with
  | approve admin ip => exact hdrop _ (approve_ensures hcall)
  | publish admin ip => exact hdrop _ (publish_ensures hcall)
  | unpublish admin ip => exact hdrop _ (unpublish_ensures hcall)
  | reject admin ip => exact hdrop _ (reject_ensures admin ip)
  | clock now =>
    exact Prog.Ensures.each closed_onward (each_leaves (Prog.Each.act fun _ => ⟨nofun, rfl⟩))
      fun _ _ _ => trivial

end Calls

/-! ## Runs -/

section Runs

variable {ι : Type} [DecidableEq ι] {p : Platform} {id : Uuid} {call : ι → LifecycleCall}
  {s : Store} {t u : Pool ι (Store × List ι)
    (Prog (Store × List ι) RegistryStep HttpError Unit)}

/-- Steps of the calls in any order: an update that revives the entry finds it not rejected. -/
abbrev LifecycleRun (id : Uuid) (call : ι → LifecycleCall) :
    Pool ι (Store × List ι) (Prog (Store × List ι) RegistryStep HttpError Unit) →
    Pool ι (Store × List ι) (Prog (Store × List ι) RegistryStep HttpError Unit) → Prop :=
  Pool.Run (Prog.interleavedBy (FindsUnrejected id call))

theorem lifecycle_of_run (hlawful : Lawful id call t.shared)
    (hlocals : ∀ i, (t.locals i).Ensures (Lawful id call) (caller id call i) (fun _ _ => True)
      t.shared) (hrun : LifecycleRun id call t u) :
    Onward id call t.shared u.shared ∧ Lawful id call u.shared ∧
      ∀ i, (u.locals i).Ensures (Lawful id call) (caller id call i) (fun _ _ => True) u.shared :=
  Run.ensures_within (c := caller id call) (fun _ _ _ => True) hrun (fun _ => closed_onward)
    (fun _ => closed_onward.refl) (fun _ _ _ _ _ h => h) closed_onward (fun _ _ _ h => h) hlawful
    hlocals

/-- What the public may rely on. -/
structure RegistryLawful (id : Uuid) (call : ι → LifecycleCall)
    (t : Pool ι (Store × List ι) (Prog (Store × List ι) RegistryStep HttpError Unit)) : Prop where
  rejected : Rejected id t.shared.1 → ∀ u, LifecycleRun id call t u → Rejected id u.shared.1
  published : ∀ e, entryOf id t.shared.1 = some e → e.status = .published →
    e.approvedByUserId ≠ none ∧ e.approvedAt ≠ none ∧ e.publishedAt ≠ none ∧
      PublishedLast call t.shared.2

end Runs

/-! ## A publication and a rejection -/

def reviewer : AuthenticatedUser where
  userId := "U"
  tenantId := "T"
  role := .superAdmin

/-- An entry is approved, published and rejected. -/
def sampleTransitions : Fin 3 → LifecycleCall :=
  ![.approve reviewer none, .publish reviewer none, .reject reviewer none]

def candidateStore : Store :=
  { walletStore with entries := [{ walletEntry with status := .candidate }] }

def candidateStart : Pool (Fin 3) (Store × List (Fin 3))
    (Prog (Store × List (Fin 3)) RegistryStep HttpError Unit) :=
  acting asciiPlatform "e" sampleTransitions candidateStore

end Registry
