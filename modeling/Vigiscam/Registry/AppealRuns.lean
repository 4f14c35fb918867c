import Vigiscam.Concurrency.Contract
import Vigiscam.Registry.Appeals

/-!
# Appeals never alter an entry

Appeals are filed, reviewed and decided while staff act on the entries. An entry changes only
where staff have acted on it, or have accepted an appeal of it that is to unpublish it
(`entry_unaltered`). Once such a decision has returned, its entry is not published, unless
somebody publishes it (`accepted_withdraws`), and a decided appeal is left alone by every call
that begins from then on (`decision_final`).
-/

namespace RegistryAppeals

open Js Value Common Concurrency EvidenceVault Registry

abbrev AppealRun {ι : Type} [DecidableEq ι] :
    Pool ι Store (Program Unit) → Pool ι Store (Program Unit) → Prop :=
  Pool.Run (Prog.interleaved fun _ _ => True)

/-! ## What a call on an entry changes -/

section Entries

variable {p : Registry.Platform} {id entryId : Uuid} {α : Type} {x y : Registry.Store}

def Published (id : Uuid) (s : Registry.Store) : Prop :=
  (entryOf id s).map (·.status) = some RegistryEntryStatus.published

instance (id : Uuid) (s : Registry.Store) : Decidable (Published id s) :=
  inferInstanceAs (Decidable (_ = _))

theorem published_of_entries (h : y.entries = x.entries) (hy : Published id y) :
    Published id x := by
  rw [Published, entryOf, h] at hy
  exact hy

theorem not_published_of_modify {change : RegistryEntry → RegistryEntry}
    (hid : ∀ e, (change e).id = e.id) (hstatus : ∀ e, (change e).status ≠ .published)
    (h : y.entries = Table.modify RegistryEntry.id id change x.entries) : ¬ Published id y := by
  intro hy
  rw [Published, entryOf, h, Table.find_modify_self hid, Option.map_map] at hy
  obtain ⟨e, -, he⟩ := Option.map_eq_some_iff.mp hy
  exact hstatus e he

/-- The entries stay, or those of the id are changed, to the published status only where the
call `publishes`. -/
def Transition (id : Uuid) (publishes : Prop) (x y : Registry.Store) : Prop :=
  y.entries = x.entries ∨
    ∃ change : RegistryEntry → RegistryEntry, (∀ e, (change e).id = e.id) ∧
      (¬ publishes → ∀ e, (change e).status ≠ .published) ∧
      y.entries = Table.modify RegistryEntry.id id change x.entries

theorem Transition.other {publishes : Prop} (h : Transition id publishes x y)
    (hne : entryId ≠ id) : entryOf entryId y = entryOf entryId x := by
  rcases h with hsame | ⟨change, hid, -, hmodify⟩
  · rw [entryOf, hsame, entryOf]
  · rw [entryOf, hmodify, entryOf]
    exact Table.find_modify_of_ne hid hne

theorem Transition.published {publishes : Prop} (h : Transition id publishes x y)
    (hnot : ¬ publishes) (hy : Published entryId y) : Published entryId x := by
  by_cases hne : entryId = id
  · subst hne
    rcases h with hsame | ⟨change, hid, hstatus, hmodify⟩
    · exact published_of_entries hsame hy
    · exact absurd hy (not_published_of_modify hid (hstatus hnot) hmodify)
  · rw [Published, h.other hne] at hy
    exact hy

theorem each_requireStatus (id : Uuid) (allowed : List RegistryEntryStatus) :
    (Registry.requireStatus id allowed).Each fun _ x y => y = x := by
  refine Prog.Each.bind (Prog.Each.act fun _ => rfl) fun found => ?_
  cases found with
  | none => exact Prog.Each.throw _
  | some entry =>
    dsimp only
    split
    · exact Prog.Each.pure _
    · exact Prog.Each.throw _

/-- What the four methods have in common. -/
theorem each_transition {allowed : List RegistryEntryStatus} {publishes : Prop}
    {f : Date → RegistryEntry → RegistryEntry} {rest : RegistryEntry → Registry.Program α}
    (hid : ∀ now e, (f now e).id = e.id)
    (hstatus : ¬ publishes → ∀ now e, (f now e).status ≠ .published)
    (hrest : ∀ entry, (rest entry).Each LeavesEntry) :
    (do
      let _ ← Registry.requireStatus id allowed
      let updated ← updateEntry p id f
      rest updated : Registry.Program α).Each fun _ x y => Transition id publishes x y := by
  refine Prog.Each.bind ((each_requireStatus id allowed).mono fun _ _ _ h => Or.inl (h ▸ rfl))
    fun _ => Prog.Each.bind ?_ fun entry => (hrest entry).mono fun _ _ _ h => Or.inl h.2
  refine Prog.Each.attempt (fun x e y hupdate => ?_) fun x _ => Or.inl rfl
  obtain ⟨_, -, hpair⟩ := Option.map_eq_some_iff.mp hupdate
  obtain ⟨-, rfl⟩ := Prod.mk.inj hpair
  exact Or.inr ⟨fun e => { f (p.newDate x.now) e with updatedAt := p.newDate x.now }, hid _,
    fun hnot => hstatus hnot _, rfl⟩

theorem each_unpublished (entry : RegistryEntry) (admin : AuthenticatedUser) (ip : Option Text) :
    (do
      logEvidence entry admin "ADMIN" "REGISTRY_UNPUBLISHED"
        "Registry entry removed from the public registry" ip
      let _ ← invalidateSearchCache
      notifyPartner entry "REGISTRY_UNPUBLISHED"
      return entry : Registry.Program RegistryEntry).Each LeavesEntry :=
  Prog.Each.bind (each_logEvidence ..) fun _ => Prog.Each.bind each_invalidate fun _ =>
    Prog.Each.bind (each_notify ..) fun _ => Prog.Each.pure _

/-- Every step of a call on an entry. -/
theorem each_lifecycle (call : LifecycleCall) :
    (call.program p id).Each fun _ x y => Transition id call.IsPublish x y := by
  cases call with
  | approve admin ip =>
    refine Prog.Each.bind (each_transition (fun _ _ => rfl) (fun _ _ _ => nofun) fun entry => ?_)
      fun _ => Prog.Each.pure _
    exact Prog.Each.bind (each_markQueueComplete ..) fun _ =>
      Prog.Each.bind (each_logEvidence ..) fun _ => Prog.Each.pure _
  | publish admin ip =>
    refine Prog.Each.bind (each_transition (fun _ _ => rfl) (fun hnot => absurd trivial hnot)
      fun entry => ?_) fun _ => Prog.Each.pure _
    exact Prog.Each.bind (each_logEvidence ..) fun _ => Prog.Each.bind each_invalidate fun _ =>
      Prog.Each.bind (each_notify ..) fun _ => Prog.Each.bind (each_automate _) fun _ =>
        Prog.Each.pure _
  | unpublish admin ip =>
    exact Prog.Each.bind (each_transition (fun _ _ => rfl) (fun _ _ _ => nofun) fun entry =>
      each_unpublished entry admin ip) fun _ => Prog.Each.pure _
  | reject admin ip =>
    refine Prog.Each.bind (each_transition (fun _ _ => rfl) (fun _ _ _ => nofun) fun entry => ?_)
      fun _ => Prog.Each.pure _
    exact Prog.Each.bind (each_markQueueComplete ..) fun _ =>
      Prog.Each.bind (each_logEvidence ..) fun _ => Prog.Each.pure _
  | clock now => exact Prog.Each.act fun _ => Or.inl rfl

/-- An entry is taken down while the others, where they are `quiet`, do not publish it. -/
def withdrawing (quiet : Prop) (id : Uuid) : Contract Registry.Store RegistryStep where
  may _ _ := True
  rely x y := quiet → Published id y → Published id x
  guar x y := Transition id False x y

theorem closed_withdrawing {quiet : Prop} : Closed (withdrawing quiet id).rely :=
  ⟨fun _ _ h => h, fun hxy hyz hquiet h => hxy hquiet (hyz hquiet h)⟩

theorem withdrawing_of_entries {quiet : Prop} (h : y.entries = x.entries) :
    Prog.Within (fun _ => True) (withdrawing quiet id) x y ∧ (withdrawing quiet id).rely x y :=
  ⟨⟨trivial, Or.inl h⟩, fun _ => published_of_entries h⟩

/-- What `unpublish` makes of the row. -/
def takenDown (now : Date) (e : RegistryEntry) : RegistryEntry :=
  { e with status := .approvedPublicSafe, publishedAt := none, updatedAt := now }

theorem id_takenDown (now : Date) (e : RegistryEntry) : (takenDown now e).id = e.id := rfl

theorem takenDown_ne_published (now : Date) (e : RegistryEntry) :
    (takenDown now e).status ≠ .published := nofun

/-- Once it has been taken down, the entry is not published. -/
theorem ensures_unpublish {quiet : Prop} (admin : AuthenticatedUser) (ip : Option Text) :
    (Registry.unpublish p admin id ip).Ensures (fun _ => True) (withdrawing quiet id)
      (fun _ y => quiet → ¬ Published id y) x := by
  refine Prog.Ensures.each_bind closed_withdrawing
    ((each_requireStatus id _).mono fun _ _ _ h _ => withdrawing_of_entries (h ▸ rfl))
    fun _ y _ => ?_
  refine Prog.Ensures.attempt_bind (fun z entry w _ _ _ hupdate => ?_)
    fun z _ _ _ _ => (withdrawing_of_entries rfl).1
  obtain ⟨_, -, hpair⟩ := Option.map_eq_some_iff.mp hupdate
  obtain ⟨-, rfl⟩ := Prod.mk.inj hpair
  have hgone : ¬ Published id (updatedBy id (takenDown (p.newDate z.now)) z) :=
    not_published_of_modify (id_takenDown _) (takenDown_ne_published _) rfl
  refine ⟨⟨trivial, Or.inr ⟨takenDown (p.newDate z.now), id_takenDown _,
    fun _ => takenDown_ne_published _, rfl⟩⟩, ?_⟩
  exact Prog.Ensures.each closed_withdrawing
    ((each_unpublished entry admin ip).mono fun _ _ _ h _ => withdrawing_of_entries h.2)
    fun _ _ hrely hquiet hpublished => hgone (hrely hquiet hpublished)

end Entries

/-! ## Paperwork -/

section Paperwork

variable {id : Uuid} {x y z : Store} {row : RegistryAppeal}

/-- Appeals stay, each about its entry. -/
def Kept (x y : Store) : Prop :=
  ∀ row ∈ x.appeals.rows, ∃ row' ∈ y.appeals.rows, row'.id = row.id ∧
    row'.registryEntryId = row.registryEntryId

theorem closed_kept : Closed Kept where
  refl _ row hrow := ⟨row, hrow, rfl, rfl⟩
  trans := by
    intro x y z hxy hyz row hrow
    obtain ⟨row', hrow', hid, hentry⟩ := hxy row hrow
    obtain ⟨row'', hrow'', hid', hentry'⟩ := hyz row' hrow'
    exact ⟨row'', hrow'', hid'.trans hid, hentry'.trans hentry⟩

/-- A step that changes no entry. -/
structure Paper (x y : Store) : Prop where
  entries : y.registry.entries = x.registry.entries
  appeals : Kept x y

theorem Paper.refl (x : Store) : Paper x x := ⟨rfl, closed_kept.refl x⟩

theorem paper_read {α : Type} (f : Store → α) : (read f).Each fun _ x y => Paper x y :=
  Prog.Each.act Paper.refl

theorem paper_appendEvidence (input : AppendEvidenceInput) :
    (appendEvidence input).Each fun _ x y => Paper x y :=
  Prog.Each.act fun x => ⟨rfl, closed_kept.refl x⟩

theorem paper_requireStatus (id : Uuid) (allowed : List RegistryAppealStatus) :
    (requireStatus id allowed).Each fun _ x y => Paper x y := by
  refine Prog.Each.bind (paper_read _) fun found => ?_
  cases found with
  | none => exact Prog.Each.throw _
  | some appeal =>
    show Prog.Each _ (if appeal.status ∈ allowed then _ else _)
    split
    · exact Prog.Each.pure _
    · exact Prog.Each.throw _

theorem paper_updateAppeal {f : Int → RegistryAppeal → RegistryAppeal}
    (hf : ∀ now row, (f now row).id = row.id)
    (hentry : ∀ now row, (f now row).registryEntryId = row.registryEntryId) :
    (updateAppeal id f hf).Each fun _ x y => Paper x y := by
  refine Prog.Each.attempt (fun x a y hupdate => ?_) fun x _ => Paper.refl x
  obtain ⟨_, -, hpair⟩ := Option.map_eq_some_iff.mp hupdate
  obtain ⟨-, rfl⟩ := Prod.mk.inj hpair
  refine ⟨rfl, fun row hrow => ⟨_, Table.mem_modify.mpr ⟨row, hrow, rfl⟩, ?_⟩⟩
  split
  · exact ⟨hf _ row, hentry _ row⟩
  · exact ⟨rfl, rfl⟩

theorem paper_fileAppeal (entryId : Uuid) (dto : CreateRegistryAppealDto) (ip : Option Text) :
    (fileAppeal entryId dto ip).Each fun _ x y => Paper x y := by
  refine Prog.Each.bind (paper_read _) fun found => ?_
  cases found with
  | none => exact Prog.Each.throw _
  | some entry =>
    refine Prog.Each.bind (Prog.Each.act fun x => ?_) fun appeal =>
      Prog.Each.bind (paper_appendEvidence _) fun _ => Prog.Each.pure _
    exact ⟨rfl, fun row hrow => ⟨row, List.mem_append_left _ hrow, rfl, rfl⟩⟩

theorem paper_startReview (reviewer : AuthenticatedUser) (id : Uuid) (ip : Option Text) :
    (startReview reviewer id ip).Each fun _ x y => Paper x y :=
  Prog.Each.bind (paper_requireStatus id _) fun _ =>
    Prog.Each.bind (paper_updateAppeal _ fun _ _ => rfl) fun _ =>
      Prog.Each.bind (paper_appendEvidence _) fun _ => Prog.Each.pure _

/-- What comes after the unpublication. -/
theorem paper_decided (admin : AuthenticatedUser) (dto : DecideRegistryAppealDto)
    (ip : Option Text) :
    (do
      let updated ← updateAppeal id (RegistryAppeal.decided admin dto)
        (RegistryAppeal.id_decided admin dto)
      appendEvidence (appealEvent updated admin "COMPLIANCE_OFFICER" dto.decision.eventType
        dto.decision.description ip)
      return updated : Program RegistryAppeal).Each fun _ x y => Paper x y :=
  Prog.Each.bind (paper_updateAppeal _ fun _ _ => rfl) fun _ =>
    Prog.Each.bind (paper_appendEvidence _) fun _ => Prog.Each.pure _

end Paperwork

/-! ## What changes an entry -/

section Altered

variable {ι : Type} {p : Registry.Platform} {calls : ι → Call} {e id : Uuid} {s x y z : Store}

/-- Staff act on the entry, or decide that an appeal of it unpublishes it. -/
def Call.ActsOn (e : Uuid) (s : Store) : Call → Prop
  | file _ _ _ | startReview _ _ _ => False
  | decide _ id dto _ => dto.Unpublishes ∧
      ∃ appeal ∈ s.appeals.rows, appeal.id = id ∧ appeal.registryEntryId = e
  | lifecycle entryId call => entryId = e ∧ ∀ now, call ≠ .clock now

theorem Call.ActsOn.kept {call : Call} (h : call.ActsOn e x) (hxy : Kept x y) :
    call.ActsOn e y := by
  cases call with
  | file entryId dto ip => exact h
  | startReview reviewer id ip => exact h
  | decide admin id dto ip =>
    obtain ⟨hunpublishes, appeal, happeal, hid, hentry⟩ := h
    obtain ⟨appeal', happeal', hid', hentry'⟩ := hxy appeal happeal
    exact ⟨hunpublishes, appeal', happeal', hid'.trans hid, hentry'.trans hentry⟩
  | lifecycle entryId call => exact h

/-- No call publishes the entry. -/
def Quiet (calls : ι → Call) (e : Uuid) : Prop :=
  ∀ i admin ip, calls i ≠ .lifecycle e (.publish admin ip)

/-- Appeals stay, what changes an entry is a call that acts on it, and where no call publishes
it, nothing does. -/
structure Ahead (calls : ι → Call) (x y : Store) : Prop where
  appeals : Kept x y
  entry : ∀ e, entryOf e y.registry ≠ entryOf e x.registry → ∃ i, (calls i).ActsOn e y
  published : ∀ e, Quiet calls e → Published e y.registry → Published e x.registry

theorem closed_ahead : Closed (Ahead calls) where
  refl x := ⟨closed_kept.refl x, fun _ h => absurd rfl h, fun _ _ h => h⟩
  trans := by
    intro x y z hxy hyz
    refine ⟨closed_kept.trans hxy.appeals hyz.appeals, fun e hne => ?_,
      fun e hquiet h => hxy.published e hquiet (hyz.published e hquiet h)⟩
    by_cases hsame : entryOf e y.registry = entryOf e x.registry
    · exact hyz.entry e (hsame ▸ hne)
    · obtain ⟨i, hi⟩ := hxy.entry e hsame
      exact ⟨i, hi.kept hyz.appeals⟩

theorem Paper.ahead (h : Paper x y) : Ahead calls x y where
  appeals := h.appeals
  entry e hne := absurd (by rw [entryOf, h.entries, entryOf]) hne
  published _ _ hy := published_of_entries h.entries hy

/-- A transition of an entry by a call that acts on it. -/
theorem ahead_of_transition {i : ι} {publishes : Prop} (happeals : y.appeals = x.appeals)
    (h : Transition id publishes x.registry y.registry) (hacts : (calls i).ActsOn id y)
    (hquiet : Quiet calls id → ¬ publishes) : Ahead calls x y where
  appeals row hrow := ⟨row, happeals ▸ hrow, rfl, rfl⟩
  entry e hne := by
    refine ⟨i, ?_⟩
    by_cases hid : e = id
    · exact hid ▸ hacts
    · exact absurd (h.other hid) hne
  published e hq hy := by
    by_cases hid : e = id
    · exact h.published (hquiet (hid ▸ hq)) hy
    · rw [Published, h.other hid] at hy
      exact hy

/-- A process relies on `Ahead`, and guarantees it. -/
def working (calls : ι → Call) : Contract Store AppealStep where
  may _ _ := True
  rely := Ahead calls
  guar := Ahead calls

theorem ensures_paper {α : Type} {q : Program α} {post : α → Store → Prop}
    (hq : q.Each fun _ x y => Paper x y) (hpost : ∀ a t, Ahead calls s t → post a t) :
    q.Ensures (fun _ => True) (working calls) post s :=
  Prog.Ensures.each closed_ahead
    (hq.mono fun _ _ _ h _ => ⟨⟨trivial, h.ahead⟩, h.ahead⟩) hpost

theorem ensures_lifecycle {i : ι} {entryId : Uuid} {call : LifecycleCall}
    (hi : calls i = .lifecycle entryId call) :
    (onRegistry (call.program p entryId)).Ensures (fun _ => True) (working calls)
      (fun _ _ => True) s := by
  by_cases hclock : ∃ now, call = .clock now
  · obtain ⟨now, rfl⟩ := hclock
    refine ensures_paper ?_ fun _ _ _ => trivial
    rw [onRegistry, LifecycleCall.program, Prog.onPart_act]
    exact Prog.Each.act fun x => ⟨rfl, closed_kept.refl x⟩
  · refine Prog.Ensures.each closed_ahead ((each_lifecycle call).onPart.mono ?_)
      fun _ _ _ => trivial
    rintro _ x y ⟨l, -, htransition, hrest⟩ -
    have hahead : Ahead calls x y := by
      refine ahead_of_transition (i := i) (by rw [hrest]; rfl) htransition ?_ fun hquiet hcall => ?_
      · rw [hi]
        exact ⟨rfl, fun now hnow => hclock ⟨now, hnow⟩⟩
      · cases call with
        | publish admin ip => exact hquiet i admin ip hi
        | approve admin ip | unpublish admin ip | reject admin ip | clock now => exact hcall
    exact ⟨⟨trivial, hahead⟩, hahead⟩

/-! ### Decisions -/

/-- The appeal of the id is about the entry. -/
def About (id e : Uuid) (s : Store) : Prop :=
  ∃ appeal ∈ s.appeals.rows, appeal.id = id ∧ appeal.registryEntryId = e

theorem About.ahead (h : About id e x) (hxy : Ahead calls x y) : About id e y := by
  obtain ⟨appeal, happeal, hid, hentry⟩ := h
  obtain ⟨appeal', happeal', hid', hentry'⟩ := hxy.appeals appeal happeal
  exact ⟨appeal', happeal', hid'.trans hid, hentry'.trans hentry⟩

/-- The entry of the appeal of the id is not published, where nobody publishes it. -/
def Withdrawn (calls : ι → Call) (id : Uuid) (s : Store) : Prop :=
  ∃ e, About id e s ∧ (Quiet calls e → ¬ Published e s.registry)

theorem Withdrawn.ahead (h : Withdrawn calls id x) (hxy : Ahead calls x y) :
    Withdrawn calls id y := by
  obtain ⟨e, habout, hgone⟩ := h
  exact ⟨e, habout.ahead hxy, fun hquiet hy => hgone hquiet (hxy.published e hquiet hy)⟩

theorem ensures_unpublishEntry {i : ι} {admin : AuthenticatedUser} {appeal : RegistryAppeal}
    {dto : DecideRegistryAppealDto} {ip : Option Text}
    (hi : calls i = .decide admin id dto ip) (hunpublishes : dto.Unpublishes)
    (hs : About id appeal.registryEntryId s) :
    (unpublishEntry p admin appeal ip).Ensures (fun _ => True) (working calls)
      (fun _ t => Quiet calls appeal.registryEntryId →
        ¬ Published appeal.registryEntryId t.registry) s := by
  refine Prog.Ensures.under (B := About id appeal.registryEntryId)
    (fun _ _ h hx => About.ahead hx h) (fun _ _ h hx => About.ahead hx h) hs ?_
  refine Prog.Ensures.act_bind fun t _ ht _ => ⟨⟨ht, closed_ahead.refl t⟩, ?_⟩
  dsimp only
  cases hfind : Table.find RegistryEntry.id appeal.registryEntryId t.registry.entries with
  | none =>
    intro u htu hquiet hpublished
    have ht := htu.published _ hquiet hpublished
    rw [Published, entryOf, hfind] at ht
    cases ht
  | some entry =>
    have hentry : entry.id = appeal.registryEntryId := Table.key_of_find hfind
    show Prog.Ensures _ _ _ (if entry.status = .published then _ else _ : Program Unit) t
    split
    · rw [← hentry]
      have hgone : (onRegistry (Registry.unpublish p admin entry.id ip)).Ensures
          (fun t => True ∧ About id entry.id t) (working calls)
          (fun _ t => Quiet calls entry.id → ¬ Published entry.id t.registry) t := by
        have hunpublish : (Registry.unpublish p admin entry.id ip).Ensures (fun _ => True)
            (withdrawing (Quiet calls entry.id) entry.id)
            (fun _ y => Quiet calls entry.id → ¬ Published entry.id y) t.registry :=
          ensures_unpublish admin ip
        refine Prog.Ensures.onPart (fun _ _ => trivial)
          (fun x y hxy hquiet => hxy.published _ hquiet) (fun _ _ h => h)
          (fun x r hx hstep => ⟨hx, ?_⟩) (fun _ _ h => h) hunpublish
        refine ahead_of_transition (i := i) rfl hstep.guar ?_ fun _ h => h
        rw [hi]
        exact ⟨hunpublishes, hx.2⟩
      exact Prog.Ensures.bind closed_ahead hgone fun _ u hu v huv hquiet hv =>
        hu hquiet (huv.published _ hquiet hv)
    · rename_i hstatus
      intro u htu hquiet hpublished
      have ht := htu.published _ hquiet hpublished
      rw [Published, entryOf, hfind] at ht
      exact absurd (Option.some.inj ht) hstatus

/-- What a decision has done when it returns. -/
def Call.Done (calls : ι → Call) (s : Store) : Call → Prop
  | decide _ id dto _ => dto.Unpublishes → Withdrawn calls id s
  | _ => True

theorem ensures_decide {i : ι} {admin : AuthenticatedUser} {dto : DecideRegistryAppealDto}
    {ip : Option Text} (hi : calls i = .decide admin id dto ip) :
    (decideAppeal p admin id dto ip).Ensures (fun _ => True) (working calls)
      (fun _ t => dto.Unpublishes → Withdrawn calls id t) s := by
  have hfound : (requireStatus id [.submitted, .underReview]).Ensures (fun _ => True)
      (working calls) (fun appeal t => About id appeal.registryEntryId t) s := by
    refine Prog.Ensures.act_bind fun t _ _ _ => ⟨⟨trivial, closed_ahead.refl t⟩, ?_⟩
    dsimp only
    cases hfind : Table.find RegistryAppeal.id id t.appeals.rows with
    | none => trivial
    | some appeal =>
      obtain ⟨happeal, hid⟩ := Table.Issued.find_eq_some_iff.mp hfind
      show Prog.Ensures _ _ _ (if appeal.status ∈ _ then _ else _ : Program RegistryAppeal) t
      split
      · exact fun u htu => About.ahead ⟨appeal, happeal, hid, rfl⟩ htu
      · trivial
  refine Prog.Ensures.bind closed_ahead hfound fun appeal t habout => ?_
  dsimp only
  split
  · rename_i hunpublishes
    refine Prog.Ensures.bind closed_ahead ((ensures_unpublishEntry hi hunpublishes habout).frame
      closed_ahead (fun _ _ h => h) fun _ _ h => h) fun _ u hu => ?_
    exact ensures_paper (paper_decided admin dto ip) fun _ v huv _ =>
      Withdrawn.ahead ⟨_, habout.ahead hu.2, hu.1⟩ huv
  · rename_i hkept
    exact ensures_paper (paper_decided admin dto ip) fun _ _ _ hunpublishes =>
      absurd hunpublishes hkept

theorem ensures_call (i : ι) :
    ((calls i).program p).Ensures (fun _ => True) (working calls)
      (fun _ t => (calls i).Done calls t) s := by
  cases hi : calls i with
  | file entryId dto ip =>
    exact ensures_paper (Prog.Each.bind (paper_fileAppeal entryId dto ip) fun _ =>
      Prog.Each.pure _) fun _ _ _ => trivial
  | startReview reviewer id ip =>
    exact ensures_paper (Prog.Each.bind (paper_startReview reviewer id ip) fun _ =>
      Prog.Each.pure _) fun _ _ _ => trivial
  | decide admin id dto ip =>
    exact Prog.Ensures.bind closed_ahead (ensures_decide hi) fun _ t ht u htu hunpublishes =>
      (ht hunpublishes).ahead htu
  | lifecycle entryId call => exact ensures_lifecycle hi

end Altered

/-! ## Runs -/

section Runs

variable {ι : Type} [DecidableEq ι] {p : Registry.Platform} {calls : ι → Call} {s : Store}
  {t : Pool ι Store (Program Unit)}

theorem run_ahead (hrun : AppealRun (calling p calls s) t) :
    Ahead calls s t.shared ∧ ∀ i, (t.locals i).Ensures (fun _ => True) (working calls)
      (fun _ t => (calls i).Done calls t) t.shared := by
  obtain ⟨hahead, -, hlocals⟩ := Run.ensures_within (c := fun _ => working calls)
    (fun i _ t => (calls i).Done calls t) hrun (fun _ => closed_ahead)
    (fun _ => closed_ahead.refl) (fun _ _ _ _ _ h => h) closed_ahead (fun _ _ _ h => h) trivial
    fun i => ensures_call i
  exact ⟨hahead, hlocals⟩

/-! ### An appeal of a published address -/

def sampleStore : Store := ⟨walletStore, .empty numbered numbered_injective⟩

def sampleAppeal : CreateRegistryAppealDto where
  appealType := .ownershipDispute
  submitterName := "A"
  submitterEmail := "a@example.org"
  submitterRelationship := none
  reason := "The address is mine."
  requestedChange := none

def sampleDecision (unpublishEntry : Option Bool) : DecideRegistryAppealDto where
  decision := .accepted
  reviewNotes := "Ownership has been shown."
  resolutionAction := .undefined
  unpublishEntry := unpublishEntry

/-- Somebody contests the entry, and staff review the appeal, accept it and reject another
entry. -/
def sampleCalls (unpublishEntry : Option Bool) : Bool × Bool → Call
  | (false, false) => .file "e" sampleAppeal none
  | (false, true) => .startReview reviewer (numbered 0) none
  | (true, false) => .decide reviewer (numbered 0) (sampleDecision unpublishEntry) none
  | (true, true) => .lifecycle "f" (.reject reviewer none)

def sampleRun (calls : Bool × Bool → Call) (s : Store) :
    Pool (Bool × Bool) Store (Program Unit) :=
  Prog.turns (calling asciiPlatform calls s)
    [((false, false), 3), ((false, true), 3), ((true, true), 1), ((true, false), 9)]

theorem sampleRun_run (calls : Bool × Bool → Call) (s : Store) :
    AppealRun (calling asciiPlatform calls s) (sampleRun calls s) :=
  Prog.run_turns .refl (Prog.permittedTurns_true _ _)

/-- **Appeals alter no entry**: an entry stays as it is where staff neither act on it nor decide
that an appeal of it unpublishes it, whatever is filed, reviewed and decided, in any interleaving
and with any failing steps. -/
theorem entry_unaltered {e : Uuid} (hrun : AppealRun (calling p calls s) t)
    (hcalls : ∀ i, ¬ (calls i).ActsOn e t.shared) :
    entryOf e t.shared.registry = entryOf e s.registry := by
  by_contra hne
  obtain ⟨i, hi⟩ := (run_ahead hrun).1.entry e hne
  exact hcalls i hi

theorem entry_unaltered_sample :
    entryOf "e" (sampleRun (sampleCalls none) sampleStore).shared.registry = some walletEntry := by
  refine (entry_unaltered (sampleRun_run _ _) ?_).trans (by decide)
  rintro ⟨_ | _, _ | _⟩ hacts
  · exact hacts
  · exact hacts
  · exact absurd hacts.1.2 (by decide)
  · exact absurd hacts.1 (by decide)

/-- **An accepted appeal withdraws the entry**: once a decision that unpublishes has returned, the
entry of its appeal is not published, where nobody publishes it. -/
theorem accepted_withdraws {i : ι} {admin : AuthenticatedUser} {id : Uuid}
    {dto : DecideRegistryAppealDto} {ip : Option Text} {appeal : RegistryAppeal}
    (hrun : AppealRun (calling p calls s) t) (hi : calls i = .decide admin id dto ip)
    (hunpublishes : dto.Unpublishes) (hdone : Prog.returned (t.locals i) = some ())
    (happeal : appeal ∈ t.shared.appeals.rows) (hid : appeal.id = id)
    (hquiet : ∀ j admin ip, calls j ≠ .lifecycle appeal.registryEntryId (.publish admin ip)) :
    ¬ Published appeal.registryEntryId t.shared.registry := by
  have hensures := (run_ahead hrun).2 i
  rw [Prog.eq_pure_of_returned hdone, hi] at hensures
  obtain ⟨e, ⟨appeal', happeal', hid', rfl⟩, hgone⟩ :=
    hensures t.shared (closed_ahead.refl _) hunpublishes
  obtain rfl := t.shared.appeals.eq_of_key happeal happeal' (hid.trans hid'.symm)
  exact hgone hquiet

theorem accepted_withdraws_sample :
    ¬ Published "e" (sampleRun (sampleCalls (some true)) sampleStore).shared.registry := by
  have hfiled : ∃ appeal ∈ (sampleRun (sampleCalls (some true)) sampleStore).shared.appeals.rows,
      appeal.id = numbered 0 ∧ appeal.registryEntryId = utf16 "e" := by decide
  obtain ⟨appeal, happeal, hid, hentry⟩ := hfiled
  rw [← hentry]
  refine accepted_withdraws (i := (true, false)) (sampleRun_run _ _) rfl ⟨rfl, rfl⟩ (by decide)
    happeal hid ?_
  rintro ⟨_ | _, _ | _⟩ admin ip h
  · cases h
  · cases h
  · cases h
  · cases (Call.lifecycle.inj h).2

/-! ### Decided appeals -/

/-- The appeal stays as it is. -/
def staying (row : RegistryAppeal) : Contract Store AppealStep where
  may _ _ := True
  rely x y := row ∈ x.appeals.rows → row ∈ y.appeals.rows
  guar x y := row ∈ x.appeals.rows → row ∈ y.appeals.rows

variable {row : RegistryAppeal} {x y : Store} {α : Type}

theorem closed_staying : Closed (staying row).rely :=
  ⟨fun _ h => h, fun hxy hyz h => hyz (hxy h)⟩

theorem within_staying (h : row ∈ x.appeals.rows → row ∈ y.appeals.rows) :
    Prog.Within (fun _ => True) (staying row) x y ∧ (staying row).rely x y :=
  ⟨⟨trivial, h⟩, h⟩

theorem ensures_stays {q : Program α} (hq : q.Each fun _ x y =>
      row ∈ x.appeals.rows → row ∈ y.appeals.rows) :
    q.Ensures (fun _ => True) (staying row) (fun _ _ => True) s :=
  Prog.Ensures.each closed_staying (hq.mono fun _ _ _ h _ => within_staying h) fun _ _ _ => trivial

theorem each_registry_stays {β : Type} (q : Registry.Program β) :
    (onRegistry q).Each fun _ x y => row ∈ x.appeals.rows → row ∈ y.appeals.rows := by
  refine (Prog.each_onPart q).mono ?_
  rintro _ x y ⟨-, hrest⟩ hrow
  rw [hrest]
  exact hrow

theorem each_read_stays (f : Store → α) :
    (read f).Each fun _ x y => row ∈ x.appeals.rows → row ∈ y.appeals.rows :=
  Prog.Each.act fun _ h => h

theorem each_append_stays (input : AppendEvidenceInput) :
    (appendEvidence input).Each fun _ x y => row ∈ x.appeals.rows → row ∈ y.appeals.rows :=
  Prog.Each.act fun _ h => h

theorem each_update_stays {id : Uuid} {f : Int → RegistryAppeal → RegistryAppeal}
    (hf : ∀ now row, (f now row).id = row.id) (hne : row.id ≠ id) :
    (updateAppeal id f hf).Each fun _ x y => row ∈ x.appeals.rows → row ∈ y.appeals.rows := by
  refine Prog.Each.attempt (fun x a y hupdate hrow => ?_) fun x _ h => h
  obtain ⟨_, -, hpair⟩ := Option.map_eq_some_iff.mp hupdate
  obtain ⟨-, rfl⟩ := Prod.mk.inj hpair
  exact Table.mem_modify.mpr ⟨row, hrow, if_neg hne⟩

theorem each_file_stays (entryId : Uuid) (dto : CreateRegistryAppealDto) (ip : Option Text) :
    ((Call.file entryId dto ip).program p).Each fun _ x y =>
      row ∈ x.appeals.rows → row ∈ y.appeals.rows := by
  refine Prog.Each.bind (Prog.Each.bind (each_read_stays _) fun found => ?_)
    fun _ => Prog.Each.pure _
  cases found with
  | none => exact Prog.Each.throw _
  | some entry =>
    exact Prog.Each.bind (Prog.Each.act fun _ h => List.mem_append_left _ h) fun _ =>
      Prog.Each.bind (each_append_stays _) fun _ => Prog.Each.pure _

/-- The decisions. -/
def DECIDED : List RegistryAppealStatus := [.accepted, .rejected]

/-- What is found for a change is not the decided appeal. -/
theorem ensures_requireStatus {id : Uuid} {allowed : List RegistryAppealStatus}
    (hrow : row ∈ s.appeals.rows) (hdecided : row.status ∉ allowed) :
    (requireStatus id allowed).Ensures (fun _ => True) (staying row)
      (fun appeal _ => row.id ≠ appeal.id) s := by
  refine Prog.Ensures.act_bind fun t hst _ _ => ⟨⟨trivial, fun h => h⟩, ?_⟩
  dsimp only
  cases hfind : Table.find RegistryAppeal.id id t.appeals.rows with
  | none => trivial
  | some appeal =>
    show Prog.Ensures _ _ _ (if appeal.status ∈ allowed then _ else _ : Program RegistryAppeal) t
    split
    · rename_i hallowed
      intro _ _ hid
      obtain rfl := t.appeals.eq_of_key (hst hrow) (Table.mem_of_find hfind) hid
      exact hdecided hallowed
    · trivial

theorem ensures_startReview {reviewer : AuthenticatedUser} {id : Uuid} {ip : Option Text}
    (hrow : row ∈ s.appeals.rows) (hdecided : row.status ∈ DECIDED) :
    (startReview reviewer id ip).Ensures (fun _ => True) (staying row) (fun _ _ => True) s := by
  have hnot : row.status ∉ [RegistryAppealStatus.submitted] := by
    revert hdecided
    cases row.status <;> simp [DECIDED]
  refine Prog.Ensures.bind closed_staying (ensures_requireStatus hrow hnot) fun appeal t hne => ?_
  exact ensures_stays (Prog.Each.bind (each_update_stays _ hne) fun _ =>
    Prog.Each.bind (each_append_stays _) fun _ => Prog.Each.pure _)

theorem ensures_decideAppeal {admin : AuthenticatedUser} {id : Uuid}
    {dto : DecideRegistryAppealDto} {ip : Option Text} (hrow : row ∈ s.appeals.rows)
    (hdecided : row.status ∈ DECIDED) :
    (decideAppeal p admin id dto ip).Ensures (fun _ => True) (staying row) (fun _ _ => True) s := by
  have hnot : row.status ∉ [RegistryAppealStatus.submitted, .underReview] := by
    revert hdecided
    cases row.status <;> simp [DECIDED]
  refine Prog.Ensures.bind closed_staying (ensures_requireStatus hrow hnot) fun appeal t hne => ?_
  have hrest := fun _ : Unit => Prog.Each.bind
    (each_update_stays (RegistryAppeal.id_decided admin dto) hne) fun updated =>
      Prog.Each.bind (each_append_stays (appealEvent updated admin "COMPLIANCE_OFFICER"
        dto.decision.eventType dto.decision.description ip)) fun _ => Prog.Each.pure updated
  dsimp only
  split
  · refine ensures_stays (Prog.Each.bind (Prog.Each.bind (each_read_stays _) fun found => ?_) hrest)
    cases found with
    | none => exact Prog.Each.pure _
    | some entry =>
      show Prog.Each _ (if entry.status = .published then _ else _ : Program Unit)
      split
      · exact Prog.Each.bind (each_registry_stays _) fun _ => Prog.Each.pure _
      · exact Prog.Each.pure _
  · exact ensures_stays (hrest ())

/-- **A decision is final**: an appeal that is accepted or rejected is left as it is by every call
that begins from then on, in any interleaving and with any failing steps. -/
theorem decision_final (hrow : row ∈ s.appeals.rows) (hdecided : row.status ∈ DECIDED)
    (hrun : AppealRun (calling p calls s) t) : row ∈ t.shared.appeals.rows := by
  have hlocals : ∀ i, ((calls i).program p).Ensures (fun _ => True) (staying row)
      (fun _ _ => True) s := by
    intro i
    cases calls i with
    | file entryId dto ip => exact ensures_stays (each_file_stays entryId dto ip)
    | startReview reviewer id ip =>
      exact Prog.Ensures.bind closed_staying (ensures_startReview hrow hdecided)
        fun _ _ _ _ _ => trivial
    | decide admin id dto ip =>
      exact Prog.Ensures.bind closed_staying (ensures_decideAppeal hrow hdecided)
        fun _ _ _ _ _ => trivial
    | lifecycle entryId call => exact ensures_stays (each_registry_stays _)
  exact (Run.ensures_within (c := fun _ => staying row) (fun _ _ _ => True) hrun
    (fun _ => closed_staying) (fun _ => closed_staying.refl) (fun _ _ _ _ _ h => h)
    closed_staying (fun _ _ _ h => h) trivial hlocals).1 hrow

def sampleAccepted : RegistryAppeal :=
  (newAppeal walletEntry sampleAppeal (numbered 0)).decided reviewer (sampleDecision none) 0

/-- An appeal that has been accepted, which somebody reviews and decides on again. -/
def sampleDecided : Store :=
  { sampleStore with appeals := sampleStore.appeals.add sampleAccepted rfl }

theorem decision_final_sample :
    sampleAccepted ∈ (sampleRun (sampleCalls (some true)) sampleDecided).shared.appeals.rows :=
  decision_final (s := sampleDecided) List.mem_cons_self (by decide) (sampleRun_run _ _)

end Runs

end RegistryAppeals
