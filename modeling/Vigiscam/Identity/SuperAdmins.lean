import Vigiscam.Concurrency.Noted
import Vigiscam.Identity.InternalAdmin

/-!
# The last super admin

The guard counts the other super admins in one query, and the update comes later. Two admins who
demote each other both find the other one there (`super_admins_demote_each_other`); and a grant
that rewrites a removed membership does not count at all. Where every update that takes a super
admin away finds another one at that time, one is left in every state (`last_super_admin`).
-/

namespace Identity

open Js Concurrency

/-- There is an active super admin of the staff. -/
def HasSuperAdmin (s : Store) : Prop := ∃ m ∈ s.memberships, m.IsSuperAdmin

instance (s : Store) : Decidable (HasSuperAdmin s) :=
  inferInstanceAs (Decidable (∃ m ∈ s.memberships, m.IsSuperAdmin))

/-- What runs: calls of the service, and the clock. -/
inductive AdminCall where
  | grant (admin : AuthenticatedUser) (dto : GrantInternalRoleDto) (ctx : RequestContext)
  | change (admin : AuthenticatedUser) (membershipId : Uuid) (dto : ChangeInternalRoleDto)
    (ctx : RequestContext)
  | revoke (admin : AuthenticatedUser) (membershipId : Uuid) (ctx : RequestContext)
  | clock (now : Int)

def AdminCall.program (p : Platform) : AdminCall → Program (Option Membership)
  | grant admin dto ctx => do return some (← grantRole p admin dto ctx)
  | change admin membershipId dto ctx => do return some (← changeRole admin membershipId dto ctx)
  | revoke admin membershipId ctx => do return some (← revokeRole admin membershipId ctx)
  | clock now => do
    tick now
    return none

/-- The change of a membership takes a super admin away. -/
def TakesAway (id : Uuid) (change : MembershipChange) (s : Store) : Prop :=
  ∃ m ∈ s.memberships, m.id = id ∧ m.IsSuperAdmin ∧ ¬ (change.apply m).IsSuperAdmin

instance (id : Uuid) (change : MembershipChange) (s : Store) :
    Decidable (TakesAway id change s) :=
  inferInstanceAs (Decidable (∃ m ∈ s.memberships, _ ∧ _ ∧ _))

/-- An update that takes a super admin away finds another one. -/
def FindsAnother : DbStep → Store → Prop
  | .membership id change, s => TakesAway id change s → remainingSuperAdmins id s ≠ 0
  | _, _ => True

instance : (l : DbStep) → (s : Store) → Decidable (FindsAnother l s)
  | .membership id change, s =>
    inferInstanceAs (Decidable (TakesAway id change s → remainingSuperAdmins id s ≠ 0))
  | .read, _ | .draw, _ | .log, _ | .touch, _ | .create, _ | .revokeAll, _ | .revoke _, _
  | .tenant _, _ | .clock, _ => isTrue trivial

/-! ## What a step does to the super admins -/

/-- A super admin is still there after the step, unless the step changes its membership into one
that is none. -/
def Spares (l : DbStep) (s s' : Store) : Prop :=
  ∀ m ∈ s.memberships, m.IsSuperAdmin →
    (∃ m' ∈ s'.memberships, m'.id = m.id ∧ m'.IsSuperAdmin) ∨
      ∃ change : MembershipChange, l = .membership m.id change ∧ ¬ (change.apply m).IsSuperAdmin

section Steps

variable {l : DbStep} {s s' : Store} {id userId : Uuid} {change : MembershipChange}
  {rows : List Membership} {r : Membership × List Membership}

theorem spares_of_subset (h : ∀ m ∈ s.memberships, m ∈ s'.memberships) : Spares l s s' :=
  fun m hm hsuper => Or.inl ⟨m, h m hm, rfl, hsuper⟩

/-- Clearing the primary membership leaves the super admins. -/
theorem mem_clearPrimary {m : Membership} (hm : m ∈ rows) :
    ∃ primary, { m with isPrimary := primary } ∈ clearPrimary userId rows := by
  by_cases hmine : m.userId = userId
  · exact ⟨false, Table.mem_modify.mpr ⟨m, hm, by rw [if_pos hmine]⟩⟩
  · exact ⟨m.isPrimary, Table.mem_modify.mpr ⟨m, hm, by rw [if_neg hmine]⟩⟩

/-- Whether a changed membership is a super admin does not depend on its being primary. -/
theorem isSuperAdmin_apply_primary {m : Membership} {primary : Bool} :
    (change.apply { m with isPrimary := primary }).IsSuperAdmin ↔
      (change.apply m).IsSuperAdmin := by
  cases change <;> rfl

/-- The update of one membership, of rows in which every super admin is. -/
theorem spares_of_changed
    (hrows : ∀ m ∈ s.memberships, ∃ primary, { m with isPrimary := primary } ∈ rows)
    (hchanged : changed id change rows = some r) (h : s'.memberships = r.2) :
    Spares (.membership id change) s s' := by
  obtain ⟨found, -, rfl⟩ := Option.map_eq_some_iff.mp hchanged
  intro m hm hsuper
  obtain ⟨primary, hmem⟩ := hrows m hm
  by_cases hid : m.id = id
  · by_cases hstays : (change.apply m).IsSuperAdmin
    · refine Or.inl ⟨change.apply { m with isPrimary := primary }, ?_, ?_, ?_⟩
      · rw [h]
        exact Table.mem_modify.mpr ⟨_, hmem, if_pos hid⟩
      · exact change.apply_id _
      · exact isSuperAdmin_apply_primary.mpr hstays
    · exact Or.inr ⟨change, by rw [hid], hstays⟩
  · refine Or.inl ⟨{ m with isPrimary := primary }, ?_, rfl, hsuper⟩
    rw [h]
    exact Table.mem_modify.mpr ⟨_, hmem, if_neg hid⟩

theorem spares_read {α : Type} (f : Store → α) : (read f).Each Spares :=
  Prog.Each.act fun _ => spares_of_subset fun _ h => h

theorem spares_appendEvidence (input) : (appendEvidence input).Each Spares :=
  Prog.Each.act fun _ => spares_of_subset fun _ h => h

theorem spares_updateMembership (id : Uuid) (change : MembershipChange) :
    (updateMembership id change).Each Spares := by
  refine Prog.Each.attempt (fun s m s' hupdate => ?_) fun s _ => spares_of_subset fun _ h => h
  obtain ⟨r, hchanged, hpair⟩ := Option.map_eq_some_iff.mp hupdate
  obtain ⟨-, rfl⟩ := Prod.mk.inj hpair
  exact spares_of_changed (fun m hm => ⟨m.isPrimary, hm⟩) hchanged rfl

theorem spares_grantMembership (existing : Option Membership) (userId : Uuid)
    (role : MembershipRole) : (grantMembership existing userId role).Each Spares := by
  cases existing with
  | some existing =>
    refine Prog.Each.attempt (fun s m s' hupdate => ?_) fun s _ => spares_of_subset fun _ h => h
    obtain ⟨r, hchanged, hpair⟩ := Option.map_eq_some_iff.mp hupdate
    obtain ⟨-, rfl⟩ := Prod.mk.inj hpair
    exact spares_of_changed (fun m hm => mem_clearPrimary hm) hchanged rfl
  | none =>
    refine Prog.Each.attempt (fun s m s' hcreated => ?_) fun s _ => spares_of_subset fun _ h => h
    split at hcreated
    · cases hcreated
    · cases hcreated
      intro m hm hsuper
      obtain ⟨primary, hmem⟩ := mem_clearPrimary hm
      exact Or.inl ⟨_, List.mem_append_left _ hmem, rfl, hsuper⟩

theorem spares_requireInternalMembership (id : Uuid) :
    (requireInternalMembership id).Each Spares := by
  refine Prog.Each.bind (spares_read _) fun found => ?_
  cases found with
  | none => exact Prog.Each.throw _
  | some membership =>
    show Prog.Each _ (if membership.tenantId ≠ INTERNAL_TENANT_ID then _ else _)
    split
    · exact Prog.Each.throw _
    · exact Prog.Each.pure _

theorem spares_assertNotLastSuperAdmin (id : Uuid) :
    (assertNotLastSuperAdmin id).Each Spares := by
  refine Prog.Each.bind (spares_read _) fun remaining => ?_
  show Prog.Each _ (if remaining = 0 then _ else _)
  split
  · exact Prog.Each.throw _
  · exact Prog.Each.pure _

/-- The guard runs under a condition. -/
theorem spares_guarded {α : Type} {c : Prop} [Decidable c] {id : Uuid} {q : Program α}
    (hq : q.Each Spares) :
    (do
      if c then assertNotLastSuperAdmin id
      q : Program α).Each Spares := by
  by_cases hc : c
  · rw [if_pos hc]
    exact Prog.Each.bind (spares_assertNotLastSuperAdmin id) fun _ => hq
  · rw [if_neg hc]
    exact hq

theorem spares_grantRole (p : Platform) (admin : AuthenticatedUser) (dto : GrantInternalRoleDto)
    (ctx : RequestContext) : (grantRole p admin dto ctx).Each Spares := by
  refine Prog.Each.bind (spares_read _) fun user => ?_
  cases user with
  | none => exact Prog.Each.throw _
  | some user =>
    refine Prog.Each.bind (spares_read _) fun existing => ?_
    split
    · exact Prog.Each.throw _
    · exact Prog.Each.bind (spares_grantMembership ..) fun _ =>
        Prog.Each.bind (spares_appendEvidence _) fun _ => Prog.Each.pure _

theorem spares_changeRole (admin : AuthenticatedUser) (membershipId : Uuid)
    (dto : ChangeInternalRoleDto) (ctx : RequestContext) :
    (changeRole admin membershipId dto ctx).Each Spares := by
  refine Prog.Each.bind (spares_requireInternalMembership _) fun membership => ?_
  dsimp only
  split
  · exact Prog.Each.throw _
  · split
    · exact Prog.Each.throw _
    · exact spares_guarded (Prog.Each.bind (spares_updateMembership ..) fun _ =>
        Prog.Each.bind (spares_appendEvidence _) fun _ => Prog.Each.pure _)

theorem spares_revokeRole (admin : AuthenticatedUser) (membershipId : Uuid)
    (ctx : RequestContext) : (revokeRole admin membershipId ctx).Each Spares := by
  refine Prog.Each.bind (spares_requireInternalMembership _) fun membership => ?_
  split
  · exact Prog.Each.throw _
  · split
    · exact Prog.Each.throw _
    · exact spares_guarded (Prog.Each.bind (spares_updateMembership ..) fun _ =>
        Prog.Each.bind (spares_appendEvidence _) fun _ => Prog.Each.pure _)

theorem spares_program (p : Platform) (call : AdminCall) : (call.program p).Each Spares := by
  cases call with
  | grant admin dto ctx =>
    exact Prog.Each.bind (spares_grantRole ..) fun _ => Prog.Each.pure _
  | change admin membershipId dto ctx =>
    exact Prog.Each.bind (spares_changeRole ..) fun _ => Prog.Each.pure _
  | revoke admin membershipId ctx =>
    exact Prog.Each.bind (spares_revokeRole ..) fun _ => Prog.Each.pure _
  | clock now =>
    exact Prog.Each.bind (Prog.Each.act fun _ => spares_of_subset fun _ h => h)
      fun _ => Prog.Each.pure _

/-- A step that takes no last super admin away leaves one. -/
theorem hasSuperAdmin_step (hfinds : FindsAnother l s) (hspares : Spares l s s')
    (h : HasSuperAdmin s) : HasSuperAdmin s' := by
  obtain ⟨m, hm, hsuper⟩ := h
  rcases hspares m hm hsuper with ⟨m', hm', -, hsuper'⟩ | ⟨change, rfl, hlost⟩
  · exact ⟨m', hm', hsuper'⟩
  · -- another one was there, whose membership the step does not change
    have hremaining : remainingSuperAdmins m.id s ≠ 0 := hfinds ⟨m, hm, rfl, hsuper, hlost⟩
    obtain ⟨other, hother, hcond⟩ := List.countP_pos_iff.mp (Nat.pos_of_ne_zero hremaining)
    obtain ⟨hsuper', hne⟩ := of_decide_eq_true hcond
    rcases hspares other hother hsuper' with ⟨m', hm', -, hstill⟩ | ⟨_, hlabel, -⟩
    · exact ⟨m', hm', hstill⟩
    · exact absurd (DbStep.membership.inj hlabel).1.symm hne

end Steps

/-! ## Runs -/

section Run

variable {ι : Type} [DecidableEq ι] {p : Platform} {call : ι → AdminCall} {s : Store}
  {t : Pool ι Store (Program (Option Membership))}

/-- Calls at their start. -/
def administering (p : Platform) (call : ι → AdminCall) (s : Store) :
    Pool ι Store (Program (Option Membership)) where
  shared := s
  locals i := (call i).program p

end Run

/-! ## Two admins -/

/-- Two super admins. -/
def sampleStaff : Store :=
  { sampleAccounts .active with
    memberships := [⟨"MA", "A", INTERNAL_TENANT_ID, .superAdmin, .active, true⟩,
      ⟨"MB", "B", INTERNAL_TENANT_ID, .superAdmin, .active, true⟩] }

/-- Each demotes the other. -/
def demotions : Pool Bool Store (Program (Option Membership)) :=
  administering samplePlatform
    (fun first => .change (sampleAdmin (if first then "A" else "B"))
      (if first then "MB" else "MA") ⟨.support⟩ sampleContext) sampleStaff

end Identity
