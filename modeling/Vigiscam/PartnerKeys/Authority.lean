import Vigiscam.Concurrency.Contract
import Vigiscam.PartnerKeys.Service

/-!
# Who acts as a partner (`partner-key.service.ts`, `api-key.guard.ts`)

Issuing, re-tiering and revoking a key interleave with the requests that present it, and with the
suspension of tenants. Whatever the interleaving, a row of the key table keeps its hash and its
tenant, and once it is revoked it stays so: each administrator writes the columns of its own
change only, so that a re-tiering that has read an active key cannot bring a revoked one back
(`revocation_final`). And every request that is admitted acts as the tenant that its key was
issued to, an institution (`admitted_authority`).
-/

namespace PartnerKeys

open Js Concurrency Identity

/-! ## What happens to the rows -/

/-- What a key keeps. -/
structure Stays (key key' : PartnerApiKey) : Prop where
  id : key'.id = key.id
  keyHash : key'.keyHash = key.keyHash
  tenantId : key'.tenantId = key.tenantId
  revoked : key.status = .revoked → key'.status = .revoked

theorem Stays.refl (key : PartnerApiKey) : Stays key key := ⟨rfl, rfl, rfl, fun h => h⟩

theorem Stays.trans {a b c : PartnerApiKey} (h : Stays a b) (h' : Stays b c) : Stays a c where
  id := h'.id.trans h.id
  keyHash := h'.keyHash.trans h.keyHash
  tenantId := h'.tenantId.trans h.tenantId
  revoked hrevoked := h'.revoked (h.revoked hrevoked)

/-- The rows of the key table stay in their places, and so do the tenants with their types; new
keys come last. -/
structure Ahead (x y : Store) : Prop where
  keys : ∃ f new, y.apiKeys = x.apiKeys.map f ++ new ∧ ∀ key, Stays key (f key)
  tenants : ∃ g, y.tenants = x.tenants.map g ∧
    ∀ tenant, (g tenant).id = tenant.id ∧ (g tenant).type = tenant.type

theorem closed_ahead : Closed Ahead where
  refl s := ⟨⟨id, [], by simp, Stays.refl⟩, ⟨id, by simp, fun _ => ⟨rfl, rfl⟩⟩⟩
  trans := by
    rintro s t u ⟨⟨f, new, hkeys, hf⟩, g, htenants, hg⟩
      ⟨⟨f', new', hkeys', hf'⟩, g', htenants', hg'⟩
    refine ⟨⟨f' ∘ f, new.map f' ++ new', ?_, fun key => (hf key).trans (hf' _)⟩, g' ∘ g, ?_,
      fun tenant => ⟨(hg' _).1.trans (hg _).1, (hg' _).2.trans (hg _).2⟩⟩
    · rw [hkeys', hkeys]
      simp
    · rw [htenants', htenants]
      simp

/-- A key is found again by a column that it keeps. -/
theorem Ahead.find {κ : Type} [DecidableEq κ] {column : PartnerApiKey → κ} {k : κ} {x y : Store}
    {key : PartnerApiKey} (h : Ahead x y)
    (hcolumn : ∀ key key', Stays key key' → column key' = column key)
    (hfind : Table.find column k x.apiKeys = some key) :
    ∃ key', Table.find column k y.apiKeys = some key' ∧ Stays key key' := by
  obtain ⟨f, new, hkeys, hf⟩ := h.keys
  refine ⟨f key, ?_, hf key⟩
  rw [hkeys]
  refine Table.find_append_of_find ?_
  rw [Table.find_map fun key => hcolumn _ _ (hf key), hfind]
  rfl

/-- The tenant is one that may hold keys. -/
def Institution (tenantId : Uuid) (s : Store) : Prop :=
  ∃ tenant ∈ s.tenants, tenant.id = tenantId ∧ tenant.type ∈ ELIGIBLE_TENANT_TYPES

theorem Institution.ahead {tenantId : Uuid} {x y : Store} (h : Institution tenantId x)
    (hxy : Ahead x y) : Institution tenantId y := by
  obtain ⟨tenant, hmem, hid, htype⟩ := h
  obtain ⟨g, htenants, hg⟩ := hxy.tenants
  refine ⟨g tenant, htenants ▸ List.mem_map_of_mem hmem, (hg tenant).1.trans hid, ?_⟩
  rwa [(hg tenant).2]

/-- Hashes are unique, and keys are those of institutions. -/
structure WellFormed (s : Store) : Prop where
  hashes : (s.apiKeys.map PartnerApiKey.keyHash).Nodup
  institutions : ∀ key ∈ s.apiKeys, Institution key.tenantId s

/-- No row is new. -/
structure Holds (x y : Store) : Prop where
  keys : ∃ f, y.apiKeys = x.apiKeys.map f ∧ ∀ key, Stays key (f key)
  tenants : ∃ g, y.tenants = x.tenants.map g ∧
    ∀ tenant, (g tenant).id = tenant.id ∧ (g tenant).type = tenant.type

theorem Holds.ahead {x y : Store} (h : Holds x y) : Ahead x y := by
  obtain ⟨f, hkeys, hf⟩ := h.keys
  exact ⟨⟨f, [], by simp [hkeys], hf⟩, h.tenants⟩

theorem Holds.same {x y : Store} (hkeys : y.apiKeys = x.apiKeys)
    (htenants : y.tenants = x.tenants) : Holds x y :=
  ⟨⟨id, by simp [hkeys], Stays.refl⟩, ⟨id, by simp [htenants], fun _ => ⟨rfl, rfl⟩⟩⟩

theorem Holds.wellFormed {x y : Store} (h : Holds x y) (hx : WellFormed x) : WellFormed y := by
  obtain ⟨f, hkeys, hf⟩ := h.keys
  refine ⟨?_, fun key hkey => ?_⟩
  · have hsame : y.apiKeys.map PartnerApiKey.keyHash = x.apiKeys.map PartnerApiKey.keyHash := by
      rw [hkeys, List.map_map]
      exact List.map_congr_left fun key _ => (hf key).keyHash
    rw [hsame]
    exact hx.hashes
  · rw [hkeys] at hkey
    obtain ⟨key, hmem, rfl⟩ := List.mem_map.mp hkey
    rw [(hf key).tenantId]
    exact (hx.institutions key hmem).ahead h.ahead

/-- A process may take any step, relies on `Ahead` and guarantees it. -/
def anywhere : Contract Store DbStep where
  may _ _ := True
  rely := Ahead
  guar := Ahead

theorem Holds.within {x y : Store} (h : Holds x y) (hx : WellFormed x) :
    Prog.Within WellFormed anywhere x y ∧ Ahead x y :=
  ⟨⟨h.wellFormed hx, h.ahead⟩, h.ahead⟩

/-! ## What the programs do -/

section Programs

variable {p : Platform}

/-- No step of the program makes a row. -/
abbrev HoldsRows {α : Type} (q : Program α) : Prop := q.Each fun _ x y => Holds x y

theorem holdsRows_read {α : Type} (f : Store → α) : HoldsRows (read f) :=
  Prog.Each.act fun _ => .same rfl rfl

/-- A key is changed in its place. -/
theorem Holds.modify {f : PartnerApiKey → PartnerApiKey} {keyId : Uuid} {x y : Store}
    (hf : ∀ key, Stays key (f key))
    (hkeys : y.apiKeys = Table.modify PartnerApiKey.id keyId f x.apiKeys)
    (htenants : y.tenants = x.tenants) : Holds x y := by
  refine ⟨⟨_, hkeys, fun key => ?_⟩, ⟨id, by simp [htenants], fun _ => ⟨rfl, rfl⟩⟩⟩
  split
  · exact hf key
  · exact .refl key

theorem holdsRows_touchKey (keyId : Uuid) : HoldsRows (touchKey keyId) := by
  refine Prog.Each.attempt (fun s u s' htouch => ?_) fun _ _ => .same rfl rfl
  obtain ⟨_, -, hpair⟩ := Option.map_eq_some_iff.mp htouch
  obtain ⟨-, rfl⟩ := Prod.mk.inj hpair
  refine .modify (f := fun key => { key with lastUsedAt := some s.now }) (fun key => ?_) rfl rfl
  exact ⟨rfl, rfl, rfl, fun h => h⟩

theorem stays_apply (change : KeyChange) (key : PartnerApiKey) : Stays key (change.apply key) := by
  refine ⟨change.apply_id key, change.apply_keyHash key, change.apply_tenantId key, fun h => ?_⟩
  cases change with
  | plan newPlan => exact h
  | revoked => rfl

theorem holdsRows_updateKey (keyId : Uuid) (change : KeyChange) :
    HoldsRows (updateKey keyId change) := by
  refine Prog.Each.attempt (fun s u s' hupdate => ?_) fun _ _ => .same rfl rfl
  obtain ⟨_, -, hpair⟩ := Option.map_eq_some_iff.mp hupdate
  obtain ⟨-, rfl⟩ := Prod.mk.inj hpair
  exact .modify (stays_apply change) rfl rfl

theorem holdsRows_appendEvidence (input : EvidenceVault.AppendEvidenceInput) :
    HoldsRows (appendEvidence input) :=
  Prog.Each.act fun _ => .same rfl rfl

theorem holdsRows_countRequest (keyId : Uuid) (date : Int) :
    HoldsRows (countRequest keyId date) :=
  Prog.Each.act fun _ => .same rfl rfl

theorem holdsRows_bestEffort {q : Program Unit} (h : HoldsRows q) : HoldsRows (bestEffort q) :=
  h.tryCatch fun _ => Prog.Each.pure _

theorem holdsRows_checkQuota (key : PartnerApiKey) (today : Int) :
    HoldsRows (checkQuota p key today) := by
  rw [checkQuota]
  cases DAILY_LIMITS key.plan with
  | none => exact Prog.Each.pure _
  | some l =>
    refine Prog.Each.bind (holdsRows_read _) fun count => ?_
    split
    · exact Prog.Each.throw _
    · exact Prog.Each.pure _

theorem holdsRows_updatePlan (actor : AuthenticatedUser) (keyId : Uuid) (plan : PartnerApiKeyPlan)
    (ctx : RequestContext) : HoldsRows (updatePlan actor keyId plan ctx) := by
  refine Prog.Each.bind (holdsRows_read _) fun key => ?_
  cases key with
  | none => exact Prog.Each.throw _
  | some key =>
    dsimp only
    split
    · exact Prog.Each.bind (holdsRows_read _) fun _ => Prog.Each.pure _
    · exact Prog.Each.bind (holdsRows_updateKey keyId _) fun _ =>
        Prog.Each.bind (holdsRows_appendEvidence _) fun _ => Prog.Each.pure _

theorem holdsRows_updateTenantStatus (tenantId : Uuid) (status : TenantStatus) :
    HoldsRows (updateTenantStatus tenantId status) := by
  refine Prog.Each.attempt (fun s t s' hupdate => ?_) fun _ _ => .same rfl rfl
  obtain ⟨_, -, hpair⟩ := Option.map_eq_some_iff.mp hupdate
  obtain ⟨-, rfl⟩ := Prod.mk.inj hpair
  refine ⟨⟨id, by simp [Store.setTenant], Stays.refl⟩, ⟨_, rfl, fun tenant => ?_⟩⟩
  split <;> exact ⟨rfl, rfl⟩

theorem holdsRows_setTenantStatus (admin : AuthenticatedUser) (tenantId : Uuid)
    (dto : SetTenantStatusDto) (ctx : RequestContext) :
    HoldsRows (setTenantStatus admin tenantId dto ctx) := by
  refine Prog.Each.bind (holdsRows_read _) fun tenant => ?_
  cases tenant with
  | none => exact Prog.Each.throw _
  | some tenant =>
    dsimp only
    split
    · exact Prog.Each.throw _
    · split
      · exact Prog.Each.throw _
      · exact Prog.Each.bind (holdsRows_updateTenantStatus tenantId dto.status) fun _ =>
          Prog.Each.bind (holdsRows_appendEvidence _) fun _ => Prog.Each.pure _

/-! ## What the programs ensure -/

variable {α : Type} {post : α → Store → Prop} {s : Store}

/-- A program that makes no row brings about what holds already. -/
theorem HoldsRows.ensures {q : Program α} (h : HoldsRows q) (hpost : ∀ a t, Ahead s t → post a t) :
    q.Ensures WellFormed anywhere post s :=
  Prog.Ensures.each closed_ahead (h.mono fun _ _ _ hxy hx => hxy.within hx) hpost

theorem HoldsRows.ensures_bind {β : Type} {q : Program β} {k : β → Program α} (h : HoldsRows q)
    (hk : ∀ b t, Ahead s t → (k b).Ensures WellFormed anywhere post t) :
    (q >>= k).Ensures WellFormed anywhere post s :=
  Prog.Ensures.each_bind closed_ahead (h.mono fun _ _ _ hxy hx => hxy.within hx) hk

/-- A step that reads goes on with what it has read. -/
theorem ensures_read_bind {β : Type} {f : Store → β} {k : β → Program α}
    (h : ∀ t, Ahead s t → WellFormed t → (k (f t)).Ensures WellFormed anywhere post t) :
    (read f >>= k).Ensures WellFormed anywhere post s :=
  Prog.Ensures.act_bind fun t hst ht _ =>
    ⟨((Holds.same rfl rfl : Holds t t).within ht).1, h t hst ht⟩

/-- A new key is that of an institution. -/
theorem within_createKey {dto : CreatePartnerKeyDto} {key : RawKey} {x : Store}
    (hx : WellFormed x) (hdto : Institution dto.tenantId x)
    (hnew : key.hash ∉ x.apiKeys.map PartnerApiKey.keyHash) :
    Prog.Within WellFormed anywhere x { x.issue.2 with
      apiKeys := x.apiKeys ++ [newKey dto key x.issue.1] } := by
  have hahead : Ahead x { x.issue.2 with
      apiKeys := x.apiKeys ++ [newKey dto key x.issue.1] } :=
    ⟨⟨id, [newKey dto key x.issue.1], by simp, Stays.refl⟩,
      ⟨id, by simp [Store.issue], fun _ => ⟨rfl, rfl⟩⟩⟩
  refine ⟨⟨Table.nodup_append_new hx.hashes hnew, fun row hrow => ?_⟩, hahead⟩
  rcases List.mem_append.mp hrow with hold | hnew
  · exact (hx.institutions row hold).ahead hahead
  · obtain rfl := List.mem_singleton.mp hnew
    exact hdto.ahead hahead

theorem ensures_issueKey (actor : AuthenticatedUser) (dto : CreatePartnerKeyDto)
    (ctx : RequestContext) :
    (issueKey p actor dto ctx).Ensures WellFormed anywhere (fun _ _ => True) s := by
  refine ensures_read_bind fun t _ _ => ?_
  cases hfind : Table.find Tenant.id dto.tenantId t.tenants with
  | none => trivial
  | some tenant =>
    dsimp only
    split
    · trivial
    · rename_i htype
      have hdto : Institution dto.tenantId t :=
        ⟨tenant, Table.mem_of_find hfind, Table.key_of_find hfind, not_not.mp htype⟩
      refine HoldsRows.ensures_bind (Prog.Each.act fun _ => .same rfl rfl) fun key u htu => ?_
      refine Prog.Ensures.attempt_bind (fun v record w huv hv _ hcreate => ?_) fun v _ hv _ _ =>
        ((Holds.same rfl rfl : Holds v v).within hv).1
      have hinstitution := (hdto.ahead htu).ahead huv
      split at hcreate
      · cases hcreate
      · rename_i hnew
        obtain ⟨rfl, rfl⟩ := Prod.mk.inj (Option.some.inj hcreate)
        refine ⟨within_createKey hv hinstitution hnew, ?_⟩
        exact HoldsRows.ensures_bind (holdsRows_appendEvidence _) fun _ _ _ _ _ => trivial

/-- The key of the id is revoked. -/
def RevokedKey (keyId : Uuid) (s : Store) : Prop :=
  ∃ key, Table.find PartnerApiKey.id keyId s.apiKeys = some key ∧ key.status = .revoked

theorem RevokedKey.ahead {keyId : Uuid} {x y : Store} (h : RevokedKey keyId x) (hxy : Ahead x y) :
    RevokedKey keyId y := by
  obtain ⟨key, hfind, hrevoked⟩ := h
  obtain ⟨key', hfind', hstays⟩ := hxy.find (fun _ _ h => h.id) hfind
  exact ⟨key', hfind', hstays.revoked hrevoked⟩

/-- **A key is revoked** once its revocation has returned. -/
theorem ensures_revokeKey (actor : AuthenticatedUser) (keyId : Uuid) (ctx : RequestContext) :
    (revokeKey actor keyId ctx).Ensures WellFormed anywhere (fun _ t => RevokedKey keyId t) s := by
  refine ensures_read_bind fun t _ _ => ?_
  cases hfind : Table.find PartnerApiKey.id keyId t.apiKeys with
  | none => trivial
  | some key =>
    dsimp only
    split
    · rename_i hrevoked
      have hdone : RevokedKey keyId t := ⟨key, hfind, hrevoked⟩
      exact HoldsRows.ensures_bind (holdsRows_read _) fun _ u htu =>
        Prog.Ensures.pure fun v huv => (hdone.ahead htu).ahead huv
    · refine Prog.Ensures.attempt_bind (fun u safe v _ hu _ hupdate => ?_) fun u _ hu _ _ =>
        ((Holds.same rfl rfl : Holds u u).within hu).1
      obtain ⟨row, hrow, hpair⟩ := Option.map_eq_some_iff.mp hupdate
      obtain ⟨-, rfl⟩ := Prod.mk.inj hpair
      have hholds : Holds u { u with
          apiKeys := Table.modify PartnerApiKey.id keyId KeyChange.revoked.apply u.apiKeys } :=
        .modify (stays_apply .revoked) rfl rfl
      have hdone : RevokedKey keyId { u with
          apiKeys := Table.modify PartnerApiKey.id keyId KeyChange.revoked.apply u.apiKeys } := by
        refine ⟨KeyChange.revoked.apply row, ?_, rfl⟩
        exact (Table.find_modify_self fun key => KeyChange.apply_id _ key).trans (by rw [hrow]; rfl)
      refine ⟨(hholds.within hu).1, ?_⟩
      exact HoldsRows.ensures_bind (holdsRows_appendEvidence _) fun _ w huw =>
        Prog.Ensures.pure fun w' hw => (hdone.ahead huw).ahead hw

theorem ensures_admin (call : AdminCall) :
    (call.program p).Ensures WellFormed anywhere (fun _ t => ∀ actor keyId ctx,
      call = .revoke actor keyId ctx → RevokedKey keyId t) s := by
  cases call with
  | issue actor dto ctx =>
    refine Prog.Ensures.bind closed_ahead (ensures_issueKey actor dto ctx) fun _ _ _ _ _ => ?_
    rintro _ _ _ ⟨⟩
  | updatePlan actor keyId plan ctx =>
    refine (holdsRows_updatePlan actor keyId plan ctx).ensures_bind fun _ _ _ _ _ => ?_
    rintro _ _ _ ⟨⟩
  | revoke actor keyId ctx =>
    refine Prog.Ensures.bind closed_ahead (ensures_revokeKey actor keyId ctx)
      fun _ t ht u htu => ?_
    rintro _ _ _ ⟨⟩
    exact ht.ahead htu
  | list tenantId =>
    refine (holdsRows_read _).ensures_bind fun _ _ _ _ _ => ?_
    rintro _ _ _ ⟨⟩
  | setStatus admin tenantId dto ctx =>
    refine (holdsRows_setTenantStatus admin tenantId dto ctx).ensures_bind fun _ _ _ _ _ => ?_
    rintro _ _ _ ⟨⟩

/-- An administrator who is done has revoked the keys of his calls. -/
theorem ensures_manage (calls : List AdminCall) :
    (manage p calls).Ensures WellFormed anywhere (fun _ t => ∀ actor keyId ctx,
      .revoke actor keyId ctx ∈ calls → RevokedKey keyId t) s := by
  induction calls generalizing s with
  | nil => exact fun t _ actor keyId ctx hmem => absurd hmem List.not_mem_nil
  | cons call rest ih =>
    refine Prog.Ensures.bind closed_ahead (ensures_admin call) fun _ t hcall => ?_
    refine ((ih (s := t)).frame closed_ahead (fun _ _ h => h) fun _ _ h => h).mono ?_
    rintro _ u ⟨hrest, htu⟩ actor keyId ctx hmem
    rcases List.mem_cons.mp hmem with hfirst | hmem
    · exact (hcall actor keyId ctx hfirst.symm).ahead htu
    · exact hrest actor keyId ctx hmem

/-- The principal acts by a key of its tenant, whose raw form one of the requests carries. -/
def Authority (p : Platform) (requests : List PartnerRequest) (principal : PartnerPrincipal)
    (s : Store) : Prop :=
  Institution principal.tenantId s ∧ ∃ request ∈ requests, ∃ raw,
    present (extractKey request.header) = some raw ∧
    ∃ key, Table.find PartnerApiKey.keyHash (p.sha256 raw) s.apiKeys = some key ∧
      key.id = principal.keyId ∧ key.tenantId = principal.tenantId

theorem Authority.ahead {requests : List PartnerRequest} {principal : PartnerPrincipal}
    {x y : Store} (h : Authority p requests principal x) (hxy : Ahead x y) :
    Authority p requests principal y := by
  obtain ⟨hinstitution, request, hrequest, raw, hraw, key, hfind, hid, htenant⟩ := h
  obtain ⟨key', hfind', hstays⟩ := hxy.find (fun _ _ h => h.keyHash) hfind
  exact ⟨hinstitution.ahead hxy, request, hrequest, raw, hraw, key', hfind',
    hstays.id.trans hid, hstays.tenantId.trans htenant⟩

theorem Authority.mono {requests requests' : List PartnerRequest} {principal : PartnerPrincipal}
    (h : Authority p requests principal s) (hsub : requests ⊆ requests') :
    Authority p requests' principal s := by
  obtain ⟨hinstitution, request, hrequest, hkey⟩ := h
  exact ⟨hinstitution, request, hsub hrequest, hkey⟩

/-- **A request that is admitted** carries a key of an institution. -/
theorem ensures_canActivate (request : PartnerRequest) :
    (canActivate p request).Ensures WellFormed anywhere
      (fun principal t => Authority p [request] principal t) s := by
  rw [canActivate]
  cases hraw : present (extractKey request.header) with
  | none => trivial
  | some raw =>
    refine ensures_read_bind fun t _ ht => ?_
    dsimp only
    cases hfind : Table.find PartnerApiKey.keyHash (p.sha256 raw) t.apiKeys with
    | none => trivial
    | some key =>
      dsimp only
      cases checkKey request.required t.now key with
      | error e => trivial
      | ok _ =>
        have hauthority : Authority p [request] ⟨key.id, key.tenantId, key.keyPrefix⟩ t :=
          ⟨ht.institutions key (Table.mem_of_find hfind), request, List.mem_singleton_self _, raw,
            hraw, key, hfind, rfl, rfl⟩
        refine (holdsRows_checkQuota key _).ensures_bind fun _ u htu => ?_
        refine (holdsRows_bestEffort (holdsRows_touchKey _)).ensures_bind fun _ v huv => ?_
        refine (holdsRows_bestEffort (holdsRows_countRequest _ _)).ensures_bind fun _ w hvw => ?_
        refine Prog.Ensures.pure fun x hwx => ?_
        exact (((hauthority.ahead htu).ahead huv).ahead hvw).ahead hwx

/-- The requests that a worker has admitted. -/
theorem ensures_serve (requests : List PartnerRequest) :
    (serve p requests).Ensures WellFormed anywhere
      (fun admitted t => ∀ principal ∈ admitted, Authority p requests principal t) s := by
  induction requests generalizing s with
  | nil => exact fun t _ principal hmem => absurd hmem List.not_mem_nil
  | cons request rest ih =>
    have hadmit : (letIn p request).Ensures WellFormed anywhere
        (fun admitted t => ∀ principal ∈ admitted, Authority p [request] principal t) s := by
      refine Prog.Ensures.tryCatch ?_ fun e t u _ principal hmem => absurd hmem List.not_mem_nil
      refine Prog.Ensures.bind closed_ahead (ensures_canActivate request) fun principal t ht => ?_
      refine Prog.Ensures.pure fun u htu principal' hmem => ?_
      obtain rfl := List.mem_singleton.mp hmem
      exact ht.ahead htu
    refine Prog.Ensures.bind closed_ahead hadmit fun first t hfirst => ?_
    refine Prog.Ensures.bind closed_ahead
      ((ih (s := t)).frame closed_ahead (fun _ _ h => h) fun _ _ h => h) ?_
    rintro others u ⟨hothers, htu⟩
    refine Prog.Ensures.pure fun v huv principal hmem => ?_
    rcases List.mem_append.mp hmem with hmem | hmem
    · exact ((hfirst principal hmem).ahead htu).ahead huv |>.mono (by simp)
    · exact ((hothers principal hmem).ahead huv).mono (by simp)

theorem ensures_tell (times : List Int) :
    (tell times).Ensures WellFormed anywhere (fun _ _ => True) s := by
  have hholds : HoldsRows (tell times) := by
    induction times with
    | nil => exact Prog.Each.pure _
    | cons now rest ih => exact Prog.Each.bind (Prog.Each.act fun _ => .same rfl rfl) fun _ => ih
  exact hholds.ensures fun _ _ _ => trivial

/-- What a process has brought about when it is done. -/
def Process.Done (p : Platform) : Process → List PartnerPrincipal → Store → Prop
  | serving requests, admitted, t => ∀ principal ∈ admitted, Authority p requests principal t
  | managing calls, _, t => ∀ actor keyId ctx, .revoke actor keyId ctx ∈ calls →
      RevokedKey keyId t
  | clock _, _, _ => True

theorem ensures_process (process : Process) :
    (process.program p).Ensures WellFormed anywhere (process.Done p) s := by
  cases process with
  | serving requests => exact ensures_serve requests
  | managing calls => exact ensures_manage calls
  | clock times => exact ensures_tell times

end Programs

/-! ## Runs -/

section Runs

variable {ι : Type} [DecidableEq ι] {p : Platform} {processes : ι → Process} {s : Store}
  {t u : Server ι} {i j : ι}

abbrev ServerRun : Server ι → Server ι → Prop := Pool.Run (Prog.interleaved fun _ _ => True)

/-- **The key table is well formed at every point of every run**, and every process brings about
what it ensures. -/
theorem run_server (hs : WellFormed s) (hrun : ServerRun (server p processes s) t) :
    WellFormed t.shared ∧
      ∀ i, (t.locals i).Ensures WellFormed anywhere ((processes i).Done p) t.shared :=
  Run.ensures (c := fun _ => anywhere) (fun i => (processes i).Done p) hrun
    (fun _ => closed_ahead) (fun _ => closed_ahead.refl) (fun _ _ _ _ _ h => h) hs
    fun i => ensures_process (processes i)

theorem done_of_returned {r : List PartnerPrincipal} (hs : WellFormed s)
    (hrun : ServerRun (server p processes s) t) (hreturned : Prog.returned (t.locals i) = some r) :
    (processes i).Done p r t.shared := by
  have hensures := (run_server hs hrun).2 i
  rw [Prog.eq_pure_of_returned hreturned] at hensures
  exact hensures t.shared (closed_ahead.refl _)

/-- **Authority of the partners**: in any interleaving, whoever is admitted acts as the tenant
that the key was issued to, which is an institution, and has presented the raw key. -/
theorem admitted_authority {requests : List PartnerRequest} {admitted : List PartnerPrincipal}
    (hs : WellFormed s) (hrun : ServerRun (server p processes s) t)
    (hi : processes i = .serving requests)
    (hreturned : Prog.returned (t.locals i) = some admitted) :
    ∀ principal ∈ admitted, Authority p requests principal t.shared := by
  have hdone := done_of_returned hs hrun hreturned
  rwa [hi] at hdone

theorem samplePartner_wellFormed : WellFormed samplePartner where
  hashes := by decide
  institutions key hkey := by
    obtain rfl := List.mem_singleton.mp hkey
    exact ⟨⟨"T", "Bank", .bank, .active⟩, by decide, rfl, by decide⟩

/-- A worker that serves one request, beside an administrator who revokes its key. -/
def sampleProcesses : Bool → Process
  | true => .serving [sampleRequest]
  | false => .managing [.revoke (sampleAdmin "A") "K" sampleContext]

def sampleServer : Server Bool := server samplePlatform sampleProcesses samplePartner

theorem admitted_authority_sample : Authority samplePlatform [sampleRequest] ⟨"K", "T", "vsk_"⟩
    (Prog.turns sampleServer [(true, 2), (false, 4), (true, 2)]).shared := by
  have hrun : ServerRun sampleServer (Prog.turns sampleServer [(true, 2), (false, 4), (true, 2)]) :=
    Prog.run_turns .refl (Prog.permittedTurns_true _ _)
  have hreturned : Prog.returned ((Prog.turns sampleServer
      [(true, 2), (false, 4), (true, 2)]).locals true) = some [⟨"K", "T", "vsk_"⟩] := rfl
  exact admitted_authority samplePartner_wellFormed hrun rfl hreturned _ (List.mem_singleton_self _)

/-- A raw key whose row is revoked. -/
def Barred (p : Platform) (raw : Text) (s : Store) : Prop :=
  ∃ key, Table.find PartnerApiKey.keyHash (p.sha256 raw) s.apiKeys = some key ∧
    key.status = .revoked

theorem Barred.ahead {raw : Text} {x y : Store} (h : Barred p raw x) (hxy : Ahead x y) :
    Barred p raw y := by
  obtain ⟨key, hfind, hrevoked⟩ := h
  obtain ⟨key', hfind', hstays⟩ := hxy.find (fun _ _ h => h.keyHash) hfind
  exact ⟨key', hfind', hstays.revoked hrevoked⟩

/-- The requests that carry no other key than this one. -/
def Carries (raw : Text) (requests : List PartnerRequest) : Prop :=
  ∀ request ∈ requests, ∀ raw', present (extractKey request.header) = some raw' → raw' = raw

/-- A request with a barred key is refused. -/
theorem canActivate_barred {raw : Text} {request : PartnerRequest}
    (hraw : ∀ raw', present (extractKey request.header) = some raw' → raw' = raw) :
    (canActivate p request).Ensures (fun s => WellFormed s ∧ Barred p raw s) anywhere
      (fun _ _ => False) s := by
  rw [canActivate]
  cases hheader : present (extractKey request.header) with
  | none => trivial
  | some raw' =>
    obtain rfl := hraw raw' hheader
    refine Prog.Ensures.act_bind fun t _ ht _ => ⟨⟨ht, closed_ahead.refl t⟩, ?_⟩
    obtain ⟨key, hfind, hrevoked⟩ := ht.2
    dsimp only
    rw [hfind]
    have hcheck : checkKey request.required t.now key =
        .error (.unauthorized "Invalid or revoked API key") :=
      if_pos (by rw [hrevoked]; decide)
    dsimp only
    rw [hcheck]
    trivial

theorem serve_barred {raw : Text} {requests : List PartnerRequest} (h : Carries raw requests) :
    (serve p requests).Ensures (fun s => WellFormed s ∧ Barred p raw s) anywhere
      (fun admitted _ => admitted = []) s := by
  induction requests generalizing s with
  | nil => exact fun t _ => rfl
  | cons request rest ih =>
    have hadmit : (letIn p request).Ensures (fun s => WellFormed s ∧ Barred p raw s) anywhere
        (fun admitted _ => admitted = []) s := by
      refine Prog.Ensures.tryCatch ?_ fun e t u _ => rfl
      exact Prog.Ensures.bind closed_ahead (canActivate_barred (h request List.mem_cons_self))
        fun _ _ hnone => hnone.elim
    refine Prog.Ensures.bind closed_ahead hadmit fun first t hfirst => ?_
    refine Prog.Ensures.bind closed_ahead
      (ih fun request hmem => h request (List.mem_cons_of_mem _ hmem)) fun others u hothers => ?_
    exact Prog.Ensures.pure fun v _ => by rw [hfirst, hothers]; rfl

/-- **Revocation is final**: once an administrator's revocation of a key has returned, no request
that carries the key and is served from then on is admitted, whatever was under way before. -/
theorem revocation_final {calls : List AdminCall} {actor : AuthenticatedUser} {keyId : Uuid}
    {ctx : RequestContext} {r admitted : List PartnerPrincipal} {key : PartnerApiKey} {raw : Text}
    {requests : List PartnerRequest} (hs : WellFormed s)
    (hbefore : ServerRun (server p processes s) u) (hj : processes j = .managing calls)
    (hrevoke : .revoke actor keyId ctx ∈ calls) (hdone : Prog.returned (u.locals j) = some r)
    (hkey : Table.find PartnerApiKey.id keyId u.shared.apiKeys = some key)
    (hraw : key.keyHash = p.sha256 raw) (hi : u.locals i = serve p requests)
    (hcarries : Carries raw requests) (hafter : ServerRun u t)
    (hreturned : Prog.returned (t.locals i) = some admitted) : admitted = [] := by
  obtain ⟨hwell, hlocals⟩ := run_server hs hbefore
  have hrevoked : RevokedKey keyId u.shared := by
    have hmanaged := done_of_returned hs hbefore hdone
    rw [hj] at hmanaged
    exact hmanaged actor keyId ctx hrevoke
  have hbarred : Barred p raw u.shared := by
    obtain ⟨row, hrow, hstatus⟩ := hrevoked
    obtain rfl := Option.some.inj (hkey.symm.trans hrow)
    exact ⟨key, (Table.find_eq_some_iff hwell.hashes).mpr ⟨Table.mem_of_find hkey, hraw⟩, hstatus⟩
  have hserved : ∀ k, (u.locals k).Ensures (fun s => WellFormed s ∧ Barred p raw s) anywhere
      (fun admitted _ => k = i → admitted = []) u.shared := by
    intro k
    by_cases hk : k = i
    · subst hk
      rw [hi]
      exact (serve_barred hcarries).mono fun _ _ h _ => h
    · exact ((hlocals k).keeping fun _ _ hxy hx => hx.ahead hxy).mono fun _ _ _ h => absurd h hk
  -- from here on the key is barred, and everybody keeps it so
  have hensures := (Run.ensures (c := fun _ => anywhere) (fun k admitted _ => k = i → admitted = [])
    hafter (fun _ => closed_ahead) (fun _ => closed_ahead.refl) (fun _ _ _ _ _ h => h)
    ⟨hwell, hbarred⟩ hserved).2 i
  rw [Prog.eq_pure_of_returned hreturned] at hensures
  exact hensures t.shared (closed_ahead.refl _) rfl

theorem sampleRequest_carries : Carries "first" [sampleRequest] := by
  intro request hrequest raw hraw
  obtain rfl := List.mem_singleton.mp hrequest
  have hfirst : present (extractKey sampleRequest.header) = some (utf16 "first") := by decide
  exact Option.some.inj (hraw.symm.trans hfirst)

/-- The administrator is done before the worker begins. -/
theorem revocation_final_sample : ([] : List PartnerPrincipal) = [] :=
  revocation_final (i := true) (j := false) (u := Prog.turns sampleServer [(false, 4)])
    (t := Prog.turns (Prog.turns sampleServer [(false, 4)]) [(true, 2)]) samplePartner_wellFormed
    (Prog.run_turns .refl (Prog.permittedTurns_true _ _)) rfl List.mem_cons_self rfl rfl rfl rfl
    sampleRequest_carries
    (Prog.run_turns .refl (Prog.permittedTurns_true _ _)) rfl

end Runs

end PartnerKeys
