import Vigiscam.Concurrency.History
import Vigiscam.Identity.ApiKeys
import Vigiscam.Identity.InternalAdmin

/-!
# Suspended tenants (`oversight.service.ts`)

A super admin suspends or closes a tenant by its status. Logging in, refreshing and the guard of
the partners' keys read users, memberships and keys, but not the tenant, so a tenant that is
stopped is let in as before (`suspension_ignored`). `suspension` says when a call honours the
status all the same: where what lets it in is not of a stopped tenant.
-/

namespace Identity

open Js Concurrency EvidenceVault

/-! ## The service -/

structure SetTenantStatusDto where
  status : TenantStatus
  reason : Option Text

def tenantStatusName : TenantStatus → Text
  | .active => "ACTIVE"
  | .suspended => "SUSPENDED"
  | .closed => "CLOSED"

/-- What the evidence records of a change of status. -/
def statusMetadata (tenant : Tenant) (dto : SetTenantStatusDto) : Value :=
  .object [("tenantId", .string tenant.id),
    ("previousStatus", .string (tenantStatusName tenant.status)),
    ("newStatus", .string (tenantStatusName dto.status)), ("reason", .ofNullable dto.reason)]

theorem distinct_statusMetadata (tenant : Tenant) (dto : SetTenantStatusDto) :
    (statusMetadata tenant dto).Distinct := by
  refine ⟨?_, trivial, trivial, trivial, Value.distinct_ofNullable _, trivial⟩
  show List.Nodup [utf16 "tenantId", utf16 "previousStatus", utf16 "newStatus", utf16 "reason"]
  decide

/-- The tenant has the status. -/
def Store.setTenant (s : Store) (tenantId : Uuid) (status : TenantStatus) : Store :=
  { s with tenants := Table.modify Tenant.id tenantId (fun t => { t with status }) s.tenants }

/-- `tenant.update` of the status; it throws when there is no such row. -/
def updateTenantStatus (tenantId : Uuid) (status : TenantStatus) : Program Tenant :=
  Prog.attempt (.tenant tenantId) .internal fun s =>
    (Table.find Tenant.id tenantId s.tenants).map fun tenant =>
      ({ tenant with status }, s.setTenant tenantId status)

def setTenantStatus (admin : AuthenticatedUser) (tenantId : Uuid) (dto : SetTenantStatusDto)
    (ctx : RequestContext) : Program Tenant := do
  match ← read fun s => Table.find Tenant.id tenantId s.tenants with
  | none => throw (.notFound "Tenant not found")
  | some tenant =>
    if tenant.type = .internal ∧ dto.status ≠ .active then
      throw (.badRequest "The internal VIGISCAM tenant cannot be suspended or closed")
    else if tenant.status = dto.status then
      throw (.badRequest ("Tenant is already " ++ tenantStatusName dto.status))
    else
      let updated ← updateTenantStatus tenantId dto.status
      appendEvidence {
        tenantId := some INTERNAL_TENANT_ID
        actorId := some admin.userId
        actorType := some "ADMIN"
        entityType := "TENANT"
        entityId := tenantId
        eventType := "INTERNAL_TENANT_STATUS_CHANGED"
        eventDescription := "Tenant \"" ++ tenant.name ++ "\" status changed " ++
          tenantStatusName tenant.status ++ " -> " ++ tenantStatusName dto.status
        metadata := statusMetadata tenant dto
        ipAddress := ctx.ip
        deviceId := none
        metadata_distinct := distinct_statusMetadata tenant dto }
      return updated

/-! ## Runs -/

/-- A call of the run. -/
inductive Entry where
  | setStatus (admin : AuthenticatedUser) (tenantId : Uuid) (dto : SetTenantStatusDto)
    (ctx : RequestContext)
  | login (dto : LoginDto) (ctx : RequestContext)
  | refresh (rawToken : Text) (ctx : RequestContext)
  | partner (request : PartnerRequest)

/-- The store after the call. -/
def Entry.exec (p : Platform) : Entry → Store → Store
  | setStatus admin tenantId dto ctx, s => ((setTenantStatus admin tenantId dto ctx).run s).2
  | login dto ctx, s => ((Identity.login p dto ctx).run s).2
  | refresh rawToken ctx, s => ((Identity.refresh p rawToken ctx).run s).2
  | partner request, s => ((canActivate p request).run s).2

/-- The tenant is suspended or closed. -/
def Stopped (tenantId : Uuid) (s : Store) : Prop :=
  ∃ tenant, Table.find Tenant.id tenantId s.tenants = some tenant ∧ tenant.status ≠ .active

/-- The call lets nobody in for a stopped tenant. -/
def Honours (p : Platform) (s : Store) : Entry → Prop
  | .setStatus _ _ _ _ => True
  | .login dto ctx =>
    ∀ r, ((Identity.login p dto ctx).run s).1 = .ok r → ¬ Stopped r.accessToken.tenantId s
  | .refresh rawToken ctx =>
    ∀ r, ((Identity.refresh p rawToken ctx).run s).1 = .ok r → ¬ Stopped r.accessToken.tenantId s
  | .partner request =>
    ∀ r, ((canActivate p request).run s).1 = .ok r → ¬ Stopped r.tenantId s

/-! ## What lets a call in -/

/-- A refresh token can be created: its hash is new. -/
def FreshToken (p : Platform) (s : Store) : Prop :=
  p.sha256 (s.token s.drawn) ∉ s.refreshTokens.map RefreshToken.tokenHash

instance (p : Platform) (s : Store) : Decidable (FreshToken p s) :=
  inferInstanceAs (Decidable (¬ _ ∈ _))

/-- The user whose credentials they are. -/
def credentialsOf (p : Platform) (dto : LoginDto) (s : Store) : Option User :=
  (Table.find User.email (trim (p.toLowerCase dto.email)) s.users).filter fun user =>
    p.compare dto.password user.passwordHash ∧ user.status = .active

/-- The token that can be exchanged now, with its user. -/
def exchangeable (p : Platform) (rawToken : Text) (s : Store) : Option (RefreshToken × User) :=
  (storedToken (p.sha256 rawToken) s).bind fun stored =>
    if stored.1.revokedAt.isSome || stored.1.expiresAt < s.now then none
    else (stored.2.filter fun user => user.status = .active).map fun user => (stored.1, user)

def withinQuota (key : PartnerApiKey) (today : Int) (s : Store) : Bool :=
  (DAILY_LIMITS key.plan).all fun limit => requestCount key.id today s < limit

/-- The key that the request is admitted with. -/
def admitting (p : Platform) (request : PartnerRequest) (s : Store) : Option PartnerApiKey :=
  (present (extractKey request.header)).bind fun raw =>
    (Table.find PartnerApiKey.keyHash (p.sha256 raw) s.apiKeys).filter fun key =>
      (checkKey request.required s.now key).isOk && withinQuota key (todayUtcBucket s.now) s

/-- What lets the call in is not of a stopped tenant: the membership that the session is opened
for, or the key. -/
def Clear (p : Platform) (s : Store) : Entry → Prop
  | .setStatus _ _ _ _ => True
  | .login dto _ => ∀ user m, credentialsOf p dto s = some user →
    primaryMembership user.id s = some m → FreshToken p s → ¬ Stopped m.tenantId s
  | .refresh rawToken _ => ∀ stored m, exchangeable p rawToken s = some stored →
    primaryMembership stored.1.userId s = some m → FreshToken p s → ¬ Stopped m.tenantId s
  | .partner request => ∀ key, admitting p request s = some key → ¬ Stopped key.tenantId s

section Calls

variable {p : Platform} {s : Store} {user : User} {m : Membership} {ctx : RequestContext}

theorem run_read_bind {α β : Type} (f : Store → α) (k : α → Program β) :
    (read f >>= k).run s = (k (f s)).run s := Prog.run_bind _ _ _

/-- A pair is issued where its hash is new. -/
theorem run_issueTokens (user : User) (m : Membership) (ctx : RequestContext)
    (h : FreshToken p s) : ∃ t row,
      (issueTokens p user m ctx).run s = (.ok (tokenPair user m (s.token s.drawn)), t) ∧
        t.refreshTokens = s.refreshTokens ++ [row] := by
  have hcreate : (createToken (newToken p user.id ctx (s.token s.drawn) s.now)).run
      { s with drawn := s.drawn + 1 } = (.ok (), Store.addToken { s with drawn := s.drawn + 1 }
        (newToken p user.id ctx (s.token s.drawn) s.now)) :=
    Prog.run_attempt_some (if_neg h)
  refine ⟨Store.addToken { s with drawn := s.drawn + 1 }
    (newToken p user.id ctx (s.token s.drawn) s.now), _, ?_, rfl⟩
  rw [issueTokens, Prog.run_bind]
  show Prog.run (createToken (newToken p user.id ctx (s.token s.drawn) s.now) >>= fun _ =>
    pure (tokenPair user m (s.token s.drawn))) { s with drawn := s.drawn + 1 } = _
  rw [Prog.run_bind, hcreate]
  rfl

theorem run_issueTokens_taken (user : User) (m : Membership) (ctx : RequestContext)
    (h : ¬ FreshToken p s) : ∃ t, (issueTokens p user m ctx).run s = (.error .internal, t) := by
  have hcreate : (createToken (newToken p user.id ctx (s.token s.drawn) s.now)).run
      { s with drawn := s.drawn + 1 } = (.error .internal, { s with drawn := s.drawn + 1 }) :=
    Prog.run_attempt_none (if_pos (not_not.mp h))
  refine ⟨{ s with drawn := s.drawn + 1 }, ?_⟩
  rw [issueTokens, Prog.run_bind]
  show Prog.run (createToken (newToken p user.id ctx (s.token s.drawn) s.now) >>= fun _ =>
    pure (tokenPair user m (s.token s.drawn))) { s with drawn := s.drawn + 1 } = _
  rw [Prog.run_bind, hcreate]
  rfl

/-- What is issued for the user and the membership, by a call that has come so far. -/
theorem issued_iff {t : Store} (htoken : t.token = s.token) (hdrawn : t.drawn = s.drawn)
    (hrows : t.refreshTokens = s.refreshTokens) {r : AuthResult} :
    ((issueTokens p user m ctx).run t).1 = .ok r ↔
      FreshToken p s ∧ r = tokenPair user m (s.token s.drawn) := by
  have hsame : FreshToken p t ↔ FreshToken p s := by
    rw [FreshToken, FreshToken, htoken, hdrawn, hrows]
  by_cases hfresh : FreshToken p t
  · obtain ⟨t', row, hrun, -⟩ := run_issueTokens user m ctx hfresh
    rw [hrun, htoken, hdrawn]
    constructor
    · intro h
      exact ⟨hsame.mp hfresh, (Except.ok.inj h).symm⟩
    · rintro ⟨-, rfl⟩
      rfl
  · obtain ⟨t', hrun⟩ := run_issueTokens_taken user m ctx hfresh
    rw [hrun]
    constructor
    · intro h
      cases h
    · exact fun h => absurd (hsame.mpr h.1) hfresh

theorem run_touchLogin (h : user ∈ s.users) :
    (touchLogin user.id).run s = (.ok (), s.loggedIn user.id) := by
  refine Prog.run_attempt_some ?_
  cases hfound : Table.find User.id user.id s.users with
  | none => exact absurd (List.mem_map_of_mem h) (Table.find_eq_none_iff.mp hfound)
  | some found => rfl

theorem run_revokeToken {row : RefreshToken} (h : row ∈ s.refreshTokens) :
    (revokeToken row.id).run s = (.ok (), s.revoke row.id) := by
  refine Prog.run_attempt_some ?_
  cases hfound : Table.find RefreshToken.id row.id s.refreshTokens with
  | none => exact absurd (List.mem_map_of_mem h) (Table.find_eq_none_iff.mp hfound)
  | some found => rfl

/-- A session is opened for a membership, or for none. -/
theorem run_getPrimaryMembership_bind {α : Type} (userId : Uuid) (k : Membership → Program α) :
    (getPrimaryMembership userId >>= k).run s =
      match primaryMembership userId s with
      | none => (.error (.unauthorized "No active tenant membership for this account"), s)
      | some m => (k m).run s := by
  rw [getPrimaryMembership, Prog.bind_assoc, run_read_bind]
  cases primaryMembership userId s with
  | none => rfl
  | some m => rfl

theorem login_ok_iff {dto : LoginDto} {r : AuthResult} :
    ((login p dto ctx).run s).1 = .ok r ↔ ∃ user m, credentialsOf p dto s = some user ∧
      primaryMembership user.id s = some m ∧ FreshToken p s ∧
      r = tokenPair user m (s.token s.drawn) := by
  rw [login, run_read_bind, credentialsOf]
  cases hfound : Table.find User.email (trim (p.toLowerCase dto.email)) s.users with
  | none => simp
  | some user =>
    have hmem : user ∈ s.users := Table.mem_of_find hfound
    by_cases hcompare : p.compare dto.password user.passwordHash = true
    · by_cases hactive : user.status = .active
      · dsimp only
        rw [hcompare, Bool.not_true, if_neg Bool.false_ne_true, if_neg (not_not.mpr hactive),
          run_getPrimaryMembership_bind]
        cases hprimary : primaryMembership user.id s with
        | none => simp [hcompare, hactive, hprimary]
        | some m =>
          dsimp only
          rw [Prog.run_bind, run_touchLogin hmem, Prog.andThen_ok, Prog.run_bind]
          refine (issued_iff (s := s)
            (t := ((writeAudit "USER_LOGIN" user.id ctx).run (s.loggedIn user.id)).2)
            rfl rfl rfl).trans ?_
          simp [hcompare, hactive, hprimary]
      · simp [hcompare, hactive]
    · simp [hcompare]

theorem refresh_ok_iff {rawToken : Text} {r : AuthResult} :
    ((refresh p rawToken ctx).run s).1 = .ok r ↔ ∃ stored m,
      exchangeable p rawToken s = some stored ∧ primaryMembership stored.1.userId s = some m ∧
      FreshToken p s ∧ r = tokenPair stored.2 m (s.token s.drawn) := by
  rw [refresh, run_read_bind, exchangeable]
  dsimp only
  cases hstored : storedToken (p.sha256 rawToken) s with
  | none => simp
  | some stored =>
    obtain ⟨_, found⟩ := stored
    obtain ⟨row, hrow, hpair⟩ := Option.map_eq_some_iff.mp hstored
    obtain ⟨rfl, -⟩ := Prod.mk.inj hpair
    dsimp only
    by_cases hdead : (row.revokedAt.isSome || decide (row.expiresAt < s.now)) = true
    · rw [if_pos hdead, Option.bind_some, if_pos hdead]
      simp
    · rw [if_neg hdead, Option.bind_some, if_neg hdead]
      cases found with
      | none => simp
      | some user =>
        by_cases hactive : user.status = .active
        · dsimp only
          rw [if_neg (not_not.mpr hactive), run_getPrimaryMembership_bind]
          cases hprimary : primaryMembership row.userId s with
          | none => simp [hactive, hprimary]
          | some m =>
            dsimp only
            by_cases hfresh : FreshToken p s
            · obtain ⟨t, new, hrun, hrows⟩ := run_issueTokens user m ctx hfresh
              have hmem : row ∈ t.refreshTokens := by
                rw [hrows]
                exact List.mem_append_left _ (Table.mem_of_find hrow)
              rw [Prog.run_bind, hrun, Prog.andThen_ok, Prog.run_bind, run_revokeToken hmem]
              simp only [Option.filter, hactive, decide_true, if_true, Option.map_some,
                Prog.andThen_ok,
                Prog.run_pure, Except.ok.injEq, Option.some.injEq]
              constructor
              · rintro rfl
                exact ⟨_, m, rfl, hprimary, hfresh, rfl⟩
              · rintro ⟨_, m', rfl, hprimary', -, rfl⟩
                rw [hprimary] at hprimary'
                cases hprimary'
                rfl
            · obtain ⟨t, hrun⟩ := run_issueTokens_taken user m ctx hfresh
              rw [Prog.run_bind, hrun]
              simp [hfresh]
        · simp [hactive]

theorem run_bestEffort (q : Program Unit) (s : Store) :
    (bestEffort q).run s = (.ok (), (q.run s).2) := by
  cases hq : q.run s with
  | mk result t =>
    cases result with
    | ok u => exact Prog.run_tryCatch_ok hq
    | error e => exact Prog.run_tryCatch_error hq

theorem run_checkQuota {key : PartnerApiKey} {today : Int} :
    if withinQuota key today s then (checkQuota p key today).run s = (.ok (), s)
    else ∃ e, (checkQuota p key today).run s = (.error e, s) := by
  rw [checkQuota, withinQuota]
  cases DAILY_LIMITS key.plan with
  | none => rfl
  | some limit =>
    dsimp only
    rw [run_read_bind, Option.all_some]
    by_cases hcount : requestCount key.id today s < limit
    · rw [if_pos (decide_eq_true hcount), if_neg (by omega)]
      rfl
    · rw [if_neg (by simpa using hcount), if_pos (by omega)]
      exact ⟨_, rfl⟩

theorem canActivate_ok_iff {request : PartnerRequest} {r : PartnerPrincipal} :
    ((canActivate p request).run s).1 = .ok r ↔ ∃ key, admitting p request s = some key ∧
      r = ⟨key.id, key.tenantId, key.keyPrefix⟩ := by
  rw [canActivate, admitting]
  cases present (extractKey request.header) with
  | none => simp
  | some raw =>
    dsimp only
    rw [run_read_bind, Option.bind_some]
    dsimp only
    cases Table.find PartnerApiKey.keyHash (p.sha256 raw) s.apiKeys with
    | none => simp
    | some key =>
      dsimp only
      cases hcheck : checkKey request.required s.now key with
      | error e => simp [hcheck, Except.isOk, Except.toBool]
      | ok u =>
        have hquota := @run_checkQuota p s key (todayUtcBucket s.now)
        dsimp only
        by_cases hwithin : withinQuota key (todayUtcBucket s.now) s = true
        · rw [if_pos hwithin] at hquota
          rw [Prog.run_bind, hquota, Prog.andThen_ok, Prog.run_bind, run_bestEffort,
            Prog.andThen_ok, Prog.run_bind, run_bestEffort]
          simp [hcheck, hwithin, Except.isOk, Except.toBool, @eq_comm _ r]
        · rw [if_neg hwithin] at hquota
          obtain ⟨e, hquota⟩ := hquota
          rw [Prog.run_bind, hquota]
          simp [hwithin]

/-- When a call lets nobody in for a stopped tenant. -/
theorem honours_iff (p : Platform) (s : Store) (call : Entry) :
    Honours p s call ↔ Clear p s call := by
  cases call with
  | setStatus admin tenantId dto ctx => exact Iff.rfl
  | login dto ctx =>
    constructor
    · intro h user m huser hm hfresh
      exact h _ (login_ok_iff.mpr ⟨user, m, huser, hm, hfresh, rfl⟩)
    · intro h r hr
      obtain ⟨user, m, huser, hm, hfresh, rfl⟩ := login_ok_iff.mp hr
      exact h user m huser hm hfresh
  | refresh rawToken ctx =>
    constructor
    · intro h stored m hstored hm hfresh
      exact h _ (refresh_ok_iff.mpr ⟨stored, m, hstored, hm, hfresh, rfl⟩)
    · intro h r hr
      obtain ⟨stored, m, hstored, hm, hfresh, rfl⟩ := refresh_ok_iff.mp hr
      exact h stored m hstored hm hfresh
  | partner request =>
    constructor
    · intro h key hkey
      exact h _ (canActivate_ok_iff.mpr ⟨key, hkey, rfl⟩)
    · intro h r hr
      obtain ⟨key, hkey, rfl⟩ := canActivate_ok_iff.mp hr
      exact h key hkey

end Calls

/-! ## Who stops a tenant -/

/-- No step of the program writes to a tenant. -/
abbrev SparesTenants {α : Type} (q : Program α) : Prop :=
  q.Each fun _ s s' => s'.tenants = s.tenants

section Tenants

variable {p : Platform} {s : Store}

theorem sparesTenants_read {α : Type} (f : Store → α) : SparesTenants (read f) :=
  Prog.Each.act fun _ => rfl

theorem sparesTenants_getPrimaryMembership (userId : Uuid) :
    SparesTenants (getPrimaryMembership userId) := by
  refine Prog.Each.bind (sparesTenants_read _) fun found => ?_
  cases found with
  | none => exact Prog.Each.throw _
  | some m => exact Prog.Each.pure _

theorem sparesTenants_issueTokens (user : User) (m : Membership) (ctx : RequestContext) :
    SparesTenants (issueTokens p user m ctx) := by
  refine Prog.Each.bind (Prog.Each.act fun _ => rfl) fun drawn => Prog.Each.bind ?_ fun _ =>
    Prog.Each.pure _
  refine Prog.Each.attempt (fun s u s' hcreated => ?_) fun _ _ => rfl
  split at hcreated
  · cases hcreated
  · cases hcreated
    rfl

theorem sparesTenants_touchLogin (userId : Uuid) : SparesTenants (touchLogin userId) := by
  refine Prog.Each.attempt (fun s u s' hupdate => ?_) fun _ _ => rfl
  obtain ⟨_, -, hpair⟩ := Option.map_eq_some_iff.mp hupdate
  obtain ⟨-, rfl⟩ := Prod.mk.inj hpair
  rfl

theorem sparesTenants_revokeToken (id : Uuid) : SparesTenants (revokeToken id) := by
  refine Prog.Each.attempt (fun s u s' hupdate => ?_) fun _ _ => rfl
  obtain ⟨_, -, hpair⟩ := Option.map_eq_some_iff.mp hupdate
  obtain ⟨-, rfl⟩ := Prod.mk.inj hpair
  rfl

theorem sparesTenants_touchKey (id : Uuid) : SparesTenants (touchKey id) := by
  refine Prog.Each.attempt (fun s u s' hupdate => ?_) fun _ _ => rfl
  obtain ⟨_, -, hpair⟩ := Option.map_eq_some_iff.mp hupdate
  obtain ⟨-, rfl⟩ := Prod.mk.inj hpair
  rfl

theorem sparesTenants_login (dto : LoginDto) (ctx : RequestContext) :
    SparesTenants (login p dto ctx) := by
  refine Prog.Each.bind (sparesTenants_read _) fun found => ?_
  cases found with
  | none => exact Prog.Each.throw _
  | some user =>
    dsimp only
    split
    · exact Prog.Each.throw _
    · split
      · exact Prog.Each.throw _
      · exact Prog.Each.bind (sparesTenants_getPrimaryMembership _) fun m =>
          Prog.Each.bind (sparesTenants_touchLogin _) fun _ =>
            Prog.Each.bind (Prog.Each.act fun _ => rfl) fun _ => sparesTenants_issueTokens ..

theorem sparesTenants_refresh (rawToken : Text) (ctx : RequestContext) :
    SparesTenants (refresh p rawToken ctx) := by
  refine Prog.Each.bind (sparesTenants_read _) fun found => ?_
  obtain ⟨stored, now⟩ := found
  cases stored with
  | none => exact Prog.Each.throw _
  | some stored =>
    dsimp only
    split
    · exact Prog.Each.throw _
    · cases stored.2 with
      | none => exact Prog.Each.throw _
      | some user =>
        dsimp only
        split
        · exact Prog.Each.throw _
        · exact Prog.Each.bind (sparesTenants_getPrimaryMembership _) fun m =>
            Prog.Each.bind (sparesTenants_issueTokens ..) fun _ =>
              Prog.Each.bind (sparesTenants_revokeToken _) fun _ => Prog.Each.pure _

theorem sparesTenants_checkQuota (key : PartnerApiKey) (today : Int) :
    SparesTenants (checkQuota p key today) := by
  rw [checkQuota]
  cases DAILY_LIMITS key.plan with
  | none => exact Prog.Each.pure _
  | some limit =>
    refine Prog.Each.bind (sparesTenants_read _) fun count => ?_
    show Prog.Each _ (if count ≥ limit then _ else _)
    split
    · exact Prog.Each.throw _
    · exact Prog.Each.pure _

theorem sparesTenants_canActivate (request : PartnerRequest) :
    SparesTenants (canActivate p request) := by
  rw [canActivate]
  cases present (extractKey request.header) with
  | none => exact Prog.Each.throw _
  | some raw =>
    refine Prog.Each.bind (sparesTenants_read _) fun found => ?_
    obtain ⟨key, now⟩ := found
    cases key with
    | none => exact Prog.Each.throw _
    | some key =>
      dsimp only
      cases checkKey request.required now key with
      | error e => exact Prog.Each.throw _
      | ok u =>
        refine Prog.Each.bind (sparesTenants_checkQuota ..) fun _ => ?_
        refine Prog.Each.bind (Prog.Each.tryCatch (sparesTenants_touchKey _) fun _ =>
          Prog.Each.pure _) fun _ => ?_
        exact Prog.Each.bind (Prog.Each.tryCatch (Prog.Each.act fun _ => rfl) fun _ =>
          Prog.Each.pure _) fun _ => Prog.Each.pure _

theorem SparesTenants.run {α : Type} {q : Program α} (h : SparesTenants q) (s : Store) :
    (q.run s).2.tenants = s.tenants :=
  Prog.Each.run (I := fun t => t.tenants = s.tenants)
    (h.mono fun _ _ _ hstep hs => hstep.trans hs) rfl

/-- A change of status is refused, or written to the tenant. -/
theorem setTenantStatus_cases (admin : AuthenticatedUser) (tenantId : Uuid)
    (dto : SetTenantStatusDto) (ctx : RequestContext) (s : Store) :
    ((setTenantStatus admin tenantId dto ctx).run s).2 = s ∨
      ((∃ tenant, ((setTenantStatus admin tenantId dto ctx).run s).1 = .ok tenant) ∧
        ((setTenantStatus admin tenantId dto ctx).run s).2.tenants =
          (s.setTenant tenantId dto.status).tenants) := by
  rw [setTenantStatus, run_read_bind]
  cases hfound : Table.find Tenant.id tenantId s.tenants with
  | none => exact Or.inl rfl
  | some tenant =>
    dsimp only
    split
    · exact Or.inl rfl
    · split
      · exact Or.inl rfl
      · refine Or.inr ?_
        have hupdate : (updateTenantStatus tenantId dto.status).run s =
            (.ok { tenant with status := dto.status }, s.setTenant tenantId dto.status) := by
          refine Prog.run_attempt_some ?_
          rw [hfound]
          rfl
        rw [Prog.run_bind, hupdate]
        exact ⟨⟨_, rfl⟩, rfl⟩

theorem stopped_of_same {t : Store} {tenantId : Uuid} (h : t.tenants = s.tenants) :
    Stopped tenantId t ↔ Stopped tenantId s := by
  rw [Stopped, Stopped, h]

/-- What a change of status stops is its own tenant. -/
theorem stopped_setTenant {tenantId tenantId' : Uuid} {status : TenantStatus}
    (h : Stopped tenantId (s.setTenant tenantId' status)) :
    Stopped tenantId s ∨ (tenantId' = tenantId ∧ status ≠ .active) := by
  obtain ⟨tenant', hfound, hstatus⟩ := h
  have hid : ∀ t : Tenant, (if t.id = tenantId' then { t with status } else t).id = t.id := by
    intro t
    split <;> rfl
  rw [Store.setTenant, Table.modify, Table.find_map hid] at hfound
  obtain ⟨tenant, htenant, rfl⟩ := Option.map_eq_some_iff.mp hfound
  by_cases hmine : tenant.id = tenantId'
  · rw [if_pos hmine] at hstatus
    exact Or.inr ⟨hmine.symm.trans (Table.key_of_find htenant), hstatus⟩
  · rw [if_neg hmine] at hstatus
    exact Or.inl ⟨tenant, htenant, hstatus⟩

end Tenants

/-! ## Every run -/

section Run

variable {p : Platform} {s₀ s : Store} {log : List (Store × Entry)}

/-- What else changes the store, and the time, stops no tenant and readmits none. -/
def KeepsStopped (s t : Store) : Prop := ∀ tenantId, Stopped tenantId t ↔ Stopped tenantId s

/-- The call is one that stops the tenant. -/
def Entry.Stops (call : Entry) (tenantId : Uuid) (s : Store) : Prop :=
  ∃ admin dto ctx, call = .setStatus admin tenantId dto ctx ∧ dto.status ≠ .active ∧
    ∃ tenant, ((setTenantStatus admin tenantId dto ctx).run s).1 = .ok tenant

theorem stops_of_exec {call : Entry} {tenantId : Uuid} (hbefore : ¬ Stopped tenantId s)
    (hafter : Stopped tenantId (call.exec p s)) : call.Stops tenantId s := by
  cases call with
  | setStatus admin tenantId' dto ctx =>
    rcases setTenantStatus_cases admin tenantId' dto ctx s with hsame | ⟨hdone, hwritten⟩
    · rw [Entry.exec, hsame] at hafter
      exact absurd hafter hbefore
    · rw [Entry.exec, stopped_of_same hwritten] at hafter
      rcases stopped_setTenant hafter with hstopped | ⟨rfl, hstatus⟩
      · exact absurd hstopped hbefore
      · exact ⟨admin, dto, ctx, rfl, hstatus, hdone⟩
  | login dto ctx =>
    exact absurd ((stopped_of_same ((sparesTenants_login dto ctx).run s)).mp hafter) hbefore
  | refresh rawToken ctx =>
    exact absurd ((stopped_of_same ((sparesTenants_refresh rawToken ctx).run s)).mp hafter) hbefore
  | partner request =>
    exact absurd ((stopped_of_same ((sparesTenants_canActivate request).run s)).mp hafter) hbefore

/-- **When suspension takes effect.** In every run, every call honours the status of the tenants
exactly where what lets it in is never of a stopped tenant; and a tenant that was not stopped at
the start was stopped by a call of the run. -/
theorem suspension (hrun : History (Entry.exec p) KeepsStopped s₀ log s) :
    ((∀ m ∈ log, Honours p m.1 m.2) ↔ ∀ m ∈ log, Clear p m.1 m.2) ∧
      ∀ tenantId, Stopped tenantId s →
        Stopped tenantId s₀ ∨ ∃ m ∈ log, m.2.Stops tenantId m.1 := by
  refine ⟨forall₂_congr fun m _ => honours_iff p m.1 m.2, fun tenantId hstopped => ?_⟩
  by_cases hstart : Stopped tenantId s₀
  · exact Or.inl hstart
  · obtain ⟨m, hm, -, hbefore, hafter⟩ := hrun.cause (I := fun _ => True)
      (P := Stopped tenantId) (fun _ _ _ => trivial) (fun _ _ _ _ => trivial)
      (fun _ _ hkeeps _ => (hkeeps tenantId).mp) trivial hstart hstopped
    exact Or.inr ⟨m, hm, stops_of_exec hbefore hafter⟩

end Run

/-! ## A tenant that is suspended -/

/-- The key of a tenant. -/
def sampleKey : PartnerApiKey where
  id := "K"
  tenantId := "T"
  keyHash := sampleDigest "first"
  keyPrefix := "first"
  scopes := []
  plan := .enterprise
  status := .active
  expiresAt := none
  lastUsedAt := none

/-- A tenant with a member, who is logged in, and with a key. -/
def tenantStart : Store := { sampleAccounts .active with apiKeys := [sampleKey] }

/-- The tenant is suspended; then its member logs in and refreshes a session, and its key is
used. -/
def suspended : Entry := .setStatus (sampleAdmin "S") "T" ⟨.suspended, none⟩ sampleContext

def loggedIn : Entry := .login ⟨"a@b.example", "U*U"⟩ sampleContext

def refreshed : Entry := .refresh "first" sampleContext

def keyUsed : Entry := .partner ⟨some (.one "first"), none⟩

def afterSuspension : Store := suspended.exec samplePlatform tenantStart

def afterLogin : Store := loggedIn.exec samplePlatform afterSuspension

def afterRefresh : Store := refreshed.exec samplePlatform afterLogin

/-- A login for a tenant that is not stopped. -/
theorem suspension_active :
    (∃ r, ((login samplePlatform ⟨"a@b.example", "U*U"⟩ sampleContext).run tenantStart).1 =
      .ok r) ∧ ∀ m ∈ [(tenantStart, loggedIn)], Honours samplePlatform m.1 m.2 := by
  refine ⟨⟨_, rfl⟩, (suspension (.call .start loggedIn)).1.mpr ?_⟩
  intro m hm
  obtain rfl := List.mem_singleton.mp hm
  have hactive : ∀ t ∈ tenantStart.tenants, t.status = .active := by decide
  rintro user membership - - - ⟨tenant, hfound, hstopped⟩
  exact hstopped (hactive tenant (Table.mem_of_find hfound))

/-- The suspended tenant is let in by each of the three. -/
theorem suspension_ignored :
    History (Entry.exec samplePlatform) KeepsStopped tenantStart
        [(tenantStart, suspended), (afterSuspension, loggedIn), (afterLogin, refreshed),
          (afterRefresh, keyUsed)] (keyUsed.exec samplePlatform afterRefresh) ∧
      ¬ Honours samplePlatform afterSuspension loggedIn ∧
      ¬ Honours samplePlatform afterLogin refreshed ∧
      ¬ Honours samplePlatform afterRefresh keyUsed := by
  have hrun := History.call (History.call (History.call (History.call (@History.start Store Entry
    (Entry.exec samplePlatform) KeepsStopped tenantStart) suspended) loggedIn) refreshed) keyUsed
  -- the suspension is in the store from the first call on
  have hstopped : ∀ s : Store, s.tenants = afterSuspension.tenants → Stopped "T" s :=
    fun s hs => (stopped_of_same hs).mpr ⟨_, rfl, nofun⟩
  refine ⟨hrun, fun h => ?_, fun h => ?_, fun h => ?_⟩
  · exact (honours_iff ..).mp h _ _ rfl rfl (by decide +kernel) (hstopped _ rfl)
  · exact (honours_iff ..).mp h _ _ rfl rfl (by decide +kernel) (hstopped _ rfl)
  · exact (honours_iff ..).mp h _ rfl (hstopped _ rfl)

end Identity
