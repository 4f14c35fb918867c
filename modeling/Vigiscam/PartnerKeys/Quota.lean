import Vigiscam.Concurrency.Admission
import Vigiscam.PartnerKeys.Service

/-!
# The daily quota among concurrent requests (`api-key.guard.ts`)

The guard reads the day's count of a key, and raises it by a write of its own that nobody waits
for. Requests that run at once may all read the count before one of them has raised it, so the
limit leaks. `quota_burst` says by how much: with `n` requests in flight the count of a key on a
day never goes past the limit by more than `n - 1`, whatever administrators do meanwhile and
whichever steps fail. Where the counting writes go through, this bounds the requests that were
admitted (`admitted_burst`), and `burst_attained` has a run for each `n` that goes that far.
-/

namespace PartnerKeys

open Js Concurrency Identity

/-! ## Plans -/

/-- The key has a plan of at most so many requests a day. -/
def PlanWithin (keyId : Uuid) (limit : Int) (s : Store) : Prop :=
  ∀ key ∈ s.apiKeys, key.id = keyId → (DAILY_LIMITS key.plan).any fun l => l ≤ limit

instance (keyId : Uuid) (limit : Int) (s : Store) : Decidable (PlanWithin keyId limit s) :=
  inferInstanceAs (Decidable (∀ key ∈ s.apiKeys, _))

/-! ## The gate of a key on a day -/

def quota (keyId : Uuid) (date limit : Int) : Gate Store DbStep where
  count := requestCount keyId date
  limit := limit
  loses l := l = .touch

/-- The usage rows after one more request. -/
theorem find_counted (keyId keyId' : Uuid) (date date' : Int) (rows : List PartnerApiKeyUsage) :
    ((rows.map fun u => if u.keyId = keyId' ∧ u.date = date' then
        { u with requestCount := u.requestCount + 1 } else u).find? fun u =>
          u.keyId = keyId ∧ u.date = date) =
      (rows.find? fun u => u.keyId = keyId ∧ u.date = date).map fun u =>
        if u.keyId = keyId' ∧ u.date = date' then
          { u with requestCount := u.requestCount + 1 } else u := by
  rw [List.find?_map]
  congr 2
  funext u
  simp only [Function.comp]
  split <;> rfl

/-- What one counting write does to the count of a key on a day. -/
theorem requestCount_counted (keyId keyId' : Uuid) (date date' : Int) (s : Store) :
    requestCount keyId date { s with
      usage :=
        if s.usage.any fun u => u.keyId = keyId' ∧ u.date = date' then
          s.usage.map fun u =>
            if u.keyId = keyId' ∧ u.date = date' then
              { u with requestCount := u.requestCount + 1 } else u
        else s.usage ++ [⟨keyId', date', 1⟩] } =
      requestCount keyId date s + if keyId' = keyId ∧ date' = date then 1 else 0 := by
  simp only [requestCount]
  by_cases hany : (s.usage.any fun u => u.keyId = keyId' ∧ u.date = date') = true
  · rw [if_pos hany, find_counted]
    cases hfind : s.usage.find? fun u => u.keyId = keyId ∧ u.date = date with
    | none =>
      have hne : ¬ (keyId' = keyId ∧ date' = date) := by
        rintro ⟨rfl, rfl⟩
        obtain ⟨u, hu, hkey⟩ := List.any_eq_true.mp hany
        exact List.find?_eq_none.mp hfind u hu hkey
      simp [hne]
    | some u =>
      have hu : u.keyId = keyId ∧ u.date = date :=
        of_decide_eq_true (List.find?_some
          (p := fun u : PartnerApiKeyUsage => u.keyId = keyId ∧ u.date = date) hfind)
      by_cases hsame : keyId' = keyId ∧ date' = date
      · simp [hu.1, hu.2, hsame.1, hsame.2]
      · have hother : ¬ (u.keyId = keyId' ∧ u.date = date') := fun h =>
          hsame ⟨h.1.symm.trans hu.1, h.2.symm.trans hu.2⟩
        simp [hsame, hother]
  · rw [if_neg hany, List.find?_append]
    cases hfind : s.usage.find? fun u => u.keyId = keyId ∧ u.date = date with
    | none =>
      by_cases hsame : keyId' = keyId ∧ date' = date <;> simp [hsame]
    | some u =>
      have hne : ¬ (keyId' = keyId ∧ date' = date) := by
        rintro ⟨rfl, rfl⟩
        refine hany (List.any_eq_true.mpr ⟨u, List.mem_of_find?_eq_some hfind, ?_⟩)
        exact List.find?_some
          (p := fun u : PartnerApiKeyUsage => u.keyId = keyId' ∧ u.date = date') hfind
      simp [hne]

/-! ## A request at the gate -/

section Gate

variable {p : Platform} {keyId : Uuid} {date limit : Int} {allowed : DbStep → Store → Prop}
  {sure : DbStep → Prop} {m : Nat}

/-- The requests of a key among those that were admitted. -/
def admissions (keyId : Uuid) (admitted : List PartnerPrincipal) : Nat :=
  admitted.countP (·.keyId = keyId)

/-- How a program ends that has started after `m` passes: nothing waits to be counted, and on the
day the passes are the admissions. -/
def Done (keyId : Uuid) (date : Int) (allowed : DbStep → Store → Prop) (m : Nat)
    (r : Except HttpError (List PartnerPrincipal)) (st : Stage) : Prop :=
  st.waiting = false ∧ ((∀ l s, allowed l s → todayUtcBucket s.now = date) →
    ∀ admitted, r = .ok admitted → st.passed = m + admissions keyId admitted)

/-- The same for one request, which may be refused. -/
def Through (keyId : Uuid) (date : Int) (allowed : DbStep → Store → Prop) (m : Nat)
    (r : Except HttpError PartnerPrincipal) (st : Stage) : Prop :=
  st.waiting = false ∧ ((∀ l s, allowed l s → todayUtcBucket s.now = date) →
    st.passed = m + match r with
      | .ok principal => if principal.keyId = keyId then 1 else 0
      | .error _ => 0)

theorem spares_read {α : Type} (f : Store → α) :
    (read f).Each fun _ x y => requestCount keyId date y = requestCount keyId date x :=
  Prog.Each.act fun _ => rfl

/-- A best-effort write that leaves the count alone does not end a program. -/
theorem admits_bestEffort {q : Program Unit} {st : Stage}
    (h : q.Each fun _ x y => requestCount keyId date y = requestCount keyId date x) :
    (bestEffort q).Admits (quota keyId date limit) allowed sure
      (fun r st' => r = .ok () ∧ st' = st) st := by
  refine Prog.Admits.tryCatch (M := fun _ st' => st' = st) (Prog.Admits.each h fun _ => rfl)
    (fun _ _ hst => ⟨rfl, hst⟩) fun _ _ hst => ?_
  exact Prog.Admits.pure ⟨rfl, hst⟩

theorem spares_touchKey (id : Uuid) :
    (touchKey id).Each fun _ x y => requestCount keyId date y = requestCount keyId date x := by
  refine Prog.Each.attempt (fun s u s' htouch => ?_) fun _ _ => rfl
  obtain ⟨_, -, hpair⟩ := Option.map_eq_some_iff.mp htouch
  obtain ⟨-, rfl⟩ := Prod.mk.inj hpair
  rfl

/-- The count of another key or of another day does not change. -/
theorem spares_countRequest {id : Uuid} {today : Int} (h : ¬ (id = keyId ∧ today = date)) :
    (countRequest id today).Each fun _ x y =>
      requestCount keyId date y = requestCount keyId date x := by
  refine Prog.Each.act fun s => ?_
  rw [requestCount_counted, if_neg h, Int.add_zero]

/-- A pass is counted, or lost. -/
theorem admits_countRequest :
    (bestEffort (countRequest keyId date)).Admits (quota keyId date limit) allowed sure
      (fun r st => r = .ok () ∧ st = ⟨false, m⟩) ⟨true, m⟩ := by
  refine ⟨fun s _ => ⟨⟨false, m⟩, .counts ?_, rfl, rfl⟩,
    fun _ => ⟨⟨false, m⟩, .loses rfl, rfl, rfl⟩⟩
  refine (requestCount_counted keyId keyId date date s).trans ?_
  rw [if_pos ⟨rfl, rfl⟩]
  rfl

/-- A key of a limited plan passes where the count is below the limit. -/
theorem admits_checkQuota {key : PartnerApiKey} {l : Int} (hl : DAILY_LIMITS key.plan = some l)
    (hle : l ≤ limit) :
    (checkQuota p key date).Admits (quota key.id date limit) allowed sure
      (fun r st => st = match r with
        | .ok _ => ⟨true, m + 1⟩
        | .error _ => ⟨false, m⟩) ⟨false, m⟩ := by
  rw [checkQuota, hl]
  refine Prog.Admits.act_bind (fun s _ => ?_) fun _ => rfl
  by_cases hcount : requestCount key.id date s ≥ l
  · refine ⟨⟨false, m⟩, .keeps rfl, ?_⟩
    rw [if_pos hcount]
    exact Prog.Admits.throw rfl
  · have hbelow : requestCount key.id date s < limit := by omega
    refine ⟨⟨true, m + 1⟩, .passes rfl hbelow, ?_⟩
    rw [if_neg hcount]
    exact Prog.Admits.pure rfl

theorem spares_checkQuota (key : PartnerApiKey) (today : Int) :
    (checkQuota p key today).Each fun _ x y =>
      requestCount keyId date y = requestCount keyId date x := by
  rw [checkQuota]
  cases DAILY_LIMITS key.plan with
  | none => exact Prog.Each.pure _
  | some l =>
    refine Prog.Each.bind (spares_read _) fun count => ?_
    split
    · exact Prog.Each.throw _
    · exact Prog.Each.pure _

/-- What is left of a request whose key has been found and is in order. -/
theorem admits_checked {key : PartnerApiKey} {today : Int}
    (hplan : key.id = keyId → (DAILY_LIMITS key.plan).any fun l => l ≤ limit)
    (hday : (∀ l s, allowed l s → todayUtcBucket s.now = date) → today = date) :
    (do
      checkQuota p key today
      bestEffort (touchKey key.id)
      bestEffort (countRequest key.id today)
      return { keyId := key.id, tenantId := key.tenantId, keyPrefix := key.keyPrefix } :
        Program PartnerPrincipal).Admits (quota keyId date limit) allowed sure
      (Through keyId date allowed m) ⟨false, m⟩ := by
  by_cases hgate : key.id = keyId ∧ today = date
  · obtain ⟨rfl, rfl⟩ := hgate
    obtain ⟨l, hl, hle⟩ : ∃ l, DAILY_LIMITS key.plan = some l ∧ l ≤ limit := by
      simpa [Option.any_eq_true] using hplan rfl
    refine Prog.Admits.bind (admits_checkQuota hl hle) (fun _ st hst => ?_) fun e st hst => ?_
    · subst hst
      refine Prog.Admits.bind (admits_bestEffort (spares_touchKey _)) (fun _ st hst => ?_)
        fun e st hst => absurd hst.1 (by simp)
      obtain rfl := hst.2
      refine Prog.Admits.bind admits_countRequest (fun _ st hst => ?_)
        fun e st hst => absurd hst.1 (by simp)
      obtain rfl := hst.2
      exact Prog.Admits.pure ⟨rfl, fun _ => by simp⟩
    · subst hst
      exact ⟨rfl, fun _ => rfl⟩
  · -- the request is one of another gate
    have hpost : ∀ r, (∃ e, r = .error e) ∨ r = .ok ⟨key.id, key.tenantId, key.keyPrefix⟩ →
        Through keyId date allowed m r ⟨false, m⟩ := by
      rintro r (⟨e, rfl⟩ | rfl)
      · exact ⟨rfl, fun _ => rfl⟩
      · refine ⟨rfl, fun hall => ?_⟩
        have hne : key.id ≠ keyId := fun hid => hgate ⟨hid, hday hall⟩
        simp [hne]
    refine Prog.Admits.bind (M := fun _ st => st = ⟨false, m⟩)
      (Prog.Admits.each (spares_checkQuota key today) fun _ => rfl) (fun _ st hst => ?_)
      fun e st hst => ?_
    · subst hst
      refine Prog.Admits.bind (admits_bestEffort (spares_touchKey _)) (fun _ st hst => ?_)
        fun e st hst => absurd hst.1 (by simp)
      obtain rfl := hst.2
      refine Prog.Admits.bind (admits_bestEffort (spares_countRequest hgate)) (fun _ st hst => ?_)
        fun e st hst => absurd hst.1 (by simp)
      obtain rfl := hst.2
      exact Prog.Admits.pure (hpost _ (Or.inr rfl))
    · subst hst
      exact hpost _ (Or.inl ⟨e, rfl⟩)

/-- **A request at the gate** passes at most once, and is counted once. -/
theorem admits_canActivate (hplan : ∀ l s, allowed l s → PlanWithin keyId limit s)
    (request : PartnerRequest) :
    (canActivate p request).Admits (quota keyId date limit) allowed sure
      (Through keyId date allowed m) ⟨false, m⟩ := by
  have hrefused : ∀ e, Through keyId date allowed m (.error e) ⟨false, m⟩ :=
    fun e => ⟨rfl, fun _ => rfl⟩
  rw [canActivate]
  cases present (extractKey request.header) with
  | none => exact Prog.Admits.throw (hrefused _)
  | some raw =>
    refine Prog.Admits.act_bind (fun s hs => ⟨_, .keeps rfl, ?_⟩) fun _ => hrefused _
    dsimp only
    cases hfind : Table.find PartnerApiKey.keyHash (p.sha256 raw) s.apiKeys with
    | none => exact Prog.Admits.throw (hrefused _)
    | some key =>
      dsimp only
      cases checkKey request.required s.now key with
      | error e => exact Prog.Admits.throw (hrefused _)
      | ok _ =>
        exact admits_checked (fun hid => hplan _ s hs key (Table.mem_of_find hfind) hid)
          fun hall => hall _ s hs

theorem admits_letIn (hplan : ∀ l s, allowed l s → PlanWithin keyId limit s)
    (request : PartnerRequest) :
    (letIn p request).Admits (quota keyId date limit) allowed sure
      (fun r st => (∃ admitted, r = .ok admitted) ∧ Done keyId date allowed m r st) ⟨false, m⟩ := by
  have hrefused : ∀ st, st.waiting = false →
      ((∀ l s, allowed l s → todayUtcBucket s.now = date) → st.passed = m + 0) →
      Done keyId date allowed m (.ok []) st := by
    refine fun st hwaiting hpassed => ⟨hwaiting, fun hall admitted hok => ?_⟩
    rw [hpassed hall, ← Except.ok.inj hok]
    rfl
  refine Prog.Admits.tryCatch (M := fun r st => match r with
      | .ok admitted => Done keyId date allowed m (.ok admitted) st
      | .error _ => Done keyId date allowed m (.ok []) st) ?_
    (fun admitted st hst => ⟨⟨admitted, rfl⟩, hst⟩) fun e st hst =>
      Prog.Admits.pure ⟨⟨[], rfl⟩, hst⟩
  refine Prog.Admits.bind (admits_canActivate hplan request) (fun principal st hst => ?_)
    fun e st hst => hrefused st hst.1 hst.2
  refine Prog.Admits.pure ⟨hst.1, fun hall admitted hok => ?_⟩
  rw [hst.2 hall, ← Except.ok.inj hok]
  by_cases hkey : principal.keyId = keyId <;> simp [admissions, hkey]

/-- A worker passes once for each request of the key that it admits. -/
theorem admits_serve (hplan : ∀ l s, allowed l s → PlanWithin keyId limit s)
    (requests : List PartnerRequest) :
    (serve p requests).Admits (quota keyId date limit) allowed sure
      (Done keyId date allowed m) ⟨false, m⟩ := by
  induction requests generalizing m with
  | nil =>
    refine Prog.Admits.pure ⟨rfl, fun _ admitted hok => ?_⟩
    rw [← Except.ok.inj hok]
    rfl
  | cons request rest ih =>
    refine Prog.Admits.bind (admits_letIn hplan request) (fun first st hst => ?_)
      fun e st hst => ?_
    · obtain ⟨waiting, passed⟩ := st
      obtain ⟨-, rfl, hfirst⟩ := hst
      refine Prog.Admits.bind ih (fun others st hothers => ?_) fun e st hothers => ?_
      · refine Prog.Admits.pure ⟨hothers.1, fun hall admitted hok => ?_⟩
        have hpassed : passed = m + admissions keyId first := hfirst hall _ rfl
        rw [hothers.2 hall _ rfl, hpassed, ← Except.ok.inj hok]
        simp only [admissions, List.countP_append]
        omega
      · exact ⟨hothers.1, fun _ admitted hok => by cases hok⟩
    · obtain ⟨⟨_, hok⟩, -⟩ := hst
      cases hok

end Gate

/-! ## What administrators and the clock do -/

section Others

variable {p : Platform} {keyId : Uuid} {date : Int}

/-- No step of the program writes to the usage rows. -/
abbrev SparesUsage {α : Type} (q : Program α) : Prop := q.Each fun _ s s' => s'.usage = s.usage

theorem sparesUsage_read {α : Type} (f : Store → α) : SparesUsage (read f) :=
  Prog.Each.act fun _ => rfl

theorem sparesUsage_updateKey (id : Uuid) (change : KeyChange) :
    SparesUsage (updateKey id change) := by
  refine Prog.Each.attempt (fun s key s' hupdate => ?_) fun _ _ => rfl
  obtain ⟨_, -, hpair⟩ := Option.map_eq_some_iff.mp hupdate
  obtain ⟨-, rfl⟩ := Prod.mk.inj hpair
  rfl

theorem sparesUsage_createKey (dto : CreatePartnerKeyDto) (key : RawKey) :
    SparesUsage (createKey dto key) := by
  refine Prog.Each.attempt (fun s record s' hcreate => ?_) fun _ _ => rfl
  split at hcreate
  · cases hcreate
  · cases hcreate
    rfl

theorem sparesUsage_issueKey (actor : AuthenticatedUser) (dto : CreatePartnerKeyDto)
    (ctx : RequestContext) : SparesUsage (issueKey p actor dto ctx) := by
  refine Prog.Each.bind (sparesUsage_read _) fun tenant => ?_
  cases tenant with
  | none => exact Prog.Each.throw _
  | some tenant =>
    dsimp only
    split
    · exact Prog.Each.throw _
    · exact Prog.Each.bind (Prog.Each.act fun _ => rfl) fun key =>
        Prog.Each.bind (sparesUsage_createKey dto key) fun record =>
          Prog.Each.bind (Prog.Each.act fun _ => rfl) fun _ => Prog.Each.pure _

/-- Both changes of a key read it, and write it where it is not so already. -/
theorem sparesUsage_change {id : Uuid} {change : KeyChange} {settled : PartnerApiKey → Prop}
    [DecidablePred settled] {input : PartnerApiKey → EvidenceVault.AppendEvidenceInput} :
    SparesUsage (do
      match ← findKey id with
      | none => throw (.notFound "Partner API key not found")
      | some key =>
        if settled key then
          return (← findKey id).map safeSelect
        else
          let updated ← updateKey id change
          appendEvidence (input key)
          return some updated : Program (Option SafeKey)) := by
  refine Prog.Each.bind (sparesUsage_read _) fun key => ?_
  cases key with
  | none => exact Prog.Each.throw _
  | some key =>
    dsimp only
    split
    · exact Prog.Each.bind (sparesUsage_read _) fun _ => Prog.Each.pure _
    · exact Prog.Each.bind (sparesUsage_updateKey id change) fun _ =>
        Prog.Each.bind (Prog.Each.act fun _ => rfl) fun _ => Prog.Each.pure _

theorem sparesUsage_setTenantStatus (admin : AuthenticatedUser) (tenantId : Uuid)
    (dto : SetTenantStatusDto) (ctx : RequestContext) :
    SparesUsage (setTenantStatus admin tenantId dto ctx) := by
  refine Prog.Each.bind (sparesUsage_read _) fun tenant => ?_
  cases tenant with
  | none => exact Prog.Each.throw _
  | some tenant =>
    dsimp only
    split
    · exact Prog.Each.throw _
    · split
      · exact Prog.Each.throw _
      · refine Prog.Each.bind (Prog.Each.attempt (fun s t s' hupdate => ?_) fun _ _ => rfl)
          fun _ => Prog.Each.bind (Prog.Each.act fun _ => rfl) fun _ => Prog.Each.pure _
        obtain ⟨_, -, hpair⟩ := Option.map_eq_some_iff.mp hupdate
        obtain ⟨-, rfl⟩ := Prod.mk.inj hpair
        rfl

theorem sparesUsage_admin (call : AdminCall) : SparesUsage (call.program p) := by
  cases call with
  | issue actor dto ctx =>
    exact Prog.Each.bind (sparesUsage_issueKey actor dto ctx) fun _ => Prog.Each.pure _
  | updatePlan actor id plan ctx =>
    exact Prog.Each.bind sparesUsage_change fun _ => Prog.Each.pure _
  | revoke actor id ctx => exact Prog.Each.bind sparesUsage_change fun _ => Prog.Each.pure _
  | list tenantId => exact Prog.Each.bind (sparesUsage_read _) fun _ => Prog.Each.pure _
  | setStatus admin tenantId dto ctx =>
    exact Prog.Each.bind (sparesUsage_setTenantStatus admin tenantId dto ctx) fun _ =>
      Prog.Each.pure _

theorem sparesUsage_manage (calls : List AdminCall) : SparesUsage (manage p calls) := by
  induction calls with
  | nil => exact Prog.Each.pure _
  | cons call rest ih =>
    exact Prog.Each.bind (sparesUsage_admin call) fun _ => ih

theorem sparesUsage_tell (times : List Int) : SparesUsage (tell times) := by
  induction times with
  | nil => exact Prog.Each.pure _
  | cons now rest ih => exact Prog.Each.bind (Prog.Each.act fun _ => rfl) fun _ => ih

/-- A process that does not serve leaves every count alone. -/
theorem spares_process {process : Process} (h : ∀ requests, process ≠ .serving requests) :
    (process.program p).Each fun _ x y =>
      requestCount keyId date y = requestCount keyId date x := by
  have hspares : SparesUsage (process.program p) := by
    cases process with
    | serving requests => exact absurd rfl (h requests)
    | managing calls => exact sparesUsage_manage calls
    | clock times => exact sparesUsage_tell times
  refine hspares.mono fun _ x y hsame => ?_
  rw [requestCount, requestCount, hsame]

end Others

/-! ## Runs -/

section Runs

variable {ι : Type} [DecidableEq ι] {p : Platform} {processes : ι → Process}
  {workers : Finset ι} {keyId : Uuid} {date limit : Int} {s : Store} {t : Server ι}

theorem atGate (date : Int) {allowed : DbStep → Store → Prop} {sure : DbStep → Prop}
    (hserves : ∀ i, i ∈ workers ↔ ∃ requests, processes i = .serving requests)
    (hplan : ∀ l s, allowed l s → PlanWithin keyId limit s)
    (hrun : Pool.Run (Prog.surely allowed sure) (server p processes s) t) :
    ∃ stage, AtGate (quota keyId date limit) allowed sure (Done keyId date allowed 0) workers
      (requestCount keyId date s) stage t := by
  refine Run.admission hrun (fun i hi => ?_) fun i hi => ?_
  · obtain ⟨requests, hprocess⟩ := (hserves i).mp hi
    show ((processes i).program p).Admits _ _ _ _ _
    rw [hprocess]
    exact admits_serve hplan requests
  · exact spares_process fun requests hprocess => hi ((hserves i).mpr ⟨requests, hprocess⟩)

/-- **The burst at the limit**: with `n` workers the count of a key on a day never goes past the
limit of its plan by more than `n - 1`, in any interleaving with administrators and the clock, and
with any failing steps. -/
theorem quota_burst (hserves : ∀ i, i ∈ workers ↔ ∃ requests, processes i = .serving requests)
    (hrun : Pool.Run (Prog.interleaved fun _ => PlanWithin keyId limit)
      (server p processes s) t) :
    requestCount keyId date t.shared ≤
      max (requestCount keyId date s) (limit - 1 + workers.card) := by
  obtain ⟨stage, hgate⟩ := atGate date hserves (fun _ _ h => h)
    (Run.surely_of_interleaved hrun)
  have hbound := hgate.bound
  have hcount : (quota keyId date limit).count t.shared = requestCount keyId date t.shared := rfl
  have hlimit : (quota keyId date limit).limit = limit := rfl
  omega

/-- Two workers that serve the same request. -/
def sampleWorkers : Fin 2 → Process := fun _ => .serving [sampleRequest]

theorem sampleWorkers_serve (i : Fin 2) :
    i ∈ Finset.univ ↔ ∃ requests, sampleWorkers i = .serving requests :=
  ⟨fun _ => ⟨_, rfl⟩, fun _ => Finset.mem_univ i⟩

/-- Both read the count before one of them raises it. -/
theorem quota_burst_two : requestCount "K" 0
    (Prog.turns (server samplePlatform sampleWorkers samplePartner)
      [(0, 2), (1, 2), (0, 2), (1, 2)]).shared ≤
      max (requestCount "K" 0 samplePartner) (1000 - 1 + (Finset.univ : Finset (Fin 2)).card) :=
  quota_burst sampleWorkers_serve (Prog.run_turns .refl (by decide))

/-- The requests of a key that a worker has admitted, once it is done. -/
def admittedBy (keyId : Uuid) (q : Program (List PartnerPrincipal)) : Nat :=
  admissions keyId ((Prog.returned q).getD [])

/-- **The burst of admissions**: where the counting writes of a day go through, the workers admit
no more requests of a key than its plan has left, and `n - 1`. -/
theorem admitted_burst (hserves : ∀ i, i ∈ workers ↔ ∃ requests, processes i = .serving requests)
    (hrun : Pool.Run (Prog.surely (fun _ s => PlanWithin keyId limit s ∧
      todayUtcBucket s.now = date) (· = .touch)) (server p processes s) t) :
    requestCount keyId date s + (∑ i ∈ workers, admittedBy keyId (t.locals i) : Nat) ≤
      max (requestCount keyId date s) (limit - 1 + workers.card) := by
  obtain ⟨stage, hgate⟩ := atGate date hserves (fun _ _ h => h.1) hrun
  have hbound := hgate.bound
  have hexact := hgate.exact fun _ h => h
  have hadmitted : (∑ i ∈ workers, admittedBy keyId (t.locals i)) ≤ passes workers stage := by
    refine Finset.sum_le_sum fun i hi => ?_
    rw [admittedBy]
    cases hreturned : Prog.returned (t.locals i) with
    | none => exact Nat.zero_le _
    | some admitted =>
      have hdone := hgate.working i hi
      rw [Prog.eq_pure_of_returned hreturned] at hdone
      have hpassed := hdone.2 (fun _ _ h => h.2) admitted rfl
      rw [hpassed, Option.getD_some]
      omega
  have hlimit : (quota keyId date limit).limit = limit := rfl
  omega

theorem admitted_burst_two : requestCount "K" 0 samplePartner + (∑ i ∈ Finset.univ,
      admittedBy "K" ((Prog.turns (server samplePlatform sampleWorkers samplePartner)
        [(0, 2), (1, 2), (0, 2), (1, 2)]).locals i) : Nat) ≤
      max (requestCount "K" 0 samplePartner) (1000 - 1 + (Finset.univ : Finset (Fin 2)).card) :=
  admitted_burst sampleWorkers_serve (run_turns_sure .refl (by decide))

end Runs

/-! ## The burst is attained -/

section Attained

variable {ι : Type} [DecidableEq ι] {p : Platform} {request : PartnerRequest} {key : PartnerApiKey}
  {today : Int} {s x : Store}

/-- What is left of a worker whose request has been checked. -/
def checked (key : PartnerApiKey) (today : Int) : Program (List PartnerPrincipal) :=
  tryCatch (do
    let principal ← (do
      bestEffort (touchKey key.id)
      bestEffort (countRequest key.id today)
      return ⟨key.id, key.tenantId, key.keyPrefix⟩ : Program PartnerPrincipal)
    return [principal]) (fun _ => pure []) >>= fun first => do
      let others ← (pure [] : Program (List PartnerPrincipal))
      return first ++ others

/-- The request is admitted by the key in this state, whose plan has a limit. -/
structure Admissible (p : Platform) (request : PartnerRequest) (key : PartnerApiKey)
    (today : Int) (s : Store) : Prop where
  header : ∃ raw, present (extractKey request.header) = some raw ∧
    Table.find PartnerApiKey.keyHash (p.sha256 raw) s.apiKeys = some key
  check : checkKey request.required s.now key = .ok ()
  day : todayUtcBucket s.now = today
  limit : ∃ l, DAILY_LIMITS key.plan = some l ∧ requestCount key.id today s < l

theorem advance_check (h : Admissible p request key today s) :
    Prog.advance 2 s (serve p [request]) = (s, checked key today) := by
  obtain ⟨raw, hraw, hfind⟩ := h.header
  obtain ⟨l, hl, hcount⟩ := h.limit
  rw [serve, letIn, canActivate, hraw]
  -- the first step has read the key and the clock; the second one is to read the count
  show Prog.advance 1 s (tryCatch ((_ : Program PartnerPrincipal) >>= _) _ >>= _) = _
  simp only [Prog.bind]
  rw [hfind]
  dsimp only
  rw [h.check, h.day, checkQuota, hl]
  show Prog.advance 0 s (tryCatch (((if requestCount key.id today s ≥ l then _ else _ :
    Program Unit) >>= _) >>= _) _ >>= _) = _
  rw [if_neg (by omega)]
  rfl

/-- The key is there to be touched. -/
def Touchable (id : Uuid) (s : Store) : Prop := id ∈ s.apiKeys.map PartnerApiKey.id

theorem advance_count (h : Touchable key.id x) :
    ∃ y, Prog.advance 2 x (checked key today) =
        (y, pure [⟨key.id, key.tenantId, key.keyPrefix⟩]) ∧ Touchable key.id y ∧
      requestCount key.id today y = requestCount key.id today x + 1 := by
  cases hfind : Table.find PartnerApiKey.id key.id x.apiKeys with
  | none => exact absurd h (Table.find_eq_none_iff.mp hfind)
  | some found =>
    let touched : Store := { x with
      apiKeys := Table.modify PartnerApiKey.id key.id (fun k => { k with lastUsedAt := some x.now })
        x.apiKeys }
    refine ⟨(Prog.advance 1 touched (countRequest key.id today)).1, ?_, ?_, ?_⟩
    · let found := (Table.find PartnerApiKey.id key.id x.apiKeys).map fun _ => ((), touched)
      show Prog.advance 1 ((found.map (·.2)).getD x) (Prog.bind (Prog.tryCatch (Prog.bind (Prog.bind
        (Prog.tryCatch ((found.map fun r => Prog.pure r.1).getD (Prog.throw _)) _) _) _) _) _) = _
      have hfound : found = some ((), touched) := by simp [found, hfind]
      rw [hfound]
      rfl
    · show key.id ∈ touched.apiKeys.map PartnerApiKey.id
      have hids : touched.apiKeys.map PartnerApiKey.id = x.apiKeys.map PartnerApiKey.id :=
        Table.map_modify fun _ => rfl
      rw [hids]
      exact h
    · refine (requestCount_counted key.id key.id today today touched).trans ?_
      rw [if_pos ⟨rfl, rfl⟩]
      rfl

section Plan

variable {keyId : Uuid} {limit : Int}

/-- No step of the program takes a key out of its limit. -/
abbrev KeepsPlan (keyId : Uuid) (limit : Int) {α : Type} (q : Program α) : Prop :=
  q.Each fun _ s s' => PlanWithin keyId limit s → PlanWithin keyId limit s'

theorem keepsPlan_read {α : Type} (f : Store → α) : KeepsPlan keyId limit (read f) :=
  Prog.Each.act fun _ h => h

theorem keepsPlan_touchKey (id : Uuid) : KeepsPlan keyId limit (touchKey id) := by
  refine Prog.Each.attempt (fun s u s' htouch h => ?_) fun _ _ h => h
  obtain ⟨_, -, hpair⟩ := Option.map_eq_some_iff.mp htouch
  obtain ⟨-, rfl⟩ := Prod.mk.inj hpair
  intro key' hkey' hid
  obtain ⟨row, hrow, rfl⟩ := Table.mem_modify.mp hkey'
  by_cases htouched : row.id = id
  · rw [if_pos htouched] at hid ⊢
    exact h row hrow hid
  · rw [if_neg htouched] at hid ⊢
    exact h row hrow hid

theorem keepsPlan_count (id : Uuid) (today : Int) : KeepsPlan keyId limit (countRequest id today) :=
  Prog.Each.act fun _ h => h

theorem keepsPlan_bestEffort {q : Program Unit} (h : KeepsPlan keyId limit q) :
    KeepsPlan keyId limit (bestEffort q) :=
  h.tryCatch fun _ => Prog.Each.pure _

/-- The writes after a check. -/
theorem keepsPlan_writes {key : PartnerApiKey} {today : Int} :
    KeepsPlan keyId limit (do
      bestEffort (touchKey key.id)
      bestEffort (countRequest key.id today)
      return { keyId := key.id, tenantId := key.tenantId, keyPrefix := key.keyPrefix } :
        Program PartnerPrincipal) :=
  Prog.Each.bind (keepsPlan_bestEffort (keepsPlan_touchKey _)) fun _ =>
    Prog.Each.bind (keepsPlan_bestEffort (keepsPlan_count _ _)) fun _ => Prog.Each.pure _

theorem keepsPlan_checkQuota (key : PartnerApiKey) (today : Int) :
    KeepsPlan keyId limit (checkQuota p key today) := by
  rw [checkQuota]
  cases DAILY_LIMITS key.plan with
  | none => exact Prog.Each.pure _
  | some l =>
    refine Prog.Each.bind (keepsPlan_read _) fun count => ?_
    split
    · exact Prog.Each.throw _
    · exact Prog.Each.pure _

theorem keepsPlan_canActivate (request : PartnerRequest) :
    KeepsPlan keyId limit (canActivate p request) := by
  rw [canActivate]
  cases present (extractKey request.header) with
  | none => exact Prog.Each.throw _
  | some raw =>
    refine Prog.Each.bind (keepsPlan_read _) fun found => ?_
    obtain ⟨key, now⟩ := found
    cases key with
    | none => exact Prog.Each.throw _
    | some key =>
      dsimp only
      cases checkKey request.required now key with
      | error e => exact Prog.Each.throw _
      | ok _ => exact Prog.Each.bind (keepsPlan_checkQuota key _) fun _ => keepsPlan_writes

theorem keepsPlan_checked (key : PartnerApiKey) (today : Int) :
    KeepsPlan keyId limit (checked key today) :=
  Prog.Each.bind ((Prog.Each.bind keepsPlan_writes fun _ => Prog.Each.pure _).tryCatch
    fun _ => Prog.Each.pure _) fun _ => Prog.Each.pure _

theorem keepsPlan_serve : KeepsPlan keyId limit (serve p [request]) :=
  Prog.Each.bind ((Prog.Each.bind (keepsPlan_canActivate request) fun _ =>
    Prog.Each.pure _).tryCatch fun _ => Prog.Each.pure _) fun _ => Prog.Each.pure _

end Plan

/-- **The burst is attained**: any number of workers that check the same request before one of
them has counted it, are all let through. -/
theorem burst_attained (n : Nat) {limit : Int} (h : Admissible p request key today s)
    (hplan : PlanWithin key.id limit s) :
    ∃ t, Pool.Run (Prog.interleaved fun _ => PlanWithin key.id limit)
        (server p (fun _ : Fin n => .serving [request]) s) t ∧
      (∀ i, Prog.returned (t.locals i) = some [⟨key.id, key.tenantId, key.keyPrefix⟩]) ∧
      requestCount key.id today t.shared = requestCount key.id today s + n := by
  have htouch : Touchable key.id s := by
    obtain ⟨raw, -, hfind⟩ := h.header
    exact List.mem_map_of_mem (Table.mem_of_find hfind)
  have hpermitted : ∀ (q : Program (List PartnerPrincipal)) x, KeepsPlan key.id limit q →
      PlanWithin key.id limit x →
      Prog.Permitted (fun _ => PlanWithin key.id limit) 2 x q :=
    fun q x hq hx => permitted_of_each 2 hq hx fun _ _ h => h
  have hcheck : ∀ (k : Nat) x, x = s →
      Prog.Permitted (fun _ => PlanWithin key.id limit) 2 x (serve p [request]) ∧
        ∃ y, Prog.advance 2 x (serve p [request]) = (y, checked key today) ∧ y = s := by
    rintro _ x rfl
    exact ⟨hpermitted _ x keepsPlan_serve hplan, x, advance_check h, rfl⟩
  have hcount : ∀ (k : Nat) x, (PlanWithin key.id limit x ∧ Touchable key.id x ∧
        requestCount key.id today x = requestCount key.id today s + k) →
      Prog.Permitted (fun _ => PlanWithin key.id limit) 2 x (checked key today) ∧
        ∃ y, Prog.advance 2 x (checked key today) =
            (y, pure [⟨key.id, key.tenantId, key.keyPrefix⟩]) ∧
          PlanWithin key.id limit y ∧ Touchable key.id y ∧
          requestCount key.id today y = requestCount key.id today s + (k + 1 : Nat) := by
    rintro k x ⟨hx, htouchx, hcountx⟩
    obtain ⟨y, hadvance, htouchy, hcounty⟩ := advance_count htouchx
    have hy := each_advance (I := PlanWithin key.id limit) 2 (keepsPlan_checked key today) hx
    rw [hadvance] at hy
    exact ⟨hpermitted _ x (keepsPlan_checked key today) hx, y, hadvance, hy, htouchy, by omega⟩
  have hstart : Pool.Run (Prog.surely (fun _ => PlanWithin key.id limit) fun _ => True)
      (server p (fun _ : Fin n => .serving [request]) s)
      ⟨s, fun _ => serve p [request]⟩ := .refl
  obtain ⟨_, rfl, hchecks⟩ := run_in_turn (I := fun _ x => x = s) (k := 0) hcheck hstart rfl
    (fun i _ => rfl) (List.nodup_finRange n)
  obtain ⟨y, ⟨-, -, hcounts⟩, hrun⟩ := run_in_turn (k := 0) hcount hchecks
    ⟨hplan, htouch, by simp⟩ (fun i hi => if_pos hi) (List.nodup_finRange n)
  refine ⟨_, Run.interleaved_of_surely hrun, fun i => ?_, ?_⟩
  · simp only [List.mem_finRange, if_true]
    rfl
  · simpa using hcounts

theorem sample_admissible : Admissible samplePlatform sampleRequest sampleKey 0 samplePartner where
  header := ⟨"first", by decide, by decide⟩
  check := by decide
  day := by decide
  limit := ⟨1000, by decide, by decide⟩

theorem burst_attained_three : ∃ t, Pool.Run (Prog.interleaved fun _ => PlanWithin "K" 1000)
      (server samplePlatform (fun _ : Fin 3 => .serving [sampleRequest]) samplePartner) t ∧
    (∀ i, Prog.returned (t.locals i) = some [⟨"K", "T", "vsk_"⟩]) ∧
    requestCount "K" 0 t.shared = requestCount "K" 0 samplePartner + 3 :=
  burst_attained 3 sample_admissible (by decide)

end Attained

end PartnerKeys
