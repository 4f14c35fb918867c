import Vigiscam.Checks.Faults
import Vigiscam.Concurrency.Calls
import Vigiscam.Protection.Faults

/-!
# Wallet checks of addresses that are none

WalletGuard stores the check of an address that fails the format of its network as CRITICAL,
with the score 100 and `addressValid` false, and says of it that it goes straight to BLOCKED. It
does not: the row is PENDING as every other, and `decide` never looks at `addressValid`. What
stands between its owner and VALIDATED or CONTINUED_ANYWAY are the protection settings and the
reviews, as for any CRITICAL check (`invalid_held_iff`).

`check` and `decide` work on one table. Their calls are atomic, and any of their steps may fail.
Between two calls the rest of the database becomes whatever it likes.
-/

namespace Checks.Wallets

open Js Concurrency EvidenceVault Protection

/-! ## One table -/

/-- The database, as `check` sees it and as `decide` does. The wallet checks are the rows of the
former. -/
structure Store where
  checks : Checks.Store
  protection : Protection.Store

abbrev Row := CheckEvent .walletGuard

def Store.rows (s : Store) : List Row := s.checks.events .walletGuard

/-- The wallet checks, as `decide` finds them. -/
def Store.held (s : Store) : Protection.Store :=
  { s.protection with
    events := Function.update s.protection.events .walletGuard fun id =>
      (Table.find CheckEvent.id id s.rows).map CheckEvent.toHeldEvent }

/-- A wallet check, as a decision has left it. -/
def decidedRow (p : Protection.Store) (row : Row) : Row :=
  { row with toHeldEvent := (p.events .walletGuard row.id).getD row.toHeldEvent }

@[simp] theorem id_decidedRow (p : Protection.Store) (row : Row) :
    (decidedRow p row).id = row.id := rfl

@[simp] theorem columns_decidedRow (p : Protection.Store) (row : Row) :
    (decidedRow p row).columns = row.columns := rfl

theorem map_id_decidedRow (p : Protection.Store) (rows : List Row) :
    (rows.map (decidedRow p)).map CheckEvent.id = rows.map CheckEvent.id := by
  rw [List.map_map]
  exact List.map_congr_left fun row _ => rfl

/-- The database after a decision. -/
def Store.afterDecision (s : Store) (p : Protection.Store) : Store where
  checks := { s.checks with
    events := Function.update s.checks.events .walletGuard (s.rows.map (decidedRow p))
    events_issued := by
      refine (Function.forall_update_iff s.checks.events fun m rows =>
        ∀ n, s.checks.issued ≤ n → s.checks.uuid n ∉ rows.map CheckEvent.id).mpr
          ⟨fun n hn => ?_, fun m' _ => s.checks.events_issued m'⟩
      rw [map_id_decidedRow]
      exact s.checks.events_issued .walletGuard n hn }
  protection := p

@[simp] theorem rows_afterDecision (s : Store) (p : Protection.Store) :
    (s.afterDecision p).rows = s.rows.map (decidedRow p) := by
  simp [Store.rows, Store.afterDecision]

/-! ## Runs -/

inductive WalletCall where
  | check (user : AuthenticatedUser) (dto : WalletGuardService.CheckWalletDto)
  | decide (user : AuthenticatedUser) (id : Uuid) (decision : WalletGuardUserDecision)
      (notes : Option Text)

/-- A call, with the steps of it that fail, and what has become of the rest of the database before
it: of settings, reviews and all other tables. -/
structure Event where
  call : WalletCall
  fails : List Bool
  meanwhile : Store → Store
  keeps : ∀ s, (meanwhile s).rows = s.rows

section Run

variable (toLowerCase : Text → Text)

def WalletCall.exec (fails : List Bool) : WalletCall → Store → Store
  | .check user dto, s =>
    { s with checks :=
        (Prog.outcome fails (WalletGuardService.check toLowerCase user dto) s.checks).2.2 }
  | .decide user id decision notes, s =>
    s.afterDecision
      (Prog.outcome fails (Protection.WalletGuardService.decide user id decision notes)
        s.held).2.2

def Event.exec (e : Event) (s : Store) : Store :=
  e.call.exec toLowerCase e.fails (e.meanwhile s)

end Run

/-! ## What lets an invalid address go ahead -/

/-- The row says that its user went ahead. -/
def WentAhead (row : Row) : Prop :=
  row.status = WalletGuardDecision.validated ∨ row.status = WalletGuardDecision.continuedAnyway

/-- What the settings of a user and the reviews allow on a CRITICAL check. -/
def Lets (p : Protection.Store) (userId id : Uuid) : WalletGuardUserDecision → Prop
  | .continuedAnyway =>
    (p.settingsOf userId).allowContinueAnyway = true ∧
      (p.settingsOf userId).trustedContactRequired = false ∧
      (p.settingsOf userId).elderModeStrictLock = false ∧ (p.elderMode userId).getD false = false
  | .validated =>
    ((p.settingsOf userId).trustedContactRequired = false ∧
      (p.settingsOf userId).elderModeStrictLock = false) ∨ Approved p .walletGuard id
  | .blocked | .escalatedToTrustedContact => False

/-- A call validates or continues a pending check of its user's whose address is invalid, the
settings and the reviews let it, and no step of it fails but a log. -/
def WalletCall.LetsAhead (fails : List Bool) (s : Store) : WalletCall → Prop
  | .check _ _ => False
  | .decide user id decision notes =>
    Lets s.protection user.userId id decision ∧
      LogsOnly (Prog.outcome fails (Protection.WalletGuardService.decide user id decision notes)
        s.held).1 ∧
      ∃ row ∈ s.rows, row.id = id ∧ row.userId = user.userId ∧
        row.status = WalletGuardDecision.pending ∧ row.columns.addressValid = false

/-- What the policy makes of a CRITICAL check without an amount. -/
theorem evaluate_critical (settings : ProtectionSettings) (elder : Bool) :
    let policy := evaluate settings
      { riskLevel := .critical, amountMinor := none, elderModeEnabled := elder }
    policy.trustedContactReviewRequired =
        (settings.trustedContactRequired || settings.elderModeStrictLock) ∧
      policy.continueAnywayAllowed = (settings.allowContinueAnyway &&
        !(settings.elderModeStrictLock || elder) &&
        !(settings.trustedContactRequired || settings.elderModeStrictLock)) := by
  simp [evaluate]

/-- On a CRITICAL check the verdict is what the settings and the reviews allow. -/
theorem verdict_iff_lets {e : HeldEvent .walletGuard} (hrisk : e.riskLevel = .critical)
    (s : Store) (user : AuthenticatedUser) (id : Uuid) (decision : WalletGuardUserDecision)
    (hahead : decision = .validated ∨ decision = .continuedAnyway) :
    (∃ policy, ProtectionEnforcementService.verdict s.held user
        (Protection.WalletGuardService.spec.enforceParams id e decision) = .ok policy) ↔
      Lets s.protection user.userId id decision := by
  obtain ⟨hrequired, hallowed⟩ := evaluate_critical (s.protection.settingsOf user.userId)
    ((s.protection.elderMode user.userId).getD false)
  have hpolicy : policyOf s.held user.userId .critical none =
      evaluate (s.protection.settingsOf user.userId)
        { riskLevel := .critical, amountMinor := none
          elderModeEnabled := (s.protection.elderMode user.userId).getD false } := rfl
  rcases hahead with rfl | rfl
  · rw [verdict_release_iff rfl]
    show ((policyOf s.held user.userId e.riskLevel none).trustedContactReviewRequired = true →
      Approved s.protection .walletGuard id) ↔ _
    rw [hrisk, hpolicy, hrequired]
    simp [Lets, imp_iff_not_or]
  · rw [verdict_continue_iff rfl]
    show (policyOf s.held user.userId e.riskLevel none).continueAnywayAllowed = true ↔ _
    rw [hrisk, hpolicy, hallowed]
    simp [Lets]
    tauto

/-! ## What a check stores -/

/-- What is stored of an address: the column says whether it has the format of its network, and
where it has not the check is CRITICAL. -/
structure Stored (row : Row) : Prop where
  addressValid : row.columns.addressValid = isAddressValid row.details.network row.columns.address
  critical : row.columns.addressValid = false → row.riskLevel = .critical

structure Lawful (rows : List Row) : Prop where
  ids_nodup : (rows.map CheckEvent.id).Nodup
  stored : ∀ row ∈ rows, Stored row

/-- No check of an invalid address went ahead. -/
def Held (rows : List Row) : Prop :=
  ∀ row ∈ rows, row.columns.addressValid = false → ¬ WentAhead row

section Rows

variable {rows : List Row} {row : Row} {f : Row → Row}

theorem Lawful.concat (h : Lawful rows) (hnew : row.id ∉ rows.map CheckEvent.id)
    (hrow : Stored row) : Lawful (rows ++ [row]) where
  ids_nodup := Table.nodup_append_new h.ids_nodup hnew
  stored := by
    intro row' hrow'
    rcases List.mem_append.mp hrow' with hmem | hmem
    · exact h.stored row' hmem
    · rw [List.mem_singleton.mp hmem]
      exact hrow

theorem Lawful.map (h : Lawful rows) (hid : ∀ row, (f row).id = row.id)
    (hstored : ∀ row ∈ rows, Stored row → Stored (f row)) : Lawful (rows.map f) where
  ids_nodup := by
    rw [List.map_map, show CheckEvent.id ∘ f = CheckEvent.id from funext hid]
    exact h.ids_nodup
  stored := by
    intro row' hrow'
    obtain ⟨row, hrow, rfl⟩ := List.mem_map.mp hrow'
    exact hstored row hrow (h.stored row hrow)

theorem Held.concat (h : Held rows) (hrow : ¬ WentAhead row) : Held (rows ++ [row]) := by
  intro row' hrow' hinvalid
  rcases List.mem_append.mp hrow' with hmem | hmem
  · exact h row' hmem hinvalid
  · rw [List.mem_singleton.mp hmem]
    exact hrow

end Rows

section Check

variable {user : AuthenticatedUser} {dto : WalletGuardService.CheckWalletDto}

theorem stored_newEvent (spec : CheckSpec .walletGuard WalletGuardService.CheckWalletDto)
    (n : Nat) (riskScore : Int) (now : Date) (id : Uuid) :
    Stored (spec.newEvent user dto (WalletGuardService.columns dto) n
      (WalletGuardService.scoring dto n) riskScore now id) where
  addressValid := (isAddressValid_trim dto.network dto.address).symm
  critical h := by
    have hinvalid : dto.addressValid = false := h
    show (WalletGuardService.scoring dto n).level = .critical
    rw [WalletGuardService.scoring, if_neg (by simp [hinvalid])]
    rfl

theorem not_wentAhead_of_pending {row : Row} (h : row.status = WalletGuardDecision.pending) :
    ¬ WentAhead row := by
  rw [WentAhead, h]
  rintro (h | h) <;> cases h

/-- However it goes, a program keeps what is stored lawful, and takes no check ahead. -/
abbrev Keeps {α : Type} (p : Program α) : Prop :=
  p.Each fun _ s t => (Lawful (s.events .walletGuard) → Lawful (t.events .walletGuard)) ∧
    (Held (s.events .walletGuard) → Held (t.events .walletGuard))

theorem keeps_of_sameRows {α : Type} {p : Program α}
    (h : p.Each fun _ s t => t.events = s.events) : Keeps p := by
  refine h.mono fun _ s t hsame => ?_
  rw [hsame]
  exact ⟨id, id⟩

theorem keeps_openEvent (toLowerCase : Text → Text) (n : Nat) :
    Keeps ((WalletGuardService.spec toLowerCase).openEvent user dto n
      (WalletGuardService.scoring dto n)) := by
  refine Prog.Each.attempt (fun s row t h => ?_) fun s _ => ⟨id, id⟩
  obtain ⟨riskScore, -, hriskScore⟩ := Option.map_eq_some_iff.mp h
  cases hriskScore
  simp only [Store.addEvent, Function.update_self]
  refine ⟨fun hlawful => ?_, fun hheld => hheld.concat (not_wentAhead_of_pending rfl)⟩
  exact hlawful.concat (s.events_issued .walletGuard s.issued le_rfl) (stored_newEvent ..)

theorem keeps_linkEvent (id evidenceEventId : Uuid) (guardianPauseEventId : Option Uuid) :
    Keeps (linkEvent .walletGuard id evidenceEventId guardianPauseEventId) := by
  refine Prog.Each.attempt (fun s row t h => ?_) fun s _ => ⟨fun h => h, fun h => h⟩
  obtain ⟨row, -, hrow⟩ := Option.map_eq_some_iff.mp h
  cases hrow
  simp only [Store.linkEvent, Function.update_self]
  refine ⟨fun hlawful => hlawful.map (fun row => ?_) fun row _ hstored => ?_, fun hheld => ?_⟩
  · split <;> rfl
  · split
    · exact ⟨hstored.addressValid, hstored.critical⟩
    · exact hstored
  · intro row' hrow' hinvalid
    obtain ⟨row, hmem, rfl⟩ := Table.mem_modify.mp hrow'
    by_cases hid : row.id = id
    · rw [if_pos hid] at hinvalid ⊢
      exact hheld row hmem hinvalid
    · rw [if_neg hid] at hinvalid ⊢
      exact hheld row hmem hinvalid

/-- A program that writes no row of a check. -/
abbrev SparesRows {α : Type} (p : Program α) : Prop := p.Each fun _ s t => t.events = s.events

theorem sparesRows_start (startDto : GuardianPauseService.StartPauseDto) :
    SparesRows (GuardianPauseService.start user startDto) := by
  refine Prog.Each.bind (Prog.Each.act fun _ => rfl) fun n => ?_
  refine Prog.Each.bind (Prog.Each.act fun _ => rfl) fun created => ?_
  refine Prog.Each.bind (Prog.Each.act fun _ => rfl) fun evidenceEventId => ?_
  refine Prog.Each.attempt (fun s pause t h => ?_) fun s _ => rfl
  obtain ⟨pause, -, hpause⟩ := Option.map_eq_some_iff.mp h
  cases hpause
  rfl

theorem sparesRows_record (input : RiskEventRecorderService.RecordRiskEventInput) :
    SparesRows (RiskEventRecorderService.record user input) := by
  refine Prog.Each.attempt (fun s event t h => ?_) fun s _ => rfl
  obtain ⟨riskScore, -, hscore⟩ := Option.map_eq_some_iff.mp h
  cases hscore
  rfl

theorem sparesRows_projectWallet (toLowerCase : Text → Text) (scoring : ScoringResult) :
    SparesRows (WalletGuardService.projectWallet toLowerCase dto scoring) := by
  refine Prog.Each.tryCatch ?_ fun _ => Prog.Each.pure ()
  refine Prog.Each.bind ?_ fun _ => Prog.Each.pure ()
  refine (Prog.each_onPart _).mono fun _ s t h => ?_
  rw [h.2]
  rfl

/-- **A check** stores what is sound, however its steps fail. -/
theorem keeps_check (toLowerCase : Text → Text) :
    Keeps (WalletGuardService.check toLowerCase user dto) := by
  refine Prog.Each.bind (keeps_of_sameRows (Prog.Each.act fun _ => rfl)) fun n => ?_
  refine Prog.Each.bind (keeps_openEvent toLowerCase n) fun created => ?_
  refine Prog.Each.bind (keeps_of_sameRows (Prog.Each.act fun _ => rfl)) fun evidenceEventId => ?_
  refine Prog.Each.bind ?_ fun guardianPauseEventId => ?_
  · unfold CheckSpec.pullPause
    split
    · refine Prog.Each.bind (keeps_of_sameRows (sparesRows_start _)) fun pause => ?_
      exact Prog.Each.bind (Prog.Each.pure ()) fun _ => Prog.Each.pure _
    · exact Prog.Each.pure none
  refine Prog.Each.bind (keeps_of_sameRows (sparesRows_record _)) fun _ => ?_
  refine Prog.Each.bind ?_ fun _ => keeps_linkEvent _ _ _
  exact keeps_of_sameRows (sparesRows_projectWallet toLowerCase _)

theorem keeps_ends {toLowerCase : Text → Text} {s t : Checks.Store} {failed : List DbStep}
    {result : Except HttpError Row}
    (h : Prog.Ends (WalletGuardService.check toLowerCase user dto) s failed result t) :
    (Lawful (s.events .walletGuard) → Lawful (t.events .walletGuard)) ∧
      (Held (s.events .walletGuard) → Held (t.events .walletGuard)) := by
  refine (Prog.Each.ends (L := fun _ => True) (fun _ => ⟨id, id⟩) (fun _ _ _ hst htu => ?_)
    ((keeps_check toLowerCase).mono fun _ _ _ hstep => ⟨trivial, hstep⟩) h).2
  exact ⟨fun h => htu.1 (hst.1 h), fun h => htu.2 (hst.2 h)⟩

end Check

/-! ## A decision -/

section Decide

variable {s : Store} {p : Protection.Store} {user : AuthenticatedUser} {id : Uuid}
  {decision : WalletGuardUserDecision}

/-- The row that `decide` finds under an id is the one that has it. -/
theorem held_of_mem (h : Lawful s.rows) {row : Row} (hrow : row ∈ s.rows) :
    s.held.events .walletGuard row.id = some row.toHeldEvent := by
  have hfind := (Table.find_eq_some_iff h.ids_nodup).mpr ⟨hrow, rfl⟩
  simp only [Store.held, Function.update_self, hfind]
  rfl

/-- The row of a check after a decision, in terms of the row before it. -/
theorem decidedRow_writes (h : Lawful s.rows) {status : WalletGuardDecision}
    (hwrites : Writes .walletGuard status s.held p) {row : Row} (hrow : row ∈ s.rows) :
    (decidedRow p row).riskLevel = row.riskLevel ∧
      (decidedRow p row).details = row.details ∧
      ((decidedRow p row).status = row.status ∨ (decidedRow p row).status = status) := by
  show ((p.events .walletGuard row.id).getD row.toHeldEvent).riskLevel = _ ∧
    ((p.events .walletGuard row.id).getD row.toHeldEvent).details = _ ∧
    (((p.events .walletGuard row.id).getD row.toHeldEvent).status = _ ∨
      ((p.events .walletGuard row.id).getD row.toHeldEvent).status = _)
  cases hp : p.events .walletGuard row.id with
  | none => exact ⟨rfl, rfl, Or.inl rfl⟩
  | some e' =>
    obtain ⟨e, he, -, hrisk, hdetails, hstatus⟩ := hwrites row.id e' hp
    rw [held_of_mem h hrow] at he
    cases he
    exact ⟨hrisk, hdetails, hstatus⟩

theorem decidedRow_of_same (h : Lawful s.rows) {row : Row} (hrow : row ∈ s.rows)
    (hsame : p.events .walletGuard row.id = s.held.events .walletGuard row.id) :
    decidedRow p row = row := by
  rw [decidedRow, hsame, held_of_mem h hrow]
  rfl

/-- A decision takes a check ahead. -/
def Ahead (decision : WalletGuardUserDecision) : Prop :=
  decision = .validated ∨ decision = .continuedAnyway

theorem ahead_of_status {decision : WalletGuardUserDecision}
    (h : Protection.WalletGuardService.nextStatus decision = .validated ∨
      Protection.WalletGuardService.nextStatus decision = .continuedAnyway) : Ahead decision := by
  cases decision <;> simp_all [Protection.WalletGuardService.nextStatus, Ahead]

theorem status_of_ahead (h : Ahead decision) :
    Protection.WalletGuardService.nextStatus decision = .validated ∨
      Protection.WalletGuardService.nextStatus decision = .continuedAnyway := by
  rcases h with rfl | rfl
  · exact Or.inl rfl
  · exact Or.inr rfl

theorem ahead_of_lets {userId : Uuid} (h : Lets p userId id decision) : Ahead decision := by
  cases decision with
  | validated => exact Or.inl rfl
  | continuedAnyway => exact Or.inr rfl
  | blocked => exact h.elim
  | escalatedToTrustedContact => exact h.elim

theorem not_escalates_of_ahead (h : Ahead decision) :
    Protection.WalletGuardService.spec.escalates decision = false := by
  rcases h with rfl | rfl <;> rfl

/-- On an invalid check of the caller's the enforcement goes by the settings and the reviews. -/
theorem passes_iff_lets (h : Lawful s.rows) (hahead : Ahead decision) {row : Row}
    (hrow : row ∈ s.rows) (hid : row.id = id) (hinvalid : row.columns.addressValid = false) :
    Passes Protection.WalletGuardService.spec.toVocabulary user id decision s.held ↔
      row.userId = user.userId ∧ row.status = WalletGuardDecision.pending ∧
        Lets s.protection user.userId id decision := by
  have hcritical := (h.stored row hrow).critical hinvalid
  have hfound := held_of_mem h hrow
  rw [hid] at hfound
  constructor
  · rintro ⟨e, howned, hpending, hverdict⟩
    cases howned.found.symm.trans hfound
    exact ⟨howned.mine, hpending,
      (verdict_iff_lets hcritical s user id decision hahead).mp hverdict⟩
  · rintro ⟨hmine, hpending, hlets⟩
    exact ⟨row.toHeldEvent, ⟨hfound, hmine⟩, hpending,
      (verdict_iff_lets hcritical s user id decision hahead).mpr hlets⟩

/-- A decision keeps what is stored of the addresses. -/
theorem Lawful.decide (h : Lawful s.rows) {notes : Option Text} {failed : List Protection.DbStep}
    {result : Except HttpError (HeldEvent .walletGuard)}
    (hends : Prog.Ends (Protection.WalletGuardService.decide user id decision notes) s.held failed
      result p) : Lawful (s.rows.map (decidedRow p)) := by
  refine h.map (id_decidedRow p) fun row hrow hstored => ?_
  obtain ⟨hrisk, hdetails, -⟩ := decidedRow_writes h (writes_ends hends) hrow
  refine ⟨?_, fun hinvalid => hrisk.trans (hstored.critical hinvalid)⟩
  rw [columns_decidedRow, hdetails]
  exact hstored.addressValid

/-- **A decision that the settings and the reviews do not let ahead** takes no invalid check
ahead. -/
theorem Held.decide (hheld : Held s.rows) (h : Lawful s.rows) {notes : Option Text}
    {failed : List Protection.DbStep} {result : Except HttpError (HeldEvent .walletGuard)}
    (hends : Prog.Ends (Protection.WalletGuardService.decide user id decision notes) s.held failed
      result p)
    (hcond : ¬ (Lets s.protection user.userId id decision ∧ LogsOnly failed ∧
      ∃ row ∈ s.rows, row.id = id ∧ row.userId = user.userId ∧
        row.status = WalletGuardDecision.pending ∧ row.columns.addressValid = false)) :
    Held (s.rows.map (decidedRow p)) := by
  intro row' hrow' hinvalid hahead
  obtain ⟨row, hrow, rfl⟩ := List.mem_map.mp hrow'
  have hchanged : decidedRow p row ≠ row := fun hsame => hheld row hrow hinvalid (hsame ▸ hahead)
  obtain ⟨-, -, hstatus⟩ := decidedRow_writes h (writes_ends hends) hrow
  rcases hstatus with hstatus | hstatus
  · refine hheld row hrow hinvalid ?_
    rwa [WentAhead, hstatus] at hahead
  · rw [WentAhead, hstatus] at hahead
    have hdecision := ahead_of_status hahead
    have hend := Prog.outcomes_iff.mp
      (decideEnd notes (not_escalates_of_ahead hdecision) s.held) _ _ _ hends
    cases hend with
    | kept _ hevents => exact hchanged (decidedRow_of_same h hrow (by rw [hevents]))
    | decided hpasses hlogs hwritten =>
      obtain ⟨u, -, hevents⟩ := hwritten
      by_cases hid : row.id = id
      · obtain ⟨hmine, hpending, hlets⟩ :=
          (passes_iff_lets h hdecision hrow hid hinvalid).mp hpasses
        exact hcond ⟨hlets, hlogs, row, hrow, hid, hmine, hpending, hinvalid⟩
      · refine hchanged (decidedRow_of_same h hrow ?_)
        rw [hevents, Store.setEvent_of_ne fun hother => hid hother.2]

/-- What the settings and the reviews let ahead goes ahead. -/
theorem wentAhead_decidedRow (h : Lawful s.rows) {notes : Option Text}
    {failed : List Protection.DbStep}
    {result : Except HttpError (HeldEvent .walletGuard)}
    (hends : Prog.Ends (Protection.WalletGuardService.decide user id decision notes) s.held failed
      result p) (hlets : Lets s.protection user.userId id decision) (hlogs : LogsOnly failed)
    {row : Row} (hrow : row ∈ s.rows) (hid : row.id = id) (hmine : row.userId = user.userId)
    (hpending : row.status = WalletGuardDecision.pending)
    (hinvalid : row.columns.addressValid = false) :
    WentAhead (decidedRow p row) := by
  have hdecision := ahead_of_lets hlets
  have hpasses := (passes_iff_lets h hdecision hrow hid hinvalid).mpr ⟨hmine, hpending, hlets⟩
  have hend := Prog.outcomes_iff.mp
    (decideEnd notes (not_escalates_of_ahead hdecision) s.held) _ _ _ hends
  cases hend with
  | kept hnot _ => exact absurd ⟨hpasses, hlogs⟩ hnot
  | decided _ _ hwritten =>
    obtain ⟨u, hstatus, hevents⟩ := hwritten
    have hfound : p.events .walletGuard row.id = some u := by
      rw [hevents, hid, Store.setEvent_self]
    have hrow' : (decidedRow p row).status =
        Protection.WalletGuardService.nextStatus decision := by
      show ((p.events .walletGuard row.id).getD row.toHeldEvent).status = _
      rw [hfound]
      exact hstatus
    rw [WentAhead, hrow']
    exact status_of_ahead hdecision

end Decide

/-! ## Runs of checks and decisions -/

section Run

variable {toLowerCase : Text → Text} {s s₀ : Store} {e : Event}

theorem Lawful.exec (h : Lawful s.rows) : Lawful (e.exec toLowerCase s).rows := by
  have hbefore : Lawful (e.meanwhile s).rows := by rwa [e.keeps]
  unfold Event.exec
  generalize e.meanwhile s = s at hbefore ⊢
  cases e.call with
  | check user dto =>
    have hends := Prog.ends_outcome e.fails (WalletGuardService.check toLowerCase user dto) s.checks
    exact (keeps_ends hends).1 hbefore
  | decide user id decision notes =>
    show Lawful (s.afterDecision _).rows
    rw [rows_afterDecision]
    exact hbefore.decide (Prog.ends_outcome e.fails _ s.held)

/-- **A call that lets nothing ahead** takes no invalid check ahead. -/
theorem Held.exec (hheld : Held s.rows) (h : Lawful s.rows)
    (hcond : ¬ e.call.LetsAhead e.fails (e.meanwhile s)) : Held (e.exec toLowerCase s).rows := by
  have hbefore : Lawful (e.meanwhile s).rows := by rwa [e.keeps]
  have hheld' : Held (e.meanwhile s).rows := by rwa [e.keeps]
  unfold Event.exec
  generalize e.meanwhile s = s at hbefore hheld' hcond ⊢
  cases hcall : e.call with
  | check user dto =>
    have hends := Prog.ends_outcome e.fails (WalletGuardService.check toLowerCase user dto) s.checks
    exact (keeps_ends hends).2 hheld'
  | decide user id decision notes =>
    rw [hcall] at hcond
    show Held (s.afterDecision _).rows
    rw [rows_afterDecision]
    exact hheld'.decide hbefore (Prog.ends_outcome e.fails _ s.held) hcond

theorem not_held_exec (h : Lawful s.rows) (hlets : e.call.LetsAhead e.fails (e.meanwhile s)) :
    ¬ Held (e.exec toLowerCase s).rows := by
  have hbefore : Lawful (e.meanwhile s).rows := by rwa [e.keeps]
  unfold Event.exec
  generalize e.meanwhile s = s at hbefore hlets ⊢
  cases hcall : e.call with
  | check user dto =>
    rw [hcall] at hlets
    exact hlets.elim
  | decide user id decision notes =>
    rw [hcall] at hlets
    obtain ⟨hlets, hlogs, row, hrow, hid, hmine, hpending, hinvalid⟩ := hlets
    intro hheld
    refine hheld (decidedRow _ row) ?_ hinvalid (wentAhead_decidedRow hbefore
      (Prog.ends_outcome e.fails _ s.held) hlets hlogs hrow hid hmine hpending hinvalid)
    show _ ∈ (s.afterDecision _).rows
    rw [rows_afterDecision]
    exact List.mem_map_of_mem hrow

/-- **When the check of an invalid address never goes ahead.** In every run from an empty table
each check says rightly whether its address has the format of its network. None that says it has
not comes to VALIDATED or CONTINUED_ANYWAY, exactly where no call of the run validates or continues
a pending one that the settings of its owner and the reviews let ahead. -/
theorem invalid_held_iff (hempty : s₀.rows = []) (events : List Event) :
    (∀ moment, moment <+: events → ∀ row ∈ (after (Event.exec toLowerCase) s₀ moment).rows,
      row.columns.addressValid = isAddressValid row.details.network row.columns.address) ∧
    ((∀ moment, moment <+: events → ∀ row ∈ (after (Event.exec toLowerCase) s₀ moment).rows,
      row.columns.addressValid = false → ¬ (row.status = WalletGuardDecision.validated ∨
        row.status = WalletGuardDecision.continuedAnyway)) ↔
      ∀ before e, before ++ [e] <+: events → ¬ e.call.LetsAhead e.fails
        (e.meanwhile (after (Event.exec toLowerCase) s₀ before))) := by
  have hlawful : ∀ moment, moment <+: events →
      Lawful (after (Event.exec toLowerCase) s₀ moment).rows := by
    refine forall_prefix ?_ fun before e _ hbefore => ?_
    · rw [after_nil, hempty]
      exact ⟨List.nodup_nil, fun row hrow => absurd hrow List.not_mem_nil⟩
    · rw [after_concat]
      exact hbefore.exec
  refine ⟨fun moment hmoment row hrow => ((hlawful moment hmoment).stored row hrow).addressValid,
    fun h before e hprefix hlets => ?_, fun hcond => ?_⟩
  · have hnext : Held (after (Event.exec toLowerCase) s₀ (before ++ [e])).rows := h _ hprefix
    rw [after_concat] at hnext
    exact not_held_exec (hlawful before ((List.prefix_append before [e]).trans hprefix)) hlets hnext
  · have hheld : ∀ moment, moment <+: events →
        Held (after (Event.exec toLowerCase) s₀ moment).rows := by
      refine forall_prefix ?_ fun before e hprefix hbefore => ?_
      · rw [after_nil, hempty]
        exact fun row hrow => absurd hrow List.not_mem_nil
      · rw [after_concat]
        exact hbefore.exec (hlawful before ((List.prefix_append before [e]).trans hprefix))
          (hcond before e hprefix)
    exact hheld

end Run

/-! ## A mistyped address -/

namespace Sample

/-- The empty database, with the settings of its users. -/
def store (settings : ProtectionSettings) : Store where
  checks := Checks.emptyStore
  protection := { Protection.emptyStore with settings := fun _ => some settings }

/-- A call that nothing comes between. -/
def event (call : WalletCall) : Event := ⟨call, [], id, fun _ => rfl⟩

/-- The check of an address that is none. -/
def mistyped : Event :=
  event (.check sampleUser ⟨.eth, "0xdeadbeef", none, none, none, none, none, none, none⟩)

/-- Its owner says that it is fine. -/
def validation : Event := event (.decide sampleUser (Checks.emptyStore.uuid 0) .validated none)

def reviewed : ProtectionSettings :=
  { ProtectionSettings.default with trustedContactRequired := true }

/-- Whether the address of a check has its network's format, by the column and by the validator,
with the risk and the decision. -/
def summary (row : Row) : Bool × Bool × RiskLevel × WalletGuardDecision :=
  (row.columns.addressValid, isAddressValid row.details.network row.columns.address, row.riskLevel,
    row.status)

/-- Where a trusted contact has to approve, nothing is let ahead. -/
theorem reviewed_refuses : ∀ before e, before ++ [e] <+: [mistyped, validation] →
    ¬ e.call.LetsAhead e.fails
      (e.meanwhile (after (Event.exec lowerAscii) (store reviewed) before)) := by
  refine forall_call_cons ?_ (forall_call_cons ?_ forall_call_nil)
  · exact fun h => h
  · rintro ⟨hlets, -⟩
    rcases hlets with ⟨hrequired, -⟩ | ⟨review, hreview, -⟩
    · exact absurd hrequired (by decide)
    · exact absurd hreview List.not_mem_nil

end Sample

open Wallets.Sample in
/-- The owner of a check is held to a review, and the check stays PENDING. -/
theorem invalid_held_iff_reviewed :
    (after (Event.exec lowerAscii) (store reviewed) [mistyped, validation]).rows.map summary =
        [(false, false, .critical, .pending)] ∧
      ∀ row ∈ (after (Event.exec lowerAscii) (store reviewed) [mistyped, validation]).rows,
        row.columns.addressValid = false → ¬ (row.status = WalletGuardDecision.validated ∨
          row.status = WalletGuardDecision.continuedAnyway) :=
  ⟨by decide +kernel, (invalid_held_iff rfl [mistyped, validation]).2.mpr reviewed_refuses _
    (List.prefix_refl _)⟩

/-- **A check of a mistyped address is validated**, under the default settings. -/
theorem invalid_validated :
    (after (Event.exec lowerAscii) (Sample.store .default)
        [Sample.mistyped, Sample.validation]).rows.map Sample.summary =
      [(false, false, .critical, .validated)] := by
  decide +kernel

end Checks.Wallets
