import Vigiscam.Protection.Reviews

/-!
# Protection policy and its enforcement

`evaluate` is the pure policy engine (`protection-policy.service.ts`);
`enforceDecision` (`protection-enforcement.service.ts`) reads the user's settings
and elder flag, looks up an approved review where the policy asks for one, and
throws when the decision is not allowed. `run_enforceDecision` gives its outcome as
a function of the state: `verdict`.
-/

namespace Protection

open Js Value Concurrency

/-! ## Settings -/

def createSettings (userId : Uuid) : Service ProtectionSettings :=
  Prog.attempt .create .internal fun s =>
    match s.settings userId with
    | some _ => none
    | none => some (.default, { s with
        settings := Function.update s.settings userId (some .default) })

/-- Get (or lazily create with defaults) the user's protection settings. -/
def ProtectionSettingsService.getSettings (user : AuthenticatedUser) :
    Service ProtectionSettings := do
  let existing ← read (·.settings user.userId)
  match existing with
  | some existing => pure existing
  | none => createSettings user.userId

/-- A row of defaults changes nothing for who reads the settings through `settingsOf`. -/
theorem context_create {s : Store} {userId : Uuid} (h : s.settings userId = none) :
    ({ s with settings := Function.update s.settings userId (some .default) } : Store).context
      = s.context := by
  have hsettings : ∀ u, (Function.update s.settings userId (some .default) u).getD .default =
      s.settingsOf u := by
    intro u
    by_cases hu : u = userId
    · simp [hu, Store.settingsOf, h]
    · simp [hu, Store.settingsOf]
  simp only [Store.context, Context.mk.injEq, true_and, and_true]
  exact funext hsettings

theorem quiet_createSettings (userId : Uuid) : Quiet (createSettings userId) := by
  refine Prog.Each.attempt (fun s a s' hs => ⟨id, ?_⟩) fun s _ => ⟨id, .refl s⟩
  cases hrow : s.settings userId with
  | some row =>
    rw [hrow] at hs
    cases hs
  | none =>
    rw [hrow] at hs
    cases hs
    exact ⟨context_create hrow, rfl, rfl⟩

theorem quiet_getSettings (user : AuthenticatedUser) :
    Quiet (ProtectionSettingsService.getSettings user) := by
  refine Prog.Each.bind (quiet_read _) fun existing => ?_
  cases existing with
  | some row => exact Prog.Each.pure row
  | none => exact quiet_createSettings user.userId

/-- The settings that are read are the ones the store stands for. -/
theorem run_getSettings (user : AuthenticatedUser) (s : Store) :
    ((ProtectionSettingsService.getSettings user).run s).1 = .ok (s.settingsOf user.userId) := by
  rw [ProtectionSettingsService.getSettings, Prog.run_bind, read, Prog.run_act, Prog.andThen_ok,
    Store.settingsOf]
  cases hrow : s.settings user.userId with
  | some row => rfl
  | none =>
    show ((createSettings user.userId).run s).1 = _
    rw [createSettings, Prog.run_attempt_some (by rw [hrow])]
    rfl

/-! ## The policy -/

/-- The outcome of evaluating a user's protection policy against a risky action. -/
structure ProtectionPolicyDecision where
  continueAnywayAllowed : Bool
  trustedContactReviewRequired : Bool
  guardianPauseDurationSeconds : Int
  reasons : List Text

structure PolicyInput where
  riskLevel : RiskLevel
  amountMinor : Option Int
  elderModeEnabled : Bool

/-- `ProtectionPolicyService.evaluate`. -/
def evaluate (settings : ProtectionSettings) (input : PolicyInput) : ProtectionPolicyDecision :=
  let critical := input.riskLevel = .critical
  let highOrCritical := input.riskLevel = .high ∨ input.riskLevel = .critical
  let overThreshold := input.amountMinor.any (settings.highRiskAmountThresholdMinor ≤ ·)
  let elderStrict := settings.elderModeStrictLock || input.elderModeEnabled
  let requiredOnCritical := settings.trustedContactRequired && critical
  -- `strictLock` counts the setting alone, `elderStrict` also the user's elder mode
  let strictLock := settings.elderModeStrictLock &&
    (critical || (highOrCritical && overThreshold))
  let trustedContactReviewRequired := requiredOnCritical || strictLock
  let disabledBySettings := !settings.allowContinueAnyway && highOrCritical
  let strictOnCritical := elderStrict && critical
  { continueAnywayAllowed :=
      !disabledBySettings && !strictOnCritical && !trustedContactReviewRequired
    trustedContactReviewRequired := trustedContactReviewRequired
    guardianPauseDurationSeconds := settings.guardianPauseDurationSeconds
    reasons :=
      (if requiredOnCritical then ["POLICY_TRUSTED_CONTACT_REQUIRED_ON_CRITICAL"] else [])
        ++ (if strictLock then ["ELDER_STRICT_LOCK_REQUIRES_REVIEW"] else [])
        ++ (if disabledBySettings then ["CONTINUE_ANYWAY_DISABLED_BY_SETTINGS"] else [])
        ++ (if strictOnCritical then ["ELDER_STRICT_LOCK_BLOCKS_CONTINUE"] else []) }

/-- A required review always blocks a unilateral continue. -/
theorem evaluate_continue_of_required {settings : ProtectionSettings} {input : PolicyInput}
    (h : (evaluate settings input).trustedContactReviewRequired = true) :
    (evaluate settings input).continueAnywayAllowed = false := by
  have hnot : ∀ a b c : Bool, c = true → (!a && !b && !c) = false := by decide
  exact hnot _ _ _ h

/-! ## The policy in a state -/

/-- The policy that a user's actions are held to in a state. -/
def policyOf (s : Store) (userId : Uuid) (riskLevel : RiskLevel) (amountMinor : Option Int) :
    ProtectionPolicyDecision :=
  evaluate (s.settingsOf userId)
    { riskLevel := riskLevel, amountMinor := amountMinor
      elderModeEnabled := (s.elderMode userId).getD false }

/-- An approved review of exactly this event. -/
def Approved (s : Store) (module : TriggerModule) (eventId : Uuid) : Prop :=
  ∃ r ∈ s.reviews, r.triggerModule = module ∧ r.triggerEventId = eventId ∧
    r.status = .decided ∧ r.decision = some .approveAfterVerification

instance (s : Store) (module : TriggerModule) (eventId : Uuid) :
    Decidable (Approved s module eventId) :=
  inferInstanceAs (Decidable (∃ r ∈ s.reviews, _))

theorem Store.Same.approved {s s' : Store} (h : s.Same s') (module : TriggerModule)
    (eventId : Uuid) : Approved s' module eventId ↔ Approved s module eventId := by
  rw [Approved, Approved, h.reviews]

/-! ## Enforcement -/

inductive DecisionKind where
  | continue | release | other
deriving DecidableEq

def DecisionKind.name : DecisionKind → Text
  | .continue => "CONTINUE"
  | .release => "RELEASE"
  | .other => "OTHER"

structure EnforceParams where
  module : TriggerModule
  eventId : Uuid
  riskLevel : RiskLevel
  amountMinor : Option Int
  decisionKind : DecisionKind

namespace ProtectionEnforcementService

def stringArray (ts : List Text) : Value := array (ts.map string)

theorem distinct_stringArray (ts : List Text) : (stringArray ts).Distinct := by
  show DistinctItems (ts.map string)
  induction ts with
  | nil => trivial
  | cons t ts ih => exact ⟨trivial, ih⟩

/-- `reasons.join(', ') || 'policy'`. -/
def reasonText (reasons : List Text) : Text :=
  let text := List.intercalate (utf16 ", ") reasons
  if text = [] then "policy" else text

def blockedMetadata (p : EnforceParams) (decision : ProtectionPolicyDecision) : Value :=
  object [("reasons", stringArray decision.reasons), ("riskLevel", string p.riskLevel.name)]

theorem distinct_blockedMetadata (p : EnforceParams) (decision : ProtectionPolicyDecision) :
    (blockedMetadata p decision).Distinct := by
  refine ⟨?_, distinct_stringArray _, trivial, trivial⟩
  show List.Nodup [utf16 "reasons", utf16 "riskLevel"]
  decide

/-- Log a blocked override; a failure of either log is only logged. -/
def logOverrideBlocked (user : AuthenticatedUser) (p : EnforceParams)
    (decision : ProtectionPolicyDecision) (code : Text) : Service Unit := do
  tryCatch (createAuditLog
    { actorId := user.userId, actorType := "USER", action := "PROTECTION_" ++ code
      targetType := p.module.name, targetId := p.eventId
      metadata := object [("riskLevel", string p.riskLevel.name),
        ("reasons", stringArray decision.reasons), ("decisionKind", string p.decisionKind.name)] })
    fun _ => pure ()
  tryCatch (do
    let _ ← appendEvidence (userEvidence user p.module.name p.eventId ("PROTECTION_" ++ code)
      ("Blocked " ++ p.decisionKind.name ++ " on " ++ p.riskLevel.name ++ " " ++ p.module.name
        ++ " action " ++ "(" ++ reasonText decision.reasons ++ ")")
      (blockedMetadata p decision) (distinct_blockedMetadata p decision)))
    fun _ => pure ()

/-- Evaluate the user's policy for a held action. -/
def evaluateFor (user : AuthenticatedUser) (riskLevel : RiskLevel) (amountMinor : Option Int) :
    Service ProtectionPolicyDecision := do
  let settings ← ProtectionSettingsService.getSettings user
  let elderModeEnabled ← read (·.elderMode user.userId)
  pure (evaluate settings
    { riskLevel := riskLevel, amountMinor := amountMinor
      elderModeEnabled := elderModeEnabled.getD false })

/-- The refusal of a continue. -/
def continueBlocked (decision : ProtectionPolicyDecision) : HttpError :=
  .forbidden ("This action cannot be continued under your protection settings. "
      ++ "A trusted contact must approve it first.")
    decision.reasons decision.trustedContactReviewRequired

/-- The refusal of a release. -/
def releaseBlocked (decision : ProtectionPolicyDecision) : HttpError :=
  .forbidden "A trusted contact must approve this action before it can be released."
    (decision.reasons ++ [utf16 "AWAITING_TRUSTED_CONTACT_APPROVAL"]) true

/-- Enforce policy on a decision; throws `forbidden` when blocked. -/
def enforceDecision (user : AuthenticatedUser) (p : EnforceParams) :
    Service ProtectionPolicyDecision := do
  let decision ← evaluateFor user p.riskLevel p.amountMinor
  if p.decisionKind = .continue ∧ decision.continueAnywayAllowed = false then
    logOverrideBlocked user p decision "CONTINUE_ANYWAY_BLOCKED"
    throw (continueBlocked decision)
  else if p.decisionKind = .release ∧ decision.trustedContactReviewRequired = true then
    let approved ← TrustedContactReviewService.hasApprovedReview p.module p.eventId
    if approved then
      pure decision
    else
      logOverrideBlocked user p decision "RELEASE_BLOCKED_NO_APPROVAL"
      throw (releaseBlocked decision)
  else
    pure decision

/-! ## Its outcome -/

/-- What the enforcement says, as a function of the state. -/
def verdict (s : Store) (user : AuthenticatedUser) (p : EnforceParams) :
    Except HttpError ProtectionPolicyDecision :=
  let decision := policyOf s user.userId p.riskLevel p.amountMinor
  if p.decisionKind = .continue ∧ decision.continueAnywayAllowed = false then
    .error (continueBlocked decision)
  else if p.decisionKind = .release ∧ decision.trustedContactReviewRequired = true ∧
      ¬ Approved s p.module p.eventId then
    .error (releaseBlocked decision)
  else
    .ok decision

/-- Any other decision is let through. -/
theorem verdict_other {s : Store} {user : AuthenticatedUser} {p : EnforceParams}
    (h : p.decisionKind = .other) :
    verdict s user p = .ok (policyOf s user.userId p.riskLevel p.amountMinor) := by
  simp [verdict, h]

theorem run_evaluateFor (user : AuthenticatedUser) (riskLevel : RiskLevel)
    (amountMinor : Option Int) (s : Store) :
    ((evaluateFor user riskLevel amountMinor).run s).1 =
      .ok (policyOf s user.userId riskLevel amountMinor) := by
  have hsame := (quiet_getSettings user).run s
  rw [evaluateFor, Prog.run_bind_ok (run_getSettings user s), read, Prog.run_bind,
    Prog.run_act, Prog.andThen_ok, show (Prog.run _ s).2.elderMode = s.elderMode from
      congrArg Context.elderMode hsame.context]
  rfl

theorem quiet_evaluateFor (user : AuthenticatedUser) (riskLevel : RiskLevel)
    (amountMinor : Option Int) : Quiet (evaluateFor user riskLevel amountMinor) :=
  (quiet_getSettings user).bind fun _ => (quiet_read _).bind fun _ => Prog.Each.pure _

theorem run_hasApprovedReview (module : TriggerModule) (eventId : Uuid) (s : Store) :
    (TrustedContactReviewService.hasApprovedReview module eventId).run s =
      (.ok (decide (Approved s module eventId)), s) := by
  refine Prod.ext (congrArg Except.ok ?_) rfl
  rw [Bool.eq_iff_iff, List.find?_isSome, decide_eq_true_iff, Approved]
  simp [TrustedContactReviewService.approves, and_assoc]

theorem run_logOverrideBlocked (user : AuthenticatedUser) (p : EnforceParams)
    (decision : ProtectionPolicyDecision) (code : Text) (s : Store) :
    ((logOverrideBlocked user p decision code).run s).1 = .ok () := rfl

theorem quiet_logOverrideBlocked (user : AuthenticatedUser) (p : EnforceParams)
    (decision : ProtectionPolicyDecision) (code : Text) :
    Quiet (logOverrideBlocked user p decision code) := by
  refine Prog.Each.bind ?_ fun _ => ?_
  · exact (quiet_createAuditLog _).tryCatch fun _ => Prog.Each.pure ()
  · refine Prog.Each.tryCatch ?_ fun _ => Prog.Each.pure ()
    exact (quiet_appendEvidence _).bind fun _ => Prog.Each.pure ()

/-- Enforcement changes nothing that decisions depend on. -/
theorem quiet_enforceDecision (user : AuthenticatedUser) (p : EnforceParams) :
    Quiet (enforceDecision user p) := by
  refine (quiet_evaluateFor _ _ _).bind fun decision => ?_
  have hblocked : ∀ code e, Quiet (do
      logOverrideBlocked user p decision code
      throw e : Service ProtectionPolicyDecision) := fun code e =>
    (quiet_logOverrideBlocked user p decision code).bind fun _ => Prog.Each.throw e
  split
  · exact hblocked _ _
  · split
    · refine (quiet_read _).bind fun approved => ?_
      cases approved with
      | true => exact Prog.Each.pure decision
      | false => exact hblocked _ _
    · exact Prog.Each.pure decision

/-- **The outcome of the enforcement** is the verdict on the state it starts in. -/
theorem run_enforceDecision (user : AuthenticatedUser) (p : EnforceParams) (s : Store) :
    ((enforceDecision user p).run s).1 = verdict s user p := by
  have hsame := (quiet_evaluateFor user p.riskLevel p.amountMinor).run s
  rw [enforceDecision, Prog.run_bind_ok (run_evaluateFor user p.riskLevel p.amountMinor s),
    verdict]
  by_cases hcontinue : p.decisionKind = .continue ∧
      (policyOf s user.userId p.riskLevel p.amountMinor).continueAnywayAllowed = false
  · rw [if_pos hcontinue, if_pos hcontinue, Prog.run_bind_ok (run_logOverrideBlocked _ _ _ _ _),
      Prog.run_throw]
  · rw [if_neg hcontinue, if_neg hcontinue]
    by_cases hrelease : p.decisionKind = .release ∧
        (policyOf s user.userId p.riskLevel p.amountMinor).trustedContactReviewRequired = true
    · rw [if_pos hrelease, Prog.run_bind, run_hasApprovedReview, Prog.andThen_ok,
        decide_eq_decide.mpr (hsame.approved p.module p.eventId)]
      by_cases happroved : Approved s p.module p.eventId
      · rw [if_pos (decide_eq_true happroved), if_neg fun h => h.2.2 happroved, Prog.run_pure]
      · rw [if_neg (by simpa using happroved), if_pos ⟨hrelease.1, hrelease.2, happroved⟩,
          Prog.run_bind_ok (run_logOverrideBlocked _ _ _ _ _), Prog.run_throw]
    · rw [if_neg hrelease, if_neg fun h => hrelease ⟨h.1, h.2.1⟩, Prog.run_pure]

end ProtectionEnforcementService

end Protection
