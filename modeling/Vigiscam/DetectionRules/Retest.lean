import Vigiscam.Concurrency.Calls
import Vigiscam.DetectionRules.Service

/-!
# A rule is tested before it is active

An edit of a rule in DISABLED is allowed, and so is the way from DISABLED to ACTIVE: a rule that
is disabled, edited and activated runs with a pattern that was never in TESTING
(`untested_pattern_active`). It is the only way there: a rule that is not activated out of
DISABLED after an edit there has been in TESTING since its last edit whenever it is ACTIVE
(`active_retested_iff`).
-/

namespace DetectionRules

open Js Value Concurrency

/-! ## Calls -/

inductive RuleCall where
  | create (actor : AuthenticatedUser) (dto : CreateDetectionRuleDto) (ip : Option Text)
  | createSuggestion (actor : AuthenticatedUser) (dto : CreateDetectionRuleDto) (ip : Option Text)
  | update (actor : AuthenticatedUser) (id : Uuid) (dto : UpdateDetectionRuleDto)
      (ip : Option Text)
  | updateStatus (actor : AuthenticatedUser) (id : Uuid) (dto : UpdateDetectionRuleStatusDto)
      (ip : Option Text)
  | clock (now : Date)

namespace RuleCall

def program : RuleCall → Program Unit
  | create actor dto ip => do
    let _ ← DetectionRules.create actor dto ip
  | createSuggestion actor dto ip => do
    let _ ← DetectionRules.createSuggestion actor dto ip
  | update actor id dto ip => do
    let _ ← DetectionRules.update actor id dto ip
  | updateStatus actor id dto ip => do
    let _ ← DetectionRules.updateStatus actor id dto ip
  | clock now => Prog.act .clock .internal fun s => ((), { s with now })

/-- The store after a call that nobody interrupts. -/
def exec (c : RuleCall) (s : Store) : Store := (c.program.run s).2

/-- The call is an edit of the rule. -/
def IsEdit (id : Uuid) : RuleCall → Prop
  | update _ id' _ _ => id' = id
  | create _ _ _ | createSuggestion _ _ _ | updateStatus _ _ _ _ | clock _ => False

/-- The call activates the rule, by an actor who may. -/
def Activates (id : Uuid) : RuleCall → Prop
  | updateStatus actor id' dto _ => id' = id ∧ dto.status = .active ∧ actor.role ∈ ACTIVATION_ROLES
  | create _ _ _ | createSuggestion _ _ _ | update _ _ _ _ | clock _ => False

instance (id : Uuid) : (c : RuleCall) → Decidable (c.IsEdit id)
  | update _ id' _ _ => inferInstanceAs (Decidable (id' = id))
  | create _ _ _ | createSuggestion _ _ _ | updateStatus _ _ _ _ | clock _ =>
    inferInstanceAs (Decidable False)

end RuleCall

def ruleOf (id : Uuid) (s : Store) : Option DetectionRule := Table.find DetectionRule.id id s.rules

def statusOf (id : Uuid) (s : Store) : Option DetectionRuleStatus := (ruleOf id s).map (·.status)

/-- The call edits the rule, and is not refused. -/
def Edits (id : Uuid) (c : RuleCall) (s : Store) : Prop :=
  c.IsEdit id ∧ (c.program.run s).1 = .ok ()

/-! ## What a call does -/

section Calls

variable {s : Store} {id : Uuid} {rule : DetectionRule}

theorem run_get_some (h : ruleOf id s = some rule) : (get id).run s = (.ok rule, s) := by
  have hfind : Table.find DetectionRule.id id s.rules = some rule := h
  simp [get, hfind]

theorem run_get_none (h : ruleOf id s = none) :
    (get id).run s = (.error (.notFound "Detection rule not found"), s) := by
  have hfind : Table.find DetectionRule.id id s.rules = none := h
  simp [get, hfind]

/-- A new rule is a DRAFT, and the rules before it are as they were. -/
theorem ruleOf_create (actor : AuthenticatedUser) (dto : CreateDetectionRuleDto) (ip : Option Text)
    (eventType description : Text) :
    ruleOf id ((createInternal actor dto ip eventType description).run s).2 = ruleOf id s ∨
      (ruleOf id s = none ∧
        statusOf id ((createInternal actor dto ip eventType description).run s).2 =
          some .draft) := by
  by_cases htaken : s.uuid s.issued ∈ s.rules.map DetectionRule.id
  · left
    have hrefused : (createRule (newRule actor dto)).run s = (.error .internal, s) :=
      Prog.run_attempt_none (if_pos htaken)
    simp [createInternal, hrefused]
  · let row := newRule actor dto (s.uuid s.issued)
    have hcreated : (createRule (newRule actor dto)).run s = _ :=
      Prog.run_attempt_some (if_neg htaken)
    have hrules : ((createInternal actor dto ip eventType description).run s).2.rules =
        s.rules ++ [row] := by
      simp [createInternal, hcreated, logEvidence, row]
    have hfound : ruleOf id ((createInternal actor dto ip eventType description).run s).2 =
        (ruleOf id s).or (if s.uuid s.issued = id then some row else none) := by
      rw [ruleOf, hrules]
      exact Table.find_append_singleton
    cases hold : ruleOf id s with
    | some old =>
      rw [hold] at hfound
      exact Or.inl hfound
    | none =>
      rw [hold, Option.none_or] at hfound
      by_cases hid : s.uuid s.issued = id
      · rw [if_pos hid] at hfound
        exact Or.inr ⟨rfl, congrArg (Option.map DetectionRule.status) hfound⟩
      · rw [if_neg hid] at hfound
        exact Or.inl hfound

/-- An edit finds the rule editable, and leaves its status alone. -/
theorem run_update (actor : AuthenticatedUser) (dto : UpdateDetectionRuleDto) (ip : Option Text)
    (h : ruleOf id s = some rule) (heditable : isEditable rule.status = true) :
    ((update actor id dto ip).run s).1 = .ok (dto.apply rule) ∧
      ((update actor id dto ip).run s).2.rules =
        Table.modify DetectionRule.id id dto.apply s.rules := by
  have hfind : Table.find DetectionRule.id id s.rules = some rule := h
  have hupdated : (updateRule id fun _ => dto.apply).run s = _ :=
    Prog.run_attempt_some (by rw [hfind]; rfl)
  simp [update, run_get_some h, heditable, hupdated, logEvidence]

/-- An edit of no rule, or of an ACTIVE or RETIRED one, is refused. -/
theorem run_update_refused (actor : AuthenticatedUser) (dto : UpdateDetectionRuleDto)
    (ip : Option Text) (h : ∀ rule, ruleOf id s = some rule → isEditable rule.status = false) :
    (∃ e, ((update actor id dto ip).run s).1 = .error e) ∧
      ((update actor id dto ip).run s).2 = s := by
  cases hfind : ruleOf id s with
  | none => simp [update, run_get_none hfind]
  | some rule => simp [update, run_get_some hfind, h rule hfind]

/-- Whether a transition is refused, by what is there before it. -/
def Permitted (actor : AuthenticatedUser) (source target : DetectionRuleStatus) : Prop :=
  canTransition source target = true ∧ (target = .active → actor.role ∈ ACTIVATION_ROLES)

theorem run_updateStatus (actor : AuthenticatedUser) (dto : UpdateDetectionRuleStatusDto)
    (ip : Option Text) (h : ruleOf id s = some rule)
    (hmay : Permitted actor rule.status dto.status) :
    ((updateStatus actor id dto ip).run s).2.rules =
      Table.modify DetectionRule.id id (moveTo actor dto.status s.now) s.rules := by
  have hfind : Table.find DetectionRule.id id s.rules = some rule := h
  have hupdated : (updateRule id (moveTo actor dto.status)).run s = _ :=
    Prog.run_attempt_some (by rw [hfind]; rfl)
  have hrole : ¬ (dto.status = .active ∧ actor.role ∉ ACTIVATION_ROLES) := by
    rintro ⟨htarget, hrole⟩
    exact hrole (hmay.2 htarget)
  simp [updateStatus, run_get_some h, hmay.1, hrole, hupdated, logEvidence]

theorem run_updateStatus_refused (actor : AuthenticatedUser) (dto : UpdateDetectionRuleStatusDto)
    (ip : Option Text)
    (h : ∀ rule, ruleOf id s = some rule → ¬ Permitted actor rule.status dto.status) :
    ((updateStatus actor id dto ip).run s).2 = s := by
  cases hfind : ruleOf id s with
  | none => simp [updateStatus, run_get_none hfind]
  | some rule =>
    have hnot := h rule hfind
    cases hlegal : canTransition rule.status dto.status with
    | false => simp [updateStatus, run_get_some hfind, hlegal]
    | true =>
      have hrole : dto.status = .active ∧ actor.role ∉ ACTIVATION_ROLES := by
        by_contra hrole
        exact hnot ⟨hlegal, fun htarget => by_contra fun hmem => hrole ⟨htarget, hmem⟩⟩
      have hlegal' : canTransition rule.status .active = true := hrole.1 ▸ hlegal
      simp [updateStatus, run_get_some hfind, hlegal', hrole]

@[simp] theorem id_apply (dto : UpdateDetectionRuleDto) (rule : DetectionRule) :
    (dto.apply rule).id = rule.id := rfl

@[simp] theorem id_moveTo (actor : AuthenticatedUser) (target : DetectionRuleStatus) (now : Date)
    (rule : DetectionRule) : (moveTo actor target now rule).id = rule.id := by
  cases target <;> rfl

@[simp] theorem status_moveTo (actor : AuthenticatedUser) (target : DetectionRuleStatus)
    (now : Date) (rule : DetectionRule) : (moveTo actor target now rule).status = target := by
  cases target <;> rfl

end Calls

/-! ## What a call does to a rule -/

/-- What a call does to a rule: nothing, or it creates it, edits it or moves it. -/
inductive Effect (id : Uuid) (c : RuleCall) (s : Store) : Prop
  | nothing (hsame : ruleOf id (c.exec s) = ruleOf id s) (hedit : ¬ Edits id c s)
      (hactive : c.Activates id → statusOf id s ≠ some .disabled)
  | created (hbefore : statusOf id s = none) (hafter : statusOf id (c.exec s) = some .draft)
      (hedit : ¬ Edits id c s)
  | edited {status : DetectionRuleStatus} (hbefore : statusOf id s = some status)
      (hafter : statusOf id (c.exec s) = some status) (heditable : isEditable status = true)
      (hedit : Edits id c s)
  | moved {source target : DetectionRuleStatus} (hbefore : statusOf id s = some source)
      (hafter : statusOf id (c.exec s) = some target)
      (hlegal : canTransition source target = true) (hactive : target = .active ↔ c.Activates id)
      (hedit : ¬ Edits id c s)

section Effect

variable {id : Uuid} {s : Store}

/-- What runs a program for its effect only does what the program does. -/
theorem run_discard {α : Type} (p : Program α) :
    (do let _ ← p : Program Unit).run s = ((p.run s).1.map fun _ => (), (p.run s).2) := by
  rw [Prog.run_bind]
  cases p.run s with
  | mk r t => cases r <;> rfl

theorem effect_update (actor : AuthenticatedUser) (id' : Uuid) (dto : UpdateDetectionRuleDto)
    (ip : Option Text) : Effect id (.update actor id' dto ip) s := by
  have hexec : (RuleCall.update actor id' dto ip).exec s = ((update actor id' dto ip).run s).2 := by
    show (Prog.run (do let _ ← update actor id' dto ip) s).2 = _
    rw [run_discard]
  have hresult : ((RuleCall.update actor id' dto ip).program.run s).1 =
      ((update actor id' dto ip).run s).1.map fun _ => () := by
    show (Prog.run (do let _ ← update actor id' dto ip) s).1 = _
    rw [run_discard]
  by_cases hgoes : ∃ rule, ruleOf id' s = some rule ∧ isEditable rule.status = true
  · obtain ⟨rule, hrule, heditable⟩ := hgoes
    obtain ⟨hok, hrules⟩ := run_update actor dto ip hrule heditable
    by_cases hid : id' = id
    · subst hid
      have hafter : ruleOf id' ((RuleCall.update actor id' dto ip).exec s) =
          some (dto.apply rule) := by
        rw [ruleOf, hexec, hrules, Table.find_modify_self (id_apply dto)]
        exact congrArg (Option.map dto.apply) hrule
      refine .edited (congrArg (Option.map DetectionRule.status) hrule)
        (congrArg (Option.map DetectionRule.status) hafter) heditable ⟨rfl, ?_⟩
      rw [hresult, hok]
      rfl
    · refine .nothing ?_ (fun h => hid h.1) False.elim
      rw [ruleOf, hexec, hrules, Table.find_modify_of_ne (id_apply dto) (Ne.symm hid)]
      rfl
  · have hnot : ∀ rule, ruleOf id' s = some rule → isEditable rule.status = false :=
      fun rule hrule => by simpa using fun h => hgoes ⟨rule, hrule, h⟩
    obtain ⟨⟨e, herror⟩, hsame⟩ := run_update_refused actor dto ip hnot
    refine .nothing (by rw [hexec, hsame]) ?_ False.elim
    rintro ⟨-, hok⟩
    rw [hresult, herror] at hok
    cases hok

theorem effect_updateStatus (actor : AuthenticatedUser) (id' : Uuid)
    (dto : UpdateDetectionRuleStatusDto) (ip : Option Text) :
    Effect id (.updateStatus actor id' dto ip) s := by
  have hexec : (RuleCall.updateStatus actor id' dto ip).exec s =
      ((updateStatus actor id' dto ip).run s).2 := by
    show (Prog.run (do let _ ← updateStatus actor id' dto ip) s).2 = _
    rw [run_discard]
  by_cases hgoes : ∃ rule, ruleOf id' s = some rule ∧ Permitted actor rule.status dto.status
  · obtain ⟨rule, hrule, hmay⟩ := hgoes
    have hrules := run_updateStatus actor dto ip hrule hmay
    by_cases hid : id' = id
    · subst hid
      have hafter : statusOf id' ((RuleCall.updateStatus actor id' dto ip).exec s) =
          some dto.status := by
        rw [statusOf, ruleOf, hexec, hrules, Table.find_modify_self (by simp),
          show Table.find _ id' s.rules = _ from hrule]
        simp
      refine .moved (congrArg (Option.map DetectionRule.status) hrule) hafter hmay.1 ?_ fun h => h.1
      exact ⟨fun htarget => ⟨rfl, htarget, hmay.2 htarget⟩, fun h => h.2.1⟩
    · refine .nothing ?_ (fun h => h.1) fun h => absurd h.1 hid
      rw [ruleOf, hexec, hrules, Table.find_modify_of_ne (by simp) (Ne.symm hid)]
      rfl
  · have hnot : ∀ rule, ruleOf id' s = some rule → ¬ Permitted actor rule.status dto.status :=
      fun rule hrule h => hgoes ⟨rule, hrule, h⟩
    have hrefused := run_updateStatus_refused actor dto ip hnot
    refine .nothing (by rw [hexec, hrefused]) (fun h => h.1) ?_
    -- a disabled rule may be activated
    rintro ⟨rfl, htarget, hrole⟩ hdisabled
    obtain ⟨rule, hrule, hstatus⟩ := Option.map_eq_some_iff.mp hdisabled
    refine hgoes ⟨rule, hrule, ?_, fun _ => hrole⟩
    rw [hstatus, htarget]
    rfl

theorem effect_create {c : RuleCall} {actor : AuthenticatedUser} {dto : CreateDetectionRuleDto}
    {ip : Option Text} {eventType description : Text}
    (hexec : c.exec s = ((createInternal actor dto ip eventType description).run s).2)
    (hedit : ¬ c.IsEdit id) (hactive : ¬ c.Activates id) : Effect id c s := by
  rcases @ruleOf_create s id actor dto ip eventType description with h | ⟨hnone, hnew⟩
  · exact .nothing (by rw [hexec, h]) (fun h => hedit h.1) fun h => absurd h hactive
  · exact .created (by rw [statusOf, hnone]; rfl) (by rw [hexec, hnew]) fun h => hedit h.1

theorem effect (id : Uuid) (c : RuleCall) (s : Store) : Effect id c s := by
  cases c with
  | create actor dto ip =>
    have hexec : (RuleCall.create actor dto ip).exec s =
        ((createInternal actor dto ip "RULE_CREATED"
          "Detection rule created as DRAFT").run s).2 := by
      show (Prog.run (do let _ ← create actor dto ip) s).2 = _
      rw [run_discard]
      rfl
    exact effect_create hexec (fun h => h) fun h => h
  | createSuggestion actor dto ip =>
    have hexec : (RuleCall.createSuggestion actor dto ip).exec s =
        ((createInternal actor dto ip "RULE_SUGGESTED"
          "Detection rule suggested from verified intelligence (DRAFT)").run s).2 := by
      show (Prog.run (do let _ ← createSuggestion actor dto ip) s).2 = _
      rw [run_discard]
      rfl
    exact effect_create hexec (fun h => h) fun h => h
  | update actor id' dto ip => exact effect_update actor id' dto ip
  | updateStatus actor id' dto ip => exact effect_updateStatus actor id' dto ip
  | clock now => exact .nothing rfl (fun h => h.1) False.elim

end Effect

/-! ## Runs -/

section Runs

variable (s₀ : Store) (id : Uuid)

/-- The rule is in the status, at a moment of a run. -/
def In (status : DetectionRuleStatus) (calls : List RuleCall) : Prop :=
  statusOf id (after RuleCall.exec s₀ calls) = some status

instance (status : DetectionRuleStatus) (calls : List RuleCall) :
    Decidable (In s₀ id status calls) :=
  inferInstanceAs (Decidable (_ = _))

/-- The last call has edited the rule. -/
def JustEdited (calls : List RuleCall) : Prop :=
  ∃ before c, calls = before ++ [c] ∧ Edits id c (after RuleCall.exec s₀ before)

/-- The rule has been in TESTING since its last edit. -/
def Retested : List RuleCall → Prop :=
  Since (In s₀ id .testing) fun calls => ¬ JustEdited s₀ id calls

/-- The rule is in DISABLED, and was edited there. -/
def EditedDisabled : List RuleCall → Prop :=
  Since (fun calls => JustEdited s₀ id calls ∧ In s₀ id .disabled calls) (In s₀ id .disabled)

variable {s₀ id} {calls : List RuleCall} {c : RuleCall} {status status' : DetectionRuleStatus}

theorem justEdited_concat :
    JustEdited s₀ id (calls ++ [c]) ↔ Edits id c (after RuleCall.exec s₀ calls) := by
  constructor
  · rintro ⟨before, d, hcalls, hedit⟩
    obtain ⟨rfl, hd⟩ := List.append_inj' hcalls rfl
    rwa [List.singleton_inj.mp hd]
  · exact fun h => ⟨calls, c, rfl, h⟩

theorem In.unique (h : In s₀ id status calls) (h' : In s₀ id status' calls) : status = status' :=
  Option.some.inj (h.symm.trans h')

/-- A rule that was not edited since stays tested. -/
theorem Retested.concat (h : Retested s₀ id calls)
    (hedit : ¬ Edits id c (after RuleCall.exec s₀ calls)) : Retested s₀ id (calls ++ [c]) :=
  since_concat.mpr (Or.inr ⟨h, fun hjust => hedit (justEdited_concat.mp hjust)⟩)

theorem editedDisabled_in (h : EditedDisabled s₀ id calls) : In s₀ id .disabled calls := by
  rcases List.eq_nil_or_concat calls with rfl | ⟨before, c, rfl⟩
  · exact (since_nil.mp h).2
  · rw [List.concat_eq_append] at h ⊢
    rcases since_concat.mp h with hnow | ⟨-, hin⟩
    · exact hnow.2
    · exact hin

/-- An edit in DISABLED is one that no testing has followed. -/
theorem not_retested_of_editedDisabled (h : EditedDisabled s₀ id calls) :
    ¬ Retested s₀ id calls := by
  induction calls using List.reverseRecOn with
  | nil =>
    obtain ⟨⟨before, c, hcalls, -⟩, -⟩ := since_nil.mp h
    exact absurd hcalls (by simp)
  | append_singleton calls c ih =>
    have hdisabled := editedDisabled_in h
    intro hretested
    rcases since_concat.mp hretested with htesting | ⟨hbefore, hnot⟩
    · cases hdisabled.unique htesting
    · rcases since_concat.mp h with ⟨hjust, -⟩ | ⟨hstill, -⟩
      · exact hnot hjust
      · exact ih hstill hbefore

/-- What an untested activation takes: an activation of a rule that was edited in DISABLED. -/
theorem active_of_activates (hactivates : c.Activates id) (hdisabled : In s₀ id .disabled calls) :
    In s₀ id .active (calls ++ [c]) := by
  rw [In, after_concat]
  cases effect id c (after RuleCall.exec s₀ calls) with
  | nothing _ _ hactive => exact absurd hdisabled (hactive hactivates)
  | created hbefore =>
    rw [In, hbefore] at hdisabled
    cases hdisabled
  | edited _ _ _ hedit =>
    cases c with
    | updateStatus => exact hedit.1.elim
    | create | createSuggestion | update | clock => exact hactivates.elim
  | moved _ hafter _ hactive => rw [hafter, hactive.mpr hactivates]

/-- What a run keeps: an ACTIVE rule is tested, and a DISABLED one unless it was edited there. -/
structure Sound (s₀ : Store) (id : Uuid) (calls : List RuleCall) : Prop where
  active : In s₀ id .active calls → Retested s₀ id calls
  disabled : In s₀ id .disabled calls → Retested s₀ id calls ∨ EditedDisabled s₀ id calls

theorem Sound.concat (h : Sound s₀ id calls)
    (hcond : c.Activates id → ¬ EditedDisabled s₀ id calls) : Sound s₀ id (calls ++ [c]) := by
  cases effect id c (after RuleCall.exec s₀ calls) with
  | nothing hsame hedit _ =>
    have hback : ∀ {status}, In s₀ id status (calls ++ [c]) → In s₀ id status calls := by
      intro status hin
      rw [In, after_concat, statusOf, hsame] at hin
      exact hin
    refine ⟨fun hin => (h.active (hback hin)).concat hedit, fun hin => ?_⟩
    rcases h.disabled (hback hin) with hretested | hedited
    · exact Or.inl (hretested.concat hedit)
    · exact Or.inr (since_concat.mpr (Or.inr ⟨hedited, hin⟩))
  | created _ hafter _ =>
    have hdraft : In s₀ id .draft (calls ++ [c]) := by rw [In, after_concat, hafter]
    exact ⟨fun hin => absurd (hdraft.unique hin) (by decide),
      fun hin => absurd (hdraft.unique hin) (by decide)⟩
  | @edited status hbefore hafter heditable hedit =>
    have hstatus : In s₀ id status (calls ++ [c]) := by rw [In, after_concat, hafter]
    refine ⟨fun hin => ?_, fun hin => ?_⟩
    · rw [hstatus.unique hin] at heditable
      exact absurd heditable (by decide)
    · exact Or.inr (since_of_now ⟨justEdited_concat.mpr hedit, hin⟩)
  | @moved source target hbefore hafter hlegal hactive hedit =>
    have hsource : In s₀ id source calls := hbefore
    have htarget : In s₀ id target (calls ++ [c]) := by rw [In, after_concat, hafter]
    have hfromTesting : source = .testing → Retested s₀ id calls := by
      rintro rfl
      exact since_of_now hsource
    refine ⟨fun hin => ?_, fun hin => Or.inl ?_⟩
    · obtain rfl := htarget.unique hin
      -- to ACTIVE a rule comes from TESTING, or from DISABLED
      refine Retested.concat ?_ hedit
      cases source with
      | testing => exact hfromTesting rfl
      | disabled => exact (h.disabled hsource).resolve_right (hcond (hactive.mp rfl))
      | draft | active | retired => exact absurd hlegal (by decide)
    · obtain rfl := htarget.unique hin
      refine Retested.concat ?_ hedit
      cases source with
      | testing => exact hfromTesting rfl
      | active => exact h.active hsource
      | draft | disabled | retired => exact absurd hlegal (by decide)

/-- **When a rule is tested before it is active**: in every run, from a store without the rule, an
ACTIVE rule has been in TESTING since its last edit at every moment, exactly where no call
activates it after an edit in DISABLED. -/
theorem active_retested_iff (hnew : ruleOf id s₀ = none) (calls : List RuleCall) :
    (∀ before, before <+: calls → In s₀ id .active before → Retested s₀ id before) ↔
      ∀ before c, before ++ [c] <+: calls → c.Activates id → ¬ EditedDisabled s₀ id before := by
  constructor
  · intro h before c hprefix hactivates hedited
    have hin := active_of_activates hactivates (editedDisabled_in hedited)
    rcases since_concat.mp (h _ hprefix hin) with htesting | ⟨hretested, -⟩
    · cases hin.unique htesting
    · exact not_retested_of_editedDisabled hedited hretested
  · intro hcond before hprefix
    have hsound : ∀ before, before <+: calls → Sound s₀ id before := by
      refine forall_prefix ?_ fun before c hbefore hsound => hsound.concat (hcond before c hbefore)
      have hnone : ∀ status, ¬ In s₀ id status [] := by
        intro status hin
        rw [In, after_nil, statusOf, hnew] at hin
        cases hin
      exact ⟨fun hin => absurd hin (hnone _), fun hin => absurd hin (hnone _)⟩
    exact (hsound before hprefix).active

end Runs

/-! ## A pattern that was never tested -/

namespace Sample

def officer : AuthenticatedUser := ⟨"officer", "internal", .complianceOfficer⟩

def now : Date := Date.sampleDay

def store : Store where
  rules := []
  evidence := []
  now := now
  uuid := fun n => (Number.ofInt n).toText
  issued := 0

def ruleId : Uuid := store.uuid 0

def createRule : RuleCall :=
  .create officer ⟨"Safe account", "Asks to move money", .phraseMatch,
    object [("phrases", array [string "safe account"])], none, none, none⟩ none

def moveRule (target : DetectionRuleStatus) : RuleCall :=
  .updateStatus officer ruleId ⟨target, none⟩ none

/-- The pattern is replaced by one that matches everything. -/
def widenPattern : RuleCall :=
  .update officer ruleId
    ⟨none, none, some (object [("phrases", array [string []])]), none, none⟩ none

/-- The rule is tested, activated, disabled, edited and activated again. -/
def reactivation : List RuleCall :=
  [createRule, moveRule .testing, moveRule .active, moveRule .disabled, widenPattern]

/-- The rule is edited in TESTING, and activated. -/
def promotion : List RuleCall :=
  [createRule, moveRule .testing, widenPattern, moveRule .active]

end Sample

open Sample in
/-- The rule is ACTIVE, with the pattern that was tested. -/
theorem promotion_retested :
    In store ruleId .active promotion ∧ Retested store ruleId promotion := by
  have hactive : In store ruleId .active promotion := by decide +kernel
  refine ⟨hactive, (active_retested_iff rfl promotion).mpr (fun before c hprefix _ hedited => ?_)
    promotion List.prefix_rfl hactive⟩
  have hnever : ∀ moment ∈ promotion.inits, ¬ In store ruleId .disabled moment := by
    decide +kernel
  have hmoment := (List.prefix_append before [c]).trans hprefix
  exact hnever before ((List.mem_inits _ _).mpr hmoment) (editedDisabled_in hedited)

open Sample in
/-- A rule is ACTIVE with a pattern that has not been in TESTING. -/
theorem untested_pattern_active :
    In store ruleId .active (reactivation ++ [moveRule .active]) ∧
      ¬ Retested store ruleId (reactivation ++ [moveRule .active]) := by
  have hedited : EditedDisabled store ruleId reactivation := by
    have hjust : JustEdited store ruleId reactivation :=
      ⟨reactivation.dropLast, widenPattern, rfl, rfl, by decide +kernel⟩
    exact since_of_now ⟨hjust, by decide +kernel⟩
  have hactive := active_of_activates (c := moveRule .active) ⟨rfl, rfl, by decide⟩
    (editedDisabled_in hedited)
  refine ⟨hactive, fun h => ?_⟩
  rcases since_concat.mp h with htesting | ⟨hretested, -⟩
  · cases hactive.unique htesting
  · exact not_retested_of_editedDisabled hedited hretested

end DetectionRules
