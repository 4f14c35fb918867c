import Vigiscam.Concurrency.Prog
import Vigiscam.Concurrency.Table
import Vigiscam.Http
import Vigiscam.Protection.Enums

/-!
# Detection rules (`detection-rule.service.ts`, `detection-rule.transitions.ts`)

A rule is created as DRAFT. Its authoring fields are edited by `update`, which counts its
versions, and its status is moved by `updateStatus` along `RULE_TRANSITIONS`. Each call appends
one evidence event.
-/

namespace DetectionRules

open Js Value Concurrency EvidenceVault
open Protection (RiskLevel)

inductive DetectionRuleType where
  | phraseMatch | indicatorPattern | categoryRule | combined
deriving DecidableEq

def DetectionRuleType.name : DetectionRuleType → Text
  | .phraseMatch => "PHRASE_MATCH"
  | .indicatorPattern => "INDICATOR_PATTERN"
  | .categoryRule => "CATEGORY_RULE"
  | .combined => "COMBINED"

inductive DetectionRuleStatus where
  | draft | testing | active | disabled | retired
deriving DecidableEq

def DetectionRuleStatus.name : DetectionRuleStatus → Text
  | .draft => "DRAFT"
  | .testing => "TESTING"
  | .active => "ACTIVE"
  | .disabled => "DISABLED"
  | .retired => "RETIRED"

/-! ## The lifecycle -/

def RULE_TRANSITIONS : DetectionRuleStatus → List DetectionRuleStatus
  | .draft => [.testing, .retired]
  | .testing => [.active, .disabled, .draft, .retired]
  | .active => [.disabled, .retired]
  | .disabled => [.testing, .active, .retired]
  | .retired => []

/-- Moving a rule from `source` to `target` is a legal lifecycle transition. -/
def canTransition (source target : DetectionRuleStatus) : Bool :=
  (RULE_TRANSITIONS source).contains target

/-- Rule statuses that are immutable: editing requires moving the rule out first. -/
def NON_EDITABLE_STATUSES : List DetectionRuleStatus := [.active, .retired]

def isEditable (status : DetectionRuleStatus) : Bool := !NON_EDITABLE_STATUSES.contains status

/-- Roles allowed to push a rule into ACTIVE (the no-auto-activation gate). -/
def ACTIVATION_ROLES : List MembershipRole := [.superAdmin, .complianceOfficer]

/-! ## Rows -/

structure DetectionRule where
  id : Uuid
  name : Text
  description : Text
  ruleType : DetectionRuleType
  pattern : Value
  category : Option Text
  severity : RiskLevel
  status : DetectionRuleStatus
  version : Int
  sourceClusterId : Option Uuid
  createdByUserId : Option Uuid
  activatedByUserId : Option Uuid
  activatedAt : Option Date
  disabledAt : Option Date
  retiredAt : Option Date

structure Store where
  rules : List DetectionRule
  evidence : List AppendEvidenceInput
  now : Date
  /-- The id that is given out next, after so many. -/
  uuid : Nat → Uuid
  issued : Nat

inductive RuleStep where
  | read | create | update | append | clock
deriving DecidableEq

abbrev Program (α : Type) := Prog Store RuleStep HttpError α

/-- `detectionRule.create`; it throws where the id is taken. -/
def createRule (row : Uuid → DetectionRule) : Program DetectionRule :=
  Prog.attempt .create .internal fun s =>
    let rule := row (s.uuid s.issued)
    if rule.id ∈ s.rules.map DetectionRule.id then none
    else some (rule, { s with rules := s.rules ++ [rule], issued := s.issued + 1 })

/-- `detectionRule.update` of one row; it throws when there is no such row. -/
def updateRule (id : Uuid) (f : Date → DetectionRule → DetectionRule) : Program DetectionRule :=
  Prog.attempt .update .internal fun s =>
    (Table.find DetectionRule.id id s.rules).map fun rule =>
      (f s.now rule, { s with rules := Table.modify DetectionRule.id id (f s.now) s.rules })

/-! ## The evidence -/

/-- Reflect who actually acted in the audit trail (admin vs reviewer). -/
def actorTypeFor (role : MembershipRole) : Text :=
  if role = .superAdmin ∨ role = .complianceOfficer then "ADMIN"
  else if role = .reviewer then "REVIEWER"
  else "STAFF"

def ruleMetadata (rule : DetectionRule) : Value :=
  object [("status", string rule.status.name), ("ruleType", string rule.ruleType.name),
    ("version", number (.ofInt rule.version))]

theorem distinct_ruleMetadata (rule : DetectionRule) : Distinct (ruleMetadata rule) := by
  refine ⟨?_, trivial, trivial, trivial, trivial⟩
  show List.Nodup [utf16 "status", utf16 "ruleType", utf16 "version"]
  decide

def logEvidence (rule : DetectionRule) (actor : AuthenticatedUser) (eventType description : Text)
    (ip : Option Text) : Program Unit :=
  Prog.act .append .internal fun s =>
    ((), { s with evidence := s.evidence ++ [{
      tenantId := none
      actorId := some actor.userId
      actorType := some (actorTypeFor actor.role)
      entityType := "DETECTION_RULE"
      entityId := rule.id
      eventType := eventType
      eventDescription := description
      metadata := ruleMetadata rule
      ipAddress := ip
      deviceId := none
      metadata_distinct := distinct_ruleMetadata rule }] })

/-! ## The service -/

structure CreateDetectionRuleDto where
  name : Text
  description : Text
  ruleType : DetectionRuleType
  pattern : Value
  category : Option Text
  severity : Option RiskLevel
  sourceClusterId : Option Uuid

/-- The row of a new rule. -/
def newRule (actor : AuthenticatedUser) (dto : CreateDetectionRuleDto) (id : Uuid) :
    DetectionRule where
  id := id
  name := dto.name
  description := dto.description
  ruleType := dto.ruleType
  pattern := dto.pattern
  category := dto.category
  severity := dto.severity.getD .medium
  status := .draft
  version := 1
  sourceClusterId := dto.sourceClusterId
  createdByUserId := some actor.userId
  activatedByUserId := none
  activatedAt := none
  disabledAt := none
  retiredAt := none

def createInternal (actor : AuthenticatedUser) (dto : CreateDetectionRuleDto) (ip : Option Text)
    (eventType description : Text) : Program DetectionRule := do
  let rule ← createRule (newRule actor dto)
  logEvidence rule actor eventType description ip
  return rule

/-- Create a new rule. Always lands as DRAFT. -/
def create (actor : AuthenticatedUser) (dto : CreateDetectionRuleDto) (ip : Option Text) :
    Program DetectionRule :=
  createInternal actor dto ip "RULE_CREATED" "Detection rule created as DRAFT"

/-- Create a rule from an AI-generated suggestion. -/
def createSuggestion (actor : AuthenticatedUser) (dto : CreateDetectionRuleDto)
    (ip : Option Text) : Program DetectionRule :=
  createInternal actor dto ip "RULE_SUGGESTED"
    "Detection rule suggested from verified intelligence (DRAFT)"

def get (id : Uuid) : Program DetectionRule := do
  match ← Prog.act .read .internal fun s => (Table.find DetectionRule.id id s.rules, s) with
  | none => throw (.notFound "Detection rule not found")
  | some rule => return rule

structure UpdateDetectionRuleDto where
  name : Option Text
  description : Option Text
  pattern : Option Value
  /-- A `null` clears the category. -/
  category : Option (Option Text)
  severity : Option RiskLevel

/-- The columns of an edit. -/
def UpdateDetectionRuleDto.apply (dto : UpdateDetectionRuleDto) (rule : DetectionRule) :
    DetectionRule :=
  { rule with
    version := rule.version + 1
    name := dto.name.getD rule.name
    description := dto.description.getD rule.description
    pattern := dto.pattern.getD rule.pattern
    category := dto.category.getD rule.category
    severity := dto.severity.getD rule.severity }

/-- Edit a rule's authoring fields. Blocked for ACTIVE / RETIRED rules. -/
def update (actor : AuthenticatedUser) (id : Uuid) (dto : UpdateDetectionRuleDto)
    (ip : Option Text) : Program DetectionRule := do
  let rule ← get id
  if !isEditable rule.status then
    throw (.badRequest (utf16 "Cannot edit a rule in status " ++ rule.status.name
      ++ utf16 " — disable it first, edit, then re-test."))
  else
    let updated ← updateRule id fun _ => dto.apply
    logEvidence updated actor "RULE_UPDATED"
      (utf16 "Detection rule edited (v" ++ (Number.ofInt updated.version).toText ++ utf16 ")") ip
    return updated

structure UpdateDetectionRuleStatusDto where
  status : DetectionRuleStatus
  reason : Option Text

/-- The columns of a transition. -/
def moveTo (actor : AuthenticatedUser) (target : DetectionRuleStatus) (now : Date)
    (rule : DetectionRule) : DetectionRule :=
  match target with
  | .active => { rule with
      status := .active
      activatedByUserId := some actor.userId
      activatedAt := some now
      disabledAt := none }
  | .disabled => { rule with status := .disabled, disabledAt := some now }
  | .retired => { rule with status := .retired, retiredAt := some now }
  | .draft | .testing => { rule with status := target }

/-- Transition a rule to a new lifecycle status. Validates the transition is legal (no
DRAFT -> ACTIVE) and gates ACTIVE moves on admin / compliance. -/
def updateStatus (actor : AuthenticatedUser) (id : Uuid) (dto : UpdateDetectionRuleStatusDto)
    (ip : Option Text) : Program DetectionRule := do
  let rule ← get id
  let target := dto.status
  if !canTransition rule.status target then
    throw (.badRequest (utf16 "Cannot move a rule from " ++ rule.status.name ++ utf16 " to "
      ++ target.name ++ utf16 " — this is not a legal lifecycle transition (PDF §33)."))
  else if target = .active ∧ actor.role ∉ ACTIVATION_ROLES then
    throw (.denied "Activating a detection rule requires SUPER_ADMIN or COMPLIANCE_OFFICER.")
  else
    let updated ← updateRule id (moveTo actor target)
    logEvidence updated actor (utf16 "RULE_" ++ target.name)
      (dto.reason.getD (utf16 "Detection rule moved to " ++ target.name)) ip
    return updated

end DetectionRules
