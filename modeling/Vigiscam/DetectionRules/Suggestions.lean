import Vigiscam.Clustering.Service
import Vigiscam.DetectionRules.Retest
import Vigiscam.Js.Gather
import Vigiscam.Js.Property
import Vigiscam.RiskFusion.Service

/-!
# Suggested rules (`suggestions.ts`, `rule-suggestion.service.ts`)

Rules are suggested for clusters of verified signals (`generateSuggestions`), and for the tactics
that the text classifier has found in verified signals (`generatePhraseRuleSuggestions`). What is
suggested is created as DRAFT.
-/

namespace DetectionRules

open Js Value Concurrency
open Protection (RiskLevel)
open RiskFusion (inheritedNames levelForScore)
open ScamSignals (ScamSignalStatus)

/-! ## Rules for clusters -/

inductive ClusterStatus where
  | active | monitoring | archived
deriving DecidableEq

/-- A row of `scam_clusters`, with the statuses of its signals. -/
structure ScamCluster extends Clustering.ScamCluster where
  status : ClusterStatus
  signals : List ScamSignalStatus

/-- The clusters at a moment, in the order in which the database gives them. -/
structure ClusterTable where
  rows : List ScamCluster
  nodup : (rows.map (·.id)).Nodup

/-- `key.replace(/^start/, '')`, for a plain `start`. -/
def withoutPrefix (start key : Text) : Text :=
  if start.isPrefixOf key then key.drop start.length else key

def decimal (n : Nat) : Text := (Number.ofInt n).toText

def domainRootRule (cluster : ScamCluster) (root : Text) : CreateDetectionRuleDto where
  name := utf16 "Domain root pattern — " ++ root
  description := utf16 "Auto-suggested from a cluster of " ++ decimal cluster.signalCount
    ++ utf16 " signals sharing the domain root \"" ++ root ++ utf16 "\". Review before activating."
  ruleType := .indicatorPattern
  pattern := object [("indicatorType", string "DOMAIN"), ("match", string "DOMAIN_ROOT"),
    ("root", string root)]
  category := cluster.category
  severity := some (levelForScore (some cluster.confidenceScore))
  sourceClusterId := some cluster.id

def emailDomainRule (cluster : ScamCluster) (domain : Text) : CreateDetectionRuleDto where
  name := utf16 "Email domain pattern — " ++ domain
  description := utf16 "Auto-suggested from a cluster of " ++ decimal cluster.signalCount
    ++ utf16 " signals sharing the email domain \"" ++ domain
    ++ utf16 "\". Review before activating."
  ruleType := .indicatorPattern
  pattern := object [("indicatorType", string "EMAIL"), ("match", string "EMAIL_DOMAIN"),
    ("domain", string domain)]
  category := cluster.category
  severity := some (levelForScore (some cluster.confidenceScore))
  sourceClusterId := some cluster.id

def suggestionForCluster (cluster : ScamCluster) : Option CreateDetectionRuleDto :=
  match cluster.matchType with
  | .sharedDomainRoot =>
    some (domainRootRule cluster (withoutPrefix "domain-root:" cluster.clusterKey))
  | .sharedEmail =>
    some (emailDomainRule cluster (withoutPrefix "email-domain:" cluster.clusterKey))
  | .sharedIndicator | .sharedPhone | .sharedWallet | .sharedPhrase | .sharedCategory | .manual =>
    none

/-- Minimum signals in a cluster before a rule is suggested for it. -/
def MIN_SIGNALS_FOR_SUGGESTION : Nat := 3

/-- The cluster has a rule that is not RETIRED. -/
def HasLiveRule (s : Store) (clusterId : Uuid) : Prop :=
  ∃ rule ∈ s.rules, rule.sourceClusterId = some clusterId ∧ rule.status ≠ .retired

instance (s : Store) (clusterId : Uuid) : Decidable (HasLiveRule s clusterId) :=
  inferInstanceAs (Decidable (∃ rule ∈ s.rules, _))

/-- A cluster that a rule is suggested for. -/
def isCandidate (s : Store) (cluster : ScamCluster) : Bool :=
  cluster.status = .active
    && MIN_SIGNALS_FOR_SUGGESTION ≤ cluster.signalCount
    && cluster.signals.any (· ∈ [.verifiedScamIntelligence, .highRiskIndicator])
    && ¬ HasLiveRule s cluster.id

def candidates (clusters : ClusterTable) (s : Store) : List ScamCluster :=
  (clusters.rows.filter (isCandidate s)).take 50

structure GenerateSuggestionsResult where
  scanned : Nat
  created : Nat
  ruleIds : List Uuid

/-- `createSuggestion` of one after the other. -/
def createAll (actor : AuthenticatedUser) (ip : Option Text) :
    List CreateDetectionRuleDto → Program (List DetectionRule)
  | [] => pure []
  | dto :: rest => do
    let rule ← createSuggestion actor dto ip
    let created ← createAll actor ip rest
    return rule :: created

/-- Create a DRAFT rule for each cluster of verified intelligence without a live rule. -/
def generateSuggestions (clusters : ClusterTable) (actor : AuthenticatedUser) (ip : Option Text) :
    Program GenerateSuggestionsResult := do
  let scanned ← Prog.act .read .internal fun s => (candidates clusters s, s)
  let created ← createAll actor ip (scanned.filterMap suggestionForCluster)
  return ⟨scanned.length, created.length, created.map DetectionRule.id⟩

/-! ## Rules for tactics -/

/-- Minimum number of distinct verified signals a tactic must appear in. -/
def MIN_TACTIC_FREQUENCY : Nat := 2

/-- Phrases that characterise each manipulation tactic. -/
def TACTIC_PHRASES : List (Text × List Text) :=
  [("urgency", ["urgent", "right now", "immediately", "expires today", "act now"]),
    ("secrecy", ["do not tell anyone", "keep this secret", "between you and me"]),
    ("fake-authority", ["official notice", "court order", "law enforcement"]),
    ("pressure", ["or else", "will be arrested", "final notice", "final warning"])]

/-- The names of what objects inherit that has the length 0: `toString`, `valueOf` and
`toLocaleString` take no arguments. -/
def emptyNames : List Text := ["toString", "valueOf", "toLocaleString"]

/-- What `TACTIC_PHRASES[tactic]` is, where it is there and its length is not 0. -/
inductive Phrases where
  | own (phrases : List Text)
  /-- A function, or the object that objects inherit from. -/
  | inherited

def phrasesOf (tactic : Text) : Option Phrases :=
  match TACTIC_PHRASES.find? (·.1 = tactic) with
  | some (_, phrases) => if phrases = [] then none else some (.own phrases)
  | none =>
    if tactic ∈ inheritedNames ∧ tactic ∉ emptyNames then some .inherited else none

/-- What the language's runtime and the database do with numbers and functions. -/
structure Runtime where
  /-- `levelForScore` of the average of the scores, as floating-point numbers. -/
  averageLevel : List Value → RiskLevel
  /-- The JSON that a pattern with an inherited `phrases` is stored as; `none` where the
  database's client refuses it. -/
  inheritedPattern : Text → Option Value

/-- What the decisions say of a tactic: how often it is there, and the score of each time. -/
structure TacticStats where
  frequency : Nat
  scores : List Value

def phraseName (tactic : Text) : Text := utf16 "Phrase pattern — " ++ tactic

def phraseDescription (tactic : Text) (frequency : Nat) : Text :=
  utf16 "Auto-suggested from " ++ decimal frequency
    ++ utf16 " verified signals whose NLP classifier flagged the \"" ++ tactic
    ++ utf16 "\" manipulation tactic. Review and refine phrase list before activating."

def phrasePattern (tactic : Text) (phrases : List Text) : Value :=
  object [("tactic", string tactic), ("phrases", array (phrases.map string))]

/-- A suggestion for a tactic. The pattern is `none` where it cannot be stored. -/
structure PhraseSuggestedRule where
  tactic : Text
  name : Text
  description : Text
  pattern : Option Value
  severity : RiskLevel

section Phrases

variable (rt : Runtime)

def phraseRuleSuggestion (tactic : Text) (stats : TacticStats) : Option PhraseSuggestedRule :=
  (phrasesOf tactic).map fun phrases => {
    tactic
    name := phraseName tactic
    description := phraseDescription tactic stats.frequency
    pattern := match phrases with
      | .own phrases => some (phrasePattern tactic phrases)
      | .inherited => rt.inheritedPattern tactic
    severity := rt.averageLevel stats.scores }

/-- All phrase-rule suggestions of a map of tactics. -/
def phraseRulesFromTactics (tacticCounts : List (Text × TacticStats)) :
    List PhraseSuggestedRule :=
  tacticCounts.filterMap fun entry =>
    if entry.2.frequency < MIN_TACTIC_FREQUENCY then none
    else phraseRuleSuggestion rt entry.1 entry.2

/-! ### What the decisions say -/

/-- A row of `ai_decisions`. -/
structure AIDecision where
  serviceKind : Text
  entityType : Option Text
  entityId : Option Uuid
  output : Value

/-- The signals at a moment, in the order in which the database gives them. -/
structure SignalTable where
  rows : List (Uuid × ScamSignalStatus)
  nodup : (rows.map Prod.fst).Nodup

def SignalTable.verified (signals : SignalTable) : List Uuid :=
  (signals.rows.filter (·.2 = .verifiedScamIntelligence)).map Prod.fst

/-- A decision of the classifier on one of the signals. -/
def AIDecision.isOn (ids : List Uuid) (d : AIDecision) : Bool :=
  d.serviceKind = "NLP_CLASSIFIER" ∧ d.entityType = some "SCAM_SIGNAL" ∧
    ∃ id ∈ ids, d.entityId = some id

def decisionsOn (ids : List Uuid) (decisions : List AIDecision) : List AIDecision :=
  decisions.filter (·.isOn ids)

/-- The texts of `output.manipulationTactics`, where it is an array. -/
def AIDecision.tactics (d : AIDecision) : List Text :=
  match d.output.getOpt "manipulationTactics" with
  | array items => items.filterMap asText
  | _ => []

/-- `typeof out.scamScore === 'number' ? out.scamScore : 0`. -/
def AIDecision.score (d : AIDecision) : Value :=
  match d.output.getOpt "scamScore" with
  | number x => number x
  | nonFinite => nonFinite
  | _ => number (.ofInt 0)

/-- One mention of a tactic, with the score of its decision. -/
def mentions (decisions : List AIDecision) : List (Text × Value) :=
  decisions.flatMap fun d => d.tactics.map fun tactic => (tactic, d.score)

def TacticStats.count (stats : TacticStats) (mention : Text × Value) : TacticStats :=
  ⟨stats.frequency + 1, stats.scores ++ [mention.2]⟩

def tacticCounts (decisions : List AIDecision) : List (Text × TacticStats) :=
  gather Prod.fst (fun _ => ⟨0, []⟩) TacticStats.count (mentions decisions)

/-- The tactic of a rule's pattern. -/
def DetectionRule.tactic (rule : DetectionRule) : Option Text :=
  (rule.pattern.getOpt "tactic").asText

/-- The tactic has a phrase rule that is not RETIRED. -/
def Covered (s : Store) (tactic : Text) : Prop :=
  ∃ rule ∈ s.rules, rule.ruleType = .phraseMatch ∧ rule.status ≠ .retired ∧
    rule.tactic = some tactic

instance (s : Store) (tactic : Text) : Decidable (Covered s tactic) :=
  inferInstanceAs (Decidable (∃ rule ∈ s.rules, _))

/-- The suggestions for the tactics of the decisions, without those that are covered. -/
def uncovered (decisions : List AIDecision) (s : Store) : List PhraseSuggestedRule :=
  (phraseRulesFromTactics rt (tacticCounts decisions)).filter
    fun suggestion => ¬ Covered s suggestion.tactic

def PhraseSuggestedRule.dto (suggestion : PhraseSuggestedRule) (pattern : Value) :
    CreateDetectionRuleDto where
  name := suggestion.name
  description := suggestion.description
  ruleType := .phraseMatch
  pattern := pattern
  category := none
  severity := some suggestion.severity
  sourceClusterId := none

/-- `createSuggestion` of one after the other, as far as their patterns can be stored. -/
def createPhraseRules (actor : AuthenticatedUser) (ip : Option Text) :
    List PhraseSuggestedRule → Program (List DetectionRule)
  | [] => pure []
  | suggestion :: rest => do
    match suggestion.pattern with
    | none => throw .internal
    | some pattern =>
      let rule ← createSuggestion actor (suggestion.dto pattern) ip
      let created ← createPhraseRules actor ip rest
      return rule :: created

/-- Create a DRAFT phrase rule for the tactics of verified signals. -/
def generatePhraseRuleSuggestions (signals : SignalTable) (decisions : List AIDecision)
    (actor : AuthenticatedUser) (ip : Option Text) : Program GenerateSuggestionsResult := do
  let verifiedSignals := signals.verified.take 1000
  if verifiedSignals = [] then return ⟨0, 0, []⟩
  else
    let decisions := (decisionsOn verifiedSignals decisions).take 5000
    let suggestions ← Prog.act .read .internal fun s => (uncovered rt decisions s, s)
    let created ← createPhraseRules actor ip suggestions
    return ⟨decisions.length, created.length, created.map DetectionRule.id⟩

end Phrases

end DetectionRules
