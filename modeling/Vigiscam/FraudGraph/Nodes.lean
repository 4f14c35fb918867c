import Vigiscam.Concurrency.Prog
import Vigiscam.Concurrency.Table
import Vigiscam.Http
import Vigiscam.Js.Pattern
import Vigiscam.ScamSignals.Normalization

/-!
# Nodes of the fraud graph (`fraud-graph.service.ts`, `masker.ts`)

Each indicator has one node. `recordNode` projects a finding of any module onto the graph: it
counts it on the node of its indicator, or creates the node, with a display value in which the
indicator is masked by its shape.
-/

namespace FraudGraph

open Js Concurrency ScamSignals

inductive FraudGraphNodeType where
  | indicator | campaign | actor | profile | faceSignal | voiceSignal | scriptPattern
  | paymentRequest | giftCardRequest | ipRange
deriving DecidableEq

/-! ## Masking -/

structure MaskableNode where
  nodeType : FraudGraphNodeType
  normalizedIndicator : Option Text
  displayMask : Option Text
  label : Text

/-- `slice(-n)`. -/
def lastUnits (n : Nat) (s : Text) : Text := s.drop (s.length - n)

/-- `'*'.repeat(n)`. -/
def stars (n : Nat) : Text := List.replicate n 0x2A

/-- `name@host` → `n***@host`, where `/^[^@]+@[^@]+\.[^@]+$/` matches. -/
def maskEmail (value : Text) : Option Text :=
  match value.splitOn 0x40 with
  | [name, host] =>
    if name ≠ [] ∧ 0x2E ∈ host.tail.dropLast then
      some (name.take 1 ++ stars (max 2 (name.length - 1)) ++ utf16 "@" ++ host)
    else none
  | _ => none

/-- `/^\+?\d{7,15}$/` -/
def isPhone (value : Text) : Bool := isRunOf (isDigit ·) 7 15 (stripPrefix "+" value)

/-- Keep the country code and the last 4 digits. -/
def maskPhone (value : Text) : Text :=
  let head := if (utf16 "+").isPrefixOf value then value.take 3 ++ utf16 "-" else []
  head ++ utf16 "***-***-" ++ lastUnits 4 (value.filter (isDigit ·))

def isWallet (value : Text) : Bool :=
  startsThen "0x" (isRun isHex 40) value
    || startsThen "1" (isRun (fun c => isBase58 c || c = 0x30) 25) value
    || startsThen "3" (isRun (fun c => isBase58 c || c = 0x30) 25) value
    || startsThen "bc1" (isRun isLowerAlnum 1) value
    || startsThen "T" (isRun isBase58 1) value
    || isRunOf isBase58 32 44 value

/-- Keep the first 6 and the last 6 units. -/
def maskWallet (value : Text) : Text :=
  if value.length ≤ 14 then value else value.take 6 ++ utf16 "..." ++ lastUnits 6 value

/-- `INDICATOR_MASK_BY_TYPE`, of an indicator node: by the shape of the value. -/
def maskByShape (value : Text) : Option Text :=
  (maskEmail value).or
    (if isPhone value then some (maskPhone value)
      else if isWallet value then some (maskWallet value)
      else none)

/-- `@username` → `@u***me`. -/
def maskHandle (raw : Text) : Text :=
  let stripped := stripPrefix "@" raw
  if stripped.length ≤ 3 then utf16 "@" ++ stripped.take 1 ++ utf16 "***"
  else utf16 "@" ++ stripped.take 1 ++ stars (stripped.length - 3) ++ lastUnits 2 stripped

/-- The display value of a node. -/
def mask (node : MaskableNode) : Text :=
  match present node.displayMask, present node.normalizedIndicator with
  | some displayMask, _ => displayMask
  | none, none => node.label
  | none, some raw =>
    match node.nodeType with
    | .profile => maskHandle raw
    | .faceSignal | .voiceSignal => raw.take 8 ++ utf16 "…"
    | .indicator => (present (maskByShape raw)).getD node.label
    -- a campaign label or an address range is public-safe by construction
    | _ => node.label

/-! ## Tables -/

structure FraudGraphNode where
  id : Uuid
  nodeType : FraudGraphNodeType
  indicatorType : Option IndicatorType
  normalizedIndicator : Option Text
  label : Text
  displayMask : Option Text
  category : Option Text
  signalCount : Nat
  riskScore : Int
  firstSeen : Date
  lastSeen : Date

structure Store where
  nodes : List FraudGraphNode
  now : Date
  /-- The id that is given out next, after so many. -/
  uuid : Nat → Uuid
  issued : Nat

inductive GraphStep where
  | read | create | update
deriving DecidableEq

abbrev Program (α : Type) := Prog Store GraphStep HttpError α

def read {α : Type} (f : Store → α) : Program α := Prog.act .read .internal fun s => (f s, s)

/-- The columns that are unique together. -/
def FraudGraphNode.key (node : FraudGraphNode) : Option IndicatorType × Option Text :=
  (node.indicatorType, node.normalizedIndicator)

/-- The id of a node is taken, or its indicator; a null is like no other. -/
def Store.Taken (s : Store) (node : FraudGraphNode) : Prop :=
  node.id ∈ s.nodes.map FraudGraphNode.id ∨
    (node.indicatorType ≠ none ∧ node.normalizedIndicator ≠ none ∧
      node.key ∈ s.nodes.map FraudGraphNode.key)

instance (s : Store) (node : FraudGraphNode) : Decidable (s.Taken node) :=
  inferInstanceAs (Decidable (_ ∨ _))

/-- `fraudGraphNode.create`; it throws where the id or the indicator is taken. -/
def createNode (row : Date → Uuid → FraudGraphNode) : Program FraudGraphNode :=
  Prog.attempt .create .internal fun s =>
    let node := row s.now (s.uuid s.issued)
    if s.Taken node then none
    else some (node, { s with nodes := s.nodes ++ [node], issued := s.issued + 1 })

/-- `fraudGraphNode.update` of one row; it throws when there is no such row. -/
def updateNode (id : Uuid) (f : Date → FraudGraphNode → FraudGraphNode) :
    Program FraudGraphNode :=
  Prog.attempt .update .internal fun s =>
    (Table.find FraudGraphNode.id id s.nodes).map fun node =>
      (f s.now node, { s with nodes := Table.modify FraudGraphNode.id id (f s.now) s.nodes })

/-! ## `recordNode` -/

structure RecordNodeInput where
  indicatorType : IndicatorType
  indicatorValue : Text
  category : Option Text
  riskScore : Option Int

section Record

variable (toLowerCase : Text → Text) (input : RecordNodeInput)

/-- The indicator as it is stored. -/
def RecordNodeInput.normalized : Text :=
  normalizeIndicator toLowerCase input.indicatorType input.indicatorValue

def RecordNodeInput.displayMask : Text :=
  mask {
    nodeType := .indicator
    normalizedIndicator := some (input.normalized toLowerCase)
    displayMask := none
    label := input.indicatorValue }

/-- A finding is counted on the node that was found. -/
def countFinding (existing : FraudGraphNode) : Program FraudGraphNode :=
  updateNode existing.id fun now node =>
    { node with
      signalCount := node.signalCount + 1
      riskScore := max existing.riskScore (input.riskScore.getD 0)
      category := existing.category.or input.category
      displayMask := some (existing.displayMask.getD (input.displayMask toLowerCase))
      lastSeen := now }

/-- The row of an indicator that has no node. -/
def newNode (now : Date) (id : Uuid) : FraudGraphNode where
  id := id
  nodeType := .indicator
  indicatorType := some input.indicatorType
  normalizedIndicator := some (input.normalized toLowerCase)
  label := input.indicatorValue
  displayMask := some (input.displayMask toLowerCase)
  category := input.category
  signalCount := 1
  riskScore := input.riskScore.getD 0
  firstSeen := now
  lastSeen := now

/-- Record a graph node from any module's finding, not just a signal. -/
def recordNode : Program FraudGraphNode := do
  let existing ← read fun s => Table.find FraudGraphNode.key
    (some input.indicatorType, some (input.normalized toLowerCase)) s.nodes
  match existing with
  | some existing => countFinding toLowerCase input existing
  | none => createNode (newNode toLowerCase input)

end Record

example : maskByShape (utf16 "mallory@evil.example") = some (utf16 "m******@evil.example") := by
  decide

example : maskByShape (utf16 "+15551234567") = some (utf16 "+15-***-***-4567") := by decide

end FraudGraph
