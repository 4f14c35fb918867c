import Vigiscam.Concurrency.Issued
import Vigiscam.Concurrency.Prog
import Vigiscam.EvidenceVault.Service
import Vigiscam.Http
import Vigiscam.Js.Property
import Vigiscam.RiskFusion.Service

/-!
# Policies of an enterprise (`policy-registry.ts`, `enterprise-portal.service.ts`)

A policy is a value under a key, and the registry says which keys there are and which values each
takes. A key is known when it is `in` the registry, and the registry is an object: it also has
the names that every object inherits. The registry is closed to every key but those
(`closed_iff`).
-/

namespace EnterprisePortal

open Js Value Concurrency EvidenceVault
open RiskFusion (inheritedNames)

/-! ## The registry -/

structure EnterprisePolicyDefinition where
  key : Text
  /-- The error of a value that is not accepted. -/
  validate : Value → Option Text

def isBool : Value → Bool
  | .bool _ => true
  | _ => false

/-- `isPosInt(v) && v >= lo && v <= hi`. -/
def isIntBetween (lo hi : Int) : Value → Bool
  | .number x => x.scale = 0 ∧ 0 ≤ x.mantissa ∧ lo ≤ x.mantissa ∧ x.mantissa ≤ hi
  | _ => false

/-- `isStringArr`, with the strings. -/
def stringArr : Value → Option (List Text)
  | array items => items.mapM asText
  | _ => none

def mustBeBool (v : Value) : Option Text :=
  if isBool v then none else some "must be a boolean"

def validateGuardianPause (v : Value) : Option Text :=
  if isIntBetween 30 3600 v then none else some "must be an integer between 30 and 3600 seconds"

def validateRetention (v : Value) : Option Text :=
  if isIntBetween 30 3650 v then none else some "must be an integer between 30 and 3650 days"

def allowedChannels : List Text := ["EMAIL", "SMS", "PUSH", "IN_APP", "WEBSOCKET"]

def validateChannels (v : Value) : Option Text :=
  match stringArr v with
  | none => some "must be an array of channel names"
  | some channels =>
    (channels.find? (· ∉ allowedChannels)).map fun x =>
      utf16 "unknown channel \"" ++ x ++ utf16 "\""

def validateExportRoles (v : Value) : Option Text :=
  if (stringArr v).isSome then none else some "must be an array of role names"

def POLICY_REGISTRY : List EnterprisePolicyDefinition :=
  [⟨"elder_mode_default", mustBeBool⟩,
    ⟨"guardian_pause_default_seconds", validateGuardianPause⟩,
    ⟨"continue_anyway_disabled", mustBeBool⟩,
    ⟨"trusted_contact_review_required_at_critical", mustBeBool⟩,
    ⟨"data_retention_days", validateRetention⟩,
    ⟨"evidence_legal_hold_default", mustBeBool⟩,
    ⟨"notification_channels_enabled", validateChannels⟩,
    ⟨"audit_export_allowed_roles", validateExportRoles⟩]

def KNOWN_POLICY_KEYS : List Text := POLICY_REGISTRY.map EnterprisePolicyDefinition.key

/-- `k in POLICY_REGISTRY`. -/
def isKnownPolicyKey (k : Text) : Bool := k ∈ KNOWN_POLICY_KEYS ∨ k ∈ inheritedNames

/-- `POLICY_REGISTRY[key].validate`; what is inherited has no such field. -/
def validatorOf (key : Text) : Option (Value → Option Text) :=
  (POLICY_REGISTRY.find? (·.key = key)).map EnterprisePolicyDefinition.validate

theorem nodup_keys : KNOWN_POLICY_KEYS.Nodup := by decide

theorem not_inherited_of_mem {key : Text} (h : key ∈ KNOWN_POLICY_KEYS) :
    key ∉ inheritedNames := by
  revert key
  decide

theorem validatorOf_of_mem {p : EnterprisePolicyDefinition} (h : p ∈ POLICY_REGISTRY) :
    validatorOf p.key = some p.validate := by
  have hfind := (Table.find_eq_some_iff nodup_keys).mpr ⟨h, rfl⟩
  exact congrArg (Option.map EnterprisePolicyDefinition.validate) hfind

theorem validatorOf_of_not_mem {key : Text} (h : key ∉ KNOWN_POLICY_KEYS) :
    validatorOf key = none :=
  congrArg (Option.map EnterprisePolicyDefinition.validate) (Table.find_eq_none_iff.mpr h)

/-! ## The tables -/

structure EnterprisePolicy where
  id : Uuid
  tenantId : Uuid
  key : Text
  value : Value
  updatedByUserId : Uuid
  evidenceEventId : Option Uuid

/-- What a policy is unique for. -/
def EnterprisePolicy.tenantKey (p : EnterprisePolicy) : Uuid × Text := (p.tenantId, p.key)

structure Store where
  policies : Table.Issued Uuid EnterprisePolicy EnterprisePolicy.id
  evidence : Table.Issued Uuid (Uuid × AppendEvidenceInput) Prod.fst
  keys_nodup : (policies.rows.map EnterprisePolicy.tenantKey).Nodup

inductive PolicyStep where
  | find | upsert | append | update | delete
deriving DecidableEq

abbrev Program (α : Type) := Prog Store PolicyStep HttpError α

def findPolicy (tenantId : Uuid) (key : Text) : Program (Option EnterprisePolicy) :=
  Prog.act .find .internal fun s =>
    (Table.find EnterprisePolicy.tenantKey (tenantId, key) s.policies.rows, s)

/-- The policy of a tenant under a key. -/
def Store.policy (s : Store) (k : Uuid × Text) : Option EnterprisePolicy :=
  Table.find EnterprisePolicy.tenantKey k s.policies.rows

/-- The row of one id, with other columns. -/
def Store.modify (s : Store) (id : Uuid) (f : EnterprisePolicy → EnterprisePolicy)
    (hid : ∀ p, (f p).id = p.id) (hkey : ∀ p, (f p).tenantKey = p.tenantKey) : Store :=
  { s with
    policies := s.policies.modify id f hid
    keys_nodup := by
      rw [Table.Issued.rows_modify, Table.map_modify hkey]
      exact s.keys_nodup }

def Store.add (s : Store) (p : EnterprisePolicy) (hid : p.id = s.policies.next)
    (hkey : p.tenantKey ∉ s.policies.rows.map EnterprisePolicy.tenantKey) : Store :=
  { s with
    policies := s.policies.add p hid
    keys_nodup := Table.nodup_append_new s.keys_nodup hkey }

def Store.remove (s : Store) (id : Uuid) : Store :=
  { s with
    policies := s.policies.remove id
    keys_nodup := s.keys_nodup.sublist (List.filter_sublist.map EnterprisePolicy.tenantKey) }

/-- The value that a user gives a policy. -/
def EnterprisePolicy.write (value : Value) (userId : Uuid) (p : EnterprisePolicy) :
    EnterprisePolicy :=
  { p with value, updatedByUserId := userId }

def EnterprisePolicy.linkEvidence (eventId : Uuid) (p : EnterprisePolicy) : EnterprisePolicy :=
  { p with evidenceEventId := some eventId }

def newPolicy (user : AuthenticatedUser) (key : Text) (value : Value) (id : Uuid) :
    EnterprisePolicy where
  id := id
  tenantId := user.tenantId
  key := key
  value := value
  updatedByUserId := user.userId
  evidenceEventId := none

/-- `upsert` by the tenant and the key. -/
def Store.upsert (user : AuthenticatedUser) (key : Text) (value : Value) (s : Store) :
    EnterprisePolicy × Store :=
  match h : Table.find EnterprisePolicy.tenantKey (user.tenantId, key) s.policies.rows with
  | some row =>
    (row.write value user.userId,
      s.modify row.id (.write value user.userId) (fun _ => rfl) fun _ => rfl)
  | none =>
    (newPolicy user key value s.policies.next,
      s.add (newPolicy user key value s.policies.next) rfl (Table.find_eq_none_iff.mp h))

def upsertPolicy (user : AuthenticatedUser) (key : Text) (value : Value) :
    Program EnterprisePolicy :=
  Prog.act .upsert .internal (Store.upsert user key value)

def updatePolicy (id : Uuid) (eventId : Uuid) : Program EnterprisePolicy :=
  Prog.attempt .update .internal fun s =>
    (Table.find EnterprisePolicy.id id s.policies.rows).map fun row =>
      (row.linkEvidence eventId, s.modify id (.linkEvidence eventId) (fun _ => rfl) fun _ => rfl)

def removePolicy (id : Uuid) : Program Unit :=
  Prog.attempt .delete .internal fun s =>
    if id ∈ s.policies.rows.map EnterprisePolicy.id then some ((), s.remove id) else none

/-- `evidence.append`, which gives the id of the event. -/
def appendEvidence (input : AppendEvidenceInput) : Program Uuid :=
  Prog.act .append .internal fun s =>
    (s.evidence.next, { s with evidence := s.evidence.add (s.evidence.next, input) rfl })

/-! ## The service -/

/-- The body of a request, as it was parsed: a key of an object has one value. -/
structure SetPolicyDto where
  value : Value
  value_distinct : value.Distinct

/-- An event about a policy. -/
def policyEvidence (user : AuthenticatedUser) (row : EnterprisePolicy)
    (eventType description : Text) (metadata : Value) (h : metadata.Distinct) :
    AppendEvidenceInput where
  tenantId := some user.tenantId
  actorId := some user.userId
  actorType := some "USER"
  entityType := "ENTERPRISE_POLICY"
  entityId := row.id
  eventType := eventType
  eventDescription := description
  metadata := metadata
  ipAddress := none
  deviceId := none
  metadata_distinct := h

theorem distinct_setMetadata (key : Text) (dto : SetPolicyDto) :
    Distinct (object [("key", string key), ("value", dto.value)]) := by
  refine ⟨?_, trivial, dto.value_distinct, trivial⟩
  show List.Nodup [utf16 "key", utf16 "value"]
  decide

theorem distinct_keyMetadata (key : Text) : Distinct (object [("key", string key)]) :=
  ⟨List.nodup_singleton _, trivial, trivial⟩

def unknownKey (key : Text) : HttpError :=
  .badRequest (utf16 "Unknown policy key \"" ++ key ++ utf16 "\"")

def invalidValue (key error : Text) : HttpError :=
  .badRequest (utf16 "Invalid value for \"" ++ key ++ utf16 "\": " ++ error)

/-- The text of an event, with the key in it. -/
def policyText (key : Text) (what : Text) : Text :=
  utf16 "Policy \"" ++ key ++ utf16 "\" " ++ what

def getPolicy (user : AuthenticatedUser) (key : Text) : Program EnterprisePolicy := do
  if ¬ isKnownPolicyKey key then throw (unknownKey key)
  match ← findPolicy user.tenantId key with
  | none => throw (.notFound "Policy not set for this tenant")
  | some row => pure row

def setPolicy (user : AuthenticatedUser) (key : Text) (dto : SetPolicyDto) :
    Program EnterprisePolicy := do
  if ¬ isKnownPolicyKey key then throw (unknownKey key)
  match validatorOf key with
  | none => throw .internal  -- `undefined` is called
  | some validate =>
    match validate dto.value with
    | some error => throw (invalidValue key error)
    | none =>
      let row ← upsertPolicy user key dto.value
      let eventId ← appendEvidence (policyEvidence user row "ENTERPRISE_POLICY_SET"
        (policyText key "updated") (object [("key", string key), ("value", dto.value)])
        (distinct_setMetadata key dto))
      updatePolicy row.id eventId

def deletePolicy (user : AuthenticatedUser) (key : Text) : Program Unit := do
  if ¬ isKnownPolicyKey key then throw (unknownKey key)
  match ← findPolicy user.tenantId key with
  | none => throw (.notFound "Policy not set for this tenant")
  | some row =>
    removePolicy row.id
    let _ ← appendEvidence (policyEvidence user row "ENTERPRISE_POLICY_DELETED"
      (policyText key "cleared") (object [("key", string key)]) (distinct_keyMetadata key))

/-! ## What is written -/

section Written

variable {s t : Store} {user : AuthenticatedUser} {key : Text} {value : Value}
  {row : EnterprisePolicy} {k : Uuid × Text} {f : EnterprisePolicy → EnterprisePolicy}

/-- The key has the row, with the value, and the other keys have the rows that they had. -/
structure Written (user : AuthenticatedUser) (key : Text) (value : Value) (s t : Store)
    (row : EnterprisePolicy) : Prop where
  found : t.policy (user.tenantId, key) = some row
  value : row.value = value
  others : ∀ k, k ≠ (user.tenantId, key) → t.policy k = s.policy k

theorem Store.id_of_policy (h : s.policy k = some row) :
    Table.find EnterprisePolicy.id row.id s.policies.rows = some row :=
  Table.Issued.find_eq_some_iff.mpr ⟨Table.mem_of_find h, rfl⟩

theorem Store.policy_modify (h : s.policy k = some row) (hid : ∀ p, (f p).id = p.id)
    (hkey : ∀ p, (f p).tenantKey = p.tenantKey) :
    (s.modify row.id f hid hkey).policy k = some (f row) := by
  have hg : ∀ p : EnterprisePolicy,
      (if p.id = row.id then f p else p).tenantKey = p.tenantKey := by
    intro p
    split
    · exact hkey p
    · rfl
  have hfind : (s.modify row.id f hid hkey).policy k = (s.policy k).map _ :=
    Table.find_map hg
  rw [hfind, h]
  exact congrArg some (if_pos rfl)

/-- The other keys belong to other rows. -/
theorem Store.policy_modify_of_ne {k' : Uuid × Text} (h : s.policy k = some row)
    (hid : ∀ p, (f p).id = p.id) (hkey : ∀ p, (f p).tenantKey = p.tenantKey) (hne : k' ≠ k) :
    (s.modify row.id f hid hkey).policy k' = s.policy k' := by
  have hg : ∀ p : EnterprisePolicy,
      (if p.id = row.id then f p else p).tenantKey = p.tenantKey := by
    intro p
    split
    · exact hkey p
    · rfl
  have hfind : (s.modify row.id f hid hkey).policy k' = (s.policy k').map _ :=
    Table.find_map hg
  rw [hfind]
  cases hother : s.policy k' with
  | none => rfl
  | some row' =>
    refine congrArg some (if_neg fun hsame => hne ?_)
    have hrow : row' = row :=
      s.policies.eq_of_key (Table.mem_of_find hother) (Table.mem_of_find h) hsame
    rw [← Table.key_of_find hother, hrow]
    exact Table.key_of_find h

theorem written_upsert (user : AuthenticatedUser) (key : Text) (value : Value) (s : Store) :
    Written user key value s (s.upsert user key value).2 (s.upsert user key value).1 := by
  unfold Store.upsert
  split
  · next row h =>
    refine ⟨s.policy_modify (f := .write value user.userId) h (fun _ => rfl) fun _ => rfl, rfl,
      fun k hk => ?_⟩
    exact s.policy_modify_of_ne (f := .write value user.userId) h (fun _ => rfl)
      (fun _ => rfl) hk
  · next h =>
    have hnew := Table.find_eq_none_iff.mp h
    refine ⟨Table.find_append_new (r := newPolicy user key value s.policies.next) hnew, rfl,
      fun k hk => ?_⟩
    refine Table.find_append_singleton.trans ?_
    exact (congrArg _ (if_neg (Ne.symm hk))).trans Option.or_none

/-- The event of a write leaves the policies as they are. -/
theorem Written.logged (h : Written user key value s t row) (input : AppendEvidenceInput) :
    Written user key value s ((appendEvidence input).run t).2 row :=
  ⟨h.found, h.value, h.others⟩

/-- The event is linked to the policy that was written. -/
theorem Written.linked (h : Written user key value s t row) (eventId : Uuid) :
    ∃ row' t', (updatePolicy row.id eventId).run t = (.ok row', t') ∧
      Written user key value s t' row' := by
  refine ⟨row.linkEvidence eventId,
    t.modify row.id (.linkEvidence eventId) (fun _ => rfl) fun _ => rfl,
    Prog.run_attempt_some ?_, ?_, h.value, ?_⟩
  · rw [t.id_of_policy h.found]
    rfl
  · exact t.policy_modify (f := .linkEvidence eventId) h.found (fun _ => rfl) fun _ => rfl
  · intro k hk
    refine Eq.trans ?_ (h.others k hk)
    exact t.policy_modify_of_ne (f := .linkEvidence eventId) h.found (fun _ => rfl)
      (fun _ => rfl) hk

end Written

/-! ## The keys that are refused -/

section Closed

variable {key : Text} {p : EnterprisePolicyDefinition}

/-- The operations on the key are refused, and change nothing. -/
def Refused (key : Text) : Prop :=
  ∀ (user : AuthenticatedUser) (dto : SetPolicyDto) (s : Store),
    (getPolicy user key).run s = (.error (unknownKey key), s) ∧
    (setPolicy user key dto).run s = (.error (unknownKey key), s) ∧
    (deletePolicy user key).run s = (.error (unknownKey key), s)

/-- A value that the validator accepts is stored, and another one is refused and changes
nothing. -/
def StoresAccepted (p : EnterprisePolicyDefinition) : Prop :=
  ∀ (user : AuthenticatedUser) (dto : SetPolicyDto) (s : Store),
    match p.validate dto.value with
    | none => ∃ row t, (setPolicy user p.key dto).run s = (.ok row, t) ∧
        Written user p.key dto.value s t row
    | some error => (setPolicy user p.key dto).run s = (.error (invalidValue p.key error), s)

/-- The key is refused where it is not registered, and takes the accepted values where it is. -/
def Closed (key : Text) : Prop :=
  (key ∉ KNOWN_POLICY_KEYS → Refused key) ∧
  ∀ p ∈ POLICY_REGISTRY, p.key = key → StoresAccepted p

theorem refused_of_unknown (h : isKnownPolicyKey key = false) : Refused key := by
  intro user dto s
  simp only [getPolicy, setPolicy, deletePolicy, h, Bool.false_eq_true, not_false_eq_true,
    if_true]
  exact ⟨rfl, rfl, rfl⟩

theorem storesAccepted_of_mem (h : p ∈ POLICY_REGISTRY) : StoresAccepted p := by
  intro user dto s
  have hknown : isKnownPolicyKey p.key = true :=
    decide_eq_true (Or.inl (List.mem_map_of_mem h))
  cases hvalid : p.validate dto.value with
  | some error =>
    simp only [setPolicy, hknown, validatorOf_of_mem h, hvalid, not_true_eq_false, if_false]
    rfl
  | none =>
    have hlogged := (written_upsert user p.key dto.value s).logged
      (policyEvidence user (s.upsert user p.key dto.value).1 "ENTERPRISE_POLICY_SET"
        (policyText p.key "updated") _ (distinct_setMetadata p.key dto))
    obtain ⟨row, t, hrun, hwritten⟩ :=
      hlogged.linked (s.upsert user p.key dto.value).2.evidence.next
    refine ⟨row, t, ?_, hwritten⟩
    simp only [setPolicy, hknown, validatorOf_of_mem h, hvalid, not_true_eq_false, if_false]
    exact hrun

/-- `getPolicy` looks an inherited name up, and `setPolicy` calls what is no function. -/
theorem not_refused_of_inherited (h : key ∈ inheritedNames) (s : Store) : ¬ Refused key := by
  intro hrefused
  have hown : key ∉ KNOWN_POLICY_KEYS := fun hmem => not_inherited_of_mem hmem h
  have hknown : isKnownPolicyKey key = true := decide_eq_true (Or.inr h)
  have hset := (hrefused ⟨"U", "T", .enterpriseAdmin⟩ ⟨null, trivial⟩ s).2.1
  simp only [setPolicy, hknown, validatorOf_of_not_mem hown, not_true_eq_false, if_false] at hset
  have herror := congrArg Prod.fst hset
  cases herror

def emptyStore : Store where
  policies := Table.Issued.empty (fun n => List.replicate n 0x30)
    zeros_injective
  evidence := Table.Issued.empty (fun n => List.replicate n 0x30)
    zeros_injective
  keys_nodup := List.nodup_nil

/-- The registry is closed to a key exactly when no object inherits it. -/
theorem closed_iff (key : Text) : Closed key ↔ key ∉ inheritedNames := by
  constructor
  · rintro ⟨hrefused, -⟩ hmem
    have hown : key ∉ KNOWN_POLICY_KEYS := fun hknown => not_inherited_of_mem hknown hmem
    exact not_refused_of_inherited hmem emptyStore (hrefused hown)
  · intro hmem
    refine ⟨fun hown => refused_of_unknown (decide_eq_false ?_), ?_⟩
    · rintro (h | h)
      · exact hown h
      · exact hmem h
    · rintro p hp -
      exact storesAccepted_of_mem hp

def sampleUser : AuthenticatedUser := ⟨"U", "T", .enterpriseAdmin⟩

/-- `constructor` is no registered key, but its policy is looked up in the database, and to set it
is a `TypeError`. -/
theorem constructor_not_refused :
    utf16 "constructor" ∉ KNOWN_POLICY_KEYS ∧
    (getPolicy sampleUser "constructor").run emptyStore =
      (.error (.notFound "Policy not set for this tenant"), emptyStore) ∧
    (setPolicy sampleUser "constructor" ⟨bool true, trivial⟩).run emptyStore =
      (.error .internal, emptyStore) ∧
    (deletePolicy sampleUser "constructor").run emptyStore =
      (.error (.notFound "Policy not set for this tenant"), emptyStore) := by
  have hmem : utf16 "constructor" ∈ inheritedNames := by decide
  have hown : utf16 "constructor" ∉ KNOWN_POLICY_KEYS :=
    fun hknown => not_inherited_of_mem hknown hmem
  have hknown : isKnownPolicyKey "constructor" = true := decide_eq_true (Or.inr hmem)
  simp only [getPolicy, setPolicy, deletePolicy, hknown, validatorOf_of_not_mem hown,
    not_true_eq_false, if_false]
  exact ⟨hown, rfl, rfl, rfl⟩

end Closed

end EnterprisePortal
