import Vigiscam.FraudGraph.Campaigns
import Vigiscam.IdentityGraph.Rows

/-!
# Recording indicators

A row of an indicator is written by `recordNode` and by `ensureNodeForSignal`. Each keeps the rows
as they were recorded (`Sound`), and keeps them safe to show (`Masked`) exactly where the indicator
that gets a row is redacted (`Redacts`), and where the mask of a finding spares the profile, the
face or the voice that it is stored on (`KeepsFinding`).
-/

namespace IdentityGraph

open Js Concurrency FraudGraph ScamSignals

/-! ## What a step does to the rows -/

/-- The id that is given out next is of no row. -/
def CanCreate (s : FraudGraph.Store) : Prop := s.uuid s.issued ∉ s.nodes.map FraudGraphNode.id

section Steps

variable {s : FraudGraph.Store} {P : FraudGraphNode → Prop} {e : FraudGraphNode}
  {f : Date → FraudGraphNode → FraudGraphNode} {row : Date → Uuid → FraudGraphNode}

theorem run_updateNode (he : e ∈ s.nodes) :
    ((updateNode e.id f).run s).2.nodes =
      Table.modify FraudGraphNode.id e.id (f s.now) s.nodes := by
  cases hfind : Table.find FraudGraphNode.id e.id s.nodes with
  | some node =>
    have hrun : (updateNode e.id f).run s = _ := Prog.run_attempt_some (by rw [hfind]; rfl)
    rw [hrun]
  | none => exact absurd (List.mem_map_of_mem he) (Table.find_eq_none_iff.mp hfind)

/-- What holds of the rows still holds of them where it does of the one that is updated. -/
theorem forall_updateNode (hids : (s.nodes.map FraudGraphNode.id).Nodup) (he : e ∈ s.nodes)
    (hall : ∀ node ∈ s.nodes, P node) :
    (∀ node ∈ ((updateNode e.id f).run s).2.nodes, P node) ↔ P (f s.now e) := by
  rw [run_updateNode he]
  constructor
  · exact fun h => h _ (Table.mem_modify.mpr ⟨e, he, if_pos rfl⟩)
  · intro h node hnode
    obtain ⟨r, hr, rfl⟩ := Table.mem_modify.mp hnode
    by_cases hid : r.id = e.id
    · rw [if_pos hid, List.inj_on_of_nodup_map hids hr he hid]
      exact h
    · rw [if_neg hid]
      exact hall r hr

theorem run_createNode (row : Date → Uuid → FraudGraphNode) :
    ((createNode row).run s).2.nodes =
      if s.Taken (row s.now (s.uuid s.issued)) then s.nodes
      else s.nodes ++ [row s.now (s.uuid s.issued)] := by
  by_cases htaken : s.Taken (row s.now (s.uuid s.issued))
  · have hrun : (createNode row).run s = _ := Prog.run_attempt_none (if_pos htaken)
    rw [hrun, if_pos htaken]
  · have hrun : (createNode row).run s = _ := Prog.run_attempt_some (if_neg htaken)
    rw [hrun, if_neg htaken]

theorem forall_createNode (hall : ∀ node ∈ s.nodes, P node) :
    (∀ node ∈ ((createNode row).run s).2.nodes, P node) ↔
      (¬ s.Taken (row s.now (s.uuid s.issued)) → P (row s.now (s.uuid s.issued))) := by
  rw [run_createNode]
  by_cases htaken : s.Taken (row s.now (s.uuid s.issued))
  · rw [if_pos htaken]
    exact iff_of_true hall fun h => absurd htaken h
  · rw [if_neg htaken, List.forall_mem_append, List.forall_mem_singleton]
    exact ⟨fun h _ => h.2, fun h => ⟨hall, h htaken⟩⟩

theorem nodup_updateNode (he : e ∈ s.nodes) (hid : ∀ now node, (f now node).id = node.id)
    (hids : (s.nodes.map FraudGraphNode.id).Nodup) :
    (((updateNode e.id f).run s).2.nodes.map FraudGraphNode.id).Nodup := by
  rwa [run_updateNode he, Table.map_modify (hid s.now)]

theorem nodup_createNode (hids : (s.nodes.map FraudGraphNode.id).Nodup) :
    (((createNode row).run s).2.nodes.map FraudGraphNode.id).Nodup := by
  rw [run_createNode]
  by_cases htaken : s.Taken (row s.now (s.uuid s.issued))
  · rwa [if_pos htaken]
  · rw [if_neg htaken, List.map_append, List.map_singleton, ← List.concat_eq_append,
      List.nodup_concat]
    exact ⟨fun h => htaken (Or.inl h), hids⟩

/-- The row of an indicator that has no node is taken where its id is. -/
theorem not_taken_iff {type : IndicatorType} {n : Text}
    (hfind : Table.find FraudGraphNode.key (some type, some n) s.nodes = none)
    (hkey : (row s.now (s.uuid s.issued)).key = (some type, some n))
    (hid : (row s.now (s.uuid s.issued)).id = s.uuid s.issued) :
    ¬ s.Taken (row s.now (s.uuid s.issued)) ↔ CanCreate s := by
  have hnew := Table.find_eq_none_iff.mp hfind
  rw [FraudGraph.Store.Taken, hid, hkey, not_or]
  exact and_iff_left fun h => hnew h.2.2

end Steps

/-! ## The two ways in which a row is written -/

/-- A row of an indicator is as it was recorded: a mask that is stored is that of the indicator,
found as some value. -/
def Recorded (toLowerCase : Text → Text) (node : FraudGraphNode) : Prop :=
  node.nodeType = .indicator → ∃ type n, node.indicatorType = some type ∧
    node.normalizedIndicator = some n ∧ n = normalizeIndicator toLowerCase type node.label ∧
    ∀ stored, node.displayMask = some stored → ∃ value, stored = shown n value

structure Sound (toLowerCase : Text → Text) (nodes : List FraudGraphNode) : Prop where
  ids : (nodes.map FraudGraphNode.id).Nodup
  recorded : ∀ node ∈ nodes, Recorded toLowerCase node

/-- Nobody's indicator or label is shown. -/
def Masked (nodes : List FraudGraphNode) : Prop := ∀ node ∈ nodes, Sensitive node → Hidden node

/-- Where an indicator of a person gets a row, its shape hides it. -/
def Redacts (s : FraudGraph.Store) (type : IndicatorType) (n : Text) : Prop :=
  Table.find FraudGraphNode.key (some type, some n) s.nodes = none → CanCreate s →
    isPersonal type → Redacted n

/-- What a finding has to be: of an indicator that gets a redacted row, or of a row to which the
mask of the finding can be given. -/
structure KeepsFinding (toLowerCase : Text → Text) (s : FraudGraph.Store)
    (input : RecordNodeInput) :
    Prop where
  redacts : Redacts s input.indicatorType (input.normalized toLowerCase)
  spares : ∀ node, Table.find FraudGraphNode.key
      (some input.indicatorType, some (input.normalized toLowerCase)) s.nodes = some node →
    isSensitiveType node.nodeType → node.displayMask = none → Spares input.indicatorValue node

section Rows

variable {toLowerCase : Text → Text} {s : FraudGraph.Store} {node node' e : FraudGraphNode}
  {type : IndicatorType} {n value : Text} {input : RecordNodeInput} {signal : ScamSignal}

theorem shown_ne_nil (h : Redacted n) : shown n value ≠ [] := by
  obtain ⟨stub, hstub, -⟩ := redacted_iff.mp h
  rw [shown_eq, hstub]
  exact text_ne_nil (shape_fill_ne_nil hstub)

/-- A row that is shown by the mask that it is created with, or by the same mask unstored. -/
theorem display_new (htype : node.nodeType = .indicator) (hn : node.normalizedIndicator = some n)
    (hmask : ∀ stored, node.displayMask = some stored → stored = shown n node.label) :
    display node = shown n node.label := by
  have hunstored : present node.displayMask = none → display node = shown n node.label := by
    intro hnone
    rw [display, htype, hn]
    unfold shown mask
    rw [hnone]
    rfl
  cases hstored : node.displayMask with
  | none => exact hunstored (by rw [hstored]; rfl)
  | some stored =>
    obtain rfl := hmask stored hstored
    by_cases hempty : shown n node.label = []
    · -- an empty mask is none
      exact hunstored (by rw [hstored, hempty]; rfl)
    · simp [display, mask, hstored, present_some hempty]

/-- **The row that is created** is safe to show exactly where its indicator is redacted. -/
theorem new_hidden_iff (hlower : LowerCaseParts toLowerCase) (htype : node.nodeType = .indicator)
    (hindicator : node.indicatorType = some type) (hn : node.normalizedIndicator = some n)
    (hnormal : n = normalizeIndicator toLowerCase type node.label)
    (hmask : ∀ stored, node.displayMask = some stored → stored = shown n node.label) :
    (Sensitive node → Hidden node) ↔ (isPersonal type → Redacted n) := by
  have hsensitive : Sensitive node ↔ isPersonal type := by
    simp [Sensitive, htype, hindicator, isSensitiveType]
  rw [hsensitive]
  refine forall_congr' fun hpersonal => ?_
  rw [Hidden, not_reveals_iff hn, display_new htype hn hmask, shown_iff hlower hpersonal hnormal]

/-- An indicator whose row is hidden keeps hidden by the mask of a finding. -/
theorem found_hidden (hnode : node.nodeType = .indicator)
    (hindicator : node'.normalizedIndicator = node.normalizedIndicator)
    (hlabel : node'.label = node.label) (hn : node.normalizedIndicator = some n)
    (hnone : node.displayMask = none) (hmask : node'.displayMask = some (shown n value))
    (hbefore : Hidden node) : Hidden node' := by
  have hdisplay : display node = shown n node.label :=
    display_new hnode hn fun stored hstored => by rw [hnone] at hstored; cases hstored
  rw [Hidden, hdisplay, not_reveals_iff hn] at hbefore
  have hredacted : Redacted n := redacted_of_shown hbefore.1 hbefore.2
  have hdisplay' : display node' = shown n node.label := by
    rw [shown_congr hredacted node.label value]
    simp [display, mask, hmask, present_some (shown_ne_nil hredacted)]
  rw [Hidden, not_reveals_iff (hindicator.trans hn), hdisplay', hlabel]
  exact hbefore

theorem run_recordNode_some
    (hfind : Table.find FraudGraphNode.key
      (some input.indicatorType, some (input.normalized toLowerCase)) s.nodes = some e) :
    (recordNode toLowerCase input).run s = (countFinding toLowerCase input e).run s := by
  simp [recordNode, FraudGraph.read, hfind]

theorem run_recordNode_none
    (hfind : Table.find FraudGraphNode.key
      (some input.indicatorType, some (input.normalized toLowerCase)) s.nodes = none) :
    (recordNode toLowerCase input).run s = (createNode (newNode toLowerCase input)).run s := by
  simp [recordNode, FraudGraph.read, hfind]

/-- A finding that is counted, of a row that it finds. -/
theorem sound_countFinding (hsound : Sound toLowerCase s.nodes)
    (hfind : Table.find FraudGraphNode.key
      (some input.indicatorType, some (input.normalized toLowerCase)) s.nodes = some e) :
    Sound toLowerCase ((countFinding toLowerCase input e).run s).2.nodes := by
  have he : e ∈ s.nodes := Table.mem_of_find hfind
  have hkey : e.key = (some input.indicatorType, some (input.normalized toLowerCase)) :=
    Table.key_of_find hfind
  refine ⟨nodup_updateNode he (fun _ _ => rfl) hsound.ids,
    (forall_updateNode hsound.ids he hsound.recorded).mpr fun hindicator => ?_⟩
  obtain ⟨type, n, htype, hn, hnormal, hstored⟩ := hsound.recorded e he hindicator
  refine ⟨type, n, htype, hn, hnormal, fun stored hmask => ?_⟩
  obtain rfl : n = input.normalized toLowerCase :=
    Option.some.inj (hn.symm.trans (Prod.mk.inj hkey).2)
  cases hbefore : e.displayMask with
  | none =>
    have hnew : some (e.displayMask.getD (input.displayMask toLowerCase)) = some stored := hmask
    rw [hbefore] at hnew
    exact ⟨input.indicatorValue, (Option.some.inj hnew).symm⟩
  | some old =>
    have hnew : some (e.displayMask.getD (input.displayMask toLowerCase)) = some stored := hmask
    rw [hbefore] at hnew
    exact hstored stored (hbefore.trans hnew)

theorem masked_countFinding (hsound : Sound toLowerCase s.nodes) (hmasked : Masked s.nodes)
    (hfind : Table.find FraudGraphNode.key
      (some input.indicatorType, some (input.normalized toLowerCase)) s.nodes = some e) :
    Masked ((countFinding toLowerCase input e).run s).2.nodes ↔
      KeepsFinding toLowerCase s input := by
  have he : e ∈ s.nodes := Table.mem_of_find hfind
  have hkey : e.key = (some input.indicatorType, some (input.normalized toLowerCase)) :=
    Table.key_of_find hfind
  have hn : e.normalizedIndicator = some (input.normalized toLowerCase) := (Prod.mk.inj hkey).2
  have hkeeps : KeepsFinding toLowerCase s input ↔
      (isSensitiveType e.nodeType → e.displayMask = none → Spares input.indicatorValue e) := by
    constructor
    · exact fun h => h.spares e hfind
    · intro h
      refine ⟨fun hnone => ?_, fun node hnode => ?_⟩
      · rw [hfind] at hnone
        cases hnone
      · obtain rfl := Option.some.inj (hfind.symm.trans hnode)
        exact h
  rw [hkeeps, Masked, countFinding, forall_updateNode hsound.ids he hmasked]
  let found : FraudGraphNode :=
    { e with
      signalCount := e.signalCount + 1
      riskScore := max e.riskScore (input.riskScore.getD 0)
      category := e.category.or input.category
      displayMask := some (e.displayMask.getD (input.displayMask toLowerCase))
      lastSeen := s.now }
  show (Sensitive found → Hidden found) ↔ _
  cases hstored : e.displayMask with
  | some stored =>
    -- the mask that is stored stays
    have hsame : display found = display e := by simp [display, found, hstored]
    refine iff_of_true (fun hsensitive => ?_) fun _ hnone => by cases hnone
    have hbefore := hmasked e he hsensitive
    rw [Hidden] at hbefore ⊢
    rwa [hsame]
  | none =>
    have hmask : found.displayMask =
        some (shown (input.normalized toLowerCase) input.indicatorValue) := by
      show some (e.displayMask.getD _) = _
      rw [hstored]
      rfl
    by_cases htype : isSensitiveType e.nodeType
    · have hiff : Hidden found ↔ Spares input.indicatorValue e :=
        spares_iff rfl rfl rfl hn hstored hmask (hmasked e he (Or.inl htype))
      constructor
      · exact fun h _ _ => hiff.mp (h (Or.inl htype))
      · exact fun h _ => hiff.mpr (h htype rfl)
    · refine iff_of_true (fun hsensitive => ?_) fun h => absurd h htype
      have hindicator : e.nodeType = .indicator := (hsensitive.resolve_left htype).1
      exact found_hidden hindicator rfl rfl hn hstored hmask (hmasked e he hsensitive)

/-- **What `recordNode` does** to the rows. -/
theorem recordNode_step (hlower : LowerCaseParts toLowerCase) (hsound : Sound toLowerCase s.nodes)
    (hmasked : Masked s.nodes) :
    Sound toLowerCase ((recordNode toLowerCase input).run s).2.nodes ∧
      (Masked ((recordNode toLowerCase input).run s).2.nodes ↔
        KeepsFinding toLowerCase s input) := by
  cases hfind : Table.find FraudGraphNode.key
      (some input.indicatorType, some (input.normalized toLowerCase)) s.nodes with
  | none =>
    rw [run_recordNode_none hfind]
    refine ⟨⟨nodup_createNode hsound.ids, ?_⟩, ?_⟩
    · refine (forall_createNode hsound.recorded).mpr fun _ _ => ?_
      refine ⟨input.indicatorType, _, rfl, rfl, rfl, fun stored hstored => ?_⟩
      exact ⟨input.indicatorValue, (Option.some.inj hstored).symm⟩
    · rw [Masked, forall_createNode hmasked, not_taken_iff hfind rfl rfl,
        new_hidden_iff hlower rfl rfl rfl rfl fun stored hstored => (Option.some.inj hstored).symm]
      constructor
      · intro h
        exact ⟨fun _ => h, fun node hnode => by rw [hfind] at hnode; cases hnode⟩
      · exact fun h => h.redacts hfind
  | some e =>
    rw [run_recordNode_some hfind]
    exact ⟨sound_countFinding hsound hfind, masked_countFinding hsound hmasked hfind⟩

/-! ### Signals -/

/-- The indicator of a signal is that of its value, as the intake has it. -/
def Normalized (toLowerCase : Text → Text) (signal : ScamSignal) : Prop :=
  signal.normalizedIndicator =
    normalizeIndicator toLowerCase signal.indicatorType signal.indicatorValue

/-- The value of a new signal is trimmed, which the indicator does not see. -/
theorem normalized_newSignal (platform : Platform) (opts : IntakeOptions) (base : Int) (now : Date)
    (id : Uuid) : Normalized platform.toLowerCase (newSignal platform opts base now id) := by
  show normalizeIndicator platform.toLowerCase opts.dto.indicatorType opts.dto.indicatorValue =
    normalizeIndicator platform.toLowerCase opts.dto.indicatorType (trim opts.dto.indicatorValue)
  cases opts.dto.indicatorType <;>
    simp [normalizeIndicator, normalizePhone, normalizeDomain, normalizeUrl, normalizeEmail,
      normalizeWallet, normalizePhrase, trim_trim]

/-- **What `ensureNodeForSignal` does** to the rows. -/
theorem ensureNodeForSignal_step (hlower : LowerCaseParts toLowerCase)
    (hsound : Sound toLowerCase s.nodes) (hmasked : Masked s.nodes)
    (hsignal : Normalized toLowerCase signal) :
    Sound toLowerCase ((ensureNodeForSignal signal).run s).2.nodes ∧
      (Masked ((ensureNodeForSignal signal).run s).2.nodes ↔
        Redacts s signal.indicatorType signal.normalizedIndicator) := by
  cases hfind : Table.find FraudGraphNode.key
      (some signal.indicatorType, some signal.normalizedIndicator) s.nodes with
  | none =>
    have hrun : (ensureNodeForSignal signal).run s = (createNode (nodeOfSignal signal)).run s := by
      simp [ensureNodeForSignal, FraudGraph.read, hfind]
    rw [hrun]
    refine ⟨⟨nodup_createNode hsound.ids, ?_⟩, ?_⟩
    · refine (forall_createNode hsound.recorded).mpr fun _ _ => ?_
      refine ⟨signal.indicatorType, _, rfl, rfl, hsignal, fun stored hstored => ?_⟩
      cases hstored
    · have hrow : (Sensitive (nodeOfSignal signal s.now (s.uuid s.issued)) →
          Hidden (nodeOfSignal signal s.now (s.uuid s.issued))) ↔
          (isPersonal signal.indicatorType → Redacted signal.normalizedIndicator) :=
        new_hidden_iff hlower rfl rfl rfl hsignal fun stored hstored => by cases hstored
      rw [Masked, forall_createNode hmasked, not_taken_iff hfind rfl rfl, hrow]
      exact ⟨fun h _ => h, fun h => h hfind⟩
  | some e =>
    have he : e ∈ s.nodes := Table.mem_of_find hfind
    have hrun : (ensureNodeForSignal signal).run s = (countSignal signal e).run s := by
      simp [ensureNodeForSignal, FraudGraph.read, hfind]
    rw [hrun]
    -- what is shown of the row stays the same
    refine ⟨⟨nodup_updateNode he (fun _ _ => rfl) hsound.ids,
      (forall_updateNode hsound.ids he hsound.recorded).mpr (hsound.recorded e he)⟩, ?_⟩
    refine iff_of_true ?_ fun hnone => by rw [hfind] at hnone; cases hnone
    exact (forall_updateNode hsound.ids he hmasked).mpr (hmasked e he)

end Rows

end IdentityGraph
