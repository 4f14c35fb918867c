import Vigiscam.IdentityGraph.Masking

/-!
# The display values of the rows

The row of a telephone number, an address, a wallet or a social profile is shown without its
indicator and its label exactly where the shape of the indicator hides it (`shown_iff`): a label
that could be read would be the indicator itself, but for the letter case of what is covered. Of a
profile, a face or a voice the label is any text, and so is the mask that is stored (`Discreet`).
-/

namespace IdentityGraph

open Js FraudGraph ScamSignals

/-- What lower-casing keeps of the parts of a text. -/
structure LowerCaseParts (toLowerCase : Text → Text) : Prop where
  /-- What is in lower case is so in each of its parts. -/
  part : ∀ s t, t <:+: toLowerCase s → toLowerCase t = t
  /-- Texts in lower case are so around a unit of ASCII that is no capital. -/
  around : ∀ a b c, c < 0x80 → isUpper c = false → toLowerCase a = a → toLowerCase b = b →
    toLowerCase (a ++ c :: b) = a ++ c :: b

/-- Lower-casing ASCII is unit by unit. -/
theorem lowerCaseParts_lowerAscii : LowerCaseParts lowerAscii where
  part s t h := by
    refine (List.map_congr_left fun c hc => ?_).trans (List.map_id t)
    obtain ⟨d, -, rfl⟩ := List.mem_map.mp (h.subset hc)
    exact lowerUnit_lowerUnit d
  around a b c _ hcapital ha hb := by
    have hc : lowerUnit c = c := by
      refine if_neg fun h => ?_
      simp [isUpper, h.1, h.2] at hcapital
    rw [lowerAscii, List.map_append, List.map_cons, hc]
    exact congrArg₂ _ ha (congrArg _ hb)

/-- The indicators of a person. -/
def isPersonal : IndicatorType → Bool
  | .phone | .email | .cryptoWallet | .socialProfile => true
  | _ => false

section Labels

variable {toLowerCase : Text → Text} {type : IndicatorType} {value label : Text}
  {stub : Stub CodeUnit}

theorem trim_part (s : Text) : trim s <:+: s :=
  (List.rdropWhile_prefix isBlank _).isInfix.trans (List.dropWhile_suffix isBlank).isInfix

/-- A filler of ASCII that is no capital joins two texts in lower case. -/
theorem LowerCaseParts.fill (hlower : LowerCaseParts toLowerCase) {a b fill : Text}
    (hfill : fill ≠ []) (hunits : ∀ c ∈ fill, c < 0x80 ∧ isUpper c = false)
    (ha : toLowerCase a = a) (hb : toLowerCase b = b) :
    toLowerCase (a ++ fill ++ b) = a ++ fill ++ b := by
  have hnil : toLowerCase [] = [] := hlower.part [] [] (List.nil_infix)
  induction fill generalizing a with
  | nil => exact absurd rfl hfill
  | cons c fill ih =>
    obtain ⟨hascii, hcapital⟩ := hunits c List.mem_cons_self
    rw [List.append_assoc]
    show toLowerCase (a ++ c :: (fill ++ b)) = a ++ c :: (fill ++ b)
    refine hlower.around a _ c hascii hcapital ha ?_
    by_cases hrest : fill = []
    · rw [hrest]
      exact hb
    · have hunits' : ∀ d ∈ fill, d < 0x80 ∧ isUpper d = false := fun d hd =>
        hunits d (List.mem_cons_of_mem c hd)
      exact ih (a := []) hrest hunits' hnil

/-- What is shown of an indicator in lower case is in lower case. -/
theorem lower_text (hlower : LowerCaseParts toLowerCase)
    (h : shapeStub (toLowerCase value) = some stub) : toLowerCase stub.text = stub.text := by
  have hpart : ∀ t, t <:+: toLowerCase value → toLowerCase t = t := hlower.part value
  rcases shapeStub_cases h with ⟨name, host, hemail, rfl⟩ | ⟨hphone, rfl⟩ | ⟨hwallet, rfl⟩
  · refine hlower.fill (shape_fill_ne_nil h) (fun c hc => ?_) ?_ ?_
    · obtain ⟨rfl, -⟩ := mem_stars.mp hc
      decide
    · refine hpart _ ?_
      rw [hemail.parts]
      exact (List.take_prefix 1 name).isInfix.trans (List.prefix_append name _).isInfix
    · refine hpart _ ?_
      rw [hemail.parts]
      exact (List.suffix_append name _).isInfix
  · refine hlower.fill (shape_fill_ne_nil h) (fun c hc => ?_) ?_ ?_
    · have hunits : (utf16 "***-***-").all (fun c => c < 0x80 && !isUpper c) = true := by decide
      have hunit := List.all_eq_true.mp hunits c hc
      simpa using hunit
    · show toLowerCase (if _ then _ else _) = if _ then _ else _
      split
      · refine hlower.around _ [] 0x2D (by decide) (by decide) ?_ (hpart _ List.nil_infix)
        exact hpart _ (List.take_prefix 3 _).isInfix
      · exact hpart _ List.nil_infix
    · exact hpart _ ((lastUnits_suffix 4 _).trans (digits_suffix hphone)).isInfix
  · refine hlower.fill (shape_fill_ne_nil h) (fun c hc => ?_) ?_ ?_
    · have hfill : c ∈ [0x2E, 0x2E, 0x2E] := hc
      obtain rfl : c = 0x2E := by simpa using hfill
      decide
    · exact hpart _ (List.take_prefix 6 _).isInfix
    · exact hpart _ (lastUnits_suffix 6 _).isInfix

theorem normalizePhone_cases (raw : Text) :
    ∃ digits, normalizePhone raw = 0x2B :: digits ∧ (∀ c ∈ digits, isDigit c) ∧
      (digits = (trim raw).filter (isDigit ·) ∨ ((trim raw).filter (isDigit ·)).length = 10) := by
  have hall : ∀ c ∈ (trim raw).filter (isDigit ·), isDigit c := fun c hc =>
    of_decide_eq_true (List.mem_filter.mp hc).2
  unfold normalizePhone
  by_cases hplus : (utf16 "+").isPrefixOf (trim raw)
  · exact ⟨_, if_pos hplus, hall, Or.inl rfl⟩
  · by_cases hten : ((trim raw).filter (isDigit ·)).length = 10
    · refine ⟨0x31 :: (trim raw).filter (isDigit ·), ?_, ?_, Or.inr hten⟩
      · simp [hplus, hten, show utf16 "+1" = [0x2B, 0x31] by decide]
      · exact List.forall_mem_cons.mpr ⟨by decide, hall⟩
    · exact ⟨(trim raw).filter (isDigit ·), by simp [hplus, hten], hall, Or.inl rfl⟩

/-- The stub of a telephone number has two digits and four. -/
theorem phoneStub_digits (digits : Text) :
    ((phoneStub (0x2B :: digits)).text.filter (isDigit ·)).length ≤ 6 := by
  have hhead : (phoneStub (0x2B :: digits)).head = 0x2B :: (digits.take 2 ++ [0x2D]) := by
    simp [phoneStub, show utf16 "+" = [0x2B] by decide, show utf16 "-" = [0x2D] by decide]
  have hfill : (phoneStub (0x2B :: digits)).fill.filter (isDigit ·) = [] := by
    show (utf16 "***-***-").filter (isDigit ·) = []
    decide
  have htail : (phoneStub (0x2B :: digits)).tail.length ≤ 4 := by
    show (lastUnits 4 _).length ≤ 4
    rw [length_lastUnits]
    omega
  have htwo : ((digits.take 2).filter (isDigit ·)).length ≤ 2 :=
    (List.length_filter_le _ _).trans (List.length_take_le 2 digits)
  have hfour := List.length_filter_le (isDigit ·)
    (phoneStub (0x2B :: digits)).tail
  rw [Stub.text, List.filter_append, List.filter_append, hfill, hhead, List.append_nil,
    List.length_append, List.filter_cons_of_neg (by decide), List.filter_append,
    show ([0x2D] : Text).filter (isDigit ·) = [] by decide, List.append_nil]
  omega

/-- A label that is normalized to a telephone number has more digits than what is shown of it. -/
theorem phone_label_hidden (h : shapeStub (normalizePhone label) = some stub) :
    ¬ label <:+: stub.text := by
  obtain ⟨digits, hnormal, hall, hdigits⟩ := normalizePhone_cases label
  have hunits : ∀ c ∈ normalizePhone label, c = 0x2B ∨ isDigit c := by
    rw [hnormal]
    exact fun c hc => (List.mem_cons.mp hc).imp id (hall c)
  rcases shapeStub_cases h with ⟨name, host, hemail, -⟩ | ⟨hphone, rfl⟩ | ⟨hwallet, -⟩
  · rcases hunits 0x40 (by rw [hemail.parts]; simp) with hat | hat
    · exact absurd hat (by decide)
    · exact absurd hat (by decide)
  · rw [hnormal] at hphone ⊢
    intro hpart
    have hseven : 7 ≤ digits.length := by
      obtain ⟨digits', hvalue | hvalue, hlength, hall'⟩ := isPhone_cases hphone
      · rwa [(List.cons.inj hvalue).2]
      · exact absurd (hall' 0x2B (hvalue ▸ List.mem_cons_self)) (by decide)
    have htrim : 7 ≤ ((trim label).filter (isDigit ·)).length := by
      rcases hdigits with rfl | hten
      · exact hseven
      · omega
    have hlabel := ((trim_part label).sublist.filter (isDigit ·)).length_le
    have hshown := (hpart.sublist.filter (isDigit ·)).length_le
    have hsix := phoneStub_digits digits
    omega
  · exact absurd (isWallet_units hwallet 0x2B (by rw [hnormal]; exact List.mem_cons_self))
      (by decide)

/-- The indicator of a personal type that is no telephone number is the trimmed label, in lower
case where its type is compared so. -/
theorem normalize_cases (hpersonal : isPersonal type) (hphone : type ≠ .phone) :
    normalizeIndicator toLowerCase type label = trim label ∨
      normalizeIndicator toLowerCase type label = toLowerCase (trim label) := by
  cases type with
  | email | socialProfile => exact Or.inr rfl
  | cryptoWallet =>
    by_cases hevm : (utf16 "0x").isPrefixOf (trim label) || (utf16 "0X").isPrefixOf (trim label)
    · exact Or.inr (if_pos hevm)
    · exact Or.inl (if_neg hevm)
  | phone => exact absurd rfl hphone
  | domain | url | scamPhrase | fakeCompany | other => exact absurd hpersonal (by decide)

/-- **A label is hidden where its indicator is.** -/
theorem label_hidden (hlower : LowerCaseParts toLowerCase) (hpersonal : isPersonal type)
    (hstub : shapeStub (normalizeIndicator toLowerCase type label) = some stub)
    (hhidden : ¬ normalizeIndicator toLowerCase type label <:+: stub.text) :
    ¬ label <:+: stub.text := by
  by_cases hphone : type = .phone
  · rw [hphone] at hstub
    exact phone_label_hidden hstub
  · intro hlabel
    have htrim : trim label <:+: stub.text := (trim_part label).trans hlabel
    rcases @normalize_cases toLowerCase type label hpersonal hphone with h | h
    · exact hhidden (h ▸ htrim)
    · -- what is read is in lower case, so it is the indicator
      rw [h] at hstub hhidden
      have hlowered : toLowerCase (trim label) = trim label :=
        hlower.part stub.text _ ((lower_text hlower hstub).symm ▸ htrim)
      exact hhidden (by rwa [hlowered])

end Labels

/-! ## The mask of an indicator -/

/-- What is shown of an indicator that was found as `value`. -/
def shown (n value : Text) : Text :=
  mask
    { nodeType := .indicator, normalizedIndicator := some n, displayMask := none, label := value }

section Shown

variable {toLowerCase : Text → Text} {type : IndicatorType} {n value label : Text}

theorem shown_eq :
    shown n value = match shapeStub n with
      | some stub => stub.text
      | none => if isWallet n then n else value := by
  by_cases hn : n = []
  · rw [hn, show shapeStub [] = none by decide, show isWallet [] = false by decide]
    rfl
  · rw [shown, mask_eq hn rfl]
    cases hstub : shapeStub n <;> simp [stubOf, hstub]

/-- The mask of an indicator with a shape is the same, whatever it was found as. -/
theorem shown_congr (h : Redacted n) (value label : Text) : shown n value = shown n label := by
  obtain ⟨stub, hstub, -⟩ := redacted_iff.mp h
  rw [shown_eq, shown_eq, hstub]

/-- What is shown is not the indicator, nor what it was found as. -/
theorem redacted_of_shown (hlabel : ¬ label <:+: shown n label) (hn : ¬ n <:+: shown n label) :
    Redacted n := by
  rw [shown_eq] at hlabel hn
  cases hstub : shapeStub n with
  | some stub =>
    rw [hstub] at hn
    exact redacted_iff.mpr ⟨stub, hstub, hn⟩
  | none =>
    rw [hstub] at hlabel hn
    by_cases hwallet : isWallet n
    · simp [hwallet] at hn
    · simp [hwallet] at hlabel

/-- **When the mask of an indicator is safe to show**: where the indicator has a shape that
hides it. -/
theorem shown_iff (hlower : LowerCaseParts toLowerCase) (hpersonal : isPersonal type)
    (hn : n = normalizeIndicator toLowerCase type label) :
    ¬ label <:+: shown n label ∧ ¬ n <:+: shown n label ↔ Redacted n := by
  constructor
  · exact fun h => redacted_of_shown h.1 h.2
  · intro h
    obtain ⟨stub, hstub, hhidden⟩ := redacted_iff.mp h
    rw [shown_eq, hstub]
    subst hn
    exact ⟨label_hidden hlower hpersonal hstub hhidden, hhidden⟩

end Shown

/-! ## Rows -/

/-- The text has the label or the indicator of the node. -/
def Reveals (v : Text) (node : FraudGraphNode) : Prop :=
  node.label <:+: v ∨ ∃ n, node.normalizedIndicator = some n ∧ n <:+: v

/-- The display value of the node has neither. -/
def Hidden (node : FraudGraphNode) : Prop := ¬ Reveals (display node) node

/-- `SENSITIVE_TYPES` -/
def isSensitiveType : FraudGraphNodeType → Bool
  | .profile | .faceSignal | .voiceSignal => true
  | _ => false

/-- A node that stands for a person. -/
def Sensitive (node : FraudGraphNode) : Prop :=
  isSensitiveType node.nodeType ∨ (node.nodeType = .indicator ∧ node.indicatorType.any isPersonal)

/-- A profile, a face or a voice whose columns can be shown: the mask that is stored has neither
the indicator nor the label; where none is stored, the indicator is hidden and the label is not
among what is left to read. -/
def Discreet (node : FraudGraphNode) : Prop :=
  match present node.displayMask, present node.normalizedIndicator with
  | some stored, _ => ¬ Reveals stored node
  | none, none => False
  | none, some raw => Hides node.nodeType raw ∧
      ∃ stub, stubOf node.nodeType raw = some stub ∧ ¬ stub.Legible node.label

/-- A finding with the indicator of the profile, the face or the voice gives it a mask: that of
its shape, or the value that was found. -/
def Spares (value : Text) (node : FraudGraphNode) : Prop :=
  ∀ n, node.normalizedIndicator = some n →
    match shapeStub n with
    | some stub => Redacted n ∧ ¬ stub.Legible node.label
    | none => ¬ isWallet n ∧ (value = [] ∨ ¬ Reveals value node)

section Rows

variable {node node' : FraudGraphNode} {n value : Text}

theorem not_reveals_iff {v : Text} (hn : node.normalizedIndicator = some n) :
    ¬ Reveals v node ↔ ¬ node.label <:+: v ∧ ¬ n <:+: v := by
  simp [Reveals, hn]

theorem discreet_iff (htype : isSensitiveType node.nodeType) : Discreet node ↔ Hidden node := by
  unfold Discreet Hidden
  cases hmask : present node.displayMask with
  | some stored =>
    have hdisplay : display node = stored := by simp [display, mask, hmask]
    rw [hdisplay]
  | none =>
    cases hraw : present node.normalizedIndicator with
    | none =>
      have hdisplay : display node = node.label := by simp [display, mask, hmask, hraw]
      rw [hdisplay]
      exact iff_of_false id fun h => h (Or.inl List.infix_rfl)
    | some raw =>
      have hsome : node.normalizedIndicator = some raw := eq_some_of_present hraw
      have hne : raw ≠ [] := by
        rintro rfl
        rw [hsome] at hraw
        cases hraw
      have hstub : ∃ stub, stubOf node.nodeType raw = some stub := by
        cases hnode : node.nodeType <;> simp [hnode, isSensitiveType] at htype <;> exact ⟨_, rfl⟩
      obtain ⟨stub, hstub⟩ := hstub
      have hdisplay : display node = stub.text := by
        rw [display, hsome, mask_eq hne hmask, hstub]
      show Hides node.nodeType raw ∧ _ ↔ _
      rw [hdisplay, not_reveals_iff hsome, hides_iff hne, hstub]
      simp [Stub.legible_iff, and_comm]

/-- A mask that is stored on a profile, a face or a voice that was hidden before. -/
theorem spares_iff (htype : node'.nodeType = node.nodeType)
    (hindicator : node'.normalizedIndicator = node.normalizedIndicator)
    (hlabel : node'.label = node.label) (hn : node.normalizedIndicator = some n)
    (hnone : node.displayMask = none) (hmask : node'.displayMask = some (shown n value))
    (hbefore : Hidden node) : Hidden node' ↔ Spares value node := by
  have hreveals : ∀ v, Reveals v node' ↔ Reveals v node := fun v => by
    rw [Reveals, hlabel, hindicator, Reveals]
  have hdisplay : ∀ v, v ≠ [] → shown n value = v → display node' = v := by
    intro v hv hshown
    simp [display, mask, hmask, hshown, present_some hv]
  have hspares : Spares value node ↔ match shapeStub n with
      | some stub => Redacted n ∧ ¬ stub.Legible node.label
      | none => ¬ isWallet n ∧ (value = [] ∨ ¬ Reveals value node) := by
    simp only [Spares, hn, Option.some.injEq, forall_eq']
  rw [hspares]
  unfold Hidden
  rw [hreveals]
  cases hstub : shapeStub n with
  | some stub =>
    have htext : shown n value = stub.text := by rw [shown_eq, hstub]
    rw [hdisplay _ (text_ne_nil (shape_fill_ne_nil hstub)) htext, not_reveals_iff hn, redacted_iff,
      hstub]
    simp [Stub.legible_iff, and_comm]
  | none =>
    by_cases hwallet : isWallet n
    · have htext : shown n value = n := by simp [shown_eq, hstub, hwallet]
      have hne : n ≠ [] := by
        rintro rfl
        exact absurd hwallet (by decide)
      rw [hdisplay n hne htext]
      refine iff_of_false (fun h => h (Or.inr ⟨n, hn, List.infix_rfl⟩)) fun h => h.1 hwallet
    · have htext : shown n value = value := by simp [shown_eq, hstub, hwallet]
      by_cases hvalue : value = []
      · -- an empty mask is none
        have hsame : display node' = display node := by
          rw [htext, hvalue] at hmask
          simp only [display, htype, hindicator, hlabel, hmask, hnone]
          rfl
        rw [hsame]
        exact iff_of_true hbefore ⟨hwallet, Or.inl hvalue⟩
      · rw [hdisplay value hvalue htext]
        simp [hwallet, hvalue]

end Rows

end IdentityGraph
