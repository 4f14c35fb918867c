import Vigiscam.IdentityGraph.Service
import Vigiscam.Js.Stub

/-!
# What a mask leaves to read (`masker.ts`)

A mask shows a stub of the indicator (`stubOf`), and the label where the indicator has no shape
that it knows. A stub hides the indicator where what it covers is not itself spelled in asterisks
(`covered_iff`).
-/

namespace IdentityGraph

open Js FraudGraph ScamSignals

theorem at_sign : utf16 "@" = [0x40] := by decide

@[simp] theorem mem_stars {c : CodeUnit} {k : Nat} : c ∈ stars k ↔ c = 0x2A ∧ k ≠ 0 := by
  rw [stars, List.mem_replicate, and_comm]

@[simp] theorem length_stars (k : Nat) : (stars k).length = k := List.length_replicate

theorem eq_stars_iff {s : Text} {k : Nat} : s = stars k ↔ s.length = k ∧ ∀ c ∈ s, c = 0x2A :=
  List.eq_replicate_iff

theorem length_lastUnits {n : Nat} {s : Text} : (lastUnits n s).length = min n s.length := by
  rw [lastUnits, List.length_drop]
  omega

theorem lastUnits_suffix (n : Nat) (s : Text) : lastUnits n s <:+ s := List.drop_suffix _ s

section Stars

variable {s : Text} {k : Nat}

theorem stars_prefix_stars {j : Nat} (h : j ≤ k) : stars j <+: stars k :=
  ⟨stars (k - j), by simp only [stars, List.replicate_append_replicate]; congr; omega⟩

theorem infix_stars_iff : s <:+: stars k ↔ s.length ≤ k ∧ ∀ c ∈ s, c = 0x2A := by
  constructor
  · intro h
    refine ⟨h.length_le.trans_eq (length_stars k), fun c hc => (mem_stars.mp (h.subset hc)).1⟩
  · rintro ⟨hlength, hall⟩
    rw [eq_stars_iff.mpr ⟨rfl, hall⟩]
    exact (stars_prefix_stars hlength).isInfix

theorem prefix_stars_iff : s <+: stars k ↔ s.length ≤ k ∧ ∀ c ∈ s, c = 0x2A := by
  constructor
  · exact fun h => infix_stars_iff.mp h.isInfix
  · rintro ⟨hlength, hall⟩
    rw [eq_stars_iff.mpr ⟨rfl, hall⟩]
    exact stars_prefix_stars hlength

theorem suffix_stars_iff : s <:+ stars k ↔ s.length ≤ k ∧ ∀ c ∈ s, c = 0x2A := by
  rw [← List.reverse_prefix, show (stars k).reverse = stars k from List.reverse_replicate,
    prefix_stars_iff]
  simp

end Stars

/-! ## Stubs -/

/-- `/^[^@]+@[^@]+\.[^@]+$/`, by what stands on the two sides of the `@`. -/
structure IsEmail (value name host : Text) : Prop where
  parts : value = name ++ 0x40 :: host
  notName : 0x40 ∉ name
  notHost : 0x40 ∉ host
  nonempty : name ≠ []
  dot : 0x2E ∈ host.tail.dropLast

/-- Everything before the `@` but its first unit is covered. -/
def emailStub (value : Text) : Option (Stub CodeUnit) :=
  match value.splitOn 0x40 with
  | [name, host] =>
    if name ≠ [] ∧ 0x2E ∈ host.tail.dropLast then
      some { head := name.take 1, fill := stars (max 2 (name.length - 1)), tail := 0x40 :: host }
    else none
  | _ => none

def phoneStub (value : Text) : Stub CodeUnit where
  head := if (utf16 "+").isPrefixOf value then value.take 3 ++ utf16 "-" else []
  fill := utf16 "***-***-"
  tail := lastUnits 4 (value.filter (isDigit ·))

def walletStub (value : Text) : Stub CodeUnit where
  head := value.take 6
  fill := utf16 "..."
  tail := lastUnits 6 value

/-- What is shown of an indicator that has a shape. -/
def shapeStub (value : Text) : Option (Stub CodeUnit) :=
  (emailStub value).or
    (if isPhone value then some (phoneStub value)
      else if isWallet value ∧ 14 < value.length then some (walletStub value)
      else none)

/-- What is shown of a handle without its `@`. -/
def handleStub (stripped : Text) : Stub CodeUnit :=
  if stripped.length ≤ 3 then
    { head := 0x40 :: stripped.take 1, fill := utf16 "***", tail := [] }
  else
    { head := 0x40 :: stripped.take 1
      fill := stars (stripped.length - 3)
      tail := lastUnits 2 stripped }

/-- What is shown of an indicator, by the type of its node. -/
def stubOf : FraudGraphNodeType → Text → Option (Stub CodeUnit)
  | .profile, raw => some (handleStub (stripPrefix (utf16 "@") raw))
  | .faceSignal, raw | .voiceSignal, raw =>
    some { head := raw.take 8, fill := utf16 "…", tail := [] }
  | .indicator, raw => shapeStub raw
  | _, _ => none

section Stubs

variable {value raw label : Text} {nodeType : FraudGraphNodeType} {stub : Stub CodeUnit}

theorem maskEmail_eq : maskEmail value = (emailStub value).map Stub.text := by
  unfold maskEmail emailStub
  rcases value.splitOn 0x40 with _ | ⟨name, _ | ⟨host, _ | ⟨part, parts⟩⟩⟩
  · rfl
  · rfl
  · by_cases hshape : name ≠ [] ∧ 0x2E ∈ host.tail.dropLast
    · simp [hshape, Stub.text, at_sign]
    · simp only [if_neg hshape, Option.map_none]
  · rfl

theorem maskPhone_eq : maskPhone value = (phoneStub value).text := rfl

theorem maskWallet_eq (h : 14 < value.length) : maskWallet value = (walletStub value).text :=
  if_neg (Nat.not_le.mpr h)

theorem maskHandle_eq : maskHandle raw = (handleStub (stripPrefix (utf16 "@") raw)).text := by
  rw [maskHandle, handleStub]
  split
  · simp [Stub.text, at_sign]
  · simp [Stub.text, at_sign]

/-- A shape is masked by its stub; a short wallet is shown as it is. -/
theorem maskByShape_eq :
    maskByShape value = ((shapeStub value).map Stub.text).or
      (if isWallet value then some value else none) := by
  unfold maskByShape shapeStub
  rw [maskEmail_eq]
  cases emailStub value with
  | some stub => rfl
  | none =>
    show (if isPhone value then _ else _) = _
    by_cases hphone : isPhone value
    · simp [hphone, maskPhone_eq]
    · by_cases hwallet : isWallet value
      · by_cases hlong : 14 < value.length
        · simp [hphone, hwallet, hlong, maskWallet_eq hlong]
        · simp [hphone, hwallet, hlong, maskWallet]
      · simp [hphone, hwallet]

theorem emailStub_eq_some_iff :
    emailStub value = some stub ↔ ∃ name host, IsEmail value name host ∧
      stub = ⟨name.take 1, stars (max 2 (name.length - 1)), 0x40 :: host⟩ := by
  unfold emailStub
  constructor
  · intro h
    split at h
    · rename_i name host hsplit
      obtain ⟨hvalue, hname, hhost⟩ := Parts.splitOn_eq_pair_iff.mp hsplit
      obtain ⟨⟨hnonempty, hdot⟩, hstub⟩ := Option.ite_none_right_eq_some.mp h
      exact ⟨name, host, ⟨hvalue, hname, hhost, hnonempty, hdot⟩, (Option.some.inj hstub).symm⟩
    · cases h
  · rintro ⟨name, host, hemail, rfl⟩
    rw [Parts.splitOn_eq_pair_iff.mpr ⟨hemail.parts, hemail.notName, hemail.notHost⟩]
    exact if_pos ⟨hemail.nonempty, hemail.dot⟩

theorem stars_ne_nil {k : Nat} (h : 0 < k) : stars k ≠ [] := by
  intro hnil
  have hlength := congrArg List.length hnil
  rw [length_stars, List.length_nil] at hlength
  omega

theorem shapeStub_cases (h : shapeStub value = some stub) :
    (∃ name host, IsEmail value name host ∧
        stub = ⟨name.take 1, stars (max 2 (name.length - 1)), 0x40 :: host⟩) ∨
      (isPhone value ∧ stub = phoneStub value) ∨ (isWallet value ∧ stub = walletStub value) := by
  rcases Option.or_eq_some_iff.mp h with hemail | ⟨-, hshape⟩
  · exact Or.inl (emailStub_eq_some_iff.mp hemail)
  · by_cases hphone : isPhone value
    · rw [if_pos hphone] at hshape
      exact Or.inr (Or.inl ⟨hphone, (Option.some.inj hshape).symm⟩)
    · rw [if_neg hphone] at hshape
      obtain ⟨hwallet, hstub⟩ := Option.ite_none_right_eq_some.mp hshape
      exact Or.inr (Or.inr ⟨hwallet.1, (Option.some.inj hstub).symm⟩)

theorem shape_fill_ne_nil (h : shapeStub value = some stub) : stub.fill ≠ [] := by
  rcases shapeStub_cases h with ⟨name, host, -, rfl⟩ | ⟨-, rfl⟩ | ⟨-, rfl⟩
  · exact stars_ne_nil (by omega)
  · show utf16 "***-***-" ≠ []
    decide
  · show utf16 "..." ≠ []
    decide

theorem present_some {s : Text} (h : s ≠ []) : present (some s) = some s :=
  Option.filter_some_pos (by simpa using h)

theorem text_ne_nil (h : stub.fill ≠ []) : stub.text ≠ [] := by
  simp [Stub.text, h]

/-- The display value of a row without a stored mask. -/
theorem mask_eq (hraw : raw ≠ []) {displayMask : Option Text} (hmask : present displayMask = none) :
    mask ⟨nodeType, some raw, displayMask, label⟩ =
      match stubOf nodeType raw with
      | some stub => stub.text
      | none => if nodeType = .indicator ∧ isWallet raw then raw else label := by
  unfold mask
  rw [hmask, present_some hraw]
  cases nodeType with
  | profile => exact maskHandle_eq
  | faceSignal | voiceSignal => simp [stubOf, Stub.text]
  | indicator =>
    show (present (maskByShape raw)).getD label = _
    rw [maskByShape_eq]
    cases hstub : shapeStub raw with
    | some stub =>
      have htext : stub.text ≠ [] := text_ne_nil (shape_fill_ne_nil hstub)
      simp [stubOf, hstub, present_some htext]
    | none =>
      by_cases hwallet : isWallet raw
      · simp [stubOf, hstub, hwallet, present_some hraw]
      · simp [stubOf, hstub, hwallet, present]
  | campaign | actor | scriptPattern | paymentRequest | giftCardRequest | ipRange =>
    simp [stubOf]

end Stubs

/-! ## What a stub hides -/

/-- An address whose name has something that is no asterisk where it is covered. -/
def HidesName (name : Text) : Prop :=
  ∃ c ∈ if name.length ≤ 2 then name else name.tail, c ≠ 0x2A

/-- An indicator that its shape hides. -/
def Redacted (value : Text) : Prop :=
  (∃ name host, IsEmail value name host ∧ HidesName name) ∨ isPhone value ∨
    (isWallet value ∧ 14 < value.length)

/-- The part of a handle that is covered. -/
def covered (stripped : Text) : Text :=
  if stripped.length ≤ 3 then stripped.tail else stripped.tail.take (stripped.length - 3)

/-- A mask hides the indicator of a node of the type. -/
def Hides : FraudGraphNodeType → Text → Prop
  | .profile, raw => ∃ c ∈ covered (stripPrefix (utf16 "@") raw), c ≠ 0x2A
  | .faceSignal, raw | .voiceSignal, raw =>
    8 < raw.length ∧ ¬ (raw.length = 9 ∧ raw.getLast? = some 0x2026)
  | .indicator, raw => Redacted raw
  | _, _ => False

section Hiding

variable {value raw name host stripped : Text} {nodeType : FraudGraphNodeType}
  {stub : Stub CodeUnit}

theorem not_hidesName_iff :
    ¬ HidesName name ↔ ∀ c ∈ if name.length ≤ 2 then name else name.tail, c = 0x2A := by
  simp [HidesName]

/-- A name is read where its asterisks are those of the mask. -/
theorem name_suffix_iff (hname : name ≠ []) :
    name <:+ name.take 1 ++ stars (max 2 (name.length - 1)) ↔ ¬ HidesName name := by
  rw [not_hidesName_iff]
  obtain ⟨c, rest, rfl⟩ := List.exists_cons_of_ne_nil hname
  show c :: rest <:+ c :: stars (max 2 rest.length) ↔ _
  by_cases hshort : (c :: rest).length ≤ 2
  · have hlength : rest.length ≤ 1 := Nat.le_of_succ_le_succ hshort
    rw [if_pos hshort, show max 2 rest.length = 2 by omega, List.suffix_cons_iff, suffix_stars_iff]
    constructor
    · rintro (h | h)
      · have hrest := congrArg List.length (List.cons.inj h).2
        rw [length_stars] at hrest
        omega
      · exact h.2
    · exact fun h => Or.inr ⟨hshort, h⟩
  · have hlength : 2 ≤ rest.length := by
      simp only [List.length_cons] at hshort
      omega
    rw [if_neg hshort, show max 2 rest.length = rest.length by omega, List.tail_cons]
    constructor
    · intro h
      have heq := h.eq_of_length (by simp)
      exact (eq_stars_iff.mp (List.cons.inj heq).2).2
    · intro h
      rw [← eq_stars_iff.mpr ⟨rfl, h⟩]

theorem email_infix_iff (h : IsEmail value name host) :
    value <:+: Stub.text ⟨name.take 1, stars (max 2 (name.length - 1)), 0x40 :: host⟩ ↔
      ¬ HidesName name := by
  have hhead : 0x40 ∉ name.take 1 ++ stars (max 2 (name.length - 1)) := by
    rw [List.mem_append]
    rintro (hmem | hmem)
    · exact h.notName (List.mem_of_mem_take hmem)
    · exact absurd (mem_stars.mp hmem).1 (by decide)
  show value <:+: _ ++ 0x40 :: host ↔ _
  rw [h.parts, Parts.pivot_infix_iff hhead h.notHost, name_suffix_iff h.nonempty]
  exact and_iff_left List.prefix_rfl

/-- A telephone number is digits, after a `+` or without. -/
theorem isPhone_cases (h : isPhone value) :
    ∃ digits, (value = 0x2B :: digits ∨ value = digits) ∧ 7 ≤ digits.length ∧
      ∀ c ∈ digits, isDigit c := by
  obtain ⟨hdigits, hmin, -⟩ := (isRunOf_iff _).mp h
  unfold stripPrefix at hdigits hmin
  by_cases hplus : (utf16 "+").isPrefixOf value
  · rw [if_pos hplus] at hdigits hmin
    obtain ⟨digits, rfl⟩ := List.isPrefixOf_iff_prefix.mp hplus
    rw [List.drop_left] at hdigits hmin
    exact ⟨digits, Or.inl rfl, hmin, fun c hc => by simpa using hdigits c hc⟩
  · rw [if_neg hplus] at hdigits hmin
    exact ⟨value, Or.inr rfl, hmin, fun c hc => by simpa using hdigits c hc⟩

/-- The digits of a telephone number are its end. -/
theorem digits_suffix (h : isPhone value) : value.filter (isDigit ·) <:+ value := by
  obtain ⟨digits, rfl | rfl, -, hall⟩ := isPhone_cases h
  · rw [List.filter_cons_of_neg (by decide), List.filter_eq_self.mpr (by simpa using hall)]
    exact List.suffix_cons _ _
  · rw [List.filter_eq_self.mpr (by simpa using hall)]

theorem isPhone_spec (h : isPhone value) :
    7 ≤ value.length ∧ ∀ c ∈ value, c = 0x2B ∨ isDigit c := by
  obtain ⟨digits, rfl | rfl, hlength, hall⟩ := isPhone_cases h
  · exact ⟨hlength.trans (Nat.le_succ _), fun c hc => (List.mem_cons.mp hc).imp id (hall c)⟩
  · exact ⟨hlength, fun c hc => Or.inr (hall c hc)⟩

theorem phone_hidden (h : isPhone value) : ¬ value <:+: (phoneStub value).text := by
  obtain ⟨hlength, hunits⟩ := isPhone_spec h
  refine Stub.not_infix_of_length (show utf16 "***-***-" ≠ [] by decide) (fun c hc hmem => ?_) ?_ ?_
  · have hfill : c = 0x2A ∨ c = 0x2D := by
      have hfill : c ∈ [0x2A, 0x2A, 0x2A, 0x2D, 0x2A, 0x2A, 0x2A, 0x2D] := hc
      simp only [List.mem_cons, List.not_mem_nil, or_false] at hfill
      tauto
    rcases hfill with rfl | rfl
    · rcases hunits _ hmem with h | h
      · exact absurd h (by decide)
      · exact absurd h (by decide)
    · rcases hunits _ hmem with h | h
      · exact absurd h (by decide)
      · exact absurd h (by decide)
  · show (if _ then _ else _ : Text).length < _
    split
    · rw [List.length_append, List.length_take, show (utf16 "-").length = 1 by decide]
      omega
    · exact Nat.lt_of_lt_of_le (by decide) hlength
  · show (lastUnits 4 _).length < _
    rw [length_lastUnits]
    omega

/-- The units of the address of a wallet. -/
theorem isWallet_units (h : isWallet value) : ∀ c ∈ value, isAlnum c = true := by
  have hstart : ∀ {start : Text} {p : CodeUnit → Bool} {n : Nat},
      startsThen start (isRun p n) value = true → start.all isAlnum = true →
      (∀ c, p c = true → isAlnum c = true) → ∀ c ∈ value, isAlnum c = true := by
    intro start p n hstarts hall hp c hc
    obtain ⟨rest, rfl, hrest⟩ := startsThen_iff.mp hstarts
    rcases List.mem_append.mp hc with hc | hc
    · exact List.all_eq_true.mp hall c hc
    · exact hp c (((isRun_iff _).mp hrest).1 c hc)
  have hhex : ∀ c, isHex c = true → isAlnum c = true := by
    intro c h
    simp only [isHex, isAlnum, isLower, isUpper, Bool.or_eq_true, Bool.and_eq_true,
      decide_eq_true_eq] at h ⊢
    grind
  have hbase : ∀ c, isBase58 c = true → isAlnum c = true := fun c h => (Bool.and_eq_true _ _ ▸ h).1
  have hzero : ∀ c, (isBase58 c || c = 0x30) = true → isAlnum c = true := by
    intro c h
    rcases (Bool.or_eq_true _ _).mp h with h | h
    · exact hbase c h
    · obtain rfl := of_decide_eq_true h
      decide
  have hlower : ∀ c, isLowerAlnum c = true → isAlnum c = true := by
    intro c h
    rcases (Bool.or_eq_true _ _).mp h with h | h
    · simp [isAlnum, h]
    · simp [isAlnum, h]
  simp only [isWallet, Bool.or_eq_true] at h
  rcases h with ((((h | h) | h) | h) | h) | h
  · exact hstart h (by decide) hhex
  · exact hstart h (by decide) hzero
  · exact hstart h (by decide) hzero
  · exact hstart h (by decide) hlower
  · exact hstart h (by decide) hbase
  · exact fun c hc => hbase c (((isRunOf_iff _).mp h).1 c hc)

theorem wallet_hidden (h : isWallet value) (hlong : 14 < value.length) :
    ¬ value <:+: (walletStub value).text := by
  refine Stub.not_infix_of_length (show utf16 "..." ≠ [] by decide) (fun c hc hmem => ?_) ?_ ?_
  · have hfill : c ∈ [0x2E, 0x2E, 0x2E] := hc
    obtain rfl : c = 0x2E := by simpa using hfill
    exact absurd (isWallet_units h _ hmem) (by decide)
  · show (value.take 6).length < _
    rw [List.length_take]
    omega
  · show (lastUnits 6 value).length < _
    rw [length_lastUnits]
    omega

/-- A handle, with its `@` or without. -/
theorem stripPrefix_at_cases (raw : Text) :
    raw = 0x40 :: stripPrefix (utf16 "@") raw ∨
      (stripPrefix (utf16 "@") raw = raw ∧ raw.head? ≠ some 0x40) := by
  rw [at_sign]
  unfold stripPrefix
  cases raw with
  | nil => exact Or.inr ⟨rfl, by simp⟩
  | cons c rest =>
    by_cases hc : c = 0x40
    · left
      simp [hc]
    · right
      simp [hc, Ne.symm hc]

/-- A short handle is read where it is a unit and asterisks. -/
theorem shortHandle_prefix_iff (hshort : stripped.length ≤ 3) :
    stripped <+: stripped.take 1 ++ stars 3 ↔ ∀ c ∈ stripped.tail, c = 0x2A := by
  cases stripped with
  | nil => simp
  | cons c rest =>
    show c :: rest <+: c :: stars 3 ↔ ∀ c ∈ rest, c = 0x2A
    rw [List.prefix_cons_inj, prefix_stars_iff]
    simp only [List.length_cons] at hshort
    exact and_iff_right (by omega)

/-- No asterisk is the `@` of a handle. -/
theorem not_at_infix_stars {rest : Text} {k : Nat} : ¬ 0x40 :: rest <:+: stars k := by
  intro h
  exact absurd ((infix_stars_iff.mp h).2 0x40 List.mem_cons_self) (by decide)

theorem shortHandle_infix_iff (hraw : raw ≠ []) (hshort : stripped.length ≤ 3)
    (hcases : raw = 0x40 :: stripped ∨ (stripped = raw ∧ raw.head? ≠ some 0x40)) :
    raw <:+: 0x40 :: (stripped.take 1 ++ stars 3) ↔ ∀ c ∈ stripped.tail, c = 0x2A := by
  rw [← shortHandle_prefix_iff hshort, List.infix_cons_iff]
  rcases hcases with rfl | ⟨rfl, hhead⟩
  · rw [List.prefix_cons_inj]
    refine or_iff_left fun h => ?_
    cases stripped with
    | nil => exact not_at_infix_stars h
    | cons c rest =>
      rcases List.infix_cons_iff.mp h with h | h
      · obtain ⟨rfl, hstars⟩ := List.cons_prefix_cons.mp h
        exact not_at_infix_stars hstars.isInfix
      · exact not_at_infix_stars h
  · obtain ⟨c, rest, rfl⟩ := List.exists_cons_of_ne_nil hraw
    have hc : c ≠ 0x40 := by simpa using hhead
    rw [or_iff_right fun h => hc (List.cons_prefix_cons.mp h).1]
    show c :: rest <:+: c :: stars 3 ↔ c :: rest <+: c :: stars 3
    rw [List.infix_cons_iff]
    refine or_iff_left_of_imp fun h => ?_
    obtain ⟨hlength, hall⟩ := infix_stars_iff.mp h
    refine List.cons_prefix_cons.mpr ⟨rfl, prefix_stars_iff.mpr ⟨?_, fun d hd => ?_⟩⟩
    · exact (Nat.le_succ _).trans hlength
    · exact hall d (List.mem_cons_of_mem c hd)

theorem longHandle_infix_iff (hlong : ¬ stripped.length ≤ 3)
    (hcases : raw = 0x40 :: stripped ∨ (stripped = raw ∧ raw.head? ≠ some 0x40)) :
    raw <:+: 0x40 :: (stripped.take 1 ++ stars (stripped.length - 3) ++ lastUnits 2 stripped) ↔
      ∀ c ∈ stripped.tail.take (stripped.length - 3), c = 0x2A := by
  let text := stripped.take 1 ++ stars (stripped.length - 3) ++ lastUnits 2 stripped
  have hlength : text.length = stripped.length := by
    simp only [text, List.length_append, List.length_take, length_stars, length_lastUnits]
    omega
  -- the handle and its stub are of one length
  have hiff : raw <:+: 0x40 :: text ↔ stripped = text := by
    rcases hcases with rfl | ⟨rfl, hhead⟩
    · constructor
      · intro h
        exact (List.cons.inj (h.eq_of_length (by simp [hlength]))).2
      · rintro h
        rw [← h]
    · rw [List.infix_cons_iff]
      constructor
      · rintro (h | h)
        · obtain ⟨rest, hrest⟩ := h
          cases stripped with
          | nil => exact absurd (by simp) hlong
          | cons c r => exact absurd (congrArg some (List.cons.inj hrest).1) hhead
        · exact h.eq_of_length hlength.symm
      · intro h
        rw [← h]
        exact Or.inr List.infix_rfl
  have hsplit : stripped = stripped.take 1 ++ stripped.tail.take (stripped.length - 3)
      ++ lastUnits 2 stripped := by
    cases stripped with
    | nil => rfl
    | cons c rest =>
      have hdrop : lastUnits 2 (c :: rest) = rest.drop ((c :: rest).length - 3) := by
        simp only [List.length_cons] at hlong
        rw [lastUnits, List.length_cons,
          show rest.length + 1 - 2 = (rest.length + 1 - 3) + 1 by omega,
          List.drop_succ_cons]
      rw [hdrop]
      simp
  have htake : (stripped.tail.take (stripped.length - 3)).length = stripped.length - 3 := by
    rw [List.length_take, List.length_tail]
    omega
  show raw <:+: 0x40 :: text ↔ _
  rw [hiff]
  constructor
  · intro h
    have hmiddle := List.append_cancel_left (List.append_cancel_right (hsplit.symm.trans h))
    exact (eq_stars_iff.mp hmiddle).2
  · intro h
    rw [eq_stars_iff.mpr ⟨htake, h⟩] at hsplit
    exact hsplit

/-- What is shown of a handle is read where what it covers are asterisks. -/
theorem handle_infix_iff (hraw : raw ≠ []) :
    raw <:+: (handleStub (stripPrefix (utf16 "@") raw)).text ↔
      ∀ c ∈ covered (stripPrefix (utf16 "@") raw), c = 0x2A := by
  have hcases := stripPrefix_at_cases raw
  by_cases hshort : (stripPrefix (utf16 "@") raw).length ≤ 3
  · have htext : (handleStub (stripPrefix (utf16 "@") raw)).text =
        0x40 :: ((stripPrefix (utf16 "@") raw).take 1 ++ stars 3) := by
      simp [handleStub, hshort, Stub.text, show utf16 "***" = stars 3 by decide]
    rw [htext, covered, if_pos hshort, shortHandle_infix_iff hraw hshort hcases]
  · have htext : (handleStub (stripPrefix (utf16 "@") raw)).text =
        0x40 :: ((stripPrefix (utf16 "@") raw).take 1 ++
          stars ((stripPrefix (utf16 "@") raw).length - 3) ++
          lastUnits 2 (stripPrefix (utf16 "@") raw)) := by
      simp [handleStub, hshort, Stub.text]
    rw [htext, covered, if_neg hshort, longHandle_infix_iff hshort hcases]

/-- The first eight units of a hash, and the hash itself. -/
theorem token_infix_iff :
    raw <:+: Stub.text ⟨raw.take 8, utf16 "…", []⟩ ↔
      ¬ (8 < raw.length ∧ ¬ (raw.length = 9 ∧ raw.getLast? = some 0x2026)) := by
  have htext : Stub.text ⟨raw.take 8, utf16 "…", []⟩ = raw.take 8 ++ [0x2026] := by
    simp [Stub.text, show utf16 "…" = [0x2026] by decide]
  rw [htext]
  by_cases hshort : raw.length ≤ 8
  · rw [List.take_of_length_le hshort]
    exact iff_of_true (List.prefix_append raw _).isInfix fun h => absurd h.1 (Nat.not_lt.mpr hshort)
  · have hlong : 8 < raw.length := Nat.lt_of_not_le hshort
    have hlength : (raw.take 8 ++ [0x2026]).length = 9 := by
      rw [List.length_append, List.length_take, List.length_singleton]
      omega
    rw [not_and, not_not]
    constructor
    · intro h _
      have hnine : raw.length = 9 := by
        have hle := h.length_le
        omega
      refine ⟨hnine, ?_⟩
      rw [h.eq_of_length (hnine.trans hlength.symm)]
      simp
    · intro h
      obtain ⟨hnine, hlast⟩ := h hlong
      obtain ⟨init, rfl⟩ := List.getLast?_eq_some_iff.mp hlast
      rw [List.length_append, List.length_singleton] at hnine
      rw [List.take_left' (by omega)]

/-- **A shape hides its indicator**, or the indicator has none. -/
theorem redacted_iff :
    Redacted value ↔ ∃ stub, shapeStub value = some stub ∧ ¬ value <:+: stub.text := by
  by_cases hat : 0x40 ∈ value
  · -- an address, or nothing
    have hphone : ¬ isPhone value := by
      intro h
      rcases (isPhone_spec h).2 _ hat with h | h
      · exact absurd h (by decide)
      · exact absurd h (by decide)
    have hwallet : ¬ isWallet value := fun h => absurd (isWallet_units h _ hat) (by decide)
    have hshape : shapeStub value = emailStub value := by simp [shapeStub, hphone, hwallet]
    rw [hshape, Redacted]
    constructor
    · rintro (⟨name, host, hemail, hhides⟩ | h | h)
      · refine ⟨_, emailStub_eq_some_iff.mpr ⟨name, host, hemail, rfl⟩, fun h => ?_⟩
        exact (email_infix_iff hemail).mp h hhides
      · exact absurd h hphone
      · exact absurd h.1 hwallet
    · rintro ⟨stub, hstub, hnot⟩
      obtain ⟨name, host, hemail, rfl⟩ := emailStub_eq_some_iff.mp hstub
      rw [email_infix_iff hemail, not_not] at hnot
      exact Or.inl ⟨name, host, hemail, hnot⟩
  · have hemail : emailStub value = none := by
      refine Option.eq_none_iff_forall_ne_some.mpr fun stub hstub => hat ?_
      obtain ⟨name, host, hvalue, -⟩ := emailStub_eq_some_iff.mp hstub
      rw [hvalue.parts]
      simp
    have hnone : ¬ ∃ name host, IsEmail value name host ∧ HidesName name := by
      rintro ⟨name, host, hvalue, -⟩
      refine hat ?_
      rw [hvalue.parts]
      simp
    rw [Redacted, or_iff_right hnone, shapeStub, hemail, Option.none_or]
    by_cases hphone : isPhone value
    · simp [hphone, phone_hidden hphone]
    · by_cases hwallet : isWallet value ∧ 14 < value.length
      · simp [hphone, hwallet, wallet_hidden hwallet.1 hwallet.2]
      · simp [hphone, hwallet]

/-- **What a mask hides**, by the type of the node. -/
theorem hides_iff (hraw : raw ≠ []) :
    Hides nodeType raw ↔ ∃ stub, stubOf nodeType raw = some stub ∧ ¬ raw <:+: stub.text := by
  cases nodeType with
  | profile =>
    have hiff := not_congr (handle_infix_iff hraw)
    simp only [stubOf, Option.some.injEq, exists_eq_left']
    rw [hiff]
    simp [Hides]
  | faceSignal | voiceSignal =>
    simp only [stubOf, Option.some.injEq, exists_eq_left']
    rw [token_infix_iff, not_not]
    rfl
  | indicator => exact redacted_iff
  | campaign | actor | scriptPattern | paymentRequest | giftCardRequest | ipRange =>
    simp [Hides, stubOf]

end Hiding

end IdentityGraph
