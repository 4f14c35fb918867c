import Vigiscam.ScamCheck.Padding
import Vigiscam.ScamSignals.Review

/-!
# Statuses of any name (`scam-check.scoring.ts`)

The scorer takes a status as a text, and looks its weight up in a plain object. A name that every
object inherits finds a function there: first among the signals, it leaves no number of the score
(`weighed_iff`). On the statuses of the signals on record the scorer is that of the check
(`scoreScamCheck_ofStatuses`).
-/

namespace ScamCheck.Statuses

open Js Protection Scores
open RiskFusion (inheritedNames levelForScore)
open ScamSignals (ScamSignalStatus)

/-- How much each signal status contributes to a scam-check score. -/
def STATUS_WEIGHT : List (Text × Int) :=
  [("VERIFIED_SCAM_INTELLIGENCE", 75), ("PUBLIC_SAFE_ALERT", 75), ("HIGH_RISK_INDICATOR", 65),
    ("PATTERN_MATCH", 45), ("UNDER_REVIEW", 35), ("SUSPICIOUS_SIGNAL", 30),
    ("UNVERIFIED_REPORT", 15), ("ARCHIVED", 5), ("REJECTED", 0)]

/-- What is looked up in the table. -/
inductive Weight where
  | number (n : Int)
  /-- What every object inherits, as the text that it is compared by. -/
  | inherited (text : Text)
deriving DecidableEq

/-- `String(object[name])` of a name that every object inherits. -/
def inheritedText (name : Text) : Text :=
  if name = "__proto__" then "[object Object]"
  else
    utf16 "function " ++ (if name = "constructor" then utf16 "Object" else name) ++
      utf16 "() { [native code] }"

/-- `STATUS_WEIGHT[status] ?? 0`. -/
def statusWeight (status : Text) : Weight :=
  match STATUS_WEIGHT.find? (·.1 = status) with
  | some (_, weight) => .number weight
  | none => if status ∈ inheritedNames then .inherited (inheritedText status) else .number 0

/-- `a > b`: two objects compare as texts, and no object compares with a number. -/
def Weight.greater : Weight → Weight → Bool
  | number n, number m => m < n
  | inherited a, inherited b => b < a
  | _, _ => false

structure SignalMatch where
  status : Text
  confidenceScore : Int
  reportCount : Nat
deriving DecidableEq

structure ScamCheckScoreInput where
  registryListed : Bool
  registryConfidence : Option Int
  signals : List SignalMatch
  languageSignalCount : Nat
deriving DecidableEq

def strongest (first : SignalMatch) (rest : List SignalMatch) : SignalMatch :=
  rest.foldl (fun best s =>
    if (statusWeight s.status).greater (statusWeight best.status) then s else best) first

def totalReports (signals : List SignalMatch) : Nat := (signals.map SignalMatch.reportCount).sum

/-- A published registry entry is verified, public-safe intelligence — strongest. -/
def listedScore (input : ScamCheckScoreInput) : Int :=
  if input.registryListed then max 0 (max 80 (input.registryConfidence.getD 0)) else 0

/-- The score after the registry and the signals; NaN is `none`. -/
def matchedScore (input : ScamCheckScoreInput) : Option Int :=
  match input.signals with
  | [] => some (listedScore input)
  | first :: rest =>
    match statusWeight (strongest first rest).status with
    | .number weight =>
      some (max (listedScore input) weight + min 15 (totalReports (first :: rest) * 2))
    | .inherited _ => none

def scoreScamCheck (input : ScamCheckScoreInput) : Option Int × RiskLevel :=
  let score := (matchedScore input).map fun score : Int =>
    min 100 (max 0 (score + min 20 (input.languageSignalCount * 8)))
  (score, levelForScore score)

/-! ## What is expected of it -/

/-- The second input is the first with one change that speaks for a scam. -/
inductive Raise : ScamCheckScoreInput → ScamCheckScoreInput → Prop where
  | adding (input : ScamCheckScoreInput) (before : List SignalMatch) (signal : SignalMatch)
      (rest : List SignalMatch) :
      Raise { input with signals := before ++ rest }
        { input with signals := before ++ signal :: rest }
  | reports (input : ScamCheckScoreInput) (before : List SignalMatch) (signal : SignalMatch)
      (rest : List SignalMatch) (n : Nat) (h : signal.reportCount ≤ n) :
      Raise { input with signals := before ++ signal :: rest }
        { input with signals := before ++ { signal with reportCount := n } :: rest }
  | status (input : ScamCheckScoreInput) (before : List SignalMatch) (signal : SignalMatch)
      (rest : List SignalMatch) (status : Text) (weight weight' : Int)
      (hweight : statusWeight signal.status = .number weight)
      (hweight' : statusWeight status = .number weight') (h : weight ≤ weight') :
      Raise { input with signals := before ++ signal :: rest }
        { input with signals := before ++ { signal with status := status } :: rest }
  | language (input : ScamCheckScoreInput) (n : Nat) (h : input.languageSignalCount ≤ n) :
      Raise input { input with languageSignalCount := n }
  | listed (input : ScamCheckScoreInput) :
      Raise { input with registryListed := false } { input with registryListed := true }

/-- The input is scored as a check is meant to be. -/
structure Weighed (input : ScamCheckScoreInput) : Prop where
  bounded : ∃ n, (scoreScamCheck input).1 = some n ∧ 0 ≤ n ∧ n ≤ 100
  order : ∀ signals, signals.Perm input.signals →
    scoreScamCheck { input with signals := signals } = scoreScamCheck input
  /-- The score and the level are no lower than before an adverse change. -/
  raised : ∀ before, Raise before input →
    (∃ n m, (scoreScamCheck before).1 = some n ∧ (scoreScamCheck input).1 = some m ∧ n ≤ m) ∧
      (scoreScamCheck before).2.severity ≤ (scoreScamCheck input).2.severity
  listed : input.registryListed → (∃ n, (scoreScamCheck input).1 = some n ∧ 80 ≤ n) ∧
    RiskLevel.high.severity ≤ (scoreScamCheck input).2.severity

/-- No status has a name that every object inherits. -/
def Own (signals : List SignalMatch) : Prop := ∀ signal ∈ signals, signal.status ∉ inheritedNames

/-! ## The weights -/

variable {input before : ScamCheckScoreInput} {signals signals' : List SignalMatch}
  {signal : SignalMatch} {status : Text}

/-- The number that the table gives to a status, 0 to those it does not know. -/
def tableWeight (status : Text) : Int := ((STATUS_WEIGHT.find? (·.1 = status)).map Prod.snd).getD 0

theorem tableWeight_nonneg (status : Text) : 0 ≤ tableWeight status := by
  rw [tableWeight]
  cases hfind : STATUS_WEIGHT.find? (·.1 = status) with
  | none => decide
  | some row =>
    have hall : ∀ row ∈ STATUS_WEIGHT, 0 ≤ row.2 := by decide
    exact hall row (List.mem_of_find?_eq_some hfind)

/-- No name of the table begins as an inherited one does. -/
theorem not_mem_inheritedNames_of_mem {row : Text × Int} (h : row ∈ STATUS_WEIGHT) :
    row.1 ∉ inheritedNames := by
  have hhead : ∀ row ∈ STATUS_WEIGHT, row.1.head? ∉ inheritedNames.map List.head? := by decide
  exact fun hmem => hhead row h (List.mem_map_of_mem hmem)

theorem statusWeight_of_own (h : status ∉ inheritedNames) :
    statusWeight status = .number (tableWeight status) := by
  rw [statusWeight, tableWeight]
  cases STATUS_WEIGHT.find? (·.1 = status) <;> simp [h]

theorem statusWeight_of_inherited (h : status ∈ inheritedNames) :
    statusWeight status = .inherited (inheritedText status) := by
  rw [statusWeight]
  cases hfind : STATUS_WEIGHT.find? (·.1 = status) with
  | none => simp [h]
  | some row =>
    have hname : row.1 = status := of_decide_eq_true
      (List.find?_some (p := fun row : Text × Int => row.1 = status) hfind)
    exact absurd (hname ▸ h) (not_mem_inheritedNames_of_mem (List.mem_of_find?_eq_some hfind))

theorem own_of_statusWeight {weight : Int} (h : statusWeight status = .number weight) :
    status ∉ inheritedNames ∧ tableWeight status = weight := by
  by_cases hmem : status ∈ inheritedNames
  · rw [statusWeight_of_inherited hmem] at h
    cases h
  · rw [statusWeight_of_own hmem, Weight.number.injEq] at h
    exact ⟨hmem, h⟩

/-! ## The strongest signal -/

/-- The largest weight of a list of signals, 0 where there is none. -/
def topWeight (signals : List SignalMatch) : Int :=
  (signals.map fun s => tableWeight s.status).foldr max 0

@[simp]
theorem topWeight_nil : topWeight [] = 0 := rfl

@[simp]
theorem topWeight_cons (signal : SignalMatch) (signals : List SignalMatch) :
    topWeight (signal :: signals) = max (tableWeight signal.status) (topWeight signals) := rfl

theorem topWeight_nonneg (signals : List SignalMatch) : 0 ≤ topWeight signals := by
  induction signals with
  | nil => simp
  | cons signal signals ih => simp [ih]

theorem topWeight_append (signals signals' : List SignalMatch) :
    topWeight (signals ++ signals') = max (topWeight signals) (topWeight signals') := by
  induction signals with
  | nil => simp [topWeight_nonneg]
  | cons signal signals ih => simp [ih, max_assoc]

theorem topWeight_perm (h : signals.Perm signals') : topWeight signals = topWeight signals' := by
  induction h with
  | nil => rfl
  | cons signal _ ih => simp [ih]
  | swap signal signal' signals => simp [max_left_comm]
  | trans _ _ ih ih' => exact ih.trans ih'

theorem strongest_cons (first s : SignalMatch) (rest : List SignalMatch) :
    strongest first (s :: rest) = strongest
      (if (statusWeight s.status).greater (statusWeight first.status) then s else first) rest := rfl

theorem strongest_mem (first : SignalMatch) (rest : List SignalMatch) :
    strongest first rest ∈ first :: rest := by
  induction rest generalizing first with
  | nil => simp [strongest]
  | cons s rest ih =>
    rw [strongest_cons]
    split
    · exact List.mem_cons_of_mem _ (ih s)
    · have hmem := ih first
      simp only [List.mem_cons] at hmem ⊢
      tauto

/-- Among numbers, the strongest signal is one of the largest weight. -/
theorem tableWeight_strongest {first : SignalMatch} {rest : List SignalMatch}
    (h : Own (first :: rest)) :
    tableWeight (strongest first rest).status = topWeight (first :: rest) := by
  induction rest generalizing first with
  | nil => simp [strongest, tableWeight_nonneg]
  | cons s rest ih =>
    have hfirst : Own (first :: rest) := fun signal hmem => h signal (by
      simp only [List.mem_cons] at hmem ⊢
      tauto)
    have hs : Own (s :: rest) := fun signal hmem => h signal (List.mem_cons_of_mem _ hmem)
    rw [strongest_cons, statusWeight_of_own (h s (by simp)),
      statusWeight_of_own (h first (by simp))]
    simp only [Weight.greater, decide_eq_true_eq]
    split
    · rw [ih hs]
      simp only [topWeight_cons]
      omega
    · rw [ih hfirst]
      simp only [topWeight_cons]
      omega

/-- No number is stronger than what an object inherits. -/
theorem strongest_inherited {first : SignalMatch} (rest : List SignalMatch)
    (h : first.status ∈ inheritedNames) : (strongest first rest).status ∈ inheritedNames := by
  induction rest generalizing first with
  | nil => exact h
  | cons s rest ih =>
    rw [strongest_cons]
    by_cases hs : s.status ∈ inheritedNames
    · split
      · exact ih hs
      · exact ih h
    · rw [statusWeight_of_own hs, statusWeight_of_inherited h]
      exact ih h

/-! ## The score -/

/-- The points before they are kept in the range 0 to 100. -/
def points (input : ScamCheckScoreInput) : Int :=
  max (listedScore input) (topWeight input.signals) + min 15 (totalReports input.signals * 2) +
    min 20 (input.languageSignalCount * 8)

theorem listedScore_nonneg (input : ScamCheckScoreInput) : 0 ≤ listedScore input := by
  rw [listedScore]
  split <;> omega

theorem scoreScamCheck_of_own (h : Own input.signals) :
    (scoreScamCheck input).1 = some (clamp (points input)) := by
  have hmatched : matchedScore input = some (max (listedScore input) (topWeight input.signals) +
      min 15 (totalReports input.signals * 2)) := by
    have hlisted := listedScore_nonneg input
    rw [matchedScore]
    cases hsignals : input.signals with
    | nil => simp [totalReports, hlisted]
    | cons first rest =>
      rw [hsignals] at h
      simp only [statusWeight_of_own (h _ (strongest_mem first rest)), tableWeight_strongest h]
  simp only [scoreScamCheck, hmatched]
  rfl

theorem severity_scoreScamCheck (h : Own input.signals) :
    (scoreScamCheck input).2.severity =
      (Checks.scoreToLevel (some (clamp (points input)))).severity := by
  have hlevel : (scoreScamCheck input).2 = levelForScore (scoreScamCheck input).1 := rfl
  rw [hlevel, scoreScamCheck_of_own h]
  rfl

theorem scoreScamCheck_inherited (input : ScamCheckScoreInput) {first : SignalMatch}
    {rest : List SignalMatch} (hsignals : input.signals = first :: rest)
    (h : first.status ∈ inheritedNames) :
    (scoreScamCheck input).1 = none := by
  have hstrongest := statusWeight_of_inherited (strongest_inherited rest h)
  simp only [scoreScamCheck, matchedScore, hsignals, hstrongest]
  rfl

theorem totalReports_append (signals signals' : List SignalMatch) :
    totalReports (signals ++ signals') = totalReports signals + totalReports signals' := by
  simp [totalReports]

@[simp]
theorem totalReports_cons (signal : SignalMatch) (signals : List SignalMatch) :
    totalReports (signal :: signals) = signal.reportCount + totalReports signals := by
  simp [totalReports]

/-- An adverse change of an input without inherited names has one before it. -/
theorem Raise.own (h : Raise before input) (hown : Own input.signals) : Own before.signals := by
  cases h with
  | adding input before signal rest =>
    intro other hmem
    refine hown other ?_
    simp only [List.mem_append, List.mem_cons] at hmem ⊢
    tauto
  | reports input before signal rest n h =>
    simp only [Own, List.forall_mem_append, List.forall_mem_cons] at hown ⊢
    exact hown
  | status input before signal rest status weight weight' hweight hweight' h =>
    simp only [Own, List.forall_mem_append, List.forall_mem_cons] at hown ⊢
    exact ⟨hown.1, (own_of_statusWeight hweight).1, hown.2.2⟩
  | language input n h => exact hown
  | listed input => exact hown

theorem Raise.points_le (h : Raise before input) : points before ≤ points input := by
  cases h with
  | adding input before signal rest =>
    have hweight := tableWeight_nonneg signal.status
    simp only [points, listedScore, topWeight_append, topWeight_cons, totalReports_append,
      totalReports_cons]
    omega
  | reports input before signal rest n h =>
    simp only [points, listedScore, topWeight_append, topWeight_cons, totalReports_append,
      totalReports_cons]
    omega
  | status input before signal rest status weight weight' hweight hweight' h =>
    have hbefore := (own_of_statusWeight hweight).2
    have hafter := (own_of_statusWeight hweight').2
    simp only [points, listedScore, topWeight_append, topWeight_cons, totalReports_append,
      totalReports_cons]
    omega
  | language input n h =>
    simp only [points, listedScore]
    omega
  | listed input =>
    simp only [points, listedScore, Bool.false_eq_true, if_false, if_true]
    omega

theorem Weighed.of_own (hown : Own input.signals) : Weighed input where
  bounded := ⟨_, scoreScamCheck_of_own hown, clamp_nonneg _, clamp_le _⟩
  order signals hperm := by
    have hown' : Own signals := fun signal hmem => hown signal (hperm.mem_iff.mp hmem)
    have hpoints : points { input with signals := signals } = points input := by
      simp only [points, listedScore, totalReports, topWeight_perm hperm,
        (hperm.map SignalMatch.reportCount).sum_eq]
    have hscore : (scoreScamCheck { input with signals := signals }).1 =
        (scoreScamCheck input).1 := by
      rw [scoreScamCheck_of_own hown, ← hpoints]
      exact scoreScamCheck_of_own hown'
    exact Prod.ext hscore (congrArg levelForScore hscore)
  raised before h := by
    have hle := clamp_mono h.points_le
    have hbefore := h.own hown
    refine ⟨⟨_, _, scoreScamCheck_of_own hbefore, scoreScamCheck_of_own hown, hle⟩, ?_⟩
    rw [severity_scoreScamCheck hbefore, severity_scoreScamCheck hown]
    exact Checks.severity_scoreToLevel_mono hle
  listed hlisted := by
    have hpoints : 80 ≤ points input := by
      simp only [points, listedScore, hlisted, if_true]
      omega
    have hscore := clamp_mono hpoints
    refine ⟨⟨_, scoreScamCheck_of_own hown, hscore⟩, ?_⟩
    rw [severity_scoreScamCheck hown]
    exact Checks.severity_scoreToLevel_mono hscore

/-- **When a check is weighed**: the score is an integer from 0 to 100, 80 at least for a listed
indicator, that no order of the signals confuses and no adverse change lowers, exactly where no
status has a name that every object inherits. -/
theorem weighed_iff (input : ScamCheckScoreInput) : Weighed input ↔ Own input.signals := by
  constructor
  · intro h signal hmem hinherited
    -- in another order the signal is the first one, and there the score is none
    have horder := h.order (signal :: input.signals.erase signal) (List.perm_cons_erase hmem).symm
    have hnone := scoreScamCheck_inherited
      { input with signals := signal :: input.signals.erase signal } rfl hinherited
    obtain ⟨n, hn, -⟩ := h.bounded
    rw [horder, hn] at hnone
    cases hnone
  · exact Weighed.of_own

/-! ## The signals on record -/

/-- What the check gives to the scorer. -/
def ofStatuses (input : ScamCheck.ScamCheckScoreInput) : ScamCheckScoreInput where
  registryListed := input.registryListed
  registryConfidence := input.registryConfidence
  signals := input.signals.map fun s => ⟨s.status.name, s.confidenceScore, s.reportCount⟩
  languageSignalCount := input.languageSignalCount

theorem statusWeight_name (status : ScamSignalStatus) :
    statusWeight status.name = .number (ScamCheck.STATUS_WEIGHT status) := by
  cases status <;> rfl

theorem own_ofStatuses (input : ScamCheck.ScamCheckScoreInput) :
    Own (ofStatuses input).signals := by
  intro signal hmem
  obtain ⟨s, -, rfl⟩ := List.mem_map.mp hmem
  exact (own_of_statusWeight (statusWeight_name s.status)).1

theorem strongest_ofStatuses (first : ScamCheck.SignalMatch) (rest : List ScamCheck.SignalMatch) :
    statusWeight (strongest ⟨first.status.name, first.confidenceScore, first.reportCount⟩
      (rest.map fun s => ⟨s.status.name, s.confidenceScore, s.reportCount⟩)).status =
      .number (ScamCheck.STATUS_WEIGHT (ScamCheck.strongest first rest).status) := by
  induction rest generalizing first with
  | nil => exact statusWeight_name first.status
  | cons s rest ih =>
    rw [List.map_cons, strongest_cons, statusWeight_name, statusWeight_name]
    simp only [Weight.greater, decide_eq_true_eq, ScamCheck.strongest, List.foldl_cons, gt_iff_lt]
    split
    · exact ih s
    · exact ih first

/-- On the statuses that a signal can have, this is the scorer of the check. -/
theorem scoreScamCheck_ofStatuses (input : ScamCheck.ScamCheckScoreInput) :
    scoreScamCheck (ofStatuses input) =
      (some (ScamCheck.scoreScamCheck input).1, (ScamCheck.scoreScamCheck input).2) := by
  have hmatched : (scoreScamCheck (ofStatuses input)).1 =
      some (ScamCheck.scoreScamCheck input).1 := by
    obtain ⟨listed, confidence, signals, language⟩ := input
    cases signals with
    | nil => rfl
    | cons first rest =>
      have hreports : totalReports ((first :: rest).map fun s =>
          ⟨s.status.name, s.confidenceScore, s.reportCount⟩) =
          ScamCheck.totalReports (first :: rest) := by
        simp [totalReports, ScamCheck.totalReports, Function.comp_def]
      simp only [List.map_cons] at hreports
      simp only [scoreScamCheck, matchedScore, ofStatuses, List.map_cons, strongest_ofStatuses,
        hreports]
      rfl
  refine Prod.ext hmatched ?_
  have hlevel : (scoreScamCheck (ofStatuses input)).2 =
      levelForScore (scoreScamCheck (ofStatuses input)).1 := rfl
  rw [hlevel, hmatched]
  rfl

/-- **A name that is no number**: a listed indicator with a verified signal is CRITICAL, and LOW
once a signal with the status `constructor` comes before it. -/
theorem constructor_status :
    let listed : ScamCheckScoreInput := ⟨true, some 90, [⟨"VERIFIED_SCAM_INTELLIGENCE", 90, 3⟩], 0⟩
    let hidden := { listed with
      signals := [⟨"constructor", 90, 3⟩, ⟨"VERIFIED_SCAM_INTELLIGENCE", 90, 3⟩] }
    scoreScamCheck listed = (some 96, .critical) ∧ scoreScamCheck hidden = (none, .low) ∧
      ¬ Weighed hidden := by
  refine ⟨by decide, by decide, fun h => ?_⟩
  obtain ⟨n, hn, -⟩ := h.bounded
  have hnone := scoreScamCheck_inherited ⟨true, some 90,
    [⟨"constructor", 90, 3⟩, ⟨"VERIFIED_SCAM_INTELLIGENCE", 90, 3⟩], 0⟩ rfl
    (List.mem_cons_self ..)
  rw [hn] at hnone
  cases hnone

end ScamCheck.Statuses
