import Vigiscam.Checks.Monotone
import Vigiscam.RiskFusion.Service

/-!
# Signals of any name (`risk.scoring.ts`)

A signal may be any text, and its weight is looked up in a plain object. A name that every object
inherits finds a function there, and the score of its list is no number (`counted_iff`).
-/

namespace RiskFusion

open Js Protection Scores

/-- The weight that the table gives to a signal, and the same one to all that it does not know. -/
def tableWeight (signal : Text) : Int :=
  ((SIGNAL_WEIGHTS.find? (·.1 = signal)).map Prod.snd).getD UNKNOWN_SIGNAL_WEIGHT

/-- The severity of the level that a list of signals comes to. -/
def severityOf (signals : List Text) : Nat := (levelForScore (scoreSignals signals)).severity

/-- The list is scored as signals are meant to be. -/
structure Counted (signals : List Text) : Prop where
  /-- The score is an integer from 0 to 100, and the unknown signals count all the same in it. -/
  score : scoreSignals signals = some (clamp (signals.map tableWeight).sum)
  order : ∀ signals', signals'.Perm signals → scoreSignals signals' = scoreSignals signals
  /-- The score and the level are no lower than without one of the signals. -/
  adding : ∀ before signal rest, signals = before ++ signal :: rest →
    (∃ n, scoreSignals (before ++ rest) = some n ∧ ∀ m ∈ scoreSignals signals, n ≤ m) ∧
      severityOf (before ++ rest) ≤ severityOf signals

variable {signals signals' : List Text} {signal : Text}

theorem tableWeight_pos (signal : Text) : 0 < tableWeight signal := by
  rw [tableWeight]
  cases hfind : SIGNAL_WEIGHTS.find? (·.1 = signal) with
  | none => decide
  | some row =>
    have hall : ∀ row ∈ SIGNAL_WEIGHTS, 0 < row.2 := by decide
    exact hall row (List.mem_of_find?_eq_some hfind)

/-- No name of the table begins as an inherited one does. -/
theorem not_mem_inheritedNames_of_mem {row : Text × Int} (h : row ∈ SIGNAL_WEIGHTS) :
    row.1 ∉ inheritedNames := by
  have hhead : ∀ row ∈ SIGNAL_WEIGHTS, row.1.head? ∉ inheritedNames.map List.head? := by decide
  exact fun hmem => hhead row h (List.mem_map_of_mem hmem)

theorem signalWeight_eq_some_iff {weight : Int} :
    signalWeight signal = some weight ↔ signal ∉ inheritedNames ∧ weight = tableWeight signal := by
  rw [signalWeight, tableWeight]
  cases hfind : SIGNAL_WEIGHTS.find? (·.1 = signal) with
  | none =>
    by_cases hmem : signal ∈ inheritedNames
    · simp [hmem]
    · simp [hmem, eq_comm]
  | some row =>
    have hname : row.1 = signal := of_decide_eq_true
      (List.find?_some (p := fun row : Text × Int => row.1 = signal) hfind)
    have hown := not_mem_inheritedNames_of_mem (List.mem_of_find?_eq_some hfind)
    rw [hname] at hown
    simp [hown, eq_comm]

/-- The score is a number where no signal has an inherited name. -/
theorem scoreSignals_of_own (h : ∀ signal ∈ signals, signal ∉ inheritedNames) :
    scoreSignals signals = some (clamp (signals.map tableWeight).sum) := by
  have hweights : signals.mapM signalWeight = some (signals.map tableWeight) := by
    rw [mapM_eq_some_iff, List.map_map]
    exact List.map_congr_left fun signal hmem =>
      signalWeight_eq_some_iff.mpr ⟨h signal hmem, rfl⟩
  rw [scoreSignals, hweights]
  rfl

/-- One inherited name among the signals, and the score is none. -/
theorem own_of_scoreSignals {score : Int} (h : scoreSignals signals = some score) :
    ∀ signal ∈ signals, signal ∉ inheritedNames := by
  intro signal hmem
  obtain ⟨weights, hweights, -⟩ := Option.map_eq_some_iff.mp h
  obtain ⟨weight, -, hweight⟩ := List.mem_map.mp
    (mapM_eq_some_iff.mp hweights ▸ List.mem_map_of_mem hmem)
  exact (signalWeight_eq_some_iff.mp hweight.symm).1

theorem scoreSignals_perm (h : signals.Perm signals')
    (hown : ∀ signal ∈ signals, signal ∉ inheritedNames) :
    scoreSignals signals = scoreSignals signals' := by
  rw [scoreSignals_of_own hown, (h.map tableWeight).sum_eq,
    scoreSignals_of_own fun signal hmem => hown signal (h.mem_iff.mpr hmem)]

/-- **When signals count**: a list of signals has an integer score that neither their order nor
their being unknown confuses, and that no signal lowers, exactly where none of them has a name that
every object inherits. -/
theorem counted_iff (signals : List Text) :
    Counted signals ↔ ∀ signal ∈ signals, signal ∉ inheritedNames := by
  constructor
  · exact fun h => own_of_scoreSignals h.score
  · intro hown
    refine ⟨scoreSignals_of_own hown, fun signals' hperm => ?_,
      fun before signal rest hsignals => ?_⟩
    · exact (scoreSignals_perm hperm.symm hown).symm
    · subst hsignals
      have hrest : ∀ signal ∈ before ++ rest, signal ∉ inheritedNames := by
        intro signal' hmem
        refine hown signal' ?_
        simp only [List.mem_append, List.mem_cons] at hmem ⊢
        tauto
      have hsum : ((before ++ rest).map tableWeight).sum ≤
          ((before ++ signal :: rest).map tableWeight).sum := by
        have hpos := tableWeight_pos signal
        simp only [List.map_append, List.map_cons, List.sum_append, List.sum_cons]
        omega
      refine ⟨⟨_, scoreSignals_of_own hrest, fun m hm => ?_⟩, ?_⟩
      · rw [scoreSignals_of_own hown, Option.mem_some_iff] at hm
        rw [← hm]
        exact clamp_mono hsum
      · rw [severityOf, severityOf, scoreSignals_of_own hrest, scoreSignals_of_own hown]
        exact Checks.severity_scoreToLevel_mono (clamp_mono hsum)

/-- **A name silences the others**: four signals are CRITICAL, and with a fifth one LOW. -/
theorem constructor_signal :
    severityOf ["REMOTE_ACCESS", "GIFT_CARD_REQUEST", "CRYPTO_TRANSFER", "FAKE_AUTHORITY"] = 3 ∧
      severityOf ["REMOTE_ACCESS", "GIFT_CARD_REQUEST", "CRYPTO_TRANSFER", "FAKE_AUTHORITY",
        "constructor"] = 0 ∧
      ¬ Counted ["REMOTE_ACCESS", "GIFT_CARD_REQUEST", "CRYPTO_TRANSFER", "FAKE_AUTHORITY",
        "constructor"] := by
  refine ⟨by decide, by decide, fun h => ?_⟩
  exact own_of_scoreSignals h.score "constructor" (by simp) (List.mem_cons_self ..)

end RiskFusion
