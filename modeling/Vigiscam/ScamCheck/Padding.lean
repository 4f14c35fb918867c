import Vigiscam.Js.LowerCase
import Vigiscam.RiskFusion.Signals
import Vigiscam.ScamCheck.Service

/-!
# Words around a scam (`a1scamshield.detection.ts`)

A phrase is looked for anywhere in the text, so that words before and after it hide nothing, and
each signal and tactic is counted once however often its phrases occur.
-/

namespace ScamCheck

open Js Protection Scores
open RiskFusion (scoreSignals severityOf tableWeight)

/-- `detectScamLanguage`, where lower case is taken character by character. -/
def detect (lower : Nat → Text) : Text → ScamLanguageResult := detectScamLanguage (lowerCase lower)

variable {lower : Nat → Text} {text : Text} {signals signals' : List Text}

/-! ## What is found -/

theorem pattern_plain :
    ∀ entry ∈ SCAM_PHRASE_LIBRARY, ∀ c ∈ entry.pattern, isSurrogate c = false := by
  have hall : (SCAM_PHRASE_LIBRARY.all fun entry => entry.pattern.all (!isSurrogate ·)) = true := by
    decide +kernel
  simpa using hall

theorem signal_own : ∀ entry ∈ SCAM_PHRASE_LIBRARY, entry.signal ∉ RiskFusion.inheritedNames := by
  have hhead : ∀ entry ∈ SCAM_PHRASE_LIBRARY,
      entry.signal.head? ∉ RiskFusion.inheritedNames.map List.head? := by decide
  exact fun entry h hmem => hhead entry h (List.mem_map_of_mem hmem)

theorem mem_signals {signal : Text} :
    signal ∈ (detect lower text).signals ↔ ∃ entry ∈ SCAM_PHRASE_LIBRARY,
      entry.pattern <:+: lowerCase lower text ∧ entry.signal = signal := by
  simp [detect, detectScamLanguage, List.mem_eraseDups, and_assoc]

theorem mem_tactics {tactic : Text} :
    tactic ∈ (detect lower text).tactics ↔ ∃ entry ∈ SCAM_PHRASE_LIBRARY,
      entry.pattern <:+: lowerCase lower text ∧ entry.tactic = tactic := by
  simp [detect, detectScamLanguage, List.mem_eraseDups, and_assoc]

/-! ## What it scores -/

/-- More signals, each of them once, are scored no lower. -/
theorem scoreSignals_subset (hnd : signals.Nodup) (hsub : signals ⊆ signals')
    (hown : ∀ signal ∈ signals', signal ∉ RiskFusion.inheritedNames) :
    ∃ n m, scoreSignals signals = some n ∧ scoreSignals signals' = some m ∧ n ≤ m := by
  refine ⟨_, _, RiskFusion.scoreSignals_of_own fun signal h => hown signal (hsub h),
    RiskFusion.scoreSignals_of_own hown, clamp_mono ?_⟩
  obtain ⟨l, hperm, hsublist⟩ := List.subperm_of_subset hnd hsub
  rw [← (hperm.map tableWeight).sum_eq]
  refine (hsublist.map tableWeight).sum_le_sum fun weight hmem => ?_
  obtain ⟨signal, -, rfl⟩ := List.mem_map.mp hmem
  exact (RiskFusion.tableWeight_pos signal).le

theorem scoreScamCheck_mono (input : ScamCheckScoreInput) {n m : Nat} (h : n ≤ m) :
    (scoreScamCheck { input with languageSignalCount := n }).1 ≤
      (scoreScamCheck { input with languageSignalCount := m }).1 := by
  simp only [scoreScamCheck]
  omega

theorem severity_scoreScamCheck (input : ScamCheckScoreInput) :
    (scoreScamCheck input).2 = Checks.scoreToLevel (some (scoreScamCheck input).1) := rfl

/-- **Padding hides nothing**: what is found in a text is found in every text around it, each
signal and tactic once, and so neither score, and neither level, is lower for the longer text. -/
theorem padding_hides_nothing (lower : Nat → Text) (a s b : Text) :
    (detect lower s).signals ⊆ (detect lower (a ++ s ++ b)).signals ∧
      (detect lower s).tactics ⊆ (detect lower (a ++ s ++ b)).tactics ∧
      (∀ text, (detect lower text).signals.Nodup ∧ (detect lower text).tactics.Nodup) ∧
      (∃ n m, scoreSignals (detect lower s).signals = some n ∧
        scoreSignals (detect lower (a ++ s ++ b)).signals = some m ∧ n ≤ m) ∧
      severityOf (detect lower s).signals ≤ severityOf (detect lower (a ++ s ++ b)).signals ∧
      ∀ input : ScamCheckScoreInput,
        let before := { input with languageSignalCount := (detect lower s).signals.length }
        let padded :=
          { input with languageSignalCount := (detect lower (a ++ s ++ b)).signals.length }
        (scoreScamCheck before).1 ≤ (scoreScamCheck padded).1 ∧
          (scoreScamCheck before).2.severity ≤ (scoreScamCheck padded).2.severity := by
  have hfound : ∀ entry ∈ SCAM_PHRASE_LIBRARY, entry.pattern <:+: lowerCase lower s →
      entry.pattern <:+: lowerCase lower (a ++ s ++ b) := fun entry hmem h =>
    infix_lowerCase (pattern_plain entry hmem) a b h
  have hsignals : (detect lower s).signals ⊆ (detect lower (a ++ s ++ b)).signals := by
    intro signal hmem
    obtain ⟨entry, hentry, hpattern, hsignal⟩ := mem_signals.mp hmem
    exact mem_signals.mpr ⟨entry, hentry, hfound entry hentry hpattern, hsignal⟩
  have htactics : (detect lower s).tactics ⊆ (detect lower (a ++ s ++ b)).tactics := by
    intro tactic hmem
    obtain ⟨entry, hentry, hpattern, htactic⟩ := mem_tactics.mp hmem
    exact mem_tactics.mpr ⟨entry, hentry, hfound entry hentry hpattern, htactic⟩
  have hnodup : ∀ text, (detect lower text).signals.Nodup ∧ (detect lower text).tactics.Nodup :=
    fun _ => ⟨nodup_eraseDups _, nodup_eraseDups _⟩
  have hown : ∀ signal ∈ (detect lower (a ++ s ++ b)).signals,
      signal ∉ RiskFusion.inheritedNames := by
    intro signal hmem
    obtain ⟨entry, hentry, -, rfl⟩ := mem_signals.mp hmem
    exact signal_own entry hentry
  obtain ⟨n, m, hn, hm, hle⟩ := scoreSignals_subset (hnodup s).1 hsignals hown
  refine ⟨hsignals, htactics, hnodup, ⟨n, m, hn, hm, hle⟩, ?_, fun input => ?_⟩
  · rw [severityOf, severityOf, hn, hm]
    exact Checks.severity_scoreToLevel_mono hle
  · have hlength := (List.subperm_of_subset (hnodup s).1 hsignals).length_le
    have hscore := scoreScamCheck_mono input hlength
    refine ⟨hscore, ?_⟩
    rw [severity_scoreScamCheck, severity_scoreScamCheck]
    exact Checks.severity_scoreToLevel_mono hscore

end ScamCheck
