import Mathlib.Data.List.Forall2
import Vigiscam.ScamCheck.Service

/-!
# What a scam check shows of the signals

A check reads of a signal its indicator in normalized form, its status, its report count and
its category. The first three are aggregated, but a category is returned as a reporter wrote
it, where no published entry has one (`responseOf_congr`). So a check shows nothing of what the
reporters wrote exactly where the registry answers it, or where there is no signal on record
(`check_discreet_iff`).
-/

namespace ScamCheck

open Js Concurrency
open Registry (RegistryEntry)
open ScamSignals (ScamSignal)

/-- Signals that differ only in what their reporter wrote and in who that is. -/
def SameSignal (x y : ScamSignal) : Prop :=
  y = { x with
    category := y.category
    description := y.description
    rawText := y.rawText
    indicatorValue := y.indicatorValue
    geography := y.geography
    submittedByUserId := y.submittedByUserId
    tenantId := y.tenantId }

/-- Databases that differ only in what the reporters of their signals wrote. -/
structure SameButReports (s t : Store) : Prop where
  signals : List.Forall₂ SameSignal s.signals t.signals
  rest : t = { s with signals := t.signals }

/-- The same response, up to `checkId`. -/
def SameResponse : Except HttpError ScamCheckResponse → Except HttpError ScamCheckResponse → Prop
  | .ok a, .ok b => b = { a with checkId := b.checkId }
  | .error a, .error b => a = b
  | _, _ => False

instance (a b : Except HttpError ScamCheckResponse) : Decidable (SameResponse a b) := by
  unfold SameResponse
  split <;> infer_instance

/-! ## What a check returns -/

section Discreet

variable {platform : ScamSignals.Platform} {dto : ScamCheckDto} {ip : Option Text} {s t : Store}

/-- A check that files no report returns what it makes of the entry and the signals on record. -/
theorem run_check (hreport : dto.createReport ≠ some true) (ip : Option Text) (s : Store) :
    ((check platform dto ip).run s).1 =
      .ok (responseOf platform dto (registryMatch platform dto s.entries)
        (signalsOnRecord platform dto s.signals) (s.uuid s.issued) false) := by
  simp only [check, fileReport, if_neg hreport]
  rfl

theorem SameSignal.signalMatch {x y : ScamSignal} (h : SameSignal x y) :
    signalMatch x = signalMatch y := by
  rw [SameSignal] at h
  rw [h]
  rfl

/-- The signals on record differ in the same way. -/
theorem signalsOnRecord_same {x y : List ScamSignal} (h : List.Forall₂ SameSignal x y) :
    List.Forall₂ SameSignal (signalsOnRecord platform dto x) (signalsOnRecord platform dto y) := by
  refine List.forall₂_take 50 (List.rel_filter ?_ h)
  intro a b hab
  rw [SameSignal] at hab
  rw [hab]

/-- What a check reads of the signals on record, but for their categories. -/
theorem map_signalMatch {x y : List ScamSignal} (h : List.Forall₂ SameSignal x y) :
    x.map signalMatch = y.map signalMatch := by
  induction h with
  | nil => rfl
  | cons hsame _ ih => rw [List.map_cons, List.map_cons, hsame.signalMatch, ih]

/-- A published entry has a category, and then no signal is asked for one. -/
theorem categoryOf_eq_iff (entry : Option RegistryEntry) (x y : List ScamSignal) :
    categoryOf entry x = categoryOf entry y ↔
      entry.isSome ∨ signalCategory x = signalCategory y := by
  cases entry with
  | none => simp [categoryOf]
  | some entry => simp [categoryOf]

/-- The responses agree where their categories do. -/
theorem responseOf_congr {entry : Option RegistryEntry} {x y : List ScamSignal}
    (h : x.map signalMatch = y.map signalMatch) (a b : Uuid) :
    SameResponse (.ok (responseOf platform dto entry x a false))
        (.ok (responseOf platform dto entry y b false)) ↔
      categoryOf entry x = categoryOf entry y := by
  have hlength : x.length = y.length := by
    have := congrArg List.length h
    simpa using this
  constructor
  · intro hsame
    exact (congrArg ScamCheckResponse.category hsame).symm
  · intro hcategory
    simp only [SameResponse, responseOf, scoreOf, h, hcategory, hlength]

theorem sameResponse_iff (hreport : dto.createReport ≠ some true) (h : SameButReports s t) :
    SameResponse ((check platform dto ip).run s).1 ((check platform dto ip).run t).1 ↔
      (registryMatch platform dto s.entries).isSome ∨
        signalCategory (signalsOnRecord platform dto s.signals)
          = signalCategory (signalsOnRecord platform dto t.signals) := by
  have hentries : t.entries = s.entries := by rw [h.rest]
  rw [run_check hreport, run_check hreport, hentries,
    responseOf_congr (map_signalMatch (signalsOnRecord_same h.signals)), categoryOf_eq_iff]

/-! ## Reports with another category -/

/-- The same signals, with another category. -/
def withCategory (category : Text) (s : Store) : Store :=
  { s with signals := s.signals.map fun signal => { signal with category := some category } }

theorem sameButReports_withCategory (category : Text) (s : Store) :
    SameButReports s (withCategory category s) where
  signals := by
    show List.Forall₂ SameSignal s.signals (s.signals.map _)
    rw [List.forall₂_map_right_iff, List.forall₂_same]
    exact fun _ _ => rfl
  rest := rfl

/-- A signal on record has the other category. -/
theorem signalCategory_withCategory {category : Text} (hcategory : category ≠ [])
    (hrecord : signalsOnRecord platform dto s.signals ≠ []) :
    signalCategory (signalsOnRecord platform dto (withCategory category s).signals)
      = some category := by
  have hmap : signalsOnRecord platform dto (withCategory category s).signals
      = (signalsOnRecord platform dto s.signals).map
        fun signal => { signal with category := some category } := by
    show List.take 50 (List.filter _ (s.signals.map _)) = _
    rw [List.filter_map, ← List.map_take]
    rfl
  obtain ⟨signal, rest, hsignals⟩ := List.exists_cons_of_ne_nil hrecord
  rw [hmap, hsignals, signalCategory]
  simp [present, hcategory]

/-- **What a check shows of the signals**: the responses from two databases that differ in the
reports alone are the same where a published entry answers, or where the first category on
record is the same; from every database with other reports, where a published entry answers or
no signal is on record. -/
theorem check_discreet_iff (platform : ScamSignals.Platform) (dto : ScamCheckDto)
    (ip : Option Text) (hreport : dto.createReport ≠ some true) (s : Store) :
    (∀ t, SameButReports s t →
      (SameResponse ((check platform dto ip).run s).1 ((check platform dto ip).run t).1 ↔
        (registryMatch platform dto s.entries).isSome ∨
          signalCategory (signalsOnRecord platform dto s.signals)
            = signalCategory (signalsOnRecord platform dto t.signals))) ∧
    ((∀ t, SameButReports s t →
        SameResponse ((check platform dto ip).run s).1 ((check platform dto ip).run t).1) ↔
      (registryMatch platform dto s.entries).isSome ∨
        signalsOnRecord platform dto s.signals = []) := by
  refine ⟨fun t ht => sameResponse_iff hreport ht, ?_, ?_⟩
  · intro hall
    by_contra hnot
    obtain ⟨hentry, hrecord⟩ := not_or.mp hnot
    -- a category that the first signal with one does not have
    let other : Text := (signalCategory (signalsOnRecord platform dto s.signals)).getD [] ++ [0x58]
    have hother : other ≠ [] := by simp [other]
    have hsame := (sameResponse_iff hreport (sameButReports_withCategory other s)).mp
      (hall _ (sameButReports_withCategory other s))
    have hcategory := hsame.resolve_left hentry
    rw [signalCategory_withCategory hother hrecord] at hcategory
    have hlonger := congrArg (fun c : Option Text => (c.getD []).length) hcategory
    simp [other] at hlonger
  · intro h t ht
    rw [sameResponse_iff hreport ht]
    refine h.imp (fun hentry => hentry) fun hrecord => ?_
    have hnone := @signalsOnRecord_same platform dto _ _ ht.signals
    rw [hrecord, List.forall₂_nil_left_iff] at hnone
    rw [hrecord, hnone]

end Discreet

/-! ## A report of a romance scam -/

def reportDay : Date := Date.sampleDay.noon

/-- A report that nobody has reviewed, with the category that its reporter gave it. -/
def reportOf (category : Option Text) : ScamSignal where
  id := "s"
  tenantId := some "bank"
  submittedByUserId := none
  sourceType := .bankReport
  category := category
  indicatorType := .email
  indicatorValue := "Ann@example.org"
  normalizedIndicator := "ann@example.org"
  description := some "met her online"
  rawText := none
  reportCount := 1
  confidenceScore := 20
  sourceReliabilityScore := 20
  evidenceStrengthScore := 10
  recencyScore := 10
  status := .unverifiedReport
  geography := none
  firstSeen := reportDay
  lastSeen := reportDay
  clusterId := none
  publicSafeCandidate := false

def reportStore (category : Option Text) : Store where
  signals := [reportOf category]
  queue := []
  profiles _ := none
  tenants _ := none
  evidence := []
  published := []
  now := reportDay
  uuid n := [Fin.ofNat _ n]
  issued := 0
  entries := []
  results := []

def asciiPlatform : ScamSignals.Platform where
  toLowerCase := lowerAscii
  clusterOf _ := none

/-- An anonymous check of an address. -/
def emailCheck : ScamCheckDto where
  indicatorType := .email
  indicatorValue := "ann@example.org"
  rawText := none
  createReport := some false

theorem sameButReports_reportStore (x y : Option Text) :
    SameButReports (reportStore x) (reportStore y) where
  signals := .cons rfl .nil
  rest := rfl

/-- A report with the same category is not told from the first; and as a signal is on record,
some other is. -/
theorem check_discreet_romance :
    SameResponse ((check asciiPlatform emailCheck none).run (reportStore (some "ROMANCE"))).1
        ((check asciiPlatform emailCheck none).run (reportStore (some "ROMANCE"))).1 ∧
      ¬ ∀ t, SameButReports (reportStore (some "ROMANCE")) t →
        SameResponse ((check asciiPlatform emailCheck none).run (reportStore (some "ROMANCE"))).1
          ((check asciiPlatform emailCheck none).run t).1 := by
  obtain ⟨hpair, hstore⟩ := check_discreet_iff asciiPlatform emailCheck none (by decide)
    (reportStore (some "ROMANCE"))
  refine ⟨(hpair _ (sameButReports_reportStore _ _)).mpr (Or.inr rfl), fun hall => ?_⟩
  exact absurd (hstore.mp hall) (by decide +kernel)

/-- An anonymous caller is told the category that a bank reported. -/
theorem report_category_shown :
    ¬ ∀ (platform : ScamSignals.Platform) (dto : ScamCheckDto) (ip : Option Text) (s t : Store),
      dto.createReport = some false → SameButReports s t →
      SameResponse ((check platform dto ip).run s).1 ((check platform dto ip).run t).1 := by
  intro h
  have hsame := h asciiPlatform emailCheck none (reportStore (some "ROMANCE")) (reportStore none)
    rfl (sameButReports_reportStore _ _)
  exact absurd hsame (by decide +kernel)

end ScamCheck
