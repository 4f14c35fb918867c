import Vigiscam.Js.Replace
import Vigiscam.Registry.Entry

/-!
# The text of a takedown request (`takedown-automation.service.ts`)

The placeholders of a provider's template are replaced one after the other, each by a value of the
registry entry that comes from a report. A value is taken for a replacement pattern, and what has
been inserted is read again by the replacements that follow. Where neither makes a difference, the
request is the template with the values in it (`renderTemplate_eq_rendered`).
-/

namespace Takedown

open Js Registry

inductive Field where
  | indicator | category | summary
deriving DecidableEq

def Field.all : List Field := [.indicator, .category, .summary]

def placeholder : Field → Text
  | .indicator => utf16 "\x7bindicator\x7d"
  | .category => utf16 "\x7bcategory\x7d"
  | .summary => utf16 "\x7bsummary\x7d"

def Field.value (entry : RegistryEntry) : Field → Text
  | .indicator => entry.indicatorValue
  | .category => entry.category
  | .summary => entry.publicSafeSummary

def renderTemplate (template : Text) (entry : RegistryEntry) : Text :=
  replaceAll (placeholder .summary) entry.publicSafeSummary
    (replaceAll (placeholder .category) entry.category
      (replaceAll (placeholder .indicator) entry.indicatorValue template))

/-! ## What a request should say -/

/-- The units of a template, and its placeholders. -/
def marks (template : Text) : List (CodeUnit ⊕ Field) := scan placeholder Field.all template

/-- The template with all its placeholders replaced at once. -/
def rendered (template : Text) (entry : RegistryEntry) : Text :=
  fill (Field.value entry) (marks template)

/-- A placeholder, or the value that has been inserted for it. -/
def textOf (entry : RegistryEntry) (done : List Field) (f : Field) : Text :=
  if f ∈ done then f.value entry else placeholder f

/-- The template with some of the values inserted. -/
def inserted (template : Text) (entry : RegistryEntry) (done : List Field) : Text :=
  fill (textOf entry done) (marks template)

/-- With some of the values inserted, a placeholder occurs only where the template has it. -/
def OnlyOwn (template : Text) (entry : RegistryEntry) (done : List Field) (f : Field) : Prop :=
  scan placeholder [f] (inserted template entry done) =
    keepOnly f (textOf entry done) (marks template)

/-- No value that is inserted has a replacement pattern, and no placeholder is formed by what has
been inserted. -/
structure Plain (template : Text) (entry : RegistryEntry) : Prop where
  values : ∀ f ∈ Field.all, .inr f ∈ marks template → isSpecial (f.value entry) = false
  category : OnlyOwn template entry [.indicator] .category
  summary : OnlyOwn template entry [.category, .indicator] .summary

/-! ## The three replacements -/

variable {template : Text} {entry : RegistryEntry} {done : List Field} {f : Field}

theorem mem_all (f : Field) : f ∈ Field.all := by
  cases f <;> decide

theorem placeholders : Placeholders placeholder 0x7B where
  starts f := by
    cases f
    · exact ⟨utf16 "indicator\x7d", rfl, by decide⟩
    · exact ⟨utf16 "category\x7d", rfl, by decide⟩
    · exact ⟨utf16 "summary\x7d", rfl, by decide⟩
  free f g h := by
    revert h
    cases f <;> cases g <;> decide

theorem inserted_nil : inserted template entry [] = template := by
  have htext : textOf entry [] = placeholder := by
    funext f
    exact if_neg List.not_mem_nil
  rw [inserted, htext]
  exact fill_scan placeholders Field.all template

theorem inserted_all : inserted template entry [.summary, .category, .indicator] =
    rendered template entry := by
  have htext : textOf entry [.summary, .category, .indicator] = Field.value entry := by
    funext f
    cases f <;> rfl
  rw [inserted, htext, rendered]

/-- The first replacement reads the template itself. -/
theorem onlyOwn_nil : OnlyOwn template entry [] f := by
  have htext : textOf entry [] = placeholder := by
    funext g
    exact if_neg List.not_mem_nil
  rw [OnlyOwn, inserted_nil, htext]
  exact scan_singleton placeholders (mem_all f) template

/-- **One replacement.** -/
theorem replaceAll_inserted (hown : OnlyOwn template entry done f)
    (hplain : .inr f ∈ marks template → isSpecial (f.value entry) = false) :
    replaceAll (placeholder f) (f.value entry) (inserted template entry done) =
      inserted template entry (f :: done) := by
  have htext : Function.update (textOf entry done) f (f.value entry) =
      textOf entry (f :: done) := by
    funext g
    by_cases hg : g = f
    · subst hg
      rw [Function.update_self, textOf, if_pos List.mem_cons_self]
    · rw [Function.update_of_ne hg, textOf, textOf]
      simp only [List.mem_cons, hg, false_or]
  rw [inserted, replaceAll_fill hown hplain, htext, inserted]

/-- **A plain template is rendered literally.** -/
theorem renderTemplate_eq_rendered (template : Text) (entry : RegistryEntry)
    (h : Plain template entry) : renderTemplate template entry = rendered template entry := by
  have hindicator : replaceAll (placeholder .indicator) entry.indicatorValue template =
      inserted template entry [.indicator] := by
    have hpass := replaceAll_inserted onlyOwn_nil (h.values .indicator (mem_all _))
    rwa [inserted_nil] at hpass
  have hcategory : replaceAll (placeholder .category) entry.category
      (inserted template entry [.indicator]) = inserted template entry [.category, .indicator] :=
    replaceAll_inserted h.category (h.values .category (mem_all _))
  have hsummary : replaceAll (placeholder .summary) entry.publicSafeSummary
      (inserted template entry [.category, .indicator]) =
        inserted template entry [.summary, .category, .indicator] :=
    replaceAll_inserted h.summary (h.values .summary (mem_all _))
  rw [renderTemplate, hindicator, hcategory, hsummary, inserted_all]

/-- A template that is the summary alone gives it back exactly where it has no pattern. -/
theorem renderTemplate_summary_iff :
    renderTemplate (placeholder .summary) entry = entry.publicSafeSummary ↔
      isSpecial entry.publicSafeSummary = false := by
  have hrender : renderTemplate (placeholder .summary) entry =
      substitution (placeholder .summary) [] [] entry.publicSafeSummary ++ [] := rfl
  rw [hrender, List.append_nil]
  constructor
  · intro h
    by_contra hspecial
    have hmatched : (placeholder .summary).count 0x24 = 0 := by decide
    have hcount := (count_substitution hmatched entry.publicSafeSummary).2 (by simpa using hspecial)
    rw [h] at hcount
    exact Nat.lt_irrefl _ hcount
  · exact substitution_of_plain

namespace Sample

def requestText : Text :=
  utf16 "Please suspend \x7bindicator\x7d (\x7bcategory\x7d). \x7bsummary\x7d"

def reportedWith (category summary : String) : RegistryEntry where
  id := "9f1b7c52-40d3-4a5e-8a57-3c2d9be1f604"
  indicatorType := .domain
  indicatorValue := "quick-gains.example"
  normalizedIndicator := "quick-gains.example"
  category := category
  status := .published
  publicStatus := some .highRiskVerified
  confidenceScore := 85
  publicSafeSummary := summary
  recommendedAction := none
  firstSeen := none
  lastSeen := none
  evidenceCount := 3
  sourceSignalId := none
  publishedAt := none
  updatedAt := Date.sampleDay.noon

theorem renderTemplate_eq_rendered_gains :
    renderTemplate requestText (reportedWith "INVESTMENT_SCAM" "Promises $500 within a day.") =
      utf16 ("Please suspend quick-gains.example (INVESTMENT_SCAM). " ++
        "Promises $500 within a day.") :=
  (renderTemplate_eq_rendered requestText
    (reportedWith "INVESTMENT_SCAM" "Promises $500 within a day.")
    { values := fun f _ _ => by cases f <;> decide
      category := by unfold OnlyOwn; decide +kernel
      summary := by unfold OnlyOwn; decide +kernel }).trans (by decide +kernel)

theorem dollars_lost :
    renderTemplate requestText (reportedWith "INVESTMENT_SCAM" "Promises $$$ within a day.") ≠
      rendered requestText (reportedWith "INVESTMENT_SCAM" "Promises $$$ within a day.") := by
  decide +kernel

/-- Two replacements that are not literal can cancel each other. -/
example :
    let entry := reportedWith "$$\x7bsummary\x7d" "$\x7bsummary\x7d"
    renderTemplate (placeholder .category) entry = rendered (placeholder .category) entry := by
  decide +kernel

end Sample

end Takedown
