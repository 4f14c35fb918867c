import Mathlib.Data.List.Forall2
import Vigiscam.DetectionRules.SuggestionRuns

/-!
# Rules for tactics, and how many signals flag them

`generatePhraseRuleSuggestions` counts a tactic each time that a decision mentions it, and takes
what every object inherits for a list of phrases. It suggests a rule for each tactic that enough
verified signals flag, and says how many do, exactly where no signal mentions such a tactic twice
and no inherited name is mentioned (`suggestsWanted_iff`).
-/

namespace DetectionRules

open Js Value Concurrency
open RiskFusion (inheritedNames)

/-! ## Signals that flag a tactic -/

section Flags

variable (decisions : List AIDecision) (tactic : Text)

/-- A decision of the classifier on the signal has the tactic. -/
def Flags (id : Uuid) : Prop := ∃ d ∈ decisionsOn [id] decisions, tactic ∈ d.tactics

instance : DecidablePred (Flags decisions tactic) :=
  fun id => inferInstanceAs (Decidable (∃ d ∈ decisionsOn [id] decisions, _))

/-- How many verified signals flag the tactic. -/
def frequencyOf (signals : SignalTable) : Nat :=
  (signals.verified.filter (Flags decisions tactic ·)).length

/-- How often the decisions on the signals mention the tactic. -/
def mentionsIn (ids : List Uuid) : Nat :=
  (mentions (decisionsOn ids decisions)).countP (·.1 = tactic)

end Flags

section Counts

/-- What is counted once where it is there is counted at least once. -/
theorem countP_le_sum {α : Type} (m : α → Nat) (l : List α) :
    l.countP (0 < m ·) ≤ (l.map m).sum := by
  induction l with
  | nil => exact Nat.le_refl _
  | cons a l ih =>
    rw [List.countP_cons, List.map_cons, List.sum_cons]
    by_cases h : 0 < m a
    · simp only [h, decide_true, if_true]
      omega
    · simp only [h, decide_false, Bool.false_eq_true, if_false]
      omega

theorem sum_eq_countP_iff {α : Type} (m : α → Nat) (l : List α) :
    (l.map m).sum = l.countP (0 < m ·) ↔ ∀ a ∈ l, m a ≤ 1 := by
  induction l with
  | nil => simp
  | cons a l ih =>
    have hle := countP_le_sum m l
    rw [List.countP_cons, List.map_cons, List.sum_cons, List.forall_mem_cons, ← ih]
    by_cases h : 0 < m a
    · simp only [h, decide_true, if_true]
      omega
    · simp only [h, decide_false, Bool.false_eq_true, if_false]
      omega

variable {decisions : List AIDecision} {tactic : Text} {id : Uuid} {ids : List Uuid}

theorem AIDecision.isOn_cons (d : AIDecision) :
    d.isOn (id :: ids) = (d.isOn [id] || d.isOn ids) := by
  simp only [AIDecision.isOn, List.mem_cons, List.not_mem_nil, or_false, exists_eq_or_imp,
    exists_eq_left, Bool.decide_and, Bool.decide_or, Bool.and_or_distrib_left]

/-- A decision is on one signal. -/
theorem AIDecision.not_isOn (hnew : id ∉ ids) {d : AIDecision} (h : d.isOn [id] = true) :
    d.isOn ids = false := by
  obtain ⟨-, -, id', hid', hentity⟩ := of_decide_eq_true h
  rw [List.mem_singleton.mp hid'] at hentity
  refine decide_eq_false ?_
  rintro ⟨-, -, id'', hid'', hentity'⟩
  rw [Option.some.inj (hentity.symm.trans hentity')] at hnew
  exact hnew hid''

theorem countP_mentions (ds : List AIDecision) :
    (mentions ds).countP (·.1 = tactic) = (ds.map fun d => d.tactics.countP (· = tactic)).sum := by
  induction ds with
  | nil => rfl
  | cons d ds ih =>
    rw [mentions, List.flatMap_cons, List.countP_append, List.countP_map, List.map_cons,
      List.sum_cons, ← ih]
    rfl

/-- The decisions on one signal more. -/
theorem mentionsIn_cons (hnew : id ∉ ids) : mentionsIn decisions tactic (id :: ids) =
    mentionsIn decisions tactic [id] + mentionsIn decisions tactic ids := by
  simp only [mentionsIn, countP_mentions, decisionsOn]
  induction decisions with
  | nil => rfl
  | cons d ds ih =>
    have hcons : d.isOn (id :: ids) = (d.isOn [id] || d.isOn ids) := d.isOn_cons
    cases hid : d.isOn [id] with
    | true =>
      have hother := AIDecision.not_isOn hnew hid
      simp only [List.filter_cons, hcons, hid, hother, Bool.or_false, Bool.false_eq_true, if_true,
        if_false, List.map_cons, List.sum_cons, ih]
      omega
    | false =>
      cases hids : d.isOn ids <;>
        simp only [List.filter_cons, hcons, hid, hids, Bool.or_true, Bool.or_false,
          Bool.false_eq_true, if_true, if_false, List.map_cons, List.sum_cons, ih]
      omega

theorem mentionsIn_nil : mentionsIn decisions tactic [] = 0 := by
  have hnone : decisionsOn [] decisions = [] := by
    refine List.filter_eq_nil_iff.mpr fun d _ h => ?_
    obtain ⟨-, -, id, hid, -⟩ := of_decide_eq_true h
    exact List.not_mem_nil hid
  rw [mentionsIn, hnone]
  rfl

theorem mentionsIn_eq_sum (hnodup : ids.Nodup) : mentionsIn decisions tactic ids =
    (ids.map fun id => mentionsIn decisions tactic [id]).sum := by
  induction ids with
  | nil => exact mentionsIn_nil
  | cons id ids ih =>
    obtain ⟨hnew, hrest⟩ := List.nodup_cons.mp hnodup
    rw [mentionsIn_cons hnew, ih hrest, List.map_cons, List.sum_cons]

theorem flags_iff : Flags decisions tactic id ↔ 0 < mentionsIn decisions tactic [id] := by
  rw [mentionsIn, List.countP_pos_iff]
  constructor
  · rintro ⟨d, hd, hmem⟩
    exact ⟨(tactic, d.score), List.mem_flatMap.mpr ⟨d, hd, List.mem_map_of_mem hmem⟩,
      decide_eq_true rfl⟩
  · rintro ⟨mention, hmention, htactic⟩
    obtain ⟨d, hd, hmem⟩ := List.mem_flatMap.mp hmention
    obtain ⟨tactic', htactic', rfl⟩ := List.mem_map.mp hmem
    exact ⟨d, hd, of_decide_eq_true htactic ▸ htactic'⟩

variable {signals : SignalTable}

theorem SignalTable.nodup_verified (signals : SignalTable) : signals.verified.Nodup :=
  signals.nodup.sublist (List.filter_sublist.map Prod.fst)

theorem frequencyOf_eq_countP : frequencyOf decisions tactic signals =
    signals.verified.countP fun id => 0 < mentionsIn decisions tactic [id] := by
  rw [frequencyOf, ← List.countP_eq_length_filter]
  exact List.countP_congr fun id _ => by simp [flags_iff]

theorem frequencyOf_le : frequencyOf decisions tactic signals ≤
    mentionsIn decisions tactic signals.verified := by
  rw [frequencyOf_eq_countP, mentionsIn_eq_sum signals.nodup_verified]
  exact countP_le_sum _ _

/-- Mentions count signals exactly where no signal mentions the tactic twice. -/
theorem mentionsIn_eq_frequencyOf_iff :
    mentionsIn decisions tactic signals.verified = frequencyOf decisions tactic signals ↔
      ∀ id ∈ signals.verified, mentionsIn decisions tactic [id] ≤ 1 := by
  rw [frequencyOf_eq_countP, mentionsIn_eq_sum signals.nodup_verified]
  exact sum_eq_countP_iff _ _

end Counts

/-! ## What is suggested -/

section Suggested

variable {rt : Runtime} {decisions : List AIDecision} {tactic : Text} {stats : TacticStats}
  {s : Store} {suggestion : PhraseSuggestedRule}

theorem frequency_foldl (stats : TacticStats) (l : List (Text × Value)) :
    (l.foldl TacticStats.count stats).frequency = stats.frequency + l.length := by
  induction l generalizing stats with
  | nil => rfl
  | cons mention l ih =>
    rw [List.foldl_cons, ih, List.length_cons]
    show stats.frequency + 1 + l.length = _
    omega

/-- The frequency of a tactic is how often it is mentioned. -/
theorem frequency_of_mem (h : (tactic, stats) ∈ tacticCounts decisions) :
    stats.frequency = (mentions decisions).countP (·.1 = tactic) := by
  have hgathered := mem_gather.mp h
  rw [List.countP_eq_length_filter]
  cases hfilter : (mentions decisions).filter (·.1 = tactic) with
  | nil =>
    rw [hfilter] at hgathered
    cases hgathered
  | cons mention rest =>
    rw [hfilter] at hgathered
    rw [← Option.some.inj hgathered, frequency_foldl]
    exact Nat.zero_add _

theorem exists_mem_tacticCounts (h : 0 < (mentions decisions).countP (·.1 = tactic)) :
    ∃ stats, (tactic, stats) ∈ tacticCounts decisions := by
  obtain ⟨mention, hmem, htactic⟩ := List.countP_pos_iff.mp h
  have hkey : tactic ∈ (tacticCounts decisions).map Prod.fst :=
    mem_keys_gather.mpr (List.mem_map.mpr ⟨mention, hmem, of_decide_eq_true htactic⟩)
  obtain ⟨⟨tactic', stats⟩, hentry, rfl⟩ := List.mem_map.mp hkey
  exact ⟨stats, hentry⟩

theorem fields_of_suggestion (h : phraseRuleSuggestion rt tactic stats = some suggestion) :
    suggestion.tactic = tactic ∧ suggestion.name = phraseName tactic ∧
      suggestion.description = phraseDescription tactic stats.frequency := by
  obtain ⟨phrases, -, rfl⟩ := Option.map_eq_some_iff.mp h
  exact ⟨rfl, rfl, rfl⟩

/-- What is suggested: the tactics that are mentioned often enough, have phrases and are not
covered. -/
theorem mem_uncovered_iff : suggestion ∈ uncovered rt decisions s ↔
    ∃ stats, (suggestion.tactic, stats) ∈ tacticCounts decisions ∧
      MIN_TACTIC_FREQUENCY ≤ stats.frequency ∧
      phraseRuleSuggestion rt suggestion.tactic stats = some suggestion ∧
      ¬ Covered s suggestion.tactic := by
  rw [uncovered, List.mem_filter, phraseRulesFromTactics, List.mem_filterMap, decide_eq_true_iff]
  constructor
  · rintro ⟨⟨⟨tactic, stats⟩, hentry, hsuggested⟩, hfree⟩
    obtain ⟨henough, hsuggested⟩ := Option.ite_none_left_eq_some.mp hsuggested
    obtain ⟨rfl, -, -⟩ := fields_of_suggestion hsuggested
    exact ⟨stats, hentry, Nat.not_lt.mp henough, hsuggested, hfree⟩
  · rintro ⟨stats, hentry, henough, hsuggested, hfree⟩
    exact ⟨⟨(suggestion.tactic, stats), hentry,
      (if_neg (Nat.not_lt.mpr henough)).trans hsuggested⟩, hfree⟩

theorem nodup_uncovered : ((uncovered rt decisions s).map (·.tactic)).Nodup := by
  have hkeys : ((tacticCounts decisions).map Prod.fst).Nodup := nodup_gather _
  refine (hkeys.sublist ?_).sublist (List.filter_sublist.map _)
  refine map_filterMap_sublist (fun entry suggestion h => ?_) _
  exact (fields_of_suggestion (Option.ite_none_left_eq_some.mp h).2).1

end Suggested

/-! ## What is created -/

section Created

variable {s t : Store} {actor : AuthenticatedUser} {ip : Option Text}
  {suggestions : List PhraseSuggestedRule} {made : List DetectionRule}

/-- Ids are issued once. -/
structure Store.Fresh (s : Store) : Prop where
  injective : Function.Injective s.uuid
  unused : ∀ n, s.issued ≤ n → s.uuid n ∉ s.rules.map DetectionRule.id

/-- The rule is what is created of the suggestion. -/
def Creates (actor : AuthenticatedUser) (suggestion : PhraseSuggestedRule) (rule : DetectionRule) :
    Prop :=
  ∃ pattern id, suggestion.pattern = some pattern ∧ rule = newRule actor (suggestion.dto pattern) id

theorem creates_of_run (h : (createPhraseRules actor ip suggestions).run s = (.ok made, t)) :
    t.rules = s.rules ++ made ∧ List.Forall₂ (Creates actor) suggestions made := by
  induction suggestions generalizing s made with
  | nil =>
    cases h
    exact ⟨(List.append_nil _).symm, .nil⟩
  | cons suggestion rest ih =>
    cases hpattern : suggestion.pattern with
    | none =>
      rw [createPhraseRules, hpattern] at h
      cases h
    | some pattern =>
      rw [createPhraseRules, hpattern] at h
      obtain ⟨rule, u, hrule, h⟩ := Prog.run_bind_eq_ok h
      obtain ⟨created, v, hrest, h⟩ := Prog.run_bind_eq_ok h
      cases h
      by_cases htaken : s.uuid s.issued ∈ s.rules.map DetectionRule.id
      · rw [createSuggestion, run_createInternal_taken htaken] at hrule
        cases hrule
      · obtain ⟨u', hrun, hrules, -, -⟩ :=
          exists_run_createSuggestion actor (suggestion.dto pattern) ip htaken
        cases hrun.symm.trans hrule
        obtain ⟨hall, hforall⟩ := ih hrest
        refine ⟨?_, .cons ⟨pattern, _, hpattern, rfl⟩ hforall⟩
        rw [hall, hrules, List.append_assoc]
        rfl

/-- Where every pattern can be stored, nothing is refused. -/
theorem exists_run_createPhraseRules (actor : AuthenticatedUser) (ip : Option Text)
    (hfresh : s.Fresh)
    (hpatterns : ∀ suggestion ∈ suggestions, suggestion.pattern ≠ none) :
    ∃ made t, (createPhraseRules actor ip suggestions).run s = (.ok made, t) := by
  induction suggestions generalizing s with
  | nil => exact ⟨[], s, rfl⟩
  | cons suggestion rest ih =>
    obtain ⟨pattern, hpattern⟩ :=
      Option.ne_none_iff_exists'.mp (hpatterns suggestion List.mem_cons_self)
    obtain ⟨u, hrun, hrules, huuid, hissued⟩ := exists_run_createSuggestion actor
      (suggestion.dto pattern) ip (hfresh.unused s.issued (Nat.le_refl _))
    have hfresh' : u.Fresh := by
      refine ⟨huuid ▸ hfresh.injective, ?_⟩
      rw [huuid, hissued, hrules]
      exact Table.issued_append hfresh.injective hfresh.unused rfl
    obtain ⟨made, t, hrest⟩ := ih hfresh' fun x hx => hpatterns x (List.mem_cons_of_mem _ hx)
    refine ⟨newRule actor (suggestion.dto pattern) (s.uuid s.issued) :: made, t, ?_⟩
    rw [createPhraseRules, hpattern]
    show (createSuggestion actor (suggestion.dto pattern) ip >>= _).run s = _
    rw [Prog.run_bind, hrun, Prog.andThen_ok, Prog.run_bind, hrest]
    rfl

end Created

/-! ## The phrases of a tactic -/

section Phrases

variable {tactic : Text} {found : Phrases}

theorem nodup_tactics : (TACTIC_PHRASES.map Prod.fst).Nodup := by decide

theorem phrasesOf_own (h : tactic ∈ TACTIC_PHRASES.map Prod.fst) :
    ∃ phrases, (tactic, phrases) ∈ TACTIC_PHRASES ∧ phrasesOf tactic = some (.own phrases) := by
  have hsome : ∀ row ∈ TACTIC_PHRASES, row.2 ≠ [] := by decide
  obtain ⟨⟨tactic, phrases⟩, hrow, rfl⟩ := List.mem_map.mp h
  have hfind : TACTIC_PHRASES.find? (·.1 = tactic) = some (tactic, phrases) :=
    (Table.find_eq_some_iff nodup_tactics).mpr ⟨hrow, rfl⟩
  refine ⟨phrases, hrow, ?_⟩
  rw [phrasesOf, hfind]
  exact if_neg (hsome _ hrow)

theorem phrasesOf_inherited (h : tactic ∈ inheritedNames) (hlength : tactic ∉ emptyNames) :
    phrasesOf tactic = some .inherited := by
  have hown : ∀ name ∈ inheritedNames, name ∉ TACTIC_PHRASES.map Prod.fst := by decide
  have hfind : TACTIC_PHRASES.find? (·.1 = tactic) = none :=
    Table.find_eq_none_iff.mpr (hown tactic h)
  rw [phrasesOf, hfind]
  exact if_pos ⟨h, hlength⟩

/-- Whatever is found is the tactic's own, or inherited. -/
theorem phrasesOf_cases (h : phrasesOf tactic = some found) :
    tactic ∈ TACTIC_PHRASES.map Prod.fst ∨
      tactic ∈ inheritedNames ∧ tactic ∉ emptyNames := by
  unfold phrasesOf at h
  split at h
  · next name phrases hfind =>
    have hkey : Prod.fst (name, phrases) = tactic := Table.key_of_find hfind
    exact Or.inl (List.mem_map.mpr ⟨_, List.mem_of_find?_eq_some hfind, hkey⟩)
  · split at h
    · next hname => exact Or.inr hname
    · cases h

theorem phraseName_inj {tactic' : Text} (h : phraseName tactic = phraseName tactic') :
    tactic = tactic' :=
  List.append_cancel_left h

theorem phraseDescription_inj {n m : Nat}
    (h : phraseDescription tactic n = phraseDescription tactic m) : n = m := by
  have hcount := List.append_cancel_right (List.append_cancel_right (List.append_cancel_right h))
  exact Int.ofNat.inj (Number.ofInt_inj (Number.toText_inj (List.append_cancel_left hcount)))

end Phrases

/-! ## What a suggestion says -/

/-- A draft of a phrase rule for the tactic, which says that so many signals flag it. -/
structure IsRuleFor (tactic : Text) (frequency : Nat) (rule : DetectionRule) : Prop where
  status : rule.status = .draft
  ruleType : rule.ruleType = .phraseMatch
  name : rule.name = phraseName tactic
  description : rule.description = phraseDescription tactic frequency
  pattern : ∃ phrases, (tactic, phrases) ∈ TACTIC_PHRASES ∧
    rule.pattern = phrasePattern tactic phrases

/-- Enough verified signals flag the tactic, it has phrases and no live rule covers it. -/
def Wanted (signals : SignalTable) (decisions : List AIDecision) (s : Store) (tactic : Text) :
    Prop :=
  MIN_TACTIC_FREQUENCY ≤ frequencyOf decisions tactic signals ∧
    tactic ∈ TACTIC_PHRASES.map Prod.fst ∧ ¬ Covered s tactic

/-- One rule is created for each tactic that is wanted, with the number of its signals. -/
def SuggestsWanted (rt : Runtime) (signals : SignalTable) (decisions : List AIDecision)
    (actor : AuthenticatedUser) (ip : Option Text) (s : Store) : Prop :=
  ∃ result t tactics made,
    (generatePhraseRuleSuggestions rt signals decisions actor ip).run s = (.ok result, t) ∧
    t.rules = s.rules ++ made ∧
    tactics.Nodup ∧ (∀ tactic, tactic ∈ tactics ↔ Wanted signals decisions s tactic) ∧
    List.Forall₂ (fun tactic rule => IsRuleFor tactic (frequencyOf decisions tactic signals) rule)
      tactics made

/-- A tactic that is mentioned often enough is mentioned once by each signal; and an inherited
name is not mentioned often enough. -/
structure OnceEach (signals : SignalTable) (decisions : List AIDecision) (s : Store) : Prop where
  own : ∀ tactic ∈ TACTIC_PHRASES.map Prod.fst, ¬ Covered s tactic →
    MIN_TACTIC_FREQUENCY ≤ mentionsIn decisions tactic signals.verified →
    ∀ id ∈ signals.verified, mentionsIn decisions tactic [id] ≤ 1
  inherited : ∀ tactic ∈ inheritedNames, tactic ∉ emptyNames → ¬ Covered s tactic →
    mentionsIn decisions tactic signals.verified < MIN_TACTIC_FREQUENCY

section Says

variable {rt : Runtime} {signals : SignalTable} {decisions : List AIDecision}
  {actor : AuthenticatedUser} {ip : Option Text} {s t : Store} {tactic : Text}

/-- What the call comes to is what comes of its suggestions. -/
theorem run_generatePhrases (rt : Runtime) (actor : AuthenticatedUser) (ip : Option Text)
    (s : Store) (hsignals : signals.verified.length ≤ 1000)
    (hdecisions : (decisionsOn signals.verified decisions).length ≤ 5000) :
    (generatePhraseRuleSuggestions rt signals decisions actor ip).run s =
      match (createPhraseRules actor ip
        (uncovered rt (decisionsOn signals.verified decisions) s)).run s with
      | (.ok made, t) => (.ok ⟨(decisionsOn signals.verified decisions).length, made.length,
          made.map DetectionRule.id⟩, t)
      | (.error e, t) => (.error e, t) := by
  rw [generatePhraseRuleSuggestions, List.take_of_length_le hsignals]
  by_cases hnone : signals.verified = []
  · have hempty : decisionsOn signals.verified decisions = [] := by
      rw [hnone]
      refine List.filter_eq_nil_iff.mpr fun d _ h => ?_
      obtain ⟨-, -, id, hid, -⟩ := of_decide_eq_true h
      exact List.not_mem_nil hid
    rw [hempty]
    simp only [hnone, if_true]
    rfl
  · simp only [hnone, if_false, List.take_of_length_le hdecisions]
    rw [Prog.run_bind, Prog.run_act, Prog.andThen_ok, Prog.run_bind]
    cases (createPhraseRules actor ip
      (uncovered rt (decisionsOn signals.verified decisions) s)).run s with
    | mk result t => cases result <;> rfl

/-- What is suggested of a tactic that is mentioned often enough and has phrases. -/
theorem exists_mem_uncovered (rt : Runtime) {found : Phrases}
    (hfound : phrasesOf tactic = some found) (hfree : ¬ Covered s tactic)
    (henough : MIN_TACTIC_FREQUENCY ≤ mentionsIn decisions tactic signals.verified) :
    ∃ suggestion ∈ uncovered rt (decisionsOn signals.verified decisions) s,
      suggestion.tactic = tactic ∧ suggestion.name = phraseName tactic ∧
      suggestion.description =
        phraseDescription tactic (mentionsIn decisions tactic signals.verified) := by
  have hpos : 0 < mentionsIn decisions tactic signals.verified :=
    Nat.lt_of_lt_of_le (by decide) henough
  obtain ⟨stats, hentry⟩ := exists_mem_tacticCounts hpos
  have hfrequency : stats.frequency = mentionsIn decisions tactic signals.verified :=
    frequency_of_mem hentry
  obtain ⟨suggestion, hsuggested⟩ : ∃ x, phraseRuleSuggestion rt tactic stats = some x :=
    ⟨_, Option.map_eq_some_iff.mpr ⟨found, hfound, rfl⟩⟩
  obtain ⟨rfl, hname, hdescription⟩ := fields_of_suggestion hsuggested
  rw [hfrequency] at hdescription
  exact ⟨suggestion, mem_uncovered_iff.mpr ⟨stats, hentry, hfrequency ▸ henough, hsuggested, hfree⟩,
    rfl, hname, hdescription⟩

theorem exists_right {α β : Type} {R : α → β → Prop} {l : List α} {l' : List β}
    (h : List.Forall₂ R l l') {a : α} (ha : a ∈ l) : ∃ b ∈ l', R a b := by
  induction h with
  | nil => exact absurd ha List.not_mem_nil
  | cons hab _ ih =>
    rcases List.mem_cons.mp ha with rfl | hmem
    · exact ⟨_, List.mem_cons_self, hab⟩
    · obtain ⟨b, hb, hrel⟩ := ih hmem
      exact ⟨b, List.mem_cons_of_mem _ hb, hrel⟩

theorem exists_left {α β : Type} {R : α → β → Prop} {l : List α} {l' : List β}
    (h : List.Forall₂ R l l') {b : β} (hb : b ∈ l') : ∃ a ∈ l, R a b :=
  exists_right h.flip hb

/-- A rule for each tactic that is mentioned often enough: where each is wanted, it is for a tactic
that so many signals flag. -/
theorem SuggestsWanted.named (h : SuggestsWanted rt signals decisions actor ip s)
    (hsignals : signals.verified.length ≤ 1000)
    (hdecisions : (decisionsOn signals.verified decisions).length ≤ 5000) {found : Phrases}
    (hfound : phrasesOf tactic = some found) (hfree : ¬ Covered s tactic)
    (henough : MIN_TACTIC_FREQUENCY ≤ mentionsIn decisions tactic signals.verified) :
    tactic ∈ TACTIC_PHRASES.map Prod.fst ∧
      mentionsIn decisions tactic signals.verified = frequencyOf decisions tactic signals := by
  obtain ⟨result, t, tactics, made, hrun, hrules, -, hwanted, hfor⟩ := h
  obtain ⟨suggestion, hmem, rfl, hname, hdescription⟩ :=
    exists_mem_uncovered rt hfound hfree henough
  rw [run_generatePhrases rt actor ip s hsignals hdecisions] at hrun
  cases hcreate : (createPhraseRules actor ip
      (uncovered rt (decisionsOn signals.verified decisions) s)).run s with
  | mk created u =>
    rw [hcreate] at hrun
    cases created with
    | error e => cases hrun
    | ok made' =>
      cases hrun
      obtain ⟨hrules', hcreates⟩ := creates_of_run hcreate
      obtain rfl := List.append_cancel_left (hrules'.symm.trans hrules)
      -- the rule of the suggestion is one of the rules that are wanted
      obtain ⟨rule, hrule, pattern, id, -, rfl⟩ := exists_right hcreates hmem
      obtain ⟨tactic', htactic', hisFor⟩ := exists_left hfor hrule
      obtain rfl := phraseName_inj (hname.symm.trans hisFor.name)
      exact ⟨((hwanted _).mp htactic').2.1,
        phraseDescription_inj (hdescription.symm.trans hisFor.description)⟩

/-- Where signals mention tactics once, a suggestion is for a tactic that is wanted, and what is
created of it says so. -/
theorem OnceEach.of_mem (actor : AuthenticatedUser) (h : OnceEach signals decisions s)
    {suggestion : PhraseSuggestedRule}
    (hmem : suggestion ∈ uncovered rt (decisionsOn signals.verified decisions) s) :
    Wanted signals decisions s suggestion.tactic ∧ suggestion.pattern ≠ none ∧
      ∀ rule, Creates actor suggestion rule →
        IsRuleFor suggestion.tactic (frequencyOf decisions suggestion.tactic signals) rule := by
  obtain ⟨stats, hentry, henough, hsuggested, hfree⟩ := mem_uncovered_iff.mp hmem
  have hfrequency : stats.frequency = mentionsIn decisions suggestion.tactic signals.verified :=
    frequency_of_mem hentry
  rw [hfrequency] at henough
  obtain ⟨found, hfound, -⟩ := Option.map_eq_some_iff.mp hsuggested
  have hown : suggestion.tactic ∈ TACTIC_PHRASES.map Prod.fst := by
    refine (phrasesOf_cases hfound).resolve_right fun hname => ?_
    exact absurd (h.inherited _ hname.1 hname.2 hfree) (Nat.not_lt.mpr henough)
  have honce : mentionsIn decisions suggestion.tactic signals.verified =
      frequencyOf decisions suggestion.tactic signals :=
    mentionsIn_eq_frequencyOf_iff.mpr (h.own _ hown hfree henough)
  obtain ⟨phrases, hphrases, hfound'⟩ := phrasesOf_own hown
  obtain ⟨-, hname, hdescription⟩ := fields_of_suggestion hsuggested
  have hpattern : suggestion.pattern = some (phrasePattern suggestion.tactic phrases) := by
    rw [phraseRuleSuggestion, hfound'] at hsuggested
    exact (congrArg PhraseSuggestedRule.pattern (Option.some.inj hsuggested)).symm
  refine ⟨⟨honce ▸ henough, hown, hfree⟩, hpattern ▸ Option.some_ne_none _, ?_⟩
  rintro rule ⟨pattern, id, hsome, rfl⟩
  refine ⟨rfl, rfl, hname, ?_, phrases, hphrases, ?_⟩
  · rw [← honce, ← hfrequency]
    exact hdescription
  · exact Option.some.inj (hsome.symm.trans hpattern)

/-- **Suggestions are those of the signals** exactly where signals mention tactics once. -/
theorem suggestsWanted_iff (rt : Runtime) (signals : SignalTable) (decisions : List AIDecision)
    (actor : AuthenticatedUser) (ip : Option Text) (s : Store) (hfresh : s.Fresh)
    (hsignals : signals.verified.length ≤ 1000)
    (hdecisions : (decisionsOn signals.verified decisions).length ≤ 5000) :
    SuggestsWanted rt signals decisions actor ip s ↔ OnceEach signals decisions s := by
  constructor
  · intro h
    refine ⟨fun tactic hown hfree henough => ?_, fun tactic hname hlength hfree => ?_⟩
    · obtain ⟨phrases, -, hfound⟩ := phrasesOf_own hown
      have hnamed := h.named hsignals hdecisions hfound hfree henough
      exact mentionsIn_eq_frequencyOf_iff.mp hnamed.2
    · by_contra henough
      have hnamed := h.named hsignals hdecisions (phrasesOf_inherited hname hlength) hfree
        (Nat.not_lt.mp henough)
      have hown : ∀ name ∈ inheritedNames, name ∉ TACTIC_PHRASES.map Prod.fst := by decide
      exact hown tactic hname hnamed.1
  · intro h
    have hmembers : ∀ suggestion ∈ uncovered rt (decisionsOn signals.verified decisions) s, _ :=
      fun suggestion hmem => h.of_mem actor hmem
    obtain ⟨made, t, hrun⟩ := exists_run_createPhraseRules actor ip hfresh
      fun suggestion hmem => (hmembers suggestion hmem).2.1
    obtain ⟨hrules, hcreates⟩ := creates_of_run hrun
    have hresult := run_generatePhrases rt actor ip s hsignals hdecisions
    rw [hrun] at hresult
    refine ⟨_, t, (uncovered rt (decisionsOn signals.verified decisions) s).map (·.tactic), made,
      hresult, hrules, nodup_uncovered, fun tactic => ⟨?_, ?_⟩, ?_⟩
    · intro htactic
      obtain ⟨suggestion, hmem, rfl⟩ := List.mem_map.mp htactic
      exact (hmembers suggestion hmem).1
    · rintro ⟨henough, hown, hfree⟩
      obtain ⟨phrases, -, hfound⟩ := phrasesOf_own hown
      obtain ⟨suggestion, hmem, htactic, -⟩ :=
        exists_mem_uncovered rt hfound hfree (henough.trans frequencyOf_le)
      exact List.mem_map.mpr ⟨suggestion, hmem, htactic⟩
    · rw [List.forall₂_map_left_iff]
      have hmems := (List.forall₂_and_left _ _).mpr
        ⟨fun suggestion hmem => (hmembers suggestion hmem).2.2, hcreates⟩
      exact hmems.imp fun suggestion rule hboth => hboth.1 rule hboth.2

end Says

/-! ## Two reports of one signal -/

namespace Sample

def runtime : Runtime := ⟨fun _ => .high, fun _ => none⟩

/-- A decision on a signal, which finds the text urgent. -/
def urgent (id : Uuid) : AIDecision where
  serviceKind := "NLP_CLASSIFIER"
  entityType := some "SCAM_SIGNAL"
  entityId := some id
  output := object [("scamScore", number (.ofInt 80)),
    ("manipulationTactics", array [string "urgency"])]

def signals : SignalTable where
  rows := [("s", .verifiedScamIntelligence), ("t", .verifiedScamIntelligence)]
  nodup := by decide

theorem fresh_store : store.Fresh where
  injective _ _ h := Int.ofNat.inj (Number.ofInt_inj (Number.toText_inj h))
  unused _ _ := List.not_mem_nil

/-- One signal was reported twice, and a rule for "2 verified signals" is created. -/
theorem urgency_counted_twice :
    frequencyOf [urgent "s", urgent "s"] "urgency" signals = 1 ∧
    ((generatePhraseRuleSuggestions runtime signals [urgent "s", urgent "s"] officer none).run
      store).2.rules.map DetectionRule.description = [phraseDescription "urgency" 2] ∧
    ¬ SuggestsWanted runtime signals [urgent "s", urgent "s"] officer none store := by
  have hrules : ((generatePhraseRuleSuggestions runtime signals [urgent "s", urgent "s"] officer
      none).run store).2.rules.map DetectionRule.description = [phraseDescription "urgency" 2] := by
    decide +kernel
  refine ⟨by decide +kernel, hrules, ?_⟩
  rintro ⟨result, t, tactics, made, hrun, hmade, -, hwanted, hfor⟩
  have hfew : ∀ tactic ∈ TACTIC_PHRASES.map Prod.fst,
      frequencyOf [urgent "s", urgent "s"] tactic signals < MIN_TACTIC_FREQUENCY := by
    decide +kernel
  have hnone : tactics = [] := by
    refine List.eq_nil_iff_forall_not_mem.mpr fun tactic hmem => ?_
    obtain ⟨henough, hown, -⟩ := (hwanted tactic).mp hmem
    exact Nat.not_lt.mpr henough (hfew tactic hown)
  rw [hnone, List.forall₂_nil_left_iff] at hfor
  rw [hrun, hmade, hfor] at hrules
  cases hrules

/-- One report of each of two signals. -/
theorem suggestsWanted_iff_urgent :
    SuggestsWanted runtime signals [urgent "s", urgent "t"] officer none store ↔
      OnceEach signals [urgent "s", urgent "t"] store :=
  suggestsWanted_iff runtime signals [urgent "s", urgent "t"] officer none store fresh_store
    (by decide) (by decide +kernel)

end Sample

end DetectionRules
