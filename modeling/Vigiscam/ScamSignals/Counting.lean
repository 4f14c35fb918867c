import Mathlib.Data.Fin.VecNotation
import Vigiscam.Concurrency.Contract
import Vigiscam.ScamSignals.Verdicts

/-!
# Reports are counted

Intake looks up the signal of a report, and then counts the report on the signal that it has
found or creates one. Between the two another report of the indicator can be stored: then the
signal is created a second time (`first_reports_fork`), or the other report is not counted
(`repeat_report_lost`). Where no report finds on storing it that another one was stored since
its lookup, there is one signal for the indicator, and its count is right (`reports_counted`).
-/

namespace ScamSignals

open Js Concurrency

/-! ## Indicators -/

/-- What reports are merged by. -/
structure Indicator where
  type : IndicatorType
  normalized : Text
deriving DecidableEq

def ScamSignal.indicator (x : ScamSignal) : Indicator := ⟨x.indicatorType, x.normalizedIndicator⟩

def SubmitScamReportDto.indicator (platform : Platform) (dto : SubmitScamReportDto) : Indicator :=
  ⟨dto.indicatorType, normalizeIndicator platform.toLowerCase dto.indicatorType dto.indicatorValue⟩

/-- The indicator that a process reports. -/
def Process.indicator (platform : Platform) : Process → Option Indicator
  | report dto _ | partnerReport _ dto _ | moduleReport dto _ _ _ => some (dto.indicator platform)
  | assign _ _ _ | review _ _ _ _ | clock _ => none

/-! ## Tables of counts -/

/-- What a signal says of the reports of its indicator. -/
structure Count where
  id : Uuid
  indicator : Indicator
  reports : Nat

def ScamSignal.count (x : ScamSignal) : Count := ⟨x.id, x.indicator, x.reportCount⟩

def counted (s : Store) : List Count := s.signals.map ScamSignal.count

/-- The counts of the signals of an indicator. -/
def countsOf (k : Indicator) (rows : List Count) : List Nat :=
  (rows.filter (·.indicator = k)).map (·.reports)

/-- One count where something was reported, and none where nothing was. -/
def tally : Nat → List Nat
  | 0 => []
  | n + 1 => [n + 1]

section Counts

variable {k : Indicator} {rows : List Count} {id : Uuid} {m n : Nat}

theorem eq_of_mem_tally (h : n ∈ tally m) : n = m := by
  cases m with
  | zero => cases h
  | succ m => exact List.mem_singleton.mp h

theorem eq_zero_of_tally (h : tally m = []) : m = 0 := by
  cases m with
  | zero => rfl
  | succ m => cases h

theorem countsOf_append (c : Count) :
    countsOf k (rows ++ [c]) = countsOf k rows ++ if c.indicator = k then [c.reports] else [] := by
  rw [countsOf, List.filter_append, List.map_append]
  by_cases hc : c.indicator = k
  · rw [if_pos hc]
    simp [countsOf, hc]
  · rw [if_neg hc]
    simp [countsOf, hc]

/-- The count of one id is set. -/
def setCount (id : Uuid) (n : Nat) (rows : List Count) : List Count :=
  Table.modify Count.id id (fun c => { c with reports := n }) rows

theorem filter_setCount :
    (setCount id n rows).filter (·.indicator = k) =
      setCount id n (rows.filter (·.indicator = k)) := by
  rw [setCount, Table.modify, List.filter_map]
  have hsame : ((fun c : Count => decide (c.indicator = k)) ∘
      fun c => if c.id = id then { c with reports := n } else c) =
      fun c => decide (c.indicator = k) := by
    funext c
    show decide ((if c.id = id then { c with reports := n } else c).indicator = k) = _
    split <;> rfl
  rw [hsame]
  rfl

theorem setCount_of_notMem (h : id ∉ rows.map Count.id) : setCount id n rows = rows := by
  refine (List.map_congr_left fun c hc => ?_).trans (List.map_id rows)
  exact if_neg fun hid => h (List.mem_map.mpr ⟨c, hc, hid⟩)

/-- The count of another indicator is set. -/
theorem countsOf_setCount_of_ne {c : Count} (hids : (rows.map Count.id).Nodup) (hc : c ∈ rows)
    (hne : c.indicator ≠ k) : countsOf k (setCount c.id n rows) = countsOf k rows := by
  rw [countsOf, filter_setCount, setCount_of_notMem]
  · rfl
  · intro hmem
    obtain ⟨c', hc', hid⟩ := List.mem_map.mp hmem
    obtain ⟨hrow, hindicator⟩ := List.mem_filter.mp hc'
    have hsame : c' = c := List.inj_on_of_nodup_map hids hrow hc hid
    exact hne (hsame ▸ of_decide_eq_true hindicator)

/-- The count of the indicator is set. -/
theorem countsOf_setCount {c : Count} (hcounts : countsOf k rows = tally m) (hc : c ∈ rows)
    (hindicator : c.indicator = k) : countsOf k (setCount c.id n rows) = [n] := by
  have hmem : c ∈ rows.filter (·.indicator = k) :=
    List.mem_filter.mpr ⟨hc, decide_eq_true hindicator⟩
  -- the indicator has one row, and it is the one of the count
  have hone : rows.filter (·.indicator = k) = [c] := by
    rw [countsOf] at hcounts
    cases m with
    | zero =>
      rw [List.map_eq_nil_iff.mp hcounts] at hmem
      cases hmem
    | succ m =>
      obtain ⟨c', hrow, -⟩ := List.map_eq_singleton_iff.mp hcounts
      rw [hrow] at hmem ⊢
      rw [List.mem_singleton.mp hmem]
  rw [countsOf, filter_setCount, hone]
  show [(if c.id = c.id then { c with reports := n } else c).reports] = [n]
  rw [if_pos rfl]

theorem map_id_setCount : (setCount id n rows).map Count.id = rows.map Count.id :=
  Table.map_modify fun _ => rfl

end Counts

/-! ## What a step does to the counts -/

/-- A step that stores no report, and changes no count. -/
def Quiet (l : SignalStep) (s t : Store) : Prop := ¬ l.Stores ∧ counted t = counted s

theorem quiet_of_same {l : SignalStep} {s t : Store} (hl : ¬ l.Stores)
    (h : t.signals = s.signals) : Quiet l s t := by
  refine ⟨hl, ?_⟩
  rw [counted, h]
  rfl

/-- An update that sets a count. -/
theorem counted_modify {s : Store} {id : Uuid} {m : Nat} {f : ScamSignal → ScamSignal}
    (hf : ∀ x, (f x).count = { x.count with reports := m }) :
    counted { s with signals := Table.modify ScamSignal.id id f s.signals } =
      setCount id m (counted s) := by
  show (s.signals.map _).map _ = (s.signals.map _).map _
  rw [List.map_map, List.map_map]
  refine List.map_congr_left fun x _ => ?_
  show (if x.id = id then f x else x).count =
    if x.id = id then { x.count with reports := m } else x.count
  split
  · exact hf x
  · rfl

/-- An update that changes no count. -/
theorem quiet_updateSignal {l : SignalStep} {id : Uuid} {f : Date → ScamSignal → ScamSignal}
    (hl : ¬ l.Stores) (hf : ∀ now x, (f now x).count = x.count) :
    (updateSignal l id f).Each Quiet := by
  refine Prog.Each.attempt (fun s x t hupdate => ?_) fun s _ => quiet_of_same hl rfl
  obtain ⟨x, -, hpair⟩ := Option.map_eq_some_iff.mp hupdate
  obtain ⟨-, rfl⟩ := Prod.mk.inj hpair
  exact ⟨hl, Table.map_modify (hf s.now)⟩

theorem quiet_of_reviewed {α : Type} {p : Program α} (h : p.Each Reviewed) : p.Each Quiet := by
  refine h.mono fun l s t hreviewed => ⟨hreviewed.stores, ?_⟩
  obtain ⟨g, hrows, hg⟩ := hreviewed.rows
  rw [counted, hrows, List.map_map]
  refine List.map_congr_left fun x _ => ?_
  show (g x).count = x.count
  rw [hg]
  rfl

theorem quiet_clusterAndRefresh (platform : Platform) (signal : ScamSignal) :
    (clusterAndRefresh platform signal).Each Quiet := by
  refine Prog.Each.tryCatch ?_ fun _ => Prog.Each.pure _
  refine Prog.Each.bind ?_ fun _ =>
    Prog.Each.bind (quiet_of_reviewed (reviewed_read _)) fun _ => Prog.Each.pure _
  unfold clusterSignal
  split
  · trivial
  · split
    · trivial
    · refine Prog.Each.bind ?_ fun _ => Prog.Each.pure _
      exact quiet_updateSignal id fun _ _ => rfl

/-! ## The history of a run -/

/-- What is noted of the reports of one indicator. -/
structure History (ι : Type) where
  /-- The processes that have stored a report, in their order. -/
  stored : List ι
  /-- How many reports were stored when a process last read. -/
  seen : ι → Nat

section Calls

variable {ι : Type} [DecidableEq ι] {platform : Platform} {process : ι → Process} {k : Indicator}
  {i j : ι} {n : Nat} {x y : Store × History ι}

/-- A read is noted, and a report of the indicator that finds its signal, or a free id. -/
def noteReport (platform : Platform) (process : ι → Process) (k : Indicator) (i : ι)
    (l : SignalStep) (s : Store) (history : History ι) : History ι :=
  match l with
  | .read => { history with seen := Function.update history.seen i history.stored.length }
  | .create =>
    if (process i).indicator platform = some k ∧ s.uuid s.issued ∉ s.signals.map ScamSignal.id then
      { history with stored := history.stored ++ [i] }
    else history
  | .merge id =>
    if (process i).indicator platform = some k ∧ id ∈ s.signals.map ScamSignal.id then
      { history with stored := history.stored ++ [i] }
    else history
  | .queue | .append | .publish | .link _ | .decide _ _ => history

/-- Processes at their start; nothing is noted. -/
def reporting (platform : Platform) (process : ι → Process) (k : Indicator) (s : Store) :
    Pool ι (Store × History ι) (Prog (Store × History ι) SignalStep HttpError Unit) where
  shared := (s, ⟨[], fun _ => 0⟩)
  locals i := ((process i).program platform).noting (noteReport platform process k i)

/-- A report of the indicator is stored when none was stored since its lookup. -/
def LookupCurrent (platform : Platform) (process : ι → Process) (k : Indicator) (i : ι)
    (l : SignalStep) (x : Store × History ι) : Prop :=
  l.Stores → (process i).indicator platform = some k → x.2.seen i = x.2.stored.length

instance (i : ι) (l : SignalStep) (x : Store × History ι) :
    Decidable (LookupCurrent platform process k i l x) :=
  inferInstanceAs (Decidable (_ → _ → _))

/-! ## What a call relies on -/

/-- The signals of an indicator agree with the reports of it, of which `n` came before. -/
structure Exact (platform : Platform) (process : ι → Process) (k : Indicator) (n : Nat)
    (x : Store × History ι) : Prop where
  ids : ((counted x.1).map Count.id).Nodup
  counts : countsOf k (counted x.1) = tally (n + x.2.stored.length)
  once : x.2.stored.Nodup
  reported : ∀ i ∈ x.2.stored, (process i).indicator platform = some k

/-- A signal stays there, with its indicator. -/
def Present (id : Uuid) (indicator : Indicator) (rows : List Count) : Prop :=
  ∃ c ∈ rows, c.id = id ∧ c.indicator = indicator

/-- What the others leave to the call `i`. -/
structure Leaves (i : ι) (x y : Store × History ι) : Prop where
  present : ∀ id indicator, Present id indicator (counted x.1) →
    Present id indicator (counted y.1)
  seen : y.2.seen i = x.2.seen i
  stored : i ∈ y.2.stored ↔ i ∈ x.2.stored

def intaker (platform : Platform) (process : ι → Process) (k : Indicator) (i : ι) :
    Contract (Store × History ι) SignalStep where
  may := LookupCurrent platform process k i
  rely := Leaves i
  guar x y := ∀ j, j ≠ i → Leaves j x y

omit [DecidableEq ι] in
theorem closed_leaves : Closed (Leaves (ι := ι) i) where
  refl _ := ⟨fun _ _ h => h, rfl, Iff.rfl⟩
  trans h h' := ⟨fun id k hpresent => h'.present id k (h.present id k hpresent),
    h'.seen.trans h.seen, h'.stored.trans h.stored⟩

/-! ## Steps within the contract -/

/-- The rows after a step keep their ids distinct, and every signal its indicator. -/
structure Grows (rows rows' : List Count) : Prop where
  ids : (rows'.map Count.id).Nodup
  present : ∀ id indicator, Present id indicator rows → Present id indicator rows'

omit [DecidableEq ι] in
/-- A report of the indicator is stored, and counted. -/
theorem within_counted {s : Store} (hx : Exact platform process k n x)
    (hreports : (process i).indicator platform = some k) (hnew : i ∉ x.2.stored)
    (hgrows : Grows (counted x.1) (counted s))
    (hcounts : countsOf k (counted s) = [n + x.2.stored.length + 1]) :
    Prog.Within (Exact platform process k n) (intaker platform process k i) x
      (s, { x.2 with stored := x.2.stored ++ [i] }) := by
  refine ⟨⟨hgrows.ids, ?_, ?_, fun j hj => ?_⟩, fun j hj => ⟨hgrows.present, rfl, ?_⟩⟩
  · show countsOf k (counted s) = tally (n + (x.2.stored ++ [i]).length)
    rw [List.length_append]
    exact hcounts
  · show (x.2.stored ++ [i]).Nodup
    rw [← List.concat_eq_append]
    exact hx.once.concat hnew
  · rcases List.mem_append.mp hj with hj | hj
    · exact hx.reported j hj
    · rw [List.mem_singleton.mp hj]
      exact hreports
  · show j ∈ x.2.stored ++ [i] ↔ j ∈ x.2.stored
    simp [hj]

omit [DecidableEq ι] in
/-- A step that leaves the counts of the indicator alone, and the reports of it. -/
theorem within_uncounted {s : Store} {history : History ι} (hx : Exact platform process k n x)
    (hgrows : Grows (counted x.1) (counted s))
    (hcounts : countsOf k (counted s) = countsOf k (counted x.1))
    (hstored : history.stored = x.2.stored) (hseen : ∀ j, j ≠ i → history.seen j = x.2.seen j) :
    Prog.Within (Exact platform process k n) (intaker platform process k i) x (s, history) := by
  refine ⟨⟨hgrows.ids, ?_, ?_, ?_⟩, fun j hj => ⟨hgrows.present, hseen j hj, ?_⟩⟩
  · show countsOf k (counted s) = tally (n + history.stored.length)
    rw [hcounts, hstored]
    exact hx.counts
  · show history.stored.Nodup
    rw [hstored]
    exact hx.once
  · show ∀ j ∈ history.stored, _
    rw [hstored]
    exact hx.reported
  · show j ∈ history.stored ↔ j ∈ x.2.stored
    rw [hstored]

theorem within_quiet {l : SignalStep} {s : Store} (hx : Exact platform process k n x)
    (h : Quiet l x.1 s) :
    Prog.Within (Exact platform process k n) (intaker platform process k i) x
        (s, noteReport platform process k i l x.1 x.2) ∧
      (noteReport platform process k i l x.1 x.2).stored = x.2.stored := by
  obtain ⟨hl, hsame⟩ := h
  have hstored : (noteReport platform process k i l x.1 x.2).stored = x.2.stored := by
    cases l with
    | create | merge _ => exact absurd trivial hl
    | read | queue | append | publish | link _ | decide _ _ => rfl
  have hseen : ∀ j, j ≠ i → (noteReport platform process k i l x.1 x.2).seen j = x.2.seen j := by
    intro j hj
    cases l with
    | create | merge _ => exact absurd trivial hl
    | read => exact Function.update_of_ne hj ..
    | queue | append | publish | link _ | decide _ _ => rfl
  refine ⟨within_uncounted hx ?_ (congrArg (countsOf k) hsame) hstored hseen, hstored⟩
  rw [hsame]
  exact ⟨hx.ids, fun _ _ h => h⟩

/-- What a call knows of the signal that it has found. -/
structure Found (k : Indicator) (n : Nat) (i : ι) (reported : Indicator) (e : ScamSignal)
    (x : Store × History ι) : Prop where
  present : Present e.id reported (counted x.1)
  count : reported = k → e.reportCount = n + x.2.seen i

/-- What the report of an indicator has brought about when it is stored. -/
def IsStored (k : Indicator) (i : ι) (reported : Indicator) (x : Store × History ι) : Prop :=
  reported = k → i ∈ x.2.stored

theorem mem_ids_of_present {s : Store} {id : Uuid} {reported : Indicator}
    (h : Present id reported (counted s)) : id ∈ s.signals.map ScamSignal.id := by
  obtain ⟨c, hc, hid, -⟩ := h
  obtain ⟨signal, hsignal, rfl⟩ := List.mem_map.mp hc
  exact List.mem_map.mpr ⟨signal, hsignal, hid⟩

theorem grows_setCount {rows : List Count} {id : Uuid} {m : Nat}
    (hids : (rows.map Count.id).Nodup) : Grows rows (setCount id m rows) where
  ids := by
    rw [map_id_setCount]
    exact hids
  present id' indicator hpresent := by
    obtain ⟨c, hc, hid, hindicator⟩ := hpresent
    refine ⟨_, Table.mem_modify.mpr ⟨c, hc, rfl⟩, ?_, ?_⟩
    · split
      · exact hid
      · exact hid
    · split
      · exact hindicator
      · exact hindicator

/-- A report is counted on the signal that was found. -/
theorem within_merge {reported : Indicator} {e : ScamSignal} {s : Store}
    (hx : Exact platform process k n x) (hreports : (process i).indicator platform = some reported)
    (hnew : i ∉ x.2.stored) (hmay : LookupCurrent platform process k i (.merge e.id) x)
    (hfound : Found k n i reported e x)
    (hs : counted s = setCount e.id (e.reportCount + 1) (counted x.1)) :
    Prog.Within (Exact platform process k n) (intaker platform process k i) x
        (s, noteReport platform process k i (.merge e.id) x.1 x.2) ∧
      IsStored k i reported (s, noteReport platform process k i (.merge e.id) x.1 x.2) := by
  have hmem := mem_ids_of_present hfound.present
  have hgrows : Grows (counted x.1) (counted s) := by
    rw [hs]
    exact grows_setCount hx.ids
  obtain ⟨c, hc, hid, hindicator⟩ := hfound.present
  by_cases hk : reported = k
  · subst hk
    have hseen := hmay trivial hreports
    have hnote : noteReport platform process reported i (.merge e.id) x.1 x.2 =
        { x.2 with stored := x.2.stored ++ [i] } := if_pos ⟨hreports, hmem⟩
    rw [hnote]
    refine ⟨within_counted hx hreports hnew hgrows ?_, fun _ => ?_⟩
    · rw [hs, hfound.count rfl, hseen, ← hid]
      exact countsOf_setCount hx.counts hc hindicator
    · exact List.mem_append_right _ (List.mem_singleton_self i)
  · have hother : (process i).indicator platform ≠ some k := by
      rw [hreports]
      exact fun h => hk (Option.some.inj h)
    have hnote : noteReport platform process k i (.merge e.id) x.1 x.2 = x.2 :=
      if_neg fun h => hother h.1
    rw [hnote]
    refine ⟨within_uncounted hx hgrows ?_ rfl fun _ _ => rfl, fun h => absurd h hk⟩
    rw [hs, ← hid]
    exact countsOf_setCount_of_ne hx.ids hc (hindicator ▸ hk)

/-- A report is stored as a new signal. -/
theorem within_create {reported : Indicator} {s : Store} (signal : ScamSignal)
    (hx : Exact platform process k n x) (hreports : (process i).indicator platform = some reported)
    (hnew : i ∉ x.2.stored) (hmay : LookupCurrent platform process k i .create x)
    (hnone : reported = k → n + x.2.seen i = 0)
    (hfresh : x.1.uuid x.1.issued ∉ x.1.signals.map ScamSignal.id)
    (hid : signal.id = x.1.uuid x.1.issued) (hindicator : signal.indicator = reported)
    (hcount : signal.reportCount = 1) (hs : s.signals = x.1.signals ++ [signal]) :
    Prog.Within (Exact platform process k n) (intaker platform process k i) x
        (s, noteReport platform process k i .create x.1 x.2) ∧
      IsStored k i reported (s, noteReport platform process k i .create x.1 x.2) := by
  have hrows : counted s = counted x.1 ++ [⟨signal.id, reported, 1⟩] := by
    rw [counted, hs, List.map_append]
    show _ ++ [signal.count] = _
    rw [ScamSignal.count, hindicator, hcount]
    rfl
  have hids : (counted x.1).map Count.id = x.1.signals.map ScamSignal.id := List.map_map
  have hgrows : Grows (counted x.1) (counted s) := by
    rw [hrows]
    refine ⟨?_, fun id indicator ⟨c, hc, h⟩ => ⟨c, List.mem_append_left _ hc, h⟩⟩
    rw [List.map_append, hids]
    show (_ ++ [signal.id]).Nodup
    rw [← List.concat_eq_append, hid]
    exact (hids ▸ hx.ids).concat hfresh
  by_cases hk : reported = k
  · subst hk
    have hseen := hmay trivial hreports
    have hzero : n + x.2.stored.length = 0 := by
      rw [← hseen]
      exact hnone rfl
    have hnote : noteReport platform process reported i .create x.1 x.2 =
        { x.2 with stored := x.2.stored ++ [i] } := if_pos ⟨hreports, hfresh⟩
    rw [hnote]
    refine ⟨within_counted hx hreports hnew hgrows ?_, fun _ => ?_⟩
    · rw [hrows, countsOf_append, if_pos rfl, hx.counts, hzero]
      rfl
    · exact List.mem_append_right _ (List.mem_singleton_self i)
  · have hother : (process i).indicator platform ≠ some k := by
      rw [hreports]
      exact fun h => hk (Option.some.inj h)
    have hnote : noteReport platform process k i .create x.1 x.2 = x.2 :=
      if_neg fun h => hother h.1
    rw [hnote]
    refine ⟨within_uncounted hx hgrows ?_ rfl fun _ _ => rfl, fun h => absurd h hk⟩
    rw [hrows, countsOf_append, if_neg hk, List.append_nil]

/-! ## Calls -/

/-- Steps that store nothing bring about what holds already. -/
theorem ensures_quiet {α : Type} {p : Program α} {post : α → Store × History ι → Prop}
    (hp : p.Each Quiet) (hpost : ∀ a y, (i ∈ x.2.stored → i ∈ y.2.stored) → post a y) :
    (p.noting (noteReport platform process k i)).Ensures (Exact platform process k n)
      (intaker platform process k i) post x := by
  refine Prog.Ensures.each_within (R := fun x y : Store × History ι =>
    i ∈ x.2.stored → i ∈ y.2.stored) ⟨fun _ h => h, fun h h' hi => h' (h hi)⟩
    (fun _ _ h => h.stored.mpr) ?_ hpost
  refine (hp.noting _).mono ?_
  rintro l y ⟨s, history⟩ ⟨hquiet, hnote⟩ hy
  obtain rfl : history = _ := hnote
  obtain ⟨hwithin, hstored⟩ := @within_quiet ι _ platform process k i n y l s hy hquiet
  refine ⟨hwithin, fun hi => ?_⟩
  show i ∈ (noteReport platform process k i l y.1 y.2).stored
  rw [hstored]
  exact hi

/-- A read of the call. -/
theorem ensures_read {α β : Type} {f : Store → α} {rest : α → Program β}
    {post : β → Store × History ι → Prop}
    (h : ∀ y, Exact platform process k n y → Leaves i x y →
      ((rest (f y.1)).noting (noteReport platform process k i)).Ensures (Exact platform process k n)
        (intaker platform process k i) post
          (y.1, { y.2 with seen := Function.update y.2.seen i y.2.stored.length })) :
    ((read f >>= rest).noting (noteReport platform process k i)).Ensures
      (Exact platform process k n) (intaker platform process k i) post x := by
  rw [Prog.noting_bind, read, Prog.noting_act]
  refine Prog.Ensures.act_bind fun y hxy hy _ => ⟨?_, h y hy hxy⟩
  exact (within_quiet (l := .read) hy (quiet_of_same id rfl)).1

/-- What the lookup of a report gives to know. -/
def LookedUp (k : Indicator) (n : Nat) (i : ι) (reported : Indicator) (x : Store × History ι) :
    Option ScamSignal → Prop
  | some e => Found k n i reported e x
  | none => reported = k → n + x.2.seen i = 0

theorem lookedUp_findExisting {dto : SubmitScamReportDto} (hy : Exact platform process k n y) :
    LookedUp k n i (dto.indicator platform)
      (y.1, { y.2 with seen := Function.update y.2.seen i y.2.stored.length })
      (findExisting platform dto y.1) := by
  have hcounts := hy.counts
  cases hfound : findExisting platform dto y.1 with
  | some e =>
    have hmem : e ∈ y.1.signals := List.mem_of_find?_eq_some hfound
    have hrow : e.count ∈ counted y.1 := List.mem_map_of_mem hmem
    have hindicator : e.indicator = dto.indicator platform := by
      have hkeys := List.find?_some hfound
      simp only [Bool.and_eq_true, decide_eq_true_eq] at hkeys
      rw [ScamSignal.indicator, hkeys.1, hkeys.2]
      rfl
    refine ⟨⟨e.count, hrow, rfl, hindicator⟩, fun hk => ?_⟩
    show e.reportCount = n + Function.update y.2.seen i y.2.stored.length i
    rw [Function.update_self]
    have hmem : e.reportCount ∈ countsOf k (counted y.1) :=
      List.mem_map.mpr ⟨e.count,
        List.mem_filter.mpr ⟨hrow, decide_eq_true (hindicator.trans hk)⟩, rfl⟩
    rw [hcounts] at hmem
    exact eq_of_mem_tally hmem
  | none =>
    intro hk
    show n + Function.update y.2.seen i y.2.stored.length i = 0
    rw [Function.update_self]
    refine eq_zero_of_tally (hcounts ▸ ?_)
    rw [countsOf, List.map_eq_nil_iff, List.filter_eq_nil_iff]
    intro c hc hkeys
    obtain ⟨e, he, rfl⟩ := List.mem_map.mp hc
    have hindicator : e.indicator = dto.indicator platform :=
      (of_decide_eq_true hkeys).trans hk.symm
    refine List.find?_eq_none.mp hfound e he ?_
    simp only [Bool.and_eq_true, decide_eq_true_eq]
    exact ⟨congrArg Indicator.normalized hindicator, congrArg Indicator.type hindicator⟩

omit [DecidableEq ι] in
theorem LookedUp.after {reported : Indicator} {existing : Option ScamSignal}
    (h : LookedUp k n i reported x existing) (hxy : Leaves i x y) :
    LookedUp k n i reported y existing := by
  cases existing with
  | some e =>
    refine ⟨hxy.present _ _ h.present, fun hk => ?_⟩
    rw [hxy.seen]
    exact h.count hk
  | none =>
    intro hk
    rw [hxy.seen]
    exact h hk

/-- The step that stores a report stores it right. -/
theorem mergeOrCreate_ensures {opts : IntakeOptions} {base : Int} {existing : Option ScamSignal}
    (hreports : (process i).indicator platform = some (opts.dto.indicator platform))
    (hnew : i ∉ x.2.stored) (hlooked : LookedUp k n i (opts.dto.indicator platform) x existing) :
    ((mergeOrCreate platform opts base existing).noting (noteReport platform process k i)).Ensures
      (Exact platform process k n) (intaker platform process k i)
      (fun _ y => IsStored k i (opts.dto.indicator platform) y) x := by
  have hkeeps : ∀ y z, Leaves i y z → IsStored k i (opts.dto.indicator platform) y →
      IsStored k i (opts.dto.indicator platform) z := fun y z hyz h hk => hyz.stored.mpr (h hk)
  cases existing with
  | some e =>
    show Prog.Ensures _ _ _ (Prog.noting _ (mergeReport opts.dto base e >>= fun signal =>
      pure (signal, true))) _
    rw [Prog.noting_bind, mergeReport, updateSignal]
    refine Prog.Ensures.noting_attempt_bind (fun y signal s hxy hy hmay hupdate => ?_) ?_
    · obtain ⟨row, -, hpair⟩ := Option.map_eq_some_iff.mp hupdate
      obtain ⟨-, rfl⟩ := Prod.mk.inj hpair
      have hnew' : i ∉ y.2.stored := fun hi => hnew (hxy.stored.mp hi)
      refine And.imp_right ?_ (within_merge hy hreports hnew' hmay (hlooked.after hxy)
        (counted_modify fun _ => rfl))
      exact fun hstored => Prog.Ensures.pure fun z hyz => hkeeps _ z hyz hstored
    · intro y hxy hy _ hnone
      have hmissing := Table.find_eq_none_iff.mp (Option.map_eq_none_iff.mp hnone)
      exact absurd (mem_ids_of_present (hxy.present _ _ hlooked.present)) hmissing
  | none =>
    show Prog.Ensures _ _ _ (Prog.noting _ (createSignal (newSignal platform opts base) >>=
      fun signal => pure (signal, false))) _
    rw [Prog.noting_bind, createSignal]
    refine Prog.Ensures.noting_attempt_bind (fun y signal s hxy hy hmay hcreate => ?_) ?_
    · dsimp only at hcreate
      split at hcreate
      · cases hcreate
      · rename_i hfresh
        obtain ⟨rfl, rfl⟩ := Prod.mk.inj (Option.some.inj hcreate)
        have hnew' : i ∉ y.2.stored := fun hi => hnew (hxy.stored.mp hi)
        refine And.imp_right ?_ (within_create
          (newSignal platform opts base y.1.now (y.1.uuid y.1.issued)) hy hreports hnew' hmay
          (hlooked.after hxy) hfresh rfl rfl rfl rfl)
        exact fun hstored => Prog.Ensures.pure fun z hyz => hkeeps _ z hyz hstored
    · intro y hxy hy _ hnone
      dsimp only at hnone
      split at hnone
      · rename_i htaken
        have hnote : noteReport platform process k i .create y.1 y.2 = y.2 :=
          if_neg fun h => h.2 htaken
        rw [hnote]
        exact within_uncounted hy ⟨hy.ids, fun _ _ h => h⟩ rfl rfl fun _ _ => rfl
      · cases hnone

theorem intake_ensures {opts : IntakeOptions}
    (hreports : (process i).indicator platform = some (opts.dto.indicator platform))
    (hnew : i ∉ x.2.stored) :
    ((intake platform opts).noting (noteReport platform process k i)).Ensures
      (Exact platform process k n) (intaker platform process k i)
      (fun _ y => IsStored k i (opts.dto.indicator platform) y) x := by
  rw [intake]
  refine ensures_read fun y _ hxy => ?_
  refine ensures_read fun z hz hyz => ?_
  rw [Prog.noting_bind]
  refine Prog.Ensures.bind closed_leaves (mergeOrCreate_ensures hreports (fun hi => ?_)
    (lookedUp_findExisting hz)) fun merged u hstored => ?_
  · exact hnew (hxy.stored.mp (hyz.stored.mp hi))
  · -- the rest of intake is about the cluster, the queue and the evidence
    refine ensures_quiet ?_ fun _ v hkept hk => hkept (hstored hk)
    refine Prog.Each.bind (quiet_of_reviewed (reviewed_appendEvidence _)) fun _ => ?_
    refine Prog.Each.bind (quiet_clusterAndRefresh _ _) fun signal => ?_
    exact Prog.Each.bind (quiet_of_reviewed (reviewed_queueForReview signal)) fun _ =>
      Prog.Each.pure _

/-- A result that is made of what intake returns. -/
theorem ensures_map {α β : Type} {p : Program α} {f : α → β} {reported : Indicator}
    (hp : (p.noting (noteReport platform process k i)).Ensures (Exact platform process k n)
      (intaker platform process k i) (fun _ y => IsStored k i reported y) x) :
    ((f <$> p).noting (noteReport platform process k i)).Ensures (Exact platform process k n)
      (intaker platform process k i) (fun _ y => IsStored k i reported y) x := by
  show Prog.Ensures _ _ _ (Prog.noting _ (p >>= fun a => pure (f a))) _
  rw [Prog.noting_bind]
  refine Prog.Ensures.bind closed_leaves hp fun a y hstored => Prog.Ensures.pure fun z hyz hk => ?_
  exact hyz.stored.mpr (hstored hk)

/-- A process that has returned has stored its report. -/
def Process.Done (platform : Platform) (process : ι → Process) (k : Indicator) (i : ι)
    (x : Store × History ι) : Prop :=
  (process i).indicator platform = some k → i ∈ x.2.stored

theorem program_ensures (hnew : i ∉ x.2.stored) :
    (((process i).program platform).noting (noteReport platform process k i)).Ensures
      (Exact platform process k n) (intaker platform process k i)
      (fun _ y => Process.Done platform process k i y) x := by
  -- a process that stores its report is done with it
  have hdone : ∀ {p : Program Unit} {reported : Indicator},
      (process i).indicator platform = some reported →
      (p.noting (noteReport platform process k i)).Ensures (Exact platform process k n)
        (intaker platform process k i) (fun _ y => IsStored k i reported y) x →
      (p.noting (noteReport platform process k i)).Ensures (Exact platform process k n)
        (intaker platform process k i) (fun _ y => Process.Done platform process k i y) x := by
    intro p reported hreports hp
    refine hp.mono fun _ y hstored hk => hstored ?_
    exact Option.some.inj (hreports.symm.trans hk)
  -- and a process that reports nothing has nothing to do
  have hidle : ∀ {p : Program Unit}, (process i).indicator platform = none → p.Each Quiet →
      (p.noting (noteReport platform process k i)).Ensures (Exact platform process k n)
        (intaker platform process k i) (fun _ y => Process.Done platform process k i y) x := by
    intro p hnone hp
    refine ensures_quiet hp fun _ y _ hk => ?_
    rw [hnone] at hk
    cases hk
  cases hprocess : process i with
  | report dto ip =>
    have hreports : (process i).indicator platform = some (dto.indicator platform) := by
      rw [hprocess]
      rfl
    exact hdone hreports (ensures_map (ensures_map (intake_ensures hreports hnew)))
  | partnerReport partner dto ip =>
    have hreports : (process i).indicator platform = some (dto.indicator platform) := by
      rw [hprocess]
      rfl
    refine hdone hreports (ensures_map ?_)
    rw [submitPartnerReport]
    refine ensures_read fun y _ hxy => ?_
    have hnew' : i ∉ y.2.stored := fun hi => hnew (hxy.stored.mp hi)
    cases y.1.tenants partner.tenantId with
    | none => trivial
    | some type => exact ensures_map (intake_ensures hreports hnew')
  | moduleReport dto tenantId submittedByUserId sourceModule =>
    have hreports : (process i).indicator platform = some (dto.indicator platform) := by
      rw [hprocess]
      rfl
    exact hdone hreports (ensures_map (intake_ensures hreports hnew))
  | assign reviewer queueId ip =>
    refine hidle (by rw [hprocess]; rfl) ?_
    exact Prog.Each.bind (quiet_of_reviewed (reviewed_assign ..)) fun _ => Prog.Each.pure _
  | review reviewer signalId dto ip =>
    refine hidle (by rw [hprocess]; rfl) ?_
    exact Prog.Each.bind (quiet_of_reviewed (reviewed_reviewSignal ..)) fun _ => Prog.Each.pure _
  | clock now =>
    exact hidle (by rw [hprocess]; rfl) (Prog.Each.act fun _ => quiet_of_same id rfl)

/-! ## Runs -/

/-- There is one signal for the indicator if it was reported, and its count is the number of the
reports that are stored, of which every call has stored at most one; a call that has returned has
stored its report. -/
structure ReportsCounted (platform : Platform) (process : ι → Process) (k : Indicator) (n : Nat)
    (t : Pool ι (Store × History ι) (Prog (Store × History ι) SignalStep HttpError Unit)) :
    Prop where
  counts : countsOf k (counted t.shared.1) = tally (n + t.shared.2.stored.length)
  once : t.shared.2.stored.Nodup
  reported : ∀ i ∈ t.shared.2.stored, (process i).indicator platform = some k
  returned : ∀ i, (process i).indicator platform = some k → t.locals i = .pure () →
    i ∈ t.shared.2.stored

/-- **Reports are counted.** In every interleaving of the steps of any number of processes, of
which every report of the indicator is stored when none was stored since its lookup, there is one
signal for the indicator, if it was reported, and its count is the number of reports; `n` of them
came before the run. -/
theorem reports_counted {s : Store} (hids : (s.signals.map ScamSignal.id).Nodup)
    (hstart : countsOf k (counted s) = tally n)
    {t : Pool ι (Store × History ι) (Prog (Store × History ι) SignalStep HttpError Unit)}
    (hrun : Pool.Run (Prog.interleavedBy (LookupCurrent platform process k))
      (reporting platform process k s) t) : ReportsCounted platform process k n t := by
  have hexact : Exact platform process k n (s, ⟨[], fun _ => 0⟩) :=
    ⟨List.map_map.symm ▸ hids, hstart, List.nodup_nil, fun _ h => absurd h List.not_mem_nil⟩
  obtain ⟨hexact, hends⟩ := Run.ensures (c := intaker platform process k)
    (fun i _ y => Process.Done platform process k i y) hrun (fun _ => closed_leaves)
    (fun _ x _ _ => closed_leaves.refl x) (fun _ j _ _ hj hguar => hguar j hj) hexact
    fun i => program_ensures List.not_mem_nil
  refine ⟨hexact.counts, hexact.once, hexact.reported, fun i hreports hreturned => ?_⟩
  have hend := hends i
  rw [hreturned] at hend
  exact hend _ (closed_leaves.refl _) hreports

end Calls

/-! ## Reports of one phone -/

def phone : Text := "(555) 123-4567"

def sampleIndicator : Indicator := (SubmitScamReportDto.indicator plainPlatform
  ⟨.phone, phone, none, none, none, none⟩)

/-- Three reports of a phone, of which one is in another spelling. -/
def phoneReports : Fin 3 → Process :=
  ![reportOf .phone phone, reportOf .phone "555-123-4567", reportOf .phone phone]

def sampleReports :
    Pool (Fin 3) (Store × History (Fin 3))
      (Prog (Store × History (Fin 3)) SignalStep HttpError Unit) :=
  reporting plainPlatform phoneReports sampleIndicator emptyStore

/-- One report after the other. -/
theorem reports_counted_in_turn :
    countsOf sampleIndicator
        (counted (Prog.turns sampleReports [(0, 6), (1, 6), (2, 8)]).shared.1) = [3] ∧
      ReportsCounted plainPlatform phoneReports sampleIndicator 0
        (Prog.turns sampleReports [(0, 6), (1, 6), (2, 8)]) := by
  refine ⟨by decide +kernel, reports_counted (s := emptyStore) List.nodup_nil rfl ?_⟩
  exact Prog.run_turns .refl (by decide +kernel)

/-- Two first reports look up the phone before either of them is stored: there are two signals. -/
theorem first_reports_fork :
    ∃ t, Pool.Run (Prog.interleavedBy fun _ _ _ => True) sampleReports t ∧
      (∀ i, i ≠ 2 → t.locals i = .pure ()) ∧ t.shared.2.stored = [0, 1] ∧
      countsOf sampleIndicator (counted t.shared.1) = [1, 1] ∧
      ¬ ReportsCounted plainPlatform phoneReports sampleIndicator 0 t := by
  have hstored : (Prog.turns sampleReports [(0, 2), (1, 2), (0, 4), (1, 4)]).shared.2.stored =
      [0, 1] := by decide +kernel
  have hcounts : countsOf sampleIndicator
      (counted (Prog.turns sampleReports [(0, 2), (1, 2), (0, 4), (1, 4)]).shared.1) = [1, 1] := by
    decide +kernel
  refine ⟨_, Prog.run_turns .refl (Prog.permittedTurns_true ..), fun i hi => ?_, hstored, hcounts,
    fun hcounted => ?_⟩
  · match i with
    | 0 => rfl
    | 1 => rfl
    | 2 => exact absurd rfl hi
  · have hone := hcounted.counts
    rw [hcounts, hstored] at hone
    exact absurd hone (by decide)

/-- Two repeated reports look up the signal before either of them is stored: one is not counted. -/
theorem repeat_report_lost :
    ∃ t, Pool.Run (Prog.interleavedBy fun _ _ _ => True) sampleReports t ∧
      (∀ i, t.locals i = .pure ()) ∧ t.shared.2.stored = [0, 1, 2] ∧
      countsOf sampleIndicator (counted t.shared.1) = [2] := by
  refine ⟨Prog.turns sampleReports [(0, 6), (1, 2), (2, 2), (1, 4), (2, 4)],
    Prog.run_turns .refl (Prog.permittedTurns_true ..), fun i => ?_, by decide +kernel,
    by decide +kernel⟩
  match i with
  | 0 => rfl
  | 1 => rfl
  | 2 => rfl

end ScamSignals
