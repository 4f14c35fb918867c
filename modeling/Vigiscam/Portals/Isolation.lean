import Vigiscam.Concurrency.Owned
import Vigiscam.Concurrency.Unwinding
import Vigiscam.Portals.Desk

/-!
# What an institution sees of the others

Two stores are `Alike` for a tenant where they have the same rows of the tenant, whatever they
have of others. What an employee of the tenant does is similar from stores that are alike
(`similar_recordScore`, `similar_reviewSubject`), and what an employee of another tenant does is
hidden (`hidden_recordScore`, `hidden_reviewSubject`): a review begins with a case that is found
by its id alone, and what it says to a case of somebody else is what it says to no case at all.
-/

namespace Portals

open Js Value Concurrency EvidenceVault
open Protection (RiskLevel)

/-- The ids of a sample: each tenant's are told by its own id. -/
def sampleIds : Uuid → Nat → Uuid := unaryThen (0x30 : CodeUnit) 0x31 id

theorem sampleIds_distinguished : Distinguished sampleIds :=
  distinguished_unaryThen (by decide) Function.injective_id

section View

variable {ω χ δ : Type} {ids : Uuid → Nat → Uuid} {W : ω → ω → Prop} {T : Uuid}
  {x y : Store ω χ δ}

/-- The rows of the portal have ids that their tenants have drawn. -/
structure Tidy (ids : Uuid → Nat → Uuid) (s : Store ω χ δ) : Prop where
  uuid : s.uuid = ids
  scores : ∀ row ∈ s.scores, ∃ n, row.id = ids row.tenantId n
  reviews : ∀ row ∈ s.reviews, ∃ n, row.id = ids row.tenantId n

/-- The two stores have the same rows of the tenant. -/
structure Alike (ids : Uuid → Nat → Uuid) (W : ω → ω → Prop) (T : Uuid) (x y : Store ω χ δ) :
    Prop where
  left : Tidy ids x
  right : Tidy ids y
  world : W x.world y.world
  scores : Table.owned Scored.tenantId T x.scores = Table.owned Scored.tenantId T y.scores
  reviews : Table.owned Review.tenantId T x.reviews = Table.owned Review.tenantId T y.reviews
  evidence : Table.owned (·.input.tenantId) (some T) x.evidence =
    Table.owned (·.input.tenantId) (some T) y.evidence
  now : x.now = y.now
  issued : x.issued T = y.issued T

theorem Alike.next (h : Alike ids W T x y) : x.next T = y.next T := by
  rw [Store.next, Store.next, h.left.uuid, h.right.uuid, h.issued]

theorem Tidy.next (h : Tidy ids x) (tenantId : Uuid) : ∃ n, x.next tenantId = ids tenantId n :=
  ⟨x.issued tenantId, by rw [Store.next, h.uuid]⟩

/-- A row of an id of the tenant's is a row of the tenant. -/
theorem owner_of_drawn (hids : Distinguished ids) {ρ : Type} {key tenantId : ρ → Uuid} {row : ρ}
    {tenant k : Uuid} (hrow : ∃ n, key row = ids (tenantId row) n) (hk : ∃ n, k = ids tenant n)
    (hkey : key row = k) : tenantId row = tenant := by
  obtain ⟨m, hm⟩ := hrow
  obtain ⟨n, hn⟩ := hk
  exact (hids _ _ _ _ (hm.symm.trans (hkey.trans hn))).1

end View

/-! ## The tenant's own -/

section Own

variable {ω χ δ α : Type} {ids : Uuid → Nat → Uuid} {W : ω → ω → Prop} {user : AuthenticatedUser}

/-- The same value, whose id is one that the user's tenant has drawn. -/
def SameDrawn {ρ : Type} (key : ρ → Uuid) (ids : Uuid → Nat → Uuid) (tenantId : Uuid) (a b : ρ) :
    Prop :=
  a = b ∧ ∃ n, key a = ids tenantId n

theorem similar_read {f : Store ω χ δ → α}
    (hf : ∀ x y, Alike ids W user.tenantId x y → f x = f y) :
    Prog.Similar (Alike ids W user.tenantId) Eq (read f) (read f) :=
  Prog.Similar.act fun x y hxy => ⟨hxy, hf x y hxy⟩

/-- The tenant draws the same id. -/
theorem Alike.draw {T : Uuid} {x y : Store ω χ δ} (h : Alike ids W T x y) :
    Alike ids W T (x.draw T) (y.draw T) where
  left := ⟨h.left.uuid, h.left.scores, h.left.reviews⟩
  right := ⟨h.right.uuid, h.right.scores, h.right.reviews⟩
  world := h.world
  scores := h.scores
  reviews := h.reviews
  evidence := h.evidence
  now := h.now
  issued := by
    show Function.update x.issued _ _ _ = Function.update y.issued _ _ _
    rw [Function.update_self, Function.update_self, h.issued]

/-- The tables stay tidy with a row whose id its tenant has just drawn. -/
theorem Tidy.addScore {s : Store ω χ δ} (h : Tidy ids s) (row : Scored χ)
    (hrow : row.id = s.next row.tenantId) :
    Tidy ids { s.draw row.tenantId with scores := s.scores ++ [row] } where
  uuid := h.uuid
  scores row' hrow' := by
    rcases List.mem_append.mp hrow' with hold | hnew
    · exact h.scores row' hold
    · obtain rfl := List.mem_singleton.mp hnew
      exact hrow ▸ h.next _
  reviews := h.reviews

theorem Tidy.addReview {s : Store ω χ δ} (h : Tidy ids s) (row : Review δ)
    (hrow : row.id = s.next row.tenantId) :
    Tidy ids { s.draw row.tenantId with reviews := s.reviews ++ [row] } where
  uuid := h.uuid
  scores := h.scores
  reviews row' hrow' := by
    rcases List.mem_append.mp hrow' with hold | hnew
    · exact h.reviews row' hold
    · obtain rfl := List.mem_singleton.mp hnew
      exact hrow ▸ h.next _

theorem Tidy.setScoreEvidence {s : Store ω χ δ} (h : Tidy ids s) (id eventId : Uuid) :
    Tidy ids { s with
      scores := Table.modify Scored.id id (Scored.withEvidence eventId) s.scores } where
  uuid := h.uuid
  scores row' hrow' := by
    obtain ⟨row, hrow, rfl⟩ := Table.mem_modify.mp hrow'
    split
    · exact h.scores row hrow
    · exact h.scores row hrow
  reviews := h.reviews

theorem Tidy.setReviewEvidence {s : Store ω χ δ} (h : Tidy ids s) (id eventId : Uuid) :
    Tidy ids { s with
      reviews := Table.modify Review.id id (Review.withEvidence eventId) s.reviews } where
  uuid := h.uuid
  scores := h.scores
  reviews row' hrow' := by
    obtain ⟨row, hrow, rfl⟩ := Table.mem_modify.mp hrow'
    split
    · exact h.reviews row hrow
    · exact h.reviews row hrow

theorem similar_appendEvidence (input : AppendEvidenceInput) :
    Prog.Similar (Alike ids W user.tenantId) Eq
      (appendEvidence user.tenantId input : Program ω χ δ Uuid)
      (appendEvidence user.tenantId input) := by
  refine Prog.Similar.act fun x y hxy => ⟨?_, hxy.next⟩
  dsimp only
  rw [hxy.next]
  exact { hxy.draw with
    left := ⟨hxy.left.uuid, hxy.left.scores, hxy.left.reviews⟩
    right := ⟨hxy.right.uuid, hxy.right.scores, hxy.right.reviews⟩
    evidence := Table.owned_append_congr hxy.evidence }

theorem similar_insertScore (riskLevel : RiskLevel) (columns : χ) :
    Prog.Similar (Alike ids W user.tenantId) (SameDrawn Scored.id ids user.tenantId)
      (insertScore user riskLevel columns : Program ω χ δ (Scored χ))
      (insertScore user riskLevel columns) := by
  refine Prog.Similar.act fun x y hxy => ⟨?_, by rw [hxy.next, hxy.now], hxy.left.next _⟩
  dsimp only
  rw [hxy.next, hxy.now]
  exact { hxy.draw with
    left := hxy.left.addScore _ hxy.next.symm
    right := hxy.right.addScore _ rfl
    scores := Table.owned_append_congr hxy.scores }

/-- The tenant finds its own reviews only. -/
theorem findReview_owned {T : Uuid} (subjectId : Uuid) (reviews : List (Review δ)) :
    findReview T subjectId reviews =
      (Table.owned Review.tenantId T reviews).find? fun row =>
        row.tenantId = T ∧ row.subjectId = subjectId :=
  Table.find?_owned fun _ _ h => (of_decide_eq_true h).1

theorem Alike.findReview {T : Uuid} {x y : Store ω χ δ} (h : Alike ids W T x y)
    (subjectId : Uuid) :
    findReview T subjectId x.reviews = findReview T subjectId y.reviews := by
  rw [findReview_owned, findReview_owned, h.reviews]

theorem similar_insertReview (subjectId : Uuid) (decision : δ) (notes : Option Text) :
    Prog.Similar (Alike ids W user.tenantId) (SameDrawn Review.id ids user.tenantId)
      (insertReview user subjectId decision notes : Program ω χ δ (Review δ))
      (insertReview user subjectId decision notes) := by
  refine Prog.Similar.attempt fun x y hxy => ?_
  rw [hxy.findReview]
  cases findReview user.tenantId subjectId y.reviews with
  | some row => exact .none
  | none =>
    refine .some ⟨?_, by rw [hxy.next], hxy.left.next _⟩
    dsimp only
    rw [hxy.next]
    exact { hxy.draw with
      left := hxy.left.addReview _ hxy.next.symm
      right := hxy.right.addReview _ rfl
      reviews := Table.owned_append_congr hxy.reviews }

/-- A row of an id of the tenant's is found alike. -/
theorem find_drawn {ρ : Type} {key tenantId : ρ → Uuid} {T id : Uuid} {rows rows' : List ρ}
    (hids : Distinguished ids) (hid : ∃ n, id = ids T n)
    (hrows : ∀ row ∈ rows, ∃ n, key row = ids (tenantId row) n)
    (hrows' : ∀ row ∈ rows', ∃ n, key row = ids (tenantId row) n)
    (h : Table.owned tenantId T rows = Table.owned tenantId T rows') :
    Table.find key id rows = Table.find key id rows' := by
  have howned : ∀ rows : List ρ, (∀ row ∈ rows, ∃ n, key row = ids (tenantId row) n) →
      Table.find key id rows = Table.find key id (Table.owned tenantId T rows) := fun rows hrows =>
    Table.find?_owned fun row hrow hkey =>
      owner_of_drawn hids (hrows row hrow) hid (of_decide_eq_true hkey)
  rw [howned rows hrows, howned rows' hrows', h]

theorem similar_setScoreEvidence (hids : Distinguished ids) {id : Uuid} (eventId : Uuid)
    (hid : ∃ n, id = ids user.tenantId n) :
    Prog.Similar (Alike ids W user.tenantId) Eq
      (setScoreEvidence id eventId : Program ω χ δ (Scored χ)) (setScoreEvidence id eventId) := by
  refine Prog.Similar.attempt fun x y hxy => ?_
  rw [find_drawn hids hid hxy.left.scores hxy.right.scores hxy.scores]
  cases Table.find Scored.id id y.scores with
  | none => exact .none
  | some row =>
    exact .some ⟨{ hxy with
      left := hxy.left.setScoreEvidence id eventId
      right := hxy.right.setScoreEvidence id eventId
      scores := Table.owned_modify_congr (fun _ => rfl) hxy.scores }, rfl⟩

theorem similar_setReviewEvidence (hids : Distinguished ids) {id : Uuid} (eventId : Uuid)
    (hid : ∃ n, id = ids user.tenantId n) :
    Prog.Similar (Alike ids W user.tenantId) Eq
      (setReviewEvidence id eventId : Program ω χ δ (Review δ)) (setReviewEvidence id eventId) := by
  refine Prog.Similar.attempt fun x y hxy => ?_
  rw [find_drawn hids hid hxy.left.reviews hxy.right.reviews hxy.reviews]
  cases Table.find Review.id id y.reviews with
  | none => exact .none
  | some row =>
    exact .some ⟨{ hxy with
      left := hxy.left.setReviewEvidence id eventId
      right := hxy.right.setReviewEvidence id eventId
      reviews := Table.owned_modify_congr (fun _ => rfl) hxy.reviews }, rfl⟩

/-- **A score** is recorded alike. -/
theorem similar_recordScore (hids : Distinguished ids) (riskLevel : RiskLevel) (columns : χ)
    (event : Scored χ → AppendEvidenceInput) :
    Prog.Similar (Alike ids W user.tenantId) Eq
      (recordScore user riskLevel columns event : Program ω χ δ (Scored χ))
      (recordScore user riskLevel columns event) := by
  refine Prog.Similar.bind (similar_insertScore riskLevel columns) ?_
  rintro row _ ⟨rfl, hid⟩
  refine Prog.Similar.bind (similar_appendEvidence _) ?_
  rintro eventId _ rfl
  exact similar_setScoreEvidence hids eventId hid

theorem similar_recordReview (hids : Distinguished ids) (texts : ReviewTexts) (subjectId : Uuid)
    (decision : δ) (notes : Option Text) (event : Review δ → AppendEvidenceInput) :
    Prog.Similar (Alike ids W user.tenantId) Eq
      (recordReview texts user subjectId decision notes event : Program ω χ δ (Review δ))
      (recordReview texts user subjectId decision notes event) := by
  refine Prog.Similar.bind (similar_read fun x y hxy => hxy.findReview subjectId) ?_
  rintro found _ rfl
  cases found with
  | some row => exact Prog.Similar.throw _
  | none =>
    refine Prog.Similar.bind (similar_insertReview subjectId decision notes) ?_
    rintro row _ ⟨rfl, hid⟩
    refine Prog.Similar.bind (similar_appendEvidence _) ?_
    rintro eventId _ rfl
    exact similar_setReviewEvidence hids eventId hid

/-- **A review** says the same, to a case of somebody else as to no case at all. -/
theorem similar_reviewSubject (hids : Distinguished ids) {texts : ReviewTexts}
    {tenantOf : ω → Uuid → Option (Option Uuid)} {subjectId : Uuid}
    (htenantOf : ∀ v w, W v w → (tenantOf v subjectId = some (some user.tenantId) ↔
      tenantOf w subjectId = some (some user.tenantId)))
    (decision : δ) (notes : Option Text) (event : Review δ → AppendEvidenceInput) :
    Prog.Similar (Alike ids W user.tenantId) Eq
      (reviewSubject texts tenantOf user subjectId decision notes event :
        Program ω χ δ (Review δ))
      (reviewSubject texts tenantOf user subjectId decision notes event) := by
  have hread : Prog.Similar (Alike ids W user.tenantId)
      (fun a b => a = some (some user.tenantId) ↔ b = some (some user.tenantId))
      (read fun s : Store ω χ δ => tenantOf s.world subjectId)
      (read fun s : Store ω χ δ => tenantOf s.world subjectId) :=
    Prog.Similar.act fun x y hxy => ⟨hxy, htenantOf _ _ hxy.world⟩
  have hrefused : ∀ c : Option (Option Uuid), c ≠ some (some user.tenantId) →
      (reviewOwn texts user subjectId decision notes event c : Program ω χ δ (Review δ)) =
        throw (.notFound texts.notFound) := by
    intro c hc
    cases c with
    | none => rfl
    | some tenantId => exact if_neg fun h => hc (congrArg some h)
  refine Prog.Similar.bind hread fun a b hab => ?_
  by_cases ha : a = some (some user.tenantId)
  · obtain rfl := ha
    obtain rfl := hab.mp rfl
    rw [reviewOwn, if_pos rfl]
    exact similar_recordReview hids texts subjectId decision notes event
  · rw [hrefused a ha, hrefused b fun hb => ha (hab.mpr hb)]
    exact Prog.Similar.throw _

/-- A queue shows rows of the tenant only. -/
theorem listed_owned {ρ : Type} (tenantId : ρ → Option Uuid) (riskLevel : ρ → RiskLevel)
    (tenant : Uuid) (levels : List RiskLevel) (limit : Nat) (rows : List ρ) :
    listed tenantId riskLevel tenant levels limit rows =
      (((Table.owned tenantId (some tenant) rows).filter
        fun row => riskLevel row ∈ levels).reverse).take limit := by
  rw [listed, Table.owned, List.filter_filter]
  congr 3
  funext row
  rw [Bool.decide_and, Bool.and_comm]

/-- Rows of other services, with the same rows of the tenant. -/
structure SameRows {ρ : Type} (key : ρ → Uuid) (tenantId : ρ → Option Uuid) (T : Uuid)
    (rows rows' : List ρ) : Prop where
  left : (rows.map key).Nodup
  right : (rows'.map key).Nodup
  owned : Table.owned tenantId (some T) rows = Table.owned tenantId (some T) rows'

theorem SameRows.listed {ρ : Type} {key : ρ → Uuid} {tenantId : ρ → Option Uuid} {T : Uuid}
    {rows rows' : List ρ} (h : SameRows key tenantId T rows rows') (riskLevel : ρ → RiskLevel)
    (levels : List RiskLevel) (limit : Nat) :
    listed tenantId riskLevel T levels limit rows =
      listed tenantId riskLevel T levels limit rows' := by
  rw [listed_owned, listed_owned, h.owned]

/-- The tenant's own row is found in both. -/
theorem SameRows.tenantOf {ρ : Type} {key : ρ → Uuid} {tenantId : ρ → Option Uuid} {T : Uuid}
    {rows rows' : List ρ} (h : SameRows key tenantId T rows rows') (id : Uuid) :
    (Table.find key id rows).map tenantId = some (some T) ↔
      (Table.find key id rows').map tenantId = some (some T) := by
  have howned : ∀ rows : List ρ, (rows.map key).Nodup →
      ((Table.find key id rows).map tenantId = some (some T) ↔
        ((Table.find key id (Table.owned tenantId (some T) rows)).map tenantId).isSome) := by
    intro rows hnd
    rw [← Table.find_filter_owned hnd]
    cases Table.find key id rows with
    | none => simp
    | some row => by_cases hrow : tenantId row = some T <;> simp [hrow]
  rw [howned rows h.left, howned rows' h.right, h.owned]

end Own

/-! ## What others do -/

section Others

variable {ω χ δ α : Type} {ids : Uuid → Nat → Uuid} {W : ω → ω → Prop} {T : Uuid}
  {user : AuthenticatedUser}

/-- A value whose id the user's tenant has drawn. -/
def Drawn {ρ : Type} (key : ρ → Uuid) (ids : Uuid → Nat → Uuid) (tenantId : Uuid) (a : ρ) : Prop :=
  ∃ n, key a = ids tenantId n

theorem hidden_read {f : Store ω χ δ → α} :
    Prog.Hidden (Alike ids W T) (fun _ => True) (read f) :=
  Prog.Hidden.act fun _ _ hxy => ⟨hxy, trivial⟩

/-- Another tenant draws an id. -/
theorem Alike.drawOther {x y : Store ω χ δ} (h : Alike ids W T x y) (hT : user.tenantId ≠ T) :
    Alike ids W T (x.draw user.tenantId) y where
  left := ⟨h.left.uuid, h.left.scores, h.left.reviews⟩
  right := h.right
  world := h.world
  scores := h.scores
  reviews := h.reviews
  evidence := h.evidence
  now := h.now
  issued := by
    show Function.update x.issued _ _ _ = _
    rw [Function.update_of_ne (Ne.symm hT), h.issued]

theorem hidden_appendEvidence {input : AppendEvidenceInput} (hT : user.tenantId ≠ T)
    (hinput : input.tenantId = some user.tenantId) :
    Prog.Hidden (Alike ids W T) (fun _ => True)
      (appendEvidence user.tenantId input : Program ω χ δ Uuid) := by
  refine Prog.Hidden.act fun x y hxy => ⟨?_, trivial⟩
  have hne : input.tenantId ≠ some T := by
    rw [hinput]
    exact fun h => hT (Option.some.inj h)
  have hevidence : Table.owned (·.input.tenantId) (some T)
      (x.evidence ++ [⟨x.next user.tenantId, input⟩]) =
        Table.owned (·.input.tenantId) (some T) x.evidence := Table.owned_append_of_ne hne
  exact { hxy.drawOther hT with
    left := ⟨hxy.left.uuid, hxy.left.scores, hxy.left.reviews⟩
    evidence := hevidence.trans hxy.evidence }

theorem hidden_insertScore (hT : user.tenantId ≠ T) (riskLevel : RiskLevel) (columns : χ) :
    Prog.Hidden (Alike ids W T) (fun row => row.tenantId = user.tenantId ∧
      Drawn Scored.id ids user.tenantId row)
      (insertScore user riskLevel columns : Program ω χ δ (Scored χ)) := by
  refine Prog.Hidden.act fun x y hxy => ⟨?_, rfl, hxy.left.next _⟩
  have hscores : Table.owned Scored.tenantId T
      (x.scores ++ [newScore user riskLevel columns (x.next user.tenantId) x.now]) =
        Table.owned Scored.tenantId T x.scores := Table.owned_append_of_ne hT
  exact { hxy.drawOther hT with
    left := hxy.left.addScore _ rfl
    scores := hscores.trans hxy.scores }

theorem hidden_insertReview (hT : user.tenantId ≠ T) (subjectId : Uuid) (decision : δ)
    (notes : Option Text) :
    Prog.Hidden (Alike ids W T) (fun row => row.tenantId = user.tenantId ∧
      Drawn Review.id ids user.tenantId row)
      (insertReview user subjectId decision notes : Program ω χ δ (Review δ)) := by
  refine Prog.Hidden.attempt fun x y row x' hxy hinsert => ?_
  split at hinsert
  · cases hinsert
  · obtain ⟨rfl, rfl⟩ := Prod.mk.inj (Option.some.inj hinsert)
    have hreviews : Table.owned Review.tenantId T
        (x.reviews ++ [newReview user subjectId decision notes (x.next user.tenantId)]) =
          Table.owned Review.tenantId T x.reviews := Table.owned_append_of_ne hT
    exact ⟨{ hxy.drawOther hT with
      left := hxy.left.addReview _ rfl
      reviews := hreviews.trans hxy.reviews }, rfl, hxy.left.next _⟩

theorem hidden_setScoreEvidence (hids : Distinguished ids) (hT : user.tenantId ≠ T) {id : Uuid}
    (eventId : Uuid) (hid : ∃ n, id = ids user.tenantId n) :
    Prog.Hidden (Alike ids W T) (fun _ => True)
      (setScoreEvidence id eventId : Program ω χ δ (Scored χ)) := by
  refine Prog.Hidden.attempt fun x y row x' hxy hupdate => ⟨?_, trivial⟩
  obtain ⟨_, -, hpair⟩ := Option.map_eq_some_iff.mp hupdate
  obtain ⟨-, rfl⟩ := Prod.mk.inj hpair
  have hothers : ∀ r ∈ x.scores, r.id = id → r.tenantId ≠ T := fun r hr hkey h =>
    hT ((owner_of_drawn hids (hxy.left.scores r hr) hid hkey).symm.trans h)
  have hscores : Table.owned Scored.tenantId T
      (Table.modify Scored.id id (Scored.withEvidence eventId) x.scores) =
        Table.owned Scored.tenantId T x.scores := Table.owned_modify_of_ne (fun _ => rfl) hothers
  exact { hxy with
    left := hxy.left.setScoreEvidence id eventId
    scores := hscores.trans hxy.scores }

theorem hidden_setReviewEvidence (hids : Distinguished ids) (hT : user.tenantId ≠ T) {id : Uuid}
    (eventId : Uuid) (hid : ∃ n, id = ids user.tenantId n) :
    Prog.Hidden (Alike ids W T) (fun _ => True)
      (setReviewEvidence id eventId : Program ω χ δ (Review δ)) := by
  refine Prog.Hidden.attempt fun x y row x' hxy hupdate => ⟨?_, trivial⟩
  obtain ⟨_, -, hpair⟩ := Option.map_eq_some_iff.mp hupdate
  obtain ⟨-, rfl⟩ := Prod.mk.inj hpair
  have hothers : ∀ r ∈ x.reviews, r.id = id → r.tenantId ≠ T := fun r hr hkey h =>
    hT ((owner_of_drawn hids (hxy.left.reviews r hr) hid hkey).symm.trans h)
  have hreviews : Table.owned Review.tenantId T
      (Table.modify Review.id id (Review.withEvidence eventId) x.reviews) =
        Table.owned Review.tenantId T x.reviews := Table.owned_modify_of_ne (fun _ => rfl) hothers
  exact { hxy with
    left := hxy.left.setReviewEvidence id eventId
    reviews := hreviews.trans hxy.reviews }

theorem hidden_recordScore (hids : Distinguished ids) (hT : user.tenantId ≠ T)
    (riskLevel : RiskLevel) (columns : χ) {event : Scored χ → AppendEvidenceInput}
    (hevent : ∀ row, (event row).tenantId = some user.tenantId) :
    Prog.Hidden (Alike ids W T) (fun _ => True)
      (recordScore user riskLevel columns event : Program ω χ δ (Scored χ)) :=
  Prog.Hidden.bind (hidden_insertScore hT riskLevel columns) fun row hrow =>
    Prog.Hidden.bind (hidden_appendEvidence hT (hevent row)) fun eventId _ =>
      hidden_setScoreEvidence hids hT eventId hrow.2

theorem hidden_reviewSubject (hids : Distinguished ids) (hT : user.tenantId ≠ T)
    {texts : ReviewTexts} {tenantOf : ω → Uuid → Option (Option Uuid)} (subjectId : Uuid)
    (decision : δ) (notes : Option Text) {event : Review δ → AppendEvidenceInput}
    (hevent : ∀ row, (event row).tenantId = some user.tenantId) :
    Prog.Hidden (Alike ids W T) (fun _ => True)
      (reviewSubject texts tenantOf user subjectId decision notes event :
        Program ω χ δ (Review δ)) := by
  refine Prog.Hidden.bind hidden_read fun tenantId _ => ?_
  cases tenantId with
  | none => exact Prog.Hidden.throw _
  | some tenantId =>
    rw [reviewOwn]
    split
    · refine Prog.Hidden.bind hidden_read fun found _ => ?_
      cases found with
      | some row => exact Prog.Hidden.throw _
      | none =>
        exact Prog.Hidden.bind (hidden_insertReview hT subjectId decision notes) fun row hrow =>
          Prog.Hidden.bind (hidden_appendEvidence hT (hevent row)) fun eventId _ =>
            hidden_setReviewEvidence hids hT eventId hrow.2
    · exact Prog.Hidden.throw _

end Others

/-! ## Runs -/

section Runs

variable {ω χ δ κ ρ ι : Type} {ids : Uuid → Nat → Uuid} {W : ω → ω → Prop} {T : Uuid}

/-- A call in two worlds: what happens at the desks of the tenant is the same, and the rows of
other services change to the same rows of the tenant. -/
inductive Call.Seen (W : ω → ω → Prop) (T : Uuid) : Call ω κ → Call ω κ → Prop
  | desk {user : AuthenticatedUser} (h : user.tenantId = T) (request : κ) :
    Seen W T (.desk user request) (.desk user request)
  | world {v w : ω} (h : W v w) : Seen W T (.world v) (.world w)
  | clock (now : Date) : Seen W T (.clock now) (.clock now)

theorem seen_desk (user : AuthenticatedUser) (request : κ) :
    (Call.desk user request).Seen W user.tenantId (.desk user request) :=
  .desk rfl request

/-- A call of an employee of another tenant. -/
def Call.Others (T : Uuid) (call : Call ω κ) : Prop := ∃ tenantId ≠ T, call.tenantId = some tenantId

theorem similar_call {serve : AuthenticatedUser → κ → Program ω χ δ ρ} {call call' : Call ω κ}
    (hown : ∀ user request, user.tenantId = T →
      Prog.Similar (Alike ids W T) Eq (serve user request) (serve user request))
    (h : call.Seen W T call') :
    Prog.Similar (Alike ids W T) Eq (call.program serve) (call'.program serve) := by
  cases h with
  | desk hT request =>
    refine Prog.Similar.bind (hown _ request hT) ?_
    rintro response _ rfl
    exact Prog.Similar.pure rfl
  | world hW =>
    exact Prog.Similar.act fun _ _ hxy => ⟨{ hxy with
      left := ⟨hxy.left.uuid, hxy.left.scores, hxy.left.reviews⟩
      right := ⟨hxy.right.uuid, hxy.right.scores, hxy.right.reviews⟩
      world := hW }, rfl⟩
  | clock now =>
    exact Prog.Similar.act fun _ _ hxy => ⟨{ hxy with
      left := ⟨hxy.left.uuid, hxy.left.scores, hxy.left.reviews⟩
      right := ⟨hxy.right.uuid, hxy.right.scores, hxy.right.reviews⟩
      now := rfl }, rfl⟩

theorem hidden_call {serve : AuthenticatedUser → κ → Program ω χ δ ρ} {call : Call ω κ}
    (hother : ∀ user request, user.tenantId ≠ T →
      Prog.Hidden (Alike ids W T) (fun _ => True) (serve user request))
    (h : call.Others T) :
    Prog.Hidden (Alike ids W T) (fun _ => True) (call.program serve) := by
  obtain ⟨tenantId, hT, hcall⟩ := h
  cases call with
  | desk user request =>
    obtain rfl := Option.some.inj hcall
    exact Prog.Hidden.bind (hother user request hT) fun _ _ => Prog.Hidden.pure trivial
  | world rows => cases hcall
  | clock now => cases hcall

/-- **Isolation**: every run is matched, from any store with the same rows of the tenant, by one
in which the others never move: what the tenant's own calls end with is the same, and so are the
rows of the tenant. -/
theorem run_isolated [DecidableEq ι] {serve : AuthenticatedUser → κ → Program ω χ δ ρ}
    {calls calls' : ι → Call ω κ} {s s' : Store ω χ δ}
    {t : Pool ι (Store ω χ δ) (Program ω χ δ (Option ρ))} (hs : Alike ids W T s s')
    (hown : ∀ user request, user.tenantId = T →
      Prog.Similar (Alike ids W T) Eq (serve user request) (serve user request))
    (hother : ∀ user request, user.tenantId ≠ T →
      Prog.Hidden (Alike ids W T) (fun _ => True) (serve user request))
    (hcalls : ∀ i, ¬ (calls i).Others T → (calls i).Seen W T (calls' i))
    (hrun : Pool.Run (Prog.interleaved fun _ _ => True)
      ⟨s, fun i => (calls i).program serve⟩ t) :
    ∃ t', Pool.Run (Prog.interleaved fun _ _ => True)
        ⟨s', fun i => (calls' i).program serve⟩ t' ∧
      Alike ids W T t.shared t'.shared ∧
      (∀ i, ¬ (calls i).Others T → (t'.locals i).conclusion = (t.locals i).conclusion) ∧
      ∀ i, (calls i).Others T → t'.locals i = (calls' i).program serve := by
  let u' : Pool ι (Store ω χ δ) (Program ω χ δ (Option ρ)) :=
    ⟨s', fun i => (calls' i).program serve⟩
  have hmay : ∀ (l : DeskStep) (x y : Store ω χ δ), Alike ids W T x y →
      (fun _ _ => True : DeskStep → Store ω χ δ → Prop) l x →
        (fun _ _ => True : DeskStep → Store ω χ δ → Prop) l y := fun _ _ _ _ h => h
  have hmine : ∀ i, ¬ (calls i).Others T → Prog.Similar (Alike ids W T) Eq
      ((calls i).program serve) (u'.locals i) := fun i hi => similar_call hown (hcalls i hi)
  have hothers : ∀ i, ¬ ¬ (calls i).Others T → Prog.Hidden (Alike ids W T) (fun _ => True)
      ((calls i).program serve) := fun i hi => hidden_call hother (not_not.mp hi)
  obtain ⟨t', hrun', hV, hsimilar, hstill⟩ := Run.without hmay hrun hs hmine hothers
  exact ⟨t', hrun', hV, fun i hi => (hsimilar i hi).conclusion, fun i hi =>
    hstill i (not_not.mpr hi)⟩

end Runs

end Portals
