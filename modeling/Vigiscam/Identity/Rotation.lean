import Mathlib.Data.Fin.VecNotation
import Vigiscam.Concurrency.Contract
import Vigiscam.Identity.Auth

/-!
# Rotation of refresh tokens

`refresh` validates a token, issues the next pair, and only then revokes the token by its id,
whether or not another call has revoked it since. So two calls that validate a token before
either of them revokes it both issue a pair (`both_refreshes_issue`). Where the revocation of
every call finds the token unrevoked, at most one call issues a pair for it; and a call that
starts after a logout of the token has returned issues none, in any run (`rotation`).
-/

namespace Identity

open Js Concurrency

/-! ## The row of a token -/

def tokenRow (tokenHash : Text) (s : Store) : Option RefreshToken :=
  Table.find RefreshToken.tokenHash tokenHash s.refreshTokens

/-- The token can be exchanged, as far as its revocation goes. -/
def Live (tokenHash : Text) (s : Store) : Prop :=
  ∃ row, tokenRow tokenHash s = some row ∧ row.revokedAt = none

/-- The row with the id is revoked. -/
def Revoked (id : Uuid) (s : Store) : Prop :=
  (Table.find RefreshToken.id id s.refreshTokens).any (·.revokedAt.isSome) = true

instance (id : Uuid) (s : Store) : Decidable (Revoked id s) := inferInstanceAs (Decidable (_ = _))

/-- What no step takes back: the token keeps its row, and what is revoked stays so. -/
structure Onward (tokenHash : Text) (s s' : Store) : Prop where
  row : ∀ id, (tokenRow tokenHash s).map (·.id) = some id →
    (tokenRow tokenHash s').map (·.id) = some id
  revoked : ∀ id, Revoked id s → Revoked id s'
  dead : ¬ Live tokenHash s → ¬ Live tokenHash s'

section Onward

variable {tokenHash : Text} {s s' s'' : Store}

theorem Onward.trans (h : Onward tokenHash s s') (h' : Onward tokenHash s' s'') :
    Onward tokenHash s s'' where
  row id hid := h'.row id (h.row id hid)
  revoked id hid := h'.revoked id (h.revoked id hid)
  dead hdead := h'.dead (h.dead hdead)

theorem onward_of_same (h : s'.refreshTokens = s.refreshTokens) : Onward tokenHash s s' := by
  have hrow : tokenRow tokenHash s' = tokenRow tokenHash s := by
    rw [tokenRow, h]
    rfl
  refine ⟨fun id hid => ?_, fun id hid => ?_, fun hdead hlive => hdead ?_⟩
  · rw [hrow]
    exact hid
  · rw [Revoked, h]
    exact hid
  · rw [Live, hrow] at hlive
    exact hlive

/-- Rows are changed in place, and no revocation is taken back. -/
theorem onward_of_map {g : RefreshToken → RefreshToken}
    (h : s'.refreshTokens = s.refreshTokens.map g) (hid : ∀ t, (g t).id = t.id)
    (hhash : ∀ t, (g t).tokenHash = t.tokenHash)
    (hrevoked : ∀ t, t.revokedAt ≠ none → (g t).revokedAt ≠ none) : Onward tokenHash s s' := by
  have hrow : tokenRow tokenHash s' = (tokenRow tokenHash s).map g := by
    rw [tokenRow, h, Table.find_map hhash]
    rfl
  refine ⟨fun id hfound => ?_, fun id hfound => ?_, fun hdead => ?_⟩
  · rw [hrow, Option.map_map]
    obtain ⟨row, hrow, rfl⟩ := Option.map_eq_some_iff.mp hfound
    rw [hrow]
    exact congrArg some (hid row)
  · rw [Revoked] at hfound ⊢
    rw [h, Table.find_map hid]
    cases hrow : Table.find RefreshToken.id id s.refreshTokens with
    | none =>
      rw [hrow] at hfound
      cases hfound
    | some row =>
      rw [hrow] at hfound
      have hrow : row.revokedAt ≠ none := Option.isSome_iff_ne_none.mp hfound
      exact Option.isSome_iff_ne_none.mpr (hrevoked row hrow)
  · rintro ⟨row', hlive, hnull⟩
    rw [hrow] at hlive
    obtain ⟨row, hfound, rfl⟩ := Option.map_eq_some_iff.mp hlive
    refine hdead ⟨row, hfound, ?_⟩
    by_contra hne
    exact hrevoked row hne hnull

/-- A new row leaves a token alone that has its row. -/
theorem onward_of_append {new : List RefreshToken} {id : Uuid}
    (h : s'.refreshTokens = s.refreshTokens ++ new)
    (hpresent : (tokenRow tokenHash s).map (·.id) = some id) : Onward tokenHash s s' := by
  obtain ⟨row, hrow, hid⟩ := Option.map_eq_some_iff.mp hpresent
  have hrow' : tokenRow tokenHash s' = some row := by
    rw [tokenRow, h]
    exact Table.find_append_of_find hrow
  refine ⟨fun id hfound => ?_, fun id hfound => ?_, fun hdead => ?_⟩
  · rw [hrow'] at *
    rw [hrow] at hfound
    exact hfound
  · rw [Revoked] at hfound ⊢
    rw [h]
    cases hrow : Table.find RefreshToken.id id s.refreshTokens with
    | none =>
      rw [hrow] at hfound
      cases hfound
    | some row =>
      rw [Table.find_append_of_find hrow]
      rw [hrow] at hfound
      exact hfound
  · rintro ⟨row', hlive, hnull⟩
    rw [hrow'] at hlive
    cases hlive
    exact hdead ⟨row, hrow, hnull⟩

/-- The update of a revocation. -/
theorem onward_revoke {id : Uuid} {row : RefreshToken} (tokenHash : Text)
    (hfound : Table.find RefreshToken.id id s.refreshTokens = some row) :
    Onward tokenHash s (s.revoke id) ∧ Revoked id (s.revoke id) := by
  have hid : ∀ t : RefreshToken,
      (if t.id = id then { t with revokedAt := some s.now } else t).id = t.id := by
    intro t
    split <;> rfl
  constructor
  · refine onward_of_map rfl hid (fun t => ?_) fun t ht => ?_
    · show (if t.id = id then { t with revokedAt := some s.now } else t).tokenHash = t.tokenHash
      split <;> rfl
    · show (if t.id = id then { t with revokedAt := some s.now } else t).revokedAt ≠ none
      split
      · exact Option.some_ne_none _
      · exact ht
  · show (Table.find _ _ (List.map _ _)).any _ = true
    rw [Table.find_map hid, hfound]
    show (if row.id = id then { row with revokedAt := some s.now } else row).revokedAt.isSome = true
    rw [if_pos (Table.key_of_find hfound)]
    rfl

/-- Every row of the token is revoked, and the token is dead. -/
theorem onward_revokeAll (s : Store) (tokenHash : Text) :
    Onward tokenHash s (s.revokeAll tokenHash) ∧ ¬ Live tokenHash (s.revokeAll tokenHash) := by
  have hhash : ∀ t : RefreshToken, (if t.tokenHash = tokenHash ∧ t.revokedAt = none then
      { t with revokedAt := some s.now } else t).tokenHash = t.tokenHash := by
    intro t
    split <;> rfl
  constructor
  · refine onward_of_map rfl (fun t => ?_) hhash fun t ht => ?_
    · show (if _ then { t with revokedAt := some s.now } else t).id = t.id
      split <;> rfl
    · show (if _ then { t with revokedAt := some s.now } else t).revokedAt ≠ none
      split
      · exact Option.some_ne_none _
      · exact ht
  · rintro ⟨row', hlive, hnull⟩
    rw [tokenRow, Store.revokeAll, Table.find_map hhash] at hlive
    obtain ⟨row, hrow, rfl⟩ := Option.map_eq_some_iff.mp hlive
    have hkey : row.tokenHash = tokenHash := Table.key_of_find hrow
    by_cases hrevoked : row.revokedAt = none
    · rw [if_pos ⟨hkey, hrevoked⟩] at hnull
      cases hnull
    · rw [if_neg fun h => hrevoked h.2] at hnull
      exact hrevoked hnull

end Onward

/-! ## Calls that present one token -/

/-- What runs: calls that present the token, and the clock. -/
inductive TokenCall where
  | refresh (ctx : RequestContext)
  | logout
  | clock (now : Int)

/-- What a call does; a refresh returns the pair that it has issued. -/
def TokenCall.program (p : Platform) (rawToken : Text) : TokenCall → Program (Option AuthResult)
  | refresh ctx => do return some (← Identity.refresh p rawToken ctx)
  | logout => do
    Identity.logout p rawToken
    return none
  | clock now => do
    tick now
    return none

/-- The revocation of a call finds its row unrevoked. -/
def FindsUnrevoked : DbStep → Store → Prop
  | .revoke id, s => ¬ Revoked id s
  | _, _ => True

instance : (l : DbStep) → (s : Store) → Decidable (FindsUnrevoked l s)
  | .revoke id, s => inferInstanceAs (Decidable (¬ Revoked id s))
  | .read, _ | .draw, _ | .log, _ | .touch, _ | .create, _ | .revokeAll, _ | .membership _ _, _
  | .tenant _, _ | .clock, _ => isTrue trivial

section Calls

variable {ι : Type} {i : ι} {p : Platform} {rawToken tokenHash : Text}
  {may : DbStep → Store → Prop} {inv : Store × List ι → Prop} {x : Store × List ι}

/-- The history of a run: the calls that have revoked a token by its id. -/
def noteRevoke (i : ι) (l : DbStep) (_ : Store) (spent : List ι) : List ι :=
  match l with
  | .revoke _ => i :: spent
  | _ => spent

def presenter (may : DbStep → Store → Prop) (tokenHash : Text) :
    Contract (Store × List ι) DbStep where
  may l x := may l x.1
  rely x y := Onward tokenHash x.1 y.1 ∧ x.2 ⊆ y.2
  guar x y := Onward tokenHash x.1 y.1 ∧ x.2 ⊆ y.2

theorem closed_presenter : Closed (presenter (ι := ι) may tokenHash).rely where
  refl _ := ⟨onward_of_same rfl, List.Subset.refl _⟩
  trans h h' := ⟨h.1.trans h'.1, List.Subset.trans h.2 h'.2⟩

/-- What the steps of the calls keep. -/
structure Rules (may : DbStep → Store → Prop) (tokenHash : Text) (inv : Store × List ι → Prop) :
    Prop where
  onward : ∀ x s, inv x → Onward tokenHash x.1 s → inv (s, x.2)
  spends : ∀ (i : ι) x s id, inv x → may (.revoke id) x.1 →
    (tokenRow tokenHash x.1).map (·.id) = some id → Onward tokenHash x.1 s → Revoked id s →
    inv (s, i :: x.2)

/-- A step that revokes nothing by its id. -/
theorem Rules.within (h : Rules may tokenHash inv) {s : Store} (hx : inv x)
    (honward : Onward tokenHash x.1 s) :
    Prog.Within inv (presenter may tokenHash) x (s, x.2) :=
  ⟨h.onward x s hx honward, honward, List.Subset.refl _⟩

theorem Rules.read (h : Rules may tokenHash inv) {α β : Type} {f : Store → α}
    {k : α → Program β} {post : β → Store × List ι → Prop}
    (hk : ∀ y, (presenter (ι := ι) may tokenHash).rely x y → inv y →
      ((k (f y.1)).noting (noteRevoke i)).Ensures inv (presenter may tokenHash) post y) :
    ((Identity.read f >>= k).noting (noteRevoke i)).Ensures inv (presenter may tokenHash) post
      x := by
  rw [Prog.noting_bind, Identity.read, Prog.noting_act]
  exact Prog.Ensures.act_bind fun y hxy hy _ =>
    ⟨h.within hy (onward_of_same rfl), hk y hxy hy⟩

/-- A call that has found the token goes on to issue a pair, and then spends it. -/
theorem Rules.issue_and_spend (h : Rules may tokenHash inv) {user : User}
    {membership : Membership} {ctx : RequestContext} {id : Uuid}
    (hpresent : (tokenRow tokenHash x.1).map (·.id) = some id) :
    ((do
      let result ← issueTokens p user membership ctx
      revokeToken id
      return result : Program AuthResult).noting (noteRevoke i)).Ensures inv
        (presenter may tokenHash) (fun _ y => i ∈ y.2) x := by
  rw [issueTokens, Prog.bind_assoc, Prog.noting_bind, drawToken, Prog.noting_act]
  refine Prog.Ensures.act_bind fun y hxy hy _ => ⟨h.within hy (onward_of_same rfl), ?_⟩
  dsimp only
  rw [Prog.bind_assoc, Prog.noting_bind, createToken]
  refine Prog.Ensures.noting_attempt_bind (fun z _ s hyz hz _ hcreated => ?_)
    fun z _ hz _ _ => h.within hz (onward_of_same rfl)
  split at hcreated
  · cases hcreated
  obtain rfl : _ = s := (Prod.mk.inj (Option.some.inj hcreated)).2
  have hpresent' := hyz.1.row id (hxy.1.row id hpresent)
  have honward : Onward tokenHash z.1
      (z.1.addToken (newToken p user.id ctx (y.1.token y.1.drawn) y.1.now)) :=
    onward_of_append rfl hpresent'
  refine ⟨h.within hz honward, ?_⟩
  show Prog.Ensures _ _ _ (Prog.noting _ (revokeToken id >>= fun _ => _)) _
  rw [Prog.noting_bind, revokeToken]
  refine Prog.Ensures.noting_attempt_bind (fun u _ s' hzu hu hmay hupdate => ?_) ?_
  · obtain ⟨row, hfound, hpair⟩ := Option.map_eq_some_iff.mp hupdate
    obtain ⟨-, rfl⟩ := Prod.mk.inj hpair
    have hpresent'' := hzu.1.row id (honward.row id hpresent')
    have hrevoke := onward_revoke tokenHash hfound
    refine ⟨⟨h.spends i u _ id hu hmay hpresent'' hrevoke.1 hrevoke.2, hrevoke.1,
      List.subset_cons_self i u.2⟩, Prog.Ensures.pure fun w huw => ?_⟩
    exact huw.2 List.mem_cons_self
  · -- the row of the token is there to be updated
    intro u hzu _ _ hnone
    have hpresent'' := hzu.1.row id (honward.row id hpresent')
    obtain ⟨row, hrow, hid⟩ := Option.map_eq_some_iff.mp hpresent''
    have hmissing := Table.find_eq_none_iff.mp (Option.map_eq_none_iff.mp hnone)
    exact absurd (List.mem_map.mpr ⟨row, Table.mem_of_find hrow, hid⟩) hmissing

/-- A refresh has spent the token by the time it returns. -/
theorem Rules.refresh (h : Rules may (p.sha256 rawToken) inv) (ctx : RequestContext) :
    ((Identity.refresh p rawToken ctx).noting (noteRevoke i)).Ensures inv
      (presenter may (p.sha256 rawToken)) (fun _ y => i ∈ y.2) x := by
  rw [Identity.refresh]
  refine h.read fun y _ _ => ?_
  dsimp only
  cases hstored : storedToken (p.sha256 rawToken) y.1 with
  | none => trivial
  | some found =>
    obtain ⟨row, hrow, rfl⟩ := Option.map_eq_some_iff.mp hstored
    have hpresent : (tokenRow (p.sha256 rawToken) y.1).map (·.id) = some row.id := by
      rw [tokenRow, hrow]
      rfl
    dsimp only
    split
    · trivial
    · cases Table.find User.id row.userId y.1.users with
      | none => trivial
      | some user =>
        dsimp only
        split
        · trivial
        · rw [getPrimaryMembership, Prog.bind_assoc]
          refine h.read fun z hyz _ => ?_
          cases primaryMembership row.userId z.1 with
          | none => trivial
          | some membership => exact h.issue_and_spend (hyz.1.row row.id hpresent)

/-- A refresh that starts when the token is dead does not return. -/
theorem Rules.refresh_dead (h : Rules may (p.sha256 rawToken) inv) (ctx : RequestContext)
    (hdead : ¬ Live (p.sha256 rawToken) x.1) :
    ((Identity.refresh p rawToken ctx).noting (noteRevoke i)).Ensures inv
      (presenter may (p.sha256 rawToken)) (fun _ _ => False) x := by
  rw [Identity.refresh]
  refine h.read fun y hxy _ => ?_
  dsimp only
  cases hstored : storedToken (p.sha256 rawToken) y.1 with
  | none => trivial
  | some found =>
    obtain ⟨row, hrow, rfl⟩ := Option.map_eq_some_iff.mp hstored
    have hrevoked : row.revokedAt ≠ none := fun hnull => hxy.1.dead hdead ⟨row, hrow, hnull⟩
    dsimp only
    rw [if_pos]
    · trivial
    · rw [Option.isSome_iff_ne_none.mpr hrevoked]
      rfl

/-- A refresh that has returned a pair has spent the token, and the token is dead when a logout
has returned. -/
def TokenCall.Done (tokenHash : Text) (i : ι) (call : TokenCall) (result : Option AuthResult)
    (y : Store × List ι) : Prop :=
  (result ≠ none → i ∈ y.2) ∧ (call = .logout → ¬ Live tokenHash y.1)

theorem Rules.program (h : Rules may (p.sha256 rawToken) inv) (call : TokenCall) :
    ((call.program p rawToken).noting (noteRevoke i)).Ensures inv
      (presenter may (p.sha256 rawToken)) (call.Done (p.sha256 rawToken) i) x := by
  cases call with
  | refresh ctx =>
    rw [TokenCall.program, Prog.noting_bind]
    refine Prog.Ensures.bind closed_presenter (h.refresh ctx) fun result y hspent => ?_
    exact Prog.Ensures.pure fun z hyz => ⟨fun _ => hyz.2 hspent, nofun⟩
  | logout =>
    rw [TokenCall.program, Prog.noting_bind, logout, Prog.noting_act]
    refine Prog.Ensures.act_bind fun y hxy hy _ => ?_
    obtain ⟨honward, hdead⟩ := onward_revokeAll y.1 (p.sha256 rawToken)
    refine ⟨h.within hy honward, Prog.Ensures.pure fun z hyz => ⟨nofun, fun _ => ?_⟩⟩
    exact hyz.1.dead hdead
  | clock now =>
    rw [TokenCall.program, Prog.noting_bind, tick, Prog.noting_act]
    refine Prog.Ensures.act_bind fun y hxy hy _ => ?_
    exact ⟨h.within hy (onward_of_same rfl), Prog.Ensures.pure fun z _ => ⟨nofun, nofun⟩⟩

/-! ## Runs -/

/-- Nobody has spent the token, or one call has. -/
def SpentOnce (tokenHash : Text) (x : Store × List ι) : Prop :=
  x.2 = [] ∨ ∃ i id, x.2 = [i] ∧ (tokenRow tokenHash x.1).map (·.id) = some id ∧ Revoked id x.1

theorem rules_spentOnce : Rules FindsUnrevoked tokenHash (SpentOnce (ι := ι) tokenHash) where
  onward x s hx honward := by
    rcases hx with hnone | ⟨i, id, hone, hrow, hrevoked⟩
    · exact Or.inl hnone
    · exact Or.inr ⟨i, id, hone, honward.row id hrow, honward.revoked id hrevoked⟩
  spends i x s id hx hfinds hrow honward hrevoked := by
    rcases hx with hnone | ⟨j, id', -, hrow', hrevoked'⟩
    · exact Or.inr ⟨i, id, by rw [hnone], honward.row id hrow, hrevoked⟩
    · -- the update would find the row revoked
      rw [hrow] at hrow'
      cases hrow'
      exact absurd hrevoked' hfinds

theorem rules_true : Rules (ι := ι) (fun _ _ => True) tokenHash (fun _ => True) where
  onward _ _ _ _ := trivial
  spends _ _ _ _ _ _ _ _ _ := trivial

/-- Calls that present one token, at their start. -/
def presenting (p : Platform) (rawToken : Text) (call : ι → TokenCall) (s : Store) :
    Pool ι Store (Program (Option AuthResult)) where
  shared := s
  locals i := (call i).program p rawToken

abbrev TokenRun [DecidableEq ι] (may : DbStep → Store → Prop) :
    Pool ι Store (Program (Option AuthResult)) →
      Pool ι Store (Program (Option AuthResult)) → Prop :=
  Pool.Run (Prog.interleaved may)

/-- At most one call has issued a pair. -/
def AtMostOneIssues (t : Pool ι Store (Program (Option AuthResult))) : Prop :=
  ∀ i j r r', t.locals i = .pure (some r) → t.locals j = .pure (some r') → i = j

/-- Along a run with a history every call keeps its contract. -/
theorem ensures_of_noted [DecidableEq ι] {inv : Store × List ι → Prop}
    {s t : Pool ι (Store × List ι) (Prog (Store × List ι) DbStep HttpError (Option AuthResult))}
    {post : ι → Option AuthResult → Store × List ι → Prop}
    (hrun : Pool.Run (Prog.interleavedBy fun _ l x => may l x.1) s t) (hinv : inv s.shared)
    (hlocals : ∀ i, (s.locals i).Ensures inv (presenter may tokenHash) (post i) s.shared) :
    inv t.shared ∧
      ∀ i, (t.locals i).Ensures inv (presenter may tokenHash) (post i) t.shared := by
  have hclosed : Closed (presenter (ι := ι) may tokenHash).rely := closed_presenter
  exact @Run.ensures ι _ DbStep HttpError _ inv _ (fun _ => presenter may tokenHash) post s t hrun
    (fun _ => hclosed) (fun _ => hclosed.refl) (fun _ _ _ _ _ hguar => hguar) hinv hlocals

/-- What is left of the calls after a run keeps its contract. -/
theorem ensures_of_run [DecidableEq ι] {call : ι → TokenCall} {s : Store}
    {t : Pool ι Store (Program (Option AuthResult))} {inv : Store × List ι → Prop}
    (h : Rules may (p.sha256 rawToken) inv) (hinv : inv (s, []))
    (hrun : TokenRun may (presenting p rawToken call s) t) :
    ∃ spent, inv (t.shared, spent) ∧ ∀ i, ((t.locals i).noting (noteRevoke i)).Ensures inv
      (presenter may (p.sha256 rawToken)) ((call i).Done (p.sha256 rawToken) i)
      (t.shared, spent) := by
  obtain ⟨spent, hnoted⟩ := Run.noting noteRevoke [] hrun
  exact ⟨spent, ensures_of_noted hnoted hinv fun i => h.program (call i)⟩

/-- No call issues a pair that starts after a logout has returned. -/
def NoneAfterLogout [DecidableEq ι] (p : Platform) (rawToken : Text) (call : ι → TokenCall)
    (t : Pool ι Store (Program (Option AuthResult))) : Prop :=
  ∀ i j ctx, call i = .logout → t.locals i = .pure none →
    t.locals j = (TokenCall.refresh ctx).program p rawToken →
    ∀ u, TokenRun (fun _ _ => True) t u → ∀ r, u.locals j ≠ .pure (some r)

theorem atMostOneIssues_of_run [DecidableEq ι] {call : ι → TokenCall} {s : Store}
    {t : Pool ι Store (Program (Option AuthResult))}
    (hrun : TokenRun FindsUnrevoked (presenting p rawToken call s) t) : AtMostOneIssues t := by
  obtain ⟨spent, hone, hends⟩ := ensures_of_run rules_spentOnce (Or.inl rfl) hrun
  have hmem : ∀ i r, t.locals i = .pure (some r) → i ∈ spent := by
    intro i r hi
    have hend := hends i
    rw [hi] at hend
    exact (hend _ (closed_presenter.refl _)).1 nofun
  intro i j r r' hi hj
  rcases hone with hnone | ⟨k, id, hsingle, -⟩
  · have hi := hmem i r hi
    rw [show spent = [] from hnone] at hi
    exact absurd hi List.not_mem_nil
  · have hsingle : spent = [k] := hsingle
    have hi := hmem i r hi
    have hj := hmem j r' hj
    rw [hsingle] at hi hj
    rw [List.mem_singleton.mp hi, List.mem_singleton.mp hj]

theorem noneAfterLogout_of_run [DecidableEq ι] {call : ι → TokenCall} {s : Store}
    {t : Pool ι Store (Program (Option AuthResult))}
    (hrun : TokenRun (fun _ _ => True) (presenting p rawToken call s) t) :
    NoneAfterLogout p rawToken call t := by
  intro i j ctx hcall hreturned hstart u hrun' r hj
  obtain ⟨spent, -, hends⟩ := ensures_of_run rules_true trivial hrun
  have hdead : ¬ Live (p.sha256 rawToken) t.shared := by
    have hend := hends i
    rw [hreturned] at hend
    exact (hend _ (closed_presenter.refl _)).2 hcall
  -- from here on the refresh of `j` returns nothing, and the others keep their contract
  have hlocals : ∀ k, ((t.locals k).noting (noteRevoke k)).Ensures (fun _ => True)
      (presenter (fun _ _ => True) (p.sha256 rawToken)) (fun _ _ => k ≠ j)
      (t.shared, spent) := by
    intro k
    by_cases hk : k = j
    · subst hk
      rw [hstart, TokenCall.program, Prog.noting_bind]
      exact Prog.Ensures.bind closed_presenter (rules_true.refresh_dead ctx hdead)
        fun _ _ hfalse => hfalse.elim
    · exact (hends k).mono fun _ _ _ => hk
  obtain ⟨spent', hnoted⟩ := Run.noting noteRevoke spent hrun'
  have hend := (@ensures_of_noted ι (p.sha256 rawToken) (fun _ _ => True) _ _ _ _ _ hnoted trivial
    hlocals).2 j
  simp only [hj] at hend
  exact hend _ (closed_presenter.refl _) rfl

/-- **Rotation.** In every interleaving of the steps of any number of calls that present one
token, of which no revocation finds it revoked already, at most one refresh issues a pair; and
in every interleaving whatsoever, no refresh issues one that starts after a logout of the token
has returned. -/
theorem rotation [DecidableEq ι] (p : Platform) (rawToken : Text) (call : ι → TokenCall)
    (s : Store) (t : Pool ι Store (Program (Option AuthResult))) :
    (TokenRun FindsUnrevoked (presenting p rawToken call s) t → AtMostOneIssues t) ∧
      (TokenRun (fun _ _ => True) (presenting p rawToken call s) t →
        NoneAfterLogout p rawToken call t) :=
  ⟨atMostOneIssues_of_run, noneAfterLogout_of_run⟩

end Calls

/-! ## Two refreshes of one token -/

/-- Two refreshes and a logout. -/
def sampleCall : Fin 3 → TokenCall := ![.refresh sampleContext, .refresh sampleContext, .logout]

def sampleCalls : Pool (Fin 3) Store (Program (Option AuthResult)) :=
  presenting samplePlatform "first" sampleCall (sampleAccounts .active)

/-- The second refresh comes after the first one, and is refused; a third one would be refused
after the logout. -/
theorem rotation_in_turn :
    (∃ r, (Prog.turns sampleCalls [(0, 5), (1, 5)]).locals 0 = .pure (some r)) ∧
      AtMostOneIssues (Prog.turns sampleCalls [(0, 5), (1, 5)]) ∧
      NoneAfterLogout samplePlatform "first" sampleCall (Prog.turns sampleCalls [(2, 1)]) := by
  refine ⟨⟨_, rfl⟩, (rotation samplePlatform "first" sampleCall (sampleAccounts .active) _).1 ?_,
    (rotation samplePlatform "first" sampleCall (sampleAccounts .active) _).2 ?_⟩
  · exact Prog.run_turns .refl (by decide +kernel)
  · exact Prog.run_turns .refl (Prog.permittedTurns_true ..)

/-- The second refresh validates the token before the first one revokes it: both issue a pair. -/
theorem both_refreshes_issue :
    ∃ t, TokenRun (fun _ _ => True) sampleCalls t ∧ ¬ AtMostOneIssues t := by
  refine ⟨Prog.turns sampleCalls [(0, 4), (1, 5), (0, 1)],
    Prog.run_turns .refl (Prog.permittedTurns_true ..), fun hone => ?_⟩
  have hfirst : ∃ r, (Prog.turns sampleCalls [(0, 4), (1, 5), (0, 1)]).locals 0 =
      .pure (some r) := ⟨_, rfl⟩
  have hsecond : ∃ r, (Prog.turns sampleCalls [(0, 4), (1, 5), (0, 1)]).locals 1 =
      .pure (some r) := ⟨_, rfl⟩
  obtain ⟨r, hr⟩ := hfirst
  obtain ⟨r', hr'⟩ := hsecond
  exact absurd (hone 0 1 r r' hr hr') (by decide)

end Identity
