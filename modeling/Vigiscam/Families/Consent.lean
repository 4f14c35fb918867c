import Vigiscam.Concurrency.History
import Vigiscam.Families.Guardianship

/-!
# Monitoring needs consent

A `History` of calls starts from a store without links. Every link that is active was
granted by its protected user after the guardian's last request, and was not revoked
since (`Consented`); the invariant `ConsentInv` says so of all links, besides that ids
and pairs are unique and nobody is their own guardian.

What one call does to the links is said once for each kind of call (`Request`,
`Change`); the invariant and the claims about single calls are case analyses on it.
-/

namespace Families

open Js Concurrency EvidenceVault

/-! ## Calls -/

inductive Op where
  | request (protectedUserEmail : Text)
  | grant (id : Uuid)
  | decline (id : Uuid)
  | revoke (id : Uuid)
  | summary (id : Uuid)

/-- A call: who makes it, when, from where, and what it asks for. -/
structure Call where
  user : AuthenticatedUser
  now : Date
  ip : Option Text
  op : Op

inductive Response where
  | link (l : GuardianLink)
  | summary (p : ProtectedSummary)

section Calls

variable (toLowerCase : Text → Text)

def Call.program (c : Call) : Program Response :=
  match c.op with
  | .request email => Response.link <$> requestGuardianship toLowerCase c.now c.user email c.ip
  | .grant id => Response.link <$> grantConsent c.now c.user id c.ip
  | .decline id => Response.link <$> declineConsent c.now c.user id c.ip
  | .revoke id => Response.link <$> revokeConsent c.now c.user id c.ip
  | .summary id => Response.summary <$> getProtectedSummary c.user id c.ip

/-- The response to a call. -/
def Call.response (c : Call) (s : Store) : Except HttpError Response :=
  ((c.program toLowerCase).run s).1

/-- The store after a call. -/
def Call.exec (c : Call) (s : Store) : Store := ((c.program toLowerCase).run s).2

/-- The rest of the application leaves the links alone. -/
def KeepsLinks (s t : Store) : Prop := t.links = s.links

/-! ## What was said about a link -/

variable (m : Store × Call) (l : GuardianLink)

/-- The guardian of the link asked for the person, and was not refused. -/
def Requests : Prop :=
  m.2.user.userId = l.guardianUserId ∧ ∃ email l', m.2.op = .request email ∧
    m.2.response toLowerCase m.1 = .ok (.link l') ∧ l'.protectedUserId = l.protectedUserId

/-- The protected user granted the link. -/
def Grants : Prop :=
  m.2.user.userId = l.protectedUserId ∧ m.2.op = .grant l.id ∧
    ∃ l', m.2.response toLowerCase m.1 = .ok (.link l')

/-- The protected user revoked the link. -/
def Revokes : Prop :=
  m.2.user.userId = l.protectedUserId ∧ m.2.op = .revoke l.id ∧
    ∃ l', m.2.response toLowerCase m.1 = .ok (.link l')

/-- The protected user granted the link after the guardian's last request, and has not
revoked it since. -/
def Consented (log : List (Store × Call)) (l : GuardianLink) : Prop :=
  ∃ before m after, log = before ++ m :: after ∧ Grants toLowerCase m l ∧
    ∀ m' ∈ after, ¬ Requests toLowerCase m' l ∧ ¬ Revokes toLowerCase m' l

end Calls

/-! ## What a call does -/

section Outcomes

variable {toLowerCase : Text → Text} {s s' : Store} {now : Date} {user : AuthenticatedUser}
  {id : Uuid} {ip : Option Text} {email : Text}

/-- What an accepted request does to the links: the link of the pair is opened again, or
a new one is created. -/
inductive Requested (now : Date) (user : AuthenticatedUser) (s s' : Store) (l : GuardianLink) : Prop
  | reopened {old : GuardianLink} (hold : old ∈ s.links) (hmine : old.guardianUserId = user.userId)
      (hl : l = old.reopen now)
      (hlinks : s'.links = Table.modify GuardianLink.id old.id (GuardianLink.reopen now) s.links)
  | created {protectedUserId id : Uuid} (hother : protectedUserId ≠ user.userId)
      (hl : l = newLink now user protectedUserId id) (hid : id ∉ s.links.map GuardianLink.id)
      (hpair : l.pair ∉ s.links.map GuardianLink.pair) (hlinks : s'.links = s.links ++ [l])

theorem requestGuardianship_outcome (hids : (s.links.map GuardianLink.id).Nodup) :
    (∃ e, (requestGuardianship toLowerCase now user email ip).run s = (.error e, s)) ∨
      ∃ l s', (requestGuardianship toLowerCase now user email ip).run s = (.ok l, s') ∧
        Requested now user s s' l := by
  unfold requestGuardianship
  simp only [Prog.run_bind, run_read, Prog.andThen_ok]
  cases Table.find User.email (trim (toLowerCase email)) s.users with
  | none => exact Or.inl ⟨_, rfl⟩
  | some protectedUser =>
    dsimp only
    by_cases hself : protectedUser.id = user.userId
    · rw [if_pos hself]
      exact Or.inl ⟨_, rfl⟩
    rw [if_neg hself]
    simp only [findPair, Prog.run_bind, run_read, Prog.andThen_ok]
    cases hfind : Table.find GuardianLink.pair (user.userId, protectedUser.id) s.links with
    | some old =>
      dsimp only
      by_cases hopen : old.status = .pending ∨ old.status = .active
      · rw [if_pos hopen]
        exact Or.inl ⟨_, rfl⟩
      -- the row of the pair is used again
      rw [if_neg hopen]
      have hold := Table.mem_of_find hfind
      have hupdate : (updateLink old.id (GuardianLink.reopen now)).run s = _ :=
        run_updateLink ((Table.find_eq_some_iff hids).mpr ⟨hold, rfl⟩)
      simp only [logEvidence, Prog.run_bind, hupdate, Prog.andThen_ok, run_appendEvidence,
        Prog.run_pure]
      exact Or.inr ⟨_, _, rfl,
        .reopened hold (congrArg Prod.fst (Table.key_of_find hfind)) rfl rfl⟩
    | none =>
      dsimp only
      have hpair : (newLink now user protectedUser.id (s.uuid s.issued)).pair ∉
          s.links.map GuardianLink.pair := Table.find_eq_none_iff.mp hfind
      by_cases hid : s.uuid s.issued ∈ s.links.map GuardianLink.id
      · have htaken : (createLink (newLink now user protectedUser.id)).run s = _ :=
          run_createLink_taken (Or.inl hid)
        simp only [Prog.run_bind, htaken, Prog.andThen_error]
        exact Or.inl ⟨_, rfl⟩
      · simp only [logEvidence, Prog.run_bind, run_createLink hid hpair, Prog.andThen_ok,
          run_appendEvidence, Prog.run_pure]
        exact Or.inr ⟨_, _, rfl, .created hself rfl hid hpair rfl⟩

/-- What an accepted change of consent does: the link of the caller has the expected
status and is written. -/
structure Changed (change : ConsentChange) (now : Date) (user : AuthenticatedUser) (id : Uuid)
    (s s' : Store) (link : GuardianLink) : Prop where
  mem : link ∈ s.links
  id_eq : link.id = id
  mine : link.protectedUserId = user.userId
  expected : link.status = change.expected
  links : s'.links = Table.modify GuardianLink.id id (change.write now) s.links

theorem changeConsent_outcome (change : ConsentChange) :
    (∃ e, (changeConsent change now user id ip).run s = (.error e, s)) ∨
      ∃ link s', (changeConsent change now user id ip).run s = (.ok (change.write now link), s') ∧
        Changed change now user id s s' link := by
  unfold changeConsent requireProtectedUserLink
  simp only [findLink, Prog.run_bind, run_read, Prog.andThen_ok]
  cases hfind : Table.find GuardianLink.id id s.links with
  | none => exact Or.inl ⟨_, rfl⟩
  | some link =>
    dsimp only
    by_cases hmine : link.protectedUserId ≠ user.userId
    · rw [if_pos hmine]
      exact Or.inl ⟨_, rfl⟩
    rw [if_neg hmine, Prog.run_pure, Prog.andThen_ok]
    by_cases hstatus : link.status ≠ change.expected
    · rw [if_pos hstatus]
      exact Or.inl ⟨_, rfl⟩
    rw [if_neg hstatus]
    have hupdate : (updateLink id (change.write now)).run s = _ := run_updateLink hfind
    simp only [logEvidence, Prog.run_bind, hupdate, Prog.andThen_ok, run_appendEvidence,
      Prog.run_pure]
    exact Or.inr ⟨link, _, rfl, Table.mem_of_find hfind, Table.key_of_find hfind, not_not.mp hmine,
      not_not.mp hstatus, rfl⟩

/-- The evidence that an access to a link leaves. -/
def accessEvidence (guardian : AuthenticatedUser) (ip : Option Text) (link : GuardianLink) :
    AppendEvidenceInput :=
  linkEvidence link guardian.userId "GUARDIAN" "GUARDIAN_ACCESSED_PROTECTED_USER"
    "Guardian viewed the protected user's risk summary" ip

/-- A summary has the data of the protected user, and of nobody else. -/
structure ShowsOnly (s : Store) (link : GuardianLink) (p : ProtectedSummary) : Prop where
  user : ∃ u ∈ s.users, u.id = link.protectedUserId ∧ p.protectedUser = (u.id, u.fullName)
  events : ∀ r ∈ p.recentRiskEvents, ∃ event ∈ s.riskEvents,
    event.userId = link.protectedUserId ∧ r = event.summary
  alerts : p.openAlerts = openAlerts s link.protectedUserId
  scope : p.scope = link.scope
  consentGrantedAt : p.consentGrantedAt = link.consentGrantedAt

/-- What a returned summary says: an active link of the guardian was read, and the access
is the last event of the evidence. -/
structure Shown (guardian : AuthenticatedUser) (id : Uuid) (ip : Option Text) (s s' : Store)
    (p : ProtectedSummary) (link : GuardianLink) : Prop where
  mem : link ∈ s.links
  id_eq : link.id = id
  mine : link.guardianUserId = guardian.userId
  active : link.status = .active
  only : ShowsOnly s link p
  links : s'.links = s.links
  evidence : s'.evidence = s.evidence ++ [accessEvidence guardian ip link]

theorem mem_recentRiskEvents {userId : Uuid} {r : RiskEvent} (h : r ∈ recentRiskEvents s userId) :
    r ∈ s.riskEvents ∧ r.userId = userId := by
  have hmem := List.mem_filter.mp (List.mem_reverse.mp (List.mem_of_mem_take h))
  exact ⟨hmem.1, of_decide_eq_true hmem.2⟩

theorem getProtectedSummary_outcome :
    (∃ e, (getProtectedSummary user id ip).run s = (.error e, s)) ∨
      ∃ p s' link, (getProtectedSummary user id ip).run s = (.ok p, s') ∧
        Shown user id ip s s' p link := by
  unfold getProtectedSummary
  simp only [findLink, Prog.run_bind, run_read, Prog.andThen_ok]
  cases hfind : Table.find GuardianLink.id id s.links with
  | none => exact Or.inl ⟨_, rfl⟩
  | some link =>
    dsimp only
    by_cases hmine : link.guardianUserId ≠ user.userId
    · rw [if_pos hmine]
      exact Or.inl ⟨_, rfl⟩
    rw [if_neg hmine]
    simp only [Prog.run_bind, run_read, Prog.andThen_ok]
    cases huser : Table.find User.id link.protectedUserId s.users with
    | none => exact Or.inl ⟨_, rfl⟩
    | some protectedUser =>
      dsimp only
      -- the guardian's own link, but the person has to have consented
      by_cases hactive : link.status ≠ .active
      · rw [if_pos hactive]
        exact Or.inl ⟨_, rfl⟩
      rw [if_neg hactive]
      simp only [logEvidence, Prog.run_bind, run_read, Prog.andThen_ok, run_appendEvidence,
        Prog.run_pure]
      refine Or.inr ⟨_, _, link, rfl, Table.mem_of_find hfind, Table.key_of_find hfind,
        not_not.mp hmine, not_not.mp hactive, ⟨?_, fun r hr => ?_, rfl, rfl, rfl⟩, rfl, rfl⟩
      · exact ⟨protectedUser, Table.mem_of_find huser, Table.key_of_find huser, rfl⟩
      · obtain ⟨event, hevent, rfl⟩ := List.mem_map.mp hr
        obtain ⟨hmem, howner⟩ := mem_recentRiskEvents hevent
        exact ⟨event, hmem, howner, rfl⟩

end Outcomes

/-! ## What any call does -/

/-- The change of consent that an operation asks for, and its link. -/
def Op.change : Op → Option (ConsentChange × Uuid)
  | .grant id => some (consentGranted, id)
  | .decline id => some (consentDeclined, id)
  | .revoke id => some (consentRevoked, id)
  | _ => none

inductive Outcome (c : Call) (s : Store) : Except HttpError Response → Store → Prop
  | refused {e : HttpError} : Outcome c s (.error e) s
  | requested {email : Text} {l : GuardianLink} {s' : Store} (hop : c.op = .request email)
      (h : Requested c.now c.user s s' l) : Outcome c s (.ok (.link l)) s'
  | changed {change : ConsentChange} {id : Uuid} {link : GuardianLink} {s' : Store}
      (hop : c.op.change = some (change, id)) (h : Changed change c.now c.user id s s' link) :
      Outcome c s (.ok (.link (change.write c.now link))) s'
  | shown {id : Uuid} {p : ProtectedSummary} {link : GuardianLink} {s' : Store}
      (hop : c.op = .summary id) (h : Shown c.user id c.ip s s' p link) :
      Outcome c s (.ok (.summary p)) s'

section Consent

variable {toLowerCase : Text → Text} {s s₀ s' t : Store} {c : Call} {m : Store × Call}
  {l : GuardianLink} {log : List (Store × Call)}

/-- A change of consent, as a call. -/
theorem changed_outcome {change : ConsentChange} {id : Uuid}
    (hop : c.op.change = some (change, id))
    (hprogram : c.program toLowerCase =
      Response.link <$> changeConsent change c.now c.user id c.ip) :
    Outcome c s (c.response toLowerCase s) (c.exec toLowerCase s) := by
  rw [Call.response, Call.exec, hprogram, Prog.run_map]
  rcases @changeConsent_outcome s c.now c.user id c.ip change with
    ⟨e, he⟩ | ⟨link, s', hrun, hchanged⟩
  · rw [he]
    exact .refused
  · rw [hrun]
    exact .changed hop hchanged

theorem call_outcome (toLowerCase : Text → Text) (c : Call)
    (hids : (s.links.map GuardianLink.id).Nodup) :
    Outcome c s (c.response toLowerCase s) (c.exec toLowerCase s) := by
  obtain ⟨user, now, ip, op⟩ := c
  cases op with
  | request email =>
    rw [Call.response, Call.exec, Call.program, Prog.run_map]
    rcases requestGuardianship_outcome hids with ⟨e, he⟩ | ⟨l, s', hrun, hrequested⟩
    · rw [he]
      exact .refused
    · rw [hrun]
      exact .requested rfl hrequested
  | grant id => exact changed_outcome rfl rfl
  | decline id => exact changed_outcome rfl rfl
  | revoke id => exact changed_outcome rfl rfl
  | summary id =>
    rw [Call.response, Call.exec, Call.program, Prog.run_map]
    rcases getProtectedSummary_outcome with ⟨e, he⟩ | ⟨p, s', link, hrun, hshown⟩
    · rw [he]
      exact .refused
    · rw [hrun]
      exact .shown rfl hshown

/-! ## The invariant -/

/-- Ids and pairs are unique, and nobody is their own guardian. -/
structure LinksProper (s : Store) : Prop where
  ids : (s.links.map GuardianLink.id).Nodup
  pairs : (s.links.map GuardianLink.pair).Nodup
  notSelf : ∀ l ∈ s.links, l.guardianUserId ≠ l.protectedUserId

/-- The links are proper, and every active one was consented to. -/
structure ConsentInv (toLowerCase : Text → Text) (log : List (Store × Call)) (s : Store) : Prop
    extends LinksProper s where
  consented : ∀ l ∈ s.links, l.status = .active → Consented toLowerCase log l

/-- Writing columns that neither name the link nor its pair keeps the links proper. -/
theorem LinksProper.modify {id : Uuid} {f : GuardianLink → GuardianLink} (h : LinksProper s)
    (hid : ∀ r, (f r).id = r.id) (hpair : ∀ r, (f r).pair = r.pair)
    (hlinks : s'.links = Table.modify GuardianLink.id id f s.links) : LinksProper s' := by
  have hpairs : s'.links.map GuardianLink.pair = s.links.map GuardianLink.pair := by
    rw [hlinks, Table.map_modify hpair]
  refine ⟨?_, hpairs ▸ h.pairs, fun l hl => ?_⟩
  · rw [hlinks, Table.map_modify hid]
    exact h.ids
  · have hmem : l.pair ∈ s.links.map GuardianLink.pair := hpairs ▸ List.mem_map_of_mem hl
    obtain ⟨r, hr, hsame⟩ := List.mem_map.mp hmem
    rw [← show r.guardianUserId = l.guardianUserId from congrArg Prod.fst hsame,
      ← show r.protectedUserId = l.protectedUserId from congrArg Prod.snd hsame]
    exact h.notSelf r hr

theorem LinksProper.requested {now : Date} {user : AuthenticatedUser} (h : LinksProper s)
    (hrequested : Requested now user s s' l) : LinksProper s' := by
  cases hrequested with
  | reopened hold hmine hl hlinks =>
    exact h.modify (f := GuardianLink.reopen now) (fun _ => rfl) (fun _ => rfl) hlinks
  | @created protectedUserId id hother hl hid hpair hlinks =>
    refine ⟨?_, ?_, fun l' hl' => ?_⟩
    · rw [hlinks, List.map_append, List.map_singleton, ← List.concat_eq_append]
      exact (List.nodup_concat _ _).mpr ⟨by rw [hl]; exact hid, h.ids⟩
    · rw [hlinks, List.map_append, List.map_singleton, ← List.concat_eq_append]
      exact (List.nodup_concat _ _).mpr ⟨hpair, h.pairs⟩
    · rw [hlinks] at hl'
      rcases List.mem_append.mp hl' with hl' | hl'
      · exact h.notSelf l' hl'
      · rw [List.mem_singleton.mp hl', hl]
        exact hother.symm

/-- Consent lasts until the next request or revocation. -/
theorem Consented.append (h : Consented toLowerCase log l) (hrequest : ¬ Requests toLowerCase m l)
    (hrevoke : ¬ Revokes toLowerCase m l) : Consented toLowerCase (log ++ [m]) l := by
  obtain ⟨before, grant, after, rfl, hgrant, hquiet⟩ := h
  refine ⟨before, grant, after ++ [m], by simp, hgrant, fun m' hm' => ?_⟩
  rcases List.mem_append.mp hm' with hm' | hm'
  · exact hquiet m' hm'
  · rw [List.mem_singleton.mp hm']
    exact ⟨hrequest, hrevoke⟩

theorem not_requests_of_op (h : ∀ email, m.2.op ≠ .request email) : ¬ Requests toLowerCase m l :=
  fun ⟨_, email, _, hop, _⟩ => h email hop

theorem not_revokes_of_op (h : m.2.op ≠ .revoke l.id) : ¬ Revokes toLowerCase m l :=
  fun ⟨_, hop, _⟩ => h hop

/-- A request of the guardian for the person is a request for the link of the pair. -/
theorem pair_of_requests {l' : GuardianLink}
    (hresponse : m.2.response toLowerCase m.1 = .ok (.link l'))
    (hmine : l'.guardianUserId = m.2.user.userId) (h : Requests toLowerCase m l) :
    l'.pair = l.pair := by
  obtain ⟨hguardian, email, l'', -, hok, hperson⟩ := h
  rw [hresponse] at hok
  cases hok
  exact Prod.ext (hmine.trans hguardian) hperson

/-- Every change of consent writes its status, and neither the id nor the pair. -/
theorem change_cases {op : Op} {change : ConsentChange} {id : Uuid}
    (h : op.change = some (change, id)) (now : Date) :
    (∀ r, (change.write now r).id = r.id) ∧ (∀ r, (change.write now r).pair = r.pair) ∧
      ((∀ r, (change.write now r).status ≠ .active) ∨ op = .grant id) := by
  cases op with
  | request email => cases h
  | summary id => cases h
  | grant id =>
    cases h
    exact ⟨fun _ => rfl, fun _ => rfl, Or.inr rfl⟩
  | decline id =>
    cases h
    exact ⟨fun _ => rfl, fun _ => rfl, Or.inl fun _ h => (nomatch h)⟩
  | revoke id =>
    cases h
    exact ⟨fun _ => rfl, fun _ => rfl, Or.inl fun _ h => (nomatch h)⟩

theorem op_ne_request {op : Op} {change : ConsentChange} {id : Uuid}
    (h : op.change = some (change, id)) (email : Text) : op ≠ .request email := by
  rintro rfl
  cases h

theorem op_ne_revoke {op : Op} {change : ConsentChange} {id id' : Uuid}
    (h : op.change = some (change, id)) (hne : id' ≠ id) : op ≠ .revoke id' := by
  rintro rfl
  cases h
  exact hne rfl

/-- Where a call leaves an active link, it was active and the call says nothing against
it, or its protected user has granted it. -/
theorem active_after (hproper : LinksProper s) (hl : l ∈ (c.exec toLowerCase s).links)
    (hactive : l.status = .active) :
    (l ∈ s.links ∧ ¬ Requests toLowerCase (s, c) l ∧ ¬ Revokes toLowerCase (s, c) l) ∨
      Grants toLowerCase (s, c) l := by
  have houtcome := call_outcome toLowerCase c hproper.ids
  generalize hresponse : c.response toLowerCase s = response at houtcome
  generalize c.exec toLowerCase s = s' at houtcome hl
  cases houtcome with
  | refused =>
    refine Or.inl ⟨hl, ?_, ?_⟩
    · rintro ⟨-, email, l', -, hok, -⟩
      cases hresponse.symm.trans hok
    · rintro ⟨-, -, l', hok⟩
      cases hresponse.symm.trans hok
  | @requested email link _ hop hrequested =>
    have hrevoke : ¬ Revokes toLowerCase (s, c) l :=
      not_revokes_of_op fun h => Op.noConfusion (hop.symm.trans h)
    cases hrequested with
    | @reopened old hold hmine hlink hlinks =>
      rw [hlinks] at hl
      obtain ⟨r, hr, rfl⟩ := Table.mem_modify.mp hl
      by_cases hid : r.id = old.id
      · -- the link that was asked for is pending
        rw [if_pos hid] at hactive
        cases hactive
      · rw [if_neg hid] at hactive hrevoke ⊢
        refine Or.inl ⟨hr, fun hrequests => hid ?_, hrevoke⟩
        have hpair : link.pair = r.pair := pair_of_requests hresponse (hlink ▸ hmine) hrequests
        exact congrArg GuardianLink.id (List.inj_on_of_nodup_map hproper.pairs hr hold
          (hpair.symm.trans (hlink ▸ rfl)))
    | created hother hlink hid hpair hlinks =>
      rw [hlinks] at hl
      rcases List.mem_append.mp hl with hl | hl
      · refine Or.inl ⟨hl, fun hrequests => hpair ?_, hrevoke⟩
        rw [pair_of_requests hresponse (hlink ▸ rfl) hrequests]
        exact List.mem_map_of_mem hl
      · rw [List.mem_singleton.mp hl, hlink] at hactive
        cases hactive
  | @changed change id link _ hop hchanged =>
    obtain ⟨hkeepsId, hkeepsPair, hstatus⟩ := change_cases hop c.now
    have hrequest : ∀ l, ¬ Requests toLowerCase (s, c) l :=
      fun l => not_requests_of_op (op_ne_request hop)
    rw [hchanged.links] at hl
    obtain ⟨r, hr, rfl⟩ := Table.mem_modify.mp hl
    by_cases hid : r.id = id
    · rw [if_pos hid] at hactive ⊢
      rcases hstatus with hinactive | hgrant
      · exact absurd hactive (hinactive r)
      · -- the link is granted by its protected user
        have hsame : r = link := List.inj_on_of_nodup_map hproper.ids hr hchanged.mem
          (hid.trans hchanged.id_eq.symm)
        refine Or.inr ⟨?_, ?_, _, hresponse⟩
        · rw [show (change.write c.now r).protectedUserId = r.protectedUserId from
            congrArg Prod.snd (hkeepsPair r), hsame]
          exact hchanged.mine.symm
        · rw [hkeepsId, hid]
          exact hgrant
    · rw [if_neg hid]
      exact Or.inl ⟨hr, hrequest r, not_revokes_of_op (op_ne_revoke hop hid)⟩
  | shown hop hshown =>
    rw [hshown.links] at hl
    exact Or.inl ⟨hl, not_requests_of_op fun _ h => Op.noConfusion (hop.symm.trans h),
      not_revokes_of_op fun h => Op.noConfusion (hop.symm.trans h)⟩

theorem LinksProper.call (h : LinksProper s) (c : Call) : LinksProper (c.exec toLowerCase s) := by
  have houtcome := call_outcome toLowerCase c h.ids
  generalize c.response toLowerCase s = response at houtcome
  generalize c.exec toLowerCase s = s' at houtcome ⊢
  cases houtcome with
  | refused => exact h
  | requested _ hrequested => exact h.requested hrequested
  | changed hop hchanged =>
    obtain ⟨hkeepsId, hkeepsPair, -⟩ := change_cases hop c.now
    exact h.modify hkeepsId hkeepsPair hchanged.links
  | shown _ hshown =>
    exact ⟨hshown.links ▸ h.ids, hshown.links ▸ h.pairs, hshown.links ▸ h.notSelf⟩

theorem ConsentInv.call (h : ConsentInv toLowerCase log s) (c : Call) :
    ConsentInv toLowerCase (log ++ [(s, c)]) (c.exec toLowerCase s) where
  toLinksProper := h.toLinksProper.call c
  consented l hl hactive := by
    rcases active_after h.toLinksProper hl hactive with ⟨hmem, hrequest, hrevoke⟩ | hgrant
    · exact (h.consented l hmem hactive).append hrequest hrevoke
    · exact ⟨log, (s, c), [], rfl, hgrant, fun _ h => (nomatch h)⟩

/-- **Active links were consented to**, in every run from a store without links. -/
theorem consentInv_of_run (hstart : s₀.links = [])
    (hrun : History (Call.exec toLowerCase) KeepsLinks s₀ log s) :
    ConsentInv toLowerCase log s := by
  induction hrun with
  | start =>
    refine ⟨⟨?_, ?_, ?_⟩, ?_⟩
    · rw [hstart]
      exact List.nodup_nil
    · rw [hstart]
      exact List.nodup_nil
    · rw [hstart]
      exact fun l hl => (nomatch hl)
    · rw [hstart]
      exact fun l hl => (nomatch hl)
  | call _ c ih => exact ih.call c
  | outside _ hlinks ih =>
    exact ⟨⟨hlinks ▸ ih.ids, hlinks ▸ ih.pairs, hlinks ▸ ih.notSelf⟩, hlinks ▸ ih.consented⟩

/-- A summary is not returned before its access is in the evidence. -/
theorem passes_getProtectedSummary (guardian : AuthenticatedUser) (id : Uuid) (ip : Option Text) :
    (getProtectedSummary guardian id ip).Passes (· = .appendEvidence) := by
  refine Prog.Passes.bind_right fun found => ?_
  cases found with
  | none => exact Prog.Passes.throw _
  | some link =>
    dsimp only
    split
    · exact Prog.Passes.throw _
    refine Prog.Passes.bind_right fun found => ?_
    cases found with
    | none => exact Prog.Passes.throw _
    | some protectedUser =>
      dsimp only
      split
      · exact Prog.Passes.throw _
      exact Prog.Passes.bind_right fun _ => Prog.Passes.bind_right fun _ =>
        Prog.Passes.bind_left (Prog.Passes.act rfl)

/-- **Guardian consent.** After every run of calls from a store without links: ids and
pairs are unique and nobody guards themselves; a call leaves a link active only if it
was, or if it is its protected user's grant; a summary is returned only of an active link
of the caller that its protected user consented to, it shows the protected user's data
only, and its access is the last event of the evidence; and no summary is returned
before that event is appended. -/
theorem guardian_consent (hstart : s₀.links = [])
    (hrun : History (Call.exec toLowerCase) KeepsLinks s₀ log s) :
    LinksProper s ∧
    (∀ c : Call, ∀ l ∈ (c.exec toLowerCase s).links, l.status = .active →
      l ∈ s.links ∨ (c.user.userId = l.protectedUserId ∧ c.op = .grant l.id)) ∧
    (∀ (c : Call) p, c.response toLowerCase s = .ok (.summary p) → ∃ id link,
      c.op = .summary id ∧ Shown c.user id c.ip s (c.exec toLowerCase s) p link ∧
        Consented toLowerCase log link) ∧
    ∀ guardian id ip, (getProtectedSummary guardian id ip).Passes (· = .appendEvidence) := by
  have hinv := consentInv_of_run hstart hrun
  refine ⟨hinv.toLinksProper, fun c l hl hactive => ?_, fun c p hp => ?_,
    passes_getProtectedSummary⟩
  · rcases active_after hinv.toLinksProper hl hactive with ⟨hmem, -⟩ | ⟨hmine, hop, -⟩
    · exact Or.inl hmem
    · exact Or.inr ⟨hmine, hop⟩
  · -- of the five calls only `getProtectedSummary` returns a summary
    have houtcome := call_outcome toLowerCase c hinv.ids
    rw [hp] at houtcome
    generalize c.exec toLowerCase s = s' at houtcome ⊢
    cases houtcome with
    | @shown id _ link _ hop hshown =>
      exact ⟨id, link, hop, hshown, hinv.consented link hshown.mem hshown.active⟩

end Consent

/-! ### A family -/

/-- A guardian and a protected user. -/
def familyStore : Store where
  users := [⟨[0x67], "g@example.com", "Gus"⟩, ⟨[0x70], "p@example.com", "Pat"⟩]
  links := []
  riskEvents := []
  alerts := [⟨[0x70], none⟩, ⟨[0x67], none⟩]
  evidence := []
  uuid n := [Fin.ofNat 65536 (0x30 + n)]
  issued := 0

def familyCall (userId : Uuid) (op : Op) : Call where
  user := ⟨userId, [0x74], .familyGuardian⟩
  now := Date.sampleDay
  ip := none
  op := op

def askPat : Call := familyCall [0x67] (.request "p@example.com")

def patGrants : Call := familyCall [0x70] (.grant [0x30])

/-- The guardian asks, the protected user grants, and the guardian sees one open alert. -/
theorem guardian_consent_family :
    ∃ p link, (familyCall [0x67] (.summary [0x30])).response lowerAscii
        (patGrants.exec lowerAscii (askPat.exec lowerAscii familyStore)) = .ok (.summary p) ∧
      p.openAlerts = 1 ∧
      Consented lowerAscii [(familyStore, askPat), (askPat.exec lowerAscii familyStore, patGrants)]
        link := by
  obtain ⟨-, -, hshown, -⟩ := @guardian_consent lowerAscii _ familyStore _ rfl
    (.call (.call .start askPat) patGrants)
  have hresponse : ∃ p, (familyCall [0x67] (.summary [0x30])).response lowerAscii
      (patGrants.exec lowerAscii (askPat.exec lowerAscii familyStore)) = .ok (.summary p) ∧
        p.openAlerts = 1 :=
    ⟨_, rfl, rfl⟩
  obtain ⟨p, hp, halerts⟩ := hresponse
  obtain ⟨id, link, -, -, hconsented⟩ := hshown _ p hp
  exact ⟨p, link, hp, halerts, hconsented⟩

end Families
