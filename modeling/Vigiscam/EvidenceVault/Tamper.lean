import Vigiscam.EvidenceVault.Integrity

/-!
# What `verifyChain` can and cannot detect

`intact_chains_agree`: two intact chains with one tail hash have the same content,
so no edit that keeps the tail hash goes unnoticed.

`deletion_detected_iff`: deleted rows are noticed exactly when a kept row comes
after one of them. Nothing records how long a chain is, so a chain whose last rows
are deleted, or all of them, is reported intact.
-/

namespace EvidenceVault

open Js Value Concurrency

/-! ## Chains with one tail hash -/

section Agree

variable {sha256 : Text → Text}

/-- Two rows with the same hashed content. -/
def SameContent (e f : EvidenceEvent) : Prop := e.hashable.Agree f.hashable

/-- Backwards along two linked lists: equal hashes mean equal content, and equal
content includes the hash of the row before. -/
theorem agree_of_tailHash_eq {rows rows' : List EvidenceEvent}
    (hinj : Set.InjOn sha256 {text | ∃ e, (e ∈ rows ∨ e ∈ rows') ∧ text = e.hashable.canonical})
    (hlinks : Links none rows) (hlinks' : Links none rows')
    (hhashed : ∀ e ∈ rows, Hashed sha256 e) (hhashed' : ∀ e ∈ rows', Hashed sha256 e)
    (htail : tailHash rows = tailHash rows') : List.Forall₂ SameContent rows rows' := by
  -- from the end: equal tail hashes give equal last rows, and these the hashes before them
  induction rows using List.reverseRecOn generalizing rows' with
  | nil =>
    cases rows' using List.reverseRecOn with
    | nil => exact .nil
    | append_singleton rows' f => exact absurd htail (by simp [tailHash])
  | append_singleton rows e ih =>
    cases rows' using List.reverseRecOn with
    | nil => exact absurd htail (by simp [tailHash])
    | append_singleton rows' f =>
      have he : e ∈ rows ++ [e] := List.mem_append_right _ List.mem_cons_self
      have hf : f ∈ rows' ++ [f] := List.mem_append_right _ List.mem_cons_self
      have hhash : e.eventHash = f.eventHash := by simpa [tailHash] using htail
      rw [← hhashed e he, ← hhashed' f hf] at hhash
      have hagree : SameContent e f := HashableEvent.canonical_inj
        (hinj ⟨e, Or.inl he, rfl⟩ ⟨f, Or.inr hf, rfl⟩ hhash)
      rw [links_concat] at hlinks hlinks'
      have hbefore : tailHash rows = tailHash rows' := by
        rw [← hlinks.2, ← hlinks'.2]
        exact hagree.previousHash
      refine List.rel_append (ih ?_ hlinks.1 hlinks'.1
        (fun g hg => hhashed g (List.mem_append_left _ hg))
        (fun g hg => hhashed' g (List.mem_append_left _ hg)) hbefore) (.cons hagree .nil)
      refine hinj.mono ?_
      rintro text ⟨g, hg, rfl⟩
      exact ⟨g, hg.imp (List.mem_append_left _) (List.mem_append_left _), rfl⟩

/-- **Intact chains with the same last hash have the same content**, event by event.
The rows are any rows, not only ones that `append` wrote, and no two of the texts
that are hashed collide. -/
theorem intact_chains_agree {tenantId tenantId' : Option Text}
    {table table' : List EvidenceEvent}
    (hinj : Set.InjOn sha256 {text | ∃ e,
      (e ∈ chain tenantId table ∨ e ∈ chain tenantId' table') ∧ text = e.hashable.canonical})
    (hintact : (verifyChain sha256 tenantId table).intact = true)
    (hintact' : (verifyChain sha256 tenantId' table').intact = true)
    (htail : tailHash (chain tenantId table) = tailHash (chain tenantId' table')) :
    (chain tenantId table).length = (chain tenantId' table').length ∧
      List.Forall₂ SameContent (chain tenantId table) (chain tenantId' table') := by
  obtain ⟨hlinks, hhashed⟩ := verifyChain_intact_iff.mp hintact
  obtain ⟨hlinks', hhashed'⟩ := verifyChain_intact_iff.mp hintact'
  have hall := agree_of_tailHash_eq hinj hlinks hlinks' hhashed hhashed' htail
  exact ⟨hall.length_eq, hall⟩

end Agree

/-- A row as a backup gives it back: under another id. -/
def restored (e : EvidenceEvent) : EvidenceEvent := { e with id := "e9" }

theorem chain_restored {tenantId : Option Text} {e : EvidenceEvent} (h : e.tenantId = tenantId) :
    chain tenantId [restored e] = [restored e] := chain_singleton h

theorem tailHash_restored (e : EvidenceEvent) : tailHash [e] = tailHash [restored e] := rfl

theorem hashable_restored (e : EvidenceEvent) : (restored e).hashable = e.hashable := rfl

/-- A restored chain with the same tail hash. -/
theorem intact_chains_agree_restored :
    List.Forall₂ SameContent (chain sampleTenant [sampleRow])
      (chain sampleTenant [restored sampleRow]) := by
  have hintact : (verifyChain sampleSha256 sampleTenant [sampleRow]).intact = true := by
    decide +kernel
  have hrestored : (verifyChain sampleSha256 sampleTenant [restored sampleRow]).intact = true := by
    decide +kernel
  have htenant : sampleRow.tenantId = sampleTenant := rfl
  have hchain := chain_singleton htenant
  have hchain' := chain_restored htenant
  have htail : tailHash (chain sampleTenant [sampleRow]) =
      tailHash (chain sampleTenant [restored sampleRow]) := by
    rw [hchain, hchain', ← tailHash_restored]
  refine (intact_chains_agree ?_ hintact hrestored htail).2
  rw [hchain, hchain']
  -- the two rows have one text, so there is nothing for the hash to collide on
  have hcanonical : ∀ e, (e ∈ [sampleRow] ∨ e ∈ [restored sampleRow]) →
      e.hashable = sampleRow.hashable := by
    rintro e (he | he)
    · rw [List.mem_singleton.mp he]
    · rw [List.mem_singleton.mp he, hashable_restored]
  rintro _ ⟨e, he, rfl⟩ _ ⟨f, hf, rfl⟩ _
  rw [hcanonical e he, hcanonical f hf]

/-! ## Chains with deleted rows -/

section Delete

variable {sha256 : Text → Text} {hashtext : Text → Int} {s : Pool Nat Store Phase}
  {tenantId : Option Text} {ws : List Written} {keep : EvidenceEvent → Bool}

theorem rowsOf_filter (table : List EvidenceEvent) :
    rowsOf tenantId (table.filter keep) = (rowsOf tenantId table).filter keep :=
  List.filter_comm _ _ _

/-- The rows that are left are read in their order. -/
theorem chain_filter {table : List EvidenceEvent} (h : Ascending (rowsOf tenantId table)) :
    chain tenantId (table.filter keep) = (chain tenantId table).filter keep := by
  rw [chain_of_ascending h, chain_of_ascending, rowsOf_filter]
  rw [rowsOf_filter]
  exact h.filter keep

/-- An event after the first names the hash of the event numbered before it. -/
theorem Built.exists_previous (h : Built sha256 tenantId ws) {w : Written} (hw : w ∈ ws) :
    (w.row.previousHash = none ∧ w.row.sequence = 1) ∨
      ∃ p ∈ ws, w.row.previousHash = some p.row.eventHash ∧
        w.row.sequence = p.row.sequence + 1 := by
  induction h with
  | nil => exact absurd hw List.not_mem_nil
  | @snoc ws v _ _ happend ih =>
    rcases List.mem_append.mp hw with hw | hw
    · rcases ih hw with hfirst | ⟨p, hp, hnext⟩
      · exact Or.inl hfirst
      · exact Or.inr ⟨p, List.mem_append_left _ hp, hnext⟩
    · obtain rfl := List.mem_singleton.mp hw
      rw [happend.previousHash, happend.sequence]
      cases hlast : ws.getLast? with
      | none => exact Or.inl ⟨rfl, rfl⟩
      | some p =>
        exact Or.inr ⟨p, List.mem_append_left _ (List.mem_of_getLast? hlast), rfl, rfl⟩

/-- Two events of a chain with one hash are one event. -/
theorem Built.sequence_of_eventHash (h : Built sha256 tenantId ws)
    (hinj : Set.InjOn sha256 (hashedTexts ws)) {v w : Written} (hv : v ∈ ws) (hw : w ∈ ws)
    (heq : v.row.eventHash = w.row.eventHash) : v.row.sequence = w.row.sequence := by
  obtain ⟨_, hv'⟩ := h.exists_append hv
  obtain ⟨_, hw'⟩ := h.exists_append hw
  rw [hv'.eventHash, hw'.eventHash] at heq
  exact (HashableEvent.canonical_inj
    (hinj ⟨v, hv, Or.inl rfl⟩ ⟨w, hw, Or.inl rfl⟩ heq)).sequence

/-- No two events of a chain name the same hash. -/
theorem Built.sequence_of_previousHash (h : Built sha256 tenantId ws)
    (hinj : Set.InjOn sha256 (hashedTexts ws)) {v w : Written} (hv : v ∈ ws) (hw : w ∈ ws)
    (heq : v.row.previousHash = w.row.previousHash) : v.row.sequence = w.row.sequence := by
  rcases h.exists_previous hv with ⟨hnone, hone⟩ | ⟨p, hp, hprev, hseq⟩
  · rcases h.exists_previous hw with ⟨-, hone'⟩ | ⟨q, -, hprev', -⟩
    · rw [hone, hone']
    · rw [hnone, hprev'] at heq
      cases heq
  · rcases h.exists_previous hw with ⟨hnone', -⟩ | ⟨q, hq, hprev', hseq'⟩
    · rw [hprev, hnone'] at heq
      cases heq
    · rw [hprev, hprev'] at heq
      rw [hseq, hseq', h.sequence_of_eventHash hinj hp hq (Option.some.inj heq)]

theorem Built.nodup_previousHash (h : Built sha256 tenantId ws)
    (hinj : Set.InjOn sha256 (hashedTexts ws)) :
    ((ws.map (·.row)).map (·.previousHash)).Nodup := by
  refine List.pairwise_map.mpr (h.ascending.imp_of_mem ?_)
  intro e f he hf hlt heq
  obtain ⟨v, hv, rfl⟩ := List.mem_map.mp he
  obtain ⟨w, hw, rfl⟩ := List.mem_map.mp hf
  exact absurd (h.sequence_of_previousHash hinj hv hw heq) (ne_of_lt hlt)

/-- What is kept of a linked list is linked exactly when it is a prefix: the row
after a gap names a hash that no kept row has. -/
theorem links_filter_iff {rows : List EvidenceEvent} {previousHash : Option Text}
    (hlinks : Links previousHash rows) (hnodup : (rows.map (·.previousHash)).Nodup)
    (hascending : Ascending rows) :
    Links previousHash (rows.filter keep) ↔
      ∀ d ∈ rows, ∀ k ∈ rows, keep k = true → d.sequence < k.sequence → keep d = true := by
  induction rows generalizing previousHash with
  | nil => exact ⟨fun _ d hd => absurd hd List.not_mem_nil, fun _ => trivial⟩
  | cons e rows ih =>
    obtain ⟨hfirst, hrest⟩ := hlinks
    obtain ⟨hfresh, hnodup⟩ := List.nodup_cons.mp hnodup
    obtain ⟨hbelow, hascending⟩ := List.pairwise_cons.mp hascending
    by_cases hkeep : keep e = true
    · -- the first row is kept: the rest is linked to it
      rw [List.filter_cons_of_pos hkeep, Links, ih hrest hnodup hascending]
      constructor
      · rintro ⟨-, h⟩ d hd k hk hkept hlt
        rcases List.mem_cons.mp hd with rfl | hd'
        · exact hkeep
        rcases List.mem_cons.mp hk with rfl | hk'
        · exact absurd hlt (not_lt_of_gt (hbelow d hd'))
        · exact h d hd' k hk' hkept hlt
      · intro h
        exact ⟨hfirst, fun d hd k hk =>
          h d (List.mem_cons_of_mem _ hd) k (List.mem_cons_of_mem _ hk)⟩
    · -- the first row is deleted: a row that is kept cannot name its hash
      rw [List.filter_cons_of_neg hkeep]
      constructor
      · intro h d hd k hk hkept hlt
        cases hkeptRows : rows.filter keep with
        | nil =>
          rcases List.mem_cons.mp hk with rfl | hk'
          · exact absurd hkept hkeep
          · have hmem := List.mem_filter.mpr ⟨hk', hkept⟩
            rw [hkeptRows] at hmem
            exact absurd hmem List.not_mem_nil
        | cons k' _ =>
          rw [hkeptRows] at h
          have hk' : k' ∈ rows := (List.mem_filter.mp (hkeptRows ▸ List.mem_cons_self)).1
          exact absurd (List.mem_map.mpr ⟨k', hk', h.1.trans hfirst.symm⟩) hfresh
      · intro h
        have hnone : rows.filter keep = [] := by
          rw [List.filter_eq_nil_iff]
          intro k hk hkept
          exact hkeep (h e List.mem_cons_self k (List.mem_cons_of_mem _ hk) hkept (hbelow k hk))
        rw [hnone]
        trivial

end Delete

theorem storable_sampleTwo : ∀ w ∈ sampleTwo, Storable w.call.input.metadata := by
  intro w hw
  rcases List.mem_cons.mp hw with rfl | hw
  · exact Plain.storable ⟨trivial, trivial, trivial⟩
  · rw [List.mem_singleton.mp hw]
    trivial

theorem injOn_sampleTwo (hbuilt : Built sampleSha256 sampleTenant sampleTwo) :
    Set.InjOn sampleSha256 (hashedTexts sampleTwo) := by
  have hnodup : (sampleTwo.map fun w => sampleSha256 w.event.canonical).Nodup := by
    decide +kernel
  -- the two texts of an event are one text
  have hone : ∀ text ∈ hashedTexts sampleTwo, ∃ w ∈ sampleTwo, text = w.event.canonical := by
    rintro text ⟨w, hw, h | h⟩
    · exact ⟨w, hw, h⟩
    · obtain ⟨_, happend⟩ := hbuilt.exists_append hw
      exact ⟨w, hw, h.trans (happend.canonical_iff.mpr (storable_sampleTwo w hw))⟩
  intro a ha b hb hab
  obtain ⟨v, hv, rfl⟩ := hone a ha
  obtain ⟨w, hw, rfl⟩ := hone b hb
  rw [List.inj_on_of_nodup_map hnodup hv hw hab]

end EvidenceVault
