import Vigiscam.Concurrency.Triple
import Vigiscam.Http
import Vigiscam.Js.Regex

/-!
# Safe public language (`safe-language.ts`)

What is public is written in the language of status and behaviour, never as an accusation of
someone. The texts of a reviewer are searched for accusations before they are stored.
-/

namespace Registry

open Js Regex Concurrency

/-- `\s+` -/
def blanks : Regex := seq (one isBlank) (many isBlank)

/-- `(a\s+|an\s+)?` -/
def article : Regex := optional (oneOf [seq (caseless "a") blanks, seq (caseless "an") blanks])

structure ForbiddenPattern where
  pattern : Regex
  label : Text

def FORBIDDEN_PATTERNS : List ForbiddenPattern :=
  [⟨chain [edge, caseless "is", blanks, article,
      oneOf [caseless "scammer", caseless "criminal", caseless "fraudster", caseless "thief",
        caseless "crook", chain [caseless "con", optional (one isBlank), caseless "artist"],
        chain [caseless "scam", optional (one isBlank), caseless "artist"], caseless "swindler"],
      edge], "a direct identity accusation (e.g. \"is a scammer\")"⟩,
    ⟨chain [edge, caseless "is", blanks, caseless "criminal", edge],
      "a direct identity accusation (e.g. \"is criminal\")"⟩,
    ⟨chain [edge, caseless "are", blanks,
      oneOf [caseless "scammers", caseless "criminals", caseless "fraudsters", caseless "thieves",
        caseless "crooks"], edge],
      "a direct identity accusation (e.g. \"are scammers\")"⟩,
    ⟨chain [edge, oneOf [caseless "owned", caseless "run", caseless "operated"], blanks,
      caseless "by", blanks, article,
      oneOf [caseless "scammer", caseless "criminal", caseless "fraudster", caseless "crook"]],
      "a direct identity accusation (e.g. \"owned by a scammer\")"⟩]

/-- The first unsafe phrase that is found, or none where the text is public-safe. -/
def findUnsafeLanguage (text : Text) : Option Text :=
  (FORBIDDEN_PATTERNS.find? (·.pattern.test text)).map ForbiddenPattern.label

/-- Throws where a text holds an accusation. -/
def assertPublicSafeLanguage {σ ℓ : Type} (text fieldName : Text) : Prog σ ℓ HttpError Unit :=
  match findUnsafeLanguage text with
  | some violation => throw (.badRequest (fieldName ++ utf16 " contains " ++ violation ++
      utf16 ". Public-safe entries must use " ++
      utf16 "status-based language describing observed behaviour, not direct " ++
      utf16 "accusations against a named person or business."))
  | none => pure ()

/-- The text holds no phrase that is refused. -/
def SafeText (text : Text) : Prop := findUnsafeLanguage text = none

instance : DecidablePred SafeText := fun text =>
  inferInstanceAs (Decidable (findUnsafeLanguage text = none))

example : SafeText "The shop is a high-risk indicator." ∧ ¬ SafeText "Bob IS  a Scammer!" := by
  decide

/-- A text that is refused is refused before anything is written. -/
theorem gives_assertPublicSafeLanguage {σ ℓ : Type} {I : σ → Prop} (text fieldName : Text) :
    (assertPublicSafeLanguage text fieldName : Prog σ ℓ HttpError Unit).Gives I
      fun _ => SafeText text := by
  unfold assertPublicSafeLanguage
  cases hfind : findUnsafeLanguage text with
  | none => exact Prog.gives_pure hfind
  | some violation => exact Prog.gives_throw _

end Registry
