import Vigiscam.Js.Text

/-!
# Callers and errors

Who calls a service (`auth.types.ts`), and the exceptions that services throw, with
their bodies.
-/

open Js

abbrev Uuid := Text

/-- The ids of most samples: as many zeros as there were ids before. -/
theorem zeros_injective : Function.Injective fun n => List.replicate n (0x30 : CodeUnit) :=
  List.replicate_left_injective _

inductive MembershipRole where
  | individual | familyGuardian | protectedUser | bankAdmin | bankAnalyst | platformAdmin
  | platformModerator | investigator | agencyAnalyst | enterpriseAdmin | superAdmin | reviewer
  | complianceOfficer | support
deriving DecidableEq

/-- The authenticated principal of a request. -/
structure AuthenticatedUser where
  userId : Uuid
  tenantId : Uuid
  role : MembershipRole
deriving DecidableEq

/-- The principal of a partner's API key. -/
structure PartnerPrincipal where
  keyId : Uuid
  tenantId : Uuid
  keyPrefix : Text
deriving DecidableEq

inductive HttpError where
  | badRequest (message : Text)
  | notFound (message : Text)
  | conflict (message : Text)
  | unauthorized (message : Text)
  /-- The daily quota of a partner's key is used up. -/
  | tooManyRequests (message plan : Text) (limit : Int) (resetsAt : Text)
  /-- A `ForbiddenException` whose body is a text. -/
  | denied (message : Text)
  | forbidden (message : Text) (reasons : List Text) (trustedContactReviewRequired : Bool)
  | badGateway (message : Text)
  | serviceUnavailable (message : Text)
  /-- What is not caught: a failed database call, a `TypeError`. -/
  | internal
deriving DecidableEq
