import Vigiscam.Http
import Vigiscam.Js.Date

/-!
# Registry entries

A row of `registry_entries`, a public-safe item of scam intelligence. Only a
`PUBLISHED` entry is public.
-/

open Js

inductive IndicatorType where
  | phone | email | domain | url | cryptoWallet | scamPhrase | fakeCompany | socialProfile | other
deriving DecidableEq

namespace Registry

inductive RegistryEntryStatus where
  | candidate | underReview | approvedPublicSafe | published | rejected | archived
deriving DecidableEq

inductive RegistryPublicStatus where
  | verifiedMalicious | highRiskVerified | officiallyReported | takedownConfirmed
deriving DecidableEq

structure RegistryEntry where
  id : Uuid
  indicatorType : IndicatorType
  indicatorValue : Text
  normalizedIndicator : Text
  category : Text
  status : RegistryEntryStatus
  publicStatus : Option RegistryPublicStatus
  confidenceScore : Int
  publicSafeSummary : Text
  recommendedAction : Option Text
  firstSeen : Option Date
  lastSeen : Option Date
  evidenceCount : Int
  sourceSignalId : Option Uuid
  publishedAt : Option Date
  updatedAt : Date
  approvedByUserId : Option Uuid := none
  approvedAt : Option Date := none
deriving DecidableEq

end Registry
