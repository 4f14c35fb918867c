import Vigiscam.Http
import Vigiscam.Js.Date
import Vigiscam.Js.Property

/-!
# Plans and the Stripe client (`billing-plans.ts`, `stripe.service.ts`)

The plan registry, and the thin wrapper around Stripe's library that the webhook
endpoint hands its body to. `Platform` collects what lies outside the repository.
-/

namespace Billing

open Js Value

/-! ## Plans -/

inductive BillingPlan where
  | free | basic | familyGuardian | premiumShield
deriving DecidableEq

/-- Status values a `tenant_subscriptions` row can hold. -/
inductive SubscriptionStatus where
  | inactive | trialing | active | pastDue | canceled | manual
deriving DecidableEq

def BillingPlan.code : BillingPlan → Text
  | .free => "FREE"
  | .basic => "BASIC"
  | .familyGuardian => "FAMILY_GUARDIAN"
  | .premiumShield => "PREMIUM_SHIELD"

def SubscriptionStatus.code : SubscriptionStatus → Text
  | .inactive => "INACTIVE"
  | .trialing => "TRIALING"
  | .active => "ACTIVE"
  | .pastDue => "PAST_DUE"
  | .canceled => "CANCELED"
  | .manual => "MANUAL"

/-- Map a Stripe `subscription.status` to our internal status vocabulary. -/
def mapStripeStatus (stripeStatus : Value) : SubscriptionStatus :=
  if stripeStatus.isText "trialing" then .trialing
  else if stripeStatus.isText "active" then .active
  else if stripeStatus.isText "past_due" || stripeStatus.isText "unpaid" then .pastDue
  else if stripeStatus.isText "canceled" || stripeStatus.isText "incomplete_expired" then .canceled
  else .inactive

/-! ## Configuration -/

/-- The configuration keys that billing reads; an absent key is `none`. -/
structure Config where
  stripeSecretKey : Option Text
  stripeWebhookSecret : Option Text
  stripePriceBasic : Option Text
  stripePriceFamilyGuardian : Option Text
  stripePricePremiumShield : Option Text

/-- `if (!priceId) return 'FREE'`, then the configured price ids, then the suffix of a
stub price id. A price id that is no string has no `endsWith`: `none`. -/
def planFromPriceId (config : Config) (priceId : Value) : Option BillingPlan :=
  if !priceId.truthy then some .free
  else
    priceId.asText.map fun id =>
      if present config.stripePricePremiumShield = some id then .premiumShield
      else if present config.stripePriceFamilyGuardian = some id then .familyGuardian
      else if present config.stripePriceBasic = some id then .basic
      else if BillingPlan.premiumShield.code.isSuffixOf id then .premiumShield
      else if BillingPlan.familyGuardian.code.isSuffixOf id then .familyGuardian
      else if BillingPlan.basic.code.isSuffixOf id then .basic
      else .free

/-! ## What lies outside -/

/-- A body as it came in. -/
inductive RawBody where
  | string (s : Text)
  | buffer (bytes : List UInt8)
deriving DecidableEq

/-- What the service uses from outside the repository. -/
structure Platform where
  /-- Stripe's `webhooks.constructEvent(rawBody, signature, secret)`: the event, or the
  text of what it throws. -/
  constructEvent : RawBody → Text → Text → Except Text Value
  /-- `buffer.toString('utf8')`. -/
  decodeUtf8 : List UInt8 → Text
  /-- `JSON.parse`. -/
  parse : Text → Except Text Value
  /-- `new Date(v * 1000)`, in double arithmetic; `none` for a date that is invalid or
  that a column does not take. -/
  dateOfSeconds : Value → Option Date
  /-- The strings that a text column takes. -/
  textColumn : Text → Bool
  /-- The uuid that a uuid column reads a string as. -/
  uuidColumn : Text → Option Uuid
  /-- The values that a JSON column takes. -/
  jsonColumn : Value → Bool

/-! ## `StripeService` -/

structure StripeService where
  /-- Whether there is a live client. -/
  client : Bool
  webhookSecret : Option Text

/-- The constructor: a client where the key is set. -/
def StripeService.new (config : Config) : StripeService where
  client := (present config.stripeSecretKey).isSome
  webhookSecret := config.stripeWebhookSecret

/-- Verify + parse a webhook payload: the signature is checked where there is a client, a
webhook secret *and* a signature; anything else is parsed as it is. -/
def StripeService.constructWebhookEvent (platform : Platform) (service : StripeService)
    (rawBody : RawBody) (signature : Option Text) : Except Text Value :=
  match service.client, present service.webhookSecret, present signature with
  | true, some secret, some signature => platform.constructEvent rawBody signature secret
  | _, _, _ =>
    let text := match rawBody with
      | .string s => s
      | .buffer bytes => platform.decodeUtf8 bytes
    platform.parse text

end Billing
