import Locoomo.CourierCodes
import Locoomo.CourierWebhooks
import Locoomo.Lib.Binary64
import Locoomo.Lib.Utf16
import Locoomo.Retries
import Locoomo.Wallets

/-! The adapter of Sendii. Its API answers or does not, and an answer that is no
use is an error worth a retry. -/

namespace Locoomo.Sendii

open Locoomo.Delivery Locoomo.Database Locoomo.Routing Locoomo.Logistics Locoomo.Retries
  Locoomo.Wallets Locoomo.CourierCodes Locoomo.System Binary64
open CourierWebhooks (Body Headers ProviderWebhookEvent WebhookAdapter)

/-! ## The wire -/

inductive SendiiStatus
  | pending | assigned | pickedUp | delivered | returning | returned | cancelled
  deriving DecidableEq, Repr

def SendiiStatus.name : SendiiStatus → String
  | .pending => "pending"
  | .assigned => "assigned"
  | .pickedUp => "picked_up"
  | .delivered => "delivered"
  | .returning => "returning"
  | .returned => "returned"
  | .cancelled => "cancelled"

def STATUS : SendiiStatus → DeliveryLegStatus
  | .pending => .requested
  | .assigned => .assigned
  | .pickedUp => .pickedUp
  | .delivered => .delivered
  | .returning => .returning
  | .returned => .returned
  | .cancelled => .cancelled

def EVENTS : List (String × DeliveryEventType) :=
  [("delivery.assigned", .assigned), ("delivery.rider_released", .released),
    ("delivery.picked_up", .pickedUp), ("delivery.attempt_failed", .attemptFailed),
    ("delivery.delivered", .delivered), ("delivery.returning", .returning),
    ("delivery.returned", .returned), ("delivery.cancelled", .cancelled)]

inductive SendiiVehicle
  | car | motorbike | bicycle
  deriving DecidableEq, Repr

def SendiiVehicle.name : SendiiVehicle → String
  | .car => "car"
  | .motorbike => "motorbike"
  | .bicycle => "bicycle"

def VEHICLES : VehicleClass → Option SendiiVehicle
  | .bicycle => some .bicycle
  | .motorbike => some .motorbike
  | .car => some .car
  | .van | .truck => none

def vehicleClassName : VehicleClass → String
  | .bicycle => "bicycle"
  | .motorbike => "motorbike"
  | .car => "car"
  | .van => "van"
  | .truck => "truck"

structure SendiiRider where
  name : String
  phone : String
  vehicle : SendiiVehicle
  deriving DecidableEq

/-- Money is in naira, as it stands in the JSON text. -/
structure SendiiDelivery where
  id : String
  status : SendiiStatus
  sequence : Int
  fee : ℚ
  surcharge : ℚ
  rider : Option SendiiRider
  pickupCode : Option String
  deliveryCode : Option String
  trackingUrl : Option String
  cancelReason : Option String
  deriving DecidableEq

structure SendiiQuote where
  quoteId : String
  fee : ℚ
  distanceM : Nat
  etaMinutes : Nat

structure SendiiWallet where
  balance : ℚ
  held : ℚ
  available : ℚ

structure SendiiError where
  code : Option String
  message : Option String

structure SendiiEnvelope (α : Type) where
  success : Bool
  data : Option α
  error : Option SendiiError

/-- `Math.round(naira * 100)`; `naira` is the number nearest to the amount. -/
def nairaToKobo (naira : ℚ) : Int := ⌊nearest (nearest naira * 100) + 1 / 2⌋

/-! ## One call -/

structure ProviderError extends LogisticsProviderError where
  measuredDistanceMeters : Option Nat

structure SendiiPolicy extends FetchPolicy where
  timeoutMs : Nat

def SENDII_READ_POLICY : SendiiPolicy := ⟨⟨some 2, none, none⟩, 10000⟩
def SENDII_WRITE_POLICY : SendiiPolicy := ⟨⟨some 1, none, none⟩, 15000⟩

inductive FetchError
  | timeout
  | network (message : String)

/-- How an attempt ends, and its body where that is JSON. -/
structure Attempt (α : Type) where
  outcome : Outcome FetchError
  body : Option (SendiiEnvelope α)

theorem fetch_isSome {ε : Type} (b : Builtins) (policy : FetchPolicy)
    (outcomes : Nat → Outcome ε) :
    (fetchWithPolicy b policy outcomes (policy.retryCount + 1)).isSome = true := by
  obtain ⟨n, hn, hsettles, hbefore⟩ := exists_first_settling policy outcomes
  rw [fetchWithPolicy_eq hsettles hbefore (Nat.lt_succ_of_le hn)]
  rfl

/-- The fuel lasts for every attempt the policy allows. -/
def fetch {ε : Type} (b : Builtins) (policy : FetchPolicy) (outcomes : Nat → Outcome ε) : Run ε :=
  (fetchWithPolicy b policy outcomes (policy.retryCount + 1)).get (fetch_isSome b policy outcomes)

def providerError (operation detail : String) (retryable : Bool) : ProviderError :=
  ⟨⟨SENDII_KEY, operation, detail, retryable⟩, none⟩

variable {α : Type}

/-- What `sendiiRequest` makes of the attempt that `fetchWithPolicy` comes back with. -/
def answerOf (operation : String) (timeoutMs : Nat) (attempt : Attempt α) :
    Except ProviderError (Nat × SendiiEnvelope α) :=
  match attempt.outcome with
  | .failed .timeout =>
      .error (providerError operation ("timed out after " ++ toString timeoutMs ++ "ms") true)
  | .failed (.network message) =>
      .error (providerError operation ("network error: " ++ message) true)
  | .answered response =>
      match attempt.body with
      | none =>
          .error (providerError operation
            ("non-JSON response (HTTP " ++ toString response.status ++ ")") true)
      | some envelope =>
          if envelope.success ∨ response.status = 409 then .ok (response.status, envelope)
          else
            let code := (envelope.error.bind SendiiError.code).getD
              ("HTTP_" ++ toString response.status)
            let message := (envelope.error.bind SendiiError.message).getD "no message"
            .error (providerError operation (code ++ ": " ++ message)
              (response.status = 429 ∨ 500 ≤ response.status))

/-- The number of attempts made, and the answer. -/
def sendiiRequest (b : Builtins) (operation : String) (policy : SendiiPolicy)
    (attempts : Nat → Attempt α) : Nat × Except ProviderError (Nat × SendiiEnvelope α) :=
  let run := fetch b policy.toFetchPolicy fun n => (attempts n).outcome
  (run.calls, answerOf operation policy.timeoutMs (attempts (run.calls - 1)))

/-- `call`. -/
def call (b : Builtins) (operation : String) (policy : SendiiPolicy)
    (attempts : Nat → Attempt α) : Except ProviderError α := do
  let (_, envelope) ← (sendiiRequest b operation policy attempts).2
  match envelope.success, envelope.data with
  | true, some data => .ok data
  | _, _ => .error (providerError operation "unexpected response" false)

/-! ## Reading -/

def toSnapshot (delivery : SendiiDelivery) : ProviderDeliverySnapshot where
  externalId := delivery.id
  status := STATUS delivery.status
  providerStatus := delivery.status.name
  sequence := some delivery.sequence
  courier := delivery.rider.map fun rider =>
    ⟨some rider.name, some rider.phone, some rider.vehicle.name⟩
  trackingUrl := delivery.trackingUrl
  actualKobo :=
    if delivery.status = .delivered ∨ delivery.status = .returned then
      some (nairaToKobo delivery.fee)
    else none
  surchargeKobo := some (nairaToKobo delivery.surcharge)
  failureReason := delivery.cancelReason

def getDelivery (b : Builtins) (attempts : Nat → Attempt SendiiDelivery) :
    Except ProviderError ProviderDeliverySnapshot :=
  (call b "getDelivery" SENDII_READ_POLICY attempts).map toSnapshot

def getHandoverCodes (b : Builtins) (attempts : Nat → Attempt SendiiDelivery) :
    Except ProviderError HandoverCodes :=
  (call b "getHandoverCodes" SENDII_READ_POLICY attempts).map fun delivery =>
    ⟨delivery.pickupCode, delivery.deliveryCode⟩

def getBalanceKobo (b : Builtins) (attempts : Nat → Attempt SendiiWallet) :
    Except ProviderError WalletBalance :=
  (call b "getWallet" SENDII_READ_POLICY attempts).map fun wallet =>
    ⟨nairaToKobo wallet.available, nairaToKobo wallet.balance, nairaToKobo wallet.held⟩

/-- The distance, or none for a trip that Sendii refuses. -/
def measureRoute (b : Builtins) (attempts : Nat → Attempt SendiiQuote) :
    Except ProviderError (Option Nat) :=
  match call b "measureRoute" SENDII_READ_POLICY attempts with
  | .ok quote => .ok (some quote.distanceM)
  | .error e => if e.retryable then .error e else .ok none

/-! ## Webhooks -/

inductive WebhookData
  | delivery (delivery : SendiiDelivery)
  | message (text : String)

structure SendiiWebhookEvent where
  webhookId : String
  event : String
  data : WebhookData

def eventOf (name : String) : Option DeliveryEventType :=
  (EVENTS.find? fun x => x.1 = name).map Prod.snd

def parseWebhook (decode : Body → Option SendiiWebhookEvent) (rawBody : Body) :
    Option ProviderWebhookEvent :=
  (decode rawBody).map fun payload =>
    let event := eventOf payload.event
    let delivery :=
      match event, payload.data with
      | some _, .delivery delivery => some delivery
      | _, _ => none
    { eventId := payload.webhookId
      externalId := delivery.map SendiiDelivery.id
      event
      snapshot := delivery.map toSnapshot }

/-- `hmac` is the hex digest of HMAC-SHA512. -/
def verifyWebhook (hmac : String → Body → String) (secret : Option String) (rawBody : Body)
    (headers : Headers) : Bool :=
  match secret.filter (· ≠ ""), (headers "x-sendii-signature").filter (· ≠ "") with
  | some secret, some signature => hmac secret rawBody = signature
  | _, _ => false

def webhookAdapter (hmac : String → Body → String) (decode : Body → Option SendiiWebhookEvent)
    (secret : Option String) : WebhookAdapter where
  verifyWebhook := some (verifyWebhook hmac secret)
  parseWebhook := some (parseWebhook decode)
  getDelivery := true

/-! ## Booking -/

def NAME_MAX : Nat := 120
def DESCRIPTION_MAX : Nat := 500

structure DeliveryStop where
  nodeId : String
  contactName : Utf16.Units
  contactPhone : Option String

structure CreateDeliveryRequest where
  legId : Nat
  pickup : DeliveryStop
  dropoff : DeliveryStop
  vehicleClass : Option VehicleClass
  description : Utf16.Units
  maxCostKobo : Option Int
  otherActiveQuotedKobo : Option Int

structure CreateDeliveryAnswer extends CreateDeliveryResult where
  status : DeliveryLegStatus
  distanceMeters : Nat

/-- The body of `POST /deliveries`. -/
structure CreateBody where
  quoteId : String
  externalRef : Nat
  description : Utf16.Units
  recipientName : Utf16.Units
  recipientPhone : String
  pickupContact : Option (Utf16.Units × String)

def createBody (request : CreateDeliveryRequest) (quote : SendiiQuote) (phone : String) :
    CreateBody where
  quoteId := quote.quoteId
  externalRef := request.legId
  description := request.description.take DESCRIPTION_MAX
  recipientName := request.dropoff.contactName.take NAME_MAX
  recipientPhone := phone
  pickupContact := (request.pickup.contactPhone.filter (· ≠ "")).map fun phone =>
    (request.pickup.contactName.take NAME_MAX, phone)

/-- `MAX_SURCHARGE_FACTOR`, the number nearest to 0.6. -/
def surchargeFactor : ℚ := nearest MAX_SURCHARGE_FACTOR

def neededKobo (feeKobo otherActiveQuotedKobo : Int) : Int :=
  ⌈nearest (nearest (feeKobo * nearest (1 + surchargeFactor)) +
    nearest (otherActiveQuotedKobo * surchargeFactor))⌉

/-- `assertWalletHeadroom`, with the call for the balance. -/
def walletHeadroom (b : Builtins) (wallet : Nat → Attempt SendiiWallet)
    (feeKobo otherActiveQuotedKobo : Int) : Except ProviderError Unit := do
  let balance ← getBalanceKobo b wallet
  let needed := neededKobo feeKobo otherActiveQuotedKobo
  if balance.availableKobo < needed then
    .error (providerError "createDelivery"
      ("INSUFFICIENT_WALLET_HEADROOM: available " ++ toString balance.availableKobo ++
        " kobo, needed " ++ toString needed ++ " kobo") false)
  else .ok ()

/-- `createDelivery` up to the booking itself: what would be booked, and the quote. -/
def prepare (b : Builtins) (quotes : Nat → Attempt SendiiQuote)
    (wallet : Nat → Attempt SendiiWallet) (request : CreateDeliveryRequest) :
    Except ProviderError (CreateBody × SendiiQuote) :=
  let vehicleClass := request.vehicleClass.getD .motorbike
  match VEHICLES vehicleClass, request.dropoff.contactPhone.filter (· ≠ "") with
  | none, _ =>
      .error (providerError "createDelivery"
        ("vehicle class " ++ vehicleClassName vehicleClass ++ " not offered") false)
  | some _, none =>
      .error (providerError "createDelivery"
        ("destination station " ++ request.dropoff.nodeId ++ " has no contact phone") false)
  | some _, some phone => do
      let quote ← call b "quote" SENDII_READ_POLICY quotes
      let feeKobo := nairaToKobo quote.fee
      match request.maxCostKobo.filter (· < feeKobo) with
      | some maxCostKobo =>
          .error
            { providerError "createDelivery"
                ("QUOTE_ABOVE_LIMIT: quoted " ++ toString feeKobo ++ " kobo, limit " ++
                  toString maxCostKobo ++ " kobo") false with
              measuredDistanceMeters := some quote.distanceM }
      | none =>
          match request.otherActiveQuotedKobo with
          | some other => do
              walletHeadroom b wallet feeKobo other
              .ok (createBody request quote phone, quote)
          | none => .ok (createBody request quote phone, quote)

/-! ## Answers -/

/-- No usable answer: nothing came back, or something that is not JSON, or that
Sendii is busy or broken. -/
def Unheard (attempt : Attempt α) : Prop :=
  match attempt.outcome, attempt.body with
  | .failed _, _ => True
  | .answered _, none => True
  | .answered response, some envelope =>
      envelope.success = false ∧ (response.status = 429 ∨ 500 ≤ response.status)

/-- What an answer hands over; a conflict may come with the data too. -/
def Attempt.data (attempt : Attempt α) : Option α :=
  match attempt.outcome, attempt.body with
  | .answered response, some envelope =>
      if envelope.success ∨ response.status = 409 then envelope.data else none
  | _, _ => none

/-- A call comes back with its last attempt. -/
theorem sendiiRequest_eq (b : Builtins) (operation : String) (policy : SendiiPolicy)
    (attempts : Nat → Attempt α) :
    ∃ n, sendiiRequest b operation policy attempts
      = (n + 1, answerOf operation policy.timeoutMs (attempts n)) := by
  obtain ⟨n, hn, hsettles, hbefore⟩ :=
    exists_first_settling policy.toFetchPolicy fun n => (attempts n).outcome
  have hrun := fetchWithPolicy_eq (b := b) hsettles hbefore (Nat.lt_succ_of_le hn)
  refine ⟨n, ?_⟩
  simp only [sendiiRequest, fetch, hrun, Option.get_some, Nat.add_sub_cancel]

theorem answerOf_unheard (operation : String) (timeoutMs : Nat) {attempt : Attempt α}
    (h : Unheard attempt) :
    ∃ e, answerOf operation timeoutMs attempt = .error e ∧ e.retryable = true := by
  obtain ⟨outcome, body⟩ := attempt
  cases outcome with
  | failed error =>
      cases error with
      | timeout => exact ⟨_, rfl, rfl⟩
      | network message => exact ⟨_, rfl, rfl⟩
  | answered response =>
      cases body with
      | none => exact ⟨_, rfl, rfl⟩
      | some envelope =>
          obtain ⟨hfailed, hbusy⟩ := h
          have hconflict : ¬ (envelope.success = true ∨ response.status = 409) := by
            rw [hfailed]
            rintro (hsuccess | hstatus)
            · cases hsuccess
            · rw [hstatus] at hbusy
              omega
          refine ⟨_, if_neg hconflict, ?_⟩
          exact decide_eq_true hbusy

/-- A call that succeeds has the data of its attempt; a refusal has none. -/
theorem answerOf_cases (operation : String) (timeoutMs : Nat) (attempt : Attempt α) :
    (∃ status envelope, answerOf operation timeoutMs attempt = .ok (status, envelope) ∧
        envelope.data = attempt.data ∧
        ∃ response, attempt = ⟨.answered response, some envelope⟩ ∧ response.status = status ∧
          (envelope.success = true ∨ status = 409)) ∨
      (∃ e, answerOf operation timeoutMs attempt = .error e) ∧ attempt.data = none := by
  obtain ⟨outcome, body⟩ := attempt
  cases outcome with
  | failed error =>
      cases error with
      | timeout => exact .inr ⟨⟨_, rfl⟩, rfl⟩
      | network message => exact .inr ⟨⟨_, rfl⟩, rfl⟩
  | answered response =>
      cases body with
      | none => exact .inr ⟨⟨_, rfl⟩, rfl⟩
      | some envelope =>
          by_cases htaken : envelope.success = true ∨ response.status = 409
          · left
            refine ⟨response.status, envelope, if_pos htaken, (if_pos htaken).symm, ?_⟩
            exact ⟨response, rfl, rfl, htaken⟩
          · right
            exact ⟨⟨_, if_neg htaken⟩, if_neg htaken⟩

/-! ## Forged webhooks -/

section Forged

variable {Json : Type} {R : CourierWebhooks.Registry Json} {d : Deployment}
  {hmac : String → Body → String} {decode : Body → Option SendiiWebhookEvent}
  {secret : Option String}

/-- The digest of exactly this body under the configured secret. -/
def isSigned (hmac : String → Body → String) (secret : Option String) (rawBody : Body)
    (headers : Headers) : Bool :=
  secret.any fun key => key ≠ "" && headers "x-sendii-signature" = some (hmac key rawBody)

/-- A request that names Sendii and does not carry its signature. -/
def isForged (hmac : String → Body → String) (secret : Option String) :
    CourierWebhooks.Action → Bool
  | .receive providerKey rawBody headers =>
      providerKey = SENDII_KEY && !isSigned hmac secret rawBody headers
  | _ => false

theorem isSigned_of_verify {rawBody : Body} {headers : Headers}
    (h : verifyWebhook hmac secret rawBody headers = true) :
    isSigned hmac secret rawBody headers = true := by
  unfold verifyWebhook at h
  split at h
  · next key signature hkey hsignature =>
      obtain ⟨rfl, hne⟩ := Option.filter_eq_some_iff.mp hkey
      obtain ⟨hheader, -⟩ := Option.filter_eq_some_iff.mp hsignature
      rw [isSigned, Option.any_some, hheader, ← of_decide_eq_true h]
      simpa using hne
  · cases h

/-- What a request about a delivery says, when it is taken. -/
theorem accepted_sendii (hR : R.adapters SENDII_KEY = some (webhookAdapter hmac decode secret))
    {rawBody : Body} {headers : Headers} {eventId externalId : String} {payload : Json}
    (h : CourierWebhooks.accepted R SENDII_KEY rawBody headers
      = some (eventId, externalId, payload)) :
    isSigned hmac secret rawBody headers = true ∧
      ∃ event delivery, decode rawBody = some event ∧ event.webhookId = eventId ∧
        (eventOf event.event).isSome = true ∧ event.data = .delivery delivery ∧
        delivery.id = externalId := by
  simp only [CourierWebhooks.accepted, hR, webhookAdapter, Option.bind_eq_bind, Option.bind_some,
    Option.bind_eq_some_iff, parseWebhook, Option.map_eq_some_iff] at h
  obtain ⟨_, hverify, _, ⟨event, hdecode, rfl⟩, _, htype, subject, hsubject, payload', -, heq⟩ := h
  cases heq
  refine ⟨isSigned_of_verify (by simpa using hverify), event, ?_⟩
  cases htyped : eventOf event.event with
  | none => simp [htyped] at htype
  | some type =>
      cases hdata : event.data with
      | message text =>
          simp [CourierWebhooks.ProviderWebhookEvent.subject, htyped, hdata] at hsubject
      | delivery delivery =>
          simp only [CourierWebhooks.ProviderWebhookEvent.subject, htyped, hdata, Option.map_some,
            Option.filter_eq_some_iff, Option.some.injEq] at hsubject
          exact ⟨delivery, hdecode, rfl, rfl, rfl, hsubject.1⟩

/-- **Without the secret there is nothing to be done**: a run is what it would be had the
forged requests never been made, and every stored event of Sendii's came in a
request that carried the digest of its bytes. -/
theorem forged_webhooks_do_nothing
    (hR : R.adapters SENDII_KEY = some (webhookAdapter hmac decode secret)) (s₀ : State)
    (as : List CourierWebhooks.Action) :
    let start := CourierWebhooks.start Json s₀
    let w := CourierWebhooks.run R d start as
    w = CourierWebhooks.run R d start (as.filter fun a => !isForged hmac secret a) ∧
      ∀ row ∈ w.inbound, row.providerKey = SENDII_KEY → ∃ rawBody headers event delivery,
        .receive SENDII_KEY rawBody headers ∈ as ∧ isSigned hmac secret rawBody headers = true ∧
        decode rawBody = some event ∧ event.webhookId = row.eventId ∧
        event.data = .delivery delivery ∧ delivery.id = row.externalId := by
  intro start w
  have hforged : ∀ w a, isForged hmac secret a = true → CourierWebhooks.exec R d w a = w := by
    intro w a ha
    cases a with
    | receive providerKey rawBody headers =>
        simp only [isForged, Bool.and_eq_true, decide_eq_true_eq, Bool.not_eq_true'] at ha
        obtain ⟨rfl, hunsigned⟩ := ha
        rw [CourierWebhooks.receive_cases]
        cases haccepted : CourierWebhooks.accepted R SENDII_KEY rawBody headers with
        | none => rfl
        | some event =>
            have hsigned := (accepted_sendii hR haccepted).1
            rw [hunsigned] at hsigned
            cases hsigned
    | system a => cases ha
    | handle inboundEventId => cases ha
    | answer i api => cases ha
    | apply i => cases ha
    | crash i => cases ha
  refine ⟨Runs.run_filter hforged start as, ?_⟩
  intro row hrow hkey
  have hkept := CourierWebhooks.run_kept R d s₀ as
  obtain ⟨rawBody, headers, hmem, haccepted⟩ := hkept.signed row hrow
  rw [hkey] at hmem haccepted
  obtain ⟨hsigned, event, delivery, hdecode, hid, -, hdata, hexternal⟩ :=
    accepted_sendii hR haccepted
  exact ⟨rawBody, headers, event, delivery, hmem, hsigned, hdecode, hid, hdata, hexternal⟩

def demoDelivery : SendiiDelivery where
  id := "del"
  status := .pending
  sequence := 1
  fee := 90
  surcharge := 0
  rider := none
  pickupCode := none
  deliveryCode := none
  trackingUrl := none
  cancelReason := none

/-- A digest for the example. -/
def demoHmac (secret : String) (body : Body) : String := secret ++ toString body.length

def demoAdapter : WebhookAdapter :=
  webhookAdapter demoHmac
    (fun body => some ⟨toString body.length, "delivery.assigned", .delivery demoDelivery⟩)
    (some "whsec")

def demoRegistry : CourierWebhooks.Registry Body where
  adapters := fun key => if key = SENDII_KEY then some demoAdapter else none
  parseJson := some
  stringify := id

/-- A request signed for another body, and one in order. -/
def demoRequests : List CourierWebhooks.Action :=
  [.receive "sendii" [1, 2] (CourierWebhooks.demoHeaders "whsec1"),
    .receive "sendii" [1] (CourierWebhooks.demoHeaders "whsec1")]

theorem demo_forged_webhooks_do_nothing :
    let start := CourierWebhooks.start Body demoState
    let w := CourierWebhooks.run demoRegistry demo start demoRequests
    w = CourierWebhooks.run demoRegistry demo start (demoRequests.drop 1) ∧
      w.inbound.map CourierWebhooks.InboundEventRow.eventId = ["1"] := by
  intro start w
  have hR : demoRegistry.adapters SENDII_KEY = some demoAdapter := rfl
  obtain ⟨hsame, -⟩ := forged_webhooks_do_nothing (d := demo) hR demoState demoRequests
  have hfilter : demoRequests.filter
      (fun a => !isForged demoHmac (some "whsec") a) = demoRequests.drop 1 := rfl
  rw [hfilter] at hsame
  exact ⟨hsame, by decide +kernel⟩

end Forged

end Locoomo.Sendii
