import VpnService.Backend.SubscriptionService
import Mathlib.Algebra.Order.Floor.Defs
import Mathlib.Data.Rat.Floor

namespace VpnService.Backend

inductive PaymentIntentStatus | pending | succeeded | failed
  deriving DecidableEq,Repr

structure WebhookEvent where
  externalPaymentId : Secret
  status : PaymentIntentStatus
  deriving DecidableEq

/-- A webhook body by what `parse_webhook` makes of it; `none` if it raises. -/
abbrev RawBody := Option WebhookEvent

/-- HMAC-SHA256, taken to be injective in key and message. -/
structure Signature where
  secret : String
  payload : RawBody
  deriving DecidableEq

def signHmac (payload : RawBody) (secret : String) : Signature := ⟨secret,payload⟩

/-- The header may hold any text; `none` stands for one that is no HMAC value. -/
def verifyHmac (payload : RawBody) (secret : String) (signature : Option Signature) : Bool :=
  signature=some (signHmac payload secret)

/-- A `Numeric(10, 2)` column keeps two decimals, rounding half away from zero. -/
def numeric2 (x : Rat) : Rat :=
  if x≥0 then (x*100+1/2).floor/100 else -((-x*100+1/2).floor/100)

/-- `str` of what such a column keeps, always with two decimals. -/
def numericText (x : Rat) : String :=
  let sign := if x<0 then "-" else ""
  let cents := (x*100).floor.natAbs
  sign++toString (cents/100)++"."++toString (cents/10%10)++toString (cents%10)

def applyDiscount (amount : Rat) (discountType : PromoDiscountType) (discountValue : Rat) : Rat :=
  let discounted := match discountType with
    | .percent => amount*(100-discountValue)/100
    | .fixed => amount-discountValue
  max discounted 0

/-- The checks `create_payment` makes of a promo code. -/
def checkPromo (db : Database) (now : Time) (user : User) (code : String) :
    Except AppError PromoCode :=
  match db.promoByCode code with
  | none => .error ⟨.validation,"invalid_promo_code","Invalid promo code"⟩
  | some promo =>
    if promo.active=false then .error ⟨.validation,"invalid_promo_code","Invalid promo code"⟩
    else if promo.validFrom.any fun t => now<t then
      .error ⟨.validation,"promo_not_active","Promo code not yet valid"⟩
    else if promo.validUntil.any fun t => now>t then
      .error ⟨.validation,"promo_expired","Promo code expired"⟩
    else if promo.maxUses.any fun m => promo.usedCount≥m then
      .error ⟨.validation,"promo_exhausted","Promo code exhausted"⟩
    else match db.redemptionsOf promo.id user.id with
      | [] => .ok promo
      | [_] => .error
        ⟨.validation,"promo_already_used","Promo code already used by this user"⟩
      | _::_::_ => .error (internalError "MultipleResultsFound")

def checkedPromo (user : User) (promoCode : Option String) : Req (Option PromoCode) := do
  match promoCode.filter fun c => c≠"" with
  | none => pure none
  | some code =>
    let db ← getDb
    let now ← getNow
    match checkPromo db now user code with
    | .ok promo => pure (some promo)
    | .error e => Eff.raise e

def amountDue (plan : Plan) (promo : Option PromoCode) : Rat := match promo with
  | none => plan.price
  | some promo => applyDiscount plan.price promo.discountType promo.discountValue

/-- `PaymentService.create_payment`; the mock gateway draws the external id and cannot fail. -/
def createPayment (cfg : Settings) (user : User) (plan : Plan) (promoCode : Option String) :
    Req Payment := do
  let promo ← checkedPromo user promoCode
  let idempotencyKey ← nextSerial
  let subscription ← createPending user plan false
  let external ← nextSerial
  let id ← nextSerial
  let payment : Payment := {
    id := id
    userId := user.id
    subscriptionId := some subscription.id
    planId := plan.id
    provider := cfg.paymentProvider
    externalPaymentId := some (.generated external)
    idempotencyKey := .generated idempotencyKey
    amount := numeric2 (amountDue plan promo)
    currency := plan.currency
    status := .pending
    promoCodeId := promo.map PromoCode.id }
  alter fun db => {db with payments := db.payments.insert payment}
  flush
  pure payment

def PaymentStatus.isTerminal : PaymentStatus → Bool
  | .succeeded | .refunded | .cancelled => true
  | .pending | .failed => false

def setPaymentStatus (paymentId : Id) (status : PaymentStatus) : Req Unit :=
  alter fun db =>
    {db with
      payments := db.payments.modify paymentId (fun p => {p with status := status}) fun _ => rfl}

def redeemed (id : Id) (now : Time) (promo : PromoCode) (payment : Payment) :
    PromoCodeRedemption where
  id := id
  promoCodeId := promo.id
  userId := payment.userId
  paymentId := some payment.id
  redeemedAt := now

def redeemPromo (payment : Payment) : Req Unit := do
  let db ← getDb
  match (payment.promoCodeId.filter fun k => k≠0).bind db.promoCodes.get? with
  | none => pure ()
  | some promo =>
    let now ← getNow
    let id ← nextSerial
    alter fun db =>
      {db with
        promoCodes := db.promoCodes.modify promo.id
          (fun p => {p with usedCount := p.usedCount+1}) fun _ => rfl
        promoCodeRedemptions := db.promoCodeRedemptions.insert (redeemed id now promo payment)}

/-- The effects of a SUCCEEDED event. -/
def confirmPayment (payment : Payment) : Req Unit := do
  setPaymentStatus payment.id .succeeded
  let subscriptionId ← Eff.orRaise
    ⟨.validation,"payment_missing_subscription","Payment has no associated subscription"⟩
    payment.subscriptionId
  let subscription ← getSubscription subscriptionId
  let db ← getDb
  let plan ← Eff.orRaise (internalError "AttributeError") (db.plans.get? subscription.planId)
  activate subscription plan
  redeemPromo payment

def applyEvent (payment : Payment) : PaymentIntentStatus → Req Unit
  | .succeeded => confirmPayment payment
  | .failed => setPaymentStatus payment.id .failed
  | .pending => pure ()

def handleWebhook (cfg : Settings) (rawBody : RawBody) (signature : Option Signature) :
    Req Unit := do
  Eff.require (verifyHmac rawBody cfg.paymentWebhookSecret signature)
    ⟨.unauthorized,"invalid_signature","Invalid webhook signature"⟩
  let event ← Eff.orRaise (internalError "JSONDecodeError") rawBody
  let db ← getDb
  let payment ← Eff.orRaise
    ⟨.notFound,"payment_not_found","Payment not found for webhook event"⟩
    (db.paymentByExternalId cfg.paymentProvider event.externalPaymentId)
  if payment.status.isTerminal then pure ()
  else do
    applyEvent payment event.status
    flush

/-- `PaymentService.refund`; the mock gateway grants every refund. -/
def refund (payment : Payment) : Req Unit := do
  Eff.require (payment.status=.succeeded)
    ⟨.validation,"payment_not_refundable","Only succeeded payments can be refunded"⟩
  setPaymentStatus payment.id .refunded

end VpnService.Backend
