import VpnService.Backend.UserService
import VpnService.Backend.SubscriptionDeliveryService
import VpnService.Backend.SubscriptionExpiryWorker

namespace VpnService.Backend

/-- Requests about users, plans, subscriptions and payments. The last two are statements an
operator sends to the database itself: no endpoint makes promo codes or overrides limits. -/
inductive BillingRequest
  | authenticateTelegram (payload : TelegramAuthRequest)
  | updateUserStatus (adminId userId : Id) (status : UserStatus)
  | createPlan (adminId : Id) (payload : PlanCreate)
  | updatePlan (adminId planId : Id) (payload : PlanUpdate)
  | createPayment (telegramId : Int) (planId : Id) (promoCode : Option String)
  | paymentWebhook (rawBody : RawBody) (signature : Option Signature)
  | refundPayment (adminId paymentId : Id)
  | cancelSubscription (telegramId : Int) (subscriptionId : Id)
  | addPromoCode (code : String) (discountType : PromoDiscountType) (discountValue : Rat)
      (maxUses : Option Int) (validFrom validUntil : Option Time) (active : Bool)
  | setDeviceLimitOverride (subscriptionId : Id) (limit : Option Int)

inductive RoutingRequest
  | createCategory (adminId : Id) (name : String) (description : Option String)
  | addRule (categoryId : Id) (domain : String) (routeType : RouteType) (enabled : Bool)
  | getMySettings (telegramId : Int)
  | setMyMode (telegramId : Int) (mode : RoutingMode)
  | setMyCategory (telegramId : Int) (categoryId : Id) (enabled : Bool)
  | addMyDomain (telegramId : Int) (domain : String) (routeType : RouteType)

inductive ServerRequest
  | createServer (adminId : Id) (payload : VpnServerCreate)
  | updateServer (adminId serverId : Id) (payload : VpnServerUpdate)
  | deleteServer (adminId serverId : Id)
  | createVlessServer (adminId : Id) (payload : VlessServerCreate)
  | updateVlessServer (adminId serverId : Id) (payload : VlessServerUpdate)
  | deleteVlessServer (adminId serverId : Id)

/-- Requests about one device, answered to its owner only. -/
inductive DeviceRequest
  | reissue | disable | enable | revoke
  | createOrRotateLink | getLink | revokeLink
  | getProfile | refreshProfile
  deriving DecidableEq

inductive Request
  | billing (r : BillingRequest)
  | routing (r : RoutingRequest)
  | servers (r : ServerRequest)
  | listDevices (telegramId : Int)
  | createDevice (telegramId : Int) (name : String) (serverId : Option Id)
      (protocol : VpnProtocol)
  | device (telegramId : Int) (deviceId : Id) (r : DeviceRequest)
  | fetchSubscription (token : Secret)
  | sweep (asOf : Option Time)

inductive Response
  | done
  | payment (p : Payment)
  | devices (ds : List Device)
  | provisioned (p : ProvisionedDevice)
  | device (d : Device)
  | linkCreated (l : SubscriptionLink) (url : QrContent)
  | link (l : SubscriptionLink)
  | profile (p : VpnProfile)
  | config (c : DeliveredConfig)
  | expired (ids : List Id)

/-- The operator's `INSERT INTO promo_codes`. -/
def addPromoCode (code : String) (discountType : PromoDiscountType) (discountValue : Rat)
    (maxUses : Option Int) (validFrom validUntil : Option Time) (active : Bool) : Req Unit := do
  let db ← getDb
  Eff.require (db.promoByCode code).isNone uniqueViolation
  let id ← nextSerial
  let promo : PromoCode := {
    id := id
    code := code
    discountType := discountType
    discountValue := numeric2 discountValue
    maxUses := maxUses
    usedCount := 0
    validFrom := validFrom
    validUntil := validUntil
    active := active }
  alter fun db => {db with promoCodes := db.promoCodes.insert promo}

def cancelSubscription (telegramId : Int) (subscriptionId : Id) : Req Unit := do
  let user ← currentUser telegramId
  let subscription ← getSubscription subscriptionId
  Eff.require (subscription.userId=user.id)
    ⟨.permissionDenied,"not_your_subscription","Not your subscription"⟩
  cancel subscription

def refundPayment (adminId paymentId : Id) : Req Unit := do
  let db ← getDb
  let payment ← Eff.orRaise ⟨.notFound,"payment_not_found","Payment not found"⟩
    (db.payments.get? paymentId)
  refund payment
  recordAudit (some adminId) "payment.refunded" "payment" (some paymentId)
    [("user_id",toString payment.userId),("amount",numericText payment.amount)]

def updateUserStatus (adminId userId : Id) (status : UserStatus) : Req Unit := do
  let db ← getDb
  let user ← Eff.orRaise ⟨.notFound,"user_not_found","User not found"⟩ (db.users.get? userId)
  updateUser user.id (fun u => {u with status := status}) fun _ => rfl
  recordAudit (some adminId) "user.status_updated" "user" (some userId)
    [("status",match status with | .active => "active" | .blocked => "blocked")]

def handleBilling (cfg : Settings) : BillingRequest → Req Response
  | .authenticateTelegram payload => do
    getOrCreateFromTelegram payload
    pure .done
  | .updateUserStatus adminId userId status => do
    updateUserStatus adminId userId status
    pure .done
  | .createPlan adminId payload => do
    let plan ← createPlan payload
    recordAudit (some adminId) "plan.created" "plan" (some plan.id) []
    pure .done
  | .updatePlan adminId planId payload => do
    updatePlan planId payload
    recordAudit (some adminId) "plan.updated" "plan" (some planId) []
    pure .done
  | .createPayment telegramId planId promoCode => do
    let user ← currentUser telegramId
    let plan ← getPlan planId
    let payment ← createPayment cfg user plan promoCode
    pure (.payment payment)
  | .paymentWebhook rawBody signature => do
    handleWebhook cfg rawBody signature
    pure .done
  | .refundPayment adminId paymentId => do
    refundPayment adminId paymentId
    pure .done
  | .cancelSubscription telegramId subscriptionId => do
    cancelSubscription telegramId subscriptionId
    pure .done
  | .addPromoCode code discountType discountValue maxUses validFrom validUntil active => do
    addPromoCode code discountType discountValue maxUses validFrom validUntil active
    pure .done
  | .setDeviceLimitOverride subscriptionId limit => do
    updateSubscription subscriptionId (fun s => {s with deviceLimitOverride := limit}) fun _ => rfl
    pure .done

def getMySettings (userId : Id) : Req Unit := do
  let _ ← getOrCreateUserProfile userId
  pure ()

def handleRouting (cfg : Settings) : RoutingRequest → Req Response
  | .createCategory adminId name description => do
    let category ← createCategory name description
    recordAudit (some adminId) "routing_category.created" "routing_category" (some category.id) []
    pure .done
  | .addRule categoryId domain routeType enabled => do
    let _ ← addRule cfg categoryId domain routeType enabled
    pure .done
  | .getMySettings telegramId => do
    let user ← currentUser telegramId
    getMySettings user.id
    pure .done
  | .setMyMode telegramId mode => do
    let user ← currentUser telegramId
    setMode user.id mode
    getMySettings user.id
    pure .done
  | .setMyCategory telegramId categoryId enabled => do
    let user ← currentUser telegramId
    setCategoryPreference user.id categoryId enabled
    getMySettings user.id
    pure .done
  | .addMyDomain telegramId domain routeType => do
    let user ← currentUser telegramId
    addCustomDomain cfg user.id domain routeType
    getMySettings user.id
    pure .done

def handleServers : ServerRequest → Req Response
  | .createServer adminId payload => do
    let server ← createServer payload
    recordAudit (some adminId) "server.created" "vpn_server" (some server.id) []
    pure .done
  | .updateServer adminId serverId payload => do
    updateServer serverId payload
    recordAudit (some adminId) "server.updated" "vpn_server" (some serverId) []
    pure .done
  | .deleteServer adminId serverId => do
    deleteServer serverId
    recordAudit (some adminId) "server.deleted" "vpn_server" (some serverId) []
    pure .done
  | .createVlessServer adminId payload => do
    let created ← createVlessServer payload
    recordAudit (some adminId) "vless_server.created" "vpn_server" (some created.1.id) []
    pure .done
  | .updateVlessServer adminId serverId payload => do
    updateVlessServer serverId payload
    recordAudit (some adminId) "vless_server.updated" "vpn_server" (some serverId) []
    pure .done
  | .deleteVlessServer adminId serverId => do
    deleteVlessServer serverId
    recordAudit (some adminId) "vless_server.deleted" "vpn_server" (some serverId) []
    pure .done

def getLink (deviceId : Id) : Req SubscriptionLink := do
  let db ← getDb
  Eff.orRaise subscriptionLinkNotFound (db.linkOf deviceId)

def getDeviceProfile (deviceId : Id) : Req VpnProfile := do
  let db ← getDb
  let profile ← currentProfile (db.currentProfiles deviceId)
  Eff.orRaise ⟨.notFound,"profile_not_found","No routing profile generated yet"⟩ profile

def answerDevice (device : Device) : Req Response := do
  let device ← refreshed device
  pure (.device device)

def answerLink (link : SubscriptionLink) : Req Response := do
  let db ← getDb
  pure (.link ((db.subscriptionLinks.get? link.id).getD link))

def handleDevice (cfg : Settings) (device : Device) : DeviceRequest → Req Response
  | .reissue => do
    let result ← reissue cfg device
    pure (.provisioned result)
  | .disable => do
    disable device
    answerDevice device
  | .enable => do
    enable device
    answerDevice device
  | .revoke => do
    revoke device
    answerDevice device
  | .createOrRotateLink => do
    let link ← createOrRotate device.id
    let url ← generateQrCode (.url cfg.subscriptionBaseUrl link.2)
    pure (.linkCreated link.1 url)
  | .getLink => do
    let link ← getLink device.id
    pure (.link link)
  | .revokeLink => do
    let link ← getLink device.id
    revokeLink link
    answerLink link
  | .getProfile => do
    let profile ← getDeviceProfile device.id
    pure (.profile profile)
  | .refreshProfile => do
    let profile ← regenerateProfile cfg device.id device.userId
    pure (.profile profile)

def handleCreateDevice (cfg : Settings) (telegramId : Int) (name : String)
    (serverId : Option Id) (protocol : VpnProtocol) : Req Response := do
  let user ← currentUser telegramId
  let result ← provision cfg user name serverId protocol
  pure (.provisioned result)

def handleOwned (cfg : Settings) (telegramId : Int) (deviceId : Id) (r : DeviceRequest) :
    Req Response := do
  let user ← currentUser telegramId
  let device ← getOwned deviceId user.id
  handleDevice cfg device r

def handle (cfg : Settings) : Request → Req Response
  | .billing r => handleBilling cfg r
  | .routing r => handleRouting cfg r
  | .servers r => handleServers r
  | .listDevices telegramId => do
    let user ← currentUser telegramId
    let db ← getDb
    pure (.devices (db.devicesOf user.id))
  | .createDevice telegramId name serverId protocol =>
    handleCreateDevice cfg telegramId name serverId protocol
  | .device telegramId deviceId r => handleOwned cfg telegramId deviceId r
  | .fetchSubscription token => do
    let config ← deliver token
    pure (.config config)
  | .sweep asOf => do
    let ids ← runOnce asOf
    pure (.expired ids)

/-- `get_db`, and the worker's session: one transaction, committed at the end and rolled back on
any exception. What the agents did and the notices sent stay. -/
def transaction {α : Type} (m : Req α) (env : Env) (w : World) : Except AppError α×World :=
  match (do
    let a ← m
    flush
    pure a : Req α) ⟨w,env⟩ with
  | (.ok a,s) => (.ok a,s.toWorld)
  | (.error e,s) => (.error e,{s.toWorld with db := w.db})

def serve (cfg : Settings) (env : Env) (r : Request) (w : World) : Except AppError Response×World :=
  transaction (handle cfg r) env w

/-- No row, no agent record; the sequence starts at 1. -/
def World.initial : World where
  db := .empty
  vpn := fun _ => .empty
  xray := fun _ => .empty
  serial := 1
  notices := []

end VpnService.Backend
