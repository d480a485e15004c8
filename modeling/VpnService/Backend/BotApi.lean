import VpnService.Backend.Api
import VpnService.Backend.SupportService

namespace VpnService.Backend

/-- The requests the bot sends for a user. -/
inductive BotRequest
  | getMe
  | listMySubscriptions
  | getMyActiveSubscription
  | cancelSubscription (subscriptionId : Id)
  | createPayment (planId : Id) (promoCode : Option String)
  | listMyPayments
  | getMySettings
  | setMyMode (mode : RoutingMode)
  | setMyCategory (categoryId : Id) (enabled : Bool)
  | addMyDomain (domain : String) (routeType : RouteType)
  | listDevices
  | createDevice (name : String) (serverId : Option Id) (protocol : VpnProtocol)
  | device (deviceId : Id) (r : DeviceRequest)
  | createTicket (subject message : String)
  | listMyTickets
  | getTicket (ticketId : Id)
  | addTicketMessage (ticketId : Id) (text : String)

structure RoutingSettings where
  mode : RoutingMode
  categories : List RoutingCategory
  enabledCategoryIds : List Id
  customDomains : List String

/-- A new payment is answered with a checkout URL made of its external id. -/
inductive BotResponse
  | user (u : User)
  | subscriptions (xs : List (Subscription×Plan))
  | activeSubscription (x : Option (Subscription×Plan))
  | subscription (x : Subscription×Plan)
  | paymentCreated (p : Payment)
  | payments (ps : List Payment)
  | settings (x : RoutingSettings)
  | core (r : Response)
  | ticket (t : SupportTicket) (messages : List SupportMessage)
  | tickets (ts : List SupportTicket)
  | message (m : SupportMessage)

/-- `SubscriptionRead` shows the plan of a subscription with it. -/
def readSubscription (s : Subscription) : Req (Subscription×Plan) := do
  let db ← getDb
  let plan ← Eff.orRaise (internalError "ValidationError") (db.plans.get? s.planId)
  pure (s,plan)

def readSubscriptions : List Subscription → Req (List (Subscription×Plan))
  | [] => pure []
  | s::ss => do
    let x ← readSubscription s
    let xs ← readSubscriptions ss
    pure (x::xs)

def readActiveSubscription : Option Subscription → Req (Option (Subscription×Plan))
  | none => pure none
  | some s => do
    let x ← readSubscription s
    pure (some x)

/-- `get_my_routing_settings`. -/
def readMySettings (userId : Id) : Req BotResponse := do
  let profile ← getOrCreateUserProfile userId
  let db ← getDb
  let settings : RoutingSettings := {
    mode := profile.mode
    categories := db.routingCategories.rows.filter fun c => c.enabled
    enabledCategoryIds :=
      ((db.categoryPreferences userId).filter fun p => p.enabled).map fun p => p.categoryId
    customDomains := ((db.customDomains userId).filter fun d => d.enabled).map fun d => d.domain }
  pure (.settings settings)

/-- The list loads no messages, and `SupportTicketRead` fails to load those of any ticket in it. -/
def listMyTickets (userId : Id) : Req BotResponse := do
  let db ← getDb
  Eff.require (db.ticketsOf userId=[]) (internalError "ValidationError")
  pure (.tickets (db.ticketsOf userId))

def readTicket (ticket : SupportTicket) : Req BotResponse := do
  let db ← getDb
  pure (.ticket ticket (db.messagesOf ticket.id))

def getOwnTicket (ticketId userId : Id) : Req SupportTicket := do
  let ticket ← getTicket ticketId
  Eff.require (ticket.userId=userId) ⟨.permissionDenied,"not_your_ticket","Not your ticket"⟩
  pure ticket

/-- A request once the acting user is known. -/
def handleUser (cfg : Settings) (user : User) : BotRequest → Req BotResponse
  | .getMe => pure (.user user)
  | .listMySubscriptions => do
    let db ← getDb
    let xs ← readSubscriptions (db.subscriptions.rows.filter fun s => s.userId=user.id).reverse
    pure (.subscriptions xs)
  | .getMyActiveSubscription => do
    let db ← getDb
    let x ← readActiveSubscription (db.activeSubscription user.id)
    pure (.activeSubscription x)
  | .cancelSubscription subscriptionId => do
    let subscription ← getSubscription subscriptionId
    Eff.require (subscription.userId=user.id)
      ⟨.permissionDenied,"not_your_subscription","Not your subscription"⟩
    cancel subscription
    let x ← readSubscription (cancelled subscription)
    pure (.subscription x)
  | .createPayment planId promoCode => do
    let plan ← getPlan planId
    let payment ← createPayment cfg user plan promoCode
    pure (.paymentCreated payment)
  | .listMyPayments => do
    let db ← getDb
    pure (.payments (db.payments.rows.filter fun p => p.userId=user.id).reverse)
  | .getMySettings => readMySettings user.id
  | .setMyMode mode => do
    setMode user.id mode
    readMySettings user.id
  | .setMyCategory categoryId enabled => do
    setCategoryPreference user.id categoryId enabled
    readMySettings user.id
  | .addMyDomain domain routeType => do
    addCustomDomain cfg user.id domain routeType
    readMySettings user.id
  | .listDevices => do
    let db ← getDb
    pure (.core (.devices (db.devicesOf user.id)))
  | .createDevice name serverId protocol => do
    let result ← provision cfg user name serverId protocol
    pure (.core (.provisioned result))
  | .device deviceId r => do
    let device ← getOwned deviceId user.id
    let answer ← handleDevice cfg device r
    pure (.core answer)
  | .createTicket subject message => do
    let ticket ← createTicket user.id subject message
    readTicket ticket
  | .listMyTickets => listMyTickets user.id
  | .getTicket ticketId => do
    let ticket ← getOwnTicket ticketId user.id
    readTicket ticket
  | .addTicketMessage ticketId text => do
    let ticket ← getOwnTicket ticketId user.id
    let message ← addMessage ticket .user text
    pure (.message message)

def handleBot (cfg : Settings) (telegramId : Int) (r : BotRequest) : Req BotResponse := do
  let user ← currentUser telegramId
  handleUser cfg user r

def serveBot (cfg : Settings) (env : Env) (telegramId : Int) (r : BotRequest) (w : World) :
    Except AppError BotResponse×World :=
  transaction (handleBot cfg telegramId r) env w

end VpnService.Backend
