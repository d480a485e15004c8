import VpnService.Backend.AdminAuthService
import VpnService.Backend.BotApi

namespace VpnService.Backend

/-- The requests behind `require_admin_role`. -/
inductive StaffRequest
  | listUsers (offset limit : Int)
  | getUser (userId : Id)
  | updateUserStatus (userId : Id) (status : UserStatus)
  | createPlan (payload : PlanCreate)
  | updatePlan (planId : Id) (payload : PlanUpdate)
  | listAllPayments (offset limit : Int)
  | refundPayment (paymentId : Id)
  | createCategory (name : String) (description : Option String)
  | addRule (categoryId : Id) (domain : String) (routeType : RouteType) (enabled : Bool)
  | createServer (payload : VpnServerCreate)
  | updateServer (serverId : Id) (payload : VpnServerUpdate)
  | deleteServer (serverId : Id)
  | createVlessServer (payload : VlessServerCreate)
  | updateVlessServer (serverId : Id) (payload : VlessServerUpdate)
  | deleteVlessServer (serverId : Id)
  | listAllTickets (offset limit : Int)
  | adminReply (ticketId : Id) (text : String)
  | closeTicket (ticketId : Id)
  | listAuditLogs (offset limit : Int)

inductive StaffResponse
  | users (us : List User)
  | user (u : User)
  | plan (p : Plan)
  | payments (ps : List Payment)
  | payment (p : Payment)
  | category (c : RoutingCategory)
  | rule (r : RoutingRule)
  | server (s : VpnServer)
  | vlessServer (s : VpnServer) (c : VlessServerConfig)
  | deleted
  | tickets (ts : List SupportTicket)
  | ticket (t : SupportTicket) (messages : List SupportMessage)
  | message (m : SupportMessage)
  | auditLogs (ls : List AuditLog)

/-- The roles each endpoint names. -/
def StaffRequest.roles : StaffRequest → List AdminRole
  | .listUsers .. | .getUser .. | .listAllPayments .. | .listAuditLogs .. =>
    [.superadmin,.support,.viewer]
  | .updateUserStatus .. | .listAllTickets .. | .adminReply .. | .closeTicket .. =>
    [.superadmin,.support]
  | .createPlan .. | .updatePlan .. | .refundPayment .. | .createCategory .. | .addRule ..
  | .createServer .. | .updateServer .. | .deleteServer .. | .createVlessServer ..
  | .updateVlessServer .. | .deleteVlessServer .. => [.superadmin]

/-- `OFFSET` and `LIMIT`, which PostgreSQL refuses below zero. -/
def page {α : Type} (offset limit : Int) (xs : List α) : Req (List α) := do
  Eff.require (0≤offset ∧ 0≤limit) (internalError "DBAPIError")
  pure ((xs.drop offset.toNat).take limit.toNat)

/-- `PlanRead` of a plan in the session, whose price is the one that was sent. -/
def readPlan (price : Option Rat) (p : Plan) : StaffResponse :=
  .plan {p with price := price.getD p.price}

/-- `SupportService.close`. -/
def close (ticket : SupportTicket) : Req SupportTicket := do
  setTicketStatus ticket.id .closed
  pure {ticket with status := .closed}

/-- `list_all`, the newest first; as in `listMyTickets` the messages of no ticket are loaded. -/
def listAllTickets (offset limit : Int) : Req StaffResponse := do
  let db ← getDb
  let ts ← page offset limit db.supportTickets.rows.reverse
  Eff.require (ts=[]) (internalError "ValidationError")
  pure (.tickets ts)

def getUser (userId : Id) : Req User := do
  let db ← getDb
  Eff.orRaise ⟨.notFound,"user_not_found","User not found"⟩ (db.users.get? userId)

/-- A request once its admin is known. -/
def handleStaff (cfg : Settings) (admin : AdminUser) : StaffRequest → Req StaffResponse
  | .listUsers offset limit => do
    let db ← getDb
    let us ← page offset limit db.users.rows
    pure (.users us)
  | .getUser userId => do
    let user ← getUser userId
    pure (.user user)
  | .updateUserStatus userId status => do
    let user ← getUser userId
    updateUserStatus admin.id userId status
    pure (.user {user with status := status})
  | .createPlan payload => do
    let plan ← createPlan payload
    recordAudit (some admin.id) "plan.created" "plan" (some plan.id) []
    pure (readPlan (some payload.price) plan)
  | .updatePlan planId payload => do
    updatePlan planId payload
    recordAudit (some admin.id) "plan.updated" "plan" (some planId) []
    let plan ← getPlan planId
    pure (readPlan payload.price plan)
  | .listAllPayments offset limit => do
    let db ← getDb
    let ps ← page offset limit db.payments.rows.reverse
    pure (.payments ps)
  | .refundPayment paymentId => do
    refundPayment admin.id paymentId
    let db ← getDb
    let payment ← Eff.orRaise (internalError "AttributeError") (db.payments.get? paymentId)
    pure (.payment payment)
  | .createCategory name description => do
    let category ← createCategory name description
    recordAudit (some admin.id) "routing_category.created" "routing_category" (some category.id) []
    pure (.category category)
  | .addRule categoryId domain routeType enabled => do
    let rule ← addRule cfg categoryId domain routeType enabled
    pure (.rule rule)
  | .createServer payload => do
    let server ← createServer payload
    recordAudit (some admin.id) "server.created" "vpn_server" (some server.id) []
    pure (.server server)
  | .updateServer serverId payload => do
    updateServer serverId payload
    recordAudit (some admin.id) "server.updated" "vpn_server" (some serverId) []
    let server ← getServer serverId
    pure (.server server)
  | .deleteServer serverId => do
    deleteServer serverId
    recordAudit (some admin.id) "server.deleted" "vpn_server" (some serverId) []
    pure .deleted
  | .createVlessServer payload => do
    let created ← createVlessServer payload
    recordAudit (some admin.id) "vless_server.created" "vpn_server" (some created.1.id) []
    pure (.vlessServer created.1 created.2)
  | .updateVlessServer serverId payload => do
    updateVlessServer serverId payload
    recordAudit (some admin.id) "vless_server.updated" "vpn_server" (some serverId) []
    let found ← getVlessServer serverId
    pure (.vlessServer found.1 found.2)
  | .deleteVlessServer serverId => do
    deleteVlessServer serverId
    recordAudit (some admin.id) "vless_server.deleted" "vpn_server" (some serverId) []
    pure .deleted
  | .listAllTickets offset limit => listAllTickets offset limit
  | .adminReply ticketId text => do
    let ticket ← getTicket ticketId
    let message ← addMessage ticket .admin text
    recordAudit (some admin.id) "support_ticket.replied" "support_ticket" (some ticketId) []
    pure (.message message)
  | .closeTicket ticketId => do
    let ticket ← getTicket ticketId
    let closed ← close ticket
    recordAudit (some admin.id) "support_ticket.closed" "support_ticket" (some ticketId) []
    let db ← getDb
    pure (.ticket closed (db.messagesOf ticketId))
  | .listAuditLogs offset limit => do
    let db ← getDb
    let ls ← page offset limit db.auditLogs.rows
    pure (.auditLogs ls)

inductive HttpRequest
  | bot (r : BotRequest)
  | authenticateTelegram (payload : TelegramAuthRequest)
  | paymentWebhook (rawBody : RawBody) (signature : Option Signature)
  | fetchSubscription (token : Secret)
  | adminLogin (email password : String)
  | bootstrap (email password secret : String)
  | staff (r : StaffRequest)

/-- What the database goes through: requests with their headers, the worker, `create_admin.py`, and
what an operator does to the rows for which there is no endpoint. -/
inductive Happening
  | request (headers : Headers) (r : HttpRequest)
  | sweep (asOf : Option Time)
  | createAdmin (email password : String) (role : AdminRole)
  | setAdmin (adminId : Id) (role : AdminRole) (isActive : Bool)
  | addPromoCode (code : String) (discountType : PromoDiscountType) (discountValue : Rat)
      (maxUses : Option Int) (validFrom validUntil : Option Time) (active : Bool)
  | setDeviceLimitOverride (subscriptionId : Id) (limit : Option Int)

inductive HttpResponse
  | bot (a : BotResponse)
  | core (a : Response)
  | token (accessToken : String)
  | staff (admin : AdminUser) (a : StaffResponse)
  | admin (a : AdminUser)

/-- The stored state together with the staff accounts. -/
structure Site where
  world : World
  admins : Admins

def Site.initial : Site := ⟨.initial,.empty⟩

section

variable (cfg : Settings) (auth : AuthSettings) (jwt : Jwt) (admins : Admins)

/-- The answer to a request, and the staff accounts it leaves. -/
def handleHttp (headers : Headers) : HttpRequest → Req (HttpResponse×Admins)
  | .bot r => do
    let user ← getCurrentUser auth headers
    let a ← handleUser cfg user r
    pure (.bot a,admins)
  | .authenticateTelegram payload => do
    requireInternalService auth headers
    getOrCreateFromTelegram payload
    pure (.core .done,admins)
  | .paymentWebhook rawBody signature => do
    handleWebhook cfg rawBody signature
    pure (.core .done,admins)
  | .fetchSubscription token => do
    let config ← deliver token
    pure (.core (.config config),admins)
  | .adminLogin email password => do
    let admin ← authenticate admins email password
    let token ← issueTokens jwt auth admin
    pure (.token token,admins)
  | .bootstrap email password secret => do
    let admin ← AdminAuthService.bootstrapFirstAdmin auth admins email password secret
    let token ← issueTokens jwt auth admin
    pure (.token token,admins.insert admin)
  | .staff r => do
    let admin ← requireAdminRole jwt auth admins headers r.roles
    let a ← handleStaff cfg admin r
    pure (.staff admin a,admins)

/-- An account as an operator leaves it. -/
def setAccount (role : AdminRole) (isActive : Bool) (a : AdminUser) : AdminUser :=
  {a with role := role,isActive := isActive}

theorem setAccount_id (role : AdminRole) (isActive : Bool) (a : AdminUser) :
    (setAccount role isActive a).id=a.id := rfl

def overrideLimit (limit : Option Int) (s : Subscription) : Subscription :=
  {s with deviceLimitOverride := limit}

theorem overrideLimit_id (limit : Option Int) (s : Subscription) :
    (overrideLimit limit s).id=s.id := rfl

def handleHappening : Happening → Req (HttpResponse×Admins)
  | .request headers r => handleHttp cfg auth jwt admins headers r
  | .sweep asOf => do
    let ids ← runOnce asOf
    pure (.core (.expired ids),admins)
  | .createAdmin email password role => do
    let admin ← createAdmin admins email password role
    pure (.admin admin,admins.insert admin)
  | .setAdmin adminId role isActive =>
    pure (.core .done,
      admins.modify adminId (setAccount role isActive) (setAccount_id role isActive))
  | .addPromoCode code discountType discountValue maxUses validFrom validUntil active => do
    addPromoCode code discountType discountValue maxUses validFrom validUntil active
    pure (.core .done,admins)
  | .setDeviceLimitOverride subscriptionId limit => do
    updateSubscription subscriptionId (overrideLimit limit) (overrideLimit_id limit)
    pure (.core .done,admins)

end

/-- Something that happens, with what it finds outside the stored state. -/
structure Occasion where
  env : Env
  happening : Happening

section

variable (cfg : Settings) (auth : AuthSettings) (jwt : Jwt)

/-- One transaction, also over the staff accounts. -/
def serveSite (site : Site) (o : Occasion) : Except AppError HttpResponse×Site :=
  match transaction (handleHappening cfg auth jwt site.admins o.happening) o.env site.world with
  | (.ok (a,admins),w) => (.ok a,⟨w,admins⟩)
  | (.error e,w) => (.error e,⟨w,site.admins⟩)

/-- The state that is left, whether the request is answered or fails. -/
def Site.after (site : Site) (o : Occasion) : Site := (serveSite cfg auth jwt site o).2

def Site.run (site : Site) (os : List Occasion) : Site := os.foldl (Site.after cfg auth jwt) site

end

end VpnService.Backend
