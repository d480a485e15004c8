import VpnService.Framework.Store
import Mathlib.Data.Rat.Defs

namespace VpnService.Backend

/-- Rows, agent records and generated secrets are all numbered from one sequence. -/
abbrev Id := Int

/-- Microseconds since the epoch, UTC. -/
abbrev Time := Int

/-- `timedelta(days=...)`. -/
def days (n : Int) : Time := n*86400000000

/-- The first and the last microsecond of the years 1 to 9999. -/
def datetimeMin : Time := -62135596800000000

def datetimeMax : Time := 253402300799999999

/-- `t+timedelta(days=n)` is a `datetime`; outside, an `OverflowError` is raised. -/
def InCalendar (t : Time) (n : Int) : Prop :=
  n.natAbs≤999999999 ∧ datetimeMin≤t+days n ∧ t+days n≤datetimeMax

instance (t : Time) (n : Int) : Decidable (InCalendar t n) :=
  inferInstanceAs (Decidable (_ ∧ _))

inductive UserStatus | active | blocked
  deriving DecidableEq,Repr

inductive SubscriptionStatus | created | pending | active | expired | cancelled
  deriving DecidableEq,Repr

inductive DeviceStatus | active | disabled | revoked
  deriving DecidableEq,Repr

inductive VpnServerStatus | online | degraded | offline | maintenance
  deriving DecidableEq,Repr

inductive VpnPeerStatus | active | disabled | revoked
  deriving DecidableEq,Repr

inductive SubscriptionLinkStatus | active | revoked
  deriving DecidableEq,Repr

inductive VpnProtocol | wireguard | vless
  deriving DecidableEq,Repr

inductive VlessCredentialStatus | active | disabled | revoked
  deriving DecidableEq,Repr

inductive RoutingMode | fullVpn | smartVpn
  deriving DecidableEq,Repr

inductive RouteType | vpn | direct
  deriving DecidableEq,Repr

inductive PaymentStatus | pending | succeeded | failed | refunded | cancelled
  deriving DecidableEq,Repr

inductive SupportTicketStatus | opened | pending | closed
  deriving DecidableEq,Repr

inductive SupportSender | user | admin
  deriving DecidableEq,Repr

inductive PromoDiscountType | percent | fixed
  deriving DecidableEq,Repr

/-- A bearer token or an external payment id: drawn from `secrets`, or a text someone sends. -/
inductive Secret | generated (serial : Int) | text (value : String)
  deriving DecidableEq,Repr

/-- `sha256`, taken to be injective on tokens. -/
structure TokenHash where
  preimage : Secret
  deriving DecidableEq,Repr

inductive IpVersion | v4 | v6
  deriving DecidableEq,Repr

structure IpAddress where
  version : IpVersion
  value : Nat
  deriving DecidableEq,Repr

structure IpNetwork where
  version : IpVersion
  networkAddress : Nat
  prefixlen : Nat
  deriving DecidableEq,Repr

/-- A network column: its text, and what `ipaddress.ip_network(text, strict=False)` makes of it. -/
structure NetworkText where
  text : String
  network : Option IpNetwork
  deriving DecidableEq,Repr

structure User where
  id : Id
  telegramId : Int
  username : Option String
  firstName : Option String
  lastName : Option String
  languageCode : Option String
  status : UserStatus
  deriving DecidableEq

structure Plan where
  id : Id
  name : String
  slug : String
  price : Rat
  currency : String
  durationDays : Int
  maxDevices : Int
  maxSpeedMbps : Option Int
  active : Bool
  deriving DecidableEq

structure Subscription where
  id : Id
  userId : Id
  planId : Id
  status : SubscriptionStatus
  startedAt : Option Time
  expiresAt : Option Time
  autoRenew : Bool
  deviceLimitOverride : Option Int
  deriving DecidableEq

structure PromoCode where
  id : Id
  code : String
  discountType : PromoDiscountType
  discountValue : Rat
  maxUses : Option Int
  usedCount : Int
  validFrom : Option Time
  validUntil : Option Time
  active : Bool
  deriving DecidableEq

structure PromoCodeRedemption where
  id : Id
  promoCodeId : Id
  userId : Id
  paymentId : Option Id
  redeemedAt : Time
  deriving DecidableEq

structure Payment where
  id : Id
  userId : Id
  subscriptionId : Option Id
  planId : Id
  provider : String
  externalPaymentId : Option Secret
  idempotencyKey : Secret
  amount : Rat
  currency : String
  status : PaymentStatus
  promoCodeId : Option Id
  deriving DecidableEq

/-- `agentBaseUrl` is the URL after `rstrip('/')`, which every request takes of it. -/
structure VpnServer where
  id : Id
  name : String
  country : String
  city : Option String
  hostname : String
  agentBaseUrl : String
  publicKey : String
  endpoint : String
  listenPort : Int
  internalNetwork : NetworkText
  status : VpnServerStatus
  capacity : Int
  currentLoad : Int
  protocol : VpnProtocol
  deriving DecidableEq

structure VlessServerConfig where
  id : Id
  serverId : Id
  xrayAgentBaseUrl : String
  port : Int
  realityPublicKey : String
  realityShortIds : List String
  sni : String
  fingerprint : String
  flow : String
  networkType : String
  deriving DecidableEq

structure Device where
  id : Id
  userId : Id
  name : String
  publicKey : Option Int
  assignedIp : Option IpAddress
  serverId : Option Id
  status : DeviceStatus
  lastSeen : Option Time
  protocol : VpnProtocol
  deriving DecidableEq

structure VpnPeer where
  id : Id
  deviceId : Id
  serverId : Id
  publicKey : Int
  assignedIp : IpAddress
  status : VpnPeerStatus
  deriving DecidableEq

structure VlessCredential where
  id : Id
  deviceId : Id
  serverId : Id
  uuid : Int
  status : VlessCredentialStatus
  rotatedAt : Option Time
  revokedAt : Option Time
  deriving DecidableEq

structure SubscriptionLink where
  id : Id
  deviceId : Id
  tokenHash : TokenHash
  status : SubscriptionLinkStatus
  rotatedAt : Option Time
  revokedAt : Option Time
  lastAccessedAt : Option Time
  accessCount : Int
  deriving DecidableEq

structure RoutingCategory where
  id : Id
  name : String
  description : Option String
  enabled : Bool
  deriving DecidableEq

structure RoutingRule where
  id : Id
  categoryId : Id
  domain : String
  routeType : RouteType
  enabled : Bool
  updatedAt : Time
  deriving DecidableEq

structure UserRoutingProfile where
  id : Id
  userId : Id
  mode : RoutingMode
  deriving DecidableEq

structure UserCategoryPreference where
  id : Id
  userId : Id
  categoryId : Id
  enabled : Bool
  deriving DecidableEq

structure UserCustomDomain where
  id : Id
  userId : Id
  domain : String
  routeType : RouteType
  enabled : Bool
  createdAt : Time
  deriving DecidableEq

structure VpnProfile where
  id : Id
  deviceId : Id
  mode : RoutingMode
  allowedIps : List String
  dns : List String
  version : Int
  isCurrent : Bool
  generatedAt : Time
  deriving DecidableEq

structure SupportTicket where
  id : Id
  userId : Id
  subject : String
  status : SupportTicketStatus
  deriving DecidableEq

structure SupportMessage where
  id : Id
  ticketId : Id
  sender : SupportSender
  text : String
  createdAt : Time
  deriving DecidableEq

structure AuditLog where
  id : Id
  adminId : Option Id
  action : String
  targetType : String
  targetId : Option Id
  metadata : List (String×String)
  createdAt : Time
  deriving DecidableEq

/-- The PostgreSQL tables. A table's rows stand in the order of their `created_at`. -/
structure Database where
  users : Store User.id
  plans : Store Plan.id
  subscriptions : Store Subscription.id
  promoCodes : Store PromoCode.id
  promoCodeRedemptions : Store PromoCodeRedemption.id
  payments : Store Payment.id
  vpnServers : Store VpnServer.id
  vlessServerConfigs : Store VlessServerConfig.id
  devices : Store Device.id
  vpnPeers : Store VpnPeer.id
  vlessCredentials : Store VlessCredential.id
  subscriptionLinks : Store SubscriptionLink.id
  routingCategories : Store RoutingCategory.id
  routingRules : Store RoutingRule.id
  userRoutingProfiles : Store UserRoutingProfile.id
  userCategoryPreferences : Store UserCategoryPreference.id
  userCustomDomains : Store UserCustomDomain.id
  vpnProfiles : Store VpnProfile.id
  supportTickets : Store SupportTicket.id
  supportMessages : Store SupportMessage.id
  auditLogs : Store AuditLog.id

def Database.empty : Database where
  users := .empty
  plans := .empty
  subscriptions := .empty
  promoCodes := .empty
  promoCodeRedemptions := .empty
  payments := .empty
  vpnServers := .empty
  vlessServerConfigs := .empty
  devices := .empty
  vpnPeers := .empty
  vlessCredentials := .empty
  subscriptionLinks := .empty
  routingCategories := .empty
  routingRules := .empty
  userRoutingProfiles := .empty
  userCategoryPreferences := .empty
  userCustomDomains := .empty
  vpnProfiles := .empty
  supportTickets := .empty
  supportMessages := .empty
  auditLogs := .empty

end VpnService.Backend
