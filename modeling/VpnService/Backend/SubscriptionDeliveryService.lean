import VpnService.Backend.SubscriptionLinkService
import VpnService.Backend.RoutingService

namespace VpnService.Backend

/-- What a delivered body is rendered from: a peer with its server and profile, or the
credentials with their servers and configs. -/
inductive DeliveredConfig
  | wireguard (device : Device) (peer : VpnPeer) (server : VpnServer)
      (profile : Option VpnProfile)
  | vless (device : Device)
      (items : List (VlessCredential×VpnServer×VlessServerConfig))

def deliveryNotFound : AppError := ⟨.notFound,"not_found","Not found"⟩

/-- The subscription the delivery accepts: the latest active one, if it is not over. -/
def coveredAt (db : Database) (now : Time) (userId : Id) : Bool :=
  match db.activeSubscription userId with
  | none => false
  | some subscription => match subscription.expiresAt with
    | none => false
    | some t => now<t

/-- `SubscriptionDeliveryService._authorize`. -/
def authorize (token : Secret) : Req Device := do
  let resolved ← resolveToken token
  let link ← Eff.orRaise deliveryNotFound
    (resolved.filter fun l => l.status=.active)
  let db ← getDb
  let device ← Eff.orRaise deliveryNotFound
    ((db.devices.get? link.deviceId).filter fun d => d.status=.active)
  let now ← getNow
  Eff.require (coveredAt db now device.userId) deliveryNotFound
  recordAccess link
  pure device

def deliveryItems (db : Database) (deviceId : Id) :
    List (VlessCredential×VpnServer×VlessServerConfig) :=
  (db.activeCredentials deviceId).filterMap fun c => do
    let server ← db.vpnServers.get? c.serverId
    let config ← db.vlessConfig server.id
    pure (c,server,config)

def deliverVless (device : Device) : Req DeliveredConfig := do
  let db ← getDb
  let items := deliveryItems db device.id
  Eff.require (items≠[]) deliveryNotFound
  pure (.vless device items)

/-- `GET /sub/{token}`; there is one formatter for each protocol, so the format hint changes
nothing. -/
def deliver (token : Secret) : Req DeliveredConfig := do
  let device ← authorize token
  match device.protocol with
  | .vless => deliverVless device
  | .wireguard => do
    let db ← getDb
    let peer ← Eff.orRaise deliveryNotFound (db.activePeer device.id)
    let server ← Eff.orRaise deliveryNotFound (db.vpnServers.get? peer.serverId)
    let profile ← currentProfile (db.currentProfiles device.id)
    pure (.wireguard device peer server profile)

/-- The values of the lines of `render_wireguard_config`, without a private key. -/
structure WireguardConfig where
  address : IpAddress
  dns : List String
  publicKey : String
  endpoint : String
  allowedIps : List String
  deriving DecidableEq

/-- The values of a `vless://` line. -/
structure VlessUri where
  uuid : Int
  host : String
  port : Int
  sni : String
  realityPublicKey : String
  fingerprint : String
  flow : String
  networkType : String
  name : String
  deriving DecidableEq

inductive DeliveredBody | wireguard (config : WireguardConfig) | vless (lines : List VlessUri)
  deriving DecidableEq

def renderWireguardConfig (assignedIp : IpAddress) (serverPublicKey serverEndpoint : String)
    (allowedIps dns : List String) : WireguardConfig where
  address := assignedIp
  dns := dns
  publicKey := serverPublicKey
  endpoint := serverEndpoint
  allowedIps := if allowedIps=[] then fullVpnAllowedIps else allowedIps

abbrev SubscriptionFormatter := VpnPeer → VpnServer → Option VpnProfile → WireguardConfig

/-- `WireGuardFormatter.render`. -/
def renderPeer : SubscriptionFormatter := fun peer server profile =>
  renderWireguardConfig peer.assignedIp server.publicKey server.endpoint
    ((profile.map VpnProfile.allowedIps).getD fullVpnAllowedIps)
    ((profile.map VpnProfile.dns).getD [])

def renderVlessUri (device : Device) (item : VlessCredential×VpnServer×VlessServerConfig) :
    VlessUri where
  uuid := item.1.uuid
  host := item.2.1.hostname
  port := item.2.2.port
  sni := item.2.2.sni
  realityPublicKey := item.2.2.realityPublicKey
  fingerprint := item.2.2.fingerprint
  flow := item.2.2.flow
  networkType := item.2.2.networkType
  name := device.name

/-- `get_subscription_formatters`. -/
def formatters : List (String×SubscriptionFormatter) := [("wireguard",renderPeer)]

/-- The formatter of the hint, or the default one if there is none. -/
def pickFormatter (formatHint : Option String) : SubscriptionFormatter :=
  ((formatHint.filter fun f => f≠"").bind fun f => formatters.lookup f).getD renderPeer

/-- There is one formatter, so every hint picks it. -/
theorem pickFormatter_eq (formatHint : Option String) : pickFormatter formatHint=renderPeer := by
  unfold pickFormatter
  cases formatHint.filter fun f => f≠"" with
  | none => rfl
  | some f =>
    simp only [Option.bind_some,formatters,List.lookup_cons,List.lookup_nil]
    cases f=="wireguard" with
    | true => rfl
    | false => rfl

def renderDelivered (formatHint : Option String) : DeliveredConfig → DeliveredBody
  | .wireguard _ peer server profile => .wireguard (pickFormatter formatHint peer server profile)
  | .vless device items => .vless (items.map (renderVlessUri device))

/-- The content and the content type `deliver` returns. -/
def deliverBody (token : Secret) (formatHint : Option String) : Req (DeliveredBody×String) := do
  let config ← deliver token
  pure (renderDelivered formatHint config,"text/plain; charset=utf-8")

end VpnService.Backend
