import VpnService.Backend.SubscriptionService
import VpnService.Backend.RoutingService
import VpnService.Backend.IpAllocator
import VpnService.Backend.VpnServerService
import VpnService.Backend.SubscriptionLinkService

namespace VpnService.Backend

open Agent

structure PeerProvisioningResult where
  publicKey : Int
  privateKey : Int
  assignedIp : IpAddress
  serverPublicKey : String
  serverEndpoint : String
  dns : List String

structure ProvisionedDevice where
  device : Device
  configText : Option QrContent
  subscriptionUrl : Option QrContent

/-- `limit = device_limit_override or plan.max_devices`. -/
def deviceLimit (s : Subscription) (plan : Plan) : Int :=
  (s.deviceLimitOverride.filter fun n => n≠0).getD plan.maxDevices

def noActiveSubscription : AppError :=
  ⟨.permissionDenied,"no_active_subscription",
    "An active subscription is required to add a device"⟩

def deviceLimitReached (activeCount limit : Int) : AppError :=
  ⟨.limitExceeded,"device_limit_reached",
    s!"Device limit reached ({activeCount}/{limit}) for the current plan"⟩

/-- The verdict of `_enforce_device_limit`. -/
def limitVerdict (db : Database) (userId : Id) : Except AppError Unit :=
  match db.activeSubscription userId with
  | none => .error noActiveSubscription
  | some subscription => match db.plans.get? subscription.planId with
    | none => .error (internalError "AttributeError")
    | some plan =>
      let limit := deviceLimit subscription plan
      let activeCount := db.countActiveDevices userId
      if activeCount≥limit then .error (deviceLimitReached activeCount limit) else .ok ()

def enforceDeviceLimit (userId : Id) : Req Unit := do
  let db ← getDb
  match limitVerdict db userId with
  | .ok () => pure ()
  | .error e => Eff.raise e

def getOwned (deviceId userId : Id) : Req Device := do
  let db ← getDb
  Eff.orRaise ⟨.notFound,"device_not_found","Device not found"⟩
    ((db.devices.get? deviceId).filter fun d => d.userId=userId)

def updateDevice (deviceId : Id) (f : Device → Device) (hf : ∀ d,(f d).id=d.id) : Req Unit :=
  alter fun db => {db with devices := db.devices.modify deviceId f hf}

def setDeviceStatus (deviceId : Id) (status : DeviceStatus) : Req Unit :=
  updateDevice deviceId (fun d => {d with status := status}) fun _ => rfl

def setPeerStatus (peerId : Id) (status : VpnPeerStatus) : Req Unit :=
  alter fun db => {db with
    vpnPeers := db.vpnPeers.modify peerId (fun p => {p with status := status}) fun _ => rfl}

/-- `provider.create_peer`: the agent draws the key pair. -/
def createPeer (cfg : Settings) (deviceId : Id) (server : VpnServer) (assignedIp : IpAddress) :
    Req PeerProvisioningResult := do
  let now ← getNow
  let key ← nextSerial
  vpnRequest server fun store => some (PeerStore.createPeer key deviceId assignedIp now store)
  pure {
    publicKey := key
    privateKey := key
    assignedIp := assignedIp
    serverPublicKey := server.publicKey
    serverEndpoint := server.endpoint
    dns := cfg.vpnDnsList }

def deletePeer (publicKey : Int) (server : VpnServer) : Req Unit :=
  vpnRequest server fun store => some (PeerStore.deletePeer publicKey store)

/-- The unique constraints of `vpn_peers`. -/
def peerClash (db : Database) (p : VpnPeer) : Bool :=
  db.vpnPeers.rows.any fun q =>
    (q.serverId=p.serverId ∧ q.assignedIp=p.assignedIp) ∨ q.publicKey=p.publicKey

def ipAllocationConflict (server : VpnServer) : AppError :=
  ⟨.conflict,"ip_allocation_conflict",s!"Could not allocate a free IP on server {server.id} after"
    ++" 5 attempts due to concurrent provisioning"⟩

/-- `_create_peer_with_retry` with this many attempts left. `begin_nested` flushes what is
pending before it opens the savepoint. -/
def createPeerAttempts (cfg : Settings) (deviceId : Id) (server : VpnServer) :
    Nat → Req (PeerProvisioningResult×VpnPeer)
  | 0 => Eff.raise (ipAllocationConflict server)
  | attempts+1 => do
    let assignedIp ← allocateIp server
    let result ← createPeer cfg deviceId server assignedIp
    let id ← nextSerial
    let peer : VpnPeer := {
      id := id
      deviceId := deviceId
      serverId := server.id
      publicKey := result.publicKey
      assignedIp := result.assignedIp
      status := .active }
    flush
    flush
    let db ← getDb
    if peerClash db peer then do
      deletePeer peer.publicKey server
      createPeerAttempts cfg deviceId server attempts
    else do
      alter fun db => {db with vpnPeers := db.vpnPeers.insert peer}
      pure (result,peer)

/-- `_MAX_IP_ALLOCATION_ATTEMPTS = 5`. -/
def createPeerWithRetry (cfg : Settings) (deviceId : Id) (server : VpnServer) :
    Req (PeerProvisioningResult×VpnPeer) := createPeerAttempts cfg deviceId server 5

def chooseServer (requestedServerId : Option Id) (protocol : VpnProtocol) : Req VpnServer :=
  match requestedServerId.filter fun k => k≠0 with
  | some serverId => getServer serverId
  | none => pickBestAvailable protocol

/-- Inserts the device row; `devices.name` holds 64 characters. -/
def addDevice (userId : Id) (name : String) (serverId : Option Id) (protocol : VpnProtocol) :
    Req Device := do
  let id ← nextSerial
  let device : Device := {
    id := id
    userId := userId
    name := name
    publicKey := none
    assignedIp := none
    serverId := serverId
    status := .active
    lastSeen := none
    protocol := protocol }
  flush
  Eff.require (name.length≤64) (internalError "StringDataRightTruncationError")
  alter fun db => {db with devices := db.devices.insert device}
  pure device

def clientConfig (cfg : Settings) (result : PeerProvisioningResult) (profile : VpnProfile) :
    QrContent :=
  .config result.privateKey result.assignedIp result.serverPublicKey result.serverEndpoint
    profile.allowedIps (if profile.dns=[] then cfg.vpnDnsList else profile.dns)

def refreshed (device : Device) : Req Device := do
  let db ← getDb
  pure ((db.devices.get? device.id).getD device)

/-- The unique constraints of `vless_credentials`. -/
def credentialClash (db : Database) (c : VlessCredential) : Bool :=
  db.vlessCredentials.rows.any fun x =>
    (x.deviceId=c.deviceId ∧ x.serverId=c.serverId) ∨ x.uuid=c.uuid

def provisionVless (cfg : Settings) (user : User) (name : String)
    (requestedServerId : Option Id) : Req ProvisionedDevice := do
  let server ← chooseServer requestedServerId .vless
  let db ← getDb
  let config ← Eff.orRaise
    ⟨.conflict,"vless_server_not_configured",
      s!"VLESS server {server.id} has no Reality configuration"⟩
    (db.vlessConfig server.id)
  let device ← addDevice user.id name (some server.id) .vless
  let link ← createOrRotate device.id
  let uuid ← nextSerial
  let now ← getNow
  xrayRequest config.xrayAgentBaseUrl (UserStore.createUser uuid device.id config.flow now)
  let id ← nextSerial
  let credential : VlessCredential := ⟨id,device.id,server.id,uuid,.active,none,none⟩
  flush
  let db ← getDb
  Eff.require (credentialClash db credential=false) uniqueViolation
  alter fun db => {db with vlessCredentials := db.vlessCredentials.insert credential}
  addLoad server.id
  let url ← generateQrCode (.url cfg.subscriptionBaseUrl link.2)
  pure ⟨device,none,some url⟩

def provision (cfg : Settings) (user : User) (name : String) (requestedServerId : Option Id)
    (protocol : VpnProtocol) : Req ProvisionedDevice := do
  enforceDeviceLimit user.id
  match protocol with
  | .vless => provisionVless cfg user name requestedServerId
  | .wireguard => do
    let server ← chooseServer requestedServerId .wireguard
    let device ← addDevice user.id name none .wireguard
    let link ← createOrRotate device.id
    let created ← createPeerWithRetry cfg device.id server
    updateDevice device.id (fun d =>
      {d with
        publicKey := some created.2.publicKey
        assignedIp := some created.2.assignedIp
        serverId := some server.id}) fun _ => rfl
    addLoad server.id
    let profile ← regenerateProfile cfg device.id user.id
    let config ← generateQrCode (clientConfig cfg created.1 profile)
    let url ← generateQrCode (.url cfg.subscriptionBaseUrl link.2)
    let device ← refreshed device
    pure ⟨device,some config,some url⟩

/-- `_vless_server_config_for_credential`. -/
def configForCredential (credential : VlessCredential) : Req (Option VlessServerConfig) := do
  let server ← getServer credential.serverId
  let db ← getDb
  pure (db.vlessConfig server.id)

/-- `_remove_vless_credential_from_xray`; a server without config is left alone. -/
def removeCredentialFromXray (credential : VlessCredential) : Req Unit := do
  let config ← configForCredential credential
  match config with
  | none => pure ()
  | some config => xrayRequest config.xrayAgentBaseUrl (UserStore.deleteUser credential.uuid)

def setCredentialStatus (credentialId : Id) (f : VlessCredential → VlessCredential)
    (hf : ∀ c,(f c).id=c.id) : Req Unit :=
  alter fun db => {db with vlessCredentials := db.vlessCredentials.modify credentialId f hf}

def revokeCredential (credential : VlessCredential) : Req Unit := do
  removeCredentialFromXray credential
  let now ← getNow
  setCredentialStatus credential.id
    (fun c => {c with status := .revoked,revokedAt := some now}) fun _ => rfl
  let server ← getServer credential.serverId
  dropLoad server.id

def disableCredential (credential : VlessCredential) : Req Unit := do
  removeCredentialFromXray credential
  setCredentialStatus credential.id (fun c => {c with status := .disabled}) fun _ => rfl

/-- Re-adds a disabled credential under the uuid it has. -/
def restoreCredential (deviceId : Id) (credential : VlessCredential) : Req Unit := do
  let config ← configForCredential credential
  match config with
  | none => pure ()
  | some config => do
    let now ← getNow
    xrayRequest config.xrayAgentBaseUrl
      (UserStore.createUser credential.uuid deviceId config.flow now)
    setCredentialStatus credential.id (fun c => {c with status := .active}) fun _ => rfl

def enableCredential (deviceId : Id) (credential : VlessCredential) : Req Unit :=
  if credential.status=.disabled then restoreCredential deviceId credential else pure ()

def deviceNotProvisioned : AppError :=
  ⟨.validation,"device_not_provisioned","Device has no assigned server"⟩

def serverOfDevice (device : Device) : Req VpnServer := do
  let serverId ← Eff.orRaise deviceNotProvisioned device.serverId
  getServer serverId

/-- What an operation does to the active peer, if there is one. -/
def withActivePeer (deviceId : Id) (f : VpnPeer → Req Unit) : Req Unit := do
  let db ← getDb
  match db.activePeer deviceId with
  | none => pure ()
  | some peer => f peer

def retirePeer (server : VpnServer) (peer : VpnPeer) : Req Unit := do
  deletePeer peer.publicKey server
  setPeerStatus peer.id .revoked

def reissue (cfg : Settings) (device : Device) : Req ProvisionedDevice := do
  Eff.require (device.protocol≠.vless)
    ⟨.validation,"reissue_not_supported_for_protocol",
      "Reissue is not supported for VLESS devices — the subscription link always reflects the "
      ++"device's current credential live; rotate the subscription link instead if a fresh URL "
      ++"is needed"⟩
  let server ← serverOfDevice device
  withActivePeer device.id (retirePeer server)
  let created ← createPeerWithRetry cfg device.id server
  updateDevice device.id (fun d =>
    {d with
      publicKey := some created.2.publicKey
      assignedIp := some created.2.assignedIp}) fun _ => rfl
  let profile ← regenerateProfile cfg device.id device.userId
  let config ← generateQrCode (clientConfig cfg created.1 profile)
  let device ← refreshed device
  pure ⟨device,some config,none⟩

def revokePeer (device : Device) : Req Unit := match device.serverId with
  | none => pure ()
  | some serverId => do
    let server ← getServer serverId
    withActivePeer device.id fun peer => do
      retirePeer server peer
      dropLoad server.id

def revokeCredentials (deviceId : Id) : Req Unit := do
  let db ← getDb
  Eff.each revokeCredential (db.activeCredentials deviceId)

def revokeTransport (device : Device) : Req Unit := match device.protocol with
  | .vless => revokeCredentials device.id
  | .wireguard => revokePeer device

def revoke (device : Device) : Req Unit := do
  revokeTransport device
  setDeviceStatus device.id .revoked

def disableCredentials (deviceId : Id) : Req Unit := do
  let db ← getDb
  Eff.each disableCredential (db.activeCredentials deviceId)

def disablePeer (device : Device) : Req Unit := do
  let server ← serverOfDevice device
  withActivePeer device.id fun peer =>
    vpnRequest server (PeerStore.disablePeer peer.publicKey)

def disableTransport (device : Device) : Req Unit := match device.protocol with
  | .vless => disableCredentials device.id
  | .wireguard => disablePeer device

def disable (device : Device) : Req Unit := do
  disableTransport device
  setDeviceStatus device.id .disabled

def enableCredentials (deviceId : Id) : Req Unit := do
  let db ← getDb
  Eff.each (enableCredential deviceId) (db.credentialsOf deviceId)

def enablePeer (device : Device) : Req Unit := do
  let server ← serverOfDevice device
  withActivePeer device.id fun peer =>
    vpnRequest server (PeerStore.enablePeer peer.publicKey)

def enableTransport (device : Device) : Req Unit := match device.protocol with
  | .vless => enableCredentials device.id
  | .wireguard => enablePeer device

def enable (device : Device) : Req Unit := do
  enableTransport device
  setDeviceStatus device.id .active

def disableIfActive (device : Device) : Req Unit :=
  if device.status=.active then disable device else pure ()

def disableAllForUser (userId : Id) : Req Unit := do
  let db ← getDb
  Eff.each disableIfActive (db.devicesOf userId)

end VpnService.Backend
