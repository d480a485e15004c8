import VpnService.Backend.Repositories

namespace VpnService.Backend

def vpnServerNotFound : AppError := ⟨.notFound,"vpn_server_not_found","VPN server not found"⟩

def getServer (serverId : Id) : Req VpnServer := do
  let db ← getDb
  Eff.orRaise vpnServerNotFound (db.vpnServers.get? serverId)

structure VpnServerCreate where
  name : String
  country : String
  city : Option String
  hostname : String
  agentBaseUrl : String
  publicKey : String
  endpoint : String
  listenPort : Int
  internalNetwork : NetworkText
  capacity : Int

/-- An unset field is `none`. -/
structure VpnServerUpdate where
  status : Option VpnServerStatus
  capacity : Option Int
  name : Option String

def createServer (payload : VpnServerCreate) : Req VpnServer := do
  let id ← nextSerial
  let server : VpnServer := {
    id := id
    name := payload.name
    country := payload.country
    city := payload.city
    hostname := payload.hostname
    agentBaseUrl := payload.agentBaseUrl
    publicKey := payload.publicKey
    endpoint := payload.endpoint
    listenPort := payload.listenPort
    internalNetwork := payload.internalNetwork
    status := .offline
    capacity := payload.capacity
    currentLoad := 0
    protocol := .wireguard }
  alter fun db => {db with vpnServers := db.vpnServers.insert server}
  flush
  pure server

def updatedServer (payload : VpnServerUpdate) (s : VpnServer) : VpnServer :=
  {s with
    status := payload.status.getD s.status
    capacity := payload.capacity.getD s.capacity
    name := payload.name.getD s.name}

def updateServer (serverId : Id) (payload : VpnServerUpdate) : Req Unit := do
  let server ← getServer serverId
  alter fun db => {db with
    vpnServers := db.vpnServers.modify server.id (updatedServer payload) fun _ => rfl}
  flush

/-- A deleted server row: peers, credentials and configs cascade, devices keep a NULL. -/
def dropServer (serverId : Id) (db : Database) : Database :=
  {db with
    vpnServers := db.vpnServers.delete serverId
    vlessServerConfigs := db.vlessServerConfigs.deleteWhere fun c => c.serverId=serverId
    vpnPeers := db.vpnPeers.deleteWhere fun p => p.serverId=serverId
    vlessCredentials := db.vlessCredentials.deleteWhere fun c => c.serverId=serverId
    devices := db.devices.mapRows
      (fun d => if d.serverId=some serverId then {d with serverId := none} else d) (by
        intro d
        split_ifs <;> rfl)}

def deleteServer (serverId : Id) : Req Unit := do
  let server ← getServer serverId
  alter (dropServer server.id)

def noCapacityAvailable : AppError :=
  ⟨.conflict,"no_capacity_available","No VPN servers with free capacity are currently online"⟩

/-- The least loaded of the available servers that are under capacity. -/
def bestAvailable (db : Database) (protocol : VpnProtocol) : Option VpnServer :=
  firstBy (fun a b => a.currentLoad≤b.currentLoad)
    ((db.availableServers protocol).filter fun s => s.currentLoad<s.capacity)

def pickBestAvailable (protocol : VpnProtocol) : Req VpnServer := do
  let db ← getDb
  Eff.orRaise noCapacityAvailable (bestAvailable db protocol)

def addLoad (serverId : Id) : Req Unit :=
  alter fun db => {db with
    vpnServers := db.vpnServers.modify serverId
      (fun s => {s with currentLoad := s.currentLoad+1}) fun _ => rfl}

def dropLoad (serverId : Id) : Req Unit :=
  alter fun db => {db with
    vpnServers := db.vpnServers.modify serverId
      (fun s => {s with currentLoad := max 0 (s.currentLoad-1)}) fun _ => rfl}

structure VlessServerCreate where
  name : String
  country : String
  city : Option String
  hostname : String
  capacity : Int
  xrayAgentBaseUrl : String
  port : Int
  realityPublicKey : String
  realityShortIds : List String
  sni : String
  fingerprint : String
  flow : String
  networkType : String

structure VlessServerUpdate extends VpnServerUpdate where
  xrayAgentBaseUrl : Option String
  port : Option Int
  realityPublicKey : Option String
  realityShortIds : Option (List String)
  sni : Option String
  fingerprint : Option String
  flow : Option String
  networkType : Option String

def unusedForVless : String := "unused-for-vless"

/-- `VLESSServerService.get`. -/
def getVlessServer (serverId : Id) : Req (VpnServer×VlessServerConfig) := do
  let db ← getDb
  let server ← Eff.orRaise ⟨.notFound,"vless_server_not_found","VLESS server not found"⟩
    ((db.vpnServers.get? serverId).filter fun s => s.protocol=.vless)
  let config ← Eff.orRaise
    ⟨.notFound,"vless_server_not_found","VLESS server has no Reality configuration"⟩
    (db.vlessConfig serverId)
  pure (server,config)

def createVlessServer (payload : VlessServerCreate) : Req (VpnServer×VlessServerConfig) := do
  let id ← nextSerial
  let server : VpnServer := {
    id := id
    name := payload.name
    country := payload.country
    city := payload.city
    hostname := payload.hostname
    agentBaseUrl := unusedForVless
    publicKey := unusedForVless
    endpoint := unusedForVless
    listenPort := 51820
    internalNetwork := ⟨"0.0.0.0/32",some ⟨.v4,0,32⟩⟩
    status := .offline
    capacity := payload.capacity
    currentLoad := 0
    protocol := .vless }
  alter fun db => {db with vpnServers := db.vpnServers.insert server}
  flush
  let configId ← nextSerial
  let config : VlessServerConfig := {
    id := configId
    serverId := server.id
    xrayAgentBaseUrl := payload.xrayAgentBaseUrl
    port := payload.port
    realityPublicKey := payload.realityPublicKey
    realityShortIds := payload.realityShortIds
    sni := payload.sni
    fingerprint := payload.fingerprint
    flow := payload.flow
    networkType := payload.networkType }
  alter fun db => {db with vlessServerConfigs := db.vlessServerConfigs.insert config}
  flush
  pure (server,config)

def updatedConfig (payload : VlessServerUpdate) (c : VlessServerConfig) : VlessServerConfig :=
  {c with
    xrayAgentBaseUrl := payload.xrayAgentBaseUrl.getD c.xrayAgentBaseUrl
    port := payload.port.getD c.port
    realityPublicKey := payload.realityPublicKey.getD c.realityPublicKey
    realityShortIds := payload.realityShortIds.getD c.realityShortIds
    sni := payload.sni.getD c.sni
    fingerprint := payload.fingerprint.getD c.fingerprint
    flow := payload.flow.getD c.flow
    networkType := payload.networkType.getD c.networkType}

def updateVlessServer (serverId : Id) (payload : VlessServerUpdate) : Req Unit := do
  let found ← getVlessServer serverId
  alter fun db => {db with
    vpnServers :=
      db.vpnServers.modify found.1.id (updatedServer payload.toVpnServerUpdate) fun _ => rfl
    vlessServerConfigs :=
      db.vlessServerConfigs.modify found.2.id (updatedConfig payload) fun _ => rfl}
  flush
  flush

def deleteVlessServer (serverId : Id) : Req Unit := do
  let found ← getVlessServer serverId
  alter (dropServer found.1.id)

end VpnService.Backend
