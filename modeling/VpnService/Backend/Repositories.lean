import VpnService.Framework.Query
import VpnService.Backend.Session

namespace VpnService.Backend

/-- `ORDER BY expires_at DESC`, where PostgreSQL puts NULL first: `a` comes before `b`. -/
def expiresBefore (a b : Subscription) : Bool := match a.expiresAt,b.expiresAt with
  | none,_ => true
  | some _,none => false
  | some x,some y => y≤x

theorem expiresBefore_total (a b : Subscription) : expiresBefore a b ∨ expiresBefore b a := by
  unfold expiresBefore
  cases a.expiresAt with
  | none => exact Or.inl rfl
  | some x =>
    cases b.expiresAt with
    | none => exact Or.inr rfl
    | some y =>
      have htotal : y≤x ∨ x≤y := Int.le_total y x
      simpa using htotal

theorem expiresBefore_trans (a b c : Subscription) (hab : expiresBefore a b)
    (hbc : expiresBefore b c) : expiresBefore a c := by
  unfold expiresBefore at hab hbc ⊢
  cases ha : a.expiresAt with
  | none => rfl
  | some x =>
    cases hb : b.expiresAt with
    | none => simp [ha,hb] at hab
    | some y =>
      cases hc : c.expiresAt with
      | none => simp [hb,hc] at hbc
      | some z =>
        have hyx : y≤x := by simpa [ha,hb] using hab
        have hzy : z≤y := by simpa [hb,hc] using hbc
        have hzx : z≤x := Int.le_trans hzy hyx
        simpa using hzx

namespace Database

variable (db : Database)

def userByTelegramId (telegramId : Int) : Option User :=
  db.users.rows.find? fun u => u.telegramId=telegramId

def planBySlug (slug : String) : Option Plan := db.plans.rows.find? fun p => p.slug=slug

def activeSubscriptions (userId : Id) : List Subscription :=
  db.subscriptions.rows.filter fun s => s.userId=userId ∧ s.status=.active

/-- `SubscriptionRepository.get_active_for_user`. -/
def activeSubscription (userId : Id) : Option Subscription :=
  firstBy expiresBefore (db.activeSubscriptions userId)

/-- The `WHERE` of `SubscriptionRepository.list_expired`. -/
def isDue (asOf : Time) (s : Subscription) : Bool :=
  s.status=.active && match s.expiresAt with
    | none => false
    | some t => t≤asOf

def listExpired (asOf : Time) : List Subscription :=
  db.subscriptions.rows.filter (isDue asOf)

def promoByCode (code : String) : Option PromoCode :=
  db.promoCodes.rows.find? fun p => p.code=code

/-- `PromoCodeRedemptionRepository.get`; `scalar_one_or_none` raises on two rows. -/
def redemptionsOf (promoCodeId userId : Id) : List PromoCodeRedemption :=
  db.promoCodeRedemptions.rows.filter fun r => r.promoCodeId=promoCodeId ∧ r.userId=userId

def paymentByExternalId (provider : String) (externalPaymentId : Secret) : Option Payment :=
  db.payments.rows.find? fun p =>
    p.provider=provider ∧ p.externalPaymentId=some externalPaymentId

/-- `DeviceRepository.list_for_user`, without the revoked ones. -/
def devicesOf (userId : Id) : List Device :=
  db.devices.rows.filter fun d => d.userId=userId ∧ d.status≠.revoked

def countActiveDevices (userId : Id) : Int :=
  (db.devices.rows.filter fun d => d.userId=userId ∧ d.status=.active).length

def activePeers (deviceId : Id) : List VpnPeer :=
  db.vpnPeers.rows.filter fun p => p.deviceId=deviceId ∧ p.status=.active

/-- `VPNPeerRepository.get_active_for_device`: the newest one. -/
def activePeer (deviceId : Id) : Option VpnPeer := (db.activePeers deviceId).getLast?

def peersOfServer (serverId : Id) : List VpnPeer :=
  db.vpnPeers.rows.filter fun p => p.serverId=serverId

def credentialsOf (deviceId : Id) : List VlessCredential :=
  db.vlessCredentials.rows.filter fun c => c.deviceId=deviceId

def activeCredentials (deviceId : Id) : List VlessCredential :=
  db.vlessCredentials.rows.filter fun c => c.deviceId=deviceId ∧ c.status=.active

def vlessConfig (serverId : Id) : Option VlessServerConfig :=
  db.vlessServerConfigs.rows.find? fun c => c.serverId=serverId

/-- The server of a device, while it has one. -/
def serverOf (device : Device) : Option VpnServer := device.serverId.bind db.vpnServers.get?

def linkOf (deviceId : Id) : Option SubscriptionLink :=
  db.subscriptionLinks.rows.find? fun l => l.deviceId=deviceId

def linkByTokenHash (h : TokenHash) : Option SubscriptionLink :=
  db.subscriptionLinks.rows.find? fun l => l.tokenHash=h

/-- `VPNServerRepository.list_available`, unsorted. -/
def availableServers (protocol : VpnProtocol) : List VpnServer :=
  db.vpnServers.rows.filter fun s => s.status=.online ∧ s.protocol=protocol

def routingProfileOf (userId : Id) : Option UserRoutingProfile :=
  db.userRoutingProfiles.rows.find? fun p => p.userId=userId

def categoryPreferences (userId : Id) : List UserCategoryPreference :=
  db.userCategoryPreferences.rows.filter fun p => p.userId=userId

def customDomains (userId : Id) : List UserCustomDomain :=
  db.userCustomDomains.rows.filter fun d => d.userId=userId

/-- `VPNProfileRepository.get_current_for_device`; `scalar_one_or_none` raises on two rows. -/
def currentProfiles (deviceId : Id) : List VpnProfile :=
  db.vpnProfiles.rows.filter fun p => p.deviceId=deviceId ∧ p.isCurrent

theorem mem_activePeers {deviceId : Id} {p : VpnPeer} : p∈db.activePeers deviceId ↔
    p∈db.vpnPeers.rows ∧ p.deviceId=deviceId ∧ p.status=.active := by
  simp [activePeers]

theorem mem_activeCredentials {deviceId : Id} {c : VlessCredential} :
    c∈db.activeCredentials deviceId ↔
      c∈db.vlessCredentials.rows ∧ c.deviceId=deviceId ∧ c.status=.active := by
  simp [activeCredentials]

theorem mem_credentialsOf {deviceId : Id} {c : VlessCredential} :
    c∈db.credentialsOf deviceId ↔ c∈db.vlessCredentials.rows ∧ c.deviceId=deviceId := by
  simp [credentialsOf]

theorem mem_devicesOf {userId : Id} {d : Device} : d∈db.devicesOf userId ↔
    d∈db.devices.rows ∧ d.userId=userId ∧ d.status≠.revoked := by
  simp [devicesOf]

variable {db}

theorem activePeer_mem {deviceId : Id} {p : VpnPeer} (h : db.activePeer deviceId=some p) :
    p∈db.vpnPeers.rows ∧ p.deviceId=deviceId ∧ p.status=.active :=
  (db.mem_activePeers).mp (List.mem_of_getLast? h)

theorem activePeer_eq_none {deviceId : Id} : db.activePeer deviceId=none ↔
    ∀ p∈db.vpnPeers.rows,p.deviceId=deviceId → p.status≠.active := by
  simp [activePeer,activePeers]

theorem serverOf_eq {device : Device} {server : VpnServer} (hid : device.serverId=some server.id)
    (h : db.vpnServers.get? server.id=some server) : db.serverOf device=some server := by
  unfold serverOf
  rw [hid]
  exact h

theorem vlessConfig_mem {serverId : Id} {c : VlessServerConfig}
    (h : db.vlessConfig serverId=some c) :
    c∈db.vlessServerConfigs.rows ∧ c.serverId=serverId :=
  ⟨List.mem_of_find?_eq_some h,by simpa using List.find?_some h⟩

theorem linkOf_mem {deviceId : Id} {l : SubscriptionLink} (h : db.linkOf deviceId=some l) :
    l∈db.subscriptionLinks.rows ∧ l.deviceId=deviceId :=
  ⟨List.mem_of_find?_eq_some h,by simpa using List.find?_some h⟩

end Database

end VpnService.Backend
