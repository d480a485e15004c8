import VpnService.Backend.DeviceFootprint

namespace VpnService.Backend

open Agent

/-- Rows keep what they identify; only statuses, loads and dates of the fleet change, and no peer
becomes active. -/
structure Recolored (a b : Database) : Prop where
  devices : ∀ k,(b.devices.get? k).map (fun d => {d with status := .active})=
    (a.devices.get? k).map fun d => {d with status := .active}
  peers : ∀ p∈b.vpnPeers.rows,∃ q∈a.vpnPeers.rows,{p with status := .active}=
    {q with status := .active} ∧ (p.status=.active → q.status=.active)
  credentials : ∀ c∈b.vlessCredentials.rows,∃ x∈a.vlessCredentials.rows,
    c.id=x.id ∧ c.deviceId=x.deviceId ∧ c.serverId=x.serverId ∧ c.uuid=x.uuid
  servers : ∀ k,(b.vpnServers.get? k).map VpnServer.unloaded=
    (a.vpnServers.get? k).map VpnServer.unloaded
  configs : b.vlessServerConfigs=a.vlessServerConfigs

namespace Recolored

variable {a b c : Database}

theorem refl (a : Database) : Recolored a a :=
  ⟨fun _ => rfl,fun p hp => ⟨p,hp,rfl,id⟩,fun x hx => ⟨x,hx,rfl,rfl,rfl,rfl⟩,fun _ => rfl,rfl⟩

theorem trans (h : Recolored a b) (k : Recolored b c) : Recolored a c where
  devices x := (k.devices x).trans (h.devices x)
  peers p hp := by
    obtain ⟨q,hq,he,hs⟩ := k.peers p hp
    obtain ⟨r,hr,he',hs'⟩ := h.peers q hq
    exact ⟨r,hr,he.trans he',fun hp => hs' (hs hp)⟩
  credentials x hx := by
    obtain ⟨y,hy,h₁,h₂,h₃,h₄⟩ := k.credentials x hx
    obtain ⟨z,hz,g₁,g₂,g₃,g₄⟩ := h.credentials y hy
    exact ⟨z,hz,h₁.trans g₁,h₂.trans g₂,h₃.trans g₃,h₄.trans g₄⟩
  servers x := (k.servers x).trans (h.servers x)
  configs := k.configs.trans h.configs

end Recolored

def recoloring : Frame Session where
  rel s t := Recolored s.db t.db ∧ s.serial≤t.serial
  refl _ := ⟨Recolored.refl _,le_rfl⟩
  trans h k := ⟨h.1.trans k.1,h.2.trans k.2⟩

theorem recolored_of_view {s t : Session} (hd : t.db.devices=s.db.devices)
    (hp : t.db.vpnPeers=s.db.vpnPeers) (hc : t.db.vlessCredentials=s.db.vlessCredentials)
    (hs : t.db.vpnServers=s.db.vpnServers) (hf : t.db.vlessServerConfigs=s.db.vlessServerConfigs)
    (hn : s.serial≤t.serial) : recoloring.rel s t :=
  ⟨⟨fun _ => by rw [hd],fun p h => ⟨p,hp ▸ h,rfl,id⟩,
    fun x h => ⟨x,hc ▸ h,rfl,rfl,rfl,rfl⟩,fun _ => by rw [hs],hf⟩,hn⟩

theorem recoloring_books : Bookkeeping recoloring :=
  ⟨fun _ => recolored_of_view rfl rfl rfl rfl rfl (by simp),
    fun _ _ => recolored_of_view rfl rfl rfl rfl rfl le_rfl⟩

theorem recolored_of_core {s t : Session} (h : coreFrame.rel s t) : recoloring.rel s t := by
  obtain ⟨hview,hs⟩ := h
  simp only [fleetView,Prod.mk.injEq] at hview
  obtain ⟨_,hv,hc,hd,hp,hcr,_,_,_⟩ := hview
  exact recolored_of_view hd hp hcr hv hc hs

theorem recoloring_of_core {α : Type} {m : Req α} (h : Within coreFrame m) :
    Within recoloring m := h.mono recolored_of_core

theorem vpnRequest_recoloring (server : VpnServer) (op : IpPeerStore → Option IpPeerStore) :
    Within recoloring (vpnRequest server op) :=
  vpnRequest_within recoloring_books fun _ _ _ => recolored_of_view rfl rfl rfl rfl rfl le_rfl

theorem xrayRequest_recoloring (baseUrl : String) (op : UserStore → UserStore) :
    Within recoloring (xrayRequest baseUrl op) :=
  xrayRequest_within recoloring_books fun _ => recolored_of_view rfl rfl rfl rfl rfl le_rfl

theorem setDeviceStatus_recoloring (deviceId : Id) (status : DeviceStatus) :
    Within recoloring (setDeviceStatus deviceId status) := by
  unfold setDeviceStatus updateDevice
  refine alter_within fun s => ⟨{Recolored.refl s.db with devices := fun k => ?_},le_rfl⟩
  rw [Store.get?_modify]
  split_ifs
  · cases s.db.devices.get? k <;> rfl
  · rfl

theorem revokePeerRow_recoloring (peerId : Id) :
    Within recoloring (setPeerStatus peerId .revoked) := by
  unfold setPeerStatus
  refine alter_within fun s => ⟨{Recolored.refl s.db with peers := fun p hp => ?_},le_rfl⟩
  have hkey : ∀ r : VpnPeer,({r with status := .revoked} : VpnPeer).id=r.id := fun _ => rfl
  rcases (Store.mem_modify hkey).mp hp with ⟨q,hq,_,he⟩|⟨hp,_⟩
  · refine ⟨q,hq,by rw [he],fun h => ?_⟩
    rw [he] at h
    cases h
  · exact ⟨p,hp,rfl,id⟩

theorem setCredentialStatus_recoloring (k : Id) {f : VlessCredential → VlessCredential}
    (hf : ∀ c,(f c).id=c.id)
    (h : ∀ c,(f c).deviceId=c.deviceId ∧ (f c).serverId=c.serverId ∧ (f c).uuid=c.uuid) :
    Within recoloring (setCredentialStatus k f hf) := by
  unfold setCredentialStatus
  refine alter_within fun s => ⟨{Recolored.refl s.db with credentials := fun c hc => ?_},le_rfl⟩
  rcases (Store.mem_modify hf).mp hc with ⟨x,hx,_,he⟩|⟨hc,_⟩
  · exact ⟨x,hx,he ▸ hf x,he ▸ (h x).1,he ▸ (h x).2.1,he ▸ (h x).2.2⟩
  · exact ⟨c,hc,rfl,rfl,rfl,rfl⟩

theorem dropLoad_recoloring (serverId : Id) : Within recoloring (dropLoad serverId) := by
  unfold dropLoad
  refine alter_within fun s => ⟨{Recolored.refl s.db with servers := fun k => ?_},le_rfl⟩
  rw [Store.get?_modify]
  split_ifs
  · cases s.db.vpnServers.get? k <;> rfl
  · rfl

theorem alter_recoloring {f : Database → Database}
    (h : ∀ db,(f db).devices=db.devices ∧ (f db).vpnPeers=db.vpnPeers ∧
      (f db).vlessCredentials=db.vlessCredentials ∧ (f db).vpnServers=db.vpnServers ∧
      (f db).vlessServerConfigs=db.vlessServerConfigs) : Within recoloring (alter f) :=
  alter_within fun s =>
    have hs := h s.db
    recolored_of_view hs.1 hs.2.1 hs.2.2.1 hs.2.2.2.1 hs.2.2.2.2 le_rfl

theorem withActivePeer_within {R : Frame Session} (deviceId : Id) {f : VpnPeer → Req Unit}
    (h : ∀ p,Within R (f p)) : Within R (withActivePeer deviceId f) :=
  fun s => withActivePeer_withinAt fun p _ => h p s

theorem removeCredentialFromXray_recoloring (c : VlessCredential) :
    Within recoloring (removeCredentialFromXray c) := by
  refine (configForCredential_within c).bind fun config => ?_
  cases config with
  | none => exact Within.pure _
  | some config => exact xrayRequest_recoloring _ _

theorem retirePeer_recoloring (server : VpnServer) (p : VpnPeer) :
    Within recoloring (retirePeer server p) :=
  (vpnRequest_recoloring _ _).bind fun _ => revokePeerRow_recoloring p.id

theorem revokeTransport_recoloring (device : Device) :
    Within recoloring (revokeTransport device) := by
  unfold revokeTransport
  cases device.protocol with
  | vless =>
    refine getDb_within.bind fun _ => Within.each fun c _ => ?_
    refine (removeCredentialFromXray_recoloring c).bind fun _ => getNow_within.bind fun _ => ?_
    refine Within.bind ?_ fun _ => (getServer_within _).bind fun x => dropLoad_recoloring x.id
    exact setCredentialStatus_recoloring _ _ fun _ => ⟨rfl,rfl,rfl⟩
  | wireguard =>
    unfold revokePeer
    cases device.serverId with
    | none => exact Within.pure _
    | some serverId =>
      exact (getServer_within serverId).bind fun server => withActivePeer_within _ fun p =>
        (retirePeer_recoloring server p).bind fun _ => dropLoad_recoloring server.id

theorem revoke_recoloring (device : Device) : Within recoloring (revoke device) :=
  (revokeTransport_recoloring device).bind fun _ => setDeviceStatus_recoloring _ _

theorem disable_recoloring (device : Device) : Within recoloring (disable device) := by
  refine Within.bind ?_ fun _ => setDeviceStatus_recoloring _ _
  unfold disableTransport
  cases device.protocol with
  | vless =>
    refine getDb_within.bind fun _ => Within.each fun c _ => ?_
    refine (removeCredentialFromXray_recoloring c).bind fun _ => ?_
    exact setCredentialStatus_recoloring _ _ fun _ => ⟨rfl,rfl,rfl⟩
  | wireguard =>
    exact (serverOfDevice_within device).bind fun server => withActivePeer_within _ fun p =>
      vpnRequest_recoloring server _

theorem enable_recoloring (device : Device) : Within recoloring (enable device) := by
  refine Within.bind ?_ fun _ => setDeviceStatus_recoloring _ _
  unfold enableTransport
  cases device.protocol with
  | vless =>
    refine getDb_within.bind fun _ => Within.each fun c _ => Within.ite ?_ (Within.pure _)
    refine (configForCredential_within c).bind fun config => ?_
    cases config with
    | none => exact Within.pure _
    | some config =>
      refine getNow_within.bind fun _ => (xrayRequest_recoloring _ _).bind fun _ => ?_
      exact setCredentialStatus_recoloring _ _ fun _ => ⟨rfl,rfl,rfl⟩
  | wireguard =>
    exact (serverOfDevice_within device).bind fun server => withActivePeer_within _ fun p =>
      vpnRequest_recoloring server _

theorem createOrRotate_recoloring (deviceId : Id) :
    Within recoloring (createOrRotate deviceId) := by
  refine (nextSerial_within recoloring_books).bind fun _ => getNow_within.bind fun _ =>
    getDb_within.bind fun db => ?_
  cases db.linkOf deviceId with
  | none =>
    refine (nextSerial_within recoloring_books).bind fun _ => Within.bind (alter_recoloring ?_)
      fun _ => (flush_within recoloring_books).bind fun _ => Within.pure _
    exact fun _ => ⟨rfl,rfl,rfl,rfl,rfl⟩
  | some l =>
    refine Within.bind (alter_recoloring ?_) fun _ =>
      (flush_within recoloring_books).bind fun _ => Within.pure _
    exact fun _ => ⟨rfl,rfl,rfl,rfl,rfl⟩

theorem revokeLink_recoloring (l : SubscriptionLink) : Within recoloring (revokeLink l) :=
  getNow_within.bind fun _ => alter_recoloring fun _ => ⟨rfl,rfl,rfl,rfl,rfl⟩

/-- Every operation on a device but `reissue` only recolors. -/
theorem handleDevice_recoloring (cfg : Settings) (device : Device) (r : DeviceRequest)
    (hr : r≠.reissue) : Within recoloring (handleDevice cfg device r) := by
  cases r with
  | reissue => exact absurd rfl hr
  | disable =>
    exact (disable_recoloring device).bind fun _ => (refreshed_within device).bind fun _ =>
      Within.pure _
  | enable =>
    exact (enable_recoloring device).bind fun _ => (refreshed_within device).bind fun _ =>
      Within.pure _
  | revoke =>
    exact (revoke_recoloring device).bind fun _ => (refreshed_within device).bind fun _ =>
      Within.pure _
  | createOrRotateLink =>
    exact (createOrRotate_recoloring device.id).bind fun _ => (generateQrCode_within _).bind
      fun _ => Within.pure _
  | getLink => exact (getLink_within device.id).bind fun _ => Within.pure _
  | revokeLink =>
    exact (getLink_within device.id).bind fun l => (revokeLink_recoloring l).bind fun _ =>
      answerLink_within _
  | getProfile =>
    exact Within.bind (getDb_within.bind fun _ => (currentProfile_within _).bind fun _ =>
      Within.orRaise _ _) fun _ => Within.pure _
  | refreshProfile =>
    exact (recoloring_of_core (regenerateProfile_core cfg _ _)).bind fun _ => Within.pure _

theorem runOnce_recoloring (asOf : Option Time) : Within recoloring (runOnce asOf) :=
  runOnce_within (fun h => recolored_of_core (core_of_audit h))
    (fun _ => alter_recoloring fun _ => ⟨rfl,rfl,rfl,rfl,rfl⟩)
    disable_recoloring asOf

end VpnService.Backend
