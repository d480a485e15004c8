import VpnService.Backend.Consistency

namespace VpnService.Backend

open Agent

/-- Peer `p` of device `d` was created on the way from `s` to `t`, at the database and at the
agent of the server. -/
structure PeerCreated (d : Id) (server : VpnServer) (s t : Session) (p : VpnPeer) : Prop where
  drawn : s.serial≤p.publicKey ∧ s.serial≤p.id
  below : p.publicKey<t.serial ∧ p.id<t.serial
  onDevice : p.deviceId=d
  onServer : p.serverId=server.id
  active : p.status=.active
  unclashing : peerClash s.db p=false
  db : t.db={s.db with vpnPeers := s.db.vpnPeers.insert p}
  record : ∃ x,(t.vpn server.agentBaseUrl).get? p.publicKey=some x ∧ x.deviceId=d ∧
    x.enabled=true

theorem allocateIp_ok {server : VpnServer} {s t : Session} {ip : IpAddress}
    (h : allocateIp server s=(.ok ip,t)) :
    s=t ∧ ∃ network,server.internalNetwork.network=some network ∧
      freeAddress network (s.db.peersOfServer server.id)=some (some ip) := by
  obtain ⟨network,hn,h⟩ := Eff.orRaise_bind_ok.mp h
  rw [getDb_bind_run] at h
  obtain ⟨answer,ha,h⟩ := Eff.orRaise_bind_ok.mp h
  obtain ⟨hip,ht⟩ := Eff.orRaise_ok.mp h
  exact ⟨ht.symm,network,hn,by rw [ha,hip]⟩

theorem PeerCreated.earlier {d : Id} {server : VpnServer} {s u t : Session} {p : VpnPeer}
    (h : PeerCreated d server u t p) (hs : s.serial≤u.serial) (hdb : u.db=s.db) :
    PeerCreated d server s t p where
  drawn := ⟨hs.trans h.drawn.1,hs.trans h.drawn.2⟩
  below := h.below
  onDevice := h.onDevice
  onServer := h.onServer
  active := h.active
  unclashing := hdb ▸ h.unclashing
  db := hdb ▸ h.db
  record := h.record

theorem createPeerAttempts_ok {cfg : Settings} {d : Id} {server : VpnServer} {n : Nat}
    {s t : Session} {r : PeerProvisioningResult} {p : VpnPeer}
    (h : createPeerAttempts cfg d server n s=(.ok (r,p),t)) : PeerCreated d server s t p := by
  induction n generalizing s with
  | zero => cases h
  | succ n ih =>
    obtain ⟨ip,u,hu,h⟩ := Eff.bind_ok.mp h
    obtain ⟨hus,_⟩ := allocateIp_ok hu
    subst hus
    obtain ⟨result,v,hv,h⟩ := Eff.bind_ok.mp h
    obtain ⟨os,hresult,hvs⟩ := createPeer_ok hv
    obtain ⟨id,w,hw,h⟩ := Eff.bind_ok.mp h
    cases hw
    obtain ⟨_,w,hw,h⟩ := Eff.bind_ok.mp h
    obtain ⟨os₁,hws⟩ := flush_ok hw
    obtain ⟨_,x,hx,h⟩ := Eff.bind_ok.mp h
    obtain ⟨os₂,hxs⟩ := flush_ok hx
    obtain ⟨db,y,hy,h⟩ := Eff.bind_ok.mp h
    cases hy
    have hdb : x.db=s.db := by rw [hxs,hws,hvs]; rfl
    have hserial : x.serial=s.serial+2 := by
      rw [hxs,hws,hvs]
      simp only [setVpn]
      omega
    have hid : v.serial=s.serial+1 := by rw [hvs]; rfl
    split_ifs at h with hclash
    · obtain ⟨_,y,hy,h⟩ := Eff.bind_ok.mp h
      obtain ⟨os₃,store,_,hys⟩ := vpnRequest_ok hy
      have hydb : y.db=s.db := by rw [hys,← hdb]; rfl
      have hyserial : s.serial≤y.serial := by
        rw [hys]
        simp only [setVpn,hserial]
        omega
      exact (ih h).earlier hyserial hydb
    · obtain ⟨_,y,hy,h⟩ := Eff.bind_ok.mp h
      cases hy
      cases h
      refine ⟨?_,?_,rfl,rfl,rfl,?_,?_,?_⟩
      · simp only [hresult,hid]
        constructor
        · exact le_rfl
        · exact (Int.lt_succ _).le
      · have hkey : s.serial<s.serial+2 := by omega
        have hnext : s.serial+1<s.serial+2 := by omega
        simp only [hresult,hid,hserial]
        exact ⟨hkey,hnext⟩
      · rw [← hdb]
        simpa using hclash
      · rw [← hdb]
      · have hvpn : x.vpn=v.vpn := by rw [hxs,hws]
        refine ⟨PeerStore.created (s.vpn server.agentBaseUrl) s.serial d ip s.now,?_,rfl,rfl⟩
        simp only [hvpn,hvs,hresult,setVpn,if_true]
        rw [PeerStore.get?_createPeer,if_pos rfl]

/-- What retiring the active peer of a device leaves. -/
theorem retireActive_ok {d : Id} {server : VpnServer} {s t : Session}
    (h : withActivePeer d (retirePeer server) s=(.ok (),t)) :
    (s.db.activePeer d=none ∧ t=s) ∨ ∃ p os,s.db.activePeer d=some p ∧
      t={setVpn server.agentBaseUrl (PeerStore.deletePeer p.publicKey
          (s.vpn server.agentBaseUrl)) s with
        db := {s.db with
          vpnPeers := s.db.vpnPeers.modify p.id (fun q => {q with status := .revoked})
            fun _ => rfl}
        outcomes := os} := by
  obtain ⟨db,u,hu,h⟩ := Eff.bind_ok.mp h
  cases hu
  cases hp : s.db.activePeer d with
  | none =>
    rw [hp] at h
    cases h
    exact Or.inl ⟨rfl,rfl⟩
  | some p =>
    rw [hp] at h
    obtain ⟨_,u,hu,h⟩ := Eff.bind_ok.mp h
    obtain ⟨os,store,hstore,hus⟩ := vpnRequest_ok hu
    cases hstore
    cases h
    exact Or.inr ⟨p,os,rfl,by rw [hus]; rfl⟩

/-- A device whose active peer is retired has none left. -/
theorem retireActive_none {d : Id} {server : VpnServer} {s t : Session} {n : Int}
    (hs : Consistent n s.db) (h : withActivePeer d (retirePeer server) s=(.ok (),t)) :
    ∀ q∈t.db.vpnPeers.rows,q.deviceId=d → q.status≠.active := by
  rcases retireActive_ok h with ⟨hnone,hts⟩|⟨p,os,hp,hts⟩
  · subst hts
    exact Database.activePeer_eq_none.mp hnone
  · have hmem := Database.activePeer_mem hp
    intro q hq hqd hact
    rw [hts] at hq
    have hkey : ∀ r : VpnPeer,({r with status := .revoked} : VpnPeer).id=r.id := fun _ => rfl
    rcases (Store.mem_modify hkey).mp hq with ⟨x,_,_,he⟩|⟨hq,hne⟩
    · rw [he] at hact
      cases hact
    · have hqp := hs.single q hq p hmem.1 (by rw [hqd,hmem.2.1]) hact hmem.2.2
      exact hne (by rw [hqp])

theorem getServer_ok {k : Id} {s t : Session} {server : VpnServer}
    (h : getServer k s=(.ok server,t)) : s=t ∧ s.db.vpnServers.get? k=some server := by
  obtain ⟨hget,ht⟩ := Eff.orRaise_ok.mp h
  exact ⟨ht.symm,hget⟩

theorem serverOfDevice_ok {device : Device} {s t : Session} {server : VpnServer}
    (h : serverOfDevice device s=(.ok server,t)) :
    s=t ∧ device.serverId=some server.id ∧ s.db.vpnServers.get? server.id=some server := by
  obtain ⟨k,hk,h⟩ := Eff.orRaise_bind_ok.mp h
  obtain ⟨ht,hget⟩ := getServer_ok h
  have hid : server.id=k := Store.key_of_get? hget
  exact ⟨ht,by rw [hk,hid],by rw [hid]; exact hget⟩

theorem serverOf_some {device : Device} {db : Database} {server : VpnServer}
    (h : db.serverOf device=some server) :
    device.serverId=some server.id ∧ db.vpnServers.get? server.id=some server := by
  obtain ⟨k,hk,hget⟩ := Option.bind_eq_some_iff.mp h
  have hid : server.id=k := Store.key_of_get? hget
  exact ⟨by rw [hk,hid],by rw [hid]; exact hget⟩

theorem serverOfDevice_of {device : Device} {s : Session} {server : VpnServer}
    (h : s.db.serverOf device=some server) : serverOfDevice device s=(.ok server,s) := by
  obtain ⟨hid,hget⟩ := serverOf_some h
  unfold serverOfDevice getServer
  rw [hid]
  simp [hget]

/-- The device row after its new peer is written to it. -/
def withPeer (p : VpnPeer) (d : Device) : Device :=
  {d with
    publicKey := some p.publicKey
    assignedIp := some p.assignedIp}

theorem reissue_attempts {cfg : Settings} {device : Device} {s t : Session} {r : ProvisionedDevice}
    (h : reissue cfg device s=(.ok r,t)) : device.protocol≠.vless ∧ ∃ server u v result p,
      device.serverId=some server.id ∧ s.db.vpnServers.get? server.id=some server ∧
      withActivePeer device.id (retirePeer server) s=(.ok (),u) ∧
      createPeerWithRetry cfg device.id server u=(.ok (result,p),v) ∧
      coreFrame.rel {v with db := {v.db with
        devices := v.db.devices.modify device.id (withPeer p) fun _ => rfl}} t := by
  obtain ⟨hproto,h⟩ := Eff.require_bind_ok.mp h
  obtain ⟨server,v,hv,h⟩ := Eff.bind_ok.mp h
  obtain ⟨hvs,hserver,hget⟩ := serverOfDevice_ok hv
  subst hvs
  obtain ⟨_,w,hw,h⟩ := Eff.bind_ok.mp h
  obtain ⟨created,x,hx,h⟩ := Eff.bind_ok.mp h
  obtain ⟨result,p⟩ := created
  obtain ⟨_,y,hy,h⟩ := Eff.bind_ok.mp h
  cases hy
  refine ⟨hproto,server,w,x,result,p,hserver,hget,hw,hx,?_⟩
  have hrest : Within coreFrame (do
      let profile ← regenerateProfile cfg device.id device.userId
      let config ← generateQrCode (clientConfig cfg result profile)
      let device ← refreshed device
      pure (⟨device,some config,none⟩ : ProvisionedDevice)) :=
    (regenerateProfile_core cfg _ _).bind fun _ => (generateQrCode_within _).bind fun _ =>
      (refreshed_within device).bind fun _ => Within.pure _
  exact (hrest _).rel_of_run h

/-- A reissue retires the old peer, creates one and then touches no more of the fleet. -/
theorem reissue_ok {cfg : Settings} {device : Device} {s t : Session} {r : ProvisionedDevice}
    (h : reissue cfg device s=(.ok r,t)) : device.protocol≠.vless ∧ ∃ server u v p,
      device.serverId=some server.id ∧ s.db.vpnServers.get? server.id=some server ∧
      withActivePeer device.id (retirePeer server) s=(.ok (),u) ∧
      PeerCreated device.id server u v p ∧
      coreFrame.rel {v with db := {v.db with
        devices := v.db.devices.modify device.id (withPeer p) fun _ => rfl}} t := by
  obtain ⟨hproto,server,u,v,result,p,hserver,hget,hretire,hcreate,hlast⟩ := reissue_attempts h
  exact ⟨hproto,server,u,v,p,hserver,hget,hretire,createPeerAttempts_ok hcreate,hlast⟩

theorem chooseServer_ok {requested : Option Id} {protocol : VpnProtocol} {s t : Session}
    {server : VpnServer} (h : chooseServer requested protocol s=(.ok server,t)) :
    s=t ∧ s.db.vpnServers.get? server.id=some server := by
  unfold chooseServer at h
  cases hr : requested.filter fun k => k≠0 with
  | some k =>
    rw [hr] at h
    obtain ⟨ht,hget⟩ := getServer_ok h
    exact ⟨ht,by rw [Store.key_of_get? hget]; exact hget⟩
  | none =>
    rw [hr] at h
    obtain ⟨hbest,ht⟩ := Eff.orRaise_ok.mp h
    have hmem := firstBy_mem _ _ _ hbest
    simp only [Database.availableServers,List.mem_filter] at hmem
    exact ⟨ht.symm,s.db.vpnServers.get?_of_mem hmem.1.1⟩

theorem enforceDeviceLimit_ok {userId : Id} {s t : Session}
    (h : enforceDeviceLimit userId s=(.ok (),t)) : s=t ∧ limitVerdict s.db userId=.ok () := by
  unfold enforceDeviceLimit at h
  rw [getDb_bind_run] at h
  cases hv : limitVerdict s.db userId with
  | ok u =>
    rw [hv] at h
    cases h
    exact ⟨rfl,rfl⟩
  | error e =>
    rw [hv] at h
    cases h

/-- The servers, the devices, their peers and credentials and the agents: all of the fleet but the
subscription links. -/
def hardwareView (s : Session) : Store VpnServer.id×Store VlessServerConfig.id×Store Device.id×
    Store VpnPeer.id×Store VlessCredential.id×(String → IpPeerStore)×(String → UserStore) :=
  (s.db.vpnServers,s.db.vlessServerConfigs,s.db.devices,s.db.vpnPeers,s.db.vlessCredentials,
    s.vpn,s.xray)

abbrev hardwareFrame : Frame Session := keeping hardwareView

theorem hardware_books : Bookkeeping hardwareFrame :=
  ⟨fun _ => ⟨rfl,by simp⟩,fun _ _ => ⟨rfl,le_rfl⟩⟩

theorem hardware_of_core {s t : Session} (h : coreFrame.rel s t) : hardwareFrame.rel s t := by
  obtain ⟨hview,hs⟩ := h
  simp only [fleetView,Prod.mk.injEq] at hview
  obtain ⟨_,hv,hc,hd,hp,hcr,_,hvpn,hxray⟩ := hview
  refine ⟨?_,hs⟩
  simp only [hardwareView,hv,hc,hd,hp,hcr,hvpn,hxray]

theorem alter_hardware {f : Database → Database}
    (h : ∀ s : Session,hardwareView {s with db := f s.db}=hardwareView s) :
    Within hardwareFrame (alter f) := fun s => ⟨h s,le_rfl⟩

theorem createOrRotate_hardware (deviceId : Id) :
    Within hardwareFrame (createOrRotate deviceId) := by
  refine (nextSerial_within hardware_books).bind fun _ => getNow_within.bind fun _ =>
    getDb_within.bind fun db => ?_
  cases db.linkOf deviceId with
  | none =>
    exact (nextSerial_within hardware_books).bind fun _ => (alter_hardware fun _ => rfl).bind
      fun _ => (flush_within hardware_books).bind fun _ => Within.pure _
  | some l =>
    exact (alter_hardware fun _ => rfl).bind fun _ => (flush_within hardware_books).bind fun _ =>
      Within.pure _

/-- The row `addDevice` inserts. -/
def freshDevice (id userId : Id) (name : String) (serverId : Option Id) (protocol : VpnProtocol) :
    Device := ⟨id,userId,name,none,none,serverId,.active,none,protocol⟩

/-- A session after a device row was inserted under the next number. -/
def withDevice (d : Device) (s : Session) : Session :=
  {s with
    db := {s.db with devices := s.db.devices.insert d}
    serial := s.serial+1}

/-- The row a new WireGuard device gets once its peer is there. -/
def withServer (p : VpnPeer) (server : VpnServer) (d : Device) : Device :=
  {withPeer p d with serverId := some server.id}

theorem withServer_id (p : VpnPeer) (server : VpnServer) (d : Device) :
    (withServer p server d).id=d.id := rfl

theorem provisionWireguard_attempts {cfg : Settings} {user : User} {name : String}
    {requested : Option Id} {s t : Session} {r : ProvisionedDevice}
    (h : provision cfg user name requested .wireguard s=(.ok r,t)) :
    limitVerdict s.db user.id=.ok () ∧ name.length≤64 ∧ ∃ server u v result p,
      s.db.vpnServers.get? server.id=some server ∧
      hardwareFrame.rel (withDevice (freshDevice s.serial user.id name none .wireguard) s) u ∧
      createPeerWithRetry cfg s.serial server u=(.ok (result,p),v) ∧
      hardwareFrame.rel {v with db := {v.db with
        devices := v.db.devices.modify s.serial (withServer p server) fun _ => rfl
        vpnServers := v.db.vpnServers.modify server.id
          (fun x => {x with currentLoad := x.currentLoad+1}) fun _ => rfl}} t := by
  obtain ⟨_,a,ha,h⟩ := Eff.bind_ok.mp h
  obtain ⟨hsa,hverdict⟩ := enforceDeviceLimit_ok ha
  subst hsa
  obtain ⟨server,b,hb,h⟩ := Eff.bind_ok.mp h
  obtain ⟨hsb,hget⟩ := chooseServer_ok hb
  subst hsb
  obtain ⟨device,c,hc,h⟩ := Eff.bind_ok.mp h
  obtain ⟨hlen,hdevice,os,hcs⟩ := addDevice_ok hc
  obtain ⟨link,u,hu,h⟩ := Eff.bind_ok.mp h
  obtain ⟨created,v,hv,h⟩ := Eff.bind_ok.mp h
  obtain ⟨result,p⟩ := created
  rw [hdevice] at hu hv h hcs
  refine ⟨hverdict,hlen,server,u,v,result,p,hget,?_,hv,?_⟩
  · have hlink := ((createOrRotate_hardware s.serial) c).rel_of_run hu
    rw [hcs] at hlink
    exact hlink
  · obtain ⟨_,w,hw,h⟩ := Eff.bind_ok.mp h
    cases hw
    obtain ⟨_,w,hw,h⟩ := Eff.bind_ok.mp h
    cases hw
    have hrest : Within coreFrame (do
        let profile ← regenerateProfile cfg s.serial user.id
        let config ← generateQrCode (clientConfig cfg result profile)
        let url ← generateQrCode (.url cfg.subscriptionBaseUrl link.2)
        let device ← refreshed
          ⟨s.serial,user.id,name,none,none,none,.active,none,.wireguard⟩
        pure (⟨device,some config,some url⟩ : ProvisionedDevice)) :=
      (regenerateProfile_core cfg _ _).bind fun _ => (generateQrCode_within _).bind fun _ =>
        (generateQrCode_within _).bind fun _ => (refreshed_within _).bind fun _ => Within.pure _
    exact hardware_of_core ((hrest _).rel_of_run h)

/-- What a successful provisioning of a WireGuard device goes through: the row, the link, the
peer, and at last the row again and the load of the server. -/
theorem provisionWireguard_ok {cfg : Settings} {user : User} {name : String}
    {requested : Option Id} {s t : Session} {r : ProvisionedDevice}
    (h : provision cfg user name requested .wireguard s=(.ok r,t)) :
    limitVerdict s.db user.id=.ok () ∧ name.length≤64 ∧ ∃ server u v p,
      s.db.vpnServers.get? server.id=some server ∧
      hardwareFrame.rel (withDevice (freshDevice s.serial user.id name none .wireguard) s) u ∧
      PeerCreated s.serial server u v p ∧
      hardwareFrame.rel {v with db := {v.db with
        devices := v.db.devices.modify s.serial (withServer p server) fun _ => rfl
        vpnServers := v.db.vpnServers.modify server.id
          (fun x => {x with currentLoad := x.currentLoad+1}) fun _ => rfl}} t := by
  obtain ⟨hverdict,hlen,server,u,v,result,p,hget,hdev,hcreate,hlast⟩ := provisionWireguard_attempts h
  exact ⟨hverdict,hlen,server,u,v,p,hget,hdev,createPeerAttempts_ok hcreate,hlast⟩

/-- What a successful provisioning of a VLESS device goes through. -/
theorem provisionVless_ok {cfg : Settings} {user : User} {name : String}
    {requested : Option Id} {s t : Session} {r : ProvisionedDevice}
    (h : provisionVless cfg user name requested s=(.ok r,t)) :
    name.length≤64 ∧ ∃ server config u id,
      s.db.vpnServers.get? server.id=some server ∧
      s.db.vlessConfig server.id=some config ∧
      hardwareFrame.rel
        (withDevice (freshDevice s.serial user.id name (some server.id) .vless) s) u ∧
      u.serial< id ∧ id<t.serial ∧
      hardwareView t=hardwareView (setXray config.xrayAgentBaseUrl
        (UserStore.createUser u.serial s.serial config.flow u.now
          (u.xray config.xrayAgentBaseUrl))
        {u with db := {u.db with
          vlessCredentials :=
            u.db.vlessCredentials.insert ⟨id,s.serial,server.id,u.serial,.active,none,none⟩
          vpnServers := u.db.vpnServers.modify server.id
            (fun x => {x with currentLoad := x.currentLoad+1}) fun _ => rfl}}) := by
  obtain ⟨server,b,hb,h⟩ := Eff.bind_ok.mp h
  obtain ⟨hsb,hget⟩ := chooseServer_ok hb
  subst hsb
  rw [getDb_bind_run] at h
  obtain ⟨config,hconfig,h⟩ := Eff.orRaise_bind_ok.mp h
  obtain ⟨device,c,hc,h⟩ := Eff.bind_ok.mp h
  obtain ⟨hlen,hdevice,os,hcs⟩ := addDevice_ok hc
  obtain ⟨link,u,hu,h⟩ := Eff.bind_ok.mp h
  rw [hdevice] at hu h hcs
  rw [nextSerial_bind_run,getNow_bind_run] at h
  obtain ⟨_,v,hv,h⟩ := Eff.bind_ok.mp h
  obtain ⟨os₁,hvs⟩ := xrayRequest_ok (fun x => UserStore.createUser_createUser x _ _ _ _) hv
  rw [nextSerial_bind_run] at h
  obtain ⟨_,w,hw,h⟩ := Eff.bind_ok.mp h
  obtain ⟨os₂,hws⟩ := flush_ok hw
  rw [getDb_bind_run] at h
  obtain ⟨_,h⟩ := Eff.require_bind_ok.mp h
  rw [alter_bind_run] at h
  obtain ⟨_,x,hx,h⟩ := Eff.bind_ok.mp h
  cases hx
  have hlink := ((createOrRotate_hardware s.serial) c).rel_of_run hu
  rw [hcs] at hlink
  have hrest : Within hardwareFrame (do
      let url ← generateQrCode (.url cfg.subscriptionBaseUrl link.2)
      pure (⟨⟨s.serial,user.id,name,none,none,some server.id,.active,none,.vless⟩,none,some url⟩ :
        ProvisionedDevice)) :=
    (generateQrCode_within _).bind fun _ => Within.pure _
  have hlast := (hrest _).rel_of_run h
  have hserial : v.serial=u.serial+1 := by rw [hvs]; rfl
  refine ⟨hlen,server,config,u,v.serial,hget,hconfig,hlink,?_,?_,?_⟩
  · rw [hserial]
    exact Int.lt_succ _
  · have hle := hlast.2
    simp only [hws] at hle
    exact lt_of_lt_of_le (Int.lt_succ _) hle
  · rw [hlast.1,hws,hvs]
    rfl

end VpnService.Backend
