import VpnService.Backend.ProfileRace
import VpnService.Backend.Tokens

namespace VpnService.Backend

/-- What the agent of the server answers for a peer. -/
def issuedTo (cfg : Settings) (server : VpnServer) (p : VpnPeer) : PeerProvisioningResult where
  publicKey := p.publicKey
  privateKey := p.publicKey
  assignedIp := p.assignedIp
  serverPublicKey := server.publicKey
  serverEndpoint := server.endpoint
  dns := cfg.vpnDnsList

/-- The config text a device is handed, and the rows it is read off: the device's active peer, its
current profile and its server. -/
structure Issued (cfg : Settings) (d : Id) (r : ProvisionedDevice) (db : Database)
    (server : VpnServer) (p : VpnPeer) (profile : VpnProfile) : Prop where
  row : db.devices.get? d=some r.device
  host : (db.vpnServers.get? server.id).map VpnServer.unloaded=some server.unloaded
  peer : p∈db.vpnPeers.rows
  onDevice : p.deviceId=d
  onServer : p.serverId=server.id
  active : p.status=.active
  current : db.currentProfiles d=[profile]
  dns : profile.dns=cfg.vpnDnsList
  config : r.configText=some (clientConfig cfg (issuedTo cfg server p) profile)

theorem createPeerAttempts_result (cfg : Settings) (d : Id) (server : VpnServer) (n : Nat) :
    Yields (fun x => x.1=issuedTo cfg server x.2) (createPeerAttempts cfg d server n) := by
  induction n with
  | zero => exact fun s x t h => by cases h
  | succ n ih =>
    refine Yields.bind fun ip s x t h => ?_
    obtain ⟨result,u,hu,h⟩ := Eff.bind_ok.mp h
    obtain ⟨os,hresult,_⟩ := createPeer_ok hu
    refine (Yields.bind fun _ => Yields.bind fun _ => Yields.bind fun _ => Yields.bind fun db => ?_ :
      Yields (fun x => x.1=issuedTo cfg server x.2) _) u x t h
    split_ifs
    · exact Yields.bind fun _ => ih
    · refine Yields.bind fun _ => Yields.pure ?_
      rw [hresult]
      rfl

section

variable {cfg : Settings} {s t : Session}

/-- A new profile is the only current one of its device. -/
theorem regenerateProfile_current {d userId : Id} {new : VpnProfile}
    (hn : ∀ p∈s.db.vpnProfiles.rows,p.id<s.serial)
    (h : regenerateProfile cfg d userId s=(.ok new,t)) :
    t.db.currentProfiles d=[new] ∧ new.dns=cfg.vpnDnsList := by
  obtain ⟨_,_,_,db,current,_,_,hdb,_,hnew,ht,hid,hdns⟩ := regenerateProfile_ok h
  have hdevice : new.deviceId=d := by rw [hnew]; rfl
  have hcurrent : new.isCurrent=true := by rw [hnew]; rfl
  have hfresh : ∀ x∈(markSuperseded d db).vpnProfiles.rows,x.id≠new.id := by
    intro x hx
    obtain ⟨q,hq,he⟩ := mem_markSuperseded.mp hx
    rw [hdb] at hq
    rw [he,(supersededIn_keeps d q).1]
    exact ((hn q hq).trans_le hid).ne
  refine ⟨?_,hdns⟩
  have hmem : ∀ x,x∈t.db.vpnProfiles.rows ↔
      x∈(markSuperseded d db).vpnProfiles.rows ∨ x=new := by
    intro x
    rw [ht]
    exact Store.mem_insert hfresh
  unfold Database.currentProfiles
  apply t.db.vpnProfiles.filter_eq_singleton ((hmem new).mpr (Or.inr rfl))
  · simp [hdevice,hcurrent]
  · intro x hx hq
    have hq : x.deviceId=d ∧ x.isCurrent=true := by simpa using hq
    rcases (hmem x).mp hx with hx|hx
    · obtain ⟨q,_,he⟩ := mem_markSuperseded.mp hx
      rw [he] at hq
      obtain ⟨_,hne,_⟩ := supersededIn_current hq.2
      rw [(supersededIn_keeps d q).2.1] at hq
      exact absurd hq.1 hne
    · exact hx

/-- The end of a provisioning and of a reissue: the row of the device is written, a profile made,
and the config is drawn of that. -/
theorem issued_of_profile {d userId : Id} {server : VpnServer} {p : VpnPeer} {profile : VpnProfile}
    {r : ProvisionedDevice} {u v : Session} (hcreated : PeerCreated d server u v p)
    (hpeers : ∀ q∈u.db.vpnPeers.rows,q.id<u.serial)
    (hprofiles : ∀ q∈s.db.vpnProfiles.rows,q.id<s.serial) (hrows : s.db.vpnPeers=v.db.vpnPeers)
    (hdevice : (s.db.devices.get? d).isSome)
    (hserver : (s.db.vpnServers.get? server.id).map VpnServer.unloaded=some server.unloaded)
    (hprofile : regenerateProfile cfg d userId s=(.ok profile,t))
    (hr : t.db.devices.get? d=some r.device ∨ t.db.devices.get? d=none)
    (hconfig : r.configText=some (clientConfig cfg (issuedTo cfg server p) profile)) :
    Issued cfg d r t.db server p profile := by
  obtain ⟨hcurrent,hdns⟩ := regenerateProfile_current hprofiles hprofile
  have hview := ((regenerateProfile_core cfg d userId s).rel_of_run hprofile).1
  simp only [fleetView,Prod.mk.injEq] at hview
  obtain ⟨_,hv,_,hds,hps,_⟩ := hview
  have hfresh : ∀ q∈u.db.vpnPeers.rows,q.id≠p.id := fun q hq =>
    ((hpeers q hq).trans_le hcreated.drawn.2).ne
  refine ⟨?_,?_,?_,hcreated.onDevice,hcreated.onServer,hcreated.active,hcurrent,hdns,hconfig⟩
  · rcases hr with hr|hr
    · exact hr
    · rw [hds] at hr
      rw [hr] at hdevice
      cases hdevice
  · rw [hv]
    exact hserver
  · rw [hps,hrows,hcreated.db]
    exact (Store.mem_insert hfresh).mpr (Or.inr rfl)

/-- Retiring a peer keeps the ids of the peers and the servers. -/
theorem retireActive_ids {d : Id} {server : VpnServer}
    (h : withActivePeer d (retirePeer server) s=(.ok (),t)) :
    t.db.vpnServers=s.db.vpnServers ∧
      ∀ q∈t.db.vpnPeers.rows,∃ x∈s.db.vpnPeers.rows,x.id=q.id := by
  rcases retireActive_ok h with ⟨_,hts⟩|⟨old,_,_,hts⟩
  · subst hts
    exact ⟨rfl,fun q hq => ⟨q,hq,rfl⟩⟩
  · have hkey : ∀ r : VpnPeer,({r with status := .revoked} : VpnPeer).id=r.id := fun _ => rfl
    have hrows : t.db.vpnPeers=s.db.vpnPeers.modify old.id _ hkey := by rw [hts]
    refine ⟨by rw [hts],fun q hq => ?_⟩
    rw [hrows] at hq
    rcases (Store.mem_modify hkey).mp hq with ⟨x,hx,_,he⟩|⟨hq,_⟩
    · exact ⟨x,hx,by rw [he]⟩
    · exact ⟨q,hq,rfl⟩

/-- A reissue hands out what the rows it leaves say. -/
theorem reissue_issued {device : Device} {r : ProvisionedDevice}
    (hdevice : s.db.devices.get? device.id=some device)
    (hprofiles : ∀ p∈s.db.vpnProfiles.rows,p.id<s.serial)
    (hpeers : ∀ p∈s.db.vpnPeers.rows,p.id<s.serial) (h : reissue cfg device s=(.ok r,t)) :
    ∃ server p profile,Issued cfg device.id r t.db server p profile ∧ r.subscriptionUrl=none ∧
      device.serverId=some server.id := by
  obtain ⟨_,h₁⟩ := Eff.require_bind_ok.mp h
  obtain ⟨server,a,ha,h₂⟩ := Eff.bind_ok.mp h₁
  obtain ⟨hsa,hserver,hget⟩ := serverOfDevice_ok ha
  subst hsa
  obtain ⟨_,u,hu,h₃⟩ := Eff.bind_ok.mp h₂
  obtain ⟨created,v,hv,h₄⟩ := Eff.bind_ok.mp h₃
  obtain ⟨result,p⟩ := created
  have hresult : result=issuedTo cfg server p := createPeerAttempts_result cfg _ server 5 u _ v hv
  have hcreated := createPeerAttempts_ok hv
  obtain ⟨_,w,hw,h₅⟩ := Eff.bind_ok.mp h₄
  have hws : w={v with db := {v.db with
      devices := v.db.devices.modify device.id (withPeer p) fun _ => rfl}} := by
    cases hw
    rfl
  obtain ⟨profile,x,hx,h₆⟩ := Eff.bind_ok.mp h₅
  obtain ⟨config,y,hy,h₇⟩ := Eff.bind_ok.mp h₆
  have hyx : y=x := ((generateQrCode_within _ : Within Frame.still _) x).still_run hy
  have hconfig := generateQrCode_yields _ x config y hy
  obtain ⟨row,z,hz,h₈⟩ := Eff.bind_ok.mp h₇
  cases hz
  cases h₈
  subst hyx hconfig hresult
  have hretire := (withActivePeer_within device.id fun p => retirePeer_equipment server p) s
  have hkept := hretire.rel_of_run hu
  have hpapers : u.db.unequipped=s.db.unequipped := congrArg Prod.fst hkept.1
  have hprofileRows : u.db.vpnProfiles=s.db.vpnProfiles :=
    (congrArg Database.vpnProfiles hpapers :)
  have hdeviceRows : u.db.devices=s.db.devices := (congrArg Database.devices hpapers :)
  obtain ⟨hserverRows,hids⟩ := retireActive_ids hu
  have hserial := (createPeerAttempts_equipment cfg device.id server 5 u).rel_of_run hv
  have hpeerRows : ∀ q∈u.db.vpnPeers.rows,q.id<u.serial := by
    intro q hq
    obtain ⟨x,hx,hid⟩ := hids q hq
    rw [← hid]
    exact (hpeers x hx).trans_le hkept.2
  have hvdb : v.db={u.db with vpnPeers := u.db.vpnPeers.insert p} := hcreated.db
  have hws' : w.serial=v.serial ∧ w.db.vpnProfiles=s.db.vpnProfiles ∧
      w.db.vpnPeers=v.db.vpnPeers ∧ w.db.vpnServers=s.db.vpnServers := by
    rw [hws,hvdb]
    exact ⟨rfl,hprofileRows,rfl,hserverRows⟩
  have hdevices : w.db.devices=s.db.devices.modify device.id (withPeer p) fun _ => rfl := by
    rw [hws,hvdb,← hdeviceRows]
  have hrow : w.db.devices.get? device.id=some (withPeer p device) := by
    rw [hdevices]
    exact (Store.get?_modify_self _ _ _ _).trans (by rw [hdevice]; rfl)
  refine ⟨server,p,profile,?_,rfl,hserver⟩
  apply issued_of_profile hcreated hpeerRows _ hws'.2.2.1 _ _ hx
  · cases hget : t.db.devices.get? device.id with
    | none => exact Or.inr rfl
    | some row => exact Or.inl rfl
  · rfl
  · rw [hws'.1,hws'.2.1]
    exact fun q hq => (hprofiles q hq).trans_le (hkept.2.trans hserial.2)
  · rw [hrow]
    rfl
  · rw [hws'.2.2.2,hget]
    rfl

/-- The link that is made or rotated stands in the table under the hash of its token. -/
theorem createOrRotate_stands {d : Id} {a : SubscriptionLink×Secret}
    (hlinks : ∀ l∈s.db.subscriptionLinks.rows,l.id<s.serial)
    (h : createOrRotate d s=(.ok a,t)) :
    a.1∈t.db.subscriptionLinks.rows ∧ a.1.deviceId=d ∧ a.1.tokenHash=⟨a.2⟩ := by
  unfold createOrRotate at h
  rw [nextSerial_bind_run,getNow_bind_run,getDb_bind_run] at h
  cases hl : s.db.linkOf d with
  | none =>
    simp only [hl] at h
    rw [nextSerial_bind_run] at h
    obtain ⟨_,u,hu,h⟩ := Eff.bind_ok.mp h
    cases hu
    obtain ⟨_,v,hv,h⟩ := Eff.bind_ok.mp h
    obtain ⟨os,rfl⟩ := flush_ok hv
    cases h
    have hfresh : ∀ l∈s.db.subscriptionLinks.rows,l.id≠s.serial+1 := fun l hl =>
      ((hlinks l hl).trans (Int.lt_succ _)).ne
    exact ⟨(Store.mem_insert hfresh).mpr (Or.inr rfl),rfl,rfl⟩
  | some l =>
    simp only [hl] at h
    obtain ⟨_,u,hu,h⟩ := Eff.bind_ok.mp h
    cases hu
    obtain ⟨_,v,hv,h⟩ := Eff.bind_ok.mp h
    obtain ⟨os,rfl⟩ := flush_ok hv
    cases h
    obtain ⟨hmem,hdev⟩ := Database.linkOf_mem hl
    have hkey : ∀ x : SubscriptionLink,
        (rotatedLink (.generated s.serial) s.now x).id=x.id := fun _ => rfl
    exact ⟨(Store.mem_modify_row hkey hmem).mpr (Or.inl rfl),hdev,rfl⟩

/-- What a successful provisioning of a WireGuard device goes through, and what it hands out. -/
theorem provision_handed {user : User} {name : String} {requested : Option Id}
    {r : ProvisionedDevice} (h : provision cfg user name requested .wireguard s=(.ok r,t)) :
    ∃ server device c link u v p w profile os,s.db.vpnServers.get? server.id=some server ∧
      device.id=s.serial ∧ device.userId=user.id ∧
      c={s with
        db := {s.db with devices := s.db.devices.insert device}
        serial := s.serial+1
        outcomes := os} ∧
      createOrRotate device.id c=(.ok link,u) ∧ PeerCreated device.id server u v p ∧
      u.serial≤v.serial ∧
      w={v with db := {v.db with
        devices := v.db.devices.modify device.id (withServer p server) fun _ => rfl
        vpnServers := v.db.vpnServers.modify server.id
          (fun x => {x with currentLoad := x.currentLoad+1}) fun _ => rfl}} ∧
      regenerateProfile cfg device.id user.id w=(.ok profile,t) ∧
      r=⟨(t.db.devices.get? device.id).getD device,
        some (clientConfig cfg (issuedTo cfg server p) profile),
        some (.url cfg.subscriptionBaseUrl link.2)⟩ := by
  obtain ⟨_,a,ha,h₁⟩ := Eff.bind_ok.mp h
  obtain ⟨hsa,_⟩ := enforceDeviceLimit_ok ha
  subst hsa
  obtain ⟨server,b,hb,h₂⟩ := Eff.bind_ok.mp h₁
  obtain ⟨hsb,hget⟩ := chooseServer_ok hb
  subst hsb
  obtain ⟨device,c,hc,h₃⟩ := Eff.bind_ok.mp h₂
  obtain ⟨_,hdevice,os,hcs⟩ := addDevice_ok hc
  have hid : device.id=s.serial := by rw [hdevice]
  obtain ⟨link,u,hu,h₄⟩ := Eff.bind_ok.mp h₃
  obtain ⟨created,v,hv,h₅⟩ := Eff.bind_ok.mp h₄
  obtain ⟨result,p⟩ := created
  have hresult : result=issuedTo cfg server p := createPeerAttempts_result cfg _ server 5 u _ v hv
  have hcreated : PeerCreated device.id server u v p := createPeerAttempts_ok hv
  obtain ⟨_,x,hx,h₆⟩ := Eff.bind_ok.mp h₅
  obtain ⟨_,w,hw,h₇⟩ := Eff.bind_ok.mp h₆
  obtain ⟨profile,y,hy,h₈⟩ := Eff.bind_ok.mp h₇
  obtain ⟨config,y₁,hy₁,h₉⟩ := Eff.bind_ok.mp h₈
  have hyy : y₁=y := ((generateQrCode_within _ : Within Frame.still _) y).still_run hy₁
  have hconfig := generateQrCode_yields _ y config y₁ hy₁
  obtain ⟨url,y₂,hy₂,h₁₀⟩ := Eff.bind_ok.mp h₉
  have hyy₂ : y₂=y₁ := ((generateQrCode_within _ : Within Frame.still _) y₁).still_run hy₂
  have hurl := generateQrCode_yields _ y₁ url y₂ hy₂
  obtain ⟨row,z,hz,h₁₁⟩ := Eff.bind_ok.mp h₁₀
  cases hz
  cases h₁₁
  subst hyy₂ hyy hconfig hurl hresult
  cases hx
  cases hw
  have hgrown := ((createPeerAttempts_equipment cfg device.id server 5 u).rel_of_run hv).2
  exact ⟨server,device,c,link,u,v,p,_,profile,os,hget,hid,by rw [hdevice],hcs,hu,hcreated,hgrown,
    rfl,hy,rfl⟩

/-- A new WireGuard device is handed what its rows say, and the URL of its link. -/
theorem provision_issued {user : User} {name : String} {requested : Option Id}
    {r : ProvisionedDevice} (hdevices : ∀ d∈s.db.devices.rows,d.id<s.serial)
    (hprofiles : ∀ p∈s.db.vpnProfiles.rows,p.id<s.serial)
    (hpeers : ∀ p∈s.db.vpnPeers.rows,p.id<s.serial)
    (hlinks : ∀ l∈s.db.subscriptionLinks.rows,l.id<s.serial)
    (h : provision cfg user name requested .wireguard s=(.ok r,t)) :
    ∃ server p profile link token,Issued cfg s.serial r t.db server p profile ∧
      link∈t.db.subscriptionLinks.rows ∧ link.deviceId=s.serial ∧ link.tokenHash=⟨token⟩ ∧
      r.subscriptionUrl=some (.url cfg.subscriptionBaseUrl token) ∧ r.device.userId=user.id := by
  obtain ⟨server,device,c,link,u,v,p,w,profile,os,hget,hid,huser,hcs,hu,hcreated,hvu,hws,hy,hr⟩ :=
    provision_handed h
  subst hr
  have hrotated := (createOrRotate_hardware device.id c).rel_of_run hu
  have hview := hrotated.1
  simp only [hardwareView,Prod.mk.injEq] at hview
  obtain ⟨huservers,_,hudevices,hupeers,_⟩ := hview
  have huprofiles : u.db.vpnProfiles=c.db.vpnProfiles :=
    (congrArg Database.vpnProfiles ((createOrRotate_paperwork device.id c).rel_of_run hu).1 :)
  have hcserial : c.serial=s.serial+1 := by rw [hcs]
  have hnext : s.serial<u.serial := (Int.lt_succ s.serial).trans_le (hcserial ▸ hrotated.2)
  have hvdb : v.db={u.db with vpnPeers := u.db.vpnPeers.insert p} := hcreated.db
  have hpeerRows : ∀ q∈u.db.vpnPeers.rows,q.id<u.serial := by
    rw [hupeers,hcs]
    exact fun q hq => (hpeers q hq).trans hnext
  have hwtables : w.serial=v.serial ∧ w.db.vpnProfiles=s.db.vpnProfiles ∧
      w.db.vpnPeers=v.db.vpnPeers ∧ w.db.subscriptionLinks=u.db.subscriptionLinks := by
    rw [hws,hvdb]
    refine ⟨rfl,?_,rfl,rfl⟩
    show u.db.vpnProfiles=s.db.vpnProfiles
    rw [huprofiles,hcs]
  have hfresh : ∀ x∈s.db.devices.rows,x.id≠device.id := by
    rw [hid]
    exact fun x hx => (hdevices x hx).ne
  have hdevicesNow : w.db.devices=(s.db.devices.insert device).modify device.id
      (withServer p server) fun _ => rfl := by
    rw [hws,hvdb]
    dsimp only
    rw [hudevices,hcs]
  have hrow : w.db.devices.get? device.id=some (withServer p server device) := by
    rw [hdevicesNow]
    refine (Store.get?_modify_self _ _ _ _).trans ?_
    rw [Store.get?_insert _ _ hfresh,if_pos rfl]
    rfl
  have hserversNow : w.db.vpnServers=s.db.vpnServers.modify server.id
      (fun x => {x with currentLoad := x.currentLoad+1}) fun _ => rfl := by
    rw [hws,hvdb]
    dsimp only
    rw [huservers,hcs]
  have hlast := ((regenerateProfile_core cfg device.id user.id w).rel_of_run hy).1
  simp only [fleetView,Prod.mk.injEq] at hlast
  obtain ⟨_,_,_,hdevicesLast,_,_,hlinksLast,_⟩ := hlast
  have hrowLast : t.db.devices.get? device.id=some (withServer p server device) := by
    rw [hdevicesLast,hrow]
  have hclinks : ∀ l∈c.db.subscriptionLinks.rows,l.id<c.serial := by
    rw [hcs]
    exact fun l hl => (hlinks l hl).trans (Int.lt_succ _)
  have hstands := createOrRotate_stands hclinks hu
  refine ⟨server,p,profile,link.1,link.2,?_,?_,?_,hstands.2.2,rfl,?_⟩
  · rw [← hid]
    apply issued_of_profile hcreated hpeerRows _ hwtables.2.2.1 _ _ hy
    · exact Or.inl (by rw [hrowLast]; rfl)
    · rfl
    · rw [hwtables.1,hwtables.2.1]
      exact fun q hq => (hprofiles q hq).trans (hnext.trans_le hvu)
    · rw [hrow]
      rfl
    · rw [hserversNow]
      refine (congrArg _ (Store.get?_modify_self _ _ _ _)).trans ?_
      rw [hget]
      rfl
  · rw [hlinksLast,hwtables.2.2.2]
    exact hstands.1
  · rw [hstands.2.1,hid]
  · show ((t.db.devices.get? device.id).getD device).userId=user.id
    rw [hrowLast]
    exact huser

/-- A new VLESS device is handed the URL of its link and no config. -/
theorem provisionVless_issued {user : User} {name : String} {requested : Option Id}
    {r : ProvisionedDevice} (hdevices : ∀ d∈s.db.devices.rows,d.id<s.serial)
    (hlinks : ∀ l∈s.db.subscriptionLinks.rows,l.id<s.serial)
    (h : provisionVless cfg user name requested s=(.ok r,t)) :
    ∃ link token,t.db.devices.get? s.serial=some r.device ∧ r.device.userId=user.id ∧
      r.configText=none ∧ link∈t.db.subscriptionLinks.rows ∧ link.deviceId=s.serial ∧
      link.tokenHash=⟨token⟩ ∧ r.subscriptionUrl=some (.url cfg.subscriptionBaseUrl token) := by
  obtain ⟨server,b,hb,h₁⟩ := Eff.bind_ok.mp h
  obtain ⟨hsb,_⟩ := chooseServer_ok hb
  subst hsb
  rw [getDb_bind_run] at h₁
  obtain ⟨config,_,h₂⟩ := Eff.orRaise_bind_ok.mp h₁
  obtain ⟨device,c,hc,h₃⟩ := Eff.bind_ok.mp h₂
  obtain ⟨_,hdevice,os,hcs⟩ := addDevice_ok hc
  have hid : device.id=s.serial := by rw [hdevice]
  obtain ⟨link,u,hu,h₄⟩ := Eff.bind_ok.mp h₃
  have hclinks : ∀ l∈c.db.subscriptionLinks.rows,l.id<c.serial := by
    rw [hcs]
    exact fun l hl => (hlinks l hl).trans (Int.lt_succ _)
  have hstands := createOrRotate_stands hclinks hu
  have hfresh : ∀ x∈s.db.devices.rows,x.id≠device.id := by
    rw [hid]
    exact fun x hx => (hdevices x hx).ne
  have hview := ((createOrRotate_hardware device.id c).rel_of_run hu).1
  simp only [hardwareView,Prod.mk.injEq] at hview
  have hdevicesNow : u.db.devices=s.db.devices.insert device := by
    rw [hview.2.2.1,hcs]
  have hlast : equipmentFrame.rel u t := by
    refine WithinAt.rel_of_run ?_ h₄
    refine Within.bind (nextSerial_within equipment_books) (fun _ => ?_) u
    exact getNow_within.bind fun _ => (xrayRequest_equipment _ _).bind fun _ =>
      (nextSerial_within equipment_books).bind fun _ => (flush_within equipment_books).bind
      fun _ => getDb_within.bind fun _ => (Within.require _ _).bind fun _ =>
      Within.bind (alter_equipment fun _ => rfl) fun _ =>
      Within.bind (alter_equipment fun _ => rfl) fun _ => (generateQrCode_within _).bind fun _ =>
      Within.pure _
  have hpapers : t.db.unequipped=u.db.unequipped := congrArg Prod.fst hlast.1
  have htdevices : t.db.devices=u.db.devices := (congrArg Database.devices hpapers :)
  have htlinks : t.db.subscriptionLinks=u.db.subscriptionLinks :=
    (congrArg Database.subscriptionLinks hpapers :)
  have hvalue : r.device=device ∧ r.configText=none ∧
      r.subscriptionUrl=some (.url cfg.subscriptionBaseUrl link.2) := by
    refine (Yields.bind fun _ => Yields.bind fun _ => Yields.bind fun _ => Yields.bind fun _ =>
      Yields.bind fun _ => Yields.bind fun _ => Yields.bind fun _ => Yields.bind fun _ =>
      Yields.bind fun _ => (generateQrCode_yields _).bind_of fun url hurl => Yields.pure ?_ :
      Yields (fun r => r.device=device ∧ r.configText=none ∧
        r.subscriptionUrl=some (.url cfg.subscriptionBaseUrl link.2)) _) u r t h₄
    exact ⟨rfl,rfl,congrArg some hurl⟩
  have hrow : t.db.devices.get? s.serial=some device := by
    rw [htdevices,hdevicesNow,Store.get?_insert _ _ hfresh,if_pos hid]
  refine ⟨link.1,link.2,by rw [hrow,hvalue.1],?_,hvalue.2.1,?_,?_,hstands.2.2,hvalue.2.2⟩
  · rw [hvalue.1,hdevice]
  · rw [htlinks]
    exact hstands.1
  · rw [hstands.2.1,hid]

end

end VpnService.Backend
