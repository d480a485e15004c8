import VpnService.Backend.Loads
import VpnService.Backend.Disabling

namespace VpnService.Backend

open Agent

/-- A peer's key is at the agent of its server alone, and there only while the peer is active. -/
def Homed (db : Database) (vpn : String → IpPeerStore) : Prop :=
  ∀ p∈db.vpnPeers.rows,∀ url r,(vpn url).get? p.publicKey=some r → p.status=.active ∧
    ∃ server,db.vpnServers.get? p.serverId=some server ∧ server.agentBaseUrl=url

/-- No peer is ever disabled, and a revoked credential says when it was revoked. -/
structure Marked (db : Database) : Prop where
  peers : ∀ p∈db.vpnPeers.rows,p.status≠.disabled
  credentials : ∀ c∈db.vlessCredentials.rows,c.status=.revoked → c.revokedAt.isSome

/-- Under the numbers below `n`, no agent gets a record of a peer it does not have. -/
def GainsNone (n : Int) (s t : Session) : Prop :=
  ∀ url k,k<n → (s.vpn url).get? k=none → (t.vpn url).get? k=none

def sparse (n : Int) : Frame Session where
  rel := GainsNone n
  refl _ _ _ _ h := h
  trans h k url x hx hs := k url x hx (h url x hx hs)

/-- Only the agent at `url` is written to. -/
def lone (url : String) : Frame Session where
  rel s t := ∀ u,u≠url → t.vpn u=s.vpn u
  refl _ _ _ := rfl
  trans h k u hu := (k u hu).trans (h u hu)

theorem lone_books (url : String) : Bookkeeping (lone url) :=
  ⟨fun _ _ _ => rfl,fun _ _ _ _ => rfl⟩

theorem sparse_of_dimmed {n : Int} {s t : Session} (h : (dimming (fun k => n≤k) n).rel s t)
    (hn : n≤ s.serial) : GainsNone n s t := by
  intro url k hk hnone
  cases hget : (t.vpn url).get? k with
  | none => rfl
  | some r =>
    obtain ⟨r₀,h₀,_⟩ := (h hn).1.vpn url k r (not_le.mpr hk) hget
    rw [hnone] at h₀
    cases h₀

theorem sparse_of_vpn {n : Int} {s t : Session} (h : t.vpn=s.vpn) : GainsNone n s t := by
  intro url k _ hnone
  rw [h]
  exact hnone

/-- Enabling a device writes the devices, the credentials and the agents, and nothing else. -/
theorem enable_within {R : Frame Session} (hR : Bookkeeping R)
    (hdb : ∀ (s : Session) ds cs,
      R.rel s {s with db := {s.db with devices := ds,vlessCredentials := cs}})
    (hvpn : ∀ (s : Session) url key store,
      PeerStore.enablePeer key (s.vpn url)=some store → R.rel s (setVpn url store s))
    (hxray : ∀ (s : Session) f,R.rel s {s with xray := f}) (device : Device) :
    Within R (enable device) := by
  refine Within.bind ?_ fun _ => alter_within fun s => hdb s _ _
  unfold enableTransport
  cases device.protocol with
  | vless =>
    refine getDb_within.bind fun _ => Within.each fun c _ => Within.ite ?_ (Within.pure _)
    refine (configForCredential_within c).bind fun config => ?_
    cases config with
    | none => exact Within.pure _
    | some config =>
      refine getNow_within.bind fun _ => Within.bind ?_ fun _ => alter_within fun s => hdb s _ _
      exact xrayRequest_within hR fun s => hxray s _
  | wireguard =>
    refine (serverOfDevice_within device).bind fun server => withActivePeer_within _ fun p => ?_
    exact vpnRequest_within hR fun s store hstore => hvpn s _ _ store hstore

/-- Switching a peer on needs its record. -/
theorem enable_sparse (n : Int) (device : Device) : Within (sparse n) (enable device) := by
  have hbooks : Bookkeeping (sparse n) := ⟨fun _ => sparse_of_vpn rfl,fun _ _ => sparse_of_vpn rfl⟩
  refine enable_within hbooks (fun _ _ _ => sparse_of_vpn rfl) ?_ (fun _ _ => sparse_of_vpn rfl) device
  intro s home key store hstore url k _ hnone
  obtain ⟨_,_,he⟩ := Option.map_eq_some_iff.mp hstore
  subst he
  by_cases hu : url=home
  · simp only [setVpn,hu,if_true]
    rw [PeerStore.get?_setEnabled,← hu]
    split_ifs
    · rw [hnone]
      rfl
    · exact hnone
  · simp only [setVpn,hu,if_false]
    exact hnone

/-- The peers and the servers stay what they are. -/
abbrev nodesFrame : Frame Session := keeping fun s => (s.db.vpnPeers,s.db.vpnServers)

theorem nodes_of_hardware {s t : Session} (h : hardwareFrame.rel s t) : nodesFrame.rel s t := by
  obtain ⟨hview,hs⟩ := h
  simp only [hardwareView,Prod.mk.injEq] at hview
  exact ⟨Prod.ext hview.2.2.2.1 hview.1,hs⟩

theorem nodes_books : Bookkeeping nodesFrame := ⟨fun _ => ⟨rfl,by simp⟩,fun _ _ => ⟨rfl,le_rfl⟩⟩

theorem disable_nodes (device : Device) : Within nodesFrame (disable device) :=
  disable_within nodes_books (fun _ _ _ => ⟨rfl,le_rfl⟩) (fun _ _ => ⟨rfl,le_rfl⟩)
    (fun _ _ => ⟨rfl,le_rfl⟩) device

theorem enable_nodes (device : Device) : Within nodesFrame (enable device) :=
  enable_within nodes_books (fun _ _ _ => ⟨rfl,le_rfl⟩) (fun _ _ _ _ _ => ⟨rfl,le_rfl⟩)
    (fun _ _ => ⟨rfl,le_rfl⟩) device

theorem runOnce_nodes (asOf : Option Time) : Within nodesFrame (runOnce asOf) :=
  runOnce_within (fun h => nodes_of_hardware (hardware_of_core (core_of_audit h)))
    (fun _ => alter_within fun _ => ⟨rfl,le_rfl⟩) disable_nodes asOf

/-- Only a reissue and a revocation of a device write to the peers. -/
theorem handleDevice_nodes (cfg : Settings) (device : Device) (r : DeviceRequest)
    (hreissue : r≠.reissue) (hrevoke : r≠.revoke) :
    Within nodesFrame (handleDevice cfg device r) := by
  have hanswer : Within nodesFrame (answerDevice device) :=
    (refreshed_within device).bind fun _ => Within.pure _
  cases r with
  | reissue => exact absurd rfl hreissue
  | revoke => exact absurd rfl hrevoke
  | disable => exact (disable_nodes device).bind fun _ => hanswer
  | enable => exact (enable_nodes device).bind fun _ => hanswer
  | createOrRotateLink =>
    exact ((createOrRotate_hardware device.id).mono nodes_of_hardware).bind fun _ =>
      (generateQrCode_within _).bind fun _ => Within.pure _
  | getLink => exact (getLink_within device.id).bind fun _ => Within.pure _
  | revokeLink =>
    exact (getLink_within device.id).bind fun _ => Within.bind (getNow_within.bind fun _ =>
      alter_within fun _ => ⟨rfl,le_rfl⟩) fun _ => answerLink_within _
  | getProfile =>
    exact Within.bind (getDb_within.bind fun _ => (currentProfile_within _).bind fun _ =>
      Within.orRaise _ _) fun _ => Within.pure _
  | refreshProfile =>
    exact ((regenerateProfile_core cfg _ _).mono fun h =>
      nodes_of_hardware (hardware_of_core h)).bind fun _ => Within.pure _

theorem createPeerAttempts_lone (cfg : Settings) (deviceId : Id) (server : VpnServer) (n : Nat) :
    Within (lone server.agentBaseUrl) (createPeerAttempts cfg deviceId server n) := by
  have hbooks := lone_books server.agentBaseUrl
  have hrequest : ∀ op,Within (lone server.agentBaseUrl) (vpnRequest server op) := by
    intro op
    refine vpnRequest_within hbooks fun s store _ u hu => ?_
    simp only [setVpn,hu,if_false]
  induction n with
  | zero => exact Within.raise _
  | succ n ih =>
    refine (allocateIp_within server).bind fun ip => Within.bind (getNow_within.bind fun _ =>
      (nextSerial_within hbooks).bind fun _ => (hrequest _).bind fun _ => Within.pure _) fun _ =>
      (nextSerial_within hbooks).bind fun _ => (flush_within hbooks).bind fun _ =>
      (flush_within hbooks).bind fun _ => getDb_within.bind fun _ => Within.ite ?_ ?_
    · exact (hrequest _).bind fun _ => ih
    · exact Within.bind (alter_within fun _ _ _ => rfl) fun _ => Within.pure _

section

variable {db : Database} {vpn : String → IpPeerStore} {n : Int}

/-- Records of the rows that are there only go. -/
theorem Homed.of_fewer {vpn' : String → IpPeerStore} (h : Homed db vpn)
    (hn : ∀ p∈db.vpnPeers.rows,p.publicKey<n)
    (hless : ∀ url k,k<n → (vpn url).get? k=none → (vpn' url).get? k=none) : Homed db vpn' := by
  intro p hp url r hr
  cases hget : (vpn url).get? p.publicKey with
  | none =>
    rw [hless url _ (hn p hp) hget] at hr
    cases hr
  | some r₀ => exact h p hp url r₀ hget

theorem Homed.of_tables {db' : Database} (h : Homed db vpn)
    (hp : ∀ p∈db'.vpnPeers.rows,p∈db.vpnPeers.rows ∧ ∀ server,
      db.vpnServers.get? p.serverId=some server →
      ∃ x,db'.vpnServers.get? p.serverId=some x ∧ x.agentBaseUrl=server.agentBaseUrl) :
    Homed db' vpn := by
  intro p hmem url r hr
  obtain ⟨hold,hserver⟩ := hp p hmem
  obtain ⟨hact,server,hget,hurl⟩ := h p hold url r hr
  obtain ⟨x,hx,hsame⟩ := hserver server hget
  exact ⟨hact,x,hx,hsame.trans hurl⟩

theorem Homed.modifyServer {k : Id} {f : VpnServer → VpnServer} (hf : ∀ x,(f x).id=x.id)
    (h : Homed db vpn) (hurl : ∀ x,(f x).agentBaseUrl=x.agentBaseUrl) :
    Homed {db with vpnServers := db.vpnServers.modify k f hf} vpn := by
  refine h.of_tables fun p hp => ⟨hp,fun x hx => ?_⟩
  rw [Store.get?_modify,hx]
  split_ifs
  · exact ⟨f x,rfl,hurl x⟩
  · exact ⟨x,rfl,rfl⟩

/-- A peer whose record was deleted at its server may be revoked. -/
theorem Homed.retire {p : VpnPeer} {server : VpnServer} (h : Homed db vpn)
    (hp : p∈db.vpnPeers.rows) (hserver : db.vpnServers.get? p.serverId=some server) :
    Homed {db with
        vpnPeers := db.vpnPeers.modify p.id (fun q => {q with status := .revoked}) fun _ => rfl}
      fun u => if u=server.agentBaseUrl then
        PeerStore.deletePeer p.publicKey (vpn server.agentBaseUrl) else vpn u := by
  have hkey : ∀ q : VpnPeer,({q with status := .revoked} : VpnPeer).id=q.id := fun _ => rfl
  have hkept : ∀ url k r,(if url=server.agentBaseUrl then
      PeerStore.deletePeer p.publicKey (vpn server.agentBaseUrl) else vpn url).get? k=some r →
      (vpn url).get? k=some r ∧ (url=server.agentBaseUrl → k≠p.publicKey) := by
    intro url k r hr
    split_ifs at hr with hu
    · rw [PeerStore.get?_deletePeer] at hr
      split_ifs at hr with hk
      exact ⟨hu ▸ hr,fun _ => hk⟩
    · exact ⟨hr,fun he => absurd he hu⟩
  intro q hq url r hr
  obtain ⟨hold,hgone⟩ := hkept url q.publicKey r hr
  rcases (Store.mem_modify_row hkey hp).mp hq with he|⟨hq,_⟩
  · rw [he] at hold hgone
    obtain ⟨_,home,hhome,hurl⟩ := h p hp url r hold
    rw [hserver] at hhome
    cases hhome
    exact absurd rfl (hgone hurl.symm)
  · exact h q hq url r hold

end

/-- A peer that was created has its record at its server. -/
theorem Homed.create {cfg : Settings} {d : Id} {server : VpnServer} {s t : Session}
    {r : PeerProvisioningResult} {p : VpnPeer} (h : Homed s.db s.vpn)
    (hs : Consistent s.serial s.db) (hnew : ∀ url k,s.serial≤k → (s.vpn url).get? k=none)
    (hserver : s.db.vpnServers.get? server.id=some server)
    (hrun : createPeerWithRetry cfg d server s=(.ok (r,p),t)) : Homed t.db t.vpn := by
  have hcreated := createPeerAttempts_ok hrun
  have hdim := (createPeerAttempts_dimming cfg d server 5 (N := fun k => s.serial≤k)
    (n := s.serial) (fun _ => id) s).rel_of_run hrun
  have haway := (createPeerAttempts_lone cfg d server 5 s).rel_of_run hrun
  have hold : Homed s.db t.vpn := h.of_fewer
    (fun q hq => (hs.peerNumbers q hq).2) (sparse_of_dimmed hdim le_rfl)
  have hfresh : ∀ q∈s.db.vpnPeers.rows,q.id≠p.id := fun q hq =>
    ((hs.peerNumbers q hq).1.trans_le hcreated.drawn.2).ne
  have hservers : t.db.vpnServers=s.db.vpnServers := by rw [hcreated.db]
  intro q hq url x hx
  rw [hservers]
  rw [hcreated.db] at hq
  rcases (Store.mem_insert hfresh).mp hq with hq|hq
  · exact hold q hq url x hx
  · subst hq
    refine ⟨hcreated.active,server,by rw [hcreated.onServer]; exact hserver,?_⟩
    by_contra hurl
    rw [haway url (Ne.symm hurl),hnew url q.publicKey hcreated.drawn.1] at hx
    cases hx

section

variable {s t : Session}

theorem Homed.of_nodes (h : Homed s.db s.vpn) (hs : Consistent s.serial s.db)
    (hv : GainsNone s.serial s t) (ht : nodesFrame.rel s t) : Homed t.db t.vpn := by
  obtain ⟨hpeers,hservers⟩ := Prod.mk.inj ht.1
  have hfewer := h.of_fewer (fun p hp => (hs.peerNumbers p hp).2) hv
  refine hfewer.of_tables fun p hp => ?_
  rw [hpeers] at hp
  exact ⟨hp,fun server hget => ⟨server,by rw [hservers]; exact hget,rfl⟩⟩

theorem Homed.of_hardware (h : Homed s.db s.vpn) (ht : hardwareFrame.rel s t) :
    Homed t.db t.vpn := by
  have hview := ht.1
  simp only [hardwareView,Prod.mk.injEq] at hview
  obtain ⟨hv,_,_,hp,_,hvpn,_⟩ := hview
  rw [hvpn]
  refine h.of_tables fun p hmem => ?_
  rw [hp] at hmem
  exact ⟨hmem,fun server hget => ⟨server,by rw [hv]; exact hget,rfl⟩⟩

/-- The active peer of a device is on the server of the device. -/
theorem Consistent.activePeer_server {n : Int} {device : Device} {p : VpnPeer}
    (hs : Consistent n s.db) (hget : s.db.devices.get? device.id=some device)
    (hp : s.db.activePeer device.id=some p) : device.serverId=some p.serverId := by
  obtain ⟨hmem,hpd,hact⟩ := Database.activePeer_mem hp
  obtain ⟨x,hx,_,hassigned⟩ := hs.peerDevices p hmem
  rw [hpd,hget] at hx
  cases hx
  exact hassigned hact

theorem retireActive_homed {n : Int} {device : Device} {server : VpnServer}
    (h : Homed s.db s.vpn) (hs : Consistent n s.db)
    (hget : s.db.devices.get? device.id=some device) (hid : device.serverId=some server.id)
    (hserver : s.db.vpnServers.get? server.id=some server)
    (hrun : withActivePeer device.id (retirePeer server) s=(.ok (),t)) : Homed t.db t.vpn := by
  rcases retireActive_ok hrun with ⟨_,hts⟩|⟨p,os,hp,hts⟩
  · rw [hts]
    exact h
  · have hon := hs.activePeer_server hget hp
    rw [hid] at hon
    rw [hts]
    apply h.retire (Database.activePeer_mem hp).1
    rw [← Option.some.inj hon]
    exact hserver

theorem reissue_homed {cfg : Settings} {device : Device} {r : ProvisionedDevice}
    (h : Homed s.db s.vpn) (hs : Sound s.toWorld)
    (hget : s.db.devices.get? device.id=some device) (hrun : reissue cfg device s=(.ok r,t)) :
    Homed t.db t.vpn := by
  obtain ⟨_,server,u,v,result,p,hid,hserver,hretire,hcreate,hcore⟩ := reissue_attempts hrun
  have hu := retireActive_homed h hs.consistent hget hid hserver hretire
  have hrec := ((withActivePeer_within device.id fun q =>
    retirePeer_recoloring server q) s).rel_of_run hretire
  have hdim := ((withActivePeer_within device.id fun q => retirePeer_dimming
    (N := fun _ => False) (n := s.serial) server q) s).rel_of_run hretire le_rfl
  have hnew : ∀ url k,u.serial≤k → (u.vpn url).get? k=none := by
    intro url k hk
    cases hv : (u.vpn url).get? k with
    | none => rfl
    | some x =>
      obtain ⟨x₀,h₀,_⟩ := hdim.1.vpn url k x id hv
      rw [(hs.fresh url k (hdim.2.trans hk)).1] at h₀
      cases h₀
  have hsame : u.db.vpnServers=s.db.vpnServers := by
    rcases retireActive_ok hretire with ⟨_,hus⟩|⟨_,_,_,hus⟩
    · rw [hus]
    · rw [hus]
  have hv := hu.create ((hrec.1.consistent hs.consistent).later hrec.2) hnew
    (by rw [hsame]; exact hserver) hcreate
  exact Homed.of_hardware (s := {v with db := {v.db with
    devices := v.db.devices.modify device.id (withPeer p) fun _ => rfl}}) hv
    (hardware_of_core hcore)

theorem provision_homed {cfg : Settings} {user : User} {name : String} {requested : Option Id}
    {protocol : VpnProtocol} {r : ProvisionedDevice} (h : Homed s.db s.vpn)
    (hs : Sound s.toWorld) (hrun : provision cfg user name requested protocol s=(.ok r,t)) :
    Homed t.db t.vpn := by
  cases protocol with
  | wireguard =>
    obtain ⟨_,_,server,u,v,result,p,hserver,hdev,hcreate,hlast⟩ :=
      provisionWireguard_attempts hrun
    have hins := hs.consistent.insertDevice
      (d := freshDevice s.serial user.id name none .wireguard) rfl (fun k hk => by cases hk)
    have hcons : Consistent u.serial u.db :=
      (Consistent.of_hardware (s := withDevice _ s) hins hdev.1).later hdev.2
    have hview := hdev.1
    simp only [hardwareView,withDevice,Prod.mk.injEq] at hview
    obtain ⟨hservers,_,_,hpeers,_,hvpn,_⟩ := hview
    have hle : s.serial≤u.serial := (Int.lt_succ _).le.trans hdev.2
    have hu : Homed u.db u.vpn := by
      rw [hvpn]
      refine h.of_tables fun q hq => ?_
      rw [hpeers] at hq
      exact ⟨hq,fun x hx => ⟨x,by rw [hservers]; exact hx,rfl⟩⟩
    have hnew : ∀ url k,u.serial≤k → (u.vpn url).get? k=none := by
      intro url k hk
      rw [hvpn]
      exact (hs.fresh url k (hle.trans hk)).1
    have hv := hu.create hcons hnew (by rw [hservers]; exact hserver) hcreate
    have hloaded := hv.modifyServer (k := server.id)
      (f := fun x => {x with currentLoad := x.currentLoad+1}) (fun _ => rfl) fun _ => rfl
    refine Homed.of_hardware ?_ hlast
    exact hloaded
  | vless =>
    obtain ⟨_,a,ha,hrun⟩ := Eff.bind_ok.mp hrun
    obtain ⟨hsa,_⟩ := enforceDeviceLimit_ok ha
    subst hsa
    obtain ⟨_,server,config,u,id,_,_,hdev,_,_,hlast⟩ := provisionVless_ok hrun
    have hview := hdev.1
    simp only [hardwareView,withDevice,setXray,Prod.mk.injEq] at hview hlast
    obtain ⟨hservers,_,_,hpeers,_,hvpn,_⟩ := hview
    obtain ⟨hservers',_,_,hpeers',_,hvpn',_⟩ := hlast
    have hloaded := h.modifyServer (k := server.id)
      (f := fun x => {x with currentLoad := x.currentLoad+1}) (fun _ => rfl) fun _ => rfl
    rw [hvpn',hvpn]
    refine hloaded.of_tables fun q hq => ?_
    rw [hpeers',hpeers] at hq
    exact ⟨hq,fun x hx => ⟨x,by rw [hservers',hservers]; exact hx,rfl⟩⟩

/-- What a revocation of a WireGuard device does: retire the active peer and lower the load. -/
theorem revokePeer_homed {n : Int} {device : Device} (h : Homed s.db s.vpn)
    (hs : Consistent n s.db) (hget : s.db.devices.get? device.id=some device)
    (hrun : revokePeer device s=(.ok (),t)) : Homed t.db t.vpn := by
  unfold revokePeer at hrun
  cases hid : device.serverId with
  | none =>
    simp only [hid] at hrun
    cases hrun
    exact h
  | some k =>
    simp only [hid] at hrun
    obtain ⟨server,u,hu,hrun⟩ := Eff.bind_ok.mp hrun
    obtain ⟨hsu,hserver⟩ := getServer_ok hu
    subst hsu
    have hk : server.id=k := Store.key_of_get? hserver
    rw [← hk] at hid hserver
    have hrun' : withActivePeer device.id (fun p => retirePeer server p >>= fun _ =>
        dropLoad server.id) s=(.ok (),t) := hrun
    unfold withActivePeer at hrun'
    rw [getDb_bind_run] at hrun'
    cases hp : s.db.activePeer device.id with
    | none =>
      simp only [hp] at hrun'
      cases hrun'
      exact h
    | some p =>
      simp only [hp] at hrun'
      obtain ⟨_,v,hv,hdrop⟩ := Eff.bind_ok.mp hrun'
      have hretire : withActivePeer device.id (retirePeer server) s=(.ok (),v) := by
        unfold withActivePeer
        rw [getDb_bind_run,hp]
        exact hv
      have hhomed := retireActive_homed h hs hget hid hserver hretire
      cases hdrop
      exact hhomed.modifyServer (k := server.id)
        (f := fun x => {x with currentLoad := max 0 (x.currentLoad-1)}) (fun _ => rfl) fun _ => rfl

theorem revokeCredentials_homing (deviceId : Id) :
    Within (Frame.preserving fun s => Homed s.db s.vpn) (revokeCredentials deviceId) := by
  have hbooks : Bookkeeping (Frame.preserving fun s : Session => Homed s.db s.vpn) :=
    ⟨fun _ => id,fun _ _ => id⟩
  refine getDb_within.bind fun _ => Within.each fun c _ => Within.bind ?_ fun _ =>
    getNow_within.bind fun _ => Within.bind (alter_within fun _ => id) fun _ =>
    (getServer_within _).bind fun _ => alter_within fun _ h => ?_
  · refine (configForCredential_within c).bind fun config => ?_
    cases config with
    | none => exact Within.pure _
    | some config => exact xrayRequest_within hbooks fun _ => id
  · exact h.modifyServer _ fun _ => rfl

theorem revoke_homed {device : Device} (h : Homed s.db s.vpn) (hs : Sound s.toWorld)
    (hget : s.db.devices.get? device.id=some device) (hrun : revoke device s=(.ok (),t)) :
    Homed t.db t.vpn := by
  obtain ⟨_,u,hu,hlast⟩ := Eff.bind_ok.mp hrun
  have htransport : Homed u.db u.vpn := by
    unfold revokeTransport at hu
    cases hproto : device.protocol with
    | wireguard =>
      simp only [hproto] at hu
      exact revokePeer_homed h hs.consistent hget hu
    | vless =>
      simp only [hproto] at hu
      exact (revokeCredentials_homing device.id s).rel_of_run hu h
  cases hlast
  exact htransport

theorem Homed.dropServer {db : Database} {vpn : String → IpPeerStore} (h : Homed db vpn)
    (k : Id) : Homed (Backend.dropServer k db) vpn := by
  refine h.of_tables fun p hp => ?_
  simp only [Backend.dropServer,Store.rows_deleteWhere,List.mem_filter] at hp
  have hne : p.serverId≠k := by simpa using hp.2
  refine ⟨hp.1,fun server hserver => ⟨server,?_,rfl⟩⟩
  show (db.vpnServers.delete k).get? p.serverId=some server
  rw [Store.get?_delete,if_neg hne]
  exact hserver

theorem handleServers_homing (r : ServerRequest) :
    Within (Frame.preserving fun s => Homed s.db s.vpn) (handleServers r) := by
  have hbooks : Bookkeeping (Frame.preserving fun s : Session => Homed s.db s.vpn) :=
    ⟨fun _ => id,fun _ _ => id⟩
  apply handleServers_within hbooks
  · intro f _ hf _
    refine alter_within fun s h => ?_
    refine h.of_tables fun p hp => ⟨hp,fun server hget => ?_⟩
    obtain ⟨x,hx,hbase,_⟩ := hf _ _ server hget
    exact ⟨x,hx,hbase⟩
  · exact fun ha h => h.of_hardware (hardware_of_core (core_of_audit ha))
  · exact fun k => alter_within fun _ h => h.dropServer k

/-- No request gives an agent a record of a peer that was there before. -/
theorem handle_sparse (cfg : Settings) (r : Request) {x : Except AppError Response}
    (hrun : handle cfg r s=(x,t)) : GainsNone s.serial s t := by
  have hhard : Within hardwareFrame (handle cfg r) → GainsNone s.serial s t := by
    intro hw
    have hview := ((hw s).rel_of_run hrun).1
    simp only [hardwareView,Prod.mk.injEq] at hview
    exact sparse_of_vpn hview.2.2.2.2.2.1
  have hdim : ∀ {m : Req Response},Within (dimming (fun k => s.serial≤k) s.serial) m →
      m s=(x,t) → GainsNone s.serial s t :=
    fun hm hrun => sparse_of_dimmed ((hm s).rel_of_run hrun) le_rfl
  cases r with
  | billing r => exact hhard ((handleBilling_fleet cfg r).mono hardware_of_fleet)
  | routing r => exact hhard ((handleRouting_core _ r).mono hardware_of_core)
  | servers r => exact sparse_of_vpn ((handleServers_administering r s).rel_of_run hrun).vpn
  | listDevices telegramId =>
    apply hhard
    exact (currentUser_within telegramId).bind fun _ => getDb_within.bind fun _ => Within.pure _
  | createDevice telegramId name serverId protocol =>
    refine hdim ?_ hrun
    exact (currentUser_within telegramId).bind fun user => (provision_dimming cfg user name serverId
      protocol fun _ => id).bind fun _ => Within.pure _
  | device telegramId deviceId r =>
    rcases handleOwned_run cfg telegramId deviceId r s with ⟨e,he⟩|⟨user,device,_,_,_,he⟩
    · rw [handle,he] at hrun
      cases hrun
      exact fun _ _ _ h => h
    · rw [handle,he] at hrun
      by_cases hr : r=.enable
      · subst hr
        have henable : Within (sparse s.serial) (handleDevice cfg device .enable) :=
          (enable_sparse s.serial device).bind fun _ => (refreshed_within device).bind fun _ =>
            Within.pure _
        exact (henable s).rel_of_run hrun
      · exact hdim (handleDevice_dimming cfg device r (fun _ => id) hr) hrun
  | fetchSubscription token =>
    exact hhard ((deliver_hardware token).bind fun _ => Within.pure _)
  | sweep asOf => exact hdim ((runOnce_dimming asOf).bind fun _ => Within.pure _) hrun

/-- What an answered request leaves has its peers at home. -/
theorem handle_homed {cfg : Settings} {r : Request} {a : Response} (h : Homed s.db s.vpn)
    (hs : Sound s.toWorld) (hrun : handle cfg r s=(.ok a,t)) : Homed t.db t.vpn := by
  have hhard : Within hardwareFrame (handle cfg r) → Homed t.db t.vpn := fun hw =>
    h.of_hardware ((hw s).rel_of_run hrun)
  have hless := handle_sparse cfg r hrun
  cases r with
  | billing r => exact hhard ((handleBilling_fleet cfg r).mono hardware_of_fleet)
  | routing r => exact hhard ((handleRouting_core _ r).mono hardware_of_core)
  | servers r => exact (handleServers_homing r s).rel_of_run hrun h
  | listDevices telegramId =>
    apply hhard
    exact (currentUser_within telegramId).bind fun _ => getDb_within.bind fun _ => Within.pure _
  | createDevice telegramId name serverId protocol =>
    rcases handleCreateDevice_run cfg telegramId name serverId protocol s with
      ⟨e,he⟩|⟨user,_,he⟩
    · rw [handle,he] at hrun
      cases hrun
    · rw [handle,he] at hrun
      obtain ⟨result,u,hu,hrun⟩ := Eff.bind_ok.mp hrun
      cases hrun
      exact provision_homed h hs hu
  | device telegramId deviceId r =>
    rcases handleOwned_run cfg telegramId deviceId r s with ⟨e,he⟩|⟨user,device,_,hget,_,he⟩
    · rw [handle,he] at hrun
      cases hrun
    · rw [handle,he] at hrun
      have hid : device.id=deviceId := Store.key_of_get? hget
      rw [← hid] at hget
      by_cases hreissue : r=.reissue
      · subst hreissue
        obtain ⟨result,u,hu,hrun⟩ := Eff.bind_ok.mp hrun
        cases hrun
        exact reissue_homed h hs hget hu
      · by_cases hrevoke : r=.revoke
        · subst hrevoke
          obtain ⟨_,u,hu,hrun⟩ := Eff.bind_ok.mp hrun
          cases hrun
          exact revoke_homed h hs hget hu
        · have hnodes := (handleDevice_nodes cfg device r hreissue hrevoke s).rel_of_run hrun
          exact h.of_nodes hs.consistent hless hnodes
  | fetchSubscription token =>
    exact hhard ((deliver_hardware token).bind fun _ => Within.pure _)
  | sweep asOf =>
    have hw : Within nodesFrame (handle cfg (.sweep asOf)) :=
      (runOnce_nodes asOf).bind fun _ => Within.pure _
    exact h.of_nodes hs.consistent hless ((hw s).rel_of_run hrun)

end

def marking : Frame Session := Frame.preserving fun s => Marked s.db

theorem marking_books : Bookkeeping marking := ⟨fun _ => id,fun _ _ => id⟩

theorem Marked.of_rows {a b : Database} (h : Marked a)
    (hp : ∀ p∈b.vpnPeers.rows,p∈a.vpnPeers.rows)
    (hc : ∀ c∈b.vlessCredentials.rows,c∈a.vlessCredentials.rows) : Marked b :=
  ⟨fun p hmem => h.peers p (hp p hmem),fun c hmem => h.credentials c (hc c hmem)⟩

theorem marking_of_hardware {s t : Session} (h : hardwareFrame.rel s t) : marking.rel s t := by
  have hview := h.1
  simp only [hardwareView,Prod.mk.injEq] at hview
  obtain ⟨_,_,_,hp,hc,_,_⟩ := hview
  exact fun hs => hs.of_rows (fun _ hmem => hp ▸ hmem) fun _ hmem => hc ▸ hmem

theorem alter_marking {f : Database → Database}
    (hp : ∀ db,(f db).vpnPeers=db.vpnPeers) (hc : ∀ db,(f db).vlessCredentials=db.vlessCredentials) :
    Within marking (alter f) := alter_within fun s h =>
  h.of_rows (fun _ hmem => hp s.db ▸ hmem) fun _ hmem => hc s.db ▸ hmem

theorem setCredentialStatus_marking (k : Id) {f : VlessCredential → VlessCredential}
    (hf : ∀ c,(f c).id=c.id) (h : ∀ c,(f c).status=.revoked → (f c).revokedAt.isSome) :
    Within marking (setCredentialStatus k f hf) := by
  unfold setCredentialStatus
  refine alter_within fun s hs => ⟨hs.peers,fun c hc hrevoked => ?_⟩
  rcases (Store.mem_modify hf).mp hc with ⟨x,_,_,he⟩|⟨hc,_⟩
  · rw [he] at hrevoked ⊢
    exact h x hrevoked
  · exact hs.credentials c hc hrevoked

theorem retirePeer_marking (server : VpnServer) (p : VpnPeer) :
    Within marking (retirePeer server p) := by
  refine Within.bind (vpnRequest_within marking_books fun _ _ _ => id) fun _ => ?_
  refine alter_within fun s hs => ⟨fun q hq => ?_,hs.credentials⟩
  have hkey : ∀ q : VpnPeer,({q with status := .revoked} : VpnPeer).id=q.id := fun _ => rfl
  rcases (Store.mem_modify hkey).mp hq with ⟨x,_,_,he⟩|⟨hq,_⟩
  · rw [he]
    intro hoff
    cases hoff
  · exact hs.peers q hq

theorem removeCredentialFromXray_marking (c : VlessCredential) :
    Within marking (removeCredentialFromXray c) := by
  refine (configForCredential_within c).bind fun config => ?_
  cases config with
  | none => exact Within.pure _
  | some config => exact xrayRequest_within marking_books fun _ => id

theorem setDeviceStatus_marking (deviceId : Id) (status : DeviceStatus) :
    Within marking (setDeviceStatus deviceId status) := alter_marking (fun _ => rfl) fun _ => rfl

theorem disable_marking (device : Device) : Within marking (disable device) := by
  refine Within.bind ?_ fun _ => setDeviceStatus_marking _ _
  unfold disableTransport
  cases device.protocol with
  | vless =>
    refine getDb_within.bind fun _ => Within.each fun c _ =>
      (removeCredentialFromXray_marking c).bind fun _ => ?_
    exact setCredentialStatus_marking _ _ fun _ h => by cases h
  | wireguard =>
    exact (serverOfDevice_within device).bind fun server => withActivePeer_within _ fun p =>
      vpnRequest_within marking_books fun _ _ _ => id

theorem enable_marking (device : Device) : Within marking (enable device) := by
  refine Within.bind ?_ fun _ => setDeviceStatus_marking _ _
  unfold enableTransport
  cases device.protocol with
  | vless =>
    refine getDb_within.bind fun _ => Within.each fun c _ => Within.ite ?_ (Within.pure _)
    refine (configForCredential_within c).bind fun config => ?_
    cases config with
    | none => exact Within.pure _
    | some config =>
      refine getNow_within.bind fun _ =>
        Within.bind (xrayRequest_within marking_books fun _ => id) fun _ => ?_
      exact setCredentialStatus_marking _ _ fun _ h => by cases h
  | wireguard =>
    exact (serverOfDevice_within device).bind fun server => withActivePeer_within _ fun p =>
      vpnRequest_within marking_books fun _ _ _ => id

theorem revoke_marking (device : Device) : Within marking (revoke device) := by
  refine Within.bind ?_ fun _ => setDeviceStatus_marking _ _
  have hload : ∀ k,Within marking (dropLoad k) := fun _ => alter_marking (fun _ => rfl) fun _ => rfl
  unfold revokeTransport
  cases device.protocol with
  | vless =>
    refine getDb_within.bind fun _ => Within.each fun c _ =>
      (removeCredentialFromXray_marking c).bind fun _ => getNow_within.bind fun _ =>
      Within.bind ?_ fun _ => (getServer_within _).bind fun _ => hload _
    exact setCredentialStatus_marking _ _ fun _ _ => rfl
  | wireguard =>
    unfold revokePeer
    cases device.serverId with
    | none => exact Within.pure _
    | some k =>
      exact (getServer_within k).bind fun server => withActivePeer_within _ fun p =>
        (retirePeer_marking server p).bind fun _ => hload _

theorem createPeerAttempts_marking (cfg : Settings) (deviceId : Id) (server : VpnServer)
    (n : Nat) : Within marking (createPeerAttempts cfg deviceId server n) := by
  have hrequest : ∀ op,Within marking (vpnRequest server op) := fun _ =>
    vpnRequest_within marking_books fun _ _ _ => id
  induction n with
  | zero => exact Within.raise _
  | succ n ih =>
    refine (allocateIp_within server).bind fun ip => Within.bind (getNow_within.bind fun _ =>
      (nextSerial_within marking_books).bind fun _ => (hrequest _).bind fun _ => Within.pure _)
      fun result => (nextSerial_within marking_books).bind fun id =>
      (flush_within marking_books).bind fun _ => (flush_within marking_books).bind fun _ =>
      getDb_within.bind fun _ => Within.ite ?_ ?_
    · exact (hrequest _).bind fun _ => ih
    · refine Within.bind (alter_within fun s hs => ⟨fun q hq => ?_,hs.credentials⟩) fun _ =>
        Within.pure _
      rcases Store.mem_of_insert hq with hq|hq
      · exact hs.peers q hq
      · rw [hq]
        intro hoff
        cases hoff

theorem regenerateProfile_marking (cfg : Settings) (deviceId userId : Id) :
    Within marking (regenerateProfile cfg deviceId userId) :=
  (regenerateProfile_core cfg _ _).mono fun h => marking_of_hardware (hardware_of_core h)

theorem reissue_marking (cfg : Settings) (device : Device) :
    Within marking (reissue cfg device) :=
  (Within.require _ _).bind fun _ => (serverOfDevice_within device).bind fun server =>
    (withActivePeer_within _ fun p => retirePeer_marking server p).bind fun _ =>
    (createPeerAttempts_marking cfg device.id server 5).bind fun _ =>
    Within.bind (alter_marking (fun _ => rfl) fun _ => rfl) fun _ =>
    (regenerateProfile_marking cfg _ _).bind fun _ => (generateQrCode_within _).bind fun _ =>
    (refreshed_within _).bind fun _ => Within.pure _

theorem addDevice_marking (userId : Id) (name : String) (serverId : Option Id)
    (protocol : VpnProtocol) : Within marking (addDevice userId name serverId protocol) :=
  (nextSerial_within marking_books).bind fun _ => (flush_within marking_books).bind fun _ =>
    (Within.require _ _).bind fun _ =>
    Within.bind (alter_marking (fun _ => rfl) fun _ => rfl) fun _ => Within.pure _

theorem createOrRotate_marking (deviceId : Id) : Within marking (createOrRotate deviceId) :=
  (createOrRotate_hardware deviceId).mono marking_of_hardware

theorem provision_marking (cfg : Settings) (user : User) (name : String) (requested : Option Id)
    (protocol : VpnProtocol) : Within marking (provision cfg user name requested protocol) := by
  refine (enforceDeviceLimit_within user.id).bind fun _ => ?_
  cases protocol with
  | wireguard =>
    exact (chooseServer_within requested .wireguard).bind fun server =>
      (addDevice_marking _ _ _ _).bind fun device => (createOrRotate_marking device.id).bind
      fun _ => (createPeerAttempts_marking cfg device.id server 5).bind fun _ =>
      Within.bind (alter_marking (fun _ => rfl) fun _ => rfl) fun _ =>
      Within.bind (alter_marking (fun _ => rfl) fun _ => rfl) fun _ =>
      (regenerateProfile_marking cfg _ _).bind fun _ => (generateQrCode_within _).bind fun _ =>
      (generateQrCode_within _).bind fun _ => (refreshed_within device).bind fun _ =>
      Within.pure _
  | vless =>
    refine (chooseServer_within requested .vless).bind fun server => getDb_within.bind fun _ =>
      (Within.orRaise _ _).bind fun config => (addDevice_marking _ _ _ _).bind fun device =>
      (createOrRotate_marking device.id).bind fun _ => (nextSerial_within marking_books).bind
      fun uuid => getNow_within.bind fun _ =>
      Within.bind (xrayRequest_within marking_books fun _ => id) fun _ =>
      (nextSerial_within marking_books).bind fun id => (flush_within marking_books).bind fun _ =>
      getDb_within.bind fun _ => (Within.require _ _).bind fun _ => Within.bind ?_ fun _ =>
      Within.bind (alter_marking (fun _ => rfl) fun _ => rfl) fun _ =>
      (generateQrCode_within _).bind fun _ => Within.pure _
    refine alter_within fun s hs => ⟨hs.peers,fun c hc hrevoked => ?_⟩
    rcases Store.mem_of_insert hc with hc|hc
    · exact hs.credentials c hc hrevoked
    · rw [hc] at hrevoked
      cases hrevoked

theorem handleDevice_marking (cfg : Settings) (device : Device) (r : DeviceRequest) :
    Within marking (handleDevice cfg device r) := by
  have hanswer : Within marking (answerDevice device) :=
    (refreshed_within device).bind fun _ => Within.pure _
  cases r with
  | reissue => exact (reissue_marking cfg device).bind fun _ => Within.pure _
  | disable => exact (disable_marking device).bind fun _ => hanswer
  | enable => exact (enable_marking device).bind fun _ => hanswer
  | revoke => exact (revoke_marking device).bind fun _ => hanswer
  | createOrRotateLink =>
    exact (createOrRotate_marking device.id).bind fun _ => (generateQrCode_within _).bind
      fun _ => Within.pure _
  | getLink => exact (getLink_within device.id).bind fun _ => Within.pure _
  | revokeLink =>
    exact (getLink_within device.id).bind fun _ => Within.bind (getNow_within.bind fun _ =>
      alter_marking (fun _ => rfl) fun _ => rfl) fun _ => answerLink_within _
  | getProfile =>
    exact Within.bind (getDb_within.bind fun _ => (currentProfile_within _).bind fun _ =>
      Within.orRaise _ _) fun _ => Within.pure _
  | refreshProfile => exact (regenerateProfile_marking cfg _ _).bind fun _ => Within.pure _

theorem handle_marking (cfg : Settings) (r : Request) : Within marking (handle cfg r) := by
  cases r with
  | billing r =>
    exact (handleBilling_fleet cfg r).mono fun h => marking_of_hardware (hardware_of_fleet h)
  | routing r =>
    exact (handleRouting_core _ r).mono fun h => marking_of_hardware (hardware_of_core h)
  | servers r =>
    intro s h
    have hadm := handleServers_administering r s
    exact h.of_rows hadm.peers hadm.credentials
  | listDevices telegramId =>
    exact (currentUser_within telegramId).bind fun _ => getDb_within.bind fun _ => Within.pure _
  | createDevice telegramId name serverId protocol =>
    exact (currentUser_within telegramId).bind fun user =>
      (provision_marking cfg user name serverId protocol).bind fun _ => Within.pure _
  | device telegramId deviceId r =>
    exact (currentUser_within telegramId).bind fun user => Within.bind
      (getDb_within.bind fun _ => Within.orRaise _ _) fun device => handleDevice_marking cfg device r
  | fetchSubscription token =>
    exact ((deliver_hardware token).mono marking_of_hardware).bind fun _ => Within.pure _
  | sweep asOf =>
    exact (runOnce_within (fun h => marking_of_hardware (hardware_of_core (core_of_audit h)))
      (fun _ => alter_marking (fun _ => rfl) fun _ => rfl) disable_marking asOf).bind fun _ =>
      Within.pure _

/-- What revocation relies on in every reachable state. -/
structure Settled (w : World) : Prop where
  sound : Sound w
  homed : Homed w.db w.vpn
  marked : Marked w.db

theorem after_settled {cfg : Settings} {w : World} {c : Call} (h : Settled w) :
    Settled (after cfg w c) := by
  have hsound : Sound (after cfg w c) := after_sound h.sound
  unfold after at hsound ⊢
  rcases serve_cases cfg c.env c.request w with ⟨a,s,hm,ht⟩|⟨x,e,s,hm,ht⟩
  · rw [ht] at hsound ⊢
    exact ⟨hsound,handle_homed (s := ⟨w,c.env⟩) h.homed h.sound hm,
      (handle_marking cfg c.request ⟨w,c.env⟩).rel_of_run hm h.marked⟩
  · rw [ht] at hsound ⊢
    exact ⟨hsound,h.homed.of_fewer (fun p hp => (h.sound.consistent.peerNumbers p hp).2)
      (handle_sparse (s := ⟨w,c.env⟩) cfg c.request hm),h.marked⟩

theorem reachable_settled {cfg : Settings} {w : World} (h : Reachable cfg w) : Settled w := by
  refine h.invariant Settled ⟨sound_initial,?_,?_,?_⟩ fun _ _ => after_settled
  · intro p hp
    exact absurd hp (by simp [World.initial,Database.empty])
  · intro p hp
    exact absurd hp (by simp [World.initial,Database.empty])
  · intro c hc
    exact absurd hc (by simp [World.initial,Database.empty])

end VpnService.Backend
