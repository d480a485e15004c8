import VpnService.Backend.Revocation

namespace VpnService.Backend

open Agent

/-- What the agent keeps under the key of the device's active peer. -/
def peerRecord (w : World) (device : Device) : Option (PeerRecord IpAddress) :=
  (w.db.serverOf device).bind fun server => (w.db.activePeer device.id).bind fun peer =>
    (w.vpn server.agentBaseUrl).get? peer.publicKey

/-- What the agent keeps under the uuid of a credential. -/
def userRecord (w : World) (c : VlessCredential) : Option UserRecord :=
  (w.db.vlessConfig c.serverId).bind fun config => (w.xray config.xrayAgentBaseUrl).get? c.uuid

/-- Whether an active credential of the device has a record to remove. -/
def removesUser (w : World) (device : Device) : Bool :=
  (w.db.activeCredentials device.id).any fun c => (userRecord w c).isSome

/-- Whether restoring a credential changes what the agent keeps. -/
def restoresUser (w : World) (now : Time) (d : Id) (c : VlessCredential) : Bool :=
  (w.db.vlessConfig c.serverId).any fun config =>
    (w.xray config.xrayAgentBaseUrl).get? c.uuid≠
      some (UserStore.created (w.xray config.xrayAgentBaseUrl) c.uuid d config.flow now)

/-- Whether an operation on a device has a call to make that changes what an agent keeps. -/
def reaches (w : World) (now : Time) (device : Device) : DeviceRequest → Bool
  | .disable => match device.protocol with
    | .wireguard => (peerRecord w device).any PeerRecord.enabled
    | .vless => removesUser w device
  | .enable => match device.protocol with
    | .wireguard => (peerRecord w device).any fun r => !r.enabled
    | .vless => (w.db.credentialsOf device.id).any fun c =>
      c.status=.disabled && restoresUser w now device.id c
  | .revoke => match device.protocol with
    | .wireguard => (peerRecord w device).isSome
    | .vless => removesUser w device
  | .reissue => device.protocol=.wireguard && (w.db.serverOf device).any fun server =>
    (peerRecord w device).isSome || canAllocate w.db server
  | _ => false

/-- The server a new device gets. -/
def chosenServer (db : Database) (requested : Option Id) (protocol : VpnProtocol) :
    Option VpnServer :=
  match requested.filter fun k => k≠0 with
  | some k => db.vpnServers.get? k
  | none => bestAvailable db protocol

/-- Whether provisioning gets as far as its call to the agent. -/
def provisions (db : Database) (user : User) (name : String) (requested : Option Id)
    (protocol : VpnProtocol) : Bool :=
  (limitVerdict db user.id).isOk && name.length≤64 &&
    (chosenServer db requested protocol).any fun server => match protocol with
      | .wireguard => canAllocate db server
      | .vless => (db.vlessConfig server.id).isSome

/-- The device a request is about, its row owned by the user who makes the request. -/
def Database.owned (db : Database) (telegramId : Int) (deviceId : Id) : Option Device :=
  ((db.userByTelegramId telegramId).filter fun user => user.status=.active).bind fun user =>
    (db.devices.get? deviceId).filter fun d => d.userId=user.id

def Request.reaches (w : World) (now : Time) : Request → Bool
  | .createDevice telegramId name requested protocol =>
    ((w.db.userByTelegramId telegramId).filter fun user => user.status=.active).any fun user =>
      provisions w.db user name requested protocol
  | .device telegramId deviceId r =>
    (w.db.owned telegramId deviceId).any fun device => Backend.reaches w now device r
  | _ => false

/-- The frame of what leaves the agents alone. -/
def aloof : Frame Session := Frame.keeping fun s => (s.vpn,s.xray)

theorem aloof_books : Bookkeeping aloof := ⟨fun _ => rfl,fun _ _ => rfl⟩

theorem alter_aloof (f : Database → Database) : Within aloof (alter f) := fun _ => rfl

section

variable {s : Session}

/-- A call that fails at the agent or leaves its store as it is. -/
theorem vpnRequest_aloof {server : VpnServer} {op : IpPeerStore → Option IpPeerStore}
    (h : ∀ store,op (s.vpn server.agentBaseUrl)=some store →
      store=s.vpn server.agentBaseUrl) : WithinAt aloof (vpnRequest server op) s := by
  apply vpnRequest_withinAt aloof_books
  intro os store hstore
  rw [h store hstore]
  have hsame := setVpn_same server.agentBaseUrl {s with outcomes := os}
  rw [hsame]
  exact aloof.refl _

theorem xrayRequest_aloof {baseUrl : String} {op : UserStore → UserStore}
    (h : op (s.xray baseUrl)=s.xray baseUrl) : WithinAt aloof (xrayRequest baseUrl op) s := by
  refine xrayRequest_withinAt aloof_books (fun t => t.xray=s.xray) ?_ (fun t ht => ?_) rfl
  · intro t u ht htu
    have hxray : u.xray=t.xray := congrArg Prod.snd htu
    rw [hxray,ht]
  · rw [ht,h,← ht,setXray_same]
    exact aloof.refl _

theorem mem_singleton_of_lone {n : Int} {db : Database} (h : Consistent n db)
    {c : VlessCredential} (hc : c∈db.vlessCredentials.rows) :
    db.credentialsOf c.deviceId=[c] := by
  apply db.vlessCredentials.filter_eq_singleton hc
  · exact decide_eq_true rfl
  · intro x hx hq
    exact h.lone x hx c hc (of_decide_eq_true hq)

/-- The active credentials of a device: its one credential or none. -/
theorem activeCredentials_lone {n : Int} {db : Database} (h : Consistent n db)
    {c : VlessCredential} {d : Id} (hc : c∈db.activeCredentials d) :
    db.activeCredentials d=[c] := by
  obtain ⟨hmem,hd,hact⟩ := db.mem_activeCredentials.mp hc
  apply db.vlessCredentials.filter_eq_singleton hmem
  · exact decide_eq_true ⟨hd,hact⟩
  · intro x hx hq
    exact h.lone x hx c hmem ((of_decide_eq_true hq).1.trans hd.symm)

theorem configForCredential_ok {c : VlessCredential} {t : Session}
    {config : Option VlessServerConfig} (h : configForCredential c s=(.ok config,t)) :
    s=t ∧ s.db.vlessConfig c.serverId=config := by
  obtain ⟨server,u,hu,h⟩ := Eff.bind_ok.mp h
  obtain ⟨hsu,hget⟩ := getServer_ok hu
  have hid : server.id=c.serverId := Store.key_of_get? hget
  subst hsu
  rw [getDb_bind_run,hid] at h
  simp only [Eff.pure_run,Prod.mk.injEq,Except.ok.injEq] at h
  exact ⟨h.2,h.1⟩

theorem removeCredentialFromXray_aloof {c : VlessCredential}
    (h : userRecord s.toWorld c=none) : WithinAt aloof (removeCredentialFromXray c) s := by
  refine WithinAt.still_bind (configForCredential_within c s) fun config hconfig => ?_
  cases config with
  | none => exact aloof.refl s
  | some config =>
    apply xrayRequest_aloof
    apply UserStore.deleteUser_absent
    unfold userRecord at h
    rw [(configForCredential_ok hconfig).2] at h
    exact h

/-- Active credentials without a record are removed without a trace at the agent. -/
theorem removals_aloof {n : Int} {device : Device} {f : VlessCredential → Req Unit}
    (hs : Consistent n s.db) (h : removesUser s.toWorld device=false)
    (hf : ∀ c,userRecord s.toWorld c=none → WithinAt aloof (f c) s) :
    WithinAt aloof (Eff.each f (s.db.activeCredentials device.id)) s := by
  cases hlist : s.db.activeCredentials device.id with
  | nil => exact aloof.refl s
  | cons c cs =>
    have hc : c∈s.db.activeCredentials device.id := by simp [hlist]
    have hlone := activeCredentials_lone hs hc
    rw [← hlist,hlone]
    have hnone : userRecord s.toWorld c=none := by
      have hno := List.any_eq_false.mp h c hc
      simpa using hno
    exact (hf c hnone).bind fun _ t _ => aloof.refl t

theorem disable_aloof {n : Int} {device : Device} (hs : Consistent n s.db)
    (h : reaches s.toWorld s.now device .disable=false) : WithinAt aloof (disable device) s := by
  refine WithinAt.bind ?_ fun _ t _ => alter_aloof _ t
  unfold disableTransport
  unfold reaches at h
  cases hproto : device.protocol with
  | vless =>
    simp only [hproto] at h
    refine WithinAt.reads_bind (removals_aloof hs h fun c hc => ?_)
    exact (removeCredentialFromXray_aloof hc).bind fun _ t _ => alter_aloof _ t
  | wireguard =>
    simp only [hproto] at h
    refine WithinAt.still_bind (serverOfDevice_within device s) fun server hserver => ?_
    obtain ⟨_,hserver,hget⟩ := serverOfDevice_ok hserver
    refine withActivePeer_withinAt fun p hp => vpnRequest_aloof fun store hstore => ?_
    obtain ⟨r,hr,he⟩ := Option.map_eq_some_iff.mp hstore
    rw [← he]
    apply PeerStore.setEnabled_same
    intro x hx
    simpa [peerRecord,Database.serverOf,hserver,hget,hp,hx] using h

theorem revoke_aloof {n : Int} {device : Device} (hs : Consistent n s.db)
    (h : reaches s.toWorld s.now device .revoke=false) : WithinAt aloof (revoke device) s := by
  refine WithinAt.bind ?_ fun _ t _ => alter_aloof _ t
  unfold revokeTransport
  unfold reaches at h
  cases hproto : device.protocol with
  | vless =>
    simp only [hproto] at h
    refine WithinAt.reads_bind (removals_aloof hs h fun c hc => ?_)
    refine (removeCredentialFromXray_aloof hc).bind fun _ t _ => ?_
    exact (getNow_within.bind fun _ => (alter_aloof _).bind fun _ =>
      (getServer_within c.serverId).bind fun _ => alter_aloof _ : Within aloof _) t
  | wireguard =>
    simp only [hproto] at h
    unfold revokePeer
    cases hserver : device.serverId with
    | none => exact aloof.refl s
    | some k =>
      refine WithinAt.still_bind (getServer_within k s) fun server hget => ?_
      obtain ⟨_,hget⟩ := getServer_ok hget
      refine withActivePeer_withinAt fun p hp => ?_
      refine WithinAt.bind (WithinAt.bind (vpnRequest_aloof fun store hstore => ?_) fun _ t _ =>
        alter_aloof _ t) fun _ t _ => alter_aloof _ t
      cases hstore
      apply Store.delete_absent
      simpa [peerRecord,Database.serverOf,hserver,hget,hp] using h

theorem enable_aloof {n : Int} {device : Device} (hs : Consistent n s.db)
    (h : reaches s.toWorld s.now device .enable=false) : WithinAt aloof (enable device) s := by
  refine WithinAt.bind ?_ fun _ t _ => alter_aloof _ t
  unfold enableTransport
  unfold reaches at h
  cases hproto : device.protocol with
  | vless =>
    simp only [hproto] at h
    refine WithinAt.reads_bind ?_
    cases hlist : s.db.credentialsOf device.id with
    | nil => exact aloof.refl s
    | cons c cs =>
      have hc : c∈s.db.credentialsOf device.id := by simp [hlist]
      obtain ⟨hmem,hd⟩ := s.db.mem_credentialsOf.mp hc
      have hlone := mem_singleton_of_lone hs hmem
      rw [hd,hlist] at hlone
      rw [hlone]
      refine WithinAt.bind ?_ fun _ t _ => aloof.refl t
      have hno := List.any_eq_false.mp h c hc
      unfold enableCredential
      split_ifs with hdis
      · refine WithinAt.still_bind (configForCredential_within c s) fun config hconfig => ?_
        have hfound := (configForCredential_ok hconfig).2
        cases config with
        | none => exact aloof.refl s
        | some config =>
          refine WithinAt.reads_bind ?_
          refine WithinAt.bind (xrayRequest_aloof ?_) fun _ t _ => alter_aloof _ t
          apply UserStore.createUser_same
          simpa [hdis,restoresUser,hfound] using hno
      · exact aloof.refl s
  | wireguard =>
    simp only [hproto] at h
    refine WithinAt.still_bind (serverOfDevice_within device s) fun server hserver => ?_
    obtain ⟨_,hserver,hget⟩ := serverOfDevice_ok hserver
    refine withActivePeer_withinAt fun p hp => vpnRequest_aloof fun store hstore => ?_
    obtain ⟨r,hr,he⟩ := Option.map_eq_some_iff.mp hstore
    rw [← he]
    apply PeerStore.setEnabled_same
    intro x hx
    simpa [peerRecord,Database.serverOf,hserver,hget,hp,hx] using h

/-- Which addresses are free depends on the addresses of the rows only. -/
theorem freeAddress_ips (network : IpNetwork) (ps qs : List VpnPeer)
    (h : ps.map VpnPeer.assignedIp=qs.map VpnPeer.assignedIp) :
    freeAddress network ps=freeAddress network qs := by
  have htaken : (fun a => ps.any fun p => p.assignedIp=(⟨network.version,a⟩ : IpAddress))=
      fun a => qs.any fun p => p.assignedIp=(⟨network.version,a⟩ : IpAddress) := by
    funext a
    have hany : ∀ rs : List VpnPeer,(rs.any fun p => p.assignedIp=(⟨network.version,a⟩ : IpAddress))=
        (rs.map VpnPeer.assignedIp).any fun ip => ip=⟨network.version,a⟩ := by
      intro rs
      rw [List.any_map]
      rfl
    rw [hany,hany,h]
  unfold freeAddress
  rw [htaken]

/-- A retired peer keeps its address. -/
theorem peersOfServer_retired (db : Database) (serverId k : Id) :
    (({db with
      vpnPeers := db.vpnPeers.modify k (fun q => {q with status := .revoked}) fun _ => rfl} :
      Database).peersOfServer serverId).map VpnPeer.assignedIp=
    (db.peersOfServer serverId).map VpnPeer.assignedIp := by
  have hips : ∀ rows : List VpnPeer,((rows.map fun p : VpnPeer =>
      if p.id=k then {p with status := .revoked} else p).filter fun p =>
        p.serverId=serverId).map VpnPeer.assignedIp=
      (rows.filter fun p => p.serverId=serverId).map VpnPeer.assignedIp := by
    intro rows
    induction rows with
    | nil => rfl
    | cons p rows ih =>
      by_cases hk : p.id=k
      · by_cases hp : p.serverId=serverId
        · simpa [hk,hp] using ih
        · simpa [hk,hp] using ih
      · by_cases hp : p.serverId=serverId
        · simpa [hk,hp] using ih
        · simpa [hk,hp] using ih
  simp only [Database.peersOfServer,Store.rows_modify]
  exact hips db.vpnPeers.rows

theorem canAllocate_retired (db : Database) (server : VpnServer) (k : Id) :
    canAllocate {db with
      vpnPeers := db.vpnPeers.modify k (fun q => {q with status := .revoked}) fun _ => rfl}
      server=canAllocate db server := by
  unfold canAllocate
  cases server.internalNetwork.network with
  | none => rfl
  | some network =>
    dsimp only
    rw [freeAddress_ips network _ _ (peersOfServer_retired db server.id k)]

theorem createPeerAttempts_aloof {cfg : Settings} {d : Id} {server : VpnServer} (n : Nat)
    (h : canAllocate s.db server=false) :
    WithinAt aloof (createPeerAttempts cfg d server n) s := by
  cases n with
  | zero => exact aloof.refl s
  | succ n =>
    refine WithinAt.still_bind (allocateIp_within server s) fun ip hip => ?_
    have hcan := canAllocate_of_ok hip
    rw [h] at hcan
    cases hcan

theorem reissue_aloof {cfg : Settings} {device : Device}
    (h : reaches s.toWorld s.now device .reissue=false) :
    WithinAt aloof (reissue cfg device) s := by
  unfold reaches at h
  refine WithinAt.still_bind (Within.require _ _ s) fun _ hproto => ?_
  have hwg : device.protocol=.wireguard := by
    have hne := (Eff.require_ok.mp hproto).1
    cases hp : device.protocol with
    | wireguard => rfl
    | vless => exact absurd hp hne
  refine WithinAt.still_bind (serverOfDevice_within device s) fun server hserver => ?_
  obtain ⟨_,hserver,hget⟩ := serverOfDevice_ok hserver
  have hof : s.db.serverOf device=some server := by simp [Database.serverOf,hserver,hget]
  simp only [hwg,hof,Option.any_some,decide_true,Bool.true_and,Bool.or_eq_false_iff] at h
  obtain ⟨hrecord,hcan⟩ := h
  have hretire : WithinAt aloof (withActivePeer device.id (retirePeer server)) s := by
    refine withActivePeer_withinAt fun p hp => WithinAt.bind (vpnRequest_aloof ?_) fun _ t _ =>
      alter_aloof _ t
    intro store hstore
    cases hstore
    apply Store.delete_absent
    simpa [peerRecord,hof,hp] using hrecord
  refine hretire.bind fun _ t ht => ?_
  have hcan' : canAllocate t.db server=false := by
    rcases retireActive_ok ht with ⟨_,hts⟩|⟨p,os,_,hts⟩
    · rw [hts]
      exact hcan
    · rw [hts]
      exact (canAllocate_retired s.db server p.id).trans hcan
  refine (createPeerAttempts_aloof 5 hcan').bind fun _ u hu => ?_
  exact absurd hu (by
    intro hu
    obtain ⟨ip,v,hv,_⟩ := Eff.bind_ok.mp hu
    have hcan := canAllocate_of_ok hv
    rw [hcan'] at hcan
    cases hcan)

theorem aloof_of_hardware {s t : Session} (h : hardwareFrame.rel s t) : aloof.rel s t := by
  have hview := h.1
  simp only [hardwareView,Prod.mk.injEq] at hview
  obtain ⟨_,_,_,_,_,hvpn,hxray⟩ := hview
  show (t.vpn,t.xray)=(s.vpn,s.xray)
  rw [hvpn,hxray]

/-- An operation that does not reach the agents leaves them as they are. -/
theorem handleDevice_aloof {n : Int} (cfg : Settings) {device : Device} (hs : Consistent n s.db)
    {r : DeviceRequest} (h : reaches s.toWorld s.now device r=false) :
    WithinAt aloof (handleDevice cfg device r) s := by
  have hanswer : ∀ t,WithinAt aloof (answerDevice device) t := fun t =>
    ((refreshed_within device).bind fun _ => Within.pure _ : Within aloof _) t
  have hlink : Within aloof (createOrRotate device.id) :=
    (createOrRotate_hardware device.id).mono aloof_of_hardware
  have hprofile : Within aloof (regenerateProfile cfg device.id device.userId) :=
    (regenerateProfile_core cfg _ _).mono fun hc => aloof_of_hardware (hardware_of_core hc)
  cases r with
  | reissue => exact (reissue_aloof h).bind fun _ t _ => aloof.refl t
  | disable => exact (disable_aloof hs h).bind fun _ t _ => hanswer t
  | enable => exact (enable_aloof hs h).bind fun _ t _ => hanswer t
  | revoke => exact (revoke_aloof hs h).bind fun _ t _ => hanswer t
  | createOrRotateLink =>
    exact (hlink.bind fun _ => (generateQrCode_within _).bind fun _ => Within.pure _) s
  | getLink => exact ((getLink_within device.id).bind fun _ => Within.pure _) s
  | revokeLink =>
    exact ((getLink_within device.id).bind fun _ => Within.bind
      (getNow_within.bind fun _ => alter_aloof _) fun _ => answerLink_within _) s
  | getProfile =>
    have hread : Within aloof (getDeviceProfile device.id) := getDb_within.bind fun _ =>
      (currentProfile_within _).bind fun _ => Within.orRaise _ _
    exact (hread.bind fun _ => Within.pure _) s
  | refreshProfile => exact (hprofile.bind fun _ => Within.pure _) s

theorem canAllocate_peers {a b : Database} (h : a.vpnPeers=b.vpnPeers) (server : VpnServer) :
    canAllocate a server=canAllocate b server := by
  unfold canAllocate Database.peersOfServer
  rw [h]

theorem chooseServer_chosen {requested : Option Id} {protocol : VpnProtocol} {server : VpnServer}
    {t : Session} : chooseServer requested protocol s=(.ok server,t) ↔
      chosenServer s.db requested protocol=some server ∧ t=s := by
  unfold chooseServer chosenServer
  cases requested.filter fun k => k≠0 with
  | some k => exact Eff.orRaise_ok
  | none => exact Eff.orRaise_ok

theorem enforceDeviceLimit_of {userId : Id} (h : limitVerdict s.db userId=.ok ()) :
    enforceDeviceLimit userId s=(.ok (),s) := by
  unfold enforceDeviceLimit
  rw [getDb_bind_run,h]
  rfl

/-- Provisioning that stops before its call leaves the agents as they are. -/
theorem provision_aloof {cfg : Settings} {user : User} {name : String} {requested : Option Id}
    {protocol : VpnProtocol} (h : provisions s.db user name requested protocol=false) :
    WithinAt aloof (provision cfg user name requested protocol) s := by
  refine WithinAt.still_bind (enforceDeviceLimit_within user.id s) fun _ hverdict => ?_
  have hlimit := (enforceDeviceLimit_ok hverdict).2
  have hadd : ∀ sid t,WithinAt aloof (addDevice user.id name sid protocol) t := fun sid t =>
    ((nextSerial_within aloof_books).bind fun _ => (flush_within aloof_books).bind fun _ =>
      (Within.require _ _).bind fun _ => (alter_aloof _).bind fun _ => Within.pure _ :
      Within aloof _) t
  cases protocol with
  | vless =>
    refine WithinAt.still_bind (chooseServer_within requested .vless s) fun server hserver => ?_
    have hchosen := (chooseServer_chosen.mp hserver).1
    refine WithinAt.reads_bind (WithinAt.orRaise_bind fun config hconfig => ?_)
    refine (hadd _ s).bind fun device t ht => ?_
    have hlen := (addDevice_ok ht).1
    simp [provisions,hlimit,hlen,hchosen,hconfig,Except.isOk,Except.toBool] at h
  | wireguard =>
    refine WithinAt.still_bind (chooseServer_within requested .wireguard s) fun server hserver => ?_
    have hchosen := (chooseServer_chosen.mp hserver).1
    refine (hadd _ s).bind fun device t ht => ?_
    obtain ⟨hlen,_,os,hts⟩ := addDevice_ok ht
    have hcan : canAllocate s.db server=false := by
      simpa [provisions,hlimit,hlen,hchosen,Except.isOk,Except.toBool] using h
    refine (((createOrRotate_hardware device.id).mono aloof_of_hardware) t).bind fun link u hu => ?_
    have hview := (((createOrRotate_hardware device.id) t).rel_of_run hu).1
    simp only [hardwareView,Prod.mk.injEq] at hview
    have hpeers : u.db.vpnPeers=s.db.vpnPeers := by
      rw [hview.2.2.2.1,hts]
    have hcan' : canAllocate u.db server=false := by
      rw [canAllocate_peers hpeers]
      exact hcan
    refine (createPeerAttempts_aloof 5 hcan').bind fun _ v hv => ?_
    obtain ⟨ip,x,hx,_⟩ := Eff.bind_ok.mp hv
    have htrue := canAllocate_of_ok hx
    rw [hcan'] at htrue
    cases htrue

theorem currentUser_run {telegramId : Int} {user : User} {t : Session} :
    currentUser telegramId s=(.ok user,t) ↔
      (s.db.userByTelegramId telegramId).filter (fun u => u.status=.active)=some user ∧ t=s := by
  unfold currentUser
  rw [getDb_bind_run,Eff.orRaise_bind_ok]
  constructor
  · rintro ⟨u,hu,h⟩
    obtain ⟨hact,h⟩ := Eff.require_bind_ok.mp h
    cases h
    exact ⟨Option.filter_eq_some_iff.mpr ⟨hu,decide_eq_true hact⟩,rfl⟩
  · rintro ⟨hu,rfl⟩
    obtain ⟨hu,hact⟩ := Option.filter_eq_some_iff.mp hu
    exact ⟨user,hu,Eff.require_bind_ok.mpr ⟨of_decide_eq_true hact,rfl⟩⟩

/-- A device request that does not reach the agents leaves them as they are. -/
theorem handle_aloof {n : Int} (cfg : Settings) (hs : Consistent n s.db) {r : Request}
    (hr : (∃ telegramId name requested protocol,
        r=.createDevice telegramId name requested protocol) ∨
      ∃ telegramId deviceId op,r=.device telegramId deviceId op)
    (h : r.reaches s.toWorld s.now=false) : WithinAt aloof (handle cfg r) s := by
  rcases hr with ⟨telegramId,name,requested,protocol,rfl⟩|⟨telegramId,deviceId,op,rfl⟩
  · refine WithinAt.still_bind (currentUser_within telegramId s) fun user huser => ?_
    have hu := (currentUser_run.mp huser).1
    simp only [Request.reaches,hu,Option.any_some] at h
    exact (provision_aloof h).bind fun _ t _ => aloof.refl t
  · refine WithinAt.still_bind (currentUser_within telegramId s) fun user huser => ?_
    have hu := (currentUser_run.mp huser).1
    refine WithinAt.still_bind (getOwned_within deviceId user.id s) fun device hdevice => ?_
    have hd := (Eff.orRaise_ok.mp hdevice).1
    simp only [Request.reaches,Database.owned,hu,Option.bind_some,hd,Option.any_some] at h
    exact handleDevice_aloof cfg hs h

end

/-- What a request leaves at the agents is what its handler left there. -/
theorem after_agents (cfg : Settings) (w : World) (c : Call) :
    ∃ x s,handle cfg c.request ⟨w,c.env⟩=(x,s) ∧ (after cfg w c).vpn=s.vpn ∧
      (after cfg w c).xray=s.xray := by
  unfold after
  rcases serve_cases cfg c.env c.request w with ⟨a,s,hm,hserve⟩|⟨x,e,s,hm,hserve⟩
  · exact ⟨_,s,hm,by rw [hserve],by rw [hserve]⟩
  · exact ⟨x,s,hm,by rw [hserve],by rw [hserve]⟩

/-- A request whose handler raises is rolled back. -/
theorem after_of_error {cfg : Settings} {w : World} {c : Call} {e : AppError} {s : Session}
    (h : handle cfg c.request ⟨w,c.env⟩=(.error e,s)) :
    answered cfg w c=false ∧ after cfg w c={s.toWorld with db := w.db} := by
  have hserve : serve cfg c.env c.request w=(.error e,{s.toWorld with db := w.db}) := by
    unfold serve transaction
    rw [Eff.bind_run_error h]
  unfold answered after
  rw [hserve]
  exact ⟨rfl,rfl⟩

end VpnService.Backend
