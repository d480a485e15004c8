import VpnService.Backend.Reaching

namespace VpnService.Backend

open Agent

/-- The agents hold for device `d` exactly what they held before. -/
def KeepsAgents (d : Id) (w w' : World) : Prop :=
  (∀ url r,r.deviceId=d → (r∈(w'.vpn url).rows ↔ r∈(w.vpn url).rows)) ∧
    ∀ url r,r.deviceId=d → (r∈(w'.xray url).rows ↔ r∈(w.xray url).rows)

theorem KeepsAgents.of_same {d : Id} {w w' : World} (hv : w'.vpn=w.vpn) (hx : w'.xray=w.xray) :
    KeepsAgents d w w' := by
  unfold KeepsAgents
  rw [hv,hx]
  exact ⟨fun _ _ _ => Iff.rfl,fun _ _ _ => Iff.rfl⟩

section

variable {d : Id} {w w' : World} {url : String} {k : Int}

theorem KeepsAgents.vpn (h : KeepsAgents d w w') {r : PeerRecord IpAddress} (hr : r.deviceId=d) :
    (w'.vpn url).get? k=some r ↔ (w.vpn url).get? k=some r := by
  rw [Store.get?_eq_some,Store.get?_eq_some,h.1 url r hr]

theorem KeepsAgents.xray (h : KeepsAgents d w w') {r : UserRecord} (hr : r.deviceId=d) :
    (w'.xray url).get? k=some r ↔ (w.xray url).get? k=some r := by
  rw [Store.get?_eq_some,Store.get?_eq_some,h.2 url r hr]

end

section

variable {s : Session} {device : Device}

/-- What the agent keeps of the active peer, with the server and the peer. -/
theorem peerRecord_some {w : World} {r : PeerRecord IpAddress} (h : peerRecord w device=some r) :
    ∃ server p,w.db.serverOf device=some server ∧ w.db.activePeer device.id=some p ∧
      (w.vpn server.agentBaseUrl).get? p.publicKey=some r := by
  obtain ⟨server,hserver,h⟩ := Option.bind_eq_some_iff.mp h
  obtain ⟨p,hp,h⟩ := Option.bind_eq_some_iff.mp h
  exact ⟨server,p,hserver,hp,h⟩

theorem userRecord_some {w : World} {c : VlessCredential} {r : UserRecord}
    (h : userRecord w c=some r) : ∃ config,w.db.vlessConfig c.serverId=some config ∧
      (w.xray config.xrayAgentBaseUrl).get? c.uuid=some r := Option.bind_eq_some_iff.mp h

theorem withActivePeer_of {d : Id} {f : VpnPeer → Req Unit} {p : VpnPeer}
    (h : s.db.activePeer d=some p) : withActivePeer d f s=f p s := by
  unfold withActivePeer
  rw [getDb_bind_run,h]

theorem withActivePeer_none {d : Id} {f : VpnPeer → Req Unit} (h : s.db.activePeer d=none) :
    withActivePeer d f s=(.ok (),s) := by
  unfold withActivePeer
  rw [getDb_bind_run,h]
  rfl

theorem configForCredential_of {n : Int} (hs : Consistent n s.db) {c : VlessCredential}
    (hc : c∈s.db.vlessCredentials.rows) :
    configForCredential c s=(.ok (s.db.vlessConfig c.serverId),s) := by
  obtain ⟨server,hget⟩ := Option.isSome_iff_exists.mp (hs.credentialServers c hc)
  have hid : server.id=c.serverId := Store.key_of_get? hget
  unfold configForCredential getServer
  simp [Eff.bind_run,hget,hid,getDb]

/-- The computation fails and leaves a state of which `P` holds. -/
def Fails {α : Type} (P : World → Prop) (m : Req α) (s : Session) : Prop :=
  ∃ e t,m s=(.error e,t) ∧ P t.toWorld

theorem Fails.bind {α β : Type} {P : World → Prop} {m : Req α} {f : α → Req β}
    (h : Fails P m s) : Fails P (m >>= f) s := by
  obtain ⟨e,t,hm,hP⟩ := h
  exact ⟨e,t,Eff.bind_run_error hm,hP⟩

theorem Fails.of_run {α : Type} {P : World → Prop} {m n : Req α} {u : Session} (he : m s=n u)
    (h : Fails P n u) : Fails P m s := by
  obtain ⟨e,t,hn,hP⟩ := h
  exact ⟨e,t,he.trans hn,hP⟩

theorem Fails.mono {α : Type} {P Q : World → Prop} {m : Req α} (h : Fails P m s)
    (hPQ : ∀ w,P w → Q w) : Fails Q m s := by
  obtain ⟨e,t,hm,hP⟩ := h
  exact ⟨e,t,hm,hPQ _ hP⟩

/-- The agents no longer hold for device `d` what they held before. -/
def Disturbed (d : Id) (w w' : World) : Prop := ¬KeepsAgents d w w'

variable {os : List Outcome}

/-- A call to the vpn-agent that is executed but not answered well. -/
theorem vpnRequest_disturbs {d : Id} {server : VpnServer} {op : IpPeerStore → Option IpPeerStore}
    {store : IpPeerStore} {k : Int} (hb : upcoming s.outcomes=(.broken,os))
    (hop : op (s.vpn server.agentBaseUrl)=some store)
    (h : ∃ r : PeerRecord IpAddress,r.deviceId=d ∧
      ¬(store.get? k=some r ↔ (s.vpn server.agentBaseUrl).get? k=some r)) :
    Fails (Disturbed d s.toWorld) (vpnRequest server op) s := by
  refine ⟨_,_,vpnRequest_broken hb hop,fun hkeeps => ?_⟩
  obtain ⟨r,hr,hne⟩ := h
  apply hne
  have hsame : ((setVpn server.agentBaseUrl store {s with outcomes := os}).vpn
      server.agentBaseUrl).get? k=some r ↔ (s.vpn server.agentBaseUrl).get? k=some r :=
    hkeeps.vpn hr
  simpa only [setVpn,if_true] using hsame

theorem xrayRequest_disturbs {d : Id} {baseUrl : String} {op : UserStore → UserStore} {k : Int}
    (hb : upcoming s.outcomes=(.broken,os))
    (h : ∃ r : UserRecord,r.deviceId=d ∧
      ¬((op (s.xray baseUrl)).get? k=some r ↔ (s.xray baseUrl).get? k=some r)) :
    Fails (Disturbed d s.toWorld) (xrayRequest baseUrl op) s := by
  refine ⟨_,_,xrayRequest_broken hb,fun hkeeps => ?_⟩
  obtain ⟨r,hr,hne⟩ := h
  apply hne
  have hsame : ((setXray baseUrl (op (s.xray baseUrl)) {s with outcomes := os}).xray
      baseUrl).get? k=some r ↔ (s.xray baseUrl).get? k=some r := hkeeps.xray hr
  simpa only [setXray,if_true] using hsame

/-- The removal of a user that is there. -/
theorem removal_disturbs (hs : Sound s.toWorld) (hb : upcoming s.outcomes=(.broken,os))
    (h : removesUser s.toWorld device=true) {f : VlessCredential → Req Unit}
    (hf : ∀ c,Fails (Disturbed device.id s.toWorld) (removeCredentialFromXray c) s →
      Fails (Disturbed device.id s.toWorld) (f c) s) :
    Fails (Disturbed device.id s.toWorld) (Eff.each f (s.db.activeCredentials device.id)) s := by
  obtain ⟨c,hc,hsome⟩ := List.any_eq_true.mp h
  obtain ⟨r,hr⟩ := Option.isSome_iff_exists.mp hsome
  obtain ⟨config,hconfig,hget⟩ := userRecord_some hr
  obtain ⟨hmem,hcd,_⟩ := s.db.mem_activeCredentials.mp hc
  have hrd : r.deviceId=device.id := (hs.credentialOwner c hmem _ r hget).trans hcd
  have hrun : removeCredentialFromXray c s=
      xrayRequest config.xrayAgentBaseUrl (UserStore.deleteUser c.uuid) s := by
    unfold removeCredentialFromXray
    rw [Eff.bind_run_ok (configForCredential_of hs.consistent hmem),hconfig]
  rw [activeCredentials_lone hs.consistent hc,Eff.each_cons]
  apply Fails.bind
  apply hf
  apply Fails.of_run hrun
  apply xrayRequest_disturbs (k := c.uuid) hb
  refine ⟨r,hrd,fun hsame => ?_⟩
  have hgone := hsame.mpr hget
  rw [UserStore.get?_deleteUser,if_pos rfl] at hgone
  cases hgone

theorem disableTransport_disturbs (hs : Sound s.toWorld) (hb : upcoming s.outcomes=(.broken,os))
    (h : reaches s.toWorld s.now device .disable=true) :
    Fails (Disturbed device.id s.toWorld) (disableTransport device) s := by
  unfold reaches at h
  unfold disableTransport
  cases hproto : device.protocol with
  | wireguard =>
    simp only [hproto,Option.any_eq_true] at h
    obtain ⟨r,hr,hon⟩ := h
    obtain ⟨server,p,hserver,hp,hget⟩ := peerRecord_some hr
    obtain ⟨hmem,hpd,_⟩ := Database.activePeer_mem hp
    have hrd : r.deviceId=device.id := (hs.peerOwner p hmem _ r hget).trans hpd
    have hrun : disablePeer device s=vpnRequest server (PeerStore.disablePeer p.publicKey) s := by
      unfold disablePeer
      rw [Eff.bind_run_ok (serverOfDevice_of hserver),withActivePeer_of hp]
    have hop : PeerStore.disablePeer p.publicKey (s.vpn server.agentBaseUrl)=
        some (PeerStore.setEnabled (s.vpn server.agentBaseUrl) p.publicKey false) := by
      unfold PeerStore.disablePeer
      rw [hget]
      rfl
    apply Fails.of_run hrun
    apply vpnRequest_disturbs (k := p.publicKey) hb hop
    refine ⟨r,hrd,fun hsame => ?_⟩
    have hoff := hsame.mpr hget
    rw [PeerStore.get?_setEnabled,if_pos rfl,hget] at hoff
    rw [← Option.some.inj hoff] at hon
    cases hon
  | vless =>
    simp only [hproto] at h
    unfold disableCredentials
    exact removal_disturbs hs hb h fun c hc => hc.bind

theorem deletePeer_disturbs {d : Id} {server : VpnServer} {k : Int} {r : PeerRecord IpAddress}
    (hb : upcoming s.outcomes=(.broken,os)) (hget : (s.vpn server.agentBaseUrl).get? k=some r)
    (hr : r.deviceId=d) : Fails (Disturbed d s.toWorld) (deletePeer k server) s := by
  have hop : (fun store => some (PeerStore.deletePeer k store)) (s.vpn server.agentBaseUrl)=
      some (PeerStore.deletePeer k (s.vpn server.agentBaseUrl)) := rfl
  apply vpnRequest_disturbs (k := k) hb hop
  refine ⟨r,hr,fun hsame => ?_⟩
  have hgone := hsame.mpr hget
  rw [PeerStore.get?_deletePeer,if_pos rfl] at hgone
  cases hgone

theorem revokeTransport_disturbs (hs : Sound s.toWorld) (hb : upcoming s.outcomes=(.broken,os))
    (h : reaches s.toWorld s.now device .revoke=true) :
    Fails (Disturbed device.id s.toWorld) (revokeTransport device) s := by
  unfold reaches at h
  unfold revokeTransport
  cases hproto : device.protocol with
  | wireguard =>
    simp only [hproto] at h
    obtain ⟨r,hr⟩ := Option.isSome_iff_exists.mp h
    obtain ⟨server,p,hserver,hp,hget⟩ := peerRecord_some hr
    obtain ⟨hmem,hpd,_⟩ := Database.activePeer_mem hp
    obtain ⟨hid,hserverget⟩ := serverOf_some hserver
    have hrd : r.deviceId=device.id := (hs.peerOwner p hmem _ r hget).trans hpd
    have hget' : getServer server.id s=(.ok server,s) := Eff.orRaise_ok.mpr ⟨hserverget,rfl⟩
    have hrun : revokePeer device s=(do
        retirePeer server p
        dropLoad server.id) s := by
      unfold revokePeer
      rw [hid]
      simp only
      rw [Eff.bind_run_ok hget',withActivePeer_of hp]
    apply Fails.of_run hrun
    apply Fails.bind
    apply Fails.bind
    exact deletePeer_disturbs hb hget hrd
  | vless =>
    simp only [hproto] at h
    unfold revokeCredentials
    exact removal_disturbs hs hb h fun c hc => hc.bind

theorem enablePeer_run {server : VpnServer} {p : VpnPeer}
    (hserver : s.db.serverOf device=some server) (hp : s.db.activePeer device.id=some p) :
    enablePeer device s=vpnRequest server (PeerStore.enablePeer p.publicKey) s := by
  unfold enablePeer
  rw [Eff.bind_run_ok (serverOfDevice_of hserver),withActivePeer_of hp]

/-- A disabled credential is the only one of its device, so its call is the first. -/
theorem enableCredentials_fails {P : World → Prop} {n : Int} {d : Id} (hs : Consistent n s.db)
    {c : VlessCredential} {config : VlessServerConfig} (hc : c∈s.db.credentialsOf d)
    (hdis : c.status=.disabled) (hconfig : s.db.vlessConfig c.serverId=some config)
    (h : Fails P (xrayRequest config.xrayAgentBaseUrl
      (UserStore.createUser c.uuid d config.flow s.now)) s) : Fails P (enableCredentials d) s := by
  obtain ⟨hmem,hcd⟩ := s.db.mem_credentialsOf.mp hc
  have hlone := mem_singleton_of_lone hs hmem
  rw [hcd] at hlone
  have hall : enableCredentials d s=(enableCredential d c >>= fun _ => pure ()) s := by
    show Eff.each (enableCredential d) (s.db.credentialsOf d) s=_
    rw [hlone]
    rfl
  have hrun : restoreCredential d c s=(xrayRequest config.xrayAgentBaseUrl
      (UserStore.createUser c.uuid d config.flow s.now) >>= fun _ =>
        setCredentialStatus c.id (fun c => {c with status := .active}) fun _ => rfl) s := by
    unfold restoreCredential
    rw [Eff.bind_run_ok (configForCredential_of hs hmem),hconfig]
    rfl
  apply Fails.of_run hall
  apply Fails.bind
  unfold enableCredential
  rw [if_pos hdis]
  exact Fails.of_run hrun h.bind

theorem enableTransport_disturbs (hs : Sound s.toWorld) (hb : upcoming s.outcomes=(.broken,os))
    (h : reaches s.toWorld s.now device .enable=true) :
    Fails (Disturbed device.id s.toWorld) (enableTransport device) s := by
  unfold reaches at h
  unfold enableTransport
  cases hproto : device.protocol with
  | wireguard =>
    simp only [hproto,Option.any_eq_true] at h
    obtain ⟨r,hr,hoff⟩ := h
    obtain ⟨server,p,hserver,hp,hget⟩ := peerRecord_some hr
    obtain ⟨hmem,hpd,_⟩ := Database.activePeer_mem hp
    have hrd : r.deviceId=device.id := (hs.peerOwner p hmem _ r hget).trans hpd
    have hop : PeerStore.enablePeer p.publicKey (s.vpn server.agentBaseUrl)=
        some (PeerStore.setEnabled (s.vpn server.agentBaseUrl) p.publicKey true) := by
      unfold PeerStore.enablePeer
      rw [hget]
      rfl
    apply Fails.of_run (enablePeer_run hserver hp)
    apply vpnRequest_disturbs (k := p.publicKey) hb hop
    refine ⟨r,hrd,fun hsame => ?_⟩
    have hon := hsame.mpr hget
    rw [PeerStore.get?_setEnabled,if_pos rfl,hget] at hon
    rw [← Option.some.inj hon] at hoff
    cases hoff
  | vless =>
    simp only [hproto] at h
    obtain ⟨c,hc,hrest⟩ := List.any_eq_true.mp h
    simp only [Bool.and_eq_true,decide_eq_true_eq] at hrest
    obtain ⟨hdis,hrestores⟩ := hrest
    simp only [restoresUser,Option.any_eq_true] at hrestores
    obtain ⟨config,hconfig,hne⟩ := hrestores
    apply enableCredentials_fails hs.consistent hc hdis hconfig
    apply xrayRequest_disturbs (k := c.uuid) hb
    refine ⟨UserStore.created (s.xray config.xrayAgentBaseUrl) c.uuid device.id config.flow
      s.now,rfl,fun hsame => ?_⟩
    rw [UserStore.get?_createUser,if_pos rfl] at hsame
    exact of_decide_eq_true hne (hsame.mp rfl)

/-- An agent has an enabled record of device `d` under a number that is not below `n`. -/
def Appeared (d : Id) (n : Int) (w : World) : Prop :=
  ∃ k,n≤k ∧ ((∃ url r,(w.vpn url).get? k=some r ∧ r.deviceId=d ∧ r.enabled=true) ∨
    ∃ url r,(w.xray url).get? k=some r ∧ r.deviceId=d ∧ r.enabled=true)

theorem Appeared.earlier {d : Id} {m n : Int} {w : World} (h : Appeared d n w) (hm : m≤n) :
    Appeared d m w := by
  obtain ⟨k,hk,hnew⟩ := h
  exact ⟨k,hm.trans hk,hnew⟩

theorem Appeared.disturbed {d : Id} {w w' : World} (hs : Sound w) (h : Appeared d w.serial w') :
    Disturbed d w w' := by
  obtain ⟨k,hk,hnew⟩ := h
  intro hkeeps
  rcases hnew with ⟨url,r,hget,hr,_⟩|⟨url,r,hget,hr,_⟩
  · have hold := (hkeeps.vpn hr).mp hget
    rw [(hs.fresh url k hk).1] at hold
    cases hold
  · have hold := (hkeeps.xray hr).mp hget
    rw [(hs.fresh url k hk).2] at hold
    cases hold

theorem allocateIp_of {server : VpnServer} (h : canAllocate s.db server=true) :
    ∃ ip,allocateIp server s=(.ok ip,s) := by
  unfold canAllocate at h
  cases hn : server.internalNetwork.network with
  | none => simp [hn] at h
  | some network =>
    simp only [hn] at h
    cases hf : freeAddress network (s.db.peersOfServer server.id) with
    | none => simp [hf] at h
    | some answer =>
      cases answer with
      | none => simp [hf] at h
      | some ip => exact ⟨ip,by simp [allocateIp,hn,hf]⟩

theorem createPeerAttempts_appears (cfg : Settings) (d : Id) {server : VpnServer} (n : Nat)
    (hb : upcoming s.outcomes=(.broken,os)) (h : canAllocate s.db server=true) :
    Fails (Appeared d s.serial) (createPeerAttempts cfg d server (n+1)) s := by
  obtain ⟨ip,hip⟩ := allocateIp_of h
  have hcall : createPeer cfg d server ip s=(.error (vpnAgentUnreachable server),
      setVpn server.agentBaseUrl
        (PeerStore.createPeer s.serial d ip s.now (s.vpn server.agentBaseUrl))
        {s with serial := s.serial+1,outcomes := os}) := by
    unfold createPeer
    rw [getNow_bind_run,nextSerial_bind_run]
    apply Eff.bind_run_error
    exact vpnRequest_broken (s := {s with serial := s.serial+1}) hb rfl
  have hrun : createPeerAttempts cfg d server (n+1) s=(.error (vpnAgentUnreachable server),
      setVpn server.agentBaseUrl
        (PeerStore.createPeer s.serial d ip s.now (s.vpn server.agentBaseUrl))
        {s with serial := s.serial+1,outcomes := os}) := by
    unfold createPeerAttempts
    rw [Eff.bind_run_ok hip]
    exact Eff.bind_run_error hcall
  refine ⟨_,_,hrun,s.serial,le_rfl,Or.inl ⟨server.agentBaseUrl,
    PeerStore.created (s.vpn server.agentBaseUrl) s.serial d ip s.now,?_,rfl,rfl⟩⟩
  simp only [setVpn,if_true]
  rw [PeerStore.get?_createPeer,if_pos rfl]

theorem reissue_run (cfg : Settings) {server : VpnServer} (hproto : device.protocol=.wireguard)
    (hserver : s.db.serverOf device=some server) :
    ∃ rest,reissue cfg device s=(withActivePeer device.id (retirePeer server) >>= fun _ =>
      createPeerWithRetry cfg device.id server >>= rest) s := by
  have hreq : (Eff.require (device.protocol≠.vless)
      ⟨.validation,"reissue_not_supported_for_protocol",
        "Reissue is not supported for VLESS devices — the subscription link always reflects the "
        ++"device's current credential live; rotate the subscription link instead if a fresh URL "
        ++"is needed"⟩ : Req Unit) s=(.ok (),s) := by
    apply Eff.require_ok.mpr
    rw [hproto]
    exact ⟨by decide,rfl⟩
  unfold reissue
  rw [Eff.bind_run_ok hreq,Eff.bind_run_ok (serverOfDevice_of hserver)]
  exact ⟨_,rfl⟩

/-- Where an address is free, a reissue can fail with the new peer at the agent. -/
theorem reissue_appears (cfg : Settings) {server : VpnServer} (hproto : device.protocol=.wireguard)
    (hserver : s.db.serverOf device=some server) (h : canAllocate s.db server=true) :
    ∃ os,Fails (Appeared device.id s.serial) (reissue cfg device) {s with outcomes := os} := by
  cases hp : s.db.activePeer device.id with
  | none =>
    obtain ⟨rest,hrun⟩ := reissue_run (s := {s with outcomes := [.broken]}) cfg hproto hserver
    have hskip : withActivePeer device.id (retirePeer server) {s with outcomes := [.broken]}=
        (.ok (),{s with outcomes := [.broken]}) := withActivePeer_none hp
    refine ⟨[.broken],Fails.of_run (hrun.trans (Eff.bind_run_ok hskip)) (Fails.bind ?_)⟩
    exact createPeerAttempts_appears (s := {s with outcomes := [.broken]}) cfg device.id 4 rfl h
  | some p =>
    let u : Session := {setVpn server.agentBaseUrl
        (PeerStore.deletePeer p.publicKey (s.vpn server.agentBaseUrl)) s with
      db := {s.db with
        vpnPeers := s.db.vpnPeers.modify p.id (fun q => {q with status := .revoked}) fun _ => rfl}
      outcomes := [.broken]}
    have hretire : withActivePeer device.id (retirePeer server)
        {s with outcomes := [.answered,.broken]}=(.ok (),u) := by
      rw [withActivePeer_of (s := {s with outcomes := [.answered,.broken]}) hp]
      have hcall : deletePeer p.publicKey server {s with outcomes := [.answered,.broken]}=
          (.ok (),setVpn server.agentBaseUrl
            (PeerStore.deletePeer p.publicKey (s.vpn server.agentBaseUrl))
            {s with outcomes := [.broken]}) :=
        vpnRequest_answered (s := {s with outcomes := [.answered,.broken]}) rfl rfl
      unfold retirePeer
      rw [Eff.bind_run_ok hcall]
      rfl
    obtain ⟨rest,hrun⟩ := reissue_run (s := {s with outcomes := [.answered,.broken]}) cfg hproto
      hserver
    refine ⟨[.answered,.broken],Fails.of_run (hrun.trans (Eff.bind_run_ok hretire))
      (Fails.bind ?_)⟩
    apply createPeerAttempts_appears (s := u) cfg device.id 4 rfl
    exact (canAllocate_retired s.db server p.id).trans h

theorem addDevice_answered {userId : Id} {name : String} {sid : Option Id}
    {protocol : VpnProtocol} (hb : upcoming s.outcomes=(.answered,os)) (hlen : name.length≤64) :
    addDevice userId name sid protocol s=(.ok (freshDevice s.serial userId name sid protocol),
      {withDevice (freshDevice s.serial userId name sid protocol) s with outcomes := os}) := by
  have hflush : flush {s with serial := s.serial+1}=
      (.ok (),{s with serial := s.serial+1,outcomes := os}) :=
    flush_answered (s := {s with serial := s.serial+1}) hb
  unfold addDevice
  rw [nextSerial_bind_run]
  simp only
  rw [Eff.bind_run_ok hflush]
  simp only [Eff.require,hlen,if_true,Eff.pure_bind_run]
  rfl

theorem createOrRotate_answered (d : Id) (hb : upcoming s.outcomes=(.answered,os)) :
    ∃ a t,createOrRotate d s=(.ok a,t) ∧ t.outcomes=os ∧ t.now=s.now ∧
      hardwareFrame.rel s t := by
  have hframe : ∀ a t,createOrRotate d s=(.ok a,t) → hardwareFrame.rel s t := fun a t ht =>
    (createOrRotate_hardware d s).rel_of_run ht
  have hflush : ∀ u : Session,u.outcomes=s.outcomes → flush u=(.ok (),{u with outcomes := os}) :=
    fun u hu => flush_answered (by rw [hu]; exact hb)
  cases hl : s.db.linkOf d with
  | none =>
    have hrun : ∃ a t,createOrRotate d s=(.ok a,t) ∧ t.outcomes=os ∧ t.now=s.now := by
      unfold createOrRotate
      rw [nextSerial_bind_run,getNow_bind_run,getDb_bind_run]
      simp only [hl]
      rw [nextSerial_bind_run]
      simp only [alter_bind_run]
      exact ⟨_,_,Eff.bind_run_ok (hflush _ rfl),rfl,rfl⟩
    obtain ⟨a,t,ht,hos,hnow⟩ := hrun
    exact ⟨a,t,ht,hos,hnow,hframe a t ht⟩
  | some l =>
    have hrun : ∃ a t,createOrRotate d s=(.ok a,t) ∧ t.outcomes=os ∧ t.now=s.now := by
      unfold createOrRotate
      rw [nextSerial_bind_run,getNow_bind_run,getDb_bind_run]
      simp only [hl]
      rw [alter_bind_run]
      exact ⟨_,_,Eff.bind_run_ok (hflush _ rfl),rfl,rfl⟩
    obtain ⟨a,t,ht,hos,hnow⟩ := hrun
    exact ⟨a,t,ht,hos,hnow,hframe a t ht⟩

/-- Provisioning that gets as far as its call can fail with the new record at the agent. -/
theorem provision_appears (cfg : Settings) {user : User} {name : String} {requested : Option Id}
    {protocol : VpnProtocol} (h : provisions s.db user name requested protocol=true) :
    ∃ os,Fails (Appeared s.serial s.serial) (provision cfg user name requested protocol)
      {s with outcomes := os} := by
  simp only [provisions,Bool.and_eq_true,decide_eq_true_eq,Option.any_eq_true] at h
  obtain ⟨⟨hverdict,hlen⟩,server,hserver,hlast⟩ := h
  have hlimit : limitVerdict s.db user.id=.ok () := by
    cases hv : limitVerdict s.db user.id with
    | ok u => rfl
    | error e =>
      rw [hv] at hverdict
      cases hverdict
  refine ⟨[.answered,.answered,.broken],?_⟩
  generalize hu : ({s with outcomes := [.answered,.answered,.broken]} : Session)=u
  have hub : upcoming u.outcomes=(.answered,[.answered,.broken]) := by rw [← hu]; rfl
  have hudb : u.db=s.db := by rw [← hu]
  have huserial : u.serial=s.serial := by rw [← hu]
  rw [← hudb] at hlimit hserver hlast
  have hchoose : chooseServer requested protocol u=(.ok server,u) :=
    chooseServer_chosen.mpr ⟨hserver,rfl⟩
  have hafter : ∀ sid,∃ a t,createOrRotate u.serial
      {withDevice (freshDevice u.serial user.id name sid protocol) u with
        outcomes := [.answered,.broken]}=(.ok a,t) ∧ t.outcomes=[.broken] ∧ u.serial≤t.serial ∧
      t.db.vpnPeers=u.db.vpnPeers := by
    intro sid
    have hnext : upcoming [Outcome.answered,.broken]=(.answered,[.broken]) := rfl
    obtain ⟨a,t,ht,hos,_,hframe⟩ := createOrRotate_answered (s := {withDevice
      (freshDevice u.serial user.id name sid protocol) u with outcomes := [.answered,.broken]})
      u.serial hnext
    have hview := hframe.1
    simp only [hardwareView,withDevice,Prod.mk.injEq] at hview
    exact ⟨a,t,ht,hos,(Int.lt_succ _).le.trans hframe.2,hview.2.2.2.1⟩
  rw [← huserial]
  cases protocol with
  | wireguard =>
    obtain ⟨a,t,ht,hos,hle,hpeers⟩ := hafter none
    have hcan : canAllocate t.db server=true := (canAllocate_peers hpeers server).trans hlast
    have hfails : Fails (Appeared u.serial t.serial) (createPeerAttempts cfg u.serial server 5) t :=
      createPeerAttempts_appears cfg u.serial 4 (by rw [hos]; rfl) hcan
    apply Fails.of_run _ (hfails.mono fun w hw => hw.earlier hle).bind
    · exact fun created => do
        updateDevice u.serial (fun d =>
          {d with
            publicKey := some created.2.publicKey
            assignedIp := some created.2.assignedIp
            serverId := some server.id}) fun _ => rfl
        addLoad server.id
        let profile ← regenerateProfile cfg u.serial user.id
        let config ← generateQrCode (clientConfig cfg created.1 profile)
        let url ← generateQrCode (.url cfg.subscriptionBaseUrl a.2)
        let device ← refreshed (freshDevice u.serial user.id name none .wireguard)
        pure ⟨device,some config,some url⟩
    · unfold provision
      rw [Eff.bind_run_ok (enforceDeviceLimit_of hlimit)]
      simp only
      rw [Eff.bind_run_ok hchoose,Eff.bind_run_ok (addDevice_answered hub hlen)]
      exact Eff.bind_run_ok ht
  | vless =>
    obtain ⟨a,t,ht,hos,hle,_⟩ := hafter (some server.id)
    obtain ⟨config,hconfig⟩ := Option.isSome_iff_exists.mp hlast
    have hcall : xrayRequest config.xrayAgentBaseUrl
        (UserStore.createUser t.serial u.serial config.flow t.now) {t with serial := t.serial+1}=
        (.error (xrayAgentUnreachable config.xrayAgentBaseUrl ""),
          setXray config.xrayAgentBaseUrl (UserStore.createUser t.serial u.serial config.flow t.now
            (t.xray config.xrayAgentBaseUrl)) {t with serial := t.serial+1,outcomes := []}) := by
      apply xrayRequest_broken
      show upcoming t.outcomes=_
      rw [hos]
      rfl
    have hrun : provision cfg user name requested .vless u=
        (.error (xrayAgentUnreachable config.xrayAgentBaseUrl ""),
          setXray config.xrayAgentBaseUrl (UserStore.createUser t.serial u.serial config.flow t.now
            (t.xray config.xrayAgentBaseUrl)) {t with serial := t.serial+1,outcomes := []}) := by
      unfold provision
      rw [Eff.bind_run_ok (enforceDeviceLimit_of hlimit)]
      simp only
      unfold provisionVless
      rw [Eff.bind_run_ok hchoose,getDb_bind_run,hconfig,Eff.orRaise_some,Eff.pure_bind_run,
        Eff.bind_run_ok (addDevice_answered hub hlen)]
      apply (Eff.bind_run_ok ht).trans
      rw [nextSerial_bind_run,getNow_bind_run]
      exact Eff.bind_run_error hcall
    refine ⟨_,_,hrun,t.serial,hle,Or.inr ⟨config.xrayAgentBaseUrl,
      UserStore.created (t.xray config.xrayAgentBaseUrl) t.serial u.serial config.flow t.now,?_,
      rfl,rfl⟩⟩
    simp only [setXray,if_true]
    rw [UserStore.get?_createUser,if_pos rfl]

theorem reissue_disturbs (cfg : Settings) (hs : Sound s.toWorld)
    (h : reaches s.toWorld s.now device .reissue=true) :
    ∃ os,Fails (Disturbed device.id s.toWorld) (reissue cfg device) {s with outcomes := os} := by
  simp only [reaches,Bool.and_eq_true,decide_eq_true_eq,Option.any_eq_true,Bool.or_eq_true] at h
  obtain ⟨hproto,server,hserver,hcase⟩ := h
  rcases hcase with hrecord|hcan
  · obtain ⟨r,hr⟩ := Option.isSome_iff_exists.mp hrecord
    obtain ⟨server',p,hserver',hp,hget⟩ := peerRecord_some hr
    rw [hserver] at hserver'
    cases hserver'
    obtain ⟨hmem,hpd,_⟩ := Database.activePeer_mem hp
    have hrd : r.deviceId=device.id := (hs.peerOwner p hmem _ r hget).trans hpd
    have hretire : Fails (Disturbed device.id s.toWorld)
        (withActivePeer device.id (retirePeer server)) {s with outcomes := [.broken]} := by
      have hrun : withActivePeer device.id (retirePeer server) {s with outcomes := [.broken]}=
          retirePeer server p {s with outcomes := [.broken]} := withActivePeer_of hp
      have hd : Fails (Disturbed device.id s.toWorld) (deletePeer p.publicKey server)
          {s with outcomes := [.broken]} :=
        deletePeer_disturbs (s := {s with outcomes := [.broken]}) rfl hget hrd
      exact Fails.of_run hrun hd.bind
    obtain ⟨rest,hrun⟩ := reissue_run (s := {s with outcomes := [.broken]}) cfg hproto hserver
    exact ⟨[.broken],Fails.of_run hrun hretire.bind⟩
  · obtain ⟨os,happears⟩ := reissue_appears (s := s) cfg hproto hserver hcan
    exact ⟨os,happears.mono fun w hw => hw.disturbed hs⟩

theorem handleDevice_disturbs (cfg : Settings) (hs : Sound s.toWorld) {op : DeviceRequest}
    (h : reaches s.toWorld s.now device op=true) :
    ∃ os,Fails (Disturbed device.id s.toWorld) (handleDevice cfg device op)
      {s with outcomes := os} := by
  have hb : upcoming [Outcome.broken]=(.broken,[]) := rfl
  cases op with
  | reissue =>
    obtain ⟨os,hd⟩ := reissue_disturbs cfg hs h
    exact ⟨os,hd.bind⟩
  | disable =>
    have hd := disableTransport_disturbs (s := {s with outcomes := [.broken]}) hs hb h
    exact ⟨[.broken],hd.bind.bind⟩
  | enable =>
    have hd := enableTransport_disturbs (s := {s with outcomes := [.broken]}) hs hb h
    exact ⟨[.broken],hd.bind.bind⟩
  | revoke =>
    have hd := revokeTransport_disturbs (s := {s with outcomes := [.broken]}) hs hb h
    exact ⟨[.broken],hd.bind.bind⟩
  | createOrRotateLink => cases h
  | getLink => cases h
  | revokeLink => cases h
  | getProfile => cases h
  | refreshProfile => cases h

end

/-- The operations on the transport of a device. -/
def DeviceRequest.operates : DeviceRequest → Bool
  | .reissue | .disable | .enable | .revoke => true
  | _ => false

def Request.operates : Request → Bool
  | .createDevice .. => true
  | .device _ _ op => op.operates
  | _ => false

/-- The device a request is about; a new one gets the next number. -/
def Request.subject (w : World) : Request → Id
  | .device _ d _ => d
  | _ => w.serial

section

variable {cfg : Settings} {w : World} {env : Env} {P : World → Prop} {telegramId : Int}

theorem createDevice_fails {name : String} {requested : Option Id} {protocol : VpnProtocol}
    {user : User}
    (huser : (w.db.userByTelegramId telegramId).filter (fun u => u.status=.active)=some user)
    (h : Fails P (provision cfg user name requested protocol) ⟨w,env⟩) :
    Fails P (handle cfg (.createDevice telegramId name requested protocol)) ⟨w,env⟩ := by
  have hu : currentUser telegramId ⟨w,env⟩=(.ok user,⟨w,env⟩) := currentUser_run.mpr ⟨huser,rfl⟩
  exact Fails.of_run (Eff.bind_run_ok hu) h.bind

theorem owned_run {d : Id} {device : Device} {op : DeviceRequest}
    (hown : w.db.owned telegramId d=some device) :
    handle cfg (.device telegramId d op) ⟨w,env⟩=handleDevice cfg device op ⟨w,env⟩ := by
  obtain ⟨user,huser,hdevice⟩ := Option.bind_eq_some_iff.mp hown
  have hu : currentUser telegramId ⟨w,env⟩=(.ok user,⟨w,env⟩) := currentUser_run.mpr ⟨huser,rfl⟩
  have hg : getOwned d user.id ⟨w,env⟩=(.ok device,⟨w,env⟩) :=
    Eff.orRaise_ok.mpr ⟨hdevice,rfl⟩
  exact (Eff.bind_run_ok hu).trans (Eff.bind_run_ok hg)

theorem owned_id {d : Id} {device : Device} (hown : w.db.owned telegramId d=some device) :
    device.id=d := by
  obtain ⟨user,_,hdevice⟩ := Option.bind_eq_some_iff.mp hown
  exact Store.key_of_get? (Option.filter_eq_some_iff.mp hdevice).1

/-- What a failed request leaves but for the database. -/
theorem after_of_fails {r : Request} (h : Fails P (handle cfg r) ⟨w,env⟩) :
    answered cfg w ⟨env,r⟩=false ∧ ∃ w',P w' ∧ after cfg w ⟨env,r⟩={w' with db := w.db} := by
  obtain ⟨e,t,hrun,hP⟩ := h
  obtain ⟨hfailed,hafter⟩ := after_of_error (c := ⟨env,r⟩) hrun
  exact ⟨hfailed,t.toWorld,hP,hafter⟩

end

/-- A request that reaches an agent can fail after the agent has changed what it holds. -/
theorem handle_disturbs (cfg : Settings) {w : World} (hw : Sound w) (now : Time) {r : Request}
    (h : r.reaches w now=true) :
    ∃ os,Fails (Disturbed (r.subject w) w) (handle cfg r)
      ⟨w,{quiet now with outcomes := os}⟩ := by
  cases r with
  | createDevice telegramId name requested protocol =>
    obtain ⟨user,huser,hprov⟩ := (Option.any_eq_true _ _).mp h
    obtain ⟨os,hfails⟩ := provision_appears (s := ⟨w,quiet now⟩) cfg hprov
    exact ⟨os,createDevice_fails huser (hfails.mono fun w' hw' => hw'.disturbed hw)⟩
  | device telegramId d op =>
    obtain ⟨device,hown,hreach⟩ := (Option.any_eq_true _ _).mp h
    obtain ⟨os,hfails⟩ := handleDevice_disturbs (s := ⟨w,quiet now⟩) cfg hw hreach
    rw [owned_id hown] at hfails
    exact ⟨os,Fails.of_run (owned_run hown) hfails⟩
  | billing r => cases h
  | routing r => cases h
  | servers r => cases h
  | listDevices t => cases h
  | fetchSubscription t => cases h
  | sweep t => cases h

/-- However an operation on a device fails, it leaves what the agents hold for that device alone,
if and only if it has no call to make that changes what they hold. -/
theorem failed_operation_iff {cfg : Settings} {w : World} (hw : Reachable cfg w) (now : Time)
    {r : Request} (hr : r.operates=true) :
    (∀ env : Env,env.now=now → answered cfg w ⟨env,r⟩=false →
      KeepsAgents (r.subject w) w (after cfg w ⟨env,r⟩)) ↔ r.reaches w now=false := by
  have hs := reachable_sound hw
  constructor
  · intro hkeeps
    by_contra hreach
    rw [Bool.not_eq_false] at hreach
    obtain ⟨os,hfails⟩ := handle_disturbs cfg hs now hreach
    obtain ⟨hfailed,w',hdisturbed,hafter⟩ := after_of_fails hfails
    have hsame := hkeeps {quiet now with outcomes := os} rfl hfailed
    rw [hafter] at hsame
    exact hdisturbed hsame
  · intro hreach env hnow _
    obtain ⟨x,s,hrun,hvpn,hxray⟩ := after_agents cfg w ⟨env,r⟩
    have hops : (∃ telegramId name requested protocol,
        r=.createDevice telegramId name requested protocol) ∨
          ∃ telegramId d op,r=.device telegramId d op := by
      cases r with
      | createDevice telegramId name requested protocol => exact Or.inl ⟨_,_,_,_,rfl⟩
      | device telegramId d op => exact Or.inr ⟨_,_,_,rfl⟩
      | billing r => cases hr
      | routing r => cases hr
      | servers r => cases hr
      | listDevices t => cases hr
      | fetchSubscription t => cases hr
      | sweep t => cases hr
    have haloof : aloof.rel ⟨w,env⟩ s :=
      (handle_aloof cfg (s := ⟨w,env⟩) hs.consistent hops (by rw [hnow]; exact hreach)).rel_of_run
        hrun
    have hview : (s.vpn,s.xray)=(w.vpn,w.xray) := haloof
    simp only [Prod.mk.injEq] at hview
    exact KeepsAgents.of_same (hvpn.trans hview.1) (hxray.trans hview.2)

theorem failed_operation_iff_opened :
    (∀ env : Env,env.now=3 → answered sampleSettings opened ⟨env,.device 77 11 .enable⟩=false →
      KeepsAgents 11 opened (after sampleSettings opened ⟨env,.device 77 11 .enable⟩)) ↔
      (Request.device 77 11 .enable).reaches opened 3=false :=
  failed_operation_iff opened_reachable 3 (r := .device 77 11 .enable) rfl

/-- A reissue whose second call is refused has deleted the old peer by then. -/
theorem failed_reissue_disconnects : ¬∀ (cfg : Settings) (w : World),Reachable cfg w →
    ∀ c : Call,c.request.operates=true → answered cfg w c=false →
      KeepsAgents (c.request.subject w) w (after cfg w c) := by
  intro h
  let c : Call := ⟨{quiet 3 with outcomes := [.answered,.refused]},.device 77 11 .reissue⟩
  have hkeeps : KeepsAgents 11 opened (after sampleSettings opened c) :=
    h sampleSettings opened opened_reachable c rfl (by decide +kernel)
  have hold : ∃ r∈(opened.vpn "http://agent").rows,r.deviceId=11 := by decide +kernel
  have hnew : ¬∃ r∈((after sampleSettings opened c).vpn "http://agent").rows,r.deviceId=11 := by
    decide +kernel
  obtain ⟨r,hr,hd⟩ := hold
  exact hnew ⟨r,(hkeeps.1 "http://agent" r hd).mpr hr,hd⟩

end VpnService.Backend
