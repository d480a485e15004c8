import VpnService.Backend.Transports
import VpnService.Backend.AddressRace
import VpnService.Backend.Pools
import VpnService.Backend.Profiles
import VpnService.Backend.DomainNames

namespace VpnService.Backend

open Agent

/-- The routing mode a new profile of the user is made in. -/
def Database.modeOf (db : Database) (userId : Id) : RoutingMode :=
  ((db.routingProfileOf userId).map UserRoutingProfile.mode).getD .fullVpn

/-- The AllowedIPs of the next profile of the user, if they can be computed. -/
def nextAllowedIps (db : Database) (env : Env) (userId : Id) : Option (List String) :=
  match db.modeOf userId with
  | .fullVpn => some fullVpnAllowedIps
  | .smartVpn => (env.allowedIps (userDomainRules db userId)).map fun allowed =>
    if allowed=[] then fullVpnAllowedIps else allowed

/-- The config text a reissue of the device hands out. -/
def reissuedConfig (cfg : Settings) (w : World) (env : Env) (device : Device) : Option QrContent :=
  (w.db.serverOf device).bind fun server => (nextAddress server w.db).bind fun ip =>
    (nextAllowedIps w.db env device.userId).map fun allowed =>
      .config w.serial ip server.publicKey server.endpoint allowed cfg.vpnDnsList

section

variable (cfg : Settings) {s : Session}

theorem nextAddress_eq_some {db : Database} {server : VpnServer} {ip : IpAddress} :
    nextAddress server db=some ip ↔ ∃ network,server.internalNetwork.network=some network ∧
      freeAddress network (db.peersOfServer server.id)=some (some ip) := by
  simp only [nextAddress,Option.bind_eq_bind,Option.bind_eq_some_iff,exists_eq_right]

theorem allocateIp_next {server : VpnServer} {ip : IpAddress} (h : nextAddress server s.db=some ip) :
    allocateIp server s=(.ok ip,s) := by
  obtain ⟨network,hn,hfree⟩ := nextAddress_eq_some.mp h
  unfold allocateIp
  rw [hn,Eff.orRaise_some,Eff.pure_bind_run,getDb_bind_run,hfree]
  rfl

/-- Where an address is free and all is answered, the first attempt makes the peer. -/
theorem createPeerAttempts_completes (d : Id) {server : VpnServer} {ip : IpAddress} (n : Nat)
    (ho : s.outcomes=[]) (hkeys : ∀ p∈s.db.vpnPeers.rows,p.publicKey<s.serial)
    (h : nextAddress server s.db=some ip) : ∃ p t,createPeerAttempts cfg d server (n+1) s=
      (.ok (⟨s.serial,s.serial,ip,server.publicKey,server.endpoint,cfg.vpnDnsList⟩,p),t) ∧
      t.outcomes=[] ∧ t.allowedIps=s.allowedIps ∧ t.qrFits=s.qrFits ∧
      t.db={s.db with vpnPeers := t.db.vpnPeers} := by
  have hnext : upcoming s.outcomes=(.answered,[]) := by rw [ho]; rfl
  obtain ⟨network,_,hfree⟩ := nextAddress_eq_some.mp h
  have hcreate : createPeer cfg d server ip s=
      (.ok ⟨s.serial,s.serial,ip,server.publicKey,server.endpoint,cfg.vpnDnsList⟩,
        setVpn server.agentBaseUrl
          (PeerStore.createPeer s.serial d ip s.now (s.vpn server.agentBaseUrl))
          {s with
            serial := s.serial+1
            outcomes := []}) := by
    unfold createPeer
    rw [getNow_bind_run,nextSerial_bind_run]
    exact Eff.bind_run_ok (vpnRequest_answered (s := {s with serial := s.serial+1}) hnext rfl)
  have hclash : peerClash s.db ⟨s.serial+1,d,server.id,s.serial,ip,.active⟩=false := by
    refine peerClash_eq_false.mpr fun q hq => ⟨fun he => ?_,(hkeys q hq).ne⟩
    refine freeAddress_fresh hfree q ?_ he.2
    simp only [Database.peersOfServer,List.mem_filter,decide_eq_true_eq]
    exact ⟨hq,he.1⟩
  unfold createPeerAttempts
  rw [Eff.bind_run_ok (allocateIp_next h),Eff.bind_run_ok hcreate,nextSerial_bind_run,
    Eff.bind_run_ok (flush_calm rfl),Eff.bind_run_ok (flush_calm rfl),getDb_bind_run]
  split_ifs with htaken
  · exact absurd (hclash.symm.trans htaken) Bool.false_ne_true
  · exact ⟨_,_,rfl,rfl,rfl,rfl,rfl⟩

theorem getOrCreateUserProfile_completes (userId : Id) (ho : s.outcomes=[]) :
    ∃ profile t,getOrCreateUserProfile userId s=(.ok profile,t) ∧
      profile.mode=s.db.modeOf userId ∧ t.outcomes=[] ∧ t.allowedIps=s.allowedIps ∧
      t.qrFits=s.qrFits ∧ userDomainRules t.db userId=userDomainRules s.db userId ∧
      t.db.vpnProfiles=s.db.vpnProfiles := by
  unfold getOrCreateUserProfile Database.modeOf
  rw [getDb_bind_run]
  cases s.db.routingProfileOf userId with
  | some profile => exact ⟨profile,s,rfl,rfl,ho,rfl,rfl,rfl,rfl⟩
  | none =>
    refine ⟨⟨s.serial,userId,.fullVpn⟩,_,Eff.bind_run_ok (flush_calm ?_),rfl,?_,rfl,rfl,rfl,rfl⟩
    · exact ho
    · exact ho

/-- Where the AllowedIPs can be computed and all is answered, a profile is made of them. -/
theorem regenerateProfile_completes (deviceId : Id) {userId : Id} {allowed : List String}
    (hone : OneCurrent s.db) (ho : s.outcomes=[])
    (h : nextAllowedIps s.db s.toEnv userId=some allowed) :
    ∃ p t,regenerateProfile cfg deviceId userId s=(.ok p,t) ∧ p.allowedIps=allowed ∧
      p.dns=cfg.vpnDnsList ∧ t.outcomes=[] ∧ t.qrFits=s.qrFits := by
  obtain ⟨profile,u,hu,hmode,huo,hips,hfits,hrules,hprofiles⟩ :=
    getOrCreateUserProfile_completes userId ho
  have hallowed : profileAllowedIps userId profile.mode u=(.ok allowed,u) := by
    rw [hmode]
    unfold nextAllowedIps at h
    cases hm : s.db.modeOf userId with
    | fullVpn =>
      rw [hm] at h
      cases h
      rfl
    | smartVpn =>
      rw [hm] at h
      obtain ⟨answer,hanswer,he⟩ := Option.map_eq_some_iff.mp h
      have hengine : u.allowedIps (userDomainRules u.db userId)=some answer := by
        rw [hips,hrules]
        exact hanswer
      rw [profileAllowedIps_answer hengine,Eff.orRaise_some,Eff.pure_bind_run,he]
      rfl
  have hcurrent : ∃ current,currentProfile (u.db.currentProfiles deviceId) u=(.ok current,u) := by
    have hsame : u.db.currentProfiles deviceId=s.db.currentProfiles deviceId := by
      unfold Database.currentProfiles
      rw [hprofiles]
    rw [hsame]
    rcases hone.currentProfiles deviceId with hnone|⟨p,hp⟩
    · rw [hnone]
      exact ⟨none,rfl⟩
    · rw [hp]
      exact ⟨some p,rfl⟩
  obtain ⟨current,hcurrent⟩ := hcurrent
  unfold regenerateProfile
  rw [Eff.bind_run_ok hu,Eff.bind_run_ok hallowed,getDb_bind_run,Eff.bind_run_ok hcurrent]
  refine ⟨_,_,Eff.bind_run_ok (flush_calm ?_),rfl,rfl,?_,?_⟩
  · exact huo
  · exact huo
  · exact hfits

theorem nextAddress_retired (db : Database) (server : VpnServer) (k : Id) :
    nextAddress server {db with
      vpnPeers := db.vpnPeers.modify k (fun q => {q with status := .revoked}) fun _ => rfl}=
      nextAddress server db := by
  unfold nextAddress
  cases server.internalNetwork.network with
  | none => rfl
  | some network =>
    simp only [Option.bind_eq_bind,Option.bind_some,
      freeAddress_ips network _ _ (peersOfServer_retired db server.id k)]

/-- Where the config of the device can be made and drawn and all is answered, a reissue is carried
through. -/
theorem reissue_completes {device : Device} {content : QrContent} (hs : Sound s.toWorld)
    (hone : OneCurrent s.db) (ho : s.outcomes=[]) (hproto : device.protocol=.wireguard)
    (h : reissuedConfig cfg s.toWorld s.toEnv device=some content)
    (hfits : s.qrFits content=true) :
    ∃ r t,reissue cfg device s=(.ok r,t) ∧ t.outcomes=[] := by
  obtain ⟨server,hserver,h⟩ := Option.bind_eq_some_iff.mp h
  obtain ⟨ip,hip,h⟩ := Option.bind_eq_some_iff.mp h
  obtain ⟨allowed,hallowed,hcontent⟩ := Option.map_eq_some_iff.mp h
  have hretire : ∃ u,withActivePeer device.id (retirePeer server) s=(.ok (),u) ∧ u.outcomes=[] ∧
      u.serial=s.serial ∧ u.allowedIps=s.allowedIps ∧ u.qrFits=s.qrFits ∧
      u.db={s.db with vpnPeers := u.db.vpnPeers} ∧
      (∀ q∈u.db.vpnPeers.rows,q.publicKey<u.serial) ∧ nextAddress server u.db=some ip := by
    have hkeys : ∀ q∈s.db.vpnPeers.rows,q.publicKey<s.serial :=
      fun q hq => (hs.consistent.peerNumbers q hq).2
    cases hp : s.db.activePeer device.id with
    | none => exact ⟨s,withActivePeer_none hp,ho,rfl,rfl,rfl,rfl,hkeys,hip⟩
    | some p =>
      have hnext : upcoming s.outcomes=(.answered,[]) := by rw [ho]; rfl
      have hcall : deletePeer p.publicKey server s=(.ok (),setVpn server.agentBaseUrl
          (PeerStore.deletePeer p.publicKey (s.vpn server.agentBaseUrl))
          {s with outcomes := []}) := vpnRequest_answered hnext rfl
      refine ⟨_,(withActivePeer_of hp).trans (Eff.bind_run_ok hcall),rfl,rfl,rfl,rfl,rfl,?_,?_⟩
      · intro q hq
        have hkey : ∀ x : VpnPeer,({x with status := .revoked} : VpnPeer).id=x.id := fun _ => rfl
        rcases (Store.mem_modify hkey).mp hq with ⟨y,hy,_,he⟩|⟨hq,_⟩
        · rw [he]
          exact hkeys y hy
        · exact hkeys q hq
      · exact (nextAddress_retired s.db server p.id).trans hip
  obtain ⟨u,hu,huo,huserial,huips,hufits,hudb,hukeys,huip⟩ := hretire
  obtain ⟨p,v,hv,hvo,hvips,hvfits,hvdb⟩ :=
    createPeerAttempts_completes cfg device.id 4 huo hukeys huip
  have hdb : v.db={s.db with vpnPeers := v.db.vpnPeers} := by rw [hvdb,hudb]
  have hupdate : ∃ x,updateDevice device.id (fun d =>
      {d with
        publicKey := some p.publicKey
        assignedIp := some p.assignedIp}) (fun _ => rfl) v=(.ok (),x) ∧ x.outcomes=[] ∧
      x.qrFits=s.qrFits ∧ OneCurrent x.db ∧
      nextAllowedIps x.db x.toEnv device.userId=some allowed := by
    have hvone : OneCurrent v.db := by
      rw [hdb]
      exact hone
    have hvallowed : nextAllowedIps v.db v.toEnv device.userId=some allowed := by
      have hips : v.toEnv.allowedIps=s.toEnv.allowedIps := hvips.trans huips
      rw [hdb]
      unfold nextAllowedIps at hallowed ⊢
      rw [hips]
      exact hallowed
    exact ⟨_,rfl,hvo,hvfits.trans hufits,hvone,hvallowed⟩
  obtain ⟨x,hx,hxo,hxfits,hxone,hxallowed⟩ := hupdate
  obtain ⟨profile,y,hy,hyips,hydns,hyo,hyfits⟩ :=
    regenerateProfile_completes cfg device.id hxone hxo hxallowed
  have hqr : generateQrCode (clientConfig cfg
      ⟨u.serial,u.serial,ip,server.publicKey,server.endpoint,cfg.vpnDnsList⟩ profile) y=
        (.ok content,y) := by
    have hsame : clientConfig cfg
        ⟨u.serial,u.serial,ip,server.publicKey,server.endpoint,cfg.vpnDnsList⟩ profile=content := by
      unfold clientConfig
      rw [hydns,hyips,ite_self,huserial,← hcontent]
    have hok : y.qrFits content=true := by
      rw [hyfits,hxfits]
      exact hfits
    unfold generateQrCode
    rw [hsame,Eff.reads_bind_run,hok]
    rfl
  refine ⟨⟨(y.db.devices.get? device.id).getD device,some content,none⟩,y,?_,hyo⟩
  have hnot : device.protocol≠.vless := by
    rw [hproto]
    decide
  unfold reissue
  rw [Eff.bind_run_ok (Eff.require_ok.mpr ⟨hnot,rfl⟩),Eff.bind_run_ok (serverOfDevice_of hserver),
    Eff.bind_run_ok hu]
  exact (Eff.bind_run_ok hv).trans ((Eff.bind_run_ok hx).trans ((Eff.bind_run_ok hy).trans
    (Eff.bind_run_ok hqr)))

end

/-- Either the computation completes, with all later calls answered too, or it fails before it has
changed what an agent has. -/
def Clean {α : Type} (m : Req α) (s : Session) : Prop :=
  (∃ a t,m s=(.ok a,t) ∧ t.outcomes=[]) ∨ ∃ e t,m s=(.error e,t) ∧ t.vpn=s.vpn ∧ t.xray=s.xray

namespace Clean

variable {α β : Type} {m : Req α} {f : α → Req β} {s : Session}

theorem of_ok {a : α} {t : Session} (h : m s=(.ok a,t)) (ho : t.outcomes=[]) : Clean m s :=
  Or.inl ⟨a,t,h,ho⟩

/-- What comes after the calls completes. -/
theorem bind (h : Clean m s) (hf : ∀ a t,m s=(.ok a,t) → t.outcomes=[] →
    ∃ b u,f a t=(.ok b,u) ∧ u.outcomes=[]) : Clean (m >>= f) s := by
  rcases h with ⟨a,t,hm,ho⟩|⟨e,t,hm,hv,hx⟩
  · obtain ⟨b,u,hu,huo⟩ := hf a t hm ho
    exact Or.inl ⟨b,u,(Eff.bind_run_ok hm).trans hu,huo⟩
  · exact Or.inr ⟨e,t,Eff.bind_run_error hm,hv,hx⟩

/-- What comes before the calls only reads. -/
theorem still_bind (h : WithinAt Frame.still m s) (hf : ∀ a,m s=(.ok a,s) → Clean (f a) s) :
    Clean (m >>= f) s := by
  cases hm : m s with
  | mk r t =>
    have hts : t=s := h.still_run hm
    subst hts
    cases r with
    | error e => exact Or.inr ⟨e,t,Eff.bind_run_error hm,rfl,rfl⟩
    | ok a =>
      have hrun : (m >>= f) t=f a t := Eff.bind_run_ok hm
      rcases hf a hm with ⟨b,u,hu,huo⟩|⟨e,u,hu,hv,hx⟩
      · exact Or.inl ⟨b,u,hrun.trans hu,huo⟩
      · exact Or.inr ⟨e,u,hrun.trans hu,hv,hx⟩

/-- A loop of at most one round. -/
theorem each {γ : Type} {g : γ → Req Unit} {xs : List γ} (ho : s.outcomes=[])
    (hone : ∀ x∈xs,xs=[x]) (h : ∀ x∈xs,Clean (g x) s) : Clean (Eff.each g xs) s := by
  cases xs with
  | nil => exact of_ok rfl ho
  | cons x xs =>
    rw [hone x List.mem_cons_self]
    exact (h x List.mem_cons_self).bind fun _ t _ ht => ⟨(),t,rfl,ht⟩

theorem vpnRequest (server : VpnServer) (op : IpPeerStore → Option IpPeerStore)
    (ho : s.outcomes=[]) : Clean (vpnRequest server op) s := by
  have hnext : upcoming s.outcomes=(.answered,[]) := by rw [ho]; rfl
  cases hop : op (s.vpn server.agentBaseUrl) with
  | some store => exact of_ok (vpnRequest_answered hnext hop) rfl
  | none =>
    refine Or.inr ⟨vpnAgentUnreachable server,{s with outcomes := []},?_,rfl,rfl⟩
    unfold Backend.vpnRequest
    rw [Eff.bind_run_ok (nextOutcome_of hnext),Eff.reads_bind_run]
    simp only [hop]
    rfl

theorem xrayRequest (baseUrl : String) (op : UserStore → UserStore) (ho : s.outcomes=[]) :
    Clean (xrayRequest baseUrl op) s := by
  have hnext : upcoming s.outcomes=(.answered,[]) := by rw [ho]; rfl
  exact of_ok (xrayRequest_answered hnext) rfl

theorem withActivePeer {d : Id} {f : VpnPeer → Req Unit} (ho : s.outcomes=[])
    (h : ∀ p,Clean (f p) s) : Clean (withActivePeer d f) s := by
  cases hp : s.db.activePeer d with
  | none => exact of_ok (withActivePeer_none hp) ho
  | some p =>
    rcases h p with ⟨a,t,ht,hto⟩|⟨e,t,ht,hv,hx⟩
    · exact Or.inl ⟨a,t,(withActivePeer_of hp).trans ht,hto⟩
    · exact Or.inr ⟨e,t,(withActivePeer_of hp).trans ht,hv,hx⟩

end Clean

section

variable {n : Int} {s : Session} {device : Device}

theorem removeCredentialFromXray_clean (c : VlessCredential) (ho : s.outcomes=[]) :
    Clean (removeCredentialFromXray c) s := by
  refine Clean.still_bind (configForCredential_within c s) fun config _ => ?_
  cases config with
  | none => exact Clean.of_ok rfl ho
  | some config => exact Clean.xrayRequest _ _ ho

theorem disable_clean (hs : Consistent n s.db) (ho : s.outcomes=[]) : Clean (disable device) s := by
  refine Clean.bind ?_ fun _ t _ ht => ⟨(),_,rfl,ht⟩
  unfold disableTransport
  cases device.protocol with
  | vless =>
    exact Clean.each ho (fun _ hc => activeCredentials_lone hs hc) fun c _ =>
      (removeCredentialFromXray_clean c ho).bind fun _ t _ ht => ⟨(),_,rfl,ht⟩
  | wireguard =>
    exact Clean.still_bind (serverOfDevice_within device s) fun server _ =>
      Clean.withActivePeer ho fun p => Clean.vpnRequest server _ ho

theorem enable_clean (hs : Consistent n s.db) (ho : s.outcomes=[]) : Clean (enable device) s := by
  refine Clean.bind ?_ fun _ t _ ht => ⟨(),_,rfl,ht⟩
  unfold enableTransport
  cases device.protocol with
  | vless =>
    refine Clean.each ho (fun c hc => ?_) fun c hc => ?_
    · obtain ⟨hmem,hcd⟩ := (s.db.mem_credentialsOf).mp hc
      rw [← hcd]
      exact mem_singleton_of_lone hs hmem
    · unfold enableCredential
      split_ifs
      · refine Clean.still_bind (configForCredential_within c s) fun config _ => ?_
        cases config with
        | none => exact Clean.of_ok rfl ho
        | some config =>
          refine Clean.still_bind (getNow_within s) fun now _ => ?_
          exact (Clean.xrayRequest _ _ ho).bind fun _ t _ ht => ⟨(),_,rfl,ht⟩
      · exact Clean.of_ok rfl ho
  | wireguard =>
    exact Clean.still_bind (serverOfDevice_within device s) fun server _ =>
      Clean.withActivePeer ho fun p => Clean.vpnRequest server _ ho

theorem revoke_clean (hs : Consistent n s.db) (ho : s.outcomes=[]) : Clean (revoke device) s := by
  refine Clean.bind ?_ fun _ t _ ht => ⟨(),_,rfl,ht⟩
  unfold revokeTransport
  cases device.protocol with
  | vless =>
    refine Clean.each ho (fun _ hc => activeCredentials_lone hs hc) fun c hc => ?_
    refine (removeCredentialFromXray_clean c ho).bind fun _ t ht hto => ?_
    obtain ⟨server,hserver⟩ := Option.isSome_iff_exists.mp
      (hs.credentialServers c ((s.db.mem_activeCredentials).mp hc).1)
    have hget : ∀ u : Session,u.db.vpnServers=t.db.vpnServers →
        getServer c.serverId u=(.ok server,u) := by
      intro u hu
      unfold getServer
      rw [getDb_bind_run,hu,removeCredentialFromXray_ok ht,hserver]
      rfl
    rw [getNow_bind_run]
    exact ⟨(),_,(Eff.bind_run_ok rfl).trans (Eff.bind_run_ok (hget _ rfl)),hto⟩
  | wireguard =>
    unfold revokePeer
    cases device.serverId with
    | none => exact Clean.of_ok rfl ho
    | some k =>
      refine Clean.still_bind (getServer_within k s) fun server _ => ?_
      refine Clean.withActivePeer ho fun p => ?_
      have hretire : Clean (retirePeer server p) s :=
        (Clean.vpnRequest server _ ho).bind fun _ t _ ht => ⟨(),_,rfl,ht⟩
      exact hretire.bind fun _ t _ ht => ⟨(),_,rfl,ht⟩

end

end VpnService.Backend
