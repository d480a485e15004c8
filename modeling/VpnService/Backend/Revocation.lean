import VpnService.Backend.Soundness

namespace VpnService.Backend

open Agent

/-- Device `d` is revoked and has no active transport. -/
structure Shut (d : Id) (db : Database) : Prop where
  status : ∃ row,db.devices.get? d=some row ∧ row.status=.revoked
  peers : ∀ p∈db.vpnPeers.rows,p.deviceId=d → p.status≠.active
  credentials : ∀ c∈db.vlessCredentials.rows,c.deviceId=d → c.status≠.active

def DeliveredConfig.device : DeliveredConfig → Device
  | .wireguard device _ _ _ => device
  | .vless device _ => device

/-- No token is answered with a config of device `d`. -/
def Undelivered (cfg : Settings) (d : Id) (w : World) : Prop :=
  ∀ env token config w',
    serve cfg env (.fetchSubscription token) w=(.ok (.config config),w') → config.device.id≠d

/-- What is to hold of device `d` once it is revoked. -/
def RevokedForGood (cfg : Settings) (d : Id) (w : World) : Prop :=
  Shut d w.db ∧ Undelivered cfg d w

theorem authorize_ok {token : Secret} {s t : Session} {device : Device}
    (h : authorize token s=(.ok device,t)) :
    s.db.devices.get? device.id=some device ∧ device.status=.active ∧
      coveredAt s.db s.now device.userId := by
  obtain ⟨resolved,u,hu,h⟩ := Eff.bind_ok.mp h
  have hsu : s=u := by
    unfold resolveToken at hu
    split_ifs at hu
    · cases hu
      rfl
    · cases hu
      rfl
  subst hsu
  obtain ⟨link,_,h⟩ := Eff.orRaise_bind_ok.mp h
  rw [getDb_bind_run] at h
  obtain ⟨d,hd,h⟩ := Eff.orRaise_bind_ok.mp h
  rw [getNow_bind_run] at h
  obtain ⟨hcov,h⟩ := Eff.require_bind_ok.mp h
  obtain ⟨_,v,_,h⟩ := Eff.bind_ok.mp h
  cases h
  obtain ⟨hget,hact⟩ := Option.filter_eq_some_iff.mp hd
  have hid : device.id=link.deviceId := Store.key_of_get? hget
  exact ⟨by rw [hid]; exact hget,by simpa using hact,hcov⟩

/-- A delivered config is one of an active device. -/
theorem deliver_active {token : Secret} {s t : Session} {config : DeliveredConfig}
    (h : deliver token s=(.ok config,t)) :
    s.db.devices.get? config.device.id=some config.device ∧ config.device.status=.active := by
  obtain ⟨device,u,hu,h⟩ := Eff.bind_ok.mp h
  obtain ⟨hget,hact,_⟩ := authorize_ok hu
  cases hproto : device.protocol with
  | vless =>
    simp only [hproto] at h
    obtain ⟨_,h⟩ := Eff.require_bind_ok.mp h
    cases h
    exact ⟨hget,hact⟩
  | wireguard =>
    simp only [hproto] at h
    rw [getDb_bind_run] at h
    obtain ⟨peer,_,h⟩ := Eff.orRaise_bind_ok.mp h
    obtain ⟨server,_,h⟩ := Eff.orRaise_bind_ok.mp h
    obtain ⟨profile,v,_,h⟩ := Eff.bind_ok.mp h
    cases h
    exact ⟨hget,hact⟩

theorem Shut.undelivered {cfg : Settings} {d : Id} {w : World} (h : Shut d w.db) :
    Undelivered cfg d w := by
  intro env token config w' hserve hid
  obtain ⟨s,os,hm,_⟩ := transaction_ok hserve
  obtain ⟨c,u,hu,hm⟩ := Eff.bind_ok.mp hm
  cases hm
  obtain ⟨hget,hact⟩ := deliver_active hu
  obtain ⟨row,hrow,hrev⟩ := h.status
  have hget' : w.db.devices.get? d=some config.device := hid ▸ hget
  rw [hrow] at hget'
  cases hget'
  rw [hrev] at hact
  cases hact

/-- The frame of what keeps device `d` shut. -/
def shutting (d : Id) : Frame Session := Frame.preserving fun s => Shut d s.db

section

variable {d : Id}

theorem shut_of_hardware {s t : Session} (h : hardwareFrame.rel s t) : (shutting d).rel s t := by
  have hview := h.1
  simp only [hardwareView,Prod.mk.injEq] at hview
  obtain ⟨_,_,hd,hp,hc,_,_⟩ := hview
  intro hs
  exact ⟨hd ▸ hs.status,hp ▸ hs.peers,hc ▸ hs.credentials⟩

theorem shutting_books : Bookkeeping (shutting d) := ⟨fun _ => id,fun _ _ => id⟩

theorem vpnRequest_shutting (server : VpnServer) (op : IpPeerStore → Option IpPeerStore) :
    Within (shutting d) (vpnRequest server op) :=
  vpnRequest_within shutting_books fun _ _ _ => id

theorem setDeviceStatus_shutting {k : Id} {status : DeviceStatus} (h : k≠d ∨ status=.revoked) :
    Within (shutting d) (setDeviceStatus k status) := by
  unfold setDeviceStatus updateDevice
  refine alter_within fun s hs => ⟨?_,hs.peers,hs.credentials⟩
  obtain ⟨row,hrow,hrev⟩ := hs.status
  rw [Store.get?_modify]
  by_cases hk : d=k
  · rw [if_pos hk,hrow]
    rcases h with hne|hst
    · exact absurd hk.symm hne
    · exact ⟨_,rfl,hst⟩
  · rw [if_neg hk]
    exact ⟨row,hrow,hrev⟩

theorem setCredentialStatus_shutting (k : Id) {f : VlessCredential → VlessCredential}
    (hf : ∀ c,(f c).id=c.id) (h : ∀ c,(f c).deviceId=c.deviceId ∧ (f c).status≠.active) :
    Within (shutting d) (setCredentialStatus k f hf) := by
  unfold setCredentialStatus
  refine alter_within fun s hs => ⟨hs.status,hs.peers,fun c hc hcd => ?_⟩
  rcases (Store.mem_modify hf).mp hc with ⟨x,_,_,he⟩|⟨hc,_⟩
  · rw [he]
    exact (h x).2
  · exact hs.credentials c hc hcd

theorem revokePeerRow_shutting (k : Id) : Within (shutting d) (setPeerStatus k .revoked) := by
  unfold setPeerStatus
  refine alter_within fun s hs => ⟨hs.status,fun p hp hpd => ?_,hs.credentials⟩
  have hkey : ∀ r : VpnPeer,({r with status := .revoked} : VpnPeer).id=r.id := fun _ => rfl
  rcases (Store.mem_modify hkey).mp hp with ⟨q,_,_,he⟩|⟨hp,_⟩
  · rw [he]
    intro hact
    cases hact
  · exact hs.peers p hp hpd

theorem removeCredentialFromXray_shutting (c : VlessCredential) :
    Within (shutting d) (removeCredentialFromXray c) := by
  refine (configForCredential_within c).bind fun config => ?_
  cases config with
  | none => exact Within.pure _
  | some config => exact xrayRequest_within shutting_books fun _ => id

/-- Disabling any other device keeps `d` shut. -/
theorem disable_shutting {device : Device} (hne : device.id≠d) :
    Within (shutting d) (disable device) := by
  refine Within.bind ?_ fun _ => setDeviceStatus_shutting (Or.inl hne)
  unfold disableTransport
  cases device.protocol with
  | vless =>
    refine getDb_within.bind fun _ => Within.each fun c _ => ?_
    refine (removeCredentialFromXray_shutting c).bind fun _ => ?_
    exact setCredentialStatus_shutting _ _ fun _ => ⟨rfl,by simp⟩
  | wireguard =>
    exact (serverOfDevice_within device).bind fun server => withActivePeer_within _ fun p =>
      vpnRequest_shutting server _

theorem dropLoad_shutting (serverId : Id) : Within (shutting d) (dropLoad serverId) :=
  alter_within fun _ hs => ⟨hs.status,hs.peers,hs.credentials⟩

/-- Revoking a device, be it `d` again, keeps `d` shut. -/
theorem revoke_shutting (device : Device) : Within (shutting d) (revoke device) := by
  refine Within.bind ?_ fun _ => setDeviceStatus_shutting (Or.inr rfl)
  unfold revokeTransport
  cases device.protocol with
  | vless =>
    refine getDb_within.bind fun _ => Within.each fun c _ => ?_
    refine (removeCredentialFromXray_shutting c).bind fun _ => getNow_within.bind fun _ => ?_
    refine Within.bind ?_ fun _ => (getServer_within _).bind fun x => dropLoad_shutting x.id
    exact setCredentialStatus_shutting _ _ fun _ => ⟨rfl,by simp⟩
  | wireguard =>
    unfold revokePeer
    cases device.serverId with
    | none => exact Within.pure _
    | some serverId =>
      refine (getServer_within serverId).bind fun server => withActivePeer_within _ fun p => ?_
      refine Within.bind ?_ fun _ => dropLoad_shutting server.id
      exact (vpnRequest_shutting _ _).bind fun _ => revokePeerRow_shutting p.id

theorem processOne_shutting (subscription : Subscription) :
    Within (shutting d) (processOne subscription) := by
  refine getDb_within.bind fun _ => (Within.orRaise _ _).bind fun _ => (Within.orRaise _ _).bind
    fun _ => ?_
  refine Within.bind (alter_within fun _ hs => ⟨hs.status,hs.peers,hs.credentials⟩) fun _ => ?_
  refine Within.bind (fun s hs => ?_) fun _ => ?_
  · -- the loop of `disable_all_for_user` does not see a revoked device
    refine (?_ : WithinAt (shutting d) (disableAllForUser subscription.userId) s) hs
    refine WithinAt.reads_bind (Within.each (fun x hx => ?_) s)
    have hmem := s.db.mem_devicesOf.mp hx
    refine Within.ite (disable_shutting fun he => ?_) (Within.pure _)
    obtain ⟨row,hrow,hrev⟩ := hs.status
    have hget := s.db.devices.get?_of_mem hmem.1
    rw [he,hrow] at hget
    cases hget
    exact hmem.2.2 hrev
  · refine Within.bind ((audit_core _ _ _ _ _).mono fun hc => ?_) fun _ => Within.change fun _ => id
    exact shut_of_hardware (hardware_of_core hc)

theorem runOnce_shutting (asOf : Option Time) : Within (shutting d) (runOnce asOf) :=
  getNow_within.bind fun _ => getDb_within.bind fun _ =>
    Within.bind (Within.each fun x _ => processOne_shutting x) fun _ => Within.pure _

/-- What an operation on another device leaves of `d`. -/
theorem Shut.of_touched {k : Id} {a b : Database} (h : Shut d a) (hb : DbTouched k a b)
    (hne : d≠k) : Shut d b where
  status := by
    rw [hb.devices d hne]
    exact h.status
  peers p hp hpd := by
    have hpk : p.deviceId≠k := by
      rw [hpd]
      exact hne
    exact h.peers p ((hb.peers p hpk).mp hp) hpd
  credentials c hc hcd := by
    have hck : c.deviceId≠k := by
      rw [hcd]
      exact hne
    exact h.credentials c ((hb.credentials c hck).mp hc) hcd

end

/-- Whether `allocate_ip` finds an address on the server. -/
def canAllocate (db : Database) (server : VpnServer) : Bool :=
  match server.internalNetwork.network with
  | none => false
  | some network => match freeAddress network (db.peersOfServer server.id) with
    | some (some _) => true
    | _ => false

theorem canAllocate_of_ok {server : VpnServer} {s t : Session} {ip : IpAddress}
    (h : allocateIp server s=(.ok ip,t)) : canAllocate s.db server := by
  obtain ⟨_,network,hn,hfree⟩ := allocateIp_ok h
  unfold canAllocate
  rw [hn]
  simp only [hfree]

/-- The requests on a revoked device that its status does not stop: `disable` and `enable` of a
device that still has a server, `reissue` where an address is free. -/
def overridesRevocation (db : Database) (device : Device) : DeviceRequest → Bool
  | .disable | .enable =>
    device.protocol=.vless || (device.serverId.bind db.vpnServers.get?).isSome
  | .reissue => device.protocol=.wireguard && match device.serverId.bind db.vpnServers.get? with
    | none => false
    | some server => canAllocate db server
  | _ => false

/-- The owner makes such a request on device `d`. -/
def reopens (d : Id) (db : Database) : Request → Bool
  | .device telegramId deviceId r => match db.userByTelegramId telegramId,db.devices.get? d with
    | some user,some device => deviceId=d && user.status=.active && device.userId=user.id &&
      overridesRevocation db device r
    | _,_ => false
  | _ => false

theorem serverOfDevice_fails {device : Device} {s : Session}
    (h : (device.serverId.bind s.db.vpnServers.get?).isSome=false) {server : VpnServer}
    {t : Session} : serverOfDevice device s≠(.ok server,t) := by
  intro hrun
  obtain ⟨_,hserver,hget⟩ := serverOfDevice_ok hrun
  rw [hserver] at h
  simp [hget] at h

/-- On a shut device the other requests on transports fail. -/
theorem handleDevice_fails {cfg : Settings} {device : Device} {r : DeviceRequest}
    {s t : Session} {a : Response} (hs : Shut device.id s.db)
    (hr : r=.disable ∨ r=.enable ∨ r=.reissue)
    (hover : overridesRevocation s.db device r=false) : handleDevice cfg device r s≠(.ok a,t) := by
  intro hrun
  rcases hr with hr|hr|hr
  · subst hr
    simp only [overridesRevocation,Bool.or_eq_false_iff,decide_eq_false_iff_not] at hover
    have hproto : device.protocol=.wireguard := by
      cases hp : device.protocol with
      | wireguard => rfl
      | vless => exact absurd hp hover.1
    obtain ⟨_,u,hu,_⟩ := Eff.bind_ok.mp hrun
    obtain ⟨_,v,hv,_⟩ := Eff.bind_ok.mp hu
    rw [disableTransport,hproto] at hv
    obtain ⟨server,w,hw,_⟩ := Eff.bind_ok.mp hv
    exact serverOfDevice_fails hover.2 hw
  · subst hr
    simp only [overridesRevocation,Bool.or_eq_false_iff,decide_eq_false_iff_not] at hover
    have hproto : device.protocol=.wireguard := by
      cases hp : device.protocol with
      | wireguard => rfl
      | vless => exact absurd hp hover.1
    obtain ⟨_,u,hu,_⟩ := Eff.bind_ok.mp hrun
    obtain ⟨_,v,hv,_⟩ := Eff.bind_ok.mp hu
    rw [enableTransport,hproto] at hv
    obtain ⟨server,w,hw,_⟩ := Eff.bind_ok.mp hv
    exact serverOfDevice_fails hover.2 hw
  · subst hr
    obtain ⟨result,u,hu,_⟩ := Eff.bind_ok.mp hrun
    obtain ⟨hproto,hu⟩ := Eff.require_bind_ok.mp hu
    obtain ⟨server,v,hv,hu⟩ := Eff.bind_ok.mp hu
    obtain ⟨hsv,hserver,hget⟩ := serverOfDevice_ok hv
    subst hsv
    obtain ⟨_,v,hv,hu⟩ := Eff.bind_ok.mp hu
    have hnone : s.db.activePeer device.id=none := Database.activePeer_eq_none.mpr hs.peers
    rcases retireActive_ok hv with ⟨_,hvs⟩|⟨p,_,hp,_⟩
    · rw [hvs] at hu
      obtain ⟨created,x,hx,_⟩ := Eff.bind_ok.mp hu
      have hx' : createPeerAttempts cfg device.id server (4+1) s=(.ok created,x) := hx
      obtain ⟨ip,y,hy,_⟩ := Eff.bind_ok.mp hx'
      have hcan := canAllocate_of_ok hy
      have hwg : device.protocol=.wireguard := by
        cases hp : device.protocol with
        | wireguard => rfl
        | vless => exact absurd hp hproto
      simp [overridesRevocation,hserver,hget,hcan,hwg] at hover
    · rw [hnone] at hp
      cases hp

/-- No committed request but an owner's override opens a shut device again. -/
theorem handle_shut {cfg : Settings} {d : Id} {r : Request} {s t : Session} {a : Response}
    (hsound : Sound s.toWorld) (h : Shut d s.db) (hr : reopens d s.db r=false)
    (hrun : handle cfg r s=(.ok a,t)) : Shut d t.db := by
  have hhard : Within hardwareFrame (handle cfg r) → Shut d t.db := fun hw =>
    shut_of_hardware ((hw s).rel_of_run hrun) h
  cases r with
  | billing r => exact hhard ((handleBilling_fleet cfg r).mono hardware_of_fleet)
  | routing r => exact hhard ((handleRouting_core _ r).mono hardware_of_core)
  | servers r =>
    have hadm := (handleServers_administering r s).rel_of_run hrun
    refine ⟨?_,fun p hp => h.peers p (hadm.peers p hp),fun c hc => h.credentials c
      (hadm.credentials c hc)⟩
    obtain ⟨row,hrow,hrev⟩ := h.status
    have hd := hadm.devices d
    rw [hrow] at hd
    obtain ⟨row',hrow',he⟩ := Option.map_eq_some_iff.mp hd
    simp only [Device.core,Prod.mk.injEq] at he
    exact ⟨row',hrow',he.2.1.trans hrev⟩
  | listDevices telegramId =>
    apply hhard
    exact (currentUser_within telegramId).bind fun _ => getDb_within.bind fun _ => Within.pure _
  | createDevice telegramId name serverId protocol =>
    rcases handleCreateDevice_run cfg telegramId name serverId protocol s with
      ⟨e,he⟩|⟨user,_,he⟩
    · rw [handle,he] at hrun
      cases hrun
    · rw [handle,he] at hrun
      obtain ⟨result,u,hu,hrun⟩ := Eff.bind_ok.mp hrun
      cases hrun
      have ht := (provision_touching cfg user name serverId protocol
        (hsound.covers s.serial)).rel_of_run hu
      obtain ⟨row,hrow,_⟩ := h.status
      have hlt := hsound.consistent.devices row (Store.mem_of_get? hrow)
      rw [Store.key_of_get? hrow] at hlt
      exact h.of_touched (ht (Scope.of_fits _ s)).db hlt.ne
  | device telegramId deviceId r =>
    rcases handleOwned_run cfg telegramId deviceId r s with ⟨e,he⟩|⟨user,device,hu,hget,hown,he⟩
    · rw [handle,he] at hrun
      cases hrun
    · rw [handle,he] at hrun
      have hid : device.id=deviceId := Store.key_of_get? hget
      by_cases hd : d=device.id
      · have hover : overridesRevocation s.db device r=false := by
          obtain ⟨_,huser,hact⟩ := currentUser_ok hu
          have hget' : s.db.devices.get? d=some device := by
            rw [hd,hid]
            exact hget
          have hdd : deviceId=d := by rw [hd,hid]
          simpa [reopens,huser,hget',hact,hown,hdd] using hr
        have hkeep : Within hardwareFrame (handleDevice cfg device r) → Shut d t.db := fun hw =>
          shut_of_hardware ((hw s).rel_of_run hrun) h
        have hlink : Within hardwareFrame (getLink device.id) := getLink_within device.id
        cases r with
        | reissue => exact absurd hrun (handleDevice_fails (hd ▸ h) (Or.inr (Or.inr rfl)) hover)
        | disable => exact absurd hrun (handleDevice_fails (hd ▸ h) (Or.inl rfl) hover)
        | enable => exact absurd hrun (handleDevice_fails (hd ▸ h) (Or.inr (Or.inl rfl)) hover)
        | revoke =>
          have hw : Within (shutting d) (handleDevice cfg device .revoke) :=
            (revoke_shutting device).bind fun _ => (refreshed_within device).bind fun _ =>
              Within.pure _
          exact (hw s).rel_of_run hrun h
        | createOrRotateLink =>
          exact hkeep ((createOrRotate_hardware device.id).bind fun _ =>
            (generateQrCode_within _).bind fun _ => Within.pure _)
        | getLink => exact hkeep (hlink.bind fun _ => Within.pure _)
        | revokeLink =>
          exact hkeep (hlink.bind fun l => Within.bind (getNow_within.bind fun _ =>
            alter_hardware fun _ => rfl) fun _ => answerLink_within _)
        | getProfile =>
          exact hkeep (Within.bind (getDb_within.bind fun _ => (currentProfile_within _).bind
            fun _ => Within.orRaise _ _) fun _ => Within.pure _)
        | refreshProfile =>
          exact hkeep (((regenerateProfile_core cfg _ _).mono hardware_of_core).bind fun _ =>
            Within.pure _)
      · have ht := (handleDevice_touching cfg (hsound.covers device.id) r).rel_of_run hrun
        exact h.of_touched (ht (Scope.of_fits _ s)).db hd
  | fetchSubscription token =>
    exact hhard ((deliver_hardware token).bind fun _ => Within.pure _)
  | sweep asOf =>
    have hw : Within (shutting d) (handle cfg (.sweep asOf)) :=
      (runOnce_shutting asOf).bind fun _ => Within.pure _
    exact (hw s).rel_of_run hrun h

/-- A request that does not override the revocation keeps the device shut. -/
theorem after_shut {cfg : Settings} {d : Id} {w : World} {c : Call} (hsound : Sound w)
    (h : Shut d w.db) (hr : reopens d w.db c.request=false) : Shut d (after cfg w c).db := by
  unfold after
  rcases serve_cases cfg c.env c.request w with ⟨a,s,hm,hserve⟩|⟨x,e,s,hm,hserve⟩
  · rw [hserve]
    exact handle_shut (s := ⟨w,c.env⟩) hsound h hr hm
  · rw [hserve]
    exact h

theorem removeCredentialFromXray_ok {c : VlessCredential} {s t : Session}
    (h : removeCredentialFromXray c s=(.ok (),t)) : t.db=s.db := by
  obtain ⟨config,u,hu,h⟩ := Eff.bind_ok.mp h
  have hus : u=s := ((configForCredential_within (R := Frame.still) c) s).still_run hu
  subst hus
  cases config with
  | none =>
    cases h
    rfl
  | some config =>
    obtain ⟨os,ht⟩ := xrayRequest_ok (fun x => UserStore.deleteUser_deleteUser x _) h
    rw [ht]
    rfl

theorem revokeCredential_ok {c : VlessCredential} {s t : Session}
    (h : revokeCredential c s=(.ok (),t)) : ∃ now,t.db.vlessCredentials=
      s.db.vlessCredentials.modify c.id
        (fun x => {x with status := .revoked,revokedAt := some now}) fun _ => rfl := by
  obtain ⟨_,u,hu,h⟩ := Eff.bind_ok.mp h
  have hdb := removeCredentialFromXray_ok hu
  rw [getNow_bind_run] at h
  obtain ⟨_,v,hv,h⟩ := Eff.bind_ok.mp h
  cases hv
  obtain ⟨server,w,hw,h⟩ := Eff.bind_ok.mp h
  obtain ⟨hvw,_⟩ := getServer_ok hw
  subst hvw
  cases h
  exact ⟨u.now,by rw [← hdb]⟩

/-- Revoking the active credentials of a device leaves it none. -/
theorem revokeCredentials_none {d : Id} {s t : Session}
    (h : revokeCredentials d s=(.ok (),t)) :
    ∀ x∈t.db.vlessCredentials.rows,x.deviceId=d → x.status≠.active := by
  have hrun : Eff.each revokeCredential (s.db.activeCredentials d) s=(.ok (),t) := h
  have hkey : ∀ now : Time,∀ x : VlessCredential,
      ({x with status := .revoked,revokedAt := some now} : VlessCredential).id=x.id :=
    fun _ _ => rfl
  -- one round revokes its row, and no round activates one
  have hround : ∀ c : VlessCredential,∀ s t,revokeCredential c s=(.ok (),t) →
      ∀ x∈t.db.vlessCredentials.rows,x.status=.active →
        x.id≠c.id ∧ x∈s.db.vlessCredentials.rows := by
    intro c s t hc x hx hact
    obtain ⟨now,hcreds⟩ := revokeCredential_ok hc
    rw [hcreds] at hx
    rcases (Store.mem_modify (hkey now)).mp hx with ⟨y,_,_,he⟩|⟨hx,hne⟩
    · rw [he] at hact
      cases hact
    · exact ⟨hne,hx⟩
  have hdone : ∀ c∈s.db.activeCredentials d,
      ∀ x∈t.db.vlessCredentials.rows,x.status=.active → x.id≠c.id := by
    apply Eff.each_establishes (P := fun c u => ∀ x∈u.db.vlessCredentials.rows,
      x.status=.active → x.id≠c.id) ?_ ?_ hrun
    · intro c _ u v hc x hx hact
      exact (hround c u v hc x hx hact).1
    · intro c _ y _ u v hy hu x hx hact
      exact hu x (hround y u v hy x hx hact).2 hact
  have hold : ∀ x∈t.db.vlessCredentials.rows,x.status=.active → x∈s.db.vlessCredentials.rows := by
    apply Eff.each_keeps (P := fun u => ∀ x∈u.db.vlessCredentials.rows,
      x.status=.active → x∈s.db.vlessCredentials.rows) ?_ hrun
    · exact fun x hx _ => hx
    · intro c _ u v hc hu x hx hact
      exact hu x (hround c u v hc x hx hact).2 hact
  intro x hx hxd hact
  have hmem : x∈s.db.activeCredentials d :=
    s.db.mem_activeCredentials.mpr ⟨hold x hx hact,hxd,hact⟩
  exact hdone x hmem x hx hact rfl

theorem revokePeer_none {device : Device} {n : Int} {s t : Session} (hs : Consistent n s.db)
    (hget : s.db.devices.get? device.id=some device) (h : revokePeer device s=(.ok (),t)) :
    ∀ p∈t.db.vpnPeers.rows,p.deviceId=device.id → p.status≠.active := by
  unfold revokePeer at h
  cases hserver : device.serverId with
  | none =>
    rw [hserver] at h
    cases h
    intro p hp hpd hact
    obtain ⟨row,hrow,_,hassigned⟩ := hs.peerDevices p hp
    rw [hpd,hget] at hrow
    cases hrow
    rw [hserver] at hassigned
    cases hassigned hact
  | some k =>
    rw [hserver] at h
    obtain ⟨server,u,hu,h⟩ := Eff.bind_ok.mp h
    obtain ⟨hsu,_⟩ := getServer_ok hu
    subst hsu
    have hrun : withActivePeer device.id (fun p => retirePeer server p >>= fun _ =>
        dropLoad server.id) s=(.ok (),t) := h
    unfold withActivePeer at hrun
    rw [getDb_bind_run] at hrun
    cases hp : s.db.activePeer device.id with
    | none =>
      rw [hp] at hrun
      cases hrun
      exact Database.activePeer_eq_none.mp hp
    | some p =>
      rw [hp] at hrun
      obtain ⟨_,v,hv,hrun⟩ := Eff.bind_ok.mp hrun
      cases hrun
      have hretire : withActivePeer device.id (retirePeer server) s=(.ok (),v) := by
        unfold withActivePeer
        rw [getDb_bind_run,hp]
        exact hv
      have hnone := retireActive_none hs hretire
      exact hnone

/-- A device that was revoked is shut. -/
theorem revoke_shuts {device : Device} {s t : Session} (hs : Sound s.toWorld)
    (hget : s.db.devices.get? device.id=some device) (h : revoke device s=(.ok (),t)) :
    Shut device.id t.db := by
  obtain ⟨_,u,hu,h⟩ := Eff.bind_ok.mp h
  cases h
  have hrec := (revokeTransport_recoloring device s).rel_of_run hu
  obtain ⟨status,hrow⟩ := hrec.1.device_of hget
  have hproto : ∀ {k : Id} {p : VpnProtocol},k=device.id →
      (∃ d,s.db.devices.get? k=some d ∧ d.protocol=p) → device.protocol=p := by
    intro k p hk hd
    obtain ⟨d,hd,hp⟩ := hd
    rw [hk,hget] at hd
    cases hd
    exact hp
  have hkey : ∀ r : Device,({r with status := .revoked} : Device).id=r.id := fun _ => rfl
  have hmod := Store.get?_modify_self u.db.devices device.id _ hkey
  rw [hrow] at hmod
  unfold revokeTransport at hu
  refine ⟨⟨_,hmod,rfl⟩,?_,?_⟩
  · intro p hp hpd hact
    obtain ⟨q,hq,_,hqd,_,_,_⟩ := hrec.1.peer_from hp
    obtain ⟨d,hd,hwg,_⟩ := hs.consistent.peerDevices q hq
    have hp' := hproto (hqd.trans hpd) ⟨d,hd,hwg⟩
    rw [hp'] at hu
    exact revokePeer_none hs.consistent hget hu p hp hpd hact
  · intro c hc hcd hact
    obtain ⟨x,hx,_,hxd,_,_⟩ := hrec.1.credentials c hc
    have hp' := hproto (hxd.symm.trans hcd) (hs.consistent.credentialDevices x hx)
    rw [hp'] at hu
    exact revokeCredentials_none hu c hc hcd hact

theorem answered_ok {cfg : Settings} {w : World} {c : Call} (h : answered cfg w c) :
    ∃ a s,handle cfg c.request ⟨w,c.env⟩=(.ok a,s) ∧ after cfg w c=s.toWorld := by
  unfold answered at h
  unfold after
  rcases serve_cases cfg c.env c.request w with ⟨a,s,hm,hserve⟩|⟨x,e,s,hm,hserve⟩
  · exact ⟨a,s,hm,by rw [hserve]⟩
  · rw [hserve] at h
    cases h

/-- Once `revoke` has returned, and as long as its owner neither disables, enables nor reissues
the device, it is and stays revoked: whatever else is requested, by whomever and with whatever
outcome of the calls. -/
theorem revoke_final (cfg : Settings) {w : World} (hw : Reachable cfg w) (env : Env)
    (telegramId : Int) (d : Id) (h : answered cfg w ⟨env,.device telegramId d .revoke⟩)
    (cs : List Call)
    (hcs : Conducted (fun w c => reopens d w.db c.request=false) (after cfg)
      (after cfg w ⟨env,.device telegramId d .revoke⟩) cs) :
    RevokedForGood cfg d
      (cs.foldl (after cfg) (after cfg w ⟨env,.device telegramId d .revoke⟩)) := by
  have hfirst : Shut d (after cfg w ⟨env,.device telegramId d .revoke⟩).db := by
    obtain ⟨a,s,hm,hafter⟩ := answered_ok h
    rw [hafter]
    rcases handleOwned_run cfg telegramId d .revoke ⟨w,env⟩ with ⟨e,he⟩|⟨user,device,_,hget,_,he⟩
    · rw [handle,he] at hm
      cases hm
    · rw [handle,he] at hm
      obtain ⟨_,u,hu,hm⟩ := Eff.bind_ok.mp hm
      cases hm
      have hid : device.id=d := Store.key_of_get? hget
      have hshut := revoke_shuts (reachable_sound hw) (by rw [hid]; exact hget) hu
      rw [hid] at hshut
      exact hshut
  have hrun : Sound (cs.foldl (after cfg) (after cfg w ⟨env,.device telegramId d .revoke⟩)) ∧
      Shut d (cs.foldl (after cfg) (after cfg w ⟨env,.device telegramId d .revoke⟩)).db := by
    refine invariant_of_conducted (fun w => Sound w ∧ Shut d w.db) ?_ _ cs ?_ hcs
    · intro v c hv hc
      exact ⟨after_sound hv.1,after_shut hv.1 hv.2 hc⟩
    · exact ⟨reachable_sound (hw.after _),hfirst⟩
  exact ⟨hrun.2,hrun.2.undelivered⟩

theorem revoke_final_opened : RevokedForGood sampleSettings 11
    ([calm 4 (.device 77 11 .createOrRotateLink),calm 5 (.sweep none)].foldl
      (after sampleSettings) (after sampleSettings opened (calm 3 (.device 77 11 .revoke)))) :=
  revoke_final sampleSettings opened_reachable _ 77 11 (by decide +kernel) _
    ⟨by decide +kernel,by decide +kernel,trivial⟩

/-- The requests the bot makes about devices that are there. -/
def aboutDevices : Request → Bool
  | .listDevices _ | .device _ _ _ => true
  | _ => false

/-- Disabling a revoked device makes it disabled. -/
theorem revoke_not_final : ¬∀ (cfg : Settings) (w : World),Reachable cfg w →
    ∀ (env : Env) (telegramId : Int) (d : Id),
      answered cfg w ⟨env,.device telegramId d .revoke⟩ →
      ∀ cs : List Call,(∀ c∈cs,aboutDevices c.request) → RevokedForGood cfg d
        (cs.foldl (after cfg) (after cfg w ⟨env,.device telegramId d .revoke⟩)) := by
  intro h
  have hshut := (h sampleSettings opened opened_reachable (calm 3 (.listDevices 77)).env 77 11
    (by decide +kernel) [calm 4 (.device 77 11 .disable)] (by decide)).1
  obtain ⟨row,hrow,hrevoked⟩ := hshut.status
  have hdisabled : ((([calm 4 (.device 77 11 .disable)].foldl (after sampleSettings)
      (after sampleSettings opened (calm 3 (.device 77 11 .revoke)))).db.devices.get? 11).map
        Device.status)=some .disabled := by decide +kernel
  have hrow' : ([calm 4 (.device 77 11 .disable)].foldl (after sampleSettings)
      (after sampleSettings opened (calm 3 (.device 77 11 .revoke)))).db.devices.get? 11=some row :=
    hrow
  rw [hrow',Option.map_some,hrevoked] at hdisabled
  cases hdisabled

end VpnService.Backend
