import VpnService.Backend.Placement
import VpnService.Backend.Contracts

namespace VpnService.Backend

open Agent

/-- The devices on a server that are not revoked. -/
def Database.placed (db : Database) (serverId : Id) : Int :=
  (db.devices.rows.filter fun d => d.serverId=some serverId ∧ d.status≠.revoked).length

/-- Every server's load is the number of devices on it. -/
def LoadsExact (w : World) : Prop :=
  ∀ server∈w.db.vpnServers.rows,server.currentLoad=w.db.placed server.id

instance (w : World) : Decidable (LoadsExact w) :=
  inferInstanceAs (Decidable (∀ server∈w.db.vpnServers.rows,_))

/-- The server whose load a revocation of the device lowers. -/
def Database.charged (db : Database) (d : Device) : Option Id := match d.protocol with
  | .vless => (db.activeCredentials d.id).head?.map VlessCredential.serverId
  | .wireguard => d.serverId.filter fun _ => (db.activePeer d.id).isSome

/-- Whether a request about the device changes its server's load as it changes its status. -/
def DeviceRequest.balanced (db : Database) (d : Device) : DeviceRequest → Bool
  | .disable => d.status≠.revoked
  | .enable => d.status≠.revoked
  | .revoke => match db.charged d with
    | none => d.status=.revoked
    | some k => d.status≠.revoked || (db.vpnServers.get? k).all fun x => x.currentLoad≤0
  | _ => true

def Request.balanced (db : Database) : Request → Bool
  | .device telegramId deviceId r => (db.owned telegramId deviceId).all (r.balanced db)
  | _ => true

/-- What a device's row says of where it counts. -/
def Device.post (d : Device) : Id×Option Id×Bool := (d.id,d.serverId,d.status=.revoked)

def VpnServer.gauge (x : VpnServer) : Id×Int := (x.id,x.currentLoad)

def VlessCredential.lodging (c : VlessCredential) : Id×Id := (c.deviceId,c.serverId)

/-- All that the loads are about. -/
def rosterView (s : Session) : List (Id×Option Id×Bool)×List (Id×Int)×List (Id×Id) :=
  (s.db.devices.rows.map Device.post,s.db.vpnServers.rows.map VpnServer.gauge,
    s.db.vlessCredentials.rows.map VlessCredential.lodging)

abbrev rosterFrame : Frame Session := keeping rosterView

/-- The loads are exact, and a credential is on the server of its device. -/
structure Tallied (db : Database) : Prop where
  loads : ∀ server∈db.vpnServers.rows,server.currentLoad=db.placed server.id
  lodged : ∀ c∈db.vlessCredentials.rows,∀ d∈db.devices.rows,d.id=c.deviceId →
    d.serverId=some c.serverId

theorem placed_posts (db : Database) (k : Id) : db.placed k=
    ((db.devices.rows.map Device.post).filter fun p => p.2.1=some k ∧ p.2.2=false).length := by
  unfold Database.placed
  rw [List.filter_map,List.length_map]
  congr 2
  apply List.filter_congr
  intro d _
  by_cases hk : d.serverId=some k
  · by_cases hr : d.status=.revoked
    · simp [Device.post,hk,hr]
    · simp [Device.post,hk,hr]
  · simp [Device.post,hk]

theorem Tallied.of_roster {s t : Session} (h : Tallied s.db) (hview : rosterView t=rosterView s) :
    Tallied t.db := by
  simp only [rosterView,Prod.mk.injEq] at hview
  obtain ⟨hposts,hgauges,hlodgings⟩ := hview
  constructor
  · intro server hserver
    have hmem := List.mem_map_of_mem (f := VpnServer.gauge) hserver
    rw [hgauges] at hmem
    obtain ⟨x,hx,hgauge⟩ := List.mem_map.mp hmem
    obtain ⟨hid,hload⟩ := Prod.mk.inj hgauge
    rw [placed_posts,hposts,← placed_posts,← hload,← hid]
    exact h.loads x hx
  · intro c hc d hd hcd
    have hcmem := List.mem_map_of_mem (f := VlessCredential.lodging) hc
    rw [hlodgings] at hcmem
    obtain ⟨c',hc',hlodging⟩ := List.mem_map.mp hcmem
    have hdmem := List.mem_map_of_mem (f := Device.post) hd
    rw [hposts] at hdmem
    obtain ⟨d',hd',hpost⟩ := List.mem_map.mp hdmem
    simp only [Device.post,VlessCredential.lodging,Prod.mk.injEq] at hpost hlodging
    rw [← hpost.2.1,← hlodging.2]
    exact h.lodged c' hc' d' hd' (by rw [hpost.1,hlodging.1,hcd])

section

variable {s t : Session}

theorem roster_books : Bookkeeping rosterFrame :=
  ⟨fun _ => ⟨rfl,by simp⟩,fun _ _ => ⟨rfl,le_rfl⟩⟩

theorem roster_of_hardware (h : hardwareFrame.rel s t) : rosterFrame.rel s t := by
  obtain ⟨hview,hs⟩ := h
  simp only [hardwareView,Prod.mk.injEq] at hview
  obtain ⟨hv,_,hd,_,hc,_⟩ := hview
  exact ⟨by simp only [rosterView,hv,hd,hc],hs⟩

theorem roster_of_core (h : coreFrame.rel s t) : rosterFrame.rel s t :=
  roster_of_hardware (hardware_of_core h)

theorem alter_roster {f : Database → Database}
    (h : ∀ s : Session,rosterView {s with db := f s.db}=rosterView s) :
    Within rosterFrame (alter f) := fun s => ⟨h s,le_rfl⟩

theorem setCredentialStatus_roster (k : Id) {f : VlessCredential → VlessCredential}
    (hf : ∀ c,(f c).id=c.id) (h : ∀ c,(f c).lodging=c.lodging) :
    Within rosterFrame (setCredentialStatus k f hf) := by
  apply alter_roster
  intro s
  simp only [rosterView,Store.rows_modify,List.map_map]
  congr 2
  apply List.map_congr_left
  intro c _
  by_cases hc : c.id=k
  · simp [hc,h]
  · simp [hc]

theorem removeCredentialFromXray_roster (c : VlessCredential) :
    Within rosterFrame (removeCredentialFromXray c) := by
  refine (configForCredential_within c).bind fun config => ?_
  cases config with
  | none => exact Within.pure _
  | some config => exact xrayRequest_within roster_books fun _ => ⟨rfl,le_rfl⟩

theorem vpnRequest_roster (server : VpnServer) (op : IpPeerStore → Option IpPeerStore) :
    Within rosterFrame (vpnRequest server op) :=
  vpnRequest_within roster_books fun _ _ _ => ⟨rfl,le_rfl⟩

theorem disableTransport_roster (device : Device) :
    Within rosterFrame (disableTransport device) := by
  unfold disableTransport
  cases device.protocol with
  | vless =>
    exact getDb_within.bind fun _ => Within.each fun c _ =>
      (removeCredentialFromXray_roster c).bind fun _ =>
      setCredentialStatus_roster _ _ fun _ => rfl
  | wireguard =>
    exact (serverOfDevice_within device).bind fun server => withActivePeer_within _ fun p =>
      vpnRequest_roster server _

theorem enableTransport_roster (device : Device) :
    Within rosterFrame (enableTransport device) := by
  unfold enableTransport
  cases device.protocol with
  | vless =>
    refine getDb_within.bind fun _ => Within.each fun c _ => Within.ite ?_ (Within.pure _)
    refine (configForCredential_within c).bind fun config => ?_
    cases config with
    | none => exact Within.pure _
    | some config =>
      have hadd : ∀ now,Within rosterFrame (xrayRequest config.xrayAgentBaseUrl
          (UserStore.createUser c.uuid device.id config.flow now)) :=
        fun _ => xrayRequest_within roster_books fun _ => ⟨rfl,le_rfl⟩
      exact getNow_within.bind fun now => (hadd now).bind fun _ =>
        setCredentialStatus_roster _ _ fun _ => rfl
  | wireguard =>
    exact (serverOfDevice_within device).bind fun server => withActivePeer_within _ fun p =>
      vpnRequest_roster server _

/-- The device is there and not revoked. -/
def Database.Standing (db : Database) (k : Id) : Prop :=
  ∃ d∈db.devices.rows,d.id=k ∧ d.status≠.revoked

theorem Database.Standing.of_roster {k : Id} (h : s.db.Standing k)
    (hview : rosterView t=rosterView s) : t.db.Standing k := by
  obtain ⟨d,hd,hid,hs⟩ := h
  have hposts : t.db.devices.rows.map Device.post=s.db.devices.rows.map Device.post :=
    congrArg Prod.fst hview
  have hmem := List.mem_map_of_mem (f := Device.post) hd
  rw [← hposts] at hmem
  obtain ⟨e,he,hpost⟩ := List.mem_map.mp hmem
  simp only [Device.post,Prod.mk.injEq,decide_eq_decide] at hpost
  exact ⟨e,he,hpost.1.trans hid,fun hr => hs (hpost.2.2.mp hr)⟩

/-- A status change between `ACTIVE` and `DISABLED` does not count. -/
theorem setDeviceStatus_roster {k : Id} {status : DeviceStatus} (h : s.db.Standing k)
    (hstatus : status≠.revoked) : WithinAt rosterFrame (setDeviceStatus k status) s := by
  obtain ⟨d,hd,hid,hs⟩ := h
  refine ⟨?_,le_rfl⟩
  simp only [rosterView,setDeviceStatus,updateDevice,alter_run,Store.rows_modify,List.map_map]
  congr 1
  apply List.map_congr_left
  intro x hx
  by_cases hk : x.id=k
  · have hxd : x=d := Store.eq_of_key hx hd (hk.trans hid.symm)
    simp [Device.post,hxd,hid,hs,hstatus]
  · simp [hk]

theorem disable_roster {device : Device} (h : s.db.Standing device.id) :
    WithinAt rosterFrame (disable device) s := by
  refine WithinAt.bind (disableTransport_roster device s) fun _ t ht => ?_
  have hview := ((disableTransport_roster device s).rel_of_run ht).1
  exact setDeviceStatus_roster (h.of_roster hview) (by decide)

theorem enable_roster {device : Device} (h : s.db.Standing device.id) :
    WithinAt rosterFrame (enable device) s := by
  refine WithinAt.bind (enableTransport_roster device s) fun _ t ht => ?_
  have hview := ((enableTransport_roster device s).rel_of_run ht).1
  exact setDeviceStatus_roster (h.of_roster hview) (by decide)

/-- The loop of `disable_all_for_user` sees no revoked device. -/
theorem disableAllForUser_roster (userId : Id) :
    Within rosterFrame (disableAllForUser userId) := by
  intro s
  apply WithinAt.reads_bind
  apply WithinAt.each fun u => ∀ d∈s.db.devicesOf userId,u.db.Standing d.id
  · intro d hd
    obtain ⟨hmem,_,hs⟩ := s.db.mem_devicesOf.mp hd
    exact ⟨d,hmem,rfl,hs⟩
  · exact fun hall hrel d hd => (hall d hd).of_roster hrel.1
  · intro d hd u hall
    unfold disableIfActive
    split_ifs
    · exact disable_roster (hall d hd)
    · exact rosterFrame.refl u

theorem runOnce_roster (asOf : Option Time) : Within rosterFrame (runOnce asOf) := by
  have haudit : ∀ {α} {m : Req α},Within auditFrame m → Within rosterFrame m :=
    fun hm => hm.mono fun h => roster_of_core (core_of_audit h)
  have hone : ∀ x,Within rosterFrame (processOne x) := by
    intro x
    refine getDb_within.bind fun _ => (Within.orRaise _ _).bind fun _ => (Within.orRaise _ _).bind
      fun user => Within.bind (alter_roster fun _ => rfl) fun _ =>
      (disableAllForUser_roster x.userId).bind fun _ => ?_
    exact (haudit (audit_written _ _ _ _ _)).bind fun _ => Within.change fun _ => ⟨rfl,le_rfl⟩
  exact getNow_within.bind fun _ => getDb_within.bind fun _ =>
    (Within.each fun x _ => hone x).bind fun _ => Within.pure _

theorem withPeer_id (p : VpnPeer) (d : Device) : (withPeer p d).id=d.id := rfl

/-- A new peer for a device leaves it where it is. -/
theorem reissue_roster (cfg : Settings) (device : Device) :
    Within rosterFrame (reissue cfg device) := by
  have hpeer : ∀ n server,Within rosterFrame (createPeerAttempts cfg device.id server n) := by
    intro n server
    induction n with
    | zero => exact Within.raise _
    | succ n ih =>
      refine (allocateIp_within server).bind fun ip => Within.bind (getNow_within.bind fun _ =>
        (nextSerial_within roster_books).bind fun _ => (vpnRequest_roster server _).bind fun _ =>
        Within.pure _) fun _ => (nextSerial_within roster_books).bind fun _ =>
        (flush_within roster_books).bind fun _ => (flush_within roster_books).bind fun _ =>
        getDb_within.bind fun _ => Within.ite ?_ ?_
      · exact (vpnRequest_roster server _).bind fun _ => ih
      · exact Within.bind (alter_roster fun _ => rfl) fun _ => Within.pure _
  have hretire : ∀ server p,Within rosterFrame (retirePeer server p) := fun server p =>
    (vpnRequest_roster server _).bind fun _ => alter_roster fun _ => rfl
  have hrow : ∀ p,Within rosterFrame (updateDevice device.id (withPeer p) (withPeer_id p)) := by
    intro p
    apply alter_roster
    intro s
    simp only [rosterView,Store.rows_modify,List.map_map]
    congr 1
    apply List.map_congr_left
    intro x _
    by_cases hx : x.id=device.id
    · simp [hx,Device.post,withPeer]
    · simp [hx]
  have hprofile : Within rosterFrame (regenerateProfile cfg device.id device.userId) :=
    (regenerateProfile_core cfg _ _).mono roster_of_core
  exact (Within.require _ _).bind fun _ => (serverOfDevice_within device).bind fun server =>
    (withActivePeer_within _ (hretire server)).bind fun _ => (hpeer 5 server).bind fun created =>
    (hrow created.2).bind fun _ => hprofile.bind fun _ => (generateQrCode_within _).bind fun _ =>
    (refreshed_within _).bind fun _ => Within.pure _

/-- A server that one device less is placed on. -/
def VpnServer.relieved (x : VpnServer) : VpnServer :=
  {x with currentLoad := max 0 (x.currentLoad-1)}

theorem VpnServer.relieved_id (x : VpnServer) : x.relieved.id=x.id := rfl

/-- What a revocation does to the loads. -/
def Database.lowered (db : Database) (d : Device) : Store VpnServer.id := match db.charged d with
  | none => db.vpnServers
  | some k => db.vpnServers.modify k VpnServer.relieved VpnServer.relieved_id

theorem revokeCredential_servers {c : VlessCredential}
    (h : revokeCredential c s=(.ok (),t)) : t.db.vpnServers=
      s.db.vpnServers.modify c.serverId VpnServer.relieved VpnServer.relieved_id := by
  obtain ⟨_,u,hu,h⟩ := Eff.bind_ok.mp h
  have hdb := removeCredentialFromXray_ok hu
  rw [getNow_bind_run] at h
  obtain ⟨_,v,hv,h⟩ := Eff.bind_ok.mp h
  cases hv
  obtain ⟨server,w,hw,h⟩ := Eff.bind_ok.mp h
  obtain ⟨hvw,hserver⟩ := getServer_ok hw
  subst hvw
  cases h
  show u.db.vpnServers.modify server.id VpnServer.relieved VpnServer.relieved_id=_
  rw [Store.key_of_get? hserver,hdb]

/-- A revocation lowers the load of one server at most. -/
theorem revokeTransport_servers {n : Int} {device : Device} (hs : Consistent n s.db)
    (h : revokeTransport device s=(.ok (),t)) : t.db.vpnServers=s.db.lowered device := by
  unfold revokeTransport at h
  unfold Database.lowered Database.charged
  cases hproto : device.protocol with
  | vless =>
    simp only [hproto] at h
    have hrun : Eff.each revokeCredential (s.db.activeCredentials device.id) s=(.ok (),t) := h
    cases hcreds : s.db.activeCredentials device.id with
    | nil =>
      rw [hcreds] at hrun
      cases hrun
      rfl
    | cons c cs =>
      have hone := activeCredentials_lone hs (hcreds ▸ List.mem_cons_self)
      rw [hone] at hrun
      obtain ⟨_,u,hu,hlast⟩ := Eff.bind_ok.mp hrun
      cases hlast
      exact revokeCredential_servers hu
  | wireguard =>
    simp only [hproto] at h
    unfold revokePeer at h
    cases hserver : device.serverId with
    | none =>
      simp only [hserver] at h
      cases h
      rfl
    | some k =>
      simp only [hserver] at h
      obtain ⟨server,u,hu,h⟩ := Eff.bind_ok.mp h
      obtain ⟨hsu,hget⟩ := getServer_ok hu
      subst hsu
      unfold withActivePeer at h
      rw [getDb_bind_run] at h
      cases hp : s.db.activePeer device.id with
      | none =>
        simp only [hp] at h
        cases h
        simp
      | some p =>
        simp only [hp] at h
        obtain ⟨_,v,hv,hlast⟩ := Eff.bind_ok.mp h
        have hkept : v.db.vpnServers=s.db.vpnServers := by
          obtain ⟨_,w,hw,hrow⟩ := Eff.bind_ok.mp hv
          obtain ⟨os,store,_,hws⟩ := vpnRequest_ok hw
          cases hrow
          rw [hws]
          rfl
        cases hlast
        show v.db.vpnServers.modify server.id VpnServer.relieved VpnServer.relieved_id=_
        rw [hkept,Store.key_of_get? hget]
        rfl

theorem placed_nonneg (db : Database) (k : Id) : 0≤db.placed k := Int.natCast_nonneg _

/-- How an update of a device's row changes the number of devices on a server. -/
theorem placed_modify {a b : Database} {d : Device} (hd : d∈a.devices.rows) {f : Device → Device}
    (hf : ∀ x,(f x).id=x.id) (hb : b.devices=a.devices.modify d.id f hf) (k : Id) :
    b.placed k+(if d.serverId=some k ∧ d.status≠.revoked then 1 else 0)=
      a.placed k+if (f d).serverId=some k ∧ (f d).status≠.revoked then 1 else 0 := by
  have hcount := a.devices.countP_modify hd f hf fun x => x.serverId=some k ∧ x.status≠.revoked
  unfold Database.placed
  rw [hb,← List.countP_eq_length_filter,← List.countP_eq_length_filter]
  simp only [decide_eq_true_eq] at hcount
  split_ifs at hcount ⊢ <;> omega

theorem placed_insert {a b : Database} {d : Device} (hnew : ∀ x∈a.devices.rows,x.id≠d.id)
    (hb : b.devices=a.devices.insert d) (k : Id) : b.placed k=
      a.placed k+if d.serverId=some k ∧ d.status≠.revoked then 1 else 0 := by
  unfold Database.placed
  rw [hb,Store.rows_insert _ _ hnew,List.filter_append,List.length_append]
  by_cases hk : d.serverId=some k ∧ d.status≠.revoked
  · simp [hk]
  · simp [hk]

/-- A revocation lowers the load of the device's own server. -/
theorem Tallied.charged_server {db : Database} {d : Device} {k : Id} (h : Tallied db)
    (hd : d∈db.devices.rows) (hk : db.charged d=some k) : d.serverId=some k := by
  unfold Database.charged at hk
  cases hproto : d.protocol with
  | vless =>
    simp only [hproto] at hk
    obtain ⟨c,hc,hck⟩ := Option.map_eq_some_iff.mp hk
    obtain ⟨hmem,hdevice,_⟩ := db.mem_activeCredentials.mp (List.mem_of_mem_head? hc)
    rw [← hck]
    exact h.lodged c hmem d hd hdevice.symm
  | wireguard =>
    simp only [hproto] at hk
    exact (Option.filter_eq_some_iff.mp hk).1

/-- A balanced revocation keeps the loads exact. -/
theorem Tallied.revoke {n : Int} {device : Device} (h : Tallied s.db) (hs : Consistent n s.db)
    (hd : device∈s.db.devices.rows) (hb : DeviceRequest.revoke.balanced s.db device=true)
    (hrun : revoke device s=(.ok (),t)) : Tallied t.db := by
  obtain ⟨_,u,hu,hlast⟩ := Eff.bind_ok.mp hrun
  have hservers := revokeTransport_servers hs hu
  have hdb : u.db.unequipped=s.db.unequipped :=
    congrArg Prod.fst ((revokeTransport_equipment device s).rel_of_run hu).1
  have hdevices : u.db.devices=s.db.devices := (congrArg Database.devices hdb :)
  have hrec := ((revokeTransport_recoloring device s).rel_of_run hu).1
  have hkey : ∀ x : Device,({x with status := .revoked} : Device).id=x.id := fun _ => rfl
  have htdevices : t.db.devices=
      s.db.devices.modify device.id (fun x => {x with status := .revoked}) hkey := by
    rw [← hdevices]
    cases hlast
    rfl
  have htservers : t.db.vpnServers=s.db.lowered device := by
    rw [← hservers]
    cases hlast
    rfl
  have htcreds : t.db.vlessCredentials=u.db.vlessCredentials := by
    cases hlast
    rfl
  have hplaced := placed_modify hd hkey htdevices
  simp only [ne_eq,not_true_eq_false,and_false,if_false,add_zero] at hplaced
  constructor
  · intro server hserver
    rw [htservers] at hserver
    unfold Database.lowered at hserver
    simp only [DeviceRequest.balanced] at hb
    cases hk : s.db.charged device with
    | none =>
      simp only [hk,decide_eq_true_eq] at hserver hb
      have hsame := hplaced server.id
      rw [if_neg (by simp [hb])] at hsame
      rw [h.loads server hserver]
      omega
    | some k =>
      simp only [hk,Bool.or_eq_true,decide_eq_true_eq] at hserver hb
      have hon := h.charged_server hd hk
      rcases (Store.mem_modify VpnServer.relieved_id).mp hserver with ⟨x,hx,hxk,he⟩|⟨hx,hne⟩
      · have hload := h.loads x hx
        have hafter := hplaced x.id
        have hpos := placed_nonneg t.db x.id
        rw [he]
        show max 0 (x.currentLoad-1)=t.db.placed x.id
        by_cases hrev : device.status=.revoked
        · have hzero : x.currentLoad≤0 := by
            have hall := hb.resolve_left fun hn => hn hrev
            rw [← hxk,s.db.vpnServers.get?_of_mem hx] at hall
            exact of_decide_eq_true hall
          rw [if_neg (by simp [hrev])] at hafter
          omega
        · rw [if_pos ⟨by rw [hon,hxk],hrev⟩] at hafter
          omega
      · have hafter := hplaced server.id
        rw [if_neg (by rw [hon]; simp [Ne.symm hne])] at hafter
        rw [h.loads server hx]
        omega
  · intro c hc d hdm hdc
    rw [htcreds] at hc
    obtain ⟨x,hx,_,hxd,hxs,_⟩ := hrec.credentials c hc
    rw [htdevices] at hdm
    rcases (Store.mem_modify hkey).mp hdm with ⟨e,he,_,hed⟩|⟨he,_⟩
    · rw [hed] at hdc ⊢
      rw [hxs]
      exact h.lodged x hx e he (hdc.trans hxd)
    · rw [hxs]
      exact h.lodged x hx d he (hdc.trans hxd)

/-- A new device on a server whose load is raised for it. -/
theorem Tallied.place {n : Int} {a b : Database} {d : Device} {k : Id} (h : Tallied a)
    (hs : Consistent n a) (hid : d.id=n) (hk : d.serverId=some k) (hstatus : d.status≠.revoked)
    (hdevices : b.devices=a.devices.insert d)
    (hservers : b.vpnServers=a.vpnServers.modify k
      (fun x => {x with currentLoad := x.currentLoad+1}) fun _ => rfl)
    (hcreds : ∀ c∈b.vlessCredentials.rows,c∈a.vlessCredentials.rows ∨
      c.deviceId=n ∧ c.serverId=k) : Tallied b := by
  have hnew : ∀ x∈a.devices.rows,x.id≠d.id := by
    intro x hx
    rw [hid]
    exact (hs.devices x hx).ne
  have hplaced := placed_insert hnew hdevices
  have hkey : ∀ x : VpnServer,({x with currentLoad := x.currentLoad+1} : VpnServer).id=x.id :=
    fun _ => rfl
  constructor
  · intro server hserver
    rw [hservers] at hserver
    rcases (Store.mem_modify hkey).mp hserver with ⟨x,hx,hxk,he⟩|⟨hx,hne⟩
    · have hon : d.serverId=some x.id ∧ d.status≠.revoked := ⟨by rw [hk,hxk],hstatus⟩
      rw [he]
      show x.currentLoad+1=b.placed x.id
      rw [hplaced,if_pos hon,h.loads x hx]
    · have hoff : ¬(d.serverId=some server.id ∧ d.status≠.revoked) := by
        rintro ⟨hs,_⟩
        rw [hk] at hs
        exact hne (Option.some.inj hs).symm
      rw [hplaced,if_neg hoff,h.loads server hx]
      omega
  · intro c hc x hx hxc
    rw [hdevices] at hx
    rcases (Store.mem_insert hnew).mp hx with hx|hx
    · rcases hcreds c hc with hc|⟨hcn,_⟩
      · exact h.lodged c hc x hx hxc
      · have hlt := hs.devices x hx
        rw [hxc,hcn] at hlt
        exact absurd hlt (lt_irrefl n)
    · rcases hcreds c hc with hc|⟨_,hck⟩
      · have hlt := hs.unreferred.2 c hc
        rw [← hxc,hx,hid] at hlt
        exact absurd hlt (lt_irrefl n)
      · rw [hx,hk,hck]

theorem provision_tallied {cfg : Settings} {user : User} {name : String}
    {requested : Option Id} {protocol : VpnProtocol} {r : ProvisionedDevice} (h : Tallied s.db)
    (hs : Consistent s.serial s.db)
    (hrun : provision cfg user name requested protocol s=(.ok r,t)) : Tallied t.db := by
  cases protocol with
  | wireguard =>
    obtain ⟨_,_,server,u,v,p,_,hdev,hcreated,hlast⟩ := provisionWireguard_ok hrun
    have hfirst := hdev.1
    have hview := hlast.1
    simp only [hardwareView,withDevice,Prod.mk.injEq] at hfirst hview
    obtain ⟨hservers,_,hdevices,_,hcreds,_,_⟩ := hfirst
    obtain ⟨hservers',_,hdevices',_,hcreds',_,_⟩ := hview
    have hnew : ∀ x∈s.db.devices.rows,
        x.id≠(freshDevice s.serial user.id name none .wireguard).id := by
      intro x hx
      exact (hs.devices x hx).ne
    have hrow := s.db.devices.modify_insert hnew (withServer p server) (withServer_id p server)
    apply h.place hs (d := withServer p server (freshDevice s.serial user.id name none .wireguard))
    · rfl
    · rfl
    · intro hrevoked
      cases hrevoked
    · rw [hdevices',← hrow,hcreated.db,hdevices]
      rfl
    · rw [hservers',hcreated.db,hservers]
    · intro c hc
      rw [hcreds',hcreated.db,hcreds] at hc
      exact Or.inl hc
  | vless =>
    obtain ⟨_,a,ha,hrun⟩ := Eff.bind_ok.mp hrun
    obtain ⟨hsa,_⟩ := enforceDeviceLimit_ok ha
    subst hsa
    obtain ⟨_,server,config,u,id,_,_,hdev,_,_,hlast⟩ := provisionVless_ok hrun
    have hfirst := hdev.1
    simp only [hardwareView,withDevice,setXray,Prod.mk.injEq] at hfirst hlast
    obtain ⟨hservers,_,hdevices,_,hcreds,_,_⟩ := hfirst
    obtain ⟨hservers',_,hdevices',_,hcreds',_,_⟩ := hlast
    apply h.place hs (d := freshDevice s.serial user.id name (some server.id) .vless)
    · rfl
    · rfl
    · intro hrevoked
      cases hrevoked
    · rw [hdevices',hdevices]
    · rw [hservers',hservers]
    · intro c hc
      rw [hcreds'] at hc
      rcases Store.mem_of_insert hc with hc|hc
      · rw [hcreds] at hc
        exact Or.inl hc
      · rw [hc]
        exact Or.inr ⟨rfl,rfl⟩

/-- No device is on a new server. -/
theorem Tallied.insertServer {n : Int} {db : Database} {x : VpnServer} (h : Tallied db)
    (hs : Consistent n db) (hid : x.id=n) (hload : x.currentLoad=0) :
    Tallied {db with vpnServers := db.vpnServers.insert x} := by
  constructor
  · intro server hserver
    show server.currentLoad=db.placed server.id
    rcases Store.mem_of_insert hserver with hserver|hserver
    · exact h.loads server hserver
    · have hnone : ∀ d∈db.devices.rows,d.serverId≠some n := by
        intro d hd hk
        obtain ⟨y,hy⟩ := Option.isSome_iff_exists.mp (hs.deviceServers d hd n hk)
        have hlt := hs.servers y (Store.mem_of_get? hy)
        rw [Store.key_of_get? hy] at hlt
        exact lt_irrefl n hlt
      have hempty : db.placed n=0 := by
        unfold Database.placed
        rw [List.filter_eq_nil_iff.mpr]
        · rfl
        · intro d hd
          simp [hnone d hd]
      rw [hserver,hid,hempty,hload]
  · exact h.lodged

/-- The devices of a deleted server are on none, and its credentials are gone. -/
theorem Tallied.dropServer {db : Database} (h : Tallied db) (k : Id) :
    Tallied (Backend.dropServer k db) := by
  have hcreds : ∀ c∈(Backend.dropServer k db).vlessCredentials.rows,
      c∈db.vlessCredentials.rows ∧ c.serverId≠k := by
    intro c hc
    simpa [Backend.dropServer] using hc
  have hdevices : (Backend.dropServer k db).devices.rows=db.devices.rows.map (unassigned k) := rfl
  have hkeeps : ∀ d j,j≠k → ((unassigned k d).serverId=some j ↔ d.serverId=some j) := by
    intro d j hj
    unfold unassigned
    split_ifs with hk
    · simp [hk,Ne.symm hj]
    · rfl
  have hstatus : ∀ d,(unassigned k d).status=d.status := by
    intro d
    unfold unassigned
    split_ifs
    · rfl
    · rfl
  constructor
  · intro server hserver
    obtain ⟨hold,hne⟩ := Store.mem_delete.mp hserver
    have hplaced : (Backend.dropServer k db).placed server.id=db.placed server.id := by
      unfold Database.placed
      rw [hdevices,List.filter_map,List.length_map]
      congr 2
      apply List.filter_congr
      intro d _
      have hon := hkeeps d server.id hne
      simp [hstatus,hon]
    rw [hplaced]
    exact h.loads server hold
  · intro c hc d hd hdc
    obtain ⟨hold,hne⟩ := hcreds c hc
    rw [hdevices] at hd
    obtain ⟨e,he,hed⟩ := List.mem_map.mp hd
    rw [← hed] at hdc ⊢
    rw [(unassigned_keeps k e).1] at hdc
    exact (hkeeps e c.serverId hne).mpr (h.lodged c hold e he hdc)

theorem Tallied.of_within {α : Type} {m : Req α} {x : Except AppError α} (h : Tallied s.db)
    (hm : Within rosterFrame m) (hrun : m s=(x,t)) : Tallied t.db :=
  h.of_roster ((hm s).rel_of_run hrun).1

theorem audit_roster (adminId : Option Id) (action targetType : String) (targetId : Option Id)
    (metadata : List (String×String)) :
    Within rosterFrame (recordAudit adminId action targetType targetId metadata) :=
  (audit_core _ _ _ _ _).mono roster_of_core

/-- An administrator's update of a server does not touch its load. -/
theorem updatedServer_roster (k : Id) (payload : VpnServerUpdate) (s : Session) :
    rosterView {s with db := {s.db with
      vpnServers := s.db.vpnServers.modify k (updatedServer payload) (updatedServer_id payload)}}=
      rosterView s := by
  simp only [rosterView,Store.rows_modify,List.map_map]
  congr 2
  apply List.map_congr_left
  intro x _
  by_cases hx : x.id=k
  · simp [hx,VpnServer.gauge,updatedServer]
  · simp [hx]

theorem handleServers_tallied {r : ServerRequest} {a : Response} (h : Tallied s.db)
    (hs : Consistent s.serial s.db) (hrun : handleServers r s=(.ok a,t)) : Tallied t.db := by
  have hlast : ∀ action targetType targetId metadata adminId,Within rosterFrame (do
      recordAudit adminId action targetType targetId metadata
      pure Response.done) :=
    fun _ _ _ _ _ => (audit_roster _ _ _ _ _).bind fun _ => Within.pure _
  cases r with
  | createServer adminId payload =>
    obtain ⟨x,u,hu,hrun⟩ := Eff.bind_ok.mp hrun
    refine Tallied.of_within ?_ (hlast _ _ _ _ _) hrun
    unfold createServer at hu
    rw [nextSerial_bind_run,alter_bind_run] at hu
    refine Tallied.of_within ?_ ((flush_within roster_books).bind fun _ => Within.pure _) hu
    exact h.insertServer hs rfl rfl
  | updateServer adminId serverId payload =>
    refine h.of_within (Within.bind ?_ fun _ => hlast _ _ _ _ _) hrun
    exact (getServer_within serverId).bind fun server =>
      Within.bind (alter_roster (updatedServer_roster server.id payload)) fun _ =>
      flush_within roster_books
  | deleteServer adminId serverId =>
    obtain ⟨_,u,hu,hrun⟩ := Eff.bind_ok.mp hrun
    refine Tallied.of_within ?_ (hlast _ _ _ _ _) hrun
    obtain ⟨server,v,hv,hu⟩ := Eff.bind_ok.mp hu
    obtain ⟨hsv,_⟩ := getServer_ok hv
    subst hsv
    cases hu
    exact h.dropServer server.id
  | createVlessServer adminId payload =>
    obtain ⟨x,u,hu,hrun⟩ := Eff.bind_ok.mp hrun
    refine Tallied.of_within ?_ (hlast _ _ _ _ _) hrun
    unfold createVlessServer at hu
    rw [nextSerial_bind_run,alter_bind_run] at hu
    refine Tallied.of_within ?_ ((flush_within roster_books).bind fun _ =>
      (nextSerial_within roster_books).bind fun _ => Within.bind (alter_roster fun _ => rfl)
      fun _ => (flush_within roster_books).bind fun _ => Within.pure _) hu
    exact h.insertServer hs rfl rfl
  | updateVlessServer adminId serverId payload =>
    refine h.of_within (Within.bind ?_ fun _ => hlast _ _ _ _ _) hrun
    exact (getVlessServer_within serverId).bind fun found =>
      Within.bind (alter_roster (updatedServer_roster found.1.id payload.toVpnServerUpdate))
        fun _ => (flush_within roster_books).bind fun _ => flush_within roster_books
  | deleteVlessServer adminId serverId =>
    obtain ⟨_,u,hu,hrun⟩ := Eff.bind_ok.mp hrun
    refine Tallied.of_within ?_ (hlast _ _ _ _ _) hrun
    obtain ⟨found,v,hv,hdrop⟩ := Eff.bind_ok.mp hu
    have hsv : v=s := ((getVlessServer_within (R := Frame.still) serverId) s).still_run hv
    subst hsv
    cases hdrop
    exact h.dropServer found.1.id

theorem handleDevice_tallied {cfg : Settings} {device : Device} {r : DeviceRequest}
    {a : Response} (h : Tallied s.db) {n : Int} (hs : Consistent n s.db)
    (hd : device∈s.db.devices.rows) (hb : r.balanced s.db device=true)
    (hrun : handleDevice cfg device r s=(.ok a,t)) : Tallied t.db := by
  have hanswer : Within rosterFrame (answerDevice device) :=
    (refreshed_within device).bind fun _ => Within.pure _
  have hstanding : device.status≠.revoked → s.db.Standing device.id :=
    fun hstatus => ⟨device,hd,rfl,hstatus⟩
  cases r with
  | reissue =>
    exact h.of_within ((reissue_roster cfg device).bind fun _ => Within.pure _) hrun
  | disable =>
    obtain ⟨_,u,hu,hrun⟩ := Eff.bind_ok.mp hrun
    have hoff := disable_roster (hstanding (of_decide_eq_true hb))
    exact (h.of_roster (hoff.rel_of_run hu).1).of_within hanswer hrun
  | enable =>
    obtain ⟨_,u,hu,hrun⟩ := Eff.bind_ok.mp hrun
    have hon := enable_roster (hstanding (of_decide_eq_true hb))
    exact (h.of_roster (hon.rel_of_run hu).1).of_within hanswer hrun
  | revoke =>
    obtain ⟨_,u,hu,hrun⟩ := Eff.bind_ok.mp hrun
    exact (h.revoke hs hd hb hu).of_within hanswer hrun
  | createOrRotateLink =>
    exact h.of_within (((createOrRotate_hardware device.id).mono roster_of_hardware).bind
      fun _ => (generateQrCode_within _).bind fun _ => Within.pure _) hrun
  | getLink => exact h.of_within ((getLink_within device.id).bind fun _ => Within.pure _) hrun
  | revokeLink =>
    exact h.of_within ((getLink_within device.id).bind fun link => Within.bind
      (getNow_within.bind fun _ => alter_roster fun _ => rfl) fun _ => answerLink_within _) hrun
  | getProfile =>
    exact h.of_within (Within.bind (getDb_within.bind fun _ => (currentProfile_within _).bind
      fun _ => Within.orRaise _ _) fun _ => Within.pure _) hrun
  | refreshProfile =>
    exact h.of_within (((regenerateProfile_core cfg _ _).mono roster_of_core).bind fun _ =>
      Within.pure _) hrun

/-- A balanced request that succeeds keeps the loads exact. -/
theorem handle_tallied {cfg : Settings} {r : Request} {a : Response} (h : Tallied s.db)
    (hs : Consistent s.serial s.db) (hb : r.balanced s.db=true)
    (hrun : handle cfg r s=(.ok a,t)) : Tallied t.db := by
  cases r with
  | billing r =>
    exact h.of_within ((handleBilling_fleet cfg r).mono fun hrel =>
      roster_of_hardware (hardware_of_fleet hrel)) hrun
  | routing r => exact h.of_within ((handleRouting_core _ r).mono roster_of_core) hrun
  | servers r => exact handleServers_tallied h hs hrun
  | listDevices telegramId =>
    exact h.of_within ((currentUser_within telegramId).bind fun _ => getDb_within.bind fun _ =>
      Within.pure _) hrun
  | createDevice telegramId name serverId protocol =>
    obtain ⟨user,u,hu,hcreate⟩ := Eff.bind_ok.mp hrun
    have hus : u=s := ((currentUser_within (R := Frame.still) telegramId) s).still_run hu
    subst hus
    obtain ⟨result,v,hv,hlast⟩ := Eff.bind_ok.mp hcreate
    cases hlast
    exact provision_tallied h hs hv
  | device telegramId deviceId r =>
    rcases handleOwned_run cfg telegramId deviceId r s with ⟨e,he⟩|⟨user,device,hu,hget,hown,he⟩
    · rw [handle,he] at hrun
      cases hrun
    · rw [handle,he] at hrun
      obtain ⟨_,htelegram,hactive⟩ := currentUser_ok hu
      have hfound : s.db.owned telegramId deviceId=some device := by
        unfold Database.owned
        rw [htelegram,Option.filter_some,if_pos (decide_eq_true hactive),Option.bind_some,hget,
          Option.filter_some,if_pos (decide_eq_true hown)]
      have hdevice : r.balanced s.db device=true := by
        simpa [Request.balanced,hfound] using hb
      exact handleDevice_tallied h hs (Store.mem_of_get? hget) hdevice hrun
  | fetchSubscription token =>
    exact h.of_within (((deliver_hardware token).mono roster_of_hardware).bind fun _ =>
      Within.pure _) hrun
  | sweep asOf => exact h.of_within ((runOnce_roster asOf).bind fun _ => Within.pure _) hrun

end

/-- What holds of the loads in every state a balanced run reaches. -/
def Accounted (w : World) : Prop := Sound w ∧ Tallied w.db

theorem after_accounted {cfg : Settings} {w : World} {c : Call} (h : Accounted w)
    (hb : c.request.balanced w.db=true) : Accounted (after cfg w c) := by
  refine ⟨after_sound h.1,?_⟩
  unfold after
  rcases serve_cases cfg c.env c.request w with ⟨a,s,hm,hserve⟩|⟨x,e,s,_,hserve⟩
  · rw [hserve]
    exact handle_tallied (s := ⟨w,c.env⟩) h.2 h.1.consistent hb hm
  · rw [hserve]
    exact h.2

/-- In every run whose requests are balanced, every load is exact in every state. -/
theorem loads_exact (cfg : Settings) (cs : List Call)
    (h : Conducted (fun w c => c.request.balanced w.db=true) (after cfg) .initial cs) :
    Throughout LoadsExact (after cfg) .initial cs := by
  apply throughout_of_conducted Accounted (fun w hw => hw.2.loads) ?_ _ _ ?_ h
  · exact fun w c hw hb => after_accounted hw hb
  · refine ⟨sound_initial,fun server hserver => ?_,fun c hc => ?_⟩
    · exact absurd hserver (by simp [World.initial,Database.empty])
    · exact absurd hc (by simp [World.initial,Database.empty])

/-- A device through its whole life. -/
def lifetime : List Call := opening++[
  calm 3 (.device 77 11 .disable),
  calm 4 (.device 77 11 .enable),
  calm 5 (.device 77 11 .reissue),
  calm 6 (.device 77 11 .revoke)]

theorem loads_exact_lifetime : Throughout LoadsExact (after sampleSettings) .initial lifetime :=
  loads_exact sampleSettings lifetime (by decide +kernel)

def sampleVless : VlessServerCreate :=
  ⟨"node","NL",none,"node",100,"http://xray",443,"key",["ab"],"sni","chrome","flow","tcp"⟩

/-- A VLESS device is provisioned, disabled and revoked. -/
def drifting : List Call := opening.take 6++[
  calm 2 (.servers (.createVlessServer 1 sampleVless)),
  calm 2 (.servers (.updateServer 1 11 ⟨some .online,none,none⟩)),
  calm 2 (.createDevice 77 "phone" none .vless),
  calm 3 (.device 77 15 .disable),
  calm 4 (.device 77 15 .revoke)]

/-- The revoked device stays in the load of its server. -/
theorem loads_not_exact : ¬∀ (cfg : Settings) (cs : List Call),(∀ c∈cs,c.env.outcomes=[]) →
    Throughout LoadsExact (after cfg) .initial cs := by
  intro h
  have hcalm : ∀ c∈drifting,c.env.outcomes=[] := by decide
  have hdrift : ¬Throughout LoadsExact (after sampleSettings) .initial drifting := by
    decide +kernel
  exact hdrift (h sampleSettings drifting hcalm)

end VpnService.Backend
