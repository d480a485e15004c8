import VpnService.Backend.Reachable
import VpnService.Backend.Provisioning
import VpnService.Backend.Dimming
import VpnService.Backend.Administration
import VpnService.Backend.Contracts

namespace VpnService.Backend

open Agent

/-- The tables fit together, every number at an agent was drawn, and a record under the key of a
row belongs to the device of the row. -/
structure Sound (w : World) : Prop where
  consistent : Consistent w.serial w.db
  fresh : ∀ url k,w.serial≤k → (w.vpn url).get? k=none ∧ (w.xray url).get? k=none
  vpnOwners : ∀ url k r,(w.vpn url).get? k=some r → r.deviceId<w.serial
  xrayOwners : ∀ url k r,(w.xray url).get? k=some r → r.deviceId<w.serial
  peerOwner : ∀ p∈w.db.vpnPeers.rows,∀ url r,(w.vpn url).get? p.publicKey=some r →
    r.deviceId=p.deviceId
  credentialOwner : ∀ c∈w.db.vlessCredentials.rows,∀ url r,(w.xray url).get? c.uuid=some r →
    r.deviceId=c.deviceId

theorem sound_initial : Sound .initial where
  consistent := consistent_empty _
  fresh _ _ _ := ⟨rfl,rfl⟩
  vpnOwners _ _ _ h := by cases h
  xrayOwners _ _ _ h := by cases h
  peerOwner _ hp := absurd hp (by simp [World.initial,Database.empty])
  credentialOwner _ hc := absurd hc (by simp [World.initial,Database.empty])

/-- The rows of one database are rows another has, or new ones of device `d`. -/
structure Descends (n : Int) (d : Id) (a b : Database) : Prop where
  peers : ∀ p∈b.vpnPeers.rows,(n≤p.publicKey ∧ p.deviceId=d) ∨
    ∃ q∈a.vpnPeers.rows,q.publicKey=p.publicKey ∧ q.deviceId=p.deviceId
  credentials : ∀ c∈b.vlessCredentials.rows,(n≤c.uuid ∧ c.deviceId=d) ∨
    ∃ x∈a.vlessCredentials.rows,x.uuid=c.uuid ∧ x.deviceId=c.deviceId

theorem Descends.refl (n : Int) (d : Id) (a : Database) : Descends n d a a :=
  ⟨fun p hp => Or.inr ⟨p,hp,rfl,rfl⟩,fun c hc => Or.inr ⟨c,hc,rfl,rfl⟩⟩

theorem Recolored.descends {a b : Database} (h : Recolored a b) (n : Int) (d : Id) :
    Descends n d a b := by
  constructor
  · intro p hp
    obtain ⟨q,hq,_,hd,_,hkey,_⟩ := h.peer_from hp
    exact Or.inr ⟨q,hq,hkey,hd⟩
  · intro c hc
    obtain ⟨x,hx,_,hd,_,hu⟩ := h.credentials c hc
    exact Or.inr ⟨x,hx,hu.symm,hd.symm⟩

/-- A new device's number is the number of no row that refers to a device. -/
theorem Consistent.unreferred {n : Int} {db : Database} (h : Consistent n db) :
    (∀ p∈db.vpnPeers.rows,p.deviceId<n) ∧ ∀ c∈db.vlessCredentials.rows,c.deviceId<n := by
  constructor
  · intro p hp
    obtain ⟨d,hd,_⟩ := h.peerDevices p hp
    have hlt := h.devices d (Store.mem_of_get? hd)
    rw [Store.key_of_get? hd] at hlt
    exact hlt
  · intro c hc
    obtain ⟨d,hd,_⟩ := h.credentialDevices c hc
    have hlt := h.devices d (Store.mem_of_get? hd)
    rw [Store.key_of_get? hd] at hlt
    exact hlt

section

variable {s t : Session} {d : Id} {db : Database}

/-- A key an operation on `d` may write under was drawn by it or is that of a row of `d`. -/
theorem key_of_scope (h : Sound s.toWorld) {k : Int} (hK : (Scope.of d s).key k) :
    s.serial≤k ∨ d<s.serial := by
  rcases hK with hge|⟨p,hp,hpd,_⟩|⟨c,hc,hcd,_⟩
  · exact Or.inl hge
  · exact Or.inr (hpd ▸ h.consistent.unreferred.1 p hp)
  · exact Or.inr (hcd ▸ h.consistent.unreferred.2 c hc)

theorem below_of_scope (h : Sound s.toWorld) (hs : s.serial≤t.serial) (hd : d≤ s.serial)
    {k : Int} (hK : (Scope.of d s).key k) (hk : k<t.serial) : d<t.serial := by
  rcases key_of_scope h hK with hge|hlt
  · exact lt_of_le_of_lt (hd.trans hge) hk
  · exact hlt.trans_le hs

/-- What an operation on device `d` leaves is sound, with its own database or the old one. -/
theorem Sound.of_touched (h : Sound s.toWorld) (ht : Touched (Scope.of d s).key d s t)
    (hd : d≤ s.serial) (hdb : Consistent t.serial db) (hrows : Descends s.serial d s.db db) :
    Sound {t.toWorld with db := db} where
  consistent := hdb
  fresh := ht.fresh h.fresh
  vpnOwners url k r hr := by
    have hk : k<t.serial := by
      by_contra hge
      have hnone := (ht.fresh h.fresh url k (not_lt.mp hge)).1
      rw [hr] at hnone
      cases hnone
    rcases ht.vpnOwner url k r hr with he|⟨r₀,h₀,he⟩
    · by_cases hK : (Scope.of d s).key k
      · rw [he]
        exact below_of_scope h ht.serial hd hK hk
      · rw [ht.vpn url k hK] at hr
        exact (h.vpnOwners url k r hr).trans_le ht.serial
    · rw [← he]
      exact (h.vpnOwners url k r₀ h₀).trans_le ht.serial
  xrayOwners url k r hr := by
    have hk : k<t.serial := by
      by_contra hge
      have hnone := (ht.fresh h.fresh url k (not_lt.mp hge)).2
      rw [hr] at hnone
      cases hnone
    rcases ht.xrayOwner url k r hr with he|⟨r₀,h₀,he⟩
    · by_cases hK : (Scope.of d s).key k
      · rw [he]
        exact below_of_scope h ht.serial hd hK hk
      · rw [ht.xray url k hK] at hr
        exact (h.xrayOwners url k r hr).trans_le ht.serial
    · rw [← he]
      exact (h.xrayOwners url k r₀ h₀).trans_le ht.serial
  peerOwner p hp url r hr := by
    rcases hrows.peers p hp with ⟨hnew,hpd⟩|⟨q,hq,hkey,hqd⟩
    · rcases ht.vpnOwner url p.publicKey r hr with he|⟨r₀,h₀,_⟩
      · rw [he,hpd]
      · rw [(h.fresh url p.publicKey hnew).1] at h₀
        cases h₀
    · rw [← hqd]
      rw [← hkey] at hr
      rcases ht.vpnOwner url q.publicKey r hr with he|⟨r₀,h₀,he⟩
      · by_cases hK : (Scope.of d s).key q.publicKey
        · rcases hK with hge|⟨x,hx,hxd,hxk⟩|⟨c,hc,_,hck⟩
          · have hlt := (h.consistent.peerNumbers q hq).2
            exact absurd hge (not_le.mpr hlt)
          · rw [he,← hxd,h.consistent.peerKeys x hx q hq hxk]
          · exact absurd hck.symm (h.consistent.distinct q hq c hc)
        · rw [ht.vpn url q.publicKey hK] at hr
          exact h.peerOwner q hq url r hr
      · rw [← he]
        exact h.peerOwner q hq url r₀ h₀
  credentialOwner c hc url r hr := by
    rcases hrows.credentials c hc with ⟨hnew,hcd⟩|⟨x,hx,hkey,hxd⟩
    · rcases ht.xrayOwner url c.uuid r hr with he|⟨r₀,h₀,_⟩
      · rw [he,hcd]
      · rw [(h.fresh url c.uuid hnew).2] at h₀
        cases h₀
    · rw [← hxd]
      rw [← hkey] at hr
      rcases ht.xrayOwner url x.uuid r hr with he|⟨r₀,h₀,he⟩
      · by_cases hK : (Scope.of d s).key x.uuid
        · rcases hK with hge|⟨p,hp,_,hpk⟩|⟨y,hy,hyd,hyk⟩
          · have hlt := (h.consistent.credentialNumbers x hx).2
            exact absurd hge (not_le.mpr hlt)
          · exact absurd hpk (h.consistent.distinct p hp x hx)
          · rw [he,← hyd,h.consistent.uuids y hy x hx hyk]
        · rw [ht.xray url x.uuid hK] at hr
          exact h.credentialOwner x hx url r hr
      · rw [← he]
        exact h.credentialOwner x hx url r₀ h₀

/-- Where no record is new, neither is an owner. -/
theorem Sound.of_dimmed (h : Sound s.toWorld) (ht : Dimmed (fun _ => False) s t)
    (hs : s.serial≤t.serial) (hdb : Consistent t.serial db)
    (hp : ∀ p∈db.vpnPeers.rows,∃ q∈s.db.vpnPeers.rows,q.publicKey=p.publicKey ∧
      q.deviceId=p.deviceId)
    (hc : ∀ c∈db.vlessCredentials.rows,∃ x∈s.db.vlessCredentials.rows,x.uuid=c.uuid ∧
      x.deviceId=c.deviceId) : Sound {t.toWorld with db := db} where
  consistent := hdb
  fresh url k hk := by
    have hold := h.fresh url k (hs.trans hk)
    constructor
    · cases hv : (t.vpn url).get? k with
      | none => rfl
      | some r =>
        obtain ⟨r₀,h₀,_⟩ := ht.vpn url k r id hv
        rw [hold.1] at h₀
        cases h₀
    · cases hx : (t.xray url).get? k with
      | none => rfl
      | some r =>
        obtain ⟨r₀,h₀,_⟩ := ht.xray url k r id hx
        rw [hold.2] at h₀
        cases h₀
  vpnOwners url k r hr := by
    obtain ⟨r₀,h₀,he,_⟩ := ht.vpn url k r id hr
    rw [← he]
    exact (h.vpnOwners url k r₀ h₀).trans_le hs
  xrayOwners url k r hr := by
    obtain ⟨r₀,h₀,he,_⟩ := ht.xray url k r id hr
    rw [← he]
    exact (h.xrayOwners url k r₀ h₀).trans_le hs
  peerOwner p hp' url r hr := by
    obtain ⟨q,hq,hkey,hqd⟩ := hp p hp'
    obtain ⟨r₀,h₀,he,_⟩ := ht.vpn url p.publicKey r id hr
    rw [← he,← hqd]
    exact h.peerOwner q hq url r₀ (by rw [hkey]; exact h₀)
  credentialOwner c hc' url r hr := by
    obtain ⟨x,hx,hkey,hxd⟩ := hc c hc'
    obtain ⟨r₀,h₀,he,_⟩ := ht.xray url c.uuid r id hr
    rw [← he,← hxd]
    exact h.credentialOwner x hx url r₀ (by rw [hkey]; exact h₀)

/-- A change of the database alone, and a rollback of one. -/
theorem Sound.of_agents (h : Sound s.toWorld) (hv : t.vpn=s.vpn) (hx : t.xray=s.xray)
    (hs : s.serial≤t.serial) (hdb : Consistent t.serial db)
    (hp : ∀ p∈db.vpnPeers.rows,p∈s.db.vpnPeers.rows)
    (hc : ∀ c∈db.vlessCredentials.rows,c∈s.db.vlessCredentials.rows) :
    Sound {t.toWorld with db := db} := by
  refine h.of_dimmed ?_ hs hdb (fun p hp' => ⟨p,hp p hp',rfl,rfl⟩) fun c hc' => ⟨c,hc c hc',rfl,rfl⟩
  constructor
  · intro url k r _ hr
    exact ⟨r,hv ▸ hr,rfl,id⟩
  · intro url k r _ hr
    exact ⟨r,hx ▸ hr,rfl,id⟩

theorem Sound.covers (h : Sound s.toWorld) (d : Id) : (Scope.of d s).Covers d s :=
  Scope.of_covers fun c hc _ => (h.consistent.credentialNumbers c hc).2

theorem Consistent.of_hardware {n : Int} (h : Consistent n s.db)
    (hview : hardwareView t=hardwareView s) : Consistent n t.db := by
  simp only [hardwareView,Prod.mk.injEq] at hview
  obtain ⟨hv,hf,hd,hp,hc,_,_⟩ := hview
  exact h.of_fleet hd hv hf hp hc

/-- A changed load is a recoloring. -/
theorem recolored_load {a : Database} {k : Id} {f : VpnServer → VpnServer}
    (hf : ∀ x,(f x).id=x.id) (hu : ∀ x,(f x).unloaded=x.unloaded) :
    Recolored a {a with vpnServers := a.vpnServers.modify k f hf} := by
  refine {Recolored.refl a with servers := fun j => ?_}
  rw [Store.get?_modify]
  split_ifs
  · cases a.vpnServers.get? j with
    | none => rfl
    | some x => exact congrArg some (hu x)
  · rfl

end

/-- What a successful reissue leaves is consistent. -/
theorem reissue_consistent {cfg : Settings} {device : Device} {s t : Session}
    {r : ProvisionedDevice} (h : Consistent s.serial s.db)
    (hget : s.db.devices.get? device.id=some device) (hrun : reissue cfg device s=(.ok r,t)) :
    Consistent t.serial t.db ∧ Descends s.serial device.id s.db t.db := by
  obtain ⟨hproto,server,u,v,p,hserver,_,hretire,hcreated,hcore⟩ := reissue_ok hrun
  have hproto' : device.protocol=.wireguard := by
    cases hp : device.protocol with
    | wireguard => rfl
    | vless => exact absurd hp hproto
  have hrec := ((withActivePeer_within device.id fun q => retirePeer_recoloring server q) s).rel_of_run
    hretire
  have hu : Consistent u.serial u.db := (hrec.1.consistent h).later hrec.2
  obtain ⟨status,hrow⟩ := hrec.1.device_of hget
  have hv : Consistent v.serial v.db := by
    rw [hcreated.db]
    refine hu.insertPeer hcreated.drawn.1 hcreated.drawn.2 hcreated.below.1 hcreated.below.2
      (d := {device with status := status}) ?_ hproto' ?_ ?_
    · rw [hcreated.onDevice]
      exact hrow
    · rw [hcreated.onServer]
      exact hserver
    · rw [hcreated.onDevice]
      exact retireActive_none h hretire
  have hdevice : Consistent v.serial
      {v.db with devices := v.db.devices.modify device.id (withPeer p) fun _ => rfl} := by
    refine hv.updateDevice _ (fun _ => rfl) (fun x hx k hk => ?_) fun x hx q hq hqd hact => ?_
    · exact hv.deviceServers x (Store.mem_of_get? hx) k hk
    · obtain ⟨y,hy,_,hs⟩ := hv.peerDevices q hq
      rw [hqd,hx] at hy
      cases hy
      exact hs hact
  have hhard := hardware_of_core hcore
  constructor
  · exact (hdevice.of_hardware hhard.1).later hhard.2
  · have hview := hhard.1
    simp only [hardwareView,Prod.mk.injEq] at hview
    obtain ⟨_,_,_,hpeers,hcreds,_,_⟩ := hview
    have hold := hrec.1.descends s.serial device.id
    constructor
    · intro q hq
      rw [hpeers,hcreated.db] at hq
      have hfresh : ∀ x∈u.db.vpnPeers.rows,x.id≠p.id := by
        intro x hx
        exact ((hu.peerNumbers x hx).1.trans_le hcreated.drawn.2).ne
      rcases (Store.mem_insert hfresh).mp hq with hq|hq
      · exact hold.peers q hq
      · rw [hq]
        exact Or.inl ⟨hrec.2.trans hcreated.drawn.1,hcreated.onDevice⟩
    · intro c hc
      rw [hcreds,hcreated.db] at hc
      exact hold.credentials c hc

theorem get?_withDevice {s : Session} {d : Device} (h : Consistent s.serial s.db)
    (hid : d.id=s.serial) : (s.db.devices.insert d).get? s.serial=some d := by
  have hfresh : ∀ x∈s.db.devices.rows,x.id≠d.id := by
    intro x hx
    rw [hid]
    exact (h.devices x hx).ne
  rw [Store.get?_insert _ _ hfresh,if_pos hid]

/-- What a successful provisioning leaves is consistent. -/
theorem provision_consistent {cfg : Settings} {user : User} {name : String}
    {requested : Option Id} {protocol : VpnProtocol} {s t : Session} {r : ProvisionedDevice}
    (h : Consistent s.serial s.db)
    (hrun : provision cfg user name requested protocol s=(.ok r,t)) :
    Consistent t.serial t.db ∧ Descends s.serial s.serial s.db t.db := by
  cases protocol with
  | wireguard =>
    obtain ⟨_,_,server,u,v,p,hserver,hdev,hcreated,hlast⟩ := provisionWireguard_ok hrun
    have hsu : Consistent u.serial u.db := by
      have hins := h.insertDevice (d := freshDevice s.serial user.id name none .wireguard) rfl
        (fun k hk => by cases hk)
      exact (Consistent.of_hardware (s := withDevice _ s) hins hdev.1).later hdev.2
    have hview := hdev.1
    simp only [hardwareView,withDevice,Prod.mk.injEq] at hview
    obtain ⟨hservers,_,hdevices,hpeers,hcreds,_,_⟩ := hview
    have hrow : u.db.devices.get? s.serial=
        some (freshDevice s.serial user.id name none .wireguard) := by
      rw [hdevices]
      exact get?_withDevice h rfl
    have hnone : ∀ q∈u.db.vpnPeers.rows,q.deviceId≠s.serial := by
      intro q hq
      rw [hpeers] at hq
      exact (h.unreferred.1 q hq).ne
    have hmod : Consistent u.serial
        {u.db with devices := u.db.devices.modify s.serial (withServer p server) fun _ => rfl} := by
      refine hsu.updateDevice _ (fun _ => rfl) (fun x _ k hk => ?_) fun x _ q hq hqd => ?_
      · cases hk
        rw [hservers,hserver]
        rfl
      · exact absurd hqd (hnone q hq)
    have hgot : (u.db.devices.modify s.serial (withServer p server) fun _ => rfl).get? s.serial=
        some (withServer p server (freshDevice s.serial user.id name none .wireguard)) :=
      (Store.get?_modify_self _ _ _ _).trans (by rw [hrow]; rfl)
    have hins : Consistent v.serial
        {u.db with
          devices := u.db.devices.modify s.serial (withServer p server) fun _ => rfl
          vpnPeers := u.db.vpnPeers.insert p} := by
      refine hmod.insertPeer hcreated.drawn.1 hcreated.drawn.2 hcreated.below.1 hcreated.below.2
        (d := withServer p server (freshDevice s.serial user.id name none .wireguard)) ?_ rfl ?_ ?_
      · rw [hcreated.onDevice]
        exact hgot
      · rw [hcreated.onServer]
        rfl
      · intro q hq hqd
        rw [hcreated.onDevice] at hqd
        exact absurd hqd (hnone q hq)
    have hload := (recolored_load (k := server.id)
      (f := fun x => {x with currentLoad := x.currentLoad+1}) (fun _ => rfl)
      fun _ => rfl).consistent hins
    constructor
    · refine Consistent.later (Consistent.of_hardware (n := v.serial) ?_ hlast.1) hlast.2
      exact hload.of_fleet (by rw [hcreated.db]) (by rw [hcreated.db]) (by rw [hcreated.db])
        (by rw [hcreated.db]) (by rw [hcreated.db])
    · have hview := hlast.1
      simp only [hardwareView,Prod.mk.injEq] at hview
      obtain ⟨_,_,_,hpeers',hcreds',_,_⟩ := hview
      have hfresh : ∀ x∈u.db.vpnPeers.rows,x.id≠p.id := by
        intro x hx
        exact ((hsu.peerNumbers x hx).1.trans_le hcreated.drawn.2).ne
      have hle : s.serial≤u.serial := (Int.lt_succ _).le.trans hdev.2
      constructor
      · intro q hq
        rw [hpeers',hcreated.db] at hq
        rcases (Store.mem_insert hfresh).mp hq with hq|hq
        · exact Or.inr ⟨q,hpeers ▸ hq,rfl,rfl⟩
        · rw [hq]
          exact Or.inl ⟨hle.trans hcreated.drawn.1,hcreated.onDevice⟩
      · intro c hc
        rw [hcreds',hcreated.db,hcreds] at hc
        exact Or.inr ⟨c,hc,rfl,rfl⟩
  | vless =>
    obtain ⟨_,a,ha,hrun⟩ := Eff.bind_ok.mp hrun
    obtain ⟨hsa,_⟩ := enforceDeviceLimit_ok ha
    subst hsa
    obtain ⟨_,server,config,u,id,hserver,_,hdev,hid,hidt,hlast⟩ := provisionVless_ok hrun
    have hsu : Consistent u.serial u.db := by
      have hins := h.insertDevice
        (d := freshDevice s.serial user.id name (some server.id) .vless) rfl
        (fun k hk => by
          cases hk
          rw [hserver]
          rfl)
      exact (Consistent.of_hardware (s := withDevice _ s) hins hdev.1).later hdev.2
    have hview := hdev.1
    simp only [hardwareView,withDevice,Prod.mk.injEq] at hview
    obtain ⟨hservers,_,hdevices,hpeers,hcreds,_,_⟩ := hview
    have hrow : u.db.devices.get? s.serial=
        some (freshDevice s.serial user.id name (some server.id) .vless) := by
      rw [hdevices]
      exact get?_withDevice h rfl
    have hins : Consistent t.serial {u.db with
        vlessCredentials :=
          u.db.vlessCredentials.insert ⟨id,s.serial,server.id,u.serial,.active,none,none⟩} := by
      apply hsu.insertCredential le_rfl hid.le (hid.trans hidt) hidt hrow rfl
      · rw [hservers,hserver]
        rfl
      · intro x hx
        rw [hcreds] at hx
        exact (h.unreferred.2 x hx).ne
    have hload := (recolored_load (k := server.id)
      (f := fun x => {x with currentLoad := x.currentLoad+1}) (fun _ => rfl)
      fun _ => rfl).consistent hins
    constructor
    · exact Consistent.of_hardware hload hlast
    · simp only [hardwareView,setXray,Prod.mk.injEq] at hlast
      obtain ⟨_,_,_,hpeers',hcreds',_,_⟩ := hlast
      have hfresh : ∀ x∈u.db.vlessCredentials.rows,x.id≠id := by
        intro x hx
        exact ((hsu.credentialNumbers x hx).1.trans hid).ne
      have hle : s.serial≤u.serial := (Int.lt_succ _).le.trans hdev.2
      constructor
      · intro q hq
        rw [hpeers',hpeers] at hq
        exact Or.inr ⟨q,hq,rfl,rfl⟩
      · intro c hc
        rw [hcreds'] at hc
        rcases (Store.mem_insert hfresh).mp hc with hc|hc
        · exact Or.inr ⟨c,hcreds ▸ hc,rfl,rfl⟩
        · rw [hc]
          exact Or.inl ⟨hle,rfl⟩

/-- An operation on a device leaves a sound state, whether it is committed or rolled back. -/
theorem handleDevice_sound {cfg : Settings} {device : Device} {r : DeviceRequest} {s t : Session}
    {x : Except AppError Response} (h : Sound s.toWorld)
    (hget : s.db.devices.get? device.id=some device) (hrun : handleDevice cfg device r s=(x,t)) :
    Sound {t.toWorld with db := s.db} ∧ ∀ a,x=.ok a → Sound t.toWorld := by
  have ht := (handleDevice_touching cfg (h.covers device.id) r).rel_of_run hrun
  have htouched := ht (Scope.of_fits device.id s)
  have hlt : device.id≤ s.serial := (h.consistent.devices device (Store.mem_of_get? hget)).le
  constructor
  · exact h.of_touched htouched hlt (h.consistent.later htouched.serial) (Descends.refl _ _ _)
  · intro a ha
    subst ha
    by_cases hr : r=.reissue
    · subst hr
      obtain ⟨result,u,hu,hrun⟩ := Eff.bind_ok.mp hrun
      cases hrun
      have hcons := reissue_consistent h.consistent hget hu
      exact h.of_touched htouched hlt hcons.1 hcons.2
    · have hrec := (handleDevice_recoloring cfg device r hr s).rel_of_run hrun
      exact h.of_touched htouched hlt ((hrec.1.consistent h.consistent).later hrec.2)
        (hrec.1.descends _ _)

theorem provision_sound {cfg : Settings} {user : User} {name : String} {requested : Option Id}
    {protocol : VpnProtocol} {s t : Session} {x : Except AppError ProvisionedDevice}
    (h : Sound s.toWorld) (hrun : provision cfg user name requested protocol s=(x,t)) :
    Sound {t.toWorld with db := s.db} ∧ ∀ a,x=.ok a → Sound t.toWorld := by
  have ht := (provision_touching cfg user name requested protocol (h.covers s.serial)).rel_of_run
    hrun
  have htouched := ht (Scope.of_fits s.serial s)
  constructor
  · exact h.of_touched htouched le_rfl (h.consistent.later htouched.serial) (Descends.refl _ _ _)
  · intro a ha
    subst ha
    have hcons := provision_consistent h.consistent hrun
    exact h.of_touched htouched le_rfl hcons.1 hcons.2

/-- A sweep leaves a sound state, whether it is committed or rolled back. -/
theorem runOnce_sound {asOf : Option Time} {s t : Session} {x : Except AppError (List Id)}
    (h : Sound s.toWorld) (hrun : runOnce asOf s=(x,t)) :
    Sound {t.toWorld with db := s.db} ∧ Sound t.toWorld := by
  have hdim := ((runOnce_dimming (N := fun _ => False) (n := s.serial) asOf) s).rel_of_run hrun
    le_rfl
  have hrec := (runOnce_recoloring asOf s).rel_of_run hrun
  constructor
  · exact h.of_dimmed hdim.1 hdim.2 (h.consistent.later hdim.2) (fun p hp => ⟨p,hp,rfl,rfl⟩)
      fun c hc => ⟨c,hc,rfl,rfl⟩
  · refine h.of_dimmed hdim.1 hdim.2 ((hrec.1.consistent h.consistent).later hdim.2)
      (fun p hp => ?_) fun c hc => ?_
    · obtain ⟨q,hq,_,hd,_,hkey,_⟩ := hrec.1.peer_from hp
      exact ⟨q,hq,hkey,hd⟩
    · obtain ⟨y,hy,_,hd,_,hu⟩ := hrec.1.credentials c hc
      exact ⟨y,hy,hu.symm,hd.symm⟩

/-- A response changes nothing that soundness is about. -/
theorem Sound.of_hardware {s t : Session} (h : Sound s.toWorld) (ht : hardwareFrame.rel s t) :
    Sound {t.toWorld with db := s.db} ∧ Sound t.toWorld := by
  have hview := ht.1
  simp only [hardwareView,Prod.mk.injEq] at hview
  obtain ⟨hv,hf,hd,hp,hc,hvpn,hxray⟩ := hview
  have hcons : Consistent t.serial t.db := (h.consistent.of_hardware ht.1).later ht.2
  constructor
  · exact h.of_agents hvpn hxray ht.2 (h.consistent.later ht.2) (fun _ => id) fun _ => id
  · refine h.of_agents hvpn hxray ht.2 hcons (fun p hp' => ?_) fun c hc' => ?_
    · rw [← hp]
      exact hp'
    · rw [← hc]
      exact hc'

theorem deliver_billing (token : Secret) : Within billingFrame (deliver token) :=
  deliver_within (fun _ => getNow_within.bind fun _ => alter_billing fun _ => rfl) token

theorem deliver_hardware (token : Secret) : Within hardwareFrame (deliver token) :=
  deliver_within (fun _ => getNow_within.bind fun _ => alter_hardware fun _ => rfl) token

theorem hardware_of_fleet {s t : Session} (h : fleetFrame.rel s t) : hardwareFrame.rel s t := by
  obtain ⟨hview,hs⟩ := h
  simp only [fleetView,Prod.mk.injEq] at hview
  obtain ⟨hv,hf,hd,hp,hc,_,hvpn,hxray⟩ := hview
  exact ⟨by simp only [hardwareView,hv,hf,hd,hp,hc,hvpn,hxray],hs⟩

/-- What any request leaves is sound, whether it is committed or rolled back. -/
theorem handle_sound (cfg : Settings) (r : Request) {s t : Session}
    {x : Except AppError Response} (h : Sound s.toWorld) (hrun : handle cfg r s=(x,t)) :
    Sound {t.toWorld with db := s.db} ∧ ∀ a,x=.ok a → Sound t.toWorld := by
  have hhard : Within hardwareFrame (handle cfg r) →
      Sound {t.toWorld with db := s.db} ∧ ∀ a,x=.ok a → Sound t.toWorld := by
    intro hw
    have hboth := h.of_hardware ((hw s).rel_of_run hrun)
    exact ⟨hboth.1,fun _ _ => hboth.2⟩
  have hnone : t=s → Sound {t.toWorld with db := s.db} ∧ ∀ a,x=.ok a → Sound t.toWorld := by
    intro hts
    subst hts
    exact ⟨h,fun _ _ => h⟩
  cases r with
  | billing r => exact hhard ((handleBilling_fleet cfg r).mono hardware_of_fleet)
  | routing r => exact hhard ((handleRouting_core _ r).mono hardware_of_core)
  | servers r =>
    have hadm := (handleServers_administering r s).rel_of_run hrun
    constructor
    · exact h.of_agents hadm.vpn hadm.xray hadm.serial (h.consistent.later hadm.serial)
        (fun _ => id) fun _ => id
    · intro _ _
      exact h.of_agents hadm.vpn hadm.xray hadm.serial (hadm.consistent h.consistent) hadm.peers
        hadm.credentials
  | listDevices telegramId =>
    apply hhard
    exact (currentUser_within telegramId).bind fun _ => getDb_within.bind fun _ => Within.pure _
  | createDevice telegramId name serverId protocol =>
    rcases handleCreateDevice_run cfg telegramId name serverId protocol s with
      ⟨e,he⟩|⟨user,_,he⟩
    · have hts : t=s := by
        rw [handle,he] at hrun
        cases hrun
        rfl
      exact hnone hts
    · rw [handle,he] at hrun
      cases hp : provision cfg user name serverId protocol s with
      | mk y u =>
        have hboth := provision_sound h hp
        cases y with
        | ok a =>
          rw [Eff.bind_run_ok hp] at hrun
          cases hrun
          exact ⟨hboth.1,fun _ _ => hboth.2 a rfl⟩
        | error e =>
          rw [Eff.bind_run_error hp] at hrun
          cases hrun
          exact ⟨hboth.1,fun _ ha => by cases ha⟩
  | device telegramId deviceId r =>
    rcases handleOwned_run cfg telegramId deviceId r s with ⟨e,he⟩|⟨user,device,_,hget,_,he⟩
    · have hts : t=s := by
        rw [handle,he] at hrun
        cases hrun
        rfl
      exact hnone hts
    · rw [handle,he] at hrun
      have hid : device.id=deviceId := Store.key_of_get? hget
      exact handleDevice_sound h (by rw [hid]; exact hget) hrun
  | fetchSubscription token =>
    exact hhard ((deliver_hardware token).bind fun _ => Within.pure _)
  | sweep asOf =>
    rw [handle] at hrun
    cases hp : runOnce asOf s with
    | mk y u =>
      have hboth := runOnce_sound h hp
      cases y with
      | ok a =>
        rw [Eff.bind_run_ok hp] at hrun
        cases hrun
        exact ⟨hboth.1,fun _ _ => hboth.2⟩
      | error e =>
        rw [Eff.bind_run_error hp] at hrun
        cases hrun
        exact ⟨hboth.1,fun _ ha => by cases ha⟩

/-- Numbers are drawn, never given back. -/
theorem handle_serial (cfg : Settings) (r : Request) {s t : Session}
    {x : Except AppError Response} (h : Sound s.toWorld) (hrun : handle cfg r s=(x,t)) :
    s.serial≤t.serial := by
  cases r with
  | billing r => exact ((handleBilling_fleet cfg r s).rel_of_run hrun).2
  | routing r => exact ((handleRouting_core _ r s).rel_of_run hrun).2
  | servers r => exact ((handleServers_billing r s).rel_of_run hrun).2
  | listDevices telegramId =>
    have hw : Within hardwareFrame (handle cfg (.listDevices telegramId)) :=
      (currentUser_within telegramId).bind fun _ => getDb_within.bind fun _ => Within.pure _
    exact ((hw s).rel_of_run hrun).2
  | createDevice telegramId name serverId protocol =>
    rcases handleCreateDevice_run cfg telegramId name serverId protocol s with
      ⟨e,he⟩|⟨user,_,he⟩
    · rw [handle,he] at hrun
      cases hrun
      exact le_rfl
    · rw [handle,he] at hrun
      have ht := ((provision_touching cfg user name serverId protocol (h.covers s.serial)).bind
        fun a u _ => Within.pure (Response.provisioned a) u).rel_of_run hrun
      exact (ht (Scope.of_fits _ s)).serial
  | device telegramId deviceId r =>
    rcases handleOwned_run cfg telegramId deviceId r s with ⟨e,he⟩|⟨user,device,_,_,_,he⟩
    · rw [handle,he] at hrun
      cases hrun
      exact le_rfl
    · rw [handle,he] at hrun
      have ht := (handleDevice_touching cfg (h.covers device.id) r).rel_of_run hrun
      exact (ht (Scope.of_fits _ s)).serial
  | fetchSubscription token =>
    have hw : Within hardwareFrame (handle cfg (.fetchSubscription token)) :=
      (deliver_hardware token).bind fun _ => Within.pure _
    exact ((hw s).rel_of_run hrun).2
  | sweep asOf =>
    have hw : Within recoloring (handle cfg (.sweep asOf)) :=
      (runOnce_recoloring asOf).bind fun _ => Within.pure _
    exact ((hw s).rel_of_run hrun).2

/-- Only requests about billing, and the sweep through the subscriptions it expires, change what is
read off the billing tables. -/
theorem handle_withinAt {R : Frame Session} (hR : ∀ {s t},billingFrame.rel s t → R.rel s t)
    (cfg : Settings) {r : Request} {s : Session}
    (hexpire : ∀ asOf,r=.sweep asOf → ∀ x,Within R (expire x)) (h : Sound s.toWorld)
    (hbilling : ∀ b,r=.billing b → WithinAt R (handleBilling cfg b) s) :
    WithinAt R (handle cfg r) s := by
  have hcore : ∀ {s t},coreFrame.rel s t → R.rel s t := fun hc => hR (billing_of_core hc)
  cases r with
  | billing b => exact hbilling b rfl
  | routing r => exact (handleRouting_core _ r s).mono hcore
  | servers r => exact (handleServers_billing r s).mono hR
  | listDevices telegramId =>
    exact ((currentUser_within telegramId).bind fun _ => getDb_within.bind fun _ =>
      Within.pure _ : Within R _) s
  | createDevice telegramId name serverId protocol =>
    rcases handleCreateDevice_run cfg telegramId name serverId protocol s with
      ⟨e,he⟩|⟨user,_,he⟩
    · show R.rel s (handleCreateDevice cfg telegramId name serverId protocol s).2
      rw [he]
      exact R.refl s
    · show R.rel s (handleCreateDevice cfg telegramId name serverId protocol s).2
      rw [he]
      have ht := (provision_touching cfg user name serverId protocol (h.covers s.serial)).bind
        fun a u _ => Within.pure (Response.provisioned a) u
      have htouched := ht (Scope.of_fits _ s)
      exact hR ⟨htouched.db.billing,htouched.serial⟩
  | device telegramId deviceId r =>
    rcases handleOwned_run cfg telegramId deviceId r s with ⟨e,he⟩|⟨user,device,_,_,_,he⟩
    · show R.rel s (handleOwned cfg telegramId deviceId r s).2
      rw [he]
      exact R.refl s
    · show R.rel s (handleOwned cfg telegramId deviceId r s).2
      rw [he]
      have htouched := (handleDevice_touching cfg (h.covers device.id) r) (Scope.of_fits _ s)
      exact hR ⟨htouched.db.billing,htouched.serial⟩
  | fetchSubscription token =>
    exact (((deliver_billing token).bind fun _ => Within.pure _) s).mono hR
  | sweep asOf =>
    have hsweep : Within R (runOnce asOf) :=
      runOnce_within (fun ha => hcore (core_of_audit ha)) (hexpire asOf rfl)
        (fun d => (disable_hosting d).mono fun hh => hR (billing_of_contract (contract_of_hosting hh)))
        asOf
    exact (hsweep.bind fun _ => Within.pure _) s

theorem after_sound {cfg : Settings} {w : World} {c : Call} (hw : Sound w) :
    Sound (after cfg w c) := by
  unfold after
  rcases serve_cases cfg c.env c.request w with ⟨a,s,hm,ht⟩|⟨x,e,s,hm,ht⟩
  · rw [ht]
    exact (handle_sound cfg c.request (s := ⟨w,c.env⟩) hw hm).2 a rfl
  · rw [ht]
    exact (handle_sound cfg c.request (s := ⟨w,c.env⟩) hw hm).1

/-- Every state the backend reaches is sound, whatever the agents and the database answer. -/
theorem reachable_sound {cfg : Settings} {w : World} (h : Reachable cfg w) : Sound w :=
  h.invariant Sound sound_initial fun _ _ => after_sound

end VpnService.Backend
