import VpnService.Backend.Soundness

namespace VpnService.Backend

/-- A device row repeats the key and the address of its active peer, and no server has given one
address to two peers. -/
structure Mirrored (db : Database) : Prop where
  mirror : ∀ p∈db.vpnPeers.rows,p.status=.active → ∀ d,db.devices.get? p.deviceId=some d →
    d.publicKey=some p.publicKey ∧ d.assignedIp=some p.assignedIp
  addresses : ∀ p∈db.vpnPeers.rows,∀ q∈db.vpnPeers.rows,p.serverId=q.serverId →
    p.assignedIp=q.assignedIp → p=q

theorem mirrored_empty : Mirrored .empty := by
  constructor <;> intro p hp <;> exact absurd hp (by simp [Database.empty])

theorem Mirrored.of_tables {a b : Database} (h : Mirrored a) (hd : b.devices=a.devices)
    (hp : b.vpnPeers=a.vpnPeers) : Mirrored b := by
  constructor
  · simpa only [hd,hp] using h.mirror
  · simpa only [hp] using h.addresses

theorem Mirrored.of_hardware {s t : Session} (h : Mirrored s.db) (ht : hardwareFrame.rel s t) :
    Mirrored t.db := by
  have hview := ht.1
  simp only [hardwareView,Prod.mk.injEq] at hview
  exact h.of_tables hview.2.2.1 hview.2.2.2.1

/-- A change of statuses alone keeps what the rows repeat. -/
theorem Recolored.mirrored {a b : Database} (h : Recolored a b) (ha : Mirrored a) :
    Mirrored b where
  mirror p hp hact d hd := by
    obtain ⟨q,hq,he,hs⟩ := h.peers p hp
    simp only [VpnPeer.mk.injEq] at he
    obtain ⟨_,hdevice,_,hkey,hip,_⟩ := he
    obtain ⟨status,hrow⟩ := h.device_from hd
    rw [hdevice] at hrow
    have hold := ha.mirror q hq (hs hact) _ hrow
    rw [hkey,hip]
    exact hold
  addresses p hp q hq hserver hip := by
    obtain ⟨x,hx,hpx,_⟩ := h.peers p hp
    obtain ⟨y,hy,hqy,_⟩ := h.peers q hq
    simp only [VpnPeer.mk.injEq] at hpx hqy
    have hxy : x=y := by
      apply ha.addresses x hx y hy
      · rw [← hpx.2.2.1,← hqy.2.2.1,hserver]
      · rw [← hpx.2.2.2.2.1,← hqy.2.2.2.2.1,hip]
    apply Store.eq_of_key hp hq
    rw [hpx.1,hqy.1,hxy]

section

variable {db : Database}

/-- A device row that no peer refers to. -/
theorem Mirrored.insertDevice {d : Device} (h : Mirrored db)
    (hnew : ∀ p∈db.vpnPeers.rows,p.deviceId≠d.id) :
    Mirrored {db with devices := db.devices.insert d} := by
  refine ⟨fun p hp hact x hx => ?_,h.addresses⟩
  rw [Store.get?_insert_outside _ (hnew p hp)] at hx
  exact h.mirror p hp hact x hx

theorem peerClash_eq_false {p : VpnPeer} : peerClash db p=false ↔ ∀ q∈db.vpnPeers.rows,
    ¬(q.serverId=p.serverId ∧ q.assignedIp=p.assignedIp) ∧ q.publicKey≠p.publicKey := by
  simp [peerClash,not_or]

/-- A peer that clashes with none, for a device that has no active one, written to the row of the
device as well. -/
theorem Mirrored.insertPeer {p : VpnPeer} {f : Device → Device} (hf : ∀ d,(f d).id=d.id)
    (h : Mirrored db) (hid : ∀ q∈db.vpnPeers.rows,q.id≠p.id) (hclash : peerClash db p=false)
    (hnone : ∀ q∈db.vpnPeers.rows,q.deviceId=p.deviceId → q.status≠.active)
    (hrow : ∀ d,(f d).publicKey=some p.publicKey ∧ (f d).assignedIp=some p.assignedIp) :
    Mirrored {db with
      vpnPeers := db.vpnPeers.insert p
      devices := db.devices.modify p.deviceId f hf} := by
  have hfree := peerClash_eq_false.mp hclash
  constructor
  · intro q hq hact d hd
    rcases (Store.mem_insert hid).mp hq with hold|hnew
    · have hne : q.deviceId≠p.deviceId := fun he => hnone q hold he hact
      rw [Store.get?_modify,if_neg hne] at hd
      exact h.mirror q hold hact d hd
    · subst hnew
      rw [Store.get?_modify_self] at hd
      obtain ⟨x,_,hx⟩ := Option.map_eq_some_iff.mp hd
      rw [← hx]
      exact hrow x
  · intro q hq r hr hserver hip
    rcases (Store.mem_insert hid).mp hq with hold|hnew
    · rcases (Store.mem_insert hid).mp hr with hold'|hnew'
      · exact h.addresses q hold r hold' hserver hip
      · subst hnew'
        exact absurd ⟨hserver,hip⟩ (hfree q hold).1
    · rcases (Store.mem_insert hid).mp hr with hold'|hnew'
      · subst hnew
        exact absurd ⟨hserver.symm,hip.symm⟩ (hfree r hold').1
      · rw [hnew,hnew']

/-- The cascade of a deleted server takes its peers with it and leaves the rows of their devices,
but for the server. -/
theorem Mirrored.dropServer (h : Mirrored db) (k : Id) : Mirrored (Backend.dropServer k db) := by
  have hpeers : ∀ p∈(Backend.dropServer k db).vpnPeers.rows,p∈db.vpnPeers.rows := by
    intro p hp
    simp only [Backend.dropServer,Store.rows_deleteWhere,List.mem_filter] at hp
    exact hp.1
  constructor
  · intro p hp hact d hd
    rw [dropServer_device] at hd
    obtain ⟨x,hx,he⟩ := Option.map_eq_some_iff.mp hd
    have hold := h.mirror p (hpeers p hp) hact x hx
    rw [← he]
    unfold unassigned
    split_ifs
    · exact hold
    · exact hold
  · exact fun p hp q hq => h.addresses p (hpeers p hp) q (hpeers q hq)

end

def mirroring : Frame Session where
  rel s t := Mirrored s.db → Mirrored t.db
  refl _ := id
  trans h k := fun hs => k (h hs)

theorem handleServers_mirroring (r : ServerRequest) : Within mirroring (handleServers r) := by
  have hbooks : Bookkeeping mirroring := ⟨fun _ => id,fun _ _ => id⟩
  have haudit : ∀ {s t},auditFrame.rel s t → mirroring.rel s t := fun ha hs =>
    hs.of_hardware (hardware_of_core (core_of_audit ha))
  refine handleServers_within hbooks (fun _ _ => ?_) haudit (fun k => ?_) r
  · exact alter_within fun s hs => hs.of_tables rfl rfl
  · exact alter_within fun s hs => hs.dropServer k

/-- A reissue replaces the active peer and rewrites the row of the device. -/
theorem reissue_mirrored {cfg : Settings} {device : Device} {s t : Session}
    {r : ProvisionedDevice} (hs : Consistent s.serial s.db) (h : Mirrored s.db)
    (hrun : reissue cfg device s=(.ok r,t)) : Mirrored t.db := by
  obtain ⟨_,server,u,v,p,_,_,hretire,hcreated,hcore⟩ := reissue_ok hrun
  have hrec := ((withActivePeer_within device.id fun q =>
    retirePeer_recoloring server q) s).rel_of_run hretire
  have hu : Consistent u.serial u.db := (hrec.1.consistent hs).later hrec.2
  have hid : ∀ q∈u.db.vpnPeers.rows,q.id≠p.id := fun q hq =>
    ((hu.peerNumbers q hq).1.trans_le hcreated.drawn.2).ne
  have hnone : ∀ q∈u.db.vpnPeers.rows,q.deviceId=p.deviceId → q.status≠.active := by
    intro q hq hqd
    rw [hcreated.onDevice] at hqd
    exact retireActive_none hs hretire q hq hqd
  have hnew := (hrec.1.mirrored h).insertPeer (f := withPeer p) (fun _ => rfl) hid
    hcreated.unclashing hnone fun _ => ⟨rfl,rfl⟩
  refine Mirrored.of_hardware ?_ (hardware_of_core hcore)
  refine hnew.of_tables ?_ ?_
  · rw [hcreated.db,hcreated.onDevice]
  · rw [hcreated.db]

/-- A new device's row is written when its peer is there. -/
theorem provision_mirrored {cfg : Settings} {user : User} {name : String} {requested : Option Id}
    {protocol : VpnProtocol} {s t : Session} {r : ProvisionedDevice}
    (hs : Consistent s.serial s.db) (h : Mirrored s.db)
    (hrun : provision cfg user name requested protocol s=(.ok r,t)) : Mirrored t.db := by
  have hunused : ∀ p∈s.db.vpnPeers.rows,p.deviceId≠s.serial := fun p hp =>
    (hs.unreferred.1 p hp).ne
  cases protocol with
  | wireguard =>
    obtain ⟨_,_,server,u,v,p,_,hdev,hcreated,hlast⟩ := provisionWireguard_ok hrun
    have hrow : Mirrored (withDevice (freshDevice s.serial user.id name none .wireguard) s).db :=
      h.insertDevice hunused
    have hview := hdev.1
    simp only [hardwareView,withDevice,Prod.mk.injEq] at hview
    have hpeers := hview.2.2.2.1
    have hle : s.serial≤u.serial := (Int.lt_succ _).le.trans hdev.2
    have hid : ∀ q∈u.db.vpnPeers.rows,q.id≠p.id := by
      intro q hq
      rw [hpeers] at hq
      have hold := (hs.peerNumbers q hq).1
      exact (hold.trans_le (hle.trans hcreated.drawn.2)).ne
    have hnone : ∀ q∈u.db.vpnPeers.rows,q.deviceId=p.deviceId → q.status≠.active := by
      intro q hq hqd
      rw [hcreated.onDevice] at hqd
      rw [hpeers] at hq
      exact absurd hqd (hunused q hq)
    have hnew := (hrow.of_hardware hdev).insertPeer (f := withServer p server) (fun _ => rfl) hid
      hcreated.unclashing hnone fun _ => ⟨rfl,rfl⟩
    refine Mirrored.of_hardware ?_ hlast
    refine hnew.of_tables ?_ ?_
    · rw [hcreated.db,hcreated.onDevice]
    · rw [hcreated.db]
  | vless =>
    obtain ⟨_,a,ha,hrun⟩ := Eff.bind_ok.mp hrun
    obtain ⟨hsa,_⟩ := enforceDeviceLimit_ok ha
    subst hsa
    obtain ⟨_,server,config,u,id,_,_,hdev,_,_,hlast⟩ := provisionVless_ok hrun
    have hrow : Mirrored
        (withDevice (freshDevice s.serial user.id name (some server.id) .vless) s).db :=
      h.insertDevice hunused
    simp only [hardwareView,setXray,Prod.mk.injEq] at hlast
    exact (hrow.of_hardware hdev).of_tables hlast.2.2.1 hlast.2.2.2.1

/-- What an answered request leaves is mirrored. -/
theorem handle_mirrored {cfg : Settings} {r : Request} {s t : Session} {a : Response}
    (hs : Sound s.toWorld) (h : Mirrored s.db) (hrun : handle cfg r s=(.ok a,t)) :
    Mirrored t.db := by
  have hhard : Within hardwareFrame (handle cfg r) → Mirrored t.db := fun hw =>
    h.of_hardware ((hw s).rel_of_run hrun)
  cases r with
  | billing r => exact hhard ((handleBilling_fleet cfg r).mono hardware_of_fleet)
  | routing r => exact hhard ((handleRouting_core _ r).mono hardware_of_core)
  | servers r => exact (handleServers_mirroring r s).rel_of_run hrun h
  | listDevices telegramId =>
    apply hhard
    exact (currentUser_within telegramId).bind fun _ => getDb_within.bind fun _ => Within.pure _
  | createDevice telegramId name serverId protocol =>
    rcases handleCreateDevice_run cfg telegramId name serverId protocol s with
      ⟨e,he⟩|⟨user,_,he⟩
    · rw [handle,he] at hrun
      cases hrun
    · rw [handle,he] at hrun
      obtain ⟨result,u,hu,hrun⟩ := Eff.bind_ok.mp hrun
      cases hrun
      exact provision_mirrored hs.consistent h hu
  | device telegramId deviceId r =>
    rcases handleOwned_run cfg telegramId deviceId r s with ⟨e,he⟩|⟨user,device,_,_,_,he⟩
    · rw [handle,he] at hrun
      cases hrun
    · rw [handle,he] at hrun
      by_cases hr : r=.reissue
      · subst hr
        obtain ⟨result,u,hu,hrun⟩ := Eff.bind_ok.mp hrun
        cases hrun
        exact reissue_mirrored hs.consistent h hu
      · have hrec := (handleDevice_recoloring cfg device r hr s).rel_of_run hrun
        exact hrec.1.mirrored h
  | fetchSubscription token =>
    exact hhard ((deliver_hardware token).bind fun _ => Within.pure _)
  | sweep asOf =>
    have hw : Within recoloring (handle cfg (.sweep asOf)) :=
      (runOnce_recoloring asOf).bind fun _ => Within.pure _
    exact ((hw s).rel_of_run hrun).1.mirrored h

theorem after_mirrored {cfg : Settings} {w : World} {c : Call} (hw : Sound w)
    (h : Mirrored w.db) : Mirrored (after cfg w c).db := by
  unfold after
  rcases serve_cases cfg c.env c.request w with ⟨a,s,hm,ht⟩|⟨x,e,s,_,ht⟩
  · rw [ht]
    exact handle_mirrored (s := ⟨w,c.env⟩) hw h hm
  · rw [ht]
    exact h

theorem reachable_mirrored {cfg : Settings} {w : World} (h : Reachable cfg w) :
    Mirrored w.db :=
  (h.invariant (fun w => Sound w ∧ Mirrored w.db) ⟨sound_initial,mirrored_empty⟩
    fun _ _ hw => ⟨after_sound hw.1,after_mirrored hw.1 hw.2⟩).2

/-- In every state the backend reaches, a device has at most one active peer, its row says what
that peer says, and no server has given one address twice. -/
theorem one_active_peer {cfg : Settings} {w : World} (h : Reachable cfg w) :
    (∀ p∈w.db.vpnPeers.rows,∀ q∈w.db.vpnPeers.rows,p.deviceId=q.deviceId →
      p.status=.active → q.status=.active → p=q) ∧
    (∀ p∈w.db.vpnPeers.rows,p.status=.active → ∃ d,w.db.devices.get? p.deviceId=some d ∧
      d.publicKey=some p.publicKey ∧ d.assignedIp=some p.assignedIp ∧
      d.serverId=some p.serverId) ∧
    ∀ p∈w.db.vpnPeers.rows,∀ q∈w.db.vpnPeers.rows,p.serverId=q.serverId →
      p.assignedIp=q.assignedIp → p=q := by
  have hsound := (reachable_sound h).consistent
  have hmirror := reachable_mirrored h
  refine ⟨hsound.single,fun p hp hact => ?_,hmirror.addresses⟩
  obtain ⟨d,hd,_,hserver⟩ := hsound.peerDevices p hp
  obtain ⟨hkey,hip⟩ := hmirror.mirror p hp hact d hd
  exact ⟨d,hd,hkey,hip,hserver hact⟩

theorem opened_one_active_peer :
    let p : VpnPeer := ⟨15,11,4,14,⟨.v4,167772162⟩,.active⟩
    p∈opened.db.vpnPeers.rows ∧ ∃ d,opened.db.devices.get? 11=some d ∧
      d.publicKey=some 14 ∧ d.assignedIp=some ⟨.v4,167772162⟩ ∧ d.serverId=some 4 := by
  intro p
  have hp : p∈opened.db.vpnPeers.rows := by decide +kernel
  exact ⟨hp,(one_active_peer opened_reachable).2.1 p hp rfl⟩

end VpnService.Backend
