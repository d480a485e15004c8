import VpnService.Backend.Isolation
import VpnService.Backend.Consistency

namespace VpnService.Backend

section

variable {n : Int} {db : Database}

theorem Consistent.insertServer {x : VpnServer} (h : Consistent n db) (hid : x.id<n) :
    Consistent n {db with vpnServers := db.vpnServers.insert x} :=
  {h with
    servers := by
      intro y hy
      rcases Store.mem_of_insert hy with hy|hy
      · exact h.servers y hy
      · rw [hy]
        exact hid
    deviceServers := fun d hd k hk => Store.isSome_insert x (h.deviceServers d hd k hk)
    credentialServers := fun c hc => Store.isSome_insert x (h.credentialServers c hc)}

theorem Consistent.insertConfig {x : VlessServerConfig} (h : Consistent n db) (hid : x.id<n) :
    Consistent n {db with vlessServerConfigs := db.vlessServerConfigs.insert x} :=
  {h with
    configs := by
      intro y hy
      rcases Store.mem_of_insert hy with hy|hy
      · exact h.configs y hy
      · rw [hy]
        exact hid}

theorem Consistent.modifyServer {k : Id} {f : VpnServer → VpnServer} (hf : ∀ x,(f x).id=x.id)
    (h : Consistent n db) : Consistent n {db with vpnServers := db.vpnServers.modify k f hf} := by
  have hsome : ∀ j,((db.vpnServers.modify k f hf).get? j).isSome=(db.vpnServers.get? j).isSome := by
    intro j
    rw [Store.get?_modify]
    split_ifs
    · exact Option.isSome_map
    · rfl
  exact {h with
    servers := by
      intro y hy
      rcases (Store.mem_modify hf).mp hy with ⟨x,hx,_,he⟩|⟨hy,_⟩
      · rw [he,hf]
        exact h.servers x hx
      · exact h.servers y hy
    deviceServers := fun d hd j hj => (hsome j).trans (h.deviceServers d hd j hj)
    credentialServers := fun c hc => (hsome c.serverId).trans (h.credentialServers c hc)}

theorem Consistent.modifyConfig {k : Id} {f : VlessServerConfig → VlessServerConfig}
    (hf : ∀ x,(f x).id=x.id) (h : Consistent n db) :
    Consistent n {db with vlessServerConfigs := db.vlessServerConfigs.modify k f hf} :=
  {h with
    configs := by
      intro y hy
      rcases (Store.mem_modify hf).mp hy with ⟨x,hx,_,he⟩|⟨hy,_⟩
      · rw [he,hf]
        exact h.configs x hx
      · exact h.configs y hy}

/-- What a deleted server leaves of a device row. -/
def unassigned (k : Id) (d : Device) : Device :=
  if d.serverId=some k then {d with serverId := none} else d

theorem unassigned_keeps (k : Id) (d : Device) :
    (unassigned k d).id=d.id ∧ (unassigned k d).protocol=d.protocol := by
  unfold unassigned
  split_ifs
  · exact ⟨rfl,rfl⟩
  · exact ⟨rfl,rfl⟩

theorem dropServer_device {k : Id} (j : Id) :
    (dropServer k db).devices.get? j=(db.devices.get? j).map (unassigned k) :=
  Store.get?_mapRows db.devices (unassigned k) (fun d => (unassigned_keeps k d).1) j

/-- The cascade of a deleted server leaves the tables consistent. -/
theorem Consistent.dropServer (h : Consistent n db) (k : Id) :
    Consistent n (Backend.dropServer k db) := by
  have hpeers : ∀ p∈(Backend.dropServer k db).vpnPeers.rows,
      p∈db.vpnPeers.rows ∧ p.serverId≠k := by
    intro p hp
    simpa [Backend.dropServer] using hp
  have hcreds : ∀ c∈(Backend.dropServer k db).vlessCredentials.rows,
      c∈db.vlessCredentials.rows ∧ c.serverId≠k := by
    intro c hc
    simpa [Backend.dropServer] using hc
  have hservers : ∀ j,j≠k → (db.vpnServers.get? j).isSome →
      ((Backend.dropServer k db).vpnServers.get? j).isSome := by
    intro j hj hs
    show ((db.vpnServers.delete k).get? j).isSome
    rw [Store.get?_delete,if_neg hj]
    exact hs
  have hkeep := unassigned_keeps k
  have hdevices : ∀ d∈(Backend.dropServer k db).devices.rows,∃ x∈db.devices.rows,
      d=unassigned k x := by
    intro d hd
    obtain ⟨x,hx,he⟩ := List.mem_map.mp hd
    exact ⟨x,hx,he.symm⟩
  exact {
    devices := by
      intro d hd
      obtain ⟨x,hx,he⟩ := hdevices d hd
      rw [he,(hkeep x).1]
      exact h.devices x hx
    deviceServers := by
      intro d hd j hj
      obtain ⟨x,hx,he⟩ := hdevices d hd
      rw [he] at hj
      unfold unassigned at hj
      split_ifs at hj with hk
      have hne : j≠k := fun hjk => hk (hj.trans (congrArg some hjk))
      exact hservers j hne (h.deviceServers x hx j hj)
    servers := by
      intro x hx
      exact h.servers x (Store.mem_delete.mp hx).1
    configs := by
      intro c hc
      simp only [Backend.dropServer,Store.rows_deleteWhere,List.mem_filter] at hc
      exact h.configs c hc.1
    peerNumbers := fun p hp => h.peerNumbers p (hpeers p hp).1
    peerDevices := by
      intro p hp
      obtain ⟨d,hd,hproto,hact⟩ := h.peerDevices p (hpeers p hp).1
      refine ⟨unassigned k d,?_,(hkeep d).2.trans hproto,fun hs => ?_⟩
      · rw [dropServer_device,hd]
        rfl
      · have hserver := hact hs
        have hne : d.serverId≠some k := by
          intro hk
          rw [hserver] at hk
          exact (hpeers p hp).2 (Option.some.inj hk)
        unfold unassigned
        rw [if_neg hne]
        exact hserver
    peerKeys := fun p hp q hq => h.peerKeys p (hpeers p hp).1 q (hpeers q hq).1
    single := fun p hp q hq => h.single p (hpeers p hp).1 q (hpeers q hq).1
    credentialNumbers := fun c hc => h.credentialNumbers c (hcreds c hc).1
    credentialDevices := by
      intro c hc
      obtain ⟨d,hd,hproto⟩ := h.credentialDevices c (hcreds c hc).1
      refine ⟨unassigned k d,?_,(hkeep d).2.trans hproto⟩
      rw [dropServer_device,hd]
      rfl
    credentialServers := fun c hc =>
      hservers c.serverId (hcreds c hc).2 (h.credentialServers c (hcreds c hc).1)
    uuids := fun c hc x hx => h.uuids c (hcreds c hc).1 x (hcreds x hx).1
    distinct := fun p hp c hc => h.distinct p (hpeers p hp).1 c (hcreds c hc).1
    lone := fun c hc x hx => h.lone c (hcreds c hc).1 x (hcreds x hx).1}

end

/-- What stays of a device when its server is deleted. -/
def Device.core (d : Device) : Id×DeviceStatus×VpnProtocol := (d.userId,d.status,d.protocol)

/-- What an administrator's request about servers may do: the tables stay consistent, nothing
changes at an agent, and no peer or credential is new. -/
structure Administered (s t : Session) : Prop where
  devices : ∀ k,(t.db.devices.get? k).map Device.core=(s.db.devices.get? k).map Device.core
  consistent : Consistent s.serial s.db → Consistent t.serial t.db
  serial : s.serial≤t.serial
  vpn : t.vpn=s.vpn
  xray : t.xray=s.xray
  peers : ∀ p∈t.db.vpnPeers.rows,p∈s.db.vpnPeers.rows
  credentials : ∀ c∈t.db.vlessCredentials.rows,c∈s.db.vlessCredentials.rows

def administering : Frame Session where
  rel := Administered
  refl _ := ⟨fun _ => rfl,id,le_rfl,rfl,rfl,fun _ => id,fun _ => id⟩
  trans h k := ⟨fun j => (k.devices j).trans (h.devices j),
    fun hs => k.consistent (h.consistent hs),h.serial.trans k.serial,
    k.vpn.trans h.vpn,k.xray.trans h.xray,fun p hp => h.peers p (k.peers p hp),
    fun c hc => h.credentials c (k.credentials c hc)⟩

theorem administering_books : Bookkeeping administering :=
  ⟨fun _ => ⟨fun _ => rfl,fun h => h.later (by simp),by simp,rfl,rfl,fun _ => id,fun _ => id⟩,
    fun _ _ => ⟨fun _ => rfl,id,le_rfl,rfl,rfl,fun _ => id,fun _ => id⟩⟩

theorem administering_of_fleet {s t : Session} (h : fleetFrame.rel s t) : Administered s t := by
  obtain ⟨hview,hs⟩ := h
  simp only [fleetView,Prod.mk.injEq] at hview
  obtain ⟨hv,hf,hd,hp,hc,_,hvpn,hxray⟩ := hview
  refine ⟨fun _ => by rw [hd],fun h => (h.of_fleet hd hv hf hp hc).later hs,hs,hvpn,hxray,?_,?_⟩
  · intro p
    rw [hp]
    exact id
  · intro c
    rw [hc]
    exact id

theorem audit_administering (adminId : Option Id) (action targetType : String)
    (targetId : Option Id) (metadata : List (String×String)) :
    Within administering (recordAudit adminId action targetType targetId metadata) :=
  (audit_core _ _ _ _ _).mono fun h => administering_of_fleet (fleet_of_core h)

theorem alter_administering {f : Database → Database} {s : Session}
    (hd : ∀ k,((f s.db).devices.get? k).map Device.core=(s.db.devices.get? k).map Device.core)
    (h : Consistent s.serial s.db → Consistent s.serial (f s.db))
    (hp : ∀ p∈(f s.db).vpnPeers.rows,p∈s.db.vpnPeers.rows)
    (hc : ∀ c∈(f s.db).vlessCredentials.rows,c∈s.db.vlessCredentials.rows) :
    WithinAt administering (alter f) s := ⟨hd,h,le_rfl,rfl,rfl,hp,hc⟩

theorem createServer_administering (payload : VpnServerCreate) :
    Within administering (createServer payload) := by
  intro s
  refine (nextSerial_within administering_books s).bind fun id t ht => ?_
  cases ht
  refine WithinAt.bind (alter_administering (fun _ => rfl) ?_ (fun _ => id) fun _ => id)
    fun _ t _ => ?_
  · exact fun h => h.insertServer (Int.lt_succ _)
  · exact Within.bind (flush_within administering_books) (fun _ => Within.pure _) t

theorem createVlessServer_administering (payload : VlessServerCreate) :
    Within administering (createVlessServer payload) := by
  intro s
  refine (nextSerial_within administering_books s).bind fun id t ht => ?_
  cases ht
  refine WithinAt.bind (alter_administering (fun _ => rfl) ?_ (fun _ => id) fun _ => id)
    fun _ t _ => ?_
  · exact fun h => h.insertServer (Int.lt_succ _)
  · refine (flush_within administering_books t).bind fun _ u _ => ?_
    refine (nextSerial_within administering_books u).bind fun configId v hv => ?_
    cases hv
    refine WithinAt.bind (alter_administering (fun _ => rfl) ?_ (fun _ => id) fun _ => id)
      fun _ v _ => ?_
    · exact fun h => h.insertConfig (Int.lt_succ _)
    · exact Within.bind (flush_within administering_books) (fun _ => Within.pure _) v

theorem dropServer_administering (k : Id) : Within administering (alter (dropServer k)) := by
  intro s
  apply alter_administering
  · intro j
    rw [dropServer_device,Option.map_map]
    congr 1
    funext d
    show (unassigned k d).core=d.core
    unfold unassigned
    split_ifs
    · rfl
    · rfl
  · exact fun h => h.dropServer k
  · intro p hp
    simp only [dropServer,Store.rows_deleteWhere,List.mem_filter] at hp
    exact hp.1
  · intro c hc
    simp only [dropServer,Store.rows_deleteWhere,List.mem_filter] at hc
    exact hc.1

theorem handleServers_administering (r : ServerRequest) :
    Within administering (handleServers r) := by
  cases r with
  | createServer adminId payload =>
    exact (createServer_administering payload).bind fun _ =>
      (audit_administering _ _ _ _ _).bind fun _ => Within.pure _
  | updateServer adminId serverId payload =>
    refine Within.bind ((getServer_within serverId).bind fun server => ?_) fun _ =>
      (audit_administering _ _ _ _ _).bind fun _ => Within.pure _
    refine Within.bind (fun s => ?_) fun _ => flush_within administering_books
    refine alter_administering (fun _ => rfl) (fun h => ?_) (fun _ => id) fun _ => id
    exact h.modifyServer (f := updatedServer payload) fun _ => rfl
  | deleteServer adminId serverId =>
    exact Within.bind ((getServer_within serverId).bind fun server =>
      dropServer_administering server.id) fun _ =>
      (audit_administering _ _ _ _ _).bind fun _ => Within.pure _
  | createVlessServer adminId payload =>
    exact (createVlessServer_administering payload).bind fun _ =>
      (audit_administering _ _ _ _ _).bind fun _ => Within.pure _
  | updateVlessServer adminId serverId payload =>
    refine Within.bind ((getVlessServer_within serverId).bind fun found => ?_) fun _ =>
      (audit_administering _ _ _ _ _).bind fun _ => Within.pure _
    refine Within.bind (fun s => ?_) fun _ => (flush_within administering_books).bind fun _ =>
      flush_within administering_books
    refine alter_administering (fun _ => rfl) (fun h => ?_) (fun _ => id) fun _ => id
    exact (h.modifyServer (k := found.1.id) (f := updatedServer payload.toVpnServerUpdate)
      fun _ => rfl).modifyConfig (f := updatedConfig payload) fun _ => rfl
  | deleteVlessServer adminId serverId =>
    exact Within.bind ((getVlessServer_within serverId).bind fun found =>
      dropServer_administering found.1.id) fun _ =>
      (audit_administering _ _ _ _ _).bind fun _ => Within.pure _

end VpnService.Backend
