import Mathlib.Data.List.Perm.Subperm
import VpnService.Backend.Errors
import VpnService.Backend.Faults
import VpnService.Backend.Mirrors

namespace VpnService.Backend

open Agent

/-- How many addresses the clients of a server can get: all its hosts but the first. -/
def VpnServer.poolSize (server : VpnServer) : Option Nat :=
  (server.internalNetwork.network.bind clientHosts).map Prod.snd

/-- The server a request provisions or reissues a WireGuard device on. -/
def Request.server (db : Database) : Request → Option VpnServer
  | .createDevice _ _ requested .wireguard => chosenServer db requested .wireguard
  | .device _ deviceId .reissue =>
    ((db.devices.get? deviceId).filter fun d => d.protocol=.wireguard).bind db.serverOf
  | _ => none

/-- Nothing but the pool stands in the way of the request. -/
def Request.entitled (db : Database) : Request → Bool
  | .createDevice telegramId name _ .wireguard =>
    ((db.userByTelegramId telegramId).filter fun user => user.status=.active).any fun user =>
      (limitVerdict db user.id).isOk && name.length≤64
  | .device telegramId deviceId .reissue => (db.owned telegramId deviceId).isSome
  | _ => false

def Database.activeOn (db : Database) (serverId : Id) : Nat :=
  ((db.peersOfServer serverId).filter fun p => p.status=.active).length

/-- The answer is that the server has no address for the peer. -/
def PoolRefused (x : Except AppError Response) : Prop := ∃ e,x=.error e ∧
  (e.errorCode="ip_pool_exhausted" ∨ e.errorCode="ip_allocation_conflict")

/-- While fewer peers are active on the server than it has addresses, the request is not refused
for want of one, whatever becomes of its calls. -/
def GivesBack (cfg : Settings) (w : World) (r : Request) : Prop :=
  ∀ server size,r.server w.db=some server → server.poolSize=some size →
    w.db.activeOn server.id<size → ∀ env,¬PoolRefused (serve cfg env r w).1

/-- Fewer peers were ever made on the server than it has addresses, if fewer than that are
active. -/
def Roomy (db : Database) (r : Request) : Prop :=
  r.entitled db=true → ∀ server size,r.server db=some server → server.poolSize=some size →
    db.activeOn server.id<size → (db.peersOfServer server.id).length<size

/-- Every address of the server is that of a peer row, whatever the status of the peer. -/
def exhausted (db : Database) (server : VpnServer) : Bool :=
  match server.internalNetwork.network with
  | none => false
  | some network => freeAddress network (db.peersOfServer server.id)=some none

/-- A search among as many addresses as are taken comes to nothing. -/
theorem firstFree_full {taken : Nat → Bool} {start count : Nat} {xs : List Nat} (hnd : xs.Nodup)
    (htaken : ∀ a,taken a=true ↔ a∈xs) (hrange : ∀ a∈xs,start≤a ∧ a<start+count) :
    firstFree taken start count=none ↔ count≤xs.length := by
  have hmem : ∀ a,a∈List.range' start count ↔ start≤a ∧ a<start+count := fun a =>
    List.mem_range'_1
  rw [firstFree_eq_none]
  constructor
  · intro hall
    have hsub : List.range' start count⊆xs := by
      intro a ha
      have hin := (hmem a).mp ha
      exact (htaken a).mp (hall a hin.1 hin.2)
    have hle := (List.subperm_of_subset List.nodup_range' hsub).length_le
    simpa using hle
  · intro hle a hstart hend
    have hsub : xs⊆List.range' start count := fun b hb => (hmem b).mpr (hrange b hb)
    have hperm := (List.subperm_of_subset hnd hsub).perm_of_length_le (by simpa using hle)
    exact (htaken a).mpr (hperm.mem_iff.mpr ((hmem a).mpr ⟨hstart,hend⟩))

/-- The address lies in the pool of the server. -/
def VpnServer.pools (server : VpnServer) (ip : IpAddress) : Prop :=
  ∃ network hosts,server.internalNetwork.network=some network ∧ clientHosts network=some hosts ∧
    ip.version=network.version ∧ hosts.1≤ ip.value ∧ ip.value<hosts.1+hosts.2

theorem freeAddress_pools {server : VpnServer} {network : IpNetwork} {peers : List VpnPeer}
    {ip : IpAddress} (hn : server.internalNetwork.network=some network)
    (h : freeAddress network peers=some (some ip)) : server.pools ip := by
  unfold freeAddress at h
  obtain ⟨hosts,hhosts,h⟩ := Option.map_eq_some_iff.mp h
  obtain ⟨a,ha,he⟩ := Option.map_eq_some_iff.mp h
  have hrange := (firstFree_eq_some _ _ _ _).mp ha
  subst he
  exact ⟨network,hosts,hn,hhosts,rfl,hrange.1,hrange.2.1⟩

/-- Every peer has an address of its server. -/
def Pooled (db : Database) : Prop := ∀ p∈db.vpnPeers.rows,
  ∃ server,db.vpnServers.get? p.serverId=some server ∧ server.pools p.assignedIp

/-- A pool is exhausted once as many peers were made as it has addresses. -/
theorem exhausted_iff {db : Database} {server : VpnServer} (h : Pooled db) (hm : Mirrored db)
    (hget : db.vpnServers.get? server.id=some server) : exhausted db server=true ↔
      ∃ size,server.poolSize=some size ∧ size≤(db.peersOfServer server.id).length := by
  unfold exhausted VpnServer.poolSize
  cases hn : server.internalNetwork.network with
  | none => simp
  | some network =>
    cases hh : clientHosts network with
    | none => simp [freeAddress,hh]
    | some hosts =>
      have hpools : ∀ p∈db.peersOfServer server.id,p.assignedIp.version=network.version ∧
          hosts.1≤p.assignedIp.value ∧ p.assignedIp.value<hosts.1+hosts.2 := by
        intro p hp
        simp only [Database.peersOfServer,List.mem_filter,decide_eq_true_eq] at hp
        obtain ⟨x,hx,network',hosts',hn',hh',hin⟩ := h p hp.1
        rw [hp.2,hget] at hx
        cases hx
        rw [hn] at hn'
        cases hn'
        rw [hh] at hh'
        cases hh'
        exact hin
      let values := (db.peersOfServer server.id).map fun p => p.assignedIp.value
      have hnd : values.Nodup := by
        have hrows : (db.peersOfServer server.id).Nodup := (db.vpnPeers.nodup.of_map _).filter _
        apply hrows.map_on
        intro p hp q hq he
        have hpv := (hpools p hp).1
        have hqv := (hpools q hq).1
        simp only [Database.peersOfServer,List.mem_filter,decide_eq_true_eq] at hp hq
        apply hm.addresses p hp.1 q hq.1 (hp.2.trans hq.2.symm)
        calc p.assignedIp=⟨p.assignedIp.version,p.assignedIp.value⟩ := rfl
          _=⟨q.assignedIp.version,q.assignedIp.value⟩ := by rw [hpv,hqv,he]
          _=q.assignedIp := rfl
      have htaken : ∀ a,((db.peersOfServer server.id).any fun p =>
          p.assignedIp=⟨network.version,a⟩)=true ↔ a∈values := by
        intro a
        simp only [List.any_eq_true,decide_eq_true_eq,values,List.mem_map]
        constructor
        · rintro ⟨p,hp,he⟩
          exact ⟨p,hp,by rw [he]⟩
        · rintro ⟨p,hp,he⟩
          exact ⟨p,hp,by rw [← he,← (hpools p hp).1]⟩
      have hrange : ∀ a∈values,hosts.1≤a ∧ a<hosts.1+hosts.2 := by
        intro a ha
        obtain ⟨p,hp,he⟩ := List.mem_map.mp ha
        rw [← he]
        exact (hpools p hp).2
      have hfull := firstFree_full hnd htaken hrange
      simp only [freeAddress,hh,Option.map_some,Option.some.injEq,Option.map_eq_none_iff,
        decide_eq_true_eq,Option.bind_some,exists_eq_left']
      rw [hfull,List.length_map]

theorem pooled_empty : Pooled .empty := fun _ hp => absurd hp (by simp [Database.empty])

/-- What keeps the peers and leaves every server with its network keeps the pools. -/
theorem Pooled.of_networks {a b : Database} (h : Pooled a)
    (hpeers : ∀ p∈b.vpnPeers.rows,∃ q∈a.vpnPeers.rows,q.serverId=p.serverId ∧
      q.assignedIp=p.assignedIp ∧ ∀ server,a.vpnServers.get? q.serverId=some server →
        ∃ x,b.vpnServers.get? p.serverId=some x ∧ x.internalNetwork=server.internalNetwork) :
    Pooled b := by
  intro p hp
  obtain ⟨q,hq,_,hip,hserver⟩ := hpeers p hp
  obtain ⟨server,hget,hpools⟩ := h q hq
  obtain ⟨x,hx,hnet⟩ := hserver server hget
  refine ⟨x,hx,?_⟩
  unfold VpnServer.pools at hpools ⊢
  rw [hnet,← hip]
  exact hpools

theorem Pooled.of_tables {a b : Database} (h : Pooled a) (hp : b.vpnPeers=a.vpnPeers)
    (hs : b.vpnServers=a.vpnServers) : Pooled b := by
  unfold Pooled
  rw [hp,hs]
  exact h

theorem Pooled.of_hardware {s t : Session} (h : Pooled s.db) (ht : hardwareFrame.rel s t) :
    Pooled t.db := by
  have hview := ht.1
  simp only [hardwareView,Prod.mk.injEq] at hview
  exact h.of_tables hview.2.2.2.1 hview.1

theorem Recolored.pooled {a b : Database} (h : Recolored a b) (ha : Pooled a) : Pooled b := by
  refine ha.of_networks fun p hp => ?_
  obtain ⟨q,hq,he,_⟩ := h.peers p hp
  simp only [VpnPeer.mk.injEq] at he
  refine ⟨q,hq,he.2.2.1.symm,he.2.2.2.2.1.symm,fun server hget => ?_⟩
  have hserver := h.servers q.serverId
  rw [hget,← he.2.2.1] at hserver
  obtain ⟨x,hx,hun⟩ := Option.map_eq_some_iff.mp hserver
  have hnet : x.unloaded.internalNetwork=server.unloaded.internalNetwork := by rw [hun]
  exact ⟨x,hx,hnet⟩

theorem Pooled.insertPeer {db : Database} {p : VpnPeer} {server : VpnServer} (h : Pooled db)
    (hid : ∀ q∈db.vpnPeers.rows,q.id≠p.id) (hget : db.vpnServers.get? p.serverId=some server)
    (hpools : server.pools p.assignedIp) :
    Pooled {db with vpnPeers := db.vpnPeers.insert p} := by
  intro q hq
  rcases (Store.mem_insert hid).mp hq with hold|hnew
  · exact h q hold
  · subst hnew
    exact ⟨server,hget,hpools⟩

theorem Pooled.dropServer {db : Database} (h : Pooled db) (k : Id) :
    Pooled (Backend.dropServer k db) := by
  refine h.of_networks fun p hp => ?_
  simp only [Backend.dropServer,Store.rows_deleteWhere,List.mem_filter] at hp
  have hne : p.serverId≠k := by simpa using hp.2
  refine ⟨p,hp.1,rfl,rfl,fun server hget => ⟨server,?_,rfl⟩⟩
  show (db.vpnServers.delete k).get? p.serverId=some server
  rw [Store.get?_delete,if_neg hne]
  exact hget

theorem handleServers_pooling (r : ServerRequest) :
    Within (Frame.preserving fun s => Pooled s.db) (handleServers r) := by
  have hbooks : Bookkeeping (Frame.preserving fun s : Session => Pooled s.db) :=
    ⟨fun _ => id,fun _ _ => id⟩
  apply handleServers_within hbooks
  · intro f _ hf _
    refine alter_within fun s h => ?_
    refine h.of_networks fun p hp => ⟨p,hp,rfl,rfl,fun server hget => ?_⟩
    obtain ⟨x,hx,_,hnet⟩ := hf _ _ server hget
    exact ⟨x,hx,hnet⟩
  · exact fun ha h => h.of_hardware (hardware_of_core (core_of_audit ha))
  · exact fun k => alter_within fun _ h => h.dropServer k

/-- A new peer gets an address of the pool. -/
theorem createPeerAttempts_pools (cfg : Settings) (d : Id) (server : VpnServer) (n : Nat) :
    Yields (fun created => server.pools created.2.assignedIp)
      (createPeerAttempts cfg d server n) := by
  induction n with
  | zero =>
    intro s a t h
    cases h
  | succ n ih =>
    have halloc : Yields server.pools (allocateIp server) := by
      intro s ip t h
      obtain ⟨_,network,hn,hfree⟩ := allocateIp_ok h
      exact freeAddress_pools hn hfree
    have hcreate : ∀ ip,Yields (fun r => r.assignedIp=ip) (createPeer cfg d server ip) := by
      intro ip
      exact Yields.bind fun _ => Yields.bind fun _ => Yields.bind fun _ => Yields.pure rfl
    refine Yields.bind_of halloc fun ip hip => Yields.bind_of (hcreate ip) fun result hresult =>
      Yields.bind fun id => Yields.bind fun _ => Yields.bind fun _ => Yields.bind fun db => ?_
    split_ifs
    · exact Yields.bind fun _ => ih
    · refine Yields.bind fun _ => Yields.pure ?_
      rw [hresult]
      exact hip

section

variable {cfg : Settings} {s t : Session}

theorem reissue_pooled {device : Device} {r : ProvisionedDevice} (hs : Consistent s.serial s.db)
    (h : Pooled s.db) (hrun : reissue cfg device s=(.ok r,t)) : Pooled t.db := by
  obtain ⟨_,server,u,v,result,p,_,hget,hretire,hcreate,hcore⟩ := reissue_attempts hrun
  have hcreated := createPeerAttempts_ok hcreate
  have hrec := ((withActivePeer_within device.id fun q =>
    retirePeer_recoloring server q) s).rel_of_run hretire
  have hu : Consistent u.serial u.db := (hrec.1.consistent hs).later hrec.2
  have hserver : u.db.vpnServers.get? server.id=some server := by
    rcases retireActive_ok hretire with ⟨_,hus⟩|⟨q,os,_,hus⟩
    · rw [hus]
      exact hget
    · rw [hus]
      exact hget
  have hnew : Pooled {u.db with vpnPeers := u.db.vpnPeers.insert p} := by
    apply (hrec.1.pooled h).insertPeer
    · exact fun q hq => ((hu.peerNumbers q hq).1.trans_le hcreated.drawn.2).ne
    · rw [hcreated.onServer]
      exact hserver
    · exact createPeerAttempts_pools cfg device.id server 5 u _ v hcreate
  refine Pooled.of_hardware (hnew.of_tables ?_ ?_) (hardware_of_core hcore)
  · rw [hcreated.db]
  · rw [hcreated.db]

theorem Pooled.addLoad {db : Database} (h : Pooled db) (k : Id) :
    Pooled {db with
      vpnServers := db.vpnServers.modify k (fun x => {x with currentLoad := x.currentLoad+1})
        fun _ => rfl} := by
  refine h.of_networks fun p hp => ⟨p,hp,rfl,rfl,fun server hget => ?_⟩
  dsimp only
  rw [Store.get?_modify,hget]
  split_ifs
  · exact ⟨_,rfl,rfl⟩
  · exact ⟨server,rfl,rfl⟩

theorem provision_pooled {user : User} {name : String} {requested : Option Id}
    {protocol : VpnProtocol} {r : ProvisionedDevice} (hs : Consistent s.serial s.db)
    (h : Pooled s.db) (hrun : provision cfg user name requested protocol s=(.ok r,t)) :
    Pooled t.db := by
  cases protocol with
  | wireguard =>
    obtain ⟨_,_,server,u,v,result,p,hget,hdev,hcreate,hlast⟩ := provisionWireguard_attempts hrun
    have hcreated := createPeerAttempts_ok hcreate
    have hview := hdev.1
    simp only [hardwareView,withDevice,Prod.mk.injEq] at hview
    have hle : s.serial≤u.serial := (Int.lt_succ _).le.trans hdev.2
    have hnew : Pooled {u.db with vpnPeers := u.db.vpnPeers.insert p} := by
      apply (h.of_tables hview.2.2.2.1 hview.1).insertPeer
      · intro q hq
        rw [hview.2.2.2.1] at hq
        exact ((hs.peerNumbers q hq).1.trans_le (hle.trans hcreated.drawn.2)).ne
      · rw [hcreated.onServer,hview.1]
        exact hget
      · exact createPeerAttempts_pools cfg s.serial server 5 u _ v hcreate
    refine Pooled.of_hardware ((hnew.addLoad server.id).of_tables ?_ ?_) hlast
    · rw [hcreated.db]
    · rw [hcreated.db]
  | vless =>
    obtain ⟨_,a,ha,hrun⟩ := Eff.bind_ok.mp hrun
    obtain ⟨hsa,_⟩ := enforceDeviceLimit_ok ha
    subst hsa
    obtain ⟨_,server,config,u,id,_,_,hdev,_,_,hlast⟩ := provisionVless_ok hrun
    have hview := hdev.1
    simp only [hardwareView,withDevice,Prod.mk.injEq] at hview
    simp only [hardwareView,setXray,Prod.mk.injEq] at hlast
    exact ((h.of_tables hview.2.2.2.1 hview.1).addLoad server.id).of_tables hlast.2.2.2.1 hlast.1

/-- What an answered request leaves is pooled. -/
theorem handle_pooled {r : Request} {a : Response} (hs : Sound s.toWorld) (h : Pooled s.db)
    (hrun : handle cfg r s=(.ok a,t)) : Pooled t.db := by
  have hhard : Within hardwareFrame (handle cfg r) → Pooled t.db := fun hw =>
    h.of_hardware ((hw s).rel_of_run hrun)
  cases r with
  | billing r => exact hhard ((handleBilling_fleet cfg r).mono hardware_of_fleet)
  | routing r => exact hhard ((handleRouting_core _ r).mono hardware_of_core)
  | servers r => exact (handleServers_pooling r s).rel_of_run hrun h
  | listDevices telegramId =>
    apply hhard
    exact (currentUser_within telegramId).bind fun _ => getDb_within.bind fun _ => Within.pure _
  | createDevice telegramId name serverId protocol =>
    rcases handleCreateDevice_run cfg telegramId name serverId protocol s with
      ⟨e,he⟩|⟨user,_,he⟩
    · rw [handle,he] at hrun
      cases hrun
    · rw [handle,he] at hrun
      obtain ⟨result,u,hu,hrun⟩ := Eff.bind_ok.mp hrun
      cases hrun
      exact provision_pooled hs.consistent h hu
  | device telegramId deviceId r =>
    rcases handleOwned_run cfg telegramId deviceId r s with ⟨e,he⟩|⟨user,device,_,_,_,he⟩
    · rw [handle,he] at hrun
      cases hrun
    · rw [handle,he] at hrun
      by_cases hr : r=.reissue
      · subst hr
        obtain ⟨result,u,hu,hrun⟩ := Eff.bind_ok.mp hrun
        cases hrun
        exact reissue_pooled hs.consistent h hu
      · exact ((handleDevice_recoloring cfg device r hr s).rel_of_run hrun).1.pooled h
  | fetchSubscription token =>
    exact hhard ((deliver_hardware token).bind fun _ => Within.pure _)
  | sweep asOf =>
    have hw : Within recoloring (handle cfg (.sweep asOf)) :=
      (runOnce_recoloring asOf).bind fun _ => Within.pure _
    exact ((hw s).rel_of_run hrun).1.pooled h

end

theorem after_pooled {cfg : Settings} {w : World} {c : Call} (hw : Sound w) (h : Pooled w.db) :
    Pooled (after cfg w c).db := by
  unfold after
  rcases serve_cases cfg c.env c.request w with ⟨a,s,hm,ht⟩|⟨x,e,s,_,ht⟩
  · rw [ht]
    exact handle_pooled (s := ⟨w,c.env⟩) hw h hm
  · rw [ht]
    exact h

/-- What the pools rely on in every reachable state. -/
structure Stocked (w : World) : Prop where
  sound : Sound w
  pooled : Pooled w.db
  mirrored : Mirrored w.db

theorem after_stocked {cfg : Settings} {w : World} {c : Call} (h : Stocked w) :
    Stocked (after cfg w c) :=
  ⟨after_sound h.sound,after_pooled h.sound h.pooled,after_mirrored h.sound h.mirrored⟩

/-- An error that is not about the pool. -/
def Unpooled (e : AppError) : Prop :=
  e.errorCode≠"ip_pool_exhausted" ∧ e.errorCode≠"ip_allocation_conflict"

theorem Impersonal.unpooled {e : AppError} (h : Impersonal e) : Unpooled e := by
  cases h with
  | fixed h =>
    have hall : ∀ x∈fixedErrors,x.errorCode≠"ip_pool_exhausted" ∧
        x.errorCode≠"ip_allocation_conflict" := by decide
    exact hall e h
  | internal exception =>
    exact ⟨show "internal_error"≠_ by decide,show "internal_error"≠_ by decide⟩
  | vpnAgent server =>
    exact ⟨show "vpn_agent_unreachable"≠_ by decide,show "vpn_agent_unreachable"≠_ by decide⟩
  | xrayAgent baseUrl attempts =>
    exact ⟨show "xray_agent_unreachable"≠_ by decide,show "xray_agent_unreachable"≠_ by decide⟩
  | unconfigured server =>
    exact ⟨show "vless_server_not_configured"≠_ by decide,
      show "vless_server_not_configured"≠_ by decide⟩

theorem exhausted_peers {a b : Database} (h : a.vpnPeers=b.vpnPeers) (server : VpnServer) :
    exhausted a server=exhausted b server := by
  unfold exhausted Database.peersOfServer
  rw [h]

theorem exhausted_retired (db : Database) (server : VpnServer) (k : Id) :
    exhausted {db with
      vpnPeers := db.vpnPeers.modify k (fun q => {q with status := .revoked}) fun _ => rfl}
      server=exhausted db server := by
  unfold exhausted
  cases server.internalNetwork.network with
  | none => rfl
  | some network =>
    dsimp only
    rw [freeAddress_ips network _ _ (peersOfServer_retired db server.id k)]

section

variable {cfg : Settings} {s : Session}

theorem allocateIp_spares {server : VpnServer} (h : exhausted s.db server=false) :
    RaisesAt Impersonal (allocateIp server) s := by
  unfold exhausted at h
  unfold allocateIp
  refine RaisesAt.orRaise_bind (fun _ => .internal _) fun network hn => ?_
  refine RaisesAt.reads_bind (RaisesAt.orRaise_bind (fun _ => .internal _) fun answer ha => ?_)
  rw [hn] at h
  dsimp only at h
  cases answer with
  | none =>
    rw [ha] at h
    simp at h
  | some ip => exact Raises.pure ip s

/-- Where an address is free the first attempt goes through or fails for another reason: the
address and the key are new. -/
theorem createPeerAttempts_spares {server : VpnServer} (d : Id) (n : Nat)
    (hkeys : ∀ p∈s.db.vpnPeers.rows,p.publicKey<s.serial) (h : exhausted s.db server=false) :
    RaisesAt Impersonal (createPeerAttempts cfg d server (n+1)) s := by
  refine (allocateIp_spares h).bind fun ip u hu => ?_
  obtain ⟨hus,network,_,hfree⟩ := allocateIp_ok hu
  subst hus
  refine (createPeer_raises cfg d server ip s).bind fun result v hv => ?_
  obtain ⟨os,hresult,hvs⟩ := createPeer_ok hv
  refine (nextSerial_raises v).bind fun id w hw => ?_
  cases hw
  refine (flush_raises _).bind fun _ w hw => ?_
  obtain ⟨os₁,hws⟩ := flush_ok hw
  refine (flush_raises _).bind fun _ x hx => ?_
  obtain ⟨os₂,hxs⟩ := flush_ok hx
  have hdb : x.db=s.db := by rw [hxs,hws,hvs]; rfl
  have hclash : peerClash x.db ⟨v.serial,d,server.id,result.publicKey,result.assignedIp,.active⟩=
      false := by
    rw [hdb]
    refine peerClash_eq_false.mpr fun q hq => ⟨fun he => ?_,?_⟩
    · have hmem : q∈s.db.peersOfServer server.id := by
        simp only [Database.peersOfServer,List.mem_filter,decide_eq_true_eq]
        exact ⟨hq,he.1⟩
      refine freeAddress_fresh hfree q hmem ?_
      rw [he.2,hresult]
    · rw [hresult]
      exact (hkeys q hq).ne
  refine RaisesAt.reads_bind ?_
  rw [if_neg (by rw [hclash]; exact Bool.false_ne_true)]
  exact ((alter_raises _).bind fun _ => Raises.pure _) x

theorem reissue_spares {device : Device} (hs : Consistent s.serial s.db)
    (h : device.protocol=.wireguard → ∀ server,s.db.serverOf device=some server →
      exhausted s.db server=false) : RaisesAt Impersonal (reissue cfg device) s := by
  have hfixed : ∀ e∈fixedErrors,Impersonal e := fun _ h => .fixed h
  refine (Raises.require _ (hfixed _ ?_) s).bind fun _ u hu => ?_
  · simp only [fixedErrors,List.mem_cons,true_or,or_true]
  obtain ⟨hproto,hus⟩ := Eff.require_ok.mp hu
  subst hus
  have hwire : device.protocol=.wireguard := by
    cases hp : device.protocol with
    | wireguard => rfl
    | vless => exact absurd hp hproto
  refine (serverOfDevice_raises device _).bind fun server v hv => ?_
  obtain ⟨hvs,hid,hget⟩ := serverOfDevice_ok hv
  subst hvs
  have hserver : u.db.serverOf device=some server := by
    unfold Database.serverOf
    rw [hid]
    exact hget
  have hfree := h hwire server hserver
  refine (withActivePeer_raises (retirePeer_raises server) device.id _).bind fun _ v hv => ?_
  have hrest : ∀ created : PeerProvisioningResult×VpnPeer,Raises Impersonal (do
      updateDevice device.id (fun d =>
        {d with
          publicKey := some created.2.publicKey
          assignedIp := some created.2.assignedIp}) fun _ => rfl
      let profile ← regenerateProfile cfg device.id device.userId
      let config ← generateQrCode (clientConfig cfg created.1 profile)
      let device ← refreshed device
      pure (⟨device,some config,none⟩ : ProvisionedDevice)) := fun created =>
    Raises.bind (Raises.change _) fun _ => (regenerateProfile_raises cfg _ _).bind fun _ =>
      (generateQrCode_raises _).bind fun _ => (refreshed_raises device).bind fun _ => Raises.pure _
  have hcreate : RaisesAt Impersonal (createPeerWithRetry cfg device.id server) v := by
    rcases retireActive_ok hv with ⟨_,hvs⟩|⟨p,os,_,hvs⟩
    · subst hvs
      exact createPeerAttempts_spares device.id 4 (fun p hp => (hs.peerNumbers p hp).2) hfree
    · apply createPeerAttempts_spares
      · have hrows : v.db.vpnPeers=u.db.vpnPeers.modify p.id
            (fun q => {q with status := .revoked}) fun _ => rfl := by rw [hvs]
        have hserial : v.serial=u.serial := by rw [hvs]; rfl
        rw [hrows,hserial]
        intro q hq
        rcases (Store.mem_modify _).mp hq with ⟨x,hx,_,he⟩|⟨hold,_⟩
        · rw [he]
          exact (hs.peerNumbers x hx).2
        · exact (hs.peerNumbers q hold).2
      · rw [hvs]
        exact (exhausted_retired u.db server p.id).trans hfree
  exact hcreate.bind fun created x _ => hrest created x

theorem enforceDeviceLimit_raises (userId : Id) :
    RaisesAt (fun e => limitVerdict s.db userId=.error e) (enforceDeviceLimit userId) s := by
  unfold enforceDeviceLimit
  refine RaisesAt.reads_bind ?_
  cases limitVerdict s.db userId with
  | ok u => exact Raises.pure _ s
  | error e =>
    have hraise : Raises (fun x => Except.error e=(Except.error x : Except AppError Unit))
        (Eff.raise e : Req Unit) := Raises.raise rfl
    exact hraise s

theorem limitVerdict_error {db : Database} {userId : Id} {e : AppError}
    (h : limitVerdict db userId=.error e) : Impersonal e ∨ ∃ subscription plan,
      db.activeSubscription userId=some subscription ∧
      db.plans.get? subscription.planId=some plan ∧
      e=deviceLimitReached (db.countActiveDevices userId) (deviceLimit subscription plan) := by
  unfold limitVerdict at h
  cases hs : db.activeSubscription userId with
  | none =>
    rw [hs] at h
    cases h
    exact Or.inl (.fixed (by decide))
  | some subscription =>
    rw [hs] at h
    dsimp only at h
    cases hp : db.plans.get? subscription.planId with
    | none =>
      rw [hp] at h
      cases h
      exact Or.inl (.internal _)
    | some plan =>
      rw [hp] at h
      dsimp only at h
      split_ifs at h
      cases h
      exact Or.inr ⟨subscription,plan,rfl,hp,rfl⟩

theorem limitVerdict_unpooled {db : Database} {userId : Id} {e : AppError}
    (h : limitVerdict db userId=.error e) : Unpooled e := by
  rcases limitVerdict_error h with himp|⟨subscription,plan,_,_,he⟩
  · exact himp.unpooled
  · rw [he]
    exact ⟨show "device_limit_reached"≠_ by decide,show "device_limit_reached"≠_ by decide⟩

theorem provision_spares {user : User} {name : String} {requested : Option Id}
    {protocol : VpnProtocol} (hs : Consistent s.serial s.db)
    (h : protocol=.wireguard → (limitVerdict s.db user.id).isOk=true → name.length≤64 →
      ∀ server,chosenServer s.db requested .wireguard=some server → exhausted s.db server=false) :
    RaisesAt Unpooled (provision cfg user name requested protocol) s := by
  have hun : ∀ {α : Type} {m : Req α} {t},RaisesAt Impersonal m t → RaisesAt Unpooled m t :=
    fun hm => hm.mono fun _ => Impersonal.unpooled
  refine ((enforceDeviceLimit_raises user.id).mono fun _ => limitVerdict_unpooled).bind
    fun _ u hu => ?_
  obtain ⟨hus,hverdict⟩ := enforceDeviceLimit_ok hu
  subst hus
  cases protocol with
  | vless => exact hun (provisionVless_raises cfg user name requested s)
  | wireguard =>
    apply hun
    refine (chooseServer_raises requested .wireguard s).bind fun server u hu => ?_
    obtain ⟨hchosen,hus⟩ := chooseServer_chosen.mp hu
    subst hus
    refine (addDevice_raises _ _ _ _ _).bind fun device v hv => ?_
    obtain ⟨hlen,_,os,hvs⟩ := addDevice_ok hv
    have hfree := h rfl (by rw [hverdict]; rfl) hlen server hchosen
    refine (createOrRotate_raises _ v).bind fun link w hw => ?_
    have hview := ((createOrRotate_hardware device.id) v).rel_of_run hw
    have hpeers : w.db.vpnPeers=u.db.vpnPeers := by
      have hw' := hview.1
      simp only [hardwareView,Prod.mk.injEq] at hw'
      rw [hw'.2.2.2.1,hvs]
    have hle : u.serial≤w.serial := by
      have hv' : u.serial≤v.serial := by
        rw [hvs]
        exact (Int.lt_succ _).le
      exact hv'.trans hview.2
    have hcreate : RaisesAt Impersonal (createPeerWithRetry cfg device.id server) w := by
      apply createPeerAttempts_spares
      · rw [hpeers]
        exact fun p hp => (hs.peerNumbers p hp).2.trans_le hle
      · rw [exhausted_peers hpeers]
        exact hfree
    have hload : ∀ k,Raises Impersonal (addLoad k) := fun _ => Raises.change _
    exact hcreate.bind fun created x _ => (Raises.bind (Raises.change _) fun _ =>
      (hload server.id).bind fun _ => (regenerateProfile_raises cfg _ _).bind fun _ =>
      (generateQrCode_raises _).bind fun _ => (generateQrCode_raises _).bind fun _ =>
      (refreshed_raises device).bind fun _ => Raises.pure _ : Raises Impersonal _) x

/-- Where the pool has an address for the request, no error is about the pool. -/
theorem handle_spares {r : Request} (hs : Consistent s.serial s.db)
    (h : r.entitled s.db=true → ∀ server,r.server s.db=some server →
      exhausted s.db server=false) : RaisesAt Unpooled (handle cfg r) s := by
  have hun : ∀ {α : Type} {m : Req α},Raises Impersonal m → RaisesAt Unpooled m s :=
    fun hm => (hm s).mono fun _ => Impersonal.unpooled
  have huser := fun telegramId => hun (currentUser_raises telegramId)
  cases r with
  | billing r => exact hun (handleBilling_raises cfg r)
  | routing r => exact hun (handleRouting_raises _ r)
  | servers r => exact hun (handleServers_raises r)
  | listDevices telegramId =>
    exact hun ((currentUser_raises telegramId).bind fun _ => getDb_raises.bind fun _ =>
      Raises.pure _)
  | createDevice telegramId name requested protocol =>
    refine (huser telegramId).bind fun user t ht => ?_
    obtain ⟨hget,hts⟩ := currentUser_run.mp ht
    subst hts
    refine RaisesAt.bind (provision_spares hs fun hp hverdict hlen server hserver => ?_)
      fun _ u _ => Raises.pure _ u
    subst hp
    refine h ?_ server hserver
    simp only [Request.entitled,hget,Option.any_some,hverdict,hlen,decide_true,Bool.and_true]
  | device telegramId deviceId op =>
    refine (huser telegramId).bind fun user t ht => ?_
    obtain ⟨huser,hts⟩ := currentUser_run.mp ht
    subst hts
    refine (hun (getOwned_raises deviceId user.id)).bind fun device u hu => ?_
    obtain ⟨hget,hut⟩ := Eff.orRaise_ok.mp hu
    subst hut
    by_cases hop : op=.reissue
    · subst hop
      refine RaisesAt.bind (RaisesAt.mono (reissue_spares hs fun hproto server hserver => ?_)
        fun _ => Impersonal.unpooled) fun _ v _ => Raises.pure _ v
      obtain ⟨hdevice,_⟩ := Option.filter_eq_some_iff.mp hget
      apply h
      · simp only [Request.entitled,Database.owned,huser,Option.bind_some,hget,Option.isSome_some]
      · have hfilter : (some device).filter (fun d : Device => d.protocol=.wireguard)=
            some device := by
          simp [hproto]
        simp only [Request.server,hdevice,hfilter,Option.bind_some,hserver]
    · exact hun (handleDevice_raises cfg device hop)
  | fetchSubscription token => exact hun ((deliver_raises token).bind fun _ => Raises.pure _)
  | sweep asOf => exact hun ((runOnce_raises asOf).bind fun _ => Raises.pure _)

/-- The computation ends with this error. -/
def EndsWith {α : Type} (e : AppError) (m : Req α) (s : Session) : Prop := ∃ t,m s=(.error e,t)

theorem EndsWith.bind {α β : Type} {e : AppError} {m : Req α} {f : α → Req β}
    (h : EndsWith e m s) : EndsWith e (m >>= f) s := by
  obtain ⟨t,ht⟩ := h
  exact ⟨t,Eff.bind_run_error ht⟩

theorem EndsWith.of_run {α : Type} {e : AppError} {m n : Req α} {u : Session} (he : m s=n u)
    (h : EndsWith e n u) : EndsWith e m s := by
  obtain ⟨t,ht⟩ := h
  exact ⟨t,he.trans ht⟩

variable (cfg) in
theorem createPeerWithRetry_exhausted {server : VpnServer} (d : Id)
    (h : exhausted s.db server=true) :
    EndsWith (ipPoolExhausted server) (createPeerWithRetry cfg d server) s := by
  have halloc : allocateIp server s=(.error (ipPoolExhausted server),s) := by
    unfold exhausted at h
    cases hn : server.internalNetwork.network with
    | none => simp [hn] at h
    | some network =>
      have hfree : freeAddress network (s.db.peersOfServer server.id)=some none := by
        simpa [hn] using h
      simp [allocateIp,hn,hfree]
  exact EndsWith.bind ⟨s,halloc⟩

/-- The old peer is given up before the pool is found exhausted. -/
theorem reissue_exhausted {device : Device} {server : VpnServer} (ho : s.outcomes=[])
    (hproto : device.protocol=.wireguard) (hserver : s.db.serverOf device=some server)
    (h : exhausted s.db server=true) :
    EndsWith (ipPoolExhausted server) (reissue cfg device) s := by
  obtain ⟨rest,hrun⟩ := reissue_run cfg hproto hserver
  refine EndsWith.of_run hrun ?_
  cases hp : s.db.activePeer device.id with
  | none =>
    exact EndsWith.of_run (Eff.bind_run_ok (withActivePeer_none hp))
      (createPeerWithRetry_exhausted cfg device.id h).bind
  | some p =>
    have hnext : upcoming s.outcomes=(.answered,[]) := by
      rw [ho]
      rfl
    have hcall : deletePeer p.publicKey server s=(.ok (),setVpn server.agentBaseUrl
        (PeerStore.deletePeer p.publicKey (s.vpn server.agentBaseUrl)) {s with outcomes := []}) :=
      vpnRequest_answered hnext rfl
    have hretire : withActivePeer device.id (retirePeer server) s=(.ok (),
        {setVpn server.agentBaseUrl (PeerStore.deletePeer p.publicKey (s.vpn server.agentBaseUrl)) s
          with
          db := {s.db with
            vpnPeers := s.db.vpnPeers.modify p.id (fun q => {q with status := .revoked}) fun _ => rfl}
          outcomes := []}) := by
      rw [withActivePeer_of hp]
      unfold retirePeer
      rw [Eff.bind_run_ok hcall]
      rfl
    refine EndsWith.of_run (Eff.bind_run_ok hretire) (EndsWith.bind ?_)
    apply createPeerWithRetry_exhausted
    exact (exhausted_retired s.db server p.id).trans h

theorem provision_exhausted {user : User} {name : String} {requested : Option Id}
    {server : VpnServer} (ho : s.outcomes=[]) (hverdict : limitVerdict s.db user.id=.ok ())
    (hlen : name.length≤64) (hserver : chosenServer s.db requested .wireguard=some server)
    (h : exhausted s.db server=true) :
    EndsWith (ipPoolExhausted server) (provision cfg user name requested .wireguard) s := by
  have hnext : upcoming s.outcomes=(.answered,[]) := by
    rw [ho]
    rfl
  have hchoose : chooseServer requested .wireguard s=(.ok server,s) :=
    chooseServer_chosen.mpr ⟨hserver,rfl⟩
  let row := freshDevice s.serial user.id name none .wireguard
  have hadd : addDevice user.id name none .wireguard s=
      (.ok row,{withDevice row s with outcomes := []}) := addDevice_answered hnext hlen
  obtain ⟨link,t,ht,_,_,hframe⟩ := createOrRotate_answered (s := {withDevice row s with
    outcomes := []}) row.id rfl
  have hview := hframe.1
  simp only [hardwareView,withDevice,Prod.mk.injEq] at hview
  have hfull : exhausted t.db server=true := (exhausted_peers hview.2.2.2.1 server).trans h
  have hcreate := createPeerWithRetry_exhausted cfg row.id hfull
  obtain ⟨u,hu⟩ := hcreate
  refine ⟨u,?_⟩
  unfold provision
  rw [Eff.bind_run_ok (enforceDeviceLimit_of hverdict)]
  dsimp only
  rw [Eff.bind_run_ok hchoose,Eff.bind_run_ok hadd]
  exact (Eff.bind_run_ok ht).trans (Eff.bind_run_error hu)

end

/-- A request is refused for the pool by what it meets before it commits. -/
theorem poolRefused_iff {cfg : Settings} {env : Env} {r : Request} {w : World} :
    PoolRefused (serve cfg env r w).1 ↔
      ∃ e,EndsWith e (handle cfg r) ⟨w,env⟩ ∧ ¬Unpooled e := by
  have hcode : ∀ e : AppError,¬Unpooled e ↔
      e.errorCode="ip_pool_exhausted" ∨ e.errorCode="ip_allocation_conflict" := by
    intro e
    unfold Unpooled
    tauto
  unfold PoolRefused serve
  simp only [← hcode]
  rcases transaction_cases (handle cfg r) env w with ⟨a,s,t,hm,_,ht⟩|⟨e,s,hs,ht⟩
  · rw [ht]
    constructor
    · rintro ⟨e,he,_⟩
      cases he
    · rintro ⟨e,⟨u,hu⟩,_⟩
      rw [hm] at hu
      cases hu
  · rw [ht]
    constructor
    · rintro ⟨x,hx,hpool⟩
      cases hx
      rcases hs with hm|⟨a,u,_,hf⟩
      · exact ⟨e,⟨s,hm⟩,hpool⟩
      · exact absurd (flush_raises u e s hf).unpooled hpool
    · rintro ⟨x,⟨u,hu⟩,hpool⟩
      rcases hs with hm|⟨a,v,hm,_⟩
      · rw [hm] at hu
        cases hu
        exact ⟨e,rfl,hpool⟩
      · rw [hm] at hu
        cases hu

/-- A request that an exhausted pool stands in the way of is refused when all calls are
answered. -/
theorem exhausted_refuses (cfg : Settings) {w : World} {r : Request} {server : VpnServer}
    (hr : r.entitled w.db=true) (hserver : r.server w.db=some server)
    (h : exhausted w.db server=true) : ∃ env,PoolRefused (serve cfg env r w).1 := by
  let env : Env := ⟨0,[],fun _ => none,fun _ => true⟩
  refine ⟨env,poolRefused_iff.mpr ⟨ipPoolExhausted server,?_,fun hun => hun.1 rfl⟩⟩
  cases r with
  | createDevice telegramId name requested protocol =>
    cases protocol with
    | vless => cases hserver
    | wireguard =>
      simp only [Request.entitled,Option.any_eq_true,Bool.and_eq_true,decide_eq_true_eq] at hr
      obtain ⟨user,huser,hverdict,hlen⟩ := hr
      have hu : currentUser telegramId ⟨w,env⟩=(.ok user,⟨w,env⟩) :=
        currentUser_run.mpr ⟨huser,rfl⟩
      have hok : limitVerdict w.db user.id=.ok () := by
        cases hv : limitVerdict w.db user.id with
        | ok u => rfl
        | error e =>
          rw [hv] at hverdict
          cases hverdict
      have hprov : EndsWith (ipPoolExhausted server) (provision cfg user name requested .wireguard)
          ⟨w,env⟩ := provision_exhausted rfl hok hlen hserver h
      exact EndsWith.of_run (Eff.bind_run_ok hu) hprov.bind
  | device telegramId deviceId op =>
    cases op with
    | reissue =>
      obtain ⟨device,hown⟩ := Option.isSome_iff_exists.mp hr
      obtain ⟨user,_,hdevice⟩ := Option.bind_eq_some_iff.mp hown
      obtain ⟨hget,_⟩ := Option.filter_eq_some_iff.mp hdevice
      simp only [Request.server,hget] at hserver
      obtain ⟨x,hx,hof⟩ := Option.bind_eq_some_iff.mp hserver
      obtain ⟨hxd,hproto⟩ := Option.filter_eq_some_iff.mp hx
      cases hxd
      have hreissue : EndsWith (ipPoolExhausted server) (reissue cfg device) ⟨w,env⟩ :=
        reissue_exhausted rfl (of_decide_eq_true hproto) hof h
      exact EndsWith.of_run (owned_run hown) hreissue.bind
    | _ => cases hserver
  | _ => cases hserver

theorem chosenServer_get {db : Database} {requested : Option Id} {protocol : VpnProtocol}
    {server : VpnServer} (h : chosenServer db requested protocol=some server) :
    db.vpnServers.get? server.id=some server := by
  unfold chosenServer at h
  cases hk : requested.filter fun k => k≠0 with
  | some k =>
    rw [hk] at h
    have hid : server.id=k := Store.key_of_get? h
    rw [hid]
    exact h
  | none =>
    rw [hk] at h
    have hmem := firstBy_mem _ _ _ h
    simp only [Database.availableServers,List.mem_filter] at hmem
    exact db.vpnServers.get?_of_mem hmem.1.1

theorem Request.server_get {db : Database} {r : Request} {server : VpnServer}
    (h : r.server db=some server) : db.vpnServers.get? server.id=some server := by
  cases r with
  | createDevice telegramId name requested protocol =>
    cases protocol with
    | vless => cases h
    | wireguard => exact chosenServer_get h
  | device telegramId deviceId op =>
    cases op with
    | reissue =>
      obtain ⟨device,_,hof⟩ := Option.bind_eq_some_iff.mp h
      obtain ⟨k,_,hget⟩ := Option.bind_eq_some_iff.mp hof
      have hid : server.id=k := Store.key_of_get? hget
      rw [hid]
      exact hget
    | _ => cases h
  | _ => cases h

/-- A request gets an address while too few peers are active to fill the pool, exactly if it is
not entitled to one or too few peers were ever made to fill it. -/
theorem givesBack_iff {cfg : Settings} {w : World} (hw : Stocked w) {r : Request} :
    GivesBack cfg w r ↔ Roomy w.db r := by
  constructor
  · intro h hr server size hserver hsize hactive
    by_contra hfull
    have hex : exhausted w.db server=true :=
      (exhausted_iff hw.pooled hw.mirrored (Request.server_get hserver)).mpr
        ⟨size,hsize,not_lt.mp hfull⟩
    obtain ⟨env,hrefused⟩ := exhausted_refuses cfg hr hserver hex
    exact h server size hserver hsize hactive env hrefused
  · intro h server size hserver hsize hactive env hrefused
    obtain ⟨e,⟨t,ht⟩,hpool⟩ := poolRefused_iff.mp hrefused
    apply hpool
    refine handle_spares (s := ⟨w,env⟩) hw.sound.consistent (fun hr x hx => ?_) e t ht
    have hxs : x=server := Option.some.inj (hx.symm.trans hserver)
    subst hxs
    have hroom := h hr x size hx hsize hactive
    rw [← Bool.not_eq_true]
    intro hex
    obtain ⟨size',hsize',hle⟩ :=
      (exhausted_iff hw.pooled hw.mirrored (Request.server_get hx)).mp hex
    rw [hsize] at hsize'
    cases hsize'
    omega

theorem stocked_initial : Stocked .initial := ⟨sound_initial,pooled_empty,mirrored_empty⟩

/-- Over a run: no request is refused for want of an address while fewer peers are active on its
server than that has addresses, exactly where fewer peers than that were ever made on the server
of every request that is entitled to one. -/
theorem pools_give_back_iff (cfg : Settings) (cs : List Call) :
    Conducted (fun w c => GivesBack cfg w c.request) (after cfg) .initial cs ↔
      Conducted (fun w c => Roomy w.db c.request) (after cfg) .initial cs := by
  constructor
  · intro h
    have hall := h.with_invariant (fun w c hw _ => after_stocked hw) _ _ stocked_initial
    exact hall.mono (fun w c hc => (givesBack_iff hc.1).mp hc.2) _ _
  · intro h
    have hall := h.with_invariant (fun w c hw _ => after_stocked hw) _ _ stocked_initial
    exact hall.mono (fun w c hc => (givesBack_iff hc.1).mpr hc.2) _ _

/-- The one device of the server is reissued until its five addresses are used up. -/
def reissuing : List Call := List.replicate 4 (calm 3 (.device 77 11 .reissue))

/-- The fifth reissue of a device that is alone on its server is refused. -/
theorem pools_not_given_back : ¬∀ (cfg : Settings) (cs : List Call),
    Conducted (fun w c => GivesBack cfg w c.request) (after cfg) .initial cs := by
  intro h
  have hrun := h sampleSettings ((opening++reissuing)++[calm 3 (.device 77 11 .reissue)])
  have hlast := ((conducted_append _ _ _).mp hrun).2.1
  let w : World := (opening++reissuing).foldl (after sampleSettings) .initial
  have hgives : GivesBack sampleSettings w (.device 77 11 .reissue) := hlast
  have hserver : ∃ server,Request.server w.db (.device 77 11 .reissue)=some server ∧
      server.poolSize=some 5 ∧ w.db.activeOn server.id<5 := by
    have hdecide : ((Request.server w.db (.device 77 11 .reissue)).any fun server =>
        server.poolSize=some 5 && w.db.activeOn server.id<5)=true := by decide +kernel
    obtain ⟨server,hs,hb⟩ := (Option.any_eq_true _ _).mp hdecide
    simp only [Bool.and_eq_true,decide_eq_true_eq] at hb
    exact ⟨server,hs,hb.1,hb.2⟩
  obtain ⟨server,hs,hsize,hactive⟩ := hserver
  apply hgives server 5 hs hsize hactive (quiet 3)
  have hcode : (match (serve sampleSettings (quiet 3) (.device 77 11 .reissue) w).1 with
      | .error e => e.errorCode
      | .ok _ => "")="ip_pool_exhausted" := by decide +kernel
  cases hanswer : (serve sampleSettings (quiet 3) (.device 77 11 .reissue) w).1 with
  | ok a =>
    rw [hanswer] at hcode
    have hne : ""≠"ip_pool_exhausted" := by decide
    exact absurd hcode hne
  | error e =>
    rw [hanswer] at hcode
    exact ⟨e,rfl,Or.inl hcode⟩

end VpnService.Backend
