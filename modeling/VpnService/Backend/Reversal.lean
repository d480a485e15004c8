import VpnService.Agent.PeerRefinement
import VpnService.Backend.XrayRetries
import VpnService.Backend.Delivery
import VpnService.Backend.Loads
import VpnService.Backend.Switched

namespace VpnService.Backend

open Agent

/-- What the agents run on, each under its base URL. -/
structure Nodes where
  vpn : String → PeerNode IpAddress
  xray : String → XrayNode

/-- The stores of the nodes are those the agents have. -/
structure Nodes.Behind (ns : Nodes) (w : World) : Prop where
  vpn : ∀ url,(ns.vpn url).store=w.vpn url
  xray : ∀ url,(ns.xray url).users=w.xray url

namespace Nodes

/-- A request about the active peer of a device arrives at the agent of its server. -/
def peerServed (w : World) (device : Device) (request : Int → Agent.PeerRequest IpAddress)
    (now : Time) (ns : Nodes) : Nodes :=
  match w.db.serverOf device,w.db.activePeer device.id with
  | some server,some peer => {ns with
    vpn := fun u => if u=server.agentBaseUrl then Agent.serve (ns.vpn server.agentBaseUrl)
      ⟨request peer.publicKey,now,fun _ => ⟨none,0,0⟩⟩ else ns.vpn u}
  | _,_ => ns

/-- A request about a credential arrives at the agent its server's configuration names. -/
def userServed (w : World) (call : VlessServerConfig → XrayCall) (now : Time) (ns : Nodes)
    (c : VlessCredential) : Nodes :=
  match w.db.vlessConfig c.serverId with
  | some config => {ns with
    xray := fun u => if u=config.xrayAgentBaseUrl then
      ((call config).execute true now (ns.xray config.xrayAgentBaseUrl)).2 else ns.xray u}
  | none => ns

/-- The requests a device is disabled with, in the state before. -/
def disabled (w : World) (device : Device) (now : Time) (ns : Nodes) : Nodes :=
  match device.protocol with
  | .wireguard => ns.peerServed w device .disablePeer now
  | .vless => (w.db.activeCredentials device.id).foldl
    (fun ns c => ns.userServed w (fun _ => .removeUser c.uuid) now c) ns

def enabled (w : World) (device : Device) (now : Time) (ns : Nodes) : Nodes :=
  match device.protocol with
  | .wireguard => ns.peerServed w device .enablePeer now
  | .vless => ((w.db.credentialsOf device.id).filter fun c => c.status=.disabled).foldl
    (fun ns c => ns.userServed w (fun config => .createUser c.uuid device.id config.flow) now c) ns

/-- What the interface of its server allows the active peer of the device. -/
def peerEntry (w : World) (device : Device) (ns : Nodes) : Option (List IpAddress) :=
  (w.db.serverOf device).bind fun server => (w.db.activePeer device.id).bind fun peer =>
    (ns.vpn server.agentBaseUrl).live.allowedAt peer.publicKey

/-- The user under the email of the credential's device. -/
def userEntry (w : World) (c : VlessCredential) (ns : Nodes) : Option InboundUser :=
  (w.db.vlessConfig c.serverId).bind fun config =>
    (ns.xray config.xrayAgentBaseUrl).inbound.get? (emailForDevice c.deviceId)

/-- The live entry of the device is the same. -/
def SameEntry (w : World) (device : Device) (ms ns : Nodes) : Prop := match device.protocol with
  | .wireguard => ms.peerEntry w device=ns.peerEntry w device
  | .vless => ∀ c∈w.db.activeCredentials device.id,ms.userEntry w c=ns.userEntry w c

/-- The live entry is the one the agent's record and the present configuration ask for, or one the
agent neither takes down nor replaces. -/
def EntryAsRows (w : World) (device : Device) (ns : Nodes) : Prop := match device.protocol with
  | .wireguard => ∀ r,peerRecord w device=some r → ns.peerEntry w device=some [r.assignedIp]
  | .vless => ∀ c∈w.db.activeCredentials device.id,∀ config,
    w.db.vlessConfig c.serverId=some config →
      ns.userEntry w c=some ⟨emailForDevice c.deviceId,c.uuid,config.flow⟩ ∨
        (ns.userEntry w c).isSome ∧
          ∀ r,userRecord w c=some r → r.email≠emailForDevice c.deviceId

end Nodes

/-- The agents, with the active peer of the device switched on or off. -/
def World.withPeer (w : World) (device : Device) (enabled : Bool) : World :=
  match w.db.serverOf device,w.db.activePeer device.id with
  | some server,some peer => {w with
    vpn := fun u => if u=server.agentBaseUrl then
      PeerStore.setEnabled (w.vpn server.agentBaseUrl) peer.publicKey enabled else w.vpn u}
  | _,_ => w

theorem status_id (status : DeviceStatus) (d : Device) :
    ({d with status := status} : Device).id=d.id := rfl

def World.withStatus (w : World) (d : Id) (status : DeviceStatus) : World :=
  {w with db := {w.db with
    devices := w.db.devices.modify d (fun x => {x with status := status}) (status_id status)}}

section

variable {w : World} {device : Device} {now : Time} {ns : Nodes} {s : Session}

theorem withPeer_at {server : VpnServer} {peer : VpnPeer}
    (hserver : w.db.serverOf device=some server) (hpeer : w.db.activePeer device.id=some peer)
    (enabled : Bool) : w.withPeer device enabled={w with
      vpn := fun u => if u=server.agentBaseUrl then
        PeerStore.setEnabled (w.vpn server.agentBaseUrl) peer.publicKey enabled else w.vpn u} := by
  unfold World.withPeer
  rw [hserver,hpeer]

theorem withPeer_none (h : w.db.serverOf device=none ∨ w.db.activePeer device.id=none)
    (enabled : Bool) : w.withPeer device enabled=w := by
  unfold World.withPeer
  rcases h with h|h
  · rw [h]
  · rw [h]
    cases w.db.serverOf device <;> rfl

theorem withPeer_db (enabled : Bool) : (w.withPeer device enabled).db=w.db := by
  unfold World.withPeer
  split <;> rfl

/-- A peer its agent does not know cannot be switched. -/
theorem withPeer_unknown (h : peerRecord w device=none) (enabled : Bool) :
    w.withPeer device enabled=w := by
  cases hserver : w.db.serverOf device with
  | none => exact withPeer_none (Or.inl hserver) enabled
  | some server =>
    cases hpeer : w.db.activePeer device.id with
    | none => exact withPeer_none (Or.inr hpeer) enabled
    | some peer =>
      have habsent : (w.vpn server.agentBaseUrl).get? peer.publicKey=none := by
        simpa [peerRecord,hserver,hpeer] using h
      rw [withPeer_at hserver hpeer,PeerStore.setEnabled_same fun r hr => by simp [habsent] at hr]
      have hsame : (fun u => if u=server.agentBaseUrl then w.vpn server.agentBaseUrl
          else w.vpn u)=w.vpn := by
        funext u
        split_ifs with hu
        · rw [hu]
        · rfl
      rw [hsame]

theorem Ready.wireguard (hproto : device.protocol=.wireguard) : Ready w device ↔
    ∃ server,w.db.serverOf device=some server ∧ ∀ p,w.db.activePeer device.id=some p →
      ((w.vpn server.agentBaseUrl).get? p.publicKey).isSome := by
  unfold Ready
  rw [hproto]

/-- While everything is answered, switching the peer of a device succeeds just if it is ready, and
else it leaves all as it was. -/
theorem switchPeer_calm (hproto : device.protocol=.wireguard) (ho : s.outcomes=[])
    (enabled : Bool) :
    let m := serverOfDevice device >>= fun server => withActivePeer device.id fun peer =>
      vpnRequest server fun store => (store.get? peer.publicKey).map fun _ =>
        PeerStore.setEnabled store peer.publicKey enabled
    (Ready s.toWorld device ∧
      m s=(.ok (),{s with toWorld := s.toWorld.withPeer device enabled})) ∨
    (¬Ready s.toWorld device ∧ s.toWorld.withPeer device enabled=s.toWorld ∧
      ∃ e,m s=(.error e,s)) := by
  intro m
  cases hserver : s.db.serverOf device with
  | none =>
    refine Or.inr ⟨fun hready => ?_,withPeer_none (Or.inl hserver) enabled,?_⟩
    · obtain ⟨server,hsome,_⟩ := (Ready.wireguard hproto).mp hready
      rw [hserver] at hsome
      cases hsome
    · have hfails : ∃ e,serverOfDevice device s=(.error e,s) := by
        unfold serverOfDevice
        cases hid : device.serverId with
        | none => exact ⟨_,rfl⟩
        | some k =>
          have hget : s.db.vpnServers.get? k=none := by
            simpa [Database.serverOf,hid] using hserver
          rw [Eff.orRaise_some,Eff.pure_bind_run]
          unfold getServer
          rw [getDb_bind_run,hget]
          exact ⟨_,rfl⟩
      obtain ⟨e,he⟩ := hfails
      exact ⟨e,Eff.bind_run_error he⟩
  | some server =>
    have hget : serverOfDevice device s=(.ok server,s) := serverOfDevice_of hserver
    have hrun := Eff.bind_run_ok (f := fun server => withActivePeer device.id fun peer =>
      vpnRequest server fun store => (store.get? peer.publicKey).map fun _ =>
        PeerStore.setEnabled store peer.publicKey enabled) hget
    cases hpeer : s.db.activePeer device.id with
    | none =>
      refine Or.inl ⟨(Ready.wireguard hproto).mpr ⟨server,hserver,fun p hp => ?_⟩,?_⟩
      · rw [hpeer] at hp
        cases hp
      · rw [withPeer_none (Or.inr hpeer)]
        refine hrun.trans ?_
        unfold withActivePeer
        rw [getDb_bind_run,hpeer]
        rfl
    | some peer =>
      have hone := hrun.trans (withActivePeer_of hpeer)
      cases hr : (s.vpn server.agentBaseUrl).get? peer.publicKey with
      | some r =>
        refine Or.inl ⟨(Ready.wireguard hproto).mpr ⟨server,hserver,fun p hp => ?_⟩,?_⟩
        · rw [hpeer] at hp
          cases hp
          rw [hr]
          rfl
        · have hnext : upcoming s.outcomes=(.answered,[]) := by rw [ho]; rfl
          refine hone.trans ((vpnRequest_answered hnext (by rw [hr]; rfl)).trans ?_)
          rw [withPeer_at hserver hpeer,← ho]
          rfl
      | none =>
        have hunknown : peerRecord s.toWorld device=none := by
          simp [peerRecord,hserver,hpeer,hr]
        refine Or.inr ⟨fun hready => ?_,withPeer_unknown hunknown enabled,?_⟩
        · obtain ⟨x,hx,hknown⟩ := (Ready.wireguard hproto).mp hready
          rw [hserver] at hx
          cases hx
          have hsome := hknown peer hpeer
          rw [hr] at hsome
          cases hsome
        · refine ⟨vpnAgentUnreachable server,hone.trans ?_⟩
          unfold vpnRequest
          have hout : nextOutcome s=(.ok .answered,s) := by
            unfold nextOutcome
            rw [ho]
          rw [Eff.bind_run_ok hout,Eff.reads_bind_run]
          simp only [hr,Option.map_none]
          rfl

end

section

variable {cfg : Settings} {w : World} {device : Device} {env : Env} {telegramId : Int} {d : Id}

theorem transaction_refused {α : Type} {m : Req α} {e : AppError}
    (h : m ⟨w,env⟩=(.error e,⟨w,env⟩)) : (transaction m env w).2=w := by
  unfold transaction
  rw [Eff.bind_run_error h]

/-- Where the transport is switched and all is answered, the status is written. -/
theorem transaction_status {m : Req Unit} {t : Session} {k : Id} {status : DeviceStatus}
    (h : m ⟨w,env⟩=(.ok (),t)) (ho : t.outcomes=[]) :
    (transaction (m >>= fun _ => setDeviceStatus k status) env w).2=
      t.toWorld.withStatus k status := by
  have hrun : (m >>= fun _ => setDeviceStatus k status) ⟨w,env⟩=
      (.ok (),{t with toWorld := t.toWorld.withStatus k status}) := Eff.bind_run_ok h
  rw [transaction_calm hrun ho]

theorem after_disable (hown : w.db.owned telegramId d=some device) :
    after cfg w ⟨env,.device telegramId d .disable⟩=(transaction (disable device) env w).2 :=
  (congrArg Prod.snd (transaction_congr (owned_run hown))).trans
    (transaction_answer fun _ _ => ⟨_,rfl⟩)

theorem after_enable (hown : w.db.owned telegramId d=some device) :
    after cfg w ⟨env,.device telegramId d .enable⟩=(transaction (enable device) env w).2 :=
  (congrArg Prod.snd (transaction_congr (owned_run hown))).trans
    (transaction_answer fun _ _ => ⟨_,rfl⟩)

/-- The owner finds the device under its new status. -/
theorem owned_withStatus (hown : w.db.owned telegramId d=some device) (status : DeviceStatus) :
    (w.withStatus device.id status).db.owned telegramId d=
      some {device with status := status} := by
  obtain ⟨user,huser,hdevice⟩ := Option.bind_eq_some_iff.mp hown
  obtain ⟨hget,huid⟩ := Option.filter_eq_some_iff.mp hdevice
  have hid : device.id=d := Store.key_of_get? hget
  subst hid
  have hkey : ∀ x : Device,({x with status := status} : Device).id=x.id := fun _ => rfl
  have hrow : (w.db.devices.modify device.id (fun x => {x with status := status}) hkey).get?
      device.id=some {device with status := status} := by
    rw [Store.get?_modify_self,hget]
    rfl
  refine Option.bind_eq_some_iff.mpr ⟨user,huser,Option.filter_eq_some_iff.mpr ⟨hrow,?_⟩⟩
  exact huid

theorem withStatus_undone (hd : w.db.devices.get? device.id=some device) (status : DeviceStatus) :
    ((w.withStatus device.id status).withStatus device.id device.status).db=w.db := by
  have hback := Store.modify_undone w.db.devices device.id
    (f := fun x => {x with status := status}) (g := fun x => {x with status := device.status})
    (fun _ => rfl) (fun _ => rfl) fun r hr => by
      rw [hd] at hr
      cases hr
      rfl
  unfold World.withStatus
  simp only [hback]

/-- A WireGuard device gets its status where its peer could be switched. -/
theorem transaction_switch (hproto : device.protocol=.wireguard) (ho : env.outcomes=[])
    (enabled : Bool) (status : DeviceStatus) {m : Req Unit}
    (hm : m=(serverOfDevice device >>= fun server => withActivePeer device.id fun peer =>
      vpnRequest server fun store => (store.get? peer.publicKey).map fun _ =>
        PeerStore.setEnabled store peer.publicKey enabled)) :
    let t := (transaction (m >>= fun _ => setDeviceStatus device.id status) env w).2
    (Ready w device ∧ t=(w.withPeer device enabled).withStatus device.id status) ∨
    (¬Ready w device ∧ w.withPeer device enabled=w ∧ t=w) := by
  subst hm
  rcases switchPeer_calm (s := ⟨w,env⟩) hproto ho enabled with
    ⟨hready,hrun⟩|⟨hnot,hsame,e,hrun⟩
  · exact Or.inl ⟨hready,transaction_status hrun ho⟩
  · exact Or.inr ⟨hnot,hsame,transaction_refused (Eff.bind_run_error hrun)⟩

theorem disable_wireguard (cfg : Settings) (hown : w.db.owned telegramId d=some device)
    (hproto : device.protocol=.wireguard) (ho : env.outcomes=[]) :
    (Ready w device ∧ after cfg w ⟨env,.device telegramId d .disable⟩=
      (w.withPeer device false).withStatus device.id .disabled) ∨
    (¬Ready w device ∧ w.withPeer device false=w ∧
      after cfg w ⟨env,.device telegramId d .disable⟩=w) := by
  have hsplit : disable device=disablePeer device >>= fun _ =>
      setDeviceStatus device.id .disabled := by
    unfold disable disableTransport
    rw [hproto]
  rw [after_disable hown,hsplit]
  exact transaction_switch hproto ho false .disabled rfl

theorem enable_wireguard (cfg : Settings) (hown : w.db.owned telegramId d=some device)
    (hproto : device.protocol=.wireguard) (ho : env.outcomes=[]) :
    (Ready w device ∧ after cfg w ⟨env,.device telegramId d .enable⟩=
      (w.withPeer device true).withStatus device.id .active) ∨
    (¬Ready w device ∧ w.withPeer device true=w ∧
      after cfg w ⟨env,.device telegramId d .enable⟩=w) := by
  have hsplit : enable device=enablePeer device >>= fun _ =>
      setDeviceStatus device.id .active := by
    unfold enable enableTransport
    rw [hproto]
  rw [after_enable hown,hsplit]
  exact transaction_switch hproto ho true .active rfl

/-- Switching a peer off makes no difference to whether it can be switched on. -/
theorem ready_withPeer (hproto : device.protocol=.wireguard) (enabled : Bool)
    (h : Ready w device) : Ready (w.withPeer device enabled) device := by
  obtain ⟨server,hserver,hknown⟩ := (Ready.wireguard hproto).mp h
  rw [Ready.wireguard hproto,withPeer_db]
  refine ⟨server,hserver,fun p hp => ?_⟩
  rw [withPeer_at hserver hp]
  simp only [if_true]
  rw [PeerStore.get?_setEnabled,if_pos rfl,Option.isSome_map]
  exact hknown p hp

end

namespace Nodes

variable {w u : World} {device : Device} {now later : Time} {ns : Nodes}

theorem Behind.withStatus (h : ns.Behind w) (k : Id) (status : DeviceStatus) :
    ns.Behind (w.withStatus k status) := ⟨h.vpn,h.xray⟩

theorem serve_disablePeer_store (n : PeerNode IpAddress) (k : Int) (v : PeerVisit IpAddress)
    (hv : v.request=.disablePeer k) :
    (Agent.serve n v).store=PeerStore.setEnabled n.store k false := by
  obtain ⟨request,now,traffic⟩ := v
  cases hv
  cases hk : n.store.get? k with
  | none =>
    rw [serve_disablePeer_absent hk,PeerStore.setEnabled_same fun r hr => by simp [hk] at hr]
  | some r => rw [serve_disablePeer hk]

theorem serve_enablePeer_store (n : PeerNode IpAddress) (k : Int) (v : PeerVisit IpAddress)
    (hv : v.request=.enablePeer k) :
    (Agent.serve n v).store=PeerStore.setEnabled n.store k true := by
  obtain ⟨request,now,traffic⟩ := v
  cases hv
  cases hk : n.store.get? k with
  | none =>
    rw [serve_enablePeer_absent hk,PeerStore.setEnabled_same fun r hr => by simp [hk] at hr]
  | some r => rw [serve_enablePeer hk]

theorem peerServed_at {server : VpnServer} {peer : VpnPeer}
    (hserver : w.db.serverOf device=some server) (hpeer : w.db.activePeer device.id=some peer)
    (request : Int → Agent.PeerRequest IpAddress) : ns.peerServed w device request now={ns with
      vpn := fun u => if u=server.agentBaseUrl then Agent.serve (ns.vpn server.agentBaseUrl)
        ⟨request peer.publicKey,now,fun _ => ⟨none,0,0⟩⟩ else ns.vpn u} := by
  unfold peerServed
  rw [hserver,hpeer]

theorem peerServed_none (h : w.db.serverOf device=none ∨ w.db.activePeer device.id=none)
    (request : Int → Agent.PeerRequest IpAddress) :
    ns.peerServed w device request now=ns := by
  unfold peerServed
  rcases h with h|h
  · rw [h]
  · rw [h]
    cases w.db.serverOf device <;> rfl

/-- The node does what the backend takes its agent to do. -/
theorem peerServed_behind (device : Device) (now : Time) (h : ns.Behind w)
    {request : Int → Agent.PeerRequest IpAddress} {enabled : Bool}
    (hrequest : ∀ n k (v : PeerVisit IpAddress),v.request=request k →
      (Agent.serve n v).store=PeerStore.setEnabled n.store k enabled) :
    (ns.peerServed w device request now).Behind (w.withPeer device enabled) := by
  cases hserver : w.db.serverOf device with
  | none =>
    rw [peerServed_none (Or.inl hserver),withPeer_none (Or.inl hserver)]
    exact h
  | some server =>
    cases hpeer : w.db.activePeer device.id with
    | none =>
      rw [peerServed_none (Or.inr hpeer),withPeer_none (Or.inr hpeer)]
      exact h
    | some peer =>
      rw [peerServed_at hserver hpeer,withPeer_at hserver hpeer]
      refine ⟨fun url => ?_,h.xray⟩
      simp only
      split_ifs with hurl
      · rw [hrequest _ peer.publicKey _ rfl,h.vpn]
      · exact h.vpn url

theorem peerServed_congr (hserver : u.db.serverOf device=w.db.serverOf device)
    (hpeer : u.db.activePeer device.id=w.db.activePeer device.id)
    (request : Int → Agent.PeerRequest IpAddress) :
    ns.peerServed u device request now=ns.peerServed w device request now := by
  unfold peerServed
  rw [hserver,hpeer]

/-- Switched off and on again, a peer the agent knows is allowed the address of its record. -/
theorem peerEntry_switched (device : Device) (now later : Time) (h : ns.Behind w) :
    ((ns.peerServed w device .disablePeer now).peerServed w device .enablePeer later).peerEntry
      w device=match peerRecord w device with
        | some r => some [r.assignedIp]
        | none => ns.peerEntry w device := by
  cases hserver : w.db.serverOf device with
  | none =>
    rw [peerServed_none (Or.inl hserver),peerServed_none (Or.inl hserver)]
    simp [peerRecord,peerEntry,hserver]
  | some server =>
    cases hpeer : w.db.activePeer device.id with
    | none =>
      rw [peerServed_none (Or.inr hpeer),peerServed_none (Or.inr hpeer)]
      simp [peerRecord,peerEntry,hserver,hpeer]
    | some peer =>
      rw [peerServed_at hserver hpeer,peerServed_at hserver hpeer]
      simp only [peerRecord,peerEntry,hserver,hpeer,Option.bind_some,if_true,← h.vpn]
      cases hr : (ns.vpn server.agentBaseUrl).store.get? peer.publicKey with
      | none => rw [serve_disablePeer_absent hr,serve_enablePeer_absent hr]
      | some r =>
        have hoff := restores (ns.vpn server.agentBaseUrl) peer.publicKey r hr now
          fun _ => ⟨none,0,0⟩
        obtain ⟨_,_,hback⟩ := hoff
        have hon := hback [] (fun v hv => by cases hv) later fun _ => ⟨none,0,0⟩
        exact hon.2.1

end Nodes

/-- A disable and the enable after it have brought back the database, the nodes have done what the
backend takes their agents to have done, and the live entry is back if it was as the rows ask. -/
structure Reversed (w v : World) (device : Device) (ns ms : Nodes) : Prop where
  db : v.db=w.db
  behind : ms.Behind v
  entry : ms.SameEntry w device ns ↔ ns.EntryAsRows w device

section

variable {cfg : Settings} {w : World} {device : Device} {env later : Env} {telegramId : Int}
  {d : Id} {ns : Nodes}

theorem withStatus_db {a b : World} (h : a.db=b.db) (k : Id) (status : DeviceStatus) :
    (a.withStatus k status).db=(b.withStatus k status).db := by
  unfold World.withStatus
  simp only [h]

theorem sameEntry_wireguard (hproto : device.protocol=.wireguard) {ms : Nodes}
    (h : ms.peerEntry w device=match peerRecord w device with
      | some r => some [r.assignedIp]
      | none => ns.peerEntry w device) :
    ms.SameEntry w device ns ↔ ns.EntryAsRows w device := by
  unfold Nodes.SameEntry Nodes.EntryAsRows
  rw [hproto]
  simp only [h]
  cases peerRecord w device with
  | none => simp
  | some r =>
    constructor
    · intro hsame q hq
      cases hq
      exact hsame.symm
    · intro hrows
      exact (hrows r rfl).symm

theorem wireguard_reversed (hown : w.db.owned telegramId d=some device)
    (hd : w.db.devices.get? device.id=some device) (hproto : device.protocol=.wireguard)
    (hact : device.status=.active) (ho : env.outcomes=[]) (hlater : later.outcomes=[])
    (hns : ns.Behind w) :
    let u := after cfg w ⟨env,.device telegramId d .disable⟩
    Reversed w (after cfg u ⟨later,.device telegramId d .enable⟩) device ns
      ((ns.disabled w device env.now).enabled u device later.now) := by
  intro u
  have hoff : ns.disabled w device env.now=
      ns.peerServed w device .disablePeer env.now := by
    unfold Nodes.disabled
    rw [hproto]
  have hoffBehind : (ns.peerServed w device .disablePeer env.now).Behind
      (w.withPeer device false) :=
    Nodes.peerServed_behind device env.now hns fun n k v hv =>
      Nodes.serve_disablePeer_store n k v hv
  have hon : ∀ u : World,u.db.serverOf device=w.db.serverOf device →
      u.db.activePeer device.id=w.db.activePeer device.id →
      (ns.disabled w device env.now).enabled u device later.now=
        (ns.peerServed w device .disablePeer env.now).peerServed w device .enablePeer
          later.now := by
    intro u hserver hpeer
    rw [hoff]
    unfold Nodes.enabled
    rw [hproto]
    exact Nodes.peerServed_congr hserver hpeer _
  have hentry := sameEntry_wireguard hproto
    (Nodes.peerEntry_switched device env.now later.now hns)
  rcases disable_wireguard cfg hown hproto ho with ⟨hready,hu⟩|⟨hnot,hsame,hu⟩
  · have hudb : u.db=(w.withStatus device.id .disabled).db := by
      show (after cfg w ⟨env,.device telegramId d .disable⟩).db=_
      rw [hu]
      exact withStatus_db (withPeer_db false) _ _
    have hserver : u.db.serverOf device=w.db.serverOf device := by rw [hudb]; rfl
    have hpeer : u.db.activePeer device.id=w.db.activePeer device.id := by rw [hudb]; rfl
    have hownU : u.db.owned telegramId d=some {device with status := .disabled} := by
      rw [hudb]
      exact owned_withStatus hown _
    have hreadyU : Ready u {device with status := .disabled} := by
      show Ready (after cfg w ⟨env,.device telegramId d .disable⟩) _
      rw [hu]
      have hreadyOff := ready_withPeer hproto false hready
      exact hreadyOff
    have hbehindU : (ns.peerServed w device .disablePeer env.now).Behind u := by
      show Nodes.Behind _ (after cfg w ⟨env,.device telegramId d .disable⟩)
      rw [hu]
      exact hoffBehind.withStatus _ _
    rcases enable_wireguard cfg hownU hproto hlater with ⟨_,hv⟩|⟨hnot,_⟩
    · rw [hv]
      refine ⟨?_,?_,?_⟩
      · rw [withStatus_db (withPeer_db true),withStatus_db hudb]
        rw [← hact]
        exact withStatus_undone hd .disabled
      · rw [hon u hserver hpeer,← Nodes.peerServed_congr hserver hpeer]
        exact (Nodes.peerServed_behind {device with status := .disabled} later.now hbehindU
          fun n k v hv => Nodes.serve_enablePeer_store n k v hv).withStatus _ _
      · rw [hon u hserver hpeer]
        exact hentry
    · exact absurd hreadyU hnot
  · have huw : u=w := hu
    rw [huw]
    rcases enable_wireguard cfg hown hproto hlater with ⟨hready,_⟩|⟨_,hback,hv⟩
    · exact absurd hready hnot
    · rw [hv]
      refine ⟨rfl,?_,?_⟩
      · rw [hon w rfl rfl]
        have hbehind := Nodes.peerServed_behind device later.now
          (hsame ▸ hoffBehind) fun n k v hv => Nodes.serve_enablePeer_store n k v hv
        rw [hback] at hbehind
        exact hbehind
      · rw [hon w rfl rfl]
        exact hentry

end

def World.withUsers (w : World) (url : String) (f : UserStore → UserStore) : World :=
  {w with xray := fun u => if u=url then f (w.xray url) else w.xray u}

def World.withCredential (w : World) (k : Id) (status : VlessCredentialStatus) : World :=
  {w with db := {w.db with
    vlessCredentials := w.db.vlessCredentials.modify k (fun x => {x with status := status})
      fun _ => rfl}}

section

variable {n : Int} {s : Session} {d : Id} {c : VlessCredential} {config : VlessServerConfig}

theorem configForCredential_run (hserver : (s.db.vpnServers.get? c.serverId).isSome)
    (hconfig : s.db.vlessConfig c.serverId=some config) :
    configForCredential c s=(.ok (some config),s) := by
  obtain ⟨server,hget⟩ := Option.isSome_iff_exists.mp hserver
  have hid : server.id=c.serverId := Store.key_of_get? hget
  unfold configForCredential getServer
  simp only [Eff.bind_run,getDb,Eff.reads_run,hget,Eff.orRaise_some,Eff.pure_run,hid,hconfig]

/-- While everything is answered, the active credential of a device is disabled. -/
theorem disableCredentials_calm (ho : s.outcomes=[]) (hactive : s.db.activeCredentials d=[c])
    (hserver : (s.db.vpnServers.get? c.serverId).isSome)
    (hconfig : s.db.vlessConfig c.serverId=some config) :
    disableCredentials d s=(.ok (),{s with
      toWorld := (s.toWorld.withUsers config.xrayAgentBaseUrl
        (UserStore.deleteUser c.uuid)).withCredential c.id .disabled}) := by
  have hnext : upcoming s.outcomes=(.answered,[]) := by rw [ho]; rfl
  have hremove : removeCredentialFromXray c s=(.ok (),{s with
      toWorld := s.toWorld.withUsers config.xrayAgentBaseUrl (UserStore.deleteUser c.uuid)}) := by
    refine (Eff.bind_run_ok (configForCredential_run hserver hconfig)).trans ?_
    refine (xrayRequest_answered hnext).trans ?_
    rw [← ho]
    rfl
  have hone : disableCredential c s=(.ok (),{s with
      toWorld := (s.toWorld.withUsers config.xrayAgentBaseUrl
        (UserStore.deleteUser c.uuid)).withCredential c.id .disabled}) :=
    Eff.bind_run_ok hremove
  unfold disableCredentials
  rw [getDb_bind_run,hactive]
  exact Eff.bind_run_ok hone

/-- A device without disabled credentials has nothing to restore. -/
theorem enableCredentials_idle (h : ∀ c∈s.db.credentialsOf d,c.status≠.disabled) :
    enableCredentials d s=(.ok (),s) := by
  have hall : ∀ cs : List VlessCredential,(∀ c∈cs,c.status≠.disabled) →
      Eff.each (enableCredential d) cs s=(.ok (),s) := by
    intro cs hcs
    induction cs with
    | nil => rfl
    | cons c cs ih =>
      have hone : enableCredential d c s=(.ok (),s) := by
        unfold enableCredential
        rw [if_neg (hcs c List.mem_cons_self)]
        rfl
      exact (Eff.bind_run_ok hone).trans (ih fun x hx => hcs x (List.mem_cons_of_mem c hx))
  unfold enableCredentials
  rw [getDb_bind_run]
  exact hall _ h

/-- While everything is answered, the disabled credential of a device is restored. -/
theorem enableCredentials_calm (ho : s.outcomes=[]) (hcs : s.db.credentialsOf d=[c])
    (hdis : c.status=.disabled) (hserver : (s.db.vpnServers.get? c.serverId).isSome)
    (hconfig : s.db.vlessConfig c.serverId=some config) :
    enableCredentials d s=(.ok (),{s with
      toWorld := (s.toWorld.withUsers config.xrayAgentBaseUrl
        (UserStore.createUser c.uuid d config.flow s.now)).withCredential c.id .active}) := by
  have hnext : upcoming s.outcomes=(.answered,[]) := by rw [ho]; rfl
  have hadd : xrayRequest config.xrayAgentBaseUrl
      (UserStore.createUser c.uuid d config.flow s.now) s=(.ok (),{s with
        toWorld := s.toWorld.withUsers config.xrayAgentBaseUrl
          (UserStore.createUser c.uuid d config.flow s.now)}) := by
    refine (xrayRequest_answered hnext).trans ?_
    rw [← ho]
    rfl
  have hrestore : enableCredential d c s=(.ok (),{s with
      toWorld := (s.toWorld.withUsers config.xrayAgentBaseUrl
        (UserStore.createUser c.uuid d config.flow s.now)).withCredential c.id .active}) := by
    unfold enableCredential
    rw [if_pos hdis]
    refine (Eff.bind_run_ok (configForCredential_run hserver hconfig)).trans ?_
    exact Eff.bind_run_ok hadd
  unfold enableCredentials
  rw [getDb_bind_run,hcs]
  exact Eff.bind_run_ok hrestore

end

namespace Nodes

variable {w u : World} {now later : Time} {ns : Nodes} {c x : VlessCredential}
  {config : VlessServerConfig} {d : Id}

theorem userServed_at (hconfig : w.db.vlessConfig c.serverId=some config)
    (call : VlessServerConfig → XrayCall) : ns.userServed w call now c={ns with
      xray := fun u => if u=config.xrayAgentBaseUrl then
        ((call config).execute true now (ns.xray config.xrayAgentBaseUrl)).2
        else ns.xray u} := by
  unfold userServed
  rw [hconfig]

theorem userServed_behind (now : Time) (h : ns.Behind w)
    (hu : u.db.vlessConfig c.serverId=some config)
    (call : VlessServerConfig → XrayCall) {f : UserStore → UserStore}
    (hcall : ∀ n,((call config).execute true now n).2.users=f n.users) :
    (ns.userServed u call now c).Behind (w.withUsers config.xrayAgentBaseUrl f) := by
  rw [userServed_at hu]
  refine ⟨h.vpn,fun url => ?_⟩
  simp only [World.withUsers]
  split_ifs with hurl
  · rw [hcall,h.xray]
  · exact h.xray url

theorem removeUser_users (uuid : Int) (n : XrayNode) :
    ((XrayCall.removeUser uuid).execute true now n).2.users=UserStore.deleteUser uuid n.users := by
  unfold UserStore.deleteUser
  cases hr : n.users.get? uuid with
  | none => rw [execute_removeUser_none hr]
  | some r => rw [execute_removeUser hr]

theorem createUser_users (uuid : Int) (d : Id) (flow : String) (n : XrayNode) :
    ((XrayCall.createUser uuid d flow).execute true now n).2.users=
      UserStore.createUser uuid d flow now n.users := by
  rw [execute_createUser]

/-- What Xray has under an email after a user was added there: it leaves a live one alone. -/
theorem createUser_entry (uuid : Int) (d : Id) (flow : String) (n : XrayNode) :
    ((XrayCall.createUser uuid d flow).execute true now n).2.inbound.get? (emailForDevice d)=
      (n.inbound.get? (emailForDevice d)).or (some ⟨emailForDevice d,uuid,flow⟩) := by
  rw [execute_createUser]
  simp only [true_and]
  cases hlive : n.inbound.get? (emailForDevice d) with
  | none =>
    have hout : emailForDevice d∉n.inbound.rows.map InboundUser.email := by
      intro hin
      obtain ⟨x,hx,he⟩ := List.mem_map.mp hin
      exact (Store.get?_eq_none _ _).mp hlive x hx he
    rw [if_pos hout,Store.get?_upsert,if_pos rfl]
    rfl
  | some x =>
    have hin : emailForDevice d∈n.inbound.rows.map InboundUser.email :=
      List.mem_map.mpr ⟨x,Store.mem_of_get? hlive,Store.key_of_get? hlive⟩
    rw [if_neg (not_not.mpr hin),hlive]
    rfl

/-- What it has after a user was removed: a record takes the entry under its own email along. -/
theorem removeUser_entry (uuid : Int) (email : String) (n : XrayNode) :
    ((XrayCall.removeUser uuid).execute true now n).2.inbound.get? email=
      if (n.users.get? uuid).any (fun r => r.email=email) then none
      else n.inbound.get? email := by
  cases hr : n.users.get? uuid with
  | none =>
    rw [execute_removeUser_none hr]
    rfl
  | some r =>
    rw [execute_removeUser hr]
    simp only [if_true,Store.get?_delete,Option.any_some,decide_eq_true_eq]
    by_cases he : r.email=email
    · rw [if_pos he,if_pos he.symm]
    · rw [if_neg he,if_neg fun h => he h.symm]

end Nodes

section

variable {cfg : Settings} {w : World} {device : Device} {env later : Env} {telegramId : Int}
  {d : Id} {ns : Nodes} {c : VlessCredential} {config : VlessServerConfig}

theorem disable_vless (cfg : Settings) (hown : w.db.owned telegramId d=some device)
    (hproto : device.protocol=.vless) (ho : env.outcomes=[]) {t : World}
    (hrun : disableCredentials device.id ⟨w,env⟩=(.ok (),⟨t,env⟩)) :
    after cfg w ⟨env,.device telegramId d .disable⟩=t.withStatus device.id .disabled := by
  have hsplit : disable device=disableCredentials device.id >>= fun _ =>
      setDeviceStatus device.id .disabled := by
    unfold disable disableTransport
    rw [hproto]
  rw [after_disable hown,hsplit]
  exact transaction_status hrun ho

theorem enable_vless (cfg : Settings) (hown : w.db.owned telegramId d=some device)
    (hproto : device.protocol=.vless) (ho : env.outcomes=[]) {t : World}
    (hrun : enableCredentials device.id ⟨w,env⟩=(.ok (),⟨t,env⟩)) :
    after cfg w ⟨env,.device telegramId d .enable⟩=t.withStatus device.id .active := by
  have hsplit : enable device=enableCredentials device.id >>= fun _ =>
      setDeviceStatus device.id .active := by
    unfold enable enableTransport
    rw [hproto]
  rw [after_enable hown,hsplit]
  exact transaction_status hrun ho

/-- A device whose credential is not active, nor disabled, has nothing at the nodes to lose. -/
theorem vless_reversed_idle (hown : w.db.owned telegramId d=some device)
    (hd : w.db.devices.get? device.id=some device) (hproto : device.protocol=.vless)
    (hact : device.status=.active) (ho : env.outcomes=[]) (hlater : later.outcomes=[])
    (hns : ns.Behind w) (hnone : w.db.activeCredentials device.id=[])
    (hidle : ∀ c∈w.db.credentialsOf device.id,c.status≠.disabled) :
    let u := after cfg w ⟨env,.device telegramId d .disable⟩
    Reversed w (after cfg u ⟨later,.device telegramId d .enable⟩) device ns
      ((ns.disabled w device env.now).enabled u device later.now) := by
  have hrun : disableCredentials device.id ⟨w,env⟩=(.ok (),⟨w,env⟩) := by
    unfold disableCredentials
    rw [getDb_bind_run,hnone]
    rfl
  intro u
  have hu : u=w.withStatus device.id .disabled := disable_vless cfg hown hproto ho hrun
  rw [hu]
  have hownU := owned_withStatus hown .disabled
  have hback := enableCredentials_idle (s := ⟨w.withStatus device.id .disabled,later⟩) hidle
  rw [enable_vless cfg hownU hproto hlater hback]
  have hnodes : (ns.disabled w device env.now).enabled (w.withStatus device.id .disabled) device
      later.now=ns := by
    have hfilter : ((w.withStatus device.id .disabled).db.credentialsOf device.id).filter
        (fun c => c.status=.disabled)=[] := by
      rw [List.filter_eq_nil_iff]
      intro c hc hdis
      exact hidle c hc (by simpa using hdis)
    unfold Nodes.disabled Nodes.enabled
    rw [hproto]
    simp only [hnone,hfilter,List.foldl_nil]
  rw [hnodes]
  refine ⟨?_,(hns.withStatus _ _).withStatus _ _,?_⟩
  · rw [← hact]
    exact withStatus_undone hd .disabled
  · unfold Nodes.SameEntry Nodes.EntryAsRows
    rw [hproto]
    simp [hnone]

/-- The only credential of a device, its status changed. -/
theorem credentialsOf_withCredential {n : Int} (hs : Consistent n w.db)
    (hc : c∈w.db.vlessCredentials.rows) (status : VlessCredentialStatus) :
    (w.withCredential c.id status).db.credentialsOf c.deviceId=[{c with status := status}] := by
  have hkey : ∀ x : VlessCredential,({x with status := status} : VlessCredential).id=x.id :=
    fun _ => rfl
  apply Store.filter_eq_singleton
  · exact (Store.mem_modify_row hkey hc).mpr (Or.inl rfl)
  · exact decide_eq_true rfl
  · intro x hx hq
    have hxd : x.deviceId=c.deviceId := of_decide_eq_true hq
    rcases (Store.mem_modify_row hkey hc).mp hx with he|⟨hxold,hne⟩
    · exact he
    · rw [hs.lone x hxold c hc hxd] at hne
      exact absurd rfl hne

theorem withCredential_undone (hc : c∈w.db.vlessCredentials.rows)
    (status : VlessCredentialStatus) :
    ((w.withCredential c.id status).withCredential c.id c.status).db=w.db := by
  have hback := Store.modify_undone w.db.vlessCredentials c.id
    (f := fun x => {x with status := status}) (g := fun x => {x with status := c.status})
    (fun _ => rfl) (fun _ => rfl) fun r hr => by
      rw [Store.eq_of_key (Store.mem_of_get? hr) hc (Store.key_of_get? hr)]
  unfold World.withCredential
  simp only [hback]

/-- Taken down by its record if at all, and put up again unless something is up. -/
theorem restored_iff {α β : Type} (entry : Option α) (added : α) (stored : Option β) (p : β → Prop)
    [DecidablePred p] :
    ((if stored.any (fun r => p r) then none else entry).or (some added))=entry ↔
      entry=some added ∨ entry.isSome ∧ ∀ r,stored=some r → ¬p r := by
  cases stored with
  | none => cases entry <;> simp
  | some r =>
    by_cases hp : p r
    · cases entry <;> simp [hp,eq_comm]
    · cases entry <;> simp [hp]

theorem vless_reversed (hs : Sound w) (hsw : Switched w.db)
    (hown : w.db.owned telegramId d=some device)
    (hd : w.db.devices.get? device.id=some device) (hproto : device.protocol=.vless)
    (hact : device.status=.active) (ho : env.outcomes=[]) (hlater : later.outcomes=[])
    (hns : ns.Behind w) (hc : c∈w.db.activeCredentials device.id) :
    let u := after cfg w ⟨env,.device telegramId d .disable⟩
    Reversed w (after cfg u ⟨later,.device telegramId d .enable⟩) device ns
      ((ns.disabled w device env.now).enabled u device later.now) := by
  intro u
  obtain ⟨hmem,hcd,hcact⟩ := w.db.mem_activeCredentials.mp hc
  have hlone := activeCredentials_lone hs.consistent hc
  have hserver := hs.consistent.credentialServers c hmem
  obtain ⟨config,hconfig⟩ := Option.isSome_iff_exists.mp (hsw.config hmem)
  let off := (w.withUsers config.xrayAgentBaseUrl (UserStore.deleteUser c.uuid)).withCredential
    c.id .disabled
  have hu : u=off.withStatus device.id .disabled :=
    disable_vless cfg hown hproto ho
      (disableCredentials_calm (s := ⟨w,env⟩) ho hlone hserver hconfig)
  have hcs : u.db.credentialsOf device.id=[{c with status := .disabled}] := by
    rw [hu,← hcd]
    exact credentialsOf_withCredential hs.consistent hmem .disabled
  have hconfigU : u.db.vlessConfig c.serverId=some config := by
    rw [hu]
    exact hconfig
  have hownU : u.db.owned telegramId d=some {device with status := .disabled} := by
    rw [hu]
    exact owned_withStatus (w := off) hown .disabled
  have hserverU : (u.db.vpnServers.get? c.serverId).isSome := by
    rw [hu]
    exact hserver
  have hv := enable_vless cfg hownU hproto hlater
    (enableCredentials_calm (s := ⟨u,later⟩) hlater hcs rfl hserverU hconfigU)
  have hnodes : (ns.disabled w device env.now).enabled u device later.now=
      (ns.userServed w (fun _ => .removeUser c.uuid) env.now c).userServed u
        (fun config => .createUser c.uuid device.id config.flow) later.now
        {c with status := .disabled} := by
    unfold Nodes.disabled Nodes.enabled
    rw [hproto]
    simp only [hlone,hcs,List.foldl_cons,List.foldl_nil,List.filter_cons,List.filter_nil,
      decide_true,if_true]
  have hdown := Nodes.userServed_behind env.now hns hconfig
    (fun _ => .removeUser c.uuid) fun n => Nodes.removeUser_users c.uuid n
  have hdownU : (ns.userServed w (fun _ => .removeUser c.uuid) env.now c).Behind u := by
    rw [hu]
    exact ⟨hdown.vpn,hdown.xray⟩
  rw [hnodes,hv]
  refine ⟨?_,?_,?_⟩
  · have hrow := congrArg Database.vlessCredentials (withCredential_undone hmem .disabled)
    have hback := congrArg Database.devices (withStatus_undone hd .disabled)
    rw [hcact] at hrow
    rw [hact] at hback
    rw [hu]
    calc _={w.db with
        devices := ((w.withStatus device.id .disabled).withStatus device.id .active).db.devices
        vlessCredentials := ((w.withCredential c.id .disabled).withCredential c.id
          .active).db.vlessCredentials} := rfl
      _=w.db := by rw [hrow,hback]
  · have hup := Nodes.userServed_behind later.now (c := {c with status := .disabled})
      hdownU hconfigU (fun config => .createUser c.uuid device.id config.flow)
      fun n => Nodes.createUser_users c.uuid device.id config.flow n
    exact ⟨hup.vpn,hup.xray⟩
  · have hentry : ((ns.userServed w (fun _ => .removeUser c.uuid) env.now c).userServed u
        (fun config => .createUser c.uuid device.id config.flow) later.now
        {c with status := .disabled}).userEntry w c=
          (if (userRecord w c).any (fun r => r.email=emailForDevice c.deviceId) then none
            else ns.userEntry w c).or (some ⟨emailForDevice c.deviceId,c.uuid,config.flow⟩) := by
      rw [Nodes.userServed_at hconfig,
        Nodes.userServed_at (c := {c with status := .disabled}) hconfigU]
      simp only [Nodes.userEntry,userRecord,hconfig,Option.bind_some,if_true,← hns.xray,hcd]
      rw [Nodes.createUser_entry,Nodes.removeUser_entry]
    have hiff := restored_iff (ns.userEntry w c)
      ⟨emailForDevice c.deviceId,c.uuid,config.flow⟩ (userRecord w c)
      fun r => r.email=emailForDevice c.deviceId
    rw [← hentry] at hiff
    unfold Nodes.SameEntry Nodes.EntryAsRows
    rw [hproto]
    simp only [hlone,List.mem_singleton,forall_eq,hconfig,Option.some.injEq,forall_eq']
    exact hiff

end

section

variable {w v : World} {env : Env} {token : Secret}

theorem flush_congr {s t : Session} (h : s.outcomes=t.outcomes) : (flush s).1=(flush t).1 := by
  cases hs : upcoming s.outcomes with
  | mk o os =>
    have ht : upcoming t.outcomes=(o,os) := h ▸ hs
    unfold flush
    rw [Eff.bind_run_ok (nextOutcome_of hs),Eff.bind_run_ok (nextOutcome_of ht)]
    split_ifs <;> rfl

/-- The answer of a transaction is that of its body, unless the commit is refused. -/
theorem transaction_answer_congr {α : Type} {m : Req α}
    (hanswer : (m ⟨v,env⟩).1=(m ⟨w,env⟩).1)
    (hleft : (m ⟨v,env⟩).2.outcomes=(m ⟨w,env⟩).2.outcomes) :
    (transaction m env v).1=(transaction m env w).1 := by
  have hflush := flush_congr hleft
  unfold transaction
  simp only [Eff.bind_run]
  cases hm : m ⟨v,env⟩ with
  | mk x s =>
    cases hn : m ⟨w,env⟩ with
    | mk y t =>
      rw [hm,hn] at hanswer hflush
      simp only at hanswer hflush
      subst hanswer
      cases x with
      | error e => rfl
      | ok a =>
        cases hs : flush s with
        | mk z u =>
          cases ht : flush t with
          | mk z' u' =>
            rw [hs,ht] at hflush
            simp only at hflush
            subst hflush
            cases z with
            | error e => simp [hs,ht]
            | ok _ => simp [hs,ht]

/-- What is delivered depends on the database and the clock only. -/
theorem deliver_congr (env : Env) (token : Secret) (h : v.db=w.db) :
    (deliver token ⟨v,env⟩).1=(deliver token ⟨w,env⟩).1 ∧
      (deliver token ⟨v,env⟩).2.outcomes=(deliver token ⟨w,env⟩).2.outcomes := by
  rw [deliver_run,deliver_run]
  simp only [h]
  cases authorized w.db env.now token with
  | none => exact ⟨rfl,rfl⟩
  | some x => exact ⟨rfl,rfl⟩

theorem deliverBody_congr (h : v.db=w.db) (formatHint : Option String) :
    (transaction (deliverBody token formatHint) env v).1=
      (transaction (deliverBody token formatHint) env w).1 := by
  obtain ⟨hconfig,hleft⟩ := deliver_congr env token h
  have hboth : (deliverBody token formatHint ⟨v,env⟩).1=(deliverBody token formatHint ⟨w,env⟩).1 ∧
      (deliverBody token formatHint ⟨v,env⟩).2.outcomes=
        (deliverBody token formatHint ⟨w,env⟩).2.outcomes := by
    unfold deliverBody
    simp only [Eff.bind_run]
    cases hv : deliver token ⟨v,env⟩ with
    | mk x s =>
      cases hw : deliver token ⟨w,env⟩ with
      | mk y t =>
        rw [hv,hw] at hconfig hleft
        simp only at hconfig hleft
        subst hconfig
        cases x with
        | error e => exact ⟨rfl,hleft⟩
        | ok config => exact ⟨rfl,hleft⟩
  exact transaction_answer_congr hboth.1 hboth.2

end

/-- Disabled and enabled again, all calls answered, a device is delivered what it was, over the same
rows; its live entry is the same just if it was the one the rows and the present configuration ask
for, or one the agent leaves alone. -/
theorem disable_enable {cfg : Settings} {w : World} (hw : Reachable cfg w) {telegramId : Int}
    {d : Id} {device : Device} (hown : w.db.owned telegramId d=some device)
    (hact : device.status=.active) (env later : Env) (ho : env.outcomes=[])
    (hlater : later.outcomes=[]) {ns : Nodes} (hns : ns.Behind w) :
    let u := after cfg w ⟨env,.device telegramId d .disable⟩
    let v := after cfg u ⟨later,.device telegramId d .enable⟩
    let ms := (ns.disabled w device env.now).enabled u device later.now
    v.db=w.db ∧ ms.Behind v ∧
      (∀ reader token formatHint,(transaction (deliverBody token formatHint) reader v).1=
        (transaction (deliverBody token formatHint) reader w).1) ∧
      (ms.SameEntry w device ns ↔ ns.EntryAsRows w device) := by
  intro u v ms
  have hs := reachable_sound hw
  have hsw := reachable_switched hw
  have hd : w.db.devices.get? device.id=some device := by
    obtain ⟨user,_,hdevice⟩ := Option.bind_eq_some_iff.mp hown
    rw [owned_id hown]
    exact (Option.filter_eq_some_iff.mp hdevice).1
  have hreversed : Reversed w v device ns ms := by
    rcases device.protocol_cases with hproto|hproto
    · exact wireguard_reversed hown hd hproto hact ho hlater hns
    · cases hlist : w.db.activeCredentials device.id with
      | cons c cs =>
        have hc : c∈w.db.activeCredentials device.id := by simp [hlist]
        exact vless_reversed hs hsw hown hd hproto hact ho hlater hns hc
      | nil =>
        refine vless_reversed_idle hown hd hproto hact ho hlater hns hlist fun c hc hdis => ?_
        obtain ⟨hmem,hcd⟩ := (w.db.mem_credentialsOf).mp hc
        exact hsw.enabled c hmem hdis device (hcd ▸ hd) hact
  exact ⟨hreversed.db,hreversed.behind,fun _ _ formatHint =>
    deliverBody_congr hreversed.db formatHint,hreversed.entry⟩

/-- The nodes after a start of all agents, nothing having been live before. -/
def startedNodes (w : World) : Nodes where
  vpn url :=
    let live := applyPeers ((w.vpn url).rows.filter PeerRecord.enabled) .empty
    ⟨w.vpn url,live,live⟩
  xray url := ⟨w.xray url,passedInbound ⟨w.xray url,.empty⟩⟩

theorem startedNodes_behind (w : World) : (startedNodes w).Behind w :=
  ⟨fun _ => rfl,fun _ => rfl⟩

/-- The peer of the opened shop is allowed its address again. -/
theorem disable_enable_opened : ∃ device,opened.db.owned 77 11=some device ∧
    let u := after sampleSettings opened (calm 5 (.device 77 11 .disable))
    let v := after sampleSettings u (calm 6 (.device 77 11 .enable))
    let ms := ((startedNodes opened).disabled opened device 5).enabled u device 6
    v.db=opened.db ∧ ms.Behind v ∧ ms.SameEntry opened device (startedNodes opened) := by
  have hdevice : (opened.db.owned 77 11).any (fun device => device.status=.active ∧
      device.protocol=.wireguard ∧ (peerRecord opened device).all fun r =>
        (startedNodes opened).peerEntry opened device=some [r.assignedIp])=true := by
    decide +kernel
  obtain ⟨device,hown,hboth⟩ := Option.any_eq_true _ _ |>.mp hdevice
  simp only [decide_eq_true_eq,Option.all_eq_true] at hboth
  obtain ⟨hact,hproto,hrows⟩ := hboth
  have hall := disable_enable opened_reachable hown hact (quiet 5) (quiet 6) rfl rfl
    (startedNodes_behind opened)
  have hentry : (startedNodes opened).EntryAsRows opened device := by
    unfold Nodes.EntryAsRows
    rw [hproto]
    exact hrows
  exact ⟨device,hown,hall.1,hall.2.1,hall.2.2.2.mpr hentry⟩

/-- A VLESS device is provisioned, and then the flow of its server is changed. -/
def reflowed : List Call := opening.take 6++[
  calm 2 (.servers (.createVlessServer 1 sampleVless)),
  calm 2 (.servers (.updateServer 1 11 ⟨some .online,none,none⟩)),
  calm 2 (.createDevice 77 "phone" none .vless),
  calm 3 (.servers (.updateVlessServer 1 11
    ⟨⟨none,none,none⟩,none,none,none,none,none,none,some "other",none⟩))]

/-- The user is put up again with the flow the server has by then. -/
theorem disable_enable_reflowed : ¬∀ (cfg : Settings) (w : World),Reachable cfg w →
    ∀ (telegramId : Int) (d : Id) (device : Device),w.db.owned telegramId d=some device →
    device.status=.active → ∀ env later : Env,env.outcomes=[] → later.outcomes=[] →
    let u := after cfg w ⟨env,.device telegramId d .disable⟩
    let v := after cfg u ⟨later,.device telegramId d .enable⟩
    let ns := startedNodes w
    v.db=w.db ∧ (∀ reader token formatHint,(transaction (deliverBody token formatHint) reader v).1=
      (transaction (deliverBody token formatHint) reader w).1) ∧
    ((ns.disabled w device env.now).enabled u device later.now).SameEntry w device ns := by
  intro h
  let w := reflowed.foldl (after sampleSettings) .initial
  let u := after sampleSettings w (calm 5 (.device 77 15 .disable))
  have hdevice : (w.db.owned 77 15).any (fun device => device.status=.active ∧
      device.protocol=.vless ∧ (w.db.activeCredentials device.id).any fun c =>
        (((startedNodes w).disabled w device 5).enabled u device 6).userEntry w c≠
          (startedNodes w).userEntry w c)=true := by decide +kernel
  obtain ⟨device,hown,hboth⟩ := Option.any_eq_true _ _ |>.mp hdevice
  simp only [decide_eq_true_eq,List.any_eq_true] at hboth
  obtain ⟨hact,hproto,c,hc,hchanged⟩ := hboth
  have hall := h sampleSettings w ⟨reflowed,rfl⟩ 77 15 device hown hact (quiet 5) (quiet 6) rfl rfl
  have hsame := hall.2.2
  unfold Nodes.SameEntry at hsame
  rw [hproto] at hsame
  exact hchanged (hsame c hc)

end VpnService.Backend
