import VpnService.Backend.Recolored

namespace VpnService.Backend

/-- The fleet's tables fit together, and all their numbers were drawn before `n`. -/
structure Consistent (n : Int) (db : Database) : Prop where
  devices : ∀ d∈db.devices.rows,d.id<n
  deviceServers : ∀ d∈db.devices.rows,∀ k,d.serverId=some k → (db.vpnServers.get? k).isSome
  servers : ∀ x∈db.vpnServers.rows,x.id<n
  configs : ∀ c∈db.vlessServerConfigs.rows,c.id<n
  peerNumbers : ∀ p∈db.vpnPeers.rows,p.id<n ∧ p.publicKey<n
  peerDevices : ∀ p∈db.vpnPeers.rows,∃ d,db.devices.get? p.deviceId=some d ∧
    d.protocol=.wireguard ∧ (p.status=.active → d.serverId=some p.serverId)
  peerKeys : ∀ p∈db.vpnPeers.rows,∀ q∈db.vpnPeers.rows,p.publicKey=q.publicKey → p=q
  single : ∀ p∈db.vpnPeers.rows,∀ q∈db.vpnPeers.rows,p.deviceId=q.deviceId →
    p.status=.active → q.status=.active → p=q
  credentialNumbers : ∀ c∈db.vlessCredentials.rows,c.id<n ∧ c.uuid<n
  credentialDevices : ∀ c∈db.vlessCredentials.rows,∃ d,db.devices.get? c.deviceId=some d ∧
    d.protocol=.vless
  credentialServers : ∀ c∈db.vlessCredentials.rows,(db.vpnServers.get? c.serverId).isSome
  uuids : ∀ c∈db.vlessCredentials.rows,∀ x∈db.vlessCredentials.rows,c.uuid=x.uuid → c=x
  distinct : ∀ p∈db.vpnPeers.rows,∀ c∈db.vlessCredentials.rows,p.publicKey≠c.uuid
  lone : ∀ c∈db.vlessCredentials.rows,∀ x∈db.vlessCredentials.rows,c.deviceId=x.deviceId → c=x

theorem consistent_empty (n : Int) : Consistent n .empty := by
  constructor <;> intro x hx <;> exact absurd hx (by simp [Database.empty])

theorem Consistent.later {n m : Int} {db : Database} (h : Consistent n db) (hn : n≤ m) :
    Consistent m db := by
  have hlt : ∀ k,k<n → k< m := fun k hk => by omega
  exact {h with
    devices := fun d hd => hlt _ (h.devices d hd)
    servers := fun x hx => hlt _ (h.servers x hx)
    configs := fun c hc => hlt _ (h.configs c hc)
    peerNumbers := fun p hp =>
      ⟨hlt _ (h.peerNumbers p hp).1,hlt _ (h.peerNumbers p hp).2⟩
    credentialNumbers := fun c hc =>
      ⟨hlt _ (h.credentialNumbers c hc).1,hlt _ (h.credentialNumbers c hc).2⟩}

/-- Tables outside the fleet do not matter. -/
theorem Consistent.of_fleet {n : Int} {a b : Database} (h : Consistent n a)
    (hd : b.devices=a.devices) (hs : b.vpnServers=a.vpnServers)
    (hf : b.vlessServerConfigs=a.vlessServerConfigs) (hp : b.vpnPeers=a.vpnPeers)
    (hc : b.vlessCredentials=a.vlessCredentials) : Consistent n b := by
  constructor
  · simpa only [hd] using h.devices
  · simpa only [hd,hs] using h.deviceServers
  · simpa only [hs] using h.servers
  · simpa only [hf] using h.configs
  · simpa only [hp] using h.peerNumbers
  · simpa only [hp,hd] using h.peerDevices
  · simpa only [hp] using h.peerKeys
  · simpa only [hp] using h.single
  · simpa only [hc] using h.credentialNumbers
  · simpa only [hc,hd] using h.credentialDevices
  · simpa only [hc,hs] using h.credentialServers
  · simpa only [hc] using h.uuids
  · simpa only [hp,hc] using h.distinct
  · simpa only [hc] using h.lone

namespace Recolored

variable {a b : Database}

/-- A device row but for its status. -/
theorem device_of (h : Recolored a b) {k : Id} {d : Device} (hd : a.devices.get? k=some d) :
    ∃ status,b.devices.get? k=some {d with status := status} := by
  have hk := h.devices k
  rw [hd] at hk
  obtain ⟨e,he,heq⟩ := Option.map_eq_some_iff.mp hk
  refine ⟨e.status,?_⟩
  rw [he]
  cases e
  cases d
  simp_all

theorem device_from (h : Recolored a b) {k : Id} {d : Device} (hd : b.devices.get? k=some d) :
    ∃ status,a.devices.get? k=some {d with status := status} := by
  have hk := (h.devices k).symm
  rw [hd] at hk
  obtain ⟨e,he,heq⟩ := Option.map_eq_some_iff.mp hk
  refine ⟨e.status,?_⟩
  rw [he]
  cases e
  cases d
  simp_all

theorem server_isSome (h : Recolored a b) (k : Id) :
    (b.vpnServers.get? k).isSome=(a.vpnServers.get? k).isSome := by
  simpa only [Option.isSome_map] using congrArg Option.isSome (h.servers k)

theorem peer_from (h : Recolored a b) {p : VpnPeer} (hp : p∈b.vpnPeers.rows) :
    ∃ q∈a.vpnPeers.rows,q.id=p.id ∧ q.deviceId=p.deviceId ∧ q.serverId=p.serverId ∧
      q.publicKey=p.publicKey ∧ (p.status=.active → q.status=.active) := by
  obtain ⟨q,hq,he,hs⟩ := h.peers p hp
  simp only [VpnPeer.mk.injEq] at he
  exact ⟨q,hq,he.1.symm,he.2.1.symm,he.2.2.1.symm,he.2.2.2.1.symm,hs⟩

/-- Recoloring keeps the tables consistent. -/
theorem consistent (h : Recolored a b) {n : Int} (ha : Consistent n a) : Consistent n b where
  devices d hd := by
    obtain ⟨status,hs⟩ := h.device_from (b.devices.get?_of_mem hd)
    have hlt := ha.devices _ (Store.mem_of_get? hs)
    exact hlt
  deviceServers d hd k hk := by
    obtain ⟨status,hs⟩ := h.device_from (b.devices.get?_of_mem hd)
    rw [h.server_isSome]
    exact ha.deviceServers _ (Store.mem_of_get? hs) k hk
  servers x hx := by
    have hk := h.servers x.id
    rw [b.vpnServers.get?_of_mem hx] at hk
    obtain ⟨y,hy,_⟩ := Option.map_eq_some_iff.mp hk.symm
    have hlt := ha.servers y (Store.mem_of_get? hy)
    rw [Store.key_of_get? hy] at hlt
    exact hlt
  configs c hc := ha.configs c (h.configs ▸ hc)
  peerNumbers p hp := by
    obtain ⟨q,hq,hid,_,_,hkey,_⟩ := h.peer_from hp
    rw [← hid,← hkey]
    exact ha.peerNumbers q hq
  peerDevices p hp := by
    obtain ⟨q,hq,_,hd,hserver,_,hs⟩ := h.peer_from hp
    obtain ⟨d,hget,hproto,hact⟩ := ha.peerDevices q hq
    obtain ⟨status,hb⟩ := h.device_of hget
    rw [hd] at hb
    exact ⟨_,hb,hproto,fun hp => (hact (hs hp)).trans (congrArg some hserver)⟩
  peerKeys p hp q hq he := by
    obtain ⟨x,hx,hxid,_,_,hxkey,_⟩ := h.peer_from hp
    obtain ⟨y,hy,hyid,_,_,hykey,_⟩ := h.peer_from hq
    have hxy := ha.peerKeys x hx y hy (by rw [hxkey,hykey,he])
    exact Store.eq_of_key hp hq (by rw [← hxid,← hyid,hxy])
  single p hp q hq he hps hqs := by
    obtain ⟨x,hx,hxid,hxd,_,_,hxs⟩ := h.peer_from hp
    obtain ⟨y,hy,hyid,hyd,_,_,hys⟩ := h.peer_from hq
    have hxy := ha.single x hx y hy (by rw [hxd,hyd,he]) (hxs hps) (hys hqs)
    exact Store.eq_of_key hp hq (by rw [← hxid,← hyid,hxy])
  credentialNumbers c hc := by
    obtain ⟨x,hx,hid,_,_,huuid⟩ := h.credentials c hc
    rw [hid,huuid]
    exact ha.credentialNumbers x hx
  credentialDevices c hc := by
    obtain ⟨x,hx,_,hd,_,_⟩ := h.credentials c hc
    obtain ⟨d,hget,hproto⟩ := ha.credentialDevices x hx
    obtain ⟨status,hb⟩ := h.device_of hget
    rw [hd]
    exact ⟨_,hb,hproto⟩
  credentialServers c hc := by
    obtain ⟨x,hx,_,_,hserver,_⟩ := h.credentials c hc
    rw [h.server_isSome,hserver]
    exact ha.credentialServers x hx
  uuids c hc y hy he := by
    obtain ⟨x,hx,hxid,_,_,hxu⟩ := h.credentials c hc
    obtain ⟨z,hz,hzid,_,_,hzu⟩ := h.credentials y hy
    have hxz := ha.uuids x hx z hz (by rw [← hxu,← hzu,he])
    exact Store.eq_of_key hc hy (by rw [hxid,hzid,hxz])
  distinct p hp c hc := by
    obtain ⟨q,hq,_,_,_,hkey,_⟩ := h.peer_from hp
    obtain ⟨x,hx,_,_,_,hu⟩ := h.credentials c hc
    rw [← hkey,hu]
    exact ha.distinct q hq x hx
  lone c hc y hy he := by
    obtain ⟨x,hx,hxid,hxd,_,_⟩ := h.credentials c hc
    obtain ⟨z,hz,hzid,hzd,_,_⟩ := h.credentials y hy
    have hxz := ha.lone x hx z hz (by rw [← hxd,← hzd,he])
    exact Store.eq_of_key hc hy (by rw [hxid,hzid,hxz])

end Recolored

section

variable {n : Int} {db : Database}

/-- A device row with a new number. -/
theorem Consistent.insertDevice {d : Device} (h : Consistent n db) (hid : d.id=n)
    (hserver : ∀ k,d.serverId=some k → (db.vpnServers.get? k).isSome) :
    Consistent (n+1) {db with devices := db.devices.insert d} := by
  have hfresh : ∀ x∈db.devices.rows,x.id≠d.id := by
    intro x hx
    rw [hid]
    exact (h.devices x hx).ne
  have hold : ∀ {k x},db.devices.get? k=some x → (db.devices.insert d).get? k=some x :=
    fun hx => Store.get?_insert_of_some hfresh hx
  have hlater := h.later (show n≤n+1 by omega)
  exact {hlater with
    devices := by
      intro x hx
      rcases (Store.mem_insert hfresh).mp hx with hx|hx
      · exact hlater.devices x hx
      · rw [hx,hid]
        exact Int.lt_succ n
    deviceServers := by
      intro x hx k hk
      rcases (Store.mem_insert hfresh).mp hx with hx|hx
      · exact h.deviceServers x hx k hk
      · subst hx
        exact hserver k hk
    peerDevices := by
      intro p hp
      obtain ⟨x,hx,hproto⟩ := h.peerDevices p hp
      exact ⟨x,hold hx,hproto⟩
    credentialDevices := by
      intro c hc
      obtain ⟨x,hx,hproto⟩ := h.credentialDevices c hc
      exact ⟨x,hold hx,hproto⟩}

/-- An active peer with new numbers, for a device that has none. -/
theorem Consistent.insertPeer {p : VpnPeer} {d : Device} {m : Int} (h : Consistent n db)
    (hkey : n≤p.publicKey) (hid : n≤p.id) (hkeym : p.publicKey< m) (hidm : p.id< m)
    (hd : db.devices.get? p.deviceId=some d) (hproto : d.protocol=.wireguard)
    (hserver : d.serverId=some p.serverId)
    (hnone : ∀ q∈db.vpnPeers.rows,q.deviceId=p.deviceId → q.status≠.active) :
    Consistent m {db with vpnPeers := db.vpnPeers.insert p} := by
  have hfresh : ∀ x∈db.vpnPeers.rows,x.id≠p.id := by
    intro x hx
    exact ((h.peerNumbers x hx).1.trans_le hid).ne
  have hkeys : ∀ x∈db.vpnPeers.rows,x.publicKey≠p.publicKey := by
    intro x hx
    exact ((h.peerNumbers x hx).2.trans_le hkey).ne
  have hlater := h.later (show n≤ m by omega)
  exact {hlater with
    peerNumbers := by
      intro x hx
      rcases (Store.mem_insert hfresh).mp hx with hx|hx
      · exact hlater.peerNumbers x hx
      · subst hx
        exact ⟨hidm,hkeym⟩
    peerDevices := by
      intro x hx
      rcases (Store.mem_insert hfresh).mp hx with hx|hx
      · exact h.peerDevices x hx
      · subst hx
        exact ⟨d,hd,hproto,fun _ => hserver⟩
    peerKeys := by
      intro x hx y hy he
      rcases (Store.mem_insert hfresh).mp hx with hold|hnew
      · rcases (Store.mem_insert hfresh).mp hy with hold'|hnew'
        · exact h.peerKeys x hold y hold' he
        · exact absurd (hnew' ▸ he) (hkeys x hold)
      · rcases (Store.mem_insert hfresh).mp hy with hold'|hnew'
        · exact absurd (hnew ▸ he).symm (hkeys y hold')
        · rw [hnew,hnew']
    single := by
      intro x hx y hy he hxs hys
      rcases (Store.mem_insert hfresh).mp hx with hold|hnew
      · rcases (Store.mem_insert hfresh).mp hy with hold'|hnew'
        · exact h.single x hold y hold' he hxs hys
        · exact absurd hxs (hnone x hold (hnew' ▸ he))
      · rcases (Store.mem_insert hfresh).mp hy with hold'|hnew'
        · exact absurd hys (hnone y hold' (hnew ▸ he).symm)
        · rw [hnew,hnew']
    distinct := by
      intro x hx c hc
      rcases (Store.mem_insert hfresh).mp hx with hx|hx
      · exact h.distinct x hx c hc
      · subst hx
        exact ((h.credentialNumbers c hc).2.trans_le hkey).ne'}

/-- A credential with new numbers, at a server that is there, for a device that has none. -/
theorem Consistent.insertCredential {c : VlessCredential} {d : Device} {m : Int}
    (h : Consistent n db) (huuid : n≤c.uuid) (hid : n≤c.id) (huuidm : c.uuid< m) (hidm : c.id< m)
    (hd : db.devices.get? c.deviceId=some d) (hproto : d.protocol=.vless)
    (hserver : (db.vpnServers.get? c.serverId).isSome)
    (hnone : ∀ x∈db.vlessCredentials.rows,x.deviceId≠c.deviceId) :
    Consistent m {db with vlessCredentials := db.vlessCredentials.insert c} := by
  have hfresh : ∀ x∈db.vlessCredentials.rows,x.id≠c.id := by
    intro x hx
    exact ((h.credentialNumbers x hx).1.trans_le hid).ne
  have huuids : ∀ x∈db.vlessCredentials.rows,x.uuid≠c.uuid := by
    intro x hx
    exact ((h.credentialNumbers x hx).2.trans_le huuid).ne
  have hlater := h.later (show n≤ m by omega)
  exact {hlater with
    credentialNumbers := by
      intro x hx
      rcases (Store.mem_insert hfresh).mp hx with hx|hx
      · exact hlater.credentialNumbers x hx
      · subst hx
        exact ⟨hidm,huuidm⟩
    credentialDevices := by
      intro x hx
      rcases (Store.mem_insert hfresh).mp hx with hx|hx
      · exact h.credentialDevices x hx
      · subst hx
        exact ⟨d,hd,hproto⟩
    credentialServers := by
      intro x hx
      rcases (Store.mem_insert hfresh).mp hx with hx|hx
      · exact h.credentialServers x hx
      · subst hx
        exact hserver
    uuids := by
      intro x hx y hy he
      rcases (Store.mem_insert hfresh).mp hx with hold|hnew
      · rcases (Store.mem_insert hfresh).mp hy with hold'|hnew'
        · exact h.uuids x hold y hold' he
        · exact absurd (hnew' ▸ he) (huuids x hold)
      · rcases (Store.mem_insert hfresh).mp hy with hold'|hnew'
        · exact absurd (hnew ▸ he).symm (huuids y hold')
        · rw [hnew,hnew']
    distinct := by
      intro p hp x hx
      rcases (Store.mem_insert hfresh).mp hx with hx|hx
      · exact h.distinct p hp x hx
      · subst hx
        exact ((h.peerNumbers p hp).2.trans_le huuid).ne
    lone := by
      intro x hx y hy he
      rcases (Store.mem_insert hfresh).mp hx with hold|hnew
      · rcases (Store.mem_insert hfresh).mp hy with hold'|hnew'
        · exact h.lone x hold y hold' he
        · exact absurd (hnew' ▸ he) (hnone x hold)
      · rcases (Store.mem_insert hfresh).mp hy with hold'|hnew'
        · exact absurd (hnew ▸ he).symm (hnone y hold')
        · rw [hnew,hnew']}

/-- A device row changed in its key, its address and its server. -/
theorem Consistent.updateDevice {d : Id} {f : Device → Device} (hf : ∀ x,(f x).id=x.id)
    (h : Consistent n db) (hproto : ∀ x,(f x).protocol=x.protocol)
    (hserver : ∀ x,db.devices.get? d=some x → ∀ k,(f x).serverId=some k →
      (db.vpnServers.get? k).isSome)
    (hactive : ∀ x,db.devices.get? d=some x → ∀ p∈db.vpnPeers.rows,p.deviceId=d →
      p.status=.active → (f x).serverId=some p.serverId) :
    Consistent n {db with devices := db.devices.modify d f hf} := by
  exact {h with
    devices := by
      intro x hx
      rcases (Store.mem_modify hf).mp hx with ⟨y,hy,_,he⟩|⟨hx,_⟩
      · rw [he,hf]
        exact h.devices y hy
      · exact h.devices x hx
    deviceServers := by
      intro x hx k hk
      rcases (Store.mem_modify hf).mp hx with ⟨y,hy,hyd,he⟩|⟨hx,_⟩
      · rw [he] at hk
        exact hserver y (hyd ▸ db.devices.get?_of_mem hy) k hk
      · exact h.deviceServers x hx k hk
    peerDevices := by
      intro p hp
      obtain ⟨x,hx,hpr,hs⟩ := h.peerDevices p hp
      rw [Store.get?_modify]
      by_cases hd : p.deviceId=d
      · rw [if_pos hd,hx]
        refine ⟨f x,rfl,(hproto x).trans hpr,fun hact => ?_⟩
        exact hactive x (hd ▸ hx) p hp hd hact
      · rw [if_neg hd]
        exact ⟨x,hx,hpr,hs⟩
    credentialDevices := by
      intro c hc
      obtain ⟨x,hx,hpr⟩ := h.credentialDevices c hc
      rw [Store.get?_modify]
      by_cases hd : c.deviceId=d
      · rw [if_pos hd,hx]
        exact ⟨f x,rfl,(hproto x).trans hpr⟩
      · rw [if_neg hd]
        exact ⟨x,hx,hpr⟩}

end

end VpnService.Backend
