import VpnService.Backend.Access
import VpnService.Backend.Expiry
import VpnService.Backend.Retirement

namespace VpnService.Backend

open Agent

/-- The device's transport is on: a peer at an agent, or the users of all its credentials that are
not revoked. -/
def Lit (w : World) (d : Device) : Prop := match d.protocol with
  | .wireguard => ∃ url k r,(w.vpn url).get? k=some r ∧ r.deviceId=d.id ∧ r.enabled=true
  | .vless => ∀ c∈w.db.credentialsOf d.id,c.status≠.revoked →
    c.status=.active ∧ ∃ url r,(w.xray url).get? c.uuid=some r ∧ r.enabled=true

def Dark (w : World) (d : Device) : Prop := match d.protocol with
  | .wireguard => ∀ url k r,(w.vpn url).get? k=some r → r.deviceId=d.id → r.enabled=false
  | .vless => ∀ c∈w.db.credentialsOf d.id,c.status≠.active

/-- The transport of the device is on just when the device is active, and all that the agents have
of it goes back to a row. -/
structure Accords (w : World) (d : Device) : Prop where
  configured : ∀ c∈w.db.credentialsOf d.id,(w.db.vlessConfig c.serverId).isSome
  peers : ∀ url k r,(w.vpn url).get? k=some r → r.deviceId=d.id →
    ∃ p∈w.db.vpnPeers.rows,p.publicKey=k
  users : ∀ url k r,(w.xray url).get? k=some r → r.deviceId=d.id →
    ∃ c∈w.db.vlessCredentials.rows,c.uuid=k ∧ c.status=.active ∧
      ∃ config,w.db.vlessConfig c.serverId=some config ∧ config.xrayAgentBaseUrl=url
  lit : d.status=.active → Lit w d
  dark : d.status≠.active → Dark w d

def Accord (w : World) : Prop := ∀ d∈w.db.devices.rows,Accords w d

theorem Lit.wireguard {w : World} {d : Device} (hproto : d.protocol=.wireguard) :
    Lit w d ↔ ∃ url k r,(w.vpn url).get? k=some r ∧ r.deviceId=d.id ∧ r.enabled=true := by
  unfold Lit
  rw [hproto]

theorem Lit.vless {w : World} {d : Device} (hproto : d.protocol=.vless) :
    Lit w d ↔ ∀ c∈w.db.credentialsOf d.id,c.status≠.revoked →
      c.status=.active ∧ ∃ url r,(w.xray url).get? c.uuid=some r ∧ r.enabled=true := by
  unfold Lit
  rw [hproto]

theorem Dark.wireguard {w : World} {d : Device} (hproto : d.protocol=.wireguard) :
    Dark w d ↔ ∀ url k r,(w.vpn url).get? k=some r → r.deviceId=d.id → r.enabled=false := by
  unfold Dark
  rw [hproto]

theorem Dark.vless {w : World} {d : Device} (hproto : d.protocol=.vless) :
    Dark w d ↔ ∀ c∈w.db.credentialsOf d.id,c.status≠.active := by
  unfold Dark
  rw [hproto]

/-- A device has at most one active peer, so an active peer is the one that is looked up. -/
theorem Consistent.activePeer_of {n : Int} {db : Database} (h : Consistent n db) {p : VpnPeer}
    (hp : p∈db.vpnPeers.rows) (hact : p.status=.active) :
    db.activePeer p.deviceId=some p := by
  have hone : db.activePeers p.deviceId=[p] := by
    apply db.vpnPeers.filter_eq_singleton hp
    · simp [hact]
    · intro q hq hboth
      have hboth : q.deviceId=p.deviceId ∧ q.status=.active := by simpa using hboth
      exact h.single q hq p hp hboth.1 hboth.2 hact
  unfold Database.activePeer
  rw [hone]
  rfl

section

variable {w : World} {d : Device}

/-- A record of the device at a vpn-agent is that of its active peer, at the agent of its server. -/
theorem Accords.peer (h : Accords w d) (hw : Settled w) (hd : w.db.devices.get? d.id=some d)
    {url : String} {k : Int} {r : PeerRecord IpAddress} (hr : (w.vpn url).get? k=some r)
    (hrd : r.deviceId=d.id) : d.protocol=.wireguard ∧ ∃ p server,
      w.db.activePeer d.id=some p ∧ p.publicKey=k ∧ w.db.serverOf d=some server ∧
        server.agentBaseUrl=url := by
  obtain ⟨p,hp,hk⟩ := h.peers url k r hr hrd
  rw [← hk] at hr
  have hpd : p.deviceId=d.id := (hw.sound.peerOwner p hp url r hr).symm.trans hrd
  obtain ⟨hact,server,hserver,hurl⟩ := hw.homed p hp url r hr
  have hpeer : w.db.activePeer d.id=some p := by
    rw [← hpd]
    exact hw.sound.consistent.activePeer_of hp hact
  obtain ⟨e,he,hproto,hon⟩ := hw.sound.consistent.peerDevices p hp
  rw [hpd,hd] at he
  cases he
  have hid : server.id=p.serverId := Store.key_of_get? hserver
  refine ⟨hproto,p,server,hpeer,hk,Database.serverOf_eq ?_ ?_,hurl⟩
  · rw [hid]
    exact hon hact
  · rw [hid]
    exact hserver

/-- A record of the device at an xray-agent is that of an active credential of the device. -/
theorem Accords.user (h : Accords w d) (hw : Sound w) (hd : w.db.devices.get? d.id=some d)
    {url : String} {k : Int} {r : UserRecord} (hr : (w.xray url).get? k=some r)
    (hrd : r.deviceId=d.id) : d.protocol=.vless ∧ ∃ c config,
      c∈w.db.credentialsOf d.id ∧ c.uuid=k ∧ c.status=.active ∧
        w.db.vlessConfig c.serverId=some config ∧ config.xrayAgentBaseUrl=url := by
  obtain ⟨c,hc,hk,hact,config,hconfig,hurl⟩ := h.users url k r hr hrd
  rw [← hk] at hr
  have hcd : c.deviceId=d.id := (hw.credentialOwner c hc url r hr).symm.trans hrd
  obtain ⟨e,he,hproto⟩ := hw.consistent.credentialDevices c hc
  rw [hcd,hd] at he
  cases he
  exact ⟨hproto,c,config,(w.db.mem_credentialsOf).mpr ⟨hc,hcd⟩,hk,hact,hconfig,hurl⟩

end

section

variable {s t : Session} {d : Id} {e : Device} {db : Database}

theorem Sound.key_apart (hs : Sound s.toWorld) {p : VpnPeer} (hp : p∈s.db.vpnPeers.rows)
    (hne : p.deviceId≠d) : ¬(Scope.of d s).key p.publicKey := by
  rintro (hnew|⟨q,hq,hqd,hkey⟩|⟨c,hc,_,hkey⟩)
  · exact absurd (hs.consistent.peerNumbers p hp).2 hnew.not_gt
  · have hqp := hs.consistent.peerKeys q hq p hp hkey
    exact hne (by rw [← hqp]; exact hqd)
  · exact hs.consistent.distinct p hp c hc hkey.symm

theorem Sound.uuid_apart (hs : Sound s.toWorld) {c : VlessCredential}
    (hc : c∈s.db.vlessCredentials.rows) (hne : c.deviceId≠d) : ¬(Scope.of d s).key c.uuid := by
  rintro (hnew|⟨q,hq,_,hkey⟩|⟨x,hx,hxd,hkey⟩)
  · exact absurd (hs.consistent.credentialNumbers c hc).2 hnew.not_gt
  · exact hs.consistent.distinct q hq c hc hkey
  · have hxc := hs.consistent.uuids x hx c hc hkey
    exact hne (by rw [← hxc]; exact hxd)

/-- What an operation on one device leaves of another, whether it is committed or rolled back. -/
theorem Accords.of_touched (h : Accords s.toWorld e) (hs : Sound s.toWorld)
    (ht : Touched (Scope.of d s).key d s t) (hdb : DbTouched d s.db db) (hne : e.id≠d) :
    Accords {t.toWorld with db := db} e := by
  have hcreds : ∀ c,c∈db.credentialsOf e.id ↔ c∈s.db.credentialsOf e.id := by
    intro c
    rw [Database.mem_credentialsOf,Database.mem_credentialsOf]
    constructor
    · rintro ⟨hc,hce⟩
      exact ⟨(hdb.credentials c (by rw [hce]; exact hne)).mp hc,hce⟩
    · rintro ⟨hc,hce⟩
      exact ⟨(hdb.credentials c (by rw [hce]; exact hne)).mpr hc,hce⟩
  have hconfig : ∀ k,db.vlessConfig k=s.db.vlessConfig k := by
    intro k
    unfold Database.vlessConfig
    rw [hdb.configs]
  have hpeer : ∀ {url k r},(s.vpn url).get? k=some r → r.deviceId=e.id →
      ∃ p∈s.db.vpnPeers.rows,p.publicKey=k ∧ p.deviceId=e.id := by
    intro url k r hr hre
    obtain ⟨p,hp,hk⟩ := h.peers url k r hr hre
    rw [← hk] at hr
    exact ⟨p,hp,hk,(hs.peerOwner p hp url r hr).symm.trans hre⟩
  have hvpn : ∀ {url k r},r.deviceId=e.id →
      ((t.vpn url).get? k=some r ↔ (s.vpn url).get? k=some r) := by
    intro url k r hre
    have hold : ∀ {r₀},(s.vpn url).get? k=some r₀ → r₀.deviceId=e.id →
        (t.vpn url).get? k=(s.vpn url).get? k := by
      intro r₀ hr₀ hre₀
      obtain ⟨p,hp,hk,hpe⟩ := hpeer hr₀ hre₀
      rw [← hk]
      exact ht.vpn url _ (hs.key_apart hp (by rw [hpe]; exact hne))
    constructor
    · intro hr
      rcases ht.vpnOwner url k r hr with hrd|⟨r₀,hr₀,howner⟩
      · exact absurd (hre.symm.trans hrd) hne
      · rw [← hold hr₀ (howner.trans hre)]
        exact hr
    · intro hr
      rw [hold hr hre]
      exact hr
  have hxray : ∀ {url c},c∈s.db.vlessCredentials.rows → c.deviceId=e.id →
      (t.xray url).get? c.uuid=(s.xray url).get? c.uuid := by
    intro url c hc hce
    exact ht.xray url _ (hs.uuid_apart hc (by rw [hce]; exact hne))
  refine ⟨fun c hc => ?_,fun url k r hr hre => ?_,fun url k r hr hre => ?_,fun hact => ?_,
    fun hact => ?_⟩
  · show (db.vlessConfig c.serverId).isSome
    rw [hconfig]
    exact h.configured c ((hcreds c).mp hc)
  · obtain ⟨p,hp,hk,hpe⟩ := hpeer ((hvpn hre).mp hr) hre
    exact ⟨p,(hdb.peers p (by rw [hpe]; exact hne)).mpr hp,hk⟩
  · rcases ht.xrayOwner url k r hr with hrd|⟨r₀,hr₀,howner⟩
    · exact absurd (hre.symm.trans hrd) hne
    · obtain ⟨c,hc,hk,hact,config,hc',hurl⟩ := h.users url k r₀ hr₀ (howner.trans hre)
      rw [← hk] at hr₀
      have hce : c.deviceId=e.id :=
        (hs.credentialOwner c hc url r₀ hr₀).symm.trans (howner.trans hre)
      refine ⟨c,(hdb.credentials c (by rw [hce]; exact hne)).mpr hc,hk,hact,config,?_,hurl⟩
      show db.vlessConfig c.serverId=some config
      rw [hconfig]
      exact hc'
  · have hlit := h.lit hact
    cases hproto : e.protocol with
    | wireguard =>
      obtain ⟨url,k,r,hr,hre,hon⟩ := (Lit.wireguard hproto).mp hlit
      exact (Lit.wireguard hproto).mpr ⟨url,k,r,(hvpn hre).mpr hr,hre,hon⟩
    | vless =>
      apply (Lit.vless hproto).mpr
      intro c hc hlive
      have hc' := (hcreds c).mp hc
      obtain ⟨hcact,url,r,hr,hon⟩ := (Lit.vless hproto).mp hlit c hc' hlive
      obtain ⟨hmem,hce⟩ := (s.db.mem_credentialsOf).mp hc'
      exact ⟨hcact,url,r,(hxray hmem hce).trans hr,hon⟩
  · have hdark := h.dark hact
    cases hproto : e.protocol with
    | wireguard =>
      apply (Dark.wireguard hproto).mpr
      intro url k r hr hre
      exact (Dark.wireguard hproto).mp hdark url k r ((hvpn hre).mp hr) hre
    | vless =>
      apply (Dark.vless hproto).mpr
      intro c hc
      exact (Dark.vless hproto).mp hdark c ((hcreds c).mp hc)

end

/-- Configs may change but for their URLs, and only those of servers without credentials come and go. -/
theorem Accords.of_tables {w w' : World} {d : Device} (h : Accords w d)
    (hp : w'.db.vpnPeers=w.db.vpnPeers) (hc : w'.db.vlessCredentials=w.db.vlessCredentials)
    (hv : w'.vpn=w.vpn) (hx : w'.xray=w.xray)
    (hconfigs : ∀ k config,w.db.vlessConfig k=some config → ∃ x,w'.db.vlessConfig k=some x ∧
      x.xrayAgentBaseUrl=config.xrayAgentBaseUrl) : Accords w' d := by
  have hof : ∀ k,w'.db.credentialsOf k=w.db.credentialsOf k := by
    intro k
    unfold Database.credentialsOf
    rw [hc]
  refine ⟨fun c hmem => ?_,fun url k r hr hrd => ?_,fun url k r hr hrd => ?_,fun hact => ?_,
    fun hact => ?_⟩
  · rw [hof] at hmem
    obtain ⟨config,hconfig⟩ := Option.isSome_iff_exists.mp (h.configured c hmem)
    obtain ⟨x,hx,_⟩ := hconfigs _ _ hconfig
    rw [hx]
    rfl
  · rw [hv] at hr
    rw [hp]
    exact h.peers url k r hr hrd
  · rw [hx] at hr
    obtain ⟨c,hmem,hk,hact,config,hconfig,hurl⟩ := h.users url k r hr hrd
    obtain ⟨x,hx,he⟩ := hconfigs _ _ hconfig
    rw [hc]
    exact ⟨c,hmem,hk,hact,x,hx,he.trans hurl⟩
  · have hlit := h.lit hact
    unfold Lit at hlit ⊢
    rw [hv,hx,hof]
    exact hlit
  · have hdark := h.dark hact
    unfold Dark at hdark ⊢
    rw [hv,hof]
    exact hdark

theorem Accord.of_hardware {s t : Session} (h : Accord s.toWorld) (ht : hardwareFrame.rel s t) :
    Accord t.toWorld := by
  have hview := ht.1
  simp only [hardwareView,Prod.mk.injEq] at hview
  obtain ⟨_,hconfigs,hdevices,hpeers,hcreds,hvpn,hxray⟩ := hview
  intro d hd
  rw [hdevices] at hd
  refine (h d hd).of_tables hpeers hcreds hvpn hxray fun k config hk => ⟨config,?_,rfl⟩
  unfold Database.vlessConfig at hk ⊢
  rw [hconfigs]
  exact hk

section

variable {D : Id → Bool} {s t : Session} {d : Device}

/-- A record of a device at a vpn-agent is cut just when the device is. -/
theorem Accords.cutPeer_iff (h : Accords s.toWorld d) (hs : Settled s.toWorld)
    (hd : d∈s.db.devices.rows) {url : String} {k : Int} {r : PeerRecord IpAddress}
    (hr : (s.vpn url).get? k=some r) (hrd : r.deviceId=d.id) :
    s.db.CutPeer D url k ↔ D d.id=true := by
  have hget := s.db.devices.get?_of_mem hd
  obtain ⟨hwire,p,server,hp,hk,hserver,hurl⟩ := h.peer hs hget hr hrd
  constructor
  · rintro ⟨x,hx,hDx,_,server',q,_,_,hq,hqk⟩
    obtain ⟨hqmem,hqx,_⟩ := Database.activePeer_mem hq
    obtain ⟨hpmem,hpd,_⟩ := Database.activePeer_mem hp
    have hqp := hs.sound.consistent.peerKeys q hqmem p hpmem (hqk.trans hk.symm)
    rw [← hpd,← hqp,hqx]
    exact hDx
  · intro hD
    exact ⟨d,hd,hD,hwire,server,p,hserver,hurl,hp,hk⟩

theorem Accords.removes_iff (h : Accords s.toWorld d) (hs : Settled s.toWorld)
    (hd : d∈s.db.devices.rows) {url : String} {k : Int} {r : UserRecord}
    (hr : (s.xray url).get? k=some r) (hrd : r.deviceId=d.id) :
    Removes (s.db.cutCredentials D) s.db url k ↔ D d.id=true := by
  have hget := s.db.devices.get?_of_mem hd
  obtain ⟨hvless,c,config,hc,hk,hact,hconfig,hurl⟩ := h.user hs.sound hget hr hrd
  obtain ⟨hcmem,hcd⟩ := (s.db.mem_credentialsOf).mp hc
  constructor
  · rintro ⟨x,hx,_,_,_,hxk⟩
    obtain ⟨hxmem,_,hDx,_⟩ := mem_cutCredentials.mp hx
    have hxc := hs.sound.consistent.uuids x hxmem c hcmem (hxk.trans hk.symm)
    rw [← hcd,← hxc]
    exact hDx
  · intro hD
    refine ⟨c,mem_cutCredentials.mpr ⟨hcmem,hact,?_,d,?_,hvless⟩,config,hconfig,hurl,hk⟩
    · rw [hcd]
      exact hD
    · rw [hcd]
      exact hget

theorem DevicesOff.vlessConfig (hoff : DevicesOff D s t) (k : Id) :
    t.db.vlessConfig k=s.db.vlessConfig k := by
  unfold Database.vlessConfig
  rw [hoff.configs]

/-- The credentials of a device after the cut are those it had, cut or not. -/
theorem DevicesOff.credential_of (hoff : DevicesOff D s t) {k : Id} {c : VlessCredential}
    (hc : c∈t.db.credentialsOf k) :
    ∃ x∈s.db.credentialsOf k,c=disabledAmong (s.db.cutCredentials D) x := by
  obtain ⟨hc,hck⟩ := (t.db.mem_credentialsOf).mp hc
  rw [hoff.credentials] at hc
  obtain ⟨x,hx,hxc⟩ := List.mem_map.mp hc
  have hxd : c.deviceId=x.deviceId := by
    rw [← hxc]
    unfold disabledAmong
    split_ifs <;> rfl
  exact ⟨x,(s.db.mem_credentialsOf).mpr ⟨hx,hxd.symm.trans hck⟩,hxc.symm⟩

theorem disabledAmong_outside {db : Database} {k : Id} (hD : D k=false) {x : VlessCredential}
    (hx : x∈db.credentialsOf k) : disabledAmong (db.cutCredentials D) x=x := by
  obtain ⟨hxmem,hxd⟩ := (db.mem_credentialsOf).mp hx
  rw [disabledAmong_cut hxmem]
  simp [Database.cutCredential,hxd,hD]

/-- The records of a device after the cut are those it had, and off if it was cut. -/
theorem DevicesOff.vpn_of (hoff : DevicesOff D s t) (h : Accords s.toWorld d)
    (hs : Settled s.toWorld) (hd : d∈s.db.devices.rows) {url : String} {k : Int}
    {r : PeerRecord IpAddress} (hr : (t.vpn url).get? k=some r) (hrd : r.deviceId=d.id) :
    ∃ r₀,(s.vpn url).get? k=some r₀ ∧ r₀.deviceId=d.id ∧
      (if D d.id then r.enabled=false else r=r₀) := by
  by_cases hcut : s.db.CutPeer D url k
  · rw [hoff.vpnOff url k hcut] at hr
    obtain ⟨r₀,hr₀,he⟩ := Option.map_eq_some_iff.mp hr
    have hr₀d : r₀.deviceId=d.id := by
      rw [← he] at hrd
      exact hrd
    refine ⟨r₀,hr₀,hr₀d,?_⟩
    rw [if_pos ((h.cutPeer_iff hs hd hr₀ hr₀d).mp hcut),← he]
  · rw [hoff.vpnOn url k hcut] at hr
    refine ⟨r,hr,hrd,?_⟩
    rw [if_neg fun hD => hcut ((h.cutPeer_iff hs hd hr hrd).mpr hD)]

theorem DevicesOff.xray_of (hoff : DevicesOff D s t) (h : Accords s.toWorld d)
    (hs : Settled s.toWorld) (hd : d∈s.db.devices.rows) {url : String} {k : Int}
    {r : UserRecord} (hr : (t.xray url).get? k=some r) (hrd : r.deviceId=d.id) :
    (s.xray url).get? k=some r ∧ D d.id=false := by
  by_cases hcut : Removes (s.db.cutCredentials D) s.db url k
  · rw [hoff.xrayOff url k hcut] at hr
    cases hr
  · rw [hoff.xrayOn url k hcut] at hr
    refine ⟨hr,?_⟩
    simpa using fun hD => hcut ((h.removes_iff hs hd hr hrd).mpr hD)

theorem DevicesOff.lit_of (hoff : DevicesOff D s t) (h : Accords s.toWorld d)
    (hs : Settled s.toWorld) (hd : d∈s.db.devices.rows) (hD : D d.id=false)
    (hlit : Lit s.toWorld d) : Lit t.toWorld d := by
  cases hp : d.protocol with
  | wireguard =>
    obtain ⟨url,k,r,hr,hrd,hon⟩ := (Lit.wireguard hp).mp hlit
    refine (Lit.wireguard hp).mpr ⟨url,k,r,?_,hrd,hon⟩
    have hcut : ¬s.db.CutPeer D url k := fun hcut => by
      rw [(h.cutPeer_iff hs hd hr hrd).mp hcut] at hD
      cases hD
    rw [hoff.vpnOn url k hcut]
    exact hr
  | vless =>
    apply (Lit.vless hp).mpr
    intro c hc hlive
    obtain ⟨x,hx,hcx⟩ := hoff.credential_of hc
    rw [disabledAmong_outside hD hx] at hcx
    rw [hcx] at hlive ⊢
    obtain ⟨hxact,url,r,hr,hon⟩ := (Lit.vless hp).mp hlit x hx hlive
    obtain ⟨hxmem,hxd⟩ := (s.db.mem_credentialsOf).mp hx
    have hrd : r.deviceId=d.id := (hs.sound.credentialOwner x hxmem url r hr).trans hxd
    have hcut : ¬Removes (s.db.cutCredentials D) s.db url x.uuid := fun hcut => by
      rw [(h.removes_iff hs hd hr hrd).mp hcut] at hD
      cases hD
    refine ⟨hxact,url,r,?_,hon⟩
    rw [hoff.xrayOn url _ hcut]
    exact hr

/-- A device that was cut is dark, and one that was not stays dark. -/
theorem DevicesOff.dark_of (hoff : DevicesOff D s t) (h : Accords s.toWorld d)
    (hs : Settled s.toWorld) (hd : d∈s.db.devices.rows)
    (hdark : D d.id=false → Dark s.toWorld d) : Dark t.toWorld d := by
  cases hp : d.protocol with
  | wireguard =>
    apply (Dark.wireguard hp).mpr
    intro url k r hr hrd
    obtain ⟨r₀,hr₀,hr₀d,hsame⟩ := hoff.vpn_of h hs hd hr hrd
    cases hD : D d.id with
    | true =>
      rw [hD,if_pos rfl] at hsame
      exact hsame
    | false =>
      rw [hD,if_neg (by decide)] at hsame
      rw [hsame]
      exact (Dark.wireguard hp).mp (hdark hD) url k r₀ hr₀ hr₀d
  | vless =>
    apply (Dark.vless hp).mpr
    intro c hc hcact
    obtain ⟨x,hx,hcx⟩ := hoff.credential_of hc
    obtain ⟨hxmem,hxd⟩ := (s.db.mem_credentialsOf).mp hx
    cases hD : D d.id with
    | true =>
      have hget := s.db.devices.get?_of_mem hd
      rw [disabledAmong_cut hxmem] at hcx
      split_ifs at hcx with hcut
      · rw [hcx] at hcact
        cases hcact
      · apply hcut
        rw [hcx] at hcact
        simp [Database.cutCredential,hcact,hxd,hD,hget,hp]
    | false =>
      rw [hcx,disabledAmong_outside hD hx] at hcact
      exact (Dark.vless hp).mp (hdark hD) x hx hcact

/-- Devices that are switched off go dark, and the others are left alone. -/
theorem Accord.of_off (h : Accord s.toWorld) (hs : Settled s.toWorld) (hoff : DevicesOff D s t) :
    Accord t.toWorld := by
  intro e he
  rw [hoff.devices] at he
  obtain ⟨d,hd,hde⟩ := List.mem_map.mp he
  have hget := s.db.devices.get?_of_mem hd
  have haccords := h d hd
  have hid : e.id=d.id := by rw [← hde,disabledIn_id]
  have hproto : e.protocol=d.protocol := by rw [← hde,disabledIn_protocol]
  have hkept : D d.id=false → e=d := by
    intro hD
    rw [← hde,disabledIn,hD]
    rfl
  refine ⟨fun c hc => ?_,fun url k r hr hrd => ?_,fun url k r hr hrd => ?_,fun hact => ?_,
    fun hoffline => ?_⟩
  · obtain ⟨x,hx,hcx⟩ := hoff.credential_of (hid ▸ hc)
    have hserver : c.serverId=x.serverId := by
      rw [hcx]
      unfold disabledAmong
      split_ifs <;> rfl
    rw [hoff.vlessConfig,hserver]
    exact haccords.configured x hx
  · obtain ⟨r₀,hr₀,hr₀d,_⟩ := hoff.vpn_of haccords hs hd hr (hrd.trans hid)
    rw [hoff.peers]
    exact haccords.peers url k r₀ hr₀ hr₀d
  · obtain ⟨hr₀,hD⟩ := hoff.xray_of haccords hs hd hr (hrd.trans hid)
    obtain ⟨_,c,config,hc,hk,hcact,hconfig,hurl⟩ :=
      haccords.user hs.sound hget hr₀ (hrd.trans hid)
    refine ⟨c,?_,hk,hcact,config,by rw [hoff.vlessConfig]; exact hconfig,hurl⟩
    rw [hoff.credentials]
    exact List.mem_map.mpr
      ⟨c,((s.db.mem_credentialsOf).mp hc).1,disabledAmong_outside hD hc⟩
  · have hD : D d.id=false := by
      cases hD : D d.id with
      | false => rfl
      | true =>
        rw [← hde,disabledIn,hD] at hact
        cases hact
    rw [hkept hD] at hact ⊢
    exact hoff.lit_of haccords hs hd hD (haccords.lit hact)
  · have hdark := hoff.dark_of haccords hs hd fun hD => haccords.dark (hkept hD ▸ hoffline)
    unfold Dark at hdark ⊢
    rw [hid,hproto]
    exact hdark

end

end VpnService.Backend
