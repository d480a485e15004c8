import VpnService.Backend.Homing

namespace VpnService.Backend

open Agent

/-- How often a server counts a device: its peers and credentials there that are not revoked. -/
def Database.counted (db : Database) (deviceId serverId : Id) : Int :=
  (db.vpnPeers.rows.countP fun p =>
    p.deviceId=deviceId ∧ p.serverId=serverId ∧ p.status≠.revoked : Nat)+
  (db.vlessCredentials.rows.countP fun c =>
    c.deviceId=deviceId ∧ c.serverId=serverId ∧ c.status≠.revoked : Nat)

/-- What a revocation of device `d` in `w` is to leave. -/
structure Retired (d : Id) (w w' : World) : Prop where
  peers : ∀ p∈w'.db.vpnPeers.rows,p.deviceId=d → p.status=.revoked
  credentials : ∀ c∈w'.db.vlessCredentials.rows,c.deviceId=d →
    c.status=.revoked ∧ c.revokedAt.isSome
  keys : ∀ p∈w'.db.vpnPeers.rows,p.deviceId=d → ∀ url,(w'.vpn url).get? p.publicKey=none
  uuids : ∀ c∈w'.db.vlessCredentials.rows,c.deviceId=d → ∀ url,(w'.xray url).get? c.uuid=none
  loads : ∀ x∈w.db.vpnServers.rows,(w'.db.vpnServers.get? x.id).map VpnServer.currentLoad=
    some (if w.db.counted d x.id=0 then x.currentLoad
      else max 0 (x.currentLoad-w.db.counted d x.id))

/-- No credential of device `d` is disabled, and their uuids are at no agent but the one that an
active credential's server has. -/
structure Retirable (d : Id) (w : World) : Prop where
  enabled : ∀ c∈w.db.vlessCredentials.rows,c.deviceId=d → c.status≠.disabled
  held : ∀ c∈w.db.vlessCredentials.rows,c.deviceId=d → ∀ url r,(w.xray url).get? c.uuid=some r →
    c.status=.active ∧ ∃ config,w.db.vlessConfig c.serverId=some config ∧
      config.xrayAgentBaseUrl=url

section

variable {n : Int} {s t : Session} {device : Device}

/-- The one transport of a device that is not revoked is the one whose server is charged. -/
theorem counted_charged (hs : Consistent n s.db) (hm : Marked s.db)
    (hget : s.db.devices.get? device.id=some device)
    (hon : ∀ c∈s.db.vlessCredentials.rows,c.deviceId=device.id → c.status≠.disabled) (k : Id) :
    s.db.counted device.id k=if s.db.charged device=some k then 1 else 0 := by
  have hpeer : ∀ p∈s.db.vpnPeers.rows,p.deviceId=device.id → device.protocol=.wireguard := by
    intro p hp hpd
    obtain ⟨d,hd,hproto,_⟩ := hs.peerDevices p hp
    rw [hpd,hget] at hd
    cases hd
    exact hproto
  have hcredential : ∀ c∈s.db.vlessCredentials.rows,c.deviceId=device.id →
      device.protocol=.vless := by
    intro c hc hcd
    obtain ⟨d,hd,hproto⟩ := hs.credentialDevices c hc
    rw [hcd,hget] at hd
    cases hd
    exact hproto
  unfold Database.counted Database.charged
  cases hproto : device.protocol with
  | wireguard =>
    have hnone : (s.db.vlessCredentials.rows.countP fun c =>
        c.deviceId=device.id ∧ c.serverId=k ∧ c.status≠.revoked)=0 := by
      refine List.countP_eq_zero.mpr fun c hc hq => ?_
      have hvless := hcredential c hc (of_decide_eq_true hq).1
      rw [hproto] at hvless
      cases hvless
    have hactive : ∀ p∈s.db.vpnPeers.rows,p.status≠.revoked → p.status=.active := by
      intro p hp hrevoked
      have hoff := hm.peers p hp
      cases hst : p.status with
      | active => rfl
      | disabled => exact absurd hst hoff
      | revoked => exact absurd hst hrevoked
    rw [hnone]
    cases hp : s.db.activePeer device.id with
    | none =>
      have hidle := Database.activePeer_eq_none.mp hp
      rw [List.countP_eq_zero.mpr]
      · simp
      · intro p hmem hq
        obtain ⟨hpd,_,hrevoked⟩ := of_decide_eq_true hq
        exact hidle p hmem hpd (hactive p hmem hrevoked)
    | some p =>
      obtain ⟨hmem,hpd,hact⟩ := Database.activePeer_mem hp
      have hserver := hs.activePeer_server hget hp
      rw [s.db.vpnPeers.countP_of_unique hmem]
      · simp [hpd,hact,hserver]
      · intro q hq hqq
        obtain ⟨hqd,_,hrevoked⟩ := of_decide_eq_true hqq
        exact hs.single q hq p hmem (hqd.trans hpd.symm) (hactive q hq hrevoked) hact
  | vless =>
    have hnone : (s.db.vpnPeers.rows.countP fun p =>
        p.deviceId=device.id ∧ p.serverId=k ∧ p.status≠.revoked)=0 := by
      refine List.countP_eq_zero.mpr fun p hp hq => ?_
      have hwg := hpeer p hp (of_decide_eq_true hq).1
      rw [hproto] at hwg
      cases hwg
    have hactive : ∀ c∈s.db.vlessCredentials.rows,c.deviceId=device.id → c.status≠.revoked →
        c∈s.db.activeCredentials device.id := by
      intro c hc hcd hrevoked
      refine s.db.mem_activeCredentials.mpr ⟨hc,hcd,?_⟩
      have hoff := hon c hc hcd
      cases hst : c.status with
      | active => rfl
      | disabled => exact absurd hst hoff
      | revoked => exact absurd hst hrevoked
    rw [hnone]
    cases hcs : s.db.activeCredentials device.id with
    | nil =>
      rw [List.countP_eq_zero.mpr]
      · simp
      · intro c hc hq
        obtain ⟨hcd,_,hrevoked⟩ := of_decide_eq_true hq
        have hmem := hactive c hc hcd hrevoked
        rw [hcs] at hmem
        cases hmem
    | cons c cs =>
      have hmem : c∈s.db.activeCredentials device.id := hcs ▸ List.mem_cons_self
      obtain ⟨hc,hcd,hact⟩ := s.db.mem_activeCredentials.mp hmem
      rw [s.db.vlessCredentials.countP_of_unique hc]
      · simp [hcd,hact]
      · intro x hx hxq
        obtain ⟨hxd,_,_⟩ := of_decide_eq_true hxq
        exact hs.lone x hx c hc (hxd.trans hcd.symm)

/-- A revocation lowers the load of the servers that count the device. -/
theorem lowered_counted (hs : Consistent n s.db) (hm : Marked s.db)
    (hget : s.db.devices.get? device.id=some device)
    (hon : ∀ c∈s.db.vlessCredentials.rows,c.deviceId=device.id → c.status≠.disabled)
    {x : VpnServer} (hx : x∈s.db.vpnServers.rows) :
    ((s.db.lowered device).get? x.id).map VpnServer.currentLoad=
      some (if s.db.counted device.id x.id=0 then x.currentLoad
        else max 0 (x.currentLoad-s.db.counted device.id x.id)) := by
  have hrow := s.db.vpnServers.get?_of_mem hx
  rw [counted_charged hs hm hget hon]
  unfold Database.lowered
  cases hk : s.db.charged device with
  | none => simp [hrow]
  | some k =>
    by_cases hxk : x.id=k
    · subst hxk
      simp [hrow,VpnServer.relieved]
    · simp [Store.get?_modify,hrow,hxk,Ne.symm hxk]

/-- One credential is revoked, in its row and at the agent of its server. -/
structure CredentialRetired (c : VlessCredential) (s t : Session) : Prop where
  row : ∃ now : Time,t.db.vlessCredentials=s.db.vlessCredentials.modify c.id
    (fun x => {x with status := .revoked,revokedAt := some now}) fun _ => rfl
  xrayOff : ∀ url u,Removes [c] s.db url u → (t.xray url).get? u=none
  xrayOn : ∀ url u,¬Removes [c] s.db url u → (t.xray url).get? u=(s.xray url).get? u

theorem revokeCredential_retired {c : VlessCredential} (h : revokeCredential c s=(.ok (),t)) :
    CredentialRetired c s t := by
  have hrow := revokeCredential_ok h
  obtain ⟨_,u,hu,h⟩ := Eff.bind_ok.mp h
  rw [getNow_bind_run] at h
  obtain ⟨_,v,hv,h⟩ := Eff.bind_ok.mp h
  cases hv
  obtain ⟨server,w,hw,h⟩ := Eff.bind_ok.mp h
  obtain ⟨hvw,_⟩ := getServer_ok hw
  subst hvw
  have hxray : t.xray=u.xray := by
    cases h
    rfl
  constructor
  · exact hrow
  · intro url k hk
    obtain ⟨x,hx,config,hconfig,hurl,huuid⟩ := hk
    rw [List.mem_singleton] at hx
    subst hx
    rw [hxray]
    rcases removeCredentialFromXray_cases hu with ⟨hnone,_⟩|⟨found,os,hfound,hus⟩
    · rw [hnone] at hconfig
      cases hconfig
    · rw [hfound] at hconfig
      cases hconfig
      rw [hus,← hurl,← huuid]
      simp only [setXray,if_true]
      rw [UserStore.get?_deleteUser,if_pos rfl]
  · intro url k hk
    rw [hxray]
    rcases removeCredentialFromXray_cases hu with ⟨_,hus⟩|⟨found,os,hfound,hus⟩
    · rw [hus]
    · rw [hus]
      by_cases hurl : url=found.xrayAgentBaseUrl
      · have hne : k≠c.uuid := by
          intro he
          exact hk ⟨c,List.mem_singleton_self c,found,hfound,hurl.symm,he.symm⟩
        simp only [setXray,hurl,if_true]
        rw [UserStore.get?_deleteUser,if_neg hne]
      · simp only [setXray,hurl,if_false]

theorem revokePeer_aside (device : Device) :
    Within (keeping fun s => (s.db.vlessCredentials,s.xray)) (revokePeer device) := by
  have hbooks : Bookkeeping (keeping fun s : Session => (s.db.vlessCredentials,s.xray)) :=
    ⟨fun _ => ⟨rfl,by simp⟩,fun _ _ => ⟨rfl,le_rfl⟩⟩
  unfold revokePeer
  cases device.serverId with
  | none => exact Within.pure _
  | some k =>
    exact (getServer_within k).bind fun server => withActivePeer_within _ fun p =>
      Within.bind (Within.bind (vpnRequest_within hbooks fun _ _ _ => ⟨rfl,le_rfl⟩) fun _ =>
        alter_within fun _ => ⟨rfl,le_rfl⟩) fun _ => alter_within fun _ => ⟨rfl,le_rfl⟩

/-- A revocation retires the one active credential of the device, if there is one. -/
theorem revokeTransport_credentials (hs : Consistent n s.db)
    (hget : s.db.devices.get? device.id=some device)
    (h : revokeTransport device s=(.ok (),t)) :
    (s.db.activeCredentials device.id=[] ∧ t.db.vlessCredentials=s.db.vlessCredentials ∧
      t.xray=s.xray) ∨
    ∃ c,s.db.activeCredentials device.id=[c] ∧ CredentialRetired c s t := by
  unfold revokeTransport at h
  cases hproto : device.protocol with
  | wireguard =>
    simp only [hproto] at h
    have haside := ((revokePeer_aside device s).rel_of_run h).1
    obtain ⟨hcreds,hxray⟩ := Prod.mk.inj haside
    refine Or.inl ⟨?_,hcreds,hxray⟩
    refine List.eq_nil_iff_forall_not_mem.mpr fun c hc => ?_
    obtain ⟨hmem,hcd,_⟩ := s.db.mem_activeCredentials.mp hc
    obtain ⟨d,hd,hvless⟩ := hs.credentialDevices c hmem
    rw [hcd,hget] at hd
    cases hd
    rw [hproto] at hvless
    cases hvless
  | vless =>
    simp only [hproto] at h
    have hrun : Eff.each revokeCredential (s.db.activeCredentials device.id) s=(.ok (),t) := h
    cases hcreds : s.db.activeCredentials device.id with
    | nil =>
      rw [hcreds] at hrun
      cases hrun
      exact Or.inl ⟨rfl,rfl,rfl⟩
    | cons c cs =>
      have hone := activeCredentials_lone hs (hcreds ▸ List.mem_cons_self)
      rw [hone] at hrun
      obtain ⟨_,u,hu,hlast⟩ := Eff.bind_ok.mp hrun
      cases hlast
      exact Or.inr ⟨c,hcreds ▸ hone,revokeCredential_retired hu⟩

end

section

variable {s t : Session} {device : Device}

/-- What a revocation did to the credentials, seen from the device. -/
theorem revoke_credentials {n : Int} (hs : Consistent n s.db)
    (hget : s.db.devices.get? device.id=some device) (h : revoke device s=(.ok (),t)) :
    t.db.vpnServers=s.db.lowered device ∧
    ((s.db.activeCredentials device.id=[] ∧ t.db.vlessCredentials=s.db.vlessCredentials ∧
        t.xray=s.xray) ∨
      ∃ c,s.db.activeCredentials device.id=[c] ∧ CredentialRetired c s t) := by
  obtain ⟨_,u,hu,hlast⟩ := Eff.bind_ok.mp h
  have hservers := revokeTransport_servers hs hu
  have hcreds := revokeTransport_credentials hs hget hu
  cases hlast
  refine ⟨hservers,?_⟩
  rcases hcreds with hnone|⟨c,hc,hretired⟩
  · exact Or.inl hnone
  · exact Or.inr ⟨c,hc,hretired.row,hretired.xrayOff,hretired.xrayOn⟩

theorem Retired.retirable {n : Int} (hs : Consistent n s.db)
    (hget : s.db.devices.get? device.id=some device) (h : revoke device s=(.ok (),t))
    (hret : Retired device.id s.toWorld t.toWorld) : Retirable device.id s.toWorld := by
  obtain ⟨_,hcreds⟩ := revoke_credentials hs hget h
  rcases hcreds with ⟨_,hrows,hxray⟩|⟨x,hactive,hretired⟩
  · constructor
    · intro c hc hcd hoff
      have hrevoked := (hret.credentials c (by rw [hrows]; exact hc) hcd).1
      rw [hoff] at hrevoked
      cases hrevoked
    · intro c hc hcd url r hr
      have hgone := hret.uuids c (by rw [hrows]; exact hc) hcd url
      have hkept : (t.xray url).get? c.uuid=none := hgone
      rw [hxray] at hkept
      have hheld : (s.xray url).get? c.uuid=some r := hr
      rw [hkept] at hheld
      cases hheld
  · have hmem : x∈s.db.activeCredentials device.id := by
      rw [hactive]
      exact List.mem_singleton_self x
    obtain ⟨hx,hxd,hact⟩ := s.db.mem_activeCredentials.mp hmem
    have hone : ∀ c∈s.db.vlessCredentials.rows,c.deviceId=device.id → c=x :=
      fun c hc hcd => hs.lone c hc x hx (hcd.trans hxd.symm)
    constructor
    · intro c hc hcd hoff
      rw [hone c hc hcd,hact] at hoff
      cases hoff
    · intro c hc hcd url r hr
      have hcx := hone c hc hcd
      subst hcx
      refine ⟨hact,?_⟩
      by_contra hnone
      have hkept := hretired.xrayOn url c.uuid fun hrem => by
        obtain ⟨y,hy,config,hconfig,hurl,_⟩ := hrem
        rw [List.mem_singleton] at hy
        subst hy
        exact hnone ⟨config,hconfig,hurl⟩
      obtain ⟨now,hrow⟩ := hretired.row
      have hrevoked : ({c with status := .revoked,revokedAt := some now} : VlessCredential)∈
          t.db.vlessCredentials.rows := by
        rw [hrow]
        exact (Store.mem_modify_row _ hc).mpr (Or.inl rfl)
      have hgone : (t.xray url).get? c.uuid=none := hret.uuids _ hrevoked hcd url
      have hheld : (s.xray url).get? c.uuid=some r := hr
      rw [hkept,hheld] at hgone
      cases hgone

theorem Retirable.retired (hs : Settled s.toWorld) (ht : Settled t.toWorld)
    (hget : s.db.devices.get? device.id=some device) (h : revoke device s=(.ok (),t))
    (hok : Retirable device.id s.toWorld) : Retired device.id s.toWorld t.toWorld := by
  have hcons := hs.sound.consistent
  have hshut := revoke_shuts hs.sound hget h
  obtain ⟨hservers,hcreds⟩ := revoke_credentials hcons hget h
  -- a row of the device was there before, under its uuid
  have hfrom : ∀ c∈t.db.vlessCredentials.rows,c.deviceId=device.id →
      (∃ y∈s.db.vlessCredentials.rows,y.deviceId=device.id ∧ y.uuid=c.uuid) ∧
        (c.status=.disabled → c∈s.db.vlessCredentials.rows) := by
    intro c hc hcd
    rcases hcreds with ⟨_,hrows,_⟩|⟨x,_,hretired⟩
    · rw [hrows] at hc
      exact ⟨⟨c,hc,hcd,rfl⟩,fun _ => hc⟩
    · obtain ⟨now,hrow⟩ := hretired.row
      rw [hrow] at hc
      rcases (Store.mem_modify _).mp hc with ⟨y,hy,_,he⟩|⟨hc,_⟩
      · rw [he] at hcd ⊢
        exact ⟨⟨y,hy,hcd,rfl⟩,fun hoff => by cases hoff⟩
      · exact ⟨⟨c,hc,hcd,rfl⟩,fun _ => hc⟩
  constructor
  · intro p hp hpd
    have hidle := hshut.peers p hp hpd
    have hon := ht.marked.peers p hp
    cases hst : p.status with
    | active => exact absurd hst hidle
    | disabled => exact absurd hst hon
    | revoked => rfl
  · intro c hc hcd
    have hrevoked : c.status=.revoked := by
      have hidle := hshut.credentials c hc hcd
      cases hst : c.status with
      | active => exact absurd hst hidle
      | disabled => exact absurd hst (hok.enabled c ((hfrom c hc hcd).2 hst) hcd)
      | revoked => rfl
    exact ⟨hrevoked,ht.marked.credentials c hc hrevoked⟩
  · intro p hp hpd url
    cases hr : (t.vpn url).get? p.publicKey with
    | none => rfl
    | some r => exact absurd (ht.homed p hp url r hr).1 (hshut.peers p hp hpd)
  · intro c hc hcd url
    obtain ⟨y,hy,hyd,huuid⟩ := (hfrom c hc hcd).1
    rw [← huuid]
    show (t.xray url).get? y.uuid=none
    rcases hcreds with ⟨hactive,_,hxray⟩|⟨x,hactive,hretired⟩
    · rw [hxray]
      cases hr : (s.xray url).get? y.uuid with
      | none => rfl
      | some r =>
        have hact := (hok.held y hy hyd url r hr).1
        have hmem := s.db.mem_activeCredentials.mpr ⟨hy,hyd,hact⟩
        rw [hactive] at hmem
        cases hmem
    · have hmem : x∈s.db.activeCredentials device.id := by
        rw [hactive]
        exact List.mem_singleton_self x
      obtain ⟨hx,hxd,_⟩ := s.db.mem_activeCredentials.mp hmem
      have hyx : y=x := hcons.lone y hy x hx (hyd.trans hxd.symm)
      subst hyx
      by_cases hrem : Removes [y] s.db url y.uuid
      · exact hretired.xrayOff url y.uuid hrem
      · rw [hretired.xrayOn url y.uuid hrem]
        cases hr : (s.xray url).get? y.uuid with
        | none => rfl
        | some r =>
          obtain ⟨_,config,hconfig,hurl⟩ := hok.held y hy hyd url r hr
          exact absurd ⟨y,List.mem_singleton_self y,config,hconfig,hurl,rfl⟩ hrem
  · intro x hx
    show (t.db.vpnServers.get? x.id).map VpnServer.currentLoad=_
    rw [hservers]
    exact lowered_counted hcons hs.marked hget hok.enabled hx

end

/-- A successful revocation retires all the device has had, exactly where none of its credentials
is disabled and none is held by an agent that its server no longer names. -/
theorem revoke_retires_iff {cfg : Settings} {w : World} (hw : Reachable cfg w) (env : Env)
    (telegramId : Int) (d : Id) (h : answered cfg w ⟨env,.device telegramId d .revoke⟩) :
    Retired d w (after cfg w ⟨env,.device telegramId d .revoke⟩) ↔ Retirable d w := by
  have hs := reachable_settled hw
  have ht := reachable_settled (hw.after ⟨env,.device telegramId d .revoke⟩)
  obtain ⟨a,t,hm,hafter⟩ := answered_ok h
  rw [hafter] at ht ⊢
  rcases handleOwned_run cfg telegramId d .revoke ⟨w,env⟩ with ⟨e,he⟩|⟨user,device,_,hget,_,he⟩
  · rw [handle,he] at hm
    cases hm
  · rw [handle,he] at hm
    obtain ⟨_,u,hu,hm⟩ := Eff.bind_ok.mp hm
    cases hm
    have hid : device.id=d := Store.key_of_get? hget
    rw [← hid] at hget ⊢
    constructor
    · exact fun hret => hret.retirable (s := ⟨w,env⟩) hs.sound.consistent hget hu
    · exact fun hok => hok.retired (s := ⟨w,env⟩) hs ht hget hu

/-- The VLESS device of the drifting shop while it is active. -/
def deployed : World := (drifting.take 9).foldl (after sampleSettings) .initial

theorem deployed_reachable : Reachable sampleSettings deployed := ⟨drifting.take 9,rfl⟩

theorem deployed_xray (url : String) : deployed.xray url=
    if url="http://xray" then deployed.xray "http://xray" else .empty := by
  by_cases hurl : url="http://xray"
  · rw [if_pos hurl,hurl]
  · rw [if_neg hurl]
    show (if url="http://xray" then _ else _)=_
    rw [if_neg hurl]
    rfl

theorem revoke_retires_opened :
    Retired 11 opened (after sampleSettings opened (calm 3 (.device 77 11 .revoke))) ∧
    Retired 15 deployed (after sampleSettings deployed (calm 3 (.device 77 15 .revoke))) := by
  constructor
  · have hnone : opened.db.vlessCredentials.rows=[] := by decide +kernel
    refine (revoke_retires_iff opened_reachable _ 77 11 (by decide +kernel)).mpr ⟨?_,?_⟩
    · intro c hc
      rw [hnone] at hc
      cases hc
    · intro c hc
      rw [hnone] at hc
      cases hc
  · have hactive : ∀ c∈deployed.db.vlessCredentials.rows,c.status=.active ∧
        (deployed.db.vlessConfig c.serverId).map VlessServerConfig.xrayAgentBaseUrl=
          some "http://xray" := by decide +kernel
    refine (revoke_retires_iff deployed_reachable _ 77 15 (by decide +kernel)).mpr ⟨?_,?_⟩
    · intro c hc _ hoff
      rw [(hactive c hc).1] at hoff
      cases hoff
    · intro c hc _ url r hr
      obtain ⟨hon,hurl⟩ := hactive c hc
      obtain ⟨config,hconfig,hbase⟩ := Option.map_eq_some_iff.mp hurl
      refine ⟨hon,config,hconfig,?_⟩
      rw [deployed_xray] at hr
      by_cases hx : url="http://xray"
      · rw [hbase,hx]
      · rw [if_neg hx] at hr
        cases hr

/-- A disabled credential stays when its device is revoked. -/
theorem revoke_not_retiring : ¬∀ (cfg : Settings) (w : World),Reachable cfg w →
    ∀ (env : Env) (telegramId : Int) (d : Id),
      answered cfg w ⟨env,.device telegramId d .revoke⟩ →
      Retired d w (after cfg w ⟨env,.device telegramId d .revoke⟩) := by
  intro h
  have hrevoked := (h sampleSettings ((drifting.take 10).foldl (after sampleSettings) .initial)
    ⟨drifting.take 10,rfl⟩ (quiet 4) 77 15 (by decide +kernel)).credentials
  have hkept : ¬∀ c∈(after sampleSettings
      ((drifting.take 10).foldl (after sampleSettings) .initial)
      ⟨quiet 4,.device 77 15 .revoke⟩).db.vlessCredentials.rows,c.deviceId=15 →
        c.status=.revoked := by decide +kernel
  exact hkept fun c hc hcd => (hrevoked c hc hcd).1

end VpnService.Backend
