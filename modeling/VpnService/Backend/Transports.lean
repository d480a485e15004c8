import VpnService.Backend.Accord

namespace VpnService.Backend

open Agent

theorem Device.protocol_cases (d : Device) : d.protocol=.wireguard ∨ d.protocol=.vless := by
  cases d.protocol <;> simp

section

variable {s t : Session} {device : Device}

theorem restoreCredential_ok {d : Id} {c : VlessCredential} {config : VlessServerConfig}
    (hconfig : s.db.vlessConfig c.serverId=some config)
    (h : restoreCredential d c s=(.ok (),t)) : ∃ os,
      t={setXray config.xrayAgentBaseUrl (UserStore.createUser c.uuid d config.flow s.now
          (s.xray config.xrayAgentBaseUrl)) s with
        db := {s.db with
          vlessCredentials := s.db.vlessCredentials.modify c.id
            (fun x => {x with status := .active}) fun _ => rfl}
        outcomes := os} := by
  obtain ⟨found,u,hu,h⟩ := Eff.bind_ok.mp h
  obtain ⟨server,v,hv,hread⟩ := Eff.bind_ok.mp hu
  obtain ⟨hsv,hget⟩ := getServer_ok hv
  subst hsv
  cases hread
  have hid : server.id=c.serverId := Store.key_of_get? hget
  rw [hid,hconfig] at h
  simp only [getNow_bind_run] at h
  obtain ⟨_,v,hv,hset⟩ := Eff.bind_ok.mp h
  obtain ⟨os,hvs⟩ := xrayRequest_ok (fun x => UserStore.createUser_createUser x _ _ _ _) hv
  cases hset
  exact ⟨os,by rw [hvs]; rfl⟩

/-- What enabling a VLESS device does: its one credential is restored if it is disabled. -/
theorem enableCredentials_ok {n : Int} {d : Id} (hs : Consistent n s.db)
    (hconfigured : ∀ c∈s.db.credentialsOf d,(s.db.vlessConfig c.serverId).isSome)
    (h : enableCredentials d s=(.ok (),t)) :
    ((∀ c∈s.db.credentialsOf d,c.status≠.disabled) ∧ t=s) ∨
    ∃ c config os,s.db.credentialsOf d=[c] ∧ c.status=.disabled ∧
      s.db.vlessConfig c.serverId=some config ∧
      t={setXray config.xrayAgentBaseUrl (UserStore.createUser c.uuid d config.flow s.now
          (s.xray config.xrayAgentBaseUrl)) s with
        db := {s.db with
          vlessCredentials := s.db.vlessCredentials.modify c.id
            (fun x => {x with status := .active}) fun _ => rfl}
        outcomes := os} := by
  unfold enableCredentials at h
  rw [getDb_bind_run] at h
  cases hcs : s.db.credentialsOf d with
  | nil =>
    rw [hcs] at h
    cases h
    refine Or.inl ⟨fun c hc => ?_,rfl⟩
    cases hc
  | cons c cs =>
    have hc : c∈s.db.credentialsOf d := by rw [hcs]; exact List.mem_cons_self
    obtain ⟨hmem,hcd⟩ := (s.db.mem_credentialsOf).mp hc
    have hone := mem_singleton_of_lone hs hmem
    rw [hcd,hcs] at hone
    rw [hcs,hone] at h
    obtain ⟨_,u,hu,hrest⟩ := Eff.bind_ok.mp h
    cases hrest
    unfold enableCredential at hu
    by_cases hdis : c.status=.disabled
    · rw [if_pos hdis] at hu
      obtain ⟨config,hconfig⟩ := Option.isSome_iff_exists.mp (hconfigured c hc)
      obtain ⟨os,ht⟩ := restoreCredential_ok hconfig hu
      exact Or.inr ⟨c,config,os,hone,hdis,hconfig,ht⟩
    · rw [if_neg hdis] at hu
      cases hu
      refine Or.inl ⟨fun x hx => ?_,rfl⟩
      rw [hone,List.mem_singleton] at hx
      rw [hx]
      exact hdis

/-- A device that was enabled is on: a WireGuard one if it had an active peer. -/
theorem enable_accords (hs : Settled s.toWorld) (hd : s.db.devices.get? device.id=some device)
    (h : Accords s.toWorld device)
    (hpeer : device.protocol=.wireguard → (s.db.activePeer device.id).isSome)
    (hrun : enable device s=(.ok (),t)) :
    Accords t.toWorld {device with status := .active} := by
  obtain ⟨_,v,hv,hlast⟩ := Eff.bind_ok.mp hrun
  cases hlast
  have hactive : ∀ {P : Prop},
      ({device with status := .active} : Device).status≠.active → P := fun hne => absurd rfl hne
  unfold enableTransport at hv
  rcases device.protocol_cases with hproto|hproto
  · rw [hproto] at hv
    obtain ⟨p,hp⟩ := Option.isSome_iff_exists.mp (hpeer hproto)
    obtain ⟨server,hserver,⟨hnone,_⟩|⟨q,os,hq,hknown,hvs⟩⟩ := enablePeer_ok hv
    · rw [hp] at hnone
      cases hnone
    · rw [hp] at hq
      cases hq
      subst hvs
      obtain ⟨hpmem,hpd,_⟩ := Database.activePeer_mem hp
      have hback : ∀ {url k r},((setVpn server.agentBaseUrl
          (PeerStore.setEnabled (s.vpn server.agentBaseUrl) p.publicKey true)
          {s with outcomes := os}).vpn url).get? k=some r →
          ∃ r₀,(s.vpn url).get? k=some r₀ ∧ r₀.deviceId=r.deviceId := by
        intro url k r hr
        by_cases hurl : url=server.agentBaseUrl
        · subst hurl
          simp only [setVpn,if_true,PeerStore.get?_setEnabled] at hr
          split_ifs at hr with hk
          · obtain ⟨r₀,hr₀,he⟩ := Option.map_eq_some_iff.mp hr
            exact ⟨r₀,hr₀,by rw [← he]⟩
          · exact ⟨r,hr,rfl⟩
        · simp only [setVpn,hurl,if_false] at hr
          exact ⟨r,hr,rfl⟩
      refine ⟨h.configured,fun url k r hr hrd => ?_,h.users,fun _ => (Lit.wireguard hproto).mpr ?_,
        hactive⟩
      · obtain ⟨r₀,hr₀,howner⟩ := hback hr
        exact h.peers url k r₀ hr₀ (howner.trans hrd)
      · obtain ⟨r,hr⟩ := Option.isSome_iff_exists.mp hknown
        have hrd : r.deviceId=device.id :=
          (hs.sound.peerOwner p hpmem server.agentBaseUrl r hr).trans hpd
        refine ⟨server.agentBaseUrl,p.publicKey,{r with enabled := true},?_,hrd,rfl⟩
        simp only [setVpn,if_true]
        rw [PeerStore.get?_setEnabled,if_pos rfl,hr]
        rfl
  · rw [hproto] at hv
    rcases enableCredentials_ok hs.sound.consistent h.configured hv with
      ⟨hnone,hvs⟩|⟨c,config,os,hcs,hdis,hconfig,hvs⟩
    · subst hvs
      refine ⟨h.configured,h.peers,h.users,fun _ => (Lit.vless hproto).mpr ?_,hactive⟩
      intro c hc hlive
      by_cases hact : device.status=.active
      · exact (Lit.vless hproto).mp (h.lit hact) c hc hlive
      · have hdark := (Dark.vless hproto).mp (h.dark hact) c hc
        have hdis := hnone c hc
        cases hst : c.status with
        | active => exact absurd hst hdark
        | disabled => exact absurd hst hdis
        | revoked => exact absurd hst hlive
    · subst hvs
      have hc : c∈s.db.credentialsOf device.id := by rw [hcs]; exact List.mem_cons_self
      obtain ⟨hcmem,hcd⟩ := (s.db.mem_credentialsOf).mp hc
      have hkey : ∀ x : VlessCredential,({x with status := .active} : VlessCredential).id=x.id :=
        fun _ => rfl
      have hrow : ∀ {x},x∈(s.db.vlessCredentials.modify c.id
          (fun x => {x with status := .active}) hkey).rows → x.deviceId=device.id →
          x={c with status := .active} := by
        intro x hx hxd
        rcases (Store.mem_modify_row hkey hcmem).mp hx with he|⟨hx,hne⟩
        · exact he
        · exact absurd (by rw [hs.sound.consistent.lone x hx c hcmem (hxd.trans hcd.symm)]) hne
      have hnew : ({c with status := .active} : VlessCredential)∈(s.db.vlessCredentials.modify c.id
          (fun x => {x with status := .active}) hkey).rows :=
        (Store.mem_modify_row hkey hcmem).mpr (Or.inl rfl)
      -- before, the agents had no user of a device whose only credential is disabled
      have hnouser : ∀ {url k r},(s.xray url).get? k=some r → r.deviceId≠device.id := by
        intro url k r hr hrd
        obtain ⟨_,x,_,hx,_,hact,_⟩ := h.user hs.sound hd hr hrd
        rw [hcs,List.mem_singleton] at hx
        rw [hx,hdis] at hact
        cases hact
      refine ⟨fun x hx => ?_,h.peers,fun url k r hr hrd => ?_,
        fun _ => (Lit.vless hproto).mpr fun x hx _ => ?_,hactive⟩
      · obtain ⟨hxmem,hxd⟩ := Database.mem_credentialsOf _ |>.mp hx
        rw [hrow hxmem hxd]
        show (s.db.vlessConfig c.serverId).isSome
        rw [hconfig]
        rfl
      · refine ⟨{c with status := .active},hnew,?_⟩
        by_cases hurl : url=config.xrayAgentBaseUrl
        · subst hurl
          simp only [setXray,if_true,UserStore.get?_createUser] at hr
          split_ifs at hr with hk
          · exact ⟨hk.symm,rfl,config,hconfig,rfl⟩
          · exact absurd hrd (hnouser hr)
        · simp only [setXray,hurl,if_false] at hr
          exact absurd hrd (hnouser hr)
      · obtain ⟨hxmem,hxd⟩ := Database.mem_credentialsOf _ |>.mp hx
        rw [hrow hxmem hxd]
        refine ⟨rfl,config.xrayAgentBaseUrl,UserStore.created (s.xray config.xrayAgentBaseUrl) c.uuid
          device.id config.flow s.now,?_,rfl⟩
        simp only [setXray,if_true]
        rw [UserStore.get?_createUser,if_pos rfl]

theorem revokePeer_off {server : VpnServer} {p : VpnPeer}
    (hserver : s.db.serverOf device=some server) (hp : s.db.activePeer device.id=some p)
    (h : revokePeer device s=(.ok (),t)) : (t.vpn server.agentBaseUrl).get? p.publicKey=none := by
  obtain ⟨hid,hget⟩ := serverOf_some hserver
  unfold revokePeer at h
  rw [hid] at h
  obtain ⟨found,u,hu,h⟩ := Eff.bind_ok.mp h
  obtain ⟨hsu,hfound⟩ := getServer_ok hu
  subst hsu
  rw [hget] at hfound
  cases hfound
  have hrun : (retirePeer server p >>= fun _ => dropLoad server.id) s=(.ok (),t) :=
    (withActivePeer_of (f := fun p => retirePeer server p >>= fun _ => dropLoad server.id)
      hp).symm.trans h
  obtain ⟨_,v,hv,hdrop⟩ := Eff.bind_ok.mp hrun
  obtain ⟨_,u,hu,hset⟩ := Eff.bind_ok.mp hv
  obtain ⟨os,store,hstore,hus⟩ := vpnRequest_ok hu
  cases hstore
  cases hset
  cases hdrop
  rw [hus]
  simp only [setVpn,if_true]
  rw [PeerStore.get?_deletePeer,if_pos rfl]

/-- A device that was revoked is dark: nothing of it is left at the agents. -/
theorem revoke_accords (hs : Settled s.toWorld) (hd : s.db.devices.get? device.id=some device)
    (h : Accords s.toWorld device) (hrun : revoke device s=(.ok (),t)) :
    Accords t.toWorld {device with status := .revoked} := by
  have hdim := (((revoke_dimming (N := fun _ => False) (n := s.serial) device) s).rel_of_run hrun
    le_rfl).1
  have hrec := ((revoke_recoloring device) s).rel_of_run hrun
  have hshut := revoke_shuts hs.sound hd hrun
  have hnopeer : ∀ url k r,(t.vpn url).get? k=some r → r.deviceId≠device.id := by
    intro url k r hr hrd
    obtain ⟨r₀,hr₀,howner,_⟩ := hdim.vpn url k r id hr
    obtain ⟨hproto,p,server,hp,hk,hserver,hurl⟩ := h.peer hs hd hr₀ (howner.trans hrd)
    obtain ⟨_,v,hv,hlast⟩ := Eff.bind_ok.mp hrun
    unfold revokeTransport at hv
    rw [hproto] at hv
    have hoff := revokePeer_off hserver hp hv
    cases hlast
    rw [hurl,hk] at hoff
    exact absurd (hoff.symm.trans hr) (by simp)
  have hnouser : ∀ url k r,(t.xray url).get? k=some r → r.deviceId≠device.id := by
    intro url k r hr hrd
    obtain ⟨r₀,hr₀,howner,_⟩ := hdim.xray url k r id hr
    obtain ⟨_,c,config,hc,hk,hact,hconfig,hurl⟩ := h.user hs.sound hd hr₀ (howner.trans hrd)
    obtain ⟨hcmem,hcd⟩ := (s.db.mem_credentialsOf).mp hc
    have hon : c∈s.db.activeCredentials device.id :=
      (s.db.mem_activeCredentials).mpr ⟨hcmem,hcd,hact⟩
    rcases (revoke_credentials hs.sound.consistent hd hrun).2 with ⟨hnone,_⟩|⟨x,hx,hretired⟩
    · rw [hnone] at hon
      cases hon
    · rw [hx,List.mem_singleton] at hon
      subst hon
      have hoff := hretired.xrayOff url k ⟨c,List.mem_singleton_self c,config,hconfig,hurl,hk⟩
      rw [hoff] at hr
      cases hr
  refine ⟨fun c hc => ?_,fun url k r hr hrd => absurd hrd (hnopeer url k r hr),
    fun url k r hr hrd => absurd hrd (hnouser url k r hr),fun hact => ?_,fun _ => ?_⟩
  · obtain ⟨hcmem,hcd⟩ := (t.db.mem_credentialsOf).mp hc
    obtain ⟨x,hx,_,hxd,hxs,_⟩ := hrec.1.credentials c hcmem
    have hsame : t.db.vlessConfig c.serverId=s.db.vlessConfig x.serverId := by
      unfold Database.vlessConfig
      rw [hrec.1.configs,hxs]
    rw [hsame]
    exact h.configured x ((s.db.mem_credentialsOf).mpr ⟨hx,hxd.symm.trans hcd⟩)
  · cases hact
  · rcases device.protocol_cases with hproto|hproto
    · exact (Dark.wireguard hproto).mpr fun url k r hr hrd => absurd hrd (hnopeer url k r hr)
    · apply (Dark.vless hproto).mpr
      intro c hc
      obtain ⟨hcmem,hcd⟩ := (t.db.mem_credentialsOf).mp hc
      exact hshut.credentials c hcmem hcd

end

section

variable {cfg : Settings} {d : Id} {server : VpnServer} {s t : Session}

/-- But for the key of the peer that was made, the agents have what they had. -/
theorem createPeerAttempts_agents {n : Nat} {r : PeerProvisioningResult} {p : VpnPeer}
    (hfresh : ∀ url k,s.serial≤k → (s.vpn url).get? k=none)
    (h : createPeerAttempts cfg d server n s=(.ok (r,p),t)) : t.xray=s.xray ∧
      ∀ url k,k≠p.publicKey → (t.vpn url).get? k=(s.vpn url).get? k := by
  induction n generalizing s with
  | zero => cases h
  | succ n ih =>
    obtain ⟨ip,u,hu,h⟩ := Eff.bind_ok.mp h
    obtain ⟨hus,_⟩ := allocateIp_ok hu
    subst hus
    obtain ⟨result,v,hv,h⟩ := Eff.bind_ok.mp h
    obtain ⟨os,hresult,hvs⟩ := createPeer_ok hv
    obtain ⟨id,w,hw,h⟩ := Eff.bind_ok.mp h
    cases hw
    obtain ⟨_,w,hw,h⟩ := Eff.bind_ok.mp h
    obtain ⟨os₁,hws⟩ := flush_ok hw
    obtain ⟨_,x,hx,h⟩ := Eff.bind_ok.mp h
    obtain ⟨os₂,hxs⟩ := flush_ok hx
    rw [getDb_bind_run] at h
    have hxray : x.xray=s.xray := by rw [hxs,hws,hvs]; rfl
    have hvpn : ∀ url k,k≠s.serial → (x.vpn url).get? k=(s.vpn url).get? k := by
      intro url k hk
      have hstep : x.vpn=v.vpn := by rw [hxs,hws]
      rw [hstep,hvs]
      by_cases hurl : url=server.agentBaseUrl
      · subst hurl
        simp only [setVpn,if_true]
        rw [PeerStore.get?_createPeer,if_neg hk]
      · simp only [setVpn,hurl,if_false]
    split_ifs at h with hclash
    · obtain ⟨_,y,hy,h⟩ := Eff.bind_ok.mp h
      obtain ⟨os₃,store,hstore,hys⟩ := vpnRequest_ok hy
      cases hstore
      have hback : ∀ url k,(y.vpn url).get? k=(s.vpn url).get? k := by
        intro url k
        by_cases hk : k=s.serial
        · have hnone := hfresh url k hk.symm.le
          rw [hnone,hys]
          by_cases hurl : url=server.agentBaseUrl
          · subst hurl
            simp only [setVpn,if_true]
            rw [PeerStore.get?_deletePeer,if_pos (by rw [hk,hresult])]
          · simp only [setVpn,hurl,if_false]
            have hstep : x.vpn=v.vpn := by rw [hxs,hws]
            rw [hstep,hvs]
            simp only [setVpn,hurl,if_false]
            exact hnone
        · rw [← hvpn url k hk,hys]
          by_cases hurl : url=server.agentBaseUrl
          · subst hurl
            simp only [setVpn,if_true]
            rw [PeerStore.get?_deletePeer,if_neg (by rw [hresult]; exact hk)]
          · simp only [setVpn,hurl,if_false]
      have hserial : s.serial≤y.serial := by
        have hle : s.serial≤ s.serial+1+1 := by omega
        rw [hys]
        simp only [setVpn,hxs,hws,hvs]
        exact hle
      obtain ⟨hxray',hvpn'⟩ := ih (fun url k hk => (hback url k).trans (hfresh url k (hserial.trans hk))) h
      refine ⟨?_,fun url k hk => (hvpn' url k hk).trans (hback url k)⟩
      rw [hxray',hys]
      exact hxray
    · obtain ⟨_,y,hy,h⟩ := Eff.bind_ok.mp h
      cases hy
      cases h
      exact ⟨hxray,fun url k hk => hvpn url k (by rw [hresult] at hk; exact hk)⟩

/-- A device whose agents have nothing of it, and which has no credentials, is on with the peer it
is given. -/
theorem createPeer_accords {r : PeerProvisioningResult} {p : VpnPeer} {w : World} {e : Device}
    (hfresh : ∀ url k,s.serial≤k → (s.vpn url).get? k=none)
    (hpeers : ∀ q∈s.db.vpnPeers.rows,q.id<s.serial)
    (hnopeer : ∀ url k r,(s.vpn url).get? k=some r → r.deviceId≠d)
    (hnouser : ∀ url k r,(s.xray url).get? k=some r → r.deviceId≠d)
    (hnone : ∀ c∈s.db.vlessCredentials.rows,c.deviceId≠d)
    (h : createPeerWithRetry cfg d server s=(.ok (r,p),t)) (hid : e.id=d)
    (hproto : e.protocol=.wireguard) (hact : e.status=.active)
    (hp : w.db.vpnPeers=t.db.vpnPeers) (hc : w.db.vlessCredentials=t.db.vlessCredentials)
    (hv : w.vpn=t.vpn) (hx : w.xray=t.xray) : Accords w e := by
  have hcreated := createPeerAttempts_ok h
  obtain ⟨hxray,hvpn⟩ := createPeerAttempts_agents hfresh h
  have hnew : ∀ q∈s.db.vpnPeers.rows,q.id≠p.id :=
    fun q hq => ((hpeers q hq).trans_le hcreated.drawn.2).ne
  refine ⟨fun c hmem => ?_,fun url k r hr hrd => ?_,fun url k r hr hrd => ?_,
    fun _ => (Lit.wireguard hproto).mpr ?_,fun hne => absurd hact hne⟩
  · obtain ⟨hmem,hcd⟩ := (w.db.mem_credentialsOf).mp hmem
    rw [hc,hcreated.db] at hmem
    exact absurd (hcd.trans hid) (hnone c hmem)
  · by_cases hk : k=p.publicKey
    · refine ⟨p,?_,hk.symm⟩
      rw [hp,hcreated.db]
      exact (Store.mem_insert hnew).mpr (Or.inr rfl)
    · rw [hv,hvpn url k hk] at hr
      exact absurd (hrd.trans hid) (hnopeer url k r hr)
  · rw [hx,hxray] at hr
    exact absurd (hrd.trans hid) (hnouser url k r hr)
  · obtain ⟨x,hget,howner,hon⟩ := hcreated.record
    refine ⟨server.agentBaseUrl,p.publicKey,x,?_,howner.trans hid.symm,hon⟩
    rw [hv]
    exact hget

/-- A device that is active stays on through a reissue that is carried through. -/
theorem reissue_accords {device e : Device} {r : ProvisionedDevice} (hs : Settled s.toWorld)
    (hd : s.db.devices.get? device.id=some device) (h : Accords s.toWorld device)
    (hact : device.status=.active) (hrun : reissue cfg device s=(.ok r,t))
    (he : t.db.devices.get? device.id=some e) : Accords t.toWorld e := by
  obtain ⟨hnot,server,u,v,result,p,hid,hget,hretire,hcreate,hlast⟩ := reissue_attempts hrun
  have hproto : device.protocol=.wireguard := device.protocol_cases.resolve_right hnot
  have hserver : s.db.serverOf device=some server := Database.serverOf_eq hid hget
  have hview := hlast.1
  simp only [fleetView,Prod.mk.injEq] at hview
  obtain ⟨_,_,_,hdevices,hpeers,hcreds,_,hvpn,hxray⟩ := hview
  have hcreated := createPeerAttempts_ok hcreate
  -- what is left of the agents and the tables once the old peer is retired
  have hretired : u.serial=s.serial ∧ u.xray=s.xray ∧ u.db.devices=s.db.devices ∧
      u.db.vlessCredentials=s.db.vlessCredentials ∧
      (∀ q∈u.db.vpnPeers.rows,∃ x∈s.db.vpnPeers.rows,x.id=q.id) ∧
      (∀ url k,(s.vpn url).get? k=none → (u.vpn url).get? k=none) ∧
      ∀ url k r,(u.vpn url).get? k=some r → r.deviceId≠device.id := by
    rcases retireActive_ok hretire with ⟨hnone,hus⟩|⟨q,os,hq,hus⟩
    · subst hus
      refine ⟨rfl,rfl,rfl,rfl,fun q hq => ⟨q,hq,rfl⟩,fun _ _ => id,fun url k r hr hrd => ?_⟩
      obtain ⟨_,q,_,hq,_⟩ := h.peer hs hd hr hrd
      rw [hnone] at hq
      cases hq
    · subst hus
      refine ⟨rfl,rfl,rfl,rfl,fun x hx => ?_,fun url k hnone => ?_,fun url k r hr hrd => ?_⟩
      · have hkey : ∀ x : VpnPeer,({x with status := .revoked} : VpnPeer).id=x.id := fun _ => rfl
        rcases (Store.mem_modify hkey).mp hx with ⟨y,hy,_,hyx⟩|⟨hx,_⟩
        · exact ⟨y,hy,by rw [hyx]⟩
        · exact ⟨x,hx,rfl⟩
      · by_cases hurl : url=server.agentBaseUrl
        · subst hurl
          simp only [setVpn,if_true]
          rw [PeerStore.get?_deletePeer]
          split_ifs
          · rfl
          · exact hnone
        · simp only [setVpn,hurl,if_false]
          exact hnone
      · by_cases hurl : url=server.agentBaseUrl
        · subst hurl
          simp only [setVpn,if_true] at hr
          rw [PeerStore.get?_deletePeer] at hr
          split_ifs at hr with hk
          obtain ⟨_,x,_,hx,hxk,_⟩ := h.peer hs hd hr hrd
          rw [hq] at hx
          cases hx
          exact hk hxk.symm
        · simp only [setVpn,hurl,if_false] at hr
          obtain ⟨_,_,found,_,_,hfound,hfoundUrl⟩ := h.peer hs hd hr hrd
          rw [hserver] at hfound
          cases hfound
          exact hurl hfoundUrl.symm
  obtain ⟨hserial,huxray,hudevices,hucreds,hrows,hfewer,hnopeer⟩ := hretired
  have hrow : e=withPeer p device := by
    rw [hdevices,hcreated.db] at he
    have hmod : (u.db.devices.modify device.id (withPeer p) fun _ => rfl).get? device.id=
        some (withPeer p device) :=
      (Store.get?_modify_self _ _ _ _).trans (by rw [hudevices,hd]; rfl)
    exact Option.some.inj (he.symm.trans hmod)
  subst hrow
  refine createPeer_accords (fun url k hk => ?_) (fun q hq => ?_) hnopeer (fun url k r hr hrd => ?_)
    (fun c hc hcd => ?_) hcreate rfl hproto hact hpeers hcreds hvpn hxray
  · exact hfewer url k (hs.sound.fresh url k (hserial ▸ hk)).1
  · obtain ⟨x,hx,hxq⟩ := hrows q hq
    rw [hserial,← hxq]
    exact (hs.sound.consistent.peerNumbers x hx).1
  · rw [huxray] at hr
    obtain ⟨hvless,_⟩ := h.user hs.sound hd hr hrd
    rw [hproto] at hvless
    cases hvless
  · rw [hucreds] at hc
    obtain ⟨x,hx,hvless⟩ := hs.sound.consistent.credentialDevices c hc
    rw [hcd,hd] at hx
    cases hx
    rw [hproto] at hvless
    cases hvless

/-- A device that was provisioned is on. -/
theorem provision_accords {user : User} {name : String} {requested : Option Id}
    {protocol : VpnProtocol} {e : Device} {r : ProvisionedDevice} (hs : Settled s.toWorld)
    (hrun : provision cfg user name requested protocol s=(.ok r,t))
    (he : t.db.devices.get? s.serial=some e) : Accords t.toWorld e := by
  have hnopeer : ∀ url k r,(s.vpn url).get? k=some r → r.deviceId≠s.serial :=
    fun url k r hr => (hs.sound.vpnOwners url k r hr).ne
  have hnouser : ∀ url k r,(s.xray url).get? k=some r → r.deviceId≠s.serial :=
    fun url k r hr => (hs.sound.xrayOwners url k r hr).ne
  have hnone : ∀ c∈s.db.vlessCredentials.rows,c.deviceId≠s.serial :=
    fun c hc => (hs.sound.consistent.unreferred.2 c hc).ne
  cases protocol with
  | wireguard =>
    obtain ⟨_,_,server,u,v,result,p,_,hdev,hcreate,hlast⟩ := provisionWireguard_attempts hrun
    have hview := hdev.1
    simp only [hardwareView,withDevice,Prod.mk.injEq] at hview
    obtain ⟨_,_,hudevices,hupeers,hucreds,huvpn,huxray⟩ := hview
    have hview := hlast.1
    simp only [hardwareView,Prod.mk.injEq] at hview
    obtain ⟨_,_,hdevices,hpeers,hcreds,hvpn,hxray⟩ := hview
    have hcreated := createPeerAttempts_ok hcreate
    have hle : s.serial≤u.serial := (Int.lt_succ _).le.trans hdev.2
    have hrow : e=withServer p server (freshDevice s.serial user.id name none .wireguard) := by
      rw [hdevices,hcreated.db] at he
      have hmod : (u.db.devices.modify s.serial (withServer p server) fun _ => rfl).get? s.serial=
          some (withServer p server (freshDevice s.serial user.id name none .wireguard)) :=
        (Store.get?_modify_self _ _ _ _).trans
          (by rw [hudevices,get?_withDevice hs.sound.consistent rfl]; rfl)
      exact Option.some.inj (he.symm.trans hmod)
    subst hrow
    refine createPeer_accords (fun url k hk => ?_) (fun q hq => ?_) (fun url k r hr => ?_)
      (fun url k r hr => ?_) (fun c hc => ?_) hcreate rfl rfl rfl hpeers hcreds hvpn hxray
    · rw [huvpn]
      exact (hs.sound.fresh url k (hle.trans hk)).1
    · rw [hupeers] at hq
      exact (hs.sound.consistent.peerNumbers q hq).1.trans_le hle
    · rw [huvpn] at hr
      exact hnopeer url k r hr
    · rw [huxray] at hr
      exact hnouser url k r hr
    · rw [hucreds] at hc
      exact hnone c hc
  | vless =>
    obtain ⟨_,a,ha,hrun⟩ := Eff.bind_ok.mp hrun
    obtain ⟨hsa,_⟩ := enforceDeviceLimit_ok ha
    subst hsa
    obtain ⟨_,server,config,u,id,_,hconfig,hdev,hid,_,hlast⟩ := provisionVless_ok hrun
    have hview := hdev.1
    simp only [hardwareView,withDevice,Prod.mk.injEq] at hview
    obtain ⟨_,huconfigs,hudevices,_,hucreds,huvpn,huxray⟩ := hview
    simp only [hardwareView,setXray,Prod.mk.injEq] at hlast
    obtain ⟨_,hconfigs,hdevices,_,hcreds,hvpn,hxray⟩ := hlast
    have hle : s.serial≤u.serial := (Int.lt_succ _).le.trans hdev.2
    have hrow : e=freshDevice s.serial user.id name (some server.id) .vless := by
      rw [hdevices,hudevices,get?_withDevice hs.sound.consistent rfl] at he
      exact (Option.some.inj he).symm
    have hset : t.db.vlessConfig server.id=some config := by
      unfold Database.vlessConfig at hconfig ⊢
      rw [hconfigs,huconfigs]
      exact hconfig
    have hnew : ∀ x∈u.db.vlessCredentials.rows,x.id≠id := by
      intro x hx
      rw [hucreds] at hx
      exact ((hs.sound.consistent.credentialNumbers x hx).1.trans (hle.trans_lt hid)).ne
    have hmem : ∀ {c},c∈t.db.vlessCredentials.rows → c.deviceId=s.serial →
        c=⟨id,s.serial,server.id,u.serial,.active,none,none⟩ := by
      intro c hc hcd
      rw [hcreds] at hc
      rcases (Store.mem_insert hnew).mp hc with hc|hc
      · rw [hucreds] at hc
        exact absurd hcd (hnone c hc)
      · exact hc
    subst hrow
    refine ⟨fun c hc => ?_,fun url k r hr hrd => ?_,fun url k r hr hrd => ?_,
      fun _ => (Lit.vless rfl).mpr fun c hc _ => ?_,fun hne => absurd rfl hne⟩
    · obtain ⟨hc,hcd⟩ := (t.db.mem_credentialsOf).mp hc
      rw [hmem hc hcd]
      show (t.db.vlessConfig server.id).isSome
      rw [hset]
      rfl
    · rw [hvpn,huvpn] at hr
      exact absurd hrd (hnopeer url k r hr)
    · refine ⟨⟨id,s.serial,server.id,u.serial,.active,none,none⟩,?_,?_⟩
      · rw [hcreds]
        exact (Store.mem_insert hnew).mpr (Or.inr rfl)
      · rw [hxray] at hr
        by_cases hurl : url=config.xrayAgentBaseUrl
        · subst hurl
          simp only [if_true,UserStore.get?_createUser] at hr
          split_ifs at hr with hk
          · exact ⟨hk.symm,rfl,config,hset,rfl⟩
          · rw [huxray] at hr
            exact absurd hrd (hnouser _ k r hr)
        · simp only [hurl,if_false] at hr
          rw [huxray] at hr
          exact absurd hrd (hnouser url k r hr)
    · obtain ⟨hc,hcd⟩ := (t.db.mem_credentialsOf).mp hc
      rw [hmem hc hcd]
      refine ⟨rfl,config.xrayAgentBaseUrl,UserStore.created (u.xray config.xrayAgentBaseUrl)
        u.serial s.serial config.flow u.now,?_,rfl⟩
      rw [hxray]
      simp only [if_true]
      rw [UserStore.get?_createUser,if_pos rfl]

end

end VpnService.Backend
