import VpnService.Backend.DeviceFootprint

namespace VpnService.Backend

open Agent

/-- Device `d` has its row, the peer keys `K` and the uuids `U` belong to no other device, and `I`
are the ids of its credentials. -/
structure Apart (d : Device) (K U : Int → Prop) (I : Id → Prop) (s : Session) : Prop where
  device : s.db.devices.get? d.id=some d
  peers : ∀ p∈s.db.vpnPeers.rows,K p.publicKey → p.deviceId=d.id
  credentials : ∀ c∈s.db.vlessCredentials.rows,U c.uuid → c.deviceId=d.id
  ids : ∀ c∈s.db.vlessCredentials.rows,I c.id ↔ c.deviceId=d.id

/-- The rows of device `d`, the servers' addresses and the agents' records under `K` and `U` are as
they were. -/
structure Spared (d : Device) (K U : Int → Prop) (s t : Session) : Prop where
  device : t.db.devices.get? d.id=s.db.devices.get? d.id
  peers : t.db.vpnPeers=s.db.vpnPeers
  credentials : ∀ c : VlessCredential,c.deviceId=d.id →
    (c∈t.db.vlessCredentials.rows ↔ c∈s.db.vlessCredentials.rows)
  servers : t.db.vpnServers=s.db.vpnServers
  configs : t.db.vlessServerConfigs=s.db.vlessServerConfigs
  vpn : ∀ url k,K k → (t.vpn url).get? k=(s.vpn url).get? k
  xray : ∀ url k,U k → (t.xray url).get? k=(s.xray url).get? k

theorem Spared.refl (d : Device) (K U : Int → Prop) (s : Session) : Spared d K U s s :=
  ⟨rfl,rfl,fun _ _ => Iff.rfl,rfl,rfl,fun _ _ _ => rfl,fun _ _ _ => rfl⟩

theorem Spared.trans {d : Device} {K U : Int → Prop} {s t u : Session} (h : Spared d K U s t)
    (k : Spared d K U t u) : Spared d K U s u where
  device := k.device.trans h.device
  peers := k.peers.trans h.peers
  credentials c hc := (k.credentials c hc).trans (h.credentials c hc)
  servers := k.servers.trans h.servers
  configs := k.configs.trans h.configs
  vpn url x hx := (k.vpn url x hx).trans (h.vpn url x hx)
  xray url x hx := (k.xray url x hx).trans (h.xray url x hx)

/-- The frame of what leaves device `d` alone, from any state in which it stands apart. -/
def sparing (d : Device) (K U : Int → Prop) (I : Id → Prop) : Frame Session where
  rel s t := Apart d K U I s → Apart d K U I t ∧ Spared d K U s t
  refl s hs := ⟨hs,Spared.refl d K U s⟩
  trans h k := fun hs =>
    ⟨(k (h hs).1).1,(h hs).2.trans (k (h hs).1).2⟩

section

variable {d : Device} {K U : Int → Prop} {I : Id → Prop}

theorem spared_of_view {s t : Session} (hd : t.db.devices=s.db.devices)
    (hp : t.db.vpnPeers=s.db.vpnPeers) (hc : t.db.vlessCredentials=s.db.vlessCredentials)
    (hs : t.db.vpnServers=s.db.vpnServers) (hf : t.db.vlessServerConfigs=s.db.vlessServerConfigs)
    (hv : t.vpn=s.vpn) (hx : t.xray=s.xray) : (sparing d K U I).rel s t := by
  intro h
  refine ⟨⟨hd ▸ h.device,hp ▸ h.peers,hc ▸ h.credentials,hc ▸ h.ids⟩,?_⟩
  exact ⟨by rw [hd],hp,fun _ _ => by rw [hc],hs,hf,fun _ _ _ => by rw [hv],fun _ _ _ => by rw [hx]⟩

theorem sparing_books : Bookkeeping (sparing d K U I) :=
  ⟨fun _ => spared_of_view rfl rfl rfl rfl rfl rfl rfl,
    fun _ _ => spared_of_view rfl rfl rfl rfl rfl rfl rfl⟩

theorem disableRequest_sparing {key : Int} (server : VpnServer) (hK : ¬K key) :
    Within (sparing d K U I) (vpnRequest server (PeerStore.disablePeer key)) := by
  refine vpnRequest_within sparing_books fun s store hstore hs => ?_
  obtain ⟨_,_,he⟩ := Option.map_eq_some_iff.mp hstore
  subst he
  refine ⟨⟨hs.device,hs.peers,hs.credentials,hs.ids⟩,?_⟩
  refine {Spared.refl d K U s with vpn := ?_}
  intro url k hk
  have hne : k≠key := fun he => hK (he ▸ hk)
  by_cases hu : url=server.agentBaseUrl
  · simp only [setVpn,hu,if_true,PeerStore.get?_setEnabled,hne,if_false]
  · simp only [setVpn,hu,if_false]

theorem deleteUser_sparing {uuid : Int} (baseUrl : String) (hU : ¬U uuid) :
    Within (sparing d K U I) (xrayRequest baseUrl (UserStore.deleteUser uuid)) := by
  refine xrayRequest_within sparing_books fun s hs => ?_
  refine ⟨⟨hs.device,hs.peers,hs.credentials,hs.ids⟩,?_⟩
  refine {Spared.refl d K U s with xray := ?_}
  intro url k hk
  have hne : k≠uuid := fun he => hU (he ▸ hk)
  by_cases hu : url=baseUrl
  · simp only [setXray,hu,if_true,UserStore.get?_deleteUser,hne,if_false]
  · simp only [setXray,hu,if_false]

theorem disableCredential_sparing (c : VlessCredential) (hU : ¬U c.uuid) (hI : ¬I c.id) :
    Within (sparing d K U I) (disableCredential c) := by
  refine Within.bind ((configForCredential_within c).bind fun config => ?_) fun _ => ?_
  · cases config with
    | none => exact Within.pure _
    | some config => exact deleteUser_sparing _ hU
  · unfold setCredentialStatus
    refine alter_within fun s hs => ?_
    have hrow : ∀ x∈s.db.vlessCredentials.rows,x.id=c.id → x.deviceId≠d.id := by
      intro x hx he hd
      exact hI (he ▸ (hs.ids x hx).mpr hd)
    have hkey : ∀ r : VlessCredential,({r with status := .disabled} : VlessCredential).id=r.id :=
      fun _ => rfl
    refine ⟨⟨hs.device,hs.peers,?_,?_⟩,?_⟩
    · intro x hx hUx
      rcases (Store.mem_modify hkey).mp hx with ⟨r,hr,_,he⟩|⟨hx,_⟩
      · rw [he] at hUx ⊢
        exact hs.credentials r hr hUx
      · exact hs.credentials x hx hUx
    · intro x hx
      rcases (Store.mem_modify hkey).mp hx with ⟨r,hr,_,he⟩|⟨hx,_⟩
      · rw [he]
        exact hs.ids r hr
      · exact hs.ids x hx
    · refine {Spared.refl d K U s with credentials := fun x hx => ?_}
      exact Store.mem_modify_outside hkey (q := fun x => x.deviceId=d.id)
        (fun r hr he => ⟨hrow r hr he,hrow r hr he⟩) hx

/-- Disabling another device spares `d`. -/
theorem disable_sparing {device : Device} (hne : device.id≠d.id) :
    Within (sparing d K U I) (disable device) := by
  refine Within.bind (fun s hs => ?_) fun _ => ?_
  · refine (?_ : WithinAt (sparing d K U I) (disableTransport device) s) hs
    unfold disableTransport
    cases device.protocol with
    | vless =>
      refine WithinAt.reads_bind (Within.each (fun c hc => ?_) s)
      have hmem := s.db.mem_activeCredentials.mp hc
      refine disableCredential_sparing c (fun hU => ?_) fun hI => ?_
      · exact hne (hmem.2.1.symm.trans (hs.credentials c hmem.1 hU))
      · exact hne (hmem.2.1.symm.trans ((hs.ids c hmem.1).mp hI))
    | wireguard =>
      refine WithinAt.still_bind (serverOfDevice_within device s) fun server _ => ?_
      refine withActivePeer_withinAt fun p hp => ?_
      have hmem := Database.activePeer_mem hp
      refine disableRequest_sparing server (fun hK => ?_) s
      exact hne (hmem.2.1.symm.trans (hs.peers p hmem.1 hK))
  · unfold setDeviceStatus updateDevice
    refine alter_within fun s hs => ?_
    have hkey : ∀ r : Device,({r with status := .disabled} : Device).id=r.id := fun _ => rfl
    have hget := Store.get?_modify_ne s.db.devices _ hkey (Ne.symm hne)
    refine ⟨⟨hget.trans hs.device,hs.peers,hs.credentials,hs.ids⟩,?_⟩
    exact {Spared.refl d K U s with device := hget}

theorem disableAllForUser_sparing {userId : Id} (h : userId≠d.userId) :
    Within (sparing d K U I) (disableAllForUser userId) := by
  intro s hs
  refine (?_ : WithinAt (sparing d K U I) (disableAllForUser userId) s) hs
  refine WithinAt.reads_bind (Within.each (fun x hx => ?_) s)
  refine Within.ite (disable_sparing fun he => ?_) (Within.pure _)
  have hmem := s.db.mem_devicesOf.mp hx
  have hsame : x=d := by
    have hget := s.db.devices.get?_of_mem hmem.1
    rw [he,hs.device] at hget
    exact (Option.some.inj hget).symm
  exact h (hsame ▸ hmem.2.1.symm)

theorem processOne_sparing {subscription : Subscription} (h : subscription.userId≠d.userId) :
    Within (sparing d K U I) (processOne subscription) := by
  refine getDb_within.bind fun _ => (Within.orRaise _ _).bind fun _ => (Within.orRaise _ _).bind
    fun _ => ?_
  refine Within.bind (alter_within fun _ => spared_of_view rfl rfl rfl rfl rfl rfl rfl) fun _ => ?_
  refine (disableAllForUser_sparing h).bind fun _ => ?_
  refine Within.bind ?_ fun _ => Within.change fun _ => spared_of_view rfl rfl rfl rfl rfl rfl rfl
  exact getNow_within.bind fun _ => (nextSerial_within sparing_books).bind fun _ =>
    Within.bind (alter_within fun _ => spared_of_view rfl rfl rfl rfl rfl rfl rfl) fun _ =>
    flush_within sparing_books

/-- A sweep spares every device whose owner has no subscription due. -/
theorem runOnce_sparing {asOf : Option Time} {s : Session}
    (h : ∀ x∈s.db.listExpired (asOf.getD s.now),x.userId≠d.userId) :
    WithinAt (sparing d K U I) (runOnce asOf) s := by
  refine WithinAt.reads_bind (WithinAt.reads_bind ?_)
  exact Within.bind (Within.each fun x hx => processOne_sparing (h x hx)) (fun _ => Within.pure _) s

end

end VpnService.Backend
