import VpnService.Backend.Recolored

namespace VpnService.Backend

open Agent

/-- But for the keys `N`, the agents have no record that was not there, and none is enabled that
was not. -/
structure Dimmed (N : Int → Prop) (s t : Session) : Prop where
  vpn : ∀ url k r,¬N k → (t.vpn url).get? k=some r → ∃ r₀,(s.vpn url).get? k=some r₀ ∧
    r₀.deviceId=r.deviceId ∧ (r.enabled=true → r₀.enabled=true)
  xray : ∀ url k r,¬N k → (t.xray url).get? k=some r → ∃ r₀,(s.xray url).get? k=some r₀ ∧
    r₀.deviceId=r.deviceId ∧ (r.enabled=true → r₀.enabled=true)

theorem Dimmed.refl (N : Int → Prop) (s : Session) : Dimmed N s s :=
  ⟨fun _ _ r _ h => ⟨r,h,rfl,id⟩,fun _ _ r _ h => ⟨r,h,rfl,id⟩⟩

theorem Dimmed.trans {N : Int → Prop} {s t u : Session} (h : Dimmed N s t) (k : Dimmed N t u) :
    Dimmed N s u where
  vpn url x r hx hr := by
    obtain ⟨r₁,h₁,hd,he⟩ := k.vpn url x r hx hr
    obtain ⟨r₀,h₀,hd',he'⟩ := h.vpn url x r₁ hx h₁
    exact ⟨r₀,h₀,hd'.trans hd,fun h => he' (he h)⟩
  xray url x r hx hr := by
    obtain ⟨r₁,h₁,hd,he⟩ := k.xray url x r hx hr
    obtain ⟨r₀,h₀,hd',he'⟩ := h.xray url x r₁ hx h₁
    exact ⟨r₀,h₀,hd'.trans hd,fun h => he' (he h)⟩

/-- The numbers `N` may hold all those drawn after `n`. -/
def dimming (N : Int → Prop) (n : Int) : Frame Session where
  rel s t := n≤ s.serial → Dimmed N s t ∧ n≤t.serial
  refl s h := ⟨Dimmed.refl N s,h⟩
  trans h k := fun hs => ⟨(h hs).1.trans (k (h hs).2).1,(k (h hs).2).2⟩

section

variable {N : Int → Prop} {n : Int}

theorem dimmed_of_view {s t : Session} (hv : t.vpn=s.vpn) (hx : t.xray=s.xray)
    (hs : s.serial≤t.serial) : (dimming N n).rel s t := fun hn =>
  ⟨⟨fun _ _ r _ h => ⟨r,hv ▸ h,rfl,id⟩,fun _ _ r _ h => ⟨r,hx ▸ h,rfl,id⟩⟩,hn.trans hs⟩

theorem dimming_books : Bookkeeping (dimming N n) :=
  ⟨fun _ => dimmed_of_view rfl rfl (by simp),fun _ _ => dimmed_of_view rfl rfl le_rfl⟩

theorem alter_dimming (f : Database → Database) : Within (dimming N n) (alter f) :=
  alter_within fun _ => dimmed_of_view rfl rfl le_rfl

theorem dimmed_of_core {s t : Session} (h : coreFrame.rel s t) : (dimming N n).rel s t := by
  obtain ⟨hview,hs⟩ := h
  simp only [fleetView,Prod.mk.injEq] at hview
  obtain ⟨_,_,_,_,_,_,_,hvpn,hxray⟩ := hview
  exact dimmed_of_view hvpn hxray hs

theorem dimming_of_core {α : Type} {m : Req α} (h : Within coreFrame m) :
    Within (dimming N n) m := h.mono dimmed_of_core

theorem setVpn_dimmed {s : Session} {url : String} {store : IpPeerStore}
    (h : ∀ k r,¬N k → store.get? k=some r → ∃ r₀,(s.vpn url).get? k=some r₀ ∧
      r₀.deviceId=r.deviceId ∧ (r.enabled=true → r₀.enabled=true)) :
    (dimming N n).rel s (setVpn url store s) := by
  refine fun hn => ⟨{Dimmed.refl N s with vpn := ?_},hn⟩
  intro u k r hk hr
  by_cases hu : u=url
  · rw [hu]
    exact h k r hk (by simpa only [setVpn,hu,if_true] using hr)
  · exact ⟨r,by simpa only [setVpn,hu,if_false] using hr,rfl,id⟩

theorem setXray_dimmed {s : Session} {url : String} {store : UserStore}
    (h : ∀ k r,¬N k → store.get? k=some r → ∃ r₀,(s.xray url).get? k=some r₀ ∧
      r₀.deviceId=r.deviceId ∧ (r.enabled=true → r₀.enabled=true)) :
    (dimming N n).rel s (setXray url store s) := by
  refine fun hn => ⟨{Dimmed.refl N s with xray := ?_},hn⟩
  intro u k r hk hr
  by_cases hu : u=url
  · rw [hu]
    exact h k r hk (by simpa only [setXray,hu,if_true] using hr)
  · exact ⟨r,by simpa only [setXray,hu,if_false] using hr,rfl,id⟩

theorem deletePeer_dimming (key : Int) (server : VpnServer) :
    Within (dimming N n) (deletePeer key server) := by
  refine vpnRequest_within dimming_books fun s store hstore => ?_
  cases hstore
  refine setVpn_dimmed fun k r _ hr => ?_
  rw [PeerStore.get?_deletePeer] at hr
  split_ifs at hr
  exact ⟨r,hr,rfl,id⟩

theorem disableRequest_dimming (key : Int) (server : VpnServer) :
    Within (dimming N n) (vpnRequest server (PeerStore.disablePeer key)) := by
  refine vpnRequest_within dimming_books fun s store hstore => ?_
  obtain ⟨_,_,he⟩ := Option.map_eq_some_iff.mp hstore
  subst he
  refine setVpn_dimmed fun k r _ hr => ?_
  rw [PeerStore.get?_setEnabled] at hr
  split_ifs at hr
  · obtain ⟨r₀,h₀,he⟩ := Option.map_eq_some_iff.mp hr
    subst he
    exact ⟨r₀,h₀,rfl,fun h => absurd h (by simp)⟩
  · exact ⟨r,hr,rfl,id⟩

theorem deleteUser_dimming (uuid : Int) (baseUrl : String) :
    Within (dimming N n) (xrayRequest baseUrl (UserStore.deleteUser uuid)) := by
  refine xrayRequest_within dimming_books fun s => setXray_dimmed fun k r _ hr => ?_
  rw [UserStore.get?_deleteUser] at hr
  split_ifs at hr
  exact ⟨r,hr,rfl,id⟩

theorem removeCredentialFromXray_dimming (c : VlessCredential) :
    Within (dimming N n) (removeCredentialFromXray c) := by
  refine (configForCredential_within c).bind fun config => ?_
  cases config with
  | none => exact Within.pure _
  | some config => exact deleteUser_dimming _ _

theorem retirePeer_dimming (server : VpnServer) (p : VpnPeer) :
    Within (dimming N n) (retirePeer server p) :=
  (deletePeer_dimming _ server).bind fun _ => alter_dimming _

theorem revoke_dimming (device : Device) : Within (dimming N n) (revoke device) := by
  refine Within.bind ?_ fun _ => alter_dimming _
  unfold revokeTransport
  cases device.protocol with
  | vless =>
    exact getDb_within.bind fun _ => Within.each fun c _ =>
      (removeCredentialFromXray_dimming c).bind fun _ => getNow_within.bind fun _ =>
      Within.bind (alter_dimming _) fun _ => (getServer_within _).bind fun _ => alter_dimming _
  | wireguard =>
    unfold revokePeer
    cases device.serverId with
    | none => exact Within.pure _
    | some serverId =>
      exact (getServer_within serverId).bind fun server => withActivePeer_within _ fun p =>
        (retirePeer_dimming server p).bind fun _ => alter_dimming _

theorem disable_dimming (device : Device) : Within (dimming N n) (disable device) := by
  refine Within.bind ?_ fun _ => alter_dimming _
  unfold disableTransport
  cases device.protocol with
  | vless =>
    exact getDb_within.bind fun _ => Within.each fun c _ =>
      (removeCredentialFromXray_dimming c).bind fun _ => alter_dimming _
  | wireguard =>
    exact (serverOfDevice_within device).bind fun server => withActivePeer_within _ fun p =>
      disableRequest_dimming _ server

theorem createOrRotate_dimming (deviceId : Id) :
    Within (dimming N n) (createOrRotate deviceId) := by
  refine (nextSerial_within dimming_books).bind fun _ => getNow_within.bind fun _ =>
    getDb_within.bind fun db => ?_
  cases db.linkOf deviceId with
  | none =>
    exact (nextSerial_within dimming_books).bind fun _ => (alter_dimming _).bind fun _ =>
      (flush_within dimming_books).bind fun _ => Within.pure _
  | some l =>
    exact (alter_dimming _).bind fun _ => (flush_within dimming_books).bind fun _ => Within.pure _

theorem createPeer_dimming (cfg : Settings) (deviceId : Id) (server : VpnServer)
    (ip : IpAddress) (hN : ∀ k,n≤k → N k) :
    Within (dimming N n) (createPeer cfg deviceId server ip) := by
  intro s hn
  have hkey : N s.serial := hN _ hn
  refine (?_ : WithinAt (dimming N n) (createPeer cfg deviceId server ip) s) hn
  refine WithinAt.still_bind (getNow_within s) fun now _ => ?_
  refine (nextSerial_within dimming_books s).bind fun key t ht => ?_
  cases ht
  refine Within.bind ?_ (fun _ => Within.pure _) _
  refine vpnRequest_within dimming_books fun t store hstore => ?_
  cases hstore
  refine setVpn_dimmed fun k r hk hr => ?_
  have hne : k≠s.serial := fun he => hk (he ▸ hkey)
  rw [PeerStore.get?_createPeer,if_neg hne] at hr
  exact ⟨r,hr,rfl,id⟩

theorem createPeerAttempts_dimming (cfg : Settings) (deviceId : Id) (server : VpnServer)
    (attempts : Nat) (hN : ∀ k,n≤k → N k) :
    Within (dimming N n) (createPeerAttempts cfg deviceId server attempts) := by
  induction attempts with
  | zero => exact Within.raise _
  | succ attempts ih =>
    exact (allocateIp_within server).bind fun ip =>
      (createPeer_dimming cfg deviceId server ip hN).bind fun result =>
      (nextSerial_within dimming_books).bind fun _ => (flush_within dimming_books).bind fun _ =>
      (flush_within dimming_books).bind fun _ => getDb_within.bind fun _ =>
      Within.ite ((deletePeer_dimming _ server).bind fun _ => ih)
        ((alter_dimming _).bind fun _ => Within.pure _)

theorem reissue_dimming (cfg : Settings) (device : Device) (hN : ∀ k,n≤k → N k) :
    Within (dimming N n) (reissue cfg device) :=
  (Within.require _ _).bind fun _ => (serverOfDevice_within device).bind fun server =>
    (withActivePeer_within _ fun p => retirePeer_dimming server p).bind fun _ =>
    (createPeerAttempts_dimming cfg device.id server 5 hN).bind fun _ =>
    Within.bind (alter_dimming _) fun _ => (dimming_of_core (regenerateProfile_core cfg _ _)).bind
    fun _ => (generateQrCode_within _).bind fun _ => (refreshed_within device).bind fun _ =>
    Within.pure _

/-- No operation on a device but `enable` switches anything on that was there before. -/
theorem handleDevice_dimming (cfg : Settings) (device : Device) (r : DeviceRequest)
    (hN : ∀ k,n≤k → N k) (hr : r≠.enable) : Within (dimming N n) (handleDevice cfg device r) := by
  cases r with
  | reissue => exact (reissue_dimming cfg device hN).bind fun _ => Within.pure _
  | disable =>
    exact (disable_dimming device).bind fun _ => (refreshed_within device).bind fun _ =>
      Within.pure _
  | enable => exact absurd rfl hr
  | revoke =>
    exact (revoke_dimming device).bind fun _ => (refreshed_within device).bind fun _ =>
      Within.pure _
  | createOrRotateLink =>
    exact (createOrRotate_dimming device.id).bind fun _ => (generateQrCode_within _).bind
      fun _ => Within.pure _
  | getLink => exact (getLink_within device.id).bind fun _ => Within.pure _
  | revokeLink =>
    exact (getLink_within device.id).bind fun l =>
      Within.bind (getNow_within.bind fun _ => alter_dimming _) fun _ => answerLink_within _
  | getProfile =>
    exact Within.bind (getDb_within.bind fun _ => (currentProfile_within _).bind fun _ =>
      Within.orRaise _ _) fun _ => Within.pure _
  | refreshProfile =>
    exact (dimming_of_core (regenerateProfile_core cfg _ _)).bind fun _ => Within.pure _

theorem addDevice_dimming (userId : Id) (name : String) (serverId : Option Id)
    (protocol : VpnProtocol) : Within (dimming N n) (addDevice userId name serverId protocol) :=
  (nextSerial_within dimming_books).bind fun _ => (flush_within dimming_books).bind fun _ =>
    (Within.require _ _).bind fun _ => (alter_dimming _).bind fun _ => Within.pure _

theorem createUser_dimming (baseUrl : String) (uuid deviceId : Int) (flow : String) (now : Time)
    (hN : N uuid) : Within (dimming N n)
      (xrayRequest baseUrl (UserStore.createUser uuid deviceId flow now)) := by
  refine xrayRequest_within dimming_books fun s => setXray_dimmed fun k r hk hr => ?_
  have hne : k≠uuid := fun he => hk (he ▸ hN)
  rw [UserStore.get?_createUser,if_neg hne] at hr
  exact ⟨r,hr,rfl,id⟩

theorem provisionVless_dimming (cfg : Settings) (user : User) (name : String)
    (requested : Option Id) (hN : ∀ k,n≤k → N k) :
    Within (dimming N n) (provisionVless cfg user name requested) := by
  refine (chooseServer_within requested .vless).bind fun server => getDb_within.bind fun db =>
    (Within.orRaise _ _).bind fun config => (addDevice_dimming _ _ _ _).bind fun device =>
    (createOrRotate_dimming device.id).bind fun link s hn => ?_
  have hkey : N s.serial := hN _ hn
  refine WithinAt.bind (R := dimming N n) (nextSerial_within dimming_books s)
    (fun uuid t ht => ?_) hn
  cases ht
  exact (getNow_within.bind fun _ => (createUser_dimming _ _ _ _ _ hkey).bind fun _ =>
    (nextSerial_within dimming_books).bind fun _ => (flush_within dimming_books).bind fun _ =>
    getDb_within.bind fun _ => (Within.require _ _).bind fun _ => (alter_dimming _).bind fun _ =>
    Within.bind (alter_dimming _) fun _ => (generateQrCode_within _).bind fun _ =>
    Within.pure _ : Within (dimming N n) _) _

theorem provision_dimming (cfg : Settings) (user : User) (name : String)
    (requested : Option Id) (protocol : VpnProtocol) (hN : ∀ k,n≤k → N k) :
    Within (dimming N n) (provision cfg user name requested protocol) := by
  refine (enforceDeviceLimit_within user.id).bind fun _ => ?_
  cases protocol with
  | vless => exact provisionVless_dimming cfg user name requested hN
  | wireguard =>
    exact (chooseServer_within requested .wireguard).bind fun server =>
      (addDevice_dimming _ _ _ _).bind fun device => (createOrRotate_dimming device.id).bind
      fun _ => (createPeerAttempts_dimming cfg device.id server 5 hN).bind fun _ =>
      Within.bind (alter_dimming _) fun _ => Within.bind (alter_dimming _) fun _ =>
      (dimming_of_core (regenerateProfile_core cfg _ _)).bind fun _ =>
      (generateQrCode_within _).bind fun _ => (generateQrCode_within _).bind fun _ =>
      (refreshed_within device).bind fun _ => Within.pure _

theorem runOnce_dimming (asOf : Option Time) : Within (dimming N n) (runOnce asOf) :=
  runOnce_within (fun h => dimmed_of_core (core_of_audit h)) (fun _ => alter_dimming _)
    disable_dimming asOf

end

end VpnService.Backend
