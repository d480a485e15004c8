import VpnService.Backend.Agreement
import VpnService.Backend.Books
import VpnService.Backend.Contracts

namespace VpnService.Backend

open Agent

section

variable {s t : Session} {device : Device} {db : Database}

/-- A device that is off stays off where nothing is switched on and the database is rolled back. -/
theorem Accords.of_dimmed (h : Accords s.toWorld device) (hoff : device.status≠.active)
    (ht : Dimmed (fun _ => False) s t) : Accords {t.toWorld with db := s.db} device where
  configured := h.configured
  peers url k r hr hrd := by
    obtain ⟨r₀,hr₀,howner,_⟩ := ht.vpn url k r id hr
    exact h.peers url k r₀ hr₀ (howner.trans hrd)
  users url k r hr hrd := by
    obtain ⟨r₀,hr₀,howner,_⟩ := ht.xray url k r id hr
    exact h.users url k r₀ hr₀ (howner.trans hrd)
  lit hact := absurd hact hoff
  dark _ := by
    have hdark := h.dark hoff
    rcases device.protocol_cases with hproto|hproto
    · apply (Dark.wireguard hproto).mpr
      intro url k r hr hrd
      obtain ⟨r₀,hr₀,howner,hon⟩ := ht.vpn url k r id hr
      have hold := (Dark.wireguard hproto).mp hdark url k r₀ hr₀ (howner.trans hrd)
      cases he : r.enabled with
      | false => rfl
      | true => exact absurd (hon he) (by rw [hold]; decide)
    · apply (Dark.vless hproto).mpr
      intro c hc
      exact (Dark.vless hproto).mp hdark c hc

/-- An operation on one device leaves the others in accord. -/
theorem Accord.of_own {d : Id} (h : Accord s.toWorld) (hs : Sound s.toWorld)
    (ht : Touched (Scope.of d s).key d s t) (hdb : DbTouched d s.db db)
    (hown : ∀ e,db.devices.get? d=some e → Accords {t.toWorld with db := db} e) :
    Accord {t.toWorld with db := db} := by
  intro e he
  have hget : db.devices.get? e.id=some e := db.devices.get?_of_mem he
  by_cases hid : e.id=d
  · rw [hid] at hget
    exact hown e hget
  · rw [hdb.devices e.id hid] at hget
    exact (h e (Store.mem_of_get? hget)).of_touched hs ht hdb hid

/-- What failed before it reached the agents has changed nothing. -/
theorem Accord.of_agents (h : Accord s.toWorld) (hv : t.vpn=s.vpn) (hx : t.xray=s.xray) :
    Accord {t.toWorld with db := s.db} := fun d hd =>
  (h d hd).of_tables rfl rfl hv hx fun _ config hk => ⟨config,hk,rfl⟩

theorem setDeviceStatus_row {m : Req Unit} {status : DeviceStatus} (hm : Within equipmentFrame m)
    (hd : s.db.devices.get? device.id=some device)
    (h : (m >>= fun _ => setDeviceStatus device.id status) s=(.ok (),t)) :
    t.db.devices.get? device.id=some {device with status := status} := by
  obtain ⟨_,u,hu,hlast⟩ := Eff.bind_ok.mp h
  have hdb : u.db.unequipped=s.db.unequipped := congrArg Prod.fst ((hm s).rel_of_run hu).1
  have hdevices : u.db.devices=s.db.devices := (congrArg Database.devices hdb :)
  have hkey : ∀ x : Device,({x with status := status} : Device).id=x.id := fun _ => rfl
  cases hlast
  exact (Store.get?_modify_self u.db.devices device.id _ hkey).trans (by rw [hdevices,hd]; rfl)

variable (hs : Settled s.toWorld) (h : Accord s.toWorld)
  (hd : s.db.devices.get? device.id=some device)

include hs h hd

theorem disable_accord (hrun : disable device s=(.ok (),t)) : Accord t.toWorld :=
  h.of_off hs (disable_off hd hrun)

theorem enable_accord
    (hpeer : device.protocol=.wireguard → (s.db.activePeer device.id).isSome)
    (hrun : enable device s=(.ok (),t)) : Accord t.toWorld := by
  have ht := (enable_touching (hs.sound.covers device.id)).rel_of_run hrun (Scope.of_fits _ s)
  refine h.of_own hs.sound ht ht.db fun e he => ?_
  have hrow := setDeviceStatus_row (enableTransport_equipment device) hd hrun
  cases he.symm.trans hrow
  exact enable_accords hs hd (h device (Store.mem_of_get? hd)) hpeer hrun

theorem revoke_accord (hrun : revoke device s=(.ok (),t)) : Accord t.toWorld := by
  have ht := (revoke_touching (hs.sound.covers device.id)).rel_of_run hrun (Scope.of_fits _ s)
  refine h.of_own hs.sound ht ht.db fun e he => ?_
  have hrow := setDeviceStatus_row (revokeTransport_equipment device) hd hrun
  cases he.symm.trans hrow
  exact revoke_accords hs hd (h device (Store.mem_of_get? hd)) hrun

theorem reissue_accord {cfg : Settings} {r : ProvisionedDevice} (hact : device.status=.active)
    (hrun : reissue cfg device s=(.ok r,t)) : Accord t.toWorld := by
  have ht := (reissue_touching cfg (hs.sound.covers device.id)).rel_of_run hrun (Scope.of_fits _ s)
  exact h.of_own hs.sound ht ht.db fun e he =>
    reissue_accords hs hd (h device (Store.mem_of_get? hd)) hact hrun he

/-- A reissue that makes no peer may still delete one of a device that is off. -/
theorem reissue_rolled {cfg : Settings} {x : Except AppError ProvisionedDevice}
    (hoff : device.status≠.active) (hswitch : switches s.toWorld device .reissue=false)
    (hrun : reissue cfg device s=(x,t)) : Accord {t.toWorld with db := s.db} := by
  have ht := (reissue_touching cfg (hs.sound.covers device.id)).rel_of_run hrun (Scope.of_fits _ s)
  refine h.of_own hs.sound ht (DbTouched.refl _ _) fun e he => ?_
  cases he.symm.trans hd
  exact (h device (Store.mem_of_get? hd)).of_dimmed hoff ((reissue_unlit hswitch).rel_of_run hrun)

end

/-- Whether the request leaves the device and its agents in accord while all is answered: what is
enabled has a peer to enable, what is reissued is active and gets its new peer, or gets none. -/
def DeviceRequest.accords (cfg : Settings) (w : World) (env : Env) (device : Device) :
    DeviceRequest → Bool
  | .enable => device.protocol=.vless || (w.db.serverOf device).isNone ||
    (w.db.activePeer device.id).isSome
  | .reissue =>
    if device.status=.active then device.protocol=.vless || (w.db.serverOf device).isNone ||
      (reissuedConfig cfg w env device).any env.qrFits
    else !switches w device .reissue
  | _ => true

/-- What the computation commits, all being answered, is in accord, and what it rolls back too. -/
def Accorded {α : Type} (m : Req α) (s : Session) : Prop :=
  (∃ a t,m s=(.ok a,t) ∧ t.outcomes=[] ∧ Accord t.toWorld) ∨
    ∃ e t,m s=(.error e,t) ∧ Accord {t.toWorld with db := s.db}

namespace Accorded

variable {α β : Type} {m : Req α} {s : Session}

theorem of_clean (hc : Clean m s) (h : Accord s.toWorld)
    (hok : ∀ a t,m s=(.ok a,t) → Accord t.toWorld) : Accorded m s := by
  rcases hc with ⟨a,t,ht,ho⟩|⟨e,t,ht,hv,hx⟩
  · exact Or.inl ⟨a,t,ht,ho,hok a t ht⟩
  · exact Or.inr ⟨e,t,ht,h.of_agents hv hx⟩

theorem answer {f : α → Req β} (h : Accorded m s) (hf : ∀ a t,∃ b,f a t=(.ok b,t)) :
    Accorded (m >>= f) s := by
  rcases h with ⟨a,t,ht,ho,hacc⟩|⟨e,t,ht,hacc⟩
  · obtain ⟨b,hb⟩ := hf a t
    exact Or.inl ⟨b,t,(Eff.bind_run_ok ht).trans hb,ho,hacc⟩
  · exact Or.inr ⟨e,t,Eff.bind_run_error ht,hacc⟩

theorem transaction {w : World} {env : Env} (h : Accorded m ⟨w,env⟩) :
    Accord (transaction m env w).2 := by
  unfold Backend.transaction
  rcases h with ⟨a,t,ht,ho,hacc⟩|⟨e,t,ht,hacc⟩
  · rw [Eff.bind_run_ok ht,Eff.bind_run_ok (flush_calm ho)]
    exact hacc
  · rw [Eff.bind_run_error ht]
    exact hacc

end Accorded

section

variable {cfg : Settings} {s : Session} {device : Device}

/-- A reissue that is refused has changed nothing. -/
theorem reissue_refused (h : device.protocol=.vless ∨ s.db.serverOf device=none) :
    Clean (reissue cfg device) s := by
  refine Clean.still_bind (Within.require _ _ s) fun _ hreq => ?_
  refine Clean.still_bind (serverOfDevice_within device s) fun server hserver => ?_
  have hproto : device.protocol≠.vless := (Eff.require_ok.mp hreq).1
  rcases h with hvless|hnone
  · exact absurd hvless hproto
  · obtain ⟨_,hid,hget⟩ := serverOfDevice_ok hserver
    rw [Database.serverOf_eq hid hget] at hnone
    cases hnone

/-- A reissue that is carried through has had an address to give. -/
theorem reissue_switches {r : ProvisionedDevice} {t : Session} (hs : Sound s.toWorld)
    (hrun : reissue cfg device s=(.ok r,t)) : switches s.toWorld device .reissue=true := by
  by_contra hswitch
  have hdim : Dimmed (fun _ => False) s t :=
    (reissue_unlit (Bool.not_eq_true _ ▸ hswitch)).rel_of_run hrun
  obtain ⟨_,server,u,v,result,p,_,_,hretire,hcreate,hlast⟩ := reissue_attempts hrun
  have hcreated := createPeerAttempts_ok hcreate
  obtain ⟨x,hx,_⟩ := hcreated.record
  have hserial : u.serial=s.serial := by
    rcases retireActive_ok hretire with ⟨_,hus⟩|⟨_,_,_,hus⟩
    · rw [hus]
    · rw [hus]
      rfl
  have hview := hlast.1
  simp only [fleetView,Prod.mk.injEq] at hview
  have hvpn : t.vpn=v.vpn := hview.2.2.2.2.2.2.2.1
  rw [← hvpn] at hx
  obtain ⟨x₀,hx₀,_⟩ := hdim.vpn _ _ x id hx
  have hnone := (hs.fresh server.agentBaseUrl p.publicKey (hserial ▸ hcreated.drawn.1)).1
  rw [hnone] at hx₀
  cases hx₀

theorem enable_accorded (hs : Settled s.toWorld) (h : Accord s.toWorld)
    (hd : s.db.devices.get? device.id=some device) (ho : s.outcomes=[])
    (hgood : DeviceRequest.enable.accords cfg s.toWorld s.toEnv device=true) :
    Accorded (enable device) s := by
  refine .of_clean (enable_clean hs.sound.consistent ho) h fun _ t ht => ?_
  refine enable_accord hs h hd (fun hproto => ?_) ht
  obtain ⟨_,u,hu,_⟩ := Eff.bind_ok.mp ht
  unfold enableTransport at hu
  rw [hproto] at hu
  obtain ⟨server,hserver,_⟩ := enablePeer_ok hu
  simpa [DeviceRequest.accords,hproto,hserver] using hgood

theorem reissue_accorded (hs : Settled s.toWorld) (hone : OneCurrent s.db) (h : Accord s.toWorld)
    (hd : s.db.devices.get? device.id=some device) (ho : s.outcomes=[])
    (hgood : DeviceRequest.reissue.accords cfg s.toWorld s.toEnv device=true) :
    Accorded (reissue cfg device) s := by
  by_cases hact : device.status=.active
  · simp only [DeviceRequest.accords,hact,if_true,Bool.or_eq_true,decide_eq_true_eq,
      Option.isNone_iff_eq_none] at hgood
    rcases hgood with hrefused|hfits
    · exact .of_clean (reissue_refused hrefused) h fun r t ht => reissue_accord hs h hd hact ht
    · rcases device.protocol_cases with hproto|hproto
      · obtain ⟨content,hcontent,hok⟩ := (Option.any_eq_true _ _).mp hfits
        obtain ⟨r,t,ht,hto⟩ := reissue_completes cfg hs.sound hone ho hproto hcontent hok
        exact Or.inl ⟨r,t,ht,hto,reissue_accord hs h hd hact ht⟩
      · exact .of_clean (reissue_refused (Or.inl hproto)) h fun r t ht =>
          reissue_accord hs h hd hact ht
  · simp only [DeviceRequest.accords,hact,if_false,Bool.not_eq_true'] at hgood
    cases hrun : reissue cfg device s with
    | mk x t =>
      cases x with
      | error e => exact Or.inr ⟨e,t,hrun,reissue_rolled hs h hd hact hgood hrun⟩
      | ok r => exact absurd (reissue_switches hs.sound hrun) (by rw [hgood]; decide)

end

section

variable {s t : Session}

theorem Settled.of_hardware (h : Settled s.toWorld) (ht : hardwareFrame.rel s t) :
    Settled t.toWorld :=
  ⟨(h.sound.of_hardware ht).2,h.homed.of_hardware ht,marking_of_hardware ht h.marked⟩

theorem disableAllForUser_settled {userId : Id} (h : Settled s.toWorld)
    (hrun : disableAllForUser userId s=(.ok (),t)) : Settled t.toWorld := by
  have hwithin : ∀ {R : Frame Session},(∀ d,Within R (disable d)) → R.rel s t := fun hR =>
    ((disableAllForUser_within hR userId) s).rel_of_run hrun
  have hdim := hwithin (disable_dimming (N := fun _ => False) (n := s.serial)) le_rfl
  have hrec := hwithin disable_recoloring
  have hless : GainsNone s.serial s t :=
    sparse_of_dimmed (hwithin (disable_dimming (N := fun k => s.serial≤k) (n := s.serial))) le_rfl
  refine ⟨?_,h.homed.of_nodes h.sound.consistent hless (hwithin disable_nodes),
    hwithin disable_marking h.marked⟩
  refine h.sound.of_dimmed hdim.1 hdim.2 ((hrec.1.consistent h.sound.consistent).later hdim.2)
    (fun p hp => ?_) fun c hc => ?_
  · obtain ⟨q,hq,_,hd,_,hkey,_⟩ := hrec.1.peer_from hp
    exact ⟨q,hq,hkey,hd⟩
  · obtain ⟨y,hy,_,hd,_,hu⟩ := hrec.1.credentials c hc
    exact ⟨y,hy,hu.symm,hd.symm⟩

/-- What is in accord can be disabled. -/
theorem Accord.clear {w : World} (h : Accord w) (hw : Settled w) (userId : Id) :
    Clear (fun _ => false) w userId := by
  intro d hd _ hact
  have hget := w.db.devices.get?_of_mem hd
  have hlit := (h d hd).lit hact
  refine ⟨rfl,?_⟩
  unfold Ready
  rcases d.protocol_cases with hproto|hproto
  · simp only [hproto]
    obtain ⟨url,k,r,hr,hrd,_⟩ := (Lit.wireguard hproto).mp hlit
    obtain ⟨_,p,server,hp,hk,hserver,hurl⟩ := (h d hd).peer hw hget hr hrd
    refine ⟨server,hserver,fun q hq => ?_⟩
    rw [hp] at hq
    cases hq
    rw [hurl,hk,hr]
    rfl
  · simp only [hproto]
    intro c hc
    exact hw.sound.consistent.credentialServers c ((w.db.mem_activeCredentials).mp hc).1

/-- All is in accord and answered. -/
structure Held (s : Session) : Prop where
  settled : Settled s.toWorld
  accord : Accord s.toWorld
  calm : s.outcomes=[]

theorem Held.of_hardware (h : Held s) (ht : hardwareFrame.rel s t) (ho : t.outcomes=[]) : Held t :=
  ⟨h.settled.of_hardware ht,h.accord.of_hardware ht,ho⟩

/-- Switching off all devices of a user is carried through. -/
theorem disableAllForUser_held (h : Held s) (userId : Id) :
    ∃ t,disableAllForUser userId s=(.ok (),t) ∧ Held t ∧ deskFrame.rel s t ∧
      DevicesOff (fun k => (s.db.devices.get? k).any fun d => d.status=.active && d.userId=userId)
        s t := by
  obtain ⟨t,ht,ho⟩ := disableAll_completes faulty_disable h.calm (h.accord.clear h.settled userId)
  obtain ⟨hoff,hdesk,_⟩ :=
    disableAll_off (x := ⟨0,userId,0,.pending,none,none,false,none⟩) faulty_disable ht
  refine ⟨t,ht,⟨disableAllForUser_settled h.settled ht,h.accord.of_off h.settled hoff,ho⟩,hdesk,?_⟩
  have hsame : (s.db.ownedBy [⟨0,userId,0,.pending,none,none,false,none⟩])=
      fun k => (s.db.devices.get? k).any fun d => d.status=.active && d.userId=userId := by
    funext k
    simp only [Database.ownedBy,List.any_cons,List.any_nil,Bool.or_false,eq_comm]
  rw [← hsame]
  exact hoff

/-- An active device that is left was there, and its owner is another. -/
theorem DevicesOff.active_of {userId : Id} (h : DevicesOff (fun k =>
      (s.db.devices.get? k).any fun d => d.status=.active && d.userId=userId) s t) {e : Device}
    (he : e∈t.db.devices.rows) (hact : e.status=.active) :
    e∈s.db.devices.rows ∧ e.userId≠userId := by
  rw [h.devices] at he
  obtain ⟨d,hd,hde⟩ := List.mem_map.mp he
  have hget := s.db.devices.get?_of_mem hd
  unfold disabledIn at hde
  split_ifs at hde with hD
  · rw [← hde] at hact
    cases hact
  · subst hde
    exact ⟨hd,fun huser => hD (by simp [hget,hact,huser])⟩

/-- One round of a sweep is carried through. -/
theorem processOne_held (h : Held s) {x : Subscription} (hnamed : Named s.db x) :
    ∃ t,processOne x s=(.ok (),t) ∧ Held t ∧ t.db.plans=s.db.plans ∧ t.db.users=s.db.users ∧
      ∀ e∈t.db.devices.rows,e.status=.active → e∈s.db.devices.rows ∧ e.userId≠x.userId := by
  obtain ⟨plan,hplan⟩ := Option.isSome_iff_exists.mp hnamed.1
  obtain ⟨user,huser⟩ := Option.isSome_iff_exists.mp hnamed.2
  have hexpire : ∃ v,expire x s=(.ok (),v) ∧ Held v ∧ v.db.devices=s.db.devices ∧
      v.db.plans=s.db.plans ∧ v.db.users=s.db.users :=
    ⟨_,rfl,h.of_hardware ⟨rfl,le_rfl⟩ h.calm,rfl,rfl,rfl⟩
  obtain ⟨v,hv,hvh,hvd,hvp,hvu⟩ := hexpire
  obtain ⟨a,ha,hah,hdesk,hoff⟩ := disableAllForUser_held hvh x.userId
  have hrest := (desk_rest hdesk).1
  have haudit : ∃ b,recordAudit none "subscription.expired" "subscription" (some x.id)
      [("user_id",toString x.userId),("plan",plan.name)] a=(.ok (),b) ∧ Held b ∧
      b.db.devices=a.db.devices ∧ b.db.plans=a.db.plans ∧ b.db.users=a.db.users := by
    unfold recordAudit
    rw [getNow_bind_run,nextSerial_bind_run,alter_bind_run]
    exact ⟨_,flush_calm hah.calm,hah.of_hardware ⟨rfl,(Int.lt_succ _).le⟩ hah.calm,rfl,rfl,rfl⟩
  obtain ⟨b,hb,hbh,hbd,hbp,hbu⟩ := haudit
  have hrun : ∃ t,processOne x s=(.ok (),t) ∧ Held t ∧ t.db=b.db := by
    unfold processOne
    rw [getDb_bind_run,hplan,Eff.orRaise_some,Eff.pure_bind_run,huser,Eff.orRaise_some,
      Eff.pure_bind_run,Eff.bind_run_ok hv,Eff.bind_run_ok ha,Eff.bind_run_ok hb]
    exact ⟨_,rfl,hbh.of_hardware ⟨rfl,le_rfl⟩ hbh.calm,rfl⟩
  obtain ⟨t,ht,hth,htb⟩ := hrun
  refine ⟨t,ht,hth,?_,?_,fun e he hact => ?_⟩
  · rw [htb,hbp,hrest]
    exact hvp
  · rw [htb,hbu,hrest]
    exact hvu
  · rw [htb,hbd] at he
    obtain ⟨hold,hother⟩ := hoff.active_of he hact
    exact ⟨hvd ▸ hold,hother⟩

theorem processEach_held {xs : List Subscription} (h : Held s) (hnamed : ∀ x∈xs,Named s.db x) :
    ∃ t,Eff.each processOne xs s=(.ok (),t) ∧ Held t ∧
      ∀ e∈t.db.devices.rows,e.status=.active → e∈s.db.devices.rows ∧ ∀ x∈xs,e.userId≠x.userId := by
  induction xs generalizing s with
  | nil => exact ⟨s,rfl,h,fun e he _ => ⟨he,by simp⟩⟩
  | cons x xs ih =>
    obtain ⟨u,hu,huh,hplans,husers,hfirst⟩ := processOne_held h (hnamed x List.mem_cons_self)
    have hlater : ∀ y∈xs,Named u.db y := by
      intro y hy
      unfold Named
      rw [hplans,husers]
      exact hnamed y (List.mem_cons_of_mem _ hy)
    obtain ⟨t,ht,hth,hrest⟩ := ih huh hlater
    refine ⟨t,(Eff.bind_run_ok hu).trans ht,hth,fun e he hact => ?_⟩
    obtain ⟨hmem,hxs⟩ := hrest e he hact
    obtain ⟨hold,hx⟩ := hfirst e hmem hact
    exact ⟨hold,by simpa using ⟨hx,hxs⟩⟩

/-- A sweep is carried through, and none of the owners of what was due has an active device. -/
theorem runOnce_held (asOf : Option Time) (h : Held s)
    (hnamed : ∀ x∈s.db.subscriptions.rows,Named s.db x) :
    ∃ ids t,runOnce asOf s=(.ok ids,t) ∧ Held t ∧ ∀ e∈t.db.devices.rows,e.status=.active →
      e∈s.db.devices.rows ∧ ∀ x∈s.db.listExpired (asOf.getD s.now),e.userId≠x.userId := by
  have hdue : ∀ x∈s.db.listExpired (asOf.getD s.now),Named s.db x :=
    fun x hx => hnamed x (List.mem_filter.mp hx).1
  obtain ⟨t,ht,hth,hrest⟩ := processEach_held h hdue
  have hrun : runOnce asOf s=(.ok ((s.db.listExpired (asOf.getD s.now)).map Subscription.id),t) := by
    unfold runOnce
    rw [getNow_bind_run,getDb_bind_run]
    exact Eff.bind_run_ok ht
  exact ⟨_,t,hrun,hth,hrest⟩

end

/-- Whether the request deletes a server or moves its agent to another address. -/
def ServerRequest.moves : ServerRequest → Bool
  | .deleteServer .. | .deleteVlessServer .. => true
  | .updateVlessServer _ _ payload => payload.xrayAgentBaseUrl.isSome
  | _ => false

/-- Devices and agents are what they were, and the configs say where they were. -/
def siting : Frame Session where
  rel s t := (t.db.devices,t.db.vpnPeers,t.db.vlessCredentials,t.vpn,t.xray)=
      (s.db.devices,s.db.vpnPeers,s.db.vlessCredentials,s.vpn,s.xray) ∧
    ∀ k config,s.db.vlessConfig k=some config → ∃ x,t.db.vlessConfig k=some x ∧
      x.xrayAgentBaseUrl=config.xrayAgentBaseUrl
  refl _ := ⟨rfl,fun _ config hk => ⟨config,hk,rfl⟩⟩
  trans h k := ⟨k.1.trans h.1,fun id config hconfig => by
    obtain ⟨x,hx,hsame⟩ := h.2 id config hconfig
    obtain ⟨y,hy,hsame'⟩ := k.2 id x hx
    exact ⟨y,hy,hsame'.trans hsame⟩⟩

theorem siting_books : Bookkeeping siting :=
  ⟨fun _ => ⟨rfl,fun _ config hk => ⟨config,hk,rfl⟩⟩,
    fun _ _ => ⟨rfl,fun _ config hk => ⟨config,hk,rfl⟩⟩⟩

theorem siting_of_audit {s t : Session} (h : auditFrame.rel s t) : siting.rel s t := by
  have hview := (hardware_of_core (core_of_audit h)).1
  simp only [hardwareView,Prod.mk.injEq] at hview
  obtain ⟨_,hconfigs,hdevices,hpeers,hcreds,hvpn,hxray⟩ := hview
  refine ⟨by rw [hdevices,hpeers,hcreds,hvpn,hxray],fun k config hk => ⟨config,?_,rfl⟩⟩
  unfold Database.vlessConfig at hk ⊢
  rw [hconfigs]
  exact hk

theorem Accord.of_siting {s t : Session} (h : Accord s.toWorld) (ht : siting.rel s t) :
    Accord t.toWorld ∧ Accord {t.toWorld with db := s.db} := by
  obtain ⟨hview,hconfigs⟩ := ht
  simp only [Prod.mk.injEq] at hview
  obtain ⟨hdevices,hpeers,hcreds,hvpn,hxray⟩ := hview
  refine ⟨fun d hd => ?_,h.of_agents hvpn hxray⟩
  rw [hdevices] at hd
  exact (h d hd).of_tables hpeers hcreds hvpn hxray hconfigs

theorem alter_siting {f : Database → Database} (h : ∀ db,((f db).devices,(f db).vpnPeers,
      (f db).vlessCredentials,(f db).vlessServerConfigs)=
      (db.devices,db.vpnPeers,db.vlessCredentials,db.vlessServerConfigs)) :
    Within siting (alter f) := by
  refine alter_within fun s => ?_
  have hview := h s.db
  simp only [Prod.mk.injEq] at hview
  obtain ⟨hdevices,hpeers,hcreds,hconfigs⟩ := hview
  refine ⟨by simp only [hdevices,hpeers,hcreds],fun k config hk => ⟨config,?_,rfl⟩⟩
  unfold Database.vlessConfig at hk ⊢
  rw [hconfigs]
  exact hk

/-- A new config. -/
theorem insertConfig_siting (config : VlessServerConfig) : Within siting (alter fun db =>
    {db with vlessServerConfigs := db.vlessServerConfigs.insert config}) := by
  refine alter_within fun s => ⟨rfl,fun k found hk => ⟨found,?_,rfl⟩⟩
  show (s.db.vlessServerConfigs.insert config).rows.find? _=some found
  unfold Store.insert
  split_ifs
  · exact hk
  · rw [List.find?_append]
    exact Option.or_eq_some_iff.mpr (Or.inl hk)

theorem updatedConfig_id (payload : VlessServerUpdate) (c : VlessServerConfig) :
    (updatedConfig payload c).id=c.id := rfl

/-- A config that is changed but for its URL. -/
theorem updateConfig_siting {k : Id} {payload : VlessServerUpdate}
    (f : Store VpnServer.id → Store VpnServer.id) (h : payload.xrayAgentBaseUrl=none) :
    Within siting (alter fun db =>
    {db with
      vpnServers := f db.vpnServers
      vlessServerConfigs :=
        db.vlessServerConfigs.modify k (updatedConfig payload) (updatedConfig_id payload)}) := by
  refine alter_within fun s => ⟨rfl,fun serverId config hconfig => ?_⟩
  have hsame : ∀ c : VlessServerConfig,
      (if c.id=k then updatedConfig payload c else c).serverId=c.serverId ∧
      (if c.id=k then updatedConfig payload c else c).xrayAgentBaseUrl=c.xrayAgentBaseUrl := by
    intro c
    split_ifs
    · exact ⟨rfl,by simp [updatedConfig,h]⟩
    · exact ⟨rfl,rfl⟩
  refine ⟨if config.id=k then updatedConfig payload config else config,?_,(hsame config).2⟩
  show (s.db.vlessServerConfigs.modify k (updatedConfig payload)
    (updatedConfig_id payload)).rows.find? (fun c => c.serverId=serverId)=_
  rw [Store.rows_modify,List.find?_map]
  have hcomp : ((fun c : VlessServerConfig => decide (c.serverId=serverId)) ∘
      fun c => if c.id=k then updatedConfig payload c else c)=
      fun c : VlessServerConfig => decide (c.serverId=serverId) := by
    funext c
    simp only [Function.comp,(hsame c).1]
  have hfound : s.db.vlessServerConfigs.rows.find? (fun c => c.serverId=serverId)=some config :=
    hconfig
  rw [hcomp,hfound]
  rfl

theorem handleServers_siting {r : ServerRequest} (h : r.moves=false) :
    Within siting (handleServers r) := by
  have hlog : ∀ adminId action targetType targetId metadata,
      Within siting (recordAudit adminId action targetType targetId metadata) :=
    fun _ _ _ _ _ => (audit_written _ _ _ _ _).mono siting_of_audit
  have hflush : Within siting flush := flush_within siting_books
  cases r with
  | createServer adminId payload =>
    have hcreate : Within siting (createServer payload) :=
      (nextSerial_within siting_books).bind fun _ => Within.bind (alter_siting fun _ => rfl) fun _ =>
        hflush.bind fun _ => Within.pure _
    exact hcreate.bind fun _ => (hlog _ _ _ _ _).bind fun _ => Within.pure _
  | updateServer adminId serverId payload =>
    have hupdate : Within siting (updateServer serverId payload) :=
      (getServer_within serverId).bind fun _ => Within.bind (alter_siting fun _ => rfl) fun _ => hflush
    exact hupdate.bind fun _ => (hlog _ _ _ _ _).bind fun _ => Within.pure _
  | createVlessServer adminId payload =>
    have hcreate : Within siting (createVlessServer payload) :=
      (nextSerial_within siting_books).bind fun _ => Within.bind (alter_siting fun _ => rfl) fun _ =>
        hflush.bind fun _ => (nextSerial_within siting_books).bind fun _ =>
        (insertConfig_siting _).bind fun _ => hflush.bind fun _ => Within.pure _
    exact hcreate.bind fun _ => (hlog _ _ _ _ _).bind fun _ => Within.pure _
  | updateVlessServer adminId serverId payload =>
    have hurl : payload.xrayAgentBaseUrl=none := by simpa [ServerRequest.moves] using h
    have hupdate : Within siting (updateVlessServer serverId payload) :=
      (getVlessServer_within serverId).bind fun found => Within.bind (updateConfig_siting
        (fun table => table.modify found.1.id (updatedServer payload.toVpnServerUpdate)
          (updatedServer_id payload.toVpnServerUpdate)) hurl)
        fun _ => hflush.bind fun _ => hflush
    exact hupdate.bind fun _ => (hlog _ _ _ _ _).bind fun _ => Within.pure _
  | deleteServer adminId serverId => cases h
  | deleteVlessServer adminId serverId => cases h

/-- Whether the request leaves all devices in accord while all is answered. -/
def Request.accords (cfg : Settings) (w : World) (env : Env) : Request → Bool
  | .servers r => !r.moves
  | .device telegramId d op => (w.db.owned telegramId d).all fun device =>
    op.accords cfg w env device
  | _ => true

theorem transaction_congr {α : Type} {m n : Req α} {env : Env} {w : World}
    (h : m ⟨w,env⟩=n ⟨w,env⟩) : transaction m env w=transaction n env w := by
  unfold transaction
  rw [Eff.bind_run,Eff.bind_run,h]

theorem transaction_calm {α : Type} {m : Req α} {env : Env} {w : World} {a : α} {t : Session}
    (h : m ⟨w,env⟩=(.ok a,t)) (ho : t.outcomes=[]) : transaction m env w=(.ok a,t.toWorld) := by
  unfold transaction
  rw [Eff.bind_run_ok h,Eff.bind_run_ok (flush_calm ho)]
  rfl

theorem transaction_answer {α β : Type} {m : Req α} {f : α → Req β} {env : Env} {w : World}
    (hf : ∀ a t,∃ b,f a t=(.ok b,t)) :
    (transaction (m >>= f) env w).2=(transaction m env w).2 := by
  unfold transaction
  cases hm : m ⟨w,env⟩ with
  | mk x t =>
    cases x with
    | error e =>
      have hboth : (m >>= f) ⟨w,env⟩=(.error e,t) := Eff.bind_run_error hm
      rw [Eff.bind_run_error hm,Eff.bind_run_error hboth]
    | ok a =>
      obtain ⟨b,hb⟩ := hf a t
      have hboth : (m >>= f) ⟨w,env⟩=(.ok b,t) := (Eff.bind_run_ok hm).trans hb
      rw [Eff.bind_run_ok hm,Eff.bind_run_ok hboth]
      cases hflush : flush t with
      | mk y u =>
        cases y with
        | error e => rw [Eff.bind_run_error hflush,Eff.bind_run_error hflush]
        | ok _ =>
          rw [Eff.bind_run_ok hflush,Eff.bind_run_ok hflush]
          rfl

section

variable {cfg : Settings} {w : World} {env : Env}

theorem transaction_accord {α : Type} {m : Req α} {t : Session} {x : Except AppError α}
    (hm : m ⟨w,env⟩=(x,t)) (hrolled : Accord {t.toWorld with db := w.db})
    (hkept : ∀ a,x=.ok a → Accord t.toWorld) : Accord (transaction m env w).2 := by
  rcases transaction_cases m env w with ⟨a,s,u,hs,hu,ht⟩|⟨e,s,hs,ht⟩
  · rw [ht,flush_world hu]
    rw [hm] at hs
    cases hs
    exact hkept a rfl
  · rw [ht]
    rcases hs with hs|⟨a,u,hs,hu⟩
    · rw [hm] at hs
      cases hs
      exact hrolled
    · rw [hm] at hs
      cases hs
      rw [flush_world hu]
      exact hrolled

theorem transaction_accord_of_hardware {α : Type} {m : Req α} (h : Accord w)
    (hm : Within hardwareFrame m) : Accord (transaction m env w).2 := by
  cases hrun : m ⟨w,env⟩ with
  | mk x t =>
    have ht := (hm ⟨w,env⟩).rel_of_run hrun
    have hview := ht.1
    simp only [hardwareView,Prod.mk.injEq] at hview
    exact transaction_accord hrun
      (Accord.of_agents (s := ⟨w,env⟩) h hview.2.2.2.2.2.1 hview.2.2.2.2.2.2)
      fun _ _ => Accord.of_hardware (s := ⟨w,env⟩) h ht

theorem handleDevice_accord {device : Device} {op : DeviceRequest} (hs : Settled w)
    (hone : OneCurrent w.db) (h : Accord w) (hd : w.db.devices.get? device.id=some device)
    (ho : env.outcomes=[]) (hgood : op.accords cfg w env device=true) :
    Accord (transaction (handleDevice cfg device op) env w).2 := by
  have hlink : Within hardwareFrame (getLink device.id) := getLink_within device.id
  have hcons := hs.sound.consistent
  cases op with
  | reissue =>
    have hall := reissue_accorded (s := ⟨w,env⟩) hs hone h hd ho hgood
    exact (hall.answer fun a t => ⟨_,rfl⟩).transaction
  | disable =>
    have hall : Accorded (disable device) ⟨w,env⟩ :=
      .of_clean (disable_clean hcons ho) h fun _ t ht => disable_accord hs h hd ht
    exact (hall.answer fun a t => ⟨_,rfl⟩).transaction
  | enable =>
    have hall := enable_accorded (s := ⟨w,env⟩) hs h hd ho hgood
    exact (hall.answer fun a t => ⟨_,rfl⟩).transaction
  | revoke =>
    have hall : Accorded (revoke device) ⟨w,env⟩ :=
      .of_clean (revoke_clean hcons ho) h fun _ t ht => revoke_accord hs h hd ht
    exact (hall.answer fun a t => ⟨_,rfl⟩).transaction
  | createOrRotateLink =>
    exact transaction_accord_of_hardware h ((createOrRotate_hardware device.id).bind fun _ =>
      (generateQrCode_within _).bind fun _ => Within.pure _)
  | getLink => exact transaction_accord_of_hardware h (hlink.bind fun _ => Within.pure _)
  | revokeLink =>
    exact transaction_accord_of_hardware h (hlink.bind fun l => Within.bind
      (getNow_within.bind fun _ => alter_hardware fun _ => rfl) fun _ => answerLink_within _)
  | getProfile =>
    exact transaction_accord_of_hardware h (Within.bind (getDb_within.bind fun _ =>
      (currentProfile_within _).bind fun _ => Within.orRaise _ _) fun _ => Within.pure _)
  | refreshProfile =>
    exact transaction_accord_of_hardware h (((regenerateProfile_core cfg _ _).mono
      hardware_of_core).bind fun _ => Within.pure _)

theorem provision_accord {user : User} {name : String} {requested : Option Id}
    {protocol : VpnProtocol} (hs : Settled w) (h : Accord w) :
    Accord (transaction (provision cfg user name requested protocol) env w).2 := by
  cases hrun : provision cfg user name requested protocol ⟨w,env⟩ with
  | mk x t =>
    have ht := (provision_touching cfg user name requested protocol
      (hs.sound.covers (s := ⟨w,env⟩) w.serial)).rel_of_run hrun (Scope.of_fits _ _)
    refine transaction_accord hrun ?_ fun r hr => ?_
    · refine Accord.of_own (s := ⟨w,env⟩) h hs.sound ht (DbTouched.refl _ _) fun e he => ?_
      have hlt := hs.sound.consistent.devices e (Store.mem_of_get? he)
      exact absurd (Store.key_of_get? he) hlt.ne
    · subst hr
      exact Accord.of_own (s := ⟨w,env⟩) h hs.sound ht ht.db fun e he =>
        provision_accords hs hrun he

/-- What any request leaves is in accord, if it accords. -/
theorem after_accord {r : Request} (hs : Settled w) (hone : OneCurrent w.db)
    (hnamed : ∀ x∈w.db.subscriptions.rows,Named w.db x) (h : Accord w) (ho : env.outcomes=[])
    (hgood : r.accords cfg w env=true) : Accord (after cfg w ⟨env,r⟩) := by
  cases r with
  | billing r =>
    exact transaction_accord_of_hardware h ((handleBilling_fleet cfg r).mono hardware_of_fleet)
  | routing r =>
    exact transaction_accord_of_hardware h ((handleRouting_core _ r).mono hardware_of_core)
  | servers r =>
    have hmoves : r.moves=false := by simpa [Request.accords] using hgood
    cases hrun : handleServers r ⟨w,env⟩ with
    | mk x t =>
      have hboth := Accord.of_siting (s := ⟨w,env⟩) h
        ((handleServers_siting hmoves _).rel_of_run hrun)
      exact transaction_accord (m := handle cfg (.servers r)) hrun hboth.2 fun _ _ => hboth.1
  | listDevices telegramId =>
    exact transaction_accord_of_hardware h ((currentUser_within telegramId).bind fun _ =>
      getDb_within.bind fun _ => Within.pure _)
  | createDevice telegramId name requested protocol =>
    rcases handleCreateDevice_run cfg telegramId name requested protocol ⟨w,env⟩ with
      ⟨e,he⟩|⟨user,_,he⟩
    · rw [(after_of_error (c := ⟨env,.createDevice telegramId name requested protocol⟩) he).2]
      exact h
    · have hsame : after cfg w ⟨env,.createDevice telegramId name requested protocol⟩=
          (transaction (provision cfg user name requested protocol) env w).2 :=
        (congrArg Prod.snd (transaction_congr he)).trans (transaction_answer fun _ _ => ⟨_,rfl⟩)
      rw [hsame]
      exact provision_accord hs h
  | device telegramId d op =>
    cases hown : w.db.owned telegramId d with
    | none => 
      rcases handleOwned_run cfg telegramId d op ⟨w,env⟩ with ⟨e,he⟩|⟨user,device,hu,hget,huser,_⟩
      · rw [(after_of_error (c := ⟨env,.device telegramId d op⟩) he).2]
        exact h
      · have howned : w.db.owned telegramId d=some device := by
          unfold Database.owned
          rw [(currentUser_run.mp hu).1,Option.bind_some,hget]
          simp [huser]
        rw [hown] at howned
        cases howned
    | some device =>
      have hsame : after cfg w ⟨env,.device telegramId d op⟩=
          (transaction (handleDevice cfg device op) env w).2 :=
        congrArg Prod.snd (transaction_congr (owned_run hown))
      obtain ⟨user,_,hdevice⟩ := Option.bind_eq_some_iff.mp hown
      have hget := (Option.filter_eq_some_iff.mp hdevice).1
      rw [← owned_id hown] at hget
      rw [hsame]
      refine handleDevice_accord hs hone h hget ho ?_
      simpa [Request.accords,hown] using hgood
  | fetchSubscription token =>
    exact transaction_accord_of_hardware h ((deliver_hardware token).bind fun _ => Within.pure _)
  | sweep asOf =>
    obtain ⟨ids,t,ht,hth,_⟩ := runOnce_held (s := ⟨w,env⟩) asOf ⟨hs,h,ho⟩ hnamed
    have hrun : handle cfg (.sweep asOf) ⟨w,env⟩=(.ok (.expired ids),t) := Eff.bind_run_ok ht
    rw [(after_calm (c := ⟨env,.sweep asOf⟩) hrun hth.calm).1]
    exact hth.accord

end

end VpnService.Backend
