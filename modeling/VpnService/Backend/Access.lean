import VpnService.Backend.Faults
import VpnService.Backend.Sweeps

namespace VpnService.Backend

open Agent

/-- An agent has an enabled record of device `d` that was not there enabled before. -/
def SwitchedOn (d : Id) (w w' : World) : Prop :=
  (∃ url k r,(w'.vpn url).get? k=some r ∧ r.deviceId=d ∧ r.enabled=true ∧
    ∀ r₀,(w.vpn url).get? k=some r₀ → r₀.enabled=false) ∨
  ∃ url k r,(w'.xray url).get? k=some r ∧ r.deviceId=d ∧ r.enabled=true ∧
    ∀ r₀,(w.xray url).get? k=some r₀ → r₀.enabled=false

/-- The operations that can make a transport live. -/
def Request.opens : Request → Bool
  | .createDevice .. | .device _ _ .reissue | .device _ _ .enable => true
  | _ => false

/-- Whether the user who makes the request has an active subscription that is not over. -/
def Request.paid (w : World) (now : Time) : Request → Bool
  | .createDevice telegramId .. | .device telegramId .. =>
    (w.db.userByTelegramId telegramId).any fun user => w.db.paidBeyond user.id now
  | _ => false

/-- Whether the record of a credential is there and enabled. -/
def connected (w : World) (c : VlessCredential) : Bool :=
  (userRecord w c).any UserRecord.enabled

/-- Whether an operation on a device has a call to make that enables something new. -/
def switches (w : World) (device : Device) : DeviceRequest → Bool
  | .reissue => device.protocol=.wireguard && (w.db.serverOf device).any (canAllocate w.db)
  | .enable => match device.protocol with
    | .wireguard => (peerRecord w device).any fun r => !r.enabled
    | .vless => (w.db.credentialsOf device.id).any fun c =>
      c.status=.disabled && (w.db.vlessConfig c.serverId).isSome && !connected w c
  | _ => false

def Request.switches (w : World) : Request → Bool
  | .createDevice telegramId name requested protocol =>
    ((w.db.userByTelegramId telegramId).filter fun user => user.status=.active).any fun user =>
      provisions w.db user name requested protocol
  | .device telegramId d op =>
    (w.db.owned telegramId d).any fun device => Backend.switches w device op
  | _ => false

theorem Appeared.switchedOn {d : Id} {w w' : World} (hs : Sound w) (h : Appeared d w.serial w') :
    SwitchedOn d w w' := by
  obtain ⟨k,hk,hnew⟩ := h
  rcases hnew with ⟨url,r,hget,hr,hon⟩|⟨url,r,hget,hr,hon⟩
  · refine Or.inl ⟨url,k,r,hget,hr,hon,fun r₀ h₀ => ?_⟩
    rw [(hs.fresh url k hk).1] at h₀
    cases h₀
  · refine Or.inr ⟨url,k,r,hget,hr,hon,fun r₀ h₀ => ?_⟩
    rw [(hs.fresh url k hk).2] at h₀
    cases h₀

/-- The frame of what enables nothing new. -/
def unlit : Frame Session := ⟨Dimmed (fun _ => False),Dimmed.refl _,Dimmed.trans⟩

theorem Dimmed.not_switchedOn {d : Id} {s t : Session} (h : Dimmed (fun _ => False) s t) :
    ¬SwitchedOn d s.toWorld t.toWorld := by
  rintro (⟨url,k,r,hget,_,hon,hoff⟩|⟨url,k,r,hget,_,hon,hoff⟩)
  · obtain ⟨r₀,h₀,_,hen⟩ := h.vpn url k r id hget
    rw [hoff r₀ h₀] at hen
    cases hen hon
  · obtain ⟨r₀,h₀,_,hen⟩ := h.xray url k r id hget
    rw [hoff r₀ h₀] at hen
    cases hen hon

theorem unlit_of_aloof {s t : Session} (h : aloof.rel s t) : unlit.rel s t := by
  have hview : (t.vpn,t.xray)=(s.vpn,s.xray) := h
  simp only [Prod.mk.injEq] at hview
  obtain ⟨hvpn,hxray⟩ := hview
  exact ⟨fun _ _ r _ hr => ⟨r,hvpn ▸ hr,rfl,id⟩,fun _ _ r _ hr => ⟨r,hxray ▸ hr,rfl,id⟩⟩

theorem unlit_books : Bookkeeping unlit :=
  ⟨fun s => unlit_of_aloof (aloof_books.serial s),
    fun s os => unlit_of_aloof (aloof_books.outcomes s os)⟩

theorem alter_unlit (f : Database → Database) : Within unlit (alter f) :=
  (alter_aloof f).mono unlit_of_aloof

section

variable {s : Session} {device : Device}

theorem unlit_of_dimming {α : Type} {m : Req α}
    (h : Within (dimming (fun _ => False) s.serial) m) : WithinAt unlit m s :=
  (h s le_rfl).1

theorem reissue_unlit {cfg : Settings} (h : switches s.toWorld device .reissue=false) :
    WithinAt unlit (reissue cfg device) s := by
  refine WithinAt.still_bind (Within.require _ _ s) fun _ hproto => ?_
  have hwg : device.protocol=.wireguard := by
    have hne := (Eff.require_ok.mp hproto).1
    cases hp : device.protocol with
    | wireguard => rfl
    | vless => exact absurd hp hne
  refine WithinAt.still_bind (serverOfDevice_within device s) fun server hserver => ?_
  obtain ⟨_,hserver,hget⟩ := serverOfDevice_ok hserver
  have hof : s.db.serverOf device=some server := by simp [Database.serverOf,hserver,hget]
  simp only [switches,hwg,hof,Option.any_some,decide_true,Bool.true_and] at h
  have hretire : WithinAt unlit (withActivePeer device.id (retirePeer server)) s :=
    unlit_of_dimming (withActivePeer_within _ fun p => retirePeer_dimming server p)
  refine hretire.bind fun _ t ht => ?_
  have hcan : canAllocate t.db server=false := by
    rcases retireActive_ok ht with ⟨_,hts⟩|⟨p,os,_,hts⟩
    · rw [hts]
      exact h
    · rw [hts]
      exact (canAllocate_retired s.db server p.id).trans h
  refine ((createPeerAttempts_aloof 5 hcan).mono unlit_of_aloof).bind fun _ u hu => ?_
  obtain ⟨ip,v,hv,_⟩ := Eff.bind_ok.mp hu
  have htrue := canAllocate_of_ok hv
  rw [hcan] at htrue
  cases htrue

/-- Adding a user again whose record is enabled. -/
theorem createUser_unlit {baseUrl : String} {uuid d : Int} {flow : String} {now : Time}
    (h : ∃ r,(s.xray baseUrl).get? uuid=some r ∧ r.deviceId=d ∧ r.enabled=true) :
    WithinAt unlit (xrayRequest baseUrl (UserStore.createUser uuid d flow now)) s := by
  let inv : Session → Prop := fun t =>
    ∃ r,(t.xray baseUrl).get? uuid=some r ∧ r.deviceId=d ∧ r.enabled=true
  have hbooks : Bookkeeping (unlit.and (Frame.preserving inv)) :=
    ⟨fun t => ⟨unlit_books.serial t,fun ht => ht⟩,fun t os => ⟨unlit_books.outcomes t os,fun ht => ht⟩⟩
  have hwithin : WithinAt (unlit.and (Frame.preserving inv))
      (xrayRequest baseUrl (UserStore.createUser uuid d flow now)) s := by
    apply xrayRequest_withinAt hbooks inv (fun ht hrel => hrel.2 ht) _ h
    rintro t ⟨r₀,h₀,hd,hon⟩
    constructor
    · have hdimmed : (dimming (fun _ => False) t.serial).rel t
          (setXray baseUrl (UserStore.createUser uuid d flow now (t.xray baseUrl)) t) := by
        apply setXray_dimmed
        intro k r _ hr
        rw [UserStore.get?_createUser] at hr
        by_cases hk : k=uuid
        · rw [if_pos hk] at hr
          cases hr
          exact ⟨r₀,by rw [hk]; exact h₀,hd,fun _ => hon⟩
        · rw [if_neg hk] at hr
          exact ⟨r,hr,rfl,id⟩
      exact (hdimmed le_rfl).1
    · intro _
      refine ⟨UserStore.created (t.xray baseUrl) uuid d flow now,?_,rfl,rfl⟩
      simp only [setXray,if_true]
      rw [UserStore.get?_createUser,if_pos rfl]
  exact hwithin.mono fun hrel => hrel.1

theorem enable_unlit (hs : Sound s.toWorld) (h : switches s.toWorld device .enable=false) :
    WithinAt unlit (enable device) s := by
  cases hproto : device.protocol with
  | wireguard =>
    have hreach : reaches s.toWorld s.now device .enable=false := by
      simpa only [switches,reaches,hproto] using h
    exact (enable_aloof hs.consistent hreach).mono unlit_of_aloof
  | vless =>
    refine WithinAt.bind ?_ fun _ t _ => alter_unlit _ t
    unfold enableTransport
    simp only [switches,hproto] at h ⊢
    refine WithinAt.reads_bind ?_
    cases hlist : s.db.credentialsOf device.id with
    | nil => exact unlit.refl s
    | cons c cs =>
      have hc : c∈s.db.credentialsOf device.id := by simp [hlist]
      obtain ⟨hmem,hcd⟩ := s.db.mem_credentialsOf.mp hc
      have hlone := mem_singleton_of_lone hs.consistent hmem
      rw [hcd,hlist] at hlone
      rw [hlone]
      refine WithinAt.bind ?_ fun _ t _ => unlit.refl t
      have hno := List.any_eq_false.mp h c hc
      unfold enableCredential
      by_cases hdis : c.status=.disabled
      · rw [if_pos hdis]
        refine WithinAt.still_bind (configForCredential_within c s) fun config hconfig => ?_
        have hfound := (configForCredential_ok hconfig).2
        cases config with
        | none => exact unlit.refl s
        | some config =>
          have hconnected : connected s.toWorld c=true := by simpa [hdis,hfound] using hno
          obtain ⟨r,hr,hon⟩ := (Option.any_eq_true _ _).mp hconnected
          obtain ⟨config',hconfig',hget⟩ := userRecord_some hr
          rw [hfound] at hconfig'
          cases hconfig'
          have hrd : r.deviceId=device.id := (hs.credentialOwner c hmem _ r hget).trans hcd
          refine WithinAt.reads_bind ?_
          exact (createUser_unlit ⟨r,hget,hrd,hon⟩).bind fun _ t _ => alter_unlit _ t
      · rw [if_neg hdis]
        exact unlit.refl s

/-- What enables something new has paid for it, or nothing is enabled. -/
theorem handle_unlit (cfg : Settings) {w : World} {env : Env} (hs : Sound w) {r : Request}
    (hr : r.opens=true) (h : r.switches w=false) : WithinAt unlit (handle cfg r) ⟨w,env⟩ := by
  cases r with
  | createDevice telegramId name requested protocol =>
    refine WithinAt.still_bind (currentUser_within telegramId _) fun user huser => ?_
    have hu := (currentUser_run.mp huser).1
    simp only [Request.switches,hu,Option.any_some] at h
    exact ((provision_aloof h).mono unlit_of_aloof).bind fun _ t _ => unlit.refl t
  | device telegramId d op =>
    refine WithinAt.still_bind (currentUser_within telegramId _) fun user huser => ?_
    have hu := (currentUser_run.mp huser).1
    refine WithinAt.still_bind (getOwned_within d user.id _) fun device hdevice => ?_
    have hd := (Eff.orRaise_ok.mp hdevice).1
    simp only [Request.switches,Database.owned,hu,Option.bind_some,hd,Option.any_some] at h
    cases op with
    | reissue => exact (reissue_unlit h).bind fun _ t _ => unlit.refl t
    | enable =>
      refine (enable_unlit hs h).bind fun _ t _ => ?_
      exact ((refreshed_within device).bind fun _ => Within.pure _ : Within unlit _) t
    | disable => cases hr
    | revoke => cases hr
    | createOrRotateLink => cases hr
    | getLink => cases hr
    | revokeLink => cases hr
    | getProfile => cases hr
    | refreshProfile => cases hr
  | billing r => cases hr
  | routing r => cases hr
  | servers r => cases hr
  | listDevices t => cases hr
  | fetchSubscription t => cases hr
  | sweep t => cases hr

variable {os : List Outcome}

/-- Enabling that has something new to enable does so although the call fails. -/
theorem enableTransport_switchedOn (hs : Sound s.toWorld)
    (hb : upcoming s.outcomes=(.broken,os)) (h : switches s.toWorld device .enable=true) :
    Fails (SwitchedOn device.id s.toWorld) (enableTransport device) s := by
  unfold switches at h
  unfold enableTransport
  cases hproto : device.protocol with
  | wireguard =>
    simp only [hproto,Option.any_eq_true] at h
    obtain ⟨r,hr,hoff⟩ := h
    obtain ⟨server,p,hserver,hp,hget⟩ := peerRecord_some hr
    obtain ⟨hmem,hpd,_⟩ := Database.activePeer_mem hp
    have hrd : r.deviceId=device.id := (hs.peerOwner p hmem _ r hget).trans hpd
    have hop : PeerStore.enablePeer p.publicKey (s.vpn server.agentBaseUrl)=
        some (PeerStore.setEnabled (s.vpn server.agentBaseUrl) p.publicKey true) := by
      unfold PeerStore.enablePeer
      rw [hget]
      rfl
    apply Fails.of_run (enablePeer_run hserver hp)
    refine ⟨_,_,vpnRequest_broken hb hop,Or.inl ⟨server.agentBaseUrl,p.publicKey,
      {r with enabled := true},?_,hrd,rfl,fun r₀ h₀ => ?_⟩⟩
    · simp only [setVpn,if_true]
      rw [PeerStore.get?_setEnabled,if_pos rfl,hget]
      rfl
    · have hsame : (s.vpn server.agentBaseUrl).get? p.publicKey=some r₀ := h₀
      rw [hget] at hsame
      cases hsame
      simpa using hoff
  | vless =>
    simp only [hproto] at h
    obtain ⟨c,hc,hrest⟩ := List.any_eq_true.mp h
    simp only [Bool.and_eq_true,decide_eq_true_eq,Bool.not_eq_true'] at hrest
    obtain ⟨⟨hdis,hsome⟩,hoff⟩ := hrest
    obtain ⟨config,hconfig⟩ := Option.isSome_iff_exists.mp hsome
    apply enableCredentials_fails hs.consistent hc hdis hconfig
    refine ⟨_,_,xrayRequest_broken hb,Or.inr ⟨config.xrayAgentBaseUrl,c.uuid,
      UserStore.created (s.xray config.xrayAgentBaseUrl) c.uuid device.id config.flow s.now,?_,
      rfl,rfl,fun r₀ h₀ => ?_⟩⟩
    · simp only [setXray,if_true]
      rw [UserStore.get?_createUser,if_pos rfl]
    · have hsame : (s.xray config.xrayAgentBaseUrl).get? c.uuid=some r₀ := h₀
      simpa [connected,userRecord,hconfig,hsame] using hoff

end

theorem handle_switchedOn (cfg : Settings) {w : World} (hw : Sound w) (now : Time) {r : Request}
    (h : r.switches w=true) : ∃ os,Fails (SwitchedOn (r.subject w) w) (handle cfg r)
      ⟨w,{quiet now with outcomes := os}⟩ := by
  cases r with
  | createDevice telegramId name requested protocol =>
    obtain ⟨user,huser,hprov⟩ := (Option.any_eq_true _ _).mp h
    obtain ⟨os,hfails⟩ := provision_appears (s := ⟨w,quiet now⟩) cfg hprov
    exact ⟨os,createDevice_fails huser (hfails.mono fun w' hw' => hw'.switchedOn hw)⟩
  | device telegramId d op =>
    obtain ⟨device,hown,hswitch⟩ := (Option.any_eq_true _ _).mp h
    have hfails : ∃ os,Fails (SwitchedOn device.id w) (handleDevice cfg device op)
        ⟨w,{quiet now with outcomes := os}⟩ := by
      cases op with
      | reissue =>
        simp only [switches,Bool.and_eq_true,decide_eq_true_eq,Option.any_eq_true] at hswitch
        obtain ⟨hproto,server,hserver,hcan⟩ := hswitch
        obtain ⟨os,hfails⟩ := reissue_appears (s := ⟨w,quiet now⟩) cfg hproto hserver hcan
        exact ⟨os,Fails.bind (hfails.mono fun w' hw' => hw'.switchedOn hw)⟩
      | enable =>
        have hfails := enableTransport_switchedOn (s := ⟨w,{quiet now with outcomes := [.broken]}⟩)
          hw rfl hswitch
        exact ⟨[.broken],hfails.bind.bind⟩
      | disable => cases hswitch
      | revoke => cases hswitch
      | createOrRotateLink => cases hswitch
      | getLink => cases hswitch
      | revokeLink => cases hswitch
      | getProfile => cases hswitch
      | refreshProfile => cases hswitch
    rw [owned_id hown] at hfails
    obtain ⟨os,hfails⟩ := hfails
    exact ⟨os,Fails.of_run (owned_run hown) hfails⟩
  | billing r => cases h
  | routing r => cases h
  | servers r => cases h
  | listDevices t => cases h
  | fetchSubscription t => cases h
  | sweep t => cases h

/-- An operation switches access on for paying users only, if and only if its user has paid or it
has nothing new to enable. -/
theorem access_paid_iff {cfg : Settings} {w : World} (hw : Reachable cfg w) (now : Time)
    {r : Request} (hr : r.opens=true) :
    (∀ env : Env,env.now=now → SwitchedOn (r.subject w) w (after cfg w ⟨env,r⟩) →
      r.paid w now=true) ↔ (r.paid w now=true ∨ r.switches w=false) := by
  have hs := reachable_sound hw
  constructor
  · intro honly
    by_cases hswitch : r.switches w=true
    · left
      obtain ⟨os,hfails⟩ := handle_switchedOn cfg hs now hswitch
      obtain ⟨_,w',hon,hafter⟩ := after_of_fails hfails
      apply honly {quiet now with outcomes := os} rfl
      rw [hafter]
      exact hon
    · right
      simpa using hswitch
  · rintro hcase env hnow hon
    rcases hcase with hpaid|hswitch
    · exact hpaid
    · obtain ⟨x,s,hrun,hvpn,hxray⟩ := after_agents cfg w ⟨env,r⟩
      have hunlit : Dimmed (fun _ => False) ⟨w,env⟩ s :=
        (handle_unlit cfg hs hr hswitch).rel_of_run hrun
      have hoff : ¬SwitchedOn (r.subject w) w s.toWorld := hunlit.not_switchedOn
      unfold SwitchedOn at hon hoff
      rw [hvpn,hxray] at hon
      exact absurd hon hoff

theorem access_paid_iff_opened :
    (∀ env : Env,env.now=3 →
      SwitchedOn 11 opened (after sampleSettings opened ⟨env,.device 77 11 .reissue⟩) →
        (Request.device 77 11 .reissue).paid opened 3=true) ↔
      ((Request.device 77 11 .reissue).paid opened 3=true ∨
        (Request.device 77 11 .reissue).switches opened=false) :=
  access_paid_iff opened_reachable 3 (r := .device 77 11 .reissue) rfl

/-- The user of the opened shop has cancelled the subscription. -/
def unsubscribed : World :=
  after sampleSettings opened (calm 3 (.billing (.cancelSubscription 77 8)))

/-- Without a subscription, a reissue gets the device a new peer. -/
theorem access_unpaid : ¬∀ (cfg : Settings) (w : World),Reachable cfg w → ∀ c : Call,
    c.request.opens=true → SwitchedOn (c.request.subject w) w (after cfg w c) →
      c.request.paid w c.env.now=true := by
  intro h
  have hreach : Reachable sampleSettings unsubscribed := opened_reachable.after _
  have hnew : ∃ r∈((after sampleSettings unsubscribed
      (calm 4 (.device 77 11 .reissue))).vpn "http://agent").rows,
      r.deviceId=11 ∧ r.enabled=true ∧
        (unsubscribed.vpn "http://agent").get? r.publicKey=none := by decide +kernel
  obtain ⟨r,hr,hd,hon,hnone⟩ := hnew
  have hswitched : SwitchedOn 11 unsubscribed
      (after sampleSettings unsubscribed (calm 4 (.device 77 11 .reissue))) := by
    refine Or.inl ⟨"http://agent",r.publicKey,r,Store.get?_of_mem _ hr,hd,hon,fun r₀ h₀ => ?_⟩
    rw [hnone] at h₀
    cases h₀
  have hpaid : (Request.device 77 11 .reissue).paid unsubscribed 4=true :=
    h sampleSettings unsubscribed hreach (calm 4 (.device 77 11 .reissue)) rfl hswitched
  have hunpaid : (Request.device 77 11 .reissue).paid unsubscribed 4=false := by decide +kernel
  rw [hunpaid] at hpaid
  cases hpaid

end VpnService.Backend
