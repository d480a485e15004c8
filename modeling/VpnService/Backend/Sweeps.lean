import VpnService.Backend.Renewal
import VpnService.Backend.Sparing

namespace VpnService.Backend

/-- Whether an active subscription of the user ends after `t`. -/
def Database.paidBeyond (db : Database) (userId : Id) (t : Time) : Bool :=
  (db.activeEnds userId).any fun x => t<x

/-- Device `d` keeps its row, its peers and credentials and its records at the agents. -/
structure StillServed (d : Device) (w w' : World) : Prop where
  device : w'.db.devices.get? d.id=some d
  peers : ∀ p∈w.db.vpnPeers.rows,p.deviceId=d.id → p∈w'.db.vpnPeers.rows
  credentials : ∀ c∈w.db.vlessCredentials.rows,c.deviceId=d.id → c∈w'.db.vlessCredentials.rows
  vpn : ∀ url r,r∈(w.vpn url).rows → r.deviceId=d.id → r∈(w'.vpn url).rows
  xray : ∀ url r,r∈(w.xray url).rows → r.deviceId=d.id → r∈(w'.xray url).rows

/-- The active devices of users who have paid beyond `asOf` go on being served. -/
def PayingServed (asOf : Time) (w w' : World) : Prop :=
  ∀ d∈w.db.devices.rows,d.status=.active → w.db.paidBeyond d.userId asOf=true →
    StillServed d w w'

/-- A user with an active device has a subscription that is due and one that is paid beyond. -/
def Overlapping (asOf : Time) (db : Database) : Prop :=
  ∃ x∈db.listExpired asOf,db.paidBeyond x.userId asOf=true ∧
    ∃ d∈db.devices.rows,d.userId=x.userId ∧ d.status=.active

/-- No device of the user is active. -/
def Database.Idle (db : Database) (userId : Id) : Prop :=
  ∀ d∈db.devices.rows,d.userId=userId → d.status≠.active

/-- Devices keep their owners, and none becomes active. -/
def quieting : Frame Session where
  rel s t := ∀ d∈t.db.devices.rows,∃ e∈s.db.devices.rows,e.id=d.id ∧ e.userId=d.userId ∧
    (d.status=.active → e.status=.active)
  refl _ d hd := ⟨d,hd,rfl,rfl,fun h => h⟩
  trans h k := fun d hd => by
    obtain ⟨e,he,hid,huser,hact⟩ := k d hd
    obtain ⟨f,hf,hid',huser',hact'⟩ := h e he
    exact ⟨f,hf,hid'.trans hid,huser'.trans huser,fun hd => hact' (hact hd)⟩

theorem quieting_of_devices {s t : Session} (h : t.db.devices=s.db.devices) :
    quieting.rel s t := by
  intro d hd
  rw [h] at hd
  exact ⟨d,hd,rfl,rfl,fun h => h⟩

theorem Database.Idle.of_quieted {s t : Session} {userId : Id} (h : s.db.Idle userId)
    (hq : quieting.rel s t) : t.db.Idle userId := by
  intro d hd huser hact
  obtain ⟨e,he,_,heuser,heact⟩ := hq d hd
  exact h e he (heuser.trans huser) (heact hact)

theorem setDeviceStatus_quieting (deviceId : Id) {status : DeviceStatus}
    (hs : status≠.active) : Within quieting (setDeviceStatus deviceId status) := by
  intro s d hd
  have hkey : ∀ r : Device,({r with status := status} : Device).id=r.id := fun _ => rfl
  rcases (Store.mem_modify hkey).mp hd with ⟨e,he,_,heq⟩|⟨hd,_⟩
  · refine ⟨e,he,?_,?_,fun hact => ?_⟩
    · rw [heq]
    · rw [heq]
    · rw [heq] at hact
      exact absurd hact hs
  · exact ⟨d,hd,rfl,rfl,fun h => h⟩

theorem quieting_of_equipment {s t : Session} (h : equipmentFrame.rel s t) :
    quieting.rel s t := by
  have hdb : t.db.unequipped=s.db.unequipped := congrArg Prod.fst h.1
  exact quieting_of_devices (congrArg Database.devices hdb :)

theorem disable_quieting (device : Device) : Within quieting (disable device) :=
  ((disableTransport_equipment device).mono quieting_of_equipment).bind fun _ =>
    setDeviceStatus_quieting _ (by decide)

theorem quieting_of_audit {s t : Session} (h : auditFrame.rel s t) : quieting.rel s t := by
  obtain ⟨hview,_⟩ := fleet_of_core (core_of_audit h)
  simp only [fleetView,Prod.mk.injEq] at hview
  exact quieting_of_devices hview.2.2.1

theorem processOne_quieting (x : Subscription) : Within quieting (processOne x) :=
  processOne_within quieting_of_audit x (alter_within fun _ => quieting_of_devices rfl)
    disable_quieting

/-- A device that was disabled is not active. -/
theorem disable_ok {device : Device} {s t : Session} (h : disable device s=(.ok (),t)) :
    ∀ d∈t.db.devices.rows,d.id=device.id → d.status=.disabled := by
  obtain ⟨_,u,_,h⟩ := Eff.bind_ok.mp h
  cases h
  have hkey : ∀ r : Device,({r with status := .disabled} : Device).id=r.id := fun _ => rfl
  intro d hd hid
  rcases (Store.mem_modify hkey).mp hd with ⟨e,_,_,heq⟩|⟨_,hne⟩
  · rw [heq]
  · exact absurd hid hne

theorem disableAllForUser_ok {userId : Id} {s t : Session}
    (h : disableAllForUser userId s=(.ok (),t)) : t.db.Idle userId := by
  have hquiet : quieting.rel s t := (disableAllForUser_within disable_quieting userId s).rel_of_run h
  unfold disableAllForUser at h
  rw [getDb_bind_run] at h
  have hround : ∀ x∈s.db.devicesOf userId,x.status=.active →
      ∀ d∈t.db.devices.rows,d.id=x.id → d.status≠.active := by
    apply Eff.each_establishes (P := fun x u => x.status=.active →
      ∀ d∈u.db.devices.rows,d.id=x.id → d.status≠.active) _ _ h
    · intro x _ u v hx hact d hd hid hactive
      unfold disableIfActive at hx
      rw [if_pos hact] at hx
      rw [disable_ok hx d hd hid] at hactive
      cases hactive
    · intro x _ y _ u v hy hx hact d hd hid hactive
      have hkeep : Within quieting (disableIfActive y) :=
        Within.ite (disable_quieting y) (Within.pure _)
      obtain ⟨e,he,heid,_,heact⟩ := (hkeep u).rel_of_run hy d hd
      exact hx hact e he (heid.trans hid) (heact hactive)
  intro d hd huser hact
  obtain ⟨e,he,heid,heuser,heact⟩ := hquiet d hd
  have hact' := heact hact
  have hmem : e∈s.db.devicesOf userId := by
    apply s.db.mem_devicesOf.mpr
    refine ⟨he,heuser.trans huser,?_⟩
    rw [hact']
    decide
  exact hround e hmem hact' d hd heid.symm hact

theorem processOne_ok {subscription : Subscription} {s t : Session}
    (h : processOne subscription s=(.ok (),t)) : t.db.Idle subscription.userId := by
  unfold processOne at h
  rw [getDb_bind_run] at h
  obtain ⟨plan,_,h⟩ := Eff.orRaise_bind_ok.mp h
  obtain ⟨user,_,h⟩ := Eff.orRaise_bind_ok.mp h
  obtain ⟨_,u,_,h⟩ := Eff.bind_ok.mp h
  obtain ⟨_,v,hv,h⟩ := Eff.bind_ok.mp h
  have hidle := disableAllForUser_ok hv
  have hnotify : Within quieting (notify user.telegramId plan.name) :=
    Within.change fun _ => quieting_of_devices rfl
  have hrest : Within quieting (do
      recordAudit none "subscription.expired" "subscription" (some subscription.id)
        [("user_id",toString subscription.userId),("plan",plan.name)]
      notify user.telegramId plan.name) :=
    ((audit_written _ _ _ _ _).mono quieting_of_audit).bind fun _ => hnotify
  exact hidle.of_quieted ((hrest v).rel_of_run h)

/-- A completed sweep leaves no active device to the owner of a subscription that was due. -/
theorem runOnce_idle {asOf : Option Time} {s t : Session} {ids : List Id}
    (h : runOnce asOf s=(.ok ids,t)) :
    ∀ x∈s.db.listExpired (asOf.getD s.now),t.db.Idle x.userId := by
  unfold runOnce at h
  rw [getNow_bind_run,getDb_bind_run] at h
  obtain ⟨_,u,hu,h⟩ := Eff.bind_ok.mp h
  cases h
  apply Eff.each_establishes (P := fun (x : Subscription) v => v.db.Idle x.userId) _ _ hu
  · exact fun x _ v v' hx => processOne_ok hx
  · exact fun x _ y _ v v' hy hx => hx.of_quieted ((processOne_quieting y v).rel_of_run hy)

/-- Whatever becomes of a sweep, it leaves alone the device of an owner who has nothing due. -/
theorem sweep_serves {cfg : Settings} {w : World} (hw : Sound w) {d : Device}
    (hd : d∈w.db.devices.rows) (env : Env) (asOf : Option Time)
    (hnone : ∀ x∈w.db.listExpired (asOf.getD env.now),x.userId≠d.userId) :
    StillServed d w (after cfg w ⟨env,.sweep asOf⟩) := by
  -- the keys under which the agents have records of the device
  let K : Int → Prop := fun k => ∃ url r,(w.vpn url).get? k=some r ∧ r.deviceId=d.id
  let U : Int → Prop := fun k => ∃ url r,(w.xray url).get? k=some r ∧ r.deviceId=d.id
  let I : Id → Prop := fun k => ∃ c∈w.db.vlessCredentials.rows,c.id=k ∧ c.deviceId=d.id
  have hapart : Apart d K U I ⟨w,env⟩ := by
    refine ⟨w.db.devices.get?_of_mem hd,fun p hp hK => ?_,fun c hc hU => ?_,fun c hc => ?_⟩
    · obtain ⟨url,r,hr,hrd⟩ := hK
      exact (hw.peerOwner p hp url r hr).symm.trans hrd
    · obtain ⟨url,r,hr,hrd⟩ := hU
      exact (hw.credentialOwner c hc url r hr).symm.trans hrd
    · constructor
      · rintro ⟨x,hx,hid,hxd⟩
        rw [← Store.eq_of_key hx hc hid]
        exact hxd
      · exact fun hcd => ⟨c,hc,rfl,hcd⟩
  have hspared : ∀ x s,handle cfg (.sweep asOf) ⟨w,env⟩=(x,s) → Spared d K U ⟨w,env⟩ s := by
    intro x s hm
    have hwithin : WithinAt (sparing d K U I) (handle cfg (.sweep asOf)) ⟨w,env⟩ :=
      (runOnce_sparing hnone).bind fun _ t _ => Within.pure _ t
    exact (hwithin.rel_of_run hm hapart).2
  have hagents : ∀ s : Session,Spared d K U ⟨w,env⟩ s →
      (∀ url r,r∈(w.vpn url).rows → r.deviceId=d.id → r∈(s.vpn url).rows) ∧
      ∀ url r,r∈(w.xray url).rows → r.deviceId=d.id → r∈(s.xray url).rows := by
    intro s hs
    constructor
    · intro url r hr hrd
      have hget := (w.vpn url).get?_of_mem hr
      have hsame := hs.vpn url r.publicKey ⟨url,r,hget,hrd⟩
      exact Store.mem_of_get? (hsame.trans hget)
    · intro url r hr hrd
      have hget := (w.xray url).get?_of_mem hr
      have hsame := hs.xray url r.uuid ⟨url,r,hget,hrd⟩
      exact Store.mem_of_get? (hsame.trans hget)
  unfold after
  rcases serve_cases cfg env (.sweep asOf) w with ⟨a,s,hm,hserve⟩|⟨x,e,s,hm,hserve⟩
  · have hs := hspared _ s hm
    obtain ⟨hvpn,hxray⟩ := hagents s hs
    rw [hserve]
    refine ⟨hs.device.trans hapart.device,fun p hp _ => ?_,fun c hc hcd => ?_,hvpn,hxray⟩
    · have hpeers : s.db.vpnPeers=w.db.vpnPeers := hs.peers
      rw [hpeers]
      exact hp
    · exact (hs.credentials c hcd).mpr hc
  · obtain ⟨hvpn,hxray⟩ := hagents s (hspared x s hm)
    rw [hserve]
    exact ⟨w.db.devices.get?_of_mem hd,fun p hp _ => hp,fun c hc _ => hc,hvpn,hxray⟩

/-- A sweep serves the paying users on if, and once it completes only if, none of them has, besides
what is paid beyond `as_of`, a subscription that is due and an active device. -/
theorem sweep_serves_iff {cfg : Settings} {w : World} (hw : Reachable cfg w) (env : Env)
    (asOf : Option Time) :
    (¬Overlapping (asOf.getD env.now) w.db →
      PayingServed (asOf.getD env.now) w (after cfg w ⟨env,.sweep asOf⟩)) ∧
    (answered cfg w ⟨env,.sweep asOf⟩=true →
      PayingServed (asOf.getD env.now) w (after cfg w ⟨env,.sweep asOf⟩) →
      ¬Overlapping (asOf.getD env.now) w.db) := by
  constructor
  · intro hnone d hd hact hpaid
    apply sweep_serves (reachable_sound hw) hd
    intro x hx huser
    exact hnone ⟨x,hx,by rw [huser]; exact hpaid,d,hd,huser.symm,hact⟩
  · rintro hdone hserved ⟨x,hx,hpaid,d,hd,huser,hact⟩
    have hkept := hserved d hd hact (by rw [huser]; exact hpaid)
    unfold answered at hdone
    unfold after at hkept
    rcases serve_cases cfg env (.sweep asOf) w with ⟨a,s,hm,hserve⟩|⟨r,e,s,_,hserve⟩
    · rw [hserve] at hkept
      obtain ⟨ids,u,hu,hm⟩ := Eff.bind_ok.mp hm
      cases hm
      have hidle := runOnce_idle hu x hx
      exact hidle d (Store.mem_of_get? hkept.device) huser hact
    · rw [hserve] at hdone
      cases hdone

theorem opened_undisturbed : ¬Overlapping 5 opened.db := by
  have hempty : opened.db.listExpired 5=[] := by decide +kernel
  rintro ⟨x,hx,_⟩
  rw [hempty] at hx
  cases hx

theorem sweep_serves_iff_opened :
    PayingServed 5 opened (after sampleSettings opened ⟨quiet 5,.sweep (some 5)⟩) :=
  (sweep_serves_iff opened_reachable (quiet 5) (some 5)).1 opened_undisturbed

/-- The user of the opened shop has bought and paid for a second month. -/
def renewed : World :=
  [calm 3 (.billing (.createPayment 77 2 none)),calm 4 (delivery 20 .succeeded)].foldl
    (after sampleSettings) opened

/-- The first month ends while the second goes on, and the sweep disables the device. -/
theorem sweep_cuts_off : ¬∀ (cfg : Settings) (w : World),Reachable cfg w →
    ∀ env asOf,answered cfg w ⟨env,.sweep asOf⟩=true →
      PayingServed (asOf.getD env.now) w (after cfg w ⟨env,.sweep asOf⟩) := by
  intro h
  have hdone : answered sampleSettings renewed ⟨quiet 0,.sweep (some (2+days 30))⟩=true := by
    decide +kernel
  have hserved : PayingServed (2+days 30) renewed
      (after sampleSettings renewed ⟨quiet 0,.sweep (some (2+days 30))⟩) :=
    h sampleSettings renewed (opened_reachable.run _) (quiet 0) (some (2+days 30)) hdone
  have hcut : ∃ d∈renewed.db.devices.rows,d.status=.active ∧
      renewed.db.paidBeyond d.userId (2+days 30)=true ∧
      (after sampleSettings renewed ⟨quiet 0,.sweep (some (2+days 30))⟩).db.devices.get? d.id≠
        some d := by decide +kernel
  obtain ⟨d,hd,hact,hpaid,hoff⟩ := hcut
  exact hoff (hserved d hd hact hpaid).device

end VpnService.Backend
