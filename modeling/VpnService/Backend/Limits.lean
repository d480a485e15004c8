import VpnService.Backend.Reaching
import VpnService.Backend.Sweeps
import Mathlib.Data.List.Perm.Subperm

namespace VpnService.Backend

/-- The limit a subscription sets: the override, also 0, or else that of the plan. -/
def Subscription.limit (x : Subscription) (plan : Plan) : Int :=
  x.deviceLimitOverride.getD plan.maxDevices

/-- The limit of the user's current subscription. -/
def Database.limitOf (db : Database) (userId : Id) : Option Int := do
  let x ← db.activeSubscription userId
  let plan ← db.plans.get? x.planId
  pure (x.limit plan)

/-- Whoever gets more active devices has at most as many as the current subscription allows. -/
def LimitKept (w w' : World) : Prop :=
  ∀ userId,w.db.countActiveDevices userId<w'.db.countActiveDevices userId →
    ∃ n,w'.db.limitOf userId=some n ∧ w'.db.countActiveDevices userId≤n

/-- Whether there is room under the limit for one more active device. -/
def Database.hasRoom (db : Database) (userId : Id) : Bool :=
  (db.limitOf userId).any fun n => db.countActiveDevices userId<n

/-- Whether an answer to the request keeps the limit. -/
def Request.limited (db : Database) : Request → Bool
  | .createDevice telegramId _ _ _ => (db.userByTelegramId telegramId).all fun user =>
    (db.activeSubscription user.id).all fun x => x.deviceLimitOverride≠some 0
  | .device telegramId deviceId .enable => (db.owned telegramId deviceId).all fun d =>
    d.status=.active || db.hasRoom d.userId
  | _ => true

/-- The number of the user's active devices in the table. -/
def activeIn (devices : Store Device.id) (userId : Id) : Nat :=
  (devices.rows.filter fun d => d.userId=userId ∧ d.status=.active).length

theorem countActive_eq (db : Database) (userId : Id) :
    db.countActiveDevices userId=activeIn db.devices userId := rfl

section

variable {devices : Store Device.id} {userId : Id}

theorem activeIn_insert {d : Device} (h : ∀ x∈devices.rows,x.id≠d.id) :
    activeIn (devices.insert d) userId=
      activeIn devices userId+if d.userId=userId ∧ d.status=.active then 1 else 0 := by
  unfold activeIn
  rw [Store.rows_insert devices d h,List.filter_append,List.length_append]
  by_cases hd : d.userId=userId ∧ d.status=.active
  · simp [hd]
  · simp [hd]

/-- A change of other columns. -/
theorem activeIn_modify {k : Id} {f : Device → Device} (hf : ∀ d,(f d).id=d.id)
    (h : ∀ d,(f d).userId=d.userId ∧ (f d).status=d.status) :
    activeIn (devices.modify k f hf) userId=activeIn devices userId := by
  unfold activeIn
  rw [Store.rows_modify,List.filter_map,List.length_map]
  congr 1
  apply List.filter_congr
  intro d _
  by_cases hk : d.id=k
  · simp [hk,h]
  · simp [hk]

/-- An inactive device that becomes active is one more. -/
theorem activeIn_enable {d : Device} (hd : d∈devices.rows) (hs : d.status≠.active) :
    activeIn (devices.modify d.id (fun d => {d with status := .active}) fun _ => rfl) d.userId=
      activeIn devices d.userId+1 := by
  have hcount := devices.countP_modify hd (fun d => {d with status := .active}) (fun _ => rfl)
    fun x => x.userId=d.userId ∧ x.status=.active
  unfold activeIn
  rw [← List.countP_eq_length_filter,← List.countP_eq_length_filter]
  simpa [hs] using hcount

end

section

variable {s t : Session}

/-- Where no device becomes active, nobody gets more of them. -/
theorem countActive_le (h : quieting.rel s t) (userId : Id) :
    t.db.countActiveDevices userId≤ s.db.countActiveDevices userId := by
  have hsub : ((t.db.devices.rows.filter fun d => d.userId=userId ∧ d.status=.active).map
      Device.id)⊆(s.db.devices.rows.filter fun d => d.userId=userId ∧ d.status=.active).map
      Device.id := by
    intro k hk
    obtain ⟨d,hd,hdk⟩ := List.mem_map.mp hk
    obtain ⟨hmem,hq⟩ := List.mem_filter.mp hd
    obtain ⟨e,he,hid,huser,hact⟩ := h d hmem
    have hq : d.userId=userId ∧ d.status=.active := of_decide_eq_true hq
    refine List.mem_map.mpr ⟨e,List.mem_filter.mpr ⟨he,?_⟩,hid.trans hdk⟩
    exact decide_eq_true ⟨huser.trans hq.1,hact hq.2⟩
  have hnodup : ((t.db.devices.rows.filter fun d => d.userId=userId ∧ d.status=.active).map
      Device.id).Nodup := t.db.devices.nodup.sublist (List.filter_sublist.map _)
  have hlen := (List.subperm_of_subset hnodup hsub).length_le
  rw [List.length_map,List.length_map] at hlen
  exact Int.ofNat_le.mpr hlen

theorem quieting_of_fleet (h : fleetFrame.rel s t) : quieting.rel s t := by
  have hview := h.1
  simp only [fleetView,Prod.mk.injEq] at hview
  exact quieting_of_devices hview.2.2.1

theorem quieting_of_hardware (h : hardwareFrame.rel s t) : quieting.rel s t := by
  have hview := h.1
  simp only [hardwareView,Prod.mk.injEq] at hview
  exact quieting_of_devices hview.2.2.1

theorem quieting_of_administered (h : Administered s t) : quieting.rel s t := by
  intro d hd
  have hcore := h.devices d.id
  rw [t.db.devices.get?_of_mem hd] at hcore
  obtain ⟨e,he,hde⟩ := Option.map_eq_some_iff.mp hcore.symm
  simp only [Device.core,Prod.mk.injEq] at hde
  exact ⟨e,Store.mem_of_get? he,Store.key_of_get? he,hde.1,fun h => hde.2.1.trans h⟩

end

theorem updateDevice_quieting (k : Id) {f : Device → Device} (hf : ∀ d,(f d).id=d.id)
    (h : ∀ d,(f d).userId=d.userId ∧ (f d).status=d.status) :
    Within quieting (updateDevice k f hf) := by
  intro s d hd
  rcases (Store.mem_modify hf).mp hd with ⟨e,he,_,heq⟩|⟨hd,_⟩
  · refine ⟨e,he,?_,?_,fun hact => ?_⟩
    · rw [heq,hf]
    · rw [heq,(h e).1]
    · rw [heq,(h e).2] at hact
      exact hact
  · exact ⟨d,hd,rfl,rfl,fun h => h⟩

theorem revoke_quieting (device : Device) : Within quieting (revoke device) :=
  ((revokeTransport_equipment device).mono quieting_of_equipment).bind fun _ =>
    setDeviceStatus_quieting _ (by decide)

theorem reissue_quieting (cfg : Settings) (device : Device) :
    Within quieting (reissue cfg device) := by
  refine (Within.require _ _).bind fun _ => (serverOfDevice_within device).bind fun server => ?_
  refine Within.bind ?_ fun _ => Within.bind ?_ fun created => Within.bind ?_ fun _ => ?_
  · exact (withActivePeer_within _ fun p => retirePeer_equipment server p).mono
      quieting_of_equipment
  · exact (createPeerAttempts_equipment cfg device.id server 5).mono quieting_of_equipment
  · exact updateDevice_quieting _ _ fun _ => ⟨rfl,rfl⟩
  · refine Within.bind ?_ fun _ => (generateQrCode_within _).bind fun _ =>
      (refreshed_within _).bind fun _ => Within.pure _
    exact (regenerateProfile_core cfg _ _).mono fun h => quieting_of_fleet (fleet_of_core h)

theorem handleDevice_quieting (cfg : Settings) (device : Device) (r : DeviceRequest)
    (hr : r≠.enable) : Within quieting (handleDevice cfg device r) := by
  have hanswer : Within quieting (answerDevice device) :=
    (refreshed_within device).bind fun _ => Within.pure _
  cases r with
  | reissue => exact (reissue_quieting cfg device).bind fun _ => Within.pure _
  | disable => exact (disable_quieting device).bind fun _ => hanswer
  | enable => exact absurd rfl hr
  | revoke => exact (revoke_quieting device).bind fun _ => hanswer
  | createOrRotateLink =>
    exact ((createOrRotate_hardware device.id).mono quieting_of_hardware).bind fun _ =>
      (generateQrCode_within _).bind fun _ => Within.pure _
  | getLink => exact (getLink_within device.id).bind fun _ => Within.pure _
  | revokeLink =>
    refine (getLink_within device.id).bind fun link => Within.bind ?_ fun _ => answerLink_within _
    exact getNow_within.bind fun _ => alter_within fun _ => quieting_of_devices rfl
  | getProfile =>
    have hread : Within quieting (getDeviceProfile device.id) := getDb_within.bind fun _ =>
      (currentProfile_within _).bind fun _ => Within.orRaise _ _
    exact hread.bind fun _ => Within.pure _
  | refreshProfile =>
    refine Within.bind ?_ fun _ => Within.pure _
    exact (regenerateProfile_core cfg _ _).mono fun h => quieting_of_fleet (fleet_of_core h)

/-- Only a new device and an enabled one become active. -/
def Request.lights : Request → Bool
  | .createDevice .. => true
  | .device _ _ r => r=.enable
  | _ => false

theorem handle_quieting (cfg : Settings) {r : Request} (hr : r.lights=false) :
    Within quieting (handle cfg r) := by
  cases r with
  | billing r => exact (handleBilling_fleet cfg r).mono quieting_of_fleet
  | routing r => exact (handleRouting_core _ r).mono fun h => quieting_of_fleet (fleet_of_core h)
  | servers r => exact (handleServers_administering r).mono quieting_of_administered
  | listDevices telegramId =>
    exact (currentUser_within telegramId).bind fun _ => getDb_within.bind fun _ => Within.pure _
  | createDevice telegramId name serverId protocol => cases hr
  | device telegramId deviceId r =>
    refine (currentUser_within telegramId).bind fun user =>
      (getOwned_within deviceId user.id).bind fun device => ?_
    exact handleDevice_quieting cfg device r (of_decide_eq_false hr)
  | fetchSubscription token =>
    exact ((deliver_hardware token).mono quieting_of_hardware).bind fun _ => Within.pure _
  | sweep asOf =>
    have hsweep : Within quieting (runOnce asOf) := runOnce_within quieting_of_audit
      (fun _ => alter_within fun _ => quieting_of_devices rfl) disable_quieting asOf
    exact hsweep.bind fun _ => Within.pure _

section

variable {s t : Session}

theorem limitOf_congr {a b : Database} (h : b.billing=a.billing) (userId : Id) :
    b.limitOf userId=a.limitOf userId := by
  simp only [Database.billing,Prod.mk.injEq] at h
  unfold Database.limitOf Database.activeSubscription Database.activeSubscriptions
  rw [h.2.1,h.2.2.1]

theorem limitVerdict_ok {db : Database} {userId : Id} (h : limitVerdict db userId=.ok ()) :
    ∃ x plan,db.activeSubscription userId=some x ∧ db.plans.get? x.planId=some plan ∧
      db.countActiveDevices userId<deviceLimit x plan := by
  unfold limitVerdict at h
  cases hx : db.activeSubscription userId with
  | none =>
    rw [hx] at h
    cases h
  | some x =>
    cases hplan : db.plans.get? x.planId with
    | none =>
      simp only [hx,hplan] at h
      cases h
    | some plan =>
      simp only [hx,hplan] at h
      split_ifs at h with hcount
      exact ⟨x,plan,rfl,hplan,Int.not_le.mp hcount⟩

/-- The two limits differ for the override 0 alone. -/
theorem deviceLimit_eq {x : Subscription} (plan : Plan) (h : x.deviceLimitOverride≠some 0) :
    deviceLimit x plan=x.limit plan := by
  unfold deviceLimit Subscription.limit
  cases ho : x.deviceLimitOverride with
  | none => rfl
  | some n =>
    have hn : n≠0 := fun he => h (by rw [ho,he])
    rw [Option.filter_some_pos (by simpa using hn)]

theorem provision_active {cfg : Settings} {user : User} {name : String} {requested : Option Id}
    {protocol : VpnProtocol} {r : ProvisionedDevice} (hs : Sound s.toWorld)
    (h : provision cfg user name requested protocol s=(.ok r,t)) :
    limitVerdict s.db user.id=.ok () ∧ t.db.billing=s.db.billing ∧
      ∀ k,t.db.countActiveDevices k=s.db.countActiveDevices k+if user.id=k then 1 else 0 := by
  have hfresh : ∀ x∈s.db.devices.rows,x.id≠s.serial := by
    intro x hx he
    have hlt := hs.consistent.devices x hx
    rw [he] at hlt
    exact lt_irrefl _ hlt
  have hbilling := ((provision_touching cfg user name requested protocol
    (hs.covers s.serial)).rel_of_run h (Scope.of_fits s.serial s)).db.billing
  have hverdict : limitVerdict s.db user.id=.ok () := by
    obtain ⟨_,u,hu,_⟩ := Eff.bind_ok.mp h
    exact (enforceDeviceLimit_ok hu).2
  refine ⟨hverdict,hbilling,fun k => ?_⟩
  have hcount : activeIn t.db.devices k=activeIn s.db.devices k+if user.id=k then 1 else 0 := by
    cases protocol with
    | vless =>
      obtain ⟨_,u,hu,hrest⟩ := Eff.bind_ok.mp h
      obtain ⟨hsu,_⟩ := enforceDeviceLimit_ok hu
      subst hsu
      obtain ⟨_,server,config,v,id,_,_,hv,_,_,ht⟩ := provisionVless_ok hrest
      have htd : t.db.devices=s.db.devices.insert
          (freshDevice s.serial user.id name (some server.id) .vless) := by
        have hview := hv.1
        simp only [hardwareView,Prod.mk.injEq] at hview ht
        exact ht.2.2.1.trans hview.2.2.1
      rw [htd,activeIn_insert hfresh]
      simp [freshDevice]
    | wireguard =>
      obtain ⟨_,_,server,u,v,p,_,hu,hpeer,ht⟩ := provisionWireguard_ok h
      have hud : u.db.devices=s.db.devices.insert
          (freshDevice s.serial user.id name none .wireguard) := by
        have hview := hu.1
        simp only [hardwareView,Prod.mk.injEq] at hview
        exact hview.2.2.1
      have hvd : v.db.devices=u.db.devices := by rw [hpeer.db]
      have htd : t.db.devices=v.db.devices.modify s.serial (withServer p server) fun _ => rfl := by
        have hview := ht.1
        simp only [hardwareView,Prod.mk.injEq] at hview
        exact hview.2.2.1
      have hkept : activeIn t.db.devices k=activeIn v.db.devices k := by
        rw [htd]
        exact activeIn_modify (f := withServer p server) (fun _ => rfl) fun _ => ⟨rfl,rfl⟩
      rw [hkept,hvd,hud,activeIn_insert hfresh]
      simp [freshDevice]
  rw [countActive_eq,countActive_eq,hcount]
  split_ifs <;> simp

theorem enable_active {device : Device} (h : enable device s=(.ok (),t)) :
    t.db.billing=s.db.billing ∧ t.db.devices=
      s.db.devices.modify device.id (fun d => {d with status := .active}) fun _ => rfl := by
  have hbilling := (billing_of_contract
    (contract_of_hosting ((enable_hosting device s).rel_of_run h))).1
  obtain ⟨_,u,hu,hlast⟩ := Eff.bind_ok.mp h
  have hdb : u.db.unequipped=s.db.unequipped :=
    congrArg Prod.fst ((enableTransport_equipment device s).rel_of_run hu).1
  have hdevices : u.db.devices=s.db.devices := (congrArg Database.devices hdb :)
  cases hlast
  refine ⟨hbilling,?_⟩
  rw [← hdevices]

/-- Enabling an active device changes nobody's number, enabling another one that of its owner. -/
theorem enable_count {device : Device} (hd : s.db.devices.get? device.id=some device)
    (h : enable device s=(.ok (),t)) (k : Id) : t.db.countActiveDevices k=
      s.db.countActiveDevices k+if device.userId=k ∧ device.status≠.active then 1 else 0 := by
  have hmem := Store.mem_of_get? hd
  rw [countActive_eq,countActive_eq,(enable_active h).2]
  by_cases hact : device.status=.active
  · rw [Store.modify_same]
    · simp [hact]
    · intro r hr
      rw [hd] at hr
      cases hr
      rw [← hact]
  · by_cases hk : device.userId=k
    · rw [← hk,activeIn_enable hmem hact]
      simp [hact]
    · have hsame : activeIn (s.db.devices.modify device.id (fun d => {d with status := .active})
          fun _ => rfl) k=activeIn s.db.devices k := by
        unfold activeIn
        rw [Store.rows_modify,List.filter_map,List.length_map]
        congr 1
        apply List.filter_congr
        intro d hdm
        by_cases hid : d.id=device.id
        · have he : d=device := Store.eq_of_key hdm hmem hid
          simp [he,hk]
        · simp [hid]
      rw [hsame]
      simp [hk]

end

section

variable {cfg : Settings} {w : World}

theorem limitKept_of_equal {w' : World} (h : ∀ k,w'.db.countActiveDevices k≤
    w.db.countActiveDevices k) : LimitKept w w' :=
  fun k hk => absurd (h k) (not_le.mpr hk)

/-- An answered request for a new device keeps the limit just when the override is not 0. -/
theorem provision_limit {user : User} {name : String} {requested : Option Id}
    {protocol : VpnProtocol} {s t : Session} {r : ProvisionedDevice} (hs : Sound s.toWorld)
    (h : provision cfg user name requested protocol s=(.ok r,t)) :
    LimitKept s.toWorld t.toWorld ↔
      (s.db.activeSubscription user.id).all (fun x => x.deviceLimitOverride≠some 0)=true := by
  obtain ⟨hverdict,hbilling,hcount⟩ := provision_active hs h
  obtain ⟨x,plan,hx,hplan,hlt⟩ := limitVerdict_ok hverdict
  have hlimit : t.db.limitOf user.id=some (x.limit plan) := by
    rw [limitOf_congr hbilling]
    unfold Database.limitOf
    rw [hx]
    show (s.db.plans.get? x.planId).bind (fun plan => some (x.limit plan))=_
    rw [hplan]
    rfl
  have hone : t.db.countActiveDevices user.id=s.db.countActiveDevices user.id+1 := by
    rw [hcount,if_pos rfl]
  have hpos : 0≤ s.db.countActiveDevices user.id := Int.natCast_nonneg _
  rw [hx,Option.all_some,decide_eq_true_eq]
  constructor
  · intro hkept hzero
    obtain ⟨n,hn,hle⟩ := hkept user.id (by rw [hone]; exact Int.lt_succ _)
    rw [hlimit] at hn
    cases hn
    rw [hone,Subscription.limit,hzero,Option.getD_some] at hle
    omega
  · intro hne k hk
    have hk : user.id=k := by
      by_contra hother
      rw [hcount,if_neg hother,add_zero] at hk
      exact lt_irrefl _ hk
    subst hk
    refine ⟨x.limit plan,hlimit,?_⟩
    rw [hone,← deviceLimit_eq plan hne]
    omega

/-- An answered request to enable a device keeps the limit just when the device was active or there
is room for one more. -/
theorem enable_limit {device : Device} {s t : Session}
    (hd : s.db.devices.get? device.id=some device) (h : enable device s=(.ok (),t)) :
    LimitKept s.toWorld t.toWorld ↔
      (device.status=.active || s.db.hasRoom device.userId)=true := by
  have hcount := enable_count hd h
  rw [Bool.or_eq_true,decide_eq_true_eq]
  by_cases hact : device.status=.active
  · refine iff_of_true (limitKept_of_equal fun k => ?_) (Or.inl hact)
    rw [hcount]
    simp [hact]
  · have hone : t.db.countActiveDevices device.userId=
        s.db.countActiveDevices device.userId+1 := by
      rw [hcount]
      simp [hact]
    have hlimit := limitOf_congr (enable_active h).1 device.userId
    unfold Database.hasRoom
    rw [Option.any_eq_true]
    constructor
    · intro hkept
      obtain ⟨n,hn,hle⟩ := hkept device.userId (by rw [hone]; exact Int.lt_succ _)
      rw [hlimit] at hn
      rw [hone] at hle
      exact Or.inr ⟨n,hn,decide_eq_true (by omega)⟩
    · rintro (h|⟨n,hn,hlt⟩) k hk
      · exact absurd h hact
      · have hlt : s.db.countActiveDevices device.userId<n := of_decide_eq_true hlt
        have hk : device.userId=k := by
          by_contra hother
          rw [hcount] at hk
          simp [hother] at hk
        subst hk
        refine ⟨n,hlimit.trans hn,?_⟩
        rw [hone]
        omega

/-- A committed request keeps the limit just when it is limited. -/
theorem handle_limit {c : Call} (hw : Sound w) {a : Response} {s : Session}
    (h : handle cfg c.request ⟨w,c.env⟩=(.ok a,s)) :
    LimitKept w s.toWorld ↔ c.request.limited w.db=true := by
  obtain ⟨env,r⟩ := c
  by_cases hlights : r.lights=false
  · refine iff_of_true (limitKept_of_equal fun k => ?_) ?_
    · exact countActive_le ((handle_quieting cfg hlights _).rel_of_run h) k
    · cases r with
      | device telegramId deviceId r =>
        cases r with
        | enable => cases hlights
        | _ => rfl
      | createDevice => cases hlights
      | _ => rfl
  · cases r with
    | createDevice telegramId name requested protocol =>
      rcases handleCreateDevice_run cfg telegramId name requested protocol ⟨w,env⟩ with
        ⟨e,he⟩|⟨user,huser,he⟩
      · rw [handle,he] at h
        cases h
      · rw [handle,he] at h
        obtain ⟨p,u,hu,hlast⟩ := Eff.bind_ok.mp h
        cases hlast
        have hfound : w.db.userByTelegramId telegramId=some user := (currentUser_ok huser).2.1
        show LimitKept w s.toWorld ↔ ((w.db.userByTelegramId telegramId).all fun user =>
          (w.db.activeSubscription user.id).all fun x => x.deviceLimitOverride≠some 0)=true
        rw [hfound,Option.all_some]
        exact provision_limit (s := ⟨w,env⟩) hw hu
    | device telegramId deviceId r =>
      have hr : r=.enable := by
        by_contra hne
        exact hlights (decide_eq_false hne)
      subst hr
      rcases handleOwned_run cfg telegramId deviceId .enable ⟨w,env⟩ with
        ⟨e,he⟩|⟨user,device,huser,hget,hown,he⟩
      · rw [handle,he] at h
        cases h
      · rw [handle,he] at h
        obtain ⟨_,u,hu,hlast⟩ := Eff.bind_ok.mp h
        obtain ⟨d,v,hv,hlast'⟩ := Eff.bind_ok.mp hlast
        cases hv
        cases hlast'
        obtain ⟨_,hfound,hact⟩ := currentUser_ok huser
        have hid : device.id=deviceId := Store.key_of_get? hget
        have howned : w.db.owned telegramId deviceId=some device := by
          have hfound : w.db.userByTelegramId telegramId=some user := hfound
          have hget : w.db.devices.get? deviceId=some device := hget
          have hactive : (some user).filter (fun u => u.status=.active)=some user :=
            Option.filter_eq_some_iff.mpr ⟨rfl,decide_eq_true hact⟩
          unfold Database.owned
          rw [hfound,hactive,Option.bind_some,hget]
          exact Option.filter_eq_some_iff.mpr ⟨rfl,decide_eq_true hown⟩
        show LimitKept w s.toWorld ↔ ((w.db.owned telegramId deviceId).all fun d =>
          d.status=.active || w.db.hasRoom d.userId)=true
        rw [howned,Option.all_some]
        exact enable_limit (s := ⟨w,env⟩) (by rw [hid]; exact hget) hu
    | _ => exact absurd rfl hlights

/-- A run of limited requests keeps the limit at every step, and a run of answered requests keeps it
at every step only if all of them are limited. -/
theorem limit_kept_iff (hw : Reachable cfg w) (cs : List Call) :
    (Conducted (fun w c => c.request.limited w.db=true) (after cfg) w cs →
      Conducted (fun w c => LimitKept w (after cfg w c)) (after cfg) w cs) ∧
    (Conducted (fun w c => answered cfg w c=true ∧ LimitKept w (after cfg w c)) (after cfg) w cs →
      Conducted (fun w c => c.request.limited w.db=true) (after cfg) w cs) := by
  have hreach : ∀ {allowed : World → Call → Prop},Conducted allowed (after cfg) w cs →
      Conducted (fun w c => Reachable cfg w ∧ allowed w c) (after cfg) w cs :=
    fun h => Conducted.with_invariant (fun _ c hv _ => hv.after c) w cs hw h
  constructor
  · intro h
    refine Conducted.mono (fun v c ⟨hv,hc⟩ => ?_) w cs (hreach h)
    unfold after
    rcases serve_cases cfg c.env c.request v with ⟨a,s,hm,hserve⟩|⟨x,e,s,_,hserve⟩
    · rw [hserve]
      exact (handle_limit (reachable_sound hv) hm).mpr hc
    · rw [hserve]
      exact limitKept_of_equal fun _ => le_rfl
  · intro h
    refine Conducted.mono (fun v c ⟨hv,hdone,hkept⟩ => ?_) w cs (hreach h)
    unfold answered at hdone
    unfold after at hkept
    rcases serve_cases cfg c.env c.request v with ⟨a,s,hm,hserve⟩|⟨x,e,s,_,hserve⟩
    · rw [hserve] at hkept
      exact (handle_limit (reachable_sound hv) hm).mp hkept
    · rw [hserve] at hdone
      cases hdone

end

/-- The device is disabled, replaced under a limit of one, and enabled again. -/
def relighting : List Call := [
  calm 3 (.billing (.setDeviceLimitOverride 8 (some 1))),
  calm 4 (.device 77 11 .disable),
  calm 5 (.createDevice 77 "laptop" none .wireguard),
  calm 6 (.device 77 11 .enable)]

theorem limit_kept_iff_opened : Conducted (fun w c => LimitKept w (after sampleSettings w c))
    (after sampleSettings) opened (relighting.take 3) := by
  refine (limit_kept_iff opened_reachable _).1 ⟨rfl,rfl,?_,trivial⟩
  decide +kernel

theorem limit_not_kept : ¬∀ (cfg : Settings) (cs : List Call),
    Conducted (fun w c => LimitKept w (after cfg w c)) (after cfg) .initial cs := by
  intro h
  have hall := h sampleSettings (opening++relighting)
  rw [conducted_append] at hall
  obtain ⟨_,_,_,_,henable,_⟩ := hall
  have hcounts : ((relighting.take 3).foldl (after sampleSettings) opened).db.countActiveDevices 1=1 ∧
      (relighting.foldl (after sampleSettings) opened).db.countActiveDevices 1=2 ∧
      (relighting.foldl (after sampleSettings) opened).db.limitOf 1=some 1 := by decide +kernel
  obtain ⟨hbefore,hafter,hlimit⟩ := hcounts
  obtain ⟨n,hn,hle⟩ := henable 1 (by
    show ((relighting.take 3).foldl (after sampleSettings) opened).db.countActiveDevices 1<
      (relighting.foldl (after sampleSettings) opened).db.countActiveDevices 1
    rw [hbefore,hafter]
    decide)
  have hn : (relighting.foldl (after sampleSettings) opened).db.limitOf 1=some n := hn
  have hle : (relighting.foldl (after sampleSettings) opened).db.countActiveDevices 1≤n := hle
  rw [hlimit] at hn
  rw [hafter] at hle
  cases hn
  omega

end VpnService.Backend
