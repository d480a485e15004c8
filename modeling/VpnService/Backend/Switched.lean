import VpnService.Backend.Mirrors
import VpnService.Backend.Concord

namespace VpnService.Backend

/-- Every credential has a config at its server, and an active device has no disabled one. -/
structure Switched (db : Database) : Prop where
  configured : ∀ c∈db.vlessCredentials.rows,
    ∃ x∈db.vlessServerConfigs.rows,x.serverId=c.serverId
  enabled : ∀ c∈db.vlessCredentials.rows,c.status=.disabled →
    ∀ d,db.devices.get? c.deviceId=some d → d.status≠.active

theorem switched_empty : Switched .empty := by
  constructor <;> intro c hc <;> exact absurd hc (by simp [Database.empty])

namespace Switched

variable {a b db : Database} {s t : Session}

theorem config (h : Switched db) {c : VlessCredential} (hc : c∈db.vlessCredentials.rows) :
    (db.vlessConfig c.serverId).isSome := by
  obtain ⟨x,hx,hserver⟩ := h.configured c hc
  unfold Database.vlessConfig
  rw [List.find?_isSome]
  exact ⟨x,hx,by simpa using hserver⟩

theorem of_tables (h : Switched a) (hd : b.devices=a.devices)
    (hc : b.vlessCredentials=a.vlessCredentials)
    (hx : b.vlessServerConfigs=a.vlessServerConfigs) : Switched b := by
  refine ⟨?_,?_⟩
  · rw [hc,hx]
    exact h.configured
  · rw [hd,hc]
    exact h.enabled

theorem of_hardware (h : Switched s.db) (ht : hardwareFrame.rel s t) : Switched t.db := by
  have hview := ht.1
  simp only [hardwareView,Prod.mk.injEq] at hview
  exact h.of_tables hview.2.2.1 hview.2.2.2.2.1 hview.2.1

/-- Configs may be added and changed, but for their servers. -/
theorem of_configs (h : Switched db) {table : Store VlessServerConfig.id}
    (htable : ∀ x∈db.vlessServerConfigs.rows,∃ y∈table.rows,y.serverId=x.serverId) :
    Switched {db with vlessServerConfigs := table} := by
  refine ⟨fun c hc => ?_,h.enabled⟩
  obtain ⟨x,hx,hserver⟩ := h.configured c hc
  obtain ⟨y,hy,hsame⟩ := htable x hx
  exact ⟨y,hy,hsame.trans hserver⟩

theorem updateDevice {d : Id} {f : Device → Device} (hf : ∀ x,(f x).id=x.id) (h : Switched db)
    (hstatus : ∀ x,(f x).status=.active → x.status=.active) :
    Switched {db with devices := db.devices.modify d f hf} := by
  refine ⟨h.configured,fun c hc hdis row hrow hact => ?_⟩
  have hrow : (db.devices.modify d f hf).get? c.deviceId=some row := hrow
  rw [Store.get?_modify] at hrow
  split_ifs at hrow with hd
  · obtain ⟨x,hx,he⟩ := Option.map_eq_some_iff.mp hrow
    subst he
    exact h.enabled c hc hdis x hx (hstatus x hact)
  · exact h.enabled c hc hdis row hrow hact

/-- A device that no credential refers to. -/
theorem insertDevice {d : Device} (h : Switched db)
    (hnew : ∀ c∈db.vlessCredentials.rows,c.deviceId≠d.id) :
    Switched {db with devices := db.devices.insert d} := by
  refine ⟨h.configured,fun c hc hdis row hrow => ?_⟩
  have hrow : (db.devices.insert d).get? c.deviceId=some row := hrow
  rw [Store.get?_insert_outside _ (hnew c hc)] at hrow
  exact h.enabled c hc hdis row hrow

/-- An active credential at a server that is configured. -/
theorem insertCredential {c : VlessCredential} {config : VlessServerConfig} (h : Switched db)
    (hact : c.status=.active) (hconfig : db.vlessConfig c.serverId=some config) :
    Switched {db with vlessCredentials := db.vlessCredentials.insert c} := by
  have hnew : ∃ x∈db.vlessServerConfigs.rows,x.serverId=c.serverId :=
    ⟨config,(Database.vlessConfig_mem hconfig).1,(Database.vlessConfig_mem hconfig).2⟩
  constructor
  · intro x hx
    rcases Store.mem_of_insert hx with hold|hsame
    · exact h.configured x hold
    · subst hsame
      exact hnew
  · intro x hx hdis
    rcases Store.mem_of_insert hx with hold|hsame
    · exact h.enabled x hold hdis
    · subst hsame
      rw [hact] at hdis
      cases hdis

/-- The cascade takes the credentials of the server along with its config. -/
theorem dropServer (h : Switched db) (k : Id) : Switched (Backend.dropServer k db) := by
  have hold : ∀ {c},c∈(Backend.dropServer k db).vlessCredentials.rows →
      c∈db.vlessCredentials.rows ∧ c.serverId≠k := by
    intro c hc
    simp only [Backend.dropServer,Store.rows_deleteWhere,List.mem_filter] at hc
    exact ⟨hc.1,by simpa using hc.2⟩
  constructor
  · intro c hc
    obtain ⟨hmem,hne⟩ := hold hc
    obtain ⟨x,hx,hserver⟩ := h.configured c hmem
    refine ⟨x,?_,hserver⟩
    simp only [Backend.dropServer,Store.rows_deleteWhere,List.mem_filter]
    exact ⟨hx,by simpa [hserver] using hne⟩
  · intro c hc hdis d hd
    rw [dropServer_device] at hd
    obtain ⟨x,hx,he⟩ := Option.map_eq_some_iff.mp hd
    have hx := h.enabled c (hold hc).1 hdis x hx
    rw [← he]
    unfold unassigned
    split_ifs
    · exact hx
    · exact hx

/-- Devices that go off take their active credentials with them. -/
theorem of_off {D : Id → Bool} (h : Switched s.db)
    (hoff : DevicesOff D s t) : Switched t.db := by
  have hcreds : ∀ {c},c∈t.db.vlessCredentials.rows → ∃ x∈s.db.vlessCredentials.rows,
      c=if s.db.cutCredential D x then {x with status := .disabled} else x := by
    intro c hc
    rw [hoff.credentials] at hc
    obtain ⟨x,hx,he⟩ := List.mem_map.mp hc
    exact ⟨x,hx,by rw [← he,disabledAmong_cut hx]⟩
  constructor
  · intro c hc
    obtain ⟨x,hx,he⟩ := hcreds hc
    have hserver : c.serverId=x.serverId := by
      rw [he]
      split_ifs <;> rfl
    rw [hoff.configs,hserver]
    exact h.configured x hx
  · intro c hc hdis d hd hact
    obtain ⟨x,hx,he⟩ := hcreds hc
    have hdevice : c.deviceId=x.deviceId := by
      rw [he]
      split_ifs <;> rfl
    rw [hoff.get?,hdevice] at hd
    obtain ⟨row,hrow,hd⟩ := Option.map_eq_some_iff.mp hd
    have hid : row.id=x.deviceId := Store.key_of_get? hrow
    unfold disabledIn at hd
    split_ifs at hd with hD
    · subst hd
      cases hact
    · subst hd
      by_cases hcut : s.db.cutCredential D x=true
      · have hin : D x.deviceId=true := by
          simp only [Database.cutCredential,Bool.and_eq_true] at hcut
          exact hcut.1.2
        rw [hid] at hD
        exact hD hin
      · rw [if_neg hcut] at he
        subst he
        exact h.enabled c hx hdis row hrow hact

/-- An operation on device `j`, where the rows of `j` are as they should be. -/
theorem of_touched {j : Id} (h : Switched a) (ht : DbTouched j a b)
    (hconfigured : ∀ c∈b.vlessCredentials.rows,c.deviceId=j →
      ∃ x∈b.vlessServerConfigs.rows,x.serverId=c.serverId)
    (henabled : ∀ d,b.devices.get? j=some d → d.status≠.active) : Switched b := by
  constructor
  · intro c hc
    by_cases hj : c.deviceId=j
    · exact hconfigured c hc hj
    · rw [ht.configs]
      exact h.configured c ((ht.credentials c hj).mp hc)
  · intro c hc hdis d hd
    by_cases hj : c.deviceId=j
    · exact henabled d (hj ▸ hd)
    · rw [ht.devices c.deviceId hj] at hd
      exact h.enabled c ((ht.credentials c hj).mp hc) hdis d hd

/-- A device that has no disabled credential may become active. -/
theorem activate {d : Id} (h : Switched db)
    (hnone : ∀ c∈db.vlessCredentials.rows,c.deviceId=d → c.status≠.disabled) :
    Switched {db with
      devices := db.devices.modify d (fun x => {x with status := .active}) fun _ => rfl} := by
  have hkey : ∀ x : Device,({x with status := .active} : Device).id=x.id := fun _ => rfl
  refine ⟨h.configured,fun c hc hdis row hrow => ?_⟩
  have hother : c.deviceId≠d := fun he => hnone c hc he hdis
  have hrow : (db.devices.modify d (fun x => {x with status := .active}) hkey).get?
      c.deviceId=some row := hrow
  rw [Store.get?_modify_ne _ _ _ hother] at hrow
  exact h.enabled c hc hdis row hrow

theorem restoreCredential {k : Id} (h : Switched db) :
    Switched {db with
      vlessCredentials :=
        db.vlessCredentials.modify k (fun x => {x with status := .active}) fun _ => rfl} := by
  have hkey : ∀ x : VlessCredential,({x with status := .active} : VlessCredential).id=x.id :=
    fun _ => rfl
  constructor
  · intro c hc
    rcases (Store.mem_modify hkey).mp hc with ⟨x,hx,_,he⟩|⟨hc,_⟩
    · subst he
      exact h.configured x hx
    · exact h.configured c hc
  · intro c hc hdis
    rcases (Store.mem_modify hkey).mp hc with ⟨x,_,_,he⟩|⟨hc,_⟩
    · subst he
      cases hdis
    · exact h.enabled c hc hdis

end Switched

section

variable {cfg : Settings} {s t : Session}

theorem handleServers_switched (r : ServerRequest) :
    Within (Frame.preserving fun s => Switched s.db) (handleServers r) := by
  have hbooks : Bookkeeping (Frame.preserving fun s : Session => Switched s.db) :=
    ⟨fun _ => id,fun _ _ => id⟩
  have haudit : ∀ {s t},auditFrame.rel s t →
      (Frame.preserving fun s : Session => Switched s.db).rel s t :=
    fun ha hs => hs.of_hardware (hardware_of_core (core_of_audit ha))
  refine handleServers_within hbooks (fun _ hg => ?_) haudit (fun k => ?_) r
  · exact alter_within fun s hs =>
      (hs.of_configs (hg s.db.vlessServerConfigs)).of_tables rfl rfl rfl
  · exact alter_within fun s hs => hs.dropServer k

theorem provision_switched {user : User} {name : String} {requested : Option Id}
    {protocol : VpnProtocol} {r : ProvisionedDevice} (hs : Consistent s.serial s.db)
    (h : Switched s.db) (hrun : provision cfg user name requested protocol s=(.ok r,t)) :
    Switched t.db := by
  have hunused : ∀ c∈s.db.vlessCredentials.rows,c.deviceId≠s.serial := fun c hc =>
    (hs.unreferred.2 c hc).ne
  cases protocol with
  | wireguard =>
    obtain ⟨_,_,server,u,v,p,_,hdev,hcreated,hlast⟩ := provisionWireguard_ok hrun
    have hrow : Switched (withDevice (freshDevice s.serial user.id name none .wireguard) s).db :=
      h.insertDevice hunused
    have hpeer : Switched v.db := by
      rw [hcreated.db]
      exact (hrow.of_hardware hdev).of_tables rfl rfl rfl
    have hserver : Switched {v.db with
        devices := v.db.devices.modify s.serial (withServer p server) (withServer_id p server)} :=
      hpeer.updateDevice _ fun _ hact => hact
    refine Switched.of_hardware ?_ hlast
    exact hserver.of_tables rfl rfl rfl
  | vless =>
    obtain ⟨_,a,ha,hrun⟩ := Eff.bind_ok.mp hrun
    obtain ⟨hsa,_⟩ := enforceDeviceLimit_ok ha
    subst hsa
    obtain ⟨_,server,config,u,id,_,hconfig,hdev,_,_,hlast⟩ := provisionVless_ok hrun
    have hrow : Switched
        (withDevice (freshDevice s.serial user.id name (some server.id) .vless) s).db :=
      h.insertDevice hunused
    have hview := hdev.1
    simp only [hardwareView,withDevice,Prod.mk.injEq] at hview
    have hsited : u.db.vlessConfig server.id=some config := by
      unfold Database.vlessConfig at hconfig ⊢
      rw [hview.2.1]
      exact hconfig
    have hnew := (hrow.of_hardware hdev).insertCredential
      (c := ⟨id,s.serial,server.id,u.serial,.active,none,none⟩) rfl hsited
    simp only [hardwareView,setXray,Prod.mk.injEq] at hlast
    exact hnew.of_tables hlast.2.2.1 hlast.2.2.2.2.1 hlast.2.1

theorem reissue_switched {device : Device} {r : ProvisionedDevice} (h : Switched s.db)
    (hrun : reissue cfg device s=(.ok r,t)) : Switched t.db := by
  obtain ⟨_,server,u,v,p,_,_,hretire,hcreated,hcore⟩ := reissue_ok hrun
  have hretired : Switched u.db := by
    rcases retireActive_ok hretire with ⟨_,hus⟩|⟨_,_,_,hus⟩
    · subst hus
      exact h
    · subst hus
      exact h.of_tables rfl rfl rfl
  have hpeer : Switched v.db := by
    rw [hcreated.db]
    exact hretired.of_tables rfl rfl rfl
  have hrow : Switched {v.db with
      devices := v.db.devices.modify device.id (withPeer p) fun _ => rfl} :=
    hpeer.updateDevice _ fun _ hact => hact
  exact Switched.of_hardware hrow (hardware_of_core hcore)

theorem enable_switched {device : Device} (hs : Consistent s.serial s.db) (h : Switched s.db)
    (hd : s.db.devices.get? device.id=some device) (hrun : enable device s=(.ok (),t)) :
    Switched t.db := by
  obtain ⟨_,u,hu,hlast⟩ := Eff.bind_ok.mp hrun
  cases hlast
  unfold enableTransport at hu
  rcases device.protocol_cases with hproto|hproto
  · rw [hproto] at hu
    have hnone : ∀ c∈s.db.vlessCredentials.rows,c.deviceId=device.id → c.status≠.disabled := by
      intro c hc hcd _
      obtain ⟨row,hrow,hvless⟩ := hs.credentialDevices c hc
      rw [hcd,hd] at hrow
      cases hrow
      rw [hproto] at hvless
      cases hvless
    have hdb : u.db=s.db := by
      obtain ⟨_,_,⟨_,hus⟩|⟨_,_,_,_,hus⟩⟩ := enablePeer_ok hu
      · rw [hus]
      · rw [hus]
        rfl
    have hon := h.activate hnone
    rw [← hdb] at hon
    exact hon
  · rw [hproto] at hu
    have hconfigured : ∀ c∈s.db.credentialsOf device.id,(s.db.vlessConfig c.serverId).isSome :=
      fun c hc => h.config ((s.db.mem_credentialsOf).mp hc).1
    rcases enableCredentials_ok hs hconfigured hu with ⟨hnone,hus⟩|⟨c,config,os,hcs,_,_,hus⟩
    · subst hus
      exact h.activate fun c hc hcd => hnone c ((u.db.mem_credentialsOf).mpr ⟨hc,hcd⟩)
    · subst hus
      apply (h.restoreCredential (k := c.id)).activate
      intro x hx hxd hdis
      have hkey : ∀ x : VlessCredential,({x with status := .active} : VlessCredential).id=x.id :=
        fun _ => rfl
      rcases (Store.mem_modify hkey).mp hx with ⟨y,_,_,he⟩|⟨hx,hne⟩
      · rw [he] at hdis
        cases hdis
      · have hmem : x∈s.db.credentialsOf device.id := (s.db.mem_credentialsOf).mpr ⟨hx,hxd⟩
        rw [hcs] at hmem
        exact hne (by rw [List.mem_singleton.mp hmem])

theorem revoke_switched {device : Device} (hs : Sound s.toWorld) (h : Switched s.db)
    (hd : s.db.devices.get? device.id=some device) (hrun : revoke device s=(.ok (),t)) :
    Switched t.db := by
  have hrow := setDeviceStatus_row (revokeTransport_equipment device) hd hrun
  have hrec := ((revoke_recoloring device s).rel_of_run hrun).1
  have ht := (revoke_touching (hs.covers device.id)).rel_of_run hrun (Scope.of_fits _ s)
  refine h.of_touched ht.db (fun c hc _ => ?_) fun d hget hact => ?_
  · obtain ⟨x,hx,_,_,hserver,_⟩ := hrec.credentials c hc
    rw [hrec.configs,hserver]
    exact h.configured x hx
  · rw [hrow] at hget
    cases hget
    cases hact

theorem handleDevice_switched {device : Device} {op : DeviceRequest} {a : Response}
    (hs : Sound s.toWorld) (h : Switched s.db) (hd : s.db.devices.get? device.id=some device)
    (hrun : handleDevice cfg device op s=(.ok a,t)) : Switched t.db := by
  have hhard : Within hardwareFrame (handleDevice cfg device op) → Switched t.db := fun hw =>
    h.of_hardware ((hw s).rel_of_run hrun)
  have hanswer : ∀ {u : Session},answerDevice device u=(.ok a,t) → u=t := by
    intro u hu
    cases hu
    rfl
  cases op with
  | reissue =>
    obtain ⟨result,u,hu,hlast⟩ := Eff.bind_ok.mp hrun
    cases hlast
    exact reissue_switched h hu
  | disable =>
    obtain ⟨_,u,hu,hlast⟩ := Eff.bind_ok.mp hrun
    rw [← hanswer hlast]
    exact h.of_off (disable_off hd hu)
  | enable =>
    obtain ⟨_,u,hu,hlast⟩ := Eff.bind_ok.mp hrun
    rw [← hanswer hlast]
    exact enable_switched hs.consistent h hd hu
  | revoke =>
    obtain ⟨_,u,hu,hlast⟩ := Eff.bind_ok.mp hrun
    rw [← hanswer hlast]
    exact revoke_switched hs h hd hu
  | createOrRotateLink =>
    exact hhard ((createOrRotate_hardware device.id).bind fun _ =>
      (generateQrCode_within _).bind fun _ => Within.pure _)
  | getLink => exact hhard ((getLink_within device.id).bind fun _ => Within.pure _)
  | revokeLink =>
    exact hhard ((getLink_within device.id).bind fun l => Within.bind (getNow_within.bind fun _ =>
      alter_hardware fun _ => rfl) fun _ => answerLink_within _)
  | getProfile =>
    exact hhard (Within.bind (getDb_within.bind fun _ => (currentProfile_within _).bind fun _ =>
      Within.orRaise _ _) fun _ => Within.pure _)
  | refreshProfile =>
    exact hhard (((regenerateProfile_core cfg _ _).mono hardware_of_core).bind fun _ =>
      Within.pure _)

/-- A round of a sweep. -/
theorem processOne_switched {x : Subscription} (h : Switched s.db)
    (hrun : processOne x s=(.ok (),t)) : Switched t.db := by
  unfold processOne at hrun
  rw [getDb_bind_run] at hrun
  obtain ⟨plan,_,hrun₁⟩ := Eff.orRaise_bind_ok.mp hrun
  obtain ⟨user,_,hrun₂⟩ := Eff.orRaise_bind_ok.mp hrun₁
  obtain ⟨_,v,hv,hrun₃⟩ := Eff.bind_ok.mp hrun₂
  cases hv
  obtain ⟨_,b,hb,hrun₄⟩ := Eff.bind_ok.mp hrun₃
  obtain ⟨hoff,_⟩ := disableAll_off faulty_disable hb
  obtain ⟨_,c,hc,hlast⟩ := Eff.bind_ok.mp hrun₄
  obtain ⟨os,hcs⟩ := audit_ok hc
  subst hcs
  cases hlast
  have hexpired : Switched {s.db with
      subscriptions := s.db.subscriptions.modify x.id
        (fun s => {s with status := .expired}) fun _ => rfl} := h.of_tables rfl rfl rfl
  exact (hexpired.of_off hoff).of_tables rfl rfl rfl

theorem processEach_switched {xs : List Subscription} (h : Switched s.db)
    (hrun : Eff.each processOne xs s=(.ok (),t)) : Switched t.db := by
  induction xs generalizing s with
  | nil =>
    cases hrun
    exact h
  | cons x xs ih =>
    obtain ⟨_,u,hu,hrest⟩ := Eff.bind_ok.mp hrun
    exact ih (processOne_switched h hu) hrest

theorem handle_switched {r : Request} {a : Response} (hs : Sound s.toWorld) (h : Switched s.db)
    (hrun : handle cfg r s=(.ok a,t)) : Switched t.db := by
  have hhard : Within hardwareFrame (handle cfg r) → Switched t.db := fun hw =>
    h.of_hardware ((hw s).rel_of_run hrun)
  cases r with
  | billing r => exact hhard ((handleBilling_fleet cfg r).mono hardware_of_fleet)
  | routing r => exact hhard ((handleRouting_core _ r).mono hardware_of_core)
  | servers r => exact (handleServers_switched r s).rel_of_run hrun h
  | listDevices telegramId =>
    apply hhard
    exact (currentUser_within telegramId).bind fun _ => getDb_within.bind fun _ => Within.pure _
  | createDevice telegramId name serverId protocol =>
    rcases handleCreateDevice_run cfg telegramId name serverId protocol s with
      ⟨e,he⟩|⟨user,_,he⟩
    · rw [handle,he] at hrun
      cases hrun
    · rw [handle,he] at hrun
      obtain ⟨result,u,hu,hlast⟩ := Eff.bind_ok.mp hrun
      cases hlast
      exact provision_switched hs.consistent h hu
  | device telegramId deviceId op =>
    rcases handleOwned_run cfg telegramId deviceId op s with ⟨e,he⟩|⟨user,device,_,hget,_,he⟩
    · rw [handle,he] at hrun
      cases hrun
    · rw [handle,he] at hrun
      have hid : device.id=deviceId := Store.key_of_get? hget
      exact handleDevice_switched hs h (hid ▸ hget) hrun
  | fetchSubscription token =>
    exact hhard ((deliver_hardware token).bind fun _ => Within.pure _)
  | sweep asOf =>
    obtain ⟨ids,u,hu,hlast⟩ := Eff.bind_ok.mp hrun
    cases hlast
    unfold runOnce at hu
    rw [getNow_bind_run,getDb_bind_run] at hu
    obtain ⟨_,v,hv,hids⟩ := Eff.bind_ok.mp hu
    cases hids
    exact processEach_switched h hv

end

theorem reachable_switched {cfg : Settings} {w : World} (h : Reachable cfg w) :
    Switched w.db := by
  have hboth : Sound w ∧ Switched w.db := by
    apply h.invariant (fun w => Sound w ∧ Switched w.db) ⟨sound_initial,switched_empty⟩
    intro w c ⟨hs,hw⟩
    refine ⟨after_sound hs,?_⟩
    unfold after
    rcases serve_cases cfg c.env c.request w with ⟨a,s,hm,ht⟩|⟨x,e,s,_,ht⟩
    · rw [ht]
      exact handle_switched (s := ⟨w,c.env⟩) hs hw hm
    · rw [ht]
      exact hw
  exact hboth.2

end VpnService.Backend
