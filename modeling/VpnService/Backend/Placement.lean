import VpnService.Backend.Dimming
import VpnService.Backend.Reaching

namespace VpnService.Backend

open Agent

/-- A server a device of the protocol may be placed on. -/
def Eligible (db : Database) (protocol : VpnProtocol) (server : VpnServer) : Prop :=
  server∈db.vpnServers.rows ∧ server.status=.online ∧ server.protocol=protocol ∧
    server.currentLoad<server.capacity

/-- There is an eligible server, the requested one if one is requested. -/
def Available (db : Database) (requested : Option Id) (protocol : VpnProtocol) : Prop :=
  match requested with
  | none => ∃ server,Eligible db protocol server
  | some k => ∃ server,server.id=k ∧ Eligible db protocol server

/-- A success places the device on an eligible server, the least loaded if none was requested; and
where none is available the call fails and nothing has changed. -/
def PlacedRightly (cfg : Settings) (user : User) (name : String) (requested : Option Id)
    (protocol : VpnProtocol) (s : Session) : Prop :=
  (∀ result t,provision cfg user name requested protocol s=(.ok result,t) →
    ∃ server,result.device.serverId=some server.id ∧ Eligible s.db protocol server ∧
      (requested=none → ∀ other,Eligible s.db protocol other →
        server.currentLoad≤other.currentLoad)) ∧
  (¬Available s.db requested protocol →
    ∃ e,e.kind≠.internal ∧ provision cfg user name requested protocol s=(.error e,s))

/-- The error of `chooseServer` when there is no server to choose. -/
def unplacedError (requested : Option Id) : AppError :=
  if (requested.filter fun k => k≠0).isSome then vpnServerNotFound else noCapacityAvailable

def vlessServerNotConfigured (server : VpnServer) : AppError :=
  ⟨.conflict,"vless_server_not_configured",s!"VLESS server {server.id} has no Reality configuration"⟩

/-- The error of a call that is refused before it has written anything. -/
def refusal (db : Database) (userId : Id) (requested : Option Id) (protocol : VpnProtocol) :
    Option AppError := match limitVerdict db userId with
  | .error e => some e
  | .ok () => match chosenServer db requested protocol with
    | none => some (unplacedError requested)
    | some server => if protocol=.vless ∧ db.vlessConfig server.id=none
        then some (vlessServerNotConfigured server) else none

section

variable {db : Database} {requested : Option Id} {protocol : VpnProtocol} {s : Session}

theorem bestAvailable_eligible {server : VpnServer} (h : bestAvailable db protocol=some server) :
    Eligible db protocol server ∧
      ∀ other,Eligible db protocol other → server.currentLoad≤other.currentLoad := by
  have hmem := firstBy_mem _ _ _ h
  constructor
  · simp only [Database.availableServers,List.mem_filter,decide_eq_true_eq] at hmem
    exact ⟨hmem.1.1,hmem.1.2.1,hmem.1.2.2,hmem.2⟩
  · intro other hother
    obtain ⟨hrow,hon,hproto,hroom⟩ := hother
    have htotal : ∀ x y : VpnServer,decide (x.currentLoad≤y.currentLoad)=true ∨
        decide (y.currentLoad≤x.currentLoad)=true := by
      intro x y
      rw [decide_eq_true_eq,decide_eq_true_eq]
      exact Int.le_total _ _
    have htrans : ∀ x y z : VpnServer,decide (x.currentLoad≤y.currentLoad)=true →
        decide (y.currentLoad≤z.currentLoad)=true → decide (x.currentLoad≤z.currentLoad)=true := by
      intro x y z hxy hyz
      rw [decide_eq_true_eq] at hxy hyz ⊢
      exact Int.le_trans hxy hyz
    have hother : other∈(db.availableServers protocol).filter fun s => s.currentLoad<s.capacity := by
      simp only [Database.availableServers,List.mem_filter,decide_eq_true_eq]
      exact ⟨⟨hrow,hon,hproto⟩,hroom⟩
    exact of_decide_eq_true (firstBy_before htotal htrans _ _ h other hother)

theorem chooseServer_unplaced (h : chosenServer s.db requested protocol=none) :
    chooseServer requested protocol s=(.error (unplacedError requested),s) := by
  unfold chosenServer at h
  unfold chooseServer unplacedError
  cases hr : requested.filter fun k => k≠0 with
  | some k =>
    simp only [hr] at h
    unfold getServer
    dsimp only
    rw [getDb_bind_run,h]
    rfl
  | none =>
    simp only [hr] at h
    unfold pickBestAvailable
    dsimp only
    rw [getDb_bind_run,h]
    rfl

end

/-- What is left of `provisionVless` once the server and its configuration are known. -/
def provisionVlessOn (cfg : Settings) (user : User) (name : String) (server : VpnServer)
    (config : VlessServerConfig) : Req ProvisionedDevice := do
  let device ← addDevice user.id name (some server.id) .vless
  let link ← createOrRotate device.id
  let uuid ← nextSerial
  let now ← getNow
  xrayRequest config.xrayAgentBaseUrl (UserStore.createUser uuid device.id config.flow now)
  let id ← nextSerial
  let credential : VlessCredential := ⟨id,device.id,server.id,uuid,.active,none,none⟩
  flush
  let db ← getDb
  Eff.require (credentialClash db credential=false) uniqueViolation
  alter fun db => {db with vlessCredentials := db.vlessCredentials.insert credential}
  addLoad server.id
  let url ← generateQrCode (.url cfg.subscriptionBaseUrl link.2)
  pure ⟨device,none,some url⟩

/-- What is left of `provision` once the server is chosen. -/
def provisionOn (cfg : Settings) (user : User) (name : String) (server : VpnServer) :
    VpnProtocol → Req ProvisionedDevice
  | .vless => do
    let db ← getDb
    let config ← Eff.orRaise (vlessServerNotConfigured server) (db.vlessConfig server.id)
    provisionVlessOn cfg user name server config
  | .wireguard => do
    let device ← addDevice user.id name none .wireguard
    let link ← createOrRotate device.id
    let created ← createPeerWithRetry cfg device.id server
    updateDevice device.id (withServer created.2 server) (withServer_id created.2 server)
    addLoad server.id
    let profile ← regenerateProfile cfg device.id user.id
    let config ← generateQrCode (clientConfig cfg created.1 profile)
    let url ← generateQrCode (.url cfg.subscriptionBaseUrl link.2)
    let device ← refreshed device
    pure ⟨device,some config,some url⟩

section

variable {cfg : Settings} {user : User} {name : String} {requested : Option Id}
  {protocol : VpnProtocol} {server : VpnServer} {s t : Session} {result : ProvisionedDevice}

theorem provision_refused {e : AppError} (h : limitVerdict s.db user.id=.error e) :
    provision cfg user name requested protocol s=(.error e,s) := by
  have hlimit : enforceDeviceLimit user.id s=(.error e,s) := by
    unfold enforceDeviceLimit
    rw [getDb_bind_run,h]
    rfl
  exact Eff.bind_run_error hlimit

theorem provision_unplaced (h : limitVerdict s.db user.id=.ok ())
    (hserver : chosenServer s.db requested protocol=none) :
    provision cfg user name requested protocol s=(.error (unplacedError requested),s) := by
  have hlimit := enforceDeviceLimit_of h
  have hchoose := chooseServer_unplaced hserver
  cases protocol with
  | vless => exact (Eff.bind_run_ok hlimit).trans (Eff.bind_run_error hchoose)
  | wireguard => exact (Eff.bind_run_ok hlimit).trans (Eff.bind_run_error hchoose)

theorem provision_placed (cfg : Settings) (name : String) (h : limitVerdict s.db user.id=.ok ())
    (hserver : chosenServer s.db requested protocol=some server) :
    provision cfg user name requested protocol s=provisionOn cfg user name server protocol s := by
  have hlimit := enforceDeviceLimit_of h
  have hchoose := chooseServer_chosen.mpr ⟨hserver,rfl⟩
  cases protocol with
  | vless =>
    have hvless : provisionVless cfg user name requested s=
        provisionOn cfg user name server .vless s := Eff.bind_run_ok hchoose
    exact (Eff.bind_run_ok hlimit).trans hvless
  | wireguard => exact (Eff.bind_run_ok hlimit).trans (Eff.bind_run_ok hchoose)

/-- The frame of what draws numbers, `n` of which are drawn already. -/
abbrev drawn (n : Int) : Frame Session := dimming (fun _ => True) n

theorem addDevice_draws (s : Session) (userId : Id) (name : String) (serverId : Option Id)
    (protocol : VpnProtocol) :
    s.serial+1≤(addDevice userId name serverId protocol s).2.serial := by
  have hrest : Within (drawn (s.serial+1)) (do
      flush
      Eff.require (name.length≤64) (internalError "StringDataRightTruncationError")
      alter fun db => {db with
        devices := db.devices.insert (freshDevice s.serial userId name serverId protocol)}
      pure (freshDevice s.serial userId name serverId protocol)) :=
    (flush_within dimming_books).bind fun _ => (Within.require _ _).bind fun _ =>
      (alter_dimming _).bind fun _ => Within.pure _
  exact (hrest {s with serial := s.serial+1} le_rfl).2

/-- A call that adds a device draws a number, whatever comes after. -/
theorem addDevice_bind_draws {α : Type} (userId : Id) (serverId : Option Id)
    {f : Device → Req α} (hf : ∀ device,Within (drawn (s.serial+1)) (f device)) :
    s.serial<((addDevice userId name serverId protocol >>= f) s).2.serial := by
  have hadd := addDevice_draws s userId name serverId protocol
  have hlater : s.serial+1≤((addDevice userId name serverId protocol >>= f) s).2.serial := by
    cases hrun : addDevice userId name serverId protocol s with
    | mk r u =>
      rw [hrun] at hadd
      cases r with
      | error e =>
        rw [Eff.bind_run_error hrun]
        exact hadd
      | ok device =>
        rw [Eff.bind_run_ok hrun]
        exact (hf device u hadd).2
  exact Int.lt_of_add_one_le hlater

theorem provisionOn_vless {config : VlessServerConfig}
    (h : s.db.vlessConfig server.id=some config) :
    provisionOn cfg user name server .vless s=provisionVlessOn cfg user name server config s := by
  have hfound : (Eff.orRaise (vlessServerNotConfigured server) (s.db.vlessConfig server.id) :
      Req VlessServerConfig) s=(.ok config,s) := by
    rw [h]
    rfl
  exact Eff.bind_run_ok hfound

theorem provisionOn_unconfigured (h : s.db.vlessConfig server.id=none) :
    provisionOn cfg user name server .vless s=(.error (vlessServerNotConfigured server),s) := by
  have hmissing : (Eff.orRaise (vlessServerNotConfigured server) (s.db.vlessConfig server.id) :
      Req VlessServerConfig) s=(.error (vlessServerNotConfigured server),s) := by
    rw [h]
    rfl
  exact (getDb_bind_run _ s).trans (Eff.bind_run_error hmissing)

theorem provisionOn_draws (cfg : Settings) (user : User) (name : String)
    (h : protocol=.vless → s.db.vlessConfig server.id≠none) :
    s.serial<(provisionOn cfg user name server protocol s).2.serial := by
  cases protocol with
  | vless =>
    cases hconfig : s.db.vlessConfig server.id with
    | none => exact absurd hconfig (h rfl)
    | some config =>
      rw [provisionOn_vless hconfig]
      apply addDevice_bind_draws
      intro device
      exact (createOrRotate_dimming device.id).bind fun link =>
        (nextSerial_within dimming_books).bind fun uuid => getNow_within.bind fun _ =>
        (createUser_dimming _ _ _ _ _ trivial).bind fun _ =>
        (nextSerial_within dimming_books).bind fun _ => (flush_within dimming_books).bind fun _ =>
        getDb_within.bind fun _ => (Within.require _ _).bind fun _ => (alter_dimming _).bind
        fun _ => Within.bind (alter_dimming _) fun _ => (generateQrCode_within _).bind fun _ =>
        Within.pure _
  | wireguard =>
    apply addDevice_bind_draws
    intro device
    exact (createOrRotate_dimming device.id).bind
      fun _ => (createPeerAttempts_dimming cfg device.id server 5 fun _ _ => trivial).bind fun _ =>
      Within.bind (alter_dimming _) fun _ => Within.bind (alter_dimming _) fun _ =>
      (dimming_of_core (regenerateProfile_core cfg _ _)).bind fun _ =>
      (generateQrCode_within _).bind fun _ => (generateQrCode_within _).bind fun _ =>
      (refreshed_within device).bind fun _ => Within.pure _

theorem isSome_inserted (devices : Store Device.id) (device : Device) :
    ((devices.insert device).get? device.id).isSome=true := by
  unfold Store.insert
  split_ifs with h
  · obtain ⟨x,hx,hkey⟩ := List.mem_map.mp h
    rw [← hkey,devices.get?_of_mem hx]
    rfl
  · have hrow : device∈(devices.rows++[device]) := List.mem_append_right _ (List.mem_singleton.mpr rfl)
    rw [Store.get?_of_mem _ hrow]
    rfl

theorem provisionVlessOn_server {config : VlessServerConfig} : Yields
    (fun r : ProvisionedDevice => r.device.serverId=some server.id)
    (provisionVlessOn cfg user name server config) := by
  have hadd : Yields (fun device : Device => device.serverId=some server.id)
      (addDevice user.id name (some server.id) .vless) := by
    intro s device t h
    rw [(addDevice_ok h).2.1]
  exact hadd.bind_of fun device hdevice => Yields.bind fun link => Yields.bind fun uuid =>
    Yields.bind fun now => Yields.bind fun _ => Yields.bind fun id => Yields.bind fun _ =>
    Yields.bind fun db => Yields.bind fun _ => Yields.bind fun _ => Yields.bind fun _ =>
    Yields.bind fun url => Yields.pure hdevice

/-- A success places the device on the chosen server. -/
theorem provisionOn_server (h : provisionOn cfg user name server protocol s=(.ok result,t)) :
    result.device.serverId=some server.id := by
  cases protocol with
  | vless =>
    cases hconfig : s.db.vlessConfig server.id with
    | none =>
      rw [provisionOn_unconfigured hconfig] at h
      cases h
    | some config =>
      rw [provisionOn_vless hconfig] at h
      exact provisionVlessOn_server s result t h
  | wireguard =>
    obtain ⟨device,c,hc,h⟩ := Eff.bind_ok.mp h
    obtain ⟨_,hdevice,os,hcs⟩ := addDevice_ok hc
    obtain ⟨link,u,hu,h⟩ := Eff.bind_ok.mp h
    obtain ⟨⟨creation,p⟩,v,hv,h⟩ := Eff.bind_ok.mp h
    obtain ⟨_,w,hw,h⟩ := Eff.bind_ok.mp h
    cases hw
    obtain ⟨_,x,hx,h⟩ := Eff.bind_ok.mp h
    cases hx
    obtain ⟨profile,y,hy,h⟩ := Eff.bind_ok.mp h
    obtain ⟨config,z,hz,h⟩ := Eff.bind_ok.mp h
    obtain ⟨url,z',hz',h⟩ := Eff.bind_ok.mp h
    cases h
    have hthere : (v.db.devices.get? device.id).isSome := by
      have hinserted : (c.db.devices.get? device.id).isSome := by
        rw [hcs]
        exact isSome_inserted _ _
      have hlink := ((createOrRotate_hardware device.id) c).rel_of_run hu
      have hdevices : u.db.devices=c.db.devices := congrArg (fun view => view.2.2.1) hlink.1
      rw [(createPeerAttempts_ok hv).db,hdevices]
      exact hinserted
    have hkeeps : ∀ content : QrContent,
        Within (.keeping fun s : Session => s.db.devices) (generateQrCode content) :=
      fun content => generateQrCode_within content
    have hprofile := ((regenerateProfile_core cfg device.id user.id) _).rel_of_run hy
    have hdevices : t.db.devices=y.db.devices :=
      ((hkeeps _ z).rel_of_run hz').trans ((hkeeps _ y).rel_of_run hz)
    have hrow : y.db.devices=v.db.devices.modify device.id (withServer p server)
        (withServer_id p server) :=
      congrArg (fun view => view.2.2.2.1) hprofile.1
    obtain ⟨d,hd⟩ := Option.isSome_iff_exists.mp hthere
    show ((t.db.devices.get? device.id).getD device).serverId=some server.id
    rw [hdevices,hrow,Store.get?_modify,if_pos rfl,hd]
    rfl

/-- Where a server is available, it is one such that is chosen. -/
theorem chosenServer_eligible (h : Available s.db requested protocol)
    (hserver : chosenServer s.db requested protocol=some server) :
    Eligible s.db protocol server ∧ (requested=none → ∀ other,Eligible s.db protocol other →
      server.currentLoad≤other.currentLoad) := by
  unfold chosenServer at hserver
  cases hr : requested.filter fun k => k≠0 with
  | some k =>
    simp only [hr] at hserver
    obtain ⟨hk,_⟩ := Option.filter_eq_some_iff.mp hr
    rw [hk] at h ⊢
    obtain ⟨found,hid,hfound⟩ := h
    have hget : s.db.vpnServers.get? k=some found := by
      rw [← hid]
      exact s.db.vpnServers.get?_of_mem hfound.1
    rw [hget] at hserver
    cases hserver
    exact ⟨hfound,fun hnone => absurd hnone (Option.some_ne_none k)⟩
  | none =>
    simp only [hr] at hserver
    exact ⟨(bestAvailable_eligible hserver).1,fun _ => (bestAvailable_eligible hserver).2⟩

theorem refusal_run (cfg : Settings) (name : String) {e : AppError}
    (h : refusal s.db user.id requested protocol=some e) :
    provision cfg user name requested protocol s=(.error e,s) := by
  unfold refusal at h
  cases hlimit : limitVerdict s.db user.id with
  | error e' =>
    simp only [hlimit] at h
    cases h
    exact provision_refused hlimit
  | ok =>
    cases hserver : chosenServer s.db requested protocol with
    | none =>
      simp only [hlimit,hserver] at h
      cases h
      exact provision_unplaced hlimit hserver
    | some server =>
      simp only [hlimit,hserver] at h
      by_cases hvless : protocol=.vless ∧ s.db.vlessConfig server.id=none
      · rw [if_pos hvless] at h
        cases h
        rw [provision_placed cfg name hlimit hserver,hvless.1]
        exact provisionOn_unconfigured hvless.2
      · rw [if_neg hvless] at h
        cases h

theorem refusal_none (h : refusal s.db user.id requested protocol=none) :
    limitVerdict s.db user.id=.ok () ∧ ∃ server,
      chosenServer s.db requested protocol=some server ∧
      (protocol=.vless → s.db.vlessConfig server.id≠none) := by
  unfold refusal at h
  cases hlimit : limitVerdict s.db user.id with
  | error e => simp [hlimit] at h
  | ok =>
    cases hserver : chosenServer s.db requested protocol with
    | none => simp [hlimit,hserver] at h
    | some server =>
      simp only [hlimit,hserver] at h
      by_cases hvless : protocol=.vless ∧ s.db.vlessConfig server.id=none
      · rw [if_pos hvless] at h
        cases h
      · exact ⟨rfl,server,rfl,fun hp hnone => hvless ⟨hp,hnone⟩⟩

/-- Devices are placed as they should be just when the server asked for may be used, or the call
is refused before it has written anything. -/
theorem placed_iff (cfg : Settings) (user : User) (name : String) (requested : Option Id)
    (protocol : VpnProtocol) (s : Session) :
    PlacedRightly cfg user name requested protocol s ↔ Available s.db requested protocol ∨
      ∃ e,refusal s.db user.id requested protocol=some e ∧ e.kind≠.internal := by
  cases hrefusal : refusal s.db user.id requested protocol with
  | some e =>
    have hrun := refusal_run cfg name hrefusal
    have hfails : ∀ result t,provision cfg user name requested protocol s≠(.ok result,t) := by
      intro result t h
      rw [hrun] at h
      cases h
    constructor
    · intro h
      by_cases hav : Available s.db requested protocol
      · exact Or.inl hav
      · obtain ⟨e',hkind,he⟩ := h.2 hav
        rw [hrun] at he
        cases he
        exact Or.inr ⟨e,rfl,hkind⟩
    · intro h
      constructor
      · exact fun result t hok => absurd hok (hfails result t)
      · intro hav
        rcases h with h|⟨e',he,hkind⟩
        · exact absurd h hav
        · cases he
          exact ⟨e,hkind,hrun⟩
  | none =>
    obtain ⟨hlimit,server,hserver,hconfig⟩ := refusal_none hrefusal
    have hrun := provision_placed cfg name hlimit hserver
    have hdraws := provisionOn_draws cfg user name hconfig
    constructor
    · intro h
      by_cases hav : Available s.db requested protocol
      · exact Or.inl hav
      · obtain ⟨e,_,he⟩ := h.2 hav
        rw [hrun] at he
        rw [he] at hdraws
        exact absurd hdraws (lt_irrefl _)
    · intro h
      have hav : Available s.db requested protocol := by
        rcases h with h|⟨e,he,_⟩
        · exact h
        · cases he
      obtain ⟨heligible,hleast⟩ := chosenServer_eligible hav hserver
      constructor
      · intro result t hok
        rw [hrun] at hok
        exact ⟨server,provisionOn_server hok,heligible,hleast⟩
      · exact fun hnot => absurd hav hnot

end

/-- The only server is taken into maintenance. -/
def shelved : World := (opening.take 6++[
  calm 3 (.servers (.updateServer 1 4 ⟨some .maintenance,none,none⟩))]).foldl
    (after sampleSettings) .initial

theorem shelved_placed : let s : Session := ⟨shelved,⟨4,[],fun _ => none,fun _ => true⟩⟩
    let user : User := ⟨1,77,none,none,none,none,.active⟩
    (∀ server∈shelved.db.vpnServers.rows,server.status=.maintenance) ∧
      (provision sampleSettings user "phone" (some 4) .wireguard s).1.toOption.map
        (fun result => result.device.serverId)=some (some 4) ∧
      ¬PlacedRightly sampleSettings user "phone" (some 4) .wireguard s := by
  intro s user
  have hshelved : ∀ server∈shelved.db.vpnServers.rows,server.status=.maintenance := by
    decide +kernel
  have hplaced : (provision sampleSettings user "phone" (some 4) .wireguard s).1.toOption.map
      (fun result => result.device.serverId)=some (some 4) := by decide +kernel
  have hnot : ¬Available s.db (some 4) .wireguard := by
    intro ⟨server,_,hrow,hon,_⟩
    rw [hshelved server hrow] at hon
    cases hon
  refine ⟨hshelved,hplaced,fun h => ?_⟩
  obtain ⟨e,_,he⟩ := h.2 hnot
  rw [he] at hplaced
  cases hplaced

end VpnService.Backend
