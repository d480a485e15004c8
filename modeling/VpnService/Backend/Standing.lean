import VpnService.Framework.Lasting
import VpnService.Backend.Choices
import VpnService.Backend.Errors

namespace VpnService.Backend

/-- What users may come back to: no device, user, plan or category ever goes, no device goes over
to another user and no user to another account. -/
structure Enduring (v w : World) : Prop where
  serial : v.serial≤w.serial
  below : DevicesBelow v.serial v.db → DevicesBelow w.serial w.db
  devices : v.db.devices.Lasting Device.deed w.db.devices
  users : v.db.users.Lasting User.account w.db.users
  plans : v.db.plans.Lasting Plan.id w.db.plans
  categories : v.db.routingCategories.Lasting RoutingCategory.id w.db.routingCategories

theorem Enduring.refl (w : World) : Enduring w w :=
  ⟨le_rfl,id,.refl _,.refl _,.refl _,.refl _⟩

theorem Enduring.trans {u v w : World} (h : Enduring u v) (k : Enduring v w) : Enduring u w :=
  ⟨h.serial.trans k.serial,fun hu => k.below (h.below hu),h.devices.trans k.devices,
    h.users.trans k.users,h.plans.trans k.plans,h.categories.trans k.categories⟩

def standing : Frame Session where
  rel s t := Enduring s.toWorld t.toWorld
  refl s := .refl s.toWorld
  trans := Enduring.trans

/-- The tables of what users may come back to. -/
def Database.landmarks (db : Database) : Store Device.id×Store User.id×Store Plan.id×
    Store RoutingCategory.id :=
  (db.devices,db.users,db.plans,db.routingCategories)

theorem Enduring.of_same {v w : World} (h : w.db.landmarks=v.db.landmarks)
    (hs : v.serial≤w.serial) : Enduring v w := by
  simp only [Database.landmarks,Prod.mk.injEq] at h
  obtain ⟨hdevices,husers,hplans,hcategories⟩ := h
  exact ⟨hs,fun hn d hd => (hn d (hdevices ▸ hd)).trans_le hs,.of_eq hdevices,.of_eq husers,
    .of_eq hplans,.of_eq hcategories⟩

theorem standing_books : Bookkeeping standing :=
  ⟨fun _ => .of_same rfl (Int.lt_succ _).le,fun _ _ => .of_same rfl le_rfl⟩

theorem alter_standing {f : Database → Database} (h : ∀ db,(f db).landmarks=db.landmarks) :
    Within standing (alter f) := fun s => .of_same (h s.db) le_rfl

theorem standing_of_everyday {s t : Session} (h : everydayFrame.rel s t) : standing.rel s t where
  serial := h.tenure.serial
  below := h.tenure.below
  devices := h.tenure.kept
  users := h.accounts
  plans := .of_eq (congrArg Catalogue.plans h.catalogue)
  categories := .of_eq (congrArg Catalogue.categories h.catalogue)

theorem audit_standing (adminId : Option Id) (action targetType : String) (targetId : Option Id)
    (metadata : List (String×String)) :
    Within standing (recordAudit adminId action targetType targetId metadata) :=
  getNow_within.bind fun _ => (nextSerial_within standing_books).bind fun _ =>
    Within.bind (alter_standing fun _ => rfl) fun _ => flush_within standing_books

theorem runOnce_standing (asOf : Option Time) : Within standing (runOnce asOf) := by
  have hone : ∀ x,Within standing (processOne x) := by
    intro x
    have hexpire : Within standing (expire x) := alter_standing fun _ => rfl
    have hdisable : ∀ d,Within standing (disable d) :=
      fun d => (disable_customer d).mono fun h => standing_of_everyday (everyday_of_customer h)
    have hnotify : ∀ telegramId name,Within standing (notify telegramId name) :=
      fun _ _ s => .of_same rfl le_rfl
    exact getDb_within.bind fun _ => (Within.orRaise _ _).bind fun _ =>
      (Within.orRaise _ _).bind fun _ => hexpire.bind fun _ =>
      (disableAllForUser_within hdisable _).bind fun _ =>
      (audit_standing _ _ _ _ _).bind fun _ => hnotify _ _
  exact getNow_within.bind fun _ => getDb_within.bind fun _ =>
    (Within.each fun x _ => hone x).bind fun _ => Within.pure _

theorem servers_standing {f : Store VpnServer.id → Store VpnServer.id}
    {g : Store VlessServerConfig.id → Store VlessServerConfig.id} :
    Within standing (alter fun db => {db with
      vpnServers := f db.vpnServers
      vlessServerConfigs := g db.vlessServerConfigs}) := alter_standing fun _ => rfl

/-- The devices of a deleted server stay with their users. -/
theorem dropServer_standing (serverId : Id) : Within standing (alter (dropServer serverId)) := by
  intro s
  have huser : ∀ d,(unassigned serverId d).deed=d.deed := by
    intro d
    unfold unassigned
    split_ifs
    · rfl
    · rfl
  have htenure := mapped_tenure (s := s) (f := unassigned serverId)
    (fun d => (unassigned_keeps serverId d).1) huser
  exact ⟨le_rfl,htenure.below,htenure.kept,.refl _,.refl _,.refl _⟩

theorem insertPlan_standing (plan : Plan) :
    Within standing (alter fun db => {db with plans := db.plans.insert plan}) := fun s =>
  {Enduring.refl s.toWorld with plans := Store.lasting_insert plan}

theorem insertCategory_standing (category : RoutingCategory) : Within standing
    (alter fun db => {db with routingCategories := db.routingCategories.insert category}) :=
  fun s => {Enduring.refl s.toWorld with categories := Store.lasting_insert category}

theorem updatePlan_standing (planId : Id) (payload : PlanUpdate) :
    Within standing (updatePlan planId payload) := by
  refine (getPlan_within planId).bind fun plan => Within.bind (fun s => ?_) fun _ =>
    flush_within standing_books
  have hplans : s.db.plans.Lasting Plan.id
      (s.db.plans.modify plan.id (updatedPlan payload) fun _ => rfl) :=
    Store.lasting_modify _ _ fun _ => rfl
  exact {Enduring.refl s.toWorld with plans := hplans}

theorem updateUserStatus_standing (adminId userId : Id) (status : UserStatus) :
    Within standing (updateUserStatus adminId userId status) := by
  refine getDb_within.bind fun _ => (Within.orRaise _ _).bind fun user =>
    Within.bind (fun s => ?_) fun _ => audit_standing _ _ _ _ _
  have hkey : ∀ u : User,({u with status := status} : User).id=u.id := fun _ => rfl
  have husers : s.db.users.Lasting User.account (s.db.users.modify user.id _ hkey) :=
    Store.lasting_modify _ _ fun _ => rfl
  exact {Enduring.refl s.toWorld with users := husers}

theorem handleStaff_standing (admin : AdminUser) (r : StaffRequest) :
    Within standing (handleStaff cfg admin r) := by
  have hbooks := standing_books
  have hlog : ∀ {α : Type} {action targetType : String} {targetId : α → Option Id} (a : α),
      Within standing (recordAudit (some admin.id) action targetType (targetId a) []) :=
    fun _ => audit_standing _ _ _ _ _
  have hread : r.isRead=true → Within standing (handleStaff cfg admin r) := fun hr =>
    (handleStaff_read admin hr).mono fun {s t} he => by
      have he : t=s := he
      subst he
      exact standing.refl _
  cases r with
  | listUsers offset limit => exact hread rfl
  | getUser userId => exact hread rfl
  | listAllPayments offset limit => exact hread rfl
  | listAllTickets offset limit => exact hread rfl
  | listAuditLogs offset limit => exact hread rfl
  | updateUserStatus userId status =>
    exact Within.bind orRaiseDb_within fun _ => (updateUserStatus_standing _ _ _).bind fun _ =>
      Within.pure _
  | createPlan payload =>
    exact deed_within ((Within.require _ _).bind fun _ => getDb_within.bind fun _ =>
      (Within.require _ _).bind fun _ => (nextSerial_within hbooks).bind fun _ =>
      (insertPlan_standing _).bind fun _ => (flush_within hbooks).bind fun _ => Within.pure _)
      hlog fun _ => Within.pure _
  | updatePlan planId payload =>
    exact deed_within (updatePlan_standing planId payload) hlog fun _ =>
      (getPlan_within planId).bind fun _ => Within.pure _
  | refundPayment paymentId =>
    exact Within.bind (getDb_within.bind fun _ => (Within.orRaise _ _).bind fun _ =>
      Within.bind ((Within.require _ _).bind fun _ => alter_standing fun _ => rfl) fun _ =>
      audit_standing _ _ _ _ _) fun _ => getDb_within.bind fun _ => (Within.orRaise _ _).bind
      fun _ => Within.pure _
  | createCategory name description =>
    exact deed_within ((nextSerial_within hbooks).bind fun _ => (flush_within hbooks).bind
      fun _ => getDb_within.bind fun _ => (Within.require _ _).bind fun _ =>
      (insertCategory_standing _).bind fun _ => Within.pure _) hlog fun _ => Within.pure _
  | addRule categoryId domain routeType enabled =>
    exact Within.bind (getNow_within.bind fun _ => (nextSerial_within hbooks).bind fun _ =>
      (flush_within hbooks).bind fun _ => getDb_within.bind fun _ => (Within.require _ _).bind
      fun _ => Within.bind (alter_standing fun _ => rfl) fun _ => Within.pure _) fun _ =>
      Within.pure _
  | createServer payload =>
    exact deed_within (createServer_within hbooks (fun _ _ => servers_standing) payload) hlog
      fun _ => Within.pure _
  | updateServer serverId payload =>
    exact deed_within ((getServer_within serverId).bind fun _ => Within.bind
      (alter_standing fun _ => rfl) fun _ => flush_within hbooks) hlog fun _ =>
      (getServer_within serverId).bind fun _ => Within.pure _
  | deleteServer serverId =>
    exact deed_within ((getServer_within serverId).bind fun _ => dropServer_standing _) hlog
      fun _ => Within.pure _
  | createVlessServer payload =>
    exact deed_within (createVlessServer_within hbooks (fun _ _ => servers_standing) payload) hlog
      fun _ => Within.pure _
  | updateVlessServer serverId payload =>
    exact deed_within ((getVlessServer_within serverId).bind fun _ => Within.bind
      (alter_standing fun _ => rfl) fun _ => (flush_within hbooks).bind fun _ =>
      flush_within hbooks) hlog fun _ => (getVlessServer_within serverId).bind fun _ =>
      Within.pure _
  | deleteVlessServer serverId =>
    exact deed_within ((getVlessServer_within serverId).bind fun _ => dropServer_standing _)
      hlog fun _ => Within.pure _
  | adminReply ticketId text =>
    refine (getTicket_within ticketId).bind fun ticket => deed_within ?_ hlog
      fun _ => Within.pure _
    refine getNow_within.bind fun _ => (nextSerial_within hbooks).bind fun _ =>
      Within.ite (Within.bind (alter_standing fun _ => rfl) fun _ => ?_) ?_
    all_goals
      exact Within.bind (alter_standing fun _ => rfl) fun _ => (flush_within hbooks).bind
        fun _ => Within.pure _
  | closeTicket ticketId =>
    exact (getTicket_within ticketId).bind fun _ => deed_within (Within.bind
      (alter_standing fun _ => rfl) fun _ => Within.pure _) hlog fun _ =>
      getDb_within.bind fun _ => Within.pure _

section

variable {cfg : Settings} {s t : Session} {userId : Id} {name : String} {serverId : Option Id}
  {protocol : VpnProtocol} {r : ProvisionedDevice}

theorem refreshed_id (d : Device) : Yields (fun x => x.id=d.id) (refreshed d) := by
  intro s x t h
  cases h
  cases hfound : s.db.devices.get? d.id with
  | none => rfl
  | some y => exact Store.key_of_get? hfound

/-- A new device stays with its user, whatever is done for it. -/
theorem addDevice_stands {m : Device → Req ProvisionedDevice}
    (hm : ∀ d,Within customerFrame (m d)) (hid : ∀ d,Yields (fun r => r.device.id=d.id) (m d))
    (hs : DevicesBelow s.serial s.db)
    (h : (addDevice userId name serverId protocol >>= m) s=(.ok r,t)) :
    ∃ d,t.db.devices.get? r.device.id=some d ∧ d.userId=userId := by
  obtain ⟨device,u,hu,h⟩ := Eff.bind_ok.mp h
  obtain ⟨_,hdevice,os,hus⟩ := addDevice_ok hu
  have hfresh : ∀ d∈s.db.devices.rows,d.id≠device.id := by
    intro d hd
    rw [hdevice]
    exact (hs d hd).ne
  have hadded : u.db.devices.get? device.id=some device := by
    rw [hus]
    exact (Store.get?_insert _ _ hfresh _).trans (if_pos rfl)
  have hkept := ((hm device u).rel_of_run h).2.kept
  obtain ⟨d,hd,hdeed⟩ := hkept.get? Prod.fst (fun _ => rfl) hadded
  refine ⟨d,?_,?_⟩
  · rw [hid device u r t h]
    exact hd
  · rw [hdevice] at hdeed
    exact congrArg Prod.snd hdeed

theorem provision_stands {user : User} (hs : DevicesBelow s.serial s.db)
    (h : provision cfg user name serverId protocol s=(.ok r,t)) :
    ∃ d,t.db.devices.get? r.device.id=some d ∧ d.userId=user.id := by
  obtain ⟨_,u,hu,h⟩ := Eff.bind_ok.mp h
  have hus : u=s := (enforceDeviceLimit_within (R := Frame.still) user.id s).still_run hu
  rw [hus] at h
  cases protocol with
  | vless =>
    obtain ⟨server,v,hv,h⟩ := Eff.bind_ok.mp h
    have hvs : v=s := (chooseServer_within (R := Frame.still) serverId .vless s).still_run hv
    rw [hvs,getDb_bind_run] at h
    obtain ⟨config,_,h⟩ := Eff.orRaise_bind_ok.mp h
    refine addDevice_stands (fun d => ?_) (fun d => ?_) hs h
    · exact (createOrRotate_customer _).bind fun _ => (nextSerial_within customer_books).bind
        fun _ => getNow_within.bind fun _ => (xrayRequest_customer _ _).bind fun _ =>
        (nextSerial_within customer_books).bind fun _ => (flush_within customer_books).bind
        fun _ => getDb_within.bind fun _ => (Within.require _ _).bind fun _ =>
        Within.bind (alter_customer fun _ => rfl) fun _ => (addLoad_customer _).bind fun _ =>
        (generateQrCode_within _).bind fun _ => Within.pure _
    · exact Yields.bind fun _ => Yields.bind fun _ => Yields.bind fun _ => Yields.bind fun _ =>
        Yields.bind fun _ => Yields.bind fun _ => Yields.bind fun _ => Yields.bind fun _ =>
        Yields.bind fun _ => Yields.bind fun _ => Yields.bind fun _ => Yields.pure rfl
  | wireguard =>
    obtain ⟨server,v,hv,h⟩ := Eff.bind_ok.mp h
    have hvs : v=s := (chooseServer_within (R := Frame.still) serverId .wireguard s).still_run hv
    rw [hvs] at h
    refine addDevice_stands (fun d => ?_) (fun d => ?_) hs h
    · exact (createOrRotate_customer _).bind fun _ => (createPeerAttempts_customer _ _ _ 5).bind
        fun _ => Within.bind (updateDevice_customer _ _ fun _ => rfl) fun _ =>
        (addLoad_customer _).bind fun _ => (regenerateProfile_customer _ _ _).bind fun _ =>
        (generateQrCode_within _).bind fun _ => (generateQrCode_within _).bind fun _ =>
        (refreshed_within _).bind fun _ => Within.pure _
    · exact Yields.bind fun _ => Yields.bind fun _ => Yields.bind fun _ => Yields.bind fun _ =>
        Yields.bind fun _ => Yields.bind fun _ => Yields.bind fun _ =>
        (refreshed_id d).bind_of fun _ hx => Yields.pure hx

end

/-- The device is one of the user with this Telegram id. -/
def Database.Belongs (db : Database) (telegramId : Int) (deviceId : Id) : Prop :=
  ∃ user d,db.userByTelegramId telegramId=some user ∧ db.devices.get? deviceId=some d ∧
    d.userId=user.id

section

variable {v w : World} (h : Enduring v w) {telegramId : Int}

include h

theorem Enduring.user {user : User} (hu : v.db.userByTelegramId telegramId=some user) :
    ∃ u,w.db.userByTelegramId telegramId=some u ∧ u.id=user.id := by
  obtain ⟨u,hu,haccount⟩ := h.users.find? (q := fun x => x.2=telegramId) (fun _ => rfl) hu
  exact ⟨u,hu,congrArg Prod.fst haccount⟩

theorem Enduring.belongs {deviceId : Id} (hv : v.db.Belongs telegramId deviceId) :
    w.db.Belongs telegramId deviceId := by
  obtain ⟨user,d,hu,hd,howner⟩ := hv
  obtain ⟨u,hu,huser⟩ := h.user hu
  obtain ⟨e,he,hdeed⟩ := h.devices.get? Prod.fst (fun _ => rfl) hd
  exact ⟨u,e,hu,he,(congrArg Prod.snd hdeed).trans (howner.trans huser.symm)⟩

end

section

variable (cfg : Settings) (auth : AuthSettings) (jwt : Jwt)

theorem handleHappening_standing (admins : Admins) (h : Happening) :
    Within standing (handleHappening cfg auth jwt admins h) := by
  cases hh : h.isOfficial with
  | false => exact (handleHappening_everyday hh).mono standing_of_everyday
  | true =>
    cases h with
    | request headers r =>
      cases r with
      | staff r =>
        exact (requireAdminRole_within jwt auth admins headers r.roles).bind fun admin =>
          (handleStaff_standing admin r).bind fun _ => Within.pure _
      | _ => cases hh
    | sweep asOf => exact (runOnce_standing asOf).bind fun _ => Within.pure _
    | _ => cases hh

theorem Site.after_endures (site : Site) (o : Occasion) :
    Enduring site.world (site.after cfg auth jwt o).world := by
  unfold Site.after
  rcases serveSite_cases cfg auth jwt site o with ⟨a,admins,t,hm,hserve⟩|⟨e,w,hserve,hdb,hserial⟩
  · rw [hserve]
    exact (handleHappening_standing cfg auth jwt site.admins o.happening
      ⟨site.world,o.env⟩).rel_of_run hm
  · rw [hserve]
    exact .of_same (congrArg Database.landmarks hdb) hserial

/-- Whatever happens, what users may come back to stands. -/
theorem Site.run_endures (site : Site) (os : List Occasion) :
    Enduring site.world (site.run cfg auth jwt os).world := by
  induction os generalizing site with
  | nil => exact .refl _
  | cons o os ih => exact (Site.after_endures cfg auth jwt site o).trans (ih _)

theorem Site.run_below (os : List Occasion) :
    DevicesBelow (Site.initial.run cfg auth jwt os).world.serial
      (Site.initial.run cfg auth jwt os).world.db := by
  refine (Site.run_endures cfg auth jwt .initial os).below fun d hd => ?_
  have hnone : d∈([] : List Device) := hd
  cases hnone

variable {cfg auth jwt}

theorem flush_raised : Raises (fun e => e=internalError "DBAPIError") flush := by
  refine Raises.bind (fun s e t h => ?_) fun o => Raises.ite (Raises.pure ()) (Raises.raise rfl)
  unfold nextOutcome at h
  cases hs : s.outcomes with
  | nil => simp [hs] at h
  | cons o os => simp [hs] at h

/-- How a request is turned away before its user is known. -/
def doorErrors : List String :=
  ["invalid_internal_token","missing_user_header","user_not_found","user_blocked"]

theorem getCurrentUser_raises (auth : AuthSettings) (headers : Headers) :
    Raises (fun e => e.errorCode∈doorErrors) (getCurrentUser auth headers) :=
  (Raises.require _ (by decide)).bind fun _ => (Raises.orRaise (by decide) _).bind fun _ =>
    getDb_raises.bind fun _ => (Raises.orRaise (by decide) _).bind fun _ =>
    (Raises.require _ (by decide)).bind fun _ => Raises.pure _

theorem serveSite_ok {site : Site} {o : Occasion} {a : HttpResponse}
    (h : (serveSite cfg auth jwt site o).1=.ok a) : ∃ admins t,
      handleHappening cfg auth jwt site.admins o.happening ⟨site.world,o.env⟩=
        (.ok (a,admins),t) ∧ site.after cfg auth jwt o=⟨t.toWorld,admins⟩ := by
  rcases serveSite_cases cfg auth jwt site o with ⟨a',admins,t,hm,hserve⟩|⟨e,w,hserve,_⟩
  · rw [hserve] at h
    cases h
    exact ⟨admins,t,hm,congrArg Prod.snd hserve⟩
  · rw [hserve] at h
    cases h

/-- What is raised is raised by the handler, or when its transaction is committed. -/
theorem serveSite_error {site : Site} {o : Occasion} {e : AppError}
    (h : (serveSite cfg auth jwt site o).1=.error e) :
    (site.after cfg auth jwt o).world.db=site.world.db ∧
      ((∃ t,handleHappening cfg auth jwt site.admins o.happening ⟨site.world,o.env⟩=
        (.error e,t)) ∨ e=internalError "DBAPIError") := by
  unfold Site.after
  unfold serveSite at h ⊢
  rcases transaction_cases (handleHappening cfg auth jwt site.admins o.happening) o.env
    site.world with ⟨⟨a,admins⟩,s,t,_,_,ht⟩|⟨e',t,hraised,ht⟩
  · rw [ht] at h
    cases h
  · rw [ht] at h ⊢
    cases h
    refine ⟨rfl,?_⟩
    rcases hraised with hm|⟨_,u,_,hflush⟩
    · exact Or.inl ⟨t,hm⟩
    · exact Or.inr (flush_raised u e t hflush)

/-- An answered request of the bot was made by its user. -/
theorem serveSite_bot {site : Site} {env : Env} {headers : Headers} {r : BotRequest}
    {x : HttpResponse}
    (h : (serveSite cfg auth jwt site ⟨env,.request headers (.bot r)⟩).1=.ok x) :
    ∃ user a t,x=.bot a ∧ headers.actor site.world.db=some user ∧
      handleUser cfg user r ⟨site.world,env⟩=(.ok a,t) ∧
      site.after cfg auth jwt ⟨env,.request headers (.bot r)⟩=⟨t.toWorld,site.admins⟩ := by
  obtain ⟨admins,t,hm,hafter⟩ := serveSite_ok h
  obtain ⟨user,u,hu,hm⟩ := Eff.bind_ok.mp hm
  obtain ⟨hus,hactor⟩ := getCurrentUser_ok hu
  rw [hus] at hm
  obtain ⟨a,v,hv,hend⟩ := Eff.bind_ok.mp hm
  cases hend
  exact ⟨user,a,t,rfl,hactor,hv,hafter⟩

end

end VpnService.Backend
