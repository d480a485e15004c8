import VpnService.Framework.Journal
import VpnService.Backend.Governance
import VpnService.Backend.Expiry

namespace VpnService.Backend

/-- What an audit record says beside who did it and when. -/
structure Deed where
  action : String
  targetType : String
  targetId : Id
  metadata : List (String×String)

def UserStatus.value : UserStatus → String
  | .active => "active"
  | .blocked => "blocked"

/-- What an answered request of the staff is recorded as. New rules are not recorded. -/
def StaffRequest.deeds : StaffRequest → StaffResponse → List Deed
  | .updateUserStatus userId status,_ =>
    [⟨"user.status_updated","user",userId,[("status",status.value)]⟩]
  | .createPlan _,.plan p => [⟨"plan.created","plan",p.id,[]⟩]
  | .updatePlan planId _,_ => [⟨"plan.updated","plan",planId,[]⟩]
  | .refundPayment paymentId,.payment p =>
    [⟨"payment.refunded","payment",paymentId,
      [("user_id",toString p.userId),("amount",numericText p.amount)]⟩]
  | .createCategory _ _,.category c =>
    [⟨"routing_category.created","routing_category",c.id,[]⟩]
  | .createServer _,.server s => [⟨"server.created","vpn_server",s.id,[]⟩]
  | .updateServer serverId _,_ => [⟨"server.updated","vpn_server",serverId,[]⟩]
  | .deleteServer serverId,_ => [⟨"server.deleted","vpn_server",serverId,[]⟩]
  | .createVlessServer _,.vlessServer s _ => [⟨"vless_server.created","vpn_server",s.id,[]⟩]
  | .updateVlessServer serverId _,_ => [⟨"vless_server.updated","vpn_server",serverId,[]⟩]
  | .deleteVlessServer serverId,_ => [⟨"vless_server.deleted","vpn_server",serverId,[]⟩]
  | .adminReply ticketId _,_ => [⟨"support_ticket.replied","support_ticket",ticketId,[]⟩]
  | .closeTicket ticketId,_ => [⟨"support_ticket.closed","support_ticket",ticketId,[]⟩]
  | _,_ => []

/-- The record of a deed, but for its number. -/
def Deed.record (adminId : Id) (now : Time) (d : Deed) : AuditLog :=
  ⟨0,some adminId,d.action,d.targetType,some d.targetId,d.metadata,now⟩

/-- The records due after something was answered. -/
def recordsOf (db : Database) (now : Time) : Happening → HttpResponse → List AuditLog
  | .request _ (.staff r),.staff admin a => (r.deeds a).map (Deed.record admin.id now)
  | .sweep asOf,_ => (db.listExpired (asOf.getD now)).filterMap (auditOf db now)
  | _,_ => []

/-- What fails is not recorded. -/
def recordsDue (cfg : Settings) (auth : AuthSettings) (jwt : Jwt) (site : Site) (o : Occasion) :
    List AuditLog :=
  match (serveSite cfg auth jwt site o).1 with
  | .ok a => recordsOf site.world.db o.env.now o.happening a
  | .error _ => []

def Site.auditTrail (site : Site) : List AuditLog :=
  site.world.db.auditLogs.rows.map AuditLog.unnumbered

/-- The audit log got these records, and nothing else happened to it. -/
structure Recorded (records : List AuditLog) (s t : Session) : Prop where
  logs : ∃ rows,t.db.auditLogs.rows=s.db.auditLogs.rows++rows ∧
    rows.map AuditLog.unnumbered=records
  numbered : LogsNumbered t.toWorld
  now : t.now=s.now

abbrev unloggedFrame : Frame Session := keeping fun s => (s.db.auditLogs,s.now)

theorem unlogged_books : Bookkeeping unloggedFrame :=
  ⟨fun _ => ⟨rfl,by simp⟩,fun _ _ => ⟨rfl,le_rfl⟩⟩

theorem alter_unlogged {f : Database → Database} (h : ∀ db,(f db).auditLogs=db.auditLogs) :
    Within unloggedFrame (alter f) :=
  fun s => ⟨congrArg (fun logs => (logs,s.now)) (h s.db),le_rfl⟩

theorem unlogged_of_everyday {s t : Session} (h : everydayFrame.rel s t) : unloggedFrame.rel s t :=
  ⟨Prod.ext h.logs h.now,h.tenure.serial⟩

section

variable {s t u : Session} {xs ys : List AuditLog}

theorem Recorded.unlogged (hn : LogsNumbered s.toWorld) (h : unloggedFrame.rel s t) :
    Recorded [] s t := by
  obtain ⟨hview,hserial⟩ := h
  simp only [Prod.mk.injEq] at hview
  refine ⟨⟨[],by rw [hview.1]; simp,rfl⟩,fun a ha => ?_,hview.2⟩
  rw [hview.1] at ha
  exact (hn a ha).trans_le hserial

theorem Recorded.trans (h : Recorded xs s t) (k : Recorded ys t u) : Recorded (xs++ys) s u := by
  obtain ⟨⟨as,has,hxs⟩,_,hnow⟩ := h
  obtain ⟨⟨bs,hbs,hys⟩,hn,hlater⟩ := k
  refine ⟨⟨as++bs,?_,?_⟩,hn,hlater.trans hnow⟩
  · rw [hbs,has,List.append_assoc]
  · rw [List.map_append,hxs,hys]

theorem audit_recorded {adminId targetId : Id} {action targetType : String}
    {metadata : List (String×String)} (hn : LogsNumbered s.toWorld)
    (h : recordAudit (some adminId) action targetType (some targetId) metadata s=(.ok (),t)) :
    Recorded [Deed.record adminId s.now ⟨action,targetType,targetId,metadata⟩] s t := by
  obtain ⟨os,ht⟩ := audit_ok h
  subst ht
  have hfresh : ∀ l∈s.db.auditLogs.rows,l.id≠s.serial := fun l hl => (hn l hl).ne
  refine ⟨⟨[auditRow s (some adminId) action targetType (some targetId) metadata],
    Store.rows_insert _ _ hfresh,rfl⟩,fun a ha => ?_,rfl⟩
  rcases (Store.mem_insert hfresh).mp ha with ha|ha
  · exact (hn a ha).trans (Int.lt_succ _)
  · subst ha
    exact Int.lt_succ _

/-- A quiet piece of work, then its record. -/
theorem deed_recorded {α β : Type} {m : Req α} {f : α → Deed} {g : α → Req β}
    {adminId : Id} {b : β} (hn : LogsNumbered s.toWorld) (hm : Within unloggedFrame m)
    (hg : ∀ a,Within unloggedFrame (g a))
    (h : (m >>= fun a => recordAudit (some adminId) (f a).action (f a).targetType
      (some (f a).targetId) (f a).metadata >>= fun _ => g a) s=(.ok b,t)) :
    ∃ a u v,m s=(.ok a,u) ∧ g a v=(.ok b,t) ∧
      Recorded [Deed.record adminId s.now (f a)] s t := by
  obtain ⟨a,u,ha,h⟩ := Eff.bind_ok.mp h
  obtain ⟨_,v,hv,h⟩ := Eff.bind_ok.mp h
  have hquiet : Recorded [] s u := Recorded.unlogged hn ((hm s).rel_of_run ha)
  have hlog : Recorded [Deed.record adminId u.now (f a)] u v := audit_recorded hquiet.numbered hv
  have hend : Recorded [] v t := Recorded.unlogged hlog.numbered ((hg a v).rel_of_run h)
  have hall := (hquiet.trans hlog).trans hend
  rw [hquiet.now,List.nil_append,List.append_nil] at hall
  exact ⟨a,u,v,ha,h,hall⟩

theorem servers_unlogged {f : Store VpnServer.id → Store VpnServer.id}
    {g : Store VlessServerConfig.id → Store VlessServerConfig.id} :
    Within unloggedFrame (alter fun db => {db with
      vpnServers := f db.vpnServers
      vlessServerConfigs := g db.vlessServerConfigs}) := alter_unlogged fun _ => rfl

theorem updateServer_unlogged (serverId : Id) (payload : VpnServerUpdate) :
    Within unloggedFrame (updateServer serverId payload) :=
  (getServer_within serverId).bind fun _ => Within.bind (alter_unlogged fun _ => rfl) fun _ =>
    flush_within unlogged_books

theorem updateVlessServer_unlogged (serverId : Id) (payload : VlessServerUpdate) :
    Within unloggedFrame (updateVlessServer serverId payload) :=
  (getVlessServer_within serverId).bind fun _ => Within.bind (alter_unlogged fun _ => rfl) fun _ =>
    (flush_within unlogged_books).bind fun _ => flush_within unlogged_books

theorem deleteServer_unlogged (serverId : Id) : Within unloggedFrame (deleteServer serverId) :=
  (getServer_within serverId).bind fun _ => alter_unlogged fun _ => rfl

theorem deleteVlessServer_unlogged (serverId : Id) :
    Within unloggedFrame (deleteVlessServer serverId) :=
  (getVlessServer_within serverId).bind fun _ => alter_unlogged fun _ => rfl

theorem close_unlogged (ticket : SupportTicket) : Within unloggedFrame (close ticket) :=
  Within.bind (alter_unlogged fun _ => rfl) fun _ => Within.pure _

theorem createCategory_unlogged (name : String) (description : Option String) :
    Within unloggedFrame (createCategory name description) :=
  (nextSerial_within unlogged_books).bind fun _ => (flush_within unlogged_books).bind fun _ =>
    getDb_within.bind fun _ => (Within.require _ _).bind fun _ =>
    Within.bind (alter_unlogged fun _ => rfl) fun _ => Within.pure _

theorem addRule_unlogged (cfg : Settings) (categoryId : Id) (domain : String)
    (routeType : RouteType) (enabled : Bool) :
    Within unloggedFrame (addRule cfg categoryId domain routeType enabled) :=
  getNow_within.bind fun _ => (nextSerial_within unlogged_books).bind fun _ =>
    (flush_within unlogged_books).bind fun _ => getDb_within.bind fun _ =>
    (Within.require _ _).bind fun _ => Within.bind (alter_unlogged fun _ => rfl) fun _ =>
    Within.pure _

theorem addMessage_unlogged (ticket : SupportTicket) (sender : SupportSender) (text : String) :
    Within unloggedFrame (addMessage ticket sender text) := by
  refine getNow_within.bind fun _ => (nextSerial_within unlogged_books).bind fun _ => ?_
  refine Within.ite (Within.bind (alter_unlogged fun _ => rfl) fun _ => ?_) ?_
  all_goals
    exact Within.bind (alter_unlogged fun _ => rfl) fun _ => (flush_within unlogged_books).bind
      fun _ => Within.pure _

theorem updateUserStatus_recorded {adminId userId : Id} {status : UserStatus}
    (hn : LogsNumbered s.toWorld) (h : updateUserStatus adminId userId status s=(.ok (),t)) :
    Recorded [Deed.record adminId s.now
      ⟨"user.status_updated","user",userId,[("status",status.value)]⟩] s t := by
  obtain ⟨user,hu,h⟩ := Eff.orRaise_bind_ok.mp h
  obtain ⟨_,u,hset,h⟩ := Eff.bind_ok.mp h
  have hquiet : Recorded [] s u := by
    cases hset
    exact Recorded.unlogged hn ⟨rfl,le_rfl⟩
  rw [← hquiet.now]
  cases status with
  | active => exact hquiet.trans (audit_recorded hquiet.numbered h)
  | blocked => exact hquiet.trans (audit_recorded hquiet.numbered h)

theorem refundPayment_recorded {adminId paymentId : Id} (hn : LogsNumbered s.toWorld)
    (h : refundPayment adminId paymentId s=(.ok (),t)) :
    ∃ payment : Payment,t.db.payments.get? paymentId=some {payment with status := .refunded} ∧
      Recorded [Deed.record adminId s.now ⟨"payment.refunded","payment",paymentId,
        [("user_id",toString payment.userId),("amount",numericText payment.amount)]⟩] s t := by
  obtain ⟨payment,hp,h⟩ := Eff.orRaise_bind_ok.mp h
  obtain ⟨_,u,hset,h⟩ := Eff.bind_ok.mp h
  obtain ⟨_,hset⟩ := Eff.require_bind_ok.mp hset
  have hid : payment.id=paymentId := Store.key_of_get? hp
  subst hid
  have hquiet : Recorded [] s u ∧
      u.db.payments.get? payment.id=some {payment with status := .refunded} := by
    have hget := s.db.payments.get?_modify_self payment.id
      (fun p => {p with status := .refunded}) fun _ => rfl
    have hrow : s.db.payments.get? payment.id=some payment := hp
    rw [hrow] at hget
    cases hset
    exact ⟨Recorded.unlogged hn ⟨rfl,le_rfl⟩,hget⟩
  have hlog := hquiet.1.trans (audit_recorded hquiet.1.numbered h)
  rw [hquiet.1.now] at hlog
  obtain ⟨os,ht⟩ := audit_ok h
  exact ⟨payment,by rw [ht]; exact hquiet.2,hlog⟩

/-- An answered request of the staff leaves just its record in the audit log. -/
theorem handleStaff_recorded {admin : AdminUser} {r : StaffRequest} {a : StaffResponse}
    (hn : LogsNumbered s.toWorld) (h : handleStaff cfg admin r s=(.ok a,t)) :
    Recorded ((r.deeds a).map (Deed.record admin.id s.now)) s t := by
  have hstill : ∀ {m : Req StaffResponse},Within unloggedFrame m → m s=(.ok a,t) →
      Recorded [] s t := fun hm hrun => Recorded.unlogged hn ((hm s).rel_of_run hrun)
  have hpage : ∀ {α : Type} (xs : List α) (offset limit : Int),
      Within unloggedFrame (page offset limit xs) :=
    fun _ _ _ => (Within.require _ _).bind fun _ => Within.pure _
  cases r with
  | listUsers offset limit =>
    simp only [handleStaff] at h
    exact hstill (getDb_within.bind fun _ => (hpage _ _ _).bind fun _ => Within.pure _) h
  | getUser userId => exact hstill (Within.bind orRaiseDb_within fun _ => Within.pure _) h
  | updateUserStatus userId status =>
    simp only [handleStaff] at h
    obtain ⟨user,u,hu,hrest⟩ := Eff.bind_ok.mp h
    have hus : u=s := (orRaiseDb_within (R := Frame.still) s).still_run hu
    rw [hus] at hrest
    obtain ⟨_,v,hv,hend⟩ := Eff.bind_ok.mp hrest
    cases hend
    exact updateUserStatus_recorded hn hv
  | createPlan payload =>
    simp only [handleStaff] at h
    obtain ⟨plan,u,v,_,hend,hrec⟩ := deed_recorded
      (f := fun p : Plan => ⟨"plan.created","plan",p.id,[]⟩) hn
      (createPlan_within unlogged_books (fun _ => alter_unlogged fun _ => rfl) payload)
      (fun _ => Within.pure _) h
    cases hend
    exact hrec
  | updatePlan planId payload =>
    simp only [handleStaff] at h
    obtain ⟨_,u,v,_,hend,hrec⟩ := deed_recorded
      (f := fun _ => ⟨"plan.updated","plan",planId,[]⟩) hn
      (updatePlan_within unlogged_books (fun _ => alter_unlogged fun _ => rfl) planId payload)
      (fun _ => (getPlan_within planId).bind fun _ => Within.pure _) h
    exact hrec
  | listAllPayments offset limit =>
    simp only [handleStaff] at h
    exact hstill (getDb_within.bind fun _ => (hpage _ _ _).bind fun _ => Within.pure _) h
  | refundPayment paymentId =>
    simp only [handleStaff] at h
    obtain ⟨_,u,hu,h⟩ := Eff.bind_ok.mp h
    obtain ⟨payment,hp,hrec⟩ := refundPayment_recorded hn hu
    obtain ⟨found,hfound,h⟩ := Eff.orRaise_bind_ok.mp h
    rw [hp] at hfound
    cases hfound
    cases h
    exact hrec
  | createCategory name description =>
    simp only [handleStaff] at h
    obtain ⟨category,u,v,_,hend,hrec⟩ := deed_recorded
      (f := fun c : RoutingCategory =>
        ⟨"routing_category.created","routing_category",c.id,[]⟩) hn
      (createCategory_unlogged name description) (fun _ => Within.pure _) h
    cases hend
    exact hrec
  | addRule categoryId domain routeType enabled =>
    simp only [handleStaff] at h
    exact hstill ((addRule_unlogged cfg categoryId domain routeType enabled).bind
      fun _ => Within.pure _) h
  | createServer payload =>
    simp only [handleStaff] at h
    obtain ⟨server,u,v,_,hend,hrec⟩ := deed_recorded
      (f := fun x : VpnServer => ⟨"server.created","vpn_server",x.id,[]⟩) hn
      (createServer_within unlogged_books (fun _ _ => servers_unlogged) payload)
      (fun _ => Within.pure _) h
    cases hend
    exact hrec
  | updateServer serverId payload =>
    simp only [handleStaff] at h
    obtain ⟨_,u,v,_,hend,hrec⟩ := deed_recorded
      (f := fun _ => ⟨"server.updated","vpn_server",serverId,[]⟩) hn
      (updateServer_unlogged serverId payload)
      (fun _ => (getServer_within serverId).bind fun _ => Within.pure _) h
    exact hrec
  | deleteServer serverId =>
    simp only [handleStaff] at h
    obtain ⟨_,u,v,_,hend,hrec⟩ := deed_recorded
      (f := fun _ => ⟨"server.deleted","vpn_server",serverId,[]⟩) hn
      (deleteServer_unlogged serverId)
      (fun _ => Within.pure _) h
    exact hrec
  | createVlessServer payload =>
    simp only [handleStaff] at h
    obtain ⟨created,u,v,_,hend,hrec⟩ := deed_recorded
      (f := fun x : VpnServer×VlessServerConfig =>
        ⟨"vless_server.created","vpn_server",x.1.id,[]⟩) hn
      (createVlessServer_within unlogged_books (fun _ _ => servers_unlogged) payload)
      (fun _ => Within.pure _) h
    cases hend
    exact hrec
  | updateVlessServer serverId payload =>
    simp only [handleStaff] at h
    obtain ⟨_,u,v,_,hend,hrec⟩ := deed_recorded
      (f := fun _ => ⟨"vless_server.updated","vpn_server",serverId,[]⟩) hn
      (updateVlessServer_unlogged serverId payload)
      (fun _ => (getVlessServer_within serverId).bind fun _ => Within.pure _) h
    exact hrec
  | deleteVlessServer serverId =>
    simp only [handleStaff] at h
    obtain ⟨_,u,v,_,hend,hrec⟩ := deed_recorded
      (f := fun _ => ⟨"vless_server.deleted","vpn_server",serverId,[]⟩) hn
      (deleteVlessServer_unlogged serverId)
      (fun _ => Within.pure _) h
    exact hrec
  | listAllTickets offset limit =>
    simp only [handleStaff] at h
    exact hstill (getDb_within.bind fun _ => (hpage _ _ _).bind fun _ =>
      (Within.require _ _).bind fun _ => Within.pure _) h
  | adminReply ticketId text =>
    simp only [handleStaff] at h
    obtain ⟨ticket,u,hu,hrest⟩ := Eff.bind_ok.mp h
    have hus : u=s := (getTicket_within (R := Frame.still) ticketId s).still_run hu
    rw [hus] at hrest
    obtain ⟨_,u,v,_,hend,hrec⟩ := deed_recorded
      (f := fun _ => ⟨"support_ticket.replied","support_ticket",ticketId,[]⟩) hn
      (addMessage_unlogged ticket .admin text) (fun _ => Within.pure _) hrest
    exact hrec
  | closeTicket ticketId =>
    simp only [handleStaff] at h
    obtain ⟨ticket,u,hu,hrest⟩ := Eff.bind_ok.mp h
    have hus : u=s := (getTicket_within (R := Frame.still) ticketId s).still_run hu
    rw [hus] at hrest
    obtain ⟨_,u,v,_,hend,hrec⟩ := deed_recorded
      (f := fun _ => ⟨"support_ticket.closed","support_ticket",ticketId,[]⟩) hn
      (close_unlogged ticket)
      (fun _ => getDb_within.bind fun _ => Within.pure _) hrest
    exact hrec
  | listAuditLogs offset limit =>
    simp only [handleStaff] at h
    exact hstill (getDb_within.bind fun _ => (hpage _ _ _).bind fun _ => Within.pure _) h

theorem filterMap_of_map_some {α β : Type} {xs : List α} {ys : List β} {f : α → Option β}
    (h : ys.map some=xs.map f) : ys=xs.filterMap f := by
  have hid : (ys.map some).filterMap id=ys := by simp [List.filterMap_map]
  rw [← hid,h,List.filterMap_map]
  rfl

/-- A sweep records each subscription that was due. -/
theorem runOnce_recorded {asOf : Option Time} {ids : List Id} (hn : LogsNumbered s.toWorld)
    (h : runOnce asOf s=(.ok ids,t)) :
    Recorded ((s.db.listExpired (asOf.getD s.now)).filterMap (auditOf s.db s.now)) s t := by
  unfold runOnce at h
  rw [getNow_bind_run,getDb_bind_run] at h
  obtain ⟨_,u,hu,hend⟩ := Eff.bind_ok.mp h
  cases hend
  obtain ⟨hswept,_⟩ := processEach_swept faulty_disable hn hu
  obtain ⟨rows,hrows,hrecords⟩ := hswept.logs
  refine ⟨⟨rows,hrows,?_⟩,hswept.numbered,hswept.now⟩
  apply filterMap_of_map_some
  rw [List.map_map]
  exact hrecords

/-- Nothing else gets into the audit log. -/
theorem handleHappening_unlogged {cfg : Settings} {auth : AuthSettings} {jwt : Jwt}
    {admins : Admins} {h : Happening} (hh : h.isOfficial=false) :
    Within unloggedFrame (handleHappening cfg auth jwt admins h) :=
  (handleHappening_everyday hh).mono unlogged_of_everyday

/-- What is answered leaves just its records in the audit log. -/
theorem handleHappening_recorded {cfg : Settings} {auth : AuthSettings} {jwt : Jwt}
    {admins later : Admins} {h : Happening} {a : HttpResponse} (hn : LogsNumbered s.toWorld)
    (hrun : handleHappening cfg auth jwt admins h s=(.ok (a,later),t)) :
    Recorded (recordsOf s.db s.now h a) s t := by
  cases hh : h.isOfficial with
  | false =>
    have hnone : recordsOf s.db s.now h a=[] := by
      cases h with
      | request headers r => cases r <;> first | rfl | cases hh
      | sweep asOf => cases hh
      | _ => rfl
    rw [hnone]
    exact Recorded.unlogged hn ((handleHappening_unlogged hh s).rel_of_run hrun)
  | true =>
    cases h with
    | request headers r =>
      cases r with
      | staff r =>
        obtain ⟨admin,u,hu,hrest⟩ := Eff.bind_ok.mp hrun
        have hus : u=s := (requireAdminRole_within (R := Frame.still) jwt auth admins headers
          r.roles s).still_run hu
        rw [hus] at hrest
        obtain ⟨answer,v,hv,hend⟩ := Eff.bind_ok.mp hrest
        cases hend
        exact handleStaff_recorded hn hv
      | _ => cases hh
    | sweep asOf =>
      obtain ⟨ids,u,hu,hend⟩ := Eff.bind_ok.mp hrun
      cases hend
      exact runOnce_recorded hn hu
    | _ => cases hh

end

/-- The frame of everything: numbers are drawn and never given back. -/
abbrev serialFrame : Frame Session := keeping fun _ => ()

theorem alter_serial (f : Database → Database) : Within serialFrame (alter f) :=
  fun _ => ⟨rfl,le_rfl⟩

/-- What the staff never writes. -/
def Database.beyond (db : Database) : Store Subscription.id×Store PromoCode.id×
    Store PromoCodeRedemption.id×Store SubscriptionLink.id×Store UserRoutingProfile.id×
    Store UserCategoryPreference.id×Store UserCustomDomain.id×Store VpnProfile.id :=
  (db.subscriptions,db.promoCodes,db.promoCodeRedemptions,db.subscriptionLinks,
    db.userRoutingProfiles,db.userCategoryPreferences,db.userCustomDomains,db.vpnProfiles)

/-- The frame of the staff, which talks to no agent and notifies nobody. -/
abbrev beyondFrame : Frame Session := keeping fun s => (s.db.beyond,s.vpn,s.xray,s.notices)

theorem beyond_books : Bookkeeping beyondFrame :=
  ⟨fun _ => ⟨rfl,by simp⟩,fun _ _ => ⟨rfl,le_rfl⟩⟩

theorem alter_beyond {f : Database → Database} (h : ∀ db,(f db).beyond=db.beyond) :
    Within beyondFrame (alter f) :=
  fun s => ⟨congrArg (fun x => (x,s.vpn,s.xray,s.notices)) (h s.db),le_rfl⟩

theorem servers_beyond {f : Store VpnServer.id → Store VpnServer.id}
    {g : Store VlessServerConfig.id → Store VlessServerConfig.id} :
    Within beyondFrame (alter fun db => {db with
      vpnServers := f db.vpnServers
      vlessServerConfigs := g db.vlessServerConfigs}) := alter_beyond fun _ => rfl

theorem audit_beyond (adminId : Option Id) (action targetType : String) (targetId : Option Id)
    (metadata : List (String×String)) :
    Within beyondFrame (recordAudit adminId action targetType targetId metadata) :=
  getNow_within.bind fun _ => (nextSerial_within beyond_books).bind fun _ =>
    Within.bind (alter_beyond fun _ => rfl) fun _ => flush_within beyond_books

theorem serial_of_unlogged {s t : Session} (h : unloggedFrame.rel s t) : serialFrame.rel s t :=
  ⟨rfl,h.2⟩

theorem page_within {R : Frame Session} {α : Type} (offset limit : Int) (xs : List α) :
    Within R (page offset limit xs) := (Within.require _ _).bind fun _ => Within.pure _

/-- A piece of work, then its record, then the answer. -/
theorem deed_within {R : Frame Session} {α β : Type} {m : Req α} {g : α → Req β}
    {f : α → Req Unit} (hm : Within R m) (hf : ∀ a,Within R (f a)) (hg : ∀ a,Within R (g a)) :
    Within R (m >>= fun a => f a >>= fun _ => g a) :=
  hm.bind fun a => (hf a).bind fun _ => hg a

/-- The staff leaves to the customers what is theirs. -/
theorem handleStaff_beyond (admin : AdminUser) (r : StaffRequest) :
    Within beyondFrame (handleStaff cfg admin r) := by
  have hbooks := beyond_books
  have hlog : ∀ {α : Type} {action targetType : String} {targetId : α → Option Id} (a : α),
      Within beyondFrame (recordAudit (some admin.id) action targetType (targetId a) []) :=
    fun _ => audit_beyond _ _ _ _ _
  cases r with
  | listUsers offset limit =>
    exact getDb_within.bind fun _ => (page_within _ _ _).bind fun _ => Within.pure _
  | getUser userId => exact Within.bind orRaiseDb_within fun _ => Within.pure _
  | updateUserStatus userId status =>
    exact Within.bind orRaiseDb_within fun _ => Within.bind (getDb_within.bind fun _ =>
      (Within.orRaise _ _).bind fun _ => Within.bind (alter_beyond fun _ => rfl) fun _ =>
      audit_beyond _ _ _ _ _) fun _ => Within.pure _
  | createPlan payload =>
    exact deed_within (createPlan_within hbooks (fun _ => alter_beyond fun _ => rfl) payload)
      hlog fun _ => Within.pure _
  | updatePlan planId payload =>
    exact deed_within
      (updatePlan_within hbooks (fun _ => alter_beyond fun _ => rfl) planId payload) hlog
      fun _ => (getPlan_within planId).bind fun _ => Within.pure _
  | listAllPayments offset limit =>
    exact getDb_within.bind fun _ => (page_within _ _ _).bind fun _ => Within.pure _
  | refundPayment paymentId =>
    exact Within.bind (getDb_within.bind fun _ => (Within.orRaise _ _).bind fun _ =>
      Within.bind ((Within.require _ _).bind fun _ => alter_beyond fun _ => rfl) fun _ =>
      audit_beyond _ _ _ _ _) fun _ => getDb_within.bind fun _ => (Within.orRaise _ _).bind
      fun _ => Within.pure _
  | createCategory name description =>
    exact deed_within ((nextSerial_within hbooks).bind fun _ => (flush_within hbooks).bind
      fun _ => getDb_within.bind fun _ => (Within.require _ _).bind fun _ =>
      Within.bind (alter_beyond fun _ => rfl) fun _ => Within.pure _) hlog fun _ => Within.pure _
  | addRule categoryId domain routeType enabled =>
    exact Within.bind (getNow_within.bind fun _ => (nextSerial_within hbooks).bind fun _ =>
      (flush_within hbooks).bind fun _ => getDb_within.bind fun _ => (Within.require _ _).bind
      fun _ => Within.bind (alter_beyond fun _ => rfl) fun _ => Within.pure _) fun _ =>
      Within.pure _
  | createServer payload =>
    exact deed_within (createServer_within hbooks (fun _ _ => servers_beyond) payload) hlog
      fun _ => Within.pure _
  | updateServer serverId payload =>
    exact deed_within ((getServer_within serverId).bind fun _ => Within.bind
      (alter_beyond fun _ => rfl) fun _ => flush_within hbooks) hlog fun _ =>
      (getServer_within serverId).bind fun _ => Within.pure _
  | deleteServer serverId =>
    exact deed_within ((getServer_within serverId).bind fun _ => alter_beyond fun _ => rfl)
      hlog fun _ => Within.pure _
  | createVlessServer payload =>
    exact deed_within (createVlessServer_within hbooks (fun _ _ => servers_beyond) payload)
      hlog fun _ => Within.pure _
  | updateVlessServer serverId payload =>
    exact deed_within ((getVlessServer_within serverId).bind fun _ => Within.bind
      (alter_beyond fun _ => rfl) fun _ => (flush_within hbooks).bind fun _ =>
      flush_within hbooks) hlog fun _ => (getVlessServer_within serverId).bind fun _ =>
      Within.pure _
  | deleteVlessServer serverId =>
    exact deed_within ((getVlessServer_within serverId).bind fun _ =>
      alter_beyond fun _ => rfl) hlog fun _ => Within.pure _
  | listAllTickets offset limit =>
    exact getDb_within.bind fun _ => (page_within _ _ _).bind fun _ =>
      (Within.require _ _).bind fun _ => Within.pure _
  | adminReply ticketId text =>
    refine (getTicket_within ticketId).bind fun ticket => deed_within ?_ hlog
      fun _ => Within.pure _
    refine getNow_within.bind fun _ => (nextSerial_within hbooks).bind fun _ =>
      Within.ite (Within.bind (alter_beyond fun _ => rfl) fun _ => ?_) ?_
    all_goals
      exact Within.bind (alter_beyond fun _ => rfl) fun _ => (flush_within hbooks).bind
        fun _ => Within.pure _
  | closeTicket ticketId =>
    exact (getTicket_within ticketId).bind fun _ => deed_within (Within.bind
      (alter_beyond fun _ => rfl) fun _ => Within.pure _) hlog fun _ =>
      getDb_within.bind fun _ => Within.pure _
  | listAuditLogs offset limit =>
    exact getDb_within.bind fun _ => (page_within _ _ _).bind fun _ => Within.pure _

theorem serial_of_beyond {s t : Session} (h : beyondFrame.rel s t) : serialFrame.rel s t :=
  ⟨rfl,h.2⟩

theorem handleHappening_serial (cfg : Settings) (auth : AuthSettings) (jwt : Jwt)
    (admins : Admins) (h : Happening) :
    Within serialFrame (handleHappening cfg auth jwt admins h) := by
  cases hh : h.isOfficial with
  | false => exact (handleHappening_unlogged hh).mono serial_of_unlogged
  | true =>
    cases h with
    | request headers r =>
      cases r with
      | staff r =>
        exact (requireAdminRole_within jwt auth admins headers r.roles).bind fun admin =>
          ((handleStaff_beyond admin r).mono serial_of_beyond).bind fun _ => Within.pure _
      | _ => cases hh
    | sweep asOf =>
      have hlog : ∀ {s t : Session},auditFrame.rel s t → serialFrame.rel s t :=
        fun h => ⟨rfl,h.2⟩
      have hdisable : ∀ d,Within serialFrame (disable d) :=
        fun d => (disable_customer d).mono fun h => ⟨rfl,h.1.2⟩
      exact (runOnce_within hlog (fun _ => alter_serial _) hdisable asOf).bind fun _ =>
        Within.pure _
    | _ => cases hh

section

variable (cfg : Settings) (auth : AuthSettings) (jwt : Jwt)

/-- What happens either commits all its handler wrote or rolls back to the state before, with
numbers drawn. -/
theorem serveSite_cases (site : Site) (o : Occasion) :
    (∃ a admins s,handleHappening cfg auth jwt site.admins o.happening ⟨site.world,o.env⟩=
        (.ok (a,admins),s) ∧ serveSite cfg auth jwt site o=(.ok a,⟨s.toWorld,admins⟩)) ∨
      ∃ e w,serveSite cfg auth jwt site o=(.error e,⟨w,site.admins⟩) ∧ w.db=site.world.db ∧
        site.world.serial≤w.serial := by
  unfold serveSite
  rcases transaction_cases (handleHappening cfg auth jwt site.admins o.happening) o.env
    site.world with ⟨⟨a,admins⟩,s,t,hm,hf,ht⟩|⟨e,s,hs,ht⟩
  · refine Or.inl ⟨a,admins,s,hm,?_⟩
    rw [ht,flush_world hf]
  · refine Or.inr ⟨e,{s.toWorld with db := site.world.db},by rw [ht],rfl,?_⟩
    have hrun := handleHappening_serial cfg auth jwt site.admins o.happening
      ⟨site.world,o.env⟩
    rcases hs with hm|⟨a,u,hm,hf⟩
    · exact (hrun.rel_of_run hm).2
    · rw [flush_world hf]
      exact (hrun.rel_of_run hm).2

theorem Site.after_serial (site : Site) (o : Occasion) :
    site.world.serial≤(site.after cfg auth jwt o).world.serial := by
  unfold Site.after
  rcases serveSite_cases cfg auth jwt site o with ⟨a,admins,s,hm,hserve⟩|⟨e,w,hserve,_,hs⟩
  · rw [hserve]
    have hrun := handleHappening_serial cfg auth jwt site.admins o.happening ⟨site.world,o.env⟩
    exact (hrun.rel_of_run hm).2
  · rw [hserve]
    exact hs

theorem Site.after_recorded {site : Site} (hn : LogsNumbered site.world) (o : Occasion) :
    (site.after cfg auth jwt o).auditTrail=
        site.auditTrail++recordsDue cfg auth jwt site o ∧
      LogsNumbered (site.after cfg auth jwt o).world := by
  unfold Site.after recordsDue
  rcases serveSite_cases cfg auth jwt site o with
    ⟨a,admins,s,hm,hserve⟩|⟨e,w,hserve,hdb,hs⟩
  · obtain ⟨⟨rows,hrows,hrecords⟩,hnumbered,_⟩ :=
      handleHappening_recorded (s := ⟨site.world,o.env⟩) hn hm
    rw [hserve]
    refine ⟨?_,hnumbered⟩
    unfold Site.auditTrail
    rw [hrows,List.map_append,hrecords]
  · rw [hserve]
    refine ⟨?_,fun x hx => ?_⟩
    · unfold Site.auditTrail
      simp [hdb]
    · have hx : x∈site.world.db.auditLogs.rows := hdb ▸ hx
      exact (hn x hx).trans_le hs

/-- A run adds to the audit log what is due at each of its steps. -/
theorem Site.run_recorded {site : Site} (hn : LogsNumbered site.world) (os : List Occasion) :
    (site.run cfg auth jwt os).auditTrail=site.auditTrail++
      (moments (Site.after cfg auth jwt) site os).flatMap fun m =>
        recordsDue cfg auth jwt m.1 m.2 :=
  journal_run Site.auditTrail (recordsDue cfg auth jwt) (fun site => LogsNumbered site.world)
    (fun _ o hn => (Site.after_recorded cfg auth jwt hn o).2)
    (fun _ o hn => (Site.after_recorded cfg auth jwt hn o).1) site os hn

theorem logs_numbered_initial : LogsNumbered Site.initial.world := fun x hx => by cases hx

theorem Site.run_numbered {site : Site} (hn : LogsNumbered site.world) (os : List Occasion) :
    LogsNumbered (site.run cfg auth jwt os).world := by
  induction os generalizing site with
  | nil => exact hn
  | cons o os ih => exact ih (Site.after_recorded cfg auth jwt hn o).2

/-- The audit log is the list of all that was answered and is to be recorded, in its order:
nothing that failed is in it, nothing is ever lost, changed or added to it otherwise. -/
theorem audit_trail (os : List Occasion) :
    (Site.initial.run cfg auth jwt os).auditTrail=
      (moments (Site.after cfg auth jwt) .initial os).flatMap fun m =>
        recordsDue cfg auth jwt m.1 m.2 := by
  have hnone : Site.initial.auditTrail=[] := rfl
  rw [Site.run_recorded cfg auth jwt logs_numbered_initial os,hnone,List.nil_append]

end

end VpnService.Backend
