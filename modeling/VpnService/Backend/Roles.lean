import VpnService.Backend.AuditTrail
import VpnService.Backend.Reachable

namespace VpnService.Backend

/-- The token that was presented names this account. -/
def Admits (jwt : Jwt) (auth : AuthSettings) (now : Time) (bearer : Option String) (id : Id) :
    Prop :=
  ∃ token q sub,bearer=some token ∧ jwt.decode token auth.jwtSecret now=some q ∧
    q.sub=some sub ∧ Agent.parseInt sub=some id

/-- Whoever is let in is an active admin in one of the roles, whom the token names. -/
theorem requireAdminRole_ok {jwt : Jwt} {auth : AuthSettings} {admins : Admins} {headers : Headers}
    {roles : List AdminRole} {s t : Session} {admin : AdminUser}
    (h : requireAdminRole jwt auth admins headers roles s=(.ok admin,t)) :
    t=s ∧ admin∈admins.rows ∧ admin.isActive=true ∧ (roles=[] ∨ admin.role∈roles) ∧
      Admits jwt auth s.now (headers.authorization.bind bearerToken) admin.id := by
  obtain ⟨current,u,hcurrent,hrole⟩ := Eff.bind_ok.mp h
  obtain ⟨hroles,hend⟩ := Eff.require_bind_ok.mp hrole
  cases hend
  obtain ⟨token,htoken,h⟩ := Eff.orRaise_bind_ok.mp hcurrent
  rw [getNow_bind_run] at h
  obtain ⟨payload,hpayload,h⟩ := Eff.orRaise_bind_ok.mp h
  obtain ⟨_,h⟩ := Eff.require_bind_ok.mp h
  obtain ⟨sub,hsub,h⟩ := Eff.orRaise_bind_ok.mp h
  obtain ⟨id,hid,h⟩ := Eff.orRaise_bind_ok.mp h
  obtain ⟨found,hfound,h⟩ := Eff.orRaise_bind_ok.mp h
  obtain ⟨hactive,h⟩ := Eff.require_bind_ok.mp h
  cases h
  have hown : admin.id=id := Store.key_of_get? hfound
  exact ⟨rfl,Store.mem_of_get? hfound,hactive,hroles,token,payload,sub,htoken,hpayload,hsub,
    hown ▸ hid⟩

/-- The requests that only read. -/
def StaffRequest.isRead : StaffRequest → Bool
  | .listUsers .. | .getUser .. | .listAllPayments .. | .listAllTickets .. | .listAuditLogs .. =>
    true
  | _ => false

/-- All that a viewer may do is read. -/
theorem StaffRequest.read_of_viewer {r : StaffRequest} (h : AdminRole.viewer∈r.roles) :
    r.isRead=true := by
  cases r with
  | listUsers offset limit => rfl
  | getUser userId => rfl
  | listAllPayments offset limit => rfl
  | listAuditLogs offset limit => rfl
  | _ => simp [StaffRequest.roles] at h

/-- Only a new rule leaves no record. -/
def StaffRequest.isRule : StaffRequest → Bool
  | .addRule .. => true
  | _ => false

/-- The catalogue without its rules. -/
def Catalogue.ruleless (c : Catalogue) : Catalogue := {c with rules := .empty}

/-- What the staff governs beside the catalogue. -/
def Database.clientele (db : Database) :
    Store User.id×Store SupportTicket.id×Store SupportMessage.id :=
  (db.users,db.supportTickets,db.supportMessages)

abbrev catalogueFrame : Frame Session := keeping fun s => s.db.catalogue

abbrev clienteleFrame : Frame Session := keeping fun s => s.db.clientele

abbrev rulelessFrame : Frame Session := keeping fun s => (s.db.catalogue.ruleless,s.db.clientele)

abbrev officeFrame : Frame Session := keeping fun s => (s.db.catalogue,s.db.clientele)

theorem keeping_books {τ : Type} {view : Session → τ}
    (hserial : ∀ s n,view {s with serial := n}=view s)
    (houtcomes : ∀ s os,view {s with outcomes := os}=view s) : Bookkeeping (keeping view) :=
  ⟨fun s => ⟨hserial s _,by simp⟩,fun s os => ⟨houtcomes s os,le_rfl⟩⟩

theorem alter_keeping {τ : Type} {view : Session → τ} {f : Database → Database}
    (h : ∀ s,view {s with db := f s.db}=view s) : Within (keeping view) (alter f) :=
  fun s => ⟨h s,le_rfl⟩

theorem audit_office (adminId : Option Id) (action targetType : String) (targetId : Option Id)
    (metadata : List (String×String)) :
    Within officeFrame (recordAudit adminId action targetType targetId metadata) :=
  getNow_within.bind fun _ => (nextSerial_within (keeping_books (fun _ _ => rfl) fun _ _ => rfl)).bind
    fun _ => Within.bind (alter_keeping fun _ => rfl) fun _ =>
    flush_within (keeping_books (fun _ _ => rfl) fun _ _ => rfl)

theorem notify_office (telegramId : Int) (name : String) :
    Within officeFrame (notify telegramId name) := fun _ => ⟨rfl,le_rfl⟩

theorem office_of_customer {s t : Session} (h : customerFrame.rel s t) : officeFrame.rel s t := by
  obtain ⟨⟨hview,hserial⟩,_⟩ := h
  simp only [Prod.mk.injEq] at hview
  refine ⟨Prod.ext (congrArg Governed.catalogue hview.1) ?_,hserial⟩
  exact Prod.ext (congrArg Governed.users hview.1)
    (Prod.ext (congrArg Governed.tickets hview.1) (congrArg Governed.messages hview.1))

/-- The worker leaves to the staff what the staff governs. -/
theorem runOnce_office (asOf : Option Time) : Within officeFrame (runOnce asOf) := by
  have hone : ∀ x,Within officeFrame (processOne x) := by
    intro x
    have hexpire : Within officeFrame (expire x) := alter_keeping fun _ => rfl
    have hdisable : ∀ d,Within officeFrame (disable d) :=
      fun d => (disable_customer d).mono office_of_customer
    exact getDb_within.bind fun _ => (Within.orRaise _ _).bind fun _ =>
      (Within.orRaise _ _).bind fun _ => hexpire.bind fun _ =>
      (disableAllForUser_within hdisable _).bind fun _ =>
      (audit_office _ _ _ _ _).bind fun _ => notify_office _ _
  exact getNow_within.bind fun _ => getDb_within.bind fun _ =>
    (Within.each fun x _ => hone x).bind fun _ => Within.pure _

section

variable (admin : AdminUser)

theorem handleStaff_read {r : StaffRequest} (h : r.isRead=true) :
    Within Frame.still (handleStaff cfg admin r) := by
  cases r with
  | listUsers offset limit =>
    exact getDb_within.bind fun _ => (page_within _ _ _).bind fun _ => Within.pure _
  | getUser userId => exact Within.bind orRaiseDb_within fun _ => Within.pure _
  | listAllPayments offset limit =>
    exact getDb_within.bind fun _ => (page_within _ _ _).bind fun _ => Within.pure _
  | listAllTickets offset limit =>
    exact getDb_within.bind fun _ => (page_within _ _ _).bind fun _ =>
      (Within.require _ _).bind fun _ => Within.pure _
  | listAuditLogs offset limit =>
    exact getDb_within.bind fun _ => (page_within _ _ _).bind fun _ => Within.pure _
  | _ => cases h

theorem catalogue_of_office {s t : Session} (h : officeFrame.rel s t) : catalogueFrame.rel s t :=
  ⟨congrArg Prod.fst h.1,h.2⟩

theorem clientele_of_office {s t : Session} (h : officeFrame.rel s t) : clienteleFrame.rel s t :=
  ⟨congrArg Prod.snd h.1,h.2⟩

theorem catalogue_books : Bookkeeping catalogueFrame :=
  keeping_books (fun _ _ => rfl) fun _ _ => rfl

theorem clientele_books : Bookkeeping clienteleFrame :=
  keeping_books (fun _ _ => rfl) fun _ _ => rfl

theorem ruleless_books : Bookkeeping rulelessFrame :=
  keeping_books (fun _ _ => rfl) fun _ _ => rfl

/-- What support may do leaves the catalogue as it is. -/
theorem handleStaff_catalogue {r : StaffRequest} (h : r.roles≠[.superadmin]) :
    Within catalogueFrame (handleStaff cfg admin r) := by
  have hlog : ∀ action targetType targetId metadata,Within catalogueFrame
      (recordAudit (some admin.id) action targetType targetId metadata) :=
    fun _ _ _ _ => (audit_office _ _ _ _ _).mono catalogue_of_office
  have hread : r.isRead=true → Within catalogueFrame (handleStaff cfg admin r) := fun hr =>
    (handleStaff_read admin hr).mono fun {s t} he => by
      have he : t=s := he
      subst he
      exact catalogueFrame.refl _
  cases r with
  | updateUserStatus userId status =>
    exact Within.bind orRaiseDb_within fun _ => Within.bind (getDb_within.bind fun _ =>
      (Within.orRaise _ _).bind fun _ => Within.bind (alter_keeping fun _ => rfl) fun _ =>
      hlog _ _ _ _) fun _ => Within.pure _
  | adminReply ticketId text =>
    refine (getTicket_within ticketId).bind fun ticket => Within.bind ?_ fun _ =>
      (hlog _ _ _ _).bind fun _ => Within.pure _
    refine getNow_within.bind fun _ => (nextSerial_within catalogue_books).bind fun _ =>
      Within.ite (Within.bind (alter_keeping fun _ => rfl) fun _ => ?_) ?_
    all_goals
      exact Within.bind (alter_keeping fun _ => rfl) fun _ => (flush_within catalogue_books).bind
        fun _ => Within.pure _
  | closeTicket ticketId =>
    exact (getTicket_within ticketId).bind fun _ => Within.bind (Within.bind
      (alter_keeping fun _ => rfl) fun _ => Within.pure _) fun _ => (hlog _ _ _ _).bind fun _ =>
      getDb_within.bind fun _ => Within.pure _
  | listUsers offset limit => exact hread rfl
  | getUser userId => exact hread rfl
  | listAllPayments offset limit => exact hread rfl
  | listAllTickets offset limit => exact hread rfl
  | listAuditLogs offset limit => exact hread rfl
  | _ => exact absurd rfl h

theorem servers_clientele {f : Store VpnServer.id → Store VpnServer.id}
    {g : Store VlessServerConfig.id → Store VlessServerConfig.id} :
    Within clienteleFrame (alter fun db => {db with
      vpnServers := f db.vpnServers
      vlessServerConfigs := g db.vlessServerConfigs}) := alter_keeping fun _ => rfl

/-- What only a superadmin may do leaves users, tickets and messages as they are. -/
theorem handleStaff_clientele {r : StaffRequest} (h : r.roles=[.superadmin]) :
    Within clienteleFrame (handleStaff cfg admin r) := by
  have hlog : ∀ {α : Type} {action targetType : String} {targetId : α → Option Id} (a : α),
      Within clienteleFrame (recordAudit (some admin.id) action targetType (targetId a) []) :=
    fun _ => (audit_office _ _ _ _ _).mono clientele_of_office
  have hbooks := clientele_books
  cases r with
  | createPlan payload =>
    exact deed_within (createPlan_within hbooks (fun _ => alter_keeping fun _ => rfl) payload)
      hlog fun _ => Within.pure _
  | updatePlan planId payload =>
    exact deed_within
      (updatePlan_within hbooks (fun _ => alter_keeping fun _ => rfl) planId payload) hlog
      fun _ => (getPlan_within planId).bind fun _ => Within.pure _
  | refundPayment paymentId =>
    exact Within.bind (getDb_within.bind fun _ => (Within.orRaise _ _).bind fun _ =>
      Within.bind ((Within.require _ _).bind fun _ => alter_keeping fun _ => rfl) fun _ =>
      (audit_office _ _ _ _ _).mono clientele_of_office) fun _ => getDb_within.bind fun _ =>
      (Within.orRaise _ _).bind fun _ => Within.pure _
  | createCategory name description =>
    exact deed_within ((nextSerial_within hbooks).bind fun _ => (flush_within hbooks).bind
      fun _ => getDb_within.bind fun _ => (Within.require _ _).bind fun _ =>
      Within.bind (alter_keeping fun _ => rfl) fun _ => Within.pure _) hlog fun _ => Within.pure _
  | addRule categoryId domain routeType enabled =>
    exact (getNow_within.bind fun _ => (nextSerial_within hbooks).bind fun _ =>
      (flush_within hbooks).bind fun _ => getDb_within.bind fun _ => (Within.require _ _).bind
      fun _ => Within.bind (alter_keeping fun _ => rfl) fun _ => Within.pure _).bind fun _ =>
      Within.pure _
  | createServer payload =>
    exact deed_within (createServer_within hbooks (fun _ _ => servers_clientele) payload) hlog
      fun _ => Within.pure _
  | updateServer serverId payload =>
    exact deed_within ((getServer_within serverId).bind fun _ => Within.bind
      (alter_keeping fun _ => rfl) fun _ => flush_within hbooks) hlog fun _ =>
      (getServer_within serverId).bind fun _ => Within.pure _
  | deleteServer serverId =>
    exact deed_within ((getServer_within serverId).bind fun _ => alter_keeping fun _ => rfl)
      hlog fun _ => Within.pure _
  | createVlessServer payload =>
    exact deed_within (createVlessServer_within hbooks (fun _ _ => servers_clientele) payload)
      hlog fun _ => Within.pure _
  | updateVlessServer serverId payload =>
    exact deed_within ((getVlessServer_within serverId).bind fun _ => Within.bind
      (alter_keeping fun _ => rfl) fun _ => (flush_within hbooks).bind fun _ =>
      flush_within hbooks) hlog fun _ => (getVlessServer_within serverId).bind fun _ =>
      Within.pure _
  | deleteVlessServer serverId =>
    exact deed_within ((getVlessServer_within serverId).bind fun _ =>
      alter_keeping fun _ => rfl) hlog fun _ => Within.pure _
  | _ => cases h

theorem handleStaff_rule {r : StaffRequest} (h : r.isRule=true) :
    Within rulelessFrame (handleStaff cfg admin r) := by
  have hbooks := ruleless_books
  cases r with
  | addRule categoryId domain routeType enabled =>
    exact (getNow_within.bind fun _ => (nextSerial_within hbooks).bind fun _ =>
      (flush_within hbooks).bind fun _ => getDb_within.bind fun _ => (Within.require _ _).bind
      fun _ => Within.bind (alter_keeping fun _ => rfl) fun _ => Within.pure _).bind fun _ =>
      Within.pure _
  | _ => cases h

/-- What changes something is recorded, but for a new rule. -/
theorem handleStaff_deeds {r : StaffRequest} (hread : r.isRead=false) (hrule : r.isRule=false) :
    Yields (fun a => r.deeds a≠[]) (handleStaff cfg admin r) := by
  have hdeed : ∀ {d : Deed},[d]≠[] := fun h => by cases h
  cases r with
  | updateUserStatus userId status =>
    exact Yields.bind fun _ => Yields.bind fun _ => Yields.pure hdeed
  | createPlan payload => exact Yields.bind fun _ => Yields.bind fun _ => Yields.pure hdeed
  | updatePlan planId payload =>
    exact Yields.bind fun _ => Yields.bind fun _ => Yields.bind fun _ => Yields.pure hdeed
  | refundPayment paymentId =>
    exact Yields.bind fun _ => Yields.bind fun _ => Yields.bind fun _ => Yields.pure hdeed
  | createCategory name description =>
    exact Yields.bind fun _ => Yields.bind fun _ => Yields.pure hdeed
  | createServer payload => exact Yields.bind fun _ => Yields.bind fun _ => Yields.pure hdeed
  | updateServer serverId payload =>
    exact Yields.bind fun _ => Yields.bind fun _ => Yields.bind fun _ => Yields.pure hdeed
  | deleteServer serverId => exact Yields.bind fun _ => Yields.bind fun _ => Yields.pure hdeed
  | createVlessServer payload => exact Yields.bind fun _ => Yields.bind fun _ => Yields.pure hdeed
  | updateVlessServer serverId payload =>
    exact Yields.bind fun _ => Yields.bind fun _ => Yields.bind fun _ => Yields.pure hdeed
  | deleteVlessServer serverId =>
    exact Yields.bind fun _ => Yields.bind fun _ => Yields.pure hdeed
  | adminReply ticketId text =>
    exact Yields.bind fun _ => Yields.bind fun _ => Yields.bind fun _ => Yields.pure hdeed
  | closeTicket ticketId =>
    exact Yields.bind fun _ => Yields.bind fun _ => Yields.bind fun _ => Yields.bind fun _ =>
      Yields.pure hdeed
  | addRule categoryId domain routeType enabled => cases hrule
  | _ => cases hread

end

section

variable (cfg : Settings) (auth : AuthSettings) (jwt : Jwt)

/-- The token a request of the staff presents. -/
def Happening.bearer : Happening → Option String
  | .request headers (.staff _) => headers.authorization.bind bearerToken
  | _ => none

/-- An answered request of the staff, with who made it. -/
structure Staffed (site : Site) (o : Occasion) (r : StaffRequest) (admin : AdminUser)
    (a : StaffResponse) (t : Session) : Prop where
  request : ∃ headers,o.happening=.request headers (.staff r)
  known : admin∈site.admins.rows
  active : admin.isActive=true
  role : admin.role∈r.roles
  named : Admits jwt auth o.env.now o.happening.bearer admin.id
  run : handleStaff cfg admin r ⟨site.world,o.env⟩=(.ok a,t)
  served : serveSite cfg auth jwt site o=(.ok (.staff admin a),⟨t.toWorld,site.admins⟩)

/-- What happens while the staff is not at work. -/
structure Unstaffed (site : Site) (o : Occasion) : Prop where
  catalogue : (site.after cfg auth jwt o).world.db.catalogue=site.world.db.catalogue
  unattended : Unattended site.world.db (site.after cfg auth jwt o).world.db
  records : ∀ l∈recordsDue cfg auth jwt site o,l.adminId=none ∧ l.action="subscription.expired"

theorem Unattended.of_clientele {a b : Database} (h : b.clientele=a.clientele) :
    Unattended a b := by
  simp only [Database.clientele,Prod.mk.injEq] at h
  exact Unattended.of_same h.1 h.2.1 h.2.2

variable {cfg auth jwt} in
/-- Every answered request of the staff is made by someone who may make it. -/
theorem staffed_of_run {site : Site} {o : Occasion} {headers : Headers} {r : StaffRequest}
    {a : HttpResponse} {admins : Admins} {s : Session}
    (hrequest : o.happening=.request headers (.staff r))
    (hm : handleHappening cfg auth jwt site.admins o.happening ⟨site.world,o.env⟩=
      (.ok (a,admins),s))
    (hserve : serveSite cfg auth jwt site o=(.ok a,⟨s.toWorld,admins⟩)) :
    ∃ admin answer,a=.staff admin answer ∧ admins=site.admins ∧
      Staffed cfg auth jwt site o r admin answer s := by
  rw [hrequest] at hm
  obtain ⟨admin,u,hu,hrest⟩ := Eff.bind_ok.mp hm
  obtain ⟨hus,hknown,hactive,hrole,hnamed⟩ := requireAdminRole_ok hu
  rw [hus] at hrest
  obtain ⟨answer,v,hv,hend⟩ := Eff.bind_ok.mp hrest
  cases hend
  have hin : admin.role∈r.roles :=
    hrole.resolve_left (by cases r <;> exact List.cons_ne_nil _ _)
  have hbearer : o.happening.bearer=headers.authorization.bind bearerToken := by rw [hrequest]; rfl
  exact ⟨admin,answer,rfl,rfl,⟨headers,hrequest⟩,hknown,hactive,hin,hbearer ▸ hnamed,hv,hserve⟩

/-- Only an answered request of the staff does more than what goes on without it. -/
theorem Site.after_cases (site : Site) (o : Occasion) :
    (∃ r admin a t,Staffed cfg auth jwt site o r admin a t) ∨ Unstaffed cfg auth jwt site o := by
  rcases serveSite_cases cfg auth jwt site o with ⟨a,admins,s,hm,hserve⟩|⟨e,w,hserve,hdb,_⟩
  · have hafter : (site.after cfg auth jwt o).world=s.toWorld :=
      congrArg (fun x => x.2.world) hserve
    have hdue : recordsDue cfg auth jwt site o=
        recordsOf site.world.db o.env.now o.happening a := by
      unfold recordsDue
      rw [hserve]
    cases hh : o.happening.isOfficial with
    | false =>
      have heveryday : Everyday ⟨site.world,o.env⟩ s :=
        (handleHappening_everyday hh ⟨site.world,o.env⟩).rel_of_run hm
      refine Or.inr ⟨by rw [hafter]; exact heveryday.catalogue,
        by rw [hafter]; exact heveryday.unattended,fun l hl => ?_⟩
      rw [hdue] at hl
      cases hrequest : o.happening with
      | request headers r =>
        rw [hrequest] at hl hh
        cases r <;> first | cases hl | cases hh
      | sweep asOf =>
        rw [hrequest] at hh
        cases hh
      | _ =>
        rw [hrequest] at hl
        cases hl
    | true =>
      cases hrequest : o.happening with
      | request headers r =>
        cases r with
        | staff r =>
          obtain ⟨admin,answer,_,_,hs⟩ := staffed_of_run hrequest hm hserve
          exact Or.inl ⟨r,admin,answer,s,hs⟩
        | _ =>
          rw [hrequest] at hh
          cases hh
      | sweep asOf =>
        rw [hrequest] at hm hdue
        obtain ⟨ids,u,hu,hend⟩ := Eff.bind_ok.mp hm
        cases hend
        have hoffice : officeFrame.rel ⟨site.world,o.env⟩ s :=
          (runOnce_office asOf ⟨site.world,o.env⟩).rel_of_run hu
        refine Or.inr ⟨by rw [hafter]; exact congrArg Prod.fst hoffice.1,
          by rw [hafter]; exact Unattended.of_clientele (congrArg Prod.snd hoffice.1),
          fun l hl => ?_⟩
        rw [hdue] at hl
        obtain ⟨x,_,hx⟩ := List.mem_filterMap.mp hl
        obtain ⟨_,_,rfl⟩ := Option.map_eq_some_iff.mp hx
        exact ⟨rfl,rfl⟩
      | _ =>
        rw [hrequest] at hh
        cases hh
  · have hafter : (site.after cfg auth jwt o).world.db=site.world.db := by
      rw [← hdb]
      exact congrArg (fun x => x.2.world.db) hserve
    refine Or.inr ⟨by rw [hafter],by rw [hafter]; exact Unattended.of_same rfl rfl rfl,
      fun l hl => ?_⟩
    unfold recordsDue at hl
    rw [hserve] at hl
    cases hl

variable {cfg auth jwt}

theorem Staffed.after {site : Site} {o : Occasion} {r : StaffRequest} {admin : AdminUser}
    {a : StaffResponse} {t : Session} (h : Staffed cfg auth jwt site o r admin a t) :
    site.after cfg auth jwt o=⟨t.toWorld,site.admins⟩ := congrArg Prod.snd h.served

theorem Staffed.due {site : Site} {o : Occasion} {r : StaffRequest} {admin : AdminUser}
    {a : StaffResponse} {t : Session} (h : Staffed cfg auth jwt site o r admin a t) :
    recordsDue cfg auth jwt site o=(r.deeds a).map (Deed.record admin.id o.env.now) := by
  obtain ⟨headers,hrequest⟩ := h.request
  unfold recordsDue
  rw [h.served,hrequest]
  rfl

/-- A request that only superadmins may make leaves users and tickets, any other the catalogue. -/
theorem Staffed.kept {site : Site} {o : Occasion} {r : StaffRequest} {admin : AdminUser}
    {a : StaffResponse} {t : Session} (h : Staffed cfg auth jwt site o r admin a t) :
    (r.roles=[.superadmin] ∧ Unattended site.world.db (site.after cfg auth jwt o).world.db) ∨
      (site.after cfg auth jwt o).world.db.catalogue=site.world.db.catalogue := by
  rw [h.after]
  by_cases hr : r.roles=[.superadmin]
  · have hkept : clienteleFrame.rel ⟨site.world,o.env⟩ t :=
      (handleStaff_clientele admin hr ⟨site.world,o.env⟩).rel_of_run h.run
    exact Or.inl ⟨hr,Unattended.of_clientele hkept.1⟩
  · have hkept : catalogueFrame.rel ⟨site.world,o.env⟩ t :=
      (handleStaff_catalogue admin hr ⟨site.world,o.env⟩).rel_of_run h.run
    exact Or.inr hkept.1

theorem Staffed.read {site : Site} {o : Occasion} {r : StaffRequest} {admin : AdminUser}
    {a : StaffResponse} {t : Session} (h : Staffed cfg auth jwt site o r admin a t)
    (hr : r.isRead=true) : (site.after cfg auth jwt o).world.db=site.world.db := by
  have ht : t=⟨site.world,o.env⟩ := (handleStaff_read admin hr ⟨site.world,o.env⟩).still_run h.run
  rw [h.after,ht]

/-- Something the staff governs changed in a way that only the staff can bring about. -/
def Interfered (before after : Database) : Prop :=
  after.catalogue.ruleless≠before.catalogue.ruleless ∨ ¬Unattended before after

/-- Such a step is recorded under the name of an active admin in a fitting role. -/
theorem Site.after_accounted {site : Site} {o : Occasion}
    (h : Interfered site.world.db (site.after cfg auth jwt o).world.db) :
    ∃ admin∈site.admins.rows,admin.isActive=true ∧ admin.role≠.viewer ∧
      ((site.after cfg auth jwt o).world.db.catalogue≠site.world.db.catalogue →
        admin.role=.superadmin) ∧
      ∃ l∈recordsDue cfg auth jwt site o,l.adminId=some admin.id ∧ l.createdAt=o.env.now := by
  rcases Site.after_cases cfg auth jwt site o with ⟨r,admin,a,t,hs⟩|hu
  · have hread : r.isRead=false := by
      cases hr : r.isRead with
      | false => rfl
      | true =>
        rw [hs.read hr] at h
        rcases h with h|h
        · exact absurd rfl h
        · exact absurd (Unattended.of_same rfl rfl rfl) h
    have hrule : r.isRule=false := by
      cases hr : r.isRule with
      | false => rfl
      | true =>
        have hkept : rulelessFrame.rel ⟨site.world,o.env⟩ t :=
          (handleStaff_rule admin hr ⟨site.world,o.env⟩).rel_of_run hs.run
        rw [hs.after] at h
        rcases h with h|h
        · exact absurd (congrArg Prod.fst hkept.1) h
        · exact absurd (Unattended.of_clientele (congrArg Prod.snd hkept.1)) h
    have hviewer : admin.role≠.viewer := by
      intro he
      have hviews := StaffRequest.read_of_viewer (he ▸ hs.role)
      rw [hread] at hviews
      cases hviews
    have hsuper : (site.after cfg auth jwt o).world.db.catalogue≠site.world.db.catalogue →
        admin.role=.superadmin := by
      intro hne
      rcases hs.kept with ⟨hroles,_⟩|hkept
      · have hrole := hs.role
        rw [hroles] at hrole
        exact List.mem_singleton.mp hrole
      · exact absurd hkept hne
    obtain ⟨d,ds,hds⟩ := List.exists_cons_of_ne_nil
      (handleStaff_deeds admin hread hrule ⟨site.world,o.env⟩ a t hs.run)
    refine ⟨admin,hs.known,hs.active,hviewer,hsuper,d.record admin.id o.env.now,?_,rfl,rfl⟩
    rw [hs.due,hds]
    exact List.mem_cons_self
  · rcases h with h|h
    · exact absurd (congrArg Catalogue.ruleless hu.catalogue) h
    · exact absurd hu.unattended h

/-- Whenever in a run a plan, a server, a category or a refund came, went or changed, a user was
blocked or unblocked, a ticket changed its status or an admin's message appeared, the audit log
names an admin who was active then and had the role for it. -/
theorem accountability (cfg : Settings) (auth : AuthSettings) (jwt : Jwt) (os : List Occasion)
    {m : Site×Occasion} (hm : m∈moments (Site.after cfg auth jwt) .initial os)
    (h : Interfered m.1.world.db (m.1.after cfg auth jwt m.2).world.db) :
    ∃ admin∈m.1.admins.rows,admin.isActive=true ∧ admin.role≠.viewer ∧
      ((m.1.after cfg auth jwt m.2).world.db.catalogue≠m.1.world.db.catalogue →
        admin.role=.superadmin) ∧
      ∃ l∈(Site.initial.run cfg auth jwt os).auditTrail,
        l.adminId=some admin.id ∧ l.createdAt=m.2.env.now := by
  obtain ⟨admin,hknown,hactive,hviewer,hsuper,l,hl,hby,hat⟩ := Site.after_accounted h
  refine ⟨admin,hknown,hactive,hviewer,hsuper,l,?_,hby,hat⟩
  rw [Site.run_recorded cfg auth jwt logs_numbered_initial os]
  exact List.mem_append_right _ (List.mem_flatMap.mpr ⟨m,hm,hl⟩)

def sampleAuth : AuthSettings := ⟨"jwt",30,"admin","internal"⟩

/-- The one token of the examples: that of the first admin, issued at the start. -/
def samplePayload : TokenPayload :=
  ⟨some "1",some "access",0,minutes 30,2,some "superadmin",some "admin"⟩

def sampleJwt : Jwt where
  encode payload key := if payload=samplePayload ∧ key="jwt" then "signed" else "other"
  decode token key now :=
    if token="signed" ∧ key="jwt" ∧ now< minutes 30 then some samplePayload else none

def firstAdmin (role : AdminRole) : Occasion := ⟨quiet 0,.createAdmin "a@b.c" "password" role⟩

def staffed (r : StaffRequest) : Occasion :=
  ⟨quiet 0,.request ⟨some "Bearer signed",none,none⟩ (.staff r)⟩

theorem accountability_category :
    ∃ admin∈(Site.initial.run sampleSettings sampleAuth sampleJwt [firstAdmin .superadmin]).admins.rows,
      ∃ l∈(Site.initial.run sampleSettings sampleAuth sampleJwt
        [firstAdmin .superadmin,staffed (.createCategory "work" none)]).auditTrail,
        l.adminId=some admin.id ∧ l.createdAt=0 := by
  let site := Site.initial.run sampleSettings sampleAuth sampleJwt [firstAdmin .superadmin]
  let o := staffed (.createCategory "work" none)
  have hchange : site.world.db.catalogue.categories.rows.length≠
      (site.after sampleSettings sampleAuth sampleJwt o).world.db.catalogue.categories.rows.length := by
    decide +kernel
  obtain ⟨admin,hknown,_,_,_,l,hl,hby,hat⟩ := accountability sampleSettings sampleAuth sampleJwt
    [firstAdmin .superadmin,o] (m := (site,o)) (List.mem_cons_of_mem _ List.mem_cons_self)
    (Or.inl fun h => hchange (congrArg (fun c => c.categories.rows.length) h).symm)
  exact ⟨admin,hknown,l,hl,hby,hat⟩

/-- What an operator does to the staff accounts by hand. -/
def Happening.changesStaff : Happening → Bool
  | .createAdmin .. | .setAdmin .. => true
  | _ => false

theorem createAdmin_ok {admins : Admins} {email password : String} {role : AdminRole}
    {s t : Session} {admin : AdminUser}
    (h : createAdmin admins email password role s=(.ok admin,t)) :
    admin.id=s.serial ∧ t.now=s.now := by
  obtain ⟨id,u,hid,h⟩ := Eff.bind_ok.mp h
  cases hid
  obtain ⟨_,v,hv,h⟩ := Eff.bind_ok.mp h
  obtain ⟨os,hos⟩ := flush_ok hv
  obtain ⟨_,h⟩ := Eff.require_bind_ok.mp h
  obtain ⟨_,h⟩ := Eff.require_bind_ok.mp h
  cases h
  exact ⟨rfl,by rw [hos]⟩

/-- What can become of the staff accounts. -/
inductive AdminsStep (site : Site) (h : Happening) : Admins → Prop
  | kept : AdminsStep site h site.admins
  | created (admin : AdminUser) (own : admin.id=site.world.serial)
    (allowed : h.changesStaff=true ∨ site.admins.rows=[]) :
    AdminsStep site h (site.admins.insert admin)
  | set (adminId : Id) (role : AdminRole) (isActive : Bool) (allowed : h.changesStaff=true) :
    AdminsStep site h
      (site.admins.modify adminId (setAccount role isActive) (setAccount_id role isActive))

theorem Site.after_admins (site : Site) (o : Occasion) :
    AdminsStep site o.happening (site.after cfg auth jwt o).admins := by
  unfold Site.after
  rcases serveSite_cases cfg auth jwt site o with ⟨a,admins,s,hm,hserve⟩|⟨e,w,hserve,_,_⟩
  · rw [hserve]
    change AdminsStep site o.happening admins
    cases hrequest : o.happening with
    | request headers r =>
      rw [hrequest] at hm
      cases r with
      | bootstrap email password secret =>
        obtain ⟨admin,u,hu,hm⟩ := Eff.bind_ok.mp hm
        obtain ⟨_,hu⟩ := Eff.require_bind_ok.mp hu
        obtain ⟨hnone,hu⟩ := Eff.require_bind_ok.mp hu
        obtain ⟨_,_,_,hend⟩ := Eff.bind_ok.mp hm
        cases hend
        exact .created admin (createAdmin_ok hu).1 (Or.inr (List.length_eq_zero_iff.mp hnone))
      | adminLogin email password =>
        obtain ⟨_,_,_,hm⟩ := Eff.bind_ok.mp hm
        obtain ⟨_,_,_,hend⟩ := Eff.bind_ok.mp hm
        cases hend
        exact .kept
      | fetchSubscription token =>
        obtain ⟨_,_,_,hend⟩ := Eff.bind_ok.mp hm
        cases hend
        exact .kept
      | paymentWebhook rawBody signature =>
        obtain ⟨_,_,_,hend⟩ := Eff.bind_ok.mp hm
        cases hend
        exact .kept
      | _ =>
        obtain ⟨_,_,_,hm⟩ := Eff.bind_ok.mp hm
        obtain ⟨_,_,_,hend⟩ := Eff.bind_ok.mp hm
        cases hend
        exact .kept
    | setAdmin adminId role isActive =>
      rw [hrequest] at hm
      cases hm
      exact .set adminId role isActive rfl
    | createAdmin email password role =>
      rw [hrequest] at hm
      obtain ⟨admin,u,hu,hend⟩ := Eff.bind_ok.mp hm
      cases hend
      exact .created admin (createAdmin_ok hu).1 (Or.inl rfl)
    | _ =>
      rw [hrequest] at hm
      obtain ⟨_,_,_,hend⟩ := Eff.bind_ok.mp hm
      cases hend
      exact .kept
  · rw [hserve]
    exact .kept

/-- Once there is a staff account, no request makes or changes one. -/
theorem Site.admins_kept {site : Site} {o : Occasion} (hsome : site.admins.rows≠[])
    (ho : o.happening.changesStaff=false) :
    (site.after cfg auth jwt o).admins=site.admins := by
  have hstep : AdminsStep site o.happening (site.after cfg auth jwt o).admins :=
    Site.after_admins site o
  generalize (site.after cfg auth jwt o).admins=admins at hstep ⊢
  cases hstep with
  | kept => rfl
  | created admin own allowed =>
    exact absurd allowed (by simp [ho,hsome])
  | set adminId role isActive allowed => simp [ho] at allowed

/-- No active admin has this role. -/
def Site.Lacks (site : Site) (role : AdminRole) : Prop :=
  ∀ a∈site.admins.rows,a.isActive=true → a.role≠role

theorem Site.catalogue_kept {site : Site} {o : Occasion} (h : site.Lacks .superadmin) :
    (site.after cfg auth jwt o).world.db.catalogue=site.world.db.catalogue := by
  rcases Site.after_cases cfg auth jwt site o with ⟨r,admin,a,t,hs⟩|hu
  · rcases hs.kept with ⟨hroles,_⟩|hkept
    · have hrole := hs.role
      rw [hroles] at hrole
      exact absurd (List.mem_singleton.mp hrole) (h admin hs.known hs.active)
    · exact hkept
  · exact hu.catalogue

/-- The staff accounts are those at the start, of which there are some. -/
def Site.StaffKept (admins : Admins) (site : Site) : Prop :=
  site.admins=admins ∧ admins.rows≠[]

theorem Site.StaffKept.after {admins : Admins} {site : Site} {o : Occasion}
    (h : site.StaffKept admins) (ho : o.happening.changesStaff=false) :
    (site.after cfg auth jwt o).StaffKept admins :=
  ⟨(Site.admins_kept (h.1 ▸ h.2) ho).trans h.1,h.2⟩

/-- Where no active superadmin is left, nobody changes the catalogue any more, whatever tokens,
headers and secrets the requests bring: even the way to a first superadmin is closed. -/
theorem catalogue_frozen (cfg : Settings) (auth : AuthSettings) (jwt : Jwt) {site : Site}
    (hsome : site.admins.rows≠[]) (hlacks : site.Lacks .superadmin) {os : List Occasion}
    (hos : ∀ o∈os,o.happening.changesStaff=false) :
    (site.run cfg auth jwt os).world.db.catalogue=site.world.db.catalogue ∧
      (site.run cfg auth jwt os).admins=site.admins := by
  have hrun := (Frame.keeping fun s : Site => (s.world.db.catalogue,s.admins)).run
    (Site.after cfg auth jwt) (Site.StaffKept site.admins)
    (fun s o hs ho => hs.after ho)
    (fun s o hs ho => Prod.ext
      (Site.catalogue_kept fun a ha => hlacks a (hs.1 ▸ ha)) ((hs.after ho).1.trans hs.1.symm))
    ⟨rfl,hsome⟩ hos
  exact ⟨congrArg Prod.fst hrun,congrArg Prod.snd hrun⟩

theorem catalogue_frozen_support :
    let site := Site.initial.run sampleSettings sampleAuth sampleJwt [firstAdmin .support]
    let later := site.run sampleSettings sampleAuth sampleJwt
      [staffed (.createCategory "work" none),
        ⟨quiet 0,.request ⟨none,none,none⟩ (.bootstrap "x@y.z" "password" "admin")⟩]
    later.world.db.catalogue=site.world.db.catalogue ∧ later.admins=site.admins := by
  have hlacks : ∀ a∈(Site.initial.run sampleSettings sampleAuth sampleJwt
      [firstAdmin .support]).admins.rows,a.isActive=true → a.role≠.superadmin := by
    decide +kernel
  refine catalogue_frozen sampleSettings sampleAuth sampleJwt (by decide +kernel) hlacks ?_
  intro o ho
  rcases List.mem_cons.mp ho with rfl|ho
  · rfl
  · rw [List.mem_singleton.mp ho]
    rfl

theorem Site.unstaffed {site : Site} {o : Occasion} (hsuper : site.Lacks .superadmin)
    (hsupport : site.Lacks .support) : Unstaffed cfg auth jwt site o := by
  rcases Site.after_cases cfg auth jwt site o with ⟨r,admin,a,t,hs⟩|hu
  · have hviewer : admin.role=.viewer := by
      cases hrole : admin.role with
      | superadmin => exact absurd hrole (hsuper admin hs.known hs.active)
      | support => exact absurd hrole (hsupport admin hs.known hs.active)
      | viewer => rfl
    have hread := StaffRequest.read_of_viewer (hviewer ▸ hs.role)
    have hdb := hs.read hread
    refine ⟨by rw [hdb],by rw [hdb]; exact Unattended.of_same rfl rfl rfl,fun l hl => ?_⟩
    rw [hs.due] at hl
    cases r with
    | listUsers offset limit => cases hl
    | getUser userId => cases hl
    | listAllPayments offset limit => cases hl
    | listAllTickets offset limit => cases hl
    | listAuditLogs offset limit => cases hl
    | _ => cases hread
  · exact hu

def unattendedFrame : Frame Site where
  rel s t := t.world.db.catalogue=s.world.db.catalogue ∧ Unattended s.world.db t.world.db
  refl _ := ⟨rfl,Unattended.of_same rfl rfl rfl⟩
  trans h k := ⟨k.1.trans h.1,h.2.trans k.2⟩

theorem Site.Lacks.after {admins : Admins} {site : Site} {role : AdminRole}
    (h : ∀ a∈admins.rows,a.isActive=true → a.role≠role) (hs : site.StaffKept admins) :
    site.Lacks role := fun a ha => h a (hs.1 ▸ ha)

/-- Where only viewers are left active, the service runs on as if there were no staff: all that is
done is done by customers and the worker, and all that is recorded is what has expired. -/
theorem viewers_only (cfg : Settings) (auth : AuthSettings) (jwt : Jwt) (earlier : List Occasion)
    {site : Site} (hsite : site=Site.initial.run cfg auth jwt earlier)
    (hsome : site.admins.rows≠[]) (hsuper : site.Lacks .superadmin)
    (hsupport : site.Lacks .support) {later : List Occasion}
    (hlater : ∀ o∈later,o.happening.changesStaff=false) :
    (site.run cfg auth jwt later).world.db.catalogue=site.world.db.catalogue ∧
      Unattended site.world.db (site.run cfg auth jwt later).world.db ∧
      ∃ records,(site.run cfg auth jwt later).auditTrail=site.auditTrail++records ∧
        ∀ l∈records,l.adminId=none ∧ l.action="subscription.expired" := by
  have hkept := unattendedFrame.run (Site.after cfg auth jwt) (Site.StaffKept site.admins)
    (fun s o hs ho => hs.after ho)
    (fun s o hs ho =>
      have hu := Site.unstaffed (Site.Lacks.after hsuper hs) (Site.Lacks.after hsupport hs)
      ⟨hu.catalogue,hu.unattended⟩)
    ⟨rfl,hsome⟩ hlater
  have hn : LogsNumbered site.world :=
    hsite ▸ Site.run_numbered cfg auth jwt logs_numbered_initial earlier
  refine ⟨hkept.1,hkept.2,_,Site.run_recorded cfg auth jwt hn later,fun l hl => ?_⟩
  obtain ⟨m,hm,hl⟩ := List.mem_flatMap.mp hl
  obtain ⟨hstaff,_⟩ := moments_invariant (Site.after cfg auth jwt)
    (Site.StaffKept site.admins) (fun s o hs ho => hs.after ho) ⟨rfl,hsome⟩ hlater m hm
  exact (Site.unstaffed (Site.Lacks.after hsuper hstaff)
    (Site.Lacks.after hsupport hstaff)).records l hl

theorem viewers_only_viewer :
    let site := Site.initial.run sampleSettings sampleAuth sampleJwt [firstAdmin .viewer]
    let later := site.run sampleSettings sampleAuth sampleJwt [staffed (.closeTicket 1)]
    later.world.db.catalogue=site.world.db.catalogue ∧ Unattended site.world.db later.world.db ∧
      ∃ records,later.auditTrail=site.auditTrail++records ∧
        ∀ l∈records,l.adminId=none ∧ l.action="subscription.expired" := by
  have hlacks : ∀ a∈(Site.initial.run sampleSettings sampleAuth sampleJwt
      [firstAdmin .viewer]).admins.rows,a.isActive=true → a.role=.viewer := by
    decide +kernel
  refine viewers_only sampleSettings sampleAuth sampleJwt [firstAdmin .viewer] rfl
    (by decide +kernel) ?_ ?_ ?_
  · intro a ha hactive he
    cases (hlacks a ha hactive).symm.trans he
  · intro a ha hactive he
    cases (hlacks a ha hactive).symm.trans he
  · intro o ho
    rw [List.mem_singleton.mp ho]
    rfl

end

end VpnService.Backend
