import VpnService.Backend.Roles

namespace VpnService

namespace Store

variable {κ ρ : Type} {key : ρ → κ} [DecidableEq κ]

/-- Whether the row of a key has a property. -/
def flag (s : Store key) (q : ρ → Bool) (k : κ) : Bool := s.rows.any fun r => key r=k && q r

theorem flag_iff {s : Store key} {q : ρ → Bool} {k : κ} :
    s.flag q k=true ↔ ∃ r∈s.rows,key r=k ∧ q r=true := by
  simp [flag]

theorem flag_of_get? {s : Store key} {r : ρ} {k : κ} (h : s.get? k=some r) (q : ρ → Bool) :
    s.flag q k=q r := by
  have hk := key_of_get? h
  apply Bool.eq_iff_iff.mpr
  rw [flag_iff]
  constructor
  · rintro ⟨x,hx,hxk,hq⟩
    rw [eq_of_key hx (mem_of_get? h) (hxk.trans hk.symm)] at hq
    exact hq
  · exact fun hq => ⟨r,mem_of_get? h,hk,hq⟩

/-- An update that settles the property for a row that is there. -/
theorem flag_modify {s : Store key} {r : ρ} {k : κ} (h : s.get? k=some r) {f : ρ → ρ}
    (hf : ∀ r,key (f r)=key r) (q : ρ → Bool) :
    (s.modify k f hf).flag q=Function.update (s.flag q) k (q (f r)) := by
  funext j
  by_cases hj : j=k
  · subst hj
    have hget : (s.modify j f hf).get? j=some (f r) := by
      rw [get?_modify_self,h]
      rfl
    rw [flag_of_get? hget,Function.update_self]
  · rw [Function.update_of_ne hj]
    apply Bool.eq_iff_iff.mpr
    rw [flag_iff,flag_iff]
    constructor
    · rintro ⟨x,hx,hxk,hq⟩
      rcases (mem_modify hf).mp hx with ⟨y,_,hyk,rfl⟩|⟨hx,_⟩
      · exact absurd (hxk.symm.trans ((hf y).trans hyk)) hj
      · exact ⟨x,hx,hxk,hq⟩
    · rintro ⟨x,hx,hxk,hq⟩
      exact ⟨x,(mem_modify hf).mpr (Or.inr ⟨hx,hxk ▸ hj⟩),hxk,hq⟩

theorem keys_modify (s : Store key) (k : κ) {f : ρ → ρ} (hf : ∀ r,key (f r)=key r) :
    (s.modify k f hf).rows.map key=s.rows.map key := by
  rw [rows_modify,List.map_map]
  apply List.map_congr_left
  intro r _
  by_cases hk : key r=k
  · simp [hk,hf]
  · simp [hk]

theorem keys_insert (s : Store key) (r : ρ) (h : ∀ k∈s.rows.map key,k≠key r) :
    (s.insert r).rows.map key=s.rows.map key++[key r] := by
  rw [rows_insert s r fun x hx => h _ (List.mem_map_of_mem hx),List.map_append]
  rfl

theorem keys_delete (s : Store key) (k : κ) :
    (s.delete k).rows.map key=(s.rows.map key).filter fun j => j≠k := by
  unfold delete
  rw [rows_deleteWhere,List.filter_map]
  congr 1
  apply List.filter_congr
  intro r _
  simp

omit [DecidableEq κ] in
theorem keys_mapRows (s : Store key) (f : ρ → ρ) (hf : ∀ r,key (f r)=key r) :
    (s.mapRows f hf).rows.map key=s.rows.map key := by
  rw [rows_mapRows,List.map_map]
  exact List.map_congr_left fun r _ => hf r

end Store

namespace Backend

/-- What of the state the audit log accounts for. -/
@[ext] structure Report where
  blocked : Id → Bool
  pending : Id → Bool
  closed : Id → Bool
  refunded : Id → Bool
  plans : List Id
  categories : List Id
  servers : List Id

def Database.report (db : Database) : Report where
  blocked := db.users.flag fun u => u.status=.blocked
  pending := db.supportTickets.flag fun t => t.status=.pending
  closed := db.supportTickets.flag fun t => t.status=.closed
  refunded := db.payments.flag fun p => p.status=.refunded
  plans := db.plans.rows.map Plan.id
  categories := db.routingCategories.rows.map RoutingCategory.id
  servers := db.vpnServers.rows.map VpnServer.id

/-- Where a reader of the log begins. -/
def Report.none : Report where
  blocked _ := false
  pending _ := false
  closed _ := false
  refunded _ := false
  plans := []
  categories := []
  servers := []

/-- What a reader of the log takes from a record: its action, its target and nothing else but the
status given to a user. -/
def Report.read (s : Report) (l : AuditLog) : Report :=
  match l.targetId with
  | .none => s
  | some id =>
    if l.action="user.status_updated" then
      {s with blocked := Function.update s.blocked id (l.metadata=[("status","blocked")])}
    else if l.action="support_ticket.replied" then
      {s with pending := Function.update s.pending id (!s.closed id)}
    else if l.action="support_ticket.closed" then
      {s with
        pending := Function.update s.pending id false
        closed := Function.update s.closed id true}
    else if l.action="payment.refunded" then
      {s with refunded := Function.update s.refunded id true}
    else if l.action="plan.created" then {s with plans := s.plans++[id]}
    else if l.action="routing_category.created" then {s with categories := s.categories++[id]}
    else if l.action="server.created" ∨ l.action="vless_server.created" then
      {s with servers := s.servers++[id]}
    else if l.action="server.deleted" ∨ l.action="vless_server.deleted" then
      {s with servers := s.servers.filter fun j => j≠id}
    else s

/-- All that was created was numbered before `n`. -/
structure Report.Below (s : Report) (n : Int) : Prop where
  plans : ∀ id∈s.plans,id<n
  categories : ∀ id∈s.categories,id<n
  servers : ∀ id∈s.servers,id<n

theorem Report.Below.mono {s : Report} {n m : Int} (h : s.Below n) (hnm : n≤ m) :
    s.Below m :=
  ⟨fun id hid => (h.plans id hid).trans_le hnm,fun id hid => (h.categories id hid).trans_le hnm,
    fun id hid => (h.servers id hid).trans_le hnm⟩

theorem Report.Below.of_lists {s s' : Report} {n m : Int} (h : s.Below n)
    (hp : s'.plans=s.plans) (hc : s'.categories=s.categories) (hv : s'.servers=s.servers)
    (hnm : n≤ m) : s'.Below m where
  plans := hp ▸ (h.mono hnm).plans
  categories := hc ▸ (h.mono hnm).categories
  servers := hv ▸ (h.mono hnm).servers

theorem below_append {ids : List Id} {id : Id} {n m : Int} (h : ∀ j∈ids,j<n) (hid : id< m)
    (hnm : n≤ m) : ∀ j∈ids++[id],j< m := by
  intro j hj
  rcases List.mem_append.mp hj with hj|hj
  · exact (h j hj).trans_le hnm
  · exact List.mem_singleton.mp hj ▸ hid

abbrev reportFrame : Frame Session := keeping fun s => s.db.report

theorem report_books : Bookkeeping reportFrame :=
  keeping_books (fun _ _ => rfl) fun _ _ => rfl

theorem catalogue_servers (db : Database) :
    db.catalogue.servers.rows.map VpnServer.id=db.vpnServers.rows.map VpnServer.id :=
  db.vpnServers.keys_mapRows VpnServer.unloaded fun _ => rfl

/-- Without the staff nothing changes that the log accounts for. -/
theorem report_unattended {a b : Database} (hc : b.catalogue=a.catalogue)
    (hu : Unattended a b) : b.report=a.report := by
  have hservers : b.vpnServers.rows.map VpnServer.id=a.vpnServers.rows.map VpnServer.id := by
    rw [← catalogue_servers,hc,catalogue_servers]
  have htickets : ∀ q : SupportTicket → Bool,(∀ t,t.status=.opened → q t=false) →
      b.supportTickets.flag q=a.supportTickets.flag q := by
    intro q hq
    funext k
    apply Bool.eq_iff_iff.mpr
    rw [Store.flag_iff,Store.flag_iff]
    constructor
    · rintro ⟨t,ht,hk,htq⟩
      rcases hu.newTickets t ht with hold|hnew
      · exact ⟨t,hold,hk,htq⟩
      · rw [hq t hnew] at htq
        cases htq
    · exact fun ⟨t,ht,hk,htq⟩ => ⟨t,hu.tickets t ht,hk,htq⟩
  ext1
  · funext k
    apply Bool.eq_iff_iff.mpr
    rw [Database.report,Database.report,Store.flag_iff,Store.flag_iff]
    constructor
    · rintro ⟨v,hv,hk,hblocked⟩
      rcases hu.newUsers v hv with hactive|⟨u,hmem,hid,hstatus⟩
      · simp [hactive] at hblocked
      · exact ⟨u,hmem,hid.trans hk,by simpa [hstatus] using hblocked⟩
    · rintro ⟨u,hmem,hk,hblocked⟩
      obtain ⟨v,hv,hid,hstatus⟩ := hu.users u hmem
      exact ⟨v,hv,hid.trans hk,by simpa [hstatus] using hblocked⟩
  · exact htickets _ fun t ht => by simp [ht]
  · exact htickets _ fun t ht => by simp [ht]
  · funext k
    have hrefunds : b.refunds=a.refunds := congrArg Catalogue.refunds hc
    have hmem : ∀ db : Database,db.report.refunded k=decide (k∈db.refunds) := by
      intro db
      apply Bool.eq_iff_iff.mpr
      rw [Database.report,Store.flag_iff,decide_eq_true_iff]
      simp [Database.refunds,and_assoc,and_comm]
    rw [hmem,hmem,hrefunds]
  · exact congrArg (fun c => c.plans.rows.map Plan.id) hc
  · exact congrArg (fun c => c.categories.rows.map RoutingCategory.id) hc
  · exact hservers

section

variable {s t : Session}

theorem audit_report (adminId : Option Id) (action targetType : String) (targetId : Option Id)
    (metadata : List (String×String)) :
    Within reportFrame (recordAudit adminId action targetType targetId metadata) :=
  getNow_within.bind fun _ => (nextSerial_within report_books).bind fun _ =>
    Within.bind (alter_keeping fun _ => rfl) fun _ => flush_within report_books

theorem createPlan_report {payload : PlanCreate} {plan : Plan}
    (hs : s.db.report.Below s.serial) (h : createPlan payload s=(.ok plan,t)) :
    t.db.report={s.db.report with plans := s.db.report.plans++[plan.id]} ∧
      plan.id<t.serial ∧ s.serial≤t.serial := by
  obtain ⟨_,h⟩ := Eff.require_bind_ok.mp h
  rw [getDb_bind_run] at h
  obtain ⟨_,h⟩ := Eff.require_bind_ok.mp h
  obtain ⟨id,u,hid,h⟩ := Eff.bind_ok.mp h
  cases hid
  obtain ⟨_,v,hv,h⟩ := Eff.bind_ok.mp h
  cases hv
  obtain ⟨_,w,hw,h⟩ := Eff.bind_ok.mp h
  obtain ⟨os,hos⟩ := flush_ok hw
  cases h
  subst hos
  exact ⟨Report.ext rfl rfl rfl rfl
    (Store.keys_insert s.db.plans _ fun id hid => (hs.plans id hid).ne) rfl rfl,Int.lt_succ _,
    (Int.lt_succ _).le⟩

theorem createCategory_report {name : String} {description : Option String}
    {category : RoutingCategory} (hs : s.db.report.Below s.serial)
    (h : createCategory name description s=(.ok category,t)) :
    t.db.report={s.db.report with categories := s.db.report.categories++[category.id]} ∧
      category.id<t.serial ∧ s.serial≤t.serial := by
  obtain ⟨id,u,hid,h⟩ := Eff.bind_ok.mp h
  cases hid
  obtain ⟨_,w,hw,h⟩ := Eff.bind_ok.mp h
  obtain ⟨os,hos⟩ := flush_ok hw
  subst hos
  rw [getDb_bind_run] at h
  obtain ⟨_,h⟩ := Eff.require_bind_ok.mp h
  obtain ⟨_,v,hv,h⟩ := Eff.bind_ok.mp h
  cases hv
  cases h
  exact ⟨Report.ext rfl rfl rfl rfl rfl
    (Store.keys_insert s.db.routingCategories _ fun id hid => (hs.categories id hid).ne) rfl,
    Int.lt_succ _,(Int.lt_succ _).le⟩

theorem createServer_report {payload : VpnServerCreate} {server : VpnServer}
    (hs : s.db.report.Below s.serial) (h : createServer payload s=(.ok server,t)) :
    t.db.report={s.db.report with servers := s.db.report.servers++[server.id]} ∧
      server.id<t.serial ∧ s.serial≤t.serial := by
  obtain ⟨id,u,hid,h⟩ := Eff.bind_ok.mp h
  cases hid
  obtain ⟨_,v,hv,h⟩ := Eff.bind_ok.mp h
  cases hv
  obtain ⟨_,w,hw,h⟩ := Eff.bind_ok.mp h
  obtain ⟨os,hos⟩ := flush_ok hw
  cases h
  subst hos
  exact ⟨Report.ext rfl rfl rfl rfl rfl rfl
    (Store.keys_insert s.db.vpnServers _ fun id hid => (hs.servers id hid).ne),Int.lt_succ _,
    (Int.lt_succ _).le⟩

theorem createVlessServer_report {payload : VlessServerCreate}
    {created : VpnServer×VlessServerConfig} (hs : s.db.report.Below s.serial)
    (h : createVlessServer payload s=(.ok created,t)) :
    t.db.report={s.db.report with servers := s.db.report.servers++[created.1.id]} ∧
      created.1.id<t.serial ∧ s.serial≤t.serial := by
  obtain ⟨id,u,hid,h⟩ := Eff.bind_ok.mp h
  cases hid
  obtain ⟨_,v,hv,h⟩ := Eff.bind_ok.mp h
  cases hv
  obtain ⟨_,w,hw,h⟩ := Eff.bind_ok.mp h
  obtain ⟨os,hos⟩ := flush_ok hw
  subst hos
  obtain ⟨configId,x,hx,h⟩ := Eff.bind_ok.mp h
  cases hx
  obtain ⟨_,y,hy,h⟩ := Eff.bind_ok.mp h
  cases hy
  obtain ⟨_,z,hz,h⟩ := Eff.bind_ok.mp h
  obtain ⟨os,hos⟩ := flush_ok hz
  cases h
  subst hos
  have hlater : s.serial<s.serial+1+1 := (Int.lt_succ _).trans (Int.lt_succ _)
  exact ⟨Report.ext rfl rfl rfl rfl rfl rfl
    (Store.keys_insert s.db.vpnServers _ fun id hid => (hs.servers id hid).ne),hlater,hlater.le⟩

/-- Both ways of deleting a server end in the same write. -/
theorem dropServer_report {α : Type} {m : Req α} (key : α → Id) {serverId : Id}
    (hm : Within Frame.still m) (hkey : Yields (fun a => key a=serverId) m)
    (h : (m >>= fun a => alter (dropServer (key a))) s=(.ok (),t)) :
    t.db.report={s.db.report with
      servers := s.db.report.servers.filter fun j => j≠serverId} ∧ s.serial≤t.serial := by
  obtain ⟨a,u,ha,h⟩ := Eff.bind_ok.mp h
  have hu : u=s := (hm s).still_run ha
  have ht : t={u with db := dropServer (key a) u.db} := (congrArg Prod.snd h).symm
  rw [ht,hkey s a u ha,hu]
  exact ⟨Report.ext rfl rfl rfl rfl rfl rfl (Store.keys_delete _ _),le_rfl⟩

theorem updateUserStatus_report {adminId userId : Id} {status : UserStatus}
    (h : updateUserStatus adminId userId status s=(.ok (),t)) :
    t.db.report={s.db.report with
      blocked := Function.update s.db.report.blocked userId (status=.blocked)} ∧
      s.serial≤t.serial := by
  obtain ⟨user,huser,h⟩ := Eff.orRaise_bind_ok.mp h
  obtain ⟨_,u,hu,h⟩ := Eff.bind_ok.mp h
  cases hu
  have hid : user.id=userId := Store.key_of_get? huser
  subst hid
  obtain ⟨hview,hserial⟩ := (audit_report _ _ _ _ _ _).rel_of_run h
  refine ⟨hview.trans (Report.ext ?_ rfl rfl rfl rfl rfl rfl),hserial⟩
  exact Store.flag_modify huser (f := fun u => {u with status := status}) (fun _ => rfl) _

theorem refundPayment_report {adminId paymentId : Id}
    (h : refundPayment adminId paymentId s=(.ok (),t)) :
    t.db.report={s.db.report with
      refunded := Function.update s.db.report.refunded paymentId true} ∧
      s.serial≤t.serial := by
  obtain ⟨payment,hpayment,h⟩ := Eff.orRaise_bind_ok.mp h
  obtain ⟨_,u,hu,h⟩ := Eff.bind_ok.mp h
  obtain ⟨_,hu⟩ := Eff.require_bind_ok.mp hu
  cases hu
  have hid : payment.id=paymentId := Store.key_of_get? hpayment
  subst hid
  obtain ⟨hview,hserial⟩ := (audit_report _ _ _ _ _ _).rel_of_run h
  refine ⟨hview.trans (Report.ext rfl rfl rfl ?_ rfl rfl rfl),hserial⟩
  exact Store.flag_modify hpayment (f := fun p => {p with status := .refunded}) (fun _ => rfl) _

theorem putMessage_report (message : SupportMessage) : Within reportFrame (do
    alter fun db => {db with supportMessages := db.supportMessages.insert message}
    flush
    pure message) :=
  Within.bind (alter_keeping fun _ => rfl) fun _ => (flush_within report_books).bind
    fun _ => Within.pure _

/-- An answer of the staff makes an open ticket a pending one and leaves a closed one closed. -/
theorem addMessage_report {ticket : SupportTicket} {text : String} {message : SupportMessage}
    (hget : s.db.supportTickets.get? ticket.id=some ticket)
    (h : addMessage ticket .admin text s=(.ok message,t)) :
    t.db.report={s.db.report with
      pending := Function.update s.db.report.pending ticket.id
        (!s.db.report.closed ticket.id)} ∧ s.serial≤t.serial := by
  have hflag : ∀ q : SupportTicket → Bool,s.db.supportTickets.flag q ticket.id=q ticket :=
    fun q => Store.flag_of_get? hget q
  have hsame : ∀ {f : Id → Bool} {b : Bool},f ticket.id=b → Function.update f ticket.id b=f := by
    rintro f b rfl
    exact Function.update_eq_self _ _
  obtain ⟨now,u,hu,h⟩ := Eff.bind_ok.mp h
  cases hu
  obtain ⟨id,u,hu,h⟩ := Eff.bind_ok.mp h
  cases hu
  cases hstatus : ticket.status with
  | opened =>
    simp only [hstatus,and_self,if_true] at h
    obtain ⟨_,u,hu,h⟩ := Eff.bind_ok.mp h
    cases hu
    obtain ⟨hview,hserial⟩ := (putMessage_report _ _).rel_of_run h
    refine ⟨hview.trans (Report.ext rfl ?_ ?_ rfl rfl rfl rfl),(Int.lt_succ _).le.trans hserial⟩
    · have hclosed : s.db.report.closed ticket.id=false := (hflag _).trans (by simp [hstatus])
      rw [hclosed]
      exact Store.flag_modify hget (f := fun t => {t with status := .pending}) (fun _ => rfl) _
    · have hkept := Store.flag_modify hget (f := fun t => {t with status := .pending})
        (fun _ => rfl) (fun t => t.status=.closed)
      exact hkept.trans (hsame ((hflag _).trans (by simp [hstatus])))
  | pending =>
    simp only [hstatus,reduceCtorEq,and_false,if_false] at h
    obtain ⟨hview,hserial⟩ := (putMessage_report _ _).rel_of_run h
    have hclosed : s.db.report.closed ticket.id=false := (hflag _).trans (by simp [hstatus])
    rw [hclosed]
    exact ⟨hview.trans (Report.ext rfl
      (hsame ((hflag _).trans (by simp [hstatus]))).symm rfl rfl rfl rfl rfl),
      (Int.lt_succ _).le.trans hserial⟩
  | closed =>
    simp only [hstatus,reduceCtorEq,and_false,if_false] at h
    obtain ⟨hview,hserial⟩ := (putMessage_report _ _).rel_of_run h
    have hclosed : s.db.report.closed ticket.id=true := (hflag _).trans (by simp [hstatus])
    rw [hclosed]
    exact ⟨hview.trans (Report.ext rfl
      (hsame ((hflag _).trans (by simp [hstatus]))).symm rfl rfl rfl rfl rfl),
      (Int.lt_succ _).le.trans hserial⟩

theorem close_report {ticket closed : SupportTicket}
    (hget : s.db.supportTickets.get? ticket.id=some ticket)
    (h : close ticket s=(.ok closed,t)) :
    t.db.report={s.db.report with
      pending := Function.update s.db.report.pending ticket.id false
      closed := Function.update s.db.report.closed ticket.id true} ∧ s.serial≤t.serial := by
  obtain ⟨_,u,hu,h⟩ := Eff.bind_ok.mp h
  cases hu
  cases h
  have hflag := fun q => Store.flag_modify hget (f := fun t => {t with status := .closed})
    (fun _ => rfl) q
  exact ⟨Report.ext rfl (hflag _) (hflag _) rfl rfl rfl rfl,le_rfl⟩

/-- A piece of work, its record and the answer: the work decides. -/
theorem deed_report {α β : Type} {m : Req α} {f : α → Req Unit} {g : α → Req β} {b : β}
    (hf : ∀ a,Within reportFrame (f a)) (hg : ∀ a,Within reportFrame (g a))
    (h : (m >>= fun a => f a >>= fun _ => g a) s=(.ok b,t)) :
    ∃ a u v,m s=(.ok a,u) ∧ g a v=(.ok b,t) ∧ t.db.report=u.db.report ∧
      u.serial≤t.serial := by
  obtain ⟨a,u,ha,hrest⟩ := Eff.bind_ok.mp h
  obtain ⟨_,v,hv,hend⟩ := Eff.bind_ok.mp hrest
  have hlog := (hf a u).rel_of_run hv
  have hanswer := (hg a v).rel_of_run hend
  exact ⟨a,u,v,ha,hend,hanswer.1.trans hlog.1,hlog.2.trans hanswer.2⟩

theorem updateServer_report (serverId : Id) (payload : VpnServerUpdate) :
    Within reportFrame (updateServer serverId payload) :=
  (getServer_within serverId).bind fun server => Within.bind (alter_keeping fun s =>
    Report.ext rfl rfl rfl rfl rfl rfl (s.db.vpnServers.keys_modify server.id
      (f := updatedServer payload) fun _ => rfl)) fun _ => flush_within report_books

theorem updateVlessServer_report (serverId : Id) (payload : VlessServerUpdate) :
    Within reportFrame (updateVlessServer serverId payload) :=
  (getVlessServer_within serverId).bind fun found => Within.bind (alter_keeping fun s =>
    Report.ext rfl rfl rfl rfl rfl rfl (s.db.vpnServers.keys_modify found.1.id
      (f := updatedServer payload.toVpnServerUpdate) fun _ => rfl)) fun _ => (flush_within
    report_books).bind fun _ => flush_within report_books

theorem updatePlan_report (planId : Id) (payload : PlanUpdate) :
    Within reportFrame (updatePlan planId payload) :=
  (getPlan_within planId).bind fun plan => Within.bind (alter_keeping fun s =>
    Report.ext rfl rfl rfl rfl (s.db.plans.keys_modify plan.id (f := updatedPlan payload)
      fun _ => rfl) rfl rfl) fun _ => flush_within report_books

theorem getServer_id {serverId : Id} : Yields (fun server => server.id=serverId)
    (getServer serverId) := by
  intro s a t h
  unfold getServer at h
  rw [getDb_bind_run] at h
  exact Store.key_of_get? (Eff.orRaise_ok.mp h).1

theorem getVlessServer_id {serverId : Id} : Yields (fun found => found.1.id=serverId)
    (getVlessServer serverId) := by
  intro s a t h
  unfold getVlessServer at h
  rw [getDb_bind_run] at h
  obtain ⟨server,hserver,h⟩ := Eff.orRaise_bind_ok.mp h
  obtain ⟨config,_,h⟩ := Eff.orRaise_bind_ok.mp h
  cases h
  exact Store.key_of_get? (Option.filter_eq_some_iff.mp hserver).1

/-- What an answered request of the staff made of the state is what its record tells. -/
theorem handleStaff_report {admin : AdminUser} {r : StaffRequest} {a : StaffResponse}
    (hs : s.db.report.Below s.serial) (h : handleStaff cfg admin r s=(.ok a,t)) :
    t.db.report=((r.deeds a).map (Deed.record admin.id s.now)).foldl Report.read
      s.db.report ∧ t.db.report.Below t.serial := by
  have hlog : ∀ {α : Type} {action targetType : String} {targetId : α → Option Id} (a : α),
      Within reportFrame (recordAudit (some admin.id) action targetType (targetId a) []) :=
    fun _ => audit_report _ _ _ _ _
  have hsame : t.db.report=s.db.report → s.serial≤t.serial → t.db.report.Below t.serial :=
    fun hview hserial => hview ▸ hs.mono hserial
  have hread : r.isRead=true → t.db.report=s.db.report ∧ t.db.report.Below t.serial := by
    intro hr
    have ht : t=s := (handleStaff_read admin hr s).still_run h
    exact ⟨by rw [ht],by rw [ht]; exact hs⟩
  cases r with
  | listUsers offset limit => exact hread rfl
  | getUser userId => exact hread rfl
  | listAllPayments offset limit => exact hread rfl
  | listAllTickets offset limit => exact hread rfl
  | listAuditLogs offset limit => exact hread rfl
  | addRule categoryId domain routeType enabled =>
    have hkept : reportFrame.rel s t :=
      ((Within.bind (getNow_within.bind fun _ => (nextSerial_within report_books).bind fun _ =>
        (flush_within report_books).bind fun _ => getDb_within.bind fun _ =>
        (Within.require _ _).bind fun _ => Within.bind (alter_keeping fun _ => rfl) fun _ =>
        Within.pure _) fun _ => Within.pure _ :
        Within reportFrame (handleStaff cfg admin (.addRule categoryId domain routeType enabled)))
        s).rel_of_run h
    exact ⟨hkept.1,hsame hkept.1 hkept.2⟩
  | updateUserStatus userId status =>
    simp only [handleStaff] at h
    obtain ⟨user,u,hu,hrest⟩ := Eff.bind_ok.mp h
    have hus : u=s := (orRaiseDb_within (R := Frame.still) s).still_run hu
    rw [hus] at hrest
    obtain ⟨_,v,hv,hend⟩ := Eff.bind_ok.mp hrest
    cases hend
    obtain ⟨hview,hserial⟩ := updateUserStatus_report hv
    refine ⟨?_,hview ▸ hs.of_lists rfl rfl rfl hserial⟩
    rw [hview]
    cases status <;> simp [StaffRequest.deeds,Deed.record,Report.read,UserStatus.value]
  | refundPayment paymentId =>
    simp only [handleStaff] at h
    obtain ⟨_,u,hu,hrest⟩ := Eff.bind_ok.mp h
    obtain ⟨payment,_,hend⟩ := Eff.orRaise_bind_ok.mp hrest
    cases hend
    obtain ⟨hview,hserial⟩ := refundPayment_report hu
    refine ⟨?_,hview ▸ hs.of_lists rfl rfl rfl hserial⟩
    rw [hview]
    simp [StaffRequest.deeds,Deed.record,Report.read]
  | adminReply ticketId text =>
    simp only [handleStaff] at h
    obtain ⟨ticket,hticket,hrest⟩ := Eff.orRaise_bind_ok.mp h
    have hid : ticket.id=ticketId := Store.key_of_get? hticket
    subst hid
    obtain ⟨_,u,v,hu,_,hview,hserial⟩ := deed_report hlog (fun _ => Within.pure _) hrest
    obtain ⟨hreplied,hserial'⟩ := addMessage_report hticket hu
    have hall := hview.trans hreplied
    refine ⟨?_,hall ▸ hs.of_lists rfl rfl rfl (hserial'.trans hserial)⟩
    rw [hall]
    simp [StaffRequest.deeds,Deed.record,Report.read]
  | closeTicket ticketId =>
    simp only [handleStaff] at h
    obtain ⟨ticket,hticket,hrest⟩ := Eff.orRaise_bind_ok.mp h
    have hid : ticket.id=ticketId := Store.key_of_get? hticket
    subst hid
    obtain ⟨_,u,v,hu,_,hview,hserial⟩ := deed_report hlog
      (fun _ => getDb_within.bind fun _ => Within.pure _) hrest
    obtain ⟨hclosed,hserial'⟩ := close_report hticket hu
    have hall := hview.trans hclosed
    refine ⟨?_,hall ▸ hs.of_lists rfl rfl rfl (hserial'.trans hserial)⟩
    rw [hall]
    simp [StaffRequest.deeds,Deed.record,Report.read]
  | createPlan payload =>
    simp only [handleStaff] at h
    obtain ⟨plan,u,v,hu,hend,hview,hserial⟩ := deed_report hlog (fun _ => Within.pure _) h
    cases hend
    obtain ⟨hcreated,hid,hserial'⟩ := createPlan_report hs hu
    have hall := hview.trans hcreated
    have hlater := hs.mono (hserial'.trans hserial)
    refine ⟨?_,hall ▸ ⟨below_append hs.plans (hid.trans_le hserial) (hserial'.trans hserial),
      hlater.categories,hlater.servers⟩⟩
    rw [hall]
    simp [StaffRequest.deeds,Deed.record,Report.read,readPlan]
  | createCategory name description =>
    simp only [handleStaff] at h
    obtain ⟨category,u,v,hu,hend,hview,hserial⟩ := deed_report hlog (fun _ => Within.pure _) h
    cases hend
    obtain ⟨hcreated,hid,hserial'⟩ := createCategory_report hs hu
    have hall := hview.trans hcreated
    have hlater := hs.mono (hserial'.trans hserial)
    refine ⟨?_,hall ▸ ⟨hlater.plans,
      below_append hs.categories (hid.trans_le hserial) (hserial'.trans hserial),
      hlater.servers⟩⟩
    rw [hall]
    simp [StaffRequest.deeds,Deed.record,Report.read]
  | createServer payload =>
    simp only [handleStaff] at h
    obtain ⟨server,u,v,hu,hend,hview,hserial⟩ := deed_report hlog (fun _ => Within.pure _) h
    cases hend
    obtain ⟨hcreated,hid,hserial'⟩ := createServer_report hs hu
    have hall := hview.trans hcreated
    have hlater := hs.mono (hserial'.trans hserial)
    refine ⟨?_,hall ▸ ⟨hlater.plans,hlater.categories,
      below_append hs.servers (hid.trans_le hserial) (hserial'.trans hserial)⟩⟩
    rw [hall]
    simp [StaffRequest.deeds,Deed.record,Report.read]
  | createVlessServer payload =>
    simp only [handleStaff] at h
    obtain ⟨created,u,v,hu,hend,hview,hserial⟩ := deed_report hlog (fun _ => Within.pure _) h
    cases hend
    obtain ⟨hcreated,hid,hserial'⟩ := createVlessServer_report hs hu
    have hall := hview.trans hcreated
    have hlater := hs.mono (hserial'.trans hserial)
    refine ⟨?_,hall ▸ ⟨hlater.plans,hlater.categories,
      below_append hs.servers (hid.trans_le hserial) (hserial'.trans hserial)⟩⟩
    rw [hall]
    simp [StaffRequest.deeds,Deed.record,Report.read]
  | updatePlan planId payload =>
    simp only [handleStaff] at h
    obtain ⟨_,u,v,hu,_,hview,hserial⟩ := deed_report hlog
      (fun _ => (getPlan_within planId).bind fun _ => Within.pure _) h
    have hkept := (updatePlan_report planId payload s).rel_of_run hu
    have hall := hview.trans hkept.1
    refine ⟨?_,hsame hall (hkept.2.trans hserial)⟩
    rw [hall]
    simp [StaffRequest.deeds,Deed.record,Report.read]
  | updateServer serverId payload =>
    simp only [handleStaff] at h
    obtain ⟨_,u,v,hu,_,hview,hserial⟩ := deed_report hlog
      (fun _ => (getServer_within serverId).bind fun _ => Within.pure _) h
    have hkept := (updateServer_report serverId payload s).rel_of_run hu
    have hall := hview.trans hkept.1
    refine ⟨?_,hsame hall (hkept.2.trans hserial)⟩
    rw [hall]
    simp [StaffRequest.deeds,Deed.record,Report.read]
  | updateVlessServer serverId payload =>
    simp only [handleStaff] at h
    obtain ⟨_,u,v,hu,_,hview,hserial⟩ := deed_report hlog
      (fun _ => (getVlessServer_within serverId).bind fun _ => Within.pure _) h
    have hkept := (updateVlessServer_report serverId payload s).rel_of_run hu
    have hall := hview.trans hkept.1
    refine ⟨?_,hsame hall (hkept.2.trans hserial)⟩
    rw [hall]
    simp [StaffRequest.deeds,Deed.record,Report.read]
  | deleteServer serverId =>
    simp only [handleStaff] at h
    obtain ⟨_,u,v,hu,_,hview,hserial⟩ := deed_report hlog (fun _ => Within.pure _) h
    obtain ⟨hdropped,hserial'⟩ := dropServer_report VpnServer.id
      (getServer_within serverId) getServer_id hu
    have hall := hview.trans hdropped
    have hlater := hs.mono (hserial'.trans hserial)
    refine ⟨?_,hall ▸ ⟨hlater.plans,hlater.categories,
      fun id hid => hlater.servers id (List.mem_of_mem_filter hid)⟩⟩
    rw [hall]
    simp [StaffRequest.deeds,Deed.record,Report.read]
  | deleteVlessServer serverId =>
    simp only [handleStaff] at h
    obtain ⟨_,u,v,hu,_,hview,hserial⟩ := deed_report hlog (fun _ => Within.pure _) h
    obtain ⟨hdropped,hserial'⟩ := dropServer_report
      (fun found : VpnServer×VlessServerConfig => found.1.id) (getVlessServer_within serverId)
      getVlessServer_id hu
    have hall := hview.trans hdropped
    have hlater := hs.mono (hserial'.trans hserial)
    refine ⟨?_,hall ▸ ⟨hlater.plans,hlater.categories,
      fun id hid => hlater.servers id (List.mem_of_mem_filter hid)⟩⟩
    rw [hall]
    simp [StaffRequest.deeds,Deed.record,Report.read]

end

section

variable (cfg : Settings) (auth : AuthSettings) (jwt : Jwt)

/-- What is created later gets a new number. -/
def Site.Ascending (site : Site) : Prop := site.world.db.report.Below site.world.serial

/-- Records of the worker tell a reader nothing new. -/
theorem read_expired {ls : List AuditLog} (h : ∀ l∈ls,l.action="subscription.expired")
    (s : Report) : ls.foldl Report.read s=s := by
  induction ls with
  | nil => rfl
  | cons l ls ih =>
    have hread : s.read l=s := by
      unfold Report.read
      rw [h l List.mem_cons_self]
      cases l.targetId <;> simp
    rw [List.foldl_cons,hread]
    exact ih fun x hx => h x (List.mem_cons_of_mem _ hx)

theorem Site.after_report {site : Site} (hs : site.Ascending) (o : Occasion) :
    (site.after cfg auth jwt o).world.db.report=
        (recordsDue cfg auth jwt site o).foldl Report.read site.world.db.report ∧
      (site.after cfg auth jwt o).Ascending := by
  rcases Site.after_cases cfg auth jwt site o with ⟨r,admin,a,t,hstaff⟩|hu
  · rw [hstaff.due,hstaff.after]
    exact handleStaff_report (s := ⟨site.world,o.env⟩) hs hstaff.run
  · have hkept := report_unattended hu.catalogue hu.unattended
    refine ⟨?_,?_⟩
    · rw [read_expired fun l hl => (hu.records l hl).2]
      exact hkept
    · unfold Site.Ascending
      rw [hkept]
      exact hs.mono (Site.after_serial cfg auth jwt site o)

/-- Whoever reads the audit log from its beginning knows which users are blocked, which tickets are
pending or closed, which payments are refunded and which plans, categories and servers there are,
in the order of their creation. -/
theorem log_replayed (os : List Occasion) :
    (Site.initial.run cfg auth jwt os).world.db.report=
      (Site.initial.run cfg auth jwt os).auditTrail.foldl Report.read .none := by
  have hnone : Site.initial.auditTrail=[] := rfl
  have hstart : Site.initial.world.db.report=.none := rfl
  have hbelow : Site.initial.Ascending := by
    unfold Site.Ascending
    rw [hstart]
    exact ⟨nofun,nofun,nofun⟩
  rw [Site.run_recorded cfg auth jwt logs_numbered_initial os,hnone,List.nil_append,← hstart]
  exact replay_run (fun site => site.world.db.report) Report.read (recordsDue cfg auth jwt)
    Site.Ascending (fun site o hs => (Site.after_report cfg auth jwt hs o).2)
    (fun site o hs => (Site.after_report cfg auth jwt hs o).1) .initial os hbelow

end

end Backend

end VpnService
