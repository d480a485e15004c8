import VpnService.Backend.Ownership
import VpnService.Backend.Pools
import VpnService.Backend.Ledger

namespace VpnService.Backend

/-- A config text and a URL handed out with a device are read off rows of the user: the peer, the
profile and the link of the device. -/
structure ProvisionedDevice.ReadOff (cfg : Settings) (db : Database) (userId : Id)
    (r : ProvisionedDevice) : Prop where
  device : db.Owns userId (.device r.device)
  config : ∀ content,r.configText=some content → ∃ server p profile,
    db.Owns userId (.peer p) ∧ p.deviceId=r.device.id ∧
    db.Owns userId (.profile profile) ∧ profile.deviceId=r.device.id ∧
    (db.vpnServers.get? p.serverId).map VpnServer.unloaded=some server ∧
    content=.config p.publicKey p.assignedIp server.publicKey server.endpoint profile.allowedIps
      profile.dns
  url : ∀ content,r.subscriptionUrl=some content → ∃ l token,db.Owns userId (.link l) ∧
    l.deviceId=r.device.id ∧ l.tokenHash=⟨token⟩ ∧
    content=.url cfg.subscriptionBaseUrl token

/-- Everything in the answer is read off rows of the user. -/
def Response.ReadOff (cfg : Settings) (db : Database) (userId : Id) : Response → Prop
  | .devices ds => ∀ d∈ds,db.Owns userId (.device d)
  | .provisioned r => r.ReadOff cfg db userId
  | .device d => db.Owns userId (.device d)
  | .linkCreated l content => db.Owns userId (.link l) ∧
    ∃ token,l.tokenHash=⟨token⟩ ∧ content=.url cfg.subscriptionBaseUrl token
  | .link l => db.Owns userId (.link l)
  | .profile p => db.Owns userId (.profile p)
  | .done | .payment _ | .config _ | .expired _ => False

/-- A subscription of the user, with its plan. -/
def Database.Shows (db : Database) (userId : Id) (x : Subscription×Plan) : Prop :=
  db.Owns userId (.subscription x.1) ∧ db.plans.get? x.1.planId=some x.2

structure RoutingSettings.ReadOff (db : Database) (userId : Id) (x : RoutingSettings) : Prop where
  mode : ∃ p,db.Owns userId (.routingProfile p) ∧ p.mode=x.mode
  categories : ∀ c∈x.categories,c∈db.routingCategories.rows
  enabled : ∀ k∈x.enabledCategoryIds,∃ p,db.Owns userId (.preference p) ∧ p.categoryId=k
  domains : ∀ text∈x.customDomains,∃ d,db.Owns userId (.domain d) ∧ d.domain=text

/-- Everything in the answer is read off rows of the user, and of plans and categories, which are
nobody's. -/
def BotResponse.ReadOff (cfg : Settings) (db : Database) (userId : Id) : BotResponse → Prop
  | .user u => u.id=userId ∧ u∈db.users.rows
  | .subscriptions xs => ∀ x∈xs,db.Shows userId x
  | .activeSubscription x => ∀ y,x=some y → db.Shows userId y
  | .subscription x => db.Shows userId x
  | .paymentCreated p => db.Owns userId (.payment p)
  | .payments ps => ∀ p∈ps,db.Owns userId (.payment p)
  | .settings x => x.ReadOff db userId
  | .core r => r.ReadOff cfg db userId
  | .ticket t ms => db.Owns userId (.ticket t) ∧ ∀ m∈ms,db.Owns userId (.message m)
  | .tickets ts => ∀ t∈ts,db.Owns userId (.ticket t)
  | .message m => db.Owns userId (.message m)

section

variable {cfg : Settings} {user : User} {s t : Session}

theorem readSubscription_ok {x : Subscription} {y : Subscription×Plan}
    (h : readSubscription x s=(.ok y,t)) :
    t=s ∧ y.1=x ∧ s.db.plans.get? x.planId=some y.2 := by
  unfold readSubscription at h
  rw [getDb_bind_run] at h
  obtain ⟨plan,hplan,h₁⟩ := Eff.orRaise_bind_ok.mp h
  cases h₁
  exact ⟨rfl,rfl,hplan⟩

theorem readSubscriptions_ok {xs : List Subscription} {ys : List (Subscription×Plan)}
    (h : readSubscriptions xs s=(.ok ys,t)) :
    t=s ∧ ∀ y∈ys,y.1∈xs ∧ s.db.plans.get? y.1.planId=some y.2 := by
  induction xs generalizing ys s t with
  | nil =>
    cases h
    exact ⟨rfl,fun y hy => by cases hy⟩
  | cons x xs ih =>
    obtain ⟨y,u,hu,h₁⟩ := Eff.bind_ok.mp h
    obtain ⟨hus,hyx,hplan⟩ := readSubscription_ok hu
    obtain ⟨zs,v,hv,h₂⟩ := Eff.bind_ok.mp h₁
    obtain ⟨hvu,hall⟩ := ih hv
    cases h₂
    subst hvu hus
    refine ⟨rfl,fun z hz => ?_⟩
    rcases List.mem_cons.mp hz with hz|hz
    · rw [hz,hyx]
      exact ⟨List.mem_cons_self,hplan⟩
    · exact ⟨List.mem_cons_of_mem _ (hall z hz).1,(hall z hz).2⟩

/-- Routing modes are numbered before the next number. -/
abbrev modesNumbered : Frame Session :=
  Frame.preserving fun s => ∀ p∈s.db.userRoutingProfiles.rows,p.id<s.serial

theorem modes_of (h : t.db.userRoutingProfiles=s.db.userRoutingProfiles)
    (hs : s.serial≤t.serial) : modesNumbered.rel s t := by
  intro hn p hp
  rw [h] at hp
  exact (hn p hp).trans_le hs

theorem modes_books : Bookkeeping modesNumbered :=
  ⟨fun _ => modes_of rfl (Int.lt_succ _).le,fun _ _ => modes_of rfl le_rfl⟩

theorem getOrCreateUserProfile_modes (userId : Id) :
    Within modesNumbered (getOrCreateUserProfile userId) := by
  refine getDb_within.bind fun db => ?_
  cases db.routingProfileOf userId with
  | some profile => exact Within.pure _
  | none =>
    intro s hn
    have hinsert : ∀ p∈(s.db.userRoutingProfiles.insert ⟨s.serial,userId,.fullVpn⟩).rows,
        p.id<s.serial+1 := by
      intro p hp
      rcases Store.mem_of_insert hp with hp|hp
      · exact (hn p hp).trans (Int.lt_succ _)
      · rw [hp]
        exact Int.lt_succ _
    exact (flush_within modes_books).bind (fun _ => Within.pure _) _ hinsert

theorem setMode_modes (userId : Id) (mode : RoutingMode) :
    Within modesNumbered (setMode userId mode) := by
  refine (getOrCreateUserProfile_modes userId).bind fun profile => ?_
  intro s hn p hp
  have hkey : ∀ x : UserRoutingProfile,({x with mode := mode} : UserRoutingProfile).id=x.id :=
    fun _ => rfl
  rcases (Store.mem_modify hkey).mp hp with ⟨x,hx,_,he⟩|⟨hp,_⟩
  · rw [he]
    exact hn x hx
  · exact hn p hp

theorem setCategoryPreference_modes (userId categoryId : Id) (enabled : Bool) :
    Within modesNumbered (setCategoryPreference userId categoryId enabled) := by
  refine getDb_within.bind fun _ => (Within.require _ _).bind fun _ => Within.bind ?_ fun _ =>
    flush_within modes_books
  refine getDb_within.bind fun db => ?_
  cases db.userCategoryPreferences.rows.find? fun p =>
    p.userId=userId ∧ p.categoryId=categoryId with
  | none =>
    exact (nextSerial_within modes_books).bind fun _ => alter_within fun _ => modes_of rfl le_rfl
  | some p => exact alter_within fun _ => modes_of rfl le_rfl

theorem addCustomDomain_modes (cfg : Settings) (userId : Id) (domain : String)
    (routeType : RouteType) : Within modesNumbered (addCustomDomain cfg userId domain routeType) := by
  refine getDb_within.bind fun db => ?_
  cases (db.customDomains userId).find? fun d => d.domain=normalizeDomain cfg domain with
  | some d => exact alter_within fun _ => modes_of rfl le_rfl
  | none =>
    exact getNow_within.bind fun _ => (nextSerial_within modes_books).bind fun _ =>
      Within.bind (alter_within fun _ => modes_of rfl le_rfl) fun _ => flush_within modes_books

theorem readMySettings_readOff {userId : Id} {a : BotResponse}
    (hs : ∀ p∈s.db.userRoutingProfiles.rows,p.id<s.serial)
    (h : readMySettings userId s=(.ok a,t)) : a.ReadOff cfg t.db userId := by
  obtain ⟨profile,u,hu,h₁⟩ := Eff.bind_ok.mp h
  obtain ⟨hmem,huser⟩ := getOrCreateUserProfile_ok hs hu
  cases h₁
  refine ⟨⟨profile,⟨hmem,congrArg some huser⟩,rfl⟩,fun c hc => (List.mem_filter.mp hc).1,?_,?_⟩
  · intro k hk
    obtain ⟨p,hp,he⟩ := List.mem_map.mp hk
    have hp := (List.mem_filter.mp hp).1
    simp only [Database.categoryPreferences,List.mem_filter,decide_eq_true_eq] at hp
    exact ⟨p,⟨hp.1,congrArg some hp.2⟩,he⟩
  · intro text htext
    obtain ⟨d,hd,he⟩ := List.mem_map.mp htext
    have hd := (List.mem_filter.mp hd).1
    simp only [Database.customDomains,List.mem_filter,decide_eq_true_eq] at hd
    exact ⟨d,⟨hd.1,congrArg some hd.2⟩,he⟩

theorem Issued.readOff {d userId : Id} {r : ProvisionedDevice} {db : Database} {server : VpnServer}
    {p : VpnPeer} {profile : VpnProfile} (h : Issued cfg d r db server p profile)
    (huser : r.device.userId=userId)
    (hurl : ∀ content,r.subscriptionUrl=some content → ∃ l token,l∈db.subscriptionLinks.rows ∧
      l.deviceId=d ∧ l.tokenHash=⟨token⟩ ∧ content=.url cfg.subscriptionBaseUrl token) :
    r.ReadOff cfg db userId := by
  have hid : r.device.id=d := Store.key_of_get? h.row
  have howner : db.deviceOwner d=some userId := by
    unfold Database.deviceOwner
    rw [h.row]
    exact congrArg some huser
  have hprofile : profile∈db.vpnProfiles.rows ∧ profile.deviceId=d := by
    have hmem : profile∈db.currentProfiles d := by rw [h.current]; exact List.mem_cons_self
    exact ⟨(mem_currentProfiles.mp hmem).1,(mem_currentProfiles.mp hmem).2.1⟩
  constructor
  · exact ⟨Store.mem_of_get? h.row,congrArg some huser⟩
  · intro content hc
    have hcontent : content=clientConfig cfg (issuedTo cfg server p) profile :=
      Option.some.inj (hc.symm.trans h.config)
    have hdns : (if profile.dns=[] then cfg.vpnDnsList else profile.dns)=profile.dns := by
      rw [h.dns]
      exact ite_self _
    refine ⟨server.unloaded,p,profile,⟨h.peer,?_⟩,h.onDevice.trans hid.symm,⟨hprofile.1,?_⟩,
      hprofile.2.trans hid.symm,?_,?_⟩
    · show db.deviceOwner p.deviceId=some userId
      rw [h.onDevice]
      exact howner
    · show db.deviceOwner profile.deviceId=some userId
      rw [hprofile.2]
      exact howner
    · rw [h.onServer]
      exact h.host
    · rw [hcontent,clientConfig,hdns]
      rfl
  · intro content hc
    obtain ⟨l,token,hl,hd,hhash,he⟩ := hurl content hc
    refine ⟨l,token,⟨hl,?_⟩,hd.trans hid.symm,hhash,he⟩
    show db.deviceOwner l.deviceId=some userId
    rw [hd]
    exact howner

/-- A request about a device answers with what its owner has. -/
theorem handleDevice_readOff {device : Device} {r : DeviceRequest} {a : Response}
    (hs : Numbered s.serial s.db) (hdevice : s.db.devices.get? device.id=some device)
    (h : handleDevice cfg device r s=(.ok a,t)) : a.ReadOff cfg t.db device.userId := by
  have hcovers : (Scope.of device.id s).Covers device.id s :=
    Scope.of_covers fun c hc _ => (hs.credentials c hc).2
  have htouched := (handleDevice_touching cfg hcovers r).rel_of_run h (Scope.of_fits _ s)
  obtain ⟨row,hrow,huser,_⟩ := htouched.db.own device hdevice
  have howner : t.db.deviceOwner device.id=some device.userId := by
    unfold Database.deviceOwner
    rw [hrow]
    exact congrArg some huser
  have hthrough : ∀ {k : Id},k=device.id → t.db.deviceOwner k=some device.userId := fun he =>
    he ▸ howner
  have hanswer : ∀ {u : Session},answerDevice device u=(.ok a,t) →
      a.ReadOff cfg t.db device.userId := by
    intro u hu
    cases hu
    rw [hrow]
    exact ⟨Store.mem_of_get? hrow,congrArg some huser⟩
  cases r with
  | reissue =>
    obtain ⟨result,u,hu,h₁⟩ := Eff.bind_ok.mp h
    cases h₁
    obtain ⟨server,p,profile,hissued,hnone,_⟩ :=
      reissue_issued hdevice hs.profiles hs.peers hu
    refine hissued.readOff ?_ fun content hc => ?_
    · rw [← huser,← Option.some.inj (hrow.symm.trans hissued.row)]
    · rw [hnone] at hc
      cases hc
  | disable =>
    obtain ⟨_,u,_,h₁⟩ := Eff.bind_ok.mp h
    exact hanswer h₁
  | enable =>
    obtain ⟨_,u,_,h₁⟩ := Eff.bind_ok.mp h
    exact hanswer h₁
  | revoke =>
    obtain ⟨_,u,_,h₁⟩ := Eff.bind_ok.mp h
    exact hanswer h₁
  | createOrRotateLink =>
    obtain ⟨link,u,hu,h₁⟩ := Eff.bind_ok.mp h
    obtain ⟨url,v,hv,h₂⟩ := Eff.bind_ok.mp h₁
    have hvu : v=u := ((generateQrCode_within _ : Within Frame.still _) u).still_run hv
    have hurl := generateQrCode_yields _ u url v hv
    cases h₂
    subst hvu hurl
    obtain ⟨hmem,hd,hhash⟩ := createOrRotate_stands hs.links hu
    exact ⟨⟨hmem,hthrough hd⟩,link.2,hhash,rfl⟩
  | getLink =>
    obtain ⟨link,u,hu,h₁⟩ := Eff.bind_ok.mp h
    obtain ⟨hlink,hus⟩ := Eff.orRaise_ok.mp hu
    subst hus
    cases h₁
    obtain ⟨hmem,hd⟩ := Database.linkOf_mem hlink
    exact ⟨hmem,hthrough hd⟩
  | revokeLink =>
    obtain ⟨link,u,hu,h₁⟩ := Eff.bind_ok.mp h
    obtain ⟨hlink,hus⟩ := Eff.orRaise_ok.mp hu
    subst hus
    obtain ⟨_,v,hv,h₂⟩ := Eff.bind_ok.mp h₁
    obtain ⟨hmem,hd⟩ := Database.linkOf_mem hlink
    have hlinks : v.db.subscriptionLinks=u.db.subscriptionLinks.modify link.id
        (fun l => {l with status := .revoked,revokedAt := some u.now}) fun _ => rfl := by
      cases hv
      rfl
    have hnow : v.db.subscriptionLinks.get? link.id=
        some {link with status := .revoked,revokedAt := some u.now} := by
      rw [hlinks]
      exact (Store.get?_modify_self _ _ _ _).trans (by rw [Store.get?_of_mem _ hmem]; rfl)
    cases h₂
    show t.db.Owns device.userId (.link ((t.db.subscriptionLinks.get? link.id).getD link))
    rw [hnow]
    exact ⟨Store.mem_of_get? hnow,hthrough hd⟩
  | getProfile =>
    obtain ⟨p,u,hu,h₁⟩ := Eff.bind_ok.mp h
    obtain ⟨db,v,hv,hrest⟩ := Eff.bind_ok.mp hu
    cases hv
    obtain ⟨current,w,hw,hlast⟩ := Eff.bind_ok.mp hrest
    obtain ⟨hcurrent,hws⟩ := currentProfile_ok hw
    obtain ⟨hp,hwu⟩ := Eff.orRaise_ok.mp hlast
    cases h₁
    subst hws hwu
    have hmem : p∈t.db.currentProfiles device.id := by
      rw [hcurrent,hp]
      exact List.mem_cons_self
    exact ⟨(mem_currentProfiles.mp hmem).1,hthrough (mem_currentProfiles.mp hmem).2.1⟩
  | refreshProfile =>
    obtain ⟨p,u,hu,h₁⟩ := Eff.bind_ok.mp h
    cases h₁
    obtain ⟨hcurrent,_⟩ := regenerateProfile_current hs.profiles hu
    have hmem : p∈t.db.currentProfiles device.id := by rw [hcurrent]; exact List.mem_cons_self
    exact ⟨(mem_currentProfiles.mp hmem).1,hthrough (mem_currentProfiles.mp hmem).2.1⟩

theorem getOwned_ok {deviceId userId : Id} {device : Device}
    (h : getOwned deviceId userId s=(.ok device,t)) :
    t=s ∧ s.db.devices.get? device.id=some device ∧ device.userId=userId := by
  obtain ⟨hfound,ht⟩ := Eff.orRaise_ok.mp h
  obtain ⟨hget,huser⟩ := Option.filter_eq_some_iff.mp hfound
  have hid : device.id=deviceId := Store.key_of_get? hget
  exact ⟨ht,by rw [hid]; exact hget,by simpa using huser⟩

theorem getOwnTicket_ok {ticketId userId : Id} {ticket : SupportTicket}
    (h : getOwnTicket ticketId userId s=(.ok ticket,t)) :
    t=s ∧ s.db.supportTickets.get? ticket.id=some ticket ∧ ticket.userId=userId := by
  obtain ⟨x,u,hu,h₁⟩ := Eff.bind_ok.mp h
  obtain ⟨hget,hus⟩ := Eff.orRaise_ok.mp hu
  obtain ⟨huser,h₂⟩ := Eff.require_bind_ok.mp h₁
  cases h₂
  have hid : ticket.id=ticketId := Store.key_of_get? hget
  subst hus
  exact ⟨rfl,by rw [hid]; exact hget,huser⟩

/-- A request that succeeds leaves what other users own. -/
theorem handleUser_leaving {b : Id} {r : BotRequest} {a : BotResponse}
    (hs : Numbered s.serial s.db) (hb : user.id≠b) (h : handleUser cfg user r s=(.ok a,t)) :
    (leaving b).rel s t := by
  have hsettings : Within (leaving b) (readMySettings user.id) :=
    (getOrCreateUserProfile_leaving hb).bind fun _ => getDb_within.bind fun _ => Within.pure _
  cases r with
  | getMe =>
    cases h
    rfl
  | listMySubscriptions =>
    obtain ⟨xs,u,hu,h₁⟩ := Eff.bind_ok.mp h
    cases hu
    obtain ⟨ys,v,hv,h₂⟩ := Eff.bind_ok.mp h₁
    cases h₂
    rw [(readSubscriptions_ok hv).1]
    exact (leaving b).refl s
  | getMyActiveSubscription =>
    have hread : ∀ o : Option Subscription,Within (leaving b) (readActiveSubscription o) := by
      intro o
      cases o with
      | none => exact Within.pure _
      | some x =>
        exact (getDb_within.bind fun _ => (Within.orRaise _ _).bind fun _ =>
          Within.pure _ : Within (leaving b) (readSubscription x)).bind fun _ => Within.pure _
    exact ((getDb_within.bind fun db => (hread _).bind fun _ => Within.pure _ :
      Within (leaving b) _) s).rel_of_run h
  | cancelSubscription subscriptionId =>
    obtain ⟨x,u,hu,h₁⟩ := Eff.bind_ok.mp h
    obtain ⟨hget,hus⟩ := Eff.orRaise_ok.mp hu
    subst hus
    obtain ⟨huser,h₂⟩ := Eff.require_bind_ok.mp h₁
    obtain ⟨_,v,hv,h₃⟩ := Eff.bind_ok.mp h₂
    obtain ⟨y,w,hw,h₄⟩ := Eff.bind_ok.mp h₃
    cases h₄
    rw [(readSubscription_ok hw).1]
    have hid : x.id=subscriptionId := Store.key_of_get? hget
    exact (cancel_leaving (hid ▸ hget) (huser ▸ hb)).rel_of_run hv
  | createPayment planId promoCode =>
    exact (((getPlan_within planId).bind fun _ => (createPayment_leaving hb).bind fun _ =>
      Within.pure _ : Within (leaving b) _) s).rel_of_run h
  | listMyPayments =>
    cases h
    rfl
  | getMySettings => exact (hsettings s).rel_of_run h
  | setMyMode mode =>
    exact ((setMode_leaving hs.routingProfiles hb).bind fun _ u _ => hsettings u).rel_of_run h
  | setMyCategory categoryId enabled =>
    exact (((setCategoryPreference_leaving hb).bind fun _ => hsettings :
      Within (leaving b) _) s).rel_of_run h
  | addMyDomain domain routeType =>
    exact (((addCustomDomain_leaving hb).bind fun _ => hsettings :
      Within (leaving b) _) s).rel_of_run h
  | listDevices =>
    cases h
    rfl
  | createDevice name serverId protocol =>
    obtain ⟨result,u,hu,h₁⟩ := Eff.bind_ok.mp h
    cases h₁
    exact provision_leaving hs hb hu
  | device deviceId r =>
    obtain ⟨device,u,hu,h₁⟩ := Eff.bind_ok.mp h
    obtain ⟨hus,hdevice,huser⟩ := getOwned_ok hu
    subst hus
    obtain ⟨answer,v,hv,h₂⟩ := Eff.bind_ok.mp h₁
    cases h₂
    exact (handleDevice_leaving hs hdevice (huser ▸ hb) r).rel_of_run hv
  | createTicket subject message =>
    obtain ⟨ticket,u,hu,h₁⟩ := Eff.bind_ok.mp h
    cases h₁
    exact (createTicket_leaving hs.tickets hb).rel_of_run hu
  | listMyTickets =>
    exact ((getDb_within.bind fun _ => (Within.require _ _).bind fun _ => Within.pure _ :
      Within (leaving b) _) s).rel_of_run h
  | getTicket ticketId =>
    obtain ⟨ticket,u,hu,h₁⟩ := Eff.bind_ok.mp h
    cases h₁
    rw [(getOwnTicket_ok hu).1]
    exact (leaving b).refl s
  | addTicketMessage ticketId text =>
    obtain ⟨ticket,u,hu,h₁⟩ := Eff.bind_ok.mp h
    obtain ⟨hus,hget,huser⟩ := getOwnTicket_ok hu
    subst hus
    obtain ⟨message,v,hv,h₂⟩ := Eff.bind_ok.mp h₁
    cases h₂
    exact (addMessage_leaving hget (huser ▸ hb)).rel_of_run hv

theorem createPayment_stands {plan : Plan} {promoCode : Option String} {payment : Payment}
    (hs : ∀ p∈s.db.payments.rows,p.id<s.serial)
    (h : createPayment cfg user plan promoCode s=(.ok payment,t)) :
    t.db.Owns user.id (.payment payment) := by
  obtain ⟨subscription,_,hsold⟩ := createPayment_ok h
  exact ⟨(hsold.mem_payments hs).mpr (Or.inr rfl),by rw [hsold.payment_eq]; rfl⟩

theorem createTicket_stands {userId : Id} {subject message : String} {ticket : SupportTicket}
    (hs : ∀ x∈s.db.supportTickets.rows,x.id<s.serial)
    (h : createTicket userId subject message s=(.ok ticket,t)) :
    t.db.supportTickets.get? ticket.id=some ticket ∧ ticket.userId=userId := by
  obtain ⟨now,u₀,hu₀,h₁⟩ := Eff.bind_ok.mp h
  cases hu₀
  obtain ⟨id,u₁,hu₁,h₂⟩ := Eff.bind_ok.mp h₁
  cases hu₁
  obtain ⟨messageId,u₂,hu₂,h₃⟩ := Eff.bind_ok.mp h₂
  cases hu₂
  obtain ⟨_,u₃,hu₃,h₄⟩ := Eff.bind_ok.mp h₃
  obtain ⟨os,hos⟩ := flush_ok hu₃
  obtain ⟨_,h₅⟩ := Eff.require_bind_ok.mp h₄
  subst hos
  cases h₅
  have hfresh : ∀ x∈s.db.supportTickets.rows,x.id≠s.serial := fun x hx => (hs x hx).ne
  exact ⟨(Store.get?_insert _ _ hfresh _).trans (if_pos rfl),rfl⟩

theorem readTicket_readOff {ticket : SupportTicket} {a : BotResponse}
    (hget : s.db.supportTickets.get? ticket.id=some ticket)
    (h : readTicket ticket s=(.ok a,t)) : a.ReadOff cfg t.db ticket.userId := by
  cases h
  refine ⟨⟨Store.mem_of_get? hget,rfl⟩,fun m hm => ?_⟩
  have hm := List.mem_mergeSort.mp hm
  simp only [List.mem_filter,decide_eq_true_eq] at hm
  refine ⟨hm.1,?_⟩
  show s.db.ticketOwner m.ticketId=_
  unfold Database.ticketOwner
  rw [hm.2,hget]
  rfl

theorem addMessage_stands {ticket : SupportTicket} {text : String} {message : SupportMessage}
    (hget : s.db.supportTickets.get? ticket.id=some ticket)
    (hs : ∀ m∈s.db.supportMessages.rows,m.id<s.serial)
    (h : addMessage ticket .user text s=(.ok message,t)) :
    t.db.Owns ticket.userId (.message message) := by
  obtain ⟨now,u₀,hu₀,h₁⟩ := Eff.bind_ok.mp h
  cases hu₀
  obtain ⟨id,u₁,hu₁,h₂⟩ := Eff.bind_ok.mp h₁
  cases hu₁
  obtain ⟨_,u₂,hu₂,h₃⟩ := Eff.bind_ok.mp h₂
  cases hu₂
  obtain ⟨_,u₃,hu₃,h₄⟩ := Eff.bind_ok.mp h₃
  obtain ⟨os,hos⟩ := flush_ok hu₃
  subst hos
  cases h₄
  have hfresh : ∀ m∈s.db.supportMessages.rows,m.id≠s.serial := fun m hm => (hs m hm).ne
  refine ⟨(Store.mem_insert hfresh).mpr (Or.inr rfl),?_⟩
  show (s.db.supportTickets.get? ticket.id).map SupportTicket.userId=_
  rw [hget]
  rfl

/-- A request that succeeds answers with what the user has. -/
theorem handleUser_readOff {r : BotRequest} {a : BotResponse} (hs : Numbered s.serial s.db)
    (huser : user∈s.db.users.rows) (h : handleUser cfg user r s=(.ok a,t)) :
    a.ReadOff cfg t.db user.id := by
  cases r with
  | getMe =>
    cases h
    exact ⟨rfl,huser⟩
  | listMySubscriptions =>
    obtain ⟨db,u,hu,h₁⟩ := Eff.bind_ok.mp h
    cases hu
    obtain ⟨ys,v,hv,h₂⟩ := Eff.bind_ok.mp h₁
    obtain ⟨hvs,hall⟩ := readSubscriptions_ok hv
    cases h₂
    subst hvs
    intro y hy
    obtain ⟨hmem,hplan⟩ := hall y hy
    have hmem := List.mem_filter.mp (List.mem_reverse.mp hmem)
    exact ⟨⟨hmem.1,congrArg some (by simpa using hmem.2)⟩,hplan⟩
  | getMyActiveSubscription =>
    obtain ⟨db,u,hu,h₁⟩ := Eff.bind_ok.mp h
    cases hu
    obtain ⟨y,v,hv,h₂⟩ := Eff.bind_ok.mp h₁
    cases h₂
    intro z hz
    subst hz
    cases hactive : s.db.activeSubscription user.id with
    | none =>
      rw [hactive] at hv
      cases hv
    | some x =>
      rw [hactive] at hv
      obtain ⟨y,w,hw,h₃⟩ := Eff.bind_ok.mp hv
      obtain ⟨hws,hyx,hplan⟩ := readSubscription_ok hw
      cases h₃
      subst hws hyx
      have hmem := firstBy_mem _ _ _ hactive
      simp only [Database.activeSubscriptions,List.mem_filter,decide_eq_true_eq] at hmem
      exact ⟨⟨hmem.1,congrArg some hmem.2.1⟩,hplan⟩
  | cancelSubscription subscriptionId =>
    obtain ⟨x,u,hu,h₁⟩ := Eff.bind_ok.mp h
    obtain ⟨hget,hus⟩ := Eff.orRaise_ok.mp hu
    subst hus
    obtain ⟨hown,h₂⟩ := Eff.require_bind_ok.mp h₁
    obtain ⟨_,v,hv,h₃⟩ := Eff.bind_ok.mp h₂
    obtain ⟨y,w,hw,h₄⟩ := Eff.bind_ok.mp h₃
    obtain ⟨hwv,hyx,hplan⟩ := readSubscription_ok hw
    cases h₄
    subst hwv
    have hrows : t.db.subscriptions=u.db.subscriptions.modify x.id cancelled fun _ => rfl := by
      cases hv
      rfl
    have hkey : ∀ x : Subscription,(cancelled x).id=x.id := fun _ => rfl
    show t.db.Owns user.id (.subscription y.1) ∧ t.db.plans.get? y.1.planId=some y.2
    rw [hyx]
    refine ⟨⟨?_,congrArg some hown⟩,hplan⟩
    show cancelled x∈t.db.subscriptions.rows
    rw [hrows]
    exact (Store.mem_modify_row hkey (Store.mem_of_get? hget)).mpr (Or.inl rfl)
  | createPayment planId promoCode =>
    obtain ⟨plan,u,hu,h₁⟩ := Eff.bind_ok.mp h
    obtain ⟨_,hus⟩ := Eff.orRaise_ok.mp hu
    subst hus
    obtain ⟨payment,v,hv,h₂⟩ := Eff.bind_ok.mp h₁
    cases h₂
    exact createPayment_stands hs.payments hv
  | listMyPayments =>
    cases h
    intro p hp
    have hmem := List.mem_filter.mp (List.mem_reverse.mp hp)
    exact ⟨hmem.1,congrArg some (by simpa using hmem.2)⟩
  | getMySettings => exact readMySettings_readOff hs.routingProfiles h
  | setMyMode mode =>
    obtain ⟨_,u,hu,h₁⟩ := Eff.bind_ok.mp h
    exact readMySettings_readOff ((setMode_modes _ _ s).rel_of_run hu hs.routingProfiles) h₁
  | setMyCategory categoryId enabled =>
    obtain ⟨_,u,hu,h₁⟩ := Eff.bind_ok.mp h
    exact readMySettings_readOff
      ((setCategoryPreference_modes _ _ _ s).rel_of_run hu hs.routingProfiles) h₁
  | addMyDomain domain routeType =>
    obtain ⟨_,u,hu,h₁⟩ := Eff.bind_ok.mp h
    exact readMySettings_readOff
      ((addCustomDomain_modes cfg _ _ _ s).rel_of_run hu hs.routingProfiles) h₁
  | listDevices =>
    cases h
    intro d hd
    have hmem := (s.db.mem_devicesOf).mp hd
    exact ⟨hmem.1,congrArg some hmem.2.1⟩
  | createDevice name serverId protocol =>
    obtain ⟨result,u,hu,h₁⟩ := Eff.bind_ok.mp h
    cases h₁
    cases protocol with
    | wireguard =>
      obtain ⟨server,p,profile,l,token,hissued,hl,hd,hhash,hurl,hown⟩ :=
        provision_issued hs.devices hs.profiles hs.peers hs.links hu
      refine hissued.readOff hown fun content hc => ⟨l,token,hl,hd,hhash,?_⟩
      exact Option.some.inj (hc.symm.trans hurl)
    | vless =>
      obtain ⟨_,v,hv,h₁⟩ := Eff.bind_ok.mp hu
      obtain ⟨hvs,_⟩ := enforceDeviceLimit_ok hv
      subst hvs
      obtain ⟨l,token,hrow,hown,hnone,hl,hd,hhash,hurl⟩ :=
        provisionVless_issued hs.devices hs.links h₁
      have hid : result.device.id=s.serial := Store.key_of_get? hrow
      constructor
      · exact ⟨Store.mem_of_get? hrow,congrArg some hown⟩
      · intro content hc
        rw [hnone] at hc
        cases hc
      · intro content hc
        refine ⟨l,token,⟨hl,?_⟩,hd.trans hid.symm,hhash,Option.some.inj (hc.symm.trans hurl)⟩
        show (t.db.devices.get? l.deviceId).map Device.userId=_
        rw [hd,hrow]
        exact congrArg some hown
  | device deviceId r =>
    obtain ⟨device,u,hu,h₁⟩ := Eff.bind_ok.mp h
    obtain ⟨hus,hdevice,hown⟩ := getOwned_ok hu
    subst hus
    obtain ⟨answer,v,hv,h₂⟩ := Eff.bind_ok.mp h₁
    cases h₂
    rw [← hown]
    exact handleDevice_readOff hs hdevice hv
  | createTicket subject message =>
    obtain ⟨ticket,u,hu,h₁⟩ := Eff.bind_ok.mp h
    obtain ⟨hget,hown⟩ := createTicket_stands hs.tickets hu
    rw [← hown]
    exact readTicket_readOff hget h₁
  | listMyTickets =>
    obtain ⟨db,u,hu,h₁⟩ := Eff.bind_ok.mp h
    cases hu
    obtain ⟨hnone,h₂⟩ := Eff.require_bind_ok.mp h₁
    cases h₂
    intro ticket ht
    rw [hnone] at ht
    cases ht
  | getTicket ticketId =>
    obtain ⟨ticket,u,hu,h₁⟩ := Eff.bind_ok.mp h
    obtain ⟨hus,hget,hown⟩ := getOwnTicket_ok hu
    subst hus
    rw [← hown]
    exact readTicket_readOff hget h₁
  | addTicketMessage ticketId text =>
    obtain ⟨ticket,u,hu,h₁⟩ := Eff.bind_ok.mp h
    obtain ⟨hus,hget,hown⟩ := getOwnTicket_ok hu
    subst hus
    obtain ⟨message,v,hv,h₂⟩ := Eff.bind_ok.mp h₁
    cases h₂
    show t.db.Owns user.id (.message message)
    rw [← hown]
    exact addMessage_stands hget hs.messages hv

end

end VpnService.Backend
