import VpnService.Backend.Issuing
import VpnService.Backend.BotApi

namespace VpnService.Backend

/-- A row that belongs to a user: by its own column, through its device or through its ticket. -/
inductive OwnedRow
  | device (d : Device)
  | peer (p : VpnPeer)
  | credential (c : VlessCredential)
  | profile (p : VpnProfile)
  | link (l : SubscriptionLink)
  | subscription (s : Subscription)
  | payment (p : Payment)
  | redemption (r : PromoCodeRedemption)
  | routingProfile (p : UserRoutingProfile)
  | preference (p : UserCategoryPreference)
  | domain (d : UserCustomDomain)
  | ticket (t : SupportTicket)
  | message (m : SupportMessage)

namespace Database

variable (db : Database)

def stands : OwnedRow → Prop
  | .device d => d∈db.devices.rows
  | .peer p => p∈db.vpnPeers.rows
  | .credential c => c∈db.vlessCredentials.rows
  | .profile p => p∈db.vpnProfiles.rows
  | .link l => l∈db.subscriptionLinks.rows
  | .subscription s => s∈db.subscriptions.rows
  | .payment p => p∈db.payments.rows
  | .redemption r => r∈db.promoCodeRedemptions.rows
  | .routingProfile p => p∈db.userRoutingProfiles.rows
  | .preference p => p∈db.userCategoryPreferences.rows
  | .domain d => d∈db.userCustomDomains.rows
  | .ticket t => t∈db.supportTickets.rows
  | .message m => m∈db.supportMessages.rows

def deviceOwner (deviceId : Id) : Option Id := (db.devices.get? deviceId).map Device.userId

def ticketOwner (ticketId : Id) : Option Id :=
  (db.supportTickets.get? ticketId).map SupportTicket.userId

def owner : OwnedRow → Option Id
  | .device d => some d.userId
  | .peer p => db.deviceOwner p.deviceId
  | .credential c => db.deviceOwner c.deviceId
  | .profile p => db.deviceOwner p.deviceId
  | .link l => db.deviceOwner l.deviceId
  | .subscription s => some s.userId
  | .payment p => some p.userId
  | .redemption r => some r.userId
  | .routingProfile p => some p.userId
  | .preference p => some p.userId
  | .domain d => some d.userId
  | .ticket t => some t.userId
  | .message m => db.ticketOwner m.ticketId

/-- The row is in its table, and the user's. -/
def Owns (userId : Id) (x : OwnedRow) : Prop := db.stands x ∧ db.owner x=some userId

end Database

/-- All ids in the tables, and the uuids, were drawn before `n`. -/
structure Numbered (n : Int) (db : Database) : Prop where
  devices : ∀ d∈db.devices.rows,d.id<n
  peers : ∀ p∈db.vpnPeers.rows,p.id<n
  credentials : ∀ c∈db.vlessCredentials.rows,c.id<n ∧ c.uuid<n
  profiles : ∀ p∈db.vpnProfiles.rows,p.id<n
  links : ∀ l∈db.subscriptionLinks.rows,l.id<n
  subscriptions : ∀ s∈db.subscriptions.rows,s.id<n
  payments : ∀ p∈db.payments.rows,p.id<n
  routingProfiles : ∀ p∈db.userRoutingProfiles.rows,p.id<n
  preferences : ∀ p∈db.userCategoryPreferences.rows,p.id<n
  domains : ∀ d∈db.userCustomDomains.rows,d.id<n
  tickets : ∀ t∈db.supportTickets.rows,t.id<n
  messages : ∀ m∈db.supportMessages.rows,m.id<n

/-- What leaves everything a user owns as it is, and gives the user nothing. -/
abbrev leaving (userId : Id) : Frame Session := Frame.keeping fun s x => s.db.Owns userId x

section

variable {b : Id} {s t : Session}

theorem leaving_iff : (leaving b).rel s t ↔ ∀ x,t.db.Owns b x ↔ s.db.Owns b x := by
  constructor
  · intro h x
    exact iff_of_eq (congrFun h x)
  · intro h
    funext x
    exact propext (h x)

theorem leaving_books : Bookkeeping (leaving b) := ⟨fun _ => rfl,fun _ _ => rfl⟩

theorem alter_leaving {f : Database → Database} (h : ∀ x,(f s.db).Owns b x ↔ s.db.Owns b x) :
    WithinAt (leaving b) (alter f) s := leaving_iff.mpr h

/-- A table in which the rows of a user can be told apart by their own column. -/
theorem insert_owned {ρ : Type} {key : ρ → Id} {table : Store key} {row x : ρ} (user : ρ → Id)
    (h : user row≠b) :
    x∈(table.insert row).rows ∧ some (user x)=some b ↔ x∈table.rows ∧ some (user x)=some b := by
  constructor
  · intro ⟨hx,hu⟩
    have hu' := Option.some.inj hu
    exact ⟨(Store.mem_insert_outside (q := fun y => user y=b) h hu').mp hx,hu⟩
  · intro ⟨hx,hu⟩
    have hu' := Option.some.inj hu
    exact ⟨(Store.mem_insert_outside (q := fun y => user y=b) h hu').mpr hx,hu⟩

theorem modify_owned {ρ : Type} {key : ρ → Id} {table : Store key} {row x : ρ} {f : ρ → ρ}
    (user : ρ → Id) (hf : ∀ r,key (f r)=key r) (hu : ∀ r,user (f r)=user r)
    (hrow : row∈table.rows) (hb : user row≠b) :
    x∈(table.modify (key row) f hf).rows ∧ some (user x)=some b ↔
      x∈table.rows ∧ some (user x)=some b := by
  have hout : ∀ r∈table.rows,key r=key row → ¬user r=b ∧ ¬user (f r)=b := by
    intro r hr hk
    rw [hu,Store.eq_of_key hr hrow hk]
    exact ⟨hb,hb⟩
  constructor
  · intro ⟨hx,hu⟩
    have hu' := Option.some.inj hu
    exact ⟨(Store.mem_modify_outside hf (q := fun y => user y=b) hout hu').mp hx,hu⟩
  · intro ⟨hx,hu⟩
    have hu' := Option.some.inj hu
    exact ⟨(Store.mem_modify_outside hf (q := fun y => user y=b) hout hu').mpr hx,hu⟩

end

/-- What a new profile of device `d`, made for user `u`, may change beside the fleet: profiles of
the device and routing modes of the user. -/
structure PaperTouched (d u : Id) (a b : Database) : Prop where
  profiles : ∀ p : VpnProfile,p.deviceId≠d → (p∈b.vpnProfiles.rows ↔ p∈a.vpnProfiles.rows)
  routingProfiles : ∀ p : UserRoutingProfile,p.userId≠u →
    (p∈b.userRoutingProfiles.rows ↔ p∈a.userRoutingProfiles.rows)
  preferences : b.userCategoryPreferences=a.userCategoryPreferences
  domains : b.userCustomDomains=a.userCustomDomains
  tickets : b.supportTickets=a.supportTickets
  messages : b.supportMessages=a.supportMessages

theorem PaperTouched.refl (d u : Id) (a : Database) : PaperTouched d u a a :=
  ⟨fun _ _ => Iff.rfl,fun _ _ => Iff.rfl,rfl,rfl,rfl,rfl⟩

def paperTouching (d u : Id) : Frame Session where
  rel s t := PaperTouched d u s.db t.db
  refl s := .refl d u s.db
  trans h k := ⟨fun p hp => (k.profiles p hp).trans (h.profiles p hp),
    fun p hp => (k.routingProfiles p hp).trans (h.routingProfiles p hp),
    k.preferences.trans h.preferences,k.domains.trans h.domains,k.tickets.trans h.tickets,
    k.messages.trans h.messages⟩

section

variable {d u : Id} {s t : Session}

theorem paperTouching_of_paperwork (h : paperworkFrame.rel s t) : (paperTouching d u).rel s t := by
  have hdb : t.db.paperwork=s.db.paperwork := h.1
  have hprofiles : t.db.vpnProfiles=s.db.vpnProfiles := (congrArg Database.vpnProfiles hdb :)
  have hmodes : t.db.userRoutingProfiles=s.db.userRoutingProfiles :=
    (congrArg Database.userRoutingProfiles hdb :)
  refine ⟨fun _ _ => by rw [hprofiles],fun _ _ => by rw [hmodes],?_,?_,?_,?_⟩
  · exact (congrArg Database.userCategoryPreferences hdb :)
  · exact (congrArg Database.userCustomDomains hdb :)
  · exact (congrArg Database.supportTickets hdb :)
  · exact (congrArg Database.supportMessages hdb :)

theorem paper_books : Bookkeeping (paperTouching d u) :=
  ⟨fun s => (paperTouching d u).refl s,fun s _ => (paperTouching d u).refl s⟩

theorem alter_paper {f : Database → Database} (h : ∀ a,PaperTouched d u a (f a)) :
    Within (paperTouching d u) (alter f) := fun s => h s.db

theorem getOrCreateUserProfile_paper :
    Within (paperTouching d u) (getOrCreateUserProfile u) := by
  refine getDb_within.bind fun db => ?_
  cases db.routingProfileOf u with
  | some profile => exact Within.pure _
  | none =>
    refine (nextSerial_within paper_books).bind fun id => ?_
    refine Within.bind (alter_paper fun a => ?_) fun _ => (flush_within paper_books).bind fun _ =>
      Within.pure _
    exact {PaperTouched.refl d u a with
      routingProfiles := fun p hp => Store.mem_insert_outside (q := fun p => p.userId≠u)
        (not_not.mpr rfl) hp}

theorem regenerateProfile_paper (cfg : Settings) :
    Within (paperTouching d u) (regenerateProfile cfg d u) := by
  refine getOrCreateUserProfile_paper.bind fun mode => ?_
  refine (profileAllowedIps_within u mode.mode).bind fun allowed => ?_
  refine getDb_within.bind fun db => (currentProfile_within _).bind fun current => ?_
  refine Within.bind (alter_paper fun a => ?_) fun _ => getNow_within.bind fun now => ?_
  · exact {PaperTouched.refl d u a with
      profiles := fun p hp => by
        rw [mem_markSuperseded]
        constructor
        · intro ⟨q,hq,he⟩
          have hd : q.deviceId≠d := by
            rw [he,(supersededIn_keeps d q).2.1] at hp
            exact hp
          rw [he,supersededIn_other hd]
          exact hq
        · intro hmem
          exact ⟨p,hmem,(supersededIn_other hp).symm⟩}
  · refine (nextSerial_within paper_books).bind fun id => ?_
    refine Within.bind (alter_paper fun a => ?_) fun _ => (flush_within paper_books).bind fun _ =>
      Within.pure _
    exact {PaperTouched.refl d u a with
      profiles := fun p hp => Store.mem_insert_outside (q := fun p => p.deviceId≠d)
        (not_not.mpr rfl) hp}

end

section

variable {b : Id}

/-- Rows that hang on a device stay the user's own when no device of the user is touched. -/
theorem owned_through {ρ : Type} {old new : List ρ} {device : ρ → Id} {owner owner' : Id → Option Id}
    {d : Id} (howner : ∀ k,k≠d → owner' k=owner k) (hold : owner d≠some b)
    (hnew : owner' d≠some b) (h : ∀ x,device x≠d → (x∈new ↔ x∈old)) (x : ρ) :
    x∈new ∧ owner' (device x)=some b ↔ x∈old ∧ owner (device x)=some b := by
  by_cases hx : device x=d
  · constructor
    · intro ⟨_,ho⟩
      rw [hx] at ho
      exact absurd ho hnew
    · intro ⟨_,ho⟩
      rw [hx] at ho
      exact absurd ho hold
  · rw [howner _ hx,h x hx]

/-- What is done to a device of another user leaves everything the user owns. -/
theorem owns_of_touched {d u : Id} {a c : Database} (hd : DbTouched d a c)
    (hp : PaperTouched d u a c) (hu : u≠b) (hold : a.deviceOwner d≠some b)
    (hnew : c.deviceOwner d≠some b) (x : OwnedRow) : c.Owns b x ↔ a.Owns b x := by
  have howner : ∀ k,k≠d → c.deviceOwner k=a.deviceOwner k := fun k hk => by
    unfold Database.deviceOwner
    rw [hd.devices k hk]
  have hbilling := hd.billing
  simp only [Database.billing,Prod.mk.injEq] at hbilling
  obtain ⟨_,_,hsubs,_,hredeemed,hpayments⟩ := hbilling
  cases x with
  | device x =>
    show x∈c.devices.rows ∧ some x.userId=some b ↔ x∈a.devices.rows ∧ some x.userId=some b
    have hkey : ∀ {db : Database},x∈db.devices.rows → x.id=d → db.deviceOwner d=some x.userId := by
      intro db hx he
      unfold Database.deviceOwner
      rw [← he,db.devices.get?_of_mem hx]
      rfl
    have hne : ∀ {db : Database},db.deviceOwner d≠some b → x∈db.devices.rows →
        some x.userId=some b → x.id≠d := fun hdb hx hb he => hdb ((hkey hx he).trans hb)
    constructor
    · intro ⟨hx,hb⟩
      have hget := c.devices.get?_of_mem hx
      rw [hd.devices _ (hne hnew hx hb)] at hget
      exact ⟨Store.mem_of_get? hget,hb⟩
    · intro ⟨hx,hb⟩
      have hget := a.devices.get?_of_mem hx
      rw [← hd.devices _ (hne hold hx hb)] at hget
      exact ⟨Store.mem_of_get? hget,hb⟩
  | peer p => exact owned_through howner hold hnew hd.peers p
  | credential x => exact owned_through howner hold hnew hd.credentials x
  | profile p => exact owned_through howner hold hnew hp.profiles p
  | link l => exact owned_through howner hold hnew hd.links l
  | subscription x =>
    show x∈c.subscriptions.rows ∧ _ ↔ _
    rw [hsubs]
    rfl
  | payment x =>
    show x∈c.payments.rows ∧ _ ↔ _
    rw [hpayments]
    rfl
  | redemption x =>
    show x∈c.promoCodeRedemptions.rows ∧ _ ↔ _
    rw [hredeemed]
    rfl
  | routingProfile p =>
    have hiff : p.userId=b → (p∈c.userRoutingProfiles.rows ↔ p∈a.userRoutingProfiles.rows) :=
      fun he => hp.routingProfiles p fun h => hu (h.symm.trans he)
    constructor
    · intro ⟨hx,hb⟩
      exact ⟨(hiff (Option.some.inj hb)).mp hx,hb⟩
    · intro ⟨hx,hb⟩
      exact ⟨(hiff (Option.some.inj hb)).mpr hx,hb⟩
  | preference p =>
    show p∈c.userCategoryPreferences.rows ∧ _ ↔ _
    rw [hp.preferences]
    rfl
  | domain x =>
    show x∈c.userCustomDomains.rows ∧ _ ↔ _
    rw [hp.domains]
    rfl
  | ticket x =>
    show x∈c.supportTickets.rows ∧ _ ↔ _
    rw [hp.tickets]
    rfl
  | message m =>
    show m∈c.supportMessages.rows ∧ c.ticketOwner m.ticketId=some b ↔ _
    unfold Database.ticketOwner
    rw [hp.messages,hp.tickets]
    rfl

end

section

variable {b : Id} {cfg : Settings} {user : User} {s : Session}

theorem handleDevice_leaving {device : Device} (hs : Numbered s.serial s.db)
    (hdevice : s.db.devices.get? device.id=some device) (hb : device.userId≠b)
    (r : DeviceRequest) : WithinAt (leaving b) (handleDevice cfg device r) s := by
  have hcovers : (Scope.of device.id s).Covers device.id s :=
    Scope.of_covers fun c hc _ => (hs.credentials c hc).2
  have htouched := handleDevice_touching cfg hcovers r (Scope.of_fits _ s)
  have hpaper := handleDevice_within paperTouching_of_paperwork (r := r)
    (fun _ => regenerateProfile_paper (d := device.id) (u := device.userId) cfg) s
  obtain ⟨row,hrow,huser,_⟩ := htouched.db.own device hdevice
  apply leaving_iff.mpr
  apply owns_of_touched htouched.db hpaper hb
  · unfold Database.deviceOwner
    rw [hdevice]
    exact fun he => hb (Option.some.inj he)
  · unfold Database.deviceOwner
    rw [hrow]
    exact fun he => hb (huser.symm.trans (Option.some.inj he))

/-- A new device gets the next number, which no row of another user has or hangs on. -/
theorem provision_leaving {name : String} {requested : Option Id} {protocol : VpnProtocol}
    {r : ProvisionedDevice} {t : Session} (hs : Numbered s.serial s.db) (hb : user.id≠b)
    (h : provision cfg user name requested protocol s=(.ok r,t)) : (leaving b).rel s t := by
  have hcovers : (Scope.of s.serial s).Covers s.serial s :=
    Scope.of_covers fun c hc _ => (hs.credentials c hc).2
  have htouched := (provision_touching cfg user name requested protocol hcovers).rel_of_run h
    (Scope.of_fits _ s)
  have hpaper := (provision_withinAt paperTouching_of_paperwork
    (fun _ => regenerateProfile_paper (d := s.serial) (u := user.id) cfg) name requested).rel_of_run h
  have hnew : ∃ row,t.db.devices.get? s.serial=some row ∧ row.userId=user.id := by
    cases protocol with
    | wireguard =>
      obtain ⟨_,_,_,_,_,hissued,_,_,_,_,huser⟩ :=
        provision_issued hs.devices hs.profiles hs.peers hs.links h
      exact ⟨r.device,hissued.row,huser⟩
    | vless =>
      obtain ⟨_,_,ha,hrest⟩ := Eff.bind_ok.mp h
      obtain ⟨hsa,_⟩ := enforceDeviceLimit_ok ha
      subst hsa
      obtain ⟨_,_,hrow,huser,_⟩ := provisionVless_issued hs.devices hs.links hrest
      exact ⟨r.device,hrow,huser⟩
  obtain ⟨row,hrow,huser⟩ := hnew
  apply leaving_iff.mpr
  apply owns_of_touched htouched.db hpaper hb
  · unfold Database.deviceOwner
    rw [(s.db.devices.get?_eq_none s.serial).mpr fun d hd => (hs.devices d hd).ne]
    exact nofun
  · unfold Database.deviceOwner
    rw [hrow]
    exact fun he => hb (huser.symm.trans (Option.some.inj he))

theorem createPayment_leaving {plan : Plan} {promoCode : Option String} (hb : user.id≠b) :
    Within (leaving b) (createPayment cfg user plan promoCode) := by
  refine (checkedPromo_within user promoCode).bind fun promo => ?_
  refine (nextSerial_within leaving_books).bind fun key => ?_
  refine Within.bind ?_ fun subscription => (nextSerial_within leaving_books).bind fun external =>
    (nextSerial_within leaving_books).bind fun id => Within.bind ?_ fun _ =>
    (flush_within leaving_books).bind fun _ => Within.pure _
  · refine (Within.require _ _).bind fun _ => (nextSerial_within leaving_books).bind fun id => ?_
    refine Within.bind (fun s => alter_leaving fun x => ?_) fun _ =>
      (flush_within leaving_books).bind fun _ => Within.pure _
    cases x with
    | subscription x => exact insert_owned Subscription.userId hb
    | _ => exact Iff.rfl
  · intro s
    refine alter_leaving fun x => ?_
    cases x with
    | payment x => exact insert_owned Payment.userId hb
    | _ => exact Iff.rfl

theorem cancel_leaving {subscription : Subscription}
    (hget : s.db.subscriptions.get? subscription.id=some subscription)
    (hb : subscription.userId≠b) : WithinAt (leaving b) (cancel subscription) s := by
  refine alter_leaving fun x => ?_
  cases x with
  | subscription x =>
    refine modify_owned Subscription.userId ?_ (fun _ => rfl) (Store.mem_of_get? hget) hb
    exact fun _ => rfl
  | _ => exact Iff.rfl

/-- The routing mode of a user stands in the table once it was asked for. -/
theorem getOrCreateUserProfile_ok {userId : Id} {profile : UserRoutingProfile} {t : Session}
    (hs : ∀ p∈s.db.userRoutingProfiles.rows,p.id<s.serial)
    (h : getOrCreateUserProfile userId s=(.ok profile,t)) :
    profile∈t.db.userRoutingProfiles.rows ∧ profile.userId=userId := by
  unfold getOrCreateUserProfile at h
  rw [getDb_bind_run] at h
  cases hfound : s.db.routingProfileOf userId with
  | some p =>
    rw [hfound] at h
    cases h
    exact ⟨List.mem_of_find?_eq_some hfound,by simpa using List.find?_some hfound⟩
  | none =>
    rw [hfound] at h
    obtain ⟨id,u,hu,h₁⟩ := Eff.bind_ok.mp h
    cases hu
    obtain ⟨_,v,hv,h₂⟩ := Eff.bind_ok.mp h₁
    cases hv
    obtain ⟨_,w,hw,h₃⟩ := Eff.bind_ok.mp h₂
    obtain ⟨os,rfl⟩ := flush_ok hw
    cases h₃
    exact ⟨(Store.mem_insert fun p hp => (hs p hp).ne).mpr (Or.inr rfl),rfl⟩

theorem getOrCreateUserProfile_leaving {userId : Id} (hb : userId≠b) :
    Within (leaving b) (getOrCreateUserProfile userId) := by
  refine getDb_within.bind fun db => ?_
  cases db.routingProfileOf userId with
  | some profile => exact Within.pure _
  | none =>
    refine (nextSerial_within leaving_books).bind fun id => ?_
    refine Within.bind (fun s => alter_leaving fun x => ?_) fun _ =>
      (flush_within leaving_books).bind fun _ => Within.pure _
    cases x with
    | routingProfile x => exact insert_owned UserRoutingProfile.userId hb
    | _ => exact Iff.rfl

theorem setMode_leaving {userId : Id} {mode : RoutingMode}
    (hs : ∀ p∈s.db.userRoutingProfiles.rows,p.id<s.serial) (hb : userId≠b) :
    WithinAt (leaving b) (setMode userId mode) s := by
  refine (getOrCreateUserProfile_leaving hb s).bind fun profile t ht => ?_
  obtain ⟨hmem,huser⟩ := getOrCreateUserProfile_ok hs ht
  refine alter_leaving fun x => ?_
  cases x with
  | routingProfile x =>
    refine modify_owned UserRoutingProfile.userId ?_ (fun _ => rfl) hmem (huser ▸ hb)
    exact fun _ => rfl
  | _ => exact Iff.rfl

theorem setCategoryPreference_leaving {userId categoryId : Id} {enabled : Bool} (hb : userId≠b) :
    Within (leaving b) (setCategoryPreference userId categoryId enabled) := by
  refine getDb_within.bind fun _ => (Within.require _ _).bind fun _ => Within.bind ?_ fun _ =>
    flush_within leaving_books
  intro s
  refine WithinAt.reads_bind ?_
  cases hfound : s.db.userCategoryPreferences.rows.find? fun p =>
    p.userId=userId ∧ p.categoryId=categoryId with
  | none =>
    refine Within.bind (nextSerial_within leaving_books) (fun id t => alter_leaving fun x => ?_) s
    cases x with
    | preference x => exact insert_owned UserCategoryPreference.userId hb
    | _ => exact Iff.rfl
  | some p =>
    have hmem := List.mem_of_find?_eq_some hfound
    have huser : p.userId=userId ∧ p.categoryId=categoryId := by
      simpa using List.find?_some hfound
    refine alter_leaving fun x => ?_
    cases x with
    | preference x =>
      refine modify_owned UserCategoryPreference.userId ?_ (fun _ => rfl) hmem
        (huser.1 ▸ hb)
      exact fun _ => rfl
    | _ => exact Iff.rfl

theorem addCustomDomain_leaving {cfg : Settings} {userId : Id} {domain : String} {routeType : RouteType}
    (hb : userId≠b) : Within (leaving b) (addCustomDomain cfg userId domain routeType) := by
  intro s
  refine WithinAt.reads_bind ?_
  cases hfound : (s.db.customDomains userId).find? fun d => d.domain=normalizeDomain cfg domain with
  | some d =>
    have hmem := List.mem_of_find?_eq_some hfound
    simp only [Database.customDomains,List.mem_filter,decide_eq_true_eq] at hmem
    refine alter_leaving fun x => ?_
    cases x with
    | domain x =>
      refine modify_owned UserCustomDomain.userId ?_ (fun _ => rfl) hmem.1
        (hmem.2 ▸ hb)
      exact fun _ => rfl
    | _ => exact Iff.rfl
  | none =>
    refine (getNow_within.bind fun now => (nextSerial_within leaving_books).bind fun id =>
      Within.bind (fun t => alter_leaving fun x => ?_) fun _ => flush_within leaving_books :
      Within (leaving b) _) s
    cases x with
    | domain x => exact insert_owned UserCustomDomain.userId hb
    | _ => exact Iff.rfl

theorem openTicket_owns {ticket : SupportTicket} {message : SupportMessage} {db : Database}
    (hs : ∀ x∈db.supportTickets.rows,x.id≠ticket.id) (hm : message.ticketId=ticket.id)
    (hb : ticket.userId≠b) (x : OwnedRow) :
    (openTicket ticket message db).Owns b x ↔ db.Owns b x := by
  cases x with
  | ticket x => exact insert_owned SupportTicket.userId hb
  | message m =>
    have howner : ∀ k,k≠ticket.id →
        (openTicket ticket message db).ticketOwner k=db.ticketOwner k := fun k hk =>
      congrArg _ (Store.get?_insert_outside _ hk)
    have hold : db.ticketOwner ticket.id≠some b := by
      unfold Database.ticketOwner
      rw [(db.supportTickets.get?_eq_none ticket.id).mpr hs]
      exact nofun
    have hnew : (openTicket ticket message db).ticketOwner ticket.id≠some b := by
      unfold Database.ticketOwner openTicket
      rw [Store.get?_insert _ _ hs,if_pos rfl]
      exact fun he => hb (Option.some.inj he)
    exact owned_through howner hold hnew (fun m hne =>
      Store.mem_insert_outside (q := fun m => m.ticketId≠ticket.id) (not_not.mpr hm) hne) m
  | _ => exact Iff.rfl

theorem createTicket_leaving {userId : Id} {subject message : String}
    (hs : ∀ x∈s.db.supportTickets.rows,x.id<s.serial) (hb : userId≠b) :
    WithinAt (leaving b) (createTicket userId subject message) s := by
  refine WithinAt.reads_bind ?_
  refine (nextSerial_within leaving_books s).bind fun id t ht => ?_
  refine (nextSerial_within leaving_books t).bind fun messageId u hu => ?_
  cases ht
  cases hu
  refine WithinAt.bind (flush_within leaving_books _) fun _ v hv => ?_
  obtain ⟨os,hvs⟩ := flush_ok hv
  refine WithinAt.still_bind (Within.require _ _ v) fun _ _ => ?_
  refine WithinAt.bind (alter_leaving (openTicket_owns ?_ rfl hb)) fun _ w _ => Within.pure _ w
  rw [hvs]
  exact fun x hx => (hs x hx).ne

theorem addMessage_leaving {ticket : SupportTicket} {text : String}
    (hget : s.db.supportTickets.get? ticket.id=some ticket) (hb : ticket.userId≠b) :
    WithinAt (leaving b) (addMessage ticket .user text) s := by
  refine WithinAt.reads_bind ?_
  refine (nextSerial_within leaving_books s).bind fun id t ht => ?_
  cases ht
  refine WithinAt.bind (alter_leaving fun x => ?_) fun _ u _ =>
    Within.bind (flush_within leaving_books) (fun _ => Within.pure _) u
  cases x with
  | message m =>
    have howner : s.db.ticketOwner ticket.id≠some b := by
      unfold Database.ticketOwner
      rw [hget]
      exact fun he => hb (Option.some.inj he)
    refine owned_through (fun _ _ => rfl) howner howner (fun m hm => ?_) m
    exact Store.mem_insert_outside (q := fun m => m.ticketId≠ticket.id) (not_not.mpr rfl) hm
  | _ => exact Iff.rfl

end

end VpnService.Backend
