import VpnService.Backend.Answers
import VpnService.Backend.Roles
import VpnService.Framework.NaturalKey

namespace VpnService.Backend

/-- What a user has chosen about routes. -/
@[ext] structure Choices where
  mode : RoutingMode
  prefers : Id → Bool
  route : String → Option RouteType

def Choices.unmade : Choices where
  mode := .fullVpn
  prefers _ := false
  route _ := none

/-- Of the choices of one thing the last counts. -/
def Choices.apply (cfg : Settings) (c : Choices) : BotRequest → Choices
  | .setMyMode mode => {c with mode := mode}
  | .setMyCategory categoryId enabled =>
    {c with prefers := Function.update c.prefers categoryId enabled}
  | .addMyDomain domain routeType =>
    {c with route := Function.update c.route (normalizeDomain cfg domain) (some routeType)}
  | _ => c

/-- A request acting for a user, as the choices of all users see it. -/
def choose (cfg : Settings) (all : Id → Choices) (x : Id×BotRequest) : Id → Choices :=
  Function.update all x.1 ((all x.1).apply cfg x.2)

def UserCategoryPreference.subject (p : UserCategoryPreference) : Id×Id := (p.userId,p.categoryId)

def UserCustomDomain.subject (d : UserCustomDomain) : Id×String := (d.userId,d.domain)

/-- What the three tables of settings say. -/
def Database.choices (db : Database) (userId : Id) : Choices where
  mode := ((db.userRoutingProfiles.locate UserRoutingProfile.userId userId).map
    UserRoutingProfile.mode).getD .fullVpn
  prefers categoryId := ((db.userCategoryPreferences.locate UserCategoryPreference.subject
    (userId,categoryId)).map UserCategoryPreference.enabled).getD false
  route domain := (db.userCustomDomains.locate UserCustomDomain.subject (userId,domain)).map
    UserCustomDomain.routeType

/-- The tables of settings keep their unique constraints, and no domain is ever switched off. -/
structure Chosen (n : Int) (db : Database) : Prop where
  modes : Store.Indexed UserRoutingProfile.userId n db.userRoutingProfiles
  preferences : Store.Indexed UserCategoryPreference.subject n db.userCategoryPreferences
  domains : Store.Indexed UserCustomDomain.subject n db.userCustomDomains
  enabled : ∀ d∈db.userCustomDomains.rows,d.enabled=true

def Database.wishes (db : Database) : Store UserRoutingProfile.id×
    Store UserCategoryPreference.id×Store UserCustomDomain.id :=
  (db.userRoutingProfiles,db.userCategoryPreferences,db.userCustomDomains)

theorem choices_of_wishes {a b : Database} (h : b.wishes=a.wishes) : b.choices=a.choices := by
  simp only [Database.wishes,Prod.mk.injEq] at h
  unfold Database.choices
  rw [h.1,h.2.1,h.2.2]

theorem Chosen.of_wishes {n m : Int} {a b : Database} (h : Chosen n a)
    (hwishes : b.wishes=a.wishes) (hnm : n≤ m) : Chosen m b := by
  simp only [Database.wishes,Prod.mk.injEq] at hwishes
  obtain ⟨hmodes,hpreferences,hdomains⟩ := hwishes
  exact ⟨hmodes ▸ h.modes.mono hnm,hpreferences ▸ h.preferences.mono hnm,
    hdomains ▸ h.domains.mono hnm,hdomains ▸ h.enabled⟩

/-- The frame of what leaves the settings as they stand. -/
abbrev wishFrame : Frame Session := keeping fun s => s.db.wishes

/-- The frame of what leaves the choices of all users as they are. -/
def choiceFrame : Frame Session where
  rel s t := s.serial≤t.serial ∧
    (Chosen s.serial s.db → Chosen t.serial t.db ∧ t.db.choices=s.db.choices)
  refl _ := ⟨le_rfl,fun h => ⟨h,rfl⟩⟩
  trans h k := by
    refine ⟨h.1.trans k.1,fun hs => ?_⟩
    obtain ⟨hmid,hfirst⟩ := h.2 hs
    obtain ⟨hend,hsecond⟩ := k.2 hmid
    exact ⟨hend,hsecond.trans hfirst⟩

theorem choice_of_wish {s t : Session} (h : wishFrame.rel s t) : choiceFrame.rel s t :=
  ⟨h.2,fun hs => ⟨hs.of_wishes h.1 h.2,choices_of_wishes h.1⟩⟩

theorem wish_books : Bookkeeping wishFrame := keeping_books (fun _ _ => rfl) fun _ _ => rfl

theorem choice_books : Bookkeeping choiceFrame :=
  ⟨fun s => choice_of_wish (wish_books.serial s),
    fun s os => choice_of_wish (wish_books.outcomes s os)⟩

theorem alter_wish {f : Database → Database} (h : ∀ db,(f db).wishes=db.wishes) :
    Within wishFrame (alter f) := fun s => ⟨h s.db,le_rfl⟩

/-- The frame of what also leaves all profiles. -/
abbrev personalFrame : Frame Session := keeping fun s => (s.db.wishes,s.db.vpnProfiles)

theorem choice_of_personal {s t : Session} (h : personalFrame.rel s t) : choiceFrame.rel s t :=
  choice_of_wish ⟨congrArg Prod.fst h.1,h.2⟩

theorem personal_books : Bookkeeping personalFrame :=
  keeping_books (fun _ _ => rfl) fun _ _ => rfl

theorem alter_personal {f : Database → Database}
    (h : ∀ db,((f db).wishes,(f db).vpnProfiles)=(db.wishes,db.vpnProfiles)) :
    Within personalFrame (alter f) := fun s => ⟨h s.db,le_rfl⟩

theorem alter_choice {f : Database → Database} (h : ∀ db,(f db).wishes=db.wishes) :
    Within choiceFrame (alter f) := (alter_wish h).mono choice_of_wish

theorem choice_of_paperwork {s t : Session} (h : paperworkFrame.rel s t) : choiceFrame.rel s t :=
  choice_of_wish ⟨(congrArg Database.wishes h.1 :),h.2⟩

section

variable {cfg : Settings} {s t : Session} {userId : Id}

/-- A new routing profile says what held before. -/
theorem Chosen.profile {n : Int} {db : Database} (h : Chosen n db)
    (hnone : db.routingProfileOf userId=none) :
    let db' := {db with
      userRoutingProfiles := db.userRoutingProfiles.insert ⟨n,userId,.fullVpn⟩}
    Chosen (n+1) db' ∧ db'.choices=db.choices ∧
      db'.routingProfileOf userId=some ⟨n,userId,.fullVpn⟩ := by
  have hlater : n≤ n+1 := (Int.lt_succ _).le
  have hlocate := h.modes.locate_insert (r := ⟨n,userId,.fullVpn⟩) le_rfl hnone
  refine ⟨⟨h.modes.insert le_rfl (Int.lt_succ _) hnone,h.preferences.mono hlater,
    h.domains.mono hlater,h.enabled⟩,?_,?_⟩
  · funext v
    refine Choices.ext ?_ rfl rfl
    simp only [Database.choices,hlocate]
    by_cases hv : v=userId
    · have hunmade : db.userRoutingProfiles.locate UserRoutingProfile.userId v=none :=
        hv ▸ hnone
      rw [hv,Function.update_self,← hv,hunmade]
      rfl
    · rw [Function.update_of_ne hv]
  · exact (congrFun hlocate userId).trans (Function.update_self _ _ _)

theorem getOrCreateUserProfile_choice (userId : Id) :
    Within choiceFrame (getOrCreateUserProfile userId) := by
  intro s
  refine WithinAt.reads_bind ?_
  cases hfound : s.db.routingProfileOf userId with
  | some profile => exact Within.pure _ s
  | none =>
    have hinsert : ∀ t : Session,t.serial=s.serial+1 →
        t.db={s.db with userRoutingProfiles :=
          s.db.userRoutingProfiles.insert ⟨s.serial,userId,.fullVpn⟩} →
        choiceFrame.rel s t := by
      intro t hserial hdb
      refine ⟨hserial ▸ (Int.lt_succ _).le,fun hs => ?_⟩
      obtain ⟨hchosen,hsame,_⟩ := hs.profile hfound
      rw [hserial,hdb]
      exact ⟨hchosen,hsame⟩
    exact choiceFrame.trans (hinsert _ rfl rfl) (((flush_within choice_books).bind
      fun _ => Within.pure _) _)

/-- The routing profile that is found or made stands in the table. -/
theorem getOrCreateUserProfile_chosen {profile : UserRoutingProfile}
    (h : getOrCreateUserProfile userId s=(.ok profile,t)) (hs : Chosen s.serial s.db) :
    t.db.routingProfileOf userId=some profile := by
  unfold getOrCreateUserProfile at h
  rw [getDb_bind_run] at h
  cases hfound : s.db.routingProfileOf userId with
  | some p =>
    rw [hfound] at h
    cases h
    exact hfound
  | none =>
    rw [hfound] at h
    obtain ⟨id,u,hu,h⟩ := Eff.bind_ok.mp h
    cases hu
    obtain ⟨_,v,hv,h⟩ := Eff.bind_ok.mp h
    cases hv
    obtain ⟨_,w,hw,h⟩ := Eff.bind_ok.mp h
    obtain ⟨os,rfl⟩ := flush_ok hw
    cases h
    exact (hs.profile hfound).2.2

/-- What a request that sets something makes of all choices. -/
structure Made (cfg : Settings) (x : Id×BotRequest) (s t : Session) : Prop where
  chosen : Chosen t.serial t.db
  choices : t.db.choices=choose cfg s.db.choices x

theorem Made.trans {x : Id×BotRequest} {u : Session} (h : Made cfg x s t)
    (k : choiceFrame.rel t u) : Made cfg x s u := by
  obtain ⟨hchosen,hsame⟩ := k.2 h.chosen
  exact ⟨hchosen,hsame.trans h.choices⟩

theorem Made.after {x : Id×BotRequest} {r : Session} (k : choiceFrame.rel r s)
    (hr : Chosen r.serial r.db) (h : Made cfg x s t) : Made cfg x r t :=
  ⟨h.chosen,h.choices.trans (congrArg (fun all => choose cfg all x) (k.2 hr).2)⟩

theorem choices_made {a b : Database} {x : Id×BotRequest}
    (hown : b.choices x.1=(a.choices x.1).apply cfg x.2)
    (hothers : ∀ v,v≠x.1 → b.choices v=a.choices v) : b.choices=choose cfg a.choices x := by
  funext v
  unfold choose
  by_cases hv : v=x.1
  · rw [hv,Function.update_self,hown]
  · rw [Function.update_of_ne hv,hothers v hv]

theorem setMode_made {mode : RoutingMode} (hs : Chosen s.serial s.db)
    (h : setMode userId mode s=(.ok (),t)) : Made cfg (userId,.setMyMode mode) s t := by
  obtain ⟨profile,u,hu,h⟩ := Eff.bind_ok.mp h
  have hkept : choiceFrame.rel s u := (getOrCreateUserProfile_choice userId s).rel_of_run hu
  have hfound := getOrCreateUserProfile_chosen hu hs
  have hmid := (hkept.2 hs).1
  refine Made.after hkept hs ?_
  cases h
  have hlocate := hmid.modes.locate_modify hfound (f := fun p => {p with mode := mode})
    (fun _ => rfl) fun _ => rfl
  refine ⟨⟨hmid.modes.modify (f := fun p => {p with mode := mode}) (fun _ => rfl) fun _ => rfl,
    hmid.preferences,hmid.domains,hmid.enabled⟩,choices_made ?_ fun v hv => ?_⟩
  · refine Choices.ext ?_ rfl rfl
    simp [Database.choices,hlocate,Choices.apply]
  · refine Choices.ext ?_ rfl rfl
    simp [Database.choices,hlocate,Function.update_of_ne hv]

/-- One value of a two-part index, as one of the function of its second part. -/
theorem update_pair {α β γ δ : Type} [DecidableEq α] [DecidableEq β] (f : α×β → γ) (g : γ → δ)
    (a : α) (b : β) (c : γ) : (fun x => g (Function.update f (a,b) c (a,x)))=
      Function.update (fun x => g (f (a,x))) b (g c) := by
  funext x
  by_cases hx : x=b
  · simp [hx]
  · simp [hx,Function.update_of_ne]

theorem preference_located (db : Database) (categoryId : Id) :
    (db.userCategoryPreferences.rows.find? fun p => p.userId=userId ∧ p.categoryId=categoryId)=
      db.userCategoryPreferences.locate UserCategoryPreference.subject (userId,categoryId) := by
  unfold Store.locate UserCategoryPreference.subject
  congr 1
  funext p
  simp

theorem domain_located (db : Database) (domain : String) :
    ((db.customDomains userId).find? fun d => d.domain=domain)=
      db.userCustomDomains.locate UserCustomDomain.subject (userId,domain) := by
  unfold Store.locate UserCustomDomain.subject Database.customDomains
  rw [List.find?_filter]
  congr 1
  funext d
  simp

/-- A change to the table of preferences at one user and category. -/
theorem preferences_made {a b : Database} {categoryId : Id} {enabled : Bool}
    {row : UserCategoryPreference} (hrow : row.enabled=enabled)
    (hmodes : b.userRoutingProfiles=a.userRoutingProfiles)
    (hdomains : b.userCustomDomains=a.userCustomDomains)
    (hlocate : b.userCategoryPreferences.locate UserCategoryPreference.subject=
      Function.update (a.userCategoryPreferences.locate UserCategoryPreference.subject)
        (userId,categoryId) (some row)) :
    b.choices=choose cfg a.choices (userId,.setMyCategory categoryId enabled) := by
  refine choices_made ?_ fun v hv => ?_
  · refine Choices.ext ?_ ?_ ?_
    · simp [Database.choices,Choices.apply,hmodes]
    · have hpair := update_pair
        (a.userCategoryPreferences.locate UserCategoryPreference.subject)
        (fun o => (o.map UserCategoryPreference.enabled).getD false) userId categoryId (some row)
      simpa [Database.choices,Choices.apply,hlocate,hrow] using hpair
    · simp [Database.choices,Choices.apply,hdomains]
  · refine Choices.ext ?_ ?_ ?_
    · simp [Database.choices,hmodes]
    · simp [Database.choices,hlocate,hv]
    · simp [Database.choices,hdomains]

theorem domains_made {a b : Database} {domain : String} {routeType : RouteType}
    {row : UserCustomDomain} (hrow : row.routeType=routeType)
    (hmodes : b.userRoutingProfiles=a.userRoutingProfiles)
    (hpreferences : b.userCategoryPreferences=a.userCategoryPreferences)
    (hlocate : b.userCustomDomains.locate UserCustomDomain.subject=
      Function.update (a.userCustomDomains.locate UserCustomDomain.subject)
        (userId,normalizeDomain cfg domain) (some row)) :
    b.choices=choose cfg a.choices (userId,.addMyDomain domain routeType) := by
  refine choices_made ?_ fun v hv => ?_
  · refine Choices.ext ?_ ?_ ?_
    · simp [Database.choices,Choices.apply,hmodes]
    · simp [Database.choices,Choices.apply,hpreferences]
    · have hpair := update_pair (a.userCustomDomains.locate UserCustomDomain.subject)
        (Option.map UserCustomDomain.routeType) userId (normalizeDomain cfg domain) (some row)
      simpa [Database.choices,Choices.apply,hlocate,hrow] using hpair
  · refine Choices.ext ?_ ?_ ?_
    · simp [Database.choices,hmodes]
    · simp [Database.choices,hpreferences]
    · simp [Database.choices,hlocate,hv]

theorem setCategoryPreference_made {categoryId : Id} {enabled : Bool}
    (hs : Chosen s.serial s.db) (h : setCategoryPreference userId categoryId enabled s=(.ok (),t)) :
    Made cfg (userId,.setMyCategory categoryId enabled) s t := by
  unfold setCategoryPreference at h
  rw [getDb_bind_run] at h
  obtain ⟨_,h⟩ := Eff.require_bind_ok.mp h
  obtain ⟨_,u,hu,hflush⟩ := Eff.bind_ok.mp h
  obtain ⟨os,rfl⟩ := flush_ok hflush
  unfold writePreference at hu
  rw [getDb_bind_run,preference_located] at hu
  cases hfound : s.db.userCategoryPreferences.locate UserCategoryPreference.subject
      (userId,categoryId) with
  | none =>
    rw [hfound] at hu
    obtain ⟨id,v,hv,hu⟩ := Eff.bind_ok.mp hu
    cases hv
    cases hu
    have hlater : s.serial≤ s.serial+1 := (Int.lt_succ _).le
    have hlocate := hs.preferences.locate_insert (r := ⟨s.serial,userId,categoryId,enabled⟩)
      le_rfl hfound
    exact ⟨⟨hs.modes.mono hlater,hs.preferences.insert le_rfl (Int.lt_succ _) hfound,
      hs.domains.mono hlater,hs.enabled⟩,preferences_made rfl rfl rfl hlocate⟩
  | some pref =>
    rw [hfound] at hu
    cases hu
    have hlocate := hs.preferences.locate_modify hfound (f := fun p => {p with enabled := enabled})
      (fun _ => rfl) fun _ => rfl
    exact ⟨⟨hs.modes,hs.preferences.modify (f := fun p => {p with enabled := enabled})
      (fun _ => rfl) fun _ => rfl,hs.domains,hs.enabled⟩,preferences_made rfl rfl rfl hlocate⟩

theorem addCustomDomain_made {domain : String} {routeType : RouteType}
    (hs : Chosen s.serial s.db) (h : addCustomDomain cfg userId domain routeType s=(.ok (),t)) :
    Made cfg (userId,.addMyDomain domain routeType) s t := by
  unfold addCustomDomain at h
  rw [getDb_bind_run,domain_located] at h
  cases hfound : s.db.userCustomDomains.locate UserCustomDomain.subject
      (userId,normalizeDomain cfg domain) with
  | some d =>
    rw [hfound] at h
    cases h
    have hkey : ∀ d : UserCustomDomain,
        ({d with routeType := routeType,enabled := true} : UserCustomDomain).id=d.id :=
      fun _ => rfl
    have hlocate := hs.domains.locate_modify hfound hkey fun _ => rfl
    refine ⟨⟨hs.modes,hs.preferences,hs.domains.modify hkey fun _ => rfl,?_⟩,
      domains_made rfl rfl rfl hlocate⟩
    intro x hx
    rcases (Store.mem_modify hkey).mp hx with ⟨y,_,_,rfl⟩|⟨hx,_⟩
    · rfl
    · exact hs.enabled x hx
  | none =>
    rw [hfound] at h
    obtain ⟨now,v,hv,h⟩ := Eff.bind_ok.mp h
    cases hv
    obtain ⟨id,v,hv,h⟩ := Eff.bind_ok.mp h
    cases hv
    obtain ⟨_,v,hv,hflush⟩ := Eff.bind_ok.mp h
    cases hv
    obtain ⟨os,rfl⟩ := flush_ok hflush
    have hlater : s.serial≤ s.serial+1 := (Int.lt_succ _).le
    have hlocate := hs.domains.locate_insert
      (r := ⟨s.serial,userId,normalizeDomain cfg domain,routeType,true,s.now⟩) le_rfl hfound
    refine ⟨⟨hs.modes.mono hlater,hs.preferences.mono hlater,
      hs.domains.insert le_rfl (Int.lt_succ _) hfound,?_⟩,domains_made rfl rfl rfl hlocate⟩
    intro x hx
    rcases Store.mem_of_insert hx with hx|rfl
    · exact hs.enabled x hx
    · rfl

theorem readMySettings_choice (userId : Id) : Within choiceFrame (readMySettings userId) :=
  (getOrCreateUserProfile_choice userId).bind fun _ => getDb_within.bind fun _ => Within.pure _

theorem regenerateProfile_choice (cfg : Settings) (deviceId userId : Id) :
    Within choiceFrame (regenerateProfile cfg deviceId userId) :=
  (getOrCreateUserProfile_choice userId).bind fun _ => (profileAllowedIps_within _ _).bind
    fun _ => getDb_within.bind fun _ => (currentProfile_within _).bind fun _ =>
    Within.bind (alter_choice fun _ => rfl) fun _ => getNow_within.bind fun _ =>
    (nextSerial_within choice_books).bind fun _ => Within.bind (alter_choice fun _ => rfl)
    fun _ => (flush_within choice_books).bind fun _ => Within.pure _

theorem sales_personal (f : Store Subscription.id → Store Subscription.id)
    (g : Store Payment.id → Store Payment.id) : Within personalFrame (alter fun db => {db with
      subscriptions := f db.subscriptions
      payments := g db.payments}) := alter_personal fun _ => rfl

theorem promos_personal (f : Store PromoCode.id → Store PromoCode.id)
    (g : Store PromoCodeRedemption.id → Store PromoCodeRedemption.id) :
    Within personalFrame (alter fun db => {db with
      promoCodes := f db.promoCodes
      promoCodeRedemptions := g db.promoCodeRedemptions}) := alter_personal fun _ => rfl

/-- The three requests that choose something. -/
def BotRequest.chooses : BotRequest → Bool
  | .setMyMode .. | .setMyCategory .. | .addMyDomain .. => true
  | _ => false

theorem BotRequest.apply_same {r : BotRequest} (h : r.chooses=false) (c : Choices) :
    c.apply cfg r=c := by
  cases r with
  | setMyMode mode => cases h
  | setMyCategory categoryId enabled => cases h
  | addMyDomain domain routeType => cases h
  | _ => rfl

/-- The requests that come with a new profile. -/
def BotRequest.draws : BotRequest → Bool
  | .createDevice _ _ .wireguard | .device _ .reissue | .device _ .refreshProfile => true
  | _ => false

theorem personal_of_paperwork {s t : Session} (h : paperworkFrame.rel s t) :
    personalFrame.rel s t :=
  ⟨(congrArg (fun db : Database => (db.wishes,db.vpnProfiles)) h.1 :),h.2⟩

/-- Only settings and new profiles touch what is personal. -/
theorem handleUser_within {R : Frame Session}
    (hpersonal : ∀ {s t},personalFrame.rel s t → R.rel s t) {cfg : Settings} {user : User}
    {r : BotRequest} (hread : Within R (readMySettings user.id))
    (hchooses : r.chooses=true → Within R (handleUser cfg user r))
    (hdraws : r.draws=true → ∀ d u,Within R (regenerateProfile cfg d u)) :
    Within R (handleUser cfg user r) := by
  have hbooks : Bookkeeping R := ⟨fun s => hpersonal (personal_books.serial s),
    fun s os => hpersonal (personal_books.outcomes s os)⟩
  have hpaper : ∀ {s t},paperworkFrame.rel s t → R.rel s t :=
    fun h => hpersonal (personal_of_paperwork h)
  have hwrite : ∀ {f : Database → Database},
      (∀ db,((f db).wishes,(f db).vpnProfiles)=(db.wishes,db.vpnProfiles)) →
      Within R (alter f) := fun hf => (alter_personal hf).mono hpersonal
  cases r with
  | getMe => exact Within.pure _
  | listMySubscriptions =>
    exact getDb_within.bind fun _ => (readSubscriptions_within _).bind fun _ => Within.pure _
  | getMyActiveSubscription =>
    exact getDb_within.bind fun _ => (readActiveSubscription_within _).bind fun _ =>
      Within.pure _
  | cancelSubscription subscriptionId =>
    exact (getSubscription_within _).bind fun _ => (Within.require _ _).bind fun _ =>
      Within.bind (hwrite fun _ => rfl) fun _ => (readSubscription_within _).bind fun _ =>
      Within.pure _
  | createPayment planId promoCode =>
    have hsales := fun f g => (sales_personal f g).mono hpersonal
    exact (getPlan_within _).bind fun _ =>
      (createPayment_within hbooks hsales cfg user _ promoCode).bind fun _ => Within.pure _
  | listMyPayments => exact getDb_within.bind fun _ => Within.pure _
  | getMySettings => exact hread
  | setMyMode mode => exact hchooses rfl
  | setMyCategory categoryId enabled => exact hchooses rfl
  | addMyDomain domain routeType => exact hchooses rfl
  | listDevices => exact getDb_within.bind fun _ => Within.pure _
  | createDevice name serverId protocol =>
    have hprofile : protocol=.wireguard → ∀ d u,Within R (regenerateProfile cfg d u) := by
      rintro rfl
      exact hdraws rfl
    have hprovision : Within R (provision cfg user name serverId protocol) :=
      fun s => provision_withinAt hpaper (fun hp => hprofile hp s.serial user.id) name serverId
    exact hprovision.bind fun _ => Within.pure _
  | device deviceId r =>
    refine (getOwned_within _ _).bind fun device => ?_
    refine (handleDevice_within hpaper fun hr => ?_).bind fun _ => Within.pure _
    rcases hr with rfl|rfl
    · exact hdraws rfl _ _
    · exact hdraws rfl _ _
  | listMyTickets => exact listMyTickets_within _
  | getTicket ticketId =>
    exact (getOwnTicket_within _ _).bind fun _ => readTicket_within _
  | createTicket subject message =>
    exact Within.bind (getNow_within.bind fun _ => (nextSerial_within hbooks).bind fun _ =>
      (nextSerial_within hbooks).bind fun _ => (flush_within hbooks).bind fun _ =>
      (Within.require _ _).bind fun _ => Within.bind (hwrite fun _ => rfl) fun _ =>
      Within.pure _) fun _ => readTicket_within _
  | addTicketMessage ticketId text =>
    exact (getOwnTicket_within _ _).bind fun ticket => Within.bind (getNow_within.bind fun _ =>
      (nextSerial_within hbooks).bind fun _ => Within.bind (hwrite fun _ => rfl) fun _ =>
      (flush_within hbooks).bind fun _ => Within.pure _) fun _ => Within.pure _

/-- Any other request leaves the choices of all users, its own included. -/
theorem handleUser_choice (cfg : Settings) (user : User) {r : BotRequest}
    (h : r.chooses=false) : Within choiceFrame (handleUser cfg user r) :=
  handleUser_within choice_of_personal (readMySettings_choice user.id)
    (fun hr => by rw [h] at hr; cases hr) fun _ d u => regenerateProfile_choice cfg d u

theorem handleUser_made {cfg : Settings} {user : User} {r : BotRequest} {a : BotResponse}
    (hs : Chosen s.serial s.db) (h : handleUser cfg user r s=(.ok a,t)) :
    Made cfg (user.id,r) s t := by
  cases hr : r.chooses with
  | false =>
    obtain ⟨hchosen,hsame⟩ := ((handleUser_choice cfg user hr s).rel_of_run h).2 hs
    refine ⟨hchosen,hsame.trans ?_⟩
    unfold choose
    rw [BotRequest.apply_same hr,Function.update_eq_self]
  | true =>
    cases r with
    | setMyMode mode =>
      obtain ⟨_,u,hu,h⟩ := Eff.bind_ok.mp h
      exact (setMode_made hs hu).trans ((readMySettings_choice user.id u).rel_of_run h)
    | setMyCategory categoryId enabled =>
      obtain ⟨_,u,hu,h⟩ := Eff.bind_ok.mp h
      exact (setCategoryPreference_made hs hu).trans
        ((readMySettings_choice user.id u).rel_of_run h)
    | addMyDomain domain routeType =>
      obtain ⟨_,u,hu,h⟩ := Eff.bind_ok.mp h
      exact (addCustomDomain_made hs hu).trans ((readMySettings_choice user.id u).rel_of_run h)
    | _ => cases hr

end

theorem personal_of_routing {s t : Session} (h : routingView t=routingView s)
    (hserial : s.serial≤t.serial) : personalFrame.rel s t := by
  simp only [routingView,Prod.mk.injEq] at h
  obtain ⟨_,_,hmodes,hpreferences,hdomains,hprofiles⟩ := h
  exact ⟨Prod.ext (Prod.ext hmodes (Prod.ext hpreferences hdomains)) hprofiles,hserial⟩

theorem personal_of_audit {s t : Session} (h : auditFrame.rel s t) : personalFrame.rel s t :=
  personal_of_routing (congrArg (fun x => x.2.2) h.1) h.2

theorem personal_of_hosting {s t : Session} (h : hostingFrame.rel s t) : personalFrame.rel s t :=
  personal_of_routing (congrArg (fun x => x.2.2) h.1) h.2

theorem personal_of_beyond {s t : Session} (h : beyondFrame.rel s t) : personalFrame.rel s t := by
  have hview : t.db.beyond=s.db.beyond := congrArg Prod.fst h.1
  simp only [Database.beyond,Prod.mk.injEq] at hview
  obtain ⟨_,_,_,_,hmodes,hpreferences,hdomains,hprofiles⟩ := hview
  exact ⟨Prod.ext (Prod.ext hmodes (Prod.ext hpreferences hdomains)) hprofiles,h.2⟩

section

variable {cfg : Settings} {auth : AuthSettings} {jwt : Jwt}

/-- A request of the bot for a user. -/
def Happening.isBot : Happening → Bool
  | .request _ (.bot _) => true
  | _ => false

/-- Nobody but the user chooses: neither payments, the staff and the worker nor the operator. -/
theorem handleHappening_personal {admins : Admins} {h : Happening} (hbot : h.isBot=false) :
    Within personalFrame (handleHappening cfg auth jwt admins h) := by
  have hbooks := personal_books
  cases h with
  | request headers r =>
    cases r with
    | bot r => cases hbot
    | authenticateTelegram payload =>
      exact (requireInternalService_within auth headers).bind fun _ =>
        (getOrCreateFromTelegram_within hbooks (fun _ => alter_personal fun _ => rfl)
          payload).bind fun _ => Within.pure _
    | paymentWebhook rawBody signature =>
      exact (handleWebhook_within hbooks sales_personal promos_personal cfg rawBody
        signature).bind fun _ => Within.pure _
    | fetchSubscription token =>
      exact Within.bind (deliver_within (fun _ => getNow_within.bind fun _ =>
        alter_personal fun _ => rfl) token) fun _ => Within.pure _
    | adminLogin email password =>
      exact (authenticate_within admins email password).bind fun admin =>
        (issueTokens_within hbooks jwt auth admin).bind fun _ => Within.pure _
    | bootstrap email password secret =>
      exact (bootstrapFirstAdmin_within hbooks auth admins email password secret).bind
        fun admin => (issueTokens_within hbooks jwt auth admin).bind fun _ => Within.pure _
    | staff r =>
      exact (requireAdminRole_within jwt auth admins headers r.roles).bind fun admin =>
        ((handleStaff_beyond admin r).mono personal_of_beyond).bind fun _ => Within.pure _
  | sweep asOf =>
    exact (runOnce_within personal_of_audit (fun _ => alter_personal fun _ => rfl)
      (fun d => (disable_hosting d).mono personal_of_hosting) asOf).bind fun _ => Within.pure _
  | createAdmin email password role =>
    exact (createAdmin_within hbooks admins email password role).bind fun _ => Within.pure _
  | setAdmin adminId role isActive => exact Within.pure _
  | addPromoCode code discountType discountValue maxUses validFrom validUntil active =>
    exact (addPromoCode_within hbooks promos_personal code discountType discountValue maxUses
      validFrom validUntil active).bind fun _ => Within.pure _
  | setDeviceLimitOverride subscriptionId limit =>
    exact (updateSubscription_within sales_personal subscriptionId (overrideLimit limit)
      (overrideLimit_id limit)).bind fun _ => Within.pure _

/-- The user a request acts for. -/
def Headers.actor (headers : Headers) (db : Database) : Option User :=
  headers.xTelegramUserId.bind db.userByTelegramId

theorem getCurrentUser_ok {headers : Headers} {s t : Session} {user : User}
    (h : getCurrentUser auth headers s=(.ok user,t)) :
    t=s ∧ headers.actor s.db=some user := by
  obtain ⟨_,h⟩ := Eff.require_bind_ok.mp h
  obtain ⟨telegramId,htelegram,h⟩ := Eff.orRaise_bind_ok.mp h
  unfold currentUser at h
  rw [getDb_bind_run] at h
  obtain ⟨found,hfound,h⟩ := Eff.orRaise_bind_ok.mp h
  obtain ⟨_,h⟩ := Eff.require_bind_ok.mp h
  cases h
  refine ⟨rfl,?_⟩
  unfold Headers.actor
  rw [htelegram]
  exact hfound

end

section

variable (cfg : Settings) (auth : AuthSettings) (jwt : Jwt)

/-- What an answered request asks for, and for whom. -/
def askedOf (db : Database) : Happening → HttpResponse → List (Id×BotRequest)
  | .request headers (.bot r),.bot _ => ((headers.actor db).map fun user => (user.id,r)).toList
  | _,_ => []

def asked (site : Site) (o : Occasion) : List (Id×BotRequest) :=
  match (serveSite cfg auth jwt site o).1 with
  | .ok a => askedOf site.world.db o.happening a
  | .error _ => []

def Site.Chosen (site : Site) : Prop := Backend.Chosen site.world.serial site.world.db

def Site.choices (site : Site) : Id → Choices := site.world.db.choices

variable {cfg auth jwt} in
theorem handleHappening_made {admins admins' : Admins} {h : Happening} {a : HttpResponse}
    {s t : Session} (hs : Chosen s.serial s.db)
    (hrun : handleHappening cfg auth jwt admins h s=(.ok (a,admins'),t)) :
    Chosen t.serial t.db ∧ t.db.choices=(askedOf s.db h a).foldl (choose cfg) s.db.choices := by
  cases hbot : h.isBot with
  | false =>
    have hkept := (handleHappening_personal hbot s).rel_of_run hrun
    obtain ⟨hchosen,hsame⟩ := (choice_of_personal hkept).2 hs
    refine ⟨hchosen,hsame.trans ?_⟩
    have hnone : askedOf s.db h a=[] := by
      cases h with
      | request headers r => cases r <;> first | rfl | cases hbot
      | _ => rfl
    rw [hnone]
    rfl
  | true =>
    cases h with
    | request headers r =>
      cases r with
      | bot r =>
        obtain ⟨user,u,hu,hrest⟩ := Eff.bind_ok.mp hrun
        obtain ⟨rfl,hactor⟩ := getCurrentUser_ok hu
        obtain ⟨answer,v,hv,hend⟩ := Eff.bind_ok.mp hrest
        cases hend
        have hmade := handleUser_made hs hv
        refine ⟨hmade.chosen,hmade.choices.trans ?_⟩
        simp [askedOf,hactor]
      | _ => cases hbot
    | _ => cases hbot

theorem Site.after_choices {site : Site} (hs : site.Chosen) (o : Occasion) :
    (site.after cfg auth jwt o).Chosen ∧ (site.after cfg auth jwt o).choices=
      (asked cfg auth jwt site o).foldl (choose cfg) site.choices := by
  rcases serveSite_cases cfg auth jwt site o with ⟨a,admins,s,hm,hserve⟩|⟨e,w,hserve,hdb,hserial⟩
  · have hafter : site.after cfg auth jwt o=⟨s.toWorld,admins⟩ := congrArg Prod.snd hserve
    have hasked : asked cfg auth jwt site o=askedOf site.world.db o.happening a := by
      unfold asked
      rw [hserve]
    rw [hafter,hasked]
    exact handleHappening_made (s := ⟨site.world,o.env⟩) hs hm
  · have hafter : site.after cfg auth jwt o=⟨w,site.admins⟩ := congrArg Prod.snd hserve
    have hasked : asked cfg auth jwt site o=[] := by
      unfold asked
      rw [hserve]
    have hwishes : w.db.wishes=site.world.db.wishes := by rw [hdb]
    rw [hafter,hasked]
    exact ⟨Chosen.of_wishes hs hwishes hserial,choices_of_wishes hwishes⟩

/-- All that was asked for and answered in a run, in its order. -/
def askedIn (os : List Occasion) : List (Id×BotRequest) :=
  (moments (Site.after cfg auth jwt) .initial os).flatMap fun m => asked cfg auth jwt m.1 m.2

/-- What a user's own answered requests come to. -/
def chosenBy (os : List Occasion) (userId : Id) : Choices :=
  (((askedIn cfg auth jwt os).filter fun x => x.1=userId).map Prod.snd).foldl (Choices.apply cfg)
    .unmade

theorem Site.chosen_initial : Site.initial.Chosen :=
  ⟨.empty _,.empty _,.empty _,nofun⟩

theorem choices_initial : Site.initial.choices=fun _ => .unmade := rfl

theorem Site.run_chosen (os : List Occasion) : (Site.initial.run cfg auth jwt os).Chosen := by
  have hall : Conducted (fun _ _ => True) (Site.after cfg auth jwt) .initial os :=
    conducted_of_all (fun _ _ => trivial) _ os
  exact invariant_of_conducted Site.Chosen
    (fun _ o hs _ => (Site.after_choices cfg auth jwt hs o).1) .initial os Site.chosen_initial hall

/-- The choices of one user depend on that user's requests only. -/
theorem foldl_choose (xs : List (Id×BotRequest)) (all : Id → Choices) (userId : Id) :
    xs.foldl (choose cfg) all userId=
      ((xs.filter fun x => x.1=userId).map Prod.snd).foldl (Choices.apply cfg) (all userId) := by
  induction xs generalizing all with
  | nil => rfl
  | cons x xs ih =>
    rw [List.foldl_cons,ih]
    by_cases hx : x.1=userId
    · subst hx
      simp [choose]
    · simp [choose,hx,Function.update_of_ne (Ne.symm hx)]

theorem Site.run_choices (os : List Occasion) (userId : Id) :
    (Site.initial.run cfg auth jwt os).choices userId=chosenBy cfg auth jwt os userId := by
  have hreplay := replay_run Site.choices (choose cfg) (asked cfg auth jwt) Site.Chosen
    (fun _ o hs => (Site.after_choices cfg auth jwt hs o).1)
    (fun _ o hs => (Site.after_choices cfg auth jwt hs o).2) .initial os Site.chosen_initial
  rw [choices_initial] at hreplay
  have hall : (Site.initial.run cfg auth jwt os).choices=
      (askedIn cfg auth jwt os).foldl (choose cfg) fun _ => .unmade := hreplay
  rw [hall,foldl_choose]
  rfl

end

/-- The settings a user is shown. -/
structure Choices.Told (c : Choices) (x : RoutingSettings) : Prop where
  mode : x.mode=c.mode
  categories : ∀ k,k∈x.enabledCategoryIds ↔ c.prefers k=true
  domains : ∀ d,d∈x.customDomains ↔ (c.route d).isSome=true

section

variable {s t : Session} {userId : Id}

theorem Chosen.prefers_iff {n : Int} {db : Database} (h : Chosen n db) {k : Id} :
    (db.choices userId).prefers k=true ↔
      ∃ p∈db.userCategoryPreferences.rows,p.subject=(userId,k) ∧ p.enabled=true := by
  simp only [Database.choices]
  constructor
  · intro hp
    cases hfound : db.userCategoryPreferences.locate UserCategoryPreference.subject
        (userId,k) with
    | none => simp [hfound] at hp
    | some p =>
      obtain ⟨hmem,hsubject⟩ := Store.locate_mem hfound
      exact ⟨p,hmem,hsubject,by simpa [hfound] using hp⟩
  · rintro ⟨p,hmem,hsubject,hp⟩
    rw [h.preferences.locate_eq.mpr ⟨hmem,hsubject⟩]
    exact hp

theorem Chosen.route_iff {n : Int} {db : Database} (h : Chosen n db) {domain : String}
    {routeType : RouteType} : (db.choices userId).route domain=some routeType ↔
      ∃ d∈db.userCustomDomains.rows,d.subject=(userId,domain) ∧ d.routeType=routeType := by
  simp only [Database.choices,Option.map_eq_some_iff]
  constructor
  · rintro ⟨d,hd,htype⟩
    exact ⟨d,(Store.locate_mem hd).1,(Store.locate_mem hd).2,htype⟩
  · rintro ⟨d,hd,hsubject,htype⟩
    exact ⟨d,h.domains.locate_eq.mpr ⟨hd,hsubject⟩,htype⟩

theorem readMySettings_told {x : RoutingSettings} (hs : Chosen s.serial s.db)
    (h : readMySettings userId s=(.ok (.settings x),t)) : (t.db.choices userId).Told x := by
  obtain ⟨profile,u,hu,h⟩ := Eff.bind_ok.mp h
  have hkept : choiceFrame.rel s u := (getOrCreateUserProfile_choice userId s).rel_of_run hu
  have hchosen := (hkept.2 hs).1
  have hfound := getOrCreateUserProfile_chosen hu hs
  cases h
  refine ⟨?_,fun k => ?_,fun d => ?_⟩
  · exact (congrArg (fun o : Option UserRoutingProfile => (o.map UserRoutingProfile.mode).getD
      .fullVpn) hfound).symm
  · rw [hchosen.prefers_iff]
    simp only [Database.categoryPreferences,UserCategoryPreference.subject,List.mem_map,
      List.mem_filter,decide_eq_true_eq,Prod.mk.injEq]
    constructor
    · rintro ⟨p,⟨⟨hp,huser⟩,hon⟩,hk⟩
      exact ⟨p,hp,⟨huser,hk⟩,hon⟩
    · rintro ⟨p,hp,⟨huser,hk⟩,hon⟩
      exact ⟨p,⟨⟨hp,huser⟩,hon⟩,hk⟩
  · rw [Option.isSome_iff_exists]
    simp only [hchosen.route_iff,Database.customDomains,UserCustomDomain.subject,List.mem_map,
      List.mem_filter,decide_eq_true_eq,Prod.mk.injEq]
    constructor
    · rintro ⟨y,⟨⟨hy,huser⟩,_⟩,hd⟩
      exact ⟨y.routeType,y,hy,⟨huser,hd⟩,rfl⟩
    · rintro ⟨routeType,y,hy,⟨huser,hd⟩,_⟩
      exact ⟨y,⟨⟨hy,huser⟩,hchosen.enabled y hy⟩,hd⟩

/-- Whatever answers with settings shows what has been chosen up to then. -/
theorem handleUser_told {cfg : Settings} {user : User} {r : BotRequest} {x : RoutingSettings}
    (hs : Chosen s.serial s.db) (h : handleUser cfg user r s=(.ok (.settings x),t)) :
    (t.db.choices user.id).Told x := by
  cases r with
  | getMySettings => exact readMySettings_told hs h
  | setMyMode mode =>
    obtain ⟨_,u,hu,h⟩ := Eff.bind_ok.mp h
    have hmade : Made cfg (user.id,.setMyMode mode) s u := setMode_made hs hu
    exact readMySettings_told hmade.chosen h
  | setMyCategory categoryId enabled =>
    obtain ⟨_,u,hu,h⟩ := Eff.bind_ok.mp h
    have hmade : Made cfg (user.id,.setMyCategory categoryId enabled) s u :=
      setCategoryPreference_made hs hu
    exact readMySettings_told hmade.chosen h
  | addMyDomain domain routeType =>
    obtain ⟨_,u,hu,h⟩ := Eff.bind_ok.mp h
    exact readMySettings_told (addCustomDomain_made hs hu).chosen h
  | getMe => cases h
  | listMyPayments =>
    obtain ⟨_,_,_,h⟩ := Eff.bind_ok.mp h
    cases h
  | listDevices =>
    obtain ⟨_,_,_,h⟩ := Eff.bind_ok.mp h
    cases h
  | createDevice name serverId protocol =>
    obtain ⟨_,_,_,h⟩ := Eff.bind_ok.mp h
    cases h
  | cancelSubscription subscriptionId =>
    obtain ⟨_,_,_,h⟩ := Eff.bind_ok.mp h
    obtain ⟨_,h⟩ := Eff.require_bind_ok.mp h
    obtain ⟨_,_,_,h⟩ := Eff.bind_ok.mp h
    obtain ⟨_,_,_,h⟩ := Eff.bind_ok.mp h
    cases h
  | getTicket ticketId =>
    obtain ⟨_,_,_,h⟩ := Eff.bind_ok.mp h
    cases h
  | listMyTickets =>
    obtain ⟨_,_,_,h⟩ := Eff.bind_ok.mp h
    obtain ⟨_,h⟩ := Eff.require_bind_ok.mp h
    cases h
  | createTicket subject message =>
    obtain ⟨_,_,_,h⟩ := Eff.bind_ok.mp h
    cases h
  | _ =>
    obtain ⟨_,_,_,h⟩ := Eff.bind_ok.mp h
    obtain ⟨_,_,_,h⟩ := Eff.bind_ok.mp h
    cases h

end

section

variable (cfg : Settings) (auth : AuthSettings) (jwt : Jwt)

theorem Site.run_snoc (site : Site) (os : List Occasion) (o : Occasion) :
    site.run cfg auth jwt (os++[o])=(site.run cfg auth jwt os).after cfg auth jwt o := by
  simp [Site.run]

/-- Whenever users are shown their settings, these are what their own answered requests have made
of the defaults, the last request of each kind counting; no other user, no admin, no payment and no
sweep has a part in it. -/
theorem settings_told (os : List Occasion) {o : Occasion} {headers : Headers} {r : BotRequest}
    {x : RoutingSettings} (hrequest : o.happening=.request headers (.bot r))
    (hanswer : (serveSite cfg auth jwt (Site.initial.run cfg auth jwt os) o).1=
      .ok (.bot (.settings x))) :
    ∃ user,headers.actor (Site.initial.run cfg auth jwt os).world.db=some user ∧
      (chosenBy cfg auth jwt (os++[o]) user.id).Told x := by
  have hs := Site.run_chosen cfg auth jwt os
  have hnext := Site.run_choices cfg auth jwt (os++[o])
  rw [Site.run_snoc] at hnext
  generalize Site.initial.run cfg auth jwt os=site at *
  rcases serveSite_cases cfg auth jwt site o with ⟨a,admins,t,hm,hserve⟩|⟨e,w,hserve,_⟩
  · have hafter : site.after cfg auth jwt o=⟨t.toWorld,admins⟩ := congrArg Prod.snd hserve
    rw [hserve] at hanswer
    rw [hrequest] at hm
    obtain ⟨user,u,hu,hm⟩ := Eff.bind_ok.mp hm
    obtain ⟨hus,hactor⟩ := getCurrentUser_ok hu
    rw [hus] at hm
    obtain ⟨answer,v,hv,hend⟩ := Eff.bind_ok.mp hm
    cases hend
    cases hanswer
    have htold := handleUser_told (s := ⟨site.world,o.env⟩) hs hv
    refine ⟨user,hactor,?_⟩
    rw [← hnext user.id,hafter]
    exact htold
  · rw [hserve] at hanswer
    cases hanswer

/-- The bot's request for the user with number 77. -/
def botFor (r : BotRequest) : Occasion := ⟨quiet 0,.request ⟨none,some "internal",some 77⟩ (.bot r)⟩

def botWelcome : Occasion :=
  ⟨quiet 0,.request ⟨none,some "internal",none⟩ (.authenticateTelegram ⟨77,none,none,none,none⟩)⟩

theorem settings_told_last : ∃ user : User,
    (chosenBy sampleSettings sampleAuth sampleJwt [botWelcome,botFor (.addMyDomain " A.b " .vpn),
      botFor (.setMyMode .smartVpn),botFor .getMySettings] user.id).Told
      ⟨.smartVpn,[],[],["a.b"]⟩ := by
  obtain ⟨user,_,htold⟩ := settings_told sampleSettings sampleAuth sampleJwt
    [botWelcome,botFor (.addMyDomain " A.b " .vpn),botFor (.setMyMode .smartVpn)]
    (o := botFor .getMySettings) (x := ⟨.smartVpn,[],[],["a.b"]⟩) rfl (by rfl)
  exact ⟨user,htold⟩

end

end VpnService.Backend
