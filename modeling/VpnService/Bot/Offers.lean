import VpnService.Backend.Standing
import VpnService.Bot.Buttons

namespace VpnService.Bot

open Backend

/-- The button that leads from its link back to a device. -/
def toDeviceText : String := "⬅️ К устройству"

/-- What a button for a device says about it. -/
def DeviceAction.Fits (d : Device) (text : String) : DeviceAction → Prop
  | .manage => text=toDeviceText ∨ d.status≠.revoked ∧ text=(deviceButton d).text
  | .reissue => d.protocol=.wireguard
  | .disable => d.status=.active
  | .enable => d.status=.disabled
  | .revoke | .viewLink | .rotateLink => True

def modeText : RoutingMode → String
  | .fullVpn => "FULL VPN"
  | .smartVpn => "SMART VPN"

/-- What a button says of the rows of the backend that it was made from. -/
def Target.MadeFrom (db : Database) (telegramId : Int) (text : String) : Target → Prop
  | .newOn serverId =>
    ∃ s∈db.vpnServers.rows,s.id=serverId ∧ s.protocol=.wireguard ∧ text=(serverButton s).text
  | .device action deviceId =>
    ∃ user d,db.userByTelegramId telegramId=some user ∧ db.devices.get? deviceId=some d ∧
      d.userId=user.id ∧ action.Fits d text
  | .plan planId => ∃ p∈db.plans.rows,p.id=planId ∧ p.active=true ∧ text=(planButton p).text
  | .mode m => ∃ user,db.userByTelegramId telegramId=some user ∧
    text=ticked ((db.choices user.id).mode=m) (modeText m)
  | .categories | .addDomain => ∃ user,db.userByTelegramId telegramId=some user ∧
    (db.choices user.id).mode=.smartVpn
  | .category categoryId => ∃ user c,db.userByTelegramId telegramId=some user ∧
    c∈db.routingCategories.rows ∧ c.id=categoryId ∧ c.enabled=true ∧
    text=(categoryButton ((db.choices user.id).prefers categoryId) c).text
  | _ => True

section

variable (b : Party)

/-- The button is for this, and was made from what the backend held at some time. -/
def Traceable (past : List Occasion) (x : Button) (t : Target) : Prop :=
  x.callbackData=t.data ∧ ∃ earlier,earlier <+: past ∧
    t.MadeFrom (b.site earlier).world.db b.effectiveUser.telegramId x.text

def Offered (past : List Occasion) (keyboard : Keyboard) : Prop :=
  ∀ x∈keyboard,∃ t,Traceable b past x t

/-- The backend only goes on, and every button that comes up is traceable. -/
def tracing : Frame Chat where
  rel c d := c.past <+: d.past ∧ ∀ x∈d.shown,x∈c.shown ∨ ∃ t,Traceable b d.past x t
  refl _ := ⟨List.prefix_refl _,fun _ hx => Or.inl hx⟩
  trans h k := by
    refine ⟨h.1.trans k.1,fun x hx => ?_⟩
    rcases k.2 x hx with hx|hnew
    · rcases h.2 x hx with hx|⟨t,hdata,earlier,hearlier,hmade⟩
      · exact Or.inl hx
      · exact Or.inr ⟨t,hdata,earlier,hearlier.trans k.1,hmade⟩
    · exact Or.inr hnew

/-- What a call returns, and what is true of the backend then. -/
def Tells {α : Type} (P : List Occasion → α → Prop) (m : Dialogue α) : Prop :=
  ∀ c a d,m c=(.ok a,d) → P d.past a

variable {b}

theorem Offered.mono {past later : List Occasion} {keyboard : Keyboard}
    (h : Offered b past keyboard) (hlater : past <+: later) : Offered b later keyboard := by
  intro x hx
  obtain ⟨t,hdata,earlier,hearlier,hmade⟩ := h x hx
  exact ⟨t,hdata,earlier,hearlier.trans hlater,hmade⟩

theorem Offered.nil (past : List Occasion) : Offered b past [] := fun x hx => by cases hx

theorem Offered.append {past : List Occasion} {xs ys : Keyboard} (hx : Offered b past xs)
    (hy : Offered b past ys) : Offered b past (xs++ys) := by
  intro x h
  rcases List.mem_append.mp h with h|h
  · exact hx x h
  · exact hy x h

/-- A button made from what the backend holds now. -/
theorem Traceable.now {past : List Occasion} {x : Button} {t : Target}
    (hdata : x.callbackData=t.data)
    (h : t.MadeFrom (b.site past).world.db b.effectiveUser.telegramId x.text) :
    Traceable b past x t := ⟨hdata,past,List.prefix_refl _,h⟩

section

variable {α β : Type} {c : Chat}

theorem tell_tracing {keyboard : Keyboard} (h : Offered b c.past keyboard) :
    WithinAt (tracing b) (tell keyboard) c := by
  have hsent : ∀ sends,(tracing b).rel c {c with sends := sends,shown := c.shown++keyboard} := by
    refine fun sends => ⟨List.prefix_refl _,fun x hx => ?_⟩
    rcases List.mem_append.mp hx with hx|hx
    · exact Or.inl hx
    · exact Or.inr (h x hx)
  unfold WithinAt tell
  cases c.sends.headD .answered with
  | answered => exact hsent _
  | lost => exact hsent _
  | broken => exact hsent _
  | refused => exact ⟨List.prefix_refl _,fun _ hx => Or.inl hx⟩
  | rejected => exact ⟨List.prefix_refl _,fun _ hx => Or.inl hx⟩

theorem remark_tracing : Within (tracing b) remark := fun _ => tell_tracing (.nil _)

/-- What is offered can also be said later. -/
theorem offer_bind {keyboard : Keyboard} {m : Dialogue α} {f : α → Dialogue β}
    (hm : WithinAt (tracing b) m c) (h : Offered b c.past keyboard)
    (hf : ∀ a d,Offered b d.past keyboard → WithinAt (tracing b) (f a) d) :
    WithinAt (tracing b) (m >>= f) c :=
  hm.bind fun a d hd => hf a d (h.mono (hm.rel_of_run hd).1)

theorem replace_tracing {keyboard : Keyboard} (h : Offered b c.past keyboard) :
    WithinAt (tracing b) (replace keyboard) c :=
  offer_bind (remark_tracing c) h fun _ _ hd => tell_tracing hd

theorem reply_tracing {keyboard : Keyboard} (h : Offered b c.past keyboard) (u : Update) :
    WithinAt (tracing b) (reply keyboard u) c := by
  cases u with
  | callback data => exact replace_tracing h
  | command name => exact tell_tracing h
  | text text => exact tell_tracing h
  | editedText text => exact (tracing b).refl c

theorem note_tracing (f : UserData → UserData) : Within (tracing b) (note f) :=
  fun _ => ⟨List.prefix_refl _,fun _ hx => Or.inl hx⟩

theorem Tells.attempt {P : List Occasion → α → Prop} {m : Dialogue α} (h : Tells P m) :
    Tells (fun past r => ∀ a,r=some a → P past a) (attempt m) := by
  intro c r d hrun a hr
  subst hr
  unfold Bot.attempt at hrun
  cases hm : m c with
  | mk x e =>
    rw [hm] at hrun
    cases x with
    | ok a' =>
      cases hrun
      exact h c a d hm
    | error e =>
      dsimp only at hrun
      split_ifs at hrun <;> cases hrun

/-- A call, and then what is done about its answer. -/
theorem told_bind {P : List Occasion → α → Prop} {m : Dialogue α} {f : α → Dialogue β}
    (hm : WithinAt (tracing b) m c) (hP : Tells P m)
    (hf : ∀ a d,P d.past a → WithinAt (tracing b) (f a) d) :
    WithinAt (tracing b) (m >>= f) c :=
  hm.bind fun a d hd => hf a d (hP c a d hd)

end

section

variable {c : Chat}

/-- The user's request that was answered last. -/
def Replied (b : Party) (r : BotRequest) (past : List Occasion) (a : BotResponse) : Prop :=
  ∃ earlier env user t,past=earlier++
      [⟨env,.request (b.headers (some b.effectiveUser.telegramId)) (.bot r)⟩] ∧
    (b.site earlier).world.db.userByTelegramId b.effectiveUser.telegramId=some user ∧
    handleUser b.cfg user r ⟨(b.site earlier).world,env⟩=(.ok a,t) ∧
    (b.site past).world=t.toWorld

theorem request_tracing (headers : Headers) (r : HttpRequest) :
    Within (tracing b) (request b headers r) := fun c =>
  request_end ((tracing b).refl c) (fun _ _ _ => ⟨List.prefix_append _ _,fun _ hx => Or.inl hx⟩)
    fun _ _ _ => ⟨(List.prefix_append _ _).trans (List.prefix_append _ _),fun _ hx => Or.inl hx⟩

/-- A request that came through: what the backend answers, and the state it leaves. -/
theorem request_served {headers : Headers} {r : HttpRequest} {d : Chat}
    {x : Except ChatError HttpResponse} (h : request b headers r c=(x,d))
    (hx : ∀ e,x=.error e → e.isBackendError=true ∧ e≠.rejected) :
    ∃ earlier env,d.past=earlier++[⟨env,.request headers r⟩] ∧
      match (serveSite b.cfg b.auth b.jwt (b.site earlier) ⟨env,.request headers r⟩).1 with
      | .ok a => x=.ok a
      | .error e => x=.error (.backend e) := by
  unfold request at h
  cases hturns : c.turns with
  | nil =>
    rw [hturns] at h
    cases h
    exact absurd (hx _ rfl).1 (by decide)
  | cons turn turns =>
    rw [hturns] at h
    dsimp only at h
    cases hout : turn.outcome with
    | refused =>
      rw [hout] at h
      cases h
      exact absurd (hx _ rfl).1 (by decide)
    | rejected =>
      rw [hout] at h
      cases h
      exact absurd rfl (hx _ rfl).2
    | lost =>
      rw [hout] at h
      cases h
      exact absurd (hx _ rfl).1 (by decide)
    | broken =>
      rw [hout] at h
      cases h
      exact absurd rfl (hx _ rfl).2
    | answered =>
      rw [hout] at h
      refine ⟨(c.waited turn turns).past,turn.env,?_⟩
      dsimp only at h
      cases hserve : (serveSite b.cfg b.auth b.jwt (b.site (c.waited turn turns).past)
          ⟨turn.env,.request headers r⟩).1 with
      | ok a =>
        rw [hserve] at h
        cases h
        exact ⟨rfl,rfl⟩
      | error e =>
        rw [hserve] at h
        cases h
        exact ⟨rfl,rfl⟩

theorem ask_tracing (r : BotRequest) : Within (tracing b) (ask b r) :=
  (request_tracing _ _).bind fun _ => Within.pure _

theorem Party.site_snoc (past : List Occasion) (o : Occasion) :
    b.site (past++[o])=(b.site past).after b.cfg b.auth b.jwt o := Site.run_snoc _ _ _ _ _ _

theorem ask_replied (r : BotRequest) : Tells (Replied b r) (ask b r) := by
  intro c a d h
  obtain ⟨x,e,hx,h⟩ := Eff.bind_ok.mp h
  obtain ⟨earlier,env,hpast,hserve⟩ := request_served hx fun _ he => by cases he
  cases hend : (serveSite b.cfg b.auth b.jwt (b.site earlier) ⟨env,.request (b.headers
      (some b.effectiveUser.telegramId)) (.bot r)⟩).1 with
  | error e =>
    rw [hend] at hserve
    cases hserve
  | ok y =>
    rw [hend] at hserve
    cases hserve
    obtain ⟨user,answer,t,hanswer,hactor,hrun,hafter⟩ := serveSite_bot hend
    cases h
    subst hanswer
    refine ⟨earlier,env,user,t,hpast,hactor,hrun,?_⟩
    rw [hpast,Party.site_snoc,hafter]

section

variable {past : List Occasion} {r : BotRequest} {a : BotResponse} {telegramId : Int}

theorem Party.endures (b : Party) (past later : List Occasion) :
    Enduring (b.site past).world (b.site (past++later)).world := by
  unfold Party.site
  rw [show Site.initial.run b.cfg b.auth b.jwt (past++later)=
    (Site.initial.run b.cfg b.auth b.jwt past).run b.cfg b.auth b.jwt later from
    List.foldl_append]
  exact Site.run_endures _ _ _ _ _

/-- The categories in the settings of every user. -/
def openCategories (db : Database) : List RoutingCategory :=
  db.routingCategories.rows.filter fun c => c.enabled

theorem getMySettings_replied (h : Replied b .getMySettings past a) :
    ∃ user,(b.site past).world.db.userByTelegramId b.effectiveUser.telegramId=some user ∧
      ((b.site past).world.db.choices user.id).Told (settingsRead a) ∧
      (settingsRead a).categories=openCategories (b.site past).world.db := by
  obtain ⟨earlier,env,user,t,hpast,hactor,hrun,hafter⟩ := h
  have hchosen := Site.run_chosen b.cfg b.auth b.jwt earlier
  have hendures := b.endures earlier [⟨env,.request (b.headers
    (some b.effectiveUser.telegramId)) (.bot .getMySettings)⟩]
  rw [← hpast] at hendures
  obtain ⟨v,hv,hid⟩ := hendures.user hactor
  have hsettings : ∃ x,a=.settings x ∧ x.categories=openCategories t.db := by
    obtain ⟨profile,u,hu,hrun⟩ := Eff.bind_ok.mp hrun
    cases hrun
    exact ⟨_,rfl,rfl⟩
  obtain ⟨x,rfl,hcategories⟩ := hsettings
  have htold := handleUser_told (s := ⟨(b.site earlier).world,env⟩) hchosen hrun
  refine ⟨v,hv,?_,?_⟩
  · rw [hafter,hid]
    exact htold
  · rw [hafter]
    exact hcategories

theorem listDevices_replied (h : Replied b .listDevices past a) :
    ∃ user,(b.site past).world.db.userByTelegramId b.effectiveUser.telegramId=some user ∧
      devicesRead a=(b.site past).world.db.devicesOf user.id := by
  obtain ⟨earlier,env,user,t,_,hactor,hrun,hafter⟩ := h
  cases hrun
  rw [hafter]
  exact ⟨user,hactor,rfl⟩

theorem device_replied {deviceId : Id} {q : DeviceRequest}
    (h : Replied b (.device deviceId q) past a) :
    (b.site past).world.db.Belongs b.effectiveUser.telegramId deviceId := by
  obtain ⟨earlier,env,user,t,hpast,hactor,hrun,_⟩ := h
  obtain ⟨device,u,hu,_⟩ := Eff.bind_ok.mp hrun
  obtain ⟨hfound,_⟩ := Eff.orRaise_ok.mp hu
  obtain ⟨hget,huser⟩ := Option.filter_eq_some_iff.mp hfound
  have hbelongs : (b.site earlier).world.db.Belongs b.effectiveUser.telegramId deviceId :=
    ⟨user,device,hactor,hget,of_decide_eq_true huser⟩
  rw [hpast]
  exact (b.endures _ _).belongs hbelongs

theorem createDevice_replied {name : String} {serverId : Option Id} {protocol : VpnProtocol}
    {p : ProvisionedDevice} (h : Replied b (.createDevice name serverId protocol) past a)
    (hp : provisionedRead a=some p) :
    (b.site past).world.db.Belongs b.effectiveUser.telegramId p.device.id := by
  obtain ⟨earlier,env,user,t,hpast,hactor,hrun,hafter⟩ := h
  obtain ⟨result,u,hu,hrun⟩ := Eff.bind_ok.mp hrun
  cases hrun
  cases hp
  obtain ⟨d,hd,howner⟩ := provision_stands (s := ⟨(b.site earlier).world,env⟩)
    (Site.run_below b.cfg b.auth b.jwt earlier) hu
  have hendures := b.endures earlier [⟨env,.request (b.headers
    (some b.effectiveUser.telegramId)) (.bot (.createDevice name serverId protocol))⟩]
  rw [← hpast] at hendures
  obtain ⟨v,hv,hid⟩ := hendures.user hactor
  refine ⟨v,d,hv,?_,howner.trans hid.symm⟩
  rw [hafter]
  exact hd

end

section

variable {α : Type} {c : Chat}

theorem Tells.map {β : Type} {P : List Occasion → α → Prop} {Q : List Occasion → β → Prop}
    {m : Dialogue α} {f : α → β} (h : Tells P m) (hPQ : ∀ past a,P past a → Q past (f a)) :
    Tells Q (m >>= fun a => pure (f a)) := by
  intro c x d hrun
  obtain ⟨a,e,ha,hend⟩ := Eff.bind_ok.mp hrun
  cases hend
  exact hPQ _ a (h c a _ ha)

theorem asked_tracing (r : BotRequest) (f : BotResponse → α) :
    Within (tracing b) (ask b r >>= fun a => pure (f a)) :=
  (ask_tracing r).bind fun _ => Within.pure _

theorem listDevices_tells : Tells (fun past ds => ∃ user,
    (b.site past).world.db.userByTelegramId b.effectiveUser.telegramId=some user ∧
      ds=(b.site past).world.db.devicesOf user.id) (listDevices b) :=
  (ask_replied .listDevices).map fun _ _ h => listDevices_replied h

theorem reissueDevice_tells (deviceId : Id) :
    Tells (fun _ r => ∀ p,r=some p → p.subscriptionUrl=none) (reissueDevice b deviceId) := by
  refine (ask_replied (.device deviceId .reissue)).map fun past a h p hp => ?_
  obtain ⟨earlier,env,user,t,_,_,hrun,_⟩ := h
  obtain ⟨device,u,_,hrun⟩ := Eff.bind_ok.mp hrun
  obtain ⟨x,v,hx,hend⟩ := Eff.bind_ok.mp hrun
  obtain ⟨result,w,hw,hlast⟩ := Eff.bind_ok.mp hx
  cases hlast
  cases hend
  cases hp
  have hnone : Yields (fun r => r.subscriptionUrl=none) (reissue b.cfg device) :=
    Yields.bind fun _ => Yields.bind fun _ => Yields.bind fun _ => Yields.bind fun _ =>
      Yields.bind fun _ => Yields.bind fun _ => Yields.bind fun _ => Yields.bind fun _ =>
      Yields.pure rfl
  exact hnone _ _ _ hw

theorem createDevice_tells (name : String) (serverId : Option Id) (protocol : String) :
    Tells (fun past r => ∀ p,r=some p →
      (b.site past).world.db.Belongs b.effectiveUser.telegramId p.device.id)
      (createDevice b name serverId protocol) := by
  intro c r d h
  obtain ⟨known,_,h⟩ := Eff.orRaise_bind_ok.mp h
  obtain ⟨a,e,ha,hend⟩ := Eff.bind_ok.mp h
  cases hend
  exact fun p hp => createDevice_replied (ask_replied _ c a _ ha) hp

theorem createDevice_tracing (name : String) (serverId : Option Id) (protocol : String) :
    Within (tracing b) (createDevice b name serverId protocol) :=
  (Within.orRaise _ _).bind fun _ => asked_tracing _ _

theorem createOrRotateSubscriptionLink_tells (deviceId : Id) :
    Tells (fun past _ => (b.site past).world.db.Belongs b.effectiveUser.telegramId deviceId)
      (createOrRotateSubscriptionLink b deviceId) :=
  (ask_replied (.device deviceId .createOrRotateLink)).map fun _ _ h => device_replied h

theorem getRoutingSettings_tells : Tells (fun past x => ∃ user,
    (b.site past).world.db.userByTelegramId b.effectiveUser.telegramId=some user ∧
      ((b.site past).world.db.choices user.id).Told x ∧
      x.categories=openCategories (b.site past).world.db)
    (getRoutingSettings b) :=
  (ask_replied .getMySettings).map fun _ _ h => getMySettings_replied h

theorem lookUp_tracing (read : Database → α) : Within (tracing b) (lookUp b read) := fun c =>
  lookUp_end ((tracing b).refl c) fun _ _ _ => ⟨List.prefix_append _ _,fun _ hx => Or.inl hx⟩

theorem lookUp_tells (read : Database → α) :
    Tells (fun past a => a=read (b.site past).world.db) (lookUp b read) := by
  intro c a d h
  unfold lookUp at h
  cases hturns : c.turns with
  | nil =>
    rw [hturns] at h
    cases h
  | cons turn turns =>
    rw [hturns] at h
    dsimp only at h
    cases hout : turn.outcome with
    | answered =>
      rw [hout] at h
      cases h
      rfl
    | _ =>
      rw [hout] at h
      cases h

/-- The only error of the route for a link that is named so is that of a device without one. -/
theorem getLink_raised {deviceId : Id} {site : Site} {env : Env} {e : AppError}
    (h : (serveSite b.cfg b.auth b.jwt site ⟨env,.request
      (b.headers (some b.effectiveUser.telegramId)) (.bot (.device deviceId .getLink))⟩).1=
      .error e) (hcode : e.errorCode="subscription_link_not_found") :
    site.world.db.Belongs b.effectiveUser.telegramId deviceId := by
  obtain ⟨_,⟨t,hm⟩|hcommit⟩ := serveSite_error h
  · rcases Eff.bind_error.mp hm with huser|⟨user,u,hu,hm⟩
    · have hdoor : e.errorCode∈doorErrors := getCurrentUser_raises _ _ _ _ _ huser
      rw [hcode] at hdoor
      exact absurd hdoor (by decide)
    · obtain ⟨hus,hactor⟩ := getCurrentUser_ok hu
      rw [hus] at hm
      rcases Eff.bind_error.mp hm with hm|⟨_,_,_,hend⟩
      · rcases Eff.bind_error.mp hm with howned|⟨device,v,hv,_⟩
        · have hlost : Raises (fun e => e.errorCode≠"subscription_link_not_found")
              (getOwned deviceId user.id) := getDb_raises.bind fun _ =>
            Raises.orRaise (by decide) _
          exact absurd hcode (hlost _ _ _ howned)
        · obtain ⟨hfound,_⟩ := Eff.orRaise_ok.mp hv
          obtain ⟨hget,huser⟩ := Option.filter_eq_some_iff.mp hfound
          exact ⟨user,device,hactor,hget,of_decide_eq_true huser⟩
      · cases hend
  · rw [hcommit] at hcode
    exact absurd hcode (by decide)

theorem ask_error {r : BotRequest} {e : AppError} {d : Chat}
    (h : ask b r c=(.error (.backend e),d)) : ∃ earlier env,
      d.past=earlier++[⟨env,.request (b.headers (some b.effectiveUser.telegramId)) (.bot r)⟩] ∧
      (serveSite b.cfg b.auth b.jwt (b.site earlier)
        ⟨env,.request (b.headers (some b.effectiveUser.telegramId)) (.bot r)⟩).1=.error e := by
  rcases Eff.bind_error.mp h with hrequest|⟨_,_,_,hend⟩
  · obtain ⟨earlier,env,hpast,hserve⟩ := request_served hrequest fun x hx => by
      cases hx
      exact ⟨rfl,nofun⟩
    refine ⟨earlier,env,hpast,?_⟩
    cases hend : (serveSite b.cfg b.auth b.jwt (b.site earlier) ⟨env,.request (b.headers
        (some b.effectiveUser.telegramId)) (.bot r)⟩).1 with
    | ok y =>
      rw [hend] at hserve
      cases hserve
    | error e' =>
      rw [hend] at hserve
      cases hserve
      rfl
  · cases hend

/-- Whether it has a link or not, the device is the user's. -/
theorem getSubscriptionLink_tells (deviceId : Id) :
    Tells (fun past _ => (b.site past).world.db.Belongs b.effectiveUser.telegramId deviceId)
      (getSubscriptionLink b deviceId) := by
  intro c a d h
  unfold getSubscriptionLink at h
  split at h
  · rename_i hask
    cases h
    exact device_replied (ask_replied _ c _ _ hask)
  · rename_i e d' hask
    split_ifs at h with hcode
    · cases h
      obtain ⟨earlier,env,hpast,hserve⟩ := ask_error hask
      rw [hpast]
      exact (b.endures _ _).belongs (getLink_raised hserve hcode)
    · cases h
  · cases h

end

section

variable {past : List Occasion} {telegramId : Int}

/-- A button that is for nothing in the backend. -/
theorem fixed_traceable {x : Button} {t : Target} (hdata : x.callbackData=t.data)
    (h : ∀ db telegramId text,t.MadeFrom db telegramId text) : ∃ t,Traceable b past x t :=
  ⟨t,.now hdata (h _ _ _)⟩

theorem toMainMenu_traceable : ∃ t,Traceable b past toMainMenu t :=
  fixed_traceable (t := .mainMenu) rfl fun _ _ _ => trivial

theorem Offered.cons {x : Button} {xs : Keyboard} (hx : ∃ t,Traceable b past x t)
    (hxs : Offered b past xs) : Offered b past (x::xs) := by
  intro y hy
  rcases List.mem_cons.mp hy with rfl|hy
  · exact hx
  · exact hxs y hy

theorem backToMain_offered : Offered b past backToMain := .cons toMainMenu_traceable (.nil _)

theorem mainMenu_offered : Offered b past mainMenu :=
  .cons (fixed_traceable (t := .newDevice) rfl fun _ _ _ => trivial)
    (.cons (fixed_traceable (t := .servers) rfl fun _ _ _ => trivial)
    (.cons (fixed_traceable (t := .smartVpn) rfl fun _ _ _ => trivial)
    (.cons (fixed_traceable (t := .devices) rfl fun _ _ _ => trivial)
    (.cons (fixed_traceable (t := .subscription) rfl fun _ _ _ => trivial)
    (.cons (fixed_traceable (t := .profile) rfl fun _ _ _ => trivial)
    (.cons (fixed_traceable (t := .support) rfl fun _ _ _ => trivial) (.nil _)))))))

theorem protocolChoice_offered : Offered b past protocolChoiceKeyboard :=
  .cons (fixed_traceable (t := .newWith .wireguard) rfl fun _ _ _ => trivial)
    (.cons (fixed_traceable (t := .newWith .vless) rfl fun _ _ _ => trivial)
    backToMain_offered)

theorem servers_offered :
    Offered b past (serversKeyboard (wireguardServers (b.site past).world.db)) := by
  refine Offered.append (fun x hx => ?_) backToMain_offered
  obtain ⟨s,hs,rfl⟩ := List.mem_map.mp hx
  obtain ⟨hrow,hprotocol⟩ := List.mem_filter.mp (List.mem_of_mem_take hs)
  exact ⟨.newOn s.id,.now rfl ⟨s,hrow,rfl,of_decide_eq_true hprotocol,rfl⟩⟩

theorem plans_offered : Offered b past (plansKeyboard (activePlans (b.site past).world.db)) := by
  refine Offered.append (fun x hx => ?_) backToMain_offered
  obtain ⟨p,hp,rfl⟩ := List.mem_map.mp hx
  obtain ⟨hrow,hactive⟩ := List.mem_filter.mp ((List.mem_insertionSort _).mp hp)
  exact ⟨.plan p.id,.now rfl ⟨p,hrow,rfl,hactive,rfl⟩⟩

/-- A device of the user gives rise to its buttons. -/
theorem device_traceable {x : Button} {user : User} {d : Device} (action : DeviceAction)
    (huser : (b.site past).world.db.userByTelegramId b.effectiveUser.telegramId=some user)
    (hd : (b.site past).world.db.devices.get? d.id=some d) (howner : d.userId=user.id)
    (hdata : x.callbackData=dataOf (action.words++":") d.id) (hfits : action.Fits d x.text) :
    ∃ t,Traceable b past x t :=
  ⟨.device action d.id,.now hdata ⟨user,d,huser,hd,howner,hfits⟩⟩

theorem devices_offered {user : User} {ds : List Device}
    (huser : (b.site past).world.db.userByTelegramId b.effectiveUser.telegramId=some user)
    (hds : ∀ d∈ds,d∈(b.site past).world.db.devicesOf user.id) :
    Offered b past (devicesKeyboard ds) := by
  refine Offered.append (fun x hx => ?_)
    (.cons (fixed_traceable (t := .newDevice) rfl fun _ _ _ => trivial) backToMain_offered)
  obtain ⟨d,hd,rfl⟩ := List.mem_map.mp hx
  obtain ⟨hrow,howner,hstatus⟩ := (Database.mem_devicesOf _).mp (hds d hd)
  exact device_traceable .manage huser (Store.get?_of_mem _ hrow) howner rfl
    (Or.inr ⟨hstatus,rfl⟩)

theorem deviceManage_offered {user : User} {d : Device}
    (huser : (b.site past).world.db.userByTelegramId b.effectiveUser.telegramId=some user)
    (hd : d∈(b.site past).world.db.devicesOf user.id) :
    Offered b past (deviceManageKeyboard d) := by
  obtain ⟨hrow,howner,_⟩ := (Database.mem_devicesOf _).mp hd
  have hget := Store.get?_of_mem _ hrow
  refine .append (.append (.append ?_ ?_) ?_) ?_
  · split_ifs with hprotocol
    · exact .cons (device_traceable .reissue huser hget howner rfl hprotocol) (.nil _)
    · exact .nil _
  · exact .cons (device_traceable .viewLink huser hget howner rfl trivial) (.nil _)
  · cases hstatus : d.status with
    | active =>
      exact .cons (device_traceable .disable huser hget howner rfl hstatus) (.nil _)
    | disabled =>
      exact .cons (device_traceable .enable huser hget howner rfl hstatus) (.nil _)
    | revoked => exact .nil _
  · exact .cons (device_traceable .revoke huser hget howner rfl trivial)
      (.cons (fixed_traceable (t := .devices) rfl fun _ _ _ => trivial) (.nil _))

theorem subscriptionLink_offered {deviceId : Id}
    (h : (b.site past).world.db.Belongs b.effectiveUser.telegramId deviceId) :
    Offered b past (subscriptionLinkKeyboard deviceId) := by
  obtain ⟨user,d,huser,hd,howner⟩ := h
  have hid : d.id=deviceId := Store.key_of_get? hd
  subst hid
  exact .cons (device_traceable .rotateLink huser hd howner rfl trivial)
    (.cons (device_traceable .manage huser hd howner rfl (Or.inl rfl)) (.nil _))

theorem smartVpnMode_offered {user : User} {mode : RoutingMode}
    (huser : (b.site past).world.db.userByTelegramId b.effectiveUser.telegramId=some user)
    (hmode : mode=((b.site past).world.db.choices user.id).mode) :
    Offered b past (smartVpnModeKeyboard mode) := by
  subst hmode
  refine .append (.append ?_ ?_) backToMain_offered
  · exact .cons ⟨.mode .fullVpn,.now rfl ⟨user,huser,rfl⟩⟩
      (.cons ⟨.mode .smartVpn,.now rfl ⟨user,huser,rfl⟩⟩ (.nil _))
  · split_ifs with hsmart
    · exact .cons ⟨.categories,.now rfl ⟨user,huser,hsmart⟩⟩
        (.cons ⟨.addDomain,.now rfl ⟨user,huser,hsmart⟩⟩ (.nil _))
    · exact .nil _

theorem smartVpnCategories_offered {user : User} {x : RoutingSettings}
    (huser : (b.site past).world.db.userByTelegramId b.effectiveUser.telegramId=some user)
    (htold : ((b.site past).world.db.choices user.id).Told x)
    (hcategories : x.categories=openCategories (b.site past).world.db) :
    Offered b past (smartVpnCategoriesKeyboard x.categories x.enabledCategoryIds) := by
  refine Offered.append (fun y hy => ?_)
    (.cons (fixed_traceable (t := .smartVpn) rfl fun _ _ _ => trivial) (.nil _))
  obtain ⟨c,hc,rfl⟩ := List.mem_map.mp hy
  rw [hcategories] at hc
  obtain ⟨hrow,henabled⟩ := List.mem_filter.mp hc
  have htick : decide (c.id∈x.enabledCategoryIds)=
      ((b.site past).world.db.choices user.id).prefers c.id := by
    rw [Bool.eq_iff_iff,decide_eq_true_iff]
    exact htold.categories c.id
  rw [htick]
  exact ⟨.category c.id,.now rfl ⟨user,c,huser,hrow,rfl,henabled,rfl⟩⟩

end

section

open Dialogue

theorem done_tracing (r : BotRequest) :
    Within (tracing b) (ask b r >>= fun _ => pure ()) := asked_tracing r _

theorem buildStatusText_tracing : Within (tracing b) (buildStatusText b) :=
  (done_tracing _).bind fun _ => (asked_tracing _ devicesRead).bind fun _ => Within.pure _

theorem mainMenuCallback_tracing (u : Update) : Within (tracing b) (mainMenuCallback b u) :=
  buildStatusText_tracing.bind fun _ _ => reply_tracing mainMenu_offered u

theorem serversCallback_tracing (u : Update) : Within (tracing b) (serversCallback b u) :=
  fun c => told_bind (lookUp_tracing _ c) (lookUp_tells wireguardServers) fun _ _ h =>
    reply_tracing (h ▸ servers_offered) u

theorem subscriptionMenuCallback_tracing (u : Update) :
    Within (tracing b) (subscriptionMenuCallback b u) :=
  (done_tracing _).bind fun _ c => told_bind (lookUp_tracing _ c) (lookUp_tells activePlans)
    fun _ _ h => reply_tracing (h ▸ plans_offered) u

theorem listDevices_bind {f : List Device → Dialogue Unit} (h : ∀ user ds d,
    (b.site d.past).world.db.userByTelegramId b.effectiveUser.telegramId=some user →
      ds=(b.site d.past).world.db.devicesOf user.id → WithinAt (tracing b) (f ds) d) :
    Within (tracing b) (listDevices b >>= f) := fun c =>
  told_bind (asked_tracing _ _ c) listDevices_tells fun ds d htold => by
    obtain ⟨user,huser,hds⟩ := htold
    exact h user ds d huser hds

theorem devicesListCallback_tracing (u : Update) : Within (tracing b) (devicesListCallback b u) :=
  listDevices_bind fun _ _ _ huser hds => reply_tracing (devices_offered huser fun _ hx =>
    hds ▸ (List.mem_filter.mp hx).1) u

theorem deviceManageCallback_tracing (deviceId : Id) :
    Within (tracing b) (deviceManageCallback b deviceId) := by
  refine listDevices_bind fun user ds d huser hds => ?_
  cases hfound : ds.find? fun x => x.id=deviceId with
  | none => exact replace_tracing (devices_offered huser fun x hx => by cases hx)
  | some x =>
    exact replace_tracing (deviceManage_offered huser (hds ▸ List.mem_of_find?_eq_some hfound))

theorem askForName_tracing (serverId : Option Int) (protocol : String) :
    Within (tracing b) (askForName serverId protocol) :=
  (note_tracing _).bind fun _ => remark_tracing.bind fun _ => remark_tracing

theorem number_tracing (text : Option String) : Within (tracing b) (number text) :=
  Within.orRaise _ _

theorem deviceNewCallback_tracing (data : String) :
    Within (tracing b) (Dialogue.deviceNewCallback data) := by
  unfold Dialogue.deviceNewCallback
  cases (parts data)[2]? with
  | some text => exact (number_tracing _).bind fun _ => askForName_tracing _ _
  | none => exact fun c => replace_tracing (c := c) protocolChoice_offered

theorem sendSubscriptionLink_tracing {c : Chat} {deviceId : Id}
    (h : (b.site c.past).world.db.Belongs b.effectiveUser.telegramId deviceId) :
    WithinAt (tracing b) (sendSubscriptionLink deviceId) c :=
  replace_tracing (subscriptionLink_offered h)

/-- A device that comes with a link is the user's. -/
theorem sendDeviceConfig_tracing {c : Chat} {r : Option ProvisionedDevice}
    (h : ∀ p,r=some p → p.subscriptionUrl≠none →
      (b.site c.past).world.db.Belongs b.effectiveUser.telegramId p.device.id) :
    WithinAt (tracing b) (sendDeviceConfig r) c := by
  cases r with
  | none => exact (tracing b).refl c
  | some p =>
    cases hurl : p.subscriptionUrl with
    | none =>
      have hend : Within (tracing b) (if p.subscriptionUrl.isSome then
          sendSubscriptionLink p.device.id else pure ()) := by
        rw [hurl]
        exact Within.pure _
      exact Within.ite (remark_tracing.bind fun _ => remark_tracing.bind fun _ => hend)
        (remark_tracing.bind fun _ => hend) c
    | some url =>
      have hoffered := subscriptionLink_offered (h p rfl fun hnone => by
        rw [hurl] at hnone
        cases hnone)
      have hend : ∀ d : Chat,Offered b d.past (subscriptionLinkKeyboard p.device.id) →
          WithinAt (tracing b) (if p.subscriptionUrl.isSome then
            sendSubscriptionLink p.device.id else pure ()) d := by
        intro d hd
        rw [hurl]
        exact replace_tracing hd
      unfold sendDeviceConfig
      dsimp only
      by_cases hfile : p.device.protocol=.wireguard ∧ p.configText.isSome=true
      · rw [if_pos hfile]
        exact offer_bind (remark_tracing c) hoffered fun _ d hd =>
          offer_bind (remark_tracing d) hd fun _ e he => hend e he
      · rw [if_neg hfile]
        exact offer_bind (remark_tracing c) hoffered fun _ d hd => hend d hd

theorem deviceReissueCallback_tracing (deviceId : Id) :
    Within (tracing b) (deviceReissueCallback b deviceId) := by
  refine remark_tracing.bind fun _ c => told_bind (attempt_within (asked_tracing _ _ c))
    (reissueDevice_tells deviceId).attempt fun result d h => ?_
  cases result with
  | none => exact remark_tracing d
  | some r =>
    exact sendDeviceConfig_tracing fun p hp hurl => absurd (h r rfl p hp) hurl

theorem toggleDevice_tracing {call : Id → Dialogue Unit} (hcall : ∀ k,Within (tracing b) (call k))
    (data : String) (deviceId : Id) : Within (tracing b) (toggleDevice b call data deviceId) :=
  (hcall deviceId).bind fun _ => remark_tracing.bind fun _ => (number_tracing _).bind fun _ =>
    deviceManageCallback_tracing _

theorem deviceRevokeCallback_tracing (u : Update) (deviceId : Id) :
    Within (tracing b) (deviceRevokeCallback b u deviceId) :=
  (done_tracing _).bind fun _ => remark_tracing.bind fun _ => devicesListCallback_tracing u

theorem linkView_tracing (deviceId : Id) :
    Within (tracing b) (deviceSubscriptionLinkViewCallback b deviceId) := fun c =>
  told_bind (getSubscriptionLink_within (ask_tracing _) c) (getSubscriptionLink_tells deviceId)
    fun _ _ h => replace_tracing (subscriptionLink_offered h)

theorem linkRotate_tracing (deviceId : Id) :
    Within (tracing b) (deviceSubscriptionLinkRotateCallback b deviceId) := by
  refine remark_tracing.bind fun _ c => told_bind (attempt_within (done_tracing _ c))
    (createOrRotateSubscriptionLink_tells deviceId).attempt fun result d h => ?_
  cases result with
  | none => exact remark_tracing d
  | some r => exact sendSubscriptionLink_tracing (h r rfl)

theorem smartVpnMenuCallback_tracing (u : Update) :
    Within (tracing b) (smartVpnMenuCallback b u) := fun c =>
  told_bind (asked_tracing _ _ c) getRoutingSettings_tells fun _ _ ⟨_,huser,htold,_⟩ =>
    reply_tracing (smartVpnMode_offered huser htold.mode) u

theorem smartVpnCategoriesCallback_tracing (u : Update) :
    Within (tracing b) (smartVpnCategoriesCallback b u) := fun c =>
  told_bind (asked_tracing _ _ c) getRoutingSettings_tells fun _ _ ⟨_,huser,htold,hcategories⟩ =>
    reply_tracing (smartVpnCategories_offered huser htold hcategories) u

theorem smartVpnSetModeCallback_tracing (u : Update) (mode : String) :
    Within (tracing b) (smartVpnSetModeCallback b u mode) :=
  ((Within.orRaise _ _).bind fun _ => done_tracing _).bind fun _ => remark_tracing.bind fun _ =>
    smartVpnMenuCallback_tracing u

theorem smartVpnToggleCategoryCallback_tracing (u : Update) (categoryId : Id) :
    Within (tracing b) (smartVpnToggleCategoryCallback b u categoryId) :=
  (asked_tracing _ settingsRead).bind fun _ => (done_tracing _).bind fun _ =>
    remark_tracing.bind fun _ => smartVpnCategoriesCallback_tracing u

theorem supportMenuCallback_tracing (u : Update) :
    Within (tracing b) (Dialogue.supportMenuCallback u) :=
  (note_tracing _).bind fun _ _ => reply_tracing backToMain_offered u

theorem lastNumber_bind {data : String} {f : Id → Dialogue Unit}
    (h : ∀ k,Within (tracing b) (f k)) : Within (tracing b) (lastNumber data >>= f) :=
  (number_tracing _).bind h

/-- Whatever data come in, what a handler shows is traceable. -/
theorem handlerOf_tracing (data : String) (k : Callback) :
    Within (tracing b) (handlerOf b data k) := by
  cases k with
  | mainMenu => exact mainMenuCallback_tracing _
  | profile => exact (done_tracing _).bind fun _ _ => reply_tracing backToMain_offered _
  | servers => exact serversCallback_tracing _
  | subscriptionMenu => exact subscriptionMenuCallback_tracing _
  | devicesList => exact devicesListCallback_tracing _
  | smartVpnMenu => exact smartVpnMenuCallback_tracing _
  | supportMenu => exact supportMenuCallback_tracing _
  | deviceNewProtocol => exact askForName_tracing _ _
  | deviceNew => exact deviceNewCallback_tracing _
  | deviceManage => exact lastNumber_bind deviceManageCallback_tracing
  | deviceReissue => exact lastNumber_bind deviceReissueCallback_tracing
  | deviceDisable => exact lastNumber_bind (toggleDevice_tracing (fun _ => done_tracing _) _)
  | deviceEnable => exact lastNumber_bind (toggleDevice_tracing (fun _ => done_tracing _) _)
  | deviceRevoke => exact lastNumber_bind (deviceRevokeCallback_tracing _)
  | deviceSubscriptionLinkView => exact lastNumber_bind linkView_tracing
  | deviceSubscriptionLinkRotate => exact lastNumber_bind linkRotate_tracing
  | buyPlan =>
    exact lastNumber_bind fun _ => (done_tracing _).bind fun _ => remark_tracing.bind fun _ _ =>
      tell_tracing backToMain_offered
  | smartVpnSetMode => exact smartVpnSetModeCallback_tracing _ _
  | smartVpnCategories => exact smartVpnCategoriesCallback_tracing _
  | smartVpnToggleCategory => exact lastNumber_bind (smartVpnToggleCategoryCallback_tracing _)
  | smartVpnAddDomainPrompt =>
    exact (note_tracing _).bind fun _ => remark_tracing.bind fun _ => remark_tracing

theorem commandOf_tracing {u : Update} {name : String} {m : Dialogue Unit}
    (h : commandOf b u name=some m) : Within (tracing b) m := by
  unfold commandOf at h
  split_ifs at h
  · cases h
    exact ((request_tracing _ _).bind fun _ => Within.pure _).bind fun _ =>
      mainMenuCallback_tracing u
  · cases h
    exact (done_tracing _).bind fun _ _ => reply_tracing backToMain_offered _
  · cases h
    exact mainMenuCallback_tracing u
  · cases h
    exact serversCallback_tracing u
  · cases h
    exact subscriptionMenuCallback_tracing u
  · cases h
    exact devicesListCallback_tracing u
  · cases h
    exact supportMenuCallback_tracing u
  · cases h
    exact smartVpnMenuCallback_tracing u

theorem deviceNameMessageHandler_tracing (text : String) :
    Within (tracing b) (Dialogue.deviceNameMessageHandler b text) := by
  refine Within.reads_bind fun c => ?_
  split_ifs
  · refine (note_tracing _).bind (fun _ c => told_bind (attempt_within
      (createDevice_tracing _ _ _ c)) (createDevice_tells _ _ _).attempt fun result d h => ?_) c
    cases result with
    | none => exact tell_tracing mainMenu_offered
    | some r => exact sendDeviceConfig_tracing fun p hp _ => h r rfl p hp
  · exact (tracing b).refl c

theorem customDomainMessageHandler_tracing (text : String) :
    Within (tracing b) (Dialogue.customDomainMessageHandler b text) := by
  refine Within.reads_bind fun c => ?_
  split_ifs
  · exact (note_tracing _).bind (fun _ => (done_tracing _).bind fun _ => remark_tracing) c
  · exact (tracing b).refl c

theorem supportMessageHandler_tracing (text : String) :
    Within (tracing b) (Dialogue.supportMessageHandler b text) := by
  refine Within.reads_bind fun c => ?_
  split_ifs
  · exact (note_tracing _).bind (fun _ => (done_tracing _).bind fun _ _ =>
      reply_tracing backToMain_offered _) c
  · exact (tracing b).refl c

theorem guarded_tracing {m : Dialogue Unit} (h : Within (tracing b) m) (c : Chat) :
    (tracing b).rel c (guarded m c).2 := guarded_within h remark_tracing c

/-- One update, whatever becomes of its calls and messages. -/
theorem handleUpdate_tracing (u : Update) (c : Chat) :
    (tracing b).rel c (handleUpdate b u c).2 := by
  cases u with
  | callback data =>
    unfold handleUpdate
    dsimp only
    cases route data with
    | none => exact (tracing b).refl c
    | some k => exact guarded_tracing (handlerOf_tracing data k) c
  | command name =>
    unfold handleUpdate
    dsimp only
    cases hm : commandOf b (.command name) name with
    | none => exact (tracing b).refl c
    | some m => exact guarded_tracing (commandOf_tracing hm) c
  | text text =>
    exact (tracing b).trans (guarded_tracing (deviceNameMessageHandler_tracing text) c)
      ((tracing b).trans (guarded_tracing (customDomainMessageHandler_tracing text) _)
        (guarded_tracing (supportMessageHandler_tracing text) _))
  | editedText text => exact (tracing b).refl c

theorem converse_tracing (past : List Occasion) (es : List Event) :
    (tracing b).rel (Chat.opening past) (converse b past es) := by
  induction es using List.reverseRecOn with
  | nil => exact (tracing b).refl _
  | append_singleton es e ih =>
    have hsnoc : converse b past (es++[e])=(converse b past es).after b e := by
      unfold converse
      rw [List.foldl_append]
      rfl
    rw [hsnoc]
    exact (tracing b).trans ih (handleUpdate_tracing e.update ((converse b past es).meeting e))

end

end

end

end VpnService.Bot
