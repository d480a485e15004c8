import VpnService.Framework.Journal
import VpnService.Bot.SmartVpn

namespace VpnService.Bot

open Backend Dialogue

/-- A request that makes no choice. -/
def Choiceless (r : HttpRequest) : Prop := ∀ q,r=.bot q → q.chooses=false

/-- None of the things that handlers are made of leaves the frame: messages, the notes allowed in
it, requests without choices, and public reads. -/
structure Confines (b : Party) (R : Frame Chat) (noted : (UserData → UserData) → Prop) : Prop where
  tell : ∀ keyboard,Within R (tell keyboard)
  note : ∀ f,noted f → Within R (note f)
  request : ∀ headers r,Choiceless r → Within R (request b headers r)
  lookUp : ∀ {α : Type} (read : Database → α),Within R (lookUp b read)

section

variable {b : Party} {R : Frame Chat} {noted : (UserData → UserData) → Prop} {α : Type}

variable (h : Confines b R noted)

include h

namespace Confines

theorem remark : Within R remark := h.tell []

theorem replace (keyboard : Keyboard) : Within R (replace keyboard) :=
  h.remark.bind fun _ => h.tell keyboard

theorem reply (keyboard : Keyboard) (u : Update) : Within R (reply keyboard u) := by
  cases u with
  | callback data => exact h.replace keyboard
  | command name => exact h.tell keyboard
  | text text => exact h.tell keyboard
  | editedText text => exact Within.pure ()

theorem ask {r : BotRequest} (hr : r.chooses=false) : Within R (ask b r) := by
  refine (h.request _ _ fun q hq => ?_).bind fun _ => Within.pure _
  cases hq
  exact hr

theorem asked {r : BotRequest} (hr : r.chooses=false) (f : BotResponse → α) :
    Within R (Bot.ask b r >>= fun a => pure (f a)) := (h.ask hr).bind fun _ => Within.pure _

theorem attempt {r : BotRequest} (hr : r.chooses=false) (f : BotResponse → α) :
    Within R (Bot.attempt (Bot.ask b r >>= fun a => pure (f a))) :=
  fun c => attempt_within (h.asked hr f c)

theorem mainMenuCallback (u : Update) : Within R (mainMenuCallback b u) :=
  ((h.asked rfl fun _ => ()).bind fun _ => (h.asked rfl devicesRead).bind fun _ =>
    Within.pure _).bind fun _ => h.reply _ u

theorem devicesListCallback (u : Update) : Within R (devicesListCallback b u) :=
  (h.asked rfl devicesRead).bind fun _ => h.reply _ u

theorem deviceManageCallback (deviceId : Id) : Within R (deviceManageCallback b deviceId) := by
  refine (h.asked rfl devicesRead).bind fun devices => ?_
  cases devices.find? fun d => d.id=deviceId with
  | none => exact h.replace _
  | some device => exact h.replace _

theorem askForName (hnoted : ∀ f,noted f) (serverId : Option Int) (protocol : String) :
    Within R (askForName serverId protocol) :=
  (h.note _ (hnoted _)).bind fun _ => h.remark.bind fun _ => h.remark

theorem sendDeviceConfig (result : Option ProvisionedDevice) :
    Within R (sendDeviceConfig result) := by
  cases result with
  | none => exact Within.pure ()
  | some r =>
    have hlink : Within R (if r.subscriptionUrl.isSome then sendSubscriptionLink r.device.id
        else pure ()) := Within.ite (h.replace _) (Within.pure ())
    exact Within.ite (h.remark.bind fun _ => h.remark.bind fun _ => hlink)
      (h.remark.bind fun _ => hlink)

theorem toggleDevice {call : Id → Dialogue Unit} (hcall : ∀ k,Within R (call k)) (data : String)
    (deviceId : Id) : Within R (toggleDevice b call data deviceId) :=
  (hcall deviceId).bind fun _ => h.remark.bind fun _ => (Within.orRaise _ _).bind fun k =>
    h.deviceManageCallback k

theorem smartVpnMenuCallback (u : Update) : Within R (smartVpnMenuCallback b u) :=
  (h.asked rfl settingsRead).bind fun _ => h.reply _ u

theorem smartVpnCategoriesCallback (u : Update) : Within R (smartVpnCategoriesCallback b u) :=
  (h.asked rfl settingsRead).bind fun _ => h.reply _ u

/-- The handlers of all buttons but the two that change settings. -/
theorem handlerOf (hnoted : ∀ f,noted f) (data : String) {k : Callback}
    (hmode : k≠.smartVpnSetMode) (hcategory : k≠.smartVpnToggleCategory) :
    Within R (handlerOf b data k) := by
  have hnumber : ∀ {f : Id → Dialogue Unit},(∀ id,Within R (f id)) →
      Within R (lastNumber data >>= f) := fun hf => (Within.orRaise _ _).bind hf
  cases k with
  | mainMenu => exact h.mainMenuCallback _
  | profile => exact (h.asked rfl fun _ => ()).bind fun _ => h.reply _ _
  | servers => exact (h.lookUp _).bind fun _ => h.reply _ _
  | subscriptionMenu =>
    exact (h.asked rfl fun _ => ()).bind fun _ => (h.lookUp _).bind fun _ => h.reply _ _
  | devicesList => exact h.devicesListCallback _
  | smartVpnMenu => exact h.smartVpnMenuCallback _
  | supportMenu => exact (h.note _ (hnoted _)).bind fun _ => h.reply _ _
  | deviceNewProtocol => exact h.askForName hnoted _ _
  | deviceNew =>
    show Within R (Dialogue.deviceNewCallback data)
    unfold Dialogue.deviceNewCallback
    cases (parts data)[2]? with
    | none => exact h.replace _
    | some text => exact (Within.orRaise _ _).bind fun _ => h.askForName hnoted _ _
  | deviceManage => exact hnumber h.deviceManageCallback
  | deviceReissue =>
    refine hnumber fun id => h.remark.bind fun _ =>
      (h.attempt rfl provisionedRead).bind fun result => ?_
    cases result with
    | none => exact h.remark
    | some r => exact h.sendDeviceConfig r
  | deviceDisable => exact hnumber (h.toggleDevice (fun _ => h.asked rfl fun _ => ()) data)
  | deviceEnable => exact hnumber (h.toggleDevice (fun _ => h.asked rfl fun _ => ()) data)
  | deviceRevoke =>
    exact hnumber fun _ => (h.asked rfl fun _ => ()).bind fun _ => h.remark.bind fun _ =>
      h.devicesListCallback _
  | deviceSubscriptionLinkView =>
    exact hnumber fun _ => (getSubscriptionLink_within (h.ask rfl)).bind fun _ => h.replace _
  | deviceSubscriptionLinkRotate =>
    refine hnumber fun id => h.remark.bind fun _ =>
      (h.attempt rfl fun _ => ()).bind fun result => ?_
    cases result with
    | none => exact h.remark
    | some r => exact h.replace _
  | buyPlan =>
    exact hnumber fun _ => (h.asked rfl fun _ => ()).bind fun _ => h.replace _
  | smartVpnSetMode => exact absurd rfl hmode
  | smartVpnCategories => exact h.smartVpnCategoriesCallback _
  | smartVpnToggleCategory => exact absurd rfl hcategory
  | smartVpnAddDomainPrompt =>
    exact (h.note _ (hnoted _)).bind fun _ => h.remark.bind fun _ => h.remark

theorem commandOf (hnoted : ∀ f,noted f) {u : Update} {name : String} {m : Dialogue Unit}
    (hm : commandOf b u name=some m) : Within R m := by
  unfold Dialogue.commandOf at hm
  split_ifs at hm
  · cases hm
    exact ((h.request _ (.authenticateTelegram _) fun _ hq => by cases hq).bind fun _ =>
      Within.pure _).bind fun _ => h.mainMenuCallback u
  · cases hm
    exact (h.asked rfl fun _ => ()).bind fun _ => h.reply _ _
  · cases hm
    exact h.mainMenuCallback u
  · cases hm
    exact (h.lookUp _).bind fun _ => h.reply _ _
  · cases hm
    exact (h.asked rfl fun _ => ()).bind fun _ => (h.lookUp _).bind fun _ => h.reply _ _
  · cases hm
    exact h.devicesListCallback u
  · cases hm
    exact (h.note _ (hnoted _)).bind fun _ => h.reply _ _
  · cases hm
    exact h.smartVpnMenuCallback u

theorem deviceNameMessageHandler (hnamed : noted named) (text : String) :
    Within R (Dialogue.deviceNameMessageHandler b text) := by
  refine Within.reads_bind fun c => ?_
  split_ifs
  · have hcall : ∀ name serverId protocol,Within R (createDevice b name serverId protocol) :=
      fun _ _ _ => (Within.orRaise _ _).bind fun _ => h.asked rfl provisionedRead
    refine (h.note _ hnamed).bind (fun _ => Within.bind
      (fun d => attempt_within (hcall _ _ _ d)) fun result => ?_) c
    cases result with
    | none => exact h.tell _
    | some r => exact h.sendDeviceConfig r
  · exact R.refl c

theorem supportMessageHandler (hnoted : ∀ f,noted f) (text : String) :
    Within R (Dialogue.supportMessageHandler b text) := by
  refine Within.reads_bind fun c => ?_
  split_ifs
  · exact (h.note _ (hnoted _)).bind (fun _ => (h.asked rfl fun _ => ()).bind fun _ =>
      h.reply _ _) c
  · exact R.refl c

theorem guarded {m : Dialogue Unit} (hm : Within R m) (c : Chat) : R.rel c (guarded m c).2 :=
  guarded_within hm h.remark c

end Confines

end

section

variable {cfg : Settings} {auth : AuthSettings} {jwt : Jwt} {site : Site}

theorem foldl_choose_same {xs : List (Id×BotRequest)} (h : ∀ x∈xs,x.2.chooses=false)
    (all : Id → Choices) : xs.foldl (choose cfg) all=all := by
  induction xs with
  | nil => rfl
  | cons x xs ih =>
    have hx : choose cfg all x=all := by
      unfold choose
      rw [BotRequest.apply_same (h x List.mem_cons_self)]
      exact Function.update_eq_self _ _
    rw [List.foldl_cons,hx]
    exact ih fun y hy => h y (List.mem_cons_of_mem _ hy)

theorem site_choices_same (hs : site.Chosen) {env : Env} {headers : Headers} {r : HttpRequest}
    (hr : Choiceless r) :
    (site.after cfg auth jwt ⟨env,.request headers r⟩).choices=site.choices := by
  rw [(Site.after_choices cfg auth jwt hs _).2]
  refine foldl_choose_same (fun x hx => ?_) _
  unfold asked at hx
  cases hserve : (serveSite cfg auth jwt site ⟨env,.request headers r⟩).1 with
  | error e =>
    rw [hserve] at hx
    cases hx
  | ok a =>
    rw [hserve] at hx
    cases r with
    | bot r =>
      cases a with
      | bot a =>
        obtain ⟨v,_,rfl⟩ : ∃ v,headers.actor site.world.db=some v ∧ (v.id,r)=x := by
          simpa [askedOf] using hx
        exact hr r rfl
      | _ => cases hx
    | _ => cases hx

end

/-- No choice of the user is made. -/
def leaving (b : Party) (userId : Id) : Frame Chat where
  rel c d := Undisturbed b userId c →
    Undisturbed b userId d ∧ b.choices d.past userId=b.choices c.past userId
  refl _ h := ⟨h,rfl⟩
  trans h k hc := ⟨(k (h hc).1).1,(k (h hc).1).2.trans (h hc).2⟩

/-- Whether a domain is waited for stays as it is. -/
abbrev expecting : Frame Chat := .keeping fun c => c.userData.awaitingCustomDomain

section

variable {b : Party} {userId : Id} {c d : Chat}

theorem leaving_confines : Confines b (leaving b userId) fun _ => True where
  tell keyboard c := by
    unfold WithinAt tell
    cases c.sends.headD .answered with
    | _ => exact fun h => ⟨⟨h.known,h.alone⟩,rfl⟩
  note f _ c := fun h => ⟨⟨h.known,h.alone⟩,rfl⟩
  request headers r hr c := by
    refine request_end ((leaving b userId).refl c) (fun _ _ hturns h => waited_alone h hturns)
      fun turn turns hturns => (leaving b userId).trans (fun h => waited_alone h hturns) fun h =>
        ⟨served_alone h _,?_⟩
    show (b.site (_++[_])).choices userId=_
    rw [Party.site_snoc]
    exact congrFun (site_choices_same (Party.site_chosen _) hr) userId
  lookUp read c :=
    lookUp_end ((leaving b userId).refl c) fun _ _ hturns h => waited_alone h hturns

theorem expecting_confines : Confines b expecting
    fun f => ∀ d,(f d).awaitingCustomDomain=d.awaitingCustomDomain where
  tell keyboard c := by
    unfold WithinAt tell
    cases c.sends.headD .answered with
    | _ => rfl
  note f hf c := hf c.userData
  request _ _ _ c := request_end ((expecting).refl c) (fun _ _ _ => rfl) fun _ _ _ => rfl
  lookUp _ c := lookUp_end ((expecting).refl c) fun _ _ _ => rfl

end

/-- Whether an update is one that changes settings, where a domain may be waited for. -/
def Update.chooses (d : UserData) : Update → Bool
  | .callback data => route data=some .smartVpnSetMode || route data=some .smartVpnToggleCategory
  | .text _ => d.awaitingCustomDomain
  | _ => false

/-- What an update makes of the settings. -/
def Update.makes (cfg : Settings) (d : UserData) (u : Update) (x : Choices) : Choices := match u with
  | .callback data => match route data with
    | some .smartVpnSetMode =>
      ((readMode (thirdPart data)).map fun m => (Target.mode m).tap x).getD x
    | some .smartVpnToggleCategory =>
      (((parts data).getLast?.bind Agent.parseInt).map fun k => (Target.category k).tap x).getD x
    | _ => x
  | .text words =>
    if d.awaitingCustomDomain then x.apply cfg (.addMyDomain (customDomain cfg.lower words) .vpn)
    else x
  | _ => x

theorem makes_text (cfg : Settings) (d : UserData) (text : String) (x : Choices) :
    (Update.text text).makes cfg d x=if d.awaitingCustomDomain then
      x.apply cfg (.addMyDomain (customDomain cfg.lower text) .vpn) else x := rfl

/-- Nothing is asked for the chat's user meanwhile, and an update that changes settings is handled
to its end. What becomes of other updates is open. -/
structure Heard (b : Party) (c : Chat) (e : Event) : Prop where
  alone : ∀ turn∈e.turns,∀ o∈turn.others,¬Concerns b.effectiveUser.telegramId o
  done : e.update.chooses c.userData=true →
    (handleUpdate b e.update (c.meeting e)).1=[]

section

variable {b : Party} {userId : Id} {c d : Chat}

theorem guarded_done {m : Dialogue Unit} (h : (guarded m c).1=none) :
    m c=(.ok (),(guarded m c).2) := by
  unfold guarded at *
  cases hm : m c with
  | mk r d =>
    rw [hm] at h
    cases r with
    | ok u => rfl
    | error e => cases h

theorem setMode_makes {data : String} (h : Undisturbed b userId c)
    (hroute : route data=some .smartVpnSetMode)
    (hrun : smartVpnSetModeCallback b (.callback data) (thirdPart data) c=(.ok (),d)) :
    Undisturbed b userId d ∧ ∀ u,b.choices d.past userId=
      (Update.callback data).makes b.cfg u (b.choices c.past userId) := by
  obtain ⟨_,e,he,hrest⟩ := Eff.bind_ok.mp hrun
  obtain ⟨m,hm,hput⟩ := Eff.orRaise_bind_ok.mp he
  have hset : Settled b userId c d (.mode m) :=
    putMode_settled h ((Eff.bind_run_ok hput).trans hrest)
  refine ⟨hset.undisturbed,fun u => ?_⟩
  rw [hset.choices]
  simp only [Update.makes,hroute,hm,Option.map_some,Option.getD_some]

theorem toggleCategory_makes {data : String} (h : Undisturbed b userId c)
    (hroute : route data=some .smartVpnToggleCategory)
    (hrun : (lastNumber data >>= smartVpnToggleCategoryCallback b (.callback data)) c=(.ok (),d)) :
    Undisturbed b userId d ∧ ∀ u,b.choices d.past userId=
      (Update.callback data).makes b.cfg u (b.choices c.past userId) := by
  obtain ⟨k,hk,hrest⟩ := Eff.orRaise_bind_ok.mp hrun
  have hset := toggleCategory_settled h hrest
  refine ⟨hset.undisturbed,fun u => ?_⟩
  rw [hset.choices]
  simp only [Update.makes,hroute,hk,Option.map_some,Option.getD_some]

theorem customDomain_makes {text : String} (h : Undisturbed b userId c)
    (hrun : Dialogue.customDomainMessageHandler b text c=(.ok (),d)) :
    Undisturbed b userId d ∧ b.choices d.past userId=
      (Update.text text).makes b.cfg c.userData (b.choices c.past userId) := by
  unfold Dialogue.customDomainMessageHandler getUserData at hrun
  rw [Eff.reads_bind_run] at hrun
  rw [makes_text]
  by_cases hwaiting : c.userData.awaitingCustomDomain=true
  · rw [if_pos hwaiting] at hrun ⊢
    obtain ⟨_,e,he,hrun⟩ := Eff.bind_ok.mp hrun
    cases he
    obtain ⟨_,f,hf,hrun⟩ := Eff.bind_ok.mp hrun
    obtain ⟨a,g,hg,hend⟩ := Eff.bind_ok.mp hf
    cases hend
    have hnoted : Undisturbed b userId
        {c with userData := {c.userData with awaitingCustomDomain := false}} := ⟨h.known,h.alone⟩
    obtain ⟨hasked,_,hchoices⟩ := ask_alone hnoted hg
    obtain ⟨hnext,hpast,_⟩ := tell_alone hasked hrun
    refine ⟨hnext,?_⟩
    rw [hpast]
    exact hchoices
  · rw [if_neg hwaiting] at hrun ⊢
    cases hrun
    exact ⟨h,rfl⟩

theorem customDomain_idle {text : String} (h : ¬c.userData.awaitingCustomDomain=true) :
    (guarded (Dialogue.customDomainMessageHandler b text) c).1=none := by
  have hrun : Dialogue.customDomainMessageHandler b text c=(.ok (),c) := by
    unfold Dialogue.customDomainMessageHandler getUserData
    rw [Eff.reads_bind_run,if_neg h]
    rfl
  unfold guarded
  rw [hrun]

theorem callback_makes {data : String} {turns : List Turn} {sends : List Outcome}
    (h : Heard b c ⟨.callback data,turns,sends⟩)
    (hknown : Knows (b.site c.past) b.effectiveUser.telegramId userId) :
    Undisturbed b userId (c.after b ⟨.callback data,turns,sends⟩) ∧
      b.choices (c.after b ⟨.callback data,turns,sends⟩).past userId=
        (Update.callback data).makes b.cfg c.userData (b.choices c.past userId) := by
  have hmeeting : Undisturbed b userId (c.meeting ⟨.callback data,turns,sends⟩) :=
    ⟨hknown,h.alone⟩
  have hdone := h.done
  have hconfines : Confines b (leaving b userId) fun _ => True := leaving_confines
  unfold Chat.after
  unfold handleUpdate at hdone ⊢
  dsimp only at hdone ⊢
  cases hroute : route data with
  | none =>
    refine ⟨hmeeting,?_⟩
    simp only [Update.makes,hroute]
    rfl
  | some k =>
    rw [hroute] at hdone
    dsimp only at hdone ⊢
    by_cases hmode : k=.smartVpnSetMode
    · subst hmode
      have hended := guarded_done (Option.toList_eq_nil_iff.mp
        (hdone (by simp [Update.chooses,hroute])))
      obtain ⟨hnext,hchoices⟩ := setMode_makes hmeeting hroute hended
      exact ⟨hnext,hchoices _⟩
    · by_cases hcategory : k=.smartVpnToggleCategory
      · subst hcategory
        have hended := guarded_done (Option.toList_eq_nil_iff.mp
          (hdone (by simp [Update.chooses,hroute])))
        obtain ⟨hnext,hchoices⟩ := toggleCategory_makes hmeeting hroute hended
        exact ⟨hnext,hchoices _⟩
      · obtain ⟨hnext,hsame⟩ := hconfines.guarded
          (hconfines.handlerOf (fun _ => trivial) data hmode hcategory) _ hmeeting
        refine ⟨hnext,hsame.trans ?_⟩
        unfold Update.makes
        dsimp only
        rw [hroute]
        split
        · rename_i h
          exact absurd (Option.some.inj h) hmode
        · rename_i h
          exact absurd (Option.some.inj h) hcategory
        · rfl

theorem deviceName_waits (text : String) (c : Chat) :
    (guarded (Dialogue.deviceNameMessageHandler b text) c).2.userData.awaitingCustomDomain=
      c.userData.awaitingCustomDomain := by
  have hexpecting := expecting_confines (b := b)
  exact hexpecting.guarded (hexpecting.deviceNameMessageHandler (fun _ => rfl) text) c

theorem text_makes {text : String} {turns : List Turn} {sends : List Outcome}
    (h : Heard b c ⟨.text text,turns,sends⟩)
    (hknown : Knows (b.site c.past) b.effectiveUser.telegramId userId) :
    Undisturbed b userId (c.after b ⟨.text text,turns,sends⟩) ∧
      b.choices (c.after b ⟨.text text,turns,sends⟩).past userId=
        (Update.text text).makes b.cfg c.userData (b.choices c.past userId) := by
  have hmeeting : Undisturbed b userId (c.meeting ⟨.text text,turns,sends⟩) := ⟨hknown,h.alone⟩
  have hdone := h.done
  have hconfines : Confines b (leaving b userId) fun _ => True := leaving_confines
  obtain ⟨hnext,hsame⟩ := hconfines.guarded
    (hconfines.deviceNameMessageHandler trivial text) _ hmeeting
  have hwaits := deviceName_waits (b := b) text (c.meeting ⟨.text text,turns,sends⟩)
  unfold Chat.after
  unfold handleUpdate at hdone ⊢
  dsimp only at hdone ⊢
  generalize guarded (Dialogue.deviceNameMessageHandler b text)
    (c.meeting ⟨.text text,turns,sends⟩)=first at *
  have hnone : (guarded (Dialogue.customDomainMessageHandler b text) first.2).1=none := by
    by_cases hwaiting : c.userData.awaitingCustomDomain=true
    · have hall := hdone hwaiting
      exact Option.toList_eq_nil_iff.mp
        (List.append_eq_nil_iff.mp (List.append_eq_nil_iff.mp hall).1).2
    · exact customDomain_idle fun h => hwaiting (hwaits.symm.trans h)
  obtain ⟨hsecond,hchoices⟩ := customDomain_makes hnext (guarded_done hnone)
  obtain ⟨hthird,hlast⟩ := hconfines.guarded
    (hconfines.supportMessageHandler (fun _ => trivial) text) _ hsecond
  refine ⟨hthird,hlast.trans (hchoices.trans ?_)⟩
  rw [hsame,makes_text,makes_text,hwaits]
  rfl

/-- One update, whatever becomes of it unless it changes settings. -/
theorem Heard.makes {e : Event} (h : Heard b c e)
    (hknown : Knows (b.site c.past) b.effectiveUser.telegramId userId) :
    Undisturbed b userId (c.after b e) ∧ b.choices (c.after b e).past userId=
      e.update.makes b.cfg c.userData (b.choices c.past userId) := by
  have hmeeting : Undisturbed b userId (c.meeting e) := ⟨hknown,h.alone⟩
  have hconfines : Confines b (leaving b userId) fun _ => True := leaving_confines
  obtain ⟨update,turns,sends⟩ := e
  cases update with
  | callback data => exact callback_makes h hknown
  | command name =>
    unfold Chat.after handleUpdate
    dsimp only
    cases hm : Dialogue.commandOf b (.command name) name with
    | none => exact ⟨hmeeting,rfl⟩
    | some m => exact hconfines.guarded (hconfines.commandOf (fun _ => trivial) hm) _ hmeeting
  | text text => exact text_makes h hknown
  | editedText text => exact ⟨hmeeting,rfl⟩

/-- The user's choices come to this, or stay as they are. -/
def MayMake (b : Party) (userId : Id) (f : Choices → Choices) (c d : Chat) : Prop :=
  Undisturbed b userId d ∧ (b.choices d.past userId=b.choices c.past userId ∨
    b.choices d.past userId=f (b.choices c.past userId))

theorem MayMake.same {f : Choices → Choices} (h : Undisturbed b userId c) :
    MayMake b userId f c c := ⟨h,Or.inl rfl⟩

theorem MayMake.later {f : Choices → Choices} {e : Chat} (h : MayMake b userId f c d)
    (hlater : (leaving b userId).rel d e) : MayMake b userId f c e := by
  obtain ⟨hnext,hsame⟩ := hlater h.1
  refine ⟨hnext,?_⟩
  rw [hsame]
  exact h.2

theorem MayMake.bind {f : Choices → Choices} {α β : Type} {m : Dialogue α} {k : α → Dialogue β}
    (h : MayMake b userId f c (m d).2) (hk : ∀ a,Within (leaving b userId) (k a)) :
    MayMake b userId f c ((m >>= k) d).2 := by
  rw [Eff.bind_run]
  cases hm : m d with
  | mk r e =>
    rw [hm] at h
    cases r with
    | ok a => exact h.later (hk a e)
    | error _ => exact h

theorem served_may {env : Env} {r : BotRequest} (h : Undisturbed b userId c) :
    MayMake b userId (fun x => x.apply b.cfg r) c {c with past := c.past++[⟨env,
      .request (b.headers (some b.effectiveUser.telegramId)) (.bot r)⟩]} := by
  refine ⟨served_alone h _,?_⟩
  show (b.site (_++[_])).choices userId=_ ∨ (b.site (_++[_])).choices userId=_
  rw [Party.site_snoc]
  cases hserve : (serveSite b.cfg b.auth b.jwt (b.site c.past) ⟨env,
      .request (b.headers (some b.effectiveUser.telegramId)) (.bot r)⟩).1 with
  | error e =>
    have hasked : asked b.cfg b.auth b.jwt (b.site c.past) ⟨env,
        .request (b.headers (some b.effectiveUser.telegramId)) (.bot r)⟩=[] := by
      unfold asked
      rw [hserve]
    rw [(Site.after_choices b.cfg b.auth b.jwt (Party.site_chosen _) _).2,hasked]
    exact Or.inl rfl
  | ok y =>
    obtain ⟨user,a,t,rfl,hactor,_⟩ := serveSite_bot hserve
    obtain ⟨v,hv,rfl⟩ := h.known
    have hsame : user=v := Option.some.inj (hactor.symm.trans hv)
    subst hsame
    exact Or.inr (site_choices_request (Party.site_chosen _) hserve hactor)

theorem ask_may {r : BotRequest} (h : Undisturbed b userId c) :
    MayMake b userId (fun x => x.apply b.cfg r) c (ask b r c).2 := by
  have hrequest : MayMake b userId (fun x => x.apply b.cfg r) c (request b
      (b.headers (some b.effectiveUser.telegramId)) (.bot r) c).2 := by
    refine request_end (.same h) (fun turn turns hturns => ?_) fun turn turns hturns => ?_
    · obtain ⟨hwaited,hbefore⟩ := waited_alone h hturns
      exact ⟨hwaited,Or.inl hbefore⟩
    · obtain ⟨hwaited,hbefore⟩ := waited_alone h hturns
      have hserved : MayMake b userId (fun x => x.apply b.cfg r) (c.waited turn turns)
          {c.waited turn turns with past := (c.waited turn turns).past++[⟨turn.env,
            .request (b.headers (some b.effectiveUser.telegramId)) (.bot r)⟩]} := served_may hwaited
      unfold MayMake at hserved
      rw [hbefore] at hserved
      exact hserved
  exact hrequest.bind fun _ => Within.pure _

theorem setMode_may {data : String} (h : Undisturbed b userId c)
    (hroute : route data=some .smartVpnSetMode) (u : UserData) :
    MayMake b userId ((Update.callback data).makes b.cfg u) c
      (smartVpnSetModeCallback b (.callback data) (thirdPart data) c).2 := by
  have hconfines : Confines b (leaving b userId) fun _ => True := leaving_confines
  unfold smartVpnSetModeCallback setRoutingMode
  cases hm : readMode (thirdPart data) with
  | none => exact .same h
  | some m =>
    have hput : MayMake b userId ((Update.callback data).makes b.cfg u) c (putMode b m c).2 := by
      have hasked : MayMake b userId (fun x => x.apply b.cfg (.setMyMode m)) c (putMode b m c).2 :=
        (ask_may h).bind fun _ => Within.pure _
      refine ⟨hasked.1,hasked.2.imp_right fun hmade => hmade.trans ?_⟩
      simp only [Update.makes,hroute,hm,Option.map_some,Option.getD_some]
      rfl
    exact hput.bind fun _ => hconfines.remark.bind fun _ => hconfines.smartVpnMenuCallback _

theorem toggleCategory_may {data : String} (h : Undisturbed b userId c)
    (hroute : route data=some .smartVpnToggleCategory) (u : UserData) :
    MayMake b userId ((Update.callback data).makes b.cfg u) c
      ((lastNumber data >>= smartVpnToggleCategoryCallback b (.callback data)) c).2 := by
  have hconfines : Confines b (leaving b userId) fun _ => True := leaving_confines
  unfold lastNumber number
  cases hk : (parts data).getLast?.bind Agent.parseInt with
  | none => exact .same h
  | some k =>
    show MayMake b userId _ c (smartVpnToggleCategoryCallback b (.callback data) k c).2
    unfold smartVpnToggleCategoryCallback
    rw [Eff.bind_run]
    cases hx : getRoutingSettings b c with
    | mk r d =>
      cases r with
      | error e =>
        have hasked := hconfines.asked (r := .getMySettings) rfl settingsRead c
        exact (MayMake.same h).later (hasked.rel_of_run hx)
      | ok x =>
        obtain ⟨hread,_,hchoices,htold,_⟩ := getRoutingSettings_alone h hx
        have hflip : decide (k∉x.enabledCategoryIds)=!(b.choices c.past userId).prefers k := by
          rw [← hchoices,← Told.ticks htold k,decide_not]
        dsimp only
        rw [hflip]
        have hset : MayMake b userId ((Update.callback data).makes b.cfg u) c
            (setCategoryPreference b k (!(b.choices c.past userId).prefers k) d).2 := by
          have hasked : MayMake b userId (fun x => x.apply b.cfg
              (.setMyCategory k (!(b.choices c.past userId).prefers k))) d
              (setCategoryPreference b k (!(b.choices c.past userId).prefers k) d).2 :=
            (ask_may hread).bind fun _ => Within.pure _
          obtain ⟨hnext,hwhich⟩ := hasked
          rw [hchoices] at hwhich
          refine ⟨hnext,hwhich.imp_right fun hmade => hmade.trans ?_⟩
          simp only [Update.makes,hroute,hk,Option.map_some,Option.getD_some]
          rfl
        exact hset.bind fun _ => hconfines.remark.bind fun _ =>
          hconfines.smartVpnCategoriesCallback _

theorem customDomain_may {text : String} (h : Undisturbed b userId c)
    (hwaiting : c.userData.awaitingCustomDomain=true) :
    MayMake b userId ((Update.text text).makes b.cfg c.userData) c
      (Dialogue.customDomainMessageHandler b text c).2 := by
  have hconfines : Confines b (leaving b userId) fun _ => True := leaving_confines
  have hnoted : Undisturbed b userId
      {c with userData := {c.userData with awaitingCustomDomain := false}} := ⟨h.known,h.alone⟩
  have hasked : MayMake b userId (fun x =>
      x.apply b.cfg (.addMyDomain (customDomain b.cfg.lower text) .vpn))
      {c with userData := {c.userData with awaitingCustomDomain := false}}
      (addCustomDomain b (customDomain b.cfg.lower text)
        {c with userData := {c.userData with awaitingCustomDomain := false}}).2 :=
    (ask_may hnoted).bind fun _ => Within.pure _
  have hmade := hasked.bind fun _ => hconfines.remark
  unfold Dialogue.customDomainMessageHandler getUserData
  rw [Eff.reads_bind_run,if_pos hwaiting]
  refine ⟨hmade.1,hmade.2.imp_right fun hx => hx.trans ?_⟩
  rw [makes_text,if_pos hwaiting]

/-- An update that changes settings does all of what it is for, or nothing. -/
theorem choosing_may {e : Event}
    (halone : ∀ turn∈e.turns,∀ o∈turn.others,¬Concerns b.effectiveUser.telegramId o)
    (hknown : Knows (b.site c.past) b.effectiveUser.telegramId userId)
    (hchooses : e.update.chooses c.userData=true) :
    MayMake b userId (e.update.makes b.cfg c.userData) (c.meeting e) (c.after b e) := by
  have hmeeting : Undisturbed b userId (c.meeting e) := ⟨hknown,halone⟩
  have hconfines : Confines b (leaving b userId) fun _ => True := leaving_confines
  have hguarded : ∀ {f : Choices → Choices} {m : Dialogue Unit} {d d' : Chat},
      MayMake b userId f d (m d').2 → MayMake b userId f d (guarded m d').2 := by
    intro f m d d' h
    unfold guarded
    cases hm : m d' with
    | mk r t =>
      rw [hm] at h
      cases r with
      | ok _ => exact h
      | error _ => exact h.later (hconfines.remark t)
  obtain ⟨update,turns,sends⟩ := e
  unfold Chat.after handleUpdate
  cases update with
  | callback data =>
    dsimp only
    have hroutes : route data=some .smartVpnSetMode ∨ route data=some .smartVpnToggleCategory := by
      simpa [Update.chooses] using hchooses
    rcases hroutes with hroute|hroute
    · rw [hroute]
      exact hguarded (setMode_may hmeeting hroute _)
    · rw [hroute]
      exact hguarded (toggleCategory_may hmeeting hroute _)
  | command name => cases hchooses
  | text words =>
    obtain ⟨hnext,hsame⟩ := hconfines.guarded
      (hconfines.deviceNameMessageHandler trivial words) _ hmeeting
    have hwaits := deviceName_waits (b := b) words (c.meeting ⟨.text words,turns,sends⟩)
    dsimp only
    generalize guarded (Dialogue.deviceNameMessageHandler b words)
      (c.meeting ⟨.text words,turns,sends⟩)=first at *
    have hmakes : (Update.text words).makes b.cfg first.2.userData=
        (Update.text words).makes b.cfg c.userData := by
      funext x
      rw [makes_text,makes_text,hwaits]
      rfl
    have hsecond : MayMake b userId ((Update.text words).makes b.cfg first.2.userData) first.2
        (guarded (Dialogue.customDomainMessageHandler b words) first.2).2 :=
      hguarded (customDomain_may hnext (hwaits.trans hchooses))
    have hlast := hsecond.later
      (hconfines.guarded (hconfines.supportMessageHandler (fun _ => trivial) words) _)
    refine ⟨hlast.1,?_⟩
    have hwhich := hlast.2
    rw [hsame,hmakes] at hwhich
    exact hwhich
  | editedText text => cases hchooses

theorem event_makes {e : Event}
    (halone : ∀ turn∈e.turns,∀ o∈turn.others,¬Concerns b.effectiveUser.telegramId o)
    (hknown : Knows (b.site c.past) b.effectiveUser.telegramId userId) :
    Undisturbed b userId (c.after b e) ∧
      (b.choices (c.after b e).past userId=e.update.makes b.cfg c.userData (b.choices c.past userId) ∨
        (handleUpdate b e.update (c.meeting e)).1≠[] ∧
          b.choices (c.after b e).past userId=b.choices c.past userId) := by
  by_cases hdone : e.update.chooses c.userData=true → (handleUpdate b e.update (c.meeting e)).1=[]
  · have hheard : Heard b c e := ⟨halone,hdone⟩
    obtain ⟨hnext,hmakes⟩ := hheard.makes hknown
    exact ⟨hnext,Or.inl hmakes⟩
  · obtain ⟨hchooses,hfails⟩ := Classical.not_imp.mp hdone
    obtain ⟨hnext,hsame|hmakes⟩ := choosing_may halone hknown hchooses
    · exact ⟨hnext,Or.inr ⟨hfails,hsame⟩⟩
    · exact ⟨hnext,Or.inl hmakes⟩

/-- What a run of updates makes of the settings. Only an update that something is raised for may be
without effect. -/
inductive Followed (b : Party) : List (Chat×Event) → Choices → Choices → Prop
  | nil (x : Choices) : Followed b [] x x
  | heeded {m : Chat×Event} {ms : List (Chat×Event)} {x y : Choices}
      (h : Followed b ms (m.2.update.makes b.cfg m.1.userData x) y) : Followed b (m::ms) x y
  | failed {m : Chat×Event} {ms : List (Chat×Event)} {x y : Choices}
      (hfails : (handleUpdate b m.2.update (m.1.meeting m.2)).1≠[]) (h : Followed b ms x y) :
      Followed b (m::ms) x y

theorem events_followed {us : List Event}
    (halone : ∀ e∈us,∀ turn∈e.turns,∀ o∈turn.others,¬Concerns b.effectiveUser.telegramId o)
    (hknown : Knows (b.site c.past) b.effectiveUser.telegramId userId) :
    Followed b (moments (Chat.after b) c us) (b.choices c.past userId)
      (b.choices (us.foldl (Chat.after b) c).past userId) := by
  induction us generalizing c with
  | nil => exact .nil _
  | cons e us ih =>
    obtain ⟨hnext,hwhich⟩ := event_makes (halone e List.mem_cons_self) hknown
    have hlater := ih (fun e' he => halone e' (List.mem_cons_of_mem _ he)) hnext.known
    rcases hwhich with hmakes|⟨hfails,hsame⟩
    · rw [hmakes] at hlater
      exact .heeded hlater
    · rw [hsame] at hlater
      exact .failed hfails hlater

/-- Whatever a user does in the chat, and whatever becomes of it, the settings are what the updates
make of them one after another: a mode that is pressed, a category that is turned over, a domain
that was asked for. Buttons, commands and texts for other things leave them as they are, and what
fails has its whole effect or none. -/
theorem settings_followed (b : Party) (past : List Occasion) (es us : List Event) {userId : Id}
    (hknown : Knows (b.site (converse b past es).past) b.effectiveUser.telegramId userId)
    (halone : ∀ e∈us,∀ turn∈e.turns,∀ o∈turn.others,¬Concerns b.effectiveUser.telegramId o) :
    Followed b (moments (Chat.after b) (converse b past es) us)
      (b.choices (converse b past es).past userId)
      (b.choices (converse b past (es++us)).past userId) := by
  have hrun : converse b past (es++us)=us.foldl (Chat.after b) (converse b past es) :=
    List.foldl_append
  rw [hrun]
  exact events_followed halone hknown

end

/-- A category is turned over, the devices do not come through, and a domain is added, of which the
user does not hear. -/
def settingsChat : List Event := [
  pressed (.category 3),
  ⟨.callback "menu:devices",[],[]⟩,
  pressed .addDomain,
  ⟨.text "A.b",[⟨[],quiet 0,.lost⟩],[]⟩]

theorem settings_followed_domain :
    let chat := converse sampleParty workOpening []
    Followed sampleParty (moments (Chat.after sampleParty) chat settingsChat)
      (sampleParty.choices chat.past 2)
      (sampleParty.choices (converse sampleParty workOpening ([]++settingsChat)).past 2) ∧
    (sampleParty.choices (converse sampleParty workOpening ([]++settingsChat)).past 2).route "a.b"=
      some .vpn := by
  have halone : ∀ e∈settingsChat,∀ turn∈e.turns,∀ o∈turn.others,¬Concerns 77 o := by
    simp [settingsChat,pressed,swift]
  exact ⟨settings_followed sampleParty workOpening [] settingsChat knows_work halone,
    by decide +kernel⟩

end VpnService.Bot
