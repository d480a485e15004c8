import VpnService.Framework.Raises
import VpnService.Backend.Tunnels
import VpnService.Bot.Offers

namespace VpnService.Bot

open Backend

/-- An error that has nothing to do with how a button's data are written. -/
def ChatError.Legible (e : ChatError) : Prop := e≠.value ∧ e≠.invalid

section

variable {α : Type}

theorem tell_legible (keyboard : Keyboard) : Raises ChatError.Legible (tell keyboard) := by
  intro c e d h
  unfold tell at h
  cases hsend : c.sends.headD .answered with
  | answered =>
    rw [hsend] at h
    cases h
  | _ =>
    rw [hsend] at h
    cases h
    exact ⟨nofun,nofun⟩

theorem attempt_legible {m : Dialogue α} (h : Raises ChatError.Legible m) :
    Raises ChatError.Legible (attempt m) := by
  intro c e d hrun
  unfold attempt at hrun
  cases hm : m c with
  | mk r d' =>
    rw [hm] at hrun
    cases r with
    | ok a => cases hrun
    | error e' =>
      dsimp only at hrun
      split_ifs at hrun
      · cases hrun
      · cases hrun
        exact h c _ _ hm

variable (b : Party)

theorem request_legible (headers : Headers) (r : HttpRequest) :
    Raises ChatError.Legible (request b headers r) := by
  intro c e d h
  unfold request at h
  cases hturns : c.turns with
  | nil =>
    rw [hturns] at h
    cases h
    exact ⟨nofun,nofun⟩
  | cons turn turns =>
    rw [hturns] at h
    dsimp only at h
    cases hout : turn.outcome with
    | answered =>
      rw [hout] at h
      dsimp only at h
      split at h
      · cases h
      · cases h
        exact ⟨nofun,nofun⟩
    | _ =>
      rw [hout] at h
      cases h
      exact ⟨nofun,nofun⟩

theorem ask_legible (r : BotRequest) (f : BotResponse → α) :
    Raises ChatError.Legible (ask b r >>= fun a => pure (f a)) :=
  Raises.bind ((request_legible b _ _).bind fun _ => Raises.pure _) fun _ => Raises.pure _

theorem lookUp_legible (read : Database → α) : Raises ChatError.Legible (lookUp b read) := by
  intro c e d h
  unfold lookUp at h
  cases hturns : c.turns with
  | nil =>
    rw [hturns] at h
    cases h
    exact ⟨nofun,nofun⟩
  | cons turn turns =>
    rw [hturns] at h
    dsimp only at h
    cases hout : turn.outcome with
    | answered =>
      rw [hout] at h
      cases h
    | _ =>
      rw [hout] at h
      cases h
      exact ⟨nofun,nofun⟩

theorem getSubscriptionLink_legible (deviceId : Id) :
    Raises ChatError.Legible (getSubscriptionLink b deviceId) := by
  intro c e d h
  have hask : Raises ChatError.Legible (ask b (.device deviceId .getLink)) :=
    (request_legible b _ _).bind fun _ => Raises.pure _
  unfold getSubscriptionLink at h
  split at h
  · cases h
  · split_ifs at h
    · cases h
    · cases h
      exact ⟨nofun,nofun⟩
  · rename_i hrun
    cases h
    exact hask c _ _ hrun

theorem replace_legible (keyboard : Keyboard) : Raises ChatError.Legible (replace keyboard) :=
  (tell_legible _).bind fun _ => tell_legible _

theorem reply_legible (keyboard : Keyboard) (u : Update) :
    Raises ChatError.Legible (reply keyboard u) := by
  cases u with
  | callback data => exact replace_legible keyboard
  | command name => exact tell_legible keyboard
  | text text => exact tell_legible keyboard
  | editedText text => exact Raises.pure _

open Dialogue

theorem devicesListCallback_legible (u : Update) :
    Raises ChatError.Legible (devicesListCallback b u) :=
  (ask_legible b _ devicesRead).bind fun _ => reply_legible _ _

theorem deviceManageCallback_legible (deviceId : Id) :
    Raises ChatError.Legible (deviceManageCallback b deviceId) := by
  refine (ask_legible b _ devicesRead).bind fun ds => ?_
  cases ds.find? fun x => x.id=deviceId with
  | none => exact replace_legible _
  | some d => exact replace_legible _

theorem sendDeviceConfig_legible (r : Option ProvisionedDevice) :
    Raises ChatError.Legible (sendDeviceConfig r) := by
  cases r with
  | none => exact Raises.pure _
  | some p =>
    have hend : Raises ChatError.Legible (if p.subscriptionUrl.isSome then
        sendSubscriptionLink p.device.id else pure ()) :=
      Raises.ite (replace_legible _) (Raises.pure _)
    exact Raises.ite ((tell_legible _).bind fun _ => (tell_legible _).bind fun _ => hend)
      ((tell_legible _).bind fun _ => hend)

theorem smartVpnMenuCallback_legible (u : Update) :
    Raises ChatError.Legible (smartVpnMenuCallback b u) :=
  (ask_legible b _ settingsRead).bind fun _ => reply_legible _ _

theorem askForName_legible (serverId : Option Int) (protocol : String) :
    Raises ChatError.Legible (askForName serverId protocol) :=
  (Raises.change _).bind fun _ => (tell_legible _).bind fun _ => tell_legible _

/-- Nothing that is done for a button fails on the button's own data. -/
theorem press_legible (t : Target) : Raises ChatError.Legible (t.press b) := by
  have htoggle : ∀ r deviceId,Raises ChatError.Legible (do
      let _ ← ask b (.device deviceId r)
      remark
      deviceManageCallback b deviceId) := fun r deviceId =>
    Raises.bind ((request_legible b _ _).bind fun _ => Raises.pure _) fun _ =>
      (tell_legible _).bind fun _ => deviceManageCallback_legible b deviceId
  have hdone : ∀ r {f : Unit → Dialogue Unit},(∀ x,Raises ChatError.Legible (f x)) →
      Raises ChatError.Legible ((ask b r >>= fun _ => pure ()) >>= f) := fun r _ hf =>
    (ask_legible b r fun _ => ()).bind hf
  cases t with
  | mainMenu =>
    exact (hdone _ fun _ => (ask_legible b _ devicesRead).bind fun _ => Raises.pure _).bind
      fun _ => reply_legible _ _
  | profile => exact hdone _ fun _ => reply_legible _ _
  | servers => exact (lookUp_legible b _).bind fun _ => reply_legible _ _
  | subscription =>
    exact hdone _ fun _ => (lookUp_legible b _).bind fun _ => reply_legible _ _
  | devices => exact devicesListCallback_legible b _
  | smartVpn => exact smartVpnMenuCallback_legible b _
  | support => exact (Raises.change _).bind fun _ => reply_legible _ _
  | newDevice => exact replace_legible _
  | newWith protocol =>
    cases protocol with
    | wireguard => exact askForName_legible _ _
    | vless => exact askForName_legible _ _
  | newOn serverId => exact askForName_legible _ _
  | plan planId => exact hdone _ fun _ => (tell_legible _).bind fun _ => tell_legible _
  | mode m => exact hdone _ fun _ => (tell_legible _).bind fun _ => smartVpnMenuCallback_legible b _
  | categories => exact (ask_legible b _ settingsRead).bind fun _ => reply_legible _ _
  | category categoryId =>
    exact (ask_legible b _ settingsRead).bind fun _ => hdone _ fun _ => (tell_legible _).bind
      fun _ => (ask_legible b _ settingsRead).bind fun _ => reply_legible _ _
  | addDomain => exact (Raises.change _).bind fun _ => (tell_legible _).bind fun _ => tell_legible _
  | device action deviceId =>
    cases action with
    | manage => exact deviceManageCallback_legible b deviceId
    | reissue =>
      refine (tell_legible _).bind fun _ =>
        (attempt_legible (ask_legible b _ provisionedRead)).bind fun result => ?_
      cases result with
      | none => exact tell_legible _
      | some r => exact sendDeviceConfig_legible r
    | disable =>
      exact hdone _ fun _ => (tell_legible _).bind fun _ => deviceManageCallback_legible b _
    | enable =>
      exact hdone _ fun _ => (tell_legible _).bind fun _ => deviceManageCallback_legible b _
    | revoke =>
      exact hdone _ fun _ => (tell_legible _).bind fun _ => devicesListCallback_legible b _
    | viewLink => exact (getSubscriptionLink_legible b deviceId).bind fun _ => replace_legible _
    | rotateLink =>
      refine (tell_legible _).bind fun _ =>
        (attempt_legible (ask_legible b _ fun _ => ())).bind fun result => ?_
      cases result with
      | none => exact tell_legible _
      | some r => exact replace_legible _

theorem answer_legible (t : Target) (c : Chat) : ∀ e∈(t.answer b c).1,e.Legible := by
  intro e he
  unfold Target.answer guarded at he
  cases hm : t.press b c with
  | mk r d =>
    rw [hm] at he
    cases r with
    | ok _ => cases he
    | error e' =>
      cases List.mem_singleton.mp he
      exact press_legible b t c _ _ hm

/-- Whatever a user is ever shown to press: it was made from what the backend held for that user at
some time, and whenever it is pressed, what it is for is done; its own data never are what fails. -/
theorem buttons_lead (past : List Occasion) (es : List Event) {x : Button}
    (hx : x∈(converse b past es).shown) :
    ∃ t : Target,x.callbackData=t.data ∧
      (∃ earlier,earlier <+: (converse b past es).past ∧
        t.MadeFrom (b.site earlier).world.db b.effectiveUser.telegramId x.text) ∧
      (t.Readable → ∀ c,handleUpdate b (.callback x.callbackData) c=t.answer b c ∧
        ∀ e∈(t.answer b c).1,e≠.value ∧ e≠.invalid) := by
  rcases (converse_tracing past es).2 x hx with hnone|⟨t,hdata,hmade⟩
  · cases hnone
  · refine ⟨t,hdata,hmade,fun hread c => ⟨?_,answer_legible b t c⟩⟩
    rw [hdata]
    exact handleUpdate_data b hread c

end

/-- User 77, who speaks to the service that the first admin opened. -/
def sampleParty : Party :=
  ⟨sampleSettings,sampleAuth,sampleJwt,"internal",⟨77,none,none,none,none⟩⟩

/-- The backend does nothing else in between. -/
def swift : Turn := ⟨[],quiet 0,.answered⟩

def pressed (t : Target) : Event := ⟨.callback t.data,List.replicate 4 swift,[]⟩

/-- A device with a name is set up, and looked for in the list. -/
def phoneChat : List Event := [
  pressed (.newWith .wireguard),
  ⟨.text "phone",[swift],[]⟩,
  pressed .devices]

theorem buttons_lead_phone : ∃ t : Target,"device:manage:12"=t.data ∧
    (∃ earlier,earlier <+: (converse sampleParty siteOpening phoneChat).past ∧
      t.MadeFrom (sampleParty.site earlier).world.db 77 "🟢 phone") ∧
    (t.Readable → ∀ c,
      Dialogue.handleUpdate sampleParty (.callback "device:manage:12") c=t.answer sampleParty c ∧
      ∀ e∈(t.answer sampleParty c).1,e≠.value ∧ e≠.invalid) :=
  buttons_lead sampleParty siteOpening phoneChat (x := ⟨"🟢 phone","device:manage:12"⟩)
    (by decide +kernel)

/-- What a button asks for is carried out on the row it names, and for its user. -/
def Target.Reaches (cfg : Settings) (telegramId : Int) (s : Session) : Target → Prop
  | .device _ deviceId => ∃ user d,s.db.userByTelegramId telegramId=some user ∧
    d∈s.db.devices.rows ∧ d.id=deviceId ∧ d.userId=user.id ∧
    ∀ r,handleUser cfg user (.device deviceId r) s=
      (handleDevice cfg d r >>= fun a => pure (.core a)) s
  | .plan planId => ∃ p∈s.db.plans.rows,p.id=planId ∧
    ∀ user,handleUser cfg user (.createPayment planId none) s=
      (Backend.createPayment cfg user p none >>= fun x => pure (.paymentCreated x)) s
  | .category categoryId => ∃ user,s.db.userByTelegramId telegramId=some user ∧
    ∀ on,handleUser cfg user (.setMyCategory categoryId on) s=
      ((writePreference user.id categoryId on >>= fun _ => flush) >>= fun _ =>
        readMySettings user.id) s
  | .mode _ | .categories | .addDomain => ∃ user,s.db.userByTelegramId telegramId=some user
  | _ => True

section

variable {v : World} {s : Session} {telegramId : Int} {text : String} (cfg : Settings)

theorem getOwned_found {deviceId : Id} {user : User} {d : Device}
    (hd : s.db.devices.get? deviceId=some d) (howner : d.userId=user.id) :
    getOwned deviceId user.id s=(.ok d,s) := by
  have hfound : (s.db.devices.get? deviceId).filter (fun d => d.userId=user.id)=some d := by
    rw [hd]
    simp [howner]
  unfold getOwned
  rw [getDb_bind_run,hfound]
  rfl

/-- What a button was made from is still there later. -/
theorem Target.MadeFrom.reaches {t : Target} (h : t.MadeFrom v.db telegramId text)
    (hs : Enduring v s.toWorld) : t.Reaches cfg telegramId s := by
  cases t with
  | device action deviceId =>
    obtain ⟨user,d,huser,hd,howner,_⟩ := h
    obtain ⟨u,e,hu,he,hown⟩ := hs.belongs ⟨user,d,huser,hd,howner⟩
    refine ⟨u,e,hu,Store.mem_of_get? he,Store.key_of_get? he,hown,fun r => ?_⟩
    exact Eff.bind_run_ok (getOwned_found he hown)
  | plan planId =>
    obtain ⟨p,hp,hid,_⟩ := h
    have hget := Store.get?_of_mem v.db.plans hp
    obtain ⟨q,hq,_⟩ := hs.plans.get? id (fun _ => rfl) hget
    rw [hid] at hq
    refine ⟨q,Store.mem_of_get? hq,Store.key_of_get? hq,fun user => ?_⟩
    have hplan : getPlan planId s=(.ok q,s) := by
      unfold getPlan
      rw [getDb_bind_run,hq]
      rfl
    exact Eff.bind_run_ok hplan
  | category categoryId =>
    obtain ⟨user,c,huser,hc,hid,_⟩ := h
    obtain ⟨u,hu,_⟩ := hs.user huser
    have hget := Store.get?_of_mem v.db.routingCategories hc
    obtain ⟨x,hx,_⟩ := hs.categories.get? id (fun _ => rfl) hget
    rw [hid] at hx
    refine ⟨u,hu,fun on => ?_⟩
    have hset : Backend.setCategoryPreference u.id categoryId on s=
        (writePreference u.id categoryId on >>= fun _ => flush) s := by
      unfold Backend.setCategoryPreference
      rw [getDb_bind_run,hx]
      rfl
    show (Backend.setCategoryPreference u.id categoryId on >>= _) s=_
    rw [Eff.bind_run,Eff.bind_run,hset]
  | mode m =>
    obtain ⟨user,huser,_⟩ := h
    obtain ⟨u,hu,_⟩ := hs.user huser
    exact ⟨u,hu⟩
  | categories =>
    obtain ⟨user,huser,_⟩ := h
    obtain ⟨u,hu,_⟩ := hs.user huser
    exact ⟨u,hu⟩
  | addDomain =>
    obtain ⟨user,huser,_⟩ := h
    obtain ⟨u,hu,_⟩ := hs.user huser
    exact ⟨u,hu⟩
  | _ => trivial

end

/-- No button ever loses what it is for: whatever the backend goes through after a button was shown,
and for whomever, a request for its device, plan or category still finds it, the device with the
same user. -/
theorem buttons_stand (b : Party) (past : List Occasion) (es : List Event) {x : Button}
    (hx : x∈(converse b past es).shown) : ∃ t : Target,x.callbackData=t.data ∧
      ∀ later env,t.Reaches b.cfg b.effectiveUser.telegramId
        ⟨(b.site ((converse b past es).past++later)).world,env⟩ := by
  rcases (converse_tracing past es).2 x hx with hnone|⟨t,hdata,earlier,⟨between,hbetween⟩,hmade⟩
  · cases hnone
  · refine ⟨t,hdata,fun later env => hmade.reaches b.cfg ?_⟩
    rw [← hbetween,List.append_assoc]
    exact b.endures earlier (between++later)

theorem buttons_stand_phone : ∃ t : Target,"device:manage:12"=t.data ∧
    ∀ later env,t.Reaches sampleSettings 77
      ⟨(sampleParty.site ((converse sampleParty siteOpening phoneChat).past++later)).world,env⟩ :=
  buttons_stand sampleParty siteOpening phoneChat (x := ⟨"🟢 phone","device:manage:12"⟩)
    (by decide +kernel)

end VpnService.Bot
