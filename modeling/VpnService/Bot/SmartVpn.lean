import VpnService.Bot.Presses

namespace VpnService.Bot

open Backend Dialogue

/-- A request for this user. -/
def Concerns (telegramId : Int) (o : Occasion) : Prop :=
  ∃ headers r,o.happening=.request headers (.bot r) ∧ headers.xTelegramUserId=some telegramId

section

variable {cfg : Settings} {auth : AuthSettings} {jwt : Jwt} {site : Site} {telegramId : Int}
  {userId : Id}

theorem site_choices_request {env : Env} {headers : Headers} {r : BotRequest} {a : BotResponse}
    {user : User} (hs : site.Chosen)
    (hserve : (serveSite cfg auth jwt site ⟨env,.request headers (.bot r)⟩).1=.ok (.bot a))
    (hactor : headers.actor site.world.db=some user) :
    (site.after cfg auth jwt ⟨env,.request headers (.bot r)⟩).choices user.id=
      (site.choices user.id).apply cfg r := by
  have hasked : asked cfg auth jwt site ⟨env,.request headers (.bot r)⟩=[(user.id,r)] := by
    unfold asked
    rw [hserve]
    simp [askedOf,hactor]
  rw [(Site.after_choices cfg auth jwt hs _).2,hasked]
  exact Function.update_self _ _ _

/-- The user of a Telegram id. -/
def Knows (site : Site) (telegramId : Int) (userId : Id) : Prop :=
  ∃ user,site.world.db.userByTelegramId telegramId=some user ∧ user.id=userId

theorem Knows.run (h : Knows site telegramId userId) (os : List Occasion) :
    Knows (site.run cfg auth jwt os) telegramId userId := by
  obtain ⟨user,hu,hid⟩ := h
  obtain ⟨v,hv,hsame⟩ := (Site.run_endures cfg auth jwt site os).user hu
  exact ⟨v,hv,hsame.trans hid⟩

theorem asked_others (h : Knows site telegramId userId) {o : Occasion}
    (ho : ¬Concerns telegramId o) {x : Id×BotRequest} (hx : x∈asked cfg auth jwt site o) :
    x.1≠userId := by
  obtain ⟨user,hu,rfl⟩ := h
  unfold asked at hx
  cases hserve : (serveSite cfg auth jwt site o).1 with
  | error e =>
    rw [hserve] at hx
    cases hx
  | ok a =>
    rw [hserve] at hx
    cases hh : o.happening with
    | request headers r =>
      cases r with
      | bot r =>
        cases a with
        | bot a =>
          rw [hh] at hx
          obtain ⟨v,hv,rfl⟩ : ∃ v,headers.actor site.world.db=some v ∧ (v.id,r)=x := by
            simpa [askedOf] using hx
          intro hsame
          obtain ⟨t,ht,hfound⟩ := Option.bind_eq_some_iff.mp hv
          have hrow : v=user := Store.eq_of_key (List.mem_of_find?_eq_some hfound)
            (List.mem_of_find?_eq_some hu) hsame
          have hv' : v.telegramId=t := by simpa using List.find?_some hfound
          have hu' : user.telegramId=telegramId := by simpa using List.find?_some hu
          refine ho ⟨headers,r,hh,?_⟩
          rw [ht,← hv',hrow,hu']
        | _ =>
          rw [hh] at hx
          cases hx
      | _ =>
        rw [hh] at hx
        cases hx
    | _ =>
      rw [hh] at hx
      cases hx

theorem foldl_choose_others {xs : List (Id×BotRequest)} (h : ∀ x∈xs,x.1≠userId)
    (all : Id → Choices) : xs.foldl (choose cfg) all userId=all userId := by
  have hnone : xs.filter (fun x => x.1=userId)=[] :=
    List.filter_eq_nil_iff.mpr fun x hx => by simpa using h x hx
  rw [foldl_choose,hnone]
  rfl

theorem run_others (hs : site.Chosen) (h : Knows site telegramId userId) {os : List Occasion}
    (ho : ∀ o∈os,¬Concerns telegramId o) :
    (site.run cfg auth jwt os).choices userId=site.choices userId := by
  induction os generalizing site with
  | nil => rfl
  | cons o os ih =>
    obtain ⟨hchosen,hchoices⟩ := Site.after_choices cfg auth jwt hs o
    have hlater := ih hchosen (h.run [o]) fun o' ho' => ho o' (List.mem_cons_of_mem _ ho')
    have hnow : (site.after cfg auth jwt o).choices userId=site.choices userId := by
      rw [hchoices]
      exact foldl_choose_others (fun x hx => asked_others h (ho o List.mem_cons_self) hx) _
    exact hlater.trans hnow

end

/-- The chat with a user known to the backend, for whom nothing is asked elsewhere meanwhile. -/
structure Undisturbed (b : Party) (userId : Id) (c : Chat) : Prop where
  known : Knows (b.site c.past) b.effectiveUser.telegramId userId
  alone : ∀ turn∈c.turns,∀ o∈turn.others,¬Concerns b.effectiveUser.telegramId o

def Party.choices (b : Party) (past : List Occasion) (userId : Id) : Choices :=
  (b.site past).choices userId

section

variable {b : Party} {userId : Id} {c d : Chat}

theorem Party.site_append (past later : List Occasion) :
    b.site (past++later)=(b.site past).run b.cfg b.auth b.jwt later := List.foldl_append

theorem Party.site_chosen (past : List Occasion) : (b.site past).Chosen :=
  Site.run_chosen b.cfg b.auth b.jwt past

theorem waited_alone {turn : Turn} {turns : List Turn} (h : Undisturbed b userId c)
    (hturns : c.turns=turn::turns) : Undisturbed b userId (c.waited turn turns) ∧
      b.choices (c.waited turn turns).past userId=b.choices c.past userId := by
  have hothers : ∀ o∈turn.others,¬Concerns b.effectiveUser.telegramId o :=
    h.alone turn (hturns ▸ List.mem_cons_self)
  have hsite : b.site (c.waited turn turns).past=
      (b.site c.past).run b.cfg b.auth b.jwt turn.others := Party.site_append _ _
  refine ⟨⟨?_,fun turn' hturn => h.alone turn' (hturns ▸ List.mem_cons_of_mem _ hturn)⟩,?_⟩
  · rw [hsite]
    exact h.known.run turn.others
  · show (b.site _).choices userId=_
    rw [hsite]
    exact run_others (Party.site_chosen c.past) h.known hothers

theorem served_alone (h : Undisturbed b userId c) (o : Occasion) :
    Undisturbed b userId {c with past := c.past++[o]} := by
  refine ⟨?_,h.alone⟩
  rw [Party.site_append]
  exact h.known.run [o]

/-- A request that comes through is the only one for the user since the last one. -/
theorem ask_alone {r : BotRequest} {a : BotResponse} (h : Undisturbed b userId c)
    (hrun : ask b r c=(.ok a,d)) : Undisturbed b userId d ∧ d.shown=c.shown ∧
      b.choices d.past userId=(b.choices c.past userId).apply b.cfg r := by
  obtain ⟨x,e,hx,hend⟩ := Eff.bind_ok.mp hrun
  cases hend
  unfold request at hx
  cases hturns : c.turns with
  | nil =>
    rw [hturns] at hx
    cases hx
  | cons turn turns =>
    rw [hturns] at hx
    dsimp only at hx
    cases hout : turn.outcome with
    | answered =>
      rw [hout] at hx
      dsimp only at hx
      cases hserve : (serveSite b.cfg b.auth b.jwt (b.site (c.waited turn turns).past)
          ⟨turn.env,.request (b.headers (some b.effectiveUser.telegramId)) (.bot r)⟩).1 with
      | error e =>
        rw [hserve] at hx
        cases hx
      | ok y =>
        rw [hserve] at hx
        cases hx
        obtain ⟨user,a,t,rfl,hactor,_⟩ := serveSite_bot hserve
        obtain ⟨hwaited,hbefore⟩ := waited_alone h hturns
        refine ⟨served_alone hwaited _,rfl,?_⟩
        obtain ⟨v,hv,rfl⟩ := hwaited.known
        have hsame : user=v := Option.some.inj (hactor.symm.trans hv)
        subst hsame
        rw [← hbefore]
        show (b.site (_++[_])).choices user.id=_
        rw [Party.site_snoc]
        exact site_choices_request (Party.site_chosen _) hserve hactor
    | _ =>
      rw [hout] at hx
      cases hx

theorem tell_alone {keyboard : Keyboard} (h : Undisturbed b userId c)
    (hrun : tell keyboard c=(.ok (),d)) : Undisturbed b userId d ∧ d.past=c.past ∧
      d.shown=c.shown++keyboard := by
  unfold tell at hrun
  cases hsend : c.sends.headD .answered with
  | answered =>
    rw [hsend] at hrun
    cases hrun
    exact ⟨⟨h.known,h.alone⟩,rfl,rfl⟩
  | _ =>
    rw [hsend] at hrun
    cases hrun

theorem replace_alone {keyboard : Keyboard} (h : Undisturbed b userId c)
    (hrun : replace keyboard c=(.ok (),d)) : Undisturbed b userId d ∧ d.past=c.past ∧
      d.shown=c.shown++keyboard := by
  obtain ⟨_,e,he,hrun⟩ := Eff.bind_ok.mp hrun
  obtain ⟨hmiddle,hpast,hshown⟩ := tell_alone h he
  obtain ⟨hlast,hpast',hshown'⟩ := tell_alone hmiddle hrun
  refine ⟨hlast,hpast'.trans hpast,?_⟩
  rw [hshown',hshown,List.append_nil]

theorem getRoutingSettings_alone {x : RoutingSettings} (h : Undisturbed b userId c)
    (hrun : getRoutingSettings b c=(.ok x,d)) : Undisturbed b userId d ∧ d.shown=c.shown ∧
      b.choices d.past userId=b.choices c.past userId ∧ (b.choices d.past userId).Told x ∧
      x.categories=openCategories (b.site d.past).world.db := by
  obtain ⟨user,hu,htold,hcategories⟩ := getRoutingSettings_tells c x d hrun
  obtain ⟨a,e,ha,hend⟩ := Eff.bind_ok.mp hrun
  cases hend
  obtain ⟨hnext,hshown,hchoices⟩ := ask_alone h ha
  obtain ⟨v,hv,rfl⟩ := hnext.known
  have hsame : user=v := Option.some.inj (hu.symm.trans hv)
  subst hsame
  exact ⟨hnext,hshown,hchoices,htold,hcategories⟩

/-- The buttons that are answered with the settings. -/
def Target.ShowsSettings : Target → Prop
  | .smartVpn | .mode _ | .categories | .category _ => True
  | _ => False

/-- What a press makes of the settings. -/
def Target.tap : Target → Choices → Choices
  | .mode m,x => {x with mode := m}
  | .category categoryId,x =>
    {x with prefers := Function.update x.prefers categoryId (!x.prefers categoryId)}
  | _,x => x

/-- The settings on the screen. -/
def Target.screen (categories : List RoutingCategory) (x : Choices) : Target → Keyboard
  | .categories | .category _ =>
    (categories.map fun k => categoryButton (x.prefers k.id) k)++[⟨"⬅️ Smart VPN","menu:smart"⟩]
  | _ => smartVpnModeKeyboard x.mode

theorem Told.ticks {x : Choices} {settings : RoutingSettings} (h : x.Told settings) (k : Id) :
    decide (k∈settings.enabledCategoryIds)=x.prefers k :=
  Bool.eq_iff_iff.mpr (by simpa using h.categories k)

/-- What a finished press leaves: the settings it made, and the same on the screen. -/
structure Settled (b : Party) (userId : Id) (c d : Chat) (t : Target) : Prop where
  undisturbed : Undisturbed b userId d
  choices : b.choices d.past userId=t.tap (b.choices c.past userId)
  shown : d.shown=c.shown++
    t.screen (openCategories (b.site d.past).world.db) (b.choices d.past userId)

theorem smartVpnMenuCallback_settled {data : String} (h : Undisturbed b userId c)
    (hrun : smartVpnMenuCallback b (.callback data) c=(.ok (),d)) :
    Settled b userId c d .smartVpn := by
  obtain ⟨x,e,hx,hrun⟩ := Eff.bind_ok.mp hrun
  obtain ⟨hread,hshown,hchoices,htold,_⟩ := getRoutingSettings_alone h hx
  obtain ⟨hlast,hpast,hscreen⟩ := replace_alone hread hrun
  refine ⟨hlast,?_,?_⟩
  · rw [hpast]
    exact hchoices
  · rw [hscreen,hshown,hpast,htold.mode]
    rfl

theorem smartVpnCategoriesCallback_settled {data : String} (h : Undisturbed b userId c)
    (hrun : smartVpnCategoriesCallback b (.callback data) c=(.ok (),d)) :
    Settled b userId c d .categories := by
  obtain ⟨x,e,hx,hrun⟩ := Eff.bind_ok.mp hrun
  obtain ⟨hread,hshown,hchoices,htold,hcategories⟩ := getRoutingSettings_alone h hx
  obtain ⟨hlast,hpast,hscreen⟩ := replace_alone hread hrun
  refine ⟨hlast,?_,?_⟩
  · rw [hpast]
    exact hchoices
  · rw [hscreen,hshown,hpast]
    unfold smartVpnCategoriesKeyboard Target.screen
    simp only [Told.ticks htold,hcategories]

/-- A change of the settings, and then the screen with them. -/
theorem settled_after {r : BotRequest} {m : Dialogue Unit} {s t : Target}
    (h : Undisturbed b userId c)
    (hrun : ((ask b r >>= fun _ => pure ()) >>= fun _ => remark >>= fun _ => m) c=(.ok (),d))
    (hm : ∀ {e},Undisturbed b userId e → m e=(.ok (),d) → Settled b userId e d s)
    (hkeeps : ∀ x,s.tap x=x) (htap : (b.choices c.past userId).apply b.cfg r=
      t.tap (b.choices c.past userId)) (hscreen : ∀ ks x,s.screen ks x=t.screen ks x) :
    Settled b userId c d t := by
  obtain ⟨_,e,he,hrun⟩ := Eff.bind_ok.mp hrun
  obtain ⟨a,e',ha,hend⟩ := Eff.bind_ok.mp he
  cases hend
  obtain ⟨hasked,hshown,hchoices⟩ := ask_alone h ha
  obtain ⟨_,f,hf,hrun⟩ := Eff.bind_ok.mp hrun
  obtain ⟨hnext,hpast,hsame⟩ := tell_alone hasked hf
  have hlast := hm hnext hrun
  refine ⟨hlast.undisturbed,?_,?_⟩
  · rw [hlast.choices,hkeeps,hpast,hchoices,htap]
  · rw [hlast.shown,hsame,List.append_nil,hshown,hscreen]

theorem putMode_settled {m : RoutingMode} {data : String} (h : Undisturbed b userId c)
    (hrun : (putMode b m >>= fun _ => remark >>= fun _ =>
      smartVpnMenuCallback b (.callback data)) c=(.ok (),d)) : Settled b userId c d (.mode m) :=
  settled_after h hrun (fun he hm => smartVpnMenuCallback_settled he hm) (fun _ => rfl) rfl
    fun _ _ => rfl

theorem toggleCategory_settled {categoryId : Id} {data : String} (h : Undisturbed b userId c)
    (hrun : smartVpnToggleCategoryCallback b (.callback data) categoryId c=(.ok (),d)) :
    Settled b userId c d (.category categoryId) := by
  obtain ⟨x,e,hx,hrun⟩ := Eff.bind_ok.mp hrun
  obtain ⟨hread,hshown,hchoices,htold,_⟩ := getRoutingSettings_alone h hx
  have hflip : decide (categoryId∉x.enabledCategoryIds)=
      !(b.choices e.past userId).prefers categoryId := by
    rw [← Told.ticks htold categoryId,decide_not]
  rw [hflip] at hrun
  have hset : Settled b userId e d (.category categoryId) :=
    settled_after hread hrun (fun hf hm => smartVpnCategoriesCallback_settled hf hm)
      (fun _ => rfl) rfl fun _ _ => rfl
  exact ⟨hset.undisturbed,hchoices ▸ hset.choices,hshown ▸ hset.shown⟩

theorem press_settled {t : Target} (ht : t.ShowsSettings) (h : Undisturbed b userId c)
    (hrun : t.press b c=(.ok (),d)) : Settled b userId c d t := by
  cases t with
  | smartVpn => exact smartVpnMenuCallback_settled h hrun
  | categories => exact smartVpnCategoriesCallback_settled h hrun
  | mode m => exact putMode_settled h hrun
  | category categoryId => exact toggleCategory_settled h hrun
  | _ => cases ht

end

/-- A press of a button, with what becomes of the calls and of the messages it leads to. -/
structure Press where
  target : Target
  turns : List Turn
  sends : List Outcome

def Press.event (p : Press) : Event := ⟨.callback p.target.data,p.turns,p.sends⟩

/-- A button for the settings is pressed, nothing is asked for its user meanwhile, and the handler
comes to its end. -/
structure Press.Completes (b : Party) (c : Chat) (p : Press) : Prop where
  settings : p.target.ShowsSettings
  readable : p.target.Readable
  alone : ∀ turn∈p.turns,∀ o∈turn.others,¬Concerns b.effectiveUser.telegramId o
  done : (handleUpdate b p.event.update (c.meeting p.event)).1=[]

section

variable {b : Party} {userId : Id} {c : Chat}

def Chat.pressed (b : Party) (c : Chat) (p : Press) : Chat := c.after b p.event

theorem Press.Completes.settled {p : Press} (h : p.Completes b c)
    (hknown : Knows (b.site c.past) b.effectiveUser.telegramId userId) :
    Settled b userId c (c.pressed b p) p.target := by
  have hmeeting : Undisturbed b userId (c.meeting p.event) := ⟨hknown,h.alone⟩
  have hanswer : handleUpdate b p.event.update (c.meeting p.event)=
      p.target.answer b (c.meeting p.event) := handleUpdate_data b h.readable _
  have hdone := h.done
  show Settled b userId c (handleUpdate b p.event.update (c.meeting p.event)).2 p.target
  rw [hanswer] at hdone ⊢
  unfold Target.answer guarded at *
  cases hm : p.target.press b (c.meeting p.event) with
  | mk r d =>
    rw [hm] at hdone
    cases r with
    | ok u =>
      have hset := press_settled h.settings hmeeting hm
      exact ⟨hset.undisturbed,hset.choices,hset.shown⟩
    | error e => cases hdone

theorem presses_settled {ps : List Press}
    (hknown : Knows (b.site c.past) b.effectiveUser.telegramId userId)
    (h : Conducted (Press.Completes b) (Chat.pressed b) c ps) :
    Knows (b.site (ps.foldl (Chat.pressed b) c).past) b.effectiveUser.telegramId userId ∧
      b.choices (ps.foldl (Chat.pressed b) c).past userId=
        (ps.map Press.target).foldl (fun x t => t.tap x) (b.choices c.past userId) := by
  induction ps generalizing c with
  | nil => exact ⟨hknown,rfl⟩
  | cons p ps ih =>
    have hset := h.1.settled hknown
    obtain ⟨hlast,hchoices⟩ := ih hset.undisturbed.known h.2
    refine ⟨hlast,hchoices.trans ?_⟩
    rw [hset.choices]
    rfl

end

/-- While a user presses the buttons for the settings and nothing else is asked for that user, the
settings become what the presses make of them one after another: each press of a category turns that
one over, each press of a mode sets it, and neither touches anything else. The last screen, which
is that of the mode or that of the enabled categories, shows just these settings. -/
theorem settings_tapped (b : Party) (past : List Occasion) (es : List Event) (ps : List Press)
    (p : Press) {userId : Id}
    (hknown : Knows (b.site (converse b past es).past) b.effectiveUser.telegramId userId)
    (hpresses : Conducted (Press.Completes b) (Chat.pressed b) (converse b past es) (ps++[p])) :
    let before := converse b past (es++ps.map Press.event)
    let after := converse b past (es++(ps++[p]).map Press.event)
    b.choices after.past userId=((ps++[p]).map Press.target).foldl (fun x t => t.tap x)
      (b.choices (converse b past es).past userId) ∧
    after.shown=before.shown++p.target.screen (openCategories (b.site after.past).world.db)
      (b.choices after.past userId) := by
  have hrun : ∀ qs : List Press,converse b past (es++qs.map Press.event)=
      qs.foldl (Chat.pressed b) (converse b past es) := by
    intro qs
    unfold converse
    rw [List.foldl_append,List.foldl_map]
    rfl
  intro before after
  obtain ⟨hfirst,hlast⟩ := (conducted_append _ _ _).mp hpresses
  have hset := hlast.1.settled (presses_settled hknown hfirst).1
  have hafter : after=((ps.foldl (Chat.pressed b) (converse b past es))).pressed b p := by
    show converse b past (es++(ps++[p]).map Press.event)=_
    rw [hrun,List.foldl_append]
    rfl
  have hbefore : before=ps.foldl (Chat.pressed b) (converse b past es) := hrun ps
  refine ⟨?_,?_⟩
  · have hall := (presses_settled hknown hpresses).2
    rw [hafter,← hall,List.foldl_append]
    rfl
  · rw [hafter,hbefore]
    exact hset.shown

def workOpening : List Occasion :=
  [firstAdmin .superadmin,botWelcome,staffed (.createCategory "work" none)]

theorem knows_work : Knows (sampleParty.site workOpening) 77 2 := by
  have hfound : ((sampleParty.site workOpening).world.db.userByTelegramId 77).map User.id=
    some 2 := by decide +kernel
  exact Option.map_eq_some_iff.mp hfound

theorem swift_alone (n : Nat) : ∀ turn∈List.replicate n swift,∀ o∈turn.others,¬Concerns 77 o := by
  intro turn hturn o ho
  rw [List.eq_of_mem_replicate hturn] at ho
  cases ho

def tapOn (t : Target) : Press := ⟨t,List.replicate 4 swift,[]⟩

theorem settings_tapped_work :
    let chat := converse sampleParty workOpening
      (([tapOn (.category 3)]++[tapOn .categories]).map Press.event)
    (sampleParty.choices chat.past 2).prefers 3=true ∧ ⟨"☑️ work","smart:cat:3"⟩∈chat.shown := by
  have hreadable : (Nat.toDigits 10 3).length≤ Agent.maxStrDigits := by decide +kernel
  obtain ⟨hchoices,hshown⟩ := settings_tapped sampleParty workOpening [] [tapOn (.category 3)]
    (tapOn .categories) knows_work ⟨⟨trivial,hreadable,swift_alone 4,by decide +kernel⟩,
      ⟨trivial,trivial,swift_alone 4,by decide +kernel⟩,trivial⟩
  rw [List.nil_append] at hchoices hshown
  refine ⟨?_,?_⟩
  · rw [hchoices]
    decide +kernel
  · rw [hshown]
    exact List.mem_append_right _ (by decide +kernel)

end VpnService.Bot
