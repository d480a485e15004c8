import VpnService.Bot.Conversation

namespace VpnService.Bot

open Backend

theorem readDigits_toDigits (n : Nat) : Agent.readDigits 0 true (Nat.toDigits 10 n)=some n := by
  have hdigit : ∀ c∈Nat.toDigits 10 n,c.isDigit=true := fun c hc =>
    Nat.isDigit_of_mem_toDigits (by decide) (by decide) hc
  have hvalue : Nat.ofDigitChars 10 (Nat.toDigits 10 n) 0=n := Nat.ofDigitChars_ten_toDigits
  cases hcs : Nat.toDigits 10 n with
  | nil => exact absurd hcs Nat.toDigits_ne_nil
  | cons c cs =>
    rw [hcs] at hdigit hvalue
    have hc := hdigit c List.mem_cons_self
    rw [Agent.readDigits,if_pos hc,
      Agent.readDigits_digits _ _ fun x hx => hdigit x (List.mem_cons_of_mem c hx)]
    exact congrArg some hvalue

/-- The printed digits of a number, behind a sign if it is negative. -/
theorem toList_print (id : Int) : (toString id).toList=
    (if 0≤ id then [] else ['-'])++Nat.toDigits 10 id.natAbs := by
  rw [Int.toString_eq_repr,Int.repr_eq_if]
  split_ifs with h
  · have habs : id.toNat=id.natAbs := by omega
    rw [Nat.toList_repr,habs]
    rfl
  · rw [String.toList_append,Nat.toList_repr]
    have habs : (-id).toNat=id.natAbs := by omega
    rw [habs]
    rfl

theorem print_chars {id : Int} {c : Char} (h : c∈(toString id).toList) :
    c.isDigit=true ∨ c= '-' := by
  rw [toList_print] at h
  rcases List.mem_append.mp h with hsign|hdigit
  · split_ifs at hsign
    · cases hsign
    · exact Or.inr (List.mem_singleton.mp hsign)
  · exact Or.inl (Nat.isDigit_of_mem_toDigits (by decide) (by decide) hdigit)

/-- A number that `int` can read, which has not more than 4300 digits. -/
def Readable (id : Int) : Prop := (Nat.toDigits 10 id.natAbs).length≤Agent.maxStrDigits

/-- What an f-string prints `int` reads back. -/
theorem parseInt_print {id : Int} (h : Readable id) : Agent.parseInt (toString id)=some id := by
  unfold Readable at h
  by_cases hnonneg : 0≤ id
  · obtain ⟨n,rfl⟩ := Int.eq_ofNat_of_zero_le hnonneg
    have hprint : toString (n : Int)=toString n := rfl
    have hshort : ¬(Nat.toDigits 10 n).length>Agent.maxStrDigits := not_lt.mpr h
    rw [hprint,Agent.parseInt_toString,if_neg hshort]
  · have hlist : (toString id).toList= '-'::Nat.toDigits 10 id.natAbs := by
      rw [toList_print,if_neg hnonneg]
      rfl
    have hdigit : ∀ c∈Nat.toDigits 10 id.natAbs,c.isDigit=true := fun c hc =>
      Nat.isDigit_of_mem_toDigits (by decide) (by decide) hc
    have hlast : ∀ cs : List Char,(∀ c∈cs,c.isDigit=true) →
        (cs++['-']).dropWhile Agent.isSpace=cs++['-'] := by
      intro cs hcs
      cases cs with
      | nil => rfl
      | cons c cs => simp [Agent.not_isSpace_of_isDigit (hcs c List.mem_cons_self)]
    have hstripped : (((toString id).toList.dropWhile Agent.isSpace).reverse.dropWhile
        Agent.isSpace).reverse= '-'::Nat.toDigits 10 id.natAbs := by
      have hfirst : ('-'::Nat.toDigits 10 id.natAbs).dropWhile Agent.isSpace=
          '-'::Nat.toDigits 10 id.natAbs := rfl
      rw [hlist,hfirst,List.reverse_cons,
        hlast _ fun c hc => hdigit c (List.mem_reverse.mp hc),List.reverse_append,
        List.reverse_reverse]
      rfl
    have hfilter : ('-'::Nat.toDigits 10 id.natAbs).filter Char.isDigit=
        Nat.toDigits 10 id.natAbs := by
      rw [List.filter_cons_of_neg (by decide)]
      exact List.filter_eq_self.mpr hdigit
    have habs : -(id.natAbs : Int)=id := by omega
    unfold Agent.parseInt
    simp only [hstripped,hfilter]
    rw [if_neg (not_lt.mpr h),readDigits_toDigits]
    exact congrArg some habs

/-- A printed number holds none of the characters between the parts of a button's data. -/
theorem colon_of_print (id : Int) : ':' ∉(toString id).toList := by
  intro h
  rcases print_chars h with hdigit|hsign
  · cases hdigit
  · cases hsign

/-- What a button for one device does. -/
inductive DeviceAction
  | manage | reissue | disable | enable | revoke | viewLink | rotateLink
  deriving DecidableEq

/-- What the buttons of the bot are for. -/
inductive Target
  | mainMenu | profile | servers | subscription | devices | smartVpn | support
  | newDevice | newWith (protocol : VpnProtocol) | newOn (serverId : Id)
  | device (action : DeviceAction) (deviceId : Id)
  | plan (planId : Id)
  | mode (mode : RoutingMode)
  | categories | category (categoryId : Id) | addDomain
  deriving DecidableEq

/-- What stands before the last colon of a button for a device. -/
def DeviceAction.words : DeviceAction → String
  | .manage => "device:manage"
  | .reissue => "device:reissue"
  | .disable => "device:disable"
  | .enable => "device:enable"
  | .revoke => "device:revoke"
  | .viewLink => "device:sublink:view"
  | .rotateLink => "device:sublink:rotate"

/-- The data the keyboards give such a button. -/
def Target.data : Target → String
  | .mainMenu => "menu:main"
  | .profile => "menu:profile"
  | .servers => "menu:servers"
  | .subscription => "menu:subscription"
  | .devices => "menu:devices"
  | .smartVpn => "menu:smart"
  | .support => "menu:support"
  | .newDevice => "device:new"
  | .newWith .wireguard => "device:new:proto:wireguard"
  | .newWith .vless => "device:new:proto:vless"
  | .newOn serverId => dataOf "device:new:" serverId
  | .device action deviceId => dataOf (action.words++":") deviceId
  | .plan planId => dataOf "plan:buy:" planId
  | .mode .fullVpn => "smart:mode:full_vpn"
  | .mode .smartVpn => "smart:mode:smart_vpn"
  | .categories => "smart:categories"
  | .category categoryId => dataOf "smart:cat:" categoryId
  | .addDomain => "smart:add_domain"

/-- Its number, if it has one, is one that can be read. -/
def Target.Readable : Target → Prop
  | .newOn id | .device _ id | .plan id | .category id => Bot.Readable id
  | _ => True

/-- Neither text begins with the other one. -/
def apart (s t : String) : Bool :=
  !s.toList.isPrefixOf t.toList && !t.toList.isPrefixOf s.toList

def Pattern.text : Pattern → String
  | .whole text | .start text => text

theorem prefix_apart {s t : List Char} {u : List Char} (hs : s <+: u) (ht : t <+: u) :
    s <+: t ∨ t <+: s := by
  rcases le_total s.length t.length with h|h
  · exact Or.inl (List.prefix_of_prefix_length_le hs ht h)
  · exact Or.inr (List.prefix_of_prefix_length_le ht hs h)

/-- A pattern never matches data that begin with a text apart from its own. -/
theorem matches_apart {p : Pattern} {purpose : String} (h : apart p.text purpose=true)
    (rest : String) : p.matches (purpose++rest)=false := by
  simp only [apart,Bool.and_eq_true,Bool.not_eq_true',← Bool.not_eq_true,
    List.isPrefixOf_iff_prefix] at h
  have hpurpose : ∀ {u : List Char},purpose.toList <+: u → ¬p.text.toList <+: u := by
    intro u hu hp
    rcases prefix_apart hp hu with hfirst|hsecond
    · exact h.1 hfirst
    · exact h.2 hsecond
  have hdata : purpose.toList <+: (purpose++rest).toList := by
    rw [String.toList_append]
    exact List.prefix_append _ _
  cases p with
  | whole text =>
    have hequal : purpose++rest≠text := by
      rintro rfl
      exact hpurpose hdata (List.prefix_refl _)
    have hline : purpose++rest≠text++"\n" := by
      intro heq
      rw [heq,String.toList_append] at hdata
      exact hpurpose hdata (List.prefix_append _ _)
    simp [Pattern.matches,hequal,hline]
  | start text =>
    rw [Bool.eq_false_iff]
    intro hmatch
    exact hpurpose hdata (List.isPrefixOf_iff_prefix.mp hmatch)

/-- The first pattern that matches decides. -/
theorem route_start (before after : List (Pattern×Callback)) {text purpose rest : String}
    {k : Callback} (h : callbackHandlers=before++(.start text,k)::after)
    (hbefore : ∀ x∈before,x.1.matches (purpose++rest)=false)
    (htext : text.toList <+: purpose.toList) : route (purpose++rest)=some k := by
  have hfound : callbackHandlers.find? (fun x => x.1.matches (purpose++rest))=
      some (.start text,k) := by
    rw [List.find?_eq_some_iff_append]
    refine ⟨?_,before,after,h,fun x hx => ?_⟩
    · show text.toList.isPrefixOf (purpose++rest).toList=true
      rw [List.isPrefixOf_iff_prefix,String.toList_append]
      exact htext.trans (List.prefix_append _ _)
    · rw [hbefore x hx]
      rfl
  unfold route
  rw [hfound]
  rfl

/-- Where all patterns before the one with the button's words are apart from them. -/
theorem route_apart (n : Nat) {purpose : String} {k : Callback}
    (h : callbackHandlers=callbackHandlers.take n++(.start purpose,k)::callbackHandlers.drop (n+1))
    (hapart : ∀ x∈callbackHandlers.take n,apart x.1.text purpose=true) (rest : String) :
    route (purpose++rest)=some k :=
  route_start _ _ h (fun x hx => matches_apart (hapart x hx) rest) (List.prefix_refl _)

/-- The handler of the protocol's buttons does not take those of a server. -/
theorem route_newOn (serverId : Id) : route (dataOf "device:new:" serverId)=some .deviceNew := by
  have hproto : (Pattern.start "device:new:proto:").matches (dataOf "device:new:" serverId)=
      false := by
    rw [Bool.eq_false_iff]
    intro hmatch
    obtain ⟨tail,htail⟩ := List.isPrefixOf_iff_prefix.mp hmatch
    have hdata : (dataOf "device:new:" serverId).toList=
        "device:new:".toList++(toString serverId).toList := String.toList_append
    have hproto : "device:new:proto:".toList="device:new:".toList++"proto:".toList := by decide
    rw [hdata,hproto,List.append_assoc] at htail
    have hprint : "proto:".toList++tail=(toString serverId).toList :=
      List.append_cancel_left htail
    have hp : 'p' ∈(toString serverId).toList := hprint ▸ List.mem_append_left _ (by decide)
    rcases print_chars hp with h|h
    · cases h
    · cases h
  have hmenu : ∀ x∈callbackHandlers.take 7,apart x.1.text "device:new:"=true := by
    decide +kernel
  have hhandlers : callbackHandlers=callbackHandlers.take 8++
      (.start "device:new",.deviceNew)::callbackHandlers.drop 9 := rfl
  refine route_start _ _ hhandlers (fun x hx => ?_) (by decide)
  have hsplit : callbackHandlers.take 8=
      callbackHandlers.take 7++[(.start "device:new:proto:",.deviceNewProtocol)] := rfl
  rw [hsplit] at hx
  rcases List.mem_append.mp hx with hx|hx
  · exact matches_apart (hmenu x hx) _
  · rw [List.mem_singleton.mp hx]
    exact hproto

def DeviceAction.callback : DeviceAction → Callback
  | .manage => .deviceManage
  | .reissue => .deviceReissue
  | .disable => .deviceDisable
  | .enable => .deviceEnable
  | .revoke => .deviceRevoke
  | .viewLink => .deviceSubscriptionLinkView
  | .rotateLink => .deviceSubscriptionLinkRotate

def Target.callback : Target → Callback
  | .mainMenu => .mainMenu
  | .profile => .profile
  | .servers => .servers
  | .subscription => .subscriptionMenu
  | .devices => .devicesList
  | .smartVpn => .smartVpnMenu
  | .support => .supportMenu
  | .newDevice | .newOn _ => .deviceNew
  | .newWith _ => .deviceNewProtocol
  | .device action _ => action.callback
  | .plan _ => .buyPlan
  | .mode _ => .smartVpnSetMode
  | .categories => .smartVpnCategories
  | .category _ => .smartVpnToggleCategory
  | .addDomain => .smartVpnAddDomainPrompt

theorem route_device (action : DeviceAction) (deviceId : Id) :
    route (dataOf (action.words++":") deviceId)=some action.callback := by
  cases action with
  | manage => exact route_apart 9 rfl (by decide +kernel) _
  | reissue => exact route_apart 10 rfl (by decide +kernel) _
  | disable => exact route_apart 11 rfl (by decide +kernel) _
  | enable => exact route_apart 12 rfl (by decide +kernel) _
  | revoke => exact route_apart 13 rfl (by decide +kernel) _
  | viewLink => exact route_apart 14 rfl (by decide +kernel) _
  | rotateLink => exact route_apart 15 rfl (by decide +kernel) _

/-- Every button is routed to the handler of what it is for. -/
theorem route_data (t : Target) : route t.data=some t.callback := by
  cases t with
  | newOn serverId => exact route_newOn serverId
  | device action deviceId => exact route_device action deviceId
  | plan planId => exact route_apart 16 rfl (by decide +kernel) _
  | category categoryId => exact route_apart 19 rfl (by decide +kernel) _
  | newWith protocol => cases protocol <;> decide +kernel
  | mode mode => cases mode <;> decide +kernel
  | _ => decide +kernel

theorem parts_dataOf (words : String) (id : Id) :
    parts (dataOf (words++":") id)=parts words++[toString id] := by
  have hdata : (dataOf (words++":") id).toList=words.toList++ ':'::(toString id).toList := by
    unfold dataOf
    rw [String.toList_append,String.toList_append,List.append_assoc]
    rfl
  have hprint : (toString id).toList.splitOnP (fun c => c== ':')=[(toString id).toList] := by
    refine List.splitOnP_eq_singleton fun c hc => ?_
    have hcolon : c≠ ':' := by
      rintro rfl
      exact colon_of_print id hc
    simpa using hcolon
  unfold parts
  rw [hdata,List.splitOn_eq_splitOnP,List.splitOn_eq_splitOnP,
    List.splitOnP_append_cons _ _ (by simp),hprint,List.map_append,List.map_singleton,
    String.ofList_toList]

theorem parts_words {purpose words : String} (h : purpose=words++":") (id : Id) :
    (parts (dataOf purpose id)).getLast?=some (toString id) := by
  rw [h,parts_dataOf,List.getLast?_concat]

section

variable (b : Party)

open Dialogue

/-- What is done for a button, without its data. -/
def Target.press (t : Target) : Dialogue Unit :=
  let u := Update.callback t.data
  match t with
  | .mainMenu => mainMenuCallback b u
  | .profile => profileCallback b u
  | .servers => serversCallback b u
  | .subscription => subscriptionMenuCallback b u
  | .devices => devicesListCallback b u
  | .smartVpn => smartVpnMenuCallback b u
  | .support => Dialogue.supportMenuCallback u
  | .newDevice => replace protocolChoiceKeyboard
  | .newWith .wireguard => askForName none "wireguard"
  | .newWith .vless => askForName none "vless"
  | .newOn serverId => askForName (some serverId) "wireguard"
  | .device .manage deviceId => deviceManageCallback b deviceId
  | .device .reissue deviceId => deviceReissueCallback b deviceId
  | .device .disable deviceId => do
    disableDevice b deviceId
    remark
    deviceManageCallback b deviceId
  | .device .enable deviceId => do
    enableDevice b deviceId
    remark
    deviceManageCallback b deviceId
  | .device .revoke deviceId => deviceRevokeCallback b u deviceId
  | .device .viewLink deviceId => deviceSubscriptionLinkViewCallback b deviceId
  | .device .rotateLink deviceId => deviceSubscriptionLinkRotateCallback b deviceId
  | .plan planId => buyPlanCallback b planId
  | .mode m => do
    putMode b m
    remark
    smartVpnMenuCallback b u
  | .categories => smartVpnCategoriesCallback b u
  | .category categoryId => smartVpnToggleCategoryCallback b u categoryId
  | .addDomain => Dialogue.smartVpnAddDomainPromptCallback

theorem number_print {id : Id} (h : Readable id) : number (some (toString id))=pure id := by
  unfold number
  rw [Option.bind_some,parseInt_print h]
  rfl

theorem lastNumber_words {purpose words : String} (hp : purpose=words++":") {id : Id}
    (h : Readable id) : lastNumber (dataOf purpose id)=pure id := by
  unfold lastNumber
  rw [parts_words hp,number_print h]

theorem toggleDevice_device {action : DeviceAction} {deviceId : Id} (h : Readable deviceId)
    (call : Id → Dialogue Unit) :
    toggleDevice b call (dataOf (action.words++":") deviceId) deviceId=(do
      call deviceId
      remark
      deviceManageCallback b deviceId) := by
  unfold toggleDevice
  rw [lastNumber_words rfl h]
  rfl

theorem deviceNew_server {serverId : Id} (h : Readable serverId) :
    Dialogue.deviceNewCallback (dataOf "device:new:" serverId)=
      askForName (some serverId) "wireguard" := by
  have hparts : (parts (dataOf "device:new:" serverId))[2]?=some (toString serverId) := by
    have hsplit := parts_dataOf "device:new" serverId
    have hwords : parts "device:new"=["device","new"] := by decide +kernel
    rw [hwords] at hsplit
    have hpurpose : "device:new"++":"="device:new:" := by decide
    rw [hpurpose] at hsplit
    rw [hsplit]
    rfl
  unfold Dialogue.deviceNewCallback
  rw [hparts]
  show (number (some (toString serverId)) >>= fun serverId => _)=_
  rw [number_print h]
  rfl

theorem setMode_data (m : RoutingMode) :
    handlerOf b (Target.mode m).data .smartVpnSetMode=(Target.mode m).press b := by
  have hthird : readMode (thirdPart (Target.mode m).data)=some m := by
    cases m <;> decide +kernel
  show (setRoutingMode b (thirdPart (Target.mode m).data) >>= _)=_
  unfold setRoutingMode
  rw [hthird]
  rfl

/-- The handler that a button's data lead to does what the button is for. -/
theorem handlerOf_data {t : Target} (h : t.Readable) :
    handlerOf b t.data t.callback=t.press b := by
  cases t with
  | newDevice => rfl
  | newWith protocol => cases protocol <;> rfl
  | newOn serverId => exact deviceNew_server h
  | device action deviceId =>
    have hnumber : lastNumber (Target.device action deviceId).data=pure deviceId :=
      lastNumber_words rfl h
    cases action with
    | disable =>
      show (lastNumber _ >>= _)=_
      rw [hnumber]
      exact toggleDevice_device b h (disableDevice b)
    | enable =>
      show (lastNumber _ >>= _)=_
      rw [hnumber]
      exact toggleDevice_device b h (enableDevice b)
    | _ =>
      show (lastNumber _ >>= _)=_
      rw [hnumber]
      rfl
  | plan planId =>
    have hwords : "plan:buy:"="plan:buy"++":" := rfl
    show (lastNumber (dataOf "plan:buy:" planId) >>= _)=_
    rw [lastNumber_words hwords h]
    rfl
  | category categoryId =>
    have hwords : "smart:cat:"="smart:cat"++":" := rfl
    show (lastNumber (dataOf "smart:cat:" categoryId) >>= _)=_
    rw [lastNumber_words hwords h]
    rfl
  | mode m => exact setMode_data b m
  | _ => rfl

/-- What comes of a button, without its data. -/
def Target.answer (t : Target) (c : Chat) : List ChatError×Chat :=
  let done := guarded (t.press b) c
  (done.1.toList,done.2)

theorem handleUpdate_data {t : Target} (h : t.Readable) (c : Chat) :
    handleUpdate b (.callback t.data) c=t.answer b c := by
  unfold handleUpdate
  simp only [route_data,handlerOf_data b h]
  rfl

end

end VpnService.Bot
