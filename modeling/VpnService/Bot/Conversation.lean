import VpnService.Bot.BackendClient

namespace VpnService.Bot

open Backend

/-- `int(query.data.split(":")[-1])`, with which the handlers of buttons for one row begin. -/
def lastNumber (data : String) : Dialogue Int := number (parts data).getLast?

/-- `query.data.split(":", 2)[-1]`. -/
def thirdPart (data : String) : String :=
  match (parts data).drop 2 with
  | [] => (parts data).getLast?.getD ""
  | rest => ":".intercalate rest

/-- `reply` where a button was pressed: the message takes the place of that button's. -/
def replace (keyboard : Keyboard) : Dialogue Unit := do
  remark
  tell keyboard

def reply (keyboard : Keyboard) : Update → Dialogue Unit
  | .callback _ => replace keyboard
  | .command _ | .text _ => tell keyboard
  | .editedText _ => pure ()

namespace Dialogue

section

variable (b : Party)

def buildStatusText : Dialogue Unit := do
  getActiveSubscription b
  let _ ← listDevices b
  pure ()

def mainMenuCallback (u : Update) : Dialogue Unit := do
  buildStatusText b
  reply mainMenu u

def startCommand (u : Update) : Dialogue Unit := do
  authenticate b
  buildStatusText b
  reply mainMenu u

def profileCallback (u : Update) : Dialogue Unit := do
  getMe b
  reply backToMain u

def serversCallback (u : Update) : Dialogue Unit := do
  let servers ← listServers b
  reply (serversKeyboard servers) u

def subscriptionMenuCallback (u : Update) : Dialogue Unit := do
  getActiveSubscription b
  let plans ← listPlans b
  reply (plansKeyboard plans) u

def buyPlanCallback (planId : Id) : Dialogue Unit := do
  createPayment b planId
  remark
  tell backToMain

def devicesListCallback (u : Update) : Dialogue Unit := do
  let devices ← listDevices b
  reply (devicesKeyboard (devices.filter fun d => d.status≠.revoked)) u

def deviceManageCallback (deviceId : Id) : Dialogue Unit := do
  let devices ← listDevices b
  match devices.find? fun d => d.id=deviceId with
  | none => replace (devicesKeyboard [])
  | some device => replace (deviceManageKeyboard device)

/-- Asks for the name of a device on this server and with this protocol. -/
def askForName (serverId : Option Int) (protocol : String) : Dialogue Unit := do
  note (awaitDeviceName serverId protocol)
  remark
  remark

/-- The bare button only asks for the protocol. -/
def deviceNewCallback (data : String) : Dialogue Unit :=
  match (parts data)[2]? with
  | some text => do
    let serverId ← number (some text)
    askForName (some serverId) "wireguard"
  | none => do
    remark
    tell protocolChoiceKeyboard

def deviceNewProtocolCallback (data : String) : Dialogue Unit :=
  askForName none (chosenProtocol data)

def sendSubscriptionLink (deviceId : Id) : Dialogue Unit := do
  remark
  tell (subscriptionLinkKeyboard deviceId)

/-- The photo and the file of a WireGuard device, or one message, and then the link of a new
device. -/
def sendDeviceConfig : Option ProvisionedDevice → Dialogue Unit
  | none => pure ()
  | some result => do
    if result.device.protocol=.wireguard ∧ result.configText.isSome then do
      remark
      remark
    else remark
    if result.subscriptionUrl.isSome then sendSubscriptionLink result.device.id else pure ()

def deviceReissueCallback (deviceId : Id) : Dialogue Unit := do
  remark
  let result ← attempt (reissueDevice b deviceId)
  match result with
  | none => remark
  | some result => sendDeviceConfig result

/-- `_toggle_device`; the handler it ends with reads the number once more. -/
def toggleDevice (call : Id → Dialogue Unit) (data : String) (deviceId : Id) :
    Dialogue Unit := do
  call deviceId
  remark
  let deviceId ← lastNumber data
  deviceManageCallback b deviceId

def deviceRevokeCallback (u : Update) (deviceId : Id) : Dialogue Unit := do
  revokeDevice b deviceId
  remark
  devicesListCallback b u

def deviceSubscriptionLinkViewCallback (deviceId : Id) : Dialogue Unit := do
  let _ ← getSubscriptionLink b deviceId
  replace (subscriptionLinkKeyboard deviceId)

def deviceSubscriptionLinkRotateCallback (deviceId : Id) : Dialogue Unit := do
  remark
  let result ← attempt (createOrRotateSubscriptionLink b deviceId)
  match result with
  | none => remark
  | some _ => sendSubscriptionLink deviceId

def smartVpnMenuCallback (u : Update) : Dialogue Unit := do
  let settings ← getRoutingSettings b
  reply (smartVpnModeKeyboard settings.mode) u

def smartVpnSetModeCallback (u : Update) (mode : String) : Dialogue Unit := do
  setRoutingMode b mode
  remark
  smartVpnMenuCallback b u

def smartVpnCategoriesCallback (u : Update) : Dialogue Unit := do
  let settings ← getRoutingSettings b
  reply (smartVpnCategoriesKeyboard settings.categories settings.enabledCategoryIds) u

def smartVpnToggleCategoryCallback (u : Update) (categoryId : Id) : Dialogue Unit := do
  let settings ← getRoutingSettings b
  setCategoryPreference b categoryId (categoryId∉settings.enabledCategoryIds)
  remark
  smartVpnCategoriesCallback b u

def smartVpnAddDomainPromptCallback : Dialogue Unit := do
  note Bot.smartVpnAddDomainPromptCallback
  remark
  remark

def supportMenuCallback (u : Update) : Dialogue Unit := do
  note Bot.supportMenuCallback
  reply backToMain u

/-- The user data without the pending device. -/
def named (d : UserData) : UserData :=
  {d with
    awaitingDeviceName := false
    pendingDeviceServerId := none
    pendingDeviceProtocol := none}

def deviceNameMessageHandler (text : String) : Dialogue Unit := do
  let d ← getUserData
  if d.awaitingDeviceName then do
    note named
    let result ← attempt (createDevice b (deviceName text) (d.pendingDeviceServerId.getD none)
      (d.pendingDeviceProtocol.getD "wireguard"))
    match result with
    | none => tell mainMenu
    | some result => sendDeviceConfig result
  else pure ()

def customDomainMessageHandler (text : String) : Dialogue Unit := do
  let d ← getUserData
  if d.awaitingCustomDomain then do
    note fun d => {d with awaitingCustomDomain := false}
    addCustomDomain b (customDomain b.cfg.lower text)
    remark
  else pure ()

def supportMessageHandler (text : String) : Dialogue Unit := do
  let d ← getUserData
  if d.awaitingSupportMessage then do
    note fun d => {d with awaitingSupportMessage := false}
    createSupportTicket b (ticketSubject text) (ticketMessage text)
    reply backToMain (.text text)
  else pure ()

/-- The handler of a button's data. -/
def handlerOf (data : String) : Callback → Dialogue Unit :=
  let u := Update.callback data
  fun
  | .mainMenu => mainMenuCallback b u
  | .profile => profileCallback b u
  | .servers => serversCallback b u
  | .subscriptionMenu => subscriptionMenuCallback b u
  | .devicesList => devicesListCallback b u
  | .smartVpnMenu => smartVpnMenuCallback b u
  | .supportMenu => supportMenuCallback u
  | .deviceNewProtocol => deviceNewProtocolCallback data
  | .deviceNew => deviceNewCallback data
  | .deviceManage => lastNumber data >>= deviceManageCallback b
  | .deviceReissue => lastNumber data >>= deviceReissueCallback b
  | .deviceDisable => lastNumber data >>= toggleDevice b (disableDevice b) data
  | .deviceEnable => lastNumber data >>= toggleDevice b (enableDevice b) data
  | .deviceRevoke => lastNumber data >>= deviceRevokeCallback b u
  | .deviceSubscriptionLinkView => lastNumber data >>= deviceSubscriptionLinkViewCallback b
  | .deviceSubscriptionLinkRotate => lastNumber data >>= deviceSubscriptionLinkRotateCallback b
  | .buyPlan => lastNumber data >>= buyPlanCallback b
  | .smartVpnSetMode => smartVpnSetModeCallback b u (thirdPart data)
  | .smartVpnCategories => smartVpnCategoriesCallback b u
  | .smartVpnToggleCategory => lastNumber data >>= smartVpnToggleCategoryCallback b u
  | .smartVpnAddDomainPrompt => smartVpnAddDomainPromptCallback

/-- The slash commands of `build_application`. -/
def commandOf (u : Update) (name : String) : Option (Dialogue Unit) :=
  if name="start" then some (startCommand b u)
  else if name="profile" then some (profileCallback b u)
  else if name="vpn" then some (mainMenuCallback b u)
  else if name="servers" then some (serversCallback b u)
  else if name="subscription" then some (subscriptionMenuCallback b u)
  else if name="devices" then some (devicesListCallback b u)
  else if name="support" then some (supportMenuCallback u)
  else if name="smartvpn" then some (smartVpnMenuCallback b u)
  else none

/-- A handler of one group. When it raises, `on_error` answers in its place, as far as Telegram lets
it; what was raised is the result. -/
def guarded (m : Dialogue Unit) (c : Chat) : Option ChatError×Chat :=
  match m c with
  | (.ok (),d) => (none,d)
  | (.error e,d) => (some e,(remark d).2)

theorem guarded_within {R : Frame Chat} {m : Dialogue Unit} (hm : Within R m)
    (hremark : Within R remark) (c : Chat) : R.rel c (guarded m c).2 := by
  unfold guarded
  cases hrun : m c with
  | mk r d =>
    have hmoved := (hm c).rel_of_run hrun
    cases r with
    | ok _ => exact hmoved
    | error e => exact R.trans hmoved (hremark d)

/-- `process_update`: one handler for a button or a command, three for a text. -/
def handleUpdate (u : Update) (c : Chat) : List ChatError×Chat := match u with
  | .callback data => match route data with
    | none => ([],c)
    | some callback =>
      let done := guarded (handlerOf b data callback) c
      (done.1.toList,done.2)
  | .command name => match commandOf b u name with
    | none => ([],c)
    | some m =>
      let done := guarded m c
      (done.1.toList,done.2)
  | .text text =>
    let first := guarded (deviceNameMessageHandler b text) c
    let second := guarded (customDomainMessageHandler b text) first.2
    let third := guarded (supportMessageHandler b text) second.2
    (first.1.toList++second.1.toList++third.1.toList,third.2)
  | .editedText _ => ([],c)

end

end Dialogue

/-- An update, with what becomes of the calls and of the messages it leads to. -/
structure Event where
  update : Update
  turns : List Turn
  sends : List Outcome

/-- The chat as the handlers of an update find it. -/
def Chat.meeting (c : Chat) (e : Event) : Chat := {c with turns := e.turns,sends := e.sends}

section

variable (b : Party)

def Chat.after (c : Chat) (e : Event) : Chat := (Dialogue.handleUpdate b e.update (c.meeting e)).2

/-- Before the first update; the backend may have served others for long. -/
def Chat.opening (past : List Occasion) : Chat := ⟨past,[],[],.empty,[]⟩

def converse (past : List Occasion) (es : List Event) : Chat :=
  es.foldl (Chat.after b) (Chat.opening past)

end

end VpnService.Bot
