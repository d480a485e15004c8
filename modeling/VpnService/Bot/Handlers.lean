import VpnService.Framework.Text
import VpnService.Agent.Auth

namespace VpnService.Bot

/-- What `context.user_data` holds of the free-text handlers; a flag that is missing is false, and
a pending server may be missing or none. -/
structure UserData where
  awaitingDeviceName : Bool
  pendingDeviceServerId : Option (Option Int)
  pendingDeviceProtocol : Option String
  awaitingCustomDomain : Bool
  awaitingSupportMessage : Bool
  deriving DecidableEq

def UserData.empty : UserData := ⟨false,none,none,false,false⟩

/-- What a free-text handler asks of the backend. -/
inductive BackendCall
  | createDevice (name : String) (serverId : Option Int) (protocol : String)
  | addCustomDomain (domain : String)
  | createSupportTicket (subject message : String)
  deriving DecidableEq

/-- The callbacks of the buttons. -/
inductive Callback
  | mainMenu | profile | servers | subscriptionMenu | devicesList | smartVpnMenu | supportMenu
  | deviceNewProtocol | deviceNew | deviceManage | deviceReissue | deviceDisable | deviceEnable
  | deviceRevoke | deviceSubscriptionLinkView | deviceSubscriptionLinkRotate | buyPlan
  | smartVpnSetMode | smartVpnCategories | smartVpnToggleCategory | smartVpnAddDomainPrompt
  deriving DecidableEq

/-- `^text$` or `^text`. -/
inductive Pattern
  | whole (text : String)
  | start (text : String)

/-- `re.match`; `$` also matches before a last newline. -/
def Pattern.matches (data : String) : Pattern → Bool
  | .whole text => data=text ∨ data=text++"\n"
  | .start text => text.toList.isPrefixOf data.toList

/-- The button handlers in the order `build_application` adds them. -/
def callbackHandlers : List (Pattern×Callback) := [
  (.whole "menu:main",.mainMenu),
  (.whole "menu:profile",.profile),
  (.whole "menu:servers",.servers),
  (.whole "menu:subscription",.subscriptionMenu),
  (.whole "menu:devices",.devicesList),
  (.whole "menu:smart",.smartVpnMenu),
  (.whole "menu:support",.supportMenu),
  (.start "device:new:proto:",.deviceNewProtocol),
  (.start "device:new",.deviceNew),
  (.start "device:manage:",.deviceManage),
  (.start "device:reissue:",.deviceReissue),
  (.start "device:disable:",.deviceDisable),
  (.start "device:enable:",.deviceEnable),
  (.start "device:revoke:",.deviceRevoke),
  (.start "device:sublink:view:",.deviceSubscriptionLinkView),
  (.start "device:sublink:rotate:",.deviceSubscriptionLinkRotate),
  (.start "plan:buy:",.buyPlan),
  (.start "smart:mode:",.smartVpnSetMode),
  (.whole "smart:categories",.smartVpnCategories),
  (.start "smart:cat:",.smartVpnToggleCategory),
  (.whole "smart:add_domain",.smartVpnAddDomainPrompt)]

/-- The first handler whose pattern matches. -/
def route (data : String) : Option Callback :=
  (callbackHandlers.find? fun h => h.1.matches data).map Prod.snd

/-- `data.split(":")`. -/
def parts (data : String) : List String := (data.toList.splitOn ':').map String.ofList

def awaitDeviceName (serverId : Option Int) (protocol : String) (d : UserData) : UserData :=
  {d with
    awaitingDeviceName := true
    pendingDeviceServerId := some serverId
    pendingDeviceProtocol := some protocol}

/-- `device_new_callback`. Without a server it only asks for the protocol, and a server that is no
number raises. -/
def deviceNewCallback (data : String) (d : UserData) : UserData :=
  match (parts data)[2]?.bind Agent.parseInt with
  | some serverId => awaitDeviceName (some serverId) "wireguard" d
  | none => d

def chosenProtocol (data : String) : String := (parts data).getLast?.getD ""

def deviceNewProtocolCallback (data : String) (d : UserData) : UserData :=
  awaitDeviceName none (chosenProtocol data) d

def smartVpnAddDomainPromptCallback (d : UserData) : UserData := {d with awaitingCustomDomain := true}

def supportMenuCallback (d : UserData) : UserData := {d with awaitingSupportMessage := true}

/-- The other buttons leave `user_data` alone. -/
def handleCallback (data : String) (d : UserData) : UserData := match route data with
  | some .deviceNew => deviceNewCallback data d
  | some .deviceNewProtocol => deviceNewProtocolCallback data d
  | some .smartVpnAddDomainPrompt => smartVpnAddDomainPromptCallback d
  | some .supportMenu => supportMenuCallback d
  | _ => d

/-- `text.strip()`. -/
def stripped (text : String) : List Char := strip text.toList

def deviceName (text : String) : String := String.ofList ((stripped text).take 64)

/-- `text.strip().lower()[:255]`, with `str.lower` as a parameter. -/
def customDomain (lower : String → String) (text : String) : String :=
  String.ofList ((lower (String.ofList (stripped text))).toList.take 255)

def ticketSubject (text : String) : String := String.ofList ((stripped text).take 60)

def ticketMessage (text : String) : String := String.ofList (stripped text)

def deviceNameMessageHandler (text : String) (d : UserData) : List BackendCall×UserData :=
  if d.awaitingDeviceName then
    ([.createDevice (deviceName text) (d.pendingDeviceServerId.getD none)
      (d.pendingDeviceProtocol.getD "wireguard")],
      {d with
        awaitingDeviceName := false
        pendingDeviceServerId := none
        pendingDeviceProtocol := none})
  else ([],d)

def customDomainMessageHandler (lower : String → String) (text : String) (d : UserData) :
    List BackendCall×UserData :=
  if d.awaitingCustomDomain then
    ([.addCustomDomain (customDomain lower text)],{d with awaitingCustomDomain := false})
  else ([],d)

def supportMessageHandler (text : String) (d : UserData) : List BackendCall×UserData :=
  if d.awaitingSupportMessage then
    ([.createSupportTicket (ticketSubject text) (ticketMessage text)],
      {d with awaitingSupportMessage := false})
  else ([],d)

/-- The three groups, one after the other; an error in one does not keep the next from running. -/
def handleText (lower : String → String) (text : String) (d : UserData) :
    List BackendCall×UserData :=
  let first := deviceNameMessageHandler text d
  let second := customDomainMessageHandler lower text first.2
  let third := supportMessageHandler text second.2
  (first.1++second.1++third.1,third.2)

/-- What a user can send: a button, a command, a text, or an edit of one. -/
inductive Update
  | callback (data : String)
  | command (name : String)
  | text (text : String)
  | editedText (text : String)
  deriving DecidableEq

/-- `process_update`. An edit has no `update.message`. -/
def processUpdate (lower : String → String) (d : UserData) : Update → List BackendCall×UserData
  | .callback data => ([],handleCallback data d)
  | .command name => ([],if name="support" then supportMenuCallback d else d)
  | .text text => handleText lower text d
  | .editedText _ => ([],d)

/-- The user data after these updates. -/
def userData (lower : String → String) (updates : List Update) : UserData :=
  updates.foldl (fun d u => (processUpdate lower d u).2) .empty

end VpnService.Bot
