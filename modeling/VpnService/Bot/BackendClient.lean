import VpnService.Backend.HttpApi
import VpnService.Bot.Menus
import Mathlib.Data.List.Sort

namespace VpnService.Bot

open Backend

/-- What ends a handler before its last line. The first three are a `BackendError`: an error of the
application, of what stands before it, and a body that does not fit its schema. The others come from
`httpx`, `int` and Telegram. -/
inductive ChatError
  | backend (e : AppError)
  | rejected
  | invalid
  | connection
  | value
  | telegram
  deriving DecidableEq

def ChatError.isBackendError : ChatError → Bool
  | .backend _ | .rejected | .invalid => true
  | .connection | .value | .telegram => false

/-- One call of the backend: what it serves for others before it, and what becomes of the call. -/
structure Turn where
  others : List Occasion
  env : Env
  outcome : Outcome

/-- The chat with one user: all that the backend has gone through so far, what becomes of the next
calls and of the next messages, and every button that stands or stood in the chat. -/
structure Chat where
  past : List Occasion
  turns : List Turn
  sends : List Outcome
  userData : UserData
  shown : List Button

abbrev Dialogue := Eff ChatError Chat

/-- The backend, the bot's `internal_service_token`, and the user in Telegram's words. -/
structure Party where
  cfg : Settings
  auth : AuthSettings
  jwt : Jwt
  internalServiceToken : String
  effectiveUser : TelegramAuthRequest

/-- `int(text)`. -/
def number (text : Option String) : Dialogue Int := Eff.orRaise .value (text.bind Agent.parseInt)

/-- A message to Telegram with its buttons. It may also stand there although the call failed. -/
def tell (buttons : Keyboard) : Dialogue Unit := fun c =>
  let sent := {c with sends := c.sends.tail}
  match c.sends.headD .answered with
  | .answered => (.ok (),{sent with shown := sent.shown++buttons})
  | .lost | .broken => (.error .telegram,{sent with shown := sent.shown++buttons})
  | .refused | .rejected => (.error .telegram,sent)

/-- `query.answer` and messages without buttons. -/
def remark : Dialogue Unit := tell []

def getUserData : Dialogue UserData := Eff.reads Chat.userData

def note (f : UserData → UserData) : Dialogue Unit :=
  Eff.change fun c => {c with userData := f c.userData}

/-- `try: … except BackendError`. -/
def attempt {α : Type} (m : Dialogue α) : Dialogue (Option α) := fun c => match m c with
  | (.ok a,d) => (.ok (some a),d)
  | (.error e,d) => if e.isBackendError then (.ok none,d) else (.error e,d)

section

variable (b : Party)

def Party.site (past : List Occasion) : Site := Site.initial.run b.cfg b.auth b.jwt past

/-- Waits for the next call to come through. -/
def Chat.waited (c : Chat) (turn : Turn) (turns : List Turn) : Chat :=
  {c with past := c.past++turn.others,turns := turns}

/-- `_request`. -/
def request (headers : Headers) (r : HttpRequest) : Dialogue HttpResponse := fun c =>
  match c.turns with
  | [] => (.error .connection,c)
  | turn::turns =>
    let waited := c.waited turn turns
    let o : Occasion := ⟨turn.env,.request headers r⟩
    let served := {waited with past := waited.past++[o]}
    match turn.outcome with
    | .refused => (.error .connection,waited)
    | .rejected => (.error .rejected,waited)
    | .lost => (.error .connection,served)
    | .broken => (.error .rejected,served)
    | .answered => match (serveSite b.cfg b.auth b.jwt (b.site waited.past) o).1 with
      | .ok a => (.ok a,served)
      | .error e => (.error (.backend e),served)

/-- A request for which the backend only reads what is open to everybody. -/
def lookUp {α : Type} (read : Database → α) : Dialogue α := fun c => match c.turns with
  | [] => (.error .connection,c)
  | turn::turns =>
    let waited := c.waited turn turns
    match turn.outcome with
    | .answered => (.ok (read (b.site waited.past).world.db),waited)
    | .rejected | .broken => (.error .rejected,waited)
    | .refused | .lost => (.error .connection,waited)

/-- `_headers`. -/
def Party.headers (telegramId : Option Int) : Headers :=
  ⟨none,some b.internalServiceToken,telegramId⟩

/-- The answer to a request for a user, which is always one of these. -/
def botAnswer : HttpResponse → BotResponse
  | .bot a => a
  | _ => .core .done

/-- A call with the user's id in its headers. -/
def ask (r : BotRequest) : Dialogue BotResponse := do
  let a ← request b (b.headers (some b.effectiveUser.telegramId)) (.bot r)
  pure (botAnswer a)

def authenticate : Dialogue Unit := do
  let _ ← request b (b.headers none)
    (.authenticateTelegram {b.effectiveUser with languageCode := none})
  pure ()

/-- `PlanService.list_active`, by price. -/
def activePlans (db : Database) : List Plan :=
  (db.plans.rows.filter fun p => p.active).insertionSort fun p q => p.price≤q.price

/-- `VPNServerService.list`. -/
def wireguardServers (db : Database) : List VpnServer :=
  (db.vpnServers.rows.filter fun s => s.protocol=.wireguard).take 1000

def listPlans : Dialogue (List Plan) := lookUp b activePlans

def listServers : Dialogue (List VpnServer) := lookUp b wireguardServers

def devicesRead : BotResponse → List Device
  | .core (.devices ds) => ds
  | _ => []

def listDevices : Dialogue (List Device) := do
  let a ← ask b .listDevices
  pure (devicesRead a)

def provisionedRead : BotResponse → Option ProvisionedDevice
  | .core (.provisioned p) => some p
  | _ => none

/-- `VPNProtocol(...)`. -/
def readProtocol (protocol : String) : Option VpnProtocol :=
  if protocol="wireguard" then some .wireguard
  else if protocol="vless" then some .vless
  else none

def createDevice (name : String) (serverId : Option Int) (protocol : String) :
    Dialogue (Option ProvisionedDevice) := do
  let protocol ← Eff.orRaise .invalid (readProtocol protocol)
  let a ← ask b (.createDevice name serverId protocol)
  pure (provisionedRead a)

def reissueDevice (deviceId : Id) : Dialogue (Option ProvisionedDevice) := do
  let a ← ask b (.device deviceId .reissue)
  pure (provisionedRead a)

def disableDevice (deviceId : Id) : Dialogue Unit := do
  let _ ← ask b (.device deviceId .disable)
  pure ()

def enableDevice (deviceId : Id) : Dialogue Unit := do
  let _ ← ask b (.device deviceId .enable)
  pure ()

def revokeDevice (deviceId : Id) : Dialogue Unit := do
  let _ ← ask b (.device deviceId .revoke)
  pure ()

/-- Where the device has no link, the answer is none. -/
def getSubscriptionLink (deviceId : Id) : Dialogue (Option BotResponse) := fun c =>
  match ask b (.device deviceId .getLink) c with
  | (.ok a,d) => (.ok (some a),d)
  | (.error (.backend e),d) =>
    if e.errorCode="subscription_link_not_found" then (.ok none,d) else (.error (.backend e),d)
  | (.error e,d) => (.error e,d)

def createOrRotateSubscriptionLink (deviceId : Id) : Dialogue Unit := do
  let _ ← ask b (.device deviceId .createOrRotateLink)
  pure ()

def settingsRead : BotResponse → RoutingSettings
  | .settings x => x
  | _ => ⟨.fullVpn,[],[],[]⟩

def getRoutingSettings : Dialogue RoutingSettings := do
  let a ← ask b .getMySettings
  pure (settingsRead a)

/-- `RoutingMode(...)`. -/
def readMode (mode : String) : Option RoutingMode :=
  if mode="full_vpn" then some .fullVpn
  else if mode="smart_vpn" then some .smartVpn
  else none

def putMode (mode : RoutingMode) : Dialogue Unit := do
  let _ ← ask b (.setMyMode mode)
  pure ()

def setRoutingMode (mode : String) : Dialogue Unit := do
  let mode ← Eff.orRaise .invalid (readMode mode)
  putMode b mode

def setCategoryPreference (categoryId : Id) (enabled : Bool) : Dialogue Unit := do
  let _ ← ask b (.setMyCategory categoryId enabled)
  pure ()

def addCustomDomain (domain : String) : Dialogue Unit := do
  let _ ← ask b (.addMyDomain domain .vpn)
  pure ()

def createPayment (planId : Id) : Dialogue Unit := do
  let _ ← ask b (.createPayment planId none)
  pure ()

def createSupportTicket (subject message : String) : Dialogue Unit := do
  let _ ← ask b (.createTicket subject message)
  pure ()

def getMe : Dialogue Unit := do
  let _ ← ask b .getMe
  pure ()

def getActiveSubscription : Dialogue Unit := do
  let _ ← ask b .getMyActiveSubscription
  pure ()

end

section

variable {b : Party} {R : Frame Chat} {α : Type}

/-- A call leaves the chat as it was, or after the others before it, or after the call itself. -/
theorem request_end {P : Chat → Prop} {headers : Headers} {r : HttpRequest} {c : Chat} (hnone : P c)
    (hwaited : ∀ turn turns,c.turns=turn::turns → P (c.waited turn turns))
    (hserved : ∀ turn turns,c.turns=turn::turns → P {c.waited turn turns with
      past := (c.waited turn turns).past++[⟨turn.env,.request headers r⟩]}) :
    P (request b headers r c).2 := by
  unfold request
  cases hturns : c.turns with
  | nil => exact hnone
  | cons turn turns =>
    dsimp only
    cases turn.outcome with
    | refused => exact hwaited turn turns hturns
    | rejected => exact hwaited turn turns hturns
    | lost => exact hserved turn turns hturns
    | broken => exact hserved turn turns hturns
    | answered =>
      dsimp only
      split
      · exact hserved turn turns hturns
      · exact hserved turn turns hturns

theorem lookUp_end {P : Chat → Prop} {read : Database → α} {c : Chat} (hnone : P c)
    (hwaited : ∀ turn turns,c.turns=turn::turns → P (c.waited turn turns)) :
    P (lookUp b read c).2 := by
  unfold lookUp
  cases hturns : c.turns with
  | nil => exact hnone
  | cons turn turns =>
    dsimp only
    cases turn.outcome with
    | _ => exact hwaited turn turns hturns

theorem attempt_within {m : Dialogue α} {c : Chat} (h : WithinAt R m c) :
    WithinAt R (attempt m) c := by
  unfold WithinAt attempt at *
  cases hm : m c with
  | mk r d =>
    rw [hm] at h
    cases r with
    | ok a => exact h
    | error e =>
      dsimp only
      split_ifs
      · exact h
      · exact h

theorem getSubscriptionLink_within {deviceId : Id}
    (h : Within R (ask b (.device deviceId .getLink))) :
    Within R (getSubscriptionLink b deviceId) := by
  intro c
  have hask := h c
  unfold WithinAt getSubscriptionLink
  split
  · rename_i hrun
    exact hask.rel_of_run hrun
  · rename_i e d hrun
    split_ifs
    · exact hask.rel_of_run hrun
    · exact hask.rel_of_run hrun
  · rename_i hrun
    exact hask.rel_of_run hrun

end

end VpnService.Bot
