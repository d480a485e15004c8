import VpnService.Backend.PaymentService
import VpnService.Bot.Handlers

namespace VpnService.Bot

open Backend

/-- An inline button; rows hold one button each. -/
structure Button where
  text : String
  callbackData : String
  deriving DecidableEq

abbrev Keyboard := List Button

def toMainMenu : Button := ⟨"⬅️ Главное меню","menu:main"⟩

def mainMenu : Keyboard := [
  ⟨"🔌 Подключиться","device:new"⟩,
  ⟨"🌍 Серверы","menu:servers"⟩,
  ⟨"🧭 Smart VPN","menu:smart"⟩,
  ⟨"📱 Мои устройства","menu:devices"⟩,
  ⟨"💳 Подписка","menu:subscription"⟩,
  ⟨"👤 Профиль","menu:profile"⟩,
  ⟨"🆘 Поддержка","menu:support"⟩]

def backToMain : Keyboard := [toMainMenu]

def protocolChoiceKeyboard : Keyboard := [
  ⟨"🔒 WireGuard","device:new:proto:wireguard"⟩,
  ⟨"⚡ VLESS","device:new:proto:vless"⟩,
  toMainMenu]

/-- Data of a row of the backend: what the button is for, and the number of the row. -/
def dataOf (purpose : String) (id : Id) : String := purpose++toString id

def statusIcon : DeviceStatus → String
  | .active => "🟢"
  | .disabled => "⏸️"
  | .revoked => "🔴"

def deviceButton (d : Device) : Button :=
  ⟨statusIcon d.status++" "++d.name,dataOf "device:manage:" d.id⟩

def devicesKeyboard (devices : List Device) : Keyboard :=
  devices.map deviceButton++[⟨"➕ Новое устройство","device:new"⟩,toMainMenu]

/-- Neither a revoked device nor one of another protocol than WireGuard has every button. -/
def deviceManageKeyboard (device : Device) : Keyboard :=
  (if device.protocol=.wireguard then
    [⟨"🔄 Переиздать конфиг",dataOf "device:reissue:" device.id⟩] else [])++
  [⟨"🔗 Ссылка подписки",dataOf "device:sublink:view:" device.id⟩]++
  (match device.status with
    | .active => [⟨"⏸️ Отключить",dataOf "device:disable:" device.id⟩]
    | .disabled => [⟨"▶️ Включить",dataOf "device:enable:" device.id⟩]
    | .revoked => [])++
  [⟨"🗑️ Удалить",dataOf "device:revoke:" device.id⟩,⟨"⬅️ Мои устройства","menu:devices"⟩]

def subscriptionLinkKeyboard (deviceId : Id) : Keyboard := [
  ⟨"🔄 Обновить ссылку",dataOf "device:sublink:rotate:" deviceId⟩,
  ⟨"⬅️ К устройству",dataOf "device:manage:" deviceId⟩]

def planButton (p : Plan) : Button :=
  ⟨p.name++" — "++numericText p.price++" "++p.currency++" / "++toString p.durationDays++"д",
    dataOf "plan:buy:" p.id⟩

def plansKeyboard (plans : List Plan) : Keyboard := plans.map planButton++[toMainMenu]

def ticked (on : Bool) (text : String) : String := if on then "✅ "++text else text

def smartVpnModeKeyboard (currentMode : RoutingMode) : Keyboard :=
  [⟨ticked (currentMode=.fullVpn) "FULL VPN","smart:mode:full_vpn"⟩,
    ⟨ticked (currentMode=.smartVpn) "SMART VPN","smart:mode:smart_vpn"⟩]++
  (if currentMode=.smartVpn then
    [⟨"🗂️ Категории","smart:categories"⟩,⟨"➕ Свой домен","smart:add_domain"⟩] else [])++
  [toMainMenu]

def categoryButton (enabled : Bool) (c : RoutingCategory) : Button :=
  ⟨(if enabled then "☑️" else "⬜️")++" "++c.name,dataOf "smart:cat:" c.id⟩

def smartVpnCategoriesKeyboard (categories : List RoutingCategory) (enabledIds : List Id) :
    Keyboard :=
  (categories.map fun c => categoryButton (c.id∈enabledIds) c)++[⟨"⬅️ Smart VPN","menu:smart"⟩]

def serverButton (s : VpnServer) : Button :=
  ⟨(if s.status=.online then "🟢" else "🔴")++" "++s.name++" ("++s.country++") — "++
    toString s.currentLoad++"/"++toString s.capacity,dataOf "device:new:" s.id⟩

def serversKeyboard (servers : List VpnServer) : Keyboard :=
  servers.map serverButton++[toMainMenu]

end VpnService.Bot
