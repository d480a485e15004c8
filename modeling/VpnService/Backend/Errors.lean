import VpnService.Framework.Raises
import VpnService.Backend.Api

namespace VpnService.Backend

open Agent

/-- The errors whose texts are the same every time. -/
def fixedErrors : List AppError := [
  ⟨.notFound,"user_not_found","User not found"⟩,
  ⟨.permissionDenied,"user_blocked","User is blocked"⟩,
  ⟨.validation,"validation_error","Invalid request"⟩,
  ⟨.conflict,"plan_slug_taken","Plan slug already exists"⟩,
  ⟨.notFound,"plan_not_found","Plan not found"⟩,
  ⟨.validation,"plan_inactive","Plan is not active"⟩,
  ⟨.notFound,"subscription_not_found","Subscription not found"⟩,
  ⟨.permissionDenied,"not_your_subscription","Not your subscription"⟩,
  ⟨.validation,"invalid_promo_code","Invalid promo code"⟩,
  ⟨.validation,"promo_not_active","Promo code not yet valid"⟩,
  ⟨.validation,"promo_expired","Promo code expired"⟩,
  ⟨.validation,"promo_exhausted","Promo code exhausted"⟩,
  ⟨.validation,"promo_already_used","Promo code already used by this user"⟩,
  ⟨.unauthorized,"invalid_signature","Invalid webhook signature"⟩,
  ⟨.notFound,"payment_not_found","Payment not found for webhook event"⟩,
  ⟨.notFound,"payment_not_found","Payment not found"⟩,
  ⟨.validation,"payment_missing_subscription","Payment has no associated subscription"⟩,
  ⟨.validation,"payment_not_refundable","Only succeeded payments can be refunded"⟩,
  ⟨.notFound,"category_not_found","Routing category not found"⟩,
  ⟨.notFound,"profile_not_found","No routing profile generated yet"⟩,
  ⟨.notFound,"device_not_found","Device not found"⟩,
  ⟨.notFound,"vless_server_not_found","VLESS server not found"⟩,
  ⟨.notFound,"vless_server_not_found","VLESS server has no Reality configuration"⟩,
  ⟨.validation,"reissue_not_supported_for_protocol",
    "Reissue is not supported for VLESS devices — the subscription link always reflects the "
    ++"device's current credential live; rotate the subscription link instead if a fresh URL "
    ++"is needed"⟩,
  ⟨.notFound,"ticket_not_found","Support ticket not found"⟩,
  ⟨.permissionDenied,"not_your_ticket","Not your ticket"⟩,
  vpnServerNotFound,noCapacityAvailable,noActiveSubscription,deviceNotProvisioned,
  subscriptionLinkNotFound,deliveryNotFound]

/-- An error that says nothing of any user: its text is fixed, or names an exception or a server. -/
inductive Impersonal : AppError → Prop
  | fixed {e : AppError} (h : e∈fixedErrors) : Impersonal e
  | internal (exception : String) : Impersonal (internalError exception)
  | vpnAgent (server : VpnServer) : Impersonal (vpnAgentUnreachable server)
  | xrayAgent (baseUrl attempts : String) : Impersonal (xrayAgentUnreachable baseUrl attempts)
  | unconfigured (server : VpnServer) : Impersonal ⟨.conflict,"vless_server_not_configured",
      s!"VLESS server {server.id} has no Reality configuration"⟩

/-- What a server without a free address answers. -/
def PoolError (server : VpnServer) (e : AppError) : Prop :=
  e=ipPoolExhausted server ∨ e=ipAllocationConflict server

section

variable {P : AppError → Prop}

theorem getDb_raises : Raises P getDb := Raises.reads _

theorem getNow_raises : Raises P getNow := Raises.reads _

theorem alter_raises (f : Database → Database) : Raises P (alter f) := Raises.change _

theorem nextSerial_raises : Raises P nextSerial := by
  intro s e t h
  cases h

theorem nextOutcome_raises : Raises P nextOutcome := by
  intro s e t h
  rw [nextOutcome_upcoming] at h
  cases h

theorem refreshed_raises (device : Device) : Raises P (refreshed device) :=
  getDb_raises.bind fun _ => Raises.pure _

theorem answerDevice_raises (device : Device) : Raises P (answerDevice device) :=
  (refreshed_raises device).bind fun _ => Raises.pure _

theorem answerLink_raises (link : SubscriptionLink) : Raises P (answerLink link) :=
  getDb_raises.bind fun _ => Raises.pure _

theorem orRaiseDb_raises {α : Type} {e : AppError} {f : Database → Option α} (h : P e) :
    Raises P (getDb >>= fun db => Eff.orRaise e (f db)) :=
  getDb_raises.bind fun _ => Raises.orRaise h _

end

theorem flush_raises : Raises Impersonal flush :=
  nextOutcome_raises.bind fun _ => Raises.ite (Raises.pure ()) (Raises.raise (.internal _))

theorem vpnRequest_raises (server : VpnServer) (op : IpPeerStore → Option IpPeerStore) :
    Raises Impersonal (vpnRequest server op) := by
  refine nextOutcome_raises.bind fun o => (Raises.reads _).bind fun store => ?_
  have hfail : Raises Impersonal (Eff.raise (vpnAgentUnreachable server) : Req Unit) :=
    Raises.raise (.vpnAgent server)
  cases op store with
  | none => exact hfail
  | some store' =>
    have hrest : Raises Impersonal
        (if o=.answered then pure () else Eff.raise (vpnAgentUnreachable server)) :=
      Raises.ite (Raises.pure ()) hfail
    exact Raises.ite ((Raises.change _).bind fun _ => hrest) hrest

theorem xrayAttempts_raises (baseUrl : String) (op : UserStore → UserStore) (n : Nat) :
    Raises Impersonal (xrayAttempts baseUrl op n) := by
  induction n with
  | zero => exact Raises.raise (.xrayAgent _ _)
  | succ n ih =>
    refine nextOutcome_raises.bind fun o => ?_
    have hrest : Raises Impersonal (if o=.answered then pure ()
        else if o.transport then xrayAttempts baseUrl op n
        else Eff.raise (xrayAgentUnreachable baseUrl "")) :=
      Raises.ite (Raises.pure ()) (Raises.ite ih (Raises.raise (.xrayAgent _ _)))
    exact Raises.ite ((Raises.change _).bind fun _ => hrest) hrest

theorem xrayRequest_raises (baseUrl : String) (op : UserStore → UserStore) :
    Raises Impersonal (xrayRequest baseUrl op) := xrayAttempts_raises baseUrl op 3

theorem generateQrCode_raises (content : QrContent) :
    Raises Impersonal (generateQrCode content) :=
  (Raises.reads _).bind fun _ => Raises.ite (Raises.pure _) (Raises.raise (.internal _))

theorem getServer_raises (serverId : Id) : Raises Impersonal (getServer serverId) :=
  orRaiseDb_raises (.fixed (by decide))

theorem getPlan_raises (planId : Id) : Raises Impersonal (getPlan planId) :=
  orRaiseDb_raises (.fixed (by decide))

theorem getSubscription_raises (subscriptionId : Id) :
    Raises Impersonal (getSubscription subscriptionId) :=
  orRaiseDb_raises (.fixed (by decide))

theorem getOwned_raises (deviceId userId : Id) : Raises Impersonal (getOwned deviceId userId) :=
  orRaiseDb_raises (.fixed (by decide))

theorem getLink_raises (deviceId : Id) : Raises Impersonal (getLink deviceId) :=
  orRaiseDb_raises (.fixed (by decide))

theorem currentUser_raises (telegramId : Int) : Raises Impersonal (currentUser telegramId) :=
  getDb_raises.bind fun _ => (Raises.orRaise (.fixed (by decide)) _).bind fun _ =>
    (Raises.require _ (.fixed (by decide))).bind fun _ => Raises.pure _

theorem recordAudit_raises (adminId : Option Id) (action targetType : String)
    (targetId : Option Id) (metadata : List (String×String)) :
    Raises Impersonal (recordAudit adminId action targetType targetId metadata) :=
  getNow_raises.bind fun _ => nextSerial_raises.bind fun _ => (alter_raises _).bind fun _ =>
    flush_raises

theorem createOrRotate_raises (deviceId : Id) : Raises Impersonal (createOrRotate deviceId) := by
  refine nextSerial_raises.bind fun _ => getNow_raises.bind fun _ => getDb_raises.bind fun db => ?_
  cases db.linkOf deviceId with
  | none =>
    exact nextSerial_raises.bind fun _ => (alter_raises _).bind fun _ => flush_raises.bind fun _ =>
      Raises.pure _
  | some link =>
    exact (alter_raises _).bind fun _ => flush_raises.bind fun _ => Raises.pure _

theorem currentProfile_raises (ps : List VpnProfile) : Raises Impersonal (currentProfile ps) := by
  cases ps with
  | nil => exact Raises.pure _
  | cons p ps =>
    cases ps with
    | nil => exact Raises.pure _
    | cons q ps => exact Raises.raise (.internal _)

theorem getOrCreateUserProfile_raises (userId : Id) :
    Raises Impersonal (getOrCreateUserProfile userId) := by
  refine getDb_raises.bind fun db => ?_
  cases db.routingProfileOf userId with
  | none =>
    exact nextSerial_raises.bind fun _ => (alter_raises _).bind fun _ => flush_raises.bind fun _ =>
      Raises.pure _
  | some profile => exact Raises.pure _

theorem profileAllowedIps_raises (userId : Id) (mode : RoutingMode) :
    Raises Impersonal (profileAllowedIps userId mode) := by
  cases mode with
  | fullVpn => exact Raises.pure _
  | smartVpn =>
    exact getDb_raises.bind fun _ => (Raises.reads _).bind fun _ =>
      (Raises.orRaise (.internal _) _).bind fun _ => Raises.pure _

theorem regenerateProfile_raises (cfg : Settings) (deviceId userId : Id) :
    Raises Impersonal (regenerateProfile cfg deviceId userId) :=
  (getOrCreateUserProfile_raises userId).bind fun _ => (profileAllowedIps_raises _ _).bind fun _ =>
    getDb_raises.bind fun _ => (currentProfile_raises _).bind fun _ => (alter_raises _).bind fun _ =>
    getNow_raises.bind fun _ => nextSerial_raises.bind fun _ => (alter_raises _).bind fun _ =>
    flush_raises.bind fun _ => Raises.pure _

theorem addDevice_raises (userId : Id) (name : String) (serverId : Option Id)
    (protocol : VpnProtocol) : Raises Impersonal (addDevice userId name serverId protocol) :=
  nextSerial_raises.bind fun _ => flush_raises.bind fun _ =>
    (Raises.require _ (.internal _)).bind fun _ => (alter_raises _).bind fun _ => Raises.pure _

theorem chooseServer_raises (requested : Option Id) (protocol : VpnProtocol) :
    Raises Impersonal (chooseServer requested protocol) := by
  unfold chooseServer
  cases requested.filter fun k => k≠0 with
  | none => exact orRaiseDb_raises (.fixed (by decide))
  | some k => exact getServer_raises k

theorem provisionVless_raises (cfg : Settings) (user : User) (name : String)
    (requested : Option Id) : Raises Impersonal (provisionVless cfg user name requested) :=
  (chooseServer_raises requested .vless).bind fun server => getDb_raises.bind fun _ =>
    (Raises.orRaise (.unconfigured server) _).bind fun _ => (addDevice_raises _ _ _ _).bind fun _ =>
    (createOrRotate_raises _).bind fun _ => nextSerial_raises.bind fun _ =>
    getNow_raises.bind fun _ => (xrayRequest_raises _ _).bind fun _ =>
    nextSerial_raises.bind fun _ => flush_raises.bind fun _ => getDb_raises.bind fun _ =>
    (Raises.require _ (.internal _)).bind fun _ => (alter_raises _).bind fun _ =>
    (alter_raises _).bind fun _ => (generateQrCode_raises _).bind fun _ => Raises.pure _

theorem serverOfDevice_raises (device : Device) : Raises Impersonal (serverOfDevice device) :=
  (Raises.orRaise (.fixed (by decide)) _).bind fun _ => getServer_raises _

theorem withActivePeer_raises {f : VpnPeer → Req Unit} (h : ∀ p,Raises Impersonal (f p))
    (deviceId : Id) : Raises Impersonal (withActivePeer deviceId f) := by
  refine getDb_raises.bind fun db => ?_
  cases db.activePeer deviceId with
  | none => exact Raises.pure _
  | some peer => exact h peer

theorem retirePeer_raises (server : VpnServer) (peer : VpnPeer) :
    Raises Impersonal (retirePeer server peer) :=
  (vpnRequest_raises server _).bind fun _ => alter_raises _

theorem configForCredential_raises (c : VlessCredential) :
    Raises Impersonal (configForCredential c) :=
  (getServer_raises _).bind fun _ => getDb_raises.bind fun _ => Raises.pure _

theorem removeCredentialFromXray_raises (c : VlessCredential) :
    Raises Impersonal (removeCredentialFromXray c) := by
  refine (configForCredential_raises c).bind fun config => ?_
  cases config with
  | none => exact Raises.pure _
  | some config => exact xrayRequest_raises _ _

theorem revokeCredential_raises (c : VlessCredential) : Raises Impersonal (revokeCredential c) :=
  (removeCredentialFromXray_raises c).bind fun _ => getNow_raises.bind fun _ =>
    (alter_raises _).bind fun _ => (getServer_raises _).bind fun _ => alter_raises _

theorem disableCredential_raises (c : VlessCredential) : Raises Impersonal (disableCredential c) :=
  (removeCredentialFromXray_raises c).bind fun _ => alter_raises _

theorem enableCredential_raises (deviceId : Id) (c : VlessCredential) :
    Raises Impersonal (enableCredential deviceId c) := by
  refine Raises.ite ((configForCredential_raises c).bind fun config => ?_) (Raises.pure _)
  cases config with
  | none => exact Raises.pure _
  | some config =>
    exact getNow_raises.bind fun _ => (xrayRequest_raises _ _).bind fun _ => alter_raises _

theorem setDeviceStatus_raises (deviceId : Id) (status : DeviceStatus) :
    Raises Impersonal (setDeviceStatus deviceId status) := Raises.change _

theorem revoke_raises (device : Device) : Raises Impersonal (revoke device) := by
  refine Raises.bind ?_ fun _ => setDeviceStatus_raises _ _
  unfold revokeTransport
  cases device.protocol with
  | vless => exact getDb_raises.bind fun db => Raises.each revokeCredential_raises _
  | wireguard =>
    unfold revokePeer
    cases device.serverId with
    | none => exact Raises.pure _
    | some serverId =>
      exact (getServer_raises serverId).bind fun server => withActivePeer_raises
        (fun peer => (retirePeer_raises server peer).bind fun _ => alter_raises _) _

theorem disable_raises (device : Device) : Raises Impersonal (disable device) := by
  refine Raises.bind ?_ fun _ => setDeviceStatus_raises _ _
  unfold disableTransport
  cases device.protocol with
  | vless => exact getDb_raises.bind fun db => Raises.each disableCredential_raises _
  | wireguard =>
    exact (serverOfDevice_raises device).bind fun server => withActivePeer_raises
      (fun peer => vpnRequest_raises server _) _

theorem enable_raises (device : Device) : Raises Impersonal (enable device) := by
  refine Raises.bind ?_ fun _ => setDeviceStatus_raises _ _
  unfold enableTransport
  cases device.protocol with
  | vless => exact getDb_raises.bind fun db => Raises.each (enableCredential_raises device.id) _
  | wireguard =>
    exact (serverOfDevice_raises device).bind fun server => withActivePeer_raises
      (fun peer => vpnRequest_raises server _) _

/-- Every request about a device but a reissue. -/
theorem handleDevice_raises (cfg : Settings) (device : Device) {r : DeviceRequest}
    (hr : r≠.reissue) : Raises Impersonal (handleDevice cfg device r) := by
  have hlink := getLink_raises device.id
  cases r with
  | reissue => exact absurd rfl hr
  | disable => exact (disable_raises device).bind fun _ => answerDevice_raises device
  | enable => exact (enable_raises device).bind fun _ => answerDevice_raises device
  | revoke => exact (revoke_raises device).bind fun _ => answerDevice_raises device
  | createOrRotateLink =>
    exact (createOrRotate_raises device.id).bind fun _ => (generateQrCode_raises _).bind fun _ =>
      Raises.pure _
  | getLink => exact hlink.bind fun _ => Raises.pure _
  | revokeLink =>
    exact hlink.bind fun _ => Raises.bind (getNow_raises.bind fun _ => alter_raises _) fun _ =>
      answerLink_raises _
  | getProfile =>
    exact Raises.bind (getDb_raises.bind fun _ => (currentProfile_raises _).bind fun _ =>
      Raises.orRaise (.fixed (by decide)) _) fun _ => Raises.pure _
  | refreshProfile => exact (regenerateProfile_raises cfg _ _).bind fun _ => Raises.pure _

theorem recordAccess_raises (link : SubscriptionLink) : Raises Impersonal (recordAccess link) :=
  getNow_raises.bind fun _ => alter_raises _

theorem authorize_raises (token : Secret) : Raises Impersonal (authorize token) := by
  have hresolve : Raises Impersonal (resolveToken token) :=
    Raises.ite (Raises.pure _) (getDb_raises.bind fun _ => Raises.pure _)
  have hnone : Impersonal deliveryNotFound := .fixed (by decide)
  exact hresolve.bind fun _ => (Raises.orRaise hnone _).bind fun l => getDb_raises.bind fun _ =>
    (Raises.orRaise hnone _).bind fun _ => getNow_raises.bind fun _ =>
    (Raises.require _ hnone).bind fun _ => (recordAccess_raises l).bind fun _ => Raises.pure _

theorem deliver_raises (token : Secret) : Raises Impersonal (deliver token) := by
  have hnone : Impersonal deliveryNotFound := .fixed (by decide)
  refine (authorize_raises token).bind fun device => ?_
  cases device.protocol with
  | vless => exact getDb_raises.bind fun _ => (Raises.require _ hnone).bind fun _ => Raises.pure _
  | wireguard =>
    exact getDb_raises.bind fun _ => (Raises.orRaise hnone _).bind fun _ =>
      (Raises.orRaise hnone _).bind fun _ => (currentProfile_raises _).bind fun _ => Raises.pure _

theorem runOnce_raises (asOf : Option Time) : Raises Impersonal (runOnce asOf) := by
  have hdisable : ∀ userId,Raises Impersonal (disableAllForUser userId) := fun _ =>
    getDb_raises.bind fun _ => Raises.each
      (fun d => Raises.ite (disable_raises d) (Raises.pure _)) _
  have hone : ∀ x,Raises Impersonal (processOne x) := fun _ =>
    getDb_raises.bind fun _ => (Raises.orRaise (.internal _) _).bind fun _ =>
      (Raises.orRaise (.internal _) _).bind fun _ => Raises.bind (Raises.change _) fun _ =>
      (hdisable _).bind fun _ => (recordAudit_raises _ _ _ _ _).bind fun _ => Raises.change _
  exact getNow_raises.bind fun _ => getDb_raises.bind fun _ => (Raises.each hone _).bind fun _ =>
    Raises.pure _

theorem checkPromo_raises (db : Database) (now : Time) (user : User) (code : String)
    {e : AppError} (h : checkPromo db now user code=.error e) : Impersonal e := by
  unfold checkPromo at h
  split at h
  · cases h
    exact .fixed (by decide)
  · split_ifs at h <;> try (cases h; exact .fixed (by decide))
    split at h
    · cases h
    · cases h
      exact .fixed (by decide)
    · cases h
      exact .internal _

theorem createPayment_raises (cfg : Settings) (user : User) (plan : Plan)
    (promoCode : Option String) : Raises Impersonal (createPayment cfg user plan promoCode) := by
  have hpromo : Raises Impersonal (checkedPromo user promoCode) := by
    unfold checkedPromo
    cases promoCode.filter fun c => c≠"" with
    | none => exact Raises.pure _
    | some code =>
      refine getDb_raises.bind fun db => getNow_raises.bind fun now => ?_
      cases hcheck : checkPromo db now user code with
      | ok promo => exact Raises.pure _
      | error e => exact Raises.raise (checkPromo_raises db now user code hcheck)
  have hpending : Raises Impersonal (createPending user plan false) :=
    (Raises.require _ (.fixed (by decide))).bind fun _ => nextSerial_raises.bind fun _ =>
      (alter_raises _).bind fun _ => flush_raises.bind fun _ => Raises.pure _
  exact hpromo.bind fun _ => nextSerial_raises.bind fun _ => hpending.bind fun _ =>
    nextSerial_raises.bind fun _ => nextSerial_raises.bind fun _ => (alter_raises _).bind fun _ =>
    flush_raises.bind fun _ => Raises.pure _

theorem handleWebhook_raises (cfg : Settings) (rawBody : RawBody) (signature : Option Signature) :
    Raises Impersonal (handleWebhook cfg rawBody signature) := by
  refine (Raises.require _ (.fixed (by decide))).bind fun _ =>
    (Raises.orRaise (.internal _) _).bind fun event => getDb_raises.bind fun _ =>
    (Raises.orRaise (.fixed (by decide)) _).bind fun payment => Raises.ite (Raises.pure _)
    (Raises.bind ?_ fun _ => flush_raises)
  have hredeem : Raises Impersonal (redeemPromo payment) := by
    refine getDb_raises.bind fun db => ?_
    cases (payment.promoCodeId.filter fun k => k≠0).bind db.promoCodes.get? with
    | none => exact Raises.pure _
    | some promo =>
      exact getNow_raises.bind fun _ => nextSerial_raises.bind fun _ => alter_raises _
  cases event.status with
  | pending => exact Raises.pure _
  | failed => exact Raises.change _
  | succeeded =>
    exact Raises.bind (Raises.change _) fun _ => (Raises.orRaise (.fixed (by decide)) _).bind
      fun _ => (getSubscription_raises _).bind fun _ => getDb_raises.bind fun _ =>
      (Raises.orRaise (.internal _) _).bind fun _ =>
      Raises.bind (getNow_raises.bind fun _ => (Raises.require _ (.internal _)).bind fun _ =>
        alter_raises _) fun _ => hredeem

theorem handleBilling_raises (cfg : Settings) (r : BillingRequest) :
    Raises Impersonal (handleBilling cfg r) := by
  cases r with
  | authenticateTelegram payload =>
    refine Raises.bind (getDb_raises.bind fun db => ?_) fun _ => Raises.pure _
    cases db.userByTelegramId payload.telegramId with
    | none => exact nextSerial_raises.bind fun _ => (alter_raises _).bind fun _ => flush_raises
    | some user => exact Raises.change _
  | updateUserStatus adminId userId status =>
    exact Raises.bind (getDb_raises.bind fun _ => (Raises.orRaise (.fixed (by decide)) _).bind
      fun _ => Raises.bind (Raises.change _) fun _ => recordAudit_raises _ _ _ _ _) fun _ =>
      Raises.pure _
  | createPlan adminId payload =>
    exact Raises.bind ((Raises.require _ (.fixed (by decide))).bind fun _ => getDb_raises.bind
      fun _ => (Raises.require _ (.fixed (by decide))).bind fun _ => nextSerial_raises.bind fun _ =>
      (alter_raises _).bind fun _ => flush_raises.bind fun _ => Raises.pure _) fun _ =>
      (recordAudit_raises _ _ _ _ _).bind fun _ => Raises.pure _
  | updatePlan adminId planId payload =>
    exact Raises.bind ((getPlan_raises planId).bind fun _ => (alter_raises _).bind fun _ =>
      flush_raises) fun _ => (recordAudit_raises _ _ _ _ _).bind fun _ => Raises.pure _
  | createPayment telegramId planId promoCode =>
    exact (currentUser_raises _).bind fun _ => (getPlan_raises _).bind fun _ =>
      (createPayment_raises _ _ _ _).bind fun _ => Raises.pure _
  | paymentWebhook rawBody signature =>
    exact (handleWebhook_raises _ _ _).bind fun _ => Raises.pure _
  | refundPayment adminId paymentId =>
    exact Raises.bind (getDb_raises.bind fun _ => (Raises.orRaise (.fixed (by decide)) _).bind
      fun _ => Raises.bind ((Raises.require _ (.fixed (by decide))).bind fun _ => Raises.change _)
      fun _ => recordAudit_raises _ _ _ _ _) fun _ => Raises.pure _
  | cancelSubscription telegramId subscriptionId =>
    exact Raises.bind ((currentUser_raises _).bind fun _ => (getSubscription_raises _).bind fun _ =>
      (Raises.require _ (.fixed (by decide))).bind fun _ => Raises.change _) fun _ => Raises.pure _
  | addPromoCode code discountType discountValue maxUses validFrom validUntil active =>
    exact Raises.bind (getDb_raises.bind fun _ => (Raises.require _ (.internal _)).bind fun _ =>
      nextSerial_raises.bind fun _ => alter_raises _) fun _ => Raises.pure _
  | setDeviceLimitOverride subscriptionId limit =>
    exact Raises.bind (Raises.change _) fun _ => Raises.pure _

theorem setCategoryPreference_raises (userId categoryId : Id) (enabled : Bool) :
    Raises Impersonal (setCategoryPreference userId categoryId enabled) := by
  refine getDb_raises.bind fun _ => (Raises.require _ (.fixed (by decide))).bind fun _ =>
    Raises.bind (getDb_raises.bind fun db => ?_) fun _ => flush_raises
  cases db.userCategoryPreferences.rows.find? fun p =>
      p.userId=userId ∧ p.categoryId=categoryId with
  | none => exact nextSerial_raises.bind fun _ => alter_raises _
  | some pref => exact Raises.change _

theorem addCustomDomain_raises (cfg : Settings) (userId : Id) (domain : String)
    (routeType : RouteType) : Raises Impersonal (addCustomDomain cfg userId domain routeType) := by
  refine getDb_raises.bind fun db => ?_
  cases (db.customDomains userId).find? fun d => d.domain=normalizeDomain cfg domain with
  | none =>
    exact getNow_raises.bind fun _ => nextSerial_raises.bind fun _ => (alter_raises _).bind
      fun _ => flush_raises
  | some d => exact Raises.change _

theorem handleRouting_raises (cfg : Settings) (r : RoutingRequest) :
    Raises Impersonal (handleRouting cfg r) := by
  have hsettings : ∀ userId,Raises Impersonal (getMySettings userId) := fun userId =>
    (getOrCreateUserProfile_raises userId).bind fun _ => Raises.pure _
  cases r with
  | createCategory adminId name description =>
    exact Raises.bind (nextSerial_raises.bind fun _ => flush_raises.bind fun _ => getDb_raises.bind
      fun _ => (Raises.require _ (.internal _)).bind fun _ => (alter_raises _).bind fun _ =>
      Raises.pure _) fun _ => (recordAudit_raises _ _ _ _ _).bind fun _ => Raises.pure _
  | addRule categoryId domain routeType enabled =>
    exact Raises.bind (getNow_raises.bind fun _ => nextSerial_raises.bind fun _ =>
      flush_raises.bind fun _ => getDb_raises.bind fun _ =>
      (Raises.require _ (.internal _)).bind fun _ => (alter_raises _).bind fun _ => Raises.pure _)
      fun _ => Raises.pure _
  | getMySettings telegramId =>
    exact (currentUser_raises _).bind fun _ => (hsettings _).bind fun _ => Raises.pure _
  | setMyMode telegramId mode =>
    exact (currentUser_raises _).bind fun _ => Raises.bind ((getOrCreateUserProfile_raises _).bind
      fun _ => alter_raises _) fun _ => (hsettings _).bind fun _ => Raises.pure _
  | setMyCategory telegramId categoryId enabled =>
    exact (currentUser_raises _).bind fun user => (setCategoryPreference_raises user.id _ _).bind
      fun _ => (hsettings _).bind fun _ => Raises.pure _
  | addMyDomain telegramId domain routeType =>
    exact (currentUser_raises _).bind fun user => (addCustomDomain_raises cfg user.id _ _).bind
      fun _ => (hsettings _).bind fun _ => Raises.pure _

theorem getVlessServer_raises (serverId : Id) : Raises Impersonal (getVlessServer serverId) :=
  getDb_raises.bind fun _ => (Raises.orRaise (.fixed (by decide)) _).bind fun _ =>
    (Raises.orRaise (.fixed (by decide)) _).bind fun _ => Raises.pure _

theorem handleServers_raises (r : ServerRequest) : Raises Impersonal (handleServers r) := by
  have haudit : ∀ adminId action serverId,Raises Impersonal (do
      recordAudit adminId action "vpn_server" (some serverId) []
      pure Response.done) := fun _ _ _ =>
    (recordAudit_raises _ _ _ _ _).bind fun _ => Raises.pure _
  cases r with
  | createServer adminId payload =>
    exact Raises.bind (nextSerial_raises.bind fun _ => (alter_raises _).bind fun _ =>
      flush_raises.bind fun _ => Raises.pure _) fun _ => haudit _ _ _
  | updateServer adminId serverId payload =>
    exact Raises.bind ((getServer_raises serverId).bind fun _ => (alter_raises _).bind fun _ =>
      flush_raises) fun _ => haudit _ _ _
  | deleteServer adminId serverId =>
    exact Raises.bind ((getServer_raises serverId).bind fun _ => alter_raises _) fun _ =>
      haudit _ _ _
  | createVlessServer adminId payload =>
    exact Raises.bind (nextSerial_raises.bind fun _ => (alter_raises _).bind fun _ =>
      flush_raises.bind fun _ => nextSerial_raises.bind fun _ => (alter_raises _).bind fun _ =>
      flush_raises.bind fun _ => Raises.pure _) fun _ => haudit _ _ _
  | updateVlessServer adminId serverId payload =>
    exact Raises.bind ((getVlessServer_raises serverId).bind fun _ => (alter_raises _).bind fun _ =>
      flush_raises.bind fun _ => flush_raises) fun _ => haudit _ _ _
  | deleteVlessServer adminId serverId =>
    exact Raises.bind ((getVlessServer_raises serverId).bind fun _ => alter_raises _) fun _ =>
      haudit _ _ _

theorem allocateIp_raises (server : VpnServer) :
    Raises (fun e => Impersonal e ∨ PoolError server e) (allocateIp server) := by
  have hinternal : ∀ x,Impersonal (internalError x) ∨ PoolError server (internalError x) :=
    fun x => Or.inl (.internal x)
  have hfull : Impersonal (ipPoolExhausted server) ∨ PoolError server (ipPoolExhausted server) :=
    Or.inr (Or.inl rfl)
  refine Raises.bind (Raises.orRaise ?_ _) fun network => getDb_raises.bind fun db =>
    Raises.bind (Raises.orRaise ?_ _) fun answer => Raises.orRaise ?_ _
  · exact hinternal "ValueError"
  · exact hinternal "TypeError"
  · exact hfull

theorem createPeer_raises (cfg : Settings) (deviceId : Id) (server : VpnServer) (ip : IpAddress) :
    Raises Impersonal (createPeer cfg deviceId server ip) :=
  getNow_raises.bind fun _ => nextSerial_raises.bind fun _ => (vpnRequest_raises _ _).bind fun _ =>
    Raises.pure _

theorem createPeerAttempts_raises (cfg : Settings) (deviceId : Id) (server : VpnServer) (n : Nat) :
    Raises (fun e => Impersonal e ∨ PoolError server e)
      (createPeerAttempts cfg deviceId server n) := by
  induction n with
  | zero => exact Raises.raise (Or.inr (Or.inr rfl))
  | succ n ih =>
    have hflush : Raises (fun e => Impersonal e ∨ PoolError server e) flush :=
      flush_raises.mono fun _ => Or.inl
    refine (allocateIp_raises server).bind fun ip =>
      ((createPeer_raises cfg deviceId server ip).mono fun _ => Or.inl).bind fun result =>
      nextSerial_raises.bind fun id => hflush.bind fun _ => hflush.bind fun _ =>
      getDb_raises.bind fun db => Raises.ite ?_ ((alter_raises _).bind fun _ => Raises.pure _)
    exact ((vpnRequest_raises server _).mono fun _ => Or.inl).bind fun _ => ih

end VpnService.Backend
