import VpnService.Framework.Lasting
import VpnService.Backend.DeviceFootprint
import VpnService.Backend.Isolation
import VpnService.Backend.HttpApi

namespace VpnService

namespace Store

variable {κ ρ : Type} {key : ρ → κ} [DecidableEq κ]

/-- What a view of the rows does not see of an update. -/
theorem mapRows_modify (s : Store key) (k : κ) {f g : ρ → ρ} (hf : ∀ r,key (f r)=key r)
    (hg : ∀ r,key (g r)=key r) (h : ∀ r,g (f r)=g r) :
    (s.modify k f hf).mapRows g hg=s.mapRows g hg := by
  apply extensionality
  rw [rows_mapRows,rows_modify,List.map_map]
  apply List.map_congr_left
  intro r _
  by_cases hk : key r=k
  · simp [hk,h]
  · simp [hk]

theorem filter_insert (s : Store key) {r : ρ} {q : ρ → Bool} (h : q r=false) :
    (s.insert r).rows.filter q=s.rows.filter q := by
  unfold insert
  split_ifs with hm
  · rfl
  · simp [List.filter_append,h]

/-- An update of a row that is outside a set of rows before and after. -/
theorem filter_modify (s : Store key) {r : ρ} (hr : r∈s.rows) {f : ρ → ρ}
    (hf : ∀ r,key (f r)=key r) {q : ρ → Bool} (hold : q r=false) (hnew : q (f r)=false) :
    (s.modify (key r) f hf).rows.filter q=s.rows.filter q := by
  obtain ⟨pre,post,hrows,hmod⟩ := s.rows_modify_mem hr f hf
  rw [hrows,hmod,List.filter_append,List.filter_append,List.filter_cons,List.filter_cons,
    hold,hnew]
  rfl

end Store

namespace Backend

/-- The ids of the refunded payments. -/
def Database.refunds (db : Database) : List Id :=
  (db.payments.rows.filter fun p => p.status=.refunded).map Payment.id

/-- What the service offers: all that only a superadmin may change. The load of a server is not
part of it. -/
structure Catalogue where
  plans : Store Plan.id
  servers : Store VpnServer.id
  configs : Store VlessServerConfig.id
  categories : Store RoutingCategory.id
  rules : Store RoutingRule.id
  refunds : List Id

def Database.catalogue (db : Database) : Catalogue where
  plans := db.plans
  servers := db.vpnServers.mapRows VpnServer.unloaded fun _ => rfl
  configs := db.vlessServerConfigs
  categories := db.routingCategories
  rules := db.routingRules
  refunds := db.refunds

/-- What the staff governs, and what it has done. -/
structure Governed where
  catalogue : Catalogue
  users : Store User.id
  tickets : Store SupportTicket.id
  messages : Store SupportMessage.id
  logs : Store AuditLog.id

def Database.governed (db : Database) : Governed where
  catalogue := db.catalogue
  users := db.users
  tickets := db.supportTickets
  messages := db.supportMessages
  logs := db.auditLogs

/-- All devices got their numbers before `n`. -/
def DevicesBelow (n : Int) (db : Database) : Prop := ∀ d∈db.devices.rows,d.id<n

/-- What of a device never changes. -/
def Device.deed (d : Device) : Id×Id := (d.id,d.userId)

/-- No device ever goes, or goes over to another user. -/
structure Tenure (s t : Session) : Prop where
  serial : s.serial≤t.serial
  below : DevicesBelow s.serial s.db → DevicesBelow t.serial t.db
  kept : s.db.devices.Lasting Device.deed t.db.devices

def tenureFrame : Frame Session where
  rel := Tenure
  refl _ := ⟨le_rfl,id,.refl _⟩
  trans h k := ⟨h.serial.trans k.serial,fun hs => k.below (h.below hs),h.kept.trans k.kept⟩

theorem Tenure.of_devices {s t : Session} (h : t.db.devices=s.db.devices)
    (hs : s.serial≤t.serial) : Tenure s t where
  serial := hs
  below hn d hd := (hn d (h ▸ hd)).trans_le hs
  kept := .of_eq h

/-- An update that leaves every device with its user. -/
theorem mapped_tenure {s : Session} {f : Device → Device} (hf : ∀ d,(f d).id=d.id)
    (h : ∀ d,(f d).deed=d.deed) :
    Tenure s {s with db := {s.db with devices := s.db.devices.mapRows f hf}} where
  serial := le_rfl
  below hn d hd := by
    obtain ⟨e,he,rfl⟩ := List.mem_map.mp hd
    rw [hf e]
    exact hn e he
  kept := Store.lasting_mapRows f hf h

theorem updateDevice_tenure (k : Id) {f : Device → Device} (hf : ∀ d,(f d).id=d.id)
    (huser : ∀ d,(f d).userId=d.userId) : Within tenureFrame (updateDevice k f hf) := fun s => by
  refine ⟨le_rfl,fun hn d hd => ?_,Store.lasting_modify k hf fun d => ?_⟩
  · rcases (Store.mem_modify hf).mp hd with ⟨e,he,_,rfl⟩|⟨hd,_⟩
    · rw [hf e]
      exact hn e he
    · exact hn d hd
  · unfold Device.deed
    rw [hf,huser]

/-- A new device takes the next number. -/
theorem insertDevice_tenure {s t : Session} {d : Device} (hd : d.id=s.serial)
    (hserial : t.serial=s.serial+1) (hrows : t.db.devices=s.db.devices.insert d) :
    Tenure s t where
  serial := hserial ▸ (Int.lt_succ _).le
  below hn e he := by
    rw [hserial]
    rcases Store.mem_of_insert (hrows ▸ he) with he|rfl
    · exact (hn e he).trans (Int.lt_succ _)
    · rw [hd]
      exact Int.lt_succ _
  kept := hrows ▸ Store.lasting_insert d

/-- The frame of what customers do to their own rows. -/
abbrev customerFrame : Frame Session :=
  (keeping fun s => (s.db.governed,s.now)).and tenureFrame

/-- What the staff governs, and the devices. -/
def Database.held (db : Database) : Governed×Store Device.id := (db.governed,db.devices)

theorem customer_of_held {s t : Session} (h : t.db.held=s.db.held) (hnow : t.now=s.now)
    (hs : s.serial≤t.serial) : customerFrame.rel s t :=
  ⟨⟨Prod.ext (congrArg Prod.fst h :) hnow,hs⟩,.of_devices (congrArg Prod.snd h :) hs⟩

theorem customer_books : Bookkeeping customerFrame :=
  ⟨fun _ => customer_of_held rfl rfl (by simp),fun _ _ => customer_of_held rfl rfl le_rfl⟩

theorem alter_customer {f : Database → Database} (h : ∀ db,(f db).held=db.held) :
    Within customerFrame (alter f) := fun s => customer_of_held (h s.db) rfl le_rfl

theorem updateDevice_customer (k : Id) {f : Device → Device} (hf : ∀ d,(f d).id=d.id)
    (huser : ∀ d,(f d).userId=d.userId) : Within customerFrame (updateDevice k f hf) :=
  fun s => ⟨⟨rfl,le_rfl⟩,updateDevice_tenure k hf huser s⟩

theorem setDeviceStatus_customer (k : Id) (status : DeviceStatus) :
    Within customerFrame (setDeviceStatus k status) :=
  updateDevice_customer k (f := fun d => {d with status := status}) (fun _ => rfl) fun _ => rfl

theorem setVpn_customer (url : String) (store : IpPeerStore) (s : Session) :
    customerFrame.rel s (setVpn url store s) := customer_of_held rfl rfl le_rfl

theorem setXray_customer (url : String) (store : Agent.UserStore) (s : Session) :
    customerFrame.rel s (setXray url store s) := customer_of_held rfl rfl le_rfl

theorem vpnRequest_customer (server : VpnServer) (op : IpPeerStore → Option IpPeerStore) :
    Within customerFrame (vpnRequest server op) :=
  vpnRequest_within customer_books fun _ _ _ => setVpn_customer _ _ _

theorem xrayRequest_customer (baseUrl : String) (op : Agent.UserStore → Agent.UserStore) :
    Within customerFrame (xrayRequest baseUrl op) :=
  xrayRequest_within customer_books fun _ => setXray_customer _ _ _

/-- The load of a server is not governed. -/
theorem governed_load (db : Database) (k : Id) (f : VpnServer → VpnServer)
    (hf : ∀ x,(f x).id=x.id) (h : ∀ x,(f x).unloaded=x.unloaded) :
    ({db with vpnServers := db.vpnServers.modify k f hf} : Database).governed=db.governed := by
  have hservers : (db.vpnServers.modify k f hf).mapRows VpnServer.unloaded (fun _ => rfl)=
      db.vpnServers.mapRows VpnServer.unloaded fun _ => rfl :=
    db.vpnServers.mapRows_modify k hf _ h
  exact congrArg (fun servers =>
    {db.governed with catalogue := {db.catalogue with servers := servers}}) hservers

theorem addLoad_customer (k : Id) : Within customerFrame (addLoad k) :=
  alter_customer fun db => congrArg (fun g => (g,db.devices))
    (governed_load db k _ _ fun _ => rfl)

theorem dropLoad_customer (k : Id) : Within customerFrame (dropLoad k) :=
  alter_customer fun db => congrArg (fun g => (g,db.devices))
    (governed_load db k _ _ fun _ => rfl)

theorem withActivePeer_customer {f : VpnPeer → Req Unit} (h : ∀ p,Within customerFrame (f p))
    (d : Id) : Within customerFrame (withActivePeer d f) := by
  refine getDb_within.bind fun db => ?_
  cases db.activePeer d with
  | none => exact Within.pure _
  | some p => exact h p

theorem getOrCreateUserProfile_customer (userId : Id) :
    Within customerFrame (getOrCreateUserProfile userId) := by
  refine getDb_within.bind fun db => ?_
  cases db.routingProfileOf userId with
  | some p => exact Within.pure _
  | none =>
    exact (nextSerial_within customer_books).bind fun _ => Within.bind (alter_customer fun _ => rfl)
      fun _ => (flush_within customer_books).bind fun _ => Within.pure _

theorem regenerateProfile_customer (cfg : Settings) (d u : Id) :
    Within customerFrame (regenerateProfile cfg d u) :=
  (getOrCreateUserProfile_customer u).bind fun _ => (profileAllowedIps_within _ _).bind fun _ =>
    getDb_within.bind fun _ => (currentProfile_within _).bind fun _ =>
    Within.bind (alter_customer fun _ => rfl) fun _ => getNow_within.bind fun _ =>
    (nextSerial_within customer_books).bind fun _ =>
    Within.bind (alter_customer fun _ => rfl) fun _ => (flush_within customer_books).bind fun _ =>
    Within.pure _

theorem createOrRotate_customer (d : Id) : Within customerFrame (createOrRotate d) := by
  refine (nextSerial_within customer_books).bind fun _ => getNow_within.bind fun _ =>
    getDb_within.bind fun db => ?_
  cases db.linkOf d with
  | none =>
    exact (nextSerial_within customer_books).bind fun _ => Within.bind (alter_customer fun _ => rfl)
      fun _ => (flush_within customer_books).bind fun _ => Within.pure _
  | some l =>
    exact Within.bind (alter_customer fun _ => rfl) fun _ =>
      (flush_within customer_books).bind fun _ => Within.pure _

theorem createPeer_customer (cfg : Settings) (d : Id) (server : VpnServer) (ip : IpAddress) :
    Within customerFrame (createPeer cfg d server ip) :=
  getNow_within.bind fun _ => (nextSerial_within customer_books).bind fun _ =>
    (vpnRequest_customer _ _).bind fun _ => Within.pure _

theorem createPeerAttempts_customer (cfg : Settings) (d : Id) (server : VpnServer) (n : Nat) :
    Within customerFrame (createPeerAttempts cfg d server n) := by
  induction n with
  | zero => exact Within.raise _
  | succ n ih =>
    refine (allocateIp_within server).bind fun ip => (createPeer_customer cfg d server ip).bind
      fun _ => (nextSerial_within customer_books).bind fun _ =>
      (flush_within customer_books).bind fun _ => (flush_within customer_books).bind fun _ =>
      getDb_within.bind fun _ => ?_
    exact Within.ite ((vpnRequest_customer _ _).bind fun _ => ih)
      (Within.bind (alter_customer fun _ => rfl) fun _ => Within.pure _)

theorem addDevice_customer (userId : Id) (name : String) (serverId : Option Id)
    (protocol : VpnProtocol) :
    Within customerFrame (addDevice userId name serverId protocol) := by
  intro s
  let device : Device := ⟨s.serial,userId,name,none,none,serverId,.active,none,protocol⟩
  have hdrawn : customerFrame.rel s {s with serial := s.serial+1} := customer_books.serial s
  show customerFrame.rel s ((flush >>= fun _ => Eff.require (name.length≤64)
    (internalError "StringDataRightTruncationError") >>= fun _ => alter (fun db => {db with
      devices := db.devices.insert device}) >>= fun _ => pure device) _).2
  cases hflush : flush {s with serial := s.serial+1} with
  | mk r t =>
    have hflushed := (flush_within customer_books _).rel_of_run hflush
    cases r with
    | error e =>
      rw [Eff.bind_run_error hflush]
      exact customerFrame.trans hdrawn hflushed
    | ok _ =>
      rw [Eff.bind_run_ok hflush]
      obtain ⟨os,rfl⟩ := flush_ok hflush
      by_cases hname : name.length≤64
      · have hrequire : (Eff.require (name.length≤64)
            (internalError "StringDataRightTruncationError") : Req Unit)=pure () := if_pos hname
        rw [hrequire]
        exact ⟨⟨rfl,hdrawn.1.2⟩,insertDevice_tenure (d := device) rfl rfl rfl⟩
      · have hrequire : (Eff.require (name.length≤64)
            (internalError "StringDataRightTruncationError") : Req Unit)=Eff.raise _ :=
          if_neg hname
        rw [hrequire]
        exact customerFrame.trans hdrawn hflushed

theorem provision_customer (cfg : Settings) (user : User) (name : String)
    (requested : Option Id) (protocol : VpnProtocol) :
    Within customerFrame (provision cfg user name requested protocol) := by
  refine (enforceDeviceLimit_within _).bind fun _ => ?_
  cases protocol with
  | vless =>
    exact (chooseServer_within _ _).bind fun _ => getDb_within.bind fun _ =>
      (Within.orRaise _ _).bind fun _ => (addDevice_customer _ _ _ _).bind fun _ =>
      (createOrRotate_customer _).bind fun _ => (nextSerial_within customer_books).bind fun _ =>
      getNow_within.bind fun _ => (xrayRequest_customer _ _).bind fun _ =>
      (nextSerial_within customer_books).bind fun _ => (flush_within customer_books).bind fun _ =>
      getDb_within.bind fun _ => (Within.require _ _).bind fun _ =>
      Within.bind (alter_customer fun _ => rfl) fun _ => (addLoad_customer _).bind fun _ =>
      (generateQrCode_within _).bind fun _ => Within.pure _
  | wireguard =>
    exact (chooseServer_within _ _).bind fun _ => (addDevice_customer _ _ _ _).bind fun _ =>
      (createOrRotate_customer _).bind fun _ => (createPeerAttempts_customer _ _ _ 5).bind
      fun _ => Within.bind (updateDevice_customer _ _ fun _ => rfl) fun _ =>
      (addLoad_customer _).bind fun _ =>
      (regenerateProfile_customer _ _ _).bind fun _ => (generateQrCode_within _).bind fun _ =>
      (generateQrCode_within _).bind fun _ => (refreshed_within _).bind fun _ => Within.pure _

theorem retirePeer_customer (server : VpnServer) (p : VpnPeer) :
    Within customerFrame (retirePeer server p) :=
  (vpnRequest_customer _ _).bind fun _ => alter_customer fun _ => rfl

theorem reissue_customer (cfg : Settings) (device : Device) :
    Within customerFrame (reissue cfg device) :=
  (Within.require _ _).bind fun _ => (serverOfDevice_within device).bind fun server =>
    (withActivePeer_customer (retirePeer_customer server) _).bind fun _ =>
    (createPeerAttempts_customer _ _ _ 5).bind fun _ =>
    Within.bind (updateDevice_customer _ _ fun _ => rfl) fun _ =>
    (regenerateProfile_customer _ _ _).bind fun _ => (generateQrCode_within _).bind fun _ =>
    (refreshed_within _).bind fun _ => Within.pure _

theorem removeCredential_customer (c : VlessCredential) :
    Within customerFrame (removeCredentialFromXray c) := by
  refine (configForCredential_within c).bind fun config => ?_
  cases config with
  | none => exact Within.pure _
  | some config => exact xrayRequest_customer _ _

theorem revoke_customer (device : Device) : Within customerFrame (revoke device) := by
  refine Within.bind ?_ fun _ => setDeviceStatus_customer _ _
  unfold revokeTransport
  cases device.protocol with
  | vless =>
    exact getDb_within.bind fun _ => Within.each fun c _ =>
      (removeCredential_customer c).bind fun _ => getNow_within.bind fun _ =>
      Within.bind (alter_customer fun _ => rfl) fun _ => (getServer_within _).bind fun _ =>
      dropLoad_customer _
  | wireguard =>
    unfold revokePeer
    cases device.serverId with
    | none => exact Within.pure _
    | some k =>
      exact (getServer_within k).bind fun server => withActivePeer_customer
        (fun p => (retirePeer_customer server p).bind fun _ => dropLoad_customer _) _

theorem disable_customer (device : Device) : Within customerFrame (disable device) := by
  refine Within.bind ?_ fun _ => setDeviceStatus_customer _ _
  unfold disableTransport
  cases device.protocol with
  | vless =>
    exact getDb_within.bind fun _ => Within.each fun c _ =>
      (removeCredential_customer c).bind fun _ => alter_customer fun _ => rfl
  | wireguard =>
    exact (serverOfDevice_within device).bind fun _ =>
      withActivePeer_customer (fun _ => vpnRequest_customer _ _) _

theorem enableCredential_customer (d : Id) (c : VlessCredential) :
    Within customerFrame (enableCredential d c) := by
  refine Within.ite ((configForCredential_within c).bind fun config => ?_) (Within.pure _)
  cases config with
  | none => exact Within.pure _
  | some config =>
    exact getNow_within.bind fun _ => (xrayRequest_customer _ _).bind fun _ =>
      alter_customer fun _ => rfl

theorem enable_customer (device : Device) : Within customerFrame (enable device) := by
  refine Within.bind ?_ fun _ => setDeviceStatus_customer _ _
  unfold enableTransport
  cases device.protocol with
  | vless =>
    exact getDb_within.bind fun _ => Within.each fun c _ => enableCredential_customer _ c
  | wireguard =>
    exact (serverOfDevice_within device).bind fun _ =>
      withActivePeer_customer (fun _ => vpnRequest_customer _ _) _

theorem handleDevice_customer (cfg : Settings) (device : Device) (r : DeviceRequest) :
    Within customerFrame (handleDevice cfg device r) := by
  have hanswer : Within customerFrame (answerDevice device) :=
    (refreshed_within device).bind fun _ => Within.pure _
  cases r with
  | reissue => exact (reissue_customer cfg device).bind fun _ => Within.pure _
  | disable => exact (disable_customer device).bind fun _ => hanswer
  | enable => exact (enable_customer device).bind fun _ => hanswer
  | revoke => exact (revoke_customer device).bind fun _ => hanswer
  | createOrRotateLink =>
    exact (createOrRotate_customer _).bind fun _ => (generateQrCode_within _).bind fun _ =>
      Within.pure _
  | getLink => exact (getLink_within _).bind fun _ => Within.pure _
  | revokeLink =>
    exact (getLink_within _).bind fun _ => Within.bind (getNow_within.bind fun _ =>
      alter_customer fun _ => rfl) fun _ => answerLink_within _
  | getProfile =>
    exact Within.bind (getDb_within.bind fun _ => (currentProfile_within _).bind fun _ =>
      Within.orRaise _ _) fun _ => Within.pure _
  | refreshProfile => exact (regenerateProfile_customer _ _ _).bind fun _ => Within.pure _

/-- A payment that is not refunded, neither before nor after. -/
theorem governed_payments {db : Database} {table : Store Payment.id}
    (h : table.rows.filter (fun p => p.status=.refunded)=
      db.payments.rows.filter fun p => p.status=.refunded) :
    ({db with payments := table} : Database).governed=db.governed :=
  congrArg (fun ps => {db.governed with
    catalogue := {db.catalogue with refunds := ps.map Payment.id}}) h

theorem setPaymentStatus_customer {payment : Payment} {status : PaymentStatus} {s : Session}
    (hp : payment∈s.db.payments.rows) (hold : payment.status≠.refunded)
    (hnew : status≠.refunded) : WithinAt customerFrame (setPaymentStatus payment.id status) s := by
  refine customer_of_held (congrArg (fun g => (g,s.db.devices)) (governed_payments ?_)) rfl le_rfl
  apply s.db.payments.filter_modify hp
  · simpa using hold
  · simpa using hnew

theorem createPayment_customer (cfg : Settings) (user : User) (plan : Plan)
    (promoCode : Option String) : Within customerFrame (createPayment cfg user plan promoCode) := by
  have hpending : Within customerFrame (createPending user plan false) :=
    (Within.require _ _).bind fun _ => (nextSerial_within customer_books).bind fun _ =>
      Within.bind (alter_customer fun _ => rfl) fun _ => (flush_within customer_books).bind
      fun _ => Within.pure _
  exact (checkedPromo_within user promoCode).bind fun _ =>
    (nextSerial_within customer_books).bind fun _ => hpending.bind fun _ =>
    (nextSerial_within customer_books).bind fun _ => (nextSerial_within customer_books).bind
    fun _ => Within.bind (alter_customer fun db => congrArg (fun g => (g,db.devices))
      (governed_payments (db.payments.filter_insert (by simp)))) fun _ =>
    (flush_within customer_books).bind fun _ => Within.pure _

theorem redeemPromo_customer (payment : Payment) :
    Within customerFrame (redeemPromo payment) :=
  redeemPromo_within customer_books (fun _ _ => alter_customer fun _ => rfl) payment

theorem applyEvent_customer {payment : Payment} {status : PaymentIntentStatus} {s : Session}
    (hp : payment∈s.db.payments.rows) (hopen : payment.status.isTerminal=false) :
    WithinAt customerFrame (applyEvent payment status) s := by
  have hold : payment.status≠.refunded := by
    intro h
    rw [h] at hopen
    cases hopen
  cases status with
  | pending => exact Within.pure _ s
  | failed => exact setPaymentStatus_customer hp hold (fun h => by cases h)
  | succeeded =>
    refine (setPaymentStatus_customer hp hold (fun h => by cases h)).bind fun _ t _ => ?_
    have hactivate : ∀ x plan,Within customerFrame (activate x plan) :=
      fun _ _ => getNow_within.bind fun _ => (Within.require _ _).bind fun _ =>
        alter_customer fun _ => rfl
    exact Within.bind (Within.orRaise _ _) (fun k => (getSubscription_within k).bind fun _ =>
      getDb_within.bind fun _ => (Within.orRaise _ _).bind fun _ => (hactivate _ _).bind fun _ =>
      redeemPromo_customer payment) t

theorem handleWebhook_customer (cfg : Settings) (rawBody : RawBody)
    (signature : Option Signature) :
    Within customerFrame (handleWebhook cfg rawBody signature) := by
  refine (Within.require _ _).bind fun _ => (Within.orRaise _ _).bind fun event => ?_
  refine Within.reads_bind fun s => WithinAt.orRaise_bind fun payment hp => ?_
  have hmem : payment∈s.db.payments.rows := List.mem_of_find?_eq_some hp
  split_ifs with hterminal
  · exact Within.pure _ s
  · refine (applyEvent_customer hmem (by simpa using hterminal)).bind fun _ t _ => ?_
    exact flush_within customer_books t

theorem deliver_customer (token : Secret) : Within customerFrame (deliver token) :=
  deliver_within (fun _ => getNow_within.bind fun _ => alter_customer fun _ => rfl) token

theorem setMode_customer (userId : Id) (mode : RoutingMode) :
    Within customerFrame (setMode userId mode) :=
  (getOrCreateUserProfile_customer userId).bind fun _ => alter_customer fun _ => rfl

theorem setCategoryPreference_customer (userId categoryId : Id) (enabled : Bool) :
    Within customerFrame (setCategoryPreference userId categoryId enabled) := by
  refine getDb_within.bind fun _ => (Within.require _ _).bind fun _ =>
    Within.bind (getDb_within.bind fun db => ?_) fun _ => flush_within customer_books
  cases db.userCategoryPreferences.rows.find? fun p =>
      p.userId=userId ∧ p.categoryId=categoryId with
  | none => exact (nextSerial_within customer_books).bind fun _ => alter_customer fun _ => rfl
  | some pref => exact alter_customer fun _ => rfl

theorem addCustomDomain_customer (cfg : Settings) (userId : Id) (domain : String)
    (routeType : RouteType) : Within customerFrame (addCustomDomain cfg userId domain routeType) := by
  refine getDb_within.bind fun db => ?_
  cases (db.customDomains userId).find? fun d => d.domain=normalizeDomain cfg domain with
  | some d => exact alter_customer fun _ => rfl
  | none =>
    exact getNow_within.bind fun _ => (nextSerial_within customer_books).bind fun _ =>
      Within.bind (alter_customer fun _ => rfl) fun _ => flush_within customer_books

section

variable {R : Frame Session}

theorem readSubscription_within (x : Subscription) : Within R (readSubscription x) :=
  getDb_within.bind fun _ => (Within.orRaise _ _).bind fun _ => Within.pure _

theorem readSubscriptions_within (xs : List Subscription) : Within R (readSubscriptions xs) := by
  induction xs with
  | nil => exact Within.pure _
  | cons x xs ih => exact (readSubscription_within x).bind fun _ => ih.bind fun _ => Within.pure _

theorem readActiveSubscription_within (x : Option Subscription) :
    Within R (readActiveSubscription x) := by
  cases x with
  | none => exact Within.pure _
  | some x => exact (readSubscription_within x).bind fun _ => Within.pure _

theorem readTicket_within (ticket : SupportTicket) : Within R (readTicket ticket) :=
  getDb_within.bind fun _ => Within.pure _

theorem getTicket_within (ticketId : Id) : Within R (getTicket ticketId) := orRaiseDb_within

theorem getOwnTicket_within (ticketId userId : Id) : Within R (getOwnTicket ticketId userId) :=
  (getTicket_within ticketId).bind fun _ => (Within.require _ _).bind fun _ => Within.pure _

theorem listMyTickets_within (userId : Id) : Within R (listMyTickets userId) :=
  getDb_within.bind fun _ => (Within.require _ _).bind fun _ => Within.pure _

end

theorem readMySettings_customer (userId : Id) :
    Within customerFrame (readMySettings userId) :=
  (getOrCreateUserProfile_customer userId).bind fun _ => getDb_within.bind fun _ => Within.pure _

/-- The two requests with which a user writes to the staff. -/
def BotRequest.writesStaff : BotRequest → Bool
  | .createTicket .. | .addTicketMessage .. => true
  | _ => false

/-- Whatever else a user asks for, what the staff governs stays as it is. -/
theorem handleUser_customer (cfg : Settings) (user : User) {r : BotRequest}
    (h : r.writesStaff=false) : Within customerFrame (handleUser cfg user r) := by
  have hsettings := readMySettings_customer user.id
  cases r with
  | getMe => exact Within.pure _
  | listMySubscriptions =>
    exact getDb_within.bind fun _ => (readSubscriptions_within _).bind fun _ => Within.pure _
  | getMyActiveSubscription =>
    exact getDb_within.bind fun _ => (readActiveSubscription_within _).bind fun _ =>
      Within.pure _
  | cancelSubscription subscriptionId =>
    exact (getSubscription_within _).bind fun _ => (Within.require _ _).bind fun _ =>
      Within.bind (alter_customer fun _ => rfl) fun _ => (readSubscription_within _).bind
      fun _ => Within.pure _
  | createPayment planId promoCode =>
    exact (getPlan_within _).bind fun _ => (createPayment_customer _ _ _ _).bind fun _ =>
      Within.pure _
  | listMyPayments => exact getDb_within.bind fun _ => Within.pure _
  | getMySettings => exact hsettings
  | setMyMode mode => exact (setMode_customer _ _).bind fun _ => hsettings
  | setMyCategory categoryId enabled =>
    exact (setCategoryPreference_customer _ _ _).bind fun _ => hsettings
  | addMyDomain domain routeType =>
    exact (addCustomDomain_customer cfg _ _ _).bind fun _ => hsettings
  | listDevices => exact getDb_within.bind fun _ => Within.pure _
  | createDevice name serverId protocol =>
    exact (provision_customer _ _ _ _ _).bind fun _ => Within.pure _
  | device deviceId r =>
    exact (getOwned_within _ _).bind fun device => (handleDevice_customer cfg device r).bind
      fun _ => Within.pure _
  | listMyTickets => exact listMyTickets_within _
  | getTicket ticketId =>
    exact (getOwnTicket_within _ _).bind fun _ => readTicket_within _
  | createTicket subject message => cases h
  | addTicketMessage ticketId text => cases h

/-- What happens to the tables the staff governs when none of it is at work: users keep their
statuses and new ones are active, tickets stay as they are and new ones are open, and no message of
an admin is added. -/
structure Unattended (a b : Database) : Prop where
  users : ∀ u∈a.users.rows,∃ v∈b.users.rows,v.id=u.id ∧ v.status=u.status
  newUsers : ∀ v∈b.users.rows,v.status=.active ∨ ∃ u∈a.users.rows,u.id=v.id ∧ u.status=v.status
  tickets : ∀ t∈a.supportTickets.rows,t∈b.supportTickets.rows
  newTickets : ∀ t∈b.supportTickets.rows,t∈a.supportTickets.rows ∨ t.status=.opened
  messages : ∀ m∈a.supportMessages.rows,m∈b.supportMessages.rows
  newMessages : ∀ m∈b.supportMessages.rows,m∈a.supportMessages.rows ∨ m.sender=.user

theorem Unattended.of_same {a b : Database} (hu : b.users=a.users)
    (ht : b.supportTickets=a.supportTickets) (hm : b.supportMessages=a.supportMessages) :
    Unattended a b where
  users u h := ⟨u,hu ▸ h,rfl,rfl⟩
  newUsers u h := Or.inr ⟨u,hu ▸ h,rfl,rfl⟩
  tickets _ h := ht ▸ h
  newTickets _ h := Or.inl (ht ▸ h)
  messages _ h := hm ▸ h
  newMessages _ h := Or.inl (hm ▸ h)

theorem Unattended.trans {a b c : Database} (h : Unattended a b) (k : Unattended b c) :
    Unattended a c where
  users u hu := by
    obtain ⟨v,hv,hvid,hvs⟩ := h.users u hu
    obtain ⟨w,hw,hwid,hws⟩ := k.users v hv
    exact ⟨w,hw,hwid.trans hvid,hws.trans hvs⟩
  newUsers w hw := by
    rcases k.newUsers w hw with hact|⟨v,hv,hvid,hvs⟩
    · exact Or.inl hact
    · rcases h.newUsers v hv with hact|⟨u,hu,huid,hus⟩
      · exact Or.inl (hvs ▸ hact)
      · exact Or.inr ⟨u,hu,huid.trans hvid,hus.trans hvs⟩
  tickets t ht := k.tickets t (h.tickets t ht)
  newTickets t ht := (k.newTickets t ht).elim (h.newTickets t) Or.inr
  messages m hm := k.messages m (h.messages m hm)
  newMessages m hm := (k.newMessages m hm).elim (h.newMessages m) Or.inr

/-- Whose account a user is. -/
def User.account (u : User) : Id×Int := (u.id,u.telegramId)

/-- What happens when neither the staff nor the worker is at work. -/
structure Everyday (s t : Session) : Prop where
  catalogue : t.db.catalogue=s.db.catalogue
  logs : t.db.auditLogs=s.db.auditLogs
  now : t.now=s.now
  tenure : Tenure s t
  accounts : s.db.users.Lasting User.account t.db.users
  unattended : Unattended s.db t.db

def everydayFrame : Frame Session where
  rel := Everyday
  refl s := ⟨rfl,rfl,rfl,tenureFrame.refl s,.refl _,Unattended.of_same rfl rfl rfl⟩
  trans h k := ⟨k.catalogue.trans h.catalogue,k.logs.trans h.logs,k.now.trans h.now,
    tenureFrame.trans h.tenure k.tenure,h.accounts.trans k.accounts,
    h.unattended.trans k.unattended⟩

theorem everyday_of_customer {s t : Session} (h : customerFrame.rel s t) :
    everydayFrame.rel s t := by
  obtain ⟨⟨hview,_⟩,htenure⟩ := h
  simp only [Prod.mk.injEq] at hview
  obtain ⟨hgov,hnow⟩ := hview
  exact ⟨congrArg Governed.catalogue hgov,congrArg Governed.logs hgov,hnow,htenure,
    .of_eq (congrArg Governed.users hgov),
    Unattended.of_same (congrArg Governed.users hgov) (congrArg Governed.tickets hgov)
      (congrArg Governed.messages hgov)⟩

theorem everyday_books : Bookkeeping everydayFrame :=
  ⟨fun s => everyday_of_customer (customer_books.serial s),
    fun s os => everyday_of_customer (customer_books.outcomes s os)⟩

/-- Writes to tables that nobody governs. -/
theorem alter_everyday {f : Database → Database} (h : ∀ db,(f db).held=db.held) :
    Within everydayFrame (alter f) := (alter_customer h).mono everyday_of_customer

theorem insertMessage_everyday {m : SupportMessage} (h : m.sender=.user) :
    Within everydayFrame (alter fun db => {db with
      supportMessages := db.supportMessages.insert m}) := fun s => by
  refine ⟨rfl,rfl,rfl,.of_devices rfl le_rfl,.refl _,
    {Unattended.of_same rfl rfl rfl with messages := ?_,newMessages := ?_}⟩
  · exact fun x hx => Store.mem_of_get? (Store.get?_insert_kept _ (Store.get?_of_mem _ hx))
  · intro x hx
    rcases Store.mem_of_insert hx with hx|hx
    · exact Or.inl hx
    · exact Or.inr (hx ▸ h)

theorem createTicket_everyday (userId : Id) (subject message : String) :
    Within everydayFrame (createTicket userId subject message) := by
  have hopen : ∀ (ticket : SupportTicket) (m : SupportMessage),ticket.status=.opened →
      m.sender=.user → Within everydayFrame (alter (openTicket ticket m)) := by
    intro ticket m hticket hm s
    refine ⟨rfl,rfl,rfl,.of_devices rfl le_rfl,.refl _,{
      users := (Unattended.of_same rfl rfl rfl : Unattended s.db s.db).users
      newUsers := (Unattended.of_same rfl rfl rfl : Unattended s.db s.db).newUsers
      tickets := fun x hx => Store.mem_of_get? (Store.get?_insert_kept _ (Store.get?_of_mem _ hx))
      messages := fun x hx => Store.mem_of_get? (Store.get?_insert_kept _ (Store.get?_of_mem _ hx))
      newTickets := ?_
      newMessages := ?_}⟩
    · intro x hx
      rcases Store.mem_of_insert hx with hx|hx
      · exact Or.inl hx
      · exact Or.inr (hx ▸ hticket)
    · intro x hx
      rcases Store.mem_of_insert hx with hx|hx
      · exact Or.inl hx
      · exact Or.inr (hx ▸ hm)
  exact getNow_within.bind fun _ => (nextSerial_within everyday_books).bind fun _ =>
    (nextSerial_within everyday_books).bind fun _ => (flush_within everyday_books).bind fun _ =>
    (Within.require _ _).bind fun _ => (hopen _ _ rfl rfl).bind fun _ => Within.pure _

theorem addMessage_everyday (ticket : SupportTicket) (text : String) :
    Within everydayFrame (addMessage ticket .user text) :=
  getNow_within.bind fun _ => (nextSerial_within everyday_books).bind fun _ =>
    (insertMessage_everyday rfl).bind fun _ => (flush_within everyday_books).bind fun _ =>
    Within.pure _

theorem handleUser_everyday (cfg : Settings) (user : User) (r : BotRequest) :
    Within everydayFrame (handleUser cfg user r) := by
  cases hr : r.writesStaff with
  | false => exact (handleUser_customer cfg user hr).mono everyday_of_customer
  | true =>
    cases r with
    | createTicket subject message =>
      exact (createTicket_everyday _ _ _).bind fun _ => readTicket_within _
    | addTicketMessage ticketId text =>
      exact (getOwnTicket_within _ _).bind fun ticket => (addMessage_everyday ticket _).bind
        fun _ => Within.pure _
    | _ => cases hr

theorem updateUser_everyday (userId : Id) {f : User → User} (hf : ∀ u,(f u).id=u.id)
    (haccount : ∀ u,(f u).account=u.account) (hstatus : ∀ u,(f u).status=u.status) :
    Within everydayFrame (updateUser userId f hf) := fun s => by
  refine ⟨rfl,rfl,rfl,.of_devices rfl le_rfl,Store.lasting_modify _ hf haccount,
    {Unattended.of_same rfl rfl rfl with users := ?_,newUsers := ?_}⟩
  · intro u hu
    by_cases hid : u.id=userId
    · exact ⟨f u,(Store.mem_modify hf).mpr (Or.inl ⟨u,hu,hid,rfl⟩),hf u,hstatus u⟩
    · exact ⟨u,(Store.mem_modify hf).mpr (Or.inr ⟨hu,hid⟩),rfl,rfl⟩
  · intro v hv
    rcases (Store.mem_modify hf).mp hv with ⟨u,hu,_,he⟩|⟨hu,_⟩
    · exact Or.inr ⟨u,hu,he ▸ (hf u).symm,he ▸ (hstatus u).symm⟩
    · exact Or.inr ⟨v,hu,rfl,rfl⟩

theorem getOrCreateFromTelegram_everyday (payload : TelegramAuthRequest) :
    Within everydayFrame (getOrCreateFromTelegram payload) := by
  refine Within.reads_bind fun s => ?_
  cases s.db.userByTelegramId payload.telegramId with
  | some user =>
    have hupdate : Within everydayFrame (updateUser user.id (fun u => {u with
        username := payload.username
        firstName := payload.firstName
        lastName := payload.lastName
        languageCode := payload.languageCode}) fun _ => rfl) :=
      updateUser_everyday _ _ (fun _ => rfl) fun _ => rfl
    exact hupdate s
  | none =>
    have hinsert : ∀ user : User,user.status=.active → Within everydayFrame
        (alter fun db => {db with users := db.users.insert user}) := by
      intro user huser s
      refine ⟨rfl,rfl,rfl,.of_devices rfl le_rfl,Store.lasting_insert user,
        {Unattended.of_same rfl rfl rfl with users := ?_,newUsers := ?_}⟩
      · exact fun u hu =>
          ⟨u,Store.mem_of_get? (Store.get?_insert_kept _ (Store.get?_of_mem _ hu)),rfl,rfl⟩
      · intro v hv
        rcases Store.mem_of_insert hv with hv|hv
        · exact Or.inr ⟨v,hv,rfl,rfl⟩
        · exact Or.inl (hv ▸ huser)
    exact Within.bind (nextSerial_within everyday_books) (fun _ => (hinsert _ rfl).bind fun _ =>
      flush_within everyday_books) s

theorem requireInternalService_within {R : Frame Session} (auth : AuthSettings)
    (headers : Headers) : Within R (requireInternalService auth headers) := Within.require _ _

theorem getCurrentUser_within {R : Frame Session} (auth : AuthSettings) (headers : Headers) :
    Within R (getCurrentUser auth headers) :=
  (requireInternalService_within auth headers).bind fun _ => (Within.orRaise _ _).bind fun k =>
    currentUser_within k

theorem requireAdminRole_within {R : Frame Session} (jwt : Jwt) (auth : AuthSettings)
    (admins : Admins) (headers : Headers) (roles : List AdminRole) :
    Within R (requireAdminRole jwt auth admins headers roles) :=
  Within.bind ((Within.orRaise _ _).bind fun _ => getNow_within.bind fun _ =>
    (Within.orRaise _ _).bind fun _ => (Within.require _ _).bind fun _ =>
    (Within.orRaise _ _).bind fun _ => (Within.orRaise _ _).bind fun _ =>
    (Within.orRaise _ _).bind fun _ => (Within.require _ _).bind fun _ => Within.pure _) fun _ =>
    (Within.require _ _).bind fun _ => Within.pure _

theorem authenticate_within {R : Frame Session} (admins : Admins) (email password : String) :
    Within R (authenticate admins email password) :=
  (Within.orRaise _ _).bind fun _ => (Within.require _ _).bind fun _ => Within.pure _

section

variable {R : Frame Session} (hR : Bookkeeping R)

include hR

theorem issueTokens_within (jwt : Jwt) (auth : AuthSettings) (admin : AdminUser) :
    Within R (issueTokens jwt auth admin) :=
  getNow_within.bind fun _ => (nextSerial_within hR).bind fun _ => Within.pure _

theorem createAdmin_within (admins : Admins) (email password : String) (role : AdminRole) :
    Within R (createAdmin admins email password role) :=
  (nextSerial_within hR).bind fun _ => (flush_within hR).bind fun _ =>
    (Within.require _ _).bind fun _ => (Within.require _ _).bind fun _ => Within.pure _

/-- Whatever concerns the staff accounts only draws numbers. -/
theorem bootstrapFirstAdmin_within (auth : AuthSettings) (admins : Admins)
    (email password secret : String) : Within R
      (AdminAuthService.bootstrapFirstAdmin auth admins email password secret) :=
  (Within.require _ _).bind fun _ => (Within.require _ _).bind fun _ =>
    createAdmin_within hR admins email password .superadmin

end

/-- Whether the staff or the worker is at work. -/
def Happening.isOfficial : Happening → Bool
  | .request _ (.staff _) | .sweep _ => true
  | _ => false

/-- Customers, their payments and the staff accounts. -/
theorem handleHappening_everyday {cfg : Settings} {auth : AuthSettings} {jwt : Jwt}
    {admins : Admins} {h : Happening} (hh : h.isOfficial=false) :
    Within everydayFrame (handleHappening cfg auth jwt admins h) := by
  cases h with
  | request headers r =>
    cases r with
    | bot r =>
      exact (getCurrentUser_within auth headers).bind fun user =>
        (handleUser_everyday cfg user r).bind fun _ => Within.pure _
    | authenticateTelegram payload =>
      exact (requireInternalService_within auth headers).bind fun _ =>
        (getOrCreateFromTelegram_everyday payload).bind fun _ => Within.pure _
    | paymentWebhook rawBody signature =>
      exact ((handleWebhook_customer cfg rawBody signature).mono everyday_of_customer).bind fun _ =>
        Within.pure _
    | fetchSubscription token =>
      exact ((deliver_customer token).mono everyday_of_customer).bind fun _ => Within.pure _
    | adminLogin email password =>
      exact (authenticate_within admins email password).bind fun admin =>
        (issueTokens_within everyday_books jwt auth admin).bind fun _ => Within.pure _
    | bootstrap email password secret =>
      exact (bootstrapFirstAdmin_within everyday_books auth admins email password secret).bind
        fun admin => (issueTokens_within everyday_books jwt auth admin).bind fun _ => Within.pure _
    | staff r => cases hh
  | sweep asOf => cases hh
  | createAdmin email password role =>
    exact (createAdmin_within everyday_books admins email password role).bind fun _ =>
      Within.pure _
  | setAdmin adminId role isActive => exact Within.pure _
  | addPromoCode code discountType discountValue maxUses validFrom validUntil active =>
    exact (addPromoCode_within everyday_books (fun _ _ => alter_everyday fun _ => rfl) code
      discountType discountValue maxUses validFrom validUntil active).bind fun _ => Within.pure _
  | setDeviceLimitOverride subscriptionId limit =>
    have hupdate : Within everydayFrame (updateSubscription subscriptionId (overrideLimit limit)
        (overrideLimit_id limit)) := alter_everyday fun _ => rfl
    exact hupdate.bind fun _ => Within.pure _

end Backend

end VpnService
