import VpnService.Backend.Frames

namespace VpnService.Backend

theorem checkedPromo_within {R : Frame Session} (user : User) (promoCode : Option String) :
    Within R (checkedPromo user promoCode) := by
  unfold checkedPromo
  cases promoCode.filter fun c => c≠"" with
  | none => exact Within.pure _
  | some code =>
    refine getDb_within.bind fun db => getNow_within.bind fun now => ?_
    cases checkPromo db now user code with
    | ok promo => exact Within.pure _
    | error e => exact Within.raise _

section

variable {R : Frame Session} (hR : Bookkeeping R)

section

variable (hsales : ∀ (f : Store Subscription.id → Store Subscription.id)
    (g : Store Payment.id → Store Payment.id),Within R (alter fun db => {db with
      subscriptions := f db.subscriptions
      payments := g db.payments}))

section

include hsales

theorem updateSubscription_within (k : Id) (f : Subscription → Subscription)
    (hf : ∀ x,(f x).id=x.id) : Within R (updateSubscription k f hf) :=
  hsales (fun x => x.modify k f hf) id

theorem setPaymentStatus_within (k : Id) (status : PaymentStatus) :
    Within R (setPaymentStatus k status) := hsales id fun x => x.modify _ _ _

theorem cancelSubscription_within (telegramId : Int) (subscriptionId : Id) :
    Within R (cancelSubscription telegramId subscriptionId) :=
  (currentUser_within telegramId).bind fun _ => (getSubscription_within subscriptionId).bind
    fun _ => (Within.require _ _).bind fun _ => updateSubscription_within hsales _ _ _

include hR

theorem createPending_within (user : User) (plan : Plan) (autoRenew : Bool) :
    Within R (createPending user plan autoRenew) :=
  (Within.require _ _).bind fun _ => (nextSerial_within hR).bind fun _ =>
    Within.bind (hsales (fun x => x.insert _) id) fun _ => (flush_within hR).bind fun _ =>
    Within.pure _

theorem createPayment_within (cfg : Settings) (user : User) (plan : Plan)
    (promoCode : Option String) : Within R (createPayment cfg user plan promoCode) :=
  (checkedPromo_within user promoCode).bind fun _ => (nextSerial_within hR).bind fun _ =>
    (createPending_within hR hsales user plan false).bind fun _ => (nextSerial_within hR).bind
    fun _ => (nextSerial_within hR).bind fun _ => Within.bind (hsales id fun x => x.insert _)
    fun _ => (flush_within hR).bind fun _ => Within.pure _

end

variable (hpromos : ∀ (f : Store PromoCode.id → Store PromoCode.id)
    (g : Store PromoCodeRedemption.id → Store PromoCodeRedemption.id),
    Within R (alter fun db => {db with
      promoCodes := f db.promoCodes
      promoCodeRedemptions := g db.promoCodeRedemptions}))

section

include hR hpromos

theorem redeemPromo_within (payment : Payment) : Within R (redeemPromo payment) := by
  refine getDb_within.bind fun db => ?_
  cases (payment.promoCodeId.filter fun k => k≠0).bind db.promoCodes.get? with
  | none => exact Within.pure _
  | some promo =>
    exact getNow_within.bind fun _ => (nextSerial_within hR).bind fun _ =>
      hpromos (fun x => x.modify _ _ _) fun x => x.insert _

theorem addPromoCode_within (code : String) (discountType : PromoDiscountType)
    (discountValue : Rat) (maxUses : Option Int) (validFrom validUntil : Option Time)
    (active : Bool) : Within R
      (addPromoCode code discountType discountValue maxUses validFrom validUntil active) :=
  getDb_within.bind fun _ => (Within.require _ _).bind fun _ =>
    (nextSerial_within hR).bind fun _ => hpromos (fun x => x.insert _) id

include hsales

theorem confirmPayment_within (payment : Payment) : Within R (confirmPayment payment) :=
  (setPaymentStatus_within hsales _ _).bind fun _ => (Within.orRaise _ _).bind fun k =>
    (getSubscription_within k).bind fun _ => getDb_within.bind fun _ =>
    (Within.orRaise _ _).bind fun _ =>
    Within.bind (getNow_within.bind fun _ => (Within.require _ _).bind fun _ =>
      updateSubscription_within hsales _ _ _) fun _ =>
    redeemPromo_within hR hpromos payment

theorem applyEvent_within (payment : Payment) (status : PaymentIntentStatus) :
    Within R (applyEvent payment status) := by
  cases status with
  | pending => exact Within.pure _
  | succeeded => exact confirmPayment_within hR hsales hpromos payment
  | failed => exact setPaymentStatus_within hsales _ _

theorem handleWebhook_within (cfg : Settings) (rawBody : RawBody) (signature : Option Signature) :
    Within R (handleWebhook cfg rawBody signature) :=
  (Within.require _ _).bind fun _ => (Within.orRaise _ _).bind fun event =>
    getDb_within.bind fun _ => (Within.orRaise _ _).bind fun payment =>
    Within.ite (Within.pure _) ((applyEvent_within hR hsales hpromos payment event.status).bind
      fun _ => flush_within hR)

end

section

include hR hsales

/-- Payments and subscriptions are written by most requests; those that write other tables are
left to the caller. -/
theorem handleBilling_within (haudit : ∀ {s t},auditFrame.rel s t → R.rel s t) (cfg : Settings)
    {r : BillingRequest}
    (hauth : ∀ payload,r=.authenticateTelegram payload →
      Within R (getOrCreateFromTelegram payload))
    (hstatus : ∀ adminId userId status,r=.updateUserStatus adminId userId status →
      Within R (updateUserStatus adminId userId status))
    (hcreate : ∀ adminId payload,r=.createPlan adminId payload → Within R (createPlan payload))
    (hupdate : ∀ adminId planId payload,r=.updatePlan adminId planId payload →
      Within R (updatePlan planId payload))
    (hwebhook : ∀ rawBody signature,r=.paymentWebhook rawBody signature →
      Within R (handleWebhook cfg rawBody signature))
    (hpromo : ∀ code discountType discountValue maxUses validFrom validUntil active,
      r=.addPromoCode code discountType discountValue maxUses validFrom validUntil active →
      Within R (addPromoCode code discountType discountValue maxUses validFrom validUntil active)) :
    Within R (handleBilling cfg r) := by
  have hlog : ∀ adminId action targetType targetId metadata,
      Within R (recordAudit adminId action targetType targetId metadata) :=
    fun _ _ _ _ _ => (audit_written _ _ _ _ _).mono haudit
  cases r with
  | authenticateTelegram payload => exact (hauth _ rfl).bind fun _ => Within.pure _
  | updateUserStatus adminId userId status => exact (hstatus _ _ _ rfl).bind fun _ => Within.pure _
  | createPlan adminId payload =>
    exact (hcreate _ _ rfl).bind fun _ => (hlog _ _ _ _ _).bind fun _ => Within.pure _
  | updatePlan adminId planId payload =>
    exact (hupdate _ _ _ rfl).bind fun _ => (hlog _ _ _ _ _).bind fun _ => Within.pure _
  | createPayment telegramId planId promoCode =>
    exact (currentUser_within telegramId).bind fun u => (getPlan_within planId).bind fun p =>
      (createPayment_within hR hsales cfg u p promoCode).bind fun _ => Within.pure _
  | paymentWebhook rawBody signature => exact (hwebhook _ _ rfl).bind fun _ => Within.pure _
  | refundPayment adminId paymentId =>
    exact Within.bind (getDb_within.bind fun _ => (Within.orRaise _ _).bind fun _ =>
      Within.bind ((Within.require _ _).bind fun _ => setPaymentStatus_within hsales _ _) fun _ =>
      hlog _ _ _ _ _) fun _ => Within.pure _
  | cancelSubscription telegramId subscriptionId =>
    exact (cancelSubscription_within hsales telegramId subscriptionId).bind fun _ => Within.pure _
  | addPromoCode code discountType discountValue maxUses validFrom validUntil active =>
    exact (hpromo _ _ _ _ _ _ _ rfl).bind fun _ => Within.pure _
  | setDeviceLimitOverride subscriptionId limit =>
    exact (updateSubscription_within hsales _ _ _).bind fun _ => Within.pure _

end

end

theorem getOrCreateFromTelegram_within (hR : Bookkeeping R)
    (husers : ∀ f : Store User.id → Store User.id,
      Within R (alter fun db => {db with users := f db.users}))
    (payload : TelegramAuthRequest) : Within R (getOrCreateFromTelegram payload) := by
  refine getDb_within.bind fun db => ?_
  cases db.userByTelegramId payload.telegramId with
  | some user => exact husers fun x => x.modify _ _ _
  | none =>
    exact (nextSerial_within hR).bind fun _ => Within.bind (husers fun x => x.insert _) fun _ =>
      flush_within hR

theorem updateUserStatus_within (haudit : ∀ {s t},auditFrame.rel s t → R.rel s t)
    (husers : ∀ f : Store User.id → Store User.id,
      Within R (alter fun db => {db with users := f db.users}))
    (adminId userId : Id) (status : UserStatus) :
    Within R (updateUserStatus adminId userId status) :=
  getDb_within.bind fun _ => (Within.orRaise _ _).bind fun _ =>
    Within.bind (husers fun x => x.modify _ _ _) fun _ => (audit_written _ _ _ _ _).mono haudit

theorem createPlan_within (hR : Bookkeeping R)
    (hplans : ∀ f : Store Plan.id → Store Plan.id,
      Within R (alter fun db => {db with plans := f db.plans})) (payload : PlanCreate) :
    Within R (createPlan payload) :=
  (Within.require _ _).bind fun _ => getDb_within.bind fun _ => (Within.require _ _).bind fun _ =>
    (nextSerial_within hR).bind fun _ => Within.bind (hplans fun x => x.insert _) fun _ =>
    (flush_within hR).bind fun _ => Within.pure _

theorem updatePlan_within (hR : Bookkeeping R)
    (hplans : ∀ f : Store Plan.id → Store Plan.id,
      Within R (alter fun db => {db with plans := f db.plans})) (planId : Id)
    (payload : PlanUpdate) : Within R (updatePlan planId payload) :=
  (getPlan_within planId).bind fun _ => Within.bind (hplans fun x => x.modify _ _ _) fun _ =>
    flush_within hR

end

/-- Billing requests change no server, no device, no route and nothing at an agent. -/
theorem handleBilling_clerical (cfg : Settings) (r : BillingRequest) :
    Within clericalFrame (handleBilling cfg r) := by
  have husers : ∀ f : Store User.id → Store User.id,
      Within clericalFrame (alter fun db => {db with users := f db.users}) :=
    fun _ => alter_clerical fun _ => rfl
  have hplans : ∀ f : Store Plan.id → Store Plan.id,
      Within clericalFrame (alter fun db => {db with plans := f db.plans}) :=
    fun _ => alter_clerical fun _ => rfl
  have hsales : ∀ (f : Store Subscription.id → Store Subscription.id)
      (g : Store Payment.id → Store Payment.id),Within clericalFrame (alter fun db => {db with
        subscriptions := f db.subscriptions
        payments := g db.payments}) := fun _ _ => alter_clerical fun _ => rfl
  have hpromos : ∀ (f : Store PromoCode.id → Store PromoCode.id)
      (g : Store PromoCodeRedemption.id → Store PromoCodeRedemption.id),
      Within clericalFrame (alter fun db => {db with
        promoCodes := f db.promoCodes
        promoCodeRedemptions := g db.promoCodeRedemptions}) :=
    fun _ _ => alter_clerical fun _ => rfl
  exact handleBilling_within clerical_books hsales clerical_of_audit cfg
    (fun payload _ => getOrCreateFromTelegram_within clerical_books husers payload)
    (fun _ _ _ _ => updateUserStatus_within clerical_of_audit husers _ _ _)
    (fun _ payload _ => createPlan_within clerical_books hplans payload)
    (fun _ _ payload _ => updatePlan_within clerical_books hplans _ payload)
    (fun rawBody _ _ => handleWebhook_within clerical_books hsales hpromos cfg rawBody _)
    (fun code _ _ _ _ _ _ _ => addPromoCode_within clerical_books hpromos code _ _ _ _ _ _)

theorem handleBilling_fleet (cfg : Settings) (r : BillingRequest) :
    Within fleetFrame (handleBilling cfg r) := (handleBilling_clerical cfg r).mono fleet_of_clerical

theorem getVlessServer_within {R : Frame Session} (serverId : Id) :
    Within R (getVlessServer serverId) :=
  getDb_within.bind fun _ => (Within.orRaise _ _).bind fun _ =>
    (Within.orRaise _ _).bind fun _ => Within.pure _

/-- A write that leaves every server in the table, with the agent and the network it has. -/
def KeepsServers (f : Store VpnServer.id → Store VpnServer.id) : Prop :=
  ∀ table k server,table.get? k=some server →
    ∃ x,(f table).get? k=some x ∧ x.agentBaseUrl=server.agentBaseUrl ∧
      x.internalNetwork=server.internalNetwork

theorem keepsServers_id : KeepsServers id := fun _ _ server h => ⟨server,h,rfl,rfl⟩

theorem keepsServers_insert (server : VpnServer) : KeepsServers fun table => table.insert server :=
  fun table _ x h => ⟨x,table.get?_insert_kept h,rfl,rfl⟩

theorem updatedServer_id (payload : VpnServerUpdate) (x : VpnServer) :
    (updatedServer payload x).id=x.id := rfl

theorem keepsServers_update (k : Id) (payload : VpnServerUpdate) : KeepsServers fun table =>
    table.modify k (updatedServer payload) (updatedServer_id payload) := by
  intro table j server h
  dsimp only
  rw [Store.get?_modify,h]
  split_ifs
  · exact ⟨_,rfl,rfl,rfl⟩
  · exact ⟨server,rfl,rfl,rfl⟩

/-- A write that leaves every config in the table, at the server it is for. -/
def KeepsConfigs (g : Store VlessServerConfig.id → Store VlessServerConfig.id) : Prop :=
  ∀ table,∀ x∈table.rows,∃ y∈(g table).rows,y.serverId=x.serverId

theorem keepsConfigs_id : KeepsConfigs id := fun _ x hx => ⟨x,hx,rfl⟩

theorem keepsConfigs_insert (config : VlessServerConfig) :
    KeepsConfigs fun table => table.insert config := by
  intro table x hx
  have hget := table.get?_of_mem hx
  exact ⟨x,Store.mem_of_get? (table.get?_insert_kept hget),rfl⟩

theorem keepsConfigs_update (k : Id) (payload : VlessServerUpdate) : KeepsConfigs fun table =>
    table.modify k (updatedConfig payload) fun _ => rfl := by
  intro table x hx
  have hkey : ∀ c : VlessServerConfig,(updatedConfig payload c).id=c.id := fun _ => rfl
  by_cases hid : x.id=k
  · exact ⟨updatedConfig payload x,(Store.mem_modify hkey).mpr (Or.inl ⟨x,hx,hid,rfl⟩),rfl⟩
  · exact ⟨x,(Store.mem_modify hkey).mpr (Or.inr ⟨hx,hid⟩),rfl⟩

section

variable {R : Frame Session} (hR : Bookkeeping R)
  (hwrite : ∀ {f : Store VpnServer.id → Store VpnServer.id}
    {g : Store VlessServerConfig.id → Store VlessServerConfig.id},KeepsServers f → KeepsConfigs g →
    Within R (alter fun db => {db with
      vpnServers := f db.vpnServers
      vlessServerConfigs := g db.vlessServerConfigs}))

include hR hwrite

theorem createServer_within (payload : VpnServerCreate) : Within R (createServer payload) :=
  (nextSerial_within hR).bind fun _ =>
    Within.bind (hwrite (keepsServers_insert _) keepsConfigs_id) fun _ =>
    (flush_within hR).bind fun _ => Within.pure _

theorem createVlessServer_within (payload : VlessServerCreate) :
    Within R (createVlessServer payload) :=
  (nextSerial_within hR).bind fun _ =>
    Within.bind (hwrite (keepsServers_insert _) keepsConfigs_id) fun _ =>
    (flush_within hR).bind fun _ => (nextSerial_within hR).bind fun _ =>
    Within.bind (hwrite keepsServers_id (keepsConfigs_insert _)) fun _ =>
    (flush_within hR).bind fun _ => Within.pure _

/-- Requests about servers write the tables of servers and their configs, an audit row, and what
the cascade of a deleted server leaves. -/
theorem handleServers_within (haudit : ∀ {s t},auditFrame.rel s t → R.rel s t)
    (hdrop : ∀ k,Within R (alter (dropServer k))) (r : ServerRequest) :
    Within R (handleServers r) := by
  have hlog : ∀ adminId action targetType targetId metadata,
      Within R (recordAudit adminId action targetType targetId metadata) :=
    fun _ _ _ _ _ => (audit_written _ _ _ _ _).mono haudit
  cases r with
  | createServer adminId payload =>
    exact (createServer_within hR hwrite payload).bind fun _ => (hlog _ _ _ _ _).bind fun _ =>
      Within.pure _
  | updateServer adminId serverId payload =>
    exact Within.bind ((getServer_within serverId).bind fun _ =>
      Within.bind (hwrite (keepsServers_update _ payload) keepsConfigs_id) fun _ =>
      flush_within hR) fun _ =>
      (hlog _ _ _ _ _).bind fun _ => Within.pure _
  | deleteServer adminId serverId =>
    exact Within.bind ((getServer_within serverId).bind fun _ => hdrop _) fun _ =>
      (hlog _ _ _ _ _).bind fun _ => Within.pure _
  | createVlessServer adminId payload =>
    exact (createVlessServer_within hR hwrite payload).bind fun _ => (hlog _ _ _ _ _).bind
      fun _ => Within.pure _
  | updateVlessServer adminId serverId payload =>
    exact Within.bind ((getVlessServer_within serverId).bind fun _ =>
      Within.bind (hwrite (keepsServers_update _ _) (keepsConfigs_update _ payload)) fun _ =>
      (flush_within hR).bind fun _ => flush_within hR) fun _ =>
      (hlog _ _ _ _ _).bind fun _ => Within.pure _
  | deleteVlessServer adminId serverId =>
    exact Within.bind ((getVlessServer_within serverId).bind fun _ => hdrop _) fun _ =>
      (hlog _ _ _ _ _).bind fun _ => Within.pure _

end

theorem handleServers_hosting (r : ServerRequest) :
    Within hostingFrame (handleServers r) :=
  handleServers_within hosting_books (fun _ _ => alter_hosting fun _ => rfl)
    hosting_of_audit (fun _ => alter_hosting fun _ => rfl) r

theorem handleServers_contract (r : ServerRequest) :
    Within contractFrame (handleServers r) := (handleServers_hosting r).mono contract_of_hosting

theorem handleServers_billing (r : ServerRequest) :
    Within billingFrame (handleServers r) := (handleServers_contract r).mono billing_of_contract

end VpnService.Backend
