import VpnService.Backend.Api

namespace VpnService.Backend

open Agent

/-- Drawing a number and consuming an outcome are changes the frame allows. -/
structure Bookkeeping (R : Frame Session) : Prop where
  serial : ∀ s : Session,R.rel s {s with serial := s.serial+1}
  outcomes : ∀ (s : Session) (os : List Outcome),R.rel s {s with outcomes := os}

theorem nextOutcome_run {s t : Session} {o : Outcome} (h : nextOutcome s=(.ok o,t)) :
    ∃ os,t={s with outcomes := os} := by
  unfold nextOutcome at h
  cases hs : s.outcomes with
  | nil =>
    rw [hs] at h
    cases h
    exact ⟨s.outcomes,rfl⟩
  | cons x xs =>
    rw [hs] at h
    cases h
    exact ⟨xs,rfl⟩

section

variable {R : Frame Session}

theorem getDb_within : Within R getDb := Within.reads _

theorem getNow_within : Within R getNow := Within.reads _

theorem alter_within {f : Database → Database} (h : ∀ s : Session,R.rel s {s with db := f s.db}) :
    Within R (alter f) := h

theorem nextSerial_within (hR : Bookkeeping R) : Within R nextSerial := hR.serial

theorem nextOutcome_within (hR : Bookkeeping R) : Within R nextOutcome := by
  intro s
  unfold WithinAt nextOutcome
  cases s.outcomes with
  | nil => exact R.refl s
  | cons o os => exact hR.outcomes s os

theorem flush_within (hR : Bookkeeping R) : Within R flush :=
  (nextOutcome_within hR).bind fun _ => Within.ite (Within.pure _) (Within.raise _)

theorem vpnRequest_within (hR : Bookkeeping R) {server : VpnServer}
    {op : IpPeerStore → Option IpPeerStore}
    (h : ∀ (s : Session) store,op (s.vpn server.agentBaseUrl)=some store →
      R.rel s (setVpn server.agentBaseUrl store s)) : Within R (vpnRequest server op) := by
  refine (nextOutcome_within hR).bind fun o => ?_
  refine Within.reads_bind fun s => ?_
  cases hop : op (s.vpn server.agentBaseUrl) with
  | none => exact R.refl s
  | some store =>
    have hlast : Within R (if o=.answered then pure () else
        Eff.raise (vpnAgentUnreachable server) : Req Unit) :=
      Within.ite (Within.pure _) (Within.raise _)
    have hwrite : WithinAt R (Eff.change (setVpn server.agentBaseUrl store) : Req Unit) s :=
      h s store hop
    cases ho : o.executed with
    | false => exact hlast s
    | true => exact hwrite.bind fun _ t _ => hlast t

theorem xrayRequest_within (hR : Bookkeeping R) {baseUrl : String} {op : UserStore → UserStore}
    (h : ∀ s : Session,R.rel s (setXray baseUrl (op (s.xray baseUrl)) s)) :
    Within R (xrayRequest baseUrl op) := by
  have hattempts : ∀ n,Within R (xrayAttempts baseUrl op n) := by
    intro n
    induction n with
    | zero => exact Within.raise _
    | succ n ih =>
      refine (nextOutcome_within hR).bind fun o => ?_
      have hlast : Within R (if o=.answered then pure () else if o.transport then
          xrayAttempts baseUrl op n else Eff.raise (xrayAgentUnreachable baseUrl "") : Req Unit) :=
        Within.ite (Within.pure _) (Within.ite ih (Within.raise _))
      cases ho : o.executed with
      | false => exact hlast
      | true => exact (Within.change h).bind fun _ => hlast
  exact hattempts 3

/-- `vpnRequest_within` from one state, whose stores the operation is known to suit. -/
theorem vpnRequest_withinAt (hR : Bookkeeping R) {server : VpnServer}
    {op : IpPeerStore → Option IpPeerStore} {s : Session}
    (h : ∀ os store,op (s.vpn server.agentBaseUrl)=some store →
      R.rel {s with outcomes := os} (setVpn server.agentBaseUrl store {s with outcomes := os})) :
    WithinAt R (vpnRequest server op) s := by
  refine (nextOutcome_within hR s).bind fun o t ht => ?_
  obtain ⟨os,hos⟩ := nextOutcome_run ht
  subst hos
  refine WithinAt.reads_bind ?_
  cases hop : op (s.vpn server.agentBaseUrl) with
  | none => exact R.refl _
  | some store =>
    have hlast : Within R (if o=.answered then pure () else
        Eff.raise (vpnAgentUnreachable server) : Req Unit) :=
      Within.ite (Within.pure _) (Within.raise _)
    have hwrite : WithinAt R (Eff.change (setVpn server.agentBaseUrl store) : Req Unit)
        {s with outcomes := os} := h os store hop
    cases ho : o.executed with
    | false => exact hlast _
    | true => exact hwrite.bind fun _ t _ => hlast t

/-- `xrayRequest_within` from one state; what its attempts rely on survives them. -/
theorem xrayRequest_withinAt (hR : Bookkeeping R) {baseUrl : String} {op : UserStore → UserStore}
    (inv : Session → Prop) (hkeep : ∀ {s t},inv s → R.rel s t → inv t)
    (h : ∀ s,inv s → R.rel s (setXray baseUrl (op (s.xray baseUrl)) s)) {s : Session}
    (hs : inv s) : WithinAt R (xrayRequest baseUrl op) s := by
  have hattempts : ∀ n s,inv s → WithinAt R (xrayAttempts baseUrl op n) s := by
    intro n
    induction n with
    | zero => exact fun s _ => R.refl s
    | succ n ih =>
      intro s hs
      refine (nextOutcome_within hR s).bind fun o t ht => ?_
      have hst : inv t := hkeep hs ((nextOutcome_within hR s).rel_of_run ht)
      have hlast : ∀ u,inv u → WithinAt R (if o=.answered then pure () else if o.transport then
          xrayAttempts baseUrl op n else
          Eff.raise (xrayAgentUnreachable baseUrl "") : Req Unit) u := by
        intro u hu
        split_ifs
        · exact R.refl u
        · exact ih u hu
        · exact R.refl u
      cases ho : o.executed with
      | false => exact hlast t hst
      | true =>
        have hwrite := h t hst
        exact WithinAt.bind (m := Eff.change fun s => setXray baseUrl (op (s.xray baseUrl)) s)
          hwrite fun _ u hu => hlast u (by cases hu; exact hkeep hst hwrite)
  exact hattempts 3 s hs

theorem generateQrCode_within (content : QrContent) : Within R (generateQrCode content) :=
  (Within.reads _).bind fun _ => Within.ite (Within.pure _) (Within.raise _)

end

theorem flush_ok {s t : Session} (h : flush s=(.ok (),t)) : ∃ os,t={s with outcomes := os} := by
  obtain ⟨o,u,ho,hu⟩ := Eff.bind_ok.mp h
  obtain ⟨os,he⟩ := nextOutcome_run ho
  split_ifs at hu
  · cases hu
    exact ⟨os,he⟩
  · cases hu

/-- An answered request has done what was asked. -/
theorem vpnRequest_ok {server : VpnServer} {op : IpPeerStore → Option IpPeerStore}
    {s t : Session} (h : vpnRequest server op s=(.ok (),t)) :
    ∃ os store,op (s.vpn server.agentBaseUrl)=some store ∧
      t=setVpn server.agentBaseUrl store {s with outcomes := os} := by
  obtain ⟨o,u,ho,hu⟩ := Eff.bind_ok.mp h
  obtain ⟨os,he⟩ := nextOutcome_run ho
  subst he
  rw [Eff.reads_bind_run] at hu
  cases hop : op (s.vpn server.agentBaseUrl) with
  | none =>
    simp only [hop] at hu
    cases hu
  | some store =>
    simp only [hop] at hu
    cases o with
    | answered =>
      cases hu
      exact ⟨os,store,rfl,rfl⟩
    | refused => cases hu
    | lost => cases hu
    | rejected => cases hu
    | broken => cases hu

theorem setXray_setXray (url : String) (a b : UserStore) (s : Session) :
    setXray url b (setXray url a s)=setXray url b s := by
  have h : (fun u => if u=url then b else if u=url then a else s.xray u)=
      fun u => if u=url then b else s.xray u := by
    funext u
    by_cases hu : u=url <;> simp [hu]
  simp only [setXray,h]

theorem xrayAttempts_ok {baseUrl : String} {op : UserStore → UserStore}
    (hop : ∀ x,op (op x)=op x) {n : Nat} {s t : Session}
    (h : xrayAttempts baseUrl op n s=(.ok (),t)) :
    ∃ os,t=setXray baseUrl (op (s.xray baseUrl)) {s with outcomes := os} := by
  induction n generalizing s with
  | zero => cases h
  | succ n ih =>
    obtain ⟨o,u,ho,hu⟩ := Eff.bind_ok.mp h
    obtain ⟨os,he⟩ := nextOutcome_run ho
    subst he
    cases o with
    | answered =>
      cases hu
      exact ⟨os,rfl⟩
    | refused =>
      obtain ⟨os',ht⟩ := ih hu
      exact ⟨os',ht⟩
    | lost =>
      obtain ⟨os',ht⟩ := ih (s := setXray baseUrl (op (s.xray baseUrl)) {s with outcomes := os}) hu
      refine ⟨os',?_⟩
      rw [ht]
      have hx : (setXray baseUrl (op (s.xray baseUrl)) {s with outcomes := os}).xray baseUrl=
          op (s.xray baseUrl) := by simp [setXray]
      rw [hx,hop]
      exact setXray_setXray baseUrl _ _ {s with outcomes := os'}
    | rejected => cases hu
    | broken => cases hu

/-- An answered request has done what was asked, once or, being idempotent, more often. -/
theorem xrayRequest_ok {baseUrl : String} {op : UserStore → UserStore}
    (hop : ∀ x,op (op x)=op x) {s t : Session} (h : xrayRequest baseUrl op s=(.ok (),t)) :
    ∃ os,t=setXray baseUrl (op (s.xray baseUrl)) {s with outcomes := os} :=
  xrayAttempts_ok hop h

theorem createPeer_ok {cfg : Settings} {deviceId : Id} {server : VpnServer} {ip : IpAddress}
    {s t : Session} {r : PeerProvisioningResult}
    (h : createPeer cfg deviceId server ip s=(.ok r,t)) :
    ∃ os,r=⟨s.serial,s.serial,ip,server.publicKey,server.endpoint,cfg.vpnDnsList⟩ ∧
      t=setVpn server.agentBaseUrl
        (PeerStore.createPeer s.serial deviceId ip s.now (s.vpn server.agentBaseUrl))
        {s with serial := s.serial+1,outcomes := os} := by
  obtain ⟨now,u,hu,h⟩ := Eff.bind_ok.mp h
  cases hu
  obtain ⟨key,u,hu,h⟩ := Eff.bind_ok.mp h
  cases hu
  obtain ⟨_,u,hu,h⟩ := Eff.bind_ok.mp h
  cases h
  obtain ⟨os,store,hstore,ht⟩ := vpnRequest_ok hu
  cases hstore
  exact ⟨os,rfl,ht⟩

/-- The frame of what keeps a part of the state and only ever draws new numbers. -/
def keeping {τ : Type} (view : Session → τ) : Frame Session where
  rel s t := view t=view s ∧ s.serial≤t.serial
  refl _ := ⟨rfl,le_rfl⟩
  trans h k := ⟨k.1.trans h.1,h.2.trans k.2⟩

/-- The users, plans, subscriptions and payments. -/
def Database.billing (db : Database) : Store User.id×Store Plan.id×Store Subscription.id×
    Store PromoCode.id×Store PromoCodeRedemption.id×Store Payment.id :=
  (db.users,db.plans,db.subscriptions,db.promoCodes,db.promoCodeRedemptions,db.payments)

def billingView (s : Session) : Store User.id×Store Plan.id×Store Subscription.id×
    Store PromoCode.id×Store PromoCodeRedemption.id×Store Payment.id := s.db.billing

/-- What servers, devices and their credentials are, at the backend and at the agents. -/
def fleetView (s : Session) : Store VpnServer.id×Store VlessServerConfig.id×Store Device.id×
    Store VpnPeer.id×Store VlessCredential.id×Store SubscriptionLink.id×
    (String → IpPeerStore)×(String → UserStore) :=
  (s.db.vpnServers,s.db.vlessServerConfigs,s.db.devices,s.db.vpnPeers,s.db.vlessCredentials,
    s.db.subscriptionLinks,s.vpn,s.xray)

/-- What routes are made from, and the profiles made. -/
def routingView (s : Session) : Store RoutingCategory.id×Store RoutingRule.id×
    Store UserRoutingProfile.id×Store UserCategoryPreference.id×Store UserCustomDomain.id×
    Store VpnProfile.id :=
  (s.db.routingCategories,s.db.routingRules,s.db.userRoutingProfiles,s.db.userCategoryPreferences,
    s.db.userCustomDomains,s.db.vpnProfiles)

abbrev billingFrame : Frame Session := keeping billingView

abbrev fleetFrame : Frame Session := keeping fleetView

/-- Routing settings, profiles and the audit log may change, and nothing else. -/
abbrev coreFrame : Frame Session := keeping fun s => (billingView s,fleetView s)

/-- Servers, devices and their credentials may change, and neither billing nor the links. -/
abbrev contractFrame : Frame Session := keeping fun s => (billingView s,s.db.subscriptionLinks)

/-- Only the audit log and the notices may change. -/
abbrev auditFrame : Frame Session := keeping fun s => (billingView s,fleetView s,routingView s)

/-- Routing settings and the audit log may change, and no profile. -/
abbrev settingsFrame : Frame Session :=
  keeping fun s => (billingView s,fleetView s,s.db.vpnProfiles)

/-- Billing and the audit log may change, and nothing else. -/
abbrev clericalFrame : Frame Session := keeping fun s => (fleetView s,routingView s)

/-- Servers, devices, their credentials and the audit log may change, and nothing else. -/
abbrev hostingFrame : Frame Session :=
  keeping fun s => (billingView s,s.db.subscriptionLinks,routingView s)

theorem settings_of_audit {s t : Session} (h : auditFrame.rel s t) : settingsFrame.rel s t := by
  obtain ⟨hview,hs⟩ := h
  simp only [routingView,Prod.mk.injEq] at hview
  obtain ⟨hb,hf,_,_,_,_,_,hp⟩ := hview
  exact ⟨Prod.ext hb (Prod.ext hf hp),hs⟩

theorem clerical_of_audit {s t : Session} (h : auditFrame.rel s t) : clericalFrame.rel s t :=
  ⟨congrArg Prod.snd h.1,h.2⟩

theorem hosting_of_audit {s t : Session} (h : auditFrame.rel s t) : hostingFrame.rel s t := by
  obtain ⟨hview,hs⟩ := h
  simp only [fleetView,Prod.mk.injEq] at hview
  obtain ⟨hb,⟨_,_,_,_,_,hl,_⟩,hr⟩ := hview
  exact ⟨Prod.ext hb (Prod.ext hl hr),hs⟩

theorem core_of_settings {s t : Session} (h : settingsFrame.rel s t) : coreFrame.rel s t := by
  obtain ⟨hview,hs⟩ := h
  simp only [Prod.mk.injEq] at hview
  exact ⟨Prod.ext hview.1 hview.2.1,hs⟩

theorem fleet_of_clerical {s t : Session} (h : clericalFrame.rel s t) : fleetFrame.rel s t :=
  ⟨congrArg Prod.fst h.1,h.2⟩

theorem contract_of_hosting {s t : Session} (h : hostingFrame.rel s t) :
    contractFrame.rel s t := by
  obtain ⟨hview,hs⟩ := h
  simp only [Prod.mk.injEq] at hview
  exact ⟨Prod.ext hview.1 hview.2.1,hs⟩

theorem profiles_of_routing {s t : Session} (h : routingView t=routingView s) :
    t.db.vpnProfiles=s.db.vpnProfiles := by
  simp only [routingView,Prod.mk.injEq] at h
  exact h.2.2.2.2.2

theorem billing_of_contract {s t : Session} (h : contractFrame.rel s t) : billingFrame.rel s t :=
  ⟨congrArg Prod.fst h.1,h.2⟩

theorem links_of_contract {s t : Session} (h : contractFrame.rel s t) :
    t.db.subscriptionLinks=s.db.subscriptionLinks := congrArg Prod.snd h.1

theorem contract_of_core {s t : Session} (h : coreFrame.rel s t) : contractFrame.rel s t := by
  obtain ⟨hview,hs⟩ := h
  simp only [fleetView,Prod.mk.injEq] at hview
  obtain ⟨hb,_,_,_,_,_,hl,_⟩ := hview
  exact ⟨Prod.ext hb hl,hs⟩

theorem contract_books : Bookkeeping contractFrame :=
  ⟨fun _ => ⟨rfl,by simp⟩,fun _ _ => ⟨rfl,le_rfl⟩⟩

theorem billing_of_core {s t : Session} (h : coreFrame.rel s t) : billingFrame.rel s t :=
  ⟨congrArg Prod.fst h.1,h.2⟩

theorem core_of_audit {s t : Session} (h : auditFrame.rel s t) : coreFrame.rel s t :=
  core_of_settings (settings_of_audit h)

theorem fleet_of_core {s t : Session} (h : coreFrame.rel s t) : fleetFrame.rel s t :=
  ⟨congrArg Prod.snd h.1,h.2⟩

theorem core_books : Bookkeeping coreFrame :=
  ⟨fun _ => ⟨rfl,by simp⟩,fun _ _ => ⟨rfl,le_rfl⟩⟩

theorem audit_books : Bookkeeping auditFrame :=
  ⟨fun _ => ⟨rfl,by simp⟩,fun _ _ => ⟨rfl,le_rfl⟩⟩

theorem settings_books : Bookkeeping settingsFrame :=
  ⟨fun _ => ⟨rfl,by simp⟩,fun _ _ => ⟨rfl,le_rfl⟩⟩

theorem clerical_books : Bookkeeping clericalFrame :=
  ⟨fun _ => ⟨rfl,by simp⟩,fun _ _ => ⟨rfl,le_rfl⟩⟩

theorem hosting_books : Bookkeeping hostingFrame :=
  ⟨fun _ => ⟨rfl,by simp⟩,fun _ _ => ⟨rfl,le_rfl⟩⟩

section

variable {R : Frame Session}

theorem orRaiseDb_within {α : Type} {e : AppError} {f : Database → Option α} :
    Within R (getDb >>= fun db => Eff.orRaise e (f db)) :=
  getDb_within.bind fun _ => Within.orRaise _ _

theorem getPlan_within (planId : Id) : Within R (getPlan planId) := orRaiseDb_within

theorem getSubscription_within (subscriptionId : Id) :
    Within R (getSubscription subscriptionId) := orRaiseDb_within

theorem getServer_within (serverId : Id) : Within R (getServer serverId) := orRaiseDb_within

theorem getOwned_within (deviceId userId : Id) : Within R (getOwned deviceId userId) :=
  orRaiseDb_within

theorem getLink_within (deviceId : Id) : Within R (getLink deviceId) := orRaiseDb_within

theorem answerLink_within (link : SubscriptionLink) : Within R (answerLink link) :=
  getDb_within.bind fun _ => Within.pure _

theorem currentUser_within (telegramId : Int) : Within R (currentUser telegramId) :=
  getDb_within.bind fun _ => (Within.orRaise _ _).bind fun _ =>
    (Within.require _ _).bind fun _ => Within.pure _

theorem refreshed_within (device : Device) : Within R (refreshed device) :=
  getDb_within.bind fun _ => Within.pure _

theorem currentProfile_within (ps : List VpnProfile) : Within R (currentProfile ps) := by
  match ps with
  | [] => exact Within.pure _
  | [p] => exact Within.pure _
  | _::_::_ => exact Within.raise _

end

theorem alter_core {f : Database → Database}
    (h : ∀ s : Session,(billingView {s with db := f s.db},fleetView {s with db := f s.db})=
      (billingView s,fleetView s)) : Within coreFrame (alter f) := fun s => ⟨h s,le_rfl⟩

theorem alter_contract {f : Database → Database}
    (h : ∀ s : Session,(billingView {s with db := f s.db},(f s.db).subscriptionLinks)=
      (billingView s,s.db.subscriptionLinks)) : Within contractFrame (alter f) :=
  fun s => ⟨h s,le_rfl⟩

theorem alter_billing {f : Database → Database}
    (h : ∀ s : Session,billingView {s with db := f s.db}=billingView s) :
    Within billingFrame (alter f) := fun s => ⟨h s,le_rfl⟩

theorem alter_settings {f : Database → Database}
    (h : ∀ s : Session,(billingView {s with db := f s.db},fleetView {s with db := f s.db},
      (f s.db).vpnProfiles)=(billingView s,fleetView s,s.db.vpnProfiles)) :
    Within settingsFrame (alter f) := fun s => ⟨h s,le_rfl⟩

theorem alter_clerical {f : Database → Database}
    (h : ∀ s : Session,(fleetView {s with db := f s.db},routingView {s with db := f s.db})=
      (fleetView s,routingView s)) : Within clericalFrame (alter f) := fun s => ⟨h s,le_rfl⟩

theorem alter_hosting {f : Database → Database}
    (h : ∀ s : Session,(billingView {s with db := f s.db},(f s.db).subscriptionLinks,
      routingView {s with db := f s.db})=(billingView s,s.db.subscriptionLinks,routingView s)) :
    Within hostingFrame (alter f) := fun s => ⟨h s,le_rfl⟩

section

theorem audit_written (adminId : Option Id) (action targetType : String) (targetId : Option Id)
    (metadata : List (String×String)) :
    Within auditFrame (recordAudit adminId action targetType targetId metadata) :=
  getNow_within.bind fun _ => (nextSerial_within audit_books).bind fun _ =>
    Within.bind (alter_within fun _ => ⟨rfl,le_rfl⟩) fun _ => flush_within audit_books

theorem audit_settings (adminId : Option Id) (action targetType : String) (targetId : Option Id)
    (metadata : List (String×String)) :
    Within settingsFrame (recordAudit adminId action targetType targetId metadata) :=
  (audit_written _ _ _ _ _).mono settings_of_audit

theorem audit_core (adminId : Option Id) (action targetType : String) (targetId : Option Id)
    (metadata : List (String×String)) :
    Within coreFrame (recordAudit adminId action targetType targetId metadata) :=
  (audit_settings _ _ _ _ _).mono core_of_settings

theorem getOrCreateUserProfile_settings (userId : Id) :
    Within settingsFrame (getOrCreateUserProfile userId) := by
  refine getDb_within.bind fun db => ?_
  cases db.routingProfileOf userId with
  | some p => exact Within.pure _
  | none =>
    exact (nextSerial_within settings_books).bind fun _ => (alter_settings fun _ => rfl).bind
      fun _ => (flush_within settings_books).bind fun _ => Within.pure _

theorem getMySettings_settings (userId : Id) : Within settingsFrame (getMySettings userId) :=
  (getOrCreateUserProfile_settings userId).bind fun _ => Within.pure _

theorem profileAllowedIps_within {R : Frame Session} (userId : Id) (mode : RoutingMode) :
    Within R (profileAllowedIps userId mode) := by
  cases mode with
  | fullVpn => exact Within.pure _
  | smartVpn =>
    exact getDb_within.bind fun _ => (Within.reads _).bind fun _ =>
      (Within.orRaise _ _).bind fun _ => Within.pure _

theorem regenerateProfile_core (cfg : Settings) (deviceId userId : Id) :
    Within coreFrame (regenerateProfile cfg deviceId userId) :=
  ((getOrCreateUserProfile_settings userId).mono core_of_settings).bind fun p =>
    (profileAllowedIps_within userId p.mode).bind fun _ => getDb_within.bind fun _ =>
    (currentProfile_within _).bind fun _ =>
    (alter_core fun _ => rfl).bind fun _ => getNow_within.bind fun _ =>
    (nextSerial_within core_books).bind fun _ => (alter_core fun _ => rfl).bind fun _ =>
    (flush_within core_books).bind fun _ => Within.pure _

theorem createCategory_settings (name : String) (description : Option String) :
    Within settingsFrame (createCategory name description) :=
  (nextSerial_within settings_books).bind fun _ => (flush_within settings_books).bind fun _ =>
    getDb_within.bind fun _ => (Within.require _ _).bind fun _ =>
    (alter_settings fun _ => rfl).bind fun _ => Within.pure _

theorem addRule_settings (cfg : Settings) (categoryId : Id) (domain : String)
    (routeType : RouteType) (enabled : Bool) :
    Within settingsFrame (addRule cfg categoryId domain routeType enabled) :=
  getNow_within.bind fun _ => (nextSerial_within settings_books).bind fun _ =>
    (flush_within settings_books).bind fun _ => getDb_within.bind fun _ =>
    (Within.require _ _).bind fun _ => (alter_settings fun _ => rfl).bind fun _ =>
    Within.pure _

theorem setMode_settings (userId : Id) (mode : RoutingMode) :
    Within settingsFrame (setMode userId mode) :=
  (getOrCreateUserProfile_settings userId).bind fun _ => alter_settings fun _ => rfl

theorem writePreference_settings (userId categoryId : Id) (enabled : Bool) :
    Within settingsFrame (writePreference userId categoryId enabled) := by
  refine getDb_within.bind fun db => ?_
  cases db.userCategoryPreferences.rows.find? fun p =>
    p.userId=userId ∧ p.categoryId=categoryId with
  | none => exact (nextSerial_within settings_books).bind fun _ => alter_settings fun _ => rfl
  | some p => exact alter_settings fun _ => rfl

theorem setCategoryPreference_settings (userId categoryId : Id) (enabled : Bool) :
    Within settingsFrame (setCategoryPreference userId categoryId enabled) :=
  getDb_within.bind fun _ => (Within.require _ _).bind fun _ =>
    (writePreference_settings userId categoryId enabled).bind fun _ => flush_within settings_books

theorem addCustomDomain_settings (cfg : Settings) (userId : Id) (domain : String)
    (routeType : RouteType) : Within settingsFrame (addCustomDomain cfg userId domain routeType) := by
  refine getDb_within.bind fun db => ?_
  cases (db.customDomains userId).find? fun d => d.domain=normalizeDomain cfg domain with
  | some d => exact alter_settings fun _ => rfl
  | none =>
    exact getNow_within.bind fun _ => (nextSerial_within settings_books).bind fun _ =>
      (alter_settings fun _ => rfl).bind fun _ => flush_within settings_books

/-- Routing requests change neither billing, the fleet nor a profile. -/
theorem handleRouting_settings (cfg : Settings) (r : RoutingRequest) :
    Within settingsFrame (handleRouting cfg r) := by
  cases r with
  | createCategory adminId name description =>
    exact (createCategory_settings name description).bind fun _ =>
      (audit_settings _ _ _ _ _).bind fun _ => Within.pure _
  | addRule categoryId domain routeType enabled =>
    exact (addRule_settings cfg categoryId domain routeType enabled).bind fun _ => Within.pure _
  | getMySettings telegramId =>
    exact (currentUser_within telegramId).bind fun u => (getMySettings_settings u.id).bind fun _ =>
      Within.pure _
  | setMyMode telegramId mode =>
    exact (currentUser_within telegramId).bind fun u => (setMode_settings u.id mode).bind fun _ =>
      (getMySettings_settings u.id).bind fun _ => Within.pure _
  | setMyCategory telegramId categoryId enabled =>
    exact (currentUser_within telegramId).bind fun u =>
      (setCategoryPreference_settings u.id categoryId enabled).bind fun _ =>
      (getMySettings_settings u.id).bind fun _ => Within.pure _
  | addMyDomain telegramId domain routeType =>
    exact (currentUser_within telegramId).bind fun u =>
      (addCustomDomain_settings cfg u.id domain routeType).bind fun _ =>
      (getMySettings_settings u.id).bind fun _ => Within.pure _

theorem handleRouting_core (cfg : Settings) (r : RoutingRequest) :
    Within coreFrame (handleRouting cfg r) :=
  (handleRouting_settings cfg r).mono core_of_settings

end

section

variable {R : Frame Session}

theorem authorize_within (h : ∀ l,Within R (recordAccess l)) (token : Secret) :
    Within R (authorize token) :=
  Within.bind (Within.ite (Within.pure _) (getDb_within.bind fun _ => Within.pure _)) fun _ =>
    (Within.orRaise _ _).bind fun l => getDb_within.bind fun _ => (Within.orRaise _ _).bind fun _ =>
    getNow_within.bind fun _ => (Within.require _ _).bind fun _ => (h l).bind fun _ =>
    Within.pure _

/-- All a delivery writes is the access it records. -/
theorem deliver_within (h : ∀ l,Within R (recordAccess l)) (token : Secret) :
    Within R (deliver token) := by
  refine (authorize_within h token).bind fun device => ?_
  cases device.protocol with
  | vless => exact getDb_within.bind fun _ => (Within.require _ _).bind fun _ => Within.pure _
  | wireguard =>
    exact getDb_within.bind fun _ => (Within.orRaise _ _).bind fun _ =>
      (Within.orRaise _ _).bind fun _ => (currentProfile_within _).bind fun _ => Within.pure _

theorem disableAllForUser_within (h : ∀ d,Within R (disable d)) (userId : Id) :
    Within R (disableAllForUser userId) :=
  getDb_within.bind fun _ => Within.each fun d _ => Within.ite (h d) (Within.pure _)

theorem processOne_within (haudit : ∀ {s t},auditFrame.rel s t → R.rel s t) (x : Subscription)
    (hexpire : Within R (expire x)) (hdisable : ∀ d,Within R (disable d)) :
    Within R (processOne x) := by
  refine getDb_within.bind fun _ => (Within.orRaise _ _).bind fun _ => (Within.orRaise _ _).bind
    fun user => hexpire.bind fun _ => (disableAllForUser_within hdisable _).bind fun _ => ?_
  have hnotify : ∀ name,Within auditFrame (notify user.telegramId name) := fun _ _ => ⟨rfl,le_rfl⟩
  exact ((audit_written _ _ _ _ _).mono haudit).bind fun _ => (hnotify _).mono haudit

/-- A sweep expires subscriptions, disables devices, and records and announces it. -/
theorem runOnce_within (haudit : ∀ {s t},auditFrame.rel s t → R.rel s t)
    (hexpire : ∀ x,Within R (expire x)) (hdisable : ∀ d,Within R (disable d))
    (asOf : Option Time) : Within R (runOnce asOf) :=
  getNow_within.bind fun _ => getDb_within.bind fun _ =>
    (Within.each fun x _ => processOne_within haudit x (hexpire x) hdisable).bind fun _ =>
    Within.pure _

end

end VpnService.Backend
