import VpnService.Backend.Limits
import VpnService.Backend.StatusAgreement

namespace VpnService.Backend

open Agent

/-- Outside `K` the active subscriptions stay active, with their owners and ends. -/
def lasting (K : Id → Prop) : Frame Session where
  rel s t := ∀ x∈s.db.subscriptions.rows,x.status=.active → ¬K x.id →
    ∃ y∈t.db.subscriptions.rows,y.id=x.id ∧ y.userId=x.userId ∧ y.status=.active ∧
      y.expiresAt=x.expiresAt
  refl _ x hx hact _ := ⟨x,hx,rfl,rfl,hact,rfl⟩
  trans h k := fun x hx hact hK => by
    obtain ⟨y,hy,hid,huser,hyact,hend⟩ := h x hx hact hK
    obtain ⟨z,hz,hid',huser',hzact,hend'⟩ := k y hy hyact (hid ▸ hK)
    exact ⟨z,hz,hid'.trans hid,huser'.trans huser,hzact,hend'.trans hend⟩

section

variable {K : Id → Prop} {s t : Session}

theorem lasting_of_subscriptions (h : t.db.subscriptions=s.db.subscriptions) :
    (lasting K).rel s t := by
  intro x hx hact _
  rw [← h] at hx
  exact ⟨x,hx,rfl,rfl,hact,rfl⟩

theorem lasting_of_billing (h : billingFrame.rel s t) : (lasting K).rel s t := by
  have hview : t.db.billing=s.db.billing := h.1
  simp only [Database.billing,Prod.mk.injEq] at hview
  exact lasting_of_subscriptions hview.2.2.1

theorem lasting_books : Bookkeeping (lasting K) :=
  ⟨fun _ => lasting_of_subscriptions rfl,fun _ _ => lasting_of_subscriptions rfl⟩

theorem lasting_of_audit (h : auditFrame.rel s t) : (lasting K).rel s t :=
  lasting_of_billing (billing_of_core (core_of_audit h))

theorem alter_lasting {f : Database → Database} (h : ∀ db,(f db).subscriptions=db.subscriptions) :
    Within (lasting K) (alter f) := alter_within fun s => lasting_of_subscriptions (h s.db)

/-- A change to one subscription. -/
theorem updateSubscription_lasting {k : Id} {f : Subscription → Subscription}
    {hf : ∀ x,(f x).id=x.id} (h : K k ∨ ∀ x : Subscription,(f x).userId=x.userId ∧
      (x.status=.active → (f x).status=.active) ∧ (f x).expiresAt=x.expiresAt) :
    Within (lasting K) (updateSubscription k f hf) := by
  intro s x hx hact hK
  by_cases hid : x.id=k
  · rcases h with hk|hf'
    · exact absurd (hid ▸ hk) hK
    · obtain ⟨huser,hstays,hend⟩ := hf' x
      exact ⟨f x,(Store.mem_modify hf).mpr (Or.inl ⟨x,hx,hid,rfl⟩),hf x,huser,hstays hact,hend⟩
  · exact ⟨x,(Store.mem_modify hf).mpr (Or.inr ⟨hx,hid⟩),rfl,rfl,hact,rfl⟩

theorem disable_lasting (device : Device) : Within (lasting K) (disable device) :=
  (disable_hosting device).mono fun h =>
    lasting_of_billing (billing_of_contract (contract_of_hosting h))

/-- A sweep ends what is due. -/
theorem runOnce_lasting (asOf : Option Time) (s : Session) :
    WithinAt (lasting fun k => ∃ x∈s.db.listExpired (asOf.getD s.now),x.id=k) (runOnce asOf) s := by
  refine WithinAt.reads_bind (WithinAt.reads_bind ?_)
  refine WithinAt.bind ?_ fun _ t _ => Within.pure _ t
  refine WithinAt.each (fun _ => True) trivial (fun _ _ => trivial) fun x hx t _ => ?_
  exact processOne_within lasting_of_audit x (updateSubscription_lasting (Or.inl ⟨x,hx,rfl⟩))
    disable_lasting t

theorem createPayment_lasting {cfg : Settings} {user : User} {plan : Plan} {code : Option String}
    {payment : Payment} (h : Ledger cfg s.serial s.db)
    (hrun : createPayment cfg user plan code s=(.ok payment,t)) : (lasting K).rel s t := by
  obtain ⟨subscription,_,hsold⟩ := createPayment_ok hrun
  intro x hx hact _
  exact ⟨x,(hsold.mem_subscriptions h.subscriptionIds).mpr (Or.inl hx),rfl,rfl,hact,rfl⟩

/-- A confirmed payment starts a subscription that was not active. -/
theorem Confirmed.lasting {cfg : Settings} {external : Secret} {payment : Payment}
    {subscription : Subscription} {plan : Plan} (h : Ledger cfg s.serial s.db)
    (hc : Confirmed cfg external s t payment subscription plan) :
    (Backend.lasting K).rel s t := by
  have hidle := (hc.unstarted h).2.2
  intro x hx hact _
  have hne : x.id≠subscription.id := by
    intro he
    have hsame := Store.eq_of_key hx (Store.mem_of_get? hc.subscribed) he
    exact hidle (hsame ▸ hact)
  exact ⟨x,hc.mem_subscriptions.mpr (Or.inr ⟨hx,hne⟩),rfl,rfl,hact,rfl⟩

theorem handleWebhook_lasting {cfg : Settings} {rawBody : RawBody} {signature : Option Signature}
    (h : Ledger cfg s.serial s.db) (hrun : handleWebhook cfg rawBody signature s=(.ok (),t)) :
    (lasting K).rel s t := by
  obtain ⟨_,⟨external,status⟩,payment,_,hfound,hcases⟩ := handleWebhook_ok hrun
  rcases hcases with ⟨_,hts⟩|⟨hopen,u,os,hu,htu⟩
  · rw [hts]
    exact (lasting K).refl s
  · cases status with
    | pending =>
      cases hu
      rw [htu]
      exact lasting_of_subscriptions rfl
    | failed =>
      cases hu
      rw [htu]
      exact lasting_of_subscriptions rfl
    | succeeded =>
      obtain ⟨subscription,plan,hc⟩ := confirmed_of_run hfound hopen hu htu
      exact hc.lasting h

end

/-- The subscriptions that a request may end. -/
def Request.ends (s : Session) : Request → Id → Prop
  | .billing (.cancelSubscription _ subscriptionId),k => subscriptionId=k
  | .sweep asOf,k => ∃ x∈s.db.listExpired (asOf.getD s.now),x.id=k
  | _,_ => False

theorem handleBilling_lasting {cfg : Settings} {r : BillingRequest} {s t : Session} {a : Response}
    (h : Ledger cfg s.serial s.db) (hrun : handleBilling cfg r s=(.ok a,t)) :
    (lasting ((Request.billing r).ends s)).rel s t := by
  have husers : ∀ {K} (f : Store User.id → Store User.id),
      Within (lasting K) (alter fun db => {db with users := f db.users}) :=
    fun _ => alter_lasting fun _ => rfl
  have hplans : ∀ {K} (f : Store Plan.id → Store Plan.id),
      Within (lasting K) (alter fun db => {db with plans := f db.plans}) :=
    fun _ => alter_lasting fun _ => rfl
  have haudit : ∀ {K} adminId action targetType targetId metadata,
      Within (lasting K) (recordAudit adminId action targetType targetId metadata) :=
    fun _ _ _ _ _ => (audit_written _ _ _ _ _).mono lasting_of_audit
  have hrel : ∀ {K},Within (lasting K) (handleBilling cfg r) → (lasting K).rel s t :=
    fun hw => (hw s).rel_of_run hrun
  cases r with
  | authenticateTelegram payload =>
    exact hrel ((getOrCreateFromTelegram_within lasting_books husers payload).bind fun _ =>
      Within.pure _)
  | updateUserStatus adminId userId status =>
    exact hrel ((updateUserStatus_within lasting_of_audit husers adminId userId status).bind
      fun _ => Within.pure _)
  | createPlan adminId payload =>
    exact hrel ((createPlan_within lasting_books hplans payload).bind fun _ =>
      (haudit _ _ _ _ _).bind fun _ => Within.pure _)
  | updatePlan adminId planId payload =>
    exact hrel ((updatePlan_within lasting_books hplans planId payload).bind fun _ =>
      (haudit _ _ _ _ _).bind fun _ => Within.pure _)
  | createPayment telegramId planId code =>
    obtain ⟨user,u,hu,hrun⟩ := Eff.bind_ok.mp hrun
    obtain ⟨hsu,_⟩ := currentUser_ok hu
    subst hsu
    obtain ⟨plan,v,hv,hrun⟩ := Eff.bind_ok.mp hrun
    obtain ⟨_,hvs⟩ := Eff.orRaise_ok.mp hv
    rw [hvs] at hrun
    obtain ⟨payment,w,hw,hrun⟩ := Eff.bind_ok.mp hrun
    cases hrun
    exact createPayment_lasting h hw
  | paymentWebhook rawBody signature =>
    obtain ⟨_,u,hu,hrun⟩ := Eff.bind_ok.mp hrun
    cases hrun
    exact handleWebhook_lasting h hu
  | refundPayment adminId paymentId =>
    have hset : ∀ {K} k status,Within (lasting K) (setPaymentStatus k status) :=
      fun _ _ => alter_lasting fun _ => rfl
    exact hrel (Within.bind (getDb_within.bind fun _ => (Within.orRaise _ _).bind fun _ =>
      Within.bind ((Within.require _ _).bind fun _ => hset _ _) fun _ => haudit _ _ _ _ _)
      fun _ => Within.pure _)
  | cancelSubscription telegramId subscriptionId =>
    obtain ⟨_,u,hu,hrun⟩ := Eff.bind_ok.mp hrun
    cases hrun
    obtain ⟨user,v,hv,hu⟩ := Eff.bind_ok.mp hu
    obtain ⟨hsv,_⟩ := currentUser_ok hv
    subst hsv
    obtain ⟨x,v,hv,hu⟩ := Eff.bind_ok.mp hu
    obtain ⟨hx,hvs⟩ := Eff.orRaise_ok.mp hv
    rw [hvs] at hu
    obtain ⟨_,hu⟩ := Eff.require_bind_ok.mp hu
    have hid : x.id=subscriptionId := Store.key_of_get? hx
    exact (updateSubscription_lasting (Or.inl hid.symm) _).rel_of_run hu
  | addPromoCode code discountType discountValue maxUses validFrom validUntil active =>
    have hpromos : ∀ {K} (f : Store PromoCode.id → Store PromoCode.id)
        (g : Store PromoCodeRedemption.id → Store PromoCodeRedemption.id),
        Within (lasting K) (alter fun db => {db with
          promoCodes := f db.promoCodes
          promoCodeRedemptions := g db.promoCodeRedemptions}) :=
      fun _ _ => alter_lasting fun _ => rfl
    exact hrel ((addPromoCode_within lasting_books hpromos code discountType discountValue maxUses
      validFrom validUntil active).bind fun _ => Within.pure _)
  | setDeviceLimitOverride subscriptionId limit =>
    have hset : ∀ {K},Within (lasting K) (updateSubscription subscriptionId
        (fun x => {x with deviceLimitOverride := limit}) fun _ => rfl) :=
      updateSubscription_lasting (Or.inr fun _ => ⟨rfl,id,rfl⟩)
    exact hrel (hset.bind fun _ => Within.pure _)

/-- An answered request ends no other subscription. -/
theorem handle_lasting {cfg : Settings} {r : Request} {s t : Session} {a : Response}
    (hs : Sound s.toWorld) (h : Ledger cfg s.serial s.db) (hrun : handle cfg r s=(.ok a,t)) :
    (lasting (r.ends s)).rel s t := by
  by_cases hbilling : ∃ b,r=.billing b
  · obtain ⟨b,hb⟩ := hbilling
    subst hb
    exact handleBilling_lasting h hrun
  · by_cases hsweep : ∃ asOf,r=.sweep asOf
    · obtain ⟨asOf,hr⟩ := hsweep
      subst hr
      obtain ⟨ids,u,hu,hrun⟩ := Eff.bind_ok.mp hrun
      cases hrun
      exact (runOnce_lasting asOf s).rel_of_run hu
    · exact (handle_withinAt lasting_of_billing cfg (fun asOf hr => absurd ⟨asOf,hr⟩ hsweep) hs
        fun b hb => absurd ⟨b,hb⟩ hbilling).rel_of_run hrun

/-- The request is one of the user for a new device, a reissue or an enable. -/
def Request.opensFor (w : World) (userId : Id) (r : Request) : Bool := r.opens && match r with
  | .createDevice telegramId .. | .device telegramId .. =>
    (w.db.userByTelegramId telegramId).any fun user => user.id=userId
  | _ => false

theorem idle_iff {db : Database} {userId : Id} :
    db.Idle userId ↔ db.countActiveDevices userId=0 := by
  simp [Database.Idle,Database.countActiveDevices,List.filter_eq_nil_iff]

/-- Only the user's own requests give the user an active device. -/
theorem handle_idle {cfg : Settings} {r : Request} {s t : Session} {a : Response} {userId : Id}
    (hs : Sound s.toWorld) (hrun : handle cfg r s=(.ok a,t))
    (hopens : r.opensFor s.toWorld userId=false) (h : s.db.Idle userId) : t.db.Idle userId := by
  have hquiet : r.lights=false → t.db.Idle userId := fun hr =>
    h.of_quieted ((handle_quieting cfg hr s).rel_of_run hrun)
  have hother : ∀ {telegramId user},currentUser telegramId s=(.ok user,s) →
      (s.db.userByTelegramId telegramId).any (fun u => u.id=userId)=false → user.id≠userId := by
    intro telegramId user hu hany
    rw [(currentUser_ok hu).2.1] at hany
    simpa using hany
  cases r with
  | createDevice telegramId name requested protocol =>
    rcases handleCreateDevice_run cfg telegramId name requested protocol s with
      ⟨e,he⟩|⟨user,hu,he⟩
    · rw [handle,he] at hrun
      cases hrun
    · rw [handle,he] at hrun
      obtain ⟨result,u,hprov,hrun⟩ := Eff.bind_ok.mp hrun
      cases hrun
      have hne := hother hu (by simpa [Request.opensFor,Request.opens] using hopens)
      have hcount := (provision_active hs hprov).2.2 userId
      rw [if_neg hne,add_zero] at hcount
      rw [idle_iff] at h ⊢
      rw [hcount,h]
  | device telegramId deviceId op =>
    by_cases hop : op=.enable
    · subst hop
      rcases handleOwned_run cfg telegramId deviceId .enable s with
        ⟨e,he⟩|⟨user,device,hu,hget,huser,he⟩
      · rw [handle,he] at hrun
        cases hrun
      · rw [handle,he] at hrun
        obtain ⟨_,u,henable,hrun⟩ := Eff.bind_ok.mp hrun
        cases hrun
        have hne := hother hu (by simpa [Request.opensFor,Request.opens] using hopens)
        have hid : device.id=deviceId := Store.key_of_get? hget
        have hcount := enable_count (by rw [hid]; exact hget) henable userId
        rw [if_neg fun hk => hne (huser.symm.trans hk.1),add_zero] at hcount
        rw [idle_iff] at h ⊢
        rw [hcount,h]
    · exact hquiet (decide_eq_false hop)
  | billing _ | routing _ | servers _ | listDevices _ | fetchSubscription _ | sweep _ =>
    exact hquiet rfl

/-- The user has no active device, or an active subscription with an end of the kind `P`. -/
def Closing (P : Time → Prop) (userId : Id) (db : Database) : Prop :=
  db.Idle userId ∨ ∃ x∈db.subscriptions.rows,x.userId=userId ∧ x.status=.active ∧
    ∃ e,x.expiresAt=some e ∧ P e

/-- The active subscription of the user that a cancellation would end. -/
def Database.cancelled (db : Database) (telegramId : Int) (subscriptionId : Id) :
    Option Subscription := do
  let user ← db.userByTelegramId telegramId
  (db.subscriptions.get? subscriptionId).filter fun x => x.userId=user.id ∧ x.status=.active

/-- Whether the owner has another active subscription, one that is due if `x` is. -/
def Database.succeeded (db : Database) (now : Time) (x : Subscription) : Bool :=
  db.subscriptions.rows.any fun y => y.id≠x.id ∧ y.userId=x.userId ∧ y.status=.active ∧
    (Database.isDue now x → Database.isDue now y)

/-- A cancellation leaves no active device, or an active subscription. -/
def Request.cancelsSafely (w : World) (now : Time) : Request → Bool
  | .billing (.cancelSubscription telegramId subscriptionId) =>
    (w.db.cancelled telegramId subscriptionId).all fun x =>
      w.db.countActiveDevices x.userId=0 || w.db.succeeded now x
  | _ => true

section

variable {cfg : Settings} {r : Request} {s t : Session} {a : Response} {userId : Id}
  {P Q : Time → Prop}

theorem Closing.mono {db : Database} (h : Closing P userId db) (hPQ : ∀ e,P e → Q e) :
    Closing Q userId db := by
  rcases h with hidle|⟨x,hx,huser,hact,e,he,hP⟩
  · exact Or.inl hidle
  · exact Or.inr ⟨x,hx,huser,hact,e,he,hPQ e hP⟩

theorem isDue_iff {now : Time} {x : Subscription} :
    Database.isDue now x=true ↔ x.status=.active ∧ ∃ e,x.expiresAt=some e ∧ e≤now := by
  unfold Database.isDue
  cases hx : x.expiresAt with
  | none => simp
  | some e => simp

theorem Ledger.end_of_active {n : Int} {db : Database} (h : Ledger cfg n db) {x : Subscription}
    (hx : x∈db.subscriptions.rows) (hact : x.status=.active) : ∃ e,x.expiresAt=some e := by
  cases hend : x.expiresAt with
  | some e => exact ⟨e,rfl⟩
  | none =>
    have hstatus := (h.unpaid x hx hend).2.1
    rw [hact] at hstatus
    simp at hstatus

/-- What ends a subscription is a cancellation by its user, or the sweep that takes it up. -/
theorem Request.ended {x : Subscription} (hrun : handle cfg r s=(.ok a,t))
    (hx : x∈s.db.subscriptions.rows) (hact : x.status=.active) (hends : r.ends s x.id) :
    (∃ telegramId,r=.billing (.cancelSubscription telegramId x.id) ∧
      s.db.cancelled telegramId x.id=some x) ∨
    ∃ asOf,r=.sweep asOf ∧ x∈s.db.listExpired (asOf.getD s.now) := by
  cases r with
  | billing b =>
    cases b with
    | cancelSubscription telegramId subscriptionId =>
      have hid : subscriptionId=x.id := hends
      subst hid
      refine Or.inl ⟨telegramId,rfl,?_⟩
      obtain ⟨_,u,hu,_⟩ := Eff.bind_ok.mp hrun
      obtain ⟨user,v,hv,hu⟩ := Eff.bind_ok.mp hu
      obtain ⟨hsv,huser,_⟩ := currentUser_ok hv
      subst hsv
      obtain ⟨y,v,hv,hu⟩ := Eff.bind_ok.mp hu
      obtain ⟨hy,hvs⟩ := Eff.orRaise_ok.mp hv
      have hget := s.db.subscriptions.get?_of_mem hx
      rw [hget] at hy
      cases hy
      obtain ⟨howner,_⟩ := Eff.require_bind_ok.mp hu
      unfold Database.cancelled
      rw [huser]
      simp [hget,howner,hact]
    | authenticateTelegram _ | updateUserStatus _ _ _ | createPlan _ _ | updatePlan _ _ _
    | createPayment _ _ _ | paymentWebhook _ _ | refundPayment _ _ | addPromoCode _ _ _ _ _ _ _
    | setDeviceLimitOverride _ _ => exact hends.elim
  | sweep asOf =>
    obtain ⟨y,hy,hid⟩ := hends
    have hsame := Store.eq_of_key (List.mem_filter.mp hy).1 hx hid
    exact Or.inr ⟨asOf,rfl,hsame ▸ hy⟩
  | createDevice _ _ _ _ | device _ _ _ | routing _ | servers _ | listDevices _
  | fetchSubscription _ => exact hends.elim

/-- An answered request keeps the user without active devices or with a subscription to end. -/
theorem handle_closing (hs : Sound s.toWorld) (hl : Ledger cfg s.serial s.db)
    (hrun : handle cfg r s=(.ok a,t)) (hopens : r.opensFor s.toWorld userId=false)
    (hsafe : r.cancelsSafely s.toWorld s.now=true) (hPQ : ∀ e,P e → Q e)
    (hnext : ∀ e e',P e → (e≤ s.now → e'≤ s.now) → Q e') (h : Closing P userId s.db) :
    Closing Q userId t.db := by
  rcases h with hidle|⟨x,hx,huser,hact,e,he,hP⟩
  · exact Or.inl (handle_idle hs hrun hopens hidle)
  · have hlast := handle_lasting hs hl hrun
    by_cases hends : r.ends s x.id
    · rcases Request.ended hrun hx hact hends with ⟨telegramId,hr,hfound⟩|⟨asOf,hr,hdue⟩
      · subst hr
        simp only [Request.cancelsSafely,hfound,Option.all_some,Bool.or_eq_true,
          decide_eq_true_eq,huser] at hsafe
        rcases hsafe with hcount|hother
        · exact Or.inl (handle_idle hs hrun hopens (idle_iff.mpr hcount))
        · obtain ⟨y,hy,hgood⟩ := List.any_eq_true.mp hother
          obtain ⟨hne,hyuser,hyact,hydue⟩ := of_decide_eq_true hgood
          obtain ⟨e',he'⟩ := hl.end_of_active hy hyact
          have hle : e≤ s.now → e'≤ s.now := by
            intro hle
            obtain ⟨_,e'',he'',hle'⟩ := isDue_iff.mp (hydue (isDue_iff.mpr ⟨hact,e,he,hle⟩))
            rw [he'] at he''
            cases he''
            exact hle'
          obtain ⟨z,hz,_,hzuser,hzact,hzend⟩ := hlast y hy hyact fun hk => hne hk.symm
          exact Or.inr ⟨z,hz,hzuser.trans (hyuser.trans huser),hzact,e',hzend.trans he',
            hnext e e' hP hle⟩
      · subst hr
        obtain ⟨ids,u,hu,hrun⟩ := Eff.bind_ok.mp hrun
        cases hrun
        exact Or.inl (huser ▸ runOnce_idle hu x hdue)
    · obtain ⟨y,hy,_,hyuser,hyact,hyend⟩ := hlast x hx hact hends
      exact Or.inr ⟨y,hy,hyuser.trans huser,hyact,e,hyend.trans he,hPQ e hP⟩

end

def Turn.opensFor (w : World) (userId : Id) (a : Turn) : Bool := match a.operation with
  | .request r => r.opensFor w userId
  | .disableAllForUser _ => false

def Turn.cancelsSafely (w : World) (a : Turn) : Bool := match a.operation with
  | .request r => r.cancelsSafely w a.env.now
  | .disableAllForUser _ => true

/-- Nothing of the user is active, and nothing of it is live at an agent. -/
def AccessOver (w : World) (userId : Id) : Prop :=
  ∀ d∈w.db.devices.rows,d.userId=userId → d.status≠.active ∧ Off w d

/-- Access ends with the sweep: a user had the active subscription `x` and opened nothing since,
the user's subscriptions are over at `t`, and a sweep comes later. -/
def AccessEnds (cfg : Settings) (as : List Turn) : Prop :=
  ∀ (pre mid late post : List Turn) (env : Env) (asOf : Option Time) (x : Subscription) (t : Time),
    as=pre++mid++late++⟨env,.request (.sweep asOf)⟩::post →
    x∈(pre.foldl (perform cfg) .initial).db.subscriptions.rows → x.status=.active →
    Conducted (fun w a => a.opensFor w x.userId=false) (perform cfg)
      (pre.foldl (perform cfg) .initial) (mid++late) →
    ((pre++mid).foldl (perform cfg) .initial).db.paidBeyond x.userId t=false →
    (t::late.map (fun a => a.env.now)++[asOf.getD env.now]).Pairwise (· ≤ ·) →
    AccessOver (perform cfg ((pre++mid++late).foldl (perform cfg) .initial)
      ⟨env,.request (.sweep asOf)⟩) x.userId

/-- A turn that keeps status and agents in accord, and ends no subscription alone. -/
def Turn.closes (cfg : Settings) (w : World) (a : Turn) : Prop :=
  a.smooth=true ∧ a.accords cfg w=true ∧ a.cancelsSafely w=true

instance (cfg : Settings) (w : World) (a : Turn) : Decidable (a.closes cfg w) :=
  inferInstanceAs (Decidable (_ ∧ _ ∧ _))

section

variable {cfg : Settings} {w : World} {userId : Id} {P Q : Time → Prop}

theorem Turn.calm {a : Turn} (h : a.closes cfg w) : a.env.outcomes=[] := by
  have hsmooth := h.1
  simp only [Turn.smooth,Bool.and_eq_true,decide_eq_true_eq] at hsmooth
  exact hsmooth.1

theorem Concord.closes {a : Turn} (hw : Concord cfg w) (h : a.closes cfg w) :
    Concord cfg (Backend.perform cfg w a) := hw.perform (Turn.calm h) h.2.1

theorem perform_closing {a : Turn} (hw : Concord cfg w) (hgood : a.closes cfg w)
    (hopens : a.opensFor w userId=false) (hPQ : ∀ e,P e → Q e)
    (hnext : ∀ e e',P e → (e≤a.env.now → e'≤a.env.now) → Q e') (h : Closing P userId w.db) :
    Closing Q userId (perform cfg w a).db := by
  obtain ⟨env,operation⟩ := a
  have hcalm : env.outcomes=[] := Turn.calm hgood
  cases operation with
  | request r =>
    show Closing Q userId (serve cfg env r w).2.db
    rcases serve_cases cfg env r w with ⟨a,t,hrun,hserve⟩|⟨_,e,t,_,hserve⟩
    · rw [hserve]
      exact handle_closing (s := ⟨w,env⟩) hw.settled.sound hw.ledger hrun hopens hgood.2.2 hPQ hnext h
    · rw [hserve]
      exact h.mono hPQ
  | disableAllForUser k =>
    obtain ⟨t,ht,hheld,_⟩ := disableAllForUser_held (s := ⟨w,env⟩) ⟨hw.settled,hw.accord,hcalm⟩ k
    have hsame : perform cfg w ⟨env,.disableAllForUser k⟩=t.toWorld :=
      congrArg Prod.snd (transaction_calm ht hheld.calm)
    have hquiet := (disableAllForUser_within disable_quieting k ⟨w,env⟩).rel_of_run ht
    have hlast : (lasting fun _ => False).rel ⟨w,env⟩ t :=
      lasting_of_billing (billing_of_contract (contract_of_hosting
        ((disableAllForUser_hosting k ⟨w,env⟩).rel_of_run ht)))
    rw [hsame]
    rcases h with hidle|⟨x,hx,huser,hact,e,he,hP⟩
    · exact Or.inl (hidle.of_quieted (s := ⟨w,env⟩) hquiet)
    · obtain ⟨y,hy,_,hyuser,hyact,hyend⟩ := hlast x hx hact id
      exact Or.inr ⟨y,hy,hyuser.trans huser,hyact,e,hyend.trans he,hPQ e hP⟩

/-- The turns of a run leave a user who opens nothing without active devices or with a
subscription to end. -/
theorem run_closing (as : List Turn) (hw : Concord cfg w)
    (hgood : Conducted (fun w a => a.closes cfg w) (perform cfg) w as)
    (hopens : Conducted (fun w a => a.opensFor w userId=false) (perform cfg) w as)
    (h : Closing (fun _ => True) userId w.db) :
    Closing (fun _ => True) userId (as.foldl (perform cfg) w).db := by
  induction as generalizing w with
  | nil => exact h
  | cons a as ih =>
    exact ih (hw.closes hgood.1) hgood.2 hopens.2 (perform_closing hw hgood.1 hopens.1
      (fun _ _ => trivial) (fun _ _ _ _ => trivial) h)

/-- Once it is over at `t`, it stays over at the later times of the run. -/
theorem run_closing_by (as : List Turn) {t last : Time} (hw : Concord cfg w)
    (hgood : Conducted (fun w a => a.closes cfg w) (perform cfg) w as)
    (hopens : Conducted (fun w a => a.opensFor w userId=false) (perform cfg) w as)
    (htimes : (t::as.map (fun a => a.env.now)++[last]).Pairwise (· ≤ ·))
    (h : Closing (· ≤ t) userId w.db) :
    Closing (· ≤ last) userId (as.foldl (perform cfg) w).db := by
  induction as generalizing w t with
  | nil =>
    have hle : t≤ last := (List.pairwise_cons.mp htimes).1 last (by simp)
    exact h.mono fun e he => he.trans hle
  | cons a as ih =>
    obtain ⟨hfirst,hrest⟩ := List.pairwise_cons.mp htimes
    have hle : t≤a.env.now := hfirst _ (by simp)
    exact ih (hw.closes hgood.1) hgood.2 hopens.2 hrest (perform_closing hw hgood.1 hopens.1
      (fun e he => he.trans hle) (fun e e' he hdue => hdue (he.trans hle)) h)

end

/-- The sweep ends the access of a user without active devices or with a subscription that is
due. -/
theorem sweep_closing {cfg : Settings} {w : World} {userId : Id} (hw : Concord cfg w) {env : Env}
    (ho : env.outcomes=[]) {asOf : Option Time}
    (h : Closing (· ≤ asOf.getD env.now) userId w.db) :
    AccessOver (perform cfg w ⟨env,.request (.sweep asOf)⟩) userId := by
  obtain ⟨ids,t,ht,hheld,hrest⟩ :=
    runOnce_held (s := ⟨w,env⟩) asOf ⟨hw.settled,hw.accord,ho⟩ hw.named
  have hrun : handle cfg (.sweep asOf) ⟨w,env⟩=(.ok (.expired ids),t) := Eff.bind_run_ok ht
  have hsame : perform cfg w ⟨env,.request (.sweep asOf)⟩=t.toWorld :=
    (after_calm (c := ⟨env,.sweep asOf⟩) hrun hheld.calm).1
  rw [hsame]
  intro d hd huser
  have hoff : d.status≠.active := by
    intro hact
    obtain ⟨hold,hother⟩ := hrest d hd hact
    rcases h with hidle|⟨x,hx,hxuser,hxact,e,he,hle⟩
    · exact hidle d hold huser hact
    · exact hother x (List.mem_filter.mpr ⟨hx,isDue_iff.mpr ⟨hxact,e,he,hle⟩⟩)
        (huser.trans hxuser.symm)
  exact ⟨hoff,(hheld.accord.statusAgrees hheld.settled d hd).off hoff⟩

/-- Paid access ends with the subscription in every run whose steps accord and cancel safely. -/
theorem access_ends (cfg : Settings) (as : List Turn)
    (h : Conducted (fun w a => a.closes cfg w) (perform cfg) .initial as) : AccessEnds cfg as := by
  intro pre mid late post env asOf x t has hx hact hopens hover htimes
  subst has
  obtain ⟨hrun,hsweep⟩ := (conducted_append _ _ _).mp h
  obtain ⟨hfirst,hlate⟩ := (conducted_append _ _ _).mp hrun
  obtain ⟨hpre,hmid⟩ := (conducted_append _ _ _).mp hfirst
  obtain ⟨hmidOpens,hlateOpens⟩ := (conducted_append _ _ _).mp hopens
  have hkeeps : ∀ {w} (is : List Turn),Concord cfg w →
      Conducted (fun w a => a.closes cfg w) (perform cfg) w is →
      Concord cfg (is.foldl (perform cfg) w) := fun is hw his =>
    invariant_of_conducted (Concord cfg) (fun _ _ => Concord.closes) _ is hw his
  rw [List.foldl_append] at hlate hover
  have hpreHolds := hkeeps pre (.initial cfg) hpre
  have hmidHolds := hkeeps mid hpreHolds hmid
  have hlateHolds := hkeeps late hmidHolds hlate
  have hsub : Closing (fun _ => True) x.userId (pre.foldl (perform cfg) .initial).db := by
    obtain ⟨e,he⟩ := hpreHolds.ledger.end_of_active hx hact
    exact Or.inr ⟨x,hx,rfl,hact,e,he,trivial⟩
  have hmidClosing : Closing (· ≤ t) x.userId
      (mid.foldl (perform cfg) (pre.foldl (perform cfg) .initial)).db := by
    rcases run_closing mid hpreHolds hmid hmidOpens hsub with hidle|⟨y,hy,huser,hyact,e,he,_⟩
    · exact Or.inl hidle
    · refine Or.inr ⟨y,hy,huser,hyact,e,he,?_⟩
      have hend : e∈(mid.foldl (perform cfg) (pre.foldl (perform cfg) .initial)).db.activeEnds
          x.userId := Database.mem_activeEnds.mpr ⟨y,hy,huser,hyact,he⟩
      have hnot := List.any_eq_false.mp hover e hend
      simpa using hnot
  have hlast := run_closing_by late hmidHolds hlate hlateOpens htimes hmidClosing
  rw [List.foldl_append,List.foldl_append]
  exact sweep_closing hlateHolds (Turn.calm hsweep.1) hlast

/-- The user of the opened shop pays for a second month and cancels the first. -/
def renewing : List Turn := turns opening++[
  ⟨quiet 3,.request (.billing (.createPayment 77 2 none))⟩,
  ⟨quiet 4,.request (delivery 20 .succeeded)⟩,
  ⟨quiet 5,.request (.billing (.cancelSubscription 77 8))⟩]

theorem access_ends_renewed : AccessOver (perform sampleSettings
    (renewing.foldl (perform sampleSettings) .initial)
    ⟨quiet (days 31),.request (.sweep none)⟩) 1 := by
  have hsub : ∃ x∈(renewing.foldl (perform sampleSettings) .initial).db.subscriptions.rows,
      x.userId=1 ∧ x.status=.active := by decide +kernel
  obtain ⟨x,hx,huser,hact⟩ := hsub
  have hover : (renewing.foldl (perform sampleSettings) .initial).db.paidBeyond 1 (days 31)=
      false := by decide +kernel
  have hends := access_ends sampleSettings (renewing++[⟨quiet (days 31),.request (.sweep none)⟩])
    (by decide +kernel) renewing [] [] [] (quiet (days 31)) none x (days 31)
    (by rw [List.append_nil,List.append_nil]) hx hact trivial
    (by rw [List.append_nil,huser]; exact hover) (by decide +kernel)
  rwa [List.append_nil,List.append_nil,huser] at hends

/-- The user of the opened shop cancels. -/
def cancelling : List Turn :=
  turns opening++[⟨quiet 3,.request (.billing (.cancelSubscription 77 8))⟩]

/-- No sweep takes up a cancelled subscription. -/
theorem access_goes_on : ¬∀ (cfg : Settings) (as : List Turn),(∀ a∈as,a.smooth=true) →
    AccessEnds cfg as := by
  intro h
  have hsub : ∃ x∈((turns opening).foldl (perform sampleSettings) .initial).db.subscriptions.rows,
      x.userId=1 ∧ x.status=.active := by decide +kernel
  obtain ⟨x,hx,huser,hact⟩ := hsub
  have hover : (cancelling.foldl (perform sampleSettings) .initial).db.paidBeyond 1 3=false := by
    decide +kernel
  have hopens : Conducted (fun w a => a.opensFor w 1=false) (perform sampleSettings)
      ((turns opening).foldl (perform sampleSettings) .initial)
      [⟨quiet 3,.request (.billing (.cancelSubscription 77 8))⟩] := by decide +kernel
  have hover' := h sampleSettings (cancelling++[⟨quiet (days 31),.request (.sweep none)⟩])
    (by decide +kernel) (turns opening)
    [⟨quiet 3,.request (.billing (.cancelSubscription 77 8))⟩] [] [] (quiet (days 31)) none x 3
    (by rw [List.append_nil]; rfl) hx hact (by rw [List.append_nil,huser]; exact hopens)
    (by rw [huser]; exact hover) (by decide +kernel)
  have hleft : ∃ d∈(perform sampleSettings (cancelling.foldl (perform sampleSettings) .initial)
      ⟨quiet (days 31),.request (.sweep none)⟩).db.devices.rows,d.userId=1 ∧ d.status=.active := by
    decide +kernel
  obtain ⟨d,hd,hduser,hdact⟩ := hleft
  rw [List.append_nil,huser] at hover'
  exact (hover' d hd hduser).1 hdact

end VpnService.Backend
