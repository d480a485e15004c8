import VpnService.Backend.Ledger

namespace VpnService.Backend

/-- The plan of the payment, counted from now, ends on a date. -/
def Payment.datable (p : Payment) (db : Database) (now : Time) : Bool :=
  (db.plans.get? p.planId).all fun plan => InCalendar now plan.durationDays

/-- A payment turned SUCCEEDED on the way from `s` to `t`, with everything that follows. -/
structure Confirmed (cfg : Settings) (external : Secret) (s t : Session) (payment : Payment)
    (subscription : Subscription) (plan : Plan) : Prop where
  found : s.db.paymentByExternalId cfg.paymentProvider external=some payment
  unsettled : payment.status.isTerminal=false
  link : payment.subscriptionId=some subscription.id
  subscribed : s.db.subscriptions.get? subscription.id=some subscription
  planned : s.db.plans.get? subscription.planId=some plan
  dated : InCalendar (extensionBase s.now subscription) plan.durationDays
  db : t.db=redeem s.serial s.now payment (settle s.now payment subscription plan s.db)
  serial : s.serial≤t.serial
  drawn : promoOf s.db payment≠none → s.serial<t.serial

/-- The effect of an answered webhook. -/
theorem handleWebhook_ok {cfg : Settings} {rawBody : RawBody} {signature : Option Signature}
    {s t : Session} (h : handleWebhook cfg rawBody signature s=(.ok (),t)) :
    verifyHmac rawBody cfg.paymentWebhookSecret signature ∧ ∃ event payment,rawBody=some event ∧
      s.db.paymentByExternalId cfg.paymentProvider event.externalPaymentId=some payment ∧
      ((payment.status.isTerminal ∧ t=s) ∨ (payment.status.isTerminal=false ∧ ∃ u os,
        applyEvent payment event.status s=(.ok (),u) ∧ t={u with outcomes := os})) := by
  obtain ⟨hverify,h⟩ := Eff.require_bind_ok.mp h
  obtain ⟨event,hbody,h⟩ := Eff.orRaise_bind_ok.mp h
  rw [getDb_bind_run] at h
  obtain ⟨payment,hfound,h⟩ := Eff.orRaise_bind_ok.mp h
  refine ⟨hverify,event,payment,hbody,hfound,?_⟩
  by_cases hterm : payment.status.isTerminal=true
  · rw [if_pos hterm] at h
    cases h
    exact Or.inl ⟨hterm,rfl⟩
  · rw [if_neg hterm] at h
    obtain ⟨_,u,hu,h⟩ := Eff.bind_ok.mp h
    obtain ⟨os,hos⟩ := flush_ok h
    exact Or.inr ⟨by simpa using hterm,u,os,hu,hos⟩

theorem paymentByExternalId_mem {db : Database} {provider : String} {external : Secret}
    {p : Payment} (h : db.paymentByExternalId provider external=some p) :
    p∈db.payments.rows ∧ p.provider=provider ∧ p.externalPaymentId=some external := by
  have hfound := List.find?_some h
  simp only [decide_eq_true_eq] at hfound
  exact ⟨List.mem_of_find?_eq_some h,hfound.1,hfound.2⟩

theorem confirmed_of_run {cfg : Settings} {external : Secret} {payment : Payment}
    {s t u : Session} {os : List Outcome}
    (hfound : s.db.paymentByExternalId cfg.paymentProvider external=some payment)
    (hopen : payment.status.isTerminal=false) (hu : confirmPayment payment s=(.ok (),u))
    (ht : t={u with outcomes := os}) :
    ∃ subscription plan,Confirmed cfg external s t payment subscription plan := by
  obtain ⟨subscription,plan,hlink,hsub,hplan,hdate⟩ := confirmPayment_ok hu
  obtain ⟨n,hn,hpromo,hrun⟩ := confirmPayment_run hlink hsub hplan hdate
  rw [hrun] at hu
  cases hu
  refine ⟨subscription,plan,hfound,hopen,hlink,hsub,hplan,hdate,?_,?_,fun hne => ?_⟩
  · rw [ht]
  · rw [ht]
    exact hn
  · rw [ht]
    exact lt_of_lt_of_eq (Int.lt_succ _) (hpromo hne).symm

theorem settled_of_isTerminal {status : PaymentStatus} (h : status.isTerminal=false) :
    status.settled=false := by
  cases status <;> simp_all [PaymentStatus.isTerminal,PaymentStatus.settled]

/-- The payment a request may refund. -/
def Request.refunds : Request → Id → Prop
  | .billing (.refundPayment _ paymentId),k => k=paymentId
  | _,_ => False

/-- A webhook either keeps the books or confirms a payment. -/
theorem handleWebhook_books {refunds : Id → Prop} {cfg : Settings} {rawBody : RawBody}
    {signature : Option Signature} {s t : Session}
    (h : handleWebhook cfg rawBody signature s=(.ok (),t)) :
    (keepingBooks refunds).rel s t ∨ ∃ external payment subscription plan,
      rawBody=some ⟨external,.succeeded⟩ ∧
      verifyHmac rawBody cfg.paymentWebhookSecret signature ∧
      Confirmed cfg external s t payment subscription plan := by
  obtain ⟨hverify,event,payment,hbody,hfound,hcases⟩ := handleWebhook_ok h
  rcases hcases with ⟨_,hts⟩|⟨hopen,u,os,hu,htu⟩
  · rw [hts]
    exact Or.inl ((keepingBooks refunds).refl s)
  · obtain ⟨external,status⟩ := event
    have hmem := paymentByExternalId_mem hfound
    have hget := s.db.payments.get?_of_mem hmem.1
    cases status with
    | pending =>
      cases hu
      rw [htu]
      exact Or.inl (keepingBooks_books.outcomes s os)
    | failed =>
      left
      have hkept : (keepingBooks refunds).rel s u :=
        (setFailed_keepingBooks hget (settled_of_isTerminal hopen)).rel_of_run hu
      rw [htu]
      exact (keepingBooks refunds).trans hkept (keepingBooks_books.outcomes u os)
    | succeeded =>
      right
      obtain ⟨subscription,plan,hc⟩ := confirmed_of_run hfound hopen hu htu
      exact ⟨external,payment,subscription,plan,hbody,hverify,hc⟩

/-- What an answered request does to the books. -/
theorem handle_books {cfg : Settings} {r : Request} {s t : Session} {a : Response}
    (hsound : Sound s.toWorld) (hrun : handle cfg r s=(.ok a,t)) :
    (keepingBooks r.refunds).rel s t ∨
    (∃ user plan promo subscription payment,s.db.users.get? user.id=some user ∧
      s.db.plans.get? plan.id=some plan ∧ (∀ c,promo=some c → c∈s.db.promoCodes.rows) ∧
      Sold cfg s t user plan promo subscription payment) ∨
    ∃ external signature payment subscription plan,
      r=.billing (.paymentWebhook (some ⟨external,.succeeded⟩) signature) ∧
      verifyHmac (some ⟨external,.succeeded⟩) cfg.paymentWebhookSecret signature ∧
      Confirmed cfg external s t payment subscription plan := by
  have hkeep : Within (keepingBooks r.refunds) (handle cfg r) →
      (keepingBooks r.refunds).rel s t := fun hw => (hw s).rel_of_run hrun
  have hbill : t.db.billing=s.db.billing → s.serial≤t.serial →
      (keepingBooks r.refunds).rel s t :=
    books_of_billing
  cases r with
  | billing r =>
    cases r with
    | authenticateTelegram payload =>
      exact Or.inl (hkeep ((getOrCreateFromTelegram_keepingBooks payload).bind fun _ =>
        Within.pure _))
    | updateUserStatus adminId userId status =>
      left
      apply hkeep
      refine Within.bind ?_ fun _ => Within.pure _
      refine getDb_within.bind fun _ => (Within.orRaise _ _).bind fun user => ?_
      exact (updateUser_keepingBooks _ _).bind fun _ => audit_keepingBooks _ _ _ _ _
    | createPlan adminId payload =>
      exact Or.inl (hkeep ((createPlan_keepingBooks payload).bind fun _ =>
        (audit_keepingBooks _ _ _ _ _).bind fun _ => Within.pure _))
    | updatePlan adminId planId payload =>
      exact Or.inl (hkeep ((updatePlan_keepingBooks planId payload).bind fun _ =>
        (audit_keepingBooks _ _ _ _ _).bind fun _ => Within.pure _))
    | createPayment telegramId planId code =>
      right
      left
      obtain ⟨user,u,hu,h⟩ := Eff.bind_ok.mp hrun
      obtain ⟨hsu,huser,_⟩ := currentUser_ok hu
      subst hsu
      obtain ⟨plan,v,hv,h⟩ := Eff.bind_ok.mp h
      obtain ⟨hplan,hvs⟩ := Eff.orRaise_ok.mp hv
      rw [hvs] at h
      obtain ⟨payment,w,hw,h⟩ := Eff.bind_ok.mp h
      cases h
      obtain ⟨subscription,_,hsold⟩ := createPayment_ok hw
      have hmem : user∈s.db.users.rows := List.mem_of_find?_eq_some huser
      have hid : plan.id=planId := Store.key_of_get? hplan
      exact ⟨user,plan,_,subscription,payment,s.db.users.get?_of_mem hmem,
        by rw [hid]; exact hplan,fun _ => promoNamed_mem,hsold⟩
    | paymentWebhook rawBody signature =>
      obtain ⟨_,u,hu,h⟩ := Eff.bind_ok.mp hrun
      cases h
      rcases handleWebhook_books hu with hk|⟨external,payment,subscription,plan,hbody,hverify,hc⟩
      · exact Or.inl hk
      · subst hbody
        exact Or.inr (Or.inr ⟨external,signature,payment,subscription,plan,rfl,hverify,hc⟩)
    | refundPayment adminId paymentId =>
      left
      apply hkeep
      refine (refundPayment_keepingBooks adminId ?_).bind fun _ => Within.pure _
      exact rfl
    | cancelSubscription telegramId subscriptionId =>
      exact Or.inl (hkeep ((cancelSubscription_keepingBooks telegramId subscriptionId).bind
        fun _ => Within.pure _))
    | addPromoCode code discountType discountValue maxUses validFrom validUntil active =>
      exact Or.inl (hkeep ((addPromoCode_keepingBooks code discountType discountValue maxUses
        validFrom validUntil active).bind fun _ => Within.pure _))
    | setDeviceLimitOverride subscriptionId limit =>
      left
      apply hkeep
      refine Within.bind (fun u => ?_) fun _ => Within.pure _
      apply updateSubscription_keepingBooks
      · exact fun _ => rfl
      · exact fun _ _ => Or.inl rfl
  | routing r => exact Or.inl (hkeep ((handleRouting_core _ r).mono books_of_core))
  | servers r =>
    exact Or.inl (hkeep ((handleServers_billing r).mono fun h => books_of_billing h.1 h.2))
  | listDevices telegramId =>
    left
    apply hkeep
    exact (currentUser_within telegramId).bind fun _ => getDb_within.bind fun _ => Within.pure _
  | createDevice telegramId name serverId protocol =>
    left
    rcases handleCreateDevice_run cfg telegramId name serverId protocol s with
      ⟨e,he⟩|⟨user,_,he⟩
    · rw [handle,he] at hrun
      cases hrun
    · rw [handle,he] at hrun
      obtain ⟨result,u,hu,hrun⟩ := Eff.bind_ok.mp hrun
      cases hrun
      have ht := (provision_touching cfg user name serverId protocol
        (hsound.covers s.serial)).rel_of_run hu
      have htouched := ht (Scope.of_fits _ s)
      exact hbill htouched.db.billing htouched.serial
  | device telegramId deviceId r =>
    left
    rcases handleOwned_run cfg telegramId deviceId r s with ⟨e,he⟩|⟨user,device,_,_,_,he⟩
    · rw [handle,he] at hrun
      cases hrun
    · rw [handle,he] at hrun
      have ht := (handleDevice_touching cfg (hsound.covers device.id) r).rel_of_run hrun
      have htouched := ht (Scope.of_fits _ s)
      exact hbill htouched.db.billing htouched.serial
  | fetchSubscription token =>
    left
    apply hkeep
    exact ((deliver_billing token).mono fun h => books_of_billing h.1 h.2).bind fun _ =>
      Within.pure _
  | sweep asOf => exact Or.inl (hkeep ((runOnce_keepingBooks asOf).bind fun _ => Within.pure _))

/-- The redemptions of a promo code. -/
def Database.usesOf (db : Database) (promoCodeId : Id) : List PromoCodeRedemption :=
  db.promoCodeRedemptions.rows.filter fun r => r.promoCodeId=promoCodeId

/-- The books are in order: every payment has its own subscription and its own external id, and
exactly the subscriptions whose payment came in have an end. -/
structure Ledger (cfg : Settings) (n : Int) (db : Database) : Prop where
  promos : PromosNumbered n db
  subscriptionIds : ∀ s∈db.subscriptions.rows,s.id<n
  paymentIds : ∀ p∈db.payments.rows,p.id<n
  redemptionIds : ∀ r∈db.promoCodeRedemptions.rows,r.id<n
  provider : ∀ p∈db.payments.rows,p.provider=cfg.paymentProvider
  external : ∀ p∈db.payments.rows,∃ k,p.externalPaymentId=some (.generated k) ∧ k<n
  externals : ∀ p∈db.payments.rows,∀ q∈db.payments.rows,
    p.externalPaymentId=q.externalPaymentId → p=q
  linked : ∀ p∈db.payments.rows,∃ s,p.subscriptionId=some s.id ∧
    db.subscriptions.get? s.id=some s ∧ s.userId=p.userId ∧ s.planId=p.planId
  links : ∀ p∈db.payments.rows,∀ q∈db.payments.rows,p.subscriptionId=q.subscriptionId → p=q
  promoCodes : ∀ p∈db.payments.rows,∀ k,p.promoCodeId=some k →
    k≠0 ∧ (db.promoCodes.get? k).isSome
  statuses : ∀ p∈db.payments.rows,p.status≠.cancelled
  plans : ∀ s∈db.subscriptions.rows,(db.plans.get? s.planId).isSome
  users : ∀ s∈db.subscriptions.rows,(db.users.get? s.userId).isSome
  paid : ∀ s∈db.subscriptions.rows,s.expiresAt≠none →
    ∃ p∈db.payments.rows,p.subscriptionId=some s.id ∧ p.status.settled=true
  unpaid : ∀ s∈db.subscriptions.rows,s.expiresAt=none →
    s.startedAt=none ∧ (s.status=.pending ∨ s.status=.cancelled) ∧
      ∀ p∈db.payments.rows,p.subscriptionId=some s.id → p.status.settled=false
  redeemed : ∀ r∈db.promoCodeRedemptions.rows,∀ k,r.paymentId=some k →
    ∃ p,db.payments.get? k=some p ∧ p.status.settled=true
  codes : ∀ r∈db.promoCodeRedemptions.rows,(db.promoCodes.get? r.promoCodeId).isSome
  uses : ∀ c∈db.promoCodes.rows,c.usedCount=(db.usesOf c.id).length

theorem ledger_initial (cfg : Settings) : Ledger cfg World.initial.serial World.initial.db := by
  refine ⟨⟨by decide,fun c hc => ?_⟩,?_,?_,?_,?_,?_,?_,?_,?_,?_,?_,?_,?_,?_,?_,?_,?_,?_⟩
  · exact absurd hc (by simp [World.initial,Database.empty])
  all_goals
    intro x hx
    exact absurd hx (by simp [World.initial,Database.empty])

theorem Payment.fields_of_terms {p q : Payment} (h : q.terms=p.terms) :
    q.id=p.id ∧ q.userId=p.userId ∧ q.subscriptionId=p.subscriptionId ∧ q.planId=p.planId ∧
      q.provider=p.provider ∧ q.externalPaymentId=p.externalPaymentId ∧
      q.promoCodeId=p.promoCodeId := by
  simp only [Payment.terms,Payment.mk.injEq] at h
  obtain ⟨hid,huser,hsub,hplan,hprovider,hext,_,_,_,_,hpromo⟩ := h
  exact ⟨hid,huser,hsub,hplan,hprovider,hext,hpromo⟩

theorem Subscription.fields_of_terms {s t : Subscription} (h : t.terms=s.terms) :
    t.id=s.id ∧ t.userId=s.userId ∧ t.planId=s.planId ∧ t.startedAt=s.startedAt ∧
      t.expiresAt=s.expiresAt := by
  simp only [Subscription.terms,Subscription.mk.injEq] at h
  obtain ⟨hid,huser,hplan,_,hstart,hend,_,_⟩ := h
  exact ⟨hid,huser,hplan,hstart,hend⟩

theorem PaymentStatus.settled_of_drifts {r : Prop} {a b : PaymentStatus}
    (h : PaymentStatus.drifts r a b) : b.settled=a.settled := by
  rcases h with h|⟨ha,hb⟩|⟨_,ha,hb⟩
  · rw [h]
  · rw [hb,ha]
    rfl
  · rw [hb,ha]
    rfl

/-- What `Ledger` says of the terms of the payments. -/
structure PaymentBook (cfg : Settings) (n : Int) (db : Database) : Prop where
  paymentIds : ∀ p∈db.payments.rows,p.id<n
  provider : ∀ p∈db.payments.rows,p.provider=cfg.paymentProvider
  external : ∀ p∈db.payments.rows,∃ k,p.externalPaymentId=some (.generated k) ∧ k<n
  externals : ∀ p∈db.payments.rows,∀ q∈db.payments.rows,
    p.externalPaymentId=q.externalPaymentId → p=q
  linked : ∀ p∈db.payments.rows,∃ s,p.subscriptionId=some s.id ∧
    db.subscriptions.get? s.id=some s ∧ s.userId=p.userId ∧ s.planId=p.planId
  links : ∀ p∈db.payments.rows,∀ q∈db.payments.rows,p.subscriptionId=q.subscriptionId → p=q
  promoCodes : ∀ p∈db.payments.rows,∀ k,p.promoCodeId=some k →
    k≠0 ∧ (db.promoCodes.get? k).isSome

/-- Payments that have the terms payments had before keep their book. -/
theorem Ledger.paymentBook {cfg : Settings} {n m : Int} {a b : Database} (h : Ledger cfg n a)
    (hn : n≤ m) (htwin : ∀ q∈b.payments.rows,∃ p∈a.payments.rows,q.terms=p.terms)
    (hsub : ∀ {k x},a.subscriptions.get? k=some x →
      ∃ y,b.subscriptions.get? k=some y ∧ y.id=x.id ∧ y.userId=x.userId ∧ y.planId=x.planId)
    (hpromos : ∀ k,(a.promoCodes.get? k).isSome → (b.promoCodes.get? k).isSome) :
    PaymentBook cfg m b := by
  have hsame : ∀ p∈b.payments.rows,∀ q∈b.payments.rows,p.id=q.id → p=q :=
    fun p hp q hq he => Store.eq_of_key hp hq he
  exact {
    paymentIds := by
      intro q hq
      obtain ⟨p,hp,he⟩ := htwin q hq
      rw [(Payment.fields_of_terms he).1]
      exact (h.paymentIds p hp).trans_le hn
    provider := by
      intro q hq
      obtain ⟨p,hp,he⟩ := htwin q hq
      rw [(Payment.fields_of_terms he).2.2.2.2.1]
      exact h.provider p hp
    external := by
      intro q hq
      obtain ⟨p,hp,he⟩ := htwin q hq
      obtain ⟨k,hk,hlt⟩ := h.external p hp
      rw [(Payment.fields_of_terms he).2.2.2.2.2.1]
      exact ⟨k,hk,hlt.trans_le hn⟩
    externals := by
      intro q hq q' hq' hext
      obtain ⟨p,hp,he⟩ := htwin q hq
      obtain ⟨p',hp',he'⟩ := htwin q' hq'
      have hf := Payment.fields_of_terms he
      have hf' := Payment.fields_of_terms he'
      have hpp : p=p' := h.externals p hp p' hp'
        (by rw [← hf.2.2.2.2.2.1,← hf'.2.2.2.2.2.1,hext])
      exact hsame q hq q' hq' (by rw [hf.1,hf'.1,hpp])
    linked := by
      intro q hq
      obtain ⟨p,hp,he⟩ := htwin q hq
      have hf := Payment.fields_of_terms he
      obtain ⟨x,hlink,hx,huser,hplan⟩ := h.linked p hp
      obtain ⟨y,hy,hid,hyu,hyp⟩ := hsub hx
      refine ⟨y,?_,?_,?_,?_⟩
      · rw [hf.2.2.1,hlink,hid]
      · rw [hid]
        exact hy
      · rw [hyu,huser,hf.2.1]
      · rw [hyp,hplan,hf.2.2.2.1]
    links := by
      intro q hq q' hq' hlink
      obtain ⟨p,hp,he⟩ := htwin q hq
      obtain ⟨p',hp',he'⟩ := htwin q' hq'
      have hf := Payment.fields_of_terms he
      have hf' := Payment.fields_of_terms he'
      have hpp : p=p' := h.links p hp p' hp' (by rw [← hf.2.2.1,← hf'.2.2.1,hlink])
      exact hsame q hq q' hq' (by rw [hf.1,hf'.1,hpp])
    promoCodes := by
      intro q hq k hk
      obtain ⟨p,hp,he⟩ := htwin q hq
      rw [(Payment.fields_of_terms he).2.2.2.2.2.2] at hk
      exact ⟨(h.promoCodes p hp k hk).1,hpromos k (h.promoCodes p hp k hk).2⟩}

section

variable {cfg : Settings} {s t : Session} {refunds : Id → Prop}

/-- Requests that keep the books keep them in order. -/
theorem Ledger.of_kept (h : Ledger cfg s.serial s.db) (hk : (keepingBooks refunds).rel s t) :
    Ledger cfg t.serial t.db := by
  obtain ⟨hkept,hserial,hpromos⟩ := hk
  have hpay : ∀ q∈t.db.payments.rows,∃ p∈s.db.payments.rows,q.terms=p.terms ∧
      PaymentStatus.drifts (refunds q.id) p.status q.status := by
    intro q hq
    obtain ⟨p,hp,he,hd⟩ := hkept.payment_from (t.db.payments.get?_of_mem hq)
    exact ⟨p,Store.mem_of_get? hp,he,hd⟩
  have hsub : ∀ x∈t.db.subscriptions.rows,∃ y∈s.db.subscriptions.rows,x.terms=y.terms ∧
      y.drifts x := by
    intro x hx
    obtain ⟨y,hy,he,hd⟩ := hkept.subscription_from (t.db.subscriptions.get?_of_mem hx)
    exact ⟨y,Store.mem_of_get? hy,he,hd⟩
  have hbook : PaymentBook cfg t.serial t.db := by
    refine h.paymentBook hserial (fun q hq => ?_) (fun {k x} hx => ?_) hkept.promos
    · obtain ⟨p,hp,he,_⟩ := hpay q hq
      exact ⟨p,hp,he⟩
    · obtain ⟨y,hy,he,_⟩ := hkept.subscription_of hx
      have hg := Subscription.fields_of_terms he
      exact ⟨y,hy,hg.1,hg.2.1,hg.2.2.1⟩
  exact {
    paymentIds := hbook.paymentIds
    provider := hbook.provider
    external := hbook.external
    externals := hbook.externals
    linked := hbook.linked
    links := hbook.links
    promoCodes := hbook.promoCodes
    promos := hpromos h.promos
    subscriptionIds := by
      intro x hx
      obtain ⟨y,hy,he,_⟩ := hsub x hx
      rw [(Subscription.fields_of_terms he).1]
      exact (h.subscriptionIds y hy).trans_le hserial
    redemptionIds := by
      intro r hr
      rw [hkept.redemptions] at hr
      exact (h.redemptionIds r hr).trans_le hserial
    statuses := by
      intro q hq hc
      obtain ⟨p,hp,_,hd⟩ := hpay q hq
      rcases hd with hd|⟨_,hd⟩|⟨_,_,hd⟩
      · exact h.statuses p hp (hd ▸ hc)
      · rw [hd] at hc
        cases hc
      · rw [hd] at hc
        cases hc
    plans := by
      intro x hx
      obtain ⟨y,hy,he,_⟩ := hsub x hx
      rw [(Subscription.fields_of_terms he).2.2.1]
      exact hkept.plans _ (h.plans y hy)
    users := by
      intro x hx
      obtain ⟨y,hy,he,_⟩ := hsub x hx
      rw [(Subscription.fields_of_terms he).2.1]
      exact hkept.users _ (h.users y hy)
    paid := by
      intro x hx hne
      obtain ⟨y,hy,he,_⟩ := hsub x hx
      have hg := Subscription.fields_of_terms he
      obtain ⟨p,hp,hlink,hsettled⟩ := h.paid y hy (by rw [← hg.2.2.2.2]; exact hne)
      obtain ⟨q,hq,hep,hd⟩ := hkept.payment_of (s.db.payments.get?_of_mem hp)
      refine ⟨q,Store.mem_of_get? hq,?_,?_⟩
      · rw [(Payment.fields_of_terms hep).2.2.1,hlink,hg.1]
      · rw [PaymentStatus.settled_of_drifts hd]
        exact hsettled
    unpaid := by
      intro x hx hnone
      obtain ⟨y,hy,he,hd⟩ := hsub x hx
      have hg := Subscription.fields_of_terms he
      have hynone : y.expiresAt=none := by rw [← hg.2.2.2.2]; exact hnone
      obtain ⟨hstart,hstatus,hunsettled⟩ := h.unpaid y hy hynone
      refine ⟨?_,?_,?_⟩
      · rw [hg.2.2.2.1]
        exact hstart
      · rcases hd with hd|hd|⟨hne,_⟩
        · rw [hd]
          exact hstatus
        · exact Or.inr hd
        · exact absurd hynone hne
      · intro q hq hlink
        obtain ⟨p,hp,hep,hdp⟩ := hpay q hq
        rw [PaymentStatus.settled_of_drifts hdp]
        apply hunsettled p hp
        rw [← (Payment.fields_of_terms hep).2.2.1,hlink,hg.1]
    redeemed := by
      intro r hr k hk
      rw [hkept.redemptions] at hr
      obtain ⟨p,hp,hsettled⟩ := h.redeemed r hr k hk
      obtain ⟨q,hq,_,hd⟩ := hkept.payment_of hp
      refine ⟨q,hq,?_⟩
      rw [PaymentStatus.settled_of_drifts hd]
      exact hsettled
    codes := by
      intro r hr
      rw [hkept.redemptions] at hr
      exact hkept.promos _ (h.codes r hr)
    uses := by
      intro c hc
      unfold Database.usesOf
      rw [hkept.redemptions]
      rcases hkept.uses c hc with hold|⟨hnew,hzero⟩
      · exact h.uses c hold
      · -- a new code has no redemptions yet
        rw [hzero,List.filter_eq_nil_iff.mpr]
        · rfl
        · intro r hr he
          have hcode := h.codes r hr
          rw [of_decide_eq_true he,hnew] at hcode
          cases hcode}

theorem Ledger.unlinked (h : Ledger cfg s.serial s.db) {k : Id} (hk : s.serial≤ k) :
    ∀ p∈s.db.payments.rows,p.subscriptionId≠some k := by
  intro p hp he
  obtain ⟨x,hlink,hx,_,_⟩ := h.linked p hp
  rw [hlink] at he
  have hlt := h.subscriptionIds x (Store.mem_of_get? hx)
  rw [Option.some.inj he] at hlt
  exact absurd hlt (not_lt.mpr hk)

/-- The payment of a sale is the only one for its subscription, under an external id of its own. -/
theorem Ledger.paymentBook_sold {user : User} {plan : Plan} {promo : Option PromoCode}
    {subscription : Subscription} {payment : Payment} (h : Ledger cfg s.serial s.db)
    (hpromo : ∀ c,promo=some c → c∈s.db.promoCodes.rows)
    (hsold : Sold cfg s t user plan promo subscription payment) :
    PaymentBook cfg t.serial t.db := by
  have hserial : s.serial≤ t.serial := by
    rw [hsold.serial]
    omega
  have hpays := fun p => (hsold.mem_payments h.paymentIds (p := p)).mp
  have hplink : payment.subscriptionId=some (s.serial+1) := by rw [hsold.payment_eq]
  have hpext : payment.externalPaymentId=some (.generated (s.serial+2)) := by
    rw [hsold.payment_eq]
  have hunlinked := h.unlinked (Int.lt_succ s.serial).le
  have hunnamed : ∀ p∈s.db.payments.rows,p.externalPaymentId≠payment.externalPaymentId := by
    intro p hp he
    obtain ⟨k,hk,hlt⟩ := h.external p hp
    rw [hk,hpext] at he
    simp only [Option.some.injEq,Secret.generated.injEq] at he
    omega
  exact {
    paymentIds := by
      intro p hp
      rcases hpays p hp with hp|hp
      · exact (h.paymentIds p hp).trans_le hserial
      · rw [hp,hsold.serial,hsold.payment_eq]
        have hlt : s.serial+3<s.serial+4 := by omega
        exact hlt
    provider := by
      intro p hp
      rcases hpays p hp with hp|hp
      · exact h.provider p hp
      · rw [hp,hsold.payment_eq]
    external := by
      intro p hp
      rcases hpays p hp with hp|hp
      · obtain ⟨k,hk,hlt⟩ := h.external p hp
        exact ⟨k,hk,hlt.trans_le hserial⟩
      · refine ⟨s.serial+2,by rw [hp,hpext],?_⟩
        rw [hsold.serial]
        omega
    externals := by
      intro p hp q hq he
      rcases hpays p hp with hpo|hpn
      · rcases hpays q hq with hqo|hqn
        · exact h.externals p hpo q hqo he
        · exact absurd (hqn ▸ he) (hunnamed p hpo)
      · rcases hpays q hq with hqo|hqn
        · exact absurd (hpn ▸ he).symm (hunnamed q hqo)
        · rw [hpn,hqn]
    linked := by
      intro p hp
      rcases hpays p hp with hp|hp
      · obtain ⟨x,hlink,hx,hrest⟩ := h.linked p hp
        exact ⟨x,hlink,hsold.subscription_of h.subscriptionIds hx,hrest⟩
      · have hnew := (hsold.mem_subscriptions h.subscriptionIds).mpr (Or.inr rfl)
        refine ⟨subscription,?_,t.db.subscriptions.get?_of_mem hnew,?_,?_⟩
        · rw [hp,hplink,hsold.subscription_eq]
          rfl
        · rw [hp,hsold.payment_eq,hsold.subscription_eq]
          rfl
        · rw [hp,hsold.payment_eq,hsold.subscription_eq]
          rfl
    links := by
      intro p hp q hq he
      rcases hpays p hp with hpo|hpn
      · rcases hpays q hq with hqo|hqn
        · exact h.links p hpo q hqo he
        · rw [hqn,hplink] at he
          exact absurd he (hunlinked p hpo)
      · rcases hpays q hq with hqo|hqn
        · rw [hpn,hplink] at he
          exact absurd he.symm (hunlinked q hqo)
        · rw [hpn,hqn]
    promoCodes := by
      intro p hp k hk
      have hcodes : t.db.promoCodes=s.db.promoCodes := by rw [hsold.db]
      rw [hcodes]
      rcases hpays p hp with hp|hp
      · exact h.promoCodes p hp k hk
      · rw [hp,hsold.payment_eq] at hk
        obtain ⟨c,hc,hck⟩ := Option.map_eq_some_iff.mp hk
        have hmem := hpromo c hc
        rw [← hck]
        exact ⟨(h.promos.2 c hmem).1.ne',by rw [s.db.promoCodes.get?_of_mem hmem]; rfl⟩}

/-- A sale adds one subscription and the one payment for it. -/
theorem Ledger.of_sold {user : User} {plan : Plan} {promo : Option PromoCode}
    {subscription : Subscription} {payment : Payment} (h : Ledger cfg s.serial s.db)
    (huser : s.db.users.get? user.id=some user) (hplan : s.db.plans.get? plan.id=some plan)
    (hpromo : ∀ c,promo=some c → c∈s.db.promoCodes.rows)
    (hsold : Sold cfg s t user plan promo subscription payment) : Ledger cfg t.serial t.db := by
  have hserial : s.serial≤ t.serial := by
    rw [hsold.serial]
    omega
  have hbook := h.paymentBook_sold hpromo hsold
  have hsubs := fun x => (hsold.mem_subscriptions h.subscriptionIds (x := x)).mp
  have hpays := fun p => (hsold.mem_payments h.paymentIds (p := p)).mp
  have hpstatus : payment.status=.pending := by rw [hsold.payment_eq]
  have hsend : subscription.expiresAt=none := by rw [hsold.subscription_eq]; rfl
  exact {
    paymentIds := hbook.paymentIds
    provider := hbook.provider
    external := hbook.external
    externals := hbook.externals
    linked := hbook.linked
    links := hbook.links
    promoCodes := hbook.promoCodes
    promos := by
      have hlater := h.promos.later hserial
      unfold PromosNumbered at hlater ⊢
      rw [hsold.db]
      exact hlater
    subscriptionIds := by
      intro x hx
      rcases hsubs x hx with hx|hx
      · exact (h.subscriptionIds x hx).trans_le hserial
      · rw [hx,hsold.serial,hsold.subscription_eq]
        have hlt : s.serial+1<s.serial+4 := by omega
        exact hlt
    redemptionIds := by
      intro r hr
      rw [hsold.db] at hr
      exact (h.redemptionIds r hr).trans_le hserial
    statuses := by
      intro p hp hc
      rcases hpays p hp with hp|hp
      · exact h.statuses p hp hc
      · rw [hp,hpstatus] at hc
        cases hc
    plans := by
      intro x hx
      have hplans : t.db.plans=s.db.plans := by rw [hsold.db]
      rw [hplans]
      rcases hsubs x hx with hx|hx
      · exact h.plans x hx
      · rw [hx,hsold.subscription_eq]
        show (s.db.plans.get? plan.id).isSome
        rw [hplan]
        rfl
    users := by
      intro x hx
      have husers : t.db.users=s.db.users := by rw [hsold.db]
      rw [husers]
      rcases hsubs x hx with hx|hx
      · exact h.users x hx
      · rw [hx,hsold.subscription_eq]
        show (s.db.users.get? user.id).isSome
        rw [huser]
        rfl
    paid := by
      intro x hx hne
      rcases hsubs x hx with hx|hx
      · obtain ⟨p,hp,hrest⟩ := h.paid x hx hne
        exact ⟨p,(hsold.mem_payments h.paymentIds).mpr (Or.inl hp),hrest⟩
      · rw [hx] at hne
        exact absurd hsend hne
    unpaid := by
      intro x hx hnone
      rcases hsubs x hx with hxo|hxn
      · obtain ⟨hstart,hstatus,hun⟩ := h.unpaid x hxo hnone
        refine ⟨hstart,hstatus,fun p hp hlink => ?_⟩
        rcases hpays p hp with hp|hp
        · exact hun p hp hlink
        · rw [hp,hpstatus]
          rfl
      · refine ⟨?_,?_,fun p hp hlink => ?_⟩
        · rw [hxn,hsold.subscription_eq]
          rfl
        · rw [hxn,hsold.subscription_eq]
          exact Or.inl rfl
        · rcases hpays p hp with hp|hp
          · rw [hxn,hsold.subscription_eq] at hlink
            exact absurd hlink (h.unlinked (Int.lt_succ s.serial).le p hp)
          · rw [hp,hpstatus]
            rfl
    redeemed := by
      intro r hr k hk
      have hred : t.db.promoCodeRedemptions=s.db.promoCodeRedemptions := by rw [hsold.db]
      rw [hred] at hr
      obtain ⟨p,hp,hsettled⟩ := h.redeemed r hr k hk
      exact ⟨p,hsold.payment_of h.paymentIds hp,hsettled⟩
    codes := by
      rw [hsold.db]
      exact h.codes
    uses := by
      rw [hsold.db]
      exact h.uses}

theorem redeem_tables (id : Id) (now : Time) (payment : Payment) (db : Database) :
    (redeem id now payment db).payments=db.payments ∧
    (redeem id now payment db).subscriptions=db.subscriptions ∧
    (redeem id now payment db).plans=db.plans ∧ (redeem id now payment db).users=db.users := by
  unfold redeem
  cases promoOf db payment with
  | none => exact ⟨rfl,rfl,rfl,rfl⟩
  | some promo => exact ⟨rfl,rfl,rfl,rfl⟩

theorem succeeded_id (p : Payment) : ({p with status := .succeeded} : Payment).id=p.id := rfl

theorem Confirmed.payments_eq {external : Secret} {payment : Payment}
    {subscription : Subscription} {plan : Plan}
    (hc : Confirmed cfg external s t payment subscription plan) :
    t.db.payments=s.db.payments.modify payment.id (fun p => {p with status := .succeeded})
      succeeded_id := by
  rw [hc.db]
  exact (redeem_tables s.serial s.now payment (settle s.now payment subscription plan s.db)).1

theorem Confirmed.subscriptions_eq {external : Secret} {payment : Payment}
    {subscription : Subscription} {plan : Plan}
    (hc : Confirmed cfg external s t payment subscription plan) :
    t.db.subscriptions=s.db.subscriptions.modify subscription.id (activated s.now plan)
      (activated_id s.now plan) := by
  rw [hc.db]
  exact (redeem_tables s.serial s.now payment (settle s.now payment subscription plan s.db)).2.1

theorem Confirmed.mem_payments {external : Secret} {payment p : Payment}
    {subscription : Subscription} {plan : Plan}
    (hc : Confirmed cfg external s t payment subscription plan) :
    p∈t.db.payments.rows ↔
      p={payment with status := .succeeded} ∨ (p∈s.db.payments.rows ∧ p.id≠payment.id) := by
  rw [hc.payments_eq]
  exact Store.mem_modify_row _ (paymentByExternalId_mem hc.found).1

theorem Confirmed.mem_subscriptions {external : Secret} {payment : Payment}
    {subscription x : Subscription} {plan : Plan}
    (hc : Confirmed cfg external s t payment subscription plan) :
    x∈t.db.subscriptions.rows ↔ x=activated s.now plan subscription ∨
      (x∈s.db.subscriptions.rows ∧ x.id≠subscription.id) := by
  rw [hc.subscriptions_eq]
  exact Store.mem_modify_row _ (Store.mem_of_get? hc.subscribed)

theorem redeem_promos (id : Id) (now : Time) (payment : Payment) {db : Database} {n : Int}
    (h : PromosNumbered n db) : PromosNumbered n (redeem id now payment db) ∧
      ∀ k,(db.promoCodes.get? k).isSome → ((redeem id now payment db).promoCodes.get? k).isSome := by
  unfold redeem
  cases promoOf db payment with
  | none => exact ⟨h,fun _ hk => hk⟩
  | some promo =>
    have hkey : ∀ p : PromoCode,({p with usedCount := p.usedCount+1} : PromoCode).id=p.id :=
      fun _ => rfl
    constructor
    · refine ⟨h.1,fun c hc => ?_⟩
      rcases (Store.mem_modify hkey).mp hc with ⟨x,hx,_,he⟩|⟨hc,_⟩
      · rw [he]
        exact h.2 x hx
      · exact h.2 c hc
    · exact fun k hk => isSome_modify _ _ _ _ hkey hk

theorem redeem_rows {id : Id} {now : Time} {payment : Payment} {db : Database}
    {r : PromoCodeRedemption} (h : r∈(redeem id now payment db).promoCodeRedemptions.rows) :
    r∈db.promoCodeRedemptions.rows ∨
      ∃ promo,promoOf db payment=some promo ∧ r=redeemed id now promo payment := by
  unfold redeem at h
  cases hp : promoOf db payment with
  | none =>
    rw [hp] at h
    exact Or.inl h
  | some promo =>
    rw [hp] at h
    rcases Store.mem_of_insert h with h|h
    · exact Or.inl h
    · exact Or.inr ⟨promo,rfl,h⟩

/-- A redemption is counted. -/
theorem redeem_uses {id : Id} {now : Time} {payment : Payment} {db : Database}
    (hfresh : ∀ r∈db.promoCodeRedemptions.rows,r.id≠id)
    (huses : ∀ c∈db.promoCodes.rows,c.usedCount=(db.usesOf c.id).length) :
    ∀ c∈(redeem id now payment db).promoCodes.rows,
      c.usedCount=((redeem id now payment db).usesOf c.id).length := by
  unfold redeem Database.usesOf
  cases hp : promoOf db payment with
  | none => exact huses
  | some promo =>
    have hkey : ∀ p : PromoCode,({p with usedCount := p.usedCount+1} : PromoCode).id=p.id :=
      fun _ => rfl
    intro c hc
    simp only [Store.rows_insert _ (redeemed id now promo payment) hfresh,List.filter_append,
      List.length_append]
    rcases (Store.mem_modify hkey).mp hc with ⟨x,hx,hid,he⟩|⟨hc,hid⟩
    · have hx' := huses x hx
      unfold Database.usesOf at hx'
      rw [he,hx']
      simp [redeemed,hid]
    · have hc' := huses c hc
      unfold Database.usesOf at hc'
      rw [hc']
      simp [redeemed,Ne.symm hid]

/-- A confirmed payment settles itself and gives its subscription an end. -/
theorem Ledger.of_confirmed {external : Secret} {payment : Payment}
    {subscription : Subscription} {plan : Plan} (h : Ledger cfg s.serial s.db)
    (hc : Confirmed cfg external s t payment subscription plan) : Ledger cfg t.serial t.db := by
  have hmem := (paymentByExternalId_mem hc.found).1
  obtain ⟨_,_,hplans,husers⟩ := redeem_tables s.serial s.now payment
    (settle s.now payment subscription plan s.db)
  rw [← hc.db] at hplans husers
  have hpay := fun p => (hc.mem_payments (p := p)).mp
  have hsub := fun x => (hc.mem_subscriptions (x := x)).mp
  -- every payment now has a twin before, with the same terms
  have htwin : ∀ p∈t.db.payments.rows,∃ q∈s.db.payments.rows,p.terms=q.terms := by
    intro p hp
    rcases hpay p hp with hp|⟨hp,_⟩
    · exact ⟨payment,hmem,by rw [hp]; rfl⟩
    · exact ⟨p,hp,rfl⟩
  have hsget : ∀ {k x},s.db.subscriptions.get? k=some x →
      ∃ y,t.db.subscriptions.get? k=some y ∧ y.id=x.id ∧ y.userId=x.userId ∧ y.planId=x.planId := by
    intro k x hx
    rw [hc.subscriptions_eq,Store.get?_modify]
    split_ifs
    · rw [hx]
      exact ⟨activated s.now plan x,rfl,rfl,rfl,rfl⟩
    · exact ⟨x,hx,rfl,rfl,rfl⟩
  have hsettled : PromosNumbered s.serial (settle s.now payment subscription plan s.db) := h.promos
  have hnumbered := redeem_promos s.serial s.now payment hsettled
  rw [← hc.db] at hnumbered
  have hbook : PaymentBook cfg t.serial t.db := h.paymentBook hc.serial htwin hsget hnumbered.2
  exact {
    paymentIds := hbook.paymentIds
    provider := hbook.provider
    external := hbook.external
    externals := hbook.externals
    linked := hbook.linked
    links := hbook.links
    promoCodes := hbook.promoCodes
    promos := hnumbered.1.later hc.serial
    subscriptionIds := by
      intro x hx
      rcases hsub x hx with hx|⟨hx,_⟩
      · rw [hx]
        exact (h.subscriptionIds _ (Store.mem_of_get? hc.subscribed)).trans_le hc.serial
      · exact (h.subscriptionIds x hx).trans_le hc.serial
    redemptionIds := by
      intro r hr
      rw [hc.db] at hr
      rcases redeem_rows hr with hr|⟨promo,hpromo,hr⟩
      · exact (h.redemptionIds r hr).trans_le hc.serial
      · rw [hr]
        apply hc.drawn
        have heq : promoOf s.db payment=some promo := hpromo
        rw [heq]
        exact Option.some_ne_none promo
    statuses := by
      intro p hp hcancel
      rcases hpay p hp with hp|⟨hp,_⟩
      · rw [hp] at hcancel
        cases hcancel
      · exact h.statuses p hp hcancel
    plans := by
      intro x hx
      rw [hplans]
      rcases hsub x hx with hx|⟨hx,_⟩
      · rw [hx]
        exact h.plans subscription (Store.mem_of_get? hc.subscribed)
      · exact h.plans x hx
    users := by
      intro x hx
      rw [husers]
      rcases hsub x hx with hx|⟨hx,_⟩
      · rw [hx]
        exact h.users subscription (Store.mem_of_get? hc.subscribed)
      · exact h.users x hx
    paid := by
      intro x hx hne
      have hsucc : ({payment with status := .succeeded} : Payment)∈t.db.payments.rows :=
        hc.mem_payments.mpr (Or.inl rfl)
      rcases hsub x hx with hx|⟨hx,hxne⟩
      · exact ⟨_,hsucc,by rw [hx]; exact hc.link,rfl⟩
      · obtain ⟨p,hp,hlink,hsettled⟩ := h.paid x hx hne
        have hpne : p.id≠payment.id := by
          intro he
          have hpp : p=payment := Store.eq_of_key hp hmem he
          rw [hpp,hc.link] at hlink
          exact hxne (Option.some.inj hlink).symm
        exact ⟨p,hc.mem_payments.mpr (Or.inr ⟨hp,hpne⟩),hlink,hsettled⟩
    unpaid := by
      intro x hx hnone
      rcases hsub x hx with hx|⟨hx,hxne⟩
      · rw [hx] at hnone
        cases hnone
      · obtain ⟨hstart,hstatus,hun⟩ := h.unpaid x hx hnone
        refine ⟨hstart,hstatus,fun p hp hlink => ?_⟩
        rcases hpay p hp with hp|⟨hp,_⟩
        · rw [hp] at hlink
          have hlink' : payment.subscriptionId=some x.id := hlink
          rw [hc.link] at hlink'
          exact absurd (Option.some.inj hlink').symm hxne
        · exact hun p hp hlink
    redeemed := by
      intro r hr k hk
      rw [hc.db] at hr
      have hnow : ∀ {j p},s.db.payments.get? j=some p → p.status.settled=true →
          ∃ q,t.db.payments.get? j=some q ∧ q.status.settled=true := by
        intro j p hp hsettled
        rw [hc.payments_eq,Store.get?_modify]
        split_ifs
        · rw [hp]
          exact ⟨_,rfl,rfl⟩
        · exact ⟨p,hp,hsettled⟩
      rcases redeem_rows hr with hr|⟨promo,_,hr⟩
      · obtain ⟨p,hp,hsettled⟩ := h.redeemed r hr k hk
        exact hnow hp hsettled
      · rw [hr] at hk
        cases hk
        exact ⟨{payment with status := .succeeded},
          t.db.payments.get?_of_mem (hc.mem_payments.mpr (Or.inl rfl)),rfl⟩
    codes := by
      intro r hr
      apply hnumbered.2
      rw [hc.db] at hr
      rcases redeem_rows hr with hr|⟨promo,hpromo,hr⟩
      · exact h.codes r hr
      · obtain ⟨k,_,hk⟩ := Option.bind_eq_some_iff.mp hpromo
        have hpr : s.db.promoCodes.get? promo.id=some promo :=
          s.db.promoCodes.get?_of_mem (Store.mem_of_get? hk)
        rw [hr]
        show (s.db.promoCodes.get? promo.id).isSome
        rw [hpr]
        rfl
    uses := by
      rw [hc.db]
      exact redeem_uses (fun r hr => (h.redemptionIds r hr).ne) h.uses}

end

theorem Ledger.later {n m : Int} {db : Database} {cfg : Settings} (h : Ledger cfg n db)
    (hn : n≤ m) : Ledger cfg m db :=
  {h with
    promos := h.promos.later hn
    subscriptionIds := fun x hx => (h.subscriptionIds x hx).trans_le hn
    paymentIds := fun p hp => (h.paymentIds p hp).trans_le hn
    redemptionIds := fun r hr => (h.redemptionIds r hr).trans_le hn
    external := fun p hp => by
      obtain ⟨k,hk,hlt⟩ := h.external p hp
      exact ⟨k,hk,hlt.trans_le hn⟩}

theorem after_ledger {cfg : Settings} {w : World} {c : Call} (hw : Sound w)
    (h : Ledger cfg w.serial w.db) : Ledger cfg (after cfg w c).serial (after cfg w c).db := by
  unfold after
  rcases serve_cases cfg c.env c.request w with ⟨a,s,hm,hserve⟩|⟨x,e,s,hm,hserve⟩
  · rw [hserve]
    rcases handle_books (s := ⟨w,c.env⟩) hw hm with
      hk|⟨user,plan,promo,subscription,payment,huser,hplan,hpromo,hsold⟩|
      ⟨external,signature,payment,subscription,plan,_,_,hc⟩
    · exact Ledger.of_kept (s := ⟨w,c.env⟩) h hk
    · exact Ledger.of_sold (s := ⟨w,c.env⟩) h huser hplan hpromo hsold
    · exact Ledger.of_confirmed (s := ⟨w,c.env⟩) h hc
  · rw [hserve]
    exact h.later (handle_serial cfg c.request (s := ⟨w,c.env⟩) hw hm)

/-- The books of every reachable state are in order. -/
theorem reachable_ledger {cfg : Settings} {w : World} (h : Reachable cfg w) :
    Ledger cfg w.serial w.db := by
  have hboth : Sound w ∧ Ledger cfg w.serial w.db := by
    exact h.invariant (fun w => Sound w ∧ Ledger cfg w.serial w.db)
      ⟨sound_initial,ledger_initial cfg⟩ fun w c hw => ⟨after_sound hw.1,after_ledger hw.1 hw.2⟩
  exact hboth.2

end VpnService.Backend
