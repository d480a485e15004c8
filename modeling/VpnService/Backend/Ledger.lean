import VpnService.Backend.Soundness
import VpnService.Backend.Contracts

namespace VpnService.Backend

/-- The money has come in, whether or not it was given back. -/
def PaymentStatus.settled : PaymentStatus → Bool
  | .succeeded | .refunded => true
  | .pending | .failed | .cancelled => false

/-- A payment but for its status. -/
def Payment.terms (p : Payment) : Payment := {p with status := .pending}

/-- What a subscription was sold for and when it runs. -/
def Subscription.terms (s : Subscription) : Subscription :=
  {s with
    status := .pending
    autoRenew := false
    deviceLimitOverride := none}

/-- The changes of a payment's status other than to SUCCEEDED, with or without a refund. -/
def PaymentStatus.drifts (refund : Prop) (a b : PaymentStatus) : Prop :=
  b=a ∨ (a.settled=false ∧ b=.failed) ∨ (refund ∧ a=.succeeded ∧ b=.refunded)

/-- The changes of a subscription's status other than by a payment. -/
def Subscription.drifts (s t : Subscription) : Prop :=
  t.status=s.status ∨ t.status=.cancelled ∨ (s.expiresAt≠none ∧ t.status=.expired)

/-- What a request other than a sale or a confirmed payment may do to the books, where it may
refund some payments. -/
structure Kept (refunds : Id → Prop) (a b : Database) : Prop where
  payments : ∀ k,(b.payments.get? k).map Payment.terms=(a.payments.get? k).map Payment.terms
  statuses : ∀ k p q,a.payments.get? k=some p → b.payments.get? k=some q →
    PaymentStatus.drifts (refunds k) p.status q.status
  subscriptions : ∀ k,(b.subscriptions.get? k).map Subscription.terms=
    (a.subscriptions.get? k).map Subscription.terms
  drifts : ∀ k s t,a.subscriptions.get? k=some s → b.subscriptions.get? k=some t → s.drifts t
  redemptions : b.promoCodeRedemptions=a.promoCodeRedemptions
  plans : ∀ k,(a.plans.get? k).isSome → (b.plans.get? k).isSome
  promos : ∀ k,(a.promoCodes.get? k).isSome → (b.promoCodes.get? k).isSome
  uses : ∀ c∈b.promoCodes.rows,c∈a.promoCodes.rows ∨
    (a.promoCodes.get? c.id=none ∧ c.usedCount=0)
  users : ∀ k,(a.users.get? k).isSome → (b.users.get? k).isSome

theorem PaymentStatus.drifts_trans {r : Prop} {a b c : PaymentStatus}
    (h : PaymentStatus.drifts r a b) (k : PaymentStatus.drifts r b c) :
    PaymentStatus.drifts r a c := by
  rcases h with h|⟨h,h'⟩|⟨hr,h,h'⟩
  · exact h ▸ k
  · subst h'
    rcases k with k|⟨_,k⟩|⟨_,k,_⟩
    · exact Or.inr (Or.inl ⟨h,k⟩)
    · exact Or.inr (Or.inl ⟨h,k⟩)
    · cases k
  · subst h'
    rcases k with k|⟨k,_⟩|⟨_,k,_⟩
    · exact Or.inr (Or.inr ⟨hr,h,k⟩)
    · cases k
    · cases k

theorem Subscription.drifts_trans {s t u : Subscription} (ht : t.expiresAt=s.expiresAt)
    (h : s.drifts t) (k : t.drifts u) : s.drifts u := by
  rcases k with k|k|⟨hne,k⟩
  · unfold Subscription.drifts
    rw [k]
    exact h
  · exact Or.inr (Or.inl k)
  · rw [ht] at hne
    exact Or.inr (Or.inr ⟨hne,k⟩)

namespace Kept

variable {refunds : Id → Prop} {a b c : Database}

theorem refl (a : Database) : Kept refunds a a := by
  refine ⟨fun _ => rfl,?_,fun _ => rfl,?_,rfl,fun _ => id,fun _ => id,fun _ => Or.inl,fun _ => id⟩
  · intro k p q hp hq
    rw [hp] at hq
    cases hq
    exact Or.inl rfl
  · intro k s t hs ht
    rw [hs] at ht
    cases ht
    exact Or.inl rfl

theorem payment_of (h : Kept refunds a b) {k : Id} {p : Payment} (hp : a.payments.get? k=some p) :
    ∃ q,b.payments.get? k=some q ∧ q.terms=p.terms ∧
      PaymentStatus.drifts (refunds k) p.status q.status := by
  have hk := h.payments k
  rw [hp] at hk
  obtain ⟨q,hq,he⟩ := Option.map_eq_some_iff.mp hk
  exact ⟨q,hq,he,h.statuses k p q hp hq⟩

theorem payment_from (h : Kept refunds a b) {k : Id} {q : Payment} (hq : b.payments.get? k=some q) :
    ∃ p,a.payments.get? k=some p ∧ q.terms=p.terms ∧
      PaymentStatus.drifts (refunds k) p.status q.status := by
  have hk := (h.payments k).symm
  rw [hq] at hk
  obtain ⟨p,hp,he⟩ := Option.map_eq_some_iff.mp hk
  exact ⟨p,hp,he.symm,h.statuses k p q hp hq⟩

theorem subscription_of (h : Kept refunds a b) {k : Id} {s : Subscription}
    (hs : a.subscriptions.get? k=some s) :
    ∃ t,b.subscriptions.get? k=some t ∧ t.terms=s.terms ∧ s.drifts t := by
  have hk := h.subscriptions k
  rw [hs] at hk
  obtain ⟨t,ht,he⟩ := Option.map_eq_some_iff.mp hk
  exact ⟨t,ht,he,h.drifts k s t hs ht⟩

theorem subscription_from (h : Kept refunds a b) {k : Id} {t : Subscription}
    (ht : b.subscriptions.get? k=some t) :
    ∃ s,a.subscriptions.get? k=some s ∧ t.terms=s.terms ∧ s.drifts t := by
  have hk := (h.subscriptions k).symm
  rw [ht] at hk
  obtain ⟨s,hs,he⟩ := Option.map_eq_some_iff.mp hk
  exact ⟨s,hs,he.symm,h.drifts k s t hs ht⟩

end Kept

theorem Subscription.expiresAt_of_terms {s t : Subscription} (h : t.terms=s.terms) :
    t.expiresAt=s.expiresAt := by
  have he : t.terms.expiresAt=s.terms.expiresAt := by rw [h]
  exact he

theorem Kept.trans {refunds : Id → Prop} {a b c : Database} (h : Kept refunds a b)
    (k : Kept refunds b c) : Kept refunds a c where
  payments x := (k.payments x).trans (h.payments x)
  statuses x p q hp hq := by
    obtain ⟨r,hr,_,hpr⟩ := h.payment_of hp
    exact PaymentStatus.drifts_trans hpr (k.statuses x r q hr hq)
  subscriptions x := (k.subscriptions x).trans (h.subscriptions x)
  drifts x s t hs ht := by
    obtain ⟨r,hr,he,hsr⟩ := h.subscription_of hs
    exact Subscription.drifts_trans (Subscription.expiresAt_of_terms he) hsr
      (k.drifts x r t hr ht)
  redemptions := k.redemptions.trans h.redemptions
  plans x hx := k.plans x (h.plans x hx)
  promos x hx := k.promos x (h.promos x hx)
  uses x hx := by
    rcases k.uses x hx with hb|⟨hb,hzero⟩
    · exact h.uses x hb
    · refine Or.inr ⟨?_,hzero⟩
      by_contra hne
      have hsome := h.promos x.id (Option.isSome_iff_ne_none.mpr hne)
      rw [hb] at hsome
      cases hsome
  users x hx := k.users x (h.users x hx)

/-- Promo codes are numbered from 1 with the numbers drawn. -/
def PromosNumbered (n : Int) (db : Database) : Prop :=
  0<n ∧ ∀ c∈db.promoCodes.rows,0<c.id ∧ c.id<n

/-- The frame of the requests that keep the books. -/
def keepingBooks (refunds : Id → Prop) : Frame Session where
  rel s t := Kept refunds s.db t.db ∧ s.serial≤t.serial ∧
    (PromosNumbered s.serial s.db → PromosNumbered t.serial t.db)
  refl _ := ⟨Kept.refl _,le_rfl,id⟩
  trans h k := ⟨h.1.trans k.1,h.2.1.trans k.2.1,fun hs => k.2.2 (h.2.2 hs)⟩

theorem PromosNumbered.later {n m : Int} {db : Database} (h : PromosNumbered n db) (hn : n≤ m) :
    PromosNumbered m db := by
  constructor
  · exact h.1.trans_le hn
  · exact fun c hc => ⟨(h.2 c hc).1,(h.2 c hc).2.trans_le hn⟩

section

variable {refunds : Id → Prop}

theorem books_of_billing {s t : Session} (h : t.db.billing=s.db.billing)
    (hs : s.serial≤t.serial) : (keepingBooks refunds).rel s t := by
  simp only [Database.billing,Prod.mk.injEq] at h
  obtain ⟨hu,hp,hsub,hc,hr,hpay⟩ := h
  have hrefl : Kept refunds s.db s.db := Kept.refl s.db
  refine ⟨?_,hs,fun hn => ?_⟩
  · exact ⟨fun k => by rw [hpay],fun k p q hp hq => hrefl.statuses k p q hp (hpay ▸ hq),
      fun k => by rw [hsub],fun k x y hx hy => hrefl.drifts k x y hx (hsub ▸ hy),hr,
      fun k hk => by rw [hp]; exact hk,fun k hk => by rw [hc]; exact hk,
      fun c hcode => Or.inl (by rw [← hc]; exact hcode),fun k hk => by rw [hu]; exact hk⟩
  · have hlater := hn.later hs
    unfold PromosNumbered
    rw [hc]
    exact hlater

theorem books_of_core {s t : Session} (h : coreFrame.rel s t) : (keepingBooks refunds).rel s t :=
  books_of_billing (congrArg Prod.fst h.1) h.2

theorem keepingBooks_books : Bookkeeping (keepingBooks refunds) :=
  ⟨fun _ => books_of_billing rfl (by simp),fun _ _ => books_of_billing rfl le_rfl⟩

theorem alter_keepingBooks {f : Database → Database} {s : Session} (h : Kept refunds s.db (f s.db))
    (hp : (f s.db).promoCodes=s.db.promoCodes) : WithinAt (keepingBooks refunds) (alter f) s := by
  refine ⟨h,le_rfl,fun hn => ?_⟩
  unfold PromosNumbered
  show 0<s.serial ∧ ∀ c∈(f s.db).promoCodes.rows,0<c.id ∧ c.id<s.serial
  rw [hp]
  exact hn

theorem isSome_modify {κ ρ : Type} {key : ρ → κ} [DecidableEq κ] (s : Store key) (k j : κ)
    (f : ρ → ρ) (hf : ∀ r,key (f r)=key r) (h : (s.get? j).isSome) :
    ((s.modify k f hf).get? j).isSome := by
  rw [Store.get?_modify]
  split_ifs
  · rw [Option.isSome_map]
    exact h
  · exact h

theorem updateUser_keepingBooks (k : Id) {f : User → User} (hf : ∀ u,(f u).id=u.id) :
    Within (keepingBooks refunds) (updateUser k f hf) := by
  unfold updateUser
  intro s
  apply alter_keepingBooks
  · exact {Kept.refl s.db with users := fun j hj => isSome_modify _ _ _ f hf hj}
  · rfl

/-- A changed status of a payment. -/
theorem setPaymentStatus_keepingBooks {k : Id} {status : PaymentStatus} {s : Session}
    (h : ∀ p,s.db.payments.get? k=some p → PaymentStatus.drifts (refunds k) p.status status) :
    WithinAt (keepingBooks refunds) (setPaymentStatus k status) s := by
  unfold setPaymentStatus
  have hkey : ∀ p : Payment,({p with status := status} : Payment).id=p.id := fun _ => rfl
  apply alter_keepingBooks
  · have hrefl : Kept refunds s.db s.db := Kept.refl s.db
    refine {hrefl with payments := ?_,statuses := ?_}
    · intro j
      rw [Store.get?_modify _ _ _ _ hkey]
      split_ifs
      · cases s.db.payments.get? j <;> rfl
      · rfl
    · intro j p q hp hq
      rw [Store.get?_modify _ _ _ _ hkey] at hq
      split_ifs at hq with hj
      · rw [hp] at hq
        cases hq
        subst hj
        exact h p hp
      · rw [hp] at hq
        cases hq
        exact Or.inl rfl
  · rfl

/-- A change of a subscription that leaves its terms. -/
theorem updateSubscription_keepingBooks {k : Id} {f : Subscription → Subscription}
    (hf : ∀ x,(f x).id=x.id) (ht : ∀ x,(f x).terms=x.terms) {s : Session}
    (hd : ∀ x,s.db.subscriptions.get? k=some x → x.drifts (f x)) :
    WithinAt (keepingBooks refunds) (updateSubscription k f hf) s := by
  unfold updateSubscription
  apply alter_keepingBooks
  · refine {Kept.refl s.db with subscriptions := ?_,drifts := ?_}
    · intro j
      rw [Store.get?_modify]
      split_ifs
      · cases s.db.subscriptions.get? j with
        | none => rfl
        | some x => exact congrArg some (ht x)
      · rfl
    · intro j x y hx hy
      rw [Store.get?_modify] at hy
      split_ifs at hy with hj
      · rw [hx] at hy
        cases hy
        exact hd x (hj ▸ hx)
      · rw [hx] at hy
        cases hy
        exact Or.inl rfl
  · rfl

theorem getOrCreateFromTelegram_keepingBooks (payload : TelegramAuthRequest) :
    Within (keepingBooks refunds) (getOrCreateFromTelegram payload) := by
  refine getDb_within.bind fun db => ?_
  cases db.userByTelegramId payload.telegramId with
  | some user => exact updateUser_keepingBooks _ _
  | none =>
    refine (nextSerial_within keepingBooks_books).bind fun id => ?_
    refine Within.bind (fun s => ?_) fun _ => flush_within keepingBooks_books
    apply alter_keepingBooks
    · exact {Kept.refl s.db with users := fun j hj => Store.isSome_insert _ hj}
    · rfl

theorem audit_keepingBooks (adminId : Option Id) (action targetType : String)
    (targetId : Option Id) (metadata : List (String×String)) :
    Within (keepingBooks refunds) (recordAudit adminId action targetType targetId metadata) :=
  (audit_core _ _ _ _ _).mono books_of_core

theorem createPlan_keepingBooks (payload : PlanCreate) :
    Within (keepingBooks refunds) (createPlan payload) := by
  refine (Within.require _ _).bind fun _ => getDb_within.bind fun _ => (Within.require _ _).bind
    fun _ => (nextSerial_within keepingBooks_books).bind fun id => ?_
  refine Within.bind (fun s => ?_) fun _ => (flush_within keepingBooks_books).bind fun _ =>
    Within.pure _
  apply alter_keepingBooks
  · exact {Kept.refl s.db with plans := fun j hj => Store.isSome_insert _ hj}
  · rfl

theorem updatePlan_keepingBooks (planId : Id) (payload : PlanUpdate) :
    Within (keepingBooks refunds) (updatePlan planId payload) := by
  have hkey : ∀ p : Plan,(updatedPlan payload p).id=p.id := fun _ => rfl
  refine (getPlan_within planId).bind fun plan => Within.bind (fun s => ?_) fun _ =>
    flush_within keepingBooks_books
  apply alter_keepingBooks
  · exact {Kept.refl s.db with plans := fun j hj => isSome_modify _ _ _ _ hkey hj}
  · rfl

theorem addPromoCode_keepingBooks (code : String) (discountType : PromoDiscountType)
    (discountValue : Rat) (maxUses : Option Int) (validFrom validUntil : Option Time)
    (active : Bool) : Within (keepingBooks refunds)
      (addPromoCode code discountType discountValue maxUses validFrom validUntil active) := by
  refine getDb_within.bind fun _ => (Within.require _ _).bind fun _ s => ?_
  refine ⟨{Kept.refl s.db with
    promos := fun j hj => Store.isSome_insert _ hj
    uses := fun c hc => ?_},(Int.lt_succ _).le,fun hn => ?_⟩
  · rcases Store.fresh_of_insert hc with hold|⟨hc,hfresh⟩
    · exact Or.inl hold
    · rw [hc]
      exact Or.inr ⟨hfresh,rfl⟩
  have hlater := hn.later (Int.lt_succ s.serial).le
  refine ⟨hlater.1,fun c hc => ?_⟩
  rcases Store.mem_of_insert hc with hc|hc
  · exact hlater.2 c hc
  · rw [hc]
    exact ⟨hn.1,Int.lt_succ _⟩

/-- A failed or pending event keeps the books. -/
theorem setFailed_keepingBooks {payment : Payment} {s : Session}
    (hget : s.db.payments.get? payment.id=some payment) (hopen : payment.status.settled=false) :
    WithinAt (keepingBooks refunds) (setPaymentStatus payment.id .failed) s := by
  apply setPaymentStatus_keepingBooks
  intro p hp
  rw [hget] at hp
  cases hp
  exact Or.inr (Or.inl ⟨hopen,rfl⟩)

theorem refundPayment_keepingBooks (adminId : Id) {paymentId : Id} (hr : refunds paymentId) :
    Within (keepingBooks refunds) (refundPayment adminId paymentId) := by
  intro s
  refine WithinAt.still_bind (getDb_within s) fun db hdb => ?_
  cases hdb
  refine WithinAt.orRaise_bind fun payment hget => ?_
  refine WithinAt.bind ?_ fun _ t _ => audit_keepingBooks _ _ _ _ _ t
  refine WithinAt.bind (Within.require _ _ s) fun _ t ht => ?_
  obtain ⟨hstatus,hts⟩ := Eff.require_ok.mp ht
  subst hts
  have hid : payment.id=paymentId := Store.key_of_get? hget
  apply setPaymentStatus_keepingBooks
  intro p hp
  rw [hid,hget] at hp
  cases hp
  rw [hid]
  exact Or.inr (Or.inr ⟨hr,hstatus,rfl⟩)

theorem cancelSubscription_keepingBooks (telegramId : Int) (subscriptionId : Id) :
    Within (keepingBooks refunds) (cancelSubscription telegramId subscriptionId) := by
  refine (currentUser_within telegramId).bind fun _ => (getSubscription_within subscriptionId).bind
    fun subscription => (Within.require _ _).bind fun _ s => ?_
  apply updateSubscription_keepingBooks
  · exact fun _ => rfl
  · exact fun _ _ => Or.inr (Or.inl rfl)

/-- Expiring a row that has an end. -/
theorem expire_keepingBooks {subscription : Subscription} {s : Session}
    (h : ∀ x,s.db.subscriptions.get? subscription.id=some x → x.expiresAt≠none) :
    WithinAt (keepingBooks refunds) (expire subscription) s := by
  apply updateSubscription_keepingBooks
  · exact fun _ => rfl
  · exact fun x hx => Or.inr (Or.inr ⟨h x hx,rfl⟩)

theorem processOne_keepingBooks {subscription : Subscription} {s : Session}
    (h : ∀ x,s.db.subscriptions.get? subscription.id=some x → x.expiresAt≠none) :
    WithinAt (keepingBooks refunds) (processOne subscription) s := by
  refine WithinAt.still_bind (getDb_within s) fun _ _ => ?_
  refine WithinAt.still_bind (Within.orRaise _ _ s) fun plan _ => ?_
  refine WithinAt.still_bind (Within.orRaise _ _ s) fun user _ => ?_
  refine (expire_keepingBooks h).bind fun _ t _ => ?_
  refine Within.bind ((disableAllForUser_hosting _).mono fun hb =>
      books_of_billing (billing_of_contract (contract_of_hosting hb)).1 hb.2)
    (fun _ => ?_) t
  refine (audit_keepingBooks _ _ _ _ _).bind fun _ => ?_
  exact Within.change fun _ => books_of_billing rfl le_rfl

theorem runOnce_keepingBooks (asOf : Option Time) : Within (keepingBooks refunds) (runOnce asOf) := by
  intro s
  refine WithinAt.reads_bind (WithinAt.reads_bind ?_)
  refine WithinAt.bind ?_ fun _ t _ => Within.pure _ t
  have hdue : ∀ x∈s.db.listExpired (asOf.getD s.now),
      x∈s.db.subscriptions.rows ∧ x.expiresAt≠none := by
    intro x hx
    obtain ⟨hmem,hd⟩ := List.mem_filter.mp hx
    refine ⟨hmem,fun hnone => ?_⟩
    simp [Database.isDue,hnone] at hd
  -- an end that was set stays set while the other rows are processed
  refine WithinAt.each (fun t => ∀ x∈s.db.listExpired (asOf.getD s.now),∀ y,
    t.db.subscriptions.get? x.id=some y → y.expiresAt≠none) ?_ ?_ fun x hx t ht => ?_
  · intro x hx y hy
    rw [s.db.subscriptions.get?_of_mem (hdue x hx).1] at hy
    cases hy
    exact (hdue x hx).2
  · intro t u ht hrel x hx y hy
    obtain ⟨z,hz,he,_⟩ := hrel.1.subscription_from hy
    rw [Subscription.expiresAt_of_terms he]
    exact ht x hx z hz
  · exact processOne_keepingBooks (ht x hx)

end

/-- A sale: a pending subscription and a pending payment for it. -/
structure Sold (cfg : Settings) (s t : Session) (user : User) (plan : Plan)
    (promo : Option PromoCode) (subscription : Subscription) (payment : Payment) : Prop where
  subscription_eq : subscription=pendingSubscription (s.serial+1) user plan false
  payment_eq : payment={
    id := s.serial+3
    userId := user.id
    subscriptionId := some (s.serial+1)
    planId := plan.id
    provider := cfg.paymentProvider
    externalPaymentId := some (.generated (s.serial+2))
    idempotencyKey := .generated s.serial
    amount := numeric2 (amountDue plan promo)
    currency := plan.currency
    status := .pending
    promoCodeId := promo.map PromoCode.id}
  db : t.db={s.db with
    subscriptions := s.db.subscriptions.insert subscription
    payments := s.db.payments.insert payment}
  serial : t.serial=s.serial+4

section

variable {cfg : Settings} {s t : Session} {user : User} {plan : Plan} {promo : Option PromoCode}
  {subscription : Subscription} {payment : Payment}

theorem Sold.payment_fresh (h : Sold cfg s t user plan promo subscription payment)
    (hids : ∀ p∈s.db.payments.rows,p.id<s.serial) :
    ∀ p∈s.db.payments.rows,p.id≠payment.id := by
  intro p hp
  have hid : payment.id=s.serial+3 := by rw [h.payment_eq]
  have hlater : s.serial<s.serial+3 := by omega
  rw [hid]
  exact ((hids p hp).trans hlater).ne

theorem Sold.subscription_fresh (h : Sold cfg s t user plan promo subscription payment)
    (hids : ∀ x∈s.db.subscriptions.rows,x.id<s.serial) :
    ∀ x∈s.db.subscriptions.rows,x.id≠subscription.id := by
  intro x hx
  have hid : subscription.id=s.serial+1 := by rw [h.subscription_eq]; rfl
  have hlater : s.serial<s.serial+1 := by omega
  rw [hid]
  exact ((hids x hx).trans hlater).ne

theorem Sold.mem_payments (h : Sold cfg s t user plan promo subscription payment)
    (hids : ∀ p∈s.db.payments.rows,p.id<s.serial) {p : Payment} :
    p∈t.db.payments.rows ↔ p∈s.db.payments.rows ∨ p=payment := by
  rw [h.db]
  exact Store.mem_insert (h.payment_fresh hids)

theorem Sold.mem_subscriptions (h : Sold cfg s t user plan promo subscription payment)
    (hids : ∀ x∈s.db.subscriptions.rows,x.id<s.serial) {x : Subscription} :
    x∈t.db.subscriptions.rows ↔ x∈s.db.subscriptions.rows ∨ x=subscription := by
  rw [h.db]
  exact Store.mem_insert (h.subscription_fresh hids)

theorem Sold.payment_of (h : Sold cfg s t user plan promo subscription payment)
    (hids : ∀ p∈s.db.payments.rows,p.id<s.serial) {k : Id} {p : Payment}
    (hp : s.db.payments.get? k=some p) : t.db.payments.get? k=some p := by
  rw [h.db]
  exact Store.get?_insert_of_some (h.payment_fresh hids) hp

theorem Sold.subscription_of (h : Sold cfg s t user plan promo subscription payment)
    (hids : ∀ x∈s.db.subscriptions.rows,x.id<s.serial) {k : Id} {x : Subscription}
    (hx : s.db.subscriptions.get? k=some x) : t.db.subscriptions.get? k=some x := by
  rw [h.db]
  exact Store.get?_insert_of_some (h.subscription_fresh hids) hx

end

/-- The promo code a payment is made with. -/
def Database.promoNamed (db : Database) (promoCode : Option String) : Option PromoCode :=
  (promoCode.filter fun c => c≠"").bind db.promoByCode

theorem promoNamed_mem {db : Database} {code : Option String} {promo : PromoCode}
    (h : db.promoNamed code=some promo) : promo∈db.promoCodes.rows := by
  obtain ⟨c,_,hfound⟩ := Option.bind_eq_some_iff.mp h
  exact List.mem_of_find?_eq_some hfound

theorem checkPromo_ok {db : Database} {now : Time} {user : User} {code : String}
    {promo : PromoCode} (h : checkPromo db now user code=.ok promo) :
    db.promoByCode code=some promo := by
  unfold checkPromo at h
  cases hp : db.promoByCode code with
  | none =>
    rw [hp] at h
    cases h
  | some found =>
    simp only [hp] at h
    split_ifs at h
    cases hr : db.redemptionsOf found.id user.id with
    | nil =>
      rw [hr] at h
      cases h
      rfl
    | cons r rs =>
      rw [hr] at h
      cases rs <;> cases h

theorem checkedPromo_ok {user : User} {code : Option String} {s t : Session}
    {promo : Option PromoCode} (h : checkedPromo user code s=(.ok promo,t)) :
    s=t ∧ promo=s.db.promoNamed code := by
  unfold checkedPromo at h
  unfold Database.promoNamed
  cases hc : code.filter fun c => c≠"" with
  | none =>
    rw [hc] at h
    cases h
    exact ⟨rfl,rfl⟩
  | some code =>
    rw [hc] at h
    simp only [getDb_bind_run,getNow_bind_run] at h
    cases hv : checkPromo s.db s.now user code with
    | error e =>
      rw [hv] at h
      cases h
    | ok found =>
      rw [hv] at h
      cases h
      exact ⟨rfl,(checkPromo_ok hv).symm⟩

theorem createPayment_ok {cfg : Settings} {user : User} {plan : Plan} {code : Option String}
    {s t : Session} {payment : Payment}
    (h : createPayment cfg user plan code s=(.ok payment,t)) :
    ∃ subscription,plan.active ∧
      Sold cfg s t user plan (s.db.promoNamed code) subscription payment := by
  obtain ⟨promo,u,hu,h⟩ := Eff.bind_ok.mp h
  obtain ⟨hsu,hpromo⟩ := checkedPromo_ok hu
  subst hsu
  subst hpromo
  rw [nextSerial_bind_run] at h
  obtain ⟨subscription,v,hv,h⟩ := Eff.bind_ok.mp h
  obtain ⟨hactive,hv⟩ := Eff.require_bind_ok.mp hv
  rw [nextSerial_bind_run,alter_bind_run] at hv
  obtain ⟨_,w,hw,hv⟩ := Eff.bind_ok.mp hv
  obtain ⟨os,hws⟩ := flush_ok hw
  cases hv
  rw [nextSerial_bind_run,nextSerial_bind_run,alter_bind_run] at h
  obtain ⟨_,x,hx,h⟩ := Eff.bind_ok.mp h
  obtain ⟨os',hxs⟩ := flush_ok hx
  cases h
  refine ⟨_,hactive,rfl,?_,?_,?_⟩
  · rw [hws]
    have h2 : s.serial+1+1=s.serial+2 := by omega
    have h3 : s.serial+2+1=s.serial+3 := by omega
    simp only [pendingSubscription,h2,h3]
  · rw [hxs,hws]
  · rw [hxs,hws]
    simp only
    omega

/-- The effects of a confirmed payment on the payment and its subscription. -/
def settle (now : Time) (payment : Payment) (subscription : Subscription) (plan : Plan)
    (db : Database) : Database :=
  {db with
    payments := db.payments.modify payment.id (fun p => {p with status := .succeeded}) fun _ => rfl
    subscriptions := db.subscriptions.modify subscription.id (activated now plan) fun _ => rfl}

/-- The promo code a payment redeems. -/
def promoOf (db : Database) (payment : Payment) : Option PromoCode :=
  (payment.promoCodeId.filter fun k => k≠0).bind db.promoCodes.get?

theorem PromoCode.counted_id (p : PromoCode) :
    PromoCode.id {p with usedCount := p.usedCount+1}=p.id := rfl

/-- Its effects on the promo code. -/
def redeem (id : Id) (now : Time) (payment : Payment) (db : Database) : Database :=
  match promoOf db payment with
  | none => db
  | some promo =>
    {db with
      promoCodes := db.promoCodes.modify promo.id
        (fun p => {p with usedCount := p.usedCount+1}) PromoCode.counted_id
      promoCodeRedemptions := db.promoCodeRedemptions.insert (redeemed id now promo payment)}

theorem redeemPromo_run (payment : Payment) (s : Session) : ∃ n,s.serial≤n ∧
    (promoOf s.db payment≠none → n=s.serial+1) ∧
    redeemPromo payment s=(.ok (),{s with
      db := redeem s.serial s.now payment s.db
      serial := n}) := by
  unfold redeemPromo redeem promoOf
  rw [getDb_bind_run]
  cases hp : (payment.promoCodeId.filter fun k => k≠0).bind s.db.promoCodes.get? with
  | none => exact ⟨s.serial,le_rfl,fun h => absurd rfl h,rfl⟩
  | some promo => exact ⟨s.serial+1,(Int.lt_succ _).le,fun _ => rfl,rfl⟩

theorem activated_id (now : Time) (plan : Plan) (x : Subscription) :
    (activated now plan x).id=x.id := rfl

/-- An activation goes through just when the new end is a date. -/
theorem activate_iff {subscription : Subscription} {plan : Plan} {s t : Session} :
    activate subscription plan s=(.ok (),t) ↔
      InCalendar (extensionBase s.now subscription) plan.durationDays ∧ t={s with
        db := {s.db with
          subscriptions := s.db.subscriptions.modify subscription.id (activated s.now plan)
            (activated_id s.now plan)}} := by
  unfold activate updateSubscription
  rw [getNow_bind_run,Eff.require_bind_ok]
  refine and_congr_right fun _ => ⟨fun h => ?_,fun h => ?_⟩
  · cases h
    rfl
  · rw [h]
    rfl

/-- A payment whose subscription and plan are there is confirmed, if the new end is a date. -/
theorem confirmPayment_run {payment : Payment} {subscription : Subscription} {plan : Plan}
    {s : Session} (hlink : payment.subscriptionId=some subscription.id)
    (hsub : s.db.subscriptions.get? subscription.id=some subscription)
    (hplan : s.db.plans.get? subscription.planId=some plan)
    (hdate : InCalendar (extensionBase s.now subscription) plan.durationDays) : ∃ n,s.serial≤n ∧
    (promoOf s.db payment≠none → n=s.serial+1) ∧
    confirmPayment payment s=(.ok (),{s with
      db := redeem s.serial s.now payment (settle s.now payment subscription plan s.db)
      serial := n}) := by
  obtain ⟨n,hn,hpromo,hrun⟩ := redeemPromo_run payment
    {s with db := settle s.now payment subscription plan s.db}
  refine ⟨n,hn,hpromo,?_⟩
  unfold confirmPayment setPaymentStatus
  rw [alter_bind_run,hlink,Eff.orRaise_some,Eff.pure_bind_run]
  unfold getSubscription
  rw [Eff.bind_run,getDb_bind_run]
  simp only [hsub,Eff.orRaise_some,Eff.pure_run,getDb_bind_run,hplan,Eff.pure_bind_run]
  have hactivate := activate_iff (s := {s with
    db := {s.db with
      payments := s.db.payments.modify payment.id (fun p => {p with status := .succeeded})
        fun _ => rfl}}).mpr ⟨hdate,rfl⟩
  rw [Eff.bind_run_ok hactivate]
  exact hrun

theorem confirmPayment_ok {payment : Payment} {s t : Session}
    (h : confirmPayment payment s=(.ok (),t)) : ∃ subscription plan,
      payment.subscriptionId=some subscription.id ∧
      s.db.subscriptions.get? subscription.id=some subscription ∧
      s.db.plans.get? subscription.planId=some plan ∧
      InCalendar (extensionBase s.now subscription) plan.durationDays := by
  unfold confirmPayment setPaymentStatus at h
  rw [alter_bind_run] at h
  obtain ⟨k,hk,h⟩ := Eff.orRaise_bind_ok.mp h
  obtain ⟨subscription,u,hu,h⟩ := Eff.bind_ok.mp h
  obtain ⟨hsub,hus⟩ := Eff.orRaise_ok.mp hu
  subst hus
  rw [getDb_bind_run] at h
  obtain ⟨plan,hplan,h⟩ := Eff.orRaise_bind_ok.mp h
  obtain ⟨_,v,hv,_⟩ := Eff.bind_ok.mp h
  have hdate := (activate_iff.mp hv).1
  have hid : subscription.id=k := Store.key_of_get? hsub
  exact ⟨subscription,plan,by rw [hk,hid],by rw [hid]; exact hsub,hplan,hdate⟩

end VpnService.Backend
