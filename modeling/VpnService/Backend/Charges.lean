import VpnService.Backend.PromoLimits
import Mathlib.Tactic.Linarith
import Mathlib.Tactic.FieldSimp
import Mathlib.Tactic.Ring

namespace VpnService.Backend

/-- What `create_payment` asks of the payment provider. -/
structure PaymentOrder where
  amount : Rat
  currency : String
  description : String
  idempotencyKey : Secret
  deriving DecidableEq

/-- The checkout url is a fixed text before the external id. -/
structure PaymentIntent where
  externalPaymentId : Secret
  checkoutUrl : Option (String×Secret)
  status : PaymentIntentStatus

/-- A computation beside the orders the payment provider has received. -/
abbrev Charging := Eff AppError (Session×List PaymentOrder)

/-- A part that asks the provider for nothing. -/
def beside {α : Type} (m : Req α) : Charging α := fun s => ((m s.1).1,((m s.1).2,s.2))

/-- `MockPaymentProvider.create_payment`. -/
def mockCreatePayment (order : PaymentOrder) : Charging PaymentIntent := do
  Eff.change fun s => (s.1,s.2++[order])
  let external ← beside nextSerial
  pure ⟨.generated external,some ("https://mock-payments.local/pay/",.generated external),.pending⟩

/-- `PaymentService.create_payment` with its call of the provider. -/
def chargePayment (cfg : Settings) (user : User) (plan : Plan) (promoCode : Option String) :
    Charging (Payment×Option (String×Secret)) := do
  let promo ← beside (checkedPromo user promoCode)
  let amount := amountDue plan promo
  let idempotencyKey ← beside nextSerial
  let subscription ← beside (createPending user plan false)
  let intent ← mockCreatePayment
    ⟨amount,plan.currency,"Subscription: "++plan.name,.generated idempotencyKey⟩
  let id ← beside nextSerial
  let payment : Payment := {
    id := id
    userId := user.id
    subscriptionId := some subscription.id
    planId := plan.id
    provider := cfg.paymentProvider
    externalPaymentId := some intent.externalPaymentId
    idempotencyKey := .generated idempotencyKey
    amount := numeric2 amount
    currency := plan.currency
    status := .pending
    promoCodeId := promo.map PromoCode.id }
  beside (alter fun db => {db with payments := db.payments.insert payment})
  beside flush
  pure (payment,intent.checkoutUrl)

/-- What a request asks of the provider before it ends. -/
def Call.orders (cfg : Settings) (w : World) (c : Call) : List PaymentOrder := match c.request with
  | .billing (.createPayment telegramId planId promoCode) =>
    let charge : Charging (Payment×Option (String×Secret)) := do
      let user ← beside (currentUser telegramId)
      let plan ← beside (getPlan planId)
      chargePayment cfg user plan promoCode
    (charge (⟨w,c.env⟩,[])).2.2
  | _ => []

/-- A whole number of hundredths. -/
def TwoDecimals (x : Rat) : Prop := ∃ n : Int,x*100=n

/-- The price is none below zero, and a percentage of less than all of it comes out in whole
hundredths. -/
def Divides (plan : Plan) (promo : Option PromoCode) : Prop := 0≤plan.price ∧
  ∀ c,promo=some c → c.discountType=.percent →
    100≤c.discountValue ∨ ∃ n : Int,plan.price*c.discountValue=n

/-- The user is charged, for this order, what the payment row says from then on. -/
structure ChargedAsRecorded (cfg : Settings) (w : World) (c : Call) (plan : Plan)
    (order : PaymentOrder) : Prop where
  whole : TwoDecimals order.amount
  nonneg : 0≤order.amount
  atMost : order.amount≤plan.price
  recorded : ∀ payment v,serve cfg c.env c.request w=(.ok (.payment payment),v) →
    ∀ cs : List Call,((cs.foldl (after cfg) v).db.payments.get? payment.id).map Payment.amount=
      some order.amount

theorem numeric2_fixed {x : Rat} (h : TwoDecimals x) : numeric2 x=x := by
  obtain ⟨n,hn⟩ := h
  have hround : ∀ m : Int,((m : Rat)+1/2).floor=m := by
    intro m
    have hsum : ((m : Rat)+1/2).floor=m+(1/2 : Rat).floor := by
      rw [add_comm,Rat.floor_add_intCast,add_comm]
    rw [hsum]
    have hhalf : (1/2 : Rat).floor=0 := by decide +kernel
    omega
  have hback : x=(n : Rat)/100 := by linarith
  unfold numeric2
  split_ifs with hx
  · rw [hn,hround,hback]
  · have hneg : -x*100=((-n : Int) : Rat) := by
      push_cast
      linarith
    rw [hneg,hround,hback]
    push_cast
    ring

theorem TwoDecimals.sub {x y : Rat} (hx : TwoDecimals x) (hy : TwoDecimals y) :
    TwoDecimals (x-y) := by
  obtain ⟨n,hn⟩ := hx
  obtain ⟨m,hm⟩ := hy
  refine ⟨n-m,?_⟩
  push_cast
  linarith

/-- A percentage of a price in hundredths is in hundredths when price times rate is whole. -/
theorem percent_twoDecimals_iff {price rate : Rat} (hprice : TwoDecimals price) :
    TwoDecimals (price*(100-rate)/100) ↔ ∃ n : Int,price*rate=n := by
  obtain ⟨k,hk⟩ := hprice
  have hscaled : price*(100-rate)/100*100=(k : Rat)-price*rate := by
    rw [← hk]
    ring
  constructor
  · intro h
    obtain ⟨n,hn⟩ := h
    rw [hscaled] at hn
    refine ⟨k-n,?_⟩
    push_cast
    linarith
  · intro h
    obtain ⟨n,hn⟩ := h
    refine ⟨k-n,?_⟩
    rw [hscaled,hn]
    push_cast
    ring

theorem applyDiscount_nonneg (amount : Rat) (discountType : PromoDiscountType)
    (discountValue : Rat) : 0≤applyDiscount amount discountType discountValue := le_max_right _ _

theorem applyDiscount_le {amount discountValue : Rat} (discountType : PromoDiscountType)
    (hamount : 0≤amount) (hvalue : 0≤discountValue) :
    applyDiscount amount discountType discountValue≤amount := by
  unfold applyDiscount
  apply max_le _ hamount
  cases discountType with
  | percent =>
    have hoff : 0≤amount*discountValue := mul_nonneg hamount hvalue
    show amount*(100-discountValue)/100≤amount
    linarith
  | fixed =>
    show amount-discountValue≤amount
    linarith

theorem twoDecimals_zero : TwoDecimals 0 := ⟨0,by norm_num⟩

theorem twoDecimals_max {x : Rat} (h : TwoDecimals x) : TwoDecimals (max x 0) := by
  rcases max_choice x 0 with hx|hx
  · rw [hx]
    exact h
  · rw [hx]
    exact twoDecimals_zero

/-- The discounted amount is one that can be charged just when the percentage divides. -/
theorem applyDiscount_fair_iff {price : Rat} {discountType : PromoDiscountType}
    {discountValue : Rat} (hprice : TwoDecimals price) (hnonneg : 0≤price)
    (hvalue : TwoDecimals discountValue) :
    TwoDecimals (applyDiscount price discountType discountValue) ↔
      (discountType=.percent → 100≤discountValue ∨ ∃ n : Int,price*discountValue=n) := by
  cases discountType with
  | fixed =>
    have hdue : TwoDecimals (applyDiscount price .fixed discountValue) :=
      twoDecimals_max (hprice.sub hvalue)
    constructor
    · intro _ h
      cases h
    · exact fun _ => hdue
  | percent =>
    have hdue : applyDiscount price .percent discountValue=
        max (price*(100-discountValue)/100) 0 := rfl
    rw [hdue]
    by_cases hall : 100≤discountValue
    · have hoff : price*(100-discountValue)≤0 :=
        mul_nonpos_of_nonneg_of_nonpos hnonneg (by linarith)
      have hfree : max (price*(100-discountValue)/100) 0=0 := max_eq_right (by linarith)
      rw [hfree]
      exact ⟨fun _ _ => Or.inl hall,fun _ => twoDecimals_zero⟩
    · have hleft : 0≤price*(100-discountValue) := mul_nonneg hnonneg (by linarith)
      have hkeep : max (price*(100-discountValue)/100) 0=price*(100-discountValue)/100 :=
        max_eq_left (by linarith)
      rw [hkeep,percent_twoDecimals_iff hprice]
      constructor
      · exact fun h _ => Or.inr h
      · intro h
        exact (h rfl).resolve_left hall

/-- The amount due can be charged as it is recorded just when price and percentage divide. -/
theorem amountDue_fair_iff {plan : Plan} {promo : Option PromoCode}
    (hprice : TwoDecimals plan.price) (hpromo : ∀ c,promo=some c →
      TwoDecimals c.discountValue ∧ 0≤c.discountValue) :
    TwoDecimals (amountDue plan promo) ∧ 0≤amountDue plan promo ∧
      amountDue plan promo≤plan.price ↔ Divides plan promo := by
  cases promo with
  | none =>
    constructor
    · intro h
      exact ⟨h.2.1,fun c hc => by cases hc⟩
    · intro h
      exact ⟨hprice,h.1,le_rfl⟩
  | some c =>
    obtain ⟨hvalue,hpos⟩ := hpromo c rfl
    have hnonneg : 0≤amountDue plan (some c) := applyDiscount_nonneg _ _ _
    constructor
    · intro h
      have hplan : 0≤plan.price := hnonneg.trans h.2.2
      refine ⟨hplan,fun c' hc' => ?_⟩
      cases hc'
      exact (applyDiscount_fair_iff hprice hplan hvalue).mp h.1
    · intro h
      have hdue := (applyDiscount_fair_iff hprice h.1 hvalue).mpr (h.2 c rfl)
      exact ⟨hdue,hnonneg,applyDiscount_le _ h.1 hpos⟩

/-- Without the provider's orders the computation is the plain one. -/
def Forgets {α β : Type} (f : β → α) (c : Charging β) (m : Req α) : Prop :=
  ∀ s orders,m s=((c (s,orders)).1.map f,(c (s,orders)).2.1)

/-- The frame of what places, beside the orders it finds, only such ones. -/
def ordering (p : PaymentOrder → Prop) : Frame (Session×List PaymentOrder) where
  rel s t := ∀ order∈t.2,order∈s.2 ∨ p order
  refl _ _ h := Or.inl h
  trans h k order horder := by
    rcases k order horder with hmid|hp
    · exact h order hmid
    · exact Or.inr hp

section

variable {α β γ : Type} {f : β → α}

theorem Forgets.pure {b : β} {a : α} (h : f b=a) : Forgets f (pure b) (pure a) := by
  intro s orders
  rw [← h]
  rfl

theorem Forgets.bind {m : Req γ} {c : γ → Charging β} {k : γ → Req α}
    (h : ∀ a,Forgets f (c a) (k a)) : Forgets f (beside m >>= c) (m >>= k) := by
  intro s orders
  cases hm : m s with
  | mk r t =>
    have hbeside : beside m (s,orders)=(r,(t,orders)) := by
      unfold beside
      rw [hm]
    cases r with
    | error e =>
      rw [Eff.bind_run_error hm,Eff.bind_run_error hbeside]
      rfl
    | ok a =>
      rw [Eff.bind_run_ok hm,Eff.bind_run_ok hbeside]
      exact h a t orders

/-- Placing an order with the mock draws the external id. -/
theorem Forgets.order {order : PaymentOrder} {c : PaymentIntent → Charging β} {k : Int → Req α}
    (h : ∀ i : Int,Forgets f (c ⟨.generated i,
      some ("https://mock-payments.local/pay/",.generated i),.pending⟩) (k i)) :
    Forgets f (mockCreatePayment order >>= c) (nextSerial >>= k) := by
  intro s orders
  exact h s.serial {s with serial := s.serial+1} (orders++[order])

theorem beside_ok {m : Req α} {s t : Session×List PaymentOrder} {a : α}
    (h : beside m s=(.ok a,t)) : m s.1=(.ok a,t.1) := by
  have hresult : (m s.1).1=.ok a := congrArg Prod.fst h
  have hstate : (m s.1).2=t.1 := congrArg (fun x => x.2.1) h
  rw [← hresult,← hstate]

variable {p : PaymentOrder → Prop}

theorem beside_ordering (m : Req α) : Within (ordering p) (beside m) :=
  fun _ _ h => Or.inl h

theorem mockCreatePayment_ordering {order : PaymentOrder} (h : p order) :
    Within (ordering p) (mockCreatePayment order) := by
  intro s o ho
  have hplaced : o∈s.2++[order] := ho
  rcases List.mem_append.mp hplaced with hold|hnew
  · exact Or.inl hold
  · right
    rw [List.mem_singleton.mp hnew]
    exact h

end

section

variable {cfg : Settings} {user : User} {plan : Plan} {promoCode : Option String} {s t : Session}

/-- Paying with the provider in view is paying. -/
theorem chargePayment_forgets : Forgets Prod.fst (chargePayment cfg user plan promoCode)
    (createPayment cfg user plan promoCode) := by
  apply Forgets.bind
  intro promo
  apply Forgets.bind
  intro idempotencyKey
  apply Forgets.bind
  intro subscription
  apply Forgets.order
  intro external
  apply Forgets.bind
  intro id
  apply Forgets.bind
  intro _
  apply Forgets.bind
  intro _
  exact Forgets.pure rfl

theorem beside_orders {m : Req α} {s t : Session×List PaymentOrder} {a : α}
    (h : beside m s=(.ok a,t)) : t.2=s.2 := (congrArg (fun x => x.2.2) h).symm

/-- A payment that goes through has placed one order. -/
theorem chargePayment_one {s t : Session×List PaymentOrder} {r : Payment×Option (String×Secret)}
    (h : chargePayment cfg user plan promoCode s=(.ok r,t)) : ∃ order,t.2=s.2++[order] := by
  obtain ⟨_,u,hu,h⟩ := Eff.bind_ok.mp h
  obtain ⟨_,v,hv,h⟩ := Eff.bind_ok.mp h
  obtain ⟨_,w,hw,h⟩ := Eff.bind_ok.mp h
  obtain ⟨_,x,hx,h⟩ := Eff.bind_ok.mp h
  obtain ⟨_,y,hy,h⟩ := Eff.bind_ok.mp h
  obtain ⟨_,z,hz,h⟩ := Eff.bind_ok.mp h
  obtain ⟨_,e,he,h⟩ := Eff.bind_ok.mp h
  cases h
  have hsame : w.2=s.2 := (beside_orders hw).trans ((beside_orders hv).trans (beside_orders hu))
  have hlater : t.2=x.2 := (beside_orders he).trans ((beside_orders hz).trans (beside_orders hy))
  cases hx
  exact ⟨_,hlater.trans (congrArg (fun os => os++[_]) hsame)⟩

/-- Every order of a payment is for the amount due. -/
theorem chargePayment_ordering (s : Session×List PaymentOrder) :
    WithinAt (ordering fun order => order.amount=amountDue plan (s.1.db.promoNamed promoCode))
      (chargePayment cfg user plan promoCode) s := by
  refine WithinAt.bind (beside_ordering _ s) fun promo t hpromo => ?_
  have hname : promo=s.1.db.promoNamed promoCode := (checkedPromo_ok (beside_ok hpromo)).2
  subst hname
  have hplaced : ∀ order : PaymentOrder,
      order.amount=amountDue plan (s.1.db.promoNamed promoCode) → Within (ordering fun order =>
        order.amount=amountDue plan (s.1.db.promoNamed promoCode)) (mockCreatePayment order) :=
    fun _ h => mockCreatePayment_ordering h
  refine (beside_ordering nextSerial).bind ?_ t
  intro idempotencyKey
  refine (beside_ordering (createPending user plan false)).bind fun subscription => ?_
  refine (hplaced _ rfl).bind fun intent => ?_
  refine (beside_ordering nextSerial).bind fun id => ?_
  exact (beside_ordering _).bind fun _ => (beside_ordering flush).bind fun _ => Within.pure _

/-- An order that a request places is for the amount due for its plan. -/
theorem orders_amount {w : World} {c : Call} {telegramId : Int} {planId : Id}
    (hc : c.request=.billing (.createPayment telegramId planId promoCode))
    (hplan : w.db.plans.get? planId=some plan) {order : PaymentOrder}
    (horder : order∈c.orders cfg w) :
    order.amount=amountDue plan (w.db.promoNamed promoCode) := by
  obtain ⟨env,request⟩ := c
  simp only at hc
  subst hc
  have hplaced : WithinAt (ordering fun order =>
      order.amount=amountDue plan (w.db.promoNamed promoCode))
      (beside (currentUser telegramId) >>= fun user => beside (getPlan planId) >>= fun plan =>
        chargePayment cfg user plan promoCode) (⟨w,env⟩,[]) := by
    refine WithinAt.bind (beside_ordering _ _) fun user u hu => ?_
    obtain ⟨hstay,_,_⟩ := currentUser_ok (beside_ok hu)
    refine WithinAt.bind (beside_ordering _ _) fun found v hv => ?_
    have hgot : getPlan planId u.1=(.ok found,v.1) := beside_ok hv
    obtain ⟨hfound,hsame⟩ := Eff.orRaise_ok.mp hgot
    have hback : v.1=⟨w,env⟩ := by rw [hsame,← hstay]
    have hit : found=plan := by
      rw [← hstay] at hfound
      exact Option.some.inj (hfound.symm.trans hplan)
    have hdue : WithinAt (ordering fun order =>
        order.amount=amountDue found (v.1.db.promoNamed promoCode))
        (chargePayment cfg user found promoCode) v := chargePayment_ordering v
    rw [hback,hit] at hdue
    rw [hit]
    exact hdue
  rcases hplaced order horder with hold|hdue
  · cases hold
  · exact hdue

end

section

variable {cfg : Settings} {w : World} {c : Call} {k : Id}

/-- A payment row keeps its amount. -/
theorem after_amount {p : Payment} (hw : Bookkept cfg w) (hp : w.db.payments.get? k=some p) :
    ((after cfg w c).db.payments.get? k).map Payment.amount=some p.amount := by
  unfold after
  rcases serve_cases cfg c.env c.request w with ⟨a,s,hm,hserve⟩|⟨x,e,s,hm,hserve⟩
  · rw [hserve]
    rcases handle_books (s := ⟨w,c.env⟩) hw.1 hm with
      hk|⟨user,plan,promo,subscription,payment,_,_,_,hsold⟩|
      ⟨external,signature,payment,subscription,plan,_,_,hc⟩
    · obtain ⟨q,hq,hterms,_⟩ := hk.1.payment_of hp
      have hamount : q.terms.amount=p.terms.amount := congrArg Payment.amount hterms
      show (s.db.payments.get? k).map Payment.amount=_
      rw [hq]
      exact congrArg some hamount
    · exact congrArg (Option.map Payment.amount) (hsold.payment_of hw.2.paymentIds hp)
    · show (s.db.payments.get? k).map Payment.amount=_
      rw [hc.payments_eq,Store.get?_modify]
      split_ifs
      · rw [hp]
        rfl
      · rw [hp]
        rfl
  · rw [hserve]
    exact congrArg (Option.map Payment.amount) hp

theorem run_amount {amount : Rat} (cs : List Call) (hw : Bookkept cfg w)
    (h : (w.db.payments.get? k).map Payment.amount=some amount) :
    ((cs.foldl (after cfg) w).db.payments.get? k).map Payment.amount=some amount := by
  induction cs generalizing w with
  | nil => exact h
  | cons c cs ih =>
    obtain ⟨p,hp,hamount⟩ := Option.map_eq_some_iff.mp h
    apply ih (after_bookkept hw)
    rw [after_amount hw hp,hamount]

theorem reachable_bookkept (h : Reachable cfg w) : Bookkept cfg w :=
  ⟨reachable_sound h,reachable_ledger h⟩

/-- What an answered request to pay leaves in its payment row. -/
theorem serve_amount {telegramId : Int} {planId : Id} {promoCode : Option String} {plan : Plan}
    {payment : Payment} {v : World} (hw : Bookkept cfg w)
    (hc : c.request=.billing (.createPayment telegramId planId promoCode))
    (hplan : w.db.plans.get? planId=some plan)
    (hserve : serve cfg c.env c.request w=(.ok (.payment payment),v)) :
    (v.db.payments.get? payment.id).map Payment.amount=
      some (numeric2 (amountDue plan (w.db.promoNamed promoCode))) := by
  rw [hc] at hserve
  obtain ⟨s,os,hm,hv⟩ := transaction_ok hserve
  obtain ⟨user,u,hu,hm⟩ := Eff.bind_ok.mp hm
  obtain ⟨hstay,_,_⟩ := currentUser_ok hu
  subst hstay
  obtain ⟨found,x,hx,hm⟩ := Eff.bind_ok.mp hm
  obtain ⟨hfound,hsame⟩ := Eff.orRaise_ok.mp hx
  rw [hsame] at hm
  have hit : found=plan := Option.some.inj (hfound.symm.trans hplan)
  subst hit
  obtain ⟨paid,y,hy,hm⟩ := Eff.bind_ok.mp hm
  cases hm
  obtain ⟨subscription,_,hsold⟩ := createPayment_ok hy
  have hmade : s.db.payments.get? payment.id=some payment :=
    s.db.payments.get?_of_mem ((hsold.mem_payments hw.2.paymentIds).mpr (Or.inr rfl))
  rw [hv]
  exact (congrArg (Option.map Payment.amount) hmade).trans
    (congrArg some (congrArg Payment.amount hsold.payment_eq))

/-- What is recorded as a payment has been ordered once. -/
theorem serve_orders {telegramId : Int} {planId : Id} {promoCode : Option String}
    {payment : Payment} {v : World}
    (hc : c.request=.billing (.createPayment telegramId planId promoCode))
    (hserve : serve cfg c.env c.request w=(.ok (.payment payment),v)) :
    ∃ order,c.orders cfg w=[order] := by
  obtain ⟨env,request⟩ := c
  simp only at hc
  subst hc
  obtain ⟨s,os,hm,_⟩ := transaction_ok hserve
  obtain ⟨user,u,hu,hm⟩ := Eff.bind_ok.mp hm
  obtain ⟨found,x,hx,hm⟩ := Eff.bind_ok.mp hm
  obtain ⟨paid,y,hy,_⟩ := Eff.bind_ok.mp hm
  have hforgets : Forgets Prod.fst (chargePayment cfg user found promoCode)
      (createPayment cfg user found promoCode) := chargePayment_forgets
  have hpaid := hforgets x []
  rw [hy] at hpaid
  cases hcharge : chargePayment cfg user found promoCode (x,[]) with
  | mk r t =>
    rw [hcharge] at hpaid
    cases r with
    | error e => cases hpaid
    | ok r =>
      obtain ⟨order,horder⟩ := chargePayment_one hcharge
      refine ⟨order,?_⟩
      have huser : beside (currentUser telegramId) (⟨w,env⟩,[])=(.ok user,(u,[])) := by
        unfold beside
        rw [hu]
      have hplan : beside (getPlan planId) (u,[])=(.ok found,(x,[])) := by
        unfold beside
        rw [hx]
      unfold Call.orders
      dsimp only
      rw [Eff.bind_run_ok huser,Eff.bind_run_ok hplan,hcharge]
      exact horder

end

/-- The user is charged what is recorded just when the price is none below zero and a percentage
off comes out in whole hundredths. -/
theorem charged_iff {cfg : Settings} {w : World} (hw : Reachable cfg w) {c : Call}
    {telegramId : Int} {planId : Id} {promoCode : Option String} {plan : Plan}
    (hc : c.request=.billing (.createPayment telegramId planId promoCode))
    (hplan : w.db.plans.get? planId=some plan) (hprice : TwoDecimals plan.price)
    (hpromo : ∀ promo,w.db.promoNamed promoCode=some promo →
      TwoDecimals promo.discountValue ∧ 0≤promo.discountValue)
    {order : PaymentOrder} (horder : order∈c.orders cfg w) :
    ChargedAsRecorded cfg w c plan order ↔ Divides plan (w.db.promoNamed promoCode) := by
  have hamount := orders_amount hc hplan horder
  rw [← amountDue_fair_iff hprice hpromo,← hamount]
  constructor
  · exact fun h => ⟨h.whole,h.nonneg,h.atMost⟩
  · intro h
    refine ⟨h.1,h.2.1,h.2.2,fun payment v hserve cs => ?_⟩
    have hafter : v=after cfg w c := by
      unfold after
      rw [hserve]
    have hbooks : Bookkept cfg v := by
      rw [hafter]
      exact reachable_bookkept (hw.after c)
    apply run_amount cs hbooks
    rw [serve_amount (reachable_bookkept hw) hc hplan hserve,← hamount,numeric2_fixed h.1]

/-- A plan for 299.99, a code for ten per cent off and one for two off. -/
def discounting : List Call := [
  calm 0 (.billing (.authenticateTelegram ⟨77,none,none,none,none⟩)),
  calm 0 (.billing (.createPlan 1 {samplePlan with price := 29999/100})),
  calm 0 (.billing (.addPromoCode "TEN" .percent 10 none none none true)),
  calm 0 (.billing (.addPromoCode "TWO" .fixed 2 none none none true))]

def discounted : World := discounting.foldl (after sampleSettings) .initial

theorem discounted_reachable : Reachable sampleSettings discounted := ⟨discounting,rfl⟩

def oddPlan : Plan := ⟨2,"Month","month",29999/100,"RUB",30,3,none,true⟩

def paying (code : String) : Call := calm 1 (.billing (.createPayment 77 2 (some code)))

theorem charged_two_off :
    ChargedAsRecorded sampleSettings discounted (paying "TWO") oddPlan
      ⟨29799/100,"RUB","Subscription: Month",.generated 6⟩ := by
  have hpromo : discounted.db.promoNamed (some "TWO")=
      some ⟨5,"TWO",.fixed,2,none,0,none,none,true⟩ := by decide +kernel
  have horder : (⟨29799/100,"RUB","Subscription: Month",.generated 6⟩ : PaymentOrder)∈
      (paying "TWO").orders sampleSettings discounted := by decide +kernel
  apply (charged_iff discounted_reachable rfl _ _ _ horder).mpr
  · rw [hpromo]
    refine ⟨by norm_num [oddPlan],fun c hc htype => ?_⟩
    cases hc
    cases htype
  · decide +kernel
  · exact ⟨29999,by norm_num [oddPlan]⟩
  · intro promo h
    rw [hpromo] at h
    cases h
    exact ⟨⟨200,by norm_num⟩,by norm_num⟩

/-- Ten per cent off 299.99 is charged as 269.991, which no row can hold. -/
theorem not_charged_as_recorded : ¬∀ (cfg : Settings) (w : World),Reachable cfg w →
    ∀ (c : Call) (telegramId : Int) (planId : Id) (promoCode : Option String) (plan : Plan),
      c.request=.billing (.createPayment telegramId planId promoCode) →
      w.db.plans.get? planId=some plan → TwoDecimals plan.price →
      (∀ promo,w.db.promoNamed promoCode=some promo →
        TwoDecimals promo.discountValue ∧ 0≤promo.discountValue) →
      ∀ order∈c.orders cfg w,ChargedAsRecorded cfg w c plan order := by
  intro h
  have hpromo : discounted.db.promoNamed (some "TEN")=
      some ⟨4,"TEN",.percent,10,none,0,none,none,true⟩ := by decide +kernel
  have horder : (⟨269991/1000,"RUB","Subscription: Month",.generated 6⟩ : PaymentOrder)∈
      (paying "TEN").orders sampleSettings discounted := by decide +kernel
  have hten : ∀ promo,discounted.db.promoNamed (some "TEN")=some promo →
      TwoDecimals promo.discountValue ∧ 0≤promo.discountValue := by
    intro promo hp
    rw [hpromo] at hp
    cases hp
    exact ⟨⟨1000,by norm_num⟩,by norm_num⟩
  have hplan : discounted.db.plans.get? 2=some oddPlan := by decide +kernel
  obtain ⟨n,hn⟩ := (h sampleSettings discounted discounted_reachable (paying "TEN") 77 2
    (some "TEN") oddPlan rfl hplan ⟨29999,by norm_num [oddPlan]⟩ hten _ horder).whole
  have htenths : (269991 : Rat)=((10*n : Int) : Rat) := by
    push_cast
    have hcents : (269991/1000 : Rat)*100=n := hn
    linarith
  have hwhole : (269991 : Int)=10*n := by exact_mod_cast htenths
  omega

end VpnService.Backend
