import VpnService.Backend.Renewal
import Mathlib.Data.List.Induction

namespace VpnService.Backend

/-- A signature-verified SUCCEEDED event about an external payment id. -/
def Request.succeeds (cfg : Settings) (external : Secret) : Request → Bool
  | .billing (.paymentWebhook rawBody signature) =>
    rawBody=some ⟨external,.succeeded⟩ && verifyHmac rawBody cfg.paymentWebhookSecret signature
  | _ => false

/-- Such an event is received when its request is answered with success. -/
def receives (cfg : Settings) (external : Secret) (w : World) (c : Call) : Bool :=
  c.request.succeeds cfg external && answered cfg w c

/-- The first receipt of a run, with the state it found. -/
def firstReceipt (cfg : Settings) (external : Secret) : World → List Call → Option (World×Call)
  | _,[] => none
  | w,c::cs =>
    if receives cfg external w c then some (w,c) else firstReceipt cfg external (after cfg w c) cs

/-- At least one call of the run is a receipt. -/
def Delivered (cfg : Settings) (external : Secret) (w : World) (cs : List Call) : Prop :=
  ∃ xs c ys,cs=xs++c::ys ∧ receives cfg external (xs.foldl (after cfg) w) c

/-- The redemptions a payment has made. -/
def Database.redemptionsFor (db : Database) (paymentId : Id) : List PromoCodeRedemption :=
  db.promoCodeRedemptions.rows.filter fun r => r.paymentId=some paymentId

/-- What one receipt makes of the subscription and the promo code of its payment. -/
structure AppliedOnce (db : Database) (p : Payment) (s : Subscription) (w : World) (c : Call) :
    Prop where
  activated : ∃ plan,w.db.plans.get? p.planId=some plan ∧ s.startedAt=some c.env.now ∧
    s.expiresAt=some (c.env.now+days plan.durationDays)
  redeemed : (db.redemptionsFor p.id).map (fun r => (r.promoCodeId,r.userId,r.redeemedAt))=
    p.promoCodeId.toList.map fun k => (k,p.userId,c.env.now)

/-- What the books of a state say about the run that led to it. -/
structure Told (cfg : Settings) (cs : List Call) (db : Database) : Prop where
  known : ∀ external,firstReceipt cfg external .initial cs≠none →
    ∃ p∈db.payments.rows,p.externalPaymentId=some external
  settled : ∀ p∈db.payments.rows,∀ external,p.externalPaymentId=some external →
    p.status.settled=(firstReceipt cfg external .initial cs).isSome
  applied : ∀ p∈db.payments.rows,∀ external,p.externalPaymentId=some external →
    ∀ s,p.subscriptionId=some s.id → db.subscriptions.get? s.id=some s →
    ∀ w c,firstReceipt cfg external .initial cs=some (w,c) → AppliedOnce db p s w c
  refunds : ∀ p∈db.payments.rows,p.status=.refunded → ∃ c∈cs,c.request.refunds p.id

section

variable {cfg : Settings} {external : Secret} {w : World} {c : Call}

theorem firstReceipt_append (v : World) (cs ds : List Call) :
    firstReceipt cfg external v (cs++ds)=(firstReceipt cfg external v cs).or
      (firstReceipt cfg external (cs.foldl (after cfg) v) ds) := by
  induction cs generalizing v with
  | nil => rfl
  | cons c cs ih =>
    simp only [List.cons_append,firstReceipt,List.foldl_cons]
    split_ifs
    · rfl
    · exact ih _

theorem firstReceipt_concat (cs : List Call) (c : Call) :
    firstReceipt cfg external .initial (cs++[c])=(firstReceipt cfg external .initial cs).or
      (if receives cfg external (cs.foldl (after cfg) .initial) c then
        some (cs.foldl (after cfg) .initial,c) else none) :=
  firstReceipt_append _ _ _

theorem firstReceipt_isSome (cs : List Call) (v : World) :
    (firstReceipt cfg external v cs).isSome ↔ Delivered cfg external v cs := by
  unfold Delivered
  induction cs generalizing v with
  | nil => simp [firstReceipt]
  | cons d ds ih =>
    simp only [firstReceipt]
    by_cases hd : receives cfg external v d=true
    · rw [if_pos hd]
      constructor
      · intro _
        exact ⟨[],d,ds,rfl,hd⟩
      · intro _
        rfl
    · rw [if_neg hd,ih]
      constructor
      · rintro ⟨xs,c,ys,he,hc⟩
        exact ⟨d::xs,c,ys,by rw [he]; rfl,hc⟩
      · rintro ⟨xs,c,ys,he,hc⟩
        cases xs with
        | nil =>
          cases he
          exact absurd hc hd
        | cons x xs =>
          cases he
          exact ⟨xs,c,ys,rfl,hc⟩

theorem succeeds_iff {r : Request} : r.succeeds cfg external=true ↔ ∃ signature,
    r=.billing (.paymentWebhook (some ⟨external,.succeeded⟩) signature) ∧
    verifyHmac (some ⟨external,.succeeded⟩) cfg.paymentWebhookSecret signature=true := by
  constructor
  · intro h
    unfold Request.succeeds at h
    split at h
    · rename_i rawBody signature
      simp only [Bool.and_eq_true,decide_eq_true_eq] at h
      obtain ⟨hbody,hverify⟩ := h
      subst hbody
      exact ⟨signature,rfl,hverify⟩
    · cases h
  · rintro ⟨signature,rfl,hverify⟩
    simp [Request.succeeds,hverify]

theorem webhook_cases (cfg : Settings) (w : World) {rawBody : RawBody} {signature : Option Signature}
    (hr : c.request=.billing (.paymentWebhook rawBody signature)) :
    (answered cfg w c=false ∧ (after cfg w c).db=w.db) ∨ ∃ s,answered cfg w c=true ∧
      handleWebhook cfg rawBody signature ⟨w,c.env⟩=(.ok (),s) ∧ after cfg w c=s.toWorld := by
  unfold answered after
  rcases serve_cases cfg c.env c.request w with ⟨a,s,hm,hserve⟩|⟨x,e,s,hm,hserve⟩
  · right
    rw [hr] at hm
    obtain ⟨_,u,hu,h⟩ := Eff.bind_ok.mp hm
    cases h
    rw [hserve]
    exact ⟨s,rfl,hu,rfl⟩
  · left
    rw [hserve]
    exact ⟨rfl,rfl⟩

/-- A received event finds its payment, which it confirms unless that is over. -/
theorem receives_cases (h : receives cfg external w c=true) : ∃ payment,
    w.db.paymentByExternalId cfg.paymentProvider external=some payment ∧
    ((payment.status.isTerminal=true ∧ (after cfg w c).db=w.db) ∨ ∃ subscription plan s,
      Confirmed cfg external ⟨w,c.env⟩ s payment subscription plan ∧ after cfg w c=s.toWorld) := by
  unfold receives at h
  rw [Bool.and_eq_true] at h
  obtain ⟨hsucc,hans⟩ := h
  obtain ⟨signature,hr,_⟩ := succeeds_iff.mp hsucc
  rcases webhook_cases cfg w hr with ⟨hnot,_⟩|⟨s,_,hrun,hafter⟩
  · rw [hans] at hnot
    cases hnot
  · obtain ⟨_,event,payment,hbody,hfound,hcases⟩ := handleWebhook_ok hrun
    cases hbody
    refine ⟨payment,hfound,?_⟩
    rcases hcases with ⟨hterm,hs⟩|⟨hopen,u,os,hu,hs⟩
    · left
      rw [hafter,hs]
      exact ⟨hterm,rfl⟩
    · right
      obtain ⟨subscription,plan,hc⟩ := confirmed_of_run hfound hopen hu hs
      exact ⟨subscription,plan,s,hc,hafter⟩

theorem succeeds_external {r : Request} {other : Secret} (h : r.succeeds cfg external=true)
    (k : r.succeeds cfg other=true) : external=other := by
  obtain ⟨_,hr,_⟩ := succeeds_iff.mp h
  obtain ⟨_,hk,_⟩ := succeeds_iff.mp k
  rw [hr] at hk
  simp only [Request.billing.injEq,BillingRequest.paymentWebhook.injEq,Option.some.injEq,
    WebhookEvent.mk.injEq,and_true] at hk
  exact hk.1

/-- What a request does to the books, and whether it is a receipt. -/
theorem after_books (hw : Sound w) :
    (Kept c.request.refunds w.db (after cfg w c).db ∧ ∀ external,
      receives cfg external w c=true → ∃ payment,
        w.db.paymentByExternalId cfg.paymentProvider external=some payment ∧
        payment.status.isTerminal=true) ∨
    (∃ user plan promo subscription payment s,(∀ external,receives cfg external w c=false) ∧
      Sold cfg ⟨w,c.env⟩ s user plan promo subscription payment ∧ after cfg w c=s.toWorld) ∨
    ∃ external payment subscription plan s,receives cfg external w c=true ∧
      Confirmed cfg external ⟨w,c.env⟩ s payment subscription plan ∧ after cfg w c=s.toWorld := by
  by_cases hrec : ∃ external,receives cfg external w c=true
  · obtain ⟨external,hrec⟩ := hrec
    obtain ⟨payment,hfound,hcases⟩ := receives_cases hrec
    rcases hcases with ⟨hterm,hdb⟩|⟨subscription,plan,s,hc,hs⟩
    · left
      rw [hdb]
      refine ⟨Kept.refl _,fun other hother => ?_⟩
      have hsame : external=other := by
        unfold receives at hrec hother
        rw [Bool.and_eq_true] at hrec hother
        exact succeeds_external hrec.1 hother.1
      exact ⟨payment,hsame ▸ hfound,hterm⟩
    · exact Or.inr (Or.inr ⟨external,payment,subscription,plan,s,hrec,hc,hs⟩)
  · have hnone : ∀ external,receives cfg external w c=false := fun external =>
      Bool.eq_false_iff.mpr fun h => hrec ⟨external,h⟩
    have hvacuous : ∀ external,receives cfg external w c=true → ∃ payment,
        w.db.paymentByExternalId cfg.paymentProvider external=some payment ∧
        payment.status.isTerminal=true := fun external h => absurd ⟨external,h⟩ hrec
    rcases serve_cases cfg c.env c.request w with ⟨a,s,hm,hserve⟩|⟨x,e,s,hm,hserve⟩
    · have hafter : after cfg w c=s.toWorld := by rw [after,hserve]
      rcases handle_books (s := ⟨w,c.env⟩) hw hm with
        hk|⟨user,plan,promo,subscription,payment,_,_,_,hsold⟩|
        ⟨external,signature,payment,subscription,plan,hr,hverify,hc⟩
      · left
        rw [hafter]
        exact ⟨hk.1,hvacuous⟩
      · exact Or.inr (Or.inl ⟨user,plan,promo,subscription,payment,s,hnone,hsold,hafter⟩)
      · exfalso
        apply hrec
        refine ⟨external,?_⟩
        unfold receives answered
        rw [succeeds_iff.mpr ⟨signature,hr,hverify⟩,hserve]
        rfl
    · left
      rw [after,hserve]
      exact ⟨Kept.refl _,hvacuous⟩

/-- Books whose redemptions of a payment and terms of its subscription stay. -/
theorem AppliedOnce.of_same {a b : Database} {p q : Payment} {s t : Subscription}
    (h : AppliedOnce a p s w c) (hr : b.redemptionsFor p.id=a.redemptionsFor p.id)
    (hp : q.terms=p.terms) (hs : t.terms=s.terms) : AppliedOnce b q t w c := by
  obtain ⟨hid,huser,_,hplan,_,_,hpromo⟩ := Payment.fields_of_terms hp
  obtain ⟨_,_,_,hstart,hend⟩ := Subscription.fields_of_terms hs
  constructor
  · rw [hplan,hstart,hend]
    exact h.activated
  · rw [hid,huser,hpromo,hr]
    exact h.redeemed

variable {cs : List Call} {a b : Database}

theorem Told.of_kept (h : Told cfg cs a) (hk : Kept c.request.refunds a b)
    (hsame : ∀ external,firstReceipt cfg external .initial (cs++[c])=
      firstReceipt cfg external .initial cs) : Told cfg (cs++[c]) b where
  known external hne := by
    rw [hsame] at hne
    obtain ⟨p,hp,hext⟩ := h.known external hne
    obtain ⟨q,hq,he,_⟩ := hk.payment_of (a.payments.get?_of_mem hp)
    refine ⟨q,Store.mem_of_get? hq,?_⟩
    rw [(Payment.fields_of_terms he).2.2.2.2.2.1]
    exact hext
  settled q hq external hext := by
    obtain ⟨p,hp,he,hd⟩ := hk.payment_from (b.payments.get?_of_mem hq)
    rw [(Payment.fields_of_terms he).2.2.2.2.2.1] at hext
    rw [hsame,PaymentStatus.settled_of_drifts hd]
    exact h.settled p (Store.mem_of_get? hp) external hext
  applied q hq external hext t hlink ht v d hfirst := by
    rw [hsame] at hfirst
    obtain ⟨p,hp,he,_⟩ := hk.payment_from (b.payments.get?_of_mem hq)
    obtain ⟨s,hs,hes,_⟩ := hk.subscription_from ht
    have hf := Payment.fields_of_terms he
    have hid := (Subscription.fields_of_terms hes).1
    have hold := h.applied p (Store.mem_of_get? hp) external (hf.2.2.2.2.2.1 ▸ hext) s
      (by rw [← hf.2.2.1,hlink,hid]) (by rw [← hid]; exact hs) v d hfirst
    apply hold.of_same _ he hes
    unfold Database.redemptionsFor
    rw [hk.redemptions]
  refunds q hq hrefunded := by
    obtain ⟨p,hp,he,hd⟩ := hk.payment_from (b.payments.get?_of_mem hq)
    rcases hd with hd|⟨_,hd⟩|⟨hr,_,_⟩
    · obtain ⟨d,hd',hr⟩ := h.refunds p (Store.mem_of_get? hp) (hd ▸ hrefunded)
      rw [(Payment.fields_of_terms he).1]
      exact ⟨d,List.mem_append_left _ hd',hr⟩
    · rw [hd] at hrefunded
      cases hrefunded
    · exact ⟨c,by simp,hr⟩

theorem Told.of_sold {s t : Session} {user : User} {plan : Plan} {promo : Option PromoCode}
    {subscription : Subscription} {payment : Payment} (h : Told cfg cs s.db)
    (hl : Ledger cfg s.serial s.db)
    (hsold : Sold cfg s t user plan promo subscription payment)
    (hsame : ∀ external,firstReceipt cfg external .initial (cs++[c])=
      firstReceipt cfg external .initial cs) : Told cfg (cs++[c]) t.db := by
  have hpext : payment.externalPaymentId=some (.generated (s.serial+2)) := by
    rw [hsold.payment_eq]
  have hpstatus : payment.status=.pending := by rw [hsold.payment_eq]
  have hpays := fun p => (hsold.mem_payments hl.paymentIds (p := p)).mp
  -- nobody can have spoken of an id that is yet to be drawn
  have hunheard : firstReceipt cfg (.generated (s.serial+2)) .initial cs=none := by
    by_contra hne
    obtain ⟨p,hp,hext⟩ := h.known _ hne
    obtain ⟨k,hk,hlt⟩ := hl.external p hp
    rw [hk] at hext
    simp only [Option.some.injEq,Secret.generated.injEq] at hext
    omega
  constructor
  · intro external hne
    rw [hsame] at hne
    obtain ⟨p,hp,hext⟩ := h.known external hne
    exact ⟨p,(hsold.mem_payments hl.paymentIds).mpr (Or.inl hp),hext⟩
  · intro p hp external hext
    rw [hsame]
    rcases hpays p hp with hp|hp
    · exact h.settled p hp external hext
    · rw [hp,hpext] at hext
      cases hext
      rw [hp,hpstatus,hunheard]
      rfl
  · intro p hp external hext x hlink hx v d hfirst
    rw [hsame] at hfirst
    rcases hpays p hp with hp|hp
    · obtain ⟨y,hly,hy,_,_⟩ := hl.linked p hp
      have hyx := hsold.subscription_of hl.subscriptionIds hy
      rw [hly] at hlink
      rw [← Option.some.inj hlink,hyx] at hx
      cases hx
      apply (h.applied p hp external hext x hly hy v d hfirst).of_same _ rfl rfl
      rw [hsold.db]
      rfl
    · rw [hp,hpext] at hext
      cases hext
      rw [hunheard] at hfirst
      cases hfirst
  · intro p hp hrefunded
    rcases hpays p hp with hp|hp
    · obtain ⟨d,hd,hr⟩ := h.refunds p hp hrefunded
      exact ⟨d,List.mem_append_left _ hd,hr⟩
    · rw [hp,hpstatus] at hrefunded
      cases hrefunded

/-- The redemptions of a payment after one more is made. -/
theorem redeem_redemptionsFor {id : Id} {now : Time} {payment : Payment} {db : Database}
    (hfresh : ∀ r∈db.promoCodeRedemptions.rows,r.id≠id) (k : Id) :
    (redeem id now payment db).redemptionsFor k=db.redemptionsFor k++
      if payment.id=k then ((promoOf db payment).map fun c => redeemed id now c payment).toList
      else [] := by
  unfold redeem Database.redemptionsFor
  cases promoOf db payment with
  | none => simp
  | some promo =>
    simp only [Store.rows_insert _ (redeemed id now promo payment) hfresh,List.filter_append]
    by_cases hk : payment.id=k
    · simp [redeemed,hk]
    · simp [redeemed,hk]

/-- A confirmed payment redeems its promo code, which is there. -/
theorem promoOf_map {n : Int} (hl : Ledger cfg n a) {payment : Payment}
    (hp : payment∈a.payments.rows) :
    (promoOf a payment).map PromoCode.id=payment.promoCodeId := by
  unfold promoOf
  cases hcode : payment.promoCodeId with
  | none => rfl
  | some k =>
    obtain ⟨hne,hsome⟩ := hl.promoCodes payment hp k hcode
    obtain ⟨promo,hpromo⟩ := Option.isSome_iff_exists.mp hsome
    have hid : promo.id=k := Store.key_of_get? hpromo
    simp [Option.filter,hne,hpromo,hid]

theorem Told.of_confirmed {s t : Session} {external : Secret} {payment : Payment}
    {subscription : Subscription} {plan : Plan} (h : Told cfg cs s.db)
    (hl : Ledger cfg s.serial s.db)
    (hc : Confirmed cfg external s t payment subscription plan)
    (hnow : c.env.now=s.now) (hdb : w.db=s.db)
    (hfirst : firstReceipt cfg external .initial cs=none →
      firstReceipt cfg external .initial (cs++[c])=some (w,c))
    (hsame : ∀ other,other≠external → firstReceipt cfg other .initial (cs++[c])=
      firstReceipt cfg other .initial cs) : Told cfg (cs++[c]) t.db := by
  obtain ⟨hmem,_,hpext⟩ := paymentByExternalId_mem hc.found
  have hunsettled := settled_of_isTerminal hc.unsettled
  -- the event is the first, as the payment is not settled
  have hunheard : firstReceipt cfg external .initial cs=none := by
    have hsettled := h.settled payment hmem external hpext
    rw [hunsettled] at hsettled
    exact Option.isSome_eq_false_iff.mp hsettled.symm |> Option.isNone_iff_eq_none.mp
  have hheard := hfirst hunheard
  have hpay := fun p => (hc.mem_payments (p := p)).mp
  have hother : ∀ p∈s.db.payments.rows,p.id≠payment.id → ∀ e,p.externalPaymentId=some e →
      e≠external := by
    intro p hp hne e he hee
    have hpp : p=payment := hl.externals p hp payment hmem (by rw [he,hee,hpext])
    exact hne (congrArg Payment.id hpp)
  have hredemptions : ∀ k,t.db.redemptionsFor k=s.db.redemptionsFor k++
      if payment.id=k then
        ((promoOf s.db payment).map fun c => redeemed s.serial s.now c payment).toList
      else [] := by
    intro k
    rw [hc.db]
    have hfresh : ∀ r∈(settle s.now payment subscription plan s.db).promoCodeRedemptions.rows,
        r.id≠s.serial := fun r hr => (hl.redemptionIds r hr).ne
    exact redeem_redemptionsFor hfresh k
  constructor
  · intro e hne
    by_cases he : e=external
    · refine ⟨{payment with status := .succeeded},hc.mem_payments.mpr (Or.inl rfl),?_⟩
      rw [he]
      exact hpext
    · rw [hsame e he] at hne
      obtain ⟨p,hp,hext⟩ := h.known e hne
      have hpne : p.id≠payment.id := by
        intro hk
        rw [Store.eq_of_key hp hmem hk,hpext] at hext
        exact he (Option.some.inj hext).symm
      exact ⟨p,hc.mem_payments.mpr (Or.inr ⟨hp,hpne⟩),hext⟩
  · intro p hp e hext
    rcases hpay p hp with hp|⟨hp,hne⟩
    · rw [hp] at hext
      rw [hpext] at hext
      cases hext
      rw [hp,hheard]
      rfl
    · rw [hsame e (hother p hp hne e hext)]
      exact h.settled p hp e hext
  · intro p hp e hext x hlink hx v d hv
    rcases hpay p hp with hp|⟨hp,hne⟩
    · rw [hp] at hext
      rw [hpext] at hext
      cases hext
      rw [hheard] at hv
      cases hv
      have hxid : x.id=subscription.id := by
        rw [hp] at hlink
        rw [hc.link] at hlink
        exact (Option.some.inj hlink).symm
      rw [hc.subscriptions_eq,hxid,Store.get?_modify_self,hc.subscribed,Option.map_some,
        hc.activated_eq hl] at hx
      cases hx
      constructor
      · obtain ⟨y,hly,hy,_,hyp⟩ := hl.linked payment hmem
        rw [hc.link] at hly
        rw [← Option.some.inj hly,hc.subscribed] at hy
        cases hy
        refine ⟨plan,?_,?_,?_⟩
        · rw [hp,hdb,← hc.planned,hyp]
        · rw [hnow]
        · rw [hnow]
      · have hnone : s.db.redemptionsFor payment.id=[] := by
          apply List.filter_eq_nil_iff.mpr
          intro r hr hpaid
          obtain ⟨q,hq,hsettled⟩ := hl.redeemed r hr payment.id (of_decide_eq_true hpaid)
          rw [s.db.payments.get?_of_mem hmem] at hq
          cases hq
          rw [hunsettled] at hsettled
          cases hsettled
        have hcode := promoOf_map hl hmem
        rw [hp]
        show (t.db.redemptionsFor payment.id).map _=payment.promoCodeId.toList.map _
        rw [hredemptions,hnone,if_pos rfl,← hcode,hnow]
        cases promoOf s.db payment with
        | none => rfl
        | some promo => rfl
    · have hxs : s.db.subscriptions.get? x.id=some x := by
        rw [hc.subscriptions_eq] at hx
        rwa [Store.get?_modify_ne] at hx
        intro hxe
        have hpp : p=payment := hl.links p hp payment hmem (by rw [hlink,hxe,hc.link])
        exact hne (congrArg Payment.id hpp)
      rw [hsame e (hother p hp hne e hext)] at hv
      apply (h.applied p hp e hext x hlink hxs v d hv).of_same _ rfl rfl
      rw [hredemptions,if_neg (Ne.symm hne),List.append_nil]
  · intro p hp hrefunded
    rcases hpay p hp with hp|⟨hp,_⟩
    · rw [hp] at hrefunded
      cases hrefunded
    · obtain ⟨d,hd,hr⟩ := h.refunds p hp hrefunded
      exact ⟨d,List.mem_append_left _ hd,hr⟩

theorem after_told (hw : Sound w) (hl : Ledger cfg w.serial w.db)
    (hrun : w=cs.foldl (after cfg) .initial) (h : Told cfg cs w.db) :
    Told cfg (cs++[c]) (after cfg w c).db := by
  have hconcat : ∀ external,firstReceipt cfg external .initial (cs++[c])=
      (firstReceipt cfg external .initial cs).or
        (if receives cfg external w c then some (w,c) else none) := by
    intro external
    rw [firstReceipt_concat,← hrun]
  have hunreceived : ∀ external,receives cfg external w c=false →
      firstReceipt cfg external .initial (cs++[c])=firstReceipt cfg external .initial cs := by
    intro external hnot
    rw [hconcat,hnot]
    exact Option.or_none
  rcases after_books (c := c) hw with
    ⟨hk,hterm⟩|⟨user,plan,promo,subscription,payment,s,hnot,hsold,hs⟩|
    ⟨external,payment,subscription,plan,s,hrec,hc,hs⟩
  · apply h.of_kept hk
    intro external
    by_cases hrec : receives cfg external w c=true
    · -- an event about a payment that is over is not the first
      obtain ⟨payment,hfound,hover⟩ := hterm external hrec
      obtain ⟨hmem,_,hext⟩ := paymentByExternalId_mem hfound
      have hsettled : payment.status.settled=true := by
        have hne := hl.statuses payment hmem
        cases hstatus : payment.status with
        | succeeded => rfl
        | refunded => rfl
        | cancelled => exact absurd hstatus hne
        | pending =>
          rw [hstatus] at hover
          cases hover
        | failed =>
          rw [hstatus] at hover
          cases hover
      rw [h.settled payment hmem external hext] at hsettled
      obtain ⟨r,hr⟩ := Option.isSome_iff_exists.mp hsettled
      rw [hconcat,hr]
      rfl
    · exact hunreceived external (Bool.eq_false_iff.mpr hrec)
  · rw [hs]
    exact Told.of_sold (s := ⟨w,c.env⟩) h hl hsold
      fun external => hunreceived external (hnot external)
  · rw [hs]
    refine Told.of_confirmed (s := ⟨w,c.env⟩) h hl hc rfl rfl (fun hnone => ?_) fun other hne => ?_
    · rw [hconcat,hnone,hrec]
      rfl
    · apply hunreceived
      apply Bool.eq_false_iff.mpr
      intro hother
      unfold receives at hrec hother
      rw [Bool.and_eq_true] at hrec hother
      exact hne (succeeds_external hother.1 hrec.1)

end

/-- The books of every run tell which of its webhooks were the first of their payments. -/
theorem run_told (cfg : Settings) (cs : List Call) :
    Told cfg cs (cs.foldl (after cfg) .initial).db := by
  induction cs using List.reverseRecOn with
  | nil =>
    constructor
    · exact fun _ hne => absurd rfl hne
    all_goals
      intro p hp
      exact absurd hp (by simp [World.initial,Database.empty])
  | append_singleton cs c ih =>
    have hreach : Reachable cfg (cs.foldl (after cfg) .initial) := ⟨cs,rfl⟩
    rw [List.foldl_append]
    exact after_told (reachable_sound hreach) (reachable_ledger hreach) rfl ih

section

variable {cfg : Settings} {w : World} {payment : Payment} {external : Secret}

/-- The payment of an external id is found by it. -/
theorem Ledger.paymentByExternalId {n : Int} {db : Database} (h : Ledger cfg n db)
    (hp : payment∈db.payments.rows) (hext : payment.externalPaymentId=some external) :
    db.paymentByExternalId cfg.paymentProvider external=some payment := by
  cases hfound : db.paymentByExternalId cfg.paymentProvider external with
  | none =>
    have hno := List.find?_eq_none.mp hfound payment hp
    simp [h.provider payment hp,hext] at hno
  | some p =>
    obtain ⟨hmem,_,hpe⟩ := paymentByExternalId_mem hfound
    rw [h.externals p hmem payment hp (by rw [hpe,hext])]

/-- A webhook about a payment whose money has come in changes nothing. -/
theorem settled_webhook (h : Ledger cfg w.serial w.db) (hp : payment∈w.db.payments.rows)
    (hext : payment.externalPaymentId=some external) (hsettled : payment.status.settled=true)
    (env : Env) (status : PaymentIntentStatus) (signature : Option Signature) :
    (after cfg w ⟨env,.billing (.paymentWebhook (some ⟨external,status⟩) signature)⟩).db=w.db := by
  rcases webhook_cases (c := ⟨env,_⟩) cfg w rfl with ⟨_,hdb⟩|⟨s,_,hrun,hs⟩
  · exact hdb
  · obtain ⟨_,event,q,hbody,hfound,hcases⟩ := handleWebhook_ok hrun
    cases hbody
    have hq : w.db.paymentByExternalId cfg.paymentProvider external=some q := hfound
    rw [h.paymentByExternalId hp hext] at hq
    cases hq
    rcases hcases with ⟨_,hsame⟩|⟨hopen,_⟩
    · rw [hs,hsame]
    · rw [settled_of_isTerminal hopen] at hsettled
      cases hsettled

theorem handleWebhook_calm {s : Session} (h : Ledger cfg s.serial s.db)
    (hp : payment∈s.db.payments.rows) (hext : payment.externalPaymentId=some external)
    (hdate : payment.status.isTerminal=false → payment.datable s.db s.now=true)
    (hcalm : s.outcomes=[]) {signature : Option Signature}
    (hverify : verifyHmac (some ⟨external,.succeeded⟩) cfg.paymentWebhookSecret signature=true) :
    ∃ t,t.outcomes=[] ∧
      handleWebhook cfg (some ⟨external,.succeeded⟩) signature s=(.ok (),t) := by
  have hfound := h.paymentByExternalId hp hext
  unfold handleWebhook
  by_cases hover : payment.status.isTerminal=true
  · exact ⟨s,hcalm,by simp [Eff.require,hverify,hfound,hover]⟩
  · obtain ⟨x,hlink,hx,_,_⟩ := h.linked payment hp
    obtain ⟨plan,hplan⟩ := Option.isSome_iff_exists.mp (h.plans x (Store.mem_of_get? hx))
    have hopen := Bool.eq_false_iff.mpr hover
    have hend := (h.datable_iff hp hopen hlink hx hplan s.now).mp (hdate hopen)
    obtain ⟨n,_,_,hconf⟩ := confirmPayment_run hlink hx hplan hend
    have hcalm' : ({s with
      db := redeem s.serial s.now payment (settle s.now payment x plan s.db)
      serial := n} : Session).outcomes=[] := hcalm
    refine ⟨_,hcalm',?_⟩
    simp only [Eff.require,hverify,if_true,Eff.pure_bind_run,Eff.orRaise_some,getDb_bind_run,
      hfound,hover,applyEvent]
    rw [if_neg (by simp),Eff.bind_run_ok hconf]
    exact flush_calm hcalm'

/-- An event whose statements are all executed is received just when its payment is over or the
plan, counted from now, ends on a date. -/
theorem receives_iff (h : Ledger cfg w.serial w.db)
    (hfound : w.db.paymentByExternalId cfg.paymentProvider external=some payment) {c : Call}
    (hcalm : c.env.outcomes=[]) (hsucc : c.request.succeeds cfg external=true) :
    receives cfg external w c=true ↔
      (payment.status.isTerminal=false → payment.datable w.db c.env.now=true) := by
  obtain ⟨hp,_,hext⟩ := paymentByExternalId_mem hfound
  constructor
  · intro hrec hopen
    obtain ⟨q,hq,hcases⟩ := receives_cases hrec
    rw [hfound] at hq
    cases hq
    rcases hcases with ⟨hover,_⟩|⟨subscription,plan,s,hc,_⟩
    · rw [hopen] at hover
      cases hover
    · exact hc.datable (s := ⟨w,c.env⟩) h
  · intro hdate
    obtain ⟨signature,hr,hverify⟩ := succeeds_iff.mp hsucc
    obtain ⟨t,ht,hrun⟩ := handleWebhook_calm (s := ⟨w,c.env⟩) h hp hext hdate hcalm hverify
    have hhandle : handle cfg c.request ⟨w,c.env⟩=(.ok .done,t) := by
      rw [hr]
      exact Eff.bind_run_ok hrun
    unfold receives
    rw [hsucc,(after_calm hhandle ht).2]
    rfl

end

/-- What a run has made of one of its payments, of the subscription it is for and of the promo
code it redeems, told from the first receipt of a SUCCEEDED event about it. -/
structure ExactlyOnce (cfg : Settings) (cs : List Call) (w : World) (p : Payment)
    (external : Secret) (s : Subscription) : Prop where
  settled : p.status.settled=(firstReceipt cfg external .initial cs).isSome
  status : (∀ c∈cs,¬c.request.refunds p.id) →
    (p.status=.succeeded ↔ Delivered cfg external .initial cs)
  unheard : firstReceipt cfg external .initial cs=none →
    s.startedAt=none ∧ s.expiresAt=none ∧ w.db.redemptionsFor p.id=[]
  applied : ∀ v c,firstReceipt cfg external .initial cs=some (v,c) → AppliedOnce w.db p s v c
  later : (firstReceipt cfg external .initial cs).isSome → ∀ env status signature,
    (after cfg w ⟨env,.billing (.paymentWebhook (some ⟨external,status⟩) signature)⟩).db=w.db

/-- A SUCCEEDED event about a payment is received if the database executes every statement. -/
def Prompt (cfg : Settings) (w : World) (c : Call) : Prop :=
  ∀ external p,c.request.succeeds cfg external=true → c.env.outcomes=[] →
    w.db.paymentByExternalId cfg.paymentProvider external=some p →
    receives cfg external w c=true

/-- When it comes, the plan of a payment that is not over, counted from now, ends on a date. -/
def Dated (cfg : Settings) (w : World) (c : Call) : Prop :=
  ∀ external p,c.request.succeeds cfg external=true → c.env.outcomes=[] →
    w.db.paymentByExternalId cfg.paymentProvider external=some p → p.status.isTerminal=false →
    p.datable w.db c.env.now=true

/-- What a run has made of the events about its payments: an activation is due to the one payment
for the subscription, at its first receipt, every redemption counts once, and no event that can be
executed goes unheard. -/
structure WebhooksOnce (cfg : Settings) (cs : List Call) (w : World) : Prop where
  activated : ∀ s∈w.db.subscriptions.rows,s.expiresAt≠none → ∃ p external,
    w.db.payments.rows.filter (fun q => q.subscriptionId=some s.id)=[p] ∧
    p.externalPaymentId=some external ∧ Delivered cfg external .initial cs
  payments : ∀ p∈w.db.payments.rows,∃ external s,p.externalPaymentId=some external ∧
    p.subscriptionId=some s.id ∧ w.db.subscriptions.get? s.id=some s ∧
    ExactlyOnce cfg cs w p external s
  uses : ∀ c∈w.db.promoCodes.rows,c.usedCount=(w.db.usesOf c.id).length
  prompt : Conducted (Prompt cfg) (after cfg) .initial cs

theorem exactlyOnce (cfg : Settings) (cs : List Call) :
    let w := cs.foldl (after cfg) .initial
    (∀ s∈w.db.subscriptions.rows,s.expiresAt≠none → ∃ p external,
      w.db.payments.rows.filter (fun q => q.subscriptionId=some s.id)=[p] ∧
      p.externalPaymentId=some external ∧ Delivered cfg external .initial cs) ∧
    ∀ p∈w.db.payments.rows,∃ external s,p.externalPaymentId=some external ∧
      p.subscriptionId=some s.id ∧ w.db.subscriptions.get? s.id=some s ∧
      ExactlyOnce cfg cs w p external s := by
  intro w
  have hl : Ledger cfg w.serial w.db := reachable_ledger ⟨cs,rfl⟩
  have ht : Told cfg cs w.db := run_told cfg cs
  refine ⟨fun s hs hne => ?_,fun p hp => ?_⟩
  · obtain ⟨p,hp,hlink,hsettled⟩ := hl.paid s hs hne
    obtain ⟨k,hext,_⟩ := hl.external p hp
    refine ⟨p,_,?_,hext,?_⟩
    · apply w.db.payments.filter_eq_singleton hp
      · exact decide_eq_true hlink
      · intro q hq hqlink
        exact hl.links q hq p hp ((of_decide_eq_true hqlink).trans hlink.symm)
    · rw [← firstReceipt_isSome,← ht.settled p hp _ hext]
      exact hsettled
  · obtain ⟨k,hext,_⟩ := hl.external p hp
    obtain ⟨s,hlink,hs,_,_⟩ := hl.linked p hp
    have hsettled := ht.settled p hp _ hext
    refine ⟨_,s,hext,hlink,hs,hsettled,fun hkept => ?_,fun hnone => ?_,
      ht.applied p hp _ hext s hlink hs,fun hsome => ?_⟩
    · rw [← firstReceipt_isSome,← hsettled]
      have hrefund : p.status≠.refunded := fun hr => by
        obtain ⟨c,hc,hk⟩ := ht.refunds p hp hr
        exact hkept c hc hk
      have hcancel := hl.statuses p hp
      cases hstatus : p.status <;> simp_all [PaymentStatus.settled]
    · rw [hnone] at hsettled
      have hend : s.expiresAt=none := by
        by_contra hne
        obtain ⟨q,hq,hqlink,hq'⟩ := hl.paid s (Store.mem_of_get? hs) hne
        rw [hl.links q hq p hp (hqlink.trans hlink.symm),hsettled] at hq'
        cases hq'
      refine ⟨(hl.unpaid s (Store.mem_of_get? hs) hend).1,hend,?_⟩
      apply List.filter_eq_nil_iff.mpr
      intro r hr hpaid
      obtain ⟨q,hq,hq'⟩ := hl.redeemed r hr p.id (of_decide_eq_true hpaid)
      rw [w.db.payments.get?_of_mem hp] at hq
      cases hq
      rw [hsettled] at hq'
      cases hq'
    · exact settled_webhook hl hp hext (hsettled.trans hsome)

theorem prompt_iff {cfg : Settings} {w : World} (h : Ledger cfg w.serial w.db) (c : Call) :
    Prompt cfg w c ↔ Dated cfg w c := by
  constructor
  · intro hprompt external p hsucc hcalm hfound
    exact (receives_iff h hfound hcalm hsucc).mp (hprompt external p hsucc hcalm hfound)
  · intro hdated external p hsucc hcalm hfound
    exact (receives_iff h hfound hcalm hsucc).mpr (hdated external p hsucc hcalm hfound)

/-- A run applies its events exactly once just when every SUCCEEDED event about an open payment
comes while the plan, counted from now, ends on a date. -/
theorem webhooks_exactly_once_iff (cfg : Settings) (cs : List Call) :
    WebhooksOnce cfg cs (cs.foldl (after cfg) .initial) ↔
      Conducted (Dated cfg) (after cfg) .initial cs := by
  have hsame : Conducted (Prompt cfg) (after cfg) .initial cs ↔
      Conducted (Dated cfg) (after cfg) .initial cs := by
    apply conducted_congr (Reachable cfg)
    · exact fun w c hw => prompt_iff (reachable_ledger hw) c
    · exact fun w c hw => hw.after c
    · exact Reachable.initial cfg
  obtain ⟨hactivated,hpayments⟩ := exactlyOnce cfg cs
  rw [← hsame]
  have hl : Ledger cfg _ (cs.foldl (after cfg) .initial).db := reachable_ledger ⟨cs,rfl⟩
  exact ⟨WebhooksOnce.prompt,fun h => ⟨hactivated,hpayments,hl.uses,h⟩⟩

/-- A plan for three million days, and a payment for it that succeeds. -/
def overlong : List Call := [
  calm 0 (.billing (.authenticateTelegram ⟨77,none,none,none,none⟩)),
  calm 0 (.billing (.createPlan 1 {samplePlan with durationDays := 3000000})),
  calm 0 (.billing (.createPayment 77 2 none)),
  calm 1 (delivery 6 .succeeded)]

/-- The event is verified, its payment open, and the answer an error. -/
theorem webhooks_not_exactly_once : ¬∀ (cfg : Settings) (cs : List Call),
    WebhooksOnce cfg cs (cs.foldl (after cfg) .initial) := by
  intro h
  have hprompt := (h sampleSettings overlong).prompt
  obtain ⟨_,hlast,_⟩ := (conducted_append _ (overlong.take 3) [calm 1 (delivery 6 .succeeded)]).mp
    hprompt
  have hfound : (((overlong.take 3).foldl (after sampleSettings) .initial).db.paymentByExternalId
      sampleSettings.paymentProvider (.generated 6)).isSome=true := by decide +kernel
  obtain ⟨p,hp⟩ := Option.isSome_iff_exists.mp hfound
  have hreceived := hlast (.generated 6) p (by decide +kernel) rfl hp
  have hunheard : receives sampleSettings (.generated 6)
      ((overlong.take 3).foldl (after sampleSettings) .initial) (calm 1 (delivery 6 .succeeded))=
        false := by decide +kernel
  rw [hunheard] at hreceived
  cases hreceived

end VpnService.Backend
