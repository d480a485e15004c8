import VpnService.Backend.Webhooks
import VpnService.Backend.Disabling

namespace VpnService.Backend

/-- The payment that the request turns SUCCEEDED. -/
def Request.confirms (cfg : Settings) (db : Database) (now : Time) : Request → Option Payment
  | .billing (.paymentWebhook (some event) signature) =>
    if event.status=.succeeded ∧ verifyHmac (some event) cfg.paymentWebhookSecret signature then
      (db.paymentByExternalId cfg.paymentProvider event.externalPaymentId).filter fun p =>
        !p.status.isTerminal && p.datable db now
    else none
  | _ => none

theorem confirms_webhook (cfg : Settings) (db : Database) (now : Time) (event : WebhookEvent)
    (signature : Option Signature) :
    (Request.billing (.paymentWebhook (some event) signature)).confirms cfg db now=
      if event.status=.succeeded ∧ verifyHmac (some event) cfg.paymentWebhookSecret signature then
        (db.paymentByExternalId cfg.paymentProvider event.externalPaymentId).filter fun p =>
          !p.status.isTerminal && p.datable db now
      else none := rfl

/-- The promo code has a use left, and the user has not used it. -/
def Database.redeemable (db : Database) (promo : PromoCode) (userId : Id) : Bool :=
  (promo.maxUses.all fun m => promo.usedCount< m) && db.redemptionsOf promo.id userId=[]

/-- The request redeems only what is redeemable, and adds no promo code with a negative limit. -/
def Request.redeemsRightly (cfg : Settings) (db : Database) (now : Time) : Request → Bool
  | .billing (.addPromoCode code _ _ maxUses _ _ _) =>
    (db.promoByCode code).isSome || maxUses.all fun m => 0≤ m
  | r => (r.confirms cfg db now).all fun payment =>
    (promoOf db payment).all fun promo => db.redeemable promo payment.userId

/-- No limit of a promo code is exceeded. -/
structure PromosLimited (db : Database) : Prop where
  uses : ∀ promo∈db.promoCodes.rows,∀ m,promo.maxUses=some m → promo.usedCount≤ m
  counted : ∀ promo∈db.promoCodes.rows,promo.usedCount=(db.usesOf promo.id).length
  once : ∀ promoCodeId userId,(db.redemptionsOf promoCodeId userId).length≤1
  lookups : ∀ now user code,
    checkPromo db now user code≠.error (internalError "MultipleResultsFound")

/-- The promo codes and their redemptions. -/
def shelfView (s : Session) : Store PromoCode.id×Store PromoCodeRedemption.id :=
  (s.db.promoCodes,s.db.promoCodeRedemptions)

abbrev shelfFrame : Frame Session := keeping shelfView

section

variable {s t : Session}

theorem shelf_books : Bookkeeping shelfFrame :=
  ⟨fun _ => ⟨rfl,by simp⟩,fun _ _ => ⟨rfl,le_rfl⟩⟩

theorem shelf_of_billing (h : billingFrame.rel s t) : shelfFrame.rel s t := by
  obtain ⟨hview,hs⟩ := h
  simp only [billingView,Database.billing,Prod.mk.injEq] at hview
  obtain ⟨_,_,_,hpromos,hredemptions,_⟩ := hview
  exact ⟨Prod.ext hpromos hredemptions,hs⟩

theorem shelf_of_core (h : coreFrame.rel s t) : shelfFrame.rel s t :=
  shelf_of_billing (billing_of_core h)

theorem alter_shelf {f : Database → Database}
    (h : ∀ s : Session,shelfView {s with db := f s.db}=shelfView s) :
    Within shelfFrame (alter f) := fun s => ⟨h s,le_rfl⟩

theorem shelf_of_audit (h : auditFrame.rel s t) : shelfFrame.rel s t :=
  shelf_of_core (core_of_audit h)

/-- The requests about a promo code and those about a paid payment. -/
def BillingRequest.touchesPromos : BillingRequest → Bool
  | .paymentWebhook .. => true
  | .addPromoCode .. => true
  | _ => false

theorem handleBilling_shelf (cfg : Settings) {r : BillingRequest} (hr : r.touchesPromos=false) :
    Within shelfFrame (handleBilling cfg r) := by
  have hsales : ∀ (f : Store Subscription.id → Store Subscription.id)
      (g : Store Payment.id → Store Payment.id),Within shelfFrame (alter fun db => {db with
        subscriptions := f db.subscriptions
        payments := g db.payments}) := fun _ _ => alter_shelf fun _ => rfl
  have husers : ∀ f : Store User.id → Store User.id,
      Within shelfFrame (alter fun db => {db with users := f db.users}) :=
    fun _ => alter_shelf fun _ => rfl
  have hplans : ∀ f : Store Plan.id → Store Plan.id,
      Within shelfFrame (alter fun db => {db with plans := f db.plans}) :=
    fun _ => alter_shelf fun _ => rfl
  exact handleBilling_within shelf_books hsales shelf_of_audit cfg
    (fun payload _ => getOrCreateFromTelegram_within shelf_books husers payload)
    (fun _ _ _ _ => updateUserStatus_within shelf_of_audit husers _ _ _)
    (fun _ payload _ => createPlan_within shelf_books hplans payload)
    (fun _ _ payload _ => updatePlan_within shelf_books hplans _ payload)
    (fun _ _ he => by subst he; cases hr)
    (fun _ _ _ _ _ _ _ he => by subst he; cases hr)

def Request.touchesPromos : Request → Bool
  | .billing r => r.touchesPromos
  | _ => false

theorem handle_shelf {cfg : Settings} {r : Request} {a : Response} (hs : Sound s.toWorld)
    (hr : r.touchesPromos=false) (hrun : handle cfg r s=(.ok a,t)) :
    shelfView t=shelfView s := by
  have hkeep : Within shelfFrame (handle cfg r) → shelfView t=shelfView s :=
    fun hw => ((hw s).rel_of_run hrun).1
  cases r with
  | billing r => exact hkeep (handleBilling_shelf cfg hr)
  | routing r => exact hkeep ((handleRouting_core _ r).mono shelf_of_core)
  | servers r => exact hkeep ((handleServers_billing r).mono shelf_of_billing)
  | listDevices telegramId =>
    exact hkeep ((currentUser_within telegramId).bind fun _ => getDb_within.bind fun _ =>
      Within.pure _)
  | createDevice telegramId name serverId protocol =>
    rcases handleCreateDevice_run cfg telegramId name serverId protocol s with
      ⟨e,he⟩|⟨user,_,he⟩
    · rw [handle,he] at hrun
      cases hrun
    · rw [handle,he] at hrun
      obtain ⟨result,u,hu,hlast⟩ := Eff.bind_ok.mp hrun
      cases hlast
      have ht := (provision_touching cfg user name serverId protocol
        (hs.covers s.serial)).rel_of_run hu
      have htouched := ht (Scope.of_fits _ s)
      exact (shelf_of_billing ⟨htouched.db.billing,htouched.serial⟩).1
  | device telegramId deviceId r =>
    rcases handleOwned_run cfg telegramId deviceId r s with ⟨e,he⟩|⟨user,device,_,_,_,he⟩
    · rw [handle,he] at hrun
      cases hrun
    · rw [handle,he] at hrun
      have ht := (handleDevice_touching cfg (hs.covers device.id) r).rel_of_run hrun
      have htouched := ht (Scope.of_fits _ s)
      exact (shelf_of_billing ⟨htouched.db.billing,htouched.serial⟩).1
  | fetchSubscription token =>
    have hdeliver : Within shelfFrame (deliver token) :=
      deliver_within (fun _ => getNow_within.bind fun _ => alter_shelf fun _ => rfl) token
    exact hkeep (hdeliver.bind fun _ => Within.pure _)
  | sweep asOf =>
    have hsweep : Within shelfFrame (runOnce asOf) :=
      runOnce_within (fun h => shelf_of_core (core_of_audit h)) (fun _ => alter_shelf fun _ => rfl)
        (disable_within shelf_books (fun _ _ _ => ⟨rfl,le_rfl⟩) (fun _ _ => ⟨rfl,le_rfl⟩)
          fun _ _ => ⟨rfl,le_rfl⟩) asOf
    exact hkeep (hsweep.bind fun _ => Within.pure _)

/-- A lookup fails only on two redemptions of one code by one user. -/
theorem checkPromo_lookup {db : Database} {now : Time} {user : User} {code : String}
    (h : ∀ k,(db.redemptionsOf k user.id).length≤1) :
    checkPromo db now user code≠.error (internalError "MultipleResultsFound") := by
  unfold checkPromo
  cases db.promoByCode code with
  | none =>
    intro he
    cases he
  | some promo =>
    dsimp only
    split_ifs
    any_goals
      intro he
      cases he
    cases hr : db.redemptionsOf promo.id user.id with
    | nil =>
      intro he
      cases he
    | cons r rs =>
      cases rs with
      | nil =>
        intro he
        cases he
      | cons r' rs =>
        have hone := h promo.id
        rw [hr] at hone
        simp at hone

theorem promosLimited_of {db : Database}
    (huses : ∀ promo∈db.promoCodes.rows,∀ m,promo.maxUses=some m → promo.usedCount≤ m)
    (hcounted : ∀ promo∈db.promoCodes.rows,promo.usedCount=(db.usesOf promo.id).length)
    (honce : ∀ k u,(db.redemptionsOf k u).length≤1) : PromosLimited db :=
  ⟨huses,hcounted,honce,fun _ user _ => checkPromo_lookup fun k => honce k user.id⟩

theorem PromosLimited.of_tables {a b : Database} (h : PromosLimited a)
    (hpromos : b.promoCodes=a.promoCodes)
    (hredemptions : b.promoCodeRedemptions=a.promoCodeRedemptions) : PromosLimited b := by
  apply promosLimited_of
  · rw [hpromos]
    exact h.uses
  · unfold Database.usesOf
    rw [hpromos,hredemptions]
    exact h.counted
  · unfold Database.redemptionsOf
    rw [hredemptions]
    exact h.once

theorem PromosLimited.of_shelf (h : PromosLimited s.db) (hview : shelfView t=shelfView s) :
    PromosLimited t.db :=
  h.of_tables (congrArg Prod.fst hview) (congrArg Prod.snd hview)

end

section

variable {db : Database} {id : Id} {now : Time} {payment : Payment} {promo : PromoCode}

theorem redeem_once (hfresh : ∀ r∈db.promoCodeRedemptions.rows,r.id≠id)
    (hp : promoOf db payment=some promo) (k u : Id) :
    ((redeem id now payment db).redemptionsOf k u).length=
      (db.redemptionsOf k u).length+if promo.id=k ∧ payment.userId=u then 1 else 0 := by
  unfold redeem Database.redemptionsOf
  simp only [hp,Store.rows_insert _ (redeemed id now promo payment) hfresh,List.filter_append,
    List.length_append]
  by_cases hk : promo.id=k ∧ payment.userId=u
  · simp [redeemed,hk]
  · simp [redeemed,hk]

/-- A redemption keeps the limits just when the code is redeemable by the user. -/
theorem redeem_limited_iff (h : PromosLimited db)
    (hfresh : ∀ r∈db.promoCodeRedemptions.rows,r.id≠id) :
    PromosLimited (redeem id now payment db) ↔
      (promoOf db payment).all (fun promo => db.redeemable promo payment.userId)=true := by
  cases hp : promoOf db payment with
  | none =>
    have hsame : redeem id now payment db=db := by
      unfold redeem
      rw [hp]
    rw [hsame]
    simp [h]
  | some promo =>
    obtain ⟨k,_,hget⟩ := Option.bind_eq_some_iff.mp hp
    have hmem := Store.mem_of_get? hget
    have hkey : ∀ p : PromoCode,({p with usedCount := p.usedCount+1} : PromoCode).id=p.id :=
      fun _ => rfl
    have hrows : (redeem id now payment db).promoCodes=db.promoCodes.modify promo.id
        (fun p => {p with usedCount := p.usedCount+1}) hkey := by
      unfold redeem
      rw [hp]
    have hcounts : ∀ k u,((redeem id now payment db).redemptionsOf k u).length=
        (db.redemptionsOf k u).length+if promo.id=k ∧ payment.userId=u then 1 else 0 :=
      redeem_once hfresh hp
    simp only [Option.all_some,Database.redeemable,Bool.and_eq_true,decide_eq_true_eq]
    constructor
    · intro hafter
      constructor
      · cases hm : promo.maxUses with
        | none => rfl
        | some m =>
          have hin : ({promo with usedCount := promo.usedCount+1} : PromoCode)∈
              (redeem id now payment db).promoCodes.rows := by
            rw [hrows]
            exact (Store.mem_modify_row hkey hmem).mpr (Or.inl rfl)
          have hle : promo.usedCount+1≤ m := hafter.uses _ hin m hm
          exact decide_eq_true (Int.lt_of_add_one_le hle)
      · have hone := hafter.once promo.id payment.userId
        rw [hcounts,if_pos ⟨rfl,rfl⟩] at hone
        exact List.length_eq_zero_iff.mp (by omega)
    · intro ⟨hroom,hnone⟩
      apply promosLimited_of
      · intro c hc m hm
        rw [hrows] at hc
        rcases (Store.mem_modify_row hkey hmem).mp hc with he|⟨hc,_⟩
        · rw [he] at hm ⊢
          have hm' : promo.maxUses=some m := hm
          rw [hm'] at hroom
          exact Int.add_one_le_of_lt (of_decide_eq_true hroom)
        · exact h.uses c hc m hm
      · exact redeem_uses hfresh h.counted
      · intro k u
        rw [hcounts]
        by_cases hk : promo.id=k ∧ payment.userId=u
        · rw [if_pos hk,← hk.1,← hk.2,hnone]
          exact le_rfl
        · rw [if_neg hk]
          exact h.once k u

end

section

variable {cfg : Settings} {s t : Session}

/-- A confirmed payment keeps the limits just when what it redeems is redeemable. -/
theorem confirmed_limited_iff {external : Secret} {payment : Payment}
    {subscription : Subscription} {plan : Plan} (h : PromosLimited s.db)
    (hl : Ledger cfg s.serial s.db) (hc : Confirmed cfg external s t payment subscription plan) :
    PromosLimited t.db ↔
      (promoOf s.db payment).all (fun promo => s.db.redeemable promo payment.userId)=true := by
  have hsettled : PromosLimited (settle s.now payment subscription plan s.db) :=
    h.of_tables rfl rfl
  have hfresh : ∀ r∈(settle s.now payment subscription plan s.db).promoCodeRedemptions.rows,
      r.id≠s.serial := fun r hr => (hl.redemptionIds r hr).ne
  rw [hc.db]
  exact redeem_limited_iff hsettled hfresh

/-- An answered webhook either confirms a payment or leaves the promo codes alone. -/
theorem handleWebhook_promos {rawBody : RawBody} {signature : Option Signature}
    (hl : Ledger cfg s.serial s.db) (hrun : handleWebhook cfg rawBody signature s=(.ok (),t)) :
    ((Request.billing (.paymentWebhook rawBody signature)).confirms cfg s.db s.now=none ∧
      shelfView t=shelfView s) ∨ ∃ external payment subscription plan,
      (Request.billing (.paymentWebhook rawBody signature)).confirms cfg s.db s.now=some payment ∧
      Confirmed cfg external s t payment subscription plan := by
  obtain ⟨hverify,event,payment,hbody,hfound,hcases⟩ := handleWebhook_ok hrun
  subst hbody
  have hsame : event.status≠.succeeded →
      (Request.billing (.paymentWebhook (some event) signature)).confirms cfg s.db s.now=none := by
    intro hne
    rw [confirms_webhook,if_neg fun h => hne h.1]
  rcases hcases with ⟨hterm,hts⟩|⟨hopen,u,os,hu,htu⟩
  · left
    subst hts
    constructor
    · rw [confirms_webhook]
      split_ifs
      · rw [hfound,Option.filter_some]
        simp [hterm]
      · rfl
    · rfl
  · cases hstatus : event.status with
    | pending =>
      left
      rw [hstatus] at hu
      cases hu
      rw [htu]
      exact ⟨hsame (by rw [hstatus]; decide),rfl⟩
    | failed =>
      left
      rw [hstatus] at hu
      cases hu
      rw [htu]
      exact ⟨hsame (by rw [hstatus]; decide),rfl⟩
    | succeeded =>
      right
      rw [hstatus] at hu
      obtain ⟨subscription,plan,hc⟩ := confirmed_of_run hfound hopen hu htu
      refine ⟨event.externalPaymentId,payment,subscription,plan,?_,hc⟩
      rw [confirms_webhook,if_pos ⟨hstatus,hverify⟩,hfound,Option.filter_some]
      simp [hopen,hc.datable hl]

/-- The row a new promo code gets. -/
def freshPromo (id : Id) (code : String) (discountType : PromoDiscountType) (discountValue : Rat)
    (maxUses : Option Int) (validFrom validUntil : Option Time) (active : Bool) : PromoCode :=
  ⟨id,code,discountType,numeric2 discountValue,maxUses,0,validFrom,validUntil,active⟩

theorem addPromoCode_run (code : String) (discountType : PromoDiscountType) (discountValue : Rat)
    (maxUses : Option Int) (validFrom validUntil : Option Time) (active : Bool)
    (h : s.db.promoByCode code=none) :
    addPromoCode code discountType discountValue maxUses validFrom validUntil active s=
      (.ok (),{s with
        db := {s.db with promoCodes := s.db.promoCodes.insert (freshPromo s.serial code discountType
          discountValue maxUses validFrom validUntil active)}
        serial := s.serial+1}) := by
  unfold addPromoCode
  rw [getDb_bind_run,h]
  rfl

theorem addPromoCode_taken {code : String} {discountType : PromoDiscountType} {discountValue : Rat}
    {maxUses : Option Int} {validFrom validUntil : Option Time} {active : Bool}
    (h : s.db.promoByCode code≠none) :
    addPromoCode code discountType discountValue maxUses validFrom validUntil active s=
      (.error uniqueViolation,s) := by
  obtain ⟨promo,hp⟩ := Option.ne_none_iff_exists'.mp h
  unfold addPromoCode
  rw [getDb_bind_run,hp]
  rfl

/-- A new promo code keeps the limits just when its own is not negative. -/
theorem insert_limited_iff {promo : PromoCode} (h : PromosLimited s.db)
    (hl : Ledger cfg s.serial s.db) (hid : promo.id=s.serial) (hcount : promo.usedCount=0) :
    PromosLimited {s.db with promoCodes := s.db.promoCodes.insert promo} ↔
      promo.maxUses.all (fun m => 0≤ m)=true := by
  have hfresh : ∀ c∈s.db.promoCodes.rows,c.id≠promo.id := by
    intro c hc
    rw [hid]
    exact (hl.promos.2 c hc).2.ne
  have hnone : s.db.usesOf promo.id=[] := by
    unfold Database.usesOf
    rw [List.filter_eq_nil_iff]
    intro r hr he
    obtain ⟨c,hc⟩ := Option.isSome_iff_exists.mp (hl.codes r hr)
    exact hfresh c (Store.mem_of_get? hc) ((Store.key_of_get? hc).trans (of_decide_eq_true he))
  constructor
  · intro hafter
    cases hm : promo.maxUses with
    | none => rfl
    | some m =>
      have hle := hafter.uses promo ((Store.mem_insert hfresh).mpr (Or.inr rfl)) m hm
      rw [hcount] at hle
      exact decide_eq_true hle
  · intro hroom
    apply promosLimited_of
    · intro c hc m hm
      rcases (Store.mem_insert hfresh).mp hc with hc|hc
      · exact h.uses c hc m hm
      · rw [hc] at hm ⊢
        rw [hm] at hroom
        rw [hcount]
        exact of_decide_eq_true hroom
    · intro c hc
      show c.usedCount=(s.db.usesOf c.id).length
      rcases (Store.mem_insert hfresh).mp hc with hc|hc
      · exact h.counted c hc
      · rw [hc,hnone,hcount]
        rfl
    · exact h.once

end

/-- What holds of the books in every reachable state. -/
def Bookkept (cfg : Settings) (w : World) : Prop := Sound w ∧ Ledger cfg w.serial w.db

section

variable {cfg : Settings} {w : World} {c : Call}

theorem after_bookkept (h : Bookkept cfg w) : Bookkept cfg (after cfg w c) :=
  ⟨after_sound h.1,after_ledger h.1 h.2⟩

theorem redeemsRightly_confirms {r : Request} (hr : r.touchesPromos=false) (db : Database)
    (now : Time) : r.redeemsRightly cfg db now=true := by
  have hnone : r.confirms cfg db now=none := by
    unfold Request.confirms
    split
    · cases hr
    · rfl
  unfold Request.redeemsRightly
  split
  · cases hr
  · rw [hnone]
    rfl

/-- A request that redeems rightly keeps the limits. -/
theorem after_limited (hw : Bookkept cfg w) (h : PromosLimited w.db)
    (hgood : c.request.redeemsRightly cfg w.db c.env.now=true) :
    PromosLimited (after cfg w c).db := by
  unfold after
  rcases serve_cases cfg c.env c.request w with ⟨a,s,hm,hserve⟩|⟨x,e,s,_,hserve⟩
  · rw [hserve]
    by_cases hr : c.request.touchesPromos=false
    · have hview := handle_shelf (s := ⟨w,c.env⟩) hw.1 hr hm
      exact PromosLimited.of_shelf (s := ⟨w,c.env⟩) h hview
    · cases hreq : c.request with
      | billing r =>
        rw [hreq] at hm hgood hr
        cases r with
        | paymentWebhook rawBody signature =>
          obtain ⟨_,u,hu,hlast⟩ := Eff.bind_ok.mp hm
          cases hlast
          rcases handleWebhook_promos (s := ⟨w,c.env⟩) hw.2 hu with ⟨_,hview⟩|
            ⟨external,payment,subscription,plan,hconfirms,hc⟩
          · exact PromosLimited.of_shelf (s := ⟨w,c.env⟩) h hview
          · have hredeem : ((Request.billing (.paymentWebhook rawBody signature)).confirms cfg
                w.db c.env.now).all (fun payment => (promoOf w.db payment).all fun promo =>
                w.db.redeemable promo payment.userId)=true := hgood
            have hfound : (Request.billing (.paymentWebhook rawBody signature)).confirms cfg w.db
                c.env.now=some payment := hconfirms
            rw [hfound] at hredeem
            exact (confirmed_limited_iff (s := ⟨w,c.env⟩) h hw.2 hc).mpr hredeem
        | addPromoCode code discountType discountValue maxUses validFrom validUntil active =>
          obtain ⟨_,u,hu,hlast⟩ := Eff.bind_ok.mp hm
          cases hlast
          cases hp : w.db.promoByCode code with
          | none =>
            rw [addPromoCode_run (s := ⟨w,c.env⟩) code discountType discountValue maxUses validFrom
              validUntil active hp] at hu
            cases hu
            have hroom : (w.db.promoByCode code).isSome=true ∨
                maxUses.all (fun m => 0≤ m)=true := by
              rw [← Bool.or_eq_true]
              exact hgood
            rw [hp] at hroom
            exact (insert_limited_iff (s := ⟨w,c.env⟩) h hw.2 rfl rfl).mpr
              (hroom.resolve_left (by simp))
          | some promo =>
            rw [addPromoCode_taken (s := ⟨w,c.env⟩) (by simp [hp])] at hu
            cases hu
        | _ => exact absurd rfl hr
      | _ =>
        rw [hreq] at hr
        exact absurd rfl hr
  · rw [hserve]
    exact h

/-- While every statement is executed, a request that keeps the limits redeems rightly. -/
theorem after_redeems (hw : Bookkept cfg w) (h : PromosLimited w.db) (hcalm : c.env.outcomes=[])
    (hafter : PromosLimited (after cfg w c).db) :
    c.request.redeemsRightly cfg w.db c.env.now=true := by
  by_cases hr : c.request.touchesPromos=false
  · exact redeemsRightly_confirms hr w.db _
  · obtain ⟨env,request⟩ := c
    cases request with
    | billing r =>
      cases r with
      | paymentWebhook rawBody signature =>
        show ((Request.billing (.paymentWebhook rawBody signature)).confirms cfg w.db env.now).all
          _=true
        cases hconfirms : (Request.billing (.paymentWebhook rawBody signature)).confirms cfg w.db
            env.now with
        | none => rfl
        | some payment =>
          cases rawBody with
          | none => cases hconfirms
          | some event =>
            rw [confirms_webhook] at hconfirms
            split_ifs at hconfirms with hcond
            obtain ⟨hfound,hopen⟩ := Option.filter_eq_some_iff.mp hconfirms
            obtain ⟨external,status⟩ := event
            obtain ⟨hstatus,hverify⟩ := hcond
            cases hstatus
            obtain ⟨hmem,_,hext⟩ := paymentByExternalId_mem hfound
            obtain ⟨t,ht,hrun⟩ :=
              handleWebhook_calm (s := ⟨w,env⟩) hw.2 hmem hext (fun _ => (Bool.and_eq_true_iff.mp
                hopen).2) hcalm hverify
            have hhandle : handle cfg (.billing (.paymentWebhook (some ⟨external,.succeeded⟩)
                signature)) ⟨w,env⟩=(.ok .done,t) := Eff.bind_run_ok hrun
            rw [(after_calm (c := ⟨env,_⟩) hhandle ht).1] at hafter
            rcases handleWebhook_promos (s := ⟨w,env⟩) hw.2 hrun with ⟨hnone,_⟩|⟨_,q,_,_,hq,hc⟩
            · rw [confirms_webhook,if_pos ⟨rfl,hverify⟩] at hnone
              rw [hnone] at hconfirms
              cases hconfirms
            · rw [confirms_webhook,if_pos ⟨rfl,hverify⟩] at hq
              rw [hq] at hconfirms
              cases hconfirms
              exact (confirmed_limited_iff (s := ⟨w,env⟩) h hw.2 hc).mp hafter
      | addPromoCode code discountType discountValue maxUses validFrom validUntil active =>
        show ((w.db.promoByCode code).isSome || maxUses.all fun m => 0≤ m)=true
        cases hp : w.db.promoByCode code with
        | some promo => rfl
        | none =>
          have hrun := addPromoCode_run (s := ⟨w,env⟩) code discountType discountValue maxUses
            validFrom validUntil active hp
          have hhandle : handle cfg (.billing (.addPromoCode code discountType discountValue maxUses
              validFrom validUntil active)) ⟨w,env⟩=_ :=
            Eff.bind_run_ok (f := fun _ => (pure .done : Req Response)) hrun
          rw [Eff.pure_run] at hhandle
          rw [(after_calm (c := ⟨env,_⟩) hhandle hcalm).1] at hafter
          exact (insert_limited_iff (s := ⟨w,env⟩) h hw.2 rfl rfl).mp hafter
      | _ => exact absurd rfl hr
    | _ => exact absurd rfl hr

/-- The limits of the promo codes hold throughout a run whose requests redeem rightly, whatever is
answered, and throughout no other run in which all statements are executed. -/
theorem promos_limited_iff (cfg : Settings) (cs : List Call) :
    (Conducted (fun w c => c.request.redeemsRightly cfg w.db c.env.now=true) (after cfg)
        .initial cs →
      Throughout (fun w => PromosLimited w.db) (after cfg) .initial cs) ∧
    ((∀ c∈cs,c.env.outcomes=[]) →
      Throughout (fun w => PromosLimited w.db) (after cfg) .initial cs →
      Conducted (fun w c => c.request.redeemsRightly cfg w.db c.env.now=true) (after cfg)
        .initial cs) := by
  have hbase : Bookkept cfg .initial := ⟨sound_initial,ledger_initial cfg⟩
  have hinit : PromosLimited World.initial.db := by
    apply promosLimited_of
    · exact fun c hc => absurd hc (by simp [World.initial,Database.empty])
    · exact fun c hc => absurd hc (by simp [World.initial,Database.empty])
    · exact fun _ _ => Nat.zero_le 1
  constructor
  · apply throughout_of_conducted (fun w => Bookkept cfg w ∧ PromosLimited w.db)
    · exact fun w hw => hw.2
    · exact fun w c hw hgood => ⟨after_bookkept hw.1,after_limited hw.1 hw.2 hgood⟩
    · exact ⟨hbase,hinit⟩
  · intro hcalm hall
    apply conducted_of_throughout (q := fun c : Call => c.env.outcomes=[])
    · exact fun w c (hw : Bookkept cfg w) hp hafter hc => after_redeems hw hp hc hafter
    · exact fun w c hw => after_bookkept hw
    · exact hbase
    · exact hall
    · exact hcalm

end

/-- A code for one use, which two users take along into their payments before either is paid. -/
def overrun : List Call := [
  calm 0 (.billing (.authenticateTelegram ⟨77,none,none,none,none⟩)),
  calm 0 (.billing (.authenticateTelegram ⟨78,none,none,none,none⟩)),
  calm 0 (.billing (.createPlan 1 samplePlan)),
  calm 0 (.billing (.addPromoCode "ONE" .percent 10 (some 1) none none true)),
  calm 1 (.billing (.createPayment 77 3 (some "ONE"))),
  calm 1 (.billing (.createPayment 78 3 (some "ONE"))),
  calm 2 (delivery 8 .succeeded),
  calm 3 (delivery 12 .succeeded)]

/-- The code is used twice. -/
theorem promos_not_limited : ¬∀ (cfg : Settings) (cs : List Call),(∀ c∈cs,c.env.outcomes=[]) →
    Throughout (fun w => PromosLimited w.db) (after cfg) .initial cs := by
  intro h
  have hcalm : ∀ c∈overrun,c.env.outcomes=[] := by decide
  have hused : ∃ promo∈(overrun.foldl (after sampleSettings) .initial).db.promoCodes.rows,
      promo.maxUses=some 1 ∧ promo.usedCount=2 := by decide +kernel
  obtain ⟨promo,hmem,hmax,htwice⟩ := hused
  have hlimit := (h sampleSettings overrun hcalm).last.uses promo hmem 1 hmax
  rw [htwice] at hlimit
  exact absurd hlimit (by decide)

end VpnService.Backend
