import VpnService.Backend.Books

namespace VpnService.Backend

/-- The `expires_at` of the user's active subscriptions. -/
def Database.activeEnds (db : Database) (userId : Id) : List Time :=
  (db.activeSubscriptions userId).filterMap Subscription.expiresAt

/-- The latest of them. -/
def Database.latestEnd (db : Database) (userId : Id) : Option Time := (db.activeEnds userId).max?

/-- How far the user is covered: the latest end, or `now` if none is later. -/
def Database.coveredUntil (db : Database) (userId : Id) (now : Time) : Time :=
  (db.activeEnds userId).foldl max now

theorem Database.mem_activeEnds {db : Database} {userId : Id} {t : Time} :
    t∈db.activeEnds userId ↔ ∃ s∈db.subscriptions.rows,s.userId=userId ∧ s.status=.active ∧
      s.expiresAt=some t := by
  simp only [activeEnds,activeSubscriptions,List.mem_filterMap,List.mem_filter,
    decide_eq_true_eq,and_assoc]

theorem foldl_max_ge (xs : List Int) (n : Int) : n≤xs.foldl max n ∧ ∀ x∈xs,x≤xs.foldl max n := by
  induction xs generalizing n with
  | nil => simp
  | cons x xs ih =>
    obtain ⟨hn,hxs⟩ := ih (max n x)
    simp only [List.foldl_cons,List.mem_cons,forall_eq_or_imp]
    exact ⟨by omega,by omega,hxs⟩

theorem foldl_max_mem (xs : List Int) (n : Int) : xs.foldl max n=n ∨ xs.foldl max n∈xs := by
  induction xs generalizing n with
  | nil => simp
  | cons x xs ih =>
    simp only [List.foldl_cons,List.mem_cons]
    rcases ih (max n x) with h|h
    · rcases le_total n x with hx|hx
      · exact Or.inr (Or.inl (by omega))
      · exact Or.inl (by omega)
    · exact Or.inr (Or.inr h)

/-- A new end at `now+d` is the latest by `d` exactly if `d` is nothing or no other end lies
beyond `now` or the new end. -/
theorem latest_extended_iff {ends ends' : List Int} {now d : Int}
    (h : ∀ t,t∈ends' ↔ t∈ends ∨ t=now+d) :
    ends'.max?=some (ends.foldl max now+d) ↔ d=0 ∨ ∀ t∈ends,t≤now ∧ t≤now+d := by
  obtain ⟨hge,hall⟩ := foldl_max_ge ends now
  have hmem := foldl_max_mem ends now
  generalize ends.foldl max now=latest at hge hall hmem
  rw [List.max?_eq_some_iff]
  constructor
  · rintro ⟨hin,hbound⟩
    have hnew : now+d≤latest+d := hbound _ ((h _).mpr (Or.inr rfl))
    have hends : ∀ t∈ends,t≤latest+d := fun t ht => hbound t ((h t).mpr (Or.inl ht))
    have hnow : latest=now → ∀ t∈ends,t≤now ∧ t≤now+d := by
      intro hl t ht
      have h₁ := hall t ht
      have h₂ := hends t ht
      constructor
      · omega
      · omega
    rcases hmem with hl|hl
    · exact Or.inr (hnow hl)
    · have hle := hends latest hl
      rcases (h _).mp hin with hin|hin
      · have hdown := hall _ hin
        exact Or.inl (by omega)
      · exact Or.inr (hnow (by omega))
  · intro hcase
    have hlatest : d=0 ∨ latest=now := by
      rcases hcase with hd|hends
      · exact Or.inl hd
      · rcases hmem with hl|hl
        · exact Or.inr hl
        · have := (hends latest hl).1
          exact Or.inr (by omega)
    constructor
    · apply (h _).mpr
      rcases hlatest with hd|hl
      · rcases hmem with hm|hm
        · exact Or.inr (by omega)
        · left
          rw [hd,add_zero]
          exact hm
      · exact Or.inr (by omega)
    · intro t ht
      rcases (h t).mp ht with ht|ht
      · have h₁ := hall t ht
        rcases hcase with hd|hends
        · omega
        · have h₂ := (hends t ht).2
          omega
      · omega

section

variable {cfg : Settings} {s t : Session} {external : Secret} {payment : Payment}
  {subscription : Subscription} {plan : Plan}

/-- A payment that is still to be confirmed has a subscription that never ran. -/
theorem Ledger.unstarted {n : Int} {db : Database} (h : Ledger cfg n db)
    (hp : payment∈db.payments.rows) (hopen : payment.status.isTerminal=false)
    (hlink : payment.subscriptionId=some subscription.id)
    (hx : db.subscriptions.get? subscription.id=some subscription) :
    subscription.expiresAt=none ∧ subscription.startedAt=none ∧ subscription.status≠.active := by
  have hsub := Store.mem_of_get? hx
  have hnone : subscription.expiresAt=none := by
    by_contra hne
    obtain ⟨q,hq,hqlink,hsettled⟩ := h.paid subscription hsub hne
    have hqp : q=payment := h.links q hq payment hp (hqlink.trans hlink.symm)
    rw [hqp,settled_of_isTerminal hopen] at hsettled
    cases hsettled
  obtain ⟨hstart,hstatus,_⟩ := h.unpaid subscription hsub hnone
  refine ⟨hnone,hstart,fun hact => ?_⟩
  rcases hstatus with hs|hs
  · rw [hs] at hact
    cases hact
  · rw [hs] at hact
    cases hact

theorem Confirmed.unstarted (h : Ledger cfg s.serial s.db)
    (hc : Confirmed cfg external s t payment subscription plan) : subscription.expiresAt=none ∧
      subscription.startedAt=none ∧ subscription.status≠.active :=
  h.unstarted (paymentByExternalId_mem hc.found).1 hc.unsettled hc.link hc.subscribed

theorem extensionBase_unstarted (now : Time) (h : subscription.expiresAt=none) :
    extensionBase now subscription=now := by
  unfold extensionBase
  rw [h]
  cases subscription.status <;> rfl

/-- The end of such a subscription is a date just when its plan, counted from now, ends on one. -/
theorem Ledger.datable_iff {n : Int} {db : Database} (h : Ledger cfg n db)
    (hp : payment∈db.payments.rows) (hopen : payment.status.isTerminal=false)
    (hlink : payment.subscriptionId=some subscription.id)
    (hx : db.subscriptions.get? subscription.id=some subscription)
    (hplan : db.plans.get? subscription.planId=some plan) (now : Time) :
    payment.datable db now=true ↔
      InCalendar (extensionBase now subscription) plan.durationDays := by
  obtain ⟨y,hylink,hy,_,hyplan⟩ := h.linked payment hp
  rw [hlink] at hylink
  rw [← Option.some.inj hylink,hx] at hy
  cases hy
  rw [extensionBase_unstarted now (h.unstarted hp hopen hlink hx).1]
  unfold Payment.datable
  rw [← hyplan,hplan,Option.all_some,decide_eq_true_iff]

theorem Confirmed.datable (h : Ledger cfg s.serial s.db)
    (hc : Confirmed cfg external s t payment subscription plan) :
    payment.datable s.db s.now=true :=
  (h.datable_iff (paymentByExternalId_mem hc.found).1 hc.unsettled hc.link hc.subscribed hc.planned
    s.now).mpr hc.dated

/-- The subscription it gets: from now on for the days of its plan. -/
theorem Confirmed.activated_eq (h : Ledger cfg s.serial s.db)
    (hc : Confirmed cfg external s t payment subscription plan) :
    activated s.now plan subscription={subscription with
      status := .active
      startedAt := some s.now
      expiresAt := some (s.now+days plan.durationDays)} := by
  obtain ⟨hnone,hstart,_⟩ := hc.unstarted h
  have hbase := extensionBase_unstarted s.now hnone
  unfold activated
  rw [hbase,hstart]
  rfl

/-- A confirmed payment adds one end to those of its user. -/
theorem Confirmed.mem_activeEnds (h : Ledger cfg s.serial s.db)
    (hc : Confirmed cfg external s t payment subscription plan) (x : Time) :
    x∈t.db.activeEnds payment.userId ↔
      x∈s.db.activeEnds payment.userId ∨ x=s.now+days plan.durationDays := by
  have hmem := (paymentByExternalId_mem hc.found).1
  have hsub := Store.mem_of_get? hc.subscribed
  have huser : subscription.userId=payment.userId := by
    obtain ⟨y,hlink,hy,huser,_⟩ := h.linked payment hmem
    rw [hc.link] at hlink
    rw [← Option.some.inj hlink,hc.subscribed] at hy
    cases hy
    exact huser
  have hact := hc.activated_eq h
  have hidle := (hc.unstarted h).2.2
  simp only [Database.mem_activeEnds,hc.mem_subscriptions]
  constructor
  · rintro ⟨y,hy,hyu,hya,hye⟩
    rcases hy with he|⟨hy,_⟩
    · rw [he,hact] at hye
      exact Or.inr (Option.some.inj hye).symm
    · exact Or.inl ⟨y,hy,hyu,hya,hye⟩
  · rintro (⟨y,hy,hyu,hya,hye⟩|hx)
    · refine ⟨y,Or.inr ⟨hy,fun he => ?_⟩,hyu,hya,hye⟩
      have hyy : y=subscription := Store.eq_of_key hy hsub he
      exact hidle (hyy ▸ hya)
    · refine ⟨activated s.now plan subscription,Or.inl rfl,?_,?_,?_⟩
      · rw [hact]
        exact huser
      · rw [hact]
      · rw [hact,hx]

end

/-- Only a verified SUCCEEDED event turns a payment SUCCEEDED. -/
theorem confirmed_of_turned {cfg : Settings} {w : World} (hw : Reachable cfg w) {c : Call}
    {k : Id} {p q : Payment} (hp : w.db.payments.get? k=some p) (hbefore : p.status≠.succeeded)
    (hq : (after cfg w c).db.payments.get? k=some q) (hafter : q.status=.succeeded) :
    ∃ external signature subscription plan s,
      c.request=.billing (.paymentWebhook (some ⟨external,.succeeded⟩) signature) ∧
      verifyHmac (some ⟨external,.succeeded⟩) cfg.paymentWebhookSecret signature ∧
      Confirmed cfg external ⟨w,c.env⟩ s p subscription plan ∧ after cfg w c=s.toWorld := by
  unfold after at hq ⊢
  rcases serve_cases cfg c.env c.request w with ⟨a,s,hm,hserve⟩|⟨x,e,s,hm,hserve⟩
  · rw [hserve] at hq ⊢
    have hledger := reachable_ledger hw
    rcases handle_books (s := ⟨w,c.env⟩) (reachable_sound hw) hm with
      hk|⟨user,plan,promo,subscription,payment,_,_,_,hsold⟩|
      ⟨external,signature,payment,subscription,plan,hr,hverify,hc⟩
    · exfalso
      rcases hk.1.statuses k p q hp hq with hd|⟨_,hd⟩|⟨_,hd,_⟩
      · exact hbefore (hd ▸ hafter)
      · rw [hd] at hafter
        cases hafter
      · exact hbefore hd
    · exfalso
      have hq' : s.db.payments.get? k=some p := hsold.payment_of hledger.paymentIds hp
      rw [hq] at hq'
      cases hq'
      exact hbefore hafter
    · have hmem := (paymentByExternalId_mem hc.found).1
      have hq' : s.db.payments.get? k=some q := hq
      have hkp : k=payment.id := by
        by_contra hne
        rw [hc.payments_eq,Store.get?_modify_ne _ _ _ hne,hp] at hq'
        cases hq'
        exact hbefore hafter
      have hpp : p=payment := by
        rw [hkp,w.db.payments.get?_of_mem hmem] at hp
        cases hp
        rfl
      rw [hpp]
      exact ⟨external,signature,subscription,plan,s,hr,hverify,hc,rfl⟩
  · exfalso
    rw [hserve] at hq
    have hq' : w.db.payments.get? k=some q := hq
    rw [hp] at hq'
    cases hq'
    exact hbefore hafter

/-- A payment that turns SUCCEEDED prolongs its user's coverage by the days of the plan exactly if
the plan has no days or no subscription of the user runs beyond now (or, where a plan was given a
negative duration, beyond the new end): a renewal bought early starts at once, on its own row. -/
theorem renewal_iff {cfg : Settings} {w : World} (hw : Reachable cfg w) {c : Call} {k : Id}
    {p q : Payment} (plan : Plan) (hp : w.db.payments.get? k=some p)
    (hplan : w.db.plans.get? p.planId=some plan) (hbefore : p.status≠.succeeded)
    (hq : (after cfg w c).db.payments.get? k=some q) (hafter : q.status=.succeeded) :
    (after cfg w c).db.latestEnd p.userId=
        some (w.db.coveredUntil p.userId c.env.now+days plan.durationDays) ↔
      plan.durationDays=0 ∨ ∀ t∈w.db.activeEnds p.userId,
        t≤c.env.now ∧ t≤c.env.now+days plan.durationDays := by
  obtain ⟨external,_,subscription,plan',s,_,_,hc,hs⟩ :=
    confirmed_of_turned hw hp hbefore hq hafter
  have hledger := reachable_ledger hw
  have hsame : plan'=plan := by
    obtain ⟨y,hlink,hy,_,hyp⟩ := hledger.linked p (Store.mem_of_get? hp)
    have hlink' := hc.link
    rw [hlink] at hlink'
    have hsub : w.db.subscriptions.get? subscription.id=some subscription := hc.subscribed
    rw [← Option.some.inj hlink',hy] at hsub
    have hpl : w.db.plans.get? subscription.planId=some plan' := hc.planned
    rw [← Option.some.inj hsub,hyp,hplan] at hpl
    exact (Option.some.inj hpl).symm
  rw [hsame] at hc
  have hends := hc.mem_activeEnds (s := ⟨w,c.env⟩) hledger
  have hzero : days plan.durationDays=0 ↔ plan.durationDays=0 := by
    show plan.durationDays*86400000000=(0 : Int) ↔ _
    omega
  rw [hs,← hzero]
  exact latest_extended_iff hends

/-- The opening up to its payment, which is still pending. -/
def ordered : World := (opening.take 5).foldl (after sampleSettings) .initial

def firstPlan : Plan := ⟨2,"Month","month",300,"RUB",30,3,none,true⟩

def firstPayment (status : PaymentStatus) : Payment :=
  ⟨10,1,some 8,2,"mock",some (.generated 9),.generated 7,300,"RUB",status,none⟩

theorem renewal_iff_first :
    (after sampleSettings ordered (calm 1 (delivery 9 .succeeded))).db.latestEnd 1=
      some (ordered.db.coveredUntil 1 1+days 30) :=
  (renewal_iff (p := firstPayment .pending) (q := firstPayment .succeeded) (k := 10)
    ⟨opening.take 5,rfl⟩ firstPlan (by decide +kernel) (by decide +kernel) (by decide)
    (by decide +kernel) rfl).mpr (Or.inr (by decide +kernel))

/-- The opened shop after a second purchase, bought on the third microsecond of the first. -/
def reordered : World :=
  [calm 3 (.billing (.createPayment 77 2 none))].foldl (after sampleSettings) opened

def secondPayment (status : PaymentStatus) : Payment :=
  ⟨21,1,some 19,2,"mock",some (.generated 20),.generated 18,300,"RUB",status,none⟩

/-- The second month ends three microseconds after the first. -/
theorem renewal_loses_time : ¬∀ (cfg : Settings) (w : World),Reachable cfg w →
    ∀ (c : Call) (k : Id) (p q : Payment) (plan : Plan),w.db.payments.get? k=some p →
      w.db.plans.get? p.planId=some plan → p.status≠.succeeded →
      (after cfg w c).db.payments.get? k=some q → q.status=.succeeded →
      (after cfg w c).db.latestEnd p.userId=
        some (w.db.coveredUntil p.userId c.env.now+days plan.durationDays) := by
  intro h
  have hextended := h sampleSettings reordered (opened_reachable.run _)
    (calm 4 (delivery 20 .succeeded)) 21 (secondPayment .pending) (secondPayment .succeeded)
    firstPlan (by decide +kernel) (by decide +kernel) (by decide) (by decide +kernel) rfl
  have hlost : (after sampleSettings reordered (calm 4 (delivery 20 .succeeded))).db.latestEnd 1≠
      some (reordered.db.coveredUntil 1 4+days 30) := by decide +kernel
  exact hlost hextended

end VpnService.Backend
