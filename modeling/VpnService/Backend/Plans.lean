import VpnService.Backend.Soundness
import VpnService.Backend.Renewal
import VpnService.Backend.Expiry

namespace VpnService.Backend

/-- What `PlanCreate` asks of the numbers of a plan. -/
def Plan.bounded (p : Plan) : Prop := 0≤p.price ∧ 0<p.durationDays ∧ 0<p.maxDevices

instance (p : Plan) : Decidable p.bounded := inferInstanceAs (Decidable (_ ∧ _))

/-- The numbers a plan update sets are what `PlanCreate` asks of them, as the columns keep them. -/
def PlanUpdate.bounded (payload : PlanUpdate) : Bool :=
  (payload.price.all fun x => 0≤numeric2 x) && (payload.durationDays.all fun n => 0<n) &&
    payload.maxDevices.all fun n => 0<n

/-- The plan update, if it goes through: the plan exists, and its two flushes and the commit are
executed. -/
def Call.updates (db : Database) (c : Call) : Option PlanUpdate := match c.request with
  | .billing (.updatePlan _ planId payload) =>
    if (db.plans.get? planId).isSome ∧ ∀ o∈c.env.outcomes.take 3,o=.answered then some payload
    else none
  | _ => none

/-- When an activation takes over: now, or at the end of an active subscription that runs longer. -/
def Subscription.runsTo (now : Time) (x : Subscription) : Time :=
  if x.status=.active then max now (x.expiresAt.getD now) else now

/-- Activating the subscription on the plan ends it later than now, and later than it ended. -/
def GrantsTime (w : World) (env : Env) (p : Plan) (x : Subscription) : Prop :=
  ∃ t y e,activate x p ⟨w,env⟩=(.ok (),t) ∧ t.db.subscriptions.get? x.id=some y ∧
    y.status=.active ∧ y.expiresAt=some e ∧ env.now<e ∧
    (x.status=.active → ∀ old,x.expiresAt=some old → old<e)

def PlansBounded (w : World) : Prop := ∀ p∈w.db.plans.rows,p.bounded

theorem extensionBase_runsTo (now : Time) (x : Subscription) :
    extensionBase now x=x.runsTo now := by
  unfold extensionBase Subscription.runsTo
  cases hend : x.expiresAt with
  | none =>
    rw [Option.getD_none,max_self,ite_self]
    cases x.status <;> rfl
  | some e =>
    cases x.status with
    | active =>
      rw [if_pos rfl,Option.getD_some]
      show (if e>now then e else now)=max now e
      split_ifs with hlater
      · exact (max_eq_right (le_of_lt hlater)).symm
      · exact (max_eq_left (not_lt.mp hlater)).symm
    | _ => exact (if_neg (by decide)).symm

/-- That is no earlier than now, and than the end of an active subscription. -/
theorem runsTo_ge (now : Time) (x : Subscription) : now≤x.runsTo now ∧
    (x.status=.active → ∀ old,x.expiresAt=some old → old≤x.runsTo now) := by
  unfold Subscription.runsTo
  by_cases hact : x.status=.active
  · rw [if_pos hact]
    refine ⟨le_max_left _ _,fun _ old hold => ?_⟩
    rw [hold,Option.getD_some]
    exact le_max_right _ _
  · rw [if_neg hact]
    exact ⟨le_rfl,fun h => absurd h hact⟩

theorem days_pos {n : Int} (h : 0<n) : 0<days n := by
  unfold days
  show (0 : Int)<n*86400000000
  omega

/-- On a plan with a duration an activation grants time just when the new end is a date. -/
theorem activate_grants_iff {w : World} {env : Env} {p : Plan} {x : Subscription}
    (hx : x∈w.db.subscriptions.rows) (hp : 0<p.durationDays) :
    GrantsTime w env p x ↔ InCalendar (x.runsTo env.now) p.durationDays := by
  rw [← extensionBase_runsTo]
  constructor
  · intro ⟨t,_,_,hrun,_⟩
    exact (activate_iff.mp hrun).1
  · intro hdate
    have hget := w.db.subscriptions.get?_of_mem hx
    obtain ⟨hnow,hold⟩ := runsTo_ge env.now x
    rw [← extensionBase_runsTo] at hnow hold
    have hpos : extensionBase env.now x<extensionBase env.now x+days p.durationDays :=
      lt_add_of_pos_right _ (days_pos hp)
    refine ⟨_,activated env.now p x,_,activate_iff.mpr ⟨hdate,rfl⟩,?_,rfl,rfl,
      hnow.trans_lt hpos,?_⟩
    · show (w.db.subscriptions.modify x.id (activated env.now p)
        (activated_id env.now p)).get? x.id=_
      rw [Store.get?_modify_self,hget]
      rfl
    · exact fun hact old hend => (hold hact old hend).trans_lt hpos

theorem numeric2_nonneg {x : Rat} (h : 0≤x) : 0≤numeric2 x := by
  unfold numeric2
  rw [if_pos h]
  have hfloor : (0 : Int)≤(x*100+1/2).floor := by
    rw [Rat.le_floor_iff]
    positivity
  positivity

theorem updatedPlan_bounded_iff (payload : PlanUpdate) {p : Plan} (hp : p.bounded) :
    (updatedPlan payload p).bounded ↔ payload.bounded=true := by
  obtain ⟨name,price,durationDays,maxDevices,maxSpeedMbps,active⟩ := payload
  obtain ⟨hprice,hdays,hdevices⟩ := hp
  unfold Plan.bounded PlanUpdate.bounded updatedPlan
  cases price <;> cases durationDays <;> cases maxDevices <;>
    simp [hprice,hdays,hdevices,and_assoc]

def plansView (s : Session) : Store Plan.id := s.db.plans

/-- The frame of what keeps the plans bounded. -/
def boundedFrame : Frame Session := Frame.preserving fun s => ∀ p∈s.db.plans.rows,p.bounded

section

variable {cfg : Settings} {s t : Session}

theorem bounded_of_plans (h : t.db.plans=s.db.plans) : boundedFrame.rel s t := by
  intro hs
  rw [h]
  exact hs

theorem bounded_books : Bookkeeping boundedFrame := ⟨fun _ h => h,fun _ _ h => h⟩

theorem bounded_of_billing (h : billingFrame.rel s t) : boundedFrame.rel s t := by
  have hview := h.1
  simp only [billingView,Database.billing,Prod.mk.injEq] at hview
  exact bounded_of_plans hview.2.1

theorem alter_bounded {f : Database → Database}
    (h : ∀ s : Session,plansView {s with db := f s.db}=plansView s) :
    Within boundedFrame (alter f) := fun s => bounded_of_plans (h s)

theorem bounded_of_audit (h : auditFrame.rel s t) : boundedFrame.rel s t :=
  bounded_of_billing (billing_of_core (core_of_audit h))

/-- The schema lets no other plan in. -/
theorem createPlan_bounded (payload : PlanCreate) : Within boundedFrame (createPlan payload) := by
  intro s
  refine WithinAt.bind (Within.require _ _ s) fun _ t ht => ?_
  obtain ⟨hvalid,_⟩ := Eff.require_ok.mp ht
  have hinsert : ∀ p : Plan,p.bounded →
      Within boundedFrame (alter fun db => {db with plans := db.plans.insert p}) := by
    intro p hp u hu q hq
    rcases Store.mem_of_insert hq with hq|hq
    · exact hu q hq
    · rw [hq]
      exact hp
  have hnumbers : 0≤numeric2 payload.price ∧ 0<payload.durationDays ∧ 0<payload.maxDevices := by
    simp only [PlanCreate.valid,decide_eq_true_eq] at hvalid
    exact ⟨numeric2_nonneg hvalid.1,hvalid.2.1,hvalid.2.2⟩
  refine (getDb_within.bind fun _ => (Within.require _ _).bind fun _ =>
    (nextSerial_within bounded_books).bind fun id => Within.bind (hinsert _ ?_) fun _ =>
    (flush_within bounded_books).bind fun _ => Within.pure _ : Within boundedFrame _) t
  exact hnumbers

/-- An update keeps the plans bounded if its own numbers are. -/
theorem updatePlan_bounded {payload : PlanUpdate} (h : payload.bounded=true) (planId : Id) :
    Within boundedFrame (updatePlan planId payload) := by
  have hkey : ∀ p : Plan,(updatedPlan payload p).id=p.id := fun _ => rfl
  have halter : ∀ k,Within boundedFrame (alter fun db => {db with
      plans := db.plans.modify k (updatedPlan payload) hkey}) := by
    intro k u hu p hp
    rcases (Store.mem_modify hkey).mp hp with ⟨q,hq,_,he⟩|⟨hq,_⟩
    · rw [he]
      exact (updatedPlan_bounded_iff payload (hu q hq)).mpr h
    · exact hu p hq
  exact (getPlan_within planId).bind fun plan => (halter plan.id).bind fun _ =>
    flush_within bounded_books

/-- A billing request keeps the plans bounded, unless it is a plan update that does not. -/
theorem handleBilling_bounded (cfg : Settings) {r : BillingRequest}
    (hr : ∀ adminId planId payload,r=.updatePlan adminId planId payload → payload.bounded=true) :
    Within boundedFrame (handleBilling cfg r) := by
  have husers : ∀ f : Store User.id → Store User.id,
      Within boundedFrame (alter fun db => {db with users := f db.users}) :=
    fun _ => alter_bounded fun _ => rfl
  have hsales : ∀ (f : Store Subscription.id → Store Subscription.id)
      (g : Store Payment.id → Store Payment.id),Within boundedFrame (alter fun db => {db with
        subscriptions := f db.subscriptions
        payments := g db.payments}) := fun _ _ => alter_bounded fun _ => rfl
  have hpromos : ∀ (f : Store PromoCode.id → Store PromoCode.id)
      (g : Store PromoCodeRedemption.id → Store PromoCodeRedemption.id),
      Within boundedFrame (alter fun db => {db with
        promoCodes := f db.promoCodes
        promoCodeRedemptions := g db.promoCodeRedemptions}) :=
    fun _ _ => alter_bounded fun _ => rfl
  exact handleBilling_within bounded_books hsales bounded_of_audit cfg
    (fun payload _ => getOrCreateFromTelegram_within bounded_books husers payload)
    (fun _ _ _ _ => updateUserStatus_within bounded_of_audit husers _ _ _)
    (fun _ payload _ => createPlan_bounded payload)
    (fun adminId planId payload hq => updatePlan_bounded (hr adminId planId payload hq) planId)
    (fun rawBody _ _ => handleWebhook_within bounded_books hsales hpromos cfg rawBody _)
    (fun code _ _ _ _ _ _ _ => addPromoCode_within bounded_books hpromos code _ _ _ _ _ _)

/-- A flush that is executed takes one outcome. -/
theorem flush_iff : flush s=(.ok (),t) ↔
    (∀ o∈s.outcomes.take 1,o=.answered) ∧ t={s with outcomes := s.outcomes.tail} := by
  cases hos : s.outcomes with
  | nil =>
    have hcalm := flush_calm hos
    have hsame : s={s with outcomes := []} := by rw [← hos]
    rw [hcalm]
    simp only [List.take_nil,List.tail_nil,List.not_mem_nil,false_imp_iff,implies_true,true_and]
    rw [← hsame]
    constructor
    · exact fun h => (Prod.mk.inj h).2.symm
    · exact fun h => by rw [h]
  | cons o os =>
    have hnext : upcoming s.outcomes=(o,os) := by rw [hos]; rfl
    have hrun : flush s=(if o=.answered then pure () else
        Eff.raise (internalError "DBAPIError") : Req Unit) {s with outcomes := os} := by
      unfold flush
      exact Eff.bind_run_ok (nextOutcome_of hnext)
    rw [hrun]
    by_cases ho : o=.answered
    · rw [if_pos ho]
      simp [ho,eq_comm]
    · rw [if_neg ho]
      simp [ho]

theorem take_succ_answered (os : List Outcome) (n : Nat) :
    (∀ o∈os.take (n+1),o=.answered) ↔
      (∀ o∈os.take 1,o=.answered) ∧ ∀ o∈os.tail.take n,o=.answered := by
  cases os with
  | nil => simp
  | cons o os => simp

theorem updatedPlan_id (payload : PlanUpdate) (p : Plan) : (updatedPlan payload p).id=p.id := rfl

theorem updatePlan_iff (planId : Id) (payload : PlanUpdate) :
    updatePlan planId payload s=(.ok (),t) ↔ (s.db.plans.get? planId).isSome ∧
      (∀ o∈s.outcomes.take 1,o=.answered) ∧ t={s with
        db := {s.db with
          plans := s.db.plans.modify planId (updatedPlan payload) (updatedPlan_id payload)}
        outcomes := s.outcomes.tail} := by
  unfold updatePlan getPlan
  rw [Eff.bind_ok]
  constructor
  · rintro ⟨plan,u,hu,hrun⟩
    obtain ⟨hget,hus⟩ := Eff.orRaise_ok.mp hu
    subst hus
    have hid : plan.id=planId := Store.key_of_get? hget
    subst hid
    obtain ⟨hanswered,ht⟩ := flush_iff.mp hrun
    exact ⟨by rw [hget]; rfl,hanswered,ht⟩
  · intro ⟨hsome,hanswered,ht⟩
    obtain ⟨plan,hget⟩ := Option.isSome_iff_exists.mp hsome
    have hid : plan.id=planId := Store.key_of_get? hget
    subst hid
    exact ⟨plan,s,Eff.orRaise_ok.mpr ⟨hget,rfl⟩,flush_iff.mpr ⟨hanswered,ht⟩⟩

theorem audit_iff {adminId : Option Id} {action targetType : String} {targetId : Option Id}
    {metadata : List (String×String)} :
    recordAudit adminId action targetType targetId metadata s=(.ok (),t) ↔
      (∀ o∈s.outcomes.take 1,o=.answered) ∧ t={s with
        db := {s.db with auditLogs :=
          s.db.auditLogs.insert (auditRow s adminId action targetType targetId metadata)}
        serial := s.serial+1
        outcomes := s.outcomes.tail} := by
  unfold recordAudit
  rw [getNow_bind_run,nextSerial_bind_run,alter_bind_run]
  exact flush_iff

end

section

variable {cfg : Settings} {w : World} {c : Call} {payload : PlanUpdate}

theorem transaction_iff {α : Type} {m : Req α} {env : Env} {a : α} {w' : World} :
    transaction m env w=(.ok a,w') ↔
      ∃ s t,m ⟨w,env⟩=(.ok a,s) ∧ flush s=(.ok (),t) ∧ w'=t.toWorld := by
  constructor
  · intro h
    rcases transaction_cases m env w with ⟨b,s,t,hm,hf,ht⟩|⟨e,s,_,ht⟩
    · rw [h] at ht
      cases ht
      exact ⟨s,t,hm,hf,rfl⟩
    · rw [h] at ht
      cases ht
  · intro ⟨s,t,hm,hf,hw⟩
    unfold transaction
    rw [Eff.bind_run_ok hm,Eff.bind_run_ok hf,hw]
    rfl

variable (cfg) in
/-- A plan update that goes through changes the row of the plan. -/
theorem after_updated (h : c.updates w.db=some payload) : ∃ k,(w.db.plans.get? k).isSome ∧
    (after cfg w c).db.plans=w.db.plans.modify k (updatedPlan payload) (updatedPlan_id payload) := by
  obtain ⟨env,request⟩ := c
  unfold Call.updates at h
  split at h
  · rename_i adminId planId sent hrequest
    dsimp only at hrequest
    subst hrequest
    split_ifs at h with hcond
    cases h
    obtain ⟨hsome,hos⟩ := hcond
    obtain ⟨hfirst,hrest⟩ := (take_succ_answered env.outcomes 2).mp hos
    obtain ⟨hsecond,hlast⟩ := (take_succ_answered env.outcomes.tail 1).mp hrest
    refine ⟨planId,hsome,?_⟩
    have hupdate := (updatePlan_iff (s := ⟨w,env⟩) planId payload).mpr ⟨hsome,hfirst,rfl⟩
    have hhandle : ∃ s,handle cfg (.billing (.updatePlan adminId planId payload)) ⟨w,env⟩=
        (.ok .done,s) ∧ s.outcomes=env.outcomes.tail.tail ∧
        s.db.plans=w.db.plans.modify planId (updatedPlan payload) (updatedPlan_id payload) :=
      ⟨_,Eff.bind_ok.mpr ⟨(),_,hupdate,Eff.bind_ok.mpr ⟨(),_,audit_iff.mpr ⟨hsecond,rfl⟩,rfl⟩⟩,
        rfl,rfl⟩
    obtain ⟨s,hrun,hs,hplans⟩ := hhandle
    have hcommit : flush s=(.ok (),{s with outcomes := s.outcomes.tail}) :=
      flush_iff.mpr ⟨by rw [hs]; exact hlast,rfl⟩
    have hserve := transaction_iff.mpr ⟨s,_,hrun,hcommit,rfl⟩
    unfold after serve
    rw [hserve]
    exact hplans
  · cases h

/-- A plan update that does not go through is rolled back. -/
theorem after_not_updated {env : Env} {adminId planId : Id}
    (h : Call.updates w.db ⟨env,.billing (.updatePlan adminId planId payload)⟩=none) :
    (after cfg w ⟨env,.billing (.updatePlan adminId planId payload)⟩).db=w.db := by
  unfold after serve
  rcases transaction_cases (handle cfg (.billing (.updatePlan adminId planId payload))) env w with
    ⟨a,s,t,hm,hf,ht⟩|⟨e,s,hs,ht⟩
  · exfalso
    obtain ⟨_,u,hu,hm⟩ := Eff.bind_ok.mp hm
    obtain ⟨hsome,hfirst,hu⟩ := (updatePlan_iff planId payload).mp hu
    obtain ⟨_,v,hv,hm⟩ := Eff.bind_ok.mp hm
    obtain ⟨hsecond,hv⟩ := audit_iff.mp hv
    cases hm
    obtain ⟨hlast,_⟩ := flush_iff.mp hf
    subst hu hv
    have hrest := (take_succ_answered env.outcomes.tail 1).mpr ⟨hsecond,hlast⟩
    have hos := (take_succ_answered env.outcomes 2).mpr ⟨hfirst,hrest⟩
    simp only [Call.updates,if_pos (And.intro hsome hos)] at h
    cases h
  · rw [ht]

variable (cfg) in
/-- A request keeps the plans bounded just when it is no plan update out of the bounds that goes
through. -/
theorem after_bounded_iff (hw : Sound w) (h : ∀ p∈w.db.plans.rows,p.bounded) :
    (∀ p∈(after cfg w c).db.plans.rows,p.bounded) ↔
      (c.updates w.db).all PlanUpdate.bounded=true := by
  cases hu : c.updates w.db with
  | some payload =>
    obtain ⟨k,hsome,hplans⟩ := after_updated cfg hu
    obtain ⟨plan,hget⟩ := Option.isSome_iff_exists.mp hsome
    have hmem := Store.mem_of_get? hget
    rw [hplans,Option.all_some]
    constructor
    · intro hall
      apply (updatedPlan_bounded_iff payload (h plan hmem)).mp
      apply hall
      exact (Store.mem_modify (updatedPlan_id payload)).mpr
        (Or.inl ⟨plan,hmem,Store.key_of_get? hget,rfl⟩)
    · intro hpayload p hp
      rcases (Store.mem_modify (updatedPlan_id payload)).mp hp with ⟨q,hq,_,he⟩|⟨hq,_⟩
      · rw [he]
        exact (updatedPlan_bounded_iff payload (h q hq)).mpr hpayload
      · exact h p hq
  | none =>
    refine iff_of_true ?_ rfl
    by_cases hupdate : ∃ adminId planId payload,
        c.request=.billing (.updatePlan adminId planId payload)
    · obtain ⟨env,request⟩ := c
      obtain ⟨adminId,planId,payload,hrequest⟩ := hupdate
      dsimp only at hrequest
      subst hrequest
      rw [after_not_updated hu]
      exact h
    · have hwithin : WithinAt boundedFrame (handle cfg c.request) ⟨w,c.env⟩ := by
        apply handle_withinAt bounded_of_billing cfg (fun _ _ _ => alter_bounded fun _ => rfl) hw
        intro b hb
        apply handleBilling_bounded
        intro adminId planId payload he
        exact absurd ⟨adminId,planId,payload,by rw [hb,he]⟩ hupdate
      unfold after
      rcases serve_cases cfg c.env c.request w with ⟨a,s,hm,hserve⟩|⟨x,e,s,_,hserve⟩
      · rw [hserve]
        exact hwithin.rel_of_run hm h
      · rw [hserve]
        exact h

variable (cfg) in
/-- The plans stay bounded throughout just the runs in which no plan update out of the bounds goes
through. -/
theorem plansBounded_iff (cs : List Call) : Throughout PlansBounded (after cfg) .initial cs ↔
    Conducted (fun w c => (c.updates w.db).all PlanUpdate.bounded=true) (after cfg) .initial cs :=
  throughout_iff_base (fun _ _ hw => after_sound hw) (fun _ _ hw h => after_bounded_iff cfg hw h) _
    cs sound_initial fun _ hp => absurd hp List.not_mem_nil

/-- The plans stay bounded throughout a run and an activation after it grants time just when no
plan update out of the bounds goes through and the new end is a date. -/
theorem plans_grant_iff (cfg : Settings) (cs : List Call) (env : Env) {p : Plan} {x : Subscription}
    (hp : p∈(cs.foldl (after cfg) .initial).db.plans.rows)
    (hx : x∈(cs.foldl (after cfg) .initial).db.subscriptions.rows) :
    (Throughout PlansBounded (after cfg) .initial cs ∧
      GrantsTime (cs.foldl (after cfg) .initial) env p x) ↔
    Conducted (fun w c => (c.updates w.db).all PlanUpdate.bounded=true) (after cfg) .initial cs ∧
      InCalendar (x.runsTo env.now) p.durationDays := by
  rw [← plansBounded_iff]
  refine and_congr_right fun hall => ?_
  have hbounded : PlansBounded (cs.foldl (after cfg) .initial) := hall.last
  exact activate_grants_iff hx (hbounded p hp).2.1

end

/-- The running subscription of the opened shop can be renewed on its plan. -/
theorem plans_grant_iff_opened : ∃ x,
    Throughout PlansBounded (after sampleSettings) .initial opening ∧
    GrantsTime opened (quiet 2) firstPlan x := by
  have hx : ∃ x∈opened.db.subscriptions.rows,InCalendar (x.runsTo 2) 30 := by decide +kernel
  obtain ⟨x,hx,hdate⟩ := hx
  have hgood : Conducted (fun w c => (c.updates w.db).all PlanUpdate.bounded=true)
      (after sampleSettings) .initial opening := by decide +kernel
  exact ⟨x,(plans_grant_iff sampleSettings opening (quiet 2) (by decide +kernel) hx).mpr
    ⟨hgood,hdate⟩⟩

/-- The opened shop's plan is made to last for minus a day. -/
def shortening : List Call :=
  opening++[calm 2 (.billing (.updatePlan 1 2 ⟨none,none,some (-1),none,none,none⟩))]

/-- Activating the running subscription again ends it a day earlier. -/
theorem plans_not_granting : ¬∀ (cfg : Settings) (cs : List Call) (env : Env),
    ∀ p∈(cs.foldl (after cfg) .initial).db.plans.rows,
    ∀ x∈(cs.foldl (after cfg) .initial).db.subscriptions.rows,
      Throughout PlansBounded (after cfg) .initial cs ∧
      GrantsTime (cs.foldl (after cfg) .initial) env p x := by
  intro h
  obtain ⟨p,hp,x,hx,hactive,hends,hsooner⟩ :
      ∃ p∈(shortening.foldl (after sampleSettings) .initial).db.plans.rows,
      ∃ x∈(shortening.foldl (after sampleSettings) .initial).db.subscriptions.rows,
      x.status=.active ∧ x.expiresAt=some (1+days 30) ∧
        (activated 2 p x).expiresAt=some (1+days 29) := by decide +kernel
  obtain ⟨_,t,y,e,hrun,hget,_,he,_,hlater⟩ := h sampleSettings shortening (quiet 2) p hp x hx
  have hold : (1+days 30 : Int)<e := hlater hactive _ hends
  rw [(activate_iff.mp hrun).2] at hget
  have hrow : ((shortening.foldl (after sampleSettings) .initial).db.subscriptions.modify x.id
      (activated 2 p) (activated_id 2 p)).get? x.id=some y := hget
  rw [Store.get?_modify_self,Store.get?_of_mem _ hx] at hrow
  cases hrow
  rw [hsooner] at he
  cases he
  exact absurd hold (by decide)

end VpnService.Backend
