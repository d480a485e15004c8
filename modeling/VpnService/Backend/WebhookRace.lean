import VpnService.Framework.Transactions
import VpnService.Backend.Webhooks
import VpnService.Backend.Renewal

namespace VpnService.Backend

/-- The statements the flush of a webhook sends. -/
inductive BillingStatement
  | setPaymentStatus (k : Id) (status : PaymentStatus)
  | updateSubscription (loaded target : Subscription)
  | setUsedCount (k : Id) (n : Int)
  | insertRedemption (r : PromoCodeRedemption)

/-- An update writes the columns that differ from what was loaded. -/
def Subscription.overwrite (loaded target row : Subscription) : Subscription :=
  {row with
    status := if target.status=loaded.status then row.status else target.status
    startedAt := if target.startedAt=loaded.startedAt then row.startedAt else target.startedAt
    expiresAt := if target.expiresAt=loaded.expiresAt then row.expiresAt else target.expiresAt}

theorem Payment.settled_id (status : PaymentStatus) (p : Payment) :
    Payment.id {p with status := status}=p.id := rfl

theorem Subscription.overwrite_id (loaded target row : Subscription) :
    (loaded.overwrite target row).id=row.id := rfl

namespace BillingStatement

def execute (db : Database) : BillingStatement → Database
  | .setPaymentStatus k status => {db with
    payments := db.payments.modify k (fun p => {p with status := status})
      (Payment.settled_id status)}
  | .updateSubscription loaded target => {db with
    subscriptions := db.subscriptions.modify loaded.id (loaded.overwrite target)
      (loaded.overwrite_id target)}
  | .setUsedCount k n => {db with
    promoCodes := db.promoCodes.modify k (fun c => {c with usedCount := n}) fun _ => rfl}
  | .insertRedemption r => {db with
    promoCodeRedemptions := db.promoCodeRedemptions.insert r}

def redemption : BillingStatement → Option PromoCodeRedemption
  | .insertRedemption r => some r
  | _ => none

end BillingStatement

/-- Where a delivery of the event stands. -/
inductive WebhookPlace
  | start
  | open (p : Payment)                                       -- the payment is not terminal
  | extended (p : Payment) (x : Subscription) (plan : Plan)  -- `activate` has run
  | noted (p : Payment) (x : Subscription) (plan : Plan) (promo : Option PromoCode)
  | flushed (x : Subscription)
  | finished (x : Option Subscription)                       -- `none` if nothing was to be done
  | failed

namespace WebhookPlace

/-- The row the delivery has read of the subscription. -/
def row : WebhookPlace → Option Subscription
  | .extended _ x _ | .noted _ x _ _ | .flushed x => some x
  | .finished x => x
  | .start | .open _ | .failed => none

/-- The row a delivery has extended and committed. -/
def applied : WebhookPlace → Option Subscription
  | .finished x => x
  | _ => none

def ended : WebhookPlace → Bool
  | .finished _ => true
  | _ => false

/-- The delivery has been answered, be it with an error. -/
def answered : WebhookPlace → Bool
  | .finished _ | .failed => true
  | _ => false

/-- Nothing is asked of the row where none has been read. -/
theorem rowless {place : WebhookPlace} (h : place.row=none) {P : Subscription → Prop}
    (y : Subscription) (hy : place.row=some y) : P y := by
  rw [h] at hy
  cases hy

end WebhookPlace

abbrev WebhookRace := Workplace Database BillingStatement Int Bool WebhookPlace

def webhookStatements (serial : Int) (now : Time) (p : Payment) (x : Subscription) (plan : Plan)
    (promo : Option PromoCode) : List BillingStatement :=
  [.setPaymentStatus p.id .succeeded,.updateSubscription x (activated now plan x)]++
    match promo with
    | none => []
    | some c => [.setUsedCount c.id (c.usedCount+1),.insertRedemption (redeemed serial now c p)]

section

variable (cfg : Settings) (external : Secret) (clock : Bool → Time)

/-- The next step of delivery `i` of a SUCCEEDED event; what is outside the database is the
sequence. -/
def webhookNext (i : Bool) (place : WebhookPlace) (db : Database) (serial : Int) :
    Move BillingStatement Int WebhookPlace := match place with
  | .start => match db.paymentByExternalId cfg.paymentProvider external with
    | none => .rollback .failed serial
    | some p => if p.status.isTerminal then .commit (.finished none) else .work (.open p) [] serial
  | .open p => match p.subscriptionId.bind db.subscriptions.get? with
    | none => .rollback .failed serial
    | some x => match db.plans.get? x.planId with
      | none => .rollback .failed serial
      | some plan =>
        if InCalendar (extensionBase (clock i) x) plan.durationDays then
          .work (.extended p x plan) [] serial
        else .rollback .failed serial
  | .extended p x plan => .work (.noted p x plan (promoOf db p)) [] serial
  | .noted p x plan promo =>
    .work (.flushed x) (webhookStatements serial (clock i) p x plan promo)
      (if promo.isSome then serial+1 else serial)
  | .flushed x => .commit (.finished (some x))
  | .finished x => .work (.finished x) [] serial
  | .failed => .work .failed [] serial

def webhookTick (s : WebhookRace) (i : Bool) : WebhookRace :=
  s.tick BillingStatement.execute (webhookNext cfg external clock) i

def webhookRun (w : World) (is : List Bool) : WebhookRace :=
  is.foldl (webhookTick cfg external clock) (Workplace.opening w.db w.serial .start)

/-- A delivery extends the subscription when the other has read it too only if no promo code was
used, and finds it extended only if that makes no difference: because the plan has no duration or
what the other has added is over. -/
def Undisturbed (s : WebhookRace) (i : Bool) : Prop :=
  ∀ p,(s.party i).place=.open p → ∀ x plan,p.subscriptionId=some x.id →
    s.committed.subscriptions.get? x.id=some x → s.committed.plans.get? x.planId=some plan →
    InCalendar (extensionBase (clock i) x) plan.durationDays →
    ((s.party (!i)).place.row.isSome → p.promoCodeId=none) ∧
    ∀ e,x.expiresAt=some e → plan.durationDays=0 ∨ e≤clock i

end

/-- The subscription of the payment ends one plan duration after one of two clock readings, its
promo code is used once more at most, and it has made one redemption at most. -/
structure ConfirmedOnce (clock : Bool → Time) (p : Payment) (a b : Database) : Prop where
  ends : ∀ x plan,p.subscriptionId=some x.id → a.subscriptions.get? x.id=some x →
    a.plans.get? x.planId=some plan → ∃ y i,b.subscriptions.get? x.id=some y ∧
      y.expiresAt=some (clock i+days plan.durationDays)
  uses : ∀ k c d,a.promoCodes.get? k=some c → b.promoCodes.get? k=some d →
    d.usedCount≤c.usedCount+1
  redemptions : (b.redemptionsFor p.id).length≤1

/-- What holds of the committed database when `how i` is the row delivery `i` has extended. -/
structure Booked (cfg : Settings) (external : Secret) (clock : Bool → Time) (a : Database)
    (p : Payment) (x : Subscription) (plan : Plan) (how : Bool → Option Subscription)
    (b : Database) : Prop where
  plans : b.plans=a.plans
  payment : b.paymentByExternalId cfg.paymentProvider external=some
    {p with status := if (how false).isSome || (how true).isSome then .succeeded else p.status}
  before : (∀ i,how i=none) → b.subscriptions.get? x.id=some x ∧ b.promoCodes=a.promoCodes
  once : ∀ i,how i≠none → how (!i)=none → how i=some x ∧
    b.subscriptions.get? x.id=some (activated (clock i) plan x) ∧
    ∀ k c d,a.promoCodes.get? k=some c → b.promoCodes.get? k=some d → d.usedCount≤c.usedCount+1
  twice : (∀ i,how i≠none) → ∃ i y,how i=some y ∧ how (!i)=some x ∧
    (y=x ∨ y=activated (clock (!i)) plan x) ∧ ∃ z,b.subscriptions.get? x.id=some z ∧
      z.expiresAt=(activated (clock i) plan y).expiresAt
  promos : ∀ k,(b.promoCodes.get? k).isSome=(a.promoCodes.get? k).isSome
  unused : promoOf a p=none → b.promoCodes=a.promoCodes
  redemptions : (b.redemptionsFor p.id).length=if (promoOf a p).isSome
    then (how false).isSome.toNat+(how true).isSome.toNat else 0

/-- What delivery `i` may have read. -/
def Read (clock : Bool → Time) (x : Subscription) (plan : Plan) (how : Bool → Option Subscription)
    (i : Bool) (y : Subscription) : Prop :=
  y=x ∨ (how (!i)≠none ∧ y=activated (clock (!i)) plan x)

def Saw (a : Database) (p : Payment) (how : Bool → Option Subscription) (i : Bool)
    (promo : Option PromoCode) : Prop :=
  promo.isSome=(promoOf a p).isSome ∧ (how (!i)=none → promo=promoOf a p)

/-- What holds of delivery `i` at its place. -/
def Standing (clock : Bool → Time) (a : Database) (p : Payment) (x : Subscription) (plan : Plan)
    (how : Bool → Option Subscription) (i : Bool) (party : Party BillingStatement WebhookPlace) :
    Prop := match party.place with
  | .start => party.writes=[]
  | .open q => party.writes=[] ∧ q=p
  | .extended q y l => party.writes=[] ∧ q=p ∧ l=plan ∧ Read clock x plan how i y
  | .noted q y l promo =>
    party.writes=[] ∧ q=p ∧ l=plan ∧ Read clock x plan how i y ∧ Saw a p how i promo
  | .flushed y => Read clock x plan how i y ∧ ∃ n promo,Saw a p how i promo ∧
    party.writes=webhookStatements n (clock i) p y plan promo
  | .finished none => party.writes=[] ∧ how (!i)≠none
  | .finished (some _) => party.writes=[]
  | .failed => party.writes=[] ∧ (how (!i)=none → ¬InCalendar (clock i) plan.durationDays)

/-- The redemptions made, those not committed too. -/
def allRedemptions (s : WebhookRace) : List PromoCodeRedemption :=
  s.committed.promoCodeRedemptions.rows++
    both fun i => (s.party i).writes.filterMap BillingStatement.redemption

def extendedBy (s : WebhookRace) (i : Bool) : Option Subscription := (s.party i).place.applied

structure Confirming (cfg : Settings) (external : Secret) (clock : Bool → Time) (a : Database)
    (p : Payment) (x : Subscription) (plan : Plan) (s : WebhookRace) : Prop where
  booked : Booked cfg external clock a p x plan (extendedBy s) s.committed
  standing : ∀ i,Standing clock a p x plan (extendedBy s) i (s.party i)
  dated : ∀ i y,(s.party i).place.row=some y →
    InCalendar (extensionBase (clock i) y) plan.durationDays
  numbered : ∀ r∈allRedemptions s,r.id<s.rest
  distinct : ((allRedemptions s).map PromoCodeRedemption.id).Nodup

/-- A payment that waits for its event, and the subscription and the plan it is for. -/
structure OpenPayment (cfg : Settings) (external : Secret) (a : Database) (p : Payment)
    (x : Subscription) (plan : Plan) : Prop where
  found : a.paymentByExternalId cfg.paymentProvider external=some p
  unsettled : p.status.isTerminal=false
  linked : p.subscriptionId=some x.id
  row : a.subscriptions.get? x.id=some x
  plan : a.plans.get? x.planId=some plan
  notStarted : x.expiresAt=none ∧ x.startedAt=none ∧ x.status≠.active
  promo : (promoOf a p).isSome=p.promoCodeId.isSome
  unredeemed : a.redemptionsFor p.id=[]

theorem Ledger.openPayment {cfg : Settings} {n : Int} {a : Database} (h : Ledger cfg n a)
    {external : Secret} {p : Payment}
    (hfound : a.paymentByExternalId cfg.paymentProvider external=some p)
    (hopen : p.status.isTerminal=false) :
    ∃ x plan,OpenPayment cfg external a p x plan := by
  obtain ⟨hmem,_,_⟩ := paymentByExternalId_mem hfound
  obtain ⟨x,hlink,hx,_,_⟩ := h.linked p hmem
  have hrow := Store.mem_of_get? hx
  obtain ⟨plan,hplan⟩ := Option.isSome_iff_exists.mp (h.plans x hrow)
  have hsettled := settled_of_isTerminal hopen
  refine ⟨x,plan,hfound,hopen,hlink,hx,hplan,h.unstarted hmem hopen hlink hx,?_,?_⟩
  · unfold promoOf
    cases hcode : p.promoCodeId with
    | none => rfl
    | some k =>
      obtain ⟨hne,hsome⟩ := h.promoCodes p hmem k hcode
      have hfilter : (some k).filter (fun k => k≠0)=some k :=
        Option.filter_eq_some_iff.mpr ⟨rfl,decide_eq_true hne⟩
      rw [hfilter]
      exact hsome
  · unfold Database.redemptionsFor
    rw [List.filter_eq_nil_iff]
    intro r hr hid
    obtain ⟨q,hq,hqs⟩ := h.redeemed r hr p.id (by simpa using hid)
    rw [a.payments.get?_of_mem hmem] at hq
    cases hq
    rw [hsettled] at hqs
    cases hqs

/-- Over the row it was loaded from, an update writes the row as it is to be. -/
theorem Subscription.overwrite_loaded (now : Time) (plan : Plan) (x : Subscription) :
    x.overwrite (activated now plan x) x=activated now plan x := by
  unfold Subscription.overwrite activated
  simp only
  congr 1 <;> split_ifs with h <;> first | exact h.symm | rfl

theorem Subscription.overwrite_expiresAt {x y z : Subscription}
    (h : y.expiresAt≠x.expiresAt ∨ z.expiresAt=x.expiresAt) :
    (x.overwrite y z).expiresAt=y.expiresAt := by
  unfold Subscription.overwrite
  simp only
  split_ifs with he
  · exact (h.resolve_left fun hne => hne he).trans he.symm
  · rfl

section

variable {cfg : Settings} {external : Secret} {clock : Bool → Time} {a : Database} {p : Payment}
  {x : Subscription} {plan : Plan} {s : WebhookRace} {i : Bool}

/-- Delivery `i` moves on and commits nothing. -/
theorem Confirming.move (h : Confirming cfg external clock a p x plan s) {place : WebhookPlace}
    {writes : List BillingStatement} {rest : Int} (new : List PromoCodeRedemption)
    (happlied : place.applied=(s.party i).place.applied)
    (hdated : ∀ y,place.row=some y → InCalendar (extensionBase (clock i) y) plan.durationDays)
    (hstanding : Standing clock a p x plan (extendedBy s) i ⟨place,writes⟩)
    (hwrites : writes.filterMap BillingStatement.redemption=
      (s.party i).writes.filterMap BillingStatement.redemption++new)
    (hnodup : (new.map PromoCodeRedemption.id).Nodup) (hnew : ∀ r∈new,s.rest≤r.id ∧ r.id<rest)
    (hrest : s.rest≤rest) : Confirming cfg external clock a p x plan {s with
      rest := rest
      party := Function.update s.party i ⟨place,writes⟩} := by
  generalize ht : ({s with
    rest := rest
    party := Function.update s.party i ⟨place,writes⟩} : WebhookRace)=t
  have hi : t.party i=⟨place,writes⟩ := by
    rw [← ht]
    exact Function.update_self ..
  have hother : t.party (!i)=s.party (!i) := by
    rw [← ht]
    exact update_not ..
  have hcommitted : t.committed=s.committed := by rw [← ht]
  have hlast : t.rest=rest := by rw [← ht]
  have hcases : ∀ j,j=i ∨ j=!i := by
    intro j
    cases i <;> cases j <;> simp
  have hby : extendedBy t=extendedBy s := by
    funext j
    unfold extendedBy
    rcases hcases j with hj|hj
    · rw [hj,hi]
      exact happlied
    · rw [hj,hother]
  have hall : (allRedemptions t).Perm (allRedemptions s++new) := by
    unfold allRedemptions
    rw [hcommitted,List.append_assoc]
    apply List.Perm.append_left
    apply both_append (i := i)
    · rw [hi]
      exact hwrites
    · rw [hother]
  constructor
  · rw [hby,hcommitted]
    exact h.booked
  · intro j
    rw [hby]
    rcases hcases j with hj|hj
    · rw [hj,hi]
      exact hstanding
    · rw [hj,hother]
      exact h.standing _
  · intro j y hy
    rcases hcases j with hj|hj
    · rw [hj,hi] at hy
      rw [hj]
      exact hdated y hy
    · rw [hj,hother] at hy
      rw [hj]
      exact h.dated _ y hy
  · intro r hr
    rw [hlast]
    rcases List.mem_append.mp (hall.subset hr) with hr|hr
    · exact (h.numbered r hr).trans_le hrest
    · exact (hnew r hr).2
  · rw [(hall.map _).nodup_iff,List.map_append,List.nodup_append]
    refine ⟨h.distinct,hnodup,?_⟩
    rintro k hk l hl rfl
    obtain ⟨r,hr,rfl⟩ := List.mem_map.mp hk
    obtain ⟨q,hq,hqr⟩ := List.mem_map.mp hl
    have hlt := h.numbered r hr
    have hle := (hnew q hq).1
    rw [hqr] at hle
    exact absurd hlt (not_lt.mpr hle)

/-- Delivery `i` has nothing to flush when it moves on, and flushes nothing. -/
theorem Confirming.pass (h : Confirming cfg external clock a p x plan s) {place : WebhookPlace}
    (hwrites : (s.party i).writes=[]) (happlied : place.applied=(s.party i).place.applied)
    (hdated : ∀ y,place.row=some y → InCalendar (extensionBase (clock i) y) plan.durationDays)
    (hstanding : Standing clock a p x plan (extendedBy s) i ⟨place,[]⟩) :
    Confirming cfg external clock a p x plan {s with
      rest := s.rest
      party := Function.update s.party i ⟨place,[]⟩} := by
  refine h.move [] happlied hdated hstanding ?_ List.nodup_nil
    (fun r hr => absurd hr List.not_mem_nil) le_rfl
  rw [hwrites]
  rfl

theorem promoOf_of {promo : PromoCode} (h : promoOf a p=some promo) :
    a.promoCodes.get? promo.id=some promo := by
  obtain ⟨k,_,hk⟩ := Option.bind_eq_some_iff.mp h
  have hid : promo.id=k := Store.key_of_get? hk
  rw [hid]
  exact hk

/-- What the statements of a delivery do to the tables. -/
theorem execute_webhookStatements (n : Int) (now : Time) (p : Payment) (y : Subscription)
    (plan : Plan) (promo : Option PromoCode) (b : Database) :
    let c := (webhookStatements n now p y plan promo).foldl BillingStatement.execute b
    c.plans=b.plans ∧
      c.payments=b.payments.modify p.id (fun p => {p with status := .succeeded}) (fun _ => rfl) ∧
      c.subscriptions=b.subscriptions.modify y.id (y.overwrite (activated now plan y))
        (y.overwrite_id _) ∧
      c.promoCodes=(promo.elim b.promoCodes fun c =>
        b.promoCodes.modify c.id (fun d => {d with usedCount := c.usedCount+1}) fun _ => rfl) ∧
      c.promoCodeRedemptions=promo.elim b.promoCodeRedemptions fun c =>
        b.promoCodeRedemptions.insert (redeemed n now c p) := by
  cases promo <;> exact ⟨rfl,rfl,rfl,rfl,rfl⟩

theorem paymentByExternalId_modify {b c : Database} {provider : String} {k : Id} {q : Payment}
    {status : PaymentStatus} (hc : c.payments=b.payments.modify k (fun p => {p with status := status})
      (fun _ => rfl)) (hq : b.paymentByExternalId provider external=some q) (hk : q.id=k) :
    c.paymentByExternalId provider external=some {q with status := status} := by
  unfold Database.paymentByExternalId at hq ⊢
  rw [hc,Store.rows_modify,List.find?_map]
  have hsame : ((fun p : Payment => decide (p.provider=provider ∧
      p.externalPaymentId=some external)) ∘ fun r => if r.id=k then {r with status := status} else r)=
      fun p => decide (p.provider=provider ∧ p.externalPaymentId=some external) := by
    funext r
    rw [Function.comp_apply]
    split <;> rfl
  rw [hsame,hq,Option.map_some,if_pos hk]

/-- A delivery that commits is the first, or it comes on top of the other. -/
theorem Booked.commit {how : Bool → Option Subscription} {b : Database}
    (ho : OpenPayment cfg external a p x plan) (h : Booked cfg external clock a p x plan how b)
    (hi : how i=none) {y : Subscription} (hread : Read clock x plan how i y)
    {promo : Option PromoCode} (hsaw : Saw a p how i promo) {n : Int}
    (hfresh : promo.isSome → ∀ r∈b.promoCodeRedemptions.rows,r.id≠n) :
    Booked cfg external clock a p x plan (Function.update how i (some y))
      ((webhookStatements n (clock i) p y plan promo).foldl BillingStatement.execute b) := by
  obtain ⟨hplans,hpayments,hsubs,hpromos,hreds⟩ :=
    execute_webhookStatements n (clock i) p y plan promo b
  generalize (webhookStatements n (clock i) p y plan promo).foldl BillingStatement.execute b=c at *
  have hcases : ∀ j,j=i ∨ j=!i := by
    intro j
    cases i <;> cases j <;> simp
  have hown : Function.update how i (some y) i=some y := Function.update_self ..
  have hother : Function.update how i (some y) (!i)=how (!i) := update_not ..
  have hid : y.id=x.id := by
    rcases hread with hy|⟨_,hy⟩ <;> rw [hy]
    rfl
  constructor
  · rw [hplans]
    exact h.plans
  · have hsome : ((Function.update how i (some y) false).isSome ||
        (Function.update how i (some y) true).isSome)=true := by
      cases i
      · rw [hown]
        rfl
      · rw [hown,Bool.or_comm]
        rfl
    rw [hsome,if_pos rfl]
    have hpaid := paymentByExternalId_modify hpayments h.payment rfl
    exact hpaid
  · intro hnone
    have hi' := hnone i
    rw [hown] at hi'
    cases hi'
  · intro j hj hnone
    rcases hcases j with hji|hji
    · subst hji
      rw [hother] at hnone
      obtain ⟨hrow,hcodes⟩ := h.before fun k => by
        rcases hcases k with hk|hk
        · rw [hk]
          exact hi
        · rw [hk]
          exact hnone
      have hy : y=x := hread.resolve_right fun hr => hr.1 hnone
      subst hy
      refine ⟨hown,?_,?_⟩
      · rw [hsubs,Store.get?_modify_self,hrow,Option.map_some,Subscription.overwrite_loaded]
      · intro k c₀ d hc₀ hd
        rw [hpromos,hcodes] at hd
        cases hp : promo with
        | none =>
          rw [hp] at hd
          have hd : a.promoCodes.get? k=some d := hd
          rw [hc₀] at hd
          cases hd
          omega
        | some e =>
          rw [hp] at hd hsaw
          have hd : (a.promoCodes.modify e.id (fun d => {d with usedCount := e.usedCount+1})
            (fun _ => rfl)).get? k=some d := hd
          have he := promoOf_of (hsaw.2 hnone).symm
          by_cases hk : e.id=k
          · subst hk
            rw [Store.get?_modify_self,hc₀] at hd
            rw [hc₀] at he
            cases he
            cases hd
            exact le_rfl
          · rw [Store.get?_modify_ne _ _ _ (Ne.symm hk),hc₀] at hd
            cases hd
            omega
    · subst hji
      rw [Bool.not_not,hown] at hnone
      cases hnone
  · intro hall
    have hne := hall (!i)
    rw [hother] at hne
    obtain ⟨hx,hrow,_⟩ := h.once (!i) hne (by rw [Bool.not_not]; exact hi)
    refine ⟨i,y,hown,hother.trans hx,?_,?_⟩
    · exact hread.imp_right And.right
    · refine ⟨_,?_,Subscription.overwrite_expiresAt (x := y) (y := activated (clock i) plan y)
        (z := activated (clock (!i)) plan x) ?_⟩
      · rw [hsubs,hid,Store.get?_modify_self,hrow]
        rfl
      · rcases hread with hy|⟨_,hy⟩
        · left
          rw [hy,ho.notStarted.1]
          nofun
        · right
          rw [hy]
  · intro k
    rw [hpromos,← h.promos k]
    cases promo with
    | none => rfl
    | some e =>
      show ((b.promoCodes.modify e.id (fun d => {d with usedCount := e.usedCount+1})
        fun _ => rfl).get? k).isSome=_
      rw [Store.get?_modify]
      split_ifs
      · rw [Option.isSome_map]
      · rfl
  · intro hnone
    rw [hpromos,← h.unused hnone]
    cases promo with
    | none => rfl
    | some e =>
      have hsome := hsaw.1
      rw [hnone] at hsome
      cases hsome
  · have hlen : (c.redemptionsFor p.id).length=
        (b.redemptionsFor p.id).length+promo.isSome.toNat := by
      unfold Database.redemptionsFor
      rw [hreds]
      cases promo with
      | none => rfl
      | some e =>
        show ((b.promoCodeRedemptions.insert _).rows.filter _).length=_
        rw [Store.rows_insert _ _ (hfresh rfl),List.filter_append,List.length_append]
        simp [redeemed]
    have hcount : (Function.update how i (some y) false).isSome.toNat+
        (Function.update how i (some y) true).isSome.toNat=
        (how false).isSome.toNat+(how true).isSome.toNat+1 := by
      cases i
      · rw [hown,show true=!false from rfl,hother,Bool.not_false,hi]
        show 1+_=0+_+1
        omega
      · rw [hown,show false=!true from rfl,hother,Bool.not_true,hi]
        rfl
    rw [hlen,h.redemptions,hcount,hsaw.1]
    cases (promoOf a p).isSome <;> rfl

theorem webhookStatements_redemptions (n : Int) (now : Time) (p : Payment) (y : Subscription)
    (plan : Plan) (promo : Option PromoCode) :
    (webhookStatements n now p y plan promo).filterMap BillingStatement.redemption=
      (promo.map fun c => redeemed n now c p).toList := by
  cases promo <;> rfl

/-- What stands when delivery `i` goes on stands when it has committed. -/
theorem Standing.committed {how : Bool → Option Subscription}
    {party : Party BillingStatement WebhookPlace} (hi : how i=none) (y : Subscription)
    (h : Standing clock a p x plan how (!i) party) :
    Standing clock a p x plan (Function.update how i (some y)) (!i) party := by
  have hown : Function.update how i (some y) (!(!i))=some y := by
    rw [Bool.not_not]
    exact Function.update_self ..
  have hread : ∀ z,Read clock x plan how (!i) z →
      Read clock x plan (Function.update how i (some y)) (!i) z := by
    intro z hz
    exact Or.inl (hz.resolve_right fun hr => hr.1 (by rw [Bool.not_not]; exact hi))
  have hsaw : ∀ promo,Saw a p how (!i) promo → Saw a p (Function.update how i (some y)) (!i) promo :=
    fun promo hp => ⟨hp.1,fun hnone => by rw [hown] at hnone; cases hnone⟩
  unfold Standing at h ⊢
  cases hplace : party.place with
  | start =>
    rw [hplace] at h
    exact h
  | «open» q =>
    rw [hplace] at h
    exact h
  | extended q z l =>
    rw [hplace] at h
    obtain ⟨hw,hq,hl,hz⟩ := h
    exact ⟨hw,hq,hl,hread z hz⟩
  | noted q z l promo =>
    rw [hplace] at h
    obtain ⟨hw,hq,hl,hz,hp⟩ := h
    exact ⟨hw,hq,hl,hread z hz,hsaw promo hp⟩
  | flushed z =>
    rw [hplace] at h
    obtain ⟨hz,n,promo,hp,hw⟩ := h
    exact ⟨hread z hz,n,promo,hsaw promo hp,hw⟩
  | finished z =>
    rw [hplace] at h
    cases z with
    | none =>
      refine ⟨h.1,?_⟩
      rw [hown]
      nofun
    | some z => exact h
  | failed =>
    rw [hplace] at h
    refine ⟨h.1,fun hnone => ?_⟩
    rw [hown] at hnone
    cases hnone

theorem Confirming.commit (ho : OpenPayment cfg external a p x plan)
    (h : Confirming cfg external clock a p x plan s) {y : Subscription}
    (hplace : (s.party i).place=.flushed y) : Confirming cfg external clock a p x plan {s with
      committed := s.view BillingStatement.execute i
      party := Function.update s.party i ⟨.finished (some y),[]⟩} := by
  obtain ⟨hread,n,promo,hsaw,hwrites⟩ :
      Read clock x plan (extendedBy s) i y ∧ ∃ n promo,Saw a p (extendedBy s) i promo ∧
        (s.party i).writes=webhookStatements n (clock i) p y plan promo := by
    have hown := h.standing i
    unfold Standing at hown
    rw [hplace] at hown
    exact hown
  have hnone : extendedBy s i=none := by
    unfold extendedBy
    rw [hplace]
    rfl
  generalize ht : ({s with
    committed := s.view BillingStatement.execute i
    party := Function.update s.party i ⟨.finished (some y),[]⟩} : WebhookRace)=t
  have hi : t.party i=⟨.finished (some y),[]⟩ := by
    rw [← ht]
    exact Function.update_self ..
  have hother : t.party (!i)=s.party (!i) := by
    rw [← ht]
    exact update_not ..
  have hcommitted : t.committed=(webhookStatements n (clock i) p y plan promo).foldl
      BillingStatement.execute s.committed := by
    rw [← ht,← hwrites]
    rfl
  have hlast : t.rest=s.rest := by rw [← ht]
  have hcases : ∀ j,j=i ∨ j=!i := by
    intro j
    cases i <;> cases j <;> simp
  have hby : extendedBy t=Function.update (extendedBy s) i (some y) := by
    funext j
    unfold extendedBy
    rcases hcases j with hj|hj
    · rw [hj,hi,Function.update_self]
      rfl
    · rw [hj,hother,update_not]
  have hpending : (both fun j => (s.party j).writes.filterMap BillingStatement.redemption).Perm
      ((promo.map fun c => redeemed n (clock i) c p).toList++
        (s.party (!i)).writes.filterMap BillingStatement.redemption) := by
    rw [← webhookStatements_redemptions n (clock i) p y plan promo,← hwrites]
    exact both_perm _ i
  have hfresh : promo.isSome → ∀ r∈s.committed.promoCodeRedemptions.rows,r.id≠n := by
    intro hsome r hr hid
    obtain ⟨c,hc⟩ := Option.isSome_iff_exists.mp hsome
    have hdistinct := h.distinct
    unfold allRedemptions at hdistinct
    rw [((hpending.append_left _).map _).nodup_iff,List.map_append] at hdistinct
    obtain ⟨_,_,hdis⟩ := List.nodup_append.mp hdistinct
    refine hdis _ (List.mem_map_of_mem hr) n ?_ hid
    rw [hc]
    exact List.mem_cons_self
  have hrows : t.committed.promoCodeRedemptions.rows=s.committed.promoCodeRedemptions.rows++
      (promo.map fun c => redeemed n (clock i) c p).toList := by
    rw [hcommitted,(execute_webhookStatements n (clock i) p y plan promo s.committed).2.2.2.2]
    cases promo with
    | none => exact (List.append_nil _).symm
    | some c => exact Store.rows_insert _ _ (hfresh rfl)
  have hall : (allRedemptions t).Perm (allRedemptions s) := by
    unfold allRedemptions
    rw [hrows,List.append_assoc]
    apply List.Perm.append_left
    apply List.Perm.trans ?_ hpending.symm
    apply List.Perm.append_left
    apply (both_perm _ i).trans
    rw [hi,hother]
    exact List.Perm.refl _
  constructor
  · rw [hby,hcommitted]
    exact h.booked.commit ho hnone hread hsaw hfresh
  · intro j
    rw [hby]
    rcases hcases j with hj|hj
    · rw [hj,hi]
      exact rfl
    · rw [hj,hother]
      exact (h.standing _).committed hnone y
  · intro j z hz
    rcases hcases j with hj|hj
    · rw [hj,hi] at hz
      rw [hj]
      exact h.dated i z (by rw [hplace]; exact hz)
    · rw [hj,hother] at hz
      rw [hj]
      exact h.dated _ z hz
  · intro r hr
    rw [hlast]
    exact h.numbered r (hall.subset hr)
  · rw [(hall.map _).nodup_iff]
    exact h.distinct

/-- What one delivery has read leaves it as it would be alone. -/
def Harmless (clock : Bool → Time) (plan : Plan) (i : Bool) (row : Option Subscription) : Prop :=
  ∀ y e,row=some y → y.expiresAt=some e → plan.durationDays=0 ∨ e≤clock i

theorem harmless_none : Harmless clock plan i none := by
  intro y e hy
  cases hy

/-- No delivery so far has been in the way of the other. -/
def Fair (clock : Bool → Time) (p : Payment) (plan : Plan) (s : WebhookRace) : Prop :=
  ((∀ i,(s.party i).place.row.isSome=true) → p.promoCodeId=none) ∧
    ∀ i,Harmless clock plan i (s.party i).place.row

theorem fair_update {place : WebhookPlace} (db : Database) (rest : Int)
    (writes : List BillingStatement) :
    Fair clock p plan ⟨db,rest,Function.update s.party i ⟨place,writes⟩⟩ ↔
      (place.row.isSome=true → (s.party (!i)).place.row.isSome=true → p.promoCodeId=none) ∧
        Harmless clock plan i place.row ∧
        Harmless clock plan (!i) (s.party (!i)).place.row := by
  have hboth : ∀ q : Bool → Prop,(∀ j,q j) ↔ q i ∧ q (!i) := by
    intro q
    cases i
    · exact Bool.forall_bool
    · exact Bool.forall_bool.trans and_comm
  unfold Fair
  rw [hboth,hboth]
  show (((Function.update s.party i _ i).place.row.isSome=true ∧
    (Function.update s.party i _ (!i)).place.row.isSome=true) → _) ∧
    Harmless clock plan i (Function.update s.party i _ i).place.row ∧
    Harmless clock plan (!i) (Function.update s.party i _ (!i)).place.row ↔ _
  rw [Function.update_self,update_not,and_imp]

/-- A step after which the delivery has read as much. -/
theorem fair_same {place : WebhookPlace} (db : Database) (rest : Int)
    (writes : List BillingStatement) (hrow : place.row=(s.party i).place.row) :
    Fair clock p plan ⟨db,rest,Function.update s.party i ⟨place,writes⟩⟩ ↔
      Fair clock p plan s := by
  have hself : s=⟨s.committed,s.rest,Function.update s.party i ⟨(s.party i).place,(s.party i).writes⟩⟩ := by
    rw [show (⟨(s.party i).place,(s.party i).writes⟩ : Party BillingStatement WebhookPlace)=
      s.party i from rfl,Function.update_eq_self]
  rw [fair_update,hself,fair_update,← hself,hrow]

/-- Only a delivery that is about to extend can be in the way of the other. -/
theorem undisturbed_of (h : ∀ q,(s.party i).place≠.open q) : Undisturbed clock s i :=
  fun q hq => absurd hq (h q)

/-- A delivery reads the payment. -/
theorem Confirming.start (ho : OpenPayment cfg external a p x plan)
    (h : Confirming cfg external clock a p x plan s) (hplace : (s.party i).place=.start) :
    Confirming cfg external clock a p x plan (webhookTick cfg external clock s i) ∧
      (Fair clock p plan (webhookTick cfg external clock s i) ↔
        Fair clock p plan s ∧ Undisturbed clock s i) := by
  have hwrites : (s.party i).writes=[] := by
    have hown := h.standing i
    unfold Standing at hown
    rw [hplace] at hown
    exact hown
  have hview : s.view BillingStatement.execute i=s.committed := by
    unfold Workplace.view
    rw [hwrites]
    rfl
  have hmine : extendedBy s i=none := by
    unfold extendedBy
    rw [hplace]
    rfl
  have hcalm : Undisturbed clock s i :=
    undisturbed_of fun q hq => by rw [hplace] at hq; cases hq
  cases hthem : extendedBy s (!i) with
  | some y =>
    have hterm : (if (extendedBy s false).isSome || (extendedBy s true).isSome then
        PaymentStatus.succeeded else p.status)=.succeeded := by
      cases i <;> simp_all
    have hnext : webhookNext cfg external clock i (s.party i).place
        (s.view BillingStatement.execute i) s.rest=.commit (.finished none) := by
      rw [hplace,hview]
      unfold webhookNext
      simp only [h.booked.payment,hterm]
      rfl
    have hcommit : webhookTick cfg external clock s i={s with
        rest := s.rest
        party := Function.update s.party i ⟨.finished none,[]⟩} := by
      unfold webhookTick
      rw [Workplace.tick_commit hnext,hview]
    rw [hcommit]
    refine ⟨h.pass hwrites (by rw [hplace]; rfl) (WebhookPlace.rowless rfl)
      ⟨rfl,by rw [hthem]; nofun⟩,?_⟩
    rw [fair_same _ _ _ (by rw [hplace]; rfl)]
    exact (and_iff_left hcalm).symm
  | none =>
    have hnone : ∀ j,extendedBy s j=none := by
      intro j
      cases i <;> cases j <;> assumption
    have hpayment : s.committed.paymentByExternalId cfg.paymentProvider external=some p := by
      rw [h.booked.payment,hnone,hnone]
      rfl
    have hnext : webhookNext cfg external clock i (s.party i).place
        (s.view BillingStatement.execute i) s.rest=.work (.open p) [] s.rest := by
      rw [hplace,hview]
      unfold webhookNext
      simp [hpayment,ho.unsettled]
    unfold webhookTick
    rw [Workplace.tick_work hnext,hwrites]
    refine ⟨h.pass hwrites (by rw [hplace]; rfl) (WebhookPlace.rowless rfl) ⟨rfl,rfl⟩,?_⟩
    rw [fair_same _ _ _ (by rw [hplace]; rfl)]
    exact (and_iff_left hcalm).symm

/-- A delivery reads the subscription and extends it. -/
theorem Confirming.extend (ho : OpenPayment cfg external a p x plan)
    (h : Confirming cfg external clock a p x plan s) {q : Payment}
    (hplace : (s.party i).place=.open q) :
    Confirming cfg external clock a p x plan (webhookTick cfg external clock s i) ∧
      (Fair clock p plan (webhookTick cfg external clock s i) ↔
        Fair clock p plan s ∧ Undisturbed clock s i) := by
  obtain ⟨hwrites,hq⟩ : (s.party i).writes=[] ∧ q=p := by
    have hown := h.standing i
    unfold Standing at hown
    rw [hplace] at hown
    exact hown
  subst hq
  have hview : s.view BillingStatement.execute i=s.committed := by
    unfold Workplace.view
    rw [hwrites]
    rfl
  have hmine : extendedBy s i=none := by
    unfold extendedBy
    rw [hplace]
    rfl
  obtain ⟨y,hy,hread⟩ : ∃ y,s.committed.subscriptions.get? x.id=some y ∧
      Read clock x plan (extendedBy s) i y := by
    cases hthem : extendedBy s (!i) with
    | none =>
      have hnone : ∀ j,extendedBy s j=none := by
        intro j
        cases i <;> cases j <;> assumption
      exact ⟨x,(h.booked.before hnone).1,Or.inl rfl⟩
    | some z =>
      have hne : extendedBy s (!i)≠none := by
        rw [hthem]
        exact Option.some_ne_none z
      have honce := h.booked.once (!i) hne (by rw [Bool.not_not]; exact hmine)
      exact ⟨_,honce.2.1,Or.inr ⟨hne,rfl⟩⟩
  have hids : y.id=x.id ∧ y.planId=x.planId := by
    rcases hread with hr|⟨_,hr⟩ <;> rw [hr] <;> exact ⟨rfl,rfl⟩
  have hplan : s.committed.plans.get? y.planId=some plan := by
    rw [h.booked.plans,hids.2]
    exact ho.plan
  have hundisturbed : Undisturbed clock s i ↔
      (InCalendar (extensionBase (clock i) y) plan.durationDays →
        ((s.party (!i)).place.row.isSome=true → q.promoCodeId=none) ∧
          Harmless clock plan i (some y)) := by
    unfold Undisturbed Harmless
    constructor
    · intro hall hdate
      obtain ⟨hcode,hends⟩ := hall q hplace y plan (by rw [hids.1]; exact ho.linked)
        (by rw [hids.1]; exact hy) hplan hdate
      refine ⟨hcode,fun z e hz he => ?_⟩
      cases hz
      exact hends e he
    · intro hall r hr z l hlink hz hl hdate
      rw [hplace] at hr
      cases hr
      have hzx : z.id=x.id := Option.some.inj (hlink.symm.trans ho.linked)
      rw [hzx,hy] at hz
      cases hz
      rw [hplan] at hl
      cases hl
      exact ⟨(hall hdate).1,fun e he => (hall hdate).2 y e rfl he⟩
  by_cases hdate : InCalendar (extensionBase (clock i) y) plan.durationDays
  · have hnext : webhookNext cfg external clock i (s.party i).place
        (s.view BillingStatement.execute i) s.rest=.work (.extended q y plan) [] s.rest := by
      rw [hplace,hview]
      unfold webhookNext
      simp [ho.linked,hy,hplan,hdate]
    have hbefore : Fair clock q plan s ↔
        Harmless clock plan (!i) (s.party (!i)).place.row := by
      have hsame : Fair clock q plan ⟨s.committed,s.rest,Function.update s.party i ⟨.open q,[]⟩⟩ ↔
          Fair clock q plan s := fair_same _ _ _ (by rw [hplace])
      rw [← hsame,fair_update]
      constructor
      · exact fun hall => hall.2.2
      · exact fun hall => ⟨fun hf => Bool.noConfusion hf,harmless_none,hall⟩
    unfold webhookTick
    rw [Workplace.tick_work hnext,hwrites]
    refine ⟨h.pass hwrites (by rw [hplace]; rfl) (fun z hz => by cases hz; exact hdate)
      ⟨rfl,rfl,rfl,hread⟩,?_⟩
    rw [fair_update,hbefore,hundisturbed]
    constructor
    · exact fun hall => ⟨hall.2.2,fun _ => ⟨hall.1 rfl,hall.2.1⟩⟩
    · exact fun hall => ⟨fun _ => (hall.2 hdate).1,(hall.2 hdate).2,hall.1⟩
  · -- the new end is no date
    have hnext : webhookNext cfg external clock i (s.party i).place
        (s.view BillingStatement.execute i) s.rest=.rollback .failed s.rest := by
      rw [hplace,hview]
      unfold webhookNext
      simp [ho.linked,hy,hplan,hdate]
    have hlate : extendedBy s (!i)=none → ¬InCalendar (clock i) plan.durationDays := by
      intro hthem hfits
      have hyx : y=x := hread.resolve_right fun hr => hr.1 hthem
      apply hdate
      rw [hyx,extensionBase_unstarted _ ho.notStarted.1]
      exact hfits
    unfold webhookTick
    rw [Workplace.tick_rollback hnext]
    refine ⟨h.pass hwrites (by rw [hplace]; rfl) (WebhookPlace.rowless rfl) ⟨rfl,hlate⟩,?_⟩
    rw [fair_same _ _ _ (by rw [hplace]; rfl),hundisturbed]
    exact (and_iff_left fun hd => absurd hd hdate).symm

theorem webhookTick_confirming (ho : OpenPayment cfg external a p x plan)
    (h : Confirming cfg external clock a p x plan s) (i : Bool) :
    Confirming cfg external clock a p x plan (webhookTick cfg external clock s i) ∧
      (Fair clock p plan (webhookTick cfg external clock s i) ↔
        Fair clock p plan s ∧ Undisturbed clock s i) := by
  have hown := h.standing i
  unfold Standing at hown
  cases hplace : (s.party i).place with
  | start => exact h.start ho hplace
  | «open» q => exact h.extend ho hplace
  | extended q y l =>
    rw [hplace] at hown
    have hcalm : Undisturbed clock s i :=
      undisturbed_of fun r hr => by rw [hplace] at hr; cases hr
    obtain ⟨hwrites,hq,hl,hread⟩ := hown
    have hview : s.view BillingStatement.execute i=s.committed := by
      unfold Workplace.view
      rw [hwrites]
      rfl
    have hsaw : Saw a p (extendedBy s) i (promoOf s.committed p) := by
      constructor
      · unfold promoOf
        cases p.promoCodeId.filter fun k => k≠0 with
        | none => rfl
        | some k => exact h.booked.promos k
      · intro hnone
        have hmine : extendedBy s i=none := by
          unfold extendedBy
          rw [hplace]
          rfl
        have hall : ∀ j,extendedBy s j=none := by
          intro j
          cases i <;> cases j <;> assumption
        unfold promoOf
        rw [(h.booked.before hall).2]
    have hnext : webhookNext cfg external clock i (s.party i).place
        (s.view BillingStatement.execute i) s.rest=
          .work (.noted q y l (promoOf s.committed q)) [] s.rest := by
      rw [hplace,hview]
      rfl
    unfold webhookTick
    rw [Workplace.tick_work hnext,hwrites]
    subst hq
    refine ⟨h.pass hwrites (by rw [hplace]; rfl)
      (fun z hz => h.dated i z (by rw [hplace]; exact hz)) ⟨rfl,rfl,hl,hread,hsaw⟩,?_⟩
    rw [fair_same _ _ _ (by rw [hplace]; rfl)]
    exact (and_iff_left hcalm).symm
  | noted q y l promo =>
    rw [hplace] at hown
    have hcalm : Undisturbed clock s i :=
      undisturbed_of fun r hr => by rw [hplace] at hr; cases hr
    obtain ⟨hwrites,hq,hl,hread,hsaw⟩ := hown
    have hnext : webhookNext cfg external clock i (s.party i).place
        (s.view BillingStatement.execute i) s.rest=
          .work (.flushed y) (webhookStatements s.rest (clock i) q y l promo)
            (if promo.isSome then s.rest+1 else s.rest) := by
      rw [hplace]
      rfl
    subst hq hl
    have hstanding : Standing clock a q x l (extendedBy s) i
        ⟨.flushed y,webhookStatements s.rest (clock i) q y l promo⟩ :=
      ⟨hread,s.rest,promo,hsaw,rfl⟩
    unfold webhookTick
    rw [Workplace.tick_work hnext,hwrites,List.nil_append]
    refine ⟨h.move (promo.map fun c => redeemed s.rest (clock i) c q).toList
      (by rw [hplace]; rfl) (fun z hz => h.dated i z (by rw [hplace]; exact hz)) hstanding
      ?_ ?_ ?_ ?_,?_⟩
    · rw [hwrites,webhookStatements_redemptions]
      rfl
    · cases promo <;> simp
    · cases promo with
      | none => exact fun r hr => absurd hr List.not_mem_nil
      | some c =>
        intro r hr
        rw [List.mem_singleton.mp hr]
        exact ⟨le_rfl,Int.lt_succ _⟩
    · split_ifs
      · exact Int.le_add_one le_rfl
      · exact le_rfl
    · rw [fair_same _ _ _ (by rw [hplace]; rfl)]
      exact (and_iff_left hcalm).symm
  | flushed y =>
    have hcalm : Undisturbed clock s i :=
      undisturbed_of fun r hr => by rw [hplace] at hr; cases hr
    have hnext : webhookNext cfg external clock i (s.party i).place
        (s.view BillingStatement.execute i) s.rest=.commit (.finished (some y)) := by
      rw [hplace]
      rfl
    unfold webhookTick
    rw [Workplace.tick_commit hnext]
    refine ⟨h.commit ho hplace,?_⟩
    rw [fair_same _ _ _ (by rw [hplace]; rfl)]
    exact (and_iff_left hcalm).symm
  | finished y =>
    have hcalm : Undisturbed clock s i :=
      undisturbed_of fun r hr => by rw [hplace] at hr; cases hr
    have hnext : webhookNext cfg external clock i (s.party i).place
        (s.view BillingStatement.execute i) s.rest=.work (.finished y) [] s.rest := by
      rw [hplace]
      rfl
    have hwrites : (s.party i).writes=[] := by
      rw [hplace] at hown
      cases y with
      | none => exact hown.1
      | some y => exact hown
    have hstanding := h.standing i
    rw [show s.party i=⟨.finished y,[]⟩ by rw [← hplace,← hwrites]] at hstanding
    unfold webhookTick
    rw [Workplace.tick_work hnext,hwrites]
    refine ⟨h.pass hwrites (by rw [hplace])
      (fun z hz => h.dated i z (by rw [hplace]; exact hz)) hstanding,?_⟩
    rw [fair_same _ _ _ (by rw [hplace])]
    exact (and_iff_left hcalm).symm
  | failed =>
    have hcalm : Undisturbed clock s i :=
      undisturbed_of fun r hr => by rw [hplace] at hr; cases hr
    have hnext : webhookNext cfg external clock i (s.party i).place
        (s.view BillingStatement.execute i) s.rest=.work .failed [] s.rest := by
      rw [hplace]
      rfl
    rw [hplace] at hown
    have hstanding : Standing clock a p x plan (extendedBy s) i ⟨.failed,[]⟩ := ⟨rfl,hown.2⟩
    unfold webhookTick
    rw [Workplace.tick_work hnext,hown.1]
    refine ⟨h.pass hown.1 (by rw [hplace]) (WebhookPlace.rowless rfl) hstanding,?_⟩
    rw [fair_same _ _ _ (by rw [hplace])]
    exact (and_iff_left hcalm).symm

theorem webhookRun_confirming (ho : OpenPayment cfg external a p x plan)
    (h : Confirming cfg external clock a p x plan s) (is : List Bool) :
    Confirming cfg external clock a p x plan (is.foldl (webhookTick cfg external clock) s) ∧
      (Fair clock p plan (is.foldl (webhookTick cfg external clock) s) ↔
        Fair clock p plan s ∧
          Conducted (Undisturbed clock) (webhookTick cfg external clock) s is) := by
  induction is generalizing s with
  | nil => exact ⟨h,(and_iff_left trivial).symm⟩
  | cons i is ih =>
    obtain ⟨hnext,hfair⟩ := webhookTick_confirming ho h i
    obtain ⟨hlast,hall⟩ := ih hnext
    refine ⟨hlast,hall.trans ?_⟩
    rw [hfair,and_assoc]
    exact Iff.rfl

theorem confirming_opening {n : Int} (ho : OpenPayment cfg external a p x plan)
    (hn : ∀ r∈a.promoCodeRedemptions.rows,r.id<n) :
    Confirming cfg external clock a p x plan (Workplace.opening a n .start) where
  booked := {
    plans := rfl
    payment := ho.found
    before := fun _ => ⟨ho.row,rfl⟩
    once := fun i hi => absurd rfl hi
    twice := fun hall => absurd rfl (hall true)
    promos := fun _ => rfl
    unused := fun _ => rfl
    redemptions := by
      show (a.redemptionsFor p.id).length=_
      rw [ho.unredeemed]
      exact (ite_self _).symm }
  standing _ := rfl
  dated _ _ hy := by cases hy
  numbered r hr := hn r (by simpa [allRedemptions,both,Workplace.opening] using hr)
  distinct := by
    simpa [allRedemptions,both,Workplace.opening] using a.promoCodeRedemptions.nodup

theorem activated_expiresAt (now : Time) (plan : Plan) (y : Subscription) :
    (activated now plan y).expiresAt=some (extensionBase now y+days plan.durationDays) := rfl

theorem extensionBase_activated (t u : Time) (plan : Plan) (y : Subscription) :
    extensionBase t (activated u plan y)=
      if extensionBase u y+days plan.durationDays>t then extensionBase u y+days plan.durationDays
      else t := rfl

/-- What an extended row is worth to the delivery that reads it. -/
theorem extended_once_iff (ho : OpenPayment cfg external a p x plan) {t u : Time} :
    (extensionBase t (activated u plan x)=t ∨ extensionBase t (activated u plan x)=u) ↔
      plan.durationDays=0 ∨ u+days plan.durationDays≤t := by
  rw [extensionBase_activated,extensionBase_unstarted _ ho.notStarted.1]
  have hzero : days plan.durationDays=0 ↔ plan.durationDays=0 := by
    show plan.durationDays*86400000000=(0 : Int) ↔ _
    omega
  rw [← hzero]
  generalize hd : days plan.durationDays=d
  have harith : ∀ t u d : Int,
      ((if u+d>t then u+d else t)=t ∨ (if u+d>t then u+d else t)=u) ↔ d=0 ∨ u+d≤t := by
    intro t u d
    split_ifs <;> omega
  exact harith t u d

/-- The rows in the place of the rows of the places. -/
theorem fair_rows {how : Bool → Option Subscription} (hrow : ∀ i,(s.party i).place.row=how i)
    (i : Bool) : Fair clock p plan s ↔ ((how i).isSome → (how (!i)).isSome → p.promoCodeId=none) ∧
      Harmless clock plan i (how i) ∧ Harmless clock plan (!i) (how (!i)) := by
  have hsame : Fair clock p plan
      ⟨s.committed,s.rest,Function.update s.party i ⟨.finished (how i),[]⟩⟩ ↔
      Fair clock p plan s := fair_same _ _ _ (hrow i).symm
  rw [← hsame,fair_update,hrow]
  exact Iff.rfl

/-- A delivery that is over has read what it has committed. -/
theorem row_of_answered (h : (s.party i).place.answered=true) :
    (s.party i).place.row=extendedBy s i := by
  unfold extendedBy
  cases hplace : (s.party i).place with
  | finished y => rfl
  | failed => rfl
  | _ =>
    rw [hplace] at h
    cases h

/-- A row that the other delivery has not extended is as it was when the payment was made. -/
theorem OpenPayment.harmless (ho : OpenPayment cfg external a p x plan) (i : Bool) :
    Harmless clock plan i (some x) := by
  intro y e hy he
  cases hy
  rw [ho.notStarted.1] at he
  cases he

theorem OpenPayment.unique (ho : OpenPayment cfg external a p x plan) {x' : Subscription}
    {plan' : Plan} (hlink : p.subscriptionId=some x'.id) (hx : a.subscriptions.get? x'.id=some x')
    (hplan : a.plans.get? x'.planId=some plan') : x'=x ∧ plan'=plan := by
  have hid : x'.id=x.id := Option.some.inj (hlink.symm.trans ho.linked)
  rw [hid,ho.row] at hx
  cases hx
  rw [ho.plan] at hplan
  cases hplan
  exact ⟨rfl,rfl⟩

/-- Where both deliveries have extended the subscription. -/
theorem Confirming.once_twice (ho : OpenPayment cfg external a p x plan)
    (h : Confirming cfg external clock a p x plan s)
    (hrow : ∀ i,(s.party i).place.row=extendedBy s i) (hall : ∀ i,extendedBy s i≠none) :
    ConfirmedOnce clock p a s.committed ↔ Fair clock p plan s := by
  obtain ⟨i,y,hy,hx,hread,z,hz,hzend⟩ := h.booked.twice hall
  have hlen := h.booked.redemptions
  have htwo : (extendedBy s false).isSome.toNat+(extendedBy s true).isSome.toNat=2 := by
    cases i <;> simp_all
  rw [htwo] at hlen
  have hcode : p.promoCodeId=none ↔ (s.committed.redemptionsFor p.id).length≤1 := by
    have hpromo := ho.promo
    rw [hlen]
    cases hc : p.promoCodeId <;> rw [hc] at hpromo <;> simp [hpromo]
  have hharm : Harmless clock plan i (some y) ↔
      ∃ j,z.expiresAt=some (clock j+days plan.durationDays) := by
    rw [hzend,activated_expiresAt]
    rcases hread with hr|hr
    · rw [hr,extensionBase_unstarted _ ho.notStarted.1]
      exact iff_of_true (ho.harmless i) ⟨i,rfl⟩
    · rw [hr]
      have hiff := extended_once_iff ho (t := clock i) (u := clock (!i))
      constructor
      · intro hharm
        have hbase := hiff.mpr (hharm _ _ rfl (by
          rw [activated_expiresAt,extensionBase_unstarted _ ho.notStarted.1]))
        rcases hbase with hb|hb
        · exact ⟨i,by rw [hb]⟩
        · exact ⟨!i,by rw [hb]⟩
      · rintro ⟨j,hj⟩ r e hrow he
        cases hrow
        rw [activated_expiresAt,extensionBase_unstarted _ ho.notStarted.1] at he
        cases he
        have hj : extensionBase (clock i) (activated (clock (!i)) plan x)+days plan.durationDays=
            clock j+days plan.durationDays := Option.some.inj hj
        have hcancel : ∀ t u d : Int,t+d=u+d → t=u := fun t u d h => by omega
        have hbase : extensionBase (clock i) (activated (clock (!i)) plan x)=clock j :=
          hcancel _ _ _ hj
        apply hiff.mp
        have hcases : j=i ∨ j=!i := by cases i <;> cases j <;> simp
        rcases hcases with hji|hji
        · exact Or.inl (hji ▸ hbase)
        · exact Or.inr (hji ▸ hbase)
  rw [fair_rows hrow i,hy,hx]
  constructor
  · intro honce
    refine ⟨fun _ _ => hcode.mpr honce.redemptions,hharm.mpr ?_,ho.harmless _⟩
    obtain ⟨w,j,hw,hj⟩ := honce.ends x plan ho.linked ho.row ho.plan
    rw [hz] at hw
    cases hw
    exact ⟨j,hj⟩
  · rintro ⟨hnone,hi,_⟩
    have hnone := hnone rfl rfl
    refine ⟨fun x' plan' hlink hx' hplan' => ?_,fun k c d hc hd => ?_,hcode.mp hnone⟩
    · obtain ⟨hxx,hpp⟩ := ho.unique hlink hx' hplan'
      subst hxx hpp
      obtain ⟨j,hj⟩ := hharm.mp hi
      exact ⟨z,j,hz,hj⟩
    · have hpromo : promoOf a p=none := by
        unfold promoOf
        rw [hnone]
        rfl
      rw [h.booked.unused hpromo,hc] at hd
      cases hd
      exact Int.le_add_one le_rfl

/-- When both deliveries are over, the event is applied once just when the end it gives is a date
at one of their times and neither was in the way of the other. -/
theorem Confirming.once_iff (ho : OpenPayment cfg external a p x plan)
    (h : Confirming cfg external clock a p x plan s) (hdone : ∀ i,(s.party i).place.answered=true) :
    ConfirmedOnce clock p a s.committed ↔
      (∃ i,InCalendar (clock i) plan.durationDays) ∧ Fair clock p plan s := by
  have hrow : ∀ i,(s.party i).place.row=extendedBy s i := fun i => row_of_answered (hdone i)
  -- what has extended the untouched row did so at a time that gives a date
  have hdated : ∀ i,extendedBy s i=some x → ∃ i,InCalendar (clock i) plan.durationDays := by
    intro i hi
    have hdate := h.dated i x ((hrow i).trans hi)
    rw [extensionBase_unstarted _ ho.notStarted.1] at hdate
    exact ⟨i,hdate⟩
  by_cases hall : ∀ i,extendedBy s i≠none
  · obtain ⟨i,_,_,hx,_⟩ := h.booked.twice hall
    rw [h.once_twice ho hrow hall]
    exact (and_iff_right (hdated (!i) hx)).symm
  · push Not at hall
    obtain ⟨o,hnone⟩ := hall
    cases hother : extendedBy s (!o) with
    | some y =>
      have hne : extendedBy s (!o)≠none := by
        rw [hother]
        exact Option.some_ne_none y
      obtain ⟨hx,hxrow,huses⟩ := h.booked.once (!o) hne (by rw [Bool.not_not]; exact hnone)
      apply iff_of_true
      · refine ⟨fun x' plan' hlink hx' hplan' => ?_,huses,?_⟩
        · obtain ⟨hxx,hpp⟩ := ho.unique hlink hx' hplan'
          subst hxx hpp
          refine ⟨_,!o,hxrow,?_⟩
          rw [activated_expiresAt,extensionBase_unstarted _ ho.notStarted.1]
        · rw [h.booked.redemptions]
          cases o <;> simp_all <;> split_ifs <;> simp
      · refine ⟨hdated (!o) hx,?_⟩
        rw [fair_rows hrow o,hnone,hx]
        exact ⟨fun hf => Bool.noConfusion hf,harmless_none,ho.harmless _⟩
    | none =>
      -- both have failed
      have hneither : ∀ i,extendedBy s i=none := by
        intro i
        cases o <;> cases i <;> assumption
      have hlate : ∀ i,¬InCalendar (clock i) plan.durationDays := by
        intro i
        have hown := h.standing i
        unfold Standing at hown
        cases hplace : (s.party i).place with
        | failed =>
          rw [hplace] at hown
          exact hown.2 (hneither _)
        | finished y =>
          have hy : extendedBy s i=y := by
            unfold extendedBy
            rw [hplace]
            rfl
          rw [hneither] at hy
          rw [hplace,← hy] at hown
          exact absurd (hneither _) hown.2
        | _ =>
          have hended := hdone i
          rw [hplace] at hended
          cases hended
      apply iff_of_false
      · intro honce
        obtain ⟨y,_,hy,hend⟩ := honce.ends x plan ho.linked ho.row ho.plan
        rw [(h.booked.before hneither).1] at hy
        cases hy
        rw [ho.notStarted.1] at hend
        cases hend
      · rintro ⟨⟨i,hdate⟩,_⟩
        exact hlate i hdate

end

/-- Two deliveries of the same event, however their steps come together, apply it once just when
the plan, counted from one of their times, ends on a date and each that extends the subscription
leaves the other undisturbed. -/
theorem webhooks_once_iff {cfg : Settings} {w : World} (hw : Ledger cfg w.serial w.db)
    {external : Secret} {p : Payment}
    (hfound : w.db.paymentByExternalId cfg.paymentProvider external=some p)
    (hopen : p.status.isTerminal=false) (clock : Bool → Time) (is : List Bool)
    (hdone : ∀ i,((webhookRun cfg external clock w is).party i).place.answered=true) :
    ConfirmedOnce clock p w.db (webhookRun cfg external clock w is).committed ↔
      (∃ i,p.datable w.db (clock i)=true) ∧
        Conducted (Undisturbed clock) (webhookTick cfg external clock)
          (Workplace.opening w.db w.serial .start) is := by
  obtain ⟨x,plan,ho⟩ := hw.openPayment hfound hopen
  have hstart : Confirming cfg external clock w.db p x plan
      (Workplace.opening w.db w.serial .start) := confirming_opening ho hw.redemptionIds
  obtain ⟨hlast,hall⟩ := webhookRun_confirming ho hstart is
  have hfair : Fair clock p plan (Workplace.opening w.db w.serial .start) :=
    ⟨fun hread => Bool.noConfusion (hread true),fun _ => harmless_none⟩
  have hdates : ∀ i,p.datable w.db (clock i)=true ↔ InCalendar (clock i) plan.durationDays := by
    intro i
    rw [hw.datable_iff (paymentByExternalId_mem hfound).1 hopen ho.linked ho.row ho.plan,
      extensionBase_unstarted _ ho.notStarted.1]
  simp only [hdates]
  exact (hlast.once_iff ho hdone).trans (and_congr_right fun _ => hall.trans (and_iff_right hfair))

section

variable {cfg : Settings} {external : Secret} {clock : Bool → Time} {w w' : World} {p : Payment}

/-- A delivery that flushes writes what a confirmed payment does. -/
theorem webhookStatements_settle {db : Database} {now : Time} {n : Int} {x : Subscription}
    {plan : Plan} (hx : db.subscriptions.get? x.id=some x) :
    (webhookStatements n now p x plan (promoOf db p)).foldl BillingStatement.execute db=
      redeem n now p (settle now p x plan db) := by
  have hsub : db.subscriptions.modify x.id (x.overwrite (activated now plan x)) (x.overwrite_id _)=
      db.subscriptions.modify x.id (activated now plan) fun _ => rfl :=
    Store.modify_at hx _ _ (Subscription.overwrite_loaded now plan x)
  have hsame : promoOf (settle now p x plan db) p=promoOf db p := rfl
  unfold redeem
  rw [hsame]
  cases hpromo : promoOf db p with
  | none =>
    calc ({db with
          payments := db.payments.modify p.id (fun p => {p with status := .succeeded}) fun _ => rfl
          subscriptions := db.subscriptions.modify x.id (x.overwrite (activated now plan x))
            (x.overwrite_id _)} : Database)
        = settle now p x plan db := by rw [hsub]; rfl
  | some c =>
    have hcode : db.promoCodes.modify c.id (fun d => {d with usedCount := c.usedCount+1})
        (fun _ => rfl)=
          db.promoCodes.modify c.id (fun d => {d with usedCount := d.usedCount+1}) fun _ => rfl :=
      Store.modify_at (promoOf_of hpromo) _ _ rfl
    calc ({db with
          payments := db.payments.modify p.id (fun p => {p with status := .succeeded}) fun _ => rfl
          subscriptions := db.subscriptions.modify x.id (x.overwrite (activated now plan x))
            (x.overwrite_id _)
          promoCodes := db.promoCodes.modify c.id (fun d => {d with usedCount := c.usedCount+1})
            fun _ => rfl
          promoCodeRedemptions := db.promoCodeRedemptions.insert (redeemed n now c p)} : Database)
        = {settle now p x plan db with
          promoCodes := db.promoCodes.modify c.id (fun d => {d with usedCount := d.usedCount+1})
            fun _ => rfl
          promoCodeRedemptions := db.promoCodeRedemptions.insert (redeemed n now c p)} := by
          rw [hsub,hcode]
          rfl

/-- Alone, the steps of a delivery come to what `handle_webhook` and the commit after it do. -/
theorem webhook_alone {now : Time}
    (h : transaction (handleWebhook cfg (some ⟨external,.succeeded⟩)
      (some (signHmac (some ⟨external,.succeeded⟩) cfg.paymentWebhookSecret))) (quiet now) w=
        (.ok (),w')) : ∃ n s,webhookRun cfg external (fun _ => now) w (List.replicate n false)=s ∧
      (s.party false).place.ended=true ∧ s.committed=w'.db := by
  obtain ⟨t,os,hrun,hw⟩ := transaction_ok h
  obtain ⟨_,event,q,hevent,hfound,hcases⟩ := handleWebhook_ok hrun
  cases hevent
  have hfound : w.db.paymentByExternalId cfg.paymentProvider external=some q := hfound
  rcases hcases with ⟨hterm,ht⟩|⟨hterm,u,os',hu,ht⟩
  · refine ⟨1,_,rfl,?_⟩
    rw [hw,ht]
    simp [webhookRun,webhookTick,Workplace.tick,Workplace.opening,Workplace.view,webhookNext,hfound,
      hterm,WebhookPlace.ended]
  · have hu : confirmPayment q ⟨w,quiet now⟩=(.ok (),u) := hu
    obtain ⟨x,plan,hlink,hx,hplan,hdate⟩ := confirmPayment_ok hu
    obtain ⟨n,_,_,hconfirm⟩ := confirmPayment_run hlink hx hplan hdate
    rw [hconfirm] at hu
    have hx : w.db.subscriptions.get? x.id=some x := hx
    have hplan : w.db.plans.get? x.planId=some plan := hplan
    have hdate : InCalendar (extensionBase now x) plan.durationDays := hdate
    have hdb : w'.db=redeem w.serial now q (settle now q x plan w.db) := by
      rw [hw,ht]
      cases hu
      rfl
    refine ⟨5,_,rfl,?_⟩
    rw [hdb,← webhookStatements_settle hx]
    simp [List.replicate,webhookRun,webhookTick,Workplace.tick,Workplace.opening,Workplace.view,
      webhookNext,hfound,hterm,hlink,hx,hplan,hdate,WebhookPlace.ended]

end

/-- The second delivery finds the payment settled. -/
theorem webhooks_once_iff_ordered :
    ConfirmedOnce (fun _ => 1) (firstPayment .pending) ordered.db
      (webhookRun sampleSettings (.generated 9) (fun _ => 1) ordered
        (List.replicate 5 false++[true])).committed ↔
    (∃ _ : Bool,(firstPayment .pending).datable ordered.db 1=true) ∧
      Conducted (Undisturbed fun _ => 1) (webhookTick sampleSettings (.generated 9) fun _ => 1)
        (Workplace.opening ordered.db ordered.serial .start) (List.replicate 5 false++[true]) := by
  have hended : ∀ i,((webhookRun sampleSettings (.generated 9) (fun _ => 1) ordered
      (List.replicate 5 false++[true])).party i).place.answered=true := by decide +kernel
  exact webhooks_once_iff (reachable_ledger ⟨opening.take 5,rfl⟩) (by decide +kernel) rfl _ _
    hended

/-- A delivery that finds the payment open and the subscription extended adds a second month. -/
theorem webhooks_not_once :
    ¬ConfirmedOnce (fun _ => 1) (firstPayment .pending) ordered.db
      (webhookRun sampleSettings (.generated 9) (fun _ => 1) ordered
        ([true]++List.replicate 5 false++List.replicate 4 true)).committed := by
  intro h
  have hrow : ∃ x∈ordered.db.subscriptions.rows,x.id=8 ∧ x.planId=2 := by decide +kernel
  have hplan : (ordered.db.plans.get? 2).map Plan.durationDays=some 30 := by decide +kernel
  have hend : ((webhookRun sampleSettings (.generated 9) (fun _ => 1) ordered
      ([true]++List.replicate 5 false++List.replicate 4 true)).committed.subscriptions.get? 8).map
        Subscription.expiresAt=some (some (1+days 60)) := by decide +kernel
  obtain ⟨x,hx,hid,hpid⟩ := hrow
  obtain ⟨plan,hp,hdays⟩ := Option.map_eq_some_iff.mp hplan
  obtain ⟨y,_,hy,hexpires⟩ := h.ends x plan (by rw [hid]; rfl)
    (ordered.db.subscriptions.get?_of_mem hx) (by rw [hpid]; exact hp)
  rw [hid] at hy
  rw [hy,Option.map_some,hexpires,hdays] at hend
  revert hend
  decide

end VpnService.Backend
