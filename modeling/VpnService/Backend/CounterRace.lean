import VpnService.Framework.Counters
import VpnService.Backend.Reachable

namespace VpnService.Backend

/-- The columns that requests count in. -/
inductive Counter
  | load (serverId : Id)
  | uses (promoCodeId : Id)
  | accesses (linkId : Id)
  deriving DecidableEq,Repr

def Counter.value : Counter → Database → Option Int
  | .load k,db => (db.vpnServers.get? k).map VpnServer.currentLoad
  | .uses k,db => (db.promoCodes.get? k).map PromoCode.usedCount
  | .accesses k,db => (db.subscriptionLinks.get? k).map SubscriptionLink.accessCount

/-- What else the flush of a request writes: a device and its peer, a payment and a redemption. -/
structure Aside where
  write : Database → Database
  keeps : ∀ (c : Counter) db,c.value (write db)=c.value db

/-- `UPDATE`s that set a column to the value computed in memory. -/
inductive CounterStatement
  | setCurrentLoad (k : Id) (n : Int)
  | setUsedCount (k : Id) (n : Int)
  | setAccess (k : Id) (n : Int) (lastAccessedAt : Time)
  | aside (x : Aside)

theorem currentLoad_id (n : Int) (s : VpnServer) :
    ({s with currentLoad := n} : VpnServer).id=s.id := rfl

theorem usedCount_id (n : Int) (p : PromoCode) :
    ({p with usedCount := n} : PromoCode).id=p.id := rfl

theorem access_id (n : Int) (lastAccessedAt : Option Time) (l : SubscriptionLink) :
    ({l with lastAccessedAt := lastAccessedAt,accessCount := n} : SubscriptionLink).id=l.id := rfl

def CounterStatement.execute (db : Database) : CounterStatement → Database
  | .setCurrentLoad k n => {db with
    vpnServers := db.vpnServers.modify k (fun s => {s with currentLoad := n}) (currentLoad_id n)}
  | .setUsedCount k n => {db with
    promoCodes := db.promoCodes.modify k (fun p => {p with usedCount := n}) (usedCount_id n)}
  | .setAccess k n lastAccessedAt => {db with
    subscriptionLinks := db.subscriptionLinks.modify k
      (fun l => {l with lastAccessedAt := some lastAccessedAt,accessCount := n})
      (access_id n (some lastAccessedAt))}
  | .aside x => x.write db

/-- `provision` and `revoke` on a server, the webhook of a payment with a promo code, and the fetch
of a subscription. -/
inductive CounterRequest
  | provision (serverId : Id)
  | revoke (serverId : Id)
  | webhook (promoCodeId : Id)
  | fetch (linkId : Id) (now : Time)

namespace CounterRequest

def counter : CounterRequest → Counter
  | provision k | revoke k => .load k
  | webhook k => .uses k
  | fetch k _ => .accesses k

def adjust : CounterRequest → Int → Int
  | revoke _,n => max 0 (n-1)
  | provision _,n | webhook _,n | fetch _ _,n => n+1

/-- A column whose value has not changed is not written. -/
def statements : CounterRequest → Int → List CounterStatement
  | provision k,n => [.setCurrentLoad k (n+1)]
  | revoke k,n => if max 0 (n-1)=n then [] else [.setCurrentLoad k (max 0 (n-1))]
  | webhook k,n => [.setUsedCount k (n+1)]
  | fetch k now,n => [.setAccess k (n+1) now]

end CounterRequest

/-- A request, what it writes besides, and whether its calls and statements are answered. -/
structure Counting where
  request : CounterRequest
  besides : Aside
  works : Bool
  commits : Bool

def Counting.adjustment (c : Counting) : Adjustment Counter CounterStatement where
  counter := c.request.counter
  adjust := c.request.adjust
  statements n := .aside c.besides::c.request.statements n
  works := c.works
  commits := c.commits

section

variable {db : Database}

theorem setCurrentLoad_value (k : Id) (n : Int) (c : Counter) :
    c.value (CounterStatement.execute db (.setCurrentLoad k n))=
      if c=.load k then (c.value db).map fun _ => n else c.value db := by
  cases c with
  | load j =>
    simp only [Counter.value,CounterStatement.execute,Store.get?_modify,Counter.load.injEq]
    by_cases hj : j=k
    · simp only [hj,if_true,Option.map_map]
      rfl
    · simp only [hj,if_false]
  | uses j => rfl
  | accesses j => rfl

theorem setUsedCount_value (k : Id) (n : Int) (c : Counter) :
    c.value (CounterStatement.execute db (.setUsedCount k n))=
      if c=.uses k then (c.value db).map fun _ => n else c.value db := by
  cases c with
  | uses j =>
    simp only [Counter.value,CounterStatement.execute,Store.get?_modify,Counter.uses.injEq]
    by_cases hj : j=k
    · simp only [hj,if_true,Option.map_map]
      rfl
    · simp only [hj,if_false]
  | load j => rfl
  | accesses j => rfl

theorem setAccess_value (k : Id) (n : Int) (now : Time) (c : Counter) :
    c.value (CounterStatement.execute db (.setAccess k n now))=
      if c=.accesses k then (c.value db).map fun _ => n else c.value db := by
  cases c with
  | accesses j =>
    simp only [Counter.value,CounterStatement.execute,Store.get?_modify,Counter.accesses.injEq]
    by_cases hj : j=k
    · simp only [hj,if_true,Option.map_map]
      rfl
    · simp only [hj,if_false]
  | load j => rfl
  | uses j => rfl

end

/-- What a flush of a request leaves of a counter. -/
theorem statements_value (r : CounterRequest) (n : Int) (c : Counter) (db : Database) :
    c.value ((r.statements n).foldl CounterStatement.execute db)=
      if c=r.counter ∧ r.adjust n≠n then (c.value db).map fun _ => r.adjust n else c.value db := by
  have hsucc : n+1≠n := by omega
  cases r with
  | provision k =>
    simp only [CounterRequest.statements,List.foldl_cons,List.foldl_nil,CounterRequest.counter,
      CounterRequest.adjust,hsucc,ne_eq,not_false_eq_true,and_true]
    exact setCurrentLoad_value k (n+1) c
  | revoke k =>
    by_cases hn : max 0 (n-1)=n
    · simp [CounterRequest.statements,CounterRequest.adjust,hn]
    · simp only [CounterRequest.statements,CounterRequest.counter,CounterRequest.adjust,hn,if_false,
        List.foldl_cons,List.foldl_nil,ne_eq,not_false_eq_true,and_true]
      exact setCurrentLoad_value k _ c
  | webhook k =>
    simp only [CounterRequest.statements,List.foldl_cons,List.foldl_nil,CounterRequest.counter,
      CounterRequest.adjust,hsucc,ne_eq,not_false_eq_true,and_true]
    exact setUsedCount_value k (n+1) c
  | fetch k now =>
    simp only [CounterRequest.statements,List.foldl_cons,List.foldl_nil,CounterRequest.counter,
      CounterRequest.adjust,hsucc,ne_eq,not_false_eq_true,and_true]
    exact setAccess_value k (n+1) now c

theorem Counting.sets (x : Counting) :
    x.adjustment.Sets Counter.value CounterStatement.execute := by
  intro n c db
  have hvalue : c.value ((x.adjustment.statements n).foldl CounterStatement.execute db)=
      if c=x.request.counter ∧ x.request.adjust n≠n then (c.value db).map fun _ => x.request.adjust n
      else c.value db := by
    have hrest := statements_value x.request n c (x.besides.write db)
    rw [x.besides.keeps] at hrest
    exact hrest
  constructor
  · intro hc hn
    exact hvalue.trans (if_pos ⟨hc,hn⟩)
  · intro hkeep
    refine hvalue.trans (if_neg fun h => ?_)
    cases hkeep with
    | inl hc => exact hc h.1
    | inr hn => exact h.2 hn

section

variable {s : Session} {k : Id} {n : Int}

/-- What the services change in memory is what the flush sends, from the value read. -/
theorem addLoad_sends (h : (Counter.load k).value s.db=some n) : (addLoad k s).2.db=
    ((CounterRequest.provision k).statements n).foldl CounterStatement.execute s.db := by
  obtain ⟨x,hx,hn⟩ := Option.map_eq_some_iff.mp h
  have hrow : s.db.vpnServers.modify k (fun x => {x with currentLoad := x.currentLoad+1})
      (fun _ => rfl)=s.db.vpnServers.modify k (fun x => {x with currentLoad := n+1})
      fun _ => rfl := by
    apply Store.modify_at hx
    rw [hn]
  simp only [addLoad,alter_run,CounterRequest.statements,List.foldl_cons,List.foldl_nil,
    CounterStatement.execute,hrow]

theorem dropLoad_sends (h : (Counter.load k).value s.db=some n) : (dropLoad k s).2.db=
    ((CounterRequest.revoke k).statements n).foldl CounterStatement.execute s.db := by
  obtain ⟨x,hx,hn⟩ := Option.map_eq_some_iff.mp h
  simp only [dropLoad,alter_run,CounterRequest.statements]
  by_cases hsame : max 0 (n-1)=n
  · have hrow : s.db.vpnServers.modify k (fun x => {x with currentLoad := max 0 (x.currentLoad-1)})
        (fun _ => rfl)=s.db.vpnServers := by
      apply Store.modify_same
      intro y hy
      rw [hx] at hy
      cases hy
      show {x with currentLoad := max 0 (x.currentLoad-1)}=x
      rw [hn,hsame,← hn]
    rw [if_pos hsame,hrow]
    rfl
  · have hrow : s.db.vpnServers.modify k (fun x => {x with currentLoad := max 0 (x.currentLoad-1)})
        (fun _ => rfl)=s.db.vpnServers.modify k (fun x => {x with currentLoad := max 0 (n-1)})
        fun _ => rfl := by
      apply Store.modify_at hx
      rw [hn]
    rw [if_neg hsame,hrow]
    rfl

theorem recordAccess_sends {link : SubscriptionLink}
    (h : (Counter.accesses link.id).value s.db=some n) : (recordAccess link s).2.db=
    ((CounterRequest.fetch link.id s.now).statements n).foldl CounterStatement.execute s.db := by
  obtain ⟨x,hx,hn⟩ := Option.map_eq_some_iff.mp h
  have hrow : s.db.subscriptionLinks.modify link.id
      (fun l => {l with lastAccessedAt := some s.now,accessCount := l.accessCount+1})
      (fun _ => rfl)=s.db.subscriptionLinks.modify link.id
      (fun l => {l with lastAccessedAt := some s.now,accessCount := n+1}) fun _ => rfl := by
    apply Store.modify_at hx
    rw [hn]
  unfold recordAccess
  rw [getNow_bind_run]
  simp only [alter_run,CounterRequest.statements,List.foldl_cons,List.foldl_nil,
    CounterStatement.execute,hrow]

/-- The row a webhook inserts beside the counter. -/
def redemptionAside (r : PromoCodeRedemption) : Aside where
  write db := {db with promoCodeRedemptions := db.promoCodeRedemptions.insert r}
  keeps c db := by cases c <;> rfl

theorem redeemPromo_sends {payment : Payment} {promo : PromoCode}
    (h : (payment.promoCodeId.filter fun k => k≠0).bind s.db.promoCodes.get?=some promo) :
    (redeemPromo payment s).2.db=
      (.aside (redemptionAside (redeemed s.serial s.now promo payment))::
        (CounterRequest.webhook promo.id).statements promo.usedCount).foldl
        CounterStatement.execute s.db := by
  have hget : s.db.promoCodes.get? promo.id=some promo := by
    obtain ⟨k,_,hk⟩ := Option.bind_eq_some_iff.mp h
    have hid : promo.id=k := Store.key_of_get? hk
    rw [hid]
    exact hk
  have hrow : s.db.promoCodes.modify promo.id (fun p => {p with usedCount := p.usedCount+1})
      (fun _ => rfl)=s.db.promoCodes.modify promo.id
        (fun p => {p with usedCount := promo.usedCount+1}) fun _ => rfl :=
    Store.modify_at hget _ _ rfl
  unfold redeemPromo
  rw [getDb_bind_run,h]
  dsimp only
  rw [getNow_bind_run,nextSerial_bind_run]
  simp only [alter_run,hrow]
  rfl

end

/-- In every state of every interleaving all counters have what the committed requests added or
took, exactly if no request commits a change to a counter that is not any more what it has read. -/
theorem counters_lose_none_iff {ι : Type} [DecidableEq ι] [Fintype ι] (requests : ι → Counting)
    (db : Database) (schedule : List ι) :
    Throughout (Exact Counter.value (fun i => (requests i).adjustment) db)
        (counterTick Counter.value CounterStatement.execute fun i => (requests i).adjustment)
        (Workplace.opening db () .start) schedule ↔
      Conducted (Unsurpassed Counter.value fun i => (requests i).adjustment)
        (counterTick Counter.value CounterStatement.execute fun i => (requests i).adjustment)
        (Workplace.opening db () .start) schedule :=
  counters_exact_iff (fun i => (requests i).sets) db schedule

/-- What a request writes that has nothing to write besides. -/
def noAside : Aside := ⟨id,fun _ _ => rfl⟩

/-- Two devices are provisioned on server 4, and its load grows by one. -/
theorem counters_lose : ¬∀ (requests : Bool → Counting) (db : Database) (schedule : List Bool),
    let race := schedule.foldl
      (counterTick Counter.value CounterStatement.execute fun i => (requests i).adjustment)
      (Workplace.opening db () .start)
    (∀ i,(race.party i).place.committed=true) →
      Exact Counter.value (fun i => (requests i).adjustment) db race := by
  intro h
  let requests : Bool → Counting := fun _ => ⟨.provision 4,noAside,true,true⟩
  let race := [false,true,false,true,false,true].foldl
    (counterTick Counter.value CounterStatement.execute fun i => (requests i).adjustment)
    (Workplace.opening opened.db () .start)
  have hexact := h requests opened.db [false,true,false,true,false,true] (by decide +kernel)
    (.load 4)
  have hvalue : (Counter.load 4).value race.committed=some 2 := by decide +kernel
  have hsum : ((Counter.load 4).value opened.db).map
      (fun n => n+adjusted (fun i => (requests i).adjustment) race (.load 4))=some 3 := by
    decide +kernel
  have hclash : some (2 : Int)=some 3 := hvalue.symm.trans (hexact.trans hsum)
  cases hclash

end VpnService.Backend
