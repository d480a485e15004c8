import VpnService.Backend.Expiry

namespace VpnService.Backend

/-- The disable call of the device does not raise in this state. -/
def CanDisable (call : Device → Req Unit) (env : Env) (w : World) (d : Device) : Prop :=
  ∃ t,call d ⟨w,env⟩=(.ok (),t)

/-- All active devices of the owner of the subscription can be disabled. -/
def Yielding (call : Device → Req Unit) (env : Env) (w : World) (x : Subscription) : Prop :=
  ∀ d∈w.db.devices.rows,d.userId=x.userId → d.status=.active → CanDisable call env w d

def IsExpired (db : Database) (k : Id) : Prop :=
  ∃ y,db.subscriptions.get? k=some y ∧ y.status=.expired

/-- Whatever other devices do, a due subscription whose owner's active devices can all be disabled
is expired, and they are disabled. -/
def Isolated (call : Device → Req Unit) (env : Env) (t : Time) (w w' : World) : Prop :=
  ∀ x∈w.db.listExpired t,Yielding call env w x → IsExpired w'.db x.id ∧
    ∀ d∈w.db.devices.rows,d.userId=x.userId → d.status=.active →
      ∃ e,w'.db.devices.get? d.id=some e ∧ e.status=.disabled

/-- `run_once` with this disable call, which is aborted when it comes to the `stop`-th subscription
of its list. -/
def runUntil (call : Device → Req Unit) (stop : Option Nat) (asOf : Option Time) :
    Req (List Id) := do
  let now ← getNow
  let db ← getDb
  let expired := db.listExpired (asOf.getD now)
  Eff.each (processOneWith call) (expired.take (stop.getD expired.length))
  Eff.require (stop.all fun n => expired.length≤n) (internalError "CancelledError")
  pure (expired.map Subscription.id)

theorem runUntil_none (call : Device → Req Unit) (asOf : Option Time) :
    runUntil call none asOf=runOnceWith call asOf := by
  funext s
  unfold runUntil runOnceWith
  simp only [Option.getD_none,List.take_length,Option.all_none,Eff.require,if_true]
  rfl

/-- One run of the worker, with what becomes of its disable calls and where it is aborted. -/
structure SweepRun where
  call : Device → Req Unit
  env : Env
  asOf : Option Time
  stop : Option Nat

namespace SweepRun

def time (r : SweepRun) : Time := r.asOf.getD r.env.now

/-- Of its calls only disable calls fail, and always those of the same devices. -/
def Plausible (r : SweepRun) : Prop := r.env.outcomes=[] ∧ ∃ raises,Faulty raises r.call

def after (r : SweepRun) (w : World) : World :=
  (transaction (runUntil r.call r.stop r.asOf) r.env w).2

end SweepRun

/-- The subscriptions whose owners a run tells of their end: the first ones of its list. -/
def SweepRun.told (r : SweepRun) (w : World) : List Id :=
  ((w.db.listExpired r.time).take ((r.after w).notices.length-w.notices.length)).map
    Subscription.id

/-- A run, and whom all runs have told. -/
def announce (s : World×List Id) (r : SweepRun) : World×List Id :=
  (r.after s.1,s.2++r.told s.1)

/-- Only the owners of expired subscriptions were told, each once. -/
def Truthful (s : World×List Id) : Prop := (∀ k∈s.2,IsExpired s.1.db k) ∧ s.2.Nodup

/-- The run is stopped by nothing, or before its first subscription is dealt with. -/
def SweepRun.Steady (r : SweepRun) (w : World) : Prop :=
  ((r.stop.all fun n => (w.db.listExpired r.time).length≤n)=true ∧
    ∀ x∈w.db.listExpired r.time,Yielding r.call r.env w x) ∨
  ∀ x,(w.db.listExpired r.time).head?=some x → r.stop=some 0 ∨ ¬Yielding r.call r.env w x

/-- Changes that tell nobody and draw numbers only forward. -/
abbrev silentFrame : Frame Session := keeping fun s => s.notices

/-- Changes that draw numbers only forward. -/
abbrev forwardFrame : Frame Session := keeping fun _ => ()

theorem silent_books : Bookkeeping silentFrame :=
  ⟨fun _ => ⟨rfl,by simp⟩,fun _ _ => ⟨rfl,le_rfl⟩⟩

section

variable {raises : Id → Bool} {call : Device → Req Unit} {env : Env} {w : World} {s t : Session}

theorem Faulty.canDisable_iff (hc : Faulty raises call) (ho : env.outcomes=[]) {d : Device} :
    CanDisable call env w d ↔ raises d.id=false ∧ Ready w d := by
  constructor
  · rintro ⟨t,ht⟩
    obtain ⟨hr,hdis⟩ := hc.ok ht
    exact ⟨hr,disable_ready hdis⟩
  · rintro ⟨hr,hready⟩
    obtain ⟨t,ht,_⟩ := disable_completes (s := ⟨w,env⟩) ho hready
    exact ⟨t,by rw [hc.works d hr]; exact ht⟩

theorem Faulty.yielding_iff (hc : Faulty raises call) (ho : env.outcomes=[]) {x : Subscription} :
    Yielding call env w x ↔ Clear raises w x.userId := by
  unfold Yielding Clear
  simp only [hc.canDisable_iff ho]

theorem Faulty.silent (hc : Faulty raises call) (d : Device) : Within silentFrame (call d) := by
  cases hd : raises d.id with
  | true =>
    intro s
    obtain ⟨e,t,ht,hnotices,hserial⟩ := hc.fails d hd s
    unfold WithinAt
    rw [ht]
    exact ⟨hnotices,hserial⟩
  | false =>
    rw [hc.works d hd]
    exact (disable_desk d).mono fun h => ⟨(desk_rest h).2.1,h.2⟩

theorem audit_silent (adminId : Option Id) (action targetType : String) (targetId : Option Id)
    (metadata : List (String×String)) :
    Within silentFrame (recordAudit adminId action targetType targetId metadata) :=
  getNow_within.bind fun _ => (nextSerial_within silent_books).bind fun _ =>
    Within.bind (fun _ => ⟨rfl,le_rfl⟩) fun _ => flush_within silent_books

/-- The round that stops a sweep has told nobody. -/
theorem processOneWith_stops (hc : Faulty raises call) (hn : LogsNumbered s.toWorld)
    {x : Subscription} (hblocked : ¬Clear raises s.toWorld x.userId) :
    ∃ e t,processOneWith call x s=(.error e,t) ∧ t.notices=s.notices ∧ s.serial≤t.serial := by
  cases hrun : processOneWith call x s with
  | mk r t =>
    cases r with
    | ok a => exact absurd (processOneWith_swept hc hn hrun).2.1 hblocked
    | error e =>
      refine ⟨e,t,rfl,?_⟩
      unfold processOneWith at hrun
      rw [getDb_bind_run] at hrun
      rcases Eff.bind_error.mp hrun with hplan|⟨plan,u,hu,hrun₁⟩
      · exact ((Within.orRaise _ _ s : WithinAt silentFrame _ s).rel_of_run hplan)
      have hsu : silentFrame.rel s u := (Within.orRaise _ _ s : WithinAt silentFrame _ s).rel_of_run hu
      rcases Eff.bind_error.mp hrun₁ with huser|⟨user,v,hv,hrun₂⟩
      · exact silentFrame.trans hsu
          ((Within.orRaise _ _ u : WithinAt silentFrame _ u).rel_of_run huser)
      have huv : silentFrame.rel u v := (Within.orRaise _ _ u : WithinAt silentFrame _ u).rel_of_run hv
      have hsv := silentFrame.trans hsu huv
      have hexpire : Within silentFrame (expire x) := fun _ => ⟨rfl,le_rfl⟩
      have hall : Within silentFrame (disableAllForUserWith call x.userId) :=
        getDb_within.bind fun _ => Within.each fun d _ => Within.ite (hc.silent d) (Within.pure _)
      have haudit : Within silentFrame (recordAudit none "subscription.expired" "subscription"
          (some x.id) [("user_id",toString x.userId),("plan",plan.name)]) :=
        audit_silent _ _ _ _ _
      obtain ⟨_,a,ha,hrun₃⟩ := (Eff.bind_error.mp hrun₂).resolve_left fun h => by cases h
      have hsa := silentFrame.trans hsv ((hexpire v).rel_of_run ha)
      rcases Eff.bind_error.mp hrun₃ with hdisable|⟨_,b,hb,hrun₄⟩
      · exact silentFrame.trans hsa ((hall a).rel_of_run hdisable)
      have hsb := silentFrame.trans hsa ((hall a).rel_of_run hb)
      rcases Eff.bind_error.mp hrun₄ with hrecord|⟨_,c,_,hnotify⟩
      · exact silentFrame.trans hsb ((haudit b).rel_of_run hrecord)
      · cases hnotify

theorem Faulty.forward (hc : Faulty raises call) (stop : Option Nat) (asOf : Option Time) :
    Within forwardFrame (runUntil call stop asOf) := by
  have hcall : ∀ d,Within forwardFrame (call d) :=
    fun d => (hc.silent d).mono fun h => ⟨rfl,h.2⟩
  have hround : ∀ x,Within forwardFrame (processOneWith call x) := by
    intro x
    refine getDb_within.bind fun _ => (Within.orRaise _ _).bind fun plan =>
      (Within.orRaise _ _).bind fun user => Within.bind (fun _ => ⟨rfl,le_rfl⟩) fun _ => ?_
    refine Within.bind ?_ fun _ => Within.bind ?_ fun _ _ => ⟨rfl,le_rfl⟩
    · exact getDb_within.bind fun _ => Within.each fun d _ => Within.ite (hcall d) (Within.pure _)
    · exact (audit_silent _ _ _ _ _).mono fun h => ⟨rfl,h.2⟩
  exact getNow_within.bind fun _ => getDb_within.bind fun _ =>
    (Within.each fun x _ => hround x).bind fun _ => (Within.require _ _).bind fun _ => Within.pure _

/-- Up to a place in a list either all entries are good, or one comes first that is not. -/
theorem firstBad {α : Type} (good : α → Prop) (xs : List α) (n : Nat) :
    ((∀ x∈xs,good x) ∧ xs.length≤n) ∨ ∃ pre x post,xs=pre++x::post ∧ (∀ y∈pre,good y) ∧
      pre.length≤n ∧ (pre.length=n ∨ ¬good x) := by
  induction xs generalizing n with
  | nil => exact Or.inl ⟨fun x hx => absurd hx List.not_mem_nil,Nat.zero_le n⟩
  | cons x xs ih =>
    by_cases hx : good x
    · cases n with
      | zero => exact Or.inr ⟨[],x,xs,rfl,fun y hy => absurd hy List.not_mem_nil,le_rfl,Or.inl rfl⟩
      | succ n =>
        rcases ih n with ⟨hall,hlen⟩|⟨pre,y,post,hxs,hpre,hlen,hy⟩
        · refine Or.inl ⟨fun y hy => ?_,Nat.succ_le_succ hlen⟩
          rcases List.mem_cons.mp hy with hy|hy
          · exact hy ▸ hx
          · exact hall y hy
        · refine Or.inr ⟨x::pre,y,post,by rw [hxs]; rfl,fun z hz => ?_,Nat.succ_le_succ hlen,
            hy.imp (congrArg Nat.succ) id⟩
          rcases List.mem_cons.mp hz with hz|hz
          · exact hz ▸ hx
          · exact hpre z hz
    · exact Or.inr ⟨[],x,xs,rfl,fun y hy => absurd hy List.not_mem_nil,Nat.zero_le n,Or.inr hx⟩

theorem processEach_stops (hc : Faulty raises call) (hn : LogsNumbered s.toWorld)
    (ho : s.outcomes=[]) {pre : List Subscription} (post : List Subscription) {x : Subscription}
    (hnamed : ∀ y∈pre,Named s.db y) (hpre : ∀ y∈pre,Clear raises s.toWorld y.userId)
    (hx : ¬Clear raises s.toWorld x.userId) :
    ∃ e t v,Eff.each (processOneWith call) (pre++x::post) s=(.error e,t) ∧ Swept pre s v ∧
      t.notices=v.notices := by
  obtain ⟨v,hv,_⟩ := processEach_completes hc hn ho hnamed hpre
  obtain ⟨hswept,_⟩ := processEach_swept hc hn hv
  have hblocked : ¬Clear raises v.toWorld x.userId := fun h => hx ((hswept.clear_of hpre).mp h)
  obtain ⟨e,t,ht,hnotices,_⟩ := processOneWith_stops hc hswept.numbered hblocked
  refine ⟨e,t,v,?_,hswept,hnotices⟩
  rw [Eff.each_append,Eff.bind_run_ok hv]
  exact Eff.bind_run_error ht

/-- A run either sweeps all that is due, or it is stopped and only the notices about those before
remain. -/
theorem runUntil_cases (hw : Keyed w) (hc : Faulty raises call) (ho : env.outcomes=[])
    (stop : Option Nat) (asOf : Option Time) {due : List Subscription}
    (hdue : w.db.listExpired (asOf.getD env.now)=due) :
    ((stop.all fun n => due.length≤n)=true ∧ (∀ x∈due,Clear raises w x.userId) ∧
      ∃ a s,transaction (runUntil call stop asOf) env w=(.ok a,s.toWorld) ∧
        Swept due ⟨w,env⟩ s ∧ w.serial≤ s.serial) ∨
    ∃ pre x post,due=pre++x::post ∧ (∀ y∈pre,Clear raises w y.userId) ∧
      (stop.all fun n => pre.length≤n)=true ∧ (stop=some pre.length ∨ ¬Clear raises w x.userId) ∧
      ∃ e,∃ s v : Session,
        transaction (runUntil call stop asOf) env w=(.error e,{s.toWorld with db := w.db}) ∧
        Swept pre ⟨w,env⟩ v ∧ s.notices=v.notices ∧ w.serial≤ s.serial := by
  have hnamed : ∀ x∈due,Named w.db x := fun x hx => hw.named (hdue ▸ hx)
  have hserial : ∀ {r s},runUntil call stop asOf ⟨w,env⟩=(r,s) → w.serial≤ s.serial :=
    fun h => ((hc.forward _ _ _).rel_of_run h).2
  have hstart : runUntil call stop asOf ⟨w,env⟩=
      (Eff.each (processOneWith call) (due.take (stop.getD due.length)) >>= fun _ =>
        Eff.require (stop.all fun n => due.length≤n) (internalError "CancelledError") >>= fun _ =>
        pure (due.map Subscription.id)) ⟨w,env⟩ := by
    rw [← hdue]
    rfl
  rcases firstBad (fun x => Clear raises w x.userId) due (stop.getD due.length) with
    ⟨hall,hlen⟩|⟨pre,x,post,hsplit,hpre,hlen,hx⟩
  · left
    have hstop : (stop.all fun n => due.length≤n)=true := by
      cases stop with
      | none => rfl
      | some n => simpa using hlen
    obtain ⟨v,hv,hvo⟩ := processEach_completes (s := ⟨w,env⟩) hc hw.logs ho hnamed hall
    obtain ⟨hswept,_⟩ := processEach_swept hc hw.logs hv
    have hrun : runUntil call stop asOf ⟨w,env⟩=(.ok (due.map Subscription.id),v) := by
      rw [hstart,List.take_of_length_le hlen,Eff.bind_run_ok hv,hstop]
      rfl
    refine ⟨hstop,hall,due.map Subscription.id,v,?_,hswept,hserial hrun⟩
    unfold transaction
    rw [Eff.bind_run_ok hrun,Eff.bind_run_ok (flush_calm hvo)]
    rfl
  · right
    have hnamed' : ∀ y∈pre,Named w.db y := by
      intro y hy
      apply hnamed y
      rw [hsplit]
      exact List.mem_append_left _ hy
    have hfails : ∀ {e t},runUntil call stop asOf ⟨w,env⟩=(.error e,t) →
        transaction (runUntil call stop asOf) env w=(.error e,{t.toWorld with db := w.db}) := by
      intro e t hrun
      unfold transaction
      rw [Eff.bind_run_error hrun]
    have hstop : (stop.all fun n => pre.length≤n)=true := by
      cases stop with
      | none => rfl
      | some n => simpa using hlen
    have hlonger : pre.length<due.length := by
      rw [hsplit]
      simp
    by_cases hat : pre.length=stop.getD due.length
    · have hsome : stop=some pre.length := by
        cases stop with
        | none =>
          rw [Option.getD_none] at hat
          omega
        | some n =>
          rw [Option.getD_some] at hat
          rw [hat]
      obtain ⟨v,hv,_⟩ := processEach_completes (s := ⟨w,env⟩) hc hw.logs ho hnamed' hpre
      obtain ⟨hswept,_⟩ := processEach_swept hc hw.logs hv
      have hrun : runUntil call stop asOf ⟨w,env⟩=(.error (internalError "CancelledError"),v) := by
        have htake : due.take (stop.getD due.length)=pre := by
          rw [← hat,hsplit,List.take_left']
          rfl
        have hno : (stop.all fun n => due.length≤n)=false := by
          rw [hsome]
          simpa using hlonger
        rw [hstart,htake,Eff.bind_run_ok hv,hno]
        rfl
      exact ⟨pre,x,post,hsplit,hpre,hstop,Or.inl hsome,_,v,v,hfails hrun,hswept,rfl,hserial hrun⟩
    · have hblocked := hx.resolve_left hat
      have htake : due.take (stop.getD due.length)=
          pre++x::post.take (stop.getD due.length-pre.length-1) := by
        obtain ⟨m,hm⟩ : ∃ m,stop.getD due.length=pre.length+(m+1) :=
          ⟨stop.getD due.length-pre.length-1,by omega⟩
        rw [hm,hsplit,List.take_length_add_append,List.take_succ_cons]
        congr 3
        omega
      obtain ⟨e,t,v,ht,hswept,hnotices⟩ := processEach_stops (s := ⟨w,env⟩) hc hw.logs ho
        (post.take (stop.getD due.length-pre.length-1)) hnamed' hpre hblocked
      have hrun : runUntil call stop asOf ⟨w,env⟩=(.error e,t) := by
        rw [hstart,htake]
        exact Eff.bind_run_error ht
      exact ⟨pre,x,post,hsplit,hpre,hstop,Or.inr hblocked,e,t,v,hfails hrun,hswept,hnotices,
        hserial hrun⟩

theorem due_active {db : Database} {at' : Time} {x : Subscription} (h : x∈db.listExpired at') :
    db.subscriptions.get? x.id=some x ∧ x.status=.active := by
  obtain ⟨hmem,hdue⟩ := List.mem_filter.mp h
  refine ⟨db.subscriptions.get?_of_mem hmem,?_⟩
  unfold Database.isDue at hdue
  simpa using (Bool.and_eq_true_iff.mp hdue).1

theorem due_not_expired {db : Database} {at' : Time} {x : Subscription}
    (h : x∈db.listExpired at') : ¬IsExpired db x.id := by
  rintro ⟨y,hy,hexpired⟩
  obtain ⟨hx,hact⟩ := due_active h
  rw [hx] at hy
  cases hy
  rw [hact] at hexpired
  cases hexpired

theorem Swept.expired {xs : List Subscription} (h : Swept xs s t) {x : Subscription} (hx : x∈xs)
    (hget : s.db.subscriptions.get? x.id=some x) : IsExpired t.db x.id := by
  refine ⟨expiredAmong xs x,?_,?_⟩
  · rw [h.subscriptions,Store.get?_mapRows,hget]
    rfl
  · have hany : (xs.any fun y => y.id=x.id)=true := by
      rw [List.any_eq_true]
      exact ⟨x,hx,by simp⟩
    unfold expiredAmong
    rw [if_pos hany]

/-- A sweep leaves an expired subscription expired. -/
theorem Swept.stays_expired {xs : List Subscription} (h : Swept xs s t) {k : Id}
    (hk : IsExpired s.db k) : IsExpired t.db k := by
  obtain ⟨y,hy,hexpired⟩ := hk
  refine ⟨expiredAmong xs y,?_,?_⟩
  · rw [h.subscriptions,Store.get?_mapRows,hy]
    rfl
  · unfold expiredAmong
    split_ifs
    · rfl
    · exact hexpired

theorem Swept.disabled {xs : List Subscription} (h : Swept xs s t) {x : Subscription} (hx : x∈xs)
    {d : Device} (hd : d∈s.db.devices.rows) (huser : d.userId=x.userId) (hact : d.status=.active) :
    ∃ e,t.db.devices.get? d.id=some e ∧ e.status=.disabled := by
  have hget := s.db.devices.get?_of_mem hd
  have howned : s.db.ownedBy xs d.id=true := by
    unfold Database.ownedBy
    rw [hget,Option.any_some,Bool.and_eq_true,List.any_eq_true]
    exact ⟨by simpa using hact,x,hx,by simpa using huser.symm⟩
  refine ⟨disabledIn (s.db.ownedBy xs) d,?_,?_⟩
  · rw [h.off.get?,hget,Option.map_some]
  · unfold disabledIn
    rw [howned,if_pos rfl]

/-- A sweep spares nobody from what stands in its way: each due subscription is dealt with
whatever other devices do just when the devices of all due subscriptions can be disabled, or
those of none. -/
theorem sweep_isolates_iff (hw : Keyed w) (hc : Faulty raises call) (ho : env.outcomes=[])
    (asOf : Option Time) :
    Isolated call env (asOf.getD env.now) w (transaction (runOnceWith call asOf) env w).2 ↔
      (∀ x∈w.db.listExpired (asOf.getD env.now),Yielding call env w x) ∨
        ∀ x∈w.db.listExpired (asOf.getD env.now),¬Yielding call env w x := by
  rw [← runUntil_none]
  generalize hdue : w.db.listExpired (asOf.getD env.now)=due
  rcases runUntil_cases hw hc ho none asOf hdue with
    ⟨_,hclear,_,s,hrun,hswept,_⟩|⟨pre,x,post,hsplit,_,_,hx,_,s,_,hrun,_⟩
  · rw [hrun]
    refine iff_of_true (fun x hx _ => ?_) (Or.inl fun x hx => (hc.yielding_iff ho).mpr (hclear x hx))
    rw [hdue] at hx
    have hget := (due_active (hdue ▸ hx)).1
    exact ⟨hswept.expired hx hget,fun d hd huser hact => hswept.disabled hx hd huser hact⟩
  · rw [hrun]
    have hblocked : ¬Yielding call env w x := by
      rw [hc.yielding_iff ho]
      exact hx.resolve_left fun h => by cases h
    constructor
    · intro hall
      right
      intro y hy hyield
      have hdone := (hall y (hdue ▸ hy) hyield).1
      exact due_not_expired (hdue ▸ hy) hdone
    · intro hcond y hy hyield
      rw [hdue] at hy
      rcases hcond with hall|hnone
      · refine absurd (hall x ?_) hblocked
        rw [hsplit]
        simp
      · exact absurd hyield (hnone y hy)

theorem Swept.length_notices {xs : List Subscription} (h : Swept xs s t) :
    t.notices.length=s.notices.length+xs.length := by
  obtain ⟨ns,hns,hmap⟩ := h.notices
  have hlen := congrArg List.length hmap
  rw [List.length_map,List.length_map] at hlen
  rw [hns,List.length_append,hlen]

theorem Swept.keyed {xs : List Subscription} (h : Swept xs s t) (hw : Keyed s.toWorld) :
    Keyed t.toWorld where
  plans x hx := by
    rw [h.subscriptions] at hx
    obtain ⟨y,hy,he⟩ := List.mem_map.mp hx
    rw [h.plans]
    have hplan := hw.plans y hy
    subst he
    unfold expiredAmong
    split_ifs <;> exact hplan
  users x hx := by
    rw [h.subscriptions] at hx
    obtain ⟨y,hy,he⟩ := List.mem_map.mp hx
    rw [h.users]
    have huser := hw.users y hy
    subst he
    unfold expiredAmong
    split_ifs <;> exact huser
  servers d hd k hk := by
    rw [h.off.devices] at hd
    obtain ⟨e,he,hde⟩ := List.mem_map.mp hd
    rw [h.off.servers]
    subst hde
    rw [disabledIn_serverId] at hk
    exact hw.servers e he k hk
  credentials c hc := by
    rw [h.off.credentials] at hc
    obtain ⟨b,hb,he⟩ := List.mem_map.mp hc
    rw [h.off.servers]
    have hserver := hw.credentials b hb
    subst he
    unfold disabledAmong
    split_ifs <;> exact hserver
  logs := h.numbered

/-- What a run does to the tables and the keys: it keeps both. -/
theorem SweepRun.after_keyed (r : SweepRun) (h : r.Plausible) (hw : Keyed w) :
    Keyed (r.after w) := by
  obtain ⟨ho,raises,hc⟩ := h
  unfold SweepRun.after
  rcases runUntil_cases hw hc ho r.stop r.asOf rfl with
    ⟨_,_,_,s,hrun,hswept,_⟩|⟨_,_,_,_,_,_,_,_,s,_,hrun,_,_,hserial⟩
  · rw [hrun]
    exact hswept.keyed hw
  · rw [hrun]
    have hserial' : (w.serial : Int)≤ s.serial := hserial
    exact ⟨hw.plans,hw.users,hw.servers,hw.credentials,
      fun a ha => Int.lt_of_lt_of_le (hw.logs a ha) hserial'⟩

/-- After a run the notices are true just when nothing stops it or it stops before the first. -/
theorem announce_truthful_iff {st : World×List Id} {r : SweepRun} (h : r.Plausible)
    (hw : Keyed st.1) (htrue : Truthful st) : Truthful (announce st r) ↔ r.Steady st.1 := by
  obtain ⟨w,told⟩ := st
  have hw : Keyed w := hw
  obtain ⟨hexpired,hnodup⟩ := htrue
  obtain ⟨ho,raises,hc⟩ := h
  have hids : ((w.db.listExpired r.time).map Subscription.id).Nodup :=
    w.db.subscriptions.nodup.sublist (List.filter_sublist.map _)
  have hyield : ∀ {x},Yielding r.call r.env w x ↔ Clear raises w x.userId := hc.yielding_iff ho
  unfold Truthful announce SweepRun.Steady SweepRun.told SweepRun.after
  rcases runUntil_cases hw hc ho r.stop r.asOf rfl with
    ⟨hstop,hclear,_,s,hrun,hswept,_⟩|⟨pre,x,post,hsplit,hpre,hlen,hx,_,s,v,hrun,hswept,hnotices,_⟩
  · have hsame : s.notices.length-w.notices.length=(w.db.listExpired r.time).length := by
      rw [hswept.length_notices]
      exact Nat.add_sub_cancel_left _ _
    simp only [hrun,hsame,List.take_length]
    refine iff_of_true ⟨fun k hk => ?_,?_⟩ (Or.inl ⟨hstop,fun x hx => hyield.mpr (hclear x hx)⟩)
    · rcases List.mem_append.mp hk with hold|hnew
      · exact hswept.stays_expired (hexpired k hold)
      · obtain ⟨x,hx,hxk⟩ := List.mem_map.mp hnew
        subst hxk
        exact hswept.expired hx (due_active hx).1
    · rw [List.nodup_append']
      refine ⟨hnodup,hids,?_⟩
      intro k hold hnew
      obtain ⟨x,hx,hxk⟩ := List.mem_map.mp hnew
      exact due_not_expired hx (hxk ▸ hexpired k hold)
  · have hsplit : w.db.listExpired r.time=pre++x::post := hsplit
    have hsame : s.notices.length-w.notices.length=pre.length := by
      rw [hnotices,hswept.length_notices]
      exact Nat.add_sub_cancel_left _ _
    have htake : (pre++x::post).take pre.length=pre := List.take_left' rfl
    simp only [hrun,hsplit,hsame,htake]
    cases pre with
    | nil =>
      rw [List.map_nil,List.append_nil]
      refine iff_of_true ⟨hexpired,hnodup⟩ (Or.inr fun y hy => ?_)
      cases hy
      exact hx.imp id fun hblocked => mt hyield.mp hblocked
    | cons y ys =>
      have hy : y∈w.db.listExpired r.time := by
        rw [hsplit]
        exact List.mem_append_left _ List.mem_cons_self
      refine iff_of_false (fun htold => ?_) fun hsteady => ?_
      · refine due_not_expired hy (htold.1 y.id ?_)
        simp
      · rcases hsteady with ⟨hall,hyields⟩|hfirst
        · rcases hx with hstop|hblocked
          · rw [hstop] at hall
            have hall : ((y::ys)++x::post).length≤(y::ys).length := by
              simpa only [Option.all_some,decide_eq_true_eq] using hall
            simp at hall
          · exact hblocked (hyield.mp (hyields x (by simp)))
        · rcases hfirst y rfl with hstop|hblocked
          · rw [hstop] at hlen
            simp at hlen
          · exact hblocked (hyield.mpr (hpre y List.mem_cons_self))

/-- Through any sequence of runs the notices match the committed expiries just when each run is
stopped by nothing or before its first subscription. -/
theorem notices_truthful_iff (hw : Keyed w) (rs : List SweepRun) (h : ∀ r∈rs,r.Plausible) :
    Throughout Truthful announce (w,[]) rs ↔
      Conducted (fun st r => r.Steady st.1) announce (w,[]) rs := by
  have hsensible : ∀ st : World×List Id,Conducted (fun _ r => r.Plausible) announce st rs := by
    induction rs with
    | nil => exact fun _ => trivial
    | cons r rs ih =>
      exact fun st => ⟨h r List.mem_cons_self,ih (fun r hr => h r (List.mem_cons_of_mem _ hr)) _⟩
  have hkeyed : Conducted (fun st r => Keyed st.1 ∧ r.Plausible) announce (w,[]) rs :=
    Conducted.with_invariant (fun _ r hst hr => r.after_keyed hr hst) _ rs hw (hsensible _)
  exact throughout_iff (fun st r hst hr => announce_truthful_iff hr.2 hr.1 hst) _ rs
    ⟨fun k hk => (List.not_mem_nil hk).elim,List.nodup_nil⟩ hkeyed

end

/-- User 2 buys the plan too and has a device on a second server, which is then deleted. -/
def stranding : List Call := [
  calm 3 (.billing (.authenticateTelegram ⟨78,none,none,none,none⟩)),
  calm 3 (.servers (.createServer 1 {sampleServer with agentBaseUrl := "http://second"})),
  calm 3 (.servers (.updateServer 1 19 ⟨some .online,none,none⟩)),
  calm 3 (.billing (.createPayment 78 2 none)),
  calm 4 (delivery 24 .succeeded),
  calm 5 (.createDevice 78 "laptop" (some 19) .wireguard),
  calm 6 (.servers (.deleteServer 1 19))]

def stranded : World := stranding.foldl (after sampleSettings) opened

theorem stranded_keyed : Keyed stranded := by
  have hreach : Reachable sampleSettings stranded := opened_reachable.run stranding
  exact {
    plans := (reachable_ledger hreach).plans
    users := (reachable_ledger hreach).users
    servers := (reachable_sound hreach).consistent.deviceServers
    credentials := (reachable_sound hreach).consistent.credentialServers
    logs := by
      show ∀ a∈stranded.db.auditLogs.rows,a.id<stranded.serial
      decide +kernel }

theorem sweep_isolates_iff_stranded :
    Isolated disable (quiet (days 31)) (days 31) stranded
      (transaction (runOnceWith disable none) (quiet (days 31)) stranded).2 ↔
    (∀ x∈stranded.db.listExpired (days 31),Yielding disable (quiet (days 31)) stranded x) ∨
      ∀ x∈stranded.db.listExpired (days 31),¬Yielding disable (quiet (days 31)) stranded x :=
  sweep_isolates_iff stranded_keyed faulty_disable rfl none

/-- The broken device of user 2 keeps the sweep from the subscription of user 1. -/
theorem sweep_not_isolated : ¬Isolated disable (quiet (days 31)) (days 31) stranded
    (transaction (runOnceWith disable none) (quiet (days 31)) stranded).2 := by
  intro h
  have hdue : ∃ x∈stranded.db.listExpired (days 31),x.id=8 ∧ x.userId=1 := by decide +kernel
  obtain ⟨x,hx,hid,huser⟩ := hdue
  have hdisables : ∀ d∈stranded.db.devices.rows,d.userId=1 → d.status=.active →
      (disable d ⟨stranded,quiet (days 31)⟩).1.isOk=true := by decide +kernel
  have hyield : Yielding disable (quiet (days 31)) stranded x := by
    intro d hd hdu hact
    have hok := hdisables d hd (hdu.trans huser) hact
    cases hrun : disable d ⟨stranded,quiet (days 31)⟩ with
    | mk r t =>
      rw [hrun] at hok
      cases r with
      | ok u => exact ⟨t,hrun⟩
      | error e => cases hok
  obtain ⟨⟨y,hy,hexpired⟩,_⟩ := h x hx hyield
  have hkept : ((transaction (runOnceWith disable none) (quiet (days 31)) stranded).2.db
      |>.subscriptions.get? 8).all (fun y => y.status≠.expired)=true := by decide +kernel
  rw [hid] at hy
  rw [hy] at hkept
  simp [hexpired] at hkept

theorem notices_truthful_iff_stranded :
    Throughout Truthful announce (stranded,[]) [⟨disable,quiet (days 31),none,none⟩] ↔
      Conducted (fun st r => r.Steady st.1) announce (stranded,[])
        [⟨disable,quiet (days 31),none,none⟩] :=
  notices_truthful_iff stranded_keyed _ fun r hr => by
    rw [List.mem_singleton.mp hr]
    exact ⟨rfl,_,faulty_disable⟩

/-- Two runs tell user 1 of the same end, which neither commits. -/
theorem notices_untruthful : ¬Throughout Truthful announce (stranded,[])
    [⟨disable,quiet (days 31),none,none⟩,⟨disable,quiet (days 32),none,none⟩] := by
  rintro ⟨_,_,⟨_,hnodup⟩⟩
  have htwice : (announce (announce (stranded,[]) ⟨disable,quiet (days 31),none,none⟩)
      ⟨disable,quiet (days 32),none,none⟩).2=[8,8] := by decide +kernel
  rw [htwice] at hnodup
  simp at hnodup

end VpnService.Backend
