import VpnService.Backend.Disabling
import VpnService.Backend.Sweeps

namespace VpnService.Backend

open Agent

/-- The disable call of a device in `raises` raises, telling nobody; that of any other device is
`disable`. -/
structure Faulty (raises : Id → Bool) (call : Device → Req Unit) : Prop where
  fails : ∀ d,raises d.id=true → ∀ s,∃ e t,call d s=(.error e,t) ∧ t.notices=s.notices ∧
    s.serial≤t.serial
  works : ∀ d,raises d.id=false → call d=disable d

section

variable (call : Device → Req Unit)

def disableIfActiveWith (device : Device) : Req Unit :=
  if device.status=.active then call device else pure ()

def disableAllForUserWith (userId : Id) : Req Unit := do
  let db ← getDb
  Eff.each (disableIfActiveWith call) (db.devicesOf userId)

def processOneWith (subscription : Subscription) : Req Unit := do
  let db ← getDb
  let plan ← Eff.orRaise (internalError "AttributeError") (db.plans.get? subscription.planId)
  let user ← Eff.orRaise (internalError "AttributeError") (db.users.get? subscription.userId)
  expire subscription
  disableAllForUserWith call subscription.userId
  recordAudit none "subscription.expired" "subscription" (some subscription.id)
    [("user_id",toString subscription.userId),("plan",plan.name)]
  notify user.telegramId plan.name

/-- `run_once` with this disable call. -/
def runOnceWith (asOf : Option Time) : Req (List Id) := do
  let now ← getNow
  let db ← getDb
  let expired := db.listExpired (asOf.getD now)
  Eff.each (processOneWith call) expired
  pure (expired.map Subscription.id)

end

theorem faulty_disable : Faulty (fun _ => false) disable where
  fails _ h := by cases h
  works _ _ := rfl

/-- The active devices of the owners of `xs`. -/
def Database.ownedBy (db : Database) (xs : List Subscription) (k : Id) : Bool :=
  (db.devices.get? k).any fun d => d.status=.active && xs.any fun x => x.userId=d.userId

def expiredAmong (xs : List Subscription) (y : Subscription) : Subscription :=
  if xs.any fun x => x.id=y.id then {y with status := .expired} else y

theorem expiredAmong_id (xs : List Subscription) (y : Subscription) :
    (expiredAmong xs y).id=y.id := by
  unfold expiredAmong
  split_ifs <;> rfl

/-- The notice about a subscription. -/
def noticeOf (db : Database) (x : Subscription) : Option Notice := do
  let plan ← db.plans.get? x.planId
  let user ← db.users.get? x.userId
  pure ⟨user.telegramId,plan.name⟩

/-- The audit record about a subscription, but for its number. -/
def auditOf (db : Database) (now : Time) (x : Subscription) : Option AuditLog :=
  (db.plans.get? x.planId).map fun plan => {
    id := 0
    adminId := none
    action := "subscription.expired"
    targetType := "subscription"
    targetId := some x.id
    metadata := [("user_id",toString x.userId),("plan",plan.name)]
    createdAt := now }

def AuditLog.unnumbered (a : AuditLog) : AuditLog := {a with id := 0}

def LogsNumbered (w : World) : Prop := ∀ a∈w.db.auditLogs.rows,a.id<w.serial

/-- The subscriptions `xs` are expired, their owners' active devices are off, each is recorded and
announced once, and nothing else happened. -/
structure Swept (xs : List Subscription) (s t : Session) : Prop where
  rest : t.db={s.db with
    subscriptions := t.db.subscriptions
    devices := t.db.devices
    vlessCredentials := t.db.vlessCredentials
    auditLogs := t.db.auditLogs}
  now : t.now=s.now
  numbered : LogsNumbered t.toWorld
  off : DevicesOff (s.db.ownedBy xs) s t
  subscriptions : t.db.subscriptions=
    s.db.subscriptions.mapRows (expiredAmong xs) (expiredAmong_id xs)
  logs : ∃ logs,t.db.auditLogs.rows=s.db.auditLogs.rows++logs ∧
    logs.map (fun a => some a.unnumbered)=xs.map (auditOf s.db s.now)
  notices : ∃ ns,t.notices=s.notices++ns ∧ ns.map some=xs.map (noticeOf s.db)

section

variable {raises : Id → Bool} {call : Device → Req Unit} {s t u : Session}

theorem Faulty.ok (h : Faulty raises call) {d : Device} (hrun : call d s=(.ok (),t)) :
    raises d.id=false ∧ disable d s=(.ok (),t) := by
  cases hd : raises d.id with
  | true =>
    obtain ⟨e,v,hv,_⟩ := h.fails d hd s
    rw [hrun] at hv
    cases hv
  | false => exact ⟨rfl,by rw [← h.works d hd]; exact hrun⟩

theorem disableEach_off (hc : Faulty raises call) {D : Id → Bool} {ds : List Device}
    (hoff : DevicesOff D s t) (hrows : ∀ d∈ds,s.db.devices.get? d.id=some d)
    (hnodup : (ds.map Device.id).Nodup) (hD : ∀ d∈ds,D d.id=false)
    (hrun : Eff.each (disableIfActiveWith call) ds t=(.ok (),u)) :
    DevicesOff (fun k => D k || ds.any fun d => d.status=.active && d.id=k) s u ∧
      deskFrame.rel t u ∧
      ∀ d∈ds,d.status=.active → raises d.id=false ∧ Ready s.toWorld d := by
  induction ds generalizing D t with
  | nil =>
    cases hrun
    exact ⟨by simpa using hoff,deskFrame.refl _,fun d hd => by cases hd⟩
  | cons d ds ih =>
    obtain ⟨hnotin,hnodup'⟩ := List.nodup_cons.mp hnodup
    obtain ⟨_,v,hv,hrest⟩ := Eff.bind_ok.mp hrun
    have hrows' : ∀ x∈ds,s.db.devices.get? x.id=some x :=
      fun x hx => hrows x (List.mem_cons_of_mem d hx)
    unfold disableIfActiveWith at hv
    by_cases hact : d.status=.active
    · rw [if_pos hact] at hv
      obtain ⟨hraises,hdis⟩ := hc.ok hv
      have hDd := hD d List.mem_cons_self
      have hrow : t.db.devices.get? d.id=some d := by
        rw [hoff.get?,hrows d List.mem_cons_self]
        simp [disabledIn,hDd]
      have hready := (hoff.ready_iff hDd).mp (disable_ready hdis)
      have hnext := hoff.trans (disable_off hrow hdis) fun k hk => by
        have hk : k=d.id := by simpa using hk
        rw [hk]
        exact hDd
      have hD' : ∀ x∈ds,(D x.id || decide (x.id=d.id))=false := by
        intro x hx
        have hne : x.id≠d.id := fun he => hnotin (List.mem_map.mpr ⟨x,hx,he⟩)
        simp [hD x (List.mem_cons_of_mem d hx),hne]
      obtain ⟨hall,hdesk,hothers⟩ := ih hnext hrows' hnodup' hD' hrest
      refine ⟨?_,deskFrame.trans ((disable_desk d t).rel_of_run hdis) hdesk,fun x hx hxact => ?_⟩
      · have hset : (fun k => D k || (d::ds).any fun x => x.status=.active && x.id=k)=
            fun k => (D k || decide (k=d.id)) || ds.any fun x => x.status=.active && x.id=k := by
          funext k
          by_cases hk : k=d.id
          · simp [hact,hk]
          · simp [hact,hk,Ne.symm hk]
        rw [hset]
        exact hall
      · rcases List.mem_cons.mp hx with hx|hx
        · subst hx
          exact ⟨hraises,hready⟩
        · exact hothers x hx hxact
    · rw [if_neg hact] at hv
      cases hv
      obtain ⟨hall,hdesk,hothers⟩ := ih hoff hrows' hnodup'
        (fun x hx => hD x (List.mem_cons_of_mem d hx)) hrest
      refine ⟨by simpa [hact] using hall,hdesk,fun x hx hxact => ?_⟩
      rcases List.mem_cons.mp hx with hx|hx
      · exact absurd (hx ▸ hxact) hact
      · exact hothers x hx hxact

theorem devicesOf_rows (db : Database) (userId : Id) :
    (∀ d∈db.devicesOf userId,db.devices.get? d.id=some d) ∧
      ((db.devicesOf userId).map Device.id).Nodup := by
  constructor
  · intro d hd
    exact db.devices.get?_of_mem (db.mem_devicesOf.mp hd).1
  · exact db.devices.nodup.sublist (List.filter_sublist.map _)

theorem disableAll_off (hc : Faulty raises call) {x : Subscription}
    (hrun : disableAllForUserWith call x.userId s=(.ok (),t)) :
    DevicesOff (s.db.ownedBy [x]) s t ∧ deskFrame.rel s t ∧
      ∀ d∈s.db.devices.rows,d.userId=x.userId → d.status=.active →
        raises d.id=false ∧ Ready s.toWorld d := by
  unfold disableAllForUserWith at hrun
  rw [getDb_bind_run] at hrun
  obtain ⟨hrows,hnodup⟩ := devicesOf_rows s.db x.userId
  obtain ⟨hoff,hdesk,hall⟩ :=
    disableEach_off hc (DevicesOff.none s) hrows hnodup (fun _ _ => rfl) hrun
  have hmem : ∀ d∈s.db.devices.rows,d.userId=x.userId → d.status=.active →
      d∈s.db.devicesOf x.userId := by
    intro d hd huser hact
    apply s.db.mem_devicesOf.mpr
    refine ⟨hd,huser,?_⟩
    rw [hact]
    decide
  refine ⟨?_,hdesk,fun d hd huser hact => hall d (hmem d hd huser hact) hact⟩
  have hset : s.db.ownedBy [x]=fun k => false || (s.db.devicesOf x.userId).any fun d =>
      d.status=.active && d.id=k := by
    funext k
    rw [Bool.false_or,Bool.eq_iff_iff,List.any_eq_true]
    unfold Database.ownedBy
    rw [Option.any_eq_true]
    constructor
    · rintro ⟨d,hd,hq⟩
      have hid : d.id=k := Store.key_of_get? hd
      have hq : d.status=.active ∧ x.userId=d.userId := by simpa using hq
      exact ⟨d,hmem d (Store.mem_of_get? hd) hq.2.symm hq.1,by simp [hq.1,hid]⟩
    · rintro ⟨d,hd,hq⟩
      have hq : d.status=.active ∧ d.id=k := by simpa using hq
      obtain ⟨hrow,huser,_⟩ := s.db.mem_devicesOf.mp hd
      refine ⟨d,by rw [← hq.2]; exact s.db.devices.get?_of_mem hrow,?_⟩
      simp [hq.1,huser]
  rw [hset]
  exact hoff

def auditRow (s : Session) (adminId : Option Id) (action targetType : String)
    (targetId : Option Id) (metadata : List (String×String)) : AuditLog :=
  ⟨s.serial,adminId,action,targetType,targetId,metadata,s.now⟩

theorem audit_ok {adminId : Option Id} {action targetType : String} {targetId : Option Id}
    {metadata : List (String×String)}
    (h : recordAudit adminId action targetType targetId metadata s=(.ok (),t)) :
    ∃ os,t={s with
      db := {s.db with auditLogs :=
        s.db.auditLogs.insert (auditRow s adminId action targetType targetId metadata)}
      serial := s.serial+1
      outcomes := os} := by
  unfold recordAudit at h
  rw [getNow_bind_run,nextSerial_bind_run,alter_bind_run] at h
  obtain ⟨os,hos⟩ := flush_ok h
  exact ⟨os,hos⟩

/-- No active device of the user resists. -/
def Clear (raises : Id → Bool) (w : World) (userId : Id) : Prop :=
  ∀ d∈w.db.devices.rows,d.userId=userId → d.status=.active → raises d.id=false ∧ Ready w d

/-- The plan and the user a notice names. -/
def Named (db : Database) (x : Subscription) : Prop :=
  (db.plans.get? x.planId).isSome ∧ (db.users.get? x.userId).isSome

theorem processOneWith_swept (hc : Faulty raises call) (hn : LogsNumbered s.toWorld)
    {x : Subscription} (hrun : processOneWith call x s=(.ok (),t)) :
    Swept [x] s t ∧ Clear raises s.toWorld x.userId ∧ Named s.db x := by
  unfold processOneWith at hrun
  rw [getDb_bind_run] at hrun
  obtain ⟨plan,hplan,hrun₁⟩ := Eff.orRaise_bind_ok.mp hrun
  obtain ⟨user,huser,hrun₂⟩ := Eff.orRaise_bind_ok.mp hrun₁
  obtain ⟨_,v,hv,hrun₃⟩ := Eff.bind_ok.mp hrun₂
  cases hv
  obtain ⟨_,a,ha,hrun₄⟩ := Eff.bind_ok.mp hrun₃
  obtain ⟨hoff,hdesk,hclear⟩ := disableAll_off hc ha
  obtain ⟨hrest,hnotices,hnow⟩ := desk_rest hdesk
  have hserial : s.serial≤a.serial := hdesk.2
  obtain ⟨_,b,hb,hlast⟩ := Eff.bind_ok.mp hrun₄
  obtain ⟨os,hbs⟩ := audit_ok hb
  subst hbs
  cases hlast
  have hlogs : a.db.auditLogs=s.db.auditLogs := by rw [hrest]
  have hfresh : ∀ l∈a.db.auditLogs.rows,l.id≠a.serial := by
    intro l hl
    rw [hlogs] at hl
    exact ((hn l hl).trans_le hserial).ne
  refine ⟨⟨?_,hnow,fun l hl => ?_,?_,?_,?_,?_⟩,hclear,by rw [hplan]; rfl,by rw [huser]; rfl⟩
  · rw [hrest]
  · rcases (Store.mem_insert hfresh).mp hl with hl|hl
    · rw [hlogs] at hl
      exact ((hn l hl).trans_le hserial).trans (Int.lt_succ _)
    · subst hl
      exact Int.lt_succ _
  · exact ⟨hoff.devices,hoff.credentials,hoff.peers,hoff.servers,hoff.configs,hoff.vpnOff,
      hoff.vpnOn,hoff.xrayOff,hoff.xrayOn⟩
  · have hsubs : a.db.subscriptions=s.db.subscriptions.modify x.id
        (fun s => {s with status := .expired}) fun _ => rfl := by rw [hrest]
    show a.db.subscriptions=_
    rw [hsubs]
    apply Store.extensionality
    simp only [Store.rows_modify,Store.rows_mapRows]
    apply List.map_congr_left
    intro y _
    by_cases hy : y.id=x.id
    · simp [expiredAmong,hy]
    · simp [expiredAmong,hy,Ne.symm hy]
  · refine ⟨[_],(Store.rows_insert _ _ hfresh).trans (by rw [hlogs]),?_⟩
    have hanow : a.now=s.now := hnow
    simp [auditOf,auditRow,hplan,AuditLog.unnumbered,hanow]
  · refine ⟨[_],congrArg (·++_) hnotices,?_⟩
    simp [noticeOf,hplan,huser]

theorem Swept.none (hn : LogsNumbered s.toWorld) : Swept [] s s where
  rest := rfl
  now := rfl
  numbered := hn
  off := by
    have hset : s.db.ownedBy []=fun _ => false := by
      funext k
      simp [Database.ownedBy]
    rw [hset]
    exact DevicesOff.none s
  subscriptions := (Store.mapRows_self _ _ fun y _ => rfl).symm
  logs := ⟨[],by simp,rfl⟩
  notices := ⟨[],by simp,rfl⟩

section

variable {xs ys : List Subscription}

theorem Swept.plans (h : Swept xs s t) : t.db.plans=s.db.plans := by rw [h.rest]

theorem Swept.users (h : Swept xs s t) : t.db.users=s.db.users := by rw [h.rest]

theorem Swept.noticeOf (h : Swept xs s t) : noticeOf t.db=noticeOf s.db := by
  funext x
  unfold Backend.noticeOf
  rw [h.plans,h.users]

theorem Swept.auditOf (h : Swept xs s t) : auditOf t.db t.now=auditOf s.db s.now := by
  funext x
  unfold Backend.auditOf
  rw [h.plans,h.now]

/-- An active device after a sweep was left alone by it. -/
theorem Swept.device_of (h : Swept xs s t) {k : Id} {d : Device}
    (hd : t.db.devices.get? k=some d) (hact : d.status=.active) :
    s.db.devices.get? k=some d ∧ s.db.ownedBy xs k=false := by
  rw [h.off.get?] at hd
  obtain ⟨e,he,hde⟩ := Option.map_eq_some_iff.mp hd
  have hid : e.id=k := Store.key_of_get? he
  cases hk : s.db.ownedBy xs k with
  | true =>
    unfold disabledIn at hde
    rw [hid,hk,if_pos rfl] at hde
    rw [← hde] at hact
    cases hact
  | false =>
    unfold disabledIn at hde
    rw [hid,hk] at hde
    exact ⟨he.trans (congrArg some hde),rfl⟩

theorem Swept.trans (h : Swept xs s t) (k : Swept ys t u) : Swept (xs++ys) s u where
  rest := by
    rw [k.rest,h.rest]
  now := k.now.trans h.now
  numbered := k.numbered
  off := by
    have hlater : ∀ i,t.db.ownedBy ys i=true ↔ s.db.ownedBy xs i=false ∧ s.db.ownedBy ys i=true := by
      intro i
      unfold Database.ownedBy
      rw [Option.any_eq_true,Option.any_eq_true]
      constructor
      · rintro ⟨d,hd,hq⟩
        have hact : d.status=.active := by simpa using (Bool.and_eq_true_iff.mp hq).1
        obtain ⟨hs,hout⟩ := h.device_of hd hact
        exact ⟨hout,d,hs,hq⟩
      · rintro ⟨hout,d,hd,hq⟩
        have hid : d.id=i := Store.key_of_get? hd
        have hout : s.db.ownedBy xs d.id=false := by
          rw [hid]
          exact hout
        refine ⟨d,?_,hq⟩
        rw [h.off.get?,hd,Option.map_some,disabledIn,hout]
        rfl
    have hset : s.db.ownedBy (xs++ys)=fun i => s.db.ownedBy xs i || t.db.ownedBy ys i := by
      funext i
      have hsum : s.db.ownedBy (xs++ys) i=(s.db.ownedBy xs i || s.db.ownedBy ys i) := by
        unfold Database.ownedBy
        cases s.db.devices.get? i with
        | none => rfl
        | some d => simp [Bool.and_or_distrib_left]
      rw [hsum]
      cases hx : s.db.ownedBy xs i with
      | true => rfl
      | false =>
        rw [Bool.false_or,Bool.false_or,Bool.eq_iff_iff,hlater]
        simp [hx]
    rw [hset]
    exact h.off.trans k.off fun i hi => ((hlater i).mp hi).1
  subscriptions := by
    rw [k.subscriptions,h.subscriptions]
    apply Store.extensionality
    simp only [Store.rows_mapRows,List.map_map]
    apply List.map_congr_left
    intro y _
    rw [Function.comp_apply]
    unfold expiredAmong
    rw [List.any_append]
    cases hx : xs.any fun x => x.id=y.id with
    | true => cases ys.any fun x => x.id=y.id <;> simp
    | false => simp
  logs := by
    obtain ⟨l,hl,hle⟩ := h.logs
    obtain ⟨m,hm,hme⟩ := k.logs
    refine ⟨l++m,by rw [hm,hl,List.append_assoc],?_⟩
    rw [List.map_append,hle,hme,h.auditOf,List.map_append]
  notices := by
    obtain ⟨l,hl,hle⟩ := h.notices
    obtain ⟨m,hm,hme⟩ := k.notices
    refine ⟨l++m,by rw [hm,hl,List.append_assoc],?_⟩
    rw [List.map_append,hle,hme,h.noticeOf,List.map_append]

/-- What is in the way of disabling a user's devices is so before and after others are disabled. -/
theorem Swept.clear_of (h : Swept xs s t) (hxs : ∀ x∈xs,Clear raises s.toWorld x.userId) {k : Id} :
    Clear raises t.toWorld k ↔ Clear raises s.toWorld k := by
  constructor
  · intro hk d hd huser hact
    have hget := s.db.devices.get?_of_mem hd
    cases hout : s.db.ownedBy xs d.id with
    | true =>
      unfold Database.ownedBy at hout
      rw [hget,Option.any_some,Bool.and_eq_true,List.any_eq_true] at hout
      obtain ⟨_,x,hx,hxu⟩ := hout
      exact hxs x hx d hd (by simpa using (of_decide_eq_true hxu).symm) hact
    | false =>
      have hdt : t.db.devices.get? d.id=some d := by
        rw [h.off.get?,hget,Option.map_some,disabledIn,hout]
        rfl
      obtain ⟨hr,hready⟩ := hk d (Store.mem_of_get? hdt) huser hact
      exact ⟨hr,(h.off.ready_iff hout).mp hready⟩
  · intro hk d hd huser hact
    obtain ⟨hs,hout⟩ := h.device_of (t.db.devices.get?_of_mem hd) hact
    obtain ⟨hr,hready⟩ := hk d (Store.mem_of_get? hs) huser hact
    exact ⟨hr,(h.off.ready_iff hout).mpr hready⟩

theorem processEach_swept (hc : Faulty raises call) (hn : LogsNumbered s.toWorld)
    (hrun : Eff.each (processOneWith call) xs s=(.ok (),t)) :
    Swept xs s t ∧ ∀ x∈xs,Clear raises s.toWorld x.userId ∧ Named s.db x := by
  induction xs generalizing s with
  | nil =>
    cases hrun
    exact ⟨Swept.none hn,fun x hx => by cases hx⟩
  | cons x xs ih =>
    obtain ⟨_,v,hv,hrest⟩ := Eff.bind_ok.mp hrun
    obtain ⟨hfirst,hclear,hnamed⟩ := processOneWith_swept hc hn hv
    obtain ⟨hlast,hall⟩ := ih hfirst.numbered hrest
    refine ⟨hfirst.trans hlast,fun y hy => ?_⟩
    rcases List.mem_cons.mp hy with hy|hy
    · subst hy
      exact ⟨hclear,hnamed⟩
    · obtain ⟨hclear',hnamed'⟩ := hall y hy
      have hone : ∀ z∈[x],Clear raises s.toWorld z.userId := by
        intro z hz
        rw [List.mem_singleton.mp hz]
        exact hclear
      unfold Named at hnamed' ⊢
      rw [hfirst.plans,hfirst.users] at hnamed'
      exact ⟨(hfirst.clear_of hone).mp hclear',hnamed'⟩

theorem disableEach_completes (hc : Faulty raises call) {D : Id → Bool} {ds : List Device}
    (hoff : DevicesOff D s t) (hrows : ∀ d∈ds,s.db.devices.get? d.id=some d)
    (hnodup : (ds.map Device.id).Nodup) (hD : ∀ d∈ds,D d.id=false) (ho : t.outcomes=[])
    (hgood : ∀ d∈ds,d.status=.active → raises d.id=false ∧ Ready s.toWorld d) :
    ∃ u,Eff.each (disableIfActiveWith call) ds t=(.ok (),u) ∧ u.outcomes=[] := by
  induction ds generalizing D t with
  | nil => exact ⟨t,rfl,ho⟩
  | cons d ds ih =>
    obtain ⟨hnotin,hnodup'⟩ := List.nodup_cons.mp hnodup
    have hrows' : ∀ x∈ds,s.db.devices.get? x.id=some x :=
      fun x hx => hrows x (List.mem_cons_of_mem d hx)
    have hgood' : ∀ x∈ds,x.status=.active → raises x.id=false ∧ Ready s.toWorld x :=
      fun x hx => hgood x (List.mem_cons_of_mem d hx)
    by_cases hact : d.status=.active
    · obtain ⟨hraises,hready⟩ := hgood d List.mem_cons_self hact
      have hDd := hD d List.mem_cons_self
      have hrow : t.db.devices.get? d.id=some d := by
        rw [hoff.get?,hrows d List.mem_cons_self]
        simp [disabledIn,hDd]
      obtain ⟨v,hv,hvo⟩ := disable_completes ho ((hoff.ready_iff hDd).mpr hready)
      have hcall : disableIfActiveWith call d t=(.ok (),v) := by
        unfold disableIfActiveWith
        rw [if_pos hact,hc.works d hraises]
        exact hv
      have hnext := hoff.trans (disable_off hrow hv) fun k hk => by
        have hk : k=d.id := by simpa using hk
        rw [hk]
        exact hDd
      have hD' : ∀ x∈ds,(D x.id || decide (x.id=d.id))=false := by
        intro x hx
        have hne : x.id≠d.id := fun he => hnotin (List.mem_map.mpr ⟨x,hx,he⟩)
        simp [hD x (List.mem_cons_of_mem d hx),hne]
      obtain ⟨u,hu,huo⟩ := ih hnext hrows' hnodup' hD' hvo hgood'
      exact ⟨u,(Eff.bind_run_ok hcall).trans hu,huo⟩
    · have hcall : disableIfActiveWith call d t=(.ok (),t) := by
        unfold disableIfActiveWith
        rw [if_neg hact]
        rfl
      obtain ⟨u,hu,huo⟩ := ih hoff hrows' hnodup' (fun x hx => hD x (List.mem_cons_of_mem d hx)) ho
        hgood'
      exact ⟨u,(Eff.bind_run_ok hcall).trans hu,huo⟩

theorem disableAll_completes (hc : Faulty raises call) {k : Id} (ho : s.outcomes=[])
    (h : Clear raises s.toWorld k) :
    ∃ t,disableAllForUserWith call k s=(.ok (),t) ∧ t.outcomes=[] := by
  obtain ⟨hrows,hnodup⟩ := devicesOf_rows s.db k
  unfold disableAllForUserWith
  rw [getDb_bind_run]
  apply disableEach_completes hc (DevicesOff.none s) hrows hnodup (fun _ _ => rfl) ho
  intro d hd hact
  obtain ⟨hmem,huser,_⟩ := s.db.mem_devicesOf.mp hd
  exact h d hmem huser hact

theorem processOneWith_completes (hc : Faulty raises call) {x : Subscription} (ho : s.outcomes=[])
    (hnamed : Named s.db x) (h : Clear raises s.toWorld x.userId) :
    ∃ t,processOneWith call x s=(.ok (),t) ∧ t.outcomes=[] := by
  obtain ⟨plan,hplan⟩ := Option.isSome_iff_exists.mp hnamed.1
  obtain ⟨user,huser⟩ := Option.isSome_iff_exists.mp hnamed.2
  have hexpire : ∃ v,expire x s=(.ok (),v) ∧ v.outcomes=[] ∧
      (Clear raises v.toWorld x.userId ↔ Clear raises s.toWorld x.userId) :=
    ⟨_,rfl,ho,Iff.rfl⟩
  obtain ⟨v,hv,hvo,hvc⟩ := hexpire
  obtain ⟨a,ha,hao⟩ := disableAll_completes hc hvo (hvc.mpr h)
  have hnext : upcoming a.outcomes=(.answered,[]) := by rw [hao]; rfl
  unfold processOneWith
  rw [getDb_bind_run,hplan,Eff.orRaise_some,Eff.pure_bind_run,huser,Eff.orRaise_some,
    Eff.pure_bind_run,Eff.bind_run_ok hv,Eff.bind_run_ok ha]
  have haudit : ∃ b,recordAudit none "subscription.expired" "subscription" (some x.id)
      [("user_id",toString x.userId),("plan",plan.name)] a=(.ok (),b) ∧ b.outcomes=[] := by
    unfold recordAudit
    rw [getNow_bind_run,nextSerial_bind_run,alter_bind_run]
    exact ⟨_,flush_answered hnext,rfl⟩
  obtain ⟨b,hb,hbo⟩ := haudit
  rw [Eff.bind_run_ok hb]
  exact ⟨_,rfl,hbo⟩

theorem processEach_completes (hc : Faulty raises call) {xs : List Subscription}
    (hn : LogsNumbered s.toWorld) (ho : s.outcomes=[]) (hnamed : ∀ x∈xs,Named s.db x)
    (h : ∀ x∈xs,Clear raises s.toWorld x.userId) :
    ∃ t,Eff.each (processOneWith call) xs s=(.ok (),t) ∧ t.outcomes=[] := by
  induction xs generalizing s with
  | nil => exact ⟨s,rfl,ho⟩
  | cons x xs ih =>
    have hx := h x List.mem_cons_self
    obtain ⟨v,hv,hvo⟩ := processOneWith_completes hc ho (hnamed x List.mem_cons_self) hx
    obtain ⟨hswept,_,_⟩ := processOneWith_swept hc hn hv
    have hone : ∀ z∈[x],Clear raises s.toWorld z.userId := by
      intro z hz
      rw [List.mem_singleton.mp hz]
      exact hx
    obtain ⟨t,ht,hto⟩ := ih hswept.numbered hvo
      (fun y hy => by
        have hy' := hnamed y (List.mem_cons_of_mem x hy)
        unfold Named at hy' ⊢
        rw [hswept.plans,hswept.users]
        exact hy')
      fun y hy => (hswept.clear_of hone).mpr (h y (List.mem_cons_of_mem x hy))
    exact ⟨t,(Eff.bind_run_ok hv).trans ht,hto⟩

end

end

/-- What the foreign keys and the sequence of the database guarantee. -/
structure Keyed (w : World) : Prop where
  plans : ∀ x∈w.db.subscriptions.rows,(w.db.plans.get? x.planId).isSome
  users : ∀ x∈w.db.subscriptions.rows,(w.db.users.get? x.userId).isSome
  servers : ∀ d∈w.db.devices.rows,∀ k,d.serverId=some k → (w.db.vpnServers.get? k).isSome
  credentials : ∀ c∈w.db.vlessCredentials.rows,(w.db.vpnServers.get? c.serverId).isSome
  logs : LogsNumbered w

section

variable {w : World}

theorem Keyed.named (h : Keyed w) {t : Time} {x : Subscription} (hx : x∈w.db.listExpired t) :
    Named w.db x := by
  have hmem := (List.mem_filter.mp hx).1
  exact ⟨h.plans x hmem,h.users x hmem⟩

/-- A WireGuard device is ready if it has a server whose agent knows its active peer. -/
theorem Keyed.ready (h : Keyed w) {d : Device} (hd : d∈w.db.devices.rows)
    (hserver : d.protocol=.wireguard → d.serverId≠none)
    (hknown : d.protocol=.wireguard → ∀ server p,w.db.serverOf d=some server →
      w.db.activePeer d.id=some p → ((w.vpn server.agentBaseUrl).get? p.publicKey).isSome) :
    Ready w d := by
  unfold Ready
  cases hproto : d.protocol with
  | vless => exact fun c hc => h.credentials c (w.db.mem_activeCredentials.mp hc).1
  | wireguard =>
    obtain ⟨k,hk⟩ := Option.ne_none_iff_exists'.mp (hserver hproto)
    obtain ⟨server,hs⟩ := Option.isSome_iff_exists.mp (h.servers d hd k hk)
    have hof : w.db.serverOf d=some server := by
      unfold Database.serverOf
      rw [hk]
      exact hs
    exact ⟨server,hof,fun p hp => hknown hproto server p hof hp⟩

theorem Swept.nothingDue {t : Time} {s u : Session} (h : Swept (s.db.listExpired t) s u) :
    u.db.listExpired t=[] := by
  unfold Database.listExpired
  rw [List.filter_eq_nil_iff,h.subscriptions]
  intro y hy hdue
  obtain ⟨x,hx,he⟩ := List.mem_map.mp hy
  have hin : (s.db.listExpired t).any (fun z => z.id=x.id)=Database.isDue t x :=
    s.db.subscriptions.any_filter_key _ hx
  unfold expiredAmong at he
  rw [hin] at he
  cases hd : Database.isDue t x with
  | true =>
    rw [hd,if_pos rfl] at he
    rw [← he] at hdue
    simp [Database.isDue] at hdue
  | false =>
    rw [hd] at he
    rw [← show x=y from he,hd] at hdue
    cases hdue

/-- A sweep that nothing resists completes, and a sweep that completes expires exactly what is due,
switches off exactly the active devices of the owners, records and announces each once, and leaves
nothing to do for another. -/
theorem sweep_exact (cfg : Settings) (hw : Keyed w) (env : Env) (asOf : Option Time) :
    (env.outcomes=[] →
      (∀ x∈w.db.listExpired (asOf.getD env.now),∀ d∈w.db.devices.rows,d.userId=x.userId →
        d.status=.active → d.protocol=.wireguard → d.serverId≠none ∧
          ∀ server p,w.db.serverOf d=some server → w.db.activePeer d.id=some p →
            ((w.vpn server.agentBaseUrl).get? p.publicKey).isSome) →
      answered cfg w ⟨env,.sweep asOf⟩=true) ∧
    (answered cfg w ⟨env,.sweep asOf⟩=true →
      Swept (w.db.listExpired (asOf.getD env.now)) ⟨w,env⟩ ⟨after cfg w ⟨env,.sweep asOf⟩,env⟩ ∧
      ∀ env' asOf',asOf'.getD env'.now=asOf.getD env.now →
        runOnce asOf' ⟨after cfg w ⟨env,.sweep asOf⟩,env'⟩=
          (.ok [],⟨after cfg w ⟨env,.sweep asOf⟩,env'⟩)) := by
  constructor
  · intro ho hready
    have hclear : ∀ x∈w.db.listExpired (asOf.getD env.now),
        Clear (fun _ => false) w x.userId := by
      intro x hx d hd huser hact
      have hall := hready x hx d hd huser hact
      exact ⟨rfl,hw.ready hd (fun hp => (hall hp).1) fun hp => (hall hp).2⟩
    obtain ⟨t,ht,hto⟩ := processEach_completes (s := ⟨w,env⟩) faulty_disable hw.logs ho
      (fun x hx => hw.named hx) hclear
    have hrun : handle cfg (.sweep asOf) ⟨w,env⟩=
        (.ok (.expired ((w.db.listExpired (asOf.getD env.now)).map Subscription.id)),t) := by
      have honce : runOnce asOf ⟨w,env⟩=
          (.ok ((w.db.listExpired (asOf.getD env.now)).map Subscription.id),t) :=
        Eff.bind_run_ok ht
      exact Eff.bind_run_ok honce
    unfold answered serve transaction
    rw [Eff.bind_run_ok hrun,Eff.bind_run_ok (flush_calm hto)]
    rfl
  · intro hdone
    unfold answered at hdone
    unfold after
    rcases serve_cases cfg env (.sweep asOf) w with ⟨a,s,hm,hserve⟩|⟨x,e,s,_,hserve⟩
    · obtain ⟨ids,u,hu,hlast⟩ := Eff.bind_ok.mp hm
      unfold runOnce at hu
      rw [getNow_bind_run,getDb_bind_run] at hu
      obtain ⟨_,v,hv,hids⟩ := Eff.bind_ok.mp hu
      cases hids
      cases hlast
      obtain ⟨hswept,_⟩ := processEach_swept faulty_disable hw.logs hv
      have hswept : Swept (w.db.listExpired (asOf.getD env.now)) ⟨w,env⟩ ⟨s.toWorld,env⟩ :=
        ⟨hswept.rest,rfl,hswept.numbered,hswept.off.of_view rfl rfl rfl rfl rfl rfl rfl,
          hswept.subscriptions,hswept.logs,hswept.notices⟩
      rw [hserve]
      refine ⟨hswept,fun env' asOf' ht => ?_⟩
      have hnone : s.db.listExpired (asOf'.getD env'.now)=[] := by
        rw [ht]
        exact Swept.nothingDue (s := ⟨w,env⟩) (u := ⟨s.toWorld,env⟩) hswept
      unfold runOnce
      rw [getNow_bind_run,getDb_bind_run]
      simp only [hnone]
      rfl
    · rw [hserve] at hdone
      cases hdone

end

theorem opened_keyed : Keyed opened where
  plans := (reachable_ledger opened_reachable).plans
  users := (reachable_ledger opened_reachable).users
  servers := (reachable_sound opened_reachable).consistent.deviceServers
  credentials := (reachable_sound opened_reachable).consistent.credentialServers
  logs := by
    show ∀ a∈opened.db.auditLogs.rows,a.id<opened.serial
    decide +kernel

/-- The sweep that finds the opened shop's subscription over. -/
theorem sweep_exact_opened : Swept (opened.db.listExpired (days 31)) ⟨opened,quiet (days 31)⟩
    ⟨after sampleSettings opened ⟨quiet (days 31),.sweep none⟩,quiet (days 31)⟩ := by
  have hexact := sweep_exact sampleSettings opened_keyed (quiet (days 31)) none
  have hall : ∀ d∈opened.db.devices.rows,d.serverId≠none ∧
      (opened.db.serverOf d).all (fun server => (opened.db.activePeer d.id).all fun p =>
        ((opened.vpn server.agentBaseUrl).get? p.publicKey).isSome)=true := by decide +kernel
  have hdone := hexact.1 rfl fun x _ d hd _ _ _ => by
    obtain ⟨hserver,hknown⟩ := hall d hd
    refine ⟨hserver,fun server p hs hp => ?_⟩
    rw [hs,hp] at hknown
    exact hknown
  exact (hexact.2 hdone).1

end VpnService.Backend
