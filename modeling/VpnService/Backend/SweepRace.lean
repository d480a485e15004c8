import VpnService.Framework.Transactions
import VpnService.Backend.Statements

namespace VpnService.Backend

/-- A run of the sweep: what its clock says and the time it is given. -/
structure Sweeper where
  now : Time
  asOf : Option Time

def Sweeper.cutoff (p : Sweeper) : Time := p.asOf.getD p.now

/-- Where a run of the sweep stands: the subscriptions it is through with, the one at hand and the
notice for its owner, and those left. -/
inductive SweepPlace
  | start
  | sweeping (told todo : List Subscription)
  | expired (told : List Subscription) (x : Subscription) (notice : Notice)
      (todo : List Subscription)
  | disabling (told : List Subscription) (x : Subscription) (notice : Notice)
      (devices : List Device) (todo : List Subscription)
  | recorded (told : List Subscription) (x : Subscription) (notice : Notice)
      (todo : List Subscription)
  | finished (told : List Subscription)
  | failed

namespace SweepPlace

/-- What the run has read as due. -/
def due : SweepPlace → Option (List Subscription)
  | .sweeping told todo => some (told++todo)
  | .expired told x _ todo | .disabling told x _ _ todo | .recorded told x _ todo =>
    some (told++x::todo)
  | .finished told => some told
  | .start | .failed => none

/-- The subscriptions expired and not committed. -/
def pending : SweepPlace → List Subscription
  | .sweeping told _ => told
  | .expired told x _ _ | .disabling told x _ _ _ | .recorded told x _ _ => told++[x]
  | .start | .finished _ | .failed => []

def logged : SweepPlace → List Subscription
  | .sweeping told _ | .expired told _ _ _ | .disabling told _ _ _ _ | .finished told => told
  | .recorded told x _ _ => told++[x]
  | .start | .failed => []

def told : SweepPlace → List Subscription
  | .sweeping told _ | .expired told _ _ _ | .disabling told _ _ _ _ | .recorded told _ _ _
  | .finished told => told
  | .start | .failed => []

/-- What the run has committed. -/
def swept : SweepPlace → List Subscription
  | .finished told => told
  | _ => []

def atHand : SweepPlace → Option (Subscription×Notice)
  | .expired _ x notice _ | .disabling _ x notice _ _ | .recorded _ x notice _ => some (x,notice)
  | _ => none

/-- The run has begun and is not over. -/
def working : SweepPlace → Bool
  | .start | .finished _ | .failed => false
  | _ => true

theorem finished_of {p : SweepPlace} (h : (p.due.isSome && !p.working)=true) :
    ∃ told,p=.finished told := by
  cases p with
  | finished told => exact ⟨told,rfl⟩
  | _ => cases h

end SweepPlace

abbrev SweepRace := Workplace Database Statement Surroundings Bool SweepPlace

/-- What the record of an expiry says, under the next number. -/
def expiryLog (serial : Int) (now : Time) (x : Subscription) (notice : Notice) : AuditLog :=
  ⟨serial,none,"subscription.expired","subscription",some x.id,
    [("user_id",toString x.userId),("plan",notice.planName)],now⟩

/-- What `disable` writes for a device. -/
def disableStatements (db : Database) (d : Device) : List Statement :=
  (match d.protocol with
    | .vless => (db.activeCredentials d.id).map fun c => .disableCredential c.id
    | .wireguard => [])++[.setDeviceStatus d.id .disabled]

/-- The next step of run `i`; all agents answer. -/
def sweepNext (sweeper : Bool → Sweeper) (i : Bool) (place : SweepPlace) (db : Database)
    (rest : Surroundings) : Move Statement Surroundings SweepPlace := match place with
  | .start => .work (.sweeping [] (db.listExpired (sweeper i).cutoff)) [] rest
  | .sweeping told [] => .commit (.finished told)
  | .sweeping told (x::todo) => match noticeOf db x with
    | none => .rollback .failed rest
    | some notice => .work (.expired told x notice todo) [.expireSubscription x.id] rest
  | .expired told x notice todo =>
    .work (.disabling told x notice (db.devicesOf x.userId) todo) [] rest
  | .disabling told x notice (d::ds) todo =>
    if d.status=.active then match disable d ⟨rest.world db,quiet (sweeper i).now⟩ with
      | (.ok (),t) =>
        .work (.disabling told x notice ds todo) (disableStatements db d) t.toWorld.surroundings
      | (.error _,t) => .rollback .failed t.toWorld.surroundings
    else .work (.disabling told x notice ds todo) [] rest
  | .disabling told x notice [] todo =>
    .work (.recorded told x notice todo)
      [.insertAudit (expiryLog rest.serial (sweeper i).now x notice)]
      {rest with serial := rest.serial+1}
  | .recorded told x notice todo =>
    .work (.sweeping (told++[x]) todo) [] {rest with notices := rest.notices++[notice]}
  | .finished told => .work (.finished told) [] rest
  | .failed => .work .failed [] rest

def sweepTick (sweeper : Bool → Sweeper) (s : SweepRace) (i : Bool) : SweepRace :=
  s.tick Statement.execute (sweepNext sweeper) i

/-- The state after two runs whose steps come in this order. -/
def sweepRun (sweeper : Bool → Sweeper) (w : World) (is : List Bool) : SweepRace :=
  is.foldl (sweepTick sweeper) (Workplace.opening w.db w.surroundings .start)

/-- What is committed and what is outside of the database. -/
def outcomeOf (s : SweepRace) : World := s.rest.world s.committed

/-- What an audit record is about. -/
def AuditLog.subject (a : AuditLog) : String×String×Option Id := (a.action,a.targetType,a.targetId)

def expirySubject (x : Subscription) : String×String×Option Id :=
  ("subscription.expired","subscription",some x.id)

/-- Each subscription in `due` is expired, recorded once and announced once to its owner. -/
structure SweptOnce (w : World) (due : List Subscription) (t : World) : Prop where
  expired : ∀ x∈due,IsExpired t.db x.id
  recorded : (t.db.auditLogs.rows.map AuditLog.subject).Perm
    (w.db.auditLogs.rows.map AuditLog.subject++due.map expirySubject)
  told : (t.notices.map some).Perm (w.notices.map some++due.map (noticeOf w.db))

/-- All audit records, those not committed too. -/
def allLogs (s : SweepRace) : List AuditLog :=
  s.committed.auditLogs.rows++both fun i => (s.party i).writes.filterMap Statement.audits

/-- What holds of two runs at any time, as long as none has failed. -/
structure Sweeping (sweeper : Bool → Sweeper) (w : World) (s : SweepRace) : Prop where
  tables : s.committed.plans=w.db.plans ∧ s.committed.users=w.db.users
  subscriptions : s.committed.subscriptions=w.db.subscriptions.mapRows
    (expiredAmong (both fun i => (s.party i).place.swept)) (expiredAmong_id _)
  expires : ∀ i,(s.party i).writes.filterMap Statement.expires=
    (s.party i).place.pending.map Subscription.id
  numbered : ∀ a∈allLogs s,a.id<s.rest.serial
  distinct : ((allLogs s).map AuditLog.id).Nodup
  logs : ((allLogs s).map AuditLog.subject).Perm (w.db.auditLogs.rows.map AuditLog.subject++
    (both fun i => (s.party i).place.logged).map expirySubject)
  notices : (s.rest.notices.map some).Perm (w.notices.map some++
    (both fun i => (s.party i).place.told).map (noticeOf w.db))
  named : ∀ i x notice,(s.party i).place.atHand=some (x,notice) → noticeOf w.db x=some notice
  due : ∀ i l,(s.party i).place.due=some l → l.Nodup ∧
    (∀ x∈l,x∈w.db.listExpired (sweeper i).cutoff) ∧
    ∀ x∈w.db.listExpired (sweeper i).cutoff,x∈l ∨ x∈(s.party (!i)).place.swept
  ended : ∀ i,(s.party i).place.working=false → (s.party i).writes=[]

/-- No subscription is in both lists. -/
def NoneShared (s : SweepRace) : Prop :=
  ∀ l m,(s.party false).place.due=some l → (s.party true).place.due=some m → l.Disjoint m

def Failing (s : SweepRace) : Prop := ∃ i,(s.party i).place=.failed

/-- A run reads what is due while the other has not begun or is over, or nothing is due to both. -/
def Unopposed (sweeper : Bool → Sweeper) (s : SweepRace) (i : Bool) : Prop :=
  (s.party i).place=.start → (s.party (!i)).place.working=false ∨
    s.committed.listExpired (min (sweeper i).cutoff (sweeper (!i)).cutoff)=[]

section

variable {sweeper : Bool → Sweeper} {w : World} {s : SweepRace} {i : Bool}

theorem expiredAmong_congr {xs ys : List Subscription} (h : ∀ x,x∈xs ↔ x∈ys) (r : Subscription) :
    expiredAmong xs r=expiredAmong ys r := by
  have hany : (xs.any fun x => x.id=r.id)=ys.any fun x => x.id=r.id := by
    rw [Bool.eq_iff_iff,List.any_eq_true,List.any_eq_true]
    simp only [h]
  unfold expiredAmong
  rw [hany]

theorem noneShared_iff (i : Bool) : NoneShared s ↔ ∀ l m,(s.party i).place.due=some l →
    (s.party (!i)).place.due=some m → l.Disjoint m := by
  cases i with
  | false => exact Iff.rfl
  | true => exact ⟨fun h l m hl hm => (h m l hm hl).symm,fun h l m hl hm => (h m l hm hl).symm⟩

/-- Run `i` expires `es`, records `ls` and tells `ts`. -/
theorem Sweeping.work (h : Sweeping sweeper w s) {place : SweepPlace} {ws : List Statement}
    {rest : Surroundings} (es ls ts : List Subscription)
    (hexpires : ws.filterMap Statement.expires=es.map Subscription.id)
    (hpending : place.pending=(s.party i).place.pending++es)
    (haudits : (ws.filterMap Statement.audits).map AuditLog.subject=ls.map expirySubject)
    (hids : ((ws.filterMap Statement.audits).map AuditLog.id).Nodup)
    (hserial : ∀ a∈ws.filterMap Statement.audits,s.rest.serial≤a.id ∧ a.id<rest.serial)
    (hgrows : s.rest.serial≤rest.serial)
    (hlogged : place.logged=(s.party i).place.logged++ls)
    (hnotices : rest.notices.map some=s.rest.notices.map some++ts.map (noticeOf w.db))
    (htold : place.told=(s.party i).place.told++ts)
    (hswept : place.swept=(s.party i).place.swept)
    (hnamed : ∀ x notice,place.atHand=some (x,notice) → noticeOf w.db x=some notice)
    (hdue : ∀ l,place.due=some l → l.Nodup ∧ (∀ x∈l,x∈w.db.listExpired (sweeper i).cutoff) ∧
      ∀ x∈w.db.listExpired (sweeper i).cutoff,x∈l ∨ x∈(s.party (!i)).place.swept)
    (hended : place.working=false → (s.party i).writes++ws=[]) :
    Sweeping sweeper w {s with
      rest := rest
      party := Function.update s.party i ⟨place,(s.party i).writes++ws⟩} := by
  generalize ht : ({s with
    rest := rest
    party := Function.update s.party i ⟨place,(s.party i).writes++ws⟩} : SweepRace)=t
  have hi : t.party i=⟨place,(s.party i).writes++ws⟩ := by
    rw [← ht]
    exact Function.update_self ..
  have hother : t.party (!i)=s.party (!i) := by
    rw [← ht]
    exact update_not ..
  have hcommitted : t.committed=s.committed := by rw [← ht]
  have hrest : t.rest=rest := by rw [← ht]
  have hboth : ∀ (q : SweepPlace → List Subscription) (xs),q place=q (s.party i).place++xs →
      (both fun j => q (t.party j).place).Perm ((both fun j => q (s.party j).place)++xs) := by
    intro q xs hq
    apply both_append (i := i)
    · rw [hi]
      exact hq
    · rw [hother]
  have hlogs : (allLogs t).Perm (allLogs s++ws.filterMap Statement.audits) := by
    unfold allLogs
    rw [hcommitted,List.append_assoc]
    apply List.Perm.append_left
    apply both_append (i := i)
    · rw [hi]
      exact List.filterMap_append
    · rw [hother]
  have hcases : ∀ j,j=i ∨ j=!i := by
    intro j
    cases i <;> cases j <;> simp
  constructor
  · rw [hcommitted]
    exact h.tables
  · rw [hcommitted,h.subscriptions]
    apply Store.mapRows_congr
    intro r _
    apply expiredAmong_congr
    intro x
    have hsame := hboth SweepPlace.swept [] (by rw [hswept,List.append_nil])
    rw [List.append_nil] at hsame
    exact hsame.symm.mem_iff
  · intro j
    rcases hcases j with hj|hj
    · rw [hj,hi]
      show (_++ws).filterMap _=place.pending.map _
      rw [List.filterMap_append,h.expires,hexpires,hpending,List.map_append]
    · rw [hj,hother]
      exact h.expires _
  · intro a ha
    rw [hrest]
    rcases List.mem_append.mp (hlogs.subset ha) with ha|ha
    · exact (h.numbered a ha).trans_le hgrows
    · exact (hserial a ha).2
  · rw [(hlogs.map _).nodup_iff,List.map_append,List.nodup_append]
    refine ⟨h.distinct,hids,?_⟩
    rintro k hk l hl rfl
    obtain ⟨a,ha,rfl⟩ := List.mem_map.mp hk
    obtain ⟨b,hb,hba⟩ := List.mem_map.mp hl
    have hlt := h.numbered a ha
    have hle := (hserial b hb).1
    rw [hba] at hle
    exact absurd hlt (not_lt.mpr hle)
  · calc ((allLogs t).map AuditLog.subject).Perm _ := hlogs.map _
      _ = (allLogs s).map AuditLog.subject++ls.map expirySubject := by
        rw [List.map_append,haudits]
      List.Perm _ (_++ls.map expirySubject) := h.logs.append_right _
      _ = w.db.auditLogs.rows.map AuditLog.subject++
          ((both fun i => (s.party i).place.logged)++ls).map expirySubject := by
        rw [List.map_append,List.append_assoc]
      List.Perm _ _ := ((hboth SweepPlace.logged ls hlogged).symm.map _).append_left _
  · rw [hrest,hnotices]
    calc (s.rest.notices.map some++ts.map (noticeOf w.db)).Perm _ := h.notices.append_right _
      _ = w.notices.map some++
          ((both fun i => (s.party i).place.told)++ts).map (noticeOf w.db) := by
        rw [List.map_append,List.append_assoc]
      List.Perm _ _ := ((hboth SweepPlace.told ts htold).symm.map _).append_left _
  · intro j x notice hx
    rcases hcases j with hj|hj
    · rw [hj,hi] at hx
      exact hnamed x notice hx
    · rw [hj,hother] at hx
      exact h.named _ x notice hx
  · intro j l hl
    rcases hcases j with hj|hj
    · rw [hj,hi] at hl
      rw [hj,hother]
      exact hdue l hl
    · rw [hj,hother] at hl
      have hown := h.due _ l hl
      rw [Bool.not_not] at hown
      rw [hj,Bool.not_not,hi]
      show _ ∧ _ ∧ ∀ x∈_,x∈l ∨ x∈place.swept
      rw [hswept]
      exact hown
  · intro j hj'
    rcases hcases j with hj|hj
    · rw [hj,hi] at hj' ⊢
      exact hended hj'
    · rw [hj,hother] at hj' ⊢
      exact h.ended _ hj'

/-- A run that is through commits. -/
theorem Sweeping.commit (h : Sweeping sweeper w s) {told : List Subscription}
    (hplace : (s.party i).place=.sweeping told []) : Sweeping sweeper w {s with
      committed := s.view Statement.execute i
      party := Function.update s.party i ⟨.finished told,[]⟩} := by
  generalize ht : ({s with
    committed := s.view Statement.execute i
    party := Function.update s.party i ⟨.finished told,[]⟩} : SweepRace)=t
  have hi : t.party i=⟨.finished told,[]⟩ := by
    rw [← ht]
    exact Function.update_self ..
  have hother : t.party (!i)=s.party (!i) := by
    rw [← ht]
    exact update_not ..
  have hcommitted : t.committed=s.view Statement.execute i := by rw [← ht]
  have hrest : t.rest=s.rest := by rw [← ht]
  have hcases : ∀ j,j=i ∨ j=!i := by
    intro j
    cases i <;> cases j <;> simp
  have hsame : ∀ q : SweepPlace → List Subscription,q (.finished told)=q (s.party i).place →
      (both fun j => q (t.party j).place).Perm (both fun j => q (s.party j).place) := by
    intro q hq
    have happ := both_append (f := fun j => q (s.party j).place)
      (g := fun j => q (t.party j).place) (i := i) (l := [])
      (by rw [hi,List.append_nil]; exact hq) (by rw [hother])
    rwa [List.append_nil] at happ
  have hexpires := h.expires i
  rw [hplace] at hexpires
  have hpending : (both fun j => (s.party j).writes.filterMap Statement.audits).Perm
      ((s.party i).writes.filterMap Statement.audits++
        (s.party (!i)).writes.filterMap Statement.audits) := both_perm _ i
  have hrows : t.committed.auditLogs.rows=s.committed.auditLogs.rows++
      (s.party i).writes.filterMap Statement.audits := by
    have hdistinct := h.distinct
    unfold allLogs at hdistinct
    rw [((hpending.append_left _).map _).nodup_iff,← List.append_assoc,List.map_append,
      List.map_append] at hdistinct
    have hown := (List.nodup_append.mp hdistinct).1
    obtain ⟨_,hnodup,hnew⟩ := List.nodup_append.mp hown
    rw [hcommitted]
    apply execute_audits hnodup
    intro a ha b hb
    exact hnew _ (List.mem_map_of_mem hb) _ (List.mem_map_of_mem ha)
  have hlogs : (allLogs t).Perm (allLogs s) := by
    unfold allLogs
    rw [hrows,List.append_assoc]
    apply List.Perm.append_left
    apply List.Perm.trans ?_ hpending.symm
    apply List.Perm.append_left
    apply (both_perm _ i).trans
    rw [hi,hother]
    exact List.Perm.refl _
  constructor
  · rw [hcommitted]
    obtain ⟨hplans,husers⟩ := execute_tables s.committed (s.party i).writes
    exact ⟨hplans.trans h.tables.1,husers.trans h.tables.2⟩
  · rw [hcommitted]
    apply (execute_subscriptions h.subscriptions hexpires).trans
    apply Store.mapRows_congr
    intro r _
    apply expiredAmong_congr
    intro x
    have hswept : (both fun j => (t.party j).place.swept).Perm
        ((both fun j => (s.party j).place.swept)++told) := by
      apply both_append (i := i)
      · rw [hi,hplace]
        rfl
      · rw [hother]
    exact hswept.symm.mem_iff
  · intro j
    rcases hcases j with hj|hj
    · rw [hj,hi]
      rfl
    · rw [hj,hother]
      exact h.expires _
  · intro a ha
    rw [hrest]
    exact h.numbered a (hlogs.subset ha)
  · rw [(hlogs.map _).nodup_iff]
    exact h.distinct
  · apply (hlogs.map _).trans
    apply h.logs.trans
    exact ((hsame SweepPlace.logged (by rw [hplace]; rfl)).symm.map _).append_left _
  · rw [hrest]
    apply h.notices.trans
    exact ((hsame SweepPlace.told (by rw [hplace]; rfl)).symm.map _).append_left _
  · intro j x notice hx
    rcases hcases j with hj|hj
    · rw [hj,hi] at hx
      cases hx
    · rw [hj,hother] at hx
      exact h.named _ x notice hx
  · intro j l hl
    rcases hcases j with hj|hj
    · rw [hj,hi] at hl
      rw [hj,hother]
      apply h.due i l
      rw [hplace]
      show some (told++[])=some l
      rw [List.append_nil]
      exact hl
    · rw [hj,hother] at hl
      have hown := h.due _ l hl
      rw [Bool.not_not,hplace] at hown
      rw [hj,Bool.not_not,hi]
      refine ⟨hown.1,hown.2.1,fun x hx => ?_⟩
      exact (hown.2.2 x hx).imp_right fun hin => absurd hin List.not_mem_nil
  · intro j hj'
    rcases hcases j with hj|hj
    · rw [hj,hi]
    · rw [hj,hother] at hj' ⊢
      exact h.ended _ hj'

theorem listExpired_nodup (db : Database) (t : Time) :
    ((db.listExpired t).map Subscription.id).Nodup :=
  db.subscriptions.nodup.sublist (List.filter_sublist.map _)

/-- What is due is due later too. -/
theorem mem_listExpired_min {db : Database} {t u : Time} {x : Subscription} :
    x∈db.listExpired (min t u) ↔ x∈db.listExpired t ∧ x∈db.listExpired u := by
  unfold Database.listExpired
  rw [List.mem_filter,List.mem_filter,List.mem_filter]
  have hdue : Database.isDue (min t u) x=true ↔
      Database.isDue t x=true ∧ Database.isDue u x=true := by
    unfold Database.isDue
    cases x.expiresAt with
    | none => simp
    | some e =>
      have hmin : e≤ min t u ↔ e≤t ∧ e≤u := le_min_iff
      simp [hmin]
      tauto
  rw [hdue]
  tauto

theorem mem_listExpired_max {db : Database} {t u : Time} {x : Subscription} :
    x∈db.listExpired (max t u) ↔ x∈db.listExpired t ∨ x∈db.listExpired u := by
  unfold Database.listExpired
  rw [List.mem_filter,List.mem_filter,List.mem_filter]
  have hdue : Database.isDue (max t u) x=true ↔
      Database.isDue t x=true ∨ Database.isDue u x=true := by
    unfold Database.isDue
    cases x.expiresAt with
    | none => simp
    | some e =>
      have hmax : e≤ max t u ↔ e≤t ∨ e≤u := le_max_iff
      simp [hmax]
      tauto
  rw [hdue]
  tauto

/-- What is due after some were expired was due before. -/
theorem Sweeping.mem_due (h : Sweeping sweeper w s) {t : Time} {x : Subscription} :
    x∈s.committed.listExpired t ↔ x∈w.db.listExpired t ∧
      ∀ y∈both fun i => (s.party i).place.swept,y.id≠x.id := by
  unfold Database.listExpired
  rw [h.subscriptions,Store.rows_mapRows,List.mem_filter,List.mem_filter,List.mem_map]
  generalize (both fun i => (s.party i).place.swept)=xs
  have hself : ∀ r,(∀ y∈xs,y.id≠r.id) → expiredAmong xs r=r := by
    intro r hr
    have hany : (xs.any fun y => y.id=r.id)=false := by
      rw [List.any_eq_false]
      intro y hy
      simpa using hr y hy
    unfold expiredAmong
    rw [hany]
    rfl
  constructor
  · rintro ⟨⟨r,hr,hrx⟩,hdue⟩
    have hout : ∀ y∈xs,y.id≠r.id := by
      intro y hy hid
      have hany : (xs.any fun y => y.id=r.id)=true :=
        List.any_eq_true.mpr ⟨y,hy,decide_eq_true hid⟩
      rw [← hrx] at hdue
      unfold expiredAmong at hdue
      rw [hany] at hdue
      simp [Database.isDue] at hdue
    rw [hself r hout] at hrx
    rw [← hrx] at hdue ⊢
    exact ⟨⟨hr,hdue⟩,hout⟩
  · rintro ⟨⟨hx,hdue⟩,hout⟩
    exact ⟨⟨x,hx,hself x hout⟩,hdue⟩

/-- What a run has committed was due to it. -/
theorem Sweeping.swept_due (h : Sweeping sweeper w s) (i : Bool) {x : Subscription}
    (hx : x∈(s.party i).place.swept) :
    (s.party i).place.due=some (s.party i).place.swept ∧
      x∈w.db.listExpired (sweeper i).cutoff := by
  cases hplace : (s.party i).place with
  | finished told =>
    rw [hplace] at hx
    exact ⟨rfl,(h.due i told (by rw [hplace]; rfl)).2.1 x hx⟩
  | _ => rw [hplace] at hx; exact absurd hx List.not_mem_nil

/-- What a run reads as due is all that is due to it and the other has not committed. -/
theorem Sweeping.reads (h : Sweeping sweeper w s) (hplace : (s.party i).place=.start) :
    let l := s.committed.listExpired (sweeper i).cutoff
    l.Nodup ∧ (∀ x∈l,x∈w.db.listExpired (sweeper i).cutoff) ∧
      ∀ x∈w.db.listExpired (sweeper i).cutoff,x∈l ∨ x∈(s.party (!i)).place.swept := by
  refine ⟨List.Nodup.of_map _ (listExpired_nodup _ _),fun x hx => (h.mem_due.mp hx).1,
    fun x hx => ?_⟩
  by_cases hin : ∃ y∈(both fun i => (s.party i).place.swept),y.id=x.id
  · obtain ⟨y,hy,hid⟩ := hin
    have hy : y∈(s.party (!i)).place.swept := by
      have hy := (both_perm _ i).subset hy
      rw [hplace] at hy
      simpa [SweepPlace.swept] using hy
    have hrow := (List.mem_filter.mp (h.swept_due _ hy).2).1
    have hrow' := (List.mem_filter.mp hx).1
    right
    rw [← Store.eq_of_key hrow hrow' hid]
    exact hy
  · left
    apply h.mem_due.mpr
    exact ⟨hx,fun y hy hid => hin ⟨y,hy,hid⟩⟩

theorem noneShared_update {place : SweepPlace} (db : Database) (rest : Surroundings)
    (writes : List Statement) (h : place.due=(s.party i).place.due) :
    NoneShared ⟨db,rest,Function.update s.party i ⟨place,writes⟩⟩ ↔ NoneShared s := by
  rw [noneShared_iff i,noneShared_iff (s := s) i]
  show (∀ l m,(Function.update s.party i _ i).place.due=some l →
    (Function.update s.party i _ (!i)).place.due=some m → l.Disjoint m) ↔ _
  rw [Function.update_self,update_not]
  show (∀ l m,place.due=some l → _) ↔ _
  rw [h]

/-- A run that has begun keeps to its list. -/
theorem Sweeping.steady (h : Sweeping sweeper w s) (place : SweepPlace) (ws : List Statement)
    (rest : Surroundings) (es ls ts : List Subscription) (hbegun : (s.party i).place≠.start)
    (hexpires : ws.filterMap Statement.expires=es.map Subscription.id)
    (hpending : place.pending=(s.party i).place.pending++es)
    (haudits : (ws.filterMap Statement.audits).map AuditLog.subject=ls.map expirySubject)
    (hids : ((ws.filterMap Statement.audits).map AuditLog.id).Nodup)
    (hserial : ∀ a∈ws.filterMap Statement.audits,s.rest.serial≤a.id ∧ a.id<rest.serial)
    (hgrows : s.rest.serial≤rest.serial)
    (hlogged : place.logged=(s.party i).place.logged++ls)
    (hnotices : rest.notices.map some=s.rest.notices.map some++ts.map (noticeOf w.db))
    (htold : place.told=(s.party i).place.told++ts)
    (hswept : place.swept=(s.party i).place.swept)
    (hnamed : ∀ x notice,place.atHand=some (x,notice) → noticeOf w.db x=some notice)
    (hdue : place.due=(s.party i).place.due)
    (hended : place.working=false → (s.party i).writes++ws=[])
    (hnext : sweepNext sweeper i (s.party i).place (s.view Statement.execute i) s.rest=
      .work place ws rest) :
    Sweeping sweeper w (sweepTick sweeper s i) ∧
      (NoneShared (sweepTick sweeper s i) ↔ NoneShared s ∧ Unopposed sweeper s i) := by
  have hsteady : Unopposed sweeper s i := fun hstart => absurd hstart hbegun
  unfold sweepTick
  rw [Workplace.tick_work hnext]
  refine ⟨h.work es ls ts hexpires hpending haudits hids hserial hgrows hlogged hnotices htold hswept hnamed
    (fun l hl => h.due i l (hdue ▸ hl)) hended,?_⟩
  exact (noneShared_update _ _ _ hdue).trans (and_iff_left hsteady).symm

/-- A run that reads while the other is at work shares what is due to both. -/
theorem Sweeping.opposed (h : Sweeping sweeper w s) (hplace : (s.party i).place=.start)
    (hworking : (s.party (!i)).place.working=true) {m : List Subscription}
    (hm : (s.party (!i)).place.due=some m) :
    (s.committed.listExpired (sweeper i).cutoff).Disjoint m ↔
      s.committed.listExpired (min (sweeper i).cutoff (sweeper (!i)).cutoff)=[] := by
  have hnone : ∀ y,y∉both fun i => (s.party i).place.swept := by
    intro y hy
    have hy := (both_perm _ i).subset hy
    rw [hplace] at hy
    cases hother : (s.party (!i)).place <;> rw [hother] at hy hworking <;>
      simp [SweepPlace.swept,SweepPlace.working] at hy hworking
  have hsame : ∀ {t x},x∈s.committed.listExpired t ↔ x∈w.db.listExpired t := by
    intro t x
    exact h.mem_due.trans (and_iff_left fun y hy => absurd hy (hnone y))
  have hdue : ∀ x,x∈m ↔ x∈w.db.listExpired (sweeper (!i)).cutoff := by
    intro x
    obtain ⟨_,hsub,hall⟩ := h.due (!i) m hm
    rw [Bool.not_not,hplace] at hall
    exact ⟨hsub x,fun hx => (hall x hx).resolve_right List.not_mem_nil⟩
  rw [List.eq_nil_iff_forall_not_mem]
  constructor
  · intro hdis x hx
    obtain ⟨hi,ho⟩ := mem_listExpired_min.mp hx
    exact hdis hi ((hdue x).mpr (hsame.mp ho))
  · intro hempty x hx hxm
    exact hempty x (mem_listExpired_min.mpr ⟨hx,hsame.mpr ((hdue x).mp hxm)⟩)

/-- A run reads what is due. -/
theorem Sweeping.begin (h : Sweeping sweeper w s) (hplace : (s.party i).place=.start) :
    Sweeping sweeper w (sweepTick sweeper s i) ∧
      (NoneShared (sweepTick sweeper s i) ↔ NoneShared s ∧ Unopposed sweeper s i) := by
  have hwrites : (s.party i).writes=[] := h.ended i (by rw [hplace]; rfl)
  have hview : s.view Statement.execute i=s.committed := by
    unfold Workplace.view
    rw [hwrites]
    rfl
  have hnext : sweepNext sweeper i (s.party i).place (s.view Statement.execute i) s.rest=
      .work (.sweeping [] (s.committed.listExpired (sweeper i).cutoff)) [] s.rest := by
    rw [hplace,hview]
    rfl
  unfold sweepTick
  rw [Workplace.tick_work hnext]
  refine ⟨h.work [] [] [] rfl (by rw [hplace]; rfl) rfl List.nodup_nil
    (fun a ha => absurd ha List.not_mem_nil) le_rfl (by rw [hplace]; rfl) (List.append_nil _).symm
    (by rw [hplace]; rfl) (by rw [hplace]; rfl) (fun _ _ hx => by cases hx)
    (fun l hl => ?_) (fun hw => by cases hw),?_⟩
  · cases hl
    exact h.reads hplace
  have hbefore : NoneShared s := by
    rw [noneShared_iff i,hplace]
    intro l m hl
    cases hl
  rw [and_iff_right hbefore,noneShared_iff i]
  show (∀ l m,(Function.update s.party i _ i).place.due=some l →
    (Function.update s.party i _ (!i)).place.due=some m → l.Disjoint m) ↔ _
  rw [Function.update_self,update_not]
  cases hworking : (s.party (!i)).place.working with
  | true =>
    obtain ⟨m,hm⟩ : ∃ m,(s.party (!i)).place.due=some m := by
      cases hother : (s.party (!i)).place <;> rw [hother] at hworking <;>
        first | exact ⟨_,rfl⟩ | cases hworking
    have hopposed := h.opposed hplace hworking hm
    constructor
    · exact fun hdis _ => Or.inr (hopposed.mp (hdis _ m (congrArg some (List.nil_append _)) hm))
    · intro hall l k hl hk
      cases hl
      cases hm.symm.trans hk
      exact hopposed.mpr ((hall hplace).resolve_left (by rw [hworking]; decide))
  | false =>
    refine iff_of_true (fun l m hl hm x hxl hxm => ?_) fun _ => Or.inl hworking
    cases hl
    refine (h.mem_due.mp hxl).2 x ?_ rfl
    apply (both_perm _ (!i)).symm.subset
    cases hother : (s.party (!i)).place <;> rw [hother] at hworking hm <;> cases hworking <;>
      cases hm
    exact List.mem_append_left _ hxm

theorem failing_update {place : SweepPlace} {writes : List Statement} (db : Database)
    (rest : Surroundings) (h : place=.failed) :
    Failing ⟨db,rest,Function.update s.party i ⟨place,writes⟩⟩ := by
  refine ⟨i,?_⟩
  show (Function.update s.party i _ i).place=_
  rw [Function.update_self]
  exact h

theorem disableStatements_quiet (db : Database) (d : Device) :
    (disableStatements db d).filterMap Statement.expires=[] ∧
      (disableStatements db d).filterMap Statement.audits=[] := by
  unfold disableStatements
  cases d.protocol <;> simp [Statement.expires,Statement.audits]

/-- What each step does, as long as no run fails. -/
theorem sweepTick_sweeping (h : Sweeping sweeper w s) (i : Bool) :
    Failing (sweepTick sweeper s i) ∨ (Sweeping sweeper w (sweepTick sweeper s i) ∧
      (NoneShared (sweepTick sweeper s i) ↔ NoneShared s ∧ Unopposed sweeper s i)) := by
  cases hplace : (s.party i).place with
  | start => exact Or.inr (h.begin hplace)
  | sweeping told todo =>
    cases todo with
    | nil =>
      have hnext : sweepNext sweeper i (s.party i).place (s.view Statement.execute i) s.rest=
          .commit (.finished told) := by
        rw [hplace]
        rfl
      have hdue : (SweepPlace.finished told).due=(s.party i).place.due := by
        rw [hplace]
        exact congrArg some (List.append_nil told).symm
      have hsteady : Unopposed sweeper s i := fun hstart => by rw [hplace] at hstart; cases hstart
      unfold sweepTick
      rw [Workplace.tick_commit hnext]
      right
      exact ⟨h.commit hplace,(noneShared_update _ _ _ hdue).trans (and_iff_left hsteady).symm⟩
    | cons x todo =>
      have htables : noticeOf (s.view Statement.execute i) x=noticeOf w.db x := by
        obtain ⟨hplans,husers⟩ := execute_tables s.committed (s.party i).writes
        unfold noticeOf Workplace.view
        rw [hplans,husers,h.tables.1,h.tables.2]
      cases hnotice : noticeOf w.db x with
      | none =>
        have hnext : sweepNext sweeper i (s.party i).place (s.view Statement.execute i) s.rest=
            .rollback .failed s.rest := by
          rw [hplace]
          unfold sweepNext
          simp only [htables,hnotice]
        unfold sweepTick
        rw [Workplace.tick_rollback hnext]
        exact Or.inl (failing_update _ _ rfl)
      | some notice =>
        right
        apply h.steady (.expired told x notice todo) [.expireSubscription x.id] s.rest [x] [] []
          (by rw [hplace]; nofun) rfl
          (by rw [hplace]; rfl) rfl List.nodup_nil
          (fun a ha => absurd ha List.not_mem_nil) le_rfl
          (by rw [hplace]; exact (List.append_nil told).symm) (List.append_nil _).symm
          (by rw [hplace]; exact (List.append_nil told).symm) (by rw [hplace]; rfl)
          (fun y n hy => by cases hy; exact hnotice) (by rw [hplace]; rfl) (fun hw => by cases hw)
        rw [hplace]
        show (match noticeOf (s.view Statement.execute i) x with
          | none => _
          | some notice => _)=_
        rw [htables,hnotice]
  | expired told x notice todo =>
    right
    apply h.steady
      (.disabling told x notice ((s.view Statement.execute i).devicesOf x.userId) todo) [] s.rest
      [] [] [] (by rw [hplace]; nofun) rfl
      (by rw [hplace]; exact (List.append_nil (told++[x])).symm) rfl List.nodup_nil
      (fun a ha => absurd ha List.not_mem_nil) le_rfl
      (by rw [hplace]; exact (List.append_nil told).symm) (List.append_nil _).symm
      (by rw [hplace]; exact (List.append_nil told).symm) (by rw [hplace]; rfl)
      (fun y n hy => h.named i y n (by rw [hplace]; exact hy)) (by rw [hplace]; rfl)
      (fun hw => by cases hw)
    rw [hplace]
    rfl
  | disabling told x notice devices todo =>
    have hnamed : ∀ y n,some (x,notice)=some (y,n) → noticeOf w.db y=some n :=
      fun y n hy => h.named i y n (by rw [hplace]; exact hy)
    cases devices with
    | nil =>
      right
      apply h.steady (.recorded told x notice todo)
        [.insertAudit (expiryLog s.rest.serial (sweeper i).now x notice)]
        {s.rest with serial := s.rest.serial+1} [] [x] []
        (by rw [hplace]; nofun) rfl (by rw [hplace]; exact (List.append_nil (told++[x])).symm) rfl
        (List.nodup_singleton _) (fun a ha => ?_) (Int.le_add_one le_rfl) (by rw [hplace]; rfl)
        (List.append_nil _).symm (by rw [hplace]; exact (List.append_nil told).symm)
        (by rw [hplace]; rfl) hnamed (by rw [hplace]; rfl) (fun hw => by cases hw)
      · rw [hplace]
        rfl
      · have ha : a∈[expiryLog s.rest.serial (sweeper i).now x notice] := ha
        rw [List.mem_singleton.mp ha]
        exact ⟨le_rfl,Int.lt_succ _⟩
    | cons d ds =>
      have hgoes : ∀ ws rest,ws.filterMap Statement.expires=[] →
          ws.filterMap Statement.audits=[] → s.rest.serial≤rest.serial →
          rest.notices=s.rest.notices →
          sweepNext sweeper i (s.party i).place (s.view Statement.execute i) s.rest=
            .work (.disabling told x notice ds todo) ws rest →
          Sweeping sweeper w (sweepTick sweeper s i) ∧
            (NoneShared (sweepTick sweeper s i) ↔ NoneShared s ∧ Unopposed sweeper s i) := by
        intro ws rest hexpires haudits hserial hnotices hnext
        exact h.steady (.disabling told x notice ds todo) ws rest [] [] []
          (by rw [hplace]; nofun) hexpires
          (by rw [hplace]; exact (List.append_nil (told++[x])).symm) (by rw [haudits]; rfl)
          (by rw [haudits]; exact List.nodup_nil)
          (fun a ha => by rw [haudits] at ha; exact absurd ha List.not_mem_nil) hserial
          (by rw [hplace]; exact (List.append_nil told).symm)
          (by rw [hnotices]; exact (List.append_nil _).symm)
          (by rw [hplace]; exact (List.append_nil told).symm) (by rw [hplace]; rfl) hnamed
          (by rw [hplace]; rfl) (fun hw => by cases hw) hnext
      by_cases hact : d.status=.active
      · cases hrun : disable d
            ⟨s.rest.world (s.view Statement.execute i),quiet (sweeper i).now⟩ with
        | mk r t =>
          obtain ⟨hview,hserial⟩ := (disable_desk d _).rel_of_run hrun
          have hnotices : t.notices=s.rest.notices := (desk_rest ⟨hview,hserial⟩).2.1
          cases r with
          | ok u =>
            right
            apply hgoes _ t.toWorld.surroundings
              (disableStatements_quiet (s.view Statement.execute i) d).1
              (disableStatements_quiet _ d).2 hserial hnotices
            rw [hplace]
            unfold sweepNext
            simp only [if_pos hact,hrun]
          | error e =>
            have hnext : sweepNext sweeper i (s.party i).place (s.view Statement.execute i) s.rest=
                .rollback .failed t.toWorld.surroundings := by
              rw [hplace]
              unfold sweepNext
              simp only [if_pos hact,hrun]
            unfold sweepTick
            rw [Workplace.tick_rollback hnext]
            exact Or.inl (failing_update _ _ rfl)
      · right
        apply hgoes [] s.rest rfl rfl le_rfl rfl
        rw [hplace]
        unfold sweepNext
        simp only [if_neg hact]
  | recorded told x notice todo =>
    have hnotice : noticeOf w.db x=some notice := h.named i x notice (by rw [hplace]; rfl)
    right
    apply h.steady (.sweeping (told++[x]) todo) []
      {s.rest with notices := s.rest.notices++[notice]} [] [] [x] (by rw [hplace]; nofun) rfl
      (by rw [hplace]; exact (List.append_nil (told++[x])).symm) rfl List.nodup_nil
      (fun a ha => absurd ha List.not_mem_nil) le_rfl
      (by rw [hplace]; exact (List.append_nil (told++[x])).symm)
      (by rw [List.map_append,List.map_singleton,List.map_singleton,hnotice])
      (by rw [hplace]; rfl) (by rw [hplace]; rfl) (fun y n hy => by cases hy)
      (by rw [hplace]; exact congrArg some (List.append_assoc told [x] todo))
      (fun hw => by cases hw)
    rw [hplace]
    rfl
  | finished told =>
    have hwrites : (s.party i).writes=[] := h.ended i (by rw [hplace]; rfl)
    right
    apply h.steady (.finished told) [] s.rest [] [] [] (by rw [hplace]; nofun) rfl
      (by rw [hplace]; rfl) rfl List.nodup_nil
      (fun a ha => absurd ha List.not_mem_nil) le_rfl
      (by rw [hplace]; exact (List.append_nil told).symm) (List.append_nil _).symm
      (by rw [hplace]; exact (List.append_nil told).symm) (by rw [hplace])
      (fun y n hy => by cases hy) (by rw [hplace]) (fun _ => by rw [hwrites]; rfl)
    rw [hplace]
    rfl
  | failed =>
    have hnext : sweepNext sweeper i (s.party i).place (s.view Statement.execute i) s.rest=
        .work .failed [] s.rest := by
      rw [hplace]
      rfl
    unfold sweepTick
    rw [Workplace.tick_work hnext]
    exact Or.inl (failing_update _ _ rfl)

theorem failing_sweepTick (h : Failing s) (i : Bool) : Failing (sweepTick sweeper s i) := by
  obtain ⟨j,hj⟩ := h
  refine ⟨j,?_⟩
  by_cases hji : j=i
  · have hnext : sweepNext sweeper i (s.party i).place (s.view Statement.execute i) s.rest=
        .work .failed [] s.rest := by
      rw [← hji,hj]
      rfl
    unfold sweepTick
    rw [Workplace.tick_work hnext,hji]
    show (Function.update s.party i _ i).place=_
    rw [Function.update_self]
  · unfold sweepTick
    rw [Workplace.tick_other hji]
    exact hj

theorem failing_run (h : Failing s) (is : List Bool) : Failing (is.foldl (sweepTick sweeper) s) := by
  induction is generalizing s with
  | nil => exact h
  | cons i is ih => exact ih (failing_sweepTick h i)

/-- At the end the runs share no subscription just when none was opposed. -/
theorem sweepRun_sweeping (h : Sweeping sweeper w s) (is : List Bool)
    (hend : ¬Failing (is.foldl (sweepTick sweeper) s)) :
    Sweeping sweeper w (is.foldl (sweepTick sweeper) s) ∧
      (NoneShared (is.foldl (sweepTick sweeper) s) ↔
        NoneShared s ∧ Conducted (Unopposed sweeper) (sweepTick sweeper) s is) := by
  induction is generalizing s with
  | nil => exact ⟨h,(and_iff_left trivial).symm⟩
  | cons i is ih =>
    rcases sweepTick_sweeping h i with hfail|⟨hnext,hshared⟩
    · exact absurd (failing_run hfail is) hend
    · obtain ⟨hlast,hall⟩ := ih hnext hend
      refine ⟨hlast,hall.trans ?_⟩
      rw [hshared,and_assoc]
      exact Iff.rfl

theorem sweeping_opening (sweeper : Bool → Sweeper) (hn : LogsNumbered w) :
    Sweeping sweeper w (Workplace.opening w.db w.surroundings .start) where
  tables := ⟨rfl,rfl⟩
  subscriptions := (Store.mapRows_self _ _ fun _ _ => rfl).symm
  expires _ := rfl
  numbered a ha := hn a (by simpa [allLogs,both,Workplace.opening] using ha)
  distinct := by
    simpa [allLogs,both,Workplace.opening] using w.db.auditLogs.nodup
  logs := by simp [allLogs,both,Workplace.opening,SweepPlace.logged]
  notices := by
    simp [both,Workplace.opening,SweepPlace.told,World.surroundings]
  named i x notice hx := by cases hx
  due i l hl := by cases hl
  ended _ _ := rfl

/-- When both runs are through, each due subscription is dealt with once just when the runs share
none. -/
theorem Sweeping.once_iff (h : Sweeping sweeper w s)
    (hdone : ∀ i,∃ told,(s.party i).place=.finished told) :
    SweptOnce w (w.db.listExpired (max (sweeper false).cutoff (sweeper true).cutoff))
      (outcomeOf s) ↔ NoneShared s := by
  obtain ⟨l,hl⟩ := hdone false
  obtain ⟨m,hm⟩ := hdone true
  have hboth : ∀ q : SweepPlace → List Subscription,q (.finished l)=l → q (.finished m)=m →
      (both fun i => (s.party i).place |> q)=l++m := by
    intro q hql hqm
    unfold both
    simp only [hl,hm,hql,hqm]
  have hlogs : allLogs s=s.committed.auditLogs.rows := by
    unfold allLogs
    show _++((s.party false).writes.filterMap _++(s.party true).writes.filterMap _)=_
    rw [h.ended false (by rw [hl]; rfl),h.ended true (by rw [hm]; rfl)]
    exact List.append_nil _
  have hsubjects := h.logs
  rw [hlogs,hboth SweepPlace.logged rfl rfl] at hsubjects
  have hnotices := h.notices
  rw [hboth SweepPlace.told rfl rfl] at hnotices
  have hsubs := h.subscriptions
  obtain ⟨hlnodup,hlsub,hlall⟩ := h.due false l (by rw [hl]; rfl)
  obtain ⟨hmnodup,hmsub,hmall⟩ := h.due true m (by rw [hm]; rfl)
  rw [Bool.not_false,hm] at hlall
  rw [Bool.not_true,hl] at hmall
  generalize hdue : w.db.listExpired (max (sweeper false).cutoff (sweeper true).cutoff)=due
  have hmem : ∀ x,x∈l++m ↔ x∈due := by
    intro x
    rw [← hdue,mem_listExpired_max,List.mem_append]
    constructor
    · exact fun hx => hx.imp (hlsub x) (hmsub x)
    · rintro (hx|hx)
      · exact hlall x hx
      · exact (hmall x hx).symm
  have hids : (due.map Subscription.id).Nodup := hdue ▸ listExpired_nodup _ _
  have hshared : NoneShared s ↔ l.Disjoint m := by
    unfold NoneShared
    rw [hl,hm]
    constructor
    · exact fun hall => hall l m rfl rfl
    · intro hdis a b ha hb
      cases ha
      cases hb
      exact hdis
  rw [hshared]
  constructor
  · intro honce
    have hperm : ((l++m).map expirySubject).Perm (due.map expirySubject) :=
      (List.perm_append_left_iff _).mp (hsubjects.symm.trans honce.recorded)
    have hnodup : (due.map expirySubject).Nodup := by
      have hmap : due.map expirySubject=(due.map Subscription.id).map fun k =>
          ("subscription.expired","subscription",some k) := by
        rw [List.map_map]
        rfl
      rw [hmap]
      exact hids.map fun a b hab => by simpa using hab
    exact List.disjoint_of_nodup_append (List.Nodup.of_map _ (hperm.nodup_iff.mpr hnodup))
  · intro hdis
    have hperm : (l++m).Perm due :=
      (List.perm_ext_iff_of_nodup (hlnodup.append hmnodup hdis) (List.Nodup.of_map _ hids)).mpr hmem
    refine ⟨fun x hx => ?_,?_,?_⟩
    · have hget := (due_active (hdue ▸ hx)).1
      refine ⟨expiredAmong (both fun i => (s.party i).place.swept) x,?_,?_⟩
      · show s.committed.subscriptions.get? x.id=_
        rw [hsubs,Store.get?_mapRows,hget]
        rfl
      · have hany : ((both fun i => (s.party i).place.swept).any fun y => y.id=x.id)=true := by
          rw [hboth SweepPlace.swept rfl rfl,List.any_eq_true]
          exact ⟨x,(hmem x).mpr hx,decide_eq_true rfl⟩
        unfold expiredAmong
        rw [if_pos hany]
    · exact hsubjects.trans ((hperm.map _).append_left _)
    · exact hnotices.trans ((hperm.map _).append_left _)

/-- Two runs of the sweep, however their steps come together, do the work of one just when neither
reads while the other is at work and something is due to both. -/
theorem sweeps_once_iff (hn : LogsNumbered w) (is : List Bool)
    (hdone : ∀ i,∃ told,((sweepRun sweeper w is).party i).place=.finished told) :
    SweptOnce w (w.db.listExpired (max (sweeper false).cutoff (sweeper true).cutoff))
      (outcomeOf (sweepRun sweeper w is)) ↔
    Conducted (Unopposed sweeper) (sweepTick sweeper)
      (Workplace.opening w.db w.surroundings .start) is := by
  have hend : ¬Failing (sweepRun sweeper w is) := by
    rintro ⟨i,hi⟩
    obtain ⟨told,htold⟩ := hdone i
    rw [hi] at htold
    cases htold
  obtain ⟨hlast,hall⟩ := sweepRun_sweeping (sweeping_opening sweeper hn) is hend
  have hstart : NoneShared (Workplace.opening w.db w.surroundings .start) :=
    fun l m hl => by cases hl
  exact (hlast.once_iff hdone).trans (hall.trans (and_iff_right hstart))

end

/-- The clock and what the agents answer stay as they are. -/
abbrev envFrame : Frame Session := keeping fun s => (s.now,s.allowedIps,s.qrFits)

theorem env_books : Bookkeeping envFrame :=
  ⟨fun _ => ⟨rfl,by simp⟩,fun _ _ => ⟨rfl,le_rfl⟩⟩

theorem disable_env (d : Device) : Within envFrame (disable d) :=
  disable_within env_books (fun _ _ _ => ⟨rfl,le_rfl⟩) (fun _ _ => ⟨rfl,le_rfl⟩)
    (fun _ _ => ⟨rfl,le_rfl⟩) d

theorem disable_quiet {d : Device} {t u : Session} {now : Time} (ht : t.toEnv=quiet now)
    (h : disable d t=(.ok (),u)) : u.toEnv=quiet now := by
  have ho : t.outcomes=[] := congrArg Env.outcomes ht
  obtain ⟨v,hv,hvo⟩ := disable_completes ho (disable_ready h)
  rw [h] at hv
  cases hv
  obtain ⟨hview,_⟩ := (disable_env d t).rel_of_run h
  simp only [Prod.mk.injEq] at hview
  obtain ⟨hnow,hips,hfits⟩ := hview
  have hnow : u.now=now := hnow.trans (congrArg Env.now ht)
  have hips : u.allowedIps=fun _ => some [] := hips.trans (congrArg Env.allowedIps ht)
  have hfits : u.qrFits=fun _ => true := hfits.trans (congrArg Env.qrFits ht)
  cases u with
  | mk w e =>
    cases e
    simp_all [quiet]

/-- `disable` writes its statements. -/
theorem disable_statements {d : Device} {t u : Session} (h : disable d t=(.ok (),u)) :
    (disableStatements t.db d).foldl Statement.execute t.db=u.db := by
  obtain ⟨_,v,hv,hlast⟩ := Eff.bind_ok.mp h
  have hlast : u.db=Statement.execute v.db (.setDeviceStatus d.id .disabled) := by
    cases hlast
    rfl
  have hcredentials : ∀ {cs : List VlessCredential} {a b : Session},
      Eff.each disableCredential cs a=(.ok (),b) →
      (cs.map fun c => Statement.disableCredential c.id).foldl Statement.execute a.db=b.db := by
    intro cs
    induction cs with
    | nil =>
      intro a b hrun
      cases hrun
      rfl
    | cons c cs ih =>
      intro a b hrun
      obtain ⟨_,x,hx,hrest⟩ := Eff.bind_ok.mp hrun
      obtain ⟨_,y,hy,hset⟩ := Eff.bind_ok.mp hx
      have hfirst : x.db=Statement.execute a.db (.disableCredential c.id) := by
        cases hset
        rcases removeCredentialFromXray_cases hy with ⟨_,hya⟩|⟨_,_,_,hya⟩ <;> rw [hya] <;> rfl
      rw [List.map_cons,List.foldl_cons,← hfirst]
      exact ih hrest
  unfold disableStatements
  rw [List.foldl_append,hlast,List.foldl_cons,List.foldl_nil]
  congr 1
  unfold disableTransport at hv
  cases hproto : d.protocol with
  | vless =>
    simp only [hproto] at hv
    exact hcredentials hv
  | wireguard =>
    simp only [hproto] at hv
    obtain ⟨_,_,⟨_,hvt⟩|⟨_,_,_,_,hvt⟩⟩ := disablePeer_ok hv <;> rw [hvt] <;> rfl

section

variable {sweeper : Bool → Sweeper} {s : SweepRace} {t u : Session} {place : SweepPlace}

/-- Run `false` stands where the session of a lone run does. -/
structure Follows (sweeper : Bool → Sweeper) (s : SweepRace) (t : Session) (place : SweepPlace) :
    Prop where
  place : (s.party false).place=place
  view : s.view Statement.execute false=t.db
  rest : s.rest=t.toWorld.surroundings
  env : t.toEnv=quiet (sweeper false).now

/-- The state after some steps of run `false`. -/
def Leads (sweeper : Bool → Sweeper) (s u : SweepRace) : Prop :=
  ∃ n,(List.replicate n false).foldl (sweepTick sweeper) s=u

theorem Leads.refl (s : SweepRace) : Leads sweeper s s := ⟨0,rfl⟩

theorem Leads.cons {u : SweepRace} (h : Leads sweeper (sweepTick sweeper s false) u) :
    Leads sweeper s u := by
  obtain ⟨n,hn⟩ := h
  exact ⟨n+1,hn⟩

theorem Leads.trans {u v : SweepRace} (h : Leads sweeper s u) (k : Leads sweeper u v) :
    Leads sweeper s v := by
  obtain ⟨n,hn⟩ := h
  obtain ⟨m,hm⟩ := k
  refine ⟨n+m,?_⟩
  rw [List.replicate_add,List.foldl_append,hn,hm]

theorem Follows.work (h : Follows sweeper s t place) {place' : SweepPlace} (ws : List Statement)
    (henv : u.toEnv=quiet (sweeper false).now)
    (hnext : sweepNext sweeper false place t.db t.toWorld.surroundings=
      .work place' ws u.toWorld.surroundings)
    (hws : ws.foldl Statement.execute t.db=u.db) :
    Follows sweeper (sweepTick sweeper s false) u place' := by
  have hnext : sweepNext sweeper false (s.party false).place (s.view Statement.execute false)
      s.rest=.work place' ws u.toWorld.surroundings := by
    rw [h.place,h.view,h.rest]
    exact hnext
  unfold sweepTick
  rw [Workplace.tick_work hnext]
  refine ⟨?_,?_,rfl,henv⟩
  · show (Function.update s.party false _ false).place=_
    rw [Function.update_self]
    rfl
  · show (Function.update s.party false _ false).writes.foldl _ s.committed=_
    rw [Function.update_self]
    show ((s.party false).writes++ws).foldl _ s.committed=_
    rw [List.foldl_append]
    exact (congrArg (ws.foldl _) h.view).trans hws

theorem Follows.devices {told todo : List Subscription} {x : Subscription} {notice : Notice}
    {ds : List Device} (h : Follows sweeper s t (.disabling told x notice ds todo))
    (hrun : Eff.each disableIfActive ds t=(.ok (),u)) :
    ∃ s',Leads sweeper s s' ∧ Follows sweeper s' u (.disabling told x notice [] todo) := by
  induction ds generalizing s t with
  | nil =>
    cases hrun
    exact ⟨s,Leads.refl s,h⟩
  | cons d ds ih =>
    obtain ⟨_,v,hv,hrest⟩ := Eff.bind_ok.mp hrun
    have hstep : Follows sweeper (sweepTick sweeper s false) v
        (.disabling told x notice ds todo) := by
      unfold disableIfActive at hv
      by_cases hact : d.status=.active
      · rw [if_pos hact] at hv
        have hworld : (⟨t.toWorld.surroundings.world t.db,quiet (sweeper false).now⟩ : Session)=t := by
          rw [← h.env]
          rfl
        apply h.work (disableStatements t.db d) (disable_quiet h.env hv) ?_
          (disable_statements hv)
        unfold sweepNext
        simp only [if_pos hact,hworld,hv]
      · rw [if_neg hact] at hv
        cases hv
        apply h.work [] h.env ?_ rfl
        unfold sweepNext
        simp only [if_neg hact]
    obtain ⟨s',hleads,hlast⟩ := ih hstep hrest
    exact ⟨s',hleads.cons,hlast⟩

theorem Follows.round {told todo : List Subscription} {x : Subscription}
    (h : Follows sweeper s t (.sweeping told (x::todo))) (hrun : processOne x t=(.ok (),u)) :
    ∃ s',Leads sweeper s s' ∧ Follows sweeper s' u (.sweeping (told++[x]) todo) := by
  unfold processOne at hrun
  rw [getDb_bind_run] at hrun
  obtain ⟨plan,hplan,hrun₁⟩ := Eff.orRaise_bind_ok.mp hrun
  obtain ⟨user,huser,hrun₂⟩ := Eff.orRaise_bind_ok.mp hrun₁
  obtain ⟨_,a,ha,hrun₃⟩ := Eff.bind_ok.mp hrun₂
  obtain ⟨_,b,hb,hrun₄⟩ := Eff.bind_ok.mp hrun₃
  obtain ⟨_,c,hc,hlast⟩ := Eff.bind_ok.mp hrun₄
  have hnotice : noticeOf t.db x=some ⟨user.telegramId,plan.name⟩ := by
    unfold noticeOf
    rw [hplan,huser]
    rfl
  have hexpired : Follows sweeper (sweepTick sweeper s false) a
      (.expired told x ⟨user.telegramId,plan.name⟩ todo) := by
    cases ha
    apply h.work [.expireSubscription x.id] ?_ ?_ rfl
    · exact h.env
    · unfold sweepNext
      simp only [hnotice]
      rfl
  have hreads := hexpired.work [] hexpired.env rfl rfl
  unfold disableAllForUser at hb
  rw [getDb_bind_run] at hb
  obtain ⟨s₁,hleads,hdisabled⟩ := hreads.devices hb
  have hrecorded : Follows sweeper (sweepTick sweeper s₁ false) c
      (.recorded told x ⟨user.telegramId,plan.name⟩ todo) := by
    unfold recordAudit at hc
    rw [getNow_bind_run,nextSerial_bind_run,alter_bind_run] at hc
    have hnow : b.now=(sweeper false).now := congrArg Env.now hdisabled.env
    have hcalm := hc.symm.trans (flush_calm (congrArg Env.outcomes hdisabled.env))
    cases hcalm
    apply hdisabled.work
      [.insertAudit (expiryLog b.serial (sweeper false).now x ⟨user.telegramId,plan.name⟩)]
    · exact hdisabled.env
    · rfl
    · rw [← hnow]
      rfl
  have hnotified : Follows sweeper (sweepTick sweeper (sweepTick sweeper s₁ false) false) u
      (.sweeping (told++[x]) todo) := by
    cases hlast
    apply hrecorded.work []
    · exact hrecorded.env
    · rfl
    · rfl
  refine ⟨_,(Leads.cons (Leads.cons hleads)).trans (Leads.refl _).cons.cons,hnotified⟩

theorem Follows.rounds {told todo : List Subscription} (h : Follows sweeper s t (.sweeping told todo))
    (hrun : Eff.each processOne todo t=(.ok (),u)) :
    ∃ s',Leads sweeper s s' ∧ Follows sweeper s' u (.sweeping (told++todo) []) := by
  induction todo generalizing s t told with
  | nil =>
    cases hrun
    rw [List.append_nil]
    exact ⟨s,Leads.refl s,h⟩
  | cons x todo ih =>
    obtain ⟨_,v,hv,hrest⟩ := Eff.bind_ok.mp hrun
    obtain ⟨s₁,hleads,hround⟩ := h.round hv
    obtain ⟨s₂,hleads',hlast⟩ := ih hround hrest
    rw [List.append_assoc] at hlast
    exact ⟨s₂,hleads.trans hleads',hlast⟩

/-- Alone, the steps of a run come to what `run_once` and the commit after it do. -/
theorem sweep_alone {w w' : World} {ids : List Id} (sweeper : Bool → Sweeper)
    (h : transaction (runOnce (sweeper false).asOf) (quiet (sweeper false).now) w=(.ok ids,w')) :
    ∃ s,Leads sweeper (Workplace.opening w.db w.surroundings .start) s ∧
      (s.party false).place=.finished (w.db.listExpired (sweeper false).cutoff) ∧
      outcomeOf s=w' := by
  cases hrun : runOnce (sweeper false).asOf ⟨w,quiet (sweeper false).now⟩ with
  | mk r t =>
    cases r with
    | error e =>
      unfold transaction at h
      rw [Eff.bind_run_error hrun] at h
      cases h
    | ok a =>
      have hrounds : Eff.each processOne (w.db.listExpired (sweeper false).cutoff)
          ⟨w,quiet (sweeper false).now⟩=(.ok (),t) := by
        unfold runOnce at hrun
        rw [getNow_bind_run,getDb_bind_run] at hrun
        obtain ⟨_,v,hv,hlast⟩ := Eff.bind_ok.mp hrun
        cases hlast
        exact hv
      have hstart : Follows sweeper (Workplace.opening w.db w.surroundings .start)
          ⟨w,quiet (sweeper false).now⟩ .start := ⟨rfl,rfl,rfl,rfl⟩
      have hbegun := hstart.work (u := ⟨w,quiet (sweeper false).now⟩) [] rfl rfl rfl
      obtain ⟨s,hleads,hlast⟩ := hbegun.rounds hrounds
      have hw : t.toWorld=w' := by
        unfold transaction at h
        rw [Eff.bind_run_ok hrun,
          Eff.bind_run_ok (flush_calm (congrArg Env.outcomes hlast.env))] at h
        cases h
        rfl
      have hnext : sweepNext sweeper false (s.party false).place (s.view Statement.execute false)
          s.rest=.commit (.finished (w.db.listExpired (sweeper false).cutoff)) := by
        rw [hlast.place]
        rfl
      refine ⟨sweepTick sweeper s false,hleads.cons.trans (Leads.refl _).cons,?_,?_⟩
      · unfold sweepTick
        rw [Workplace.tick_commit hnext]
        show (Function.update s.party false _ false).place=_
        rw [Function.update_self]
        rfl
      · unfold sweepTick
        rw [Workplace.tick_commit hnext,← hw]
        show s.rest.world (s.view Statement.execute false)=_
        rw [hlast.view,hlast.rest]
        rfl

end

/-- Runs at the time the opened shop's subscription is over. -/
def afterAMonth (_ : Bool) : Sweeper := ⟨days 31,none⟩

/-- One run begins when the other has committed. -/
theorem sweeps_once_iff_opened :
    SweptOnce opened (opened.db.listExpired (max (days 31) (days 31)))
      (outcomeOf (sweepRun afterAMonth opened (List.replicate 7 false++List.replicate 7 true))) ↔
    Conducted (Unopposed afterAMonth) (sweepTick afterAMonth)
      (Workplace.opening opened.db opened.surroundings .start)
      (List.replicate 7 false++List.replicate 7 true) := by
  have hended : ∀ i,(((sweepRun afterAMonth opened
      (List.replicate 7 false++List.replicate 7 true)).party i).place.due.isSome &&
      !((sweepRun afterAMonth opened
        (List.replicate 7 false++List.replicate 7 true)).party i).place.working)=true := by
    decide +kernel
  have hfinished := fun i => SweepPlace.finished_of (hended i)
  exact sweeps_once_iff opened_keyed.logs _ hfinished

/-- Both runs read the one subscription that is due before either commits. -/
theorem sweeps_not_once :
    ¬SweptOnce opened (opened.db.listExpired (max (days 31) (days 31)))
      (outcomeOf (sweepRun afterAMonth opened
        ([false,true]++List.replicate 7 false++List.replicate 7 true))) := by
  intro h
  have hlen := h.told.length_eq
  revert hlen
  decide +kernel

end VpnService.Backend
