import VpnService.Backend.Aborts
import VpnService.Backend.Limits

namespace VpnService.Backend

/-- The statements a flush sends. -/
inductive Statement
  | insertDevice (d : Device)
  | setDeviceStatus (k : Id) (status : DeviceStatus)
  | disableCredential (k : Id)
  | expireSubscription (k : Id)
  | insertAudit (a : AuditLog)

theorem Device.switched_id (status : DeviceStatus) (d : Device) :
    Device.id {d with status := status}=d.id := rfl

theorem VlessCredential.disabled_id (c : VlessCredential) :
    VlessCredential.id {c with status := .disabled}=c.id := rfl

theorem Subscription.expired_id (s : Subscription) :
    Subscription.id {s with status := .expired}=s.id := rfl

namespace Statement

def execute (db : Database) : Statement → Database
  | .insertDevice d => {db with devices := db.devices.insert d}
  | .setDeviceStatus k status => {db with
    devices := db.devices.modify k (fun d => {d with status := status})
      (Device.switched_id status)}
  | .disableCredential k => {db with
    vlessCredentials :=
      db.vlessCredentials.modify k (fun c => {c with status := .disabled})
        VlessCredential.disabled_id}
  | .expireSubscription k => {db with
    subscriptions :=
      db.subscriptions.modify k (fun s => {s with status := .expired}) Subscription.expired_id}
  | .insertAudit a => {db with auditLogs := db.auditLogs.insert a}

/-- The subscriptions a list of statements expires. -/
def expires : Statement → Option Id
  | .expireSubscription k => some k
  | _ => none

def audits : Statement → Option AuditLog
  | .insertAudit a => some a
  | _ => none

end Statement

/-- What the agents have, the sequence and the notices: all that no transaction rolls back. -/
structure Surroundings where
  vpn : String → IpPeerStore
  xray : String → Agent.UserStore
  serial : Int
  notices : List Notice

def World.surroundings (w : World) : Surroundings := ⟨w.vpn,w.xray,w.serial,w.notices⟩

def Surroundings.world (r : Surroundings) (db : Database) : World :=
  ⟨db,r.vpn,r.xray,r.serial,r.notices⟩

section

variable {db : Database} {ws : List Statement}

theorem execute_tables (db : Database) (ws : List Statement) :
    (ws.foldl Statement.execute db).plans=db.plans ∧ (ws.foldl Statement.execute db).users=db.users := by
  induction ws generalizing db with
  | nil => exact ⟨rfl,rfl⟩
  | cons w ws ih =>
    have hrest := ih (Statement.execute db w)
    cases w <;> exact hrest

theorem expiredAmong_append_singleton (xs : List Subscription) (x : Subscription)
    (r : Subscription) : expiredAmong (xs++[x]) r=
      if r.id=x.id then {expiredAmong xs r with status := .expired} else expiredAmong xs r := by
  unfold expiredAmong
  rw [List.any_append]
  by_cases hr : r.id=x.id
  · have hx : ([x].any fun y => y.id=r.id)=true := List.any_eq_true.mpr ⟨x,by simp,by simp [hr]⟩
    rw [hx,Bool.or_true,if_pos rfl,if_pos hr]
    split <;> rfl
  · have hx : ([x].any fun y => y.id=r.id)=false := by
      rw [List.any_eq_false]
      intro y hy
      rw [List.mem_singleton.mp hy]
      simpa using Ne.symm hr
    rw [hx,Bool.or_false,if_neg hr]

/-- Statements that expire `ys` do so on top of `xs`. -/
theorem execute_subscriptions {s : Store Subscription.id} {xs ys : List Subscription}
    (hdb : db.subscriptions=s.mapRows (expiredAmong xs) (expiredAmong_id xs))
    (hws : ws.filterMap Statement.expires=ys.map Subscription.id) :
    (ws.foldl Statement.execute db).subscriptions=
      s.mapRows (expiredAmong (xs++ys)) (expiredAmong_id _) := by
  induction ws generalizing db xs ys with
  | nil =>
    have hys : ys=[] := List.map_eq_nil_iff.mp hws.symm
    subst hys
    rw [List.foldl_nil,hdb]
    exact Store.mapRows_congr s _ _ fun r _ => by rw [List.append_nil]
  | cons w ws ih =>
    rw [List.foldl_cons]
    cases hw : w.expires with
    | none =>
      rw [List.filterMap_cons_none hw] at hws
      apply ih _ hws
      rw [← hdb]
      cases w <;> first | rfl | cases hw
    | some k =>
      rw [List.filterMap_cons_some hw] at hws
      cases ys with
      | nil => cases hws
      | cons y ys =>
        obtain ⟨hk,hws⟩ := List.cons_eq_cons.mp hws
        have hstep : (Statement.execute db w).subscriptions=
            s.mapRows (expiredAmong (xs++[y])) (expiredAmong_id _) := by
          have hexec : (Statement.execute db w).subscriptions=
              db.subscriptions.modify k (fun s => {s with status := .expired}) fun _ => rfl := by
            cases w <;> cases hw
            rfl
          rw [hexec,hdb]
          apply Store.modify_mapRows
          intro r _
          rw [expiredAmong_append_singleton,← hk]
        have hlast := ih hstep hws
        rw [hlast]
        exact Store.mapRows_congr s _ _ fun r _ => by rw [List.append_assoc]; rfl

/-- New audit records are appended. -/
theorem execute_audits (hnodup : ((ws.filterMap Statement.audits).map AuditLog.id).Nodup)
    (hnew : ∀ a∈ws.filterMap Statement.audits,∀ b∈db.auditLogs.rows,b.id≠a.id) :
    (ws.foldl Statement.execute db).auditLogs.rows=
      db.auditLogs.rows++ws.filterMap Statement.audits := by
  induction ws generalizing db with
  | nil => simp
  | cons w ws ih =>
    rw [List.foldl_cons]
    cases hw : w.audits with
    | none =>
      rw [List.filterMap_cons_none hw] at hnodup hnew ⊢
      have hsame : (Statement.execute db w).auditLogs=db.auditLogs := by
        cases w <;> first | rfl | cases hw
      rw [ih hnodup (by rw [hsame]; exact hnew),hsame]
    | some a =>
      rw [List.filterMap_cons_some hw] at hnodup hnew ⊢
      rw [List.map_cons,List.nodup_cons] at hnodup
      have hrows : (Statement.execute db w).auditLogs.rows=db.auditLogs.rows++[a] := by
        cases w <;> cases hw
        exact Store.rows_insert _ _ (hnew _ List.mem_cons_self)
      have hlater : ∀ b∈ws.filterMap Statement.audits,
          ∀ c∈(Statement.execute db w).auditLogs.rows,c.id≠b.id := by
        intro b hb c hc
        rw [hrows,List.mem_append,List.mem_singleton] at hc
        rcases hc with hc|hc
        · exact hnew b (List.mem_cons_of_mem a hb) c hc
        · rw [hc]
          exact fun he => hnodup.1 (he ▸ List.mem_map_of_mem hb)
      rw [ih hnodup.2 hlater,hrows,List.append_assoc]
      rfl

end

end VpnService.Backend
