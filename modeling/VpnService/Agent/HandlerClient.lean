import Mathlib.Data.List.Dedup
import VpnService.Agent.UserHealing

namespace VpnService.Agent

/-- The interface the reconciler talks to Xray through. -/
structure XrayHandlerClient (σ : Type) where
  addUser : Int → String → String → Eff XrayCommandError σ Unit
  removeUser : String → Eff XrayCommandError σ Unit
  listUserEmails : Eff XrayCommandError σ (List String)

/-- `UserReconciler` over any client: where its store and its clock are in the state. -/
structure UserReconciler (σ : Type) where
  handlerClient : XrayHandlerClient σ
  store : σ → UserStore
  setStore : UserStore → σ → σ
  clock : σ → Int
  applyToLive : Bool

namespace UserReconciler

variable {σ : Type} (x : UserReconciler σ)

def deleteRecord (uuid : Int) : Eff XrayCommandError σ Unit :=
  Eff.change fun s => x.setStore ((x.store s).delete uuid) s

def upsertRecord (uuid deviceId : Int) (email flow : String) (rotatedAt : Int → Option Int) :
    Eff XrayCommandError σ UserRecord := do
  let existing ← Eff.reads fun s => (x.store s).get? uuid
  let now ← Eff.reads x.clock
  let record := UserStore.record existing uuid deviceId email flow (rotatedAt now) now
  Eff.change fun s => x.setStore (UserStore.write (x.store s) record) s
  pure record

def addUser (uuid deviceId : Int) (flow : String) : Eff XrayCommandError σ UserRecord := do
  let email := emailForDevice deviceId
  let record ← x.upsertRecord uuid deviceId email flow fun _ => none
  if x.applyToLive then do
    let liveEmails ← x.handlerClient.listUserEmails
    if email∈liveEmails then pure record
    else do
      x.handlerClient.addUser uuid email flow
      pure record
  else pure record

def removeUser (uuid : Int) : Eff XrayCommandError σ Unit := do
  let record ← Eff.reads fun s => (x.store s).get? uuid
  match record with
  | none => pure ()
  | some record => do
    if x.applyToLive then x.handlerClient.removeUser record.email
    x.deleteRecord uuid

def rotateUser (uuid newUuid : Int) : Eff XrayCommandError σ (Option UserRecord) := do
  let old ← Eff.reads fun s => (x.store s).get? uuid
  match old with
  | none => pure none
  | some old => do
    if x.applyToLive then x.handlerClient.removeUser old.email
    x.deleteRecord uuid
    let record ← x.upsertRecord newUuid old.deviceId old.email old.flow some
    if x.applyToLive then x.handlerClient.addUser newUuid old.email old.flow
    pure (some record)

/-- `live_emails` is a set. -/
def reconcile : Eff XrayCommandError σ ReconciliationResult :=
  if x.applyToLive then do
    let desired ← Eff.reads fun s => (x.store s).rows.filter UserRecord.enabled
    let liveEmails ← x.handlerClient.listUserEmails
    let missing := missingUsers desired liveEmails.dedup
    let extra := extraEmails desired liveEmails.dedup
    Eff.each (fun r => x.handlerClient.addUser r.uuid r.email r.flow) missing
    Eff.each x.handlerClient.removeUser extra
    pure ⟨missing.map UserRecord.email,extra⟩
  else pure ⟨[],[]⟩

/-- The reconciler on the inbound whose redundant operations are no errors. -/
def tolerant (applyToLive : Bool) : UserReconciler XraySession where
  handlerClient := ⟨addInboundUser,removeInboundUser,Agent.listUserEmails⟩
  store s := s.users
  setStore users s := {s with users := users}
  clock s := s.now
  applyToLive := applyToLive

theorem addUser_tolerant (applyToLive : Bool) (uuid deviceId : Int) (flow : String) :
    (tolerant applyToLive).addUser uuid deviceId flow=Agent.addUser applyToLive uuid deviceId flow :=
  rfl

theorem removeUser_tolerant (applyToLive : Bool) (uuid : Int) :
    (tolerant applyToLive).removeUser uuid=Agent.removeUser applyToLive uuid := rfl

theorem rotateUser_tolerant (applyToLive : Bool) (uuid newUuid : Int) :
    (tolerant applyToLive).rotateUser uuid newUuid=Agent.rotateUser applyToLive uuid newUuid := rfl

theorem reconcile_tolerant (applyToLive : Bool) :
    (tolerant applyToLive).reconcile=Agent.reconcile applyToLive := by
  cases applyToLive with
  | false => rfl
  | true =>
    funext s
    show (Agent.listUserEmails >>= _) s=(Agent.listUserEmails >>= _) s
    cases hlist : Agent.listUserEmails s with
    | mk r t =>
      cases r with
      | error e => rw [Eff.bind_run_error hlist,Eff.bind_run_error hlist]
      | ok emails =>
        obtain ⟨hemails,_⟩ := listUserEmails_ok hlist
        have hnodup : emails.dedup=emails := by
          rw [List.dedup_eq_self,hemails]
          exact s.inbound.nodup
        rw [Eff.bind_run_ok hlist,Eff.bind_run_ok hlist,hnodup]
        rfl

end UserReconciler

end VpnService.Agent
