import VpnService.Framework.Effect
import VpnService.Framework.Runs
import VpnService.Agent.Stores

namespace VpnService.Agent

/-- A user on the inbound of Xray, which tells users apart by their email. -/
structure InboundUser where
  email : String
  uuid : Int
  flow : String
  deriving DecidableEq

abbrev Inbound := Store InboundUser.email

/-- What becomes of a gRPC call. -/
inductive GrpcOutcome
  | answered
  | failedBefore  -- without effect
  | failedAfter   -- it has taken effect
  deriving DecidableEq

/-- The calls that alter the inbound, with the email they name. -/
inductive AlterInbound
  | addUser (email : String)
  | removeUser (email : String)
  deriving DecidableEq

/-- The durable state of the agent, and Xray beside it. -/
structure XrayNode where
  users : UserStore
  inbound : Inbound

/-- One request or pass: the clock, the outcomes of its calls in order (all later ones are
answered), and the calls it has made. -/
structure XraySession extends XrayNode where
  now : Int
  outcomes : List GrpcOutcome
  calls : List AlterInbound

structure XrayCommandError where
  operation : String
  deriving DecidableEq

abbrev XrayReq := Eff XrayCommandError XraySession

/-- `GrpcXrayHandlerClient._call`. -/
def grpcCall (operation : String) (effect : Inbound → Inbound) : XrayReq Unit := fun s =>
  match s.outcomes with
  | [] => (.ok (),{s with inbound := effect s.inbound})
  | .answered::os => (.ok (),{s with inbound := effect s.inbound,outcomes := os})
  | .failedBefore::os => (.error ⟨operation⟩,{s with outcomes := os})
  | .failedAfter::os => (.error ⟨operation⟩,{s with inbound := effect s.inbound,outcomes := os})

def noteCall (call : AlterInbound) : XrayReq Unit :=
  Eff.change fun s => {s with calls := s.calls++[call]}

/-- `handler_client.add_user`; the user under the email is replaced. -/
def addInboundUser (uuid : Int) (email flow : String) : XrayReq Unit := do
  noteCall (.addUser email)
  grpcCall "add_user" fun x => x.upsert ⟨email,uuid,flow⟩

/-- `handler_client.remove_user`; an email that is not there is no error. -/
def removeInboundUser (email : String) : XrayReq Unit := do
  noteCall (.removeUser email)
  grpcCall "remove_user" fun x => x.delete email

def listUserEmails : XrayReq (List String) := do
  grpcCall "list_users" id
  Eff.reads fun s => s.inbound.rows.map InboundUser.email

def getUser (uuid : Int) : XrayReq (Option UserRecord) := Eff.reads fun s => s.users.get? uuid

def deleteRecord (uuid : Int) : XrayReq Unit :=
  Eff.change fun s => {s with users := s.users.delete uuid}

/-- `UserStore.upsert`. -/
def upsertRecord (uuid deviceId : Int) (email flow : String) (rotatedAt : Int → Option Int) :
    XrayReq UserRecord := do
  let existing ← getUser uuid
  let now ← Eff.reads fun s => s.now
  let record := UserStore.record existing uuid deviceId email flow (rotatedAt now) now
  Eff.change fun s => {s with users := UserStore.write s.users record}
  pure record

/-- `UserReconciler.add_user`. -/
def addUser (applyToLive : Bool) (uuid deviceId : Int) (flow : String) : XrayReq UserRecord := do
  let email := emailForDevice deviceId
  let record ← upsertRecord uuid deviceId email flow fun _ => none
  if applyToLive then do
    let liveEmails ← listUserEmails
    if email∈liveEmails then pure record
    else do
      addInboundUser uuid email flow
      pure record
  else pure record

/-- `UserReconciler.remove_user`. -/
def removeUser (applyToLive : Bool) (uuid : Int) : XrayReq Unit := do
  let record ← getUser uuid
  match record with
  | none => pure ()
  | some record => do
    if applyToLive then removeInboundUser record.email
    deleteRecord uuid

/-- `UserReconciler.rotate_user`. -/
def rotateUser (applyToLive : Bool) (uuid newUuid : Int) : XrayReq (Option UserRecord) := do
  let old ← getUser uuid
  match old with
  | none => pure none
  | some old => do
    if applyToLive then removeInboundUser old.email
    deleteRecord uuid
    let record ← upsertRecord newUuid old.deviceId old.email old.flow some
    if applyToLive then addInboundUser newUuid old.email old.flow
    pure (some record)

structure ReconciliationResult where
  added : List String
  removed : List String
  deriving DecidableEq

/-- `{record.email: record for record in desired}`. -/
def desiredByEmail (desired : List UserRecord) : Store UserRecord.email :=
  desired.foldl Store.upsert .empty

/-- The desired users that are not live. -/
def missingUsers (desired : List UserRecord) (liveEmails : List String) : List UserRecord :=
  (desiredByEmail desired).rows.filter fun r => r.email∉liveEmails

/-- The live emails nobody is desired under. -/
def extraEmails (desired : List UserRecord) (liveEmails : List String) : List String :=
  liveEmails.filter fun email => email∉(desiredByEmail desired).rows.map UserRecord.email

/-- `UserReconciler.reconcile`. -/
def reconcile (applyToLive : Bool) : XrayReq ReconciliationResult :=
  if applyToLive then do
    let desired ← Eff.reads fun s => s.users.rows.filter UserRecord.enabled
    let liveEmails ← listUserEmails
    let missing := missingUsers desired liveEmails
    let extra := extraEmails desired liveEmails
    Eff.each (fun r => addInboundUser r.uuid r.email r.flow) missing
    Eff.each removeInboundUser extra
    pure ⟨missing.map UserRecord.email,extra⟩
  else pure ⟨[],[]⟩

end VpnService.Agent
