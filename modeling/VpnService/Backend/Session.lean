import VpnService.Framework.Effect
import VpnService.Agent.Stores
import VpnService.Backend.Models

namespace VpnService.Backend

open Agent

/-- The subclasses of `AppError`; `internal` is any other exception, answered with 500. -/
inductive ErrorKind
  | notFound | conflict | validation | permissionDenied | unauthorized | limitExceeded
  | externalService | internal
  deriving DecidableEq,Repr

structure AppError where
  kind : ErrorKind
  errorCode : String
  message : String
  deriving DecidableEq,Repr

/-- An exception that is no `AppError`, by its Python class. -/
def internalError (exception : String) : AppError := ⟨.internal,"internal_error",exception⟩

/-- What becomes of one remote call or one statement sent to the database. -/
inductive Outcome
  | answered  -- executed, and its response arrives
  | refused   -- the connection fails before the request is executed
  | lost      -- executed, but the connection fails before the response arrives
  | rejected  -- answered with an error status, without effect
  | broken    -- answered with an error status, after the store was written
  deriving DecidableEq,Repr

def Outcome.executed : Outcome → Bool
  | .answered | .lost | .broken => true
  | .refused | .rejected => false

/-- `httpx.TransportError`, as opposed to an error status. -/
def Outcome.transport : Outcome → Bool
  | .refused | .lost => true
  | .answered | .rejected | .broken => false

abbrev IpPeerStore := PeerStore IpAddress

structure Notice where
  telegramId : Int
  planName : String
  deriving DecidableEq

/-- All the stored state: the database, and the peer and user stores of the agents, each agent
under its base URL. `serial` is the next value of the sequence; like a PostgreSQL sequence it
is not rolled back, and neither are the agents' stores nor the notices sent. -/
structure World where
  db : Database
  vpn : String → IpPeerStore
  xray : String → UserStore
  serial : Int
  notices : List Notice

/-- What one request draws a QR code of. -/
inductive QrContent
  | config (privateKey : Int) (assignedIp : IpAddress) (serverPublicKey serverEndpoint : String)
      (allowedIps dns : List String)
  | url (base : String) (token : Secret)
  deriving DecidableEq

/-- What a request finds outside the stored state: the clock, the outcomes of its calls and
statements in order (all later ones are answered), what `RoutingEngine.build_allowed_ips`
returns for a rule list (`none` if it raises), and whether a content fits a QR code. -/
structure Env where
  now : Time
  outcomes : List Outcome
  allowedIps : List (String×RouteType) → Option (List String)
  qrFits : QrContent → Bool

structure Session extends World,Env

abbrev Req := Eff AppError Session

structure Settings where
  paymentProvider : String
  paymentWebhookSecret : String
  vpnDnsList : List String
  subscriptionBaseUrl : String
  lower : String → String  -- `str.lower`, by the Unicode tables of the interpreter

def getDb : Req Database := Eff.reads fun s => s.db

def getNow : Req Time := Eff.reads fun s => s.now

/-- Every pending write is visible to the rest of its session, so writes take effect at once. -/
def alter (f : Database → Database) : Req Unit := Eff.change fun s => {s with db := f s.db}

def nextSerial : Req Int := fun s => (.ok s.serial,{s with serial := s.serial+1})

def nextOutcome : Req Outcome := fun s => match s.outcomes with
  | [] => (.ok .answered,s)
  | o::os => (.ok o,{s with outcomes := os})

/-- `session.flush()` and `session.commit()`; a lost or refused statement raises. -/
def flush : Req Unit := do
  let o ← nextOutcome
  if o=.answered then pure () else Eff.raise (internalError "DBAPIError")

def vpnAgentUnreachable (server : VpnServer) : AppError :=
  ⟨.externalService,"vpn_agent_unreachable",s!"VPN agent request failed for server {server.id}"⟩

def setVpn (url : String) (store : IpPeerStore) (s : Session) : Session :=
  {s with vpn := fun u => if u=url then store else s.vpn u}

def setXray (url : String) (store : UserStore) (s : Session) : Session :=
  {s with xray := fun u => if u=url then store else s.xray u}

/-- `WireGuardProvider._request`: one attempt; an error status, a 404 of the agent among them,
raises what an unreachable agent raises. -/
def vpnRequest (server : VpnServer) (op : IpPeerStore → Option IpPeerStore) : Req Unit := do
  let o ← nextOutcome
  let store ← Eff.reads fun s => s.vpn server.agentBaseUrl
  match op store with
  | none => Eff.raise (vpnAgentUnreachable server)
  | some store' =>
    if o.executed then Eff.change (setVpn server.agentBaseUrl store')
    if o=.answered then pure () else Eff.raise (vpnAgentUnreachable server)

def xrayAgentUnreachable (baseUrl : String) (attempts : String) : AppError :=
  ⟨.externalService,"xray_agent_unreachable",s!"xray-agent request failed for {baseUrl}{attempts}"⟩

/-- `HttpXrayAgentProvider._request` with this many attempts left. Only transport errors are
retried. -/
def xrayAttempts (baseUrl : String) (op : UserStore → UserStore) : Nat → Req Unit
  | 0 => Eff.raise (xrayAgentUnreachable baseUrl " after 3 attempts")
  | attempts+1 => do
    let o ← nextOutcome
    if o.executed then Eff.change fun s => setXray baseUrl (op (s.xray baseUrl)) s
    if o=.answered then pure ()
    else if o.transport then xrayAttempts baseUrl op attempts
    else Eff.raise (xrayAgentUnreachable baseUrl "")

/-- `_MAX_ATTEMPTS = 3`. -/
def xrayRequest (baseUrl : String) (op : UserStore → UserStore) : Req Unit :=
  xrayAttempts baseUrl op 3

/-- `generate_qr_code_base64`. -/
def generateQrCode (content : QrContent) : Req QrContent := do
  let fits ← Eff.reads fun s => s.qrFits content
  if fits then pure content else Eff.raise (internalError "DataOverflowError")

section

variable {α : Type}

@[simp] theorem getDb_bind_run (f : Database → Req α) (s : Session) :
    (getDb >>= f) s=f s.db s := rfl

@[simp] theorem getNow_bind_run (f : Time → Req α) (s : Session) :
    (getNow >>= f) s=f s.now s := rfl

@[simp] theorem alter_run (g : Database → Database) (s : Session) :
    alter g s=(.ok (),{s with db := g s.db}) := rfl

@[simp] theorem alter_bind_run (g : Database → Database) (f : Unit → Req α) (s : Session) :
    (alter g >>= f) s=f () {s with db := g s.db} := rfl

@[simp] theorem nextSerial_bind_run (f : Int → Req α) (s : Session) :
    (nextSerial >>= f) s=f s.serial {s with serial := s.serial+1} := rfl

end

/-- The outcome that comes next and those after it; past the end all are answered. -/
def upcoming : List Outcome → Outcome×List Outcome
  | [] => (.answered,[])
  | o::os => (o,os)

theorem nextOutcome_upcoming (s : Session) :
    nextOutcome s=(.ok (upcoming s.outcomes).1,{s with outcomes := (upcoming s.outcomes).2}) := by
  obtain ⟨w,⟨now,outcomes,ips,fits⟩⟩ := s
  cases outcomes with
  | nil => rfl
  | cons o os => rfl

section

variable {s : Session} {os : List Outcome}

theorem nextOutcome_of {o : Outcome} (h : upcoming s.outcomes=(o,os)) :
    nextOutcome s=(.ok o,{s with outcomes := os}) := by
  rw [nextOutcome_upcoming,h]

theorem flush_answered (h : upcoming s.outcomes=(.answered,os)) :
    flush s=(.ok (),{s with outcomes := os}) := by
  unfold flush
  rw [Eff.bind_run_ok (nextOutcome_of h)]
  rfl

theorem vpnRequest_answered {server : VpnServer} {op : IpPeerStore → Option IpPeerStore}
    {store : IpPeerStore} (h : upcoming s.outcomes=(.answered,os))
    (hop : op (s.vpn server.agentBaseUrl)=some store) : vpnRequest server op s=
      (.ok (),setVpn server.agentBaseUrl store {s with outcomes := os}) := by
  unfold vpnRequest
  rw [Eff.bind_run_ok (nextOutcome_of h),Eff.reads_bind_run]
  simp only [hop]
  rfl

/-- A response that says 500 although the peer store was written. -/
theorem vpnRequest_broken {server : VpnServer} {op : IpPeerStore → Option IpPeerStore}
    {store : IpPeerStore} (h : upcoming s.outcomes=(.broken,os))
    (hop : op (s.vpn server.agentBaseUrl)=some store) : vpnRequest server op s=
      (.error (vpnAgentUnreachable server),
        setVpn server.agentBaseUrl store {s with outcomes := os}) := by
  unfold vpnRequest
  rw [Eff.bind_run_ok (nextOutcome_of h),Eff.reads_bind_run]
  simp only [hop]
  rfl

theorem xrayRequest_answered {baseUrl : String} {op : UserStore → UserStore}
    (h : upcoming s.outcomes=(.answered,os)) : xrayRequest baseUrl op s=
      (.ok (),setXray baseUrl (op (s.xray baseUrl)) {s with outcomes := os}) := by
  unfold xrayRequest xrayAttempts
  rw [Eff.bind_run_ok (nextOutcome_of h)]
  rfl

theorem xrayRequest_broken {baseUrl : String} {op : UserStore → UserStore}
    (h : upcoming s.outcomes=(.broken,os)) : xrayRequest baseUrl op s=
      (.error (xrayAgentUnreachable baseUrl ""),
        setXray baseUrl (op (s.xray baseUrl)) {s with outcomes := os}) := by
  unfold xrayRequest xrayAttempts
  rw [Eff.bind_run_ok (nextOutcome_of h)]
  rfl

end

theorem flush_calm {s : Session} (h : s.outcomes=[]) : flush s=(.ok (),s) := by
  have hnext : upcoming s.outcomes=(.answered,s.outcomes) := by rw [h]; rfl
  rw [flush_answered hnext]

theorem setVpn_same (url : String) (s : Session) : setVpn url (s.vpn url) s=s := by
  have hsame : (fun u => if u=url then s.vpn url else s.vpn u)=s.vpn := by
    funext u
    by_cases hu : u=url
    · simp [hu]
    · simp [hu]
  unfold setVpn
  rw [hsame]

theorem setXray_same (url : String) (s : Session) : setXray url (s.xray url) s=s := by
  have hsame : (fun u => if u=url then s.xray url else s.xray u)=s.xray := by
    funext u
    by_cases hu : u=url
    · simp [hu]
    · simp [hu]
  unfold setXray
  rw [hsame]

end VpnService.Backend
