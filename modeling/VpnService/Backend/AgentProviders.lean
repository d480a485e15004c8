import VpnService.Agent.Auth

namespace VpnService.Backend

open Agent

inductive JsonValue
  | int (n : Int)
  | text (s : String)
  | texts (ss : List String)

abbrev Payload := List (String×JsonValue)

/-- The two agents, each with a secret of its own. -/
inductive AgentKind | vpn | xray
  deriving DecidableEq,Repr

/-- The requests of `WireGuardProvider` and `HttpXrayAgentProvider` that are signed. -/
inductive AgentCall
  | createPeer (deviceId : Int) (assignedIp : String)
  | deletePeer (publicKey : String)
  | disablePeer (publicKey : String)
  | enablePeer (publicKey : String)
  | getPeerStatus (publicKey : String)
  | setPeerAllowedIps (publicKey : String) (allowedIps : List String)
  | createUser (uuid : String) (deviceId : Int) (flow : String)
  | removeUser (uuid : String)
  | rotateUser (uuid newUuid : String)
  | listUsers

namespace AgentCall

def kind : AgentCall → AgentKind
  | createPeer .. | deletePeer _ | disablePeer _ | enablePeer _ | getPeerStatus _
  | setPeerAllowedIps .. => .vpn
  | createUser .. | removeUser _ | rotateUser .. | listUsers => .xray

def method : AgentCall → String
  | createPeer .. | disablePeer _ | enablePeer _ | setPeerAllowedIps .. | createUser ..
  | rotateUser .. => "POST"
  | deletePeer _ | removeUser _ => "DELETE"
  | getPeerStatus _ | listUsers => "GET"

def path : AgentCall → String
  | createPeer .. | deletePeer _ => "/peers"
  | disablePeer _ => "/peers/disable"
  | enablePeer _ => "/peers/enable"
  | getPeerStatus _ => "/peers/status"
  | setPeerAllowedIps .. => "/peers/allowed-ips"
  | createUser .. | listUsers => "/users"
  | removeUser uuid => s!"/users/{uuid}"
  | rotateUser uuid _ => s!"/users/{uuid}/rotate"

/-- The key of a peer always travels as a query parameter, never in the path. -/
def params : AgentCall → List (String×String)
  | deletePeer publicKey | disablePeer publicKey | enablePeer publicKey | getPeerStatus publicKey
  | setPeerAllowedIps publicKey _ => [("public_key",publicKey)]
  | createPeer .. | createUser .. | removeUser _ | rotateUser .. | listUsers => []

def payload : AgentCall → Payload
  | createPeer deviceId assignedIp => [("device_id",.int deviceId),("assigned_ip",.text assignedIp)]
  | setPeerAllowedIps _ allowedIps => [("allowed_ips",.texts allowedIps)]
  | createUser uuid deviceId flow =>
    [("uuid",.text uuid),("device_id",.int deviceId),("flow",.text flow)]
  | rotateUser _ newUuid => [("new_uuid",.text newUuid)]
  | deletePeer _ | disablePeer _ | enablePeer _ | getPeerStatus _ | removeUser _ | listUsers => []

end AgentCall

/-- The settings the backend shares with each agent, and `orjson.dumps`. -/
structure Signing where
  agents : AgentKind → AgentSettings
  dumps : Payload → Bytes

/-- What `_request` sends: the signature is over the body alone. -/
def AgentCall.request (cfg : Signing) (now : Int) (call : AgentCall) : WireRequest where
  method := call.method
  path := call.path
  query := call.params
  body := cfg.dumps call.payload
  xSignature := some (.hmac (sign (cfg.dumps call.payload) (cfg.agents call.kind).sharedSecret))
  xTimestamp := some (toString (now.tdiv 1000000))

/-- `_MAX_ATTEMPTS`, of `HttpXrayAgentProvider` only. -/
def AgentKind.maxAttempts : AgentKind → Nat
  | .vpn => 1
  | .xray => 3

end VpnService.Backend
