import VpnService.Framework.Effect
import VpnService.Framework.Runs
import VpnService.Agent.Stores
import VpnService.Agent.WireGuard

namespace VpnService.Agent

/-- What becomes of a `wg` or `wg-quick` command. -/
inductive CommandOutcome
  | succeeds
  | failsBefore  -- without effect, or the process stops before it
  | failsAfter   -- it has taken effect
  deriving DecidableEq

/-- The store of the agent, the interface, and the configuration `wg-quick save` keeps of it. -/
structure PeerNode (ip : Type) where
  store : PeerStore ip
  live : WgPeers ip
  saved : WgPeers ip

/-- What the kernel has counted for a peer. -/
structure PeerTraffic where
  latestHandshake : Option Int
  rxBytes : Nat
  txBytes : Nat

/-- One request: the clock, the traffic, and the outcomes of its commands in order (all later ones
succeed). -/
structure PeerSession (ip : Type) extends PeerNode ip where
  now : Int
  traffic : Int → PeerTraffic
  outcomes : List CommandOutcome

inductive PeerError
  | wireGuardCommand (command : String)
  | peerNotFound
  deriving DecidableEq

abbrev PeerReq (ip : Type) := Eff PeerError (PeerSession ip)

structure PeerStatusResponse where
  publicKey : Int
  status : String
  lastHandshakeAt : Option Int
  rxBytes : Nat
  txBytes : Nat

section

variable {ip : Type}

/-- `WireGuardInterface._run_checked`. -/
def runChecked (command : String) (effect : PeerNode ip → PeerNode ip) : PeerReq ip Unit := fun s =>
  match s.outcomes with
  | [] => (.ok (),{s with toPeerNode := effect s.toPeerNode})
  | .succeeds::os => (.ok (),{s with toPeerNode := effect s.toPeerNode,outcomes := os})
  | .failsBefore::os => (.error (.wireGuardCommand command),{s with outcomes := os})
  | .failsAfter::os =>
    (.error (.wireGuardCommand command),{s with toPeerNode := effect s.toPeerNode,outcomes := os})

def addOrUpdatePeer [DecidableEq ip] (publicKey : Int) (allowedIps : List ip) : PeerReq ip Unit :=
  runChecked "wg" fun n => {n with live := n.live.set publicKey allowedIps}

/-- `WireGuardInterface.remove_peer`. -/
def removeLivePeer (publicKey : Int) : PeerReq ip Unit :=
  runChecked "wg" fun n => {n with live := n.live.remove publicKey}

def saveConfig : PeerReq ip Unit := runChecked "wg-quick" fun n => {n with saved := n.live}

/-- `WireGuardInterface.dump`. -/
def dump : PeerReq ip (List (Int×PeerTraffic)) := do
  runChecked "wg" id
  Eff.reads fun s => s.live.rows.map fun p => (p.publicKey,s.traffic p.publicKey)

def getRecord (publicKey : Int) : PeerReq ip (Option (PeerRecord ip)) :=
  Eff.reads fun s => s.store.get? publicKey

def changeStore (f : PeerStore ip → PeerStore ip) : PeerReq ip Unit :=
  Eff.change fun s => {s with store := f s.store}

variable [DecidableEq ip] (applyToLive : Bool)

/-- `PeerReconciler.add_peer`. -/
def addPeer (publicKey deviceId : Int) (assignedIp : ip) : PeerReq ip Unit := do
  let now ← Eff.reads fun s => s.now
  changeStore fun store => store.upsert publicKey deviceId assignedIp true now
  if applyToLive then do
    addOrUpdatePeer publicKey [assignedIp]
    saveConfig

/-- `PeerReconciler.remove_peer`. -/
def removePeer (publicKey : Int) : PeerReq ip Unit := do
  changeStore fun store => store.delete publicKey
  if applyToLive then do
    removeLivePeer publicKey
    saveConfig

/-- `PeerReconciler.disable_peer`. -/
def disablePeer (publicKey : Int) : PeerReq ip Unit := do
  changeStore fun store => store.setEnabled publicKey false
  if applyToLive then do
    removeLivePeer publicKey
    saveConfig

/-- `PeerReconciler.enable_peer`. -/
def enablePeer (publicKey : Int) : PeerReq ip Unit := do
  let record ← getRecord publicKey
  match record with
  | none => pure ()
  | some record => do
    changeStore fun store => store.setEnabled publicKey true
    if applyToLive then do
      addOrUpdatePeer publicKey [record.assignedIp]
      saveConfig

/-- `PeerReconciler.get_peer_stats`. -/
def getPeerStats (publicKey : Int) : PeerReq ip (Option PeerTraffic) :=
  if applyToLive then do
    let peers ← dump
    pure ((peers.find? fun p => p.1=publicKey).map Prod.snd)
  else pure none

/-- `PeerReconciler.reconcile_on_startup`. -/
def reconcileOnStartup : PeerReq ip Unit :=
  if applyToLive then do
    let enabled ← Eff.reads fun s => s.store.rows.filter PeerRecord.enabled
    Eff.each (fun r => addOrUpdatePeer r.publicKey [r.assignedIp]) enabled
  else pure ()

/-- The requests to the agent; the key of a new peer is the one it has drawn. The list that
`/peers/allowed-ips` brings is logged and no more. -/
inductive PeerRequest (ip : Type)
  | createPeer (publicKey deviceId : Int) (assignedIp : ip)
  | deletePeer (publicKey : Int)
  | disablePeer (publicKey : Int)
  | enablePeer (publicKey : Int)
  | setAllowedIps (publicKey : Int)
  | getPeerStatus (publicKey : Int)

/-- The record of the peer, or 404. -/
def storedPeer (publicKey : Int) : PeerReq ip (PeerRecord ip) := do
  let record ← getRecord publicKey
  Eff.orRaise .peerNotFound record

/-- `GET /peers/status`. -/
def getPeerStatus (publicKey : Int) : PeerReq ip PeerStatusResponse := do
  let record ← storedPeer publicKey
  if record.enabled then do
    let stats ← getPeerStats applyToLive publicKey
    pure ⟨publicKey,"active",stats.bind PeerTraffic.latestHandshake,
      (stats.map PeerTraffic.rxBytes).getD 0,(stats.map PeerTraffic.txBytes).getD 0⟩
  else pure ⟨publicKey,"disabled",none,0,0⟩

/-- The endpoints. `set_allowed_ips` of the reconciler reads the record once more. -/
def PeerRequest.endpoint : PeerRequest ip → PeerReq ip Unit
  | .createPeer publicKey deviceId assignedIp => addPeer applyToLive publicKey deviceId assignedIp
  | .deletePeer publicKey => removePeer applyToLive publicKey
  | .disablePeer publicKey => do
    let _ ← storedPeer publicKey
    Agent.disablePeer applyToLive publicKey
  | .enablePeer publicKey => do
    let _ ← storedPeer publicKey
    Agent.enablePeer applyToLive publicKey
  | .setAllowedIps publicKey => do
    let _ ← storedPeer publicKey
    let _ ← getRecord publicKey
    pure ()
  | .getPeerStatus publicKey => do
    let _ ← Agent.getPeerStatus applyToLive publicKey
    pure ()

end

end VpnService.Agent
