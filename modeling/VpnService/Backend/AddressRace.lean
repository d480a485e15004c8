import VpnService.Framework.Transactions
import VpnService.Backend.Soundness
import Mathlib.Data.Fintype.Basic

namespace VpnService.Backend

/-- The live interface of a node: the peer each allowed IP belongs to. With it goes the sequence,
which no transaction rolls back either. -/
structure Interface where
  route : IpAddress → Option Int
  serial : Int

namespace Interface

/-- `wg set … peer … allowed-ips`: the address moves from its previous owner. -/
def assign (key : Int) (ip : IpAddress) (x : Interface) : Interface :=
  {x with route := Function.update x.route ip (some key)}

/-- `wg set … peer … remove` drops the allowed IPs of the peer. -/
def remove (key : Int) (x : Interface) : Interface :=
  {x with route := fun ip => (x.route ip).filter fun k => k≠key}

theorem route_remove {key k : Int} {ip : IpAddress} {x : Interface} (h : k≠key) :
    (x.remove key).route ip=some k ↔ x.route ip=some k := by
  unfold remove
  rw [Option.filter_eq_some_iff]
  exact and_iff_left (decide_eq_true h)

end Interface

/-- The statements about `vpn_peers`. -/
inductive PeerStatement
  | insertPeer (p : VpnPeer)
  | revokePeer (k : Id)

def PeerStatement.execute (db : Database) : PeerStatement → Database
  | .insertPeer p => {db with vpnPeers := db.vpnPeers.insert p}
  | .revokePeer k => {db with
    vpnPeers := db.vpnPeers.modify k (fun p => {p with status := .revoked}) fun _ => rfl}

/-- A request that creates a peer: for a new device, or to reissue one; and whether what follows
the insert of the row succeeds. -/
structure PeerRequest where
  deviceId : Id
  reissues : Bool
  works : Bool

/-- Where the request stands: with the peer it retires, the attempts left after this one, and the
row it has in mind. -/
inductive PeerPlace
  | start
  | retiring (old : VpnPeer)
  | allocating (old : Option VpnPeer) (attempts : Nat)
  | posting (old : Option VpnPeer) (attempts : Nat) (ip : IpAddress)
  | inserting (old : Option VpnPeer) (attempts : Nat) (p : VpnPeer)
  | clashed (old : Option VpnPeer) (attempts : Nat) (p : VpnPeer)
  | holding (old : Option VpnPeer) (p : VpnPeer)
  | finished
  | failed
  deriving DecidableEq

namespace PeerPlace

/-- The peer that is gone from the interface, and whose row is not revoked until the commit. -/
def retired : PeerPlace → Option VpnPeer
  | .allocating old _ | .posting old _ _ | .inserting old _ _ | .clashed old _ _
  | .holding old _ => old
  | .start | .retiring _ | .finished | .failed => none

/-- The row whose key the agent has drawn. -/
def drawn : PeerPlace → Option VpnPeer
  | .inserting _ _ p | .clashed _ _ p | .holding _ p => some p
  | _ => none

/-- The row that is inserted and not committed. -/
def held : PeerPlace → Option VpnPeer
  | .holding _ p => some p
  | _ => none

def ended : PeerPlace → Bool
  | .finished | .failed => true
  | _ => false

end PeerPlace

abbrev PeerRace (ι : Type) := Workplace Database PeerStatement Interface ι PeerPlace

section

variable {ι : Type} (server : VpnServer) (requests : ι → PeerRequest)

/-- The address the next attempt takes. -/
def nextAddress (db : Database) : Option IpAddress := do
  let network ← server.internalNetwork.network
  let answer ← freeAddress network (db.peersOfServer server.id)
  answer

/-- The next step of request `i`; the agent answers. -/
def peerNext (i : ι) (place : PeerPlace) (db : Database) (x : Interface) :
    Move PeerStatement Interface PeerPlace := match place with
  | .start => match if (requests i).reissues then db.activePeer (requests i).deviceId else none with
    | none => .work (.allocating none 5) [] x
    | some old => .work (.retiring old) [] x
  | .retiring old =>
    .work (.allocating (some old) 5) [.revokePeer old.id] (x.remove old.publicKey)
  | .allocating _ 0 => .rollback .failed x
  | .allocating old (n+1) => match nextAddress server db with
    | none => .rollback .failed x
    | some ip => .work (.posting old n ip) [] x
  | .posting old n ip =>
    let p := ⟨x.serial+1,(requests i).deviceId,server.id,x.serial,ip,.active⟩
    .work (.inserting old n p) [] {x.assign x.serial ip with serial := x.serial+2}
  | .inserting old n p =>
    if peerClash db p then .work (.clashed old n p) [] x else .work (.holding old p) [.insertPeer p] x
  | .clashed old n p => .work (.allocating old n) [] (x.remove p.publicKey)
  | .holding _ _ => if (requests i).works then .commit .finished else .rollback .failed x
  | .finished => .work .finished [] x
  | .failed => .work .failed [] x

variable [DecidableEq ι]

/-- An insert waits for the end of a transaction that holds a row with the address. -/
def Waits [Fintype ι] (s : PeerRace ι) (i : ι) : Bool := match (s.party i).place with
  | .inserting _ _ p => decide
    (∃ j,j≠i ∧ ((s.party j).place.held.any fun q => q.assignedIp=p.assignedIp)=true)
  | _ => false

def peerTick [Fintype ι] (s : PeerRace ι) (i : ι) : PeerRace ι :=
  if Waits s i then s else s.tick PeerStatement.execute (peerNext server requests) i

end

/-- The row is to be routed: it is active on the server, and new or routed from the start. -/
def Due (server : VpnServer) (db : Database) (x : Interface) (p : VpnPeer) : Prop :=
  p.serverId=server.id ∧ p.status=.active ∧
    (p∈db.vpnPeers.rows → x.route p.assignedIp=some p.publicKey)

/-- The interface routes the address of each such row to its key. -/
def Unbroken (server : VpnServer) (db : Database) (x : Interface) (db' : Database)
    (x' : Interface) : Prop :=
  ∀ p∈db'.vpnPeers.rows,Due server db x p → x'.route p.assignedIp=some p.publicKey

section

variable {ι : Type} (server : VpnServer) (requests : ι → PeerRequest)

/-- The row of the retired peer is still active for everyone else. -/
def StillActive (db : Database) (old : Option VpnPeer) : Prop :=
  ∃ p∈old,∃ q∈db.vpnPeers.get? p.id,q.status=.active

instance (db : Database) (old : Option VpnPeer) : Decidable (StillActive db old) :=
  inferInstanceAs (Decidable (∃ p∈old,∃ q∈db.vpnPeers.get? p.id,q.status=.active))

/-- A peer is added for an address only while it is not routed to the key of an active row, or one
that is going to be committed; a row that is going to be committed is inserted only while its
address is routed to its key; and a request that has retired an active peer does not fail. -/
def CarefulAt [DecidableEq ι] (s : PeerRace ι) (i : ι) : PeerPlace → Prop
  | .posting _ _ ip =>
    (∀ p∈s.committed.vpnPeers.rows,p.serverId=server.id → p.status=.active →
      p.assignedIp=ip → s.rest.route ip≠some p.publicKey) ∧
    ∀ j,∀ p∈(s.party j).place.held,(requests j).works=true → p.assignedIp=ip →
      s.rest.route ip≠some p.publicKey
  | .inserting _ _ p => peerClash (s.view PeerStatement.execute i) p=false →
    (requests i).works=true → s.rest.route p.assignedIp=some p.publicKey
  | .allocating old n => StillActive s.committed old →
    n≠0 ∧ nextAddress server (s.view PeerStatement.execute i)≠none
  | .holding old _ => StillActive s.committed old → (requests i).works=true
  | .start | .retiring _ | .clashed _ _ _ | .finished | .failed => True

variable [Fintype ι] [DecidableEq ι]

instance (s : PeerRace ι) (i : ι) : ∀ place,Decidable (CarefulAt server requests s i place)
  | .posting _ _ _ => inferInstanceAs (Decidable (_ ∧ _))
  | .inserting _ _ _ => inferInstanceAs (Decidable (_ → _ → _))
  | .allocating _ _ => inferInstanceAs (Decidable (_ → _ ∧ _))
  | .holding _ _ => inferInstanceAs (Decidable (_ → _))
  | .start | .retiring _ | .clashed _ _ _ | .finished | .failed => inferInstanceAs (Decidable True)

def Careful (s : PeerRace ι) (i : ι) : Prop :=
  Waits s i=false → CarefulAt server requests s i (s.party i).place

instance (s : PeerRace ι) (i : ι) : Decidable (Careful server requests s i) :=
  inferInstanceAs (Decidable (_ → _))

end

section

variable {ι : Type} {server : VpnServer} {requests : ι → PeerRequest} {db : Database}
  {x : Interface} {s : PeerRace ι} {i : ι}

/-- What a request has written at its place. -/
def PeerPlace.statements (q : PeerPlace) : List PeerStatement :=
  (q.retired.map fun p => .revokePeer p.id).toList++(q.held.map .insertPeer).toList

/-- What holds at any time: the rows have their own keys, and whatever is to be routed is, unless
a request underway has retired it. -/
structure Contending (server : VpnServer) (requests : ι → PeerRequest) (db : Database)
    (x : Interface) (s : PeerRace ι) : Prop where
  writes : ∀ i,(s.party i).writes=(s.party i).place.statements
  numbered : ∀ p∈s.committed.vpnPeers.rows,p.id<s.rest.serial ∧ p.publicKey<s.rest.serial
  keys : ∀ p∈s.committed.vpnPeers.rows,∀ q∈s.committed.vpnPeers.rows,p.publicKey=q.publicKey → p=q
  drawn : ∀ i p,(s.party i).place.drawn=some p → p.id<s.rest.serial ∧ p.publicKey<s.rest.serial ∧
    ∀ q∈s.committed.vpnPeers.rows,q.id≠p.id ∧ q.publicKey≠p.publicKey
  distinct : ∀ i j p q,i≠j → (s.party i).place.drawn=some p → (s.party j).place.drawn=some q →
    p.id≠q.id ∧ p.publicKey≠q.publicKey
  retired : ∀ i p,(s.party i).place=.retiring p ∨ (s.party i).place.retired=some p →
    ∃ q∈s.committed.vpnPeers.rows,q.id=p.id ∧ q.publicKey=p.publicKey
  held : ∀ i p,(s.party i).place.held=some p → (requests i).works=true →
    s.rest.route p.assignedIp=some p.publicKey
  routed : ∀ p∈s.committed.vpnPeers.rows,Due server db x p →
    s.rest.route p.assignedIp=some p.publicKey ∨
      ∃ i q,(s.party i).place.retired=some q ∧ q.id=p.id

theorem drawn_of_held {q : PeerPlace} {p : VpnPeer} (h : q.held=some p) : q.drawn=some p := by
  cases q <;> first | exact h | cases h

variable [DecidableEq ι]

/-- Request `i` goes to another place and commits nothing. -/
theorem Contending.move (h : Contending server requests db x s) {place : PeerPlace}
    {writes : List PeerStatement} {rest : Interface} (hwrites : writes=place.statements)
    (hserial : s.rest.serial≤rest.serial)
    (hdrawn : ∀ p,place.drawn=some p → (s.party i).place.drawn=some p ∨
      (s.rest.serial≤p.id ∧ p.id<rest.serial ∧ s.rest.serial≤p.publicKey ∧
        p.publicKey<rest.serial))
    (hretired : ∀ p,place=.retiring p ∨ place.retired=some p →
      ∃ q∈s.committed.vpnPeers.rows,q.id=p.id ∧ q.publicKey=p.publicKey)
    (hheld : ∀ p,place.held=some p → (requests i).works=true →
      rest.route p.assignedIp=some p.publicKey)
    (hothers : ∀ j,j≠i → ∀ p,(s.party j).place.held=some p → (requests j).works=true →
      s.rest.route p.assignedIp=some p.publicKey → rest.route p.assignedIp=some p.publicKey)
    (hrouted : ∀ p∈s.committed.vpnPeers.rows,Due server db x p →
      (s.rest.route p.assignedIp=some p.publicKey →
        rest.route p.assignedIp=some p.publicKey ∨ ∃ q,place.retired=some q ∧ q.id=p.id) ∧
      ((∃ q,(s.party i).place.retired=some q ∧ q.id=p.id) → ∃ q,place.retired=some q ∧ q.id=p.id)) :
    Contending server requests db x
      {s with rest := rest,party := Function.update s.party i ⟨place,writes⟩} := by
  have hown : ∀ {j} {q : PeerPlace → Prop},q (Function.update s.party i ⟨place,writes⟩ j).place →
      (j=i ∧ q place) ∨ (j≠i ∧ q (s.party j).place) := by
    intro j q hq
    by_cases hj : j=i
    · rw [hj,Function.update_self] at hq
      exact Or.inl ⟨hj,hq⟩
    · rw [Function.update_of_ne hj] at hq
      exact Or.inr ⟨hj,hq⟩
  constructor
  · intro j
    by_cases hj : j=i
    · subst hj
      simpa using hwrites
    · simpa [hj] using h.writes j
  · intro p hp
    obtain ⟨hid,hkey⟩ := h.numbered p hp
    exact ⟨hid.trans_le hserial,hkey.trans_le hserial⟩
  · exact h.keys
  · intro j p hp
    have hcommon : ∀ {k},(s.party k).place.drawn=some p → p.id<rest.serial ∧
        p.publicKey<rest.serial ∧
        ∀ q∈s.committed.vpnPeers.rows,q.id≠p.id ∧ q.publicKey≠p.publicKey := by
      intro k hk
      obtain ⟨hid,hkey,hall⟩ := h.drawn k p hk
      exact ⟨hid.trans_le hserial,hkey.trans_le hserial,hall⟩
    rcases hown (q := fun q => q.drawn=some p) hp with ⟨_,hp⟩|⟨_,hp⟩
    · rcases hdrawn p hp with hold|⟨hid,hlt,hkey,hklt⟩
      · exact hcommon hold
      · refine ⟨hlt,hklt,fun q hq => ?_⟩
        obtain ⟨hqid,hqkey⟩ := h.numbered q hq
        exact ⟨(hqid.trans_le hid).ne,(hqkey.trans_le hkey).ne⟩
    · exact hcommon hp
  · have hfresh : ∀ {j p q},j≠i → place.drawn=some p → (s.party j).place.drawn=some q →
        p.id≠q.id ∧ p.publicKey≠q.publicKey := by
      intro j p q hj hp hq
      rcases hdrawn p hp with hold|⟨hid,_,hkey,_⟩
      · exact h.distinct i j p q (Ne.symm hj) hold hq
      · obtain ⟨hqid,hqkey,_⟩ := h.drawn j q hq
        exact ⟨(hqid.trans_le hid).ne',(hqkey.trans_le hkey).ne'⟩
    intro j k p q hjk hp hq
    rcases hown (q := fun r => r.drawn=some p) hp with ⟨hj,hp⟩|⟨hj,hp⟩
    · rcases hown (q := fun r => r.drawn=some q) hq with ⟨hk,_⟩|⟨hk,hq⟩
      · exact absurd (hj.trans hk.symm) hjk
      · exact hfresh hk hp hq
    · rcases hown (q := fun r => r.drawn=some q) hq with ⟨hk,hq⟩|⟨hk,hq⟩
      · obtain ⟨hid,hkey⟩ := hfresh hj hq hp
        exact ⟨hid.symm,hkey.symm⟩
      · exact h.distinct j k p q hjk hp hq
  · intro j p hp
    rcases hown (q := fun q => q=.retiring p ∨ q.retired=some p) hp with ⟨_,hp⟩|⟨_,hp⟩
    · exact hretired p hp
    · exact h.retired j p hp
  · intro j p hp hworks
    rcases hown (q := fun q => q.held=some p) hp with ⟨hj,hp⟩|⟨hj,hp⟩
    · exact hheld p hp (hj ▸ hworks)
    · exact hothers j hj p hp hworks (h.held j p hp hworks)
  · intro p hp hdue
    obtain ⟨hkeep,hmine⟩ := hrouted p hp hdue
    have hself : ∀ {q : VpnPeer},place.retired=some q →
        (Function.update s.party i ⟨place,writes⟩ i).place.retired=some q := by
      intro q hq
      rw [Function.update_self]
      exact hq
    have hown' : (∃ q,place.retired=some q ∧ q.id=p.id) → ∃ j q,
        (Function.update s.party i ⟨place,writes⟩ j).place.retired=some q ∧ q.id=p.id :=
      fun ⟨q,hq,hid⟩ => ⟨i,q,hself hq,hid⟩
    rcases h.routed p hp hdue with hroute|⟨j,q,hq,hid⟩
    · exact (hkeep hroute).imp_right hown'
    · right
      by_cases hj : j=i
      · exact hown' (hmine ⟨q,hj ▸ hq,hid⟩)
      · refine ⟨j,q,?_,hid⟩
        show (Function.update s.party i _ j).place.retired=_
        rw [Function.update_of_ne hj]
        exact hq

/-- A row once the peer of the request is retired. -/
def withRetired (old : Option VpnPeer) (p : VpnPeer) : VpnPeer :=
  if old.any fun o => o.id=p.id then {p with status := .revoked} else p

theorem withRetired_keeps (old : Option VpnPeer) (p : VpnPeer) :
    (withRetired old p).id=p.id ∧ (withRetired old p).publicKey=p.publicKey := by
  unfold withRetired
  split_ifs <;> exact ⟨rfl,rfl⟩

theorem withRetired_active {old : Option VpnPeer} {p : VpnPeer}
    (h : (withRetired old p).status=.active) :
    withRetired old p=p ∧ ∀ o,old=some o → o.id≠p.id := by
  unfold withRetired at h ⊢
  by_cases ho : (old.any fun o => o.id=p.id)=true
  · rw [if_pos ho] at h
    cases h
  · rw [if_neg ho]
    refine ⟨rfl,fun o hold he => ho ?_⟩
    rw [hold]
    exact decide_eq_true he

/-- The rows a request commits. -/
theorem mem_held {db : Database} {old : Option VpnPeer} {p q : VpnPeer}
    (hp : ∀ r∈db.vpnPeers.rows,r.id≠p.id) :
    q∈((PeerPlace.holding old p).statements.foldl PeerStatement.execute db).vpnPeers.rows ↔
      (∃ r∈db.vpnPeers.rows,q=withRetired old r) ∨ q=p := by
  cases old with
  | none =>
    show q∈(db.vpnPeers.insert p).rows ↔ _
    rw [Store.mem_insert hp]
    simp [withRetired]
  | some o =>
    have hkey : ∀ r : VpnPeer,({r with status := .revoked} : VpnPeer).id=r.id := fun _ => rfl
    show q∈((db.vpnPeers.modify o.id (fun r => {r with status := .revoked}) fun _ => rfl).insert
      p).rows ↔ _
    have hrow : ∀ r∈(db.vpnPeers.modify o.id (fun r => {r with status := .revoked})
        fun _ => rfl).rows,r.id≠p.id := by
      intro r hr
      rcases (Store.mem_modify hkey).mp hr with ⟨x,hx,_,he⟩|⟨hr,_⟩
      · rw [he]
        exact hp x hx
      · exact hp r hr
    rw [Store.mem_insert hrow]
    simp [withRetired,eq_comm]

/-- Request `i` commits the row it holds. -/
theorem Contending.commit (h : Contending server requests db x s) {old : Option VpnPeer}
    {p : VpnPeer} (hplace : (s.party i).place=.holding old p) (hworks : (requests i).works=true) :
    Contending server requests db x
      {s with
        committed := s.view PeerStatement.execute i
        party := Function.update s.party i ⟨.finished,[]⟩} := by
  obtain ⟨hid,hkey,hfresh⟩ := h.drawn i p (by rw [hplace]; rfl)
  have hroute : s.rest.route p.assignedIp=some p.publicKey :=
    h.held i p (by rw [hplace]; rfl) hworks
  have hview : s.view PeerStatement.execute i=
      (PeerPlace.holding old p).statements.foldl PeerStatement.execute s.committed := by
    unfold Workplace.view
    rw [h.writes i,hplace]
  have hrow : ∀ {q},q∈(s.view PeerStatement.execute i).vpnPeers.rows →
      (∃ r∈s.committed.vpnPeers.rows,q=withRetired old r) ∨ q=p := by
    intro q hq
    rw [hview] at hq
    exact (mem_held fun r hr => (hfresh r hr).1).mp hq
  have hback : ∀ r∈s.committed.vpnPeers.rows,
      withRetired old r∈(s.view PeerStatement.execute i).vpnPeers.rows := by
    intro r hr
    rw [hview]
    exact (mem_held fun r hr => (hfresh r hr).1).mpr (Or.inl ⟨r,hr,rfl⟩)
  have hplaces : ∀ {j} {q : PeerPlace → Prop},¬q .finished →
      q (Function.update s.party i ⟨.finished,[]⟩ j).place → j≠i ∧ q (s.party j).place := by
    intro j q hnot hq
    by_cases hj : j=i
    · rw [hj,Function.update_self] at hq
      exact absurd hq hnot
    · rw [Function.update_of_ne hj] at hq
      exact ⟨hj,hq⟩
  constructor
  · intro j
    by_cases hj : j=i
    · subst hj
      simp [PeerPlace.statements,PeerPlace.retired,PeerPlace.held]
    · simpa [hj] using h.writes j
  · intro q hq
    rcases hrow hq with ⟨r,hr,hqr⟩|hqp
    · rw [hqr,(withRetired_keeps old r).1,(withRetired_keeps old r).2]
      exact h.numbered r hr
    · rw [hqp]
      exact ⟨hid,hkey⟩
  · intro q hq q' hq' he
    rcases hrow hq with ⟨r,hr,hqr⟩|hqp
    · rcases hrow hq' with ⟨r',hr',hqr'⟩|hqp'
      · rw [hqr,hqr',(withRetired_keeps old r).2,(withRetired_keeps old r').2] at he
        rw [hqr,hqr',h.keys r hr r' hr' he]
      · rw [hqr,hqp',(withRetired_keeps old r).2] at he
        exact absurd he (hfresh r hr).2
    · rcases hrow hq' with ⟨r',hr',hqr'⟩|hqp'
      · rw [hqp,hqr',(withRetired_keeps old r').2] at he
        exact absurd he.symm (hfresh r' hr').2
      · rw [hqp,hqp']
  · intro j q hq
    obtain ⟨hj,hq⟩ := hplaces (q := fun r => r.drawn=some q) nofun hq
    obtain ⟨hqid,hqkey,hall⟩ := h.drawn j q hq
    refine ⟨hqid,hqkey,fun r hr => ?_⟩
    rcases hrow hr with ⟨r',hr',hrr⟩|hrp
    · rw [hrr,(withRetired_keeps old r').1,(withRetired_keeps old r').2]
      exact hall r' hr'
    · rw [hrp]
      exact h.distinct i j p q (Ne.symm hj) (by rw [hplace]; rfl) hq
  · intro j k q r hjk hq hr
    obtain ⟨_,hq⟩ := hplaces (q := fun r => r.drawn=some q) nofun hq
    obtain ⟨_,hr⟩ := hplaces (q := fun q => q.drawn=some r) nofun hr
    exact h.distinct j k q r hjk hq hr
  · intro j q hq
    have hnot : ¬(PeerPlace.finished=.retiring q ∨ PeerPlace.finished.retired=some q) := by
      simp [PeerPlace.retired]
    obtain ⟨_,hq⟩ := hplaces (q := fun r => r=.retiring q ∨ r.retired=some q) hnot hq
    obtain ⟨r,hr,hid,hkey⟩ := h.retired j q hq
    refine ⟨withRetired old r,hback r hr,?_,?_⟩
    · rw [(withRetired_keeps old r).1,hid]
    · rw [(withRetired_keeps old r).2,hkey]
  · intro j q hq hworks
    obtain ⟨_,hq⟩ := hplaces (q := fun r => r.held=some q) nofun hq
    exact h.held j q hq hworks
  · intro q hq hdue
    rcases hrow hq with ⟨r,hr,hqr⟩|hqp
    · obtain ⟨hsame,hnot⟩ := withRetired_active (hqr ▸ hdue.2.1 : (withRetired old r).status=.active)
      rw [hqr,hsame] at hdue ⊢
      refine (h.routed r hr hdue).imp_right ?_
      rintro ⟨j,o,ho,hoid⟩
      refine ⟨j,o,?_,hoid⟩
      by_cases hj : j=i
      · rw [hj,hplace] at ho
        exact absurd hoid (hnot o ho)
      · show (Function.update s.party i _ j).place.retired=_
        rw [Function.update_of_ne hj]
        exact ho
    · rw [hqp]
      exact Or.inl hroute

/-- Request `i` goes to another place and touches nothing outside. -/
theorem Contending.pass (h : Contending server requests db x s) {place : PeerPlace}
    {writes : List PeerStatement} (hwrites : writes=place.statements)
    (hdrawn : ∀ p,place.drawn=some p → (s.party i).place.drawn=some p)
    (hretired : ∀ p,place=.retiring p ∨ place.retired=some p →
      ∃ q∈s.committed.vpnPeers.rows,q.id=p.id ∧ q.publicKey=p.publicKey)
    (hheld : ∀ p,place.held=some p → (requests i).works=true →
      s.rest.route p.assignedIp=some p.publicKey)
    (hkept : ∀ p∈s.committed.vpnPeers.rows,p.status=.active → ∀ q,
      (s.party i).place.retired=some q → q.id=p.id → place.retired=some q) :
    Contending server requests db x
      {s with party := Function.update s.party i ⟨place,writes⟩} :=
  h.move hwrites le_rfl (fun p hp => Or.inl (hdrawn p hp)) hretired hheld
    (fun _ _ _ _ _ hroute => hroute) fun p hp hdue =>
      ⟨Or.inl,fun ⟨q,hq,hid⟩ => ⟨q,hkept p hp hdue.2.1 q hq hid,hid⟩⟩

theorem of_none {q : Option VpnPeer} (h : q=none) {P : VpnPeer → Prop} :
    ∀ p,q=some p → P p := by
  intro p hp
  rw [h] at hp
  cases hp

/-- Request `i` has retired nothing and does not hold a row. -/
theorem Contending.idle (h : Contending server requests db x s) {place : PeerPlace}
    (hbefore : (s.party i).place.retired=none) (hretired : place.retired=none)
    (hdrawn : place.drawn=none) (hstart : ∀ p,place=.retiring p → p∈s.committed.vpnPeers.rows) :
    Contending server requests db x {s with party := Function.update s.party i ⟨place,[]⟩} := by
  have hheld : place.held=none := by
    by_contra hsome
    obtain ⟨p,hp⟩ := Option.ne_none_iff_exists'.mp hsome
    rw [drawn_of_held hp] at hdrawn
    cases hdrawn
  apply h.pass
  · unfold PeerPlace.statements
    rw [hretired,hheld]
    rfl
  · exact of_none hdrawn
  · rintro p (hp|hp)
    · exact ⟨p,hstart p hp,rfl,rfl⟩
    · rw [hretired] at hp
      cases hp
  · exact of_none hheld
  · intro p _ _ q hq
    rw [hbefore] at hq
    cases hq

/-- Request `i` goes on with the same peer retired. -/
theorem Contending.onward (h : Contending server requests db x s) {place : PeerPlace}
    {writes : List PeerStatement} (hwrites : writes=place.statements)
    (hretired : place.retired=(s.party i).place.retired) (hpast : ∀ p,place≠.retiring p)
    (hdrawn : ∀ p,place.drawn=some p → (s.party i).place.drawn=some p)
    (hheld : ∀ p,place.held=some p → (requests i).works=true →
      s.rest.route p.assignedIp=some p.publicKey) :
    Contending server requests db x
      {s with party := Function.update s.party i ⟨place,writes⟩} := by
  apply h.pass hwrites hdrawn ?_ hheld
  · intro p _ _ q hq _
    rw [hretired,hq]
  · rintro p (hp|hp)
    · exact absurd hp (hpast p)
    · exact h.retired i p (Or.inr (by rw [← hretired,hp]))

/-- The peer that is retired leaves the interface; no other row has its key. -/
theorem Contending.retire (h : Contending server requests db x s) {old : VpnPeer}
    (hplace : (s.party i).place=.retiring old) : Contending server requests db x
      {s with
        rest := s.rest.remove old.publicKey
        party := Function.update s.party i ⟨.allocating (some old) 5,[.revokePeer old.id]⟩} := by
  obtain ⟨r,hr,hrid,hrkey⟩ := h.retired i old (Or.inl hplace)
  apply h.move
  · rfl
  · exact le_rfl
  · exact of_none rfl
  · rintro p (hp|hp)
    · cases hp
    · cases hp
      exact ⟨r,hr,hrid,hrkey⟩
  · exact of_none rfl
  · intro j hj p hp _ hroute
    have hne := ((h.drawn j p (drawn_of_held hp)).2.2 r hr).2
    exact (Interface.route_remove (by rw [← hrkey]; exact hne.symm)).mpr hroute
  · intro p hp _
    refine ⟨fun hroute => ?_,fun ⟨q,hq,_⟩ => ?_⟩
    · by_cases hkey : p.publicKey=old.publicKey
      · have hpr := h.keys p hp r hr (by rw [hkey,hrkey])
        exact Or.inr ⟨old,rfl,by rw [hpr,hrid]⟩
      · exact Or.inl ((Interface.route_remove hkey).mpr hroute)
    · rw [hplace] at hq
      cases hq

/-- The agent draws a key and takes the address for it. -/
theorem Contending.post (h : Contending server requests db x s) {old : Option VpnPeer} {n : Nat}
    {ip : IpAddress} {p : VpnPeer} (hplace : (s.party i).place=.posting old n ip)
    (hid : p.id=s.rest.serial+1) (hkey : p.publicKey=s.rest.serial)
    (hrows : ∀ q∈s.committed.vpnPeers.rows,q.serverId=server.id → q.status=.active →
      q.assignedIp=ip → s.rest.route ip≠some q.publicKey)
    (hholders : ∀ j q,(s.party j).place.held=some q → (requests j).works=true →
      q.assignedIp=ip → s.rest.route ip≠some q.publicKey) : Contending server requests db x
      {s with
        rest := {s.rest.assign s.rest.serial ip with serial := s.rest.serial+2}
        party := Function.update s.party i
          ⟨.inserting old n p,(PeerPlace.inserting old n p).statements⟩} := by
  have hlt : s.rest.serial<s.rest.serial+1 := Int.lt_succ _
  have hlt' : s.rest.serial+1<s.rest.serial+2 := by omega
  have hkeep : ∀ {q : VpnPeer},s.rest.route q.assignedIp=some q.publicKey →
      (q.assignedIp=ip → s.rest.route ip≠some q.publicKey) →
      (s.rest.assign s.rest.serial ip).route q.assignedIp=some q.publicKey := by
    intro q hroute hnot
    have hne : q.assignedIp≠ip := fun he => hnot he (he ▸ hroute)
    show Function.update s.rest.route ip _ q.assignedIp=_
    rw [Function.update_of_ne hne]
    exact hroute
  apply h.move
  · rfl
  · exact (hlt.trans hlt').le
  · intro q hq
    cases hq
    rw [hid,hkey]
    exact Or.inr ⟨hlt.le,hlt',le_rfl,hlt.trans hlt'⟩
  · rintro q (hq|hq)
    · cases hq
    · exact h.retired i q (Or.inr (by rw [hplace]; exact hq))
  · exact of_none rfl
  · intro j _ q hq hworks hroute
    exact hkeep hroute (hholders j q hq hworks)
  · intro q hq hdue
    refine ⟨fun hroute => Or.inl (hkeep hroute (hrows q hq hdue.1 hdue.2.1)),?_⟩
    rintro ⟨o,ho,hoid⟩
    rw [hplace] at ho
    exact ⟨o,ho,hoid⟩

/-- The peer whose row was refused leaves the interface; its key is in no other row. -/
theorem Contending.withdraw (h : Contending server requests db x s) {old : Option VpnPeer}
    {n : Nat} {p : VpnPeer} (hplace : (s.party i).place=.clashed old n p) :
    Contending server requests db x
      {s with
        rest := s.rest.remove p.publicKey
        party := Function.update s.party i
          ⟨.allocating old n,(PeerPlace.allocating old n).statements⟩} := by
  have hdrawn : (s.party i).place.drawn=some p := by rw [hplace]; rfl
  apply h.move
  · rfl
  · exact le_rfl
  · exact of_none rfl
  · rintro q (hq|hq)
    · cases hq
    · exact h.retired i q (Or.inr (by rw [hplace]; exact hq))
  · exact of_none rfl
  · intro j hj q hq _ hroute
    have hne := (h.distinct j i q p hj (drawn_of_held hq) hdrawn).2
    exact (Interface.route_remove hne).mpr hroute
  · intro q hq _
    have hne := ((h.drawn i p hdrawn).2.2 q hq).2
    refine ⟨fun hroute => Or.inl ((Interface.route_remove hne).mpr hroute),?_⟩
    rintro ⟨o,ho,hoid⟩
    rw [hplace] at ho
    exact ⟨o,ho,hoid⟩

/-- Request `i` fails; no active row waits for it. -/
theorem Contending.fail (h : Contending server requests db x s) {place : PeerPlace}
    {old : Option VpnPeer} (hplace : (s.party i).place=place) (hold : place.retired=old)
    (hnot : ¬StillActive s.committed old) : Contending server requests db x
      {s with party := Function.update s.party i ⟨.failed,[]⟩} := by
  apply h.pass
  · rfl
  · exact of_none rfl
  · rintro p (hp|hp) <;> cases hp
  · exact of_none rfl
  · intro p hp hact q hq hid
    refine absurd ⟨q,?_,p,?_,hact⟩ hnot
    · rw [← hold,← hplace,hq]
      rfl
    · rw [hid]
      exact s.committed.vpnPeers.get?_of_mem hp

/-- A reissue reads the active peer of its device first. -/
theorem Contending.start (h : Contending server requests db x s)
    (hplace : (s.party i).place=.start) : Contending server requests db x
      (s.tick PeerStatement.execute (peerNext server requests) i) := by
  have hwrites := h.writes i
  rw [hplace] at hwrites
  cases hold : if (requests i).reissues then
      (s.view PeerStatement.execute i).activePeer (requests i).deviceId else none with
  | none =>
    have hnext : peerNext server requests i (s.party i).place
        (s.view PeerStatement.execute i) s.rest=.work (.allocating none 5) [] s.rest := by
      rw [hplace]
      unfold peerNext
      simp only [hold]
    rw [Workplace.tick_work hnext,hwrites]
    exact h.idle (by rw [hplace]; rfl) rfl rfl nofun
  | some old =>
    have hnext : peerNext server requests i (s.party i).place
        (s.view PeerStatement.execute i) s.rest=.work (.retiring old) [] s.rest := by
      rw [hplace]
      unfold peerNext
      simp only [hold]
    have hmem : old∈s.committed.vpnPeers.rows := by
      have hview : s.view PeerStatement.execute i=s.committed := by
        unfold Workplace.view
        rw [hwrites]
        rfl
      rw [hview] at hold
      split_ifs at hold with hreissues
      exact (Database.activePeer_mem hold).1
    rw [Workplace.tick_work hnext,hwrites]
    apply h.idle (by rw [hplace]; rfl) rfl rfl
    intro p hp
    cases hp
    exact hmem

/-- An address is chosen, or the request gives up. -/
theorem Contending.allocate (h : Contending server requests db x s) {old : Option VpnPeer}
    {n : Nat} (hplace : (s.party i).place=.allocating old n)
    (hgood : CarefulAt server requests s i (.allocating old n)) : Contending server requests db x
      (s.tick PeerStatement.execute (peerNext server requests) i) := by
  have hfail : peerNext server requests i (s.party i).place
      (s.view PeerStatement.execute i) s.rest=.rollback .failed s.rest →
      ¬StillActive s.committed old → Contending server requests db x
        (s.tick PeerStatement.execute (peerNext server requests) i) := by
    intro hnext hnot
    rw [Workplace.tick_rollback hnext]
    exact h.fail hplace rfl hnot
  cases n with
  | zero =>
    apply hfail
    · rw [hplace]
      rfl
    · exact fun hstill => (hgood hstill).1 rfl
  | succ n =>
    cases hip : nextAddress server (s.view PeerStatement.execute i) with
    | none =>
      apply hfail
      · rw [hplace]
        unfold peerNext
        simp only [hip]
      · exact fun hstill => (hgood hstill).2 hip
    | some ip =>
      have hnext : peerNext server requests i (s.party i).place
          (s.view PeerStatement.execute i) s.rest=.work (.posting old n ip) [] s.rest := by
        rw [hplace]
        unfold peerNext
        simp only [hip]
      have hwrites := h.writes i
      rw [hplace] at hwrites
      rw [Workplace.tick_work hnext,List.append_nil]
      exact h.onward hwrites (by rw [hplace]; rfl) nofun (of_none rfl) (of_none rfl)

/-- The row is refused or held; one that is going to be committed is routed. -/
theorem Contending.insert (h : Contending server requests db x s) {old : Option VpnPeer} {n : Nat}
    {p : VpnPeer} (hplace : (s.party i).place=.inserting old n p)
    (hgood : CarefulAt server requests s i (.inserting old n p)) : Contending server requests db x
      (s.tick PeerStatement.execute (peerNext server requests) i) := by
  have hwrites := h.writes i
  rw [hplace] at hwrites
  have hdrawn : ∀ q,some p=some q → (s.party i).place.drawn=some q := by
    intro q hq
    rw [hplace]
    exact hq
  cases hclash : peerClash (s.view PeerStatement.execute i) p with
  | true =>
    have hnext : peerNext server requests i (s.party i).place
        (s.view PeerStatement.execute i) s.rest=.work (.clashed old n p) [] s.rest := by
      rw [hplace]
      unfold peerNext
      simp only [hclash,if_true]
    rw [Workplace.tick_work hnext,List.append_nil]
    exact h.onward hwrites (by rw [hplace]; rfl) nofun hdrawn (of_none rfl)
  | false =>
    have hnext : peerNext server requests i (s.party i).place
        (s.view PeerStatement.execute i) s.rest=.work (.holding old p) [.insertPeer p]
          s.rest := by
      rw [hplace]
      unfold peerNext
      simp only [hclash]
      rfl
    rw [Workplace.tick_work hnext]
    apply h.onward
    · rw [hwrites]
      simp [PeerPlace.statements,PeerPlace.retired,PeerPlace.held]
    · rw [hplace]
      rfl
    · exact nofun
    · exact hdrawn
    · intro q hq hworks
      cases hq
      exact hgood hclash hworks

/-- The request commits its row, or fails without having retired an active one. -/
theorem Contending.hold (h : Contending server requests db x s) {old : Option VpnPeer}
    {p : VpnPeer} (hplace : (s.party i).place=.holding old p)
    (hgood : CarefulAt server requests s i (.holding old p)) : Contending server requests db x
      (s.tick PeerStatement.execute (peerNext server requests) i) := by
  cases hworks : (requests i).works with
  | true =>
    have hnext : peerNext server requests i (s.party i).place
        (s.view PeerStatement.execute i) s.rest=.commit .finished := by
      rw [hplace]
      unfold peerNext
      simp only [hworks,if_true]
    rw [Workplace.tick_commit hnext]
    exact h.commit hplace hworks
  | false =>
    have hnext : peerNext server requests i (s.party i).place
        (s.view PeerStatement.execute i) s.rest=.rollback .failed s.rest := by
      rw [hplace]
      unfold peerNext
      simp only [hworks]
      rfl
    rw [Workplace.tick_rollback hnext]
    apply h.fail hplace rfl
    intro hstill
    rw [hgood hstill] at hworks
    cases hworks

variable [Fintype ι]

/-- Every careful step keeps the interface as the rows want it. -/
theorem peerTick_contending (h : Contending server requests db x s)
    (hgood : Careful server requests s i) :
    Contending server requests db x (peerTick server requests s i) := by
  unfold peerTick
  cases hwaits : Waits s i with
  | true => exact h
  | false =>
    have hgood := hgood hwaits
    have hwrites := h.writes i
    rw [if_neg (by decide)]
    cases hplace : (s.party i).place with
    | start => exact h.start hplace
    | retiring old =>
      rw [hplace] at hwrites
      have hnext : peerNext server requests i (s.party i).place
          (s.view PeerStatement.execute i) s.rest=.work (.allocating (some old) 5)
            [.revokePeer old.id] (s.rest.remove old.publicKey) := by rw [hplace]; rfl
      rw [Workplace.tick_work hnext,hwrites]
      exact h.retire hplace
    | allocating old n =>
      rw [hplace] at hgood
      exact h.allocate hplace hgood
    | posting old n ip =>
      rw [hplace] at hgood hwrites
      have hnext : peerNext server requests i (s.party i).place
          (s.view PeerStatement.execute i) s.rest=.work (.inserting old n
            ⟨s.rest.serial+1,(requests i).deviceId,server.id,s.rest.serial,ip,.active⟩) []
            {s.rest.assign s.rest.serial ip with serial := s.rest.serial+2} := by
        rw [hplace]
        rfl
      rw [Workplace.tick_work hnext,List.append_nil,hwrites]
      exact h.post hplace rfl rfl hgood.1 hgood.2
    | inserting old n p =>
      rw [hplace] at hgood
      exact h.insert hplace hgood
    | clashed old n p =>
      rw [hplace] at hwrites
      have hnext : peerNext server requests i (s.party i).place
          (s.view PeerStatement.execute i) s.rest=.work (.allocating old n) []
            (s.rest.remove p.publicKey) := by rw [hplace]; rfl
      rw [Workplace.tick_work hnext,List.append_nil,hwrites]
      exact h.withdraw hplace
    | holding old p =>
      rw [hplace] at hgood
      exact h.hold hplace hgood
    | finished =>
      rw [hplace] at hwrites
      have hnext : peerNext server requests i (s.party i).place
          (s.view PeerStatement.execute i) s.rest=.work .finished [] s.rest := by rw [hplace]; rfl
      rw [Workplace.tick_work hnext,hwrites]
      exact h.idle (by rw [hplace]; rfl) rfl rfl nofun
    | failed =>
      rw [hplace] at hwrites
      have hnext : peerNext server requests i (s.party i).place
          (s.view PeerStatement.execute i) s.rest=.work .failed [] s.rest := by rw [hplace]; rfl
      rw [Workplace.tick_work hnext,hwrites]
      exact h.idle (by rw [hplace]; rfl) rfl rfl nofun

omit [DecidableEq ι] [Fintype ι] in
theorem contending_opening (hn : ∀ p∈db.vpnPeers.rows,p.id<x.serial ∧ p.publicKey<x.serial)
    (hkeys : ∀ p∈db.vpnPeers.rows,∀ q∈db.vpnPeers.rows,p.publicKey=q.publicKey → p=q) :
    Contending server requests db x (Workplace.opening db x .start) := by
  constructor
  · exact fun _ => rfl
  · exact hn
  · exact hkeys
  · exact fun _ => of_none rfl
  · exact fun _ _ p _ _ hp => by cases hp
  · rintro _ p (hp|hp) <;> cases hp
  · exact fun _ => of_none rfl
  · exact fun p hp hdue => Or.inl (hdue.2.2 hp)

theorem retired_of_ended {q : PeerPlace} (h : q.ended=true) : q.retired=none := by
  cases q <;> first | rfl | cases h

omit [DecidableEq ι] [Fintype ι] in
/-- Once all are over, no row waits for a commit. -/
theorem Contending.ended (h : Contending server requests db x s)
    (hended : ∀ i,(s.party i).place.ended=true) : Unbroken server db x s.committed s.rest := by
  intro p hp hdue
  rcases h.routed p hp hdue with hroute|⟨i,q,hq,_⟩
  · exact hroute
  · rw [retired_of_ended (hended i)] at hq
    cases hq

/-- Where every step is careful, each active row has its address in the end. -/
theorem addresses_unbroken (hn : ∀ p∈db.vpnPeers.rows,p.id<x.serial ∧ p.publicKey<x.serial)
    (hkeys : ∀ p∈db.vpnPeers.rows,∀ q∈db.vpnPeers.rows,p.publicKey=q.publicKey → p=q)
    (is : List ι) (hgood : Conducted (Careful server requests) (peerTick server requests)
      (Workplace.opening db x .start) is)
    (hended : ∀ i,((is.foldl (peerTick server requests)
      (Workplace.opening db x .start)).party i).place.ended=true) :
    Unbroken server db x
      (is.foldl (peerTick server requests) (Workplace.opening db x .start)).committed
      (is.foldl (peerTick server requests) (Workplace.opening db x .start)).rest := by
  have hopening : Contending server requests db x (Workplace.opening db x .start) :=
    contending_opening hn hkeys
  have hstep : ∀ s i,Contending server requests db x s → Careful server requests s i →
      Contending server requests db x (peerTick server requests s i) :=
    fun _ _ h hgood => peerTick_contending h hgood
  exact (invariant_of_conducted (Contending server requests db x) hstep _ is hopening hgood).ended
    hended

end

/-- The one party of a race, with the database it sees and the interface. -/
structure Stands (w : PeerRace Unit) (place : PeerPlace) (db : Database) (x : Interface) :
    Prop where
  place : (w.party ()).place=place
  view : w.view PeerStatement.execute ()=db
  rest : w.rest=x

section

variable {server : VpnServer} {requests : Unit → PeerRequest} {w : PeerRace Unit}
  {place : PeerPlace} {db : Database} {x : Interface}

/-- Nobody else holds a row. -/
theorem peerTick_alone (w : PeerRace Unit) : peerTick server requests w ()=
    w.tick PeerStatement.execute (peerNext server requests) () := by
  unfold peerTick
  rw [if_neg]
  unfold Waits
  cases (w.party ()).place <;> simp

theorem Stands.work (h : Stands w place db x) {next : PeerPlace} {writes : List PeerStatement}
    {rest : Interface} (hnext : peerNext server requests () place db x=.work next writes rest) :
    Stands (peerTick server requests w ()) next (writes.foldl PeerStatement.execute db) rest := by
  rw [← h.place,← h.view,← h.rest] at hnext
  rw [peerTick_alone,Workplace.tick_work hnext,← h.view]
  constructor
  · simp
  · simp [Workplace.view]
  · rfl

theorem Stands.pass (h : Stands w place db x) {next : PeerPlace} {rest : Interface}
    (hnext : peerNext server requests () place db x=.work next [] rest) :
    Stands (peerTick server requests w ()) next db rest := h.work hnext

theorem nextAddress_of_allocateIp {s t : Session} {ip : IpAddress}
    (h : allocateIp server s=(.ok ip,t)) : s=t ∧ nextAddress server s.db=some ip := by
  obtain ⟨hst,network,hnetwork,hfree⟩ := allocateIp_ok h
  unfold nextAddress
  simp only [hnetwork,Option.bind_eq_bind,Option.bind_some,hfree,and_true]
  exact hst

/-- Alone, the attempts are those of `_create_peer_with_retry`. -/
theorem createPeer_alone {cfg : Settings} {n : Nat} {old : Option VpnPeer} {s t : Session}
    {r : PeerProvisioningResult} {p : VpnPeer}
    (h : createPeerAttempts cfg (requests ()).deviceId server n s=(.ok (r,p),t))
    (hw : Stands w (.allocating old n) s.db x) (hx : x.serial=s.serial) :
    ∃ (is : List Unit) (x' : Interface),
      Stands (is.foldl (peerTick server requests) w) (.holding old p) t.db x' ∧
      x'.route p.assignedIp=some p.publicKey := by
  induction n generalizing s w x with
  | zero => cases h
  | succ n ih =>
    obtain ⟨ip,u,hu,h⟩ := Eff.bind_ok.mp h
    obtain ⟨hus,hip⟩ := nextAddress_of_allocateIp hu
    subst hus
    obtain ⟨result,v,hv,h⟩ := Eff.bind_ok.mp h
    obtain ⟨os,hresult,hvs⟩ := createPeer_ok hv
    obtain ⟨id,y,hy,h⟩ := Eff.bind_ok.mp h
    cases hy
    obtain ⟨_,y,hy,h⟩ := Eff.bind_ok.mp h
    obtain ⟨os₁,hys⟩ := flush_ok hy
    obtain ⟨_,z,hz,h⟩ := Eff.bind_ok.mp h
    obtain ⟨os₂,hzs⟩ := flush_ok hz
    rw [getDb_bind_run] at h
    have hdb : z.db=s.db := by rw [hzs,hys,hvs]; rfl
    have hserial : z.serial=s.serial+2 := by
      rw [hzs,hys,hvs]
      simp only [setVpn]
      omega
    have hid : v.serial=s.serial+1 := by rw [hvs]; rfl
    have hallocate : Stands (peerTick server requests w ()) (.posting old n ip) s.db x := by
      apply hw.pass
      unfold peerNext
      simp only [hip]
    have hpost : Stands (peerTick server requests (peerTick server requests w ()) ())
        (.inserting old n ⟨s.serial+1,(requests ()).deviceId,server.id,s.serial,ip,.active⟩) s.db
        {x.assign s.serial ip with serial := s.serial+2} := by
      apply hallocate.pass
      rw [← hx]
      rfl
    rw [hid,hresult,hdb] at h
    cases hclash : peerClash s.db
        ⟨s.serial+1,(requests ()).deviceId,server.id,s.serial,ip,.active⟩ with
    | true =>
      rw [if_pos hclash] at h
      obtain ⟨_,y',hy',h⟩ := Eff.bind_ok.mp h
      obtain ⟨os₃,store,_,hys'⟩ := vpnRequest_ok hy'
      have hdb' : y'.db=s.db := by rw [hys',← hdb]; rfl
      have hserial' : y'.serial=s.serial+2 := by rw [hys',← hserial]; rfl
      have hclashed : Stands
          (peerTick server requests (peerTick server requests (peerTick server requests w ()) ()) ())
          (.clashed old n ⟨s.serial+1,(requests ()).deviceId,server.id,s.serial,ip,.active⟩) s.db
          {x.assign s.serial ip with serial := s.serial+2} := by
        apply hpost.pass
        unfold peerNext
        simp only [hclash,if_true]
      have hnext : peerNext server requests ()
          (.clashed old n ⟨s.serial+1,(requests ()).deviceId,server.id,s.serial,ip,.active⟩) s.db
          {x.assign s.serial ip with serial := s.serial+2}=.work (.allocating old n) []
            ({x.assign s.serial ip with serial := s.serial+2}.remove s.serial) := rfl
      have hagain := hclashed.pass hnext
      rw [← hdb'] at hagain
      obtain ⟨is,x',hdone⟩ := ih h hagain hserial'.symm
      exact ⟨()::()::()::()::is,x',hdone⟩
    | false =>
      rw [if_neg (by rw [hclash]; decide)] at h
      rw [alter_bind_run] at h
      have hnext : peerNext server requests ()
          (.inserting old n ⟨s.serial+1,(requests ()).deviceId,server.id,s.serial,ip,.active⟩) s.db
          {x.assign s.serial ip with serial := s.serial+2}=
          .work (.holding old ⟨s.serial+1,(requests ()).deviceId,server.id,s.serial,ip,.active⟩)
            [.insertPeer ⟨s.serial+1,(requests ()).deviceId,server.id,s.serial,ip,.active⟩]
            {x.assign s.serial ip with serial := s.serial+2} := by
        unfold peerNext
        simp only [hclash]
        rfl
      have hheld := hpost.work hnext
      cases h
      refine ⟨[(),(),()],{x.assign s.serial ip with serial := s.serial+2},?_,?_⟩
      · rw [← hdb] at hheld
        exact hheld
      · show Function.update x.route ip (some s.serial) ip=_
        rw [Function.update_self]

/-- Alone, a request retires the peer and creates one as `reissue` and `provision` do. -/
theorem peer_alone {cfg : Settings} {s u t : Session} {r : PeerProvisioningResult} {p : VpnPeer}
    (hx : x.serial=s.serial) (hworks : (requests ()).works=true)
    (hretire : if (requests ()).reissues
      then withActivePeer (requests ()).deviceId (retirePeer server) s=(.ok (),u) else u=s)
    (h : createPeerWithRetry cfg (requests ()).deviceId server u=(.ok (r,p),t)) :
    ∃ w : PeerRace Unit,(∃ is : List Unit,is.foldl (peerTick server requests)
        (Workplace.opening s.db x .start)=w) ∧ (w.party ()).place=.finished ∧ w.committed=t.db ∧
      w.rest.route p.assignedIp=some p.publicKey := by
  have hstart : Stands (Workplace.opening s.db x .start) .start s.db x := ⟨rfl,rfl,rfl⟩
  have hallocating : ∃ (is : List Unit) (old : Option VpnPeer) (x' : Interface),
      Stands (is.foldl (peerTick server requests) (Workplace.opening s.db x .start))
        (.allocating old 5) u.db x' ∧ x'.serial=u.serial := by
    have hnone : (if (requests ()).reissues then s.db.activePeer (requests ()).deviceId
        else none)=none → peerNext server requests () .start s.db x=
          .work (.allocating none 5) [] x := by
      intro hnone
      unfold peerNext
      simp only [hnone]
    by_cases hreissues : (requests ()).reissues=true
    · rw [if_pos hreissues] at hretire hnone
      rcases retireActive_ok hretire with ⟨hpeer,hus⟩|⟨o,os,ho,hus⟩
      · rw [hus]
        exact ⟨[()],none,x,hstart.pass (hnone hpeer),hx⟩
      · have hnext : peerNext server requests () .start s.db x=.work (.retiring o) [] x := by
          unfold peerNext
          rw [if_pos hreissues]
          simp only [ho]
        have hnext' : peerNext server requests () (.retiring o) s.db x=
            .work (.allocating (some o) 5) [.revokePeer o.id] (x.remove o.publicKey) := rfl
        rw [hus]
        exact ⟨[(),()],some o,x.remove o.publicKey,(hstart.pass hnext).work hnext',hx⟩
    · rw [if_neg hreissues] at hretire hnone
      rw [hretire]
      exact ⟨[()],none,x,hstart.pass (hnone rfl),hx⟩
  obtain ⟨is,old,x₁,hw,hx₁⟩ := hallocating
  obtain ⟨js,x₂,hheld,hroute⟩ := createPeer_alone h hw hx₁
  have hnext : peerNext server requests () (.holding old p) t.db x₂=.commit .finished := by
    unfold peerNext
    simp only [hworks,if_true]
  rw [← hheld.place,← hheld.view,← hheld.rest] at hnext
  refine ⟨_,⟨is++js++[()],rfl⟩,?_⟩
  rw [List.foldl_append,List.foldl_append,List.foldl_cons,List.foldl_nil,peerTick_alone,
    Workplace.tick_commit hnext]
  refine ⟨?_,hheld.view,?_⟩
  · simp
  · rw [hheld.rest]
    exact hroute

end

/-- The node of the opened shop, and its interface. -/
def openedNode : VpnServer :=
  ⟨4,"node","NL",none,"node","http://agent","key","node:51820",51820,
    ⟨"10.0.0.0/29",some ⟨.v4,167772160,29⟩⟩,.online,100,1,.wireguard⟩

def openedInterface : Interface := ⟨fun ip => if ip=⟨.v4,167772162⟩ then some 14 else none,18⟩

/-- A device is added while another is reissued, which takes its address when the first is done. -/
theorem addresses_unbroken_opened :
    Unbroken openedNode opened.db openedInterface
      ([0,0,1,1,0,0,0,1,1,1,1].foldl
        (peerTick openedNode fun i : Fin 2 => if i=0 then ⟨20,false,true⟩ else ⟨11,true,true⟩)
        (Workplace.opening opened.db openedInterface .start)).committed
      ([0,0,1,1,0,0,0,1,1,1,1].foldl
        (peerTick openedNode fun i : Fin 2 => if i=0 then ⟨20,false,true⟩ else ⟨11,true,true⟩)
        (Workplace.opening opened.db openedInterface .start)).rest :=
  addresses_unbroken (by decide +kernel) (by decide +kernel) _ (by decide +kernel)
    (by decide +kernel)

/-- The second request takes the address over at the node, is refused the row, and drops the
address that was the first one's. -/
theorem addresses_broken :
    (∀ i,(([0,0,1,1,0,1,0,0,1,1,1,1,1,1].foldl
      (peerTick openedNode fun i : Fin 2 => ⟨20+i.val,false,true⟩)
      (Workplace.opening opened.db openedInterface .start)).party i).place=.finished) ∧
    ¬Unbroken openedNode opened.db openedInterface
      ([0,0,1,1,0,1,0,0,1,1,1,1,1,1].foldl
        (peerTick openedNode fun i : Fin 2 => ⟨20+i.val,false,true⟩)
        (Workplace.opening opened.db openedInterface .start)).committed
      ([0,0,1,1,0,1,0,0,1,1,1,1,1,1].foldl
        (peerTick openedNode fun i : Fin 2 => ⟨20+i.val,false,true⟩)
        (Workplace.opening opened.db openedInterface .start)).rest := by
  unfold Unbroken Due
  decide +kernel

end VpnService.Backend
