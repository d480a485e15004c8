import VpnService.Backend.IpNetworks
import VpnService.Backend.Reachable

namespace VpnService.Backend

namespace IpNetwork

/-- `ip_network(text, strict=False)` of an address and a prefix length: the host bits are masked. -/
def of (a : IpAddress) (prefixlen : Nat) : IpNetwork :=
  let width := a.version.bits-prefixlen
  ⟨a.version,a.value/2^width*2^width,prefixlen⟩

def broadcastAddress (n : IpNetwork) : IpAddress :=
  ⟨n.version,n.networkAddress+2^(n.version.bits-n.prefixlen)-1⟩

/-- The hosts of a network: its addresses but its own and, of IPv4, the broadcast address. A
network of one or two addresses has no address of its own. -/
structure Usable (n : IpNetwork) (a : IpAddress) : Prop where
  contained : n.contains a
  notNetwork : n.prefixlen+2≤n.version.bits → a≠n.address
  notBroadcast : n.version=.v4 → n.prefixlen+2≤n.version.bits → a≠n.broadcastAddress

/-- What a peer may get: a host other than the first that no peer of the server has. -/
structure Allocatable (n : IpNetwork) (peers : List VpnPeer) (a : IpAddress) : Prop where
  usable : n.Usable a
  notFirst : ∃ b,n.Usable b ∧ b.value<a.value
  notTaken : ∀ p∈peers,p.assignedIp≠a

end IpNetwork

/-- `allocate_ip` as text. -/
def allocateCidr (server : VpnServer) : Req String := do
  let ip ← allocateIp server
  pure ip.cidr

/-- The server's lowest allocatable address is the answer, and without one the pool is full. -/
structure AllocatesLowest (server : VpnServer) (n : IpNetwork) (s : Session) : Prop where
  lowest : ∀ b,n.Allocatable (s.db.peersOfServer server.id) b →
    ∃ a,n.Allocatable (s.db.peersOfServer server.id) a ∧
      (∀ c,n.Allocatable (s.db.peersOfServer server.id) c → a.value≤c.value) ∧
      allocateCidr server s=(.ok a.cidr,s)
  exhausted : (∀ a,¬n.Allocatable (s.db.peersOfServer server.id) a) →
    allocateCidr server s=(.error (ipPoolExhausted server),s)

namespace IpNetwork

variable {n : IpNetwork} {peers : List VpnPeer}

theorem Usable.version {a : IpAddress} (h : n.Usable a) : a=⟨n.version,a.value⟩ := by
  obtain ⟨version,value⟩ := a
  have hversion : n.version=version := h.contained.1
  rw [hversion]

theorem usable_iff (v : Nat) : n.Usable ⟨n.version,v⟩ ↔
    (n.networkAddress≤v ∧ v<n.networkAddress+2^(n.version.bits-n.prefixlen)) ∧
      (n.prefixlen+2≤n.version.bits → v≠n.networkAddress) ∧ (n.version=.v4 →
        n.prefixlen+2≤n.version.bits →
          v≠n.networkAddress+2^(n.version.bits-n.prefixlen)-1) := by
  have hvalue : ∀ w,(⟨n.version,v⟩ : IpAddress)≠⟨n.version,w⟩ ↔ v≠w := by simp
  constructor
  · intro h
    exact ⟨h.contained.2,fun hwide => (hvalue _).mp (h.notNetwork hwide),
      fun hfour hwide => (hvalue _).mp (h.notBroadcast hfour hwide)⟩
  · intro ⟨hcontained,hnetwork,hbroadcast⟩
    exact ⟨⟨rfl,hcontained⟩,fun hwide => (hvalue _).mpr (hnetwork hwide),
      fun hfour hwide => (hvalue _).mpr (hbroadcast hfour hwide)⟩

/-- `hosts` counts the usable addresses in order. -/
theorem hosts_usable {first count : Nat} (h : n.hosts=some (first,count)) (v : Nat) :
    n.Usable ⟨n.version,v⟩ ↔ first≤v ∧ v<first+count := by
  rw [usable_iff]
  unfold hosts at h
  cases hwidth : n.version.bits-n.prefixlen with
  | zero =>
    rw [hwidth] at h
    cases h
  | succ w =>
    rw [hwidth] at h
    cases w with
    | zero =>
      cases h
      have hnarrow : ¬n.prefixlen+2≤n.version.bits := by omega
      simp [hnarrow]
    | succ w =>
      have hpos : 0<2^w := Nat.two_pow_pos w
      have hpow : 2^(w+1+1)=2^w*4 := Nat.pow_add 2 w 2
      have hwide : n.prefixlen+2≤n.version.bits := by omega
      cases hv : n.version with
      | v4 =>
        simp only [hv] at h
        cases h
        rw [hv] at hwide
        simp only [hwide,forall_const,hpow]
        omega
      | v6 =>
        simp only [hv] at h
        cases h
        rw [hv] at hwide
        simp only [hwide,forall_const,hpow,reduceCtorEq,false_implies,and_true]
        omega

/-- The hosts after the first that are not taken. -/
theorem allocatable_iff {first count : Nat} (h : n.hosts=some (first,count)) (v : Nat) :
    n.Allocatable peers ⟨n.version,v⟩ ↔ first+1≤v ∧ v<first+1+(count-1) ∧
      peers.any (fun p => p.assignedIp=⟨n.version,v⟩)=false := by
  have htaken : peers.any (fun p => p.assignedIp=⟨n.version,v⟩)=false ↔
      ∀ p∈peers,p.assignedIp≠⟨n.version,v⟩ := by
    simp
  rw [htaken]
  constructor
  · intro ha
    obtain ⟨b,hb,hlt⟩ := ha.notFirst
    have hvalue := hb
    rw [hb.version] at hvalue
    have hlow := (hosts_usable h b.value).mp hvalue
    have hv := (hosts_usable h v).mp ha.usable
    have hlt : b.value<v := hlt
    exact ⟨by omega,by omega,ha.notTaken⟩
  · intro ⟨hlow,hhigh,hfree⟩
    have husable : ∀ w,first≤w → w<first+count → n.Usable ⟨n.version,w⟩ :=
      fun w hfirst hlast => (hosts_usable h w).mpr ⟨hfirst,hlast⟩
    have hnotFirst : ∃ b,n.Usable b ∧ b.value<v :=
      ⟨⟨n.version,first⟩,husable first le_rfl (by omega),hlow⟩
    exact ⟨husable v (by omega) (by omega),hnotFirst,hfree⟩

/-- A network of one address has no host after the first. -/
theorem not_allocatable {a : IpAddress} (h : n.version.bits≤n.prefixlen) :
    ¬n.Allocatable peers a := by
  intro ha
  obtain ⟨b,hb,hlt⟩ := ha.notFirst
  have hone : 2^(n.version.bits-n.prefixlen)=1 := by
    rw [Nat.sub_eq_zero_of_le h,Nat.pow_zero]
  obtain ⟨_,hlow,_⟩ := hb.contained
  obtain ⟨_,_,hhigh⟩ := ha.usable.contained
  omega

theorem hosts_of_lt (h : n.prefixlen<n.version.bits) :
    ∃ first count,n.hosts=some (first,count) := by
  unfold hosts
  cases hwidth : n.version.bits-n.prefixlen with
  | zero => omega
  | succ w =>
    cases w with
    | zero => exact ⟨_,_,rfl⟩
    | succ w =>
      cases n.version with
      | v4 => exact ⟨_,_,rfl⟩
      | v6 => exact ⟨_,_,rfl⟩

theorem hosts_of_le (h : n.version.bits≤n.prefixlen) : n.hosts=none := by
  unfold hosts
  rw [Nat.sub_eq_zero_of_le h]

end IpNetwork

section

variable {server : VpnServer} {n : IpNetwork} {s : Session}

theorem allocateCidr_run {answer : Option IpAddress}
    (hn : server.internalNetwork.network=some n)
    (h : freeAddress n (s.db.peersOfServer server.id)=some answer) :
    allocateCidr server s=
      (Eff.orRaise (ipPoolExhausted server) (answer.map IpAddress.cidr) : Req String) s := by
  have hip : allocateIp server s=(Eff.orRaise (ipPoolExhausted server) answer : Req IpAddress) s := by
    simp [allocateIp,hn,h]
  unfold allocateCidr
  rw [Eff.bind_run,hip]
  cases answer with
  | none => rfl
  | some a => rfl

theorem allocates_hosts {first count : Nat} (hn : server.internalNetwork.network=some n)
    (h : n.hosts=some (first,count)) : AllocatesLowest server n s := by
  have hfree : freeAddress n (s.db.peersOfServer server.id)=
      some ((firstFree (fun v => (s.db.peersOfServer server.id).any
        fun p => p.assignedIp=⟨n.version,v⟩) (first+1) (count-1)).map fun v => ⟨n.version,v⟩) := by
    simp [freeAddress,clientHosts,h]
  have hrun := allocateCidr_run hn hfree
  cases hfirst : firstFree (fun v => (s.db.peersOfServer server.id).any
      fun p => p.assignedIp=⟨n.version,v⟩) (first+1) (count-1) with
  | none =>
    rw [hfirst] at hrun
    have hall := (firstFree_eq_none _ _ _).mp hfirst
    have hnone : ∀ a,¬n.Allocatable (s.db.peersOfServer server.id) a := by
      intro a ha
      have hvalue := ha
      rw [ha.usable.version] at hvalue
      obtain ⟨hlow,hhigh,htaken⟩ := (IpNetwork.allocatable_iff h _).mp hvalue
      rw [hall a.value hlow hhigh] at htaken
      cases htaken
    exact ⟨fun b hb => absurd hb (hnone b),fun _ => hrun⟩
  | some v =>
    rw [hfirst] at hrun
    obtain ⟨hlow,hhigh,hfree,hbelow⟩ := (firstFree_eq_some _ _ _ _).mp hfirst
    have hv := (IpNetwork.allocatable_iff h v).mpr ⟨hlow,hhigh,hfree⟩
    have hleast : ∀ c,n.Allocatable (s.db.peersOfServer server.id) c → v≤c.value := by
      intro c hc
      by_contra hlt
      rw [hc.usable.version] at hc
      obtain ⟨hlow,_,htaken⟩ := (IpNetwork.allocatable_iff h _).mp hc
      have hnot := hbelow c.value hlow (Nat.lt_of_not_le hlt)
      rw [hnot] at htaken
      cases htaken
    exact ⟨fun _ _ => ⟨_,hv,hleast,hrun⟩,fun hnone => absurd hv (hnone _)⟩

/-- `next` of the list that is a network of one address raises, whatever its default. -/
theorem allocateCidr_single (hn : server.internalNetwork.network=some n)
    (h : n.version.bits≤n.prefixlen) :
    allocateCidr server s=(.error (internalError "TypeError"),s) := by
  have hfree : freeAddress n (s.db.peersOfServer server.id)=none := by
    simp [freeAddress,clientHosts,IpNetwork.hosts_of_le h]
  have hip : allocateIp server s=(.error (internalError "TypeError"),s) := by
    simp [allocateIp,hn,hfree]
  unfold allocateCidr
  rw [Eff.bind_run,hip]

theorem not_allocates_of_le (hn : server.internalNetwork.network=some n)
    (h : n.version.bits≤n.prefixlen) : ¬AllocatesLowest server n s := by
  intro hlowest
  have hfull := hlowest.exhausted fun _ => IpNetwork.not_allocatable h
  rw [allocateCidr_single hn h] at hfull
  have hkind := congrArg (fun r : Except AppError String×Session => r.1.map fun _ => ()) hfull
  simp [ipPoolExhausted,internalError,Except.map] at hkind

end

/-- The lowest free host is allocated exactly if the network is not a single address. -/
theorem allocates_iff (server : VpnServer) (s : Session) (a : IpAddress) (prefixlen : Nat)
    (hbits : prefixlen≤a.version.bits) (hfour : a.version=.v4 → prefixlen≤31)
    (hn : server.internalNetwork.network=some (IpNetwork.of a prefixlen)) :
    AllocatesLowest server (IpNetwork.of a prefixlen) s ↔ prefixlen≠128 := by
  constructor
  · intro h hsingle
    have hwidth : (IpNetwork.of a prefixlen).version.bits≤(IpNetwork.of a prefixlen).prefixlen := by
      show a.version.bits≤prefixlen
      cases hv : a.version with
      | v4 =>
        have hsmall := hfour hv
        omega
      | v6 => exact hsingle.ge
    exact not_allocates_of_le hn hwidth h
  · intro h
    have hwidth : (IpNetwork.of a prefixlen).prefixlen<(IpNetwork.of a prefixlen).version.bits := by
      show prefixlen<a.version.bits
      cases hv : a.version with
      | v4 =>
        have hsmall := hfour hv
        show prefixlen<32
        omega
      | v6 =>
        rw [hv] at hbits
        exact lt_of_le_of_ne hbits h
    obtain ⟨first,count,hhosts⟩ := IpNetwork.hosts_of_lt hwidth
    exact allocates_hosts hn hhosts

def pooledServer (network : NetworkText) : VpnServer :=
  ⟨4,"node","NL",none,"node","http://agent","key","node:51820",51820,network,.online,100,0,.wireguard⟩

/-- With host bits in the network's text, and 10.0.0.2 taken. -/
theorem allocates_lowest_opened :
    AllocatesLowest (pooledServer ⟨"10.0.0.5/29",some (.of ⟨.v4,167772165⟩ 29)⟩)
      (.of ⟨.v4,167772165⟩ 29) ⟨opened,quiet 3⟩ :=
  (allocates_iff _ _ ⟨.v4,167772165⟩ 29 (by decide) (by decide) rfl).mpr (by decide)

/-- The single address of an IPv6 network is a full pool, and the answer is another error. -/
theorem not_allocates_single :
    ¬AllocatesLowest (pooledServer ⟨"fd00::1/128",some (.of ⟨.v6,253*2^120+1⟩ 128)⟩)
      (.of ⟨.v6,253*2^120+1⟩ 128) ⟨.initial,quiet 0⟩ :=
  not_allocates_of_le rfl (by decide)

end VpnService.Backend
