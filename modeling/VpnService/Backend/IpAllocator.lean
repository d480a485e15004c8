import VpnService.Backend.Repositories
import Mathlib.Algebra.Group.Nat.Defs

namespace VpnService.Backend

def IpVersion.bits : IpVersion → Nat
  | .v4 => 32
  | .v6 => 128

/-- `network.hosts()`: its first address and how many follow. IPv4 leaves out the network and the
broadcast address, IPv6 the network address, and a network of two addresses neither. A network of
a single address answers with a list, on which `next` raises: `none`. -/
def IpNetwork.hosts (n : IpNetwork) : Option (Nat×Nat) :=
  let width := n.version.bits-n.prefixlen
  match width with
  | 0 => none
  | 1 => some (n.networkAddress,2)
  | w+2 => match n.version with
    | .v4 => some (n.networkAddress+1,2^(w+2)-2)
    | .v6 => some (n.networkAddress+1,2^(w+2)-1)

/-- The first of `count` consecutive addresses from `start` that is not taken. -/
def firstFree (taken : Nat → Bool) (start : Nat) : Nat → Option Nat
  | 0 => none
  | count+1 => if taken start then firstFree taken (start+1) count else some start

/-- The host addresses of a server's network but the first, which is the server's own. -/
def clientHosts (n : IpNetwork) : Option (Nat×Nat) :=
  n.hosts.map fun h => (h.1+1,h.2-1)

/-- The address `allocate_ip` answers with; every peer row of the server counts as taken,
whatever its status. -/
def freeAddress (n : IpNetwork) (peers : List VpnPeer) : Option (Option IpAddress) :=
  (clientHosts n).map fun h =>
    (firstFree (fun a => peers.any fun p => p.assignedIp=⟨n.version,a⟩) h.1 h.2).map
      fun a => ⟨n.version,a⟩

def ipPoolExhausted (server : VpnServer) : AppError :=
  ⟨.conflict,"ip_pool_exhausted",
    s!"No free IP addresses left in {server.internalNetwork.text} on server {server.id}"⟩

def allocateIp (server : VpnServer) : Req IpAddress := do
  let network ← Eff.orRaise (internalError "ValueError") server.internalNetwork.network
  let db ← getDb
  let answer ← Eff.orRaise (internalError "TypeError")
    (freeAddress network (db.peersOfServer server.id))
  Eff.orRaise (ipPoolExhausted server) answer

theorem firstFree_eq_some (taken : Nat → Bool) (start count a : Nat) :
    firstFree taken start count=some a ↔
      start≤a ∧ a<start+count ∧ taken a=false ∧ ∀ b,start≤b → b<a → taken b=true := by
  induction count generalizing start with
  | zero =>
    simp only [firstFree,reduceCtorEq,false_iff]
    intro h
    omega
  | succ count ih =>
    rw [firstFree]
    by_cases h : taken start=true
    · rw [if_pos h,ih]
      constructor
      · intro hs
        refine ⟨by omega,by omega,hs.2.2.1,?_⟩
        intro b hb hba
        by_cases hbs : b=start
        · exact hbs ▸ h
        · exact hs.2.2.2 b (by omega) hba
      · intro hs
        have hne : a≠start := by
          intro he
          rw [he,h] at hs
          exact absurd hs.2.2.1 (by decide)
        exact ⟨by omega,by omega,hs.2.2.1,fun b hb hba => hs.2.2.2 b (by omega) hba⟩
    · rw [if_neg h]
      constructor
      · intro he
        cases he
        exact ⟨by omega,by omega,by simpa using h,fun b hb hba => by omega⟩
      · intro hs
        have he : a=start := by
          by_contra hne
          exact h (hs.2.2.2 start (by omega) (by omega))
        rw [he]

theorem firstFree_eq_none (taken : Nat → Bool) (start count : Nat) :
    firstFree taken start count=none ↔ ∀ a,start≤a → a<start+count → taken a=true := by
  induction count generalizing start with
  | zero =>
    simp only [firstFree,true_iff]
    intro a ha hb
    omega
  | succ count ih =>
    rw [firstFree]
    by_cases h : taken start=true
    · rw [if_pos h,ih]
      constructor
      · intro hs a ha hb
        by_cases he : a=start
        · exact he ▸ h
        · exact hs a (by omega) (by omega)
      · intro hs a ha hb
        exact hs a (by omega) (by omega)
    · rw [if_neg h]
      simp only [reduceCtorEq,false_iff]
      intro hs
      exact h (hs start (by omega) (by omega))

/-- The allocated address is taken by no peer row of the server. -/
theorem freeAddress_fresh {n : IpNetwork} {peers : List VpnPeer} {ip : IpAddress}
    (h : freeAddress n peers=some (some ip)) : ∀ p∈peers,p.assignedIp≠ip := by
  unfold freeAddress at h
  cases hc : clientHosts n with
  | none =>
    rw [hc] at h
    cases h
  | some c =>
    rw [hc] at h
    simp only [Option.map_some,Option.some.injEq,Option.map_eq_some_iff] at h
    obtain ⟨a,ha,he⟩ := h
    have hfree := ((firstFree_eq_some _ _ _ _).mp ha).2.2.1
    intro p hp hpe
    have hnot := List.any_eq_false.mp hfree p hp
    exact hnot (by simp [hpe,he])

end VpnService.Backend
