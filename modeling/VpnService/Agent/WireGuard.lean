import VpnService.Framework.Store

namespace VpnService.Agent

/-- A peer of a WireGuard interface: the addresses its key may send from. -/
structure WgPeer (ip : Type) where
  publicKey : Int
  allowedIps : List ip
  deriving DecidableEq

abbrev WgPeers (ip : Type) := Store (@WgPeer.publicKey ip)

namespace WgPeers

variable {ip : Type} {x : WgPeers ip} {k j : Int} {ips : List ip} {a : ip}

/-- `wg set ... peer ... remove`; a peer that is not there is no error. -/
def remove (x : WgPeers ip) (k : Int) : WgPeers ip := x.delete k

def allowedAt (x : WgPeers ip) (k : Int) : Option (List ip) := (x.get? k).map WgPeer.allowedIps

@[simp] theorem allowedAt_empty : allowedAt (.empty : WgPeers ip) k=none := rfl

theorem allowedAt_remove : (x.remove k).allowedAt j=if j=k then none else x.allowedAt j := by
  unfold remove allowedAt
  rw [Store.get?_delete]
  by_cases h : j=k
  · rw [if_pos h,if_pos h]
    rfl
  · rw [if_neg h,if_neg h]

/-- No two peers may send from the address. -/
def Sole (x : WgPeers ip) (a : ip) : Prop :=
  ∀ j l,x.allowedAt j=some l → a∈l → ∀ j' l',x.allowedAt j'=some l' → a∈l' → j=j'

variable [DecidableEq ip]

/-- The others lose the addresses a peer is given. -/
def spare (ips : List ip) (p : WgPeer ip) : WgPeer ip :=
  {p with allowedIps := p.allowedIps.filter fun a => a∉ips}

theorem publicKey_spare (ips : List ip) (p : WgPeer ip) :
    (spare ips p).publicKey=p.publicKey := rfl

/-- `wg set ... peer ... allowed-ips ...`. -/
def set (x : WgPeers ip) (k : Int) (ips : List ip) : WgPeers ip :=
  Store.upsert (x.mapRows (spare ips) (publicKey_spare ips)) ⟨k,ips⟩

theorem allowedAt_set : (x.set k ips).allowedAt j=
    if j=k then some ips else (x.allowedAt j).map fun l => l.filter fun a => a∉ips := by
  unfold set allowedAt
  rw [Store.get?_upsert]
  dsimp only
  by_cases h : j=k
  · rw [if_pos h,if_pos h]
    rfl
  · rw [if_neg h,if_neg h,Store.get?_mapRows,Option.map_map,Option.map_map]
    rfl

theorem allowedAt_set_self : (x.set k ips).allowedAt k=some ips := by
  rw [allowedAt_set,if_pos rfl]

/-- Who has an address after `set` has just been given it, or had it before. -/
theorem mem_set {l : List ip} (h : (x.set k ips).allowedAt j=some l) (ha : a∈l) :
    j=k ∧ a∈ips ∨ a∉ips ∧ ∃ l,x.allowedAt j=some l ∧ a∈l := by
  rw [allowedAt_set] at h
  by_cases hj : j=k
  · rw [if_pos hj] at h
    cases h
    exact Or.inl ⟨hj,ha⟩
  · rw [if_neg hj] at h
    obtain ⟨l',hl',hl⟩ := Option.map_eq_some_iff.mp h
    rw [← hl] at ha
    obtain ⟨ha,hips⟩ := List.mem_filter.mp ha
    exact Or.inr ⟨of_decide_eq_true hips,l',hl',ha⟩

theorem sole_given (h : a∈ips) : (x.set k ips).Sole a := by
  intro j l hl ha j' l' hl' ha'
  rcases mem_set hl ha with ⟨hj,_⟩|⟨hnot,_⟩
  · rcases mem_set hl' ha' with ⟨hj',_⟩|⟨hnot,_⟩
    · rw [hj,hj']
    · exact absurd h hnot
  · exact absurd h hnot

theorem sole_set (h : x.Sole a) : (x.set k ips).Sole a := by
  by_cases hips : a∈ips
  · exact sole_given hips
  · intro j l hl ha j' l' hl' ha'
    rcases mem_set hl ha with ⟨_,hin⟩|⟨_,m,hm,hmem⟩
    · exact absurd hin hips
    · rcases mem_set hl' ha' with ⟨_,hin⟩|⟨_,m',hm',hmem'⟩
      · exact absurd hin hips
      · exact h j m hm hmem j' m' hm' hmem'

end WgPeers

end VpnService.Agent
