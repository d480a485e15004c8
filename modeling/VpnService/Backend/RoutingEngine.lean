import VpnService.Backend.IpNetworks
import VpnService.Backend.RoutingService
import Mathlib.Data.List.Dedup
import Mathlib.Data.List.Sort

namespace VpnService.Backend

/-- `_count_righthand_zero_bits(number, bits)`. -/
def rightZeros : Nat → Nat → Nat
  | 0,_ => 0
  | bits+1,n => if n%2=0 then rightZeros bits (n/2)+1 else 0

/-- `summarize_address_range`, with enough rounds for its loop. -/
def summarizeAddressRange (version : IpVersion) : Nat → Nat → Nat → List IpNetwork
  | 0,_,_ => []
  | rounds+1,first,last =>
    if first≤last then
      let nbits := min (rightZeros version.bits first) (Nat.log2 (last-first+1))
      ⟨version,first,version.bits-nbits⟩
        ::summarizeAddressRange version rounds (first+2^nbits) last
    else []

/-- `_find_address_range`, in the middle of a range. -/
def addressRanges (first last : Nat) : List Nat → List (Nat×Nat)
  | [] => [(first,last)]
  | x::xs => if x=last+1 then addressRanges first x xs else (first,last)::addressRanges x x xs

/-- `collapse_addresses` of host networks; merging finds no two networks left to merge. -/
def collapseAddresses (version : IpVersion) (hosts : List Nat) : List IpNetwork :=
  match hosts.dedup.insertionSort (· ≤ ·) with
  | [] => []
  | x::xs => (addressRanges x x xs).flatMap fun range =>
    summarizeAddressRange version (range.2-range.1+1) range.1 range.2

/-- What a lookup of one record type comes to. -/
inductive Lookup (version : IpVersion)
  | answer (records : List (Fin (2^version.bits)))
  | nxdomain
  | noAnswer
  | transient  -- a timeout, no nameservers, an `OSError`
  | raises     -- any other exception
  deriving DecidableEq

namespace Lookup

variable {version : IpVersion}

def addresses : Lookup version → List IpAddress
  | answer records => records.map fun r => ⟨version,r.val⟩
  | _ => []

end Lookup

/-- The lookups of one domain. -/
structure DnsAnswers where
  a : Lookup .v4
  aaaa : Lookup .v6
  deriving DecidableEq

namespace DnsAnswers

def addresses (d : DnsAnswers) : List IpAddress := d.a.addresses++d.aaaa.addresses

def raises (d : DnsAnswers) : Bool := d.a=.raises ∨ d.aaaa=.raises

/-- `DomainResolver.resolve`. -/
def resolve (d : DnsAnswers) (fallbackIps : Option (List IpAddress)) : Option (List IpAddress) :=
  if d.raises then none
  else
    let hadTransientFailure := d.a=.transient ∨ d.aaaa=.transient
    if d.addresses=[] ∧ hadTransientFailure ∧ fallbackIps.getD []≠[] then fallbackIps
    else some d.addresses

end DnsAnswers

/-- A rule and what the lookups of its domain come to when the loop reaches it. -/
structure Query where
  domain : String
  routeType : RouteType
  dns : DnsAnswers

/-- The addresses `build_allowed_ips` collects. -/
def collectAddresses (previousIpsByDomain : String → Option (List IpAddress)) :
    List Query → Option (List IpAddress)
  | [] => some []
  | q::qs =>
    if q.routeType=.vpn then do
      let ips ← q.dns.resolve (previousIpsByDomain q.domain)
      let rest ← collectAddresses previousIpsByDomain qs
      pure (ips++rest)
    else collectAddresses previousIpsByDomain qs

/-- The networks of `collapsed`. -/
def collapsedNetworks (ips : List IpAddress) : List IpNetwork :=
  let values version := (ips.filter fun a => a.version=version).map IpAddress.value
  collapseAddresses .v4 (values .v4)++collapseAddresses .v6 (values .v6)

/-- `RoutingEngine.build_allowed_ips`; `none` is an exception. -/
def buildAllowedIps (previousIpsByDomain : String → Option (List IpAddress))
    (queries : List Query) : Option (List String) :=
  (collectAddresses previousIpsByDomain queries).map fun ips =>
    ((collapsedNetworks ips).map IpNetwork.text).insertionSort (· ≤ ·)

/-- The rules with what the lookups come to, in the order in which they are made. -/
def queriesOf (dns : Nat → DnsAnswers) (rules : List (String×RouteType)) : List Query :=
  rules.zipIdx.map fun r => ⟨r.1.1,r.1.2,dns r.2⟩

/-- The engine as `RoutingService` calls it: without `previous_ips_by_domain`. -/
def routingEngine (dns : Nat → DnsAnswers) (rules : List (String×RouteType)) :
    Option (List String) := buildAllowedIps (fun _ => none) (queriesOf dns rules)

theorem two_pow_rightZeros (bits n : Nat) : 2^rightZeros bits n∣n ∧ rightZeros bits n≤bits := by
  induction bits generalizing n with
  | zero => simp [rightZeros]
  | succ bits ih =>
    rw [rightZeros]
    by_cases h : n%2=0
    · obtain ⟨hdvd,hle⟩ := ih (n/2)
      rw [if_pos h]
      constructor
      · rw [Nat.pow_succ']
        exact Nat.mul_dvd_of_dvd_div (Nat.dvd_of_mod_eq_zero h) hdvd
      · omega
    · rw [if_neg h]
      exact ⟨Nat.one_dvd n,Nat.zero_le _⟩

theorem nbits_spec (version : IpVersion) {first last nbits : Nat} (h : first≤last)
    (hn : nbits=min (rightZeros version.bits first) (Nat.log2 (last-first+1))) :
    2^nbits∣first ∧ first+2^nbits≤last+1 ∧ nbits≤version.bits := by
  obtain ⟨hdvd,hle⟩ := two_pow_rightZeros version.bits first
  have hzeros : nbits≤rightZeros version.bits first := by
    rw [hn]
    exact min_le_left _ _
  have hlog : nbits≤Nat.log2 (last-first+1) := by
    rw [hn]
    exact min_le_right _ _
  have hcount : 2^nbits≤last-first+1 :=
    (Nat.pow_le_pow_right (by decide) hlog).trans (Nat.log2_self_le (Nat.succ_ne_zero _))
  exact ⟨Nat.dvd_trans (Nat.pow_dvd_pow 2 hzeros) hdvd,by omega,hzeros.trans hle⟩

/-- The host bits of each network are zero, as its constructor demands. -/
theorem summarize_aligned {version : IpVersion} {rounds first last : Nat} {n : IpNetwork}
    (hn : n∈summarizeAddressRange version rounds first last) :
    2^(version.bits-n.prefixlen)∣n.networkAddress := by
  induction rounds generalizing first with
  | zero => cases hn
  | succ rounds ih =>
    rw [summarizeAddressRange] at hn
    by_cases h : first≤last
    · obtain ⟨hdvd,_,hle⟩ := nbits_spec version h rfl
      rw [if_pos h] at hn
      rcases List.mem_cons.mp hn with hn|hn
      · rw [hn]
        dsimp only
        rw [Nat.sub_sub_self hle]
        exact hdvd
      · exact ih hn
    · rw [if_neg h] at hn
      cases hn

/-- The networks of a range have its addresses. -/
theorem summarize_contains {version : IpVersion} {rounds first last : Nat}
    (hrounds : last+1-first≤rounds) (a : IpAddress) :
    (∃ n∈summarizeAddressRange version rounds first last,n.contains a) ↔
      a.version=version ∧ first≤a.value ∧ a.value≤last := by
  induction rounds generalizing first with
  | zero =>
    simp only [summarizeAddressRange,List.not_mem_nil,false_and,exists_false,false_iff]
    omega
  | succ rounds ih =>
    rw [summarizeAddressRange]
    by_cases h : first≤last
    · obtain ⟨_,hwithin,hle⟩ := nbits_spec version h rfl
      rw [if_pos h]
      generalize min (rightZeros version.bits first) (Nat.log2 (last-first+1))=nbits at hwithin hle ⊢
      have hfirst : (⟨version,first,version.bits-nbits⟩ : IpNetwork).contains a ↔
          version=a.version ∧ first≤a.value ∧ a.value<first+2^nbits := by
        unfold IpNetwork.contains
        dsimp only
        rw [Nat.sub_sub_self hle]
      have hpos : 0<2^nbits := Nat.two_pow_pos nbits
      rw [List.exists_mem_cons_iff,hfirst,ih (by omega)]
      constructor
      · intro hcase
        rcases hcase with ⟨hv,hlow,hhigh⟩|⟨hv,hlow,hhigh⟩
        · exact ⟨hv.symm,hlow,by omega⟩
        · exact ⟨hv,by omega,hhigh⟩
      · intro ⟨hv,hlow,hhigh⟩
        by_cases hpiece : a.value<first+2^nbits
        · exact Or.inl ⟨hv.symm,hlow,hpiece⟩
        · exact Or.inr ⟨hv,by omega,hhigh⟩
    · rw [if_neg h]
      simp only [List.not_mem_nil,false_and,exists_false,false_iff]
      omega

/-- The ranges have the addresses they are made of. -/
theorem mem_addressRanges {first last v : Nat} {xs : List Nat} (h : first≤last) :
    (∃ r∈addressRanges first last xs,r.1≤v ∧ v≤r.2) ↔ (first≤v ∧ v≤last) ∨ v∈xs := by
  induction xs generalizing first last with
  | nil => simp [addressRanges]
  | cons x xs ih =>
    rw [addressRanges]
    by_cases hx : x=last+1
    · rw [if_pos hx,ih (by omega),List.mem_cons]
      constructor
      · intro hcase
        rcases hcase with ⟨hlow,hhigh⟩|hmem
        · by_cases hv : v=x
          · exact Or.inr (Or.inl hv)
          · exact Or.inl ⟨hlow,by omega⟩
        · exact Or.inr (Or.inr hmem)
      · intro hcase
        rcases hcase with ⟨hlow,hhigh⟩|hv|hmem
        · exact Or.inl ⟨hlow,by omega⟩
        · exact Or.inl ⟨by omega,by omega⟩
        · exact Or.inr hmem
    · rw [if_neg hx,List.exists_mem_cons_iff,ih le_rfl,List.mem_cons]
      apply or_congr_right
      apply or_congr_left
      omega

theorem addressRanges_ordered {first last : Nat} {xs : List Nat} (h : first≤last) :
    ∀ r∈addressRanges first last xs,r.1≤r.2 := by
  induction xs generalizing first last with
  | nil => simpa [addressRanges] using h
  | cons x xs ih =>
    rw [addressRanges]
    by_cases hx : x=last+1
    · rw [if_pos hx]
      exact ih (by omega)
    · rw [if_neg hx]
      intro r hr
      rcases List.mem_cons.mp hr with hr|hr
      · rw [hr]
        exact h
      · exact ih le_rfl r hr

/-- What is collapsed has exactly the addresses it was made of. -/
theorem collapse_contains (version : IpVersion) (hosts : List Nat) (a : IpAddress) :
    (∃ n∈collapseAddresses version hosts,n.contains a) ↔ a.version=version ∧ a.value∈hosts := by
  have hmem : ∀ v,v∈hosts.dedup.insertionSort (· ≤ ·) ↔ v∈hosts := by
    intro v
    rw [List.mem_insertionSort,List.mem_dedup]
  unfold collapseAddresses
  cases hsorted : hosts.dedup.insertionSort (· ≤ ·) with
  | nil =>
    rw [hsorted] at hmem
    simp [← hmem]
  | cons x xs =>
    rw [hsorted] at hmem
    have hrange : ∀ r∈addressRanges x x xs,
        (∃ n∈summarizeAddressRange version (r.2-r.1+1) r.1 r.2,n.contains a) ↔
          a.version=version ∧ r.1≤a.value ∧ a.value≤r.2 := by
      intro r hr
      have hle := addressRanges_ordered le_rfl r hr
      exact summarize_contains (by omega) a
    constructor
    · intro ⟨n,hn,hcontains⟩
      obtain ⟨r,hr,hn⟩ := List.mem_flatMap.mp hn
      obtain ⟨hv,hlow,hhigh⟩ := (hrange r hr).mp ⟨n,hn,hcontains⟩
      refine ⟨hv,(hmem a.value).mp ?_⟩
      rcases (mem_addressRanges le_rfl).mp ⟨r,hr,hlow,hhigh⟩ with ⟨hlow,hhigh⟩|hin
      · rw [Nat.le_antisymm hhigh hlow]
        exact List.mem_cons_self
      · exact List.mem_cons_of_mem x hin
    · intro ⟨hv,hin⟩
      have hcase : (x≤a.value ∧ a.value≤x) ∨ a.value∈xs := by
        rcases List.mem_cons.mp ((hmem a.value).mpr hin) with hax|hax
        · exact Or.inl ⟨hax.ge,hax.le⟩
        · exact Or.inr hax
      obtain ⟨r,hr,hlow,hhigh⟩ := (mem_addressRanges le_rfl).mpr hcase
      obtain ⟨n,hn,hcontains⟩ := (hrange r hr).mpr ⟨hv,hlow,hhigh⟩
      exact ⟨n,List.mem_flatMap.mpr ⟨r,hr,hn⟩,hcontains⟩

theorem collapsed_contains (ips : List IpAddress) (a : IpAddress) :
    (∃ n∈collapsedNetworks ips,n.contains a) ↔ a∈ips := by
  have hvalues : ∀ version,a.version=version ∧
      a.value∈(ips.filter fun b => b.version=version).map IpAddress.value ↔
        a.version=version ∧ a∈ips := by
    intro version
    apply and_congr_right
    intro hv
    rw [List.mem_map]
    constructor
    · intro ⟨b,hb,hvalue⟩
      obtain ⟨hb,hversion⟩ := List.mem_filter.mp hb
      have hversion : b.version=version := by simpa using hversion
      have hsame : b=a := by
        cases a
        cases b
        simp_all
      rw [← hsame]
      exact hb
    · intro ha
      exact ⟨a,List.mem_filter.mpr ⟨ha,by simpa using hv⟩,rfl⟩
  have hfour := collapse_contains .v4 ((ips.filter fun b => b.version=.v4).map IpAddress.value) a
  have hsix := collapse_contains .v6 ((ips.filter fun b => b.version=.v6).map IpAddress.value) a
  rw [hvalues] at hfour hsix
  unfold collapsedNetworks
  simp only [List.mem_append,or_and_right,exists_or]
  rw [hfour,hsix,← or_and_right]
  apply and_iff_right
  cases a.version with
  | v4 => exact Or.inl rfl
  | v6 => exact Or.inr rfl

theorem contains_address (n : IpNetwork) : n.contains n.address :=
  ⟨rfl,le_rfl,Nat.lt_add_of_pos_right (Nat.two_pow_pos _)⟩

/-- The texts of the networks cover the addresses that are in one of them. -/
theorem covers_texts {networks : List IpNetwork} (h : ∀ n∈networks,n.address.Valid)
    (a : IpAddress) :
    Covers ((networks.map IpNetwork.text).insertionSort (· ≤ ·)) a ↔
      ∃ n∈networks,n.contains a := by
  constructor
  · intro ⟨n,hn,htext,ha⟩
    rw [List.mem_insertionSort] at htext
    obtain ⟨m,hm,hsame⟩ := List.mem_map.mp htext
    rw [← text_injective (h m hm) hn hsame] at ha
    exact ⟨m,hm,ha⟩
  · intro ⟨n,hn,ha⟩
    refine ⟨n,h n hn,?_,ha⟩
    rw [List.mem_insertionSort]
    exact List.mem_map_of_mem hn

/-- What the engine builds covers the addresses it has collected, and no others. -/
theorem built_covers {previous : String → Option (List IpAddress)} {queries : List Query}
    {ips : List IpAddress} {cidrs : List String} (hips : collectAddresses previous queries=some ips)
    (hvalid : ∀ a∈ips,a.Valid) (h : buildAllowedIps previous queries=some cidrs) :
    (∀ a,Covers cidrs a ↔ a∈ips) ∧ (cidrs=[] ↔ ips=[]) := by
  unfold buildAllowedIps at h
  rw [hips] at h
  cases h
  have haddresses : ∀ n∈collapsedNetworks ips,n.address∈ips := by
    intro n hn
    exact (collapsed_contains ips n.address).mp ⟨n,hn,contains_address n⟩
  constructor
  · intro a
    rw [covers_texts fun n hn => hvalid _ (haddresses n hn)]
    exact collapsed_contains ips a
  · constructor
    · intro hnone
      have hnone : ((collapsedNetworks ips).map IpNetwork.text).insertionSort (· ≤ ·)=[] := hnone
      apply List.eq_nil_iff_forall_not_mem.mpr
      intro a ha
      obtain ⟨n,hn,_⟩ := (collapsed_contains ips a).mpr ha
      have htext : n.text∈((collapsedNetworks ips).map IpNetwork.text).insertionSort (· ≤ ·) := by
        rw [List.mem_insertionSort]
        exact List.mem_map_of_mem hn
      rw [hnone] at htext
      cases htext
    · intro hnone
      rw [hnone]
      rfl

theorem DnsAnswers.valid (d : DnsAnswers) : ∀ a∈d.addresses,a.Valid := by
  have hlookup : ∀ (version : IpVersion) (l : Lookup version),∀ a∈l.addresses,a.Valid := by
    intro version l a ha
    cases l with
    | answer records =>
      obtain ⟨r,_,hr⟩ := List.mem_map.mp ha
      rw [← hr]
      exact r.isLt
    | nxdomain => cases ha
    | noAnswer => cases ha
    | transient => cases ha
    | raises => cases ha
  intro a ha
  rcases List.mem_append.mp ha with ha|ha
  · exact hlookup .v4 d.a a ha
  · exact hlookup .v6 d.aaaa a ha

/-- The addresses the VPN-routed rules for some of the domains resolve to. -/
def resolvedFor (keep : String → Bool) (queries : List Query) : List IpAddress :=
  (queries.filter fun q => q.routeType=.vpn ∧ keep q.domain).flatMap fun q => q.dns.addresses

theorem resolvedFor_valid (keep : String → Bool) (queries : List Query) :
    ∀ a∈resolvedFor keep queries,a.Valid := by
  intro a ha
  obtain ⟨q,_,ha⟩ := List.mem_flatMap.mp ha
  exact q.dns.valid a ha

theorem DnsAnswers.resolve_bare (d : DnsAnswers) :
    d.resolve none=if d.raises then none else some d.addresses := by
  simp [DnsAnswers.resolve]

/-- Without previous addresses there is nothing to fall back on. -/
theorem collectAddresses_bare {queries : List Query} {ips : List IpAddress}
    (h : collectAddresses (fun _ => none) queries=some ips) :
    ips=resolvedFor (fun _ => true) queries := by
  induction queries generalizing ips with
  | nil =>
    cases h
    rfl
  | cons q qs ih =>
    rw [collectAddresses] at h
    unfold resolvedFor at ih ⊢
    by_cases hvpn : q.routeType=.vpn
    · rw [if_pos hvpn] at h
      obtain ⟨found,hfound,h⟩ := Option.bind_eq_some_iff.mp h
      obtain ⟨rest,hrest,h⟩ := Option.bind_eq_some_iff.mp h
      cases h
      have hresolved : found=q.dns.addresses := by
        rw [DnsAnswers.resolve_bare] at hfound
        split_ifs at hfound
        exact (Option.some.inj hfound).symm
      rw [ih hrest,hresolved]
      simp [hvpn]
    · rw [if_neg hvpn] at h
      rw [ih h]
      simp [hvpn]

end VpnService.Backend
