import VpnService.Backend.IpParsing
import VpnService.Backend.RoutingEngine

namespace VpnService.Backend

/-- A network as its constructor admits it: the host bits are zero. -/
structure IpNetwork.Canonical (n : IpNetwork) : Prop where
  prefixlen : n.prefixlen≤n.version.bits
  valid : n.address.Valid
  aligned : 2^(n.version.bits-n.prefixlen)∣n.networkAddress

/-- No address is in both. -/
def IpNetwork.Apart (m n : IpNetwork) : Prop := ∀ a,¬(m.contains a ∧ n.contains a)

/-- One network has the addresses of both, and no others. -/
def IpNetwork.Mergeable (m n : IpNetwork) : Prop :=
  ∃ k : IpNetwork,k.Canonical ∧ ∀ a,k.contains a ↔ m.contains a ∨ n.contains a

/-- The networks share out the addresses, and no two of them could be one. -/
structure CanonicalCover (networks : List IpNetwork) (P : IpAddress → Prop) : Prop where
  canonical : ∀ n∈networks,n.Canonical
  apart : networks.Pairwise IpNetwork.Apart
  covers : ∀ a,(∃ n∈networks,n.contains a) ↔ P a
  unmergeable : networks.Pairwise fun m n => ¬m.Mergeable n

/-- The texts, in order, of networks that share out the addresses. -/
structure ExactCidrs (cidrs : List String) (P : IpAddress → Prop) : Prop where
  sorted : cidrs.Pairwise (· ≤ ·)
  networks : ∃ networks,cidrs=networks.map IpNetwork.text ∧ CanonicalCover networks P

/-- A rule, and the texts its domain's resolver answers with when the loop reaches it. -/
structure AnsweredRule where
  domain : String
  routeType : RouteType
  answer : List String

/-- The addresses of the loop's `networks`; what is no address is left out. -/
def collectedAddresses : List AnsweredRule → List IpAddress
  | [] => []
  | r::rs =>
    if r.routeType=.vpn then r.answer.filterMap ipAddress++collectedAddresses rs
    else collectedAddresses rs

/-- What `build_allowed_ips` returns for the addresses it has collected. -/
def aggregated (ips : List IpAddress) : List String :=
  ((collapsedNetworks ips).map IpNetwork.text).insertionSort (· ≤ ·)

/-- `RoutingEngine.build_allowed_ips` of rules with the resolver's answers. -/
def answeredAllowedIps (rules : List AnsweredRule) : List String :=
  aggregated (collectedAddresses rules)

/-- The address is one of the answers for the VPN-routed domains. -/
def Answered (rules : List AnsweredRule) (a : IpAddress) : Prop :=
  ∃ r∈rules,r.routeType=.vpn ∧ ∃ text∈r.answer,ipAddress text=some a

/-- The other rules are these in any order and number, with answers in any order and number. -/
def Rearranged (rules others : List AnsweredRule) : Prop :=
  ∀ domain route text,
    (∃ r∈rules,r.domain=domain ∧ r.routeType=route ∧ text∈r.answer) ↔
      ∃ r∈others,r.domain=domain ∧ r.routeType=route ∧ text∈r.answer

theorem le_rightZeros {bits n c : Nat} (h : 2^c∣n) (hc : c≤bits) : c≤rightZeros bits n := by
  induction bits generalizing n c with
  | zero => exact hc.trans (Nat.zero_le _)
  | succ bits ih =>
    cases c with
    | zero => exact Nat.zero_le _
    | succ c =>
      have heven : n%2=0 :=
        Nat.mod_eq_zero_of_dvd (Nat.dvd_trans (Nat.dvd_mul_left 2 (2^c)) h)
      have hhalf : 2^c∣n/2 := by
        rw [Nat.pow_succ] at h
        exact Nat.dvd_div_of_mul_dvd (Nat.mul_comm _ _ ▸ h)
      rw [rightZeros,if_pos heven]
      exact Nat.succ_le_succ (ih hhalf (by omega))

/-- Each network of a range is the largest that starts where it does and ends with the range. -/
theorem summarize_greedy {version : IpVersion} {rounds first last : Nat} {n : IpNetwork}
    (hn : n∈summarizeAddressRange version rounds first last) :
    n.version=version ∧ first≤n.networkAddress ∧ n.networkAddress≤last ∧
      ∃ nbits,nbits=min (rightZeros version.bits n.networkAddress)
        (Nat.log2 (last-n.networkAddress+1)) ∧ n.prefixlen=version.bits-nbits := by
  induction rounds generalizing first with
  | zero => cases hn
  | succ rounds ih =>
    rw [summarizeAddressRange] at hn
    by_cases h : first≤last
    · rw [if_pos h] at hn
      rcases List.mem_cons.mp hn with hn|hn
      · rw [hn]
        exact ⟨rfl,le_rfl,h,_,rfl,rfl⟩
      · obtain ⟨hversion,hfirst,hrest⟩ := ih hn
        exact ⟨hversion,(Nat.le_add_right _ _).trans hfirst,hrest⟩
    · rw [if_neg h] at hn
      cases hn

/-- The first network ends before the second begins. -/
def IpNetwork.Before (m n : IpNetwork) : Prop :=
  m.networkAddress+2^(m.version.bits-m.prefixlen)≤n.networkAddress

theorem summarize_ordered (version : IpVersion) (rounds first last : Nat) :
    (summarizeAddressRange version rounds first last).Pairwise IpNetwork.Before := by
  induction rounds generalizing first with
  | zero => exact List.Pairwise.nil
  | succ rounds ih =>
    rw [summarizeAddressRange]
    by_cases h : first≤last
    · obtain ⟨_,_,hle⟩ := nbits_spec version h rfl
      rw [if_pos h]
      refine List.Pairwise.cons (fun n hn => ?_) (ih _)
      have hfirst := (summarize_greedy hn).2.1
      unfold IpNetwork.Before
      dsimp only
      rw [Nat.sub_sub_self hle]
      exact hfirst
    · rw [if_neg h]
      exact List.Pairwise.nil

theorem addressRanges_bounds {first last : Nat} {xs : List Nat} (h : first≤last)
    (hsorted : (last::xs).Pairwise (· < ·)) :
    ∀ r∈addressRanges first last xs,first≤r.1 ∧ last≤r.2 := by
  induction xs generalizing first last with
  | nil => simp [addressRanges]
  | cons x xs ih =>
    obtain ⟨hless,hrest⟩ := List.pairwise_cons.mp hsorted
    have hx : last<x := hless x List.mem_cons_self
    intro r hr
    rw [addressRanges] at hr
    by_cases hnext : x=last+1
    · rw [if_pos hnext] at hr
      have hr := ih (h.trans hx.le) hrest r hr
      exact ⟨hr.1,hx.le.trans hr.2⟩
    · rw [if_neg hnext] at hr
      rcases List.mem_cons.mp hr with hr|hr
      · rw [hr]
        exact ⟨le_rfl,le_rfl⟩
      · have hr := ih le_rfl hrest r hr
        exact ⟨by omega,by omega⟩

theorem addressRanges_apart {first last : Nat} {xs : List Nat} (h : first≤last)
    (hsorted : (last::xs).Pairwise (· < ·)) :
    (addressRanges first last xs).Pairwise fun r s => r.2<s.1 := by
  induction xs generalizing first last with
  | nil => simp [addressRanges]
  | cons x xs ih =>
    obtain ⟨hless,hrest⟩ := List.pairwise_cons.mp hsorted
    have hx : last<x := hless x List.mem_cons_self
    rw [addressRanges]
    by_cases hnext : x=last+1
    · rw [if_pos hnext]
      exact ih (h.trans hx.le) hrest
    · rw [if_neg hnext]
      refine List.Pairwise.cons (fun r hr => ?_) (ih le_rfl hrest)
      exact hx.trans_le (addressRanges_bounds le_rfl hrest r hr).1

/-- What follows a range is none of the addresses. -/
theorem addressRanges_closed {first last : Nat} {xs : List Nat} (h : first≤last)
    (hsorted : (last::xs).Pairwise (· < ·)) :
    ∀ r∈addressRanges first last xs,r.2+1∉last::xs := by
  induction xs generalizing first last with
  | nil => simp [addressRanges]
  | cons x xs ih =>
    obtain ⟨hless,hrest⟩ := List.pairwise_cons.mp hsorted
    have hx : last<x := hless x List.mem_cons_self
    have hlater : ∀ first' r,first'≤x → r∈addressRanges first' x xs → r.2+1∉last::x::xs := by
      intro first' r hle hr hmem
      have hbound := (addressRanges_bounds hle hrest r hr).2
      rcases List.mem_cons.mp hmem with he|hmem
      · omega
      · exact ih hle hrest r hr hmem
    intro r hr
    rw [addressRanges] at hr
    by_cases hnext : x=last+1
    · rw [if_pos hnext] at hr
      exact hlater first r (h.trans hx.le) hr
    · rw [if_neg hnext] at hr
      rcases List.mem_cons.mp hr with hr|hr
      · rw [hr]
        intro hmem
        have hafter : ∀ y∈xs,x<y := (List.pairwise_cons.mp hrest).1
        simp only [List.mem_cons] at hmem
        rcases hmem with he|he|hmem
        · omega
        · exact hnext he.symm
        · have hy := hafter _ hmem
          omega
      · exact hlater x r le_rfl hr

/-- The addresses `collapse_addresses` goes through, once each and in order. -/
theorem sorted_hosts (hosts : List Nat) :
    (hosts.dedup.insertionSort (· ≤ ·)).Pairwise (· < ·) ∧
      ∀ v,v∈hosts.dedup.insertionSort (· ≤ ·) ↔ v∈hosts := by
  constructor
  · have hle := List.pairwise_insertionSort (· ≤ ·) hosts.dedup
    have hnd : (hosts.dedup.insertionSort (· ≤ ·)).Nodup :=
      (List.perm_insertionSort (· ≤ ·) hosts.dedup).nodup_iff.mpr hosts.nodup_dedup
    exact (hle.and hnd).imp fun h => lt_of_le_of_ne h.1 h.2
  · intro v
    rw [List.mem_insertionSort,List.mem_dedup]

/-- Each network was made of a range that no address of the hosts follows. -/
theorem mem_collapse {version : IpVersion} {hosts : List Nat} {n : IpNetwork}
    (h : n∈collapseAddresses version hosts) : ∃ first last,last+1∉hosts ∧
      n∈summarizeAddressRange version (last-first+1) first last := by
  obtain ⟨hsorted,hmem⟩ := sorted_hosts hosts
  unfold collapseAddresses at h
  cases hlist : hosts.dedup.insertionSort (· ≤ ·) with
  | nil =>
    rw [hlist] at h
    cases h
  | cons x xs =>
    rw [hlist] at h hsorted hmem
    obtain ⟨r,hr,hn⟩ := List.mem_flatMap.mp h
    have hclosed := addressRanges_closed le_rfl hsorted r hr
    rw [hmem] at hclosed
    exact ⟨r.1,r.2,hclosed,hn⟩

theorem collapse_ordered (version : IpVersion) (hosts : List Nat) :
    (collapseAddresses version hosts).Pairwise IpNetwork.Before := by
  obtain ⟨hsorted,_⟩ := sorted_hosts hosts
  unfold collapseAddresses
  cases hlist : hosts.dedup.insertionSort (· ≤ ·) with
  | nil => exact List.Pairwise.nil
  | cons x xs =>
    rw [hlist] at hsorted
    refine List.pairwise_flatMap.mpr ⟨fun r _ => summarize_ordered _ _ _ _,?_⟩
    refine (addressRanges_apart le_rfl hsorted).imp_of_mem fun {r s} hr hs hrs m hm n hn => ?_
    have hrange := addressRanges_ordered le_rfl r hr
    have hlast : m.networkAddress+2^(m.version.bits-m.prefixlen)≤r.2+1 := by
      obtain ⟨hversion,hlow,hhigh,nbits,hnbits,hlen⟩ := summarize_greedy hm
      obtain ⟨_,hwithin,hle⟩ := nbits_spec version hhigh hnbits
      rw [hversion,hlen,Nat.sub_sub_self hle]
      exact hwithin
    have hfirst := (summarize_greedy hn).2.1
    unfold IpNetwork.Before
    omega

/-- Nothing larger that starts where one of the networks does is made of the hosts. -/
theorem collapse_maximal {version : IpVersion} {hosts : List Nat} {n k : IpNetwork}
    (hn : n∈collapseAddresses version hosts) (hk : k.Canonical) (hversion : k.version=version)
    (haddress : k.networkAddress=n.networkAddress)
    (hhosts : ∀ a,k.contains a → a.value∈hosts) :
    k.version.bits-k.prefixlen≤n.version.bits-n.prefixlen := by
  obtain ⟨first,last,hlast,hn⟩ := mem_collapse hn
  obtain ⟨hnversion,_,hle,nbits,hnbits,hlen⟩ := summarize_greedy hn
  obtain ⟨_,_,hbits⟩ := nbits_spec version hle hnbits
  have haligned := hk.aligned
  have hzeros : k.version.bits-k.prefixlen≤rightZeros version.bits n.networkAddress := by
    rw [← haddress]
    apply le_rightZeros haligned
    rw [hversion]
    exact Nat.sub_le _ _
  have hcount : 2^(k.version.bits-k.prefixlen)≤last-n.networkAddress+1 := by
    by_contra hmore
    exact hlast (hhosts ⟨k.version,last+1⟩ ⟨rfl,by dsimp only; omega,by dsimp only; omega⟩)
  have hlog : k.version.bits-k.prefixlen≤Nat.log2 (last-n.networkAddress+1) :=
    (Nat.le_log2 (Nat.succ_ne_zero _)).mpr hcount
  rw [hnversion,hlen,Nat.sub_sub_self hbits,hnbits]
  exact le_min hzeros hlog

/-- What two networks make together starts with the first and is larger. -/
theorem IpNetwork.Before.merged {m n k : IpNetwork} (h : m.Before n)
    (hk : ∀ a,k.contains a ↔ m.contains a ∨ n.contains a) :
    k.version=m.version ∧ k.networkAddress=m.networkAddress ∧
      m.version.bits-m.prefixlen<k.version.bits-k.prefixlen := by
  have hm : k.contains m.address := (hk _).mpr (Or.inl (contains_address m))
  have hn : k.contains n.address := (hk _).mpr (Or.inr (contains_address n))
  obtain ⟨hversion,hmlow,_⟩ := hm
  obtain ⟨_,_,hnhigh⟩ := hn
  have hmlow : k.networkAddress≤ m.networkAddress := hmlow
  have hnhigh : n.networkAddress<k.networkAddress+2^(k.version.bits-k.prefixlen) := hnhigh
  have hpos : 0<2^(m.version.bits-m.prefixlen) := Nat.two_pow_pos _
  have hstart : m.networkAddress≤k.networkAddress := by
    unfold IpNetwork.Before at h
    rcases (hk k.address).mp (contains_address k) with hin|hin
    · exact hin.2.1
    · have hin : n.networkAddress≤k.networkAddress := hin.2.1
      omega
  refine ⟨hversion,by omega,?_⟩
  unfold IpNetwork.Before at h
  exact (Nat.pow_lt_pow_iff_right (by decide)).mp
    (show 2^(m.version.bits-m.prefixlen)<2^(k.version.bits-k.prefixlen) by omega)

/-- What is collapsed is a canonical cover of the hosts. -/
theorem collapse_cover {version : IpVersion} {hosts : List Nat}
    (h : ∀ v∈hosts,v<2^version.bits) : CanonicalCover (collapseAddresses version hosts)
      (fun a => a.version=version ∧ a.value∈hosts) := by
  have hcovers := collapse_contains version hosts
  have hversion : ∀ n∈collapseAddresses version hosts,n.version=version := by
    intro n hn
    obtain ⟨_,_,_,hn⟩ := mem_collapse hn
    exact (summarize_greedy hn).1
  refine ⟨fun n hn => ?_,?_,hcovers,?_⟩
  · have haddress := (hcovers n.address).mp ⟨n,hn,contains_address n⟩
    obtain ⟨first,last,_,hsummary⟩ := mem_collapse hn
    obtain ⟨hv,_,_,nbits,_,hlen⟩ := summarize_greedy hsummary
    have haligned := summarize_aligned hsummary
    refine ⟨?_,?_,?_⟩
    · rw [hlen,hv]
      exact Nat.sub_le _ _
    · have hlt := h _ haddress.2
      rw [← hv] at hlt
      exact hlt
    · rw [hv]
      exact haligned
  · refine (collapse_ordered version hosts).imp fun {m n} hbefore a ha => ?_
    obtain ⟨⟨_,_,hhigh⟩,⟨_,hlow,_⟩⟩ := ha
    unfold IpNetwork.Before at hbefore
    omega
  · refine (collapse_ordered version hosts).imp_of_mem fun {m n} hm hn hbefore hmerge => ?_
    obtain ⟨k,hk,hunion⟩ := hmerge
    obtain ⟨hkversion,hkaddress,hlarger⟩ := hbefore.merged hunion
    have hhosts : ∀ a,k.contains a → a.value∈hosts := by
      intro a ha
      rcases (hunion a).mp ha with hin|hin
      · exact ((hcovers a).mp ⟨m,hm,hin⟩).2
      · exact ((hcovers a).mp ⟨n,hn,hin⟩).2
    have hle := collapse_maximal hm hk (hkversion.trans (hversion m hm)) hkaddress hhosts
    omega

/-- The networks of both families. -/
theorem collapsed_cover {ips : List IpAddress} (h : ∀ a∈ips,a.Valid) :
    CanonicalCover (collapsedNetworks ips) (fun a => a∈ips) := by
  have hvalues : ∀ version,∀ v∈(ips.filter fun a => a.version=version).map IpAddress.value,
      v<2^version.bits := by
    intro version v hv
    obtain ⟨a,ha,hvalue⟩ := List.mem_map.mp hv
    obtain ⟨hin,hversion⟩ := List.mem_filter.mp ha
    have hversion : a.version=version := by simpa using hversion
    have hvalid := h a hin
    rw [← hvalue,← hversion]
    exact hvalid
  have hfour := collapse_cover (hvalues .v4)
  have hsix := collapse_cover (hvalues .v6)
  have hversions : ∀ m∈collapseAddresses .v4 ((ips.filter fun a => a.version=.v4).map
      IpAddress.value),∀ n∈collapseAddresses .v6 ((ips.filter fun a => a.version=.v6).map
      IpAddress.value),m.version≠n.version := by
    intro m hm n hn hsame
    have hmv : m.version=.v4 := ((hfour.covers m.address).mp ⟨m,hm,contains_address m⟩).1
    have hnv : n.version=.v6 := ((hsix.covers n.address).mp ⟨n,hn,contains_address n⟩).1
    rw [hmv,hnv] at hsame
    cases hsame
  refine ⟨fun n hn => ?_,?_,collapsed_contains ips,?_⟩
  · rcases List.mem_append.mp hn with hn|hn
    · exact hfour.canonical n hn
    · exact hsix.canonical n hn
  · refine List.pairwise_append.mpr ⟨hfour.apart,hsix.apart,fun m hm n hn a ha => ?_⟩
    exact hversions m hm n hn (ha.1.1.trans ha.2.1.symm)
  · refine List.pairwise_append.mpr ⟨hfour.unmergeable,hsix.unmergeable,fun m hm n hn => ?_⟩
    intro ⟨k,_,hk⟩
    have hkm := ((hk m.address).mpr (Or.inl (contains_address m))).1
    have hkn := ((hk n.address).mpr (Or.inr (contains_address n))).1
    exact hversions m hm n hn (hkm.symm.trans hkn)

/-- Any order of the networks covers as well. -/
theorem CanonicalCover.perm {networks others : List IpNetwork} {P : IpAddress → Prop}
    (h : CanonicalCover networks P) (hperm : networks.Perm others) : CanonicalCover others P where
  canonical n hn := h.canonical n (hperm.mem_iff.mpr hn)
  apart := (hperm.pairwise_iff fun hmn a ha => hmn a ha.symm).mp h.apart
  covers a := by
    rw [← h.covers a]
    exact exists_congr fun n => and_congr_left fun _ => hperm.mem_iff.symm
  unmergeable := by
    refine (hperm.pairwise_iff fun {m n} hmn hmerge => ?_).mp h.unmergeable
    obtain ⟨k,hk,hunion⟩ := hmerge
    exact hmn ⟨k,hk,fun a => (hunion a).trans or_comm⟩

/-- The texts are the sorted ones of a canonical cover. -/
theorem aggregated_exact {ips : List IpAddress} (h : ∀ a∈ips,a.Valid) :
    ExactCidrs (aggregated ips) (fun a => a∈ips) := by
  constructor
  · exact List.pairwise_insertionSort _ _
  · let byText := (collapsedNetworks ips).insertionSort fun m n => m.text≤n.text
    have hsorted : byText.map IpNetwork.text=aggregated ips :=
      List.map_insertionSort _ _ _ _ fun _ _ _ _ => Iff.rfl
    have hperm : (collapsedNetworks ips).Perm byText := (List.perm_insertionSort _ _).symm
    exact ⟨byText,hsorted.symm,(collapsed_cover h).perm hperm⟩

theorem collapseAddresses_congr {version : IpVersion} {xs ys : List Nat}
    (h : ∀ v,v∈xs ↔ v∈ys) : collapseAddresses version xs=collapseAddresses version ys := by
  obtain ⟨hxs,hmemxs⟩ := sorted_hosts xs
  obtain ⟨hys,hmemys⟩ := sorted_hosts ys
  have hperm : (xs.dedup.insertionSort (· ≤ ·)).Perm (ys.dedup.insertionSort (· ≤ ·)) := by
    rw [List.perm_ext_iff_of_nodup (hxs.imp ne_of_lt) (hys.imp ne_of_lt)]
    intro v
    rw [hmemxs,hmemys,h]
  have hsame : xs.dedup.insertionSort (· ≤ ·)=ys.dedup.insertionSort (· ≤ ·) :=
    hperm.eq_of_pairwise (fun _ _ _ _ hle hge => absurd hge (lt_asymm hle)) hxs hys
  unfold collapseAddresses
  rw [hsame]

/-- Only which addresses were collected matters. -/
theorem aggregated_congr {ips others : List IpAddress} (h : ∀ a,a∈ips ↔ a∈others) :
    aggregated ips=aggregated others := by
  have hvalues : ∀ version v,v∈(ips.filter fun a => a.version=version).map IpAddress.value ↔
      v∈(others.filter fun a => a.version=version).map IpAddress.value := by
    intro version v
    simp only [List.mem_map,List.mem_filter,h]
  unfold aggregated collapsedNetworks
  dsimp only
  rw [collapseAddresses_congr (hvalues .v4),collapseAddresses_congr (hvalues .v6)]

theorem mem_collectedAddresses {rules : List AnsweredRule} (a : IpAddress) :
    a∈collectedAddresses rules ↔ Answered rules a := by
  unfold Answered
  induction rules with
  | nil => simp [collectedAddresses]
  | cons r rs ih =>
    rw [collectedAddresses,List.exists_mem_cons_iff]
    by_cases hvpn : r.routeType=.vpn
    · rw [if_pos hvpn,List.mem_append,ih,List.mem_filterMap]
      simp only [hvpn,true_and]
    · rw [if_neg hvpn,ih]
      simp only [hvpn,false_and,false_or]

theorem Rearranged.answered {rules others : List AnsweredRule} (h : Rearranged rules others)
    (a : IpAddress) : Answered rules a ↔ Answered others a := by
  have himp : ∀ xs ys : List AnsweredRule,
      (∀ domain route text,(∃ r∈xs,r.domain=domain ∧ r.routeType=route ∧ text∈r.answer) →
        ∃ r∈ys,r.domain=domain ∧ r.routeType=route ∧ text∈r.answer) →
      Answered xs a → Answered ys a := by
    intro xs ys hsub ⟨r,hr,hvpn,text,htext,ha⟩
    obtain ⟨r',hr',_,hroute,htext⟩ := hsub r.domain r.routeType text ⟨r,hr,rfl,rfl,htext⟩
    exact ⟨r',hr',hroute.trans hvpn,text,htext,ha⟩
  exact ⟨himp rules others fun d p x => (h d p x).mp,himp others rules fun d p x => (h d p x).mpr⟩

/-- The engine's texts are of a canonical cover of exactly the addresses that the VPN-routed
domains were answered with, however the rules and the answers are arranged. -/
theorem answeredAllowedIps_exact (rules : List AnsweredRule) :
    ExactCidrs (answeredAllowedIps rules) (Answered rules) ∧
      ∀ others,Rearranged rules others → answeredAllowedIps others=answeredAllowedIps rules := by
  have hvalid : ∀ a∈collectedAddresses rules,a.Valid := by
    intro a ha
    obtain ⟨_,_,_,_,_,hparse⟩ := (mem_collectedAddresses a).mp ha
    exact ipAddress_valid hparse
  have hanswered : Answered rules=fun a => a∈collectedAddresses rules :=
    funext fun a => propext (mem_collectedAddresses a).symm
  constructor
  · rw [hanswered]
    exact aggregated_exact hvalid
  · intro others h
    apply aggregated_congr
    intro a
    rw [mem_collectedAddresses,mem_collectedAddresses]
    exact (h.answered a).symm

/-- Two VPN-routed domains that share a block, a direct one and a text that is no address. -/
def answeredSample : List AnsweredRule := [
  ⟨"a.example",.vpn,["10.0.0.1","fe80::1%eth0","none"]⟩,
  ⟨"b.example",.direct,["10.0.0.2"]⟩,
  ⟨"c.example",.vpn,["10.0.0.0","10.0.0.1"]⟩]

theorem answeredAllowedIps_exact_reversed :
    ExactCidrs (answeredAllowedIps answeredSample) (Answered answeredSample) ∧
      answeredAllowedIps answeredSample.reverse=answeredAllowedIps answeredSample := by
  have hexact := answeredAllowedIps_exact answeredSample
  refine ⟨hexact.1,hexact.2 _ fun d p x => ?_⟩
  simp only [List.mem_reverse]

/-- The engine over typed records is this one over what their texts read as. -/
theorem buildAllowedIps_answered {previous : String → Option (List IpAddress)}
    {queries : List Query} {rules : List AnsweredRule} {ips : List IpAddress}
    (h : collectAddresses previous queries=some ips)
    (hanswers : ∀ a,a∈ips ↔ Answered rules a) :
    buildAllowedIps previous queries=some (answeredAllowedIps rules) := by
  have hsame : aggregated ips=answeredAllowedIps rules := by
    apply aggregated_congr
    intro a
    rw [hanswers,mem_collectedAddresses]
  unfold buildAllowedIps
  rw [h,Option.map_some]
  exact congrArg some hsame

end VpnService.Backend
