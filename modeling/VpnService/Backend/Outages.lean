import VpnService.Backend.RoutingEngine
import VpnService.Backend.ProfileRace

namespace VpnService.Backend

/-- A call of `regenerate_profile` for a user in SMART_VPN mode, whose rules are looked up with
these answers. -/
structure SmartCall (cfg : Settings) (deviceId userId : Id) (rules : List (String×RouteType))
    (dns : Nat → DnsAnswers) (s : Session) (p : VpnProfile) (t : Session) : Prop where
  engine : s.allowedIps=routingEngine dns
  smart : (s.db.routingProfileOf userId).map UserRoutingProfile.mode=some .smartVpn
  rules : userDomainRules s.db userId=rules
  run : regenerateProfile cfg deviceId userId s=(.ok p,t)

/-- All lookups of a domain that is to be routed through the VPN fail transiently. -/
def Outage (dns : Nat → DnsAnswers) (rules : List (String×RouteType)) (domain : String) : Prop :=
  ∀ q∈queriesOf dns rules,q.routeType=.vpn → q.domain=domain →
    q.dns.a=.transient ∧ q.dns.aaaa=.transient

instance (dns : Nat → DnsAnswers) (rules : List (String×RouteType)) (domain : String) :
    Decidable (Outage dns rules domain) := inferInstanceAs (Decidable (∀ q∈queriesOf dns rules,_))

/-- What a domain resolves to. -/
def domainAddresses (dns : Nat → DnsAnswers) (rules : List (String×RouteType)) (domain : String) :
    List IpAddress := resolvedFor (fun d => d=domain) (queriesOf dns rules)

/-- What the other domains resolve to. -/
def otherAddresses (dns : Nat → DnsAnswers) (rules : List (String×RouteType)) (domain : String) :
    List IpAddress := resolvedFor (fun d => d≠domain) (queriesOf dns rules)

section

variable {cfg : Settings} {deviceId userId : Id} {rules : List (String×RouteType)}
  {dns : Nat → DnsAnswers} {s t : Session} {p : VpnProfile} {domain : String}

theorem mem_resolvedFor {keep : String → Bool} {queries : List Query} {a : IpAddress} :
    a∈resolvedFor keep queries ↔
      ∃ q∈queries,q.routeType=.vpn ∧ keep q.domain=true ∧ a∈q.dns.addresses := by
  unfold resolvedFor
  rw [List.mem_flatMap]
  constructor
  · intro ⟨q,hq,ha⟩
    obtain ⟨hq,hkeep⟩ := List.mem_filter.mp hq
    have hkeep : q.routeType=.vpn ∧ keep q.domain=true := by simpa using hkeep
    exact ⟨q,hq,hkeep.1,hkeep.2,ha⟩
  · intro ⟨q,hq,hvpn,hkeep,ha⟩
    exact ⟨q,List.mem_filter.mpr ⟨hq,by simpa using ⟨hvpn,hkeep⟩⟩,ha⟩

theorem mem_all (domain : String) {a : IpAddress} :
    a∈resolvedFor (fun _ => true) (queriesOf dns rules) ↔
      a∈domainAddresses dns rules domain ∨ a∈otherAddresses dns rules domain := by
  unfold domainAddresses otherAddresses
  rw [mem_resolvedFor,mem_resolvedFor,mem_resolvedFor]
  constructor
  · intro ⟨q,hq,hvpn,_,ha⟩
    by_cases hd : q.domain=domain
    · exact Or.inl ⟨q,hq,hvpn,decide_eq_true hd,ha⟩
    · exact Or.inr ⟨q,hq,hvpn,decide_eq_true hd,ha⟩
  · intro h
    rcases h with ⟨q,hq,hvpn,_,ha⟩|⟨q,hq,hvpn,_,ha⟩
    · exact ⟨q,hq,hvpn,rfl,ha⟩
    · exact ⟨q,hq,hvpn,rfl,ha⟩

theorem Outage.none (h : Outage dns rules domain) : domainAddresses dns rules domain=[] := by
  apply List.eq_nil_iff_forall_not_mem.mpr
  intro a ha
  obtain ⟨q,hq,hvpn,hd,ha⟩ := mem_resolvedFor.mp ha
  obtain ⟨hfour,hsix⟩ := h q hq hvpn (of_decide_eq_true hd)
  unfold DnsAnswers.addresses at ha
  rw [hfour,hsix] at ha
  cases ha

/-- The profile of a call has what the engine has built, or the full tunnel. -/
theorem SmartCall.allowed (h : SmartCall cfg deviceId userId rules dns s p t) :
    ∃ cidrs,routingEngine dns rules=some cidrs ∧
      p.allowedIps=if cidrs=[] then fullVpnAllowedIps else cidrs := by
  obtain ⟨profile,hprofile,hmode⟩ := Option.map_eq_some_iff.mp h.smart
  have hfirst : getOrCreateUserProfile userId s=(.ok profile,s) := by
    unfold getOrCreateUserProfile
    rw [getDb_bind_run,hprofile]
    rfl
  obtain ⟨found,u,v,_,_,hu,hv,_⟩ := regenerateProfile_ok h.run
  rw [hfirst] at hu
  cases hu
  rw [hmode] at hv
  obtain ⟨db,w,hw,hv⟩ := Eff.bind_ok.mp hv
  cases hw
  obtain ⟨answer,w,hw,hv⟩ := Eff.bind_ok.mp hv
  cases hw
  have hanswer : s.allowedIps (userDomainRules s.db userId)=routingEngine dns rules := by
    rw [h.engine,h.rules]
  have hv : ((Eff.orRaise (internalError "Exception")
      (s.allowedIps (userDomainRules s.db userId)) >>= fun allowed =>
        pure (if allowed=[] then fullVpnAllowedIps else allowed)) : Req (List String)) s=
      (.ok p.allowedIps,v) := hv
  rw [hanswer] at hv
  cases hcidrs : routingEngine dns rules with
  | none =>
    rw [hcidrs] at hv
    cases hv
  | some cidrs =>
    rw [hcidrs] at hv
    obtain ⟨hallowed,_⟩ := Prod.mk.inj hv
    exact ⟨cidrs,rfl,(Except.ok.inj hallowed).symm⟩

theorem full_covers {a : IpAddress} (ha : a.Valid) : Covers fullVpnAllowedIps a := by
  obtain ⟨version,value⟩ := a
  have hpos : 0<2^version.bits := Nat.two_pow_pos _
  have hall : (⟨version,0,0⟩ : IpNetwork).contains ⟨version,value⟩ := by
    refine ⟨rfl,Nat.zero_le _,?_⟩
    rw [Nat.zero_add,Nat.sub_zero]
    exact ha
  cases version with
  | v4 => exact ⟨⟨.v4,0,0⟩,hpos,by decide +kernel,hall⟩
  | v6 => exact ⟨⟨.v6,0,0⟩,hpos,by decide +kernel,hall⟩

/-- What a profile covers. -/
theorem SmartCall.covers (h : SmartCall cfg deviceId userId rules dns s p t) {a : IpAddress}
    (ha : a.Valid) : Covers p.allowedIps a ↔
      resolvedFor (fun _ => true) (queriesOf dns rules)=[] ∨
        a∈resolvedFor (fun _ => true) (queriesOf dns rules) := by
  obtain ⟨cidrs,hcidrs,hallowed⟩ := h.allowed
  obtain ⟨ips,hips,_⟩ := Option.map_eq_some_iff.mp hcidrs
  have hbare := collectAddresses_bare hips
  have hvalid : ∀ b∈ips,b.Valid := by
    rw [hbare]
    exact resolvedFor_valid _ _
  obtain ⟨hcovers,hempty⟩ := built_covers hips hvalid hcidrs
  rw [hallowed,← hbare]
  by_cases hnone : cidrs=[]
  · rw [if_pos hnone]
    exact iff_of_true (full_covers ha) (Or.inl (hempty.mp hnone))
  · rw [if_neg hnone,hcovers]
    exact (or_iff_right fun h => hnone (hempty.mpr h)).symm

/-- A domain that cannot be looked up stays covered just when nothing at all resolves, and the full
tunnel takes over, or others resolve to its addresses. -/
theorem outage_covered_iff {dns₁ dns₂ : Nat → DnsAnswers} {s₁ t₁ s₂ t₂ : Session}
    {p₁ p₂ : VpnProfile} (h₁ : SmartCall cfg deviceId userId rules dns₁ s₁ p₁ t₁)
    (h₂ : SmartCall cfg deviceId userId rules dns₂ s₂ p₂ t₂) (hout : Outage dns₂ rules domain) :
    (∀ a∈domainAddresses dns₁ rules domain,Covers p₁.allowedIps a ∧ Covers p₂.allowedIps a) ↔
      otherAddresses dns₂ rules domain=[] ∨
        ∀ a∈domainAddresses dns₁ rules domain,a∈otherAddresses dns₂ rules domain := by
  have hothers : ∀ a,a∈resolvedFor (fun _ => true) (queriesOf dns₂ rules) ↔
      a∈otherAddresses dns₂ rules domain := by
    intro a
    rw [mem_all domain,hout.none]
    simp
  have hempty : resolvedFor (fun _ => true) (queriesOf dns₂ rules)=[] ↔
      otherAddresses dns₂ rules domain=[] := by
    simp only [List.eq_nil_iff_forall_not_mem,hothers]
  have hfirst : ∀ a∈domainAddresses dns₁ rules domain,Covers p₁.allowedIps a := by
    intro a ha
    rw [h₁.covers (resolvedFor_valid _ _ a ha)]
    exact Or.inr ((mem_all domain).mpr (Or.inl ha))
  have hsecond : ∀ a∈domainAddresses dns₁ rules domain,Covers p₂.allowedIps a ↔
      otherAddresses dns₂ rules domain=[] ∨ a∈otherAddresses dns₂ rules domain := by
    intro a ha
    rw [h₂.covers (resolvedFor_valid _ _ a ha),hempty,hothers]
  constructor
  · intro hall
    by_cases hnone : otherAddresses dns₂ rules domain=[]
    · exact Or.inl hnone
    · right
      intro a ha
      exact ((hsecond a ha).mp (hall a ha).2).resolve_left hnone
  · intro hcase a ha
    refine ⟨hfirst a ha,(hsecond a ha).mpr ?_⟩
    rcases hcase with hnone|hall
    · exact Or.inl hnone
    · exact Or.inr (hall a ha)

end

/-- The opened world after its user has chosen SMART_VPN and added two domains. -/
def smart : World :=
  {opened with
    serial := 20
    db.userRoutingProfiles := opened.db.userRoutingProfiles.mapRows
      (fun p => {p with mode := .smartVpn}) fun _ => rfl
    db.userCustomDomains := (opened.db.userCustomDomains.insert
      ⟨18,1,"a.example",.vpn,true,3⟩).insert ⟨19,1,"b.example",.vpn,true,3⟩}

def sampleRules : List (String×RouteType) := [("a.example",.vpn),("b.example",.vpn)]

/-- The first domain is at 1.1.1.1, the second at 2.2.2.2. -/
def answering : Nat → DnsAnswers
  | 0 => ⟨.answer [⟨16843009,by decide⟩],.noAnswer⟩
  | _ => ⟨.answer [⟨33686018,by decide⟩],.noAnswer⟩

/-- The first domain cannot be looked up. -/
def failing : Nat → DnsAnswers
  | 0 => ⟨.transient,.transient⟩
  | n+1 => answering (n+1)

def smartSession (dns : Nat → DnsAnswers) : Session := ⟨smart,⟨4,[],routingEngine dns,fun _ => true⟩⟩

theorem smart_call (dns : Nat → DnsAnswers)
    (h : (regenerateProfile sampleSettings 11 1 (smartSession dns)).1.toOption.isSome=true) :
    ∃ p t,SmartCall sampleSettings 11 1 sampleRules dns (smartSession dns) p t := by
  have hsmart : (smart.db.routingProfileOf 1).map UserRoutingProfile.mode=some .smartVpn := by
    decide +kernel
  have hrules : userDomainRules smart.db 1=sampleRules := by decide +kernel
  cases hrun : regenerateProfile sampleSettings 11 1 (smartSession dns) with
  | mk answer t =>
    rw [hrun] at h
    cases answer with
    | error e => cases h
    | ok p => exact ⟨p,t,rfl,hsmart,hrules,hrun⟩

/-- Both domains answer in the first call, the first one fails in the second. -/
theorem outage_covered_iff_smart : ∃ p₁ t₁ p₂ t₂,
    SmartCall sampleSettings 11 1 sampleRules answering (smartSession answering) p₁ t₁ ∧
    SmartCall sampleSettings 11 1 sampleRules failing (smartSession failing) p₂ t₂ ∧
    ((∀ a∈domainAddresses answering sampleRules "a.example",
        Covers p₁.allowedIps a ∧ Covers p₂.allowedIps a) ↔
      otherAddresses failing sampleRules "a.example"=[] ∨
        ∀ a∈domainAddresses answering sampleRules "a.example",
          a∈otherAddresses failing sampleRules "a.example") := by
  obtain ⟨p₁,t₁,h₁⟩ := smart_call answering (by decide +kernel)
  obtain ⟨p₂,t₂,h₂⟩ := smart_call failing (by decide +kernel)
  exact ⟨p₁,t₁,p₂,t₂,h₁,h₂,outage_covered_iff h₁ h₂ (by decide +kernel)⟩

/-- The domain that cannot be looked up is no longer routed through the VPN. -/
theorem outage_drops : ∃ p₁ t₁ p₂ t₂,
    SmartCall sampleSettings 11 1 sampleRules answering (smartSession answering) p₁ t₁ ∧
    SmartCall sampleSettings 11 1 sampleRules failing (smartSession failing) p₂ t₂ ∧
    Outage failing sampleRules "a.example" ∧
    domainAddresses answering sampleRules "a.example"=[⟨.v4,16843009⟩] ∧
    ¬∀ a∈domainAddresses answering sampleRules "a.example",Covers p₂.allowedIps a := by
  obtain ⟨p₁,t₁,h₁⟩ := smart_call answering (by decide +kernel)
  obtain ⟨p₂,t₂,h₂⟩ := smart_call failing (by decide +kernel)
  refine ⟨p₁,t₁,p₂,t₂,h₁,h₂,by decide +kernel,by decide +kernel,fun hall => ?_⟩
  have hcovered := hall ⟨.v4,16843009⟩ (by decide +kernel)
  rw [h₂.covers (by decide +kernel)] at hcovered
  exact absurd hcovered (by decide +kernel)

end VpnService.Backend
