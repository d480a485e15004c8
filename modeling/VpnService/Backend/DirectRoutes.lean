import VpnService.Backend.Outages

namespace VpnService.Backend

/-- The user has an enabled custom rule that routes the domain so. -/
def CustomRoute (db : Database) (userId : Id) (domain : String) (routeType : RouteType) : Prop :=
  ∃ x∈db.customDomains userId,x.domain=domain ∧ x.enabled=true ∧ x.routeType=routeType

/-- An enabled rule of a category that the user has enabled routes the domain through the VPN. -/
def CatalogVpn (db : Database) (userId : Id) (domain : String) : Prop :=
  ∃ r∈db.routingRules.rows,r.enabled=true ∧ r.domain=domain ∧ r.routeType=.vpn ∧
    categoryEnabled (db.categoryPreferences userId) r.categoryId=true

/-- `uq_user_custom_domain`. -/
def CustomOnce (db : Database) (userId : Id) : Prop :=
  ∀ x∈db.customDomains userId,∀ y∈db.customDomains userId,x.domain=y.domain → x=y

/-- Some lookup that is made comes to an address. -/
def Resolves (dns : Nat → DnsAnswers) (rules : List (String×RouteType)) : Prop :=
  ∃ q∈queriesOf dns rules,q.routeType=.vpn ∧ q.dns.addresses≠[]

/-- No other domain that is looked up has the address. -/
def OnlyFrom (dns : Nat → DnsAnswers) (rules : List (String×RouteType)) (domain : String)
    (a : IpAddress) : Prop :=
  ∀ q∈queriesOf dns rules,q.routeType=.vpn → q.domain≠domain → a∉q.dns.addresses

section

variable {cfg : Settings} {deviceId userId : Id} {rules : List (String×RouteType)}
  {dns : Nat → DnsAnswers} {s t : Session} {p : VpnProfile} {domain : String} {db : Database}

theorem mem_queriesOf {q : Query} (h : q∈queriesOf dns rules) : (q.domain,q.routeType)∈rules := by
  obtain ⟨r,hr,rfl⟩ := List.mem_map.mp h
  exact (List.mem_zipIdx' hr).2 ▸ List.getElem_mem _

theorem exists_query {r : String×RouteType} (h : r∈rules) :
    ∃ q∈queriesOf dns rules,q.domain=r.1 ∧ q.routeType=r.2 := by
  obtain ⟨i,hi,hget⟩ := List.mem_iff_getElem.mp h
  have hzip : (r,i)∈rules.zipIdx := by
    rw [List.mem_zipIdx_iff_getElem?,List.getElem?_eq_getElem hi,hget]
  exact ⟨_,List.mem_map_of_mem hzip,rfl,rfl⟩

/-- The rules of the user that route through the VPN. -/
theorem vpn_mem_userDomainRules : (domain,RouteType.vpn)∈userDomainRules db userId ↔
    CatalogVpn db userId domain ∨ CustomRoute db userId domain .vpn := by
  unfold userDomainRules CatalogVpn CustomRoute
  rw [List.mem_append]
  apply or_congr
  · constructor
    · intro h
      obtain ⟨r,hr,he⟩ := List.mem_map.mp h
      obtain ⟨hr,henabled⟩ := List.mem_filter.mp hr
      obtain ⟨hdomain,hroute⟩ := Prod.mk.inj he
      by_cases hcategory : categoryEnabled (db.categoryPreferences userId) r.categoryId=true
      · rw [if_pos hcategory] at hroute
        exact ⟨r,hr,henabled,hdomain,hroute,hcategory⟩
      · rw [if_neg hcategory] at hroute
        cases hroute
    · intro ⟨r,hr,henabled,hdomain,hroute,hcategory⟩
      refine List.mem_map.mpr ⟨r,List.mem_filter.mpr ⟨hr,henabled⟩,?_⟩
      rw [if_pos hcategory,hdomain,hroute]
  · constructor
    · intro h
      obtain ⟨x,hx,he⟩ := List.mem_map.mp h
      obtain ⟨hx,henabled⟩ := List.mem_filter.mp hx
      obtain ⟨hdomain,hroute⟩ := Prod.mk.inj he
      exact ⟨x,hx,hdomain,henabled,hroute⟩
    · intro ⟨x,hx,hdomain,henabled,hroute⟩
      refine List.mem_map.mpr ⟨x,List.mem_filter.mpr ⟨hx,henabled⟩,?_⟩
      rw [hdomain,hroute]

/-- A custom rule is the only one of the user for its domain. -/
theorem CustomOnce.not_vpn (h : CustomOnce db userId) (hd : CustomRoute db userId domain .direct) :
    ¬CustomRoute db userId domain .vpn := by
  intro ⟨y,hy,hydomain,_,hyroute⟩
  obtain ⟨x,hx,hxdomain,_,hxroute⟩ := hd
  rw [h x hx y hy (hxdomain.trans hydomain.symm),hyroute] at hxroute
  cases hxroute

/-- What is stored for VPN is covered as it resolves. -/
theorem SmartCall.covers_query (h : SmartCall cfg deviceId userId rules dns s p t) {q : Query}
    (hq : q∈queriesOf dns rules) (hvpn : q.routeType=.vpn) :
    ∀ a∈q.dns.addresses,Covers p.allowedIps a := by
  intro a ha
  rw [h.covers (q.dns.valid a ha)]
  exact Or.inr (mem_resolvedFor.mpr ⟨q,hq,hvpn,rfl,ha⟩)

/-- Adding a domain that is there changes its route. -/
theorem addCustomDomain_switch {text : String}
    (hc : CustomRoute s.db userId (normalizeDomain cfg text) .direct)
    (h : addCustomDomain cfg userId text .vpn s=(.ok (),t)) :
    CustomRoute t.db userId (normalizeDomain cfg text) .vpn := by
  obtain ⟨x,hx,hdomain,_⟩ := hc
  cases hfound : (s.db.customDomains userId).find? fun d => d.domain=normalizeDomain cfg text with
  | none =>
    have hno := List.find?_eq_none.mp hfound x hx
    exact absurd (decide_eq_true hdomain) hno
  | some y =>
    have hrun : addCustomDomain cfg userId text .vpn s=(.ok (),{s with db := {s.db with
        userCustomDomains := s.db.userCustomDomains.modify y.id
          (fun d => {d with routeType := .vpn,enabled := true}) fun _ => rfl}}) := by
      unfold addCustomDomain
      rw [getDb_bind_run,hfound]
      rfl
    rw [hrun] at h
    cases h
    have hy : y.domain=normalizeDomain cfg text := by simpa using List.find?_some hfound
    have hmem := List.mem_of_find?_eq_some hfound
    simp only [Database.customDomains,List.mem_filter,decide_eq_true_eq] at hmem
    refine ⟨{y with routeType := .vpn,enabled := true},?_,hy,rfl,rfl⟩
    simp only [Database.customDomains,List.mem_filter,decide_eq_true_eq]
    exact ⟨(Store.mem_modify_row _ hmem.1).mpr (Or.inl rfl),hmem.2⟩

/-- A direct choice keeps its domain from being looked up unless a category that is enabled routes
it through the VPN, and once the choice is for the VPN, what it resolves to is covered. -/
theorem direct_choice (h : SmartCall cfg deviceId userId rules dns s p t)
    (honce : CustomOnce s.db userId) (hd : CustomRoute s.db userId domain .direct) :
    (¬CatalogVpn s.db userId domain →
      (∀ q∈queriesOf dns rules,q.domain=domain → q.routeType≠.vpn) ∧
      ∀ a,a.Valid → OnlyFrom dns rules domain a → Resolves dns rules → ¬Covers p.allowedIps a) ∧
    ∀ text s₁ t₁,normalizeDomain cfg text=domain → s₁.db=s.db →
      addCustomDomain cfg userId text .vpn s₁=(.ok (),t₁) →
      ∀ deviceId₂ rules₂ dns₂ s₂ p₂ t₂,s₂.db=t₁.db →
        SmartCall cfg deviceId₂ userId rules₂ dns₂ s₂ p₂ t₂ →
        (∃ q∈queriesOf dns₂ rules₂,q.domain=domain ∧ q.routeType=.vpn) ∧
        ∀ q∈queriesOf dns₂ rules₂,q.domain=domain → q.routeType=.vpn →
          ∀ a∈q.dns.addresses,Covers p₂.allowedIps a := by
  constructor
  · intro hcatalog
    have hnever : ∀ q∈queriesOf dns rules,q.domain=domain → q.routeType≠.vpn := by
      intro q hq hdomain hvpn
      have hrule := mem_queriesOf hq
      rw [hdomain,hvpn,← h.rules,vpn_mem_userDomainRules] at hrule
      rcases hrule with hin|hin
      · exact hcatalog hin
      · exact honce.not_vpn hd hin
    refine ⟨hnever,fun a ha honly hresolves hcovers => ?_⟩
    obtain ⟨q,hq,hvpn,haddresses⟩ := hresolves
    rcases (h.covers ha).mp hcovers with hnone|hin
    · obtain ⟨b,hb⟩ := List.exists_mem_of_ne_nil _ haddresses
      have hsome : b∈resolvedFor (fun _ => true) (queriesOf dns rules) :=
        mem_resolvedFor.mpr ⟨q,hq,hvpn,rfl,hb⟩
      rw [hnone] at hsome
      cases hsome
    · obtain ⟨q,hq,hvpn,_,hin⟩ := mem_resolvedFor.mp hin
      exact honly q hq hvpn (fun hdomain => hnever q hq hdomain hvpn) hin
  · intro text s₁ t₁ htext hs₁ hadd deviceId₂ rules₂ dns₂ s₂ p₂ t₂ hs₂ hcall
    have hdirect : CustomRoute s₁.db userId (normalizeDomain cfg text) .direct := by
      rw [hs₁,htext]
      exact hd
    have hswitched := addCustomDomain_switch hdirect hadd
    rw [htext,← hs₂] at hswitched
    have hrule : (domain,RouteType.vpn)∈rules₂ := by
      rw [← hcall.rules]
      exact vpn_mem_userDomainRules.mpr (Or.inr hswitched)
    exact ⟨exists_query hrule,fun q hq _ hvpn => hcall.covers_query hq hvpn⟩

end

/-- User 1 routes a.example directly, after these calls. -/
def choosing (calls : List Call) : World :=
  (calm 3 (.routing (.setMyMode 77 .smartVpn))::calls++
    [calm 3 (.routing (.addMyDomain 77 "a.example" .direct))]).foldl (after sampleSettings) opened

/-- The domain is in a category that the user enables. -/
def enabling : List Call := [
  calm 3 (.routing (.createCategory 1 "Video" none)),
  calm 3 (.routing (.addRule 18 "a.example" .vpn true)),
  calm 3 (.routing (.setMyCategory 77 18 true))]

def choosingSession (calls : List Call) (dns : Nat → DnsAnswers) : Session :=
  ⟨choosing calls,⟨4,[],routingEngine dns,fun _ => true⟩⟩

theorem choosing_call (calls : List Call) (rules : List (String×RouteType))
    (dns : Nat → DnsAnswers)
    (hsmart : ((choosing calls).db.routingProfileOf 1).map UserRoutingProfile.mode=some .smartVpn)
    (hrules : userDomainRules (choosing calls).db 1=rules)
    (h : (regenerateProfile sampleSettings 11 1 (choosingSession calls dns)).1.toOption.isSome=
      true) :
    ∃ p t,SmartCall sampleSettings 11 1 rules dns (choosingSession calls dns) p t := by
  cases hrun : regenerateProfile sampleSettings 11 1 (choosingSession calls dns) with
  | mk answer t =>
    rw [hrun] at h
    cases answer with
    | error e => cases h
    | ok p => exact ⟨p,t,rfl,hsmart,hrules,hrun⟩

/-- Beside another domain for the VPN, which is at 1.1.1.1, the direct one is not covered at
2.2.2.2. -/
theorem direct_choice_beside : ∃ p t,SmartCall sampleSettings 11 1
    [("b.example",.vpn),("a.example",.direct)] answering
      (choosingSession [calm 3 (.routing (.addMyDomain 77 "b.example" .vpn))] answering) p t ∧
    ¬Covers p.allowedIps ⟨.v4,33686018⟩ := by
  obtain ⟨p,t,h⟩ := choosing_call [calm 3 (.routing (.addMyDomain 77 "b.example" .vpn))]
    [("b.example",.vpn),("a.example",.direct)] answering (by decide +kernel) (by decide +kernel)
    (by decide +kernel)
  have honce : CustomOnce (choosing [calm 3 (.routing (.addMyDomain 77 "b.example" .vpn))]).db 1 := by
    unfold CustomOnce
    decide +kernel
  have hd : CustomRoute (choosing [calm 3 (.routing (.addMyDomain 77 "b.example" .vpn))]).db 1
      "a.example" .direct := by
    unfold CustomRoute
    decide +kernel
  have hchoice := (direct_choice h honce hd).1 (by unfold CatalogVpn; decide +kernel)
  refine ⟨p,t,h,hchoice.2 ⟨.v4,33686018⟩ (by decide) ?_ ?_⟩
  · unfold OnlyFrom
    decide +kernel
  · unfold Resolves
    decide +kernel

/-- A category that is enabled takes the direct domain into the profile, and where nothing is
looked up at all the full tunnel does. -/
theorem direct_choice_lost :
    (∃ p t,SmartCall sampleSettings 11 1 [("a.example",.vpn),("a.example",.direct)] answering
      (choosingSession enabling answering) p t ∧
      CustomRoute (choosing enabling).db 1 "a.example" .direct ∧
      OnlyFrom answering [("a.example",.vpn),("a.example",.direct)] "a.example" ⟨.v4,16843009⟩ ∧
      Covers p.allowedIps ⟨.v4,16843009⟩) ∧
    ∃ p t,SmartCall sampleSettings 11 1 [("a.example",.direct)] answering
      (choosingSession [] answering) p t ∧
      CustomRoute (choosing []).db 1 "a.example" .direct ∧
      OnlyFrom answering [("a.example",.direct)] "a.example" ⟨.v4,16843009⟩ ∧
      Covers p.allowedIps ⟨.v4,16843009⟩ := by
  constructor
  · obtain ⟨p,t,h⟩ := choosing_call enabling [("a.example",.vpn),("a.example",.direct)] answering
      (by decide +kernel) (by decide +kernel) (by decide +kernel)
    have hd : CustomRoute (choosing enabling).db 1 "a.example" .direct := by
      unfold CustomRoute
      decide +kernel
    refine ⟨p,t,h,hd,?_,(h.covers (by decide)).mpr (by decide +kernel)⟩
    unfold OnlyFrom
    decide +kernel
  · obtain ⟨p,t,h⟩ := choosing_call [] [("a.example",.direct)] answering (by decide +kernel)
      (by decide +kernel) (by decide +kernel)
    have hd : CustomRoute (choosing []).db 1 "a.example" .direct := by
      unfold CustomRoute
      decide +kernel
    refine ⟨p,t,h,hd,?_,(h.covers (by decide)).mpr (by decide +kernel)⟩
    unfold OnlyFrom
    decide +kernel

end VpnService.Backend
