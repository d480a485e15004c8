import VpnService.Backend.Outages
import VpnService.Backend.Errors

namespace VpnService.Backend

/-- The resolver's side: which names its library converts, and what the lookups of a converted
name come to when the loop reaches it, which raise nothing that `resolve` does not catch. -/
structure NameService where
  converts : String → Bool
  lookups : Nat → DnsAnswers
  caught : ∀ i,(lookups i).raises=false

namespace NameService

variable (names : NameService)

/-- The rules with what their lookups come to; a name that cannot be converted raises. -/
def queries (rules : List (String×RouteType)) : List Query :=
  rules.zipIdx.map fun r =>
    ⟨r.1.1,r.1.2,if names.converts r.1.1 then names.lookups r.2 else ⟨.raises,.raises⟩⟩

/-- The engine as `RoutingService` calls it. -/
def engine (rules : List (String×RouteType)) : Option (List String) :=
  buildAllowedIps (fun _ => none) (names.queries rules)

/-- What the well-formed names that are routed through the VPN resolve to. -/
def wellFormedAddresses (rules : List (String×RouteType)) : List IpAddress :=
  resolvedFor names.converts (names.queries rules)

end NameService

/-- The exception of a lookup that `resolve` does not catch. -/
def unresolved : AppError := internalError "Exception"

/-- An exception that no lookup raised. -/
def Ordinary (e : AppError) : Prop := e≠unresolved

instance (e : AppError) : Decidable (Ordinary e) := inferInstanceAs (Decidable (_≠_))

/-- No name in the database breaks a profile of the user, nor a request that needs one. -/
structure Unhindered (cfg : Settings) (names : NameService) (userId : Id) (w : World) : Prop where
  profiles : ∀ env : Env,env.allowedIps=names.engine → env.outcomes=[] → ∀ deviceId,
    ∃ p t,regenerateProfile cfg deviceId userId ⟨w,env⟩=(.ok p,t) ∧ p.allowedIps≠[] ∧
      ∀ a∈names.wellFormedAddresses (userDomainRules w.db userId),Covers p.allowedIps a
  provisioning : ∀ env : Env,env.allowedIps=names.engine → ∀ user : User,user.id=userId →
    ∀ name requested protocol,
      (provision cfg user name requested protocol ⟨w,env⟩).1≠.error unresolved
  reissuing : ∀ env : Env,env.allowedIps=names.engine → ∀ device : Device,device.userId=userId →
    (reissue cfg device ⟨w,env⟩).1≠.error unresolved

/-- Every name that is stored to be routed through the user's VPN can be converted. -/
structure NamesConvert (names : NameService) (db : Database) (userId : Id) : Prop where
  catalog : ∀ r∈db.routingRules.rows,r.enabled=true → r.routeType=.vpn →
    categoryEnabled (db.categoryPreferences userId) r.categoryId=true → names.converts r.domain=true
  custom : ∀ d∈db.customDomains userId,d.enabled=true → d.routeType=.vpn →
    names.converts d.domain=true

theorem namesConvert_iff {names : NameService} {db : Database} {userId : Id} :
    NamesConvert names db userId ↔
      ∀ r∈userDomainRules db userId,r.2=.vpn → names.converts r.1=true := by
  have hmem : ∀ r : String×RouteType,r∈userDomainRules db userId ↔
      (∃ x∈db.routingRules.rows,x.enabled=true ∧
        (x.domain,if categoryEnabled (db.categoryPreferences userId) x.categoryId then x.routeType
          else .direct)=r) ∨
      ∃ d∈db.customDomains userId,d.enabled=true ∧ (d.domain,d.routeType)=r := by
    intro r
    simp [userDomainRules,and_assoc]
  constructor
  · intro h r hr hvpn
    rcases (hmem r).mp hr with ⟨x,hx,henabled,rfl⟩|⟨d,hd,henabled,rfl⟩
    · by_cases hcategory : categoryEnabled (db.categoryPreferences userId) x.categoryId=true
      · rw [if_pos hcategory] at hvpn
        exact h.catalog x hx henabled hvpn hcategory
      · rw [if_neg hcategory] at hvpn
        cases hvpn
    · exact h.custom d hd henabled hvpn
  · intro h
    constructor
    · intro x hx henabled hvpn hcategory
      have hrule := (hmem (x.domain,x.routeType)).mpr
        (Or.inl ⟨x,hx,henabled,by rw [if_pos hcategory]⟩)
      exact h _ hrule hvpn
    · intro d hd henabled hvpn
      exact h _ ((hmem (d.domain,d.routeType)).mpr (Or.inr ⟨d,hd,henabled,rfl⟩)) hvpn

/-- Nothing is collected just when a lookup that is made raises. -/
theorem collectAddresses_none {queries : List Query} :
    collectAddresses (fun _ => none) queries=none ↔
      ∃ q∈queries,q.routeType=.vpn ∧ q.dns.raises=true := by
  induction queries with
  | nil => simp [collectAddresses]
  | cons q qs ih =>
    rw [collectAddresses,List.exists_mem_cons_iff]
    by_cases hvpn : q.routeType=.vpn
    · rw [if_pos hvpn,DnsAnswers.resolve_bare]
      cases hraises : q.dns.raises with
      | true => simp [hvpn]
      | false =>
        rw [← ih]
        cases collectAddresses (fun _ => none) qs <;> simp
    · rw [if_neg hvpn,ih]
      simp [hvpn]

namespace NameService

variable {names : NameService} {rules : List (String×RouteType)}

theorem mem_queries {q : Query} : q∈names.queries rules ↔
    ∃ r∈rules.zipIdx,q=⟨r.1.1,r.1.2,
      if names.converts r.1.1 then names.lookups r.2 else ⟨.raises,.raises⟩⟩ := by
  unfold queries
  rw [List.mem_map]
  exact exists_congr fun r => and_congr_right fun _ => eq_comm

/-- The engine raises just when it reaches a name that cannot be converted. -/
theorem engine_none :
    names.engine rules=none ↔ ∃ r∈rules,r.2=.vpn ∧ names.converts r.1=false := by
  unfold engine buildAllowedIps
  rw [Option.map_eq_none_iff,collectAddresses_none]
  constructor
  · intro ⟨q,hq,hvpn,hraises⟩
    obtain ⟨r,hr,rfl⟩ := mem_queries.mp hq
    refine ⟨r.1,(List.mem_zipIdx' hr).2 ▸ List.getElem_mem _,hvpn,?_⟩
    cases hconverts : names.converts r.1.1 with
    | false => rfl
    | true =>
      dsimp only at hraises
      rw [hconverts,if_pos rfl,names.caught] at hraises
      cases hraises
  · intro ⟨r,hr,hvpn,hconverts⟩
    obtain ⟨i,hi,hget⟩ := List.mem_iff_getElem.mp hr
    have hzip : (r,i)∈rules.zipIdx := by
      rw [List.mem_zipIdx_iff_getElem?,List.getElem?_eq_getElem hi,hget]
    refine ⟨_,mem_queries.mpr ⟨(r,i),hzip,rfl⟩,hvpn,?_⟩
    dsimp only
    rw [hconverts]
    rfl

/-- What the engine has built covers the addresses of the well-formed names. -/
theorem engine_covers {cidrs : List String} (h : names.engine rules=some cidrs) :
    ∀ a∈names.wellFormedAddresses rules,
      Covers (if cidrs=[] then fullVpnAllowedIps else cidrs) a := by
  obtain ⟨ips,hips,_⟩ := Option.map_eq_some_iff.mp h
  have hbare := collectAddresses_bare hips
  have hvalid : ∀ a∈ips,a.Valid := by
    rw [hbare]
    exact resolvedFor_valid _ _
  intro a ha
  by_cases hnone : cidrs=[]
  · rw [if_pos hnone]
    exact full_covers (resolvedFor_valid _ _ a ha)
  · rw [if_neg hnone,(built_covers hips hvalid h).1 a,hbare]
    obtain ⟨q,hq,hvpn,_,hin⟩ := mem_resolvedFor.mp ha
    exact mem_resolvedFor.mpr ⟨q,hq,hvpn,rfl,hin⟩

end NameService

section

variable {cfg : Settings} {names : NameService} {userId : Id} {s t : Session}

/-- The user's routing mode is SMART_VPN. -/
def Smart (db : Database) (userId : Id) : Prop :=
  (db.routingProfileOf userId).map UserRoutingProfile.mode=some .smartVpn

theorem Smart.profile (h : Smart s.db userId) : ∃ profile,
    getOrCreateUserProfile userId s=(.ok profile,s) ∧ profile.mode=.smartVpn := by
  obtain ⟨profile,hprofile,hmode⟩ := Option.map_eq_some_iff.mp h
  refine ⟨profile,?_,hmode⟩
  unfold getOrCreateUserProfile
  rw [getDb_bind_run,hprofile]
  rfl

theorem profileAllowedIps_answer {answer : Option (List String)}
    (h : s.allowedIps (userDomainRules s.db userId)=answer) :
    profileAllowedIps userId .smartVpn s=
      (Eff.orRaise unresolved answer >>= fun allowed =>
        pure (if allowed=[] then fullVpnAllowedIps else allowed) : Req (List String)) s := by
  rw [← h]
  rfl

/-- Without faults a profile is made as soon as the engine answers. -/
theorem regenerateProfile_answered {deviceId : Id} {cidrs : List String} (hs : OneCurrent s.db)
    (hsmart : Smart s.db userId) (hcalm : s.outcomes=[])
    (h : s.allowedIps (userDomainRules s.db userId)=some cidrs) :
    ∃ p t,regenerateProfile cfg deviceId userId s=(.ok p,t) ∧
      p.allowedIps=if cidrs=[] then fullVpnAllowedIps else cidrs := by
  obtain ⟨profile,hprofile,hmode⟩ := hsmart.profile
  have hallowed := profileAllowedIps_answer h
  rw [Eff.orRaise_some,Eff.pure_bind_run] at hallowed
  have hcurrent : ∃ current,currentProfile (s.db.currentProfiles deviceId) s=(.ok current,s) := by
    rcases hs.currentProfiles deviceId with hnone|⟨p,hone⟩
    · rw [hnone]
      exact ⟨none,rfl⟩
    · rw [hone]
      exact ⟨some p,rfl⟩
  obtain ⟨current,hcurrent⟩ := hcurrent
  unfold regenerateProfile
  rw [Eff.bind_run_ok hprofile,hmode,Eff.bind_run_ok hallowed,getDb_bind_run,
    Eff.bind_run_ok hcurrent]
  refine ⟨_,_,Eff.bind_run_ok (flush_calm ?_),?_⟩
  · exact hcalm
  · rfl

/-- A name that cannot be converted ends the call, whatever else is stored. -/
theorem regenerateProfile_unresolved {deviceId : Id} (hsmart : Smart s.db userId)
    (h : s.allowedIps (userDomainRules s.db userId)=none) :
    regenerateProfile cfg deviceId userId s=(.error unresolved,s) := by
  obtain ⟨profile,hprofile,hmode⟩ := hsmart.profile
  unfold regenerateProfile
  rw [Eff.bind_run_ok hprofile,hmode]
  exact Eff.bind_run_error (profileAllowedIps_answer h)

/-- What the rules of a user are made of. -/
def Database.ruleTables (db : Database) :=
  (db.routingRules,db.userCategoryPreferences,db.userCustomDomains)

/-- Neither the rules may change nor what their lookups come to. -/
abbrev rulesFrame : Frame Session := keeping fun s => (s.db.ruleTables,s.allowedIps)

theorem rules_books : Bookkeeping rulesFrame :=
  ⟨fun _ => ⟨rfl,by simp⟩,fun _ _ => ⟨rfl,le_rfl⟩⟩

/-- A computation that makes no lookups and leaves alone what they depend on. -/
structure Lookupless {α : Type} (m : Req α) : Prop where
  raises : Raises Ordinary m
  within : Within rulesFrame m

end

namespace Lookupless

variable {α β : Type}

theorem pure (a : α) : Lookupless (pure a : Req α) := ⟨Raises.pure a,Within.pure a⟩

theorem bind {m : Req α} {f : α → Req β} (hm : Lookupless m) (hf : ∀ a,Lookupless (f a)) :
    Lookupless (m >>= f) :=
  ⟨hm.raises.bind fun a => (hf a).raises,hm.within.bind fun a => (hf a).within⟩

theorem raise {e : AppError} (h : Ordinary e) : Lookupless (Eff.raise e : Req α) :=
  ⟨Raises.raise h,Within.raise e⟩

theorem orRaise {e : AppError} (h : Ordinary e) (o : Option α) :
    Lookupless (Eff.orRaise e o : Req α) := ⟨Raises.orRaise h o,Within.orRaise e o⟩

theorem require (c : Prop) [Decidable c] {e : AppError} (h : Ordinary e) :
    Lookupless (Eff.require c e : Req Unit) := ⟨Raises.require c h,Within.require c e⟩

theorem ite {c : Prop} [Decidable c] {m n : Req α} (hm : Lookupless m) (hn : Lookupless n) :
    Lookupless (if c then m else n) :=
  ⟨Raises.ite hm.raises hn.raises,Within.ite hm.within hn.within⟩

theorem getDb : Lookupless getDb := ⟨getDb_raises,getDb_within⟩

theorem getNow : Lookupless getNow := ⟨getNow_raises,getNow_within⟩

theorem nextSerial : Lookupless nextSerial :=
  ⟨nextSerial_raises,nextSerial_within rules_books⟩

theorem alter {f : Database → Database} (h : ∀ db,(f db).ruleTables=db.ruleTables) :
    Lookupless (alter f) := by
  refine ⟨alter_raises f,fun s => ⟨?_,le_rfl⟩⟩
  exact congrArg (fun db => (db,s.allowedIps)) (h s.db)

theorem flush : Lookupless flush :=
  ⟨nextOutcome_raises.bind fun _ => Raises.ite (Raises.pure ()) (Raises.raise (by decide)),
    flush_within rules_books⟩

theorem orRaiseDb {e : AppError} (h : Ordinary e) (f : Database → Option α) :
    Lookupless (Backend.getDb >>= fun db => Eff.orRaise e (f db)) :=
  getDb.bind fun db => orRaise h (f db)

theorem generateQrCode (content : QrContent) : Lookupless (generateQrCode content) :=
  ⟨(Raises.reads _).bind fun _ => Raises.ite (Raises.pure _) (Raises.raise (by decide)),
    generateQrCode_within content⟩

theorem vpnRequest (server : VpnServer) (op : IpPeerStore → Option IpPeerStore) :
    Lookupless (vpnRequest server op) := by
  have hfail : Ordinary (vpnAgentUnreachable server) := fun h => nomatch congrArg AppError.kind h
  constructor
  · refine nextOutcome_raises.bind fun o => (Raises.reads _).bind fun store => ?_
    have hlast : Raises Ordinary
        (if o=.answered then Pure.pure () else Eff.raise (vpnAgentUnreachable server) : Req Unit) :=
      Raises.ite (Raises.pure ()) (Raises.raise hfail)
    cases op store with
    | none => exact Raises.raise hfail
    | some store' => exact Raises.ite ((Raises.change _).bind fun _ => hlast) hlast
  · exact vpnRequest_within rules_books fun _ _ _ => ⟨rfl,le_rfl⟩

theorem getServer (serverId : Id) : Lookupless (getServer serverId) :=
  orRaiseDb (by decide) _

theorem xrayRequest (baseUrl : String) (op : Agent.UserStore → Agent.UserStore) :
    Lookupless (xrayRequest baseUrl op) := by
  have hfail : ∀ attempts,Ordinary (xrayAgentUnreachable baseUrl attempts) :=
    fun _ h => nomatch congrArg AppError.kind h
  constructor
  · have hattempts : ∀ n,Raises Ordinary (xrayAttempts baseUrl op n) := by
      intro n
      induction n with
      | zero => exact Raises.raise (hfail _)
      | succ n ih =>
        refine nextOutcome_raises.bind fun o => ?_
        have hlast : Raises Ordinary (if o=.answered then Pure.pure ()
            else if o.transport then xrayAttempts baseUrl op n
            else Eff.raise (xrayAgentUnreachable baseUrl "") : Req Unit) :=
          Raises.ite (Raises.pure ()) (Raises.ite ih (Raises.raise (hfail _)))
        exact Raises.ite ((Raises.change _).bind fun _ => hlast) hlast
    exact hattempts 3
  · exact xrayRequest_within rules_books fun _ => ⟨rfl,le_rfl⟩

theorem enforceDeviceLimit (userId : Id) : Lookupless (enforceDeviceLimit userId) := by
  refine getDb.bind fun db => ?_
  have hverdict : ∀ e,limitVerdict db userId=.error e → Ordinary e := by
    intro e he
    unfold limitVerdict at he
    cases hsubscription : db.activeSubscription userId with
    | none =>
      rw [hsubscription] at he
      cases he
      decide
    | some subscription =>
      rw [hsubscription] at he
      cases hplan : db.plans.get? subscription.planId with
      | none =>
        simp only [hplan] at he
        cases he
        decide
      | some plan =>
        simp only [hplan] at he
        split_ifs at he
        cases he
        intro h
        have hkind := congrArg AppError.kind h
        cases hkind
  cases hrun : limitVerdict db userId with
  | ok _ => exact pure ()
  | error e => exact raise (hverdict e hrun)

theorem chooseServer (requested : Option Id) (protocol : VpnProtocol) :
    Lookupless (chooseServer requested protocol) := by
  unfold Backend.chooseServer
  cases requested.filter fun k => k≠0 with
  | none => exact orRaiseDb (by decide) _
  | some k => exact getServer k

theorem addDevice (userId : Id) (name : String) (serverId : Option Id) (protocol : VpnProtocol) :
    Lookupless (addDevice userId name serverId protocol) :=
  nextSerial.bind fun _ => flush.bind fun _ => (require _ (by decide)).bind fun _ =>
    bind (alter fun _ => rfl) fun _ => pure _

theorem createOrRotate (deviceId : Id) : Lookupless (createOrRotate deviceId) := by
  refine nextSerial.bind fun _ => getNow.bind fun _ => getDb.bind fun db => ?_
  cases db.linkOf deviceId with
  | none =>
    exact nextSerial.bind fun _ => bind (alter fun _ => rfl) fun _ => flush.bind fun _ => pure _
  | some link => exact bind (alter fun _ => rfl) fun _ => flush.bind fun _ => pure _

theorem allocateIp (server : VpnServer) : Lookupless (allocateIp server) := by
  have hfull : Ordinary (ipPoolExhausted server) := fun h => nomatch congrArg AppError.kind h
  exact (orRaise (by decide) _).bind fun _ => getDb.bind fun _ =>
    (orRaise (by decide) _).bind fun _ => orRaise hfull _

theorem createPeerAttempts (cfg : Settings) (deviceId : Id) (server : VpnServer) (n : Nat) :
    Lookupless (createPeerAttempts cfg deviceId server n) := by
  induction n with
  | zero => exact raise fun h => nomatch congrArg AppError.kind h
  | succ n ih =>
    have hpeer : ∀ ip,Lookupless (createPeer cfg deviceId server ip) := fun ip =>
      getNow.bind fun _ => nextSerial.bind fun _ => (vpnRequest _ _).bind fun _ => pure _
    refine (allocateIp server).bind fun ip => (hpeer ip).bind fun result =>
      nextSerial.bind fun id => flush.bind fun _ => flush.bind fun _ => getDb.bind fun db =>
      ite ?_ (bind (alter fun _ => rfl) fun _ => pure _)
    exact (vpnRequest server _).bind fun _ => ih

theorem serverOfDevice (device : Device) : Lookupless (serverOfDevice device) :=
  (orRaise (by decide) _).bind fun k => getServer k

theorem retirePeer (deviceId : Id) (server : VpnServer) :
    Lookupless (withActivePeer deviceId (retirePeer server)) := by
  refine getDb.bind fun db => ?_
  cases db.activePeer deviceId with
  | none => exact pure ()
  | some peer => exact (vpnRequest server _).bind fun _ => alter fun _ => rfl

theorem refreshed (device : Device) : Lookupless (refreshed device) :=
  getDb.bind fun _ => pure _

theorem provisionVless (cfg : Settings) (user : User) (name : String) (requested : Option Id) :
    Lookupless (provisionVless cfg user name requested) := by
  refine (chooseServer requested .vless).bind fun server => getDb.bind fun _ => ?_
  have hunconfigured : Ordinary ⟨.conflict,"vless_server_not_configured",
      s!"VLESS server {server.id} has no Reality configuration"⟩ :=
    fun h => nomatch congrArg AppError.kind h
  refine (orRaise hunconfigured _).bind fun config => (addDevice _ _ _ _).bind fun device => ?_
  refine (createOrRotate _).bind fun link => nextSerial.bind fun uuid => getNow.bind fun now => ?_
  refine (xrayRequest _ _).bind fun _ => nextSerial.bind fun id => flush.bind fun _ => ?_
  refine getDb.bind fun db => (require _ (by decide)).bind fun _ => ?_
  exact bind (alter fun _ => rfl) fun _ => bind (alter fun _ => rfl) fun _ =>
    (generateQrCode _).bind fun _ => pure _

theorem getOrCreateUserProfile (userId : Id) : Lookupless (getOrCreateUserProfile userId) := by
  refine getDb.bind fun db => ?_
  cases db.routingProfileOf userId with
  | none =>
    exact nextSerial.bind fun _ => bind (alter fun _ => rfl) fun _ => flush.bind fun _ => pure _
  | some profile => exact pure _

theorem currentProfile (ps : List VpnProfile) : Lookupless (currentProfile ps) := by
  match ps with
  | [] => exact pure _
  | [p] => exact pure _
  | _::_::_ => exact raise (by decide)

theorem markSuperseded (deviceId : Id) : Lookupless (Backend.alter (markSuperseded deviceId)) :=
  alter fun _ => rfl

end Lookupless

section

variable {cfg : Settings} {names : NameService} {userId : Id} {s t : Session}

/-- The engine has an answer for the rules of the user. -/
def Resolvable (userId : Id) (s : Session) : Prop :=
  s.allowedIps (userDomainRules s.db userId)≠none

theorem Resolvable.kept (h : Resolvable userId s) (hst : rulesFrame.rel s t) :
    Resolvable userId t := by
  have hview := hst.1
  simp only [Database.ruleTables,Prod.mk.injEq] at hview
  obtain ⟨⟨hrules,hprefs,hdomains⟩,hengine⟩ := hview
  unfold Resolvable userDomainRules Database.categoryPreferences Database.customDomains
  rw [hengine,hrules,hprefs,hdomains]
  exact h

/-- What makes no lookups leaves it to the rest not to fail at one. -/
theorem Lookupless.then {α β : Type} {m : Req α} {f : α → Req β} (hm : Lookupless m)
    (hs : Resolvable userId s) (hf : ∀ a t,Resolvable userId t → RaisesAt Ordinary (f a) t) :
    RaisesAt Ordinary (m >>= f) s :=
  (hm.raises s).bind fun a t ht => hf a t (hs.kept ((hm.within s).rel_of_run ht))

theorem profileAllowedIps_ordinary (mode : RoutingMode) (hs : Resolvable userId s) :
    RaisesAt Ordinary (profileAllowedIps userId mode) s := by
  cases mode with
  | fullVpn => exact Raises.pure _ s
  | smartVpn =>
    obtain ⟨cidrs,hcidrs⟩ := Option.ne_none_iff_exists'.mp hs
    intro e t hrun
    rw [profileAllowedIps_answer hcidrs] at hrun
    cases hrun

theorem regenerateProfile_ordinary (deviceId : Id) (hs : Resolvable userId s) :
    RaisesAt Ordinary (regenerateProfile cfg deviceId userId) s := by
  refine (Lookupless.getOrCreateUserProfile userId).then hs fun profile t ht => ?_
  refine (profileAllowedIps_ordinary profile.mode ht).bind fun allowed u _ => ?_
  have hrest : Lookupless (do
      let db ← getDb
      let current ← currentProfile (db.currentProfiles deviceId)
      alter (markSuperseded deviceId)
      let now ← getNow
      let id ← nextSerial
      let new : VpnProfile := {
        id := id
        deviceId := deviceId
        mode := profile.mode
        allowedIps := allowed
        dns := cfg.vpnDnsList
        version := (current.map fun p => p.version+1).getD 1
        isCurrent := true
        generatedAt := now }
      alter fun db => {db with vpnProfiles := db.vpnProfiles.insert new}
      flush
      pure new) :=
    Lookupless.getDb.bind fun _ => (Lookupless.currentProfile _).bind fun _ =>
      (Lookupless.markSuperseded deviceId).bind fun _ => Lookupless.getNow.bind fun _ =>
      Lookupless.nextSerial.bind fun _ => Lookupless.bind (Lookupless.alter fun _ => rfl) fun _ =>
      Lookupless.flush.bind fun _ => Lookupless.pure _
  exact hrest.raises u

theorem reissue_ordinary {device : Device} (hs : Resolvable device.userId s) :
    RaisesAt Ordinary (reissue cfg device) s := by
  refine (Lookupless.require _ (by decide)).then hs fun _ t ht => ?_
  refine (Lookupless.serverOfDevice device).then ht fun server t ht => ?_
  refine (Lookupless.retirePeer device.id server).then ht fun _ t ht => ?_
  refine (Lookupless.createPeerAttempts cfg device.id server 5).then ht fun created t ht => ?_
  refine Lookupless.then (Lookupless.alter fun _ => rfl) ht fun _ t ht => ?_
  refine (regenerateProfile_ordinary device.id ht).bind fun profile u _ => ?_
  have hrest := (Lookupless.generateQrCode (clientConfig cfg created.1 profile)).bind fun config =>
    (Lookupless.refreshed device).bind fun device =>
      Lookupless.pure (⟨device,some config,none⟩ : ProvisionedDevice)
  exact hrest.raises u

theorem provision_ordinary {user : User} (hs : Resolvable user.id s) (name : String)
    (requested : Option Id) (protocol : VpnProtocol) :
    RaisesAt Ordinary (provision cfg user name requested protocol) s := by
  refine (Lookupless.enforceDeviceLimit user.id).then hs fun _ t ht => ?_
  cases protocol with
  | vless => exact (Lookupless.provisionVless cfg user name requested).raises t
  | wireguard =>
    refine (Lookupless.chooseServer requested .wireguard).then ht fun server t ht => ?_
    refine (Lookupless.addDevice user.id name none .wireguard).then ht fun device t ht => ?_
    refine (Lookupless.createOrRotate device.id).then ht fun link t ht => ?_
    refine (Lookupless.createPeerAttempts cfg device.id server 5).then ht fun created t ht => ?_
    refine Lookupless.then (Lookupless.alter fun _ => rfl) ht fun _ t ht => ?_
    refine Lookupless.then (Lookupless.alter fun _ => rfl) ht fun _ t ht => ?_
    refine (regenerateProfile_ordinary device.id ht).bind fun profile u _ => ?_
    have hrest := (Lookupless.generateQrCode (clientConfig cfg created.1 profile)).bind
      fun config => (Lookupless.generateQrCode (.url cfg.subscriptionBaseUrl link.2)).bind
      fun url => (Lookupless.refreshed device).bind fun device =>
        Lookupless.pure (⟨device,some config,some url⟩ : ProvisionedDevice)
    exact hrest.raises u

/-- A profile can only be made where the engine has an answer. -/
theorem Unhindered.answers {w : World} (hsmart : Smart w.db userId)
    (h : Unhindered cfg names userId w) : names.engine (userDomainRules w.db userId)≠none := by
  intro hnone
  let env : Env := ⟨0,[],names.engine,fun _ => true⟩
  have hlookup : (⟨w,env⟩ : Session).allowedIps (userDomainRules w.db userId)=none := hnone
  obtain ⟨p,t,hrun,_⟩ := h.profiles env rfl rfl 0
  rw [regenerateProfile_unresolved hsmart hlookup] at hrun
  cases hrun

/-- In every world that calls lead to, stored names break a user's profiles and the requests that
need one exactly if one that is routed through the VPN cannot be converted. -/
theorem unhindered_iff {w : World} (hw : Reachable cfg w) (hsmart : Smart w.db userId) :
    Unhindered cfg names userId w ↔ NamesConvert names w.db userId := by
  have hanswers : NamesConvert names w.db userId ↔
      names.engine (userDomainRules w.db userId)≠none := by
    rw [namesConvert_iff,Ne,NameService.engine_none]
    constructor
    · intro h ⟨r,hr,hvpn,hconverts⟩
      rw [h r hr hvpn] at hconverts
      cases hconverts
    · intro h r hr hvpn
      by_contra hconverts
      exact h ⟨r,hr,hvpn,by simpa using hconverts⟩
  rw [hanswers]
  constructor
  · exact fun h => h.answers hsmart
  · intro h
    have hresolvable : ∀ env : Env,env.allowedIps=names.engine → Resolvable userId ⟨w,env⟩ := by
      intro env hengine
      show env.allowedIps (userDomainRules w.db userId)≠none
      rw [hengine]
      exact h
    obtain ⟨cidrs,hcidrs⟩ := Option.ne_none_iff_exists'.mp h
    constructor
    · intro env hengine hcalm deviceId
      have hlookup : (⟨w,env⟩ : Session).allowedIps (userDomainRules w.db userId)=some cidrs := by
        rw [← hcidrs,← hengine]
      have hanswered : ∃ p t,regenerateProfile cfg deviceId userId ⟨w,env⟩=(.ok p,t) ∧
          p.allowedIps=if cidrs=[] then fullVpnAllowedIps else cidrs :=
        regenerateProfile_answered (reachable_oneCurrent hw) hsmart hcalm hlookup
      obtain ⟨p,t,hrun,hallowed⟩ := hanswered
      refine ⟨p,t,hrun,?_,?_⟩
      · rw [hallowed]
        by_cases hnone : cidrs=[]
        · rw [if_pos hnone]
          exact List.cons_ne_nil _ _
        · rw [if_neg hnone]
          exact hnone
      · rw [hallowed]
        exact NameService.engine_covers hcidrs
    · intro env hengine user huser name requested protocol hfail
      subst huser
      have hraises : RaisesAt Ordinary (provision cfg user name requested protocol) ⟨w,env⟩ :=
        provision_ordinary (hresolvable env hengine) name requested protocol
      exact hraises unresolved _ (Prod.ext hfail rfl) rfl
    · intro env hengine device huser hfail
      subst huser
      have hraises : RaisesAt Ordinary (reissue cfg device) ⟨w,env⟩ :=
        reissue_ordinary (hresolvable env hengine)
      exact hraises unresolved _ (Prod.ext hfail rfl) rfl

end

/-- No label is empty but perhaps the last one, and none has more than 63 characters. -/
def wellLabelled (domain : String) : Bool :=
  let labels := domain.toList.splitOn '.'
  labels.dropLast.all (fun l => l≠[]) && labels.all fun l => l.length≤63

def sampleNames : NameService where
  converts := wellLabelled
  lookups := answering
  caught := by
    intro i
    cases i <;> rfl

/-- User 1 chooses SMART_VPN and adds these domains. -/
def adding (domains : List String) : List Call :=
  calm 3 (.routing (.setMyMode 77 .smartVpn))::
    domains.map fun d => calm 3 (.routing (.addMyDomain 77 d .vpn))

def added (domains : List String) : World := (adding domains).foldl (after sampleSettings) opened

theorem added_reachable (domains : List String) : Reachable sampleSettings (added domains) := by
  refine ⟨opening++adding domains,?_⟩
  rw [List.foldl_append]
  rfl

theorem unhindered_iff_added :
    Unhindered sampleSettings sampleNames 1 (added ["a.example","b.example"]) :=
  (unhindered_iff (added_reachable _) (by unfold Smart; decide +kernel)).mpr
    (namesConvert_iff.mpr (by decide +kernel))

/-- The empty label of one domain takes the other domain's profile with it. -/
theorem not_unhindered_label : Reachable sampleSettings (added ["a..example","b.example"]) ∧
    Smart (added ["a..example","b.example"]).db 1 ∧
    ¬Unhindered sampleSettings sampleNames 1 (added ["a..example","b.example"]) := by
  have hsmart : Smart (added ["a..example","b.example"]).db 1 := by
    unfold Smart
    decide +kernel
  refine ⟨added_reachable _,hsmart,fun h => h.answers hsmart ?_⟩
  decide +kernel

end VpnService.Backend
