import VpnService.Backend.Choices
import VpnService.Backend.DrawnProfiles

namespace VpnService.Backend

/-- What the engine is asked about for such choices: every enabled rule, as the user has chosen for
its category, and every domain the user has named. -/
def Choices.Asks (c : Choices) (rules : Store RoutingRule.id) (x : String×RouteType) : Prop :=
  (∃ r∈rules.rows,r.enabled=true ∧
    x=(r.domain,if c.prefers r.categoryId then r.routeType else .direct)) ∨
  c.route x.1=some x.2

/-- The profile that such choices lead to. -/
structure Choices.Draws (c : Choices) (rules : Store RoutingRule.id) (env : Env)
    (p : VpnProfile) : Prop where
  mode : p.mode=c.mode
  full : c.mode=.fullVpn → p.allowedIps=fullVpnAllowedIps
  smart : c.mode=.smartVpn → ∃ asks allowed,(∀ x,x∈asks ↔ c.Asks rules x) ∧
    env.allowedIps asks=some allowed ∧
    p.allowedIps=if allowed=[] then fullVpnAllowedIps else allowed

section

variable {cfg : Settings} {n : Int} {db : Database} {d userId : Id} {s t : Session}

theorem categoryEnabled_iff {prefs : List UserCategoryPreference} {k : Id}
    (h : ∀ p∈prefs,∀ q∈prefs,p.categoryId=k → q.categoryId=k → p=q) :
    categoryEnabled prefs k=true ↔ ∃ p∈prefs,p.categoryId=k ∧ p.enabled=true := by
  unfold categoryEnabled
  cases hfound : prefs.reverse.find? fun p => p.categoryId=k with
  | none =>
    have hnone := List.find?_eq_none.mp hfound
    constructor
    · exact nofun
    · rintro ⟨p,hp,hk,_⟩
      exact absurd (decide_eq_true hk) (hnone p (List.mem_reverse.mpr hp))
  | some q =>
    have hq : q∈prefs := List.mem_reverse.mp (List.mem_of_find?_eq_some hfound)
    have hk : q.categoryId=k := by simpa using List.find?_some hfound
    constructor
    · exact fun hon => ⟨q,hq,hk,hon⟩
    · rintro ⟨p,hp,hpk,hon⟩
      rw [← h p hp q hq hpk hk]
      exact hon

/-- A category is enabled for a profile when the user's last choice about it says so. -/
theorem Chosen.categoryEnabled (h : Chosen n db) (k : Id) :
    categoryEnabled (db.categoryPreferences userId) k=(db.choices userId).prefers k := by
  have hmem : ∀ p,p∈db.categoryPreferences userId ↔
      p∈db.userCategoryPreferences.rows ∧ p.userId=userId := by
    simp [Database.categoryPreferences]
  apply Bool.eq_iff_iff.mpr
  rw [categoryEnabled_iff,h.prefers_iff]
  · constructor
    · rintro ⟨p,hp,hk,hon⟩
      exact ⟨p,((hmem p).mp hp).1,Prod.ext ((hmem p).mp hp).2 hk,hon⟩
    · rintro ⟨p,hp,hsubject,hon⟩
      exact ⟨p,(hmem p).mpr ⟨hp,congrArg Prod.fst hsubject⟩,congrArg Prod.snd hsubject,hon⟩
  · intro p hp q hq hpk hqk
    refine h.preferences.eq_of_index ((hmem p).mp hp).1 ((hmem q).mp hq).1 ?_
    exact Prod.ext (((hmem p).mp hp).2.trans ((hmem q).mp hq).2.symm) (hpk.trans hqk.symm)

theorem Chosen.asks (h : Chosen n db) (x : String×RouteType) :
    x∈userDomainRules db userId ↔ (db.choices userId).Asks db.routingRules x := by
  unfold userDomainRules Choices.Asks
  rw [List.mem_append,h.route_iff]
  refine or_congr ?_ ?_
  · constructor
    · intro hx
      obtain ⟨r,hr,rfl⟩ := List.mem_map.mp hx
      obtain ⟨hr,hon⟩ := List.mem_filter.mp hr
      exact ⟨r,hr,hon,by rw [h.categoryEnabled]⟩
    · rintro ⟨r,hr,hon,rfl⟩
      refine List.mem_map.mpr ⟨r,List.mem_filter.mpr ⟨hr,hon⟩,?_⟩
      rw [h.categoryEnabled]
  · constructor
    · intro hx
      obtain ⟨y,hy,rfl⟩ := List.mem_map.mp hx
      obtain ⟨hy,_⟩ := List.mem_filter.mp hy
      obtain ⟨hy,huser⟩ := List.mem_filter.mp hy
      exact ⟨y,hy,Prod.ext (of_decide_eq_true huser) rfl,rfl⟩
    · rintro ⟨y,hy,hsubject,htype⟩
      refine List.mem_map.mpr ⟨y,List.mem_filter.mpr ⟨List.mem_filter.mpr ⟨hy,?_⟩,
        h.enabled y hy⟩,?_⟩
      · exact decide_eq_true (congrArg Prod.fst hsubject)
      · exact Prod.ext (congrArg Prod.snd hsubject) htype

/-- The addresses of a new profile are those its user's choices lead to. -/
theorem profileAllowedIps_draws {profile : UserRoutingProfile} {p : VpnProfile}
    (hs : Chosen s.serial s.db) (hfound : s.db.routingProfileOf userId=some profile)
    (hmode : p.mode=profile.mode)
    (h : profileAllowedIps userId profile.mode s=(.ok p.allowedIps,t)) :
    (s.db.choices userId).Draws s.db.routingRules s.toEnv p := by
  have hchosen : (s.db.choices userId).mode=profile.mode :=
    congrArg (fun o : Option UserRoutingProfile => (o.map UserRoutingProfile.mode).getD
      .fullVpn) hfound
  refine ⟨hmode.trans hchosen.symm,fun hfull => ?_,fun hsmart => ?_⟩
  · rw [← hchosen,hfull] at h
    exact (Except.ok.inj (congrArg Prod.fst h)).symm
  · rw [← hchosen,hsmart] at h
    obtain ⟨allowed,hanswer,h⟩ := Eff.orRaise_bind_ok.mp h
    exact ⟨_,allowed,hs.asks,hanswer,(Except.ok.inj (congrArg Prod.fst h)).symm⟩

/-- Profiles of before, but for their being current. -/
def VpnProfile.From (rows : List VpnProfile) (p : VpnProfile) : Prop :=
  ∃ q∈rows,supersede q=supersede p

theorem VpnProfile.from_of_mem {rows : List VpnProfile} {p : VpnProfile} (h : p∈rows) :
    p.From rows := ⟨p,h,rfl⟩

theorem regenerateProfile_mode {new : VpnProfile}
    (h : regenerateProfile cfg d userId s=(.ok new,t)) :
    ∃ profile u v,getOrCreateUserProfile userId s=(.ok profile,u) ∧
      profileAllowedIps userId profile.mode u=(.ok new.allowedIps,v) ∧ new.mode=profile.mode := by
  obtain ⟨profile,u,hu,h⟩ := Eff.bind_ok.mp h
  obtain ⟨ips,v,hv,h⟩ := Eff.bind_ok.mp h
  obtain ⟨_,_,_,h⟩ := Eff.bind_ok.mp h
  obtain ⟨_,_,_,h⟩ := Eff.bind_ok.mp h
  obtain ⟨_,_,_,h⟩ := Eff.bind_ok.mp h
  obtain ⟨_,_,_,h⟩ := Eff.bind_ok.mp h
  obtain ⟨_,_,_,h⟩ := Eff.bind_ok.mp h
  obtain ⟨_,_,_,h⟩ := Eff.bind_ok.mp h
  obtain ⟨_,_,_,h⟩ := Eff.bind_ok.mp h
  cases h
  exact ⟨profile,u,v,hu,hv,rfl⟩

theorem regenerateProfile_draws {new : VpnProfile} (hs : Chosen s.serial s.db)
    (h : regenerateProfile cfg d userId s=(.ok new,t)) :
    (s.db.choices userId).Draws s.db.routingRules s.toEnv new := by
  obtain ⟨profile,u,v,hu,hv,hmode⟩ := regenerateProfile_mode h
  obtain ⟨hchosen,hsame⟩ := ((getOrCreateUserProfile_choice userId s).rel_of_run hu).2 hs
  have hrules := ((Lookupless.getOrCreateUserProfile userId).within s).rel_of_run hu
  have hdraws := profileAllowedIps_draws hchosen (getOrCreateUserProfile_chosen hu hs) hmode hv
  have hview := hrules.1
  simp only [Database.ruleTables,Prod.mk.injEq] at hview
  rw [hsame,hview.1.1] at hdraws
  exact ⟨hdraws.mode,hdraws.full,fun hsmart => hview.2 ▸ hdraws.smart hsmart⟩

/-- Every profile was there before, or is one of this device that its user's choices lead to. -/
def Drew (d userId : Id) (s t : Session) : Prop :=
  ∀ p∈t.db.vpnProfiles.rows,p.From s.db.vpnProfiles.rows ∨
    p.deviceId=d ∧ (s.db.choices userId).Draws s.db.routingRules s.toEnv p

theorem regenerateProfile_profiles {new : VpnProfile}
    (h : regenerateProfile cfg d userId s=(.ok new,t)) :
    new.deviceId=d ∧ ∀ p∈t.db.vpnProfiles.rows,p.From s.db.vpnProfiles.rows ∨ p=new := by
  obtain ⟨_,_,_,db,current,_,_,hdb,_,hnew,ht,_⟩ := regenerateProfile_ok h
  refine ⟨by rw [hnew]; rfl,fun p hp => ?_⟩
  rw [ht] at hp
  rcases Store.mem_of_insert hp with hp|hp
  · obtain ⟨q,hq,he⟩ := mem_markSuperseded.mp hp
    rw [hdb] at hq
    refine Or.inl ⟨q,hq,?_⟩
    rw [he]
    unfold supersededIn
    split_ifs <;> rfl
  · exact Or.inr hp

/-- What goes before a new profile. -/
structure Prepared (s t : Session) : Prop where
  choice : choiceFrame.rel s t
  rules : rulesFrame.rel s t
  profiles : t.db.vpnProfiles=s.db.vpnProfiles

def preparing : Frame Session where
  rel := Prepared
  refl s := ⟨choiceFrame.refl s,rulesFrame.refl s,rfl⟩
  trans h k := ⟨choiceFrame.trans h.choice k.choice,rulesFrame.trans h.rules k.rules,
    k.profiles.trans h.profiles⟩

/-- What makes no lookups and changes only the fleet. -/
theorem Lookupless.preparing {α : Type} {m : Req α} (h : Lookupless m)
    (hm : Within paperworkFrame m) : Within Backend.preparing m := fun s =>
  ⟨choice_of_paperwork (hm s),h.within s,profiles_of_paperwork (hm s)⟩

theorem alter_preparing {f : Database → Database} (h : ∀ db,(f db).paperwork=db.paperwork) :
    Within preparing (alter f) := by
  intro s
  have hrules : (f s.db).ruleTables=s.db.ruleTables :=
    (congrArg (fun db : Database => (db.routingRules,db.userCategoryPreferences,
      db.userCustomDomains)) (h s.db) :)
  exact ⟨choice_of_paperwork (alter_paperwork h s),
    ⟨congrArg (fun x => (x,s.allowedIps)) hrules,le_rfl⟩,
    profiles_of_paperwork (alter_paperwork h s)⟩

theorem updateDevice_preparing (k : Id) (f : Device → Device) (hf : ∀ x,(f x).id=x.id) :
    Within preparing (updateDevice k f hf) := alter_preparing fun _ => rfl

theorem addLoad_preparing (k : Id) : Within preparing (addLoad k) := alter_preparing fun _ => rfl

theorem createPeerAttempts_preparing (server : VpnServer) (n : Nat) :
    Within preparing (createPeerAttempts cfg d server n) :=
  (Lookupless.createPeerAttempts cfg d server n).preparing
    ((createPeerAttempts_equipment cfg d server n).mono paperwork_of_equipment)

/-- A new profile after what was prepared for it. -/
theorem Prepared.drew {u : Session} {new : VpnProfile} (hs : Chosen s.serial s.db)
    (h : Prepared s u) (hrun : regenerateProfile cfg d userId u=(.ok new,t)) :
    Drew d userId s t := by
  obtain ⟨hchosen,hsame⟩ := h.choice.2 hs
  obtain ⟨hdevice,hprofiles⟩ := regenerateProfile_profiles hrun
  have hdraws := regenerateProfile_draws hchosen hrun
  have hview := h.rules.1
  simp only [Database.ruleTables,Prod.mk.injEq] at hview
  rw [hsame,hview.1.1] at hdraws
  intro p hp
  rcases hprofiles p hp with hold|rfl
  · exact Or.inl (h.profiles ▸ hold)
  · exact Or.inr ⟨hdevice,hdraws.mode,hdraws.full,fun hsmart => hview.2 ▸ hdraws.smart hsmart⟩

theorem reissue_drew {device : Device} {r : ProvisionedDevice} (hs : Chosen s.serial s.db)
    (h : reissue cfg device s=(.ok r,t)) : Drew device.id device.userId s t := by
  obtain ⟨_,h⟩ := Eff.require_bind_ok.mp h
  obtain ⟨server,u,hu,h⟩ := Eff.bind_ok.mp h
  have hus : u=s := (serverOfDevice_within (R := Frame.still) device s).still_run hu
  rw [hus] at h
  obtain ⟨_,v,hv,h⟩ := Eff.bind_ok.mp h
  have hretired : Prepared s v :=
    ((Lookupless.retirePeer device.id server).preparing ((withActivePeer_within _
      fun p => retirePeer_equipment server p).mono paperwork_of_equipment) s).rel_of_run hv
  obtain ⟨created,w,hw,h⟩ := Eff.bind_ok.mp h
  have hcreated : Prepared v w := (createPeerAttempts_preparing server 5 v).rel_of_run hw
  obtain ⟨_,x,hx,h⟩ := Eff.bind_ok.mp h
  have hnamed : Prepared w x := (updateDevice_preparing _ _ _ w).rel_of_run hx
  obtain ⟨new,y,hy,h⟩ := Eff.bind_ok.mp h
  have hend : t=y := ((generateQrCode_within _).bind fun _ => (refreshed_within _).bind fun _ =>
    Within.pure _ : Within Frame.still _) y |>.still_run h
  rw [hend]
  exact (preparing.trans hretired (preparing.trans hcreated hnamed)).drew hs hy

theorem provision_drew {user : User} {name : String} {requested : Option Id}
    {r : ProvisionedDevice} (hs : Chosen s.serial s.db)
    (h : provision cfg user name requested .wireguard s=(.ok r,t)) :
    Drew s.serial user.id s t := by
  obtain ⟨_,u,hu,h⟩ := Eff.bind_ok.mp h
  have hus : u=s := (enforceDeviceLimit_within (R := Frame.still) user.id s).still_run hu
  rw [hus] at h
  obtain ⟨server,v,hv,h⟩ := Eff.bind_ok.mp h
  have hvs : v=s := (chooseServer_within (R := Frame.still) requested .wireguard s).still_run hv
  rw [hvs] at h
  obtain ⟨device,w,hw,h⟩ := Eff.bind_ok.mp h
  have hadded : Prepared s w :=
    ((Lookupless.addDevice user.id name none .wireguard).preparing
      (addDevice_paperwork user.id name none .wireguard) s).rel_of_run hw
  obtain ⟨_,hdevice,_⟩ := addDevice_ok hw
  have hid : device.id=s.serial := by rw [hdevice]
  rw [hid] at h
  obtain ⟨link,x,hx,h⟩ := Eff.bind_ok.mp h
  have hlinked : Prepared w x :=
    ((Lookupless.createOrRotate s.serial).preparing (createOrRotate_paperwork s.serial)
      w).rel_of_run hx
  obtain ⟨created,y,hy,h⟩ := Eff.bind_ok.mp h
  have hcreated : Prepared x y := (createPeerAttempts_preparing server 5 x).rel_of_run hy
  obtain ⟨_,z,hz,h⟩ := Eff.bind_ok.mp h
  have hnamed : Prepared y z := (updateDevice_preparing _ _ _ y).rel_of_run hz
  obtain ⟨_,a,ha,h⟩ := Eff.bind_ok.mp h
  have hloaded : Prepared z a := (addLoad_preparing _ z).rel_of_run ha
  obtain ⟨new,b,hb,h⟩ := Eff.bind_ok.mp h
  have hend : t=b := ((generateQrCode_within _).bind fun _ => (generateQrCode_within _).bind
    fun _ => (refreshed_within _).bind fun _ => Within.pure _ : Within Frame.still _) b
    |>.still_run h
  rw [hend]
  have hprepared := preparing.trans hadded (preparing.trans hlinked (preparing.trans hcreated
    (preparing.trans hnamed hloaded)))
  exact hprepared.drew hs hb

abbrev profilesFrame : Frame Session := keeping fun s => s.db.vpnProfiles

theorem handleUser_profiles (user : User) {r : BotRequest} (h : r.draws=false) :
    Within profilesFrame (handleUser cfg user r) := by
  have hread : Within settingsFrame (readMySettings user.id) :=
    (getOrCreateUserProfile_settings user.id).bind fun _ => getDb_within.bind fun _ =>
      Within.pure _
  have hset : ∀ {m : Req Unit},Within settingsFrame m →
      Within profilesFrame (m >>= fun _ => readMySettings user.id) := fun hm =>
    (hm.bind fun _ => hread).mono fun hk => ⟨profiles_of_settings hk,hk.2⟩
  refine handleUser_within (R := profilesFrame) (fun hk => ⟨congrArg Prod.snd hk.1,hk.2⟩)
    (hread.mono fun hk => ⟨profiles_of_settings hk,hk.2⟩) (fun hr => ?_) fun hr => ?_
  · cases r with
    | setMyMode mode => exact hset (setMode_settings user.id mode)
    | setMyCategory categoryId enabled =>
      exact hset (setCategoryPreference_settings user.id categoryId enabled)
    | addMyDomain domain routeType =>
      exact hset (addCustomDomain_settings cfg user.id domain routeType)
    | _ => cases hr
  · rw [h] at hr
    cases hr

/-- The devices a request of a user may make a profile for: one that the user has, or the one
under the next number. -/
def BotRequest.concerns (db : Database) (next userId d : Id) : BotRequest → Prop
  | .createDevice .. => d=next
  | .device deviceId _ => deviceId=d ∧ db.deviceOwner d=some userId
  | _ => False

theorem handleUser_drew {user : User} {r : BotRequest} {a : BotResponse}
    (hs : Chosen s.serial s.db) (h : handleUser cfg user r s=(.ok a,t)) :
    ∀ p∈t.db.vpnProfiles.rows,p.From s.db.vpnProfiles.rows ∨
      r.draws=true ∧ r.concerns s.db s.serial user.id p.deviceId ∧
        (s.db.choices user.id).Draws s.db.routingRules s.toEnv p := by
  have hkept : r.draws=false → ∀ p∈t.db.vpnProfiles.rows,p.From s.db.vpnProfiles.rows := by
    intro hr p hp
    have hsame : t.db.vpnProfiles=s.db.vpnProfiles :=
      ((handleUser_profiles user hr s).rel_of_run h).1
    exact VpnProfile.from_of_mem (hsame ▸ hp)
  have howned : ∀ {deviceId : Id} {device : Device} {u : Session},
      getOwned deviceId user.id s=(.ok device,u) → u=s ∧ device.id=deviceId ∧
        device.userId=user.id ∧ s.db.deviceOwner deviceId=some user.id := by
    intro deviceId device u hu
    obtain ⟨hfound,hus⟩ := Eff.orRaise_ok.mp hu
    obtain ⟨hget,huser⟩ := Option.filter_eq_some_iff.mp hfound
    have huser : device.userId=user.id := by simpa using huser
    refine ⟨hus,Store.key_of_get? hget,huser,?_⟩
    unfold Database.deviceOwner
    rw [hget]
    exact congrArg some huser
  cases hr : r.draws with
  | false => exact fun p hp => Or.inl (hkept hr p hp)
  | true =>
    intro p hp
    cases r with
    | createDevice name serverId protocol =>
      cases protocol with
      | vless => cases hr
      | wireguard =>
        obtain ⟨_,u,hu,hend⟩ := Eff.bind_ok.mp h
        cases hend
        exact (provision_drew hs hu p hp).imp_right fun hnew => ⟨rfl,hnew⟩
    | device deviceId r =>
      obtain ⟨device,u,hu,h⟩ := Eff.bind_ok.mp h
      obtain ⟨hus,hid,huser,howner⟩ := howned hu
      rw [hus] at h
      obtain ⟨answer,v,hv,hend⟩ := Eff.bind_ok.mp h
      cases hend
      have hdrew : Drew device.id device.userId s t := by
        cases r with
        | reissue =>
          obtain ⟨_,w,hw,hend⟩ := Eff.bind_ok.mp hv
          cases hend
          exact reissue_drew hs hw
        | refreshProfile =>
          obtain ⟨_,w,hw,hend⟩ := Eff.bind_ok.mp hv
          cases hend
          exact (preparing.refl s).drew hs hw
        | _ => cases hr
      rw [hid,huser] at hdrew
      rcases hdrew p hp with hold|⟨hd,hdraws⟩
      · exact Or.inl hold
      · exact Or.inr ⟨rfl,⟨hd.symm,hd ▸ howner⟩,hdraws⟩
    | _ => cases hr

end

section

variable (cfg : Settings) (auth : AuthSettings) (jwt : Jwt)

/-- The profile came with the user's answered request, one to create, to reissue or to refresh the
device it is for, and the choices lead to it. -/
structure TunnelOf (c : Choices) (site : Site) (o : Occasion) (userId : Id) (p : VpnProfile) :
    Prop where
  request : ∃ r,(userId,r)∈asked cfg auth jwt site o ∧ r.draws=true ∧
    r.concerns site.world.db site.world.serial userId p.deviceId
  unmade : ¬p.From site.world.db.vpnProfiles.rows
  made : p.From (site.after cfg auth jwt o).world.db.vpnProfiles.rows
  draws : c.Draws site.world.db.routingRules o.env p

theorem Site.after_profiles {site : Site} (hs : site.Chosen) (o : Occasion) {p : VpnProfile}
    (hp : p∈(site.after cfg auth jwt o).world.db.vpnProfiles.rows) :
    p.From site.world.db.vpnProfiles.rows ∨
      ∃ userId,TunnelOf cfg auth jwt (site.choices userId) site o userId p := by
  by_cases hbefore : p.From site.world.db.vpnProfiles.rows
  · exact Or.inl hbefore
  rcases serveSite_cases cfg auth jwt site o with ⟨a,admins,t,hm,hserve⟩|⟨e,w,hserve,hdb,_⟩
  · have hafter : site.after cfg auth jwt o=⟨t.toWorld,admins⟩ := congrArg Prod.snd hserve
    have hmade := VpnProfile.from_of_mem hp
    rw [hafter] at hp
    cases hbot : o.happening.isBot with
    | false =>
      have hkept : t.db.vpnProfiles=site.world.db.vpnProfiles := congrArg Prod.snd
        ((handleHappening_personal hbot ⟨site.world,o.env⟩).rel_of_run hm).1
      exact Or.inl (VpnProfile.from_of_mem (hkept ▸ hp))
    | true =>
      cases hrequest : o.happening with
      | request headers r =>
        cases r with
        | bot r =>
          rw [hrequest] at hm
          obtain ⟨user,u,hu,hm⟩ := Eff.bind_ok.mp hm
          obtain ⟨hus,hactor⟩ := getCurrentUser_ok hu
          rw [hus] at hm
          obtain ⟨answer,v,hv,hend⟩ := Eff.bind_ok.mp hm
          cases hend
          rcases handleUser_drew (s := ⟨site.world,o.env⟩) hs hv p hp with
            hold|⟨hnew,hconcerns,hdraws⟩
          · exact Or.inl hold
          · refine Or.inr ⟨user.id,⟨r,?_,hnew,hconcerns⟩,hbefore,hmade,hdraws⟩
            unfold asked
            rw [hserve,hrequest]
            simp [askedOf,hactor]
        | _ =>
          rw [hrequest] at hbot
          cases hbot
      | _ =>
        rw [hrequest] at hbot
        cases hbot
  · have hafter : (site.after cfg auth jwt o).world.db=site.world.db := by
      rw [← hdb]
      exact congrArg (fun x => x.2.world.db) hserve
    rw [hafter] at hp
    exact Or.inl (VpnProfile.from_of_mem hp)

variable {cfg auth jwt} {userId : Id}

/-- Whether a profile is current has no part in how it was made. -/
theorem TunnelOf.of_same {c : Choices} {site : Site} {o : Occasion} {p q : VpnProfile}
    (h : TunnelOf cfg auth jwt c site o userId q) (hpq : supersede q=supersede p) :
    TunnelOf cfg auth jwt c site o userId p := by
  have hdevice : q.deviceId=p.deviceId := (congrArg VpnProfile.deviceId hpq :)
  have hmode : q.mode=p.mode := (congrArg VpnProfile.mode hpq :)
  have hips : q.allowedIps=p.allowedIps := (congrArg VpnProfile.allowedIps hpq :)
  have hfrom : ∀ rows,VpnProfile.From rows q ↔ VpnProfile.From rows p := by
    intro rows
    unfold VpnProfile.From
    rw [hpq]
  exact ⟨hdevice ▸ h.request,fun hp => h.unmade ((hfrom _).mpr hp),(hfrom _).mp h.made,
    hmode ▸ h.draws.mode,hips ▸ h.draws.full,hips ▸ h.draws.smart⟩

/-- Every profile that ever stands in the table, and so every tunnel, came with an answered request
of the user whose device it is for, and carries just what this user's own answered requests up to
then and the rules of that moment lead to. -/
theorem tunnels_as_chosen (cfg : Settings) (auth : AuthSettings) (jwt : Jwt) (os : List Occasion)
    {p : VpnProfile} (hp : p∈(Site.initial.run cfg auth jwt os).world.db.vpnProfiles.rows) :
    ∃ earlier o later userId,os=earlier++o::later ∧ TunnelOf cfg auth jwt
      (chosenBy cfg auth jwt earlier userId) (Site.initial.run cfg auth jwt earlier)
      o userId p := by
  induction os using List.reverseRecOn generalizing p with
  | nil => cases hp
  | append_singleton os o ih =>
    rw [Site.run_snoc] at hp
    rcases Site.after_profiles cfg auth jwt (Site.run_chosen cfg auth jwt os) o hp with
      ⟨q,hq,hqp⟩|⟨userId,hmade⟩
    · obtain ⟨earlier,x,later,userId,hos,hmade⟩ := ih hq
      exact ⟨earlier,x,later++[o],userId,by rw [hos]; simp,hmade.of_same hqp⟩
    · rw [Site.run_choices] at hmade
      exact ⟨os,o,[],userId,rfl,hmade⟩

/-- The first admin opens shop, and user 77 buys and pays. -/
def siteOpening : List Occasion := [
  firstAdmin .superadmin,
  botWelcome,
  staffed (.createPlan samplePlan),
  staffed (.createServer sampleServer),
  staffed (.updateServer 5 ⟨some .online,none,none⟩),
  botFor (.createPayment 3 none),
  ⟨quiet 1,.request ⟨none,none,none⟩ (.paymentWebhook (some ⟨.generated 10,.succeeded⟩)
    (some (signHmac (some ⟨.generated 10,.succeeded⟩) "secret")))⟩]

theorem tunnels_as_chosen_smart :
    let os := siteOpening++[botFor (.setMyMode .smartVpn),botFor (.addMyDomain "a.b" .vpn),
      botFor (.createDevice "phone" none .wireguard)]
    ∃ p∈(Site.initial.run sampleSettings sampleAuth sampleJwt os).world.db.vpnProfiles.rows,
      ∃ earlier o later userId,os=earlier++o::later ∧
        TunnelOf sampleSettings sampleAuth sampleJwt
          (chosenBy sampleSettings sampleAuth sampleJwt earlier userId)
          (Site.initial.run sampleSettings sampleAuth sampleJwt earlier) o userId p := by
  let os := siteOpening++[botFor (.setMyMode .smartVpn),botFor (.addMyDomain "a.b" .vpn),
    botFor (.createDevice "phone" none .wireguard)]
  have hsome : (Site.initial.run sampleSettings sampleAuth sampleJwt
      os).world.db.vpnProfiles.rows≠[] := by decide +kernel
  obtain ⟨p,hp⟩ := List.exists_mem_of_ne_nil _ hsome
  exact ⟨p,hp,tunnels_as_chosen sampleSettings sampleAuth sampleJwt os hp⟩

end

end VpnService.Backend
