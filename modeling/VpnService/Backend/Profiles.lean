import VpnService.Backend.Paperwork
import VpnService.Backend.Soundness

namespace VpnService.Backend

/-- Of the profiles of one device at most one is current. -/
def OneCurrent (db : Database) : Prop :=
  ∀ p∈db.vpnProfiles.rows,∀ q∈db.vpnProfiles.rows,p.deviceId=q.deviceId →
    p.isCurrent=true → q.isCurrent=true → p=q

/-- The profiles of each device have different versions; one of them is current, the newest. -/
structure Versioned (n : Int) (db : Database) : Prop where
  numbered : ∀ p∈db.vpnProfiles.rows,p.id<n
  distinct : ∀ p∈db.vpnProfiles.rows,∀ q∈db.vpnProfiles.rows,p.deviceId=q.deviceId →
    p.version=q.version → p=q
  newest : ∀ p∈db.vpnProfiles.rows,∀ q∈db.vpnProfiles.rows,p.deviceId=q.deviceId →
    p.isCurrent=true → q.version≤p.version
  held : ∀ p∈db.vpnProfiles.rows,∃ q∈db.vpnProfiles.rows,q.deviceId=p.deviceId ∧
    q.isCurrent=true

theorem Versioned.oneCurrent {n : Int} {db : Database} (h : Versioned n db) : OneCurrent db := by
  intro p hp q hq hd hpc hqc
  have hle := h.newest p hp q hq hd hpc
  have hge := h.newest q hq p hp hd.symm hqc
  exact h.distinct p hp q hq hd (Int.le_antisymm hge hle)

theorem Versioned.of_profiles {n m : Int} {a b : Database} (h : Versioned n a)
    (hrows : b.vpnProfiles=a.vpnProfiles) (hn : n≤ m) : Versioned m b := by
  constructor
  · rw [hrows]
    exact fun p hp => (h.numbered p hp).trans_le hn
  · rw [hrows]
    exact h.distinct
  · rw [hrows]
    exact h.newest
  · rw [hrows]
    exact h.held

abbrev profileFrame : Frame Session := Frame.preserving fun s => Versioned s.serial s.db

theorem OneCurrent.currentProfiles {db : Database} (h : OneCurrent db) (deviceId : Id) :
    db.currentProfiles deviceId=[] ∨ ∃ p,db.currentProfiles deviceId=[p] := by
  cases hps : db.currentProfiles deviceId with
  | nil => exact Or.inl rfl
  | cons p ps =>
    have hmem : ∀ x∈p::ps,x∈db.vpnProfiles.rows ∧ x.deviceId=deviceId ∧ x.isCurrent=true := by
      intro x hx
      rw [← hps] at hx
      simpa [Database.currentProfiles] using hx
    have hp := hmem p List.mem_cons_self
    have hone : db.currentProfiles deviceId=[p] := by
      unfold Database.currentProfiles
      apply db.vpnProfiles.filter_eq_singleton hp.1
      · simp [hp.2.1,hp.2.2]
      · intro x hx hq
        have hq : x.deviceId=deviceId ∧ x.isCurrent=true := by simpa using hq
        exact h x hx p hp.1 (hq.1.trans hp.2.1.symm) hq.2 hp.2.2
    exact Or.inr ⟨p,hps ▸ hone⟩

theorem profile_of_profiles {s t : Session} (h : t.db.vpnProfiles=s.db.vpnProfiles)
    (hs : s.serial≤t.serial) : profileFrame.rel s t := fun hv => hv.of_profiles h hs

theorem profile_of_settings {s t : Session} (h : settingsFrame.rel s t) : profileFrame.rel s t := by
  have hview := h.1
  simp only [Prod.mk.injEq] at hview
  exact profile_of_profiles hview.2.2 h.2

theorem profile_of_clerical {s t : Session} (h : clericalFrame.rel s t) : profileFrame.rel s t := by
  have hview := h.1
  simp only [Prod.mk.injEq] at hview
  exact profile_of_profiles (profiles_of_routing hview.2) h.2

theorem profile_of_hosting {s t : Session} (h : hostingFrame.rel s t) : profileFrame.rel s t := by
  have hview := h.1
  simp only [Prod.mk.injEq] at hview
  exact profile_of_profiles (profiles_of_routing hview.2.2) h.2

theorem profile_books : Bookkeeping profileFrame :=
  ⟨fun _ => profile_of_profiles rfl (Int.lt_succ _).le,
    fun _ _ => profile_of_profiles rfl le_rfl⟩

theorem alter_profile {f : Database → Database} (h : ∀ db,(f db).vpnProfiles=db.vpnProfiles) :
    Within profileFrame (alter f) := alter_within fun s => profile_of_profiles (h s.db) le_rfl

/-- The version a new profile gets. -/
def nextVersion (current : Option VpnProfile) : Int :=
  (current.map fun p => p.version+1).getD 1

/-- What supersedes the current profiles of a device leaves of a row. -/
def supersededIn (deviceId : Id) (p : VpnProfile) : VpnProfile :=
  if p.deviceId=deviceId ∧ p.isCurrent=true then supersede p else p

theorem supersededIn_keeps (deviceId : Id) (p : VpnProfile) :
    (supersededIn deviceId p).id=p.id ∧ (supersededIn deviceId p).deviceId=p.deviceId ∧
      (supersededIn deviceId p).version=p.version := by
  unfold supersededIn
  split_ifs
  · exact ⟨rfl,rfl,rfl⟩
  · exact ⟨rfl,rfl,rfl⟩

theorem supersededIn_other {deviceId : Id} {p : VpnProfile} (h : p.deviceId≠deviceId) :
    supersededIn deviceId p=p := by
  unfold supersededIn
  rw [if_neg fun hboth => h hboth.1]

theorem supersededIn_current {deviceId : Id} {p : VpnProfile}
    (h : (supersededIn deviceId p).isCurrent=true) :
    p.isCurrent=true ∧ p.deviceId≠deviceId ∧ supersededIn deviceId p=p := by
  unfold supersededIn at h ⊢
  by_cases hp : p.deviceId=deviceId ∧ p.isCurrent=true
  · rw [if_pos hp] at h
    cases h
  · rw [if_neg hp] at h ⊢
    exact ⟨h,fun hd => hp ⟨hd,h⟩,rfl⟩

theorem mem_currentProfiles {db : Database} {deviceId : Id} {p : VpnProfile} :
    p∈db.currentProfiles deviceId ↔
      p∈db.vpnProfiles.rows ∧ p.deviceId=deviceId ∧ p.isCurrent=true := by
  simp [Database.currentProfiles]

/-- The next version is a new one. -/
theorem Versioned.lt_nextVersion {n : Int} {db : Database} {deviceId : Id}
    {current : Option VpnProfile} (h : Versioned n db)
    (hcurrent : db.currentProfiles deviceId=current.toList) {q : VpnProfile}
    (hq : q∈db.vpnProfiles.rows) (hd : q.deviceId=deviceId) : q.version<nextVersion current := by
  obtain ⟨c,hc,hcd,hcur⟩ := h.held q hq
  have hmem : c∈db.currentProfiles deviceId := mem_currentProfiles.mpr ⟨hc,hcd.trans hd,hcur⟩
  rw [hcurrent,Option.mem_toList] at hmem
  have hle := h.newest c hc q hq hcd hcur
  rw [hmem]
  exact Int.lt_add_one_of_le hle

/-- A new profile in the place of the current one. -/
theorem Versioned.replace {n m : Int} {a b : Database} {deviceId : Id}
    {current : Option VpnProfile} {new : VpnProfile} (h : Versioned n a)
    (hcurrent : a.currentProfiles deviceId=current.toList) (hn : n≤ m) (hnew : new.id< m)
    (hdevice : new.deviceId=deviceId) (hversion : new.version=nextVersion current)
    (his : new.isCurrent=true)
    (hb : ∀ p,p∈b.vpnProfiles.rows ↔
      p=new ∨ ∃ q∈a.vpnProfiles.rows,p=supersededIn deviceId q) : Versioned m b := by
  have hless : ∀ q∈a.vpnProfiles.rows,q.deviceId=deviceId → q.version<new.version := by
    intro q hq hd
    rw [hversion]
    exact h.lt_nextVersion hcurrent hq hd
  have hin : new∈b.vpnProfiles.rows := (hb new).mpr (Or.inl rfl)
  constructor
  · intro p hp
    rcases (hb p).mp hp with hp|⟨q,hq,hp⟩
    · rw [hp]
      exact hnew
    · rw [hp,(supersededIn_keeps deviceId q).1]
      exact (h.numbered q hq).trans_le hn
  · intro p hp p' hp' hd hv
    rcases (hb p).mp hp with hp|⟨q,hq,hp⟩
    · rcases (hb p').mp hp' with hp'|⟨q',hq',hp'⟩
      · rw [hp,hp']
      · rw [hp,hp',(supersededIn_keeps deviceId q').2.2] at hv
        rw [hp,hp',(supersededIn_keeps deviceId q').2.1,hdevice] at hd
        exact absurd hv.symm (hless q' hq' hd.symm).ne
    · rcases (hb p').mp hp' with hp'|⟨q',hq',hp'⟩
      · rw [hp,hp',(supersededIn_keeps deviceId q).2.2] at hv
        rw [hp,hp',(supersededIn_keeps deviceId q).2.1,hdevice] at hd
        exact absurd hv (hless q hq hd).ne
      · rw [hp,hp',(supersededIn_keeps deviceId q).2.2,(supersededIn_keeps deviceId q').2.2] at hv
        rw [hp,hp',(supersededIn_keeps deviceId q).2.1,(supersededIn_keeps deviceId q').2.1] at hd
        rw [hp,hp',h.distinct q hq q' hq' hd hv]
  · intro p hp p' hp' hd hcur
    rcases (hb p).mp hp with hp|⟨q,hq,hp⟩
    · rcases (hb p').mp hp' with hp'|⟨q',hq',hp'⟩
      · rw [hp,hp']
      · rw [hp,hp',(supersededIn_keeps deviceId q').2.1,hdevice] at hd
        rw [hp,hp',(supersededIn_keeps deviceId q').2.2]
        exact (hless q' hq' hd.symm).le
    · rw [hp] at hcur
      obtain ⟨hqc,hne,hsame⟩ := supersededIn_current hcur
      rw [hp,hsame] at hd ⊢
      rcases (hb p').mp hp' with hp'|⟨q',hq',hp'⟩
      · rw [hp',hdevice] at hd
        exact absurd hd hne
      · rw [hp',(supersededIn_keeps deviceId q').2.1] at hd
        rw [hp',(supersededIn_keeps deviceId q').2.2]
        exact h.newest q hq q' hq' hd hqc
  · intro p hp
    rcases (hb p).mp hp with hp|⟨q,hq,hp⟩
    · exact ⟨new,hin,by rw [hp],his⟩
    · rw [hp,(supersededIn_keeps deviceId q).2.1]
      by_cases hd : q.deviceId=deviceId
      · exact ⟨new,hin,by rw [hdevice,hd],his⟩
      · obtain ⟨c,hc,hcd,hcur⟩ := h.held q hq
        have hkept : supersededIn deviceId c=c := supersededIn_other fun he =>
          hd (hcd.symm.trans he)
        exact ⟨c,(hb c).mpr (Or.inr ⟨c,hc,hkept.symm⟩),hcd,hcur⟩

theorem currentProfile_ok {ps : List VpnProfile} {current : Option VpnProfile} {s t : Session}
    (h : currentProfile ps s=(.ok current,t)) : ps=current.toList ∧ t=s := by
  match ps with
  | [] =>
    cases h
    exact ⟨rfl,rfl⟩
  | [p] =>
    cases h
    exact ⟨rfl,rfl⟩
  | _::_::_ => cases h

theorem mem_markSuperseded {deviceId : Id} {db : Database} {p : VpnProfile} :
    p∈(markSuperseded deviceId db).vpnProfiles.rows ↔
      ∃ q∈db.vpnProfiles.rows,p=supersededIn deviceId q := by
  unfold markSuperseded
  rw [Store.rows_mapRows,List.mem_map]
  constructor
  · intro ⟨q,hq,he⟩
    exact ⟨q,hq,he.symm⟩
  · intro ⟨q,hq,he⟩
    exact ⟨q,hq,he.symm⟩

/-- The new profile takes the place of the superseded one. -/
theorem regenerateProfile_profile (cfg : Settings) (deviceId userId : Id) :
    Within profileFrame (regenerateProfile cfg deviceId userId) := by
  refine ((getOrCreateUserProfile_settings userId).mono profile_of_settings).bind fun p => ?_
  refine (profileAllowedIps_within userId p.mode).bind fun ips => ?_
  intro s
  apply WithinAt.reads_bind
  refine WithinAt.bind (currentProfile_within _ s) fun current t ht => ?_
  obtain ⟨hcurrent,hts⟩ := currentProfile_ok ht
  subst hts
  have hwritten : ∀ new : VpnProfile,new.id=t.serial → new.deviceId=deviceId →
      new.version=nextVersion current → new.isCurrent=true → Versioned t.serial t.db →
      Versioned (t.serial+1) {markSuperseded deviceId t.db with
        vpnProfiles := (markSuperseded deviceId t.db).vpnProfiles.insert new} := by
    intro new hid hdevice hversion his hv
    have hfresh : ∀ x∈(markSuperseded deviceId t.db).vpnProfiles.rows,x.id≠new.id := by
      intro x hx
      obtain ⟨q,hq,he⟩ := mem_markSuperseded.mp hx
      rw [he,(supersededIn_keeps deviceId q).1,hid]
      exact (hv.numbered q hq).ne
    have hlater : t.serial<t.serial+1 := Int.lt_succ _
    apply hv.replace hcurrent hlater.le (by rw [hid]; exact hlater) hdevice hversion his
    intro x
    show x∈((markSuperseded deviceId t.db).vpnProfiles.insert new).rows ↔ _
    rw [Store.mem_insert hfresh,mem_markSuperseded,or_comm]
  intro hv
  exact (flush_within profile_books).bind (fun _ => Within.pure _) _ (hwritten _ rfl rfl rfl rfl hv)

theorem profile_of_paperwork {s t : Session} (h : paperworkFrame.rel s t) :
    profileFrame.rel s t := profile_of_profiles (congrArg Database.vpnProfiles h.1 :) h.2

theorem recordAccess_profile (link : SubscriptionLink) : Within profileFrame (recordAccess link) :=
  getNow_within.bind fun _ => alter_profile fun _ => rfl

theorem runOnce_profile (asOf : Option Time) : Within profileFrame (runOnce asOf) :=
  runOnce_within (fun h => profile_of_settings (settings_of_audit h))
    (fun _ => alter_profile fun _ => rfl)
    (fun d => (disable_hosting d).mono profile_of_hosting) asOf

/-- Every request leaves each device with at most one current profile. -/
theorem handle_profile (cfg : Settings) (r : Request) : Within profileFrame (handle cfg r) := by
  cases r with
  | billing r => exact (handleBilling_clerical cfg r).mono profile_of_clerical
  | routing r => exact (handleRouting_settings _ r).mono profile_of_settings
  | servers r => exact (handleServers_hosting r).mono profile_of_hosting
  | listDevices telegramId =>
    exact (currentUser_within telegramId).bind fun _ => getDb_within.bind fun _ => Within.pure _
  | createDevice telegramId name serverId protocol =>
    have hprovision : ∀ user,Within profileFrame (provision cfg user name serverId protocol) :=
      fun user s => provision_withinAt profile_of_paperwork
        (fun _ => regenerateProfile_profile cfg s.serial user.id) name serverId
    exact (currentUser_within telegramId).bind fun user => (hprovision user).bind fun _ =>
      Within.pure _
  | device telegramId deviceId r =>
    exact (currentUser_within telegramId).bind fun _ => (getOwned_within _ _).bind fun device =>
      handleDevice_within profile_of_paperwork
        fun _ => regenerateProfile_profile cfg device.id device.userId
  | fetchSubscription token =>
    exact (deliver_within recordAccess_profile token).bind fun _ => Within.pure _
  | sweep asOf => exact (runOnce_profile asOf).bind fun _ => Within.pure _

theorem after_versioned {cfg : Settings} {w : World} {c : Call} (hsound : Sound w)
    (hw : Versioned w.serial w.db) : Versioned (after cfg w c).serial (after cfg w c).db := by
  unfold after
  rcases serve_cases cfg c.env c.request w with ⟨a,s,hm,hserve⟩|⟨x,e,s,hm,hserve⟩
  · rw [hserve]
    exact (handle_profile cfg c.request ⟨w,c.env⟩).rel_of_run hm hw
  · rw [hserve]
    exact hw.of_profiles rfl (handle_serial cfg c.request (s := ⟨w,c.env⟩) hsound hm)

theorem reachable_versioned {cfg : Settings} {w : World} (h : Reachable cfg w) :
    Versioned w.serial w.db := by
  have hboth : Sound w ∧ Versioned w.serial w.db := by
    apply h.invariant (fun w => Sound w ∧ Versioned w.serial w.db)
    · refine ⟨sound_initial,?_⟩
      constructor <;> intro p hp <;> cases hp
    · exact fun w c ⟨hsound,hw⟩ => ⟨after_sound hsound,after_versioned hsound hw⟩
  exact hboth.2

theorem reachable_oneCurrent {cfg : Settings} {w : World} (h : Reachable cfg w) :
    OneCurrent w.db := (reachable_versioned h).oneCurrent

end VpnService.Backend
