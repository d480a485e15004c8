import VpnService.Backend.ConfigText
import VpnService.Backend.DomainNames
import VpnService.Backend.Profiles

namespace VpnService.Backend

/-- The profile has the configured DNS and addresses on one line each. -/
structure Drawn (cfg : Settings) (p : VpnProfile) : Prop where
  dns : p.dns=cfg.vpnDnsList
  allowed : ∀ x∈p.allowedIps,OneLine x

/-- What the engine answers and the profiles that are stored can be drawn. -/
structure Drawable (cfg : Settings) (s : Session) : Prop where
  engine : s.toEnv.Networks
  profiles : ∀ p∈s.db.vpnProfiles.rows,Drawn cfg p

abbrev drawing (cfg : Settings) : Frame Session := Frame.preserving (Drawable cfg)

section

variable {cfg : Settings} {s t : Session}

theorem drawing_of_profiles (hengine : t.allowedIps=s.allowedIps)
    (hrows : t.db.vpnProfiles=s.db.vpnProfiles) : (drawing cfg).rel s t := by
  intro h
  refine ⟨?_,?_⟩
  · unfold Env.Networks
    rw [hengine]
    exact h.engine
  · rw [hrows]
    exact h.profiles

theorem drawing_books : Bookkeeping (drawing cfg) :=
  ⟨fun _ => drawing_of_profiles rfl rfl,fun _ _ => drawing_of_profiles rfl rfl⟩

theorem alter_drawing {f : Database → Database} (h : ∀ db,(f db).vpnProfiles=db.vpnProfiles) :
    Within (drawing cfg) (alter f) := alter_within fun s => drawing_of_profiles rfl (h s.db)

/-- What makes no lookups keeps the engine. -/
theorem Lookupless.drawing {α : Type} {m : Req α} (h : Lookupless m)
    (hrows : Within (.keeping fun s : Session => s.db.vpnProfiles) m) :
    Within (drawing cfg) m := by
  intro s
  have hview := h.within s
  have hkept := congrArg Prod.snd hview.1
  exact drawing_of_profiles hkept (hrows s)

theorem profiles_of_settings (h : settingsFrame.rel s t) : t.db.vpnProfiles=s.db.vpnProfiles := by
  have hview := h.1
  simp only [Prod.mk.injEq] at hview
  exact hview.2.2

theorem profiles_of_hosting (h : hostingFrame.rel s t) : t.db.vpnProfiles=s.db.vpnProfiles := by
  have hview := h.1
  simp only [Prod.mk.injEq] at hview
  exact profiles_of_routing hview.2.2

theorem profiles_of_paperwork (h : paperworkFrame.rel s t) :
    t.db.vpnProfiles=s.db.vpnProfiles := (congrArg Database.vpnProfiles h.1 :)

theorem Lookupless.drawing_paperwork {α : Type} {m : Req α} (h : Lookupless m)
    (hpaper : Within paperworkFrame m) : Within (Backend.drawing cfg) m :=
  h.drawing (hpaper.mono profiles_of_paperwork)

/-- The addresses of a new profile are the engine's or the whole internet. -/
theorem profileAllowedIps_oneLine {userId : Id} {mode : RoutingMode} {ips : List String}
    (hs : s.toEnv.Networks) (h : profileAllowedIps userId mode s=(.ok ips,t)) :
    ∀ x∈ips,OneLine x := by
  have hfull : ∀ x∈fullVpnAllowedIps,OneLine x := by decide
  cases mode with
  | fullVpn =>
    cases h
    exact hfull
  | smartVpn =>
    obtain ⟨allowed,hanswer,h⟩ := Eff.orRaise_bind_ok.mp h
    cases h
    by_cases hnone : allowed=[]
    · rw [if_pos hnone]
      exact hfull
    · rw [if_neg hnone]
      intro x hx
      obtain ⟨n,hn⟩ := hs _ _ hanswer x hx
      rw [← hn]
      exact n.text_oneLine

theorem regenerateProfile_drawing (deviceId userId : Id) :
    Within (drawing cfg) (regenerateProfile cfg deviceId userId) := by
  have hmode : Within (drawing cfg) (getOrCreateUserProfile userId) :=
    (Lookupless.getOrCreateUserProfile userId).drawing
      ((getOrCreateUserProfile_settings userId).mono profiles_of_settings)
  refine hmode.bind fun profile s => ?_
  refine WithinAt.bind (profileAllowedIps_within userId profile.mode s) fun ips t hips => ?_
  have hts : t=s := (profileAllowedIps_within userId profile.mode s).still_run hips
  subst hts
  apply WithinAt.reads_bind
  refine WithinAt.bind (currentProfile_within _ t) fun current u hu => ?_
  have hut : u=t := (currentProfile_within _ t).still_run hu
  subst hut
  intro h
  have hdrawn : ∀ new : VpnProfile,new.dns=cfg.vpnDnsList → new.allowedIps=ips →
      ∀ p∈((markSuperseded deviceId u.db).vpnProfiles.insert new).rows,Drawn cfg p := by
    intro new hdns hnew p hp
    have hold : ∀ q∈(markSuperseded deviceId u.db).vpnProfiles.rows,Drawn cfg q := by
      intro q hq
      obtain ⟨x,hx,he⟩ := mem_markSuperseded.mp hq
      have hkept : q.dns=x.dns ∧ q.allowedIps=x.allowedIps := by
        rw [he]
        unfold supersededIn
        split_ifs
        · exact ⟨rfl,rfl⟩
        · exact ⟨rfl,rfl⟩
      have hx := h.profiles x hx
      exact ⟨hkept.1.trans hx.dns,hkept.2 ▸ hx.allowed⟩
    rcases Store.mem_of_insert hp with hp|hp
    · exact hold p hp
    · subst hp
      exact ⟨hdns,hnew ▸ profileAllowedIps_oneLine h.engine hips⟩
  exact (flush_within drawing_books).bind (fun _ => Within.pure _) _
    ⟨h.engine,hdrawn _ rfl rfl⟩

theorem createPeerAttempts_drawing (deviceId : Id) (server : VpnServer) (n : Nat) :
    Within (drawing cfg) (createPeerAttempts cfg deviceId server n) :=
  (Lookupless.createPeerAttempts cfg deviceId server n).drawing_paperwork
    ((createPeerAttempts_equipment cfg deviceId server n).mono paperwork_of_equipment)

theorem reissue_drawing (device : Device) : Within (drawing cfg) (reissue cfg device) := by
  have hretire : ∀ server,Within (drawing cfg) (withActivePeer device.id (retirePeer server)) :=
    fun server => (Lookupless.retirePeer device.id server).drawing_paperwork
      ((withActivePeer_within _ fun p => retirePeer_equipment server p).mono paperwork_of_equipment)
  exact (Within.require _ _).bind fun _ => (serverOfDevice_within device).bind fun server =>
    (hretire server).bind fun _ => (createPeerAttempts_drawing device.id server 5).bind fun _ =>
    Within.bind (alter_drawing fun _ => rfl) fun _ =>
    (regenerateProfile_drawing device.id device.userId).bind fun _ =>
    (generateQrCode_within _).bind fun _ => (refreshed_within _).bind fun _ => Within.pure _

theorem provision_drawing (user : User) (name : String) (requested : Option Id) :
    Within (drawing cfg) (provision cfg user name requested .wireguard) := by
  have hdevice : Within (drawing cfg) (addDevice user.id name none .wireguard) :=
    (Lookupless.addDevice user.id name none .wireguard).drawing_paperwork
      (addDevice_paperwork user.id name none .wireguard)
  have hlink : ∀ d,Within (drawing cfg) (createOrRotate d) := fun d =>
    (Lookupless.createOrRotate d).drawing_paperwork (createOrRotate_paperwork d)
  exact (enforceDeviceLimit_within user.id).bind fun _ =>
    (chooseServer_within requested .wireguard).bind fun server => hdevice.bind fun device =>
    (hlink device.id).bind fun _ => (createPeerAttempts_drawing device.id server 5).bind fun _ =>
    Within.bind (alter_drawing fun _ => rfl) fun _ => Within.bind (alter_drawing fun _ => rfl) fun _ =>
    (regenerateProfile_drawing device.id user.id).bind fun _ =>
    (generateQrCode_within _).bind fun _ => (generateQrCode_within _).bind fun _ =>
    (refreshed_within device).bind fun _ => Within.pure _

/-- Only a new profile is written to the profiles. -/
theorem handle_drawn {r : Request} {a : Response} (h : Drawable cfg s)
    (hrun : handle cfg r s=(.ok a,t)) : ∀ p∈t.db.vpnProfiles.rows,Drawn cfg p := by
  have hkept : t.db.vpnProfiles=s.db.vpnProfiles → ∀ p∈t.db.vpnProfiles.rows,Drawn cfg p := by
    intro hrows
    rw [hrows]
    exact h.profiles
  cases r with
  | billing r =>
    have hview := ((handleBilling_clerical cfg r s).rel_of_run hrun).1
    simp only [Prod.mk.injEq] at hview
    exact hkept (profiles_of_routing hview.2)
  | routing r => exact hkept (profiles_of_settings ((handleRouting_settings _ r s).rel_of_run hrun))
  | servers r => exact hkept (profiles_of_hosting ((handleServers_hosting r s).rel_of_run hrun))
  | listDevices telegramId =>
    have hw : Within Frame.still (handle cfg (.listDevices telegramId)) :=
      (currentUser_within telegramId).bind fun _ => getDb_within.bind fun _ => Within.pure _
    rw [(hw s).still_run hrun]
    exact h.profiles
  | createDevice telegramId name requested protocol =>
    rcases handleCreateDevice_run cfg telegramId name requested protocol s with
      ⟨e,he⟩|⟨user,_,he⟩
    · rw [handle,he] at hrun
      cases hrun
    · rw [handle,he] at hrun
      obtain ⟨result,u,hu,hrun⟩ := Eff.bind_ok.mp hrun
      cases hrun
      cases protocol with
      | wireguard => exact ((provision_drawing user name requested s).rel_of_run hu h).profiles
      | vless =>
        have hpaper : WithinAt paperworkFrame (provision cfg user name requested .vless) s :=
          provision_withinAt (fun h => h) (fun he => by cases he) name requested
        exact hkept (profiles_of_paperwork (hpaper.rel_of_run hu))
  | device telegramId j op =>
    rcases handleOwned_run cfg telegramId j op s with ⟨e,he⟩|⟨user,device,_,hget,_,he⟩
    · rw [handle,he] at hrun
      cases hrun
    · rw [handle,he] at hrun
      by_cases hop : op=.reissue ∨ op=.refreshProfile
      · have hdraws : Within (drawing cfg) (handleDevice cfg device op) := by
          rcases hop with hop|hop
          · subst hop
            exact (reissue_drawing device).bind fun _ => Within.pure _
          · subst hop
            exact (regenerateProfile_drawing device.id device.userId).bind fun _ => Within.pure _
        exact ((hdraws s).rel_of_run hrun h).profiles
      · have hpaper : Within paperworkFrame (handleDevice cfg device op) :=
          handleDevice_within (fun h => h) fun he => absurd he hop
        exact hkept (profiles_of_paperwork ((hpaper s).rel_of_run hrun))
  | fetchSubscription token =>
    have hw : Within (drawing cfg) (handle cfg (.fetchSubscription token)) :=
      (deliver_within (fun _ => getNow_within.bind fun _ => alter_drawing fun _ => rfl) token).bind
        fun _ => Within.pure _
    exact ((hw s).rel_of_run hrun h).profiles
  | sweep asOf =>
    have hw : Within (Frame.keeping fun s : Session => s.db.vpnProfiles) (handle cfg (.sweep asOf)) :=
      (runOnce_within (fun h => profiles_of_settings (settings_of_audit h))
        (fun _ => alter_within fun _ => rfl)
        (fun d => (disable_hosting d).mono profiles_of_hosting) asOf).bind fun _ => Within.pure _
    exact hkept ((hw s).rel_of_run hrun)

theorem after_drawn {w : World} {c : Call} (hengine : c.env.Networks)
    (h : ∀ p∈w.db.vpnProfiles.rows,Drawn cfg p) :
    ∀ p∈(after cfg w c).db.vpnProfiles.rows,Drawn cfg p := by
  unfold after
  rcases serve_cases cfg c.env c.request w with ⟨a,s,hm,hserve⟩|⟨x,e,s,hm,hserve⟩
  · rw [hserve]
    exact handle_drawn (s := ⟨w,c.env⟩) ⟨hengine,h⟩ hm
  · rw [hserve]
    exact h

/-- Where the engine answers with networks, every profile of a run can be drawn. -/
theorem run_drawn {cs : List Call} (hengine : ∀ c∈cs,c.env.Networks) :
    ∀ p∈(cs.foldl (after cfg) .initial).db.vpnProfiles.rows,Drawn cfg p := by
  have hfrom : ∀ w : World,(∀ p∈w.db.vpnProfiles.rows,Drawn cfg p) →
      ∀ p∈(cs.foldl (after cfg) w).db.vpnProfiles.rows,Drawn cfg p := by
    induction cs with
    | nil => exact fun _ h => h
    | cons c cs ih =>
      intro w h
      have hnext := after_drawn (hengine c List.mem_cons_self) h
      exact ih (fun x hx => hengine x (List.mem_cons_of_mem c hx)) _ hnext
  exact hfrom _ fun p hp => by cases hp

end

end VpnService.Backend
