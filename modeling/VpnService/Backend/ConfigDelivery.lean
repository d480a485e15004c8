import VpnService.Backend.DrawnProfiles
import VpnService.Backend.Accord
import VpnService.Backend.Delivery
import VpnService.Backend.Homing
import VpnService.Backend.Ownership

namespace VpnService.Backend

/-- The peers of device `d` at server `k` stand, its profiles too, and the server but for its
load. -/
structure Upheld (d k : Id) (a b : Database) : Prop where
  peers : ∀ p∈a.vpnPeers.rows,p.deviceId=d → p.serverId=k → p∈b.vpnPeers.rows
  profiles : ∀ p∈a.vpnProfiles.rows,p.deviceId=d → p∈b.vpnProfiles.rows
  server : ∀ x,a.vpnServers.get? k=some x →
    ∃ y,b.vpnServers.get? k=some y ∧ y.unloaded=x.unloaded

def upholding (d k : Id) : Frame Session where
  rel s t := Upheld d k s.db t.db
  refl _ := ⟨fun _ h _ _ => h,fun _ h _ => h,fun x h => ⟨x,h,rfl⟩⟩
  trans h j := ⟨fun p hp hd hk => j.peers p (h.peers p hp hd hk) hd hk,
    fun p hp hd => j.profiles p (h.profiles p hp hd) hd,fun x hx => by
      obtain ⟨y,hy,hxy⟩ := h.server x hx
      obtain ⟨z,hz,hyz⟩ := j.server y hy
      exact ⟨z,hz,hyz.trans hxy⟩⟩

section

variable {d k : Id} {s t : Session}

theorem upholding_of_tables (hp : t.db.vpnPeers=s.db.vpnPeers)
    (hr : t.db.vpnProfiles=s.db.vpnProfiles) (hs : t.db.vpnServers=s.db.vpnServers) :
    (upholding d k).rel s t :=
  ⟨fun _ h _ _ => hp ▸ h,fun _ h _ => hr ▸ h,fun x h => ⟨x,hs ▸ h,rfl⟩⟩

theorem upholding_books : Bookkeeping (upholding d k) :=
  ⟨fun _ => upholding_of_tables rfl rfl rfl,fun _ _ => upholding_of_tables rfl rfl rfl⟩

theorem alter_upholding {f : Database → Database}
    (h : ∀ db,((f db).vpnPeers,(f db).vpnProfiles,(f db).vpnServers)=
      (db.vpnPeers,db.vpnProfiles,db.vpnServers)) : Within (upholding d k) (alter f) := by
  refine alter_within fun s => ?_
  have hview := h s.db
  simp only [Prod.mk.injEq] at hview
  exact upholding_of_tables hview.1 hview.2.1 hview.2.2

theorem upholding_of_settings (h : settingsFrame.rel s t) : (upholding d k).rel s t := by
  have hview := h.1
  simp only [fleetView,Prod.mk.injEq] at hview
  exact upholding_of_tables hview.2.1.2.2.2.1 hview.2.2 hview.2.1.1

theorem upholding_of_audit (h : auditFrame.rel s t) : (upholding d k).rel s t :=
  upholding_of_settings (settings_of_audit h)

theorem upholding_of_clerical (h : clericalFrame.rel s t) : (upholding d k).rel s t := by
  have hview := h.1
  simp only [fleetView,routingView,Prod.mk.injEq] at hview
  exact upholding_of_tables hview.1.2.2.2.1 hview.2.2.2.2.2.2 hview.1.1

theorem upholding_of_nodes (h : nodesFrame.rel s t) (hr : t.db.vpnProfiles=s.db.vpnProfiles) :
    (upholding d k).rel s t := by
  have hview := h.1
  simp only [Prod.mk.injEq] at hview
  exact upholding_of_tables hview.1 hr hview.2

/-- An operation on another device. -/
theorem upholding_of_touched {j u : Id} (h : DbTouched j s.db t.db)
    (hr : PaperTouched j u s.db t.db) (hne : d≠j) : (upholding d k).rel s t := by
  refine ⟨fun p hp hd _ => (h.peers p (by rw [hd]; exact hne)).mpr hp,
    fun p hp hd => (hr.profiles p (by rw [hd]; exact hne)).mpr hp,fun x hx => ?_⟩
  have hserver := h.servers k
  rw [hx] at hserver
  exact Option.map_eq_some_iff.mp hserver

theorem disable_upholding (device : Device) : Within (upholding d k) (disable device) := by
  intro s
  have hview := (disable_hosting device s).1
  simp only [routingView,Prod.mk.injEq] at hview
  exact upholding_of_nodes (disable_nodes device s) hview.2.2.2.2.2.2.2

theorem dropServer_upholding {j : Id} (h : j≠k) :
    Within (upholding d k) (alter (dropServer j)) := by
  refine alter_within fun s => ⟨fun p hp _ hpk => ?_,fun p hp _ => hp,fun x hx => ⟨x,?_,rfl⟩⟩
  · show p∈(s.db.vpnPeers.deleteWhere fun p => p.serverId=j).rows
    rw [Store.rows_deleteWhere,List.mem_filter]
    exact ⟨hp,by simpa [hpk] using h.symm⟩
  · show (s.db.vpnServers.delete j).get? k=some x
    rw [Store.get?_delete,if_neg h.symm]
    exact hx

end

/-- Whether the request edits or deletes server `k`. -/
def ServerRequest.edits (k : Id) : ServerRequest → Bool
  | .updateServer _ j _ | .deleteServer _ j | .updateVlessServer _ j _ | .deleteVlessServer _ j =>
    j=k
  | _ => false

section

variable {d k : Id} {s t : Session}

/-- Writes that leave row `k` of the servers. -/
theorem writeServers_upholding {f : Store VpnServer.id → Store VpnServer.id}
    (g : Store VlessServerConfig.id → Store VlessServerConfig.id)
    (hf : ∀ table x,table.get? k=some x → (f table).get? k=some x) :
    Within (upholding d k) (alter fun db => {db with
      vpnServers := f db.vpnServers
      vlessServerConfigs := g db.vlessServerConfigs}) :=
  alter_within fun _ => ⟨fun _ h _ _ => h,fun _ h _ => h,fun x hx => ⟨x,hf _ x hx,rfl⟩⟩

theorem getVlessServer_ok {serverId : Id} {found : VpnServer×VlessServerConfig}
    (h : getVlessServer serverId s=(.ok found,t)) :
    s=t ∧ s.db.vpnServers.get? serverId=some found.1 := by
  unfold getVlessServer at h
  rw [getDb_bind_run] at h
  obtain ⟨server,hserver,h⟩ := Eff.orRaise_bind_ok.mp h
  obtain ⟨config,_,h⟩ := Eff.orRaise_bind_ok.mp h
  cases h
  exact ⟨rfl,(Option.filter_eq_some_iff.mp hserver).1⟩

theorem handleServers_upholding {r : ServerRequest} {a : Response} (h : r.edits k=false)
    (hrun : handleServers r s=(.ok a,t)) : (upholding d k).rel s t := by
  have hlog : ∀ adminId action targetType targetId metadata,
      Within (upholding d k) (recordAudit adminId action targetType targetId metadata) :=
    fun _ _ _ _ _ => (audit_written _ _ _ _ _).mono upholding_of_audit
  have hflush : Within (upholding d k) flush := flush_within upholding_books
  have hinsert : ∀ (server : VpnServer) (table : Store VpnServer.id) x,table.get? k=some x →
      (table.insert server).get? k=some x := fun _ table _ hx => table.get?_insert_kept hx
  have hmodify : ∀ {j : Id} (payload : VpnServerUpdate),j≠k →
      ∀ (table : Store VpnServer.id) x,table.get? k=some x →
      (table.modify j (updatedServer payload) (updatedServer_id payload)).get? k=some x := by
    intro j payload hj table x hx
    rw [Store.get?_modify_ne _ _ _ hj.symm]
    exact hx
  cases r with
  | createServer adminId payload =>
    have hcreate : Within (upholding d k) (createServer payload) :=
      (nextSerial_within upholding_books).bind fun _ => Within.bind
        (writeServers_upholding id (hinsert _)) fun _ => hflush.bind fun _ => Within.pure _
    exact ((hcreate.bind fun _ => (hlog _ _ _ _ _).bind fun _ => Within.pure _) s).rel_of_run hrun
  | updateServer adminId serverId payload =>
    have hne : serverId≠k := by simpa [ServerRequest.edits] using h
    obtain ⟨_,u,hu,hrun⟩ := Eff.bind_ok.mp hrun
    obtain ⟨server,v,hv,hu⟩ := Eff.bind_ok.mp hu
    obtain ⟨hsv,hget⟩ := getServer_ok hv
    subst hsv
    have hid : server.id=serverId := Store.key_of_get? hget
    have hupdate : Within (upholding d k) (do
        alter fun db => {db with
          vpnServers := db.vpnServers.modify server.id (updatedServer payload) fun _ => rfl}
        flush) := Within.bind (writeServers_upholding id (hmodify payload (hid ▸ hne))) fun _ => hflush
    exact (upholding d k).trans ((hupdate s).rel_of_run hu)
      ((((hlog _ _ _ _ _).bind fun _ => Within.pure _) u).rel_of_run hrun)
  | deleteServer adminId serverId =>
    have hne : serverId≠k := by simpa [ServerRequest.edits] using h
    obtain ⟨_,u,hu,hrun⟩ := Eff.bind_ok.mp hrun
    obtain ⟨server,v,hv,hu⟩ := Eff.bind_ok.mp hu
    obtain ⟨hsv,hget⟩ := getServer_ok hv
    subst hsv
    have hid : server.id=serverId := Store.key_of_get? hget
    exact (upholding d k).trans ((dropServer_upholding (hid ▸ hne) s).rel_of_run hu)
      ((((hlog _ _ _ _ _).bind fun _ => Within.pure _) u).rel_of_run hrun)
  | createVlessServer adminId payload =>
    have hcreate : Within (upholding d k) (createVlessServer payload) :=
      (nextSerial_within upholding_books).bind fun _ => Within.bind
        (writeServers_upholding id (hinsert _)) fun _ => hflush.bind fun _ =>
        (nextSerial_within upholding_books).bind fun _ => Within.bind
        (writeServers_upholding (fun x => x.insert _) fun _ _ hx => hx) fun _ =>
        hflush.bind fun _ => Within.pure _
    exact ((hcreate.bind fun _ => (hlog _ _ _ _ _).bind fun _ => Within.pure _) s).rel_of_run hrun
  | updateVlessServer adminId serverId payload =>
    have hne : serverId≠k := by simpa [ServerRequest.edits] using h
    obtain ⟨_,u,hu,hrun⟩ := Eff.bind_ok.mp hrun
    obtain ⟨found,v,hv,hu⟩ := Eff.bind_ok.mp hu
    obtain ⟨hsv,hget⟩ := getVlessServer_ok hv
    subst hsv
    have hid : found.1.id=serverId := Store.key_of_get? hget
    have hupdate : Within (upholding d k) (do
        alter fun db => {db with
          vpnServers := db.vpnServers.modify found.1.id (updatedServer payload.toVpnServerUpdate)
            fun _ => rfl
          vlessServerConfigs :=
            db.vlessServerConfigs.modify found.2.id (updatedConfig payload) fun _ => rfl}
        flush
        flush) :=
      Within.bind (writeServers_upholding (fun x => x.modify _ _ _) (hmodify _ (hid ▸ hne))) fun _ =>
        hflush.bind fun _ => hflush
    exact (upholding d k).trans ((hupdate s).rel_of_run hu)
      ((((hlog _ _ _ _ _).bind fun _ => Within.pure _) u).rel_of_run hrun)
  | deleteVlessServer adminId serverId =>
    have hne : serverId≠k := by simpa [ServerRequest.edits] using h
    obtain ⟨_,u,hu,hrun⟩ := Eff.bind_ok.mp hrun
    obtain ⟨found,v,hv,hu⟩ := Eff.bind_ok.mp hu
    obtain ⟨hsv,hget⟩ := getVlessServer_ok hv
    subst hsv
    have hid : found.1.id=serverId := Store.key_of_get? hget
    exact (upholding d k).trans ((dropServer_upholding (hid ▸ hne) s).rel_of_run hu)
      ((((hlog _ _ _ _ _).bind fun _ => Within.pure _) u).rel_of_run hrun)

end

/-- Whether the request makes a new profile or retires the peer of device `d`, or edits server
`k`. -/
def Request.redraws (d k : Id) : Request → Bool
  | .device _ j .reissue | .device _ j .revoke | .device _ j .refreshProfile => j=d
  | .servers r => r.edits k
  | _ => false

/-- A request that redraws nothing of the device leaves what its config was drawn from. -/
theorem handle_upholding {cfg : Settings} {r : Request} {s t : Session} {a : Response} {d k : Id}
    (hs : Sound s.toWorld) (hd : d<s.serial) (hr : r.redraws d k=false)
    (hrun : handle cfg r s=(.ok a,t)) : (upholding d k).rel s t := by
  have hrel : Within (upholding d k) (handle cfg r) → (upholding d k).rel s t :=
    fun hw => (hw s).rel_of_run hrun
  cases r with
  | billing r => exact hrel ((handleBilling_clerical cfg r).mono upholding_of_clerical)
  | routing r => exact hrel ((handleRouting_settings _ r).mono upholding_of_settings)
  | servers r => exact handleServers_upholding hr hrun
  | listDevices telegramId =>
    exact hrel ((currentUser_within telegramId).bind fun _ => getDb_within.bind fun _ =>
      Within.pure _)
  | createDevice telegramId name requested protocol =>
    rcases handleCreateDevice_run cfg telegramId name requested protocol s with
      ⟨e,he⟩|⟨user,_,he⟩
    · rw [handle,he] at hrun
      cases hrun
    · rw [handle,he] at hrun
      obtain ⟨result,u,hu,hrun⟩ := Eff.bind_ok.mp hrun
      cases hrun
      have ht := (provision_touching cfg user name requested protocol
        (hs.covers s.serial)).rel_of_run hu (Scope.of_fits _ s)
      have hpaper := (provision_withinAt paperTouching_of_paperwork
        (fun _ => regenerateProfile_paper (d := s.serial) (u := user.id) cfg) name
        requested).rel_of_run hu
      exact upholding_of_touched ht.db hpaper hd.ne
  | device telegramId j op =>
    rcases handleOwned_run cfg telegramId j op s with ⟨e,he⟩|⟨user,device,_,hget,_,he⟩
    · rw [handle,he] at hrun
      cases hrun
    · rw [handle,he] at hrun
      have hid : device.id=j := Store.key_of_get? hget
      by_cases hj : d=device.id
      · have hjd : j=d := hid.symm.trans hj.symm
        have hop : op≠.reissue ∧ op≠.revoke ∧ op≠.refreshProfile := by
          refine ⟨?_,?_,?_⟩
          all_goals
            intro hop
            subst hop
            simp [Request.redraws,hjd] at hr
        have hpapers : Within paperworkFrame (handleDevice cfg device op) :=
          handleDevice_within (fun h => h) fun h => absurd h (not_or.mpr ⟨hop.1,hop.2.2⟩)
        have hpaper := (hpapers s).rel_of_run hrun
        exact upholding_of_nodes
          ((handleDevice_nodes cfg device op hop.1 hop.2.1 s).rel_of_run hrun)
          (congrArg Database.vpnProfiles hpaper.1 :)
      · have ht := (handleDevice_touching cfg (hs.covers device.id) op).rel_of_run hrun
          (Scope.of_fits _ s)
        have hpaper := (handleDevice_within paperTouching_of_paperwork (r := op) (fun _ =>
          regenerateProfile_paper (d := device.id) (u := device.userId) cfg) s).rel_of_run hrun
        exact upholding_of_touched ht.db hpaper hj
  | fetchSubscription token =>
    have haccess : ∀ link,Within (upholding d k) (recordAccess link) := fun _ =>
      getNow_within.bind fun _ => alter_upholding fun _ => rfl
    exact hrel ((deliver_within haccess token).bind fun _ => Within.pure _)
  | sweep asOf =>
    exact hrel ((runOnce_within upholding_of_audit (fun _ => alter_upholding fun _ => rfl)
      disable_upholding asOf).bind fun _ => Within.pure _)

/-- What a config of the device at server `k` is drawn from: its active peer there, its current
profile and the server. -/
structure Source (cfg : Settings) (db : Database) (d k : Id) (content : QrContent)
    (p : VpnPeer) (x : VpnServer) (profile : VpnProfile) : Prop where
  peer : p∈db.vpnPeers.rows
  onDevice : p.deviceId=d
  onServer : p.serverId=k
  active : p.status=.active
  row : profile∈db.vpnProfiles.rows
  drawnFor : profile.deviceId=d
  current : profile.isCurrent=true
  dns : profile.dns=cfg.vpnDnsList
  server : db.vpnServers.get? k=some x
  config : content=clientConfig cfg (issuedTo cfg x p) profile

/-- The config is drawn from rows that stand. -/
def Grounded (cfg : Settings) (db : Database) (d k : Id) (content : QrContent) : Prop :=
  ∃ p x profile,Source cfg db d k content p x profile

section

variable {cfg : Settings} {d k : Id} {content : QrContent} {w : World}

theorem issuedTo_congr {x y : VpnServer} (h : y.unloaded=x.unloaded) (p : VpnPeer) :
    issuedTo cfg y p=issuedTo cfg x p := by
  have hkey : y.publicKey=x.publicKey := (congrArg VpnServer.publicKey h :)
  have hendpoint : y.endpoint=x.endpoint := (congrArg VpnServer.endpoint h :)
  unfold issuedTo
  rw [hkey,hendpoint]

theorem Grounded.later {a b : Database} (h : Grounded cfg a d k content)
    (hkept : Upheld d k a b) : Grounded cfg b d k content := by
  obtain ⟨p,x,profile,hsource⟩ := h
  obtain ⟨y,hy,hxy⟩ := hkept.server x hsource.server
  exact ⟨p,y,profile,{hsource with
    peer := hkept.peers p hsource.peer hsource.onDevice hsource.onServer
    row := hkept.profiles profile hsource.row hsource.drawnFor
    server := hy
    config := by rw [hsource.config,issuedTo_congr hxy]}⟩

theorem Grounded.device (h : Grounded cfg w.db d k content) (hs : Sound w) :
    ∃ device,w.db.devices.get? d=some device ∧ device.protocol=.wireguard := by
  obtain ⟨p,_,_,hsource⟩ := h
  obtain ⟨device,hget,hprotocol,_⟩ := hs.consistent.peerDevices p hsource.peer
  rw [hsource.onDevice] at hget
  exact ⟨device,hget,hprotocol⟩

/-- The call, if it is answered, redraws nothing of the device's config. -/
def Call.keepsConfig (cfg : Settings) (d k : Id) (w : World) (c : Call) : Prop :=
  answered cfg w c=true → c.request.redraws d k=false

instance (cfg : Settings) (d k : Id) (w : World) (c : Call) :
    Decidable (c.keepsConfig cfg d k w) := inferInstanceAs (Decidable (_ → _))

theorem after_grounded {c : Call} (hs : Sound w) (hkeep : c.keepsConfig cfg d k w)
    (h : Grounded cfg w.db d k content) : Grounded cfg (after cfg w c).db d k content := by
  unfold Call.keepsConfig answered at hkeep
  unfold after
  obtain ⟨device,hget,_⟩ := h.device hs
  have hid : device.id=d := Store.key_of_get? hget
  have hbelow : d<w.serial := hid ▸ hs.consistent.devices device (Store.mem_of_get? hget)
  rcases serve_cases cfg c.env c.request w with ⟨a,s,hm,hserve⟩|⟨x,e,s,hm,hserve⟩
  · rw [hserve] at hkeep ⊢
    have hupheld : (upholding d k).rel ⟨w,c.env⟩ s :=
      handle_upholding (s := ⟨w,c.env⟩) hs hbelow (hkeep rfl) hm
    exact h.later hupheld
  · rw [hserve]
    exact h

/-- The rows a config was drawn from stand through a run that redraws nothing. -/
theorem run_grounded {cs : List Call} (hw : Reachable cfg w)
    (hrun : Conducted (fun w c => c.keepsConfig cfg d k w) (after cfg) w cs)
    (h : Grounded cfg w.db d k content) :
    Grounded cfg (cs.foldl (after cfg) w).db d k content := by
  have hboth : Reachable cfg (cs.foldl (after cfg) w) ∧
      Grounded cfg (cs.foldl (after cfg) w).db d k content :=
    invariant_of_conducted (fun w => Reachable cfg w ∧ Grounded cfg w.db d k content)
      (fun v c hv hkeep => ⟨hv.1.after c,after_grounded (reachable_sound hv.1) hkeep hv.2⟩)
      w cs ⟨hw,h⟩ hrun
  exact hboth.2

theorem Issued.grounded {r : ProvisionedDevice} {db : Database} {server : VpnServer}
    {p : VpnPeer} {profile : VpnProfile} (h : Issued cfg d r db server p profile)
    (hcontent : r.configText=some content) : Grounded cfg db d server.id content := by
  obtain ⟨x,hx,hxs⟩ := Option.map_eq_some_iff.mp h.host
  have hmem : profile∈db.currentProfiles d := by rw [h.current]; exact List.mem_cons_self
  obtain ⟨hrow,hdevice,hcurrent⟩ := mem_currentProfiles.mp hmem
  have hsame : content=clientConfig cfg (issuedTo cfg server p) profile :=
    Option.some.inj (hcontent.symm.trans h.config)
  exact ⟨p,x,profile,h.peer,h.onDevice,h.onServer,h.active,hrow,hdevice,hcurrent,h.dns,hx,
    by rw [hsame,issuedTo_congr hxs]⟩

/-- Whether the request provisions a device or reissues its peer. -/
def Request.issues : Request → Bool
  | .createDevice _ _ _ _ | .device _ _ .reissue => true
  | _ => false

/-- A config that is handed out is drawn from the rows the request leaves. -/
theorem after_issued {c : Call} {r : ProvisionedDevice} (hw : Reachable cfg w)
    (hissues : c.request.issues=true)
    (hanswer : (serve cfg c.env c.request w).1=.ok (.provisioned r))
    (hcontent : r.configText=some content) :
    ∃ k,r.device.serverId=some k ∧ Grounded cfg (after cfg w c).db r.device.id k content := by
  obtain ⟨tokens,hcustody⟩ := reachable_custody hw
  have hcons := (reachable_sound hw).consistent
  have hprofiles : ∀ p∈w.db.vpnProfiles.rows,p.id<w.serial := (reachable_versioned hw).numbered
  have hpeers : ∀ p∈w.db.vpnPeers.rows,p.id<w.serial := fun p hp => (hcons.peerNumbers p hp).1
  have hlinks : ∀ l∈w.db.subscriptionLinks.rows,l.id<w.serial := fun l hl =>
    (hcustody.rows l hl).1
  have hnext : Consistent (after cfg w c).serial (after cfg w c).db :=
    (reachable_sound (hw.after c)).consistent
  unfold after at hnext ⊢
  rcases serve_cases cfg c.env c.request w with ⟨a,s,hm,hserve⟩|⟨x,e,s,hm,hserve⟩
  · rw [hserve] at hanswer hnext ⊢
    have hdraws : ∀ {d : Id} {server : VpnServer} {p : VpnPeer} {profile : VpnProfile},
        Issued cfg d r s.db server p profile → r.device.serverId=some server.id ∧
          Grounded cfg s.db r.device.id server.id content := by
      intro d server p profile hissued
      have hid : r.device.id=d := Store.key_of_get? hissued.row
      obtain ⟨row,hrow,_,hhome⟩ := hnext.peerDevices p hissued.peer
      rw [hissued.onDevice,hissued.row] at hrow
      cases hrow
      rw [hid]
      exact ⟨hissued.onServer ▸ hhome hissued.active,hissued.grounded hcontent⟩
    have ha : a=.provisioned r := by
      cases hanswer
      rfl
    subst ha
    cases hreq : c.request with
    | createDevice telegramId name requested protocol =>
      rw [hreq] at hm
      rcases handleCreateDevice_run cfg telegramId name requested protocol ⟨w,c.env⟩ with
        ⟨e,he⟩|⟨user,_,he⟩
      · rw [handle,he] at hm
        cases hm
      · rw [handle,he] at hm
        obtain ⟨result,u,hu,hm⟩ := Eff.bind_ok.mp hm
        cases hm
        cases protocol with
        | wireguard =>
          obtain ⟨server,_,_,_,_,hissued,_⟩ :=
            provision_issued hcons.devices hprofiles hpeers hlinks hu
          exact ⟨server.id,hdraws hissued⟩
        | vless =>
          obtain ⟨_,v,hv,hu⟩ := Eff.bind_ok.mp hu
          obtain ⟨hvs,_⟩ := enforceDeviceLimit_ok hv
          subst hvs
          obtain ⟨_,_,_,_,hnone,_⟩ := provisionVless_issued hcons.devices hlinks hu
          rw [hnone] at hcontent
          cases hcontent
    | device telegramId j op =>
      rw [hreq] at hm hissues
      have hop : op=.reissue := by
        cases op with
        | reissue => rfl
        | _ => cases hissues
      subst hop
      rcases handleOwned_run cfg telegramId j .reissue ⟨w,c.env⟩ with
        ⟨e,he⟩|⟨user,device,_,hget,_,he⟩
      · rw [handle,he] at hm
        cases hm
      · rw [handle,he] at hm
        obtain ⟨result,u,hu,hm⟩ := Eff.bind_ok.mp hm
        cases hm
        have hid : device.id=j := Store.key_of_get? hget
        obtain ⟨server,_,_,hissued,_⟩ := reissue_issued (hid ▸ hget) hprofiles hpeers hu
        exact ⟨server.id,hdraws hissued⟩
    | _ =>
      rw [hreq] at hissues
      cases hissues
  · rw [hserve] at hanswer
    cases hanswer

/-- The token opens the active link of this active device, whose owner has paid beyond `now`. -/
structure LetThrough (db : Database) (now : Time) (token : Secret) (device : Device) : Prop where
  link : ∃ l∈db.subscriptionLinks.rows,l.tokenHash=⟨token⟩ ∧ l.status=.active ∧
    l.deviceId=device.id
  row : db.devices.get? device.id=some device
  active : device.status=.active
  paid : db.paidBeyond device.userId now=true

theorem LetThrough.delivers {env : Env} {token : Secret} {device : Device} {config : DeliveredConfig}
    (hw : Reachable cfg w) (h : LetThrough w.db env.now token device)
    (hconfig : deliveredConfig w.db device=.ok config) (formatHint : Option String) :
    ∃ body s,deliverBody token formatHint ⟨w,env⟩=(.ok body,s) ∧
      body.1=renderDelivered formatHint config := by
  obtain ⟨tokens,hcustody⟩ := reachable_custody hw
  have hrun := deliver_run token ⟨w,env⟩
  obtain ⟨link,hlink⟩ := (authorized_iff hcustody (reachable_ledger hw)).mpr
    ⟨h.link,h.row,h.active,h.paid⟩
  rw [hlink] at hrun
  simp only [hconfig] at hrun
  exact ⟨_,_,Eff.bind_run_ok hrun,rfl⟩

theorem deliver_config {token : Secret} {config : DeliveredConfig} {s t : Session}
    (h : deliver token s=(.ok config,t)) :
    ∃ device,deliveredConfig s.db device=.ok config := by
  rw [deliver_run] at h
  cases ha : authorized s.db s.now token with
  | none =>
    rw [ha] at h
    cases h
  | some found =>
    rw [ha] at h
    exact ⟨found.2,congrArg Prod.fst h⟩

/-- The agent's answer and the rows come to one text, but for the key. -/
theorem Source.text_eq {keyText : Int → String} {p : VpnPeer} {x : VpnServer}
    {profile : VpnProfile} (h : Source cfg w.db d k content p x profile)
    (hkey : ∀ n,OneLine (keyText n)) (uuidText : Int → String) (device : Device)
    (formatHint : Option String) :
    ∃ text,content.text keyText=some text ∧
      (renderDelivered formatHint (.wireguard device p x (some profile))).text uuidText=
        withoutPrivateKey text := by
  have hdns : (if profile.dns=[] then cfg.vpnDnsList else profile.dns)=profile.dns := by
    rw [h.dns]
    exact ite_self _
  have hpick : pickFormatter formatHint=renderPeer := pickFormatter_eq formatHint
  have hbody : renderDelivered formatHint (.wireguard device p x (some profile))=
      .wireguard (renderWireguardConfig p.assignedIp x.publicKey x.endpoint profile.allowedIps
        profile.dns) := by
    unfold renderDelivered
    rw [hpick]
    rfl
  refine ⟨wireguardText (some (keyText p.publicKey).toList) (renderWireguardConfig p.assignedIp
    x.publicKey x.endpoint profile.allowedIps profile.dns),?_,?_⟩
  · rw [h.config,clientConfig,hdns]
    rfl
  · rw [withoutPrivateKey_wireguardText (hkey p.publicKey),hbody]
    rfl

theorem Source.deliveredConfig_eq {p : VpnPeer} {x : VpnServer} {profile : VpnProfile}
    (h : Source cfg w.db d k content p x profile) (hw : Reachable cfg w) {device : Device}
    (hd : w.db.devices.get? d=some device) (hprotocol : device.protocol=.wireguard) :
    deliveredConfig w.db device=.ok (.wireguard device p x (some profile)) := by
  have hid : device.id=d := Store.key_of_get? hd
  have hpeer : w.db.activePeer d=some p := by
    rw [← h.onDevice]
    exact (reachable_sound hw).consistent.activePeer_of h.peer h.active
  have hmem : profile∈w.db.currentProfiles d :=
    mem_currentProfiles.mpr ⟨h.row,h.drawnFor,h.current⟩
  have hone : w.db.currentProfiles d=[profile] := by
    rcases (reachable_oneCurrent hw).currentProfiles d with hnone|⟨q,hq⟩
    · rw [hnone] at hmem
      cases hmem
    · rw [hq] at hmem ⊢
      rw [List.mem_singleton.mp hmem]
  unfold deliveredConfig
  simp only [hprotocol,hid,hpeer,h.onServer,h.server,hone]

/-- The texts an administrator entered for the server are on one line each. -/
structure VpnServer.Plain (x : VpnServer) : Prop where
  publicKey : OneLine x.publicKey
  endpoint : OneLine x.endpoint
  hostname : OneLine x.hostname

/-- Neither the DNS of the operator nor a server brings a line of its own into a body. -/
def PlainTexts (cfg : Settings) (w : World) : Prop :=
  (∀ x∈cfg.vpnDnsList,OneLine x) ∧ ∀ x∈w.db.vpnServers.rows,x.Plain

theorem deliveredConfig_keyless {uuidText : Int → String} {device : Device}
    {config : DeliveredConfig} (hplain : PlainTexts cfg w) (huuid : ∀ n,OneLine (uuidText n))
    (hdrawn : ∀ p∈w.db.vpnProfiles.rows,Drawn cfg p)
    (h : deliveredConfig w.db device=.ok config) (formatHint : Option String) :
    hasPrivateKeyLine ((renderDelivered formatHint config).text uuidText)=false := by
  have hfull : ∀ x∈fullVpnAllowedIps,OneLine x := by decide
  have hpick : pickFormatter formatHint=renderPeer := pickFormatter_eq formatHint
  have hpeer : ∀ (p : VpnPeer) {x : VpnServer} (profile : Option VpnProfile),
      x∈w.db.vpnServers.rows → (∀ q∈profile,q∈w.db.vpnProfiles.rows) →
      hasPrivateKeyLine ((renderDelivered formatHint (.wireguard device p x profile)).text
        uuidText)=false := by
    intro p x profile hx hprofile
    have hserver := hplain.2 x hx
    have hallowed : ∀ y∈(profile.map VpnProfile.allowedIps).getD fullVpnAllowedIps,OneLine y := by
      cases profile with
      | none => exact hfull
      | some q => exact (hdrawn q (hprofile q rfl)).allowed
    have hdns : ∀ y∈(profile.map VpnProfile.dns).getD [],OneLine y := by
      cases profile with
      | none => exact fun y hy => by cases hy
      | some q =>
        show ∀ y∈q.dns,OneLine y
        rw [(hdrawn q (hprofile q rfl)).dns]
        exact hplain.1
    unfold renderDelivered
    rw [hpick]
    apply wireguardText_keyless hdns hserver.publicKey hserver.endpoint
    intro y hy
    simp only [renderPeer,renderWireguardConfig] at hy
    split_ifs at hy
    · exact hfull y hy
    · exact hallowed y hy
  unfold deliveredConfig at h
  cases hprotocol : device.protocol with
  | vless =>
    simp only [hprotocol] at h
    split_ifs at h with hnone
    cases h
    apply vlessText_keyless
    intro l hl
    obtain ⟨item,hitem,he⟩ := List.mem_map.mp hl
    obtain ⟨c,hc,hfound⟩ := List.mem_filterMap.mp hitem
    simp only [Option.bind_eq_bind,Option.bind_eq_some_iff] at hfound
    obtain ⟨server,hget,config,_,hi⟩ := hfound
    cases hi
    subst he
    exact ⟨huuid _,(hplain.2 server (Store.mem_of_get? hget)).hostname⟩
  | wireguard =>
    simp only [hprotocol] at h
    cases hp : w.db.activePeer device.id with
    | none => simp [hp] at h
    | some p =>
      cases hx : w.db.vpnServers.get? p.serverId with
      | none => simp [hp,hx] at h
      | some x =>
        have hrow := Store.mem_of_get? hx
        cases hps : w.db.currentProfiles device.id with
        | nil =>
          simp only [hp,hx,hps] at h
          cases h
          exact hpeer p none hrow fun q hq => by cases hq
        | cons q qs =>
          cases qs with
          | nil =>
            simp only [hp,hx,hps] at h
            cases h
            apply hpeer p (some q) hrow
            intro q' hq'
            cases hq'
            have hmem : q∈w.db.currentProfiles device.id := by rw [hps]; exact List.mem_cons_self
            exact (mem_currentProfiles.mp hmem).1
          | cons _ _ =>
            simp only [hp,hx,hps] at h
            cases h

end

/-- A config text that a provisioning or a reissue returned is delivered with the comment for its
key line, to whoever is admitted for the device, until an answered request redraws it. -/
def IssuedDelivered (cfg : Settings) (keyText uuidText : Int → String) : Prop :=
  ∀ w,Reachable cfg w → ∀ (c : Call) (r : ProvisionedDevice) (content : QrContent),
    c.request.issues=true → (serve cfg c.env c.request w).1=.ok (.provisioned r) →
    r.configText=some content → ∃ k text,r.device.serverId=some k ∧
      content.text keyText=some text ∧ ∀ cs : List Call,
      Conducted (fun v c => c.keepsConfig cfg r.device.id k v) (after cfg) (after cfg w c) cs →
      ∀ (env : Env) (token : Secret) (device : Device) (formatHint : Option String),
      device.id=r.device.id →
      LetThrough (cs.foldl (after cfg) (after cfg w c)).db env.now token device →
      ∃ body s,deliverBody token formatHint ⟨cs.foldl (after cfg) (after cfg w c),env⟩=
        (.ok body,s) ∧ body.1.text uuidText=withoutPrivateKey text

/-- No body delivered in a state with the property has a private key line. -/
def BodiesKeyless (cfg : Settings) (uuidText : Int → String) (property : World → Prop) : Prop :=
  ∀ cs : List Call,(∀ c∈cs,c.env.Networks) → property (cs.foldl (after cfg) .initial) →
    ∀ (env : Env) (token : Secret) (formatHint : Option String) body s,
      deliverBody token formatHint ⟨cs.foldl (after cfg) .initial,env⟩=(.ok body,s) →
      hasPrivateKeyLine (body.1.text uuidText)=false

theorem configs_delivered (cfg : Settings) (keyText uuidText : Int → String)
    (hkey : ∀ n,OneLine (keyText n)) (huuid : ∀ n,OneLine (uuidText n)) :
    IssuedDelivered cfg keyText uuidText ∧ BodiesKeyless cfg uuidText (PlainTexts cfg) := by
  constructor
  · intro w hw c r content hissues hanswer hcontent
    obtain ⟨k,hserver,hground⟩ := after_issued hw hissues hanswer hcontent
    have htext : ∃ text,content.text keyText=some text := by
      obtain ⟨p,x,profile,hsource⟩ := hground
      rw [hsource.config]
      exact ⟨_,rfl⟩
    obtain ⟨text,htext⟩ := htext
    refine ⟨k,text,hserver,htext,fun cs hrun env token device formatHint hid hadmitted => ?_⟩
    have hlast : Reachable cfg (cs.foldl (after cfg) (after cfg w c)) := (hw.after c).run cs
    have hstands := run_grounded (hw.after c) hrun hground
    obtain ⟨row,hrow,hprotocol⟩ := hstands.device (reachable_sound hlast)
    have hsame : row=device := by
      rw [← hid,hadmitted.row] at hrow
      exact (Option.some.inj hrow).symm
    subst hsame
    obtain ⟨p,x,profile,hsource⟩ := hstands
    have hconfig := hsource.deliveredConfig_eq hlast hrow hprotocol
    obtain ⟨body,s,hbody,hrendered⟩ := hadmitted.delivers hlast hconfig formatHint
    obtain ⟨text',htext',hdelivered⟩ :=
      hsource.text_eq hkey uuidText row formatHint
    have ht : text'=text := Option.some.inj (htext'.symm.trans htext)
    exact ⟨body,s,hbody,by rw [hrendered,hdelivered,ht]⟩
  · intro cs hengine hplain env token formatHint body s hbody
    obtain ⟨config,u,hu,hrest⟩ := Eff.bind_ok.mp hbody
    cases hrest
    obtain ⟨device,hconfig⟩ := deliver_config hu
    exact deliveredConfig_keyless hplain huuid (run_drawn hengine) hconfig formatHint

theorem calm_networks (now : Time) (r : Request) : (calm now r).env.Networks := by
  intro rules ips h x hx
  cases h
  cases hx

instance (x : VpnServer) : Decidable x.Plain :=
  decidable_of_iff (OneLine x.publicKey ∧ OneLine x.endpoint ∧ OneLine x.hostname)
    ⟨fun h => ⟨h.1,h.2.1,h.2.2⟩,fun h => ⟨h.publicKey,h.endpoint,h.hostname⟩⟩

instance (cfg : Settings) (w : World) : Decidable (PlainTexts cfg w) :=
  inferInstanceAs (Decidable (_ ∧ _))

/-- The opened shop before the device is made. -/
def paidFor : List Call := opening.dropLast

/-- The device is switched off and on again, and the user gets another one. -/
def meanwhile : List Call := [
  calm 3 (.device 77 11 .disable),
  calm 4 (.device 77 11 .enable),
  calm 5 (.createDevice 77 "tablet" none .wireguard)]

theorem configs_delivered_opened : ∃ text body s,
    deliverBody (.generated 12) none ⟨meanwhile.foldl (after sampleSettings) opened,quiet 6⟩=
      (.ok body,s) ∧ body.1.text (fun _ => "uuid")=withoutPrivateKey text ∧
    hasPrivateKeyLine (body.1.text fun _ => "uuid")=false := by
  obtain ⟨hissued,hkeyless⟩ := configs_delivered sampleSettings (fun _ => "key=")
    (fun _ => "uuid") (fun _ => by decide) (fun _ => by decide)
  have hanswer : ∃ r content,(serve sampleSettings (quiet 2)
      (.createDevice 77 "phone" none .wireguard)
      (paidFor.foldl (after sampleSettings) .initial)).1=.ok (.provisioned r) ∧
      r.configText=some content ∧ r.device.id=11 ∧ r.device.serverId=some 4 := by
    refine ⟨_,_,rfl,rfl,?_,?_⟩
    · decide +kernel
    · decide +kernel
  obtain ⟨r,content,hserve,hcontent,hid,hserver⟩ := hanswer
  obtain ⟨k,text,hk,_,hdelivers⟩ := hissued _ ⟨paidFor,rfl⟩
    (calm 2 (.createDevice 77 "phone" none .wireguard)) r content rfl hserve hcontent
  have hk : k=4 := Option.some.inj (hk.symm.trans hserver)
  subst hk
  rw [hid] at hdelivers
  have hrun : Conducted (fun v c => c.keepsConfig sampleSettings 11 4 v) (after sampleSettings)
      opened meanwhile := by decide +kernel
  have hrow : ∃ d∈(meanwhile.foldl (after sampleSettings) opened).db.devices.rows,d.id=11 ∧
      d.status=.active ∧
      (meanwhile.foldl (after sampleSettings) opened).db.paidBeyond d.userId 6=true := by
    decide +kernel
  have hlink : ∃ l∈(meanwhile.foldl (after sampleSettings) opened).db.subscriptionLinks.rows,
      l.tokenHash=⟨.generated 12⟩ ∧ l.status=.active ∧ l.deviceId=11 := by decide +kernel
  obtain ⟨device,hmem,hdevice,hactive,hpaid⟩ := hrow
  have hadmitted : LetThrough (meanwhile.foldl (after sampleSettings) opened).db (quiet 6).now
      (.generated 12) device := by
    refine ⟨hdevice ▸ hlink,?_,hactive,hpaid⟩
    rw [Store.get?_eq_some]
    exact ⟨hmem,rfl⟩
  obtain ⟨body,s,hbody,htext⟩ := hdelivers meanwhile hrun (quiet 6) (.generated 12) device none
    hdevice hadmitted
  have hplain : PlainTexts sampleSettings ((opening++meanwhile).foldl (after sampleSettings)
      .initial) := by decide +kernel
  have hengine : ∀ c∈opening++meanwhile,c.env.Networks := by
    simp [opening,meanwhile,calm_networks]
  have hkept := hkeyless (opening++meanwhile) hengine hplain (quiet 6) (.generated 12) none body s
  rw [List.foldl_append] at hkept
  exact ⟨text,body,s,hbody,htext,hkept hbody⟩

/-- The server of the opened shop, with a second line in its endpoint. -/
def brokenServer : VpnServerCreate := {sampleServer with endpoint := "node:51820\nPrivateKey = x"}

/-- The opened shop with that server. -/
def openingBroken : List Call := opening.set 2 (calm 0 (.servers (.createServer 1 brokenServer)))

/-- What an administrator enters for a server is rendered as it is. -/
theorem configs_keyed : ¬∀ (cfg : Settings) (keyText uuidText : Int → String),
    (∀ n,OneLine (keyText n)) → (∀ n,OneLine (uuidText n)) →
    IssuedDelivered cfg keyText uuidText ∧ BodiesKeyless cfg uuidText fun _ => True := by
  intro h
  obtain ⟨_,hkeyless⟩ := h sampleSettings (fun _ => "key=") (fun _ => "uuid") (fun _ => by decide)
    fun _ => by decide
  have hengine : ∀ c∈openingBroken,c.env.Networks := by
    simp [openingBroken,opening,calm_networks]
  have hkeyed : (deliverBody (.generated 12) none
      ⟨openingBroken.foldl (after sampleSettings) .initial,quiet 3⟩).1.toOption.map
      (fun body => hasPrivateKeyLine (body.1.text fun _ => "uuid"))=some true := by decide +kernel
  cases hrun : deliverBody (.generated 12) none
      ⟨openingBroken.foldl (after sampleSettings) .initial,quiet 3⟩ with
  | mk r s =>
    rw [hrun] at hkeyed
    cases r with
    | error e => cases hkeyed
    | ok body =>
      have hnone := hkeyless openingBroken hengine trivial (quiet 3) (.generated 12) none body s hrun
      have hsome : hasPrivateKeyLine (body.1.text fun _ => "uuid")=true := Option.some.inj hkeyed
      rw [hnone] at hsome
      cases hsome

end VpnService.Backend
