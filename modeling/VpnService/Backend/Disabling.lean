import VpnService.Backend.Contracts
import VpnService.Backend.Soundness

namespace VpnService.Backend

open Agent

/-- The devices and their credentials may change, and what the agents have. -/
abbrev deskFrame : Frame Session :=
  keeping fun s => ({s.db with devices := .empty,vlessCredentials := .empty},s.notices,s.now)

theorem desk_books : Bookkeeping deskFrame :=
  ⟨fun _ => ⟨rfl,by simp⟩,fun _ _ => ⟨rfl,le_rfl⟩⟩

theorem desk_rest {s t : Session} (h : deskFrame.rel s t) :
    t.db={s.db with devices := t.db.devices,vlessCredentials := t.db.vlessCredentials} ∧
      t.notices=s.notices ∧ t.now=s.now := by
  obtain ⟨hview,_⟩ := h
  simp only [Prod.mk.injEq] at hview
  have hdb := congrArg (fun db : Database =>
    {db with devices := t.db.devices,vlessCredentials := t.db.vlessCredentials}) hview.1
  exact ⟨hdb,hview.2⟩

/-- Disabling a device writes the devices, the credentials and the agents, and nothing else. -/
theorem disable_within {R : Frame Session} (hR : Bookkeeping R)
    (hdb : ∀ (s : Session) ds cs,
      R.rel s {s with db := {s.db with devices := ds,vlessCredentials := cs}})
    (hvpn : ∀ (s : Session) f,R.rel s {s with vpn := f})
    (hxray : ∀ (s : Session) f,R.rel s {s with xray := f}) (device : Device) :
    Within R (disable device) := by
  refine Within.bind ?_ fun _ => alter_within fun s => hdb s _ _
  unfold disableTransport
  cases device.protocol with
  | vless =>
    refine getDb_within.bind fun _ => Within.each fun c _ => ?_
    refine Within.bind ((configForCredential_within c).bind fun config => ?_) fun _ =>
      alter_within fun s => hdb s _ _
    cases config with
    | none => exact Within.pure _
    | some config => exact xrayRequest_within hR fun s => hxray s _
  | wireguard =>
    exact (serverOfDevice_within device).bind fun server => withActivePeer_within _ fun p =>
      vpnRequest_within hR fun s _ _ => hvpn s _

/-- Disabling a device writes nothing else to the database and tells nobody. -/
theorem disable_desk (device : Device) : Within deskFrame (disable device) :=
  disable_within desk_books (fun _ _ _ => ⟨rfl,le_rfl⟩) (fun _ _ => ⟨rfl,le_rfl⟩)
    (fun _ _ => ⟨rfl,le_rfl⟩) device

/-- A credential's uuid as one agent has it. -/
def Removes (cs : List VlessCredential) (db : Database) (url : String) (uuid : Int) : Prop :=
  ∃ c∈cs,∃ config,db.vlessConfig c.serverId=some config ∧ config.xrayAgentBaseUrl=url ∧ c.uuid=uuid

def disabledAmong (cs : List VlessCredential) (r : VlessCredential) : VlessCredential :=
  if cs.any fun c => c.id=r.id then {r with status := .disabled} else r

theorem disabledAmong_id (cs : List VlessCredential) (r : VlessCredential) :
    (disabledAmong cs r).id=r.id := by
  unfold disabledAmong
  split_ifs <;> rfl

/-- The credentials `cs` are switched off, and no other. -/
structure CredentialsOff (cs : List VlessCredential) (s t : Session) : Prop where
  rest : t.db={s.db with vlessCredentials := t.db.vlessCredentials}
  desk : t.notices=s.notices ∧ t.serial=s.serial ∧ t.now=s.now ∧ t.vpn=s.vpn
  credentials : t.db.vlessCredentials=
    s.db.vlessCredentials.mapRows (disabledAmong cs) (disabledAmong_id cs)
  xrayOff : ∀ url u,Removes cs s.db url u → (t.xray url).get? u=none
  xrayOn : ∀ url u,¬Removes cs s.db url u → (t.xray url).get? u=(s.xray url).get? u

theorem removeCredentialFromXray_cases {c : VlessCredential} {s t : Session}
    (h : removeCredentialFromXray c s=(.ok (),t)) :
    (s.db.vlessConfig c.serverId=none ∧ t=s) ∨
      ∃ config os,s.db.vlessConfig c.serverId=some config ∧
        t=setXray config.xrayAgentBaseUrl
          (UserStore.deleteUser c.uuid (s.xray config.xrayAgentBaseUrl)) {s with outcomes := os} := by
  obtain ⟨found,u,hfound,hrest⟩ := Eff.bind_ok.mp h
  obtain ⟨server,v,hv,hu⟩ := Eff.bind_ok.mp hfound
  obtain ⟨hvs,hserver⟩ := getServer_ok hv
  subst hvs
  rw [getDb_bind_run] at hu
  cases hu
  have hid : server.id=c.serverId := Store.key_of_get? hserver
  rw [hid] at hrest
  cases hc : s.db.vlessConfig c.serverId with
  | none =>
    simp only [hc] at hrest
    cases hrest
    exact Or.inl ⟨rfl,rfl⟩
  | some config =>
    simp only [hc] at hrest
    obtain ⟨os,ht⟩ := xrayRequest_ok (UserStore.deleteUser_deleteUser · _) hrest
    exact Or.inr ⟨config,os,rfl,ht⟩

theorem disableCredential_off {c : VlessCredential} {s t : Session}
    (h : disableCredential c s=(.ok (),t)) : CredentialsOff [c] s t := by
  obtain ⟨_,u,hu,hlast⟩ := Eff.bind_ok.mp h
  have hrow : ∀ {v : Session},setCredentialStatus c.id (fun c => {c with status := .disabled})
      (fun _ => rfl) v=(.ok (),t) → t.db.vlessCredentials=
        v.db.vlessCredentials.mapRows (disabledAmong [c]) (disabledAmong_id [c]) := by
    intro v hv
    cases hv
    apply Store.extensionality
    rw [Store.rows_modify,Store.rows_mapRows]
    apply List.map_congr_left
    intro r _
    unfold disabledAmong
    by_cases hr : r.id=c.id
    · simp [hr]
    · simp [hr,Ne.symm hr]
  have hremoves : ∀ url x,Removes [c] s.db url x ↔ ∃ config,
      s.db.vlessConfig c.serverId=some config ∧ config.xrayAgentBaseUrl=url ∧ c.uuid=x := by
    intro url x
    simp [Removes]
  rcases removeCredentialFromXray_cases hu with ⟨hnone,hus⟩|⟨config,os,hconfig,hus⟩
  · subst hus
    have hcred := hrow hlast
    cases hlast
    refine ⟨rfl,⟨rfl,rfl,rfl,rfl⟩,hcred,fun url x hx => ?_,fun url x _ => rfl⟩
    obtain ⟨config,hconfig,_⟩ := (hremoves url x).mp hx
    rw [hnone] at hconfig
    cases hconfig
  · subst hus
    have hcred := hrow hlast
    cases hlast
    refine ⟨rfl,⟨rfl,rfl,rfl,rfl⟩,hcred,fun url x hx => ?_,fun url x hx => ?_⟩
    · obtain ⟨config',hconfig',hurl,huuid⟩ := (hremoves url x).mp hx
      rw [hconfig] at hconfig'
      cases hconfig'
      simp [setXray,hurl,UserStore.get?_deleteUser,huuid]
    · by_cases hurl : url=config.xrayAgentBaseUrl
      · have hne : x≠c.uuid := fun he => hx ((hremoves url x).mpr ⟨config,hconfig,hurl.symm,he.symm⟩)
        simp [setXray,hurl,UserStore.get?_deleteUser,hne]
      · simp [setXray,hurl]

/-- Switching off credentials one by one switches off all of them. -/
theorem disableCredentials_off {cs : List VlessCredential} {s t : Session}
    (h : Eff.each disableCredential cs s=(.ok (),t)) : CredentialsOff cs s t := by
  induction cs generalizing s with
  | nil =>
    cases h
    refine ⟨rfl,⟨rfl,rfl,rfl,rfl⟩,?_,fun url u hu => ?_,fun _ _ _ => rfl⟩
    · exact (Store.mapRows_self _ _ fun r _ => by simp [disabledAmong]).symm
    · obtain ⟨c,hc,_⟩ := hu
      cases hc
  | cons c cs ih =>
    obtain ⟨_,u,hu,h⟩ := Eff.bind_ok.mp h
    have hfirst := disableCredential_off hu
    have hrest := ih h
    have hconfigs : u.db.vlessServerConfigs=s.db.vlessServerConfigs := by rw [hfirst.rest]
    have hlast : ∀ url x,Removes cs u.db url x ↔ Removes cs s.db url x := by
      intro url x
      unfold Removes Database.vlessConfig
      rw [hconfigs]
    have hsplit : ∀ url x,Removes (c::cs) s.db url x ↔
        Removes [c] s.db url x ∨ Removes cs s.db url x := by
      intro url x
      simp [Removes]
    refine ⟨?_,?_,?_,fun url x hx => ?_,fun url x hx => ?_⟩
    · rw [hrest.rest,hfirst.rest]
    · obtain ⟨h₁,h₂,h₃,h₄⟩ := hfirst.desk
      obtain ⟨g₁,g₂,g₃,g₄⟩ := hrest.desk
      exact ⟨g₁.trans h₁,g₂.trans h₂,g₃.trans h₃,g₄.trans h₄⟩
    · rw [hrest.credentials,hfirst.credentials]
      apply Store.extensionality
      simp only [Store.rows_mapRows,List.map_map]
      apply List.map_congr_left
      intro r _
      simp only [Function.comp_apply,disabledAmong,List.any_cons,List.any_nil,Bool.or_false]
      by_cases hc : c.id=r.id
      · by_cases hcs : (cs.any fun x => x.id=r.id)=true
        · simp [hc]
        · simp [hc]
      · simp [hc]
    · by_cases hin : Removes cs s.db url x
      · exact hrest.xrayOff url x ((hlast url x).mpr hin)
      · rw [hrest.xrayOn url x fun hu => hin ((hlast url x).mp hu)]
        exact hfirst.xrayOff url x (((hsplit url x).mp hx).resolve_right hin)
    · have hboth := not_or.mp fun ho => hx ((hsplit url x).mpr ho)
      rw [hrest.xrayOn url x fun hu => hboth.2 ((hlast url x).mp hu)]
      exact hfirst.xrayOn url x hboth.1

def disabledIn (D : Id → Bool) (d : Device) : Device :=
  if D d.id then {d with status := .disabled} else d

theorem disabledIn_id (D : Id → Bool) (d : Device) : (disabledIn D d).id=d.id := by
  unfold disabledIn
  split_ifs <;> rfl

/-- The active credentials of the VLESS devices in `D`. -/
def Database.cutCredential (db : Database) (D : Id → Bool) (c : VlessCredential) : Bool :=
  c.status=.active && D c.deviceId &&
    (db.devices.get? c.deviceId).any fun d => d.protocol=.vless

def Database.cutCredentials (db : Database) (D : Id → Bool) : List VlessCredential :=
  db.vlessCredentials.rows.filter (db.cutCredential D)

/-- The key of the active peer of a WireGuard device in `D`, at the agent of its server. -/
def Database.CutPeer (db : Database) (D : Id → Bool) (url : String) (k : Int) : Prop :=
  ∃ d∈db.devices.rows,D d.id=true ∧ d.protocol=.wireguard ∧ ∃ server p,
    db.serverOf d=some server ∧ server.agentBaseUrl=url ∧ db.activePeer d.id=some p ∧ p.publicKey=k

/-- The devices in `D` are disabled and switched off at the agents, and nothing else is. -/
structure DevicesOff (D : Id → Bool) (s t : Session) : Prop where
  devices : t.db.devices=s.db.devices.mapRows (disabledIn D) (disabledIn_id D)
  credentials : t.db.vlessCredentials=s.db.vlessCredentials.mapRows
    (disabledAmong (s.db.cutCredentials D)) (disabledAmong_id _)
  peers : t.db.vpnPeers=s.db.vpnPeers
  servers : t.db.vpnServers=s.db.vpnServers
  configs : t.db.vlessServerConfigs=s.db.vlessServerConfigs
  vpnOff : ∀ url k,s.db.CutPeer D url k →
    (t.vpn url).get? k=((s.vpn url).get? k).map fun r => {r with enabled := false}
  vpnOn : ∀ url k,¬s.db.CutPeer D url k → (t.vpn url).get? k=(s.vpn url).get? k
  xrayOff : ∀ url u,Removes (s.db.cutCredentials D) s.db url u → (t.xray url).get? u=none
  xrayOn : ∀ url u,¬Removes (s.db.cutCredentials D) s.db url u →
    (t.xray url).get? u=(s.xray url).get? u

theorem disabledAmong_cut {db : Database} {D : Id → Bool} {r : VlessCredential}
    (hr : r∈db.vlessCredentials.rows) : disabledAmong (db.cutCredentials D) r=
      if db.cutCredential D r then {r with status := .disabled} else r := by
  unfold disabledAmong Database.cutCredentials
  rw [db.vlessCredentials.any_filter_key _ hr]

theorem mem_cutCredentials {db : Database} {D : Id → Bool} {c : VlessCredential} :
    c∈db.cutCredentials D ↔ c∈db.vlessCredentials.rows ∧ c.status=.active ∧ D c.deviceId=true ∧
      ∃ d,db.devices.get? c.deviceId=some d ∧ d.protocol=.vless := by
  simp only [Database.cutCredentials,Database.cutCredential,List.mem_filter,Bool.and_eq_true,
    decide_eq_true_eq,Option.any_eq_true]
  constructor
  · rintro ⟨h,⟨h₁,h₂⟩,h₃⟩
    exact ⟨h,h₁,h₂,h₃⟩
  · rintro ⟨h,h₁,h₂,h₃⟩
    exact ⟨h,⟨h₁,h₂⟩,h₃⟩

section

variable {D E : Id → Bool} {s t u : Session}

theorem DevicesOff.get? (h : DevicesOff D s t) (k : Id) :
    t.db.devices.get? k=(s.db.devices.get? k).map (disabledIn D) := by
  rw [h.devices,Store.get?_mapRows]

theorem disabledIn_protocol (D : Id → Bool) (d : Device) : (disabledIn D d).protocol=d.protocol := by
  unfold disabledIn
  split_ifs <;> rfl

theorem disabledIn_serverId (D : Id → Bool) (d : Device) :
    (disabledIn D d).serverId=d.serverId := by
  unfold disabledIn
  split_ifs <;> rfl

/-- Which peers are cut does not depend on the statuses. -/
theorem DevicesOff.cutPeer_iff (h : DevicesOff D s t) (url : String) (k : Int) :
    t.db.CutPeer E url k ↔ s.db.CutPeer E url k := by
  unfold Database.CutPeer Database.serverOf Database.activePeer Database.activePeers
  rw [h.devices,h.peers,h.servers]
  simp only [Store.rows_mapRows,List.mem_map]
  constructor
  · rintro ⟨_,⟨d,hd,rfl⟩,hE,hproto,hrest⟩
    rw [disabledIn_id] at hE hrest
    rw [disabledIn_protocol] at hproto
    rw [disabledIn_serverId] at hrest
    exact ⟨d,hd,hE,hproto,hrest⟩
  · rintro ⟨d,hd,hE,hproto,hrest⟩
    refine ⟨_,⟨d,hd,rfl⟩,?_,?_,?_⟩
    · rw [disabledIn_id]
      exact hE
    · rw [disabledIn_protocol]
      exact hproto
    · rw [disabledIn_id,disabledIn_serverId]
      exact hrest

/-- What is cut later was there before, if its devices were left alone. -/
theorem DevicesOff.mem_cut_iff (h : DevicesOff D s t) (hapart : ∀ k,E k=true → D k=false)
    (c : VlessCredential) : c∈t.db.cutCredentials E ↔ c∈s.db.cutCredentials E := by
  have hkept : ∀ r∈s.db.vlessCredentials.rows,E r.deviceId=true →
      disabledAmong (s.db.cutCredentials D) r=r := by
    intro r hr hE
    rw [disabledAmong_cut hr]
    simp [Database.cutCredential,hapart _ hE]
  have hproto : ∀ k,(∃ d,t.db.devices.get? k=some d ∧ d.protocol=.vless) ↔
      ∃ d,s.db.devices.get? k=some d ∧ d.protocol=.vless := by
    intro k
    rw [h.get?]
    constructor
    · rintro ⟨d,hd,hp⟩
      obtain ⟨e,he,rfl⟩ := Option.map_eq_some_iff.mp hd
      exact ⟨e,he,by rw [← disabledIn_protocol D]; exact hp⟩
    · rintro ⟨d,hd,hp⟩
      exact ⟨_,by rw [hd]; rfl,by rw [disabledIn_protocol]; exact hp⟩
  have hdevice : ∀ r,(disabledAmong (s.db.cutCredentials D) r).deviceId=r.deviceId := by
    intro r
    unfold disabledAmong
    split_ifs <;> rfl
  simp only [mem_cutCredentials,hproto,h.credentials,Store.rows_mapRows,List.mem_map]
  constructor
  · rintro ⟨⟨r,hr,rfl⟩,hact,hE,hd⟩
    rw [hdevice] at hE
    rw [hkept r hr hE] at hact hd ⊢
    exact ⟨hr,hact,hE,hd⟩
  · rintro ⟨hc,hact,hE,hd⟩
    exact ⟨⟨c,hc,hkept c hc hE⟩,hact,hE,hd⟩

theorem Removes.congr {cs ds : List VlessCredential} {a b : Database}
    (h : ∀ c,c∈cs ↔ c∈ds) (hf : a.vlessServerConfigs=b.vlessServerConfigs) (url : String)
    (x : Int) : Removes cs a url x ↔ Removes ds b url x := by
  unfold Removes Database.vlessConfig
  simp only [h,hf]

/-- Devices switched off, and then others. -/
theorem DevicesOff.trans (h : DevicesOff D s t) (k : DevicesOff E t u)
    (hapart : ∀ k,E k=true → D k=false) : DevicesOff (fun k => D k || E k) s u := by
  have hcuts : ∀ c,c∈s.db.cutCredentials (fun k => D k || E k) ↔
      c∈s.db.cutCredentials D ∨ c∈s.db.cutCredentials E := by
    intro c
    simp only [mem_cutCredentials,Bool.or_eq_true]
    constructor
    · rintro ⟨hc,hact,hD|hE,hproto⟩
      · exact Or.inl ⟨hc,hact,hD,hproto⟩
      · exact Or.inr ⟨hc,hact,hE,hproto⟩
    · rintro (⟨hc,hact,hD,hproto⟩|⟨hc,hact,hE,hproto⟩)
      · exact ⟨hc,hact,Or.inl hD,hproto⟩
      · exact ⟨hc,hact,Or.inr hE,hproto⟩
  have hpeers : ∀ url x,s.db.CutPeer (fun k => D k || E k) url x ↔
      s.db.CutPeer D url x ∨ s.db.CutPeer E url x := by
    intro url x
    unfold Database.CutPeer
    simp only [Bool.or_eq_true]
    constructor
    · rintro ⟨d,hd,hD|hE,hrest⟩
      · exact Or.inl ⟨d,hd,hD,hrest⟩
      · exact Or.inr ⟨d,hd,hE,hrest⟩
    · rintro (⟨d,hd,hD,hrest⟩|⟨d,hd,hE,hrest⟩)
      · exact ⟨d,hd,Or.inl hD,hrest⟩
      · exact ⟨d,hd,Or.inr hE,hrest⟩
  have hremoves : ∀ url x,Removes (s.db.cutCredentials fun k => D k || E k) s.db url x ↔
      Removes (s.db.cutCredentials D) s.db url x ∨
        Removes (t.db.cutCredentials E) t.db url x := by
    intro url x
    rw [Removes.congr (h.mem_cut_iff hapart) h.configs url x]
    unfold Removes
    constructor
    · rintro ⟨c,hc,hrest⟩
      exact ((hcuts c).mp hc).imp (fun hc => ⟨c,hc,hrest⟩) fun hc => ⟨c,hc,hrest⟩
    · rintro (⟨c,hc,hrest⟩|⟨c,hc,hrest⟩)
      · exact ⟨c,(hcuts c).mpr (Or.inl hc),hrest⟩
      · exact ⟨c,(hcuts c).mpr (Or.inr hc),hrest⟩
  refine ⟨?_,?_,k.peers.trans h.peers,k.servers.trans h.servers,k.configs.trans h.configs,
    fun url x hx => ?_,fun url x hx => ?_,fun url x hx => ?_,fun url x hx => ?_⟩
  · rw [k.devices,h.devices]
    apply Store.extensionality
    simp only [Store.rows_mapRows,List.map_map]
    apply List.map_congr_left
    intro d _
    cases hD : D d.id <;> cases hE : E d.id <;> simp [disabledIn,hD,hE]
  · rw [k.credentials,h.credentials]
    apply Store.extensionality
    simp only [Store.rows_mapRows,List.map_map]
    apply List.map_congr_left
    intro r hr
    have hmem : ∀ F : Id → Bool,s.db.cutCredential F r=true ↔ r∈s.db.cutCredentials F := by
      intro F
      unfold Database.cutCredentials
      rw [List.mem_filter]
      exact ⟨fun h => ⟨hr,h⟩,fun h => h.2⟩
    have hlater : (t.db.cutCredentials E).any (fun c => c.id=r.id)=s.db.cutCredential E r := by
      rw [Bool.eq_iff_iff,List.any_eq_true,hmem]
      constructor
      · rintro ⟨c,hc,hid⟩
        have hc' := (h.mem_cut_iff hapart c).mp hc
        have hrow := (mem_cutCredentials.mp hc').1
        rw [← Store.eq_of_key hrow hr (by simpa using hid)]
        exact hc'
      · intro hc
        exact ⟨r,(h.mem_cut_iff hapart r).mpr hc,by simp⟩
    have hboth : s.db.cutCredential (fun k => D k || E k) r=
        (s.db.cutCredential D r || s.db.cutCredential E r) := by
      rw [Bool.eq_iff_iff,Bool.or_eq_true,hmem,hmem,hmem]
      exact hcuts r
    rw [Function.comp_apply,disabledAmong_cut hr,disabledAmong_cut hr,hboth]
    cases hD : s.db.cutCredential D r with
    | true =>
      simp only [Bool.true_or,if_true]
      unfold disabledAmong
      split_ifs <;> rfl
    | false =>
      simp only [Bool.false_or,Bool.false_eq_true,if_false]
      unfold disabledAmong
      rw [hlater]
  · by_cases hE : t.db.CutPeer E url x
    · rw [k.vpnOff url x hE]
      by_cases hD : s.db.CutPeer D url x
      · rw [h.vpnOff url x hD,Option.map_map]
        rfl
      · rw [h.vpnOn url x hD]
    · rw [k.vpnOn url x hE]
      rw [h.cutPeer_iff] at hE
      exact h.vpnOff url x (((hpeers url x).mp hx).resolve_right hE)
  · have hboth := not_or.mp fun ho => hx ((hpeers url x).mpr ho)
    rw [k.vpnOn url x fun hE => hboth.2 ((h.cutPeer_iff url x).mp hE)]
    exact h.vpnOn url x hboth.1
  · by_cases hE : Removes (t.db.cutCredentials E) t.db url x
    · exact k.xrayOff url x hE
    · rw [k.xrayOn url x hE]
      exact h.xrayOff url x (((hremoves url x).mp hx).resolve_right hE)
  · have hboth := not_or.mp fun ho => hx ((hremoves url x).mpr ho)
    rw [k.xrayOn url x hboth.2]
    exact h.xrayOn url x hboth.1

/-- Nothing switched off. -/
theorem DevicesOff.none (s : Session) : DevicesOff (fun _ => false) s s := by
  have hcut : s.db.cutCredentials (fun _ => false)=[] := by
    unfold Database.cutCredentials
    rw [List.filter_eq_nil_iff]
    intro c _
    simp [Database.cutCredential]
  refine ⟨?_,?_,rfl,rfl,rfl,fun url k hk => ?_,fun _ _ _ => rfl,fun url u hu => ?_,
    fun _ _ _ => rfl⟩
  · exact (Store.mapRows_self _ _ fun d _ => rfl).symm
  · refine (Store.mapRows_self _ _ fun r _ => ?_).symm
    rw [hcut]
    rfl
  · obtain ⟨d,_,hD,_⟩ := hk
    cases hD
  · obtain ⟨c,hc,_⟩ := hu
    rw [hcut] at hc
    cases hc

theorem DevicesOff.of_view (h : DevicesOff D s t) (hd : u.db.devices=t.db.devices)
    (hc : u.db.vlessCredentials=t.db.vlessCredentials) (hp : u.db.vpnPeers=t.db.vpnPeers)
    (hs : u.db.vpnServers=t.db.vpnServers) (hf : u.db.vlessServerConfigs=t.db.vlessServerConfigs)
    (hv : u.vpn=t.vpn) (hx : u.xray=t.xray) : DevicesOff D s u where
  devices := hd.trans h.devices
  credentials := hc.trans h.credentials
  peers := hp.trans h.peers
  servers := hs.trans h.servers
  configs := hf.trans h.configs
  vpnOff := hv ▸ h.vpnOff
  vpnOn := hv ▸ h.vpnOn
  xrayOff := hx ▸ h.xrayOff
  xrayOn := hx ▸ h.xrayOn

/-- What switching the active peer of a WireGuard device on or off at its agent does. -/
theorem switchPeer_ok {device : Device} (enabled : Bool)
    (h : (serverOfDevice device >>= fun server => withActivePeer device.id fun peer =>
      vpnRequest server fun store => (store.get? peer.publicKey).map fun _ =>
        PeerStore.setEnabled store peer.publicKey enabled) s=(.ok (),t)) :
    ∃ server,s.db.serverOf device=some server ∧
      ((s.db.activePeer device.id=none ∧ t=s) ∨ ∃ p os,s.db.activePeer device.id=some p ∧
        ((s.vpn server.agentBaseUrl).get? p.publicKey).isSome ∧
        t=setVpn server.agentBaseUrl
          (PeerStore.setEnabled (s.vpn server.agentBaseUrl) p.publicKey enabled)
          {s with outcomes := os}) := by
  obtain ⟨server,v,hv,hrest⟩ := Eff.bind_ok.mp h
  obtain ⟨hvs,hid,hget⟩ := serverOfDevice_ok hv
  subst hvs
  refine ⟨server,Database.serverOf_eq hid hget,?_⟩
  unfold withActivePeer at hrest
  rw [getDb_bind_run] at hrest
  cases hp : s.db.activePeer device.id with
  | none =>
    simp only [hp] at hrest
    cases hrest
    exact Or.inl ⟨rfl,rfl⟩
  | some p =>
    simp only [hp] at hrest
    obtain ⟨os,store,hstore,ht⟩ := vpnRequest_ok hrest
    obtain ⟨r,hr,he⟩ := Option.map_eq_some_iff.mp hstore
    exact Or.inr ⟨p,os,rfl,by rw [hr]; rfl,by rw [ht,← he]⟩

/-- The answered call to a WireGuard agent about the active peer of a device. -/
theorem disablePeer_ok {device : Device} (h : disablePeer device s=(.ok (),t)) :
    ∃ server,s.db.serverOf device=some server ∧
      ((s.db.activePeer device.id=none ∧ t=s) ∨ ∃ p os,s.db.activePeer device.id=some p ∧
        ((s.vpn server.agentBaseUrl).get? p.publicKey).isSome ∧
        t=setVpn server.agentBaseUrl
          (PeerStore.setEnabled (s.vpn server.agentBaseUrl) p.publicKey false)
          {s with outcomes := os}) := switchPeer_ok false h

theorem enablePeer_ok {device : Device} (h : enablePeer device s=(.ok (),t)) :
    ∃ server,s.db.serverOf device=some server ∧
      ((s.db.activePeer device.id=none ∧ t=s) ∨ ∃ p os,s.db.activePeer device.id=some p ∧
        ((s.vpn server.agentBaseUrl).get? p.publicKey).isSome ∧
        t=setVpn server.agentBaseUrl
          (PeerStore.setEnabled (s.vpn server.agentBaseUrl) p.publicKey true)
          {s with outcomes := os}) := switchPeer_ok true h

/-- A device that was disabled is off, at the backend and at its agent. -/
theorem disable_off {device : Device} (hd : s.db.devices.get? device.id=some device)
    (h : disable device s=(.ok (),t)) : DevicesOff (fun k => k=device.id) s t := by
  obtain ⟨_,v,hv,hlast⟩ := Eff.bind_ok.mp h
  have hmem := Store.mem_of_get? hd
  have hdevices : ∀ {v : Session},setDeviceStatus device.id .disabled v=(.ok (),t) →
      v.db.devices=s.db.devices →
      t.db.devices=s.db.devices.mapRows (disabledIn fun k => k=device.id) (disabledIn_id _) := by
    intro v hrun hvs
    cases hrun
    apply Store.extensionality
    simp only [Store.rows_modify,Store.rows_mapRows,hvs]
    apply List.map_congr_left
    intro d _
    simp [disabledIn]
  have honly : ∀ d∈s.db.devices.rows,(decide (d.id=device.id))=true → d=device := by
    intro d hdm hid
    exact Store.eq_of_key hdm hmem (by simpa using hid)
  unfold disableTransport at hv
  cases hproto : device.protocol with
  | vless =>
    simp only [hproto] at hv
    unfold disableCredentials at hv
    rw [getDb_bind_run] at hv
    have hoff := disableCredentials_off hv
    have hcuts : s.db.cutCredentials (fun k => k=device.id)=s.db.activeCredentials device.id := by
      apply List.filter_congr
      intro c _
      by_cases hc : c.deviceId=device.id
      · simp [Database.cutCredential,hc,hd,hproto]
      · simp [Database.cutCredential,hc]
    have hnopeer : ∀ url k,¬s.db.CutPeer (fun k => k=device.id) url k := by
      rintro url k ⟨d,hdm,hid,hwire,_⟩
      rw [honly d hdm hid,hproto] at hwire
      cases hwire
    have hvd : v.db.devices=s.db.devices := by rw [hoff.rest]
    have ht := hdevices hlast hvd
    cases hlast
    have hvp : v.db.vpnPeers=s.db.vpnPeers := by rw [hoff.rest]
    have hvs : v.db.vpnServers=s.db.vpnServers := by rw [hoff.rest]
    have hvc : v.db.vlessServerConfigs=s.db.vlessServerConfigs := by rw [hoff.rest]
    refine ⟨ht,?_,hvp,hvs,hvc,fun url k hk => absurd hk (hnopeer url k),fun url k _ => ?_,
      fun url u hu => ?_,fun url u hu => ?_⟩
    · rw [hcuts]
      exact hoff.credentials
    · exact congrFun (congrArg _ (congrFun hoff.desk.2.2.2 url)) k
    · exact hoff.xrayOff url u (hcuts ▸ hu)
    · exact hoff.xrayOn url u (hcuts ▸ hu)
  | wireguard =>
    simp only [hproto] at hv
    have hnocut : s.db.cutCredentials (fun k => k=device.id)=[] := by
      unfold Database.cutCredentials
      rw [List.filter_eq_nil_iff]
      intro c _ hc
      have hc' := mem_cutCredentials.mp (List.mem_filter.mpr ⟨‹_›,hc⟩)
      obtain ⟨_,_,hid,d,hget,hvless⟩ := hc'
      have hid : c.deviceId=device.id := by simpa using hid
      rw [hid,hd] at hget
      cases hget
      rw [hproto] at hvless
      cases hvless
    have hcreds : s.db.vlessCredentials=s.db.vlessCredentials.mapRows
        (disabledAmong (s.db.cutCredentials fun k => k=device.id)) (disabledAmong_id _) := by
      refine (Store.mapRows_self _ _ fun r _ => ?_).symm
      rw [hnocut]
      rfl
    have hnouser : ∀ url u,¬Removes (s.db.cutCredentials fun k => k=device.id) s.db url u := by
      rintro url u ⟨c,hc,_⟩
      rw [hnocut] at hc
      cases hc
    obtain ⟨server,hserver,⟨hnone,hvs⟩|⟨p,os,hp,_,hvs⟩⟩ := disablePeer_ok hv
    · subst hvs
      have ht := hdevices hlast rfl
      cases hlast
      refine ⟨ht,hcreds,rfl,rfl,rfl,fun url k hk => ?_,fun _ _ _ => rfl,
        fun url u hu => absurd hu (hnouser url u),fun _ _ _ => rfl⟩
      obtain ⟨d,hdm,hid,_,_,p,_,_,hp,_⟩ := hk
      rw [honly d hdm hid,hnone] at hp
      cases hp
    · have hcut : ∀ url k,s.db.CutPeer (fun k => k=device.id) url k ↔
          url=server.agentBaseUrl ∧ k=p.publicKey := by
        intro url k
        constructor
        · rintro ⟨d,hdm,hid,_,server',p',hs',hurl,hp',hk⟩
          rw [honly d hdm hid] at hs' hp'
          rw [hserver] at hs'
          rw [hp] at hp'
          cases hs'
          cases hp'
          exact ⟨hurl.symm,hk.symm⟩
        · rintro ⟨rfl,rfl⟩
          exact ⟨device,hmem,by simp,hproto,server,p,hserver,rfl,hp,rfl⟩
      subst hvs
      have ht := hdevices hlast rfl
      cases hlast
      refine ⟨ht,hcreds,rfl,rfl,rfl,fun url k hk => ?_,fun url k hk => ?_,
        fun url u hu => absurd hu (hnouser url u),fun _ _ _ => rfl⟩
      · obtain ⟨rfl,rfl⟩ := (hcut url k).mp hk
        simp [setVpn,PeerStore.get?_setEnabled]
      · by_cases hurl : url=server.agentBaseUrl
        · have hne : k≠p.publicKey := fun he => hk ((hcut url k).mpr ⟨hurl,he⟩)
          simp [setVpn,hurl,PeerStore.get?_setEnabled,hne]
        · simp [setVpn,hurl]

end

/-- Nothing on record stands in the way of disabling the device: its server exists and its agent
knows its peer. -/
def Ready (w : World) (d : Device) : Prop := match d.protocol with
  | .vless => ∀ c∈w.db.activeCredentials d.id,(w.db.vpnServers.get? c.serverId).isSome
  | .wireguard => ∃ server,w.db.serverOf d=some server ∧
    ∀ p,w.db.activePeer d.id=some p → ((w.vpn server.agentBaseUrl).get? p.publicKey).isSome

section

variable {D : Id → Bool} {s t : Session} {d : Device}

theorem disableCredential_completes {c : VlessCredential} (ho : s.outcomes=[])
    (h : (s.db.vpnServers.get? c.serverId).isSome) :
    ∃ t,disableCredential c s=(.ok (),t) ∧ t.outcomes=[] ∧ t.db.vpnServers=s.db.vpnServers := by
  obtain ⟨server,hserver⟩ := Option.isSome_iff_exists.mp h
  have hget : getServer c.serverId s=(.ok server,s) := by
    unfold getServer
    rw [getDb_bind_run,hserver]
    rfl
  have hconfig : configForCredential c s=(.ok (s.db.vlessConfig server.id),s) :=
    Eff.bind_run_ok hget
  have hremove : ∃ t,removeCredentialFromXray c s=(.ok (),t) ∧ t.outcomes=[] ∧ t.db=s.db := by
    unfold removeCredentialFromXray
    rw [Eff.bind_run_ok hconfig]
    cases s.db.vlessConfig server.id with
    | none => exact ⟨s,rfl,ho,rfl⟩
    | some config =>
      have hnext : upcoming s.outcomes=(.answered,[]) := by rw [ho]; rfl
      exact ⟨_,xrayRequest_answered hnext,rfl,rfl⟩
  obtain ⟨t,ht,hto,htd⟩ := hremove
  refine ⟨_,Eff.bind_run_ok ht,hto,?_⟩
  rw [← htd]

theorem disableCredentials_completes {cs : List VlessCredential} (ho : s.outcomes=[])
    (h : ∀ c∈cs,(s.db.vpnServers.get? c.serverId).isSome) :
    ∃ t,Eff.each disableCredential cs s=(.ok (),t) ∧ t.outcomes=[] := by
  induction cs generalizing s with
  | nil => exact ⟨s,rfl,ho⟩
  | cons c cs ih =>
    obtain ⟨u,hu,huo,hus⟩ := disableCredential_completes ho (h c List.mem_cons_self)
    obtain ⟨t,ht,hto⟩ := ih huo fun x hx => by
      rw [hus]
      exact h x (List.mem_cons_of_mem c hx)
    exact ⟨t,(Eff.bind_run_ok hu).trans ht,hto⟩

/-- While everything is answered, a device that is ready can be disabled. -/
theorem disable_completes (ho : s.outcomes=[]) (h : Ready s.toWorld d) :
    ∃ t,disable d s=(.ok (),t) ∧ t.outcomes=[] := by
  have htransport : ∃ t,disableTransport d s=(.ok (),t) ∧ t.outcomes=[] := by
    unfold Ready at h
    unfold disableTransport
    cases hproto : d.protocol with
    | vless =>
      simp only [hproto] at h
      show ∃ t,disableCredentials d.id s=(.ok (),t) ∧ t.outcomes=[]
      unfold disableCredentials
      rw [getDb_bind_run]
      exact disableCredentials_completes ho h
    | wireguard =>
      simp only [hproto] at h
      obtain ⟨server,hserver,hknown⟩ := h
      have hget : serverOfDevice d s=(.ok server,s) := serverOfDevice_of hserver
      show ∃ t,disablePeer d s=(.ok (),t) ∧ t.outcomes=[]
      unfold disablePeer
      rw [Eff.bind_run_ok hget]
      unfold withActivePeer
      rw [getDb_bind_run]
      cases hp : s.db.activePeer d.id with
      | none => exact ⟨s,rfl,ho⟩
      | some p =>
        obtain ⟨r,hr⟩ := Option.isSome_iff_exists.mp (hknown p hp)
        have hnext : upcoming s.outcomes=(.answered,[]) := by rw [ho]; rfl
        have hop : PeerStore.disablePeer p.publicKey (s.vpn server.agentBaseUrl)=
            some (PeerStore.setEnabled (s.vpn server.agentBaseUrl) p.publicKey false) := by
          unfold PeerStore.disablePeer
          rw [hr]
          rfl
        exact ⟨_,vpnRequest_answered hnext hop,rfl⟩
  obtain ⟨t,ht,hto⟩ := htransport
  exact ⟨_,Eff.bind_run_ok ht,hto⟩

theorem disableCredentials_servers {cs : List VlessCredential}
    (h : Eff.each disableCredential cs s=(.ok (),t)) :
    ∀ c∈cs,(s.db.vpnServers.get? c.serverId).isSome := by
  induction cs generalizing s with
  | nil =>
    intro c hc
    cases hc
  | cons c cs ih =>
    obtain ⟨_,u,hu,hrest⟩ := Eff.bind_ok.mp h
    have hkept : u.db.vpnServers=s.db.vpnServers := by rw [(disableCredential_off hu).rest]
    have hrest' := ih hrest
    rw [hkept] at hrest'
    intro x hx
    rcases List.mem_cons.mp hx with hx|hx
    · subst hx
      obtain ⟨_,v,hv,_⟩ := Eff.bind_ok.mp hu
      obtain ⟨_,v',hv',_⟩ := Eff.bind_ok.mp hv
      obtain ⟨server,v'',hv'',_⟩ := Eff.bind_ok.mp hv'
      rw [(getServer_ok hv'').2]
      rfl
    · exact hrest' x hx

/-- Only a device that is ready can be disabled. -/
theorem disable_ready (h : disable d s=(.ok (),t)) : Ready s.toWorld d := by
  obtain ⟨_,v,hv,_⟩ := Eff.bind_ok.mp h
  unfold disableTransport at hv
  unfold Ready
  cases hproto : d.protocol with
  | vless =>
    simp only [hproto] at hv
    unfold disableCredentials at hv
    rw [getDb_bind_run] at hv
    exact disableCredentials_servers hv
  | wireguard =>
    simp only [hproto] at hv
    obtain ⟨server,hserver,⟨hnone,_⟩|⟨p,_,hp,hknown,_⟩⟩ := disablePeer_ok hv
    · refine ⟨server,hserver,fun p hp => ?_⟩
      rw [hnone] at hp
      cases hp
    · refine ⟨server,hserver,fun q hq => ?_⟩
      rw [hp] at hq
      cases hq
      exact hknown

/-- Switching off other devices makes no difference to whether a device is ready. -/
theorem DevicesOff.ready_iff (h : DevicesOff D s t) (hd : D d.id=false) :
    Ready t.toWorld d ↔ Ready s.toWorld d := by
  have hcreds : ∀ c,c∈t.db.activeCredentials d.id ↔ c∈s.db.activeCredentials d.id := by
    intro c
    have hkept : ∀ r∈s.db.vlessCredentials.rows,r.deviceId=d.id →
        disabledAmong (s.db.cutCredentials D) r=r := by
      intro r hr hrd
      rw [disabledAmong_cut hr]
      simp [Database.cutCredential,hrd,hd]
    have hdevice : ∀ r,(disabledAmong (s.db.cutCredentials D) r).deviceId=r.deviceId := by
      intro r
      unfold disabledAmong
      split_ifs <;> rfl
    rw [Database.mem_activeCredentials,Database.mem_activeCredentials,h.credentials]
    simp only [Store.rows_mapRows,List.mem_map]
    constructor
    · rintro ⟨⟨r,hr,rfl⟩,hrd,hact⟩
      rw [hdevice] at hrd
      rw [hkept r hr hrd] at hact ⊢
      exact ⟨hr,hrd,hact⟩
    · rintro ⟨hc,hcd,hact⟩
      exact ⟨⟨c,hc,hkept c hc hcd⟩,hcd,hact⟩
  have hknown : ∀ url k,((t.vpn url).get? k).isSome=((s.vpn url).get? k).isSome := by
    intro url k
    by_cases hk : s.db.CutPeer D url k
    · rw [h.vpnOff url k hk,Option.isSome_map]
    · rw [h.vpnOn url k hk]
  have hserver : t.db.serverOf d=s.db.serverOf d := by
    unfold Database.serverOf
    rw [h.servers]
  have hpeer : t.db.activePeer d.id=s.db.activePeer d.id := by
    unfold Database.activePeer Database.activePeers
    rw [h.peers]
  unfold Ready
  cases d.protocol with
  | vless => simp only [hcreds,h.servers]
  | wireguard => simp only [hserver,hpeer,hknown]

end

end VpnService.Backend
