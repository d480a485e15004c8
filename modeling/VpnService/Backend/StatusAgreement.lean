import VpnService.Backend.Concord

namespace VpnService.Backend

open Agent

/-- Nothing of the device is live at an agent. -/
structure Off (w : World) (d : Device) : Prop where
  peers : ∀ url k r,(w.vpn url).get? k=some r → r.deviceId=d.id → r.enabled=false
  users : ∀ url k r,(w.xray url).get? k=some r → r.deviceId≠d.id

/-- The active peer of the device is enabled at the agent of its server, and no other is. -/
structure OnWireguard (w : World) (d : Device) : Prop where
  peer : ∃ p server r,w.db.activePeer d.id=some p ∧ w.db.serverOf d=some server ∧
    (w.vpn server.agentBaseUrl).get? p.publicKey=some r ∧ r.deviceId=d.id ∧ r.enabled=true ∧
    ∀ url k x,(w.vpn url).get? k=some x → x.deviceId=d.id →
      url=server.agentBaseUrl ∧ k=p.publicKey
  users : ∀ url k r,(w.xray url).get? k=some r → r.deviceId≠d.id

/-- The users of the credentials that are not revoked are enabled, and there are no others. -/
structure OnVless (w : World) (d : Device) : Prop where
  users : ∀ c∈w.db.credentialsOf d.id,c.status≠.revoked →
    ∃ config r,w.db.vlessConfig c.serverId=some config ∧
      (w.xray config.xrayAgentBaseUrl).get? c.uuid=some r ∧ r.deviceId=d.id ∧ r.enabled=true
  only : ∀ url k r,(w.xray url).get? k=some r → r.deviceId=d.id →
    ∃ c∈w.db.credentialsOf d.id,c.status≠.revoked ∧ c.uuid=k ∧
      ∃ config,w.db.vlessConfig c.serverId=some config ∧ config.xrayAgentBaseUrl=url
  peers : ∀ url k r,(w.vpn url).get? k=some r → r.deviceId≠d.id

/-- The status of the device is what its agents show. -/
structure Agrees (w : World) (d : Device) : Prop where
  off : d.status≠.active → Off w d
  wireguard : d.status=.active → d.protocol=.wireguard → OnWireguard w d
  vless : d.status=.active → d.protocol=.vless → OnVless w d

def StatusAgrees (w : World) : Prop := ∀ d∈w.db.devices.rows,Agrees w d

section

variable {w : World} {d : Device}

theorem Accords.agrees (h : Accords w d) (hw : Settled w) (hd : w.db.devices.get? d.id=some d) :
    Agrees w d := by
  have hpeer : ∀ {url k r},(w.vpn url).get? k=some r → r.deviceId=d.id → d.protocol≠.vless := by
    intro url k r hr hrd hvless
    have hwg := (h.peer hw hd hr hrd).1
    rw [hvless] at hwg
    cases hwg
  have huser : ∀ {url k r},(w.xray url).get? k=some r → r.deviceId=d.id →
      d.protocol≠.wireguard := by
    intro url k r hr hrd hwg
    have hvless := (h.user hw.sound hd hr hrd).1
    rw [hwg] at hvless
    cases hvless
  refine ⟨fun hoff => ⟨fun url k r hr hrd => ?_,fun url k r hr hrd => ?_⟩,fun hact hproto =>
    ⟨?_,fun url k r hr hrd => huser hr hrd hproto⟩,fun hact hproto =>
    ⟨fun c hc hlive => ?_,fun url k r hr hrd => ?_,fun url k r hr hrd => hpeer hr hrd hproto⟩⟩
  · have hproto := (h.peer hw hd hr hrd).1
    exact (Dark.wireguard hproto).mp (h.dark hoff) url k r hr hrd
  · obtain ⟨hproto,c,_,hc,_,hact,_⟩ := h.user hw.sound hd hr hrd
    exact (Dark.vless hproto).mp (h.dark hoff) c hc hact
  · obtain ⟨url,k,r,hr,hrd,hon⟩ := (Lit.wireguard hproto).mp (h.lit hact)
    obtain ⟨_,p,server,hp,hk,hserver,hurl⟩ := h.peer hw hd hr hrd
    subst hk hurl
    refine ⟨p,server,r,hp,hserver,hr,hrd,hon,fun url k x hx hxd => ?_⟩
    obtain ⟨_,q,found,hq,hqk,hfound,hfoundUrl⟩ := h.peer hw hd hx hxd
    rw [hp] at hq
    cases hq
    rw [hserver] at hfound
    cases hfound
    exact ⟨hfoundUrl.symm,hqk.symm⟩
  · obtain ⟨_,url,r,hr,hon⟩ := (Lit.vless hproto).mp (h.lit hact) c hc hlive
    obtain ⟨hmem,hcd⟩ := (w.db.mem_credentialsOf).mp hc
    have hrd : r.deviceId=d.id := (hw.sound.credentialOwner c hmem url r hr).trans hcd
    obtain ⟨_,x,config,hx,_,_,hconfig,hurl⟩ := h.user hw.sound hd hr hrd
    obtain ⟨hxmem,hxd⟩ := (w.db.mem_credentialsOf).mp hx
    have hsame : x=c := hw.sound.consistent.lone x hxmem c hmem (hxd.trans hcd.symm)
    subst hsame hurl
    exact ⟨config,r,hconfig,hr,hrd,hon⟩
  · obtain ⟨_,c,config,hc,hk,hcact,hconfig,hurl⟩ := h.user hw.sound hd hr hrd
    exact ⟨c,hc,by rw [hcact]; decide,hk,config,hconfig,hurl⟩

theorem Accord.statusAgrees (h : Accord w) (hw : Settled w) : StatusAgrees w := fun d hd =>
  (h d hd).agrees hw (w.db.devices.get?_of_mem hd)

end

/-- A request, or a call of `disable_all_for_user` in a transaction of its own. -/
inductive Operation
  | request (r : Request)
  | disableAllForUser (userId : Id)

structure Turn where
  env : Env
  operation : Operation

def perform (cfg : Settings) (w : World) (a : Turn) : World := match a.operation with
  | .request r => after cfg w ⟨a.env,r⟩
  | .disableAllForUser userId => (transaction (disableAllForUser userId) a.env w).2

/-- All agents and statements answer, and no server is deleted or moved. -/
def Turn.smooth (a : Turn) : Bool := a.env.outcomes=[] && match a.operation with
  | .request (.servers r) => !r.moves
  | _ => true

def Turn.accords (cfg : Settings) (w : World) (a : Turn) : Bool := match a.operation with
  | .request r => r.accords cfg w a.env
  | .disableAllForUser _ => true

/-- What the turns keep. -/
structure Concord (cfg : Settings) (w : World) : Prop where
  settled : Settled w
  versioned : Versioned w.serial w.db
  ledger : Ledger cfg w.serial w.db
  accord : Accord w

section

variable {cfg : Settings} {w : World}

theorem Concord.initial (cfg : Settings) : Concord cfg .initial where
  settled := reachable_settled (.initial cfg)
  versioned := reachable_versioned (.initial cfg)
  ledger := reachable_ledger (.initial cfg)
  accord d hd := by
    exact absurd hd (by simp [World.initial,Database.empty])

theorem Concord.named (h : Concord cfg w) : ∀ x∈w.db.subscriptions.rows,Named w.db x :=
  fun x hx => ⟨h.ledger.plans x hx,h.ledger.users x hx⟩

theorem Concord.perform {a : Turn} (h : Concord cfg w) (ho : a.env.outcomes=[])
    (hgood : a.accords cfg w=true) : Concord cfg (perform cfg w a) := by
  obtain ⟨env,operation⟩ := a
  cases operation with
  | request r =>
    exact ⟨after_settled h.settled,after_versioned h.settled.sound h.versioned,
      after_ledger h.settled.sound h.ledger,
      after_accord h.settled h.versioned.oneCurrent h.named h.accord ho hgood⟩
  | disableAllForUser userId =>
    obtain ⟨t,ht,hheld,_⟩ := disableAllForUser_held (s := ⟨w,env⟩) ⟨h.settled,h.accord,ho⟩ userId
    have hsame : Backend.perform cfg w ⟨env,.disableAllForUser userId⟩=t.toWorld :=
      congrArg Prod.snd (transaction_calm ht hheld.calm)
    have hhost := ((disableAllForUser_hosting userId) ⟨w,env⟩).rel_of_run ht
    have hbooks : (keepingBooks fun _ => False).rel ⟨w,env⟩ t :=
      books_of_billing (billing_of_contract (contract_of_hosting hhost)).1 hhost.2
    rw [hsame]
    exact ⟨hheld.settled,profile_of_hosting hhost h.versioned,
      Ledger.of_kept (s := ⟨w,env⟩) h.ledger hbooks,hheld.accord⟩

end

/-- Device status and agents agree throughout every run whose steps accord. -/
theorem status_agrees (cfg : Settings) (as : List Turn)
    (h : Conducted (fun w a => a.smooth=true ∧ a.accords cfg w=true) (perform cfg) .initial as) :
    Throughout StatusAgrees (perform cfg) .initial as := by
  refine throughout_of_conducted (Concord cfg) (fun w hw => hw.accord.statusAgrees hw.settled)
    (fun w a hw ha => ?_) _ as (Concord.initial cfg) h
  have hcalm : a.env.outcomes=[] := by
    have hsmooth := ha.1
    simp only [Turn.smooth,Bool.and_eq_true,decide_eq_true_eq] at hsmooth
    exact hsmooth.1
  exact hw.perform hcalm ha.2

/-- The calls of a run as turns. -/
def turns (calls : List Call) : List Turn := calls.map fun c => ⟨c.env,.request c.request⟩

theorem status_agrees_opened : Throughout StatusAgrees (perform sampleSettings) .initial
    (turns opening++[
      ⟨quiet 3,.request (.device 77 11 .disable)⟩,⟨quiet 4,.request (.device 77 11 .enable)⟩,
      ⟨quiet 5,.request (.device 77 11 .reissue)⟩,⟨quiet 6,.disableAllForUser 1⟩,
      ⟨quiet 7,.request (.device 77 11 .revoke)⟩]) :=
  status_agrees sampleSettings _ (by decide +kernel)

/-- The device of the opened shop is disabled and reissued. -/
def reissuingDisabled : List Turn := turns opening++[
  ⟨quiet 3,.request (.device 77 11 .disable)⟩,⟨quiet 4,.request (.device 77 11 .reissue)⟩]

/-- A reissue makes a live peer for a device that is disabled. -/
theorem status_disagrees : ¬∀ (cfg : Settings) (as : List Turn),(∀ a∈as,a.smooth=true) →
    Throughout StatusAgrees (perform cfg) .initial as := by
  intro h
  have hlast := (h sampleSettings reissuingDisabled (by decide +kernel)).last
  have hrow : ((reissuingDisabled.foldl (perform sampleSettings) .initial).db.devices.get? 11).map
      Device.status=some .disabled := by decide +kernel
  have hrecord : (((reissuingDisabled.foldl (perform sampleSettings) .initial).vpn "http://agent").get?
      18).map (fun r => (r.deviceId,r.enabled))=some (11,true) := by decide +kernel
  obtain ⟨d,hd,hdis⟩ := Option.map_eq_some_iff.mp hrow
  obtain ⟨r,hr,he⟩ := Option.map_eq_some_iff.mp hrecord
  obtain ⟨hrd,hon⟩ := Prod.mk.inj he
  have hid : d.id=11 := Store.key_of_get? hd
  have hoff := (hlast d (Store.mem_of_get? hd)).off (by rw [hdis]; decide)
  have hdown := hoff.peers "http://agent" 18 r hr (hrd.trans hid.symm)
  exact absurd (hon.symm.trans hdown) (by decide)

end VpnService.Backend
