import VpnService.Backend.Profiles
import VpnService.Backend.Sweeps
import VpnService.Backend.Tokens

namespace VpnService.Backend

/-- The device has something to deliver: an active peer, or an active credential whose server and
Reality config exist. -/
def Database.Equipped (db : Database) (device : Device) : Prop := match device.protocol with
  | .wireguard => ∃ p∈db.vpnPeers.rows,p.deviceId=device.id ∧ p.status=.active
  | .vless => ∃ c∈db.vlessCredentials.rows,c.deviceId=device.id ∧ c.status=.active ∧
    (db.vpnServers.get? c.serverId).isSome ∧ ∃ x∈db.vlessServerConfigs.rows,x.serverId=c.serverId

/-- The token opens the active link of this active device, whose owner has paid beyond `now`. -/
structure Deliverable (db : Database) (now : Time) (token : Secret) (device : Device) : Prop where
  link : ∃ l∈db.subscriptionLinks.rows,l.tokenHash=⟨token⟩ ∧ l.status=.active ∧
    l.deviceId=device.id
  row : db.devices.get? device.id=some device
  active : device.status=.active
  paid : db.paidBeyond device.userId now=true
  equipped : db.Equipped device

/-- The body names an active peer of the device, or active credentials of the device only. -/
def DeliveredBody.Of (db : Database) (device : Device) : DeliveredBody → Prop
  | .wireguard config => ∃ p∈db.activePeers device.id,config.address=p.assignedIp ∧
    ∃ server,db.vpnServers.get? p.serverId=some server ∧ config.publicKey=server.publicKey ∧
      config.endpoint=server.endpoint
  | .vless lines => ∀ l∈lines,∃ c∈db.activeCredentials device.id,l.uuid=c.uuid

/-- What `_authorize` finds: the link and the device, if every check passes. -/
def authorized (db : Database) (now : Time) (token : Secret) : Option (SubscriptionLink×Device) := do
  let link ← ((if token=.text "" then none else db.linkByTokenHash ⟨token⟩).filter fun l =>
    l.status=.active)
  let device ← (db.devices.get? link.deviceId).filter fun d => d.status=.active
  if coveredAt db now device.userId then some (link,device) else none

/-- Every check that fails raises the same error, and nothing is written. -/
theorem authorize_run (token : Secret) (s : Session) : authorize token s=
    match authorized s.db s.now token with
    | none => (.error deliveryNotFound,s)
    | some (link,device) => (.ok device,(recordAccess link s).2) := by
  unfold authorize authorized
  rw [Eff.bind_run_ok (resolveToken_run token s)]
  cases hl : (if token=.text "" then none else s.db.linkByTokenHash ⟨token⟩).filter fun l =>
    l.status=.active with
  | none => rfl
  | some link =>
    simp only [Eff.orRaise_some,Eff.pure_bind_run,getDb_bind_run]
    cases hd : (s.db.devices.get? link.deviceId).filter fun d => d.status=.active with
    | none => simp [hd]
    | some device =>
      simp only [Eff.orRaise_some,Eff.pure_bind_run,getNow_bind_run]
      cases hc : coveredAt s.db s.now device.userId with
      | false => simp [hd,hc,Eff.require]
      | true =>
        simp [hd,hc,Eff.require]
        rfl

section

variable {cfg : Settings} {n : Int} {db : Database} {now : Time}

/-- The first row by `expires_at` decides as well as all of them do. -/
theorem coveredAt_iff (h : Ledger cfg n db) (userId : Id) :
    coveredAt db now userId=true ↔ db.paidBeyond userId now=true := by
  have hends : ∀ s∈db.activeSubscriptions userId,∃ t,s.expiresAt=some t := by
    intro s hs
    obtain ⟨hmem,hq⟩ := List.mem_filter.mp hs
    have hact : s.status=.active := by simpa using (of_decide_eq_true hq).2
    cases he : s.expiresAt with
    | some t => exact ⟨t,rfl⟩
    | none =>
      obtain ⟨_,hstatus,_⟩ := h.unpaid s hmem he
      rw [hact] at hstatus
      simp at hstatus
  have hpaid : db.paidBeyond userId now=true ↔
      ∃ s∈db.activeSubscriptions userId,∃ t,s.expiresAt=some t ∧ now<t := by
    simp only [Database.paidBeyond,Database.activeEnds,List.any_filterMap]
    constructor
    · intro hany
      obtain ⟨s,hs,hlt⟩ := List.any_eq_true.mp hany
      obtain ⟨t,ht⟩ := hends s hs
      rw [ht] at hlt
      exact ⟨s,hs,t,ht,by simpa using hlt⟩
    · rintro ⟨s,hs,t,ht,hlt⟩
      apply List.any_eq_true.mpr
      refine ⟨s,hs,?_⟩
      rw [ht]
      simpa using hlt
  rw [hpaid]
  unfold coveredAt Database.activeSubscription
  cases hfirst : firstBy expiresBefore (db.activeSubscriptions userId) with
  | none =>
    have hnil : db.activeSubscriptions userId=[] := by
      by_contra hne
      have hsome := (firstBy_isSome expiresBefore _).mpr hne
      rw [hfirst] at hsome
      cases hsome
    simp [hnil]
  | some x =>
    have hx := firstBy_mem _ _ _ hfirst
    obtain ⟨t,ht⟩ := hends x hx
    simp only [ht,decide_eq_true_eq]
    constructor
    · exact fun hlt => ⟨x,hx,t,ht,hlt⟩
    · rintro ⟨y,hy,u,hu,hlt⟩
      have hbefore := firstBy_before expiresBefore_total expiresBefore_trans _ _ hfirst y hy
      have hle : u≤t := by simpa [expiresBefore,ht,hu] using hbefore
      exact lt_of_lt_of_le hlt hle

variable {k : Tokens}

/-- No other link has the hash of this one. -/
theorem Custody.linkByTokenHash (h : Custody n k db) {l : SubscriptionLink}
    (hl : l∈db.subscriptionLinks.rows) : db.linkByTokenHash l.tokenHash=some l := by
  have hissued : ∀ x∈db.subscriptionLinks.rows,x.tokenHash.preimage∈k.issued x.deviceId :=
    fun x hx => List.mem_of_head? (h.rows x hx).2.2.1
  cases hfind : db.linkByTokenHash l.tokenHash with
  | none =>
    have hno := List.find?_eq_none.mp hfind l hl
    simp at hno
  | some x =>
    have hx : x∈db.subscriptionLinks.rows := List.mem_of_find?_eq_some hfind
    have hhash : x.tokenHash=l.tokenHash := by simpa using List.find?_some hfind
    have hxissued := hissued x hx
    rw [hhash] at hxissued
    rw [h.lone x hx l hl (h.apart _ _ _ hxissued (hissued l hl))]

theorem Custody.tokenHash_ne (h : Custody n k db) {l : SubscriptionLink}
    (hl : l∈db.subscriptionLinks.rows) : l.tokenHash.preimage≠.text "" := by
  obtain ⟨i,hi,_⟩ := h.drawn l.deviceId _ (List.mem_of_head? (h.rows l hl).2.2.1)
  rw [hi]
  simp

theorem authorized_iff (hc : Custody n k db) (hl : Ledger cfg n db) {token : Secret}
    {device : Device} : (∃ link,authorized db now token=some (link,device)) ↔
      (∃ l∈db.subscriptionLinks.rows,l.tokenHash=⟨token⟩ ∧ l.status=.active ∧
        l.deviceId=device.id) ∧ db.devices.get? device.id=some device ∧
      device.status=.active ∧ db.paidBeyond device.userId now=true := by
  unfold authorized
  simp only [Option.bind_eq_bind,Option.bind_eq_some_iff,Option.filter_eq_some_iff,
    decide_eq_true_eq,Option.ite_none_right_eq_some,Option.some.injEq,Prod.mk.injEq,
    coveredAt_iff hl]
  constructor
  · rintro ⟨_,l,⟨hfind,hact⟩,d,⟨hget,hon⟩,hpaid,_,rfl⟩
    have hne : token≠.text "" := by
      intro he
      simp [he] at hfind
    rw [if_neg hne] at hfind
    have hmem : l∈db.subscriptionLinks.rows := List.mem_of_find?_eq_some hfind
    have hhash : l.tokenHash=⟨token⟩ := by simpa using List.find?_some hfind
    have hid : d.id=l.deviceId := Store.key_of_get? hget
    exact ⟨⟨l,hmem,hhash,hact,hid.symm⟩,by rw [hid]; exact hget,hon,hpaid⟩
  · rintro ⟨⟨l,hmem,hhash,hact,hd⟩,hget,hon,hpaid⟩
    have hfind := hc.linkByTokenHash hmem
    have hne := hc.tokenHash_ne hmem
    rw [hhash] at hfind hne
    exact ⟨l,l,⟨by rw [if_neg hne]; exact hfind,hact⟩,device,⟨by rw [hd]; exact hget,hon⟩,hpaid,
      rfl,rfl⟩

end

/-- What `deliver` makes of an authorized device. -/
def deliveredConfig (db : Database) (device : Device) : Except AppError DeliveredConfig :=
  match device.protocol with
  | .vless => if deliveryItems db device.id=[] then .error deliveryNotFound
    else .ok (.vless device (deliveryItems db device.id))
  | .wireguard => match db.activePeer device.id with
    | none => .error deliveryNotFound
    | some peer => match db.vpnServers.get? peer.serverId with
      | none => .error deliveryNotFound
      | some server => match db.currentProfiles device.id with
        | [] => .ok (.wireguard device peer server none)
        | [profile] => .ok (.wireguard device peer server (some profile))
        | _::_::_ => .error (internalError "MultipleResultsFound")

theorem deliverVless_run (device : Device) (s : Session) : deliverVless device s=
    (if deliveryItems s.db device.id=[] then .error deliveryNotFound
      else .ok (.vless device (deliveryItems s.db device.id)),s) := by
  unfold deliverVless
  rw [getDb_bind_run]
  by_cases hnil : deliveryItems s.db device.id=[]
  · simp [Eff.require,hnil]
  · simp [Eff.require,hnil]

theorem deliver_run (token : Secret) (s : Session) : deliver token s=
    match authorized s.db s.now token with
    | none => (.error deliveryNotFound,s)
    | some (link,device) => (deliveredConfig s.db device,(recordAccess link s).2) := by
  have hauth := authorize_run token s
  unfold deliver
  cases ha : authorized s.db s.now token with
  | none =>
    rw [ha] at hauth
    exact Eff.bind_run_error hauth
  | some x =>
    obtain ⟨link,device⟩ := x
    rw [ha] at hauth
    refine (Eff.bind_run_ok hauth).trans ?_
    show _=(deliveredConfig s.db device,(recordAccess link s).2)
    have hpeer : (recordAccess link s).2.db.activePeer device.id=s.db.activePeer device.id := rfl
    have hservers : (recordAccess link s).2.db.vpnServers=s.db.vpnServers := rfl
    have hprofiles : (recordAccess link s).2.db.currentProfiles device.id=
        s.db.currentProfiles device.id := rfl
    unfold deliveredConfig
    cases device.protocol with
    | vless => exact deliverVless_run device _
    | wireguard =>
      simp only [getDb_bind_run,hpeer,hservers,hprofiles]
      cases s.db.activePeer device.id with
      | none => rfl
      | some peer =>
        simp only [Eff.orRaise_some,Eff.pure_bind_run]
        cases s.db.vpnServers.get? peer.serverId with
        | none => rfl
        | some server =>
          simp only [Eff.orRaise_some,Eff.pure_bind_run]
          cases s.db.currentProfiles device.id with
          | nil => rfl
          | cons profile rest =>
            cases rest with
            | nil => rfl
            | cons _ _ => rfl

/-- An equipped device has a body, of what is its own; any other is not found. -/
theorem deliveredConfig_cases {cfg : Settings} {w : World} (hw : Reachable cfg w) {device : Device}
    (hd : w.db.devices.get? device.id=some device) (formatHint : Option String) :
    (w.db.Equipped device ∧ ∃ config,deliveredConfig w.db device=.ok config ∧
      (renderDelivered formatHint config).Of w.db device) ∨
    (¬w.db.Equipped device ∧ deliveredConfig w.db device=.error deliveryNotFound) := by
  have hcons := (reachable_sound hw).consistent
  unfold deliveredConfig Database.Equipped
  cases device.protocol with
  | vless =>
    by_cases hnil : deliveryItems w.db device.id=[]
    · right
      simp only [hnil,if_true,and_true]
      rintro ⟨c,hc,hcd,hact,hserver,x,hx,hxs⟩
      obtain ⟨server,hget⟩ := Option.isSome_iff_exists.mp hserver
      have hconfig : (w.db.vlessConfig c.serverId).isSome := by
        unfold Database.vlessConfig
        rw [List.find?_isSome]
        exact ⟨x,hx,by simpa using hxs⟩
      obtain ⟨config,hconf⟩ := Option.isSome_iff_exists.mp hconfig
      have hid : server.id=c.serverId := Store.key_of_get? hget
      have hmem : (c,server,config)∈deliveryItems w.db device.id := by
        unfold deliveryItems
        rw [List.mem_filterMap]
        refine ⟨c,w.db.mem_activeCredentials.mpr ⟨hc,hcd,hact⟩,?_⟩
        simp [hget,hid,hconf]
      rw [hnil] at hmem
      cases hmem
    · left
      have hitem : ∀ item∈deliveryItems w.db device.id,item.1∈w.db.activeCredentials device.id ∧
          (w.db.vpnServers.get? item.1.serverId).isSome ∧
          ∃ x∈w.db.vlessServerConfigs.rows,x.serverId=item.1.serverId := by
        intro item hitem
        obtain ⟨c,hc,he⟩ := List.mem_filterMap.mp hitem
        simp only [Option.bind_eq_bind,Option.bind_eq_some_iff] at he
        obtain ⟨server,hget,config,hconf,hi⟩ := he
        cases hi
        have hid : server.id=c.serverId := Store.key_of_get? hget
        obtain ⟨hx,hxs⟩ := Database.vlessConfig_mem hconf
        exact ⟨hc,by rw [hget]; rfl,config,hx,hxs.trans hid⟩
      obtain ⟨first,hfirst⟩ := List.exists_mem_of_ne_nil _ hnil
      obtain ⟨hc,hserver,hconfig⟩ := hitem first hfirst
      obtain ⟨hmem,hcd,hact⟩ := w.db.mem_activeCredentials.mp hc
      refine ⟨⟨first.1,hmem,hcd,hact,hserver,hconfig⟩,_,if_neg hnil,?_⟩
      intro l hl
      obtain ⟨item,hi,he⟩ := List.mem_map.mp hl
      exact ⟨item.1,(hitem item hi).1,by rw [← he]; rfl⟩
  | wireguard =>
    cases hpeer : w.db.activePeer device.id with
    | none =>
      right
      refine ⟨?_,rfl⟩
      rintro ⟨p,hp,hpd,hact⟩
      exact Database.activePeer_eq_none.mp hpeer p hp hpd hact
    | some p =>
      left
      obtain ⟨hp,hpd,hact⟩ := Database.activePeer_mem hpeer
      obtain ⟨d,hget,_,hserver⟩ := hcons.peerDevices p hp
      rw [hpd,hd] at hget
      cases hget
      obtain ⟨server,hs⟩ := Option.isSome_iff_exists.mp
        (hcons.deviceServers device (Store.mem_of_get? hd) p.serverId (hserver hact))
      have hown : ∀ profile,(renderDelivered formatHint
          (.wireguard device p server profile)).Of w.db device := by
        intro profile
        have hpick : pickFormatter formatHint=renderPeer := pickFormatter_eq formatHint
        unfold renderDelivered
        rw [hpick]
        exact ⟨p,w.db.mem_activePeers.mpr ⟨hp,hpd,hact⟩,rfl,server,hs,rfl,rfl⟩
      refine ⟨⟨p,hp,hpd,hact⟩,?_⟩
      rcases (reachable_oneCurrent hw).currentProfiles device.id with hnone|⟨profile,hone⟩
      · simp only [hs,hnone]
        exact ⟨_,rfl,hown none⟩
      · simp only [hs,hone]
        exact ⟨_,rfl,hown (some profile)⟩

theorem reachable_custody {cfg : Settings} {w : World} (h : Reachable cfg w) :
    ∃ k,Custody w.serial k w.db := by
  obtain ⟨cs,hcs⟩ := h
  have hworld : ∀ (cs : List Call) (x : World×Tokens),
      (cs.foldl (recording cfg) x).1=cs.foldl (after cfg) x.1 := by
    intro cs
    induction cs with
    | nil => exact fun _ => rfl
    | cons c cs ih => exact fun x => ih _
  have hrec := (recorded_custody cfg cs).2
  have hsame : (recorded cfg cs).1=w := (hworld cs _).trans hcs.symm
  exact ⟨_,hsame ▸ hrec⟩

section

variable {cfg : Settings} {w : World} {env : Env} {token : Secret}

theorem Deliverable.delivers {device : Device} (hw : Reachable cfg w)
    (h : Deliverable w.db env.now token device) (formatHint : Option String) :
    ∃ body s,deliverBody token formatHint ⟨w,env⟩=(.ok body,s) ∧ body.1.Of w.db device := by
  obtain ⟨k,hcustody⟩ := reachable_custody hw
  have hrun := deliver_run token ⟨w,env⟩
  obtain ⟨link,hlink⟩ := (authorized_iff hcustody (reachable_ledger hw)).mpr
    ⟨h.link,h.row,h.active,h.paid⟩
  rcases deliveredConfig_cases hw h.row formatHint with ⟨_,config,hconfig,hown⟩|⟨hnot,_⟩
  · rw [hlink] at hrun
    simp only [hconfig] at hrun
    exact ⟨_,_,Eff.bind_run_ok hrun,hown⟩
  · exact absurd h.equipped hnot

theorem deliverBody_undeliverable (hw : Reachable cfg w) (formatHint : Option String)
    (hnone : ¬∃ device,Deliverable w.db env.now token device) :
    ∃ s,deliverBody token formatHint ⟨w,env⟩=(.error deliveryNotFound,s) ∧
      {s.toWorld with db := w.db}=w := by
  obtain ⟨k,hcustody⟩ := reachable_custody hw
  have hrun := deliver_run token ⟨w,env⟩
  cases ha : authorized w.db env.now token with
  | none =>
    rw [ha] at hrun
    exact ⟨_,Eff.bind_run_error hrun,rfl⟩
  | some x =>
    obtain ⟨link,device⟩ := x
    obtain ⟨hlink,hrow,hactive,hpaid⟩ :=
      (authorized_iff hcustody (reachable_ledger hw)).mp ⟨link,ha⟩
    rcases deliveredConfig_cases hw hrow formatHint with ⟨hequipped,_⟩|⟨_,hconfig⟩
    · exact absurd ⟨device,hlink,hrow,hactive,hpaid,hequipped⟩ hnone
    · rw [ha] at hrun
      simp only [hconfig] at hrun
      exact ⟨_,Eff.bind_run_error hrun,rfl⟩

theorem transaction_undeliverable (hw : Reachable cfg w) (formatHint : Option String)
    (hnone : ¬∃ device,Deliverable w.db env.now token device) :
    transaction (deliverBody token formatHint) env w=(.error deliveryNotFound,w) := by
  obtain ⟨s,herr,hsame⟩ := deliverBody_undeliverable hw formatHint hnone
  unfold transaction
  rw [Eff.bind_run_error herr]
  simp only [hsame]

end

/-- The link delivers exactly if its token opens an active device of a paying owner that has
something to deliver, whatever format is asked for; the body is of that device only. In every other
case the error is the same and nothing changes. -/
theorem deliver_exactly {cfg : Settings} {w : World} (hw : Reachable cfg w) (env : Env)
    (token : Secret) (formatHint : Option String) :
    ((∃ body s,deliverBody token formatHint ⟨w,env⟩=(.ok body,s)) ↔
      ∃ device,Deliverable w.db env.now token device) ∧
    (∀ body s,deliverBody token formatHint ⟨w,env⟩=(.ok body,s) →
      ∃ device,Deliverable w.db env.now token device ∧ body.1.Of w.db device) ∧
    ((¬∃ device,Deliverable w.db env.now token device) →
      transaction (deliverBody token formatHint) env w=(.error deliveryNotFound,w)) := by
  have hok : ∀ body s,deliverBody token formatHint ⟨w,env⟩=(.ok body,s) →
      ∃ device,Deliverable w.db env.now token device ∧ body.1.Of w.db device := by
    intro body s hbody
    by_cases hex : ∃ device,Deliverable w.db env.now token device
    · obtain ⟨device,h⟩ := hex
      obtain ⟨body',s',hbody',hown⟩ := h.delivers hw formatHint
      rw [hbody] at hbody'
      cases hbody'
      exact ⟨device,h,hown⟩
    · obtain ⟨s',herr,_⟩ := deliverBody_undeliverable hw formatHint hex
      rw [hbody] at herr
      cases herr
  refine ⟨⟨?_,?_⟩,hok,transaction_undeliverable hw formatHint⟩
  · rintro ⟨body,s,hbody⟩
    obtain ⟨device,h,_⟩ := hok body s hbody
    exact ⟨device,h⟩
  · rintro ⟨device,h⟩
    obtain ⟨body,s,hbody,_⟩ := h.delivers hw formatHint
    exact ⟨body,s,hbody⟩

/-- The link of the opened shop's device delivers, also when an unknown format is asked for. -/
theorem deliver_exactly_opened : ∃ device,Deliverable opened.db 3 (.generated 12) device := by
  have hok : (deliverBody (.generated 12) (some "clash") ⟨opened,quiet 3⟩).1.isOk=true := by
    decide +kernel
  cases hrun : deliverBody (.generated 12) (some "clash") ⟨opened,quiet 3⟩ with
  | mk r s =>
    cases r with
    | error e =>
      rw [hrun] at hok
      cases hok
    | ok body =>
      have hiff := (deliver_exactly opened_reachable (quiet 3) (.generated 12) (some "clash")).1
      exact hiff.mp ⟨body,s,hrun⟩

end VpnService.Backend
