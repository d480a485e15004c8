import VpnService.Backend.Limits

namespace VpnService.Backend

/-- An active device of the user that the step from `w` to `w'` has disabled. -/
def SweptOff (w w' : World) (userId : Id) (d : Device) : Prop :=
  d∈w.db.devices.rows ∧ d.userId=userId ∧ d.status=.active ∧
    ∃ e,w'.db.devices.get? d.id=some e ∧ e.status=.disabled

/-- The device is active again, with the key and address or the uuids it had, enabled at the
agent. -/
def BackOn (w w' : World) (d : Device) : Prop :=
  (∃ e,w'.db.devices.get? d.id=some e ∧ e.status=.active) ∧ match d.protocol with
    | .wireguard => ∀ p,w.db.activePeer d.id=some p → ∃ q r,w'.db.activePeer d.id=some q ∧
      q.publicKey=p.publicKey ∧ q.assignedIp=p.assignedIp ∧ peerRecord w' d=some r ∧
      r.enabled=true
    | .vless => ∀ c∈w.db.activeCredentials d.id,∃ x∈w'.db.activeCredentials d.id,
      x.uuid=c.uuid ∧ ∃ r,userRecord w' x=some r ∧ r.enabled=true

/-- The user's devices that went off between `w` and `w'` are on again, but for the revoked. -/
def Restored (w w' w'' : World) (userId : Id) : Prop :=
  ∀ d,SweptOff w w' userId d → (∃ e,w''.db.devices.get? d.id=some e ∧ e.status≠.revoked) →
    BackOn w w'' d

/-- The webhook confirms a payment of the user. -/
def Renews (cfg : Settings) (w : World) (userId : Id) (c : Call) : Prop :=
  (∃ rawBody signature,c.request=.billing (.paymentWebhook rawBody signature)) ∧
    ∃ p q,w.db.payments.get? p.id=some p ∧ p.userId=userId ∧ p.status≠.succeeded ∧
      (after cfg w c).db.payments.get? p.id=some q ∧ q.status=.succeeded

def Request.enables (deviceId : Id) : Request → Bool
  | .device _ k .enable => k=deviceId
  | _ => false

/-- A number in use whose device is not active, if there is one. -/
structure Dormant (k : Id) (w : World) : Prop where
  used : k<w.serial
  inactive : ∀ e,w.db.devices.get? k=some e → e.status≠.active

section

variable {cfg : Settings} {w : World} {k : Id}

theorem handle_dormant (hs : Sound w) (hk : Dormant k w) {c : Call} {a : Response} {s : Session}
    (hc : c.request.enables k=false) (h : handle cfg c.request ⟨w,c.env⟩=(.ok a,s)) :
    ∀ e,s.db.devices.get? k=some e → e.status≠.active := by
  obtain ⟨env,r⟩ := c
  have hsame : s.db.devices.get? k=w.db.devices.get? k →
      ∀ e,s.db.devices.get? k=some e → e.status≠.active :=
    fun hget e he => hk.inactive e (hget.symm.trans he)
  by_cases hlights : r.lights=false
  · intro e he hact
    obtain ⟨d,hd,hid,_,hdact⟩ :=
      (handle_quieting cfg hlights ⟨w,env⟩).rel_of_run h e (Store.mem_of_get? he)
    have hget := w.db.devices.get?_of_mem hd
    rw [hid,Store.key_of_get? he] at hget
    exact hk.inactive d hget (hdact hact)
  · cases r with
    | createDevice telegramId name requested protocol =>
      rcases handleCreateDevice_run cfg telegramId name requested protocol ⟨w,env⟩ with
        ⟨e,he⟩|⟨user,_,he⟩
      · rw [handle,he] at h
        cases h
      · rw [handle,he] at h
        obtain ⟨p,u,hu,hlast⟩ := Eff.bind_ok.mp h
        cases hlast
        have htouched := (provision_touching (s := ⟨w,env⟩) cfg user name requested protocol
          (hs.covers (s := ⟨w,env⟩) w.serial)).rel_of_run hu (Scope.of_fits w.serial _)
        exact hsame (htouched.db.devices k (ne_of_lt hk.used))
    | device telegramId deviceId r =>
      have hr : r=.enable := by
        by_contra hne
        exact hlights (decide_eq_false hne)
      subst hr
      have hne : deviceId≠k := of_decide_eq_false hc
      rcases handleOwned_run cfg telegramId deviceId .enable ⟨w,env⟩ with
        ⟨e,he⟩|⟨user,device,_,hget,_,he⟩
      · rw [handle,he] at h
        cases h
      · rw [handle,he] at h
        obtain ⟨_,u,hu,hlast⟩ := Eff.bind_ok.mp h
        obtain ⟨d,v,hv,hlast'⟩ := Eff.bind_ok.mp hlast
        cases hv
        cases hlast'
        have hid : device.id=deviceId := Store.key_of_get? hget
        apply hsame
        rw [(enable_active hu).2]
        exact Store.get?_modify_ne _ _ _ (by rw [hid]; exact hne.symm)
    | _ => exact absurd rfl hlights

/-- A device that is off stays off until it is enabled. -/
theorem after_dormant (hs : Sound w) (hk : Dormant k w) {c : Call}
    (hc : c.request.enables k=false) : Dormant k (after cfg w c) := by
  unfold after
  rcases serve_cases cfg c.env c.request w with ⟨a,s,hm,hserve⟩|⟨x,e,s,hm,hserve⟩
  · rw [hserve]
    have hserial : (w.serial : Int)≤ s.serial := handle_serial cfg c.request (s := ⟨w,c.env⟩) hs hm
    exact ⟨Int.lt_of_lt_of_le hk.used hserial,handle_dormant hs hk hc hm⟩
  · rw [hserve]
    have hserial : (w.serial : Int)≤ s.serial := handle_serial cfg c.request (s := ⟨w,c.env⟩) hs hm
    exact ⟨Int.lt_of_lt_of_le hk.used hserial,hk.inactive⟩

theorem run_dormant (hs : Sound w) (hk : Dormant k w) (cs : List Call)
    (hcs : ∀ c∈cs,c.request.enables k=false) : Dormant k (cs.foldl (after cfg) w) := by
  induction cs generalizing w with
  | nil => exact hk
  | cons c cs ih =>
    exact ih (after_sound hs) (after_dormant hs hk (hcs c List.mem_cons_self))
      fun c hc => hcs c (List.mem_cons_of_mem _ hc)

theorem SweptOff.dormant {w' : World} {userId : Id} {d : Device} (hs : Sound w')
    (h : SweptOff w w' userId d) : Dormant d.id w' := by
  obtain ⟨_,_,_,e,he,hoff⟩ := h
  refine ⟨?_,fun x hx => ?_⟩
  · have hlt := hs.consistent.devices e (Store.mem_of_get? he)
    rw [Store.key_of_get? he] at hlt
    exact hlt
  · rw [he] at hx
    cases hx
    rw [hoff]
    decide

/-- Payments go on without a look at the devices. -/
theorem renews_devices {userId : Id} {c : Call} (h : Renews cfg w userId c) :
    (after cfg w c).db.devices=w.db.devices := by
  obtain ⟨⟨rawBody,signature,hreq⟩,_⟩ := h
  unfold after
  rcases serve_cases cfg c.env c.request w with ⟨a,s,hm,hserve⟩|⟨x,e,s,_,hserve⟩
  · rw [hserve]
    rw [hreq] at hm
    have hview := ((handleBilling_fleet cfg (.paymentWebhook rawBody signature)
      ⟨w,c.env⟩).rel_of_run hm).1
    simp only [fleetView,Prod.mk.injEq] at hview
    exact hview.2.2.1
  · rw [hserve]

/-- A renewal restores what a sweep switched off, and nobody has enabled since, only where nothing
is left to restore: all of it has been revoked. -/
theorem renewal_restores_iff (hw : Reachable cfg w) (env : Env) (asOf : Option Time)
    (cs : List Call) (c : Call) {userId : Id} {w₁ w₂ : World}
    (hsweep : w₁=after cfg w ⟨env,.sweep asOf⟩) (hrun : w₂=cs.foldl (after cfg) w₁)
    (hcs : ∀ d,SweptOff w w₁ userId d → ∀ c∈cs,c.request.enables d.id=false)
    (hc : Renews cfg w₂ userId c) : Restored w w₁ (after cfg w₂ c) userId ↔
      ∀ d,SweptOff w w₁ userId d → ∀ e,w₂.db.devices.get? d.id=some e → e.status=.revoked := by
  have hsound : Sound w₁ := by
    rw [hsweep]
    exact after_sound (reachable_sound hw)
  have hdormant : ∀ d,SweptOff w w₁ userId d → Dormant d.id w₂ := by
    intro d hd
    rw [hrun]
    exact run_dormant hsound (hd.dormant hsound) cs (hcs d hd)
  have hdevices := renews_devices hc
  unfold Restored BackOn
  rw [hdevices]
  constructor
  · intro hrestored d hd e he
    by_contra hne
    obtain ⟨⟨x,hx,hact⟩,_⟩ := hrestored d hd ⟨e,he,hne⟩
    exact (hdormant d hd).inactive x hx hact
  · rintro hrevoked d hd ⟨e,he,hne⟩
    exact absurd (hrevoked d hd e he) hne

end

/-- The opened shop after a sweep that finds its subscription over. -/
def lapsed : World := after sampleSettings opened ⟨quiet (days 31),.sweep none⟩

/-- User 1 buys the plan again. -/
def rebought : World :=
  after sampleSettings lapsed (calm (days 32) (.billing (.createPayment 77 2 none)))

theorem rebought_renews :
    Renews sampleSettings rebought 1 (calm (days 33) (delivery 21 .succeeded)) := by
  refine ⟨⟨_,_,rfl⟩,?_⟩
  have hbefore : ∃ p∈rebought.db.payments.rows,p.id=22 ∧ p.userId=1 ∧ p.status≠.succeeded := by
    decide +kernel
  have hafter : ∃ q∈(after sampleSettings rebought
      (calm (days 33) (delivery 21 .succeeded))).db.payments.rows,q.id=22 ∧ q.status=.succeeded := by
    decide +kernel
  obtain ⟨p,hp,hpid,huser,hopen⟩ := hbefore
  obtain ⟨q,hq,hqid,hpaid⟩ := hafter
  refine ⟨p,q,rebought.db.payments.get?_of_mem hp,huser,hopen,?_,hpaid⟩
  rw [hpid,← hqid]
  exact Store.get?_of_mem _ hq

theorem renewal_restores_iff_opened :
    Restored opened lapsed (after sampleSettings rebought (calm (days 33) (delivery 21 .succeeded)))
      1 ↔ ∀ d,SweptOff opened lapsed 1 d →
        ∀ e,rebought.db.devices.get? d.id=some e → e.status=.revoked :=
  renewal_restores_iff opened_reachable (quiet (days 31)) none
    [calm (days 32) (.billing (.createPayment 77 2 none))] _ rfl rfl
    (fun _ _ c hc => by rw [List.mem_singleton.mp hc]; rfl) rebought_renews

/-- The device of user 1 stays off after the renewal. -/
theorem renewal_not_restored : ¬∀ (cfg : Settings) (w : World),Reachable cfg w →
    ∀ (sweep renewal : Call) (cs : List Call) (userId : Id),
      Renews cfg (cs.foldl (after cfg) (after cfg w sweep)) userId renewal →
      Restored w (after cfg w sweep)
        (after cfg (cs.foldl (after cfg) (after cfg w sweep)) renewal) userId := by
  intro h
  have hrestored : Restored opened lapsed
      (after sampleSettings rebought (calm (days 33) (delivery 21 .succeeded))) 1 :=
    h sampleSettings opened opened_reachable ⟨quiet (days 31),.sweep none⟩
      (calm (days 33) (delivery 21 .succeeded))
      [calm (days 32) (.billing (.createPayment 77 2 none))] 1 rebought_renews
  have hoff : ∃ d∈opened.db.devices.rows,d.id=11 ∧ d.userId=1 ∧ d.status=.active ∧
      (∃ e∈lapsed.db.devices.rows,e.id=11 ∧ e.status=.disabled) ∧
      ∃ e∈(after sampleSettings rebought (calm (days 33) (delivery 21 .succeeded))).db.devices.rows,
        e.id=11 ∧ e.status=.disabled := by decide +kernel
  obtain ⟨d,hd,hid,huser,hact,⟨e,he,heid,hdisabled⟩,x,hx,hxid,hstill⟩ := hoff
  generalize after sampleSettings rebought (calm (days 33) (delivery 21 .succeeded))=w at *
  have hget : w.db.devices.get? d.id=some x := by
    rw [hid,← hxid]
    exact Store.get?_of_mem _ hx
  have hswept : SweptOff opened lapsed 1 d :=
    ⟨hd,huser,hact,e,by rw [hid,← heid]; exact Store.get?_of_mem _ he,hdisabled⟩
  obtain ⟨⟨y,hy,hyact⟩,_⟩ := hrestored d hswept ⟨x,hget,by rw [hstill]; decide⟩
  rw [hget] at hy
  cases hy
  rw [hstill] at hyact
  cases hyact

end VpnService.Backend
