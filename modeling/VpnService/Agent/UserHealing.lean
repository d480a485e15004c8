import VpnService.Agent.UserReconciler

namespace VpnService.Agent

/-- A request to the agent, its periodic pass, or a restart of Xray, which forgets its users. -/
inductive UserEvent
  | addUser (uuid deviceId : Int) (flow : String)
  | removeUser (uuid : Int)
  | rotateUser (uuid newUuid : Int)
  | reconcile
  | restart

structure UserCall where
  event : UserEvent
  now : Int
  outcomes : List GrpcOutcome

def XrayNode.session (n : XrayNode) (now : Int) (outcomes : List GrpcOutcome) : XraySession :=
  ⟨n,now,outcomes,[]⟩

/-- The node after the event; `apply_to_live_xray` is on. -/
def perform (n : XrayNode) (c : UserCall) : XrayNode := match c.event with
  | .addUser uuid deviceId flow =>
    (addUser true uuid deviceId flow (n.session c.now c.outcomes)).2.toXrayNode
  | .removeUser uuid => (removeUser true uuid (n.session c.now c.outcomes)).2.toXrayNode
  | .rotateUser uuid newUuid =>
    (rotateUser true uuid newUuid (n.session c.now c.outcomes)).2.toXrayNode
  | .reconcile => (reconcile true (n.session c.now c.outcomes)).2.toXrayNode
  | .restart => {n with inbound := .empty}

/-- What the callers see to: a uuid belongs to one device, and a device that has a uuid gets no
second one. -/
def Lawful (n : XrayNode) (c : UserCall) : Prop := match c.event with
  | .addUser uuid deviceId _ => ∀ r∈n.users.rows,r.uuid=uuid ↔ r.deviceId=deviceId
  | .rotateUser uuid newUuid => ∀ old∈n.users.get? uuid,∀ r∈n.users.rows,
    r.uuid=newUuid → r.deviceId=old.deviceId
  | .removeUser _ | .reconcile | .restart => True

instance (n : XrayNode) : ∀ c,Decidable (Lawful n c)
  | ⟨.addUser uuid deviceId _,_,_⟩ =>
    inferInstanceAs (Decidable (∀ r∈n.users.rows,r.uuid=uuid ↔ r.deviceId=deviceId))
  | ⟨.rotateUser uuid newUuid,_,_⟩ =>
    inferInstanceAs (Decidable (∀ old∈n.users.get? uuid,∀ r∈n.users.rows,
      r.uuid=newUuid → r.deviceId=old.deviceId))
  | ⟨.removeUser _,_,_⟩ | ⟨.reconcile,_,_⟩ | ⟨.restart,_,_⟩ => inferInstanceAs (Decidable True)

/-- The users of the store, one for each device. -/
structure Orderly (users : UserStore) : Prop where
  emails : ∀ r∈users.rows,r.email=emailForDevice r.deviceId
  lone : ∀ r∈users.rows,∀ q∈users.rows,r.deviceId=q.deviceId → r=q

def liveUsers (n : XrayNode) : List (String×Int) := n.inbound.rows.map fun u => (u.email,u.uuid)

def desiredUsers (n : XrayNode) : List (String×Int) :=
  (n.users.rows.filter UserRecord.enabled).map fun r => (emailForDevice r.deviceId,r.uuid)

/-- The inbound has exactly the enabled users. -/
def Settled (n : XrayNode) : Prop := (liveUsers n).Perm (desiredUsers n)

/-- What no failure breaks: whoever is live is desired, under the same uuid. -/
structure Tracked (n : XrayNode) : Prop extends Orderly n.users where
  held : ∀ u∈n.inbound.rows,∃ r∈n.users.rows,r.enabled=true ∧ r.email=u.email ∧ r.uuid=u.uuid

/-- What no step of a session breaks. -/
abbrev trackedFrame : Frame XraySession := .preserving fun s => Tracked s.toXrayNode

theorem tracked_of_settled {n : XrayNode} (ho : Orderly n.users) (h : Settled n) : Tracked n where
  toOrderly := ho
  held u hu := by
    have hmem : (u.email,u.uuid)∈desiredUsers n :=
      h.subset (List.mem_map.mpr ⟨u,hu,rfl⟩)
    obtain ⟨r,hr,he⟩ := List.mem_map.mp hmem
    obtain ⟨hrow,hon⟩ := List.mem_filter.mp hr
    obtain ⟨hemail,huuid⟩ := Prod.mk.inj he
    exact ⟨r,hrow,hon,by rw [ho.emails r hrow,hemail],huuid⟩

section

variable {s t : XraySession} {r : UserRecord} {uuid deviceId : Int} {email flow operation : String}
  {effect : Inbound → Inbound}

theorem grpcCall_ok {a : Unit} (h : grpcCall operation effect s=(.ok a,t)) :
    ∃ os,t={s with inbound := effect s.inbound,outcomes := os} := by
  unfold grpcCall at h
  split at h
  · cases h
    exact ⟨_,rfl⟩
  · cases h
    exact ⟨_,rfl⟩
  · cases h
  · cases h

/-- Whether it fails or not, a call alters the inbound or does nothing. -/
theorem grpcCall_tracked
    (h : Tracked s.toXrayNode → Tracked {s.toXrayNode with inbound := effect s.inbound}) :
    WithinAt trackedFrame (grpcCall operation effect) s := by
  intro hs
  unfold grpcCall
  split
  · exact h hs
  · exact h hs
  · exact hs
  · exact h hs

theorem noteCall_tracked (call : AlterInbound) : Within trackedFrame (noteCall call) :=
  Within.change fun _ hs => hs

theorem listUserEmails_tracked : Within trackedFrame listUserEmails := fun _ =>
  WithinAt.bind (grpcCall_tracked fun hs => hs) fun _ _ _ => id

theorem listUserEmails_ok {emails : List String} (h : listUserEmails s=(.ok emails,t)) :
    emails=s.inbound.rows.map InboundUser.email ∧ ∃ os,t={s with outcomes := os} := by
  obtain ⟨_,u,hu,h⟩ := Eff.bind_ok.mp h
  obtain ⟨os,hus⟩ := grpcCall_ok hu
  cases h
  rw [hus]
  exact ⟨rfl,os,rfl⟩

theorem removeInboundUser_tracked (email : String) :
    Within trackedFrame (removeInboundUser email) := by
  intro s
  apply WithinAt.bind (noteCall_tracked _ s)
  intro _ u hu
  cases hu
  apply grpcCall_tracked
  intro hs
  exact {hs with held := fun x hx => hs.held x (Store.mem_delete.mp hx).1}

theorem removeInboundUser_ok {a : Unit} (h : removeInboundUser email s=(.ok a,t)) :
    t.users=s.users ∧ t.inbound=s.inbound.delete email := by
  obtain ⟨_,u,hu,h⟩ := Eff.bind_ok.mp h
  cases hu
  obtain ⟨os,hts⟩ := grpcCall_ok h
  rw [hts]
  exact ⟨rfl,rfl⟩

theorem addInboundUser_tracked (hr : r∈s.users.rows) (hon : r.enabled=true)
    (hemail : r.email=email) (huuid : r.uuid=uuid) :
    WithinAt trackedFrame (addInboundUser uuid email flow) s := by
  apply WithinAt.bind (noteCall_tracked _ s)
  intro _ u hu
  cases hu
  apply grpcCall_tracked
  intro hs
  refine {hs with held := fun x hx => ?_}
  rcases Store.mem_upsert.mp hx with hx|⟨hx,_⟩
  · rw [hx]
    exact ⟨r,hr,hon,hemail,huuid⟩
  · exact hs.held x hx

/-- A record takes the place of the one with its uuid, which is its device's. -/
theorem Orderly.write {users : UserStore} (h : Orderly users) {record : UserRecord}
    (hrecord : record.email=emailForDevice record.deviceId)
    (hown : ∀ q∈users.rows,q.uuid=record.uuid ↔ q.deviceId=record.deviceId) :
    Orderly (UserStore.write users record) := by
  obtain ⟨_,hdevice,hemail,_⟩ := UserStore.written_keeps users record
  constructor
  · intro q hq
    rcases UserStore.mem_write.mp hq with hq|⟨hq,_⟩
    · rw [hq,hemail,hdevice,hrecord]
    · exact h.emails q hq
  · intro q hq q' hq' he
    rcases UserStore.mem_write.mp hq with hqr|⟨hq,hne⟩
    · rcases UserStore.mem_write.mp hq' with hqr'|⟨hq',hne'⟩
      · rw [hqr,hqr']
      · rw [hqr,hdevice] at he
        exact absurd ((hown q' hq').mpr he.symm) hne'
    · rcases UserStore.mem_write.mp hq' with hqr'|⟨hq',_⟩
      · rw [hqr',hdevice] at he
        exact absurd ((hown q hq).mpr he) hne
      · exact h.lone q hq q' hq' he

theorem write_tracked {n : XrayNode} {record : UserRecord} (hn : Tracked n)
    (hrecord : record.email=emailForDevice record.deviceId) (hrecordOn : record.enabled=true)
    (hown : ∀ q∈n.users.rows,q.uuid=record.uuid ↔ q.deviceId=record.deviceId) :
    Tracked {n with users := UserStore.write n.users record} := by
  obtain ⟨huuid,_,hemail,_,hon⟩ := UserStore.written_keeps n.users record
  constructor
  · exact hn.toOrderly.write hrecord hown
  · intro x hx
    obtain ⟨q,hq,hqon,hqemail,hquuid⟩ := hn.held x hx
    by_cases hq' : q.uuid=record.uuid
    · refine ⟨_,UserStore.mem_write.mpr (Or.inl rfl),hon.trans hrecordOn,?_,?_⟩
      · rw [hemail,hrecord,← hqemail,hn.emails q hq,(hown q hq).mp hq']
      · rw [huuid,← hquuid,hq']
    · exact ⟨q,UserStore.mem_write.mpr (Or.inr ⟨hq,hq'⟩),hqon,hqemail,hquuid⟩

theorem addUser_tracked (hown : ∀ q∈s.users.rows,q.uuid=uuid ↔ q.deviceId=deviceId) :
    WithinAt trackedFrame (addUser true uuid deviceId flow) s := by
  obtain ⟨huuid,_,hemail,_,hon⟩ := UserStore.written_keeps s.users (UserStore.record
    (s.users.get? uuid) uuid deviceId (emailForDevice deviceId) flow none s.now)
  apply WithinAt.bind
  · exact fun hs => write_tracked hs rfl rfl hown
  · intro record u hu
    cases hu
    apply WithinAt.bind (listUserEmails_tracked _)
    intro emails v hv
    obtain ⟨_,os,hvs⟩ := listUserEmails_ok hv
    split_ifs
    · exact id
    · apply WithinAt.bind
      · apply addInboundUser_tracked _ hon hemail huuid
        rw [hvs]
        exact UserStore.mem_write.mpr (Or.inl rfl)
      · exact fun _ _ _ => id

theorem Orderly.delete {users : UserStore} (h : Orderly users) (uuid : Int) :
    Orderly (users.delete uuid) where
  emails r hr := h.emails r (Store.mem_delete.mp hr).1
  lone r hr q hq := h.lone r (Store.mem_delete.mp hr).1 q (Store.mem_delete.mp hq).1

/-- A record nobody is live under is deleted. -/
theorem delete_tracked {n : XrayNode} (hn : Tracked n) (hr : n.users.get? uuid=some r)
    (hgone : n.inbound.get? r.email=none) :
    Tracked {n with users := n.users.delete uuid} := by
  constructor
  · exact hn.toOrderly.delete uuid
  · intro x hx
    obtain ⟨q,hq,hqon,hqemail,hquuid⟩ := hn.held x hx
    refine ⟨q,Store.mem_delete.mpr ⟨hq,fun he => ?_⟩,hqon,hqemail,hquuid⟩
    have hqr : q=r := Store.eq_of_key hq (Store.mem_of_get? hr)
      (he.trans (Store.key_of_get? hr).symm)
    rw [hqr] at hqemail
    exact (n.inbound.get?_eq_none _).mp hgone x hx hqemail.symm

theorem removeUser_tracked : WithinAt trackedFrame (removeUser true uuid) s := by
  apply WithinAt.reads_bind
  cases hr : s.users.get? uuid with
  | none => exact id
  | some r =>
    apply WithinAt.bind (removeInboundUser_tracked _ s)
    intro _ t ht hs
    obtain ⟨husers,hinbound⟩ := removeInboundUser_ok ht
    apply delete_tracked hs
    · rw [husers,hr]
    · rw [hinbound,Store.get?_delete,if_pos rfl]

theorem rotateUser_tracked {newUuid : Int} (hs : Tracked s.toXrayNode)
    (hnew : ∀ old,s.users.get? uuid=some old → ∀ q∈s.users.rows,
      q.uuid=newUuid → q.deviceId=old.deviceId) :
    WithinAt trackedFrame (rotateUser true uuid newUuid) s := by
  apply WithinAt.reads_bind
  cases hold : s.users.get? uuid with
  | none => exact id
  | some old =>
    have hemail := hs.emails old (Store.mem_of_get? hold)
    apply WithinAt.bind (removeInboundUser_tracked _ s)
    intro _ t ht
    obtain ⟨husers,hinbound⟩ := removeInboundUser_ok ht
    have hgone : t.inbound.get? old.email=none := by
      rw [hinbound,Store.get?_delete,if_pos rfl]
    have hown : ∀ q∈(t.users.delete uuid).rows,q.uuid=newUuid ↔ q.deviceId=old.deviceId := by
      intro q hq
      rw [husers] at hq
      obtain ⟨hq,hne⟩ := Store.mem_delete.mp hq
      constructor
      · exact hnew old hold q hq
      · intro he
        have hqo := hs.lone q hq old (Store.mem_of_get? hold) he
        exact absurd (by rw [hqo]; exact Store.key_of_get? hold) hne
    obtain ⟨huuid,_,hremail,_,hon⟩ := UserStore.written_keeps (t.users.delete uuid)
      (UserStore.record ((t.users.delete uuid).get? newUuid) newUuid old.deviceId old.email old.flow
        (some t.now) t.now)
    apply WithinAt.bind
    · intro ht
      exact delete_tracked ht (by rw [husers,hold]) hgone
    · intro _ u hu
      cases hu
      apply WithinAt.bind
      · exact fun hu => write_tracked hu hemail rfl hown
      · intro record v hv
        cases hv
        apply WithinAt.bind
        · exact addInboundUser_tracked (UserStore.mem_write.mpr (Or.inl rfl)) hon hremail huuid
        · exact fun _ _ _ => id

/-- What a pass does to the inbound keeps the users. -/
theorem grpcCall_users (operation : String) (effect : Inbound → Inbound) :
    Within (.keeping fun s : XraySession => s.users) (grpcCall operation effect) := by
  intro s
  unfold grpcCall WithinAt
  dsimp only
  split <;> rfl

theorem addInboundUser_users (uuid : Int) (email flow : String) :
    Within (.keeping fun s : XraySession => s.users) (addInboundUser uuid email flow) :=
  (Within.change fun _ => rfl).bind fun _ => grpcCall_users _ _

theorem mem_desiredByEmail {desired : List UserRecord} {q : UserRecord}
    (h : q∈(desiredByEmail desired).rows) : q∈desired := by
  have hall : ∀ (l : List UserRecord) (x : Store UserRecord.email),
      q∈(l.foldl Store.upsert x).rows → q∈x.rows ∨ q∈l := by
    intro l
    induction l with
    | nil => exact fun _ hq => Or.inl hq
    | cons r l ih =>
      intro x hq
      rcases ih _ hq with hq|hq
      · rcases Store.mem_upsert.mp hq with hq|⟨hq,_⟩
        · exact Or.inr (hq ▸ List.mem_cons_self)
        · exact Or.inl hq
      · exact Or.inr (List.mem_cons_of_mem r hq)
  rcases hall desired .empty h with hq|hq
  · exact absurd hq List.not_mem_nil
  · exact hq

theorem reconcile_tracked : WithinAt trackedFrame (reconcile true) s := by
  apply WithinAt.reads_bind
  apply WithinAt.bind (listUserEmails_tracked s)
  intro emails t ht
  obtain ⟨_,os,hts⟩ := listUserEmails_ok ht
  apply WithinAt.bind
  · apply WithinAt.mono (R := trackedFrame.and (.keeping fun s : XraySession => s.users))
    · apply WithinAt.each fun u => u.users=s.users
      · rw [hts]
      · exact fun hu hrel => hrel.2.trans hu
      · intro r hr u hu
        obtain ⟨hr,_⟩ := List.mem_filter.mp hr
        obtain ⟨hrow,hon⟩ := List.mem_filter.mp (mem_desiredByEmail hr)
        rw [← hu] at hrow
        exact ⟨addInboundUser_tracked hrow hon rfl rfl,addInboundUser_users _ _ _ u⟩
    · exact fun hrel => hrel.1
  · intro _ u _
    apply WithinAt.bind
    · exact WithinAt.each (fun _ => True) trivial (fun _ _ => trivial) fun email _ v _ =>
        removeInboundUser_tracked email v
    · exact fun _ _ _ => id

end

/-- Whatever fails, whoever is live stays one the store wants. -/
theorem perform_tracked {n : XrayNode} {c : UserCall} (hn : Tracked n) (hc : Lawful n c) :
    Tracked (perform n c) := by
  obtain ⟨event,now,outcomes⟩ := c
  cases event with
  | addUser uuid deviceId flow =>
    have hadd : WithinAt trackedFrame (addUser true uuid deviceId flow) (n.session now outcomes) :=
      addUser_tracked hc
    exact hadd hn
  | removeUser uuid =>
    have hremove : WithinAt trackedFrame (removeUser true uuid) (n.session now outcomes) :=
      removeUser_tracked
    exact hremove hn
  | rotateUser uuid newUuid =>
    have hrotate : WithinAt trackedFrame (rotateUser true uuid newUuid) (n.session now outcomes) :=
      rotateUser_tracked hn hc
    exact hrotate hn
  | reconcile =>
    have hpass : WithinAt trackedFrame (reconcile true) (n.session now outcomes) :=
      reconcile_tracked
    exact hpass hn
  | restart => exact {hn with held := fun u hu => absurd hu List.not_mem_nil}

theorem nodup_liveUsers (n : XrayNode) : (liveUsers n).Nodup := by
  apply List.Nodup.of_map Prod.fst
  rw [liveUsers,List.map_map]
  exact n.inbound.nodup

theorem nodup_desiredUsers (n : XrayNode) : (desiredUsers n).Nodup := by
  apply List.Nodup.of_map Prod.snd
  rw [desiredUsers,List.map_map]
  exact n.users.nodup.sublist (List.filter_sublist.map _)

/-- A node nobody live is wrong at is settled once everybody desired is live. -/
theorem settled_of {n : XrayNode} (h : Tracked n) (hall : ∀ r∈n.users.rows,r.enabled=true →
    ∃ u∈n.inbound.rows,u.email=r.email) : Settled n := by
  apply (List.perm_ext_iff_of_nodup (nodup_liveUsers n) (nodup_desiredUsers n)).mpr
  intro x
  constructor
  · intro hx
    obtain ⟨u,hu,hux⟩ := List.mem_map.mp hx
    obtain ⟨r,hr,hon,hemail,huuid⟩ := h.held u hu
    apply List.mem_map.mpr
    refine ⟨r,List.mem_filter.mpr ⟨hr,hon⟩,?_⟩
    rw [← hux,← h.emails r hr,hemail,huuid]
  · intro hx
    obtain ⟨r,hr,hrx⟩ := List.mem_map.mp hx
    obtain ⟨hr,hon⟩ := List.mem_filter.mp hr
    obtain ⟨u,hu,hue⟩ := hall r hr hon
    obtain ⟨q,hq,_,hqemail,hquuid⟩ := h.held u hu
    have hsame : q.deviceId=r.deviceId := by
      apply emailForDevice_injective
      rw [← h.emails q hq,hqemail,hue,h.emails r hr]
    have hqr := h.lone q hq r hr hsame
    apply List.mem_map.mpr
    refine ⟨u,hu,?_⟩
    rw [← hrx,hue,h.emails r hr,← hquuid,hqr]

theorem exists_desiredByEmail {desired : List UserRecord} {r : UserRecord} (h : r∈desired) :
    ∃ q∈(desiredByEmail desired).rows,q.email=r.email := by
  have hall : ∀ (l : List UserRecord) (x : Store UserRecord.email),
      (∃ q∈x.rows,q.email=r.email) ∨ r∈l → ∃ q∈(l.foldl Store.upsert x).rows,q.email=r.email := by
    intro l
    induction l with
    | nil => exact fun x hx => hx.resolve_right List.not_mem_nil
    | cons y l ih =>
      intro x hx
      apply ih
      by_cases hy : y.email=r.email
      · exact Or.inl ⟨y,Store.mem_upsert.mpr (Or.inl rfl),hy⟩
      · rcases hx with ⟨q,hq,hqr⟩|hr
        · refine Or.inl ⟨q,Store.mem_upsert.mpr (Or.inr ⟨hq,fun he => hy ?_⟩),hqr⟩
          rw [← he,hqr]
        · rcases List.mem_cons.mp hr with hr|hr
          · exact absurd (by rw [hr]) hy
          · exact Or.inr hr
  exact hall desired .empty (Or.inr h)

section

variable {s t : XraySession}

theorem addInboundUser_ok {uuid : Int} {email flow : String} {a : Unit}
    (h : addInboundUser uuid email flow s=(.ok a,t)) :
    t.inbound=s.inbound.upsert ⟨email,uuid,flow⟩ := by
  obtain ⟨_,u,hu,h⟩ := Eff.bind_ok.mp h
  cases hu
  obtain ⟨os,hts⟩ := grpcCall_ok h
  rw [hts]

theorem addInboundUser_keeps {uuid : Int} {email flow e : String} {a : Unit}
    (h : addInboundUser uuid email flow s=(.ok a,t)) (hs : ∃ x∈s.inbound.rows,x.email=e) :
    ∃ x∈t.inbound.rows,x.email=e := by
  obtain ⟨x,hx,hxe⟩ := hs
  rw [addInboundUser_ok h]
  by_cases he : email=e
  · exact ⟨_,Store.mem_upsert.mpr (Or.inl rfl),he⟩
  · exact ⟨x,Store.mem_upsert.mpr (Or.inr ⟨hx,fun hxm => he (hxm.symm.trans hxe)⟩),hxe⟩

/-- After a pass whose calls all succeed everybody desired is live. -/
theorem reconcile_adds {result : ReconciliationResult}
    (h : reconcile true s=(.ok result,t)) : ∀ r∈s.users.rows,r.enabled=true →
      ∃ u∈t.inbound.rows,u.email=r.email := by
  intro r hr hon
  obtain ⟨desired,u,hu,h⟩ := Eff.bind_ok.mp h
  cases hu
  obtain ⟨emails,u,hu,h⟩ := Eff.bind_ok.mp h
  obtain ⟨hemails,os,hus⟩ := listUserEmails_ok hu
  obtain ⟨_,v,hv,h⟩ := Eff.bind_ok.mp h
  obtain ⟨_,w,hw,h⟩ := Eff.bind_ok.mp h
  cases h
  obtain ⟨q,hq,hqr⟩ := exists_desiredByEmail (List.mem_filter.mpr ⟨hr,hon⟩)
  have hadded : ∃ x∈v.inbound.rows,x.email=r.email := by
    by_cases hlive : q.email∈emails
    · have hbefore : ∃ x∈u.inbound.rows,x.email=r.email := by
        rw [hemails,hqr] at hlive
        obtain ⟨x,hx,hxr⟩ := List.mem_map.mp hlive
        exact ⟨x,by rw [hus]; exact hx,hxr⟩
      exact Eff.each_keeps (P := fun z => ∃ x∈z.inbound.rows,x.email=r.email)
        (fun _ _ _ _ => addInboundUser_keeps) hv hbefore
    · have hmissing : q∈missingUsers (s.users.rows.filter UserRecord.enabled) emails :=
        List.mem_filter.mpr ⟨hq,by simpa using hlive⟩
      have hpost : ∀ y : UserRecord,∀ z z',
          addInboundUser y.uuid y.email y.flow z=(.ok (),z') →
            ∃ x∈z'.inbound.rows,x.email=y.email := by
        intro y z z' hz
        rw [addInboundUser_ok hz]
        exact ⟨_,Store.mem_upsert.mpr (Or.inl rfl),rfl⟩
      have hall : ∃ x∈v.inbound.rows,x.email=q.email :=
        Eff.each_establishes (P := fun y z => ∃ x∈z.inbound.rows,x.email=y.email)
          (fun y _ => hpost y) (fun _ _ _ _ _ _ => addInboundUser_keeps) hv q hmissing
      rw [hqr] at hall
      exact hall
  have hkept : ∀ email∈extraEmails (s.users.rows.filter UserRecord.enabled) emails,
      ∀ z z',removeInboundUser email z=(.ok (),z') → (∃ x∈z.inbound.rows,x.email=r.email) →
        ∃ x∈z'.inbound.rows,x.email=r.email := by
    rintro email hemail z z' hz ⟨x,hx,hxr⟩
    rw [(removeInboundUser_ok hz).2]
    refine ⟨x,Store.mem_delete.mpr ⟨hx,fun he => ?_⟩,hxr⟩
    have hnot := (List.mem_filter.mp hemail).2
    simp only [decide_eq_true_eq] at hnot
    apply hnot
    rw [← he,hxr,← hqr]
    exact List.mem_map_of_mem hq
  exact Eff.each_keeps (P := fun z => ∃ x∈z.inbound.rows,x.email=r.email) hkept hw hadded

theorem grpcCall_calm (operation : String) (effect : Inbound → Inbound) (h : s.outcomes=[]) :
    grpcCall operation effect s=(.ok (),{s with inbound := effect s.inbound}) := by
  unfold grpcCall
  rw [h]

/-- A loop of calls that all succeed. -/
theorem each_calm {α : Type} {f : α → XrayReq Unit} {alter : Inbound → α → Inbound}
    (hf : ∀ x s,s.outcomes=[] →
      ∃ calls,f x s=(.ok (),{s with inbound := alter s.inbound x,calls := calls}))
    (xs : List α) (h : s.outcomes=[]) : ∃ calls,
      Eff.each f xs s=(.ok (),{s with inbound := xs.foldl alter s.inbound,calls := calls}) := by
  induction xs generalizing s with
  | nil => exact ⟨s.calls,rfl⟩
  | cons x xs ih =>
    obtain ⟨calls,hx⟩ := hf x s h
    obtain ⟨later,hxs⟩ := ih (s := {s with inbound := alter s.inbound x,calls := calls}) h
    exact ⟨later,(Eff.bind_run_ok hx).trans hxs⟩

theorem addInboundUser_calm (uuid : Int) (email flow : String) (h : s.outcomes=[]) :
    addInboundUser uuid email flow s=(.ok (),{s with
      inbound := s.inbound.upsert ⟨email,uuid,flow⟩
      calls := s.calls++[.addUser email]}) := by
  unfold addInboundUser noteCall
  rw [Eff.change_bind_run]
  exact grpcCall_calm _ _ h

theorem removeInboundUser_calm (email : String) (h : s.outcomes=[]) :
    removeInboundUser email s=(.ok (),{s with
      inbound := s.inbound.delete email
      calls := s.calls++[.removeUser email]}) := by
  unfold removeInboundUser noteCall
  rw [Eff.change_bind_run]
  exact grpcCall_calm _ _ h

theorem listUserEmails_calm (h : s.outcomes=[]) :
    listUserEmails s=(.ok (s.inbound.rows.map InboundUser.email),s) := by
  unfold listUserEmails
  rw [Eff.bind_run_ok (grpcCall_calm _ _ h)]
  rfl

def addMissing (inbound : Inbound) (r : UserRecord) : Inbound :=
  inbound.upsert ⟨r.email,r.uuid,r.flow⟩

/-- The inbound a pass leaves. -/
def passedInbound (n : XrayNode) : Inbound :=
  let desired := n.users.rows.filter UserRecord.enabled
  let liveEmails := n.inbound.rows.map InboundUser.email
  (extraEmails desired liveEmails).foldl Store.delete
    ((missingUsers desired liveEmails).foldl addMissing n.inbound)

/-- A pass whose calls all succeed completes. -/
theorem reconcile_calm (h : s.outcomes=[]) : ∃ result calls,reconcile true s=
    (.ok result,{s with inbound := passedInbound s.toXrayNode,calls := calls}) := by
  have hadd : ∀ (r : UserRecord) (s : XraySession),s.outcomes=[] →
      ∃ calls,addInboundUser r.uuid r.email r.flow s=
        (.ok (),{s with inbound := addMissing s.inbound r,calls := calls}) :=
    fun r s hs => ⟨_,addInboundUser_calm _ _ _ hs⟩
  have hremove : ∀ (email : String) (s : XraySession),s.outcomes=[] →
      ∃ calls,removeInboundUser email s=
        (.ok (),{s with inbound := s.inbound.delete email,calls := calls}) :=
    fun email s hs => ⟨_,removeInboundUser_calm _ hs⟩
  obtain ⟨calls,hmissing⟩ := each_calm hadd (missingUsers (s.users.rows.filter UserRecord.enabled)
    (s.inbound.rows.map InboundUser.email)) h
  obtain ⟨later,hextra⟩ := each_calm hremove (extraEmails (s.users.rows.filter UserRecord.enabled)
    (s.inbound.rows.map InboundUser.email)) (s := {s with
      inbound := (missingUsers (s.users.rows.filter UserRecord.enabled)
        (s.inbound.rows.map InboundUser.email)).foldl addMissing s.inbound
      calls := calls}) h
  unfold reconcile
  rw [if_pos rfl,Eff.reads_bind_run,Eff.bind_run_ok (listUserEmails_calm h),
    Eff.bind_run_ok hmissing,Eff.bind_run_ok hextra]
  exact ⟨_,_,rfl⟩

/-- Listing the emails alters nothing. -/
theorem listUserEmails_still : Within
    (.keeping fun s : XraySession => (s.toXrayNode,s.calls)) listUserEmails := by
  apply Within.bind
  · intro s
    unfold grpcCall WithinAt
    dsimp only
    split <;> rfl
  · exact fun _ => Within.reads _

end

/-- At a settled node a pass alters nothing, whether its one call succeeds or not. -/
theorem reconcile_idle {n : XrayNode} (ho : Orderly n.users) (h : Settled n) (now : Int)
    (outcomes : List GrpcOutcome) : (reconcile true (n.session now outcomes)).2.calls=[] ∧
      (reconcile true (n.session now outcomes)).2.toXrayNode=n := by
  have hmissing : missingUsers (n.users.rows.filter UserRecord.enabled)
      (n.inbound.rows.map InboundUser.email)=[] := by
    apply List.filter_eq_nil_iff.mpr
    intro r hr
    obtain ⟨hrow,hon⟩ := List.mem_filter.mp (mem_desiredByEmail hr)
    have hmem : (emailForDevice r.deviceId,r.uuid)∈liveUsers n :=
      h.symm.subset (List.mem_map.mpr ⟨r,List.mem_filter.mpr ⟨hrow,hon⟩,rfl⟩)
    obtain ⟨u,hu,hur⟩ := List.mem_map.mp hmem
    have hemail : u.email=r.email := (congrArg Prod.fst hur).trans (ho.emails r hrow).symm
    simpa using ⟨u,hu,hemail⟩
  have hextra : extraEmails (n.users.rows.filter UserRecord.enabled)
      (n.inbound.rows.map InboundUser.email)=[] := by
    apply List.filter_eq_nil_iff.mpr
    intro email hemail
    obtain ⟨u,hu,hue⟩ := List.mem_map.mp hemail
    obtain ⟨r,hr,hon,hru,_⟩ := (tracked_of_settled ho h).held u hu
    obtain ⟨q,hq,hqr⟩ := exists_desiredByEmail (List.mem_filter.mpr ⟨hr,hon⟩)
    have hqe : q.email=email := by rw [hqr,hru,hue]
    simpa using ⟨q,hq,hqe⟩
  unfold reconcile
  rw [if_pos rfl,Eff.reads_bind_run]
  cases hlist : listUserEmails (n.session now outcomes) with
  | mk r t =>
    have hstill := (listUserEmails_still _).rel_of_run hlist
    obtain ⟨hnode,hcalls⟩ := Prod.mk.inj hstill
    cases r with
    | error e =>
      rw [Eff.bind_run_error hlist]
      exact ⟨hcalls,hnode⟩
    | ok emails =>
      obtain ⟨hemails,_⟩ := listUserEmails_ok hlist
      have hemails : emails=n.inbound.rows.map InboundUser.email := hemails
      rw [Eff.bind_run_ok hlist,hemails]
      dsimp only [XrayNode.session]
      rw [hmissing,hextra]
      exact ⟨hcalls,hnode⟩

/-- After any run that began settled, a pass whose calls all succeed settles the node, and the next
pass has nothing to do. -/
theorem users_heal {n : XrayNode} (ho : Orderly n.users) (hn : Settled n) (calls : List UserCall)
    (hcalls : Conducted Lawful perform n calls) (now : Int) :
    ∃ result t,reconcile true ((calls.foldl perform n).session now [])=(.ok result,t) ∧
      Settled t.toXrayNode ∧ ∀ later outcomes,
        (reconcile true (t.toXrayNode.session later outcomes)).2.calls=[] := by
  have htracked : Tracked (calls.foldl perform n) :=
    invariant_of_conducted Tracked (fun _ _ => perform_tracked) n calls (tracked_of_settled ho hn)
      hcalls
  obtain ⟨result,t,ht,husers⟩ : ∃ result t,
      reconcile true ((calls.foldl perform n).session now [])=(.ok result,t) ∧
        t.users=(calls.foldl perform n).users := by
    obtain ⟨result,made,ht⟩ := reconcile_calm (s := (calls.foldl perform n).session now []) rfl
    exact ⟨result,_,ht,rfl⟩
  have hkept : Tracked t.toXrayNode := reconcile_tracked.rel_of_run ht htracked
  have hsettled : Settled t.toXrayNode := by
    apply settled_of hkept
    intro r hr
    rw [husers] at hr
    exact reconcile_adds ht r hr
  exact ⟨result,t,ht,hsettled,fun later outcomes =>
    (reconcile_idle hkept.toOrderly hsettled later outcomes).1⟩

def XrayNode.initial : XrayNode := ⟨.empty,.empty⟩

/-- Requests and a pass that fail halfway, and a restart of Xray. -/
def mishaps : List UserCall := [
  ⟨.addUser 5 1 "flow",0,[]⟩,
  ⟨.addUser 6 2 "flow",1,[.answered,.failedBefore]⟩,
  ⟨.rotateUser 5 7,2,[.failedAfter]⟩,
  ⟨.removeUser 6,3,[.failedBefore]⟩,
  ⟨.restart,4,[]⟩,
  ⟨.reconcile,5,[.answered,.answered,.failedAfter]⟩]

theorem users_heal_mishaps :
    ∃ result t,reconcile true ((mishaps.foldl perform .initial).session 6 [])=(.ok result,t) ∧
      Settled t.toXrayNode ∧ ∀ later outcomes,
        (reconcile true (t.toXrayNode.session later outcomes)).2.calls=[] := by
  have horderly : Orderly XrayNode.initial.users := by
    constructor <;> simp [XrayNode.initial]
  have hsettled : Settled .initial := List.Perm.refl []
  exact users_heal horderly hsettled mishaps (by decide +kernel) 6

end VpnService.Agent
