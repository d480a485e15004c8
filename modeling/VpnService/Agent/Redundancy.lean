import VpnService.Agent.HandlerClient

namespace VpnService.Agent

/-- What Xray makes of one call. A redundant operation may be granted or refused, and may leave any
users on the inbound. -/
structure Reply where
  outcome : GrpcOutcome
  grants : Bool
  remaining : List String
  deriving DecidableEq

def Reply.plain : Reply := ⟨.answered,false,[]⟩

/-- An operation, with the emails that are live when it is issued. -/
structure Issued where
  operation : AlterInbound
  live : List String
  deriving DecidableEq

/-- The user to add is live already, or the one to remove is not. -/
def Issued.redundant (x : Issued) : Bool := match x.operation with
  | .addUser email => email∈x.live
  | .removeUser email => email∉x.live

structure WatchedNode where
  users : UserStore
  live : List String

/-- One request or pass, with the replies to its calls in order and the operations it has issued. -/
structure WatchedSession extends WatchedNode where
  now : Int
  replies : List Reply
  issued : List Issued

abbrev WatchedReq := Eff XrayCommandError WatchedSession

def WatchedSession.reply (s : WatchedSession) : Reply := s.replies.headD .plain

/-- A call that alters nothing. -/
def watchedList : WatchedReq (List String) := fun s =>
  let t := {s with replies := s.replies.tail}
  if s.reply.outcome=.answered then (.ok s.live,t) else (.error ⟨"list_users"⟩,t)

/-- A call with an operation. -/
def watchedCall (name : String) (operation : AlterInbound) (effect : List String → List String) :
    WatchedReq Unit := fun s =>
  let issued : Issued := ⟨operation,s.live⟩
  let t := {s with replies := s.replies.tail,issued := s.issued++[issued]}
  if issued.redundant then
    (if s.reply.grants then .ok () else .error ⟨name⟩,{t with live := s.reply.remaining})
  else match s.reply.outcome with
    | .answered => (.ok (),{t with live := effect s.live})
    | .failedBefore => (.error ⟨name⟩,t)
    | .failedAfter => (.error ⟨name⟩,{t with live := effect s.live})

def watchedAdd (email : String) : WatchedReq Unit :=
  watchedCall "add_user" (.addUser email) fun live => live++[email]

def watchedRemove (email : String) : WatchedReq Unit :=
  watchedCall "remove_user" (.removeUser email) fun live => live.filter fun e => e≠email

/-- The reconciler on an inbound that is watched; `apply_to_live_xray` is on. -/
def watched : UserReconciler WatchedSession where
  handlerClient := ⟨fun _ email _ => watchedAdd email,watchedRemove,watchedList⟩
  store s := s.users
  setStore users s := {s with users := users}
  clock s := s.now
  applyToLive := true

structure WatchedCall where
  event : UserEvent
  now : Int
  replies : List Reply

def WatchedNode.session (n : WatchedNode) (c : WatchedCall) : WatchedSession :=
  ⟨n,c.now,c.replies,[]⟩

/-- Whether the event is answered, and what it leaves. -/
def react (n : WatchedNode) (c : WatchedCall) : Except XrayCommandError Unit×WatchedSession :=
  match c.event with
  | .addUser uuid deviceId flow =>
    (watched.addUser uuid deviceId flow >>= fun _ => pure ()) (n.session c)
  | .removeUser uuid => watched.removeUser uuid (n.session c)
  | .rotateUser uuid newUuid => (watched.rotateUser uuid newUuid >>= fun _ => pure ()) (n.session c)
  | .reconcile => (watched.reconcile >>= fun _ => pure ()) (n.session c)
  | .restart => (.ok (),{n.session c with live := []})

def advance (n : WatchedNode) (c : WatchedCall) : WatchedNode := (react n c).2.toWatchedNode

/-- The event issues no redundant operation, and if Xray answers the others it is answered. -/
structure Thrifty (n : WatchedNode) (c : WatchedCall) : Prop where
  needed : ∀ x∈(react n c).2.issued,x.redundant=false
  answered : (∀ r∈c.replies,r.outcome=.answered) → (react n c).1=.ok ()

/-- The user that a request is to remove or to rotate is live. -/
def Removable (n : WatchedNode) (c : WatchedCall) : Prop := match c.event with
  | .removeUser uuid | .rotateUser uuid _ => ∀ r∈n.users.get? uuid,r.email∈n.live
  | .addUser .. | .reconcile | .restart => True

/-- What is issued is needed, and what is answered keeps the request going. -/
structure Smooth {α : Type} (m : WatchedReq α) (s : WatchedSession) : Prop where
  needed : ∀ x∈(m s).2.issued,x∈s.issued ∨ x.redundant=false
  answered : (∀ r∈s.replies,r.outcome=.answered) →
    (∃ a,(m s).1=.ok a) ∧ ∀ r∈(m s).2.replies,r.outcome=.answered

namespace Smooth

variable {α β : Type} {m : WatchedReq α} {f : α → WatchedReq β} {s : WatchedSession}

theorem pure (a : α) (s : WatchedSession) : Smooth (Pure.pure a) s :=
  ⟨fun _ hx => Or.inl hx,fun h => ⟨⟨a,rfl⟩,h⟩⟩

theorem bind (hm : Smooth m s) (hf : ∀ a t,m s=(.ok a,t) → Smooth (f a) t) :
    Smooth (m >>= f) s := by
  cases hrun : m s with
  | mk r t =>
    have hneeded : ∀ x∈t.issued,x∈s.issued ∨ x.redundant=false := by
      have h := hm.needed
      rw [hrun] at h
      exact h
    have hanswered : (∀ r∈s.replies,r.outcome=.answered) →
        (∃ a,r=.ok a) ∧ ∀ r∈t.replies,r.outcome=.answered := by
      have h := hm.answered
      rw [hrun] at h
      exact h
    cases r with
    | error e =>
      have hbind : (m >>= f) s=(.error e,t) := Eff.bind_run_error hrun
      constructor
      · rw [hbind]
        exact hneeded
      · intro h
        obtain ⟨⟨a,ha⟩,_⟩ := hanswered h
        cases ha
    | ok a =>
      have hbind : (m >>= f) s=f a t := Eff.bind_run_ok hrun
      have hnext := hf a t hrun
      constructor
      · rw [hbind]
        intro x hx
        rcases hnext.needed x hx with hx|hx
        · exact hneeded x hx
        · exact Or.inr hx
      · rw [hbind]
        intro h
        exact hnext.answered (hanswered h).2

theorem reads (g : WatchedSession → α) (s : WatchedSession) : Smooth (Eff.reads g) s :=
  ⟨fun _ hx => Or.inl hx,fun h => ⟨⟨g s,rfl⟩,h⟩⟩

theorem setStore (g : WatchedSession → UserStore) (s : WatchedSession) :
    Smooth (Eff.change fun s => watched.setStore (g s) s) s :=
  ⟨fun _ hx => Or.inl hx,fun h => ⟨⟨(),rfl⟩,h⟩⟩

theorem reply_answered (h : ∀ r∈s.replies,r.outcome=.answered) : s.reply.outcome=.answered := by
  unfold WatchedSession.reply
  cases hr : s.replies with
  | nil => rfl
  | cons r rs => exact h r (hr ▸ List.mem_cons_self)

theorem tail_answered (h : ∀ r∈s.replies,r.outcome=.answered) :
    ∀ r∈s.replies.tail,r.outcome=.answered := fun r hr => h r (List.mem_of_mem_tail hr)

theorem watchedList (s : WatchedSession) : Smooth Agent.watchedList s := by
  constructor
  · intro x hx
    unfold Agent.watchedList at hx
    split at hx
    · exact Or.inl hx
    · exact Or.inl hx
  · intro h
    unfold Agent.watchedList
    rw [if_pos (reply_answered h)]
    exact ⟨⟨s.live,rfl⟩,tail_answered h⟩

theorem watchedCall {operation : AlterInbound} (name : String)
    (effect : List String → List String)
    (h : Issued.redundant ⟨operation,s.live⟩=false) :
    Smooth (Agent.watchedCall name operation effect) s := by
  have hnew : ∀ x∈s.issued++[⟨operation,s.live⟩],x∈s.issued ∨ x.redundant=false := by
    intro x hx
    rcases List.mem_append.mp hx with hx|hx
    · exact Or.inl hx
    · rw [List.mem_singleton.mp hx]
      exact Or.inr h
  constructor
  · unfold Agent.watchedCall
    rw [if_neg (by simp [h])]
    cases s.reply.outcome with
    | answered => exact hnew
    | failedBefore => exact hnew
    | failedAfter => exact hnew
  · intro hs
    unfold Agent.watchedCall
    rw [if_neg (by simp [h]),reply_answered hs]
    exact ⟨⟨(),rfl⟩,tail_answered hs⟩

end Smooth

section

variable {s t : WatchedSession} {operation : AlterInbound} {name email : String}
  {effect : List String → List String} {uuid : Int}

theorem watchedCall_ok {a : Unit} (h : Issued.redundant ⟨operation,s.live⟩=false)
    (hrun : watchedCall name operation effect s=(.ok a,t)) :
    t.live=effect s.live ∧ t.users=s.users := by
  unfold watchedCall at hrun
  rw [if_neg (by simp [h])] at hrun
  cases ho : s.reply.outcome with
  | answered =>
    rw [ho] at hrun
    cases hrun
    exact ⟨rfl,rfl⟩
  | failedBefore =>
    rw [ho] at hrun
    cases hrun
  | failedAfter =>
    rw [ho] at hrun
    cases hrun

theorem watchedList_ok {emails : List String} (hrun : watchedList s=(.ok emails,t)) :
    emails=s.live ∧ t.live=s.live := by
  unfold watchedList at hrun
  split at hrun
  · cases hrun
    exact ⟨rfl,rfl⟩
  · cases hrun

theorem addUser_needed (h : email∉s.live) : Issued.redundant ⟨.addUser email,s.live⟩=false := by
  simp [Issued.redundant,h]

theorem removeUser_needed (h : email∈s.live) :
    Issued.redundant ⟨.removeUser email,s.live⟩=false := by
  simp [Issued.redundant,h]

theorem live_of_needed {live : List String}
    (h : Issued.redundant ⟨.removeUser email,live⟩=false) : email∈live :=
  not_not.mp (of_decide_eq_false h)

theorem upsertRecord_smooth (deviceId : Int) (email flow : String) (rotatedAt : Int → Option Int) :
    Smooth (watched.upsertRecord uuid deviceId email flow rotatedAt) s := by
  refine (Smooth.reads _ s).bind fun _ u _ => (Smooth.reads _ u).bind fun _ v _ => ?_
  exact (Smooth.setStore _ v).bind fun _ w _ => Smooth.pure _ w

theorem upsertRecord_live {deviceId : Int} {flow : String} {rotatedAt : Int → Option Int}
    {record : UserRecord}
    (h : watched.upsertRecord uuid deviceId email flow rotatedAt s=(.ok record,t)) :
    t.live=s.live := by
  cases h
  rfl

theorem addUser_smooth (uuid deviceId : Int) (flow : String) :
    Smooth (watched.addUser uuid deviceId flow) s := by
  refine (upsertRecord_smooth _ _ _ _).bind fun record u _ => ?_
  refine (Smooth.watchedList u).bind fun emails v hv => ?_
  obtain ⟨hemails,hlive⟩ := watchedList_ok hv
  split_ifs with hmem
  · exact Smooth.pure _ v
  · have hfree : emailForDevice deviceId∉v.live := by
      rw [hlive,← hemails]
      exact hmem
    have hadd : Smooth (watchedAdd (emailForDevice deviceId)) v :=
      Smooth.watchedCall _ _ (addUser_needed hfree)
    exact hadd.bind fun _ w _ => Smooth.pure record w

theorem removeUser_smooth (h : ∀ r∈s.users.get? uuid,r.email∈s.live) :
    Smooth (watched.removeUser uuid) s := by
  refine (Smooth.reads _ s).bind fun record u hu => ?_
  have hrecord : record=s.users.get? uuid := by
    cases hu
    rfl
  have hstill : u=s := by
    cases hu
    rfl
  rw [hstill]
  cases record with
  | none => exact Smooth.pure _ s
  | some r =>
    have hlive : r.email∈s.live := h r hrecord.symm
    exact (Smooth.watchedCall _ _ (removeUser_needed hlive)).bind fun _ v _ => Smooth.setStore _ v

theorem rotateUser_smooth (newUuid : Int) (h : ∀ r∈s.users.get? uuid,r.email∈s.live) :
    Smooth (watched.rotateUser uuid newUuid) s := by
  refine (Smooth.reads _ s).bind fun old u hu => ?_
  have hold : old=s.users.get? uuid := by
    cases hu
    rfl
  have hstill : u=s := by
    cases hu
    rfl
  rw [hstill]
  cases old with
  | none => exact Smooth.pure _ s
  | some old =>
    have hlive : old.email∈s.live := h old hold.symm
    refine (Smooth.watchedCall _ _ (removeUser_needed hlive)).bind fun _ v hv => ?_
    have hgone : old.email∉v.live := by
      rw [(watchedCall_ok (removeUser_needed hlive) hv).1]
      simp
    refine (Smooth.setStore _ v).bind fun _ w hw => ?_
    cases hw
    refine (upsertRecord_smooth _ _ _ _).bind fun record y hy => ?_
    have hfree : old.email∉y.live := by
      rw [upsertRecord_live hy]
      exact hgone
    show Smooth (watchedAdd old.email >>= fun _ => pure (some record)) y
    exact (Smooth.watchedCall _ _ (addUser_needed hfree)).bind fun _ z _ => Smooth.pure _ z

/-- The users that are added one after the other are told apart by their emails. -/
theorem addMissing_smooth (rs : List UserRecord) (hnodup : (rs.map UserRecord.email).Nodup)
    (hfree : ∀ r∈rs,r.email∉s.live) :
    Smooth (Eff.each (fun r => watchedAdd r.email) rs) s ∧
      ∀ a t,Eff.each (fun r => watchedAdd r.email) rs s=(.ok a,t) → ∀ e∈s.live,e∈t.live := by
  induction rs generalizing s with
  | nil =>
    refine ⟨Smooth.pure _ s,fun a t h e he => ?_⟩
    cases h
    exact he
  | cons r rs ih =>
    have hr : r.email∉s.live := hfree r List.mem_cons_self
    obtain ⟨hnew,hrest⟩ := List.nodup_cons.mp hnodup
    have hstep : ∀ a t,watchedAdd r.email s=(.ok a,t) → t.live=s.live++[r.email] :=
      fun a t ht => (watchedCall_ok (addUser_needed hr) ht).1
    have hlater : ∀ a t,watchedAdd r.email s=(.ok a,t) → ∀ q∈rs,q.email∉t.live := by
      intro a t ht q hq hmem
      rw [hstep a t ht] at hmem
      rcases List.mem_append.mp hmem with hmem|hmem
      · exact hfree q (List.mem_cons_of_mem r hq) hmem
      · have he : q.email=r.email := List.mem_singleton.mp hmem
        exact hnew (he ▸ List.mem_map_of_mem hq)
    constructor
    · exact (Smooth.watchedCall _ _ (addUser_needed hr)).bind fun a t ht =>
        (ih hrest (hlater a t ht)).1
    · intro a t h e he
      obtain ⟨b,u,hu,h⟩ := Eff.bind_ok.mp h
      apply (ih hrest (hlater b u hu)).2 a t h
      rw [hstep b u hu]
      exact List.mem_append_left _ he

theorem removeExtra_smooth (es : List String) (hnodup : es.Nodup) (hlive : ∀ e∈es,e∈s.live) :
    Smooth (Eff.each watchedRemove es) s := by
  induction es generalizing s with
  | nil => exact Smooth.pure _ s
  | cons e es ih =>
    have he : e∈s.live := hlive e List.mem_cons_self
    obtain ⟨hnew,hrest⟩ := List.nodup_cons.mp hnodup
    refine (Smooth.watchedCall _ _ (removeUser_needed he)).bind fun _ t ht => ih hrest ?_
    intro x hx
    rw [(watchedCall_ok (removeUser_needed he) ht).1]
    have hne : x≠e := fun hxe => hnew (hxe ▸ hx)
    exact List.mem_filter.mpr ⟨hlive x (List.mem_cons_of_mem e hx),by simpa using hne⟩

theorem reconcile_smooth : Smooth watched.reconcile s := by
  refine (Smooth.reads _ s).bind fun desired u _ => ?_
  refine (Smooth.watchedList u).bind fun emails v hv => ?_
  obtain ⟨hemails,hlive⟩ := watchedList_ok hv
  have hnodup : ((missingUsers desired emails.dedup).map UserRecord.email).Nodup :=
    (desiredByEmail desired).nodup.sublist (List.filter_sublist.map _)
  have hfree : ∀ r∈missingUsers desired emails.dedup,r.email∉v.live := by
    intro r hr
    have hnot := (List.mem_filter.mp hr).2
    rw [hlive,← hemails]
    simpa using hnot
  obtain ⟨hadd,hkept⟩ := addMissing_smooth (missingUsers desired emails.dedup) hnodup hfree
  refine hadd.bind fun a w hw => ?_
  have hextra : (extraEmails desired emails.dedup).Nodup := (List.nodup_dedup emails).filter _
  refine (removeExtra_smooth _ hextra ?_).bind fun _ x _ => Smooth.pure _ x
  intro e he
  have hmem : e∈emails := List.mem_dedup.mp (List.mem_filter.mp he).1
  apply hkept a w hw
  rw [hlive,← hemails]
  exact hmem

/-- What has been issued stays in the record. -/
abbrev recording (x : Issued) : Frame WatchedSession := .preserving fun s => x∈s.issued

theorem watchedCall_issued (name : String) (operation : AlterInbound)
    (effect : List String → List String) (s : WatchedSession) :
    (watchedCall name operation effect s).2.issued=s.issued++[⟨operation,s.live⟩] := by
  unfold watchedCall
  by_cases h : Issued.redundant ⟨operation,s.live⟩=true
  · rw [if_pos h]
  · rw [if_neg h]
    cases s.reply.outcome with
    | answered => rfl
    | failedBefore => rfl
    | failedAfter => rfl

theorem watchedCall_recording (x : Issued) (name : String) (operation : AlterInbound)
    (effect : List String → List String) :
    Within (recording x) (watchedCall name operation effect) := by
  intro s hs
  show x∈(watchedCall name operation effect s).2.issued
  rw [watchedCall_issued]
  exact List.mem_append_left _ hs

theorem watchedCall_issues (name : String) (operation : AlterInbound)
    (effect : List String → List String) (s : WatchedSession) :
    ⟨operation,s.live⟩∈(watchedCall name operation effect s).2.issued := by
  rw [watchedCall_issued]
  exact List.mem_append_right _ List.mem_cons_self

theorem issued_bind {α β : Type} {m : WatchedReq α} {f : α → WatchedReq β} {x : Issued}
    (hm : x∈(m s).2.issued) (hf : ∀ a,Within (recording x) (f a)) :
    x∈((m >>= f) s).2.issued := by
  cases hrun : m s with
  | mk r t =>
    rw [hrun] at hm
    cases r with
    | error e =>
      rw [Eff.bind_run_error hrun]
      exact hm
    | ok a =>
      rw [Eff.bind_run_ok hrun]
      exact hf a t hm

/-- A stored user is removed whether it is live or not. -/
theorem removeUser_issues {r : UserRecord} (h : s.users.get? uuid=some r) :
    ⟨.removeUser r.email,s.live⟩∈(watched.removeUser uuid s).2.issued := by
  have hread : (Eff.reads fun s => (watched.store s).get? uuid : WatchedReq _) s=(.ok (some r),s) :=
    congrArg (fun o => (Except.ok o,s)) h
  unfold UserReconciler.removeUser
  rw [Eff.bind_run_ok hread]
  exact issued_bind (watchedCall_issues _ _ _ s) fun _ => Within.change fun _ => id

theorem rotateUser_issues {newUuid : Int} {old : UserRecord} (h : s.users.get? uuid=some old) :
    ⟨.removeUser old.email,s.live⟩∈(watched.rotateUser uuid newUuid s).2.issued := by
  have hread : (Eff.reads fun s => (watched.store s).get? uuid : WatchedReq _) s=
      (.ok (some old),s) := congrArg (fun o => (Except.ok o,s)) h
  unfold UserReconciler.rotateUser
  rw [Eff.bind_run_ok hread]
  refine issued_bind (watchedCall_issues _ _ _ s) fun _ => ?_
  have hadd : ∀ record : UserRecord,
      Within (recording ⟨.removeUser old.email,s.live⟩)
        (watchedAdd old.email >>= fun _ => pure (some record)) := fun _ =>
    (watchedCall_recording _ _ _ _).bind fun _ => Within.pure _
  refine Within.bind (Within.change fun _ => id) fun _ => Within.bind ?_ fun record => hadd record
  exact (Within.reads _).bind fun _ => (Within.reads _).bind fun _ =>
    (Within.change fun _ => id).bind fun _ => Within.pure _

end

theorem Smooth.thrifty {n : WatchedNode} {c : WatchedCall} {m : WatchedReq Unit}
    (hm : Smooth m (n.session c)) (h : react n c=m (n.session c)) : Thrifty n c := by
  constructor
  · rw [h]
    intro x hx
    rcases hm.needed x hx with hx|hx
    · cases hx
    · exact hx
  · rw [h]
    intro hc
    obtain ⟨⟨a,ha⟩,_⟩ := hm.answered hc
    exact ha

theorem thrifty_iff (n : WatchedNode) (c : WatchedCall) : Thrifty n c ↔ Removable n c := by
  obtain ⟨event,now,replies⟩ := c
  cases event with
  | addUser uuid deviceId flow =>
    have hm := (addUser_smooth (s := n.session ⟨.addUser uuid deviceId flow,now,replies⟩)
      uuid deviceId flow).bind fun _ t _ => Smooth.pure () t
    exact iff_of_true (hm.thrifty rfl) trivial
  | removeUser uuid =>
    constructor
    · intro h r hr
      exact live_of_needed (h.needed _ (removeUser_issues (s := n.session _) hr))
    · exact fun h => Smooth.thrifty (removeUser_smooth h) rfl
  | rotateUser uuid newUuid =>
    constructor
    · intro h r hr
      have hissued : ⟨.removeUser r.email,n.live⟩∈
          (react n ⟨.rotateUser uuid newUuid,now,replies⟩).2.issued :=
        issued_bind (rotateUser_issues (s := n.session _) hr) fun _ => Within.pure _
      exact live_of_needed (h.needed _ hissued)
    · intro h
      have hm := (rotateUser_smooth (s := n.session ⟨.rotateUser uuid newUuid,now,replies⟩)
        newUuid h).bind fun _ t _ => Smooth.pure () t
      exact hm.thrifty rfl
  | reconcile =>
    have hm := (reconcile_smooth (s := n.session ⟨.reconcile,now,replies⟩)).bind
      fun _ t _ => Smooth.pure () t
    exact iff_of_true (hm.thrifty rfl) trivial
  | restart =>
    refine iff_of_true ?_ trivial
    constructor
    · intro x hx
      cases hx
    · exact fun _ => rfl

/-- A run issues only needed operations, and keeps answering, just when every user that a request
removes or rotates is live at that moment. -/
theorem operations_needed_iff (n : WatchedNode) (calls : List WatchedCall) :
    Conducted Thrifty advance n calls ↔ Conducted Removable advance n calls := by
  constructor
  · exact Conducted.mono (fun n c h => (thrifty_iff n c).mp h) n calls
  · exact Conducted.mono (fun n c h => (thrifty_iff n c).mpr h) n calls

/-- Xray restarts after a user was added, refuses the redundant removal, and the request fails. -/
theorem removal_redundant :
    ¬Conducted Thrifty advance ⟨.empty,[]⟩ [
      ⟨.addUser 5 1 "flow",0,[]⟩,
      ⟨.restart,1,[]⟩,
      ⟨.removeUser 5,2,[.plain]⟩] := by
  intro h
  have hanswered := h.2.2.1.answered (by decide)
  have herror : ∀ a : Unit,Except.error (ε := XrayCommandError) ⟨"remove_user"⟩≠.ok a := nofun
  exact herror () hanswered

end VpnService.Agent
