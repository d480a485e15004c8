import VpnService.Agent.UserHealing
import VpnService.Backend.Session

namespace VpnService.Backend

open Agent

/-- The mutating calls of `HttpXrayAgentProvider`. -/
inductive XrayCall
  | createUser (uuid deviceId : Int) (flow : String)
  | removeUser (uuid : Int)
  | rotateUser (uuid newUuid : Int)

/-- The endpoint of the call, with the status it answers with. -/
def XrayCall.endpoint (applyToLive : Bool) : XrayCall → XrayReq Nat
  | .createUser uuid deviceId flow => do
    let _ ← addUser applyToLive uuid deviceId flow
    pure 201
  | .removeUser uuid => do
    Agent.removeUser applyToLive uuid
    pure 204
  | .rotateUser uuid newUuid => do
    let record ← Agent.rotateUser applyToLive uuid newUuid
    pure (if record.isSome then 200 else 404)

/-- The status and the state the agent is left in; `XrayCommandError` is a 502. Xray answers. -/
def XrayCall.execute (applyToLive : Bool) (now : Time) (call : XrayCall) (n : XrayNode) :
    Nat×XrayNode := match call.endpoint applyToLive (n.session now []) with
  | (.ok status,t) => (status,t.toXrayNode)
  | (.error _,t) => (502,t.toXrayNode)

/-- What becomes of an attempt. -/
inductive Fate
  | refused   -- it does not reach the agent
  | lost      -- executed, but the response is lost
  | answered
  deriving DecidableEq

structure Attempt where
  now : Time
  fate : Fate
  deriving DecidableEq

/-- `_request` over these attempts: a transport error goes on to the next one, an error status
raises at once. -/
def requestOver (applyToLive : Bool) (baseUrl : String) (call : XrayCall) :
    List Attempt → XrayNode → Except AppError Unit×XrayNode
  | [],n => (.error (xrayAgentUnreachable baseUrl " after 3 attempts"),n)
  | a::as,n => match a.fate with
    | .refused => requestOver applyToLive baseUrl call as n
    | .lost => requestOver applyToLive baseUrl call as (call.execute applyToLive a.now n).2
    | .answered =>
      let r := call.execute applyToLive a.now n
      if r.1<400 then (.ok (),r.2) else (.error (xrayAgentUnreachable baseUrl ""),r.2)

/-- `_MAX_ATTEMPTS = 3`. -/
def requestUser (applyToLive : Bool) (baseUrl : String) (call : XrayCall) (attempts : List Attempt)
    (n : XrayNode) : Except AppError Unit×XrayNode :=
  requestOver applyToLive baseUrl call (attempts.take 3) n

/-- The attempts that are made: none after an answer. -/
def made : List Attempt → List Attempt
  | [] => []
  | a::as => if a.fate=.answered then [a] else a::made as

/-- The agent is left as after one execution, or as it was if none arrived; and with an answer the
provider succeeds. -/
def RetriedSafely (applyToLive : Bool) (baseUrl : String) (call : XrayCall)
    (attempts : List Attempt) (n : XrayNode) : Prop :=
  ((∀ a∈made (attempts.take 3),a.fate=.refused) ∧
      (requestUser applyToLive baseUrl call attempts n).2=n ∨
    ∃ a∈made (attempts.take 3),a.fate≠.refused ∧
      (requestUser applyToLive baseUrl call attempts n).2=(call.execute applyToLive a.now n).2) ∧
  ((∃ a∈made (attempts.take 3),a.fate=.answered) →
    (requestUser applyToLive baseUrl call attempts n).1=.ok ())

/-- The rotation answers 404 to a uuid the agent does not know. -/
def XrayCall.Known (n : XrayNode) : XrayCall → Prop
  | .rotateUser uuid _ => (n.users.get? uuid).isSome=true
  | _ => True

/-- The agent knows the uuid of the call after it too. -/
def XrayCall.KnownAgain : XrayCall → Prop
  | .rotateUser uuid newUuid => newUuid=uuid
  | _ => True

/-- The agent knows the uuid, and still does when the answered attempt arrives. -/
def Repeatable (call : XrayCall) (attempts : List Attempt) (n : XrayNode) : Prop :=
  (∃ a∈made (attempts.take 3),a.fate=.answered) →
    call.Known n ∧ (call.KnownAgain ∨ ∀ a∈made (attempts.take 3),a.fate≠.lost)

section

variable {applyToLive : Bool} {now later : Time} {n : XrayNode} {uuid deviceId newUuid : Int}
  {flow : String}

theorem execute_createUser : (XrayCall.createUser uuid deviceId flow).execute applyToLive now n=
    (201,⟨UserStore.createUser uuid deviceId flow now n.users,
      if applyToLive=true ∧ emailForDevice deviceId∉n.inbound.rows.map InboundUser.email
      then n.inbound.upsert ⟨emailForDevice deviceId,uuid,flow⟩ else n.inbound⟩) := by
  unfold XrayCall.execute XrayCall.endpoint addUser
  cases applyToLive with
  | false => rfl
  | true =>
    simp only [upsertRecord,getUser,listUserEmails,grpcCall,XrayNode.session,Eff.bind_run,
      Eff.reads_run,Eff.change_run,Eff.pure_run,if_true,true_and,id]
    by_cases hlive : emailForDevice deviceId∈n.inbound.rows.map InboundUser.email
    · rw [if_pos hlive,if_neg (not_not.mpr hlive)]
      rfl
    · rw [if_neg hlive,if_pos hlive]
      rfl

theorem execute_removeUser_none (h : n.users.get? uuid=none) :
    (XrayCall.removeUser uuid).execute applyToLive now n=(204,n) := by
  unfold XrayCall.execute XrayCall.endpoint Agent.removeUser getUser XrayNode.session
  simp only [Eff.bind_run,Eff.reads_run,h,Eff.pure_run]

theorem execute_removeUser {r : UserRecord} (h : n.users.get? uuid=some r) :
    (XrayCall.removeUser uuid).execute applyToLive now n=
      (204,⟨n.users.delete uuid,if applyToLive then n.inbound.delete r.email else n.inbound⟩) := by
  unfold XrayCall.execute XrayCall.endpoint Agent.removeUser getUser XrayNode.session
  simp only [Eff.bind_run,Eff.reads_run,h]
  cases applyToLive with
  | false => rfl
  | true => rfl

theorem execute_rotateUser_none (h : n.users.get? uuid=none) :
    (XrayCall.rotateUser uuid newUuid).execute applyToLive now n=(404,n) := by
  unfold XrayCall.execute XrayCall.endpoint Agent.rotateUser getUser XrayNode.session
  simp only [Eff.bind_run,Eff.reads_run,h,Eff.pure_run]
  rfl

/-- The record a rotation leaves. -/
def rotated (users : UserStore) (old : UserRecord) (newUuid : Int) (now : Time) : UserRecord :=
  UserStore.record ((users.delete old.uuid).get? newUuid) newUuid old.deviceId old.email old.flow
    (some now) now

theorem execute_rotateUser {old : UserRecord} (h : n.users.get? uuid=some old) :
    (XrayCall.rotateUser uuid newUuid).execute applyToLive now n=
      (200,⟨UserStore.write (n.users.delete uuid) (rotated n.users old newUuid now),
        if applyToLive then (n.inbound.delete old.email).upsert ⟨old.email,newUuid,old.flow⟩
        else n.inbound⟩) := by
  have huuid : old.uuid=uuid := Store.key_of_get? h
  unfold XrayCall.execute XrayCall.endpoint Agent.rotateUser getUser XrayNode.session rotated
  rw [huuid]
  simp only [Eff.bind_run,Eff.reads_run,h]
  cases applyToLive with
  | false => rfl
  | true => rfl

/-- What is under the old uuid after a rotation. -/
theorem get?_rotated : (((XrayCall.rotateUser uuid newUuid).execute applyToLive now n).2.users.get?
    uuid).isSome=true ↔ (n.users.get? uuid).isSome=true ∧ newUuid=uuid := by
  cases hold : n.users.get? uuid with
  | none =>
    rw [execute_rotateUser_none hold]
    simp [hold]
  | some old =>
    rw [execute_rotateUser hold]
    show ((UserStore.write (n.users.delete uuid) (rotated n.users old newUuid now)).get?
      uuid).isSome=true ↔ _
    rw [UserStore.get?_write,Store.get?_delete,if_pos rfl]
    by_cases hnew : newUuid=uuid
    · simp [rotated,UserStore.record,hnew]
    · simp [rotated,UserStore.record,hnew,Ne.symm hnew]

/-- A second execution changes nothing, or all the first did. -/
theorem execute_again (call : XrayCall) :
    (call.execute applyToLive later (call.execute applyToLive now n).2).2=
      (call.execute applyToLive now n).2 ∨
    (call.execute applyToLive later (call.execute applyToLive now n).2).2=
      (call.execute applyToLive later n).2 := by
  cases call with
  | createUser uuid deviceId flow =>
    left
    rw [execute_createUser,execute_createUser]
    simp only [UserStore.createUser_again]
    by_cases hcond : applyToLive=true ∧
        emailForDevice deviceId∉n.inbound.rows.map InboundUser.email
    · have hthere : emailForDevice deviceId∈
          (n.inbound.upsert ⟨emailForDevice deviceId,uuid,flow⟩).rows.map InboundUser.email :=
        List.mem_map.mpr ⟨_,Store.mem_upsert.mpr (Or.inl rfl),rfl⟩
      rw [if_pos hcond,if_neg fun h => h.2 hthere]
    · rw [if_neg hcond,if_neg hcond]
  | removeUser uuid =>
    left
    cases hr : n.users.get? uuid with
    | none => rw [execute_removeUser_none hr,execute_removeUser_none hr]
    | some r =>
      rw [execute_removeUser hr]
      rw [execute_removeUser_none]
      rw [Store.get?_delete,if_pos rfl]
  | rotateUser uuid newUuid =>
    cases hold : n.users.get? uuid with
    | none =>
      left
      rw [execute_rotateUser_none hold,execute_rotateUser_none hold]
    | some old =>
      by_cases hnew : newUuid=uuid
      · right
        rw [hnew]
        obtain ⟨huuid,hdevice,hemail,hflow,_⟩ :=
          UserStore.written_keeps (n.users.delete uuid) (rotated n.users old uuid now)
        have hget : ((XrayCall.rotateUser uuid uuid).execute applyToLive now n).2.users.get? uuid=
            some (UserStore.written (n.users.delete uuid) (rotated n.users old uuid now)) := by
          rw [execute_rotateUser hold]
          show (UserStore.write _ (rotated n.users old uuid now)).get? uuid=_
          rw [UserStore.get?_write]
          exact if_pos rfl
        have hdelete : (UserStore.write (n.users.delete uuid)
            (rotated n.users old uuid now)).delete uuid=n.users.delete uuid :=
          Store.delete_upsert_delete n.users huuid
        have hold' : old.uuid=uuid := Store.key_of_get? hold
        rw [execute_rotateUser hget,execute_rotateUser hold,execute_rotateUser hold]
        dsimp only
        rw [hdelete,hemail,hflow]
        have hrecord : rotated (UserStore.write (n.users.delete uuid) (rotated n.users old uuid now))
            (UserStore.written (n.users.delete uuid) (rotated n.users old uuid now)) uuid later=
            rotated n.users old uuid later := by
          unfold rotated at huuid hdevice hemail hflow hdelete ⊢
          rw [huuid,hdevice,hemail,hflow,hold']
          rw [hold'] at hdelete
          show UserStore.record ((Store.delete _ uuid).get? uuid) _ _ _ _ _ _=_
          rw [hdelete]
          rfl
        rw [hrecord]
        cases applyToLive with
        | false => rfl
        | true =>
          have hinbound : ((n.inbound.delete old.email).upsert ⟨old.email,uuid,old.flow⟩).delete
              old.email=n.inbound.delete old.email := Store.delete_upsert_delete n.inbound rfl
          show (⟨_,((Store.delete _ old.email).upsert _)⟩ : XrayNode)=_
          rw [if_pos rfl,hinbound]
          rfl
      · left
        have hnone : ((XrayCall.rotateUser uuid newUuid).execute applyToLive now n).2.users.get?
            uuid=none := by
          by_contra hsome
          have hboth := get?_rotated.mp (Option.isSome_iff_ne_none.mpr hsome)
          exact hnew hboth.2
        rw [execute_rotateUser_none hnone]

theorem execute_status {call : XrayCall} :
    (call.execute applyToLive now n).1<400 ↔ call.Known n := by
  cases call with
  | createUser uuid deviceId flow =>
    rw [execute_createUser]
    simp [XrayCall.Known]
  | removeUser uuid =>
    cases hr : n.users.get? uuid with
    | none =>
      rw [execute_removeUser_none hr]
      simp [XrayCall.Known]
    | some r =>
      rw [execute_removeUser hr]
      simp [XrayCall.Known]
  | rotateUser uuid newUuid =>
    cases hold : n.users.get? uuid with
    | none =>
      rw [execute_rotateUser_none hold]
      simp [XrayCall.Known,hold]
    | some old =>
      rw [execute_rotateUser hold]
      simp [XrayCall.Known,hold]

theorem execute_known {call : XrayCall} :
    call.Known (call.execute applyToLive now n).2 ↔ call.Known n ∧ call.KnownAgain := by
  cases call with
  | createUser uuid deviceId flow => simp [XrayCall.Known,XrayCall.KnownAgain]
  | removeUser uuid => simp [XrayCall.Known,XrayCall.KnownAgain]
  | rotateUser uuid newUuid => exact get?_rotated

/-- Whatever is lost, the agent is left as after one execution. -/
theorem requestOver_state (baseUrl : String) (call : XrayCall) (attempts : List Attempt)
    (n : XrayNode) :
    (∀ a∈made attempts,a.fate=.refused) ∧
      (requestOver applyToLive baseUrl call attempts n).2=n ∨
    ∃ a∈made attempts,a.fate≠.refused ∧ (requestOver applyToLive baseUrl call attempts n).2=
      (call.execute applyToLive a.now n).2 := by
  induction attempts generalizing n with
  | nil => exact Or.inl ⟨fun a ha => absurd ha List.not_mem_nil,rfl⟩
  | cons a as ih =>
    obtain ⟨now,fate⟩ := a
    cases fate with
    | refused =>
      rcases ih n with ⟨hall,hsame⟩|⟨b,hb,hreached,hstate⟩
      · left
        refine ⟨fun b hb => ?_,hsame⟩
        rcases List.mem_cons.mp hb with hb|hb
        · rw [hb]
        · exact hall b hb
      · exact Or.inr ⟨b,List.mem_cons_of_mem _ hb,hreached,hstate⟩
    | lost =>
      right
      rcases ih (call.execute applyToLive now n).2 with ⟨hall,hsame⟩|⟨b,hb,hreached,hstate⟩
      · exact ⟨_,List.mem_cons_self,nofun,hsame⟩
      · have hagain : (call.execute applyToLive b.now (call.execute applyToLive now n).2).2=_ ∨ _ :=
          execute_again call
        rcases hagain with hfirst|hlast
        · exact ⟨_,List.mem_cons_self,nofun,hstate.trans hfirst⟩
        · exact ⟨b,List.mem_cons_of_mem _ hb,hreached,hstate.trans hlast⟩
    | answered =>
      right
      refine ⟨⟨now,.answered⟩,List.mem_cons_self,nofun,?_⟩
      unfold requestOver
      dsimp only
      split_ifs <;> rfl

/-- An answer is a success as long as the agent knows the uuid when it arrives. -/
theorem requestOver_answer (baseUrl : String) {call : XrayCall} {attempts : List Attempt}
    {n : XrayNode} (h : ∃ a∈made attempts,a.fate=.answered) :
    (requestOver applyToLive baseUrl call attempts n).1=.ok () ↔
      call.Known n ∧ (call.KnownAgain ∨ ∀ a∈made attempts,a.fate≠.lost) := by
  induction attempts generalizing n with
  | nil =>
    obtain ⟨a,ha,_⟩ := h
    exact absurd ha List.not_mem_nil
  | cons a as ih =>
    obtain ⟨now,fate⟩ := a
    cases fate with
    | refused =>
      have hrest : ∃ a∈made as,a.fate=.answered := by
        obtain ⟨b,hb,hanswered⟩ := h
        rcases List.mem_cons.mp hb with hb|hb
        · rw [hb] at hanswered
          cases hanswered
        · exact ⟨b,hb,hanswered⟩
      have hmade : made (⟨now,.refused⟩::as)=⟨now,.refused⟩::made as := rfl
      show (requestOver applyToLive baseUrl call as n).1=_ ↔ _
      rw [ih hrest,hmade,List.forall_mem_cons]
      simp
    | lost =>
      have hrest : ∃ a∈made as,a.fate=.answered := by
        obtain ⟨b,hb,hanswered⟩ := h
        rcases List.mem_cons.mp hb with hb|hb
        · rw [hb] at hanswered
          cases hanswered
        · exact ⟨b,hb,hanswered⟩
      have hmade : made (⟨now,.lost⟩::as)=⟨now,.lost⟩::made as := rfl
      show (requestOver applyToLive baseUrl call as (call.execute applyToLive now n).2).1=_ ↔ _
      rw [ih hrest,hmade,List.forall_mem_cons,execute_known]
      simp
      tauto
    | answered =>
      have hmade : made (⟨now,.answered⟩::as)=[⟨now,.answered⟩] := rfl
      have hnone : ∀ b∈made (⟨now,.answered⟩::as),b.fate≠.lost := by
        intro b hb
        rw [hmade,List.mem_singleton] at hb
        rw [hb]
        exact nofun
      have hknown : (call.execute applyToLive now n).1<400 ↔ call.Known n := execute_status
      unfold requestOver
      dsimp only
      by_cases hstatus : (call.execute applyToLive now n).1<400
      · rw [if_pos hstatus]
        exact ⟨fun _ => ⟨hknown.mp hstatus,Or.inr hnone⟩,fun _ => rfl⟩
      · rw [if_neg hstatus]
        constructor
        · intro h
          cases h
        · intro h
          exact absurd (hknown.mpr h.1) hstatus

end

/-- The agent's state bears any pattern of losses. The answer to a rotation does not. -/
theorem request_retried (applyToLive : Bool) (baseUrl : String) (call : XrayCall)
    (attempts : List Attempt) (n : XrayNode) :
    RetriedSafely applyToLive baseUrl call attempts n ↔ Repeatable call attempts n := by
  constructor
  · intro h hanswered
    exact (requestOver_answer baseUrl hanswered).mp (h.2 hanswered)
  · intro h
    constructor
    · exact requestOver_state baseUrl call (attempts.take 3) n
    · intro hanswered
      exact (requestOver_answer baseUrl hanswered).mpr (h hanswered)

/-- The agent rotates, the response is lost, and the second attempt is answered with a 404. -/
theorem rotateUser_unretried :
    let n := ((XrayCall.createUser 1 7 "").execute true 0 .initial).2
    let attempts : List Attempt := [⟨0,.lost⟩,⟨0,.answered⟩]
    (requestUser true "http://agent" (.rotateUser 1 2) attempts n).1=
        .error (xrayAgentUnreachable "http://agent" "") ∧
      ¬RetriedSafely true "http://agent" (.rotateUser 1 2) attempts n := by
  intro n attempts
  have hfails : (requestUser true "http://agent" (.rotateUser 1 2) attempts n).1=
      .error (xrayAgentUnreachable "http://agent" "") := rfl
  constructor
  · exact hfails
  · intro h
    have hsucceeds := h.2 ⟨⟨0,.answered⟩,by decide,rfl⟩
    rw [hfails] at hsucceeds
    cases hsucceeds

end VpnService.Backend
