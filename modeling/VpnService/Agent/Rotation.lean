import VpnService.Agent.UserReconciler

namespace VpnService.Agent

/-- What `rotate_user` does with the user it has found. -/
def rotationSteps (applyToLive : Bool) (uuid newUuid : Int) (old : UserRecord) :
    List (XrayReq Unit) := [
  if applyToLive then removeInboundUser old.email else pure (),
  deleteRecord uuid,
  do
    let _ ← upsertRecord newUuid old.deviceId old.email old.flow some
    pure (),
  if applyToLive then addInboundUser newUuid old.email old.flow else pure ()]

inductive RotationError
  | notFound
  | command (e : XrayCommandError)
  | stopped  -- the process is gone, and with it the connection

/-- `POST /users/{uuid}/rotate`. With `stop`, the process stops after so many steps. -/
def rotate (applyToLive : Bool) (uuid newUuid : Int) (stop : Option Nat) (s : XraySession) :
    Except RotationError UserRecord×XraySession :=
  match stop with
  | none => match rotateUser applyToLive uuid newUuid s with
    | (.ok (some r),t) => (.ok r,t)
    | (.ok none,t) => (.error .notFound,t)
    | (.error e,t) => (.error (.command e),t)
  | some k => match s.users.get? uuid with
    | none => (.error .stopped,s)
    | some old => match Eff.each id ((rotationSteps applyToLive uuid newUuid old).take k) s with
      | (.ok _,t) => (.error .stopped,t)
      | (.error e,t) => (.error (.command e),t)

/-- What the caller may rely on, from the answer and the store after it. -/
def AllOrNothing (users : UserStore) (uuid newUuid : Int) :
    Except RotationError UserRecord×XraySession → Prop
  | (.error _,t) => (∀ old,users.get? uuid=some old → ∃ r,t.users.get? uuid=some r ∧
      r.deviceId=old.deviceId ∧ r.flow=old.flow) ∧ t.users.get? newUuid=none
  | (.ok _,t) => (∃ old r,users.get? uuid=some old ∧ t.users.get? newUuid=some r ∧
      r.deviceId=old.deviceId) ∧ t.users.get? uuid=none ∧
      ∀ k r,k≠uuid → users.get? k=some r → t.users.get? k=some r

/-- The rotation ends before it writes to the store. -/
def EndsEarly (applyToLive : Bool) (users : UserStore) (uuid : Int) (outcomes : List GrpcOutcome)
    (stop : Option Nat) : Prop :=
  users.get? uuid=none ∨ (∃ k,stop=some k ∧ k≤1) ∨
    (applyToLive=true ∧ outcomes.headD .answered≠.answered)

/-- Nothing fails. -/
def RunsThrough (applyToLive : Bool) (outcomes : List GrpcOutcome) (stop : Option Nat) : Prop :=
  stop=none ∧ (applyToLive=true → outcomes.headD .answered=.answered ∧
    outcomes.tail.headD .answered=.answered)

/-- No row is in the way of the new uuid: there is none, or it says what the rotation writes. -/
def Unhindered (users : UserStore) (newUuid : Int) (old : UserRecord) : Prop :=
  ∀ r,users.get? newUuid=some r →
    r.deviceId=old.deviceId ∧ r.email=old.email ∧ r.flow=old.flow ∧ r.enabled=true

/-- The store once the new row is written. -/
def rotated (users : UserStore) (uuid newUuid : Int) (old : UserRecord) (now : Int) : UserStore :=
  UserStore.upsert (users.delete uuid) newUuid old.deviceId old.email old.flow (some now) now

section

variable {s : XraySession} {old : UserRecord} {uuid newUuid : Int} {live : Bool}

/-- A gRPC call is answered, or fails, and never touches the store. -/
theorem inboundCall_cases (call : AlterInbound) (operation : String)
    (effect : Inbound → Inbound) (s : XraySession) :
    (s.outcomes.headD .answered=.answered ∧ ∃ t,
      (noteCall call >>= fun _ => grpcCall operation effect) s=(.ok (),t) ∧ t.users=s.users ∧
        t.now=s.now ∧ t.outcomes=s.outcomes.tail) ∨
    (s.outcomes.headD .answered≠.answered ∧ ∃ e t,
      (noteCall call >>= fun _ => grpcCall operation effect) s=(.error e,t) ∧ t.users=s.users) := by
  obtain ⟨node,now,outcomes,calls⟩ := s
  cases outcomes with
  | nil => exact Or.inl ⟨rfl,_,rfl,rfl,rfl,rfl⟩
  | cons o os =>
    cases o with
    | answered => exact Or.inl ⟨rfl,_,rfl,rfl,rfl,rfl⟩
    | failedBefore =>
      refine Or.inr ⟨fun h => ?_,_,_,rfl,rfl⟩
      cases h
    | failedAfter =>
      refine Or.inr ⟨fun h => ?_,_,_,rfl,rfl⟩
      cases h

/-- The same for a step that calls only where the agent is told to. -/
theorem liveStep_cases (live : Bool) (call : AlterInbound) (operation : String)
    (effect : Inbound → Inbound) (s : XraySession) :
    (¬(live=true ∧ s.outcomes.headD .answered≠.answered) ∧ ∃ t,
      (if live then noteCall call >>= fun _ => grpcCall operation effect else pure ()) s=
        (.ok (),t) ∧ t.users=s.users ∧ t.now=s.now ∧ (live=true → t.outcomes=s.outcomes.tail)) ∨
    ((live=true ∧ s.outcomes.headD .answered≠.answered) ∧ ∃ e t,
      (if live then noteCall call >>= fun _ => grpcCall operation effect else pure ()) s=
        (.error e,t) ∧ t.users=s.users) := by
  cases live with
  | false => exact Or.inl ⟨by simp,s,rfl,rfl,rfl,by simp⟩
  | true =>
    rcases inboundCall_cases call operation effect s with ⟨ho,t,ht,hu,hn,hos⟩|⟨ho,e,t,ht,hu⟩
    · exact Or.inl ⟨fun h => h.2 ho,t,ht,hu,hn,fun _ => hos⟩
    · exact Or.inr ⟨⟨rfl,ho⟩,e,t,ht,hu⟩

/-- A rotation does from `s` what some steps do, and returns a record besides. -/
def Agrees (m : XrayReq (Option UserRecord)) (f : XrayReq Unit) (s : XraySession) : Prop :=
  ∃ r,m s=match f s with
    | (.ok _,t) => (.ok (some r),t)
    | (.error e,t) => (.error e,t)

theorem Agrees.bind {β : Type} {m : XrayReq β} {f : β → XrayReq (Option UserRecord)}
    {g : β → XrayReq Unit} (r : UserRecord)
    (h : ∀ b t,m s=(.ok b,t) → Agrees (f b) (g b) t) : Agrees (m >>= f) (m >>= g) s := by
  cases hm : m s with
  | mk x t =>
    cases x with
    | ok b =>
      obtain ⟨q,hq⟩ := h b t hm
      exact ⟨q,by rw [Eff.bind_run_ok hm,Eff.bind_run_ok hm,hq]⟩
    | error e => exact ⟨r,by rw [Eff.bind_run_error hm,Eff.bind_run_error hm]⟩

variable (newUuid live) in
/-- `rotate_user` is all its steps. -/
theorem rotateUser_steps (h : s.users.get? uuid=some old) : Agrees (rotateUser live uuid newUuid)
    (Eff.each id (rotationSteps live uuid newUuid old)) s := by
  have hget : getUser uuid s=(.ok (some old),s) := by
    rw [← h]
    rfl
  cases live with
  | false =>
    unfold Agrees rotateUser
    rw [Eff.bind_run_ok hget]
    exact ⟨_,rfl⟩
  | true =>
    have hadd : ∀ record t,Agrees
        (addInboundUser newUuid old.email old.flow >>= fun _ => pure (some record))
        (addInboundUser newUuid old.email old.flow >>= fun _ => pure ()) t := by
      intro record t
      exact Agrees.bind old fun _ _ _ => ⟨record,rfl⟩
    have hrest : Agrees (do
        removeInboundUser old.email
        deleteRecord uuid
        let record ← upsertRecord newUuid old.deviceId old.email old.flow some
        addInboundUser newUuid old.email old.flow
        pure (some record)) (do
        removeInboundUser old.email
        deleteRecord uuid
        let _ ← upsertRecord newUuid old.deviceId old.email old.flow some
        addInboundUser newUuid old.email old.flow
        pure ()) s :=
      Agrees.bind old fun _ _ _ => Agrees.bind old fun _ _ _ => Agrees.bind old fun record t _ =>
        hadd record t
    obtain ⟨r,hr⟩ := hrest
    refine ⟨r,?_⟩
    unfold rotateUser
    rw [Eff.bind_run_ok hget]
    exact hr

/-- The steps from the start end at once where the first call fails. -/
theorem rotationSteps_refused (hfail : live=true ∧ s.outcomes.headD .answered≠.answered)
    (k : Nat) : ∃ e t,
      Eff.each id ((rotationSteps live uuid newUuid old).take (k+1)) s=(.error e,t) ∧
        t.users=s.users := by
  rcases liveStep_cases live (.removeUser old.email) "remove_user" (fun x => x.delete old.email) s
    with ⟨hok,_⟩|⟨_,e,t,ht,hu⟩
  · exact absurd hfail hok
  · exact ⟨e,t,Eff.bind_run_error ht,hu⟩

/-- What so many steps have made of the store, the first call answered. -/
def storeAfter (users : UserStore) (uuid newUuid : Int) (old : UserRecord) (now : Int) :
    Nat → UserStore
  | 0 | 1 => users
  | 2 => users.delete uuid
  | _ => rotated users uuid newUuid old now

variable (old uuid newUuid) in
theorem rotationSteps_run (hok : ¬(live=true ∧ s.outcomes.headD .answered≠.answered)) (k : Nat) :
    ∃ x t,Eff.each id ((rotationSteps live uuid newUuid old).take k) s=(x,t) ∧
      t.users=storeAfter s.users uuid newUuid old s.now k ∧
      ((∃ a,x=.ok a) ↔ (k≥4 → live=true → s.outcomes.tail.headD .answered=.answered)) := by
  rcases liveStep_cases live (.removeUser old.email) "remove_user" (fun x => x.delete old.email) s
    with ⟨_,t,ht,hu,hn,hos⟩|⟨hfail,_⟩
  · match k with
    | 0 => exact ⟨_,_,rfl,rfl,by simp⟩
    | 1 => exact ⟨_,_,Eff.bind_run_ok ht,hu,by simp⟩
    | 2 =>
      refine ⟨_,_,Eff.bind_run_ok ht,?_,by simp⟩
      show t.users.delete uuid=_
      rw [hu]
      rfl
    | 3 =>
      refine ⟨_,_,Eff.bind_run_ok ht,?_,fun _ h => absurd h (by omega),fun _ => ⟨(),rfl⟩⟩
      show rotated t.users uuid newUuid old t.now=_
      rw [hu,hn]
      rfl
    | k+4 =>
      have hall : (rotationSteps live uuid newUuid old).take (k+4)=
          rotationSteps live uuid newUuid old := by
        apply List.take_of_length_le
        simp only [rotationSteps,List.length_cons,List.length_nil]
        omega
      let u : XraySession := {t with users := rotated t.users uuid newUuid old t.now}
      have hstore : u.users=storeAfter s.users uuid newUuid old s.now (k+4) := by
        show rotated t.users uuid newUuid old t.now=_
        rw [hu,hn]
        rfl
      rw [hall]
      rcases liveStep_cases live (.addUser old.email) "add_user"
        (fun x => x.upsert ⟨old.email,newUuid,old.flow⟩) u with ⟨hadd,v,hv,hvu,_⟩|⟨hadd,e,v,hv,hvu⟩
      · have hlast : Eff.each id [if live then addInboundUser newUuid old.email old.flow
            else pure ()] u=(.ok (),v) := Eff.bind_run_ok hv
        refine ⟨.ok (),v,(Eff.bind_run_ok ht).trans hlast,hvu.trans hstore,?_,?_⟩
        · intro _ _ hlive
          by_contra hne
          have hout : u.outcomes=s.outcomes.tail := hos hlive
          exact hadd ⟨hlive,by rw [hout]; exact hne⟩
        · exact fun _ => ⟨(),rfl⟩
      · have hlast : Eff.each id [if live then addInboundUser newUuid old.email old.flow
            else pure ()] u=(.error e,v) := Eff.bind_run_error hv
        refine ⟨.error e,v,(Eff.bind_run_ok ht).trans hlast,hvu.trans hstore,?_,?_⟩
        · rintro ⟨a,ha⟩
          cases ha
        · intro hanswered
          have hout : u.outcomes=s.outcomes.tail := hos hadd.1
          have hne := hadd.2
          rw [hout] at hne
          exact absurd (hanswered (by omega) hadd.1) hne
  · exact absurd hfail hok

variable (newUuid) in
/-- A rotation that ends early answers with an error and leaves the store alone. -/
theorem rotate_early {stop : Option Nat} (h : EndsEarly live s.users uuid s.outcomes stop) :
    ∃ e t,rotate live uuid newUuid stop s=(.error e,t) ∧ t.users=s.users := by
  cases hget : s.users.get? uuid with
  | none =>
    cases stop with
    | none =>
      have hfound : getUser uuid s=(.ok none,s) := by
        rw [← hget]
        rfl
      have hrun : rotateUser live uuid newUuid s=(.ok none,s) := by
        unfold rotateUser
        rw [Eff.bind_run_ok hfound]
        rfl
      refine ⟨.notFound,s,?_,rfl⟩
      unfold rotate
      rw [hrun]
    | some k =>
      refine ⟨.stopped,s,?_,rfl⟩
      simp only [rotate,hget]
  | some old =>
    have hfails : live=true ∧ s.outcomes.headD .answered≠.answered → ∀ k,∃ e t,
        Eff.each id ((rotationSteps live uuid newUuid old).take (k+1)) s=(.error e,t) ∧
          t.users=s.users := fun hfail k => rotationSteps_refused hfail k
    cases stop with
    | none =>
      rcases h with habsent|⟨k,hk,_⟩|hfail
      · rw [hget] at habsent
        cases habsent
      · cases hk
      · obtain ⟨e,t,ht,hu⟩ := hfails hfail 3
        obtain ⟨r,hr⟩ := rotateUser_steps newUuid live hget
        have hsteps : Eff.each id (rotationSteps live uuid newUuid old) s=(.error e,t) := ht
        rw [hsteps] at hr
        refine ⟨.command e,t,?_,hu⟩
        unfold rotate
        rw [hr]
    | some k =>
      have hstopped : ∀ x t,Eff.each id ((rotationSteps live uuid newUuid old).take k) s=(x,t) →
          t.users=s.users → ∃ e t,rotate live uuid newUuid (some k) s=(.error e,t) ∧
            t.users=s.users := by
        intro x t hx hu
        cases x with
        | ok a => exact ⟨.stopped,t,by simp only [rotate,hget,hx],hu⟩
        | error e => exact ⟨.command e,t,by simp only [rotate,hget,hx],hu⟩
      by_cases hfail : live=true ∧ s.outcomes.headD .answered≠.answered
      · cases k with
        | zero => exact hstopped _ _ rfl rfl
        | succ k =>
          obtain ⟨e,t,ht,hu⟩ := hfails hfail k
          exact hstopped _ t ht hu
      · obtain ⟨x,t,ht,hu,_⟩ := rotationSteps_run old uuid newUuid
          hfail k
        rcases h with habsent|⟨j,hj,hle⟩|hfail'
        · rw [hget] at habsent
          cases habsent
        · cases hj
          have hk : k=0 ∨ k=1 := by omega
          have hstore : storeAfter s.users uuid newUuid old s.now k=s.users := by
            cases hk with
            | inl h => rw [h,storeAfter]
            | inr h => rw [h,storeAfter]
          exact hstopped x t ht (hu.trans hstore)
        · exact absurd hfail' hfail

variable (newUuid) in
/-- Past its first step a rotation that does not run through has taken the old row away. -/
theorem rotate_late {stop : Option Nat} (hget : s.users.get? uuid=some old)
    (h : ¬EndsEarly live s.users uuid s.outcomes stop) :
    (RunsThrough live s.outcomes stop → ∃ r t,rotate live uuid newUuid stop s=(.ok r,t) ∧
      t.users=rotated s.users uuid newUuid old s.now) ∧
    (¬RunsThrough live s.outcomes stop → ∃ e t,rotate live uuid newUuid stop s=(.error e,t) ∧
      (t.users=s.users.delete uuid ∨ t.users=rotated s.users uuid newUuid old s.now)) := by
  have hok : ¬(live=true ∧ s.outcomes.headD .answered≠.answered) :=
    fun hfail => h (Or.inr (Or.inr hfail))
  have hfirst : live=true → s.outcomes.headD .answered=.answered := by
    intro hlive
    by_contra hne
    exact hok ⟨hlive,hne⟩
  cases stop with
  | none =>
    obtain ⟨x,t,ht,hu,hiff⟩ := rotationSteps_run old uuid newUuid
      hok 4
    have hsteps : Eff.each id (rotationSteps live uuid newUuid old) s=(x,t) := ht
    obtain ⟨r,hr⟩ := rotateUser_steps newUuid live hget
    rw [hsteps] at hr
    constructor
    · rintro ⟨_,hthrough⟩
      obtain ⟨a,ha⟩ := hiff.mpr fun _ hlive => (hthrough hlive).2
      subst ha
      exact ⟨r,t,by simp only [rotate,hr],hu⟩
    · intro hnot
      cases x with
      | ok a =>
        exact absurd ⟨rfl,fun hlive => ⟨hfirst hlive,hiff.mp ⟨a,rfl⟩ (by omega) hlive⟩⟩ hnot
      | error e => exact ⟨.command e,t,by simp only [rotate,hr],Or.inr hu⟩
  | some k =>
    refine ⟨fun hthrough => absurd hthrough.1 (by simp),fun _ => ?_⟩
    obtain ⟨x,t,ht,hu,_⟩ := rotationSteps_run old uuid newUuid
      hok k
    have hwritten : t.users=s.users.delete uuid ∨
        t.users=rotated s.users uuid newUuid old s.now := by
      rw [hu]
      match k,h with
      | 0,h => exact absurd (Or.inr (Or.inl ⟨0,rfl,by omega⟩)) h
      | 1,h => exact absurd (Or.inr (Or.inl ⟨1,rfl,by omega⟩)) h
      | 2,_ => exact Or.inl rfl
      | k+3,_ => exact Or.inr rfl
    cases x with
    | ok a => exact ⟨.stopped,t,by simp only [rotate,hget,ht],hwritten⟩
    | error e => exact ⟨.command e,t,by simp only [rotate,hget,ht],hwritten⟩

/-- The row a rotation writes. -/
def rotatedRow (users : UserStore) (uuid newUuid : Int) (old : UserRecord) (now : Int) :
    UserRecord :=
  UserStore.written (users.delete uuid) (UserStore.record ((users.delete uuid).get? newUuid)
    newUuid old.deviceId old.email old.flow (some now) now)

theorem get?_rotated (users : UserStore) (uuid newUuid : Int) (old : UserRecord) (now k : Int) :
    (rotated users uuid newUuid old now).get? k=
      if k=newUuid then some (rotatedRow users uuid newUuid old now)
      else if k=uuid then none else users.get? k := by
  have hwrite : (rotated users uuid newUuid old now).get? k=
      if k=newUuid then some (rotatedRow users uuid newUuid old now)
      else (users.delete uuid).get? k := UserStore.get?_write _ _ _
  rw [hwrite,Store.get?_delete users uuid k]

theorem rotatedRow_keeps (users : UserStore) (uuid newUuid : Int) (old : UserRecord) (now : Int) :
    (rotatedRow users uuid newUuid old now).deviceId=old.deviceId ∧
      (rotatedRow users uuid newUuid old now).email=old.email ∧
      (rotatedRow users uuid newUuid old now).flow=old.flow ∧
      (rotatedRow users uuid newUuid old now).enabled=true := by
  obtain ⟨_,hdevice,hemail,hflow,hon⟩ := UserStore.written_keeps (users.delete uuid)
    (UserStore.record ((users.delete uuid).get? newUuid) newUuid old.deviceId old.email old.flow
      (some now) now)
  exact ⟨hdevice,hemail,hflow,hon⟩

/-- A row under the new uuid is written over, but for its dates. -/
theorem rotatedRow_same {users : UserStore} {r : UserRecord} {now : Int}
    (hr : users.get? newUuid=some r) (hne : newUuid≠uuid) :
    rotatedRow users uuid newUuid old now=r ↔
      r.deviceId=old.deviceId ∧ r.email=old.email ∧ r.flow=old.flow ∧ r.enabled=true := by
  have hkeeps := rotatedRow_keeps users uuid newUuid old now
  constructor
  · intro he
    rw [he] at hkeeps
    exact hkeeps
  · rintro ⟨hdevice,hemail,hflow,hon⟩
    have hkept : (users.delete uuid).get? newUuid=some r := by
      rw [Store.get?_delete,if_neg hne,hr]
    have hid : r.uuid=newUuid := Store.key_of_get? hr
    unfold rotatedRow UserStore.written UserStore.record
    simp only [hkept,hdevice.symm,hemail.symm,hflow.symm]
    cases r
    simp_all

end

/-- A rotation is all or nothing exactly where it ends before it writes, with no user under the
new uuid, or runs through, with none in the way. -/
theorem rotate_all_or_nothing_iff (live : Bool) (s : XraySession) (uuid newUuid : Int)
    (stop : Option Nat) : AllOrNothing s.users uuid newUuid (rotate live uuid newUuid stop s) ↔
      (EndsEarly live s.users uuid s.outcomes stop ∧ s.users.get? newUuid=none) ∨
      (RunsThrough live s.outcomes stop ∧ newUuid≠uuid ∧
        ∃ old,s.users.get? uuid=some old ∧ Unhindered s.users newUuid old) := by
  by_cases hearly : EndsEarly live s.users uuid s.outcomes stop
  · obtain ⟨e,t,ht,hu⟩ := rotate_early newUuid hearly
    have hnot : ¬(RunsThrough live s.outcomes stop ∧ newUuid≠uuid ∧
        ∃ old,s.users.get? uuid=some old ∧ Unhindered s.users newUuid old) := by
      rintro ⟨⟨hstop,hanswered⟩,_,old,hold,_⟩
      rcases hearly with habsent|⟨k,hk,_⟩|⟨hlive,hne⟩
      · rw [hold] at habsent
        cases habsent
      · rw [hstop] at hk
        cases hk
      · exact hne (hanswered hlive).1
    rw [ht]
    simp only [AllOrNothing,hu]
    constructor
    · exact fun h => Or.inl ⟨hearly,h.2⟩
    · rintro (h|h)
      · exact ⟨fun old hold => ⟨old,hold,rfl,rfl⟩,h.2⟩
      · exact absurd h hnot
  · cases hget : s.users.get? uuid with
    | none => exact absurd (Or.inl hget) hearly
    | some old =>
      obtain ⟨hthrough,hbroken⟩ := rotate_late newUuid hget hearly
      by_cases hruns : RunsThrough live s.outcomes stop
      · obtain ⟨r,t,ht,hu⟩ := hthrough hruns
        rw [ht]
        simp only [AllOrNothing,hu]
        constructor
        · rintro ⟨_,hgone,hothers⟩
          have hne : newUuid≠uuid := by
            intro he
            rw [get?_rotated,if_pos he.symm] at hgone
            cases hgone
          refine Or.inr ⟨hruns,hne,old,rfl,fun q hq => ?_⟩
          have hkept := hothers newUuid q hne hq
          rw [get?_rotated,if_pos rfl] at hkept
          exact (rotatedRow_same hq hne).mp (Option.some.inj hkept)
        · rintro (h|⟨_,hne,old',hold,hfree⟩)
          · exact absurd h.1 hearly
          · cases hold
            refine ⟨⟨old,_,hget,?_,(rotatedRow_keeps s.users uuid newUuid old s.now).1⟩,?_,?_⟩
            · rw [get?_rotated,if_pos rfl]
            · rw [get?_rotated,if_neg (Ne.symm hne),if_pos rfl]
            · intro k q hk hq
              rw [get?_rotated]
              by_cases hnew : k=newUuid
              · rw [if_pos hnew]
                rw [hnew] at hq
                exact congrArg some ((rotatedRow_same hq hne).mpr (hfree q hq))
              · rw [if_neg hnew,if_neg hk,hq]
      · obtain ⟨e,t,ht,hu⟩ := hbroken hruns
        have hlost : ¬AllOrNothing s.users uuid newUuid (.error e,t) := by
          rintro ⟨hkept,hnew⟩
          obtain ⟨r,hr,_⟩ := hkept old hget
          rcases hu with hu|hu
          · rw [hu,Store.get?_delete,if_pos rfl] at hr
            cases hr
          · rw [hu,get?_rotated,if_pos rfl] at hnew
            cases hnew
        rw [ht]
        constructor
        · exact fun h => absurd h hlost
        · rintro (h|h)
          · exact absurd h.1 hearly
          · exact absurd h.1 hruns

def sampleUsers : UserStore := UserStore.createUser 5 7 "flow" 0 .empty

/-- The old user is gone and the new one is not on the inbound. -/
theorem rotate_not_all_or_nothing : ¬∀ (live : Bool) (s : XraySession) (uuid newUuid : Int)
    (stop : Option Nat),AllOrNothing s.users uuid newUuid (rotate live uuid newUuid stop s) := by
  intro h
  have hkept := (h true ⟨⟨sampleUsers,.empty⟩,1,[.answered,.failedBefore],[]⟩ 5 6 none).2
  have hnew : (rotate true 5 6 none
      ⟨⟨sampleUsers,.empty⟩,1,[.answered,.failedBefore],[]⟩).2.users.get? 6≠none := by decide
  exact hnew hkept

end VpnService.Agent
