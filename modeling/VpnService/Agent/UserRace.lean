import VpnService.Agent.UserHealing

namespace VpnService.Agent

/-- A request to the xray-agent. -/
inductive UserRequest
  | addUser (uuid deviceId : Int) (flow : String)
  | removeUser (uuid : Int)
  | rotateUser (uuid newUuid : Int)

/-- Where a request stands between two awaits. -/
inductive RequestPlace
  | start
  | looked (existing : Option UserRecord)                      -- `add_user` is in `upsert`
  | written
  | absent                                                     -- its email was not live
  | found (r : UserRecord)                                     -- the others have their record
  | cleared (r : UserRecord)                                   -- which is off the inbound
  | deleted (r : UserRecord)                                   -- `rotate_user` goes on
  | relooked (r : UserRecord) (existing : Option UserRecord)
  | rewritten (r : UserRecord)
  | finished
  deriving DecidableEq

/-- Where the pass stands. -/
inductive PassPlace
  | start
  | read (desired : List UserRecord)
  | acting (missing : List UserRecord) (extra : List String)
  | finished
  deriving DecidableEq

structure UserRace where
  node : XrayNode
  request : RequestPlace
  pass : PassPlace

namespace UserRequest

def event : UserRequest → UserEvent
  | addUser uuid deviceId flow => .addUser uuid deviceId flow
  | removeUser uuid => .removeUser uuid
  | rotateUser uuid newUuid => .rotateUser uuid newUuid

/-- The uuid the request leaves live at its email. -/
def leaves : UserRequest → Option Int
  | addUser uuid _ _ | rotateUser _ uuid => some uuid
  | removeUser _ => none

/-- The email the request is about. -/
def target (users : UserStore) : UserRequest → Option String
  | addUser _ deviceId _ => some (emailForDevice deviceId)
  | removeUser uuid | rotateUser uuid _ => (users.get? uuid).map UserRecord.email

/-- The request has made its last call that alters the inbound. -/
def spent : UserRequest → RequestPlace → Bool
  | _,.finished => true
  | removeUser _,.cleared _ => true
  | _,_ => false

end UserRequest

def UserRace.opening (n : XrayNode) : UserRace := ⟨n,.start,.start⟩

/-- The next step of `UserReconciler.add_user`. -/
def addUserTick (uuid deviceId : Int) (flow : String) (now : Int) (s : UserRace) : UserRace :=
  match s.request with
  | .start => {s with request := .looked (s.node.users.get? uuid)}
  | .looked existing =>
    let r := UserStore.record existing uuid deviceId (emailForDevice deviceId) flow none now
    {s with node.users := UserStore.write s.node.users r,request := .written}
  | .written =>
    if emailForDevice deviceId∈s.node.inbound.rows.map InboundUser.email then
      {s with request := .finished}
    else {s with request := .absent}
  | .absent => {s with
    node.inbound := s.node.inbound.upsert ⟨emailForDevice deviceId,uuid,flow⟩
    request := .finished}
  | _ => s

/-- The next step of `UserReconciler.remove_user`. -/
def removeUserTick (uuid : Int) (s : UserRace) : UserRace := match s.request with
  | .start => match s.node.users.get? uuid with
    | none => {s with request := .finished}
    | some r => {s with request := .found r}
  | .found r =>
    {s with node.inbound := s.node.inbound.delete r.email,request := .cleared r}
  | .cleared _ => {s with node.users := s.node.users.delete uuid,request := .finished}
  | _ => s

/-- The next step of `UserReconciler.rotate_user`. -/
def rotateUserTick (uuid newUuid now : Int) (s : UserRace) : UserRace := match s.request with
  | .start => match s.node.users.get? uuid with
    | none => {s with request := .finished}
    | some r => {s with request := .found r}
  | .found r =>
    {s with node.inbound := s.node.inbound.delete r.email,request := .cleared r}
  | .cleared r => {s with node.users := s.node.users.delete uuid,request := .deleted r}
  | .deleted r => {s with request := .relooked r (s.node.users.get? newUuid)}
  | .relooked r existing =>
    let new := UserStore.record existing newUuid r.deviceId r.email r.flow (some now) now
    {s with node.users := UserStore.write s.node.users new,request := .rewritten r}
  | .rewritten r => {s with
    node.inbound := s.node.inbound.upsert ⟨r.email,newUuid,r.flow⟩
    request := .finished}
  | _ => s

def requestTick (now : Int) : UserRequest → UserRace → UserRace
  | .addUser uuid deviceId flow => addUserTick uuid deviceId flow now
  | .removeUser uuid => removeUserTick uuid
  | .rotateUser uuid newUuid => rotateUserTick uuid newUuid now

/-- The next step of `UserReconciler.reconcile`. -/
def passTick (s : UserRace) : UserRace := match s.pass with
  | .start => {s with pass := .read (s.node.users.rows.filter UserRecord.enabled)}
  | .read desired =>
    let liveEmails := s.node.inbound.rows.map InboundUser.email
    {s with pass := .acting (missingUsers desired liveEmails) (extraEmails desired liveEmails)}
  | .acting (r::missing) extra => {s with
    node.inbound := s.node.inbound.upsert ⟨r.email,r.uuid,r.flow⟩
    pass := .acting missing extra}
  | .acting [] (email::extra) => {s with
    node.inbound := s.node.inbound.delete email
    pass := .acting [] extra}
  | .acting [] [] => {s with pass := .finished}
  | .finished => s

inductive Side
  | request
  | pass
  deriving DecidableEq

def raceTick (request : UserRequest) (now : Int) (s : UserRace) : Side → UserRace
  | .request => requestTick now request s
  | .pass => passTick s

def UserRace.ended (s : UserRace) : Prop := s.request=.finished ∧ s.pass=.finished

instance (s : UserRace) : Decidable s.ended := inferInstanceAs (Decidable (_ ∧ _))

/-- The uuid the pass is about to leave at an email, when its next step is a call. -/
def PassPlace.leaves : PassPlace → Option (Option Int)
  | acting (r::_) _ => some (some r.uuid)
  | acting [] (_::_) => some none
  | _ => none

/-- Once the request has made its last call, the pass makes none that leaves anything else. -/
def Harmless (request : UserRequest) (s : UserRace) (side : Side) : Prop :=
  side=.pass → request.spent s.request=true → ∀ left∈s.pass.leaves,left=request.leaves

instance (request : UserRequest) (s : UserRace) (side : Side) :
    Decidable (Harmless request s side) :=
  inferInstanceAs (Decidable (_ → _ → ∀ left∈s.pass.leaves,left=request.leaves))

def Desired (users : UserStore) (email : String) (uuid : Int) : Prop :=
  ∃ r∈users.rows,r.enabled=true ∧ r.email=email ∧ r.uuid=uuid

/-- Xray accepts the uuid. -/
def Live (inbound : Inbound) (email : String) (uuid : Int) : Prop :=
  ∃ u∈inbound.rows,u.email=email ∧ u.uuid=uuid

/-- The node is settled again, and the request stands. -/
structure Undisturbed (request : UserRequest) (n : XrayNode) : Prop where
  settled : Settled n
  removed : ∀ uuid,request=.removeUser uuid → ∀ email,¬Live n.inbound email uuid
  added : ∀ uuid deviceId flow,request=.addUser uuid deviceId flow →
    Live n.inbound (emailForDevice deviceId) uuid

theorem live_upsert {inbound : Inbound} {email flow x : String} {uuid w : Int} :
    Live (inbound.upsert ⟨email,uuid,flow⟩) x w ↔
      (x=email ∧ w=uuid) ∨ (x≠email ∧ Live inbound x w) := by
  constructor
  · intro ⟨u,hu,hx,hw⟩
    rcases Store.mem_upsert.mp hu with hu|⟨hu,hne⟩
    · subst hu
      exact Or.inl ⟨hx.symm,hw.symm⟩
    · exact Or.inr ⟨fun he => hne (hx.trans he),u,hu,hx,hw⟩
  · intro h
    rcases h with ⟨hx,hw⟩|⟨hne,u,hu,hx,hw⟩
    · exact ⟨_,Store.mem_upsert.mpr (Or.inl rfl),hx.symm,hw.symm⟩
    · exact ⟨u,Store.mem_upsert.mpr (Or.inr ⟨hu,fun he => hne (hx.symm.trans he)⟩),hx,hw⟩

theorem live_delete {inbound : Inbound} {email x : String} {w : Int} :
    Live (inbound.delete email) x w ↔ x≠email ∧ Live inbound x w := by
  constructor
  · intro ⟨u,hu,hx,hw⟩
    obtain ⟨hu,hne⟩ := Store.mem_delete.mp hu
    exact ⟨fun he => hne (hx.trans he),u,hu,hx,hw⟩
  · intro ⟨hne,u,hu,hx,hw⟩
    exact ⟨u,Store.mem_delete.mpr ⟨hu,fun he => hne (hx.symm.trans he)⟩,hx,hw⟩

theorem live_iff_email {inbound : Inbound} {x : String} :
    (∃ w,Live inbound x w) ↔ x∈inbound.rows.map InboundUser.email := by
  rw [List.mem_map]
  constructor
  · intro ⟨w,u,hu,hx,_⟩
    exact ⟨u,hu,hx⟩
  · intro ⟨u,hu,hx⟩
    exact ⟨u.uuid,u,hu,hx,rfl⟩

theorem settled_iff {n : XrayNode} (ho : Orderly n.users) :
    Settled n ↔ ∀ x w,Live n.inbound x w ↔ Desired n.users x w := by
  have hlive : ∀ x w,(x,w)∈liveUsers n ↔ Live n.inbound x w := by
    intro x w
    simp [liveUsers,Live]
  have hdesired : ∀ x w,(x,w)∈desiredUsers n ↔ Desired n.users x w := by
    intro x w
    unfold desiredUsers Desired
    rw [List.mem_map]
    constructor
    · intro h
      obtain ⟨r,hr,he⟩ := h
      obtain ⟨hr,hon⟩ := List.mem_filter.mp hr
      obtain ⟨hx,hw⟩ := Prod.mk.inj he
      exact ⟨r,hr,hon,(ho.emails r hr).trans hx,hw⟩
    · intro h
      obtain ⟨r,hr,hon,hx,hw⟩ := h
      refine ⟨r,List.mem_filter.mpr ⟨hr,hon⟩,?_⟩
      rw [← ho.emails r hr,hx,hw]
  unfold Settled
  rw [List.perm_ext_iff_of_nodup (nodup_liveUsers n) (nodup_desiredUsers n)]
  constructor
  · intro h x w
    rw [← hlive,← hdesired]
    exact h (x,w)
  · intro h e
    obtain ⟨x,w⟩ := e
    rw [hlive,hdesired]
    exact h x w

/-- A device has one uuid. -/
theorem Orderly.desired_unique {users : UserStore} (ho : Orderly users) {r : UserRecord}
    (hr : r∈users.rows) {w : Int} (h : Desired users r.email w) : w=r.uuid := by
  obtain ⟨q,hq,_,hemail,huuid⟩ := h
  have hdevice : q.deviceId=r.deviceId := by
    apply emailForDevice_injective
    rw [← ho.emails q hq,hemail,ho.emails r hr]
  rw [← huuid,ho.lone q hq r hr hdevice]

theorem desired_write {users : UserStore} {record : UserRecord} (ho : Orderly users)
    (hrecord : record.email=emailForDevice record.deviceId) (hon : record.enabled=true)
    (hown : ∀ q∈users.rows,q.uuid=record.uuid ↔ q.deviceId=record.deviceId) {x : String} {w : Int} :
    Desired (UserStore.write users record) x w ↔
      (x=record.email ∧ w=record.uuid) ∨ (x≠record.email ∧ Desired users x w) := by
  obtain ⟨huuid,_,hemail,_,henabled⟩ := UserStore.written_keeps users record
  have hsame : ∀ q∈users.rows,q.uuid=record.uuid ↔ q.email=record.email := by
    intro q hq
    rw [hown q hq,ho.emails q hq,hrecord]
    exact ⟨congrArg emailForDevice,emailForDevice_injective⟩
  constructor
  · intro ⟨q,hq,hqon,hx,hw⟩
    rcases UserStore.mem_write.mp hq with hq|⟨hq,hne⟩
    · left
      rw [← hx,← hw,hq]
      exact ⟨hemail,huuid⟩
    · right
      exact ⟨fun he => hne ((hsame q hq).mpr (hx.trans he)),q,hq,hqon,hx,hw⟩
  · intro h
    rcases h with ⟨hx,hw⟩|⟨hne,q,hq,hqon,hx,hw⟩
    · refine ⟨_,UserStore.mem_write.mpr (Or.inl rfl),henabled.trans hon,?_,?_⟩
      · rw [hemail,hx]
      · rw [huuid,hw]
    · refine ⟨q,UserStore.mem_write.mpr (Or.inr ⟨hq,fun he => hne ?_⟩),hqon,hx,hw⟩
      rw [← hx]
      exact (hsame q hq).mp he

theorem desired_delete {users : UserStore} {uuid : Int} {r : UserRecord} (ho : Orderly users)
    (hr : users.get? uuid=some r) {x : String} {w : Int} :
    Desired (users.delete uuid) x w ↔ x≠r.email ∧ Desired users x w := by
  have hrow := Store.mem_of_get? hr
  have hkey : r.uuid=uuid := Store.key_of_get? hr
  constructor
  · intro ⟨q,hq,hon,hx,hw⟩
    obtain ⟨hq,hne⟩ := Store.mem_delete.mp hq
    refine ⟨fun he => hne ?_,q,hq,hon,hx,hw⟩
    have huuid := ho.desired_unique hrow ⟨q,hq,hon,hx.trans he,rfl⟩
    exact huuid.trans hkey
  · intro ⟨hne,q,hq,hon,hx,hw⟩
    refine ⟨q,Store.mem_delete.mpr ⟨hq,fun he => hne ?_⟩,hon,hx,hw⟩
    have hqr : q=r := Store.eq_of_key hq hrow (Eq.trans he hkey.symm)
    rw [← hx,hqr]

/-- The store a rotation leaves. -/
def rotatedUsers (users : UserStore) (uuid newUuid : Int) (r : UserRecord) (now : Int) :
    UserStore :=
  UserStore.upsert (users.delete uuid) newUuid r.deviceId r.email r.flow (some now) now

/-- Where a request can stand, and the store it has made of the one it found. -/
inductive RequestAt (users : UserStore) (now : Int) :
    UserRequest → RequestPlace → UserStore → Prop
  | addStart (uuid deviceId : Int) (flow : String) :
    RequestAt users now (.addUser uuid deviceId flow) .start users
  | looked (uuid deviceId : Int) (flow : String) :
    RequestAt users now (.addUser uuid deviceId flow) (.looked (users.get? uuid)) users
  | written (uuid deviceId : Int) (flow : String) : RequestAt users now
    (.addUser uuid deviceId flow) .written (UserStore.createUser uuid deviceId flow now users)
  | absent (uuid deviceId : Int) (flow : String) : RequestAt users now
    (.addUser uuid deviceId flow) .absent (UserStore.createUser uuid deviceId flow now users)
  | added (uuid deviceId : Int) (flow : String) : RequestAt users now
    (.addUser uuid deviceId flow) .finished (UserStore.createUser uuid deviceId flow now users)
  | removeStart (uuid : Int) : RequestAt users now (.removeUser uuid) .start users
  | removeNone {uuid : Int} (h : users.get? uuid=none) :
    RequestAt users now (.removeUser uuid) .finished users
  | removeFound {uuid : Int} {r : UserRecord} (h : users.get? uuid=some r) :
    RequestAt users now (.removeUser uuid) (.found r) users
  | removeCleared {uuid : Int} {r : UserRecord} (h : users.get? uuid=some r) :
    RequestAt users now (.removeUser uuid) (.cleared r) users
  | removed {uuid : Int} {r : UserRecord} (h : users.get? uuid=some r) :
    RequestAt users now (.removeUser uuid) .finished (users.delete uuid)
  | rotateStart (uuid newUuid : Int) : RequestAt users now (.rotateUser uuid newUuid) .start users
  | rotateNone {uuid : Int} (newUuid : Int) (h : users.get? uuid=none) :
    RequestAt users now (.rotateUser uuid newUuid) .finished users
  | rotateFound {uuid : Int} (newUuid : Int) {r : UserRecord} (h : users.get? uuid=some r) :
    RequestAt users now (.rotateUser uuid newUuid) (.found r) users
  | rotateCleared {uuid : Int} (newUuid : Int) {r : UserRecord} (h : users.get? uuid=some r) :
    RequestAt users now (.rotateUser uuid newUuid) (.cleared r) users
  | deleted {uuid : Int} (newUuid : Int) {r : UserRecord} (h : users.get? uuid=some r) :
    RequestAt users now (.rotateUser uuid newUuid) (.deleted r) (users.delete uuid)
  | relooked {uuid newUuid : Int} {r : UserRecord} (h : users.get? uuid=some r) :
    RequestAt users now (.rotateUser uuid newUuid)
      (.relooked r ((users.delete uuid).get? newUuid)) (users.delete uuid)
  | rewritten {uuid newUuid : Int} {r : UserRecord} (h : users.get? uuid=some r) :
    RequestAt users now (.rotateUser uuid newUuid) (.rewritten r)
      (rotatedUsers users uuid newUuid r now)
  | rotated {uuid newUuid : Int} {r : UserRecord} (h : users.get? uuid=some r) :
    RequestAt users now (.rotateUser uuid newUuid) .finished
      (rotatedUsers users uuid newUuid r now)

theorem RequestAt.tick {users : UserStore} {now : Int} {request : UserRequest} {s : UserRace}
    (h : RequestAt users now request s.request s.node.users) :
    RequestAt users now request (requestTick now request s).request
      (requestTick now request s).node.users := by
  obtain ⟨⟨st,inbound⟩,place,pass⟩ := s
  dsimp only at h
  cases h with
  | addStart uuid deviceId flow => exact .looked uuid deviceId flow
  | looked uuid deviceId flow => exact .written uuid deviceId flow
  | written uuid deviceId flow =>
    simp only [requestTick,addUserTick]
    split_ifs
    · exact .added uuid deviceId flow
    · exact .absent uuid deviceId flow
  | absent uuid deviceId flow => exact .added uuid deviceId flow
  | added uuid deviceId flow => exact .added uuid deviceId flow
  | removeStart uuid =>
    cases hr : users.get? uuid with
    | none =>
      simp only [requestTick,removeUserTick,hr]
      exact .removeNone hr
    | some r =>
      simp only [requestTick,removeUserTick,hr]
      exact .removeFound hr
  | removeNone hr => exact .removeNone hr
  | removeFound hr => exact .removeCleared hr
  | removeCleared hr => exact .removed hr
  | removed hr => exact .removed hr
  | rotateStart uuid newUuid =>
    cases hr : users.get? uuid with
    | none =>
      simp only [requestTick,rotateUserTick,hr]
      exact .rotateNone newUuid hr
    | some r =>
      simp only [requestTick,rotateUserTick,hr]
      exact .rotateFound newUuid hr
  | rotateNone newUuid hr => exact .rotateNone newUuid hr
  | rotateFound newUuid hr => exact .rotateCleared newUuid hr
  | rotateCleared newUuid hr => exact .deleted newUuid hr
  | deleted newUuid hr => exact .relooked hr
  | relooked hr => exact .rewritten hr
  | rewritten hr => exact .rotated hr
  | rotated hr => exact .rotated hr

/-- What the callers of the request see to. -/
def UserRequest.Allowed (users : UserStore) : UserRequest → Prop
  | addUser uuid deviceId _ => ∀ r∈users.rows,r.uuid=uuid ↔ r.deviceId=deviceId
  | removeUser _ => True
  | rotateUser uuid newUuid => ∀ old,users.get? uuid=some old → ∀ r∈users.rows,
    r.uuid=newUuid → r.deviceId=old.deviceId

theorem allowed_of_lawful {n : XrayNode} {request : UserRequest} {now : Int}
    {outcomes : List GrpcOutcome} (h : Lawful n ⟨request.event,now,outcomes⟩) :
    request.Allowed n.users := by
  cases request with
  | addUser uuid deviceId flow => exact h
  | removeUser uuid => trivial
  | rotateUser uuid newUuid => exact fun old hold => h old hold

section

variable {users st : UserStore} {now : Int} {request : UserRequest} {place : RequestPlace}
  {uuid newUuid : Int} {r : UserRecord}

theorem target_removed (hr : users.get? uuid=some r) :
    (UserRequest.removeUser uuid).target users=some r.email := by
  simp [UserRequest.target,hr]

theorem target_rotated (hr : users.get? uuid=some r) :
    (UserRequest.rotateUser uuid newUuid).target users=some r.email := by
  simp [UserRequest.target,hr]

theorem owned_of_deleted (ho : Orderly users) (hr : users.get? uuid=some r)
    (ha : (UserRequest.rotateUser uuid newUuid).Allowed users) :
    ∀ q∈(users.delete uuid).rows,q.uuid=newUuid ↔ q.deviceId=r.deviceId := by
  intro q hq
  obtain ⟨hq,hne⟩ := Store.mem_delete.mp hq
  constructor
  · exact ha r hr q hq
  · intro he
    have hqr := ho.lone q hq r (Store.mem_of_get? hr) he
    rw [hqr] at hne
    exact absurd (Store.key_of_get? hr) hne

theorem orderly_rotated (ho : Orderly users) (hr : users.get? uuid=some r)
    (ha : (UserRequest.rotateUser uuid newUuid).Allowed users) :
    Orderly (rotatedUsers users uuid newUuid r now) := by
  have howned := owned_of_deleted ho hr ha
  apply (ho.delete uuid).write
  · exact ho.emails r (Store.mem_of_get? hr)
  · exact howned

theorem desired_rotated (ho : Orderly users) (hr : users.get? uuid=some r)
    (ha : (UserRequest.rotateUser uuid newUuid).Allowed users) {x : String} {w : Int} :
    Desired (rotatedUsers users uuid newUuid r now) x w ↔
      (x=r.email ∧ w=newUuid) ∨ (x≠r.email ∧ Desired users x w) := by
  have howned := owned_of_deleted ho hr ha
  have hwrite : Desired (rotatedUsers users uuid newUuid r now) x w ↔
      (x=r.email ∧ w=newUuid) ∨ (x≠r.email ∧ Desired (users.delete uuid) x w) := by
    apply desired_write (ho.delete uuid)
    · exact ho.emails r (Store.mem_of_get? hr)
    · rfl
    · exact howned
  rw [desired_delete ho hr] at hwrite
  refine hwrite.trans ?_
  apply or_congr_right
  exact ⟨fun h => h.2,fun h => ⟨h.1,h⟩⟩

theorem RequestAt.orderly (h : RequestAt users now request place st) (ho : Orderly users)
    (ha : request.Allowed users) : Orderly st := by
  cases h with
  | addStart _ _ _ | looked _ _ _ | removeStart _ | removeNone _ | removeFound _ | removeCleared _
  | rotateStart _ _ | rotateNone _ _ | rotateFound _ _ | rotateCleared _ _ => exact ho
  | written _ _ _ | absent _ _ _ | added _ _ _ => exact ho.write rfl ha
  | removed _ | deleted _ _ | relooked _ => exact ho.delete _
  | rewritten hr | rotated hr => exact orderly_rotated ho hr ha

theorem desired_created {deviceId : Int} {flow : String} (ho : Orderly users)
    (ha : (UserRequest.addUser uuid deviceId flow).Allowed users) {x : String} {w : Int} :
    Desired (UserStore.createUser uuid deviceId flow now users) x w ↔
      (x=emailForDevice deviceId ∧ w=uuid) ∨ (x≠emailForDevice deviceId ∧ Desired users x w) := by
  unfold UserStore.createUser UserStore.upsert
  apply desired_write ho
  · rfl
  · rfl
  · exact ha

/-- A request leaves the other emails alone. -/
theorem RequestAt.others (h : RequestAt users now request place st) (ho : Orderly users)
    (ha : request.Allowed users) {x : String} (hx : request.target users≠some x) (w : Int) :
    Desired st x w ↔ Desired users x w := by
  have hne : ∀ {y : String},request.target users=some y → x≠y := by
    intro y hy he
    rw [he] at hx
    exact hx hy
  cases h with
  | addStart _ _ _ | looked _ _ _ | removeStart _ | removeNone _ | removeFound _ | removeCleared _
  | rotateStart _ _ | rotateNone _ _ | rotateFound _ _ | rotateCleared _ _ => exact Iff.rfl
  | written _ _ _ | absent _ _ _ | added _ _ _ =>
    rw [desired_created ho ha]
    simp [hne rfl]
  | removed hr =>
    rw [desired_delete ho hr]
    simp [hne (target_removed hr)]
  | deleted _ hr | relooked hr =>
    rw [desired_delete ho hr]
    simp [hne (target_rotated hr)]
  | rewritten hr | rotated hr =>
    rw [desired_rotated ho hr ha]
    simp [hne (target_rotated hr)]

/-- What a finished request leaves desired at its email. -/
theorem RequestAt.final (h : RequestAt users now request .finished st) (ho : Orderly users)
    (ha : request.Allowed users) {x : String} (hx : request.target users=some x) (w : Int) :
    Desired st x w ↔ request.leaves=some w := by
  cases h with
  | added uuid deviceId flow =>
    cases hx
    rw [desired_created ho ha]
    simp [UserRequest.leaves,eq_comm]
  | removeNone hr =>
    simp [UserRequest.target,hr] at hx
  | rotateNone _ hr =>
    simp [UserRequest.target,hr] at hx
  | removed hr =>
    rw [target_removed hr] at hx
    cases hx
    rw [desired_delete ho hr]
    simp [UserRequest.leaves]
  | rotated hr =>
    rw [target_rotated hr] at hx
    cases hx
    rw [desired_rotated ho hr ha]
    simp [UserRequest.leaves,eq_comm]

/-- A user as `POST /users` lets it be: the device of the request has its uuid. -/
def UserRequest.Fits : UserRequest → String → Int → Prop
  | addUser uuid deviceId _,email,w => email=emailForDevice deviceId → w=uuid
  | removeUser _,_,_ | rotateUser _ _,_,_ => True

theorem allowed_fits (ho : Orderly users) (ha : request.Allowed users) {q : UserRecord}
    (hq : q∈users.rows) : request.Fits q.email q.uuid := by
  cases request with
  | addUser uuid deviceId flow =>
    intro hemail
    rw [ho.emails q hq] at hemail
    exact (ha q hq).mpr (emailForDevice_injective hemail)
  | removeUser _ => trivial
  | rotateUser _ _ => trivial

theorem RequestAt.fits (h : RequestAt users now request place st) (ho : Orderly users)
    (ha : request.Allowed users) {q : UserRecord} (hq : q∈st.rows) :
    request.Fits q.email q.uuid := by
  cases h with
  | addStart _ _ _ | looked _ _ _ | removeStart _ | removeNone _ | removeFound _ | removeCleared _
  | rotateStart _ _ | rotateNone _ _ | rotateFound _ _ | rotateCleared _ _ =>
    exact allowed_fits ho ha hq
  | written uuid deviceId flow | absent uuid deviceId flow | added uuid deviceId flow =>
    rcases UserStore.mem_write.mp hq with hq|⟨hq,_⟩
    · intro _
      rw [hq]
      exact (UserStore.written_keeps _ _).1
    · exact allowed_fits ho ha hq
  | removed _ | deleted _ _ | relooked _ | rewritten _ | rotated _ => trivial

/-- What a step of a request does to the inbound. -/
theorem RequestAt.calls {s : UserRace} (h : RequestAt users now request s.request s.node.users) :
    ((requestTick now request s).node.inbound=s.node.inbound ∧
      (request.spent (requestTick now request s).request=true →
        request.spent s.request=true ∨ request.target users=none ∨
        ∃ email uuid,request.target users=some email ∧ request.leaves=some uuid ∧
          (∀ w,request.Fits email w → w=uuid) ∧ ∃ w,Live s.node.inbound email w)) ∨
    (request.spent s.request=false ∧ ∃ email,request.target users=some email ∧
      (requestTick now request s).node.inbound=s.node.inbound.delete email ∧
      (request.spent (requestTick now request s).request=true → request.leaves=none)) ∨
    (request.spent s.request=false ∧ ∃ email uuid flow,request.target users=some email ∧
      (requestTick now request s).node.inbound=s.node.inbound.upsert ⟨email,uuid,flow⟩ ∧
      request.leaves=some uuid ∧ request.Fits email uuid) := by
  obtain ⟨⟨st,inbound⟩,place,pass⟩ := s
  dsimp only at h
  cases h with
  | addStart _ _ _ | looked _ _ _ => exact Or.inl ⟨rfl,(absurd · Bool.false_ne_true)⟩
  | written uuid deviceId flow =>
    left
    by_cases hlive : emailForDevice deviceId∈inbound.rows.map InboundUser.email
    · simp only [requestTick,addUserTick,if_pos hlive]
      exact ⟨trivial,fun _ => Or.inr (Or.inr ⟨_,uuid,rfl,rfl,fun _ hw => hw rfl,
        live_iff_email.mpr hlive⟩)⟩
    · simp only [requestTick,addUserTick,if_neg hlive]
      exact ⟨trivial,(absurd · Bool.false_ne_true)⟩
  | absent uuid deviceId flow => exact Or.inr (Or.inr ⟨rfl,_,uuid,flow,rfl,rfl,rfl,fun _ => rfl⟩)
  | added _ _ _ => exact Or.inl ⟨rfl,fun _ => Or.inl rfl⟩
  | removeStart uuid =>
    left
    cases hr : users.get? uuid with
    | none =>
      simp only [requestTick,removeUserTick,hr]
      exact ⟨trivial,fun _ => Or.inr (Or.inl (by simp [UserRequest.target,hr]))⟩
    | some r =>
      simp only [requestTick,removeUserTick,hr]
      exact ⟨trivial,(absurd · Bool.false_ne_true)⟩
  | removeNone _ => exact Or.inl ⟨rfl,fun _ => Or.inl rfl⟩
  | removeFound hr =>
    exact Or.inr (Or.inl ⟨rfl,_,target_removed hr,rfl,fun _ => rfl⟩)
  | removeCleared _ => exact Or.inl ⟨rfl,fun _ => Or.inl rfl⟩
  | removed _ => exact Or.inl ⟨rfl,fun _ => Or.inl rfl⟩
  | rotateStart uuid newUuid =>
    left
    cases hr : users.get? uuid with
    | none =>
      simp only [requestTick,rotateUserTick,hr]
      exact ⟨trivial,fun _ => Or.inr (Or.inl (by simp [UserRequest.target,hr]))⟩
    | some r =>
      simp only [requestTick,rotateUserTick,hr]
      exact ⟨trivial,(absurd · Bool.false_ne_true)⟩
  | rotateNone _ _ => exact Or.inl ⟨rfl,fun _ => Or.inl rfl⟩
  | rotateFound _ hr =>
    exact Or.inr (Or.inl ⟨rfl,_,target_rotated hr,rfl,(absurd · Bool.false_ne_true)⟩)
  | rotateCleared _ _ | deleted _ _ | relooked _ => exact Or.inl ⟨rfl,(absurd · Bool.false_ne_true)⟩
  | rewritten hr =>
    exact Or.inr (Or.inr ⟨rfl,_,_,_,target_rotated hr,rfl,rfl,trivial⟩)
  | rotated _ => exact Or.inl ⟨rfl,fun _ => Or.inl rfl⟩

theorem RequestAt.spent_tick {s : UserRace}
    (h : RequestAt users now request s.request s.node.users)
    (hs : request.spent s.request=true) :
    request.spent (requestTick now request s).request=true ∧
      (requestTick now request s).node.inbound=s.node.inbound := by
  constructor
  · obtain ⟨⟨st,inbound⟩,place,pass⟩ := s
    dsimp only at h hs
    cases h with
    | removeCleared _ => rfl
    | added _ _ _ | removeNone _ | removed _ | rotateNone _ _ | rotated _ => rfl
    | _ => cases hs
  · rcases h.calls with ⟨hsame,_⟩|⟨hno,_⟩|⟨hno,_⟩
    · exact hsame
    · rw [hno] at hs
      cases hs
    · rw [hno] at hs
      cases hs

end

theorem requestTick_pass (now : Int) (request : UserRequest) (s : UserRace) :
    (requestTick now request s).pass=s.pass := by
  cases request with
  | addUser uuid deviceId flow =>
    simp only [requestTick,addUserTick]
    split
    · rfl
    · rfl
    · split_ifs <;> rfl
    · rfl
    · rfl
  | removeUser uuid =>
    simp only [requestTick,removeUserTick]
    split
    · split <;> rfl
    · rfl
    · rfl
    · rfl
  | rotateUser uuid newUuid =>
    simp only [requestTick,rotateUserTick]
    split
    · split <;> rfl
    · rfl
    · rfl
    · rfl
    · rfl
    · rfl
    · rfl

theorem passTick_request (s : UserRace) :
    (passTick s).request=s.request ∧ (passTick s).node.users=s.node.users := by
  unfold passTick
  split <;> exact ⟨rfl,rfl⟩

/-- What the pass knows and is going to do: it can go wrong only at the email of the request. -/
inductive PassFits (n : XrayNode) (request : UserRequest) : PassPlace → Prop
  | start : PassFits n request .start
  | read (desired : List UserRecord)
    (hlive : ∀ r∈desired,request.target n.users≠some r.email → ∃ w,Live n.inbound r.email w)
    (hall : ∀ x w,request.target n.users≠some x → Live n.inbound x w → ∃ r∈desired,r.email=x)
    (hfits : ∀ r∈desired,request.Fits r.email r.uuid) : PassFits n request (.read desired)
  | idle : PassFits n request (.acting [] [])
  | adds (r : UserRecord) (hr : request.target n.users=some r.email)
    (hfits : request.Fits r.email r.uuid) : PassFits n request (.acting [r] [])
  | removes (email : String) (he : request.target n.users=some email) :
    PassFits n request (.acting [] [email])
  | finished : PassFits n request .finished

theorem lone_of_nodup {α β : Type} {f : α → β} {target : Option β} : ∀ {xs : List α},
    (xs.map f).Nodup → (∀ x∈xs,target=some (f x)) → xs=[] ∨ ∃ x,xs=[x]
  | [],_,_ => Or.inl rfl
  | [x],_,_ => Or.inr ⟨x,rfl⟩
  | x::z::_,hnodup,hall => by
    have hx := hall x List.mem_cons_self
    have hz := hall z (List.mem_cons_of_mem x List.mem_cons_self)
    have hsame : f x=f z := Option.some.inj (hx.symm.trans hz)
    rw [List.map_cons,List.map_cons,hsame] at hnodup
    exact absurd List.mem_cons_self (List.nodup_cons.mp hnodup).1

/-- The pass takes its second reading. -/
theorem passFits_acting {n : XrayNode} {request : UserRequest} {desired : List UserRecord}
    {inbound : Inbound} (h : PassFits n request (.read desired))
    (hothers : ∀ x w,request.target n.users≠some x → (Live inbound x w ↔ Live n.inbound x w)) :
    PassFits n request (.acting (missingUsers desired (inbound.rows.map InboundUser.email))
      (extraEmails desired (inbound.rows.map InboundUser.email))) := by
  cases h with
  | read _ hlive hall hfits =>
    let emails := inbound.rows.map InboundUser.email
    have hmissing : ∀ r∈missingUsers desired emails,r∈desired ∧ r.email∉emails ∧
        request.target n.users=some r.email := by
      intro r hr
      obtain ⟨hr,habsent⟩ := List.mem_filter.mp hr
      have hr := mem_desiredByEmail hr
      have habsent : r.email∉emails := by simpa using habsent
      refine ⟨hr,habsent,?_⟩
      by_contra hne
      obtain ⟨w,hw⟩ := hlive r hr hne
      exact habsent (live_iff_email.mp ⟨w,(hothers r.email w hne).mpr hw⟩)
    have hextra : ∀ x∈extraEmails desired emails,x∈emails ∧ request.target n.users=some x := by
      intro x hx
      obtain ⟨hx,hnone⟩ := List.mem_filter.mp hx
      have hnone : x∉(desiredByEmail desired).rows.map UserRecord.email := by simpa using hnone
      refine ⟨hx,?_⟩
      by_contra hne
      obtain ⟨w,hw⟩ := live_iff_email.mpr hx
      obtain ⟨r,hr,hrx⟩ := hall x w hne ((hothers x w hne).mp hw)
      obtain ⟨q,hq,hqr⟩ := exists_desiredByEmail hr
      exact hnone (List.mem_map.mpr ⟨q,hq,hqr.trans hrx⟩)
    have hone : missingUsers desired emails=[] ∨ ∃ r,missingUsers desired emails=[r] := by
      have hnodup : ((missingUsers desired emails).map UserRecord.email).Nodup :=
        (desiredByEmail desired).nodup.sublist (List.filter_sublist.map _)
      exact lone_of_nodup hnodup fun r hr => (hmissing r hr).2.2
    have hlone : extraEmails desired emails=[] ∨ ∃ x,extraEmails desired emails=[x] := by
      have hnodup : ((extraEmails desired emails).map id).Nodup := by
        rw [List.map_id]
        exact inbound.nodup.sublist List.filter_sublist
      exact lone_of_nodup hnodup fun x hx => (hextra x hx).2
    show PassFits n request (.acting (missingUsers desired emails) (extraEmails desired emails))
    rcases hone with hnone|⟨r,hr⟩
    · rcases hlone with hnone'|⟨x,hx⟩
      · rw [hnone,hnone']
        exact .idle
      · have hx' := hextra x (by rw [hx]; exact List.mem_singleton_self x)
        rw [hnone,hx]
        exact .removes x hx'.2
    · have hr' := hmissing r (by rw [hr]; exact List.mem_singleton_self r)
      rcases hlone with hnone'|⟨x,hx⟩
      · rw [hr,hnone']
        exact .adds r hr'.2.2 (hfits r hr'.1)
      · have hx' := hextra x (by rw [hx]; exact List.mem_singleton_self x)
        have hsame := Option.some.inj (hx'.2.symm.trans hr'.2.2)
        rw [hsame] at hx'
        exact absurd hx'.1 hr'.2.1

/-- What holds at any time, whatever the order of the steps. -/
structure Beside (n : XrayNode) (now : Int) (request : UserRequest) (s : UserRace) : Prop where
  users : RequestAt n.users now request s.request s.node.users
  others : ∀ x w,request.target n.users≠some x → (Live s.node.inbound x w ↔ Live n.inbound x w)
  pass : PassFits n request s.pass
  fits : ∀ x w,Live s.node.inbound x w → request.Fits x w

/-- The inbound has at the email of the request what the request leaves there. -/
def Left (n : XrayNode) (request : UserRequest) (s : UserRace) : Prop :=
  ∀ x,request.target n.users=some x → ∀ w,Live s.node.inbound x w ↔ request.leaves=some w

section

variable {n : XrayNode} {now : Int} {request : UserRequest} {s : UserRace}

theorem requestAt_start (users : UserStore) (now : Int) (request : UserRequest) :
    RequestAt users now request .start users := by
  cases request with
  | addUser uuid deviceId flow => exact .addStart uuid deviceId flow
  | removeUser uuid => exact .removeStart uuid
  | rotateUser uuid newUuid => exact .rotateStart uuid newUuid

theorem beside_opening (ho : Orderly n.users) (hn : Settled n) (ha : request.Allowed n.users) :
    Beside n now request (UserRace.opening n) where
  users := requestAt_start n.users now request
  others _ _ _ := Iff.rfl
  pass := .start
  fits x w hw := by
    obtain ⟨r,hr,_,hx,huuid⟩ := ((settled_iff ho).mp hn x w).mp hw
    rw [← hx,← huuid]
    exact allowed_fits ho ha hr

theorem Beside.requested (h : Beside n now request s) :
    Beside n now request (requestTick now request s) := by
  have hpass : PassFits n request (requestTick now request s).pass := by
    rw [requestTick_pass]
    exact h.pass
  have hne : ∀ {x y : String},request.target n.users=some y → request.target n.users≠some x →
      x≠y := by
    intro x y hy hx he
    rw [he] at hx
    exact hx hy
  rcases h.users.calls with ⟨hsame,_⟩|⟨_,email,htarget,hdelete,_⟩|
    ⟨_,email,uuid,flow,htarget,hupsert,_,hfit⟩
  · refine ⟨h.users.tick,fun x w hx => ?_,hpass,fun x w hw => ?_⟩
    · rw [hsame]
      exact h.others x w hx
    · rw [hsame] at hw
      exact h.fits x w hw
  · refine ⟨h.users.tick,fun x w hx => ?_,hpass,fun x w hw => ?_⟩
    · rw [hdelete,live_delete,← h.others x w hx]
      exact and_iff_right (hne htarget hx)
    · rw [hdelete,live_delete] at hw
      exact h.fits x w hw.2
  · refine ⟨h.users.tick,fun x w hx => ?_,hpass,fun x w hw => ?_⟩
    · rw [hupsert,live_upsert,← h.others x w hx]
      simp [hne htarget hx]
    · rw [hupsert,live_upsert] at hw
      rcases hw with ⟨hx,hw⟩|⟨_,hw⟩
      · rw [hx,hw]
        exact hfit
      · exact h.fits x w hw

theorem Beside.passed (h : Beside n now request s) (ho : Orderly n.users) (hn : Settled n)
    (ha : request.Allowed n.users) : Beside n now request (passTick s) := by
  have husers : RequestAt n.users now request (passTick s).request (passTick s).node.users := by
    obtain ⟨hrequest,hstore⟩ := passTick_request s
    rw [hrequest,hstore]
    exact h.users
  have hne : ∀ {x y : String},request.target n.users=some y → request.target n.users≠some x →
      x≠y := by
    intro x y hy hx he
    rw [he] at hx
    exact hx hy
  have hsettled := (settled_iff ho).mp hn
  have hfit := h.pass
  cases hplace : s.pass with
  | start =>
    have hstep : passTick s={s with pass := .read (s.node.users.rows.filter UserRecord.enabled)} := by
      simp only [passTick,hplace]
    rw [hstep] at husers ⊢
    refine ⟨husers,h.others,?_,h.fits⟩
    constructor
    · intro r hr hx
      obtain ⟨hr,hon⟩ := List.mem_filter.mp hr
      have hdesired : Desired s.node.users r.email r.uuid := ⟨r,hr,hon,rfl,rfl⟩
      rw [h.users.others ho ha hx] at hdesired
      exact ⟨r.uuid,(hsettled r.email r.uuid).mpr hdesired⟩
    · intro x w hx hw
      rw [hsettled,← h.users.others ho ha hx] at hw
      obtain ⟨r,hr,hon,hrx,_⟩ := hw
      exact ⟨r,List.mem_filter.mpr ⟨hr,hon⟩,hrx⟩
    · intro r hr
      exact h.users.fits ho ha (List.mem_filter.mp hr).1
  | read desired =>
    rw [hplace] at hfit
    have hstep : passTick s={s with
        pass := .acting (missingUsers desired (s.node.inbound.rows.map InboundUser.email))
          (extraEmails desired (s.node.inbound.rows.map InboundUser.email))} := by
      simp only [passTick,hplace]
    rw [hstep] at husers ⊢
    exact ⟨husers,h.others,passFits_acting hfit h.others,h.fits⟩
  | acting missing extra =>
    rw [hplace] at hfit
    cases hfit with
    | idle =>
      have hstep : passTick s={s with pass := .finished} := by
        simp only [passTick,hplace]
      rw [hstep] at husers ⊢
      exact ⟨husers,h.others,.finished,h.fits⟩
    | adds r htarget hr =>
      have hstep : passTick s={s with
          node.inbound := s.node.inbound.upsert ⟨r.email,r.uuid,r.flow⟩
          pass := .acting [] []} := by
        simp only [passTick,hplace]
      rw [hstep] at husers ⊢
      refine ⟨husers,fun x w hx => ?_,.idle,fun x w hw => ?_⟩
      · rw [live_upsert,← h.others x w hx]
        simp [hne htarget hx]
      · rcases live_upsert.mp hw with ⟨hx,hw⟩|⟨_,hw⟩
        · rw [hx,hw]
          exact hr
        · exact h.fits x w hw
    | removes email htarget =>
      have hstep : passTick s={s with
          node.inbound := s.node.inbound.delete email
          pass := .acting [] []} := by
        simp only [passTick,hplace]
      rw [hstep] at husers ⊢
      refine ⟨husers,fun x w hx => ?_,.idle,fun x w hw => ?_⟩
      · rw [live_delete,← h.others x w hx]
        exact and_iff_right (hne htarget hx)
      · exact h.fits x w (live_delete.mp hw).2
  | finished =>
    have hstep : passTick s=s := by
      simp only [passTick,hplace]
    rw [hstep]
    exact h

/-- All is well: the request has made its last call only where it has left what it is to leave. -/
def Kept (n : XrayNode) (now : Int) (request : UserRequest) (s : UserRace) : Prop :=
  Beside n now request s ∧ (request.spent s.request=true → Left n request s)

/-- The pass has undone the request, and neither is going to make another call. -/
def Undone (n : XrayNode) (now : Int) (request : UserRequest) (s : UserRace) : Prop :=
  Beside n now request s ∧ request.spent s.request=true ∧
    (s.pass=.acting [] [] ∨ s.pass=.finished) ∧ ¬Left n request s

theorem Kept.requested (h : Kept n now request s) :
    Kept n now request (requestTick now request s) := by
  obtain ⟨hb,hleft⟩ := h
  refine ⟨hb.requested,fun hspent x hx w => ?_⟩
  rcases hb.users.calls with ⟨hsame,hwhy⟩|⟨_,email,htarget,hdelete,hnone⟩|
    ⟨_,email,uuid,flow,htarget,hupsert,hleaves,_⟩
  · rw [hsame]
    rcases hwhy hspent with hspent|hnone|⟨email,uuid,htarget,hleaves,hfit,hlive⟩
    · exact hleft hspent x hx w
    · rw [hnone] at hx
      cases hx
    · have hxe : x=email := Option.some.inj (hx.symm.trans htarget)
      rw [hxe,hleaves,Option.some.injEq]
      constructor
      · exact fun hw => (hfit w (hb.fits email w hw)).symm
      · intro hw
        obtain ⟨v,hv⟩ := hlive
        rw [← hw,← hfit v (hb.fits email v hv)]
        exact hv
  · have hxe : x=email := Option.some.inj (hx.symm.trans htarget)
    rw [hdelete,live_delete,hnone hspent]
    simp [hxe]
  · have hxe : x=email := Option.some.inj (hx.symm.trans htarget)
    rw [hupsert,live_upsert,hleaves]
    simp [hxe,eq_comm]

/-- The step of the pass at the email of the request. -/
theorem Beside.pass_calls (h : Beside n now request s) :
    ((passTick s).node.inbound=s.node.inbound ∧ s.pass.leaves=none) ∨
    ∃ email left,request.target n.users=some email ∧ s.pass.leaves=some left ∧
      (passTick s).pass=.acting [] [] ∧
      ∀ w,Live (passTick s).node.inbound email w ↔ left=some w := by
  have hfit := h.pass
  cases hplace : s.pass with
  | start => exact Or.inl ⟨by simp only [passTick,hplace],rfl⟩
  | read desired => exact Or.inl ⟨by simp only [passTick,hplace],rfl⟩
  | acting missing extra =>
    rw [hplace] at hfit
    cases hfit with
    | idle => exact Or.inl ⟨by simp only [passTick,hplace],rfl⟩
    | adds r htarget hr =>
      refine Or.inr ⟨r.email,some r.uuid,htarget,rfl,by simp only [passTick,hplace],fun w => ?_⟩
      simp only [passTick,hplace]
      rw [live_upsert]
      simp [eq_comm]
    | removes email htarget =>
      refine Or.inr ⟨email,none,htarget,rfl,by simp only [passTick,hplace],fun w => ?_⟩
      simp only [passTick,hplace]
      rw [live_delete]
      simp
  | finished => exact Or.inl ⟨by simp only [passTick,hplace],rfl⟩

theorem Kept.passed (h : Kept n now request s) (ho : Orderly n.users) (hn : Settled n)
    (ha : request.Allowed n.users) (hharmless : Harmless request s .pass) :
    Kept n now request (passTick s) := by
  obtain ⟨hb,hleft⟩ := h
  refine ⟨hb.passed ho hn ha,fun hspent x hx w => ?_⟩
  rw [(passTick_request s).1] at hspent
  rcases hb.pass_calls with ⟨hsame,_⟩|⟨email,left,htarget,hleaves,_,hlive⟩
  · rw [hsame]
    exact hleft hspent x hx w
  · have hxe : x=email := Option.some.inj (hx.symm.trans htarget)
    rw [hxe,hlive,hharmless rfl hspent left hleaves]

/-- A call that leaves something else undoes the request for good. -/
theorem Kept.undone (h : Kept n now request s) (ho : Orderly n.users) (hn : Settled n)
    (ha : request.Allowed n.users) (hharm : ¬Harmless request s .pass) :
    Undone n now request (passTick s) := by
  obtain ⟨hb,_⟩ := h
  unfold Harmless at hharm
  push Not at hharm
  obtain ⟨_,hspent,left,hleft,hne⟩ := hharm
  have hleft : s.pass.leaves=some left := hleft
  rcases hb.pass_calls with ⟨_,hnone⟩|⟨email,left',htarget,hleaves,hpass,hlive⟩
  · rw [hnone] at hleft
    cases hleft
  · rw [hleft] at hleaves
    cases hleaves
    refine ⟨hb.passed ho hn ha,?_,Or.inl hpass,fun hall => hne ?_⟩
    · rw [(passTick_request s).1]
      exact hspent
    · apply Option.ext
      intro w
      rw [← hlive w]
      exact hall email htarget w

theorem Undone.tick (h : Undone n now request s) (ho : Orderly n.users) (hn : Settled n)
    (ha : request.Allowed n.users) (side : Side) :
    Undone n now request (raceTick request now s side) := by
  obtain ⟨hb,hspent,hpass,hnot⟩ := h
  cases side with
  | request =>
    obtain ⟨hstill,hsame⟩ := hb.users.spent_tick hspent
    refine ⟨hb.requested,hstill,?_,?_⟩
    · show (requestTick now request s).pass=_ ∨ (requestTick now request s).pass=_
      rw [requestTick_pass]
      exact hpass
    · unfold Left at hnot ⊢
      rw [raceTick,hsame]
      exact hnot
  | pass =>
    have hidle : (passTick s).pass=.finished ∧ (passTick s).node.inbound=s.node.inbound := by
      rcases hpass with hplace|hplace <;> simp [passTick,hplace]
    refine ⟨hb.passed ho hn ha,?_,Or.inr hidle.1,?_⟩
    · rw [raceTick,(passTick_request s).1]
      exact hspent
    · unfold Left at hnot ⊢
      rw [raceTick,hidle.2]
      exact hnot

theorem spent_finished (request : UserRequest) : request.spent .finished=true := by
  cases request <;> rfl

theorem Beside.settled_iff (h : Beside n now request s) (ho : Orderly n.users) (hn : Settled n)
    (ha : request.Allowed n.users) (hended : s.ended) : Settled s.node ↔ Left n request s := by
  have husers := h.users
  rw [hended.1] at husers
  rw [VpnService.Agent.settled_iff (husers.orderly ho ha)]
  constructor
  · intro hall x hx w
    rw [hall x w,husers.final ho ha hx]
  · intro hleft x w
    by_cases hx : request.target n.users=some x
    · rw [hleft x hx w,husers.final ho ha hx]
    · rw [h.others x w hx,husers.others ho ha hx]
      exact (VpnService.Agent.settled_iff ho).mp hn x w

theorem Beside.undisturbed (h : Beside n now request s) (ho : Orderly n.users)
    (ha : request.Allowed n.users) (hended : s.ended) (hs : Settled s.node) :
    Undisturbed request s.node := by
  have husers := h.users
  rw [hended.1] at husers
  have hall := (VpnService.Agent.settled_iff (husers.orderly ho ha)).mp hs
  refine ⟨hs,fun uuid he email hlive => ?_,fun uuid deviceId flow he => ?_⟩
  · obtain ⟨r,hr,_,_,huuid⟩ := (hall email uuid).mp hlive
    subst he
    have hgone : s.node.users.get? uuid=none := by
      generalize hst : s.node.users=st at husers
      cases husers with
      | removeNone hnone => exact hnone
      | removed _ => rw [Store.get?_delete,if_pos rfl]
    exact (s.node.users.get?_eq_none uuid).mp hgone r hr huuid
  · subst he
    rw [hall,husers.final ho ha rfl]
    rfl

theorem kept_run_iff (ho : Orderly n.users) (hn : Settled n) (ha : request.Allowed n.users)
    (h : Kept n now request s) (is : List Side)
    (hended : (is.foldl (raceTick request now) s).ended) :
    Undisturbed request (is.foldl (raceTick request now) s).node ↔
      Conducted (Harmless request) (raceTick request now) s is := by
  induction is generalizing s with
  | nil =>
    obtain ⟨hb,hleft⟩ := h
    have hspent : request.spent s.request=true := by
      have hfinished : s.request=.finished := hended.1
      rw [hfinished]
      exact spent_finished request
    have hsettled := (hb.settled_iff ho hn ha hended).mpr (hleft hspent)
    exact iff_of_true (hb.undisturbed ho ha hended hsettled) trivial
  | cons side is ih =>
    cases side with
    | request =>
      have hfree : Harmless request s .request := nofun
      exact (ih h.requested hended).trans (and_iff_right hfree).symm
    | pass =>
      by_cases hharmless : Harmless request s .pass
      · exact (ih (h.passed ho hn ha hharmless) hended).trans (and_iff_right hharmless).symm
      · have hundone : ∀ (is : List Side) (t : UserRace),Undone n now request t →
            Undone n now request (is.foldl (raceTick request now) t) := by
          intro is
          induction is with
          | nil => exact fun _ ht => ht
          | cons side is ih => exact fun t ht => ih _ (ht.tick ho hn ha side)
        have hend := hundone is _ (h.undone ho hn ha hharmless)
        refine iff_of_false (fun hu => ?_) fun hall => hharmless hall.1
        exact hend.2.2.2 ((hend.1.settled_iff ho hn ha hended).mp hu.settled)

end

/-- One pass and one request beside it leave the node settled, and the request standing, just when
the pass makes no call after the request's last one that leaves anything else. -/
theorem reconcile_beside_iff {n : XrayNode} (ho : Orderly n.users) (hn : Settled n)
    (request : UserRequest) (now : Int) (hr : Lawful n ⟨request.event,now,[]⟩) (is : List Side)
    (hended : (is.foldl (raceTick request now) (.opening n)).ended) :
    Undisturbed request (is.foldl (raceTick request now) (.opening n)).node ↔
      Conducted (Harmless request) (raceTick request now) (.opening n) is := by
  have ha := allowed_of_lawful hr
  have hfresh : request.spent RequestPlace.start=false := by
    cases request <;> rfl
  apply kept_run_iff ho hn ha
  · refine ⟨beside_opening ho hn ha,fun hspent => ?_⟩
    have hspent : request.spent .start=true := hspent
    rw [hfresh] at hspent
    cases hspent
  · exact hended

theorem perform_addUser (n : XrayNode) (uuid deviceId : Int) (flow : String) (now : Int) :
    perform n ⟨.addUser uuid deviceId flow,now,[]⟩=
      if emailForDevice deviceId∈n.inbound.rows.map InboundUser.email then
        ⟨UserStore.createUser uuid deviceId flow now n.users,n.inbound⟩
      else ⟨UserStore.createUser uuid deviceId flow now n.users,
        n.inbound.upsert ⟨emailForDevice deviceId,uuid,flow⟩⟩ := by
  let s : XraySession := {n.session now [] with
    users := UserStore.createUser uuid deviceId flow now n.users}
  have hupsert : upsertRecord uuid deviceId (emailForDevice deviceId) flow (fun _ => none)
      (n.session now [])=(.ok (UserStore.record (n.users.get? uuid) uuid deviceId
        (emailForDevice deviceId) flow none now),s) := rfl
  have hlist : listUserEmails s=(.ok (n.inbound.rows.map InboundUser.email),s) :=
    listUserEmails_calm rfl
  simp only [perform,addUser]
  rw [Eff.bind_run_ok hupsert]
  simp only [if_true]
  rw [Eff.bind_run_ok hlist]
  by_cases hlive : emailForDevice deviceId∈n.inbound.rows.map InboundUser.email
  · rw [if_pos hlive,if_pos hlive]
    rfl
  · rw [if_neg hlive,if_neg hlive]
    rfl

theorem perform_removeUser (n : XrayNode) (uuid now : Int) {r : UserRecord}
    (hr : n.users.get? uuid=some r) : perform n ⟨.removeUser uuid,now,[]⟩=
      ⟨n.users.delete uuid,n.inbound.delete r.email⟩ := by
  have hget : getUser uuid (n.session now [])=(.ok (some r),n.session now []) := by
    rw [← hr]
    rfl
  simp only [perform,removeUser]
  rw [Eff.bind_run_ok hget]
  rfl

theorem perform_rotateUser (n : XrayNode) (uuid newUuid now : Int) {r : UserRecord}
    (hr : n.users.get? uuid=some r) : perform n ⟨.rotateUser uuid newUuid,now,[]⟩=
      ⟨rotatedUsers n.users uuid newUuid r now,
        (n.inbound.delete r.email).upsert ⟨r.email,newUuid,r.flow⟩⟩ := by
  have hget : getUser uuid (n.session now [])=(.ok (some r),n.session now []) := by
    rw [← hr]
    rfl
  simp only [perform,rotateUser]
  rw [Eff.bind_run_ok hget]
  rfl

/-- Alone, the steps of a request come to what it does in one go. -/
theorem request_alone (n : XrayNode) (request : UserRequest) (now : Int) :
    (List.replicate 6 Side.request).foldl (raceTick request now) (.opening n)=
      ⟨perform n ⟨request.event,now,[]⟩,.finished,.start⟩ := by
  have hsix : List.replicate 6 Side.request=[.request,.request,.request,.request,.request,.request] :=
    rfl
  rw [hsix]
  simp only [List.foldl_cons,List.foldl_nil,raceTick]
  cases request with
  | addUser uuid deviceId flow =>
    rw [UserRequest.event,perform_addUser]
    by_cases hlive : emailForDevice deviceId∈n.inbound.rows.map InboundUser.email
    · simp only [requestTick,addUserTick,UserRace.opening,hlive,if_true]
      rfl
    · simp only [requestTick,addUserTick,UserRace.opening,hlive,if_false]
      rfl
  | removeUser uuid =>
    cases hr : n.users.get? uuid with
    | none =>
      have hget : getUser uuid (n.session now [])=(.ok none,n.session now []) := by
        rw [← hr]
        rfl
      simp only [requestTick,removeUserTick,UserRace.opening,hr,perform,UserRequest.event,removeUser]
      rw [Eff.bind_run_ok hget]
      rfl
    | some r =>
      rw [UserRequest.event,perform_removeUser n uuid now hr]
      simp only [requestTick,removeUserTick,UserRace.opening,hr]
  | rotateUser uuid newUuid =>
    cases hr : n.users.get? uuid with
    | none =>
      have hget : getUser uuid (n.session now [])=(.ok none,n.session now []) := by
        rw [← hr]
        rfl
      simp only [requestTick,rotateUserTick,UserRace.opening,hr,perform,UserRequest.event,rotateUser]
      rw [Eff.bind_run_ok hget]
      rfl
    | some r =>
      rw [UserRequest.event,perform_rotateUser n uuid newUuid now hr]
      simp only [requestTick,rotateUserTick,UserRace.opening,hr]
      rfl

/-- What is left of a pass that acts. -/
theorem acting_run (request : UserRequest) (now : Int) (missing : List UserRecord)
    (extra : List String) (users : UserStore) (inbound : Inbound) (place : RequestPlace) :
    (List.replicate (missing.length+extra.length+1) Side.pass).foldl (raceTick request now)
        ⟨⟨users,inbound⟩,place,.acting missing extra⟩=
      ⟨⟨users,extra.foldl Store.delete (missing.foldl addMissing inbound)⟩,place,.finished⟩ := by
  induction missing generalizing inbound with
  | nil =>
    induction extra generalizing inbound with
    | nil => rfl
    | cons email extra ih =>
      have hlength : ([] : List UserRecord).length+(email::extra).length+1=
          ([] : List UserRecord).length+extra.length+1+1 := by
        simp only [List.length_cons,List.length_nil]
        omega
      rw [hlength,List.replicate_succ,List.foldl_cons]
      exact ih (inbound.delete email)
  | cons r missing ih =>
    have hlength : (r::missing).length+extra.length+1=missing.length+extra.length+1+1 := by
      simp only [List.length_cons]
      omega
    rw [hlength,List.replicate_succ,List.foldl_cons]
    exact ih (addMissing inbound r)

/-- Alone, the steps of a pass come to what it does in one go. -/
theorem pass_alone (n : XrayNode) (request : UserRequest) (now : Int) :
    ∃ k,(List.replicate k Side.pass).foldl (raceTick request now) (.opening n)=
      ⟨perform n ⟨.reconcile,now,[]⟩,.start,.finished⟩ := by
  let desired := n.users.rows.filter UserRecord.enabled
  let liveEmails := n.inbound.rows.map InboundUser.email
  obtain ⟨result,calls,hpass⟩ := reconcile_calm (s := n.session now []) rfl
  have hperform : perform n ⟨.reconcile,now,[]⟩=⟨n.users,passedInbound n⟩ := by
    simp only [perform,hpass]
    rfl
  refine ⟨(missingUsers desired liveEmails).length+(extraEmails desired liveEmails).length+1+1+1,?_⟩
  rw [hperform,List.replicate_succ,List.replicate_succ,List.foldl_cons,List.foldl_cons]
  exact acting_run request now (missingUsers desired liveEmails) (extraEmails desired liveEmails)
    n.users n.inbound .start

/-- The node with one user. -/
def XrayNode.sample : XrayNode := perform .initial ⟨.addUser 5 1 "flow",0,[]⟩

theorem orderly_sample : Orderly XrayNode.sample.users := by
  constructor <;> decide +kernel

theorem settled_sample : Settled .sample := by
  unfold Settled
  decide +kernel

/-- A rotation whose calls all come between the readings of a pass and its end. -/
theorem reconcile_beside_iff_sample :
    Undisturbed (.rotateUser 5 7) ([.pass,.pass,.request,.request,.request,.request,.request,
        .request,.pass].foldl (raceTick (.rotateUser 5 7) 1) (.opening .sample)).node ↔
      Conducted (Harmless (.rotateUser 5 7)) (raceTick (.rotateUser 5 7) 1) (.opening .sample)
        [.pass,.pass,.request,.request,.request,.request,.request,.request,.pass] :=
  reconcile_beside_iff orderly_sample settled_sample _ 1 (by decide +kernel) _ (by decide +kernel)

/-- A user is deleted between the two readings of a pass, which adds it again. -/
theorem reconcile_undoes :
    ([.pass,.request,.request,.pass,.request,.pass,.pass].foldl (raceTick (.removeUser 5) 1)
      (.opening .sample)).ended ∧
    ¬Undisturbed (.removeUser 5) ([.pass,.request,.request,.pass,.request,.pass,.pass].foldl
      (raceTick (.removeUser 5) 1) (.opening .sample)).node := by
  constructor
  · decide +kernel
  · intro h
    apply h.removed 5 rfl "device-1"
    exact ⟨⟨"device-1",5,"flow"⟩,by decide +kernel,rfl,rfl⟩

end VpnService.Agent
