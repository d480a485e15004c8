import VpnService.Framework.Store

namespace VpnService.Agent

/-- A peer the vpn-agent keeps; `assignedIp` is the address whose traffic it routes to the key. -/
structure PeerRecord (ip : Type) where
  publicKey : Int
  deviceId : Int
  assignedIp : ip
  enabled : Bool
  createdAt : Int
  deriving DecidableEq

abbrev PeerStore (ip : Type) := Store (@PeerRecord.publicKey ip)

namespace PeerStore

variable {ip : Type}

/-- `INSERT ... ON CONFLICT(public_key) DO UPDATE`, which leaves `created_at` alone. -/
def upsert (s : PeerStore ip) (publicKey deviceId : Int) (assignedIp : ip) (enabled : Bool)
    (now : Int) : PeerStore ip :=
  Store.upsert s {
    publicKey := publicKey
    deviceId := deviceId
    assignedIp := assignedIp
    enabled := enabled
    createdAt := ((s.get? publicKey).map PeerRecord.createdAt).getD now }

def setEnabled (s : PeerStore ip) (publicKey : Int) (enabled : Bool) : PeerStore ip :=
  s.modify publicKey (fun r => {r with enabled := enabled}) fun _ => rfl

/-- `POST /peers`, with the public key of the pair the agent has drawn. -/
def createPeer (publicKey deviceId : Int) (assignedIp : ip) (now : Int) (s : PeerStore ip) :
    PeerStore ip := upsert s publicKey deviceId assignedIp true now

/-- `DELETE /peers`. -/
def deletePeer (publicKey : Int) (s : PeerStore ip) : PeerStore ip := s.delete publicKey

/-- `POST /peers/disable`; `none` is 404. -/
def disablePeer (publicKey : Int) (s : PeerStore ip) : Option (PeerStore ip) :=
  (s.get? publicKey).map fun _ => setEnabled s publicKey false

/-- `POST /peers/enable`; `none` is 404. -/
def enablePeer (publicKey : Int) (s : PeerStore ip) : Option (PeerStore ip) :=
  (s.get? publicKey).map fun _ => setEnabled s publicKey true

/-- The record `createPeer` leaves. -/
def created (s : PeerStore ip) (publicKey deviceId : Int) (assignedIp : ip) (now : Int) :
    PeerRecord ip where
  publicKey := publicKey
  deviceId := deviceId
  assignedIp := assignedIp
  enabled := true
  createdAt := ((s.get? publicKey).map PeerRecord.createdAt).getD now

theorem get?_createPeer (s : PeerStore ip) (publicKey deviceId : Int) (assignedIp : ip)
    (now k : Int) : (createPeer publicKey deviceId assignedIp now s).get? k=
      if k=publicKey then some (created s publicKey deviceId assignedIp now) else s.get? k :=
  Store.get?_upsert _ _ _

theorem get?_deletePeer (s : PeerStore ip) (publicKey k : Int) :
    (deletePeer publicKey s).get? k=if k=publicKey then none else s.get? k :=
  Store.get?_delete _ _ _

theorem get?_setEnabled (s : PeerStore ip) (publicKey k : Int) (enabled : Bool) :
    (setEnabled s publicKey enabled).get? k=
      if k=publicKey then (s.get? k).map fun r => {r with enabled := enabled} else s.get? k :=
  Store.get?_modify _ _ _ _ _

theorem setEnabled_same {s : PeerStore ip} {publicKey : Int} {enabled : Bool}
    (h : ∀ r,s.get? publicKey=some r → r.enabled=enabled) :
    setEnabled s publicKey enabled=s := by
  apply Store.modify_same
  intro r hr
  rw [← h r hr]

end PeerStore

/-- A user the xray-agent keeps. -/
structure UserRecord where
  uuid : Int
  deviceId : Int
  email : String
  flow : String
  enabled : Bool
  createdAt : Int
  rotatedAt : Option Int
  deriving DecidableEq

abbrev UserStore := Store UserRecord.uuid

/-- `_email_for_device`. -/
def emailForDevice (deviceId : Int) : String := s!"device-{deviceId}"

theorem natRepr_injective {m n : Nat} (h : m.repr=n.repr) : m=n := by
  have hdigits : Nat.toDigits 10 m=Nat.toDigits 10 n := by
    rw [← Nat.toList_repr,← Nat.toList_repr,h]
  rw [← Nat.ofDigitChars_ten_toDigits (n := m),hdigits,Nat.ofDigitChars_ten_toDigits]

theorem natRepr_ne_minus (m : Nat) (t : String) : m.repr≠"-"++t := by
  intro h
  have hmem : '-' ∈ m.repr.toList := by
    rw [h,String.toList_append]
    exact List.mem_append_left _ (by decide)
  rw [Nat.toList_repr] at hmem
  have hdigit := Nat.isDigit_of_mem_toDigits (by decide) (by decide) hmem
  exact absurd hdigit (by decide)

theorem emailForDevice_injective {a b : Int} (h : emailForDevice a=emailForDevice b) : a=b := by
  have hrepr : a.repr=b.repr := by simpa [emailForDevice] using h
  cases a with
  | ofNat m =>
    cases b with
    | ofNat n => exact congrArg Int.ofNat (natRepr_injective hrepr)
    | negSucc n => exact absurd hrepr (natRepr_ne_minus m _)
  | negSucc m =>
    cases b with
    | ofNat n => exact absurd hrepr.symm (natRepr_ne_minus n _)
    | negSucc n =>
      have hsucc : m.succ.repr=n.succ.repr := String.append_right_inj "-" |>.mp hrepr
      exact congrArg Int.negSucc (Nat.succ.inj (natRepr_injective hsucc))

namespace UserStore

/-- The record `upsert` makes, of the one there was under its uuid. -/
def record (existing : Option UserRecord) (uuid deviceId : Int) (email flow : String)
    (rotatedAt : Option Int) (now : Int) : UserRecord where
  uuid := uuid
  deviceId := deviceId
  email := email
  flow := flow
  enabled := true
  createdAt := (existing.map UserRecord.createdAt).getD now
  rotatedAt := rotatedAt <|> existing.bind UserRecord.rotatedAt

/-- The row `INSERT ... ON CONFLICT(uuid) DO UPDATE` leaves; the update spares `created_at` and
`rotated_at`. -/
def written (s : UserStore) (r : UserRecord) : UserRecord := match s.get? r.uuid with
  | none => r
  | some x => {r with
    createdAt := x.createdAt
    rotatedAt := x.rotatedAt}

def write (s : UserStore) (r : UserRecord) : UserStore := Store.upsert s (written s r)

def upsert (s : UserStore) (uuid deviceId : Int) (email flow : String)
    (rotatedAt : Option Int) (now : Int) : UserStore :=
  write s (record (s.get? uuid) uuid deviceId email flow rotatedAt now)

/-- `POST /users`. -/
def createUser (uuid deviceId : Int) (flow : String) (now : Int) (s : UserStore) : UserStore :=
  upsert s uuid deviceId (emailForDevice deviceId) flow none now

/-- `DELETE /users/{uuid}`. -/
def deleteUser (uuid : Int) (s : UserStore) : UserStore :=
  match s.get? uuid with
  | none => s
  | some _ => s.delete uuid

/-- The row that is written is the record, up to its dates. -/
theorem written_keeps (s : UserStore) (r : UserRecord) : (written s r).uuid=r.uuid ∧
    (written s r).deviceId=r.deviceId ∧ (written s r).email=r.email ∧
      (written s r).flow=r.flow ∧ (written s r).enabled=r.enabled := by
  unfold written
  cases s.get? r.uuid with
  | none => exact ⟨rfl,rfl,rfl,rfl,rfl⟩
  | some x => exact ⟨rfl,rfl,rfl,rfl,rfl⟩

theorem mem_write {s : UserStore} {r x : UserRecord} :
    x∈(write s r).rows ↔ x=written s r ∨ (x∈s.rows ∧ x.uuid≠r.uuid) := by
  unfold write
  rw [Store.mem_upsert,(written_keeps s r).1]

theorem get?_write (s : UserStore) (r : UserRecord) (k : Int) :
    (write s r).get? k=if k=r.uuid then some (written s r) else s.get? k := by
  unfold write
  rw [Store.get?_upsert,(written_keeps s r).1]

/-- The record `createUser` leaves. -/
def created (s : UserStore) (uuid deviceId : Int) (flow : String) (now : Int) : UserRecord where
  uuid := uuid
  deviceId := deviceId
  email := emailForDevice deviceId
  flow := flow
  enabled := true
  createdAt := ((s.get? uuid).map UserRecord.createdAt).getD now
  rotatedAt := (s.get? uuid).bind UserRecord.rotatedAt

theorem createUser_eq (s : UserStore) (uuid deviceId : Int) (flow : String) (now : Int) :
    createUser uuid deviceId flow now s=Store.upsert s (created s uuid deviceId flow now) := by
  unfold createUser upsert write written record created
  simp only
  cases s.get? uuid <;> rfl

theorem get?_createUser (s : UserStore) (uuid deviceId : Int) (flow : String) (now k : Int) :
    (createUser uuid deviceId flow now s).get? k=
      if k=uuid then some (created s uuid deviceId flow now) else s.get? k := by
  rw [createUser_eq,Store.get?_upsert]
  rfl

theorem get?_deleteUser (s : UserStore) (uuid k : Int) :
    (deleteUser uuid s).get? k=if k=uuid then none else s.get? k := by
  unfold deleteUser
  cases h : s.get? uuid with
  | none =>
    by_cases hk : k=uuid
    · simp [hk,h]
    · simp [hk]
  | some r => exact Store.get?_delete _ _ _

theorem createUser_same {s : UserStore} {uuid deviceId : Int} {flow : String} {now : Int}
    (h : s.get? uuid=some (created s uuid deviceId flow now)) :
    createUser uuid deviceId flow now s=s := by
  rw [createUser_eq]
  apply Store.upsert_same
  exact h

/-- The first `POST /users` sets the dates. -/
theorem createUser_again (s : UserStore) (uuid deviceId : Int) (flow : String)
    (now later : Int) : createUser uuid deviceId flow later (createUser uuid deviceId flow now s)=
      createUser uuid deviceId flow now s := by
  have hget : (createUser uuid deviceId flow now s).get? uuid=
      some (created s uuid deviceId flow now) := by rw [get?_createUser,if_pos rfl]
  apply createUser_same
  rw [hget]
  unfold created
  rw [hget]
  rfl

theorem createUser_createUser (s : UserStore) (uuid deviceId : Int) (flow : String)
    (now : Int) : createUser uuid deviceId flow now (createUser uuid deviceId flow now s)=
      createUser uuid deviceId flow now s := createUser_again s uuid deviceId flow now now

theorem deleteUser_absent {s : UserStore} {uuid : Int} (h : s.get? uuid=none) :
    deleteUser uuid s=s := by
  unfold deleteUser
  rw [h]

theorem deleteUser_deleteUser (s : UserStore) (uuid : Int) :
    deleteUser uuid (deleteUser uuid s)=deleteUser uuid s := by
  apply deleteUser_absent
  rw [get?_deleteUser,if_pos rfl]

end UserStore

end VpnService.Agent
