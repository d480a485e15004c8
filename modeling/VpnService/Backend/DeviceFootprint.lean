import VpnService.Backend.Footprint

namespace VpnService.Backend

open Agent

/-- The numbers an operation on one device may address: the keys of its records at the agents and
the ids of its rows. Everything from `first` on is still to be drawn. -/
structure Scope where
  first : Int
  key : Int → Prop
  peer : Id → Prop
  credential : Id → Prop
  link : Id → Prop

/-- The rows under the ids of the scope are rows of `d`. -/
structure Scope.Fits (S : Scope) (d : Id) (s : Session) : Prop where
  serial : S.first≤ s.serial
  peers : ∀ p∈s.db.vpnPeers.rows,S.peer p.id → p.deviceId=d
  credentials : ∀ c∈s.db.vlessCredentials.rows,S.credential c.id → c.deviceId=d
  links : ∀ l∈s.db.subscriptionLinks.rows,S.link l.id → l.deviceId=d

theorem Touched.fits {K : Int → Prop} {S : Scope} {d : Id} {s t : Session}
    (h : Touched K d s t) (hs : S.Fits d s) : S.Fits d t where
  serial := hs.serial.trans h.serial
  peers p hp hS := by
    by_contra hne
    exact hne (hs.peers p ((h.db.peers p hne).mp hp) hS)
  credentials c hc hS := by
    by_contra hne
    exact hne (hs.credentials c ((h.db.credentials c hne).mp hc) hS)
  links l hl hS := by
    by_contra hne
    exact hne (hs.links l ((h.db.links l hne).mp hl) hS)

/-- What an operation on device `d` may do, from any state its scope fits. -/
def touching (S : Scope) (d : Id) : Frame Session where
  rel s t := S.Fits d s → Touched S.key d s t
  refl s _ := Touched.refl _ d s
  trans h k := fun hs => (h hs).trans (k ((h hs).fits hs))

/-- The scope of the rows `d` has in a state. -/
def Scope.of (d : Id) (s : Session) : Scope where
  first := s.serial
  key k := s.serial≤k ∨ (∃ p∈s.db.vpnPeers.rows,p.deviceId=d ∧ p.publicKey=k) ∨
    ∃ c∈s.db.vlessCredentials.rows,c.deviceId=d ∧ c.uuid=k
  peer k := ∃ p∈s.db.vpnPeers.rows,p.deviceId=d ∧ p.id=k
  credential k := ∃ c∈s.db.vlessCredentials.rows,c.deviceId=d ∧ c.id=k
  link k := ∃ l∈s.db.subscriptionLinks.rows,l.deviceId=d ∧ l.id=k

theorem Scope.of_fits (d : Id) (s : Session) : (Scope.of d s).Fits d s where
  serial := le_rfl
  peers p hp hS := by
    obtain ⟨q,hq,hd,hk⟩ := hS
    rw [← Store.eq_of_key hq hp hk]
    exact hd
  credentials c hc hS := by
    obtain ⟨x,hx,hd,hk⟩ := hS
    rw [← Store.eq_of_key hx hc hk]
    exact hd
  links l hl hS := by
    obtain ⟨x,hx,hd,hk⟩ := hS
    rw [← Store.eq_of_key hx hl hk]
    exact hd

section

variable {S : Scope} {d : Id}

theorem touching_books : Bookkeeping (touching S d) where
  serial s _ := .of_db (DbTouched.refl d _) rfl rfl (by simp)
  outcomes s _ _ := .of_db (DbTouched.refl d _) rfl rfl le_rfl

theorem allocateIp_within {R : Frame Session} (server : VpnServer) : Within R (allocateIp server) :=
  (Within.orRaise _ _).bind fun _ => getDb_within.bind fun _ => (Within.orRaise _ _).bind fun _ =>
    Within.orRaise _ _

theorem touching_of_core {α : Type} {m : Req α} (h : Within coreFrame m) :
    Within (touching S d) m := h.mono fun hc _ => Touched.of_core hc

theorem alter_touching {f : Database → Database}
    (h : ∀ s : Session,S.Fits d s → DbTouched d s.db (f s.db)) :
    Within (touching S d) (alter f) := fun s hs => .of_db (h s hs) rfl rfl le_rfl

theorem setEnabled_touched {K : Int → Prop} {s : Session} {url : String} {key : Int}
    (enabled : Bool) (hK : K key) :
    Touched K d s (setVpn url (PeerStore.setEnabled (s.vpn url) key enabled) s) := by
  refine Touched.setVpn ?_ ?_ ?_
  · intro k hk
    have hne : k≠key := fun he => hk (he ▸ hK)
    rw [PeerStore.get?_setEnabled,if_neg hne]
  · intro k r hr
    rw [PeerStore.get?_setEnabled] at hr
    split_ifs at hr
    · obtain ⟨r₀,h₀,he⟩ := Option.map_eq_some_iff.mp hr
      exact Or.inr ⟨r₀,h₀,by rw [← he]⟩
    · exact Or.inr ⟨r,hr,rfl⟩
  · intro k _ hn
    rw [PeerStore.get?_setEnabled,hn]
    simp

theorem deletePeer_touched {K : Int → Prop} {s : Session} {url : String} {key : Int}
    (hK : K key) : Touched K d s (setVpn url (PeerStore.deletePeer key (s.vpn url)) s) := by
  refine Touched.setVpn ?_ ?_ ?_
  · intro k hk
    have hne : k≠key := fun he => hk (he ▸ hK)
    rw [PeerStore.get?_deletePeer,if_neg hne]
  · intro k r hr
    rw [PeerStore.get?_deletePeer] at hr
    split_ifs at hr
    exact Or.inr ⟨r,hr,rfl⟩
  · intro k _ hn
    rw [PeerStore.get?_deletePeer,hn]
    simp

theorem createPeer_touched {K : Int → Prop} {s : Session} {url : String} {key : Int}
    {ip : IpAddress} {now : Time} (hK : K key) (hlt : key<s.serial) :
    Touched K d s (setVpn url (PeerStore.createPeer key d ip now (s.vpn url)) s) := by
  refine Touched.setVpn ?_ ?_ ?_
  · intro k hk
    have hne : k≠key := fun he => hk (he ▸ hK)
    rw [PeerStore.get?_createPeer,if_neg hne]
  · intro k r hr
    rw [PeerStore.get?_createPeer] at hr
    split_ifs at hr
    · cases hr
      exact Or.inl rfl
    · exact Or.inr ⟨r,hr,rfl⟩
  · intro k hk hn
    rw [PeerStore.get?_createPeer,if_neg (by omega),hn]

theorem deleteUser_touched {K : Int → Prop} {s : Session} {url : String} {uuid : Int}
    (hK : K uuid) : Touched K d s (setXray url (UserStore.deleteUser uuid (s.xray url)) s) := by
  refine Touched.setXray ?_ ?_ ?_
  · intro k hk
    have hne : k≠uuid := fun he => hk (he ▸ hK)
    rw [UserStore.get?_deleteUser,if_neg hne]
  · intro k r hr
    rw [UserStore.get?_deleteUser] at hr
    split_ifs at hr
    exact Or.inr ⟨r,hr,rfl⟩
  · intro k _ hn
    rw [UserStore.get?_deleteUser,hn]
    simp

theorem createUser_touched {K : Int → Prop} {s : Session} {url : String} {uuid : Int}
    {flow : String} {now : Time} (hK : K uuid) (hlt : uuid<s.serial) :
    Touched K d s (setXray url (UserStore.createUser uuid d flow now (s.xray url)) s) := by
  refine Touched.setXray ?_ ?_ ?_
  · intro k hk
    have hne : k≠uuid := fun he => hk (he ▸ hK)
    rw [UserStore.get?_createUser,if_neg hne]
  · intro k r hr
    rw [UserStore.get?_createUser] at hr
    split_ifs at hr
    · cases hr
      exact Or.inl rfl
    · exact Or.inr ⟨r,hr,rfl⟩
  · intro k hk hn
    rw [UserStore.get?_createUser,if_neg (by omega),hn]

theorem deletePeer_touching {key : Int} (server : VpnServer) (hK : S.key key) :
    Within (touching S d) (deletePeer key server) := by
  refine vpnRequest_within touching_books fun s store hstore _ => ?_
  cases hstore
  exact deletePeer_touched hK

theorem disableRequest_touching {key : Int} (server : VpnServer) (hK : S.key key) :
    Within (touching S d) (vpnRequest server (PeerStore.disablePeer key)) := by
  refine vpnRequest_within touching_books fun s store hstore _ => ?_
  obtain ⟨_,_,he⟩ := Option.map_eq_some_iff.mp hstore
  exact he ▸ setEnabled_touched false hK

theorem enableRequest_touching {key : Int} (server : VpnServer) (hK : S.key key) :
    Within (touching S d) (vpnRequest server (PeerStore.enablePeer key)) := by
  refine vpnRequest_within touching_books fun s store hstore _ => ?_
  obtain ⟨_,_,he⟩ := Option.map_eq_some_iff.mp hstore
  exact he ▸ setEnabled_touched true hK

/-- `Touched` as a frame; the keys of an operation that draws one contain the number it draws. -/
def touchedFrame (K : Int → Prop) (d : Id) : Frame Session :=
  ⟨Touched K d,Touched.refl K d,Touched.trans⟩

theorem touched_books {K : Int → Prop} : Bookkeeping (touchedFrame K d) where
  serial s := .of_db (DbTouched.refl d _) rfl rfl (by simp)
  outcomes s _ := .of_db (DbTouched.refl d _) rfl rfl le_rfl

theorem createPeer_touching (cfg : Settings) (server : VpnServer) (ip : IpAddress)
    (hfresh : ∀ k,S.first≤k → S.key k) :
    Within (touching S d) (createPeer cfg d server ip) := by
  intro s hs
  have hK : S.key s.serial := hfresh _ hs.serial
  have h : WithinAt (touchedFrame S.key d) (createPeer cfg d server ip) s := by
    refine (getNow_within s).bind fun now t ht => ?_
    cases ht
    refine (nextSerial_within touched_books s).bind fun key t ht => ?_
    cases ht
    refine WithinAt.bind ?_ fun _ t _ => Within.pure _ t
    refine vpnRequest_withinAt touched_books fun os store hstore => ?_
    cases hstore
    exact createPeer_touched hK (Int.lt_succ _)
  exact h

theorem createPeerAttempts_touching (cfg : Settings) (server : VpnServer) (n : Nat)
    (hfresh : ∀ k,S.first≤k → S.key k) :
    Within (touching S d) (createPeerAttempts cfg d server n) := by
  induction n with
  | zero => exact Within.raise _
  | succ n ih =>
    refine (allocateIp_within server).bind fun ip s hs => ?_
    have h : WithinAt (touching S d) (createPeer cfg d server ip >>= fun result => do
        let id ← nextSerial
        let peer : VpnPeer := ⟨id,d,server.id,result.publicKey,result.assignedIp,.active⟩
        flush
        flush
        let db ← getDb
        if peerClash db peer then do
          deletePeer peer.publicKey server
          createPeerAttempts cfg d server n
        else do
          alter fun db => {db with vpnPeers := db.vpnPeers.insert peer}
          pure (result,peer)) s := by
      refine (createPeer_touching cfg server ip hfresh s).bind fun result t ht => ?_
      have hkey : S.key result.publicKey := by
        obtain ⟨os,hr,_⟩ := createPeer_ok ht
        rw [hr]
        exact hfresh _ hs.serial
      revert t
      intro t _
      refine Within.bind (nextSerial_within touching_books) (fun id => ?_) t
      refine (flush_within touching_books).bind fun _ => ?_
      refine (flush_within touching_books).bind fun _ => getDb_within.bind fun db => ?_
      refine Within.ite ((deletePeer_touching server hkey).bind fun _ => ih) ?_
      refine Within.bind (alter_touching fun _ _ => ?_) fun _ => Within.pure _
      exact DbTouched.insertPeer rfl
    exact h hs

theorem serverOfDevice_within {R : Frame Session} (device : Device) :
    Within R (serverOfDevice device) :=
  (Within.orRaise _ _).bind fun k => getServer_within k

theorem withActivePeer_withinAt {R : Frame Session} {f : VpnPeer → Req Unit} {s : Session}
    (h : ∀ p,s.db.activePeer d=some p → WithinAt R (f p) s) :
    WithinAt R (withActivePeer d f) s := by
  refine WithinAt.reads_bind ?_
  cases hp : s.db.activePeer d with
  | none => exact R.refl s
  | some p => exact h p hp

theorem setDeviceStatus_touching (status : DeviceStatus) :
    Within (touching S d) (setDeviceStatus d status) :=
  alter_touching fun _ _ => DbTouched.updateDevice _ fun _ => ⟨rfl,rfl⟩

theorem setPeerStatus_touching {k : Id} (status : VpnPeerStatus) (hk : S.peer k) :
    Within (touching S d) (setPeerStatus k status) :=
  alter_touching fun _ hs => DbTouched.modifyPeer _ (fun _ => rfl) fun q hq he =>
    hs.peers q hq (he ▸ hk)

theorem setCredentialStatus_touching {k : Id} {f : VlessCredential → VlessCredential}
    (hf : ∀ c,(f c).id=c.id) (hd : ∀ c,(f c).deviceId=c.deviceId) (hk : S.credential k) :
    Within (touching S d) (setCredentialStatus k f hf) :=
  alter_touching fun _ hs => DbTouched.modifyCredential _ hd fun c hc he =>
    hs.credentials c hc (he ▸ hk)

theorem addLoad_touching (serverId : Id) : Within (touching S d) (addLoad serverId) :=
  alter_touching fun _ _ => DbTouched.modifyServer _ fun _ => rfl

theorem dropLoad_touching (serverId : Id) : Within (touching S d) (dropLoad serverId) :=
  alter_touching fun _ _ => DbTouched.modifyServer _ fun _ => rfl

theorem configForCredential_within {R : Frame Session} (c : VlessCredential) :
    Within R (configForCredential c) :=
  (getServer_within c.serverId).bind fun _ => getDb_within.bind fun _ => Within.pure _

theorem removeCredentialFromXray_touching (c : VlessCredential) (hK : S.key c.uuid) :
    Within (touching S d) (removeCredentialFromXray c) := by
  refine (configForCredential_within c).bind fun config => ?_
  cases config with
  | none => exact Within.pure _
  | some config => exact xrayRequest_within touching_books fun s _ => deleteUser_touched hK

theorem disableCredential_touching (c : VlessCredential) (hK : S.key c.uuid)
    (hc : S.credential c.id) : Within (touching S d) (disableCredential c) :=
  (removeCredentialFromXray_touching c hK).bind fun _ =>
    setCredentialStatus_touching _ (fun _ => rfl) hc

theorem revokeCredential_touching (c : VlessCredential) (hK : S.key c.uuid)
    (hc : S.credential c.id) : Within (touching S d) (revokeCredential c) := by
  refine (removeCredentialFromXray_touching c hK).bind fun _ => getNow_within.bind fun _ => ?_
  refine Within.bind ?_ fun _ => (getServer_within c.serverId).bind fun x => dropLoad_touching x.id
  exact setCredentialStatus_touching _ (fun _ => rfl) hc

theorem enableCredential_touching (c : VlessCredential) (hK : S.key c.uuid)
    (hc : S.credential c.id) (hlt : c.uuid<S.first) :
    Within (touching S d) (enableCredential d c) := by
  refine Within.ite ((configForCredential_within c).bind fun config => ?_) (Within.pure _)
  cases config with
  | none => exact Within.pure _
  | some config =>
    refine getNow_within.bind fun now => ?_
    refine Within.bind ?_ fun _ => setCredentialStatus_touching _ (fun _ => rfl) hc
    exact xrayRequest_within touching_books fun s hs =>
      createUser_touched hK (hlt.trans_le hs.serial)

/-- The scope contains the numbers of all rows of `d` in a state. -/
structure Scope.Covers (S : Scope) (d : Id) (s : Session) : Prop where
  fresh : ∀ k,S.first≤k → S.key k
  peers : ∀ p∈s.db.vpnPeers.rows,p.deviceId=d → S.key p.publicKey ∧ S.peer p.id
  credentials : ∀ c∈s.db.vlessCredentials.rows,c.deviceId=d →
    S.key c.uuid ∧ S.credential c.id ∧ c.uuid<S.first
  links : ∀ l∈s.db.subscriptionLinks.rows,l.deviceId=d → S.link l.id

theorem Scope.of_covers {s : Session}
    (h : ∀ c∈s.db.vlessCredentials.rows,c.deviceId=d → c.uuid<s.serial) :
    (Scope.of d s).Covers d s where
  fresh _ hk := Or.inl hk
  peers p hp hd := ⟨Or.inr (Or.inl ⟨p,hp,hd,rfl⟩),⟨p,hp,hd,rfl⟩⟩
  credentials c hc hd := ⟨Or.inr (Or.inr ⟨c,hc,hd,rfl⟩),⟨c,hc,hd,rfl⟩,h c hc hd⟩
  links l hl hd := ⟨l,hl,hd,rfl⟩

theorem retirePeer_touching (server : VpnServer) (p : VpnPeer) (hK : S.key p.publicKey)
    (hp : S.peer p.id) : Within (touching S d) (retirePeer server p) :=
  (deletePeer_touching server hK).bind fun _ => setPeerStatus_touching _ hp

end

section

variable {S : Scope} {device : Device} {s : Session}

theorem revokeTransport_touching (h : S.Covers device.id s) :
    WithinAt (touching S device.id) (revokeTransport device) s := by
  unfold revokeTransport
  cases device.protocol with
  | vless =>
    refine WithinAt.reads_bind (Within.each (fun c hc => ?_) s)
    have hmem := s.db.mem_activeCredentials.mp hc
    have hcov := h.credentials c hmem.1 hmem.2.1
    exact revokeCredential_touching c hcov.1 hcov.2.1
  | wireguard =>
    unfold revokePeer
    cases device.serverId with
    | none => exact Within.pure _ s
    | some serverId =>
      refine WithinAt.still_bind (getServer_within serverId s) fun server _ => ?_
      refine withActivePeer_withinAt fun p hp => ?_
      have hmem := Database.activePeer_mem hp
      have hcov := h.peers p hmem.1 hmem.2.1
      exact Within.bind (retirePeer_touching server p hcov.1 hcov.2)
        (fun _ => dropLoad_touching server.id) s

theorem disableTransport_touching (h : S.Covers device.id s) :
    WithinAt (touching S device.id) (disableTransport device) s := by
  unfold disableTransport
  cases device.protocol with
  | vless =>
    refine WithinAt.reads_bind (Within.each (fun c hc => ?_) s)
    have hmem := s.db.mem_activeCredentials.mp hc
    have hcov := h.credentials c hmem.1 hmem.2.1
    exact disableCredential_touching c hcov.1 hcov.2.1
  | wireguard =>
    refine WithinAt.still_bind (serverOfDevice_within device s) fun server _ => ?_
    refine withActivePeer_withinAt fun p hp => ?_
    have hmem := Database.activePeer_mem hp
    exact disableRequest_touching server (h.peers p hmem.1 hmem.2.1).1 s

theorem enableTransport_touching (h : S.Covers device.id s) :
    WithinAt (touching S device.id) (enableTransport device) s := by
  unfold enableTransport
  cases device.protocol with
  | vless =>
    refine WithinAt.reads_bind (Within.each (fun c hc => ?_) s)
    have hmem := s.db.mem_credentialsOf.mp hc
    have hcov := h.credentials c hmem.1 hmem.2
    exact enableCredential_touching c hcov.1 hcov.2.1 hcov.2.2
  | wireguard =>
    refine WithinAt.still_bind (serverOfDevice_within device s) fun server _ => ?_
    refine withActivePeer_withinAt fun p hp => ?_
    have hmem := Database.activePeer_mem hp
    exact enableRequest_touching server (h.peers p hmem.1 hmem.2.1).1 s

theorem revoke_touching (h : S.Covers device.id s) :
    WithinAt (touching S device.id) (revoke device) s :=
  (revokeTransport_touching h).bind fun _ t _ => setDeviceStatus_touching _ t

theorem disable_touching (h : S.Covers device.id s) :
    WithinAt (touching S device.id) (disable device) s :=
  (disableTransport_touching h).bind fun _ t _ => setDeviceStatus_touching _ t

theorem enable_touching (h : S.Covers device.id s) :
    WithinAt (touching S device.id) (enable device) s :=
  (enableTransport_touching h).bind fun _ t _ => setDeviceStatus_touching _ t

theorem reissue_touching (cfg : Settings) (h : S.Covers device.id s) :
    WithinAt (touching S device.id) (reissue cfg device) s := by
  unfold reissue
  refine WithinAt.still_bind (Within.require _ _ s) fun _ _ => ?_
  refine WithinAt.still_bind (serverOfDevice_within device s) fun server _ => ?_
  refine WithinAt.bind (withActivePeer_withinAt fun p hp => ?_) fun _ t _ => ?_
  · have hmem := Database.activePeer_mem hp
    have hcov := h.peers p hmem.1 hmem.2.1
    exact retirePeer_touching server p hcov.1 hcov.2 s
  · refine Within.bind (createPeerAttempts_touching cfg server 5 h.fresh) (fun created => ?_) t
    refine Within.bind (alter_touching fun _ _ => DbTouched.updateDevice _ fun _ => ⟨rfl,rfl⟩)
      fun _ => ?_
    refine (touching_of_core (regenerateProfile_core cfg _ _)).bind fun profile => ?_
    exact (generateQrCode_within _).bind fun _ => (refreshed_within device).bind fun _ =>
      Within.pure _

theorem createOrRotate_touching {d : Id}
    (h : ∀ l∈s.db.subscriptionLinks.rows,l.deviceId=d → S.link l.id) :
    WithinAt (touching S d) (createOrRotate d) s := by
  unfold createOrRotate
  refine (nextSerial_within touching_books s).bind fun serial t ht => ?_
  cases ht
  refine WithinAt.still_bind (getNow_within _) fun now _ => WithinAt.reads_bind ?_
  cases hl : s.db.linkOf d with
  | none =>
    refine Within.bind (nextSerial_within touching_books) (fun id => ?_) _
    refine Within.bind (alter_touching fun _ _ => ?_) fun _ =>
      (flush_within touching_books).bind fun _ => Within.pure _
    exact DbTouched.insertLink rfl
  | some l =>
    have hmem := Database.linkOf_mem hl
    refine Within.bind (alter_touching fun _ hs => ?_) (fun _ =>
      (flush_within touching_books).bind fun _ => Within.pure _) _
    exact DbTouched.modifyLink _ (fun _ => rfl) fun x hx he =>
      hs.links x hx (he ▸ h l hmem.1 hmem.2)

theorem revokeLink_touching {d : Id} {l : SubscriptionLink} (h : S.link l.id) :
    Within (touching S d) (revokeLink l) :=
  getNow_within.bind fun _ => alter_touching fun _ hs =>
    DbTouched.modifyLink _ (fun _ => rfl) fun x hx he => hs.links x hx (he ▸ h)

theorem handleDevice_touching (cfg : Settings) (h : S.Covers device.id s) (r : DeviceRequest) :
    WithinAt (touching S device.id) (handleDevice cfg device r) s := by
  cases r with
  | reissue => exact (reissue_touching cfg h).bind fun _ t _ => Within.pure _ t
  | disable =>
    exact (disable_touching h).bind fun _ t _ =>
      Within.bind (refreshed_within device) (fun _ => Within.pure _) t
  | enable =>
    exact (enable_touching h).bind fun _ t _ =>
      Within.bind (refreshed_within device) (fun _ => Within.pure _) t
  | revoke =>
    exact (revoke_touching h).bind fun _ t _ =>
      Within.bind (refreshed_within device) (fun _ => Within.pure _) t
  | createOrRotateLink =>
    exact (createOrRotate_touching h.links).bind fun _ t _ =>
      Within.bind (generateQrCode_within _) (fun _ => Within.pure _) t
  | getLink => exact Within.bind (getLink_within device.id) (fun _ => Within.pure _) s
  | revokeLink =>
    refine WithinAt.still_bind (getLink_within device.id s) fun l hl => ?_
    have hmem := Database.linkOf_mem (Eff.orRaise_ok.mp hl).1
    exact Within.bind (revokeLink_touching (h.links l hmem.1 hmem.2)) (fun _ => answerLink_within _) s
  | getProfile =>
    exact Within.bind (getDb_within.bind fun _ => (currentProfile_within _).bind fun _ =>
      Within.orRaise _ _) (fun _ => Within.pure _) s
  | refreshProfile =>
    exact Within.bind (touching_of_core (regenerateProfile_core cfg _ _)) (fun _ => Within.pure _) s

theorem chooseServer_within {R : Frame Session} (requested : Option Id) (protocol : VpnProtocol) :
    Within R (chooseServer requested protocol) := by
  unfold chooseServer
  cases requested.filter fun k => k≠0 with
  | none => exact getDb_within.bind fun _ => Within.orRaise _ _
  | some k => exact getServer_within k

theorem enforceDeviceLimit_within {R : Frame Session} (userId : Id) :
    Within R (enforceDeviceLimit userId) := by
  refine getDb_within.bind fun db => ?_
  cases limitVerdict db userId with
  | ok _ => exact Within.pure _
  | error e => exact Within.raise e

/-- A new device gets the next number, and its row is all that `addDevice` adds. -/
theorem addDevice_ok {userId : Id} {name : String} {serverId : Option Id}
    {protocol : VpnProtocol} {s t : Session} {device : Device}
    (h : addDevice userId name serverId protocol s=(.ok device,t)) :
    name.length≤64 ∧
      device=⟨s.serial,userId,name,none,none,serverId,.active,none,protocol⟩ ∧
      ∃ os,t={s with
        db := {s.db with devices := s.db.devices.insert device}
        serial := s.serial+1
        outcomes := os} := by
  obtain ⟨id,u,hu,h⟩ := Eff.bind_ok.mp h
  cases hu
  obtain ⟨_,u,hu,h⟩ := Eff.bind_ok.mp h
  obtain ⟨os,hos⟩ := flush_ok hu
  obtain ⟨_,v,hv,h⟩ := Eff.bind_ok.mp h
  obtain ⟨hlen,hv⟩ := Eff.require_ok.mp hv
  subst hos hv
  cases h
  exact ⟨hlen,rfl,os,rfl⟩

theorem addDevice_touching (userId : Id) (name : String) (serverId : Option Id)
    (protocol : VpnProtocol) :
    WithinAt (touching S s.serial) (addDevice userId name serverId protocol) s := by
  refine (nextSerial_within touching_books s).bind fun id t ht => ?_
  cases ht
  refine Within.bind (flush_within touching_books) (fun _ => (Within.require _ _).bind fun _ => ?_) _
  refine Within.bind (alter_touching fun _ _ => ?_) fun _ => Within.pure _
  exact DbTouched.insertDevice rfl

theorem provisionVless_touching (cfg : Settings) (user : User) (name : String)
    (requested : Option Id) (h : S.Covers s.serial s) :
    WithinAt (touching S s.serial) (provisionVless cfg user name requested) s := by
  refine WithinAt.still_bind (chooseServer_within requested .vless s) fun server _ => ?_
  refine WithinAt.still_bind (getDb_within s) fun db _ => ?_
  refine WithinAt.still_bind (Within.orRaise _ _ s) fun config _ => ?_
  refine (addDevice_touching user.id name (some server.id) .vless).bind fun device t ht => ?_
  obtain ⟨_,hdevice,os,ht⟩ := addDevice_ok ht
  have hid : device.id=s.serial := by rw [hdevice]
  have hlinks : t.db.subscriptionLinks=s.db.subscriptionLinks := by rw [ht]
  rw [hid]
  refine (createOrRotate_touching (by rw [hlinks]; exact h.links)).bind fun link u _ hfits => ?_
  refine (?_ : WithinAt (touching S s.serial) _ u) hfits
  refine (nextSerial_within touching_books u).bind fun uuid v hv => ?_
  cases hv
  have huuid : S.key u.serial := h.fresh _ hfits.serial
  refine WithinAt.still_bind (getNow_within _) fun now _ => ?_
  refine WithinAt.bind ?_ fun _ v _ => ?_
  · have hnext : S.Fits s.serial {u with serial := u.serial+1} :=
      (touching_books.serial u hfits).fits hfits
    refine xrayRequest_withinAt touching_books (fun v => S.Fits s.serial v ∧ u.serial<v.serial)
      (fun hv hrel => ?_) (fun v hv _ => createUser_touched huuid hv.2) ⟨hnext,Int.lt_succ _⟩
    exact ⟨(hrel hv.1).fits hv.1,hv.2.trans_le (hrel hv.1).serial⟩
  · refine Within.bind (nextSerial_within touching_books) (fun id => ?_) v
    refine (flush_within touching_books).bind fun _ => getDb_within.bind fun _ => ?_
    refine (Within.require _ _).bind fun _ => ?_
    refine Within.bind (alter_touching fun _ _ => DbTouched.insertCredential rfl) fun _ => ?_
    refine (addLoad_touching server.id).bind fun _ => ?_
    exact (generateQrCode_within _).bind fun _ => Within.pure _

theorem provision_touching (cfg : Settings) (user : User) (name : String)
    (requested : Option Id) (protocol : VpnProtocol) (h : S.Covers s.serial s) :
    WithinAt (touching S s.serial) (provision cfg user name requested protocol) s := by
  refine WithinAt.still_bind (enforceDeviceLimit_within user.id s) fun _ _ => ?_
  cases protocol with
  | vless => exact provisionVless_touching cfg user name requested h
  | wireguard =>
    refine WithinAt.still_bind (chooseServer_within requested .wireguard s) fun server _ => ?_
    refine (addDevice_touching user.id name none .wireguard).bind fun device t ht => ?_
    obtain ⟨_,hdevice,os,ht⟩ := addDevice_ok ht
    have hid : device.id=s.serial := by rw [hdevice]
    have hlinks : t.db.subscriptionLinks=s.db.subscriptionLinks := by rw [ht]
    rw [hid]
    refine (createOrRotate_touching (by rw [hlinks]; exact h.links)).bind fun link u _ => ?_
    refine Within.bind (createPeerAttempts_touching cfg server 5 h.fresh) (fun created => ?_) u
    refine Within.bind (alter_touching fun _ _ => DbTouched.updateDevice _ fun _ => ⟨rfl,rfl⟩)
      fun _ => (addLoad_touching server.id).bind fun _ => ?_
    refine (touching_of_core (regenerateProfile_core cfg _ _)).bind fun profile => ?_
    exact (generateQrCode_within _).bind fun _ => (generateQrCode_within _).bind fun _ =>
      (refreshed_within device).bind fun _ => Within.pure _

end

end VpnService.Backend
