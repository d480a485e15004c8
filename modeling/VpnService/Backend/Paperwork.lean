import VpnService.Backend.Contracts

namespace VpnService.Backend

/-- The tables but those of the fleet. -/
def Database.paperwork (db : Database) : Database :=
  {db.unequipped with devices := .empty,subscriptionLinks := .empty}

/-- The fleet may change, and nothing else. -/
abbrev paperworkFrame : Frame Session := keeping fun s => s.db.paperwork

theorem paperwork_books : Bookkeeping paperworkFrame :=
  ⟨fun _ => ⟨rfl,by simp⟩,fun _ _ => ⟨rfl,le_rfl⟩⟩

theorem alter_paperwork {f : Database → Database} (h : ∀ db,(f db).paperwork=db.paperwork) :
    Within paperworkFrame (alter f) := fun s => ⟨h s.db,le_rfl⟩

theorem paperwork_of_equipment {s t : Session} (h : equipmentFrame.rel s t) :
    paperworkFrame.rel s t := by
  have hdb : t.db.unequipped=s.db.unequipped := congrArg Prod.fst h.1
  have hpapers : t.db.paperwork=s.db.paperwork :=
    (congrArg (fun db : Database => ({db with devices := .empty,subscriptionLinks := .empty} :
      Database)) hdb :)
  exact ⟨hpapers,h.2⟩

theorem createOrRotate_paperwork (deviceId : Id) :
    Within paperworkFrame (createOrRotate deviceId) := by
  refine (nextSerial_within paperwork_books).bind fun _ => getNow_within.bind fun _ =>
    getDb_within.bind fun db => ?_
  cases db.linkOf deviceId with
  | none =>
    exact (nextSerial_within paperwork_books).bind fun _ =>
      Within.bind (alter_paperwork fun _ => rfl) fun _ => (flush_within paperwork_books).bind
      fun _ => Within.pure _
  | some link =>
    exact Within.bind (alter_paperwork fun _ => rfl) fun _ => (flush_within paperwork_books).bind
      fun _ => Within.pure _

theorem addDevice_paperwork (userId : Id) (name : String) (serverId : Option Id)
    (protocol : VpnProtocol) :
    Within paperworkFrame (addDevice userId name serverId protocol) :=
  (nextSerial_within paperwork_books).bind fun _ => (flush_within paperwork_books).bind fun _ =>
    (Within.require _ _).bind fun _ => Within.bind (alter_paperwork fun _ => rfl) fun _ =>
    Within.pure _

section

variable {R : Frame Session} (hR : ∀ {s t},paperworkFrame.rel s t → R.rel s t) {cfg : Settings}

include hR

theorem alter_beneath {f : Database → Database} (h : ∀ db,(f db).paperwork=db.paperwork) :
    Within R (alter f) := (alter_paperwork h).mono hR

theorem equipment_within {α : Type} {m : Req α} (h : Within equipmentFrame m) : Within R m :=
  h.mono fun he => hR (paperwork_of_equipment he)

theorem reissue_within {device : Device}
    (hprofile : Within R (regenerateProfile cfg device.id device.userId)) :
    Within R (reissue cfg device) :=
  (Within.require _ _).bind fun _ => (serverOfDevice_within device).bind fun server =>
    (equipment_within hR (withActivePeer_within _ fun p => retirePeer_equipment server p)).bind
    fun _ => (equipment_within hR (createPeerAttempts_equipment cfg device.id server 5)).bind
    fun _ => Within.bind (alter_beneath hR fun _ => rfl) fun _ =>
    hprofile.bind fun _ => (generateQrCode_within _).bind fun _ =>
    (refreshed_within _).bind fun _ => Within.pure _

/-- Beside the fleet a request about a device changes what a new profile of it changes. -/
theorem handleDevice_within {device : Device} {r : DeviceRequest}
    (hprofile : r=.reissue ∨ r=.refreshProfile →
      Within R (regenerateProfile cfg device.id device.userId)) :
    Within R (handleDevice cfg device r) := by
  have hanswer : Within R (answerDevice device) :=
    (refreshed_within device).bind fun _ => Within.pure _
  have htransport : ∀ {m : Req Unit} (status : DeviceStatus),Within equipmentFrame m →
      Within R (m >>= fun _ => setDeviceStatus device.id status) := fun status hm =>
    (equipment_within hR hm).bind fun _ => alter_beneath hR fun _ => rfl
  cases r with
  | reissue => exact (reissue_within hR (hprofile (Or.inl rfl))).bind fun _ => Within.pure _
  | disable =>
    exact Within.bind (htransport .disabled (disableTransport_equipment device)) fun _ => hanswer
  | enable =>
    exact Within.bind (htransport .active (enableTransport_equipment device)) fun _ => hanswer
  | revoke =>
    exact Within.bind (htransport .revoked (revokeTransport_equipment device)) fun _ => hanswer
  | createOrRotateLink =>
    exact ((createOrRotate_paperwork device.id).mono hR).bind fun _ =>
      (generateQrCode_within _).bind fun _ => Within.pure _
  | getLink => exact (getLink_within device.id).bind fun _ => Within.pure _
  | revokeLink =>
    exact (getLink_within device.id).bind fun _ => Within.bind (getNow_within.bind fun _ =>
      alter_beneath hR fun _ => rfl) fun _ => answerLink_within _
  | getProfile =>
    have hread : Within R (getDeviceProfile device.id) := getDb_within.bind fun _ =>
      (currentProfile_within _).bind fun _ => Within.orRaise _ _
    exact hread.bind fun _ => Within.pure _
  | refreshProfile => exact (hprofile (Or.inr rfl)).bind fun _ => Within.pure _

/-- Beside the fleet a new device changes what its first profile changes. -/
theorem provision_withinAt {user : User} {s : Session} {protocol : VpnProtocol}
    (hprofile : protocol=.wireguard → Within R (regenerateProfile cfg s.serial user.id))
    (name : String) (requested : Option Id) :
    WithinAt R (provision cfg user name requested protocol) s := by
  have hbooks : Bookkeeping R := ⟨fun t => hR (paperwork_books.serial t),
    fun t os => hR (paperwork_books.outcomes t os)⟩
  refine WithinAt.still_bind (enforceDeviceLimit_within user.id s) fun _ _ => ?_
  cases protocol with
  | vless =>
    have hvless : Within R (provisionVless cfg user name requested) :=
      (chooseServer_within _ _).bind fun _ => getDb_within.bind fun _ =>
      (Within.orRaise _ _).bind fun _ => ((addDevice_paperwork _ _ _ _).mono hR).bind fun _ =>
      ((createOrRotate_paperwork _).mono hR).bind fun _ => (nextSerial_within hbooks).bind fun _ =>
      getNow_within.bind fun _ => (equipment_within hR (xrayRequest_equipment _ _)).bind fun _ =>
      (nextSerial_within hbooks).bind fun _ => (flush_within hbooks).bind fun _ =>
      getDb_within.bind fun _ => (Within.require _ _).bind fun _ =>
      Within.bind (alter_beneath hR fun _ => rfl) fun _ =>
      Within.bind (alter_beneath hR fun _ => rfl) fun _ => (generateQrCode_within _).bind fun _ =>
      Within.pure _
    exact hvless s
  | wireguard =>
    refine WithinAt.still_bind (chooseServer_within requested .wireguard s) fun server _ => ?_
    refine ((addDevice_paperwork user.id name none .wireguard s).mono hR).bind
      fun device t ht => ?_
    obtain ⟨_,hdevice,_⟩ := addDevice_ok ht
    have hid : device.id=s.serial := by rw [hdevice]
    rw [hid]
    refine Within.bind ((createOrRotate_paperwork _).mono hR) (fun _ => ?_) t
    refine (equipment_within hR (createPeerAttempts_equipment cfg s.serial server 5)).bind
      fun created => ?_
    exact Within.bind (alter_beneath hR fun _ => rfl) fun _ =>
      Within.bind (alter_beneath hR fun _ => rfl) fun _ => (hprofile rfl).bind fun _ =>
      (generateQrCode_within _).bind fun _ => (generateQrCode_within _).bind fun _ =>
      (refreshed_within device).bind fun _ => Within.pure _

end

end VpnService.Backend
