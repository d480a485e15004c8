import VpnService.Backend.Recolored
import VpnService.Backend.Isolation

namespace VpnService.Backend

open Agent

/-- The tables but those of servers, peers and credentials. -/
def Database.unequipped (db : Database) : Database :=
  {db with vpnServers := .empty,vpnPeers := .empty,vlessCredentials := .empty}

/-- Servers, peers, credentials and what the agents have may change, and nothing else. -/
abbrev equipmentFrame : Frame Session := keeping fun s => (s.db.unequipped,s.notices)

theorem equipment_books : Bookkeeping equipmentFrame :=
  ⟨fun _ => ⟨rfl,by simp⟩,fun _ _ => ⟨rfl,le_rfl⟩⟩

theorem alter_equipment {f : Database → Database} (h : ∀ db,(f db).unequipped=db.unequipped) :
    Within equipmentFrame (alter f) := fun s => ⟨Prod.ext (h s.db) rfl,le_rfl⟩

theorem hosting_of_equipment {s t : Session} (h : equipmentFrame.rel s t) :
    hostingFrame.rel s t := by
  obtain ⟨hview,hs⟩ := h
  have hdb : t.db.unequipped=s.db.unequipped := congrArg Prod.fst hview
  have hbilling : t.db.billing=s.db.billing := (congrArg Database.billing hdb :)
  have hlinks : t.db.subscriptionLinks=s.db.subscriptionLinks :=
    (congrArg Database.subscriptionLinks hdb :)
  have hrouting : routingView t=routingView s :=
    (congrArg (fun db : Database => (db.routingCategories,db.routingRules,db.userRoutingProfiles,
      db.userCategoryPreferences,db.userCustomDomains,db.vpnProfiles)) hdb :)
  exact ⟨Prod.ext hbilling (Prod.ext hlinks hrouting),hs⟩

theorem vpnRequest_equipment (server : VpnServer) (op : IpPeerStore → Option IpPeerStore) :
    Within equipmentFrame (vpnRequest server op) :=
  vpnRequest_within equipment_books fun _ _ _ => ⟨rfl,le_rfl⟩

theorem xrayRequest_equipment (baseUrl : String) (op : UserStore → UserStore) :
    Within equipmentFrame (xrayRequest baseUrl op) :=
  xrayRequest_within equipment_books fun _ => ⟨rfl,le_rfl⟩

theorem removeCredentialFromXray_equipment (c : VlessCredential) :
    Within equipmentFrame (removeCredentialFromXray c) := by
  refine (configForCredential_within c).bind fun config => ?_
  cases config with
  | none => exact Within.pure _
  | some config => exact xrayRequest_equipment _ _

theorem retirePeer_equipment (server : VpnServer) (p : VpnPeer) :
    Within equipmentFrame (retirePeer server p) :=
  (vpnRequest_equipment _ _).bind fun _ => alter_equipment fun _ => rfl

theorem disableTransport_equipment (device : Device) :
    Within equipmentFrame (disableTransport device) := by
  unfold disableTransport
  cases device.protocol with
  | vless =>
    exact getDb_within.bind fun _ => Within.each fun c _ =>
      (removeCredentialFromXray_equipment c).bind fun _ => alter_equipment fun _ => rfl
  | wireguard =>
    exact (serverOfDevice_within device).bind fun server => withActivePeer_within _ fun p =>
      vpnRequest_equipment server _

theorem enableTransport_equipment (device : Device) :
    Within equipmentFrame (enableTransport device) := by
  unfold enableTransport
  cases device.protocol with
  | vless =>
    refine getDb_within.bind fun _ => Within.each fun c _ => Within.ite ?_ (Within.pure _)
    refine (configForCredential_within c).bind fun config => ?_
    cases config with
    | none => exact Within.pure _
    | some config =>
      exact getNow_within.bind fun _ => (xrayRequest_equipment _ _).bind fun _ =>
        alter_equipment fun _ => rfl
  | wireguard =>
    exact (serverOfDevice_within device).bind fun server => withActivePeer_within _ fun p =>
      vpnRequest_equipment server _

theorem revokeTransport_equipment (device : Device) :
    Within equipmentFrame (revokeTransport device) := by
  unfold revokeTransport
  cases device.protocol with
  | vless =>
    exact getDb_within.bind fun _ => Within.each fun c _ =>
      (removeCredentialFromXray_equipment c).bind fun _ => getNow_within.bind fun _ =>
      Within.bind (alter_equipment fun _ => rfl) fun _ => (getServer_within _).bind fun _ =>
      alter_equipment fun _ => rfl
  | wireguard =>
    unfold revokePeer
    cases device.serverId with
    | none => exact Within.pure _
    | some serverId =>
      exact (getServer_within serverId).bind fun server => withActivePeer_within _ fun p =>
        (retirePeer_equipment server p).bind fun _ => alter_equipment fun _ => rfl

theorem createPeerAttempts_equipment (cfg : Settings) (deviceId : Id) (server : VpnServer)
    (n : Nat) : Within equipmentFrame (createPeerAttempts cfg deviceId server n) := by
  induction n with
  | zero => exact Within.raise _
  | succ n ih =>
    refine (allocateIp_within server).bind fun ip => Within.bind ?_ fun _ =>
      (nextSerial_within equipment_books).bind fun _ => (flush_within equipment_books).bind
      fun _ => (flush_within equipment_books).bind fun _ => getDb_within.bind fun _ =>
      Within.ite ?_ ?_
    · exact getNow_within.bind fun _ => (nextSerial_within equipment_books).bind fun _ =>
        (vpnRequest_equipment _ _).bind fun _ => Within.pure _
    · exact (vpnRequest_equipment _ _).bind fun _ => ih
    · exact Within.bind (alter_equipment fun _ => rfl) fun _ => Within.pure _

theorem xrayRequest_hosting (baseUrl : String) (op : UserStore → UserStore) :
    Within hostingFrame (xrayRequest baseUrl op) :=
  (xrayRequest_equipment _ _).mono hosting_of_equipment

theorem retirePeer_hosting (server : VpnServer) (p : VpnPeer) :
    Within hostingFrame (retirePeer server p) :=
  (retirePeer_equipment _ _).mono hosting_of_equipment

theorem disable_hosting (device : Device) : Within hostingFrame (disable device) :=
  ((disableTransport_equipment device).mono hosting_of_equipment).bind fun _ =>
    alter_hosting fun _ => rfl

theorem disableAllForUser_hosting (userId : Id) :
    Within hostingFrame (disableAllForUser userId) :=
  disableAllForUser_within disable_hosting userId

theorem enable_hosting (device : Device) : Within hostingFrame (enable device) :=
  ((enableTransport_equipment device).mono hosting_of_equipment).bind fun _ =>
    alter_hosting fun _ => rfl

theorem revoke_hosting (device : Device) : Within hostingFrame (revoke device) :=
  ((revokeTransport_equipment device).mono hosting_of_equipment).bind fun _ =>
    alter_hosting fun _ => rfl

theorem createPeerAttempts_hosting (cfg : Settings) (deviceId : Id) (server : VpnServer)
    (n : Nat) : Within hostingFrame (createPeerAttempts cfg deviceId server n) :=
  (createPeerAttempts_equipment cfg deviceId server n).mono hosting_of_equipment

theorem regenerateProfile_contract (cfg : Settings) (deviceId userId : Id) :
    Within contractFrame (regenerateProfile cfg deviceId userId) :=
  (regenerateProfile_core cfg deviceId userId).mono contract_of_core

theorem reissue_contract (cfg : Settings) (device : Device) :
    Within contractFrame (reissue cfg device) :=
  (Within.require _ _).bind fun _ => (serverOfDevice_within device).bind fun server =>
    ((withActivePeer_within _ fun p => retirePeer_hosting server p).mono contract_of_hosting).bind
    fun _ => ((createPeerAttempts_hosting cfg device.id server 5).mono contract_of_hosting).bind
    fun _ =>
    Within.bind (alter_contract fun _ => rfl) fun _ =>
    (regenerateProfile_contract cfg _ _).bind fun _ => (generateQrCode_within _).bind fun _ =>
    (refreshed_within _).bind fun _ => Within.pure _

/-- But for its link requests, nothing a user does with a device touches a contract. -/
theorem handleDevice_contract (cfg : Settings) (device : Device) (r : DeviceRequest)
    (hcreate : r≠.createOrRotateLink) (hrevoke : r≠.revokeLink) :
    Within contractFrame (handleDevice cfg device r) := by
  have hanswer : Within contractFrame (answerDevice device) :=
    (refreshed_within device).bind fun _ => Within.pure _
  cases r with
  | reissue => exact (reissue_contract cfg device).bind fun _ => Within.pure _
  | disable => exact ((disable_hosting device).mono contract_of_hosting).bind fun _ => hanswer
  | enable => exact ((enable_hosting device).mono contract_of_hosting).bind fun _ => hanswer
  | revoke => exact ((revoke_hosting device).mono contract_of_hosting).bind fun _ => hanswer
  | createOrRotateLink => exact absurd rfl hcreate
  | getLink => exact (getLink_within device.id).bind fun _ => Within.pure _
  | revokeLink => exact absurd rfl hrevoke
  | getProfile =>
    have hread : Within contractFrame (getDeviceProfile device.id) := getDb_within.bind fun _ =>
      (currentProfile_within _).bind fun _ => Within.orRaise _ _
    exact hread.bind fun _ => Within.pure _
  | refreshProfile =>
    exact (regenerateProfile_contract cfg _ _).bind fun _ => Within.pure _

end VpnService.Backend
