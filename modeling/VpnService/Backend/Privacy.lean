import VpnService.Backend.Answers

namespace VpnService.Backend

/-- An error that tells a user nothing of another one: of persons it names no more than how many
devices the user has. -/
def Discreet (db : Database) (user : User) (e : AppError) : Prop :=
  Impersonal e ∨ (∃ server,PoolError server e) ∨
    ∃ limit,e=deviceLimitReached (db.countActiveDevices user.id) limit

section

variable {cfg : Settings} {user : User} {s t : Session}

theorem Impersonal.discreet {α : Type} {m : Req α} {db : Database} (h : Raises Impersonal m) :
    Raises (Discreet db user) m := h.mono fun _ => Or.inl

theorem createPeerWithRetry_discreet {db : Database} (d : Id) (server : VpnServer) :
    Raises (Discreet db user) (createPeerWithRetry cfg d server) :=
  (createPeerAttempts_raises cfg d server 5).mono fun _ he =>
    he.elim Or.inl fun hp => Or.inr (Or.inl ⟨server,hp⟩)

theorem reissue_discreet {db : Database} (device : Device) :
    Raises (Discreet db user) (reissue cfg device) := by
  have hfixed : ∀ e∈fixedErrors,Discreet db user e := fun _ h => Or.inl (.fixed h)
  refine (Raises.require _ (hfixed _ ?_)).bind fun _ => ?_
  · simp only [fixedErrors,List.mem_cons,true_or,or_true]
  refine (Impersonal.discreet (serverOfDevice_raises device)).bind fun server => ?_
  refine (Impersonal.discreet (withActivePeer_raises (retirePeer_raises server) device.id)).bind
    fun _ => (createPeerWithRetry_discreet device.id server).bind fun created => ?_
  exact Raises.bind (Raises.change _) fun _ =>
    (Impersonal.discreet (regenerateProfile_raises cfg _ _)).bind fun _ =>
    (Impersonal.discreet (generateQrCode_raises _)).bind fun _ =>
    (refreshed_raises device).bind fun _ => Raises.pure _

theorem provision_discreet {name : String} {requested : Option Id} {protocol : VpnProtocol} :
    RaisesAt (Discreet s.db user) (provision cfg user name requested protocol) s := by
  have hlimit : ∀ e,limitVerdict s.db user.id=.error e → Discreet s.db user e := fun e he => by
    rcases limitVerdict_error he with h|⟨_,_,_,_,h⟩
    · exact Or.inl h
    · exact Or.inr (Or.inr ⟨_,h⟩)
  refine ((enforceDeviceLimit_raises user.id).mono hlimit).bind fun _ u _ => ?_
  cases protocol with
  | vless => exact Impersonal.discreet (provisionVless_raises cfg user name requested) u
  | wireguard =>
    have hload : ∀ k,Raises (Discreet s.db user) (addLoad k) := fun _ => Raises.change _
    refine ((Impersonal.discreet (chooseServer_raises requested .wireguard)).bind fun server =>
      (Impersonal.discreet (addDevice_raises _ _ _ _)).bind fun device =>
      (Impersonal.discreet (createOrRotate_raises _)).bind fun link =>
      (createPeerWithRetry_discreet device.id server).bind fun created => ?_ :
      Raises (Discreet s.db user) _) u
    exact Raises.bind (Raises.change _) fun _ => (hload server.id).bind fun _ =>
      (Impersonal.discreet (regenerateProfile_raises cfg _ _)).bind fun _ =>
      (Impersonal.discreet (generateQrCode_raises _)).bind fun _ =>
      (Impersonal.discreet (generateQrCode_raises _)).bind fun _ =>
      (refreshed_raises device).bind fun _ => Raises.pure _

theorem readSubscription_raises (x : Subscription) : Raises Impersonal (readSubscription x) :=
  getDb_raises.bind fun _ => (Raises.orRaise (.internal _) _).bind fun _ => Raises.pure _

theorem readSubscriptions_raises (xs : List Subscription) :
    Raises Impersonal (readSubscriptions xs) := by
  induction xs with
  | nil => exact Raises.pure _
  | cons x xs ih =>
    exact (readSubscription_raises x).bind fun _ => ih.bind fun _ => Raises.pure _

theorem readMySettings_raises (userId : Id) : Raises Impersonal (readMySettings userId) :=
  (getOrCreateUserProfile_raises userId).bind fun _ => getDb_raises.bind fun _ => Raises.pure _

theorem getOwnTicket_raises (ticketId userId : Id) :
    Raises Impersonal (getOwnTicket ticketId userId) :=
  Raises.bind (orRaiseDb_raises (.fixed (by decide))) fun _ =>
    (Raises.require _ (.fixed (by decide))).bind fun _ => Raises.pure _

theorem readTicket_raises (ticket : SupportTicket) : Raises Impersonal (readTicket ticket) :=
  getDb_raises.bind fun _ => Raises.pure _

theorem createTicket_raises (userId : Id) (subject message : String) :
    Raises Impersonal (createTicket userId subject message) :=
  getNow_raises.bind fun _ => nextSerial_raises.bind fun _ => nextSerial_raises.bind fun _ =>
    flush_raises.bind fun _ => (Raises.require _ (.internal _)).bind fun _ =>
    (alter_raises _).bind fun _ => Raises.pure _

theorem addMessage_raises (ticket : SupportTicket) (text : String) :
    Raises Impersonal (addMessage ticket .user text) :=
  getNow_raises.bind fun _ => nextSerial_raises.bind fun _ => (alter_raises _).bind fun _ =>
    flush_raises.bind fun _ => Raises.pure _

theorem handleUser_discreet (r : BotRequest) :
    RaisesAt (Discreet s.db user) (handleUser cfg user r) s := by
  have hd : ∀ {m : Req BotResponse},Raises Impersonal m → RaisesAt (Discreet s.db user) m s :=
    fun h => Impersonal.discreet h s
  have hsettings := readMySettings_raises user.id
  cases r with
  | getMe => exact Raises.pure _ s
  | listMySubscriptions =>
    exact hd (getDb_raises.bind fun _ => (readSubscriptions_raises _).bind fun _ => Raises.pure _)
  | getMyActiveSubscription =>
    refine hd (getDb_raises.bind fun db => ?_)
    cases db.activeSubscription user.id with
    | none => exact Raises.bind (Raises.pure _) fun _ => Raises.pure _
    | some x =>
      exact Raises.bind ((readSubscription_raises x).bind fun _ => Raises.pure _) fun _ =>
        Raises.pure _
  | cancelSubscription subscriptionId =>
    exact hd ((getSubscription_raises subscriptionId).bind fun _ =>
      (Raises.require _ (.fixed (by decide))).bind fun _ => Raises.bind (Raises.change _) fun _ =>
      (readSubscription_raises _).bind fun _ => Raises.pure _)
  | createPayment planId promoCode =>
    exact hd ((getPlan_raises planId).bind fun _ => (createPayment_raises cfg user _ _).bind
      fun _ => Raises.pure _)
  | listMyPayments => exact Raises.pure _ s
  | getMySettings => exact hd hsettings
  | setMyMode mode =>
    exact hd (Raises.bind ((getOrCreateUserProfile_raises _).bind fun _ => alter_raises _)
      fun _ => hsettings)
  | setMyCategory categoryId enabled =>
    exact hd ((setCategoryPreference_raises _ _ _).bind fun _ => hsettings)
  | addMyDomain domain routeType =>
    exact hd ((addCustomDomain_raises _ _ _ _).bind fun _ => hsettings)
  | listDevices => exact Raises.pure _ s
  | createDevice name serverId protocol =>
    exact provision_discreet.bind fun _ u _ => Raises.pure _ u
  | device deviceId r =>
    refine (Impersonal.discreet (getOwned_raises deviceId user.id) s).bind fun device u _ => ?_
    by_cases hr : r=.reissue
    · subst hr
      exact ((reissue_discreet device).bind fun _ => Raises.pure _).bind (fun _ => Raises.pure _) u
    · exact (Impersonal.discreet (handleDevice_raises cfg device hr)).bind
        (fun _ => Raises.pure _) u
  | createTicket subject message =>
    exact hd ((createTicket_raises _ _ _).bind fun _ => readTicket_raises _)
  | listMyTickets =>
    exact hd (getDb_raises.bind fun _ => (Raises.require _ (.internal _)).bind fun _ =>
      Raises.pure _)
  | getTicket ticketId =>
    exact hd ((getOwnTicket_raises _ _).bind fun _ => readTicket_raises _)
  | addTicketMessage ticketId text =>
    exact hd ((getOwnTicket_raises _ _).bind fun ticket => (addMessage_raises ticket text).bind
      fun _ => Raises.pure _)

theorem handleBot_ok {telegramId : Int} {r : BotRequest} {a : BotResponse}
    (hfound : s.db.userByTelegramId telegramId=some user)
    (h : handleBot cfg telegramId r s=(.ok a,t)) : handleUser cfg user r s=(.ok a,t) := by
  obtain ⟨actor,u,hu,h⟩ := Eff.bind_ok.mp h
  obtain ⟨rfl,hactor,_⟩ := currentUser_ok hu
  rw [hfound] at hactor
  cases hactor
  exact h

theorem handleBot_discreet {telegramId : Int} {r : BotRequest}
    (hfound : s.db.userByTelegramId telegramId=some user) :
    RaisesAt (Discreet s.db user) (handleBot cfg telegramId r) s := by
  refine (Impersonal.discreet (currentUser_raises telegramId) s).bind fun actor u hu => ?_
  obtain ⟨rfl,hactor,_⟩ := currentUser_ok hu
  rw [hfound] at hactor
  cases hactor
  exact handleUser_discreet r

/-- Whatever a user asks for, with whatever ids, nothing another user owns is changed, and the
answer shows nothing of it: what is answered is read off rows of the asking user, and an error
tells of persons at most how many devices the asking user has. -/
theorem serveBot_private (env : Env) (telegramId : Int) (r : BotRequest) (w : World)
    (actor other : User) (hw : Numbered w.serial w.db)
    (hactor : w.db.userByTelegramId telegramId=some actor) (hother : other.id≠actor.id) :
    (∀ x,(serveBot cfg env telegramId r w).2.db.Owns other.id x ↔ w.db.Owns other.id x) ∧
      (∀ a,(serveBot cfg env telegramId r w).1=.ok a →
        a.ReadOff cfg (serveBot cfg env telegramId r w).2.db actor.id) ∧
      ∀ e,(serveBot cfg env telegramId r w).1=.error e → Discreet w.db actor e := by
  have hrow : actor∈w.db.users.rows := List.mem_of_find?_eq_some hactor
  unfold serveBot
  rcases transaction_cases (handleBot cfg telegramId r) env w with
    ⟨a,s,t,hm,hf,ht⟩|⟨e,s,hs,ht⟩
  · have hrun : handleUser cfg actor r ⟨w,env⟩=(.ok a,s) := handleBot_ok hactor hm
    have hdb : t.db=s.db := by
      obtain ⟨_,rfl⟩ := flush_ok hf
      rfl
    rw [ht]
    refine ⟨?_,?_,fun _ he => by cases he⟩
    · show ∀ x,t.db.Owns other.id x ↔ w.db.Owns other.id x
      rw [hdb]
      exact leaving_iff.mp (handleUser_leaving (s := ⟨w,env⟩) hw hother.symm hrun)
    · intro answer hanswer
      cases hanswer
      show a.ReadOff cfg t.db actor.id
      rw [hdb]
      exact handleUser_readOff (s := ⟨w,env⟩) hw hrow hrun
  · rw [ht]
    refine ⟨fun _ => Iff.rfl,?_,?_⟩
    · intro answer hanswer
      cases hanswer
    intro e' he
    cases he
    cases hs with
    | inl hm => exact handleBot_discreet (s := ⟨w,env⟩) hactor e s hm
    | inr hf =>
      obtain ⟨_,u,_,hf⟩ := hf
      exact Impersonal.discreet flush_raises u e s hf

end

/-- Beside the user of `opened` there is another one, who has nothing. -/
def neighboured : World := after sampleSettings opened
  (calm 3 (.billing (.authenticateTelegram ⟨78,none,none,none,none⟩)))

def firstUser : User := ⟨1,77,none,none,none,none,.active⟩

def secondUser : User := ⟨18,78,none,none,none,none,.active⟩

/-- The second user asks for a config of the first one's device. -/
theorem serveBot_private_neighbour :
    let w := serveBot sampleSettings (quiet 4) 78 (.device 11 .reissue) neighboured
    (∀ x,w.2.db.Owns 1 x ↔ neighboured.db.Owns 1 x) ∧
      (∀ a,w.1=.ok a → a.ReadOff sampleSettings w.2.db 18) ∧
      ∀ e,w.1=.error e → Discreet neighboured.db secondUser e :=
  serveBot_private (quiet 4) 78 (.device 11 .reissue) neighboured secondUser firstUser
    (by constructor <;> decide +kernel) (by decide +kernel) (by decide)

end VpnService.Backend
