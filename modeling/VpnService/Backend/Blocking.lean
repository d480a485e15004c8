import VpnService.Backend.BotApi
import VpnService.Backend.Delivery
import VpnService.Backend.Errors
import VpnService.Backend.Plans

namespace VpnService.Backend

/-- No two users have one telegram id. -/
def TelegramApart (db : Database) : Prop :=
  ∀ u∈db.users.rows,∀ v∈db.users.rows,u.telegramId=v.telegramId → u=v

theorem TelegramApart.found {db : Database} (h : TelegramApart db) {user : User}
    (hu : user∈db.users.rows) : db.userByTelegramId user.telegramId=some user := by
  cases hfind : db.userByTelegramId user.telegramId with
  | none =>
    have hno := List.find?_eq_none.mp hfind user hu
    simp at hno
  | some v =>
    have hv : v∈db.users.rows := List.mem_of_find?_eq_some hfind
    have hsame : v.telegramId=user.telegramId := by simpa using List.find?_some hfind
    rw [h v hv user hu hsame]

def usersView (s : Session) : Store User.id := s.db.users

def apartFrame : Frame Session := Frame.preserving fun s => TelegramApart s.db

section

variable {cfg : Settings} {s t : Session}

theorem apart_of_users (h : t.db.users=s.db.users) : apartFrame.rel s t := by
  intro hs
  show ∀ u∈t.db.users.rows,∀ v∈t.db.users.rows,u.telegramId=v.telegramId → u=v
  rw [h]
  exact hs

theorem apart_books : Bookkeeping apartFrame := ⟨fun _ h => h,fun _ _ h => h⟩

theorem apart_of_billing (h : billingFrame.rel s t) : apartFrame.rel s t := by
  have hview := h.1
  simp only [billingView,Database.billing,Prod.mk.injEq] at hview
  exact apart_of_users hview.1

theorem alter_apart {f : Database → Database}
    (h : ∀ s : Session,usersView {s with db := f s.db}=usersView s) :
    Within apartFrame (alter f) := fun s => apart_of_users (h s)

theorem updateUser_apart (k : Id) {f : User → User} (hf : ∀ u,(f u).id=u.id)
    (ht : ∀ u,(f u).telegramId=u.telegramId) : Within apartFrame (updateUser k f hf) := by
  intro s hs
  show ∀ u∈(s.db.users.modify k f hf).rows,∀ v∈(s.db.users.modify k f hf).rows,
    u.telegramId=v.telegramId → u=v
  intro u hu v hv huv
  rcases (Store.mem_modify hf).mp hu with ⟨x,hx,hxk,rfl⟩|⟨hu,huk⟩
  · rcases (Store.mem_modify hf).mp hv with ⟨y,hy,_,rfl⟩|⟨hv,hvk⟩
    · rw [ht,ht] at huv
      rw [hs x hx y hy huv]
    · rw [ht] at huv
      have hxv := hs x hx v hv huv
      exact absurd (hxv ▸ hxk) hvk
  · rcases (Store.mem_modify hf).mp hv with ⟨y,hy,hyk,rfl⟩|⟨hv,_⟩
    · rw [ht] at huv
      have huy := hs u hu y hy huv
      exact absurd (huy ▸ hyk) huk
    · exact hs u hu v hv huv

/-- A user is added only under a telegram id that nobody has. -/
theorem getOrCreateFromTelegram_apart (payload : TelegramAuthRequest) :
    Within apartFrame (getOrCreateFromTelegram payload) := by
  intro s
  show apartFrame.rel s (getOrCreateFromTelegram payload s).2
  unfold getOrCreateFromTelegram
  rw [getDb_bind_run]
  cases hfind : s.db.userByTelegramId payload.telegramId with
  | some user =>
    let f : User → User := fun u => {u with
      username := payload.username
      firstName := payload.firstName
      lastName := payload.lastName
      languageCode := payload.languageCode}
    exact updateUser_apart user.id (f := f) (fun _ => rfl) (fun _ => rfl) s
  | none =>
    simp only [nextSerial_bind_run,alter_bind_run]
    refine apartFrame.trans ?_ (flush_within apart_books _)
    have hnew : ∀ u∈s.db.users.rows,u.telegramId≠payload.telegramId := by
      intro u hu
      simpa using List.find?_eq_none.mp hfind u hu
    intro hs u hu v hv huv
    rcases Store.mem_of_insert hu with hu|rfl
    · rcases Store.mem_of_insert hv with hv|rfl
      · exact hs u hu v hv huv
      · exact absurd huv (hnew u hu)
    · rcases Store.mem_of_insert hv with hv|rfl
      · exact absurd huv.symm (hnew v hv)
      · rfl

theorem apart_of_audit (h : auditFrame.rel s t) : apartFrame.rel s t :=
  apart_of_billing (billing_of_core (core_of_audit h))

theorem updateUserStatus_apart (adminId userId : Id) (status : UserStatus) :
    Within apartFrame (updateUserStatus adminId userId status) := by
  have hset : ∀ k,Within apartFrame (updateUser k (fun u => {u with status := status}) fun _ => rfl) :=
    fun k => updateUser_apart k _ fun _ => rfl
  exact getDb_within.bind fun _ => (Within.orRaise _ _).bind fun user => (hset user.id).bind
    fun _ => (audit_written _ _ _ _ _).mono apart_of_audit

theorem handleBilling_apart (cfg : Settings) (r : BillingRequest) :
    Within apartFrame (handleBilling cfg r) := by
  have hsales : ∀ (f : Store Subscription.id → Store Subscription.id)
      (g : Store Payment.id → Store Payment.id),Within apartFrame (alter fun db => {db with
        subscriptions := f db.subscriptions
        payments := g db.payments}) := fun _ _ => alter_apart fun _ => rfl
  have hpromos : ∀ (f : Store PromoCode.id → Store PromoCode.id)
      (g : Store PromoCodeRedemption.id → Store PromoCodeRedemption.id),
      Within apartFrame (alter fun db => {db with
        promoCodes := f db.promoCodes
        promoCodeRedemptions := g db.promoCodeRedemptions}) :=
    fun _ _ => alter_apart fun _ => rfl
  have hplans : ∀ f : Store Plan.id → Store Plan.id,
      Within apartFrame (alter fun db => {db with plans := f db.plans}) :=
    fun _ => alter_apart fun _ => rfl
  exact handleBilling_within apart_books hsales apart_of_audit cfg
    (fun payload _ => getOrCreateFromTelegram_apart payload)
    (fun _ _ status _ => updateUserStatus_apart _ _ status)
    (fun _ payload _ => createPlan_within apart_books hplans payload)
    (fun _ _ payload _ => updatePlan_within apart_books hplans _ payload)
    (fun rawBody _ _ => handleWebhook_within apart_books hsales hpromos cfg rawBody _)
    (fun code _ _ _ _ _ _ _ => addPromoCode_within apart_books hpromos code _ _ _ _ _ _)

theorem reachable_apart {w : World} (h : Reachable cfg w) : TelegramApart w.db := by
  have hboth : Sound w ∧ TelegramApart w.db := by
    refine h.invariant (fun w => Sound w ∧ TelegramApart w.db)
      ⟨sound_initial,fun u hu => by cases hu⟩ fun w c hw => ⟨after_sound hw.1,?_⟩
    have hwithin : WithinAt apartFrame (handle cfg c.request) ⟨w,c.env⟩ :=
      handle_withinAt apart_of_billing cfg (fun _ _ _ => alter_apart fun _ => rfl) hw.1
        fun b _ => handleBilling_apart cfg b _
    unfold after
    rcases serve_cases cfg c.env c.request w with ⟨a,s,hm,hserve⟩|⟨x,e,s,_,hserve⟩
    · rw [hserve]
      exact hwithin.rel_of_run hm hw.2
    · rw [hserve]
      exact hw.2
  exact hboth.2

end

/-- The answer of `require_active_user` about a blocked user. -/
def userBlocked : AppError := ⟨.permissionDenied,"user_blocked","User is blocked"⟩

/-- The user's requests are refused, and no token ever given to a device of the user opens
anything. -/
structure ShutOut (cfg : Settings) (w : World) (k : Tokens) (env : Env) (user : User) : Prop where
  requests : ∀ r,serveBot cfg env user.telegramId r w=(.error userBlocked,w)
  links : ∀ device∈w.db.devices.rows,device.userId=user.id → ∀ token∈k.issued device.id,
    ∀ formatHint,transaction (deliverBody token formatHint) env w=(.error deliveryNotFound,w)

theorem serveBot_blocked {cfg : Settings} {w : World} {user : User} (env : Env) (r : BotRequest)
    (hfound : w.db.userByTelegramId user.telegramId=some user) (hblocked : user.status=.blocked) :
    serveBot cfg env user.telegramId r w=(.error userBlocked,w) := by
  have hcurrent : currentUser user.telegramId ⟨w,env⟩=(.error userBlocked,⟨w,env⟩) := by
    unfold currentUser
    rw [getDb_bind_run,hfound]
    simp [Eff.require,hblocked,userBlocked]
  have hbot : handleBot cfg user.telegramId r ⟨w,env⟩=(.error userBlocked,⟨w,env⟩) :=
    Eff.bind_run_error hcurrent
  unfold serveBot transaction
  rw [Eff.bind_run_error hbot]

theorem recorded_reachable (cfg : Settings) (cs : List Call) :
    Reachable cfg (recorded cfg cs).1 := by
  have hworld : ∀ (cs : List Call) (x : World×Tokens),
      (cs.foldl (recording cfg) x).1=cs.foldl (after cfg) x.1 := by
    intro cs
    induction cs with
    | nil => exact fun _ => rfl
    | cons c cs ih => exact fun x => ih _
  exact ⟨cs,hworld cs _⟩

/-- A link that delivers is not refused, however its answer is committed. -/
theorem Deliverable.not_refused {cfg : Settings} {w : World} {env : Env} {token : Secret}
    {device : Device} (hw : Reachable cfg w) (h : Deliverable w.db env.now token device)
    (formatHint : Option String) :
    transaction (deliverBody token formatHint) env w≠(.error deliveryNotFound,w) := by
  intro hrefused
  obtain ⟨body,s,hbody,_⟩ := h.delivers hw formatHint
  rcases transaction_cases (deliverBody token formatHint) env w with
    ⟨a,u,v,hm,hf,ht⟩|⟨e,u,hu,ht⟩
  · rw [hrefused] at ht
    cases ht
  · rw [hrefused] at ht
    have he : deliveryNotFound=e := by
      injection ht with he
      injection he
    subst he
    cases hu with
    | inl hm =>
      rw [hbody] at hm
      cases hm
    | inr hf =>
      obtain ⟨_,v,_,hf⟩ := hf
      have hflush : Raises (fun e => e≠deliveryNotFound) flush :=
        nextOutcome_raises.bind fun _ => Raises.ite (Raises.pure ()) (Raises.raise (by decide))
      exact hflush v deliveryNotFound u hf rfl

/-- A blocked user is shut out in every state but those in which a link of the user still
delivers: the delivery looks at the subscription and the device, never at the user's status. -/
theorem shutOut_iff (cfg : Settings) (cs : List Call) (env : Env) (user : User)
    (hrow : user∈(recorded cfg cs).1.db.users.rows) (hblocked : user.status=.blocked) :
    ShutOut cfg (recorded cfg cs).1 (recorded cfg cs).2 env user ↔
      ∀ device,device.userId=user.id → ∀ token,
        ¬Deliverable (recorded cfg cs).1.db env.now token device := by
  have hw := recorded_reachable cfg cs
  have hcustody := (recorded_custody cfg cs).2
  have hissued : ∀ device token,Deliverable (recorded cfg cs).1.db env.now token device →
      token∈(recorded cfg cs).2.issued device.id := by
    intro device token h
    obtain ⟨l,hl,hhash,_,hd⟩ := h.link
    have hhead := List.mem_of_head? (hcustody.rows l hl).2.2.1
    rw [hhash,hd] at hhead
    exact hhead
  constructor
  · intro h device huser token hdeliver
    exact hdeliver.not_refused hw none
      (h.links device (Store.mem_of_get? hdeliver.row) huser token (hissued _ _ hdeliver) none)
  · intro h
    refine ⟨fun r => serveBot_blocked env r ((reachable_apart hw).found hrow) hblocked,?_⟩
    intro device hd huser token htoken formatHint
    refine transaction_undeliverable hw formatHint ?_
    rintro ⟨other,hother⟩
    have hsame : other.id=device.id :=
      hcustody.apart _ _ token (hissued _ _ hother) htoken
    have hget := (recorded cfg cs).1.db.devices.get?_of_mem hd
    have hrow := hother.row
    rw [hsame,hget] at hrow
    cases hrow
    exact h device huser token hother

def blockedUser : User := ⟨1,77,none,none,none,none,.blocked⟩

def blocking : List Call := opening++[calm 3 (.billing (.updateUserStatus 1 1 .blocked))]

theorem shutOut_iff_blocking :
    ShutOut sampleSettings (recorded sampleSettings blocking).1
        (recorded sampleSettings blocking).2 (quiet 4) blockedUser ↔
      ∀ device,device.userId=1 → ∀ token,
        ¬Deliverable (recorded sampleSettings blocking).1.db 4 token device :=
  shutOut_iff sampleSettings blocking (quiet 4) blockedUser (by decide +kernel) rfl

/-- The blocked user of `opened` still gets the config through the link. -/
theorem not_shutOut_blocking : blockedUser∈(recorded sampleSettings blocking).1.db.users.rows ∧
    blockedUser.status=.blocked ∧ ¬ShutOut sampleSettings (recorded sampleSettings blocking).1
      (recorded sampleSettings blocking).2 (quiet 4) blockedUser := by
  refine ⟨by decide +kernel,rfl,fun h => ?_⟩
  have hdevice : ∃ device∈(recorded sampleSettings blocking).1.db.devices.rows,
      device.id=11 ∧ device.userId=blockedUser.id := by decide +kernel
  obtain ⟨device,hd,hid,huser⟩ := hdevice
  have htoken : .generated 12∈(recorded sampleSettings blocking).2.issued 11 := by decide +kernel
  have hrefused := h.links device hd huser (.generated 12) (hid ▸ htoken) none
  have hok : (transaction (deliverBody (.generated 12) none) (quiet 4)
      (recorded sampleSettings blocking).1).1.isOk=true := by decide +kernel
  rw [hrefused] at hok
  cases hok

end VpnService.Backend
