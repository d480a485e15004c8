import VpnService.Framework.Runs
import VpnService.Backend.Frames

namespace VpnService.Backend

/-- A request with what it finds outside the stored state. -/
structure Call where
  env : Env
  request : Request

/-- The state a request leaves, whether it is answered or fails. -/
def after (cfg : Settings) (w : World) (c : Call) : World := (serve cfg c.env c.request w).2

/-- Whether the request is answered with success, its writes committed. -/
def answered (cfg : Settings) (w : World) (c : Call) : Bool :=
  (serve cfg c.env c.request w).1.isOk

def Reachable (cfg : Settings) (w : World) : Prop :=
  ∃ cs : List Call,w=cs.foldl (after cfg) .initial

theorem Reachable.initial (cfg : Settings) : Reachable cfg .initial := ⟨[],rfl⟩

theorem Reachable.after {cfg : Settings} {w : World} (h : Reachable cfg w) (c : Call) :
    Reachable cfg (after cfg w c) := by
  obtain ⟨cs,hcs⟩ := h
  exact ⟨cs++[c],by rw [List.foldl_append,← hcs]; rfl⟩

theorem Reachable.run {cfg : Settings} {w : World} (h : Reachable cfg w) (cs : List Call) :
    Reachable cfg (cs.foldl (Backend.after cfg) w) := by
  induction cs generalizing w with
  | nil => exact h
  | cons c cs ih => exact ih (h.after c)

theorem Reachable.invariant {cfg : Settings} (inv : World → Prop) (hinit : inv .initial)
    (hstep : ∀ w c,inv w → inv (Backend.after cfg w c)) {w : World} (h : Reachable cfg w) :
    inv w := by
  obtain ⟨cs,hcs⟩ := h
  have hall : Conducted (fun _ _ => True) (Backend.after cfg) World.initial cs :=
    conducted_of_all (fun _ _ => trivial) _ cs
  rw [hcs]
  exact invariant_of_conducted inv (fun v c hv _ => hstep v c hv) _ cs hinit hall

theorem flush_world {s t : Session} {x : Except AppError Unit} (h : flush s=(x,t)) :
    t.toWorld=s.toWorld := by
  cases hn : nextOutcome s with
  | mk r u =>
    have hu : u.toWorld=s.toWorld := by
      cases r with
      | ok o =>
        obtain ⟨os,hos⟩ := nextOutcome_run hn
        rw [hos]
      | error e =>
        unfold nextOutcome at hn
        cases hos : s.outcomes with
        | nil => simp [hos] at hn
        | cons o os => simp [hos] at hn
    unfold flush at h
    rw [Eff.bind_run,hn] at h
    cases r with
    | ok o =>
      by_cases ho : o=.answered
      · simp only [ho,if_true] at h
        cases h
        exact hu
      · simp only [ho,if_false] at h
        cases h
        exact hu
    | error e =>
      cases h
      exact hu

section

variable {α : Type} {m : Req α} {env : Env} {w : World}

/-- A transaction either commits all its computation wrote or rolls the database back. -/
theorem transaction_cases (m : Req α) (env : Env) (w : World) :
    (∃ a s t,m ⟨w,env⟩=(.ok a,s) ∧ flush s=(.ok (),t) ∧
      transaction m env w=(.ok a,t.toWorld)) ∨
    ∃ e s,(m ⟨w,env⟩=(.error e,s) ∨ ∃ a u,m ⟨w,env⟩=(.ok a,u) ∧ flush u=(.error e,s)) ∧
      transaction m env w=(.error e,{s.toWorld with db := w.db}) := by
  unfold transaction
  cases hm : m ⟨w,env⟩ with
  | mk r s =>
    cases r with
    | error e =>
      right
      refine ⟨e,s,Or.inl rfl,?_⟩
      rw [Eff.bind_run_error hm]
    | ok a =>
      cases hf : flush s with
      | mk r t =>
        have hrun : ∀ x : Except AppError Unit,flush s=(x,t) →
            (m >>= fun a => flush >>= fun _ => pure a : Req α) ⟨w,env⟩=
              match x with | .ok _ => (.ok a,t) | .error e => (.error e,t) := by
          intro x hx
          rw [Eff.bind_run_ok hm,Eff.bind_run,hx]
          cases x <;> rfl
        cases r with
        | ok u =>
          left
          refine ⟨a,s,t,rfl,hf,?_⟩
          rw [hrun _ hf]
        | error e =>
          right
          refine ⟨e,t,Or.inr ⟨a,s,rfl,hf⟩,?_⟩
          rw [hrun _ hf]

/-- A request either commits what its handler wrote or only leaves what cannot be rolled back. -/
theorem serve_cases (cfg : Settings) (env : Env) (r : Request) (w : World) :
    (∃ a s,handle cfg r ⟨w,env⟩=(.ok a,s) ∧ serve cfg env r w=(.ok a,s.toWorld)) ∨
      ∃ x e s,handle cfg r ⟨w,env⟩=(x,s) ∧
        serve cfg env r w=(.error e,{s.toWorld with db := w.db}) := by
  rcases transaction_cases (handle cfg r) env w with ⟨a,s,t,hm,hf,ht⟩|⟨e,s,hs,ht⟩
  · exact Or.inl ⟨a,s,hm,by rw [serve,ht,flush_world hf]⟩
  · right
    rcases hs with hm|⟨a,u,hm,hf⟩
    · exact ⟨_,e,s,hm,ht⟩
    · exact ⟨_,e,u,hm,by rw [serve,ht,flush_world hf]⟩

theorem transaction_ok {a : α} {w' : World} (h : transaction m env w=(.ok a,w')) :
    ∃ s os,m ⟨w,env⟩=(.ok a,s) ∧ w'={s with outcomes := os}.toWorld := by
  rcases transaction_cases m env w with ⟨b,s,t,hm,hf,ht⟩|⟨e,s,_,ht⟩
  · rw [h] at ht
    obtain ⟨os,hos⟩ := flush_ok hf
    cases ht
    exact ⟨s,os,hm,by rw [hos]⟩
  · rw [h] at ht
    cases ht

end

/-- An answered request whose commit is executed leaves what its handler left. -/
theorem after_calm {cfg : Settings} {w : World} {c : Call} {a : Response} {s : Session}
    (h : handle cfg c.request ⟨w,c.env⟩=(.ok a,s)) (ho : s.outcomes=[]) :
    after cfg w c=s.toWorld ∧ answered cfg w c=true := by
  have hserve : serve cfg c.env c.request w=(.ok a,s.toWorld) := by
    unfold serve transaction
    rw [Eff.bind_run_ok h,Eff.bind_run_ok (flush_calm ho)]
    rfl
  unfold after answered
  rw [hserve]
  exact ⟨rfl,rfl⟩

theorem currentUser_ok {telegramId : Int} {s t : Session} {user : User}
    (h : currentUser telegramId s=(.ok user,t)) :
    s=t ∧ s.db.userByTelegramId telegramId=some user ∧ user.status=.active := by
  unfold currentUser at h
  rw [getDb_bind_run] at h
  obtain ⟨u,hu,h⟩ := Eff.orRaise_bind_ok.mp h
  obtain ⟨hact,h⟩ := Eff.require_bind_ok.mp h
  cases h
  exact ⟨rfl,hu,hact⟩

/-- A request about a device either is turned away before it does anything or reaches the
operation with the row of the device, which the user owns. -/
theorem handleOwned_run (cfg : Settings) (telegramId : Int) (deviceId : Id) (r : DeviceRequest)
    (s : Session) : (∃ e,handleOwned cfg telegramId deviceId r s=(.error e,s)) ∨
      ∃ user device,currentUser telegramId s=(.ok user,s) ∧
        s.db.devices.get? deviceId=some device ∧ device.userId=user.id ∧
        handleOwned cfg telegramId deviceId r s=handleDevice cfg device r s := by
  unfold handleOwned
  cases hu : currentUser telegramId s with
  | mk x t =>
    have hts : t=s := ((currentUser_within (R := Frame.still) telegramId) s).still_run hu
    subst hts
    cases x with
    | error e => exact Or.inl ⟨e,Eff.bind_run_error hu⟩
    | ok user =>
      rw [Eff.bind_run_ok hu]
      unfold getOwned
      rw [Eff.bind_run]
      rw [getDb_bind_run]
      cases hd : (t.db.devices.get? deviceId).filter fun d => d.userId=user.id with
      | none => exact Or.inl ⟨_,rfl⟩
      | some device =>
        obtain ⟨hget,hown⟩ := Option.filter_eq_some_iff.mp hd
        exact Or.inr ⟨user,device,rfl,hget,by simpa using hown,rfl⟩

/-- A request for a new device either is turned away before it does anything or reaches
`provision`. -/
theorem handleCreateDevice_run (cfg : Settings) (telegramId : Int) (name : String)
    (serverId : Option Id) (protocol : VpnProtocol) (s : Session) :
    (∃ e,handleCreateDevice cfg telegramId name serverId protocol s=(.error e,s)) ∨
      ∃ user,currentUser telegramId s=(.ok user,s) ∧
        handleCreateDevice cfg telegramId name serverId protocol s=
          (provision cfg user name serverId protocol >>= fun r => pure (.provisioned r)) s := by
  unfold handleCreateDevice
  cases hu : currentUser telegramId s with
  | mk x t =>
    have hts : t=s := ((currentUser_within (R := Frame.still) telegramId) s).still_run hu
    subst hts
    cases x with
    | error e => exact Or.inl ⟨e,Eff.bind_run_error hu⟩
    | ok user =>
      right
      refine ⟨user,rfl,?_⟩
      rw [Eff.bind_run_ok hu]

/-- All calls and statements are answered. -/
def quiet (now : Time) : Env := ⟨now,[],fun _ => some [],fun _ => true⟩

def calm (now : Time) (r : Request) : Call := ⟨quiet now,r⟩

def sampleSettings : Settings where
  paymentProvider := "mock"
  paymentWebhookSecret := "secret"
  vpnDnsList := ["1.1.1.1"]
  subscriptionBaseUrl := "http://localhost:8000"
  lower s := String.ofList (s.toList.map Char.toLower)

def samplePlan : PlanCreate := ⟨"Month","month",300,"RUB",30,3,none,true⟩

def sampleServer : VpnServerCreate :=
  ⟨"node","NL",none,"node","http://agent","key","node:51820",51820,
    ⟨"10.0.0.0/29",some ⟨.v4,167772160,29⟩⟩,100⟩

/-- The mock gateway's signed message about a payment. -/
def delivery (external : Int) (status : PaymentIntentStatus) : Request :=
  .billing (.paymentWebhook (some ⟨.generated external,status⟩)
    (some (signHmac (some ⟨.generated external,status⟩) "secret")))

/-- User 1 buys plan 2 and pays for it, and gets the WireGuard device 11 on server 4. -/
def opening : List Call := [
  calm 0 (.billing (.authenticateTelegram ⟨77,none,none,none,none⟩)),
  calm 0 (.billing (.createPlan 1 samplePlan)),
  calm 0 (.servers (.createServer 1 sampleServer)),
  calm 0 (.servers (.updateServer 1 4 ⟨some .online,none,none⟩)),
  calm 0 (.billing (.createPayment 77 2 none)),
  calm 1 (delivery 9 .succeeded),
  calm 2 (.createDevice 77 "phone" none .wireguard)]

def opened : World := opening.foldl (after sampleSettings) .initial

theorem opened_reachable : Reachable sampleSettings opened := ⟨opening,rfl⟩

end VpnService.Backend
