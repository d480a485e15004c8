import VpnService.Framework.Runs
import VpnService.Backend.AgentProviders

namespace VpnService.Backend

open Agent

/-- One attempt of the backend at a request. -/
structure Transmission where
  time : Int
  attempt : Nat
  kind : AgentKind
  request : WireRequest
  deriving DecidableEq

structure Acceptance where
  time : Int
  kind : AgentKind
  request : WireRequest
  deriving DecidableEq

/-- What the backend has sent, all of it open to the network, and what the agents have accepted. -/
structure Wire where
  sent : List Transmission
  accepted : List Acceptance

inductive WireEvent
  | send (now : Int) (call : AgentCall)
  | retry (now : Int) (index : Nat)
  | deliver (now : Int) (kind : AgentKind) (r : WireRequest)

def wireStep (cfg : Signing) (s : Wire) : WireEvent → Wire
  | .send now call => {s with sent := s.sent++[⟨now,1,call.kind,call.request cfg now⟩]}
  | .retry now index => match s.sent[index]? with
    | none => s
    | some q =>
      if q.attempt<q.kind.maxAttempts then
        {s with sent := s.sent++[{q with time := now,attempt := q.attempt+1}]}
      else s
  | .deliver now kind r =>
    if verifySignedRequest (cfg.agents kind) now r=.ok () then
      {s with accepted := s.accepted++[⟨now,kind,r⟩]}
    else s

/-- What the network can do without the secrets: whatever it delivers, a digest under a secret is
one it has seen. The backend's clock counts from the epoch on. -/
def Feasible (cfg : Signing) (s : Wire) : WireEvent → Prop
  | .send now _ => 0≤now
  | .deliver _ _ r => ∀ h,r.xSignature=some (.hmac h) → (∃ kind,h.secret=(cfg.agents kind).sharedSecret) →
    ∃ q∈s.sent,q.request.xSignature=some (.hmac h)
  | .retry _ _ => True

def SameRequest (q r : WireRequest) : Prop :=
  q.method=r.method ∧ q.path=r.path ∧ q.query=r.query ∧ q.body=r.body

/-- Every accepted request is one the backend sent, and had sent no longer ago than the skew. -/
def Genuine (cfg : Signing) (s : Wire) : Prop :=
  ∀ a∈s.accepted,∃ q∈s.sent,SameRequest q.request a.request ∧
    a.time≤q.time+seconds (cfg.agents a.kind).signatureMaxSkewSeconds

/-- Where a recorded signature comes with a timestamp within the window, the network has left
method, path, query and timestamp header as they were sent with that signature. -/
def Intact (cfg : Signing) (s : Wire) : WireEvent → Prop
  | .deliver now kind r => isFresh (cfg.agents kind) now r.xTimestamp=true →
    (∃ q∈s.sent,q.request.xSignature=r.xSignature) →
    ∃ q∈s.sent,q.request.xSignature=r.xSignature ∧ q.request.method=r.method ∧
      q.request.path=r.path ∧ q.request.query=r.query ∧ q.request.xTimestamp=r.xTimestamp
  | _ => True

/-- Every transmission repeats one that was sent when it was signed. -/
def Signed (cfg : Signing) (s : Wire) : Prop :=
  ∀ q∈s.sent,∃ o∈s.sent,o.request=q.request ∧
    ∃ (n : Nat) (call : AgentCall),o.time=n ∧ o.request=call.request cfg n

section

variable {cfg : Signing} {s : Wire}

theorem request_timestamp (call : AgentCall) (n : Nat) :
    (call.request cfg n).xTimestamp=some (toString (n/1000000)) := rfl

theorem request_signature (call : AgentCall) (now : Int) : (call.request cfg now).xSignature=
    some (.hmac (sign (call.request cfg now).body (cfg.agents call.kind).sharedSecret)) := rfl

/-- A header that is fresh bounds the age of the request it was made for. -/
theorem time_of_isFresh {settings : AgentSettings} {now : Int} {n : Nat}
    (h : isFresh settings now (some (toString (n/1000000)))=true) :
    now≤n+seconds settings.signatureMaxSkewSeconds := by
  obtain ⟨timestamp,hparse,hin⟩ := (Option.any_eq_true _ _).mp h
  rw [Option.bind_some,parseInt_toString] at hparse
  by_cases hlong : (Nat.toDigits 10 (n/1000000)).length>maxStrDigits
  · rw [if_pos hlong] at hparse
    cases hparse
  · rw [if_neg hlong,Option.some.injEq] at hparse
    have hwindow := (Bool.and_eq_true _ _ ▸ hin : _ ∧ _).2
    have hle : now-seconds timestamp≤ seconds settings.signatureMaxSkewSeconds :=
      (le_abs_self _).trans (of_decide_eq_true hwindow)
    have hdiv : seconds timestamp≤n := by
      unfold seconds
      rw [← hparse]
      omega
    omega

theorem Genuine.of_sent {qs : List Transmission} (h : Genuine cfg s) :
    Genuine cfg {s with sent := s.sent++qs} := by
  intro a ha
  obtain ⟨q,hq,hsame⟩ := h a ha
  exact ⟨q,List.mem_append_left qs hq,hsame⟩

theorem Signed.of_sent {q : Transmission} (h : Signed cfg s)
    (hq : ∃ o∈s.sent++[q],o.request=q.request ∧
      ∃ (n : Nat) (call : AgentCall),o.time=n ∧ o.request=call.request cfg n) :
    Signed cfg {s with sent := s.sent++[q]} := by
  intro x hx
  rcases List.mem_append.mp hx with hold|hnew
  · obtain ⟨o,ho,horigin⟩ := h x hold
    exact ⟨o,List.mem_append_left _ ho,horigin⟩
  · rw [List.mem_singleton] at hnew
    subst hnew
    exact hq

theorem signed_step (e : WireEvent) (hs : Signed cfg s) (he : Feasible cfg s e) :
    Signed cfg (wireStep cfg s e) := by
  cases e with
  | send now call =>
    obtain ⟨n,rfl⟩ := Int.eq_ofNat_of_zero_le he
    exact hs.of_sent ⟨_,List.mem_append_right _ (List.mem_singleton.mpr rfl),rfl,n,call,rfl,rfl⟩
  | retry now index =>
    simp only [wireStep]
    cases hi : s.sent[index]? with
    | none => exact hs
    | some q =>
      by_cases hlast : q.attempt<q.kind.maxAttempts
      · simp only [hlast,if_true]
        obtain ⟨o,ho,horigin⟩ := hs q (List.mem_of_getElem? hi)
        exact hs.of_sent ⟨o,List.mem_append_left _ ho,horigin⟩
      · simpa only [hlast,if_false] using hs
  | deliver now kind r =>
    simp only [wireStep]
    split_ifs
    · exact hs
    · exact hs

/-- What is accepted is the request the signature was made for, while its timestamp is fresh. -/
theorem accepted_intact {now : Int} {kind : AgentKind} {r : WireRequest} (hs : Signed cfg s)
    (hfeasible : Feasible cfg s (.deliver now kind r)) (he : Intact cfg s (.deliver now kind r))
    (hok : verifySignedRequest (cfg.agents kind) now r=.ok ()) :
    ∃ o∈s.sent,SameRequest o.request r ∧
      now≤o.time+seconds (cfg.agents kind).signatureMaxSkewSeconds := by
  obtain ⟨hfresh,hsig⟩ := verifySignedRequest_ok.mp hok
  obtain ⟨x,hx,hxsig⟩ := hfeasible _ hsig ⟨kind,rfl⟩
  obtain ⟨q,hq,hqsig,hmethod,hpath,hquery,htime⟩ := he hfresh ⟨x,hx,hxsig.trans hsig.symm⟩
  obtain ⟨o,ho,hsame,n,call,hn,hcall⟩ := hs q hq
  have hbody : o.request.body=r.body := by
    have hsigns := hqsig.trans hsig
    rw [← hsame,hcall,request_signature] at hsigns
    have hmac := SignatureHeader.hmac.inj (Option.some.inj hsigns)
    rw [hcall]
    exact congrArg Hmac.payload hmac
  refine ⟨o,ho,⟨?_,?_,?_,hbody⟩,?_⟩
  · rw [hsame,hmethod]
  · rw [hsame,hpath]
  · rw [hsame,hquery]
  · rw [← htime,← hsame,hcall,request_timestamp] at hfresh
    rw [hn]
    exact time_of_isFresh hfresh

theorem genuine_step (e : WireEvent) (hs : Signed cfg s ∧ Genuine cfg s)
    (he : Feasible cfg s e ∧ Intact cfg s e) : Genuine cfg (wireStep cfg s e) := by
  cases e with
  | send now call => exact hs.2.of_sent
  | retry now index =>
    simp only [wireStep]
    cases s.sent[index]? with
    | none => exact hs.2
    | some q =>
      by_cases hlast : q.attempt<q.kind.maxAttempts
      · simpa only [hlast,if_true] using hs.2.of_sent
      · simpa only [hlast,if_false] using hs.2
  | deliver now kind r =>
    by_cases hok : verifySignedRequest (cfg.agents kind) now r=.ok ()
    · simp only [wireStep,hok,if_true]
      intro a ha
      rcases List.mem_append.mp ha with hold|hnew
      · exact hs.2 a hold
      · rw [List.mem_singleton] at hnew
        subst hnew
        exact accepted_intact hs.1 he.1 he.2 hok
    · simpa only [wireStep,hok,if_false] using hs.2

end

def Wire.empty : Wire := ⟨[],[]⟩

/-- Against a network that knows no secret and leaves alone what the signature does not cover, the
agents execute fresh requests of the backend only, all through a run. -/
theorem genuine_of_intact (cfg : Signing) (es : List WireEvent)
    (h : Conducted (fun s e => Feasible cfg s e ∧ Intact cfg s e) (wireStep cfg) .empty es) :
    Throughout (Genuine cfg) (wireStep cfg) .empty es := by
  apply throughout_of_conducted (fun s => Signed cfg s ∧ Genuine cfg s) (fun _ hs => hs.2)
    (fun s e hs he => ⟨signed_step e hs.1 he.1,genuine_step e hs he⟩) .empty es _ h
  constructor
  · intro q hq
    cases hq
  · intro a ha
    cases ha

/-- Settings under which the empty payload is printed as an empty object. -/
def sampleSigning : Signing :=
  ⟨fun | .vpn => ⟨"vpn",60⟩ | .xray => ⟨"xray",60⟩,fun _ => [123,125]⟩

def sampleRequest : WireRequest := (AgentCall.disablePeer "key").request sampleSigning 0

/-- The signature of a request to disable a peer, on a request to enable it an hour later. -/
def replayedRequest : WireRequest :=
  {sampleRequest with path := "/peers/enable",xTimestamp := some "3600"}

theorem feasible_recorded (now : Int) (r : WireRequest) (h : r.xSignature=sampleRequest.xSignature) :
    Conducted (Feasible sampleSigning) (wireStep sampleSigning) .empty
      [.send 0 (.disablePeer "key"),.deliver now .vpn r] := by
  refine ⟨le_rfl,fun x hx _ => ?_,trivial⟩
  exact ⟨_,List.mem_append_right _ (List.mem_singleton.mpr rfl),h.symm.trans hx⟩

/-- The recorded request is resent as it is, and once more without its signature. -/
theorem genuine_of_intact_sample :
    Throughout (Genuine sampleSigning) (wireStep sampleSigning) .empty
    [.send 0 (.disablePeer "key"),.deliver 1 .vpn sampleRequest,
      .deliver 2 .vpn {sampleRequest with path := "/peers/enable",xSignature := none}] := by
  refine genuine_of_intact sampleSigning _ ⟨⟨le_rfl,trivial⟩,⟨?_,?_⟩,⟨?_,?_⟩,trivial⟩
  · exact (feasible_recorded 1 sampleRequest rfl).2.1
  · exact fun _ _ => ⟨_,List.mem_append_right _ (List.mem_singleton.mpr rfl),rfl,rfl,rfl,rfl,rfl⟩
  · intro x hx
    cases hx
  · rintro _ ⟨q,hq,hsig⟩
    have hsigned : ∀ q∈(wireStep sampleSigning (wireStep sampleSigning .empty
        (.send 0 (.disablePeer "key"))) (.deliver 1 .vpn sampleRequest)).sent,
          q.request.xSignature≠none := by decide +kernel
    exact absurd hsig (hsigned q hq)

/-- The agent enables the peer an hour after the backend had it disabled. -/
theorem replay_accepted : ¬∀ (cfg : Signing) (es : List WireEvent),
    Conducted (Feasible cfg) (wireStep cfg) .empty es →
      Throughout (Genuine cfg) (wireStep cfg) .empty es := by
  intro h
  have hall := h sampleSigning [.send 0 (.disablePeer "key"),
    .deliver (seconds 3600) .vpn replayedRequest] (feasible_recorded _ replayedRequest rfl)
  have hlast := hall.2.2
  have haccepted : (wireStep sampleSigning (wireStep sampleSigning .empty
      (.send 0 (.disablePeer "key"))) (.deliver (seconds 3600) .vpn replayedRequest)).accepted=
        [⟨seconds 3600,.vpn,replayedRequest⟩] := by decide +kernel
  obtain ⟨q,hq,hsame,_⟩ := hlast ⟨seconds 3600,.vpn,replayedRequest⟩ (by
    rw [haccepted]
    exact List.mem_singleton.mpr rfl)
  have hpath : ∀ q∈(wireStep sampleSigning (wireStep sampleSigning .empty
      (.send 0 (.disablePeer "key"))) (.deliver (seconds 3600) .vpn replayedRequest)).sent,
        q.request.path≠replayedRequest.path := by decide +kernel
  exact hpath q hq hsame.2.1

end VpnService.Backend
