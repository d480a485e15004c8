import Mathlib.Algebra.Order.Group.Abs
import Mathlib.Algebra.Order.Ring.Int

namespace VpnService.Agent

abbrev Bytes := List UInt8

/-- The hex digest of HMAC-SHA256, taken to be injective in key and message. -/
structure Hmac where
  secret : String
  payload : Bytes
  deriving DecidableEq

def sign (payload : Bytes) (secret : String) : Hmac := ⟨secret,payload⟩

/-- An `X-Signature` header: a digest, or any other text. -/
inductive SignatureHeader
  | hmac (h : Hmac)
  | text (value : String)
  deriving DecidableEq

/-- A request as it travels to an agent. -/
structure WireRequest where
  method : String
  path : String
  query : List (String×String)
  body : Bytes
  xSignature : Option SignatureHeader
  xTimestamp : Option String
  deriving DecidableEq

/-- The whitespace `int` strips, of what a header may contain. -/
def isSpace (c : Char) : Bool := c.toNat∈[9,10,11,12,13,32,133,160]

/-- Decimal digits with single underscores between them; `start` where a digit has to come. -/
def readDigits (n : Nat) (start : Bool) : List Char → Option Nat
  | [] => if start then none else some n
  | c::cs =>
    if c.isDigit then readDigits (10*n+(c.toNat-48)) false cs
    else if c = '_' && !start then readDigits n true cs
    else none

/-- The most digits `int` reads. -/
def maxStrDigits : Nat := 4300

/-- `int(s)`. -/
def parseInt (s : String) : Option Int :=
  let stripped := ((s.toList.dropWhile isSpace).reverse.dropWhile isSpace).reverse
  if (stripped.filter Char.isDigit).length>maxStrDigits then none
  else match stripped with
    | '-'::cs => (readDigits 0 true cs).map fun n => -(n : Int)
    | '+'::cs => (readDigits 0 true cs).map fun n => (n : Int)
    | cs => (readDigits 0 true cs).map fun n => (n : Int)

/-- What both agents read of their settings; `sharedSecret` is `vpn_agent_shared_secret` or
`xray_agent_shared_secret`. -/
structure AgentSettings where
  sharedSecret : String
  signatureMaxSkewSeconds : Int

/-- The 401 responses, and the 500 of an `OverflowError` that nothing catches. -/
inductive AuthError
  | missingSignatureHeaders | invalidTimestamp | overflowError | staleRequest | invalidSignature
  deriving DecidableEq,Repr

/-- Clocks count microseconds. -/
def seconds (n : Int) : Int := n*1000000

/-- Whether an integer can be subtracted from a `float`: from halfway between the largest one and
the power above on, it is too large to be converted. -/
def isFloat (n : Int) : Bool := n.natAbs<2^1024-2^970

def verifySignedRequest (settings : AgentSettings) (now : Int) (r : WireRequest) :
    Except AuthError Unit :=
  match r.xSignature.filter fun x => x≠.text "",r.xTimestamp.filter fun x => x≠"" with
  | some signature,some header => match parseInt header with
    | none => .error .invalidTimestamp
    | some timestamp =>
      if isFloat timestamp=false then .error .overflowError
      else if abs (now-seconds timestamp)>seconds settings.signatureMaxSkewSeconds then
        .error .staleRequest
      else if signature=.hmac (sign r.body settings.sharedSecret) then .ok ()
      else .error .invalidSignature
  | _,_ => .error .missingSignatureHeaders

/-- Whether a timestamp header is within the window of the agent's clock. -/
def isFresh (settings : AgentSettings) (now : Int) (header : Option String) : Bool :=
  (header.bind parseInt).any fun timestamp => isFloat timestamp &&
    decide (abs (now-seconds timestamp)≤ seconds settings.signatureMaxSkewSeconds)

theorem parseInt_empty : parseInt ""=none := rfl

/-- What is bound by the signature is the body, and the timestamp is checked beside it. -/
theorem verifySignedRequest_ok {settings : AgentSettings} {now : Int} {r : WireRequest} :
    verifySignedRequest settings now r=.ok () ↔ isFresh settings now r.xTimestamp=true ∧
      r.xSignature=some (.hmac (sign r.body settings.sharedSecret)) := by
  unfold verifySignedRequest isFresh
  cases hsig : r.xSignature with
  | none => simp
  | some signature =>
    by_cases hempty : signature=.text ""
    · simp [Option.filter,hempty]
    · cases htime : r.xTimestamp with
      | none => simp [Option.filter,hempty]
      | some header =>
        by_cases hheader : header=""
        · simp [Option.filter,hempty,hheader,parseInt_empty]
        · cases hparse : parseInt header with
          | none => simp [Option.filter,hempty,hheader,hparse]
          | some timestamp =>
            cases hfloat : isFloat timestamp with
            | false => simp [Option.filter,hempty,hheader,hparse,hfloat]
            | true =>
              by_cases hskew : abs (now-seconds timestamp)>seconds settings.signatureMaxSkewSeconds
              · have hnot :
                    ¬abs (now-seconds timestamp)≤ seconds settings.signatureMaxSkewSeconds :=
                  not_le.mpr hskew
                simp [Option.filter,hempty,hheader,hparse,hfloat,hskew,hnot]
              · have hle := not_lt.mp hskew
                by_cases hmac : signature=.hmac (sign r.body settings.sharedSecret)
                · simp [Option.filter,hheader,hparse,hfloat,hle,hmac]
                · simp [Option.filter,hempty,hheader,hparse,hfloat,not_lt.mpr hle,hmac]

theorem readDigits_digits (n : Nat) (cs : List Char) (h : ∀ c∈cs,c.isDigit) :
    readDigits n false cs=some (Nat.ofDigitChars 10 cs n) := by
  induction cs generalizing n with
  | nil => rfl
  | cons c cs ih =>
    have hc : c.isDigit=true := h c List.mem_cons_self
    have hrest := ih (10*n+(c.toNat-48)) fun x hx => h x (List.mem_cons_of_mem c hx)
    rw [readDigits,if_pos hc,hrest]
    rfl

theorem not_isSpace_of_isDigit {c : Char} (h : c.isDigit=true) : isSpace c=false := by
  have hval : c.val≥ '0'.val ∧ c.val≤ '9'.val := by
    simpa only [Char.isDigit,Bool.and_eq_true,decide_eq_true_eq] using h
  have hlow : 48≤c.toNat := UInt32.le_iff_toNat_le.mp hval.1
  have hhigh : c.toNat≤57 := UInt32.le_iff_toNat_le.mp hval.2
  have hne : c.toNat∉[9,10,11,12,13,32,133,160] := by
    intro hmem
    simp only [List.mem_cons,List.not_mem_nil,or_false] at hmem
    omega
  simpa [isSpace] using hne

/-- What was printed is read back, unless it is too long. -/
theorem parseInt_toString (n : Nat) : parseInt (toString n)=
    if (Nat.toDigits 10 n).length>maxStrDigits then none else some (n : Int) := by
  have hlist : (toString n).toList=Nat.toDigits 10 n := by
    rw [Nat.toString_eq_repr,Nat.toList_repr]
  have hdigit : ∀ c∈Nat.toDigits 10 n,c.isDigit=true := fun c hc =>
    Nat.isDigit_of_mem_toDigits (by decide) (by decide) hc
  have hspace : ∀ c∈Nat.toDigits 10 n,isSpace c=false := fun c hc =>
    not_isSpace_of_isDigit (hdigit c hc)
  have hdrop : ∀ cs : List Char,(∀ c∈cs,isSpace c=false) → cs.dropWhile isSpace=cs := by
    intro cs hcs
    cases cs with
    | nil => rfl
    | cons c cs => simp [hcs c List.mem_cons_self]
  have hstrip : (((toString n).toList.dropWhile isSpace).reverse.dropWhile isSpace).reverse=
      Nat.toDigits 10 n := by
    rw [hlist,hdrop _ hspace,hdrop _ fun c hc => hspace c (List.mem_reverse.mp hc),
      List.reverse_reverse]
  have hall : (Nat.toDigits 10 n).filter Char.isDigit=Nat.toDigits 10 n :=
    List.filter_eq_self.mpr hdigit
  unfold parseInt
  simp only [hstrip,hall]
  by_cases hlong : (Nat.toDigits 10 n).length>maxStrDigits
  · rw [if_pos hlong,if_pos hlong]
  · rw [if_neg hlong,if_neg hlong]
    cases hcs : Nat.toDigits 10 n with
    | nil => exact absurd hcs Nat.toDigits_ne_nil
    | cons c cs =>
      rw [hcs] at hdigit
      have hc := hdigit c List.mem_cons_self
      have hread : readDigits 0 true (c::cs)=some n := by
        have hvalue : Nat.ofDigitChars 10 (c::cs) 0=n := by
          rw [← hcs]
          exact Nat.ofDigitChars_ten_toDigits
        rw [readDigits,if_pos hc,
          readDigits_digits _ _ fun x hx => hdigit x (List.mem_cons_of_mem c hx)]
        exact congrArg some hvalue
      have hminus : c≠ '-' := by
        rintro rfl
        cases hc
      have hplus : c≠ '+' := by
        rintro rfl
        cases hc
      simp [hminus,hplus,hread]

end VpnService.Agent
