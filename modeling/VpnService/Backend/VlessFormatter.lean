import VpnService.Framework.Fields
import VpnService.Framework.PercentEncoding
import VpnService.Backend.SubscriptionDeliveryService

namespace VpnService.Backend

/-- What `render_vless_uri` is called with. -/
structure VlessLink where
  uuid : String
  host : String
  port : Nat
  sni : String
  realityPublicKey : String
  fingerprint : String
  flow : String
  networkType : String
  name : String
  deriving DecidableEq

namespace VlessLink

/-- The parts of the query between its ampersands. -/
def queryFields (l : VlessLink) : List (List Char) := [
  "encryption=none".toList,
  "security=reality".toList,
  "sni=".toList++quote l.sni,
  "pbk=".toList++quote l.realityPublicKey,
  "fp=".toList++quote l.fingerprint,
  "type=".toList++quote l.networkType,
  "flow=".toList++quote l.flow]

def query (l : VlessLink) : List Char := ['&'].intercalate l.queryFields

/-- `render_vless_uri`. -/
def render (l : VlessLink) : List Char :=
  "vless://".toList++l.uuid.toList++ '@'::l.host.toList++ ':'::Nat.toDigits 10 l.port
    ++ '?'::l.query++ '#'::quote l.name

/-- Neither the uuid nor the host has a delimiter or a line break. -/
def Plain (l : VlessLink) : Prop :=
  ∀ c∈['@',':','/','?','#','[',']','\n'],c∉l.uuid.toList ∧ c∉l.host.toList

end VlessLink

/-- A line for each link, as UTF-8. -/
def renderVlessBody (links : List VlessLink) : ByteArray :=
  (String.ofList (['\n'].intercalate (links.map VlessLink.render))).toByteArray

/-- The link of a line of the delivery service, which knows the uuids by their numbers. -/
def VlessUri.link (uuidText : Int → String) (u : VlessUri) : VlessLink :=
  ⟨uuidText u.uuid,u.host,u.port.toNat,u.sni,u.realityPublicKey,u.fingerprint,u.flow,u.networkType,
    u.name⟩

/-- `VLESSFormatter.render`. -/
def vlessBody (uuidText : Int → String) (device : Device)
    (items : List (VlessCredential×VpnServer×VlessServerConfig)) : ByteArray :=
  renderVlessBody (items.map fun item => (renderVlessUri device item).link uuidText)

/-- The lines of a body; an empty one has none. -/
def bodyLines (text : String) : List (List Char) :=
  if text="" then [] else text.toList.splitOn '\n'

/-- What a client reads in a line. -/
structure ParsedLink where
  uuid : String
  host : String
  port : Nat
  query : List (String×String)
  fragment : String
  deriving DecidableEq

def parsePair (s : List Char) : Option (String×String) := do
  let (key,value) ← splitFirst '=' s
  let value ← unquote value
  some (String.ofList key,value)

/-- The grammar `vless://uuid@host:port?k=v&...#fragment`. -/
def parseLink (line : List Char) : Option ParsedLink :=
  if line.take 8="vless://".toList then do
    let (main,fragment) ← splitFirst '#' (line.drop 8)
    let (authority,query) ← splitFirst '?' main
    let (uuid,address) ← splitFirst '@' authority
    let (host,port) ← splitFirst ':' address
    let port ← readNumeral port
    let query ← (query.splitOn '&').mapM parsePair
    let fragment ← unquote fragment
    some ⟨String.ofList uuid,String.ofList host,port,query,fragment⟩
  else none

/-- What the line of a link says. -/
def VlessLink.parsed (l : VlessLink) : ParsedLink where
  uuid := l.uuid
  host := l.host
  port := l.port
  query := [("encryption","none"),("security","reality"),("sni",l.sni),
    ("pbk",l.realityPublicKey),("fp",l.fingerprint),("type",l.networkType),("flow",l.flow)]
  fragment := l.name

theorem parsePair_quote (key text : String) (htext : text.toList=key.toList++['='])
    (h : '=' ∉ key.toList) (value : String) :
    parsePair (text.toList++quote value)=some (key,value) := by
  have hsplit : splitFirst '=' (text.toList++quote value)=some (key.toList,quote value) := by
    rw [htext,List.append_assoc]
    exact splitFirst_append h _
  unfold parsePair
  rw [hsplit]
  show (unquote (quote value) >>= fun v => some (String.ofList key.toList,v))=_
  rw [unquote_quote,String.ofList_toList]
  rfl

namespace VlessLink

variable {l : VlessLink}

theorem queryFields_parsed (l : VlessLink) :
    l.queryFields.mapM parsePair=some l.parsed.query := by
  have hencryption : parsePair "encryption=none".toList=some ("encryption","none") := by
    decide +kernel
  have hsecurity : parsePair "security=reality".toList=some ("security","reality") := by
    decide +kernel
  have hsni := parsePair_quote "sni" "sni=" (by decide) (by decide) l.sni
  have hpbk := parsePair_quote "pbk" "pbk=" (by decide) (by decide)
    l.realityPublicKey
  have hfp := parsePair_quote "fp" "fp=" (by decide) (by decide) l.fingerprint
  have htype := parsePair_quote "type" "type=" (by decide) (by decide)
    l.networkType
  have hflow := parsePair_quote "flow" "flow=" (by decide) (by decide) l.flow
  unfold queryFields
  simp only [List.mapM_cons,List.mapM_nil]
  rw [hencryption,hsecurity,hsni,hpbk,hfp,htype,hflow]
  rfl

/-- No field shows a delimiter of a higher level. -/
theorem not_mem_queryFields {c : Char} (hplain : isUnreserved c=false) (hpercent : c≠ '%')
    (hequals : c≠ '=') : ∀ f∈l.queryFields,c∉f := by
  have hkey : ∀ key : String,key.toList.all (fun d => isUnreserved d || d= '=')=true →
      c∉key.toList := by
    intro key hall hc
    have hd := List.all_eq_true.mp hall c hc
    rw [hplain,Bool.false_or,decide_eq_true_eq] at hd
    exact hequals hd
  have hfield : ∀ (key : String) (value : String),
      key.toList.all (fun d => isUnreserved d || d= '=')=true → c∉key.toList++quote value := by
    intro key value hall hc
    rcases List.mem_append.mp hc with hc|hc
    · exact hkey key hall hc
    · exact not_mem_quote hplain hpercent hc
  unfold queryFields
  simp only [List.forall_mem_cons]
  exact ⟨hkey _ (by decide),hkey _ (by decide),hfield _ _ (by decide),hfield _ _ (by decide),
    hfield _ _ (by decide),hfield _ _ (by decide),hfield _ _ (by decide),nofun⟩

theorem not_mem_query {c : Char} (hplain : isUnreserved c=false) (hpercent : c≠ '%')
    (hequals : c≠ '=') (hampersand : c≠ '&') : c∉l.query := by
  intro hc
  rcases mem_joined hc with he|⟨f,hf,hin⟩
  · exact hampersand he
  · exact not_mem_queryFields hplain hpercent hequals f hf hin

theorem splitOn_query (l : VlessLink) : l.query.splitOn '&'=l.queryFields :=
  List.splitOn_intercalate '&' (not_mem_queryFields (by decide) (by decide) (by decide))
    (List.cons_ne_nil _ _)

theorem render_eq (l : VlessLink) : l.render="vless://".toList++((l.uuid.toList++ '@'
    ::(l.host.toList++ ':'::Nat.toDigits 10 l.port)++ '?'::l.query)++ '#'::quote l.name) := by
  unfold render
  simp only [List.append_assoc,List.cons_append]

theorem not_mem_port {c : Char} (h : c.isDigit=false) : c∉Nat.toDigits 10 l.port := by
  intro hc
  have hdigit := Nat.isDigit_of_mem_toDigits (by decide) (by decide) hc
  rw [h] at hdigit
  cases hdigit

/-- A rendered line reads as what it was made of. -/
theorem parseLink_render (h : l.Plain) : parseLink l.render=some l.parsed := by
  have hcolon : ':' ∉ l.host.toList := (h ':' (by decide)).2
  have hat : '@' ∉ l.uuid.toList := (h '@' (by decide)).1
  have haddress : ∀ c,isUnreserved c=false → c≠ ':' → c∉l.host.toList →
      c∉l.host.toList++ ':'::Nat.toDigits 10 l.port := by
    intro c hplain hne hhost hc
    have hdigit : c.isDigit=false := by
      unfold isUnreserved at hplain
      simp only [Char.isAlphanum,Bool.or_eq_false_iff] at hplain
      exact hplain.1.2
    rcases List.mem_append.mp hc with hc|hc
    · exact hhost hc
    · rcases List.mem_cons.mp hc with hc|hc
      · exact hne hc
      · exact not_mem_port hdigit hc
  have hauthority : ∀ c,isUnreserved c=false → c≠ ':' → c≠ '@' → c∉l.uuid.toList →
      c∉l.host.toList → c∉l.uuid.toList++ '@'::(l.host.toList++ ':'::Nat.toDigits 10 l.port) := by
    intro c hplain hne hat huuid hhost hc
    rcases List.mem_append.mp hc with hc|hc
    · exact huuid hc
    · rcases List.mem_cons.mp hc with hc|hc
      · exact hat hc
      · exact haddress c hplain hne hhost hc
  have hquestion := hauthority '?' (by decide) (by decide) (by decide) (h '?' (by decide)).1
    (h '?' (by decide)).2
  have hhash : '#' ∉ l.uuid.toList++ '@'::(l.host.toList++ ':'::Nat.toDigits 10 l.port)++
      '?'::l.query := by
    intro hc
    rcases List.mem_append.mp hc with hc|hc
    · exact hauthority '#' (by decide) (by decide) (by decide) (h '#' (by decide)).1
        (h '#' (by decide)).2 hc
    · rcases List.mem_cons.mp hc with hc|hc
      · exact absurd hc (by decide)
      · exact not_mem_query (by decide) (by decide) (by decide) (by decide) hc
  have htake : l.render.take 8="vless://".toList := by
    rw [render_eq]
    exact List.take_left' (by decide)
  have hdrop : l.render.drop 8=(l.uuid.toList++ '@'::(l.host.toList++ ':'::Nat.toDigits 10 l.port)
      ++ '?'::l.query)++ '#'::quote l.name := by
    rw [render_eq]
    exact List.drop_left' (by decide)
  unfold parseLink
  rw [if_pos htake,hdrop,splitFirst_append hhash]
  simp only [Option.bind_eq_bind,Option.bind_some]
  rw [splitFirst_append hquestion]
  simp only [Option.bind_some]
  rw [splitFirst_append hat]
  simp only [Option.bind_some]
  rw [splitFirst_append hcolon]
  simp only [Option.bind_some]
  rw [readNumeral_toDigits,splitOn_query,queryFields_parsed,unquote_quote]
  simp only [Option.bind_some,String.ofList_toList]
  rfl

theorem not_mem_render (huuid : '\n' ∉ l.uuid.toList) (hhost : '\n' ∉ l.host.toList) :
    '\n' ∉ l.render := by
  have hquery : '\n' ∉ l.query := not_mem_query (by decide) (by decide) (by decide) (by decide)
  have hname : '\n' ∉ quote l.name := not_mem_quote (by decide) (by decide)
  have hport : '\n' ∉ Nat.toDigits 10 l.port := not_mem_port (by decide)
  unfold render
  simp [huuid,hhost,hquery,hname,hport]

end VlessLink

theorem mapM_map_some {α β γ : Type} {f : β → Option γ} {g : α → β} {k : α → γ} {xs : List α}
    (h : ∀ x∈xs,f (g x)=some (k x)) : (xs.map g).mapM f=some (xs.map k) := by
  induction xs with
  | nil => rfl
  | cons x xs ih =>
    rw [List.map_cons,List.mapM_cons,h x List.mem_cons_self,
      ih fun y hy => h y (List.mem_cons_of_mem x hy)]
    rfl

/-- The links of a body are its lines, in order, and each line says what went into it. -/
theorem renderVlessBody_parses (links : List VlessLink) (h : ∀ l∈links,l.Plain) :
    ∃ text,String.fromUTF8? (renderVlessBody links)=some text ∧
      bodyLines text=links.map VlessLink.render ∧
      (bodyLines text).mapM parseLink=some (links.map VlessLink.parsed) := by
  have hlines : bodyLines (String.ofList (['\n'].intercalate (links.map VlessLink.render)))=
      links.map VlessLink.render := by
    unfold bodyLines
    cases links with
    | nil => rfl
    | cons l ls =>
      have hplain : ∀ line∈(l::ls).map VlessLink.render,'\n' ∉ line := by
        intro line hline
        obtain ⟨k,hk,rfl⟩ := List.mem_map.mp hline
        obtain ⟨huuid,hhost⟩ := h k hk '\n' (by decide)
        exact VlessLink.not_mem_render huuid hhost
      have hsplit := List.splitOn_intercalate '\n' hplain (List.cons_ne_nil _ _)
      have hne : String.ofList (['\n'].intercalate ((l::ls).map VlessLink.render))≠"" := by
        intro he
        have hempty : ['\n'].intercalate ((l::ls).map VlessLink.render)=[] := by
          simpa using congrArg String.toList he
        rw [hempty] at hsplit
        have hfirst : l.render=[] := (List.cons.inj hsplit).1.symm
        rw [VlessLink.render_eq] at hfirst
        exact absurd (List.append_eq_nil_iff.mp hfirst).1 (by decide)
      rw [if_neg hne,String.toList_ofList,hsplit]
  refine ⟨_,fromUTF8?_toByteArray _,hlines,?_⟩
  rw [hlines]
  exact mapM_map_some fun l hl => VlessLink.parseLink_render (h l hl)

/-- The body of a device has a line for each credential, in order, and each line reads as the
credential's uuid, its server's host, its configuration and the device's name. -/
theorem vlessBody_parses (uuidText : Int → String) (device : Device)
    (items : List (VlessCredential×VpnServer×VlessServerConfig))
    (hplain : ∀ i∈items,∀ c∈['@',':','/','?','#','[',']','\n'],
      c∉(uuidText i.1.uuid).toList ∧ c∉i.2.1.hostname.toList)
    (hport : ∀ i∈items,0≤ i.2.2.port) :
    ∃ text,String.fromUTF8? (vlessBody uuidText device items)=some text ∧
      (bodyLines text).length=items.length ∧ ∃ parsed,(bodyLines text).mapM parseLink=some parsed ∧
      parsed.map (fun p => (p.uuid,p.host,(p.port : Int),p.query,p.fragment))=items.map fun i =>
        (uuidText i.1.uuid,i.2.1.hostname,i.2.2.port,[("encryption","none"),
          ("security","reality"),("sni",i.2.2.sni),("pbk",i.2.2.realityPublicKey),
          ("fp",i.2.2.fingerprint),("type",i.2.2.networkType),("flow",i.2.2.flow)],device.name) := by
  have hlinks : ∀ l∈items.map (fun item => (renderVlessUri device item).link uuidText),l.Plain := by
    intro l hl
    obtain ⟨i,hi,rfl⟩ := List.mem_map.mp hl
    exact hplain i hi
  obtain ⟨text,htext,hlines,hparsed⟩ := renderVlessBody_parses _ hlinks
  refine ⟨text,htext,?_,_,hparsed,?_⟩
  · rw [hlines,List.length_map,List.length_map]
  · rw [List.map_map,List.map_map]
    apply List.map_congr_left
    intro i hi
    have hnat : ((i.2.2.port.toNat : Nat) : Int)=i.2.2.port := Int.toNat_of_nonneg (hport i hi)
    exact congrArg (fun port : Int => (uuidText i.1.uuid,i.2.1.hostname,port,_,device.name)) hnat

/-- A name with a line break, delimiters of every level and characters beyond ASCII. -/
def trickyDevice : Device :=
  ⟨11,1,"My Phone #1\n& Co = 100% \u00e9",none,none,some 4,.active,none,.vless⟩

def trickyItem : VlessCredential×VpnServer×VlessServerConfig :=
  (⟨12,11,4,13,.active,none,none⟩,
    ⟨4,"node","NL",none,"node.example","","","",443,⟨"0.0.0.0/32",none⟩,.online,100,0,.vless⟩,
    ⟨5,4,"http://xray",443,"a/b+c=",[""],"sni?&","chrome","vision","tcp"⟩)

theorem vlessBody_parses_tricky : ∃ text parsed,
    String.fromUTF8? (vlessBody (fun _ => "66ad4540-b58c") trickyDevice [trickyItem,trickyItem])=
      some text ∧ (bodyLines text).mapM parseLink=some parsed ∧
    parsed.map (fun p => (p.uuid,p.host,(p.port : Int),p.query,p.fragment))=
      List.replicate 2 ("66ad4540-b58c","node.example",443,[("encryption","none"),
        ("security","reality"),("sni","sni?&"),("pbk","a/b+c="),("fp","chrome"),("type","tcp"),
        ("flow","vision")],"My Phone #1\n& Co = 100% \u00e9") := by
  have hplain : ∀ i∈[trickyItem,trickyItem],∀ c∈['@',':','/','?','#','[',']','\n'],
      c∉"66ad4540-b58c".toList ∧ c∉i.2.1.hostname.toList := by
    intro i hi
    have hit : i=trickyItem := by simpa using hi
    rw [hit]
    exact forall_mem_of_all (by decide)
  obtain ⟨text,htext,_,parsed,hparsed,hread⟩ := vlessBody_parses (fun _ => "66ad4540-b58c")
    trickyDevice [trickyItem,trickyItem] hplain (by decide)
  exact ⟨text,parsed,htext,hparsed,hread⟩

end VpnService.Backend
