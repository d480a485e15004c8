import VpnService.Backend.RoutingEngine
import VpnService.Backend.VlessFormatter

namespace VpnService.Backend

/-- Each line with the break that ends it. -/
def unlines (ls : List (List Char)) : List Char := ls.flatMap fun l => l++['\n']

/-- The lines of `_NO_PRIVATE_KEY_COMMENT`. -/
def noPrivateKeyComment : List (List Char) := [
  "# PrivateKey intentionally omitted: this service never stores WireGuard private".toList,
  "# keys (see docs/wireguard.md), so a subscription link fetched after the device was".toList,
  "# provisioned cannot include one. Use \"Reissue\" in the bot for a complete, working".toList,
  "# config with a fresh private key.".toList]

/-- `private_key_section`. -/
def privateKeySection : Option (List Char) → List (List Char)
  | some privateKey => ["PrivateKey = ".toList++privateKey]
  | none => noPrivateKeyComment

/-- `", ".join(texts)`. -/
def commaJoined (texts : List String) : List Char :=
  ", ".toList.intercalate (texts.map String.toList)

/-- What stands below the private key. -/
def wireguardLines (config : WireguardConfig) : List (List Char) := [
  "Address = ".toList++config.address.cidr.toList,
  "DNS = ".toList++commaJoined config.dns,
  [],
  "[Peer]".toList,
  "PublicKey = ".toList++config.publicKey.toList,
  "Endpoint = ".toList++config.endpoint.toList,
  "AllowedIPs = ".toList++commaJoined config.allowedIps,
  "PersistentKeepalive = 25".toList]

/-- The text of `render_wireguard_config`. -/
def wireguardText (privateKey : Option (List Char)) (config : WireguardConfig) : List Char :=
  unlines ("[Interface]".toList::privateKeySection privateKey++wireguardLines config)

/-- The text of a handed out config, where the agent's keys are known by their numbers. -/
def QrContent.text (keyText : Int → String) : QrContent → Option (List Char)
  | .config privateKey assignedIp serverPublicKey serverEndpoint allowedIps dns =>
    some (wireguardText (some (keyText privateKey).toList)
      (renderWireguardConfig assignedIp serverPublicKey serverEndpoint allowedIps dns))
  | .url _ _ => none

/-- The text of a delivered body. -/
def DeliveredBody.text (uuidText : Int → String) : DeliveredBody → List Char
  | .wireguard config => wireguardText none config
  | .vless lines => ['\n'].intercalate (lines.map fun l => (l.link uuidText).render)

def isPrivateKeyLine (line : List Char) : Bool := "PrivateKey =".toList.isPrefixOf line

/-- The first of the lines that is a private key is replaced by the comment. -/
def commentKey : List (List Char) → List (List Char)
  | [] => []
  | l::ls => if isPrivateKeyLine l then noPrivateKeyComment++ls else l::commentKey ls

/-- The text with its private key line replaced by the comment. -/
def withoutPrivateKey (text : List Char) : List Char :=
  ['\n'].intercalate (commentKey (text.splitOn '\n'))

def hasPrivateKeyLine (text : List Char) : Bool := (text.splitOn '\n').any isPrivateKeyLine

theorem splitOn_unlines {ls : List (List Char)} (h : ∀ l∈ls,'\n' ∉ l) (text : List Char) :
    (unlines ls++text).splitOn '\n'=ls++text.splitOn '\n' := by
  induction ls with
  | nil => rfl
  | cons l ls ih =>
    have hl := h l List.mem_cons_self
    have hrest := ih fun l' hl' => h l' (List.mem_cons_of_mem _ hl')
    have hsplit : unlines (l::ls)++text=l++ '\n'::(unlines ls++text) := by simp [unlines]
    rw [hsplit,List.splitOn_append_cons_self_of_not_mem hl,hrest]
    rfl

theorem intercalate_unlines (ls : List (List Char)) (text : List Char) :
    ['\n'].intercalate (ls++text.splitOn '\n')=unlines ls++text := by
  induction ls with
  | nil => exact List.intercalate_splitOn '\n'
  | cons l ls ih =>
    have hne : ls++text.splitOn '\n'≠[] := by simp [List.splitOn_ne_nil]
    obtain ⟨l',ls',hcons⟩ := List.exists_cons_of_ne_nil hne
    rw [List.cons_append,hcons,List.intercalate_cons_cons,← hcons,ih]
    simp [unlines]

/-- The config a device was handed, but for its key, is what is rendered without one. -/
theorem withoutPrivateKey_wireguardText {key : List Char} (h : '\n' ∉ key)
    (config : WireguardConfig) :
    withoutPrivateKey (wireguardText (some key) config)=wireguardText none config := by
  have hfirst : '\n' ∉ "[Interface]".toList := by decide
  have hkey : '\n' ∉ "PrivateKey = ".toList++key := by
    rw [List.mem_append]
    exact not_or.mpr ⟨by decide,h⟩
  have hlines : ∀ l∈["[Interface]".toList,"PrivateKey = ".toList++key],'\n' ∉ l := by
    simp only [List.mem_cons,List.not_mem_nil,or_false,forall_eq_or_imp,forall_eq]
    exact ⟨hfirst,hkey⟩
  have htext : wireguardText (some key) config=
      unlines ["[Interface]".toList,"PrivateKey = ".toList++key]++
        unlines (wireguardLines config) := by
    unfold wireguardText privateKeySection unlines
    simp
  have hisKey : isPrivateKeyLine ("PrivateKey = ".toList++key)=true := by
    unfold isPrivateKeyLine
    simp
  have hcomment : commentKey (["[Interface]".toList,"PrivateKey = ".toList++key]++
      (unlines (wireguardLines config)).splitOn '\n')=
      ("[Interface]".toList::noPrivateKeyComment)++(unlines (wireguardLines config)).splitOn '\n' := by
    have hnot : isPrivateKeyLine "[Interface]".toList=false := by decide
    simp only [List.cons_append,List.nil_append,commentKey,hnot,hisKey,if_true]
    rfl
  unfold withoutPrivateKey
  rw [htext,splitOn_unlines hlines,hcomment,intercalate_unlines]
  unfold wireguardText privateKeySection unlines
  simp

/-- The text is on one line. -/
def OneLine (text : String) : Prop := '\n' ∉ text.toList

instance (text : String) : Decidable (OneLine text) := inferInstanceAs (Decidable (¬_))

theorem newline_not_digit : ∀ d,Nat.digitChar d≠ '\n' := fun _ => Nat.digitChar_ne '\n' (by decide)

theorem newline_not_mem_chars (a : IpAddress) : '\n' ∉ a.chars := by
  intro h
  exact absurd (mem_chars newline_not_digit (by decide) h).2 (by decide)

theorem IpNetwork.text_oneLine (n : IpNetwork) : OneLine n.text := by
  unfold OneLine IpNetwork.text
  rw [String.toList_ofList]
  intro h
  rcases mem_joined h with h|⟨l,hl,h⟩
  · exact absurd h (by decide)
  · simp only [List.mem_cons,List.not_mem_nil,or_false] at hl
    rcases hl with hl|hl
    · exact newline_not_mem_chars n.address (hl ▸ h)
    · exact not_mem_toDigits (by decide) newline_not_digit n.prefixlen (hl ▸ h)

/-- The engine answers with the texts of networks. -/
def Env.Networks (env : Env) : Prop :=
  ∀ rules ips,env.allowedIps rules=some ips → ∀ x∈ips,∃ n : IpNetwork,n.text=x

theorem Env.Networks.of_engine {env : Env} {dns : Nat → DnsAnswers}
    (h : env.allowedIps=routingEngine dns) : env.Networks := by
  intro rules ips hips x hx
  rw [h] at hips
  obtain ⟨found,_,hfound⟩ := Option.map_eq_some_iff.mp hips
  rw [← hfound,List.mem_insertionSort] at hx
  obtain ⟨n,_,hn⟩ := List.mem_map.mp hx
  exact ⟨n,hn⟩

theorem newline_not_mem_commaJoined {texts : List String} (h : ∀ x∈texts,OneLine x) :
    '\n' ∉ commaJoined texts := by
  unfold commaJoined
  induction texts with
  | nil => simp
  | cons x xs ih =>
    have hx := h x List.mem_cons_self
    have hrest := ih fun y hy => h y (List.mem_cons_of_mem _ hy)
    cases xs with
    | nil => simpa [OneLine] using hx
    | cons y ys =>
      rw [List.map_cons,List.map_cons,List.intercalate_cons_cons,← List.map_cons]
      simp only [List.mem_append,not_or]
      exact ⟨⟨hx,by decide⟩,hrest⟩

/-- A config whose texts are on one line each is rendered without a private key line. -/
theorem wireguardText_keyless {config : WireguardConfig} (hdns : ∀ x∈config.dns,OneLine x)
    (hkey : OneLine config.publicKey) (hendpoint : OneLine config.endpoint)
    (hallowed : ∀ x∈config.allowedIps,OneLine x) :
    hasPrivateKeyLine (wireguardText none config)=false := by
  have hcomment : ∀ l∈noPrivateKeyComment,'\n' ∉ l ∧ isPrivateKeyLine l=false := by decide +kernel
  have hrest : ∀ l∈wireguardLines config,'\n' ∉ l ∧ isPrivateKeyLine l=false := by
    have hmark : ∀ {mark text : List Char},'\n' ∉ mark → '\n' ∉ text → '\n' ∉ mark++text :=
      fun hmark htext h => (List.mem_append.mp h).elim hmark htext
    intro l hl
    simp only [wireguardLines,List.mem_cons,List.not_mem_nil,or_false] at hl
    rcases hl with hl|hl|hl|hl|hl|hl|hl|hl
    · subst hl
      exact ⟨hmark (by decide) (IpNetwork.text_oneLine _),rfl⟩
    · subst hl
      exact ⟨hmark (by decide) (newline_not_mem_commaJoined hdns),rfl⟩
    · subst hl
      exact ⟨List.not_mem_nil,rfl⟩
    · subst hl
      exact ⟨by decide,rfl⟩
    · subst hl
      exact ⟨hmark (by decide) hkey,rfl⟩
    · subst hl
      exact ⟨hmark (by decide) hendpoint,rfl⟩
    · subst hl
      exact ⟨hmark (by decide) (newline_not_mem_commaJoined hallowed),rfl⟩
    · subst hl
      exact ⟨by decide,rfl⟩
  have hlines : ∀ l∈"[Interface]".toList::noPrivateKeyComment++wireguardLines config,
      '\n' ∉ l ∧ isPrivateKeyLine l=false := by
    intro l hl
    rcases List.mem_append.mp hl with hl|hl
    · rcases List.mem_cons.mp hl with hl|hl
      · subst hl
        decide
      · exact hcomment l hl
    · exact hrest l hl
  have hsplit := splitOn_unlines (fun l hl => (hlines l hl).1) []
  rw [List.append_nil] at hsplit
  unfold hasPrivateKeyLine wireguardText privateKeySection
  rw [hsplit,List.any_append,List.any_eq_false.mpr fun l hl => by simp [(hlines l hl).2]]
  rfl

theorem vlessText_keyless {uuidText : Int → String} {lines : List VlessUri}
    (h : ∀ l∈lines,OneLine (uuidText l.uuid) ∧ OneLine l.host) :
    hasPrivateKeyLine ((DeliveredBody.vless lines).text uuidText)=false := by
  have hlines : ∀ line∈lines.map (fun l => (l.link uuidText).render),
      '\n' ∉ line ∧ isPrivateKeyLine line=false := by
    intro line hline
    obtain ⟨l,hl,he⟩ := List.mem_map.mp hline
    subst he
    refine ⟨VlessLink.not_mem_render (h l hl).1 (h l hl).2,?_⟩
    rw [VlessLink.render_eq]
    rfl
  show ((['\n'].intercalate (lines.map fun l => (l.link uuidText).render)).splitOn '\n').any
    isPrivateKeyLine=false
  by_cases hnone : lines.map (fun l => (l.link uuidText).render)=[]
  · rw [hnone]
    rfl
  · rw [List.splitOn_intercalate '\n' (fun l hl => (hlines l hl).1) hnone]
    exact List.any_eq_false.mpr fun l hl => by simp [(hlines l hl).2]

end VpnService.Backend
