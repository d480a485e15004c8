import VpnService.Framework.Fields
import VpnService.Framework.Text
import VpnService.Agent.Auth

namespace VpnService.Agent

/-- What `wg show < iface> dump` says of a peer. -/
structure PeerStats where
  publicKey : List Char
  endpoint : Option (List Char)
  allowedIps : List (List Char)
  latestHandshake : Option Int
  rxBytes : Nat
  txBytes : Nat
  deriving DecidableEq

/-- The last second of the year 9999. -/
def maxTimestamp : Nat := 253402300799

/-- `datetime.fromtimestamp(epoch, tz=UTC)`; a later year raises. -/
def fromTimestamp (epoch : Nat) : Option Int :=
  if epoch≤ maxTimestamp then some (seconds epoch) else none

/-- `int(s) if s.isdigit() else 0`, of ASCII digits; `int` raises on too many of them. -/
def readCounter (s : List Char) : Option Nat := match readNumeral s with
  | some n => if s.length>maxStrDigits then none else some n
  | none => some 0

/-- No handshake yet is said by 0. -/
def readHandshake (handshakeEpoch : Nat) : Option (Option Int) :=
  if handshakeEpoch>0 then (fromTimestamp handshakeEpoch).map some else some none

def absent : List Char := "(none)".toList

/-- The peer of a line, if it has all its fields; `none` if reading it raises. -/
def parsePeer (line : List Char) : Option (Option PeerStats) := match line.splitOn '\t' with
  | publicKey::_::endpoint::allowedIpsRaw::latestHs::rx::tx::_::_ => do
    let latestHandshake ← (readCounter latestHs).bind readHandshake
    let rxBytes ← readCounter rx
    let txBytes ← readCounter tx
    some (some {
      publicKey := publicKey
      endpoint := if endpoint=absent then none else some endpoint
      allowedIps := (allowedIpsRaw.splitOn ',').filter fun a => a≠[] ∧ a≠absent
      latestHandshake := latestHandshake
      rxBytes := rxBytes
      txBytes := txBytes })
  | _ => some none

/-- `parse_wg_dump`; `none` if it raises. -/
def parseWgDump (raw : List Char) : Option (List PeerStats) :=
  let lines := (splitLines (strip raw)).filter fun line => strip line≠[]
  ((lines.drop 1).mapM parsePeer).map fun peers => peers.filterMap id

/-- A character that ends neither its field nor its line. -/
def Inner (c : Char) : Prop := c≠ '\t' ∧ isLineBreak c=false

instance (c : Char) : Decidable (Inner c) := inferInstanceAs (Decidable (_ ∧ _))

abbrev Field := {s : List Char // ∀ c∈s,Inner c}

/-- The line of the interface itself: keys, port and mark, with something to see. -/
abbrev InterfaceLine := {s : List Char // (∀ c∈s,isLineBreak c=false) ∧ Visible s}

/-- A peer as `wg` knows it. -/
structure DumpedPeer where
  publicKey : Field
  presharedKey : Field
  endpoint : Option {f : Field // f.val≠absent}
  allowedIps : List {f : Field // ',' ∉f.val ∧ f.val≠[] ∧ f.val≠absent}
  latestHandshake : Nat
  representable : latestHandshake≤ maxTimestamp
  rxBytes : Nat
  txBytes : Nat
  persistentKeepalive : Option Nat

namespace DumpedPeer

def renderedIps (p : DumpedPeer) : List Char :=
  if p.allowedIps=[] then absent else [','].intercalate (p.allowedIps.map fun a => a.val.val)

/-- The fields of its line in the dump. -/
def fields (p : DumpedPeer) : List (List Char) := [
  p.publicKey.val,
  p.presharedKey.val,
  (p.endpoint.map fun e => e.val.val).getD absent,
  p.renderedIps,
  Nat.toDigits 10 p.latestHandshake,
  Nat.toDigits 10 p.rxBytes,
  Nat.toDigits 10 p.txBytes,
  (p.persistentKeepalive.map fun n => Nat.toDigits 10 n).getD "off".toList]

def line (p : DumpedPeer) : List Char := ['\t'].intercalate p.fields

/-- What the agent is to report of it. -/
def stats (p : DumpedPeer) : PeerStats where
  publicKey := p.publicKey.val
  endpoint := p.endpoint.map fun e => e.val.val
  allowedIps := p.allowedIps.map fun a => a.val.val
  latestHandshake := if p.latestHandshake=0 then none else some (seconds p.latestHandshake)
  rxBytes := p.rxBytes
  txBytes := p.txBytes

/-- `int` reads both counters. -/
def Readable (p : DumpedPeer) : Prop := p.rxBytes<10^maxStrDigits ∧ p.txBytes<10^maxStrDigits

instance (p : DumpedPeer) : Decidable p.Readable := inferInstanceAs (Decidable (_ ∧ _))

end DumpedPeer

/-- `wg show < iface> dump`, with or without its final newline. -/
def renderDump (interface : InterfaceLine) (peers : List DumpedPeer) (newline : Bool) :
    List Char :=
  ['\n'].intercalate (interface.val::peers.map DumpedPeer.line)++if newline then ['\n'] else []

theorem inner_of_isDigit {c : Char} (h : c.isDigit=true) :
    Inner c ∧ isWhitespace c=false := by
  have hval : c.val≥ '0'.val ∧ c.val≤ '9'.val := by
    simpa only [Char.isDigit,Bool.and_eq_true,decide_eq_true_eq] using h
  have hlow : 48≤c.toNat := UInt32.le_iff_toNat_le.mp hval.1
  have hhigh : c.toNat≤57 := UInt32.le_iff_toNat_le.mp hval.2
  have htab : c≠ '\t' := by
    intro hc
    rw [hc] at hlow
    exact absurd hlow (by decide)
  have hbreak : c.toNat∉[0x85,0x2028,0x2029] := by simp; omega
  have hspace : c.toNat∉[0x85,0xa0,0x1680,0x2028,0x2029,0x202f,0x205f,0x3000] := by simp; omega
  refine ⟨⟨htab,?_⟩,?_⟩
  · unfold isLineBreak
    simp only [hbreak,or_false,decide_eq_false_iff_not,not_or]
    omega
  · unfold isWhitespace
    simp only [hspace,or_false,decide_eq_false_iff_not,not_or]
    omega

theorem isDigit_of_toDigits {n : Nat} {c : Char} (h : c∈Nat.toDigits 10 n) : c.isDigit=true :=
  Nat.isDigit_of_mem_toDigits (by decide) (by decide) h

theorem readCounter_toDigits (n : Nat) :
    readCounter (Nat.toDigits 10 n)=if n<10^maxStrDigits then some n else none := by
  unfold readCounter
  rw [readNumeral_toDigits]
  have hlength : (Nat.toDigits 10 n).length≤ maxStrDigits ↔ n<10^maxStrDigits :=
    Nat.length_toDigits_le_iff (by decide) (by decide)
  by_cases h : n<10^maxStrDigits
  · have hshort : ¬(Nat.toDigits 10 n).length>maxStrDigits := not_lt.mpr (hlength.mpr h)
    simp only [hshort,h,if_true,if_false]
  · have hlong : (Nat.toDigits 10 n).length>maxStrDigits :=
      not_le.mp fun hle => h (hlength.mp hle)
    simp only [hlong,h,if_true,if_false]

namespace DumpedPeer

theorem absent_inner : ∀ c∈absent,Inner c := forall_mem_of_all (by decide)

theorem toDigits_inner (n : Nat) : ∀ c∈Nat.toDigits 10 n,Inner c :=
  fun _ hc => (inner_of_isDigit (isDigit_of_toDigits hc)).1

theorem renderedIps_inner (p : DumpedPeer) : ∀ c∈p.renderedIps,Inner c := by
  intro c hc
  unfold renderedIps at hc
  by_cases hnone : p.allowedIps=[]
  · rw [if_pos hnone] at hc
    exact absent_inner c hc
  · rw [if_neg hnone] at hc
    rcases mem_joined hc with hcomma|⟨l,hl,hcl⟩
    · rw [hcomma]
      decide
    · obtain ⟨a,_,ha⟩ := List.mem_map.mp hl
      rw [← ha] at hcl
      exact a.val.prop c hcl

theorem fields_inner (p : DumpedPeer) : ∀ f∈p.fields,∀ c∈f,Inner c := by
  have hendpoint : ∀ c∈(p.endpoint.map fun e => e.val.val).getD absent,Inner c := by
    cases p.endpoint with
    | none => exact absent_inner
    | some e => exact e.val.prop
  have hkeepalive : ∀ c∈(p.persistentKeepalive.map fun n => Nat.toDigits 10 n).getD "off".toList,
      Inner c := by
    cases p.persistentKeepalive with
    | none =>
      show ∀ c∈"off".toList,Inner c
      exact forall_mem_of_all (by decide)
    | some n => exact toDigits_inner n
  intro f hf
  simp only [fields,List.mem_cons,List.not_mem_nil,or_false] at hf
  rcases hf with hf|hf|hf|hf|hf|hf|hf|hf
  · exact hf ▸ p.publicKey.prop
  · exact hf ▸ p.presharedKey.prop
  · exact hf ▸ hendpoint
  · exact hf ▸ p.renderedIps_inner
  · exact hf ▸ toDigits_inner _
  · exact hf ▸ toDigits_inner _
  · exact hf ▸ toDigits_inner _
  · exact hf ▸ hkeepalive

theorem splitOn_line (p : DumpedPeer) : p.line.splitOn '\t'=p.fields :=
  List.splitOn_intercalate '\t' (fun f hf hc => (p.fields_inner f hf _ hc).1 rfl) (by simp [fields])

theorem line_unbroken (p : DumpedPeer) : ∀ c∈p.line,isLineBreak c=false := by
  intro c hc
  rcases mem_joined hc with htab|⟨f,hf,hcf⟩
  · rw [htab]
    decide
  · exact (p.fields_inner f hf c hcf).2

theorem line_ends (p : DumpedPeer) : EndsVisible p.line := by
  apply endsVisible_intercalate
  · intro f hf
    have hlast : f=(p.persistentKeepalive.map fun n => Nat.toDigits 10 n).getD "off".toList := by
      simpa [fields] using hf.symm
    rw [hlast]
    cases p.persistentKeepalive with
    | none => exact ⟨['o','f'],'f',rfl,by decide⟩
    | some n =>
      apply endsVisible_of_all
      · exact fun c hc => (inner_of_isDigit (isDigit_of_toDigits hc)).2
      · exact Nat.toDigits_ne_nil
  · simp [fields]

/-- The addresses are read back, and none where there are none. -/
theorem splitOn_renderedIps (p : DumpedPeer) :
    (p.renderedIps.splitOn ',').filter (fun a => a≠[] ∧ a≠absent)=
      p.allowedIps.map fun a => a.val.val := by
  unfold renderedIps
  by_cases hnone : p.allowedIps=[]
  · rw [if_pos hnone,hnone]
    decide
  · rw [if_neg hnone]
    have hsplit : ([','].intercalate (p.allowedIps.map fun a => a.val.val)).splitOn ','=
        p.allowedIps.map fun a => a.val.val := by
      apply List.splitOn_intercalate
      · intro l hl
        obtain ⟨a,_,ha⟩ := List.mem_map.mp hl
        exact ha ▸ a.prop.1
      · simpa using hnone
    rw [hsplit,List.filter_eq_self]
    intro l hl
    obtain ⟨a,_,ha⟩ := List.mem_map.mp hl
    rw [← ha]
    exact decide_eq_true a.prop.2

theorem handshake_read (p : DumpedPeer) :
    (readCounter (Nat.toDigits 10 p.latestHandshake)).bind readHandshake=
      some p.stats.latestHandshake := by
  have htwelve : maxTimestamp<10^12 := by decide
  have hmost : (10 : Nat)^12≤10^maxStrDigits := Nat.pow_le_pow_right (by decide) (by decide)
  rw [readCounter_toDigits,if_pos ((p.representable.trans_lt htwelve).trans_le hmost),
    Option.bind_some]
  unfold readHandshake stats fromTimestamp
  by_cases hzero : p.latestHandshake=0
  · rw [if_neg (by omega)]
    simp only [hzero,if_true]
  · rw [if_pos (by omega),if_pos p.representable]
    simp only [hzero,if_false,Option.map_some]

theorem readEndpoint (p : DumpedPeer) :
    (if (p.endpoint.map fun e => e.val.val).getD absent=absent then none
      else some ((p.endpoint.map fun e => e.val.val).getD absent))=p.stats.endpoint := by
  unfold stats
  cases p.endpoint with
  | none => exact if_pos rfl
  | some e => exact if_neg e.prop

/-- The line of a peer is read back, unless a counter has too many digits for `int`. -/
theorem parsePeer_line (p : DumpedPeer) :
    parsePeer p.line=if p.Readable then some (some p.stats) else none := by
  unfold parsePeer
  rw [p.splitOn_line]
  show ((readCounter (Nat.toDigits 10 p.latestHandshake)).bind readHandshake).bind _=_
  rw [p.handshake_read,Option.bind_some]
  show (readCounter (Nat.toDigits 10 p.rxBytes)).bind _=_
  rw [readCounter_toDigits]
  by_cases hrx : p.rxBytes<10^maxStrDigits
  · rw [if_pos hrx,Option.bind_some]
    show (readCounter (Nat.toDigits 10 p.txBytes)).bind _=_
    rw [readCounter_toDigits]
    by_cases htx : p.txBytes<10^maxStrDigits
    · rw [if_pos htx,Option.bind_some,if_pos (show p.Readable from ⟨hrx,htx⟩),p.readEndpoint,
        p.splitOn_renderedIps]
      rfl
    · rw [if_neg htx,if_neg fun h : p.Readable => htx h.2]
      rfl
  · rw [if_neg hrx,if_neg fun h : p.Readable => hrx h.1]
    rfl

end DumpedPeer

section

variable (interface : InterfaceLine) (peers : List DumpedPeer) (newline : Bool)

/-- After stripping, the dump is the lines of the peers behind something that is not blank. -/
theorem lines_renderDump : ∃ first,Visible first ∧
    splitLines (strip (renderDump interface peers newline))=
      first::peers.map DumpedPeer.line := by
  obtain ⟨text,hunbroken,hvisible⟩ := interface
  have hpadding : ∀ c∈(if newline then ['\n'] else []),isWhitespace c=true := by
    cases newline with
    | true =>
      show ∀ c∈['\n'],isWhitespace c=true
      exact forall_mem_of_all (by decide)
    | false => nofun
  cases peers with
  | nil =>
    refine ⟨strip text,visible_strip hvisible,?_⟩
    have hsub : ∀ c∈strip text,isLineBreak c=false := by
      intro c hc
      apply hunbroken
      have hleft := (List.dropWhile_sublist _).subset (List.mem_reverse.mp hc)
      exact (List.dropWhile_sublist _).subset (List.mem_reverse.mp hleft)
    have hdump : strip (renderDump ⟨text,hunbroken,hvisible⟩ [] newline)=strip text := by
      unfold renderDump
      rw [List.map_nil,List.intercalate_singleton,strip_padding hvisible hpadding]
    rw [hdump]
    exact splitLines_line hsub (strip_ne_nil hvisible)
  | cons p peers =>
    refine ⟨text.dropWhile isWhitespace,visible_dropWhile hvisible,?_⟩
    have hends : EndsVisible (['\n'].intercalate ((p::peers).map DumpedPeer.line)) := by
      apply endsVisible_intercalate _ (by simp)
      intro line hline
      obtain ⟨q,_,hq⟩ := List.mem_map.mp (List.mem_of_getLast? hline)
      exact hq ▸ q.line_ends
    have hrest : EndsVisible ('\n'::['\n'].intercalate ((p::peers).map DumpedPeer.line)) :=
      hends.append ['\n']
    have hvisible' : Visible (text++ '\n'::['\n'].intercalate ((p::peers).map DumpedPeer.line)) :=
      (hrest.append text).visible
    have hdump : strip (renderDump ⟨text,hunbroken,hvisible⟩ (p::peers) newline)=
        text.dropWhile isWhitespace++
          '\n'::['\n'].intercalate ((p::peers).map DumpedPeer.line) := by
      rw [← strip_ends hvisible hrest,← strip_padding hvisible' hpadding]
      simp [renderDump,List.intercalate_cons_cons]
    have hsub : ∀ c∈text.dropWhile isWhitespace,isLineBreak c=false := fun c hc =>
      hunbroken c ((List.dropWhile_sublist _).subset hc)
    rw [hdump,splitLines_cons hsub,splitLines_intercalate]
    · intro line hline
      obtain ⟨q,_,hq⟩ := List.mem_map.mp hline
      exact hq ▸ q.line_unbroken
    · intro line hline
      obtain ⟨q,_,hq⟩ := List.mem_map.mp (List.mem_of_getLast? hline)
      obtain ⟨c,hc,_⟩ := q.line_ends.visible
      exact hq ▸ List.ne_nil_of_mem hc

theorem mapM_parsePeer : (peers.map DumpedPeer.line).mapM parsePeer=
    if ∀ p∈peers,p.Readable then some (peers.map fun p => some p.stats) else none := by
  induction peers with
  | nil => simp
  | cons p peers ih =>
    rw [List.map_cons,List.mapM_cons,ih,p.parsePeer_line]
    by_cases hp : p.Readable
    · by_cases hall : ∀ q∈peers,q.Readable
      · have hboth : ∀ q∈p::peers,q.Readable := by
          intro q hq
          rcases List.mem_cons.mp hq with hq|hq
          · exact hq ▸ hp
          · exact hall q hq
        rw [if_pos hp,if_pos hall,if_pos hboth]
        rfl
      · have hnot : ¬∀ q∈p::peers,q.Readable :=
          fun h => hall fun q hq => h q (List.mem_cons_of_mem p hq)
        rw [if_pos hp,if_neg hall,if_neg hnot]
        rfl
    · have hnot : ¬∀ q∈p::peers,q.Readable := fun h => hp (h p List.mem_cons_self)
      rw [if_neg hp,if_neg hnot]
      rfl

/-- The dump is parsed as its peers, or `int` raises on a counter. -/
theorem parseWgDump_renderDump : parseWgDump (renderDump interface peers newline)=
    if ∀ p∈peers,p.Readable then some (peers.map DumpedPeer.stats) else none := by
  obtain ⟨first,hfirst,hlines⟩ := lines_renderDump interface peers newline
  have hall : (first::peers.map DumpedPeer.line).filter (fun line => strip line≠[])=
      first::peers.map DumpedPeer.line := by
    rw [List.filter_eq_self]
    intro line hline
    apply decide_eq_true
    rcases List.mem_cons.mp hline with hline|hline
    · exact hline ▸ strip_ne_nil hfirst
    · obtain ⟨q,_,hq⟩ := List.mem_map.mp hline
      exact hq ▸ strip_ne_nil q.line_ends.visible
  unfold parseWgDump
  rw [hlines]
  simp only [hall,List.drop_one,List.tail_cons,mapM_parsePeer]
  split_ifs with hread
  · simp [List.filterMap_map]
  · rfl

variable {interface peers newline}

/-- Reading the dump gives back its peers, in their order and with what was printed of them. -/
theorem parseWgDump_inverts (h : ∀ p∈peers,p.Readable) :
    parseWgDump (renderDump interface peers newline)=some (peers.map DumpedPeer.stats) := by
  rw [parseWgDump_renderDump,if_pos h]

end

def sampleInterface : InterfaceLine :=
  ⟨"privkeyplaceholder\tpubkeyplaceholder\t51820\toff".toList,
    forall_mem_of_all (by decide +kernel),'p',by decide +kernel,by decide⟩

/-- A peer that has shaken hands and one that never connected. -/
def samplePeers : List DumpedPeer := [
  { publicKey := ⟨"PEERPUBKEY1".toList,forall_mem_of_all (by decide +kernel)⟩
    presharedKey := ⟨absent,DumpedPeer.absent_inner⟩
    endpoint := some ⟨⟨"203.0.113.5:51820".toList,forall_mem_of_all (by decide +kernel)⟩,
      by decide +kernel⟩
    allowedIps := [⟨⟨"10.66.0.2/32".toList,forall_mem_of_all (by decide +kernel)⟩,
      by decide +kernel⟩]
    latestHandshake := 1700000000
    representable := by decide
    rxBytes := 1024
    txBytes := 2048
    persistentKeepalive := some 25 },
  { publicKey := ⟨"PEERPUBKEY2".toList,forall_mem_of_all (by decide +kernel)⟩
    presharedKey := ⟨absent,DumpedPeer.absent_inner⟩
    endpoint := none
    allowedIps := []
    latestHandshake := 0
    representable := by decide
    rxBytes := 0
    txBytes := 0
    persistentKeepalive := none }]

theorem parseWgDump_inverts_sample :
    parseWgDump (renderDump sampleInterface samplePeers true)=some [
      ⟨"PEERPUBKEY1".toList,some "203.0.113.5:51820".toList,["10.66.0.2/32".toList],
        some (seconds 1700000000),1024,2048⟩,
      ⟨"PEERPUBKEY2".toList,none,[],none,0,0⟩] := by
  have hsmall : ∀ n : Nat,n<10^4 → n<10^maxStrDigits := fun n hn =>
    hn.trans_le (Nat.pow_le_pow_right (by decide) (by decide))
  apply parseWgDump_inverts
  intro p hp
  simp only [samplePeers,List.mem_cons,List.not_mem_nil,or_false] at hp
  rcases hp with hp|hp
  · exact hp ▸ ⟨hsmall _ (by decide),hsmall _ (by decide)⟩
  · exact hp ▸ ⟨hsmall _ (by decide),hsmall _ (by decide)⟩

/-- A peer whose counter `int` does not read. -/
def endless : DumpedPeer where
  publicKey := ⟨['k'],forall_mem_of_all (by decide)⟩
  presharedKey := ⟨absent,DumpedPeer.absent_inner⟩
  endpoint := none
  allowedIps := []
  latestHandshake := 0
  representable := by decide
  rxBytes := 10^maxStrDigits
  txBytes := 0
  persistentKeepalive := none

theorem not_parseWgDump_inverts : ¬∀ (interface : InterfaceLine) (peers : List DumpedPeer)
    (newline : Bool),
    parseWgDump (renderDump interface peers newline)=some (peers.map DumpedPeer.stats) := by
  intro h
  have hread := h sampleInterface [endless] true
  have hendless : ¬∀ p∈[endless],p.Readable := fun hall =>
    lt_irrefl _ (hall endless List.mem_cons_self).1
  rw [parseWgDump_renderDump,if_neg hendless] at hread
  cases hread

end VpnService.Agent
