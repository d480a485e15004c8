import VpnService.Backend.IpNetworks
import VpnService.Framework.Text

namespace VpnService.Backend

/-- `_parse_octet`. -/
def parseOctet (s : List Char) : Option Nat :=
  if s=[] ∨ ¬s.all Char.isDigit ∨ s.length>3 ∨ (s≠['0'] ∧ s.head?=some '0') then none
  else
    let octet := Nat.ofDigitChars 10 s 0
    if octet>255 then none else some octet

/-- The number that four octets with dots between them spell. -/
def parseIpv4 (s : List Char) : Option Nat :=
  let octets := s.splitOn '.'
  if octets.length≠4 then none
  else (octets.mapM parseOctet).map (ofPlaces 256)

/-- `_parse_hextet`; `int` of an empty text raises. -/
def parseHextet (s : List Char) : Option Nat :=
  if s=[] ∨ s.length>4 then none
  else (s.mapM hexDigit).map (ofPlaces 16)

/-- An IPv4-style suffix becomes two hextets. -/
def convertSuffix (parts : List (List Char)) : Option (List (List Char)) :=
  let suffix := parts.getLastD []
  if '.' ∈ suffix then (parseIpv4 suffix).map fun v =>
    parts.dropLast++[Nat.toDigits 16 (v/65536),Nat.toDigits 16 (v%65536)]
  else some parts

/-- Where two colons have nothing between them, the ends disregarded. -/
def skipIndexes (parts : List (List Char)) : List Nat :=
  (List.range parts.length).filter fun i => 0< i ∧ i+1<parts.length ∧ parts[i]?=some []

/-- How many hextets stand before `::` and how many behind it, of which there is to be a hextet
left to skip; all of them stand before it if there is none. -/
def hextetCounts (parts : List (List Char)) : Option (Nat×Nat) :=
  match skipIndexes parts with
  | [] =>
    if parts.length≠8 ∨ parts.headD []=[] ∨ parts.getLastD []=[] then none else some (8,0)
  | [skip] =>
    let high := if parts.headD []=[] then skip-1 else skip
    let low := if parts.getLastD []=[] then parts.length-skip-2 else parts.length-skip-1
    if (parts.headD []=[] ∧ high≠0) ∨ (parts.getLastD []=[] ∧ low≠0) ∨ high+low≥8 then none
    else some (high,low)
  | _ => none

/-- `IPv6Address._ip_int_from_string`. -/
def parseIpv6 (s : List Char) : Option Nat := do
  let colons := s.splitOn ':'
  if colons.length<3 then none
  else
    let parts ← convertSuffix colons
    if parts.length>9 then none
    else
      let (high,low) ← hextetCounts parts
      let before ← (parts.take high).mapM parseHextet
      let behind ← (parts.drop (parts.length-low)).mapM parseHextet
      some (ofPlaces 65536 (before++List.replicate (8-high-low) 0++behind))

/-- `_split_scope_id`; the scope id is dropped, as the networks made of the address drop it. -/
def splitScopeId (s : List Char) : Option (List Char) :=
  let scope := (s.dropWhile fun c => c≠ '%').drop 1
  if '%' ∉ s then some s
  else if scope=[] ∨ '%' ∈ scope then none
  else some (s.takeWhile fun c => c≠ '%')

/-- `ipaddress.ip_address` of a text; `none` is its `ValueError`. -/
def ipAddress (text : String) : Option IpAddress :=
  let s := text.toList
  if '/' ∈ s then none
  else match parseIpv4 s with
    | some v => some ⟨.v4,v⟩
    | none => ((splitScopeId s).bind parseIpv6).map fun v => ⟨.v6,v⟩

theorem parseOctet_lt {s : List Char} {v : Nat} (h : parseOctet s=some v) : v<256 := by
  unfold parseOctet at h
  dsimp only at h
  split_ifs at h with _ hv
  cases h
  omega

theorem parseIpv4_lt {s : List Char} {v : Nat} (h : parseIpv4 s=some v) : v<2^32 := by
  unfold parseIpv4 at h
  dsimp only at h
  by_cases hfour : (s.splitOn '.').length≠4
  · rw [if_pos hfour] at h
    cases h
  · rw [if_neg hfour] at h
    obtain ⟨octets,hoctets,rfl⟩ := Option.map_eq_some_iff.mp h
    obtain ⟨hlength,hmem⟩ := mapM_some hoctets
    have hlt : ∀ o∈octets,o<256 := by
      intro o ho
      obtain ⟨x,_,hx⟩ := hmem o ho
      exact parseOctet_lt hx
    have hpow : 256^4=2^32 := by decide
    rw [← hpow]
    exact ofPlaces_lt (by decide) hlt (by omega)

theorem hexDigit_lt {c : Char} {d : Nat} (h : hexDigit c=some d) : d<16 := by
  have hrange : ∀ {low high : Char},low≤c → c≤high → low.toNat≤c.toNat ∧ c.toNat≤high.toNat :=
    fun hlow hhigh => ⟨UInt32.le_iff_toNat_le.mp hlow,UInt32.le_iff_toNat_le.mp hhigh⟩
  unfold hexDigit at h
  split_ifs at h with hdigit hlower hupper
  · cases h
    have hdigit : c.val≥ '0'.val ∧ c.val≤ '9'.val := by
      simpa only [Char.isDigit,Bool.and_eq_true,decide_eq_true_eq] using hdigit
    obtain ⟨hlow,hhigh⟩ := @hrange '0' '9' hdigit.1 hdigit.2
    have hzero : '0'.toNat=48 := rfl
    have hnine : '9'.toNat=57 := rfl
    omega
  · cases h
    obtain ⟨hlow,hhigh⟩ := hrange hlower.1 hlower.2
    have ha : 'a'.toNat=97 := rfl
    have hf : 'f'.toNat=102 := rfl
    omega
  · cases h
    obtain ⟨hlow,hhigh⟩ := hrange hupper.1 hupper.2
    have ha : 'A'.toNat=65 := rfl
    have hf : 'F'.toNat=70 := rfl
    omega

theorem parseHextet_lt {s : List Char} {v : Nat} (h : parseHextet s=some v) : v<65536 := by
  unfold parseHextet at h
  by_cases hbad : s=[] ∨ s.length>4
  · rw [if_pos hbad] at h
    cases h
  · rw [if_neg hbad] at h
    obtain ⟨digits,hdigits,rfl⟩ := Option.map_eq_some_iff.mp h
    obtain ⟨hlength,hmem⟩ := mapM_some hdigits
    have hlt : ∀ d∈digits,d<16 := by
      intro d hd
      obtain ⟨x,_,hx⟩ := hmem d hd
      exact hexDigit_lt hx
    have hpow : 16^4=65536 := by decide
    rw [← hpow]
    exact ofPlaces_lt (by decide) hlt (by omega)

theorem hextetCounts_le {parts : List (List Char)} {high low : Nat}
    (h : hextetCounts parts=some (high,low)) : high+low≤8 := by
  unfold hextetCounts at h
  cases hskip : skipIndexes parts with
  | nil =>
    rw [hskip] at h
    dsimp only at h
    split_ifs at h
    cases h
    decide
  | cons skip others =>
    rw [hskip] at h
    cases others with
    | nil =>
      dsimp only at h
      generalize (if parts.headD []=[] then skip-1 else skip)=counted at h
      generalize (if parts.getLastD []=[] then parts.length-skip-2
        else parts.length-skip-1)=behind at h
      split_ifs at h with hbad
      cases h
      omega
    | cons _ _ => cases h

theorem parseIpv6_lt {s : List Char} {v : Nat} (h : parseIpv6 s=some v) : v<2^128 := by
  unfold parseIpv6 at h
  dsimp only at h
  by_cases hfew : (s.splitOn ':').length<3
  · rw [if_pos hfew] at h
    cases h
  · rw [if_neg hfew] at h
    obtain ⟨parts,_,h⟩ := Option.bind_eq_some_iff.mp h
    by_cases hmany : parts.length>9
    · rw [if_pos hmany] at h
      cases h
    · rw [if_neg hmany] at h
      obtain ⟨⟨high,low⟩,hcounts,h⟩ := Option.bind_eq_some_iff.mp h
      obtain ⟨before,hbefore,h⟩ := Option.bind_eq_some_iff.mp h
      obtain ⟨behind,hbehind,h⟩ := Option.bind_eq_some_iff.mp h
      cases h
      obtain ⟨hlong,hhigh⟩ := mapM_some hbefore
      obtain ⟨hlong',hlow⟩ := mapM_some hbehind
      have hcount := hextetCounts_le hcounts
      have hlt : ∀ x∈before++List.replicate (8-high-low) 0++behind,x<65536 := by
        intro x hx
        rcases List.mem_append.mp hx with hx|hx
        · rcases List.mem_append.mp hx with hx|hx
          · obtain ⟨y,_,hy⟩ := hhigh x hx
            exact parseHextet_lt hy
          · rw [(List.mem_replicate.mp hx).2]
            decide
        · obtain ⟨y,_,hy⟩ := hlow x hx
          exact parseHextet_lt hy
      have hlength : (before++List.replicate (8-high-low) 0++behind).length≤8 := by
        rw [List.length_append,List.length_append,List.length_replicate,hlong,hlong',
          List.length_take,List.length_drop]
        omega
      have hpow : 65536^8=2^128 := by decide
      rw [← hpow]
      exact ofPlaces_lt (by decide) hlt hlength

/-- What reads as an address has the bits of its version. -/
theorem ipAddress_valid {text : String} {a : IpAddress} (h : ipAddress text=some a) : a.Valid := by
  unfold ipAddress at h
  dsimp only at h
  by_cases hslash : '/' ∈ text.toList
  · rw [if_pos hslash] at h
    cases h
  · rw [if_neg hslash] at h
    cases hfour : parseIpv4 text.toList with
    | some v =>
      rw [hfour] at h
      cases h
      exact parseIpv4_lt hfour
    | none =>
      rw [hfour] at h
      obtain ⟨v,hv,rfl⟩ := Option.map_eq_some_iff.mp h
      obtain ⟨s,_,hv⟩ := Option.bind_eq_some_iff.mp hv
      exact parseIpv6_lt hv

example : ipAddress "::ffff:10.0.0.1%eth0"=some ⟨.v6,0xffff0a000001⟩ := by decide +kernel

end VpnService.Backend
