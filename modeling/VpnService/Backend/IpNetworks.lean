import VpnService.Framework.Fields
import VpnService.Backend.IpAllocator

namespace VpnService.Backend

/-- `str` of an address, as characters. -/
def IpAddress.chars (a : IpAddress) : List Char := match a.version with
  | .v4 => ['.'].intercalate ((places 256 4 a.value).map (Nat.toDigits 10))
  | .v6 => [':'].intercalate
    (compressRun ['0'] [] ((places 65536 8 a.value).map (Nat.toDigits 16)))

def IpNetwork.address (n : IpNetwork) : IpAddress := ⟨n.version,n.networkAddress⟩

/-- `str` of a network. -/
def IpNetwork.text (n : IpNetwork) : String :=
  String.ofList (['/'].intercalate [n.address.chars,Nat.toDigits 10 n.prefixlen])

/-- An address as `allocate_ip` writes it, with `/32` or `/128`. -/
def IpAddress.cidr (a : IpAddress) : String := (⟨a.version,a.value,a.version.bits⟩ : IpNetwork).text

/-- The address has the bits of its version. -/
def IpAddress.Valid (a : IpAddress) : Prop := a.value<2^a.version.bits

instance (a : IpAddress) : Decidable a.Valid := inferInstanceAs (Decidable (_<_))

/-- `a in n`. -/
def IpNetwork.contains (n : IpNetwork) (a : IpAddress) : Prop :=
  n.version=a.version ∧ n.networkAddress≤a.value ∧
    a.value<n.networkAddress+2^(n.version.bits-n.prefixlen)

instance (n : IpNetwork) (a : IpAddress) : Decidable (n.contains a) :=
  inferInstanceAs (Decidable (_ ∧ _))

/-- A list of CIDR texts covers the address. -/
def Covers (cidrs : List String) (a : IpAddress) : Prop :=
  ∃ n : IpNetwork,n.address.Valid ∧ n.text∈cidrs ∧ n.contains a

theorem numerals_injective {base count v w : Nat} (hb : 1<base) (hle : base≤16) {b : Nat}
    (hv : v<b^count) (hw : w<b^count)
    (h : (places b count v).map (Nat.toDigits base)=(places b count w).map (Nat.toDigits base)) :
    v=w := by
  have hinj : Function.Injective (Nat.toDigits base) := fun _ _ he => toDigits_injective hb hle he
  exact places_injective hv hw (hinj.list_map h)

theorem not_mem_numerals {base : Nat} (hb : 1<base) {c : Char} (hc : ∀ d,Nat.digitChar d≠c)
    (xs : List Nat) : ∀ l∈xs.map (Nat.toDigits base),c∉l := by
  intro l hl
  obtain ⟨n,_,hn⟩ := List.mem_map.mp hl
  rw [← hn]
  exact not_mem_toDigits hb hc n

theorem dot_not_digit : ∀ d,Nat.digitChar d≠ '.' := fun _ => Nat.digitChar_ne '.' (by decide)

theorem colon_not_digit : ∀ d,Nat.digitChar d≠ ':' := fun _ => Nat.digitChar_ne ':' (by decide)

theorem slash_not_digit : ∀ d,Nat.digitChar d≠ '/' := fun _ => Nat.digitChar_ne '/' (by decide)

/-- The fields of an IPv6 address, the blank ones among them. -/
def hextetFields (v : Nat) : List (List Char) :=
  compressRun ['0'] [] ((places 65536 8 v).map (Nat.toDigits 16))

theorem not_mem_hextetFields {c : Char} (hc : ∀ d,Nat.digitChar d≠c) (v : Nat) :
    ∀ l∈hextetFields v,c∉l := by
  intro l hl
  rcases mem_compressRun hl with hl|hl
  · exact not_mem_numerals (by decide) hc _ l hl
  · rw [hl]
    exact List.not_mem_nil

theorem length_hextetFields (v : Nat) : 2≤(hextetFields v).length := by
  apply length_compressRun
  rw [List.length_map,length_places]
  decide

theorem hextetFields_injective {v w : Nat} (hv : v<2^128) (hw : w<2^128)
    (h : hextetFields v=hextetFields w) : v=w := by
  have hexpand : ∀ n,expandRun ['0'] [] 8 (hextetFields n)=
      (places 65536 8 n).map (Nat.toDigits 16) := by
    intro n
    have hlength : ((places 65536 8 n).map (Nat.toDigits 16)).length=8 := by
      rw [List.length_map,length_places]
    have hfilled : ∀ l∈(places 65536 8 n).map (Nat.toDigits 16),l≠[] := by
      intro l hl
      obtain ⟨d,_,hd⟩ := List.mem_map.mp hl
      rw [← hd]
      exact Nat.toDigits_ne_nil
    have hfields : expandRun ['0'] [] ((places 65536 8 n).map (Nat.toDigits 16)).length
        (hextetFields n)=(places 65536 8 n).map (Nat.toDigits 16) := expand_compress hfilled
    rw [hlength] at hfields
    exact hfields
  have hnumerals : (places 65536 8 v).map (Nat.toDigits 16)=
      (places 65536 8 w).map (Nat.toDigits 16) := by
    rw [← hexpand v,h,hexpand w]
  have hpow : 65536^8=2^128 := by decide
  exact numerals_injective (by decide) (by decide) (by rw [hpow]; exact hv)
    (by rw [hpow]; exact hw) hnumerals

theorem mem_chars {a : IpAddress} {c : Char} (hc : ∀ d,Nat.digitChar d≠c) (hdot : c≠ '.') :
    c∈a.chars → a.version=.v6 ∧ c= ':' := by
  intro h
  unfold IpAddress.chars at h
  cases hv : a.version with
  | v4 =>
    rw [hv] at h
    rcases mem_joined h with h|⟨l,hl,h⟩
    · exact absurd h hdot
    · exact absurd h (not_mem_numerals (by decide) hc _ l hl)
  | v6 =>
    rw [hv] at h
    rcases mem_joined h with h|⟨l,hl,h⟩
    · exact ⟨rfl,h⟩
    · exact absurd h (not_mem_hextetFields hc _ l hl)

theorem colon_mem_chars {a : IpAddress} : ':' ∈ a.chars ↔ a.version=.v6 := by
  constructor
  · exact fun h => (mem_chars colon_not_digit (by decide) h).1
  · intro hv
    unfold IpAddress.chars
    rw [hv]
    exact separator_mem_joined (not_mem_hextetFields colon_not_digit a.value)
      (length_hextetFields a.value)

theorem slash_not_mem_chars (a : IpAddress) : '/' ∉ a.chars := by
  intro h
  exact absurd (mem_chars slash_not_digit (by decide) h).2 (by decide)

theorem chars_injective {a b : IpAddress} (ha : a.Valid) (hb : b.Valid) (h : a.chars=b.chars) :
    a=b := by
  have hversion : a.version=.v6 ↔ b.version=.v6 := by
    rw [← colon_mem_chars,← colon_mem_chars,h]
  obtain ⟨va,x⟩ := a
  obtain ⟨vb,y⟩ := b
  cases va with
  | v4 =>
    cases vb with
    | v4 =>
      have hnumerals : ∀ n,∀ l∈(places 256 4 n).map (Nat.toDigits 10),'.' ∉ l :=
        fun n => not_mem_numerals (by decide) dot_not_digit _
      have hfilled : ∀ n,(places 256 4 n).map (Nat.toDigits 10)≠[] := by
        intro n he
        have hlength := congrArg List.length he
        rw [List.length_map,length_places] at hlength
        cases hlength
      have hfields := joined_injective (hnumerals x) (hnumerals y) (hfilled x) (hfilled y) h
      have hpow : 256^4=2^32 := by decide
      have hx : x<256^4 := by
        rw [hpow]
        exact ha
      have hy : y<256^4 := by
        rw [hpow]
        exact hb
      rw [numerals_injective (by decide) (by decide) hx hy hfields]
    | v6 => exact absurd (hversion.mpr rfl) nofun
  | v6 =>
    cases vb with
    | v4 => exact absurd (hversion.mp rfl) nofun
    | v6 =>
      have hfilled : ∀ n,hextetFields n≠[] := by
        intro n he
        have hlength := length_hextetFields n
        rw [he] at hlength
        cases hlength
      have hfields : hextetFields x=hextetFields y :=
        joined_injective (not_mem_hextetFields colon_not_digit x)
          (not_mem_hextetFields colon_not_digit y) (hfilled x) (hfilled y) h
      have hsame : x=y := hextetFields_injective ha hb hfields
      rw [hsame]

/-- A CIDR text names one network. -/
theorem text_injective {m n : IpNetwork} (hm : m.address.Valid) (hn : n.address.Valid)
    (h : m.text=n.text) : m=n := by
  have hfields : ∀ k : IpNetwork,∀ l∈[k.address.chars,Nat.toDigits 10 k.prefixlen],'/' ∉ l := by
    intro k l hl
    rcases List.mem_cons.mp hl with hl|hl
    · rw [hl]
      exact slash_not_mem_chars _
    · rw [List.mem_singleton.mp hl]
      exact not_mem_toDigits (by decide) slash_not_digit _
  have hlists := joined_injective (hfields m) (hfields n) nofun nofun (String.ofList_injective h)
  obtain ⟨hchars,hrest⟩ := List.cons.inj hlists
  have haddress := chars_injective hm hn hchars
  have hlen := toDigits_injective (by decide) (by decide) (List.singleton_inj.mp hrest)
  obtain ⟨vm,am,pm⟩ := m
  obtain ⟨vn,an,pn⟩ := n
  cases haddress
  have hlen : pm=pn := hlen
  rw [hlen]

end VpnService.Backend
