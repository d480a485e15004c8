import VpnService.Framework.Text

namespace VpnService

/-- What `quote` leaves as it is. -/
def isUnreserved (c : Char) : Bool := c.isAlphanum || c∈['_','.','-','~']

def upperHex (n : Nat) : Char := "0123456789ABCDEF".toList.getD n '0'

def quoteByte (b : UInt8) : List Char :=
  let c := Char.ofNat b.toNat
  if b.toNat<128 ∧ isUnreserved c then [c] else ['%',upperHex (b.toNat/16),upperHex (b.toNat%16)]

def utf8 (s : String) : List UInt8 := s.toByteArray.data.toList

/-- `urllib.parse.quote(s, safe="")`. -/
def quote (s : String) : List Char := (utf8 s).flatMap quoteByte

/-- The bytes of a text with its escapes undone. -/
def unquoteBytes : List Char → Option (List UInt8)
  | [] => some []
  | '%'::high::low::cs => do
    let h ← hexDigit high
    let l ← hexDigit low
    let bytes ← unquoteBytes cs
    some (UInt8.ofNat (16*h+l)::bytes)
  | c::cs =>
    if c= '%' then none
    else (unquoteBytes cs).map fun bytes => String.utf8EncodeChar c++bytes

/-- The text that was quoted, if its bytes are UTF-8. -/
def unquote (cs : List Char) : Option String :=
  (unquoteBytes cs).bind fun bytes => String.fromUTF8? ⟨bytes.toArray⟩

theorem fromUTF8?_toByteArray (s : String) : String.fromUTF8? s.toByteArray=some s := by
  unfold String.fromUTF8?
  rw [dif_pos s.isValidUTF8]
  rfl

theorem byteChar_facts : ∀ n<128,isUnreserved (Char.ofNat n)=true →
    Char.ofNat n≠ '%' ∧ String.utf8EncodeChar (Char.ofNat n)=[UInt8.ofNat n] := by
  decide +kernel

theorem hexDigit_upperHex : ∀ n<16,hexDigit (upperHex n)=some n := by
  decide +kernel

theorem unquoteBytes_plain {c : Char} (h : c≠ '%') (cs : List Char) : unquoteBytes (c::cs)=
    (unquoteBytes cs).map fun bytes => String.utf8EncodeChar c++bytes := by
  rw [unquoteBytes,if_neg h]
  exact fun _ _ _ hc _ => h hc

/-- A quoted byte is read back. -/
theorem unquoteBytes_quoteByte (b : UInt8) (cs : List Char) :
    unquoteBytes (quoteByte b++cs)=(unquoteBytes cs).map fun bytes => b::bytes := by
  have hb : b.toNat<256 := b.toNat_lt
  unfold quoteByte
  dsimp only
  by_cases h : b.toNat<128 ∧ isUnreserved (Char.ofNat b.toNat)=true
  · obtain ⟨hne,hencode⟩ := byteChar_facts b.toNat h.1 h.2
    rw [if_pos h,List.singleton_append,unquoteBytes_plain hne,hencode,UInt8.ofNat_toNat]
    rfl
  · have hhigh := hexDigit_upperHex (b.toNat/16) (by omega)
    have hlow := hexDigit_upperHex (b.toNat%16) (by omega)
    have hbyte : UInt8.ofNat (16*(b.toNat/16)+b.toNat%16)=b := by
      rw [Nat.div_add_mod,UInt8.ofNat_toNat]
    rw [if_neg h,List.cons_append,List.cons_append,List.cons_append,List.nil_append,
      unquoteBytes,hhigh,hlow]
    show (unquoteBytes cs >>= fun bytes =>
      some (UInt8.ofNat (16*(b.toNat/16)+b.toNat%16)::bytes))=_
    rw [hbyte]
    cases unquoteBytes cs <;> rfl

theorem unquoteBytes_quoted (bs : List UInt8) : unquoteBytes (bs.flatMap quoteByte)=some bs := by
  induction bs with
  | nil => rfl
  | cons b bs ih =>
    rw [List.flatMap_cons,unquoteBytes_quoteByte,ih]
    rfl

/-- What is quoted reads back, whatever its characters. -/
theorem unquote_quote (s : String) : unquote (quote s)=some s := by
  unfold unquote quote
  rw [unquoteBytes_quoted,Option.bind_some]
  exact fromUTF8?_toByteArray s

theorem upperHex_unreserved : ∀ n<16,isUnreserved (upperHex n)=true := by
  decide +kernel

/-- A quoted text shows no delimiter. -/
theorem mem_quote {s : String} {c : Char} (h : c∈quote s) : isUnreserved c=true ∨ c= '%' := by
  obtain ⟨b,_,hc⟩ := List.mem_flatMap.mp h
  have hb : b.toNat<256 := b.toNat_lt
  unfold quoteByte at hc
  dsimp only at hc
  by_cases hplain : b.toNat<128 ∧ isUnreserved (Char.ofNat b.toNat)=true
  · rw [if_pos hplain] at hc
    rw [List.mem_singleton.mp hc]
    exact Or.inl hplain.2
  · rw [if_neg hplain] at hc
    simp only [List.mem_cons,List.not_mem_nil,or_false] at hc
    rcases hc with hc|hc|hc
    · exact Or.inr hc
    · rw [hc]
      exact Or.inl (upperHex_unreserved _ (by omega))
    · rw [hc]
      exact Or.inl (upperHex_unreserved _ (by omega))

theorem not_mem_quote {s : String} {c : Char} (hplain : isUnreserved c=false)
    (hpercent : c≠ '%') : c∉quote s := by
  intro h
  rcases mem_quote h with h|h
  · rw [hplain] at h
    cases h
  · exact hpercent h

end VpnService
