import VpnService.Backend.IpParsing
import VpnService.Backend.RoutingEngine

namespace VpnService.Backend

/-- What the loop of `resolve` has collected. -/
structure Collected where
  ips : List String
  hadTransientFailure : Bool

def DnsAnswers.transient (d : DnsAnswers) : Bool := d.a=.transient ∨ d.aaaa=.transient

section

variable (str : IpAddress → String)

/-- One round of the loop; `none` is an exception. -/
def Collected.lookup {version : IpVersion} (c : Collected) : Lookup version → Option Collected
  | .answer records => some {c with ips := c.ips++records.map fun r => str ⟨version,r.val⟩}
  | .nxdomain | .noAnswer => some c
  | .transient => some {c with hadTransientFailure := true}
  | .raises => none

/-- `DomainResolver.resolve` of texts, with `str` of an answered record. -/
def DnsAnswers.resolveTexts (d : DnsAnswers) (fallbackIps : Option (List String)) :
    Option (List String) := do
  let c ← Collected.lookup str ⟨[],false⟩ d.a
  let c ← Collected.lookup str c d.aaaa
  if c.ips=[] ∧ c.hadTransientFailure ∧ fallbackIps.getD []≠[] then fallbackIps else some c.ips

theorem Collected.lookup_eq {version : IpVersion} (c : Collected) {l : Lookup version}
    (h : l≠.raises) : c.lookup str l=some ⟨c.ips++l.addresses.map str,
      c.hadTransientFailure || decide (l=.transient)⟩ := by
  cases l with
  | answer records => simp [lookup,Lookup.addresses]
  | nxdomain => simp [lookup,Lookup.addresses]
  | noAnswer => simp [lookup,Lookup.addresses]
  | transient => simp [lookup,Lookup.addresses]
  | raises => exact absurd rfl h

/-- What both rounds come to. -/
theorem DnsAnswers.resolveTexts_eq {d : DnsAnswers} (fallbackIps : Option (List String))
    (h : d.raises=false) : d.resolveTexts str fallbackIps=
      if d.addresses=[] ∧ d.transient ∧ fallbackIps.getD []≠[] then fallbackIps
      else some (d.addresses.map str) := by
  have hboth : d.a≠.raises ∧ d.aaaa≠.raises := by simpa [raises] using h
  have hips : ([]++d.a.addresses.map str)++d.aaaa.addresses.map str=d.addresses.map str := by
    simp [addresses]
  have hfailed : ((false || decide (d.a=.transient)) || decide (d.aaaa=.transient))=d.transient := by
    simp [transient]
  have ha := Collected.lookup_eq str ⟨[],false⟩ hboth.1
  have haaaa := fun c => Collected.lookup_eq str c hboth.2
  simp only [resolveTexts,ha,haaaa,Option.bind_eq_bind,Option.bind_some,hips,hfailed,
    List.map_eq_nil_iff]

/-- On the texts of addresses it does what `resolve` does on the addresses. -/
theorem DnsAnswers.resolveTexts_map {d : DnsAnswers} (fallbackIps : Option (List IpAddress))
    (h : d.raises=false) : d.resolveTexts str (fallbackIps.map (List.map str))=
      (d.resolve fallbackIps).map (List.map str) := by
  have hempty : (fallbackIps.map (List.map str)).getD []=[] ↔ fallbackIps.getD []=[] := by
    cases fallbackIps with
    | none => simp
    | some ips => simp
  have hfailed : d.transient=true ↔ d.a=.transient ∨ d.aaaa=.transient := by simp [transient]
  rw [resolveTexts_eq str _ h]
  unfold resolve
  rw [h]
  simp only [Bool.false_eq_true,if_false,ne_eq,hempty,hfailed]
  split_ifs
  · rfl
  · rfl

/-- What the lookups returned is kept; if one of them failed transiently and neither returned an
address, so is all of the fallback, and otherwise nothing of it is used. -/
theorem resolve_falls_back (d : DnsAnswers) (fallbackIps : Option (List String))
    (h : d.raises=false) : ∃ ips,d.resolveTexts str fallbackIps=some ips ∧
      (∀ a∈d.addresses,str a∈ips) ∧
      (d.transient=true → d.addresses=[] → ∀ text∈fallbackIps.getD [],text∈ips) ∧
      (d.transient=false ∨ d.addresses≠[] → ∀ text∈ips,∃ a∈d.addresses,str a=text) := by
  rw [DnsAnswers.resolveTexts_eq str fallbackIps h]
  split_ifs with hfall
  · obtain ⟨hnone,hfailed,hsome⟩ := hfall
    obtain ⟨ips,hips⟩ : ∃ ips,fallbackIps=some ips := by
      cases fallbackIps with
      | none => exact absurd rfl hsome
      | some ips => exact ⟨ips,rfl⟩
    refine ⟨ips,hips,?_,?_,?_⟩
    · simp [hnone]
    · simp [hips]
    · simp [hnone,hfailed]
  · refine ⟨_,rfl,fun a ha => List.mem_map_of_mem ha,fun hfailed hnone text htext => ?_,
      fun _ text htext => List.mem_map.mp htext⟩
    have hempty : fallbackIps.getD []=[] := by
      by_contra hsome
      exact hfall ⟨hnone,hfailed,hsome⟩
    rw [hempty] at htext
    cases htext

end

/-- `str` of an address, as the standard library writes it. -/
def IpAddress.text (a : IpAddress) : String := String.ofList a.chars

theorem resolve_falls_back_flaky : ∃ ips,
    (⟨.noAnswer,.transient⟩ : DnsAnswers).resolveTexts IpAddress.text (some ["1.2.3.4","::1"])=
      some ips ∧ (∀ a∈DnsAnswers.addresses ⟨.noAnswer,.transient⟩,a.text∈ips) ∧
      (DnsAnswers.transient ⟨.noAnswer,.transient⟩=true →
        DnsAnswers.addresses ⟨.noAnswer,.transient⟩=[] →
          ∀ text∈(some ["1.2.3.4","::1"]).getD [],text∈ips) ∧
      (DnsAnswers.transient ⟨.noAnswer,.transient⟩=false ∨
        DnsAnswers.addresses ⟨.noAnswer,.transient⟩≠[] → ∀ text∈ips,
          ∃ a∈DnsAnswers.addresses ⟨.noAnswer,.transient⟩,a.text=text) :=
  resolve_falls_back IpAddress.text ⟨.noAnswer,.transient⟩ (some ["1.2.3.4","::1"]) (by decide)

/-- Where one family answers and the other times out, the fallback of the other is left out. -/
theorem resolve_loses_family : ¬∀ (str : IpAddress → String) (d : DnsAnswers)
    (fallbackIps : Option (List String)),d.raises=false →
    ∃ ips,d.resolveTexts str fallbackIps=some ips ∧ (∀ a∈d.addresses,str a∈ips) ∧
      (∀ text∈fallbackIps.getD [],∀ a,ipAddress text=some a →
        ((d.a=.transient ∧ a.version=.v4) ∨ (d.aaaa=.transient ∧ a.version=.v6)) → text∈ips) ∧
      (d.transient=false → ∀ text∈ips,∃ a∈d.addresses,str a=text) := by
  intro h
  obtain ⟨ips,hips,_,hfallback,_⟩ :=
    h IpAddress.text ⟨.answer [16843009],.transient⟩ (some ["::1"]) (by decide)
  have hresult : ips=["1.1.1.1"] := by
    have hrun : (⟨.answer [16843009],.transient⟩ : DnsAnswers).resolveTexts IpAddress.text
        (some ["::1"])=some ["1.1.1.1"] := by decide +kernel
    exact Option.some.inj (hips.symm.trans hrun)
  have hloopback : ipAddress "::1"=some ⟨.v6,1⟩ := by decide +kernel
  have hmem := hfallback "::1" (by simp) _ hloopback (Or.inr ⟨rfl,rfl⟩)
  rw [hresult] at hmem
  simp at hmem

end VpnService.Backend
