import VpnService.Backend.Frames

namespace VpnService.Backend

open Agent

/-- A server row but for its load, the only column device operations write. -/
def VpnServer.unloaded (s : VpnServer) : VpnServer := {s with currentLoad := 0}

/-- What an operation on device `d` may do to the database: nothing outside the rows of `d` but
server loads, routing profiles and the audit log. -/
structure DbTouched (d : Id) (a b : Database) : Prop where
  billing : b.billing=a.billing
  configs : b.vlessServerConfigs=a.vlessServerConfigs
  servers : ∀ k,(b.vpnServers.get? k).map VpnServer.unloaded=
    (a.vpnServers.get? k).map VpnServer.unloaded
  devices : ∀ k,k≠d → b.devices.get? k=a.devices.get? k
  own : ∀ row,a.devices.get? d=some row →
    ∃ row',b.devices.get? d=some row' ∧ row'.userId=row.userId ∧ row'.protocol=row.protocol
  peers : ∀ p : VpnPeer,p.deviceId≠d → (p∈b.vpnPeers.rows ↔ p∈a.vpnPeers.rows)
  credentials : ∀ c : VlessCredential,c.deviceId≠d →
    (c∈b.vlessCredentials.rows ↔ c∈a.vlessCredentials.rows)
  links : ∀ l : SubscriptionLink,l.deviceId≠d →
    (l∈b.subscriptionLinks.rows ↔ l∈a.subscriptionLinks.rows)

namespace DbTouched

variable {d : Id} {a b c : Database}

theorem refl (d : Id) (a : Database) : DbTouched d a a :=
  ⟨rfl,rfl,fun _ => rfl,fun _ _ => rfl,fun row h => ⟨row,h,rfl,rfl⟩,fun _ _ => Iff.rfl,
    fun _ _ => Iff.rfl,fun _ _ => Iff.rfl⟩

theorem trans (h : DbTouched d a b) (k : DbTouched d b c) : DbTouched d a c where
  billing := k.billing.trans h.billing
  configs := k.configs.trans h.configs
  servers x := (k.servers x).trans (h.servers x)
  devices x hx := (k.devices x hx).trans (h.devices x hx)
  own row hrow := by
    obtain ⟨row',hb,hu,hp⟩ := h.own row hrow
    obtain ⟨row'',hc,hu',hp'⟩ := k.own row' hb
    exact ⟨row'',hc,hu'.trans hu,hp'.trans hp⟩
  peers p hp := (k.peers p hp).trans (h.peers p hp)
  credentials x hx := (k.credentials x hx).trans (h.credentials x hx)
  links l hl := (k.links l hl).trans (h.links l hl)

theorem of_core (hb : b.billing=a.billing)
    (hf : (b.vpnServers,b.vlessServerConfigs,b.devices,b.vpnPeers,b.vlessCredentials,
      b.subscriptionLinks)=(a.vpnServers,a.vlessServerConfigs,a.devices,a.vpnPeers,
      a.vlessCredentials,a.subscriptionLinks)) : DbTouched d a b := by
  simp only [Prod.mk.injEq] at hf
  obtain ⟨hs,hc,hd,hp,hv,hl⟩ := hf
  exact ⟨hb,hc,fun _ => by rw [hs],fun _ _ => by rw [hd],fun row h => ⟨row,hd ▸ h,rfl,rfl⟩,
    fun _ _ => by rw [hp],fun _ _ => by rw [hv],fun _ _ => by rw [hl]⟩

theorem updateDevice {f : Device → Device} (hf : ∀ x,(f x).id=x.id)
    (hown : ∀ x,(f x).userId=x.userId ∧ (f x).protocol=x.protocol) :
    DbTouched d a {a with devices := a.devices.modify d f hf} :=
  {refl d a with
    devices := fun k hk => Store.get?_modify_ne _ f hf hk
    own := fun row hrow => ⟨f row,by simp [hrow],hown row⟩}

theorem insertDevice {row : Device} (h : row.id=d) :
    DbTouched d a {a with devices := a.devices.insert row} :=
  {refl d a with
    devices := fun k hk => Store.get?_insert_outside _ (by rw [h]; exact hk)
    own := fun x hx => by
      refine ⟨x,?_,rfl,rfl⟩
      have hm : row.id∈a.devices.rows.map Device.id := by
        rw [h,← Store.key_of_get? hx]
        exact List.mem_map_of_mem (Store.mem_of_get? hx)
      simpa only [Store.insert,hm,dite_true] using hx}

theorem modifyPeer {k : Id} {f : VpnPeer → VpnPeer} (hf : ∀ x,(f x).id=x.id)
    (hd : ∀ x,(f x).deviceId=x.deviceId) (h : ∀ p∈a.vpnPeers.rows,p.id=k → p.deviceId=d) :
    DbTouched d a {a with vpnPeers := a.vpnPeers.modify k f hf} :=
  {refl d a with
    peers := fun _ hp => Store.mem_modify_outside hf (q := fun p => p.deviceId≠d)
      (fun r hr hk => ⟨not_not.mpr (h r hr hk),not_not.mpr ((hd r).trans (h r hr hk))⟩) hp}

theorem insertPeer {p : VpnPeer} (h : p.deviceId=d) :
    DbTouched d a {a with vpnPeers := a.vpnPeers.insert p} :=
  {refl d a with
    peers := fun _ hq => Store.mem_insert_outside (q := fun p => p.deviceId≠d)
      (not_not.mpr h) hq}

theorem modifyCredential {k : Id} {f : VlessCredential → VlessCredential}
    (hf : ∀ x,(f x).id=x.id) (hd : ∀ x,(f x).deviceId=x.deviceId)
    (h : ∀ c∈a.vlessCredentials.rows,c.id=k → c.deviceId=d) :
    DbTouched d a {a with vlessCredentials := a.vlessCredentials.modify k f hf} :=
  {refl d a with
    credentials := fun _ hc => Store.mem_modify_outside hf (q := fun c => c.deviceId≠d)
      (fun r hr hk => ⟨not_not.mpr (h r hr hk),not_not.mpr ((hd r).trans (h r hr hk))⟩) hc}

theorem insertCredential {c : VlessCredential} (h : c.deviceId=d) :
    DbTouched d a {a with vlessCredentials := a.vlessCredentials.insert c} :=
  {refl d a with
    credentials := fun _ hx => Store.mem_insert_outside (q := fun c => c.deviceId≠d)
      (not_not.mpr h) hx}

theorem modifyLink {k : Id} {f : SubscriptionLink → SubscriptionLink}
    (hf : ∀ x,(f x).id=x.id) (hd : ∀ x,(f x).deviceId=x.deviceId)
    (h : ∀ l∈a.subscriptionLinks.rows,l.id=k → l.deviceId=d) :
    DbTouched d a {a with subscriptionLinks := a.subscriptionLinks.modify k f hf} :=
  {refl d a with
    links := fun _ hl => Store.mem_modify_outside hf (q := fun l => l.deviceId≠d)
      (fun r hr hk => ⟨not_not.mpr (h r hr hk),not_not.mpr ((hd r).trans (h r hr hk))⟩) hl}

theorem insertLink {l : SubscriptionLink} (h : l.deviceId=d) :
    DbTouched d a {a with subscriptionLinks := a.subscriptionLinks.insert l} :=
  {refl d a with
    links := fun _ hx => Store.mem_insert_outside (q := fun l => l.deviceId≠d)
      (not_not.mpr h) hx}

theorem modifyServer {k : Id} {f : VpnServer → VpnServer} (hf : ∀ x,(f x).id=x.id)
    (hu : ∀ x,(f x).unloaded=x.unloaded) :
    DbTouched d a {a with vpnServers := a.vpnServers.modify k f hf} :=
  {refl d a with
    servers := fun j => by
      rw [Store.get?_modify]
      split_ifs
      · cases a.vpnServers.get? j with
        | none => rfl
        | some x => exact congrArg some (hu x)
      · rfl}

end DbTouched

/-- No agent record has a number that is still to be drawn. -/
def KeysFresh (s : Session) : Prop :=
  ∀ url k,s.serial≤k → (s.vpn url).get? k=none ∧ (s.xray url).get? k=none

/-- What an operation on device `d` may do: at the agents, only to records under the keys `K`,
and a record it writes is one of `d`'s. -/
structure Touched (K : Int → Prop) (d : Id) (s t : Session) : Prop where
  serial : s.serial≤t.serial
  db : DbTouched d s.db t.db
  vpn : ∀ url k,¬K k → (t.vpn url).get? k=(s.vpn url).get? k
  xray : ∀ url k,¬K k → (t.xray url).get? k=(s.xray url).get? k
  vpnOwner : ∀ url k r,(t.vpn url).get? k=some r →
    r.deviceId=d ∨ ∃ r₀,(s.vpn url).get? k=some r₀ ∧ r₀.deviceId=r.deviceId
  xrayOwner : ∀ url k r,(t.xray url).get? k=some r →
    r.deviceId=d ∨ ∃ r₀,(s.xray url).get? k=some r₀ ∧ r₀.deviceId=r.deviceId
  fresh : KeysFresh s → KeysFresh t

namespace Touched

variable {K : Int → Prop} {d : Id} {s t u : Session}

theorem refl (K : Int → Prop) (d : Id) (s : Session) : Touched K d s s :=
  ⟨le_rfl,DbTouched.refl d _,fun _ _ _ => rfl,fun _ _ _ => rfl,
    fun _ _ r h => Or.inr ⟨r,h,rfl⟩,fun _ _ r h => Or.inr ⟨r,h,rfl⟩,id⟩

theorem trans (h : Touched K d s t) (k : Touched K d t u) : Touched K d s u where
  serial := h.serial.trans k.serial
  db := h.db.trans k.db
  vpn url x hx := (k.vpn url x hx).trans (h.vpn url x hx)
  xray url x hx := (k.xray url x hx).trans (h.xray url x hx)
  vpnOwner url x r hr := by
    rcases k.vpnOwner url x r hr with hd|⟨r₁,h₁,he⟩
    · exact Or.inl hd
    · rw [← he]
      exact h.vpnOwner url x r₁ h₁
  xrayOwner url x r hr := by
    rcases k.xrayOwner url x r hr with hd|⟨r₁,h₁,he⟩
    · exact Or.inl hd
    · rw [← he]
      exact h.xrayOwner url x r₁ h₁
  fresh := fun hs => k.fresh (h.fresh hs)

theorem of_db (h : DbTouched d s.db t.db) (hv : t.vpn=s.vpn) (hx : t.xray=s.xray)
    (hs : s.serial≤t.serial) : Touched K d s t where
  serial := hs
  db := h
  vpn _ _ _ := by rw [hv]
  xray _ _ _ := by rw [hx]
  vpnOwner _ _ r hr := Or.inr ⟨r,hv ▸ hr,rfl⟩
  xrayOwner _ _ r hr := Or.inr ⟨r,hx ▸ hr,rfl⟩
  fresh hf url k hk := by
    rw [hv,hx]
    exact hf url k (hs.trans hk)

theorem of_core (h : coreFrame.rel s t) : Touched K d s t := by
  obtain ⟨hview,hs⟩ := h
  simp only [fleetView,Prod.mk.injEq] at hview
  obtain ⟨hb,hv,hc,hd,hp,hcr,hl,hvpn,hxray⟩ := hview
  exact of_db (.of_core hb (by rw [hv,hc,hd,hp,hcr,hl])) hvpn hxray hs

theorem setVpn {url : String} {store : IpPeerStore}
    (hK : ∀ k,¬K k → store.get? k=(s.vpn url).get? k)
    (howner : ∀ k r,store.get? k=some r →
      r.deviceId=d ∨ ∃ r₀,(s.vpn url).get? k=some r₀ ∧ r₀.deviceId=r.deviceId)
    (hfresh : ∀ k,s.serial≤k → (s.vpn url).get? k=none → store.get? k=none) :
    Touched K d s (setVpn url store s) where
  serial := le_rfl
  db := DbTouched.refl d _
  vpn u k hk := by
    by_cases h : u=url
    · simpa only [Backend.setVpn,h,if_true] using hK k hk
    · simp only [Backend.setVpn,h,if_false]
  xray _ _ _ := rfl
  vpnOwner u k r hr := by
    by_cases h : u=url
    · rw [h]
      exact howner k r (by simpa only [Backend.setVpn,h,if_true] using hr)
    · exact Or.inr ⟨r,by simpa only [Backend.setVpn,h,if_false] using hr,rfl⟩
  xrayOwner _ _ r hr := Or.inr ⟨r,hr,rfl⟩
  fresh hf u k hk := by
    refine ⟨?_,(hf u k hk).2⟩
    by_cases h : u=url
    · simpa only [Backend.setVpn,h,if_true] using hfresh k hk (hf url k hk).1
    · simpa only [Backend.setVpn,h,if_false] using (hf u k hk).1

theorem setXray {url : String} {store : UserStore}
    (hK : ∀ k,¬K k → store.get? k=(s.xray url).get? k)
    (howner : ∀ k r,store.get? k=some r →
      r.deviceId=d ∨ ∃ r₀,(s.xray url).get? k=some r₀ ∧ r₀.deviceId=r.deviceId)
    (hfresh : ∀ k,s.serial≤k → (s.xray url).get? k=none → store.get? k=none) :
    Touched K d s (setXray url store s) where
  serial := le_rfl
  db := DbTouched.refl d _
  vpn _ _ _ := rfl
  xray u k hk := by
    by_cases h : u=url
    · simpa only [Backend.setXray,h,if_true] using hK k hk
    · simp only [Backend.setXray,h,if_false]
  vpnOwner _ _ r hr := Or.inr ⟨r,hr,rfl⟩
  xrayOwner u k r hr := by
    by_cases h : u=url
    · rw [h]
      exact howner k r (by simpa only [Backend.setXray,h,if_true] using hr)
    · exact Or.inr ⟨r,by simpa only [Backend.setXray,h,if_false] using hr,rfl⟩
  fresh hf u k hk := by
    refine ⟨(hf u k hk).1,?_⟩
    by_cases h : u=url
    · simpa only [Backend.setXray,h,if_true] using hfresh k hk (hf url k hk).2
    · simpa only [Backend.setXray,h,if_false] using (hf u k hk).2

end Touched

end VpnService.Backend
