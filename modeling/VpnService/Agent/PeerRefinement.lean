import VpnService.Agent.PeerHealing

namespace VpnService.Agent

/-- A request all of whose commands succeed. -/
structure PeerVisit (ip : Type) where
  request : PeerRequest ip
  now : Int
  traffic : Int → PeerTraffic

def serve {ip : Type} [DecidableEq ip] (n : PeerNode ip) (v : PeerVisit ip) : PeerNode ip :=
  performPeer n ⟨.request v.request,v.now,v.traffic,[]⟩

section

variable {ip : Type}

/-- No two records share an address, enabled or not. -/
def Distinct (n : PeerNode ip) : Prop :=
  ∀ r∈n.store.rows,∀ q∈n.store.rows,r.assignedIp=q.assignedIp → r=q

instance [DecidableEq ip] (n : PeerNode ip) : Decidable (Distinct n) :=
  inferInstanceAs (Decidable (∀ r∈n.store.rows,∀ q∈n.store.rows,r.assignedIp=q.assignedIp → r=q))

/-- The interface and its saved configuration have exactly the enabled peers. -/
def Mirrored (n : PeerNode ip) : Prop := Matches n.live n.store ∧ Matches n.saved n.store

/-- The requests that make or drop the record of a key. -/
def Renews (k : Int) : PeerRequest ip → Prop
  | .createPeer j _ _ | .deletePeer j => j=k
  | .disablePeer _ | .enablePeer _ | .setAllowedIps _ | .getPeerStatus _ => False

theorem apart_of_distinct {n : PeerNode ip} (h : Distinct n) : Apart n.store := by
  intro j k l hj hk
  obtain ⟨r,hr,hrkey,hrl⟩ := wanted_some hj
  obtain ⟨q,hq,hqkey,hql⟩ := wanted_some hk
  have hsame : r.assignedIp=q.assignedIp := List.singleton_inj.mp (hrl.symm.trans hql)
  rw [← hrkey,← hqkey,h r (List.mem_filter.mp hr).1 q (List.mem_filter.mp hq).1 hsame]

variable {n : PeerNode ip} {live : WgPeers ip} {store store' : PeerStore ip} {k : Int} {a : ip}

theorem matches_taken (h : Matches live store)
    (hstore : ∀ j,wanted store' j=if j=k then none else wanted store j) :
    Matches (live.remove k) store' := by
  intro j
  rw [WgPeers.allowedAt_remove,hstore,h j]

/-- The record, but for whether it is enabled. -/
def keptAt (n : PeerNode ip) (k : Int) : Option (PeerRecord ip) :=
  (n.store.get? k).map fun r => {r with enabled := true}

theorem keptAt_setEnabled (j : Int) (on : Bool) (live saved : WgPeers ip) :
    keptAt ⟨n.store.setEnabled j on,live,saved⟩ k=keptAt n k := by
  unfold keptAt
  rw [PeerStore.get?_setEnabled]
  by_cases hkj : k=j
  · rw [if_pos hkj,Option.map_map]
    rfl
  · rw [if_neg hkj]

variable [DecidableEq ip]

/-- Disabled, the record keeps its key and address, whatever comes in between, and enabling it
restores the peer. -/
def Restores (n : PeerNode ip) : Prop := ∀ k r,n.store.get? k=some r →
  ∀ now traffic,
    let off := serve n ⟨.disablePeer k,now,traffic⟩
    off.store.get? k=some {r with enabled := false} ∧ off.live.allowedAt k=none ∧
    ∀ visits : List (PeerVisit ip),(∀ v∈visits,¬Renews k v.request) → ∀ now traffic,
      let on := serve (visits.foldl serve off) ⟨.enablePeer k,now,traffic⟩
      on.store.get? k=some {r with enabled := true} ∧
        on.live.allowedAt k=some [r.assignedIp] ∧ on.saved.allowedAt k=some [r.assignedIp]

theorem serve_createPeer (k deviceId : Int) (a : ip) (now : Int) (traffic : Int → PeerTraffic) :
    serve n ⟨.createPeer k deviceId a,now,traffic⟩=
      ⟨n.store.upsert k deviceId a true now,n.live.set k [a],n.live.set k [a]⟩ := rfl

theorem serve_deletePeer (k now : Int) (traffic : Int → PeerTraffic) :
    serve n ⟨.deletePeer k,now,traffic⟩=⟨n.store.delete k,n.live.remove k,n.live.remove k⟩ := rfl

theorem serve_disablePeer {r : PeerRecord ip} (h : n.store.get? k=some r) (now : Int)
    (traffic : Int → PeerTraffic) : serve n ⟨.disablePeer k,now,traffic⟩=
      ⟨n.store.setEnabled k false,n.live.remove k,n.live.remove k⟩ :=
  congrArg (fun result => result.2.toPeerNode) (storedPeer_present
    (s := ⟨n,now,traffic,[]⟩) h fun _ => disablePeer true k)

theorem serve_disablePeer_absent (h : n.store.get? k=none) (now : Int)
    (traffic : Int → PeerTraffic) : serve n ⟨.disablePeer k,now,traffic⟩=n :=
  congrArg (fun result => result.2.toPeerNode) (storedPeer_absent
    (s := ⟨n,now,traffic,[]⟩) h fun _ => disablePeer true k)

theorem serve_enablePeer {r : PeerRecord ip} (h : n.store.get? k=some r) (now : Int)
    (traffic : Int → PeerTraffic) : serve n ⟨.enablePeer k,now,traffic⟩=
      ⟨n.store.setEnabled k true,n.live.set k [r.assignedIp],n.live.set k [r.assignedIp]⟩ := by
  have hfound := storedPeer_present (s := ⟨n,now,traffic,[]⟩) h fun _ => enablePeer true k
  have hrun := enablePeer_run (s := ⟨n,now,traffic,[]⟩) h
  exact congrArg (fun result => result.2.toPeerNode) (hfound.trans hrun)

theorem serve_enablePeer_absent (h : n.store.get? k=none) (now : Int)
    (traffic : Int → PeerTraffic) : serve n ⟨.enablePeer k,now,traffic⟩=n :=
  congrArg (fun result => result.2.toPeerNode) (storedPeer_absent
    (s := ⟨n,now,traffic,[]⟩) h fun _ => enablePeer true k)

theorem serve_setAllowedIps (k now : Int) (traffic : Int → PeerTraffic) :
    serve n ⟨.setAllowedIps k,now,traffic⟩=n := setAllowedIps_keeps k ⟨n,now,traffic,[]⟩

theorem serve_getPeerStatus (k now : Int) (traffic : Int → PeerTraffic) :
    serve n ⟨.getPeerStatus k,now,traffic⟩=n := getPeerStatus_keeps k ⟨n,now,traffic,[]⟩

/-- A peer is given an address no other enabled one has. -/
theorem matches_given (h : Matches live store)
    (hstore : ∀ j,wanted store' j=if j=k then some [a] else wanted store j)
    (hown : Apart store') : Matches (live.set k [a]) store' := by
  intro j
  rw [WgPeers.allowedAt_set,hstore]
  by_cases hjk : j=k
  · rw [if_pos hjk,if_pos hjk]
  · rw [if_neg hjk,if_neg hjk,h j]
    cases hj : wanted store j with
    | none => rfl
    | some l =>
      obtain ⟨r,hr,hkey,hl⟩ := wanted_some hj
      have hother : r.assignedIp≠a := by
        intro he
        apply hjk
        apply hown j k [a]
        · rw [hstore,if_neg hjk,hj,hl,he]
        · rw [hstore,if_pos rfl]
      rw [Option.map_some,hl]
      congr 1
      apply List.filter_eq_self.mpr
      intro b hb
      rw [List.mem_singleton.mp hb]
      exact decide_eq_true fun hmem => hother (List.mem_singleton.mp hmem)

/-- A request that leaves no two records with one address keeps the mirror. -/
theorem mirrored_step (v : PeerVisit ip) (hn : Mirrored n) (hd : Distinct (serve n v)) :
    Mirrored (serve n v) := by
  have hboth : ∀ {x : WgPeers ip} {s : PeerStore ip},Matches x s → Mirrored ⟨s,x,x⟩ :=
    fun h => ⟨h,h⟩
  obtain ⟨request,now,traffic⟩ := v
  cases request with
  | createPeer k deviceId a =>
    rw [serve_createPeer] at hd ⊢
    apply hboth
    apply matches_given hn.1 (fun j => wanted_upsert deviceId now)
    exact apart_of_distinct hd
  | deletePeer k =>
    rw [serve_deletePeer]
    apply hboth
    exact matches_taken hn.1 fun j => wanted_delete
  | disablePeer k =>
    cases hk : n.store.get? k with
    | none =>
      rw [serve_disablePeer_absent hk]
      exact hn
    | some r =>
      rw [serve_disablePeer hk]
      apply hboth
      exact matches_taken hn.1 fun j => wanted_disabled
  | enablePeer k =>
    cases hk : n.store.get? k with
    | none =>
      rw [serve_enablePeer_absent hk]
      exact hn
    | some r =>
      rw [serve_enablePeer hk] at hd ⊢
      apply hboth
      apply matches_given hn.1 (fun j => wanted_enabled hk)
      exact apart_of_distinct hd
  | setAllowedIps k =>
    rw [serve_setAllowedIps]
    exact hn
  | getPeerStatus k =>
    rw [serve_getPeerStatus]
    exact hn

theorem keptAt_serve {v : PeerVisit ip} (h : ¬Renews k v.request) :
    keptAt (serve n v) k=keptAt n k := by
  obtain ⟨request,now,traffic⟩ := v
  cases request with
  | createPeer j deviceId a =>
    rw [serve_createPeer]
    unfold keptAt PeerStore.upsert
    rw [Store.get?_upsert]
    rw [if_neg fun he => h he.symm]
  | deletePeer j =>
    rw [serve_deletePeer]
    unfold keptAt
    rw [Store.get?_delete,if_neg fun he => h he.symm]
  | disablePeer j =>
    cases hj : n.store.get? j with
    | none => rw [serve_disablePeer_absent hj]
    | some r => rw [serve_disablePeer hj,keptAt_setEnabled]
  | enablePeer j =>
    cases hj : n.store.get? j with
    | none => rw [serve_enablePeer_absent hj]
    | some r => rw [serve_enablePeer hj,keptAt_setEnabled]
  | setAllowedIps j => rw [serve_setAllowedIps]
  | getPeerStatus j => rw [serve_getPeerStatus]

theorem keptAt_visits (visits : List (PeerVisit ip)) (h : ∀ v∈visits,¬Renews k v.request) :
    keptAt (visits.foldl serve n) k=keptAt n k := by
  induction visits generalizing n with
  | nil => rfl
  | cons v visits ih =>
    have hrest := ih (n := serve n v) fun w hw => h w (List.mem_cons_of_mem v hw)
    exact hrest.trans (keptAt_serve (h v List.mem_cons_self))

theorem restores (n : PeerNode ip) : Restores n := by
  intro k r hr now traffic off
  have hoff : off=_ := serve_disablePeer hr now traffic
  have hgone : off.store.get? k=some {r with enabled := false} := by
    rw [hoff,PeerStore.get?_setEnabled,if_pos rfl,hr]
    rfl
  constructor
  · exact hgone
  constructor
  · rw [hoff,WgPeers.allowedAt_remove,if_pos rfl]
  · intro visits hvisits later traffic' on
    have hkept := keptAt_visits (n := off) visits hvisits
    unfold keptAt at hkept
    rw [hgone] at hkept
    obtain ⟨q,hq,hqr⟩ := Option.map_eq_some_iff.mp hkept
    have hip : q.assignedIp=r.assignedIp := by
      have hboth := congrArg PeerRecord.assignedIp hqr
      exact hboth
    have hon : on=_ := serve_enablePeer hq later traffic'
    constructor
    · rw [hon,PeerStore.get?_setEnabled,if_pos rfl,hq]
      exact congrArg some hqr
    · rw [hon]
      rw [WgPeers.allowedAt_set_self,hip]
      exact ⟨rfl,rfl⟩

/-- The interface refines the store for as long as its records have addresses of their own. -/
theorem peers_refine (visits : List (PeerVisit ip))
    (h : Throughout Distinct serve .initial visits) :
    Throughout (fun n => Mirrored n ∧ Restores n) serve .initial visits := by
  have hinitial : Mirrored (.initial : PeerNode ip) := ⟨fun _ => rfl,fun _ => rfl⟩
  have hmirrored := h.invariant (fun n v hn hd => mirrored_step v hn hd) _ visits hinitial
  exact hmirrored.and restores

end

/-- A peer is disabled twice, enabled again and deleted disabled; the requests after that find
nothing. -/
def visited : List (PeerVisit Nat) :=
  [.createPeer 1 7 2,.createPeer 2 8 3,.disablePeer 1,.disablePeer 1,.enablePeer 1,
    .setAllowedIps 1,.disablePeer 1,.getPeerStatus 1,.deletePeer 1,.disablePeer 1,.enablePeer 1,
    .createPeer 3 9 2].map fun request => ⟨request,0,fun _ => ⟨none,0,0⟩⟩

theorem peers_refine_visited :
    Throughout (fun n => Mirrored n ∧ Restores n) serve .initial visited :=
  peers_refine visited (by decide)

end VpnService.Agent
