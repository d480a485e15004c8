import VpnService.Agent.PeerReconciler

namespace VpnService.Agent

/-- A request, a restart of the agent, or a reload of the interface, which saves itself on the way
down unless it crashes. -/
inductive PeerEvent (ip : Type)
  | request (request : PeerRequest ip)
  | restart
  | reload (crashed : Bool)

structure PeerCall (ip : Type) where
  event : PeerEvent ip
  now : Int
  traffic : Int → PeerTraffic
  outcomes : List CommandOutcome

def PeerNode.initial {ip : Type} : PeerNode ip := ⟨.empty,.empty,.empty⟩

section

variable {ip : Type} {store : PeerStore ip} {live : WgPeers ip} {k j : Int} {a : ip} {l : List ip}

/-- What the store wants the interface to allow the key. -/
def wanted (store : PeerStore ip) (k : Int) : Option (List ip) :=
  ((store.get? k).filter PeerRecord.enabled).map fun r => [r.assignedIp]

/-- The interface has exactly the enabled peers. -/
def Matches (live : WgPeers ip) (store : PeerStore ip) : Prop :=
  ∀ k,live.allowedAt k=wanted store k

/-- All peers of the interface are wanted. -/
def Strayless (live : WgPeers ip) (store : PeerStore ip) : Prop :=
  ∀ k,(live.allowedAt k).isSome=true → (wanted store k).isSome=true

/-- No two enabled peers share an address. -/
def Apart (store : PeerStore ip) : Prop :=
  ∀ j k l,wanted store j=some l → wanted store k=some l → j=k

theorem wanted_some (h : wanted store k=some l) :
    ∃ r∈store.rows.filter PeerRecord.enabled,r.publicKey=k ∧ l=[r.assignedIp] := by
  obtain ⟨r,hr,hl⟩ := Option.map_eq_some_iff.mp h
  obtain ⟨hget,hon⟩ := Option.filter_eq_some_iff.mp hr
  exact ⟨r,List.mem_filter.mpr ⟨Store.mem_of_get? hget,hon⟩,Store.key_of_get? hget,hl.symm⟩

theorem wanted_of_mem {r : PeerRecord ip} (hr : r∈store.rows.filter PeerRecord.enabled) :
    wanted store r.publicKey=some [r.assignedIp] := by
  obtain ⟨hrow,hon⟩ := List.mem_filter.mp hr
  have hget : store.get? r.publicKey=some r := store.get?_of_mem hrow
  unfold wanted
  rw [hget,Option.filter_some_pos hon]
  rfl

theorem wanted_upsert (deviceId now : Int) : wanted (store.upsert k deviceId a true now) j=
    if j=k then some [a] else wanted store j := by
  unfold wanted PeerStore.upsert
  rw [Store.get?_upsert]
  by_cases h : j=k
  · rw [if_pos h,if_pos h]
    rfl
  · rw [if_neg h,if_neg h]

theorem wanted_delete : wanted (store.delete k) j=if j=k then none else wanted store j := by
  unfold wanted
  rw [Store.get?_delete]
  by_cases h : j=k
  · rw [if_pos h,if_pos h]
    rfl
  · rw [if_neg h,if_neg h]

theorem wanted_disabled :
    wanted (store.setEnabled k false) j=if j=k then none else wanted store j := by
  unfold wanted
  rw [PeerStore.get?_setEnabled]
  by_cases h : j=k
  · rw [if_pos h,if_pos h]
    cases store.get? j with
    | none => rfl
    | some r => rfl
  · rw [if_neg h,if_neg h]

theorem wanted_enabled {r : PeerRecord ip} (hr : store.get? k=some r) :
    wanted (store.setEnabled k true) j=
      if j=k then some [r.assignedIp] else wanted store j := by
  unfold wanted
  rw [PeerStore.get?_setEnabled]
  by_cases h : j=k
  · rw [if_pos h,if_pos h,h,hr]
    rfl
  · rw [if_neg h,if_neg h]

theorem saveConfig_keeps (s : PeerSession ip) :
    (saveConfig s).2.store=s.store ∧ (saveConfig s).2.live=s.live := by
  unfold saveConfig runChecked
  split <;> exact ⟨rfl,rfl⟩

/-- A request's `wg` command alters the interface unless it fails without effect. -/
theorem command_node (effect : WgPeers ip → WgPeers ip) (s : PeerSession ip) :
    let t := ((runChecked "wg" (fun n => {n with live := effect n.live}) >>=
      fun _ => saveConfig) s).2
    t.store=s.store ∧
      t.live=if s.outcomes.head?=some .failsBefore then s.live else effect s.live := by
  obtain ⟨⟨store,live,saved⟩,now,traffic,outcomes⟩ := s
  cases outcomes with
  | nil => exact ⟨rfl,rfl⟩
  | cons o os =>
    cases o with
    | succeeds => exact saveConfig_keeps ⟨⟨store,effect live,saved⟩,now,traffic,os⟩
    | failsBefore => exact ⟨rfl,rfl⟩
    | failsAfter => exact ⟨rfl,rfl⟩

theorem storedPeer_absent {β : Type} {s : PeerSession ip} (h : s.store.get? k=none)
    (f : PeerRecord ip → PeerReq ip β) :
    (storedPeer k >>= f) s=(.error .peerNotFound,s) := by
  unfold storedPeer getRecord
  simp only [Eff.bind_run,Eff.reads_run,h,Eff.orRaise_none,Eff.raise_run]

theorem storedPeer_present {β : Type} {s : PeerSession ip} {r : PeerRecord ip}
    (h : s.store.get? k=some r) (f : PeerRecord ip → PeerReq ip β) :
    (storedPeer k >>= f) s=f r s := by
  unfold storedPeer getRecord
  simp only [Eff.bind_run,Eff.reads_run,h,Eff.orRaise_some,Eff.pure_run]

/-- What only reads the node. -/
abbrev nodeFrame : Frame (PeerSession ip) := .keeping PeerSession.toPeerNode

theorem storedPeer_keeps (k : Int) : Within nodeFrame (storedPeer k : PeerReq ip _) :=
  (Within.reads _).bind fun _ => Within.orRaise _ _

theorem dump_keeps : Within nodeFrame (dump : PeerReq ip _) := by
  apply Within.bind
  · intro s
    unfold runChecked WithinAt
    dsimp only
    split <;> rfl
  · exact fun _ => Within.reads _

end

section

variable {ip : Type} [DecidableEq ip]

/-- What the startup pass leaves live. -/
def applyPeers (rs : List (PeerRecord ip)) (live : WgPeers ip) : WgPeers ip :=
  rs.foldl (fun x r => x.set r.publicKey [r.assignedIp]) live

theorem applyPeers_outside {rs : List (PeerRecord ip)} {k : Int}
    (h : k∉rs.map PeerRecord.publicKey) (live : WgPeers ip) :
    (applyPeers rs live).allowedAt k=
      (live.allowedAt k).map fun l => l.filter fun a => a∉rs.map PeerRecord.assignedIp := by
  induction rs generalizing live with
  | nil =>
    show live.allowedAt k=_
    simp
  | cons r rs ih =>
    rw [List.map_cons,List.mem_cons,not_or] at h
    show (applyPeers rs (live.set r.publicKey [r.assignedIp])).allowedAt k=_
    rw [ih h.2,WgPeers.allowedAt_set,if_neg h.1,Option.map_map]
    congr 1
    funext l
    show ((l.filter _).filter _)=_
    rw [List.filter_filter]
    congr 1
    funext a
    rw [List.map_cons]
    simp [List.mem_cons,Bool.and_comm,-List.mem_map]

theorem applyPeers_at {rs : List (PeerRecord ip)} {r : PeerRecord ip}
    (hkeys : (rs.map PeerRecord.publicKey).Nodup) (hips : (rs.map PeerRecord.assignedIp).Nodup)
    (hr : r∈rs) (live : WgPeers ip) :
    (applyPeers rs live).allowedAt r.publicKey=some [r.assignedIp] := by
  induction rs generalizing live with
  | nil => exact absurd hr List.not_mem_nil
  | cons q rs ih =>
    rw [List.map_cons,List.nodup_cons] at hkeys hips
    show (applyPeers rs (live.set q.publicKey [q.assignedIp])).allowedAt r.publicKey=_
    rcases List.mem_cons.mp hr with hr|hr
    · have hkept : ([q.assignedIp].filter fun a => a∉rs.map PeerRecord.assignedIp)=
          [q.assignedIp] := List.filter_eq_self.mpr fun a ha => by
        rw [List.mem_singleton.mp ha]
        exact decide_eq_true hips.1
      rw [hr,applyPeers_outside hkeys.1,WgPeers.allowedAt_set_self,Option.map_some,hkept]
    · exact ih hkeys.2 hips.2 hr _

theorem applyPeers_sole {rs : List (PeerRecord ip)} {live : WgPeers ip} {a : ip}
    (h : live.Sole a ∨ a∈rs.map PeerRecord.assignedIp) : (applyPeers rs live).Sole a := by
  induction rs generalizing live with
  | nil =>
    rcases h with h|h
    · exact h
    · exact absurd h List.not_mem_nil
  | cons r rs ih =>
    apply ih
    rcases h with h|h
    · exact Or.inl (WgPeers.sole_set h)
    · rcases List.mem_cons.mp h with h|h
      · exact Or.inl (WgPeers.sole_given (List.mem_singleton.mpr h))
      · exact Or.inr h

/-- The node after the event; `apply_to_live_interface` is on. -/
def performPeer (n : PeerNode ip) (c : PeerCall ip) : PeerNode ip := match c.event with
  | .request request => (request.endpoint true ⟨n,c.now,c.traffic,c.outcomes⟩).2.toPeerNode
  | .restart => (reconcileOnStartup true ⟨n,c.now,c.traffic,c.outcomes⟩).2.toPeerNode
  | .reload true => {n with live := n.saved}
  | .reload false => {n with saved := n.live}

/-- A restart of the agent, all its commands succeeding, makes the interface match. -/
def Healed (n : PeerNode ip) : Prop := ∀ now traffic,
  ∃ t,reconcileOnStartup true ⟨n,now,traffic,[]⟩=(.ok (),t) ∧ t.store=n.store ∧
    Matches t.live n.store

/-- The `wg` command that takes the peer off the interface does its work. -/
def TakesOff (n : PeerNode ip) (c : PeerCall ip) (k : Int) : Prop :=
  (n.live.allowedAt k).isSome=true → c.outcomes.head?≠some .failsBefore

/-- The event takes no address of another enabled peer, does not fail to take a peer off the
interface, and brings back no saved peer that is not wanted. -/
def Repairable (n : PeerNode ip) (c : PeerCall ip) : Prop := match c.event with
  | .request (.createPeer k _ assignedIp) => ∀ j,wanted n.store j=some [assignedIp] → j=k
  | .request (.enablePeer k) => ∀ r,n.store.get? k=some r →
    ∀ j,wanted n.store j=some [r.assignedIp] → j=k
  | .request (.deletePeer k) | .request (.disablePeer k) => TakesOff n c k
  | .request (.setAllowedIps _) | .request (.getPeerStatus _) | .restart | .reload false => True
  | .reload true => Strayless n.saved n.store

theorem reconcileOnStartup_run (n : PeerNode ip) (now : Int) (traffic : Int → PeerTraffic) :
    reconcileOnStartup true ⟨n,now,traffic,[]⟩=
      (.ok (),⟨{n with live := applyPeers (n.store.rows.filter PeerRecord.enabled) n.live},now,
        traffic,[]⟩) := by
  have heach : ∀ (rs : List (PeerRecord ip)) (live : WgPeers ip),
      Eff.each (fun r => addOrUpdatePeer r.publicKey [r.assignedIp]) rs
          (⟨⟨n.store,live,n.saved⟩,now,traffic,[]⟩ : PeerSession ip)=
        (.ok (),⟨⟨n.store,applyPeers rs live,n.saved⟩,now,traffic,[]⟩) := by
    intro rs
    induction rs with
    | nil => exact fun _ => rfl
    | cons r rs ih => exact fun live => ih (live.set r.publicKey [r.assignedIp])
  exact heach (n.store.rows.filter PeerRecord.enabled) n.live

theorem healed_iff {n : PeerNode ip} : Healed n ↔ Strayless n.live n.store ∧ Apart n.store := by
  have hmatches : Healed n ↔
      Matches (applyPeers (n.store.rows.filter PeerRecord.enabled) n.live) n.store := by
    constructor
    · intro h
      obtain ⟨t,ht,_,hmatch⟩ := h 0 fun _ => ⟨none,0,0⟩
      rw [reconcileOnStartup_run] at ht
      cases ht
      exact hmatch
    · exact fun h now traffic => ⟨_,reconcileOnStartup_run n now traffic,rfl,h⟩
  have houtside : ∀ k,wanted n.store k=none →
      k∉(n.store.rows.filter PeerRecord.enabled).map PeerRecord.publicKey := by
    intro k hk hmem
    obtain ⟨r,hr,hkey⟩ := List.mem_map.mp hmem
    rw [← hkey,wanted_of_mem hr] at hk
    cases hk
  rw [hmatches]
  constructor
  · intro h
    constructor
    · intro k hlive
      by_contra hnot
      have hnone := Option.not_isSome_iff_eq_none.mp hnot
      have hk := h k
      rw [applyPeers_outside (houtside k hnone),hnone] at hk
      rw [Option.map_eq_none_iff.mp hk] at hlive
      cases hlive
    · intro j k l hj hk
      obtain ⟨r,hr,_,hl⟩ := wanted_some hj
      have hsole : (applyPeers (n.store.rows.filter PeerRecord.enabled) n.live).Sole
          r.assignedIp := applyPeers_sole (Or.inr (List.mem_map.mpr ⟨r,hr,rfl⟩))
      have hmem : r.assignedIp∈l := by
        rw [hl]
        exact List.mem_singleton.mpr rfl
      exact hsole j l ((h j).trans hj) hmem k l ((h k).trans hk) hmem
  · intro ⟨hstray,hapart⟩ k
    cases hk : wanted n.store k with
    | none =>
      have hlive : n.live.allowedAt k=none := by
        by_contra hsome
        have hwanted := hstray k (Option.isSome_iff_ne_none.mpr hsome)
        rw [hk] at hwanted
        cases hwanted
      rw [applyPeers_outside (houtside k hk),hlive]
      rfl
    | some l =>
      obtain ⟨r,hr,hkey,hl⟩ := wanted_some hk
      rw [← hkey,hl]
      apply applyPeers_at _ _ hr
      · exact n.store.nodup.sublist (List.filter_sublist.map _)
      · apply List.Nodup.map_on
        · intro p hp q hq he
          have hpq : p.publicKey=q.publicKey := hapart _ _ [p.assignedIp] (wanted_of_mem hp) (by
            rw [he]
            exact wanted_of_mem hq)
          exact Store.eq_of_key (List.mem_filter.mp hp).1 (List.mem_filter.mp hq).1 hpq
        · exact (List.Nodup.of_map _ n.store.nodup).filter _

section

variable {n n' : PeerNode ip} {k : Int} {a : ip}

theorem enablePeer_run {s : PeerSession ip} {r : PeerRecord ip} (h : s.store.get? k=some r) :
    enablePeer true k s=
    (addOrUpdatePeer k [r.assignedIp] >>= fun _ => saveConfig)
      {s with store := s.store.setEnabled k true} := by
  unfold enablePeer getRecord
  simp only [Eff.bind_run,Eff.reads_run,h]
  rfl

theorem setAllowedIps_keeps (k : Int) :
    Within nodeFrame ((PeerRequest.setAllowedIps k : PeerRequest ip).endpoint true) :=
  (storedPeer_keeps k).bind fun _ => (Within.reads _).bind fun _ => Within.pure _

theorem getPeerStatus_keeps (k : Int) :
    Within nodeFrame ((PeerRequest.getPeerStatus k : PeerRequest ip).endpoint true) := by
  apply Within.bind
  · apply (storedPeer_keeps k).bind
    intro record
    apply Within.ite
    · apply Within.bind
      · exact dump_keeps.bind fun _ => Within.pure _
      · exact fun _ => Within.pure _
    · exact Within.pure _
  · exact fun _ => Within.pure _

/-- A peer is given an address, in the store and perhaps on the interface. -/
theorem healed_given (hn : Healed n)
    (hstore : ∀ j,wanted n'.store j=if j=k then some [a] else wanted n.store j)
    (hlive : n'.live=n.live ∨ n'.live=n.live.set k [a]) :
    Healed n' ↔ ∀ j,wanted n.store j=some [a] → j=k := by
  obtain ⟨hstray,hapart⟩ := healed_iff.mp hn
  have hstray' : Strayless n'.live n'.store := by
    intro j hj
    rw [hstore]
    by_cases hjk : j=k
    · rw [if_pos hjk]
      rfl
    · rw [if_neg hjk]
      apply hstray
      rcases hlive with hlive|hlive
      · rwa [hlive] at hj
      · rwa [hlive,WgPeers.allowedAt_set,if_neg hjk,Option.isSome_map] at hj
  rw [healed_iff]
  constructor
  · intro ⟨_,hapart'⟩ j hj
    by_contra hjk
    apply hjk
    apply hapart' j k [a]
    · rw [hstore,if_neg hjk,hj]
    · rw [hstore,if_pos rfl]
  · intro hown
    constructor
    · exact hstray'
    · intro i j l hi hj
      rw [hstore] at hi hj
      by_cases hik : i=k
      · by_cases hjk : j=k
        · rw [hik,hjk]
        · rw [if_pos hik] at hi
          rw [if_neg hjk,← hi] at hj
          exact absurd (hown j hj) hjk
      · rw [if_neg hik] at hi
        by_cases hjk : j=k
        · rw [if_pos hjk] at hj
          rw [← hj] at hi
          exact absurd (hown i hi) hik
        · rw [if_neg hjk] at hj
          exact hapart i j l hi hj

/-- A peer is taken from the store, and off the interface unless the command fails. -/
theorem healed_taken (hn : Healed n) {failed : Prop} [Decidable failed]
    (hstore : ∀ j,wanted n'.store j=if j=k then none else wanted n.store j)
    (hlive : n'.live=if failed then n.live else n.live.remove k) :
    Healed n' ↔ ((n.live.allowedAt k).isSome=true → ¬failed) := by
  obtain ⟨hstray,hapart⟩ := healed_iff.mp hn
  have hapart' : Apart n'.store := by
    intro i j l hi hj
    rw [hstore] at hi hj
    by_cases hik : i=k
    · rw [if_pos hik] at hi
      cases hi
    · by_cases hjk : j=k
      · rw [if_pos hjk] at hj
        cases hj
      · rw [if_neg hik] at hi
        rw [if_neg hjk] at hj
        exact hapart i j l hi hj
  rw [healed_iff]
  constructor
  · intro ⟨hstray',_⟩ hk hfailed
    rw [if_pos hfailed] at hlive
    have hwanted : (wanted n'.store k).isSome=true := by
      apply hstray'
      rw [hlive]
      exact hk
    rw [hstore,if_pos rfl] at hwanted
    cases hwanted
  · intro hoff
    constructor
    · intro j hj
      rw [hstore]
      by_cases hfailed : failed
      · rw [hlive,if_pos hfailed] at hj
        by_cases hjk : j=k
        · rw [hjk] at hj
          exact absurd hfailed (hoff hj)
        · rw [if_neg hjk]
          exact hstray j hj
      · rw [hlive,if_neg hfailed,WgPeers.allowedAt_remove] at hj
        by_cases hjk : j=k
        · rw [if_pos hjk] at hj
          cases hj
        · rw [if_neg hjk] at hj ⊢
          exact hstray j hj
    · exact hapart'

theorem addOrUpdatePeer_strayless (ips : List ip) {s : PeerSession ip}
    (hk : (wanted s.store k).isSome=true) (hs : Strayless s.live s.store) :
    (addOrUpdatePeer k ips s).2.store=s.store ∧
      Strayless (addOrUpdatePeer k ips s).2.live s.store := by
  have hset : Strayless (s.live.set k ips) s.store := by
    intro j hj
    rw [WgPeers.allowedAt_set] at hj
    by_cases hjk : j=k
    · rw [hjk]
      exact hk
    · rw [if_neg hjk,Option.isSome_map] at hj
      exact hs j hj
  unfold addOrUpdatePeer runChecked
  split
  · exact ⟨rfl,hset⟩
  · exact ⟨rfl,hset⟩
  · exact ⟨rfl,hs⟩
  · exact ⟨rfl,hset⟩

/-- However far the startup pass gets, it brings in wanted peers only. -/
theorem reconcileOnStartup_strayless {s : PeerSession ip} (hs : Strayless s.live s.store) :
    (reconcileOnStartup true s).2.store=s.store ∧
      Strayless (reconcileOnStartup true s).2.live s.store := by
  have heach : ∀ (rs : List (PeerRecord ip)) (t : PeerSession ip),
      (∀ r∈rs,(wanted t.store r.publicKey).isSome=true) → Strayless t.live t.store →
      let u := (Eff.each (fun r => addOrUpdatePeer r.publicKey [r.assignedIp]) rs t).2
      u.store=t.store ∧ Strayless u.live t.store := by
    intro rs
    induction rs with
    | nil => exact fun t _ ht => ⟨rfl,ht⟩
    | cons r rs ih =>
      intro t hrs ht
      obtain ⟨hstore,hstray⟩ :=
        addOrUpdatePeer_strayless [r.assignedIp] (hrs r List.mem_cons_self) ht
      cases hrun : addOrUpdatePeer r.publicKey [r.assignedIp] t with
      | mk result u =>
        rw [hrun] at hstore hstray
        dsimp only at hstore hstray
        rw [Eff.each_cons]
        cases result with
        | error e =>
          rw [Eff.bind_run_error hrun]
          exact ⟨hstore,hstray⟩
        | ok =>
          rw [Eff.bind_run_ok hrun]
          have hrest := ih u
            (fun q hq => by rw [hstore]; exact hrs q (List.mem_cons_of_mem r hq))
            (by rw [hstore]; exact hstray)
          rw [hstore] at hrest
          exact hrest
  apply heach (s.store.rows.filter PeerRecord.enabled) s _ hs
  intro r hr
  rw [wanted_of_mem hr]
  rfl

/-- A step keeps the agent able to heal just when it is repairable. -/
theorem healed_step (c : PeerCall ip) (hn : Healed n) :
    Healed (performPeer n c) ↔ Repairable n c := by
  obtain ⟨hstray,hapart⟩ := healed_iff.mp hn
  obtain ⟨event,now,traffic,outcomes⟩ := c
  cases event with
  | request request =>
    cases request with
    | createPeer k deviceId a =>
      obtain ⟨hstore,hlive⟩ := command_node (fun live => live.set k [a])
        ⟨⟨n.store.upsert k deviceId a true now,n.live,n.saved⟩,now,traffic,outcomes⟩
      apply healed_given hn
      · intro j
        rw [← wanted_upsert deviceId now]
        exact congrArg (wanted · j) hstore
      · dsimp only at hlive
        by_cases hfails : outcomes.head?=some .failsBefore
        · rw [if_pos hfails] at hlive
          exact Or.inl hlive
        · rw [if_neg hfails] at hlive
          exact Or.inr hlive
    | deletePeer k =>
      obtain ⟨hstore,hlive⟩ := command_node (fun live => live.remove k)
        ⟨⟨n.store.delete k,n.live,n.saved⟩,now,traffic,outcomes⟩
      apply healed_taken hn
      · intro j
        rw [← wanted_delete]
        exact congrArg (wanted · j) hstore
      · exact hlive
    | disablePeer k =>
      cases hk : n.store.get? k with
      | none =>
        have hsame : performPeer n ⟨.request (.disablePeer k),now,traffic,outcomes⟩=n :=
          congrArg (fun result => result.2.toPeerNode) (storedPeer_absent
            (s := ⟨n,now,traffic,outcomes⟩) hk fun _ => Agent.disablePeer true k)
        rw [hsame]
        apply iff_of_true hn
        intro hlive
        have hwanted := hstray k hlive
        unfold wanted at hwanted
        rw [hk] at hwanted
        cases hwanted
      | some r =>
        obtain ⟨hstore,hlive⟩ := command_node (fun live => live.remove k)
          ⟨⟨n.store.setEnabled k false,n.live,n.saved⟩,now,traffic,outcomes⟩
        have hrun := congrArg (fun result => result.2.toPeerNode) (storedPeer_present
          (s := ⟨n,now,traffic,outcomes⟩) hk fun _ => Agent.disablePeer true k)
        apply healed_taken hn
        · intro j
          rw [← wanted_disabled]
          exact congrArg (wanted · j) ((congrArg PeerNode.store hrun).trans hstore)
        · exact (congrArg PeerNode.live hrun).trans hlive
    | enablePeer k =>
      cases hk : n.store.get? k with
      | none =>
        have hsame : performPeer n ⟨.request (.enablePeer k),now,traffic,outcomes⟩=n :=
          congrArg (fun result => result.2.toPeerNode) (storedPeer_absent
            (s := ⟨n,now,traffic,outcomes⟩) hk fun _ => Agent.enablePeer true k)
        rw [hsame]
        apply iff_of_true hn
        intro r hr
        rw [hk] at hr
        cases hr
      | some r =>
        obtain ⟨hstore,hlive⟩ := command_node (fun live => live.set k [r.assignedIp])
          ⟨⟨n.store.setEnabled k true,n.live,n.saved⟩,now,traffic,outcomes⟩
        have hrun := congrArg (fun result => result.2.toPeerNode) (storedPeer_present
          (s := ⟨n,now,traffic,outcomes⟩) hk fun _ => Agent.enablePeer true k)
        have henable := congrArg (fun result => result.2.toPeerNode) (enablePeer_run
          (s := ⟨n,now,traffic,outcomes⟩) hk)
        have hgiven : Healed (performPeer n ⟨.request (.enablePeer k),now,traffic,outcomes⟩) ↔
            ∀ j,wanted n.store j=some [r.assignedIp] → j=k := by
          apply healed_given hn
          · intro j
            rw [← wanted_enabled hk]
            exact congrArg (wanted · j)
              ((congrArg PeerNode.store (hrun.trans henable)).trans hstore)
          · have hlive' := (congrArg PeerNode.live (hrun.trans henable)).trans hlive
            by_cases hfails : outcomes.head?=some .failsBefore
            · exact Or.inl (hlive'.trans (if_pos hfails))
            · exact Or.inr (hlive'.trans (if_neg hfails))
        rw [hgiven]
        constructor
        · intro hown q hq
          rw [hk] at hq
          cases hq
          exact hown
        · intro hown
          exact hown r hk
    | setAllowedIps k =>
      have hsame : performPeer n ⟨.request (.setAllowedIps k),now,traffic,outcomes⟩=n :=
        setAllowedIps_keeps k _
      rw [hsame]
      exact iff_of_true hn trivial
    | getPeerStatus k =>
      have hsame : performPeer n ⟨.request (.getPeerStatus k),now,traffic,outcomes⟩=n :=
        getPeerStatus_keeps k _
      rw [hsame]
      exact iff_of_true hn trivial
  | restart =>
    obtain ⟨hstore,hstray'⟩ := reconcileOnStartup_strayless (s := ⟨n,now,traffic,outcomes⟩) hstray
    apply iff_of_true _ trivial
    apply healed_iff.mpr
    show Strayless (reconcileOnStartup true ⟨n,now,traffic,outcomes⟩).2.live
        (reconcileOnStartup true ⟨n,now,traffic,outcomes⟩).2.store ∧
      Apart (reconcileOnStartup true ⟨n,now,traffic,outcomes⟩).2.store
    rw [hstore]
    exact ⟨hstray',hapart⟩
  | reload crashed =>
    cases crashed with
    | true =>
      rw [healed_iff]
      exact ⟨fun h => h.1,fun h => ⟨h,hapart⟩⟩
    | false => exact iff_of_true (healed_iff.mpr ⟨hstray,hapart⟩) trivial

end

/-- The agent heals after every prefix of a run just when all its steps are repairable. -/
theorem peers_heal (calls : List (PeerCall ip)) : Throughout Healed performPeer .initial calls ↔
    Conducted Repairable performPeer .initial calls := by
  have hinitial : Healed (.initial : PeerNode ip) := by
    apply healed_iff.mpr
    constructor
    · intro k hk
      cases hk
    · intro j k l hj hk
      cases hj
  exact throughout_iff_good (fun n c hn => healed_step c hn) _ calls hinitial

end

/-- A peer is deleted, and the command that takes it off the interface fails. -/
def strayed : List (PeerCall Nat) := [
  ⟨.request (.createPeer 1 7 2),0,fun _ => ⟨none,0,0⟩,[]⟩,
  ⟨.request (.deletePeer 1),1,fun _ => ⟨none,0,0⟩,[.failsBefore]⟩]

theorem peers_unhealed : let n := strayed.foldl performPeer .initial
    n.store.rows=[] ∧ ¬Healed n ∧ ∃ t,reconcileOnStartup true ⟨n,2,fun _ => ⟨none,0,0⟩,[]⟩=
      (.ok (),t) ∧ t.live.rows=[⟨1,[2]⟩] := by
  intro n
  have hlive : n.live.allowedAt 1=some [2] := rfl
  have hstore : n.store.rows=[] := rfl
  have hwanted : wanted n.store 1=none := rfl
  refine ⟨hstore,?_,_,reconcileOnStartup_run n 2 _,rfl⟩
  intro h
  have hstray := (healed_iff.mp h).1 1
  rw [hlive,hwanted] at hstray
  exact absurd (hstray rfl) (by decide)

end VpnService.Agent
