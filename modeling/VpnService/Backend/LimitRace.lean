import VpnService.Framework.Transactions
import VpnService.Backend.Statements
import Mathlib.Data.Fintype.Card

namespace VpnService.Backend

/-- The limit `_enforce_device_limit` compares with. -/
def Database.enforcedLimit (db : Database) (userId : Id) : Option Int := do
  let x ← db.activeSubscription userId
  let plan ← db.plans.get? x.planId
  pure (deviceLimit x plan)

/-- A request for a new device, and whether all that follows the insert of its row succeeds. -/
structure Provisioning where
  name : String
  protocol : VpnProtocol
  works : Bool

/-- Where a request for a new device stands. -/
inductive ProvisionPlace
  | start                  -- before the device limit
  | counted                -- the limit allows one more
  | inserted (d : Device)  -- the row is flushed
  | called (d : Device)    -- the agent has answered
  | finished
  | failed
  deriving DecidableEq

abbrev ProvisionRace (ι : Type) := Workplace Database Statement Int ι ProvisionPlace

section

variable {ι : Type} (userId : Id) (requests : ι → Provisioning)

/-- The next step of request `i`; what is outside the database is the sequence. -/
def provisionNext (i : ι) (place : ProvisionPlace) (db : Database) (serial : Int) :
    Move Statement Int ProvisionPlace := match place with
  | .start => match limitVerdict db userId with
    | .ok () => .work .counted [] serial
    | .error _ => .rollback .failed serial
  | .counted =>
    let d := freshDevice serial userId (requests i).name none (requests i).protocol
    .work (.inserted d) [.insertDevice d] (serial+1)
  | .inserted d =>
    if (requests i).works then .work (.called d) [] serial else .rollback .failed serial
  | .called _ => .commit .finished
  | .finished => .work .finished [] serial
  | .failed => .work .failed [] serial

variable [DecidableEq ι]

def provisionTick (s : ProvisionRace ι) (i : ι) : ProvisionRace ι :=
  s.tick Statement.execute (provisionNext userId requests) i

/-- The request has passed the limit and is not over. -/
def ProvisionPlace.underway : ProvisionPlace → Bool
  | .counted | .inserted _ | .called _ => true
  | _ => false

def ProvisionPlace.ended : ProvisionPlace → Bool
  | .finished | .failed => true
  | _ => false

/-- The row a request has written. -/
def ProvisionPlace.device : ProvisionPlace → Option Device
  | .inserted d | .called d => some d
  | _ => none

/-- What holds at any time: the numbers of the rows, and who has written which. -/
structure Racing (db : Database) (s : ProvisionRace ι) : Prop where
  billing : s.committed.billing=db.billing
  numbered : ∀ d∈s.committed.devices.rows,d.id<s.rest
  writes : ∀ i,(s.party i).writes=((s.party i).place.device.map Statement.insertDevice).toList
  pending : ∀ i d,(s.party i).place.device=some d → d.userId=userId ∧ d.status=.active ∧
    d.id<s.rest ∧ ∀ x∈s.committed.devices.rows,x.id≠d.id
  distinct : ∀ i j d e,(s.party i).place.device=some d → (s.party j).place.device=some e →
    d.id=e.id → i=j
  called : ∀ i d,(s.party i).place=.called d → (requests i).works=true

variable [Fintype ι]

/-- How many requests are going to add a device. -/
def underway (s : ProvisionRace ι) : Nat :=
  (Finset.univ.filter fun i => (requests i).works && (s.party i).place.underway).card

/-- The active devices the user has and is going to have. -/
def expected (s : ProvisionRace ι) : Int :=
  s.committed.countActiveDevices userId+underway requests s

/-- A request that passes the limit passes it also with the devices counted that are underway. -/
def Unhurried (s : ProvisionRace ι) (i : ι) : Prop :=
  (s.party i).place=.start → (requests i).works=true →
    limitVerdict s.committed userId=.ok () →
    ∀ n,s.committed.enforcedLimit userId=some n → expected userId requests s<n

end

theorem limitVerdict_ok_iff {db : Database} {userId : Id} : limitVerdict db userId=.ok () ↔
    ∃ n,db.enforcedLimit userId=some n ∧ db.countActiveDevices userId<n := by
  unfold limitVerdict Database.enforcedLimit
  cases hx : db.activeSubscription userId with
  | none => simp
  | some x =>
    cases hplan : db.plans.get? x.planId with
    | none => simp [hplan]
    | some plan =>
      by_cases hcount : db.countActiveDevices userId≥deviceLimit x plan
      · simp [hplan,hcount]
      · simp [hplan,hcount,Int.not_le.mp hcount]

theorem enforcedLimit_congr {a b : Database} (h : b.billing=a.billing) (userId : Id) :
    b.enforcedLimit userId=a.enforcedLimit userId := by
  simp only [Database.billing,Prod.mk.injEq] at h
  unfold Database.enforcedLimit Database.activeSubscription Database.activeSubscriptions
  rw [h.2.1,h.2.2.1]

section

variable {ι : Type} [DecidableEq ι] {userId : Id} {requests : ι → Provisioning}
  {db : Database} {s : ProvisionRace ι} {i : ι}

/-- Party `i` goes to another place, writing at most one row, whose number is its own. -/
theorem Racing.move (h : Racing userId requests db s) {place : ProvisionPlace}
    {writes : List Statement} {rest : Int} (hrest : s.rest≤rest)
    (hwrites : writes=(place.device.map Statement.insertDevice).toList)
    (hpending : ∀ d,place.device=some d → d.userId=userId ∧ d.status=.active ∧ d.id<rest ∧
      (∀ x∈s.committed.devices.rows,x.id≠d.id) ∧
      ∀ j,j≠i → ∀ e,(s.party j).place.device=some e → d.id≠e.id)
    (hcalled : ∀ d,place=.called d → (requests i).works=true) :
    Racing userId requests db
      {s with rest := rest,party := Function.update s.party i ⟨place,writes⟩} where
  billing := h.billing
  numbered d hd := (h.numbered d hd).trans_le hrest
  writes j := by
    by_cases hj : j=i
    · subst hj
      simpa using hwrites
    · simpa [hj] using h.writes j
  pending j d hd := by
    by_cases hj : j=i
    · subst hj
      obtain ⟨huser,hact,hlt,hnew,_⟩ := hpending d (by simpa using hd)
      exact ⟨huser,hact,hlt,hnew⟩
    · obtain ⟨huser,hact,hlt,hnew⟩ := h.pending j d (by simpa [hj] using hd)
      exact ⟨huser,hact,hlt.trans_le hrest,hnew⟩
  distinct j k d e hd he hid := by
    by_cases hj : j=i
    · by_cases hk : k=i
      · rw [hj,hk]
      · subst hj
        have hown := hpending d (by simpa using hd)
        exact absurd hid (hown.2.2.2.2 k hk e (by simpa [hk] using he))
    · by_cases hk : k=i
      · subst hk
        have hown := hpending e (by simpa using he)
        exact absurd hid.symm (hown.2.2.2.2 j hj d (by simpa [hj] using hd))
      · exact h.distinct j k d e (by simpa [hj] using hd) (by simpa [hk] using he) hid
  called j d hd := by
    by_cases hj : j=i
    · subst hj
      exact hcalled d (by simpa using hd)
    · exact h.called j d (by simpa [hj] using hd)

omit [DecidableEq ι] in
theorem view_called (h : Racing userId requests db s) {d : Device}
    (hd : (s.party i).place.device=some d) : s.view Statement.execute i=
      {s.committed with devices := s.committed.devices.insert d} := by
  unfold Workplace.view
  rw [h.writes i,hd]
  rfl

/-- The row a request commits has a number no other row has. -/
theorem Racing.commit (h : Racing userId requests db s) {d : Device}
    (hd : (s.party i).place.device=some d) : Racing userId requests db
      {s with
        committed := s.view Statement.execute i
        party := Function.update s.party i ⟨.finished,[]⟩} := by
  obtain ⟨huser,hact,hlt,hnew⟩ := h.pending i d hd
  rw [view_called h hd]
  constructor
  · exact h.billing
  · intro x hx
    rcases Store.mem_of_insert hx with hx|hx
    · exact h.numbered x hx
    · rw [hx]
      exact hlt
  · intro j
    by_cases hj : j=i
    · subst hj
      simp [ProvisionPlace.device]
    · simpa [hj] using h.writes j
  · intro j e he
    by_cases hj : j=i
    · subst hj
      simp [ProvisionPlace.device] at he
    · have he : (s.party j).place.device=some e := by simpa [hj] using he
      obtain ⟨heuser,heact,helt,henew⟩ := h.pending j e he
      refine ⟨heuser,heact,helt,fun x hx => ?_⟩
      rcases Store.mem_of_insert hx with hx|hx
      · exact henew x hx
      · rw [hx]
        exact fun hid => hj (h.distinct j i e d he hd hid.symm)
  · intro j k e f he hf hid
    by_cases hj : j=i
    · subst hj
      simp [ProvisionPlace.device] at he
    · by_cases hk : k=i
      · subst hk
        simp [ProvisionPlace.device] at hf
      · exact h.distinct j k e f (by simpa [hj] using he) (by simpa [hk] using hf) hid
  · intro j e he
    by_cases hj : j=i
    · subst hj
      simp at he
    · exact h.called j e (by simpa [hj] using he)

variable [Fintype ι]

/-- Party `i` moves and commits nothing. -/
theorem expected_move (userId : Id) (requests : ι → Provisioning) (s : ProvisionRace ι) (i : ι)
    (place : ProvisionPlace) (writes : List Statement) (rest : Int) :
    expected userId requests
      {s with rest := rest,party := Function.update s.party i ⟨place,writes⟩}+
        ((requests i).works && (s.party i).place.underway).toNat=
    expected userId requests s+((requests i).works && place.underway).toNat := by
  have hcard : underway requests
      {s with rest := rest,party := Function.update s.party i ⟨place,writes⟩}+
        ((requests i).works && (s.party i).place.underway).toNat=
      underway requests s+((requests i).works && place.underway).toNat :=
    card_update s.party i ⟨place,writes⟩ fun j p => (requests j).works && p.place.underway
  unfold expected
  show s.committed.countActiveDevices userId+_+_=_
  omega

/-- What a request commits it was expected to. -/
theorem expected_commit (h : Racing userId requests db s) {d : Device}
    (hplace : (s.party i).place=.called d) : expected userId requests
      {s with
        committed := s.view Statement.execute i
        party := Function.update s.party i ⟨.finished,[]⟩}=expected userId requests s := by
  have hd : (s.party i).place.device=some d := by rw [hplace]; rfl
  obtain ⟨huser,hact,_,hnew⟩ := h.pending i d hd
  have hworks := h.called i d hplace
  have hcount : (s.view Statement.execute i).countActiveDevices userId=
      s.committed.countActiveDevices userId+1 := by
    rw [view_called h hd,countActive_eq,countActive_eq,activeIn_insert hnew,if_pos ⟨huser,hact⟩]
    rfl
  have hcard : underway requests
      {s with
        committed := s.view Statement.execute i
        party := Function.update s.party i ⟨.finished,[]⟩}+
        ((requests i).works && (s.party i).place.underway).toNat=
      underway requests s+((requests i).works && ProvisionPlace.finished.underway).toNat :=
    card_update s.party i ⟨.finished,[]⟩ fun j p => (requests j).works && p.place.underway
  rw [hworks,hplace] at hcard
  simp only [ProvisionPlace.underway,Bool.and_true,Bool.and_false,Bool.toNat_true,
    Bool.toNat_false,Nat.add_zero] at hcard
  unfold expected
  show (s.view Statement.execute i).countActiveDevices userId+_=_
  rw [hcount]
  omega

/-- Whether this step lets a request pass the limit that is going to commit. -/
def Admitted (userId : Id) (requests : ι → Provisioning) (s : ProvisionRace ι) (i : ι) : Prop :=
  (s.party i).place=.start ∧ (requests i).works=true ∧ limitVerdict s.committed userId=.ok ()

/-- Party `i` goes on; the devices to expect grow by what it counts for from now on. -/
theorem Racing.step (h : Racing userId requests db s) {place : ProvisionPlace}
    {writes : List Statement} {rest : Int}
    (ht : provisionTick userId requests s i=
      {s with rest := rest,party := Function.update s.party i ⟨place,writes⟩})
    (hrest : s.rest≤ rest) (hwrites : writes=(place.device.map Statement.insertDevice).toList)
    (hpending : ∀ d,place.device=some d → d.userId=userId ∧ d.status=.active ∧ d.id<rest ∧
      (∀ x∈s.committed.devices.rows,x.id≠d.id) ∧
      ∀ j,j≠i → ∀ e,(s.party j).place.device=some e → d.id≠e.id)
    (hcalled : ∀ d,place=.called d → (requests i).works=true)
    (hin : Admitted userId requests s i →
      (s.party i).place.underway=false ∧ place.underway=true)
    (hout : ¬Admitted userId requests s i → ((requests i).works && place.underway)=
      ((requests i).works && (s.party i).place.underway)) :
    Racing userId requests db (provisionTick userId requests s i) ∧
      (Admitted userId requests s i → expected userId requests (provisionTick userId requests s i)=
        expected userId requests s+1) ∧
      (¬Admitted userId requests s i →
        expected userId requests (provisionTick userId requests s i)=
          expected userId requests s) := by
  have hmove := expected_move userId requests s i place writes rest
  rw [ht]
  refine ⟨h.move hrest hwrites hpending hcalled,fun hadmitted => ?_,fun hnot => ?_⟩
  · obtain ⟨hbefore,hafter⟩ := hin hadmitted
    rw [hbefore,hafter,hadmitted.2.1] at hmove
    simpa using hmove
  · rw [hout hnot] at hmove
    exact add_right_cancel hmove

omit [DecidableEq ι] [Fintype ι] in
/-- Past the check nobody is admitted. -/
theorem not_admitted {place : ProvisionPlace} (hplace : (s.party i).place=place)
    (hpast : place≠.start) : ¬Admitted userId requests s i := by
  rintro ⟨hstart,_⟩
  exact hpast (hplace.symm.trans hstart)

/-- The check of the limit. -/
theorem Racing.check (h : Racing userId requests db s) (hplace : (s.party i).place=.start) :
    Racing userId requests db (provisionTick userId requests s i) ∧
      (Admitted userId requests s i → expected userId requests (provisionTick userId requests s i)=
        expected userId requests s+1) ∧
      (¬Admitted userId requests s i →
        expected userId requests (provisionTick userId requests s i)=
          expected userId requests s) := by
  have hwrites : (s.party i).writes=[] := by rw [h.writes i,hplace]; rfl
  have hview : s.view Statement.execute i=s.committed := by
    unfold Workplace.view
    rw [hwrites]
    rfl
  cases hverdict : limitVerdict s.committed userId with
  | ok u =>
    have hnext : provisionNext userId requests i (s.party i).place
        (s.view Statement.execute i) s.rest=.work .counted [] s.rest := by
      rw [hplace,hview]
      unfold provisionNext
      simp only [hverdict]
    have htick := Workplace.tick_work hnext
    rw [hwrites] at htick
    refine h.step htick le_rfl rfl (fun _ hd => by cases hd) (fun _ hd => by cases hd)
      (fun _ => ?_) fun hnot => ?_
    · rw [hplace]
      exact ⟨rfl,rfl⟩
    · have hworks : (requests i).works=false := by
        by_contra hw
        exact hnot ⟨hplace,by simpa using hw,hverdict⟩
      rw [hworks]
      rfl
  | error e =>
    have hnext : provisionNext userId requests i (s.party i).place
        (s.view Statement.execute i) s.rest=.rollback .failed s.rest := by
      rw [hplace,hview]
      unfold provisionNext
      simp only [hverdict]
    refine h.step (Workplace.tick_rollback hnext) le_rfl rfl (fun _ hd => by cases hd)
      (fun _ hd => by cases hd) ?_ fun _ => ?_
    · rintro ⟨_,_,hok⟩
      rw [hverdict] at hok
      cases hok
    · rw [hplace]
      rfl

/-- The call of the agent, or what goes wrong instead. -/
theorem Racing.call (h : Racing userId requests db s) {d : Device}
    (hplace : (s.party i).place=.inserted d) :
    Racing userId requests db (provisionTick userId requests s i) ∧
      (Admitted userId requests s i → expected userId requests (provisionTick userId requests s i)=
        expected userId requests s+1) ∧
      (¬Admitted userId requests s i →
        expected userId requests (provisionTick userId requests s i)=
          expected userId requests s) := by
  have hwrites : (s.party i).writes=[.insertDevice d] := by rw [h.writes i,hplace]; rfl
  have hdevice : (s.party i).place.device=some d := by rw [hplace]; rfl
  have hnot : ¬Admitted userId requests s i := not_admitted hplace nofun
  cases hworks : (requests i).works with
  | true =>
    have hnext : provisionNext userId requests i (s.party i).place
        (s.view Statement.execute i) s.rest=.work (.called d) [] s.rest := by
      rw [hplace]
      unfold provisionNext
      simp only [hworks,if_true]
    have htick := Workplace.tick_work hnext
    rw [List.append_nil,hwrites] at htick
    refine h.step htick le_rfl rfl (fun e he => ?_) (fun _ _ => hworks)
      (fun hadmitted => absurd hadmitted hnot) fun _ => ?_
    · cases he
      obtain ⟨huser,hact,hlt,hnew⟩ := h.pending i d hdevice
      exact ⟨huser,hact,hlt,hnew,fun j hj e he hid => hj (h.distinct j i e d he hdevice hid.symm)⟩
    · rw [hplace]
      rfl
  | false =>
    have hnext : provisionNext userId requests i (s.party i).place
        (s.view Statement.execute i) s.rest=.rollback .failed s.rest := by
      rw [hplace]
      unfold provisionNext
      simp [hworks]
    refine h.step (Workplace.tick_rollback hnext) le_rfl rfl (fun _ hd => by cases hd)
      (fun _ hd => by cases hd) (fun hadmitted => absurd hadmitted hnot) fun _ => ?_
    rw [hworks]
    rfl

/-- What each step does: the numbers stay in order, and exactly the requests that pass the limit
and are going to commit raise the number of devices to expect. -/
theorem provisionTick_racing (h : Racing userId requests db s) (i : ι) :
    Racing userId requests db (provisionTick userId requests s i) ∧
      (Admitted userId requests s i → expected userId requests (provisionTick userId requests s i)=
        expected userId requests s+1) ∧
      (¬Admitted userId requests s i →
        expected userId requests (provisionTick userId requests s i)=
          expected userId requests s) := by
  have hwrites := h.writes i
  cases hplace : (s.party i).place with
  | start => exact h.check hplace
  | counted =>
    rw [hplace] at hwrites
    have hnext : provisionNext userId requests i (s.party i).place
        (s.view Statement.execute i) s.rest=.work
          (.inserted (freshDevice s.rest userId (requests i).name none (requests i).protocol))
          [.insertDevice (freshDevice s.rest userId (requests i).name none (requests i).protocol)]
          (s.rest+1) := by
      rw [hplace]
      rfl
    have htick := Workplace.tick_work hnext
    rw [hwrites] at htick
    refine h.step htick (Int.le_add_one le_rfl) rfl (fun d hd => ?_) (fun _ hd => by cases hd)
      (fun hadmitted => absurd hadmitted (not_admitted hplace nofun)) fun _ => ?_
    · cases hd
      refine ⟨rfl,rfl,Int.lt_succ _,fun x hx => ne_of_lt (h.numbered x hx),fun j _ e he => ?_⟩
      exact (ne_of_lt (h.pending j e he).2.2.1).symm
    · rw [hplace]
      rfl
  | inserted d => exact h.call hplace
  | called d =>
    have hnext : provisionNext userId requests i (s.party i).place
        (s.view Statement.execute i) s.rest=.commit .finished := by
      rw [hplace]
      rfl
    unfold provisionTick
    rw [Workplace.tick_commit hnext]
    exact ⟨h.commit (by rw [hplace]; rfl),fun hadmitted => absurd hadmitted
      (not_admitted hplace nofun),fun _ => expected_commit h hplace⟩
  | finished =>
    rw [hplace] at hwrites
    have hnext : provisionNext userId requests i (s.party i).place
        (s.view Statement.execute i) s.rest=.work .finished [] s.rest := by
      rw [hplace]
      rfl
    have htick := Workplace.tick_work hnext
    rw [hwrites] at htick
    refine h.step htick le_rfl rfl (fun _ hd => by cases hd) (fun _ hd => by cases hd)
      (fun hadmitted => absurd hadmitted (not_admitted hplace nofun)) fun _ => ?_
    rw [hplace]
  | failed =>
    rw [hplace] at hwrites
    have hnext : provisionNext userId requests i (s.party i).place
        (s.view Statement.execute i) s.rest=.work .failed [] s.rest := by
      rw [hplace]
      rfl
    have htick := Workplace.tick_work hnext
    rw [hwrites] at htick
    refine h.step htick le_rfl rfl (fun _ hd => by cases hd) (fun _ hd => by cases hd)
      (fun hadmitted => absurd hadmitted (not_admitted hplace nofun)) fun _ => ?_
    rw [hplace]

omit [Fintype ι] in
theorem provisionTick_count (h : Racing userId requests db s) (i : ι) :
    s.committed.countActiveDevices userId≤
      (provisionTick userId requests s i).committed.countActiveDevices userId := by
  unfold provisionTick Workplace.tick
  cases provisionNext userId requests i (s.party i).place (s.view Statement.execute i) s.rest with
  | work place writes rest => exact le_rfl
  | rollback place rest => exact le_rfl
  | commit place =>
    show _≤(s.view Statement.execute i).countActiveDevices userId
    cases hd : (s.party i).place.device with
    | none =>
      unfold Workplace.view
      rw [h.writes i,hd]
      exact le_rfl
    | some d =>
      obtain ⟨huser,hact,_,hnew⟩ := h.pending i d hd
      rw [view_called h hd,countActive_eq,countActive_eq,activeIn_insert hnew,
        if_pos ⟨huser,hact⟩]
      omega

theorem expected_le (h : Racing userId requests db s) (is : List ι) :
    expected userId requests s≤
      expected userId requests (is.foldl (provisionTick userId requests) s) := by
  induction is generalizing s with
  | nil => exact le_rfl
  | cons i is ih =>
    obtain ⟨hnext,hmore,hsame⟩ := provisionTick_racing h i
    have hstep : expected userId requests s≤
        expected userId requests (provisionTick userId requests s i) := by
      by_cases hadmitted : Admitted userId requests s i
      · rw [hmore hadmitted]
        omega
      · rw [hsame hadmitted]
    exact hstep.trans (ih hnext)

/-- The number of devices to expect ends within the bound just when no request hurries. -/
theorem expected_bound_iff (h : Racing userId requests db s) {k : Int}
    (hk : k≤ s.committed.countActiveDevices userId)
    (hbound : expected userId requests s≤ max k ((db.enforcedLimit userId).getD 0))
    (is : List ι) :
    expected userId requests (is.foldl (provisionTick userId requests) s)≤
        max k ((db.enforcedLimit userId).getD 0) ↔
      Conducted (Unhurried userId requests) (provisionTick userId requests) s is := by
  induction is generalizing s with
  | nil => exact iff_of_true hbound trivial
  | cons i is ih =>
    obtain ⟨hnext,hmore,hsame⟩ := provisionTick_racing h i
    have hk' := hk.trans (provisionTick_count h i)
    by_cases hadmitted : Admitted userId requests s i
    · obtain ⟨hplace,hworks,hverdict⟩ := hadmitted
      obtain ⟨n,hn,hlt⟩ := limitVerdict_ok_iff.mp hverdict
      have hlimit : (db.enforcedLimit userId).getD 0=n := by
        rw [← enforcedLimit_congr h.billing,hn]
        rfl
      have hone := hmore ⟨hplace,hworks,hverdict⟩
      rw [hlimit] at hbound ih ⊢
      by_cases hroom : expected userId requests s<n
      · have hstep : expected userId requests (provisionTick userId requests s i)≤ max k n := by
          rw [hone]
          omega
        have hunhurried : Unhurried userId requests s i := by
          intro _ _ _ m hm
          rw [hn] at hm
          cases hm
          exact hroom
        exact (ih hnext hk' hstep).trans (and_iff_right hunhurried).symm
      · refine iff_of_false (fun hle => ?_) fun hall => hroom (hall.1 hplace hworks hverdict n hn)
        have hgrown := expected_le hnext is
        rw [hone] at hgrown
        have hle : expected userId requests
            (is.foldl (provisionTick userId requests) (provisionTick userId requests s i))≤
            max k n := hle
        omega
    · have hunhurried : Unhurried userId requests s i :=
        fun hplace hworks hverdict => absurd ⟨hplace,hworks,hverdict⟩ hadmitted
      have hstep := hsame hadmitted
      exact (ih hnext hk' (by rw [hstep]; exact hbound)).trans (and_iff_right hunhurried).symm

omit [Fintype ι] [DecidableEq ι] in
theorem racing_opening {serial : Int} (hn : ∀ d∈db.devices.rows,d.id<serial) :
    Racing userId requests db (Workplace.opening db serial .start) where
  billing := rfl
  numbered := hn
  writes _ := rfl
  pending i d hd := by cases hd
  distinct i j d e hd := by cases hd
  called i d hd := by cases hd

omit [DecidableEq ι] in
theorem expected_ended (h : ∀ i,(s.party i).place.ended=true) :
    expected userId requests s=s.committed.countActiveDevices userId := by
  have hnone : underway requests s=0 := by
    unfold underway
    rw [Finset.card_eq_zero,Finset.filter_eq_empty_iff]
    intro i _ hq
    have hi := h i
    cases hplace : (s.party i).place <;> rw [hplace] at hq hi <;>
      simp [ProvisionPlace.underway,ProvisionPlace.ended] at hq hi
  unfold expected
  rw [hnone]
  exact add_zero _

/-- However many requests for a new device a user makes at once and however their steps come
together, the limit holds in the end just when none passes it on a count that leaves out devices
that are underway. -/
theorem provision_race_iff {serial : Int} (hn : ∀ d∈db.devices.rows,d.id<serial) (is : List ι)
    (hended : ∀ i,((is.foldl (provisionTick userId requests)
      (Workplace.opening db serial .start)).party i).place.ended=true) :
    (is.foldl (provisionTick userId requests)
        (Workplace.opening db serial .start)).committed.countActiveDevices userId≤
      max (db.countActiveDevices userId) ((db.enforcedLimit userId).getD 0) ↔
    Conducted (Unhurried userId requests) (provisionTick userId requests)
      (Workplace.opening db serial .start) is := by
  have hstart : expected userId requests (Workplace.opening db serial .start)=
      db.countActiveDevices userId := by
    unfold expected underway Workplace.opening
    simp [ProvisionPlace.underway]
  rw [← expected_ended hended]
  apply expected_bound_iff (racing_opening hn) le_rfl
  rw [hstart]
  exact le_max_left _ _

end

/-- Alone, the steps of a request come to what `provision` does. -/
theorem provision_alone {cfg : Settings} {user : User} {name : String} {requested : Option Id}
    {protocol : VpnProtocol} {r : ProvisionedDevice} {s t : Session} (hs : Sound s.toWorld)
    (h : provision cfg user name requested protocol s=(.ok r,t)) :
    ∃ w : ProvisionRace Unit,[(),(),(),()].foldl
        (provisionTick user.id fun _ => ⟨name,protocol,true⟩)
        (Workplace.opening s.db s.serial .start)=w ∧ (w.party ()).place=.finished ∧
      ∀ k,w.committed.countActiveDevices k=t.db.countActiveDevices k := by
  obtain ⟨hverdict,_,hcount⟩ := provision_active hs h
  have hfresh : ∀ x∈s.db.devices.rows,x.id≠s.serial :=
    fun x hx => ne_of_lt (hs.consistent.devices x hx)
  refine ⟨_,rfl,?_,fun k => ?_⟩
  · simp [provisionTick,Workplace.tick,Workplace.opening,Workplace.view,provisionNext,hverdict]
  · rw [hcount]
    simp only [provisionTick,Workplace.tick,Workplace.opening,Workplace.view,provisionNext,
      List.foldl_cons,List.foldl_nil,hverdict,Function.update_self,if_true,List.nil_append,
      List.append_nil,Statement.execute]
    rw [countActive_eq,countActive_eq]
    rw [activeIn_insert hfresh]
    simp [freshDevice]

/-- Two requests that overlap, with room for two devices. -/
theorem provision_race_iff_opened :
    ([0,1,0,1,0,1,0,1].foldl (provisionTick 1 fun _ : Fin 2 => ⟨"laptop",.wireguard,true⟩)
        (Workplace.opening opened.db opened.serial .start)).committed.countActiveDevices 1≤
      max (opened.db.countActiveDevices 1) ((opened.db.enforcedLimit 1).getD 0) ↔
    Conducted (Unhurried 1 fun _ : Fin 2 => ⟨"laptop",.wireguard,true⟩)
      (provisionTick 1 fun _ : Fin 2 => ⟨"laptop",.wireguard,true⟩)
      (Workplace.opening opened.db opened.serial .start) [0,1,0,1,0,1,0,1] :=
  provision_race_iff (reachable_sound opened_reachable).consistent.devices _ (by decide +kernel)

/-- Three requests pass a limit of three beside one active device. -/
theorem provision_race_exceeds :
    ¬([0,1,2,0,1,2,0,1,2,0,1,2].foldl
        (provisionTick 1 fun _ : Fin 3 => ⟨"laptop",.wireguard,true⟩)
        (Workplace.opening opened.db opened.serial .start)).committed.countActiveDevices 1≤
      max (opened.db.countActiveDevices 1) ((opened.db.enforcedLimit 1).getD 0) := by
  decide +kernel

end VpnService.Backend
