import VpnService.Framework.Runs
import VpnService.Backend.Profiles
import Mathlib.Data.Fintype.Card

namespace VpnService.Backend

/-- What a call of `regenerate_profile` has built before it looks for the current profile. -/
structure ProfileContent where
  mode : RoutingMode
  allowedIps : List String
  dns : List String
  generatedAt : Time

/-- Where a call of `regenerate_profile` stands. -/
inductive ProfilePlace
  | start
  | found (current : Option VpnProfile)
  | waiting (current : Option VpnProfile) (seen : List Id)     -- the `UPDATE` has its snapshot
  | superseded (current : Option VpnProfile) (rows : List Id)  -- and now the locks of these rows
  | inserted (current : Option VpnProfile) (rows : List Id) (new : VpnProfile)
  | finished (new : VpnProfile)
  | failed
  deriving DecidableEq

namespace ProfilePlace

def ended : ProfilePlace → Bool
  | finished _ | failed => true
  | _ => false

/-- What a call between its read and its commit has read. -/
def read : ProfilePlace → Option (Option VpnProfile)
  | found current | waiting current _ | superseded current _ | inserted current _ _ => some current
  | _ => none

/-- The rows its `UPDATE` is about. -/
def targets : ProfilePlace → Option (List Id)
  | waiting _ rows | superseded _ rows | inserted _ rows _ => some rows
  | _ => none

/-- The rows a transaction has locked until it ends. -/
def locks : ProfilePlace → List Id
  | superseded _ rows | inserted _ rows _ => rows
  | _ => []

/-- The row a call has written and not yet committed. -/
def new : ProfilePlace → Option VpnProfile
  | inserted _ _ p => some p
  | _ => none

end ProfilePlace

/-- Calls of `regenerate_profile`, each in a transaction of its own. -/
structure ProfileRace (ι : Type) where
  committed : Database
  serial : Id
  place : ι → ProfilePlace

namespace ProfileRace

variable {ι : Type}

def opening (db : Database) (serial : Id) : ProfileRace ι := ⟨db,serial,fun _ => .start⟩

variable [DecidableEq ι]

def goTo (s : ProfileRace ι) (i : ι) (place : ProfilePlace) : ProfileRace ι :=
  {s with place := Function.update s.place i place}

end ProfileRace

def supersedeRows (rows : List Id) (db : Database) : Database :=
  {db with
    vpnProfiles := db.vpnProfiles.mapRows (fun p => if p.id∈rows then supersede p else p) (by
      intro p
      split_ifs <;> rfl)}

/-- What a committed call leaves in the tables. -/
def commitProfile (rows : List Id) (new : VpnProfile) (db : Database) : Database :=
  {db with vpnProfiles := (supersedeRows rows db).vpnProfiles.insert new}

def ProfileContent.row (c : ProfileContent) (id deviceId : Id) (current : Option VpnProfile) :
    VpnProfile :=
  {id := id
   deviceId := deviceId
   mode := c.mode
   allowedIps := c.allowedIps
   dns := c.dns
   version := nextVersion current
   isCurrent := true
   generatedAt := c.generatedAt}

section

variable {ι : Type} [DecidableEq ι] [Fintype ι] (deviceId : Id) (contents : ι → ProfileContent)

/-- The next step of call `i`. An `UPDATE` that meets a locked row waits for the other transaction,
then checks that row again; rows inserted after its snapshot it does not see. -/
def profileTick (s : ProfileRace ι) (i : ι) : ProfileRace ι := match s.place i with
  | .start => match s.committed.currentProfiles deviceId with
    | [] => s.goTo i (.found none)
    | [p] => s.goTo i (.found (some p))
    | _::_::_ => s.goTo i .failed
  | .found current =>
    s.goTo i (.waiting current ((s.committed.currentProfiles deviceId).map fun p => p.id))
  | .waiting current seen =>
    if ∃ j,j≠i ∧ ∃ id∈seen,id∈(s.place j).locks then s
    else s.goTo i (.superseded current
      (seen.filter fun id => (s.committed.currentProfiles deviceId).any fun p => p.id=id))
  | .superseded current rows =>
    {s with serial := s.serial+1}.goTo i
      (.inserted current rows ((contents i).row s.serial deviceId current))
  | .inserted _ rows new =>
    {s with committed := commitProfile rows new s.committed}.goTo i (.finished new)
  | .finished _ | .failed => s

/-- A call reads the current profile while no other is between its read and its commit. -/
def Alone (s : ProfileRace ι) (i : ι) : Prop :=
  s.place i=.start → ∀ j,j≠i → (s.place j).read=none

instance (s : ProfileRace ι) (i : ι) : Decidable (Alone s i) :=
  inferInstanceAs (Decidable (_ → ∀ _,_))

end

/-- The row of a profile is there, with the contents it was written with. -/
def Keeps (db : Database) (p : VpnProfile) : Prop :=
  ∃ q∈db.vpnProfiles.rows,q.id=p.id ∧ q.deviceId=p.deviceId ∧ q.version=p.version ∧
    q.allowedIps=p.allowedIps ∧ q.dns=p.dns

/-- All calls have committed and left the device one current profile, different versions and the
contents of all earlier profiles. -/
structure Regenerated {ι : Type} (deviceId : Id) (db : Database) (s : ProfileRace ι) : Prop where
  committed : ∀ i,∃ new,s.place i=.finished new
  current : ∃ p,s.committed.currentProfiles deviceId=[p]
  versions : ∀ p∈s.committed.vpnProfiles.rows,∀ q∈s.committed.vpnProfiles.rows,
    p.deviceId=deviceId → q.deviceId=deviceId → p.version=q.version → p=q
  earlier : ∀ p∈db.vpnProfiles.rows,Keeps s.committed p
  written : ∀ i new,s.place i=.finished new → Keeps s.committed new

/-- What holds at any time, whatever the order of the steps. -/
structure Writing {ι : Type} (deviceId : Id) (db : Database) (s : ProfileRace ι) : Prop where
  numbered : ∀ p∈s.committed.vpnProfiles.rows,p.id<s.serial
  pending : ∀ i p,(s.place i).new=some p → p.deviceId=deviceId ∧ p.isCurrent=true ∧
    (s.place i).read.map nextVersion=some p.version ∧ p.id<s.serial ∧
    ∀ q∈s.committed.vpnProfiles.rows,q.id≠p.id
  distinct : ∀ i j p q,(s.place i).new=some p → (s.place j).new=some q → p.id=q.id → i=j
  earlier : ∀ p∈db.vpnProfiles.rows,Keeps s.committed p
  written : ∀ i p,s.place i=.finished p → p.deviceId=deviceId ∧ Keeps s.committed p

/-- The calls one after the other: at most one is between its read and its commit, and what it has
read and is going to supersede is what is current. -/
structure Orderly {ι : Type} (deviceId : Id) (s : ProfileRace ι) : Prop where
  versioned : Versioned s.serial s.committed
  single : ∀ i j,(s.place i).read≠none → (s.place j).read≠none → i=j
  fresh : ∀ i current,(s.place i).read=some current →
    s.committed.currentProfiles deviceId=current.toList
  aimed : ∀ i rows,(s.place i).targets=some rows →
    rows=(s.committed.currentProfiles deviceId).map fun p => p.id
  passed : ∀ i,s.place i≠.failed

/-- A version is used twice, or is going to be, or a call has failed. -/
inductive Clashing {ι : Type} (deviceId : Id) (s : ProfileRace ι) : Prop
  | failed (i : ι) (h : s.place i=.failed)
  | twice (p q : VpnProfile) (hp : p∈s.committed.vpnProfiles.rows)
      (hq : q∈s.committed.vpnProfiles.rows) (hpd : p.deviceId=deviceId) (hqd : q.deviceId=deviceId)
      (hv : p.version=q.version) (hne : p.id≠q.id)
  | stale (i : ι) (q : VpnProfile) (hq : q∈s.committed.vpnProfiles.rows) (hd : q.deviceId=deviceId)
      (h : (s.place i).read.map nextVersion=some q.version)
  | pair (i j : ι) (v : Int) (hne : i≠j) (hi : (s.place i).read.map nextVersion=some v)
      (hj : (s.place j).read.map nextVersion=some v)

theorem Keeps.of_mem {db : Database} {p : VpnProfile} (h : p∈db.vpnProfiles.rows) : Keeps db p :=
  ⟨p,h,rfl,rfl,rfl,rfl,rfl⟩

theorem mem_supersedeRows {rows : List Id} {db : Database} {p : VpnProfile} :
    p∈(supersedeRows rows db).vpnProfiles.rows ↔
      ∃ q∈db.vpnProfiles.rows,p=if q.id∈rows then supersede q else q := by
  unfold supersedeRows
  rw [Store.rows_mapRows,List.mem_map]
  constructor
  · intro ⟨q,hq,he⟩
    exact ⟨q,hq,he.symm⟩
  · intro ⟨q,hq,he⟩
    exact ⟨q,hq,he.symm⟩

theorem mem_commitProfile {rows : List Id} {new : VpnProfile} {db : Database}
    (hfresh : ∀ q∈db.vpnProfiles.rows,q.id≠new.id) {p : VpnProfile} :
    p∈(commitProfile rows new db).vpnProfiles.rows ↔
      (∃ q∈db.vpnProfiles.rows,p=if q.id∈rows then supersede q else q) ∨ p=new := by
  have hlater : ∀ x∈(supersedeRows rows db).vpnProfiles.rows,x.id≠new.id := by
    intro x hx
    obtain ⟨q,hq,he⟩ := mem_supersedeRows.mp hx
    have hid : x.id=q.id := by
      rw [he]
      split_ifs <;> rfl
    rw [hid]
    exact hfresh q hq
  show p∈((supersedeRows rows db).vpnProfiles.insert new).rows ↔ _
  rw [Store.mem_insert hlater,mem_supersedeRows]

/-- A commit leaves all of an earlier row but whether it is current. -/
theorem commitProfile_keeps {rows : List Id} {new p : VpnProfile} {db : Database}
    (hfresh : ∀ q∈db.vpnProfiles.rows,q.id≠new.id) (h : Keeps db p) :
    Keeps (commitProfile rows new db) p := by
  obtain ⟨q,hq,hsame⟩ := h
  refine ⟨_,(mem_commitProfile hfresh).mpr (Or.inl ⟨q,hq,rfl⟩),?_⟩
  split_ifs
  · exact hsame
  · exact hsame

namespace ProfilePlace

theorem read_of_targets {place : ProfilePlace} {rows : List Id} (h : place.targets=some rows) :
    place.read≠none := by
  cases place <;> simp [targets,read] at h ⊢

theorem locks_of_read {place : ProfilePlace} (h : place.read=none) : place.locks=[] := by
  cases place <;> simp [locks,read] at h ⊢

theorem read_of_ended {place : ProfilePlace} (h : place.ended=true) : place.read=none := by
  cases place <;> simp [ended,read] at h ⊢

end ProfilePlace

section

variable {ι : Type} [DecidableEq ι] {deviceId : Id} {contents : ι → ProfileContent}
  {db : Database} {s : ProfileRace ι} {i : ι}

theorem place_goTo (s : ProfileRace ι) (i j : ι) (place : ProfilePlace) :
    (s.goTo i place).place j=if j=i then place else s.place j := by
  unfold ProfileRace.goTo
  simp [Function.update_apply]

theorem Writing.calm (h : Writing deviceId db s) {place : ProfilePlace} (hnew : place.new=none)
    (hfin : ∀ p,place≠.finished p) : Writing deviceId db (s.goTo i place) := by
  have hold : ∀ j p,((s.goTo i place).place j).new=some p →
      (s.place j).new=some p ∧ (s.goTo i place).place j=s.place j := by
    intro j p hp
    rw [place_goTo] at hp ⊢
    by_cases hj : j=i
    · rw [if_pos hj,hnew] at hp
      cases hp
    · rw [if_neg hj] at hp ⊢
      exact ⟨hp,rfl⟩
  constructor
  · exact h.numbered
  · intro j p hp
    obtain ⟨hj,hsame⟩ := hold j p hp
    rw [hsame]
    exact h.pending j p hj
  · intro j k p q hp hq hid
    exact h.distinct j k p q (hold j p hp).1 (hold k q hq).1 hid
  · exact h.earlier
  · intro j p hp
    rw [place_goTo] at hp
    by_cases hj : j=i
    · rw [if_pos hj] at hp
      exact absurd hp (hfin p)
    · rw [if_neg hj] at hp
      exact h.written j p hp

theorem Writing.insert (h : Writing deviceId db s) {current : Option VpnProfile} {rows : List Id}
    (c : ProfileContent) : Writing deviceId db ({s with serial := s.serial+1}.goTo i
      (.inserted current rows (c.row s.serial deviceId current))) := by
  have hlater : s.serial<s.serial+1 := Int.lt_succ _
  constructor
  · exact fun p hp => (h.numbered p hp).trans hlater
  · intro j p hp
    rw [place_goTo] at hp ⊢
    by_cases hj : j=i
    · rw [if_pos hj] at hp ⊢
      cases hp
      exact ⟨rfl,rfl,rfl,hlater,fun q hq => (h.numbered q hq).ne⟩
    · rw [if_neg hj] at hp ⊢
      obtain ⟨hd,his,hread,hid,hfresh⟩ := h.pending j p hp
      exact ⟨hd,his,hread,hid.trans hlater,hfresh⟩
  · intro j k p q hp hq hid
    rw [place_goTo] at hp hq
    by_cases hj : j=i
    · by_cases hk : k=i
      · rw [hj,hk]
      · rw [if_pos hj] at hp
        rw [if_neg hk] at hq
        cases hp
        exact absurd hid.symm (h.pending k q hq).2.2.2.1.ne
    · rw [if_neg hj] at hp
      by_cases hk : k=i
      · rw [if_pos hk] at hq
        cases hq
        exact absurd hid (h.pending j p hp).2.2.2.1.ne
      · rw [if_neg hk] at hq
        exact h.distinct j k p q hp hq hid
  · exact h.earlier
  · intro j p hp
    rw [place_goTo] at hp
    by_cases hj : j=i
    · rw [if_pos hj] at hp
      cases hp
    · rw [if_neg hj] at hp
      exact h.written j p hp

theorem Writing.commit (h : Writing deviceId db s) {current : Option VpnProfile} {rows : List Id}
    {new : VpnProfile} (hplace : s.place i=.inserted current rows new) :
    Writing deviceId db ({s with committed := commitProfile rows new s.committed}.goTo i
      (.finished new)) := by
  have hin : (s.place i).new=some new := by
    rw [hplace]
    rfl
  obtain ⟨hdevice,_,_,hless,hfresh⟩ := h.pending i new hin
  have hids : ∀ q∈(commitProfile rows new s.committed).vpnProfiles.rows,
      (∃ r∈s.committed.vpnProfiles.rows,q.id=r.id) ∨ q=new := by
    intro q hq
    rcases (mem_commitProfile hfresh).mp hq with ⟨r,hr,he⟩|he
    · left
      refine ⟨r,hr,?_⟩
      rw [he]
      split_ifs <;> rfl
    · exact Or.inr he
  constructor
  · intro q hq
    rcases hids q hq with ⟨r,hr,he⟩|he
    · rw [he]
      exact h.numbered r hr
    · rw [he]
      exact hless
  · intro j p hp
    rw [place_goTo] at hp ⊢
    by_cases hj : j=i
    · rw [if_pos hj] at hp
      cases hp
    · rw [if_neg hj] at hp ⊢
      obtain ⟨hd,his,hread,hid,hnone⟩ := h.pending j p hp
      refine ⟨hd,his,hread,hid,fun q hq => ?_⟩
      rcases hids q hq with ⟨r,hr,he⟩|he
      · rw [he]
        exact hnone r hr
      · rw [he]
        exact fun hsame => hj (h.distinct i j new p hin hp hsame).symm
  · intro j k p q hp hq hid
    rw [place_goTo] at hp hq
    by_cases hj : j=i
    · rw [if_pos hj] at hp
      cases hp
    · rw [if_neg hj] at hp
      by_cases hk : k=i
      · rw [if_pos hk] at hq
        cases hq
      · rw [if_neg hk] at hq
        exact h.distinct j k p q hp hq hid
  · exact fun p hp => commitProfile_keeps hfresh (h.earlier p hp)
  · intro j p hp
    rw [place_goTo] at hp
    by_cases hj : j=i
    · rw [if_pos hj] at hp
      cases hp
      exact ⟨hdevice,Keeps.of_mem ((mem_commitProfile hfresh).mpr (Or.inr rfl))⟩
    · rw [if_neg hj] at hp
      obtain ⟨hd,hkept⟩ := h.written j p hp
      exact ⟨hd,commitProfile_keeps hfresh hkept⟩

omit [DecidableEq ι] in
theorem writing_opening {serial : Id} (h : ∀ p∈db.vpnProfiles.rows,p.id<serial) :
    Writing deviceId db (ProfileRace.opening db serial : ProfileRace ι) where
  numbered := h
  pending i p hp := by cases hp
  distinct i j p q hp := by cases hp
  earlier p hp := Keeps.of_mem hp
  written i p hp := by cases hp

theorem Orderly.goTo (h : Orderly deviceId s) {place : ProfilePlace}
    {current : Option VpnProfile} (hread : place.read=some current)
    (hothers : ∀ j,j≠i → (s.place j).read=none)
    (hfresh : s.committed.currentProfiles deviceId=current.toList)
    (haimed : ∀ rows,place.targets=some rows →
      rows=(s.committed.currentProfiles deviceId).map fun p => p.id) :
    Orderly deviceId (s.goTo i place) := by
  constructor
  · exact h.versioned
  · intro j k hj hk
    rw [place_goTo] at hj hk
    by_cases hji : j=i
    · by_cases hki : k=i
      · rw [hji,hki]
      · rw [if_pos hji] at hj
        rw [if_neg hki] at hk
        exact absurd (hothers k hki) hk
    · rw [if_neg hji] at hj
      by_cases hki : k=i
      · rw [if_pos hki] at hk
        exact absurd (hothers j hji) hj
      · rw [if_neg hki] at hk
        exact h.single j k hj hk
  · intro j c hj
    rw [place_goTo] at hj
    by_cases hji : j=i
    · rw [if_pos hji,hread] at hj
      cases hj
      exact hfresh
    · rw [if_neg hji] at hj
      exact h.fresh j c hj
  · intro j rows hj
    rw [place_goTo] at hj
    by_cases hji : j=i
    · rw [if_pos hji] at hj
      exact haimed rows hj
    · rw [if_neg hji] at hj
      exact h.aimed j rows hj
  · intro j
    rw [place_goTo]
    by_cases hji : j=i
    · rw [if_pos hji]
      intro hplace
      rw [hplace] at hread
      cases hread
    · rw [if_neg hji]
      exact h.passed j

/-- Where the rows of the `UPDATE` are the current ones it supersedes these. -/
theorem superseded_current {db : Database} {rows : List Id} (deviceId : Id)
    (hrows : rows=(db.currentProfiles deviceId).map fun p => p.id) {q : VpnProfile}
    (hq : q∈db.vpnProfiles.rows) :
    (if q.id∈rows then supersede q else q)=supersededIn deviceId q := by
  have hiff : q.id∈rows ↔ q.deviceId=deviceId ∧ q.isCurrent=true := by
    rw [hrows,List.mem_map]
    constructor
    · intro ⟨p,hp,hid⟩
      obtain ⟨hin,hd,hcur⟩ := mem_currentProfiles.mp hp
      rw [Store.eq_of_key hq hin hid.symm]
      exact ⟨hd,hcur⟩
    · intro hboth
      exact ⟨q,mem_currentProfiles.mpr ⟨hq,hboth⟩,rfl⟩
  unfold supersededIn
  exact if_congr hiff rfl rfl

omit [DecidableEq ι] in
theorem Orderly.draw (h : Orderly deviceId s) :
    Orderly deviceId {s with serial := s.serial+1} where
  versioned := h.versioned.of_profiles rfl (Int.lt_succ _).le
  single := h.single
  fresh := h.fresh
  aimed := h.aimed
  passed := h.passed

theorem Orderly.commit (h : Orderly deviceId s) (hw : Writing deviceId db s)
    {current : Option VpnProfile} {rows : List Id} {new : VpnProfile}
    (hplace : s.place i=.inserted current rows new) :
    Orderly deviceId ({s with committed := commitProfile rows new s.committed}.goTo i
      (.finished new)) := by
  have hin : (s.place i).new=some new := by
    rw [hplace]
    rfl
  have hread : (s.place i).read=some current := by
    rw [hplace]
    rfl
  have htargets : (s.place i).targets=some rows := by
    rw [hplace]
    rfl
  obtain ⟨hdevice,his,hversion,hless,hfresh⟩ := hw.pending i new hin
  rw [hread] at hversion
  have hothers : ∀ j,j≠i → (s.place j).read=none := by
    intro j hj
    by_contra hne
    exact hj (h.single j i hne (by rw [hread]; nofun))
  have hnone : ∀ j,((({s with committed := commitProfile rows new s.committed} :
      ProfileRace ι).goTo i (.finished new)).place j).read=none := by
    intro j
    rw [place_goTo]
    by_cases hj : j=i
    · rw [if_pos hj]
      rfl
    · rw [if_neg hj]
      exact hothers j hj
  constructor
  · apply h.versioned.replace (h.fresh i current hread) le_rfl hless hdevice
    · exact (Option.some.inj hversion).symm
    · exact his
    · intro p
      show p∈(commitProfile rows new s.committed).vpnProfiles.rows ↔ _
      rw [mem_commitProfile hfresh,or_comm]
      apply or_congr_right
      apply exists_congr
      intro q
      apply and_congr_right
      intro hq
      rw [superseded_current deviceId (h.aimed i rows htargets) hq]
  · intro j k hj
    exact absurd (hnone j) hj
  · intro j cur hj
    rw [hnone j] at hj
    cases hj
  · intro j ids hj
    exact absurd (hnone j) (ProfilePlace.read_of_targets hj)
  · intro j
    rw [place_goTo]
    by_cases hj : j=i
    · rw [if_pos hj]
      nofun
    · rw [if_neg hj]
      exact h.passed j

variable [Fintype ι]

variable (deviceId contents) in
/-- What a step of a call can do: nothing visible, the insert, the commit. -/
theorem profileTick_cases (s : ProfileRace ι) (i : ι) : profileTick deviceId contents s i=s ∨
    (∃ place,profileTick deviceId contents s i=s.goTo i place ∧ place.new=none ∧
      (∀ p,place≠.finished p) ∧ s.place i≠.failed ∧ (∀ p,s.place i≠.finished p) ∧
      (s.place i).new=none ∧ ((s.place i).read=none ∨ place.read=(s.place i).read)) ∨
    (∃ current rows,s.place i=.superseded current rows ∧ profileTick deviceId contents s i=
      {s with serial := s.serial+1}.goTo i
        (.inserted current rows ((contents i).row s.serial deviceId current))) ∨
    ∃ current rows new,s.place i=.inserted current rows new ∧ profileTick deviceId contents s i=
      {s with committed := commitProfile rows new s.committed}.goTo i (.finished new) := by
  have hcalm : ∀ place,profileTick deviceId contents s i=s.goTo i place → place.new=none →
      (∀ p,place≠.finished p) → (s.place i).ended=false → (s.place i).new=none →
      ((s.place i).read=none ∨ place.read=(s.place i).read) →
      (∃ place,profileTick deviceId contents s i=s.goTo i place ∧ place.new=none ∧
        (∀ p,place≠.finished p) ∧ s.place i≠.failed ∧ (∀ p,s.place i≠.finished p) ∧
        (s.place i).new=none ∧ ((s.place i).read=none ∨ place.read=(s.place i).read)) := by
    intro place hstep hnew hfin hended hnone hread
    refine ⟨place,hstep,hnew,hfin,?_,?_,hnone,hread⟩
    · intro h
      rw [h] at hended
      cases hended
    · intro p h
      rw [h] at hended
      cases hended
  cases hplace : s.place i with
  | start =>
    right
    left
    rw [hplace] at hcalm
    cases hps : s.committed.currentProfiles deviceId with
    | nil =>
      apply hcalm (.found none) _ rfl nofun rfl rfl (Or.inl rfl)
      simp only [profileTick,hplace,hps]
    | cons p ps =>
      cases ps with
      | nil =>
        apply hcalm (.found (some p)) _ rfl nofun rfl rfl (Or.inl rfl)
        simp only [profileTick,hplace,hps]
      | cons q qs =>
        apply hcalm .failed _ rfl nofun rfl rfl (Or.inl rfl)
        simp only [profileTick,hplace,hps]
  | found current =>
    right
    left
    rw [hplace] at hcalm
    have hstep : profileTick deviceId contents s i=s.goTo i
        (.waiting current ((s.committed.currentProfiles deviceId).map fun p => p.id)) := by
      simp only [profileTick,hplace]
    exact hcalm _ hstep rfl nofun rfl rfl (Or.inr rfl)
  | waiting current seen =>
    by_cases hlocked : ∃ j,j≠i ∧ ∃ id∈seen,id∈(s.place j).locks
    · left
      simp only [profileTick,hplace]
      rw [if_pos hlocked]
    · right
      left
      rw [hplace] at hcalm
      have hstep : profileTick deviceId contents s i=s.goTo i (.superseded current
          (seen.filter fun id => (s.committed.currentProfiles deviceId).any fun p => p.id=id)) := by
        simp only [profileTick,hplace]
        rw [if_neg hlocked]
      exact hcalm _ hstep rfl nofun rfl rfl (Or.inr rfl)
  | superseded current rows =>
    right
    right
    left
    refine ⟨current,rows,rfl,?_⟩
    simp only [profileTick,hplace]
  | inserted current rows new =>
    right
    right
    right
    refine ⟨current,rows,new,rfl,?_⟩
    simp only [profileTick,hplace]
  | finished new =>
    left
    simp only [profileTick,hplace]
  | failed =>
    left
    simp only [profileTick,hplace]

theorem Writing.tick (h : Writing deviceId db s) (i : ι) :
    Writing deviceId db (profileTick deviceId contents s i) := by
  rcases profileTick_cases deviceId contents s i with
    hstay|⟨place,hstep,hnew,hfin,_⟩|⟨current,rows,_,hstep⟩|⟨current,rows,new,hplace,hstep⟩
  · rw [hstay]
    exact h
  · rw [hstep]
    exact h.calm hnew hfin
  · rw [hstep]
    exact h.insert (contents i)
  · rw [hstep]
    exact h.commit hplace

/-- Once versions clash, they clash for good. -/
theorem Clashing.tick (hw : Writing deviceId db s) (h : Clashing deviceId s) (k : ι) :
    Clashing deviceId (profileTick deviceId contents s k) := by
  have hquiet : ∀ t : ProfileRace ι,t.committed=s.committed → (∀ j,j≠k → t.place j=s.place j) →
      s.place k≠.failed → ((s.place k).read=none ∨ (t.place k).read=(s.place k).read) →
      Clashing deviceId t := by
    intro t hdb hplaces hpassed hread
    have hreads : ∀ j v,(s.place j).read.map nextVersion=some v →
        (t.place j).read.map nextVersion=some v := by
      intro j v hv
      by_cases hj : j=k
      · subst hj
        rcases hread with hnone|hsame
        · rw [hnone] at hv
          cases hv
        · rw [hsame]
          exact hv
      · rw [hplaces j hj]
        exact hv
    cases h with
    | failed i hi =>
      have hne : i≠k := by
        intro he
        rw [he] at hi
        exact hpassed hi
      exact .failed i ((hplaces i hne).trans hi)
    | twice p q hp hq hpd hqd hv hne =>
      rw [← hdb] at hp hq
      exact .twice p q hp hq hpd hqd hv hne
    | stale i q hq hd hi =>
      rw [← hdb] at hq
      exact .stale i q hq hd (hreads i _ hi)
    | pair i j v hne hi hj => exact .pair i j v hne (hreads i v hi) (hreads j v hj)
  rcases profileTick_cases deviceId contents s k with
    hstay|⟨place,hstep,_,_,hpassed,_,_,hread⟩|⟨current,rows,hplace,hstep⟩|
    ⟨current,rows,new,hplace,hstep⟩
  · rw [hstay]
    exact h
  · rw [hstep]
    have hothers : ∀ j,j≠k → (s.goTo k place).place j=s.place j := by
      intro j hj
      rw [place_goTo,if_neg hj]
    apply hquiet (s.goTo k place) rfl hothers hpassed
    rw [place_goTo,if_pos rfl]
    exact hread
  · rw [hstep]
    have hdb : ({s with serial := s.serial+1}.goTo k (.inserted current rows
        ((contents k).row s.serial deviceId current))).committed=s.committed := rfl
    apply hquiet _ hdb
    · intro j hj
      rw [place_goTo,if_neg hj]
    · rw [hplace]
      nofun
    · right
      rw [place_goTo,if_pos rfl,hplace]
      rfl
  · rw [hstep]
    have hin : (s.place k).new=some new := by
      rw [hplace]
      rfl
    obtain ⟨hdevice,_,hversion,_,hfresh⟩ := hw.pending k new hin
    have hnew : new∈(commitProfile rows new s.committed).vpnProfiles.rows :=
      (mem_commitProfile hfresh).mpr (Or.inr rfl)
    have hkept : ∀ q∈s.committed.vpnProfiles.rows,q.deviceId=deviceId →
        ∃ r∈(commitProfile rows new s.committed).vpnProfiles.rows,r.id=q.id ∧
          r.deviceId=deviceId ∧ r.version=q.version := by
      intro q hq hd
      have hkeeps : Keeps (commitProfile rows new s.committed) q :=
        commitProfile_keeps hfresh (Keeps.of_mem hq)
      obtain ⟨r,hr,hid,hrd,hv,_⟩ := hkeeps
      exact ⟨r,hr,hid,hrd.trans hd,hv⟩
    have hother : ∀ j,j≠k → ∀ v,(s.place j).read.map nextVersion=some v →
        ((({s with committed := commitProfile rows new s.committed} : ProfileRace ι).goTo k
          (.finished new)).place j).read.map nextVersion=some v := by
      intro j hj v hv
      rw [place_goTo,if_neg hj]
      exact hv
    cases h with
    | failed i hi =>
      have hne : i≠k := by
        intro he
        rw [he,hplace] at hi
        cases hi
      apply Clashing.failed i
      rw [place_goTo,if_neg hne]
      exact hi
    | twice p q hp hq hpd hqd hv hne =>
      obtain ⟨p',hp',hpid,hpd',hpv⟩ := hkept p hp hpd
      obtain ⟨q',hq',hqid,hqd',hqv⟩ := hkept q hq hqd
      apply Clashing.twice p' q' hp' hq' hpd' hqd'
      · rw [hpv,hqv]
        exact hv
      · rw [hpid,hqid]
        exact hne
    | stale i q hq hd hi =>
      obtain ⟨q',hq',hqid,hqd',hqv⟩ := hkept q hq hd
      by_cases hik : i=k
      · rw [hik,hversion] at hi
        apply Clashing.twice q' new hq' hnew hqd' hdevice
        · rw [hqv]
          exact (Option.some.inj hi).symm
        · rw [hqid]
          exact hfresh q hq
      · apply Clashing.stale i q' hq' hqd'
        rw [hqv]
        exact hother i hik _ hi
    | pair i j v hne hi hj =>
      have hlate : ∀ l,l≠k → (s.place l).read.map nextVersion=some v → new.version=v →
          Clashing deviceId (({s with committed := commitProfile rows new s.committed} :
            ProfileRace ι).goTo k (.finished new)) := by
        intro l hl hread hv
        apply Clashing.stale l new hnew hdevice
        rw [hv]
        exact hother l hl v hread
      by_cases hik : i=k
      · rw [hik,hversion] at hi
        exact hlate j (fun hjk => hne (hik.trans hjk.symm)) hj (Option.some.inj hi)
      · by_cases hjk : j=k
        · rw [hjk,hversion] at hj
          exact hlate i hik hi (Option.some.inj hj)
        · exact .pair i j v hne (hother i hik v hi) (hother j hjk v hj)

theorem Clashing.run (hw : Writing deviceId db s) (h : Clashing deviceId s) (is : List ι) :
    Clashing deviceId (is.foldl (profileTick deviceId contents) s) := by
  induction is generalizing s with
  | nil => exact h
  | cons i is ih => exact ih (hw.tick i) (h.tick hw i)

omit [DecidableEq ι] [Fintype ι] in
theorem Clashing.not_regenerated (h : Clashing deviceId s) (hended : ∀ i,(s.place i).ended=true) :
    ¬Regenerated deviceId db s := by
  intro hr
  have hnone : ∀ i v,(s.place i).read.map nextVersion≠some v := by
    intro i v hv
    rw [ProfilePlace.read_of_ended (hended i)] at hv
    cases hv
  cases h with
  | failed i hi =>
    obtain ⟨new,hnew⟩ := hr.committed i
    rw [hi] at hnew
    cases hnew
  | twice p q hp hq hpd hqd hv hne => exact hne (congrArg _ (hr.versions p hp q hq hpd hqd hv))
  | stale i q hq hd hi => exact hnone i _ hi
  | pair i j v hne hi hj => exact hnone i v hi

theorem Orderly.tick (h : Orderly deviceId s) (hw : Writing deviceId db s)
    (halone : Alone s i) : Orderly deviceId (profileTick deviceId contents s i) := by
  have hothers : ∀ current,(s.place i).read=some current → ∀ j,j≠i → (s.place j).read=none := by
    intro current hread j hj
    by_contra hne
    exact hj (h.single j i hne (by rw [hread]; nofun))
  cases hplace : s.place i with
  | start =>
    rcases h.versioned.oneCurrent.currentProfiles deviceId with hps|⟨p,hps⟩
    · have hstep : profileTick deviceId contents s i=s.goTo i (.found none) := by
        simp only [profileTick,hplace,hps]
      rw [hstep]
      apply h.goTo
      · rfl
      · exact halone hplace
      · exact hps
      · intro rows hrows
        cases hrows
    · have hstep : profileTick deviceId contents s i=s.goTo i (.found (some p)) := by
        simp only [profileTick,hplace,hps]
      rw [hstep]
      apply h.goTo
      · rfl
      · exact halone hplace
      · exact hps
      · intro rows hrows
        cases hrows
  | found current =>
    have hread : (s.place i).read=some current := by
      rw [hplace]
      rfl
    have hstep : profileTick deviceId contents s i=s.goTo i
        (.waiting current ((s.committed.currentProfiles deviceId).map fun p => p.id)) := by
      simp only [profileTick,hplace]
    rw [hstep]
    apply h.goTo
    · rfl
    · exact hothers current hread
    · exact h.fresh i current hread
    · intro rows hrows
      exact (Option.some.inj hrows).symm
  | waiting current seen =>
    have hread : (s.place i).read=some current := by
      rw [hplace]
      rfl
    have hseen := h.aimed i seen (by rw [hplace]; rfl)
    have hfree : ¬∃ j,j≠i ∧ ∃ id∈seen,id∈(s.place j).locks := by
      intro ⟨j,hj,id,_,hlock⟩
      rw [ProfilePlace.locks_of_read (hothers current hread j hj)] at hlock
      cases hlock
    have hall : (seen.filter fun id =>
        (s.committed.currentProfiles deviceId).any fun p => p.id=id)=seen := by
      rw [List.filter_eq_self]
      intro id hid
      rw [hseen,List.mem_map] at hid
      obtain ⟨p,hp,he⟩ := hid
      rw [List.any_eq_true]
      exact ⟨p,hp,decide_eq_true he⟩
    have hstep : profileTick deviceId contents s i=s.goTo i (.superseded current seen) := by
      simp only [profileTick,hplace]
      rw [if_neg hfree,hall]
    rw [hstep]
    apply h.goTo
    · rfl
    · exact hothers current hread
    · exact h.fresh i current hread
    · intro rows hrows
      cases hrows
      exact hseen
  | superseded current rows =>
    have hread : (s.place i).read=some current := by
      rw [hplace]
      rfl
    have htargets := h.aimed i rows (by rw [hplace]; rfl)
    have hstep : profileTick deviceId contents s i={s with serial := s.serial+1}.goTo i
        (.inserted current rows ((contents i).row s.serial deviceId current)) := by
      simp only [profileTick,hplace]
    rw [hstep]
    apply h.draw.goTo
    · rfl
    · exact hothers current hread
    · exact h.fresh i current hread
    · intro ids hids
      cases hids
      exact htargets
  | inserted current rows new =>
    have hstep : profileTick deviceId contents s i=
        {s with committed := commitProfile rows new s.committed}.goTo i (.finished new) := by
      simp only [profileTick,hplace]
    rw [hstep]
    exact h.commit hw hplace
  | finished new =>
    have hstep : profileTick deviceId contents s i=s := by
      simp only [profileTick,hplace]
    rw [hstep]
    exact h
  | failed => exact absurd hplace (h.passed i)

/-- A call that reads while another is at it is going to use the same version. -/
theorem Orderly.clash (h : Orderly deviceId s) (halone : ¬Alone s i) :
    Clashing deviceId (profileTick deviceId contents s i) := by
  unfold Alone at halone
  push Not at halone
  obtain ⟨hplace,j,hj,hread⟩ := halone
  obtain ⟨current,hcurrent⟩ := Option.ne_none_iff_exists'.mp hread
  have hfresh := h.fresh j current hcurrent
  have hstep : profileTick deviceId contents s i=s.goTo i (.found current) := by
    cases current with
    | none => simp only [profileTick,hplace,hfresh,Option.toList_none]
    | some p => simp only [profileTick,hplace,hfresh,Option.toList_some]
  rw [hstep]
  apply Clashing.pair i j (nextVersion current) hj.symm
  · rw [place_goTo,if_pos rfl]
    rfl
  · rw [place_goTo,if_neg hj,hcurrent]
    rfl

omit [DecidableEq ι] [Fintype ι] in
/-- Calls one after the other leave the device one current profile, different versions and all it
had before. -/
theorem Orderly.regenerated [Nonempty ι] (h : Orderly deviceId s) (hw : Writing deviceId db s)
    (hended : ∀ i,(s.place i).ended=true) : Regenerated deviceId db s where
  committed i := by
    have hi := hended i
    cases hplace : s.place i with
    | finished new => exact ⟨new,rfl⟩
    | failed => exact absurd hplace (h.passed i)
    | _ =>
      rw [hplace] at hi
      cases hi
  current := by
    have hone := h.versioned.oneCurrent.currentProfiles deviceId
    rcases hone with hnone|hone
    · have i := Classical.arbitrary ι
      have hi := hended i
      cases hplace : s.place i with
      | finished new =>
        obtain ⟨hd,q,hq,_,hqd,_⟩ := hw.written i new hplace
        obtain ⟨c,hc,hcd,hcur⟩ := h.versioned.held q hq
        have hmem := mem_currentProfiles.mpr ⟨hc,(hcd.trans hqd).trans hd,hcur⟩
        rw [hnone] at hmem
        cases hmem
      | failed => exact absurd hplace (h.passed i)
      | _ =>
        rw [hplace] at hi
        cases hi
    · exact hone
  versions p hp q hq hpd hqd hv := h.versioned.distinct p hp q hq (hpd.trans hqd.symm) hv
  earlier := hw.earlier
  written i new hi := (hw.written i new hi).2

theorem regenerated_iff_alone [Nonempty ι] (hw : Writing deviceId db s) (h : Orderly deviceId s)
    (is : List ι) (hended : ∀ i,((is.foldl (profileTick deviceId contents) s).place i).ended=true) :
    Regenerated deviceId db (is.foldl (profileTick deviceId contents) s) ↔
      Conducted Alone (profileTick deviceId contents) s is := by
  induction is generalizing s with
  | nil => exact iff_of_true (h.regenerated hw hended) trivial
  | cons i is ih =>
    by_cases halone : Alone s i
    · exact (ih (hw.tick i) (h.tick hw halone) hended).trans (and_iff_right halone).symm
    · have hclash : Clashing deviceId (profileTick deviceId contents s i) := h.clash halone
      have hend : Clashing deviceId ((i::is).foldl (profileTick deviceId contents) s) :=
        hclash.run (hw.tick i) is
      exact iff_of_false (hend.not_regenerated hended) fun hall => halone hall.1

omit [DecidableEq ι] [Fintype ι] in
theorem orderly_opening {serial : Id} (h : Versioned serial db) :
    Orderly deviceId (ProfileRace.opening db serial : ProfileRace ι) where
  versioned := h
  single i j hi := absurd rfl hi
  fresh i current hi := by cases hi
  aimed i rows hi := by cases hi
  passed i := nofun

/-- However many calls there are for a device and however their steps come together, they leave it
one current profile and different versions just when each reads alone. -/
theorem profiles_regenerated_iff {cfg : Settings} {w : World} (hw : Reachable cfg w)
    [Nonempty ι] (deviceId : Id) (contents : ι → ProfileContent) (is : List ι)
    (hended : ∀ i,((is.foldl (profileTick deviceId contents)
      (ProfileRace.opening w.db w.serial)).place i).ended=true) :
    Regenerated deviceId w.db (is.foldl (profileTick deviceId contents)
        (ProfileRace.opening w.db w.serial)) ↔
      Conducted Alone (profileTick deviceId contents) (ProfileRace.opening w.db w.serial) is :=
  have hv := reachable_versioned hw
  regenerated_iff_alone (writing_opening hv.numbered) (orderly_opening hv) is hended

end

/-- What `regenerate_profile` answers and leaves in the table. -/
theorem regenerateProfile_ok {cfg : Settings} {deviceId userId : Id} {s t : Session}
    {new : VpnProfile} (h : regenerateProfile cfg deviceId userId s=(.ok new,t)) :
    ∃ profile u v db current,getOrCreateUserProfile userId s=(.ok profile,u) ∧
      profileAllowedIps userId profile.mode u=(.ok new.allowedIps,v) ∧
      db.vpnProfiles=s.db.vpnProfiles ∧ db.currentProfiles deviceId=current.toList ∧
      new=(⟨new.mode,new.allowedIps,new.dns,new.generatedAt⟩ : ProfileContent).row new.id deviceId
        current ∧ t.db.vpnProfiles=(markSuperseded deviceId db).vpnProfiles.insert new ∧
      s.serial≤new.id ∧ new.dns=cfg.vpnDnsList := by
  obtain ⟨profile,u,hu,h₁⟩ := Eff.bind_ok.mp h
  obtain ⟨ips,v,hv,h₂⟩ := Eff.bind_ok.mp h₁
  obtain ⟨db,w,hw,h₃⟩ := Eff.bind_ok.mp h₂
  cases hw
  obtain ⟨current,x,hx,h₄⟩ := Eff.bind_ok.mp h₃
  obtain ⟨hcurrent,hxv⟩ := currentProfile_ok hx
  subst hxv
  obtain ⟨_,y,hy,h₅⟩ := Eff.bind_ok.mp h₄
  cases hy
  obtain ⟨_,y,hy,h₆⟩ := Eff.bind_ok.mp h₅
  cases hy
  obtain ⟨id,y,hy,h₇⟩ := Eff.bind_ok.mp h₆
  cases hy
  obtain ⟨_,y,hy,h₈⟩ := Eff.bind_ok.mp h₇
  cases hy
  obtain ⟨_,y,hy,h₉⟩ := Eff.bind_ok.mp h₈
  obtain ⟨os,hos⟩ := flush_ok hy
  cases h₉
  have hfirst : settingsFrame.rel s u := (getOrCreateUserProfile_settings userId s).rel_of_run hu
  have hsecond : settingsFrame.rel u x :=
    (profileAllowedIps_within userId profile.mode u).rel_of_run hv
  have hrel := settingsFrame.trans hfirst hsecond
  have hview := hrel.1
  simp only [Prod.mk.injEq] at hview
  refine ⟨profile,u,x,x.db,current,hu,hv,hview.2.2,hcurrent,rfl,?_,hrel.2,rfl⟩
  rw [hos]

/-- Alone, the steps of a call come to what `regenerate_profile` does. -/
theorem regenerate_alone {cfg : Settings} {deviceId userId : Id} {s t : Session}
    {new : VpnProfile} (h : regenerateProfile cfg deviceId userId s=(.ok new,t)) :
    ∃ w : ProfileRace Unit,[(),(),(),(),()].foldl
        (profileTick deviceId fun _ => ⟨new.mode,new.allowedIps,new.dns,new.generatedAt⟩)
        (ProfileRace.opening s.db new.id)=w ∧ w.place ()=.finished new ∧
      w.committed.vpnProfiles=t.db.vpnProfiles := by
  obtain ⟨_,_,_,db,current,_,_,hdb,hcurrent,hnew,ht,_⟩ := regenerateProfile_ok h
  let tick : ProfileRace Unit → Unit → ProfileRace Unit := profileTick deviceId
    fun _ => ⟨new.mode,new.allowedIps,new.dns,new.generatedAt⟩
  let ids := (s.db.currentProfiles deviceId).map fun p => p.id
  have hread : s.db.currentProfiles deviceId=current.toList := by
    rw [← hcurrent]
    unfold Database.currentProfiles
    rw [hdb]
  have hgo : ∀ (w : ProfileRace Unit) (place : ProfilePlace),
      w.goTo () place=⟨w.committed,w.serial,fun _ => place⟩ := by
    intro w place
    have hplace : Function.update w.place () place=fun _ => place :=
      funext fun _ => Function.update_self () place w.place
    unfold ProfileRace.goTo
    rw [hplace]
  have hfound : tick (ProfileRace.opening s.db new.id) ()=
      ⟨s.db,new.id,fun _ => .found current⟩ := by
    cases current with
    | none =>
      rw [Option.toList_none] at hread
      simp only [tick,profileTick,ProfileRace.opening,hread,hgo]
    | some p =>
      rw [Option.toList_some] at hread
      simp only [tick,profileTick,ProfileRace.opening,hread,hgo]
  have hwaiting : tick ⟨s.db,new.id,fun _ => .found current⟩ ()=
      ⟨s.db,new.id,fun _ => .waiting current ids⟩ := by
    simp only [tick,profileTick,hgo]
    rfl
  have hsuperseded : tick ⟨s.db,new.id,fun _ => .waiting current ids⟩ ()=
      ⟨s.db,new.id,fun _ => .superseded current ids⟩ := by
    have hall : ids.filter (fun id =>
        (s.db.currentProfiles deviceId).any fun p => p.id=id)=ids := by
      rw [List.filter_eq_self]
      intro id hid
      obtain ⟨p,hp,he⟩ := List.mem_map.mp hid
      rw [List.any_eq_true]
      exact ⟨p,hp,decide_eq_true he⟩
    simp only [tick,profileTick]
    rw [if_neg,hgo,hall]
    exact fun ⟨j,hj,_⟩ => hj rfl
  have hinserted : tick ⟨s.db,new.id,fun _ => .superseded current ids⟩ ()=
      ⟨s.db,new.id+1,fun _ => .inserted current ids new⟩ := by
    simp only [tick,profileTick,hgo,← hnew]
  have hfinished : tick ⟨s.db,new.id+1,fun _ => .inserted current ids new⟩ ()=
      ⟨commitProfile ids new s.db,new.id+1,fun _ => .finished new⟩ := by
    simp only [tick,profileTick,hgo]
  have hrun : [(),(),(),(),()].foldl tick (ProfileRace.opening s.db new.id)=
      ⟨commitProfile ids new s.db,new.id+1,fun _ => .finished new⟩ := by
    simp only [List.foldl_cons,List.foldl_nil,hfound,hwaiting,hsuperseded,hinserted,hfinished]
  have hsame : (supersedeRows ids s.db).vpnProfiles=(markSuperseded deviceId db).vpnProfiles := by
    apply Store.extensionality
    unfold supersedeRows markSuperseded
    rw [Store.rows_mapRows,Store.rows_mapRows,hdb]
    exact List.map_congr_left fun q hq => superseded_current deviceId rfl hq
  refine ⟨_,hrun,rfl,?_⟩
  rw [ht,← hsame]
  rfl

/-- Two refreshes of the opened device, the second after the first. -/
theorem profiles_regenerated_iff_opened :
    Regenerated 11 opened.db (([false,false,false,false,false,true,true,true,true,true].foldl
        (profileTick 11 fun _ => ⟨.fullVpn,["0.0.0.0/0"],["1.1.1.1"],0⟩)
        (ProfileRace.opening opened.db opened.serial))) ↔
      Conducted Alone (profileTick 11 fun _ => ⟨.fullVpn,["0.0.0.0/0"],["1.1.1.1"],0⟩)
        (ProfileRace.opening opened.db opened.serial)
        [false,false,false,false,false,true,true,true,true,true] :=
  profiles_regenerated_iff opened_reachable 11 _ _ (by decide +kernel)

/-- Two refreshes that overlap leave two current profiles of one version. -/
theorem profiles_not_regenerated :
    (∀ i,(([false,true,false,false,true,false,false,true,true,true].foldl
      (profileTick 11 fun _ => ⟨.fullVpn,["0.0.0.0/0"],["1.1.1.1"],0⟩)
      (ProfileRace.opening opened.db opened.serial)).place i).ended=true) ∧
    ¬Regenerated 11 opened.db ([false,true,false,false,true,false,false,true,true,true].foldl
      (profileTick 11 fun _ => ⟨.fullVpn,["0.0.0.0/0"],["1.1.1.1"],0⟩)
      (ProfileRace.opening opened.db opened.serial)) := by
  constructor
  · decide +kernel
  · intro h
    obtain ⟨p,hp⟩ := h.current
    have hlength := congrArg List.length hp
    have htwo : (([false,true,false,false,true,false,false,true,true,true].foldl
        (profileTick 11 fun _ => ⟨.fullVpn,["0.0.0.0/0"],["1.1.1.1"],0⟩)
        (ProfileRace.opening opened.db opened.serial)).committed.currentProfiles 11).length=2 := by
      decide +kernel
    rw [htwo] at hlength
    cases hlength

end VpnService.Backend
