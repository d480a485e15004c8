import VpnService.Framework.Transactions
import VpnService.Framework.Store
import VpnService.Backend.Models

namespace VpnService.Backend

inductive AdminRole | superadmin | support | viewer
  deriving DecidableEq

/-- `hash_password`, with the salt it draws. -/
structure PasswordHash where
  password : String
  salt : Int
  deriving DecidableEq

structure AdminUser where
  id : Id
  email : String
  hashedPassword : PasswordHash
  role : AdminRole
  isActive : Bool
  deriving DecidableEq

abbrev Admins := Store AdminUser.id

/-- What a request to bootstrap brings along, and whether its commit and all it does after the
insert go well. -/
structure Bootstrap where
  email : String
  password : String
  providedSecret : String
  works : Bool

/-- Why a request ends without an admin. -/
inductive BootstrapError
  | invalidBootstrapSecret | bootstrapAlreadyCompleted | emailTaken | aborted
  deriving DecidableEq

/-- Where a request stands. -/
inductive BootstrapPlace
  | start
  | counted                   -- no admin was there
  | inserted (a : AdminUser)  -- the row is flushed
  | finished (a : AdminUser)
  | failed (e : BootstrapError)
  deriving DecidableEq

/-- The sequence, and the e-mails that were put into the unique index and not taken out again. -/
structure AdminIndex where
  serial : Int
  taken : List String

def Bootstrap.admin (r : Bootstrap) (serial : Int) : AdminUser :=
  ⟨serial,r.email,⟨r.password,serial⟩,.superadmin,true⟩

abbrev BootstrapRace (ι : Type) := Workplace Admins AdminUser AdminIndex ι BootstrapPlace

namespace BootstrapPlace

/-- The row a request has written and not committed. -/
def row : BootstrapPlace → Option AdminUser
  | inserted a => some a
  | _ => none

/-- The request has counted no admin and is not over. -/
def underway : BootstrapPlace → Bool
  | counted | inserted _ => true
  | _ => false

/-- The request has counted no admin, and all that can keep it from its insert is its e-mail. -/
def bound : BootstrapPlace → Bool
  | counted | inserted _ | finished _ | failed .emailTaken => true
  | _ => false

end BootstrapPlace

section

variable {ι : Type} (expectedSecret : String) (requests : ι → Bootstrap)

/-- The next step of request `i`. An `INSERT` fails on an e-mail that is committed and waits for
the transaction that has written it if it is not. -/
def bootstrapNext (i : ι) (place : BootstrapPlace) (admins : Admins) (index : AdminIndex) :
    Move AdminUser AdminIndex BootstrapPlace := match place with
  | .start =>
    if (requests i).providedSecret≠expectedSecret then
      .rollback (.failed .invalidBootstrapSecret) index
    else if admins.rows.length>0 then .rollback (.failed .bootstrapAlreadyCompleted) index
    else .work .counted [] index
  | .counted =>
    if admins.rows.any fun a => a.email=(requests i).email then
      .rollback (.failed .emailTaken) index
    else if (requests i).email∈index.taken then .work .counted [] index
    else
      let a := (requests i).admin index.serial
      .work (.inserted a) [a] ⟨index.serial+1,a.email::index.taken⟩
  | .inserted a =>
    if (requests i).works then .commit (.finished a)
    else .rollback (.failed .aborted) {index with taken := index.taken.filter fun x => x≠a.email}
  | .finished a => .work (.finished a) [] index
  | .failed e => .work (.failed e) [] index

variable [DecidableEq ι]

def bootstrapTick (s : BootstrapRace ι) (i : ι) : BootstrapRace ι :=
  s.tick Store.insert (bootstrapNext expectedSecret requests) i

/-- No admin yet, and nobody has begun. -/
def bootstrapOpening : BootstrapRace ι := Workplace.opening .empty ⟨1,[]⟩ .start

/-- A request that counts no admin and is going to succeed has the e-mail of every other one that
has counted none and is going to succeed. -/
def Agreeing (s : BootstrapRace ι) (i : ι) : Prop :=
  (requests i).works=true → (s.party i).place=.start →
    (requests i).providedSecret=expectedSecret → s.committed.rows=[] →
    ∀ j,j≠i → (requests j).works=true → (s.party j).place.underway=true →
      (requests j).email=(requests i).email

/-- At most one request has committed its admin. -/
def OneFinished (s : BootstrapRace ι) : Prop :=
  ∀ i j a b,(s.party i).place=.finished a → (s.party j).place=.finished b → i=j

/-- The step commits nothing once there is an admin. -/
def Closed (s : BootstrapRace ι) (i : ι) : Prop :=
  s.committed.rows≠[] → (bootstrapTick expectedSecret requests s i).committed=s.committed

/-- At most one request ever commits an admin, and none does once there is one. -/
def BootstrapsOnce (schedule : List ι) : Prop :=
  Throughout OneFinished (bootstrapTick expectedSecret requests) bootstrapOpening schedule ∧
    Conducted (Closed expectedSecret requests) (bootstrapTick expectedSecret requests)
      bootstrapOpening schedule

/-- What holds at any time: who has written and committed which row. -/
structure Bootstrapping (s : BootstrapRace ι) : Prop where
  writes : ∀ i,(s.party i).writes=(s.party i).place.row.toList
  numbered : ∀ a∈s.committed.rows,a.id<s.rest.serial
  emails : ∀ a∈s.committed.rows,∀ b∈s.committed.rows,a.email=b.email → a=b
  pending : ∀ i a,(s.party i).place=.inserted a → a.email=(requests i).email ∧
    a.email∈s.rest.taken ∧ a.id<s.rest.serial ∧
    ∀ b∈s.committed.rows,b.id≠a.id ∧ b.email≠a.email
  distinct : ∀ i j a b,(s.party i).place=.inserted a → (s.party j).place=.inserted b →
    a.id=b.id ∨ a.email=b.email → i=j
  finished : ∀ i a,(s.party i).place=.finished a →
    a∈s.committed.rows ∧ a.email=(requests i).email ∧ (requests i).works=true
  finishers : ∀ i j a,(s.party i).place=.finished a → (s.party j).place=.finished a → i=j
  origin : ∀ a∈s.committed.rows,∃ i,(s.party i).place=.finished a
  refused : ∀ i,(s.party i).place=.failed .emailTaken →
    ∃ a∈s.committed.rows,a.email=(requests i).email

end

section

variable {ι : Type} [DecidableEq ι] {expectedSecret : String} {requests : ι → Bootstrap}
  {s : BootstrapRace ι} {i : ι}

/-- What a step of request `i` can do. -/
inductive BootstrapStep (expectedSecret : String) (requests : ι → Bootstrap)
    (s : BootstrapRace ι) (i : ι) : BootstrapRace ι → Prop
  | stay (hplace : (s.party i).place≠.start) : BootstrapStep expectedSecret requests s i s
  | refuse (e : BootstrapError) (hplace : (s.party i).place=.start) (he : e≠.emailTaken)
      (hguard : (requests i).providedSecret=expectedSecret → s.committed.rows≠[]) :
    BootstrapStep expectedSecret requests s i
      {s with party := Function.update s.party i ⟨.failed e,[]⟩}
  | count (hplace : (s.party i).place=.start)
      (hsecret : (requests i).providedSecret=expectedSecret) (hnone : s.committed.rows=[]) :
    BootstrapStep expectedSecret requests s i
      {s with party := Function.update s.party i ⟨.counted,[]⟩}
  | clash (hplace : (s.party i).place=.counted)
      (htaken : ∃ a∈s.committed.rows,a.email=(requests i).email) :
    BootstrapStep expectedSecret requests s i
      {s with party := Function.update s.party i ⟨.failed .emailTaken,[]⟩}
  | insert (a : AdminUser) (ha : a=(requests i).admin s.rest.serial)
      (hplace : (s.party i).place=.counted)
      (hfree : ∀ b∈s.committed.rows,b.email≠(requests i).email)
      (hindex : (requests i).email∉s.rest.taken) :
    BootstrapStep expectedSecret requests s i
      {s with
        rest := ⟨s.rest.serial+1,a.email::s.rest.taken⟩
        party := Function.update s.party i ⟨.inserted a,[a]⟩}
  | commit (a : AdminUser) (hplace : (s.party i).place=.inserted a)
      (hworks : (requests i).works=true) :
    BootstrapStep expectedSecret requests s i
      {s with
        committed := s.committed.insert a
        party := Function.update s.party i ⟨.finished a,[]⟩}
  | abort (a : AdminUser) (hplace : (s.party i).place=.inserted a)
      (hworks : (requests i).works=false) :
    BootstrapStep expectedSecret requests s i
      {s with
        rest := {s.rest with taken := s.rest.taken.filter fun x => x≠a.email}
        party := Function.update s.party i ⟨.failed .aborted,[]⟩}

theorem bootstrapTick_step (h : Bootstrapping requests s) (i : ι) :
    BootstrapStep expectedSecret requests s i (bootstrapTick expectedSecret requests s i) := by
  have hstay : (s.party i).place≠.start → bootstrapNext expectedSecret requests i
      (s.party i).place (s.view Store.insert i) s.rest=.work (s.party i).place [] s.rest →
      BootstrapStep expectedSecret requests s i (bootstrapTick expectedSecret requests s i) := by
    intro hbegun hnext
    have hsame : bootstrapTick expectedSecret requests s i=s := by
      unfold bootstrapTick
      rw [Workplace.tick_work hnext,List.append_nil,Function.update_eq_self]
    rw [hsame]
    exact .stay hbegun
  have hview : s.view Store.insert i=(s.party i).place.row.toList.foldl Store.insert s.committed := by
    unfold Workplace.view
    rw [h.writes i]
  have hwrites := h.writes i
  unfold bootstrapTick at hstay ⊢
  cases hplace : (s.party i).place with
  | start =>
    rw [hplace] at hview hwrites
    have hown : s.view Store.insert i=s.committed := hview
    have hnone : (s.party i).writes=[] := hwrites
    by_cases hsecret : (requests i).providedSecret=expectedSecret
    · by_cases hempty : s.committed.rows=[]
      · have hnext : bootstrapNext expectedSecret requests i (s.party i).place
            (s.view Store.insert i) s.rest=.work .counted [] s.rest := by
          rw [hplace,hown]
          simp [bootstrapNext,hsecret,hempty]
        rw [Workplace.tick_work hnext,hnone]
        exact .count hplace hsecret hempty
      · have hsome : s.committed.rows.length>0 := List.length_pos_of_ne_nil hempty
        have hnext : bootstrapNext expectedSecret requests i (s.party i).place
            (s.view Store.insert i) s.rest=
              .rollback (.failed .bootstrapAlreadyCompleted) s.rest := by
          rw [hplace,hown]
          simp [bootstrapNext,hsecret,hsome]
        rw [Workplace.tick_rollback hnext]
        exact .refuse _ hplace (by decide) fun _ => hempty
    · have hnext : bootstrapNext expectedSecret requests i (s.party i).place
          (s.view Store.insert i) s.rest=.rollback (.failed .invalidBootstrapSecret) s.rest := by
        rw [hplace]
        simp [bootstrapNext,hsecret]
      rw [Workplace.tick_rollback hnext]
      exact .refuse _ hplace (by decide) fun he => absurd he hsecret
  | counted =>
    rw [hplace] at hview hwrites
    have hown : s.view Store.insert i=s.committed := hview
    have hnone : (s.party i).writes=[] := hwrites
    by_cases htaken : ∃ a∈s.committed.rows,a.email=(requests i).email
    · have hany : (s.committed.rows.any fun a => a.email=(requests i).email)=true := by
        simpa using htaken
      have hnext : bootstrapNext expectedSecret requests i (s.party i).place
          (s.view Store.insert i) s.rest=.rollback (.failed .emailTaken) s.rest := by
        rw [hplace,hown]
        simp only [bootstrapNext,hany,if_true]
      rw [Workplace.tick_rollback hnext]
      exact .clash hplace htaken
    · have hany : (s.committed.rows.any fun a => a.email=(requests i).email)=false := by
        simpa using htaken
      by_cases hindex : (requests i).email∈s.rest.taken
      · apply hstay (by simp [hplace])
        rw [hplace,hown]
        simp only [bootstrapNext,hany,hindex,if_true,Bool.false_eq_true,if_false]
      · have hnext : bootstrapNext expectedSecret requests i (s.party i).place
            (s.view Store.insert i) s.rest=
              .work (.inserted ((requests i).admin s.rest.serial))
                [(requests i).admin s.rest.serial]
                ⟨s.rest.serial+1,((requests i).admin s.rest.serial).email::s.rest.taken⟩ := by
          rw [hplace,hown]
          simp only [bootstrapNext,hany,hindex,Bool.false_eq_true,if_false]
        rw [Workplace.tick_work hnext,hnone]
        exact .insert _ rfl hplace (fun b hb he => htaken ⟨b,hb,he⟩) hindex
  | inserted a =>
    rw [hplace] at hview
    have hown : s.view Store.insert i=s.committed.insert a := hview
    cases hworks : (requests i).works with
    | true =>
      have hnext : bootstrapNext expectedSecret requests i (s.party i).place
          (s.view Store.insert i) s.rest=.commit (.finished a) := by
        rw [hplace]
        simp [bootstrapNext,hworks]
      rw [Workplace.tick_commit hnext,hown]
      exact .commit a hplace hworks
    | false =>
      have hnext : bootstrapNext expectedSecret requests i (s.party i).place
          (s.view Store.insert i) s.rest=.rollback (.failed .aborted)
            {s.rest with taken := s.rest.taken.filter fun x => x≠a.email} := by
        rw [hplace]
        simp [bootstrapNext,hworks]
      rw [Workplace.tick_rollback hnext]
      exact .abort a hplace hworks
  | finished a => exact hstay (by simp [hplace]) (by rw [hplace]; rfl)
  | failed e => exact hstay (by simp [hplace]) (by rw [hplace]; rfl)

omit [DecidableEq ι] in
theorem bootstrapping_opening :
    Bootstrapping requests (bootstrapOpening : BootstrapRace ι) where
  writes _ := rfl
  numbered a ha := by cases ha
  emails a ha := by cases ha
  pending i a ha := by cases ha
  distinct i j a b ha := by cases ha
  finished i a ha := by cases ha
  finishers i j a ha := by cases ha
  origin a ha := by cases ha
  refused i hi := by cases hi

/-- Request `i` goes to another place without a commit. -/
theorem Bootstrapping.move (h : Bootstrapping requests s) {place : BootstrapPlace}
    {writes : List AdminUser} {rest : AdminIndex} (hbefore : ∀ a,(s.party i).place≠.finished a)
    (hafter : ∀ a,place≠.finished a) (hwrites : writes=place.row.toList)
    (hserial : s.rest.serial≤rest.serial)
    (htaken : ∀ j,j≠i → ∀ b,(s.party j).place=.inserted b → b.email∈rest.taken)
    (hrow : ∀ a,place=.inserted a → a.email=(requests i).email ∧ a.email∈rest.taken ∧
      a.id<rest.serial ∧ (∀ b∈s.committed.rows,b.id≠a.id ∧ b.email≠a.email) ∧
      ∀ j,j≠i → ∀ b,(s.party j).place=.inserted b → ¬(a.id=b.id ∨ a.email=b.email))
    (hrefused : place=.failed .emailTaken →
      ∃ a∈s.committed.rows,a.email=(requests i).email) :
    Bootstrapping requests
      {s with rest := rest,party := Function.update s.party i ⟨place,writes⟩} where
  writes j := by
    by_cases hj : j=i
    · subst hj
      simpa using hwrites
    · simpa [hj] using h.writes j
  numbered a ha := (h.numbered a ha).trans_le hserial
  emails := h.emails
  pending j a ha := by
    by_cases hj : j=i
    · subst hj
      obtain ⟨hemail,hin,hlt,hfree,_⟩ := hrow a (by simpa using ha)
      exact ⟨hemail,hin,hlt,hfree⟩
    · have ha : (s.party j).place=.inserted a := by simpa [hj] using ha
      obtain ⟨hemail,_,hlt,hfree⟩ := h.pending j a ha
      exact ⟨hemail,htaken j hj a ha,hlt.trans_le hserial,hfree⟩
  distinct j k a b ha hb hsame := by
    by_cases hj : j=i
    · by_cases hk : k=i
      · rw [hj,hk]
      · subst hj
        have hown := hrow a (by simpa using ha)
        exact absurd hsame (hown.2.2.2.2 k hk b (by simpa [hk] using hb))
    · by_cases hk : k=i
      · subst hk
        have hown := hrow b (by simpa using hb)
        have hother := hown.2.2.2.2 j hj a (by simpa [hj] using ha)
        exact absurd (hsame.imp Eq.symm Eq.symm) hother
      · exact h.distinct j k a b (by simpa [hj] using ha) (by simpa [hk] using hb) hsame
  finished j a ha := by
    by_cases hj : j=i
    · subst hj
      exact absurd (by simpa using ha) (hafter a)
    · exact h.finished j a (by simpa [hj] using ha)
  finishers j k a hj' hk' := by
    by_cases hj : j=i
    · subst hj
      exact absurd (by simpa using hj') (hafter a)
    · by_cases hk : k=i
      · subst hk
        exact absurd (by simpa using hk') (hafter a)
      · exact h.finishers j k a (by simpa [hj] using hj') (by simpa [hk] using hk')
  origin a ha := by
    obtain ⟨j,hj⟩ := h.origin a ha
    have hji : j≠i := fun he => hbefore a (he ▸ hj)
    exact ⟨j,by simpa [hji] using hj⟩
  refused j hj' := by
    by_cases hj : j=i
    · subst hj
      exact hrefused (by simpa using hj')
    · exact h.refused j (by simpa [hj] using hj')

/-- The row a request commits is new by number and e-mail. -/
theorem Bootstrapping.commit (h : Bootstrapping requests s) {a : AdminUser}
    (hplace : (s.party i).place=.inserted a) (hworks : (requests i).works=true) :
    Bootstrapping requests
      {s with
        committed := s.committed.insert a
        party := Function.update s.party i ⟨.finished a,[]⟩} := by
  obtain ⟨hemail,_,hlt,hfree⟩ := h.pending i a hplace
  have hmem : ∀ b,b∈(s.committed.insert a).rows ↔ b∈s.committed.rows ∨ b=a := fun b =>
    Store.mem_insert fun x hx => (hfree x hx).1
  constructor
  · intro j
    by_cases hj : j=i
    · subst hj
      simp [BootstrapPlace.row]
    · simpa [hj] using h.writes j
  · intro b hb
    rcases (hmem b).mp hb with hb|hb
    · exact h.numbered b hb
    · rw [hb]
      exact hlt
  · intro b hb c hc he
    rcases (hmem b).mp hb with hb|hb
    · rcases (hmem c).mp hc with hc|hc
      · exact h.emails b hb c hc he
      · rw [hc] at he
        exact absurd he (hfree b hb).2
    · rcases (hmem c).mp hc with hc|hc
      · rw [hb] at he
        exact absurd he.symm (hfree c hc).2
      · rw [hb,hc]
  · intro j b hb
    by_cases hj : j=i
    · subst hj
      simp at hb
    · have hb : (s.party j).place=.inserted b := by simpa [hj] using hb
      obtain ⟨hbmail,hbin,hblt,hbfree⟩ := h.pending j b hb
      refine ⟨hbmail,hbin,hblt,fun c hc => ?_⟩
      rcases (hmem c).mp hc with hc|hc
      · exact hbfree c hc
      · rw [hc]
        constructor
        · exact fun he => hj (h.distinct j i b a hb hplace (Or.inl he.symm))
        · exact fun he => hj (h.distinct j i b a hb hplace (Or.inr he.symm))
  · intro j k b c hb hc hsame
    by_cases hj : j=i
    · subst hj
      simp at hb
    · by_cases hk : k=i
      · subst hk
        simp at hc
      · exact h.distinct j k b c (by simpa [hj] using hb) (by simpa [hk] using hc) hsame
  · intro j b hb
    by_cases hj : j=i
    · subst hj
      have hba : a=b := by simpa using hb
      exact ⟨(hmem b).mpr (Or.inr hba.symm),hba ▸ hemail,hworks⟩
    · obtain ⟨hin,hbmail,hbworks⟩ := h.finished j b (by simpa [hj] using hb)
      exact ⟨(hmem b).mpr (Or.inl hin),hbmail,hbworks⟩
  · intro j k b hb hc
    have hnew : ∀ l,l≠i → (s.party l).place=.finished b → b≠a := fun l _ hl hba =>
      (hfree b (h.finished l b hl).1).1 (congrArg AdminUser.id hba)
    by_cases hj : j=i
    · by_cases hk : k=i
      · rw [hj,hk]
      · subst hj
        have hba : a=b := by simpa using hb
        exact absurd hba.symm (hnew k hk (by simpa [hk] using hc))
    · by_cases hk : k=i
      · subst hk
        have hca : a=b := by simpa using hc
        exact absurd hca.symm (hnew j hj (by simpa [hj] using hb))
      · exact h.finishers j k b (by simpa [hj] using hb) (by simpa [hk] using hc)
  · intro b hb
    rcases (hmem b).mp hb with hb|hb
    · obtain ⟨j,hj⟩ := h.origin b hb
      have hji : j≠i := by
        intro he
        rw [he,hplace] at hj
        cases hj
      exact ⟨j,by simpa [hji] using hj⟩
    · exact ⟨i,by simp [hb]⟩
  · intro j hj'
    by_cases hj : j=i
    · subst hj
      simp at hj'
    · obtain ⟨b,hb,he⟩ := h.refused j (by simpa [hj] using hj')
      exact ⟨b,(hmem b).mpr (Or.inl hb),he⟩

/-- Every step keeps the books of who has written what. -/
theorem Bootstrapping.step {t : BootstrapRace ι} (h : Bootstrapping requests s)
    (hstep : BootstrapStep expectedSecret requests s i t) : Bootstrapping requests t := by
  have hothers : ∀ j,j≠i → ∀ b,(s.party j).place=.inserted b → b.email∈s.rest.taken :=
    fun j _ b hb => (h.pending j b hb).2.1
  have hopen : ∀ place : BootstrapPlace,(s.party i).place=place → (∀ a,place≠.finished a) →
      ∀ a,(s.party i).place≠.finished a := fun place hplace hno => hplace ▸ hno
  cases hstep with
  | stay hplace => exact h
  | refuse e hplace he hguard =>
    apply h.move (hopen _ hplace (by simp)) (by simp) rfl le_rfl hothers (by simp)
    intro hfail
    exact absurd (BootstrapPlace.failed.inj hfail) he
  | count hplace hsecret hnone =>
    exact h.move (hopen _ hplace (by simp)) (by simp) rfl le_rfl hothers (by simp) (by simp)
  | clash hplace htaken =>
    exact h.move (hopen _ hplace (by simp)) (by simp) rfl le_rfl hothers (by simp) fun _ => htaken
  | insert a ha hplace hfree hindex =>
    have hemail : a.email=(requests i).email := by rw [ha]; rfl
    have hid : a.id=s.rest.serial := by rw [ha]; rfl
    have hnext : s.rest.serial<s.rest.serial+1 := Int.lt_succ _
    apply h.move (hopen _ hplace (by simp)) (by simp) rfl hnext.le _ _ (by simp)
    · exact fun j hj b hb => List.mem_cons_of_mem _ (hothers j hj b hb)
    · intro b hb
      cases hb
      refine ⟨hemail,List.mem_cons_self,hid.trans_lt hnext,?_,?_⟩
      · intro b hb
        refine ⟨?_,fun he => hfree b hb (he.trans hemail)⟩
        rw [hid]
        exact (h.numbered b hb).ne
      · intro j hj b hb hsame
        obtain ⟨_,hin,hlt,_⟩ := h.pending j b hb
        rcases hsame with he|he
        · rw [← he,hid] at hlt
          exact lt_irrefl _ hlt
        · rw [← he,hemail] at hin
          exact hindex hin
  | commit a hplace hworks => exact h.commit hplace hworks
  | abort a hplace hworks =>
    refine h.move (hopen _ hplace (by simp)) (by simp) rfl (le_refl s.rest.serial) ?_ (by simp)
      (by simp)
    intro j hj b hb
    have hother : b.email≠a.email := fun he => hj (h.distinct j i b a hb hplace (Or.inr he))
    simpa using ⟨hothers j hj b hb,hother⟩

theorem Bootstrapping.tick (h : Bootstrapping requests s) (i : ι) :
    Bootstrapping requests (bootstrapTick expectedSecret requests s i) :=
  h.step (bootstrapTick_step h i)

/-- A request that has counted no admin and is going to succeed ends with its e-mail taken. -/
theorem bound_step {t : BootstrapRace ι} {k : ι}
    (hstep : BootstrapStep expectedSecret requests s i t) (hworks : (requests k).works=true)
    (hbound : (s.party k).place.bound=true) : (t.party k).place.bound=true := by
  by_cases hk : k=i
  · subst hk
    cases hstep with
    | stay hplace => exact hbound
    | refuse e hplace he hguard =>
      rw [hplace] at hbound
      cases hbound
    | count hplace hsecret hnone => simp [BootstrapPlace.bound]
    | clash hplace htaken => simp [BootstrapPlace.bound]
    | insert a ha hplace hfree hindex => simp [BootstrapPlace.bound]
    | commit a hplace hdone => simp [BootstrapPlace.bound]
    | abort a hplace hlost =>
      rw [hworks] at hlost
      cases hlost
  · cases hstep with
    | stay hplace => exact hbound
    | _ => simpa [hk] using hbound

theorem bound_run {k : ι} (h : Bootstrapping requests s) (hworks : (requests k).works=true)
    (hbound : (s.party k).place.bound=true) (schedule : List ι) :
    ((schedule.foldl (bootstrapTick expectedSecret requests) s).party k).place.bound=true := by
  induction schedule generalizing s with
  | nil => exact hbound
  | cons i schedule ih =>
    exact ih (h.tick i) (bound_step (bootstrapTick_step h i) hworks hbound)

theorem Bootstrapping.run (h : Bootstrapping requests s) (schedule : List ι) :
    Bootstrapping requests (schedule.foldl (bootstrapTick expectedSecret requests) s) := by
  induction schedule generalizing s with
  | nil => exact h
  | cons i schedule ih => exact ih (h.tick i)

omit [DecidableEq ι] in
theorem committed_of_bound {k : ι} (h : Bootstrapping requests s)
    (hbound : (s.party k).place.bound=true) (hover : (s.party k).place.underway=false) :
    ∃ a∈s.committed.rows,a.email=(requests k).email := by
  cases hplace : (s.party k).place with
  | start =>
    rw [hplace] at hbound
    cases hbound
  | counted =>
    rw [hplace] at hover
    cases hover
  | inserted a =>
    rw [hplace] at hover
    cases hover
  | finished a =>
    obtain ⟨hmem,hemail,_⟩ := h.finished k a hplace
    exact ⟨a,hmem,hemail⟩
  | failed e =>
    cases e with
    | emailTaken => exact h.refused k hplace
    | _ =>
      rw [hplace] at hbound
      cases hbound

/-- All requests that have counted no admin and are going to succeed, and all that have succeeded,
have one e-mail. -/
def Agreed (requests : ι → Bootstrap) (s : BootstrapRace ι) : Prop := ∃ email,
  (∀ i,(requests i).works=true → (s.party i).place.underway=true → (requests i).email=email) ∧
    ∀ a∈s.committed.rows,a.email=email

omit [DecidableEq ι] in
/-- Where the requests agree, the first commit is the only one. -/
theorem Agreed.commit (h : Bootstrapping requests s) (hagreed : Agreed requests s)
    {a : AdminUser} (hplace : (s.party i).place=.inserted a) (hworks : (requests i).works=true) :
    s.committed.rows=[] := by
  obtain ⟨email,hunderway,hcommitted⟩ := hagreed
  obtain ⟨hemail,_,_,hfree⟩ := h.pending i a hplace
  have hown : a.email=email := by
    rw [hemail]
    exact hunderway i hworks (by rw [hplace]; rfl)
  apply List.eq_nil_iff_forall_not_mem.mpr
  intro b hb
  exact (hfree b hb).2 ((hcommitted b hb).trans hown.symm)

theorem Agreed.step {t : BootstrapRace ι} (h : Bootstrapping requests s)
    (hagreed : Agreed requests s) (hgood : Agreeing expectedSecret requests s i)
    (hstep : BootstrapStep expectedSecret requests s i t) : Agreed requests t := by
  -- a step of one that is not underway afterwards, or was before
  have hkeep : ∀ {place : BootstrapPlace} {writes : List AdminUser} {rest : AdminIndex},
      (place.underway=true → (s.party i).place.underway=true) →
      Agreed requests {s with rest := rest,party := Function.update s.party i ⟨place,writes⟩} := by
    intro place writes rest hplace
    obtain ⟨email,hunderway,hcommitted⟩ := hagreed
    refine ⟨email,fun j hworks hj => ?_,hcommitted⟩
    by_cases hji : j=i
    · subst hji
      exact hunderway j hworks (hplace (by simpa using hj))
    · exact hunderway j hworks (by simpa [hji] using hj)
  cases hstep with
  | stay hplace => exact hagreed
  | refuse e hplace he hguard => exact hkeep fun hu => by cases hu
  | count hplace hsecret hnone =>
    by_cases hworks : (requests i).works=true
    · refine ⟨(requests i).email,fun j hj hu => ?_,fun a ha => ?_⟩
      · by_cases hji : j=i
        · rw [hji]
        · exact hgood hworks hplace hsecret hnone j hji hj (by simpa [hji] using hu)
      · have ha : a∈s.committed.rows := ha
        rw [hnone] at ha
        cases ha
    · obtain ⟨email,hunderway,hcommitted⟩ := hagreed
      refine ⟨email,fun j hj hu => ?_,hcommitted⟩
      by_cases hji : j=i
      · exact absurd (hji ▸ hj) hworks
      · exact hunderway j hj (by simpa [hji] using hu)
  | clash hplace htaken => exact hkeep fun hu => by cases hu
  | insert a ha hplace hfree hindex =>
    apply hkeep
    rw [hplace]
    exact fun _ => rfl
  | commit a hplace hworks =>
    have hnone := Agreed.commit h hagreed hplace hworks
    obtain ⟨email,hunderway,_⟩ := hagreed
    obtain ⟨hemail,_,_,hfree⟩ := h.pending i a hplace
    have hown : (requests i).email=email := hunderway i hworks (by rw [hplace]; rfl)
    refine ⟨email,fun j hj hu => ?_,fun b hb => ?_⟩
    · by_cases hji : j=i
      · rw [hji,hown]
      · exact hunderway j hj (by simpa [hji] using hu)
    · rcases (Store.mem_insert fun x hx => (hfree x hx).1).mp hb with hb|hb
      · rw [hnone] at hb
        cases hb
      · rw [hb,hemail,hown]
  | abort a hplace hworks => exact hkeep fun hu => by cases hu

omit [DecidableEq ι] in
theorem Agreed.one (h : Bootstrapping requests s) (hagreed : Agreed requests s) :
    OneFinished s := by
  obtain ⟨email,_,hcommitted⟩ := hagreed
  intro i j a b ha hb
  obtain ⟨hamem,_,_⟩ := h.finished i a ha
  obtain ⟨hbmem,_,_⟩ := h.finished j b hb
  have hab : a=b := h.emails a hamem b hbmem ((hcommitted a hamem).trans (hcommitted b hbmem).symm)
  rw [← hab] at hb
  exact h.finishers i j a ha hb

theorem Agreed.closed (h : Bootstrapping requests s) (hagreed : Agreed requests s) (i : ι) :
    Closed expectedSecret requests s i := by
  intro hsome
  have hstep : BootstrapStep expectedSecret requests s i
      (bootstrapTick expectedSecret requests s i) := bootstrapTick_step h i
  generalize bootstrapTick expectedSecret requests s i=t at hstep
  cases hstep with
  | commit a hplace hworks => exact absurd (Agreed.commit h hagreed hplace hworks) hsome
  | _ => rfl

/-- A step that does not agree leads to a second admin or an end that is not reached. -/
theorem agreeing_of_one (h : Bootstrapping requests s) (schedule : List ι)
    (hover : ∀ k,((schedule.foldl (bootstrapTick expectedSecret requests)
      (bootstrapTick expectedSecret requests s i)).party k).place.underway=false)
    (hone : OneFinished (schedule.foldl (bootstrapTick expectedSecret requests)
      (bootstrapTick expectedSecret requests s i))) : Agreeing expectedSecret requests s i := by
  intro hworks hplace hsecret hnone j hji hjworks hunderway
  have hstep : BootstrapStep expectedSecret requests s i
      (bootstrapTick expectedSecret requests s i) := bootstrapTick_step h i
  have hown : ((bootstrapTick expectedSecret requests s i).party i).place.bound=true := by
    generalize bootstrapTick expectedSecret requests s i=t at hstep
    cases hstep with
    | stay hbegun => exact absurd hplace hbegun
    | refuse e _ he hguard => exact absurd hnone (hguard hsecret)
    | count => simp [BootstrapPlace.bound]
    | clash hplace' =>
      rw [hplace] at hplace'
      cases hplace'
    | insert a ha hplace' =>
      rw [hplace] at hplace'
      cases hplace'
    | commit a hplace' =>
      rw [hplace] at hplace'
      cases hplace'
    | abort a hplace' =>
      rw [hplace] at hplace'
      cases hplace'
  have hother : ((bootstrapTick expectedSecret requests s i).party j).place.bound=true := by
    apply bound_step hstep hjworks
    cases hj : (s.party j).place <;> rw [hj] at hunderway <;>
      simp [BootstrapPlace.bound,BootstrapPlace.underway] at hunderway ⊢
  have hnext : Bootstrapping requests (bootstrapTick expectedSecret requests s i) := h.tick i
  have hlast : Bootstrapping requests (schedule.foldl (bootstrapTick expectedSecret requests)
      (bootstrapTick expectedSecret requests s i)) := hnext.run schedule
  obtain ⟨a,ha,hai⟩ := committed_of_bound hlast (bound_run hnext hworks hown schedule) (hover i)
  obtain ⟨b,hb,hbj⟩ := committed_of_bound hlast (bound_run hnext hjworks hother schedule) (hover j)
  obtain ⟨k,hk⟩ := hlast.origin a ha
  obtain ⟨l,hl⟩ := hlast.origin b hb
  have hkl : k=l := hone k l a b hk hl
  rw [hkl,hl] at hk
  rw [← hai,← hbj,BootstrapPlace.finished.inj hk]

theorem agreeing_run (h : Bootstrapping requests s) (schedule : List ι)
    (hover : ∀ k,((schedule.foldl (bootstrapTick expectedSecret requests)
      s).party k).place.underway=false)
    (hone : OneFinished (schedule.foldl (bootstrapTick expectedSecret requests) s)) :
    Conducted (Agreeing expectedSecret requests) (bootstrapTick expectedSecret requests) s
      schedule := by
  induction schedule generalizing s with
  | nil => trivial
  | cons i schedule ih =>
    exact ⟨agreeing_of_one h schedule hover hone,ih (h.tick i) hover hone⟩

end

/-- Where each request that counts no admin agrees with those underway, one admin is bootstrapped
at most, in every interleaving; and an interleaving without a request underway at its end
bootstraps one at most only so. -/
theorem bootstrap_once_iff {ι : Type} [DecidableEq ι] (expectedSecret : String)
    (requests : ι → Bootstrap) (schedule : List ι) :
    (Conducted (Agreeing expectedSecret requests) (bootstrapTick expectedSecret requests)
        bootstrapOpening schedule → BootstrapsOnce expectedSecret requests schedule) ∧
      ((∀ k,((schedule.foldl (bootstrapTick expectedSecret requests)
          bootstrapOpening).party k).place.underway=false) →
        BootstrapsOnce expectedSecret requests schedule →
        Conducted (Agreeing expectedSecret requests) (bootstrapTick expectedSecret requests)
          bootstrapOpening schedule) := by
  constructor
  · intro hgood
    have hstart : Bootstrapping requests bootstrapOpening ∧
        Agreed requests (bootstrapOpening : BootstrapRace ι) := by
      refine ⟨bootstrapping_opening,"",fun i _ hi => ?_,fun a ha => ?_⟩
      · cases hi
      · cases ha
    have hstep : ∀ (s : BootstrapRace ι) (i : ι),Bootstrapping requests s ∧ Agreed requests s →
        Agreeing expectedSecret requests s i →
        Bootstrapping requests (bootstrapTick expectedSecret requests s i) ∧
          Agreed requests (bootstrapTick expectedSecret requests s i) :=
      fun s i h hi => ⟨h.1.tick i,h.2.step h.1 hi (bootstrapTick_step h.1 i)⟩
    constructor
    · exact throughout_of_conducted _ (fun s h => h.2.one h.1) hstep _ schedule hstart hgood
    · have hall := Conducted.with_invariant hstep _ schedule hstart hgood
      exact Conducted.mono (fun s i h => h.1.2.closed h.1.1 i) _ schedule hall
  · intro hover hone
    exact agreeing_run bootstrapping_opening schedule hover hone.1.last

/-- `bootstrap_first_admin` of a request that nobody disturbs. -/
def bootstrapFirstAdmin (expectedSecret : String) (r : Bootstrap) (serial : Int)
    (admins : Admins) : Except BootstrapError (AdminUser×Admins) :=
  if r.providedSecret≠expectedSecret then .error .invalidBootstrapSecret
  else if admins.rows.length>0 then .error .bootstrapAlreadyCompleted
  else .ok (r.admin serial,admins.insert (r.admin serial))

/-- Alone, the steps of a request come to the request. -/
theorem bootstrap_alone {expectedSecret : String} {r : Bootstrap} (hworks : r.works=true)
    (serial : Int) (admins : Admins) : ∃ w : BootstrapRace Unit,
      [(),(),()].foldl (bootstrapTick expectedSecret fun _ => r)
        (Workplace.opening admins ⟨serial,[]⟩ .start)=w ∧
      match bootstrapFirstAdmin expectedSecret r serial admins with
        | .ok (a,later) => (w.party ()).place=.finished a ∧ w.committed=later
        | .error e => (w.party ()).place=.failed e ∧ w.committed=admins := by
  refine ⟨_,rfl,?_⟩
  by_cases hsecret : r.providedSecret=expectedSecret
  · by_cases hnone : admins.rows=[]
    · simp [bootstrapFirstAdmin,bootstrapTick,Workplace.tick,Workplace.opening,Workplace.view,
        bootstrapNext,hsecret,hnone,hworks]
    · have hsome : admins.rows.length>0 := List.length_pos_of_ne_nil hnone
      simp [bootstrapFirstAdmin,bootstrapTick,Workplace.tick,Workplace.opening,Workplace.view,
        bootstrapNext,hsecret,hsome]
  · simp [bootstrapFirstAdmin,bootstrapTick,Workplace.tick,Workplace.opening,bootstrapNext,hsecret]

/-- Two requests with different e-mails. -/
def rivals (i : Bool) : Bootstrap :=
  ⟨if i then "root@example.com" else "someone-else@example.com","s3cret-password","secret",true⟩

/-- Both count before either commits. -/
theorem bootstraps_twice : ¬∀ (expectedSecret : String) (requests : Bool → Bootstrap)
    (schedule : List Bool),(∀ i,(requests i).providedSecret=expectedSecret) →
    BootstrapsOnce expectedSecret requests schedule := by
  intro h
  have hone := (h "secret" rivals [false,true,false,true,false,true] (fun _ => rfl)).1.last
  have hfirst : (([false,true,false,true,false,true].foldl (bootstrapTick "secret" rivals)
      bootstrapOpening).party false).place=.finished ((rivals false).admin 1) := by
    decide +kernel
  have hsecond : (([false,true,false,true,false,true].foldl (bootstrapTick "secret" rivals)
      bootstrapOpening).party true).place=.finished ((rivals true).admin 2) := by
    decide +kernel
  exact absurd (hone _ _ _ _ hfirst hsecond) (by decide)

end VpnService.Backend
