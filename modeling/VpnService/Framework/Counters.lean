import VpnService.Framework.Transactions

namespace VpnService

/-- A request that reads a counter, changes the value in memory and has its flush write it back:
the statements of the flush from the value read, whether all it waits for before and after the
flush goes well. -/
structure Adjustment (κ ω : Type) where
  counter : κ
  adjust : Int → Int
  statements : Int → List ω
  works : Bool
  commits : Bool

/-- Where such a request stands, and the value it has read. -/
inductive CounterPlace
  | start
  | loaded (n : Int)
  | flushed (n : Int)
  | finished (n : Int)
  | failed
  deriving DecidableEq

abbrev CounterRace (δ ω ι : Type) := Workplace δ ω Unit ι CounterPlace

section

variable {δ ω κ ι : Type} (value : κ → δ → Option Int) (execute : δ → ω → δ)
  (requests : ι → Adjustment κ ω)

/-- The flush of a request sets its counter, if the value has changed, and no other. -/
def Adjustment.Sets (a : Adjustment κ ω) : Prop := ∀ n c db,
  (c=a.counter → a.adjust n≠n →
    value c ((a.statements n).foldl execute db)=(value c db).map fun _ => a.adjust n) ∧
  ((c≠a.counter ∨ a.adjust n=n) → value c ((a.statements n).foldl execute db)=value c db)

def counterNext (i : ι) (place : CounterPlace) (db : δ) (_ : Unit) : Move ω Unit CounterPlace :=
  match place with
  | .start => match value (requests i).counter db with
    | none => .rollback .failed ()
    | some n => .work (.loaded n) [] ()
  | .loaded n =>
    if (requests i).works then .work (.flushed n) ((requests i).statements n) ()
    else .rollback .failed ()
  | .flushed n => if (requests i).commits then .commit (.finished n) else .rollback .failed ()
  | .finished n => .work (.finished n) [] ()
  | .failed => .work .failed [] ()

/-- What a request has changed its counter by, once it is committed. -/
def CounterPlace.change (a : Adjustment κ ω) : CounterPlace → Int
  | .finished n => a.adjust n-n
  | _ => 0

def CounterPlace.committed : CounterPlace → Bool
  | .finished _ => true
  | _ => false

variable [DecidableEq ι]

def counterTick (s : CounterRace δ ω ι) (i : ι) : CounterRace δ ω ι :=
  s.tick execute (counterNext value requests) i

/-- A request that is to commit a change finds the counter as it has read it. -/
def Unsurpassed (s : CounterRace δ ω ι) (i : ι) : Prop :=
  ∀ n,(s.party i).place=.flushed n → (requests i).commits=true → (requests i).adjust n≠n →
    value (requests i).counter s.committed=some n

variable [DecidableEq κ] [Fintype ι]

/-- What the committed requests have changed a counter by. -/
def adjusted (s : CounterRace δ ω ι) (c : κ) : Int :=
  ∑ i,if (requests i).counter=c then (s.party i).place.change (requests i) else 0

/-- Every counter is what it was, and what the committed requests have changed it by. -/
def Exact (db : δ) (s : CounterRace δ ω ι) : Prop :=
  ∀ c,value c s.committed=(value c db).map fun n => n+adjusted requests s c

/-- Between its steps a request has written what its flush has sent; a request that has read its
counter has found it there. -/
structure Standing (s : CounterRace δ ω ι) : Prop where
  writes : ∀ i,(s.party i).writes=match (s.party i).place with
    | .flushed n => (requests i).statements n
    | _ => []
  found : ∀ i n,(s.party i).place=.flushed n ∨ (s.party i).place=.loaded n →
    (value (requests i).counter s.committed).isSome

end

section

variable {δ ω κ ι : Type} {value : κ → δ → Option Int} {execute : δ → ω → δ}
  {requests : ι → Adjustment κ ω} [DecidableEq ι] [DecidableEq κ] [Fintype ι] {db : δ}
  {s : CounterRace δ ω ι} {i : ι}

omit [DecidableEq κ] in
/-- One term of a sum changes. -/
theorem sum_update {β : Type} (f : ι → β) (i : ι) (v : β) (g : ι → β → Int) :
    ∑ j,g j (Function.update f i v j)=(∑ j,g j (f j))+(g i v-g i (f i)) := by
  have hrest : ∑ j∈Finset.univ.erase i,g j (Function.update f i v j)=
      ∑ j∈Finset.univ.erase i,g j (f j) := by
    apply Finset.sum_congr rfl
    intro j hj
    rw [Function.update_of_ne (Finset.ne_of_mem_erase hj)]
  rw [← Finset.add_sum_erase Finset.univ _ (Finset.mem_univ i),
    ← Finset.add_sum_erase Finset.univ (fun j => g j (f j)) (Finset.mem_univ i),hrest,
    Function.update_self]
  omega

variable (requests) in
/-- A move of one request, that changes nothing of what is committed. -/
theorem adjusted_move (s : CounterRace δ ω ι) (i : ι) (place : CounterPlace) (writes : List ω)
    (committed : δ) (c : κ) :
    adjusted requests {s with
      committed := committed
      party := Function.update s.party i ⟨place,writes⟩} c=
    adjusted requests s c+if (requests i).counter=c then
      place.change (requests i)-(s.party i).place.change (requests i) else 0 := by
  unfold adjusted
  rw [sum_update s.party i ⟨place,writes⟩ fun j p =>
    if (requests j).counter=c then p.place.change (requests j) else 0]
  by_cases hc : (requests i).counter=c
  · simp only [hc,if_true]
  · simp only [hc,if_false,sub_self]

omit [DecidableEq κ] [Fintype ι] in
theorem Standing.move (h : Standing value requests s) {place : CounterPlace} {writes : List ω}
    (hwrites : writes=match place with
      | .flushed n => (requests i).statements n
      | _ => [])
    (hfound : ∀ n,place=.flushed n ∨ place=.loaded n →
      (value (requests i).counter s.committed).isSome) :
    Standing value requests {s with party := Function.update s.party i ⟨place,writes⟩} := by
  constructor
  · intro j
    by_cases hj : j=i
    · subst hj
      simpa using hwrites
    · simpa [hj] using h.writes j
  · intro j n hn
    by_cases hj : j=i
    · subst hj
      exact hfound n (by simpa using hn)
    · exact h.found j n (by simpa [hj] using hn)

omit [DecidableEq κ] [Fintype ι] in
/-- A step commits what a flush has sent, or moves its request and commits nothing. -/
theorem counterTick_cases (h : Standing value requests s) (i : ι) :
    (∃ n,(s.party i).place=.flushed n ∧ (requests i).commits=true ∧
      counterTick value execute requests s i={s with
        committed := ((requests i).statements n).foldl execute s.committed
        party := Function.update s.party i ⟨.finished n,[]⟩}) ∨
    ((∀ n,(s.party i).place=.flushed n → (requests i).commits=false) ∧ ∃ place writes,
      counterTick value execute requests s i=
        {s with party := Function.update s.party i ⟨place,writes⟩} ∧
      place.change (requests i)=(s.party i).place.change (requests i) ∧
      Standing value requests {s with party := Function.update s.party i ⟨place,writes⟩}) := by
  have hwritten := h.writes i
  cases hplace : (s.party i).place with
  | start =>
    refine Or.inr ⟨fun n hn => (by cases hn),?_⟩
    rw [hplace] at hwritten
    have hview : s.view execute i=s.committed := by
      unfold Workplace.view
      rw [hwritten]
      rfl
    cases hvalue : value (requests i).counter s.committed with
    | none =>
      have hnext : counterNext value requests i (s.party i).place (s.view execute i) s.rest=
          .rollback .failed () := by
        simp only [counterNext,hplace,hview,hvalue]
      exact ⟨.failed,[],Workplace.tick_rollback hnext,rfl,h.move rfl (by simp)⟩
    | some n =>
      have hnext : counterNext value requests i (s.party i).place (s.view execute i) s.rest=
          .work (.loaded n) [] () := by
        simp only [counterNext,hplace,hview,hvalue]
      have htick := Workplace.tick_work hnext
      rw [hwritten] at htick
      exact ⟨.loaded n,[],htick,rfl,h.move rfl fun _ _ => by rw [hvalue]; rfl⟩
  | loaded n =>
    refine Or.inr ⟨fun m hm => (by cases hm),?_⟩
    rw [hplace] at hwritten
    have hfound := h.found i n (Or.inr hplace)
    cases hworks : (requests i).works with
    | false =>
      have hnext : counterNext value requests i (s.party i).place (s.view execute i) s.rest=
          .rollback .failed () := by
        simp [counterNext,hplace,hworks]
      exact ⟨.failed,[],Workplace.tick_rollback hnext,rfl,h.move rfl (by simp)⟩
    | true =>
      have hnext : counterNext value requests i (s.party i).place (s.view execute i) s.rest=
          .work (.flushed n) ((requests i).statements n) () := by
        simp [counterNext,hplace,hworks]
      have htick := Workplace.tick_work hnext
      rw [hwritten,List.nil_append] at htick
      exact ⟨.flushed n,_,htick,rfl,h.move rfl fun _ _ => hfound⟩
  | flushed n =>
    rw [hplace] at hwritten
    cases hcommits : (requests i).commits with
    | false =>
      have hnext : counterNext value requests i (s.party i).place (s.view execute i) s.rest=
          .rollback .failed () := by
        simp [counterNext,hplace,hcommits]
      refine Or.inr ⟨fun _ _ => rfl,.failed,[],Workplace.tick_rollback hnext,rfl,?_⟩
      exact h.move rfl (by simp)
    | true =>
      have hnext : counterNext value requests i (s.party i).place (s.view execute i) s.rest=
          .commit (.finished n) := by
        simp [counterNext,hplace,hcommits]
      have htick := Workplace.tick_commit hnext
      unfold Workplace.view at htick
      rw [hwritten] at htick
      exact Or.inl ⟨n,rfl,rfl,htick⟩
  | finished n =>
    refine Or.inr ⟨fun m hm => (by cases hm),?_⟩
    rw [hplace] at hwritten
    have hnext : counterNext value requests i (s.party i).place (s.view execute i) s.rest=
        .work (.finished n) [] () := by
      simp only [counterNext,hplace]
    have htick := Workplace.tick_work hnext
    rw [hwritten] at htick
    exact ⟨.finished n,[],htick,rfl,h.move rfl (by simp)⟩
  | failed =>
    refine Or.inr ⟨fun m hm => (by cases hm),?_⟩
    rw [hplace] at hwritten
    have hnext : counterNext value requests i (s.party i).place (s.view execute i) s.rest=
        .work .failed [] () := by
      simp only [counterNext,hplace]
    have htick := Workplace.tick_work hnext
    rw [hwritten] at htick
    exact ⟨.failed,[],htick,rfl,h.move rfl (by simp)⟩

omit [DecidableEq κ] [Fintype ι] in
/-- A flush leaves every counter that is there. -/
theorem Adjustment.Sets.isSome {a : Adjustment κ ω} (h : a.Sets value execute) (n : Int) (c : κ)
    (db : δ) : (value c ((a.statements n).foldl execute db)).isSome=(value c db).isSome := by
  by_cases hc : c=a.counter ∧ a.adjust n≠n
  · rw [(h n c db).1 hc.1 hc.2,Option.isSome_map]
  · have hkeep : c≠a.counter ∨ a.adjust n=n := by tauto
    rw [(h n c db).2 hkeep]

omit [DecidableEq κ] [Fintype ι] in
theorem counterTick_standing (hsets : ∀ i,(requests i).Sets value execute)
    (h : Standing value requests s) (i : ι) :
    Standing value requests (counterTick value execute requests s i) := by
  rcases counterTick_cases h i with ⟨n,hplace,_,htick⟩|⟨_,place,writes,htick,_,hnext⟩
  · rw [htick]
    constructor
    · intro j
      by_cases hj : j=i
      · subst hj
        simp
      · simpa [hj] using h.writes j
    · intro j m hm
      by_cases hj : j=i
      · subst hj
        simp at hm
      · rw [(hsets i).isSome]
        exact h.found j m (by simpa [hj] using hm)
  · rw [htick]
    exact hnext

/-- Where every counter is exact before a step, it is after it just when the step surpasses
none. -/
theorem counterTick_exact (hsets : ∀ i,(requests i).Sets value execute)
    (h : Standing value requests s) (hexact : Exact value requests db s) (i : ι) :
    Exact value requests db (counterTick value execute requests s i) ↔
      Unsurpassed value requests s i := by
  rcases counterTick_cases h i with ⟨n,hplace,hcommits,htick⟩|⟨hnot,place,writes,htick,hchange,_⟩
  · have hmove : ∀ c,adjusted requests (counterTick value execute requests s i) c=
        adjusted requests s c+if (requests i).counter=c then (requests i).adjust n-n else 0 := by
      intro c
      rw [htick,adjusted_move,hplace]
      simp only [CounterPlace.change,Int.sub_zero]
    have hdb : (counterTick value execute requests s i).committed=
        ((requests i).statements n).foldl execute s.committed := by rw [htick]
    obtain ⟨m,hm⟩ := Option.isSome_iff_exists.mp (h.found i n (Or.inl hplace))
    have hbefore := hexact (requests i).counter
    rw [hm] at hbefore
    obtain ⟨k,hk,hkm⟩ := Option.map_eq_some_iff.mp hbefore.symm
    constructor
    · intro hafter m' hm' _ hne
      rw [hplace] at hm'
      cases hm'
      have hown := hafter (requests i).counter
      rw [hdb,((hsets i) n _ _).1 rfl hne,hm,hmove,if_pos rfl,hk] at hown
      simp only [Option.map_some,Option.some.injEq] at hown
      rw [hm]
      congr 1
      omega
    · intro hgood c
      rw [hdb,hmove]
      by_cases hc : c=(requests i).counter ∧ (requests i).adjust n≠n
      · have hread := hgood n hplace hcommits hc.2
        rw [((hsets i) n c _).1 hc.1 hc.2,if_pos hc.1.symm,hc.1,hread,hk]
        rw [hm] at hread
        cases hread
        simp only [Option.map_some,Option.some.injEq]
        omega
      · have hkeep : c≠(requests i).counter ∨ (requests i).adjust n=n := by tauto
        have hzero : (if (requests i).counter=c then (requests i).adjust n-n else 0)=0 := by
          rcases hkeep with hne|he
          · rw [if_neg (Ne.symm hne)]
          · rw [he,sub_self,ite_self]
        rw [((hsets i) n c _).2 hkeep,hzero,Int.add_zero]
        exact hexact c
  · have hunsurpassed : Unsurpassed value requests s i := by
      intro n hn hcommits
      rw [hnot n hn] at hcommits
      cases hcommits
    have hmove : ∀ c,adjusted requests (counterTick value execute requests s i) c=
        adjusted requests s c := by
      intro c
      have hsame := adjusted_move requests s i place writes s.committed c
      rw [hchange,sub_self,ite_self,Int.add_zero] at hsame
      rw [htick]
      exact hsame
    have hdb : (counterTick value execute requests s i).committed=s.committed := by rw [htick]
    refine ⟨fun _ => hunsurpassed,fun _ c => ?_⟩
    rw [hdb,hmove]
    exact hexact c

/-- In every state of a run every counter has all that was committed, exactly if no request
commits a change to a counter that is no longer what it has read. -/
theorem counters_exact_iff (hsets : ∀ i,(requests i).Sets value execute) (db : δ) (is : List ι) :
    Throughout (Exact value requests db) (counterTick value execute requests)
        (Workplace.opening db () .start) is ↔
      Conducted (Unsurpassed value requests) (counterTick value execute requests)
        (Workplace.opening db () .start) is := by
  have hstart : Standing value requests (Workplace.opening db () .start : CounterRace δ ω ι) :=
    ⟨fun _ => rfl,fun i n hn => by simp [Workplace.opening] at hn⟩
  have hexact : Exact value requests db (Workplace.opening db () .start : CounterRace δ ω ι) := by
    intro c
    have hzero : adjusted requests (Workplace.opening db () .start : CounterRace δ ω ι) c=0 := by
      unfold adjusted Workplace.opening
      simp [CounterPlace.change]
    rw [hzero]
    simp [Workplace.opening]
  exact throughout_iff_base (fun s i hs => counterTick_standing hsets hs i)
    (fun s i hs he => counterTick_exact hsets hs he i) _ is hstart hexact

end

end VpnService
