import Mathlib.Data.List.Basic

namespace VpnService

/-- Every step of the run starts in a state that allows it. -/
def Conducted {σ ι : Type} (allowed : σ → ι → Prop) (step : σ → ι → σ) : σ → List ι → Prop
  | _,[] => True
  | s,i::is => allowed s i ∧ Conducted allowed step (step s i) is

instance decidableConducted {σ ι : Type} {allowed : σ → ι → Prop} {step : σ → ι → σ}
    [∀ s i,Decidable (allowed s i)] : ∀ s is,Decidable (Conducted allowed step s is)
  | _,[] => inferInstanceAs (Decidable True)
  | s,i::is =>
    have : Decidable (Conducted allowed step (step s i) is) := decidableConducted (step s i) is
    inferInstanceAs (Decidable (allowed s i ∧ Conducted allowed step (step s i) is))

/-- The property holds in every state the run passes through. -/
def Throughout {σ ι : Type} (inv : σ → Prop) (step : σ → ι → σ) : σ → List ι → Prop
  | s,[] => inv s
  | s,i::is => inv s ∧ Throughout inv step (step s i) is

instance decidableThroughout {σ ι : Type} {inv : σ → Prop} {step : σ → ι → σ}
    [∀ s,Decidable (inv s)] : ∀ s is,Decidable (Throughout inv step s is)
  | s,[] => inferInstanceAs (Decidable (inv s))
  | s,i::is =>
    have : Decidable (Throughout inv step (step s i) is) := decidableThroughout (step s i) is
    inferInstanceAs (Decidable (inv s ∧ Throughout inv step (step s i) is))

section

variable {σ ι : Type} {allowed : σ → ι → Prop} {step : σ → ι → σ}

theorem conducted_append (s : σ) (is js : List ι) : Conducted allowed step s (is++js) ↔
    Conducted allowed step s is ∧ Conducted allowed step (is.foldl step s) js := by
  induction is generalizing s with
  | nil => simp [Conducted]
  | cons i is ih => simp [Conducted,ih,and_assoc]

/-- An invariant of the allowed steps holds after every conducted run. -/
theorem invariant_of_conducted (inv : σ → Prop)
    (hstep : ∀ s i,inv s → allowed s i → inv (step s i)) (s : σ) (is : List ι) (hs : inv s)
    (h : Conducted allowed step s is) : inv (is.foldl step s) := by
  induction is generalizing s with
  | nil => exact hs
  | cons i is ih => exact ih (step s i) (hstep s i hs h.1) h.2

theorem Throughout.head {inv : σ → Prop} {s : σ} {is : List ι} (h : Throughout inv step s is) :
    inv s := by
  cases is with
  | nil => exact h
  | cons i is => exact h.1

/-- What an invariant of the allowed steps implies holds throughout a conducted run. -/
theorem throughout_of_conducted (inv : σ → Prop) {property : σ → Prop}
    (himp : ∀ s,inv s → property s) (hstep : ∀ s i,inv s → allowed s i → inv (step s i)) (s : σ)
    (is : List ι) (hs : inv s) (h : Conducted allowed step s is) :
    Throughout property step s is := by
  induction is generalizing s with
  | nil => exact himp s hs
  | cons i is ih => exact ⟨himp s hs,ih (step s i) (hstep s i hs h.1) h.2⟩

/-- Where a step keeps the property just when it is good, the property holds throughout a run just
when all its steps are good. -/
theorem throughout_iff {inv : σ → Prop} {good : σ → ι → Prop}
    (hstep : ∀ s i,inv s → allowed s i → (inv (step s i) ↔ good s i)) (s : σ) (is : List ι)
    (hs : inv s) (h : Conducted allowed step s is) :
    Throughout inv step s is ↔ Conducted good step s is := by
  induction is generalizing s with
  | nil => exact ⟨fun _ => trivial,fun _ => hs⟩
  | cons i is ih =>
    have hi := hstep s i hs h.1
    constructor
    · intro hall
      have hnext : inv (step s i) := hall.2.head
      exact ⟨hi.mp hnext,(ih (step s i) hnext h.2).mp hall.2⟩
    · intro hgood
      have hnext := hi.mpr hgood.1
      exact ⟨hs,(ih (step s i) hnext h.2).mpr hgood.2⟩

theorem Throughout.last {inv : σ → Prop} {s : σ} {is : List ι} (h : Throughout inv step s is) :
    inv (is.foldl step s) := by
  induction is generalizing s with
  | nil => exact h
  | cons i is ih => exact ih h.2

theorem conducted_of_all (h : ∀ s i,allowed s i) (s : σ) (is : List ι) :
    Conducted allowed step s is := by
  induction is generalizing s with
  | nil => trivial
  | cons i is ih => exact ⟨h s i,ih (step s i)⟩

/-- Where every step keeps the property just when it is good. -/
theorem throughout_iff_good {inv : σ → Prop} {good : σ → ι → Prop}
    (hstep : ∀ s i,inv s → (inv (step s i) ↔ good s i)) (s : σ) (is : List ι) (hs : inv s) :
    Throughout inv step s is ↔ Conducted good step s is := by
  have hall : Conducted (fun _ _ => True) step s is := conducted_of_all (fun _ _ => trivial) s is
  exact throughout_iff (fun s i hi _ => hstep s i hi) s is hs hall

/-- The same on top of an invariant that every step keeps. -/
theorem throughout_iff_base {base inv : σ → Prop} {good : σ → ι → Prop}
    (hbase : ∀ s i,base s → base (step s i))
    (hstep : ∀ s i,base s → inv s → (inv (step s i) ↔ good s i)) (s : σ) (is : List ι)
    (hb : base s) (hs : inv s) : Throughout inv step s is ↔ Conducted good step s is := by
  induction is generalizing s with
  | nil => exact ⟨fun _ => trivial,fun _ => hs⟩
  | cons i is ih =>
    have hi := hstep s i hb hs
    have hnext := hbase s i hb
    constructor
    · intro hall
      have hinv : inv (step s i) := hall.2.head
      exact ⟨hi.mp hinv,(ih (step s i) hnext hinv).mp hall.2⟩
    · intro hgood
      have hinv := hi.mpr hgood.1
      exact ⟨hs,(ih (step s i) hnext hinv).mpr hgood.2⟩

/-- Where steps that keep the property are good, so are those of a run that has it throughout. -/
theorem conducted_of_throughout {base property : σ → Prop} {good : σ → ι → Prop} {q : ι → Prop}
    (hgood : ∀ s i,base s → property s → property (step s i) → q i → good s i)
    (hbase : ∀ s i,base s → base (step s i)) (s : σ) (is : List ι) (hs : base s)
    (h : Throughout property step s is) (hq : ∀ i∈is,q i) : Conducted good step s is := by
  induction is generalizing s with
  | nil => trivial
  | cons i is ih =>
    have hnext : property (step s i) := h.2.head
    have hlater : ∀ j∈is,q j := fun j hj => hq j (List.mem_cons_of_mem i hj)
    exact ⟨hgood s i hs h.1 hnext (hq i List.mem_cons_self),ih (step s i) (hbase s i hs) h.2 hlater⟩

/-- A step into a state with a property keeps the invariant: the invariant holds throughout a run
that has the property throughout. -/
theorem Throughout.invariant {inv property : σ → Prop}
    (hstep : ∀ s i,inv s → property (step s i) → inv (step s i)) (s : σ) (is : List ι)
    (hs : inv s) (h : Throughout property step s is) : Throughout inv step s is := by
  induction is generalizing s with
  | nil => exact hs
  | cons i is ih => exact ⟨hs,ih (step s i) (hstep s i hs h.2.head) h.2⟩

theorem Throughout.and {inv property : σ → Prop} {s : σ} {is : List ι}
    (h : Throughout inv step s is) (hall : ∀ s,property s) :
    Throughout (fun s => inv s ∧ property s) step s is := by
  induction is generalizing s with
  | nil => exact ⟨h,hall s⟩
  | cons i is ih => exact ⟨⟨h.1,hall s⟩,ih h.2⟩

/-- An invariant of the allowed steps is there before each step of a conducted run. -/
theorem Conducted.with_invariant {inv : σ → Prop}
    (hstep : ∀ s i,inv s → allowed s i → inv (step s i)) (s : σ) (is : List ι) (hs : inv s)
    (h : Conducted allowed step s is) : Conducted (fun s i => inv s ∧ allowed s i) step s is := by
  induction is generalizing s with
  | nil => trivial
  | cons i is ih => exact ⟨⟨hs,h.1⟩,ih (step s i) (hstep s i hs h.1) h.2⟩

theorem Conducted.mono {weaker : σ → ι → Prop} (hw : ∀ s i,allowed s i → weaker s i) (s : σ)
    (is : List ι) (h : Conducted allowed step s is) : Conducted weaker step s is := by
  induction is generalizing s with
  | nil => trivial
  | cons i is ih => exact ⟨hw s i h.1,ih (step s i) h.2⟩

/-- Under an invariant of all steps, what is allowed may be said in another way. -/
theorem conducted_congr (inv : σ → Prop) {good : σ → ι → Prop}
    (hsame : ∀ s i,inv s → (allowed s i ↔ good s i)) (hstep : ∀ s i,inv s → inv (step s i)) (s : σ)
    (is : List ι) (hs : inv s) : Conducted allowed step s is ↔ Conducted good step s is := by
  induction is generalizing s with
  | nil => exact Iff.rfl
  | cons i is ih => exact and_congr (hsame s i hs) (ih (step s i) (hstep s i hs))

end

end VpnService
