import VpnService.Framework.Effect

namespace VpnService

section

variable {σ ι ε : Type} {step : σ → ι → σ}

/-- The steps of a run, each with the state it starts in. -/
def moments (step : σ → ι → σ) : σ → List ι → List (σ×ι)
  | _,[] => []
  | s,i::is => (s,i)::moments step (step s i) is

/-- An invariant of the steps with allowed inputs holds wherever such a run passes. -/
theorem moments_invariant (step : σ → ι → σ) (inv : σ → Prop) {p : ι → Prop}
    (hinv : ∀ s i,inv s → p i → inv (step s i)) {s : σ} {is : List ι} (hs : inv s)
    (h : ∀ i∈is,p i) : ∀ m∈moments step s is,inv m.1 ∧ p m.2 := by
  induction is generalizing s with
  | nil => exact fun m hm => by cases hm
  | cons i is ih =>
    have hi := h i List.mem_cons_self
    intro m hm
    rcases List.mem_cons.mp hm with rfl|hm
    · exact ⟨hs,hi⟩
    · exact ih (hinv s i hs hi) (fun j hj => h j (List.mem_cons_of_mem _ hj)) m hm

/-- A journal to which every step adds what is due holds what was due in the whole run. -/
theorem journal_run (log : σ → List ε) (due : σ → ι → List ε) (inv : σ → Prop)
    (hinv : ∀ s i,inv s → inv (step s i))
    (hstep : ∀ s i,inv s → log (step s i)=log s++due s i) (s : σ) (is : List ι) (hs : inv s) :
    log (is.foldl step s)=log s++(moments step s is).flatMap fun m => due m.1 m.2 := by
  induction is generalizing s with
  | nil => simp [moments]
  | cons i is ih =>
    have hlater := ih (step s i) (hinv s i hs)
    rw [hstep s i hs] at hlater
    simpa [moments,List.append_assoc] using hlater

/-- Where every step changes a view as its entries in the journal say, reading the whole journal
yields what the whole run made of the view. -/
theorem replay_run {α : Type} (view : σ → α) (read : α → ε → α) (due : σ → ι → List ε)
    (inv : σ → Prop) (hinv : ∀ s i,inv s → inv (step s i))
    (hstep : ∀ s i,inv s → view (step s i)=(due s i).foldl read (view s)) (s : σ) (is : List ι)
    (hs : inv s) : view (is.foldl step s)=
      ((moments step s is).flatMap fun m => due m.1 m.2).foldl read (view s) := by
  induction is generalizing s with
  | nil => rfl
  | cons i is ih =>
    have hlater := ih (step s i) (hinv s i hs)
    rw [hstep s i hs] at hlater
    simpa [moments,List.foldl_append] using hlater

/-- The step together with the record of all steps before it. -/
def remembering (step : σ → ι → σ) (h : List (σ×ι)×σ) (i : ι) : List (σ×ι)×σ :=
  (h.1++[(h.2,i)],step h.2 i)

theorem remembering_run (past : List (σ×ι)) (s : σ) (is : List ι) :
    is.foldl (remembering step) (past,s)=(past++moments step s is,is.foldl step s) := by
  induction is generalizing past s with
  | nil => simp [moments]
  | cons i is ih =>
    rw [List.foldl_cons,remembering,ih,moments,List.append_assoc]
    rfl

/-- What each step may change composes to what a whole run may change. -/
theorem Frame.run (R : Frame σ) (step : σ → ι → σ) (inv : σ → Prop) {p : ι → Prop}
    (hinv : ∀ s i,inv s → p i → inv (step s i))
    (hstep : ∀ s i,inv s → p i → R.rel s (step s i)) {s : σ} {is : List ι} (hs : inv s)
    (h : ∀ i∈is,p i) : R.rel s (is.foldl step s) := by
  induction is generalizing s with
  | nil => exact R.refl s
  | cons i is ih =>
    have hi := h i List.mem_cons_self
    exact R.trans (hstep s i hs hi)
      (ih (hinv s i hs hi) fun j hj => h j (List.mem_cons_of_mem _ hj))

end

end VpnService
