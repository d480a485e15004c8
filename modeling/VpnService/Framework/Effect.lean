import Mathlib.Logic.Basic

namespace VpnService

/-- A computation over a state that may raise; what it wrote before raising stays written. -/
def Eff (ε σ α : Type) := σ → Except ε α × σ

namespace Eff

variable {ε σ α β : Type}

instance : Monad (Eff ε σ) where
  pure a := fun s => (.ok a,s)
  bind m f := fun s => match m s with
    | (.ok a,t) => f a t
    | (.error e,t) => (.error e,t)

def raise (e : ε) : Eff ε σ α := fun s => (.error e,s)

def reads (f : σ → α) : Eff ε σ α := fun s => (.ok (f s),s)

def change (f : σ → σ) : Eff ε σ Unit := fun s => (.ok (),f s)

/-- The value, or the error when there is none. -/
def orRaise (e : ε) : Option α → Eff ε σ α
  | some a => pure a
  | none => raise e

/-- Goes on if the condition holds and raises otherwise. -/
def require (c : Prop) [Decidable c] (e : ε) : Eff ε σ Unit := if c then pure () else raise e

/-- `for x in xs: f(x)`. -/
def each (f : α → Eff ε σ Unit) : List α → Eff ε σ Unit
  | [] => pure ()
  | x::xs => f x >>= fun _ => each f xs

@[simp] theorem pure_run (a : α) (s : σ) : (pure a : Eff ε σ α) s=(.ok a,s) := rfl

@[simp] theorem raise_run (e : ε) (s : σ) : (raise e : Eff ε σ α) s=(.error e,s) := rfl

@[simp] theorem reads_run (f : σ → α) (s : σ) : (reads f : Eff ε σ α) s=(.ok (f s),s) := rfl

@[simp] theorem change_run (f : σ → σ) (s : σ) : (change f : Eff ε σ Unit) s=(.ok (),f s) := rfl

@[simp] theorem orRaise_some (e : ε) (a : α) : (orRaise e (some a) : Eff ε σ α)=pure a := rfl

@[simp] theorem orRaise_none (e : ε) : (orRaise e none : Eff ε σ α)=raise e := rfl

@[simp] theorem each_nil (f : α → Eff ε σ Unit) : each f []=pure () := rfl

@[simp] theorem each_cons (f : α → Eff ε σ Unit) (x : α) (xs : List α) :
    each f (x::xs)=f x >>= fun _ => each f xs := rfl

theorem bind_run (m : Eff ε σ α) (f : α → Eff ε σ β) (s : σ) :
    (m >>= f) s=match m s with
      | (.ok a,t) => f a t
      | (.error e,t) => (.error e,t) := rfl

theorem bind_run_ok {m : Eff ε σ α} {f : α → Eff ε σ β} {s t : σ} {a : α}
    (h : m s=(.ok a,t)) : (m >>= f) s=f a t := by
  rw [bind_run,h]

theorem bind_run_error {m : Eff ε σ α} {f : α → Eff ε σ β} {s t : σ} {e : ε}
    (h : m s=(.error e,t)) : (m >>= f) s=(.error e,t) := by
  rw [bind_run,h]

@[simp] theorem pure_bind_run (a : α) (f : α → Eff ε σ β) (s : σ) :
    ((pure a : Eff ε σ α) >>= f) s=f a s := rfl

@[simp] theorem raise_bind_run (e : ε) (f : α → Eff ε σ β) (s : σ) :
    ((raise e : Eff ε σ α) >>= f) s=(.error e,s) := rfl

@[simp] theorem reads_bind_run (g : σ → α) (f : α → Eff ε σ β) (s : σ) :
    ((reads g : Eff ε σ α) >>= f) s=f (g s) s := rfl

@[simp] theorem change_bind_run (g : σ → σ) (f : Unit → Eff ε σ β) (s : σ) :
    ((change g : Eff ε σ Unit) >>= f) s=f () (g s) := rfl

theorem bind_ok {m : Eff ε σ α} {f : α → Eff ε σ β} {s u : σ} {b : β} :
    (m >>= f) s=(.ok b,u) ↔ ∃ a t,m s=(.ok a,t) ∧ f a t=(.ok b,u) := by
  constructor
  · intro h
    cases hm : m s with
    | mk r t =>
      cases r with
      | error e => rw [bind_run_error hm] at h; cases h
      | ok a =>
        rw [bind_run_ok hm] at h
        exact ⟨a,t,rfl,h⟩
  · rintro ⟨a,t,hm,hf⟩
    rw [bind_run_ok hm,hf]

theorem bind_error {m : Eff ε σ α} {f : α → Eff ε σ β} {s u : σ} {e : ε} :
    (m >>= f) s=(.error e,u) ↔
      m s=(.error e,u) ∨ ∃ a t,m s=(.ok a,t) ∧ f a t=(.error e,u) := by
  constructor
  · intro h
    cases hm : m s with
    | mk r t =>
      cases r with
      | error e' =>
        rw [bind_run_error hm] at h
        cases h
        exact Or.inl rfl
      | ok a =>
        rw [bind_run_ok hm] at h
        exact Or.inr ⟨a,t,rfl,h⟩
  · rintro (hm|⟨a,t,hm,hf⟩)
    · exact bind_run_error hm
    · rw [bind_run_ok hm,hf]

theorem require_ok {c : Prop} [Decidable c] {e : ε} {s t : σ} :
    (require c e : Eff ε σ Unit) s=(.ok (),t) ↔ c ∧ t=s := by
  by_cases h : c
  · simp [require,h,eq_comm]
  · simp [require,h]

theorem orRaise_ok {e : ε} {o : Option α} {s t : σ} {a : α} :
    (orRaise e o : Eff ε σ α) s=(.ok a,t) ↔ o=some a ∧ t=s := by
  cases o with
  | none => simp
  | some b => simp [eq_comm]

theorem require_bind_ok {c : Prop} [Decidable c] {e : ε} {f : Unit → Eff ε σ β} {s t : σ}
    {b : β} : (require c e >>= f) s=(.ok b,t) ↔ c ∧ f () s=(.ok b,t) := by
  by_cases h : c
  · simp [require,h]
  · simp [require,h]

theorem orRaise_bind_ok {e : ε} {o : Option α} {f : α → Eff ε σ β} {s t : σ} {b : β} :
    (orRaise e o >>= f) s=(.ok b,t) ↔ ∃ a,o=some a ∧ f a s=(.ok b,t) := by
  cases o with
  | none => simp
  | some a => simp

theorem each_append (f : α → Eff ε σ Unit) (xs ys : List α) (s : σ) :
    each f (xs++ys) s=(each f xs >>= fun _ => each f ys) s := by
  induction xs generalizing s with
  | nil => rfl
  | cons x xs ih =>
    cases hx : f x s with
    | mk r t =>
      cases r with
      | error e =>
        have hxs : each f (x::xs) s=(.error e,t) := bind_run_error hx
        rw [bind_run_error hxs]
        exact bind_run_error hx
      | ok a =>
        have hall : each f (x::xs++ys) s=each f (xs++ys) t := bind_run_ok hx
        have hxs : each f (x::xs) s=each f xs t := bind_run_ok hx
        rw [hall,ih,bind_run,bind_run,hxs]

/-- A loop that completes keeps what each of its rounds keeps. -/
theorem each_keeps {f : α → Eff ε σ Unit} {P : σ → Prop} {xs : List α}
    (hkeep : ∀ x∈xs,∀ s t,f x s=(.ok (),t) → P s → P t) {s t : σ}
    (h : each f xs s=(.ok (),t)) (hs : P s) : P t := by
  induction xs generalizing s with
  | nil =>
    cases h
    exact hs
  | cons x xs ih =>
    obtain ⟨_,u,hu,h⟩ := bind_ok.mp h
    have hPu : P u := hkeep x List.mem_cons_self s u hu hs
    exact ih (fun y hy => hkeep y (List.mem_cons_of_mem x hy)) h hPu

/-- A loop that completes leaves what each of its rounds establishes, if no round undoes it. -/
theorem each_establishes {f : α → Eff ε σ Unit} {P : α → σ → Prop} {xs : List α}
    (hpost : ∀ x∈xs,∀ s t,f x s=(.ok (),t) → P x t)
    (hkeep : ∀ x∈xs,∀ y∈xs,∀ s t,f y s=(.ok (),t) → P x s → P x t) {s t : σ}
    (h : each f xs s=(.ok (),t)) : ∀ x∈xs,P x t := by
  induction xs generalizing s with
  | nil =>
    intro x hx
    cases hx
  | cons y ys ih =>
    obtain ⟨_,u,hu,hrest⟩ := bind_ok.mp h
    intro x hx
    rcases List.mem_cons.mp hx with rfl|hmem
    · have hPu : P x u := hpost x List.mem_cons_self s u hu
      exact each_keeps
        (fun z hz => hkeep x List.mem_cons_self z (List.mem_cons_of_mem x hz)) hrest hPu
    · apply ih
      · exact fun z hz => hpost z (List.mem_cons_of_mem y hz)
      · exact fun z hz z' hz' => hkeep z (List.mem_cons_of_mem y hz) z' (List.mem_cons_of_mem y hz')
      · exact hrest
      · exact hmem

end Eff

/-- Every value the computation returns satisfies `P`. -/
def Yields {ε σ α : Type} (P : α → Prop) (m : Eff ε σ α) : Prop :=
  ∀ s a t,m s=(.ok a,t) → P a

namespace Yields

variable {ε σ α β : Type} {P : β → Prop}

theorem bind {m : Eff ε σ α} {f : α → Eff ε σ β} (h : ∀ a,Yields P (f a)) :
    Yields P (m >>= f) := by
  intro s b u hrun
  obtain ⟨a,t,_,hf⟩ := Eff.bind_ok.mp hrun
  exact h a t b u hf

theorem bind_of {Q : α → Prop} {m : Eff ε σ α} {f : α → Eff ε σ β} (hm : Yields Q m)
    (h : ∀ a,Q a → Yields P (f a)) : Yields P (m >>= f) := by
  intro s b u hrun
  obtain ⟨a,t,ha,hf⟩ := Eff.bind_ok.mp hrun
  exact h a (hm s a t ha) t b u hf

theorem pure {b : β} (h : P b) : Yields P (pure b : Eff ε σ β) := by
  intro s a t hrun
  cases hrun
  exact h

end Yields

/-- A change a computation may make: a reflexive and transitive relation of states. -/
structure Frame (σ : Type) where
  rel : σ → σ → Prop
  refl : ∀ s,rel s s
  trans : ∀ {s t u},rel s t → rel t u → rel s u

/-- The frame of the computations that keep a part of the state. -/
def Frame.keeping {σ τ : Type} (view : σ → τ) : Frame σ :=
  ⟨fun s t => view t=view s,fun _ => rfl,fun h k => k.trans h⟩

/-- The frame of the computations that keep an invariant. -/
def Frame.preserving {σ : Type} (inv : σ → Prop) : Frame σ :=
  ⟨fun s t => inv s → inv t,fun _ h => h,fun h k hs => k (h hs)⟩

/-- The frame of the computations that only read. -/
def Frame.still {σ : Type} : Frame σ := ⟨fun s t => t=s,fun _ => rfl,fun h k => k.trans h⟩

/-- Frames that hold together. -/
def Frame.and {σ : Type} (R S : Frame σ) : Frame σ :=
  ⟨fun s t => R.rel s t ∧ S.rel s t,fun s => ⟨R.refl s,S.refl s⟩,
    fun h k => ⟨R.trans h.1 k.1,S.trans h.2 k.2⟩⟩

/-- Whatever the computation returns or raises from this state, the state it leaves is one the
frame allows. -/
def WithinAt {ε σ α : Type} (R : Frame σ) (m : Eff ε σ α) (s : σ) : Prop := R.rel s (m s).2

def Within {ε σ α : Type} (R : Frame σ) (m : Eff ε σ α) : Prop := ∀ s,WithinAt R m s

namespace WithinAt

variable {ε σ α β : Type} {R : Frame σ} {s : σ}

theorem bind {m : Eff ε σ α} {f : α → Eff ε σ β} (hm : WithinAt R m s)
    (hf : ∀ a t,m s=(.ok a,t) → WithinAt R (f a) t) : WithinAt R (m >>= f) s := by
  unfold WithinAt at hm ⊢
  cases hs : m s with
  | mk r t =>
    rw [hs] at hm
    cases r with
    | error e => rw [Eff.bind_run_error hs]; exact hm
    | ok a => rw [Eff.bind_run_ok hs]; exact R.trans hm (hf a t hs)

theorem still_run {m : Eff ε σ α} {r : Except ε α} {t : σ} (h : WithinAt Frame.still m s)
    (hm : m s=(r,t)) : t=s := by
  have he : (m s).2=s := h
  rw [hm] at he
  exact he

/-- What a reading computation answers is known of the state it leaves, the same one. -/
theorem still_bind {m : Eff ε σ α} {f : α → Eff ε σ β} (hm : WithinAt Frame.still m s)
    (hf : ∀ a,m s=(.ok a,s) → WithinAt R (f a) s) : WithinAt R (m >>= f) s := by
  refine WithinAt.bind ?_ fun a t ht => ?_
  · have h : (m s).2=s := hm
    unfold WithinAt
    rw [h]
    exact R.refl s
  · have he : t=s := hm.still_run ht
    subst he
    exact hf a ht

/-- After a read the rest may use what was read. -/
theorem reads_bind {g : σ → α} {f : α → Eff ε σ β} (h : WithinAt R (f (g s)) s) :
    WithinAt R (Eff.reads g >>= f) s := h

theorem orRaise_bind {e : ε} {o : Option α} {f : α → Eff ε σ β}
    (h : ∀ a,o=some a → WithinAt R (f a) s) : WithinAt R (Eff.orRaise e o >>= f) s := by
  cases o with
  | none => exact R.refl s
  | some a => exact h a rfl

/-- A loop, where what each round relies on survives every change the frame allows. -/
theorem each {f : α → Eff ε σ Unit} {xs : List α} (inv : σ → Prop) (hs : inv s)
    (hkeep : ∀ {t u},inv t → R.rel t u → inv u)
    (h : ∀ x∈xs,∀ t,inv t → WithinAt R (f x) t) : WithinAt R (Eff.each f xs) s := by
  induction xs generalizing s with
  | nil => exact R.refl s
  | cons x xs ih =>
    have hx : WithinAt R (f x) s := h x List.mem_cons_self s hs
    refine hx.bind fun a t ht => ?_
    have hrel : R.rel s t := by simpa only [WithinAt,ht] using hx
    exact ih (hkeep hs hrel) fun y hy => h y (List.mem_cons_of_mem x hy)

theorem mono {S : Frame σ} {m : Eff ε σ α} (h : WithinAt R m s)
    (hs : ∀ {t},R.rel s t → S.rel s t) : WithinAt S m s := hs h

theorem rel_of_run {m : Eff ε σ α} {r : Except ε α} {t : σ} (h : WithinAt R m s)
    (hm : m s=(r,t)) : R.rel s t := by
  simpa only [WithinAt,hm] using h

end WithinAt

namespace Within

variable {ε σ α β : Type} {R : Frame σ}

theorem pure (a : α) : Within R (pure a : Eff ε σ α) := fun s => R.refl s

theorem raise (e : ε) : Within R (Eff.raise e : Eff ε σ α) := fun s => R.refl s

theorem reads (f : σ → α) : Within R (Eff.reads f : Eff ε σ α) := fun s => R.refl s

theorem change {f : σ → σ} (h : ∀ s,R.rel s (f s)) :
    Within R (Eff.change f : Eff ε σ Unit) := h

theorem orRaise (e : ε) (o : Option α) : Within R (Eff.orRaise e o : Eff ε σ α) := by
  cases o with
  | none => exact raise e
  | some a => exact pure a

theorem require (c : Prop) [Decidable c] (e : ε) :
    Within R (Eff.require c e : Eff ε σ Unit) := by
  by_cases h : c
  · simpa only [Eff.require,h,if_true] using pure ()
  · simpa only [Eff.require,h,if_false] using raise e

theorem bind {m : Eff ε σ α} {f : α → Eff ε σ β} (hm : Within R m)
    (hf : ∀ a,Within R (f a)) : Within R (m >>= f) :=
  fun s => (hm s).bind fun a t _ => hf a t

theorem reads_bind {g : σ → α} {f : α → Eff ε σ β} (h : ∀ s,WithinAt R (f (g s)) s) :
    Within R (Eff.reads g >>= f) := h

theorem ite {c : Prop} [Decidable c] {m n : Eff ε σ α} (hm : Within R m) (hn : Within R n) :
    Within R (if c then m else n) := by
  by_cases h : c
  · simpa only [h,if_true] using hm
  · simpa only [h,if_false] using hn

theorem each {f : α → Eff ε σ Unit} {xs : List α} (h : ∀ x∈xs,Within R (f x)) :
    Within R (Eff.each f xs) :=
  fun _ => WithinAt.each (fun _ => True) trivial (fun _ _ => trivial) fun x hx t _ => h x hx t

theorem mono {S : Frame σ} {m : Eff ε σ α} (h : Within R m)
    (hs : ∀ {s t},R.rel s t → S.rel s t) : Within S m := fun s => (h s).mono hs

end Within

end VpnService
