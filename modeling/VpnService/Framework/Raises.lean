import VpnService.Framework.Effect

namespace VpnService

/-- Every error the computation raises from this state satisfies `P`. -/
def RaisesAt {ε σ α : Type} (P : ε → Prop) (m : Eff ε σ α) (s : σ) : Prop :=
  ∀ e t,m s=(.error e,t) → P e

def Raises {ε σ α : Type} (P : ε → Prop) (m : Eff ε σ α) : Prop := ∀ s,RaisesAt P m s

namespace RaisesAt

variable {ε σ α β : Type} {P : ε → Prop} {s : σ}

theorem bind {m : Eff ε σ α} {f : α → Eff ε σ β} (hm : RaisesAt P m s)
    (hf : ∀ a t,m s=(.ok a,t) → RaisesAt P (f a) t) : RaisesAt P (m >>= f) s := by
  intro e u hrun
  rcases Eff.bind_error.mp hrun with he|⟨a,t,ha,he⟩
  · exact hm e u he
  · exact hf a t ha e u he

theorem reads_bind {g : σ → α} {f : α → Eff ε σ β} (h : RaisesAt P (f (g s)) s) :
    RaisesAt P (Eff.reads g >>= f) s := h

theorem orRaise_bind {e : ε} {o : Option α} {f : α → Eff ε σ β} (he : o=none → P e)
    (h : ∀ a,o=some a → RaisesAt P (f a) s) : RaisesAt P (Eff.orRaise e o >>= f) s := by
  cases o with
  | none =>
    intro x t hrun
    cases hrun
    exact he rfl
  | some a => exact h a rfl

theorem mono {Q : ε → Prop} {m : Eff ε σ α} (h : RaisesAt P m s) (hP : ∀ e,P e → Q e) :
    RaisesAt Q m s := fun e t hrun => hP e (h e t hrun)

end RaisesAt

namespace Raises

variable {ε σ α β : Type} {P : ε → Prop}

theorem pure (a : α) : Raises P (pure a : Eff ε σ α) := by
  intro s e t hrun
  cases hrun

theorem raise {e : ε} (h : P e) : Raises P (Eff.raise e : Eff ε σ α) := by
  intro s x t hrun
  cases hrun
  exact h

theorem reads (f : σ → α) : Raises P (Eff.reads f : Eff ε σ α) := by
  intro s e t hrun
  cases hrun

theorem change (f : σ → σ) : Raises P (Eff.change f : Eff ε σ Unit) := by
  intro s e t hrun
  cases hrun

theorem orRaise {e : ε} (h : P e) (o : Option α) : Raises P (Eff.orRaise e o : Eff ε σ α) := by
  cases o with
  | none => exact raise h
  | some a => exact pure a

theorem require (c : Prop) [Decidable c] {e : ε} (h : P e) :
    Raises P (Eff.require c e : Eff ε σ Unit) := by
  by_cases hc : c
  · simpa only [Eff.require,hc,if_true] using pure ()
  · simpa only [Eff.require,hc,if_false] using raise h

theorem bind {m : Eff ε σ α} {f : α → Eff ε σ β} (hm : Raises P m)
    (hf : ∀ a,Raises P (f a)) : Raises P (m >>= f) :=
  fun s => (hm s).bind fun a t _ => hf a t

theorem ite {c : Prop} [Decidable c] {m n : Eff ε σ α} (hm : Raises P m) (hn : Raises P n) :
    Raises P (if c then m else n) := by
  by_cases hc : c
  · simpa only [hc,if_true] using hm
  · simpa only [hc,if_false] using hn

theorem each {f : α → Eff ε σ Unit} (h : ∀ x,Raises P (f x)) (xs : List α) :
    Raises P (Eff.each f xs) := by
  induction xs with
  | nil => exact pure ()
  | cons x xs ih => exact (h x).bind fun _ => ih

theorem mono {Q : ε → Prop} {m : Eff ε σ α} (h : Raises P m) (hP : ∀ e,P e → Q e) :
    Raises Q m := fun s => (h s).mono hP

end Raises

end VpnService
