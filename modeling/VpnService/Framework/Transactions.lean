import VpnService.Framework.Runs
import Mathlib.Logic.Function.Basic
import Mathlib.Algebra.BigOperators.Group.Finset.Piecewise

namespace VpnService

/-- What one step of a transaction does: it goes on, with more to write and with an effect outside
the database, or it ends. -/
inductive Move (ω ξ ℓ : Type)
  | work (place : ℓ) (writes : List ω) (rest : ξ)
  | commit (place : ℓ)
  | rollback (place : ℓ) (rest : ξ)

/-- Where a party stands in its program, and what it has written and not committed. -/
structure Party (ω ℓ : Type) where
  place : ℓ
  writes : List ω

/-- The committed database, what is outside of it, and the parties at work on both. -/
structure Workplace (δ ω ξ ι ℓ : Type) where
  committed : δ
  rest : ξ
  party : ι → Party ω ℓ

namespace Workplace

variable {δ ω ξ ι ℓ : Type}

/-- Nobody has begun. -/
def opening (db : δ) (rest : ξ) (place : ℓ) : Workplace δ ω ξ ι ℓ := ⟨db,rest,fun _ => ⟨place,[]⟩⟩

/-- Under READ COMMITTED a statement sees what is committed when it begins, and what its own
transaction has written. -/
def view (execute : δ → ω → δ) (s : Workplace δ ω ξ ι ℓ) (i : ι) : δ :=
  (s.party i).writes.foldl execute s.committed

variable [DecidableEq ι]

/-- Party `i` makes its next step. -/
def tick (execute : δ → ω → δ) (next : ι → ℓ → δ → ξ → Move ω ξ ℓ) (s : Workplace δ ω ξ ι ℓ)
    (i : ι) : Workplace δ ω ξ ι ℓ :=
  match next i (s.party i).place (s.view execute i) s.rest with
  | .work place writes rest =>
    {s with
      rest := rest
      party := Function.update s.party i ⟨place,(s.party i).writes++writes⟩}
  | .commit place =>
    {s with
      committed := s.view execute i
      party := Function.update s.party i ⟨place,[]⟩}
  | .rollback place rest =>
    {s with
      rest := rest
      party := Function.update s.party i ⟨place,[]⟩}

variable {execute : δ → ω → δ} {next : ι → ℓ → δ → ξ → Move ω ξ ℓ} {s : Workplace δ ω ξ ι ℓ}
  {i j : ι}

theorem tick_work {place : ℓ} {writes : List ω} {rest : ξ}
    (h : next i (s.party i).place (s.view execute i) s.rest=.work place writes rest) :
    s.tick execute next i={s with
      rest := rest
      party := Function.update s.party i ⟨place,(s.party i).writes++writes⟩} := by
  unfold tick
  rw [h]

theorem tick_commit {place : ℓ}
    (h : next i (s.party i).place (s.view execute i) s.rest=.commit place) :
    s.tick execute next i={s with
      committed := s.view execute i
      party := Function.update s.party i ⟨place,[]⟩} := by
  unfold tick
  rw [h]

theorem tick_rollback {place : ℓ} {rest : ξ}
    (h : next i (s.party i).place (s.view execute i) s.rest=.rollback place rest) :
    s.tick execute next i={s with
      rest := rest
      party := Function.update s.party i ⟨place,[]⟩} := by
  unfold tick
  rw [h]

/-- A step leaves the other parties where they are. -/
theorem tick_other (h : j≠i) : (s.tick execute next i).party j=s.party j := by
  unfold tick
  cases next i (s.party i).place (s.view execute i) s.rest <;> simp [h]

end Workplace

/-- How many parties are in a set of places, before and after one of them moves. -/
theorem card_update {ι β : Type} [DecidableEq ι] [Fintype ι] (f : ι → β) (i : ι) (v : β)
    (q : ι → β → Bool) :
    (Finset.univ.filter fun j => q j (Function.update f i v j)).card+(q i (f i)).toNat=
      (Finset.univ.filter fun j => q j (f j)).card+(q i v).toNat := by
  have hsplit : ∀ g : ι → β,(Finset.univ.filter fun j => q j (g j)).card=
      (q i (g i)).toNat+((Finset.univ.erase i).filter fun j => q j (g j)).card := by
    intro g
    rw [Finset.card_filter,Finset.card_filter,
      ← Finset.add_sum_erase Finset.univ _ (Finset.mem_univ i)]
    cases q i (g i) <;> rfl
  have hrest : ((Finset.univ.erase i).filter fun j => q j (Function.update f i v j))=
      (Finset.univ.erase i).filter fun j => q j (f j) := by
    apply Finset.filter_congr
    intro j hj
    rw [Function.update_of_ne (Finset.ne_of_mem_erase hj)]
  rw [hsplit,hsplit f,hrest,Function.update_self]
  omega

/-- What two parties have, one after the other. -/
def both {α : Type} (f : Bool → List α) : List α := f false++f true

theorem both_perm {α : Type} (f : Bool → List α) (i : Bool) : (both f).Perm (f i++f (!i)) := by
  cases i with
  | false => exact List.Perm.refl _
  | true => exact List.perm_append_comm

/-- What one party adds is added to both. -/
theorem both_append {α : Type} {f g : Bool → List α} {i : Bool} {l : List α} (hi : g i=f i++l)
    (hother : g (!i)=f (!i)) : (both g).Perm (both f++l) := by
  calc (both g).Perm (g i++g (!i)) := both_perm g i
    _ = f i++l++f (!i) := by rw [hi,hother]
    _ = f i++(l++f (!i)) := List.append_assoc _ _ _
    List.Perm _ (f i++(f (!i)++l)) := List.perm_append_comm.append_left _
    _ = f i++f (!i)++l := (List.append_assoc _ _ _).symm
    List.Perm _ (both f++l) := (both_perm f i).symm.append_right _

/-- One party's step leaves the other where it is. -/
theorem update_not {α : Type} (f : Bool → α) (i : Bool) (v : α) :
    Function.update f i v (!i)=f (!i) := Function.update_of_ne (by cases i <;> decide) v f

end VpnService
