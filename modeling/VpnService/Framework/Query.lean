import Mathlib.Data.List.Basic

namespace VpnService

variable {ρ : Type}

/-- The first row of a stable `ORDER BY`. -/
def firstBy (before : ρ → ρ → Bool) : List ρ → Option ρ
  | [] => none
  | x::xs => match firstBy before xs with
    | none => some x
    | some y => if before x y then some x else some y

theorem firstBy_mem (before : ρ → ρ → Bool) (xs : List ρ) (x : ρ)
    (h : firstBy before xs=some x) : x∈xs := by
  induction xs generalizing x with
  | nil => cases h
  | cons y ys ih =>
    simp only [firstBy] at h
    cases hy : firstBy before ys with
    | none =>
      rw [hy] at h
      cases h
      exact List.mem_cons_self
    | some z =>
      rw [hy] at h
      have hz := ih z hy
      by_cases hb : before y z
      · simp only [hb,if_true,Option.some.injEq] at h
        exact h ▸ List.mem_cons_self
      · simp only [hb] at h
        cases h
        exact List.mem_cons_of_mem y hz

theorem firstBy_isSome (before : ρ → ρ → Bool) (xs : List ρ) :
    (firstBy before xs).isSome ↔ xs≠[] := by
  cases xs with
  | nil => simp [firstBy]
  | cons x xs =>
    simp only [firstBy,ne_eq,reduceCtorEq,not_false_eq_true,iff_true]
    cases firstBy before xs with
    | none => rfl
    | some y => by_cases h : before x y <;> simp [h]

/-- In a total preorder the first row comes before every other. -/
theorem firstBy_before {before : ρ → ρ → Bool} (htotal : ∀ x y,before x y ∨ before y x)
    (htrans : ∀ x y z,before x y → before y z → before x z) (xs : List ρ) (x : ρ)
    (h : firstBy before xs=some x) : ∀ y∈xs,before x y := by
  induction xs generalizing x with
  | nil => cases h
  | cons a as ih =>
    have hrefl : ∀ z,before z z := fun z => (htotal z z).elim id id
    simp only [firstBy] at h
    intro y hy
    cases ha : firstBy before as with
    | none =>
      rw [ha] at h
      cases h
      have hnil : as=[] := by
        by_contra hne
        have hs := (firstBy_isSome before as).mpr hne
        rw [ha] at hs
        cases hs
      rw [hnil,List.mem_singleton] at hy
      exact hy ▸ hrefl _
    | some z =>
      rw [ha] at h
      have hz := ih z ha
      by_cases hb : before a z
      · simp only [hb,if_true,Option.some.injEq] at h
        subst h
        rcases List.mem_cons.mp hy with rfl|hy
        · exact hrefl _
        · exact htrans _ _ _ hb (hz y hy)
      · simp only [hb] at h
        cases h
        rcases List.mem_cons.mp hy with rfl|hy
        · exact (htotal x y).resolve_right hb
        · exact hz y hy

end VpnService
