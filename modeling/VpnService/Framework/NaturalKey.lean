import VpnService.Framework.Store
import Mathlib.Logic.Function.Basic
import Mathlib.Order.Basic

namespace VpnService

namespace Store

variable {κ ν ρ : Type} {key : ρ → κ} {index : ρ → ν} {s : Store key}

/-- The first row with a value of an index beside the primary key. -/
def locate [DecidableEq ν] (s : Store key) (index : ρ → ν) (k : ν) : Option ρ :=
  s.rows.find? fun r => index r=k

theorem locate_mem [DecidableEq ν] {k : ν} {r : ρ} (h : s.locate index k=some r) :
    r∈s.rows ∧ index r=k :=
  ⟨List.mem_of_find?_eq_some h,by simpa using List.find?_some h⟩

theorem locate_eq_none [DecidableEq ν] {k : ν} :
    s.locate index k=none ↔ ∀ r∈s.rows,index r≠k := by
  simp [locate,List.find?_eq_none]

/-- A unique index, and primary keys that were all drawn before `n`. -/
structure Indexed [LT κ] (index : ρ → ν) (n : κ) (s : Store key) : Prop where
  below : ∀ r∈s.rows,key r<n
  distinct : (s.rows.map index).Nodup

theorem Indexed.empty [LT κ] (n : κ) : Indexed index n (empty : Store key) :=
  ⟨nofun,List.nodup_nil⟩

section

variable [Preorder κ] {n m : κ}

theorem Indexed.mono (h : Indexed index n s) (hnm : n≤ m) : Indexed index m s :=
  ⟨fun r hr => (h.below r hr).trans_le hnm,h.distinct⟩

theorem Indexed.eq_of_index (h : Indexed index n s) {x y : ρ} (hx : x∈s.rows) (hy : y∈s.rows)
    (he : index x=index y) : x=y := List.inj_on_of_nodup_map h.distinct hx hy he

/-- A row is what its index value leads to. -/
theorem Indexed.locate_eq [DecidableEq ν] (h : Indexed index n s) {k : ν} {r : ρ} :
    s.locate index k=some r ↔ r∈s.rows ∧ index r=k := by
  constructor
  · exact locate_mem
  · rintro ⟨hr,hk⟩
    cases hfound : s.locate index k with
    | none => exact absurd hk (locate_eq_none.mp hfound r hr)
    | some x =>
      obtain ⟨hx,hxk⟩ := locate_mem hfound
      rw [h.eq_of_index hx hr (hxk.trans hk.symm)]

variable [DecidableEq κ]

theorem Indexed.modify (h : Indexed index n s) {k : κ} {f : ρ → ρ}
    (hf : ∀ r,key (f r)=key r) (hi : ∀ r,index (f r)=index r) :
    Indexed index n (s.modify k f hf) := by
  constructor
  · intro r hr
    rcases (mem_modify hf).mp hr with ⟨x,hx,_,rfl⟩|⟨hr,_⟩
    · exact (hf x).symm ▸ h.below x hx
    · exact h.below r hr
  · have hsame : (s.modify k f hf).rows.map index=s.rows.map index := by
      rw [rows_modify,List.map_map]
      apply List.map_congr_left
      intro r _
      by_cases hk : key r=k
      · simp [hk,hi]
      · simp [hk]
    exact hsame ▸ h.distinct

/-- The row that is added is new in both its keys. -/
theorem Indexed.insert [DecidableEq ν] (h : Indexed index n s) {r : ρ} (hn : n≤ key r)
    (hm : key r< m) (hnone : s.locate index (index r)=none) : Indexed index m (s.insert r) := by
  have hfresh : ∀ x∈s.rows,key x≠key r := fun x hx => ((h.below x hx).trans_le hn).ne
  constructor
  · intro x hx
    rcases mem_of_insert hx with hx|rfl
    · exact (h.below x hx).trans (hn.trans_lt hm)
    · exact hm
  · rw [rows_insert s r hfresh,List.map_append]
    refine List.nodup_append'.mpr ⟨h.distinct,List.nodup_singleton _,?_⟩
    intro i hi hnew
    obtain ⟨x,hx,hxi⟩ := List.mem_map.mp hi
    exact locate_eq_none.mp hnone x hx (hxi.trans (List.mem_singleton.mp hnew))

/-- An update of the row with one index value changes the table there. -/
theorem Indexed.locate_modify [DecidableEq ν] (h : Indexed index n s) {r : ρ} {k : ν}
    (hr : s.locate index k=some r) {f : ρ → ρ} (hf : ∀ r,key (f r)=key r)
    (hi : ∀ r,index (f r)=index r) :
    (s.modify (key r) f hf).locate index=Function.update (s.locate index) k (some (f r)) := by
  obtain ⟨hmem,rfl⟩ := locate_mem hr
  funext j
  by_cases hj : j=index r
  · subst hj
    rw [Function.update_self,(h.modify hf hi).locate_eq]
    exact ⟨(mem_modify hf).mpr (Or.inl ⟨r,hmem,rfl,rfl⟩),hi r⟩
  · rw [Function.update_of_ne hj]
    apply Option.ext
    intro x
    rw [(h.modify hf hi).locate_eq,h.locate_eq,mem_modify hf]
    constructor
    · rintro ⟨⟨y,hy,hk,rfl⟩|⟨hx,_⟩,hxj⟩
      · rw [eq_of_key hy hmem hk,hi] at hxj
        exact absurd hxj.symm hj
      · exact ⟨hx,hxj⟩
    · rintro ⟨hx,rfl⟩
      exact ⟨Or.inr ⟨hx,fun hk => hj (congrArg index (eq_of_key hx hmem hk))⟩,rfl⟩

theorem Indexed.locate_insert [DecidableEq ν] (h : Indexed index n s) {r : ρ} (hn : n≤ key r)
    (hnone : s.locate index (index r)=none) :
    (s.insert r).locate index=Function.update (s.locate index) (index r) (some r) := by
  have hfresh : ∀ x∈s.rows,key x≠key r := fun x hx => ((h.below x hx).trans_le hn).ne
  funext j
  unfold locate
  rw [rows_insert s r hfresh,List.find?_append]
  by_cases hj : j=index r
  · subst hj
    rw [Function.update_self,show s.rows.find? _=none from hnone]
    simp
  · rw [Function.update_of_ne hj]
    simp [Ne.symm hj]

end

end Store

end VpnService
