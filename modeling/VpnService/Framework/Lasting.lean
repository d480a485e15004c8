import VpnService.Framework.Store

namespace VpnService

namespace Store

variable {κ ρ β : Type} {key : ρ → κ} {view : ρ → β} {s t u : Store key}

/-- No row goes, and none changes in what the view shows of it; new rows come behind the others. -/
def Lasting (view : ρ → β) (s t : Store key) : Prop := s.rows.map view <+: t.rows.map view

theorem Lasting.refl (s : Store key) : Lasting view s s := List.prefix_refl _

theorem Lasting.trans (h : Lasting view s t) (k : Lasting view t u) : Lasting view s u :=
  List.IsPrefix.trans h k

theorem Lasting.of_eq (h : t=s) : Lasting view s t := by
  rw [h]
  exact Lasting.refl s

theorem lasting_mapRows (f : ρ → ρ) (hf : ∀ r,key (f r)=key r) (h : ∀ r,view (f r)=view r) :
    Lasting view s (s.mapRows f hf) := by
  have hsame : (s.mapRows f hf).rows.map view=s.rows.map view := by
    rw [rows_mapRows,List.map_map]
    exact List.map_congr_left fun r _ => h r
  exact (hsame.symm ▸ List.prefix_refl _ : s.rows.map view <+: (s.mapRows f hf).rows.map view)

/-- Whatever is found by something the view shows stays to be found by it. -/
theorem Lasting.find? (h : Lasting view s t) {p : ρ → Bool} {q : β → Bool}
    (hp : ∀ r,p r=q (view r)) {r : ρ} (hr : s.rows.find? p=some r) :
    ∃ r',t.rows.find? p=some r' ∧ view r'=view r := by
  have hview : ∀ rows : List ρ,(rows.map view).find? q=(rows.find? p).map view := by
    intro rows
    rw [List.find?_map]
    congr 2
    funext r
    exact (hp r).symm
  have hold : (s.rows.map view).find? q=some (view r) := by rw [hview,hr]; rfl
  have hnew := List.IsPrefix.find?_eq_some h hold
  rw [hview] at hnew
  exact Option.map_eq_some_iff.mp hnew

variable [DecidableEq κ]

theorem lasting_modify (k : κ) {f : ρ → ρ} (hf : ∀ r,key (f r)=key r)
    (h : ∀ r,view (f r)=view r) : Lasting view s (s.modify k f hf) := by
  refine lasting_mapRows _ _ fun r => ?_
  by_cases hk : key r=k
  · simp [hk,h]
  · simp [hk]

theorem lasting_insert (r : ρ) : Lasting view s (s.insert r) := by
  unfold Lasting insert
  split_ifs
  · exact List.prefix_refl _
  · rw [List.map_append]
    exact List.prefix_append _ _

theorem Lasting.get? (h : Lasting view s t) (same : β → κ) (hkey : ∀ r,key r=same (view r))
    {k : κ} {r : ρ} (hr : s.get? k=some r) : ∃ r',t.get? k=some r' ∧ view r'=view r :=
  h.find? (q := fun x => same x=k) (fun r => by rw [hkey]) hr

end Store

end VpnService
