import Mathlib.Data.List.Nodup
import Mathlib.Data.List.Basic

namespace VpnService

/-- A table with a primary key: rows in insertion order, no two with one key. -/
structure Store {κ ρ : Type} (key : ρ → κ) where
  rows : List ρ
  nodup : (rows.map key).Nodup

namespace Store

variable {κ ρ : Type} {key : ρ → κ}

theorem extensionality (s t : Store key) (h : s.rows=t.rows) : s=t := by
  cases s
  cases t
  simp_all

def empty : Store key := ⟨[],List.nodup_nil⟩

@[simp] theorem rows_empty : (empty : Store key).rows=[] := rfl

theorem eq_of_key {s : Store key} {x y : ρ} (hx : x∈s.rows) (hy : y∈s.rows)
    (h : key x=key y) : x=y := List.inj_on_of_nodup_map s.nodup hx hy h

/-- A property only one row can have. -/
theorem countP_of_unique (s : Store key) {r : ρ} (hr : r∈s.rows) (q : ρ → Bool)
    (h : ∀ x∈s.rows,q x=true → x=r) : s.rows.countP q=if q r then 1 else 0 := by
  obtain ⟨pre,post,hrows⟩ := List.append_of_mem hr
  have hnodup : (pre++r::post).Nodup := hrows ▸ s.nodup.of_map key
  have hmem : ∀ x,x∈pre ∨ x∈post → x∈s.rows := by
    intro x hx
    rw [hrows]
    simp only [List.mem_append,List.mem_cons]
    tauto
  have hne := List.nodup_append.mp hnodup
  have hpre : pre.countP q=0 := by
    refine List.countP_eq_zero.mpr fun x hx hq => ?_
    exact hne.2.2 x hx r List.mem_cons_self (h x (hmem x (Or.inl hx)) hq)
  have hpost : post.countP q=0 := by
    refine List.countP_eq_zero.mpr fun x hx hq => ?_
    have hxr := h x (hmem x (Or.inr hx)) hq
    exact (List.nodup_cons.mp hne.2.1).1 (hxr ▸ hx)
  rw [hrows,List.countP_append,List.countP_cons,hpre,hpost]
  omega

theorem nodup_keys_map (rows : List ρ) (f : ρ → ρ) (hf : ∀ r,key (f r)=key r) :
    (rows.map f).map key=rows.map key := by
  rw [List.map_map]
  exact List.map_congr_left (fun r _ => hf r)

/-- Applies a key-preserving change to every row. -/
def mapRows (s : Store key) (f : ρ → ρ) (hf : ∀ r,key (f r)=key r) : Store key :=
  ⟨s.rows.map f,by rw [nodup_keys_map s.rows f hf]; exact s.nodup⟩

/-- `DELETE ... WHERE`. -/
def deleteWhere (s : Store key) (p : ρ → Bool) : Store key :=
  ⟨s.rows.filter fun r => !p r,s.nodup.sublist (List.filter_sublist.map key)⟩

@[simp] theorem rows_mapRows (s : Store key) (f : ρ → ρ) (hf : ∀ r,key (f r)=key r) :
    (s.mapRows f hf).rows=s.rows.map f := rfl

@[simp] theorem rows_deleteWhere (s : Store key) (p : ρ → Bool) :
    (s.deleteWhere p).rows=s.rows.filter fun r => !p r := rfl

variable [DecidableEq κ]

def get? (s : Store key) (k : κ) : Option ρ := s.rows.find? fun r => key r=k

/-- `UPDATE ... WHERE pk = k`. -/
def modify (s : Store key) (k : κ) (f : ρ → ρ) (hf : ∀ r,key (f r)=key r) : Store key :=
  s.mapRows (fun r => if key r=k then f r else r) (by
    intro r
    by_cases h : key r=k
    · simp only [h,if_true]; exact (hf r).trans h
    · simp only [h,if_false])

/-- `INSERT`; a key that is taken leaves the table as it is. -/
def insert (s : Store key) (r : ρ) : Store key :=
  if h : key r∈s.rows.map key then s
  else ⟨s.rows++[r],by
    rw [List.map_append]
    exact List.nodup_append'.mpr ⟨s.nodup,List.nodup_singleton _,by simpa using h⟩⟩

def delete (s : Store key) (k : κ) : Store key := s.deleteWhere fun r => key r=k

/-- `INSERT ... ON CONFLICT(pk) DO UPDATE`. -/
def upsert (s : Store key) (r : ρ) : Store key :=
  if key r∈s.rows.map key then s.mapRows (fun x => if key x=key r then r else x) (by
    intro x
    by_cases h : key x=key r
    · simp only [h,if_true]
    · simp only [h,if_false])
  else s.insert r

theorem get?_eq_some (s : Store key) (k : κ) (r : ρ) :
    s.get? k=some r ↔ r∈s.rows ∧ key r=k := by
  constructor
  · intro h
    exact ⟨List.mem_of_find?_eq_some h,by simpa using List.find?_some h⟩
  · rintro ⟨hr,rfl⟩
    cases h : s.get? (key r) with
    | none =>
      have hn := List.find?_eq_none.mp h r hr
      simp at hn
    | some x =>
      have hx := List.mem_of_find?_eq_some h
      have hk : key x=key r := by simpa using List.find?_some h
      rw [List.inj_on_of_nodup_map s.nodup hx hr hk]

theorem get?_eq_none (s : Store key) (k : κ) : s.get? k=none ↔ ∀ r∈s.rows,key r≠k := by
  simp [get?,List.find?_eq_none]

theorem get?_of_mem (s : Store key) {r : ρ} (h : r∈s.rows) : s.get? (key r)=some r :=
  (s.get?_eq_some _ _).mpr ⟨h,rfl⟩

theorem mem_of_get? {s : Store key} {k : κ} {r : ρ} (h : s.get? k=some r) : r∈s.rows :=
  ((s.get?_eq_some k r).mp h).1

theorem key_of_get? {s : Store key} {k : κ} {r : ρ} (h : s.get? k=some r) : key r=k :=
  ((s.get?_eq_some k r).mp h).2

@[simp] theorem get?_empty (k : κ) : (empty : Store key).get? k=none := rfl

@[simp] theorem rows_modify (s : Store key) (k : κ) (f : ρ → ρ) (hf : ∀ r,key (f r)=key r) :
    (s.modify k f hf).rows=s.rows.map fun r => if key r=k then f r else r := rfl

theorem rows_insert (s : Store key) (r : ρ) (h : ∀ x∈s.rows,key x≠key r) :
    (s.insert r).rows=s.rows++[r] := by
  have hn : key r∉s.rows.map key := by
    rintro hm
    obtain ⟨x,hx,he⟩ := List.mem_map.mp hm
    exact h x hx he
  simp only [insert,hn,dite_false]

/-- An inserted row that is then changed is inserted changed. -/
theorem modify_insert (s : Store key) {r : ρ} (h : ∀ x∈s.rows,key x≠key r) (f : ρ → ρ)
    (hf : ∀ r,key (f r)=key r) : (s.insert r).modify (key r) f hf=s.insert (f r) := by
  have hnew : ∀ x∈s.rows,key x≠key (f r) := by
    intro x hx
    rw [hf]
    exact h x hx
  apply extensionality
  rw [rows_modify,rows_insert s r h,rows_insert s (f r) hnew,List.map_append]
  congr 1
  · conv_rhs => rw [← List.map_id s.rows]
    apply List.map_congr_left
    intro x hx
    rw [if_neg (h x hx)]
    rfl
  · simp

theorem mem_modify {s : Store key} {k : κ} {f : ρ → ρ} (hf : ∀ r,key (f r)=key r) {x : ρ} :
    x∈(s.modify k f hf).rows ↔
      (∃ r∈s.rows,key r=k ∧ x=f r) ∨ (x∈s.rows ∧ key x≠k) := by
  simp only [rows_modify,List.mem_map]
  constructor
  · rintro ⟨r,hr,rfl⟩
    by_cases h : key r=k
    · exact Or.inl ⟨r,hr,h,by simp [h]⟩
    · exact Or.inr ⟨by simpa [h] using hr,by simp [h]⟩
  · rintro (⟨r,hr,h,rfl⟩|⟨hx,h⟩)
    · exact ⟨r,hr,by simp [h]⟩
    · exact ⟨x,hx,by simp [h]⟩

/-- `mem_modify` where the row under the key is known. -/
theorem mem_modify_row {s : Store key} {r : ρ} {f : ρ → ρ} (hf : ∀ r,key (f r)=key r)
    (hr : r∈s.rows) {x : ρ} :
    x∈(s.modify (key r) f hf).rows ↔ x=f r ∨ (x∈s.rows ∧ key x≠key r) := by
  rw [mem_modify hf]
  constructor
  · rintro (⟨y,hy,hk,he⟩|hx)
    · rw [eq_of_key hy hr hk] at he
      exact Or.inl he
    · exact Or.inr hx
  · rintro (he|hx)
    · exact Or.inl ⟨r,hr,rfl,he⟩
    · exact Or.inr hx

/-- An update changes the one row under the key and no other. -/
theorem rows_modify_mem (s : Store key) {r : ρ} (hr : r∈s.rows) (f : ρ → ρ)
    (hf : ∀ r,key (f r)=key r) : ∃ pre post,s.rows=pre++r::post ∧
      (s.modify (key r) f hf).rows=pre++f r::post := by
  have hnodup := s.nodup
  obtain ⟨pre,post,hrows⟩ := List.append_of_mem hr
  rw [hrows,List.map_append,List.map_cons,List.nodup_append'] at hnodup
  obtain ⟨_,hpost,hdisjoint⟩ := hnodup
  have hleft : pre.map (fun x => if key x=key r then f x else x)=pre := by
    conv_rhs => rw [← List.map_id pre]
    apply List.map_congr_left
    intro x hx
    have hne : key x≠key r := fun he =>
      hdisjoint (List.mem_map_of_mem hx) (by rw [he]; exact List.mem_cons_self)
    rw [if_neg hne]
    rfl
  have hright : post.map (fun x => if key x=key r then f x else x)=post := by
    conv_rhs => rw [← List.map_id post]
    apply List.map_congr_left
    intro x hx
    have hne : key x≠key r := fun he =>
      (List.nodup_cons.mp hpost).1 (by rw [← he]; exact List.mem_map_of_mem hx)
    rw [if_neg hne]
    rfl
  refine ⟨pre,post,hrows,?_⟩
  rw [rows_modify,hrows,List.map_append,List.map_cons,hleft,hright,if_pos rfl]

/-- How an update changes the number of rows with a property. -/
theorem countP_modify (s : Store key) {r : ρ} (hr : r∈s.rows) (f : ρ → ρ)
    (hf : ∀ r,key (f r)=key r) (q : ρ → Bool) :
    (s.modify (key r) f hf).rows.countP q+(if q r then 1 else 0)=
      s.rows.countP q+if q (f r) then 1 else 0 := by
  obtain ⟨pre,post,hold,hnew⟩ := s.rows_modify_mem hr f hf
  rw [hold,hnew,List.countP_append,List.countP_append,List.countP_cons,List.countP_cons]
  omega

theorem mem_insert {s : Store key} {r x : ρ} (h : ∀ y∈s.rows,key y≠key r) :
    x∈(s.insert r).rows ↔ x∈s.rows ∨ x=r := by
  rw [rows_insert s r h]
  simp

theorem mem_delete {s : Store key} {k : κ} {x : ρ} :
    x∈(s.delete k).rows ↔ x∈s.rows ∧ key x≠k := by
  simp [delete]

theorem get?_mapRows (s : Store key) (f : ρ → ρ) (hf : ∀ r,key (f r)=key r) (k : κ) :
    (s.mapRows f hf).get? k=(s.get? k).map f := by
  simp only [get?,rows_mapRows,List.find?_map]
  congr 2
  funext r
  simp [hf]

theorem get?_modify (s : Store key) (k j : κ) (f : ρ → ρ) (hf : ∀ r,key (f r)=key r) :
    (s.modify k f hf).get? j=if j=k then (s.get? j).map f else s.get? j := by
  rw [modify,get?_mapRows]
  by_cases h : j=k
  · subst j
    cases hg : s.get? k with
    | none => simp
    | some r => simp [key_of_get? hg]
  · cases hg : s.get? j with
    | none => simp
    | some r => simp [key_of_get? hg,h]

@[simp] theorem get?_modify_self (s : Store key) (k : κ) (f : ρ → ρ)
    (hf : ∀ r,key (f r)=key r) : (s.modify k f hf).get? k=(s.get? k).map f := by
  rw [get?_modify,if_pos rfl]

theorem get?_modify_ne (s : Store key) {k j : κ} (f : ρ → ρ) (hf : ∀ r,key (f r)=key r)
    (h : j≠k) : (s.modify k f hf).get? j=s.get? j := by
  rw [get?_modify,if_neg h]

theorem get?_insert (s : Store key) (r : ρ) (h : ∀ x∈s.rows,key x≠key r) (k : κ) :
    (s.insert r).get? k=if key r=k then some r else s.get? k := by
  by_cases hk : key r=k
  · subst hk
    rw [if_pos rfl,get?_eq_some,mem_insert h]
    exact ⟨Or.inr rfl,rfl⟩
  · rw [if_neg hk]
    simp only [get?,rows_insert s r h,List.find?_append,List.find?_cons,hk,decide_false,
      List.find?_nil,Option.or_none]

theorem get?_insert_ne (s : Store key) {r : ρ} {k : κ} (h : ∀ x∈s.rows,key x≠key r)
    (hk : k≠key r) : (s.insert r).get? k=s.get? k := by
  rw [get?_insert s r h,if_neg (Ne.symm hk)]

theorem get?_insert_of_some {s : Store key} {r x : ρ} {k : κ} (h : ∀ y∈s.rows,key y≠key r)
    (hx : s.get? k=some x) : (s.insert r).get? k=some x := by
  rw [get?_insert_ne s h,hx]
  intro hk
  exact h x (mem_of_get? hx) ((key_of_get? hx).trans hk)

theorem get?_delete (s : Store key) (k j : κ) :
    (s.delete k).get? j=if j=k then none else s.get? j := by
  by_cases h : j=k
  · rw [if_pos h,get?_eq_none]
    intro r hr
    rw [h]
    exact (mem_delete.mp hr).2
  · rw [if_neg h]
    cases hg : s.get? j with
    | none =>
      rw [get?_eq_none] at hg ⊢
      exact fun r hr => hg r (mem_delete.mp hr).1
    | some r =>
      rw [get?_eq_some] at hg ⊢
      exact ⟨mem_delete.mpr ⟨hg.1,by rw [hg.2]; exact h⟩,hg.2⟩

theorem get?_upsert (s : Store key) (r : ρ) (k : κ) :
    (s.upsert r).get? k=if k=key r then some r else s.get? k := by
  unfold upsert
  split_ifs with hm hk hk
  · rw [get?_mapRows,hk]
    obtain ⟨x,hx,he⟩ := List.mem_map.mp hm
    rw [← he,s.get?_of_mem hx]
    simp
  · rw [get?_mapRows]
    cases hg : s.get? k with
    | none => rfl
    | some x => simp [key_of_get? hg,hk]
  all_goals
    have hn : ∀ x∈s.rows,key x≠key r := fun x hx he => hm (List.mem_map.mpr ⟨x,hx,he⟩)
    rw [get?_insert s r hn]
  · rw [if_pos hk.symm]
  · rw [if_neg (Ne.symm hk)]

/-- A changed row that is outside a set of rows before and after leaves the set alone. -/
theorem mem_modify_outside {s : Store key} {k : κ} {f : ρ → ρ} (hf : ∀ r,key (f r)=key r)
    {q : ρ → Prop} (h : ∀ r∈s.rows,key r=k → ¬q r ∧ ¬q (f r)) {x : ρ} (hx : q x) :
    x∈(s.modify k f hf).rows ↔ x∈s.rows := by
  rw [mem_modify]
  constructor
  · intro hm
    rcases hm with ⟨r,hr,hk,he⟩|⟨hm,_⟩
    · exact absurd (he ▸ hx) (h r hr hk).2
    · exact hm
  · intro hm
    exact Or.inr ⟨hm,fun hk => (h x hm hk).1 hx⟩

theorem mem_insert_outside {s : Store key} {r : ρ} {q : ρ → Prop} (h : ¬q r) {x : ρ}
    (hx : q x) : x∈(s.insert r).rows ↔ x∈s.rows := by
  unfold insert
  split_ifs with hm
  · rfl
  · have hne : x≠r := fun he => h (he ▸ hx)
    simp [hne]

theorem get?_insert_outside (s : Store key) {r : ρ} {k : κ} (hk : k≠key r) :
    (s.insert r).get? k=s.get? k := by
  unfold insert
  split_ifs with hm
  · rfl
  · simp [get?,List.find?_append,Ne.symm hk]

theorem get?_insert_kept (s : Store key) {r x : ρ} {k : κ} (hx : s.get? k=some x) :
    (s.insert r).get? k=some x := by
  unfold insert
  split_ifs with hm
  · exact hx
  · have hfound : s.rows.find? (fun r => key r=k)=some x := hx
    simp [get?,List.find?_append,hfound]

theorem mem_of_insert {s : Store key} {r x : ρ} (h : x∈(s.insert r).rows) :
    x∈s.rows ∨ x=r := by
  unfold insert at h
  split_ifs at h with hm
  · exact Or.inl h
  · simpa using h

theorem fresh_of_insert {s : Store key} {r x : ρ} (h : x∈(s.insert r).rows) :
    x∈s.rows ∨ (x=r ∧ s.get? (key r)=none) := by
  by_cases hm : key r∈s.rows.map key
  · left
    simpa only [insert,hm,dite_true] using h
  · rcases mem_of_insert h with h|h
    · exact Or.inl h
    · refine Or.inr ⟨h,(s.get?_eq_none _).mpr fun y hy he => ?_⟩
      exact hm (List.mem_map.mpr ⟨y,hy,he⟩)

theorem isSome_insert {s : Store key} {k : κ} (r : ρ) (h : (s.get? k).isSome) :
    ((s.insert r).get? k).isSome := by
  unfold insert
  split_ifs with hm
  · exact h
  · obtain ⟨x,hx⟩ := Option.isSome_iff_exists.mp h
    have hx' : s.rows.find? (fun r => key r=k)=some x := hx
    simp [get?,List.find?_append,hx']

omit [DecidableEq κ] in
/-- The rows of a set that has one row. -/
theorem filter_eq_singleton (s : Store key) {q : ρ → Bool} {r : ρ} (hr : r∈s.rows)
    (hq : q r=true) (hone : ∀ x∈s.rows,q x=true → x=r) : s.rows.filter q=[r] := by
  have hrows : s.rows.Nodup := s.nodup.of_map _
  apply List.Perm.eq_singleton
  apply (List.perm_ext_iff_of_nodup (hrows.filter q) (List.nodup_singleton r)).mpr
  intro x
  rw [List.mem_filter,List.mem_singleton]
  constructor
  · rintro ⟨hx,hqx⟩
    exact hone x hx hqx
  · rintro rfl
    exact ⟨hr,hq⟩

/-- Writing the values a row already has changes nothing. -/
theorem modify_same (s : Store key) (k : κ) (f : ρ → ρ) (hf : ∀ r,key (f r)=key r)
    (h : ∀ r,s.get? k=some r → f r=r) : s.modify k f hf=s := by
  apply extensionality
  rw [rows_modify]
  conv_rhs => rw [← List.map_id s.rows]
  apply List.map_congr_left
  intro r hr
  by_cases hk : key r=k
  · rw [if_pos hk]
    exact h r (hk ▸ s.get?_of_mem hr)
  · rw [if_neg hk]
    rfl

/-- An update of a row that a later one takes back. -/
theorem modify_undone (s : Store key) (k : κ) {f g : ρ → ρ} (hf : ∀ r,key (f r)=key r)
    (hg : ∀ r,key (g r)=key r) (h : ∀ r,s.get? k=some r → g (f r)=r) :
    (s.modify k f hf).modify k g hg=s := by
  apply extensionality
  rw [rows_modify,rows_modify,List.map_map]
  conv_rhs => rw [← List.map_id s.rows]
  apply List.map_congr_left
  intro r hr
  by_cases hk : key r=k
  · have hrow : s.get? k=some r := hk ▸ s.get?_of_mem hr
    simp [hk,hf,h r hrow]
  · simp [hk]

/-- Only the row under the key matters to an update. -/
theorem modify_at {s : Store key} {k : κ} {r : ρ} (hr : s.get? k=some r) {f g : ρ → ρ}
    (hf : ∀ r,key (f r)=key r) (hg : ∀ r,key (g r)=key r) (h : f r=g r) :
    s.modify k f hf=s.modify k g hg := by
  apply extensionality
  rw [rows_modify,rows_modify]
  apply List.map_congr_left
  intro x hx
  split_ifs with hk
  · have hxr : x=r := eq_of_key hx (mem_of_get? hr) (hk.trans (key_of_get? hr).symm)
    rw [hxr,h]
  · rfl

theorem any_filter_key (s : Store key) (q : ρ → Bool) {r : ρ} (hr : r∈s.rows) :
    ((s.rows.filter q).any fun x => key x=key r)=q r := by
  cases hq : q r with
  | true =>
    rw [List.any_eq_true]
    exact ⟨r,List.mem_filter.mpr ⟨hr,hq⟩,by simp⟩
  | false =>
    rw [List.any_eq_false]
    intro x hx he
    obtain ⟨hmem,hqx⟩ := List.mem_filter.mp hx
    rw [eq_of_key hmem hr (by simpa using he),hq] at hqx
    cases hqx

omit [DecidableEq κ] in
theorem mapRows_congr (s : Store key) {f g : ρ → ρ} (hf : ∀ r,key (f r)=key r)
    (hg : ∀ r,key (g r)=key r) (h : ∀ r∈s.rows,f r=g r) : s.mapRows f hf=s.mapRows g hg := by
  apply extensionality
  exact List.map_congr_left h

omit [DecidableEq κ] in
/-- A change that leaves every row alone. -/
theorem mapRows_self (s : Store key) {f : ρ → ρ} (hf : ∀ r,key (f r)=key r)
    (h : ∀ r∈s.rows,f r=r) : s.mapRows f hf=s := by
  apply extensionality
  rw [rows_mapRows]
  conv_rhs => rw [← List.map_id s.rows]
  exact List.map_congr_left h

theorem modify_mapRows (s : Store key) (f : ρ → ρ) (hf : ∀ r,key (f r)=key r) (k : κ) (g : ρ → ρ)
    (hg : ∀ r,key (g r)=key r) {m : ρ → ρ} (hm : ∀ r,key (m r)=key r)
    (h : ∀ r∈s.rows,m r=if key r=k then g (f r) else f r) :
    (s.mapRows f hf).modify k g hg=s.mapRows m hm := by
  apply extensionality
  rw [rows_modify,rows_mapRows,rows_mapRows,List.map_map]
  apply List.map_congr_left
  intro r hr
  rw [h r hr]
  simp [hf]

theorem delete_absent (s : Store key) (k : κ) (h : s.get? k=none) : s.delete k=s := by
  apply extensionality
  rw [delete,rows_deleteWhere,List.filter_eq_self]
  intro r hr
  simpa using (s.get?_eq_none k).mp h r hr

theorem mem_upsert {s : Store key} {r x : ρ} :
    x∈(s.upsert r).rows ↔ x=r ∨ (x∈s.rows ∧ key x≠key r) := by
  have hget : x∈(s.upsert r).rows ↔ (s.upsert r).get? (key x)=some x :=
    ⟨fun h => (s.upsert r).get?_of_mem h,mem_of_get?⟩
  rw [hget,get?_upsert]
  by_cases hk : key x=key r
  · simp [hk,eq_comm]
  · have hne : x≠r := fun he => hk (by rw [he])
    simp [hk,hne,get?_eq_some]

/-- A row that takes the place of a deleted one goes with it. -/
theorem delete_upsert_delete (s : Store key) {k : κ} {r : ρ} (h : key r=k) :
    ((s.delete k).upsert r).delete k=s.delete k := by
  have hnew : ∀ x∈(s.delete k).rows,key x≠key r := by
    intro x hx
    rw [h]
    exact (mem_delete.mp hx).2
  have hrows : ((s.delete k).upsert r).rows=(s.delete k).rows++[r] := by
    have hnot : key r∉(s.delete k).rows.map key := by
      intro hm
      obtain ⟨x,hx,he⟩ := List.mem_map.mp hm
      exact hnew x hx he
    unfold upsert
    rw [if_neg hnot,rows_insert _ _ hnew]
  apply extensionality
  show (((s.delete k).upsert r).rows.filter fun x => !decide (key x=k))=_
  rw [hrows,List.filter_append]
  simp [delete,h]

theorem upsert_same (s : Store key) (r : ρ) (h : s.get? (key r)=some r) : s.upsert r=s := by
  have hm := mem_of_get? h
  apply extensionality
  simp only [upsert,List.mem_map_of_mem hm,if_true,rows_mapRows]
  conv_rhs => rw [← List.map_id s.rows]
  apply List.map_congr_left
  intro x hx
  by_cases hk : key x=key r
  · rw [if_pos hk]
    exact (eq_of_key hx hm hk).symm
  · rw [if_neg hk]
    rfl

end Store

end VpnService
