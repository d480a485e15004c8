import Mathlib.Algebra.Group.Nat.Defs
import Mathlib.Data.List.Basic
import Mathlib.Data.List.TakeWhile
import Mathlib.Tactic.SplitIfs

namespace VpnService

/-- The lowest places of a number to a base, the highest of them first. -/
def places (base : Nat) : Nat → Nat → List Nat
  | 0,_ => []
  | count+1,v => places base count (v/base)++[v%base]

theorem length_places (base count v : Nat) : (places base count v).length=count := by
  induction count generalizing v with
  | zero => rfl
  | succ count ih => rw [places,List.length_append,ih,List.length_singleton]

theorem places_injective {base count v w : Nat} (hv : v<base^count) (hw : w<base^count)
    (h : places base count v=places base count w) : v=w := by
  induction count generalizing v w with
  | zero =>
    rw [Nat.pow_zero] at hv hw
    omega
  | succ count ih =>
    have hlength : (places base count (v/base)).length=(places base count (w/base)).length := by
      rw [length_places,length_places]
    obtain ⟨hhigh,hlow⟩ := List.append_inj h hlength
    have hv' : v/base<base^count := Nat.div_lt_of_lt_mul (by rwa [Nat.pow_succ'] at hv)
    have hw' : w/base<base^count := Nat.div_lt_of_lt_mul (by rwa [Nat.pow_succ'] at hw)
    have hquotient : v/base=w/base := ih hv' hw' hhigh
    have hrest : v%base=w%base := List.singleton_inj.mp hlow
    calc
      v=base*(v/base)+v%base := (Nat.div_add_mod v base).symm
      _=base*(w/base)+w%base := by rw [hquotient,hrest]
      _=w := Nat.div_add_mod w base

/-- The number with these places. -/
def ofPlaces (base : Nat) (ds : List Nat) : Nat := ds.foldl (fun n d => base*n+d) 0

theorem foldl_places_lt {base : Nat} {ds : List Nat} (h : ∀ d∈ds,d<base) (n : Nat) :
    ds.foldl (fun n d => base*n+d) n<(n+1)*base^ds.length := by
  induction ds generalizing n with
  | nil => simp
  | cons d ds ih =>
    have hd : d<base := h d List.mem_cons_self
    have hrest := ih (fun x hx => h x (List.mem_cons_of_mem d hx)) (base*n+d)
    calc
      (d::ds).foldl (fun n d => base*n+d) n=ds.foldl (fun n d => base*n+d) (base*n+d) := rfl
      _<(base*n+d+1)*base^ds.length := hrest
      _≤(base*(n+1))*base^ds.length := by
        apply Nat.mul_le_mul_right
        rw [Nat.mul_succ]
        omega
      _=(n+1)*base^(d::ds).length := by
        rw [List.length_cons,Nat.pow_succ,Nat.mul_comm base,Nat.mul_assoc,Nat.mul_comm base]

theorem ofPlaces_lt {base count : Nat} {ds : List Nat} (hb : 0<base) (h : ∀ d∈ds,d<base)
    (hlength : ds.length≤count) : ofPlaces base ds<base^count := by
  have hlt := foldl_places_lt h 0
  rw [Nat.zero_add,Nat.one_mul] at hlt
  exact hlt.trans_le (Nat.pow_le_pow_right hb hlength)

theorem mapM_some {α β : Type} {f : α → Option β} {xs : List α} {ys : List β}
    (h : xs.mapM f=some ys) : ys.length=xs.length ∧ ∀ y∈ys,∃ x∈xs,f x=some y := by
  induction xs generalizing ys with
  | nil =>
    cases h
    exact ⟨rfl,nofun⟩
  | cons x xs ih =>
    rw [List.mapM_cons] at h
    obtain ⟨y,hy,h⟩ := Option.bind_eq_some_iff.mp h
    obtain ⟨rest,hrest,h⟩ := Option.bind_eq_some_iff.mp h
    cases h
    obtain ⟨hlength,hmem⟩ := ih hrest
    constructor
    · rw [List.length_cons,List.length_cons,hlength]
    · intro z hz
      rcases List.mem_cons.mp hz with hz|hz
      · exact ⟨x,List.mem_cons_self,hz ▸ hy⟩
      · obtain ⟨w,hw,hfw⟩ := hmem z hz
        exact ⟨w,List.mem_cons_of_mem x hw,hfw⟩

theorem digitChar_injective {m n : Nat} (hm : m<16) (hn : n<16)
    (h : m.digitChar=n.digitChar) : m=n := by
  have hall : ∀ m<16,∀ n<16,Nat.digitChar m=Nat.digitChar n → m=n := by decide
  exact hall m hm n hn h

/-- A numeral names one number. -/
theorem toDigits_injective {base : Nat} (hb : 1<base) (hle : base≤16) {m n : Nat}
    (h : Nat.toDigits base m=Nat.toDigits base n) : m=n := by
  induction m using Nat.strong_induction_on generalizing n with
  | _ m ih =>
    rw [Nat.toDigits_eq_if (n := m) hb,Nat.toDigits_eq_if (n := n) hb] at h
    by_cases hm : m<base
    · by_cases hn : n<base
      · rw [if_pos hm,if_pos hn] at h
        exact digitChar_injective (by omega) (by omega) (List.singleton_inj.mp h)
      · rw [if_pos hm,if_neg hn] at h
        have hlength := congrArg List.length h
        have hpos : 0<(Nat.toDigits base (n/base)).length := Nat.length_toDigits_pos
        rw [List.length_append,List.length_singleton,List.length_singleton] at hlength
        omega
    · by_cases hn : n<base
      · rw [if_neg hm,if_pos hn] at h
        have hlength := congrArg List.length h
        have hpos : 0<(Nat.toDigits base (m/base)).length := Nat.length_toDigits_pos
        rw [List.length_append,List.length_singleton,List.length_singleton] at hlength
        omega
      · rw [if_neg hm,if_neg hn] at h
        obtain ⟨hhigh,hlow⟩ := List.append_inj' h rfl
        have hless : m/base< m := Nat.div_lt_self (by omega) hb
        have hquotient : m/base=n/base := ih (m/base) hless hhigh
        have hm : m%base<base := Nat.mod_lt m (by omega)
        have hn : n%base<base := Nat.mod_lt n (by omega)
        have hrest : m%base=n%base :=
          digitChar_injective (by omega) (by omega) (List.singleton_inj.mp hlow)
        calc
          m=base*(m/base)+m%base := (Nat.div_add_mod m base).symm
          _=base*(n/base)+n%base := by rw [hquotient,hrest]
          _=n := Nat.div_add_mod n base

theorem not_mem_toDigits {base : Nat} (hb : 1<base) {c : Char}
    (hc : ∀ d,Nat.digitChar d≠c) (n : Nat) : c∉Nat.toDigits base n := by
  induction n using Nat.strong_induction_on with
  | _ n ih =>
    rw [Nat.toDigits_eq_if hb]
    by_cases hn : n<base
    · rw [if_pos hn]
      simpa using (hc n).symm
    · rw [if_neg hn]
      have hless : n/base<n := Nat.div_lt_self (by omega) hb
      simpa using ⟨ih (n/base) hless,(hc (n%base)).symm⟩

/-- Fields without the separator can be told apart in what joins them. -/
theorem joined_injective {c : Char} {xs ys : List (List Char)} (hx : ∀ l∈xs,c∉l)
    (hy : ∀ l∈ys,c∉l) (hxs : xs≠[]) (hys : ys≠[])
    (h : [c].intercalate xs=[c].intercalate ys) : xs=ys := by
  rw [← List.splitOn_intercalate c hx hxs,h,List.splitOn_intercalate c hy hys]

theorem mem_joined {c x : Char} {xs : List (List Char)} (h : x∈[c].intercalate xs) :
    x=c ∨ ∃ l∈xs,x∈l := by
  induction xs with
  | nil => simp at h
  | cons l xs ih =>
    cases xs with
    | nil => exact Or.inr ⟨l,List.mem_singleton_self l,by simpa using h⟩
    | cons l' xs =>
      rw [List.intercalate_cons_cons,List.mem_append,List.mem_append,List.mem_singleton] at h
      rcases h with (h|h)|h
      · exact Or.inr ⟨l,List.mem_cons_self,h⟩
      · exact Or.inl h
      · rcases ih h with h|⟨l,hl,h⟩
        · exact Or.inl h
        · exact Or.inr ⟨l,List.mem_cons_of_mem _ hl,h⟩

/-- Two fields or more show their separator. -/
theorem separator_mem_joined {c : Char} {xs : List (List Char)} (h : ∀ l∈xs,c∉l)
    (hlength : 2≤xs.length) : c∈[c].intercalate xs := by
  by_contra hnone
  have hne : xs≠[] := by
    intro he
    rw [he] at hlength
    cases hlength
  have hsplit := List.splitOn_intercalate c h hne
  rw [List.splitOn_eq_singleton hnone] at hsplit
  rw [← hsplit,List.length_singleton] at hlength
  omega

section

variable {α : Type} [DecidableEq α] (zero blank : α)

/-- Where the first of the longest runs of zeros starts, and how long it is. -/
def longestRun : List α → Nat×Nat
  | [] => (0,0)
  | x::xs =>
    let here := ((x::xs).takeWhile fun y => y=zero).length
    let later := longestRun xs
    if here≥later.2 then (0,here) else (later.1+1,later.2)

/-- A blank in the place of the longest run of at least two zeros; at an end of the list the
separator is to show, so another blank stands there. -/
def compressRun (xs : List α) : List α :=
  let (start,count) := longestRun zero xs
  if count>1 then
    (if start=0 then [blank] else [])++xs.take start++[blank]++xs.drop (start+count)
      ++(if start+count=xs.length then [blank] else [])
  else xs

/-- The list of the given length that was compressed. -/
def expandRun (length : Nat) (ys : List α) : List α :=
  if blank∈ys then
    let before := ys.takeWhile fun y => y≠blank
    let behind := (ys.reverse.takeWhile fun y => y≠blank).reverse
    before++List.replicate (length-before.length-behind.length) zero++behind
  else ys

variable {zero blank}

theorem longestRun_spec (zero : α) (xs : List α) :
    (longestRun zero xs).1+(longestRun zero xs).2≤xs.length ∧
      (xs.drop (longestRun zero xs).1).take (longestRun zero xs).2=
        List.replicate (longestRun zero xs).2 zero := by
  induction xs with
  | nil => exact ⟨le_rfl,rfl⟩
  | cons x xs ih =>
    rw [longestRun]
    by_cases h : ((x::xs).takeWhile fun y => y=zero).length≥(longestRun zero xs).2
    · have hprefix := List.takeWhile_prefix (l := x::xs) fun y => y=zero
      have hzeros : (x::xs).takeWhile (fun y => y=zero)=
          List.replicate ((x::xs).takeWhile fun y => y=zero).length zero := by
        rw [List.eq_replicate_iff]
        exact ⟨rfl,fun y hy => by simpa using List.mem_takeWhile_imp hy⟩
      simp only [if_pos h]
      constructor
      · simpa using hprefix.length_le
      · rw [List.drop_zero,← List.prefix_iff_eq_take.mp hprefix]
        exact hzeros
    · simp only [if_neg h]
      constructor
      · rw [List.length_cons]
        omega
      · rw [List.drop_succ_cons]
        exact ih.2

theorem mem_compressRun {xs : List α} {x : α} (h : x∈compressRun zero blank xs) :
    x∈xs ∨ x=blank := by
  unfold compressRun at h
  generalize longestRun zero xs=run at h
  obtain ⟨start,count⟩ := run
  dsimp only at h
  by_cases hcount : count>1
  · rw [if_pos hcount] at h
    have hends : ∀ p : Prop,[Decidable p] → x∈(if p then [blank] else []) → x=blank := by
      intro p _ hx
      split_ifs at hx
      · exact List.mem_singleton.mp hx
      · cases hx
    simp only [List.mem_append,List.mem_singleton] at h
    rcases h with (((h|h)|h)|h)|h
    · exact Or.inr (hends _ h)
    · exact Or.inl (List.mem_of_mem_take h)
    · exact Or.inr h
    · exact Or.inl (List.mem_of_mem_drop h)
    · exact Or.inr (hends _ h)
  · rw [if_neg hcount] at h
    exact Or.inl h

theorem length_compressRun {xs : List α} (h : 2≤xs.length) :
    2≤(compressRun zero blank xs).length := by
  obtain ⟨hle,_⟩ := longestRun_spec zero xs
  unfold compressRun
  generalize longestRun zero xs=run at hle
  obtain ⟨start,count⟩ := run
  dsimp only at hle ⊢
  by_cases hcount : count>1
  · rw [if_pos hcount]
    by_cases hstart : start=0
    · simp only [hstart,if_true,List.length_append,List.length_singleton]
      omega
    · simp only [hstart,if_false,List.length_append,List.length_singleton,List.length_take]
      omega
  · rw [if_neg hcount]
    exact h

theorem takeWhile_blank {xs ys : List α} (h : ∀ x∈xs,x≠blank) :
    (xs++blank::ys).takeWhile (fun y => y≠blank)=xs := by
  rw [List.takeWhile_append_of_pos]
  · simp
  · simpa using h

/-- What is compressed can be expanded again. -/
theorem expand_compress {xs : List α} (h : ∀ x∈xs,x≠blank) :
    expandRun zero blank xs.length (compressRun zero blank xs)=xs := by
  obtain ⟨hle,hrun⟩ := longestRun_spec zero xs
  unfold compressRun
  generalize longestRun zero xs=run at hle hrun
  obtain ⟨start,count⟩ := run
  dsimp only at hle hrun ⊢
  by_cases hcount : count>1
  · rw [if_pos hcount]
    have hsplit : xs=xs.take start++List.replicate count zero++xs.drop (start+count) := by
      calc
        xs=xs.take start++xs.drop start := (List.take_append_drop start xs).symm
        _=xs.take start++((xs.drop start).take count++(xs.drop start).drop count) := by
          rw [List.take_append_drop count]
        _=_ := by rw [hrun,List.drop_drop,List.append_assoc]
    have hbefore : ∀ x∈xs.take start,x≠blank := fun x hx => h x (List.mem_of_mem_take hx)
    have hbehind : ∀ x∈xs.drop (start+count),x≠blank := fun x hx => h x (List.mem_of_mem_drop hx)
    let front : List α := if start=0 then [blank] else []
    let back : List α := if start+count=xs.length then [blank] else []
    have hfront : (front++xs.take start++[blank]++xs.drop (start+count)++back).takeWhile
        (fun y => y≠blank)=xs.take start := by
      by_cases hstart : start=0
      · simp [front,hstart]
      · have hnone : front=[] := if_neg hstart
        rw [hnone,List.nil_append,List.append_assoc,List.append_assoc,List.singleton_append]
        exact takeWhile_blank hbefore
    have hback : ((front++xs.take start++[blank]++xs.drop (start+count)++back).reverse.takeWhile
        fun y => y≠blank).reverse=xs.drop (start+count) := by
      by_cases hend : start+count=xs.length
      · have hall : xs.drop (start+count)=[] := by
          rw [hend,List.drop_length]
        simp [back,hend]
      · have hnone : back=[] := if_neg hend
        rw [hnone,List.append_nil,List.reverse_append,List.reverse_append,List.reverse_singleton,
          List.singleton_append,takeWhile_blank,List.reverse_reverse]
        simpa using hbehind
    have hmem : blank∈front++xs.take start++[blank]++xs.drop (start+count)++back := by simp
    show expandRun zero blank xs.length
      (front++xs.take start++[blank]++xs.drop (start+count)++back)=xs
    unfold expandRun
    rw [if_pos hmem]
    dsimp only
    rw [hfront,hback]
    have hcounted : xs.length-(xs.take start).length-(xs.drop (start+count)).length=count := by
      rw [List.length_take,List.length_drop]
      omega
    rw [hcounted]
    exact hsplit.symm
  · rw [if_neg hcount,expandRun,if_neg fun hb => h blank hb rfl]

end

end VpnService
