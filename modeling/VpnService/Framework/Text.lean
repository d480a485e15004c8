import Mathlib.Data.List.Basic
import Mathlib.Data.List.TakeWhile

namespace VpnService

/-- `str.isspace` of a character. -/
def isWhitespace (c : Char) : Bool :=
  let n := c.toNat
  (9≤n ∧ n≤13) ∨ (28≤n ∧ n≤32) ∨ (0x2000≤n ∧ n≤0x200a) ∨
    n∈[0x85,0xa0,0x1680,0x2028,0x2029,0x202f,0x205f,0x3000]

/-- What a hexadecimal digit stands for. -/
def hexDigit (c : Char) : Option Nat :=
  if c.isDigit then some (c.toNat- '0'.toNat)
  else if 'a' ≤c ∧ c≤ 'f' then some (c.toNat- 'a'.toNat+10)
  else if 'A' ≤c ∧ c≤ 'F' then some (c.toNat- 'A'.toNat+10)
  else none

/-- `str.strip()`. -/
def strip (s : List Char) : List Char :=
  ((s.dropWhile isWhitespace).reverse.dropWhile isWhitespace).reverse

/-- What stands before the first separator, and what behind it. -/
def splitFirst (c : Char) : List Char → Option (List Char×List Char)
  | [] => none
  | x::xs => if x=c then some ([],xs) else (splitFirst c xs).map fun p => (x::p.1,p.2)

/-- Where `str.splitlines` ends a line. -/
def isLineBreak (c : Char) : Bool :=
  let n := c.toNat
  (10≤n ∧ n≤13) ∨ (28≤n ∧ n≤30) ∨ n∈[0x85,0x2028,0x2029]

/-- The lines from here on, when these characters of the line were read, the last one first; a line
feed after a carriage return ends no other line. -/
def linesFrom (afterReturn : Bool) (line : List Char) : List Char → List (List Char)
  | [] => if line=[] then [] else [line.reverse]
  | c::cs =>
    if afterReturn ∧ c= '\n' then linesFrom false line cs
    else if isLineBreak c then line.reverse::linesFrom (c= '\r') [] cs
    else linesFrom false (c::line) cs

/-- `str.splitlines()`. -/
def splitLines (s : List Char) : List (List Char) := linesFrom false [] s

/-- A decimal numeral. -/
def readNumeral (s : List Char) : Option Nat :=
  if s≠[] ∧ s.all Char.isDigit then some (Nat.ofDigitChars 10 s 0) else none

/-- A decision for all of a list that goes through the list. -/
theorem forall_mem_of_all {α : Type} {p : α → Prop} [DecidablePred p] {xs : List α}
    (h : xs.all (fun x => decide (p x))=true) : ∀ x∈xs,p x := by
  simpa using h

theorem splitFirst_append {c : Char} {before : List Char} (h : c∉before) (behind : List Char) :
    splitFirst c (before++c::behind)=some (before,behind) := by
  induction before with
  | nil => simp [splitFirst]
  | cons x xs ih =>
    have hx : x≠c := fun he => h (he ▸ List.mem_cons_self)
    have hxs : c∉xs := fun hin => h (List.mem_cons_of_mem x hin)
    rw [List.cons_append,splitFirst,if_neg hx,ih hxs]
    rfl

theorem readNumeral_toDigits (n : Nat) : readNumeral (Nat.toDigits 10 n)=some n := by
  have hdigits : (Nat.toDigits 10 n).all Char.isDigit=true :=
    List.all_eq_true.mpr fun c hc => Nat.isDigit_of_mem_toDigits (by decide) (by decide) hc
  unfold readNumeral
  rw [if_pos ⟨Nat.toDigits_ne_nil,hdigits⟩,Nat.ofDigitChars_ten_toDigits]

theorem linesFrom_line {line : List Char} (h : ∀ c∈line,isLineBreak c=false)
    (read rest : List Char) :
    linesFrom false read (line++rest)=linesFrom false (line.reverse++read) rest := by
  induction line generalizing read with
  | nil => rfl
  | cons c cs ih =>
    have hc : isLineBreak c=false := h c List.mem_cons_self
    have hcs := ih (fun x hx => h x (List.mem_cons_of_mem c hx)) (c::read)
    rw [List.cons_append,linesFrom,if_neg (by simp),if_neg (by simp [hc]),hcs]
    simp

theorem splitLines_line {line : List Char} (h : ∀ c∈line,isLineBreak c=false) (hne : line≠[]) :
    splitLines line=[line] := by
  have hlines := linesFrom_line h [] []
  rw [List.append_nil,List.append_nil] at hlines
  unfold splitLines
  rw [hlines,linesFrom,if_neg (by simpa using hne),List.reverse_reverse]

theorem splitLines_cons {line : List Char} (h : ∀ c∈line,isLineBreak c=false)
    (rest : List Char) : splitLines (line++ '\n'::rest)=line::splitLines rest := by
  unfold splitLines
  have hfeed : isLineBreak '\n'=true := by decide
  rw [linesFrom_line h,linesFrom,if_neg (by simp),if_pos hfeed]
  simp

/-- Lines without breaks are read back from what joins them, unless the last is empty. -/
theorem splitLines_intercalate {lines : List (List Char)}
    (h : ∀ line∈lines,∀ c∈line,isLineBreak c=false) (hlast : ∀ line∈lines.getLast?,line≠[]) :
    splitLines (['\n'].intercalate lines)=lines := by
  induction lines with
  | nil => rfl
  | cons line lines ih =>
    have hline := h line List.mem_cons_self
    cases lines with
    | nil =>
      have hne : line≠[] := hlast line rfl
      simpa using splitLines_line hline hne
    | cons next lines =>
      have hrest := ih (fun x hx => h x (List.mem_cons_of_mem line hx)) (by simpa using hlast)
      rw [List.intercalate_cons_cons,List.append_assoc,List.singleton_append,
        splitLines_cons hline,hrest]

/-- Something of the text is left when it is stripped. -/
def Visible (s : List Char) : Prop := ∃ c∈s,isWhitespace c=false

/-- Nothing is stripped at the end. -/
def EndsVisible (s : List Char) : Prop := ∃ before c,s=before++[c] ∧ isWhitespace c=false

theorem EndsVisible.append {s : List Char} (h : EndsVisible s) (before : List Char) :
    EndsVisible (before++s) := by
  obtain ⟨middle,c,hs,hc⟩ := h
  exact ⟨before++middle,c,by rw [hs,List.append_assoc],hc⟩

theorem EndsVisible.visible {s : List Char} (h : EndsVisible s) : Visible s := by
  obtain ⟨before,c,hs,hc⟩ := h
  exact ⟨c,by simp [hs],hc⟩

theorem endsVisible_of_all {s : List Char} (h : ∀ c∈s,isWhitespace c=false) (hne : s≠[]) :
    EndsVisible s :=
  ⟨s.dropLast,s.getLast hne,(List.dropLast_append_getLast hne).symm,h _ (List.getLast_mem hne)⟩

theorem endsVisible_intercalate {sep : List Char} {lines : List (List Char)}
    (h : ∀ line∈lines.getLast?,EndsVisible line) (hne : lines≠[]) :
    EndsVisible (sep.intercalate lines) := by
  induction lines with
  | nil => exact absurd rfl hne
  | cons line lines ih =>
    cases lines with
    | nil => simpa using h line rfl
    | cons next lines =>
      have hrest := ih (by simpa using h) (by simp)
      rw [List.intercalate_cons_cons]
      exact hrest.append _

theorem dropWhile_visible {s : List Char} (h : Visible s) (rest : List Char) :
    (s++rest).dropWhile isWhitespace=s.dropWhile isWhitespace++rest := by
  obtain ⟨c,hmem,hc⟩ := h
  induction s with
  | nil => cases hmem
  | cons x xs ih =>
    by_cases hx : isWhitespace x=true
    · have hxs : c∈xs := by
        rcases List.mem_cons.mp hmem with hcx|hcx
        · rw [hcx,hx] at hc
          cases hc
        · exact hcx
      rw [List.cons_append,List.dropWhile_cons_of_pos hx,List.dropWhile_cons_of_pos hx,ih hxs]
    · rw [List.cons_append,List.dropWhile_cons_of_neg hx,List.dropWhile_cons_of_neg hx]
      rfl

theorem visible_dropWhile {s : List Char} (h : Visible s) :
    Visible (s.dropWhile isWhitespace) := by
  obtain ⟨c,hmem,hc⟩ := h
  refine ⟨c,?_,hc⟩
  rw [← List.takeWhile_append_dropWhile (p := isWhitespace) (l := s)] at hmem
  rcases List.mem_append.mp hmem with htaken|hleft
  · rw [List.mem_takeWhile_imp htaken] at hc
    cases hc
  · exact hleft

theorem Visible.reverse {s : List Char} (h : Visible s) : Visible s.reverse := by
  obtain ⟨c,hmem,hc⟩ := h
  exact ⟨c,List.mem_reverse.mpr hmem,hc⟩

theorem visible_strip {s : List Char} (h : Visible s) : Visible (strip s) :=
  (visible_dropWhile (visible_dropWhile h).reverse).reverse

theorem strip_ne_nil {s : List Char} (h : Visible s) : strip s≠[] := by
  obtain ⟨c,hmem,_⟩ := visible_strip h
  exact List.ne_nil_of_mem hmem

theorem dropWhile_padding {padding s : List Char} (h : ∀ c∈padding,isWhitespace c=true) :
    (padding++s).dropWhile isWhitespace=s.dropWhile isWhitespace := by
  induction padding with
  | nil => rfl
  | cons c cs ih =>
    rw [List.cons_append,List.dropWhile_cons_of_pos (h c List.mem_cons_self)]
    exact ih fun x hx => h x (List.mem_cons_of_mem c hx)

/-- Padding behind the text is stripped whole. -/
theorem strip_padding {s padding : List Char} (hs : Visible s)
    (h : ∀ c∈padding,isWhitespace c=true) : strip (s++padding)=strip s := by
  unfold strip
  rw [dropWhile_visible hs,List.reverse_append,dropWhile_padding]
  exact fun c hc => h c (List.mem_reverse.mp hc)

/-- Stripping a text that ends visibly only takes its indentation. -/
theorem strip_ends {s rest : List Char} (hs : Visible s) (h : EndsVisible rest) :
    strip (s++rest)=s.dropWhile isWhitespace++rest := by
  obtain ⟨before,c,hrest,hc⟩ := h
  have hkept : ∀ xs : List Char,((xs++[c]).reverse.dropWhile isWhitespace).reverse=xs++[c] := by
    intro xs
    rw [List.reverse_append,List.reverse_singleton,List.singleton_append,
      List.dropWhile_cons_of_neg (by simp [hc]),List.reverse_cons,List.reverse_reverse]
  unfold strip
  rw [dropWhile_visible hs,hrest,← List.append_assoc,hkept]

end VpnService
