/-
Sda/Lib/Scan.lean

Where a text is found, what splitting at it leaves, and what stripping takes away.

`findChars` and `rfindChars` are read by what stands on both sides of what they find; splitting and
joining are inverse to each other, one way always (`joinChars_splitChars`), the other where no part
has the second character of the separator (`splitChars_append`).
-/
import Sda.Lib.Lines

namespace Sda

variable {pat sep s x y : List Char} {a b c : Char} {i : Nat}

/-! ### Finding -/

/-- What is found stands where it is found. -/
theorem findChars_some (h : findChars pat s = some i) :
    s = s.take i ++ pat ++ s.drop (i + pat.length) := by
  induction s generalizing i with
  | nil =>
    cases pat with
    | nil => simp
    | cons d pat => cases h
  | cons c s ih =>
    unfold findChars at h
    by_cases hfront : pat.isPrefixOf (c :: s) = true
    · rw [if_pos hfront] at h
      cases h
      obtain ⟨rest, hrest⟩ := List.isPrefixOf_iff_prefix.mp hfront
      rw [← hrest]
      simp
    · rw [if_neg hfront] at h
      obtain ⟨j, hj, rfl⟩ := Option.map_eq_some_iff.mp h
      have hs := ih hj
      rw [List.take_succ_cons, Nat.add_right_comm, List.drop_succ_cons, List.cons_append,
        List.cons_append, ← hs]

/-- The second character of the text decides that it does not begin here. -/
theorem not_isPrefix_of_second (hb : b ∉ x) (hab : a ≠ b) :
    ¬a :: b :: pat <+: c :: (x ++ a :: y) := by
  intro h
  obtain ⟨-, h⟩ := List.cons_prefix_cons.mp h
  cases x with
  | nil => exact hab (List.cons_prefix_cons.mp h).1.symm
  | cons d x => exact hb ((List.cons_prefix_cons.mp h).1 ▸ List.mem_cons_self)

theorem findChars_append (hb : b ∉ x) (hab : a ≠ b) :
    findChars (a :: b :: pat) (x ++ (a :: b :: pat ++ y)) = some x.length := by
  induction x with
  | nil => exact findChars_front (List.prefix_append _ _)
  | cons c x ih =>
    have hx : b ∉ x := fun h => hb (List.mem_cons_of_mem c h)
    have hnot : ¬(a :: b :: pat).isPrefixOf (c :: (x ++ (a :: b :: pat ++ y))) = true := by
      rw [List.isPrefixOf_iff_prefix]
      exact not_isPrefix_of_second hx hab
    show (if (a :: b :: pat).isPrefixOf (c :: (x ++ (a :: b :: pat ++ y))) = true then some 0
      else (findChars (a :: b :: pat) (x ++ (a :: b :: pat ++ y))).map (· + 1)) = _
    rw [if_neg hnot, ih hx]
    rfl

theorem findChars_single (hc : c ∉ x) : findChars [c] (x ++ c :: y) = some x.length := by
  induction x with
  | nil => exact findChars_front ⟨y, rfl⟩
  | cons d x ih =>
    have hne : c ≠ d := fun h => hc (h ▸ List.mem_cons_self)
    have hnot : ¬[c].isPrefixOf (d :: (x ++ c :: y)) = true := by
      rw [List.isPrefixOf_iff_prefix]
      exact fun h => hne (List.cons_prefix_cons.mp h).1
    show (if [c].isPrefixOf (d :: (x ++ c :: y)) = true then some 0
      else (findChars [c] (x ++ c :: y)).map (· + 1)) = _
    rw [if_neg hnot, ih fun h => hc (List.mem_cons_of_mem d h)]
    rfl

theorem findChars_single_eq_none_iff : findChars [c] s = none ↔ c ∉ s := by
  rw [findChars_eq_none_iff]
  constructor
  · intro h hmem
    obtain ⟨x, y, rfl⟩ := List.append_of_mem hmem
    exact h ⟨x, y, by simp⟩
  · exact fun h hfound => h (hfound.subset List.mem_cons_self)

theorem rfindChars_eq_none_iff : rfindChars pat s = none ↔ ¬pat <:+: s := by
  induction s with
  | nil => cases pat <;> simp [rfindChars]
  | cons c s ih =>
    unfold rfindChars
    rw [List.infix_cons_iff]
    cases hrest : rfindChars pat s with
    | some j =>
      have hfound : pat <:+: s := by
        by_contra hnot
        rw [ih.mpr hnot] at hrest
        cases hrest
      simp [hfound]
    | none =>
      have hnot : ¬pat <:+: s := ih.mp hrest
      by_cases hfront : pat.isPrefixOf (c :: s) = true
      · have := List.isPrefixOf_iff_prefix.mp hfront
        simp [hfront, this]
      · have : ¬pat <+: c :: s := fun h => hfront (List.isPrefixOf_iff_prefix.mpr h)
        simp [hfront, this, hnot]

/-- It is found at its last place. -/
theorem rfindChars_some (hne : pat ≠ []) (h : rfindChars pat s = some i) :
    s = s.take i ++ pat ++ s.drop (i + pat.length) ∧ ¬pat <:+: s.drop (i + 1) := by
  induction s generalizing i with
  | nil =>
    unfold rfindChars at h
    rw [if_neg (by simpa using hne)] at h
    cases h
  | cons c s ih =>
    unfold rfindChars at h
    cases hrest : rfindChars pat s with
    | some j =>
      rw [hrest] at h
      cases h
      obtain ⟨hs, hlast⟩ := ih hrest
      rw [List.take_succ_cons, Nat.add_right_comm, List.drop_succ_cons, List.cons_append,
        List.cons_append, ← hs]
      exact ⟨rfl, hlast⟩
    | none =>
      rw [hrest] at h
      by_cases hfront : pat.isPrefixOf (c :: s) = true
      · have hzero : some 0 = some i := by simpa [hfront] using h
        cases hzero
        obtain ⟨rest, hback⟩ := List.isPrefixOf_iff_prefix.mp hfront
        refine ⟨?_, rfindChars_eq_none_iff.mp hrest⟩
        rw [← hback]
        simp
      · simp [hfront] at h

theorem rfindChars_append (hlast : ¬a :: pat <:+: pat ++ y) :
    rfindChars (a :: pat) (x ++ a :: (pat ++ y)) = some x.length := by
  induction x with
  | nil =>
    have hrest : rfindChars (a :: pat) (pat ++ y) = none := rfindChars_eq_none_iff.mpr hlast
    have hfront : (a :: pat).isPrefixOf (a :: (pat ++ y)) = true :=
      List.isPrefixOf_iff_prefix.mpr ⟨y, rfl⟩
    rw [List.nil_append, rfindChars, hrest]
    exact if_pos hfront
  | cons c x ih =>
    rw [List.cons_append, rfindChars, ih]
    rfl

/-! ### Splitting -/

theorem splitCharsFrom_skip (sep : List Char) (skip : Nat) (acc s : List Char) :
    splitCharsFrom sep skip acc s = splitCharsFrom sep 0 acc (s.drop skip) := by
  induction s generalizing skip with
  | nil => cases skip <;> simp [splitCharsFrom]
  | cons c s ih =>
    cases skip with
    | zero => rfl
    | succ skip => exact ih skip

theorem splitCharsFrom_cons (acc : List Char) (c : Char) (s : List Char) :
    splitCharsFrom sep 0 acc (c :: s) =
      if sep.isPrefixOf (c :: s) = true then
        acc :: splitCharsFrom sep 0 [] (s.drop (sep.length - 1))
      else splitCharsFrom sep 0 (acc ++ [c]) s := by
  rw [← splitCharsFrom_skip]
  rfl

theorem splitCharsFrom_ne_nil (sep acc s : List Char) : splitCharsFrom sep 0 acc s ≠ [] := by
  induction s generalizing acc with
  | nil => exact List.cons_ne_nil _ _
  | cons c s ih =>
    rw [splitCharsFrom_cons]
    split
    · exact List.cons_ne_nil _ _
    · exact ih _

/-- Joining the parts gives the text again.  The induction is on the length of the text, since a
separator is taken away as a whole. -/
theorem joinChars_splitCharsFrom (hsep : sep ≠ []) (acc s : List Char) :
    joinChars sep (splitCharsFrom sep 0 acc s) = acc ++ s := by
  induction hlength : s.length using Nat.strong_induction_on generalizing acc s with
  | _ n ih =>
    subst hlength
    cases s with
    | nil => simp [splitCharsFrom, joinChars]
    | cons c s =>
      rw [splitCharsFrom_cons]
      by_cases hfront : sep.isPrefixOf (c :: s) = true
      · rw [if_pos hfront]
        obtain ⟨rest, hrest⟩ := List.isPrefixOf_iff_prefix.mp hfront
        have hdrop : s.drop (sep.length - 1) = rest := by
          obtain ⟨d, sep, rfl⟩ := List.exists_cons_of_ne_nil hsep
          obtain ⟨-, hs⟩ := List.cons.inj hrest
          rw [← hs]
          simp
        have hshort : (s.drop (sep.length - 1)).length < (c :: s).length := by
          rw [List.length_drop, List.length_cons]
          omega
        unfold joinChars
        rw [List.intercalate_cons_of_ne_nil (splitCharsFrom_ne_nil sep [] _)]
        show acc ++ sep ++ joinChars sep (splitCharsFrom sep 0 [] (s.drop (sep.length - 1))) = _
        rw [ih _ hshort [] _ rfl, hdrop, List.nil_append, List.append_assoc, hrest]
      · rw [if_neg hfront, ih s.length (Nat.lt_succ_self _) _ s rfl]
        simp

theorem joinChars_splitChars (hsep : sep ≠ []) (s : List Char) :
    joinChars sep (splitChars sep s) = s := joinChars_splitCharsFrom hsep [] s

/-- There is one part only where the separator is nowhere. -/
theorem splitCharsFrom_eq_singleton_iff (acc s : List Char) (hsep : sep ≠ []) :
    (splitCharsFrom sep 0 acc s).tail = [] ↔ ¬sep <:+: s := by
  induction s generalizing acc with
  | nil => simp [splitCharsFrom, hsep]
  | cons c s ih =>
    rw [splitCharsFrom_cons, List.infix_cons_iff]
    by_cases hfront : sep.isPrefixOf (c :: s) = true
    · rw [if_pos hfront]
      have := splitCharsFrom_ne_nil sep [] (s.drop (sep.length - 1))
      simp [this, List.isPrefixOf_iff_prefix.mp hfront]
    · have hnot : ¬sep <+: c :: s := fun h => hfront (List.isPrefixOf_iff_prefix.mpr h)
      rw [if_neg hfront, ih, or_iff_right hnot]

/-- A part without the second character of the separator ends at the separator. -/
theorem splitCharsFrom_append (hb : b ∉ x) (hab : a ≠ b) (acc : List Char) :
    splitCharsFrom (a :: b :: pat) 0 acc (x ++ (a :: b :: pat ++ y)) =
      (acc ++ x) :: splitCharsFrom (a :: b :: pat) 0 [] y := by
  induction x generalizing acc with
  | nil =>
    have hfront : (a :: b :: pat).isPrefixOf (a :: (b :: pat ++ y)) = true :=
      List.isPrefixOf_iff_prefix.mpr ⟨y, rfl⟩
    show splitCharsFrom (a :: b :: pat) 0 acc (a :: (b :: pat ++ y)) = _
    rw [splitCharsFrom_cons, if_pos hfront]
    simp
  | cons c x ih =>
    have hx : b ∉ x := fun h => hb (List.mem_cons_of_mem c h)
    have hnot : ¬(a :: b :: pat).isPrefixOf (c :: (x ++ (a :: b :: pat ++ y))) = true := by
      rw [List.isPrefixOf_iff_prefix]
      exact not_isPrefix_of_second hx hab
    show splitCharsFrom (a :: b :: pat) 0 acc (c :: (x ++ (a :: b :: pat ++ y))) = _
    rw [splitCharsFrom_cons, if_neg hnot, ih hx]
    simp

theorem splitCharsFrom_single (hb : b ∉ x) (acc : List Char) :
    splitCharsFrom (a :: b :: pat) 0 acc x = [acc ++ x] := by
  induction x generalizing acc with
  | nil => simp [splitCharsFrom]
  | cons c x ih =>
    have hx : b ∉ x := fun h => hb (List.mem_cons_of_mem c h)
    have hnot : ¬(a :: b :: pat).isPrefixOf (c :: x) = true := by
      rw [List.isPrefixOf_iff_prefix]
      intro h
      obtain ⟨-, h⟩ := List.cons_prefix_cons.mp h
      exact hx (h.subset List.mem_cons_self)
    rw [splitCharsFrom_cons, if_neg hnot, ih hx]
    simp

/-- Splitting gives the parts again. -/
theorem splitChars_joinChars (hab : a ≠ b) {parts : List (List Char)} (hne : parts ≠ [])
    (hb : ∀ p ∈ parts, b ∉ p) :
    splitChars (a :: b :: pat) (joinChars (a :: b :: pat) parts) = parts := by
  unfold splitChars joinChars
  induction parts with
  | nil => exact absurd rfl hne
  | cons p parts ih =>
    have hp : b ∉ p := hb p List.mem_cons_self
    rcases eq_or_ne parts [] with rfl | hparts
    · rw [List.intercalate_singleton, splitCharsFrom_single hp]
      rfl
    · rw [List.intercalate_cons_of_ne_nil hparts, List.append_assoc, splitCharsFrom_append hp hab,
        ih hparts fun q hq => hb q (List.mem_cons_of_mem p hq)]
      rfl

/-! ### Stripping -/

/-- Nothing but blanks. -/
def Blanks (s : List Char) : Prop := ∀ c ∈ s, isSpaceChar c = true

theorem Blanks.not_mem (h : Blanks s) (hc : isSpaceChar c = false) : c ∉ s := by
  intro hmem
  rw [h c hmem] at hc
  cases hc

theorem dropWhile_blanks (hx : Blanks x) (y : List Char) :
    (x ++ y).dropWhile isSpaceChar = y.dropWhile isSpaceChar :=
  List.dropWhile_append_of_pos hx

theorem rdropWhile_blanks (hy : Blanks y) (x : List Char) :
    (x ++ y).rdropWhile isSpaceChar = x.rdropWhile isSpaceChar := by
  unfold List.rdropWhile
  rw [List.reverse_append, List.dropWhile_append_of_pos fun c hc => hy c (List.mem_reverse.mp hc)]

/-- A text that begins and ends with no blank. -/
structure Trimmed (s : List Char) : Prop where
  front : s.head?.any isSpaceChar = false
  back : s.getLast?.any isSpaceChar = false

theorem rdropWhile_eq_self (h : s.getLast?.any isSpaceChar = false) :
    s.rdropWhile isSpaceChar = s := by
  unfold List.rdropWhile
  have hreverse : s.reverse.dropWhile isSpaceChar = s.reverse := by
    rw [dropWhile_eq_iff_head, List.head?_reverse]
    exact h
  rw [hreverse, List.reverse_reverse]

theorem Trimmed.stripChars (h : Trimmed s) : stripChars s = s := by
  have hfront : s.dropWhile isSpaceChar = s := (dropWhile_eq_iff_head isSpaceChar s).mpr h.front
  show (s.dropWhile isSpaceChar).rdropWhile isSpaceChar = s
  rw [hfront, rdropWhile_eq_self h.back]

/-- Blanks on both sides are taken away. -/
theorem stripChars_between (hx : Blanks x) (hs : Trimmed s) (hne : s ≠ []) (hy : Blanks y) :
    Sda.stripChars (x ++ s ++ y) = s := by
  have hhead : (s ++ y).dropWhile isSpaceChar = s ++ y := by
    rw [dropWhile_eq_iff_head, List.head?_append_of_ne_nil _ hne]
    exact hs.front
  show ((x ++ s ++ y).dropWhile isSpaceChar).rdropWhile isSpaceChar = s
  rw [List.append_assoc, dropWhile_blanks hx, hhead, rdropWhile_blanks hy, rdropWhile_eq_self hs.back]

/-- **What stripping takes away**: blanks on both sides of a trimmed text. -/
theorem stripChars_split (s : List Char) : ∃ x y, Blanks x ∧ Blanks y ∧
    s = x ++ Sda.stripChars s ++ y ∧ Trimmed (Sda.stripChars s) := by
  refine ⟨s.takeWhile isSpaceChar, (s.dropWhile isSpaceChar).rtakeWhile isSpaceChar, ?_, ?_, ?_, ?_⟩
  · intro c hc
    exact List.mem_takeWhile_imp hc
  · intro c hc
    exact List.mem_rtakeWhile_imp hc
  · show s = s.takeWhile isSpaceChar ++ (s.dropWhile isSpaceChar).rdropWhile isSpaceChar ++
      (s.dropWhile isSpaceChar).rtakeWhile isSpaceChar
    rw [List.append_assoc, List.rdropWhile_append_rtakeWhile, List.takeWhile_append_dropWhile]
  · constructor
    · rw [← dropWhile_eq_iff_head]
      exact dropWhile_rdropWhile isSpaceChar s
    · have hback : (Sda.stripChars s).rdropWhile isSpaceChar = Sda.stripChars s :=
        List.rdropWhile_idempotent isSpaceChar _
      rw [List.rdropWhile_eq_self_iff] at hback
      by_cases hne : Sda.stripChars s = []
      · rw [hne]
        rfl
      · rw [List.getLast?_eq_getLast hne]
        exact Bool.eq_false_iff.mpr (hback hne)

end Sda
