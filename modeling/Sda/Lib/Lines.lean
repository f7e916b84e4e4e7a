/-
Sda/Lib/Lines.lean

Texts as lists of lines, and rewritings of a text that never lengthen it.

A rewriting of lines replaces every line of a text by some lines.  `Shrinks x y` says that `x` is
`y`, or shorter: what is done to a shorter text keeps it shorter, so that two texts which agree in
the end must have agreed before every step.

Main results: `lines_unlines` — joining texts and cutting the result again cuts the texts;
`Lighter.shrinks` and `Lighter.unlines_eq_iff` — a rewriting that makes no line heavier shrinks the
whole text, and changes nothing only if it changes no line (`flatMap_eq_iff`).
-/
import Sda.Lib.Chars

namespace Sda

/-- `s.split("\n")` -/
def lines (s : List Char) : List (List Char) := s.splitOn '\n'

/-- `"\n".join(ls)` -/
def unlines (ls : List (List Char)) : List Char := List.intercalate ['\n'] ls

theorem lines_ne_nil (s : List Char) : lines s ≠ [] := List.splitOn_ne_nil '\n' s

theorem lines_append (x y : List Char) : lines (x ++ '\n' :: y) = lines x ++ lines y :=
  List.splitOn_append_cons_self x y

theorem lines_single {s : List Char} (h : '\n' ∉ s) : lines s = [s] :=
  List.splitOn_eq_singleton h

@[simp] theorem unlines_lines (s : List Char) : unlines (lines s) = s :=
  List.intercalate_splitOn '\n'

@[simp] theorem unlines_single (s : List Char) : unlines [s] = s := List.intercalate_singleton

theorem unlines_cons {ls : List (List Char)} (h : ls ≠ []) (l : List Char) :
    unlines (l :: ls) = l ++ '\n' :: unlines ls := by
  unfold unlines
  rw [List.intercalate_cons_of_ne_nil h]
  simp

theorem lines_unlines {ls : List (List Char)} (h : ls ≠ []) :
    lines (unlines ls) = ls.flatMap lines := by
  induction ls with
  | nil => exact absurd rfl h
  | cons l ls ih =>
    rcases eq_or_ne ls [] with rfl | hls
    · simp
    · rw [unlines_cons hls, lines_append, ih hls]
      rfl

/-- What is done on both sides of every line break is done to every line. -/
theorem map_unlines {f : List Char → List Char}
    (hf : ∀ x y, f (x ++ '\n' :: y) = f x ++ '\n' :: f y) {ls : List (List Char)} (h : ls ≠ []) :
    f (unlines ls) = unlines (ls.map f) := by
  induction ls with
  | nil => exact absurd rfl h
  | cons l ls ih =>
    rcases eq_or_ne ls [] with rfl | hls
    · simp
    · have hmap : ls.map f ≠ [] := by simpa using hls
      rw [unlines_cons hls, hf, ih hls, List.map_cons, unlines_cons hmap]

/-! ### Shorter texts -/

/-- The same text, or a shorter one. -/
def Shrinks (x y : List Char) : Prop := x = y ∨ x.length < y.length

theorem Shrinks.refl (x : List Char) : Shrinks x x := Or.inl rfl

theorem Shrinks.length_le {x y : List Char} (h : Shrinks x y) : x.length ≤ y.length := by
  rcases h with h | h
  · exact le_of_eq (congrArg List.length h)
  · exact le_of_lt h

theorem Shrinks.trans {x y z : List Char} (h : Shrinks x y) (h' : Shrinks y z) : Shrinks x z := by
  rcases h with rfl | h
  · exact h'
  · exact Or.inr (lt_of_lt_of_le h h'.length_le)

/-- What comes out in the end only if nothing was lost on the way. -/
theorem Shrinks.trans_eq_iff {x y z : List Char} (h : Shrinks x y) (h' : Shrinks y z) :
    x = z ↔ x = y ∧ y = z := by
  refine ⟨?_, fun hxy => hxy.1.trans hxy.2⟩
  intro hxz
  rcases h with rfl | h
  · exact ⟨rfl, hxz⟩
  · have := h'.length_le
    rw [← hxz] at this
    omega

theorem Shrinks.append {x y x' y' : List Char} (h : Shrinks x y) (h' : Shrinks x' y') :
    Shrinks (x ++ x') (y ++ y') := by
  rcases h with rfl | h
  · rcases h' with rfl | h'
    · exact Shrinks.refl _
    · right
      simpa using h'
  · right
    have := h'.length_le
    simp only [List.length_append]
    omega

theorem Shrinks.append_eq_iff {x y x' y' : List Char} (h : Shrinks x y) (h' : Shrinks x' y') :
    x ++ x' = y ++ y' ↔ x = y ∧ x' = y' := by
  refine ⟨?_, fun hxy => by rw [hxy.1, hxy.2]⟩
  intro hxy
  have hlength := congrArg List.length hxy
  have := h'.length_le
  rw [List.length_append, List.length_append] at hlength
  rcases h with rfl | h
  · exact ⟨rfl, List.append_cancel_left hxy⟩
  · omega

theorem shrinks_dropWhile (p : Char → Bool) (x : List Char) : Shrinks (x.dropWhile p) x := by
  have hback : x.dropWhile p <:+ x := List.dropWhile_suffix p
  rcases eq_or_lt_of_le hback.length_le with h | h
  · exact Or.inl (hback.eq_of_length h)
  · exact Or.inr h

theorem shrinks_rdropWhile (p : Char → Bool) (x : List Char) : Shrinks (x.rdropWhile p) x := by
  have hfront := List.rdropWhile_prefix p x
  rcases eq_or_lt_of_le hfront.length_le with h | h
  · exact Or.inl (hfront.eq_of_length h)
  · exact Or.inr h

theorem shrinks_stripChars (x : List Char) : Shrinks (stripChars x) x :=
  (shrinks_rdropWhile _ _).trans (shrinks_dropWhile _ x)

/-- A text with something on its right that white space does not begin is stripped on both sides
separately. -/
theorem stripChars_append {y : List Char} (x : List Char)
    (hy : y.head?.any (fun c => !isSpaceChar c) = true) :
    stripChars (x ++ y) = x.dropWhile isSpaceChar ++ y.rdropWhile isSpaceChar := by
  match y, hy with
  | c :: y, hy =>
    have hc : isSpaceChar c = false := by simpa using hy
    have hdrop : (c :: y).dropWhile isSpaceChar = c :: y := by
      rw [List.dropWhile_cons, if_neg (by rw [hc]; exact Bool.false_ne_true)]
    have hleft : (x ++ c :: y).dropWhile isSpaceChar = x.dropWhile isSpaceChar ++ c :: y := by
      rw [List.dropWhile_append]
      split
      · next hempty =>
        rw [List.isEmpty_iff.mp hempty, hdrop]
        rfl
      · rfl
    have hright : ∀ z : List Char, (z ++ c :: y).rdropWhile isSpaceChar =
        z ++ (c :: y).rdropWhile isSpaceChar := by
      intro z
      have hlast : (c :: y).reverse.dropWhile isSpaceChar ≠ [] := by
        intro hnil
        have hall := List.dropWhile_eq_nil_iff.mp hnil c (List.mem_reverse.mpr List.mem_cons_self)
        rw [hc] at hall
        exact Bool.false_ne_true hall
      unfold List.rdropWhile
      rw [List.reverse_append, List.dropWhile_append,
        if_neg (by simpa [List.isEmpty_iff] using hlast), List.reverse_append, List.reverse_reverse]
    unfold stripChars
    rw [hleft, hright]

theorem dropWhile_eq_iff_head (p : Char → Bool) (x : List Char) :
    x.dropWhile p = x ↔ x.head?.any p = false := by
  cases x with
  | nil => simp
  | cons c x =>
    rw [List.dropWhile_cons]
    cases hc : p c with
    | false => simp [hc]
    | true =>
      have hne : x.dropWhile p ≠ c :: x := by
        intro h
        have hlength := (List.dropWhile_suffix p (l := x)).length_le
        rw [h, List.length_cons] at hlength
        omega
      simpa [hc] using hne

theorem rdropWhile_cons {p : Char → Bool} {c : Char} (hc : p c = false) (x : List Char) :
    ∃ y, (c :: x).rdropWhile p = c :: y := by
  have hfront : (c :: x).rdropWhile p <+: c :: x := List.rdropWhile_prefix ..
  rcases List.prefix_cons_iff.mp hfront with hnil | ⟨y, hy, -⟩
  · have hall := List.rdropWhile_eq_nil_iff.mp hnil c List.mem_cons_self
    rw [hc] at hall
    cases hall
  · exact ⟨y, hy⟩

theorem stripChars_cons {c : Char} (hc : isSpaceChar c = false) (x : List Char) :
    ∃ y, stripChars (c :: x) = c :: y := by
  have hdrop : (c :: x).dropWhile isSpaceChar = c :: x := by
    rw [dropWhile_eq_iff_head]
    exact hc
  unfold stripChars
  rw [hdrop]
  exact rdropWhile_cons hc x

/-! ### Lists of lines -/

/-- Texts that are joined shrink with every one of them. -/
theorem shrinks_unlines {α : Type*} {f g : α → List Char} {xs : List α}
    (h : ∀ x ∈ xs, Shrinks (f x) (g x)) : Shrinks (unlines (xs.map f)) (unlines (xs.map g)) := by
  induction xs with
  | nil => exact Shrinks.refl _
  | cons x xs ih =>
    have hx := h x List.mem_cons_self
    rcases eq_or_ne xs [] with rfl | hxs
    · simpa using hx
    · rw [List.map_cons, List.map_cons, unlines_cons (by simpa using hxs),
        unlines_cons (by simpa using hxs)]
      have hrest := ih fun y hy => h y (List.mem_cons_of_mem x hy)
      exact hx.append ((Shrinks.refl ['\n']).append hrest)

theorem unlines_map_eq_iff {α : Type*} {f g : α → List Char} {xs : List α}
    (h : ∀ x ∈ xs, Shrinks (f x) (g x)) :
    unlines (xs.map f) = unlines (xs.map g) ↔ ∀ x ∈ xs, f x = g x := by
  induction xs with
  | nil => simp
  | cons x xs ih =>
    have hx := h x List.mem_cons_self
    have hrest : ∀ y ∈ xs, Shrinks (f y) (g y) := fun y hy => h y (List.mem_cons_of_mem x hy)
    rcases eq_or_ne xs [] with rfl | hxs
    · simp
    · have hbreak := (Shrinks.refl ['\n']).append (shrinks_unlines hrest)
      rw [List.map_cons, List.map_cons, unlines_cons (by simpa using hxs),
        unlines_cons (by simpa using hxs), List.forall_mem_cons, ← ih hrest]
      exact (hx.append_eq_iff hbreak).trans (and_congr_right fun _ => List.cons_inj_right '\n')

/-- The characters of some lines, line breaks included. -/
def weight (ls : List (List Char)) : Nat := (ls.map fun l => l.length + 1).sum

@[simp] theorem weight_append (ls ms : List (List Char)) :
    weight (ls ++ ms) = weight ls + weight ms := by
  unfold weight
  rw [List.map_append, List.sum_append]

theorem length_unlines {ls : List (List Char)} (h : ls ≠ []) :
    (unlines ls).length + 1 = weight ls := by
  induction ls with
  | nil => exact absurd rfl h
  | cons l ls ih =>
    rcases eq_or_ne ls [] with rfl | hls
    · simp [weight]
    · have := ih hls
      rw [unlines_cons hls]
      simp only [weight, List.map_cons, List.sum_cons, List.length_append,
        List.length_cons] at this ⊢
      omega

/-- Some lines, or lines of less weight. -/
def Lighter (ls ms : List (List Char)) : Prop := ls = ms ∨ weight ls < weight ms

theorem Lighter.weight_le {ls ms : List (List Char)} (h : Lighter ls ms) :
    weight ls ≤ weight ms := by
  rcases h with rfl | h
  · exact le_refl _
  · exact le_of_lt h

theorem Lighter.trans {ls ms ns : List (List Char)} (h : Lighter ls ms) (h' : Lighter ms ns) :
    Lighter ls ns := by
  rcases h with rfl | h
  · exact h'
  · exact Or.inr (lt_of_lt_of_le h h'.weight_le)

theorem Lighter.trans_eq_iff {ls ms ns : List (List Char)} (h : Lighter ls ms)
    (h' : Lighter ms ns) : ls = ns ↔ ls = ms ∧ ms = ns := by
  refine ⟨?_, fun hls => hls.1.trans hls.2⟩
  intro hls
  rcases h with rfl | h
  · exact ⟨rfl, hls⟩
  · have := h'.weight_le
    rw [← hls] at this
    omega

theorem weight_lines (s : List Char) : weight (lines s) = s.length + 1 := by
  have := length_unlines (lines_ne_nil s)
  rw [unlines_lines] at this
  exact this.symm

theorem lines_inj {x y : List Char} : lines x = lines y ↔ x = y := by
  refine ⟨?_, congrArg lines⟩
  intro h
  rw [← unlines_lines x, h, unlines_lines]

theorem Shrinks.lines {x y : List Char} (h : Shrinks x y) : Lighter (lines x) (lines y) := by
  rcases h with rfl | h
  · exact Or.inl rfl
  · right
    rw [weight_lines, weight_lines]
    exact Nat.succ_lt_succ h

theorem lighter_filter (p : List Char → Bool) (ls : List (List Char)) :
    Lighter (ls.filter p) ls := by
  induction ls with
  | nil => exact Or.inl rfl
  | cons l ls ih =>
    have hle := ih.weight_le
    rw [List.filter_cons]
    split
    · rcases ih with h | h
      · exact Or.inl (by rw [h])
      · right
        simp only [weight, List.map_cons, List.sum_cons] at h ⊢
        omega
    · right
      simp only [weight, List.map_cons, List.sum_cons] at hle ⊢
      omega

theorem Lighter.append {ls ms ls' ms' : List (List Char)} (h : Lighter ls ms)
    (h' : Lighter ls' ms') : Lighter (ls ++ ls') (ms ++ ms') := by
  rcases h with rfl | h
  · rcases h' with rfl | h'
    · exact Or.inl rfl
    · right
      simpa using h'
  · right
    have := h'.weight_le
    simp only [weight_append]
    omega

theorem Lighter.append_eq {ls ms ls' ms' : List (List Char)} (h : Lighter ls ms)
    (h' : Lighter ls' ms') (heq : ls ++ ls' = ms ++ ms') : ls = ms ∧ ls' = ms' := by
  have hweight := congrArg weight heq
  have := h'.weight_le
  rw [weight_append, weight_append] at hweight
  rcases h with rfl | h
  · exact ⟨rfl, List.append_cancel_left heq⟩
  · omega

variable {α : Type*}

theorem weight_le_flatMap {f : α → List (List Char)} {xs : List α} {x : α} (hx : x ∈ xs) :
    weight (f x) ≤ weight (xs.flatMap f) := by
  induction xs with
  | nil => cases hx
  | cons y xs ih =>
    rw [List.flatMap_cons, weight_append]
    rcases List.mem_cons.mp hx with rfl | hx
    · exact Nat.le_add_right _ _
    · exact le_trans (ih hx) (Nat.le_add_left _ _)

theorem lighter_flatMap {f g : α → List (List Char)} {xs : List α}
    (h : ∀ x ∈ xs, Lighter (f x) (g x)) : Lighter (xs.flatMap f) (xs.flatMap g) := by
  induction xs with
  | nil => exact Or.inl rfl
  | cons x xs ih =>
    have hx := h x List.mem_cons_self
    exact hx.append (ih fun y hy => h y (List.mem_cons_of_mem x hy))

theorem flatMap_eq_iff {f g : α → List (List Char)} {xs : List α}
    (h : ∀ x ∈ xs, Lighter (f x) (g x)) :
    xs.flatMap f = xs.flatMap g ↔ ∀ x ∈ xs, f x = g x := by
  induction xs with
  | nil => simp
  | cons x xs ih =>
    have hxs : ∀ y ∈ xs, Lighter (f y) (g y) := fun y hy => h y (List.mem_cons_of_mem x hy)
    constructor
    · intro heq
      obtain ⟨hx, hrest⟩ := (h x List.mem_cons_self).append_eq (lighter_flatMap hxs) heq
      intro y hy
      rcases List.mem_cons.mp hy with rfl | hy
      · exact hx
      · exact (ih hxs).mp hrest y hy
    · intro heq
      rw [List.flatMap_cons, List.flatMap_cons, heq x List.mem_cons_self,
        (ih hxs).mpr fun y hy => heq y (List.mem_cons_of_mem x hy)]

/-- Only one empty line has weight one. -/
theorem eq_of_weight_one {ls : List (List Char)} (h : weight ls = 1) : ls = [[]] := by
  match ls with
  | [] => cases h
  | [[]] => rfl
  | [_ :: _] => simp [weight] at h
  | _ :: _ :: _ =>
    simp only [weight, List.map_cons, List.sum_cons] at h
    omega

/-- Lighter lines make a shorter text, unless all that is lost is one empty line. -/
theorem length_unlines_lt {ls ms : List (List Char)} (h : weight ls < weight ms)
    (hempty : ls = [] → ms ≠ [[]]) : (unlines ls).length < (unlines ms).length := by
  have hms : ms ≠ [] := by
    rintro rfl
    exact Nat.not_lt_zero _ h
  have hlength := length_unlines hms
  rcases eq_or_ne ls [] with rfl | hls
  · have hone : weight ms ≠ 1 := fun hone => hempty rfl (eq_of_weight_one hone)
    show 0 < (unlines ms).length
    omega
  · have := length_unlines hls
    omega

theorem Lighter.shrinks {ls ms : List (List Char)} (h : Lighter ls ms)
    (hempty : ls = [] → ms ≠ [[]]) : Shrinks (unlines ls) (unlines ms) := by
  rcases h with rfl | h
  · exact Shrinks.refl _
  · exact Or.inr (length_unlines_lt h hempty)

theorem Lighter.unlines_eq_iff {ls ms : List (List Char)} (h : Lighter ls ms)
    (hempty : ls = [] → ms ≠ [[]]) : unlines ls = unlines ms ↔ ls = ms := by
  refine ⟨?_, congrArg unlines⟩
  intro heq
  rcases h with h | h
  · exact h
  · have := length_unlines_lt h hempty
    rw [heq] at this
    exact absurd this (lt_irrefl _)

end Sda
