/-
Sda/Lib/Joined.lean

Pieces joined by a separator, stripped at the ends and with single blanks.

What is stripped from a joined text is stripped from its pieces (`strip_joined`): blank pieces at an
end are dropped, and the piece that then stands there is stripped on that side.  `squeeze` leaves one
blank of every run.  Where a joined text ends is where its last piece ends (`suffix_joined_iff`,
`suffix_squeeze_iff`), and it is as long as its pieces and the separators between them, less one
blank for every empty piece (`length_squeeze_joined`).
-/
import Mathlib.Algebra.Ring.Nat
import Mathlib.Data.List.DropRight
import Mathlib.Data.List.SplitOn

namespace Sda

variable {α : Type*}

/-! ### Suffixes -/

section

variable {a : α} {x y key : List α}

/-- A text that ends behind a character which it does not have. -/
theorem suffix_cut_iff (hkey : a ∉ key) : key <:+ x ++ a :: y ↔ key <:+ y := by
  constructor
  · rintro ⟨z, hz⟩
    rcases List.append_eq_append_iff.mp hz with ⟨w, hx, hback⟩ | ⟨w, hz, hback⟩
    · -- the text begins in front of the character
      exfalso
      apply hkey
      rw [hback]
      simp
    · cases w with
      | nil =>
        exfalso
        apply hkey
        rw [← List.nil_append key, ← hback]
        exact List.mem_cons_self
      | cons b w =>
        rw [List.cons_append] at hback
        exact ⟨w, (List.cons.inj hback).2.symm⟩
  · intro h
    apply h.trans
    exact (List.suffix_cons a y).trans (List.suffix_append x _)

theorem rdropWhile_append (p : α → Bool) (x y : List α) :
    (x ++ y).rdropWhile p = if y.rdropWhile p = [] then x.rdropWhile p else x ++ y.rdropWhile p := by
  unfold List.rdropWhile
  rw [List.reverse_append, List.dropWhile_append]
  cases y.reverse.dropWhile p with
  | nil => simp
  | cons b z => simp

end

/-! ### Single blanks -/

section

variable [DecidableEq α] {a : α} {x y key : List α}

/-- One blank for every run of them. -/
def squeeze (a : α) : List α → List α
  | [] => []
  | c :: x => if c = a ∧ x.head? = some a then squeeze a x else c :: squeeze a x

theorem squeeze_cons (c : α) (x : List α) :
    squeeze a (c :: x) = if c = a ∧ x.head? = some a then squeeze a x else c :: squeeze a x := rfl

theorem squeeze_of_not_mem (h : a ∉ x) : squeeze a x = x := by
  induction x with
  | nil => rfl
  | cons c x ih =>
    have hc : ¬(c = a ∧ x.head? = some a) := fun hrun => h (hrun.1 ▸ List.mem_cons_self)
    rw [squeeze_cons]
    rw [if_neg hc, ih fun hx => h (List.mem_cons_of_mem c hx)]

/-- No run goes over the seam. -/
theorem squeeze_append (h : x.getLast? ≠ some a ∨ y.head? ≠ some a) :
    squeeze a (x ++ y) = squeeze a x ++ squeeze a y := by
  induction x with
  | nil => rfl
  | cons c x ih =>
    cases x with
    | nil =>
      have hc : ¬(c = a ∧ y.head? = some a) := by
        rintro ⟨rfl, hy⟩
        rcases h with h | h
        · exact h rfl
        · exact h hy
      show squeeze a (c :: y) = _
      rw [squeeze_cons, if_neg hc, squeeze_cons c [], if_neg fun hrun => nomatch hrun.2]
      rfl
    | cons d x =>
      have hlast : (d :: x).getLast? ≠ some a ∨ y.head? ≠ some a := by
        rw [List.getLast?_cons_cons] at h
        exact h
      have hhead : (d :: x ++ y).head? = (d :: x).head? := rfl
      show squeeze a (c :: (d :: x ++ y)) = squeeze a (c :: d :: x) ++ squeeze a y
      rw [squeeze_cons, squeeze_cons c (d :: x), ih hlast, hhead]
      split
      · rfl
      · rfl

theorem mem_squeeze (h : a ∈ x) : a ∈ squeeze a x := by
  induction x with
  | nil => cases h
  | cons c x ih =>
    rw [squeeze_cons]
    split
    · next hrun => exact ih (List.mem_of_mem_head? hrun.2)
    · rcases List.mem_cons.mp h with rfl | h
      · exact List.mem_cons_self
      · exact List.mem_cons_of_mem c (ih h)

/-- **Where the text ends does not change**, up to the last blank. -/
theorem suffix_squeeze_iff (hkey : a ∉ key) : key <:+ squeeze a x ↔ key <:+ x := by
  induction x with
  | nil => exact Iff.rfl
  | cons c x ih =>
    rw [squeeze_cons]
    split
    · next hrun =>
      have hne : key ≠ c :: x := fun heq => hkey (heq ▸ hrun.1 ▸ List.mem_cons_self)
      rw [ih, List.suffix_cons_iff, or_iff_right hne]
    · have hall : key = c :: squeeze a x ↔ key = c :: x := by
        by_cases hx : a ∈ x
        · have hleft : key ≠ c :: squeeze a x := fun heq =>
            hkey (heq ▸ List.mem_cons_of_mem c (mem_squeeze hx))
          have hright : key ≠ c :: x := fun heq => hkey (heq ▸ List.mem_cons_of_mem c hx)
          exact iff_of_false hleft hright
        · rw [squeeze_of_not_mem hx]
      rw [List.suffix_cons_iff, List.suffix_cons_iff, ih, hall]

theorem length_squeeze_cons (x : List α) :
    (squeeze a (a :: x)).length = (if x.head? = some a then 0 else 1) + (squeeze a x).length := by
  by_cases hx : x.head? = some a
  · rw [squeeze_cons, if_pos ⟨rfl, hx⟩, if_pos hx, Nat.zero_add]
  · rw [squeeze_cons, if_neg fun h => hx h.2, if_neg hx, List.length_cons, Nat.add_comm]

end

/-! ### Stripping the ends -/

section

variable (p : α → Bool)

/-- Blank pieces in front are dropped, and the one that is not is stripped in front. -/
def stripFront : List (List α) → List (List α)
  | [] => []
  | k :: ks => if k.dropWhile p = [] then stripFront ks else k.dropWhile p :: ks

/-- The same at the end. -/
def stripBack : List (List α) → List (List α)
  | [] => []
  | k :: ks =>
    if stripBack ks = [] then if k.rdropWhile p = [] then [] else [k.rdropWhile p]
    else k :: stripBack ks

variable {p} in
theorem stripFront_cons (k : List α) (ks : List (List α)) :
    stripFront p (k :: ks) =
      if k.dropWhile p = [] then stripFront p ks else k.dropWhile p :: ks := rfl

variable {p} in
theorem stripBack_cons (k : List α) (ks : List (List α)) :
    stripBack p (k :: ks) =
      if stripBack p ks = [] then if k.rdropWhile p = [] then [] else [k.rdropWhile p]
      else k :: stripBack p ks := rfl

variable {p} {sep : List α} {ks : List (List α)}

theorem intercalate_cons (hne : ks ≠ []) (k : List α) :
    sep.intercalate (k :: ks) = k ++ (sep ++ sep.intercalate ks) := by
  rw [List.intercalate_cons_of_ne_nil hne, List.append_assoc]

theorem dropWhile_joined (hsep : ∀ c ∈ sep, p c = true) :
    (sep.intercalate ks).dropWhile p = sep.intercalate (stripFront p ks) := by
  induction ks with
  | nil => rfl
  | cons k ks ih =>
    rw [stripFront_cons]
    rcases eq_or_ne ks [] with rfl | hne
    · rw [List.intercalate_singleton]
      split
      · next hk => rw [hk]; rfl
      · rw [List.intercalate_singleton]
    · rw [intercalate_cons hne, List.dropWhile_append]
      by_cases hk : k.dropWhile p = []
      · rw [if_pos (List.isEmpty_iff.mpr hk), if_pos hk, List.dropWhile_append_of_pos hsep, ih]
      · rw [if_neg fun h => hk (List.isEmpty_iff.mp h), if_neg hk, intercalate_cons hne]

/-- Its last piece is not blank. -/
theorem getLast?_stripBack (ks : List (List α)) : (stripBack p ks).getLast? ≠ some [] := by
  induction ks with
  | nil => nofun
  | cons k ks ih =>
    rw [stripBack_cons]
    split
    · split
      · nofun
      · next hk => exact fun h => hk (Option.some.inj h)
    · next hne =>
      obtain ⟨j, js, hcons⟩ := List.exists_cons_of_ne_nil hne
      rw [hcons] at ih ⊢
      rw [List.getLast?_cons_cons]
      exact ih

theorem intercalate_eq_nil_iff (hlast : ks.getLast? ≠ some []) :
    sep.intercalate ks = [] ↔ ks = [] := by
  constructor
  · intro hnil
    induction ks with
    | nil => rfl
    | cons k ks ih =>
      exfalso
      rcases eq_or_ne ks [] with rfl | hne
      · rw [List.intercalate_singleton] at hnil
        exact hlast (congrArg some hnil)
      · rw [intercalate_cons hne] at hnil
        obtain ⟨j, js, rfl⟩ := List.exists_cons_of_ne_nil hne
        rw [List.getLast?_cons_cons] at hlast
        exact hne (ih hlast (List.append_eq_nil_iff.mp (List.append_eq_nil_iff.mp hnil).2).2)
  · rintro rfl
    rfl

theorem rdropWhile_joined (hsep : ∀ c ∈ sep, p c = true) :
    (sep.intercalate ks).rdropWhile p = sep.intercalate (stripBack p ks) := by
  have hnone : sep.rdropWhile p = [] := List.rdropWhile_eq_nil_iff.mpr hsep
  induction ks with
  | nil => rfl
  | cons k ks ih =>
    have hback : sep.intercalate (stripBack p ks) = [] ↔ stripBack p ks = [] :=
      intercalate_eq_nil_iff (getLast?_stripBack ks)
    rw [stripBack_cons]
    rcases eq_or_ne ks [] with rfl | hne
    · show (sep.intercalate [k]).rdropWhile p = sep.intercalate (if _ then [] else [_])
      rw [List.intercalate_singleton]
      split
      · next hk => rw [hk]; rfl
      · rw [List.intercalate_singleton]
    · rw [intercalate_cons hne, rdropWhile_append, rdropWhile_append, ih, hnone]
      by_cases hrest : stripBack p ks = []
      · -- nothing behind the piece
        rw [if_pos hrest, if_pos (hback.mpr hrest), if_pos rfl]
        split
        · next hk => rw [hk]; rfl
        · rw [List.intercalate_singleton]
      · have hjoined : sep.intercalate (stripBack p ks) ≠ [] := fun h => hrest (hback.mp h)
        rw [if_neg hrest, if_neg hjoined, if_neg (by simp [hjoined]), intercalate_cons hrest]

/-- The pieces of a stripped text. -/
def stripEnds (p : α → Bool) (ks : List (List α)) : List (List α) := stripBack p (stripFront p ks)

/-- **A joined text is stripped by stripping its pieces.** -/
theorem strip_joined (hsep : ∀ c ∈ sep, p c = true) (ks : List (List α)) :
    ((sep.intercalate ks).dropWhile p).rdropWhile p = sep.intercalate (stripEnds p ks) := by
  rw [dropWhile_joined hsep, rdropWhile_joined hsep]
  rfl

theorem head?_stripFront (ks : List (List α)) : (stripFront p ks).head? ≠ some [] := by
  induction ks with
  | nil => nofun
  | cons k ks ih =>
    rw [stripFront_cons]
    split
    · exact ih
    · next hk => exact fun h => hk (Option.some.inj h)

/-- A piece that is left is the front of a piece. -/
theorem mem_stripBack {j : List α} (h : j ∈ stripBack p ks) : ∃ k ∈ ks, j <+: k := by
  induction ks with
  | nil => cases h
  | cons k ks ih =>
    rw [stripBack_cons] at h
    split at h
    · split at h
      · cases h
      · rw [List.mem_singleton.mp h]
        exact ⟨k, List.mem_cons_self, List.rdropWhile_prefix p k⟩
    · rcases List.mem_cons.mp h with rfl | h
      · exact ⟨j, List.mem_cons_self, List.prefix_rfl⟩
      · obtain ⟨k', hk', hj⟩ := ih h
        exact ⟨k', List.mem_cons_of_mem k hk', hj⟩

/-- Both ends are pieces that are not empty. -/
theorem head?_stripBack (h : ks.head? ≠ some []) : (stripBack p ks).head? ≠ some [] := by
  cases ks with
  | nil => nofun
  | cons k ks =>
    rw [stripBack_cons]
    split
    · split
      · nofun
      · next hk => exact fun h => hk (Option.some.inj h)
    · exact h

theorem head?_stripEnds (ks : List (List α)) : (stripEnds p ks).head? ≠ some [] :=
  head?_stripBack (head?_stripFront ks)

theorem getLast?_stripEnds (ks : List (List α)) : (stripEnds p ks).getLast? ≠ some [] :=
  getLast?_stripBack _

end

/-! ### Seams -/

section

variable {p : α → Bool} {a : α} {sep lead : List α} {ks : List (List α)}

/-- No blank stands on either side of a separator. -/
def Seams (a : α) (ks : List (List α)) : Prop :=
  ks.Pairwise fun j k => j.getLast? ≠ some a ∧ k.head? ≠ some a

theorem Seams.filter (h : Seams a ks) (q : List α → Bool) : Seams a (ks.filter q) :=
  List.Pairwise.filter q h

theorem Seams.stripFront (h : Seams a ks) : Seams a (stripFront p ks) := by
  induction ks with
  | nil => exact List.Pairwise.nil
  | cons k ks ih =>
    obtain ⟨hk, hks⟩ := List.pairwise_cons.mp h
    unfold Sda.stripFront
    split
    · exact ih hks
    · next hne =>
      refine List.pairwise_cons.mpr ⟨fun j hj => ⟨?_, (hk j hj).2⟩, hks⟩
      -- what is left of the piece ends as the piece does
      obtain ⟨z, hz⟩ := List.dropWhile_suffix p (l := k)
      have hlast : k.getLast? = (k.dropWhile p).getLast? := by
        conv_lhs => rw [← hz, List.getLast?_append_of_ne_nil _ hne]
      rw [← hlast]
      exact (hk j hj).1

theorem Seams.stripBack (h : Seams a ks) : Seams a (stripBack p ks) := by
  induction ks with
  | nil => exact List.Pairwise.nil
  | cons k ks ih =>
    obtain ⟨hk, hks⟩ := List.pairwise_cons.mp h
    unfold Sda.stripBack
    split
    · split
      · exact List.Pairwise.nil
      · exact List.pairwise_singleton _ _
    · refine List.pairwise_cons.mpr ⟨fun j hj => ?_, ih hks⟩
      obtain ⟨k', hk', z, hz⟩ := mem_stripBack hj
      obtain ⟨hback, hfront⟩ := hk k' hk'
      refine ⟨hback, fun hhead => hfront ?_⟩
      rw [← hz, List.head?_append, hhead]
      rfl

theorem Seams.stripEnds (h : Seams a ks) : Seams a (stripEnds p ks) := h.stripFront.stripBack

/-- **Where a joined text ends, its last piece ends.** -/
theorem suffix_joined_iff {key : List α} (hkey : a ∉ key) (hne : key ≠ []) (ks : List (List α)) :
    key <:+ (lead ++ [a]).intercalate ks ↔ ∃ k ∈ ks.getLast?, key <:+ k := by
  induction ks with
  | nil =>
    show key <:+ [] ↔ _
    simp [hne]
  | cons k ks ih =>
    rcases eq_or_ne ks [] with rfl | hks
    · rw [List.intercalate_singleton]
      simp
    · obtain ⟨j, js, rfl⟩ := List.exists_cons_of_ne_nil hks
      have hseam : k ++ (lead ++ [a] ++ (lead ++ [a]).intercalate (j :: js)) =
          (k ++ lead) ++ a :: (lead ++ [a]).intercalate (j :: js) := by simp
      rw [intercalate_cons hks, hseam, suffix_cut_iff hkey, ih, List.getLast?_cons_cons]

variable [DecidableEq α]

/-- **The length of a joined text with single blanks.**  An empty piece costs a blank where the
separator begins with one. -/
theorem length_squeeze_joined (hlead : squeeze a lead = lead) (hne : lead ≠ [])
    (hback : lead.getLast? ≠ some a) (hseams : Seams a ks) (hlast : ks.getLast? ≠ some []) :
    (squeeze a ((lead ++ [a]).intercalate ks)).length +
        (if lead.head? = some a then ks.tail.count [] else 0) =
      (ks.map fun k => (squeeze a k).length).sum + (ks.length - 1) * (lead ++ [a]).length := by
  induction ks with
  | nil => simp [squeeze]
  | cons k ks ih =>
    rcases eq_or_ne ks [] with rfl | hks
    · rw [List.intercalate_singleton]
      simp
    · obtain ⟨hk, hrest⟩ := List.pairwise_cons.mp hseams
      obtain ⟨j, js, rfl⟩ := List.exists_cons_of_ne_nil hks
      rw [List.getLast?_cons_cons] at hlast
      have hih := ih hrest hlast
      have hj := hk j List.mem_cons_self
      set rest := (lead ++ [a]).intercalate (j :: js) with hjoined
      have hcut : k ++ (lead ++ [a] ++ rest) = (k ++ lead) ++ a :: rest := by simp
      -- the piece, the separator and the rest squeeze by themselves
      have hsqueeze : squeeze a (k ++ lead ++ a :: rest) =
          squeeze a k ++ lead ++ squeeze a (a :: rest) := by
        rw [squeeze_append (Or.inl (by rw [List.getLast?_append_of_ne_nil _ hne]; exact hback)),
          squeeze_append (Or.inl hj.1), hlead]
      have hhead : rest.head? = some a ↔ j = [] ∧ lead.head? = some a := by
        rcases eq_or_ne js [] with rfl | hjs
        · have hj' : j ≠ [] := fun h => hlast (congrArg some h)
          rw [hjoined, List.intercalate_singleton]
          exact iff_of_false hj.2 fun h => hj' h.1
        · rw [hjoined, intercalate_cons hjs, List.head?_append]
          cases j with
          | nil => simp [List.head?_append_of_ne_nil _ hne]
          | cons b j => simpa using hj.2
      rw [intercalate_cons hks, ← hjoined, hcut, hsqueeze, List.length_append, List.length_append,
        length_squeeze_cons]
      simp only [hhead, List.tail_cons, List.map_cons, List.sum_cons, List.length_cons,
        List.length_append, List.length_nil, Nat.add_sub_cancel] at hih ⊢
      rw [List.count_cons, Nat.succ_mul]
      by_cases hblank : lead.head? = some a
      · rw [if_pos hblank] at hih ⊢
        by_cases hempty : j = []
        · rw [if_pos ⟨hempty, hblank⟩, if_pos (beq_iff_eq.mpr hempty)]
          omega
        · rw [if_neg fun h => hempty h.1, if_neg fun h => hempty (beq_iff_eq.mp h)]
          omega
      · rw [if_neg hblank] at hih ⊢
        rw [if_neg fun h => hblank h.2]
        omega

end

end Sda
