/-
Sda/Lib/Readings.lean

Reading a text as known words with a separator between them.

The words may contain the separator, so a text can have several readings.  `readFrom` looks for one
word by word, the long words first, and goes back where the rest cannot be read.  What it finds is
the reading that at its first difference to any other has the longer word (`readFrom_eq_some_iff`);
a text that can be read at all is read (`readFrom_ne_none`).
-/
import Mathlib.Data.List.Basic
import Mathlib.Data.List.Infix

namespace Sda

variable {α : Type*} {sep : α} {known : List (List α)}
  {text w v : List α} {ws vs us : List (List α)}

/-- The text is these words with separators between them, and the words are known. -/
structure Reading (known : List (List α)) (sep : α) (text : List α) (ws : List (List α)) :
    Prop where
  joined : text = [sep].intercalate ws
  words : ∀ w ∈ ws, w ∈ known

/-- At the first difference the first reading has the longer word. -/
def Outruns : List (List α) → List (List α) → Prop
  | w :: ws, v :: vs => v.length < w.length ∨ w = v ∧ Outruns ws vs
  | _, _ => False

/-- No other reading of the text has a longer word where they first differ. -/
structure LongestReading (known : List (List α)) (sep : α) (text : List α)
    (ws : List (List α)) : Prop extends Reading known sep text ws where
  outruns : ∀ vs, Reading known sep text vs → vs = ws ∨ Outruns ws vs

theorem Outruns.asymm (h : Outruns ws vs) : ¬ Outruns vs ws := by
  induction ws generalizing vs with
  | nil => exact absurd h not_false
  | cons w ws ih =>
    rcases vs with - | ⟨v, vs⟩
    · exact absurd h not_false
    rintro (hback | ⟨rfl, hback⟩)
    · rcases h with hlt | ⟨rfl, -⟩
      · exact absurd hlt (Nat.lt_asymm hback)
      · exact absurd hback (Nat.lt_irrefl _)
    · rcases h with hlt | ⟨-, h⟩
      · exact absurd hlt (Nat.lt_irrefl _)
      · exact ih h hback

/-- There is one such reading at most. -/
theorem LongestReading.unique (h : LongestReading known sep text ws)
    (h' : LongestReading known sep text vs) : vs = ws := by
  rcases h.outruns vs h'.toReading with heq | hlong
  · exact heq
  · rcases h'.outruns ws h.toReading with heq | hlong'
    · exact heq.symm
    · exact absurd hlong' hlong.asymm

/-- Only which words are known matters, not their order. -/
theorem longestReading_congr {known' : List (List α)} (h : ∀ w, w ∈ known ↔ w ∈ known') :
    LongestReading known sep text ws ↔ LongestReading known' sep text ws := by
  have hreading : ∀ vs, Reading known sep text vs ↔ Reading known' sep text vs := fun vs =>
    ⟨fun hr => ⟨hr.joined, fun w hw => (h w).mp (hr.words w hw)⟩,
      fun hr => ⟨hr.joined, fun w hw => (h w).mpr (hr.words w hw)⟩⟩
  exact ⟨fun hr => ⟨(hreading ws).mp hr.toReading, fun vs hvs => hr.outruns vs ((hreading vs).mpr hvs)⟩,
    fun hr => ⟨(hreading ws).mpr hr.toReading, fun vs hvs => hr.outruns vs ((hreading vs).mp hvs)⟩⟩

/-- A text that is a word itself is read as that word. -/
theorem LongestReading.eq_of_mem (h : LongestReading known sep text ws) (hmem : text ∈ known) :
    ws = [text] := by
  have hwhole : Reading known sep text [text] :=
    ⟨List.intercalate_singleton.symm, fun w hw => by rw [List.mem_singleton.mp hw]; exact hmem⟩
  rcases h.outruns [text] hwhole with heq | hlong
  · exact heq.symm
  · exfalso
    rcases ws with - | ⟨w, ws⟩
    · exact hlong
    · rcases hlong with hlt | ⟨-, hnone⟩
      · -- no word is longer than the text
        have hlength : text.length = ([sep].intercalate (w :: ws)).length := by rw [← h.joined]
        rcases ws with - | ⟨v, ws⟩
        · rw [List.intercalate_singleton] at hlength
          omega
        · rw [List.intercalate_cons_cons, List.length_append, List.length_append] at hlength
          omega
      · rcases ws with - | ⟨v, ws⟩
        · exact hnone
        · exact hnone

/-! ### Words and rests -/

/-- A reading of two words or more begins with a word and the separator. -/
theorem reading_cons_iff :
    Reading known sep text (w :: v :: ws) ↔
      w ∈ known ∧ ∃ rest, text = w ++ sep :: rest ∧ Reading known sep rest (v :: ws) := by
  constructor
  · rintro ⟨hjoined, hknown⟩
    refine ⟨hknown w (List.mem_cons_self ..), [sep].intercalate (v :: ws), ?_, rfl, fun u hu =>
      hknown u (List.mem_cons_of_mem _ hu)⟩
    rw [hjoined, List.intercalate_cons_cons]
    simp
  · rintro ⟨hw, rest, rfl, hjoined, hknown⟩
    refine ⟨?_, List.forall_mem_cons.mpr ⟨hw, hknown⟩⟩
    rw [hjoined, List.intercalate_cons_cons]
    simp

theorem reading_single_iff : Reading known sep text [w] ↔ text = w ∧ w ∈ known := by
  constructor
  · rintro ⟨hjoined, hknown⟩
    rw [List.intercalate_singleton] at hjoined
    exact ⟨hjoined, hknown w (List.mem_cons_self ..)⟩
  · rintro ⟨rfl, hw⟩
    exact ⟨List.intercalate_singleton.symm, fun u hu => by rw [List.mem_singleton.mp hu]; exact hw⟩

theorem reading_nil_iff : Reading known sep text [] ↔ text = [] := by
  constructor
  · rintro ⟨hjoined, -⟩
    exact hjoined
  · rintro rfl
    exact ⟨rfl, fun w hw => absurd hw List.not_mem_nil⟩

/-- A word and the separator in front. -/
theorem prefix_iff : w ++ [sep] <+: text ↔ ∃ rest, text = w ++ sep :: rest := by
  constructor
  · rintro ⟨rest, rfl⟩
    exact ⟨rest, by simp⟩
  · rintro ⟨rest, rfl⟩
    exact ⟨rest, by simp⟩

theorem drop_word (w rest : List α) : (w ++ sep :: rest).drop (w.length + 1) = rest := by
  rw [← List.drop_drop, List.drop_left]
  rfl

/-- A text of one word or more has a character, where all words have. -/
theorem Reading.ne_nil (h : Reading known sep text ws) (hne : ws ≠ []) (hempty : [] ∉ known) :
    text ≠ [] := by
  rintro rfl
  rcases ws with - | ⟨w, - | ⟨v, ws⟩⟩
  · exact hne rfl
  · obtain ⟨rfl, hw⟩ := reading_single_iff.mp h
    exact hempty hw
  · obtain ⟨-, rest, htext, -⟩ := reading_cons_iff.mp h
    simp at htext

/-- The first separator ends a word that has none. -/
theorem front_inj {rest rest' : List α} (hw : sep ∉ w) (hv : sep ∉ v)
    (h : w ++ sep :: rest = v ++ sep :: rest') : w = v ∧ rest = rest' := by
  rcases List.append_eq_append_iff.mp h with ⟨- | ⟨d, cs⟩, rfl, hrest⟩ | ⟨- | ⟨d, cs⟩, rfl, hrest⟩
  · rw [List.nil_append] at hrest
    cases hrest
    exact ⟨(List.append_nil w).symm, rfl⟩
  · cases hrest
    exact absurd (by simp) hv
  · rw [List.nil_append] at hrest
    cases hrest
    exact ⟨List.append_nil v, rfl⟩
  · cases hrest
    exact absurd (by simp) hw

/-- **Words without the separator** are read in one way only. -/
theorem Reading.unique (hplain : ∀ w ∈ known, sep ∉ w) (h : Reading known sep text ws)
    (h' : Reading known sep text vs) (hne : ws ≠ []) (hne' : vs ≠ []) : ws = vs := by
  induction ws generalizing text vs with
  | nil => exact absurd rfl hne
  | cons w ws ih =>
    obtain ⟨v, vs, rfl⟩ := List.exists_cons_of_ne_nil hne'
    have hw : sep ∉ w := hplain w (h.words w (List.mem_cons_self ..))
    have hv : sep ∉ v := hplain v (h'.words v (List.mem_cons_self ..))
    rcases ws with - | ⟨w', ws⟩
    · obtain ⟨rfl, -⟩ := reading_single_iff.mp h
      rcases vs with - | ⟨v', vs⟩
      · rw [(reading_single_iff.mp h').1]
      · obtain ⟨-, rest, rfl, -⟩ := reading_cons_iff.mp h'
        exact absurd (by simp) hw
    · obtain ⟨-, rest, rfl, hrest⟩ := reading_cons_iff.mp h
      rcases vs with - | ⟨v', vs⟩
      · obtain ⟨rfl, -⟩ := reading_single_iff.mp h'
        exact absurd (by simp) hv
      · obtain ⟨-, rest', htext, hrest'⟩ := reading_cons_iff.mp h'
        obtain ⟨rfl, rfl⟩ := front_inj hw hv htext
        rw [ih hrest hrest' (List.cons_ne_nil _ _) (List.cons_ne_nil _ _)]

/-! ### The search -/

section Search

variable [DecidableEq α]

/-- The first reading found: the whole text, or a word, the separator and a reading of the rest.
The fuel is longer than the text, which shrinks. -/
def readFrom (known : List (List α)) (sep : α) : Nat → List α → Option (List (List α))
  | 0, _ => none
  | fuel + 1, text =>
    if text ∈ known then some [text]
    else known.findSome? fun w =>
      if w ++ [sep] <+: text then
        (readFrom known sep fuel (text.drop (w.length + 1))).map (w :: ·)
      else none

/-- What one word leads to. -/
theorem step_eq_some_iff {read : List α → Option (List (List α))} :
    (if w ++ [sep] <+: text then (read (text.drop (w.length + 1))).map (w :: ·) else none) =
        some ws ↔
      ∃ rest us, text = w ++ sep :: rest ∧ read rest = some us ∧ ws = w :: us := by
  constructor
  · intro h
    split at h
    · next hpre =>
      obtain ⟨rest, rfl⟩ := prefix_iff.mp hpre
      rw [drop_word] at h
      obtain ⟨us, hus, rfl⟩ := Option.map_eq_some_iff.mp h
      exact ⟨rest, us, rfl, hus, rfl⟩
    · cases h
  · rintro ⟨rest, us, rfl, hus, rfl⟩
    rw [if_pos (prefix_iff.mpr ⟨rest, rfl⟩), drop_word, hus]
    rfl

/-- **What is found is a reading**, of one word or more. -/
theorem readFrom_reading {fuel : Nat} (h : readFrom known sep fuel text = some ws) :
    ws ≠ [] ∧ Reading known sep text ws := by
  induction fuel generalizing text ws with
  | zero => cases h
  | succ fuel ih =>
    rw [readFrom] at h
    split at h
    · next hknown =>
      cases h
      exact ⟨List.cons_ne_nil _ _, reading_single_iff.mpr ⟨rfl, hknown⟩⟩
    · obtain ⟨w, hw, hstep⟩ := List.exists_of_findSome?_eq_some h
      obtain ⟨rest, us, rfl, hus, rfl⟩ := step_eq_some_iff.mp hstep
      obtain ⟨hne, hreading⟩ := ih hus
      obtain ⟨u, us, rfl⟩ := List.exists_cons_of_ne_nil hne
      exact ⟨List.cons_ne_nil _ _, reading_cons_iff.mpr ⟨hw, rest, rfl, hreading⟩⟩

/-- **A text that can be read is read.** -/
theorem readFrom_ne_none {fuel : Nat} (hfuel : text.length < fuel)
    (h : Reading known sep text ws) (hne : ws ≠ []) : readFrom known sep fuel text ≠ none := by
  induction fuel generalizing text ws with
  | zero => exact absurd hfuel (Nat.not_lt_zero _)
  | succ fuel ih =>
    rw [readFrom]
    split
    · exact nofun
    next hknown =>
    rcases ws with - | ⟨w, - | ⟨v, ws⟩⟩
    · exact absurd rfl hne
    · obtain ⟨rfl, hw⟩ := reading_single_iff.mp h
      exact absurd hw hknown
    · obtain ⟨hw, rest, rfl, hrest⟩ := reading_cons_iff.mp h
      have hshort : rest.length < fuel := by
        rw [List.length_append, List.length_cons] at hfuel
        omega
      intro hnone
      rw [List.findSome?_eq_none_iff] at hnone
      have hstep := hnone w hw
      rw [if_pos (prefix_iff.mpr ⟨rest, rfl⟩), drop_word, Option.map_eq_none_iff] at hstep
      exact ih hshort hrest (List.cons_ne_nil _ _) hstep

/-- **Of all readings the one with the longer words is found**, where long words are tried first. -/
theorem readFrom_longest {fuel : Nat} (hsorted : known.Pairwise fun w v => v.length ≤ w.length)
    (hempty : [] ∉ known) (hfuel : text.length < fuel)
    (h : readFrom known sep fuel text = some ws) : LongestReading known sep text ws := by
  refine ⟨(readFrom_reading h).2, fun vs hvs => ?_⟩
  induction fuel generalizing text ws vs with
  | zero => cases h
  | succ fuel ih =>
    have htext : text ≠ [] :=
      (readFrom_reading h).2.ne_nil (readFrom_reading h).1 hempty
    rw [readFrom] at h
    rcases vs with - | ⟨v, - | ⟨u, vs⟩⟩
    · exact absurd (reading_nil_iff.mp hvs) htext
    · -- the whole text is a word
      obtain ⟨hwhole, hv⟩ := reading_single_iff.mp hvs
      subst hwhole
      rw [if_pos hv] at h
      cases h
      exact Or.inl rfl
    obtain ⟨hv, rest, rfl, hrest⟩ := reading_cons_iff.mp hvs
    have hshort : rest.length < fuel := by
      rw [List.length_append, List.length_cons] at hfuel
      omega
    split at h
    · cases h
      refine Or.inr (Or.inl ?_)
      rw [List.length_append, List.length_cons]
      omega
    obtain ⟨before, w, after, rfl, hstep, hbefore⟩ := List.findSome?_eq_some_iff.mp h
    obtain ⟨rest', us, htext', hus, rfl⟩ := step_eq_some_iff.mp hstep
    rcases Nat.lt_trichotomy v.length w.length with hlt | heq | hgt
    · exact Or.inr (Or.inl hlt)
    · -- the same word, and the difference is in the rest
      obtain ⟨rfl, hrests⟩ := List.append_inj htext' heq
      cases hrests
      rcases ih hshort hus (u :: vs) hrest with hsame | hlater
      · exact Or.inl (by rw [hsame])
      · exact Or.inr (Or.inr ⟨rfl, hlater⟩)
    · -- a longer word stands before `w`, so it was tried, and would have been found
      exfalso
      have hmem : v ∈ before := by
        rcases List.mem_append.mp hv with hmem | hmem
        · exact hmem
        · have hafter := (List.pairwise_append.mp hsorted).2.1
          rcases List.mem_cons.mp hmem with rfl | hmem
          · exact absurd hgt (Nat.lt_irrefl _)
          · exact absurd ((List.pairwise_cons.mp hafter).1 v hmem) (Nat.not_le.mpr hgt)
      have hnone := hbefore v hmem
      rw [if_pos (prefix_iff.mpr ⟨rest, rfl⟩), drop_word, Option.map_eq_none_iff] at hnone
      exact readFrom_ne_none hshort hrest (List.cons_ne_nil u vs) hnone

/-- **What the search finds**: the longest reading, if there is one. -/
theorem readFrom_eq_some_iff {fuel : Nat}
    (hsorted : known.Pairwise fun w v => v.length ≤ w.length) (hempty : [] ∉ known)
    (hfuel : text.length < fuel) :
    readFrom known sep fuel text = some ws ↔ ws ≠ [] ∧ LongestReading known sep text ws := by
  constructor
  · intro h
    exact ⟨(readFrom_reading h).1, readFrom_longest hsorted hempty hfuel h⟩
  · rintro ⟨hne, hlongest⟩
    rcases hread : readFrom known sep fuel text with - | vs
    · exact absurd hread (readFrom_ne_none hfuel hlongest.toReading hne)
    · rw [hlongest.unique (readFrom_longest hsorted hempty hfuel hread)]

end Search

end Sda
