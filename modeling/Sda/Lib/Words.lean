/-
Sda/Lib/Words.lean

The words of a text: what stands between its white space.

`words` and `unwords` are `s.split()` and `" ".join(words)`.  A joined text that is cut, and stripped
where it was cut, is a joined text again: it has the words that fit (`fitting`).

Main results: `words_unwords`, `cut_unwords`, `fitting_fitting`.
-/
import Mathlib.Data.List.DropRight
import Sda.Lib.Text

namespace Sda

/-- `s.split()` -/
def words (x : List Char) : List (List Char) := (x.splitOnP isSpaceChar).filter (· ≠ [])

/-- `" ".join(words)` -/
def unwords (ws : List (List Char)) : List Char := List.intercalate [' '] ws

/-- Characters, and no white space among them. -/
structure IsWord (w : List Char) : Prop where
  ne_nil : w ≠ []
  no_space : ∀ c ∈ w, isSpaceChar c = false

/-- The words that fit in so many characters, the last one cut if it must be. -/
def fitting : Nat → List (List Char) → List (List Char)
  | _, [] => []
  | room, w :: ws =>
    if room = 0 then []
    else if room < w.length then [w.take room]
    else w :: fitting (room - (w.length + 1)) ws

/-! ### Splitting -/

/-- A letter or digit is no blank. -/
theorem isSpaceChar_of_isAlphanum {c : Char} (h : c.isAlphanum = true) : isSpaceChar c = false := by
  have hrange : 48 ≤ c.toNat ∧ c.toNat ≤ 122 := by
    change ((decide (65 ≤ c.val ∧ c.val ≤ 90) || (decide (97 ≤ c.val) && decide (c.val ≤ 122))) ||
      (decide (48 ≤ c.val) && decide (c.val ≤ 57))) = true at h
    simp only [Bool.or_eq_true, Bool.and_eq_true, decide_eq_true_eq, UInt32.le_iff_toNat_le] at h
    change ((65 ≤ c.toNat ∧ c.toNat ≤ 90) ∨ (97 ≤ c.toNat ∧ c.toNat ≤ 122)) ∨
      (48 ≤ c.toNat ∧ c.toNat ≤ 57) at h
    omega
  unfold isSpaceChar
  simp only [Bool.or_eq_false_iff, Bool.and_eq_false_iff, decide_eq_false_iff_not,
    beq_eq_false_iff_ne]
  omega

/-- The parts of a split text have no separator. -/
theorem no_sep_of_mem_splitOnP {α : Type*} {p : α → Bool} {x part : List α}
    (h : part ∈ x.splitOnP p) : ∀ c ∈ part, p c = false := by
  induction x generalizing part with
  | nil =>
    rw [List.splitOnP_nil, List.mem_singleton] at h
    rw [h]
    nofun
  | cons c x ih =>
    rw [List.splitOnP_cons_eq_if_modifyHead] at h
    cases hc : p c with
    | true =>
      rw [hc, if_pos rfl] at h
      rcases List.mem_cons.mp h with rfl | h
      · nofun
      · exact ih h
    | false =>
      rw [hc, if_neg Bool.false_ne_true] at h
      obtain ⟨y, rest, hsplit⟩ := List.exists_cons_of_ne_nil (List.splitOnP_ne_nil p x)
      rw [hsplit, List.modifyHead_cons] at h
      rw [hsplit] at ih
      rcases List.mem_cons.mp h with rfl | h
      · intro d hd
        rcases List.mem_cons.mp hd with rfl | hd
        · exact hc
        · exact ih List.mem_cons_self d hd
      · exact ih (List.mem_cons_of_mem y h)

theorem isWord_of_mem_words {x w : List Char} (h : w ∈ words x) : IsWord w := by
  obtain ⟨hmem, hne⟩ := List.mem_filter.mp h
  exact ⟨of_decide_eq_true hne, no_sep_of_mem_splitOnP hmem⟩

theorem words_append (x y : List Char) : words (x ++ ' ' :: y) = words x ++ words y := by
  unfold words
  rw [List.splitOnP_append_cons x y (by decide), List.filter_append]

theorem IsWord.words {w : List Char} (h : IsWord w) : Sda.words w = [w] := by
  unfold Sda.words
  rw [List.splitOnP_eq_singleton h.no_space]
  simp [h.ne_nil]

/-! ### Joining -/

section

variable {w : List Char} {ws : List (List Char)}

theorem unwords_cons (hne : ws ≠ []) : unwords (w :: ws) = w ++ ' ' :: unwords ws := by
  unfold unwords
  rw [List.intercalate_cons_of_ne_nil hne, List.append_assoc]
  rfl

theorem unwords_singleton (w : List Char) : unwords [w] = w := List.intercalate_singleton

theorem unwords_eq_nil_iff (h : ∀ w ∈ ws, IsWord w) : unwords ws = [] ↔ ws = [] := by
  constructor
  · intro hnil
    cases ws with
    | nil => rfl
    | cons w ws =>
      exfalso
      have hne := (h w List.mem_cons_self).ne_nil
      rcases eq_or_ne ws [] with rfl | hws
      · rw [unwords_singleton] at hnil
        exact hne hnil
      · rw [unwords_cons hws] at hnil
        exact hne (List.append_eq_nil_iff.mp hnil).1
  · rintro rfl
    rfl

/-- **The words of joined words.** -/
theorem words_unwords (h : ∀ w ∈ ws, IsWord w) : words (unwords ws) = ws := by
  induction ws with
  | nil => rfl
  | cons w ws ih =>
    have hw := h w List.mem_cons_self
    rcases eq_or_ne ws [] with rfl | hne
    · rw [unwords_singleton, hw.words]
    · rw [unwords_cons hne, words_append, hw.words,
        ih fun v hv => h v (List.mem_cons_of_mem w hv)]
      rfl

/-! ### Cutting -/

theorem IsWord.take (hw : IsWord w) {room : Nat} (hroom : room ≠ 0) : IsWord (w.take room) := by
  refine ⟨?_, fun c hc => hw.no_space c (List.mem_of_mem_take hc)⟩
  intro hnil
  rcases List.take_eq_nil_iff.mp hnil with hnil | hnil
  · exact hroom hnil
  · exact hw.ne_nil hnil

theorem isWord_fitting (h : ∀ w ∈ ws, IsWord w) (room : Nat) : ∀ w ∈ fitting room ws, IsWord w := by
  induction ws generalizing room with
  | nil => exact nofun
  | cons w ws ih =>
    have hw := h w List.mem_cons_self
    unfold fitting
    by_cases hroom : room = 0
    · rw [if_pos hroom]
      exact nofun
    by_cases hlong : room < w.length
    · rw [if_neg hroom, if_pos hlong]
      intro v hv
      rw [List.mem_singleton.mp hv]
      exact hw.take hroom
    · rw [if_neg hroom, if_neg hlong]
      intro v hv
      rcases List.mem_cons.mp hv with rfl | hv
      · exact hw
      · exact ih (fun v hv => h v (List.mem_cons_of_mem w hv)) _ v hv

/-- What fits, fits. -/
theorem fitting_fitting (room : Nat) (ws : List (List Char)) :
    fitting room (fitting room ws) = fitting room ws := by
  induction ws generalizing room with
  | nil => rfl
  | cons w ws ih =>
    by_cases hroom : room = 0
    · have hnil : fitting room (w :: ws) = [] := by
        unfold fitting
        rw [if_pos hroom]
      rw [hnil]
      rfl
    by_cases hlong : room < w.length
    · have hcut : fitting room (w :: ws) = [w.take room] := by
        unfold fitting
        rw [if_neg hroom, if_pos hlong]
      rw [hcut]
      unfold fitting
      rw [if_neg hroom, if_neg (by rw [List.length_take]; omega)]
      rfl
    · have hmore : fitting room (w :: ws) = w :: fitting (room - (w.length + 1)) ws := by
        rw [fitting, if_neg hroom, if_neg hlong]
      rw [hmore]
      conv_lhs => rw [fitting, if_neg hroom, if_neg hlong, ih]

/-- Stripping on the right stops at a word. -/
theorem rdropWhile_word (hw : IsWord w) (x : List Char) :
    (w ++ ' ' :: x).rdropWhile isSpaceChar =
      if x.rdropWhile isSpaceChar = [] then w else w ++ ' ' :: x.rdropWhile isSpaceChar := by
  have hback : w.reverse.dropWhile isSpaceChar = w.reverse := by
    apply List.dropWhile_eq_self_iff.mpr
    intro hlength
    rw [hw.no_space _ (List.mem_reverse.mp (List.getElem_mem hlength))]
    exact Bool.false_ne_true
  have hblank : (' ' :: w.reverse).dropWhile isSpaceChar = w.reverse := by
    rw [List.dropWhile_cons_of_pos (by decide), hback]
  unfold List.rdropWhile
  rw [List.reverse_append, List.reverse_cons, List.append_assoc]
  show ((x.reverse ++ ' ' :: w.reverse).dropWhile isSpaceChar).reverse = _
  rw [List.dropWhile_append]
  cases hx : x.reverse.dropWhile isSpaceChar with
  | nil => simp [hblank]
  | cons c y => simp

/-- **A joined text that is cut.**  The induction is on the words: a word that fits stays, and the
blank behind it unless nothing follows. -/
theorem cut_unwords (h : ∀ w ∈ ws, IsWord w) (room : Nat) :
    ((unwords ws).take room).rdropWhile isSpaceChar = unwords (fitting room ws) := by
  have hstrip : ∀ {v : List Char}, IsWord v → v.rdropWhile isSpaceChar = v := by
    intro v hv
    apply List.rdropWhile_eq_self_iff.mpr
    intro hne
    rw [hv.no_space _ (List.getLast_mem hne)]
    exact Bool.false_ne_true
  induction ws generalizing room with
  | nil =>
    show (([] : List Char).take room).rdropWhile isSpaceChar = []
    rw [List.take_nil]
    rfl
  | cons w ws ih =>
    have hw := h w List.mem_cons_self
    have hws : ∀ v ∈ ws, IsWord v := fun v hv => h v (List.mem_cons_of_mem w hv)
    unfold fitting
    by_cases hroom : room = 0
    · rw [if_pos hroom, hroom, List.take_zero]
      rfl
    rw [if_neg hroom]
    have hfront : ∀ x, room < w.length → (w ++ x).take room = w.take room := fun x hlong =>
      List.take_append_of_le_length (le_of_lt hlong)
    rcases eq_or_ne ws [] with rfl | hne
    · rw [unwords_singleton]
      by_cases hlong : room < w.length
      · rw [if_pos hlong, hstrip (hw.take hroom), unwords_singleton]
      · rw [if_neg hlong, List.take_of_length_le (not_lt.mp hlong), hstrip hw]
        exact (unwords_singleton w).symm
    rw [unwords_cons hne]
    by_cases hlong : room < w.length
    · rw [if_pos hlong, hfront _ hlong, hstrip (hw.take hroom), unwords_singleton]
    · rw [if_neg hlong, List.take_append, List.take_of_length_le (not_lt.mp hlong)]
      have hfit := isWord_fitting hws (room - (w.length + 1))
      by_cases hfull : room = w.length
      · -- no room for the blank
        have hnone : fitting (room - (w.length + 1)) ws = [] := by
          have hzero : room - (w.length + 1) = 0 := by omega
          rw [hzero]
          cases ws <;> rfl
        rw [hnone, unwords_singleton, hfull, Nat.sub_self, List.take_zero, List.append_nil,
          hstrip hw]
      · obtain ⟨k, hk⟩ : ∃ k, room - w.length = k + 1 := ⟨room - w.length - 1, by omega⟩
        have hrest : room - (w.length + 1) = k := by omega
        rw [hk, List.take_succ_cons, rdropWhile_word hw, ih hws, hrest]
        by_cases hnil : fitting k ws = []
        · rw [hnil, unwords_singleton]
          exact if_pos rfl
        · rw [hrest] at hfit
          rw [if_neg fun h => hnil ((unwords_eq_nil_iff hfit).mp h), unwords_cons hnil]

end

end Sda
