/-
Sda/Lib/Search.lean

What a search with a pattern finds, and what a substitution leaves.

A pattern that cannot match the empty text (`Needs`) is found somewhere exactly if the substitution
changes the text; where each match loses more of some class of characters than comes in for it, there
are fewer of them afterwards (`countP_sub_lt`).

Main results: `sub_of_search_none`, `countP_sub_lt`, `search_alt_eq_none_iff`, `mem_go_times`.
-/
import Mathlib.Data.List.Basic
import Sda.Lib.Regex

namespace Sda.Re

variable {r s : Re} {A : Char → Prop} {rep : List Char → List Char} {b : Option Char}
  {x m : List Char}

/-! ### A character that every match reads -/

def Needs (A : Char → Prop) : Re → Prop
  | .chars p => ∀ c, p c = true → A c
  | .seq r s => Needs A r ∨ Needs A s
  | .alt r s => Needs A r ∧ Needs A s
  | _ => False

theorem needs_of_mem (h : r.Needs A) {i j : Place} (hj : j ∈ go r i) :
    ∃ m, i.2 = m ++ j.2 ∧ ∃ c ∈ m, A c := by
  induction r generalizing i j with
  | chars p =>
    obtain ⟨b, x⟩ := i
    cases x with
    | nil => cases hj
    | cons c x =>
      unfold go at hj
      split at hj
      · next hc =>
        rw [List.mem_singleton.mp hj]
        exact ⟨[c], rfl, c, List.mem_cons_self, h c hc⟩
      · cases hj
  | seq r s ihr ihs =>
    obtain ⟨k, hk, hj⟩ := List.mem_flatMap.mp hj
    obtain ⟨y, hy, -, -⟩ := ends_of_mem hk
    obtain ⟨z, hz, -, -⟩ := ends_of_mem hj
    rcases h with hr | hs
    · obtain ⟨m, hm, c, hc, hA⟩ := ihr hr hk
      exact ⟨m ++ z, by rw [hm, hz, List.append_assoc], c, List.mem_append_left z hc, hA⟩
    · obtain ⟨m, hm, c, hc, hA⟩ := ihs hs hj
      exact ⟨y ++ m, by rw [hy, hm, List.append_assoc], c, List.mem_append_right y hc, hA⟩
  | alt r s ihr ihs =>
    rcases List.mem_append.mp hj with hr | hs
    · exact ihr h.1 hr
    · exact ihs h.2 hs
  | empty | star r ih | notBehind p | notAhead p | boundary word => cases h

theorem Matches.needs (h : r.Matches m) (hr : r.Needs A) : ∃ c ∈ m, A c := by
  obtain ⟨b, x, j, hj, hx⟩ := h
  obtain ⟨n, htext, hn⟩ := needs_of_mem hr hj
  have hmn : m = n := by
    have hends : m ++ j.2 = n ++ j.2 := by
      rw [← htext, hx]
    exact List.append_cancel_right hends
  rw [hmn]
  exact hn

theorem first_eq_none_iff (h : r.Needs A) : r.first b x = none ↔ go r (b, x) = [] := by
  unfold first
  cases hgo : go r (b, x) with
  | nil => exact iff_of_true rfl rfl
  | cons j rest =>
    have hmem : j ∈ go r (b, x) := by
      rw [hgo]
      exact List.mem_cons_self
    obtain ⟨m, hm, c, hc, -⟩ := needs_of_mem h hmem
    have hlt : j.2.length < x.length := by
      have hlength := congrArg List.length hm
      rw [List.length_append] at hlength
      have := List.length_pos_of_mem hc
      show _ < (b, x).2.length
      omega
    refine iff_of_false (fun hnone => ?_) (List.cons_ne_nil _ _)
    have hfirst : (if j.2.length < x.length then some (x.length - j.2.length) else none) = none :=
      hnone
    rw [if_pos hlt] at hfirst
    cases hfirst

/-- **The second pattern is tried where the first one finds nothing.** -/
theorem first_alt (h : r.Needs A) (s : Re) (b : Option Char) (x : List Char) :
    (alt r s).first b x = (r.first b x).or (s.first b x) := by
  have hgo : go (alt r s) (b, x) = go r (b, x) ++ go s (b, x) := rfl
  cases hfirst : r.first b x with
  | none =>
    have hnil := (first_eq_none_iff h).mp hfirst
    unfold first
    rw [hgo, hnil]
    rfl
  | some n =>
    unfold first at hfirst ⊢
    rw [hgo]
    cases hr : go r (b, x) with
    | nil =>
      rw [hr] at hfirst
      cases hfirst
    | cons j rest =>
      rw [hr] at hfirst
      exact hfirst

/-! ### Searching -/

/-- Nothing is found where nothing begins. -/
theorem search_cons_eq_none_iff (c : Char) :
    search r b (c :: x) = none ↔ r.first b (c :: x) = none ∧ search r (some c) x = none := by
  cases hfirst : r.first b (c :: x) with
  | none =>
    rw [search_of_none hfirst]
    exact ⟨fun h => ⟨rfl, h⟩, fun h => h.2⟩
  | some n =>
    rw [search_of_first hfirst]
    exact iff_of_false (by nofun) (by nofun)

theorem search_alt_eq_none_iff (h : r.Needs A) :
    (alt r s).search b x = none ↔ r.search b x = none ∧ s.search b x = none := by
  induction x generalizing b with
  | nil => exact iff_of_true rfl ⟨rfl, rfl⟩
  | cons c x ih =>
    rw [search_cons_eq_none_iff, search_cons_eq_none_iff, search_cons_eq_none_iff, first_alt h,
      Option.or_eq_none_iff, ih]
    exact and_and_and_comm

/-- Where the one pattern is nowhere, the other one is searched. -/
theorem search_alt_right (h : r.Needs A) (hnone : r.search b x = none) :
    (alt r s).search b x = s.search b x := by
  induction x generalizing b with
  | nil => rfl
  | cons c x ih =>
    obtain ⟨hfirst, hrest⟩ := (search_cons_eq_none_iff c).mp hnone
    rw [search, search, first_alt h, hfirst, Option.none_or, ih hrest]

theorem search_alt_left (h : r.Needs A) (hnone : s.search b x = none) :
    (alt r s).search b x = r.search b x := by
  induction x generalizing b with
  | nil => rfl
  | cons c x ih =>
    obtain ⟨hfirst, hrest⟩ := (search_cons_eq_none_iff c).mp hnone
    rw [search, search, first_alt h, hfirst, Option.or_none, ih hrest]

/-- What is found is a match. -/
theorem search_some (h : search r b x = some m) : r.Matches m ∧ m ≠ [] := by
  induction x generalizing b with
  | nil => cases h
  | cons c x ih =>
    cases hfirst : r.first b (c :: x) with
    | none =>
      rw [search_of_none hfirst] at h
      exact ih h
    | some n =>
      rw [search_of_first hfirst] at h
      obtain ⟨hpos, hle, j, hj, htext, hdrop⟩ := first_some hfirst
      rw [← Option.some.inj h]
      constructor
      · refine ⟨b, (c :: x).drop n, j, ?_, hdrop⟩
        rw [List.take_append_drop]
        exact hj
      · intro hnil
        have hlength := congrArg List.length hnil
        rw [List.length_take_of_le hle] at hlength
        exact absurd hlength (Nat.ne_of_gt hpos)

/-! ### Substituting -/

/-- **A substitution with nothing to find changes nothing.** -/
theorem sub_of_search_none (h : search r b x = none) : sub r rep b 0 x = x := by
  induction x generalizing b with
  | nil => rfl
  | cons c x ih =>
    obtain ⟨hfirst, hrest⟩ := (search_cons_eq_none_iff c).mp h
    rw [sub, hfirst]
    exact congrArg (c :: ·) (ih hrest)

theorem Rewrites.countP_le {M : List Char → Prop} {y : List Char} (h : Rewrites M rep x y)
    {p : Char → Bool} (hrep : ∀ m, M m → (rep m).countP p ≤ m.countP p) :
    y.countP p ≤ x.countP p := by
  induction h with
  | nil => exact le_refl _
  | keep c _ ih =>
    rw [List.countP_cons, List.countP_cons]
    exact Nat.add_le_add_right ih _
  | replace m _ hM _ ih =>
    rw [List.countP_append, List.countP_append]
    exact Nat.add_le_add (hrep m hM) ih

/-- **A substitution with something to find takes characters away**, if each replacement does. -/
theorem countP_sub_lt {p : Char → Bool} (h : search r b x ≠ none)
    (hrep : ∀ m, r.Matches m → (rep m).countP p < m.countP p) :
    (sub r rep b 0 x).countP p < x.countP p := by
  induction x generalizing b with
  | nil => exact absurd rfl h
  | cons c x ih =>
    rw [sub]
    cases hfirst : r.first b (c :: x) with
    | none =>
      rw [search_of_none hfirst] at h
      show List.countP p (c :: _) < _
      rw [List.countP_cons, List.countP_cons]
      exact Nat.add_lt_add_right (ih h) _
    | some n =>
      obtain ⟨hpos, hle, j, hj, htext, hdrop⟩ := first_some hfirst
      obtain ⟨n, rfl⟩ : ∃ k, n = k + 1 := ⟨n - 1, by omega⟩
      rw [List.length_cons] at hle
      have hmatch : r.Matches ((c :: x).take (n + 1)) := by
        refine ⟨b, (c :: x).drop (n + 1), j, ?_, hdrop⟩
        rw [List.take_append_drop]
        exact hj
      have hrest := (sub_rewrites r rep (last (some c) (x.take n)) (x.drop n)).countP_le
        fun m hm => le_of_lt (hrep m hm)
      have hcount : (c :: x).countP p = ((c :: x).take (n + 1)).countP p + (x.drop n).countP p := by
        rw [← List.countP_append]
        exact congrArg _ (List.take_append_drop (n + 1) (c :: x)).symm
      show (rep ((c :: x).take (n + 1)) ++ sub r rep (some c) n x).countP p < _
      rw [sub_skip (Nat.le_of_succ_le_succ hle), List.countP_append, hcount]
      exact Nat.add_lt_add_of_lt_of_le (hrep _ hmatch) hrest

/-! ### The character in front -/

/-- The pattern begins with reading a character. -/
def Starts : Re → Prop
  | .chars _ => True
  | .seq r _ => Starts r
  | .alt r s => Starts r ∧ Starts s
  | _ => False

/-- It does not see what is in front of the text. -/
theorem go_starts (h : r.Starts) (b b' : Option Char) (x : List Char) :
    go r (b, x) = go r (b', x) := by
  induction r with
  | chars p => cases x <;> rfl
  | seq r s ihr ihs =>
    show (go r (b, x)).flatMap (go s) = (go r (b', x)).flatMap (go s)
    rw [ihr h]
  | alt r s ihr ihs =>
    show go r (b, x) ++ go s (b, x) = go r (b', x) ++ go s (b', x)
    rw [ihr h.1, ihs h.2]
  | empty | star r ih | notBehind p | notAhead p | boundary word => cases h

theorem search_congr_front {b' : Option Char} (h : go r (b, x) = go r (b', x)) :
    search r b x = search r b' x := by
  cases x with
  | nil => rfl
  | cons c x =>
    have hfirst : r.first b (c :: x) = r.first b' (c :: x) := by
      unfold first
      rw [h]
    rw [search, search, hfirst]

/-! ### Repetitions -/

theorem mem_go_chars {p : Char → Bool} {i j : Place} (h : j ∈ go (.chars p) i) :
    ∃ c, i.2 = c :: j.2 ∧ j.1 = some c ∧ p c = true := by
  obtain ⟨b, x⟩ := i
  cases x with
  | nil => cases h
  | cons c x =>
    unfold go at h
    split at h
    · next hc =>
      rw [List.mem_singleton.mp h]
      exact ⟨c, rfl, rfl, hc⟩
    · cases h

theorem mem_go_upTo {p : Char → Bool} {n : Nat} {i j : Place} (h : j ∈ go (upTo (.chars p) n) i) :
    ∃ w, i.2 = w ++ j.2 ∧ j.1 = last i.1 w ∧ (∀ c ∈ w, p c = true) ∧ w.length ≤ n := by
  induction n generalizing i with
  | zero =>
    rw [List.mem_singleton.mp h]
    exact ⟨[], rfl, rfl, nofun, le_refl _⟩
  | succ n ih =>
    rcases List.mem_append.mp h with h | h
    · obtain ⟨k, hk, hj⟩ := List.mem_flatMap.mp h
      obtain ⟨c, htext, hlast, hc⟩ := mem_go_chars hk
      obtain ⟨w, htext', hlast', hw, hlength⟩ := ih hj
      refine ⟨c :: w, ?_, ?_, ?_, Nat.succ_le_succ hlength⟩
      · rw [htext, htext']
        rfl
      · rw [hlast', hlast]
        exact (last_append i.1 [c] w).symm
      · intro d hd
        rcases List.mem_cons.mp hd with rfl | hd
        · exact hc
        · exact hw d hd
    · rw [List.mem_singleton.mp h]
      exact ⟨[], rfl, rfl, nofun, Nat.zero_le _⟩

/-- **What a bounded repetition reads.** -/
theorem mem_go_times {p : Char → Bool} {m n : Nat} {i j : Place}
    (h : j ∈ go (times (.chars p) m n) i) :
    ∃ w, i.2 = w ++ j.2 ∧ j.1 = last i.1 w ∧ (∀ c ∈ w, p c = true) ∧ m ≤ w.length ∧
      w.length ≤ m + n := by
  induction m generalizing i with
  | zero =>
    obtain ⟨w, htext, hlast, hw, hlength⟩ := mem_go_upTo h
    exact ⟨w, htext, hlast, hw, Nat.zero_le _, by omega⟩
  | succ m ih =>
    obtain ⟨k, hk, hj⟩ := List.mem_flatMap.mp h
    obtain ⟨c, htext, hlast, hc⟩ := mem_go_chars hk
    obtain ⟨w, htext', hlast', hw, hmin, hmax⟩ := ih hj
    refine ⟨c :: w, ?_, ?_, ?_, Nat.succ_le_succ hmin, ?_⟩
    · rw [htext, htext']
      rfl
    · rw [hlast', hlast]
      exact (last_append i.1 [c] w).symm
    · intro d hd
      rcases List.mem_cons.mp hd with rfl | hd
      · exact hc
      · exact hw d hd
    · rw [List.length_cons]
      omega

end Sda.Re
