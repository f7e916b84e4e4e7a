/-
Sda/Lib/Windows.lean

Two ways to count events in a window of time.

A sliding window looks back from every event: `recent width now ts` events of `ts` lie within
`width` before `now`.  A tumbling window is one start and one counter: the first event after the
window has passed opens the next one (`Tumbling.add`).

`Tumbling.Counts` says what such a window knows of the events, newest first: its counter is the
number of events since its start, and the start is near.  `lt_count_iff_lt_recent` says when the
two counts agree on a threshold: they do unless an event that is still near fell into the window
before.
-/
import Mathlib.Data.List.Basic

namespace Sda

variable {α : Type*} {p : α → Bool} {l : List α}

/-- Where `p` holds of a first part of a list, it holds of more than `n` elements exactly when it
holds of the element at `n`. -/
theorem lt_countP_iff (h : l.Pairwise (fun a b => p b = true → p a = true)) (n : Nat) :
    n < l.countP p ↔ ∃ a, l[n]? = some a ∧ p a = true := by
  induction l generalizing n with
  | nil => simp
  | cons a l ih =>
    obtain ⟨hhead, htail⟩ := List.pairwise_cons.mp h
    by_cases ha : p a = true
    · rw [List.countP_cons_of_pos ha]
      cases n with
      | zero => simp [ha]
      | succ n =>
        rw [Nat.succ_lt_succ_iff, List.getElem?_cons_succ]
        exact ih htail n
    · -- nothing after `a` either
      have hnone : ∀ b ∈ l, ¬ p b = true := fun b hb hp => ha (hhead b hb hp)
      rw [List.countP_cons_of_neg ha, List.countP_eq_zero.mpr hnone]
      apply iff_of_false (Nat.not_lt_zero n)
      rintro ⟨b, hb, hp⟩
      rcases List.mem_cons.mp (List.mem_of_getElem? hb) with rfl | hmem
      · exact ha hp
      · exact hnone b hmem hp

/-! ### The two windows -/

/-- How many of the events lie within `width` before `now`. -/
def recent (width now : Nat) (ts : List Nat) : Nat :=
  ts.countP fun t => decide (now - t ≤ width)

/-- A window that is one start and one counter. -/
structure Tumbling where
  start : Option Nat := none
  count : Nat := 0
  deriving DecidableEq, Repr

/-- The window has passed, or none was opened. -/
def Tumbling.over (width : Nat) (w : Tumbling) (now : Nat) : Bool :=
  match w.start with
  | none => true
  | some start => decide (width < now - start)

/-- An event: the first one after the window opens the next. -/
def Tumbling.add (width : Nat) (w : Tumbling) (now : Nat) : Tumbling :=
  if w.over width now then ⟨some now, 1⟩ else { w with count := w.count + 1 }

/-- What a window knows of the events so far, newest first. -/
def Tumbling.Counts (width : Nat) (w : Tumbling) : List Nat → Prop
  | [] => w.start = none
  | newest :: older => ∃ start, w.start = some start ∧ start ≤ newest ∧ newest - start ≤ width ∧
      w.count = (newest :: older).countP fun t => decide (start ≤ t)

variable {width now n : Nat} {w : Tumbling} {ts : List Nat}

/-- When a window has passed, every event so far is before now. -/
theorem Tumbling.Counts.lt_of_over (h : w.Counts width ts) (hts : ts.Pairwise (· ≥ ·))
    (hover : w.over width now = true) (t : Nat) (ht : t ∈ ts) : t < now := by
  cases ts with
  | nil => cases ht
  | cons newest older =>
    obtain ⟨start, hstart, -, hnear, -⟩ := h
    have hfar : width < now - start := by simpa [Tumbling.over, hstart] using hover
    have hle : t ≤ newest := by
      rcases List.mem_cons.mp ht with rfl | hold
      · exact Nat.le_refl _
      · exact (List.pairwise_cons.mp hts).1 t hold
    omega

/-- **One event.** -/
theorem Tumbling.Counts.add (h : w.Counts width ts) (hts : (now :: ts).Pairwise (· ≥ ·)) :
    (w.add width now).Counts width (now :: ts) := by
  obtain ⟨hnow, hts⟩ := List.pairwise_cons.mp hts
  by_cases hover : w.over width now = true
  · have hnone : ts.countP (fun t => decide (now ≤ t)) = 0 := by
      apply List.countP_eq_zero.mpr
      intro t ht
      have := h.lt_of_over hts hover t ht
      simpa using this
    rw [Tumbling.add, if_pos hover]
    refine ⟨now, rfl, Nat.le_refl _, by omega, ?_⟩
    rw [List.countP_cons_of_pos (by simp), hnone]
  · rw [Tumbling.add, if_neg hover]
    cases ts with
    | nil => exact absurd (by rw [Tumbling.over, show w.start = none from h]) hover
    | cons newest older =>
      obtain ⟨start, hstart, hle, -, hcount⟩ := h
      have hnear : ¬ width < now - start := by simpa [Tumbling.over, hstart] using hover
      have hlast : newest ≤ now := hnow newest (List.mem_cons_self ..)
      refine ⟨start, hstart, by omega, by omega, ?_⟩
      show w.count + 1 = _
      rw [hcount, List.countP_cons_of_pos (a := now) (by simp; omega)]

/-- The sliding count passes `n` exactly when the event `n` before is near. -/
theorem lt_recent_iff (hts : (now :: ts).Pairwise (· ≥ ·)) (n : Nat) :
    n < recent width now (now :: ts) ↔ ∃ t, (now :: ts)[n]? = some t ∧ now - t ≤ width := by
  unfold recent
  rw [lt_countP_iff]
  · simp
  · apply hts.imp
    intro a b hab hb
    simp only [decide_eq_true_eq] at hb ⊢
    omega

/-- The tumbling count passes `n` exactly when the event `n` before lies in the window. -/
theorem Tumbling.Counts.lt_count_iff (h : (w.add width now).Counts width (now :: ts))
    (hts : (now :: ts).Pairwise (· ≥ ·)) (n : Nat) :
    n < (w.add width now).count ↔
      ∃ t start, (now :: ts)[n]? = some t ∧ (w.add width now).start = some start ∧
        start ≤ t := by
  obtain ⟨start, hstart, -, -, hcount⟩ := h
  rw [hcount, lt_countP_iff]
  · constructor
    · rintro ⟨t, ht, hle⟩
      exact ⟨t, start, ht, hstart, by simpa using hle⟩
    · rintro ⟨t, start', ht, hstart', hle⟩
      rw [hstart] at hstart'
      cases hstart'
      exact ⟨t, ht, by simpa using hle⟩
  · apply hts.imp
    intro a b hab hb
    simp only [decide_eq_true_eq] at hb ⊢
    omega

/-- What lies in the window after an event is near. -/
theorem Tumbling.Counts.near (h : (w.add width now).Counts width (now :: ts)) {start t : Nat}
    (hstart : (w.add width now).start = some start) (ht : start ≤ t) : now - t ≤ width := by
  obtain ⟨start', hstart', -, hnear, -⟩ := h
  rw [hstart] at hstart'
  cases hstart'
  omega

/-- **The two windows.**  They agree on whether an event is more than the `n + 1`st exactly
unless the event that many before is near and in no window that goes on. -/
theorem Tumbling.Counts.lt_count_iff_lt_recent (h : w.Counts width ts)
    (hts : (now :: ts).Pairwise (· ≥ ·)) (n : Nat) :
    (n + 1 < (w.add width now).count ↔ n + 1 < recent width now (now :: ts)) ↔
      ∀ t, ts[n]? = some t → now - t ≤ width →
        w.over width now = false ∧ ∃ start, w.start = some start ∧ start ≤ t := by
  have hadd := h.add hts
  have hold := (List.pairwise_cons.mp hts).2
  rw [hadd.lt_count_iff hts, lt_recent_iff hts, List.getElem?_cons_succ]
  constructor
  · intro hagree t ht hnear
    obtain ⟨t', start, ht', hstart, hle⟩ := hagree.mpr ⟨t, ht, hnear⟩
    rw [ht] at ht'
    cases ht'
    by_cases hover : w.over width now = true
    · -- the window just opened holds no earlier event
      rw [Tumbling.add, if_pos hover] at hstart
      cases hstart
      have := h.lt_of_over hold hover t (List.mem_of_getElem? ht)
      omega
    · rw [Tumbling.add, if_neg hover] at hstart
      exact ⟨Bool.not_eq_true _ ▸ hover, start, hstart, hle⟩
  · intro hin
    constructor
    · rintro ⟨t, start, ht, hstart, hle⟩
      exact ⟨t, ht, hadd.near hstart hle⟩
    · rintro ⟨t, ht, hnear⟩
      obtain ⟨hover, start, hstart, hle⟩ := hin t ht hnear
      refine ⟨t, start, ht, ?_, hle⟩
      rw [Tumbling.add, hover]
      exact hstart

end Sda
