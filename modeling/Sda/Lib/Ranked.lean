/-
Sda/Lib/Ranked.lean

Searching a list with several tests, the better ones first.

`pick tests l` is the first element that passes the first test which any element passes.  So a
later test counts only where all earlier ones fail on the whole list, which is not what one search
for either of two tests gives:

* `pick_merge_iff` — two tests in a row are one test exactly if nothing that passes the second
  stands before the first element that passes the first;
* `pick_drop_iff` — the last test can be left out exactly if an earlier one finds something, or
  nothing passes it.
-/
import Mathlib.Data.List.Basic

namespace Sda

variable {α : Type*} {p q : α → Bool} {tests : List (α → Bool)} {l : List α} {a x : α}

/-- The first element that passes the first test which any element passes. -/
def pick (tests : List (α → Bool)) (l : List α) : Option α :=
  tests.findSome? fun p => l.find? p

/-- The element is the first that passes. -/
def First (p : α → Bool) (l : List α) (a : α) : Prop :=
  ∃ front back, l = front ++ a :: back ∧ p a = true ∧ ∀ x ∈ front, p x = false

/-- Nothing that passes `q` stands before the first element that passes `p`. -/
def NoneBefore (q p : α → Bool) (l : List α) : Prop :=
  ∀ front a back, l = front ++ a :: back → p a = true → (∀ x ∈ front, p x = false) →
    ∀ x ∈ front, q x = false

@[simp] theorem pick_nil (l : List α) : pick [] l = none := rfl

theorem pick_cons (p : α → Bool) (tests : List (α → Bool)) (l : List α) :
    pick (p :: tests) l = (l.find? p).or (pick tests l) := by
  unfold pick
  rw [List.findSome?_cons]
  rcases l.find? p with - | a <;> rfl

theorem first_iff : First p l a ↔ l.find? p = some a := by
  rw [List.find?_eq_some_iff_append]
  constructor
  · rintro ⟨front, back, rfl, ha, hfront⟩
    exact ⟨ha, front, back, rfl, fun x hx => by rw [hfront x hx]; rfl⟩
  · rintro ⟨ha, front, back, rfl, hfront⟩
    exact ⟨front, back, rfl, ha, fun x hx => by simpa using hfront x hx⟩

/-- A test that finds nothing fails everywhere. -/
theorem find?_none_iff : l.find? p = none ↔ ∀ x ∈ l, p x = false := by
  rw [List.find?_eq_none]
  simp only [Bool.not_eq_true]

/-- A test that finds something decides. -/
theorem pick_of_pass (hx : x ∈ l) (h : p x = true) : pick (p :: tests) l = l.find? p := by
  rw [pick_cons]
  rcases hfind : l.find? p with - | a
  · rw [find?_none_iff.mp hfind x hx] at h
    cases h
  · rfl

/-- A test that finds nothing is passed over. -/
theorem pick_of_fail (h : ∀ x ∈ l, p x = false) : pick (p :: tests) l = pick tests l := by
  rw [pick_cons, find?_none_iff.mpr h]
  rfl

theorem pick_eq_none_iff : pick tests l = none ↔ ∀ p ∈ tests, ∀ x ∈ l, p x = false := by
  unfold pick
  rw [List.findSome?_eq_none_iff]
  exact forall₂_congr fun _ _ => find?_none_iff

theorem pick_eq_some_iff :
    pick (p :: tests) l = some a ↔
      First p l a ∨ (∀ x ∈ l, p x = false) ∧ pick tests l = some a := by
  rw [pick_cons, first_iff, ← find?_none_iff]
  rcases l.find? p with - | b
  · simp
  · simp

/-! ### Two tests in one search -/

theorem noneBefore_of_pass (h : p a = true) : NoneBefore q p (a :: l) := by
  intro front b back hsplit _ hfront x hx
  rcases front with - | ⟨c, front⟩
  · cases hx
  · cases hsplit
    rw [hfront a (List.mem_cons_self ..)] at h
    cases h

theorem noneBefore_of_fail (hp : p a = false) (hq : q a = false) :
    NoneBefore q p (a :: l) ↔ NoneBefore q p l := by
  constructor
  · rintro h front b back rfl hb hfront x hx
    exact h (a :: front) b back rfl hb (List.forall_mem_cons.mpr ⟨hp, hfront⟩) x
      (List.mem_cons_of_mem a hx)
  · intro h front b back hsplit hb hfront x hx
    rcases front with - | ⟨c, front⟩
    · cases hx
    · cases hsplit
      rcases List.mem_cons.mp hx with rfl | hx
      · exact hq
      · exact h front b back rfl hb (fun y hy => hfront y (List.mem_cons_of_mem _ hy)) x hx

theorem noneBefore_of_second (hp : p a = false) (hq : q a = true) :
    NoneBefore q p (a :: l) ↔ ∀ x ∈ l, p x = false := by
  constructor
  · intro h
    rw [← find?_none_iff]
    rcases hfind : l.find? p with - | b
    · rfl
    · obtain ⟨front, back, rfl, hb, hfront⟩ := first_iff.mpr hfind
      have hno := h (a :: front) b back rfl hb (List.forall_mem_cons.mpr ⟨hp, hfront⟩) a
        (List.mem_cons_self ..)
      rw [hq] at hno
      cases hno
  · intro h front b back hsplit hb
    have hmem : b ∈ a :: l := by
      rw [hsplit]
      exact List.mem_append_right front (List.mem_cons_self ..)
    rcases List.mem_cons.mp hmem with rfl | hl
    · rw [hp] at hb
      cases hb
    · rw [h b hl] at hb
      cases hb

/-- **One search for either test** is the search for the first and then for the second, exactly if
the second has nothing to find before the first. -/
theorem find?_either_iff (p q : α → Bool) (l : List α) :
    (l.find? p).or (l.find? q) = l.find? (fun x => p x || q x) ↔ NoneBefore q p l := by
  induction l with
  | nil => exact iff_of_true rfl fun front a back h => absurd h (by simp)
  | cons a l ih =>
    rw [List.find?_cons, List.find?_cons, List.find?_cons]
    cases hp : p a with
    | true => exact iff_of_true rfl (noneBefore_of_pass hp)
    | false =>
      cases hq : q a with
      | false => exact ih.trans (noneBefore_of_fail hp hq).symm
      | true =>
        rw [noneBefore_of_second hp hq, ← find?_none_iff]
        rcases hfind : l.find? p with - | b
        · exact iff_of_true rfl rfl
        · refine iff_of_false (fun heq => ?_) nofun
          have hb : p b = true := List.find?_some hfind
          cases heq
          rw [hp] at hb
          cases hb

/-- **Two tests in a row** are one test. -/
theorem pick_merge_iff (p q : α → Bool) (tests : List (α → Bool)) (l : List α) :
    pick (p :: q :: tests) l = pick ((fun x => p x || q x) :: tests) l ↔ NoneBefore q p l := by
  rw [pick_cons, pick_cons, pick_cons, ← find?_either_iff, ← Option.or_assoc]
  rcases hfind : l.find? fun x => p x || q x with - | a
  · -- nothing passes either test
    have hnone := find?_none_iff.mp hfind
    have hp : l.find? p = none :=
      find?_none_iff.mpr fun x hx => (Bool.or_eq_false_iff.mp (hnone x hx)).1
    have hq : l.find? q = none :=
      find?_none_iff.mpr fun x hx => (Bool.or_eq_false_iff.mp (hnone x hx)).2
    rw [hp, hq]
    exact iff_of_true rfl rfl
  · rcases hpair : (l.find? p).or (l.find? q) with - | b
    · rw [Option.or_eq_none_iff, find?_none_iff, find?_none_iff] at hpair
      have ha : (p a || q a) = true := List.find?_some (p := fun x => p x || q x) hfind
      have hmem := List.mem_of_find?_eq_some hfind
      rw [hpair.1 a hmem, hpair.2 a hmem] at ha
      cases ha
    · exact Iff.rfl

/-- **The last test** can be left out. -/
theorem pick_drop_iff (tests : List (α → Bool)) (q : α → Bool) (l : List α) :
    pick (tests ++ [q]) l = pick tests l ↔ (∃ p ∈ tests, ∃ x ∈ l, p x = true) ∨
      ∀ x ∈ l, q x = false := by
  have hsplit : pick (tests ++ [q]) l = (pick tests l).or (l.find? q) := by
    unfold pick
    rw [List.findSome?_append, List.findSome?_cons, List.findSome?_nil]
    rcases l.find? q with - | a <;> rfl
  rw [hsplit, ← find?_none_iff]
  rcases hpick : pick tests l with - | a
  · rw [pick_eq_none_iff] at hpick
    constructor
    · exact Or.inr
    · rintro (⟨p, hp, x, hx, hpass⟩ | h)
      · rw [hpick p hp x hx] at hpass
        cases hpass
      · exact h
  · refine iff_of_true rfl (Or.inl ?_)
    obtain ⟨p, hp, hfind⟩ := List.exists_of_findSome?_eq_some hpick
    exact ⟨p, hp, a, List.mem_of_find?_eq_some hfind, List.find?_some hfind⟩

end Sda
