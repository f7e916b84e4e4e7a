/-
Sda/Lib/Chars.lean

String operations on lists of characters that need more than one character at a time: searching
for a text from the left and from the right, splitting at a text, joining, slicing.
-/
import Sda.Lib.Text

namespace Sda

/-- `s.strip()`. -/
def stripChars (s : List Char) : List Char := (s.dropWhile isSpaceChar).rdropWhile isSpaceChar

/-- What is stripped at the right keeps its first character. -/
theorem dropWhile_rdropWhile {α : Type*} (p : α → Bool) (s : List α) :
    ((s.dropWhile p).rdropWhile p).dropWhile p = (s.dropWhile p).rdropWhile p := by
  apply List.dropWhile_eq_self_iff.mpr
  intro hpos
  have hpre := List.rdropWhile_prefix p (l := s.dropWhile p)
  rw [hpre.getElem hpos]
  exact List.dropWhile_eq_self_iff.mp (List.dropWhile_idempotent ..) (hpos.trans_le hpre.length_le)

/-- A stripped text has nothing to strip. -/
@[simp] theorem stripChars_stripChars (s : List Char) :
    stripChars (stripChars s) = stripChars s := by
  unfold stripChars
  rw [dropWhile_rdropWhile]
  exact List.rdropWhile_idempotent ..

/-- `s.find(pat)`, none where it is -1. -/
def findChars (pat : List Char) : List Char → Option Nat
  | [] => if pat.isEmpty then some 0 else none
  | c :: cs =>
      if pat.isPrefixOf (c :: cs) then some 0 else (findChars pat cs).map (· + 1)

theorem findChars_front {pat s : List Char} (h : pat <+: s) : findChars pat s = some 0 := by
  cases s with
  | nil =>
    rw [List.prefix_nil.mp h]
    rfl
  | cons c cs => exact if_pos (List.isPrefixOf_iff_prefix.mpr h)

/-- Nothing is found only where the text is nowhere. -/
theorem findChars_eq_none_iff {pat s : List Char} : findChars pat s = none ↔ ¬pat <:+: s := by
  induction s with
  | nil => cases pat <;> simp [findChars]
  | cons c cs ih =>
    unfold findChars
    rw [List.infix_cons_iff]
    by_cases h : pat.isPrefixOf (c :: cs) = true
    · rw [if_pos h]
      simp [List.isPrefixOf_iff_prefix.mp h]
    · have hfront : ¬pat <+: c :: cs := fun hp => h (List.isPrefixOf_iff_prefix.mpr hp)
      rw [if_neg h, Option.map_eq_none_iff, ih, or_iff_right hfront]

/-- `s.rfind(pat)`, none where it is -1. -/
def rfindChars (pat : List Char) : List Char → Option Nat
  | [] => if pat.isEmpty then some 0 else none
  | c :: cs =>
      match rfindChars pat cs with
      | some i => some (i + 1)
      | none => if pat.isPrefixOf (c :: cs) then some 0 else none

/-- The loop of `splitChars`: `skip` characters of a separator are still to be passed. -/
def splitCharsFrom (sep : List Char) : Nat → List Char → List Char → List (List Char)
  | _, acc, [] => [acc]
  | skip + 1, acc, _ :: cs => splitCharsFrom sep skip acc cs
  | 0, acc, c :: cs =>
      if sep.isPrefixOf (c :: cs) then
        acc :: splitCharsFrom sep (sep.length - 1) [] cs
      else
        splitCharsFrom sep 0 (acc ++ [c]) cs

/-- `s.split(sep)`, for a separator that is not empty. -/
def splitChars (sep s : List Char) : List (List Char) := splitCharsFrom sep 0 [] s

/-- `sep.join(parts)`. -/
def joinChars (sep : List Char) (parts : List (List Char)) : List Char :=
  List.intercalate sep parts

/-- `xs[:n]`: a negative bound counts from the end. -/
def sliceTo {α : Type*} (xs : List α) (n : Int) : List α :=
  xs.take (if 0 ≤ n then n.toNat else xs.length - n.natAbs)

example : splitChars " | ".toList "a | b |  | c".toList = ["a", "b", "", "c"].map String.toList := by
  decide

/-! ### A text across a character it does not have -/

theorem prefix_cut_iff {c : Char} {w x y : List Char} (hw : c ∉ w) :
    w <+: x ++ c :: y ↔ w <+: x := by
  induction x generalizing w with
  | nil =>
    cases w with
    | nil => simp
    | cons d w =>
      have hne : d ≠ c := fun h => hw (h ▸ List.mem_cons_self)
      simp [List.cons_prefix_cons, hne]
  | cons d x ih =>
    cases w with
    | nil => simp
    | cons e w =>
      have hrest : c ∉ w := fun h => hw (List.mem_cons_of_mem e h)
      rw [List.cons_append, List.cons_prefix_cons, List.cons_prefix_cons, ih hrest]

/-- It stands on the one side or on the other. -/
theorem infix_cut_iff {c : Char} {w x y : List Char} (hw : c ∉ w) :
    w <:+: x ++ c :: y ↔ w <:+: x ∨ w <:+: y := by
  induction x with
  | nil =>
    rw [List.nil_append, List.infix_cons_iff]
    cases w with
    | nil => simp
    | cons d w =>
      have hne : d ≠ c := fun h => hw (h ▸ List.mem_cons_self)
      simp [List.cons_prefix_cons, hne]
  | cons d x ih =>
    rw [List.cons_append, List.infix_cons_iff, List.infix_cons_iff, ih, ← List.cons_append,
      prefix_cut_iff hw, or_assoc]

/-- `pat in s` -/
theorem containsChars_iff {pat s : List Char} : containsChars pat s = true ↔ pat <:+: s := by
  induction s with
  | nil =>
    show pat.isEmpty = true ↔ pat <:+: []
    rw [List.isEmpty_iff, List.infix_nil]
  | cons c s ih =>
    show (pat.isPrefixOf (c :: s) || containsChars pat s) = true ↔ _
    rw [Bool.or_eq_true, ih, List.isPrefixOf_iff_prefix, List.infix_cons_iff]

end Sda
