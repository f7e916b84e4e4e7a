/-
Sda/Lib/Text.lean

String operations with the meaning of a scripting language: slices by
characters, substring tests, case folding of ASCII letters, stripping of
Unicode white space.

All of them go through the list of characters, so they reduce in the kernel
and a decision on a concrete text is a computation.
-/
import Mathlib.Algebra.Ring.Nat
import Mathlib.Data.List.DropRight

namespace Sda

/-- `s[:n]`. -/
def takeChars (n : Nat) (s : String) : String :=
  String.ofList (s.toList.take n)

/-- `s.lower()`, on ASCII letters. -/
def lowerText (s : String) : String :=
  String.ofList (s.toList.map Char.toLower)

/-- The characters `str.strip` removes. -/
def isSpaceChar (c : Char) : Bool :=
  let n := c.toNat
  (0x9 ≤ n && n ≤ 0xd) || (0x1c ≤ n && n ≤ 0x20) || n == 0x85 || n == 0xa0 || n == 0x1680 ||
    (0x2000 ≤ n && n ≤ 0x200a) || n == 0x2028 || n == 0x2029 || n == 0x202f ||
    n == 0x205f || n == 0x3000

/-- `s.strip()`. -/
def stripText (s : String) : String :=
  String.ofList
    (((s.toList.dropWhile isSpaceChar).reverse.dropWhile isSpaceChar).reverse)

/-- `pat in s`, on lists of characters. -/
def containsChars (pat : List Char) : List Char → Bool
  | [] => pat.isEmpty
  | c :: cs => pat.isPrefixOf (c :: cs) || containsChars pat cs

/-- `pat in s`. -/
def containsText (pat s : String) : Bool :=
  containsChars pat.toList s.toList

/-- `str(n)` of a natural number. -/
def natText (n : Nat) : String := toString n

/-- A stripped text has nothing to strip. -/
@[simp] theorem stripText_stripText (s : String) : stripText (stripText s) = stripText s := by
  unfold stripText
  rw [String.toList_ofList]
  congr 1
  set front := s.toList.dropWhile isSpaceChar with hfront
  have hfront' : front.dropWhile isSpaceChar = front := List.dropWhile_idempotent ..
  change ((front.rdropWhile isSpaceChar).dropWhile isSpaceChar).rdropWhile isSpaceChar
    = front.rdropWhile isSpaceChar
  -- what is left of the front keeps its first character
  have hhead : (front.rdropWhile isSpaceChar).dropWhile isSpaceChar
      = front.rdropWhile isSpaceChar := by
    apply List.dropWhile_eq_self_iff.mpr
    intro hpos
    have hpre := List.rdropWhile_prefix isSpaceChar (l := front)
    rw [hpre.getElem hpos]
    exact List.dropWhile_eq_self_iff.mp hfront' (hpos.trans_le hpre.length_le)
  rw [hhead]
  exact List.rdropWhile_idempotent ..

theorem natText_ne_empty (n : Nat) : natText n ≠ "" :=
  Nat.repr_ne_empty

end Sda
