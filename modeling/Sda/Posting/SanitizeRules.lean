/-
Sda/Posting/SanitizeRules.lean

The rules of `pa_sanitize` behind the address rule, as a list.

Main result: `clean_eq` — the sanitizer drops the control characters, puts a star for every character
beyond ASCII, and then applies the rules one after the other.
-/
import Sda.Posting.CodeAppended

namespace Sda.Posting.TrackingCode

variable {u : Unicode}

/-! ### The rules -/

/-- A pattern, and what is put for a match. -/
structure Rule where
  pattern : Re
  replacement : List Char → List Char

/-- `re.sub` -/
def Rule.apply (r : Rule) (b : Option Char) (x : List Char) : List Char :=
  r.pattern.sub r.replacement b 0 x

def starRule : Rule := ⟨.atLeast (literal "*") 2, fun _ => ['*']⟩

def yearRule (u : Unicode) : Rule := ⟨bannedYear u, fun m => m.take 2 ++ '-' :: m.drop 2⟩

def thirteenRule (u : Unicode) : Rule := ⟨bannedNumber u "13", fun _ => "1-3".toList⟩

def eighteenRule (u : Unicode) : Rule := ⟨bannedNumber u "18", fun _ => "1-8".toList⟩

def wordRule (r : Re) : Rule := ⟨r, fun _ => []⟩

def blankRule : Rule := ⟨.atLeast (.chars blank) 2, fun _ => [' ']⟩

def commaRule : Rule := ⟨.cat [literal ",", spaces, literal ","], fun _ => [',']⟩

/-- Behind the address rule and the character rules. -/
def rules (u : Unicode) : List Rule :=
  [starRule, yearRule u, thirteenRule u, eighteenRule u, wordRule (voiceChat u),
    wordRule (voiceVerified u), wordRule (voice u), wordRule (hack u), blankRule, commaRule]

def applyAll (rs : List Rule) (b : Option Char) (x : List Char) : List Char :=
  rs.foldl (fun x r => r.apply b x) x

/-- Control characters dropped, and a star for every character beyond ASCII. -/
def readable (x : List Char) : List Char := (x.map ascii).filter fun c => !notPrintable c

theorem sub_chars (p : Char → Bool) (b : Option Char) (x : List Char) :
    (Re.chars p).sub (fun _ => []) b 0 x = x.filter fun c => !p c := by
  induction x generalizing b with
  | nil => rfl
  | cons c x ih =>
    cases hc : p c with
    | true =>
      have hgo : (Re.chars p).go (b, c :: x) = [(some c, x)] := if_pos hc
      have hfirst : (Re.chars p).first b (c :: x) = some 1 := by
        unfold Re.first
        rw [hgo]
        show (if x.length < x.length + 1 then some (x.length + 1 - x.length) else none) = some 1
        rw [if_pos (Nat.lt_succ_self _), Nat.add_sub_cancel_left]
      rw [Re.sub, hfirst, List.filter_cons_of_neg (by rw [hc]; exact Bool.false_ne_true), ← ih (some c)]
      rfl
    | false =>
      have hgo : (Re.chars p).go (b, c :: x) = [] := if_neg (by rw [hc]; exact Bool.false_ne_true)
      have hfirst : (Re.chars p).first b (c :: x) = none := by
        unfold Re.first
        rw [hgo]
      rw [Re.sub, hfirst, List.filter_cons_of_pos (by rw [hc]; rfl)]
      exact congrArg (c :: ·) (ih (some c))

/-- **The sanitizer, rule by rule.** -/
theorem clean_eq (b : Option Char) (x : List Char) :
    clean u b x = applyAll (rules u) b (readable x) := by
  have hreadable : readable x = (Re.chars notPrintable).sub (fun _ => []) b 0 (x.map ascii) :=
    (sub_chars notPrintable b _).symm
  rw [hreadable]
  rfl

end Sda.Posting.TrackingCode
