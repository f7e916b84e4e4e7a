/-
Sda/Lib/Codes.lean

Codes that are read back from the front of a text.

A code writes values as lists of symbols.  It is `Unambiguous` if a text that begins with the
code of a value begins with the code of no other one, so that codes may stand behind each other.
A code with a reader is unambiguous (`of_reader`), and so is the code of a whole list behind which
stands a symbol that begins no code of an element (`terminated`).

The last section is the code of JSON: texts (`quote`, as `json.dumps` writes them when it leaves
all but the control characters as they are), null, booleans and numbers.
-/
import Mathlib.Data.Nat.Notation

namespace Sda

variable {α β γ : Type*}

/-- What begins with the code of a value begins with the code of no other value. -/
def Unambiguous (e : α → List β) : Prop :=
  ∀ a b x y, e a ++ x = e b ++ y → a = b ∧ x = y

namespace Unambiguous

/-- Whatever a reader finds in front again. -/
theorem of_reader {e : α → List β} (read : List β → Option (α × List β))
    (h : ∀ a x, read (e a ++ x) = some (a, x)) : Unambiguous e := by
  intro a b x y heq
  have hread : some (a, x) = some (b, y) := by rw [← h a x, heq, h b y]
  exact Prod.mk.inj (Option.some.inj hread)

/-- A list, element by element, up to a symbol with which no element begins. -/
theorem terminated {e : α → List β} {stop : β} (he : Unambiguous e) (hne : ∀ a, e a ≠ [])
    (hstop : ∀ a, (e a).head? ≠ some stop) :
    Unambiguous fun as : List α => as.flatMap e ++ [stop] := by
  -- an element and the stop differ in their first symbol
  have hfirst : ∀ a x y, e a ++ x ≠ stop :: y := by
    intro a x y heq
    cases hea : e a with
    | nil => exact hne a hea
    | cons s rest =>
      rw [hea, List.cons_append, List.cons.injEq] at heq
      exact hstop a (by rw [hea, heq.1]; rfl)
  intro as
  induction as with
  | nil =>
    intro bs x y heq
    cases bs with
    | nil => exact ⟨rfl, (List.cons.inj heq).2⟩
    | cons b bs =>
      simp only [List.flatMap_cons, List.append_assoc] at heq
      exact absurd heq.symm (hfirst b _ _)
  | cons a as ih =>
    intro bs x y heq
    cases bs with
    | nil =>
      simp only [List.flatMap_cons, List.append_assoc] at heq
      exact absurd heq (hfirst a _ _)
    | cons b bs =>
      simp only [List.flatMap_cons, List.append_assoc] at heq
      obtain ⟨rfl, hrest⟩ := he a b _ _ heq
      obtain ⟨rfl, htail⟩ := ih bs x y (by simpa only [List.append_assoc] using hrest)
      exact ⟨rfl, htail⟩

end Unambiguous

/-- Two texts without the symbol that stands behind them. -/
theorem stopped_inj {stop : β} {a b x y : List β} (ha : stop ∉ a) (hb : stop ∉ b)
    (h : a ++ stop :: x = b ++ stop :: y) : a = b ∧ x = y := by
  induction a generalizing b with
  | nil =>
    cases b with
    | nil => exact ⟨rfl, (List.cons.inj h).2⟩
    | cons c b => exact absurd (List.mem_cons.mpr (Or.inl (List.cons.inj h).1)) hb
  | cons c a ih =>
    cases b with
    | nil => exact absurd (List.mem_cons.mpr (Or.inl (List.cons.inj h).1.symm)) ha
    | cons d b =>
      obtain ⟨rfl, hrest⟩ := List.cons.inj h
      obtain ⟨rfl, htail⟩ := ih (fun hc => ha (List.mem_cons_of_mem _ hc))
        (fun hd => hb (List.mem_cons_of_mem _ hd)) hrest
      exact ⟨rfl, htail⟩

/-! ### JSON -/

namespace JsonText

/-- A character inside a text. -/
def escape (c : Char) : List Char :=
  if c = '"' then ['\\', '"']
  else if c = '\\' then ['\\', '\\']
  else if c = '\n' then ['\\', 'n']
  else if c = '\r' then ['\\', 'r']
  else if c = '\t' then ['\\', 't']
  else if c = '\x08' then ['\\', 'b']
  else if c = '\x0c' then ['\\', 'f']
  else if c.toNat < 32 then
    ['\\', 'u', '0', '0', Nat.digitChar (c.toNat / 16), Nat.digitChar (c.toNat % 16)]
  else [c]

/-- A text in its quotes. -/
def quote (x : List Char) : List Char := '"' :: (x.flatMap escape ++ ['"'])

/-- The value of a digit of `\u00xx`. -/
def hexValue (c : Char) : ℕ := if c.isDigit then c.toNat - 48 else c.toNat - 87

/-- The character that a backslash and a letter stand for. -/
def named (c : Char) : Char :=
  if c = 'n' then '\n'
  else if c = 'r' then '\r'
  else if c = 't' then '\t'
  else if c = 'b' then '\x08'
  else if c = 'f' then '\x0c'
  else c

/-- The first character of what stands between the quotes. -/
def readChar : List Char → Option (Char × List Char)
  | '\\' :: 'u' :: _ :: _ :: a :: b :: rest =>
    some (Char.ofNat (hexValue a * 16 + hexValue b), rest)
  | '\\' :: c :: rest => some (named c, rest)
  | c :: rest => some (c, rest)
  | [] => none

theorem hexValue_digits : ∀ n < 32,
    hexValue (Nat.digitChar (n / 16)) * 16 + hexValue (Nat.digitChar (n % 16)) = n := by
  decide

theorem readChar_escape (c : Char) (x : List Char) : readChar (escape c ++ x) = some (c, x) := by
  unfold escape
  repeat' split
  all_goals try (next h => subst h; rfl)
  · next hcontrol =>
    show some (Char.ofNat (hexValue (Nat.digitChar (c.toNat / 16)) * 16 +
      hexValue (Nat.digitChar (c.toNat % 16))), x) = some (c, x)
    rw [hexValue_digits c.toNat hcontrol, Char.ofNat_toNat]
  · next hquote hback _ _ _ _ _ _ =>
    show readChar (c :: x) = some (c, x)
    unfold readChar
    split
    · next h => exact absurd (List.cons.inj h).1 hback
    · next h => exact absurd (List.cons.inj h).1 hback
    · next h => rw [(List.cons.inj h).1, (List.cons.inj h).2]
    · next h => cases h

theorem escape_ne_nil (c : Char) : escape c ≠ [] := by
  intro hnil
  have hread := readChar_escape c []
  rw [hnil] at hread
  cases hread

theorem head?_escape (c : Char) : (escape c).head? ≠ some '"' := by
  unfold escape
  repeat' split
  all_goals simp_all

theorem quote_unambiguous : Unambiguous quote := by
  intro a b x y heq
  have hinner : Unambiguous fun as : List Char => as.flatMap escape ++ ['"'] :=
    (Unambiguous.of_reader readChar readChar_escape).terminated escape_ne_nil head?_escape
  exact hinner a b x y (List.cons.inj heq).2

/-- `null`, or a text. -/
def optText : Option (List Char) → List Char
  | none => ['n', 'u', 'l', 'l']
  | some x => quote x

theorem optText_unambiguous : Unambiguous optText := by
  rintro (_ | a) (_ | b) x y heq
  · exact ⟨rfl, List.append_cancel_left heq⟩
  · cases heq
  · cases heq
  · obtain ⟨rfl, htail⟩ := quote_unambiguous a b x y heq
    exact ⟨rfl, htail⟩

/-- `null`, `true` or `false`. -/
def optBool : Option Bool → List Char
  | none => ['n', 'u', 'l', 'l']
  | some true => ['t', 'r', 'u', 'e']
  | some false => ['f', 'a', 'l', 's', 'e']

theorem optBool_unambiguous : Unambiguous optBool := by
  rintro (_ | _ | _) (_ | _ | _) x y heq
  all_goals first
    | exact ⟨rfl, List.append_cancel_left heq⟩
    | cases heq

/-- A number, in decimal digits. -/
def number (n : ℕ) : List Char := Nat.toDigits 10 n

theorem number_injective {m n : ℕ} (h : number m = number n) : m = n := by
  have hvalue : Nat.ofDigitChars 10 (number m) 0 = Nat.ofDigitChars 10 (number n) 0 := by rw [h]
  unfold number at hvalue
  rwa [Nat.ofDigitChars_toDigits (by omega) (by omega),
    Nat.ofDigitChars_toDigits (by omega) (by omega)] at hvalue

theorem isDigit_of_mem_number {n : ℕ} {c : Char} (h : c ∈ number n) : c.isDigit = true :=
  Nat.isDigit_of_mem_toDigits (by omega) (by omega) h

example : quote ['a', '"', '\n', '\x01'] =
    ['"', 'a', '\\', '"', '\\', 'n', '\\', 'u', '0', '0', '0', '1', '"'] := by decide

end JsonText

end Sda
