/-
Sda/Templates/Value.lean

The values a template is rendered with, and their texts.

A context value is what Python has there: nothing, a bool, an int, a float, a text, a list, or
another object, of which only its texts matter.  An int has no text beyond the interpreter's limit
on digits, and `str` raises; nothing else in a value can stop its text.  So `writable` says of a
value, by its own structure, that no int in it is beyond the limit, and

* `isOk_strValue`, `isOk_formatValue` — the texts exist exactly for those.
-/
import Mathlib.Algebra.Order.Field.Rat
import Mathlib.Order.WithBot
import Sda.Lib.Chars
import Sda.Lib.Prog

namespace Sda.Templates

/-! ### The interpreter -/

/-- A double: a mantissa at a power of two, or one of the values that are no number. -/
inductive Binary64
  | nan
  | inf (negative : Bool)
  | finite (negative : Bool) (mantissa : Nat) (exponent : Int)
deriving DecidableEq

/-- The interpreter: `sys.get_int_max_str_digits()` (none where it is 0, no limit), the decimal
digits and the letter case of its Unicode tables, and the texts of floats. -/
structure Python where
  maxDigits : Option Nat
  digit : Char → Option Nat
  upper : List Char → List Char
  lower : List Char → List Char
  quote : List Char → List Char
  floatOf : List Char → Option Binary64
  floatText : Binary64 → List Char
  floatGrouped : Binary64 → List Char
  /-- A limit is at least `sys.int_info.str_digits_check_threshold`. -/
  maxDigits_ge : ∀ limit ∈ maxDigits, 640 ≤ limit

/-- The limit of a fresh process. -/
theorem freshLimit_ge : ∀ limit ∈ some 4300, 640 ≤ limit := by simp

/-- A text of this many digits is beyond the limit. -/
def Python.refuses (py : Python) (digits : Nat) : Bool := py.maxDigits.any (· < digits)

/-- What rendering raises, with the data of its message. -/
inductive Raised
  | missingField (name : List Char)
  | unknownModifier (name : List Char)
  | intLiteral (text : List Char)
  | intDigits (digits : Nat)
  | textDigits
  | emptySeparator
deriving DecidableEq

/-- The message of an exception. -/
def Raised.message (py : Python) : Raised → List Char
  | .missingField name => "Missing template field: ".toList ++ name
  | .unknownModifier name => "Unknown modifier: ".toList ++ name
  | .intLiteral text => "invalid literal for int() with base 10: ".toList ++ py.quote text
  | .intDigits digits =>
      "Exceeds the limit (".toList ++ (natText (py.maxDigits.getD 0)).toList ++
        " digits) for integer string conversion: value has ".toList ++ (natText digits).toList ++
        " digits; use sys.set_int_max_str_digits() to increase the limit".toList
  | .textDigits =>
      "Exceeds the limit (".toList ++ (natText (py.maxDigits.getD 0)).toList ++
        " digits) for integer string conversion; use sys.set_int_max_str_digits() to ".toList ++
        "increase the limit".toList
  | .emptySeparator => "empty separator".toList

/-! ### Ints and their texts -/

/-- The white space `int` passes over: not the separators of ASCII, which `str.strip` takes. -/
def isIntSpace (c : Char) : Bool := isSpaceChar c && !(0x1c ≤ c.toNat && c.toNat ≤ 0x1f)

/-- The digits of an int literal, with single underscores between digits.  `after` says that a
digit is right in front. -/
def literalDigits (py : Python) : Bool → List Char → Option (List Nat)
  | after, [] => if after then some [] else none
  | after, c :: cs =>
      if c = '_' then
        if after then literalDigits py false cs else none
      else
        (py.digit c).bind fun d => (literalDigits py true cs).map (d :: ·)

/-- The sign of a literal, and what follows it. -/
def literalSign : List Char → Bool × List Char
  | '-' :: cs => (true, cs)
  | '+' :: cs => (false, cs)
  | cs => (false, cs)

/-- `int(text)`. -/
def intOf (py : Python) (text : List Char) : Except Raised Int :=
  let (negative, literal) :=
    literalSign ((text.dropWhile isIntSpace).rdropWhile isIntSpace)
  match literalDigits py false literal with
  | none => .error (.intLiteral text)
  | some digits =>
      if py.refuses digits.length then .error (.intDigits digits.length)
      else
        let n : Int := digits.foldl (fun n d => 10 * n + d) 0
        .ok (if negative then -n else n)

/-- The decimal digits of an int, without its sign. -/
def digitsOf (n : Int) : List Char := Nat.toDigits 10 n.natAbs

def signOf (n : Int) : List Char := if n < 0 then ['-'] else []

/-- `str(n)`. -/
def intText (py : Python) (n : Int) : Except Raised (List Char) :=
  if py.refuses (digitsOf n).length then .error .textDigits
  else .ok (signOf n ++ digitsOf n)

/-- Digits in groups of three from the right, with commas between the groups: `f"{n:,}"`. -/
def groupDigits (digits : List Char) : List Char :=
  match digits with
  | [] => []
  | d :: ds =>
      if ds.length % 3 = 0 ∧ ds ≠ [] then d :: ',' :: groupDigits ds else d :: groupDigits ds

/-- `f"{n:,}"`. -/
def intGrouped (py : Python) (n : Int) : Except Raised (List Char) :=
  if py.refuses (digitsOf n).length then .error .textDigits
  else .ok (signOf n ++ groupDigits (digitsOf n))

example : groupDigits "1234567".toList = "1,234,567".toList := by decide

/-! ### Values -/

/-- A value of a context. -/
inductive Value
  | none
  | bool (b : Bool)
  | int (n : Int)
  | float (x : Binary64)
  | str (text : List Char)
  | list (items : List Value)
  /-- Any other object: `str(obj)`, `repr(obj)`, and whether it equals 0. -/
  | obj (text : List Char) (quoted : List Char) (zero : Bool)

def Binary64.isZero : Binary64 → Bool
  | .finite _ mantissa _ => mantissa == 0
  | _ => false

mutual

/-- `repr(value)`. -/
def reprValue (py : Python) : Value → Except Raised (List Char)
  | .none => .ok "None".toList
  | .bool b => .ok (if b then "True" else "False").toList
  | .int n => intText py n
  | .float x => .ok (py.floatText x)
  | .str text => .ok (py.quote text)
  | .list items => do
      let texts ← reprItems py items
      .ok ('[' :: joinChars ", ".toList texts ++ [']'])
  | .obj _ quoted _ => .ok quoted

def reprItems (py : Python) : List Value → Except Raised (List (List Char))
  | [] => .ok []
  | v :: items => do
      let text ← reprValue py v
      let texts ← reprItems py items
      .ok (text :: texts)

end

/-- `str(value)`. -/
def strValue (py : Python) : Value → Except Raised (List Char)
  | .str text => .ok text
  | .obj text _ _ => .ok text
  | v => reprValue py v

mutual

/-- `_format_value`: the display text of a value. -/
def formatValue (py : Python) : Value → Except Raised (List Char)
  | .none => .ok []
  | .bool b => .ok (if b then "Yes" else "No").toList
  | .list items => do
      let texts ← formatItems py items
      .ok (joinChars ", ".toList texts)
  | .int n => intText py n
  | .float x => .ok (py.floatText x)
  | .str text => .ok text
  | .obj text _ _ => .ok text

/-- The items of a list that are not None. -/
def formatItems (py : Python) : List Value → Except Raised (List (List Char))
  | [] => .ok []
  | .none :: items => formatItems py items
  | v :: items => do
      let text ← formatValue py v
      let texts ← formatItems py items
      .ok (text :: texts)

end

mutual

/-- No int in the value is beyond the limit on digits. -/
def Value.writable (py : Python) : Value → Bool
  | .int n => !py.refuses (digitsOf n).length
  | .list items => allWritable py items
  | _ => true

def allWritable (py : Python) : List Value → Bool
  | [] => true
  | v :: items => v.writable py && allWritable py items

end

/-! ### Which values have a text -/

variable {py : Python}

theorem isOk_intText (n : Int) :
    (intText py n).isOk = !py.refuses (digitsOf n).length := by
  unfold intText
  cases py.refuses (digitsOf n).length <;> rfl

theorem isOk_intGrouped (n : Int) :
    (intGrouped py n).isOk = !py.refuses (digitsOf n).length := by
  unfold intGrouped
  cases py.refuses (digitsOf n).length <;> rfl

mutual

theorem isOk_reprValue (v : Value) : (reprValue py v).isOk = v.writable py := by
  cases v with
  | int n => exact isOk_intText n
  | list items =>
    unfold reprValue
    rw [isOk_bind_ok, isOk_reprItems items]
    rfl
  | none | bool b | float x | str text | obj text quoted zero => rfl

theorem isOk_reprItems (items : List Value) :
    (reprItems py items).isOk = allWritable py items := by
  cases items with
  | nil => rfl
  | cons v items =>
    unfold reprItems
    rw [isOk_bind₂, isOk_reprValue v, isOk_reprItems items]
    rfl

end

theorem isOk_strValue (v : Value) : (strValue py v).isOk = v.writable py := by
  cases v with
  | str text | obj text quoted zero => rfl
  | none | bool b | int n | float x | list items => exact isOk_reprValue _

mutual

theorem isOk_formatValue (v : Value) : (formatValue py v).isOk = v.writable py := by
  cases v with
  | int n => exact isOk_intText n
  | list items =>
    unfold formatValue
    rw [isOk_bind_ok, isOk_formatItems items]
    rfl
  | none | bool b | float x | str text | obj text quoted zero => rfl

theorem isOk_formatItems (items : List Value) :
    (formatItems py items).isOk = allWritable py items := by
  cases items with
  | nil => rfl
  | cons v items =>
    cases v with
    | none => exact isOk_formatItems items
    | bool b | int n | float x | str text | list l | obj text quoted zero =>
      unfold formatItems
      rw [isOk_bind₂, isOk_formatValue, isOk_formatItems items]
      rfl

end

end Sda.Templates
