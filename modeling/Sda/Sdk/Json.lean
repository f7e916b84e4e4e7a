/-
Sda/Sdk/Json.lean

The values that the clients of a marketplace exchange: what `json.loads` makes of a document.

A dict is the list of its items, in their order; a key is looked up by its first item.  `==` does
not look at the order of a dict and compares ints with floats by their values.  Inside a container
Python takes an object for equal to itself before it compares, so a value with a NaN in it is equal
to itself there: `eqv` tries `same` first.

Main results: `eqv_self`; `eqv_dict` — two dicts with the same keys and equal values.
-/
import Sda.Templates.Value

namespace Sda

open Templates (Binary64 Python)

/-- A JSON value. -/
inductive Json
  | null
  | bool (b : Bool)
  | int (n : Int)
  | float (x : Binary64)
  | str (text : List Char)
  | list (items : List Json)
  | dict (fields : List (String × Json))

/-- The items of a dict. -/
abbrev Fields := List (String × Json)

namespace Fields

/-- `d.get(key)` -/
def get (d : Fields) (key : String) : Json := (d.lookup key).getD .null

/-- `d.get(key, default)` -/
def getOr (d : Fields) (key : String) (default : Json) : Json := (d.lookup key).getD default

/-- `key in d` -/
def has (d : Fields) (key : String) : Bool := (d.lookup key).isSome

/-- `d.keys() <= set(keys)` -/
def within (d : Fields) (keys : List String) : Bool := d.all fun kv => keys.contains kv.1

/-- `d[key] = value` -/
def set (d : Fields) (key : String) (value : Json) : Fields :=
  if d.has key = true then d.map fun kv => if kv.1 = key then (key, value) else kv
  else d ++ [(key, value)]

/-- `d.pop(key, None)` -/
def pop (d : Fields) (key : String) : Fields := d.filter (·.1 != key)

theorem lookup_map_set {d : Fields} (key k : String) (value : Json) :
    (d.map fun kv => if kv.1 = key then (key, value) else kv).lookup k =
      if k = key then (d.lookup k).map fun _ => value else d.lookup k := by
  induction d with
  | nil => simp
  | cons kv d ih =>
    obtain ⟨k', v⟩ := kv
    rw [List.map_cons, List.lookup_cons, List.lookup_cons, ih]
    by_cases hkey : k' = key
    · subst hkey
      by_cases hk : k = k'
      · simp [hk]
      · have hne : (k == k') = false := by simpa using hk
        simp [hk, hne]
    · by_cases hk : k = k'
      · subst hk
        simp [hkey]
      · have hne : (k == k') = false := by simpa using hk
        simp [hkey, hne]

theorem lookup_set (d : Fields) (key k : String) (value : Json) :
    (d.set key value).lookup k = if k = key then some value else d.lookup k := by
  unfold set has
  cases hkey : d.lookup key with
  | some v =>
    rw [if_pos (by rfl), lookup_map_set]
    by_cases hk : k = key
    · simp [hk, hkey]
    · simp [hk]
  | none =>
    rw [if_neg (by exact Bool.false_ne_true), List.lookup_append]
    by_cases hk : k = key
    · simp [hk, hkey]
    · have hne : (k == key) = false := by simpa using hk
      simp [hk, List.lookup_cons, hne]

theorem get_set (d : Fields) (key k : String) (value : Json) :
    (d.set key value).get k = if k = key then value else d.get k := by
  unfold get
  rw [lookup_set]
  split <;> rfl

end Fields

namespace Json

/-- `bool(value)` -/
def truthy : Json → Bool
  | null => false
  | bool b => b
  | int n => n != 0
  | float x => !x.isZero
  | str text => !text.isEmpty
  | list items => !items.isEmpty
  | dict d => !d.isEmpty

/-- `a or b` -/
def orElse (a b : Json) : Json := if a.truthy = true then a else b

/-- `isinstance(value, dict)`, with its items. -/
def fields? : Json → Option Fields
  | dict d => some d
  | _ => none

/-- `isinstance(value, list)`, with its items. -/
def items? : Json → Option (List Json)
  | list items => some items
  | _ => none

/-- `value[k₁][k₂]…`, None where there is nothing. -/
def at_ : Json → List String → Json
  | value, [] => value
  | dict d, key :: keys => at_ (Fields.get d key) keys
  | _, _ :: _ => null

def isNull : Json → Bool
  | null => true
  | _ => false

def isStr : Json → Bool
  | str _ => true
  | _ => false

/-- `type(value) in (int, float)` -/
def isNumber : Json → Bool
  | int _ => true
  | float _ => true
  | _ => false

/-! ### Equality -/

/-- A finite number: a mantissa at a power of two. -/
def number : Json → Option (Int × Int)
  | bool b => some (b.toNat, 0)
  | int n => some (n, 0)
  | float (.finite negative m e) => some (if negative = true then -m else m, e)
  | _ => none

/-- `==` of two numbers. -/
def numberEq (a b : Json) : Bool :=
  match a.number, b.number with
  | some (m, e), some (m', e') =>
    m * 2 ^ (e - min e e').toNat == m' * 2 ^ (e' - min e e').toNat
  | _, _ => false

mutual

/-- The same value throughout. -/
def same : Json → Json → Bool
  | null, null => true
  | bool b, bool b' => b == b'
  | int n, int n' => n == n'
  | float x, float x' => x == x'
  | str text, str text' => text == text'
  | list items, list items' => sameItems items items'
  | dict d, dict d' => sameFields d d'
  | _, _ => false

def sameItems : List Json → List Json → Bool
  | [], [] => true
  | x :: xs, y :: ys => same x y && sameItems xs ys
  | _, _ => false

def sameFields : List (String × Json) → List (String × Json) → Bool
  | [], [] => true
  | (k, x) :: d, (k', y) :: d' => k == k' && same x y && sameFields d d'
  | _, _ => false

end

mutual

/-- **`==`** -/
def eqv (a b : Json) : Bool :=
  same a b ||
    match a, b with
    | list items, list items' => eqvItems items items'
    | dict d, dict d' => eqvFields d d' && Fields.within d' (d.map Prod.fst)
    | a, b => numberEq a b

def eqvItems : List Json → List Json → Bool
  | [], [] => true
  | x :: xs, y :: ys => eqv x y && eqvItems xs ys
  | _, _ => false

/-- Every item of the first dict is in the second. -/
def eqvFields : List (String × Json) → List (String × Json) → Bool
  | [], _ => true
  | (k, x) :: d, d' =>
    (match d'.lookup k with
      | some y => eqv x y
      | none => false) && eqvFields d d'

end

mutual

@[simp] theorem same_self : ∀ a : Json, same a a = true
  | null => rfl
  | bool b => by simp [same]
  | int n => by simp [same]
  | float x => by simp [same]
  | str text => by simp [same]
  | list items => by
    unfold same
    exact sameItems_self items
  | dict d => by
    unfold same
    exact sameFields_self d

theorem sameItems_self : ∀ items : List Json, sameItems items items = true
  | [] => by simp [sameItems]
  | x :: xs => by
    unfold sameItems
    rw [same_self x, sameItems_self xs]
    rfl

theorem sameFields_self : ∀ d : Fields, sameFields d d = true
  | [] => by simp [sameFields]
  | (k, x) :: d => by
    unfold sameFields
    rw [same_self x, sameFields_self d]
    simp

end

/-- A value equals itself, a NaN included. -/
@[simp] theorem eqv_self (a : Json) : eqv a a = true := by
  unfold eqv
  rw [same_self, Bool.true_or]

/-- **Two dicts are equal** if they have the same keys, with equal values. -/
theorem eqv_dict {d d' : Fields} (hfields : eqvFields d d' = true)
    (hkeys : d'.within (d.map Prod.fst) = true) : eqv (dict d) (dict d') = true := by
  unfold eqv
  simp [hfields, hkeys]

theorem eqvFields_nil (d' : Fields) : eqvFields [] d' = true := by
  unfold eqvFields
  rfl

theorem eqvFields_cons {k : String} {x y : Json} {d d' : Fields} (hlookup : d'.lookup k = some y)
    (h : eqv x y = true) (hd : eqvFields d d' = true) : eqvFields ((k, x) :: d) d' = true := by
  unfold eqvFields
  rw [hlookup]
  simp [h, hd]

end Json

end Sda
