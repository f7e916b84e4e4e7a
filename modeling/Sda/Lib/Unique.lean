/-
Sda/Lib/Unique.lean

Unique columns of a table.

A column is read off a row by `col : α → Option β`; a row without a value
(`NULL`) does not count.  `t.Unique col` is the constraint a store enforces,
`t.holds col v` the look-up an insertion is refused by.  A constraint survives
an insertion that is not refused (`Unique.create`) and every update that gives
no row a value it did not have (`Unique.mapRows`).
-/
import Sda.Lib.Table

namespace Sda.Table

variable {α β : Type*} {t : Table α} {col : α → Option β} {a : α}

/-- Two rows with one value in the column are one row. -/
def Unique (t : Table α) (col : α → Option β) : Prop :=
  ∀ i j a b x, t.get? i = some a → t.get? j = some b → col a = some x → col b = some x → i = j

/-- Does a row have the value `v` in the column? -/
def holds [DecidableEq β] (t : Table α) (col : α → Option β) (v : Option β) : Bool :=
  v.isSome && t.any fun _ r => col r == v

theorem holds_eq_false_iff [DecidableEq β] {v : Option β} :
    t.holds col v = false ↔ ∀ x, v = some x → ∀ k a, t.get? k = some a → col a ≠ some x := by
  rcases v with - | x
  · simp [holds]
  · simp [holds, any_eq_false_iff]

theorem unique_empty : (empty : Table α).Unique col := by
  intro i j a b x ha
  cases ha

theorem Unique.create [DecidableEq β] (h : t.Unique col) (hfree : t.holds col (col a) = false) :
    (t.create a).Unique col := by
  have hfree := holds_eq_false_iff.mp hfree
  intro i j b c x hi hj hb hc
  rw [get?_create] at hi hj
  split at hi
  · next hik =>
    cases hi
    split at hj
    · next hjk => rw [hik, hjk]
    · exact absurd hc (hfree x hb j c hj)
  · split at hj
    · cases hj
      exact absurd hb (hfree x hc i b hi)
    · exact h i j b c x hi hj hb hc

theorem Unique.mapRows {f : Nat → α → α} (h : t.Unique col)
    (hf : ∀ k a x, col (f k a) = some x → col a = some x) : (t.mapRows f).Unique col := by
  intro i j b c x hi hj hb hc
  rw [get?_mapRows] at hi hj
  obtain ⟨b', hb', rfl⟩ := Option.map_eq_some_iff.mp hi
  obtain ⟨c', hc', rfl⟩ := Option.map_eq_some_iff.mp hj
  exact h i j b' c' x hb' hc' (hf i b' x hb) (hf j c' x hc)

end Sda.Table
