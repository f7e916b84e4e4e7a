/-
Sda/Lib/Table.lean

A table of a relational store: rows under distinct numeric keys.

A `Table α` is a list of keyed rows together with the proof that no key
occurs twice, so "the row of key `k`" is a partial function (`get?`) and the
membership and look-up views of a table agree (`get?_eq_some_iff`).  The
operations are the ones an object-relational layer issues:

* `mapRows`, and its instances `set` (save one row) and `updateWhere`
  (a bulk `UPDATE … WHERE`);
* `create`, an insertion under a fresh key;
* `deleteWhere`, and the read-only `select`, `any`, `count`;
* `put` and `pop`, those of a dictionary.

Every operation has one look-up lemma (`get?_mapRows`, `get?_create`, …), and
two tables are counted against each other by their look-ups alone
(`count_le_add`, `count_lt`).  All are stated for an arbitrary row type; later
files never look at the list of rows of a table again.
-/
import Mathlib.Data.List.Sort
import Mathlib.Data.List.Nodup
import Mathlib.Data.List.Pairwise

namespace Sda

/-- Rows of type `α` under pairwise distinct keys. -/
structure Table (α : Type*) where
  rows : List (Nat × α)
  nodup : (rows.map Prod.fst).Nodup

namespace Table

variable {α β : Type*} {t : Table α} {k j : Nat} {a b : α}

/-- The table without rows. -/
def empty : Table α := ⟨[], List.nodup_nil⟩

/-- The row stored under a key. -/
def get? (t : Table α) (k : Nat) : Option α :=
  (t.rows.find? fun r => r.1 == k).map Prod.snd

@[simp] theorem get?_empty (k : Nat) : (empty : Table α).get? k = none := rfl

theorem get?_eq_some_iff : t.get? k = some a ↔ (k, a) ∈ t.rows := by
  have key : ∀ {rows : List (Nat × α)}, (rows.map Prod.fst).Nodup →
      ((rows.find? fun r => r.1 == k).map Prod.snd = some a ↔ (k, a) ∈ rows) := by
    intro rows hnd
    induction rows with
    | nil => simp
    | cons r rest ih =>
      obtain ⟨i, c⟩ := r
      simp only [List.map_cons, List.nodup_cons] at hnd
      by_cases hi : i = k
      · subst hi
        have hout : (i, a) ∉ rest := fun hm =>
          hnd.1 (List.mem_map.mpr ⟨(i, a), hm, rfl⟩)
        simp [hout, eq_comm]
      · have hne : (k, a) ≠ (i, c) := fun e => hi (congrArg Prod.fst e).symm
        rw [List.find?_cons_of_neg (by simpa using hi), ih hnd.2]
        simp [hne]
  exact key t.nodup

theorem get?_eq_none_iff : t.get? k = none ↔ ∀ a, (k, a) ∉ t.rows := by
  constructor
  · intro h a hm
    rw [get?_eq_some_iff.mpr hm] at h
    cases h
  · intro h
    rcases e : t.get? k with - | a
    · rfl
    · exact absurd (get?_eq_some_iff.mp e) (h a)

/-! ### Reading -/

/-- The rows a `WHERE` clause selects, in table order. -/
def select (t : Table α) (p : Nat → α → Bool) : List (Nat × α) :=
  t.rows.filter fun r => p r.1 r.2

/-- `EXISTS`. -/
def any (t : Table α) (p : Nat → α → Bool) : Bool :=
  t.rows.any fun r => p r.1 r.2

/-- `COUNT(*)`. -/
def count (t : Table α) (p : Nat → α → Bool) : Nat :=
  (t.select p).length

theorem mem_select {p : Nat → α → Bool} :
    (k, a) ∈ t.select p ↔ t.get? k = some a ∧ p k a := by
  simp [select, get?_eq_some_iff]

theorem any_iff {p : Nat → α → Bool} :
    t.any p = true ↔ ∃ k a, t.get? k = some a ∧ p k a := by
  simp [any, get?_eq_some_iff]

theorem any_eq_false_iff {p : Nat → α → Bool} :
    t.any p = false ↔ ∀ k a, t.get? k = some a → p k a = false := by
  simp [any, get?_eq_some_iff]

/-- A column has no repeated value exactly when two rows that agree in it are
one row. -/
theorem nodup_filterMap_iff {f : α → Option β} :
    (t.rows.filterMap fun r => f r.2).Nodup ↔
      ∀ i j a b x, t.get? i = some a → t.get? j = some b → f a = some x → f b = some x →
        i = j := by
  rw [List.Nodup, List.pairwise_filterMap]
  constructor
  · intro h i j a b x hi hj ha hb
    by_contra hne
    have : Std.Symm fun r r' : Nat × α => ∀ x, f r.2 = some x → ∀ y, f r'.2 = some y → x ≠ y :=
      ⟨fun r r' hr x hx y hy => (hr y hy x hx).symm⟩
    refine h.forall (get?_eq_some_iff.mp hi) (get?_eq_some_iff.mp hj) ?_ x ha x hb rfl
    exact fun heq => hne (congrArg Prod.fst heq)
  · intro h
    have hkeys : t.rows.Pairwise fun r r' => r.1 ≠ r'.1 := List.pairwise_map.mp t.nodup
    refine List.Pairwise.imp_of_mem ?_ hkeys
    rintro ⟨i, a⟩ ⟨j, b⟩ hi hj hne x hx y hy rfl
    exact hne (h i j a b x (get?_eq_some_iff.mpr hi) (get?_eq_some_iff.mpr hj) hx hy)

theorem select_keys_nodup {p : Nat → α → Bool} :
    ((t.select p).map Prod.fst).Nodup :=
  t.nodup.sublist (List.filter_sublist.map _)

/-! ### Counting -/

/-- The keys of the selected rows. -/
def keys (t : Table α) (p : Nat → α → Bool) : List Nat :=
  (t.select p).map Prod.fst

theorem length_keys (t : Table α) (p : Nat → α → Bool) : (t.keys p).length = t.count p :=
  List.length_map _

theorem mem_keys {p : Nat → α → Bool} : k ∈ t.keys p ↔ ∃ a, t.get? k = some a ∧ p k a := by
  constructor
  · intro h
    obtain ⟨⟨k, a⟩, hm, rfl⟩ := List.mem_map.mp h
    exact ⟨a, mem_select.mp hm⟩
  · rintro ⟨a, h⟩
    exact List.mem_map.mpr ⟨(k, a), mem_select.mpr h, rfl⟩

/-- Rows selected now were selected before, the keys `ks` apart. -/
theorem count_le_add {u : Table β} {p : Nat → α → Bool} {q : Nat → β → Bool} (ks : List Nat)
    (h : ∀ k a, t.get? k = some a → p k a → k ∈ ks ∨ ∃ b, u.get? k = some b ∧ q k b) :
    t.count p ≤ u.count q + ks.length := by
  have hsub : t.keys p ⊆ u.keys q ++ ks := by
    intro k hk
    obtain ⟨a, ha, hp⟩ := mem_keys.mp hk
    rcases h k a ha hp with hks | hsel
    · exact List.mem_append_right _ hks
    · exact List.mem_append_left _ (mem_keys.mpr hsel)
  have hlen := (List.subperm_of_subset select_keys_nodup hsub).length_le
  rw [List.length_append] at hlen
  rw [← length_keys, ← length_keys]
  exact hlen

theorem count_le {u : Table β} {p : Nat → α → Bool} {q : Nat → β → Bool}
    (h : ∀ k a, t.get? k = some a → p k a → ∃ b, u.get? k = some b ∧ q k b) :
    t.count p ≤ u.count q :=
  count_le_add [] fun k a ha hp => Or.inr (h k a ha hp)

/-- Two rows are selected. -/
theorem two_le_count {p : Nat → α → Bool} (hj : t.get? j = some a) (hk : t.get? k = some b)
    (hpj : p j a = true) (hpk : p k b = true) (hne : j ≠ k) : 2 ≤ t.count p := by
  have hsub : [j, k] ⊆ t.keys p := by
    intro i hi
    rcases List.mem_cons.mp hi with rfl | hi
    · exact mem_keys.mpr ⟨a, hj, hpj⟩
    · rw [List.mem_singleton.mp hi]
      exact mem_keys.mpr ⟨b, hk, hpk⟩
  have hnodup : [j, k].Nodup := List.nodup_cons.mpr ⟨by simpa using hne, List.nodup_singleton k⟩
  rw [← length_keys]
  exact (List.subperm_of_subset hnodup hsub).length_le

/-- One of the rows selected before is not selected now. -/
theorem count_lt {u : Table β} {p : Nat → α → Bool} {q : Nat → β → Bool} {c : β}
    (h : ∀ k a, t.get? k = some a → p k a → ∃ b, u.get? k = some b ∧ q k b)
    (hk : u.get? k = some c) (hq : q k c = true) (hnot : ∀ a, t.get? k = some a → p k a = false) :
    t.count p < u.count q := by
  have hout : k ∉ t.keys p := by
    intro hin
    obtain ⟨a, ha, hp⟩ := mem_keys.mp hin
    rw [hnot a ha] at hp
    cases hp
  have hsub : k :: t.keys p ⊆ u.keys q := by
    intro j hj
    rcases List.mem_cons.mp hj with rfl | hj
    · exact mem_keys.mpr ⟨c, hk, hq⟩
    · obtain ⟨a, ha, hp⟩ := mem_keys.mp hj
      exact mem_keys.mpr (h j a ha hp)
  have hnodup : (k :: t.keys p).Nodup := List.nodup_cons.mpr ⟨hout, select_keys_nodup⟩
  rw [← length_keys, ← length_keys]
  exact (List.subperm_of_subset hnodup hsub).length_le

/-! ### Updating rows in place -/

/-- Rewrite every row, keeping its key. -/
def mapRows (t : Table α) (f : Nat → α → α) : Table α where
  rows := t.rows.map fun r => (r.1, f r.1 r.2)
  nodup := by simpa [List.map_map, Function.comp_def] using t.nodup

theorem get?_mapRows (f : Nat → α → α) (k : Nat) :
    (t.mapRows f).get? k = (t.get? k).map (f k) := by
  rcases e : t.get? k with - | a
  · refine get?_eq_none_iff.mpr fun b hb => ?_
    obtain ⟨⟨i, c⟩, hm, heq⟩ := List.mem_map.mp hb
    obtain ⟨rfl, -⟩ := Prod.mk.inj heq
    exact get?_eq_none_iff.mp e c hm
  · refine get?_eq_some_iff.mpr (List.mem_map.mpr ⟨(k, a), get?_eq_some_iff.mp e, rfl⟩)

/-- Overwrite the row of one key; no effect when the key is absent. -/
def set (t : Table α) (k : Nat) (a : α) : Table α :=
  t.mapRows fun j b => if j = k then a else b

theorem get?_set_self (h : t.get? k = some b) : (t.set k a).get? k = some a := by
  simp [set, get?_mapRows, h]

@[simp] theorem get?_set_ne (h : j ≠ k) : (t.set k a).get? j = t.get? j := by
  simp [set, get?_mapRows, h]

theorem get?_set (h : t.get? k = some b) :
    (t.set k a).get? j = if j = k then some a else t.get? j := by
  by_cases hj : j = k
  · subst hj
    simp [get?_set_self h]
  · simp [hj]

theorem any_set {p : Nat → α → Bool} (h : t.get? k = some b) :
    (t.set k a).any p = (p k a || t.any fun j b => j != k && p j b) := by
  rw [Bool.eq_iff_iff, any_iff, Bool.or_eq_true, any_iff]
  constructor
  · rintro ⟨j, c, hc, hp⟩
    rw [get?_set h] at hc
    by_cases hj : j = k
    · rw [if_pos hj] at hc
      cases hc
      exact Or.inl (hj ▸ hp)
    · rw [if_neg hj] at hc
      exact Or.inr ⟨j, c, hc, by simp [hj, hp]⟩
  · rintro (hp | ⟨j, c, hc, hp⟩)
    · exact ⟨k, a, get?_set_self h, hp⟩
    · rw [Bool.and_eq_true, bne_iff_ne] at hp
      exact ⟨j, c, (get?_set_ne hp.1).trans hc, hp.2⟩

/-- `UPDATE … SET f WHERE p`. -/
def updateWhere (t : Table α) (p : Nat → α → Bool) (f : α → α) : Table α :=
  t.mapRows fun k a => if p k a then f a else a

theorem get?_updateWhere (p : Nat → α → Bool) (f : α → α) (k : Nat) :
    (t.updateWhere p f).get? k = (t.get? k).map fun a => if p k a then f a else a := by
  rw [updateWhere, get?_mapRows]

/-! ### Inserting and deleting -/

/-- A key above every key in use. -/
def nextKey (t : Table α) : Nat :=
  t.rows.foldr (fun r m => max (r.1 + 1) m) 0

theorem lt_nextKey (h : t.get? k = some a) : k < t.nextKey := by
  have key : ∀ {rows : List (Nat × α)}, (k, a) ∈ rows →
      k < rows.foldr (fun r m => max (r.1 + 1) m) 0 := by
    intro rows hm
    induction rows with
    | nil => cases hm
    | cons r rest ih =>
      rcases List.mem_cons.mp hm with rfl | hm
      · simp
      · have := ih hm
        simp only [List.foldr_cons]
        omega
  exact key (get?_eq_some_iff.mp h)

theorem get?_nextKey (t : Table α) : t.get? t.nextKey = none := by
  rcases e : t.get? t.nextKey with - | a
  · rfl
  · exact absurd (lt_nextKey e) (Nat.lt_irrefl _)

/-- Insert a row under the fresh key `nextKey`. -/
def create (t : Table α) (a : α) : Table α where
  rows := t.rows ++ [(t.nextKey, a)]
  nodup := by
    rw [List.map_append, List.nodup_append]
    refine ⟨t.nodup, by simp, ?_⟩
    intro i hi j hj hij
    obtain ⟨⟨i, c⟩, hm, rfl⟩ := List.mem_map.mp hi
    simp only [List.map_cons, List.map_nil, List.mem_singleton] at hj
    have := lt_nextKey (get?_eq_some_iff.mpr hm)
    simp only at hij
    omega

theorem get?_create : (t.create a).get? k = if k = t.nextKey then some a else t.get? k := by
  by_cases hk : k = t.nextKey
  · subst hk
    simp [get?_eq_some_iff, create]
  · rcases e : t.get? k with - | b
    · refine (if_neg hk).symm ▸ get?_eq_none_iff.mpr fun b hb => ?_
      rcases List.mem_append.mp hb with hm | hm
      · exact get?_eq_none_iff.mp e b hm
      · exact hk (Prod.mk.inj (List.mem_singleton.mp hm)).1
    · rw [if_neg hk]
      exact get?_eq_some_iff.mpr (List.mem_append_left _ (get?_eq_some_iff.mp e))

theorem get?_create_of_some (h : t.get? k = some b) : (t.create a).get? k = some b := by
  have := lt_nextKey h
  rw [get?_create, if_neg (by omega), h]

theorem any_create {p : Nat → α → Bool} : (t.create a).any p = (t.any p || p t.nextKey a) := by
  simp [any, create]

theorem count_create {p : Nat → α → Bool} :
    (t.create a).count p = t.count p + if p t.nextKey a then 1 else 0 := by
  simp only [count, select, create, List.filter_append, List.length_append]
  by_cases hp : p t.nextKey a = true
  · simp [hp]
  · simp [hp]

/-- `DELETE … WHERE p`. -/
def deleteWhere (t : Table α) (p : Nat → α → Bool) : Table α where
  rows := t.rows.filter fun r => !p r.1 r.2
  nodup := t.nodup.sublist (List.filter_sublist.map _)

theorem get?_deleteWhere {p : Nat → α → Bool} :
    (t.deleteWhere p).get? k = some a ↔ t.get? k = some a ∧ p k a = false := by
  simp [get?_eq_some_iff, deleteWhere]

/-- `d[k] = a`: in place, or at the end. -/
def put (t : Table α) (k : Nat) (a : α) : Table α :=
  if h : t.get? k = none then
    { rows := t.rows ++ [(k, a)]
      nodup := by
        rw [List.map_append, List.nodup_append]
        refine ⟨t.nodup, by simp, ?_⟩
        intro i hi j hj hij
        obtain ⟨⟨i, c⟩, hm, rfl⟩ := List.mem_map.mp hi
        simp only [List.map_cons, List.map_nil, List.mem_singleton] at hj
        subst hj
        simp only at hij
        exact get?_eq_none_iff.mp h c (hij ▸ hm) }
  else t.set k a

theorem get?_put : (t.put k a).get? j = if j = k then some a else t.get? j := by
  unfold put
  split
  next h =>
    by_cases hj : j = k
    · subst hj
      simp [get?_eq_some_iff]
    · rw [if_neg hj]
      rcases e : t.get? j with - | b
      · refine get?_eq_none_iff.mpr fun b hb => ?_
        rcases List.mem_append.mp hb with hm | hm
        · exact get?_eq_none_iff.mp e b hm
        · exact hj (Prod.mk.inj (List.mem_singleton.mp hm)).1
      · exact get?_eq_some_iff.mpr (List.mem_append_left _ (get?_eq_some_iff.mp e))
  next h =>
    obtain ⟨b, hb⟩ := Option.ne_none_iff_exists'.mp h
    exact get?_set hb

/-- `d.pop(k, None)` -/
def pop (t : Table α) (k : Nat) : Table α := t.deleteWhere fun j _ => j == k

theorem get?_pop : (t.pop k).get? j = if j = k then none else t.get? j := by
  ext a
  show (t.deleteWhere fun j _ => j == k).get? j = some a ↔ _
  rw [get?_deleteWhere]
  by_cases hj : j = k
  · simp [hj]
  · simp [hj]

end Table

end Sda
