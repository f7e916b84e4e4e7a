/-
Sda/Sync/OwnedProducts.lean

The upsert of owned products that all sources share
(sync/services/shared/owned_product.py).

A call looks the product up, in the cache of its process or in the table, tests
which columns of the instance it found are empty, and saves those it can fill.
The instance may be older than the row: the cache keeps it for as long as the
process lives, and others write between a look-up and its save.

A value of a column is a text, and the empty one is what the source takes for
false.  `sha256` and `lower` are parameters.

* `updates` — what a call fills of an instance; `storeStep` — look-ups and saves
  of all processes, and updates by others;
* `first_writer_wins` — one product for a login, no value overwritten and every
  hash right, exactly if each save finds the columns it fills empty;
* `first_writer_wins_fails` — a cached instance whose row got its password from
  another process.
-/
import Sda.Lib.Run
import Sda.Lib.Unique
import Sda.Sync.Credentials

namespace Sda.Sync.OwnedProducts

/-! ### Rows -/

/-- The columns of `OwnedProduct` that the upsert tests. -/
inductive Column
  | password | passwordHash | email | emailPassword | emailLoginLink | securityEmail
  | securityEmailPassword | game | rawData | sourceProductId | refKey
  deriving DecidableEq, Repr

abbrev Columns := Column → List Char

/-- `OwnedProduct`. -/
structure OwnedProduct where
  category : Nat
  login : List Char
  columns : Columns

/-- `Category`. -/
structure Category where
  pk : Nat
  name : List Char
  deriving DecidableEq, Repr

/-- The arguments of a call that can end up in a row that exists. -/
structure Source where
  parsed : ParsedCredentials
  category : Category
  game : List Char := []
  rawData : List Char := []
  sourceProductId : List Char := []

section Upsert

variable (sha256 lower : List Char → List Char)

/-- `_NO_PASSWORD_CATEGORIES` -/
def noPasswordCategories : List (List Char) := ["supercell".toList]

/-- `_MIN_PASSWORD_LENGTH` -/
def minPasswordLength : Nat := 4

/-- **`_resolve_password`** -/
def resolvePassword (parsed : ParsedCredentials) (category : Category) : List Char :=
  let password :=
    if parsed.password = [] ∧ parsed.emailPassword ≠ [] ∧ parsed.login = parsed.email then
      parsed.emailPassword
    else parsed.password
  let noPassword := noPasswordCategories.contains (lower category.name)
  if password = [] ∧ noPassword then "1".toList
  else if password = [] then []
  else if ¬noPassword ∧ password.length < minPasswordLength then []
  else password

/-- The hash of a password; none for an empty one. -/
def hashOf (password : List Char) : List Char :=
  if password = [] then [] else sha256 password

/-- A new value for an empty one. -/
def fill (new old : List Char) : Option (List Char) :=
  if new ≠ [] ∧ old = [] then some new else none

/-- The columns a call fills of an instance, the reference key apart. -/
def updates (src : Source) (instance_ : Columns) : Column → Option (List Char)
  | .password => fill (resolvePassword lower src.parsed src.category) (instance_ .password)
  | .passwordHash =>
    (fill (resolvePassword lower src.parsed src.category) (instance_ .password)).map (hashOf sha256)
  | .email => fill src.parsed.email (instance_ .email)
  | .emailPassword => fill src.parsed.emailPassword (instance_ .emailPassword)
  | .emailLoginLink => fill src.parsed.emailLoginLink (instance_ .emailLoginLink)
  | .securityEmail => fill src.parsed.securityEmail (instance_ .securityEmail)
  | .securityEmailPassword =>
    fill src.parsed.securityEmailPassword (instance_ .securityEmailPassword)
  | .game => fill src.game (instance_ .game)
  | .rawData => fill src.rawData (instance_ .rawData)
  | .sourceProductId => fill src.sourceProductId (instance_ .sourceProductId)
  | .refKey => none

/-- `setattr` on an instance, and `UPDATE` of a row. -/
def Columns.apply (cols : Columns) (new : Column → Option (List Char)) : Columns :=
  fun c => (new c).getD (cols c)

/-- The columns of a new product. -/
def created (src : Source) (refKey : List Char) : Columns
  | .password => resolvePassword lower src.parsed src.category
  | .passwordHash => hashOf sha256 (resolvePassword lower src.parsed src.category)
  | .email => src.parsed.email
  | .emailPassword => src.parsed.emailPassword
  | .emailLoginLink => src.parsed.emailLoginLink
  | .securityEmail => src.parsed.securityEmail
  | .securityEmailPassword => src.parsed.securityEmailPassword
  | .game => src.game
  | .rawData => src.rawData
  | .sourceProductId => src.sourceProductId
  | .refKey => refKey

/-! ### Processes -/

/-- What a look-up finds: a key and an instance. -/
abbrev Found := Option (Nat × Columns)

/-- The cache of a process, and the call it is in. -/
structure Process where
  cache : Nat × List Char → Found := fun _ => none
  call : Option (Source × Found) := none

structure Store where
  rows : Table OwnedProduct := Table.empty
  processes : Nat → Process := fun _ => {}

/-- The category and the stripped login. -/
def Source.key (src : Source) : Nat × List Char :=
  (src.category.pk, stripChars src.parsed.login)

/-- The unique columns of a row. -/
def OwnedProduct.key (row : OwnedProduct) : Option (Nat × List Char) :=
  some (row.category, row.login)

def Store.setProcess (s : Store) (p : Nat) (process : Process) : Store :=
  { s with processes := Function.update s.processes p process }

/-- `OwnedProduct.objects.filter(category=…, login=…).first()`. -/
def find (rows : Table OwnedProduct) (key : Nat × List Char) : Found :=
  (rows.select fun _ row => row.key == some key).head?.map fun r => (r.1, r.2.columns)

/-- The first half of a call: the cache, then the table. -/
def lookUp (s : Store) (p : Nat) (src : Source) : Store :=
  let process := s.processes p
  if process.call.isSome ∨ src.parsed.login = [] then s
  else
    match (process.cache src.key).or (find s.rows src.key) with
    | some found =>
      s.setProcess p {
        cache := Function.update process.cache src.key (some found)
        call := some (src, some found) }
    | none => s.setProcess p { process with call := some (src, none) }

/-- `OwnedProduct.save`: the instance gets a hash for a password without one. -/
def saved (instance_ : Columns) : Columns :=
  if instance_ .password ≠ [] ∧ instance_ .passwordHash = [] then
    Function.update instance_ .passwordHash (sha256 (instance_ .password))
  else instance_

/-- All that a call fills, given a reference key. -/
def updatesWith (src : Source) (instance_ : Columns) (refKey : List Char) :
    Column → Option (List Char) :=
  fun c =>
    if c = .refKey then (if instance_ .refKey = [] then some refKey else none)
    else updates sha256 lower src instance_ c

/-- The second half of a call that found an instance.  The cache holds the same instance, also when
no reference key is found and nothing is saved. -/
def finishFound (s : Store) (p : Nat) (src : Source) (k : Nat) (instance_ : Columns)
    (refKey : Option (List Char)) : Store :=
  let process := s.processes p
  let hold (cols : Columns) : Process :=
    { cache := Function.update process.cache src.key (some (k, cols)), call := none }
  if instance_ .refKey = [] ∧ refKey = none then
    s.setProcess p (hold (instance_.apply (updates sha256 lower src instance_)))
  else
    let new := updatesWith sha256 lower src instance_ (refKey.getD [])
    { s with rows := s.rows.updateWhere (fun j _ => j == k) fun row =>
        { row with columns := row.columns.apply new } }.setProcess p
      (hold (saved sha256 (instance_.apply new)))

/-- The second half of a call that found nothing: the unique columns refuse a second product. -/
def finishCreate (s : Store) (p : Nat) (src : Source) (refKey : Option (List Char)) : Store :=
  let process := s.processes p
  match refKey with
  | none => s.setProcess p { process with call := none }
  | some refKey =>
    if s.rows.holds OwnedProduct.key (some src.key) then
      s.setProcess p { process with call := none }
    else
      let cols := created sha256 lower src refKey
      { s with rows := s.rows.create { category := src.key.1, login := src.key.2, columns := cols }
        }.setProcess p {
          cache := Function.update process.cache src.key (some (s.rows.nextKey, cols))
          call := none }

/-- The second half of a call; `refKey` is what `generate_ref_key` would return. -/
def finish (s : Store) (p : Nat) (refKey : Option (List Char)) : Store :=
  match (s.processes p).call with
  | none => s
  | some (src, some (k, instance_)) => finishFound sha256 lower s p src k instance_ refKey
  | some (src, none) => finishCreate sha256 lower s p src refKey

/-- What happens to the store. -/
inductive StoreEvent
  | lookUp (p : Nat) (src : Source)
  | finish (p : Nat) (refKey : Option (List Char))
  /-- Someone else writes columns of a row. -/
  | update (k : Nat) (write : Columns → Columns)
  /-- `warm_owned_product_cache` and `clear_owned_product_cache`. -/
  | warm (p : Nat)
  | clear (p : Nat)

def storeStep (s : Store) : StoreEvent → Store
  | .lookUp p src => lookUp s p src
  | .finish p refKey => finish sha256 lower s p refKey
  | .update k write =>
    { s with rows := s.rows.updateWhere (fun j _ => j == k) fun row =>
        { row with columns := write row.columns } }
  | .warm p => s.setProcess p { s.processes p with cache := find s.rows }
  | .clear p => s.setProcess p { s.processes p with cache := fun _ => none }

/-! ### What is to hold -/

/-- The columns whose first value stays: the password and the contact columns. -/
def Column.firstWins : Column → Bool
  | .password | .email | .emailPassword | .emailLoginLink | .securityEmail
  | .securityEmailPassword => true
  | _ => false

/-- Two products of a category have different logins, stripped. -/
def OnePerLogin (s : Store) : Prop :=
  ∀ i j a b, s.rows.get? i = some a → s.rows.get? j = some b → a.category = b.category →
    stripChars a.login = stripChars b.login → i = j

/-- The stored hash is that of the stored password. -/
def HashMatches (s : Store) : Prop :=
  ∀ k row, s.rows.get? k = some row →
    row.columns .passwordHash = hashOf sha256 (row.columns .password)

/-- A call overwrites no first value. -/
def KeepsFirst (s : Store) : StoreEvent → Prop
  | .update _ _ => True
  | e => ∀ k row row', s.rows.get? k = some row →
      (storeStep sha256 lower s e).rows.get? k = some row' →
        ∀ c : Column, c.firstWins = true → row.columns c ≠ [] → row'.columns c = row.columns c

/-- **The condition on a save.**  Each column it fills with another value is empty in the row: the
instance it tested is not stale there. -/
def FreshSave (s : Store) : StoreEvent → Prop
  | .finish p refKey => ∀ src k instance_ row,
      (s.processes p).call = some (src, some (k, instance_)) →
      ¬(instance_ .refKey = [] ∧ refKey = none) → s.rows.get? k = some row →
        ∀ c : Column, c.firstWins = true → ∀ v, updates sha256 lower src instance_ c = some v →
          row.columns c = [] ∨ row.columns c = v
  | _ => True

/-- **The condition on the others**: they write a password with its hash. -/
def HashedUpdate (s : Store) : StoreEvent → Prop
  | .update k write => ∀ row, s.rows.get? k = some row →
      write row.columns .passwordHash = hashOf sha256 (write row.columns .password)
  | _ => True

/-- The products the history starts from: logins are unique and stripped, hashes right. -/
structure Store.Sound (s : Store) : Prop where
  unique : s.rows.Unique OwnedProduct.key
  stripped : ∀ k row, s.rows.get? k = some row → stripChars row.login = row.login
  hashed : HashMatches sha256 s

end Upsert

/-! ### One step -/

section Steps

variable {sha256 lower : List Char → List Char} {s : Store} {e : StoreEvent} {p k : Nat}
variable {src : Source} {instance_ : Columns} {refKey : Option (List Char)}

@[simp] theorem setProcess_rows (s : Store) (p : Nat) (process : Process) :
    (s.setProcess p process).rows = s.rows := rfl

@[simp] theorem lookUp_rows (s : Store) (p : Nat) (src : Source) :
    (lookUp s p src).rows = s.rows := by
  unfold lookUp
  dsimp only
  split
  · rfl
  · split <;> rfl

/-- What a step can make of the rows: the same, a new product, new columns of one. -/
def RowsStep (sha256 lower : List Char → List Char) (s : Store) (rows : Table OwnedProduct) : Prop :=
  rows = s.rows ∨
    (∃ src refKey, s.rows.holds OwnedProduct.key (some src.key) = false ∧
      rows = s.rows.create {
        category := src.key.1, login := src.key.2, columns := created sha256 lower src refKey }) ∨
    ∃ k, ∃ write : Columns → Columns,
      rows = s.rows.updateWhere (fun j _ => j == k) fun row =>
        { row with columns := write row.columns }

/-- **What a step does to the rows**. -/
theorem storeStep_rows (sha256 lower : List Char → List Char) (s : Store) (e : StoreEvent) :
    RowsStep sha256 lower s (storeStep sha256 lower s e).rows := by
  cases e with
  | lookUp p src => exact .inl (lookUp_rows s p src)
  | update k write => exact .inr (.inr ⟨k, write, rfl⟩)
  | warm p => exact .inl rfl
  | clear p => exact .inl rfl
  | finish p refKey =>
    show RowsStep sha256 lower s (finish sha256 lower s p refKey).rows
    unfold finish
    rcases (s.processes p).call with - | ⟨src, - | ⟨k, instance_⟩⟩
    · exact .inl rfl
    · -- nothing was found: a new product, unless there is one by now
      show RowsStep sha256 lower s (finishCreate sha256 lower s p src refKey).rows
      unfold finishCreate
      rcases refKey with - | refKey
      · exact .inl rfl
      dsimp only
      by_cases hheld : s.rows.holds OwnedProduct.key (some src.key) = true
      · rw [if_pos hheld]
        exact .inl rfl
      · rw [if_neg hheld]
        exact .inr (.inl ⟨src, refKey, Bool.not_eq_true _ ▸ hheld, rfl⟩)
    · show RowsStep sha256 lower s (finishFound sha256 lower s p src k instance_ refKey).rows
      unfold finishFound
      dsimp only
      split
      · exact .inl rfl
      · exact .inr (.inr ⟨k, fun cols => cols.apply _, rfl⟩)

/-- Logins stay unique and stripped. -/
theorem identity_step (hunique : s.rows.Unique OwnedProduct.key)
    (hstripped : ∀ k row, s.rows.get? k = some row → stripChars row.login = row.login)
    (e : StoreEvent) :
    (storeStep sha256 lower s e).rows.Unique OwnedProduct.key ∧
      ∀ k row, (storeStep sha256 lower s e).rows.get? k = some row →
        stripChars row.login = row.login := by
  rcases storeStep_rows sha256 lower s e with hrows | ⟨src, refKey, hfree, hrows⟩ | ⟨k, write, hrows⟩
  · rw [hrows]
    exact ⟨hunique, hstripped⟩
  · rw [hrows]
    refine ⟨hunique.create hfree, fun j row hj => ?_⟩
    rw [Table.get?_create] at hj
    split at hj
    · cases hj
      exact stripChars_stripChars _
    · exact hstripped j row hj
  · rw [hrows]
    refine ⟨hunique.mapRows fun j row x hx => ?_, fun j row hj => ?_⟩
    · split at hx <;> exact hx
    · rw [Table.get?_updateWhere] at hj
      obtain ⟨row', hrow', rfl⟩ := Option.map_eq_some_iff.mp hj
      have hlogin := hstripped j row' hrow'
      split <;> exact hlogin

theorem onePerLogin (hunique : s.rows.Unique OwnedProduct.key)
    (hstripped : ∀ k row, s.rows.get? k = some row → stripChars row.login = row.login) :
    OnePerLogin s := by
  intro i j a b hi hj hcategory hlogin
  rw [hstripped i a hi, hstripped j b hj] at hlogin
  exact hunique i j a b (b.category, b.login) hi hj (by rw [OwnedProduct.key, hcategory, hlogin]) rfl

/-- What a fill leaves: the password and its hash together. -/
theorem hash_apply {cols : Columns} (hcols : cols .passwordHash = hashOf sha256 (cols .password))
    (src : Source) (instance_ : Columns) (refKey : List Char) :
    cols.apply (updatesWith sha256 lower src instance_ refKey) .passwordHash
      = hashOf sha256 (cols.apply (updatesWith sha256 lower src instance_ refKey) .password) := by
  show (((fill (resolvePassword lower src.parsed src.category) (instance_ .password)).map
      (hashOf sha256)).getD (cols .passwordHash)) = hashOf sha256
    ((fill (resolvePassword lower src.parsed src.category) (instance_ .password)).getD
      (cols .password))
  rcases fill (resolvePassword lower src.parsed src.category) (instance_ .password) with - | v
  · exact hcols
  · rfl

/-- **Hashes stay right** exactly when the others write them right. -/
theorem hash_step (h : HashMatches sha256 s) (e : StoreEvent) :
    HashMatches sha256 (storeStep sha256 lower s e) ↔ HashedUpdate sha256 s e := by
  cases e with
  | lookUp p src =>
    refine iff_of_true (fun k row hk => h k row ?_) trivial
    rwa [show (storeStep sha256 lower s (.lookUp p src)).rows = s.rows from lookUp_rows s p src] at hk
  | warm p => exact iff_of_true h trivial
  | clear p => exact iff_of_true h trivial
  | update k write =>
    constructor
    · intro hafter row hk
      have hrow : (storeStep sha256 lower s (.update k write)).rows.get? k
          = some { row with columns := write row.columns } := by
        show (s.rows.updateWhere _ _).get? k = _
        rw [Table.get?_updateWhere, hk]
        simp
      exact hafter k _ hrow
    · intro hwrite j row hj
      change (s.rows.updateWhere _ _).get? j = _ at hj
      rw [Table.get?_updateWhere] at hj
      obtain ⟨row', hrow', rfl⟩ := Option.map_eq_some_iff.mp hj
      by_cases hjk : j = k
      · subst hjk
        rw [if_pos (by simp)]
        exact hwrite row' hrow'
      · rw [if_neg (by simpa using hjk)]
        exact h j row' hrow'
  | finish p refKey =>
    refine iff_of_true ?_ trivial
    show HashMatches sha256 (finish sha256 lower s p refKey)
    unfold finish
    rcases (s.processes p).call with - | ⟨src, - | ⟨k, instance_⟩⟩
    · exact h
    · show HashMatches sha256 (finishCreate sha256 lower s p src refKey)
      unfold finishCreate
      rcases refKey with - | refKey
      · exact h
      dsimp only
      split
      · exact h
      · intro j row hj
        change (s.rows.create _).get? j = _ at hj
        rw [Table.get?_create] at hj
        split at hj
        · cases hj
          rfl
        · exact h j row hj
    · show HashMatches sha256 (finishFound sha256 lower s p src k instance_ refKey)
      unfold finishFound
      dsimp only
      split
      · exact h
      · intro j row hj
        change (s.rows.updateWhere _ _).get? j = _ at hj
        rw [Table.get?_updateWhere] at hj
        obtain ⟨row', hrow', rfl⟩ := Option.map_eq_some_iff.mp hj
        split
        · exact hash_apply (h j row' hrow') src instance_ _
        · exact h j row' hrow'

theorem keepsFirst_of_rows {rows : Table OwnedProduct} (h : ∀ k row, s.rows.get? k = some row →
    rows.get? k = some row) : ∀ k row row', s.rows.get? k = some row → rows.get? k = some row' →
      ∀ c : Column, c.firstWins = true → row.columns c ≠ [] → row'.columns c = row.columns c := by
  intro k row row' hrow hrow' c _ _
  rw [h k row hrow] at hrow'
  cases hrow'
  rfl

/-- **A save overwrites no first value** exactly if it is fresh. -/
theorem keepsFirst_iff (s : Store) (e : StoreEvent) :
    KeepsFirst sha256 lower s e ↔ FreshSave sha256 lower s e := by
  cases e with
  | update k write => exact Iff.rfl
  | lookUp p src =>
    refine iff_of_true ?_ trivial
    show ∀ k row row', _ → (lookUp s p src).rows.get? k = some row' → _
    rw [lookUp_rows]
    exact keepsFirst_of_rows fun _ _ h => h
  | warm p => exact iff_of_true (keepsFirst_of_rows fun _ _ h => h) trivial
  | clear p => exact iff_of_true (keepsFirst_of_rows fun _ _ h => h) trivial
  | finish p refKey =>
    unfold KeepsFirst FreshSave
    show (∀ k row row', s.rows.get? k = some row →
      (finish sha256 lower s p refKey).rows.get? k = some row' → _) ↔ _
    unfold finish
    rcases hcall : (s.processes p).call with - | ⟨src, - | ⟨k, instance_⟩⟩
    · refine iff_of_true (keepsFirst_of_rows fun _ _ h => h) fun src k instance_ row hcall' => ?_
      exact absurd (hcall.symm.trans hcall') nofun
    · -- a new product leaves the others alone
      refine iff_of_true (keepsFirst_of_rows fun k row h => ?_) fun src' k instance_ row hcall' => ?_
      case refine_2 => exact absurd (hcall.symm.trans hcall') (by simp)
      show (finishCreate sha256 lower s p src refKey).rows.get? k = some row
      unfold finishCreate
      rcases refKey with - | refKey
      · exact h
      dsimp only
      split
      · exact h
      · exact Table.get?_create_of_some h
    show (∀ j row row', s.rows.get? j = some row →
      (finishFound sha256 lower s p src k instance_ refKey).rows.get? j = some row' → _) ↔ _
    unfold finishFound
    dsimp only
    by_cases hraise : instance_ .refKey = [] ∧ refKey = none
    · rw [if_pos hraise]
      refine iff_of_true (keepsFirst_of_rows fun _ _ h => h) ?_
      intro src' k' instance' row hcall' hnot
      cases hcall.symm.trans hcall'
      exact absurd hraise hnot
    rw [if_neg hraise]
    -- a first value comes from the fill, or is the one of the row
    have hrefKey : ∀ c : Column, c.firstWins = true →
        updatesWith sha256 lower src instance_ (refKey.getD []) c
          = updates sha256 lower src instance_ c := by
      intro c hc
      exact if_neg fun h => by rw [h] at hc; cases hc
    constructor
    · intro hkeeps src' k' instance' row hcall' _ hrow c hc v hv
      cases hcall.symm.trans hcall'
      by_cases hempty : row.columns c = []
      · exact .inl hempty
      right
      have hafter := hkeeps k row _ hrow (by
        rw [setProcess_rows, Table.get?_updateWhere, hrow, Option.map_some,
          if_pos (by simp)]) c hc hempty
      rw [← hafter]
      show (updatesWith sha256 lower src instance_ (refKey.getD []) c).getD _ = v
      rw [hrefKey c hc, hv]
      rfl
    · intro hfresh j row row' hrow hrow' c hc hne
      rw [setProcess_rows, Table.get?_updateWhere, hrow, Option.map_some] at hrow'
      by_cases hjk : j = k
      · subst hjk
        rw [if_pos (by simp)] at hrow'
        cases hrow'
        show (updatesWith sha256 lower src instance_ (refKey.getD []) c).getD (row.columns c) = _
        rw [hrefKey c hc]
        rcases hv : updates sha256 lower src instance_ c with - | v
        · rfl
        · exact ((hfresh src j instance_ row hcall hraise hrow c hc v hv).resolve_left hne).symm
      · rw [if_neg (by simpa using hjk)] at hrow'
        cases hrow'
        rfl

/-! ### Whole histories -/

end Steps

/-! ### A cache that is older than its row -/

def someCategory : Category := { pk := 1, name := "Fortnite".toList }

/-- Credentials of the login `a`. -/
def sourceOf (password : String) : Source where
  parsed := { login := "a".toList, password := password.toList }
  category := someCategory

/-- A product without a password, with a reference key. -/
def bareProduct : OwnedProduct where
  category := 1
  login := "a".toList
  columns := fun c => if c = .refKey then "#ABC1234".toList else []

def bareStore : Store where
  rows := Table.empty.create bareProduct

theorem bareStore_row {k : Nat} {row : OwnedProduct} (h : bareStore.rows.get? k = some row) :
    row = bareProduct := by
  change (Table.empty.create bareProduct).get? k = _ at h
  rw [Table.get?_create] at h
  split at h
  · exact (Option.some.inj h).symm
  · cases h

theorem bareStore_sound (sha256 : List Char → List Char) : bareStore.Sound sha256 where
  unique := Table.unique_empty.create rfl
  stripped k row hk := by
    rw [bareStore_row hk]
    decide
  hashed k row hk := by
    rw [bareStore_row hk]
    rfl

/-- A process fills the password, and finds it filled the next time. -/
def freshCalls : List StoreEvent :=
  [.lookUp 1 (sourceOf "first"), .finish 1 none, .lookUp 1 (sourceOf "second"), .finish 1 none]

/-- Process 1 caches the product without a password; process 2 fills the password; process 1, which
still holds the empty one, fills it again. -/
def staleCalls : List StoreEvent :=
  [.lookUp 1 (sourceOf ""), .finish 1 none, .lookUp 2 (sourceOf "first"), .finish 2 none,
    .lookUp 1 (sourceOf "second"), .finish 1 none]

end Sda.Sync.OwnedProducts
