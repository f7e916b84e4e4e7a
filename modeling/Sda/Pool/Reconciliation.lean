/-
Sda/Pool/Reconciliation.lean

`_reconcile_pushed_items` (services/pool/replenisher.py): which PUSHED items of a
lane are consumed because the remote offer has lost credentials.

An item is looked for by the id of its remote credential, by its rendered text,
and on Eldorado by the fingerprint of that text.  What is found stays; so does an
item that cannot be rendered as a text, since nothing proves it absent.  Of the
rest, only as many are consumed as the remote count is short of.

* `exec_scanItems`, `exec_consumeItems` — what the two loops write;
* `Settled` — what a run leaves: exactly the consumed items, the others as they
  were up to the id of a remote credential;
* `look_noted` — an item that was found is found again by the next run;
* `reconcile_consumes` — what a run consumes, in which order, and that the next
  run against the same list consumes nothing;
* `reconcile_consumes_fails` — an item that cannot be rendered.

The renderer and the fingerprint are parameters.  What the order binder does with
the consumed items is `Sda.Pool.OrderBinding`.
-/
import Mathlib.Data.Prod.Lex
import Mathlib.Data.List.Sort
import Sda.Lib.Text
import Sda.Pool.Db

namespace Sda

open Prog

/-- What `format_credential_for_marketplace` returns: a text, or the dict of PA. -/
inductive Rendered
  | text (credential : String)
  | dict
  deriving DecidableEq, Repr

/-- The lane a run works for. -/
structure Lane where
  pool : Nat
  poolOffer : Nat
  listing : Nat
  provider : Provider
  deriving DecidableEq, Repr

/-- The credentials of the remote offer, as the arguments give them. -/
structure RemoteCredentials where
  creds : List String
  ids : List String := []
  idByText : List (String × String) := []
  deriving DecidableEq, Repr

section Reconciliation

variable (render : Nat → Except PyError Rendered) (fingerprint : String → Option String)
variable (lane : Lane) (remote : RemoteCredentials)

/-! ### Looking for an item -/

/-- `remote_id_set`. -/
def RemoteCredentials.idSet (remote : RemoteCredentials) : List String :=
  (remote.ids.map stripText).filter fun id => id ≠ ""

/-- `remote_id_by_text.get(text, '')`: the last entry of a text counts. -/
def RemoteCredentials.idOf (remote : RemoteCredentials) (text : String) : String :=
  (((remote.idByText.map fun e => (stripText e.1, stripText e.2)).filter fun e =>
    e.1 ≠ "" && e.2 ≠ "").reverse.lookup text).getD ""

/-- What is known of an item after it was looked for. -/
inductive Sighting
  | present
  | presentAs (remoteId : String)
  | uncertain
  | missing
  deriving DecidableEq, Repr

/-- Does a remote credential have the fingerprint of the text? -/
def sameFingerprint (expected : String) : Bool :=
  match fingerprint expected with
  | some fp => fp ≠ "" && remote.creds.any fun rc => fingerprint rc == some fp
  | none => false

/-- One item is looked for. -/
def look (r : ItemRow) : Sighting :=
  if r.remoteCredentialId ≠ "" && remote.idSet ≠ [] &&
      remote.idSet.contains (stripText r.remoteCredentialId) then
    .present
  else
    match render r.ownedProduct with
    | .error _ => .uncertain
    | .ok .dict => .uncertain
    | .ok (.text credential) =>
      if remote.creds.any fun rc => stripText rc == stripText credential then
        .presentAs (remote.idOf (stripText credential))
      else if lane.provider = .eldorado && sameFingerprint fingerprint remote (stripText credential)
      then .present
      else .missing

/-- Found by the id of its remote credential. -/
def FoundById (r : ItemRow) : Prop :=
  r.remoteCredentialId ≠ "" ∧ stripText r.remoteCredentialId ∈ remote.idSet

/-- Found by its text. -/
def FoundByText (r : ItemRow) : Prop :=
  ∃ credential, render r.ownedProduct = .ok (.text credential) ∧
    ∃ rc ∈ remote.creds, stripText rc = stripText credential

/-- Found by the fingerprint of its text. -/
def FoundByFingerprint (r : ItemRow) : Prop :=
  lane.provider = .eldorado ∧ ∃ credential fp, render r.ownedProduct = .ok (.text credential) ∧
    fingerprint (stripText credential) = some fp ∧ fp ≠ "" ∧
    ∃ rc ∈ remote.creds, fingerprint rc = some fp

/-- The item is found. -/
def Found (r : ItemRow) : Prop :=
  FoundById remote r ∨ FoundByText render remote r ∨
    FoundByFingerprint render fingerprint lane remote r

/-- The item can be rendered as a text. -/
def RendersText (r : ItemRow) : Prop :=
  ∃ credential, render r.ownedProduct = .ok (.text credential)

/-! ### A run -/

/-- The PUSHED items of the lane, in the order of the table's `Meta`. -/
def lanePushed (db : Db) : List (Nat × ItemRow) :=
  (db.items.table.select fun _ r =>
      r.pool == lane.pool && r.status == .pushed && r.poolOffer == some lane.poolOffer).insertionSort
    fun a b => toLex (a.2.order, a.2.createdAt) ≤ toLex (b.2.order, b.2.createdAt)

/-- The row of an item that was found under another id. -/
def noted (sighting : Sighting) (r : ItemRow) : ItemRow :=
  match sighting with
  | .presentAs remoteId =>
    if remoteId ≠ "" ∧ r.remoteCredentialId ≠ remoteId then
      ({ r with remoteCredentialId := remoteId, remoteState := .present } : ItemRow).keepLiveOwner
    else r
  | _ => r

/-- The first loop: ids that changed are saved, and the missing items collected. -/
def scanItems (lookFor : ItemRow → Sighting) :
    List (Nat × ItemRow) → Prog PyError Db (List (Nat × ItemRow))
  | [] => pure []
  | (k, r) :: rest =>
    match lookFor r with
    | .missing => do
      let missing ← scanItems lookFor rest
      pure ((k, r) :: missing)
    | .presentAs remoteId =>
      if remoteId ≠ "" ∧ r.remoteCredentialId ≠ remoteId then do
        atomically fun db =>
          db.saveItem k { r with remoteCredentialId := remoteId, remoteState := .present }
        scanItems lookFor rest
      else scanItems lookFor rest
    | .present | .uncertain => scanItems lookFor rest

/-- `_removal_certainty`. -/
def removalCertainty (item : Nat × ItemRow) : Nat ×ₗ Nat ×ₗ Nat :=
  let idAbsent := item.2.remoteCredentialId ≠ "" ∧ remote.idSet ≠ [] ∧
    stripText item.2.remoteCredentialId ∉ remote.idSet
  toLex (if idAbsent then 0 else 1, toLex (item.2.order, item.1))

/-- The row of a consumed item. -/
def removedFromRemote (now : Nat) (r : ItemRow) : ItemRow :=
  { r with status := .consumed, consumedAt := some now, remoteState := .absent,
           errorMessage := "Removed from remote offer" }

/-- One item is consumed, and its product unlinked from the listing. -/
def consumeItem (item : Nat × ItemRow) : Prog PyError Db Unit := do
  atomically fun db => db.saveItem item.1 (removedFromRemote db.now item.2)
  change fun db =>
    { db with
      listingOwnedProducts := db.listingOwnedProducts.deleteWhere fun _ l =>
        l.listing == lane.listing && l.ownedProduct == item.2.ownedProduct
      ownedProducts := db.ownedProducts.updateWhere
        (fun k p => k == item.2.ownedProduct && p.status == .listed)
        fun p => { p with status := .draft } }

/-- **`_reconcile_pushed_items`**, up to the order binder: the items consumed. -/
def reconcilePushedItems : Prog PyError Db (List (Nat × ItemRow)) := do
  let pushed ← atomic fun db => .ok (lanePushed lane db, db)
  if pushed = [] then
    pure []
  else
    let missing ← scanItems (look render fingerprint lane remote) pushed
    let shortfall := pushed.length - remote.creds.length
    if shortfall = 0 ∨ missing = [] then
      pure []
    else
      let consumed := (missing.insertionSort fun a b =>
        removalCertainty remote a ≤ removalCertainty remote b).take shortfall
      each consumed (consumeItem lane)
      pure consumed

/-- The PUSHED items of the lane that are rendered as a text and not found. -/
def missingItems (db : Db) : List (Nat × ItemRow) :=
  (lanePushed lane db).filter fun item => look render fingerprint lane remote item.2 = .missing

variable {render fingerprint lane remote}
variable {db db' : Db} {k : Nat} {r : ItemRow} {items : List (Nat × ItemRow)}
variable {lookFor : ItemRow → Sighting}

/-! ### What looking for an item says -/

theorem sameFingerprint_iff {expected : String} :
    sameFingerprint fingerprint remote expected = true ↔
      ∃ fp, fingerprint expected = some fp ∧ fp ≠ "" ∧ ∃ rc ∈ remote.creds, fingerprint rc = some fp := by
  unfold sameFingerprint
  split
  · rename_i fp hfp
    simp [hfp]
  · rename_i hnone
    simp [hnone]

/-- **An item is missing** when it is rendered as a text and not found. -/
theorem look_eq_missing_iff :
    look render fingerprint lane remote r = .missing ↔
      RendersText render r ∧ ¬Found render fingerprint lane remote r := by
  have hid : (r.remoteCredentialId ≠ "" && remote.idSet ≠ [] &&
      remote.idSet.contains (stripText r.remoteCredentialId)) = true ↔ FoundById remote r := by
    simp only [Bool.and_eq_true, decide_eq_true_eq, List.contains_eq_mem, FoundById]
    constructor
    · rintro ⟨⟨hne, -⟩, hmem⟩
      exact ⟨hne, hmem⟩
    · rintro ⟨hne, hmem⟩
      exact ⟨⟨hne, List.ne_nil_of_mem hmem⟩, hmem⟩
  unfold look Found RendersText FoundByText FoundByFingerprint
  split
  · rename_i hfound
    simp [hid.mp hfound]
  rename_i hnot
  have hnot : ¬FoundById remote r := fun h => hnot (hid.mpr h)
  split
  · rename_i e herr
    simp [herr]
  · rename_i hdict
    simp [hdict]
  rename_i credential hrender
  split
  · rename_i htext
    simp only [List.any_eq_true, beq_iff_eq] at htext
    constructor
    · exact nofun
    · rintro ⟨-, hfound⟩
      exact absurd (.inr (.inl ⟨credential, hrender, htext⟩)) hfound
  rename_i htext
  simp only [List.any_eq_true, beq_iff_eq] at htext
  split
  · rename_i hfp
    simp only [Bool.and_eq_true, decide_eq_true_eq, sameFingerprint_iff] at hfp
    obtain ⟨hprovider, fp, hfp⟩ := hfp
    constructor
    · exact nofun
    · rintro ⟨-, hfound⟩
      exact absurd (.inr (.inr ⟨hprovider, credential, fp, hrender, hfp⟩)) hfound
  · rename_i hfp
    simp only [Bool.and_eq_true, decide_eq_true_eq, sameFingerprint_iff] at hfp
    refine ⟨fun _ => ⟨⟨credential, hrender⟩, ?_⟩, fun _ => rfl⟩
    rintro (h | ⟨c, hc, h⟩ | ⟨hprovider, c, fp, hc, h⟩)
    · exact hnot h
    · cases hrender.symm.trans hc
      exact htext h
    · cases hrender.symm.trans hc
      exact hfp ⟨hprovider, fp, h⟩

/-- Saving the id of a remote credential keeps what the item is looked for by. -/
theorem noted_fields (sighting : Sighting) (r : ItemRow) :
    (noted sighting r).ownedProduct = r.ownedProduct ∧ (noted sighting r).status = r.status ∧
      (noted sighting r).pool = r.pool ∧ (noted sighting r).poolOffer = r.poolOffer := by
  unfold noted
  split
  · split <;> simp
  · simp

/-- **What was found is found again**: by the id that was saved, or by the text. -/
theorem look_noted (h : look render fingerprint lane remote r ≠ .missing) :
    look render fingerprint lane remote (noted (look render fingerprint lane remote r) r)
      ≠ .missing := by
  rw [Ne, look_eq_missing_iff] at h ⊢
  rintro ⟨⟨credential, hrender⟩, hnot⟩
  rw [(noted_fields _ r).1] at hrender
  have hfound : Found render fingerprint lane remote r := by
    by_contra hfound
    exact h ⟨⟨credential, hrender⟩, hfound⟩
  apply hnot
  rcases hfound with hid | ⟨c, hc, htext⟩ | ⟨hprovider, c, fp, hc, hfp⟩
  · -- an item found by its id keeps it
    have hpresent : look render fingerprint lane remote r = .present := by
      unfold look
      rw [if_pos]
      simp only [Bool.and_eq_true, decide_eq_true_eq, List.contains_eq_mem]
      exact ⟨⟨hid.1, List.ne_nil_of_mem hid.2⟩, hid.2⟩
    rw [hpresent]
    exact .inl hid
  · exact .inr (.inl ⟨c, by rw [(noted_fields _ r).1]; exact hc, htext⟩)
  · exact .inr (.inr ⟨hprovider, c, fp, by rw [(noted_fields _ r).1]; exact hc, hfp⟩)

/-! ### The items of the lane -/

theorem mem_lanePushed {item : Nat × ItemRow} :
    item ∈ lanePushed lane db ↔ db.item? item.1 = some item.2 ∧ item.2.pool = lane.pool ∧
      item.2.status = .pushed ∧ item.2.poolOffer = some lane.poolOffer := by
  unfold lanePushed
  rw [List.mem_insertionSort, Table.mem_select]
  simp only [Bool.and_eq_true, beq_iff_eq, and_assoc]
  exact Iff.rfl

theorem lanePushed_keys_nodup (lane : Lane) (db : Db) : ((lanePushed lane db).map Prod.fst).Nodup := by
  unfold lanePushed
  exact ((List.perm_insertionSort _ _).map Prod.fst).nodup_iff.mpr Table.select_keys_nodup

/-! ### What the loops write -/

/-- The first loop saves ids only, and returns the missing items. -/
theorem exec_scanItems {missing : List (Nat × ItemRow)} (hnodup : (items.map Prod.fst).Nodup)
    (hrows : ∀ item ∈ items, db.item? item.1 = some item.2)
    (h : exec (scanItems lookFor items) db = (.ok missing, db')) :
    missing = items.filter (fun item => lookFor item.2 = .missing) ∧ db'.now = db.now ∧
      (∀ item ∈ items, db'.item? item.1 = some (noted (lookFor item.2) item.2)) ∧
      (∀ j, (∀ item ∈ items, item.1 ≠ j) → db'.item? j = db.item? j) := by
  induction items generalizing db missing with
  | nil =>
    cases h
    exact ⟨rfl, rfl, (fun _ h => nomatch h), fun _ _ => rfl⟩
  | cons item rest ih =>
    obtain ⟨k, r⟩ := item
    rw [List.map_cons, List.nodup_cons] at hnodup
    obtain ⟨hk, hnodup⟩ := hnodup
    have hne : ∀ item ∈ rest, item.1 ≠ k := by
      rintro item hitem rfl
      exact hk (List.mem_map.mpr ⟨item, hitem, rfl⟩)
    have hr : db.item? k = some r := hrows _ List.mem_cons_self
    have hrest : ∀ item ∈ rest, db.item? item.1 = some item.2 :=
      fun item hitem => hrows item (List.mem_cons_of_mem _ hitem)
    -- nothing is saved for this item
    have skip : ∀ {missing}, noted (lookFor r) r = r →
        exec (scanItems lookFor rest) db = (.ok missing, db') →
        missing = rest.filter (fun item => lookFor item.2 = .missing) ∧ db'.now = db.now ∧
          (∀ item ∈ (k, r) :: rest, db'.item? item.1 = some (noted (lookFor item.2) item.2)) ∧
          (∀ j, (∀ item ∈ (k, r) :: rest, item.1 ≠ j) → db'.item? j = db.item? j) := by
      intro missing hsame hexec
      obtain ⟨hmissing, hnow, hin, hout⟩ := ih hnodup hrest hexec
      refine ⟨hmissing, hnow, ?_, fun j hj => hout j fun item hitem => hj item (List.mem_cons_of_mem _ hitem)⟩
      intro item hitem
      rcases List.mem_cons.mp hitem with rfl | hitem
      · rw [hsame, hout k hne, hr]
      · exact hin item hitem
    unfold scanItems at h
    split at h
    · rename_i hlook
      rw [exec_bind] at h
      rcases hexec : exec (scanItems lookFor rest) db with ⟨e | missing', db''⟩
      · rw [hexec] at h
        cases h
      · rw [hexec] at h
        cases h
        obtain ⟨hmissing, hnow, hin, hout⟩ := skip (by rw [hlook]; rfl) hexec
        refine ⟨?_, hnow, hin, hout⟩
        rw [List.filter_cons_of_pos (by simpa using hlook), hmissing]
    · rename_i remoteId hlook
      split at h
      · rename_i hchanged
        rw [exec_bind] at h
        rcases hsave : db.saveItem k
            { r with remoteCredentialId := remoteId, remoteState := .present } with e | db₁
        · rw [exec_atomically_error hsave] at h
          cases h
        · rw [exec_atomically_ok hsave] at h
          have hrow := fun j => Db.item?_saveItem (j := j) hsave hr
          have hnow₁ : db₁.now = db.now := by
            obtain ⟨items, -, rfl⟩ := Db.saveItem_ok hsave
            rfl
          have hrest₁ : ∀ item ∈ rest, db₁.item? item.1 = some item.2 := by
            intro item hitem
            rw [hrow, if_neg (hne item hitem)]
            exact hrest item hitem
          obtain ⟨hmissing, hnow, hin, hout⟩ := ih hnodup hrest₁ h
          refine ⟨?_, hnow.trans hnow₁, ?_, ?_⟩
          · rw [List.filter_cons_of_neg (by simp [hlook]), hmissing]
          · intro item hitem
            rcases List.mem_cons.mp hitem with rfl | hitem
            · rw [hout k hne, hrow, if_pos rfl]
              simp only [hlook, noted]
              rw [if_pos hchanged]
            · exact hin item hitem
          · intro j hj
            rw [hout j fun item hitem => hj item (List.mem_cons_of_mem _ hitem), hrow, if_neg]
            exact (hj _ List.mem_cons_self).symm
      · rename_i hsame
        obtain ⟨hmissing, hrest'⟩ := skip (by rw [hlook]; exact if_neg hsame) h
        exact ⟨by rw [List.filter_cons_of_neg (by simp [hlook]), hmissing], hrest'⟩
    · rename_i hlook
      obtain ⟨hmissing, hrest'⟩ := skip (by rw [hlook]; rfl) h
      exact ⟨by rw [List.filter_cons_of_neg (by simp [hlook]), hmissing], hrest'⟩
    · rename_i hlook
      obtain ⟨hmissing, hrest'⟩ := skip (by rw [hlook]; rfl) h
      exact ⟨by rw [List.filter_cons_of_neg (by simp [hlook]), hmissing], hrest'⟩

/-- What the consumption of an item writes to the items. -/
theorem exec_consumeItem {item : Nat × ItemRow} (hr : db.item? item.1 = some item.2)
    (h : exec (consumeItem lane item) db = (.ok (), db')) :
    db'.now = db.now ∧
      ∀ j, db'.item? j =
        if j = item.1 then some (removedFromRemote db.now item.2).keepLiveOwner else db.item? j := by
  rw [consumeItem, exec_bind] at h
  rcases hsave : db.saveItem item.1 (removedFromRemote db.now item.2) with e | db₁
  · rw [exec_atomically_error hsave] at h
    cases h
  · rw [exec_atomically_ok hsave] at h
    cases h
    have hrow := fun j => Db.item?_saveItem (j := j) hsave hr
    obtain ⟨items, -, rfl⟩ := Db.saveItem_ok hsave
    exact ⟨rfl, hrow⟩

/-- The second loop consumes its items and leaves the other rows. -/
theorem exec_consumeItems (hnodup : (items.map Prod.fst).Nodup)
    (hrows : ∀ item ∈ items, db.item? item.1 = some item.2)
    (h : exec (each items (consumeItem lane)) db = (.ok (), db')) :
    (∀ item ∈ items, db'.item? item.1 = some (removedFromRemote db.now item.2).keepLiveOwner) ∧
      (∀ j, (∀ item ∈ items, item.1 ≠ j) → db'.item? j = db.item? j) := by
  induction items generalizing db with
  | nil =>
    cases h
    exact ⟨(fun _ h => nomatch h), fun _ _ => rfl⟩
  | cons item rest ih =>
    rw [List.map_cons, List.nodup_cons] at hnodup
    obtain ⟨hk, hnodup⟩ := hnodup
    have hne : ∀ item' ∈ rest, item'.1 ≠ item.1 := by
      intro item' hitem heq
      apply hk
      rw [← heq]
      exact List.mem_map_of_mem hitem
    rw [each, exec_bind] at h
    rcases hexec : exec (consumeItem lane item) db with ⟨e | ⟨⟩, db₁⟩
    · rw [hexec] at h
      cases h
    rw [hexec] at h
    obtain ⟨hnow, hrow⟩ := exec_consumeItem (hrows _ List.mem_cons_self) hexec
    have hrest : ∀ item' ∈ rest, db₁.item? item'.1 = some item'.2 := by
      intro item' hitem
      rw [hrow, if_neg (hne item' hitem)]
      exact hrows item' (List.mem_cons_of_mem _ hitem)
    obtain ⟨hin, hout⟩ := ih hnodup hrest h
    rw [hnow] at hin
    constructor
    · intro item' hitem
      rcases List.mem_cons.mp hitem with rfl | hitem
      · rw [hout _ hne, hrow, if_pos rfl]
      · exact hin item' hitem
    · intro j hj
      rw [hout j fun item' hitem => hj item' (List.mem_cons_of_mem _ hitem), hrow, if_neg]
      exact (hj _ List.mem_cons_self).symm

/-! ### A whole run -/

/-- What a run leaves of the items: the consumed ones, the other PUSHED items of the lane with the
ids under which they were found, and every other row as it was. -/
structure Settled (render : Nat → Except PyError Rendered) (fingerprint : String → Option String)
    (lane : Lane) (remote : RemoteCredentials) (db : Db) (consumed : List (Nat × ItemRow))
    (db' : Db) : Prop where
  gone : ∀ item ∈ consumed, db'.item? item.1 = some (removedFromRemote db.now item.2).keepLiveOwner
  kept : ∀ item ∈ lanePushed lane db, item ∉ consumed →
    db'.item? item.1 = some (noted (look render fingerprint lane remote item.2) item.2)
  others : ∀ j, (∀ item ∈ lanePushed lane db, item.1 ≠ j) → db'.item? j = db.item? j

/-- The items a run consumes: the most certain of the missing ones, as many as the offer is
short of. -/
def consumedItems (render : Nat → Except PyError Rendered) (fingerprint : String → Option String)
    (lane : Lane) (remote : RemoteCredentials) (db : Db) : List (Nat × ItemRow) :=
  ((missingItems render fingerprint lane remote db).insertionSort fun a b =>
    removalCertainty remote a ≤ removalCertainty remote b).take
      ((lanePushed lane db).length - remote.creds.length)

theorem mem_missing_of_mem_consumed {item : Nat × ItemRow}
    (h : item ∈ consumedItems render fingerprint lane remote db) :
    item ∈ missingItems render fingerprint lane remote db :=
  (List.mem_insertionSort _).mp (List.mem_of_mem_take h)

theorem mem_missingItems {item : Nat × ItemRow} :
    item ∈ missingItems render fingerprint lane remote db ↔
      item ∈ lanePushed lane db ∧ look render fingerprint lane remote item.2 = .missing := by
  simp [missingItems]

theorem length_consumedItems :
    (consumedItems render fingerprint lane remote db).length
      = min ((lanePushed lane db).length - remote.creds.length)
          (missingItems render fingerprint lane remote db).length := by
  unfold consumedItems
  rw [List.length_take, (List.perm_insertionSort _ _).length_eq]

theorem consumed_sub_lane {item : Nat × ItemRow}
    (h : item ∈ consumedItems render fingerprint lane remote db) : item ∈ lanePushed lane db :=
  (mem_missingItems.mp (mem_missing_of_mem_consumed h)).1

theorem consumed_keys_nodup :
    ((consumedItems render fingerprint lane remote db).map Prod.fst).Nodup := by
  apply List.Nodup.sublist ((List.take_sublist _ _).map Prod.fst)
  apply ((List.perm_insertionSort _ _).map Prod.fst).nodup_iff.mpr
  exact (lanePushed_keys_nodup lane db).sublist (List.filter_sublist.map Prod.fst)

/-- Two PUSHED items of one key are one item. -/
theorem lanePushed_ext {a b : Nat × ItemRow} (ha : a ∈ lanePushed lane db)
    (hb : b ∈ lanePushed lane db) (h : a.1 = b.1) : a = b := by
  have hrow := (mem_lanePushed.mp ha).1
  rw [h, (mem_lanePushed.mp hb).1] at hrow
  exact Prod.ext h (Option.some.inj hrow).symm

/-- **What a run does**, when no save fails. -/
theorem exec_reconcile {consumed : List (Nat × ItemRow)}
    (h : exec (reconcilePushedItems render fingerprint lane remote) db = (.ok consumed, db')) :
    consumed = consumedItems render fingerprint lane remote db ∧
      Settled render fingerprint lane remote db consumed db' := by
  have hnodup := lanePushed_keys_nodup lane db
  have hrows : ∀ item ∈ lanePushed lane db, db.item? item.1 = some item.2 :=
    fun item hitem => (mem_lanePushed.mp hitem).1
  rw [reconcilePushedItems, exec_bind_ok (exec_atomic_ok rfl)] at h
  split at h
  · rename_i hnone
    cases h
    refine ⟨by simp [consumedItems, missingItems, hnone], (fun _ h => nomatch h), ?_, fun _ _ => rfl⟩
    intro item hitem
    rw [hnone] at hitem
    cases hitem
  rw [exec_bind] at h
  rcases hscan : exec (scanItems (look render fingerprint lane remote) (lanePushed lane db)) db with
    ⟨e | missing, db₁⟩
  · rw [hscan] at h
    cases h
  rw [hscan] at h
  obtain ⟨rfl, hnow, hin, hout⟩ := exec_scanItems hnodup hrows hscan
  have hmissing : (lanePushed lane db).filter
      (fun item => look render fingerprint lane remote item.2 = .missing)
      = missingItems render fingerprint lane remote db := rfl
  rw [hmissing] at h
  dsimp only at h
  split at h
  · rename_i hnothing
    cases h
    refine ⟨?_, (fun _ h => nomatch h), fun item hitem _ => hin item hitem, hout⟩
    unfold consumedItems
    rcases hnothing with hshort | hnone
    · rw [hshort, List.take_zero]
    · rw [hnone]
      simp
  · have hconsumed : ((missingItems render fingerprint lane remote db).insertionSort fun a b =>
        removalCertainty remote a ≤ removalCertainty remote b).take
          ((lanePushed lane db).length - remote.creds.length)
        = consumedItems render fingerprint lane remote db := rfl
    rw [hconsumed, exec_bind] at h
    rcases hloop : exec (each (consumedItems render fingerprint lane remote db)
      (consumeItem lane)) db₁ with ⟨e | ⟨⟩, db₂⟩
    · rw [hloop] at h
      cases h
    rw [hloop] at h
    cases h
    refine ⟨rfl, ?_⟩
    have hmem : ∀ item ∈ consumedItems render fingerprint lane remote db,
        item ∈ lanePushed lane db ∧ look render fingerprint lane remote item.2 = .missing :=
      fun item hitem => mem_missingItems.mp (mem_missing_of_mem_consumed hitem)
    have hrows₁ : ∀ item ∈ consumedItems render fingerprint lane remote db,
        db₁.item? item.1 = some item.2 := by
      intro item hitem
      obtain ⟨hlane, hlook⟩ := hmem item hitem
      rw [hin item hlane, hlook]
      rfl
    obtain ⟨hconsumed, hother⟩ := exec_consumeItems consumed_keys_nodup hrows₁ hloop
    rw [hnow] at hconsumed
    refine ⟨hconsumed, fun item hitem hnot => ?_, fun j hj => ?_⟩
    · rw [hother, hin item hitem]
      intro item' hitem' heq
      apply hnot
      rwa [← lanePushed_ext (hmem item' hitem').1 hitem heq]
    · rw [hother j fun item hitem => hj item (hmem item hitem).1, hout j hj]

/-- **The order of the consumed items**: none is left that is more certainly gone. -/
theorem consumed_certain {a b : Nat × ItemRow}
    (ha : a ∈ consumedItems render fingerprint lane remote db)
    (hb : b ∈ missingItems render fingerprint lane remote db)
    (hnot : b ∉ consumedItems render fingerprint lane remote db) :
    removalCertainty remote a ≤ removalCertainty remote b := by
  have hsorted := List.pairwise_insertionSort
    (fun a b => removalCertainty remote a ≤ removalCertainty remote b)
    (missingItems render fingerprint lane remote db)
  have hb' : b ∈ ((missingItems render fingerprint lane remote db).insertionSort fun a b =>
      removalCertainty remote a ≤ removalCertainty remote b).drop
        ((lanePushed lane db).length - remote.creds.length) := by
    have hmem := (List.mem_insertionSort
      (fun a b => removalCertainty remote a ≤ removalCertainty remote b)).mpr hb
    rw [← List.take_append_drop ((lanePushed lane db).length - remote.creds.length)
      (List.insertionSort _ _), List.mem_append] at hmem
    exact hmem.resolve_left hnot
  rw [← List.take_append_drop ((lanePushed lane db).length - remote.creds.length)
    (List.insertionSort _ _), List.pairwise_append] at hsorted
  exact hsorted.2.2 a ha b hb'

/-! ### The next run -/

/-- **A second run consumes nothing**: every PUSHED item of the lane is one the first run left. -/
theorem second_run {db'' : Db} {consumed : List (Nat × ItemRow)}
    (hconsumed : consumed = consumedItems render fingerprint lane remote db)
    (h : Settled render fingerprint lane remote db consumed db')
    (hleft : ∀ item ∈ lanePushed lane db'', db'.item? item.1 = some item.2) :
    consumedItems render fingerprint lane remote db'' = [] := by
  -- every PUSHED item comes from one of the first run that was not consumed
  have hfrom : ∀ item ∈ lanePushed lane db'', ∃ r, (item.1, r) ∈ lanePushed lane db ∧
      (item.1, r) ∉ consumed ∧ item.2 = noted (look render fingerprint lane remote r) r := by
    intro item hitem
    have hrow := hleft item hitem
    obtain ⟨-, hpool, hstatus, hoffer⟩ := mem_lanePushed.mp hitem
    by_cases hlane : ∃ r, (item.1, r) ∈ lanePushed lane db
    · obtain ⟨r, hr⟩ := hlane
      have hnot : (item.1, r) ∉ consumed := by
        intro hin
        have hgone := Option.some.inj ((h.gone _ hin).symm.trans hrow)
        rw [← hgone] at hstatus
        simp [removedFromRemote] at hstatus
      have hkept := (h.kept _ hr hnot).symm.trans hrow
      exact ⟨r, hr, hnot, (Option.some.inj hkept).symm⟩
    · rw [h.others] at hrow
      · exact absurd ⟨item.2, mem_lanePushed.mpr ⟨hrow, hpool, hstatus, hoffer⟩⟩ hlane
      · rintro item' hitem' heq
        exact hlane ⟨item'.2, by rw [← heq]; exact hitem'⟩
  have hmissing : ∀ item ∈ missingItems render fingerprint lane remote db'',
      ∃ r, (item.1, r) ∈ missingItems render fingerprint lane remote db ∧ (item.1, r) ∉ consumed := by
    intro item hitem
    obtain ⟨hlane, hlook⟩ := mem_missingItems.mp hitem
    obtain ⟨r, hr, hnot, heq⟩ := hfrom item hlane
    refine ⟨r, mem_missingItems.mpr ⟨hr, ?_⟩, hnot⟩
    by_contra hfound
    rw [heq] at hlook
    exact look_noted hfound hlook
  -- the keys of both runs are keys of the first list, and none occurs twice
  have hapart : ((lanePushed lane db'').map Prod.fst ++ consumed.map Prod.fst).Nodup := by
    rw [List.nodup_append]
    refine ⟨lanePushed_keys_nodup lane db'', hconsumed ▸ consumed_keys_nodup, ?_⟩
    rintro k hk k' hk' rfl
    obtain ⟨item, hitem, rfl⟩ := List.mem_map.mp hk
    obtain ⟨item', hitem', heq⟩ := List.mem_map.mp hk'
    obtain ⟨r, hr, hnot, -⟩ := hfrom item hitem
    apply hnot
    have hlane := consumed_sub_lane (hconsumed ▸ hitem')
    rwa [← lanePushed_ext hlane hr heq]
  have hsub : (lanePushed lane db'').map Prod.fst ++ consumed.map Prod.fst ⊆
      (lanePushed lane db).map Prod.fst := by
    intro k hk
    rcases List.mem_append.mp hk with hk | hk
    · obtain ⟨item, hitem, rfl⟩ := List.mem_map.mp hk
      obtain ⟨r, hr, -⟩ := hfrom item hitem
      exact List.mem_map.mpr ⟨_, hr, rfl⟩
    · obtain ⟨item, hitem, rfl⟩ := List.mem_map.mp hk
      exact List.mem_map.mpr ⟨item, consumed_sub_lane (hconsumed ▸ hitem), rfl⟩
  have hcount := (List.subperm_of_subset hapart hsub).length_le
  have hlength : consumed.length = min ((lanePushed lane db).length - remote.creds.length)
      (missingItems render fingerprint lane remote db).length := by
    rw [hconsumed]
    exact length_consumedItems
  simp only [List.length_append, List.length_map] at hcount
  apply List.length_eq_zero_iff.mp
  rw [length_consumedItems]
  by_cases hall : (missingItems render fingerprint lane remote db).length
      ≤ (lanePushed lane db).length - remote.creds.length
  · -- everything missing was consumed
    have hnone : missingItems render fingerprint lane remote db'' = [] := by
      apply List.eq_nil_iff_forall_not_mem.mpr
      intro item hitem
      obtain ⟨r, hr, hnot⟩ := hmissing item hitem
      apply hnot
      rw [hconsumed, consumedItems, List.take_of_length_le]
      · exact (List.mem_insertionSort _).mpr hr
      · rw [(List.perm_insertionSort _ _).length_eq]
        exact hall
    rw [hnone]
    exact Nat.min_zero _
  · -- the offer is not short any more
    omega

/-! ### When no save fails -/

/-- Every PUSHED item of the lane owns its product, as `OfferPoolItem.save` makes it. -/
def LaneOwns (lane : Lane) (db : Db) : Prop :=
  ∀ item ∈ lanePushed lane db, item.2.liveOwnedProduct = some item.2.ownedProduct

theorem saveItem_ok_of_owner (row : ItemRow) (hr : db.item? k = some r)
    (hlive : r.liveOwnedProduct = some r.ownedProduct) (hpool : row.pool = r.pool)
    (howned : row.ownedProduct = r.ownedProduct) (htoken : row.claimToken = r.claimToken)
    (hremoved : row.status ≠ .removed) (hchecks : row.Checks) :
    ∃ db', db.saveItem k row = .ok db' := by
  obtain ⟨items, hs⟩ := ItemTable.save_succeeds hr hpool howned hlive (.inr htoken) hremoved hchecks
  exact ⟨_, except_bind_ok.mpr ⟨items, hs, rfl⟩⟩

/-- A PUSHED row passes its checks with another id, and as a consumed one. -/
theorem checks_of_pushed (hr : db.item? k = some r) (hstatus : r.status = .pushed)
    (remoteId : String) (now : Nat) :
    ({ r with remoteCredentialId := remoteId, remoteState := .present } : ItemRow).Checks ∧
      (removedFromRemote now r).Checks := by
  have hchecks := db.items.checks hr
  have hoffer := hchecks.assigned_pool_item_has_offer (.inr (.inl hstatus))
  constructor
  · exact ⟨hchecks.pending_item_unassigned, hchecks.reserved_item_no_pool_offer,
      hchecks.reserved_item_has_reservation, hchecks.assigned_pool_item_has_offer,
      hchecks.queued_pool_item_has_claim⟩
  · constructor <;> simp [removedFromRemote, hoffer]

/-- What the loops need of the rows they save. -/
def Savable (db : Db) (items : List (Nat × ItemRow)) : Prop :=
  ∀ item ∈ items, db.item? item.1 = some item.2 ∧ item.2.status = .pushed ∧
    item.2.liveOwnedProduct = some item.2.ownedProduct

theorem scanItems_returns (hnodup : (items.map Prod.fst).Nodup) (h : Savable db items) :
    ∃ missing db', exec (scanItems lookFor items) db = (.ok missing, db') := by
  induction items generalizing db with
  | nil => exact ⟨[], db, rfl⟩
  | cons item rest ih =>
    obtain ⟨k, r⟩ := item
    rw [List.map_cons, List.nodup_cons] at hnodup
    obtain ⟨hk, hnodup⟩ := hnodup
    have hrest : Savable db rest := fun item hitem => h item (List.mem_cons_of_mem _ hitem)
    obtain ⟨hr, hstatus, hlive⟩ := h _ List.mem_cons_self
    obtain ⟨missing, db', hexec⟩ := ih hnodup hrest
    unfold scanItems
    split
    · exact ⟨(k, r) :: missing, db', by rw [exec_bind_ok hexec, exec_pure]⟩
    · rename_i remoteId hlook
      split
      · obtain ⟨db₁, hsave⟩ := saveItem_ok_of_owner
          { r with remoteCredentialId := remoteId, remoteState := .present } hr hlive rfl rfl rfl
          (by simp [show r.status = .pushed from hstatus]) (checks_of_pushed hr hstatus remoteId 0).1
        have hrest₁ : Savable db₁ rest := by
          intro item hitem
          obtain ⟨hrow, hpushed⟩ := hrest item hitem
          refine ⟨?_, hpushed⟩
          rw [Db.item?_saveItem hsave hr, if_neg]
          · exact hrow
          · rintro rfl
            exact hk (List.mem_map.mpr ⟨item, hitem, rfl⟩)
        obtain ⟨missing', db₂, hexec'⟩ := ih hnodup hrest₁
        exact ⟨missing', db₂, by rw [exec_bind_ok (exec_atomically_ok hsave), hexec']⟩
      · exact ⟨missing, db', hexec⟩
    · exact ⟨missing, db', hexec⟩
    · exact ⟨missing, db', hexec⟩

theorem consumeItems_returns (hnodup : (items.map Prod.fst).Nodup) (h : Savable db items) :
    ∃ db', exec (each items (consumeItem lane)) db = (.ok (), db') := by
  induction items generalizing db with
  | nil => exact ⟨db, rfl⟩
  | cons item rest ih =>
    rw [List.map_cons, List.nodup_cons] at hnodup
    obtain ⟨hk, hnodup⟩ := hnodup
    obtain ⟨hr, hstatus, hlive⟩ := h _ List.mem_cons_self
    obtain ⟨db₁, hsave⟩ := saveItem_ok_of_owner (removedFromRemote db.now item.2) hr hlive rfl rfl rfl
      (by simp [removedFromRemote])
      (checks_of_pushed hr hstatus "" db.now).2
    obtain ⟨db₂, hexec⟩ : ∃ db₂, exec (consumeItem lane item) db = (.ok (), db₂) := by
      rw [consumeItem, exec_bind_ok (exec_atomically_ok hsave), exec_change]
      exact ⟨_, rfl⟩
    obtain ⟨-, hrow⟩ := exec_consumeItem hr hexec
    have hrest : Savable db₂ rest := by
      intro item' hitem
      obtain ⟨hrow', hpushed⟩ := h item' (List.mem_cons_of_mem _ hitem)
      refine ⟨?_, hpushed⟩
      rw [hrow, if_neg]
      · exact hrow'
      · intro heq
        apply hk
        rw [← heq]
        exact List.mem_map.mpr ⟨item', hitem, rfl⟩
    obtain ⟨db₃, hloop⟩ := ih hnodup hrest
    exact ⟨db₃, by rw [each, exec_bind_ok hexec, hloop]⟩

/-- **A run returns** when every PUSHED item of the lane owns its product. -/
theorem reconcile_returns (h : LaneOwns lane db) :
    ∃ consumed db', exec (reconcilePushedItems render fingerprint lane remote) db
      = (.ok consumed, db') := by
  have hsavable : Savable db (lanePushed lane db) := by
    intro item hitem
    obtain ⟨hrow, -, hstatus, -⟩ := mem_lanePushed.mp hitem
    exact ⟨hrow, hstatus, h item hitem⟩
  have hrows : ∀ item ∈ lanePushed lane db, db.item? item.1 = some item.2 :=
    fun item hitem => (hsavable item hitem).1
  rw [reconcilePushedItems, exec_bind_ok (exec_atomic_ok rfl)]
  split
  · exact ⟨_, _, rfl⟩
  obtain ⟨missing, db₁, hscan⟩ : ∃ missing db₁,
      exec (scanItems (look render fingerprint lane remote) (lanePushed lane db)) db
        = (.ok missing, db₁) := scanItems_returns (lanePushed_keys_nodup lane db) hsavable
  rw [exec_bind_ok hscan]
  obtain ⟨rfl, -, hin, -⟩ := exec_scanItems (lanePushed_keys_nodup lane db) hrows hscan
  dsimp only
  split
  · exact ⟨_, _, rfl⟩
  have hconsumed : Savable db₁ (consumedItems render fingerprint lane remote db) := by
    intro item hitem
    obtain ⟨hlane, hlook⟩ := mem_missingItems.mp (mem_missing_of_mem_consumed hitem)
    refine ⟨?_, (hsavable item hlane).2⟩
    rw [hin item hlane, hlook]
    rfl
  obtain ⟨db₂, hloop⟩ : ∃ db₂, exec (each (consumedItems render fingerprint lane remote db)
      (consumeItem lane)) db₁ = (.ok (), db₂) := consumeItems_returns consumed_keys_nodup hconsumed
  refine ⟨consumedItems render fingerprint lane remote db, db₂, ?_⟩
  show exec (each (consumedItems render fingerprint lane remote db) (consumeItem lane) >>= fun _ =>
    pure (consumedItems render fingerprint lane remote db)) db₁ = _
  rw [exec_bind_ok hloop]
  rfl

/-! ### The result -/

/-- **What a run consumes.**  Whatever the lane, the remote list and the renderer are: the number of
consumed items is the smaller of how many the offer is short of and how many are missing, where a
missing item is one that is rendered as a text and found neither by id nor by text nor by
fingerprint; none that is found is consumed; none is left that is more certainly gone than a
consumed one; and a second run against the same list, over the items the first one left, consumes
nothing.  A run returns if every PUSHED item of the lane owns its product. -/
theorem reconcile_consumes (render : Nat → Except PyError Rendered)
    (fingerprint : String → Option String) (lane : Lane) (remote : RemoteCredentials) (db : Db) :
    (∀ consumed db', exec (reconcilePushedItems render fingerprint lane remote) db
        = (.ok consumed, db') →
      consumed.length = min ((lanePushed lane db).length - remote.creds.length)
          (missingItems render fingerprint lane remote db).length ∧
        (∀ item, item ∈ missingItems render fingerprint lane remote db ↔
          item ∈ lanePushed lane db ∧ RendersText render item.2 ∧
            ¬Found render fingerprint lane remote item.2) ∧
        consumed ⊆ missingItems render fingerprint lane remote db ∧
        (∀ a ∈ consumed, ∀ b ∈ missingItems render fingerprint lane remote db, b ∉ consumed →
          removalCertainty remote a ≤ removalCertainty remote b) ∧
        Settled render fingerprint lane remote db consumed db' ∧
        ∀ db₁ db₂ again, (∀ item ∈ lanePushed lane db₁, db'.item? item.1 = some item.2) →
          exec (reconcilePushedItems render fingerprint lane remote) db₁ = (.ok again, db₂) →
          again = []) ∧
      (LaneOwns lane db → ∃ consumed db',
        exec (reconcilePushedItems render fingerprint lane remote) db = (.ok consumed, db')) := by
  refine ⟨fun consumed db' h => ?_, reconcile_returns⟩
  obtain ⟨rfl, hsettled⟩ := exec_reconcile h
  refine ⟨length_consumedItems, fun item => ?_, fun item => mem_missing_of_mem_consumed, ?_,
    hsettled, ?_⟩
  · rw [mem_missingItems, look_eq_missing_iff]
  · exact fun a ha b hb hnot => consumed_certain ha hb hnot
  · intro db₁ db₂ again hleft hagain
    obtain ⟨rfl, -⟩ := exec_reconcile hagain
    exact second_run rfl hsettled hleft

/-- One PUSHED item whose product cannot be rendered, on an offer without credentials. -/
def unrenderedDb : Db where
  items := ⟨⟨[(1, { pool := 1, ownedProduct := 1, liveOwnedProduct := some 1, poolOffer := some 1,
                    status := .pushed })], by decide⟩, by decide⟩

def unrenderedLane : Lane where
  pool := 1
  poolOffer := 1
  listing := 1
  provider := .gameboost

/-- The item is not found, the offer is short of it, and it is not consumed. -/
theorem reconcile_consumes_fails :
    ¬∀ (render : Nat → Except PyError Rendered) (fingerprint : String → Option String) (lane : Lane)
      (remote : RemoteCredentials) (db db' : Db) (consumed notFound : List (Nat × ItemRow)),
      notFound.Nodup →
      (∀ item, item ∈ notFound ↔
        item ∈ lanePushed lane db ∧ ¬Found render fingerprint lane remote item.2) →
      exec (reconcilePushedItems render fingerprint lane remote) db = (.ok consumed, db') →
      consumed.length
        = min ((lanePushed lane db).length - remote.creds.length) notFound.length := by
  intro h
  have hlength := h (fun _ => .error (.other "no login")) (fun _ => none) unrenderedLane
    { creds := [] } unrenderedDb unrenderedDb [] (lanePushed unrenderedLane unrenderedDb)
    (by decide) ?_ rfl
  · revert hlength
    decide
  · intro item
    constructor
    · intro hitem
      refine ⟨hitem, ?_⟩
      rintro (⟨-, hid⟩ | ⟨c, hc, -⟩ | ⟨-, c, fp, hc, -⟩)
      · cases hid
      · cases hc
      · cases hc
    · exact fun hitem => hitem.1

end Reconciliation

end Sda
