/-
Sda/Pool/Clones.lean

PlayerAuctions clones and the items behind them.

`persistClone` inserts an ACTIVE clone for the item of a claim when the
marketplace has answered.  It does not ask whether the claim still holds: the
item is pushed only while it is QUEUED for the PoolOffer, but the clone row is
inserted either way.

The system `cloneStep` interleaves, one transaction at a time, the claims of
any number of lanes, the ends of these claims (at any delay), the two phases
of the quarantine sweep, and staff recovery.

* `ClonesSound` — each item is linked to at most one ACTIVE clone, and the
  item of an ACTIVE clone is PUSHED on the clone's own PoolOffer;
* `clone_uniqueness` — a run stays in `ClonesSound` exactly when every clone
  it persists and every failure it reports meets `CloneFits`;
* `clone_uniqueness_fails` — a claim that expires and is recovered, a second
  lane that claims and clones the item, and then the first lane's answer.
-/
import Sda.Pool.ClaimEnds

namespace Sda

/-! ### The system -/

structure CloneState where
  db : Db
  /-- Every claim handed to a worker so far. -/
  issued : List Claim := []
  /-- The keys the quarantine sweep has read and not yet failed. -/
  staleIds : List Nat := []

inductive CloneEvent
  | tick (seconds : Nat)
  | order (o : Order)
  | claim (offer limit : Nat) (maxActiveOffers : Option Nat)
  /-- A transaction of a worker on a claim it was given, at any delay. -/
  | ended (c : Claim) (e : ClaimEnd)
  /-- The quarantine sweep reads the stale keys. -/
  | readStale (maxAge : Nat)
  /-- The quarantine sweep fails one key it has read. -/
  | failStale (k : Nat)
  | makeAvailable (k : Nat)
  | restoreLive (k : Nat) (remoteCredentialId : String)

def cloneStep (s : CloneState) : CloneEvent → CloneState
  | .tick n => { s with db := { s.db with now := s.db.now + n } }
  | .order o => { s with db := { s.db with orders := s.db.orders.create o } }
  | .claim offer limit cap =>
    match claimPendingItems s.db offer limit cap with
    | .ok (db, cs) => { s with db, issued := s.issued ++ cs }
    | .error _ => s
  | .ended c e => if c ∈ s.issued then { s with db := committed s.db (e.tx s.db c) } else s
  | .readStale maxAge => { s with staleIds := staleClaimIds s.db maxAge }
  | .failStale k =>
    if k ∈ s.staleIds then
      { s with
        db := committed s.db (markItemFailed s.db k staleClaimFailure)
        staleIds := s.staleIds.erase k }
    else s
  | .makeAvailable k => { s with db := committed s.db ((makeAvailable s.db k).map Prod.snd) }
  | .restoreLive k credId =>
    { s with db := committed s.db ((restoreLiveItem s.db k credId).map Prod.snd) }

/-! ### The property -/

/-- An ACTIVE clone of the item. -/
def IsActiveClone (db : Db) (i k : Nat) (a : OfferPoolActiveOffer) : Prop :=
  db.activeOffers.get? i = some a ∧ a.status = .active ∧ a.poolItem = some k

/-- **Clone uniqueness.** -/
structure ClonesSound (db : Db) : Prop where
  unique : ∀ i j a b k, IsActiveClone db i k a → IsActiveClone db j k b → i = j
  pushed : ∀ i a k, IsActiveClone db i k a →
    ∃ r, db.item? k = some r ∧ r.status = .pushed ∧ r.poolOffer = a.poolOffer

/-! ### The condition -/

/-- Does an ACTIVE clone hold the item? -/
def hasActiveClone (db : Db) (k : Nat) : Bool :=
  db.activeOffers.any fun _ a => a.status == .active && a.poolItem == some k

/-- Does the database accept the row `f` makes of the item's row? -/
def accepts (db : Db) (k : Nat) (f : ItemRow → ItemRow) : Bool :=
  (db.item? k).any fun r =>
    decide (f r).Checks &&
      !db.items.table.any fun j r' => j != k && r'.liveOwnedProduct == some r.ownedProduct

/-- A failure of the item is harmless: no ACTIVE clone holds it, or the
database refuses the failed row. -/
def failureFits (db : Db) (k : Nat) (f : Failure) : Bool :=
  !hasActiveClone db k || !accepts db k f.row

/-- A clone fits: its remote id is taken (the insertion is refused), the item is
gone, the claim still holds, or the item was pushed on this PoolOffer without
leaving an ACTIVE clone. -/
def cloneFits (db : Db) (c : Claim) (offerId : String) : Bool :=
  (db.activeOffers.any fun _ a =>
      a.poolOffer == some c.poolOffer && a.storeListingId == offerId) ||
    (db.item? c.item).all fun r =>
      !pushSkips r c.poolOffer ||
        r.status == .pushed && r.poolOffer == some c.poolOffer && !hasActiveClone db c.item

/-- The condition of a step, on the state before it. -/
def CloneFits (s : CloneState) : CloneEvent → Prop
  | .ended c (.cloned _ offerId) => c ∈ s.issued → cloneFits s.db c offerId = true
  | .ended c (.failed f) => c ∈ s.issued → failureFits s.db c.item f = true
  | .failStale k => k ∈ s.staleIds → failureFits s.db k staleClaimFailure = true
  | _ => True

/-! ### Steps that leave the clones alone -/

section Clones

variable {db db' : Db} {c : Claim} {k : Nat} {f : Failure}

theorem hasActiveClone_iff : hasActiveClone db k = true ↔ ∃ i a, IsActiveClone db i k a := by
  rw [hasActiveClone, Table.any_iff]
  constructor
  · rintro ⟨i, a, hget, h⟩
    rw [Bool.and_eq_true, beq_iff_eq, beq_iff_eq] at h
    exact ⟨i, a, hget, h.1, h.2⟩
  · rintro ⟨i, a, hget, hactive, hitem⟩
    exact ⟨i, a, hget, by rw [hactive, hitem]; simp⟩

/-- PUSHED rows stay PUSHED on their PoolOffer. -/
def KeepsPushed (db db' : Db) : Prop :=
  ∀ j r, db.item? j = some r → r.status = .pushed →
    ∃ r', db'.item? j = some r' ∧ r'.status = .pushed ∧ r'.poolOffer = r.poolOffer

theorem keepsPushed_of_items (h : ∀ j, db'.item? j = db.item? j) : KeepsPushed db db' :=
  fun j r hr hpushed => ⟨r, (h j).trans hr, hpushed, rfl⟩

/-- Rewriting a row that is not PUSHED. -/
theorem keepsPushed_of_rewrites {g : ItemRow → ItemRow} (h : db.Rewrites k g db')
    (hk : ∀ r, db.item? k = some r → r.status ≠ .pushed) : KeepsPushed db db' := by
  intro j r hr hpushed
  rcases h.cases j with hsame | ⟨rfl, -⟩
  · exact ⟨r, hsame.trans hr, hpushed, rfl⟩
  · exact absurd hpushed (hk r hr)

theorem ClonesSound.of_keepsPushed (h : ClonesSound db)
    (hclones : db'.activeOffers = db.activeOffers) (hrows : KeepsPushed db db') :
    ClonesSound db' where
  unique := by
    intro i j a b k ha hb
    rw [IsActiveClone, hclones] at ha hb
    exact h.unique i j a b k ha hb
  pushed := by
    intro i a k ha
    rw [IsActiveClone, hclones] at ha
    obtain ⟨r, hr, hpushed, hoffer⟩ := h.pushed i a k ha
    obtain ⟨r', hr', hpushed', hoffer'⟩ := hrows k r hr hpushed
    exact ⟨r', hr', hpushed', hoffer'.trans hoffer⟩

/-- The item of no ACTIVE clone may change at will. -/
theorem ClonesSound.of_others (h : ClonesSound db)
    (hclones : db'.activeOffers = db.activeOffers) (hnone : hasActiveClone db k = false)
    (hrows : ∀ j, j ≠ k → db'.item? j = db.item? j) : ClonesSound db' where
  unique := by
    intro i j a b m ha hb
    rw [IsActiveClone, hclones] at ha hb
    exact h.unique i j a b m ha hb
  pushed := by
    intro i a m ha
    rw [IsActiveClone, hclones] at ha
    obtain ⟨r, hr, hrest⟩ := h.pushed i a m ha
    refine ⟨r, ?_, hrest⟩
    rw [hrows m ?_]
    · exact hr
    · rintro rfl
      exact absurd (hasActiveClone_iff.mpr ⟨i, a, ha⟩) (Bool.eq_false_iff.mp hnone)

/-- The item of an ACTIVE clone is PUSHED. -/
theorem ClonesSound.no_clone (h : ClonesSound db) {r : ItemRow} (hk : db.item? k = some r)
    (hst : r.status ≠ .pushed) : hasActiveClone db k = false := by
  refine Bool.eq_false_iff.mpr fun hactive => ?_
  obtain ⟨i, a, ha⟩ := hasActiveClone_iff.mp hactive
  obtain ⟨r', hr', hpushed, -⟩ := h.pushed i a k ha
  cases hr'.symm.trans hk
  exact hst hpushed

theorem ClonesSound.claimPendingItems (h : ClonesSound db) {offer limit : Nat} {cap : Option Nat}
    {cs : List Claim} (hc : claimPendingItems db offer limit cap = .ok (db', cs)) :
    ClonesSound db' := by
  obtain ⟨ks, -, -, hclaimed, hpending⟩ := claimPendingItems_ok hc
  apply h.of_keepsPushed
  · obtain ⟨items, attempts, token, rfl⟩ := claimPendingItems_eq hc
    rfl
  · intro j r hr hpushed
    have hj : j ∉ ks := by
      intro hmem
      obtain ⟨r', hr', hst, -⟩ := hpending j hmem
      cases hr'.symm.trans hr
      rw [hpushed] at hst
      cases hst
    exact ⟨r, (hclaimed.frame j hj).trans hr, hpushed, rfl⟩

/-- Recovery takes the clones of the item out with the item. -/
theorem ClonesSound.makeAvailable (h : ClonesSound db) {done : Bool}
    (hm : makeAvailable db k = .ok (done, db')) : ClonesSound db' := by
  rcases makeAvailable_ok hm with rfl | ⟨⟨items, links, hdb'⟩, hrw, -, -⟩
  · exact h
  have hclones : db'.activeOffers = db.activeOffers.mapRows fun _ a => delistClone k a := by
    rw [hdb']
  -- an ACTIVE clone afterwards was one before, of another item
  have hbefore : ∀ i m a, IsActiveClone db' i m a → IsActiveClone db i m a ∧ m ≠ k := by
    rintro i m a ⟨hget, hactive, hitem⟩
    rw [hclones, Table.get?_mapRows] at hget
    obtain ⟨a₀, hget₀, rfl⟩ := Option.map_eq_some_iff.mp hget
    unfold delistClone at hactive hitem ⊢
    split at hactive
    · cases hactive
    · rename_i hnot
      rw [if_neg hnot] at hitem ⊢
      refine ⟨⟨hget₀, hactive, hitem⟩, ?_⟩
      rintro rfl
      exact hnot ⟨hitem, hactive⟩
  constructor
  · intro i j a b m ha hb
    exact h.unique i j a b m (hbefore i m a ha).1 (hbefore j m b hb).1
  · intro i a m ha
    obtain ⟨hactive, hm⟩ := hbefore i m a ha
    obtain ⟨r, hr, hrest⟩ := h.pushed i a m hactive
    exact ⟨r, (hrw.other hm).trans hr, hrest⟩

theorem ClonesSound.restoreLiveItem (h : ClonesSound db) {credId : String} {done : Bool}
    (hm : restoreLiveItem db k credId = .ok (done, db')) : ClonesSound db' := by
  obtain ⟨⟨items, hdb'⟩, hcase⟩ := restoreLiveItem_ok hm
  rcases hcase with rfl | hrw
  · exact h
  refine h.of_keepsPushed (by rw [hdb']) fun j r hr hpushed => ?_
  rcases hrw.cases j with hsame | ⟨rfl, r₀, hr₀, hrow⟩
  · exact ⟨r, hsame.trans hr, hpushed, rfl⟩
  · cases hr₀.symm.trans hr
    exact ⟨_, hrow, by simp [restoredRow], by simp [restoredRow]⟩

/-! ### Failures -/

theorem failureRow_status_ne_pushed (f : Failure) (r : ItemRow) : (f.row r).status ≠ .pushed := by
  show (if f.releases then OfferPoolItemStatus.pending else .failed) ≠ .pushed
  split <;> exact nofun

/-- A failure is committed exactly when the database accepts its row. -/
theorem markItemFailed_ok_iff :
    (∃ db', markItemFailed db k f = .ok db') ↔ accepts db k f.row = true := by
  rcases hk : db.item? k with - | r
  · have herr : markItemFailed db k f = .error .doesNotExist := by
      rw [markItemFailed, hk]
      rfl
    rw [herr, accepts, hk]
    constructor
    · rintro ⟨db', h⟩
      cases h
    · exact nofun
  · have hremoved : (f.row r).status ≠ .removed := by
      show (if f.releases then OfferPoolItemStatus.pending else .failed) ≠ .removed
      split <;> exact nofun
    have hsave : (∃ db', db.saveItem k (f.row r) = .ok db') ↔ _ :=
      Db.saveItem_iff hk rfl rfl (Or.inl rfl) hremoved
    have haccepts : accepts db k f.row = true ↔ ∃ db', db.saveItem k (f.row r) = .ok db' := by
      rw [hsave, accepts, hk, Option.any_some, Bool.and_eq_true, decide_eq_true_eq]
    rw [haccepts]
    constructor
    · rintro ⟨db', h⟩
      obtain ⟨locked, hlocked, h⟩ := except_bind_ok.mp h
      cases (getRow_ok hlocked).symm.trans hk
      obtain ⟨saved, hs, -⟩ := except_bind_ok.mp h
      exact ⟨saved, hs⟩
    · rintro ⟨saved, hs⟩
      exact ⟨_, except_bind_ok.mpr ⟨r, by rw [hk]; rfl, except_bind_ok.mpr ⟨saved, hs, rfl⟩⟩⟩

/-- **A failure is exact.** -/
theorem clonesSound_failed_iff (h : ClonesSound db) :
    ClonesSound (committed db (markItemFailed db k f)) ↔ failureFits db k f = true := by
  rcases hrun : markItemFailed db k f with err | db'
  -- the failure is rolled back
  · refine iff_of_true h ?_
    have hrefused : accepts db k f.row = false := by
      refine Bool.eq_false_iff.mpr fun hacc => ?_
      obtain ⟨db', h'⟩ := markItemFailed_ok_iff.mpr hacc
      rw [hrun] at h'
      cases h'
    rw [failureFits, hrefused, Bool.not_false, Bool.or_true]
  · have haccepted : accepts db k f.row = true := markItemFailed_ok_iff.mp ⟨db', hrun⟩
    obtain ⟨⟨items, attempts, hdb'⟩, hrw⟩ := markItemFailed_ok hrun
    have hclones : db'.activeOffers = db.activeOffers := by rw [hdb']
    rw [failureFits, haccepted, Bool.not_true, Bool.or_false, Bool.not_eq_true']
    show ClonesSound db' ↔ _
    -- an accepted failure takes the item out of PUSHED, under its clone
    constructor
    · intro h'
      refine Bool.eq_false_iff.mpr fun hactive => ?_
      obtain ⟨i, a, ha⟩ := hasActiveClone_iff.mp hactive
      -- the item of the clone is not PUSHED any more
      obtain ⟨r', hr', hpushed, -⟩ := h'.pushed i a k (by rw [IsActiveClone, hclones]; exact ha)
      obtain ⟨r, -, hrow⟩ := hrw.row
      cases hrow.symm.trans hr'
      rw [ItemRow.keepLiveOwner_status] at hpushed
      exact failureRow_status_ne_pushed f r hpushed
    · exact fun hnone => h.of_others hclones hnone fun j hj => hrw.other hj

/-! ### Persisting a clone -/

/-- A new ACTIVE clone of an item that had none, PUSHED on the clone's
PoolOffer. -/
theorem ClonesSound.of_create (h : ClonesSound db) {new : OfferPoolActiveOffer}
    (hclones : db'.activeOffers = db.activeOffers.create new) (hitem : new.poolItem = some k)
    (hnone : hasActiveClone db k = false) (hrows : ∀ j, j ≠ k → db'.item? j = db.item? j)
    (hrow : ∃ r, db'.item? k = some r ∧ r.status = .pushed ∧ r.poolOffer = new.poolOffer) :
    ClonesSound db' := by
  have hcases : ∀ i m a, IsActiveClone db' i m a →
      (i = db.activeOffers.nextKey ∧ a = new ∧ m = k) ∨ (IsActiveClone db i m a ∧ m ≠ k) := by
    rintro i m a ⟨hget, hactive, hm⟩
    rw [hclones, Table.get?_create] at hget
    split at hget
    · rename_i hi
      cases hget
      exact Or.inl ⟨hi, rfl, Option.some.inj (hm.symm.trans hitem)⟩
    · refine Or.inr ⟨⟨hget, hactive, hm⟩, ?_⟩
      rintro rfl
      exact absurd (hasActiveClone_iff.mpr ⟨i, a, hget, hactive, hm⟩) (Bool.eq_false_iff.mp hnone)
  constructor
  · intro i j a b m ha hb
    rcases hcases i m a ha with ⟨hi, -, hm⟩ | ⟨ha, hm⟩
    -- two clones of one item: both are the new one, or both were there before
    · rcases hcases j m b hb with ⟨hj, -, -⟩ | ⟨-, hne⟩
      · rw [hi, hj]
      · exact absurd hm hne
    · rcases hcases j m b hb with ⟨-, -, hm'⟩ | ⟨hb, -⟩
      · exact absurd hm' hm
      · exact h.unique i j a b m ha hb
  · intro i a m ha
    rcases hcases i m a ha with ⟨-, rfl, rfl⟩ | ⟨ha, hm⟩
    · exact hrow
    · obtain ⟨r, hr, hrest⟩ := h.pushed i a m ha
      exact ⟨r, (hrows m hm).trans hr, hrest⟩

theorem clonesSound_cloneRows_iff (h : ClonesSound db) {t : PaTarget} {offerId : String}
    {r : ItemRow} (hk : db.item? c.item = some r) :
    ClonesSound (cloneRows db t c offerId) ↔
      (r.status = .pushed ∧ r.poolOffer = some t.poolOffer) ∧
        hasActiveClone db c.item = false := by
  constructor
  · intro h'
    -- the new clone
    have hnew : ∃ new, IsActiveClone (cloneRows db t c offerId) db.activeOffers.nextKey c.item new ∧
        new.poolOffer = some t.poolOffer :=
      ⟨_, ⟨Table.get?_create.trans (if_pos rfl), rfl, rfl⟩, rfl⟩
    obtain ⟨new, hactive, hoffer⟩ := hnew
    obtain ⟨r', hr', hpushed, hlane⟩ := h'.pushed _ new c.item hactive
    cases hr'.symm.trans (show (cloneRows db t c offerId).item? c.item = some r from hk)
    refine ⟨⟨hpushed, hlane.trans hoffer⟩, Bool.eq_false_iff.mpr fun hold => ?_⟩
    obtain ⟨i, a, hget, hst, hitem⟩ := hasActiveClone_iff.mp hold
    have hstill : IsActiveClone (cloneRows db t c offerId) i c.item a :=
      ⟨Table.get?_create_of_some hget, hst, hitem⟩
    have hi := h'.unique _ _ _ _ _ hstill hactive
    rw [hi, Table.get?_nextKey] at hget
    cases hget
  · rintro ⟨⟨hpushed, hlane⟩, hnone⟩
    exact h.of_create rfl rfl hnone (fun _ _ => rfl) ⟨r, hk, hpushed, hlane⟩

/-- **Persisting a clone is exact.** -/
theorem clonesSound_cloned_iff (h : ClonesSound db) {t : PaTarget} {offerId : String} :
    ClonesSound (committed db (persistClone db (t.ofClaim c) c offerId)) ↔
      cloneFits db c offerId = true := by
  by_cases htaken : (db.activeOffers.any fun _ a =>
      a.poolOffer == some c.poolOffer && a.storeListingId == offerId) = true
  · rw [persistClone_taken htaken, cloneFits, htaken, Bool.true_or]
    exact iff_of_true h rfl
  · rcases hk : db.item? c.item with - | r
    · rw [persistClone_gone htaken hk, cloneFits, hk]
      refine iff_of_true h ?_
      simp
    · by_cases hskip : pushSkips r c.poolOffer = true
      · rw [persistClone_skipped htaken hk hskip]
        show ClonesSound (cloneRows db (t.ofClaim c) c offerId) ↔ _
        rw [clonesSound_cloneRows_iff h hk, cloneFits, Bool.eq_false_iff.mpr htaken, hk]
        simp [hskip, PaTarget.ofClaim]
      · have hfits : cloneFits db c offerId = true := by simp [cloneFits, hk, hskip]
        refine iff_of_true ?_ hfits
        rcases hrun : persistClone db (t.ofClaim c) c offerId with err | db'
        · exact h
        · obtain ⟨⟨items, attempts, hdb'⟩, r', hr', hcase⟩ := persistClone_ok hrun
          cases hr'.symm.trans hk
          rw [if_neg (show ¬pushSkips r (t.ofClaim c).poolOffer = true from hskip)] at hcase
          obtain ⟨hqueued, hoffer, -⟩ := not_pushSkips_iff.mp (Bool.eq_false_iff.mpr hskip)
          have hnone := h.no_clone hk (by rw [hqueued]; exact nofun)
          show ClonesSound db'
          refine h.of_create (by rw [hdb']; rfl) rfl hnone (fun j hj => hcase.other hj) ?_
          refine ⟨_, hcase.self hk, by simp [pushedRow], ?_⟩
          simp [pushedRow, hoffer, PaTarget.ofClaim]

/-! ### The other ends of a claim -/

theorem ClonesSound.markItemPushed (h : ClonesSound db) {offer n : Nat}
    {remoteOfferId credId : String}
    (hm : markItemPushed db k offer remoteOfferId credId = .ok (n, db')) : ClonesSound db' := by
  obtain ⟨⟨items, attempts, hdb'⟩, r, hk, hcase⟩ := markItemPushed_ok hm
  have hclones : db'.activeOffers = db.activeOffers := by rw [hdb']
  split at hcase
  · rw [hcase.2]
    exact h
  · rename_i hskip
    obtain ⟨hqueued, -, -⟩ := not_pushSkips_iff.mp (Bool.eq_false_iff.mpr hskip)
    refine h.of_keepsPushed hclones (keepsPushed_of_rewrites hcase.2 fun r' hr' => ?_)
    cases hr'.symm.trans hk
    rw [hqueued]
    exact nofun

theorem ClonesSound.martFailed (h : ClonesSound db) {token : Option Nat} {pretransport done : Bool}
    {requestId : String}
    (hm : finalizeMartClaimFailure db c token pretransport requestId = .ok (done, db')) :
    ClonesSound db' := by
  rcases finalizeMartClaimFailure_ok hm with
    rfl | ⟨⟨items, attempts, hdb'⟩, r, release, hk, hqueued, -, -, hrw⟩
  · exact h
  · have hclones : db'.activeOffers = db.activeOffers := by rw [hdb']
    refine h.of_keepsPushed hclones (keepsPushed_of_rewrites hrw fun r' hr' => ?_)
    cases hr'.symm.trans hk
    rw [hqueued]
    exact nofun

theorem ClonesSound.committed (h : ClonesSound db) {tx : Except PyError Db}
    (htx : ∀ db', tx = .ok db' → ClonesSound db') : ClonesSound (committed db tx) := by
  rcases committed_cases db tx with hsame | hok
  · rw [hsame]
    exact h
  · exact htx _ hok

end Clones

/-! ### Runs -/

/-- One step from a sound state is exact. -/
theorem clonesSound_step_iff (s : CloneState) (e : CloneEvent) (h : ClonesSound s.db) :
    ClonesSound (cloneStep s e).db ↔ CloneFits s e := by
  have of_items : ∀ {s' : CloneState}, s'.db.activeOffers = s.db.activeOffers →
      (∀ j, s'.db.item? j = s.db.item? j) → ClonesSound s'.db :=
    fun hclones hrows => h.of_keepsPushed hclones (keepsPushed_of_items hrows)
  cases e with
  | tick n => exact iff_of_true (of_items rfl fun _ => rfl) trivial
  | order o => exact iff_of_true (of_items rfl fun _ => rfl) trivial
  | readStale maxAge => exact iff_of_true h trivial
  | claim offer limit cap =>
    refine iff_of_true ?_ trivial
    rcases hrun : claimPendingItems s.db offer limit cap with err | ⟨db, cs⟩
    · simpa only [cloneStep, hrun] using h
    · simpa only [cloneStep, hrun] using h.claimPendingItems hrun
  | makeAvailable k =>
    refine iff_of_true (h.committed fun db' hrun => ?_) trivial
    obtain ⟨done, hrun⟩ := map_snd_ok hrun
    exact h.makeAvailable hrun
  | restoreLive k credId =>
    refine iff_of_true (h.committed fun db' hrun => ?_) trivial
    obtain ⟨done, hrun⟩ := map_snd_ok hrun
    exact h.restoreLiveItem hrun
  | failStale k =>
    show ClonesSound (if k ∈ s.staleIds then _ else s).db ↔ _
    by_cases hread : k ∈ s.staleIds
    · rw [if_pos hread]
      exact (clonesSound_failed_iff h).trans ⟨fun hfits _ => hfits, fun hfits => hfits hread⟩
    · rw [if_neg hread]
      exact iff_of_true h fun hread' => absurd hread' hread
  | ended c e =>
    show ClonesSound (if c ∈ s.issued then _ else s).db ↔ _
    by_cases hissued : c ∈ s.issued
    · rw [if_pos hissued]
      show ClonesSound (committed s.db (e.tx s.db c)) ↔ _
      cases e with
      | pushed remoteOfferId credId =>
        refine iff_of_true (h.committed fun db' hrun => ?_) trivial
        obtain ⟨n, hrun⟩ := map_snd_ok hrun
        exact h.markItemPushed hrun
      | failed f =>
        exact (clonesSound_failed_iff h).trans ⟨fun hfits _ => hfits, fun hfits => hfits hissued⟩
      | martFailed pretransport requestId =>
        refine iff_of_true (h.committed fun db' hrun => ?_) trivial
        obtain ⟨done, hrun⟩ := map_snd_ok hrun
        exact h.martFailed hrun
      | cloned t offerId =>
        exact (clonesSound_cloned_iff h).trans ⟨fun hfits _ => hfits, fun hfits => hfits hissued⟩
      | linked listing =>
        refine iff_of_true (h.committed fun db' hrun => ?_) trivial
        obtain ⟨products, links, rfl⟩ := linkPushedItem_ok hrun
        exact h.of_keepsPushed rfl (keepsPushed_of_items fun _ => rfl)
    · rw [if_neg hissued]
      refine iff_of_true h ?_
      cases e <;> first | trivial | exact fun hissued' => absurd hissued' hissued

/-- **Clone uniqueness.**  From a sound database, a run of claims, clones,
failures, sweeps and recoveries keeps every item on at most one ACTIVE clone,
PUSHED on that clone's PoolOffer, exactly when all its clones and failures
fit. -/
theorem clone_uniqueness (s : CloneState) (h : ClonesSound s.db) (es : List CloneEvent) :
    Always cloneStep (fun s => ClonesSound s.db) s es ↔ Along cloneStep CloneFits s es :=
  always_iff_along (I := fun _ => True) (fun _ _ _ => trivial)
    (fun s e _ hP => clonesSound_step_iff s e hP) trivial h es

/-! ### Two lanes and one item -/

/-- Two PlayerAuctions clone lanes of one pool, and one PENDING item. -/
def twoLanesDb : Db where
  items := singleItemDb.items
  pools := singleItemDb.pools
  offers := ⟨[(1, cloneLane 1), (2, cloneLane 2)], by decide⟩

theorem twoLanesDb_sound : ClonesSound twoLanesDb where
  unique := fun _ _ _ _ _ h => nomatch h.1
  pushed := fun _ _ _ h => nomatch h.1

/-- A PlayerAuctions store. -/
def paStore : PaTarget where
  poolOffer := 0
  listing := 0
  offerId := ""
  pool := 0
  store := 1
  account := { provider := .playerauctions, slug := "playerauctions" }

/-- The first lane claims the item and clones it. -/
theorem clone_uniqueness_single :
    Always cloneStep (fun s => ClonesSound s.db) { db := twoLanesDb }
      [.claim 1 1 (some 2), .ended ⟨1, 1, 7, 1, 0⟩ (.cloned paStore "first")] :=
  (clone_uniqueness { db := twoLanesDb } twoLanesDb_sound _).mpr
    ⟨trivial, fun _ => by decide, trivial⟩

/-- **Clones are not unique.**  The first lane's claim expires, the item is
recovered, claimed and cloned by the second lane; then the first lane's create
is answered and inserts a second ACTIVE clone, of a PoolOffer the item is not
on. -/
theorem clone_uniqueness_fails :
    ¬ Always cloneStep (fun s => ClonesSound s.db) { db := twoLanesDb }
      [.claim 1 1 (some 2), .tick 1000, .readStale claimMaxAge, .failStale 1, .makeAvailable 1,
        .claim 2 1 (some 2), .ended ⟨1, 1, 7, 2, 1⟩ (.cloned paStore "second"),
        .ended ⟨1, 1, 7, 1, 0⟩ (.cloned paStore "first")] := by
  rintro ⟨-, -, -, -, -, -, -, hbefore, hafter⟩
  -- the last step does not fit
  have hfits := (clonesSound_step_iff _ _ hbefore).mp hafter
  exact absurd (hfits (by decide)) (by decide)

end Sda
