/-
Sda/Pool/CloneCap.lean

The clone cap of a PlayerAuctions lane.

`claimPendingItems` counts, under the lock of the PoolOffer, the ACTIVE clones
and the QUEUED items of the lane, and claims no more than the cap leaves.  The
clone itself is inserted by a later transaction, `persistClone`, which counts
nothing: as long as the item is still QUEUED for the lane the insertion trades
one claim for one clone.

The system `capStep` interleaves the claims of any number of callers with the
transactions that end them, with sales, with the delistings of the sweep
(`delistMissing`, from `_get_pa_active_count` of services/pool/checker.py) and
with staff recovery.  A step is one transaction: the insertion of a clone
references the PoolOffer row the claim has locked, so it commits before or
after the two counts of a claim, not between them.  Claims do not expire here.

* `laneLoad` — the ACTIVE clones plus the QUEUED items of a lane;
* `clone_cap` — a run stays within the cap exactly when every clone it
  persists meets `CapFits`: its claim still holds, or there is room for it;
* `clone_cap_fails` — the item of a claim is sold through its old, DELISTED
  clone while the create is on its way; the freed place is claimed again, and
  then the create is answered.
-/
import Sda.Pool.Sales
import Sda.Pool.Clones

namespace Sda

/-! ### Delistings -/

/-- The row of an item whose clone the marketplace does not know any more. -/
def remoteMissingRow (item : ItemRow) : ItemRow :=
  { item with
    status := .failed
    failureStage := .paRemoteMissing
    remoteState := .absent
    errorMessage := "PA offer missing during reconciliation" }

/-- The clone of that item. -/
def missingClone (locked : OfferPoolActiveOffer) : OfferPoolActiveOffer :=
  { locked with
    status := .delisted
    active_clone_requires_listing_item := locked.delisted_requires }

/-- The transaction of `_get_pa_active_count` for one clone that was answered
with 404. -/
def delistMissing (db : Db) (a : Nat) : Except PyError Db := do
  let locked ← getRow (db.activeOffers.get? a)
  if locked.status ≠ .active then
    return db
  let delisted := { db with activeOffers := db.activeOffers.set a (missingClone locked) }
  match locked.poolItem with
  | none => return delisted
  -- the item follows its clone, whatever its status is
  | some k => do
    let item ← getRow (db.item? k)
    delisted.saveItem k (remoteMissingRow item)

/-! ### The system -/

structure CapState where
  db : Db
  /-- Every claim handed to a worker so far. -/
  issued : List Claim := []

inductive CapEvent
  | tick (seconds : Nat)
  | order (o : Order)
  /-- A caller claims for the lane, under its cap. -/
  | claim (limit : Nat)
  /-- Another PoolOffer claims from the same stock. -/
  | otherClaim (offer limit : Nat) (maxActiveOffers : Option Nat)
  /-- A transaction of a worker on a claim it was given. -/
  | ended (c : Claim) (e : ClaimEnd)
  /-- The transaction of one visit of a sale notification. -/
  | sale (n : SaleNotification) (t : SaleTarget)
  | delisted (a : Nat)
  | makeAvailable (k : Nat)

def claimStep (s : CapState) (offer limit : Nat) (maxActiveOffers : Option Nat) : CapState :=
  match claimPendingItems s.db offer limit maxActiveOffers with
  | .ok (db, cs) => ⟨db, s.issued ++ cs⟩
  | .error _ => s

section System

variable (sha256 : String → String) (lane cap : Nat)

def capStep (s : CapState) : CapEvent → CapState
  | .tick n => { s with db := { s.db with now := s.db.now + n } }
  | .order o => { s with db := { s.db with orders := s.db.orders.create o } }
  | .claim limit => claimStep s lane limit (some cap)
  | .otherClaim offer limit max => if offer = lane then s else claimStep s offer limit max
  | .ended c e => if c ∈ s.issued then { s with db := committed s.db (e.tx s.db c) } else s
  | .sale n t => { s with db := recordVisit sha256 n s.db t }
  | .delisted a => { s with db := committed s.db (delistMissing s.db a) }
  | .makeAvailable k => { s with db := committed s.db ((makeAvailable s.db k).map Prod.snd) }

end System

/-! ### The property and its condition -/

def activeClones (db : Db) (lane : Nat) : Nat :=
  db.activeOffers.count fun _ a => a.poolOffer == some lane && a.status == .active

def queuedClaims (db : Db) (lane : Nat) : Nat :=
  db.items.table.count fun _ r => r.poolOffer == some lane && r.status == .queued

/-- The capacity in use: ACTIVE clones plus QUEUED items of the lane. -/
def laneLoad (db : Db) (lane : Nat) : Nat :=
  activeClones db lane + queuedClaims db lane

/-- **The clone cap.** -/
def WithinCap (lane cap : Nat) (s : CapState) : Prop :=
  laneLoad s.db lane ≤ cap

/-- A clone fits: it is for another lane, its remote id is taken (the insertion
is refused), the item is gone, the claim still holds, or there is room. -/
def cloneFitsCap (lane cap : Nat) (db : Db) (c : Claim) (offerId : String) : Bool :=
  c.poolOffer != lane ||
    (db.activeOffers.any fun _ a =>
      a.poolOffer == some c.poolOffer && a.storeListingId == offerId) ||
    (db.item? c.item).all (fun r => !pushSkips r c.poolOffer) ||
    laneLoad db lane < cap

/-- The condition of a step, on the state before it. -/
def CapFits (lane cap : Nat) (s : CapState) : CapEvent → Prop
  | .ended c (.cloned _ offerId) => c ∈ s.issued → cloneFitsCap lane cap s.db c offerId = true
  | _ => True

/-! ### Steps that free capacity -/

section Load

variable {db db' db₁ : Db} {lane cap k : Nat} {c : Claim}

/-- No clone becomes ACTIVE and no item becomes QUEUED. -/
structure Sheds (db db' : Db) : Prop where
  items : Settles db db'
  clones : ∀ i a, db'.activeOffers.get? i = some a → a.status = .active →
    ∃ b, db.activeOffers.get? i = some b ∧ b.status = .active ∧ b.poolOffer = a.poolOffer

theorem sheds_of_settles (h : Settles db db') (hclones : db'.activeOffers = db.activeOffers) :
    Sheds db db' where
  items := h
  clones := fun i a hget hactive => ⟨a, by rw [← hclones]; exact hget, hactive, rfl⟩

theorem Sheds.refl (db : Db) : Sheds db db :=
  sheds_of_settles (Settles.refl db) rfl

theorem Sheds.trans (h₁ : Sheds db db₁) (h₂ : Sheds db₁ db') : Sheds db db' where
  items := h₁.items.trans h₂.items
  clones := by
    intro i a hget hactive
    obtain ⟨b, hb, hbactive, hboffer⟩ := h₂.clones i a hget hactive
    obtain ⟨b', hb', hbactive', hboffer'⟩ := h₁.clones i b hb hbactive
    exact ⟨b', hb', hbactive', hboffer'.trans hboffer⟩

theorem Sheds.committed {tx : Except PyError Db} (h : ∀ db', tx = .ok db' → Sheds db db') :
    Sheds db (committed db tx) := by
  rcases committed_cases db tx with hsame | hok
  · rw [hsame]
    exact Sheds.refl db
  · exact h _ hok

theorem Sheds.activeClones_le (h : Sheds db db') :
    activeClones db' lane ≤ activeClones db lane := by
  apply Table.count_le
  intro i a hget hsel
  rw [Bool.and_eq_true, beq_iff_eq, beq_iff_eq] at hsel
  obtain ⟨b, hb, hactive, hoffer⟩ := h.clones i a hget hsel.2
  refine ⟨b, hb, ?_⟩
  rw [hactive, hoffer, hsel.1]
  simp

/-- The QUEUED items of a lane, from the rows of the items. -/
theorem queuedClaims_le_add (ks : List Nat)
    (h : ∀ j r, db'.item? j = some r → r.poolOffer = some lane → r.status = .queued →
      j ∈ ks ∨ db.item? j = some r) :
    queuedClaims db' lane ≤ queuedClaims db lane + ks.length := by
  apply Table.count_le_add ks
  intro j r hget hsel
  have hrow := hsel
  rw [Bool.and_eq_true, beq_iff_eq, beq_iff_eq] at hrow
  rcases h j r hget hrow.1 hrow.2 with hks | hsame
  · exact Or.inl hks
  · exact Or.inr ⟨r, hsame, hsel⟩

theorem queuedClaims_le_of_settles (h : Settles db db') :
    queuedClaims db' lane ≤ queuedClaims db lane := by
  apply queuedClaims_le_add []
  intro j r hr _ hqueued
  rcases h j with hsame | ⟨r', hr', hnot⟩
  · exact Or.inr (hsame.symm.trans hr)
  · cases hr'.symm.trans hr
    exact absurd hqueued hnot

theorem Sheds.laneLoad_le (h : Sheds db db') : laneLoad db' lane ≤ laneLoad db lane :=
  Nat.add_le_add h.activeClones_le (queuedClaims_le_of_settles h.items)

theorem sheds_delistMissing {a : Nat} (h : delistMissing db a = .ok db') : Sheds db db' := by
  obtain ⟨locked, hlocked, h⟩ := except_bind_ok.mp h
  have hget := getRow_ok hlocked
  split at h
  · cases h
    exact Sheds.refl db
  have hclones : ∀ i b, (db.activeOffers.set a (missingClone locked)).get? i = some b →
      b.status = .active →
      ∃ b', db.activeOffers.get? i = some b' ∧ b'.status = .active ∧
        b'.poolOffer = b.poolOffer := by
    intro i b hi hactive
    rw [Table.get?_set hget] at hi
    split at hi
    · cases hi
      cases hactive
    · exact ⟨b, hi, hactive, rfl⟩
  split at h
  · cases h
    exact ⟨fun _ => Or.inl rfl, hclones⟩
  · obtain ⟨item, hitem, h⟩ := except_bind_ok.mp h
    have hk : Db.item? { db with activeOffers := db.activeOffers.set a (missingClone locked) } _
        = some item := getRow_ok hitem
    have hrw := Db.rewrites_of_saveItem (f := remoteMissingRow) hk h
    obtain ⟨items, -, rfl⟩ := Db.saveItem_ok h
    exact ⟨settles_of_rewrites hrw fun _ => nofun, hclones⟩

theorem sheds_makeAvailable {done : Bool} (h : makeAvailable db k = .ok (done, db')) :
    Sheds db db' := by
  rcases makeAvailable_ok h with rfl | ⟨⟨items, links, hdb'⟩, hrw, -, -⟩
  · exact Sheds.refl _
  refine ⟨settles_of_rewrites hrw fun _ => nofun, fun i a hget hactive => ?_⟩
  -- a clone that is ACTIVE afterwards was not rewritten
  rw [hdb', Table.get?_mapRows] at hget
  obtain ⟨b, hb, rfl⟩ := Option.map_eq_some_iff.mp hget
  refine ⟨b, hb, ?_⟩
  unfold delistClone at hactive ⊢
  split at hactive
  · cases hactive
  · rename_i hnot
    rw [if_neg hnot]
    exact ⟨hactive, rfl⟩

theorem sheds_processedSale (sha256 : String → String) (n : SaleNotification) (t : SaleTarget)
    (offer : PoolOffer) : Sheds db (processedSale sha256 db n t offer) := by
  refine ⟨fun j => Or.inl item?_processedSale, fun i a hget hactive => ?_⟩
  have hget : (sellClone db t).activeOffers.get? i = some a := hget
  unfold sellClone at hget
  split at hget
  · exact ⟨a, hget, hactive, rfl⟩
  · rw [Table.get?_updateWhere] at hget
    obtain ⟨b, hb, rfl⟩ := Option.map_eq_some_iff.mp hget
    refine ⟨b, hb, ?_⟩
    split at hactive
    · cases hactive
    · rename_i hnot
      rw [if_neg hnot]
      exact ⟨hactive, rfl⟩

theorem sheds_consumeIdentified {orderId item : Option Nat}
    (h : consumeIdentified db orderId item = .ok db') : Sheds db db' := by
  unfold consumeIdentified at h
  split at h
  · obtain ⟨⟨items, hdb'⟩, hcase⟩ := consumeSoldPoolItem_ok h
    have hclones : db'.activeOffers = db.activeOffers := by rw [hdb']
    rcases hcase with rfl | hrw
    · exact Sheds.refl _
    · exact sheds_of_settles (settles_of_rewrites hrw fun _ => nofun) hclones
  · cases h
    exact Sheds.refl db

theorem sheds_recordVisit (sha256 : String → String) (n : SaleNotification) (t : SaleTarget) :
    Sheds db (recordVisit sha256 n db t) := by
  rcases recordVisit_leaves sha256 n db t with ⟨saleEvents, hsame⟩ | ⟨offer, -, hconsumed⟩
  · rw [hsame]
    exact sheds_of_settles (fun _ => Or.inl rfl) rfl
  · exact (sheds_processedSale sha256 n t offer).trans (sheds_consumeIdentified hconsumed)

/-! ### Claims -/

/-- A capped claim stays within the cap. -/
theorem laneLoad_claim_le {limit : Nat} {cs : List Claim} (hcap : laneLoad db lane ≤ cap)
    (h : claimPendingItems db lane limit (some cap) = .ok (db', cs)) :
    laneLoad db' lane ≤ cap := by
  obtain ⟨ks, -, hlength, hclaimed, -⟩ := claimPendingItems_ok h
  have hactive : activeClones db' lane = activeClones db lane := by
    obtain ⟨items, attempts, token, rfl⟩ := claimPendingItems_eq h
    rfl
  -- only the claimed items can have become QUEUED
  have hqueued : queuedClaims db' lane ≤ queuedClaims db lane + ks.length := by
    apply queuedClaims_le_add ks
    intro j r hr _ _
    by_cases hj : j ∈ ks
    · exact Or.inl hj
    · exact Or.inr ((hclaimed.frame j hj).symm.trans hr)
  -- the room the two counts leave
  have hroom : ks.length ≤ cap - activeClones db lane - queuedClaims db lane :=
    hlength.trans (Nat.min_le_right _ _)
  rw [laneLoad] at hcap ⊢
  omega

/-- A claim of another PoolOffer takes no capacity of the lane. -/
theorem laneLoad_otherClaim_le {offer limit : Nat} {max : Option Nat} {cs : List Claim}
    (hother : offer ≠ lane) (h : claimPendingItems db offer limit max = .ok (db', cs)) :
    laneLoad db' lane ≤ laneLoad db lane := by
  obtain ⟨ks, -, -, hclaimed, -⟩ := claimPendingItems_ok h
  have hactive : activeClones db' lane = activeClones db lane := by
    obtain ⟨items, attempts, token, rfl⟩ := claimPendingItems_eq h
    rfl
  have hqueued : queuedClaims db' lane ≤ queuedClaims db lane := by
    apply queuedClaims_le_add []
    intro j r hr hlane _
    by_cases hj : j ∈ ks
    · rw [← hclaimed.items] at hj
      -- an item claimed now is QUEUED for the other PoolOffer
      obtain ⟨c, hc, rfl⟩ := List.mem_map.mp hj
      obtain ⟨r₀, -, hrow⟩ := hclaimed.row c hc
      cases hrow.symm.trans hr
      rw [ItemRow.keepLiveOwner_poolOffer] at hlane
      exact absurd (Option.some.inj hlane) hother
    · exact Or.inr ((hclaimed.frame j hj).symm.trans hr)
  exact Nat.add_le_add hactive.le hqueued

/-! ### The insertion of a clone -/

theorem activeClones_cloneRows {t : PaTarget} {offerId : String} :
    activeClones (cloneRows db t c offerId) lane
      = activeClones db lane + if t.poolOffer = lane then 1 else 0 := by
  rw [activeClones, cloneRows, Table.count_create]
  simp [activeClones]

/-- While its claim holds, a clone takes the place of the claim. -/
theorem laneLoad_cloned_le {t : PaTarget} {offerId : String} {r : ItemRow}
    (h : persistClone db t c offerId = .ok db') (hk : db.item? c.item = some r)
    (hheld : pushSkips r t.poolOffer = false) : laneLoad db' lane ≤ laneLoad db lane := by
  obtain ⟨⟨items, attempts, hdb'⟩, r', hr', hcase⟩ := persistClone_ok h
  cases hr'.symm.trans hk
  rw [hheld, if_neg Bool.false_ne_true] at hcase
  obtain ⟨hqueued, hoffer, -⟩ := not_pushSkips_iff.mp hheld
  have hactive : activeClones db' lane
      = activeClones db lane + if t.poolOffer = lane then 1 else 0 := by
    rw [← activeClones_cloneRows, hdb']
    rfl
  have hpushed : ∀ r', db'.item? c.item = some r' → r'.status = .pushed := by
    intro r' hr'
    cases (hcase.self hk).symm.trans hr'
    exact ItemRow.keepLiveOwner_status _
  by_cases hlane : t.poolOffer = lane
  · rw [if_pos hlane] at hactive
    -- the item was QUEUED for the lane, and is not any more
    have hfreed : queuedClaims db' lane < queuedClaims db lane := by
      refine Table.count_lt (fun j r' hj hsel => ?_) hk ?_ fun r' hj => ?_
      · rcases hcase.cases j with hsame | ⟨rfl, -⟩
        · exact ⟨r', hsame.symm.trans hj, hsel⟩
        · rw [hpushed r' hj] at hsel
          simp at hsel
      · simp [hqueued, hoffer, hlane]
      · simp [hpushed r' hj]
    rw [laneLoad, laneLoad]
    omega
  · rw [if_neg hlane] at hactive
    have hsettles : Settles db db' := settles_of_rewrites hcase fun _ => nofun
    exact Nat.add_le_add hactive.le (queuedClaims_le_of_settles hsettles)

/-- **Persisting a clone is exact.** -/
theorem withinCap_cloned_iff (hcap : laneLoad db lane ≤ cap) {t : PaTarget} {offerId : String} :
    laneLoad (committed db (persistClone db (t.ofClaim c) c offerId)) lane ≤ cap ↔
      cloneFitsCap lane cap db c offerId = true := by
  by_cases htaken : (db.activeOffers.any fun _ a =>
      a.poolOffer == some c.poolOffer && a.storeListingId == offerId) = true
  · rw [persistClone_taken htaken, cloneFitsCap, htaken, Bool.or_true, Bool.true_or, Bool.true_or]
    exact iff_of_true hcap rfl
  rcases hk : db.item? c.item with - | r
  · rw [persistClone_gone htaken hk, cloneFitsCap, hk]
    refine iff_of_true hcap ?_
    simp
  by_cases hskip : pushSkips r c.poolOffer = true
  -- the claim is gone, and the clone comes on top
  · rw [persistClone_skipped htaken hk hskip]
    have hload : laneLoad (committed db (.ok (cloneRows db (t.ofClaim c) c offerId))) lane
        = laneLoad db lane + if c.poolOffer = lane then 1 else 0 := by
      show activeClones (cloneRows db (t.ofClaim c) c offerId) lane + queuedClaims db lane = _
      rw [activeClones_cloneRows, laneLoad, Nat.add_right_comm]
      rfl
    rw [hload, cloneFitsCap, Bool.eq_false_iff.mpr htaken, hk]
    by_cases hlane : c.poolOffer = lane
    · subst hlane
      simp only [bne_self_eq_false, Bool.false_or, Option.all_some, hskip, Bool.not_true,
        if_true, decide_eq_true_eq]
      exact Nat.succ_le_iff
    · simp [hlane, hcap]
  -- the claim holds, and the clone takes its place
  · have hheld := Bool.eq_false_iff.mpr hskip
    refine iff_of_true ?_ ?_
    · rcases hrun : persistClone db (t.ofClaim c) c offerId with err | db'
      · exact hcap
      · exact (laneLoad_cloned_le hrun hk hheld).trans hcap
    · simp [cloneFitsCap, hk, hheld]

end Load

/-! ### Runs -/

section Runs

variable {sha256 : String → String} {lane cap : Nat}

theorem sheds_ended {db db' : Db} {c : Claim} {e : ClaimEnd} (h : e.tx db c = .ok db')
    (hclone : ∀ t offerId, e ≠ .cloned t offerId) : Sheds db db' := by
  cases e with
  | pushed remoteOfferId credId =>
    obtain ⟨n, h⟩ := map_snd_ok h
    obtain ⟨⟨items, attempts, hdb'⟩, -⟩ := markItemPushed_ok h
    exact sheds_of_settles (settles_markItemPushed h) (by rw [hdb'])
  | failed f =>
    obtain ⟨⟨items, attempts, hdb'⟩, -⟩ := markItemFailed_ok h
    exact sheds_of_settles (settles_markItemFailed h) (by rw [hdb'])
  | martFailed pretransport requestId =>
    obtain ⟨done, h⟩ := map_snd_ok h
    refine sheds_of_settles (settles_martFailed h) ?_
    rcases finalizeMartClaimFailure_ok h with rfl | ⟨⟨items, attempts, rfl⟩, -⟩
    · rfl
    · rfl
  | cloned t offerId => exact absurd rfl (hclone t offerId)
  | linked listing =>
    obtain ⟨products, links, rfl⟩ := linkPushedItem_ok h
    exact sheds_of_settles (fun _ => Or.inl rfl) rfl

theorem withinCap_claimStep {s : CapState} {limit : Nat} (h : WithinCap lane cap s) :
    WithinCap lane cap (claimStep s lane limit (some cap)) := by
  unfold claimStep
  rcases hrun : claimPendingItems s.db lane limit (some cap) with err | ⟨db, cs⟩
  · exact h
  · exact laneLoad_claim_le h hrun

theorem withinCap_otherClaim {s : CapState} {offer limit : Nat} {max : Option Nat}
    (h : WithinCap lane cap s) (hother : offer ≠ lane) :
    WithinCap lane cap (claimStep s offer limit max) := by
  unfold claimStep
  rcases hrun : claimPendingItems s.db offer limit max with err | ⟨db, cs⟩
  · exact h
  · exact (laneLoad_otherClaim_le hother hrun).trans h

/-- One step from a state within the cap is exact. -/
theorem withinCap_step_iff (s : CapState) (e : CapEvent) (h : WithinCap lane cap s) :
    WithinCap lane cap (capStep sha256 lane cap s e) ↔ CapFits lane cap s e := by
  have of_sheds : ∀ {db' : Db}, Sheds s.db db' → laneLoad db' lane ≤ cap :=
    fun hsheds => hsheds.laneLoad_le.trans h
  cases e with
  | tick n => exact iff_of_true h trivial
  | order o => exact iff_of_true h trivial
  | claim limit => exact iff_of_true (withinCap_claimStep h) trivial
  | otherClaim offer limit max =>
    refine iff_of_true ?_ trivial
    show WithinCap lane cap (if offer = lane then s else claimStep s offer limit max)
    split
    · exact h
    · rename_i hother
      exact withinCap_otherClaim h hother
  | sale n t => exact iff_of_true (of_sheds (sheds_recordVisit sha256 n t)) trivial
  | delisted a =>
    refine iff_of_true (of_sheds ?_) trivial
    exact Sheds.committed fun db' hrun => sheds_delistMissing hrun
  | makeAvailable k =>
    refine iff_of_true (of_sheds (Sheds.committed fun db' hrun => ?_)) trivial
    obtain ⟨done, hrun⟩ := map_snd_ok hrun
    exact sheds_makeAvailable hrun
  | ended c e =>
    show WithinCap lane cap (if c ∈ s.issued then _ else s) ↔ _
    by_cases hissued : c ∈ s.issued
    · rw [if_pos hissued]
      have ended (hclone : ∀ t offerId, e ≠ .cloned t offerId) :
          laneLoad (committed s.db (e.tx s.db c)) lane ≤ cap :=
        of_sheds (Sheds.committed fun db' hrun => sheds_ended hrun hclone)
      cases e with
      | cloned t offerId =>
        show laneLoad (committed s.db (persistClone s.db (t.ofClaim c) c offerId)) lane ≤ cap ↔
          (c ∈ s.issued → cloneFitsCap lane cap s.db c offerId = true)
        rw [withinCap_cloned_iff h]
        exact ⟨fun hfits _ => hfits, fun hfits => hfits hissued⟩
      | pushed remoteOfferId credId => exact iff_of_true (ended nofun) trivial
      | failed f => exact iff_of_true (ended nofun) trivial
      | martFailed pretransport requestId => exact iff_of_true (ended nofun) trivial
      | linked listing => exact iff_of_true (ended nofun) trivial
    · rw [if_neg hissued]
      refine iff_of_true h ?_
      cases e <;> first | trivial | exact fun hissued' => absurd hissued' hissued

/-- **The clone cap.**  From a state within the cap, a run of claims, clones,
failures, sales, delistings and recoveries keeps the ACTIVE clones plus the
QUEUED items of the lane within the cap exactly when every clone it persists
fits: its claim still holds, or there is room for it. -/
theorem clone_cap (sha256 : String → String) (lane cap : Nat) (s : CapState)
    (h : WithinCap lane cap s) (es : List CapEvent) :
    Always (capStep sha256 lane cap) (WithinCap lane cap) s es ↔
      Along (capStep sha256 lane cap) (CapFits lane cap) s es :=
  always_iff_along (I := fun _ => True) (fun _ _ _ => trivial)
    (fun s e _ hP => withinCap_step_iff s e hP) trivial h es

end Runs

/-! ### A lane with one place -/

/-- A lane for one clone: item 1 behind its ACTIVE clone, item 2 PENDING. -/
def onePlaceDb : Db where
  items := ⟨⟨[(1, { pool := 1, ownedProduct := 7, liveOwnedProduct := some 7
                    poolOffer := some 1, status := .pushed }),
    (2, { pool := 1, ownedProduct := 8, liveOwnedProduct := some 8 })], by decide⟩, by decide⟩
  pools := singleItemDb.pools
  offers := ⟨[(1,
    { pool := 1, listing := 1, strategy := .clone, targetCount := 1, threshold := 1
      maxConcurrent := some 1
      pool_offer_threshold_lte_target := by decide
      pool_offer_positive_threshold_target := by decide
      pool_offer_strategy_capacity_valid := Or.inr ⟨rfl, 1, rfl, by decide, by decide⟩ })],
    by decide⟩
  activeOffers := cloneLaneDb.activeOffers
  listings := cloneLaneDb.listings
  accounts := cloneLaneDb.accounts
  orders := ⟨[(5, { ownedProduct := none, status := .cancelled })], by decide⟩

/-- The clone of item 1, found missing, and the item, verified absent: the item
is PENDING again, and its clone DELISTED. -/
def relistedState : CapState :=
  run (capStep id 1 1) { db := onePlaceDb } [.delisted 1, .makeAvailable 1]

/-- The late order of the clone that was DELISTED. -/
def lateSale : SaleNotification := { listing := 2, eventKey := "order:77", orderId := some 6 }

def lateTarget : SaleTarget where
  poolOffer := 1
  eventKey := "order:77:active-offer:1"
  activeOffer := some (1, some 1)

/-- The order arrives when the new clone is persisted already. -/
theorem clone_cap_single :
    Always (capStep id 1 1) (WithinCap 1 1) relistedState
      [.claim 1, .ended ⟨1, 1, 7, 1, 0⟩ (.cloned paStore "new"),
        .order { ownedProduct := some 7, status := .completed }, .sale lateSale lateTarget] := by
  have hstart : WithinCap 1 1 relistedState := by
    show laneLoad relistedState.db 1 ≤ 1
    decide
  exact (clone_cap id 1 1 relistedState hstart _).mpr
    ⟨trivial, fun _ => by decide, trivial, trivial, trivial⟩

/-- **The cap does not hold.**  The item is claimed again; the order of its old
clone makes it CONSUMED while its create is on the way; the place is claimed
for the second item; then the create is answered, and the clone is inserted
next to the QUEUED item. -/
theorem clone_cap_fails :
    lateTarget ∈ cloneTargets lateSale (lateSale.baseEventKey 0) relistedState.db ∧
    ¬ Always (capStep id 1 1) (WithinCap 1 1) relistedState
      [.claim 1, .order { ownedProduct := some 7, status := .completed },
        .sale lateSale lateTarget, .claim 1, .ended ⟨1, 1, 7, 1, 0⟩ (.cloned paStore "new")] := by
  constructor
  · decide
  · rintro ⟨-, -, -, -, hbefore, hafter⟩
    -- the last clone does not fit
    have hfits := (withinCap_step_iff _ _ hbefore).mp hafter
    exact absurd (hfits (by decide)) (by decide)

end Sda
