/-
Sda/Pool/SaleEvidence.lean

Sale evidence against the lifecycle and recovery operations.

An item has confirmed sale evidence when a sale event or a SOLD clone names
it.  `NeverReleased` says of one transition that no such item is returned to
PENDING and that none loses its exclusive live owner.

The system `lifecycleStep` runs the operations of `Lifecycle` and the two
ends of a recovery, in any order, with arbitrary writes of other workers in
between; a removal that waits for the marketplace is kept in `inflight` and
answered at any later time.

Main results:

* `finalize_neverReleased_iff` — exactly when the local finalization of a
  removal respects the evidence;
* `sale_evidence_blocks_release` — in every run whose steps meet
  `EvidenceGuard`, every lifecycle and recovery transition respects it;
* `sale_evidence_released` — the local-only path of `remove_pool_item` does
  not look at the evidence: a sold key is REMOVED and its live owner cleared.
-/
import Sda.Pool.Lifecycle
import Sda.Pool.Sales

namespace Sda

open Prog

/-! ### The system -/

structure LifecycleState where
  db : Db
  /-- Removals that wait for the marketplace. -/
  inflight : List InFlight := []

inductive LifecycleEvent
  | remove (offer k listing : Nat)
  | detach (offer : Nat)
  /-- The marketplace answers the removal at this position. -/
  | answer (i : Nat) (answer : RemovalAnswer)
  | forceReturn (offer k listing : Nat)
  | removeUnassigned (k : Nat)
  | retry (k : Nat)
  /-- The local half of a recovery. -/
  | recover (k : Nat)
  /-- A recovery found the key absent. -/
  | makeAvailable (k : Nat)
  /-- A recovery found the key live. -/
  | restoreLive (k : Nat) (remoteCredentialId : String)
  /-- Any write of another worker. -/
  | other (write : Db → Db)

/-- The database and the removal in flight after the local half. -/
def started (db : Db) (tx : Except PyError (RemovalStart × Db)) : Db × List InFlight :=
  match tx with
  | .error _ => (db, [])
  | .ok (.done _, db') => (db', [])
  | .ok (.remote op, db') => (db', [op])

def lifecycleStep (s : LifecycleState) : LifecycleEvent → LifecycleState
  | .remove offer k listing =>
    { db := (started s.db (removePoolItem s.db offer k listing)).1
      inflight := s.inflight ++ (started s.db (removePoolItem s.db offer k listing)).2 }
  | .detach offer =>
    { db := (started s.db (detachPoolOffer s.db offer)).1
      inflight := s.inflight ++ (started s.db (detachPoolOffer s.db offer)).2 }
  | .answer i answer =>
    match s.inflight[i]? with
    | none => s
    | some op =>
      { db := (exec (answerRemoval op answer) s.db).2, inflight := s.inflight.eraseIdx i }
  | .forceReturn offer k listing =>
    { s with db := committed s.db ((forceReturnToAvailable s.db offer k listing).map Prod.snd) }
  | .removeUnassigned k =>
    { s with db := committed s.db ((removeUnassignedItem s.db k).map Prod.snd) }
  | .retry k => { s with db := committed s.db ((retryPoolItem s.db k).map Prod.snd) }
  | .recover k => { s with db := committed s.db ((recoverVerifiedUnsoldItem s.db k).map Prod.snd) }
  | .makeAvailable k => { s with db := committed s.db ((makeAvailable s.db k).map Prod.snd) }
  | .restoreLive k credId =>
    { s with db := committed s.db ((restoreLiveItem s.db k credId).map Prod.snd) }
  | .other write => { s with db := write s.db }

/-! ### The property -/

/-- An item with sale evidence is not returned to PENDING and keeps its live
owner. -/
def NeverReleased (db db' : Db) : Prop :=
  ∀ k r, db.item? k = some r → hasConfirmedSaleEvidence db k = true →
    ∃ r', db'.item? k = some r' ∧ (r'.status = .pending → r.status = .pending) ∧
      (r.liveOwnedProduct ≠ none → r'.liveOwnedProduct ≠ none)

/-- Every transition of a lifecycle or recovery operation respects the
evidence. -/
def EvidenceBlocks (s : LifecycleState) (e : LifecycleEvent) : Prop :=
  match e with
  | .other _ => True
  | e => NeverReleased s.db (lifecycleStep s e).db

/-! ### The condition -/

/-- A key that the local finalization may take out: no evidence, or CONSUMED, or
held by an unresolved order, or without a live owner already. -/
def removable (db : Db) (k : Nat) : Bool :=
  !hasConfirmedSaleEvidence db k ||
    (db.item? k).all fun r =>
      r.status == .consumed || hasUnresolvedMarketplaceOrder db r || r.liveOwnedProduct.isNone

/-- A key that a detach may release: no evidence, or held by an unresolved
order, or PENDING already. -/
def detachable (db : Db) (k : Nat) : Bool :=
  !hasConfirmedSaleEvidence db k ||
    (db.item? k).all fun r => hasUnresolvedMarketplaceOrder db r || r.status == .pending

/-- Does `remove_pool_item` take its local-only path? -/
def removesLocally (db : Db) (offer k listing : Nat) : Bool :=
  match db.offers.get? offer, db.item? k with
  | some row, some item =>
    item.poolOffer == some offer && isKnownLocalOnly db offer k listing row item
  | _, _ => false

/-- The reservation a recovery of this key releases, with all its items. -/
def recoversReservation (db : Db) (k : Nat) : Option Nat := do
  let item ← db.item? k
  if hasUnresolvedMarketplaceOrder db item || item.status != .reserved || hasSaleEvent db k ||
      item.poolOffer.isSome || db.activeOffers.any fun _ a => a.poolItem == some k then
    none
  else
    let n ← item.reservation
    let res ← db.reservations.get? n
    if reservedReturnAllowed db res then some n else none

/-- No RESERVED item of the reservation has sale evidence. -/
def reservationUnsold (db : Db) (n : Nat) : Bool :=
  !db.items.table.any fun k r => isReservedUnder n r && hasConfirmedSaleEvidence db k

/-- The condition of a step, on the state before it. -/
def evidenceGuard (s : LifecycleState) : LifecycleEvent → Bool
  | .remove offer k listing => !removesLocally s.db offer k listing || removable s.db k
  | .answer i answer =>
    match s.inflight[i]?, answer with
    | some (.removal _ k _ _ _), .answered removed _ => !(k ∈ removed : Bool) || removable s.db k
    | some (.detach _ items), .answered removed _ =>
      (items.filter (· ∈ removed)).all fun k => detachable s.db k
    | _, _ => true
  | .recover k =>
    match recoversReservation s.db k with
    | some n => reservationUnsold s.db n
    | none => true
  | .retry k => !((s.db.item? k).any isRetryable && hasConfirmedSaleEvidence s.db k)
  | _ => true

/-! ### Transitions that respect the evidence -/

section Transitions

variable {db db' : Db} {k j offer listing : Nat} {r : ItemRow}

theorem neverReleased_of_items (h : ∀ j, db'.item? j = db.item? j) : NeverReleased db db' :=
  fun k r hr _ => ⟨r, (h k).trans hr, id, id⟩

/-- A saved row respects the evidence when it does not become PENDING and does
not become REMOVED without its owner. -/
theorem neverReleased_of_rewrites {f : ItemRow → ItemRow} (h : db.Rewrites k f db')
    (hf : ∀ r, db.item? k = some r → hasConfirmedSaleEvidence db k = true →
      ((f r).status = .pending → r.status = .pending) ∧
        ((f r).status = .removed → r.liveOwnedProduct ≠ none →
          (f r).liveOwnedProduct ≠ none)) : NeverReleased db db' := by
  intro j r hr hev
  rcases h.cases j with hsame | ⟨rfl, r₀, hr₀, hrow⟩
  · exact ⟨r, hsame.trans hr, id, id⟩
  · cases hr₀.symm.trans hr
    obtain ⟨hpending, hremoved⟩ := hf r hr hev
    refine ⟨_, hrow, ?_, fun hlive => ?_⟩
    · rw [ItemRow.keepLiveOwner_status]
      exact hpending
    · by_cases hst : (f r).status = .removed
      · rw [ItemRow.keepLiveOwner, if_neg (not_not.mpr hst)]
        exact hremoved hst hlive
      · rw [ItemRow.keepLiveOwner_live hst]
        intro h
        cases h

/-- A saved row that becomes neither PENDING nor REMOVED. -/
theorem neverReleased_of_kept {f : ItemRow → ItemRow} (h : db.Rewrites k f db')
    (hpending : ∀ r, (f r).status ≠ .pending) (hremoved : ∀ r, (f r).status ≠ .removed) :
    NeverReleased db db' :=
  neverReleased_of_rewrites h fun r _ _ =>
    ⟨fun hst => absurd hst (hpending r), fun hst => absurd hst (hremoved r)⟩

/-- A saved row of an item without evidence. -/
theorem neverReleased_of_unsold {f : ItemRow → ItemRow} (h : db.Rewrites k f db')
    (hunsold : hasConfirmedSaleEvidence db k = false) : NeverReleased db db' := by
  apply neverReleased_of_rewrites h
  intro r _ hev
  rw [hunsold] at hev
  cases hev

theorem neverReleased_committed {tx : Except PyError Db}
    (h : ∀ db', tx = .ok db' → NeverReleased db db') : NeverReleased db (committed db tx) := by
  rcases committed_cases db tx with hsame | hok
  · rw [hsame]
    exact neverReleased_of_items fun _ => rfl
  · exact h _ hok

/-! ### The local finalization -/

theorem hasConfirmedSaleEvidence_congr (hevents : db'.saleEvents = db.saleEvents)
    (hclones : db'.activeOffers = db.activeOffers) :
    hasConfirmedSaleEvidence db' k = hasConfirmedSaleEvidence db k := by
  rw [hasConfirmedSaleEvidence, hasConfirmedSaleEvidence, hasSaleEvent, hasSaleEvent, hevents,
    hclones]

/-- **What a finalization does**: the row of the key becomes the removal row. -/
theorem finalizeSingleItemRemoval_ok {decrement release released : Bool}
    (h : finalizeSingleItemRemoval db offer k listing decrement release = .ok (released, db')) :
    ∃ r, db.item? k = some r ∧ db.Rewrites k
      (removalRow · (release && !hasConfirmedSaleEvidence db k &&
        !hasUnresolvedMarketplaceOrder db r) (hasUnresolvedMarketplaceOrder db r)) db' := by
  obtain ⟨r, hr, h⟩ := except_bind_ok.mp h
  have hk := getRow_ok hr
  obtain ⟨saved, hs, h⟩ := except_bind_ok.mp h
  have hrw := Db.rewrites_of_saveItem (f := (removalRow · (release &&
    !hasConfirmedSaleEvidence db k && !hasUnresolvedMarketplaceOrder db r)
    (hasUnresolvedMarketplaceOrder db r))) hk hs
  refine ⟨r, hk, ?_⟩
  obtain ⟨items, -, rfl⟩ := Db.saveItem_ok hs
  cases decrement <;> cases h <;> exact hrw

/-- With evidence, a finalization writes REMOVED or CONSUMED. -/
theorem removalRow_status {unresolved : Bool} :
    (removalRow r false unresolved).status
      = if r.status = .consumed ∨ unresolved = true then .consumed else .removed := by
  by_cases hc : r.status = .consumed
  · simp [removalRow, withdrawnRow, hc]
  · cases unresolved <;> simp [removalRow, withdrawnRow, hc]

theorem removable_iff (hk : db.item? k = some r) (hev : hasConfirmedSaleEvidence db k = true) :
    removable db k = true ↔
      (r.status = .consumed ∨ hasUnresolvedMarketplaceOrder db r = true) ∨
        r.liveOwnedProduct = none := by
  simp [removable, hk, hev]

theorem neverReleased_finalize {decrement release released : Bool}
    (h : finalizeSingleItemRemoval db offer k listing decrement release = .ok (released, db'))
    (hrem : removable db k = true) : NeverReleased db db' := by
  obtain ⟨r, hk, hrw⟩ := finalizeSingleItemRemoval_ok h
  apply neverReleased_of_rewrites hrw
  intro r' hr' hev
  cases hr'.symm.trans hk
  rw [hev, Bool.not_true, Bool.and_false, Bool.false_and, removalRow_status]
  rcases (removable_iff hk hev).mp hrem with hst | hlive
  · rw [if_pos hst]
    exact ⟨nofun, nofun⟩
  · constructor
    · split <;> exact nofun
    · exact fun _ hne => absurd hlive hne

/-- The REMOVED row of a finalization is always accepted. -/
theorem finalize_removes (offer listing : Nat) (decrement release : Bool) (hk : db.item? k = some r)
    (hev : hasConfirmedSaleEvidence db k = true) (hst : r.status ≠ .consumed)
    (hfree : hasUnresolvedMarketplaceOrder db r = false) :
    ∃ released db',
      finalizeSingleItemRemoval db offer k listing decrement release = .ok (released, db') ∧
      ∃ r', db'.item? k = some r' ∧ r'.liveOwnedProduct = none := by
  have hrow : removalRow r false false = { r with
      status := .removed, liveOwnedProduct := none, remoteState := .absent
      remoteCredentialId := "", claimToken := none, claimedAt := none, errorMessage := ""
      failureStage := .blank } := by
    simp [removalRow, withdrawnRow, hst]
  have hvalid : Valid (db.items.table.set k (removalRow r false false).keepLiveOwner) := by
    rw [hrow]
    refine db.items.valid.set hk rfl rfl (Or.inl rfl) ?_ fun _ _ _ _ _ _ => nofun
    have hassigned : OfferPoolItemStatus.removed = .queued ∨ OfferPoolItemStatus.removed = .pushed ∨
        OfferPoolItemStatus.removed = .consumed → r.poolOffer ≠ none := by
      rintro (h | h | h) <;> cases h
    exact ⟨nofun, nofun, nofun, hassigned, nofun⟩
  have hsave : db.saveItem k (removalRow r false false)
      = .ok { db with items := ⟨_, hvalid⟩ } := by
    rw [Db.saveItem, ItemTable.save, ItemTable.commit_of_valid hvalid]
    rfl
  have hsaved : ∃ saved, db.saveItem k (removalRow r (release && !hasConfirmedSaleEvidence db k &&
      !hasUnresolvedMarketplaceOrder db r) (hasUnresolvedMarketplaceOrder db r)) = .ok saved := by
    rw [hev, hfree, Bool.not_true, Bool.and_false, Bool.false_and]
    exact ⟨_, hsave⟩
  obtain ⟨saved, hsaved⟩ := hsaved
  have hdone : ∃ db', finalizeSingleItemRemoval db offer k listing decrement release = .ok db' :=
    ⟨_, except_bind_ok.mpr ⟨r, by rw [hk]; rfl, except_bind_ok.mpr ⟨saved, hsaved, rfl⟩⟩⟩
  obtain ⟨⟨released, db'⟩, hdone⟩ := hdone
  obtain ⟨r₀, hk₀, hrw⟩ := finalizeSingleItemRemoval_ok hdone
  cases hk₀.symm.trans hk
  rw [hev, hfree, Bool.not_true, Bool.and_false, Bool.false_and] at hrw
  refine ⟨released, db', hdone, _, hrw.self hk, ?_⟩
  rw [hrow]
  rfl

/-- **The local finalization is exact.** -/
theorem finalize_neverReleased_iff {decrement release : Bool} :
    NeverReleased db (committed db
      ((finalizeSingleItemRemoval db offer k listing decrement release).map Prod.snd)) ↔
      removable db k = true := by
  constructor
  · intro h
    by_contra hrem
    rcases hk : db.item? k with - | r
    · simp [removable, hk] at hrem
    · have hev : hasConfirmedSaleEvidence db k = true := by
        by_contra hev
        simp [removable, hev] at hrem
      obtain ⟨hst, hlive⟩ := not_or.mp (mt (removable_iff hk hev).mpr hrem)
      obtain ⟨hst, hfree⟩ := not_or.mp hst
      obtain ⟨released, db', hdone, r', hr', hgone⟩ :=
        finalize_removes offer listing decrement release hk hev hst (Bool.eq_false_iff.mpr hfree)
      rw [hdone] at h
      obtain ⟨r'', hr'', -, hkept⟩ := h k r hk hev
      cases hr''.symm.trans hr'
      exact hkept hlive hgone
  · intro hrem
    refine neverReleased_committed fun db' h => ?_
    obtain ⟨released, h⟩ := map_snd_ok h
    exact neverReleased_finalize h hrem

/-! ### The local halves -/

theorem detachPoolOffer_items {start : RemovalStart}
    (h : detachPoolOffer db offer = .ok (start, db')) : db'.items = db.items := by
  obtain ⟨row, -, h⟩ := except_bind_ok.mp h
  dsimp only at h
  split at h <;> cases h <;> rfl

theorem requestRemoval_items {row : PoolOffer} {status : OfferPoolItemStatus} {start : RemovalStart}
    (h : requestRemoval db offer k listing row status = .ok (start, db')) :
    db'.items = db.items := by
  unfold requestRemoval at h
  split at h
  · cases h
    rfl
  split at h
  · exact detachPoolOffer_items h
  · cases h
    rfl

theorem neverReleased_removePoolItem {start : RemovalStart}
    (h : removePoolItem db offer k listing = .ok (start, db'))
    (hguard : removesLocally db offer k listing = true → removable db k = true) :
    NeverReleased db db' := by
  obtain ⟨row, hrow, h⟩ := except_bind_ok.mp h
  have hrow := getRow_ok hrow
  obtain ⟨item, hitem, h⟩ := except_bind_ok.mp h
  obtain ⟨hk, hoffer⟩ := Option.filter_eq_some_iff.mp (getRow_ok hitem)
  split at h
  · rename_i hlocal
    obtain ⟨⟨released, finalized⟩, hfinal, h⟩ := except_bind_ok.mp h
    cases h
    apply neverReleased_finalize hfinal
    apply hguard
    simp [removesLocally, hrow, hk, hlocal, beq_iff_eq.mp hoffer]
  split at h
  · cases h
    exact neverReleased_of_items fun _ => rfl
  split at h
  · cases h
    exact neverReleased_of_items fun _ => rfl
  split at h
  · -- the stale marker is repaired: the key becomes PUSHED
    obtain ⟨repaired, hsave, h⟩ := except_bind_ok.mp h
    have hrw := Db.rewrites_of_saveItem (f := repairedRow) hk hsave
    have hitems := requestRemoval_items h
    have hkept := neverReleased_of_kept hrw (fun _ => nofun) (fun _ => nofun)
    intro j r hr hev
    obtain ⟨r', hr', hrest⟩ := hkept j r hr hev
    exact ⟨r', by rw [Db.item?, hitems]; exact hr', hrest⟩
  · have hitems := requestRemoval_items h
    exact neverReleased_of_items fun j => by rw [Db.item?, hitems, Db.item?]

theorem neverReleased_started {tx : Except PyError (RemovalStart × Db)}
    (h : ∀ start db', tx = .ok (start, db') → NeverReleased db db') :
    NeverReleased db (started db tx).1 := by
  rcases htx : tx with err | ⟨start, db'⟩
  · exact neverReleased_of_items fun _ => rfl
  · cases start <;> exact h _ _ htx

/-! ### The answers of the marketplace -/

/-- The evidence stays, and it is respected. -/
structure Shields (db db' : Db) : Prop where
  evidence : ∀ k, hasConfirmedSaleEvidence db' k = hasConfirmedSaleEvidence db k
  released : NeverReleased db db'

theorem Shields.refl (db : Db) : Shields db db :=
  ⟨fun _ => rfl, neverReleased_of_items fun _ => rfl⟩

theorem Shields.trans {db₁ db₂ db₃ : Db} (h₁ : Shields db₁ db₂) (h₂ : Shields db₂ db₃) :
    Shields db₁ db₃ where
  evidence k := (h₂.evidence k).trans (h₁.evidence k)
  released := by
    intro k r hr hev
    obtain ⟨r₂, hr₂, hpending₂, hlive₂⟩ := h₁.released k r hr hev
    obtain ⟨r₃, hr₃, hpending₃, hlive₃⟩ := h₂.released k r₂ hr₂ ((h₁.evidence k).trans hev)
    exact ⟨r₃, hr₃, fun h => hpending₂ (hpending₃ h), fun h => hlive₃ (hlive₂ h)⟩

/-- A failed removal keeps the key visible: it becomes PUSHED. -/
theorem shields_finishRemoveFailures (offer : Nat) (error : String) (ks : List Nat) :
    Within Shields (finishRemoveFailures offer error ks) := by
  induction ks with
  | nil => exact Within.change fun db => ⟨fun _ => rfl, neverReleased_of_items fun _ => rfl⟩
  | cons k ks ih =>
    refine Within.bind (fun _ _ _ => Shields.trans) ?_ fun _ => ih
    apply Within.atomically Shields.refl
    intro db db' h
    have hrows := fun j => Db.item?_updateItems (j := j) h
    obtain ⟨items, -, rfl⟩ := Db.updateItems_ok h
    refine ⟨fun _ => rfl, fun j r hr _ => ?_⟩
    rw [hrows, hr, Option.map_some]
    split
    · exact ⟨_, rfl, nofun, id⟩
    · exact ⟨_, rfl, id, id⟩

theorem releaseRemovedItem_ok (h : releaseRemovedItem db offer k = .ok db') :
    ∃ r, db.item? k = some r ∧
      db.Rewrites k (detachedRow · (hasUnresolvedMarketplaceOrder db r)) db' ∧
      db'.saleEvents = db.saleEvents ∧ db'.activeOffers = db.activeOffers ∧
      db'.orders = db.orders := by
  obtain ⟨r, hr, h⟩ := except_bind_ok.mp h
  have hk := getRow_ok hr
  obtain ⟨saved, hs, h⟩ := except_bind_ok.mp h
  have hrw := Db.rewrites_of_saveItem
    (f := (detachedRow · (hasUnresolvedMarketplaceOrder db r))) hk hs
  obtain ⟨items, -, rfl⟩ := Db.saveItem_ok hs
  cases h
  exact ⟨r, hk, hrw, rfl, rfl, rfl⟩

theorem detachable_iff (hk : db.item? k = some r) (hev : hasConfirmedSaleEvidence db k = true) :
    detachable db k = true ↔
      hasUnresolvedMarketplaceOrder db r = true ∨ r.status = .pending := by
  simp [detachable, hk, hev]

theorem shields_releaseRemovedItem (h : releaseRemovedItem db offer k = .ok db')
    (hk : detachable db k = true) : Shields db db' := by
  obtain ⟨r, hr, hrw, hevents, hclones, -⟩ := releaseRemovedItem_ok h
  refine ⟨fun j => hasConfirmedSaleEvidence_congr hevents hclones, ?_⟩
  apply neverReleased_of_rewrites hrw
  intro r' hr' hev
  cases hr'.symm.trans hr
  refine ⟨fun hst => ?_, fun hst => ?_⟩
  · rcases (detachable_iff hr hev).mp hk with hunresolved | hpending
    · rw [hunresolved] at hst
      cases hst
    · exact hpending
  · cases hu : hasUnresolvedMarketplaceOrder db r <;> rw [hu] at hst <;> cases hst

/-- Releasing one key of the batch does not make another one unsafe. -/
theorem detachable_releaseRemovedItem (h : releaseRemovedItem db offer k = .ok db')
    (hj : detachable db j = true) : detachable db' j = true := by
  obtain ⟨r, hr, hrw, hevents, hclones, horders⟩ := releaseRemovedItem_ok h
  have hev := hasConfirmedSaleEvidence_congr (k := j) hevents hclones
  have hunresolved : ∀ r,
      hasUnresolvedMarketplaceOrder db' r = hasUnresolvedMarketplaceOrder db r :=
    fun r => by rw [hasUnresolvedMarketplaceOrder, horders, hasUnresolvedMarketplaceOrder]
  rcases hrw.cases j with hsame | ⟨rfl, r₀, hr₀, hrow⟩
  · simp only [detachable, hev, hsame, hunresolved]
    exact hj
  · cases hr₀.symm.trans hr
    rcases hsold : hasConfirmedSaleEvidence db j with - | -
    · simp [detachable, hev, hsold]
    · rw [detachable_iff hrow (hev.trans hsold), hunresolved]
      -- the new row is that of an unresolved order, or it is PENDING
      have hsame : hasUnresolvedMarketplaceOrder db
          (detachedRow r (hasUnresolvedMarketplaceOrder db r)).keepLiveOwner
          = hasUnresolvedMarketplaceOrder db r := by
        simp [hasUnresolvedMarketplaceOrder, detachedRow]
      rw [hsame, ItemRow.keepLiveOwner_status]
      cases hasUnresolvedMarketplaceOrder db r
      · exact Or.inr rfl
      · exact Or.inl rfl

theorem shields_releaseRemovedItems {ks : List Nat}
    (h : releaseRemovedItems db offer ks = .ok db') (hks : ∀ k ∈ ks, detachable db k = true) :
    Shields db db' := by
  induction ks generalizing db with
  | nil =>
    cases h
    exact Shields.refl _
  | cons k ks ih =>
    obtain ⟨db₁, h₁, h⟩ := except_bind_ok.mp h
    refine (shields_releaseRemovedItem h₁ (hks k List.mem_cons_self)).trans (ih h ?_)
    intro j hj
    exact detachable_releaseRemovedItem h₁ (hks j (List.mem_cons_of_mem k hj))

theorem shields_finishDetach {items removed : List Nat} {error : String}
    (h : ∀ k ∈ items.filter (· ∈ removed), detachable db k = true) :
    Shields db (exec (finishDetach offer items removed error) db).2 := by
  unfold finishDetach
  rcases hrel : releaseRemovedItems db offer (items.filter (· ∈ removed)) with err | db₁
  · rw [exec_bind_error (exec_atomically_error hrel)]
    exact Shields.refl db
  · rw [exec_bind_ok (exec_atomically_ok hrel)]
    refine (shields_releaseRemovedItems hrel h).trans ?_
    dsimp only
    by_cases hall : (items.filter (· ∉ removed)).isEmpty = true
    · rw [if_pos hall]
      exact ⟨fun _ => rfl, neverReleased_of_items fun _ => rfl⟩
    · rw [if_neg hall]
      exact shields_finishRemoveFailures _ _ _ db₁

/-! ### The other operations -/

theorem manualReturnErrors_ne_nil (locked : ItemRow) (hev : hasConfirmedSaleEvidence db k = true) :
    manualReturnErrors db k locked ≠ [] := by
  unfold manualReturnErrors
  by_cases hreserved : locked.status = .reserved
  · rw [if_pos hreserved]
    exact nofun
  by_cases hunresolved : hasUnresolvedMarketplaceOrder db locked = true
  · rw [if_neg hreserved, if_pos hunresolved]
    exact nofun
  · rw [if_neg hreserved, if_neg hunresolved, if_pos hev]
    exact nofun

theorem neverReleased_forceReturn {result : RemoveItemResult}
    (h : forceReturnToAvailable db offer k listing = .ok (result, db')) : NeverReleased db db' := by
  obtain ⟨row, -, h⟩ := except_bind_ok.mp h
  split at h
  · cases h
    exact neverReleased_of_items fun _ => rfl
  obtain ⟨locked, hlocked, h⟩ := except_bind_ok.mp h
  obtain ⟨hk, -⟩ := Option.filter_eq_some_iff.mp (getRow_ok hlocked)
  dsimp only at h
  split at h
  · cases h
    exact neverReleased_of_items fun _ => rfl
  · rename_i hnone
    -- no error was found, so there is no evidence
    have hunsold : hasConfirmedSaleEvidence db k = false := by
      by_contra hev
      have hne := manualReturnErrors_ne_nil locked (Bool.not_eq_false _ ▸ hev)
      rcases herr : manualReturnErrors db k locked with - | ⟨e, es⟩
      · exact hne herr
      · simp [herr] at hnone
    obtain ⟨saved, hs, h⟩ := except_bind_ok.mp h
    have hrw := Db.rewrites_of_saveItem (f := manuallyReturnedRow) hk hs
    obtain ⟨items, -, rfl⟩ := Db.saveItem_ok hs
    cases h
    exact neverReleased_of_unsold (show db.Rewrites k manuallyReturnedRow _ from hrw) hunsold

theorem neverReleased_removeUnassigned {done : Bool}
    (h : removeUnassignedItem db k = .ok (done, db')) : NeverReleased db db' := by
  obtain ⟨item, hitem, h⟩ := except_bind_ok.mp h
  obtain ⟨hk, -⟩ := Option.filter_eq_some_iff.mp (getRow_ok hitem)
  split at h
  · cases h
    exact neverReleased_of_items fun _ => rfl
  · rename_i hguard
    obtain ⟨-, hunsold, -⟩ := not_or.mp hguard |>.imp_right not_or.mp
    obtain ⟨saved, hs, h⟩ := except_bind_ok.mp h
    have hrw := Db.rewrites_of_saveItem (f := fun item : ItemRow =>
      { item with
        status := .removed
        liveOwnedProduct := none
        errorMessage := "Removed by staff from shared pool stock." }) hk hs
    cases h
    exact neverReleased_of_unsold hrw (Bool.eq_false_iff.mpr hunsold)

theorem neverReleased_retry {done : Bool} (h : retryPoolItem db k = .ok (done, db'))
    (hguard : (db.item? k).any isRetryable = true → hasConfirmedSaleEvidence db k = false) :
    NeverReleased db db' := by
  obtain ⟨item, hitem, h⟩ := except_bind_ok.mp h
  have hk := getRow_ok hitem
  split at h
  · cases h
    exact neverReleased_of_items fun _ => rfl
  · rename_i hretry
    obtain ⟨saved, hs, h⟩ := except_bind_ok.mp h
    have hrw := Db.rewrites_of_saveItem (f := retriedRow) hk hs
    cases h
    apply neverReleased_of_unsold hrw
    apply hguard
    rw [hk, Option.any_some]
    simpa using hretry

/-! ### Recovery -/

/-- `_make_available` looks at the evidence under the lock. -/
theorem neverReleased_makeAvailable {done : Bool} (h : makeAvailable db k = .ok (done, db')) :
    NeverReleased db db' := by
  rcases makeAvailable_ok h with rfl | ⟨-, hrw, hevent, hsold⟩
  · exact neverReleased_of_items fun _ => rfl
  · have hunsold : hasConfirmedSaleEvidence db k = false := by
      rw [hasConfirmedSaleEvidence, hevent, Bool.false_or]
      exact hsold
    exact neverReleased_of_unsold hrw hunsold

theorem neverReleased_restoreLive {credId : String} {done : Bool}
    (h : restoreLiveItem db k credId = .ok (done, db')) : NeverReleased db db' := by
  rcases restoreLiveItem_ok h with ⟨-, rfl | hrw⟩
  · exact neverReleased_of_items fun _ => rfl
  · exact neverReleased_of_kept hrw (fun _ => nofun) (fun _ => nofun)

/-- Releasing a reservation respects the evidence when none of its RESERVED
items has any. -/
theorem neverReleased_releaseReserved {n : Nat} {reason : String}
    (h : releaseReservedItems db n reason .absent none = .ok db')
    (hunsold : reservationUnsold db n = true) : NeverReleased db db' := by
  obtain ⟨released, hrel, h⟩ := except_bind_ok.mp h
  obtain ⟨-, hrows⟩ := releaseItems_ok hrel
  cases h
  intro k r hr hev
  have hnot : isReservedUnder n r = false := by
    rw [reservationUnsold, Bool.not_eq_true', Table.any_eq_false_iff] at hunsold
    have := hunsold k r hr
    rwa [hev, Bool.and_true] at this
  refine ⟨r, ?_, id, id⟩
  show released.item? k = some r
  rw [hrows, hr, Option.map_some, hnot, Bool.false_and, if_neg nofun]

theorem neverReleased_recoverReserved {item : ItemRow} {done : Bool}
    (hk : db.item? k = some item) (hunresolved : hasUnresolvedMarketplaceOrder db item = false)
    (hst : item.status = .reserved) (h : recoverReservedItem db k item = .ok (done, db'))
    (hguard : ∀ n, recoversReservation db k = some n → reservationUnsold db n = true) :
    NeverReleased db db' := by
  unfold recoverReservedItem at h
  split at h
  · cases h
    exact neverReleased_of_items fun _ => rfl
  rename_i hevent
  split at h
  · cases h
    exact neverReleased_of_items fun _ => rfl
  rename_i hassigned
  rcases hres : item.reservation with - | n
  · rw [hres] at h
    exact neverReleased_makeAvailable h
  · rw [hres] at h
    obtain ⟨res, hrow, h⟩ := except_bind_ok.mp h
    split at h
    · cases h
      exact neverReleased_of_items fun _ => rfl
    · rename_i hallowed
      obtain ⟨released, hrel, h⟩ := except_bind_ok.mp h
      cases h
      apply neverReleased_releaseReserved hrel
      apply hguard
      obtain ⟨hoffer, hclone⟩ := Bool.or_eq_false_iff.mp (Bool.eq_false_iff.mpr hassigned)
      have hallowed : reservedReturnAllowed db res = true := by simpa using hallowed
      simp [recoversReservation, hk, hunresolved, hst, Bool.eq_false_iff.mpr hevent, hoffer, hclone,
        hres, getRow_ok hrow, hallowed]

theorem neverReleased_recover {start : RecoveryStart}
    (h : recoverVerifiedUnsoldItem db k = .ok (start, db'))
    (hguard : ∀ n, recoversReservation db k = some n → reservationUnsold db n = true) :
    NeverReleased db db' := by
  have unchanged : ∀ {start start' : RecoveryStart}, (Except.ok (start', db) :
      Except PyError (RecoveryStart × Db)) = .ok (start, db') → NeverReleased db db' := by
    rintro _ _ ⟨⟩
    exact neverReleased_of_items fun _ => rfl
  have available : ∀ {f : Bool × Db → RecoveryStart × Db}, (∀ r, (f r).2 = r.2) →
      (makeAvailable db k >>= fun r => .ok (f r)) = .ok (start, db') → NeverReleased db db' := by
    intro f hf h
    obtain ⟨⟨done, db₁⟩, hav, h⟩ := except_bind_ok.mp h
    have hdb : db₁ = db' := (hf (done, db₁)).symm.trans (congrArg Prod.snd (Except.ok.inj h))
    exact hdb ▸ neverReleased_makeAvailable hav
  obtain ⟨item, hitem, h⟩ := except_bind_ok.mp h
  have hk := getRow_ok hitem
  split at h
  · exact unchanged h
  rename_i hunresolved
  split at h
  · exact unchanged h
  split at h
  · rename_i hst
    obtain ⟨⟨done, db₁⟩, hrec, h⟩ := except_bind_ok.mp h
    cases h
    exact neverReleased_recoverReserved hk (Bool.eq_false_iff.mpr hunresolved) hst hrec hguard
  split at h
  · exact unchanged h
  split at h
  · exact available (fun _ => rfl) h
  · obtain ⟨row, -, h⟩ := except_bind_ok.mp h
    dsimp only at h
    split at h
    · split at h
      · exact available (fun _ => rfl) h
      split at h
      · exact unchanged h
      split at h
      · exact unchanged h
      · exact available (fun _ => rfl) h
    · exact unchanged h

end Transitions

/-! ### Runs -/

/-- One step that meets its condition respects the evidence. -/
theorem evidenceBlocks_of_guard (s : LifecycleState) (e : LifecycleEvent)
    (h : evidenceGuard s e = true) : EvidenceBlocks s e := by
  cases e with
  | other write => trivial
  | remove offer k listing =>
    refine neverReleased_started fun start db' hrun => neverReleased_removePoolItem hrun ?_
    intro hlocal
    rw [evidenceGuard, hlocal, Bool.not_true, Bool.false_or] at h
    exact h
  | detach offer =>
    refine neverReleased_started fun start db' hrun => neverReleased_of_items fun j => ?_
    rw [Db.item?, detachPoolOffer_items hrun, Db.item?]
  | answer i answer =>
    rcases hop : s.inflight[i]? with - | op
    · show NeverReleased s.db (match s.inflight[i]? with | none => s | some op => _).db
      rw [hop]
      exact neverReleased_of_items fun _ => rfl
    · show NeverReleased s.db (match s.inflight[i]? with | none => s | some op => _).db
      rw [hop]
      show NeverReleased s.db (exec (answerRemoval op answer) s.db).2
      simp only [evidenceGuard, hop] at h
      cases op with
      | removal offer k listing countKnown autoRelease =>
        cases answer with
        | raised error => exact (shields_finishRemoveFailures offer error [k] s.db).released
        | answered removed error =>
          simp only [answerRemoval]
          by_cases hk : k ∈ removed
          · rw [if_pos hk]
            rcases hrun : (finalizeSingleItemRemoval s.db offer k listing countKnown
              autoRelease).map Prod.snd with err | db'
            · rw [exec_atomically_error hrun]
              exact neverReleased_of_items fun _ => rfl
            · rw [exec_atomically_ok hrun]
              obtain ⟨released, hrun⟩ := map_snd_ok hrun
              apply neverReleased_finalize hrun
              simpa [hk] using h
          · rw [if_neg hk]
            exact (shields_finishRemoveFailures _ _ _ s.db).released
      | detach offer items =>
        cases answer with
        | raised error => exact (shields_finishRemoveFailures offer error items s.db).released
        | answered removed error =>
          refine (shields_finishDetach fun k hk => ?_).released
          exact List.all_eq_true.mp h k hk
  | forceReturn offer k listing =>
    refine neverReleased_committed fun db' hrun => ?_
    obtain ⟨result, hrun⟩ := map_snd_ok hrun
    exact neverReleased_forceReturn hrun
  | removeUnassigned k =>
    refine neverReleased_committed fun db' hrun => ?_
    obtain ⟨done, hrun⟩ := map_snd_ok hrun
    exact neverReleased_removeUnassigned hrun
  | retry k =>
    refine neverReleased_committed fun db' hrun => ?_
    obtain ⟨done, hrun⟩ := map_snd_ok hrun
    refine neverReleased_retry hrun fun hretry => ?_
    rw [evidenceGuard, hretry, Bool.true_and, Bool.not_eq_true'] at h
    exact h
  | recover k =>
    refine neverReleased_committed fun db' hrun => ?_
    obtain ⟨start, hrun⟩ := map_snd_ok hrun
    refine neverReleased_recover hrun fun n hn => ?_
    simpa only [evidenceGuard, hn] using h
  | makeAvailable k =>
    refine neverReleased_committed fun db' hrun => ?_
    obtain ⟨done, hrun⟩ := map_snd_ok hrun
    exact neverReleased_makeAvailable hrun
  | restoreLive k credId =>
    refine neverReleased_committed fun db' hrun => ?_
    obtain ⟨done, hrun⟩ := map_snd_ok hrun
    exact neverReleased_restoreLive hrun

/-- **Sale evidence blocks release.**  In every run of lifecycle and recovery
operations, answers of the marketplace and writes of other workers whose steps
meet the guard, no operation returns an item with sale evidence to PENDING or
clears its live owner. -/
theorem sale_evidence_blocks_release (s : LifecycleState) (es : List LifecycleEvent)
    (h : Along lifecycleStep (fun s e => evidenceGuard s e = true) s es) :
    Along lifecycleStep EvidenceBlocks s es :=
  along_of_along (I := fun _ => True) (fun _ _ _ _ => trivial)
    (fun s e _ hguard => evidenceBlocks_of_guard s e hguard) trivial h

/-- A sold key that is CONSUMED, taken out of its closed listing. -/
theorem sale_evidence_consumed :
    Along lifecycleStep EvidenceBlocks { db := cloneLaneDb }
      [.other (notifySale id
          { listing := 2, eventKey := "playerauctions:1:77", orderId := some 5 } noReplenishment),
        .other fun db =>
          { db with listings := db.listings.mapRows fun _ l => { l with status := .closed } },
        .remove 1 1 1] :=
  sale_evidence_blocks_release _ _ (by decide)

/-- **The code releases sold keys.**  The order of an append lane is linked
between its two notifications, so the event names the item while the item stays
PUSHED; the order is refunded and the listing deleted.  Removing the key then
takes the local-only path: the row is REMOVED and its live owner cleared,
although the sale event names it. -/
theorem sale_evidence_released :
    ¬ Along lifecycleStep EvidenceBlocks { db := appendLaneDb }
      [.other (notifySale id
          { listing := 1, eventKey := "gameboost:1:77", orderId := some 5 } noReplenishment),
        .other fun db =>
          { db with
            orders := db.orders.mapRows fun _ o => { o with ownedProduct := some 7 } },
        .other (notifySale id
          { listing := 1, eventKey := "gameboost:1:77", orderId := some 5 } noReplenishment),
        .other fun db =>
          { db with
            orders := db.orders.mapRows fun _ o => { o with status := .refunded }
            listings := db.listings.mapRows fun _ l => { l with status := .deleted } },
        .remove 1 1 1] := by
  rintro ⟨-, -, -, -, h, -⟩
  obtain ⟨r, hr, -, hlive⟩ := h 1 _ rfl (by decide)
  -- the row that is left has no live owner
  have hgone : ∀ row : Option ItemRow, row = some r → row.bind ItemRow.liveOwnedProduct = none →
      r.liveOwnedProduct = none := by
    rintro _ rfl hnone
    exact hnone
  exact hlive (by decide) (hgone _ hr (by decide))

end Sda