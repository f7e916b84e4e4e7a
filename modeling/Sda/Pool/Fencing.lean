/-
Sda/Pool/Fencing.lean

Claim fencing: which late answers of a worker can touch an item that is no
longer the worker's.

The actors around one pool are interleaved one transaction at a time: claims,
the success and failure answers of workers (in any order, any number of
times, at any delay), the two phases of the quarantine sweep, sales, staff
recovery, and the orders that guard it.  A worker holds the `Claim` it was
given; `issued` collects them all, and `live` is a ghost: the claims whose
item row no step has changed since.

`Fenced` is the property of one answer: if it changes any item row, that row
is the worker's own item, still QUEUED under the worker's own token.

Main results:

* `step_row` — what one step can do to one row; the invariant
  `FenceInv` (live claims and QUEUED rows correspond) follows from it;
* `claim_fencing` — every answer of a run is fenced when failures are
  reported only for live claims, and successes only for live claims or while
  no live claim of the same PoolOffer holds the item;
* `claim_fencing_fails` — without that condition the code is not fenced: a
  failure that arrives after the sale returns the CONSUMED item to PENDING.

`finalizeMartClaimFailure` needs no condition: it compares the token itself.
-/
import Sda.Lib.Run
import Sda.Pool.MartClaims
import Sda.Pool.Recovery

namespace Sda

/-! ### The system -/

structure FenceState where
  db : Db
  /-- Every claim handed to a worker so far. -/
  issued : List Claim := []
  /-- Ghost: the claims whose item row is untouched since the claim. -/
  live : List Claim := []
  /-- The keys the quarantine sweep has read and not yet failed. -/
  staleIds : List Nat := []

inductive FenceEvent
  | tick (seconds : Nat)
  | order (o : Order)
  | claim (offer limit : Nat) (maxActiveOffers : Option Nat)
  /-- A worker's success answer reaches one candidate. -/
  | pushed (c : Claim) (remoteOfferId remoteCredentialId : String)
  /-- A worker's failure answer. -/
  | failed (c : Claim) (f : Failure)
  /-- The failure answer of a Mart worker. -/
  | martFailed (c : Claim) (localPretransport : Bool) (requestId : String)
  /-- The quarantine sweep reads the stale keys. -/
  | readStale (maxAge : Nat)
  /-- The quarantine sweep fails one key it has read. -/
  | failStale (k : Nat)
  /-- The sale transaction of an item. -/
  | sale (k : Nat) (event : PoolSaleEvent)
  | makeAvailable (k : Nat)
  | restoreLive (k : Nat) (remoteCredentialId : String)

/-- The database a transaction leaves, committed or rolled back. -/
def committed (db : Db) (tx : Except PyError Db) : Db :=
  match tx with
  | .ok db' => db'
  | .error _ => db

theorem committed_cases (db : Db) (tx : Except PyError Db) :
    committed db tx = db ∨ tx = .ok (committed db tx) := by
  cases tx with
  | error e => exact Or.inl rfl
  | ok db' => exact Or.inr rfl

/-- The database after an event, and the claims it hands out. -/
def FenceState.effect (s : FenceState) : FenceEvent → Db × List Claim
  | .tick n => ({ s.db with now := s.db.now + n }, [])
  | .order o => ({ s.db with orders := s.db.orders.create o }, [])
  | .claim offer limit cap =>
    match claimPendingItems s.db offer limit cap with
    | .ok r => r
    | .error _ => (s.db, [])
  | .pushed c remoteOfferId credId =>
    (if c ∈ s.issued then
      committed s.db ((markItemPushed s.db c.item c.poolOffer remoteOfferId credId).map Prod.snd)
    else s.db, [])
  | .failed c f =>
    (if c ∈ s.issued then committed s.db (markItemFailed s.db c.item f) else s.db, [])
  | .martFailed c localPretransport requestId =>
    (if c ∈ s.issued then
      committed s.db ((finalizeMartClaimFailure s.db c (some c.claimToken) localPretransport
        requestId).map Prod.snd)
    else s.db, [])
  | .readStale _ => (s.db, [])
  | .failStale k =>
    (if k ∈ s.staleIds then committed s.db (markItemFailed s.db k staleClaimFailure) else s.db, [])
  | .sale k event =>
    (committed s.db
      (consumeSoldPoolItem { s.db with saleEvents := s.db.saleEvents.create event } k), [])
  | .makeAvailable k => (committed s.db ((makeAvailable s.db k).map Prod.snd), [])
  | .restoreLive k credId => (committed s.db ((restoreLiveItem s.db k credId).map Prod.snd), [])

/-- The keys the sweep still has to process. -/
def FenceState.pendingStale (s : FenceState) : FenceEvent → List Nat
  | .readStale maxAge => staleClaimIds s.db maxAge
  | .failStale k => s.staleIds.erase k
  | _ => s.staleIds

def fenceStep (s : FenceState) (e : FenceEvent) : FenceState where
  db := (s.effect e).1
  issued := s.issued ++ (s.effect e).2
  live := (s.live.filter fun c => (s.effect e).1.item? c.item == s.db.item? c.item) ++ (s.effect e).2
  staleIds := s.pendingStale e

/-! ### What one step does to one row -/

/-- The item is QUEUED under this very claim. -/
def StillClaimed (db : Db) (c : Claim) : Prop :=
  ∃ r, db.item? c.item = some r ∧ r.status = .queued ∧
    r.poolOffer = some c.poolOffer ∧ r.claimToken = some c.claimToken

theorem map_snd_ok {α : Type} {tx : Except PyError (α × Db)} {db' : Db}
    (h : tx.map Prod.snd = .ok db') : ∃ a, tx = .ok (a, db') := by
  rcases tx with e | ⟨a, db₁⟩
  · cases h
  · cases h
    exact ⟨a, rfl⟩

theorem settles_of_committed {db : Db} {tx : Except PyError Db}
    (h : ∀ db', tx = .ok db' → Settles db db') : Settles db (committed db tx) := by
  rcases committed_cases db tx with hsame | hok
  · rw [hsame]
    exact Settles.refl db
  · exact h _ hok

/-- **What a step does to a row.**  A step that hands out claims is a claim;
every other step leaves a row alone or leaves it not QUEUED. -/
theorem step_row (s : FenceState) (e : FenceEvent) :
    (∃ offer ks, ks.Nodup ∧ Claimed s.db offer ks (s.effect e).1 (s.effect e).2) ∨
      (s.effect e).2 = [] ∧ Settles s.db (s.effect e).1 := by
  cases e with
  | tick n => exact Or.inr ⟨rfl, fun _ => Or.inl rfl⟩
  | order o => exact Or.inr ⟨rfl, fun _ => Or.inl rfl⟩
  | readStale maxAge => exact Or.inr ⟨rfl, fun _ => Or.inl rfl⟩
  | claim offer limit cap =>
    rcases h : claimPendingItems s.db offer limit cap with err | ⟨db', cs⟩
    · refine Or.inr ?_
      simp only [FenceState.effect, h, true_and]
      exact Settles.refl _
    · obtain ⟨ks, hnd, -, hclaimed, -⟩ := claimPendingItems_ok h
      refine Or.inl ⟨offer, ks, hnd, ?_⟩
      simpa only [FenceState.effect, h] using hclaimed
  | pushed c remoteOfferId credId =>
    refine Or.inr ⟨rfl, ?_⟩
    show Settles s.db (if c ∈ s.issued then _ else s.db)
    split
    · refine settles_of_committed fun db' h => ?_
      obtain ⟨n, h⟩ := map_snd_ok h
      exact settles_markItemPushed h
    · exact Settles.refl _
  | failed c f =>
    refine Or.inr ⟨rfl, ?_⟩
    show Settles s.db (if c ∈ s.issued then _ else s.db)
    split
    · exact settles_of_committed fun db' h => settles_markItemFailed h
    · exact Settles.refl _
  | martFailed c pretransport requestId =>
    refine Or.inr ⟨rfl, ?_⟩
    show Settles s.db (if c ∈ s.issued then _ else s.db)
    split
    · refine settles_of_committed fun db' h => ?_
      obtain ⟨done, h⟩ := map_snd_ok h
      exact settles_martFailed h
    · exact Settles.refl _
  | failStale k =>
    refine Or.inr ⟨rfl, ?_⟩
    show Settles s.db (if k ∈ s.staleIds then _ else s.db)
    split
    · exact settles_of_committed fun db' h => settles_markItemFailed h
    · exact Settles.refl _
  | sale k event =>
    refine Or.inr ⟨rfl, settles_of_committed fun db' h => ?_⟩
    rcases consumeSoldPoolItem_ok h with ⟨-, rfl | hrw⟩
    · exact fun _ => Or.inl rfl
    · -- recording the event does not touch the items
      have hsettles : Settles { s.db with saleEvents := s.db.saleEvents.create event } db' :=
        settles_of_rewrites hrw fun _ => by simp [consumedRow]
      exact hsettles
  | makeAvailable k =>
    refine Or.inr ⟨rfl, settles_of_committed fun db' h => ?_⟩
    obtain ⟨done, h⟩ := map_snd_ok h
    rcases makeAvailable_ok h with rfl | ⟨-, hrw, -⟩
    · exact Settles.refl _
    · exact settles_of_rewrites hrw fun _ => by simp [availableRow]
  | restoreLive k credId =>
    refine Or.inr ⟨rfl, settles_of_committed fun db' h => ?_⟩
    obtain ⟨done, h⟩ := map_snd_ok h
    rcases restoreLiveItem_ok h with ⟨-, rfl | hrw⟩
    · exact Settles.refl _
    · exact settles_of_rewrites hrw fun _ => by simp [restoredRow]

/-! ### The invariant -/

/-- Live claims and QUEUED rows correspond. -/
structure FenceInv (s : FenceState) : Prop where
  live_row : ∀ c ∈ s.live, StillClaimed s.db c
  queued_live : ∀ k r, s.db.item? k = some r → r.status = .queued → ∃ c ∈ s.live, c.item = k

theorem Claimed.stillClaimed {db db' : Db} {offer : Nat} {ks : List Nat} {cs : List Claim}
    (h : Claimed db offer ks db' cs) {c : Claim} (hc : c ∈ cs) : StillClaimed db' c := by
  obtain ⟨r, -, hrow⟩ := h.row c hc
  exact ⟨_, hrow, by simp [claimedRow], by simp [claimedRow, (h.claim c hc).1],
    by simp [claimedRow]⟩

theorem fenceInv_init {db : Db} (h : ∀ k r, db.item? k = some r → r.status ≠ .queued) :
    FenceInv { db } where
  live_row := by simp
  queued_live k r hr hq := absurd hq (h k r hr)

/-- The invariant survives every step, timely or not. -/
theorem fenceInv_step (s : FenceState) (e : FenceEvent) (hinv : FenceInv s) :
    FenceInv (fenceStep s e) := by
  have hnew : ∀ c ∈ (s.effect e).2, StillClaimed (s.effect e).1 c := by
    intro c hc
    rcases step_row s e with ⟨offer, ks, hnd, hclaimed⟩ | ⟨hnone, -⟩
    · exact hclaimed.stillClaimed hc
    · rw [hnone] at hc
      cases hc
  constructor
  · intro c hc
    rcases List.mem_append.mp hc with hold | hc
    · -- the row of a claim that stays live did not change
      obtain ⟨hlive, hsame⟩ := List.mem_filter.mp hold
      obtain ⟨r, hr, hrest⟩ := hinv.live_row c hlive
      exact ⟨r, (beq_iff_eq.mp hsame).trans hr, hrest⟩
    · exact hnew c hc
  · intro k r hr hq
    -- a row that is QUEUED now is untouched, or it is newly claimed
    have keep : (s.effect e).1.item? k = s.db.item? k →
        ∃ c ∈ (fenceStep s e).live, c.item = k := by
      intro hsame
      obtain ⟨c, hc, rfl⟩ := hinv.queued_live k r (hsame ▸ hr) hq
      exact ⟨c, List.mem_append_left _ (List.mem_filter.mpr ⟨hc, beq_iff_eq.mpr hsame⟩), rfl⟩
    rcases step_row s e with ⟨offer, ks, -, hclaimed⟩ | ⟨-, hsettles⟩
    · by_cases hk : k ∈ ks
      · obtain ⟨c, hc, rfl⟩ := List.mem_map.mp (hclaimed.items.symm ▸ hk)
        exact ⟨c, List.mem_append_right _ hc, rfl⟩
      · exact keep (hclaimed.frame k hk)
    · rcases hsettles k with hsame | ⟨r', hr', hne⟩
      · exact keep hsame
      · exact absurd hq (Option.some.inj (hr'.symm.trans hr) ▸ hne)

/-! ### Fencing -/

/-- The claim whose worker answers with this event. -/
def FenceEvent.answers : FenceEvent → Option Claim
  | .pushed c _ _ => some c
  | .failed c _ => some c
  | .martFailed c _ _ => some c
  | _ => none

/-- **Fenced**: an answer changes no item row but the worker's own, and that
only while it is QUEUED under the worker's own token. -/
def Fenced (s : FenceState) (e : FenceEvent) : Prop :=
  ∀ c, e.answers = some c → ∀ k, (fenceStep s e).db.item? k ≠ s.db.item? k →
    k = c.item ∧ ∃ r, s.db.item? k = some r ∧ r.status = .queued ∧
      r.claimToken = some c.claimToken

/-- The answers that are in time: a failure for a claim that is still live; a
success for one, or while no live claim of the same PoolOffer holds the
item. -/
def Timely (s : FenceState) : FenceEvent → Prop
  | .pushed c _ _ => c ∈ s.live ∨ ∀ c' ∈ s.live, c'.item = c.item → c'.poolOffer ≠ c.poolOffer
  | .failed c _ => c ∈ s.issued → c ∈ s.live
  | _ => True

instance (s : FenceState) (e : FenceEvent) : Decidable (Timely s e) := by
  cases e <;> unfold Timely <;> infer_instance

/-- A transaction that rewrites the row of a held claim is fenced. -/
theorem fenced_of_rewrites {db db' : Db} {c : Claim} {f : ItemRow → ItemRow}
    (hrw : db.Rewrites c.item f db') (hheld : StillClaimed db c) {k : Nat}
    (hk : db'.item? k ≠ db.item? k) :
    k = c.item ∧ ∃ r, db.item? k = some r ∧ r.status = .queued ∧
      r.claimToken = some c.claimToken := by
  rcases hrw.cases k with hsame | ⟨rfl, -⟩
  · exact absurd hsame hk
  · obtain ⟨r, hr, hq, -, htok⟩ := hheld
    exact ⟨rfl, r, hr, hq, htok⟩

theorem fenced_failed {s : FenceState} (hinv : FenceInv s) {c : Claim} {f : Failure}
    (h : Timely s (.failed c f)) : Fenced s (.failed c f) := by
  rintro _ ⟨⟩ k hk
  have hdb : (fenceStep s (.failed c f)).db
      = if c ∈ s.issued then committed s.db (markItemFailed s.db c.item f) else s.db := rfl
  rw [hdb] at hk
  by_cases hissued : c ∈ s.issued
  · rw [if_pos hissued] at hk
    rcases committed_cases s.db (markItemFailed s.db c.item f) with hsame | hok
    · rw [hsame] at hk
      exact absurd rfl hk
    · exact fenced_of_rewrites (markItemFailed_ok hok).2 (hinv.live_row c (h hissued)) hk
  · rw [if_neg hissued] at hk
    exact absurd rfl hk

theorem fenced_pushed {s : FenceState} (hinv : FenceInv s) {c : Claim}
    {remoteOfferId credId : String} (h : Timely s (.pushed c remoteOfferId credId)) :
    Fenced s (.pushed c remoteOfferId credId) := by
  rintro _ ⟨⟩ k hk
  have hdb : (fenceStep s (.pushed c remoteOfferId credId)).db
      = if c ∈ s.issued then
          committed s.db
            ((markItemPushed s.db c.item c.poolOffer remoteOfferId credId).map Prod.snd)
        else s.db := rfl
  rw [hdb] at hk
  by_cases hissued : c ∈ s.issued
  · rw [if_pos hissued] at hk
    rcases committed_cases s.db
      ((markItemPushed s.db c.item c.poolOffer remoteOfferId credId).map Prod.snd) with
      hsame | hok
    · rw [hsame] at hk
      exact absurd rfl hk
    · obtain ⟨n, hok⟩ := map_snd_ok hok
      obtain ⟨-, r, hr, hcase⟩ := markItemPushed_ok hok
      split at hcase
      · rw [hcase.2] at hk
        exact absurd rfl hk
      · rename_i hskip
        obtain ⟨hq, hoffer, -⟩ := not_pushSkips_iff.mp (Bool.eq_false_iff.mpr hskip)
        -- the row is QUEUED for this PoolOffer, so a live claim holds it
        have hlive : c ∈ s.live := by
          rcases h with hlive | hother
          · exact hlive
          · obtain ⟨c', hc', hitem⟩ := hinv.queued_live _ r hr hq
            obtain ⟨r', hr', -, hoffer', -⟩ := hinv.live_row c' hc'
            rw [hitem, hr] at hr'
            cases hr'
            exact absurd (Option.some.inj (hoffer'.symm.trans hoffer)) (hother c' hc' hitem)
        exact fenced_of_rewrites hcase.2 (hinv.live_row c hlive) hk
  · rw [if_neg hissued] at hk
    exact absurd rfl hk

/-- The Mart failure is fenced unconditionally. -/
theorem fenced_martFailed (s : FenceState) (c : Claim) (pretransport : Bool)
    (requestId : String) : Fenced s (.martFailed c pretransport requestId) := by
  rintro _ ⟨⟩ k hk
  have hdb : (fenceStep s (.martFailed c pretransport requestId)).db
      = if c ∈ s.issued then
          committed s.db ((finalizeMartClaimFailure s.db c (some c.claimToken) pretransport
            requestId).map Prod.snd)
        else s.db := rfl
  rw [hdb] at hk
  split at hk
  · rcases committed_cases s.db ((finalizeMartClaimFailure s.db c (some c.claimToken)
      pretransport requestId).map Prod.snd) with hsame | hok
    · rw [hsame] at hk
      exact absurd rfl hk
    · obtain ⟨done, hok⟩ := map_snd_ok hok
      rcases finalizeMartClaimFailure_ok hok with hsame | ⟨-, r, release, hr, hq, htok, -, hrw⟩
      · rw [hsame] at hk
        exact absurd rfl hk
      · rcases hrw.cases k with hsame | ⟨rfl, -⟩
        · exact absurd hsame hk
        · exact ⟨rfl, r, hr, hq, htok⟩
  · exact absurd rfl hk

/-- One step: a timely answer is fenced. -/
theorem fenced_of_timely (s : FenceState) (e : FenceEvent) (hinv : FenceInv s)
    (h : Timely s e) : Fenced s e := by
  cases e with
  | pushed c remoteOfferId credId => exact fenced_pushed hinv h
  | failed c f => exact fenced_failed hinv h
  | martFailed c pretransport requestId => exact fenced_martFailed s c pretransport requestId
  | _ => rintro c ⟨⟩

/-- **Claim fencing.**  From a database without QUEUED items, in every
interleaving of claims, answers, sweeps, sales and recoveries whose answers
are timely, every answer is fenced. -/
theorem claim_fencing (db : Db) (h : ∀ k r, db.item? k = some r → r.status ≠ .queued)
    (es : List FenceEvent) (htimely : Along fenceStep Timely { db } es) :
    Along fenceStep Fenced { db } es :=
  along_of_along (fun s e hinv _ => fenceInv_step s e hinv) fenced_of_timely
    (fenceInv_init h) htimely

/-! ### A pool with one item -/

/-- One GameBoost offer and one PENDING item. -/
def singleItemDb : Db where
  items := ⟨⟨[(1, { pool := 1, ownedProduct := 7, liveOwnedProduct := some 7 })], by decide⟩,
    by decide⟩
  pools := ⟨[(1, {})], by decide⟩
  offers := ⟨[(1,
    { pool := 1, listing := 1, strategy := .append
      pool_offer_threshold_lte_target := by decide
      pool_offer_positive_threshold_target := by decide
      pool_offer_strategy_capacity_valid := Or.inl ⟨rfl, rfl⟩ })], by decide⟩

/-- Two PENDING items. -/
def pendingPair : ItemTable :=
  ⟨⟨[(1, { pool := 1, ownedProduct := 7, liveOwnedProduct := some 7 }),
    (2, { pool := 1, ownedProduct := 8, liveOwnedProduct := some 8 })], by decide⟩, by decide⟩

/-- A PlayerAuctions clone lane. -/
def cloneLane (listing : Nat) : PoolOffer :=
  { pool := 1, listing, strategy := .clone, maxConcurrent := some 5
    pool_offer_threshold_lte_target := by decide
    pool_offer_positive_threshold_target := by decide
    pool_offer_strategy_capacity_valid := Or.inr ⟨rfl, 5, rfl, by decide, by decide⟩ }

/-- A GameBoost store. -/
def gameboostStore : Table IntegrationAccount :=
  ⟨[(1, { provider := .gameboost, slug := "gameboost" })], by decide⟩

/-- The listing of an offer. -/
def offerListing : Table Listing :=
  ⟨[(1, { integrationAccount := 1, storeListingId := "offer" })], by decide⟩

theorem singleItemDb_not_queued (k : Nat) (r : ItemRow) (h : singleItemDb.item? k = some r) :
    r.status ≠ .queued := by
  have hm := Table.get?_eq_some_iff.mp h
  simp only [singleItemDb, List.mem_singleton, Prod.mk.injEq] at hm
  rw [hm.2]
  decide

/-- Worker 0 claims the item, its claim expires, the item is recovered and
claimed again; worker 0's late success and worker 1's success follow. -/
theorem claim_fencing_single :
    Along fenceStep Fenced { db := singleItemDb }
      [.claim 1 1 none, .tick 1000, .readStale claimMaxAge, .failStale 1, .makeAvailable 1,
        .pushed ⟨1, 1, 7, 1, 0⟩ "offer" "", .claim 1 1 none, .pushed ⟨1, 1, 7, 1, 1⟩ "offer" ""] :=
  claim_fencing singleItemDb singleItemDb_not_queued _ (by decide)

/-- **The code is not fenced.**  Worker 0 claims the item, the item is sold
and consumed, and then worker 0's write times out: the late failure takes the
CONSUMED item back to PENDING. -/
theorem claim_fencing_fails :
    ¬ ∀ es, Along fenceStep Fenced { db := singleItemDb } es := by
  intro h
  have hlate := (h [.claim 1 1 none,
    .sale 1 { eventKey := "order:5", listing := 1, poolItem := some 1 },
    .failed ⟨1, 1, 7, 1, 0⟩ ⟨"API error: timeout", .remotePush, .absent, true⟩]).2.2.1
  obtain ⟨-, r, hr, hq, -⟩ := hlate ⟨1, 1, 7, 1, 0⟩ rfl 1 (by decide)
  have hstatus : r.status = .consumed :=
    congrArg (Option.map ItemRow.status) hr |>.symm.trans (by decide) |> Option.some.inj
  rw [hstatus] at hq
  cases hq

end Sda
