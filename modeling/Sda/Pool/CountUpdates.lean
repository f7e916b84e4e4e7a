/-
Sda/Pool/CountUpdates.lean

The two writers of `PoolOffer.current_remote_count` that update it: a recorded
sale (`_record_sale_event`, services/pool/checker.py) and a replenish run
(`_replenish_append` and `_replenish_pa`, services/pool/replenisher.py).

A sale reads and writes the count under the row lock.  A run does not: it reads
at its beginning, talks to the marketplace, and saves what it read plus what
it pushed.  On a PlayerAuctions lane neither of them updates the stored count;
the sale stores the number of ACTIVE clones, the run that number at its
beginning plus what it pushed.

`countStep` interleaves any number of sales and runs statement by statement.
The updates that were committed are kept in the state; `expectedCount` applies
them to the count there was.

* `count_updates` — the stored count is the expected one in every state of a
  run exactly when every update is made to the stored count: a run saves while
  the count is still the one it works from, and on a PlayerAuctions lane a sale
  leaves one ACTIVE clone less than is stored;
* `count_updates_lost` — a sale between the read of a run and its save.
-/
import Sda.Pool.CloneCap
import Sda.Pool.RemoteCount

namespace Sda

/-! ### The updates of a count -/

inductive CountUpdate
  | sale
  | pushed (count : Nat)
  deriving DecidableEq, Repr

/-- A sale takes one, but never below zero; a run adds what it pushed. -/
def CountUpdate.apply (count : Nat) : CountUpdate → Nat
  | .sale => count - 1
  | .pushed n => count + n

/-- The count after the updates, none of them lost. -/
def expectedCount (initial : Nat) (updates : List CountUpdate) : Nat :=
  updates.foldl CountUpdate.apply initial

def salesIn (updates : List CountUpdate) : Nat :=
  updates.count .sale

def CountUpdate.added : CountUpdate → Nat
  | .sale => 0
  | .pushed n => n

def pushedIn (updates : List CountUpdate) : Nat :=
  (updates.map CountUpdate.added).sum

/-! ### Replenish runs -/

inductive CountPhase
  /-- The row is loaded, the count of the run is not read. -/
  | loaded
  /-- The count the run works from, its need, and the cap of its claim. -/
  | counted (current need : Nat) (cap : Option Nat)
  | claimed (current : Nat)
  /-- The push has returned, the count is not saved. -/
  | pushed (current count : Nat)
  | ended

/-- A run of `replenish_pool_offer`, with the row it loaded. -/
structure CountRun where
  row : PoolOffer
  marketplace : Option Provider
  phase : CountPhase := .loaded

/-- `PoolOffer.marketplace`. -/
def marketplaceOf (db : Db) (row : PoolOffer) : Option Provider :=
  (offerAccount db row).map IntegrationAccount.provider

/-- `pool.current_remote_count or 0` of an append lane, and its need. -/
def appendCount (row : PoolOffer) : CountPhase :=
  let current := row.currentRemoteCount.getD 0
  let need := row.targetCount - current
  if need = 0 then .ended else .counted current need none

/-- `active_count` of a PlayerAuctions lane, and its need. -/
def paCount (db : Db) (offer : Nat) (row : PoolOffer) : CountPhase :=
  match row.maxConcurrent with
  -- `min` of a number and None raises
  | none => .ended
  | some m =>
    let active := activeClones db offer
    let desired := min row.targetCount m
    let need := desired - active
    if need = 0 then .ended else .counted active need (some desired)

/-! ### The system -/

structure CountState where
  db : Db
  runs : List CountRun := []
  /-- The committed updates, the oldest first. -/
  updates : List CountUpdate := []

inductive CountEvent
  /-- The transaction of one visit of a sale notification. -/
  | sale (n : SaleNotification) (t : SaleTarget)
  /-- `replenish_pool_offer` loads the row. -/
  | load
  /-- A run reads the count it works from. -/
  | count (i : Nat)
  | claim (i : Nat)
  /-- A push returns a number, unless an exception leaves it. -/
  | push (i : Nat) (returned : Option Nat)
  /-- A run saves the count. -/
  | save (i : Nat)
  /-- The marks and clones of a push, and what others write to items and clones. -/
  | others (items : ItemTable) (activeOffers : Table OfferPoolActiveOffer)

def CountState.setPhase (s : CountState) (i : Nat) (r : CountRun) (phase : CountPhase) :
    CountState :=
  { s with runs := s.runs.set i { r with phase } }

/-- The run as `replenish_pool_offer` begins it. -/
def loadRun (db : Db) (offer : Nat) : Option CountRun :=
  match db.offers.get? offer with
  | none => none
  | some row => if canReplenish db row then some ⟨row, marketplaceOf db row, .loaded⟩ else none

/-- The first statements of `_replenish_pa` and of `_replenish_append`. -/
def countRun (offer : Nat) (s : CountState) (i : Nat) (r : CountRun) : CountState :=
  match r.phase, r.marketplace with
  | .loaded, some .playerauctions => s.setPhase i r (paCount s.db offer r.row)
  | .loaded, some .eldorado => s.setPhase i r (appendCount r.row)
  | .loaded, some .gameboost => s.setPhase i r (appendCount r.row)
  -- unsupported marketplaces
  | .loaded, _ => s.setPhase i r .ended
  | _, _ => s

def claimCounted (offer : Nat) (s : CountState) (i : Nat) (r : CountRun) : CountState :=
  match r.phase with
  | .counted current need cap =>
    match claimPendingItems s.db offer need cap with
    | .error _ => s.setPhase i r .ended
    -- nothing claimed, nothing saved
    | .ok (_, []) => s.setPhase i r .ended
    | .ok (db, _) => { s.setPhase i r (.claimed current) with db }
  | _ => s

def pushCounted (s : CountState) (i : Nat) (returned : Option Nat) (r : CountRun) : CountState :=
  match r.phase, returned with
  | .claimed current, some count => s.setPhase i r (.pushed current count)
  | .claimed _, none => s.setPhase i r .ended
  | _, _ => s

/-- `pool.save(update_fields=['last_replenished_at', 'current_remote_count', …])`;
the save of a row that is gone raises. -/
def saveCounted (offer : Nat) (s : CountState) (i : Nat) (r : CountRun) : CountState :=
  match r.phase, s.db.offers.get? offer with
  | .pushed current count, some _ =>
    { s.setPhase i r .ended with
      db := saveRemoteCount s.db offer (current + count)
      updates := s.updates ++ [.pushed count] }
  | .pushed _ _, none => s.setPhase i r .ended
  | _, _ => s

section System

variable (sha256 : String → String) (offer : Nat)

/-- The visit records a sale of the lane: its key is new, its clone accepts the
sale, and the transaction commits. -/
def recordsSale (db : Db) (n : SaleNotification) (t : SaleTarget) : Bool :=
  t.poolOffer == offer && (saleEvent? sha256 db t).isNone &&
    match cloneAccepts db n t with
    | .ok true => (recordSaleEvent sha256 db n t).isOk
    | _ => false

def countStep (s : CountState) : CountEvent → CountState
  | .sale n t =>
    { s with
      db := recordVisit sha256 n s.db t
      updates :=
        if recordsSale sha256 offer s.db n t then s.updates ++ [.sale] else s.updates }
  | .load =>
    match loadRun s.db offer with
    | some r => { s with runs := s.runs ++ [r] }
    | none => s
  | .count i => (s.runs[i]?).elim s (countRun offer s i)
  | .claim i => (s.runs[i]?).elim s (claimCounted offer s i)
  | .push i returned => (s.runs[i]?).elim s (pushCounted s i returned)
  | .save i => (s.runs[i]?).elim s (saveCounted offer s i)
  | .others items activeOffers => { s with db := { s.db with items, activeOffers } }

end System

/-! ### The property and its condition -/

/-- The stored count; NULL is read as 0. -/
def storedCount (db : Db) (offer : Nat) : Nat :=
  ((db.offers.get? offer).bind fun row => row.currentRemoteCount).getD 0

/-- **No update is lost.** -/
def CountKept (offer initial : Nat) (s : CountState) : Prop :=
  storedCount s.db offer = expectedCount initial s.updates

instance (offer initial : Nat) (s : CountState) : Decidable (CountKept offer initial s) :=
  inferInstanceAs (Decidable (_ = _))

/-- A sale of a PlayerAuctions lane leaves one ACTIVE clone less than is stored. -/
def clonesAgree (offer : Nat) (db : Db) (t : SaleTarget) : Bool :=
  (db.offers.get? offer).all fun row =>
    marketplaceOf db row != some .playerauctions ||
      activeClones (sellClone db t) offer == storedCount db offer - 1

/-- The count the run works from is still the stored one. -/
def countCurrent (offer : Nat) (db : Db) (r : CountRun) : Bool :=
  match r.phase, db.offers.get? offer with
  | .pushed current _, some _ => current == storedCount db offer
  | _, _ => true

/-- The condition of a step, on the state before it. -/
def UpdateFits (sha256 : String → String) (offer : Nat) (s : CountState) : CountEvent → Prop
  | .sale n t => recordsSale sha256 offer s.db n t = true → clonesAgree offer s.db t = true
  | .save i => ((s.runs[i]?).all (countCurrent offer s.db)) = true
  | _ => True

/-- A sale is recorded while the stored count is positive. -/
def SaleFindsStock (sha256 : String → String) (offer : Nat) (s : CountState) : CountEvent → Prop
  | .sale n t => recordsSale sha256 offer s.db n t = true → 0 < storedCount s.db offer
  | _ => True

/-! ### The ledger -/

theorem expectedCount_append (initial : Nat) (updates : List CountUpdate) (u : CountUpdate) :
    expectedCount initial (updates ++ [u]) = u.apply (expectedCount initial updates) := by
  rw [expectedCount, List.foldl_append]
  rfl

theorem salesIn_append (updates : List CountUpdate) (u : CountUpdate) :
    salesIn (updates ++ [u]) = salesIn updates + if u = .sale then 1 else 0 := by
  rw [salesIn, List.count_append, List.count_singleton]
  simp [salesIn]

theorem pushedIn_append (updates : List CountUpdate) (u : CountUpdate) :
    pushedIn (updates ++ [u]) = pushedIn updates + u.added := by
  simp [pushedIn]

/-! ### The stored count -/

section Stored

variable {sha256 : String → String} {offer : Nat} {db db' : Db}

theorem storedCount_of_offers (h : db'.offers = db.offers) :
    storedCount db' offer = storedCount db offer := by
  rw [storedCount, h]
  rfl

theorem storedCount_saveRemoteCount {row : PoolOffer} (h : db.offers.get? offer = some row)
    (count : Nat) : storedCount (saveRemoteCount db offer count) offer = count := by
  rw [storedCount, saveRemoteCount, Table.get?_updateWhere, h]
  simp

theorem storedCount_saveRemoteCount_ne {k : Nat} (h : k ≠ offer) (count : Nat) :
    storedCount (saveRemoteCount db k count) offer = storedCount db offer := by
  rw [storedCount, storedCount, saveRemoteCount, Table.get?_updateWhere]
  rcases db.offers.get? offer with - | row
  · rfl
  · simp [h.symm]

/-- The count of a lane that is not one of PlayerAuctions goes down by one, but
never below zero. -/
theorem countAfterSale_of_append {row : PoolOffer} (h : db.offers.get? offer = some row)
    (hmarket : marketplaceOf db row ≠ some .playerauctions) :
    countAfterSale db offer row = storedCount db offer - 1 := by
  have hnot : ((offerAccount db row).any fun account => account.provider == .playerauctions)
      = false := by
    rw [marketplaceOf] at hmarket
    rcases hacc : offerAccount db row with - | account
    · rfl
    · rw [hacc] at hmarket
      simpa using hmarket
  rw [countAfterSale, hnot, storedCount, h]
  rcases hcount : row.currentRemoteCount with - | count
  · simp [hcount]
  · simp [hcount]

/-- That of a PlayerAuctions lane is the number of its ACTIVE clones. -/
theorem countAfterSale_of_pa {row : PoolOffer}
    (hmarket : marketplaceOf db row = some .playerauctions) :
    countAfterSale db offer row = activeClones db offer := by
  obtain ⟨account, hacc, hprovider⟩ := Option.map_eq_some_iff.mp hmarket
  rw [countAfterSale, hacc]
  simp [hprovider, activeClones]

/-- The transaction of a sale under a new key, its clone accepted. -/
theorem recordSaleEvent_isOk {n : SaleNotification} {t : SaleTarget}
    (hkey : saleEvent? sha256 db t = none) (haccepts : cloneAccepts db n t = .ok true) :
    (recordSaleEvent sha256 db n t).isOk = true ↔ ∃ row, db.offers.get? t.poolOffer = some row ∧
      (consumeIdentified (processedSale sha256 db n t row) n.orderId (soldItem db n t)).isOk
        = true := by
  have hoffers : (sellClone db t).offers.get? t.poolOffer = db.offers.get? t.poolOffer := by
    rw [sellClone_offers]
  rw [recordSaleEvent, hkey]
  simp only [haccepts]
  rcases hrow : db.offers.get? t.poolOffer with - | row
  · rw [hrow] at hoffers
    simp only [hoffers]
    constructor
    · intro h
      cases h
    · rintro ⟨row, hrow, -⟩
      cases hrow
  · rw [hrow] at hoffers
    simp only [hoffers]
    show Except.isOk ((consumeIdentified (processedSale sha256 db n t row) n.orderId
      (soldItem db n t)) >>= _) = true ↔ _
    rcases hdone : consumeIdentified (processedSale sha256 db n t row) n.orderId
      (soldItem db n t) with err | db₁
    · constructor
      · intro h
        cases h
      · rintro ⟨row', hrow', h⟩
        cases hrow'
        rw [hdone] at h
        cases h
    · exact iff_of_true rfl ⟨row, rfl, by rw [hdone]; rfl⟩

variable (sha256 offer db) in
/-- **What a visit does to the count.** -/
theorem storedCount_recordVisit (n : SaleNotification) (t : SaleTarget) :
    (recordsSale sha256 offer db n t = false ∧
        storedCount (recordVisit sha256 n db t) offer = storedCount db offer) ∨
      (recordsSale sha256 offer db n t = true ∧ ∃ row, db.offers.get? offer = some row ∧
        storedCount (recordVisit sha256 n db t) offer
          = countAfterSale (sellClone db t) offer row) := by
  have unrecorded : ∀ {saleEvents}, recordVisit sha256 n db t = { db with saleEvents } →
      storedCount (recordVisit sha256 n db t) offer = storedCount db offer := by
    intro saleEvents h
    rw [h]
    exact storedCount_of_offers rfl
  rcases hkey : saleEvent? sha256 db t with - | ⟨i, e⟩
  · rcases haccepts : cloneAccepts db n t with err | accepted
    · have hnot : recordsSale sha256 offer db n t = false := by simp [recordsSale, haccepts]
      exact Or.inl ⟨hnot, @unrecorded db.saleEvents
        (recordVisit_of_gone hkey haccepts)⟩
    cases accepted with
    | false =>
      have hnot : recordsSale sha256 offer db n t = false := by simp [recordsSale, haccepts]
      exact Or.inl ⟨hnot, unrecorded (recordVisit_of_refused hkey haccepts)⟩
    | true =>
      have hrecords : recordsSale sha256 offer db n t
          = (t.poolOffer == offer && (recordSaleEvent sha256 db n t).isOk) := by
        simp [recordsSale, hkey, haccepts]
      have hok := recordSaleEvent_isOk hkey haccepts
      have hvisit := recordVisit_of_accepted hkey haccepts
      -- rolled back, or committed
      rcases hdone : (recordSaleEvent sha256 db n t).isOk with - | -
      · refine Or.inl ⟨by rw [hrecords, hdone, Bool.and_false], ?_⟩
        have hrolled : recordVisit sha256 n db t = db := by
          rw [recordVisit]
          rcases hout : recordSaleEvent sha256 db n t with err | out
          · rfl
          · rw [hout] at hdone
            cases hdone
        rw [hrolled]
      · obtain ⟨row, hrow, hconsumed⟩ := hok.mp hdone
        rw [hrow] at hvisit
        dsimp only at hvisit
        rcases hout : consumeIdentified (processedSale sha256 db n t row) n.orderId
          (soldItem db n t) with err | db₁
        · rw [hout] at hconsumed
          cases hconsumed
        rw [hout] at hvisit
        obtain ⟨items, hdb₁⟩ := consumeIdentified_ok hout
        have hcount : storedCount (recordVisit sha256 n db t) offer
            = storedCount (saveRemoteCount (sellClone db t) t.poolOffer
                (countAfterSale (sellClone db t) t.poolOffer row)) offer := by
          rw [hvisit, hdb₁]
          exact storedCount_of_offers rfl
        rw [hcount, hrecords, hdone, Bool.and_true]
        by_cases hoffer : t.poolOffer = offer
        · subst hoffer
          have hsold : (sellClone db t).offers.get? t.poolOffer = some row := by
            rw [sellClone_offers]
            exact hrow
          exact Or.inr ⟨beq_self_eq_true _, row, hrow, storedCount_saveRemoteCount hsold _⟩
        · refine Or.inl ⟨beq_eq_false_iff_ne.mpr hoffer, ?_⟩
          rw [storedCount_saveRemoteCount_ne hoffer]
          exact storedCount_of_offers sellClone_offers
  · have hnot : recordsSale sha256 offer db n t = false := by simp [recordsSale, hkey]
    exact Or.inl ⟨hnot, unrecorded (recordVisit_of_retry hkey)⟩

/-- A recorded sale is one update, exactly when the clones agree. -/
theorem saleCount_iff {n : SaleNotification} {t : SaleTarget}
    (hrecords : recordsSale sha256 offer db n t = true) :
    storedCount (recordVisit sha256 n db t) offer = storedCount db offer - 1 ↔
      clonesAgree offer db t = true := by
  rcases storedCount_recordVisit sha256 offer db n t with
    ⟨hnot, -⟩ | ⟨-, row, hrow, hcount⟩
  · rw [hrecords] at hnot
    cases hnot
  have hsold : (sellClone db t).offers.get? offer = some row := by
    rw [sellClone_offers]
    exact hrow
  have hstored : storedCount (sellClone db t) offer = storedCount db offer :=
    storedCount_of_offers sellClone_offers
  have hmarket : marketplaceOf (sellClone db t) row = marketplaceOf db row := by
    unfold sellClone
    split <;> rfl
  rw [hcount, clonesAgree, hrow, Option.all_some]
  by_cases hpa : marketplaceOf db row = some .playerauctions
  · rw [countAfterSale_of_pa (hmarket.trans hpa), hpa]
    simp
  · rw [countAfterSale_of_append hsold (by rw [hmarket]; exact hpa), hstored]
    simp [hpa]

end Stored

/-! ### Steps -/

section Steps

variable {sha256 : String → String} {offer initial : Nat} {s s' : CountState}

theorem countKept_of_same (h : CountKept offer initial s) (hdb : s'.db.offers = s.db.offers)
    (hupdates : s'.updates = s.updates) : CountKept offer initial s' := by
  rw [CountKept, hupdates, storedCount_of_offers hdb]
  exact h

variable (offer s) in
theorem countRun_same (i : Nat) (r : CountRun) :
    (countRun offer s i r).db = s.db ∧ (countRun offer s i r).updates = s.updates := by
  unfold countRun
  split <;> exact ⟨rfl, rfl⟩

theorem claimCounted_same (i : Nat) (r : CountRun) :
    (claimCounted offer s i r).db.offers = s.db.offers ∧
      (claimCounted offer s i r).updates = s.updates := by
  unfold claimCounted
  split
  · split
    · exact ⟨rfl, rfl⟩
    · exact ⟨rfl, rfl⟩
    · rename_i hclaimed
      obtain ⟨items, attempts, token, rfl⟩ := claimPendingItems_eq hclaimed
      exact ⟨rfl, rfl⟩
  · exact ⟨rfl, rfl⟩

theorem pushCounted_same (i : Nat) (returned : Option Nat) (r : CountRun) :
    (pushCounted s i returned r).db = s.db ∧ (pushCounted s i returned r).updates = s.updates := by
  unfold pushCounted
  split <;> exact ⟨rfl, rfl⟩

variable (offer s) in
theorem saveCounted_updates (i : Nat) (r : CountRun) :
    (saveCounted offer s i r).updates = s.updates ∨
      ∃ count, (saveCounted offer s i r).updates = s.updates ++ [.pushed count] := by
  unfold saveCounted
  split
  · exact Or.inr ⟨_, rfl⟩
  · exact Or.inl rfl
  · exact Or.inl rfl

/-- **A run saves the count**: one update, exactly when the count it works from
is still the stored one. -/
theorem countKept_save_iff (h : CountKept offer initial s) (i : Nat) (r : CountRun) :
    CountKept offer initial (saveCounted offer s i r) ↔ countCurrent offer s.db r = true := by
  unfold saveCounted countCurrent
  split
  · rename_i current count row hphase hrow
    rw [hphase, hrow]
    have hcount : storedCount (saveRemoteCount s.db offer (current + count)) offer
        = current + count := storedCount_saveRemoteCount hrow _
    show storedCount (saveRemoteCount s.db offer (current + count)) offer
      = expectedCount initial (s.updates ++ [.pushed count]) ↔ _
    rw [hcount, expectedCount_append, ← h]
    show current + count = storedCount s.db offer + count ↔ _
    rw [Nat.add_right_cancel_iff]
    exact beq_iff_eq.symm
  · rename_i current count hphase hrow
    rw [hphase, hrow]
    exact iff_of_true (countKept_of_same h rfl rfl) rfl
  · rename_i hother _
    refine iff_of_true h ?_
    split
    · rename_i current count row hphase hrow
      exact absurd hrow (hother current count row hphase)
    · rfl

/-- **One step loses no update**, exactly when it meets its condition. -/
theorem countKept_step_iff (e : CountEvent) (h : CountKept offer initial s) :
    CountKept offer initial (countStep sha256 offer s e) ↔ UpdateFits sha256 offer s e := by
  have at_run : ∀ {f : CountRun → CountState} (i : Nat),
      (∀ r, (f r).db.offers = s.db.offers ∧ (f r).updates = s.updates) →
      (CountKept offer initial ((s.runs[i]?).elim s f) ↔ True) := by
    intro f i hf
    rcases s.runs[i]? with - | r
    · exact iff_of_true h trivial
    · exact iff_of_true (countKept_of_same h (hf r).1 (hf r).2) trivial
  cases e with
  | sale n t =>
    show storedCount (recordVisit sha256 n s.db t) offer = expectedCount initial
      (if recordsSale sha256 offer s.db n t then s.updates ++ [.sale] else s.updates) ↔ _
    rcases hrecords : recordsSale sha256 offer s.db n t with - | -
    · rcases storedCount_recordVisit sha256 offer s.db n t with
        ⟨-, hsame⟩ | ⟨hyes, -⟩
      · rw [hsame, if_neg Bool.false_ne_true]
        refine iff_of_true h ?_
        intro hyes
        rw [hrecords] at hyes
        cases hyes
      · rw [hrecords] at hyes
        cases hyes
    · rw [if_pos rfl, expectedCount_append, ← h]
      show storedCount (recordVisit sha256 n s.db t) offer = storedCount s.db offer - 1 ↔ _
      rw [saleCount_iff hrecords]
      exact ⟨fun hagree _ => hagree, fun hfits => hfits hrecords⟩
  | load =>
    refine iff_of_true ?_ trivial
    rw [countStep]
    split
    · exact countKept_of_same h rfl rfl
    · exact h
  | count i =>
    refine at_run i fun r => ?_
    obtain ⟨hdb, hupdates⟩ := countRun_same offer s i r
    exact ⟨by rw [hdb], hupdates⟩
  | claim i => exact at_run i (claimCounted_same i)
  | push i returned =>
    refine at_run i fun r => ?_
    obtain ⟨hdb, hupdates⟩ := pushCounted_same (s := s) i returned r
    exact ⟨by rw [hdb], hupdates⟩
  | save i =>
    show CountKept offer initial ((s.runs[i]?).elim s (saveCounted offer s i)) ↔
      ((s.runs[i]?).all (countCurrent offer s.db)) = true
    rcases s.runs[i]? with - | r
    · exact iff_of_true h rfl
    · exact countKept_save_iff h i r
  | others items activeOffers => exact iff_of_true (countKept_of_same h rfl rfl) trivial

variable (sha256 offer) in
/-- The updates a step commits: none, or one; a sale is a recorded one. -/
theorem countStep_updates (s : CountState) (e : CountEvent) :
    (countStep sha256 offer s e).updates = s.updates ∨
      ∃ u, (countStep sha256 offer s e).updates = s.updates ++ [u] ∧
        (u = .sale → ∃ n t, e = .sale n t ∧ recordsSale sha256 offer s.db n t = true) := by
  cases e with
  | sale n t =>
    rcases hrecords : recordsSale sha256 offer s.db n t with - | -
    · refine Or.inl ?_
      simp only [countStep, hrecords]
      rfl
    · refine Or.inr ⟨.sale, ?_, fun _ => ⟨n, t, rfl, hrecords⟩⟩
      simp only [countStep, hrecords]
      rfl
  | load =>
    rw [countStep]
    split
    · exact Or.inl rfl
    · exact Or.inl rfl
  | count i =>
    rw [countStep]
    rcases s.runs[i]? with - | r
    · exact Or.inl rfl
    · exact Or.inl (countRun_same offer s i r).2
  | claim i =>
    rw [countStep]
    rcases s.runs[i]? with - | r
    · exact Or.inl rfl
    · exact Or.inl (claimCounted_same i r).2
  | push i returned =>
    rw [countStep]
    rcases s.runs[i]? with - | r
    · exact Or.inl rfl
    · exact Or.inl (pushCounted_same i returned r).2
  | save i =>
    rw [countStep]
    rcases s.runs[i]? with - | r
    · exact Or.inl rfl
    · rcases saveCounted_updates offer s i r with hsame | ⟨count, hnew⟩
      · exact Or.inl hsame
      · exact Or.inr ⟨.pushed count, hnew, nofun⟩
  | others items activeOffers => exact Or.inl rfl

/-- The count with what was taken is what there was with what was added. -/
def CountBalanced (offer initial : Nat) (s : CountState) : Prop :=
  storedCount s.db offer + salesIn s.updates = initial + pushedIn s.updates

/-- One step keeps the balance when its sale, if it is one, finds stock. -/
theorem countBalanced_step (e : CountEvent) (h : CountKept offer initial s)
    (hbalanced : CountBalanced offer initial s) (hfits : UpdateFits sha256 offer s e)
    (hstock : SaleFindsStock sha256 offer s e) :
    CountBalanced offer initial (countStep sha256 offer s e) := by
  have hkept : storedCount (countStep sha256 offer s e).db offer = _ :=
    (countKept_step_iff e h).mpr hfits
  rw [CountBalanced, hkept]
  rw [CountBalanced, h] at hbalanced
  rcases countStep_updates sha256 offer s e with hsame | ⟨u, hnew, hsale⟩
  · rw [hsame]
    exact hbalanced
  · rw [hnew, expectedCount_append, salesIn_append, pushedIn_append]
    cases u with
    | sale =>
      obtain ⟨n, t, rfl, hrecords⟩ := hsale rfl
      have hpos : 0 < expectedCount initial s.updates := h ▸ hstock hrecords
      simp only [CountUpdate.apply, CountUpdate.added, if_true]
      omega
    | pushed count =>
      simp only [CountUpdate.apply, CountUpdate.added, reduceCtorEq, if_false]
      omega

end Steps

/-! ### Runs -/

/-- **Count updates.**  Sales and replenish runs of a lane interleave in any
order.  No update of the count is lost exactly when each of them is made to the
stored count; and when no sale finds an empty lane, the count is then the
initial one, minus the sales, plus the pushed credentials. -/
theorem count_updates (sha256 : String → String) (offer : Nat) (db : Db) (es : List CountEvent) :
    (Always (countStep sha256 offer) (CountKept offer (storedCount db offer)) { db } es ↔
        Along (countStep sha256 offer) (UpdateFits sha256 offer) { db } es) ∧
      (Along (countStep sha256 offer)
          (fun s e => UpdateFits sha256 offer s e ∧ SaleFindsStock sha256 offer s e) { db } es →
        CountBalanced offer (storedCount db offer)
          (run (countStep sha256 offer) { db } es)) := by
  have hkept : CountKept offer (storedCount db offer) { db } :=
    show storedCount db offer = expectedCount (storedCount db offer) [] from rfl
  have hbalanced : CountBalanced offer (storedCount db offer) { db } :=
    show storedCount db offer + 0 = storedCount db offer + 0 from rfl
  constructor
  · exact always_iff_along (I := fun _ => True) (fun _ _ _ => trivial)
      (fun s e _ h => countKept_step_iff e h) trivial hkept es
  · intro h
    have hall := always_of_along
      (I := fun s => CountKept offer (storedCount db offer) s ∧
        CountBalanced offer (storedCount db offer) s)
      (fun s e hs hc => ⟨(countKept_step_iff e hs.1).mpr hc.1,
        countBalanced_step e hs.1 hs.2 hc.1 hc.2⟩) ⟨hkept, hbalanced⟩ h
    exact hall.last.2

/-! ### A sale between the read and the save -/

/-- The visit of a sale of the append lane. -/
def appendSale (order : String) : CountEvent :=
  .sale { listing := 1, eventKey := order } { poolOffer := 1, eventKey := order ++ ":offer:1" }

/-- A PlayerAuctions lane for two clones: one is ACTIVE, one item is PENDING. -/
def pairLaneDb : Db where
  items := onePlaceDb.items
  pools := singleItemDb.pools
  offers := ⟨[(1,
    { fullLane with
      strategy := .clone
      maxConcurrent := some 2
      currentRemoteCount := some 1
      pool_offer_strategy_capacity_valid := Or.inr ⟨rfl, 2, rfl, by decide, by decide⟩ })],
    by decide⟩
  activeOffers := cloneLaneDb.activeOffers
  listings := cloneLaneDb.listings
  accounts := cloneLaneDb.accounts

/-- **Updates are lost.**  A credential of an append lane, and the clone of a
PlayerAuctions lane, is sold while a run that has read the count pushes the next
one: the run saves the count as if the sale had not been. -/
theorem count_updates_lost :
    ¬ CountKept 1 2 (run (countStep id 1) { db := fullLaneDb }
        [appendSale "gameboost:1:77", .load, .count 0, .claim 0, appendSale "gameboost:1:78",
          .push 0 (some 1), .save 0]) ∧
      ¬ CountKept 1 1 (run (countStep id 1) { db := pairLaneDb }
        [.load, .count 0, .claim 0,
          .sale { listing := 2, eventKey := "playerauctions:1:77" }
            { poolOffer := 1, eventKey := "playerauctions:1:77:active-offer:1"
              activeOffer := some (1, some 1) },
          .push 0 (some 1), .save 0]) := by
  constructor
  · decide
  · decide

end Sda
