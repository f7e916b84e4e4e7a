/-
Sda/Pool/RemoteCount.lean

The stored remote count of an append lane, and what replenishment makes of it.

`PoolOffer.current_remote_count` is written by three parties that share no
lock: a sweep (`_check_and_replenish`) overwrites it with the count it read
from the marketplace, or with NULL when the reading failed; the sale path
takes one off, and reads NULL as 0; a replenish run (`_replenish_append`)
writes the count it loaded plus what it pushed.  The need of a run is the
target minus the count it loaded.

`fillStep` interleaves these parties statement by statement, together with the
remote offer itself: buyers take credentials, pushes add them.  A push adds at
most one credential for each item its run claimed.  What else happens to the
items (the marks of a push, other lanes, staff) is the event `others`.  The
replacement of a vanished offer (404) starts another remote offer and is left
out, as are the columns of the last check.

* `append_fill` — when every run that claims something finds that the count it
  loaded covers the remote offer and the claims in flight, every push leaves
  the remote offer within its target;
* `append_overfills` — a reading that failed, a sale the sweep has seen
  already, and two runs that loaded the same count.
-/
import Sda.Pool.Sales

namespace Sda

/-! ### Replenish runs -/

/-- Where a replenish run stands. -/
inductive RunPhase
  | loaded
  | claimed (claims : List Claim)
  /-- The push has returned, the count is not saved. -/
  | pushed (count : Nat)
  | ended

/-- A run of `_replenish_append`, with what it loaded of its PoolOffer. -/
structure ReplenishRun where
  /-- `pool.current_remote_count or 0`. -/
  currentCount : Nat
  targetCount : Nat
  phase : RunPhase := .loaded

namespace ReplenishRun

/-- `need`. -/
def need (r : ReplenishRun) : Nat :=
  r.targetCount - r.currentCount

/-- The claimed items whose push has not been sent. -/
def inFlight (r : ReplenishRun) : Nat :=
  match r.phase with
  | .claimed claims => claims.length
  | _ => 0

/-- Is the claim the next thing the run does? -/
def isLoaded (r : ReplenishRun) : Bool :=
  match r.phase with
  | .loaded => true
  | _ => false

end ReplenishRun

/-! ### The system -/

structure FillState where
  db : Db
  /-- The credentials on the remote offer. -/
  remote : Nat
  /-- The counts sweeps have read and not yet saved; `none` for a failed reading. -/
  readings : List (Option Nat) := []
  runs : List ReplenishRun := []

inductive FillEvent
  /-- A buyer takes a credential. -/
  | buy
  | read
  | readFailed
  /-- A sweep saves its reading. -/
  | saveReading (i : Nat)
  /-- The transaction of one visit of a sale notification. -/
  | sale (n : SaleNotification) (t : SaleTarget)
  /-- `replenish_pool_offer` loads the row. -/
  | load
  | claim (i : Nat)
  /-- A push adds some of the claimed credentials and returns a count, unless an
  exception leaves it. -/
  | push (i added : Nat) (returned : Option Nat)
  /-- A run saves the count. -/
  | save (i : Nat)
  | others (items : ItemTable)

/-- `pool.save(update_fields=['current_remote_count', …])` of a sweep. -/
def saveReading (db : Db) (offer : Nat) (count : Option Nat) : Db :=
  { db with
    offers := db.offers.updateWhere (fun k _ => k == offer) fun o =>
      { o with currentRemoteCount := count } }

/-- The run as `_replenish_append` begins it: the row may be replenished, and
something is needed. -/
def beginRun (db : Db) (offer : Nat) : Option ReplenishRun :=
  match db.offers.get? offer with
  | none => none
  | some row =>
    let run : ReplenishRun :=
      { currentCount := row.currentRemoteCount.getD 0, targetCount := row.targetCount }
    -- a lane at its target is left alone
    if canReplenish db row && run.need != 0 then some run else none

/-- Replace a run. -/
def FillState.setRun (s : FillState) (i : Nat) (r : ReplenishRun) : FillState :=
  { s with runs := s.runs.set i r }

/-- `claim_pending_items(pool.pool_offer, need)`; without items the run is over. -/
def claimRun (offer : Nat) (s : FillState) (i : Nat) (r : ReplenishRun) : FillState :=
  match r.phase with
  | .loaded =>
    match claimPendingItems s.db offer r.need none with
    | .error _ => s.setRun i { r with phase := .ended }
    -- nothing claimed, nothing saved
    | .ok (_, []) => s.setRun i { r with phase := .ended }
    | .ok (db, claims) => { s.setRun i { r with phase := .claimed claims } with db }
  | _ => s

def pushRun (s : FillState) (i added : Nat) (returned : Option Nat) (r : ReplenishRun) :
    FillState :=
  match r.phase with
  | .claimed claims =>
    let phase :=
      match returned with
      | some count => .pushed count
      | none => .ended
    { s.setRun i { r with phase } with remote := s.remote + min added claims.length }
  | _ => s

/-- `pool.current_remote_count = (pool.current_remote_count or 0) + pushed`. -/
def saveRun (offer : Nat) (s : FillState) (i : Nat) (r : ReplenishRun) : FillState :=
  match r.phase with
  | .pushed count =>
    { s.setRun i { r with phase := .ended } with
      db := saveRemoteCount s.db offer (r.currentCount + count) }
  | _ => s

/-- A statement of the run at a position, when there is one. -/
def FillState.atRun (s : FillState) (i : Nat) (f : ReplenishRun → FillState) : FillState :=
  match s.runs[i]? with
  | some r => f r
  | none => s

section System

variable (sha256 : String → String) (offer : Nat)

def fillStep (s : FillState) : FillEvent → FillState
  | .buy => { s with remote := s.remote - 1 }
  | .read => { s with readings := s.readings ++ [some s.remote] }
  | .readFailed => { s with readings := s.readings ++ [none] }
  | .saveReading i =>
    match s.readings[i]? with
    | some count =>
      { s with db := saveReading s.db offer count, readings := s.readings.eraseIdx i }
    | none => s
  | .sale n t => { s with db := recordVisit sha256 n s.db t }
  | .load =>
    match beginRun s.db offer with
    | some r => { s with runs := s.runs ++ [r] }
    | none => s
  | .claim i => s.atRun i (claimRun offer s i)
  | .push i added returned => s.atRun i (pushRun s i added returned)
  | .save i => s.atRun i (saveRun offer s i)
  | .others items => { s with db := { s.db with items } }

end System

/-! ### The property and its condition -/

/-- A step that adds credentials leaves the remote offer within the target. -/
def WithinTarget (sha256 : String → String) (offer target : Nat) (s : FillState) (e : FillEvent) :
    Prop :=
  (fillStep sha256 offer s e).remote ≤ s.remote ∨ (fillStep sha256 offer s e).remote ≤ target

instance (sha256 : String → String) (offer target : Nat) (s : FillState) (e : FillEvent) :
    Decidable (WithinTarget sha256 offer target s e) :=
  inferInstanceAs (Decidable (_ ∨ _))

/-- The claims in flight. -/
def FillState.inFlight (s : FillState) : Nat :=
  (s.runs.map ReplenishRun.inFlight).sum

/-- What a run can claim. -/
def claimable (s : FillState) (offer : Nat) (r : ReplenishRun) : Nat :=
  min r.need (claimableCount s.db offer)

/-- The count a run loaded, with the part of its need for which there is no
stock, covers the remote offer and the claims in flight. -/
def countCovers (offer : Nat) (s : FillState) (r : ReplenishRun) : Bool :=
  claimable s offer r == 0 ||
    s.remote + s.inFlight ≤ r.currentCount + (r.need - claimable s offer r)

/-- The condition of a step, on the state before it. -/
def CountFits (offer : Nat) (s : FillState) : FillEvent → Prop
  | .claim i => ((s.runs[i]?).all fun r => !r.isLoaded || countCovers offer s r) = true
  | _ => True

instance (offer : Nat) (s : FillState) : ∀ e, Decidable (CountFits offer s e)
  | .claim i =>
    inferInstanceAs
      (Decidable (((s.runs[i]?).all fun r => !r.isLoaded || countCovers offer s r) = true))
  | .buy | .read | .readFailed | .saveReading _ | .sale _ _ | .load | .push _ _ _ | .save _
  | .others _ => inferInstanceAs (Decidable True)

/-! ### The target of the lane -/

section Steps

variable {sha256 : String → String} {offer target : Nat} {db db' db₁ : Db}

/-- The target of the PoolOffer, when there is one. -/
def HasTarget (db : Db) (offer target : Nat) : Prop :=
  ∀ row, db.offers.get? offer = some row → row.targetCount = target

theorem hasTarget_of_offers (h : HasTarget db offer target) (hoffers : db'.offers = db.offers) :
    HasTarget db' offer target := by
  rw [HasTarget, hoffers]
  exact h

/-- A write to the counts leaves the targets. -/
theorem hasTarget_saveReading (h : HasTarget db offer target) (k : Nat) (count : Option Nat) :
    HasTarget (saveReading db k count) offer target := by
  intro row hrow
  rw [saveReading, Table.get?_updateWhere] at hrow
  obtain ⟨row₀, hrow₀, rfl⟩ := Option.map_eq_some_iff.mp hrow
  rw [← h row₀ hrow₀]
  split
  · rfl
  · rfl

theorem hasTarget_recordVisit (h : HasTarget db offer target) (n : SaleNotification)
    (t : SaleTarget) : HasTarget (recordVisit sha256 n db t) offer target := by
  rcases recordVisit_leaves sha256 n db t with ⟨saleEvents, hsame⟩ | ⟨row, -, hconsumed⟩
  · rw [hsame]
    exact hasTarget_of_offers h rfl
  · have hsold : HasTarget (sellClone db t) offer target :=
      hasTarget_of_offers h sellClone_offers
    have hprocessed : HasTarget (processedSale sha256 db n t row) offer target :=
      hasTarget_saveReading hsold t.poolOffer _
    -- consuming the item leaves the PoolOffers
    refine hasTarget_of_offers hprocessed ?_
    revert hconsumed
    generalize recordVisit sha256 n db t = left
    intro hconsumed
    obtain ⟨items, rfl⟩ := consumeIdentified_ok hconsumed
    rfl

theorem beginRun_target (h : HasTarget db offer target) {r : ReplenishRun}
    (hr : beginRun db offer = some r) : r.targetCount = target ∧ r.inFlight = 0 := by
  unfold beginRun at hr
  split at hr
  · cases hr
  · rename_i row hrow
    dsimp only at hr
    split at hr
    · cases hr
      exact ⟨h row hrow, rfl⟩
    · cases hr

/-! ### Sums over the runs -/

/-- Replacing one run trades its part of a sum. -/
theorem sum_map_set {α : Type} (f : α → Nat) {l : List α} {i : Nat} {a : α} (b : α)
    (h : l[i]? = some a) : ((l.set i b).map f).sum + f a = (l.map f).sum + f b := by
  induction l generalizing i with
  | nil => cases h
  | cons x l ih =>
    cases i with
    | zero =>
      cases h
      simp only [List.set_cons_zero, List.map_cons, List.sum_cons]
      omega
    | succ i =>
      have := ih h
      simp only [List.set_cons_succ, List.map_cons, List.sum_cons]
      omega

variable {s s' : FillState} {i : Nat} {r r' : ReplenishRun}

theorem inFlight_setRun (hr : s.runs[i]? = some r) (hruns : s'.runs = s.runs.set i r') :
    s'.inFlight + r.inFlight = s.inFlight + r'.inFlight := by
  rw [FillState.inFlight, hruns]
  exact sum_map_set ReplenishRun.inFlight r' hr

/-! ### The invariant -/

/-- The runs share the target of the lane; the claims in flight have room. -/
structure FillInv (offer target : Nat) (s : FillState) : Prop where
  hasTarget : HasTarget s.db offer target
  runs : ∀ r ∈ s.runs, r.targetCount = target
  room : s.inFlight = 0 ∨ s.remote + s.inFlight ≤ target

/-- A run moves on with the target it has; what is in flight still has room. -/
theorem FillInv.setRun (h : FillInv offer target s) (hr : s.runs[i]? = some r)
    (hruns : s'.runs = s.runs.set i r') (hsame : r'.targetCount = r.targetCount)
    (hdb : HasTarget s'.db offer target)
    (hroom : s'.inFlight = 0 ∨ s'.remote + s'.inFlight ≤ target) : FillInv offer target s' where
  hasTarget := hdb
  runs := by
    intro x hx
    rw [hruns] at hx
    rcases List.mem_or_eq_of_mem_set hx with hx | rfl
    · exact h.runs x hx
    · rw [hsame]
      exact h.runs r (List.mem_of_getElem? hr)
  room := hroom

/-- A run that ends, or saves, takes no room. -/
theorem FillInv.setRun_idle (h : FillInv offer target s) (hr : s.runs[i]? = some r)
    (hruns : s'.runs = s.runs.set i r') (hsame : r'.targetCount = r.targetCount)
    (hidle : r'.inFlight = 0) (hdb : HasTarget s'.db offer target)
    (hremote : s'.remote = s.remote) : FillInv offer target s' := by
  refine h.setRun hr hruns hsame hdb ?_
  have hsum := inFlight_setRun hr hruns
  rw [hremote]
  -- the run gives back what it had in flight
  rcases h.room with hnone | hroom
  · exact Or.inl (by omega)
  · exact Or.inr (by omega)

/-- **A claim keeps the room** when the count its run loaded covers the remote
offer and the claims in flight. -/
theorem fillInv_claim (h : FillInv offer target s) (hr : s.runs[i]? = some r)
    (hfits : r.isLoaded = true → countCovers offer s r = true) :
    FillInv offer target (claimRun offer s i r) := by
  unfold claimRun
  split
  · rename_i hphase
    have hended : FillInv offer target (s.setRun i { r with phase := .ended }) :=
      h.setRun_idle hr rfl rfl rfl h.hasTarget rfl
    split
    · exact hended
    · exact hended
    · rename_i db claims _ hclaimed
      have hdb : HasTarget db offer target := by
        obtain ⟨items, attempts, token, rfl⟩ := claimPendingItems_eq hclaimed
        exact h.hasTarget
      have hruns : (s.setRun i { r with phase := .claimed claims }).runs
          = s.runs.set i { r with phase := .claimed claims } := rfl
      refine h.setRun hr hruns rfl hdb ?_
      -- the claim takes what is claimable at most, and that is at most what the run needs
      have hlength : claims.length ≤ claimable s offer r := claimPendingItems_length hclaimed
      have hneed : claimable s offer r ≤ r.need := Nat.min_le_left _ _
      have hsum : (s.setRun i { r with phase := .claimed claims }).inFlight + r.inFlight
          = s.inFlight + claims.length := inFlight_setRun hr hruns
      have hbefore : r.inFlight = 0 := by rw [ReplenishRun.inFlight, hphase]
      have htarget : r.targetCount = target := h.runs r (List.mem_of_getElem? hr)
      have hcovers := hfits (by rw [ReplenishRun.isLoaded, hphase])
      rw [countCovers, Bool.or_eq_true, beq_iff_eq, decide_eq_true_eq] at hcovers
      rw [ReplenishRun.need] at hneed hcovers
      show (s.setRun i { r with phase := .claimed claims }).inFlight = 0 ∨
        s.remote + (s.setRun i { r with phase := .claimed claims }).inFlight ≤ target
      rcases h.room with hnone | hroom
      · omega
      · omega
  · exact h

/-- **A push stays within the target**, and gives its room back. -/
theorem fillInv_push (h : FillInv offer target s) (hr : s.runs[i]? = some r) (added : Nat)
    (returned : Option Nat) :
    FillInv offer target (pushRun s i added returned r) ∧
      ((pushRun s i added returned r).remote ≤ s.remote ∨
        (pushRun s i added returned r).remote ≤ target) := by
  unfold pushRun
  split
  · rename_i claims hphase
    have hinflight : r.inFlight = claims.length := by rw [ReplenishRun.inFlight, hphase]
    have hadded : min added claims.length ≤ claims.length := Nat.min_le_right _ _
    generalize hphase' : (match returned with
      | some count => RunPhase.pushed count
      | none => .ended) = phase
    have hidle : ReplenishRun.inFlight { r with phase } = 0 := by
      rw [← hphase']
      cases returned with
      | some count => rfl
      | none => rfl
    have hsum : (s.setRun i { r with phase }).inFlight + r.inFlight
        = s.inFlight + ReplenishRun.inFlight { r with phase } := inFlight_setRun hr rfl
    refine ⟨h.setRun hr rfl rfl h.hasTarget ?_, ?_⟩
    · show (s.setRun i { r with phase }).inFlight = 0 ∨
        s.remote + min added claims.length + (s.setRun i { r with phase }).inFlight ≤ target
      rcases h.room with hnone | hroom
      · omega
      · omega
    · show s.remote + min added claims.length ≤ s.remote ∨
        s.remote + min added claims.length ≤ target
      rcases h.room with hnone | hroom
      · omega
      · omega
  · exact ⟨h, Or.inl (Nat.le_refl _)⟩

theorem fillInv_save (h : FillInv offer target s) (hr : s.runs[i]? = some r) :
    FillInv offer target (saveRun offer s i r) := by
  unfold saveRun
  split
  · exact h.setRun_idle hr rfl rfl rfl (hasTarget_saveReading h.hasTarget offer _) rfl
  · exact h

/-- A statement of a run keeps what it keeps of the run there is. -/
theorem FillState.atRun_of {P : FillState → Prop} {f : ReplenishRun → FillState} (hs : P s)
    (hf : ∀ r, s.runs[i]? = some r → P (f r)) : P (s.atRun i f) := by
  rw [FillState.atRun]
  rcases hr : s.runs[i]? with - | r
  · exact hs
  · exact hf r hr

/-- A step keeps the invariant. -/
theorem fillInv_step (s : FillState) (e : FillEvent) (h : FillInv offer target s)
    (hfits : CountFits offer s e) : FillInv offer target (fillStep sha256 offer s e) := by
  cases e with
  | buy =>
    refine ⟨h.hasTarget, h.runs, ?_⟩
    show s.inFlight = 0 ∨ s.remote - 1 + s.inFlight ≤ target
    have hroom := h.room
    omega
  | read => exact ⟨h.hasTarget, h.runs, h.room⟩
  | readFailed => exact ⟨h.hasTarget, h.runs, h.room⟩
  | saveReading i =>
    rw [fillStep]
    split
    · exact ⟨hasTarget_saveReading h.hasTarget offer _, h.runs, h.room⟩
    · exact h
  | sale n t => exact ⟨hasTarget_recordVisit h.hasTarget n t, h.runs, h.room⟩
  | load =>
    rw [fillStep]
    split
    · rename_i r hbegin
      obtain ⟨htarget, hidle⟩ := beginRun_target h.hasTarget hbegin
      refine ⟨h.hasTarget, ?_, ?_⟩
      · intro x hx
        rcases List.mem_append.mp hx with hx | hx
        · exact h.runs x hx
        · rw [List.mem_singleton.mp hx]
          exact htarget
      · have hsame : FillState.inFlight { s with runs := s.runs ++ [r] } = s.inFlight := by
          simp [FillState.inFlight, hidle]
        rw [hsame]
        exact h.room
    · exact h
  | claim i =>
    refine FillState.atRun_of (P := FillInv offer target) h fun r hr => fillInv_claim h hr ?_
    intro hloaded
    have hall : ((s.runs[i]?).all fun r => !r.isLoaded || countCovers offer s r) = true := hfits
    rw [hr] at hall
    simpa [hloaded] using hall
  | push i added returned =>
    exact FillState.atRun_of (P := FillInv offer target) h fun r hr =>
      (fillInv_push h hr added returned).1
  | save i => exact FillState.atRun_of (P := FillInv offer target) h fun r hr => fillInv_save h hr
  | others items => exact ⟨h.hasTarget, h.runs, h.room⟩

/-- Only a push adds credentials. -/
theorem withinTarget_step (s : FillState) (e : FillEvent) (h : FillInv offer target s) :
    WithinTarget sha256 offer target s e := by
  have of_same : ∀ {s' : FillState}, s'.remote = s.remote →
      s'.remote ≤ s.remote ∨ s'.remote ≤ target := fun hsame => Or.inl hsame.le
  rw [WithinTarget]
  cases e with
  | push i added returned =>
    exact FillState.atRun_of (P := fun s' => s'.remote ≤ s.remote ∨ s'.remote ≤ target)
      (of_same rfl) fun r hr => (fillInv_push h hr added returned).2
  | buy => exact Or.inl (Nat.sub_le _ _)
  | saveReading i =>
    rw [fillStep]
    split
    · exact of_same rfl
    · exact of_same rfl
  | load =>
    rw [fillStep]
    split
    · exact of_same rfl
    · exact of_same rfl
  | claim i =>
    refine FillState.atRun_of (P := fun s' => s'.remote ≤ s.remote ∨ s'.remote ≤ target)
      (of_same rfl) fun r hr => of_same ?_
    unfold claimRun
    split
    · split <;> rfl
    · rfl
  | save i =>
    refine FillState.atRun_of (P := fun s' => s'.remote ≤ s.remote ∨ s'.remote ≤ target)
      (of_same rfl) fun r hr => of_same ?_
    unfold saveRun
    split <;> rfl
  | read => exact of_same rfl
  | readFailed => exact of_same rfl
  | sale n t => exact of_same rfl
  | others items => exact of_same rfl

end Steps

/-! ### Runs -/

/-- **Append fill.**  Sweeps, sales and replenish runs of a lane interleave in
any order.  When the count that each claiming run loaded covers the remote
offer and the claims in flight, every push leaves the remote offer within the
target. -/
theorem append_fill (sha256 : String → String) (offer : Nat) (db : Db) (row : PoolOffer)
    (hrow : db.offers.get? offer = some row) (remote : Nat) (readings : List (Option Nat))
    (es : List FillEvent)
    (h : Along (fillStep sha256 offer) (CountFits offer) { db, remote, readings } es) :
    Along (fillStep sha256 offer) (WithinTarget sha256 offer row.targetCount)
      { db, remote, readings } es := by
  have hinit : FillInv offer row.targetCount { db, remote, readings } := by
    refine ⟨?_, nofun, Or.inl rfl⟩
    intro row' hrow'
    cases hrow.symm.trans hrow'
    rfl
  exact along_of_along (fun s e hinv hfits => fillInv_step s e hinv hfits)
    (fun s e hinv _ => withinTarget_step s e hinv) hinit h

/-! ### A lane with target two -/

/-- An append lane for two credentials. -/
def fullLane : PoolOffer :=
  { pool := 1, listing := 1, strategy := .append, targetCount := 2, threshold := 1
    currentRemoteCount := some 2
    pool_offer_threshold_lte_target := by decide
    pool_offer_positive_threshold_target := by decide
    pool_offer_strategy_capacity_valid := Or.inl ⟨rfl, rfl⟩ }

/-- The lane, both credentials on the remote offer, and two PENDING items. -/
def fullLaneDb : Db where
  items := pendingPair
  pools := singleItemDb.pools
  offers := ⟨[(1, fullLane)], by decide⟩
  listings := appendLaneDb.listings
  accounts := appendLaneDb.accounts

/-- The visit of a sale to the lane. -/
def laneSale : FillEvent :=
  .sale { listing := 1, eventKey := "gameboost:1:77" }
    { poolOffer := 1, eventKey := "gameboost:1:77:offer:1" }

/-- One credential is sold, the sale is notified, and the lane is filled up. -/
theorem append_fill_single :
    Along (fillStep id 1) (WithinTarget id 1 2) { db := fullLaneDb, remote := 2 }
      [.buy, laneSale, .load, .claim 0, .push 0 1 (some 1), .save 0] :=
  append_fill id 1 fullLaneDb _ rfl 2 [] _ (by decide)

/-- **Replenishment overfills the offer.**  A reading fails, NULL is stored, and
the next sale reads it as 0; a sale the sweep has counted already is counted
again; and two runs load the count after one sale, and both fill the place. -/
theorem append_overfills :
    ¬ Along (fillStep id 1) (WithinTarget id 1 2) { db := fullLaneDb, remote := 2 }
        [.readFailed, .saveReading 0, .buy, laneSale, .load, .claim 0, .push 0 2 (some 2)] ∧
      ¬ Along (fillStep id 1) (WithinTarget id 1 2) { db := fullLaneDb, remote := 2 }
        [.buy, .read, .saveReading 0, laneSale, .load, .claim 0, .push 0 2 (some 2)] ∧
      ¬ Along (fillStep id 1) (WithinTarget id 1 2) { db := fullLaneDb, remote := 2 }
        [.buy, laneSale, .load, .load, .claim 0, .claim 1, .push 0 1 (some 1),
          .push 1 1 (some 1)] := by
  refine ⟨?_, ?_, ?_⟩
  · decide
  · decide
  · decide

end Sda
