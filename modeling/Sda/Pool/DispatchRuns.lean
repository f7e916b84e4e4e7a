/-
Sda/Pool/DispatchRuns.lean

Whole runs of dispatches: reservations, remote creates, finalizations,
releases and the stale sweep, interleaved.

The writers are interleaved at the granularity of the source.  A release of a
job is three steps (read the ACTIVE reservation, update the items, save the
reservation), since nothing wraps it in a transaction; the sweep reads its
keys first and then runs one transaction a key; a dispatch and a finalization
are one transaction each.  Two ghosts record the remote side: `created` holds
the (reservation, product) pairs with a created offer, `unresolved` those of
them that no finalization or release as unknown has settled yet.

Main results:

* `reserved_items_active` — while every release covers the items still
  RESERVED under its reservation, a RESERVED item belongs to an ACTIVE
  reservation, and a late sweep leaves no item RESERVED;
* `created_items_not_returned` — while the sweep (and a release as absent)
  only meets settled creates, no item with a created offer returns to PENDING.

Both conditions are about the state before a step; without them the code
strands an item (`reserved_items_active_fails`) or returns one
(`created_items_not_returned_fails`).
-/
import Sda.Lib.Run
import Sda.Pool.Dispatcher
import Sda.Pool.Fencing

namespace Sda

open Prog

/-! ### The system -/

/-- A call of `release_reserved_items` for a job, between its statements. -/
structure OpenRelease where
  reservation : Nat
  products : Option (List Nat)
  reason : String
  outcome : RemoteOutcome
  /-- Has the first statement run? -/
  updated : Bool := false
  deriving DecidableEq, Repr

structure DispatchState where
  db : Db
  releases : List OpenRelease := []
  /-- The keys the stale sweep has read and not yet processed. -/
  staleIds : List Nat := []
  /-- Ghost: the creates the marketplace has carried out. -/
  created : List (Nat × Nat) := []
  /-- Ghost: the creates no one has settled yet. -/
  unresolved : List (Nat × Nat) := []

inductive DispatchEvent
  | tick (seconds : Nat)
  | dispatch (req : DispatchRequest)
  /-- The marketplace creates the offer of a product for the reservation's job. -/
  | create (reservation product : Nat)
  /-- The hook of a successful post; it may raise, which is swallowed. -/
  | finalize (job listing : Nat) (products : List Nat) (raises : Bool)
  /-- `release_dispatch_items_for_job` reads the reservation. -/
  | openRelease (job : Nat) (products : Option (List Nat)) (reason : String)
      (outcome : RemoteOutcome)
  /-- The next statement of an open release. -/
  | stepRelease (i : Nat)
  | readStale (maxAge : Nat)
  | releaseStale (reservation : Nat)

/-- The next statement of the open release `o`, at position `i`. -/
def DispatchState.advance (s : DispatchState) (i : Nat) (o : OpenRelease) : DispatchState :=
  if o.updated then
    { s with
      db := saveReleased s.db o.reservation o.reason o.outcome
      releases := s.releases.eraseIdx i }
  else
    { s with
      db := committed s.db (releaseItems s.db o.reservation o.reason o.outcome o.products)
      releases := s.releases.set i { o with updated := true }
      unresolved :=
        if o.outcome = .unknown then
          s.unresolved.filter fun q => !(q.1 == o.reservation && selectsProduct o.products q.2)
        else s.unresolved }

/-- The hook of a successful post, with its exceptions swallowed. -/
def DispatchState.finalize (s : DispatchState) (cfg : DispatchConfig) (listing : Nat)
    (products : List Nat) : DispatchState :=
  match finalizeDispatchSuccess s.db cfg listing products with
  | .error _ => s
  | .ok db =>
    { s with
      db
      unresolved := s.unresolved.filter fun q =>
        !(q.1 == cfg.reservationId && products.contains q.2) }

def dispatchStep (s : DispatchState) : DispatchEvent → DispatchState
  | .tick n => { s with db := { s.db with now := s.db.now + n } }
  | .dispatch req => { s with db := committed s.db ((dispatchOfferFromPool s.db req).map Prod.snd) }
  | .create n p =>
    match s.db.reservations.get? n with
    | none => s
    | some _ => { s with created := (n, p) :: s.created, unresolved := (n, p) :: s.unresolved }
  | .finalize job listing products raises =>
    match (s.db.jobs.get? job).bind PostingJob.poolDispatch with
    | none => s
    | some cfg => if raises then s else s.finalize cfg listing products
  | .openRelease job products reason outcome =>
    match jobReservation s.db job with
    | none => s
    | some n => { s with releases := s.releases ++ [⟨n, products, reason, outcome, false⟩] }
  | .stepRelease i =>
    match s.releases[i]? with
    | none => s
    | some o => s.advance i o
  | .readStale maxAge => { s with staleIds := staleReservationIds s.db maxAge }
  | .releaseStale n =>
    if n ∈ s.staleIds then
      { s with
        db := committed s.db (releaseStaleReservation s.db n)
        staleIds := s.staleIds.erase n }
    else s

/-! ### RESERVED items and ACTIVE reservations -/

/-- A RESERVED item belongs to an ACTIVE reservation. -/
def ReservedActive (db : Db) : Prop :=
  ∀ k r, db.item? k = some r → r.status = .reserved →
    ∃ n res, r.reservation = some n ∧ db.reservations.get? n = some res ∧ res.status = .active

/-- Reservations were made in the past. -/
def ReservedPast (db : Db) : Prop :=
  ∀ n res, db.reservations.get? n = some res → res.createdAt ≤ db.now

/-- The next statements of an open release leave nothing behind: before the
update it selects every item RESERVED under its reservation, after it there
is none. -/
def ReleaseCovers (db : Db) (o : OpenRelease) : Prop :=
  ∀ k r, db.item? k = some r → isReservedUnder o.reservation r = true →
    o.updated = false ∧ selectsProduct o.products r.ownedProduct = true

structure DispatchInv (s : DispatchState) : Prop where
  active : ReservedActive s.db
  past : ReservedPast s.db
  releases : ∀ o ∈ s.releases,
    s.db.reservations.get? o.reservation ≠ none ∧ ReleaseCovers s.db o

section Reserved

variable {s : DispatchState} {db db' : Db} {n : Nat}

theorem ReservedActive.of_frees (h : ReservedActive db) (hf : Frees db db') :
    ReservedActive db' := by
  intro k r hr hstatus
  rcases hf.row k with hsame | ⟨r', hr', hne⟩
  · obtain ⟨n, res, hn, hres, hactive⟩ := h k r (hsame ▸ hr) hstatus
    rcases hf.reservation n with hsame' | ⟨-, -, -, -, -, hnone⟩
    · exact ⟨n, res, hn, hsame'.trans hres, hactive⟩
    · have hnot := hnone k r hr
      rw [isReservedUnder_iff.mpr ⟨hstatus, hn⟩] at hnot
      cases hnot
  · cases hr'.symm.trans hr
    exact absurd hstatus hne

theorem ReservedPast.of_frees (h : ReservedPast db) (hf : Frees db db') : ReservedPast db' := by
  intro m res' hres'
  rw [hf.now]
  rcases hf.reservation m with hsame | ⟨res, res'', hres, hres'', hcreated, -⟩
  · exact h m res' (hsame ▸ hres')
  · cases hres''.symm.trans hres'
    rw [hcreated]
    exact h m res hres

theorem ReleaseCovers.of_frees {o : OpenRelease} (h : ReleaseCovers db o) (hf : Frees db db') :
    ReleaseCovers db' o := by
  intro k r hr hres
  rcases hf.row k with hsame | ⟨r', hr', hne⟩
  · exact h k r (hsame ▸ hr) hres
  · cases hr'.symm.trans hr
    exact absurd (isReservedUnder_iff.mp hres).1 hne

/-- A freeing step keeps the invariant; the open releases may be a part of the
old ones. -/
theorem DispatchInv.of_frees {s' : DispatchState} (hinv : DispatchInv s)
    (hf : Frees s.db s'.db) (hsub : ∀ o ∈ s'.releases, o ∈ s.releases) : DispatchInv s' where
  active := hinv.active.of_frees hf
  past := hinv.past.of_frees hf
  releases o ho := by
    obtain ⟨hexists, hcovers⟩ := hinv.releases o (hsub o ho)
    exact ⟨hf.reservation_ne_none hexists, hcovers.of_frees hf⟩

theorem frees_committed {tx : Except PyError Db} (h : ∀ db', tx = .ok db' → Frees db db') :
    Frees db (committed db tx) := by
  rcases committed_cases db tx with hsame | hok
  · rw [hsame]
    exact Frees.refl db
  · exact h _ hok

/-- A new reservation is ACTIVE, and its items are under no open release. -/
theorem DispatchInv.of_reserves {db' : Db} (hinv : DispatchInv s) (h : Reserves s.db n db') :
    DispatchInv { s with db := db' } := by
  have hnew : s.db.reservations.get? n = none := h.fresh ▸ Table.get?_nextKey _
  obtain ⟨res, hres, hactive, hcreated⟩ := h.active
  constructor
  · intro k r hr hstatus
    rcases h.row k with hsame | ⟨r', -, -, hr'⟩
    · obtain ⟨m, res', hm, hres', hactive'⟩ := hinv.active k r (hsame ▸ hr) hstatus
      refine ⟨m, res', hm, ?_, hactive'⟩
      have hmn : m ≠ n := by
        rintro rfl
        rw [hnew] at hres'
        cases hres'
      exact (h.frame m hmn).trans hres'
    · cases hr'.symm.trans hr
      exact ⟨n, res, rfl, hres, hactive⟩
  · intro m res' hres'
    show res'.createdAt ≤ db'.now
    rw [h.now]
    by_cases hmn : m = n
    · subst hmn
      cases hres.symm.trans hres'
      rw [hcreated]
    · exact hinv.past m res' ((h.frame m hmn).symm.trans hres')
  · intro o ho
    obtain ⟨hexists, hcovers⟩ := hinv.releases o ho
    have hon : o.reservation ≠ n := fun e => hexists (e ▸ hnew)
    refine ⟨?_, fun k r hr hunder => ?_⟩
    · show db'.reservations.get? o.reservation ≠ none
      rw [h.frame _ hon]
      exact hexists
    · rcases h.row k with hsame | ⟨r', -, -, hr'⟩
      · exact hcovers k r (hsame ▸ hr) hunder
      · cases hr'.symm.trans hr
        exact absurd (Option.some.inj (isReservedUnder_iff.mp hunder).2).symm hon

/-! #### One step -/

/-- Does a release of these products reach every item RESERVED under `n`? -/
def coversReserved (db : Db) (n : Nat) (products : Option (List Nat)) : Bool :=
  !db.items.table.any fun _ r => isReservedUnder n r && !selectsProduct products r.ownedProduct

theorem coversReserved_iff {products : Option (List Nat)} :
    coversReserved db n products = true ↔
      ∀ k r, db.item? k = some r → isReservedUnder n r = true →
        selectsProduct products r.ownedProduct = true := by
  rw [coversReserved, Bool.not_eq_true', Table.any_eq_false_iff]
  constructor
  · intro h k r hr hres
    have hnot := h k r hr
    rw [hres, Bool.true_and, Bool.not_eq_false'] at hnot
    exact hnot
  · intro h k r hr
    rcases hres : isReservedUnder n r with - | -
    · rfl
    · rw [h k r hr hres]
      rfl

/-- Every release that finds its reservation ACTIVE covers the items still
RESERVED under it. -/
def CoveringRelease (s : DispatchState) : DispatchEvent → Prop
  | .openRelease job products _ _ =>
    ∀ n ∈ jobReservation s.db job, coversReserved s.db n products = true
  | _ => True

instance (s : DispatchState) (e : DispatchEvent) : Decidable (CoveringRelease s e) := by
  cases e <;> unfold CoveringRelease <;> infer_instance

theorem jobReservation_some {job : Nat} (h : jobReservation db job = some n) :
    db.reservations.get? n ≠ none := by
  obtain ⟨posting, -, h⟩ := Option.bind_eq_some_iff.mp h
  obtain ⟨cfg, -, h⟩ := Option.bind_eq_some_iff.mp h
  split at h
  · rename_i res hres
    cases h
    rw [(getActiveReservation_ok hres).1]
    exact nofun
  · cases h

theorem dispatchInv_advance {i : Nat} {o : OpenRelease} (hinv : DispatchInv s)
    (ho : s.releases[i]? = some o) : DispatchInv (s.advance i o) := by
  obtain ⟨hexists, hcovers⟩ := hinv.releases o (List.mem_of_getElem? ho)
  unfold DispatchState.advance
  by_cases hupdated : o.updated
  · -- the items were updated before, so none is RESERVED under the reservation
    have hnone : NoneReserved s.db o.reservation := by
      intro k r hr
      by_contra hres
      obtain ⟨hfresh, -⟩ := hcovers k r hr (by simpa using hres)
      rw [hupdated] at hfresh
      cases hfresh
    rw [if_pos hupdated]
    exact hinv.of_frees (frees_saveReleased hnone) fun o' ho' => List.mem_of_mem_eraseIdx ho'
  · rw [if_neg hupdated]
    obtain ⟨db', hrel⟩ := releaseItems_succeeds s.db o.reservation o.reason o.outcome o.products
    rw [hrel]
    have hf := frees_releaseItems hrel
    have hnone := noneReserved_releaseItems hrel fun k r hr hres => (hcovers k r hr hres).2
    refine ⟨hinv.active.of_frees hf, hinv.past.of_frees hf, fun o' ho' => ?_⟩
    rcases List.mem_or_eq_of_mem_set ho' with hold | rfl
    · obtain ⟨hexists', hcovers'⟩ := hinv.releases o' hold
      exact ⟨hf.reservation_ne_none hexists', hcovers'.of_frees hf⟩
    · refine ⟨hf.reservation_ne_none hexists, fun k r hr hres => ?_⟩
      rw [hnone k r hr] at hres
      cases hres

theorem dispatchInv_step (s : DispatchState) (e : DispatchEvent) (hinv : DispatchInv s)
    (hcover : CoveringRelease s e) : DispatchInv (dispatchStep s e) := by
  cases e with
  | tick n =>
    exact ⟨hinv.active, fun m res hres => Nat.le_add_right_of_le (hinv.past m res hres),
      hinv.releases⟩
  | dispatch req =>
    show DispatchInv { s with db := committed s.db _ }
    rcases committed_cases s.db ((dispatchOfferFromPool s.db req).map Prod.snd) with hsame | hok
    · rw [hsame]
      exact hinv
    · obtain ⟨job, hok⟩ := map_snd_ok hok
      obtain ⟨n, hres⟩ := dispatchOfferFromPool_ok hok
      exact hinv.of_reserves hres
  | create n p =>
    simp only [dispatchStep]
    split
    · exact hinv
    · exact ⟨hinv.active, hinv.past, hinv.releases⟩
  | finalize job listing products raises =>
    simp only [dispatchStep]
    split
    · exact hinv
    split
    · exact hinv
    unfold DispatchState.finalize
    split
    · exact hinv
    · rename_i hok
      exact hinv.of_frees (finalizeDispatchSuccess_ok hok).toFrees fun _ ho => ho
  | openRelease job products reason outcome =>
    simp only [dispatchStep]
    split
    · exact hinv
    · rename_i n hn
      refine ⟨hinv.active, hinv.past, fun o ho => ?_⟩
      rcases List.mem_append.mp ho with hold | hnew
      · exact hinv.releases o hold
      · cases List.mem_singleton.mp hnew
        refine ⟨jobReservation_some hn, fun k r hr hres => ⟨rfl, ?_⟩⟩
        exact coversReserved_iff.mp (hcover n hn) k r hr hres
  | stepRelease i =>
    simp only [dispatchStep]
    split
    · exact hinv
    · rename_i o ho
      exact dispatchInv_advance hinv ho
  | readStale maxAge => exact ⟨hinv.active, hinv.past, hinv.releases⟩
  | releaseStale n =>
    simp only [dispatchStep]
    split
    · exact hinv.of_frees (frees_committed fun _ h => frees_stale h) fun _ ho => ho
    · exact hinv

/-! #### The late sweep -/

/-- One round of the sweep never raises; it leaves no item RESERVED under its
reservation, if that is ACTIVE, and no other reservation changes. -/
theorem exec_sweepReservation (db : Db) (n : Nat) :
    ∃ db', exec (sweepReservation n) db = (.ok (), db') ∧
      (∀ m, m ≠ n → db'.reservations.get? m = db.reservations.get? m) ∧
      ∀ k r, db'.item? k = some r → r.status = .reserved → db.item? k = some r ∧
        (r.reservation = some n → ∀ res, db.reservations.get? n = some res →
          res.status ≠ .active) := by
  rcases hget : getActiveReservation db n with exc | res
  · have hskip : releaseStaleReservation db n = .error exc := by
      unfold releaseStaleReservation
      rw [hget]
      rfl
    refine ⟨db, ?_, fun _ _ => rfl, fun k r hr _ => ⟨hr, fun _ res hres hactive => ?_⟩⟩
    · rw [sweepReservation, exec_catching, exec_atomically_error hskip]
      simp only [getActiveReservation_error hget, if_true, exec_pure]
    · rw [getActiveReservation_of hres hactive] at hget
      cases hget
  · obtain ⟨db₁, hrel⟩ := releaseItems_succeeds db n staleReservationReason .absent none
    have hdone : releaseStaleReservation db n
        = .ok (saveReleased db₁ n staleReservationReason .absent) :=
      except_bind_ok.mpr ⟨res, hget, except_bind_ok.mpr ⟨db₁, hrel, rfl⟩⟩
    have hnone := noneReserved_releaseItems hrel fun _ _ _ _ => rfl
    have hexec : exec (sweepReservation n) db =
        (.ok (), saveReleased db₁ n staleReservationReason .absent) := by
      rw [sweepReservation, exec_catching, exec_atomically_ok hdone]
    refine ⟨_, hexec, fun m hm => ?_, fun k r hr hstatus => ⟨?_, fun hn => ?_⟩⟩
    · obtain ⟨⟨items, rfl⟩, -⟩ := releaseItems_ok hrel
      show (db.reservations.updateWhere _ _).get? m = _
      rw [Table.get?_updateWhere]
      simp [hm]
    · rcases (frees_releaseItems hrel).row k with hsame | ⟨r', hr', hne⟩
      · exact hsame.symm.trans hr
      · cases hr'.symm.trans hr
        exact absurd hstatus hne
    · have hnot := hnone k r hr
      rw [isReservedUnder_iff.mpr ⟨hstatus, hn⟩] at hnot
      cases hnot

/-- The loop: items RESERVED under the ACTIVE reservations of the list, and
only those, end as not RESERVED. -/
theorem sweep_clears {ns : List Nat} {db : Db}
    (h : ∀ k r, db.item? k = some r → r.status = .reserved →
      ∃ n ∈ ns, r.reservation = some n ∧
        ∃ res, db.reservations.get? n = some res ∧ res.status = .active) :
    ∀ k r, (exec (each ns sweepReservation) db).2.item? k = some r → r.status ≠ .reserved := by
  induction ns generalizing db with
  | nil =>
    intro k r hr hstatus
    obtain ⟨n, hn, -⟩ := h k r hr hstatus
    cases hn
  | cons n ns ih =>
    obtain ⟨db', hexec, hframe, hrows⟩ := exec_sweepReservation db n
    have hstep : exec (each (n :: ns) sweepReservation) db = exec (each ns sweepReservation) db' :=
      exec_bind_ok hexec
    rw [hstep]
    refine ih fun k r hr hstatus => ?_
    obtain ⟨hr, hinactive⟩ := hrows k r hr hstatus
    obtain ⟨m, hm, hrm, res, hres, hactive⟩ := h k r hr hstatus
    have hmn : m ≠ n := by
      rintro rfl
      exact hinactive hrm res hres hactive
    refine ⟨m, (List.mem_cons.mp hm).resolve_left hmn, hrm, res, ?_, hactive⟩
    rw [hframe m hmn]
    exact hres

theorem mem_staleReservationIds {maxAge : Nat} : n ∈ staleReservationIds db maxAge ↔
    ∃ res, db.reservations.get? n = some res ∧ res.status = .active ∧
      res.createdAt + maxAge < db.now := by
  constructor
  · intro h
    obtain ⟨⟨n, res⟩, hm, rfl⟩ := List.mem_map.mp h
    obtain ⟨hres, hp⟩ := Table.mem_select.mp hm
    exact ⟨res, hres, by simpa using hp⟩
  · rintro ⟨res, hres, hactive, hlt⟩
    exact List.mem_map.mpr ⟨(n, res), Table.mem_select.mpr ⟨hres, by simp [hactive, hlt]⟩, rfl⟩

/-- A RESERVED item belongs to an ACTIVE reservation, and a sweep that runs
late enough frees every RESERVED item. -/
def NoneStranded (s : DispatchState) : Prop :=
  ReservedActive s.db ∧ ∀ maxAge n, maxAge < n → ∀ k r,
    (exec (releaseStaleReservations maxAge) { s.db with now := s.db.now + n }).2.item? k = some r →
      r.status ≠ .reserved

theorem DispatchInv.noneStranded (hinv : DispatchInv s) : NoneStranded s := by
  refine ⟨hinv.active, fun maxAge n hn => ?_⟩
  have hget : exec (releaseStaleReservations maxAge) { s.db with now := s.db.now + n }
      = exec (each (staleReservationIds { s.db with now := s.db.now + n } maxAge)
          sweepReservation) { s.db with now := s.db.now + n } := rfl
  rw [hget]
  refine sweep_clears fun k r hr hstatus => ?_
  obtain ⟨m, res, hm, hres, hactive⟩ := hinv.active k r hr hstatus
  have hpast := hinv.past m res hres
  refine ⟨m, mem_staleReservationIds.mpr ⟨res, hres, hactive, ?_⟩, hm, res, hres, hactive⟩
  show res.createdAt + maxAge < s.db.now + n
  omega

end Reserved

/-- **RESERVED items belong to ACTIVE reservations.**  In every run whose
releases cover what is still RESERVED, no state strands an item. -/
theorem reserved_items_active (db : Db) (hactive : ReservedActive db) (hpast : ReservedPast db)
    (es : List DispatchEvent) (hcover : Along dispatchStep CoveringRelease { db } es) :
    Always dispatchStep NoneStranded { db } es :=
  (always_of_along dispatchInv_step ⟨hactive, hpast, by simp⟩ hcover).mono
    fun _ hinv => hinv.noneStranded

/-- A pool of two PENDING items, a GameBoost store, and the listing a post
creates there. -/
def dispatchDb : Db where
  items := pendingPair
  pools := singleItemDb.pools
  accounts := gameboostStore
  listings := offerListing

theorem dispatchDb_pending {k : Nat} {r : ItemRow} (h : dispatchDb.item? k = some r) :
    r.status = .pending := by
  have hm := Table.get?_eq_some_iff.mp h
  simp only [dispatchDb, pendingPair, List.mem_cons, List.not_mem_nil, or_false, Prod.mk.injEq] at hm
  rcases hm with ⟨-, rfl⟩ | ⟨-, rfl⟩ <;> rfl

theorem dispatchDb_active : ReservedActive dispatchDb := by
  intro k r hr hstatus
  rw [dispatchDb_pending hr] at hstatus
  cases hstatus

theorem dispatchDb_past : ReservedPast dispatchDb := by
  rintro n res ⟨⟩

/-- Dispatch both items, then release all of them as absent. -/
theorem reserved_items_active_pair :
    Always dispatchStep NoneStranded { db := dispatchDb }
      [.dispatch ⟨1, 1, 2, 2, 1, none⟩, .openRelease 0 none "cancelled" .absent, .stepRelease 0,
        .stepRelease 0] :=
  reserved_items_active dispatchDb dispatchDb_active dispatchDb_past _ (by decide)

/-- **A partial release strands the rest.**  Two items are dispatched and the
first one fails: its release ends the reservation, and the second item stays
RESERVED under it. -/
theorem reserved_items_active_fails :
    ¬ ∀ es, Always dispatchStep NoneStranded { db := dispatchDb } es := by
  intro h
  obtain ⟨hactive, -⟩ := (h [.dispatch ⟨1, 1, 2, 2, 1, none⟩,
    .openRelease 0 (some [7]) "API error" .absent, .stepRelease 0, .stepRelease 0]).last
  have hrow : ∃ r, (run dispatchStep { db := dispatchDb } [.dispatch ⟨1, 1, 2, 2, 1, none⟩,
      .openRelease 0 (some [7]) "API error" .absent, .stepRelease 0, .stepRelease 0]).db.item? 2
      = some r ∧ r.status = .reserved ∧ r.reservation = some 0 := ⟨_, rfl, by decide, by decide⟩
  obtain ⟨r, hr, hstatus, hres⟩ := hrow
  obtain ⟨n, res, hn, hget, hres'⟩ := hactive 2 r hr hstatus
  cases hres.symm.trans hn
  have hreleased : res.status = .released :=
    congrArg (Option.map PoolDispatchReservation.status) hget |>.symm.trans (by decide) |>
      Option.some.inj
  rw [hreleased] at hres'
  cases hres'

/-! ### Created offers and the sweep -/

/-- No step takes a RESERVED item with a created offer back to PENDING. -/
def NotReturned (s : DispatchState) (e : DispatchEvent) : Prop :=
  ∀ k r n, s.db.item? k = some r → isReservedUnder n r = true →
    (n, r.ownedProduct) ∈ s.created →
      ∀ r', (dispatchStep s e).db.item? k = some r' → r'.status ≠ .pending

/-- Whoever returns items to PENDING meets no unresolved create: the sweep none
of its reservation, a release as absent none of its products. -/
def SettledCreates (s : DispatchState) : DispatchEvent → Prop
  | .releaseStale n => ∀ q ∈ s.unresolved, q.1 ≠ n
  | .stepRelease i =>
    ∀ o ∈ s.releases[i]?, o.updated = false → o.outcome = .absent →
      ∀ q ∈ s.unresolved, q.1 = o.reservation → selectsProduct o.products q.2 = false
  | _ => True

instance (s : DispatchState) (e : DispatchEvent) : Decidable (SettledCreates s e) := by
  cases e <;> unfold SettledCreates <;> infer_instance

/-- A created offer belongs to a reservation, and while its item is RESERVED
it is unresolved. -/
structure CreateInv (s : DispatchState) : Prop where
  known : ∀ q ∈ s.created, s.db.reservations.get? q.1 ≠ none
  unresolved : ∀ k r n, s.db.item? k = some r → isReservedUnder n r = true →
    (n, r.ownedProduct) ∈ s.created → (n, r.ownedProduct) ∈ s.unresolved

section Created

variable {s : DispatchState} {db db' : Db} {n : Nat}

/-- A freeing step that settles no create. -/
theorem CreateInv.of_frees {s' : DispatchState} (hinv : CreateInv s) (hf : Frees s.db s'.db)
    (hcreated : s'.created = s.created) (hunresolved : s'.unresolved = s.unresolved) :
    CreateInv s' where
  known q hq := hf.reservation_ne_none (hinv.known q (hcreated ▸ hq))
  unresolved k r n hr hres hq := by
    rw [hunresolved]
    rw [hcreated] at hq
    rcases hf.row k with hsame | ⟨r', hr', hne⟩
    · exact hinv.unresolved k r n (hsame ▸ hr) hres hq
    · cases hr'.symm.trans hr
      exact absurd (isReservedUnder_iff.mp hres).1 hne

/-- A freeing step that settles creates whose items it frees. -/
theorem CreateInv.of_settles {s' : DispatchState} {settled : Nat × Nat → Bool}
    (hinv : CreateInv s) (hf : Frees s.db s'.db) (hcreated : s'.created = s.created)
    (hunresolved : s'.unresolved = s.unresolved.filter fun q => !settled q)
    (hsettled : ∀ k r n, s'.db.item? k = some r → isReservedUnder n r = true →
      (n, r.ownedProduct) ∈ s.created → settled (n, r.ownedProduct) = false) :
    CreateInv s' where
  known q hq := hf.reservation_ne_none (hinv.known q (hcreated ▸ hq))
  unresolved k r n hr hres hq := by
    have hmid : CreateInv { s with db := s'.db } := hinv.of_frees hf rfl rfl
    have hmem := hmid.unresolved k r n hr hres (hcreated ▸ hq)
    rw [hunresolved]
    refine List.mem_filter.mpr ⟨hmem, ?_⟩
    rw [hsettled k r n hr hres (hcreated ▸ hq)]
    rfl

/-- Items of a new reservation have no created offer under it. -/
theorem CreateInv.of_reserves (hinv : CreateInv s) (h : Reserves s.db n db') :
    CreateInv { s with db := db' } := by
  have hnew : s.db.reservations.get? n = none := h.fresh ▸ Table.get?_nextKey _
  have hne : ∀ q ∈ s.created, q.1 ≠ n := fun q hq e => hinv.known q hq (e ▸ hnew)
  constructor
  · intro q hq
    show db'.reservations.get? q.1 ≠ none
    rw [h.frame q.1 (hne q hq)]
    exact hinv.known q hq
  · intro k r m hr hres hq
    rcases h.row k with hsame | ⟨r', -, -, hr'⟩
    · exact hinv.unresolved k r m (hsame ▸ hr) hres hq
    · cases hr'.symm.trans hr
      exact absurd (Option.some.inj (isReservedUnder_iff.mp hres).2).symm (hne _ hq)

theorem createInv_advance {i : Nat} {o : OpenRelease} (hinv : CreateInv s) :
    CreateInv (s.advance i o) := by
  unfold DispatchState.advance
  split
  · -- the second statement writes the reservation only
    constructor
    · intro q hq
      show (s.db.reservations.updateWhere _ _).get? q.1 ≠ none
      rw [Table.get?_updateWhere, ne_eq, Option.map_eq_none_iff]
      exact hinv.known q hq
    · exact hinv.unresolved
  · obtain ⟨db', hrel⟩ := releaseItems_succeeds s.db o.reservation o.reason o.outcome o.products
    rw [hrel]
    have hf := frees_releaseItems hrel
    by_cases hunknown : o.outcome = .unknown
    · rw [if_pos hunknown]
      refine hinv.of_settles hf rfl rfl fun k r n hr hres _ => ?_
      by_contra hsel
      simp only [Bool.not_eq_false, Bool.and_eq_true, beq_iff_eq] at hsel
      obtain ⟨rfl, hsel⟩ := hsel
      -- an item selected by the release is not RESERVED after it
      obtain ⟨-, hrows⟩ := releaseItems_ok hrel
      have hr : db'.item? k = some r := hr
      rw [hrows] at hr
      rcases hk : s.db.item? k with - | r₀ <;> rw [hk] at hr
      · cases hr
      · rw [Option.map_some] at hr
        split at hr <;> cases hr
        · simp [isReservedUnder] at hres
        · rename_i hnot
          exact hnot (by rw [hres, hsel]; rfl)
    · rw [if_neg hunknown]
      exact hinv.of_frees hf rfl rfl

theorem createInv_step (s : DispatchState) (e : DispatchEvent) (hinv : CreateInv s) :
    CreateInv (dispatchStep s e) := by
  cases e with
  | tick n => exact ⟨hinv.known, hinv.unresolved⟩
  | readStale maxAge => exact ⟨hinv.known, hinv.unresolved⟩
  | dispatch req =>
    show CreateInv { s with db := committed s.db _ }
    rcases committed_cases s.db ((dispatchOfferFromPool s.db req).map Prod.snd) with hsame | hok
    · rw [hsame]
      exact hinv
    · obtain ⟨job, hok⟩ := map_snd_ok hok
      obtain ⟨n, hres⟩ := dispatchOfferFromPool_ok hok
      exact hinv.of_reserves hres
  | create n p =>
    simp only [dispatchStep]
    split
    · exact hinv
    · rename_i res hn
      refine ⟨fun q hq => ?_, fun k r m hr hres hq => ?_⟩
      · rcases List.mem_cons.mp hq with rfl | hq
        · show s.db.reservations.get? n ≠ none
          rw [hn]
          exact nofun
        · exact hinv.known q hq
      · rcases List.mem_cons.mp hq with heq | hq
        · rw [heq]
          exact List.mem_cons_self
        · exact List.mem_cons_of_mem _ (hinv.unresolved k r m hr hres hq)
  | finalize job listing products raises =>
    simp only [dispatchStep]
    split
    · exact hinv
    split
    · exact hinv
    unfold DispatchState.finalize
    split
    · exact hinv
    · rename_i cfg _ _ _ db' hok
      have hfin := finalizeDispatchSuccess_ok hok
      refine hinv.of_settles hfin.toFrees rfl rfl fun k r n hr hres hq => ?_
      by_contra hsel
      simp only [Bool.not_eq_false, Bool.and_eq_true, beq_iff_eq, List.contains_iff_mem] at hsel
      obtain ⟨rfl, hsel⟩ := hsel
      exact hfin.done (hinv.known _ hq) k r hr hres hsel
  | openRelease job products reason outcome =>
    simp only [dispatchStep]
    split
    · exact hinv
    · exact ⟨hinv.known, hinv.unresolved⟩
  | stepRelease i =>
    simp only [dispatchStep]
    split
    · exact hinv
    · exact createInv_advance hinv
  | releaseStale n =>
    simp only [dispatchStep]
    split
    · exact hinv.of_frees (frees_committed fun _ h => frees_stale h) rfl rfl
    · exact hinv

/-- A step that leaves the row of a RESERVED item alone. -/
theorem not_pending_of_same {k : Nat} {r r' : ItemRow} (hr : db.item? k = some r)
    (hres : isReservedUnder n r = true) (hsame : db'.item? k = db.item? k)
    (hr' : db'.item? k = some r') : r'.status ≠ .pending := by
  cases (hsame.trans hr).symm.trans hr'
  rw [(isReservedUnder_iff.mp hres).1]
  exact nofun

/-- What a release does to the row of a RESERVED item. -/
theorem releaseItems_not_pending {m k : Nat} {reason : String} {outcome : RemoteOutcome}
    {products : Option (List Nat)} (hrel : releaseItems db m reason outcome products = .ok db')
    {r r' : ItemRow} (hr : db.item? k = some r) (hres : isReservedUnder n r = true)
    (hr' : db'.item? k = some r')
    (h : outcome = .absent → n = m → selectsProduct products r.ownedProduct = false) :
    r'.status ≠ .pending := by
  obtain ⟨-, hrows⟩ := releaseItems_ok hrel
  rw [hrows, hr, Option.map_some] at hr'
  obtain ⟨hstatus, hn⟩ := isReservedUnder_iff.mp hres
  split at hr' <;> cases hr'
  · rename_i hsel
    obtain ⟨hm, hsel⟩ := Bool.and_eq_true _ _ ▸ hsel
    cases outcome with
    | unknown => simp [releasedRow]
    | absent =>
      have hnm := Option.some.inj (hn.symm.trans (isReservedUnder_iff.mp hm).2)
      rw [h rfl hnm] at hsel
      cases hsel
  · rw [hstatus]
    intro h
    cases h

theorem notReturned_advance {i : Nat} {o : OpenRelease} (hinv : CreateInv s)
    (ho : s.releases[i]? = some o) (hsettled : SettledCreates s (.stepRelease i)) {k : Nat}
    {r r' : ItemRow} (hr : s.db.item? k = some r) (hres : isReservedUnder n r = true)
    (hq : (n, r.ownedProduct) ∈ s.created) (hr' : (s.advance i o).db.item? k = some r') :
    r'.status ≠ .pending := by
  unfold DispatchState.advance at hr'
  by_cases hupdated : o.updated
  · rw [if_pos hupdated] at hr'
    exact not_pending_of_same hr hres (rfl : s.db.item? k = _) hr'
  · rw [if_neg hupdated] at hr'
    obtain ⟨db', hrel⟩ := releaseItems_succeeds s.db o.reservation o.reason o.outcome o.products
    rw [hrel] at hr'
    refine releaseItems_not_pending hrel hr hres hr' fun habsent hn => ?_
    exact hsettled o ho (by simpa using hupdated) habsent _ (hinv.unresolved k r n hr hres hq) hn

theorem notReturned_of_settled (s : DispatchState) (e : DispatchEvent) (hinv : CreateInv s)
    (hsettled : SettledCreates s e) : NotReturned s e := by
  intro k r n hr hres hq r' hr'
  cases e with
  | tick m => exact not_pending_of_same hr hres (rfl : s.db.item? k = _) hr'
  | readStale maxAge => exact not_pending_of_same hr hres (rfl : s.db.item? k = _) hr'
  | dispatch req =>
    have hdb : (dispatchStep s (.dispatch req)).db
        = committed s.db ((dispatchOfferFromPool s.db req).map Prod.snd) := rfl
    rw [hdb] at hr'
    rcases committed_cases s.db ((dispatchOfferFromPool s.db req).map Prod.snd) with hsame | hok
    · rw [hsame] at hr'
      exact not_pending_of_same hr hres rfl hr'
    · obtain ⟨job, hok⟩ := map_snd_ok hok
      obtain ⟨m, hreserves⟩ := dispatchOfferFromPool_ok hok
      rcases hreserves.row k with hsame | ⟨r₀, hr₀, hpending, -⟩
      · exact not_pending_of_same hr hres hsame hr'
      · -- a row that is reserved now was PENDING, not RESERVED
        cases hr₀.symm.trans hr
        rw [(isReservedUnder_iff.mp hres).1] at hpending
        cases hpending
  | create m p =>
    simp only [dispatchStep] at hr'
    split at hr' <;> exact not_pending_of_same hr hres (rfl : s.db.item? k = _) hr'
  | finalize job listing products raises =>
    simp only [dispatchStep] at hr'
    split at hr'
    · exact not_pending_of_same hr hres rfl hr'
    split at hr'
    · exact not_pending_of_same hr hres rfl hr'
    unfold DispatchState.finalize at hr'
    split at hr'
    · exact not_pending_of_same hr hres rfl hr'
    · rename_i hok
      rcases (finalizeDispatchSuccess_ok hok).pushed k with hsame | ⟨r₁, hr₁, hpushed⟩
      · exact not_pending_of_same hr hres hsame hr'
      · cases hr₁.symm.trans hr'
        rw [hpushed]
        exact nofun
  | openRelease job products reason outcome =>
    simp only [dispatchStep] at hr'
    split at hr' <;> exact not_pending_of_same hr hres (rfl : s.db.item? k = _) hr'
  | stepRelease i =>
    simp only [dispatchStep] at hr'
    split at hr'
    · exact not_pending_of_same hr hres rfl hr'
    · rename_i o ho
      exact notReturned_advance hinv ho hsettled hr hres hq hr'
  | releaseStale m =>
    simp only [dispatchStep] at hr'
    split at hr'
    · rcases committed_cases s.db (releaseStaleReservation s.db m) with hsame | hok
      · rw [hsame] at hr'
        exact not_pending_of_same hr hres rfl hr'
      · obtain ⟨db₁, hrel, -, hdb⟩ := releaseStaleReservation_ok hok
        rw [hdb] at hr'
        refine releaseItems_not_pending hrel hr hres hr' fun _ hn => ?_
        exact absurd hn (hsettled _ (hinv.unresolved k r n hr hres hq))
    · exact not_pending_of_same hr hres rfl hr'

end Created

/-- **Created offers stay out of the pool.**  In every run whose sweeps and
absent releases only meet settled creates, no step returns an item with a
created offer to PENDING. -/
theorem created_items_not_returned (db : Db) (es : List DispatchEvent)
    (hsettled : Along dispatchStep SettledCreates { db } es) :
    Along dispatchStep NotReturned { db } es :=
  along_of_along (fun s e hinv _ => createInv_step s e hinv) notReturned_of_settled
    ⟨by simp, by simp⟩ hsettled

/-- One item is dispatched, created and finalized before a late sweep. -/
theorem created_items_not_returned_single :
    Along dispatchStep NotReturned { db := dispatchDb }
      [.dispatch ⟨1, 1, 1, 2, 1, none⟩, .create 0 7, .finalize 0 1 [7] false, .tick 2000,
        .readStale staleReservationAge, .releaseStale 0] :=
  created_items_not_returned dispatchDb _ (by decide)

/-- **The sweep returns a created item.**  The offer is created and its
finalization raises, which the hook swallows; half an hour later the sweep
finds the reservation ACTIVE and returns the item to PENDING. -/
theorem created_items_not_returned_fails :
    ¬ ∀ es, Along dispatchStep NotReturned { db := dispatchDb } es := by
  intro h
  have hsweep := (h [.dispatch ⟨1, 1, 1, 2, 1, none⟩, .create 0 7, .finalize 0 1 [7] true,
    .tick 2000, .readStale staleReservationAge, .releaseStale 0]).2.2.2.2.2.1
  exact hsweep 1 _ 0 rfl (by decide) (by decide) _ rfl (by decide)

end Sda
