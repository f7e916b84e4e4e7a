/-
Sda/Pool/PushRuns.lean

Whole runs of the replenishment of a pool: claims, pushes on the claims,
workers that die in the middle of a push, and the quarantine sweep.

A batch is what one call of `claim_pending_items` hands to a worker.  It is
`outstanding` until a push (or the death of the worker) ends it.  A worker
that dies may have sent its request already: `lost` exposes a part of the
batch and marks nothing.

Main result: `exposed_never_released`.  In every run whose answers are clean,
an exposed item is PUSHED, FAILED with an unknown remote state, or still
QUEUED in every state, and once the sweep has run late enough it is one of
the first two.  `exposed_never_released_fails` is a run of one GameBoost push
whose timed-out add returns the item to PENDING.

The invariant is `PushInv`.  The condition on the answers is consumed in
`pushInv_push` only, where it feeds the path results of the previous file.
-/
import Sda.Pool.Fencing
import Sda.Pool.PushSafety

namespace Sda

open Prog

/-! ### The system -/

structure PushState where
  world : World
  /-- The claims handed to workers that have not ended yet. -/
  outstanding : List (List Claim) := []

inductive PushEvent
  | tick (seconds : Nat)
  | claim (offer limit : Nat) (maxActiveOffers : Option Nat)
  | eldorado (batch : List Claim) (target : PushTarget) (remote : EldoradoRemote)
  | gameboost (batch : List Claim) (target : PushTarget) (remote : GameboostRemote)
  | playerauctions (batch : List Claim) (target : PaTarget) (remote : Nat → PaRemote)
  /-- The worker dies; the credentials of `sent` were in its request. -/
  | lost (batch : List Claim) (sent : List Nat)
  | quarantine (maxAge : Nat)

/-- A program of the worker of `batch`, when the batch is outstanding. -/
def PushState.worker {α : Type} (s : PushState) (batch : List Claim)
    (c : Prog PyError World α) : PushState :=
  if batch ∈ s.outstanding then ⟨(exec c s.world).2, s.outstanding.erase batch⟩ else s

/-- The items of a batch. -/
def batchItems (batch : List Claim) : List Nat :=
  batch.map Claim.item

def pushStep (s : PushState) : PushEvent → PushState
  | .tick n => { s with world := { s.world with db := { s.world.db with now := s.world.db.now + n } } }
  | .claim offer limit cap =>
    match claimPendingItems s.world.db offer limit cap with
    | .ok (db, cs) => ⟨{ s.world with db }, s.outstanding ++ [cs]⟩
    | .error _ => s
  | .eldorado batch target remote =>
    s.worker batch (guardedPush (pushEldorado target remote (batchItems batch)) (batchItems batch))
  | .gameboost batch target remote =>
    s.worker batch (guardedPush (pushGameboost target remote (batchItems batch)) (batchItems batch))
  | .playerauctions batch target remote => s.worker batch (replenishPaItems target remote batch)
  | .lost batch sent =>
    s.worker batch (change fun w =>
      { w with exposed := w.exposed ++ sent.filter (· ∈ batchItems batch) })
  | .quarantine maxAge => { s with world := (exec (onDb (quarantineStaleClaims maxAge)) s.world).2 }

/-- Every failing answer of the push means that nothing was written, and a
successful GameBoost add created every credential. -/
def CleanAnswers (_ : PushState) : PushEvent → Prop
  | .eldorado _ _ remote => remote.clean = true
  | .gameboost batch _ remote => remote.clean (batchItems batch) = true
  | .playerauctions batch target remote => ∀ c ∈ batch, (remote c.item).clean target = true
  | _ => True

/-! ### The invariant -/

/-- A QUEUED row owns its product and was claimed in the past. -/
def QueuedSound (db : Db) : Prop :=
  ∀ k r, db.item? k = some r → r.status = .queued →
    r.liveOwnedProduct = some r.ownedProduct ∧ ∃ t, r.claimedAt = some t ∧ t ≤ db.now

structure PushInv (s : PushState) : Prop where
  /-- Exposed items are kept. -/
  exposed : ∀ k ∈ s.world.exposed, Kept s.world.db k
  /-- Outstanding items are kept and in no request yet. -/
  held : ∀ b ∈ s.outstanding, ∀ k ∈ batchItems b, Kept s.world.db k ∧ k ∉ s.world.exposed
  /-- No item is outstanding twice. -/
  apart : (s.outstanding.map batchItems).flatten.Nodup
  sound : QueuedSound s.world.db

section Invariant

variable {s : PushState} {db db' : Db} {k : Nat}

theorem Kept.of_eq (h : db'.item? k = db.item? k) (hk : Kept db k) : Kept db' k := by
  rw [Kept, h]
  exact hk

/-- A PENDING item is not kept. -/
theorem Kept.not_pending {r : ItemRow} (hk : Kept db k) (hr : db.item? k = some r) :
    r.status ≠ .pending := by
  obtain ⟨r', hr', h⟩ := hk
  cases hr'.symm.trans hr
  rcases h with h | ⟨h, -⟩ | h <;> simp [h]

theorem QueuedSound.of_settles (h : QueuedSound db) (hs : Settles db db')
    (hnow : db'.now = db.now) : QueuedSound db' := by
  intro k r hr hq
  rcases hs k with hsame | ⟨r', hr', hne⟩
  · rw [hnow]
    exact h k r (hsame ▸ hr) hq
  · cases hr'.symm.trans hr
    exact absurd hq hne

/-- Claimed rows are sound. -/
theorem QueuedSound.of_claimed {offer : Nat} {ks : List Nat} {cs : List Claim}
    (h : QueuedSound db) (hc : Claimed db offer ks db' cs) : QueuedSound db' := by
  intro k r hr hq
  by_cases hk : k ∈ ks
  · obtain ⟨c, hcs, rfl⟩ := List.mem_map.mp (hc.items.symm ▸ hk)
    obtain ⟨r₀, -, hrow⟩ := hc.row c hcs
    cases hrow.symm.trans hr
    have hstatus : (claimedRow r₀ offer c.claimToken db.now).status ≠ .removed := by
      simp [claimedRow]
    have hlive := ItemRow.keepLiveOwner_live hstatus
    rw [← ItemRow.keepLiveOwner_ownedProduct] at hlive
    exact ⟨hlive, db.now, by simp [claimedRow], by rw [hc.now]⟩
  · rw [hc.now]
    exact h k r (hc.frame k hk ▸ hr) hq

theorem pushInv_init (h : ∀ k r, db.item? k = some r → r.status ≠ .queued) :
    PushInv { world := { db } } where
  exposed := by simp
  held := by simp
  apart := by simp
  sound k r hr hq := absurd hq (h k r hr)

/-- Taking an outstanding batch out of the list. -/
theorem PushInv.split {batch : List Claim} (hinv : PushInv s) (h : batch ∈ s.outstanding) :
    (batchItems batch).Nodup ∧
      ((s.outstanding.erase batch).map batchItems).flatten.Nodup ∧
      ∀ b ∈ s.outstanding.erase batch, ∀ k ∈ batchItems b, k ∉ batchItems batch := by
  have hperm := ((List.perm_cons_erase h).map batchItems).flatten
  have hnd := hperm.nodup_iff.mp hinv.apart
  rw [List.map_cons, List.flatten_cons, List.nodup_append] at hnd
  obtain ⟨hbatch, hrest, hdisj⟩ := hnd
  refine ⟨hbatch, hrest, fun b hb k hk hkb => ?_⟩
  exact hdisj k hkb k (List.mem_flatten.mpr ⟨_, List.mem_map_of_mem hb, hk⟩) rfl

theorem PushInv.ready {batch : List Claim} (hinv : PushInv s) (h : batch ∈ s.outstanding) :
    Ready s.world (batchItems batch) (batchItems batch) s.world where
  touches := Touches.refl _ _
  grows _ hk := Or.inl hk
  kept k _ hk := hk.elim (hinv.exposed k) fun ht => (hinv.held batch h k ht).1
  unsent k hk := (hinv.held batch h k hk).2

/-- What a push over an outstanding batch reaches keeps the invariant. -/
theorem PushInv.of_ready {batch : List Claim} {w : World} (hinv : PushInv s)
    (h : batch ∈ s.outstanding) (hw : Ready s.world (batchItems batch) [] w) :
    PushInv ⟨w, s.outstanding.erase batch⟩ := by
  obtain ⟨-, hnd, hdisj⟩ := hinv.split h
  constructor
  · intro k hk
    by_cases hb : k ∈ batchItems batch
    · exact hw.kept k hb (Or.inl hk)
    · have hold := (hw.grows k hk).resolve_right hb
      exact (hinv.exposed k hold).of_eq (hw.touches.frame k hb)
  · intro b hb k hk
    have hout := hdisj b hb k hk
    obtain ⟨hkept, hunsent⟩ := hinv.held b (List.mem_of_mem_erase hb) k hk
    refine ⟨hkept.of_eq (hw.touches.frame k hout), fun hexposed => ?_⟩
    exact hunsent ((hw.grows k hexposed).resolve_right hout)
  · exact hnd
  · exact hinv.sound.of_settles hw.touches.settles hw.touches.now

/-- The invariant through the program of a worker. -/
theorem pushInv_worker {α : Type} {batch : List Claim} {c : Prog PyError World α}
    (hinv : PushInv s)
    (hc : batch ∈ s.outstanding → Triple (Ready s.world (batchItems batch) (batchItems batch)) c
      (fun _ => Ready s.world (batchItems batch) []) fun _ => Ready s.world (batchItems batch) []) :
    PushInv (s.worker batch c) := by
  by_cases h : batch ∈ s.outstanding
  · rw [PushState.worker, if_pos h]
    refine hinv.of_ready h ?_
    have hexit := hc h s.world (hinv.ready h)
    rcases hx : exec c s.world with ⟨r | a, w⟩ <;> rw [hx] at hexit <;> exact hexit
  · rw [PushState.worker, if_neg h]
    exact hinv

/-! ### The sweep -/

theorem exec_quarantine (maxAge : Nat) (db : Db) :
    exec (quarantineStaleClaims maxAge) db
      = exec (each (staleClaimIds db maxAge)
          (fun k => atomically fun db => markItemFailed db k staleClaimFailure) >>= fun _ =>
          (pure (staleClaimIds db maxAge).length : Prog PyError Db Nat)) db := rfl

theorem holds_quarantine (maxAge : Nat) (db : Db) :
    Holds (staleClaimIds db maxAge) db (exec (quarantineStaleClaims maxAge) db).2 := by
  rw [exec_quarantine]
  refine Within.bind Holds.trans (Within.each (Holds.refl _) Holds.trans fun k hk => ?_)
    (fun _ => Within.pure (Holds.refl _) _) db
  exact Within.atomically (Holds.refl _) fun _ _ hok => holds_markItemFailed rfl hok hk

/-- A claim that owns its product can be failed. -/
theorem markItemFailed_stale {r : ItemRow} (hr : db.item? k = some r)
    (hlive : r.liveOwnedProduct = some r.ownedProduct) :
    ∃ db', markItemFailed db k staleClaimFailure = .ok db' := by
  have hchecks : (staleClaimFailure.row r).Checks := by
    constructor <;> simp [Failure.row, Failure.releases, staleClaimFailure]
  obtain ⟨items, hs⟩ : ∃ items, db.items.save k (staleClaimFailure.row r) = .ok items :=
    ItemTable.save_succeeds hr rfl rfl hlive (Or.inl rfl)
      (by simp [Failure.row, Failure.releases, staleClaimFailure]) hchecks
  have hsaved : db.saveItem k (staleClaimFailure.row r) = .ok { db with items } :=
    except_bind_ok.mpr ⟨items, hs, rfl⟩
  exact ⟨_, except_bind_ok.mpr ⟨r, by rw [hr]; rfl, except_bind_ok.mpr ⟨_, hsaved, rfl⟩⟩⟩

/-- The loop of the sweep ends every claim it was given. -/
theorem sweep_ends (db : Db) {ks : List Nat} {D : Nat → Prop} (hnd : ks.Nodup)
    (hks : ∀ k ∈ ks, ∃ r, db.item? k = some r ∧ r.liveOwnedProduct = some r.ownedProduct)
    (hdone : ∀ k, D k → Ended db k ∨ k ∈ ks) :
    ∀ k, D k → Ended (exec (each ks fun k =>
      atomically fun db => markItemFailed db k staleClaimFailure) db).2 k := by
  induction ks generalizing db with
  | nil => exact fun k hk => (hdone k hk).resolve_right (by simp)
  | cons j ks ih =>
    obtain ⟨hj, hrest⟩ := List.nodup_cons.mp hnd
    obtain ⟨r, hr, hlive⟩ := hks j List.mem_cons_self
    obtain ⟨db₁, hok⟩ := markItemFailed_stale hr hlive
    have hrw := (markItemFailed_ok hok).2
    have hstep : exec (each (j :: ks) fun k =>
          atomically fun db => markItemFailed db k staleClaimFailure) db
        = exec (each ks fun k =>
          atomically fun db => markItemFailed db k staleClaimFailure) db₁ :=
      exec_bind_ok (exec_atomically_ok hok)
    rw [hstep]
    refine ih db₁ hrest (fun k hk => ?_) fun k hk => ?_
    · have hne : k ≠ j := fun e => hj (e ▸ hk)
      rw [hrw.other hne]
      exact hks k (List.mem_cons_of_mem j hk)
    · by_cases hkj : k = j
      · rw [hkj]
        exact Or.inl ⟨_, hrw.self hr, by simp [Failure.row, Failure.releases, staleClaimFailure]⟩
      · refine (hdone k hk).imp (fun hended => ?_) fun hmem => ?_
        · rw [Ended, hrw.other hkj]
          exact hended
        · exact (List.mem_cons.mp hmem).resolve_left hkj

theorem mem_staleClaimIds {maxAge : Nat} :
    k ∈ staleClaimIds db maxAge ↔
      ∃ r, db.item? k = some r ∧ r.status = .queued ∧
        ∃ t, r.claimedAt = some t ∧ t + maxAge < db.now := by
  constructor
  · intro h
    obtain ⟨⟨k, r⟩, hm, rfl⟩ := List.mem_map.mp h
    obtain ⟨hr, hp⟩ := Table.mem_select.mp hm
    rcases ht : r.claimedAt with - | t <;> simp [ht] at hp
    exact ⟨r, hr, hp.1, t, ht, hp.2⟩
  · rintro ⟨r, hr, hq, t, ht, hlt⟩
    exact List.mem_map.mpr ⟨(k, r), Table.mem_select.mpr ⟨hr, by simp [hq, ht, hlt]⟩, rfl⟩

/-- **The sweep ends what is kept**, once the claims are old enough. -/
theorem quarantine_ends {maxAge n : Nat} (hsound : QueuedSound db) (hn : maxAge < n)
    (hk : Kept db k) :
    Ended (exec (quarantineStaleClaims maxAge) { db with now := db.now + n }).2 k := by
  rw [exec_quarantine, exec_bind]
  have hnd : (staleClaimIds { db with now := db.now + n } maxAge).Nodup := Table.select_keys_nodup
  have hends := sweep_ends { db with now := db.now + n } (D := Kept db) hnd ?_ ?_ k hk
  · rcases hx : exec (each (staleClaimIds { db with now := db.now + n } maxAge) fun k =>
      atomically fun db => markItemFailed db k staleClaimFailure)
      { db with now := db.now + n } with ⟨e | a, db₁⟩
    all_goals
      rw [hx] at hends
      exact hends
  · intro j hj
    obtain ⟨r, hr, hq, -⟩ := mem_staleClaimIds.mp hj
    exact ⟨r, hr, (hsound j r hr hq).1⟩
  · rintro j ⟨r, hr, hpushed | hfailed | hq⟩
    · exact Or.inl ⟨r, hr, Or.inl hpushed⟩
    · exact Or.inl ⟨r, hr, Or.inr hfailed⟩
    · obtain ⟨-, t, ht, hle⟩ := hsound j r hr hq
      exact Or.inr (mem_staleClaimIds.mpr ⟨r, hr, hq, t, ht, by show t + maxAge < db.now + n; omega⟩)

/-! ### The run -/

/-- A claim takes PENDING items only, so no exposed and no outstanding one. -/
theorem pushInv_claim {offer limit : Nat} {cap : Option Nat} {cs : List Claim} (hinv : PushInv s)
    (h : claimPendingItems s.world.db offer limit cap = .ok (db', cs)) :
    PushInv ⟨{ s.world with db := db' }, s.outstanding ++ [cs]⟩ := by
  obtain ⟨ks, hnd, -, hclaimed, hpending⟩ := claimPendingItems_ok h
  have hout : ∀ k, Kept s.world.db k → k ∉ ks := by
    intro k hk hks
    obtain ⟨r, hr, hstatus, -⟩ := hpending k hks
    exact hk.not_pending hr hstatus
  have hkeep : ∀ k, Kept s.world.db k → Kept db' k := fun k hk =>
    hk.of_eq (hclaimed.frame k (hout k hk))
  constructor
  · exact fun k hk => hkeep k (hinv.exposed k hk)
  · intro b hb k hk
    rcases List.mem_append.mp hb with hb | hb
    · obtain ⟨hkept, hunsent⟩ := hinv.held b hb k hk
      exact ⟨hkeep k hkept, hunsent⟩
    · -- a newly claimed item is QUEUED, and was PENDING
      cases List.mem_singleton.mp hb
      obtain ⟨c, hc, rfl⟩ := List.mem_map.mp hk
      obtain ⟨r, -, hrow⟩ := hclaimed.row c hc
      refine ⟨⟨_, hrow, Or.inr (Or.inr (by simp [claimedRow]))⟩, fun hexposed => ?_⟩
      exact hout c.item (hinv.exposed c.item hexposed)
        (hclaimed.items ▸ List.mem_map_of_mem hc)
  · rw [List.map_append, List.flatten_append, List.nodup_append]
    refine ⟨hinv.apart, ?_, ?_⟩
    · simpa [batchItems, hclaimed.items] using hnd
    · intro j hj k hk hjk
      subst hjk
      obtain ⟨_, hb, hj⟩ := List.mem_flatten.mp hj
      obtain ⟨b, hbs, rfl⟩ := List.mem_map.mp hb
      refine hout j (hinv.held b hbs j hj).1 ?_
      simpa [batchItems, hclaimed.items] using hk
  · exact hinv.sound.of_claimed hclaimed

/-- A worker that dies leaves its items QUEUED. -/
theorem lost_ready {w₀ : World} {batch : List Claim} {sent : List Nat} :
    Triple (Ready w₀ (batchItems batch) (batchItems batch))
      (change (fun w => { w with exposed := w.exposed ++ sent.filter (· ∈ batchItems batch) }) :
        Prog PyError World Unit)
      (fun _ => Ready w₀ (batchItems batch) []) (fun _ => Ready w₀ (batchItems batch) []) := by
  refine Triple.change fun w h => ?_
  refine h.expose (fun k hk => ?_) (fun _ hk => hk) (List.nil_subset _) (by simp)
  simpa using (List.mem_filter.mp hk).2

/-- **One step.** -/
theorem pushInv_step (s : PushState) (e : PushEvent) (hinv : PushInv s)
    (hclean : CleanAnswers s e) : PushInv (pushStep s e) := by
  cases e with
  | tick n =>
    refine ⟨hinv.exposed, hinv.held, hinv.apart, fun k r hr hq => ?_⟩
    obtain ⟨hlive, t, ht, hle⟩ := hinv.sound k r hr hq
    exact ⟨hlive, t, ht, Nat.le_add_right_of_le hle⟩
  | claim offer limit cap =>
    rcases h : claimPendingItems s.world.db offer limit cap with e | ⟨db', cs⟩
    · simpa only [pushStep, h] using hinv
    · simpa only [pushStep, h] using pushInv_claim hinv h
  | eldorado batch target remote =>
    exact pushInv_worker hinv fun h => guardedPush_ready
      (pushEldorado_ready target remote (hinv.split h).1 hclean)
  | gameboost batch target remote =>
    exact pushInv_worker hinv fun h => guardedPush_ready
      (pushGameboost_ready target remote (hinv.split h).1 hclean)
  | playerauctions batch target remote =>
    exact pushInv_worker hinv fun h =>
      replenishPaItems_ready (fun _ hk => hk) (hinv.split h).1 hclean
  | lost batch sent => exact pushInv_worker hinv fun _ => lost_ready
  | quarantine maxAge =>
    have hholds := holds_quarantine maxAge s.world.db
    refine ⟨fun k hk => hholds.kept k (hinv.exposed k hk), fun b hb k hk => ?_, hinv.apart,
      hinv.sound.of_settles hholds.settles hholds.now⟩
    obtain ⟨hkept, hunsent⟩ := hinv.held b hb k hk
    exact ⟨hholds.kept k hkept, hunsent⟩

/-- Exposed items are kept, and the sweep ends them once their claims are
older than its age limit. -/
def ExposedSafe (s : PushState) : Prop :=
  ∀ k ∈ s.world.exposed, Kept s.world.db k ∧
    ∀ maxAge n, maxAge < n →
      Ended (run pushStep s [.tick n, .quarantine maxAge]).world.db k

theorem PushInv.safe (hinv : PushInv s) : ExposedSafe s := fun k hk =>
  ⟨hinv.exposed k hk, fun _ _ hn => quarantine_ends hinv.sound hn (hinv.exposed k hk)⟩

end Invariant

/-- **An exposed item is never released.**  From a database without QUEUED
items, in every state of a run whose answers are clean, an item whose
credential may be at a marketplace is PUSHED, FAILED with an unknown remote
state, or QUEUED; the sweep takes it from QUEUED to FAILED. -/
theorem exposed_never_released (db : Db) (h : ∀ k r, db.item? k = some r → r.status ≠ .queued)
    (es : List PushEvent) (hclean : Along pushStep CleanAnswers { world := { db } } es) :
    Always pushStep ExposedSafe { world := { db } } es :=
  (always_of_along pushInv_step (pushInv_init h) hclean).mono fun _ hinv => hinv.safe

/-- A GameBoost add that is answered as given, and then lists nothing. -/
def addAnswered (add : WriteAnswer Unit) : PushEvent :=
  .gameboost [⟨1, 1, 7, 1, 0⟩] ⟨1, 1, "offer"⟩
    { render := fun _ => .ok "login:password", add, listed := .error (.other "timeout") }

/-- The add succeeds and listing it raises: the item is FAILED/unknown. -/
theorem exposed_never_released_single :
    Always pushStep ExposedSafe { world := { db := singleItemDb } }
      [.claim 1 1 none, addAnswered (.success ())] :=
  exposed_never_released singleItemDb singleItemDb_not_queued _ ⟨trivial, rfl, trivial⟩

/-- **A timed-out add releases its item.**  The client reports the timeout as
a failing result; the item is marked absent and returns to PENDING, although
GameBoost may hold its credential. -/
theorem exposed_never_released_fails :
    ¬ ∀ es, Always pushStep ExposedSafe { world := { db := singleItemDb } } es := by
  intro h
  have hlast := (h [.claim 1 1 none,
    addAnswered (.uncertain { category := .timeout, message := "Request timed out" })]).last
  obtain ⟨⟨r, hr, hstatus⟩, -⟩ := hlast 1 (by decide)
  have hpending : r.status = .pending :=
    congrArg (Option.map ItemRow.status) hr |>.symm.trans (by decide) |> Option.some.inj
  rw [hpending] at hstatus
  rcases hstatus with hs | ⟨hs, -⟩ | hs <;> cases hs

end Sda
