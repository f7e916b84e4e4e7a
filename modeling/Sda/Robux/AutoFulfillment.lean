/-
Sda/Robux/AutoFulfillment.lean

Batches for Robux orders that were answered with a username
(tools/services/robux_auto_fulfillment.py, tools/models.py).

A run of `process_username_received_orders` loads the auto orders in USERNAME_RECEIVED and
takes one after the other: it looks up the buyer's places, creates the batch in a
transaction of its own, and saves the state of the auto order.  The state keeps every run
between its statements, so any number of them interleave; each save can fail, before or
after it is written, and a run can die anywhere.

* `one_batch_each` — at most one batch for an auto order, in every run of the system in
  which no load finds an auto order that has a batch or waits for one in another run;
* `two_batches` — the save after the batch fails and the handler's save with it; a run that
  dies between the two; two runs that load the same auto order.
-/
import Sda.Lib.Run
import Sda.Lib.Table
import Sda.Renewal.Models
import Sda.Robux.Orders

namespace Sda.Robux

/-! ### Rows -/

/-- `RobuxAutoOrder.State`. -/
inductive AutoState
  | awaitingUsername | usernameReceived | orderCreated | placeLookupFailed | failed | skipped
  deriving DecidableEq, Repr

/-- `RobuxAutoOrder`. -/
structure AutoOrder where
  state : AutoState := .awaitingUsername
  batch : Option Nat := none
  robloxUsername : String := ""
  errorMessage : String := ""
  deriving DecidableEq, Repr

/-- `RobuxCrateBatch`, with its one order. -/
structure CrateBatch where
  /-- The auto order whose `store_order_id` the batch carries. -/
  autoOrder : Nat
  clientRequestId : Nat
  robloxUsername : String
  places : Places
  deriving DecidableEq, Repr

/-! ### Runs -/

/-- Where a run stands. -/
inductive Stage
  /-- Before the next auto order. -/
  | next
  | create (k : Nat) (username : String) (candidates : List Place)
  /-- The batch is there; before `auto_order.save` with ORDER_CREATED. -/
  | save (k : Nat) (batch : Nat)
  | lookupFailed (k : Nat) (message : String)
  /-- In the handler, before `auto_order.save` with FAILED. -/
  | fail (k : Nat) (message : String)
  | ended
  deriving DecidableEq, Repr

/-- A run, and the auto orders it has loaded and not looked at. -/
structure Run where
  todo : List (Nat × AutoOrder)
  stage : Stage := .next
  deriving DecidableEq, Repr

structure Fulfillment where
  autoOrders : Table AutoOrder
  batches : Table CrateBatch
  runs : Table Run

/-- What `lookup_user_with_places` comes to; without a client nothing is found. -/
inductive Lookup
  | raised (message : String)
  | failed (message : String)
  | found (places : List Place)
  deriving DecidableEq, Repr

inductive Event
  /-- `detect_new_roblox_orders` -/
  | detect
  /-- `process_telegram_replies`, for one auto order -/
  | reply (k : Nat) (username : String)
  /-- A run begins; without a merchant it ends at once. -/
  | start (merchant : Bool)
  | lookup (run : Nat) (answer : Lookup)
  /-- The transaction of the batch. -/
  | create (run : Nat) (uuid : Nat) (commit : Commit)
  /-- The `auto_order.save` the run stands before. -/
  | save (run : Nat) (commit : Commit)
  | die (run : Nat)
  deriving DecidableEq, Repr

/-! ### Steps -/

/-- The auto orders a run loads. -/
def pendingAutoOrders (s : Fulfillment) : List (Nat × AutoOrder) :=
  s.autoOrders.select fun _ a => a.state == .usernameReceived

/-- `auto_order.save(update_fields=…)`. -/
def saveAutoOrder (s : Fulfillment) (k : Nat) (f : AutoOrder → AutoOrder) : Fulfillment :=
  { s with autoOrders := s.autoOrders.updateWhere (fun j _ => j == k) f }

def setRun (s : Fulfillment) (i : Nat) (r : Run) : Fulfillment :=
  { s with runs := s.runs.set i r }

/-- The places of a new batch. -/
def placesOf (candidates : List Place) : Places :=
  { autoPlace := true
    candidates
    placeId := (candidates.head?.map Place.placeId).getD 0
    placeName := (candidates.head?.map Place.name).getD "" }

/-- The stage after the look-up. -/
def afterLookup (k : Nat) (a : AutoOrder) : Lookup → Stage
  | .raised message => .fail k message
  | .failed message => .lookupFailed k ("Roblox lookup failed: " ++ message)
  | .found [] => .lookupFailed k ("No public games found for \"" ++ a.robloxUsername ++ "\"")
  | .found (p :: ps) => .create k a.robloxUsername (p :: ps)

/-- The batch, and the stage after its transaction. -/
def createBatch (s : Fulfillment) (i : Nat) (r : Run) (k : Nat) (username : String)
    (candidates : List Place) (uuid : Nat) (commit : Commit) : Fulfillment :=
  let failed := { r with stage := .fail k "database error" }
  if s.batches.any fun _ b => b.clientRequestId == uuid then setRun s i failed
  else
    let created := { s with batches := s.batches.create ⟨k, uuid, username, placesOf candidates⟩ }
    match commit with
    | .done => setRun created i { r with stage := .save k s.batches.nextKey }
    | .rolledBack => setRun s i failed
    | .lost => setRun created i failed

/-- The save a run stands before, and the stage after it. -/
def saveState (s : Fulfillment) (i : Nat) (r : Run) (commit : Commit) : Fulfillment :=
  let settle (k : Nat) (f : AutoOrder → AutoOrder) (onError : Stage) : Fulfillment :=
    match commit with
    | .done => setRun (saveAutoOrder s k f) i { r with stage := .next }
    | .rolledBack => setRun s i { r with stage := onError }
    | .lost => setRun (saveAutoOrder s k f) i { r with stage := onError }
  match r.stage with
  | .save k batch =>
    settle k (fun a => { a with batch := some batch, state := .orderCreated })
      (.fail k "database error")
  | .lookupFailed k message =>
    settle k (fun a => { a with errorMessage := message, state := .placeLookupFailed })
      (.fail k "database error")
  | .fail k message =>
    -- an exception of the handler leaves the loop
    settle k (fun a => { a with errorMessage := message, state := .failed }) .ended
  | _ => s

def fulfill (s : Fulfillment) : Event → Fulfillment
  | .detect => { s with autoOrders := s.autoOrders.create {} }
  | .reply k username =>
    match s.autoOrders.get? k with
    | some a =>
      if a.state = .awaitingUsername then
        saveAutoOrder s k fun a => { a with robloxUsername := username, state := .usernameReceived }
      else s
    | none => s
  | .start merchant =>
    if merchant then { s with runs := s.runs.create ⟨pendingAutoOrders s, .next⟩ } else s
  | .lookup i answer =>
    match s.runs.get? i with
    | some ⟨(k, a) :: rest, .next⟩ => setRun s i ⟨rest, afterLookup k a answer⟩
    | _ => s
  | .create i uuid commit =>
    match s.runs.get? i with
    | some ⟨rest, .create k username candidates⟩ =>
      createBatch s i ⟨rest, .create k username candidates⟩ k username candidates uuid commit
    | _ => s
  | .save i commit =>
    match s.runs.get? i with
    | some r => saveState s i r commit
    | none => s
  | .die i =>
    match s.runs.get? i with
    | some _ => setRun s i ⟨[], .ended⟩
    | none => s

/-! ### The property -/

variable {batches : Table CrateBatch} {runs : Table Run} {s : Fulfillment} {i j k : Nat}
  {r r' : Run}

/-- The batches made for an auto order. -/
def batchesOf (batches : Table CrateBatch) (k : Nat) : Nat :=
  batches.count fun _ b => b.autoOrder == k

def OneBatchEach (s : Fulfillment) : Prop := ∀ k, batchesOf s.batches k ≤ 1

/-- The auto orders a run may still make a batch for. -/
def Run.waiting (r : Run) : List Nat :=
  match r.stage with
  | .ended => []
  | .create k _ _ => k :: r.todo.map Prod.fst
  | _ => r.todo.map Prod.fst

/-- An auto order that is loaded has no batch, and waits for one in no other run. -/
def LoadsFresh (s : Fulfillment) : Event → Prop
  | .start true => ∀ k a, (k, a) ∈ pendingAutoOrders s →
      batchesOf s.batches k = 0 ∧ ∀ i r, s.runs.get? i = some r → k ∉ r.waiting
  | _ => True

/-! ### Batches and runs -/

/-- What waits for a batch has none, and waits once. -/
structure Sound (batches : Table CrateBatch) (runs : Table Run) : Prop where
  one : ∀ k, batchesOf batches k ≤ 1
  nodup : ∀ i r, runs.get? i = some r → r.waiting.Nodup
  apart : ∀ i j r r' k, runs.get? i = some r → runs.get? j = some r' → k ∈ r.waiting →
    k ∈ r'.waiting → i = j
  unbatched : ∀ i r k, runs.get? i = some r → k ∈ r.waiting → batchesOf batches k = 0

/-- A run goes on, and waits for no more than before. -/
theorem Sound.goes (h : Sound batches runs) (hi : runs.get? i = some r)
    (hsub : r'.waiting.Sublist r.waiting) : Sound batches (runs.set i r') := by
  have old : ∀ {j a}, (runs.set i r').get? j = some a →
      ∃ b, runs.get? j = some b ∧ a.waiting.Sublist b.waiting := by
    intro j a ha
    rw [Table.get?_set hi] at ha
    split at ha
    · next hj =>
      cases ha
      exact ⟨r, hj ▸ hi, hsub⟩
    · exact ⟨a, ha, List.Sublist.refl _⟩
  constructor
  · exact h.one
  · intro j a ha
    obtain ⟨b, hb, hle⟩ := old ha
    exact (h.nodup j b hb).sublist hle
  · intro j j' a a' k ha ha' hk hk'
    obtain ⟨b, hb, hle⟩ := old ha
    obtain ⟨b', hb', hle'⟩ := old ha'
    exact h.apart j j' b b' k hb hb' (hle.subset hk) (hle'.subset hk')
  · intro j a k ha hk
    obtain ⟨b, hb, hle⟩ := old ha
    exact h.unbatched j b k hb (hle.subset hk)

/-- A run begins. -/
theorem Sound.starts (h : Sound batches runs) (hnodup : r.waiting.Nodup)
    (hfresh : ∀ k ∈ r.waiting, batchesOf batches k = 0 ∧
      ∀ i r, runs.get? i = some r → k ∉ r.waiting) : Sound batches (runs.create r) := by
  constructor
  · exact h.one
  · intro j a ha
    rw [Table.get?_create] at ha
    split at ha
    · cases ha
      exact hnodup
    · exact h.nodup j a ha
  · intro j j' a a' k ha ha' hk hk'
    rw [Table.get?_create] at ha ha'
    split at ha <;> split at ha'
    · next hj hj' => exact hj.trans hj'.symm
    · cases ha
      exact absurd hk' ((hfresh k hk).2 j' a' ha')
    · cases ha'
      exact absurd hk ((hfresh k hk').2 j a ha)
    · exact h.apart j j' a a' k ha ha' hk hk'
  · intro j a k ha hk
    rw [Table.get?_create] at ha
    split at ha
    · cases ha
      exact (hfresh k hk).1
    · exact h.unbatched j a k ha hk

theorem batchesOf_create (b : CrateBatch) (k : Nat) :
    batchesOf (batches.create b) k = batchesOf batches k + if b.autoOrder = k then 1 else 0 := by
  rw [batchesOf, Table.count_create, batchesOf]
  simp only [beq_iff_eq]

/-- A batch is made for the auto order its run holds. -/
theorem Sound.creates (h : Sound batches runs) {b : CrateBatch} {rest : List Nat}
    (hi : runs.get? i = some r) (hwait : r.waiting = b.autoOrder :: rest)
    (hrest : r'.waiting = rest) : Sound (batches.create b) (runs.set i r') := by
  have hnone : batchesOf batches b.autoOrder = 0 := by
    apply h.unbatched i r b.autoOrder hi
    rw [hwait]
    exact List.mem_cons_self
  have hnodup := h.nodup i r hi
  rw [hwait] at hnodup
  have hsub : r'.waiting.Sublist r.waiting := by
    rw [hwait, hrest]
    exact List.sublist_cons_self _ _
  have hgoes := h.goes hi hsub
  -- nothing waits any more for a batch of this auto order
  have hgone : ∀ j a, (runs.set i r').get? j = some a → b.autoOrder ∉ a.waiting := by
    intro j a ha hmem
    rw [Table.get?_set hi] at ha
    split at ha
    · cases ha
      rw [hrest] at hmem
      exact (List.nodup_cons.mp hnodup).1 hmem
    · next hj =>
      apply hj
      apply h.apart j i a r b.autoOrder ha hi hmem
      rw [hwait]
      exact List.mem_cons_self
  constructor
  · intro k
    rw [batchesOf_create]
    split
    · next hk =>
      rw [← hk, hnone]
    · exact h.one k
  · exact hgoes.nodup
  · exact hgoes.apart
  · intro j a k ha hk
    have hne : b.autoOrder ≠ k := fun heq => hgone j a ha (heq ▸ hk)
    rw [batchesOf_create, if_neg hne]
    exact hgoes.unbatched j a k ha hk

/-! ### Steps -/

/-- What a stage without a batch to make waits for. -/
theorem waiting_sublist {todo : List (Nat × AutoOrder)} {stage : Stage}
    (hstage : ∀ k username candidates, stage ≠ .create k username candidates) :
    (Run.mk todo stage).waiting.Sublist (todo.map Prod.fst) := by
  cases stage with
  | create k username candidates => exact absurd rfl (hstage k username candidates)
  | ended => exact List.nil_sublist _
  | next | save _ _ | lookupFailed _ _ | fail _ _ => exact List.Sublist.refl _

theorem waiting_lookup (a : AutoOrder) (rest : List (Nat × AutoOrder)) (answer : Lookup) :
    (Run.mk rest (afterLookup k a answer)).waiting.Sublist (k :: rest.map Prod.fst) := by
  rcases answer with m | m | - | ⟨p, ps⟩
  · exact List.sublist_cons_self _ _
  · exact List.sublist_cons_self _ _
  · exact List.sublist_cons_self _ _
  · exact List.Sublist.refl _

theorem sound_createBatch (h : Sound s.batches s.runs) {rest : List (Nat × AutoOrder)}
    {username : String} {candidates : List Place} (uuid : Nat) (commit : Commit)
    (hi : s.runs.get? i = some ⟨rest, .create k username candidates⟩) :
    Sound (createBatch s i ⟨rest, .create k username candidates⟩ k username candidates uuid
        commit).batches
      (createBatch s i ⟨rest, .create k username candidates⟩ k username candidates uuid
        commit).runs := by
  have failed : Sound s.batches (s.runs.set i ⟨rest, .fail k "database error"⟩) :=
    h.goes hi (List.sublist_cons_self _ _)
  rw [createBatch]
  dsimp only
  split
  · exact failed
  · cases commit with
    | done => exact h.creates hi rfl rfl
    | rolledBack => exact failed
    | lost => exact h.creates hi rfl rfl

theorem sound_saveState (h : Sound s.batches s.runs) (commit : Commit)
    (hi : s.runs.get? i = some r) :
    Sound (saveState s i r commit).batches (saveState s i r commit).runs := by
  obtain ⟨todo, stage⟩ := r
  have goes : ∀ stage', (∀ k username candidates, stage' ≠ .create k username candidates) →
      (Run.mk todo stage).waiting = todo.map Prod.fst →
        Sound s.batches (s.runs.set i ⟨todo, stage'⟩) := by
    intro stage' hstage hwait
    apply h.goes hi
    rw [hwait]
    exact waiting_sublist hstage
  rw [saveState]
  cases stage with
  | next | create _ _ _ | ended => exact h
  | save k batch | lookupFailed k message | fail k message =>
    cases commit with
    | done => exact goes _ nofun rfl
    | rolledBack => exact goes _ nofun rfl
    | lost => exact goes _ nofun rfl

theorem pendingAutoOrders_nodup (s : Fulfillment) :
    (Run.mk (pendingAutoOrders s) .next).waiting.Nodup := by
  show ((pendingAutoOrders s).map Prod.fst).Nodup
  rw [pendingAutoOrders]
  exact Table.select_keys_nodup

/-- **One step** makes no second batch for an auto order. -/
theorem sound_step (e : Event) (h : Sound s.batches s.runs) (hfresh : LoadsFresh s e) :
    Sound (fulfill s e).batches (fulfill s e).runs := by
  cases e with
  | detect => exact h
  | reply k username =>
    rw [fulfill]
    split
    · split
      · exact h
      · exact h
    · exact h
  | start merchant =>
    cases merchant with
    | false => exact h
    | true =>
      apply h.starts (pendingAutoOrders_nodup s)
      intro k hk
      obtain ⟨⟨k', a⟩, hmem, rfl⟩ := List.mem_map.mp hk
      exact hfresh k' a hmem
  | lookup i answer =>
    rw [fulfill]
    split
    · next k a rest hi => exact h.goes hi (waiting_lookup a rest answer)
    · exact h
  | create i uuid commit =>
    rw [fulfill]
    split
    · next rest k username candidates hi => exact sound_createBatch h uuid commit hi
    · exact h
  | save i commit =>
    rw [fulfill]
    split
    · next r hi => exact sound_saveState h commit hi
    · exact h
  | die i =>
    rw [fulfill]
    split
    · next r hi => exact h.goes hi (List.nil_sublist _)
    · exact h

/-! ### Runs of the system -/

/-- Nothing has happened yet. -/
def Fulfillment.initial : Fulfillment := ⟨Table.empty, Table.empty, Table.empty⟩

/-- **At most one batch for an auto order**, when every load is fresh. -/
theorem one_batch_each {es : List Event} (h : Along fulfill LoadsFresh Fulfillment.initial es) :
    Always fulfill OneBatchEach Fulfillment.initial es := by
  have hinit : Sound Fulfillment.initial.batches Fulfillment.initial.runs := by
    constructor
    · exact fun k => Nat.zero_le 1
    · exact nofun
    · exact nofun
    · exact nofun
  apply (always_of_along (I := fun s => Sound s.batches s.runs)
    (fun s e hs hfresh => sound_step e hs hfresh) hinit h).mono
  exact fun s hs => hs.one

/-- One auto order is answered, and a run makes its batch. -/
def untilBatch : List Event :=
  [.detect, .reply 0 "builder", .start true, .lookup 0 (.found [⟨1818, "Home"⟩]),
    .create 0 7 .done]

theorem one_batch_each_single :
    Along fulfill LoadsFresh Fulfillment.initial (untilBatch ++ [.save 0 .done]) ∧
      Always fulfill OneBatchEach Fulfillment.initial (untilBatch ++ [.save 0 .done]) := by
  have hfresh : Along fulfill LoadsFresh Fulfillment.initial (untilBatch ++ [.save 0 .done]) := by
    refine ⟨trivial, trivial, fun k a _ => ⟨rfl, nofun⟩, trivial, trivial, trivial, trivial⟩
  exact ⟨hfresh, one_batch_each hfresh⟩

/-- Another run loads the auto order again and makes a second batch. -/
def secondBatch : List Event :=
  [.start true, .lookup 1 (.found [⟨1818, "Home"⟩]), .create 1 8 .done]

/-- **Two batches**: neither save succeeds; the run dies; two runs load one auto order. -/
theorem two_batches :
    ¬Always fulfill OneBatchEach Fulfillment.initial
        (untilBatch ++ [.save 0 .rolledBack, .save 0 .rolledBack] ++ secondBatch) ∧
      ¬Always fulfill OneBatchEach Fulfillment.initial
        (untilBatch ++ [.die 0] ++ secondBatch) ∧
      ¬Always fulfill OneBatchEach Fulfillment.initial
        ([.detect, .reply 0 "builder", .start true, .start true,
          .lookup 0 (.found [⟨1818, "Home"⟩]), .create 0 7 .done, .save 0 .done,
          .lookup 1 (.found [⟨1818, "Home"⟩]), .create 1 8 .done]) := by
  have two : ∀ es, batchesOf (run fulfill Fulfillment.initial es).batches 0 = 2 →
      ¬Always fulfill OneBatchEach Fulfillment.initial es := by
    intro es htwo h
    have hlast := h.last 0
    omega
  refine ⟨two _ ?_, two _ ?_, two _ ?_⟩
  · decide
  · decide
  · decide

end Sda.Robux
