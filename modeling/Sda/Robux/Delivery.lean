/-
Sda/Robux/Delivery.lean

One RbxCrate batch and everyone who works on it (tools/services/robuxcrate.py).

`_process_batch`, `refresh_order_status` and `cancel_order` each hold their own copies of the
batch and of orders, across calls to the provider and to the marketplace, and each ends in
`_update_batch_status`.  The state keeps every caller between its statements, so runs
interleave any number of them; one that is not scheduled again has died.  Other batches
have other rows.

`Settled` is the property: a batch that was COMPLETED is, at most one delivery has
succeeded, and an order that `cancel_order` cancelled is in a final state.

* `stays_settled` — so it is in every state of a run exactly if all its writes meet `WriteFits`;
* `comes_unsettled` — a refresh of a further order of a completed batch; two cycles at once; a
  poll that saves its copy after a cancellation.
-/
import Sda.Robux.Reconcile

namespace Sda.Robux.Delivery

/-! ### Callers -/

/-- Where a caller stands. -/
inductive Phase
  /-- `_process_batch`, before its first statement. -/
  | start
  /-- Before the orders of a loop are loaded. -/
  | load (caller : Caller)
  /-- In a loop, or in the body of `refresh_order_status` or `cancel_order`. -/
  | calls (caller : Caller) (todo : List (Nat × Order))
  /-- Before `_update_batch_status`. -/
  | aggregate
  /-- Before the call to the marketplace. -/
  | deliver
  /-- Before `batch.save` with this status. -/
  | write (status : BatchStatus)
  | ended
  deriving DecidableEq, Repr

/-- A caller, with the status and the places of its copy of the batch. -/
structure Worker where
  copy : BatchStatus
  places : Places
  phase : Phase
  deriving DecidableEq, Repr

/-- What has happened to the batch. -/
structure History where
  /-- It was COMPLETED. -/
  completed : Bool := false
  /-- The delivery calls that succeeded. -/
  delivered : Nat := 0
  /-- The orders that `cancel_order` has cancelled. -/
  cancelled : List Nat := []
  deriving DecidableEq, Repr

/-- The rows of a batch, and its callers. -/
structure Store where
  status : BatchStatus
  places : Places
  orders : Table Order
  workers : Table Worker
  history : History

/-- How `_deliver_eldorado` or `_deliver_gameboost` ends. -/
inductive Outcome
  | ok | retryable | permanent
  deriving DecidableEq, Repr

inductive Action
  /-- `process_pending_batches` loads the batch. -/
  | cycle
  /-- The view loads the order with its batch. -/
  | refresh (k : Nat)
  | cancel (k : Nat)
  /-- The next call of a loop, its answer and the save after it. -/
  | call (worker : Nat) (answer : Answer)
  | deliver (worker : Nat) (outcome : Outcome)
  /-- The next statement of a caller that calls nobody. -/
  | next (worker : Nat)

/-! ### Steps -/

def setWorker (s : Store) (i : Nat) (w : Worker) (phase : Phase) : Store :=
  { s with workers := s.workers.set i { w with phase } }

def addWorker (s : Store) (phase : Phase) : Store :=
  { s with workers := s.workers.create ⟨s.status, s.places, phase⟩ }

/-- `batch.save(update_fields=['status', …])`. -/
def saveStatus (s : Store) (status : BatchStatus) : Store :=
  { s with
    status
    history := { s.history with completed := s.history.completed || status == .completed } }

/-- What follows a loop. -/
def afterCalls : Caller → Phase
  | .send => .load .reconcile
  | .reconcile => .load .check
  | .check | .refresh | .cancel => .aggregate

/-- The phase after a call that saved nothing. -/
def afterNothing (caller : Caller) (rest : List (Nat × Order)) : Phase :=
  match caller with
  | .refresh | .cancel => .ended
  | _ => .calls caller rest

/-- The columns a call saves: a cancellation and an unanswered create call leave
`raw_provider_status`. -/
def savedRow (c : Call) (stored o : Order) : Order :=
  match c.caller, c.answer with
  | .cancel, _ | .send, .error _ => { o with rawProviderStatus := stored.rawProviderStatus }
  | _, _ => o

/-- `order.save(update_fields=…)`, and the place if the batch has moved on. -/
def saveOrder (s : Store) (c : Call) (old new : Places) (o : Order) : Store :=
  { s with
    places := if new = old then s.places else new
    orders := s.orders.mapRows fun j stored => if j = c.order then savedRow c stored o else stored
    history := if c.caller = .cancel then
        { s.history with cancelled := c.order :: s.history.cancelled }
      else s.history }

/-- One call for an order, with the caller's copy. -/
def callStep (s : Store) (i : Nat) (w : Worker) (c : Call) (o : Order)
    (rest : List (Nat × Order)) : Store :=
  match c.outcome w.places o with
  -- an exception ends the caller
  | .error _ => setWorker s i w .ended
  | .ok (_, none) => setWorker s i w (afterNothing c.caller rest)
  | .ok (places, some o') =>
    setWorker (saveOrder s c w.places places o') i { w with places } (.calls c.caller rest)

/-- The statuses `_update_batch_status` reads. -/
def statuses (s : Store) : List OrderStatus := s.orders.rows.map fun r => r.2.status

/-- **`_update_batch_status`**: what it decides on these statuses. -/
def updateBatchStatus (copy : BatchStatus) (statuses : List OrderStatus) : Phase :=
  let successCount := statuses.count .completed
  let nonFinal := statuses.filter fun status => !status.isFinal
  if statuses = [] then .ended
  else if nonFinal = [] ∧ successCount = 0 then .write .error
  else if 0 < successCount ∧ copy ≠ .completed then .deliver
  else if nonFinal ≠ [] then .write .processing
  else .ended

/-- **`_attempt_delivery`**: the status that is saved. -/
def Outcome.status : Outcome → BatchStatus
  | .ok => .completed
  | .retryable => .processing
  | .permanent => .error

/-- The next statement of a caller that stands before no call. -/
def nextStep (s : Store) (i : Nat) (w : Worker) : Store :=
  match w.phase with
  | .start =>
    if w.copy = .pending ∨ w.copy = .queued then
      setWorker (saveStatus s .processing) i { w with copy := .processing } (.load .send)
    else setWorker s i w (.load .send)
  | .load caller =>
    setWorker s i w (.calls caller (s.orders.select fun _ o => caller.selects o.status))
  | .calls caller [] => setWorker s i w (afterCalls caller)
  | .aggregate => setWorker s i w (updateBatchStatus w.copy (statuses s))
  | .write status => setWorker (saveStatus s status) i { w with copy := status } .ended
  | .calls _ (_ :: _) | .deliver | .ended => s

def step (s : Store) : Action → Store
  | .cycle => if s.status.isNonFinal then addWorker s .start else s
  | .refresh k =>
    match s.orders.get? k with
    | some o => addWorker s (.calls .refresh [(k, o)])
    | none => s
  | .cancel k =>
    match s.orders.get? k with
    | some o => if o.status.isFinal then s else addWorker s (.calls .cancel [(k, o)])
    | none => s
  | .call i answer =>
    match s.workers.get? i with
    | some w =>
      match w.phase with
      | .calls caller ((k, o) :: rest) => callStep s i w ⟨caller, k, answer⟩ o rest
      | _ => s
    | none => s
  | .deliver i outcome =>
    match s.workers.get? i with
    | some w =>
      if w.phase = .deliver then
        setWorker { s with history := { s.history with
            delivered := s.history.delivered + if outcome = .ok then 1 else 0 } }
          i w (.write outcome.status)
      else s
    | none => s
  | .next i =>
    match s.workers.get? i with
    | some w => nextStep s i w
    | none => s

/-! ### The property -/

variable {s : Store} {i j k : Nat} {w w' : Worker} {o o' : Order} {phase : Phase}
  {status : BatchStatus}

structure Settled (s : Store) : Prop where
  completed : s.history.completed = true → s.status = .completed
  delivered : s.history.delivered ≤ 1
  cancelled : ∀ k ∈ s.history.cancelled, ∀ o, s.orders.get? k = some o → o.status.isFinal = true

/-- The status a caller is about to save without a call. -/
def Worker.writes (w : Worker) : Option BatchStatus :=
  match w.phase with
  | .start => if w.copy = .pending ∨ w.copy = .queued then some .processing else none
  | .write status => some status
  | _ => none

/-- No other status is saved for a COMPLETED batch; a delivery succeeds only while the batch is
not COMPLETED and no caller is about to make it so; and no non-final status is saved for an
order that was cancelled. -/
def WriteFits (s : Store) : Action → Prop
  | .call i answer => ∀ w caller k o rest places o' stored, s.workers.get? i = some w →
      w.phase = .calls caller ((k, o) :: rest) →
      Call.outcome w.places o ⟨caller, k, answer⟩ = .ok (places, some o') →
      s.orders.get? k = some stored → k ∈ s.history.cancelled → o'.status.isFinal = true
  | .deliver i .ok => ∀ w, s.workers.get? i = some w → w.phase = .deliver →
      s.status ≠ .completed ∧
        ∀ j w', s.workers.get? j = some w' → w'.phase ≠ .write .completed
  | .next i => ∀ w status, s.workers.get? i = some w → w.writes = some status →
      status = .completed ∨ s.status ≠ .completed
  | _ => True

/-! ### What is recorded -/

/-- A delivery that succeeded is recorded, or is about to be, and nothing else is. -/
structure Recorded (s : Store) : Prop where
  known : s.status = .completed → s.history.completed = true
  delivered : 0 < s.history.delivered ↔ s.history.completed = true ∨
    ∃ i w, s.workers.get? i = some w ∧ w.phase = .write .completed

/-- A caller moves on that was not about to record a delivery, and is not now. -/
theorem Recorded.moves (h : Recorded s) (hi : s.workers.get? i = some w)
    (hphase : w.phase ≠ .write .completed) (hnew : phase ≠ .write .completed) :
    Recorded (setWorker s i w' phase) := by
  refine ⟨h.known, h.delivered.trans (or_congr_right ?_)⟩
  constructor
  · rintro ⟨j, v, hj, hv⟩
    have hne : j ≠ i := by
      rintro rfl
      rw [hi] at hj
      cases hj
      exact hphase hv
    exact ⟨j, v, (Table.get?_set_ne hne).trans hj, hv⟩
  · rintro ⟨j, v, hj, hv⟩
    have hj : (s.workers.set i { w' with phase }).get? j = some v := hj
    rw [Table.get?_set hi] at hj
    split at hj
    · cases hj
      exact absurd hv hnew
    · exact ⟨j, v, hj, hv⟩

theorem Recorded.joins (h : Recorded s) (hnew : phase ≠ .write .completed) :
    Recorded (addWorker s phase) := by
  refine ⟨h.known, h.delivered.trans (or_congr_right ?_)⟩
  constructor
  · rintro ⟨j, v, hj, hv⟩
    exact ⟨j, v, Table.get?_create_of_some hj, hv⟩
  · rintro ⟨j, v, hj, hv⟩
    have hj : (s.workers.create ⟨s.status, s.places, phase⟩).get? j = some v := hj
    rw [Table.get?_create] at hj
    split at hj
    · cases hj
      exact absurd hv hnew
    · exact ⟨j, v, hj, hv⟩

/-- The status is saved; only the end of a delivery saves COMPLETED. -/
theorem Recorded.saves (h : Recorded s) (hi : s.workers.get? i = some w)
    (hphase : w.phase = .write .completed ↔ status = .completed)
    (hnew : phase ≠ .write .completed) : Recorded (setWorker (saveStatus s status) i w' phase) := by
  by_cases hstatus : status = .completed
  · have hcompleted : (s.history.completed || status == .completed) = true := by
      rw [hstatus, Bool.or_eq_true_iff]
      exact Or.inr rfl
    have hpos := h.delivered.mpr (Or.inr ⟨i, w, hi, hphase.mpr hstatus⟩)
    exact ⟨fun _ => hcompleted, iff_of_true hpos (Or.inl hcompleted)⟩
  · have hsame : (s.history.completed || status == .completed) = s.history.completed := by
      rw [beq_eq_false_iff_ne.mpr hstatus, Bool.or_false]
    have hsaved : Recorded (saveStatus s status) := by
      refine ⟨fun heq => absurd heq hstatus, ?_⟩
      show 0 < s.history.delivered ↔ (s.history.completed || status == .completed) = true ∨ _
      rw [hsame]
      exact h.delivered
    exact hsaved.moves (s := saveStatus s status) hi (fun heq => hstatus (hphase.mp heq)) hnew

theorem Recorded.savesOrder (h : Recorded s) (c : Call) (old new : Places) (o : Order) :
    Recorded (saveOrder s c old new o) := by
  have hhistory : (saveOrder s c old new o).history.completed = s.history.completed ∧
      (saveOrder s c old new o).history.delivered = s.history.delivered := by
    rw [saveOrder]
    dsimp only
    split <;> exact ⟨rfl, rfl⟩
  refine ⟨fun hstatus => ?_, ?_⟩
  · rw [hhistory.1]
    exact h.known hstatus
  · rw [hhistory.1, hhistory.2]
    exact h.delivered

theorem Recorded.delivers (h : Recorded s) (hi : s.workers.get? i = some w)
    (hphase : w.phase = .deliver) (outcome : Outcome) :
    Recorded (setWorker { s with history := { s.history with
      delivered := s.history.delivered + if outcome = .ok then 1 else 0 } }
        i w (.write outcome.status)) := by
  have hnot : w.phase ≠ .write .completed := by
    rw [hphase]
    exact nofun
  by_cases hok : outcome = .ok
  · subst hok
    exact ⟨h.known, iff_of_true (Nat.succ_pos _) (Or.inr ⟨i, _, Table.get?_set_self hi, rfl⟩)⟩
  · rw [if_neg hok]
    apply h.moves hi hnot
    cases outcome with
    | ok => exact absurd rfl hok
    | retryable => exact nofun
    | permanent => exact nofun

theorem updateBatchStatus_ne (copy : BatchStatus) (statuses : List OrderStatus) :
    updateBatchStatus copy statuses ≠ .write .completed := by
  rw [updateBatchStatus]
  split
  · exact nofun
  split
  · exact nofun
  split
  · exact nofun
  split <;> exact nofun

theorem afterCalls_ne (caller : Caller) : afterCalls caller ≠ .write .completed := by
  cases caller <;> exact nofun

theorem afterNothing_ne (caller : Caller) (rest : List (Nat × Order)) :
    afterNothing caller rest ≠ .write .completed := by
  cases caller <;> exact nofun

theorem recorded_nextStep (h : Recorded s) (hi : s.workers.get? i = some w) :
    Recorded (nextStep s i w) := by
  rw [nextStep]
  split
  · next hphase =>
    have hnot : w.phase ≠ .write .completed := by
      rw [hphase]
      exact nofun
    split
    · exact h.saves hi (iff_of_false hnot nofun) nofun
    · exact h.moves hi hnot nofun
  · next hphase => exact h.moves hi (by rw [hphase]; exact nofun) nofun
  · next caller hphase => exact h.moves hi (by rw [hphase]; exact nofun) (afterCalls_ne caller)
  · next hphase => exact h.moves hi (by rw [hphase]; exact nofun) (updateBatchStatus_ne _ _)
  · next status hphase =>
    exact h.saves hi (by rw [hphase, Phase.write.injEq]) nofun
  · exact h
  · exact h
  · exact h

/-- **Every step** keeps what is recorded. -/
theorem recorded_step (a : Action) (h : Recorded s) : Recorded (step s a) := by
  cases a with
  | cycle =>
    rw [step]
    split
    · exact h.joins nofun
    · exact h
  | refresh k =>
    rw [step]
    split
    · exact h.joins nofun
    · exact h
  | cancel k =>
    rw [step]
    split
    · split
      · exact h
      · exact h.joins nofun
    · exact h
  | call i answer =>
    rw [step]
    split
    · next w hi =>
      split
      · next caller k o rest hphase =>
        have hnot : w.phase ≠ .write .completed := by
          rw [hphase]
          exact nofun
        rw [callStep]
        split
        · exact h.moves hi hnot nofun
        · exact h.moves hi hnot (afterNothing_ne _ _)
        · next places o' _ => exact (h.savesOrder _ w.places places o').moves hi hnot nofun
      · exact h
    · exact h
  | deliver i outcome =>
    rw [step]
    split
    · next w hi =>
      split
      · next hphase => exact h.delivers hi hphase outcome
      · exact h
    · exact h
  | next i =>
    rw [step]
    split
    · next w hi => exact recorded_nextStep h hi
    · exact h

/-! ### When a step keeps the batch settled -/

theorem settled_setWorker : Settled (setWorker s i w phase) ↔ Settled s :=
  ⟨fun h => ⟨h.completed, h.delivered, h.cancelled⟩,
    fun h => ⟨h.completed, h.delivered, h.cancelled⟩⟩

theorem Settled.joins (h : Settled s) (phase : Phase) : Settled (addWorker s phase) :=
  ⟨h.completed, h.delivered, h.cancelled⟩

theorem settled_saveStatus (hrec : Recorded s) (h : Settled s) :
    Settled (saveStatus s status) ↔ status = .completed ∨ s.status ≠ .completed := by
  constructor
  · intro hsaved
    by_contra hbad
    rw [not_or, not_not] at hbad
    have hcompleted : (s.history.completed || status == .completed) = true := by
      rw [hrec.known hbad.2, Bool.true_or]
    exact hbad.1 (hsaved.completed hcompleted)
  · intro hfits
    refine ⟨fun hcompleted => ?_, h.delivered, h.cancelled⟩
    rcases Bool.or_eq_true_iff.mp hcompleted with hold | hnew
    · exact hfits.resolve_right fun hne => hne (h.completed hold)
    · exact beq_iff_eq.mp hnew

/-- The status of the row that is saved is that of the copy. -/
theorem savedRow_status (c : Call) (stored o : Order) :
    (savedRow c stored o).status = o.status := by
  rw [savedRow]
  split <;> rfl

/-- A cancellation ends in a final state. -/
theorem final_of_cancel {places places' : Places} {answer : Answer}
    (h : Call.outcome places o ⟨.cancel, k, answer⟩ = .ok (places', some o')) :
    o'.status.isFinal = true := by
  rw [Call.outcome, Except.ok.injEq, Prod.mk.injEq] at h
  obtain ⟨-, hcancel⟩ := h
  rcases answer with exc | ⟨body, code⟩ | ⟨e, code⟩
  · cases hcancel
  · rw [cancelOrder] at hcancel
    split at hcancel
    · cases hcancel
    · cases hcancel
      rfl
  · cases hcancel

theorem get?_saveOrder (c : Call) (old new : Places) (k : Nat) :
    (saveOrder s c old new o').orders.get? k = (s.orders.get? k).map fun stored =>
      if k = c.order then savedRow c stored o' else stored :=
  Table.get?_mapRows (fun j stored => if j = c.order then savedRow c stored o' else stored) k

/-- An order is saved. -/
theorem settled_saveOrder (h : Settled s) {c : Call} {old new : Places}
    (hout : Call.outcome old o c = .ok (new, some o')) :
    Settled (saveOrder s c old new o') ↔ ∀ stored, s.orders.get? c.order = some stored →
      c.order ∈ s.history.cancelled → o'.status.isFinal = true := by
  constructor
  · intro hsaved stored hstored hmem
    have hmem' : c.order ∈ (saveOrder s c old new o').history.cancelled := by
      rw [saveOrder]
      dsimp only
      split
      · exact List.mem_cons_self
      · exact hmem
    have hget : (saveOrder s c old new o').orders.get? c.order = some (savedRow c stored o') := by
      rw [get?_saveOrder, hstored, Option.map_some, if_pos rfl]
    have hfinal := hsaved.cancelled _ hmem' _ hget
    rwa [savedRow_status] at hfinal
  · intro hfits
    have hcounts : (saveOrder s c old new o').history.completed = s.history.completed ∧
        (saveOrder s c old new o').history.delivered = s.history.delivered := by
      rw [saveOrder]
      dsimp only
      split <;> exact ⟨rfl, rfl⟩
    refine ⟨fun hcompleted => ?_, ?_, fun k hk a ha => ?_⟩
    · rw [hcounts.1] at hcompleted
      exact h.completed hcompleted
    · rw [hcounts.2]
      exact h.delivered
    · rw [get?_saveOrder] at ha
      obtain ⟨b, hb, hab⟩ := Option.map_eq_some_iff.mp ha
      have hcases : k = c.order ∧ c.caller = .cancel ∨ k ∈ s.history.cancelled := by
        rw [saveOrder] at hk
        dsimp only at hk
        split at hk
        · next hcancel =>
          rcases List.mem_cons.mp hk with heq | hmem
          · exact Or.inl ⟨heq, hcancel⟩
          · exact Or.inr hmem
        · exact Or.inr hk
      split at hab
      · next hkc =>
        subst hkc
        rw [← hab, savedRow_status]
        rcases hcases with ⟨-, hcancel⟩ | hmem
        · obtain ⟨caller, j, answer⟩ := c
          have hcancel : caller = .cancel := hcancel
          subst hcancel
          exact final_of_cancel hout
        · exact hfits b hb hmem
      · next hkc =>
        rcases hcases with ⟨heq, -⟩ | hmem
        · exact absurd heq hkc
        · rw [← hab]
          exact h.cancelled k hmem b hb

theorem settled_nextStep (hrec : Recorded s) (h : Settled s) :
    Settled (nextStep s i w) ↔
      ∀ status, w.writes = some status → status = .completed ∨ s.status ≠ .completed := by
  have silent : w.writes = none →
      ∀ status, w.writes = some status → status = .completed ∨ s.status ≠ .completed := by
    intro hnone status hsome
    rw [hnone] at hsome
    cases hsome
  have writes : ∀ {status}, w.writes = some status →
      ((status = .completed ∨ s.status ≠ .completed) ↔
        ∀ status, w.writes = some status → status = .completed ∨ s.status ≠ .completed) := by
    intro status hwrites
    rw [hwrites]
    exact ⟨fun hfits _ heq => Option.some.inj heq ▸ hfits, fun hall => hall status rfl⟩
  rw [nextStep]
  split
  · next hphase =>
    split
    · next hcopy =>
      have hwrites : w.writes = some .processing := by
        rw [Worker.writes, hphase]
        exact if_pos hcopy
      rw [settled_setWorker, settled_saveStatus hrec h, writes hwrites]
    · next hcopy =>
      have hnone : w.writes = none := by
        rw [Worker.writes, hphase]
        exact if_neg hcopy
      rw [settled_setWorker]
      exact iff_of_true h (silent hnone)
  · next hphase =>
    rw [settled_setWorker]
    exact iff_of_true h (silent (by rw [Worker.writes, hphase]))
  · next hphase =>
    rw [settled_setWorker]
    exact iff_of_true h (silent (by rw [Worker.writes, hphase]))
  · next hphase =>
    rw [settled_setWorker]
    exact iff_of_true h (silent (by rw [Worker.writes, hphase]))
  · next status hphase =>
    have hwrites : w.writes = some status := by rw [Worker.writes, hphase]
    rw [settled_setWorker, settled_saveStatus hrec h, writes hwrites]
  · next hphase => exact iff_of_true h (silent (by rw [Worker.writes, hphase]))
  · next hphase => exact iff_of_true h (silent (by rw [Worker.writes, hphase]))
  · next hphase => exact iff_of_true h (silent (by rw [Worker.writes, hphase]))

theorem settled_deliver (hrec : Recorded s) (h : Settled s) (outcome : Outcome) :
    Settled { s with history := { s.history with
        delivered := s.history.delivered + if outcome = .ok then 1 else 0 } } ↔
      (outcome = .ok → s.status ≠ .completed ∧
        ∀ j w', s.workers.get? j = some w' → w'.phase ≠ .write .completed) := by
  by_cases hok : outcome = .ok
  · subst hok
    constructor
    · intro hmore _
      have hzero : ¬ 0 < s.history.delivered := by
        have hle : s.history.delivered + 1 ≤ 1 := hmore.delivered
        omega
      rw [hrec.delivered, not_or] at hzero
      exact ⟨fun hstatus => hzero.1 (hrec.known hstatus),
        fun j w' hj hw' => hzero.2 ⟨j, w', hj, hw'⟩⟩
    · intro hfits
      obtain ⟨hstatus, hnone⟩ := hfits rfl
      have hzero : ¬ 0 < s.history.delivered := by
        rw [hrec.delivered]
        rintro (hcompleted | ⟨j, w', hj, hw'⟩)
        · exact hstatus (h.completed hcompleted)
        · exact hnone j w' hj hw'
      refine ⟨h.completed, ?_, h.cancelled⟩
      show s.history.delivered + 1 ≤ 1
      omega
  · rw [if_neg hok]
    exact iff_of_true ⟨h.completed, h.delivered, h.cancelled⟩ fun heq => absurd heq hok

/-- A call keeps the batch settled exactly if it saves no non-final status over a
cancellation. -/
theorem settled_call (h : Settled s) (hi : s.workers.get? i = some w) {caller : Caller}
    {rest : List (Nat × Order)} (hphase : w.phase = .calls caller ((k, o) :: rest))
    (answer : Answer) :
    Settled (callStep s i w ⟨caller, k, answer⟩ o rest) ↔ WriteFits s (.call i answer) := by
  have same : ∀ {w' caller' k' o' rest'}, s.workers.get? i = some w' →
      w'.phase = .calls caller' ((k', o') :: rest') →
      w' = w ∧ caller' = caller ∧ k' = k ∧ o' = o := by
    intro w' caller' k' o' rest' hi' hphase'
    rw [hi] at hi'
    cases hi'
    rw [hphase] at hphase'
    cases hphase'
    exact ⟨rfl, rfl, rfl, rfl⟩
  -- a call that saves nothing meets the condition
  have silent : (∀ places o', Call.outcome w.places o ⟨caller, k, answer⟩ ≠ .ok (places, some o')) →
      WriteFits s (.call i answer) := by
    intro hnone w' caller' k' o' rest' places o'' stored hi' hphase' hout
    obtain ⟨rfl, rfl, rfl, rfl⟩ := same hi' hphase'
    exact absurd hout (hnone places o'')
  rw [callStep]
  split
  · next e hout =>
    rw [settled_setWorker]
    refine iff_of_true h (silent fun places o' hsome => ?_)
    rw [hout] at hsome
    cases hsome
  · next places hout =>
    rw [settled_setWorker]
    refine iff_of_true h (silent fun places' o' hsome => ?_)
    rw [hout] at hsome
    cases hsome
  · next places o' hout =>
    rw [settled_setWorker, settled_saveOrder h hout]
    constructor
    · intro hfits w' caller' k' a' rest' places' o'' stored hi' hphase' hout' hstored hmem
      obtain ⟨rfl, rfl, rfl, rfl⟩ := same hi' hphase'
      rw [hout] at hout'
      cases hout'
      exact hfits stored hstored hmem
    · intro hfits stored hstored hmem
      exact hfits w caller k o rest places o' stored hi hphase hout hstored hmem

/-- **One step** keeps the batch settled exactly if its write fits. -/
theorem settled_step (a : Action) (hrec : Recorded s) (h : Settled s) :
    Settled (step s a) ↔ WriteFits s a := by
  cases a with
  | cycle =>
    refine iff_of_true ?_ trivial
    rw [step]
    split
    · exact h.joins _
    · exact h
  | refresh k =>
    refine iff_of_true ?_ trivial
    rw [step]
    split
    · exact h.joins _
    · exact h
  | cancel k =>
    refine iff_of_true ?_ trivial
    rw [step]
    split
    · split
      · exact h
      · exact h.joins _
    · exact h
  | call i answer =>
    rw [step]
    split
    · next w hi =>
      split
      · next caller k o rest hphase => exact settled_call h hi hphase answer
      · next hphase =>
        refine iff_of_true h fun w' caller k o rest places o' stored hi' hphase' => ?_
        rw [hi] at hi'
        cases hi'
        exact absurd hphase' (hphase caller k o rest)
    · next hi =>
      refine iff_of_true h fun w' caller k o rest places o' stored hi' => ?_
      rw [hi] at hi'
      cases hi'
  | deliver i outcome =>
    have fits : (∀ w, s.workers.get? i = some w → w.phase = .deliver → outcome = .ok →
        s.status ≠ .completed ∧
          ∀ j w', s.workers.get? j = some w' → w'.phase ≠ .write .completed) ↔
        WriteFits s (.deliver i outcome) := by
      cases outcome with
      | ok => exact ⟨fun hall w hi hw => hall w hi hw rfl, fun hall w hi hw _ => hall w hi hw⟩
      | retryable => exact iff_of_true (fun _ _ _ => nofun) trivial
      | permanent => exact iff_of_true (fun _ _ _ => nofun) trivial
    rw [step, ← fits]
    split
    · next w hi =>
      split
      · next hphase =>
        rw [settled_setWorker, settled_deliver hrec h]
        constructor
        · intro hfits w' hi' _
          exact hfits
        · exact fun hall => hall w hi hphase
      · next hphase =>
        refine iff_of_true h fun w' hi' hw' => ?_
        rw [hi] at hi'
        cases hi'
        exact absurd hw' hphase
    · next hi =>
      refine iff_of_true h fun w' hi' => ?_
      rw [hi] at hi'
      cases hi'
  | next i =>
    rw [step]
    split
    · next w hi =>
      rw [settled_nextStep hrec h]
      constructor
      · intro hall w' status hi' hwrites
        rw [hi] at hi'
        cases hi'
        exact hall status hwrites
      · exact fun hfits status hwrites => hfits w status hi hwrites
    · next hi =>
      refine iff_of_true h fun w' status hi' => ?_
      rw [hi] at hi'
      cases hi'

/-! ### Runs -/

/-- A batch nobody works on: one that is COMPLETED was delivered once. -/
def initial (status : BatchStatus) (places : Places) (orders : Table Order) : Store where
  status
  places
  orders
  workers := .empty
  history := if status = .completed then { completed := true, delivered := 1 } else {}

theorem recorded_initial (status : BatchStatus) (places : Places) (orders : Table Order) :
    Recorded (initial status places orders) := by
  by_cases hstatus : status = .completed
  · subst hstatus
    exact ⟨fun _ => rfl, iff_of_true Nat.zero_lt_one (Or.inl rfl)⟩
  · have hhistory : (initial status places orders).history = {} := if_neg hstatus
    refine ⟨fun heq => absurd heq hstatus, ?_⟩
    rw [hhistory]
    refine iff_of_false (Nat.lt_irrefl 0) ?_
    rintro (hcompleted | ⟨i, w, hi, -⟩)
    · cases hcompleted
    · rw [initial, Table.get?_empty] at hi
      cases hi

theorem settled_initial (status : BatchStatus) (places : Places) (orders : Table Order) :
    Settled (initial status places orders) := by
  by_cases hstatus : status = .completed
  · subst hstatus
    exact ⟨fun _ => rfl, Nat.le_refl 1, fun _ => nofun⟩
  · have hhistory : (initial status places orders).history = {} := if_neg hstatus
    refine ⟨?_, ?_, ?_⟩ <;> rw [hhistory]
    · exact nofun
    · exact Nat.zero_le 1
    · exact fun _ => nofun

/-- A batch with a completed order and one that is queued. -/
def twoOrders : Store :=
  initial .processing {}
    (.create (.create .empty { status := .completed }) { status := .queued })

/-- The provider did not answer in time. -/
def unanswered : Answer := .ok (.failure ⟨.timeout, "timed out", none, true, {}, ""⟩)

/-- A poll up to its check of the open order. -/
def pollBy (i : Nat) : List Action :=
  [.cycle, .next i, .next i, .next i, .next i, .next i, .next i]

/-- It ends in a delivery. -/
def deliverBy (i : Nat) : List Action :=
  [.call i unanswered, .next i, .next i, .deliver i .ok, .next i]

end Sda.Robux.Delivery
