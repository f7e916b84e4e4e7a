/-
Sda/Posting/EditQueue.lean

The queue of PlayerAuctions edits (posting/services/pa_edit_queue.py, the callers in
posting/services/offer_editor.py).

An edit of one listing is enqueued as a row; a worker looks at the last start, takes the
oldest QUEUED row when the gap is over, sends the edit and marks the row.  The state
keeps enqueuers between the two statements of `enqueue_pa_edit` and workers between the
statements of `process_next_pa_edit`, so runs interleave any number of both; one that is
not scheduled again has died.  What `_edit_pa_single` does with an offer is the
environment's: it answers, and the edit has landed or not.

* `edits_serialized` — one RUNNING request and starts a gap apart, in every run whose
  takes keep to `TakesAlone`, and in no other;
* `edits_not_serialized` — two workers that look together, and an edit longer than the
  gap.
-/
import Mathlib.Data.List.Sort
import Sda.Lib.Run
import Sda.Lib.Table
import Sda.Lib.Text

namespace Sda.Edit

/-! ### Changes -/

/-- The keys of `changes`. -/
inductive EditField
  | title | description | price
  deriving DecidableEq, Repr

/-- A `Decimal` in fixed-point notation: `coefficient * 10 ^ (-places)`. -/
structure Decimal where
  coefficient : Int
  places : Nat
  deriving DecidableEq, Repr

/-- `format(value, 'f')`. -/
def Decimal.format (d : Decimal) : String :=
  let digits := Nat.toDigits 10 d.coefficient.natAbs
  let digits := List.replicate (d.places + 1 - digits.length) '0' ++ digits
  let whole := digits.take (digits.length - d.places)
  let fraction := digits.drop (digits.length - d.places)
  String.ofList ((if d.coefficient < 0 then ['-'] else []) ++ whole ++
    if d.places = 0 then [] else '.' :: fraction)

example : Decimal.format ⟨3490, 2⟩ = "34.90" := by decide +kernel

/-- The `changes` of a caller. -/
structure EditChanges where
  title : Option String := none
  description : Option String := none
  price : Option Decimal := none
  deriving DecidableEq, Repr

/-- The `changes` column of a request. -/
structure StoredChanges where
  title : Option String := none
  description : Option String := none
  price : Option String := none
  deriving DecidableEq, Repr

/-- `changes.get(field)`. -/
def StoredChanges.get (c : StoredChanges) : EditField → Option String
  | .title => c.title
  | .description => c.description
  | .price => c.price

/-- **`_json_safe_changes`** -/
def jsonSafeChanges (changes : EditChanges) : StoredChanges :=
  { title := changes.title
    description := changes.description
    price := changes.price.map Decimal.format }

/-! ### Requests -/

inductive EditStatus
  | queued | running | succeeded | failed
  deriving DecidableEq, Repr

/-- `PlayerAuctionsEditRequest`. -/
structure EditRequest where
  listing : Nat
  activeOffer : Option Nat := none
  changes : StoredChanges := {}
  status : EditStatus := .queued
  errorMessage : String := ""
  returnedOfferId : String := ""
  createdAt : Nat := 0
  startedAt : Option Nat := none
  finishedAt : Option Nat := none
  deriving DecidableEq, Repr

/-- `status__in=(QUEUED, RUNNING)`. -/
def EditRequest.isOutstanding (r : EditRequest) : Bool :=
  r.status == .queued || r.status == .running

/-- `order_by('created_at')`. -/
def createdOrder (x y : Nat × EditRequest) : Prop :=
  x.2.createdAt ≤ y.2.createdAt

instance : DecidableRel createdOrder := fun x y =>
  inferInstanceAs (Decidable (x.2.createdAt ≤ y.2.createdAt))

/-- `order_by('created_at', 'pk')`. -/
def queueOrder (x y : Nat × EditRequest) : Prop :=
  x.2.createdAt < y.2.createdAt ∨ x.2.createdAt = y.2.createdAt ∧ x.1 ≤ y.1

instance : DecidableRel queueOrder := fun x y =>
  inferInstanceAs (Decidable (x.2.createdAt < y.2.createdAt ∨
    x.2.createdAt = y.2.createdAt ∧ x.1 ≤ y.1))

/-- The request an enqueue of this listing returns without creating one. -/
def outstanding (requests : Table EditRequest) (listing : Nat) : Option (Nat × EditRequest) :=
  ((requests.select fun _ r => r.listing == listing && r.isOutstanding).insertionSort
    createdOrder).head?

/-- The last start of any request. -/
def lastStarted (requests : Table EditRequest) : Option Nat :=
  (requests.rows.filterMap fun r => r.2.startedAt).max?

/-- The request a worker takes when the rows `locked` are locked by others. -/
def nextQueued (locked : List Nat) (requests : Table EditRequest) : Option (Nat × EditRequest) :=
  ((requests.select fun k r => r.status == .queued && !locked.contains k).insertionSort
    queueOrder).head?

/-- `MINIMUM_GAP`, in seconds. -/
def minimumGap : Nat := 60

/-! ### Workers -/

/-- What a worker reads of its request's listing and clone. -/
structure EditView where
  provider : String := "playerauctions"
  activeOfferActive : Bool := true
  deriving DecidableEq, Repr

/-- How `_edit_pa_single` ends; without `ok` the offer may have been changed or not. -/
inductive EditAnswer
  | updated (newOfferId : String)
  | refused (error : String) (landed : Bool)
  | raised (message : String) (landed : Bool)
  deriving DecidableEq, Repr

inductive EditOutcome
  | succeeded (returnedOfferId : String)
  | failed (errorMessage : String)
  deriving DecidableEq, Repr

/-- Whether the worker gets as far as `_edit_pa_single`, with the text of the exception. -/
def checkEdit (request : EditRequest) (view : EditView) : Except String Unit :=
  if view.provider != "playerauctions" then
    .error "Queued listing is not a PlayerAuctions offer"
  else if request.activeOffer.isSome && !view.activeOfferActive then
    .error "Selected PlayerAuctions clone is no longer active"
  else .ok ()

/-- The worker's edit of its request. -/
def editOutcome (request : EditRequest) (view : EditView) (answer : EditAnswer) : EditOutcome :=
  match checkEdit request view with
  | .error message => .failed message
  | .ok () =>
    match answer with
    | .updated newOfferId => .succeeded newOfferId
    | .refused error _ => .failed (if error = "" then "PlayerAuctions update failed" else error)
    | .raised message _ => .failed message

/-- The offer carries the request's changes now. -/
def editLands (request : EditRequest) (view : EditView) (answer : EditAnswer) : Bool :=
  match checkEdit request view with
  | .error _ => false
  | .ok () =>
    match answer with
    | .updated _ => true
    | .refused _ landed => landed
    | .raised _ landed => landed

/-- A worker in `process_next_pa_edit`. -/
inductive EditWorker
  /-- It has read the clock. -/
  | started (now : Nat)
  /-- It has read the last start, and the gap was over. -/
  | looked (now : Nat) (lastStarted : Option Nat)
  /-- Its request is RUNNING. -/
  | running (request : Nat)
  /-- `_edit_pa_single` has ended. -/
  | edited (request : Nat) (outcome : EditOutcome)
  deriving DecidableEq, Repr

/-- An enqueue that returned. -/
structure Accepted where
  listing : Nat
  changes : StoredChanges
  request : Nat
  deriving DecidableEq, Repr

/-- An enqueue that has found no outstanding request. -/
structure Enqueuer where
  listing : Nat
  activeOffer : Option Nat
  changes : StoredChanges
  deriving DecidableEq, Repr

structure EditQueue where
  now : Nat := 0
  requests : Table EditRequest := .empty
  enqueuers : Table Enqueuer := .empty
  workers : Table EditWorker := .empty
  /-- What the offer of a listing carries of the edits. -/
  offers : Nat → EditField → Option String := fun _ _ => none
  /-- The enqueues that returned, the last one first. -/
  accepted : List Accepted := []

inductive EditAction
  | wait (seconds : Nat)
  /-- The first statement of `enqueue_pa_edit`, and its return if there is a request. -/
  | enqueue (listing : Nat) (activeOffer : Option Nat) (changes : EditChanges)
  /-- The second statement. -/
  | create (enqueuer : Nat)
  /-- `now = timezone.now()` in `process_next_pa_edit`. -/
  | start
  /-- It reads the last start. -/
  | look (worker : Nat)
  /-- It takes a request, and commits. -/
  | take (worker : Nat) (locked : List Nat)
  | edit (worker : Nat) (view : EditView) (answer : EditAnswer)
  /-- It marks the request. -/
  | finish (worker : Nat)
  deriving DecidableEq, Repr

/-! ### Steps -/

/-- The request is RUNNING from now on. -/
def EditRequest.begin (r : EditRequest) (now : Nat) : EditRequest :=
  { r with status := .running, startedAt := some now, errorMessage := "" }

/-- The request is marked. -/
def EditRequest.finish (r : EditRequest) (now : Nat) : EditOutcome → EditRequest
  | .succeeded returnedOfferId =>
    { r with status := .succeeded, returnedOfferId, finishedAt := some now }
  | .failed errorMessage =>
    { r with status := .failed, errorMessage := takeChars 2000 errorMessage,
             finishedAt := some now }

/-- The offer of a listing takes over the changes. -/
def applyChanges (offers : Nat → EditField → Option String) (listing : Nat)
    (changes : StoredChanges) : Nat → EditField → Option String := fun l field =>
  if l = listing then (changes.get field).or (offers l field) else offers l field

namespace EditQueue

/-- The worker has returned. -/
def leave (q : EditQueue) (worker : Nat) : EditQueue :=
  { q with workers := q.workers.deleteWhere fun w _ => w == worker }

/-- **`enqueue_pa_edit`**, up to its `create`. -/
def enqueue (q : EditQueue) (listing : Nat) (activeOffer : Option Nat) (changes : EditChanges) :
    EditQueue :=
  match outstanding q.requests listing with
  | some (k, _) =>
    { q with accepted := ⟨listing, jsonSafeChanges changes, k⟩ :: q.accepted }
  | none =>
    { q with enqueuers := q.enqueuers.create ⟨listing, activeOffer, jsonSafeChanges changes⟩ }

/-- `PlayerAuctionsEditRequest.objects.create`. -/
def create (q : EditQueue) (enqueuer : Nat) (e : Enqueuer) : EditQueue :=
  { q with
    requests := q.requests.create
      { listing := e.listing, activeOffer := e.activeOffer, changes := e.changes,
        createdAt := q.now }
    enqueuers := q.enqueuers.deleteWhere fun k _ => k == enqueuer
    accepted := ⟨e.listing, e.changes, q.requests.nextKey⟩ :: q.accepted }

/-- The gap is over, or the worker returns `None`. -/
def look (q : EditQueue) (worker now : Nat) : EditQueue :=
  if (lastStarted q.requests).any fun last => now < last + minimumGap then q.leave worker
  else { q with workers := q.workers.set worker (.looked now (lastStarted q.requests)) }

def take (q : EditQueue) (worker now : Nat) (locked : List Nat) : EditQueue :=
  match nextQueued locked q.requests with
  | none => q.leave worker
  | some (k, r) =>
    { q with
      requests := q.requests.set k (r.begin now)
      workers := q.workers.set worker (.running k) }

def edit (q : EditQueue) (worker k : Nat) (r : EditRequest) (view : EditView)
    (answer : EditAnswer) : EditQueue :=
  { q with
    workers := q.workers.set worker (.edited k (editOutcome r view answer))
    offers :=
      if editLands r view answer then applyChanges q.offers r.listing r.changes else q.offers }

def finish (q : EditQueue) (worker k : Nat) (r : EditRequest) (outcome : EditOutcome) :
    EditQueue :=
  { q.leave worker with requests := q.requests.set k (r.finish q.now outcome) }

end EditQueue

/-- One step of a caller of `enqueue_pa_edit` or of a worker in `process_next_pa_edit`. -/
def editStep (q : EditQueue) : EditAction → EditQueue
  | .wait seconds => { q with now := q.now + seconds }
  | .enqueue listing activeOffer changes => q.enqueue listing activeOffer changes
  | .create enqueuer =>
    match q.enqueuers.get? enqueuer with
    | some e => q.create enqueuer e
    | none => q
  | .start => { q with workers := q.workers.create (.started q.now) }
  | .look worker =>
    match q.workers.get? worker with
    | some (.started now) => q.look worker now
    | _ => q
  | .take worker locked =>
    match q.workers.get? worker with
    | some (.looked now _) => q.take worker now locked
    | _ => q
  | .edit worker view answer =>
    match q.workers.get? worker with
    | some (.running k) =>
      match q.requests.get? k with
      | some r => q.edit worker k r view answer
      | none => q
    | _ => q
  | .finish worker =>
    match q.workers.get? worker with
    | some (.edited k outcome) =>
      match q.requests.get? k with
      | some r => q.finish worker k r outcome
      | none => q
    | _ => q

/-! ### Serialization -/

/-- One request RUNNING, and starts a gap apart. -/
structure Serialized (requests : Table EditRequest) : Prop where
  running : ∀ i j a b, requests.get? i = some a → requests.get? j = some b →
    a.status = .running → b.status = .running → i = j
  apart : ∀ i j a b t u, requests.get? i = some a → requests.get? j = some b → i ≠ j →
    a.startedAt = some t → b.startedAt = some u → t + minimumGap ≤ u ∨ u + minimumGap ≤ t

/-- A worker takes a request only while none is RUNNING, and only a gap away from every start
later than the last one it had looked at. -/
def TakesAlone (q : EditQueue) : EditAction → Prop
  | .take worker locked => ∀ now last, q.workers.get? worker = some (.looked now last) →
      (nextQueued locked q.requests).isSome →
        (∀ k r, q.requests.get? k = some r → r.status ≠ .running) ∧
        ∀ k r t, q.requests.get? k = some r → r.startedAt = some t → (∀ l ∈ last, l < t) →
          t + minimumGap ≤ now ∨ now + minimumGap ≤ t
  | _ => True

variable {q : EditQueue} {requests : Table EditRequest} {k : Nat} {r : EditRequest}
  {locked : List Nat}

theorem nextQueued_spec (h : nextQueued locked requests = some (k, r)) :
    requests.get? k = some r ∧ r.status = .queued := by
  have hin := List.mem_of_mem_head? (Option.mem_def.mpr h)
  have hsel := (List.perm_insertionSort queueOrder _).mem_iff.mp hin
  obtain ⟨hget, hqueued⟩ := Table.mem_select.mp hsel
  rw [Bool.and_eq_true, beq_iff_eq] at hqueued
  exact ⟨hget, hqueued.1⟩

/-- From one table to the next no request starts: an old row keeps its start and is neither
RUNNING nor QUEUED anew, a new row has no start. -/
def StartsNone (requests requests' : Table EditRequest) : Prop :=
  ∀ k b, requests'.get? k = some b → b.startedAt = none ∧ b.status ≠ .running ∨
    ∃ a, requests.get? k = some a ∧ a.startedAt = b.startedAt ∧
      (b.status = .running → a.status = .running) ∧ (b.status = .queued → a.status = .queued)

theorem StartsNone.refl (requests : Table EditRequest) : StartsNone requests requests :=
  fun _ b hb => Or.inr ⟨b, hb, rfl, id, id⟩

theorem startsNone_create (requests : Table EditRequest) (hstart : r.startedAt = none)
    (hstatus : r.status ≠ .running) : StartsNone requests (requests.create r) := by
  intro k b hb
  rw [Table.get?_create] at hb
  split at hb
  · cases hb
    exact Or.inl ⟨hstart, hstatus⟩
  · exact StartsNone.refl requests k b hb

theorem startsNone_finish (now : Nat) (outcome : EditOutcome) (hk : requests.get? k = some r) :
    StartsNone requests (requests.set k (r.finish now outcome)) := by
  intro j b hb
  rw [Table.get?_set hk] at hb
  split at hb
  · next hj =>
    subst hj
    cases hb
    right
    refine ⟨r, hk, ?_, ?_, ?_⟩
    · cases outcome <;> rfl
    · cases outcome <;> exact nofun
    · cases outcome <;> exact nofun
  · exact StartsNone.refl requests j b hb

theorem Serialized.of_startsNone {requests' : Table EditRequest} (h : Serialized requests)
    (hrows : StartsNone requests requests') : Serialized requests' := by
  constructor
  · intro i j a b ha hb hra hrb
    rcases hrows i a ha with ⟨-, hno⟩ | ⟨a', ha', -, hra', -⟩
    · exact absurd hra hno
    rcases hrows j b hb with ⟨-, hno⟩ | ⟨b', hb', -, hrb', -⟩
    · exact absurd hrb hno
    exact h.running i j a' b' ha' hb' (hra' hra) (hrb' hrb)
  · intro i j a b t u ha hb hij ht hu
    rcases hrows i a ha with ⟨hno, -⟩ | ⟨a', ha', hta, -⟩
    · rw [hno] at ht
      cases ht
    rcases hrows j b hb with ⟨hno, -⟩ | ⟨b', hb', hub, -⟩
    · rw [hno] at hu
      cases hu
    exact h.apart i j a' b' t u ha' hb' hij (hta.trans ht) (hub.trans hu)

/-- **What a step does to the requests**: a take starts one, the other steps none. -/
theorem requests_step (q : EditQueue) (a : EditAction) :
    (∃ worker locked now last k r, a = .take worker locked ∧
        q.workers.get? worker = some (.looked now last) ∧
        nextQueued locked q.requests = some (k, r) ∧
        (editStep q a).requests = q.requests.set k (r.begin now)) ∨
      (∀ worker locked now last, a = .take worker locked →
        q.workers.get? worker = some (.looked now last) → nextQueued locked q.requests = none) ∧
      StartsNone q.requests (editStep q a).requests := by
  have hidle : ∀ {requests'}, StartsNone q.requests requests' →
      (∀ worker locked, a ≠ .take worker locked) →
        (∀ worker locked now last, a = .take worker locked →
          q.workers.get? worker = some (.looked now last) →
          nextQueued locked q.requests = none) ∧
        StartsNone q.requests requests' :=
    fun h hne => ⟨fun worker locked _ _ ha => absurd ha (hne worker locked), h⟩
  cases a with
  | wait seconds => exact Or.inr (hidle (StartsNone.refl _) nofun)
  | enqueue listing activeOffer changes =>
    right
    rw [editStep, EditQueue.enqueue]
    split <;> exact hidle (StartsNone.refl _) nofun
  | create enqueuer =>
    right
    rw [editStep]
    split
    · exact hidle (startsNone_create _ rfl nofun) nofun
    · exact hidle (StartsNone.refl _) nofun
  | start => exact Or.inr (hidle (StartsNone.refl _) nofun)
  | look worker =>
    right
    rw [editStep]
    split
    · rw [EditQueue.look]
      split <;> exact hidle (StartsNone.refl _) nofun
    · exact hidle (StartsNone.refl _) nofun
  | take worker locked =>
    rw [editStep]
    split
    · next now last hw =>
      rw [EditQueue.take]
      split
      · next hnext =>
        refine Or.inr ⟨?_, StartsNone.refl _⟩
        rintro _ _ _ _ ⟨⟩ -
        exact hnext
      · next k r hnext => exact Or.inl ⟨worker, locked, now, last, k, r, rfl, hw, hnext, rfl⟩
    · next hno =>
      refine Or.inr ⟨?_, StartsNone.refl _⟩
      rintro _ _ now last ⟨⟩ hw
      exact absurd hw (hno now last)
  | edit worker view answer =>
    right
    rw [editStep]
    split
    · split <;> exact hidle (StartsNone.refl _) nofun
    · exact hidle (StartsNone.refl _) nofun
  | finish worker =>
    right
    rw [editStep]
    split
    · split
      · next r hr => exact hidle (startsNone_finish _ _ hr) nofun
      · exact hidle (StartsNone.refl _) nofun
    · exact hidle (StartsNone.refl _) nofun

/-- **A take** keeps the requests serialized exactly when it is alone. -/
theorem serialized_take {now : Nat} (h : Serialized requests)
    (hk : requests.get? k = some r) (hqueued : r.status = .queued) :
    Serialized (requests.set k (r.begin now)) ↔
      (∀ j b, requests.get? j = some b → b.status ≠ .running) ∧
      ∀ j b t, requests.get? j = some b → j ≠ k → b.startedAt = some t →
        t + minimumGap ≤ now ∨ now + minimumGap ≤ t := by
  have hnew : (requests.set k (r.begin now)).get? k = some (r.begin now) := Table.get?_set_self hk
  have hold : ∀ {j b}, j ≠ k → requests.get? j = some b →
      (requests.set k (r.begin now)).get? j = some b := by
    intro j b hj hb
    rw [Table.get?_set_ne hj]
    exact hb
  constructor
  · intro h'
    refine ⟨fun j b hb hrunning => ?_, fun j b t hb hj ht => ?_⟩
    · have hj : j ≠ k := by
        rintro rfl
        rw [hk] at hb
        cases hb
        rw [hqueued] at hrunning
        cases hrunning
      exact hj (h'.running j k b _ (hold hj hb) hnew hrunning rfl)
    · exact h'.apart j k b _ t now (hold hj hb) hnew hj ht rfl
  · rintro ⟨hnone, hgap⟩
    constructor
    · intro i j a b ha hb hra hrb
      by_cases hi : i = k
      · by_cases hj : j = k
        · rw [hi, hj]
        · rw [Table.get?_set_ne hj] at hb
          exact absurd hrb (hnone j b hb)
      · rw [Table.get?_set_ne hi] at ha
        exact absurd hra (hnone i a ha)
    · intro i j a b t u ha hb hij ht hu
      by_cases hi : i = k
      · subst hi
        have hj : j ≠ i := fun heq => hij heq.symm
        rw [hnew] at ha
        cases ha
        cases ht
        rw [Table.get?_set_ne hj] at hb
        exact (hgap j b u hb hj hu).symm
      · rw [Table.get?_set_ne hi] at ha
        by_cases hj : j = k
        · subst hj
          rw [hnew] at hb
          cases hb
          cases hu
          exact hgap i a t ha hi ht
        · rw [Table.get?_set_ne hj] at hb
          exact h.apart i j a b t u ha hb hij ht hu

/-! ### Runs -/

/-- A QUEUED request has no start, and a worker that has looked found the gap over. -/
structure EditsWait (q : EditQueue) : Prop where
  queued : ∀ k r, q.requests.get? k = some r → r.status = .queued → r.startedAt = none
  looked : ∀ w now last, q.workers.get? w = some (.looked now (some last)) →
    last + minimumGap ≤ now

/-- The workers of the next state that have looked had done so before, or do it now. -/
theorem workers_step {w : Nat} {now : Nat} {last : Option Nat} (a : EditAction)
    (h : (editStep q a).workers.get? w = some (.looked now last)) :
    q.workers.get? w = some (.looked now last) ∨ ∀ l ∈ last, l + minimumGap ≤ now := by
  have hleave : ∀ {q' : EditQueue} {worker : Nat},
      (q'.leave worker).workers.get? w = some (.looked now last) →
        q'.workers.get? w = some (.looked now last) := fun h => (Table.get?_deleteWhere.mp h).1
  have hset : ∀ {worker : Nat} {x : EditWorker}, q.workers.get? worker ≠ none →
      (q.workers.set worker x).get? w = some (.looked now last) →
        x = .looked now last ∨ q.workers.get? w = some (.looked now last) := by
    intro worker x hsome h
    obtain ⟨y, hy⟩ := Option.ne_none_iff_exists'.mp hsome
    rw [Table.get?_set hy] at h
    split at h
    · exact Or.inl (Option.some.inj h)
    · exact Or.inr h
  cases a with
  | wait seconds => exact Or.inl h
  | enqueue listing activeOffer changes =>
    rw [editStep, EditQueue.enqueue] at h
    split at h <;> exact Or.inl h
  | create enqueuer =>
    rw [editStep] at h
    split at h <;> exact Or.inl h
  | start =>
    rw [editStep, Table.get?_create] at h
    split at h
    · cases h
    · exact Or.inl h
  | look worker =>
    rw [editStep] at h
    split at h
    · next now' hw =>
      rw [EditQueue.look] at h
      split at h
      · exact Or.inl (hleave h)
      · next hgap =>
        rcases hset (by rw [hw]; exact nofun) h with heq | h
        · cases heq
          right
          intro l hl
          rw [Option.mem_def.mp hl, Option.any_some, decide_eq_true_eq] at hgap
          omega
        · exact Or.inl h
    · exact Or.inl h
  | take worker locked =>
    rw [editStep] at h
    split at h
    · next hw =>
      rw [EditQueue.take] at h
      split at h
      · exact Or.inl (hleave h)
      · exact Or.inl ((hset (by rw [hw]; exact nofun) h).resolve_left nofun)
    · exact Or.inl h
  | edit worker view answer =>
    rw [editStep] at h
    split at h
    · next hw =>
      split at h
      · exact Or.inl ((hset (by rw [hw]; exact nofun) h).resolve_left nofun)
      · exact Or.inl h
    · exact Or.inl h
  | finish worker =>
    rw [editStep] at h
    split at h
    · split at h
      · exact Or.inl (hleave h)
      · exact Or.inl h
    · exact Or.inl h

theorem editsWait_step (q : EditQueue) (a : EditAction) (h : EditsWait q) :
    EditsWait (editStep q a) := by
  constructor
  · intro j b hb hqueued
    rcases requests_step q a with ⟨worker, locked, now, last, k, r, -, -, hnext, heq⟩ | ⟨-, hnone⟩
    · rw [heq, Table.get?_set (nextQueued_spec hnext).1] at hb
      split at hb
      · cases hb
        cases hqueued
      · exact h.queued j b hb hqueued
    · rcases hnone j b hb with ⟨hstart, -⟩ | ⟨c, hc, hstart, -, hq⟩
      · exact hstart
      · rw [← hstart]
        exact h.queued j c hc (hq hqueued)
  · intro w now last hw
    rcases workers_step a hw with hold | hgap
    · exact h.looked w now last hold
    · exact hgap last rfl

/-- One step from serialized requests keeps them so exactly when it takes alone. -/
theorem serialized_step (q : EditQueue) (a : EditAction) (hwait : EditsWait q)
    (h : Serialized q.requests) : Serialized (editStep q a).requests ↔ TakesAlone q a := by
  rcases requests_step q a with ⟨worker, locked, now, last, k, r, rfl, hw, hnext, heq⟩ |
    ⟨htakes, hnone⟩
  · obtain ⟨hk, hqueued⟩ := nextQueued_spec hnext
    rw [heq, serialized_take h hk hqueued]
    constructor
    · rintro ⟨hrunning, hgap⟩ now' last' hw' -
      rw [hw] at hw'
      cases hw'
      refine ⟨hrunning, fun j b t hb ht _ => hgap j b t hb ?_ ht⟩
      -- the request that is taken has no start yet
      rintro rfl
      rw [hk] at hb
      cases hb
      rw [hwait.queued j r hk hqueued] at ht
      cases ht
    · intro hfits
      obtain ⟨hrunning, hgap⟩ := hfits now last hw (by rw [hnext]; rfl)
      refine ⟨hrunning, fun j b t hb _ ht => ?_⟩
      by_cases hlate : ∀ l ∈ last, l < t
      · exact hgap j b t hb ht hlate
      · -- a start up to the one the worker looked at
        push Not at hlate
        obtain ⟨l, hl, hle⟩ := hlate
        rw [Option.mem_def.mp hl] at hw
        have := hwait.looked worker now l hw
        omega
  · refine iff_of_true (h.of_startsNone hnone) ?_
    cases a with
    | take worker locked =>
      intro now last hw hsome
      rw [htakes worker locked now last rfl hw] at hsome
      cases hsome
    | _ => trivial

theorem editsWait_start : EditsWait {} :=
  ⟨nofun, nofun⟩

theorem serialized_start : Serialized .empty := by
  constructor
  · intro i j a b ha
    rw [Table.get?_empty] at ha
    cases ha
  · intro i j a b t u ha
    rw [Table.get?_empty] at ha
    cases ha

/-- **Serialization of the edits.**  However enqueues and workers interleave, no two requests
are ever RUNNING and all starts are a gap apart, exactly when every take finds none RUNNING and
is a gap away from every start later than the one its worker had looked at. -/
theorem edits_serialized (es : List EditAction) :
    Always editStep (fun q => Serialized q.requests) {} es ↔ Along editStep TakesAlone {} es :=
  always_iff_along (I := EditsWait) editsWait_step serialized_step editsWait_start
    serialized_start es

/-- Two requests; two workers look before either takes. -/
def lookTogether : List EditAction :=
  [.enqueue 1 none {}, .create 0, .enqueue 2 none {}, .create 0, .start, .start, .look 0, .look 1,
    .take 0 [], .take 1 []]

/-- Two requests; the edit of the first takes longer than the gap. -/
def longEdit : List EditAction :=
  [.enqueue 1 none {}, .create 0, .enqueue 2 none {}, .create 0, .start, .look 0, .take 0 [],
    .wait 60, .start, .look 1, .take 1 []]

/-- Workers that look together start at once, and an edit beyond the gap leaves two RUNNING. -/
theorem edits_not_serialized :
    ¬ Always editStep (fun q => Serialized q.requests) {} lookTogether ∧
      ¬ Always editStep (fun q => Serialized q.requests) {} longEdit := by
  constructor
  · intro h
    exact absurd (h.last.apart 0 1 _ _ 0 0 rfl rfl (by decide) rfl rfl) (by decide)
  · intro h
    exact absurd (h.last.running 0 1 _ _ rfl rfl rfl rfl) (by decide)

end Sda.Edit
