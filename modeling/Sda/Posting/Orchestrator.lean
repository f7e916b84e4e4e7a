/-
Sda/Posting/Orchestrator.lean

The orchestrator of a stock posting job (services/stock/orchestrator.py: `execute`,
`_produce`, `_fail_remaining_items`, `_finalize_job`).

`execute` groups the pending items by store and by login, starts a consumer per store,
prepares each login once and puts its items on the queues of their stores, puts a
sentinel on every queue, joins the consumers, and finalizes the job.  It is a plan of
`Sda.Lib.ForkJoin`: the sentinels are the last thing `_produce` does, outside any
`finally`, and `ThreadPoolExecutor.__exit__` waits for the consumers.

* `execute_ends` — on every schedule `execute` returns with every sentinel sent, every
  consumer stopped and every item in a terminal status, if and only if no call raises
  that `_produce` makes outside a handler; consumers and `_prepare_once` may raise
  anywhere;
* `producer_raises` — otherwise `execute` is over only if every consumer may crash;
* `lost_status` — a job whose first status check raises: nothing can step any more.
-/
import Sda.Lib.ForkJoinRuns
import Sda.Posting.StoreConsumers

namespace Sda.Stock

open Prog ForkJoin

/-! ### What the main thread meets -/

/-- How `StockResolver.resolve` fails. -/
inductive ResolveFailure
  | dataMissing
  | other
  deriving DecidableEq, Repr

/-- The answer of `_prepare_once` with `ok: False`. -/
structure PrepareFailure where
  stage : String := "prepare_once"
  error : String
  category : String
  deriving DecidableEq, Repr

/-- What the producer meets on one login. -/
structure LoginAnswers where
  /-- `_is_cancelled`. -/
  cancelled : Except PyError Bool := .ok false
  resolve : Except ResolveFailure StockProduct := .error .dataMissing
  /-- The log of a login that is not found. -/
  resolveLog : Except PyError Unit := .ok ()
  /-- The pipeline in `_prepare_once`, the fetches before it included. -/
  prepare : Except PyError (Except PrepareFailure Unit) := .ok (.ok ())
  release : Except PyError Unit := .ok ()

/-- What the producer meets on one item. -/
structure ProducedAnswers where
  /-- The save of the product that was resolved. -/
  assigned : Except PyError Unit := .ok ()
  /-- The save of FAILED in `_resolve_items`. -/
  unresolved : Except PyError Unit := .ok ()
  /-- The save in `_skip_items` and after `_prepare_once`. -/
  save : Except PyError Unit := .ok ()
  /-- `PostingLog.objects.create`. -/
  log : Except PyError Unit := .ok ()

/-- What `execute` meets outside the producer and the consumers. -/
structure HouseAnswers where
  /-- Everything before the items are grouped. -/
  setup : Except PyError Unit := .ok ()
  /-- The choice of a consumer and `pool.submit`. -/
  submit : Nat → Except PyError Unit := fun _ => .ok ()
  /-- The save and the log of one item in `_fail_remaining_items`. -/
  failSave : Nat → Except PyError Unit := fun _ => .ok ()
  failLog : Nat → Except PyError Unit := fun _ => .ok ()
  /-- The release of the items that were PROCESSING. -/
  releaseUnknown : Except PyError Unit := .ok ()
  /-- The release of the items that were PENDING. -/
  releaseAbsent : Except PyError Unit := .ok ()
  /-- The queries of `_finalize_job`. -/
  orphans : Except PyError Unit := .ok ()
  /-- The refresh of the status: has the job been cancelled? -/
  wasCancelled : Except PyError Bool := .ok false
  saveJob : Except PyError Unit := .ok ()

/-- A posting job that was found, and what the run of `execute` on it meets. -/
structure JobRun where
  /-- `job.items`. -/
  items : List JobItem
  /-- The statuses of the rows when the items are loaded. -/
  status : Nat → ItemStatus := fun _ => .pending
  settings : StockSettings := {}
  login : String → LoginAnswers := fun _ => {}
  produced : Nat → ProducedAnswers := fun _ => {}
  store : Nat → StoreAnswers := fun _ => {}
  house : HouseAnswers := {}

/-! ### The producer -/

/-- The code of the producer. -/
abbrev Producing (α : Type) := Prog PyError (List (Send Nat JobItem Action)) α

/-- `_needs_lzt_enrich`. -/
def needsLztEnrich (o : StockProduct) : Bool :=
  match o.rawData with
  | .empty => true
  | .manual => false
  | _ => o.source.any (· != .lzt)

/-- Is the login looked up? -/
def needsResolve (first : JobItem) : Bool :=
  first.ownedProduct.all needsLztEnrich

/-- `first_item.owned_product` after the lookup. -/
def productOf (l : LoginAnswers) (first : JobItem) : Option StockProduct :=
  match needsResolve first, l.resolve with
  | true, .ok product => some product
  | _, _ => first.ownedProduct

/-- `_prepare_once`: every exception inside becomes an answer. -/
def prepareOnce (l : LoginAnswers) (o : StockProduct) : Except PrepareFailure Unit :=
  if o.rawData = .empty then
    .error { error := "raw_data is empty", category := "data_missing" }
  else if o.rawData = .other ∧ o.source.getD .lzt ≠ .lzt then
    .error
      { error := "Source is not supported for stock posting", category := "source_unsupported" }
  else
    match l.prepare with
    | .ok answer => answer
    | .error e => .error { error := e.str, category := "unexpected" }

/-- An assignment of the status by the producer, and the save after it. -/
def produceStatus (i : Nat) (status : ItemStatus) (saved : Except PyError Unit) :
    Producing Unit := do
  emit (.act (.assign i status))
  known saved
  emit (.act (.save i))

section Producer

variable (r : JobRun)

/-- `_skip_items`: the items of a login are PENDING until the login is produced. -/
def skipItems (l : LoginAnswers) (items : List JobItem) : Producing Unit := do
  each items fun i => produceStatus i.id .skipped (r.produced i.id).save
  known l.release

/-- The handlers of `_resolve_items`. -/
def failUnresolved (items : List JobItem) : Producing Unit :=
  each items fun i => produceStatus i.id .failed (r.produced i.id).unresolved

/-- `_resolve_items`. -/
def resolveItems (l : LoginAnswers) (items : List JobItem) : Producing Unit :=
  match l.resolve with
  | .ok _ =>
    catching (each items fun i => known (r.produced i.id).assigned) fun _ =>
      failUnresolved r items
  | .error .dataMissing => do
    failUnresolved r items
    known l.resolveLog
  | .error .other => failUnresolved r items

/-- The items of a login that was not prepared. -/
def failPrepared (l : LoginAnswers) (items : List JobItem) (f : PrepareFailure) :
    Producing Unit := do
  each items fun i => do
    produceStatus i.id (if f.category = "source_unsupported" then .skipped else .failed)
      (r.produced i.id).save
    known (r.produced i.id).log
  known l.release

/-- The items that `execute` loads. -/
def JobRun.pending : List JobItem :=
  r.items.filter fun i => r.status i.id = .pending

/-- The keys of `store_groups`. -/
def JobRun.stores : List Nat :=
  (r.pending.map JobItem.store).eraseDups

/-- The keys of `login_items`. -/
def JobRun.logins : List String :=
  (r.pending.map JobItem.login).eraseDups

def JobRun.storeItems (k : Nat) : List JobItem :=
  r.pending.filter fun i => i.store = k

def JobRun.loginItems (login : String) : List JobItem :=
  r.pending.filter fun i => i.login = login

/-- The entries of a prepared login. -/
def putItems (items : List JobItem) : Producing Unit :=
  each items fun i =>
    if i.store ∈ r.stores then
      emit (.put i.store i)
    else
      pure ()

/-- The login is prepared once for all its items. -/
def prepareItems (l : LoginAnswers) (items : List JobItem) (first : JobItem) : Producing Unit :=
  match productOf l first with
  | none => pure ()
  | some product =>
    match prepareOnce l product with
    | .error f => failPrepared r l items f
    | .ok () => putItems r items

/-- The body of the loop of `_produce`. -/
def produceLogin (login : String) : Producing Unit :=
  match r.loginItems login with
  | [] => pure ()
  | first :: rest => do
    if ← known (r.login login).cancelled then
      skipItems r (r.login login) (first :: rest)
    else if needsResolve first then
      resolveItems r (r.login login) (first :: rest)
      prepareItems r (r.login login) (first :: rest) first
    else
      prepareItems r (r.login login) (first :: rest) first

/-- **`_produce`**. -/
def produce : Producing Unit := do
  each r.logins (produceLogin r)
  each r.stores fun k => emit (.close k)

/-! ### After the block -/

/-- The body of the loop of `_fail_remaining_items`. -/
def failOpenItem (b : Board) (i : JobItem) : Code Unit :=
  if (b.memory i.id).isOpen then do
    setStatus i.id .failed (r.house.failSave i.id)
    known (r.house.failLog i.id)
  else
    pure ()

/-- A release that is made when there are products for it. -/
def releaseIf (some : Bool) (release : Except PyError Unit) : Code Unit :=
  if some then known release else pure ()

/-- **`_fail_remaining_items`**. -/
def failRemaining (items : List JobItem) (b : Board) : Code Unit := do
  each items (failOpenItem r b)
  releaseIf (items.any fun i => b.memory i.id = .processing) r.house.releaseUnknown
  releaseIf (items.any fun i => b.memory i.id = .pending) r.house.releaseAbsent

/-- **`_finalize_job`**. -/
def finalizeJob (b : Board) : Code Unit := do
  known r.house.orphans
  emit (.failOrphans (r.items.map JobItem.id))
  releaseIf (r.items.any fun i => b.stored i.id = .processing) r.house.releaseUnknown
  releaseIf (r.items.any fun i => b.stored i.id = .pending) r.house.releaseAbsent
  let cancelled ← known r.house.wasCancelled
  known r.house.saveJob
  emit (.closeJob (r.items.map JobItem.id) cancelled)

/-! ### The job -/

/-- Does the consumer of the store run `consume_store_pa`? -/
def usesBulk (k : Nat) : Bool :=
  ((r.storeItems k).head?.any fun i => i.marketplace == .playerauctions) && !r.settings.paSingle k

def plan : Plan Nat JobItem Action PyError Local Board where
  keys := r.stores
  act := act
  submit := r.house.submit
  produce := workOf (produce r)
  start k := workOf (start r.settings (r.store k) (usesBulk r k))
  receive k l i := workOf (receive r.settings (r.store k) l i)
  finish k l := workOf (finish r.settings (r.store k) l)
  recover k b := workOf (failRemaining r (r.storeItems k) b)
  after b := workOf (finalizeJob r b)

/-- The states of a job that is executed. -/
abbrev Run := State Nat JobItem Action PyError Local Board

def board : Board where
  memory := r.status
  stored := r.status

/-- **`execute`** at its beginning. -/
def execute : Run :=
  match r.house.setup with
  | .error e => { shared := board r, main := .finished (.error e) }
  | .ok () =>
    if r.pending.isEmpty then
      skipping (plan r) (board r)
    else
      opening (plan r) (board r)

end Producer

/-! ### When the producer raises nothing -/

section Quiet

variable (r : JobRun)

/-- No call of `_resolve_items` raises that it does not handle. -/
def ResolveQuiet (l : LoginAnswers) (items : List JobItem) : Prop :=
  match l.resolve with
  | .ok _ =>
    (∀ i ∈ items, (r.produced i.id).assigned.isOk = true) ∨
      ∀ i ∈ items, (r.produced i.id).unresolved.isOk = true
  | .error .dataMissing =>
    (∀ i ∈ items, (r.produced i.id).unresolved.isOk = true) ∧ l.resolveLog.isOk = true
  | .error .other => ∀ i ∈ items, (r.produced i.id).unresolved.isOk = true

/-- No save, log or release raises for a login that is not prepared. -/
def PrepareQuiet (l : LoginAnswers) (items : List JobItem) (first : JobItem) : Prop :=
  match productOf l first with
  | none => True
  | some product =>
    match prepareOnce l product with
    | .error _ =>
      (∀ i ∈ items, (r.produced i.id).save.isOk = true ∧ (r.produced i.id).log.isOk = true) ∧
        l.release.isOk = true
    | .ok () => True

/-- No call for this login raises outside a handler. -/
def LoginQuiet (login : String) : Prop :=
  match r.loginItems login with
  | [] => True
  | first :: rest =>
    match (r.login login).cancelled with
    | .error _ => False
    | .ok true =>
      (∀ i ∈ first :: rest, (r.produced i.id).save.isOk = true) ∧
        (r.login login).release.isOk = true
    | .ok false =>
      (needsResolve first = true → ResolveQuiet r (r.login login) (first :: rest)) ∧
        PrepareQuiet r (r.login login) (first :: rest) first

/-- No call of `_produce` raises outside a handler. -/
def ProducerQuiet : Prop :=
  ∀ login ∈ r.logins, LoginQuiet r login

end Quiet

section Returns

variable {r : JobRun} {l : LoginAnswers} {items : List JobItem} {first : JobItem}

theorem returns_emit {A : Type} (x : A) : Returns (emit x : Prog PyError (List A) Unit) True :=
  Returns.change _

theorem returns_produceStatus (i : Nat) (status : ItemStatus) (saved : Except PyError Unit) :
    Returns (produceStatus i status saved) (saved.isOk = true) := by
  apply Returns.congr ((returns_emit _).bind fun _ => (Returns.known saved).bind fun _ =>
    returns_emit _)
  simp

theorem returns_skipItems :
    Returns (skipItems r l items)
      ((∀ i ∈ items, (r.produced i.id).save.isOk = true) ∧ l.release.isOk = true) :=
  (Returns.each fun i _ => returns_produceStatus i.id _ _).bind fun _ => Returns.known _

theorem returns_failUnresolved :
    Returns (failUnresolved r items) (∀ i ∈ items, (r.produced i.id).unresolved.isOk = true) :=
  Returns.each fun i _ => returns_produceStatus i.id _ _

theorem returns_resolveItems : Returns (resolveItems r l items) (ResolveQuiet r l items) := by
  unfold resolveItems ResolveQuiet
  rcases l.resolve with (- | -) | product
  · exact returns_failUnresolved.bind fun _ => Returns.known _
  · exact returns_failUnresolved
  · exact (Returns.each fun i _ => Returns.known _).catching fun _ => returns_failUnresolved

theorem returns_failPrepared (f : PrepareFailure) :
    Returns (failPrepared r l items f)
      ((∀ i ∈ items, (r.produced i.id).save.isOk = true ∧ (r.produced i.id).log.isOk = true) ∧
        l.release.isOk = true) :=
  (Returns.each fun i _ => (returns_produceStatus i.id _ _).bind fun _ =>
    Returns.known _).bind fun _ => Returns.known _

theorem returns_putItems : Returns (putItems r items) True := by
  apply Returns.congr (Returns.each fun i _ => (returns_emit _).ite (Returns.pure ()))
  simp

theorem returns_prepareItems :
    Returns (prepareItems r l items first) (PrepareQuiet r l items first) := by
  unfold prepareItems PrepareQuiet
  rcases productOf l first with - | product
  · exact Returns.pure ()
  · rcases hprepare : prepareOnce l product with f | u
    · simp only [hprepare]
      exact returns_failPrepared f
    · simp only [hprepare]
      exact returns_putItems

theorem returns_produceLogin (login : String) :
    Returns (produceLogin r login) (LoginQuiet r login) := by
  unfold produceLogin LoginQuiet
  rcases r.loginItems login with - | ⟨first, rest⟩
  · exact Returns.pure ()
  · apply Returns.congr (Returns.known_bind fun cancelled =>
      returns_skipItems.ite ((returns_resolveItems.bind fun _ => returns_prepareItems).ite
        returns_prepareItems))
    rcases (r.login login).cancelled with e | (- | -)
    · simp
    · by_cases hneeds : needsResolve first = true <;> simp [hneeds]
    · simp

/-- `_produce` returns exactly when none of its calls raises outside a handler. -/
theorem returns_produce : Returns (produce r) (ProducerQuiet r) := by
  apply Returns.congr ((Returns.each fun login _ => returns_produceLogin login).bind fun _ =>
    Returns.each fun k _ => returns_emit _)
  simp [ProducerQuiet]

end Returns

/-! ### The sentinels -/

section Sentinels

variable {r : JobRun} {l : LoginAnswers} {items : List JobItem} {first : JobItem}

/-- No sentinel so far. -/
def Unclosed (sends : List (Send Nat JobItem Action)) : Prop :=
  ∀ k, Send.close k ∉ sends

/-- The code puts no sentinel, whichever way it ends. -/
abbrev KeepsOpen {α : Type} (c : Producing α) : Prop :=
  Within (fun sends sends' => Unclosed sends → Unclosed sends') c

theorem open_trans (sends sends' sends'' : List (Send Nat JobItem Action))
    (h : Unclosed sends → Unclosed sends') (h' : Unclosed sends' → Unclosed sends'') :
    Unclosed sends → Unclosed sends'' :=
  fun hsends => h' (h hsends)

theorem keepsOpen_known {α : Type} (x : Except PyError α) : KeepsOpen (known x) :=
  Within.known (fun _ h => h) x

theorem keepsOpen_pure : KeepsOpen (pure ()) :=
  Within.pure (fun _ h => h) ()

theorem keepsOpen_act (action : Action) : KeepsOpen (emit (.act action)) := by
  intro sends h k hk
  have hmem : Send.close k ∈ sends ++ [.act action] := hk
  simp [h k] at hmem

theorem keepsOpen_put (k : Nat) (i : JobItem) : KeepsOpen (emit (.put k i)) := by
  intro sends h j hj
  have hmem : Send.close j ∈ sends ++ [.put k i] := hj
  simp [h j] at hmem

theorem keepsOpen_bind {α β : Type} {c : Producing α} {f : α → Producing β} (hc : KeepsOpen c)
    (hf : ∀ x, KeepsOpen (f x)) : KeepsOpen (c >>= f) :=
  Within.bind open_trans hc hf

theorem keepsOpen_each {β : Type} {f : β → Producing Unit} (h : ∀ x, KeepsOpen (f x))
    (xs : List β) : KeepsOpen (each xs f) :=
  Within.each (fun _ h => h) open_trans fun x _ => h x

theorem keepsOpen_produceStatus (i : Nat) (status : ItemStatus) (saved : Except PyError Unit) :
    KeepsOpen (produceStatus i status saved) := by
  apply keepsOpen_bind (keepsOpen_act _)
  intro _
  apply keepsOpen_bind (keepsOpen_known saved)
  intro _
  exact keepsOpen_act _

theorem keepsOpen_skipItems : KeepsOpen (skipItems r l items) := by
  apply keepsOpen_bind (keepsOpen_each (fun i => keepsOpen_produceStatus _ _ _) items)
  intro _
  exact keepsOpen_known _

theorem keepsOpen_failUnresolved : KeepsOpen (failUnresolved r items) :=
  keepsOpen_each (fun _ => keepsOpen_produceStatus _ _ _) items

theorem keepsOpen_resolveItems : KeepsOpen (resolveItems r l items) := by
  unfold resolveItems
  rcases l.resolve with (- | -) | product
  · exact keepsOpen_bind keepsOpen_failUnresolved fun _ => keepsOpen_known _
  · exact keepsOpen_failUnresolved
  · exact Within.catching open_trans (keepsOpen_each (fun _ => keepsOpen_known _) items)
      fun _ => keepsOpen_failUnresolved

theorem keepsOpen_failPrepared (f : PrepareFailure) : KeepsOpen (failPrepared r l items f) := by
  apply keepsOpen_bind (keepsOpen_each _ items) fun _ => keepsOpen_known _
  intro i
  exact keepsOpen_bind (keepsOpen_produceStatus _ _ _) fun _ => keepsOpen_known _

theorem keepsOpen_putItems : KeepsOpen (putItems r items) := by
  apply keepsOpen_each
  intro i
  exact Within.ite (keepsOpen_put i.store i) keepsOpen_pure

theorem keepsOpen_prepareItems : KeepsOpen (prepareItems r l items first) := by
  unfold prepareItems
  rcases productOf l first with - | product
  · exact keepsOpen_pure
  · rcases hprepare : prepareOnce l product with f | u
    · simp only [hprepare]
      exact keepsOpen_failPrepared f
    · simp only [hprepare]
      exact keepsOpen_putItems

theorem keepsOpen_produceLogin (login : String) : KeepsOpen (produceLogin r login) := by
  unfold produceLogin
  rcases r.loginItems login with - | ⟨first, rest⟩
  · exact keepsOpen_pure
  · apply keepsOpen_bind (keepsOpen_known _)
    intro cancelled
    apply Within.ite keepsOpen_skipItems
    apply Within.ite
    · exact keepsOpen_bind keepsOpen_resolveItems fun _ => keepsOpen_prepareItems
    · exact keepsOpen_prepareItems

/-- The sentinels come after the last login, and only then. -/
theorem exec_produce :
    exec (produce r) [] =
      match exec (each r.logins (produceLogin r)) [] with
      | (.ok (), sends) => (.ok (), sends ++ r.stores.map .close)
      | (.error e, sends) => (.error e, sends) := by
  unfold produce
  rw [exec_bind]
  rcases exec (each r.logins (produceLogin r)) [] with ⟨e | u, sends⟩
  · rfl
  · exact exec_each_emit _ _ _

/-- A producer that returns has put every sentinel. -/
theorem close_mem_produce (h : (workOf (produce r)).result = .ok ()) {k : Nat}
    (hk : k ∈ r.stores) : Send.close k ∈ (workOf (produce r)).todo := by
  simp only [workOf, exec_produce] at h ⊢
  rcases hx : exec (each r.logins (produceLogin r)) [] with ⟨e | u, sends⟩
  · rw [hx] at h
    cases h
  · simpa using .inr hk

/-- A producer that raises has put none. -/
theorem unclosed_produce {e : PyError} (h : (workOf (produce r)).result = .error e) :
    Unclosed (workOf (produce r)).todo := by
  have hsends := keepsOpen_each (keepsOpen_produceLogin (r := r)) r.logins [] fun _ =>
    List.not_mem_nil
  simp only [workOf, exec_produce] at h ⊢
  rcases hx : exec (each r.logins (produceLogin r)) [] with ⟨e' | u, sends⟩
  · rw [hx] at hsends
    exact hsends
  · rw [hx] at h
    cases h

end Sentinels

/-! ### The ends of a job -/

/-- SUCCESS, FAILED or SKIPPED. -/
def ItemStatus.isTerminal : ItemStatus → Bool
  | .success | .failed | .skipped => true
  | _ => false

/-- The calls of `execute` itself return: what raises is the producer, the prepare step or
a consumer. -/
structure HouseQuiet (h : HouseAnswers) : Prop where
  setup : h.setup = .ok ()
  submit : ∀ k, h.submit k = .ok ()
  failSave : ∀ i, h.failSave i = .ok ()
  failLog : ∀ i, h.failLog i = .ok ()
  releaseUnknown : h.releaseUnknown = .ok ()
  releaseAbsent : h.releaseAbsent = .ok ()
  orphans : h.orphans = .ok ()
  wasCancelled : ∃ cancelled, h.wasCancelled = .ok cancelled
  saveJob : h.saveJob = .ok ()

theorem houseQuiet_default : HouseQuiet {} :=
  ⟨rfl, fun _ => rfl, fun _ => rfl, fun _ => rfl, rfl, rfl, rfl, ⟨false, rfl⟩, rfl⟩

/-- The job has come to its end: `execute` has returned, every queue has its sentinel,
every consumer has stopped, and every item is in a terminal status. -/
abbrev Ended (r : JobRun) : Run → Prop :=
  Finished (plan r) fun b => ∀ i ∈ r.items, (b.stored i.id).isTerminal = true

section Ends

variable {r : JobRun}

theorem isOk_iff {x : Except PyError Unit} : x.isOk = true ↔ x = .ok () := by
  rcases x with e | u
  · exact ⟨nofun, nofun⟩
  · exact ⟨fun _ => rfl, fun _ => rfl⟩

theorem result_produce : (workOf (produce r)).result = .ok () ↔ ProducerQuiet r :=
  isOk_iff.symm.trans (returns_produce [])

theorem returns_setStatus (i : Nat) (status : ItemStatus) (saved : Except PyError Unit) :
    Returns (setStatus i status saved) (saved.isOk = true) := by
  apply Returns.congr ((returns_emit _).bind fun _ => (Returns.known saved).bind fun _ =>
    returns_emit _)
  simp

theorem returns_releaseIf {release : Except PyError Unit} (h : release = .ok ()) (some : Bool) :
    Returns (releaseIf some release) True := by
  subst h
  cases some
  · exact Returns.pure ()
  · exact Returns.pure ()

theorem returns_failOpenItem (hhouse : HouseQuiet r.house) (b : Board) (i : JobItem) :
    Returns (failOpenItem r b i) True := by
  apply Returns.congr (((returns_setStatus _ _ _).bind fun _ => Returns.known _).ite
    (Returns.pure ()))
  rw [hhouse.failSave, hhouse.failLog]
  split <;> simp [Except.isOk, Except.toBool]

theorem result_failRemaining (hhouse : HouseQuiet r.house) (items : List JobItem) (b : Board) :
    (workOf (failRemaining r items b)).result = .ok () := by
  have hreturns : Returns (failRemaining r items b) _ :=
    (Returns.each fun i _ => returns_failOpenItem hhouse b i).bind fun _ =>
      (returns_releaseIf hhouse.releaseUnknown _).bind fun _ =>
        returns_releaseIf hhouse.releaseAbsent _
  exact isOk_iff.mp ((hreturns []).mpr ⟨fun _ _ => trivial, trivial, trivial⟩)

theorem exec_releaseIf {release : Except PyError Unit} (h : release = .ok ()) (some : Bool)
    (actions : List Action) : exec (releaseIf some release) actions = (.ok (), actions) := by
  subst h
  cases some <;> rfl

/-- What `_finalize_job` does when its calls return. -/
theorem exec_finalizeJob (hhouse : HouseQuiet r.house) (b : Board) :
    ∃ cancelled, exec (finalizeJob r b) [] =
      (.ok (), [.failOrphans (r.items.map JobItem.id),
        .closeJob (r.items.map JobItem.id) cancelled]) := by
  obtain ⟨cancelled, hcancelled⟩ := hhouse.wasCancelled
  refine ⟨cancelled, ?_⟩
  unfold finalizeJob
  rw [hhouse.orphans, hhouse.saveJob, hcancelled]
  simp only [exec_bind, exec_known, exec_emit, exec_releaseIf hhouse.releaseUnknown,
    exec_releaseIf hhouse.releaseAbsent, List.nil_append, List.cons_append]

/-- After `_finalize_job` every item of the job is in a terminal status. -/
theorem terminal_finalizeJob (hhouse : HouseQuiet r.house) (b : Board) :
    ∀ i ∈ r.items,
      ((actAll (plan r) (workOf (finalizeJob r b)).todo b).stored i.id).isTerminal = true := by
  intro i hi
  obtain ⟨cancelled, hexec⟩ := exec_finalizeJob hhouse b
  have hmem : i.id ∈ r.items.map JobItem.id := List.mem_map_of_mem hi
  simp only [workOf, hexec, actAll, List.foldl_cons, List.foldl_nil, plan, act, hmem, true_and]
  rcases b.stored i.id <;> rfl

theorem sound_plan (hhouse : HouseQuiet r.house) (hquiet : ProducerQuiet r) :
    (plan r).Sound fun b => ∀ i ∈ r.items, (b.stored i.id).isTerminal = true where
  submit k _ := hhouse.submit k
  produce := result_produce.mpr hquiet
  close _ hk := close_mem_produce (result_produce.mpr hquiet) hk
  recover k b := result_failRemaining hhouse _ b
  after b := by
    obtain ⟨cancelled, hexec⟩ := exec_finalizeJob hhouse b
    simp only [plan, workOf, hexec]
  reaches b := terminal_finalizeJob hhouse b

theorem starving_plan (hhouse : HouseQuiet r.house) (hraises : ¬ProducerQuiet r) :
    (plan r).Starving := by
  obtain ⟨e, he⟩ : ∃ e, (workOf (produce r)).result = .error e := by
    rcases hresult : (workOf (produce r)).result with e | u
    · exact ⟨e, rfl⟩
    · exact absurd (result_produce.mp hresult) hraises
  exact ⟨fun k _ => hhouse.submit k, ⟨e, he⟩, unclosed_produce he⟩

/-- A job whose producer raises has items to post. -/
theorem execute_opening (hhouse : HouseQuiet r.house) (hraises : ¬ProducerQuiet r) :
    execute r = opening (plan r) (board r) := by
  have hpending : r.pending ≠ [] := by
    intro hnil
    apply hraises
    simp [ProducerQuiet, JobRun.logins, hnil]
  simp [execute, hhouse.setup, hpending]

theorem good_execute (hhouse : HouseQuiet r.house) (hquiet : ProducerQuiet r) :
    Good (plan r) (fun b => ∀ i ∈ r.items, (b.stored i.id).isTerminal = true) (execute r) := by
  have hsound := sound_plan hhouse hquiet
  simp only [execute, hhouse.setup]
  by_cases hpending : r.pending = []
  · have hkeys : (plan r).keys = [] := by simp [plan, JobRun.stores, hpending]
    rw [if_pos (by simp [hpending])]
    exact good_skipping hsound hkeys (board r)
  · rw [if_neg (by simp [hpending])]
    exact good_opening hsound (board r)

/-- **When the producer raises**, `execute` is over only if every consumer may crash, and
then it raises. -/
theorem producer_raises {s : Run} {result : Except PyError Unit} (hhouse : HouseQuiet r.house)
    (hraises : ¬ProducerQuiet r)
    (hreach : Relation.ReflTransGen (Moves (step (plan r))) (execute r) s)
    (hover : s.main = .finished result) :
    (∃ e, result = .error e) ∧ ∀ k ∈ r.stores, Crashes (plan r) k := by
  rw [execute_opening hhouse hraises] at hreach
  exact starved_over (starving_plan hhouse hraises) hreach hover

/-- **`execute` comes to its end on every schedule exactly when no call of `_produce`
raises outside a handler**; the consumers and `_prepare_once` may raise anywhere. -/
theorem execute_ends (hhouse : HouseQuiet r.house) :
    Eventually (step (plan r)) (Ended r) (execute r) ↔ ProducerQuiet r := by
  constructor
  · intro hends
    by_contra hraises
    obtain ⟨s, hreach, hended⟩ := hends.reached
    obtain ⟨⟨e, he⟩, -⟩ := producer_raises hhouse hraises hreach hended.main
    cases he
  · intro hquiet
    exact eventually_finished (sound_plan hhouse hquiet) (good_execute hhouse hquiet)

end Ends

/-- Two stores and two logins: the prepare step of one raises, and both store threads crash
on their first item. -/
def crashingJob : JobRun where
  items :=
    [⟨1, 7, "anna", .eldorado, some ⟨.manual, none⟩⟩, ⟨2, 8, "anna", .g2g, some ⟨.manual, none⟩⟩,
      ⟨3, 8, "ben", .g2g, some ⟨.manual, none⟩⟩]
  login login := { prepare := if login = "ben" then .error (.other "timeout") else .ok (.ok ()) }
  store _ := { routing := .error (.other "connection already closed") }

theorem crashingJob_ends :
    Eventually (step (plan crashingJob)) (Ended crashingJob) (execute crashingJob) := by
  have hhouse : HouseQuiet crashingJob.house := houseQuiet_default
  apply (execute_ends hhouse).mpr
  intro login _
  unfold LoginQuiet
  split
  · trivial
  · refine ⟨fun _ => ⟨fun _ _ => rfl, rfl⟩, ?_⟩
    unfold PrepareQuiet
    split
    · trivial
    · split
      · exact ⟨fun _ _ => ⟨rfl, rfl⟩, rfl⟩
      · trivial

/-- A database that is gone when the producer checks the status of the job. -/
def connectionLost : PyError := .other "server closed the connection unexpectedly"

/-- One item, and the status check of its login raises. -/
def lostStatus : JobRun where
  items := [⟨1, 7, "anna", .eldorado, some ⟨.manual, none⟩⟩]
  login _ := { cancelled := .error connectionLost }

/-- The consumer of store 7 waits for its first entry. -/
def lostAt (main : Main Nat JobItem Action PyError) : Run where
  shared := board lostStatus
  worker := Function.update (fun _ => .absent) 7 (.running [] (.ok (some .first)))
  main := main

/-- The main thread waits for the consumer, and the consumer for its queue. -/
theorem lostAt_stuck :
    Stuck (step (plan lostStatus)) (lostAt (.leaving (.error connectionLost))) := by
  rintro (- | k | k)
  · rfl
  · rfl
  · by_cases hk : k = 7
    · subst hk
      rfl
    · simp [step, workerStep, lostAt, hk]

/-- **The producer raises before the sentinels**: no schedule brings `execute` to its end;
one reaches a state where nothing can step and the item is still PENDING. -/
theorem lost_status :
    HouseQuiet lostStatus.house ∧
    ¬Eventually (step (plan lostStatus)) (Ended lostStatus) (execute lostStatus) ∧
    ∃ s, Relation.ReflTransGen (Moves (step (plan lostStatus))) (execute lostStatus) s ∧
      Stuck (step (plan lostStatus)) s ∧ s.main = .leaving (.error connectionLost) ∧
      s.worker 7 = .running [] (.ok (some .first)) ∧ s.ended 7 = false ∧
      s.shared.stored 1 = .pending := by
  have hsubmit : step (plan lostStatus) (execute lostStatus) .main =
      some (lostAt (.submitting [])) := rfl
  have hsend : step (plan lostStatus) (lostAt (.submitting [])) .main =
      some (lostAt (.sending [])) := rfl
  have hraise : step (plan lostStatus) (lostAt (.sending [])) .main =
      some (lostAt (.leaving (.error connectionLost))) := rfl
  refine ⟨houseQuiet_default, ?_, lostAt (.leaving (.error connectionLost)), ?_, lostAt_stuck, rfl,
    rfl, rfl, rfl⟩
  · have hnot : ∀ {s : Run}, s.main ≠ .finished (.ok ()) → ¬Ended lostStatus s :=
      fun hne hended => hne hended.main
    have hrun : AvoidsTo (step (plan lostStatus)) (Ended lostStatus) (execute lostStatus)
        [.main, .main, .main] (lostAt (.leaving (.error connectionLost))) :=
      ⟨hnot nofun, _, hsubmit, hnot nofun, _, hsend, hnot nofun, _, hraise, hnot nofun, rfl⟩
    exact not_eventually_of_stuck hrun lostAt_stuck
  · exact ((Relation.ReflTransGen.single ⟨_, hsubmit⟩).tail ⟨_, hsend⟩).tail ⟨_, hraise⟩

end Sda.Stock
