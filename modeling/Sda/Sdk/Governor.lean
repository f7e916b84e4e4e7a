/-
Sda/Sdk/Governor.lean

The write budget of an Eldorado store (libs/apis_sdk/apis_sdk/clients/marketplaces/
eldorado/governor.py: `acquire_write`, `record_write_result`).

A store has a small file of state; every read and write of it is under the file's lock,
so one turn of the loop of `acquire_write` is one step, and so is `record_write_result`.
A caller sleeps between two turns, and the clock may be anything that does not run
backwards.  Times and numbers of seconds are exact.

`history` has what was admitted and what was answered, the last first.

* `write_governor` — any interleaving keeps the admitted slots an interval apart and out
  of the pauses opened before, opens the pauses of the ladder (longer if the reply asks
  for it), touches the caller's store alone, and lets no caller sleep beyond its limit;
* `ladder_overridden` — a first 429 with a longer `Retry-After`.
-/
import Mathlib.Data.Rat.Floor
import Mathlib.Tactic.Linarith
import Sda.Lib.Run
import Sda.Lib.Table
import Sda.Lib.Text
import Sda.Sdk.Result

namespace Sda.Governor

/-! ### The state of a store -/

inductive TrafficField
  | write | write429 | refusedCooldown | refusedBudget | read | read429 | refusedReadCooldown
  deriving DecidableEq, Repr

/-- The file of a store. -/
structure StoreState where
  nextWriteAt : ℚ := 0
  writeCooldownUntil : ℚ := 0
  consecutive429 : Nat := 0
  /-- The requests of each hour, by its number since the epoch. -/
  hours : List (Int × (TrafficField → Nat)) := []

/-- `HOURS_KEPT` -/
def hoursKept : Nat := 72

/-- One more request of the hour; the oldest hours are dropped. -/
def countHour (hours : List (Int × (TrafficField → Nat))) (field : TrafficField) (hour : Int) :
    List (Int × (TrafficField → Nat)) :=
  let bucket := ((hours.find? fun b => b.1 == hour).map Prod.snd).getD fun _ => 0
  let hours := hours.filter (fun b => b.1 < hour) ++
    (hour, Function.update bucket field (bucket field + 1)) ::
      hours.filter fun b => hour < b.1
  hours.drop (hours.length - hoursKept)

/-- **`_count`** -/
def StoreState.count (state : StoreState) (field : TrafficField) (now : ℚ) : StoreState :=
  { state with hours := countHour state.hours field ⌊now / 3600⌋ }

@[simp] theorem nextWriteAt_count (state : StoreState) (field : TrafficField) (now : ℚ) :
    (state.count field now).nextWriteAt = state.nextWriteAt := by
  rw [StoreState.count]

@[simp] theorem writeCooldownUntil_count (state : StoreState) (field : TrafficField) (now : ℚ) :
    (state.count field now).writeCooldownUntil = state.writeCooldownUntil := by
  rw [StoreState.count]

@[simp] theorem consecutive429_count (state : StoreState) (field : TrafficField) (now : ℚ) :
    (state.count field now).consecutive429 = state.consecutive429 := by
  rw [StoreState.count]

/-- **`store_key`** -/
def storeKey (raw : String) : String :=
  let key := ((lowerText (stripText raw)).toList).map fun c => if c = '_' then '-' else c
  let slug := "eldorado-".toList
  let key := if slug.isPrefixOf key then key.drop slug.length else key
  let key := key.filter fun c =>
    ('a' ≤ c ∧ c ≤ 'z') || ('0' ≤ c ∧ c ≤ '9') || c == '.' || c == '-'
  if key.isEmpty then "unknown" else String.ofList key

example : storeKey "eldorado-ezsmurfmart" = storeKey " EzSmurfMart" := by decide +kernel

/-! ### Replies -/

/-- The error of a reply, with the keys of its details. -/
structure ReplyError where
  category : ErrorCategory
  message : String := ""
  statusCode : Option Nat := none
  retryAfter : Option ℚ := none
  governor : String := ""
  code : Option Nat := none
  deriving DecidableEq

/-- The result of a governed call. -/
structure WriteReply where
  ok : Bool
  error : Option ReplyError := none
  statusCode : Option Nat := none
  deriving DecidableEq

/-- **`is_rate_limited`** -/
def isRateLimited (result : WriteReply) : Bool :=
  match result.error with
  | none => false
  | some error =>
    if result.ok then false
    else if error.governor != "" then false
    else error.category == .rateLimit || error.statusCode == some 429 ||
      result.statusCode == some 429 || error.code == some 429 ||
      containsText "calm down, cowboy" (lowerText error.message)

/-- `getattr(getattr(result, "error", None), "retry_after", None) or 0` -/
def WriteReply.retryAfter (result : WriteReply) : ℚ :=
  (result.error.bind ReplyError.retryAfter).getD 0

/-- `COWBOY_BACKOFF_SECONDS` -/
def cowboyBackoffSeconds : List ℚ := [180, 360, 720, 1800]

/-- `COWBOY_CIRCUIT_THRESHOLD` -/
def cowboyCircuitThreshold : Nat := 5

/-- `COWBOY_CIRCUIT_SECONDS` -/
def cowboyCircuitSeconds : ℚ := 3600

/-- The pause of a number of consecutive 429s. -/
def cowboyPause (consecutive : Nat) : ℚ :=
  if cowboyCircuitThreshold ≤ consecutive then cowboyCircuitSeconds
  else cowboyBackoffSeconds.getD (min consecutive cowboyBackoffSeconds.length - 1) 0

/-- `WRITES_HELD_RETRY_SECONDS` -/
def writesHeldRetrySeconds : ℚ := 31536000

/-- One turn of the loop: the answer, or the sleep before the next turn. -/
inductive WriteTurn
  | returns (admitted : Bool) (reason : String) (retryAfter : ℚ)
  | sleeps (seconds : ℚ)
  deriving DecidableEq

/-- **The body of the loop of `acquire_write`**; `held` and `heldInside` are the two readings
of `ELDORADO_WRITES_HELD`. -/
def acquireTurn (interval : ℚ) (held heldInside : Bool) (now maxWait waited : ℚ)
    (state : StoreState) : WriteTurn × StoreState :=
  if held then (.returns false "writes_held" writesHeldRetrySeconds, state)
  else if heldInside then (.returns false "writes_held" writesHeldRetrySeconds, state)
  else
    let cooldown := state.writeCooldownUntil - now
    if 0 < cooldown then
      (.returns false "cowboy_cooldown" cooldown, state.count .refusedCooldown now)
    else
      let wait := state.nextWriteAt - now
      if wait ≤ 0 then
        (.returns true "" 0, { state with nextWriteAt := now + interval }.count .write now)
      else if maxWait < waited + wait then
        (.returns false "write_budget" wait, state.count .refusedBudget now)
      else (.sleeps wait, state)

/-- **`record_write_result`**: the pause it opens, and the state. -/
def recordWriteResult (now : ℚ) (result : WriteReply) (state : StoreState) : ℚ × StoreState :=
  if isRateLimited result then
    let state := state.count .write429 now
    let consecutive := state.consecutive429 + 1
    let pause := max (cowboyPause consecutive) result.retryAfter
    (pause, { state with
      consecutive429 := consecutive
      writeCooldownUntil := max state.writeCooldownUntil (now + pause) })
  else if result.ok then (0, { state with consecutive429 := 0 })
  else (0, state)

/-! ### Callers -/

/-- A call of `acquire_write`; `sleeps` is a history variable, the sleeps it has made. -/
structure WriteCaller where
  store : String
  maxWait : ℚ
  waited : ℚ := 0
  sleeps : List ℚ := []
  answer : Option (Bool × String × ℚ) := none
  deriving DecidableEq

inductive GovernorEvent
  /-- A write was admitted. -/
  | slot (store : String) (time : ℚ)
  /-- A 429 was recorded; it pauses the writes until then. -/
  | limited (store : String) (time retryAfter pausedUntil : ℚ)
  /-- A success was recorded. -/
  | succeeded (store : String)
  deriving DecidableEq

structure Governed where
  now : ℚ := 0
  stores : String → StoreState := fun _ => {}
  callers : Table WriteCaller := .empty
  history : List GovernorEvent := []

inductive GovernorAction
  /-- The clock is read as `time`, unless that is past. -/
  | clock (time : ℚ)
  | call (store : String) (maxWait : ℚ)
  | turn (caller : Nat) (held heldInside : Bool)
  | record (store : String) (result : WriteReply)
  deriving DecidableEq

/-- A caller takes one turn. -/
def Governed.turn (interval : ℚ) (s : Governed) (caller : Nat) (w : WriteCaller)
    (held heldInside : Bool) : Governed :=
  match acquireTurn interval held heldInside s.now w.maxWait w.waited (s.stores w.store) with
  | (.returns admitted reason retryAfter, state) =>
    { s with
      stores := Function.update s.stores w.store state
      callers := s.callers.set caller { w with answer := some (admitted, reason, retryAfter) }
      history := if admitted then .slot w.store s.now :: s.history else s.history }
  | (.sleeps seconds, state) =>
    { s with
      stores := Function.update s.stores w.store state
      callers := s.callers.set caller
        { w with waited := w.waited + seconds, sleeps := seconds :: w.sleeps } }

/-- A result is recorded. -/
def Governed.record (s : Governed) (store : String) (result : WriteReply) : Governed :=
  let (pause, state) := recordWriteResult s.now result (s.stores store)
  { s with
    stores := Function.update s.stores store state
    history :=
      if isRateLimited result then
        .limited store s.now result.retryAfter (s.now + pause) :: s.history
      else if result.ok then .succeeded store :: s.history
      else s.history }

def governorStep (interval : ℚ) (s : Governed) : GovernorAction → Governed
  | .clock time => { s with now := max s.now time }
  | .call store maxWait => { s with callers := s.callers.create { store, maxWait } }
  | .turn caller held heldInside =>
    match s.callers.get? caller with
    | some w => if w.answer.isSome then s else s.turn interval caller w held heldInside
    | none => s
  | .record store result => s.record store result

/-! ### The properties -/

/-- The pauses of the ladder: 3, 6, 12 and 30 minutes, then an hour each. -/
def ladderPause : Nat → ℚ
  | 0 => 0
  | 1 => 180
  | 2 => 360
  | 3 => 720
  | 4 => 1800
  | _ => 3600

/-- The 429s of a store since its last success. -/
def consecutive (store : String) : List GovernorEvent → Nat
  | [] => 0
  | .slot _ _ :: history => consecutive store history
  | .limited s _ _ _ :: history => consecutive store history + if s = store then 1 else 0
  | .succeeded s :: history => if s = store then 0 else consecutive store history

/-- A slot is an interval later than the slots of its store before it, and in none of its
pauses. -/
def Spaced (interval : ℚ) (new old : GovernorEvent) : Prop :=
  ∀ store time, new = .slot store time →
    (∀ time', old = .slot store time' → time' + interval ≤ time) ∧
      ∀ time' retryAfter pausedUntil, old = .limited store time' retryAfter pausedUntil →
        pausedUntil ≤ time

/-- Every 429 opens its pause of the ladder, put together with its `Retry-After` by `pause`. -/
def OnLadder (pause : ℚ → ℚ → ℚ) : List GovernorEvent → Prop
  | [] => True
  | .limited store time retryAfter pausedUntil :: history =>
    pausedUntil = time + pause (ladderPause (consecutive store history + 1)) retryAfter ∧
      OnLadder pause history
  | _ :: history => OnLadder pause history

/-- No caller has slept beyond its limit. -/
def SleepsEnough (s : Governed) : Prop :=
  ∀ caller w, s.callers.get? caller = some w → w.sleeps.sum ≤ max w.maxWait 0

/-- The store a step is about. -/
def Governed.storeOf (s : Governed) : GovernorAction → Option String
  | .clock _ => none
  | .call _ _ => none
  | .turn caller _ _ => (s.callers.get? caller).map WriteCaller.store
  | .record store _ => some store

/-- The other stores are as they were. -/
def OthersUntouched (interval : ℚ) (s : Governed) (a : GovernorAction) : Prop :=
  ∀ store, s.storeOf a ≠ some store →
    (governorStep interval s a).stores store = s.stores store

/-! ### What a turn and a record do -/

variable {interval now maxWait waited : ℚ} {held heldInside : Bool} {state : StoreState}
  {s : Governed}

/-- The numbers an admission looks at are the same. -/
structure SameBudget (a b : StoreState) : Prop where
  next : a.nextWriteAt = b.nextWriteAt
  cooldown : a.writeCooldownUntil = b.writeCooldownUntil
  consecutive : a.consecutive429 = b.consecutive429

theorem SameBudget.refl (a : StoreState) : SameBudget a a := ⟨rfl, rfl, rfl⟩

theorem sameBudget_count (field : TrafficField) : SameBudget (state.count field now) state :=
  ⟨by simp, by simp, by simp⟩

/-- What a turn may come to. -/
inductive Turned (interval now maxWait waited : ℚ) (state : StoreState) :
    WriteTurn × StoreState → Prop
  | admitted {state'} (cooldown : state.writeCooldownUntil ≤ now) (next : state.nextWriteAt ≤ now)
      (same : SameBudget state' { state with nextWriteAt := now + interval }) :
      Turned interval now maxWait waited state (.returns true "" 0, state')
  | refused {reason retryAfter state'} (same : SameBudget state' state) :
      Turned interval now maxWait waited state (.returns false reason retryAfter, state')
  | sleeps {seconds} (within : waited + seconds ≤ maxWait) :
      Turned interval now maxWait waited state (.sleeps seconds, state)

/-- **A turn** admits outside of pauses and at the next slot, refuses, or sleeps within the
limit. -/
theorem acquireTurn_spec (interval : ℚ) (held heldInside : Bool) (now maxWait waited : ℚ)
    (state : StoreState) : Turned interval now maxWait waited state
      (acquireTurn interval held heldInside now maxWait waited state) := by
  rw [acquireTurn]
  split
  · exact .refused (SameBudget.refl _)
  · split
    · exact .refused (SameBudget.refl _)
    · dsimp only
      split
      · exact .refused (sameBudget_count _)
      · next hcooldown =>
        split
        · next hwait =>
          apply Turned.admitted
          · linarith
          · linarith
          · exact sameBudget_count _
        · split
          · exact .refused (sameBudget_count _)
          · next hlimit =>
            apply Turned.sleeps
            linarith

theorem cowboyPause_succ (k : Nat) : cowboyPause (k + 1) = ladderPause (k + 1) := by
  rcases k with - | - | - | - | k
  · rfl
  · rfl
  · rfl
  · rfl
  · rw [cowboyPause, if_pos (by rw [cowboyCircuitThreshold]; omega)]
    rfl

/-- **A record** of a 429 counts it and pauses the store, of a success resets the count. -/
theorem recordWriteResult_limited (now : ℚ) (state : StoreState) {result : WriteReply}
    (h : isRateLimited result = true) :
    (recordWriteResult now result state).1 =
        max (ladderPause (state.consecutive429 + 1)) result.retryAfter ∧
      SameBudget (recordWriteResult now result state).2
        { state with
          consecutive429 := state.consecutive429 + 1
          writeCooldownUntil := max state.writeCooldownUntil
            (now + max (ladderPause (state.consecutive429 + 1)) result.retryAfter) } := by
  rw [recordWriteResult, if_pos h]
  simp only [consecutive429_count, cowboyPause_succ]
  exact ⟨trivial, by simp, by simp, rfl⟩

/-! ### The invariant -/

/-- What the state of the stores says of the history. -/
structure Accounted (interval : ℚ) (s : Governed) : Prop where
  slots : ∀ store time, .slot store time ∈ s.history →
    time + interval ≤ (s.stores store).nextWriteAt ∧ time ≤ s.now
  pauses : ∀ store time retryAfter pausedUntil,
    .limited store time retryAfter pausedUntil ∈ s.history →
      pausedUntil ≤ (s.stores store).writeCooldownUntil
  counted : ∀ store, (s.stores store).consecutive429 = consecutive store s.history
  callers : ∀ caller w, s.callers.get? caller = some w →
    w.sleeps.sum = w.waited ∧ w.waited ≤ max w.maxWait 0
  spaced : s.history.Pairwise (Spaced interval)
  ladder : OnLadder max s.history

/-- The stores are replaced by ones with the same budgets. -/
theorem Accounted.sameBudget (h : Accounted interval s) {stores : String → StoreState}
    (hsame : ∀ store, SameBudget (stores store) (s.stores store)) :
    Accounted interval { s with stores := stores } := by
  constructor
  · intro store time hin
    show _ ≤ (stores store).nextWriteAt ∧ _
    rw [(hsame store).next]
    exact h.slots store time hin
  · intro store time retryAfter pausedUntil hin
    show _ ≤ (stores store).writeCooldownUntil
    rw [(hsame store).cooldown]
    exact h.pauses store time retryAfter pausedUntil hin
  · intro store
    show (stores store).consecutive429 = _
    rw [(hsame store).consecutive]
    exact h.counted store
  · exact h.callers
  · exact h.spaced
  · exact h.ladder

theorem sameBudget_update {stores : String → StoreState} {store : String} {a b : StoreState}
    (h : SameBudget a b) (other : String) :
    SameBudget (Function.update stores store a other) (Function.update stores store b other) := by
  rw [Function.update_apply, Function.update_apply]
  split
  · exact h
  · exact SameBudget.refl _

theorem sameBudget_update_self {stores : String → StoreState} {store : String} {a : StoreState}
    (h : SameBudget a (stores store)) (other : String) :
    SameBudget (Function.update stores store a other) (stores other) := by
  have hsame : SameBudget (Function.update stores store a other)
      (Function.update stores store (stores store) other) := sameBudget_update h other
  rw [Function.update_eq_self] at hsame
  exact hsame

/-- A caller is replaced by one that has slept as long as it says, within its limit. -/
theorem Accounted.caller (h : Accounted interval s) {caller : Nat} {w w' : WriteCaller}
    (hw : s.callers.get? caller = some w) (hsum : w'.sleeps.sum = w'.waited)
    (hle : w'.waited ≤ max w'.maxWait 0) :
    Accounted interval { s with callers := s.callers.set caller w' } := by
  refine ⟨h.slots, h.pauses, h.counted, ?_, h.spaced, h.ladder⟩
  intro c x hx
  have hx : (s.callers.set caller w').get? c = some x := hx
  rw [Table.get?_set hw] at hx
  split at hx
  · cases hx
    exact ⟨hsum, hle⟩
  · exact h.callers c x hx

/-- A number that the new state of one store leaves alone. -/
theorem update_same {α : Type} (number : StoreState → α) {stores : String → StoreState}
    {store : String} {a : StoreState} (h : number a = number (stores store)) (other : String) :
    number (Function.update stores store a other) = number (stores other) := by
  rw [Function.update_apply]
  split
  · next heq =>
    rw [heq]
    exact h
  · rfl

/-- An event that is no slot is spaced from every other. -/
theorem spaced_of_ne {new : GovernorEvent} (hne : ∀ store time, new ≠ .slot store time)
    (old : GovernorEvent) : Spaced interval new old :=
  fun store time heq => absurd heq (hne store time)

/-- **An admission**: the slot is next and outside of the pauses. -/
theorem Accounted.slot (h : Accounted interval s) {store : String}
    (hcooldown : (s.stores store).writeCooldownUntil ≤ s.now)
    (hnext : (s.stores store).nextWriteAt ≤ s.now) :
    Accounted interval { s with
      stores := Function.update s.stores store
        { s.stores store with nextWriteAt := s.now + interval }
      history := .slot store s.now :: s.history } := by
  constructor
  · intro other time hin
    show _ ≤ (Function.update s.stores store _ other).nextWriteAt ∧ _
    rw [Function.update_apply]
    rcases List.mem_cons.mp hin with heq | hin
    · cases heq
      rw [if_pos rfl]
      exact ⟨le_refl _, le_refl _⟩
    · obtain ⟨hle, hpast⟩ := h.slots other time hin
      refine ⟨?_, hpast⟩
      split
      · show time + interval ≤ s.now + interval
        linarith
      · exact hle
  · intro other time retryAfter pausedUntil hin
    have hold := h.pauses other time retryAfter pausedUntil
      ((List.mem_cons.mp hin).resolve_left (by simp))
    exact hold.trans_eq (update_same StoreState.writeCooldownUntil (by rfl) other).symm
  · intro other
    exact (update_same StoreState.consecutive429 (by rfl) other).trans (h.counted other)
  · exact h.callers
  · refine List.pairwise_cons.mpr ⟨?_, h.spaced⟩
    rintro old hold _ _ ⟨⟩
    constructor
    · rintro time' rfl
      exact (h.slots store time' hold).1.trans hnext
    · rintro time' retryAfter pausedUntil rfl
      exact (h.pauses store time' retryAfter pausedUntil hold).trans hcooldown
  · exact h.ladder

/-- **A 429** opens the pause of its number. -/
theorem Accounted.limited (h : Accounted interval s) (store : String) (retryAfter : ℚ)
    {pause : ℚ}
    (hpause : pause = max (ladderPause ((s.stores store).consecutive429 + 1)) retryAfter) :
    Accounted interval { s with
      stores := Function.update s.stores store
        { s.stores store with
          consecutive429 := (s.stores store).consecutive429 + 1
          writeCooldownUntil := max (s.stores store).writeCooldownUntil (s.now + pause) }
      history := .limited store s.now retryAfter (s.now + pause) :: s.history } := by
  constructor
  · intro other time hin
    obtain ⟨hle, hpast⟩ := h.slots other time ((List.mem_cons.mp hin).resolve_left (by simp))
    exact ⟨hle.trans_eq (update_same StoreState.nextWriteAt (by rfl) other).symm, hpast⟩
  · intro other time after pausedUntil hin
    show _ ≤ (Function.update s.stores store _ other).writeCooldownUntil
    rw [Function.update_apply]
    rcases List.mem_cons.mp hin with heq | hin
    · cases heq
      rw [if_pos rfl]
      exact le_max_right _ _
    · have hold := h.pauses other time after pausedUntil hin
      split
      · next heq =>
        rw [heq] at hold
        exact hold.trans (le_max_left _ _)
      · exact hold
  · intro other
    show (Function.update s.stores store _ other).consecutive429 =
      consecutive other s.history + if store = other then 1 else 0
    rw [Function.update_apply]
    by_cases heq : other = store
    · rw [if_pos heq, if_pos heq.symm, heq]
      exact congrArg (· + 1) (h.counted store)
    · rw [if_neg heq, if_neg (Ne.symm heq)]
      exact h.counted other
  · exact h.callers
  · exact List.pairwise_cons.mpr ⟨fun old _ => spaced_of_ne (by simp) old, h.spaced⟩
  · refine ⟨?_, h.ladder⟩
    rw [hpause, h.counted store]

/-- **A success** starts the ladder again. -/
theorem Accounted.succeeded (h : Accounted interval s) (store : String) :
    Accounted interval { s with
      stores := Function.update s.stores store { s.stores store with consecutive429 := 0 }
      history := .succeeded store :: s.history } := by
  constructor
  · intro other time hin
    obtain ⟨hle, hpast⟩ := h.slots other time ((List.mem_cons.mp hin).resolve_left (by simp))
    exact ⟨hle.trans_eq (update_same StoreState.nextWriteAt (by rfl) other).symm, hpast⟩
  · intro other time after pausedUntil hin
    have hold := h.pauses other time after pausedUntil
      ((List.mem_cons.mp hin).resolve_left (by simp))
    exact hold.trans_eq (update_same StoreState.writeCooldownUntil (by rfl) other).symm
  · intro other
    show (Function.update s.stores store _ other).consecutive429 =
      if store = other then 0 else consecutive other s.history
    rw [Function.update_apply]
    by_cases heq : other = store
    · rw [if_pos heq, if_pos heq.symm]
    · rw [if_neg heq, if_neg (Ne.symm heq)]
      exact h.counted other
  · exact h.callers
  · exact List.pairwise_cons.mpr ⟨fun old _ => spaced_of_ne (by simp) old, h.spaced⟩
  · exact h.ladder

/-! ### Steps -/

theorem accounted_turn (h : Accounted interval s) {caller : Nat} {w : WriteCaller}
    (hw : s.callers.get? caller = some w) (held heldInside : Bool) :
    Accounted interval (s.turn interval caller w held heldInside) := by
  obtain ⟨hsum, hle⟩ := h.callers caller w hw
  have hspec := acquireTurn_spec interval held heldInside s.now w.maxWait w.waited (s.stores w.store)
  rw [Governed.turn]
  generalize acquireTurn interval held heldInside s.now w.maxWait w.waited (s.stores w.store) =
    result at hspec
  cases hspec with
  | admitted hcooldown hnext hsame =>
    have hslot := (h.slot hcooldown hnext).sameBudget (sameBudget_update hsame)
    exact hslot.caller hw hsum hle
  | refused hsame =>
    exact (h.sameBudget (sameBudget_update_self hsame)).caller hw hsum hle
  | sleeps hwithin =>
    have hkept := h.sameBudget (sameBudget_update_self (SameBudget.refl (s.stores w.store)))
    refine hkept.caller hw ?_ (le_max_of_le_left hwithin)
    rw [List.sum_cons, hsum, add_comm]

theorem accounted_record (h : Accounted interval s) (store : String) (result : WriteReply) :
    Accounted interval (s.record store result) := by
  rw [Governed.record]
  by_cases hlimited : isRateLimited result = true
  · obtain ⟨hpause, hsame⟩ :=
      recordWriteResult_limited s.now (s.stores store) hlimited
    have hnext := (h.limited store result.retryAfter rfl).sameBudget (sameBudget_update hsame)
    simp only [hlimited, hpause]
    exact hnext
  · rw [recordWriteResult, if_neg hlimited]
    by_cases hok : result.ok = true
    · simp only [hlimited, hok]
      exact h.succeeded store
    · simp only [hlimited, hok]
      exact h.sameBudget (sameBudget_update_self (SameBudget.refl _))

theorem accounted_step (s : Governed) (a : GovernorAction) (h : Accounted interval s) :
    Accounted interval (governorStep interval s a) := by
  cases a with
  | clock time =>
    refine ⟨fun store t hin => ?_, h.pauses, h.counted, h.callers, h.spaced, h.ladder⟩
    obtain ⟨hle, hpast⟩ := h.slots store t hin
    exact ⟨hle, le_max_of_le_left hpast⟩
  | call store maxWait =>
    refine ⟨h.slots, h.pauses, h.counted, fun caller w hw => ?_, h.spaced, h.ladder⟩
    have hw : (s.callers.create { store, maxWait }).get? caller = some w := hw
    rw [Table.get?_create] at hw
    split at hw
    · cases hw
      exact ⟨rfl, le_max_right _ _⟩
    · exact h.callers caller w hw
  | turn caller held heldInside =>
    rw [governorStep]
    split
    · next w hw =>
      split
      · exact h
      · exact accounted_turn h hw held heldInside
    · exact h
  | record store result => exact accounted_record h store result

theorem othersUntouched (s : Governed) (a : GovernorAction) : OthersUntouched interval s a := by
  intro store hstore
  cases a with
  | clock time => rfl
  | call store maxWait => rfl
  | turn caller held heldInside =>
    rw [governorStep]
    split
    · next w hw =>
      have hne : store ≠ w.store := by
        rintro rfl
        rw [Governed.storeOf, hw] at hstore
        exact hstore rfl
      split
      · rfl
      · rw [Governed.turn]
        split
        · exact Function.update_of_ne hne _ _
        · exact Function.update_of_ne hne _ _
    · rfl
  | record other result =>
    have hne : store ≠ other := by
      rintro rfl
      exact hstore rfl
    exact Function.update_of_ne hne _ _

/-! ### Runs -/

theorem accounted_start (now : ℚ) : Accounted interval { now } :=
  ⟨nofun, nofun, fun _ => rfl, by simp, List.Pairwise.nil, trivial⟩

/-- **The write governor.**  For every interleaving of callers and recorded results: admitted
slots of a store are an interval apart and in no pause opened before them; the `k`-th 429 since
the last success opens the `k`-th pause of the ladder, or the `Retry-After` of the reply where
that is longer; no caller sleeps beyond its limit; and a step leaves the other stores
alone. -/
theorem write_governor (interval now : ℚ) (es : List GovernorAction) :
    Always (governorStep interval) (fun s => s.history.Pairwise (Spaced interval) ∧
        OnLadder max s.history ∧ SleepsEnough s) { now } es ∧
      Along (governorStep interval) (OthersUntouched interval) { now } es := by
  constructor
  · have hall : Always (governorStep interval) (Accounted interval) { now } es :=
      always_of_step accounted_step (accounted_start now) es
    refine hall.mono fun s h => ⟨h.spaced, h.ladder, fun caller w hw => ?_⟩
    obtain ⟨hsum, hle⟩ := h.callers caller w hw
    exact hsum.trans_le hle
  · exact along_of_forall othersUntouched _ es

/-- A first 429 asks for ten minutes. -/
def tenMinutes : List GovernorAction :=
  [.record "ezsmurfmart"
    { ok := false
      error := some { category := .rateLimit, statusCode := some 429, retryAfter := some 600 } }]

/-- A `Retry-After` beyond the ladder overrides its pause. -/
theorem ladder_overridden :
    ¬ Always (governorStep 120) (fun s => OnLadder (fun pause _ => pause) s.history) {}
      tenMinutes := by
  intro h
  have hpause : (0 : ℚ) + 600 = 0 + 180 := h.last.1
  norm_num at hpause

end Sda.Governor
