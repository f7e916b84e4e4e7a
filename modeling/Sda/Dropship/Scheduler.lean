/-
Sda/Dropship/Scheduler.lean

The poster threads of the dropship scheduler (services/dropship/scheduler.py).

The state is what the parties share: the config rows, the thread table, the threads, and how far
the poll has come.  Every query, every save and every access to the table is a step of its own,
so edits, polls and threads interleave anywhere between them, and any query or save may fail.

Main result: `Sound.step` — in every state an entry of the table is a thread of its config, a
thread of a config that exists has its entry, and no config has two threads.
-/
import Sda.Dropship.Backoff
import Sda.Lib.Run
import Sda.Lib.Table
import Sda.Pool.MartClaims

namespace Sda.Dropship.Scheduler

/-! ### Rows, threads and the poll -/

/-- **`DropshippingJobConfig`** -/
structure Config where
  /-- INTENT: should the poster thread run? -/
  enabled : Bool := true
  /-- ACTUAL: is the poster thread alive right now? -/
  posterRunning : Bool := false
  /-- CONDITION: why disabled; empty is the choice of the user. -/
  disabledReason : String := ""
  store : IntegrationAccount
  game : String := ""

/-- How `poster_loop` ends. -/
inductive Exit
  | normal
  /-- `PauseRequired`, after this validation error. -/
  | pause (lastError : String)
  | crash (error : String)
  deriving DecidableEq, Repr

/-- Where a thread is in **`_poster_thread_wrapper`**. -/
inductive Phase
  | starting
  /-- It has the config. -/
  | loaded
  | looping
  /-- It is about to save how it ended. -/
  | leaving (exit : Exit)
  /-- It is in `finally`. -/
  | finishing
  | dead
  deriving DecidableEq, Repr

structure Thread where
  config : Nat
  phase : Phase := .starting
  stop : Bool := false
  deriving DecidableEq, Repr

/-- The thread has not come to its end.  Its last act is to leave the table; then it only logs. -/
def Thread.alive (th : Thread) : Bool := th.phase ≠ .dead

/-- Where the main thread is in **`_poll_posters`**. -/
inductive Poll
  | idle
  /-- The configs still to be looked at. -/
  | next (todo : List Nat)
  /-- It holds the entry of the config. -/
  | found (c t : Nat) (todo : List Nat)
  /-- The thread is dead and its entry dropped. -/
  | popped (c : Nat) (todo : List Nat)
  /-- The row of the dead thread says that it runs. -/
  | lost (c : Nat) (todo : List Nat)
  /-- There is no entry. -/
  | absent (c : Nat) (todo : List Nat)
  /-- The config is enabled and not running. -/
  | ready (c : Nat) (todo : List Nat)
  | looked
  /-- The disabled configs are known. -/
  | stopping (disabled : List Nat)
  | stopped
  /-- The configs that exist are known. -/
  | dropping (existing : List Nat)
  deriving DecidableEq, Repr

/-- The config the poll is at. -/
def Poll.config : Poll → Option Nat
  | .found c _ _ | .popped c _ | .lost c _ | .absent c _ | .ready c _ => some c
  | _ => none

structure State where
  rows : Table Config
  /-- `_poster_threads`. -/
  entries : Nat → Option Nat
  threads : Table Thread
  poll : Poll

/-! ### What the environment decides -/

/-- What comes of a save. -/
inductive Write
  | done
  | failed
  /-- It raises, but the row was written. -/
  | uncertain
  deriving DecidableEq, Repr

/-- The row is written. -/
def Write.applied : Write → Bool
  | .done | .uncertain => true
  | .failed => false

/-- The result of `_check_config_prerequisites`. -/
inductive Missing
  | urls | limits
  deriving DecidableEq, Repr

def Missing.text (game : String) : Missing → String
  | .urls => "No enabled target URLs"
  | .limits => "No variant limits configured (game: " ++ game ++ ")"

/-- The answers to one step. -/
structure Answer where
  /-- The queries of the step return. -/
  read : Bool := true
  write : Write := .done
  /-- The text of what a failing save raises. -/
  error : String := ""
  /-- `close_old_connections()` returns. -/
  closes : Bool := true
  /-- `PA_MART_CREATE_HOLD` is set. -/
  martHold : Bool := false
  missing : Option Missing := none

inductive Event
  /-- The main thread takes its next step. -/
  | poll (a : Answer)
  /-- A thread does. -/
  | thread (t : Nat) (a : Answer)
  /-- The loop of a thread ends. -/
  | leave (t : Nat) (exit : Exit)
  /-- `poster_resume`, or an update. -/
  | enable (c : Nat)
  /-- `poster_stop`, or an update. -/
  | disable (c : Nat)
  | delete (c : Nat)

/-! ### The poll -/

/-- What a save of some fields leaves; a row that is gone is not written. -/
def saved (rows : Table Config) (c : Nat) (w : Write) (f : Config → Config) : Table Config :=
  if w.applied = true then rows.updateWhere (fun k _ => k = c) f else rows

/-- `config.save` returns. -/
def returns (rows : Table Config) (c : Nat) (w : Write) : Bool :=
  w = .done && (rows.get? c).isSome

/-- The fields of a config that is disabled because of the reason. -/
def Config.disabledBy (cfg : Config) (reason : String) : Config :=
  { cfg with enabled := false, disabledReason := reason }

/-- **`_mart_poster_is_held`** -/
def martPosterIsHeld (a : Answer) (cfg : Config) : Bool :=
  a.martHold && isMartAccountStore cfg.store

/-- **`_start_poster_thread`** -/
def State.startPosterThread (s : State) (c : Nat) (todo : List Nat) : State :=
  { s with
    entries := Function.update s.entries c (some s.threads.nextKey)
    threads := s.threads.create { config := c }
    poll := .next todo }

/-- The branch of a dead thread. -/
def State.pollDead (s : State) (a : Answer) (c : Nat) (todo : List Nat) : State :=
  match s.rows.get? c with
  | some cfg =>
    if a.read = false then { s with poll := .idle }
    else if cfg.posterRunning = true then { s with poll := .lost c todo }
    else { s with poll := .next todo }
  | none => { s with poll := .idle }

/-- A config without a thread. -/
def State.pollAbsent (s : State) (a : Answer) (c : Nat) (todo : List Nat) : State :=
  match s.rows.get? c with
  | some cfg =>
    if a.read = false then { s with poll := .idle }
    else if cfg.enabled = true ∧ cfg.posterRunning = false then { s with poll := .ready c todo }
    else { s with poll := .next todo }
  | none => { s with poll := .idle }

/-- A config that should have one. -/
def State.pollReady (s : State) (a : Answer) (c : Nat) (todo : List Nat) : State :=
  match s.rows.get? c with
  | some cfg =>
    if a.read = false then { s with poll := .idle }
    else if martPosterIsHeld a cfg = true then { s with poll := .next todo }
    else
      match a.missing with
      | some missing =>
        { s with
          rows := saved s.rows c a.write (·.disabledBy (missing.text cfg.game))
          poll := if a.write = .done then .next todo else .idle }
      | none => s.startPosterThread c todo
  | none => { s with poll := .idle }

/-- The text a config is disabled with when its thread is found dead. -/
def terminated : String := "Thread terminated unexpectedly"

/-- **`_poll_posters`**, one step.  What raises ends the poll. -/
def State.pollStep (s : State) (a : Answer) : State :=
  match s.poll with
  | .idle =>
    if a.read = true then { s with poll := .next (s.rows.keys fun _ cfg => cfg.enabled) } else s
  | .next [] => { s with poll := .looked }
  | .next (c :: todo) =>
    match s.entries c with
    | some t => { s with poll := .found c t todo }
    | none => { s with poll := .absent c todo }
  | .found c t todo =>
    if (s.threads.get? t).any (·.alive) = true then { s with poll := .next todo }
    else { s with entries := Function.update s.entries c none, poll := .popped c todo }
  | .popped c todo => s.pollDead a c todo
  | .lost c todo =>
    { s with
      rows := saved s.rows c a.write fun cfg =>
        { cfg.disabledBy terminated with posterRunning := false }
      poll := if returns s.rows c a.write = true then .next todo else .idle }
  | .absent c todo => s.pollAbsent a c todo
  | .ready c todo => s.pollReady a c todo
  | .looked =>
    { s with poll :=
      if a.read = true then .stopping (s.rows.keys fun _ cfg => !cfg.enabled) else .idle }
  | .stopping disabled =>
    { s with
      threads := s.threads.updateWhere
        (fun t th => disabled.contains th.config && s.entries th.config = some t)
        fun th => { th with stop := true }
      poll := .stopped }
  | .stopped =>
    { s with poll := if a.read = true then .dropping (s.rows.keys fun _ _ => true) else .idle }
  | .dropping existing =>
    { s with
      threads := s.threads.updateWhere
        (fun t th => !existing.contains th.config && s.entries th.config = some t)
        fun th => { th with stop := true }
      entries := fun c => if existing.contains c then s.entries c else none
      poll := .idle }

/-! ### The threads -/

/-- What the handlers save. -/
def Exit.save : Exit → Config → Config
  | .normal, cfg => { cfg with posterRunning := false }
  | .pause lastError, cfg =>
    { cfg.disabledBy (floodReason lastError) with posterRunning := false }
  | .crash error, cfg =>
    { cfg.disabledBy ("Unexpected error: " ++ takeChars 200 error) with posterRunning := false }

def State.setPhase (s : State) (t : Nat) (phase : Phase) : State :=
  { s with threads :=
    s.threads.updateWhere (fun k _ => k = t) fun th => { th with phase := phase } }

/-- **`_poster_thread_wrapper`**, one step.  In `leaving`, the refresh comes before the save; the
handler of a crash swallows what they raise, the others leave it to `finally`. -/
def State.threadStep (s : State) (a : Answer) (t : Nat) (th : Thread) : State :=
  match th.phase with
  | .starting =>
    s.setPhase t
      (if (s.rows.get? th.config).isSome = true ∧ a.read = true then .loaded else .finishing)
  | .loaded =>
    { s with rows := saved s.rows th.config a.write fun cfg =>
        { cfg with posterRunning := true } }.setPhase t
      (if returns s.rows th.config a.write = true then .looping else .leaving (.crash a.error))
  | .looping | .dead => s
  | .leaving exit =>
    { s with rows := if a.read = true then saved s.rows th.config a.write exit.save
        else s.rows }.setPhase t .finishing
  | .finishing =>
    { s with entries := if a.closes = true then Function.update s.entries th.config none
        else s.entries }.setPhase t .dead

/-- `poster_loop` returns only if it was told to stop or reads that the config is disabled. -/
def State.mayLeave (s : State) (th : Thread) (exit : Exit) : Bool :=
  th.phase = .looping &&
    (exit ≠ .normal || th.stop || (s.rows.get? th.config).any (!·.enabled))

/-! ### The system -/

def step (s : State) : Event → State
  | .poll a => s.pollStep a
  | .thread t a =>
    match s.threads.get? t with
    | some th => s.threadStep a t th
    | none => s
  | .leave t exit =>
    match s.threads.get? t with
    | some th => if s.mayLeave th exit = true then s.setPhase t (.leaving exit) else s
    | none => s
  | .enable c =>
    { s with rows := s.rows.updateWhere (fun k _ => k = c) fun cfg =>
      { cfg with enabled := true, disabledReason := "" } }
  | .disable c =>
    { s with rows := s.rows.updateWhere (fun k _ => k = c) fun cfg =>
      { cfg with enabled := false } }
  | .delete c => { s with rows := s.rows.deleteWhere fun k _ => k = c }

/-- After **`_recover_stale_locks`**: no row says that a thread runs, and none does. -/
def start (rows : Table Config) : State where
  rows := rows.mapRows fun _ cfg => { cfg with posterRunning := false }
  entries _ := none
  threads := .empty
  poll := .idle

/-! ### What holds in every state -/

variable {s s' : State} {c t : Nat}

/-- What the main thread may rely on where it is. -/
def State.pollSound (s : State) : Prop :=
  match s.poll with
  | .found c t _ =>
    (∃ th, s.threads.get? t = some th ∧ th.config = c) ∧ (s.entries c = some t ∨ s.entries c = none)
  | .popped c _ | .lost c _ | .absent c _ => s.entries c = none
  | .ready c _ =>
    s.entries c = none ∧ (∀ t th, s.threads.get? t = some th → th.alive = true → th.config ≠ c) ∧
      ∀ cfg, s.rows.get? c = some cfg → cfg.posterRunning = false
  | .dropping existing => ∀ c cfg, s.rows.get? c = some cfg → c ∈ existing
  | _ => True

structure Sound (s : State) : Prop where
  /-- An entry of the table is a thread of its config, -/
  registered : ∀ c t, s.entries c = some t →
    ∃ th, s.threads.get? t = some th ∧ th.config = c
  /-- a thread of a config that exists has its entry, -/
  listed : ∀ t th, s.threads.get? t = some th → th.alive = true →
    ∀ cfg, s.rows.get? th.config = some cfg → s.entries th.config = some t
  /-- and no config has two threads. -/
  single : ∀ t u th uh, s.threads.get? t = some th → s.threads.get? u = some uh →
    th.alive = true → uh.alive = true → th.config = uh.config → t = u
  poll : s.pollSound

/-- Without an entry there is no thread. -/
theorem Sound.no_thread (h : Sound s) {cfg : Config} (hrow : s.rows.get? c = some cfg)
    (hentry : s.entries c = none) {th : Thread} (hth : s.threads.get? t = some th)
    (halive : th.alive = true) : th.config ≠ c := by
  rintro rfl
  have hlisted := h.listed t th hth halive cfg hrow
  rw [hentry] at hlisted
  cases hlisted

/-- The threads are those of before, and none has come back to life. -/
structure Fewer (s s' : State) : Prop where
  old : ∀ t th', s'.threads.get? t = some th' → ∃ th, s.threads.get? t = some th ∧
    th.config = th'.config ∧ (th'.alive = true → th.alive = true)
  kept : ∀ t th, s.threads.get? t = some th →
    ∃ th', s'.threads.get? t = some th' ∧ th'.config = th.config

theorem Fewer.of_eq (h : s'.threads = s.threads) : Fewer s s' := by
  constructor
  · intro t th hth
    rw [h] at hth
    exact ⟨th, hth, rfl, id⟩
  · intro t th hth
    rw [← h] at hth
    exact ⟨th, hth, rfl⟩

theorem Fewer.of_update {p : Nat → Thread → Bool} {f : Thread → Thread}
    (hconfig : ∀ th, (f th).config = th.config)
    (halive : ∀ t th, s.threads.get? t = some th → p t th = true → (f th).alive = true →
      th.alive = true)
    (h : s'.threads = s.threads.updateWhere p f) : Fewer s s' := by
  constructor
  · intro t th' hth'
    rw [h, Table.get?_updateWhere] at hth'
    obtain ⟨th, hth, rfl⟩ := Option.map_eq_some_iff.mp hth'
    refine ⟨th, hth, ?_, ?_⟩
    · split
      · exact (hconfig th).symm
      · rfl
    · split
      · next hp => exact halive t th hth hp
      · exact id
  · intro t th hth
    rw [h, Table.get?_updateWhere, hth]
    refine ⟨_, rfl, ?_⟩
    show (if p t th = true then f th else th).config = th.config
    split
    · exact hconfig th
    · rfl

/-- A step that registers no thread. -/
theorem Sound.of_fewer (h : Sound s) (hthreads : Fewer s s')
    (hentries : ∀ c t, s'.entries c = some t → s.entries c = some t)
    (hlisted : ∀ t th, s'.threads.get? t = some th → th.alive = true →
      ∀ cfg, s'.rows.get? th.config = some cfg → s'.entries th.config = some t)
    (hpoll : s'.pollSound) : Sound s' where
  registered c t hentry := by
    obtain ⟨th, hth, hc⟩ := h.registered c t (hentries c t hentry)
    obtain ⟨th', hth', hc'⟩ := hthreads.kept t th hth
    exact ⟨th', hth', hc'.trans hc⟩
  listed := hlisted
  single t u th uh hth huh hat hau heq := by
    obtain ⟨th₀, hth₀, hc, ha⟩ := hthreads.old t th hth
    obtain ⟨uh₀, huh₀, hd, hb⟩ := hthreads.old u uh huh
    exact h.single t u th₀ uh₀ hth₀ huh₀ (ha hat) (hb hau) (by rw [hc, hd, heq])
  poll := hpoll

/-- No row comes back, and only a thread says that it runs. -/
def Shrinks (s s' : State) : Prop :=
  ∀ c cfg', s'.rows.get? c = some cfg' → ∃ cfg, s.rows.get? c = some cfg ∧
    (cfg'.posterRunning = true → cfg.posterRunning = true ∨
      ∃ t th, s.threads.get? t = some th ∧ th.alive = true ∧ th.config = c)

theorem Shrinks.of_eq (h : s'.rows = s.rows) : Shrinks s s' := by
  intro c cfg hrow
  rw [h] at hrow
  exact ⟨cfg, hrow, Or.inl⟩

theorem Shrinks.of_update {p : Nat → Config → Bool} {f : Config → Config}
    (hf : ∀ c cfg, p c cfg = true → (f cfg).posterRunning = true → cfg.posterRunning = true ∨
      ∃ t th, s.threads.get? t = some th ∧ th.alive = true ∧ th.config = c)
    (h : s'.rows = s.rows.updateWhere p f) : Shrinks s s' := by
  intro c cfg' hrow
  rw [h, Table.get?_updateWhere] at hrow
  obtain ⟨cfg, hcfg, rfl⟩ := Option.map_eq_some_iff.mp hrow
  refine ⟨cfg, hcfg, ?_⟩
  split
  · next hp => exact hf c cfg hp
  · exact Or.inl

theorem Shrinks.of_saved {w : Write} {f : Config → Config}
    (hf : ∀ cfg, (f cfg).posterRunning = true → cfg.posterRunning = true ∨
      ∃ t th, s.threads.get? t = some th ∧ th.alive = true ∧ th.config = c)
    (h : s'.rows = saved s.rows c w f) : Shrinks s s' := by
  unfold saved at h
  split at h
  · apply Shrinks.of_update _ h
    intro k cfg hk
    have hkc : k = c := by simpa using hk
    rw [hkc]
    exact hf cfg
  · exact Shrinks.of_eq h

/-- While the main thread stands still, what it relies on stays. -/
theorem State.pollSound.stays (h : s.pollSound) (hpoll : s'.poll = s.poll)
    (hthreads : Fewer s s') (hrows : Shrinks s s')
    (hentries : ∀ c, s'.entries c = s.entries c ∨ s'.entries c = none) : s'.pollSound := by
  have hnone : ∀ {c}, s.entries c = none → s'.entries c = none := by
    intro c hc
    rcases hentries c with heq | heq
    · rw [heq, hc]
    · exact heq
  unfold State.pollSound at h ⊢
  rw [hpoll]
  cases hat : s.poll <;> rw [hat] at h
  case found c t todo =>
    obtain ⟨⟨th, hth, hc⟩, hentry⟩ := h
    obtain ⟨th', hth', hc'⟩ := hthreads.kept t th hth
    refine ⟨⟨th', hth', hc'.trans hc⟩, ?_⟩
    rcases hentries c with heq | heq
    · rwa [heq]
    · exact Or.inr heq
  case ready c todo =>
    obtain ⟨hentry, hnobody, hstopped⟩ := h
    refine ⟨hnone hentry, ?_, ?_⟩
    · intro t th' hth' halive
      obtain ⟨th, hth, hc, ha⟩ := hthreads.old t th' hth'
      rw [← hc]
      exact hnobody t th hth (ha halive)
    · intro cfg' hcfg'
      obtain ⟨cfg, hcfg, hruns⟩ := hrows c cfg' hcfg'
      have hnot := hstopped cfg hcfg
      cases hrunning : cfg'.posterRunning with
      | false => rfl
      | true =>
        rcases hruns hrunning with hold | ⟨t, th, hth, halive, hc⟩
        · rw [hold] at hnot
          cases hnot
        · exact absurd hc (hnobody t th hth halive)
  case dropping existing =>
    intro c cfg' hcfg'
    obtain ⟨cfg, hcfg, -⟩ := hrows c cfg' hcfg'
    exact h c cfg hcfg
  all_goals first
    | exact hnone h
    | trivial

/-- A step that leaves the table alone. -/
theorem Sound.of_quiet (h : Sound s) (hthreads : Fewer s s') (hrows : Shrinks s s')
    (hentries : s'.entries = s.entries) (hpoll : s'.pollSound) : Sound s' := by
  apply h.of_fewer hthreads
  · intro c t hentry
    rwa [hentries] at hentry
  · intro t th hth halive cfg hcfg
    obtain ⟨th₀, hth₀, hc, ha⟩ := hthreads.old t th hth
    obtain ⟨cfg₀, hcfg₀, -⟩ := hrows th.config cfg hcfg
    rw [← hc] at hcfg₀
    rw [hentries, ← hc]
    exact h.listed t th₀ hth₀ (ha halive) cfg₀ hcfg₀
  · exact hpoll

/-! ### Each step keeps it -/

variable {th : Thread} {a : Answer}

theorem Fewer.of_setPhase {phase : Phase} (hth : s.threads.get? t = some th)
    (halive : th.alive = true) (h : s'.threads = (s.setPhase t phase).threads) : Fewer s s' := by
  have hupdate : s'.threads =
      s.threads.updateWhere (fun k _ => k = t) fun th => { th with phase := phase } := h
  refine Fewer.of_update ?_ ?_ hupdate
  · exact fun _ => rfl
  intro k kh hkh hk _
  have hkt : k = t := by simpa using hk
  rw [hkt, hth] at hkh
  rw [← Option.some.inj hkh]
  exact halive

/-- A save by one of the handlers. -/
theorem Exit.save_running {exit : Exit} {cfg : Config} : (exit.save cfg).posterRunning = false := by
  cases exit <;> rfl

/-- The last act of a thread: nobody else has its entry. -/
theorem Sound.leaves (h : Sound s) (hth : s.threads.get? t = some th) (halive : th.alive = true) :
    Sound ({ s with entries := Function.update s.entries th.config none }.setPhase t .dead) := by
  have hthreads : Fewer s
      ({ s with entries := Function.update s.entries th.config none }.setPhase t .dead) :=
    Fewer.of_setPhase hth halive rfl
  have hentries : ∀ c, Function.update s.entries th.config none c = s.entries c ∨
      Function.update s.entries th.config none c = none := by
    intro c
    by_cases hc : c = th.config
    · exact Or.inr (by rw [hc, Function.update_self])
    · exact Or.inl (Function.update_of_ne hc _ _)
  apply h.of_fewer hthreads
  · intro c u hentry
    rcases hentries c with heq | heq
    · exact heq ▸ hentry
    · have hnone : Function.update s.entries th.config none c = some u := hentry
      rw [heq] at hnone
      cases hnone
  · intro u uh huh hau cfg hcfg
    have hu := huh
    change (s.threads.updateWhere _ _).get? u = some uh at hu
    rw [Table.get?_updateWhere] at hu
    obtain ⟨uh₀, huh₀, hmap⟩ := Option.map_eq_some_iff.mp hu
    have hut : u ≠ t := by
      rintro rfl
      rw [if_pos (by simp)] at hmap
      rw [← hmap] at hau
      cases hau
    rw [if_neg (by simpa using hut)] at hmap
    subst hmap
    have hlisted : s.entries uh₀.config = some u := h.listed u uh₀ huh₀ hau cfg hcfg
    show Function.update s.entries th.config none uh₀.config = some u
    rw [Function.update_of_ne, hlisted]
    intro heq
    exact hut (h.single u t uh₀ th huh₀ hth hau halive heq)
  · exact h.poll.stays rfl hthreads (Shrinks.of_eq rfl) hentries

/-- A step of a thread that keeps its entry. -/
theorem Sound.of_thread {phase : Phase} (h : Sound s) (hth : s.threads.get? t = some th)
    (halive : th.alive = true) (hthreads : s'.threads = (s.setPhase t phase).threads)
    (hpoll : s'.poll = s.poll) (hentries : s'.entries = s.entries) (hrows : Shrinks s s') :
    Sound s' := by
  have hfewer := Fewer.of_setPhase hth halive hthreads
  apply h.of_quiet hfewer hrows hentries
  exact h.poll.stays hpoll hfewer hrows fun c => Or.inl (by rw [hentries])

theorem Sound.threadStep (h : Sound s) (hth : s.threads.get? t = some th) :
    Sound (s.threadStep a t th) := by
  have halive : th.phase ≠ .dead → th.alive = true := by
    intro hne
    exact decide_eq_true hne
  unfold State.threadStep
  cases hphase : th.phase <;> rw [hphase] at halive <;> dsimp only
  case starting => exact h.of_thread hth (halive nofun) rfl rfl rfl (Shrinks.of_eq rfl)
  case loaded =>
    refine h.of_thread hth (halive nofun) (Eq.refl _) rfl rfl ?_
    exact Shrinks.of_saved (fun _ _ => Or.inr ⟨t, th, hth, halive nofun, rfl⟩) rfl
  case looping => exact h
  case dead => exact h
  case leaving exit =>
    refine h.of_thread hth (halive nofun) (Eq.refl _) rfl rfl ?_
    by_cases hread : a.read = true
    · apply Shrinks.of_saved (w := a.write) (f := exit.save) (c := th.config)
      · intro cfg hrunning
        rw [Exit.save_running] at hrunning
        cases hrunning
      · exact if_pos hread
    · exact Shrinks.of_eq (if_neg hread)
  case finishing =>
    split
    · exact h.leaves hth (halive nofun)
    · exact h.of_thread hth (halive nofun) rfl rfl rfl (Shrinks.of_eq rfl)

/-- The main thread moves, and nothing else changes. -/
theorem Sound.moves (h : Sound s) {poll : Poll}
    (hpoll : State.pollSound { s with poll := poll }) : Sound { s with poll := poll } :=
  h.of_quiet (Fewer.of_eq rfl) (Shrinks.of_eq rfl) rfl hpoll

theorem pollSound_ite {b : Prop} [Decidable b] {p q : Poll} (h : s.poll = if b then p else q)
    (hp : b → State.pollSound { s with poll := p }) (hq : State.pollSound { s with poll := q }) :
    s.pollSound := by
  by_cases hb : b
  · rw [if_pos hb] at h
    have hsound := hp hb
    rwa [← h] at hsound
  · rw [if_neg hb] at h
    rwa [← h] at hq

theorem Sound.pollDead (h : Sound s) {todo : List Nat} (hentry : s.entries c = none) :
    Sound (s.pollDead a c todo) := by
  unfold State.pollDead
  split
  · split
    · exact h.moves trivial
    · split
      · exact h.moves hentry
      · exact h.moves trivial
  · exact h.moves trivial

theorem Sound.pollAbsent (h : Sound s) {todo : List Nat} (hentry : s.entries c = none) :
    Sound (s.pollAbsent a c todo) := by
  unfold State.pollAbsent
  split
  · next cfg hcfg =>
    split
    · exact h.moves trivial
    · split
      · next hready =>
        apply h.moves
        refine ⟨hentry, fun t th hth halive => h.no_thread hcfg hentry hth halive, ?_⟩
        intro cfg' hcfg'
        have hsame : s.rows.get? c = some cfg' := hcfg'
        rw [hcfg] at hsame
        rw [← Option.some.inj hsame]
        exact hready.2
      · exact h.moves trivial
  · exact h.moves trivial

/-- A new thread: the config has no other. -/
theorem Sound.startPosterThread (h : Sound s) {todo : List Nat}
    (hnobody : ∀ t th, s.threads.get? t = some th → th.alive = true → th.config ≠ c) :
    Sound (s.startPosterThread c todo) := by
  have hcases : ∀ t th, (s.startPosterThread c todo).threads.get? t = some th →
      (t = s.threads.nextKey ∧ th.config = c) ∨ s.threads.get? t = some th := by
    intro t th hth
    change (s.threads.create _).get? t = some th at hth
    rw [Table.get?_create] at hth
    split at hth
    · next ht => exact Or.inl ⟨ht, by rw [← Option.some.inj hth]⟩
    · exact Or.inr hth
  constructor
  · intro d t hentry
    change Function.update s.entries c (some s.threads.nextKey) d = some t at hentry
    show ∃ th, (s.threads.create _).get? t = some th ∧ th.config = d
    by_cases hd : d = c
    · rw [hd, Function.update_self] at hentry
      rw [← Option.some.inj hentry, hd, Table.get?_create, if_pos rfl]
      exact ⟨_, rfl, rfl⟩
    · rw [Function.update_of_ne hd] at hentry
      obtain ⟨th, hth, hconfig⟩ := h.registered d t hentry
      exact ⟨th, Table.get?_create_of_some hth, hconfig⟩
  · intro t th hth halive cfg hcfg
    show Function.update s.entries c (some s.threads.nextKey) th.config = some t
    rcases hcases t th hth with ⟨ht, hc⟩ | hold
    · rw [hc, Function.update_self, ht]
    · rw [Function.update_of_ne (hnobody t th hold halive)]
      exact h.listed t th hold halive cfg hcfg
  · intro t u th uh hth huh hat hau heq
    rcases hcases t th hth with ⟨ht, hc⟩ | hold <;>
      rcases hcases u uh huh with ⟨hu, hd⟩ | hother
    · rw [ht, hu]
    · exact absurd (heq.symm.trans hc) (hnobody u uh hother hau)
    · exact absurd (heq.trans hd) (hnobody t th hold hat)
    · exact h.single t u th uh hold hother hat hau heq
  · trivial

theorem Sound.pollReady (h : Sound s) {todo : List Nat}
    (hnobody : ∀ t th, s.threads.get? t = some th → th.alive = true → th.config ≠ c) :
    Sound (s.pollReady a c todo) := by
  unfold State.pollReady
  split
  · split
    · exact h.moves trivial
    · split
      · exact h.moves trivial
      · split
        · refine h.of_quiet (Fewer.of_eq rfl) (Shrinks.of_saved ?_ (Eq.refl _)) rfl ?_
          · exact fun cfg hrunning => Or.inl hrunning
          · exact pollSound_ite (Eq.refl _) (fun _ => trivial) trivial
        · exact h.startPosterThread hnobody
  · exact h.moves trivial

/-- A dead thread leaves the table. -/
theorem Sound.pops (h : Sound s) {todo : List Nat}
    (hentry : s.entries c = some t ∨ s.entries c = none)
    (hdead : (s.threads.get? t).any (·.alive) ≠ true) :
    Sound { s with entries := Function.update s.entries c none, poll := .popped c todo } := by
  refine h.of_fewer (Fewer.of_eq rfl) ?_ ?_ ?_
  · intro d u hu
    change Function.update s.entries c none d = some u at hu
    by_cases hd : d = c
    · rw [hd, Function.update_self] at hu
      cases hu
    · rwa [Function.update_of_ne hd] at hu
  · intro u uh huh hau cfg hcfg
    have hlisted : s.entries uh.config = some u := h.listed u uh huh hau cfg hcfg
    show Function.update s.entries c none uh.config = some u
    rw [Function.update_of_ne, hlisted]
    rintro rfl
    rw [hlisted] at hentry
    rcases hentry with heq | heq
    · apply hdead
      rw [← Option.some.inj heq, show s.threads.get? u = some uh from huh]
      exact hau
    · cases heq
  · exact Function.update_self _ _ _

/-- The entries of the configs that are gone go. -/
theorem Sound.drops (h : Sound s) {existing : List Nat}
    (hexisting : ∀ c cfg, s.rows.get? c = some cfg → c ∈ existing) {threads : Table Thread}
    (hthreads : Fewer s { s with threads := threads }) :
    Sound { s with
      threads := threads
      entries := fun c => if existing.contains c then s.entries c else none
      poll := .idle } := by
  refine h.of_fewer ⟨hthreads.old, hthreads.kept⟩ ?_ ?_ ?_
  · intro c t hentry
    change (if existing.contains c then s.entries c else none) = some t at hentry
    split at hentry
    · exact hentry
    · cases hentry
  · intro t th hth halive cfg hcfg
    obtain ⟨th₀, hth₀, hc, ha⟩ := hthreads.old t th hth
    show (if existing.contains th.config then s.entries th.config else none) = some t
    rw [if_pos (by simpa using hexisting th.config cfg hcfg)]
    rw [← hc] at hcfg ⊢
    exact h.listed t th₀ hth₀ (ha halive) cfg hcfg
  · trivial

theorem fewer_stop (s : State) (p : Nat → Thread → Bool) :
    Fewer s { s with threads := s.threads.updateWhere p fun th => { th with stop := true } } := by
  refine Fewer.of_update (f := fun th => { th with stop := true }) ?_ ?_ rfl
  · exact fun _ => rfl
  · exact fun _ _ _ _ halive => halive

theorem Sound.pollStep (h : Sound s) : Sound (s.pollStep a) := by
  have hpoll := h.poll
  unfold State.pollStep
  unfold State.pollSound at hpoll
  cases hat : s.poll <;> rw [hat] at hpoll <;> dsimp only
  case idle =>
    split
    · exact h.moves trivial
    · exact h
  case next todo =>
    cases todo with
    | nil => exact h.moves trivial
    | cons c todo =>
      dsimp only
      split
      · next t hentry => exact h.moves ⟨h.registered c t hentry, Or.inl hentry⟩
      · next hentry => exact h.moves hentry
  case found c t todo =>
    split
    · exact h.moves trivial
    · next hdead => exact h.pops hpoll.2 hdead
  case popped c todo => exact h.pollDead hpoll
  case lost c todo =>
    refine h.of_quiet (Fewer.of_eq rfl) (Shrinks.of_saved ?_ (Eq.refl _)) rfl ?_
    · exact fun cfg hrunning => Or.inl (by cases hrunning)
    · exact pollSound_ite (Eq.refl _) (fun _ => trivial) trivial
  case absent c todo => exact h.pollAbsent hpoll
  case ready c todo => exact h.pollReady hpoll.2.1
  case looked => exact h.moves (pollSound_ite (Eq.refl _) (fun _ => trivial) trivial)
  case stopping disabled =>
    have hfewer := fewer_stop s fun t th =>
      disabled.contains th.config && s.entries th.config = some t
    exact h.of_quiet ⟨hfewer.old, hfewer.kept⟩ (Shrinks.of_eq rfl) rfl trivial
  case stopped =>
    refine h.moves (pollSound_ite (Eq.refl _) (fun _ => ?_) trivial)
    exact fun c cfg hcfg => Table.mem_keys.mpr ⟨cfg, hcfg, rfl⟩
  case dropping existing => exact h.drops hpoll (fewer_stop s _)

/-- A user does not say that a thread runs. -/
theorem shrinks_edit {f : Config → Config}
    (hf : ∀ cfg, (f cfg).posterRunning = true → cfg.posterRunning = true) :
    Shrinks s { s with rows := s.rows.updateWhere (fun k _ => k = c) f } :=
  Shrinks.of_update (p := fun k _ => k = c) (fun _ cfg _ hrunning => Or.inl (hf cfg hrunning)) rfl

theorem Sound.step (h : Sound s) (e : Event) : Sound (step s e) := by
  have hedit : ∀ rows : Table Config, Shrinks s { s with rows := rows } →
      Sound { s with rows := rows } := by
    intro rows hrows
    exact h.of_quiet (Fewer.of_eq rfl) hrows rfl
      (h.poll.stays rfl (Fewer.of_eq rfl) hrows fun _ => Or.inl rfl)
  cases e with
  | poll a => exact h.pollStep
  | thread t a =>
    unfold Scheduler.step
    dsimp only
    split
    · next th hth => exact h.threadStep hth
    · exact h
  | leave t exit =>
    unfold Scheduler.step
    dsimp only
    split
    · next th hth =>
      split
      · next hmay =>
        have hlooping : th.phase = .looping := by
          rw [State.mayLeave, Bool.and_eq_true] at hmay
          exact of_decide_eq_true hmay.1
        refine h.of_thread hth (decide_eq_true ?_) (Eq.refl _) rfl rfl (Shrinks.of_eq rfl)
        rw [hlooping]
        nofun
      · exact h
    · exact h
  | enable c => exact hedit _ (shrinks_edit fun _ hrunning => hrunning)
  | disable c => exact hedit _ (shrinks_edit fun _ hrunning => hrunning)
  | delete c =>
    apply hedit
    intro k cfg hcfg
    exact ⟨cfg, (Table.get?_deleteWhere.mp hcfg).1, Or.inl⟩

theorem sound_start (rows : Table Config) : Sound (start rows) where
  registered _ _ h := by cases h
  listed _ _ h := by cases h
  single _ _ _ _ h := by cases h
  poll := trivial

end Sda.Dropship.Scheduler
