/-
Sda/Dropship/WorkerState.lean

What becomes of a config whose poster thread has ended.

The poll looks for a dead thread in the thread table, and a thread ends by taking its entry out of
it.  So a config whose thread could not save how it ended is enabled and running for good.

* `worker_state` — at most one thread works for a config, none is stuck, and every config that is
  down has a thread again or is disabled when a poll has come past it twice, exactly if no step
  gives up a config (`GivesUp`);
* `left_for_dead` — a thread whose last save fails: its config stays stuck whatever happens, until
  a user disables or deletes it.
-/
import Sda.Dropship.Scheduler

namespace Sda.Dropship.Scheduler

variable {s s' : State} {c t : Nat} {th : Thread} {a : Answer}

/-! ### A config that is given up -/

/-- The poll has the entry of the config in hand, or has found its thread dead. -/
def Poll.handles : Poll → Nat → Bool
  | .found c _ _, d | .popped c _, d | .lost c _, d => c == d
  | _, _ => false

/-- The row says that the poster is to run, and that it does. -/
def State.saysRunning (s : State) (c : Nat) : Prop :=
  ∃ cfg, s.rows.get? c = some cfg ∧ cfg.enabled = true ∧ cfg.posterRunning = true

/-- A config that is left enabled and running, with no thread and nothing that knows of one. -/
structure Stuck (s : State) (c : Nat) : Prop where
  row : s.saysRunning c
  noEntry : s.entries c = none
  unhandled : s.poll.handles c = false

/-- The step gives up the config: a thread takes its entry along, or the poll fails where it has
found the thread dead, and the row still says that the poster runs; or the config is enabled
after that. -/
def GivesUp (s : State) (e : Event) (c : Nat) : Prop :=
  match e with
  | .thread t a =>
    s.saysRunning c ∧ s.poll.handles c = false ∧ a.closes = true ∧
      ∃ th, s.threads.get? t = some th ∧ th.phase = .finishing ∧ th.config = c
  | .poll a =>
    s.saysRunning c ∧ ((∃ todo, s.poll = .popped c todo ∧ a.read = false) ∨
      ∃ todo, s.poll = .lost c todo ∧ a.write.applied = false)
  | .enable d =>
    d = c ∧ (∃ cfg, s.rows.get? c = some cfg ∧ cfg.posterRunning = true) ∧ s.entries c = none ∧
      s.poll.handles c = false
  | _ => False

/-- What a step leaves alone was stuck before it. -/
theorem Stuck.before (h : Stuck s' c) (hrow : s'.rows.get? c = s.rows.get? c)
    (hentry : s'.entries c = s.entries c) (hhandles : s'.poll.handles c = s.poll.handles c) :
    Stuck s c := by
  refine ⟨?_, hentry ▸ h.noEntry, hhandles ▸ h.unhandled⟩
  obtain ⟨cfg, hcfg, hruns⟩ := h.row
  exact ⟨cfg, hrow ▸ hcfg, hruns⟩

section Saved

variable {rows : Table Config} {w : Write} {f : Config → Config} {k : Nat}

theorem get?_saved_ne (h : k ≠ c) : (saved rows c w f).get? k = rows.get? k := by
  unfold saved
  split
  · rw [Table.get?_updateWhere]
    cases rows.get? k with
    | none => rfl
    | some cfg => simp [h]
  · rfl

theorem get?_saved_self (h : w.applied = true) :
    (saved rows c w f).get? c = (rows.get? c).map f := by
  unfold saved
  rw [if_pos h, Table.get?_updateWhere]
  simp

end Saved

/-- The row a thread of the config has written. -/
theorem Stuck.of_saved {d : Nat} {w : Write} {f : Config → Config} (hstuck : Stuck s' c)
    (hrows : s'.rows = saved s.rows d w f)
    (hf : ∀ cfg, (f cfg).enabled = true → (f cfg).posterRunning = true → False)
    (hentry : s'.entries c = s.entries c) (hhandles : s'.poll.handles c = s.poll.handles c) :
    Stuck s c := by
  have hkept : s'.rows.get? c = s.rows.get? c := by
    obtain ⟨cfg, hcfg, henabled, hrunning⟩ := hstuck.row
    by_cases happlied : w.applied = true
    · rw [hrows]
      apply get?_saved_ne
      rintro rfl
      rw [hrows, get?_saved_self happlied] at hcfg
      obtain ⟨old, -, rfl⟩ := Option.map_eq_some_iff.mp hcfg
      exact hf old henabled hrunning
    · rw [hrows, saved, if_neg happlied]
  exact hstuck.before hkept hentry hhandles

theorem stuck_threadStep (h : Sound s) (hc : ¬Stuck s c) (hth : s.threads.get? t = some th) :
    Stuck (s.threadStep a t th) c ↔ GivesUp s (.thread t a) c := by
  -- outside `finally` the entry stays, so nothing is given up
  have hkeeps : th.phase ≠ .finishing → ¬GivesUp s (.thread t a) c := by
    rintro hne ⟨-, -, -, th', hth', hfinishing, -⟩
    rw [hth] at hth'
    rw [← Option.some.inj hth'] at hfinishing
    exact hne hfinishing
  unfold State.threadStep
  cases hphase : th.phase <;> dsimp only
  case starting =>
    apply iff_of_false _ (hkeeps (by rw [hphase]; nofun))
    exact fun hstuck => hc (hstuck.before rfl rfl rfl)
  case loaded =>
    apply iff_of_false _ (hkeeps (by rw [hphase]; nofun))
    intro hstuck
    apply hc
    have hne : c ≠ th.config := by
      rintro rfl
      obtain ⟨cfg, hcfg, -, -⟩ := hstuck.row
      change (saved _ _ _ _).get? _ = some cfg at hcfg
      have hold : ∃ old, s.rows.get? th.config = some old := by
        by_cases happlied : a.write.applied = true
        · rw [get?_saved_self happlied] at hcfg
          obtain ⟨old, hold, -⟩ := Option.map_eq_some_iff.mp hcfg
          exact ⟨old, hold⟩
        · rw [saved, if_neg happlied] at hcfg
          exact ⟨cfg, hcfg⟩
      obtain ⟨old, hold⟩ := hold
      have hentry := h.listed t th hth (decide_eq_true (by rw [hphase]; nofun)) old hold
      have hnone : s.entries th.config = none := hstuck.noEntry
      rw [hentry] at hnone
      cases hnone
    exact hstuck.before (get?_saved_ne hne) rfl rfl
  case looping => exact iff_of_false hc (hkeeps (by rw [hphase]; nofun))
  case dead => exact iff_of_false hc (hkeeps (by rw [hphase]; nofun))
  case leaving exit =>
    apply iff_of_false _ (hkeeps (by rw [hphase]; nofun))
    intro hstuck
    apply hc
    by_cases hread : a.read = true
    · refine hstuck.of_saved (d := th.config) (w := a.write) (f := exit.save) (if_pos hread) ?_
        rfl rfl
      intro cfg _ hrunning
      rw [Exit.save_running] at hrunning
      cases hrunning
    · exact hstuck.before (congrArg (fun rows : Table Config => rows.get? c) (if_neg hread)) rfl rfl
  case finishing =>
    by_cases hcloses : a.closes = true
    · rw [if_pos hcloses]
      by_cases hconfig : th.config = c
      · constructor
        · intro hstuck
          exact ⟨hstuck.row, hstuck.unhandled, hcloses, th, hth, hphase, hconfig⟩
        · rintro ⟨hsaid, hunhandled, -, -⟩
          refine ⟨hsaid, ?_, hunhandled⟩
          show Function.update s.entries th.config none c = none
          rw [hconfig, Function.update_self]
      · apply iff_of_false
        · intro hstuck
          apply hc
          exact hstuck.before rfl (Function.update_of_ne (fun heq => hconfig heq.symm) _ _) rfl
        · rintro ⟨-, -, -, th', hth', -, hconfig'⟩
          rw [hth] at hth'
          rw [← Option.some.inj hth'] at hconfig'
          exact hconfig hconfig'
    · rw [if_neg hcloses]
      apply iff_of_false
      · exact fun hstuck => hc (hstuck.before rfl rfl rfl)
      · exact fun hgives => hcloses hgives.2.2.1

/-- Where the poll does not have a dead thread in hand, it gives up nothing. -/
theorem not_gives_poll (hpopped : ∀ d todo, s.poll ≠ .popped d todo)
    (hlost : ∀ d todo, s.poll ≠ .lost d todo) : ¬GivesUp s (.poll a) c := by
  rintro ⟨-, ⟨todo, hat, -⟩ | ⟨todo, hat, -⟩⟩
  · exact hpopped _ _ hat
  · exact hlost _ _ hat

/-- The poll moves on, and the config was and is not in its hands. -/
theorem not_stuck_moved (hc : ¬Stuck s c) {poll : Poll} (hbefore : s.poll.handles c = false)
    (hafter : poll.handles c = false) : ¬Stuck { s with poll := poll } c :=
  fun hstuck => hc (hstuck.before rfl rfl (hafter.trans hbefore.symm))

theorem stuck_pollDead (hc : ¬Stuck s c) {d : Nat} {todo : List Nat}
    (hat : s.poll = .popped d todo) (hentry : s.entries d = none) :
    Stuck (s.pollDead a d todo) c ↔ GivesUp s (.poll a) c := by
  have hsaid : ∀ {cfg : Config}, s.rows.get? d = some cfg → s.saysRunning d →
      cfg.posterRunning = true := by
    rintro cfg hcfg ⟨cfg', hcfg', -, hrunning⟩
    rw [hcfg] at hcfg'
    rwa [Option.some.inj hcfg']
  have hother : ∀ poll : Poll, d ≠ c → poll.handles c = false →
      ¬Stuck { s with poll := poll } c := by
    intro poll hdc hhandles
    apply not_stuck_moved hc _ hhandles
    rw [hat]
    exact beq_eq_false_iff_ne.mpr hdc
  have hgives : GivesUp s (.poll a) c ↔ d = c ∧ s.saysRunning c ∧ a.read = false := by
    constructor
    · rintro ⟨hrow, ⟨todo', hat', hread⟩ | ⟨todo', hat', -⟩⟩ <;> rw [hat] at hat'
      · cases hat'
        exact ⟨rfl, hrow, hread⟩
      · cases hat'
    · rintro ⟨rfl, hrow, hread⟩
      exact ⟨hrow, Or.inl ⟨todo, hat, hread⟩⟩
  rw [hgives]
  unfold State.pollDead
  cases hcfg : s.rows.get? d with
  | none =>
    apply iff_of_false
    · intro hstuck
      by_cases hdc : d = c
      · obtain ⟨cfg, hrow, -⟩ := hstuck.row
        change s.rows.get? c = some cfg at hrow
        rw [← hdc, hcfg] at hrow
        cases hrow
      · exact hother _ hdc rfl hstuck
    · rintro ⟨rfl, ⟨cfg, hrow, -⟩, -⟩
      rw [hcfg] at hrow
      cases hrow
  | some cfg =>
    dsimp only
    by_cases hread : a.read = false
    · rw [if_pos hread]
      constructor
      · intro hstuck
        by_cases hdc : d = c
        · exact ⟨hdc, hstuck.row, hread⟩
        · exact absurd hstuck (hother _ hdc rfl)
      · rintro ⟨rfl, hrow, -⟩
        exact ⟨hrow, hentry, rfl⟩
    · rw [if_neg hread]
      apply iff_of_false _ fun h => hread h.2.2
      split
      · intro hstuck
        by_cases hdc : d = c
        · exact beq_eq_false_iff_ne.mp hstuck.unhandled hdc
        · exact hother (.lost d todo) hdc (beq_eq_false_iff_ne.mpr hdc) hstuck
      · next hstopped =>
        intro hstuck
        by_cases hdc : d = c
        · exact hstopped (hsaid hcfg (hdc ▸ hstuck.row))
        · exact hother _ hdc rfl hstuck

theorem stuck_pollLost (hc : ¬Stuck s c) {d : Nat} {todo : List Nat}
    (hat : s.poll = .lost d todo) (hentry : s.entries d = none) :
    Stuck (s.pollStep a) c ↔ GivesUp s (.poll a) c := by
  have hgives : GivesUp s (.poll a) c ↔
      d = c ∧ s.saysRunning c ∧ a.write.applied = false := by
    constructor
    · rintro ⟨hrow, ⟨todo', hat', -⟩ | ⟨todo', hat', hwrite⟩⟩ <;> rw [hat] at hat'
      · cases hat'
      · cases hat'
        exact ⟨rfl, hrow, hwrite⟩
    · rintro ⟨rfl, hrow, hwrite⟩
      exact ⟨hrow, Or.inr ⟨todo, hat, hwrite⟩⟩
  have hfree : (s.pollStep a).poll.handles c = false := by
    simp only [State.pollStep, hat]
    split <;> rfl
  have hrows : (s.pollStep a).rows = saved s.rows d a.write fun cfg =>
      { cfg.disabledBy terminated with posterRunning := false } := by
    simp only [State.pollStep, hat]
  have hentries : (s.pollStep a).entries = s.entries := by
    simp only [State.pollStep, hat]
  rw [hgives]
  by_cases hdc : d = c
  · subst hdc
    by_cases happlied : a.write.applied = true
    · apply iff_of_false
      · intro hstuck
        obtain ⟨cfg, hcfg, -, hrunning⟩ := hstuck.row
        rw [hrows, get?_saved_self happlied] at hcfg
        obtain ⟨old, -, rfl⟩ := Option.map_eq_some_iff.mp hcfg
        cases hrunning
      · rintro ⟨-, -, hnot⟩
        rw [happlied] at hnot
        cases hnot
    · have hsame : (s.pollStep a).rows = s.rows := by rw [hrows, saved, if_neg happlied]
      constructor
      · intro hstuck
        obtain ⟨cfg, hcfg, hruns⟩ := hstuck.row
        exact ⟨rfl, ⟨cfg, hsame ▸ hcfg, hruns⟩, Bool.not_eq_true _ ▸ happlied⟩
      · rintro ⟨-, ⟨cfg, hcfg, hruns⟩, -⟩
        exact ⟨⟨cfg, hsame ▸ hcfg, hruns⟩, hentries ▸ hentry, hfree⟩
  · apply iff_of_false _ fun h => hdc h.1
    intro hstuck
    apply hc
    refine hstuck.before ?_ (by rw [hentries]) ?_
    · rw [hrows]
      exact get?_saved_ne fun heq => hdc heq.symm
    · rw [hfree, hat]
      exact (beq_eq_false_iff_ne.mpr hdc).symm

/-- A config whose thread is alive is not stuck. -/
theorem Sound.not_stuck_alive (h : Sound s) (hth : s.threads.get? t = some th)
    (halive : th.alive = true) (hconfig : th.config = c) : ¬Stuck s c := by
  intro hstuck
  obtain ⟨cfg, hcfg, -⟩ := hstuck.row
  exact h.no_thread hcfg hstuck.noEntry hth halive hconfig

theorem not_stuck_pollFound (h : Sound s) (hc : ¬Stuck s c) {d : Nat} {todo : List Nat}
    (hat : s.poll = .found d t todo) (hth : s.threads.get? t = some th) (hconfig : th.config = d) :
    ¬Stuck (s.pollStep a) c := by
  simp only [State.pollStep, hat, hth]
  intro hstuck
  by_cases hdc : d = c
  · split at hstuck
    · next halive =>
      obtain ⟨cfg, hcfg, -⟩ := hstuck.row
      exact h.no_thread hcfg hstuck.noEntry hth halive (hconfig.trans hdc)
    · exact beq_eq_false_iff_ne.mp hstuck.unhandled hdc
  · have hbefore : s.poll.handles c = false := by
      rw [hat]
      exact beq_eq_false_iff_ne.mpr hdc
    split at hstuck
    · exact not_stuck_moved hc hbefore rfl hstuck
    · apply hc
      refine hstuck.before rfl ?_ ?_
      · exact Function.update_of_ne (fun heq => hdc heq.symm) _ _
      · rw [hbefore]
        exact beq_eq_false_iff_ne.mpr hdc

theorem not_stuck_pollReady (hc : ¬Stuck s c) {d : Nat} {todo : List Nat}
    (hat : s.poll = .ready d todo) : ¬Stuck (s.pollReady a d todo) c := by
  have hbefore : s.poll.handles c = false := by
    rw [hat]
    rfl
  unfold State.pollReady
  split
  · split
    · exact not_stuck_moved hc hbefore rfl
    · split
      · exact not_stuck_moved hc hbefore rfl
      · split
        · intro hstuck
          apply hc
          refine hstuck.of_saved (Eq.refl _) (fun cfg henabled _ => by cases henabled) rfl ?_
          rw [hbefore]
          dsimp only
          split <;> rfl
        · -- the new thread has the entry of its config
          intro hstuck
          have hnone : Function.update s.entries d (some s.threads.nextKey) c = none :=
            hstuck.noEntry
          by_cases hdc : c = d
          · rw [hdc, Function.update_self] at hnone
            cases hnone
          · apply hc
            refine hstuck.before rfl (Function.update_of_ne hdc _ _) ?_
            rw [hbefore]
            rfl
  · exact not_stuck_moved hc hbefore rfl

theorem stuck_pollStep (h : Sound s) (hc : ¬Stuck s c) :
    Stuck (s.pollStep a) c ↔ GivesUp s (.poll a) c := by
  have hpoll := h.poll
  unfold State.pollSound at hpoll
  have hmoves : ∀ poll : Poll, s.poll.handles c = false → poll.handles c = false →
      ¬Stuck { s with poll := poll } c := fun _ => not_stuck_moved hc
  cases hat : s.poll <;> rw [hat] at hpoll
  case popped d todo =>
    have hstep : s.pollStep a = s.pollDead a d todo := by simp only [State.pollStep, hat]
    rw [hstep]
    exact stuck_pollDead hc hat hpoll
  case lost d todo => exact stuck_pollLost hc hat hpoll
  all_goals
    refine iff_of_false ?_ (not_gives_poll (fun _ _ => by rw [hat]; nofun)
      fun _ _ => by rw [hat]; nofun)
  case found d t todo =>
    obtain ⟨⟨th, hth, hconfig⟩, -⟩ := hpoll
    exact not_stuck_pollFound h hc hat hth hconfig
  all_goals simp only [State.pollStep, hat]
  case idle =>
    split
    · exact hmoves _ (by rw [hat]; rfl) rfl
    · exact hc
  case next todo =>
    cases todo with
    | nil => exact hmoves _ (by rw [hat]; rfl) rfl
    | cons d todo =>
      dsimp only
      split
      · next t hentry =>
        intro hstuck
        by_cases hdc : d = c
        · have hnone : s.entries c = none := hstuck.noEntry
          rw [← hdc, hentry] at hnone
          cases hnone
        · exact hmoves (.found d t todo) (by rw [hat]; rfl) (beq_eq_false_iff_ne.mpr hdc) hstuck
      · exact hmoves _ (by rw [hat]; rfl) rfl
  case absent d todo =>
    unfold State.pollAbsent
    split
    · split
      · exact hmoves _ (by rw [hat]; rfl) rfl
      · split <;> exact hmoves _ (by rw [hat]; rfl) rfl
    · exact hmoves _ (by rw [hat]; rfl) rfl
  case ready d todo => exact not_stuck_pollReady hc hat
  case looked => exact hmoves _ (by rw [hat]; rfl) (by split <;> rfl)
  case stopping disabled =>
    exact fun hstuck => hc (hstuck.before rfl rfl (by rw [hat]; rfl))
  case stopped => exact hmoves _ (by rw [hat]; rfl) (by split <;> rfl)
  case dropping existing =>
    intro hstuck
    apply hc
    refine hstuck.before rfl ?_ (by rw [hat]; rfl)
    obtain ⟨cfg, hcfg, -⟩ := hstuck.row
    exact if_pos (by simpa using hpoll c cfg hcfg)

/-- **One step.**  A config gets stuck exactly by a step that gives it up. -/
theorem stuck_step (h : Sound s) (hc : ¬Stuck s c) (e : Event) :
    Stuck (step s e) c ↔ GivesUp s e c := by
  cases e with
  | poll a => exact stuck_pollStep h hc
  | thread t a =>
    unfold step
    dsimp only
    split
    · next th hth => exact stuck_threadStep h hc hth
    · next hnone =>
      apply iff_of_false hc
      rintro ⟨-, -, -, th, hth, -⟩
      rw [hnone] at hth
      cases hth
  | leave t exit =>
    apply iff_of_false _ id
    unfold step
    dsimp only
    split
    · split
      · exact fun hstuck => hc (hstuck.before rfl rfl rfl)
      · exact hc
    · exact hc
  | enable d =>
    have hrows : (step s (.enable d)).rows.get? c = (s.rows.get? c).map fun cfg =>
        if decide (c = d) = true then { cfg with enabled := true, disabledReason := "" } else cfg :=
      Table.get?_updateWhere _ _ _
    by_cases hdc : d = c
    · subst hdc
      simp only [decide_true, if_true] at hrows
      constructor
      · intro hstuck
        obtain ⟨cfg, hcfg, -, hrunning⟩ := hstuck.row
        rw [hrows] at hcfg
        obtain ⟨old, hold, rfl⟩ := Option.map_eq_some_iff.mp hcfg
        exact ⟨rfl, ⟨old, hold, hrunning⟩, hstuck.noEntry, hstuck.unhandled⟩
      · rintro ⟨-, ⟨old, hold, hrunning⟩, hnone, hunhandled⟩
        rw [hold] at hrows
        exact ⟨⟨_, hrows, rfl, hrunning⟩, hnone, hunhandled⟩
    · apply iff_of_false _ fun h => hdc h.1
      intro hstuck
      apply hc
      refine hstuck.before ?_ rfl rfl
      rw [hrows]
      cases s.rows.get? c with
      | none => rfl
      | some cfg => simp [show ¬c = d from fun heq => hdc heq.symm]
  | disable d =>
    apply iff_of_false _ id
    intro hstuck
    have hrows : (step s (.disable d)).rows.get? c = (s.rows.get? c).map fun cfg =>
        if decide (c = d) = true then { cfg with enabled := false } else cfg :=
      Table.get?_updateWhere _ _ _
    obtain ⟨cfg, hcfg, henabled, hrunning⟩ := hstuck.row
    rw [hrows] at hcfg
    obtain ⟨old, hold, hmap⟩ := Option.map_eq_some_iff.mp hcfg
    split at hmap
    · rw [← hmap] at henabled
      cases henabled
    · exact hc ⟨⟨cfg, hmap ▸ hold, henabled, hrunning⟩, hstuck.noEntry, hstuck.unhandled⟩
  | delete d =>
    apply iff_of_false _ id
    intro hstuck
    obtain ⟨cfg, hcfg, hruns⟩ := hstuck.row
    exact hc ⟨⟨cfg, (Table.get?_deleteWhere.mp hcfg).1, hruns⟩, hstuck.noEntry, hstuck.unhandled⟩

/-! ### A config that is down comes back -/

/-- The config is to have a thread, and has none. -/
def Down (s : State) (c : Nat) : Prop :=
  (∃ cfg, s.rows.get? c = some cfg ∧ cfg.enabled = true) ∧
    ∀ t th, s.threads.get? t = some th → th.alive = true → th.config ≠ c

def Poll.isNext : Poll → Bool
  | .next _ => true
  | _ => false

/-- The config is held from being started. -/
def State.held (s : State) (a : Answer) : Bool :=
  match s.poll with
  | .ready c _ => (s.rows.get? c).any (martPosterIsHeld a)
  | _ => false

/-- The poll is done with the config: nothing failed, and it was not held. -/
def passes (c : Nat) (s : State) : Event → Bool
  | .poll a => s.poll.config = some c && !s.held a && (s.pollStep a).poll.isNext
  | _ => false

/-- How often a poll comes past the config in a run. -/
def passCount (c : Nat) : State → List Event → Nat
  | _, [] => 0
  | s, e :: es => (if passes c s e = true then 1 else 0) + passCount c (step s e) es

/-- There is no entry, and the poll has none in hand. -/
def State.quiet (s : State) (c : Nat) : Prop :=
  s.entries c = none ∧ s.poll.handles c = false

theorem quiet_threadStep (h : s.quiet c) : (s.threadStep a t th).quiet c := by
  unfold State.threadStep
  split
  case h_6 =>
    refine ⟨?_, h.2⟩
    show (if a.closes = true then Function.update s.entries th.config none else s.entries) c = none
    split
    · by_cases hc : c = th.config
      · rw [hc, Function.update_self]
      · rw [Function.update_of_ne hc]
        exact h.1
    · exact h.1
  all_goals exact h

/-- The poll takes no quiet config in hand, and an entry comes only with a new thread. -/
theorem quiet_pollStep (h : s.quiet c) :
    (s.pollStep a).poll.handles c = false ∧
      ((s.pollStep a).entries c = none ∨
        (∃ todo, s.poll = .ready c todo) ∧
          ∃ t th, (s.pollStep a).threads.get? t = some th ∧ th.alive = true ∧ th.config = c) := by
  obtain ⟨hnone, hunhandled⟩ := h
  cases hat : s.poll <;> rw [hat] at hunhandled <;> simp only [State.pollStep, hat]
  case idle =>
    split
    · exact ⟨rfl, Or.inl hnone⟩
    · exact ⟨by rw [hat]; rfl, Or.inl hnone⟩
  case next todo =>
    cases todo with
    | nil => exact ⟨rfl, Or.inl hnone⟩
    | cons d todo =>
      dsimp only
      split
      · next t hentry =>
        refine ⟨?_, Or.inl hnone⟩
        apply beq_eq_false_iff_ne.mpr
        rintro rfl
        rw [hnone] at hentry
        cases hentry
      · exact ⟨rfl, Or.inl hnone⟩
  case found d t todo =>
    have hdc : c ≠ d := fun heq => (beq_eq_false_iff_ne.mp hunhandled) heq.symm
    split
    · exact ⟨rfl, Or.inl hnone⟩
    · exact ⟨hunhandled, Or.inl ((Function.update_of_ne hdc _ _).trans hnone)⟩
  case popped d todo =>
    unfold State.pollDead
    split
    · split
      · exact ⟨rfl, Or.inl hnone⟩
      · split
        · exact ⟨hunhandled, Or.inl hnone⟩
        · exact ⟨rfl, Or.inl hnone⟩
    · exact ⟨rfl, Or.inl hnone⟩
  case lost d todo => exact ⟨by split <;> rfl, Or.inl hnone⟩
  case absent d todo =>
    unfold State.pollAbsent
    split
    · split
      · exact ⟨rfl, Or.inl hnone⟩
      · split <;> exact ⟨rfl, Or.inl hnone⟩
    · exact ⟨rfl, Or.inl hnone⟩
  case ready d todo =>
    unfold State.pollReady
    split
    · split
      · exact ⟨rfl, Or.inl hnone⟩
      · split
        · exact ⟨rfl, Or.inl hnone⟩
        · split
          · exact ⟨by dsimp only; split <;> rfl, Or.inl hnone⟩
          · -- the only step that makes an entry
            refine ⟨rfl, ?_⟩
            by_cases hdc : c = d
            · subst hdc
              refine Or.inr ⟨⟨todo, rfl⟩, s.threads.nextKey, { config := c }, ?_, rfl, rfl⟩
              exact Table.get?_create.trans (if_pos rfl)
            · exact Or.inl ((Function.update_of_ne hdc _ _).trans hnone)
    · exact ⟨rfl, Or.inl hnone⟩
  case looked => exact ⟨by split <;> rfl, Or.inl hnone⟩
  case stopping disabled => exact ⟨rfl, Or.inl hnone⟩
  case stopped => exact ⟨by split <;> rfl, Or.inl hnone⟩
  case dropping existing =>
    refine ⟨rfl, Or.inl ?_⟩
    show (if existing.contains c then s.entries c else none) = none
    rw [hnone, ite_self]

/-- A quiet config that stays down stays quiet. -/
theorem quiet_step (h : s.quiet c) (e : Event) (hdown : Down (step s e) c) :
    (step s e).quiet c := by
  cases e with
  | poll a =>
    obtain ⟨hfree, hnone | ⟨-, t, th, hth, halive, hconfig⟩⟩ := quiet_pollStep (a := a) h
    · exact ⟨hnone, hfree⟩
    · exact absurd hconfig (hdown.2 t th hth halive)
  | thread t a =>
    unfold step
    dsimp only
    split
    · exact quiet_threadStep h
    · exact h
  | leave t exit =>
    unfold step
    dsimp only
    split
    · split <;> exact h
    · exact h
  | enable d => exact h
  | disable d => exact h
  | delete d => exact h

/-- After a save that returned, the row is disabled. -/
theorem not_down_of_saved {w : Write} {f : Config → Config} (hrows : s'.rows = saved s.rows c w f)
    (hf : ∀ cfg, (f cfg).enabled = false) (hw : w.applied = true) : ¬Down s' c := by
  rintro ⟨⟨cfg, hcfg, henabled⟩, -⟩
  rw [hrows, get?_saved_self hw] at hcfg
  obtain ⟨old, -, rfl⟩ := Option.map_eq_some_iff.mp hcfg
  rw [hf old] at henabled
  cases henabled

theorem isNext_ite {b : Prop} [Decidable b] {todo : List Nat}
    (h : (if b then Poll.next todo else .idle).isNext = true) : b := by
  by_cases hb : b
  · exact hb
  · rw [if_neg hb] at h
    cases h

/-- A config without a thread that is looked at is not done with: it is ready. -/
theorem not_isNext_pollAbsent {cfg : Config} {todo : List Nat} (hcfg : s.rows.get? c = some cfg)
    (henabled : cfg.enabled = true) (hstopped : cfg.posterRunning = false) :
    (s.pollAbsent a c todo).poll.isNext = false := by
  unfold State.pollAbsent
  rw [hcfg]
  dsimp only
  by_cases hread : a.read = false
  · rw [if_pos hread]
    rfl
  · rw [if_neg hread, if_pos ⟨henabled, hstopped⟩]
    rfl

/-- When the poll is done with a config that is ready, it is disabled or has a thread. -/
theorem not_down_pollReady {cfg : Config} {todo : List Nat} (hcfg : s.rows.get? c = some cfg)
    (hheld : martPosterIsHeld a cfg = false)
    (hnext : (s.pollReady a c todo).poll.isNext = true) : ¬Down (s.pollReady a c todo) c := by
  unfold State.pollReady at hnext ⊢
  rw [hcfg] at hnext ⊢
  dsimp only at hnext ⊢
  rw [hheld, if_neg Bool.false_ne_true] at hnext ⊢
  by_cases hread : a.read = false
  · rw [if_pos hread] at hnext
    cases hnext
  · rw [if_neg hread] at hnext ⊢
    cases hmissing : a.missing with
    | some missing =>
      rw [hmissing] at hnext
      have hdone : a.write = .done := isNext_ite hnext
      apply not_down_of_saved (w := a.write) (Eq.refl _) (fun _ => rfl)
      rw [hdone]
      rfl
    | none =>
      rintro ⟨-, hnobody⟩
      refine hnobody s.threads.nextKey { config := c } ?_ rfl rfl
      exact Table.get?_create.trans (if_pos rfl)

/-- When the poll is done with a dead thread that does not say that it runs, the config is
quiet. -/
theorem quiet_pollDead {todo : List Nat} (hnone : s.entries c = none)
    (hnext : (s.pollDead a c todo).poll.isNext = true) : (s.pollDead a c todo).quiet c := by
  unfold State.pollDead at hnext ⊢
  split at hnext
  · next cfg hcfg =>
    by_cases hread : a.read = false
    · rw [if_pos hread] at hnext
      cases hnext
    · rw [if_neg hread] at hnext ⊢
      by_cases hrunning : cfg.posterRunning = true
      · rw [if_pos hrunning] at hnext
        cases hnext
      · rw [if_neg hrunning]
        exact ⟨hnone, rfl⟩
  · cases hnext

/-- Where a poll comes past a config that stays down, it has dropped the entry of a dead
thread. -/
theorem popped_of_passes (h : Sound s) (hc : ¬Stuck s c) (hdown : Down s c) {e : Event}
    (hdown' : Down (step s e) c) (hpass : passes c s e = true) :
    s.poll.handles c = true ∧ (step s e).quiet c := by
  cases e with
  | poll a =>
    have hpoll := h.poll
    obtain ⟨⟨cfg, hcfg, henabled⟩, hnobody⟩ := hdown
    change Down (s.pollStep a) c at hdown'
    show _ ∧ (s.pollStep a).quiet c
    unfold State.pollSound at hpoll
    simp only [passes, Bool.and_eq_true, decide_eq_true_eq, Bool.not_eq_true'] at hpass
    obtain ⟨⟨hat, hheld⟩, hnext⟩ := hpass
    cases hs : s.poll <;> rw [hs] at hat hpoll <;>
      simp only [Poll.config, Option.some.injEq, reduceCtorEq] at hat <;> subst hat <;>
      simp only [State.pollStep, hs] at hnext hdown' ⊢
    case found t todo =>
      obtain ⟨⟨th, hth, hconfig⟩, -⟩ := hpoll
      have hdead : ¬(s.threads.get? t).any (·.alive) = true := by
        rw [hth]
        exact fun halive => hnobody t th hth halive hconfig
      rw [if_neg hdead] at hnext
      cases hnext
    case popped c todo => exact ⟨beq_self_eq_true c, quiet_pollDead hpoll hnext⟩
    case lost c todo =>
      have hreturns := isNext_ite hnext
      rw [returns, Bool.and_eq_true, decide_eq_true_eq] at hreturns
      refine absurd hdown' (not_down_of_saved (w := a.write) (Eq.refl _) (fun _ => rfl) ?_)
      rw [hreturns.1]
      rfl
    case absent c todo =>
      have hstopped : cfg.posterRunning = false := by
        cases hrunning : cfg.posterRunning with
        | false => rfl
        | true =>
          refine absurd ⟨⟨cfg, hcfg, henabled, hrunning⟩, hpoll, ?_⟩ hc
          rw [hs]
          rfl
      rw [not_isNext_pollAbsent hcfg henabled hstopped] at hnext
      cases hnext
    case ready c todo =>
      have hfree : martPosterIsHeld a cfg = false := by
        simpa only [State.held, hs, hcfg, Option.any_some] using hheld
      exact absurd hdown' (not_down_pollReady hcfg hfree hnext)
  | thread t a => cases hpass
  | leave t exit => cases hpass
  | enable d => cases hpass
  | disable d => cases hpass
  | delete d => cases hpass

/-- No step gives up a config. -/
def Kept (s : State) (e : Event) : Prop := ∀ c, ¬GivesUp s e c

/-- The scheduler has its configs in hand. -/
def Held (s : State) : Prop := Sound s ∧ ∀ c, ¬Stuck s c

theorem Held.step (h : Held s) {e : Event} (hkept : Kept s e) : Held (step s e) :=
  ⟨h.1.step e, fun c hstuck => hkept c ((stuck_step h.1 (h.2 c) e).mp hstuck)⟩

/-- While a config stays down, a poll comes past it at most once, and not at all if it is
quiet.  The induction is on the run. -/
theorem passCount_le (h : Held s) {es : List Event} (hkept : Along step Kept s es)
    (hdown : Always step (Down · c) s es) :
    passCount c s es ≤ 1 ∧ (s.quiet c → passCount c s es = 0) := by
  induction es generalizing s with
  | nil => exact ⟨Nat.zero_le _, fun _ => rfl⟩
  | cons e es ih =>
    obtain ⟨hkept₁, hkept₂⟩ := hkept
    obtain ⟨hdown₁, hdown₂⟩ := hdown
    obtain ⟨hle, hzero⟩ := ih (h.step hkept₁) hkept₂ hdown₂
    unfold passCount
    by_cases hpass : passes c s e = true
    · obtain ⟨hhandled, hquiet⟩ :=
        popped_of_passes h.1 (h.2 c) hdown₁ hdown₂.head hpass
      rw [if_pos hpass, hzero hquiet]
      refine ⟨le_refl _, fun hbefore => ?_⟩
      rw [hbefore.2] at hhandled
      cases hhandled
    · rw [if_neg hpass, Nat.zero_add]
      exact ⟨hle, fun hquiet => hzero (quiet_step hquiet e hdown₂.head)⟩

/-! ### Why a config is disabled -/

/-- What is not disabled by the user gets a reason. -/
def Explained (s : State) (e : Event) : Prop :=
  ∀ c cfg cfg', s.rows.get? c = some cfg → cfg.enabled = true →
    (step s e).rows.get? c = some cfg' → cfg'.enabled = false →
      e = .disable c ∨ cfg'.disabledReason ≠ ""

/-- What the scheduler and its threads save. -/
def Reasoned (f : Config → Config) : Prop :=
  ∀ cfg : Config, cfg.enabled = true → (f cfg).enabled = false → (f cfg).disabledReason ≠ ""

theorem append_ne_empty {x y : String} (h : x ≠ "") : x ++ y ≠ "" := by
  intro heq
  exact h (String.append_eq_empty_iff.mp heq).1

theorem floodReason_ne_empty (lastError : String) : floodReason lastError ≠ "" := by
  unfold floodReason
  apply append_ne_empty
  intro heq
  have hsuffix := (String.append_eq_empty_iff.mp heq).2
  revert hsuffix
  decide

theorem Missing.text_ne_empty (missing : Missing) (game : String) : missing.text game ≠ "" := by
  cases missing with
  | urls =>
    show "No enabled target URLs" ≠ ""
    decide
  | limits =>
    apply append_ne_empty
    apply append_ne_empty
    decide

theorem Exit.reasoned (exit : Exit) : Reasoned exit.save := by
  intro cfg henabled hdisabled
  cases exit with
  | normal =>
    have hsame : cfg.enabled = false := hdisabled
    rw [henabled] at hsame
    cases hsame
  | pause lastError => exact floodReason_ne_empty lastError
  | crash error => exact append_ne_empty (by decide)

/-- A step that saves such fields explains itself. -/
theorem Reasoned.saved {f : Config → Config} (hf : Reasoned f) {rows : Table Config} {w : Write}
    {d : Nat} {cfg cfg' : Config} (hcfg : rows.get? c = some cfg) (henabled : cfg.enabled = true)
    (hcfg' : (saved rows d w f).get? c = some cfg') (hdisabled : cfg'.enabled = false) :
    cfg'.disabledReason ≠ "" := by
  by_cases hwritten : w.applied = true ∧ c = d
  · obtain ⟨happlied, rfl⟩ := hwritten
    rw [get?_saved_self happlied, hcfg] at hcfg'
    rw [← Option.some.inj hcfg'] at hdisabled ⊢
    exact hf cfg henabled hdisabled
  · have hsame : (Scheduler.saved rows d w f).get? c = rows.get? c := by
      by_cases hcd : c = d
      · rw [Scheduler.saved, if_neg fun h => hwritten ⟨h, hcd⟩]
      · exact get?_saved_ne hcd
    rw [hsame, hcfg] at hcfg'
    rw [← Option.some.inj hcfg', henabled] at hdisabled
    cases hdisabled

/-- The poll writes only the row of a config whose thread it has lost or cannot start, and the save
explains itself. -/
theorem rows_pollStep (s : State) (a : Answer) :
    (s.pollStep a).rows = s.rows ∨
      ∃ d f, (∃ todo, s.poll = .lost d todo ∨ s.poll = .ready d todo) ∧ Reasoned f ∧
        (s.pollStep a).rows = saved s.rows d a.write f := by
  cases hat : s.poll <;> simp only [State.pollStep, hat]
  case idle => split <;> exact Or.inl rfl
  case next todo =>
    cases todo with
    | nil => exact Or.inl rfl
    | cons d todo =>
      dsimp only
      split <;> exact Or.inl rfl
  case found d t todo => split <;> exact Or.inl rfl
  case popped d todo =>
    unfold State.pollDead
    split
    · split
      · exact Or.inl rfl
      · split <;> exact Or.inl rfl
    · exact Or.inl rfl
  case lost d todo =>
    refine Or.inr ⟨d, _, ⟨todo, Or.inl rfl⟩, ?_, rfl⟩
    intro cfg _ _
    show terminated ≠ ""
    decide
  case absent d todo =>
    unfold State.pollAbsent
    split
    · split
      · exact Or.inl rfl
      · split <;> exact Or.inl rfl
    · exact Or.inl rfl
  case ready d todo =>
    unfold State.pollReady
    split
    · next cfg hcfg =>
      split
      · exact Or.inl rfl
      · split
        · exact Or.inl rfl
        · split
          · next missing hmissing =>
            refine Or.inr ⟨d, _, ⟨todo, Or.inr rfl⟩, ?_, rfl⟩
            exact fun _ _ _ => missing.text_ne_empty cfg.game
          · exact Or.inl rfl
    · exact Or.inl rfl
  all_goals exact Or.inl trivial

/-- Every save of the scheduler and its threads explains itself. -/
theorem rows_step (s : State) (e : Event) :
    (∃ c, e = .enable c ∨ e = .disable c ∨ e = .delete c) ∨ (step s e).rows = s.rows ∨
      ∃ d w f, Reasoned f ∧ (step s e).rows = saved s.rows d w f := by
  cases e with
  | enable c => exact Or.inl ⟨c, Or.inl rfl⟩
  | disable c => exact Or.inl ⟨c, Or.inr (Or.inl rfl)⟩
  | delete c => exact Or.inl ⟨c, Or.inr (Or.inr rfl)⟩
  | leave t exit =>
    refine Or.inr (Or.inl ?_)
    unfold step
    dsimp only
    split
    · split <;> rfl
    · rfl
  | thread t a =>
    apply Or.inr
    unfold step
    dsimp only
    split
    · next th hth =>
      unfold State.threadStep
      split
      · exact Or.inl rfl
      · refine Or.inr ⟨th.config, a.write, _, ?_, rfl⟩
        intro cfg henabled hdisabled
        have hsame : cfg.enabled = false := hdisabled
        rw [henabled] at hsame
        cases hsame
      · exact Or.inl rfl
      · exact Or.inl rfl
      · next exit hphase =>
        by_cases hread : a.read = true
        · exact Or.inr ⟨th.config, a.write, exit.save, exit.reasoned, if_pos hread⟩
        · exact Or.inl (if_neg hread)
      · exact Or.inl rfl
    · exact Or.inl rfl
  | poll a =>
    rcases rows_pollStep s a with hsame | ⟨d, f, -, hf, hsaved⟩
    · exact Or.inr (Or.inl hsame)
    · exact Or.inr (Or.inr ⟨d, a.write, f, hf, hsaved⟩)

theorem explained_step (s : State) (e : Event) : Explained s e := by
  intro c cfg cfg' hcfg henabled hcfg' hdisabled
  rcases rows_step s e with ⟨d, rfl | rfl | rfl⟩ | hsame | ⟨d, w, f, hf, hsaved⟩
  · change (s.rows.updateWhere _ _).get? c = some cfg' at hcfg'
    rw [Table.get?_updateWhere, hcfg] at hcfg'
    rw [← Option.some.inj hcfg'] at hdisabled
    split at hdisabled
    · cases hdisabled
    · rw [henabled] at hdisabled
      cases hdisabled
  · by_cases hd : d = c
    · exact Or.inl (by rw [hd])
    · change (s.rows.updateWhere _ _).get? c = some cfg' at hcfg'
      rw [Table.get?_updateWhere, hcfg] at hcfg'
      have hcd : ¬decide (c = d) = true := by simpa using fun heq : c = d => hd heq.symm
      rw [Option.map_some, if_neg hcd] at hcfg'
      rw [← Option.some.inj hcfg', henabled] at hdisabled
      cases hdisabled
  · have hkept := (Table.get?_deleteWhere.mp hcfg').1
    rw [hcfg] at hkept
    rw [← Option.some.inj hkept, henabled] at hdisabled
    cases hdisabled
  · rw [hsame, hcfg] at hcfg'
    rw [← Option.some.inj hcfg', henabled] at hdisabled
    cases hdisabled
  · rw [hsaved] at hcfg'
    exact Or.inr (hf.saved hcfg henabled hcfg' hdisabled)

/-! ### The main result -/

/-- What the scheduler owes its configs: at most one thread for each, none left enabled and
running without a thread, and each that is down has a thread or is disabled by the time a poll has
come past it twice. -/
structure Good (s : State) : Prop where
  single : ∀ t u th uh, s.threads.get? t = some th → s.threads.get? u = some uh →
    th.alive = true → uh.alive = true → th.config = uh.config → t = u
  never : ∀ c, ¬Stuck s c
  returns : ∀ c es, Along step Kept s es → 2 ≤ passCount c s es →
    Ever step (fun s => ¬Down s c) s es

theorem Held.good (h : Held s) : Good s where
  single := h.1.single
  never := h.2
  returns c es hkept htwice := by
    rcases always_or_ever (Down · c) s es with hdown | hup
    · have honce := (passCount_le h hkept hdown).1
      omega
    · exact hup

theorem not_stuck_start (rows : Table Config) (c : Nat) : ¬Stuck (start rows) c := by
  rintro ⟨⟨cfg, hcfg, -, hrunning⟩, -, -⟩
  change (rows.mapRows _).get? c = some cfg at hcfg
  rw [Table.get?_mapRows] at hcfg
  obtain ⟨old, -, rfl⟩ := Option.map_eq_some_iff.mp hcfg
  cases hrunning

/-- After every start of the scheduler, and in any order of polls, edits, exits and failures, the
configs are looked after exactly if no step gives one up. -/
theorem worker_state (rows : Table Config) (es : List Event) :
    (Always step Good (start rows) es ∧ Along step Explained (start rows) es) ↔
      Along step Kept (start rows) es := by
  have hexact : Always step (fun s => ∀ c, ¬Stuck s c) (start rows) es ↔
      Along step Kept (start rows) es := by
    refine always_iff_along (I := Sound) (P := fun s => ∀ c, ¬Stuck s c) (fun s e h => h.step e)
      ?_ (sound_start rows) (not_stuck_start rows) es
    intro s e hsound hnever
    exact forall_congr' fun c => not_congr (stuck_step hsound (hnever c) e)
  constructor
  · rintro ⟨hgood, -⟩
    exact hexact.mp (hgood.mono fun _ h => h.never)
  · intro hkept
    refine ⟨?_, along_of_forall explained_step _ _⟩
    have hheld : Always step Held (start rows) es :=
      always_of_along (fun _ _ h hk => h.step hk) ⟨sound_start rows, not_stuck_start rows⟩ hkept
    exact hheld.mono fun _ h => h.good

/-! ### A thread whose last save fails -/

/-- What a step leaves alone stays stuck. -/
theorem Stuck.after (h : Stuck s c) (hrow : s'.rows.get? c = s.rows.get? c)
    (hentry : s'.entries c = none) (hhandles : s'.poll.handles c = false) : Stuck s' c := by
  obtain ⟨cfg, hcfg, hruns⟩ := h.row
  exact ⟨⟨cfg, hrow.trans hcfg, hruns⟩, hentry, hhandles⟩

theorem Stuck.threadStep (h : Stuck s c) (hsound : Sound s) (hth : s.threads.get? t = some th) :
    Stuck (s.threadStep a t th) c := by
  have hdead : th.config = c → th.phase = .dead := by
    intro hconfig
    by_contra hne
    exact hsound.not_stuck_alive hth (decide_eq_true hne) hconfig h
  unfold State.threadStep
  cases hphase : th.phase <;> rw [hphase] at hdead <;> dsimp only
  case starting => exact h.after rfl h.noEntry h.unhandled
  case loaded =>
    have hne : c ≠ th.config := fun heq => by cases hdead heq.symm
    exact h.after (get?_saved_ne hne) h.noEntry h.unhandled
  case looping => exact h
  case dead => exact h
  case leaving exit =>
    have hne : c ≠ th.config := fun heq => by cases hdead heq.symm
    refine h.after ?_ h.noEntry h.unhandled
    by_cases hread : a.read = true
    · exact (congrArg (fun rows : Table Config => rows.get? c) (if_pos hread)).trans
        (get?_saved_ne hne)
    · exact congrArg (fun rows : Table Config => rows.get? c) (if_neg hread)
  case finishing =>
    have hne : c ≠ th.config := fun heq => by cases hdead heq.symm
    refine h.after rfl ?_ h.unhandled
    show (if a.closes = true then Function.update s.entries th.config none else s.entries) c = none
    split
    · exact (Function.update_of_ne hne _ _).trans h.noEntry
    · exact h.noEntry

theorem row_pollStep (hlost : ∀ todo, s.poll ≠ .lost c todo)
    (hready : ∀ todo, s.poll ≠ .ready c todo) :
    (s.pollStep a).rows.get? c = s.rows.get? c := by
  rcases rows_pollStep s a with hsame | ⟨d, f, ⟨todo, hat⟩, -, hsaved⟩
  · rw [hsame]
  · rw [hsaved]
    apply get?_saved_ne
    rintro rfl
    rcases hat with hat | hat
    · exact hlost _ hat
    · exact hready _ hat

theorem Stuck.pollStep (h : Stuck s c) (hsound : Sound s) : Stuck (s.pollStep a) c := by
  have hpoll := hsound.poll
  unfold State.pollSound at hpoll
  -- a config that is ready does not say that it runs
  have hready : ∀ todo, s.poll ≠ .ready c todo := by
    intro todo hat
    obtain ⟨cfg, hcfg, -, hrunning⟩ := h.row
    rw [hat] at hpoll
    rw [hpoll.2.2 cfg hcfg] at hrunning
    cases hrunning
  have hlost : ∀ todo, s.poll ≠ .lost c todo := by
    intro todo hat
    have hunhandled := h.unhandled
    rw [hat] at hunhandled
    exact beq_eq_false_iff_ne.mp hunhandled rfl
  obtain ⟨hfree, hnone | ⟨⟨todo, hat⟩, -⟩⟩ := quiet_pollStep (a := a) ⟨h.noEntry, h.unhandled⟩
  · exact h.after (row_pollStep hlost hready) hnone hfree
  · exact absurd hat (hready todo)

/-- Nothing but a user gets a stuck config out. -/
theorem Stuck.step (h : Stuck s c) (hsound : Sound s) {e : Event} (hdisable : e ≠ .disable c)
    (hdelete : e ≠ .delete c) : Stuck (step s e) c := by
  cases e with
  | poll a => exact h.pollStep hsound
  | thread t a =>
    unfold Scheduler.step
    dsimp only
    split
    · next th hth => exact h.threadStep hsound hth
    · exact h
  | leave t exit =>
    unfold Scheduler.step
    dsimp only
    split
    · split
      · exact h.after rfl h.noEntry h.unhandled
      · exact h
    · exact h
  | enable d =>
    obtain ⟨cfg, hcfg, henabled, hrunning⟩ := h.row
    have hrows : (Scheduler.step s (.enable d)).rows.get? c = _ := Table.get?_updateWhere _ _ _
    rw [hcfg, Option.map_some] at hrows
    refine ⟨⟨_, hrows, ?_, ?_⟩, h.noEntry, h.unhandled⟩
    · split
      · rfl
      · exact henabled
    · split
      · exact hrunning
      · exact hrunning
  | disable d =>
    refine h.after ?_ h.noEntry h.unhandled
    have hdc : ¬c = d := fun heq => hdisable (by rw [heq])
    refine (Table.get?_updateWhere _ _ _).trans ?_
    cases s.rows.get? c with
    | none => rfl
    | some cfg => simp [hdc]
  | delete d =>
    obtain ⟨cfg, hcfg, hruns⟩ := h.row
    refine ⟨⟨cfg, Table.get?_deleteWhere.mpr ⟨hcfg, ?_⟩, hruns⟩, h.noEntry, h.unhandled⟩
    exact decide_eq_false fun heq => hdelete (by rw [heq])

/-- The event leaves the config to the scheduler. -/
def Unedited (c : Nat) (e : Event) : Prop := e ≠ .disable c ∧ e ≠ .delete c

/-- A stuck config has no thread. -/
theorem Stuck.down (h : Stuck s c) (hsound : Sound s) : Down s c := by
  obtain ⟨cfg, hcfg, henabled, -⟩ := h.row
  exact ⟨⟨cfg, hcfg, henabled⟩, fun t th hth halive => hsound.no_thread hcfg h.noEntry hth halive⟩

theorem stuck_forever (h : Stuck s c) (hsound : Sound s) {es : List Event}
    (hes : ∀ e ∈ es, Unedited c e) : Always step (fun s => Stuck s c ∧ Down s c) s es := by
  induction es generalizing s with
  | nil => exact ⟨h, h.down hsound⟩
  | cons e es ih =>
    obtain ⟨hdisable, hdelete⟩ := hes e List.mem_cons_self
    refine ⟨⟨h, h.down hsound⟩, ih (h.step hsound hdisable hdelete) (hsound.step e) ?_⟩
    exact fun e' he' => hes e' (List.mem_cons_of_mem _ he')

/-- One config, for a GameBoost store. -/
def oneConfig : Table Config :=
  ⟨[(1, { store := { provider := .gameboost, slug := "gameboost-main" }, game := "Roblox" })],
    List.nodup_singleton 1⟩

/-- A poll starts its thread, the third validation error within an hour ends the loop, and the save
of the handler fails. -/
def lastSaveFails : List Event :=
  [.poll {}, .poll {}, .poll {}, .poll {}, .thread 0 {}, .thread 0 {},
    .leave 0 (.pause "price is required"), .thread 0 { write := .failed }, .thread 0 {}]

/-- The config is enabled and running with no thread, and stays so whatever the scheduler does and
however often a user enables it. -/
theorem left_for_dead :
    ¬Good (run step (start oneConfig) lastSaveFails) ∧
      ∀ es : List Event, (∀ e ∈ es, Unedited 1 e) →
        Always step (fun s => Stuck s 1 ∧ Down s 1) (run step (start oneConfig) lastSaveFails)
          es := by
  have hsound : Sound (run step (start oneConfig) lastSaveFails) :=
    (always_of_step (I := Sound) (fun s e h => h.step e) (sound_start oneConfig) lastSaveFails).last
  have hstuck : Stuck (run step (start oneConfig) lastSaveFails) 1 :=
    ⟨⟨_, rfl, rfl, rfl⟩, rfl, rfl⟩
  exact ⟨fun h => h.never 1 hstuck, fun es hes => stuck_forever hstuck hsound hes⟩

end Sda.Dropship.Scheduler
