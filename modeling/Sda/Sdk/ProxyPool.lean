/-
Sda/Sdk/ProxyPool.lean

The proxy pool of the SDK (infrastructure/proxy: health.py, rotation.py, pool.py).

A record is an object with a status and a failure count of its own.  The health tracker keeps its
counters and cooldowns by `host:port`, so that records of one address share them.  A cooldown ends
when somebody looks: the check that finds it over resets the counters and marks the record that
is checked.  A run is any sequence of calls of the pool, each of them whole, and of time passing.

Main results: `pool_recovers_iff` — exactly when every record comes back after its cooldown;
`failed_rests` — an address that has failed often enough is not given out while it rests.
-/
import Mathlib.Algebra.Order.Group.Nat
import Sda.Lib.Run

namespace Sda.ProxyPool

inductive ProxyStatus
  | healthy
  | degraded
  | failed
  | cooldown
  deriving DecidableEq

/-- `HealthState` -/
structure HealthState where
  consecutiveFailures : Nat := 0
  lastFailureTime : Nat := 0
  cooldownUntil : Nat := 0
  totalRequests : Nat := 0
  totalFailures : Nat := 0

/-- A state after a failure. -/
def HealthState.failed (h : HealthState) (now : Nat) : HealthState :=
  { h with
    consecutiveFailures := h.consecutiveFailures + 1
    totalFailures := h.totalFailures + 1
    totalRequests := h.totalRequests + 1
    lastFailureTime := now }

inductive Strategy
  | roundRobin
  | random
  | leastFailures
  deriving DecidableEq

variable {ρ : Type} [DecidableEq ρ]

/-- What does not change: the records with their addresses and groups, and the settings. -/
structure Config (ρ : Type) where
  key : ρ → String
  group : ρ → String
  strategy : Strategy
  failureThreshold : Nat
  cooldownSeconds : Nat

/-- A pool, its tracker, and what its records say of themselves. -/
structure State (ρ : Type) where
  now : Nat
  proxies : List ρ
  index : Nat
  states : String → HealthState
  status : ρ → ProxyStatus
  failureCount : ρ → Nat

/-- The clock does not start at zero. -/
def State.start : State ρ := ⟨1, [], 0, fun _ => {}, fun _ => .healthy, fun _ => 0⟩

/-! ### health.py -/

section Pool

variable (c : Config ρ)

def setState (p : ρ) (h : HealthState) (s : State ρ) : State ρ :=
  { s with states := fun k => if k = c.key p then h else s.states k }

def mark (p : ρ) (status : ProxyStatus) (failureCount : Nat) (s : State ρ) : State ρ :=
  { s with
    status := fun q => if q = p then status else s.status q
    failureCount := fun q => if q = p then failureCount else s.failureCount q }

/-- `mark_healthy` -/
def markHealthy (p : ρ) (s : State ρ) : State ρ := mark p .healthy 0 s

/-- `mark_failed` -/
def markFailed (p : ρ) (s : State ρ) : State ρ :=
  mark p (if 3 ≤ s.failureCount p + 1 then .failed else .degraded) (s.failureCount p + 1) s

/-- **`record_success`** -/
def recordSuccess (p : ρ) (s : State ρ) : State ρ :=
  markHealthy p (setState c p
    { s.states (c.key p) with
      consecutiveFailures := 0
      totalRequests := (s.states (c.key p)).totalRequests + 1
      cooldownUntil := 0 } s)

/-- **`record_failure`** -/
def recordFailure (p : ρ) (s : State ρ) : State ρ :=
  if c.failureThreshold ≤ (s.states (c.key p)).consecutiveFailures + 1 then
    mark p .cooldown (s.failureCount p) (setState c p
      { (s.states (c.key p)).failed s.now with cooldownUntil := s.now + c.cooldownSeconds } s)
  else markFailed p (setState c p ((s.states (c.key p)).failed s.now) s)

/-- The cooldown of a record is over, and nobody has looked. -/
def isOver (p : ρ) (s : State ρ) : Prop :=
  0 < (s.states (c.key p)).cooldownUntil ∧ (s.states (c.key p)).cooldownUntil ≤ s.now

instance (p : ρ) (s : State ρ) : Decidable (isOver c p s) := by
  unfold isOver
  infer_instance

/-- The end of a cooldown, when a check finds it over. -/
def expire (p : ρ) (s : State ρ) : State ρ :=
  if isOver c p s then
    markHealthy p (setState c p
      { s.states (c.key p) with consecutiveFailures := 0, cooldownUntil := 0 } s)
  else s

/-- The answer of **`is_available`**; `expire` is what it does. -/
def isAvailable (p : ρ) (s : State ρ) : Bool :=
  if s.now < (s.states (c.key p)).cooldownUntil then false
  else (expire c p s).status p = .healthy ∨ (expire c p s).status p = .degraded

/-! ### pool.py and rotation.py -/

def wanted (group : Option String) (exclude : Option ρ) (p : ρ) : Bool :=
  group.all (c.group p == ·) && exclude != some p

/-- The candidates of `acquire`; every proxy of the pool is checked. -/
def candidates (group : Option String) (exclude : Option ρ) : List ρ → State ρ → List ρ × State ρ
  | [], s => ([], s)
  | p :: ps, s =>
    let (rest, s') := candidates group exclude ps (expire c p s)
    (if isAvailable c p s && wanted c group exclude p then p :: rest else rest, s')

/-- `min(candidates, key=…)`, of a candidate and the rest -/
def leastFailures (s : State ρ) : ρ → List ρ → ρ
  | p, [] => p
  | p, q :: qs => leastFailures s (if s.failureCount q < s.failureCount p then q else p) qs

/-- `select`, with what `random.choice` says -/
def select (choice : Nat) (p : ρ) (ps : List ρ) (s : State ρ) : ρ × State ρ :=
  match c.strategy with
  | .roundRobin =>
    ((p :: ps).getD (s.index % (p :: ps).length) p,
      { s with index := s.index % (p :: ps).length + 1 })
  | .random => ((p :: ps).getD (choice % (p :: ps).length) p, s)
  | .leastFailures => (leastFailures s p ps, s)

/-- **`acquire`** -/
def acquire (group : Option String) (exclude : Option ρ) (choice : Nat) (s : State ρ) :
    Option ρ × State ρ :=
  match candidates c group exclude s.proxies s with
  | ([], s') => (none, s')
  | (p :: ps, s') =>
    let (q, s'') := select c choice p ps s'
    (some q, s'')

/-- What happens. -/
inductive Event (ρ : Type)
  | tick (seconds : Nat)
  | load (proxies : List ρ)
  | add (p : ρ)
  | clear
  | acquire (group : Option String) (exclude : Option ρ) (choice : Nat)
  | isHealthy (p : ρ)
  | reportSuccess (p : ρ)
  | reportFailure (p : ρ)

def step (s : State ρ) : Event ρ → State ρ
  | .tick seconds => { s with now := s.now + seconds }
  | .load proxies => { s with proxies := proxies, index := 0 }
  | .add p => { s with proxies := s.proxies ++ [p] }
  | .clear => { s with proxies := [], index := 0 }
  | .acquire group exclude choice => (acquire c group exclude choice s).2
  | .isHealthy p => expire c p s
  | .reportSuccess p => recordSuccess c p s
  | .reportFailure p => recordFailure c p s

end Pool

/-- The time that passes in a run. -/
def elapsed : List (Event ρ) → Nat
  | [] => 0
  | .tick seconds :: es => seconds + elapsed es
  | _ :: es => elapsed es

variable {c : Config ρ}

/-! ### What a call does to a record -/

omit [DecidableEq ρ] in
theorem elapsed_cons (e : Event ρ) (es : List (Event ρ)) :
    elapsed (e :: es) = elapsed [e] + elapsed es := by
  cases e <;> simp [elapsed]

/-- A call other than the reports: the cooldowns of some addresses may end. -/
structure Expires (c : Config ρ) (s s' : State ρ) : Prop where
  now : s'.now = s.now
  same : ∀ r, s'.states (c.key r) = s.states (c.key r) ∨
    (0 < (s.states (c.key r)).cooldownUntil ∧ (s.states (c.key r)).cooldownUntil ≤ s.now ∧
      (s'.states (c.key r)).consecutiveFailures = 0 ∧ (s'.states (c.key r)).cooldownUntil = 0)
  record : ∀ r, (s'.status r = s.status r ∧ s'.failureCount r = s.failureCount r) ∨
    (0 < (s.states (c.key r)).cooldownUntil ∧ (s.states (c.key r)).cooldownUntil ≤ s.now ∧
      s'.status r = .healthy ∧ s'.failureCount r = 0)

omit [DecidableEq ρ] in
theorem Expires.refl (s : State ρ) : Expires c s s :=
  ⟨rfl, fun _ => Or.inl rfl, fun _ => Or.inl ⟨rfl, rfl⟩⟩

omit [DecidableEq ρ] in
theorem Expires.trans {s s' s'' : State ρ} (h : Expires c s s') (h' : Expires c s' s'') :
    Expires c s s'' := by
  refine ⟨h'.now.trans h.now, fun r => ?_, fun r => ?_⟩
  · rcases h.same r with heq | ⟨h1, h2, h3, h4⟩
    · rcases h'.same r with heq' | ⟨k1, k2, k3, k4⟩
      · exact Or.inl (heq'.trans heq)
      · rw [heq] at k1 k2
        exact Or.inr ⟨k1, h.now ▸ k2, k3, k4⟩
    · rcases h'.same r with heq' | ⟨k1, -⟩
      · rw [heq']
        exact Or.inr ⟨h1, h2, h3, h4⟩
      · rw [h4] at k1
        cases k1
  · rcases h'.record r with ⟨k1, k2⟩ | ⟨k1, k2, k3, k4⟩
    · rw [k1, k2]
      exact h.record r
    · rcases h.same r with heq | ⟨-, -, -, h4⟩
      · rw [heq] at k1 k2
        exact Or.inr ⟨k1, h.now ▸ k2, k3, k4⟩
      · rw [h4] at k1
        cases k1

theorem expire_expires (p : ρ) (s : State ρ) : Expires c s (expire c p s) := by
  by_cases hover : isOver c p s
  · rw [expire, if_pos hover]
    refine ⟨rfl, fun r => ?_, fun r => ?_⟩
    · by_cases hr : c.key r = c.key p
      · refine Or.inr ⟨hr ▸ hover.1, hr ▸ hover.2, ?_, ?_⟩ <;>
          simp [markHealthy, mark, setState, hr]
      · exact Or.inl (by simp [markHealthy, mark, setState, hr])
    · by_cases hr : r = p
      · subst hr
        exact Or.inr ⟨hover.1, hover.2, by simp [markHealthy, mark], by simp [markHealthy, mark]⟩
      · exact Or.inl (by simp [markHealthy, mark, setState, hr])
  · rw [expire, if_neg hover]
    exact Expires.refl s

theorem candidates_expires (group : Option String) (exclude : Option ρ) (ps : List ρ)
    (s : State ρ) : Expires c s (candidates c group exclude ps s).2 := by
  induction ps generalizing s with
  | nil => exact Expires.refl s
  | cons p ps ih => exact (expire_expires p s).trans (ih _)

omit [DecidableEq ρ] in
theorem select_rest (choice : Nat) (p : ρ) (ps : List ρ) (s : State ρ) :
    ∃ index, (select c choice p ps s).2 = { s with index := index } := by
  unfold select
  split
  · exact ⟨_, rfl⟩
  · exact ⟨s.index, rfl⟩
  · exact ⟨s.index, rfl⟩

theorem acquire_expires (group : Option String) (exclude : Option ρ) (choice : Nat)
    (s : State ρ) : Expires c s (acquire c group exclude choice s).2 := by
  have hscan := candidates_expires (c := c) group exclude s.proxies s
  unfold acquire
  rcases e : candidates c group exclude s.proxies s with ⟨ps, s'⟩
  rw [e] at hscan
  cases ps with
  | nil => exact hscan
  | cons p ps =>
    obtain ⟨index, hindex⟩ := select_rest (c := c) choice p ps s'
    show Expires c s (select c choice p ps s').2
    rw [hindex]
    exact ⟨hscan.now, hscan.same, hscan.record⟩

/-- A call is a report, or time passes, or cooldowns may end. -/
theorem step_cases (s : State ρ) (e : Event ρ) :
    (∃ p, e = .reportFailure p) ∨ (∃ p, e = .reportSuccess p) ∨
      (∃ seconds, e = .tick seconds) ∨
      Expires c s (step c s e) ∧ elapsed [e] = 0 ∧ ∀ p, e ≠ .reportFailure p := by
  have hsame : ∀ s' : State ρ, s'.now = s.now → s'.states = s.states → s'.status = s.status →
      s'.failureCount = s.failureCount → Expires c s s' := by
    intro s' h1 h2 h3 h4
    exact ⟨h1, fun r => Or.inl (by rw [h2]), fun r => Or.inl ⟨by rw [h3], by rw [h4]⟩⟩
  cases e with
  | tick seconds => exact Or.inr (Or.inr (Or.inl ⟨seconds, rfl⟩))
  | reportFailure p => exact Or.inl ⟨p, rfl⟩
  | reportSuccess p => exact Or.inr (Or.inl ⟨p, rfl⟩)
  | acquire group exclude choice =>
    exact Or.inr (Or.inr (Or.inr ⟨acquire_expires group exclude choice s, rfl, nofun⟩))
  | isHealthy p => exact Or.inr (Or.inr (Or.inr ⟨expire_expires p s, rfl, nofun⟩))
  | load proxies => exact Or.inr (Or.inr (Or.inr ⟨hsame _ rfl rfl rfl rfl, rfl, nofun⟩))
  | add p => exact Or.inr (Or.inr (Or.inr ⟨hsame _ rfl rfl rfl rfl, rfl, nofun⟩))
  | clear => exact Or.inr (Or.inr (Or.inr ⟨hsame _ rfl rfl rfl rfl, rfl, nofun⟩))

/-! ### Who comes back -/

/-- A record and its address agree: while there is no cooldown, the failures in a row are those
that the record counts, below the threshold. -/
structure Sound (c : Config ρ) (s : State ρ) (r : ρ) : Prop where
  open_ : (s.states (c.key r)).cooldownUntil = 0 →
    (s.status r = .healthy ∨ s.status r = .degraded) ∧
      s.failureCount r = (s.states (c.key r)).consecutiveFailures ∧
      ((s.states (c.key r)).consecutiveFailures < c.failureThreshold ∨
        (s.states (c.key r)).consecutiveFailures = 0)
  resting : 0 < (s.states (c.key r)).cooldownUntil →
    c.failureThreshold ≤ (s.states (c.key r)).consecutiveFailures
  until_ : (s.states (c.key r)).cooldownUntil ≤ s.now + c.cooldownSeconds

omit [DecidableEq ρ] in
theorem Sound.expires {s s' : State ρ} {r : ρ} (hs : Sound c s r) (h : Expires c s s')
    (hrecord : (s.states (c.key r)).cooldownUntil ≠ (s'.states (c.key r)).cooldownUntil →
      s'.status r = .healthy ∧ s'.failureCount r = 0) : Sound c s' r := by
  rcases h.same r with heq | ⟨h1, h2, h3, h4⟩
  · -- nothing happened to the address, and so nothing to the record
    refine ⟨fun hopen => ?_, fun hrest => ?_, ?_⟩
    · rw [heq] at hopen ⊢
      rcases h.record r with ⟨k1, k2⟩ | ⟨k1, -⟩
      · rw [k1, k2]
        exact hs.open_ hopen
      · rw [hopen] at k1
        cases k1
    · rw [heq] at hrest ⊢
      exact hs.resting hrest
    · rw [heq, h.now]
      exact hs.until_
  · have hne : (s.states (c.key r)).cooldownUntil ≠ (s'.states (c.key r)).cooldownUntil := by
      rw [h4]
      exact Nat.pos_iff_ne_zero.mp h1
    obtain ⟨hhealthy, hcount⟩ := hrecord hne
    refine ⟨fun _ => ⟨Or.inl hhealthy, by rw [hcount, h3], Or.inr h3⟩, fun hrest => ?_, ?_⟩
    · rw [h4] at hrest
      cases hrest
    · rw [h4]
      exact Nat.zero_le _

/-- With an address of its own, a record is marked when its cooldown ends. -/
theorem expire_marks (hkey : Function.Injective c.key) {s : State ρ} {p r : ρ}
    (hne : (s.states (c.key r)).cooldownUntil ≠
      ((expire c p s).states (c.key r)).cooldownUntil) :
    (expire c p s).status r = .healthy ∧ (expire c p s).failureCount r = 0 := by
  by_cases hover : isOver c p s
  · rw [expire, if_pos hover] at hne ⊢
    by_cases hr : r = p
    · subst hr
      exact ⟨by simp [markHealthy, mark], by simp [markHealthy, mark]⟩
    · have hkr : c.key r ≠ c.key p := fun h => hr (hkey h)
      exact absurd (by simp [markHealthy, mark, setState, hkr]) hne
  · rw [expire, if_neg hover] at hne
    exact absurd rfl hne

theorem Sound.expire (hkey : Function.Injective c.key) {s : State ρ} {r : ρ} (hs : Sound c s r)
    (p : ρ) : Sound c (expire c p s) r :=
  hs.expires (expire_expires p s) (expire_marks hkey)

theorem Sound.candidates (hkey : Function.Injective c.key) {r : ρ} (group : Option String)
    (exclude : Option ρ) (ps : List ρ) : ∀ {s : State ρ}, Sound c s r →
      Sound c (candidates c group exclude ps s).2 r := by
  induction ps with
  | nil => exact fun hs => hs
  | cons p ps ih => exact fun hs => ih (hs.expire hkey p)

theorem Sound.acquire (hkey : Function.Injective c.key) {s : State ρ} {r : ρ} (hs : Sound c s r)
    (group : Option String) (exclude : Option ρ) (choice : Nat) :
    Sound c (acquire c group exclude choice s).2 r := by
  have hscan := hs.candidates hkey group exclude s.proxies
  unfold ProxyPool.acquire
  rcases e : ProxyPool.candidates c group exclude s.proxies s with ⟨ps, s'⟩
  rw [e] at hscan
  cases ps with
  | nil => exact hscan
  | cons p ps =>
    obtain ⟨index, hindex⟩ := select_rest (c := c) choice p ps s'
    show Sound c (select c choice p ps s').2 r
    rw [hindex]
    exact ⟨hscan.open_, hscan.resting, hscan.until_⟩

/-- A failure below the threshold degrades; the threshold brings a cooldown. -/
theorem Sound.recordFailure (hkey : Function.Injective c.key) (hthree : c.failureThreshold ≤ 3)
    {s : State ρ} {r : ρ} (hnow : 0 < s.now) (hs : Sound c s r) (p : ρ) :
    Sound c (recordFailure c p s) r := by
  by_cases hr : r = p
  · subst hr
    by_cases htrip : c.failureThreshold ≤ (s.states (c.key r)).consecutiveFailures + 1
    · rw [ProxyPool.recordFailure, if_pos htrip]
      refine ⟨fun hopen => ?_, fun _ => ?_, ?_⟩
      · simp [mark, setState] at hopen
        omega
      · simpa [mark, setState, HealthState.failed] using htrip
      · simp [mark, setState]
    · rw [ProxyPool.recordFailure, if_neg htrip]
      rw [Nat.not_le] at htrip
      have hopen : (s.states (c.key r)).cooldownUntil = 0 := by
        by_contra hne
        have := hs.resting (Nat.pos_of_ne_zero hne)
        omega
      obtain ⟨-, hcount, -⟩ := hs.open_ hopen
      have hfew : ¬3 ≤ s.failureCount r + 1 := by omega
      refine ⟨fun _ => ⟨Or.inr ?_, ?_, Or.inl ?_⟩, fun hrest => ?_, ?_⟩
      · simp [markFailed, mark, setState, hfew]
      · simp [markFailed, mark, setState, HealthState.failed, hcount]
      · simpa [markFailed, mark, setState, HealthState.failed] using htrip
      · simp [markFailed, mark, setState, HealthState.failed, hopen] at hrest
      · simp [markFailed, mark, setState, HealthState.failed, hopen]
  · have hkr : c.key r ≠ c.key p := fun h => hr (hkey h)
    have hsame : (ProxyPool.recordFailure c p s).states (c.key r) = s.states (c.key r) ∧
        (ProxyPool.recordFailure c p s).status r = s.status r ∧
        (ProxyPool.recordFailure c p s).failureCount r = s.failureCount r ∧
        (ProxyPool.recordFailure c p s).now = s.now := by
      unfold ProxyPool.recordFailure
      split
      · exact ⟨by simp [mark, setState, hkr], by simp [mark, setState, hr],
          by simp [mark, setState, hr], rfl⟩
      · exact ⟨by simp [markFailed, mark, setState, hkr], by simp [markFailed, mark, setState, hr],
          by simp [markFailed, mark, setState, hr], rfl⟩
    obtain ⟨h1, h2, h3, h4⟩ := hsame
    exact ⟨by rw [h1, h2, h3]; exact hs.open_, by rw [h1]; exact hs.resting,
      by rw [h1, h4]; exact hs.until_⟩

theorem Sound.recordSuccess (hkey : Function.Injective c.key) {s : State ρ} {r : ρ}
    (hs : Sound c s r) (p : ρ) : Sound c (recordSuccess c p s) r := by
  unfold ProxyPool.recordSuccess
  by_cases hr : r = p
  · subst hr
    refine ⟨fun _ => ⟨Or.inl ?_, ?_, Or.inr ?_⟩, fun hrest => ?_, ?_⟩
    · simp [markHealthy, mark]
    · simp [markHealthy, mark, setState]
    · simp [markHealthy, mark, setState]
    · simp [markHealthy, mark, setState] at hrest
    · simp [markHealthy, mark, setState]
  · have hkr : c.key r ≠ c.key p := fun h => hr (hkey h)
    refine ⟨?_, ?_, ?_⟩
    · simpa [markHealthy, mark, setState, hr, hkr] using hs.open_
    · simpa [markHealthy, mark, setState, hkr] using hs.resting
    · simpa [markHealthy, mark, setState, hkr] using hs.until_

theorem step_now (s : State ρ) (e : Event ρ) : (step c s e).now = s.now + elapsed [e] := by
  rcases step_cases (c := c) s e with ⟨p, rfl⟩ | ⟨p, rfl⟩ | ⟨seconds, rfl⟩ | ⟨h, hzero, -⟩
  · show (recordFailure c p s).now = _
    unfold recordFailure
    split <;> rfl
  · rfl
  · rfl
  · rw [h.now, hzero]
    rfl

theorem run_now (es : List (Event ρ)) (s : State ρ) :
    (run (step c) s es).now = s.now + elapsed es := by
  induction es generalizing s with
  | nil => rfl
  | cons e es ih =>
    rw [run_cons, ih, step_now, elapsed_cons e es]
    omega

theorem step_sound (hkey : Function.Injective c.key) (hthree : c.failureThreshold ≤ 3)
    {s : State ρ} {r : ρ} (hnow : 0 < s.now) (hs : Sound c s r) (e : Event ρ) :
    Sound c (step c s e) r := by
  cases e with
  | tick seconds =>
    refine ⟨hs.open_, hs.resting, hs.until_.trans ?_⟩
    show s.now + c.cooldownSeconds ≤ s.now + seconds + c.cooldownSeconds
    omega
  | load proxies => exact ⟨hs.open_, hs.resting, hs.until_⟩
  | add p => exact ⟨hs.open_, hs.resting, hs.until_⟩
  | clear => exact ⟨hs.open_, hs.resting, hs.until_⟩
  | acquire group exclude choice => exact hs.acquire hkey group exclude choice
  | isHealthy p => exact hs.expire hkey p
  | reportSuccess p => exact hs.recordSuccess hkey p
  | reportFailure p => exact hs.recordFailure hkey hthree hnow p

omit [DecidableEq ρ] in
theorem sound_start (r : ρ) : Sound c .start r :=
  ⟨fun _ => ⟨Or.inl rfl, rfl, Or.inr rfl⟩, fun h => absurd h (Nat.lt_irrefl 0), Nat.zero_le _⟩

theorem run_sound (hkey : Function.Injective c.key) (hthree : c.failureThreshold ≤ 3) (r : ρ)
    (es : List (Event ρ)) : Sound c (run (step c) .start es) r := by
  have key : Always (step c) (fun s => 0 < s.now ∧ Sound c s r) .start es :=
    always_of_step (fun s e hs => ⟨by rw [step_now]; omega, step_sound hkey hthree hs.1 hs.2 e⟩)
      ⟨Nat.one_pos, sound_start r⟩ es
  exact key.last.2

/-- A step without a failure of the record puts its cooldown off by nothing. -/
theorem step_cooldown_le (hkey : Function.Injective c.key) (s : State ρ) {e : Event ρ} {r : ρ}
    (he : e ≠ .reportFailure r) :
    ((step c s e).states (c.key r)).cooldownUntil ≤ (s.states (c.key r)).cooldownUntil := by
  rcases step_cases (c := c) s e with ⟨p, rfl⟩ | ⟨p, rfl⟩ | ⟨seconds, rfl⟩ | ⟨h, -⟩
  · have hkr : c.key r ≠ c.key p := fun h => he (by rw [hkey h])
    show ((recordFailure c p s).states (c.key r)).cooldownUntil ≤ _
    unfold recordFailure
    split
    · simp [mark, setState, hkr]
    · simp [markFailed, mark, setState, hkr]
  · by_cases hkr : c.key r = c.key p
    · show ((recordSuccess c p s).states (c.key r)).cooldownUntil ≤ _
      simp [recordSuccess, markHealthy, mark, setState, hkr]
    · show ((recordSuccess c p s).states (c.key r)).cooldownUntil ≤ _
      simp [recordSuccess, markHealthy, mark, setState, hkr]
  · exact Nat.le_refl _
  · rcases h.same r with heq | ⟨-, -, -, hzero⟩
    · rw [heq]
    · rw [hzero]
      exact Nat.zero_le _

/-- A record is available once its cooldown is over. -/
theorem Sound.available {s : State ρ} {r : ρ} (hs : Sound c s r)
    (hover : (s.states (c.key r)).cooldownUntil ≤ s.now) : isAvailable c r s = true := by
  unfold isAvailable
  rw [if_neg (Nat.not_lt.mpr hover), decide_eq_true_eq]
  by_cases hopen : (s.states (c.key r)).cooldownUntil = 0
  · have hnot : ¬isOver c r s := fun h => absurd hopen (Nat.pos_iff_ne_zero.mp h.1)
    rw [ProxyPool.expire, if_neg hnot]
    exact (hs.open_ hopen).1
  · rw [ProxyPool.expire, if_pos ⟨Nat.pos_of_ne_zero hopen, hover⟩]
    exact Or.inl (by simp [markHealthy, mark])

/-- Every record is available when it has had no failure for as long as a cooldown. -/
def Recovers (c : Config ρ) : Prop :=
  ∀ (es fs : List (Event ρ)) (r : ρ), (∀ e ∈ fs, e ≠ .reportFailure r) →
    c.cooldownSeconds ≤ elapsed fs → isAvailable c r (run (step c) .start (es ++ fs)) = true

theorem recovers_of_sound (hkey : Function.Injective c.key) (hthree : c.failureThreshold ≤ 3) :
    Recovers c := by
  intro es fs r hfs helapsed
  have hcooldown : ∀ (fs : List (Event ρ)) (s : State ρ), (∀ e ∈ fs, e ≠ .reportFailure r) →
      ((run (step c) s fs).states (c.key r)).cooldownUntil ≤
        (s.states (c.key r)).cooldownUntil := by
    intro fs
    induction fs with
    | nil => exact fun s _ => Nat.le_refl _
    | cons e fs ih =>
      intro s h
      exact (ih _ fun e' he' => h e' (List.mem_cons_of_mem _ he')).trans
        (step_cooldown_le hkey s (h e (List.mem_cons_self ..)))
  have huntil := (run_sound hkey hthree r es).until_
  refine (run_sound hkey hthree r (es ++ fs)).available ?_
  rw [run_append, run_now]
  have := hcooldown fs (run (step c) .start es) hfs
  omega

/-- Below the threshold, so many failures are counted. -/
theorem run_failures (r : ρ) {n : Nat} (hn : n < c.failureThreshold) :
    let s := run (step c) State.start (List.replicate n (.reportFailure r))
    (s.states (c.key r)).consecutiveFailures = n ∧ s.failureCount r = n ∧
      (s.states (c.key r)).cooldownUntil = 0 ∧ s.now = 1 ∧ (3 ≤ n → s.status r = .failed) := by
  induction n with
  | zero => exact ⟨rfl, rfl, rfl, rfl, fun h => absurd h (by omega)⟩
  | succ n ih =>
    obtain ⟨h1, h2, h3, h4, -⟩ := ih (by omega)
    rw [List.replicate_succ', run_append, run_cons, run_nil]
    generalize run (step c) State.start (List.replicate n (.reportFailure r)) = s at h1 h2 h3 h4
    show ((recordFailure c r s).states (c.key r)).consecutiveFailures = n + 1 ∧ _
    have hbelow : ¬c.failureThreshold ≤ (s.states (c.key r)).consecutiveFailures + 1 := by omega
    have hstep : step c s (.reportFailure r) =
        markFailed r (setState c r ((s.states (c.key r)).failed s.now) s) := if_neg hbelow
    rw [hstep]
    refine ⟨?_, ?_, ?_, h4, fun hthree => ?_⟩
    · show ((recordFailure c r s).states (c.key r)).consecutiveFailures = n + 1
      rw [recordFailure, if_neg hbelow]
      simp [markFailed, mark, setState, HealthState.failed, h1]
    · simp [markFailed, mark, setState, h2]
    · simp [markFailed, mark, setState, HealthState.failed, h3]
    · have h3' : 3 ≤ s.failureCount r + 1 := by omega
      simp [markFailed, mark, setState, h3']

/-- A record whose address has a cooldown that the check of another record ends. -/
theorem lost_of_twin {r r' : ρ} (hkey : c.key r = c.key r') (hne : r ≠ r') {s : State ρ}
    (hnow : 0 < s.now) (htrip : c.failureThreshold ≤ (s.states (c.key r)).consecutiveFailures + 1) :
    isAvailable c r (run (step c) s ([.reportFailure r] ++
      [.tick c.cooldownSeconds, .isHealthy r'])) = false := by
  have hrested : (recordFailure c r s).status r = .cooldown ∧
      ((recordFailure c r s).states (c.key r)).cooldownUntil = s.now + c.cooldownSeconds ∧
      (recordFailure c r s).now = s.now := by
    rw [recordFailure, if_pos htrip]
    simp [mark, setState]
  show isAvailable c r (expire c r' { recordFailure c r s with
    now := (recordFailure c r s).now + c.cooldownSeconds }) = false
  generalize recordFailure c r s = s₁ at hrested
  obtain ⟨hstatus, huntil, hclock⟩ := hrested
  have hover : isOver c r' { s₁ with now := s₁.now + c.cooldownSeconds } := by
    constructor
    · show 0 < (s₁.states (c.key r')).cooldownUntil
      rw [← hkey, huntil]
      omega
    · show (s₁.states (c.key r')).cooldownUntil ≤ s₁.now + c.cooldownSeconds
      rw [← hkey, huntil, hclock]
  rw [expire, if_pos hover]
  -- the cooldown of the address is gone, and the record still says that it rests
  have hnot : ∀ s' : State ρ, (s'.states (c.key r)).cooldownUntil = 0 → ¬isOver c r s' :=
    fun s' hzero h => absurd hzero (Nat.pos_iff_ne_zero.mp h.1)
  have hzero : ∀ h : HealthState, h.cooldownUntil = 0 → ∀ s' : State ρ,
      ((markHealthy r' (setState c r' h s')).states (c.key r)).cooldownUntil = 0 := by
    intro h hh s'
    simp [markHealthy, mark, setState, hkey, hh]
  rw [isAvailable, expire, if_neg (hnot _ (hzero _ rfl _)), hzero _ rfl, if_neg (Nat.not_lt_zero _)]
  simp [markHealthy, mark, setState, hne, hstatus]

/-- **Who comes back.**  Every record is available again when no failure was reported for it as
long as a cooldown, in every run, exactly when the threshold is at most three and no two records
share an address: with more, the third failure marks a record as failed for good, and of two
records of one address the check of the one ends the cooldown of both. -/
theorem pool_recovers_iff (c : Config ρ) (r₀ : ρ) :
    Recovers c ↔ c.failureThreshold ≤ 3 ∧ Function.Injective c.key := by
  refine ⟨fun h => ?_, fun ⟨hthree, hkey⟩ => recovers_of_sound hkey hthree⟩
  have hthree : c.failureThreshold ≤ 3 := by
    by_contra hfour
    rw [Nat.not_le] at hfour
    -- three failures mark the record, and there is no cooldown that could end
    have hlost := h (List.replicate 3 (.reportFailure r₀)) [.tick c.cooldownSeconds] r₀
      (by simp) (by simp [elapsed])
    obtain ⟨-, -, h3, -, h5⟩ := run_failures (c := c) r₀ hfour
    rw [run_append] at hlost
    generalize run (step c) State.start (List.replicate 3 (.reportFailure r₀)) = s at hlost h3 h5
    have hover : ¬isOver c r₀ (step c s (.tick c.cooldownSeconds)) := by
      intro hover
      have hpos : 0 < (s.states (c.key r₀)).cooldownUntil := hover.1
      omega
    rw [run_cons, run_nil, isAvailable, expire, if_neg hover] at hlost
    have hstatus : (step c s (.tick c.cooldownSeconds)).status r₀ = .failed := h5 (Nat.le_refl 3)
    simp [hstatus] at hlost
  refine ⟨hthree, fun r r' hkey => ?_⟩
  by_contra hne
  -- the failures of the one, and a check of the other behind the cooldown
  let n := c.failureThreshold - 1
  have hlost := h (List.replicate n (.reportFailure r) ++ [.reportFailure r])
    [.tick c.cooldownSeconds, .isHealthy r'] r (by simp) (by simp [elapsed])
  rw [List.append_assoc, run_append] at hlost
  have hstart : ((run (step c) State.start (List.replicate n (.reportFailure r))).states
      (c.key r)).consecutiveFailures = n ∧
      (run (step c) State.start (List.replicate n (.reportFailure r))).now = 1 := by
    by_cases hzero : c.failureThreshold = 0
    · have hn : n = 0 := by
        show c.failureThreshold - 1 = 0
        omega
      rw [hn]
      exact ⟨rfl, rfl⟩
    · obtain ⟨h1, -, -, h4, -⟩ := run_failures (c := c) (n := n) r (by
        show c.failureThreshold - 1 < c.failureThreshold
        omega)
      exact ⟨h1, h4⟩
  rw [lost_of_twin hkey hne (by rw [hstart.2]; exact Nat.one_pos) (by
    rw [hstart.1]
    show c.failureThreshold ≤ c.failureThreshold - 1 + 1
    omega)] at hlost
  cases hlost

/-! ### Who rests -/

def isFailureOf (c : Config ρ) (k : String) : Event ρ → Bool
  | .reportFailure p => c.key p == k
  | _ => false

def isSuccessOf (c : Config ρ) (k : String) : Event ρ → Bool
  | .reportSuccess p => c.key p == k
  | _ => false

/-- An address in cooldown has reached the threshold. -/
def Reached (c : Config ρ) (s : State ρ) : Prop :=
  ∀ r, 0 < (s.states (c.key r)).cooldownUntil →
    c.failureThreshold ≤ (s.states (c.key r)).consecutiveFailures

theorem recordFailure_states (p : ρ) (s : State ρ) (k : String) :
    (recordFailure c p s).states k =
      if k = c.key p then
        if c.failureThreshold ≤ (s.states k).consecutiveFailures + 1 then
          { (s.states k).failed s.now with cooldownUntil := s.now + c.cooldownSeconds }
        else (s.states k).failed s.now
      else s.states k := by
  unfold recordFailure
  by_cases hk : k = c.key p
  · subst hk
    split
    · simp [mark, setState]
    · simp [markFailed, mark, setState]
  · split
    · simp [mark, setState, hk]
    · simp [markFailed, mark, setState, hk]

theorem recordSuccess_states (p : ρ) (s : State ρ) {k : String} (hk : k ≠ c.key p) :
    (recordSuccess c p s).states k = s.states k := by
  simp [recordSuccess, markHealthy, mark, setState, hk]

theorem step_reached (s : State ρ) (e : Event ρ) (hs : Reached c s) : Reached c (step c s e) := by
  intro r hrest
  rcases step_cases (c := c) s e with ⟨p, rfl⟩ | ⟨p, rfl⟩ | ⟨seconds, rfl⟩ | ⟨h, -⟩
  · have hstates : (step c s (.reportFailure p)).states (c.key r) = _ :=
      recordFailure_states p s (c.key r)
    rw [hstates] at hrest ⊢
    split
    · next hk =>
      rw [if_pos hk] at hrest
      split
      · next htrip => exact htrip
      · next hbelow =>
        rw [if_neg hbelow] at hrest
        exact (hs r hrest).trans (Nat.le_succ _)
    · next hk =>
      rw [if_neg hk] at hrest
      exact hs r hrest
  · by_cases hk : c.key r = c.key p
    · have hzero : ((step c s (.reportSuccess p)).states (c.key r)).cooldownUntil = 0 := by
        simp [step, recordSuccess, markHealthy, mark, setState, hk]
      omega
    · have hsame : (step c s (.reportSuccess p)).states (c.key r) = _ :=
        recordSuccess_states p s hk
      rw [hsame] at hrest ⊢
      exact hs r hrest
  · exact hs r hrest
  · rcases h.same r with heq | ⟨-, -, -, hzero⟩
    · rw [heq] at hrest ⊢
      exact hs r hrest
    · omega

/-- What `n` failures of an address since `start` leave: a cooldown that `start` and its length
reach, or the failures in a row. -/
def Counted (c : Config ρ) (q : ρ) (start n : Nat) (s : State ρ) : Prop :=
  n = 0 ∨ start + c.cooldownSeconds ≤ (s.states (c.key q)).cooldownUntil ∨
    (s.states (c.key q)).cooldownUntil = 0 ∧ n ≤ (s.states (c.key q)).consecutiveFailures ∧
      (s.states (c.key q)).consecutiveFailures < c.failureThreshold

theorem step_counted {q : ρ} {start n : Nat} {s : State ρ} {e : Event ρ} (hreached : Reached c s)
    (hstart : start ≤ s.now) (hsoon : s.now < start + c.cooldownSeconds)
    (hsuccess : isSuccessOf c (c.key q) e = false) (hs : Counted c q start n s) :
    Counted c q start (n + if isFailureOf c (c.key q) e then 1 else 0) (step c s e) := by
  rcases step_cases (c := c) s e with ⟨p, rfl⟩ | ⟨p, rfl⟩ | ⟨seconds, rfl⟩ | ⟨h, -, hother⟩
  · have hstates : (step c s (.reportFailure p)).states (c.key q) = _ :=
      recordFailure_states p s (c.key q)
    unfold Counted
    rw [hstates]
    by_cases hk : c.key q = c.key p
    · rw [if_pos hk]
      refine Or.inr ?_
      by_cases htrip : c.failureThreshold ≤ (s.states (c.key q)).consecutiveFailures + 1
      · rw [if_pos htrip]
        exact Or.inl (Nat.add_le_add_right hstart _)
      · rw [if_neg htrip]
        rw [Nat.not_le] at htrip
        rcases hs with rfl | hlong | ⟨hzero, hcount, -⟩
        · -- the first failure finds no cooldown, or it would have reached the threshold
          refine Or.inr ⟨?_, ?_, htrip⟩
          · by_contra hne
            have := hreached q (Nat.pos_of_ne_zero hne)
            omega
          · simp [isFailureOf, hk, HealthState.failed]
        · exact Or.inl hlong
        · refine Or.inr ⟨hzero, ?_, htrip⟩
          simpa [isFailureOf, hk, HealthState.failed] using hcount
    · have hno : isFailureOf c (c.key q) (.reportFailure p) = false := by
        simpa [isFailureOf] using fun h => hk h.symm
      rw [if_neg hk, hno]
      exact hs
  · have hk : c.key q ≠ c.key p := by
      intro hk
      simp [isSuccessOf, hk] at hsuccess
    have hsame : (step c s (.reportSuccess p)).states (c.key q) = _ := recordSuccess_states p s hk
    unfold Counted
    rw [hsame]
    exact hs
  · exact hs
  · have hno : isFailureOf c (c.key q) e = false := by
      cases e with
      | reportFailure p => exact absurd rfl (hother p)
      | _ => rfl
    rw [hno]
    rcases h.same q with heq | ⟨hpos, hover, -⟩
    · unfold Counted
      rw [heq]
      exact hs
    · -- a cooldown that is over is none that began behind the start
      rcases hs with rfl | hlong | ⟨hzero, -⟩
      · exact Or.inl rfl
      · omega
      · omega

/-- The failures of an address in a run. -/
def failures (c : Config ρ) (k : String) (es : List (Event ρ)) : Nat := es.countP (isFailureOf c k)

theorem run_counted {q : ρ} (start : Nat) (fs : List (Event ρ)) : ∀ {s : State ρ},
    Reached c s → start ≤ s.now → s.now + elapsed fs < start + c.cooldownSeconds →
      (∀ e ∈ fs, isSuccessOf c (c.key q) e = false) → ∀ {n : Nat}, Counted c q start n s →
      Counted c q start (n + failures c (c.key q) fs) (run (step c) s fs) := by
  induction fs with
  | nil => exact fun _ _ _ _ _ hs => hs
  | cons e fs ih =>
    intro s hreached hstart hsoon hsuccess n hs
    rw [elapsed_cons] at hsoon
    have hstep := step_counted hreached hstart (by omega) (hsuccess e (List.mem_cons_self ..)) hs
    have hrest := ih (step_reached s e hreached) (by rw [step_now]; omega)
      (by rw [step_now]; omega) (fun e' he' => hsuccess e' (List.mem_cons_of_mem _ he')) hstep
    have hsum : n + (if isFailureOf c (c.key q) e then 1 else 0) + failures c (c.key q) fs =
        n + failures c (c.key q) (e :: fs) := by
      unfold failures
      rw [List.countP_cons]
      omega
    rw [run_cons, ← hsum]
    exact hrest

/-- A record in cooldown is no candidate. -/
theorem not_candidate {q : ρ} (group : Option String) (exclude : Option ρ) (ps : List ρ) :
    ∀ {s : State ρ}, s.now < (s.states (c.key q)).cooldownUntil →
      q ∉ (candidates c group exclude ps s).1 := by
  induction ps with
  | nil => exact fun _ => List.not_mem_nil
  | cons p ps ih =>
    intro s hrest
    have hexpire := expire_expires (c := c) p s
    have hnext : (expire c p s).now < ((expire c p s).states (c.key q)).cooldownUntil := by
      rcases hexpire.same q with heq | ⟨-, hover, -⟩
      · rw [heq, hexpire.now]
        exact hrest
      · omega
    have htail := ih hnext
    show q ∉ if isAvailable c p s && wanted c group exclude p then
      p :: (candidates c group exclude ps (expire c p s)).1
      else (candidates c group exclude ps (expire c p s)).1
    split
    · next hp =>
      intro hmem
      rcases List.mem_cons.mp hmem with rfl | hmem
      · rw [Bool.and_eq_true, isAvailable, if_pos hrest] at hp
        cases hp.1
      · exact htail hmem
    · exact htail

omit [DecidableEq ρ] in
theorem leastFailures_mem (s : State ρ) (p : ρ) (ps : List ρ) : leastFailures s p ps ∈ p :: ps := by
  induction ps generalizing p with
  | nil => exact List.mem_cons_self ..
  | cons q qs ih =>
    rcases List.mem_cons.mp (ih (if s.failureCount q < s.failureCount p then q else p)) with h | h
    · rw [leastFailures, h]
      split
      · exact List.mem_cons_of_mem _ (List.mem_cons_self ..)
      · exact List.mem_cons_self ..
    · exact List.mem_cons_of_mem _ (List.mem_cons_of_mem _ h)

omit [DecidableEq ρ] in
/-- A strategy chooses among the candidates. -/
theorem select_mem (choice : Nat) (p : ρ) (ps : List ρ) (s : State ρ) :
    (select c choice p ps s).1 ∈ p :: ps := by
  have hget : ∀ i, (p :: ps).getD i p ∈ p :: ps := by
    intro i
    rw [List.getD_eq_getElem?_getD]
    cases hi : (p :: ps)[i]? with
    | none => exact List.mem_cons_self ..
    | some q => exact List.mem_of_getElem? hi
  unfold select
  split
  · exact hget _
  · exact hget _
  · exact leastFailures_mem s p ps

/-- What is given out is a candidate. -/
theorem acquire_candidate {group : Option String} {exclude : Option ρ} {choice : Nat} {s : State ρ}
    {q : ρ} (h : (acquire c group exclude choice s).1 = some q) :
    q ∈ (candidates c group exclude s.proxies s).1 := by
  unfold acquire at h
  rcases e : candidates c group exclude s.proxies s with ⟨ps, s'⟩
  rw [e] at h
  cases ps with
  | nil => cases h
  | cons p ps =>
    have hq : (select c choice p ps s').1 = q := Option.some.inj h
    rw [← hq]
    exact select_mem choice p ps s'

/-- **Who rests.**  Behind any run, when an address has failed as often as the threshold within
less than a cooldown, and no success was reported for it meanwhile, none of its records is
available, and no call gives one out, whatever it asks for. -/
theorem failed_rests (c : Config ρ) (es fs : List (Event ρ)) (q : ρ)
    (htimes : max 1 c.failureThreshold ≤ failures c (c.key q) fs)
    (hsuccess : ∀ e ∈ fs, isSuccessOf c (c.key q) e = false)
    (htime : elapsed fs < c.cooldownSeconds) :
    let s := run (step c) .start (es ++ fs)
    isAvailable c q s = false ∧
      ∀ group exclude choice, (acquire c group exclude choice s).1 ≠ some q := by
  have hreached : Reached c (run (step c) .start es) :=
    (always_of_step (fun s e => step_reached s e) (fun _ h => absurd h (Nat.lt_irrefl 0)) es).last
  have hcounted := run_counted (q := q) (run (step c) .start es).now fs hreached
    (Nat.le_refl _) (by omega) hsuccess (Or.inl rfl)
  rw [← run_append, Nat.zero_add] at hcounted
  have hnow : (run (step c) .start (es ++ fs)).now = (run (step c) .start es).now + elapsed fs := by
    rw [run_append, run_now]
  have hrest : (run (step c) .start (es ++ fs)).now <
      ((run (step c) .start (es ++ fs)).states (c.key q)).cooldownUntil := by
    rcases hcounted with hnone | hlong | ⟨-, hcount, hbelow⟩
    · omega
    · omega
    · omega
  refine ⟨if_pos hrest, fun group exclude choice hq => ?_⟩
  exact not_candidate group exclude _ hrest (acquire_candidate hq)

/-- One proxy, with the settings of the SDK. -/
def single : Config Nat where
  key _ := "10.0.0.1:80"
  group _ := ""
  strategy := .roundRobin
  failureThreshold := 3
  cooldownSeconds := 60

theorem failed_rests_third : (acquire single none none 0 (run (step single) .start
    ([.load [0]] ++ [.reportFailure 0, .reportFailure 0, .tick 5, .reportFailure 0]))).1 ≠ some 0 :=
  (failed_rests single [.load [0]] [.reportFailure 0, .reportFailure 0, .tick 5, .reportFailure 0]
    0 (by decide) (by decide) (by decide)).2 none none 0

end Sda.ProxyPool
