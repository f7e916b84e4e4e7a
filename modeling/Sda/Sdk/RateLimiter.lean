/-
Sda/Sdk/RateLimiter.lean

The in-memory rate limiter (apis_sdk/infrastructure/rate_limit/limiter.py).

`acquire` runs under a lock, so a run is a list of calls in the order in which they get it, each at
the time it reads from a clock that does not go back.  A caller sends its request when the time it
was told is over.  Time is any ordered group; a window is open at its start, as the limiter prunes
it: a request of exactly one window length ago no longer counts.

A call that finds a slot records its time.  So as long as every call finds one, the timestamps of
a key are its requests of the last window (`Logged`), and no window has more of them than the limit.
A call that has to wait records nothing: its request is sent all the same, and every call that waits
for the same timestamp is sent at the same moment.

Main results: `limiter_within` — the limit holds in runs in which no call waits;
`waiting_exceeds` — where one call waits, as many as the limit can follow it at once.
-/
import Mathlib.Algebra.Order.Group.Basic
import Mathlib.Algebra.Order.Group.Int
import Mathlib.Logic.Function.Basic
import Sda.Lib.Run

namespace Sda.RateLimiter

variable {T : Type*} [AddCommGroup T] [LinearOrder T] [IsOrderedAddMonoid T]

/-! ### The limiter -/

/-- The settings of `InMemoryRateLimiter`. -/
structure Limits (T : Type*) where
  maxRequests : Nat
  windowSeconds : T

/-- `_timestamps`: of a key that is not in the dict there are none. -/
abbrev Timestamps (T : Type*) := String → List T

/-- The timestamps that are left when the expired ones are pruned. -/
def pruned (c : Limits T) (timestamps : List T) (now : T) : List T :=
  timestamps.filter (now - c.windowSeconds < ·)

/-- **`acquire`** at this time: the seconds to wait and the timestamps after it; none is the
`IndexError` of a limiter without any slot. -/
def acquire (c : Limits T) (timestamps : Timestamps T) (key : String) (now : T) :
    Option T × Timestamps T :=
  let active := pruned c (timestamps key) now
  if active.length < c.maxRequests then (some 0, Function.update timestamps key (active ++ [now]))
  else
    (active.head?.map fun oldest => max 0 (oldest + c.windowSeconds - now),
      Function.update timestamps key active)

/-! ### Runs -/

/-- A call, at the time it reads. -/
structure Call (T : Type*) where
  key : String
  now : T

/-- The limiter, the last time that was read, and the requests with the times they are sent. -/
structure System (T : Type*) where
  timestamps : Timestamps T
  clock : T
  sent : List (String × T)

/-- A new limiter. -/
def System.new (start : T) : System T := ⟨fun _ => [], start, []⟩

/-- A call, and the request that its caller sends when the wait is over. -/
def step (c : Limits T) (s : System T) (call : Call T) : System T :=
  let (wait, timestamps) := acquire c s.timestamps call.key call.now
  { timestamps := timestamps
    clock := call.now
    sent := s.sent ++ (wait.map fun seconds => (call.key, call.now + seconds)).toList }

/-- The times of the requests with this key. -/
def System.sentOf (s : System T) (key : String) : List T :=
  (s.sent.filter (·.1 = key)).map (·.2)

/-- The clock does not go back. -/
def ClockRuns (s : System T) (call : Call T) : Prop := s.clock ≤ call.now

instance ClockRuns.decidable (s : System T) (call : Call T) : Decidable (ClockRuns s call) :=
  inferInstanceAs (Decidable (s.clock ≤ call.now))

/-- The times in a window that ends with this one. -/
def inWindow (c : Limits T) (times : List T) (last : T) : List T :=
  times.filter fun t => last - c.windowSeconds < t ∧ t ≤ last

/-- **What the limiter is for**: in no window are more requests sent than the limit. -/
def WithinLimit (c : Limits T) (s : System T) : Prop :=
  ∀ key last, (inWindow c (s.sentOf key) last).length ≤ c.maxRequests

/-- The call finds a slot; a limiter without any raises, and nothing is sent. -/
def FindsSlot (c : Limits T) (s : System T) (call : Call T) : Prop :=
  (pruned c (s.timestamps call.key) call.now).length < c.maxRequests ∨ c.maxRequests = 0

/-! ### While every call finds a slot -/

variable {c : Limits T} {s : System T} {call : Call T}

/-- **The timestamps are the requests of the last window**, and none is sent later. -/
structure Logged (c : Limits T) (s : System T) : Prop where
  sent_le : ∀ key, ∀ t ∈ s.sentOf key, t ≤ s.clock
  active : ∀ key, pruned c (s.timestamps key) s.clock = pruned c (s.sentOf key) s.clock
  within : WithinLimit c s

theorem logged_new (start : T) : Logged c (System.new start) where
  sent_le _ _ ht := nomatch ht
  active _ := rfl
  within _ _ := Nat.zero_le _

/-- Pruning later is pruning twice. -/
theorem pruned_pruned {now later : T} (h : now ≤ later) (times : List T) :
    pruned c (pruned c times now) later = pruned c times later := by
  unfold pruned
  rw [List.filter_filter]
  apply List.filter_congr
  intro t _
  have hmono : later - c.windowSeconds < t → now - c.windowSeconds < t :=
    lt_of_le_of_lt (sub_le_sub_right h _)
  by_cases ht : later - c.windowSeconds < t
  · simp [ht, hmono ht]
  · simp [ht]

theorem sentOf_append (s : System T) (timestamps : Timestamps T) (clock : T)
    (more : List (String × T)) (key : String) :
    System.sentOf ⟨timestamps, clock, s.sent ++ more⟩ key =
      s.sentOf key ++ (more.filter (·.1 = key)).map (·.2) := by
  unfold System.sentOf
  rw [List.filter_append, List.map_append]

/-- A call that finds a slot is sent at once, and recorded. -/
theorem step_of_slot (h : (pruned c (s.timestamps call.key) call.now).length < c.maxRequests) :
    step c s call =
      { timestamps := Function.update s.timestamps call.key
          (pruned c (s.timestamps call.key) call.now ++ [call.now])
        clock := call.now
        sent := s.sent ++ [(call.key, call.now)] } := by
  unfold step acquire
  dsimp only
  rw [if_pos h]
  simp

/-- A call that finds none records nothing. -/
theorem step_of_full (h : ¬(pruned c (s.timestamps call.key) call.now).length < c.maxRequests) :
    step c s call =
      { timestamps := Function.update s.timestamps call.key
          (pruned c (s.timestamps call.key) call.now)
        clock := call.now
        sent := s.sent ++ ((pruned c (s.timestamps call.key) call.now).head?.map fun oldest =>
          (call.key, call.now + max 0 (oldest + c.windowSeconds - call.now))).toList } := by
  unfold step acquire
  dsimp only
  rw [if_neg h, Option.map_map]
  rfl

theorem active_later (h : Logged c s) (hclock : ClockRuns s call) (key : String) :
    pruned c (s.timestamps key) call.now = pruned c (s.sentOf key) call.now := by
  rw [← pruned_pruned hclock, h.active key, pruned_pruned hclock]

/-- **One more request keeps every window within the limit**: the others of its window are among the
timestamps, and there was a slot. -/
theorem inWindow_append_le {times : List T} {now : T}
    (hlimit : ∀ last, (inWindow c times last).length ≤ c.maxRequests)
    (hslot : (pruned c times now).length < c.maxRequests) (last : T) :
    (inWindow c (times ++ [now]) last).length ≤ c.maxRequests := by
  have hsplit : inWindow c (times ++ [now]) last = inWindow c times last ++ inWindow c [now] last :=
    List.filter_append ..
  rw [hsplit, List.length_append]
  by_cases hnow : last - c.windowSeconds < now ∧ now ≤ last
  · have hactive : (inWindow c times last).length ≤ (pruned c times now).length := by
      unfold inWindow pruned
      rw [← List.countP_eq_length_filter, ← List.countP_eq_length_filter]
      apply List.countP_mono_left
      intro t _ ht
      have hwindow : last - c.windowSeconds < t := (of_decide_eq_true ht).1
      exact decide_eq_true (lt_of_le_of_lt (sub_le_sub_right hnow.2 _) hwindow)
    have hone : (inWindow c [now] last).length ≤ 1 := List.length_filter_le ..
    omega
  · have hnone : inWindow c [now] last = [] := by
      unfold inWindow
      rw [List.filter_cons, if_neg (by simpa using hnow)]
      rfl
    rw [hnone]
    exact hlimit last

/-- **A call that finds a slot keeps the record.** -/
theorem logged_step (h : Logged c s) (hcall : ClockRuns s call ∧ FindsSlot c s call) :
    Logged c (step c s call) := by
  obtain ⟨hclock, hslot⟩ := hcall
  have hbefore : ∀ key, ∀ t ∈ s.sentOf key, t ≤ call.now :=
    fun key t ht => (h.sent_le key t ht).trans hclock
  by_cases hfree : (pruned c (s.timestamps call.key) call.now).length < c.maxRequests
  · rw [step_of_slot hfree]
    have hsame : System.sentOf ⟨Function.update s.timestamps call.key
        (pruned c (s.timestamps call.key) call.now ++ [call.now]), call.now,
        s.sent ++ [(call.key, call.now)]⟩ call.key = s.sentOf call.key ++ [call.now] := by
      rw [sentOf_append]
      simp
    have hother : ∀ key, key ≠ call.key → System.sentOf ⟨Function.update s.timestamps call.key
        (pruned c (s.timestamps call.key) call.now ++ [call.now]), call.now,
        s.sent ++ [(call.key, call.now)]⟩ key = s.sentOf key := by
      intro key hkey
      rw [sentOf_append]
      simp [Ne.symm hkey]
    refine ⟨?_, ?_, ?_⟩
    · intro key t ht
      by_cases hkey : key = call.key
      · subst hkey
        rw [hsame] at ht
        rcases List.mem_append.mp ht with ht | ht
        · exact hbefore _ t ht
        · exact le_of_eq (List.mem_singleton.mp ht)
      · rw [hother key hkey] at ht
        exact hbefore key t ht
    · intro key
      by_cases hkey : key = call.key
      · subst hkey
        rw [hsame]
        show pruned c (Function.update s.timestamps call.key _ call.key) call.now = _
        rw [Function.update_self, active_later h hclock]
        unfold pruned
        rw [List.filter_append, List.filter_append, List.filter_filter]
        simp
      · rw [hother key hkey]
        show pruned c (Function.update s.timestamps call.key _ key) call.now = _
        rw [Function.update_of_ne hkey, active_later h hclock]
    · intro key last
      by_cases hkey : key = call.key
      · subst hkey
        rw [hsame]
        rw [active_later h hclock] at hfree
        exact inWindow_append_le (h.within call.key) hfree last
      · rw [hother key hkey]
        exact h.within key last
  · -- there is no slot at all: the call raises
    have hzero : c.maxRequests = 0 := hslot.resolve_left hfree
    have hsentNone : ∀ key last, inWindow c (s.sentOf key) last = [] := fun key last =>
      List.eq_nil_of_length_eq_zero (Nat.le_zero.mp (hzero ▸ h.within key last))
    have hnone : pruned c (s.timestamps call.key) call.now = [] := by
      rw [active_later h hclock]
      have hnow := hsentNone call.key call.now
      unfold inWindow at hnow
      unfold pruned
      rw [List.filter_eq_nil_iff] at hnow ⊢
      intro t ht hactive
      exact hnow t ht (decide_eq_true ⟨of_decide_eq_true hactive, hbefore _ t ht⟩)
    rw [step_of_full hfree, hnone]
    refine ⟨?_, ?_, ?_⟩
    · intro key t ht
      rw [sentOf_append] at ht
      exact hbefore key t (by simpa using ht)
    · intro key
      rw [sentOf_append]
      show pruned c (Function.update s.timestamps call.key [] key) call.now = _
      by_cases hkey : key = call.key
      · subst hkey
        have hlater := hnone
        rw [active_later h hclock] at hlater
        rw [Function.update_self]
        simp only [List.head?_nil, Option.map_none, Option.toList_none, List.filter_nil,
          List.map_nil, List.append_nil, hlater]
        rfl
      · rw [Function.update_of_ne hkey, active_later h hclock]
        simp
    · intro key last
      rw [sentOf_append]
      simpa using h.within key last

/-- **While every call finds a slot, the limit holds**: in every state of every run from a new
limiter, for every key and every window. -/
theorem limiter_within (c : Limits T) (start : T) (calls : List (Call T))
    (hclock : Along (step c) ClockRuns (System.new start) calls)
    (hslots : Along (step c) (FindsSlot c) (System.new start) calls) :
    Always (step c) (WithinLimit c) (System.new start) calls :=
  Always.mono (fun _ h => h.within) (always_of_along (fun _ _ => logged_step) (logged_new start)
    (along_and.mpr ⟨hclock, hslots⟩))

theorem limiter_within_at_minute : Always (step (⟨2, 60⟩ : Limits ℤ)) (WithinLimit ⟨2, 60⟩)
    (System.new 0) [⟨"eldorado", 0⟩, ⟨"eldorado", 1⟩, ⟨"gameboost", 2⟩, ⟨"eldorado", 60⟩] :=
  limiter_within ⟨2, 60⟩ 0 _
    ⟨by decide, by decide, by decide, by decide, trivial⟩
    ⟨Or.inl (by decide), Or.inl (by decide), Or.inl (by decide), Or.inl (by decide), trivial⟩

/-! ### When a call has to wait -/

/-- **The requests that wait for one timestamp are sent together.** -/
theorem sent_replicate {oldest : T} {rest : List T}
    (hfull : pruned c (s.timestamps call.key) call.now = oldest :: rest)
    (hlimit : c.maxRequests ≤ (oldest :: rest).length) (n : Nat) :
    (run (step c) s (List.replicate n call)).sent =
      s.sent ++ List.replicate n (call.key, oldest + c.windowSeconds) := by
  have hactive : call.now - c.windowSeconds < oldest := by
    have hmem : oldest ∈ pruned c (s.timestamps call.key) call.now := by
      rw [hfull]
      exact List.mem_cons_self
    exact of_decide_eq_true (List.mem_filter.mp hmem).2
  have hwait : call.now + max 0 (oldest + c.windowSeconds - call.now) =
      oldest + c.windowSeconds := by
    rw [max_eq_right (sub_nonneg.mpr (le_of_lt (sub_lt_iff_lt_add.mp hactive)))]
    exact add_sub_cancel call.now _
  induction n generalizing s with
  | zero => simp
  | succ n ih =>
    have hlength : c.maxRequests ≤ (pruned c (s.timestamps call.key) call.now).length := by
      rw [hfull]
      exact hlimit
    have hstep := step_of_full (Nat.not_lt.mpr hlength)
    rw [hfull] at hstep
    rw [List.replicate_succ, run_cons, ih]
    · rw [hstep, List.replicate_succ]
      simp [hwait]
    · rw [hstep]
      show pruned c (Function.update s.timestamps call.key (oldest :: rest) call.key) call.now = _
      rw [Function.update_self, ← hfull]
      exact pruned_pruned le_rfl _

/-- **Where a call has to wait, the limit can be broken at once**: by as many more calls as the limit,
made at the same time. -/
theorem waiting_exceeds {oldest : T} {rest : List T}
    (hfull : pruned c (s.timestamps call.key) call.now = oldest :: rest)
    (hlimit : c.maxRequests ≤ (oldest :: rest).length) (hold : oldest ≤ call.now) :
    ¬WithinLimit c (run (step c) s (List.replicate (c.maxRequests + 1) call)) := by
  intro hwithin
  have hcount := hwithin call.key (oldest + c.windowSeconds)
  have hpositive : oldest < oldest + c.windowSeconds := by
    have hmem : oldest ∈ pruned c (s.timestamps call.key) call.now := by
      rw [hfull]
      exact List.mem_cons_self
    exact lt_of_le_of_lt hold (sub_lt_iff_lt_add.mp (of_decide_eq_true (List.mem_filter.mp hmem).2))
  unfold inWindow System.sentOf at hcount
  rw [sent_replicate hfull hlimit, List.filter_append, List.map_append, List.filter_append,
    List.length_append] at hcount
  have hall : (List.filter (fun t => decide (oldest + c.windowSeconds - c.windowSeconds < t ∧
      t ≤ oldest + c.windowSeconds)) (List.map (·.2) (List.filter (fun r => decide (r.1 = call.key))
        (List.replicate (c.maxRequests + 1) (call.key, oldest + c.windowSeconds))))).length =
      c.maxRequests + 1 := by
    simp [hpositive]
  omega

/-- Three callers within a minute, one request a minute: two of them send at the same time. -/
theorem limiter_exceeded :
    ∃ calls, Along (step (⟨1, 60⟩ : Limits ℤ)) ClockRuns (System.new 0) calls ∧
      ¬Always (step (⟨1, 60⟩ : Limits ℤ)) (WithinLimit ⟨1, 60⟩) (System.new 0) calls := by
  refine ⟨[⟨"eldorado", 0⟩, ⟨"eldorado", 1⟩, ⟨"eldorado", 2⟩], ⟨by decide, by decide, by decide,
    trivial⟩, ?_⟩
  intro h
  have hcount := h.last "eldorado" 60
  revert hcount
  decide

end Sda.RateLimiter
