/-
Sda/Sdk/OfferLease.lean

The lease of an Eldorado offer (libs/apis_sdk/apis_sdk/clients/marketplaces/eldorado/
governor.py: `offer_mutation`, `_close_inherited_offer_leases`).

A `with offer_mutation(...)` statement is a frame on the stack of its thread, and is left at
any moment, by its end or by an exception.  What a frame does between two accesses to the lock
file is its thread's own, so a step is the entry up to the lock, the lock, the second reading
of the hold, or the exit.  `flock` is an exclusive lock of an open file; a thread takes no
lock that another open file has.

Main results, for the runs of `leaseStep`: `exclusive` — one thread at a time is inside the
lease of an offer; `leaseStep_released` — a step takes a lease from a thread only as the exit
of its outermost frame, and the file is then unlocked.
-/
import Sda.Lib.Run
import Sda.Lib.Table
import Sda.Sdk.Governor

namespace Sda.Lease

open Governor

/-! ### Frames and threads -/

/-- `key`: the process, and the path of the lock file. -/
structure LeaseKey where
  pid : Nat
  path : String
  deriving DecidableEq, Repr

inductive FramePhase
  /-- About to open and lock the file. -/
  | opening
  /-- Yields False, the file not locked. -/
  | busy
  /-- The open file `fd` is locked; the hold is read again. -/
  | locked (fd : Nat)
  /-- Yields False, the writes being held. -/
  | heldBack (fd : Nat)
  /-- Yields True. -/
  | owner (fd : Nat)
  /-- Yields True, inside of an owner. -/
  | nested
  deriving DecidableEq, Repr

structure Frame where
  key : LeaseKey
  phase : FramePhase
  deriving DecidableEq, Repr

/-- The open file of the frame that is locked. -/
def Frame.fd? (f : Frame) : Option Nat :=
  match f.phase with
  | .locked fd => some fd
  | .heldBack fd => some fd
  | .owner fd => some fd
  | _ => none

/-- The frame has yielded. -/
def Frame.settled (f : Frame) : Bool :=
  match f.phase with
  | .opening => false
  | .locked _ => false
  | _ => true

def Frame.isOwner (f : Frame) : Bool :=
  match f.phase with
  | .owner _ => true
  | _ => false

/-- The frame has yielded True. -/
def Frame.admits (f : Frame) : Bool := f.isOwner || f.phase == .nested

/-- A thread, with its frames, the innermost first. -/
structure Thread where
  pid : Nat
  frames : List Frame := []
  /-- `_offer_lease_context.held` -/
  held : List LeaseKey := []

/-- The thread is not on its way into a frame. -/
def Thread.settled (th : Thread) : Bool := th.frames.head?.all Frame.settled

/-- The number of its frames inside of a lease. -/
def Thread.depth (th : Thread) (path : String) : Nat :=
  th.frames.countP fun f => f.key == ⟨th.pid, path⟩ && f.admits

structure Leases where
  threads : Table Thread := .empty
  /-- The open file that has locked the file at a path. -/
  locks : String → Option Nat := fun _ => none
  nextFd : Nat := 0
  nextPid : Nat := 0

/-! ### Steps -/

/-- `identifiers` -/
def identifiers (store offerId : String) : String × String :=
  (storeKey store, lowerText (stripText offerId))

/-- A step of a thread; the flags are what it reads or meets. -/
inductive ThreadAction
  | enter (store offerId : String) (writesHeld : Bool)
  /-- Open the file and lock it without waiting; `fails` is an `OSError` of the file system. -/
  | lock (fails : Bool)
  | settle (writesHeld : Bool)
  /-- The statement ends, or an exception leaves it. -/
  | leave
  deriving DecidableEq

inductive LeaseAction
  /-- A process starts. -/
  | start
  /-- A thread starts in the process of another. -/
  | spawn (thread : Nat)
  | fork (thread : Nat)
  | on (thread : Nat) (action : ThreadAction)
  deriving DecidableEq

-- `digest` names the lock file
variable (digest : String × String → String)

/-- The entry, up to the lock file. -/
def Thread.enter (th : Thread) (store offerId : String) (writesHeld : Bool) : Thread :=
  let key : LeaseKey := ⟨th.pid, digest (identifiers store offerId)⟩
  let phase : FramePhase :=
    if writesHeld then .busy
    else if key ∈ th.held then .nested
    else .opening
  { th with frames := ⟨key, phase⟩ :: th.frames }

/-- The second reading of the hold. -/
def Thread.settle (th : Thread) (key : LeaseKey) (fd : Nat) (rest : List Frame)
    (writesHeld : Bool) : Thread :=
  if writesHeld then { th with frames := ⟨key, .heldBack fd⟩ :: rest }
  else { th with frames := ⟨key, .owner fd⟩ :: rest, held := key :: th.held }

/-- `held.pop(key, None)`, of the frame that has set it. -/
def Thread.leave (th : Thread) (f : Frame) (rest : List Frame) : Thread :=
  { th with
    frames := rest
    held := if f.isOwner then th.held.filter (· ≠ f.key) else th.held }

/-- `LOCK_UN`: the lock goes if it is this open file's. -/
def unlock (locks : String → Option Nat) (path : String) (fd : Nat) : String → Option Nat :=
  if locks path = some fd then Function.update locks path none else locks

/-- **`offer_mutation`**, a step at a time. -/
def threadStep (locks : String → Option Nat) (nextFd : Nat) (th : Thread) :
    ThreadAction → Thread × (String → Option Nat)
  | .enter store offerId writesHeld =>
    if th.settled then (th.enter digest store offerId writesHeld, locks) else (th, locks)
  | .lock fails =>
    match th.frames with
    | ⟨key, .opening⟩ :: rest =>
      if fails || (locks key.path).isSome then
        ({ th with frames := ⟨key, .busy⟩ :: rest }, locks)
      else
        ({ th with frames := ⟨key, .locked nextFd⟩ :: rest },
          Function.update locks key.path (some nextFd))
    | _ => (th, locks)
  | .settle writesHeld =>
    match th.frames with
    | ⟨key, .locked fd⟩ :: rest => (th.settle key fd rest writesHeld, locks)
    | _ => (th, locks)
  | .leave =>
    match th.frames with
    | f :: rest =>
      -- a forked child leaves the lock to its parent
      (th.leave f rest,
        match f.fd? with
        | some fd => if f.key.pid = th.pid then unlock locks f.key.path fd else locks
        | none => locks)
    | [] => (th, locks)

def leaseStep (s : Leases) : LeaseAction → Leases
  | .start =>
    { s with threads := s.threads.create { pid := s.nextPid }, nextPid := s.nextPid + 1 }
  | .spawn t =>
    match s.threads.get? t with
    | some th => { s with threads := s.threads.create { pid := th.pid } }
    | none => s
  | .fork t =>
    match s.threads.get? t with
    | some th =>
      if th.settled then
        -- the child has the frames, and a fresh `_offer_lease_context`
        { s with
          threads := s.threads.create { pid := s.nextPid, frames := th.frames }
          nextPid := s.nextPid + 1 }
      else s
    | none => s
  | .on t a =>
    match s.threads.get? t with
    | some th =>
      let (th', locks) := threadStep digest s.locks s.nextFd th a
      { s with threads := s.threads.set t th', locks := locks, nextFd := s.nextFd + 1 }
    | none => s

/-! ### The properties -/

/-- One thread at a time is inside of a lease. -/
def Exclusive (s : Leases) : Prop :=
  ∀ t t' th th' path, s.threads.get? t = some th → s.threads.get? t' = some th' →
    0 < th.depth path → 0 < th'.depth path → t = t'

/-- The open file is that of a frame of the thread's own process. -/
def Thread.Locks (th : Thread) (path : String) (fd : Nat) : Prop :=
  ∃ f ∈ th.frames, f.key = ⟨th.pid, path⟩ ∧ f.fd? = some fd

/-- A file is locked only while a thread is in the statement that has locked it. -/
def Tight (s : Leases) : Prop :=
  ∀ path fd, s.locks path = some fd → ∃ t th, s.threads.get? t = some th ∧ th.Locks path fd

/-- A thread inside of a lease stays inside, and the file locked, unless it leaves its
outermost frame: then the file is not locked any more. -/
def Released (s s' : Leases) (leaves : Nat → Prop) : Prop :=
  ∀ t th path, s.threads.get? t = some th → 0 < th.depth path →
    ∃ th', s'.threads.get? t = some th' ∧
      ((0 < th'.depth path ∧ (s.locks path).isSome = true ∧ s'.locks path = s.locks path) ∨
        (th.depth path = 1 ∧ th'.depth path = 0 ∧ leaves t ∧ s'.locks path = none))

/-! ### The frames of a thread -/

variable {digest} {locks locks' : String → Option Nat} {th th' : Thread} {path : String}
  {fd : Nat} {s : Leases}

/-- What the frames of a thread look like: all but the innermost have yielded, a nested one is
inside of an owner of its key, and a file is locked by one of them. -/
def Stacked : List Frame → Prop
  | [] => True
  | f :: rest =>
    Stacked rest ∧ (∀ g ∈ rest, g.settled = true) ∧
      (f.phase = .nested → ∃ g ∈ rest, g.key = f.key ∧ g.isOwner = true) ∧
      (f.fd?.isSome = true → ∀ g ∈ rest, g.key = f.key → g.fd? = none)

structure ThreadOk (th : Thread) : Prop where
  stacked : Stacked th.frames
  held : ∀ key, key ∈ th.held ↔
    key.pid = th.pid ∧ ∃ f ∈ th.frames, f.key = key ∧ f.isOwner = true
  own : ∀ f ∈ th.frames, f.settled = false → f.key.pid = th.pid

theorem Frame.fd?_of_isOwner {f : Frame} (h : f.isOwner = true) : ∃ fd, f.fd? = some fd := by
  rcases f with ⟨key, phase⟩
  cases phase <;> simp_all [Frame.isOwner, Frame.fd?]

/-- An admitted frame is inside of the owner of its key, or is the owner. -/
theorem Stacked.owner {frames : List Frame} (h : Stacked frames) {f : Frame} (hf : f ∈ frames)
    (hadmits : f.admits = true) : ∃ g ∈ frames, g.key = f.key ∧ g.isOwner = true := by
  induction frames with
  | nil => cases hf
  | cons x rest ih =>
    obtain ⟨hrest, -, hnested, -⟩ := h
    rcases List.mem_cons.mp hf with rfl | hf
    · rw [Frame.admits, Bool.or_eq_true, beq_iff_eq] at hadmits
      rcases hadmits with howner | hphase
      · exact ⟨f, List.mem_cons_self, rfl, howner⟩
      · obtain ⟨g, hg, hkey, howner⟩ := hnested hphase
        exact ⟨g, List.mem_cons_of_mem _ hg, hkey, howner⟩
    · obtain ⟨g, hg, hkey, howner⟩ := ih hrest hf
      exact ⟨g, List.mem_cons_of_mem _ hg, hkey, howner⟩

theorem depth_pos : 0 < th.depth path ↔
    ∃ f ∈ th.frames, f.key = ⟨th.pid, path⟩ ∧ f.admits = true := by
  simp [Thread.depth, List.countP_pos_iff]

/-- A thread inside of a lease has locked the file. -/
theorem ThreadOk.exists_locks (h : ThreadOk th) (hdepth : 0 < th.depth path) :
    ∃ fd, th.Locks path fd := by
  obtain ⟨f, hf, hkey, hadmits⟩ := depth_pos.mp hdepth
  obtain ⟨g, hg, hsame, howner⟩ := h.stacked.owner hf hadmits
  obtain ⟨fd, hfd⟩ := Frame.fd?_of_isOwner howner
  exact ⟨fd, g, hg, hsame.trans hkey, hfd⟩

/-- All frames of a settled thread have yielded. -/
theorem ThreadOk.settled (h : ThreadOk th) (hsettled : th.settled = true) :
    ∀ f ∈ th.frames, f.settled = true := by
  have hstacked := h.stacked
  rw [Thread.settled] at hsettled
  rcases hframes : th.frames with - | ⟨x, rest⟩
  · simp
  · rw [hframes] at hsettled hstacked
    intro f hf
    rcases List.mem_cons.mp hf with rfl | hf
    · exact hsettled
    · exact hstacked.2.1 f hf

/-! ### What a step of a thread does -/

/-- What a step does to the locks: nothing, or it locks a free file, or unlocks its own. -/
inductive LockChange (locks : String → Option Nat) (th th' : Thread) :
    (String → Option Nat) → Prop
  | kept (same : ∀ path fd, th'.Locks path fd ↔ th.Locks path fd) :
      LockChange locks th th' locks
  | taken (p : String) (n : Nat) (free : locks p = none)
      (more : ∀ path fd, th'.Locks path fd ↔ th.Locks path fd ∨ path = p ∧ fd = n) :
      LockChange locks th th' (Function.update locks p (some n))
  | given (p : String) (n : Nat) (was : th.Locks p n)
      (less : ∀ path fd, th'.Locks path fd ↔ th.Locks path fd ∧ path ≠ p) :
      LockChange locks th th' (unlock locks p n)

/-- What a step keeps of a thread. -/
structure StepOk (locks : String → Option Nat) (th th' : Thread)
    (locks' : String → Option Nat) : Prop where
  ok : ThreadOk th'
  pid : th'.pid = th.pid
  keys : ∀ f ∈ th'.frames, f.key.pid = th.pid ∨ ∃ g ∈ th.frames, g.key = f.key
  change : LockChange locks th th' locks'

theorem StepOk.refl (h : ThreadOk th) : StepOk locks th th locks :=
  ⟨h, rfl, fun f hf => Or.inr ⟨f, hf, rfl⟩, .kept fun _ _ => Iff.rfl⟩

/-- The innermost frame has become another, of the same key. -/
theorem locks_replace {frames : List Frame} {f g : Frame} (hth : th.frames = f :: frames)
    (hth' : th'.frames = g :: frames) (hpid : th'.pid = th.pid) {p : String} {n : Nat} :
    (th'.Locks p n ↔ g.key = ⟨th.pid, p⟩ ∧ g.fd? = some n ∨
      ∃ x ∈ frames, x.key = ⟨th.pid, p⟩ ∧ x.fd? = some n) ∧
    (th.Locks p n ↔ f.key = ⟨th.pid, p⟩ ∧ f.fd? = some n ∨
      ∃ x ∈ frames, x.key = ⟨th.pid, p⟩ ∧ x.fd? = some n) := by
  simp only [Thread.Locks, hth, hth', hpid, List.exists_mem_cons_iff]
  exact ⟨trivial, trivial⟩

/-- A frame that changes its phase and keeps its descriptor keeps the locks. -/
theorem locks_kept {frames : List Frame} {f g : Frame} (hth : th.frames = f :: frames)
    (hth' : th'.frames = g :: frames) (hpid : th'.pid = th.pid) (hkey : g.key = f.key)
    (hfd : g.fd? = f.fd?) (p : String) (n : Nat) : th'.Locks p n ↔ th.Locks p n := by
  obtain ⟨hnew, hwas⟩ := locks_replace hth hth' hpid (p := p) (n := n)
  rw [hnew, hwas, hkey, hfd]

theorem enter_ok (h : ThreadOk th) (hsettled : th.settled = true) (store offerId : String)
    (writesHeld : Bool) : StepOk locks th (th.enter digest store offerId writesHeld) locks := by
  rw [Thread.enter]
  generalize digest (identifiers store offerId) = path
  generalize hphase : (if writesHeld = true then FramePhase.busy
    else if (⟨th.pid, path⟩ : LeaseKey) ∈ th.held then .nested else .opening) = phase
  have hfd : (Frame.mk ⟨th.pid, path⟩ phase).fd? = none := by
    rw [← hphase]
    split_ifs <;> rfl
  have howner : (Frame.mk ⟨th.pid, path⟩ phase).isOwner = false := by
    rw [← hphase]
    split_ifs <;> rfl
  refine ⟨⟨⟨h.stacked, h.settled hsettled, ?_, by simp [hfd]⟩, ?_, ?_⟩, rfl, ?_, ?_⟩
  · rintro (hnested : phase = .nested)
    rw [← hphase] at hnested
    split_ifs at hnested with _ hheld
    exact ((h.held _).mp hheld).2
  · intro key
    simp [h.held, howner]
  · intro f hf
    rcases List.mem_cons.mp hf with rfl | hf
    · exact fun _ => rfl
    · exact h.own f hf
  · intro f hf
    rcases List.mem_cons.mp hf with rfl | hf
    · exact Or.inl rfl
    · exact Or.inr ⟨f, hf, rfl⟩
  · apply LockChange.kept
    intro p n
    simp [Thread.Locks, hfd]

/-- The innermost frame is replaced, and `held` put right. -/
theorem ThreadOk.replace (h : ThreadOk th) {f g : Frame} {rest : List Frame}
    (hframes : th.frames = f :: rest) (hframes' : th'.frames = g :: rest)
    (hpid : th'.pid = th.pid) (hkey : g.key = f.key) (hown : f.key.pid = th.pid)
    (hnested : g.phase ≠ .nested)
    (hfree : g.fd?.isSome = true → ∀ x ∈ rest, x.key = f.key → x.fd? = none)
    (hheld : ∀ key, key ∈ th'.held ↔ key ∈ th.held ∨ key = f.key ∧ g.isOwner = true)
    (hold : f.isOwner = false) : ThreadOk th' := by
  have hstacked := h.stacked
  rw [hframes] at hstacked
  constructor
  · rw [hframes']
    exact ⟨hstacked.1, hstacked.2.1, fun hp => absurd hp hnested, hkey ▸ hfree⟩
  · intro key
    rw [hheld, h.held, hframes, hframes', hpid]
    simp only [List.exists_mem_cons_iff, hkey, hold, Bool.false_eq_true, and_false, false_or]
    constructor
    · rintro (⟨hk, hin⟩ | ⟨rfl, howner⟩)
      · exact ⟨hk, Or.inr hin⟩
      · exact ⟨hown, Or.inl ⟨rfl, howner⟩⟩
    · rintro ⟨hk, ⟨rfl, howner⟩ | hin⟩
      · exact Or.inr ⟨rfl, howner⟩
      · exact Or.inl ⟨hk, hin⟩
  · rw [hframes', hpid]
    intro x hx hsettled
    rcases List.mem_cons.mp hx with rfl | hx
    · exact hkey ▸ hown
    · exact h.own x (hframes ▸ List.mem_cons_of_mem _ hx) hsettled

theorem keys_replace {f g : Frame} {rest : List Frame} (hframes : th.frames = f :: rest)
    (hkey : g.key = f.key) :
    ∀ x ∈ g :: rest, x.key.pid = th.pid ∨ ∃ y ∈ th.frames, y.key = x.key := by
  intro x hx
  rw [hframes]
  rcases List.mem_cons.mp hx with rfl | hx
  · exact Or.inr ⟨f, List.mem_cons_self, hkey.symm⟩
  · exact Or.inr ⟨x, List.mem_cons_of_mem _ hx, rfl⟩

theorem lock_ok (fd : Nat) (h : ThreadOk th)
    (hlocked : ∀ path fd, th.Locks path fd → locks path = some fd)
    {key : LeaseKey} {rest : List Frame} (hframes : th.frames = ⟨key, .opening⟩ :: rest) :
    StepOk locks th { th with frames := ⟨key, .busy⟩ :: rest } locks ∧
      (locks key.path = none → StepOk locks th { th with frames := ⟨key, .locked fd⟩ :: rest }
        (Function.update locks key.path (some fd))) := by
  have hown : key.pid = th.pid := h.own ⟨key, .opening⟩ (hframes ▸ List.mem_cons_self) rfl
  have hkey : key = ⟨th.pid, key.path⟩ := by rw [← hown]
  constructor
  · exact ⟨h.replace hframes rfl rfl rfl hown nofun nofun (by simp [Frame.isOwner]) rfl, rfl,
      keys_replace hframes rfl, .kept (locks_kept hframes rfl rfl rfl rfl)⟩
  · intro hfree
    refine ⟨h.replace hframes rfl rfl rfl hown nofun ?_ (by simp [Frame.isOwner]) rfl, rfl,
      keys_replace hframes rfl, .taken key.path fd hfree fun p n => ?_⟩
    · -- a lock of the same key below would be the lock of the file
      intro _ x hx hsame
      cases hx' : x.fd? with
      | none => rfl
      | some n =>
        have := hlocked key.path n
          ⟨x, hframes ▸ List.mem_cons_of_mem _ hx, hsame.trans hkey, hx'⟩
        rw [hfree] at this
        cases this
    · have hthread : ({ th with frames := ⟨key, .locked fd⟩ :: rest } : Thread).frames =
          ⟨key, .locked fd⟩ :: rest := rfl
      obtain ⟨hnew, hwas⟩ := locks_replace hframes hthread rfl (p := p) (n := n)
      rw [hnew, hwas]
      have hpath : key = ⟨th.pid, p⟩ ↔ p = key.path := by
        rw [hkey]
        simp [eq_comm]
      simp [Frame.fd?, hpath, or_comm, eq_comm]

theorem settle_ok (h : ThreadOk th) {key : LeaseKey} {rest : List Frame}
    (hframes : th.frames = ⟨key, .locked fd⟩ :: rest) (writesHeld : Bool) :
    StepOk locks th (th.settle key fd rest writesHeld) locks := by
  have hown : key.pid = th.pid := h.own ⟨key, .locked fd⟩ (hframes ▸ List.mem_cons_self) rfl
  have hfree : ∀ x ∈ rest, x.key = key → x.fd? = none := by
    have hstacked := h.stacked
    rw [hframes] at hstacked
    exact hstacked.2.2.2 rfl
  rw [Thread.settle]
  split
  · exact ⟨h.replace hframes rfl rfl rfl hown nofun (fun _ => hfree)
      (by simp [Frame.isOwner]) rfl, rfl, keys_replace hframes rfl,
      .kept (locks_kept hframes rfl rfl rfl rfl)⟩
  · exact ⟨h.replace hframes rfl rfl rfl hown nofun (fun _ => hfree)
      (by simp [Frame.isOwner, or_comm]) rfl, rfl, keys_replace hframes rfl,
      .kept (locks_kept hframes rfl rfl rfl rfl)⟩

/-- **An exit**: `held` is right again, and a lock of the thread's own is given back. -/
theorem leave_ok (h : ThreadOk th) {f : Frame} {rest : List Frame}
    (hframes : th.frames = f :: rest) :
    StepOk locks th (th.leave f rest)
      (match f.fd? with
        | some fd => if f.key.pid = th.pid then unlock locks f.key.path fd else locks
        | none => locks) := by
  have hstacked := h.stacked
  rw [hframes] at hstacked
  obtain ⟨hrest, -, -, hfree⟩ := hstacked
  have hlocks : ∀ p n, (th.Locks p n ↔ f.key = ⟨th.pid, p⟩ ∧ f.fd? = some n ∨
      (th.leave f rest).Locks p n) := by
    intro p n
    simp only [Thread.Locks, hframes, List.exists_mem_cons_iff]
    exact Iff.rfl
  refine ⟨⟨hrest, ?_, ?_⟩, rfl, ?_, ?_⟩
  · intro key
    rw [Thread.leave]
    cases howner : f.isOwner with
    | false => simp [h.held, hframes, howner]
    | true =>
      obtain ⟨fd, hfd⟩ := Frame.fd?_of_isOwner howner
      simp only [if_true, List.mem_filter, h.held, hframes, List.exists_mem_cons_iff]
      constructor
      · rintro ⟨⟨hpid, ⟨rfl, -⟩ | hin⟩, hne⟩
        · simp at hne
        · exact ⟨hpid, hin⟩
      · rintro ⟨hpid, g, hg, rfl, hgOwner⟩
        refine ⟨⟨hpid, Or.inr ⟨g, hg, rfl, hgOwner⟩⟩, ?_⟩
        -- another owner of the key would have locked the same file
        have hne : g.key ≠ f.key := by
          intro hsame
          obtain ⟨n, hn⟩ := Frame.fd?_of_isOwner hgOwner
          rw [hfree (by simp [hfd]) g hg hsame] at hn
          cases hn
        simpa using hne
  · intro g hg
    exact h.own g (hframes ▸ List.mem_cons_of_mem _ hg)
  · intro g hg
    exact Or.inr ⟨g, hframes ▸ List.mem_cons_of_mem _ hg, rfl⟩
  · cases hfd : f.fd? with
    | none =>
      refine .kept fun p n => ?_
      rw [hlocks]
      simp [hfd]
    | some fd =>
      by_cases hpid : f.key.pid = th.pid
      · have hkey : f.key = ⟨th.pid, f.key.path⟩ := by rw [← hpid]
        simp only [hpid, if_true]
        refine .given f.key.path fd ((hlocks _ _).mpr (Or.inl ⟨hkey, hfd⟩)) fun p n => ?_
        rw [hlocks]
        constructor
        · intro hl
          refine ⟨Or.inr hl, ?_⟩
          rintro rfl
          obtain ⟨g, hg, hsame, hn⟩ := hl
          rw [hfree (by simp [hfd]) g hg (hsame.trans hkey.symm)] at hn
          cases hn
        · rintro ⟨⟨hsame, -⟩ | hl, hne⟩
          · rw [hsame] at hne
            exact absurd rfl hne
          · exact hl
      · simp only [hpid, if_false]
        refine .kept fun p n => ?_
        rw [hlocks]
        constructor
        · exact Or.inr
        · rintro (⟨hsame, -⟩ | hl)
          · rw [hsame] at hpid
            exact absurd rfl hpid
          · exact hl

theorem threadStep_ok (h : ThreadOk th)
    (hlocked : ∀ path fd, th.Locks path fd → locks path = some fd) (nextFd : Nat)
    (a : ThreadAction) :
    StepOk locks th (threadStep digest locks nextFd th a).1
      (threadStep digest locks nextFd th a).2 := by
  cases a with
  | enter store offerId writesHeld =>
    rw [threadStep]
    split
    · next hsettled => exact enter_ok h hsettled store offerId writesHeld
    · exact StepOk.refl h
  | lock fails =>
    rw [threadStep]
    split
    · next key rest hframes =>
      obtain ⟨hbusy, hlock⟩ := lock_ok nextFd h hlocked hframes
      split
      · exact hbusy
      · next hfree =>
        rw [Bool.or_eq_true, not_or, Bool.not_eq_true (locks key.path).isSome,
          Option.isSome_eq_false_iff, Option.isNone_iff_eq_none] at hfree
        exact hlock hfree.2
    · exact StepOk.refl h
  | settle writesHeld =>
    rw [threadStep]
    split
    · next key fd rest hframes => exact settle_ok h hframes writesHeld
    · exact StepOk.refl h
  | leave =>
    rw [threadStep]
    split
    · next f rest hframes => exact leave_ok h hframes
    · exact StepOk.refl h

/-! ### Depths -/

/-- The frames that are inside of the lease. -/
def inside (pid : Nat) (path : String) (frames : List Frame) : Nat :=
  frames.countP fun f => f.key == ⟨pid, path⟩ && f.admits

theorem depth_of_frames {frames : List Frame} (hframes : th.frames = frames) :
    th.depth path = inside th.pid path frames := by
  rw [Thread.depth, hframes, inside]

theorem inside_cons {pid : Nat} {f : Frame} {rest : List Frame} :
    inside pid path (f :: rest) =
      inside pid path rest + if f.key = ⟨pid, path⟩ ∧ f.admits = true then 1 else 0 := by
  simp [inside, List.countP_cons]

theorem inside_cons_pos {pid : Nat} {f : Frame} {rest : List Frame}
    (h : 0 < inside pid path rest) : 0 < inside pid path (f :: rest) := by
  rw [inside_cons]
  exact Nat.add_pos_left h _

theorem inside_pos {pid : Nat} {frames : List Frame} : 0 < inside pid path frames ↔
    ∃ f ∈ frames, f.key = ⟨pid, path⟩ ∧ f.admits = true := by
  simp [inside, List.countP_pos_iff]

/-- **An exit and the depth**: the depth goes to zero with the owner, which gives the lock
back. -/
theorem leave_depth (h : ThreadOk th) {f : Frame} {rest : List Frame}
    (hframes : th.frames = f :: rest) (hdepth : 0 < th.depth path) :
    0 < inside th.pid path rest ∨ th.depth path = 1 ∧ inside th.pid path rest = 0 ∧
      ∃ fd, f.fd? = some fd ∧ f.key = ⟨th.pid, path⟩ := by
  have hstacked := h.stacked
  rw [hframes] at hstacked
  obtain ⟨hrest, -, hnested, hfree⟩ := hstacked
  rw [depth_of_frames hframes, inside_cons] at hdepth ⊢
  by_cases hf : f.key = ⟨th.pid, path⟩ ∧ f.admits = true
  · obtain ⟨hkey, hadmits⟩ := hf
    rw [Frame.admits, Bool.or_eq_true, beq_iff_eq] at hadmits
    rcases hadmits with howner | hphase
    · obtain ⟨fd, hfd⟩ := Frame.fd?_of_isOwner howner
      have hnone : inside th.pid path rest = 0 := by
        by_contra hpos
        obtain ⟨g, hg, hgKey, hgAdmits⟩ := inside_pos.mp (Nat.pos_of_ne_zero hpos)
        obtain ⟨x, hx, hxKey, hxOwner⟩ := hrest.owner hg hgAdmits
        obtain ⟨n, hn⟩ := Frame.fd?_of_isOwner hxOwner
        rw [hfree (by simp [hfd]) x hx (hxKey.trans (hgKey.trans hkey.symm))] at hn
        cases hn
      refine Or.inr ⟨?_, hnone, fd, hfd, hkey⟩
      simp [hnone, hkey, Frame.admits, howner]
    · obtain ⟨g, hg, hgKey, hgOwner⟩ := hnested hphase
      exact Or.inl (inside_pos.mpr ⟨g, hg, hgKey.trans hkey, by simp [Frame.admits, hgOwner]⟩)
  · rw [if_neg hf, Nat.add_zero] at hdepth
    exact Or.inl hdepth

theorem threadStep_depth (digest : String × String → String) (locks : String → Option Nat)
    (h : ThreadOk th) (hdepth : 0 < th.depth path) (nextFd : Nat)
    (a : ThreadAction) :
    0 < (threadStep digest locks nextFd th a).1.depth path ∨
      th.depth path = 1 ∧ (threadStep digest locks nextFd th a).1.depth path = 0 ∧
        a = .leave ∧ ∃ fd, th.Locks path fd ∧
          (threadStep digest locks nextFd th a).2 = unlock locks path fd := by
  cases a with
  | enter store offerId writesHeld =>
    left
    rw [threadStep]
    split
    · have hpos : 0 < inside th.pid path th.frames := hdepth
      exact inside_cons_pos hpos
    · exact hdepth
  | lock fails =>
    left
    rw [threadStep]
    split
    · next key rest hframes =>
      rw [depth_of_frames hframes, inside_cons] at hdepth
      have hrest : 0 < inside th.pid path rest := by
        simpa [Frame.admits, Frame.isOwner] using hdepth
      split
      · exact inside_cons_pos hrest
      · exact inside_cons_pos hrest
    · exact hdepth
  | settle writesHeld =>
    left
    rw [threadStep]
    split
    · next key fd rest hframes =>
      rw [depth_of_frames hframes, inside_cons] at hdepth
      have hrest : 0 < inside th.pid path rest := by
        simpa [Frame.admits, Frame.isOwner] using hdepth
      rw [Thread.settle]
      split
      · exact inside_cons_pos hrest
      · exact inside_cons_pos hrest
    · exact hdepth
  | leave =>
    rw [threadStep]
    split
    · next f rest hframes =>
      rcases leave_depth h hframes hdepth with hpos | ⟨hone, hzero, fd, hfd, hkey⟩
      · exact Or.inl hpos
      · refine Or.inr ⟨hone, hzero, rfl, fd, ?_, ?_⟩
        · exact ⟨f, hframes ▸ List.mem_cons_self, hkey, hfd⟩
        · simp [hfd, hkey]
    · exact Or.inl hdepth

/-! ### Who has locked what -/

/-- A relation of locks that the files bear out: a file is locked by one thread, with the open
file it says. -/
structure LocksOk (held : Nat → String → Nat → Prop) (locks : String → Option Nat) : Prop where
  locked : ∀ t path fd, held t path fd → locks path = some fd
  tight : ∀ path fd, locks path = some fd → ∃ t, held t path fd
  unique : ∀ t t' path fd fd', held t path fd → held t' path fd' → t = t'

variable {held held' : Nat → String → Nat → Prop} {t n : Nat} {p : String}

theorem LocksOk.congr (h : LocksOk held locks)
    (hiff : ∀ u path fd, held' u path fd ↔ held u path fd) : LocksOk held' locks := by
  have : held' = held := by
    funext u path fd
    exact propext (hiff u path fd)
  rw [this]
  exact h

/-- A free file is locked. -/
theorem LocksOk.take (h : LocksOk held locks) (hfree : locks p = none)
    (hiff : ∀ u path fd, held' u path fd ↔ held u path fd ∨ u = t ∧ path = p ∧ fd = n) :
    LocksOk held' (Function.update locks p (some n)) := by
  have hne : ∀ {u path fd}, held u path fd → path ≠ p := by
    rintro u path fd hl rfl
    rw [h.locked u path fd hl] at hfree
    cases hfree
  constructor
  · intro u path fd hl
    rcases (hiff u path fd).mp hl with hl | ⟨-, rfl, rfl⟩
    · rw [Function.update_of_ne (hne hl)]
      exact h.locked u path fd hl
    · exact Function.update_self ..
  · intro path fd hl
    by_cases hp : path = p
    · rw [hp, Function.update_self] at hl
      exact ⟨t, (hiff t path fd).mpr (Or.inr ⟨rfl, hp, (Option.some.inj hl).symm⟩)⟩
    · rw [Function.update_of_ne hp] at hl
      obtain ⟨u, hu⟩ := h.tight path fd hl
      exact ⟨u, (hiff u path fd).mpr (Or.inl hu)⟩
  · intro u u' path fd fd' hl hl'
    rcases (hiff u path fd).mp hl with hl | ⟨rfl, rfl, -⟩
    · rcases (hiff u' path fd').mp hl' with hl' | ⟨-, rfl, -⟩
      · exact h.unique u u' path fd fd' hl hl'
      · exact absurd rfl (hne hl)
    · rcases (hiff u' path fd').mp hl' with hl' | ⟨rfl, -, -⟩
      · exact absurd rfl (hne hl')
      · rfl

/-- A file is unlocked by the thread that has locked it. -/
theorem LocksOk.give (h : LocksOk held locks) (hwas : held t p n)
    (hiff : ∀ u path fd, held' u path fd ↔ held u path fd ∧ path ≠ p) :
    LocksOk held' (unlock locks p n) := by
  rw [unlock, if_pos (h.locked t p n hwas)]
  constructor
  · intro u path fd hl
    obtain ⟨hl, hne⟩ := (hiff u path fd).mp hl
    rw [Function.update_of_ne hne]
    exact h.locked u path fd hl
  · intro path fd hl
    by_cases hp : path = p
    · rw [hp, Function.update_self] at hl
      cases hl
    · rw [Function.update_of_ne hp] at hl
      obtain ⟨u, hu⟩ := h.tight path fd hl
      exact ⟨u, (hiff u path fd).mpr ⟨hu, hp⟩⟩
  · intro u u' path fd fd' hl hl'
    exact h.unique u u' path fd fd' ((hiff u path fd).mp hl).1 ((hiff u' path fd').mp hl').1

/-! ### The invariant -/

/-- The thread has locked the file, with the open file. -/
def Leases.HeldBy (s : Leases) (t : Nat) (path : String) (fd : Nat) : Prop :=
  ∃ th, s.threads.get? t = some th ∧ th.Locks path fd

structure LeasesOk (s : Leases) : Prop where
  threads : ∀ t th, s.threads.get? t = some th → ThreadOk th
  fresh : ∀ t th, s.threads.get? t = some th →
    th.pid < s.nextPid ∧ ∀ f ∈ th.frames, f.key.pid < s.nextPid
  locks : LocksOk s.HeldBy s.locks

/-- **Exclusion**: one thread at a time is inside of the lease of an offer. -/
theorem exclusive (h : LeasesOk s) : Exclusive s := by
  intro t t' th th' path hth hth' hdepth hdepth'
  obtain ⟨fd, hfd⟩ := (h.threads t th hth).exists_locks hdepth
  obtain ⟨fd', hfd'⟩ := (h.threads t' th' hth').exists_locks hdepth'
  exact h.locks.unique t t' path fd fd' ⟨th, hth, hfd⟩ ⟨th', hth', hfd'⟩

theorem tight (h : LeasesOk s) : Tight s := by
  intro path fd hl
  obtain ⟨t, th, hth, hlocks⟩ := h.locks.tight path fd hl
  exact ⟨t, th, hth, hlocks⟩

theorem leasesOk_start : LeasesOk {} where
  threads := by simp
  fresh := by simp
  locks := ⟨by simp [Leases.HeldBy], nofun, by simp [Leases.HeldBy]⟩

/-- A thread starts that has locked nothing. -/
theorem LeasesOk.create (h : LeasesOk s) (hok : ThreadOk th) {nextPid : Nat}
    (hpid : s.nextPid ≤ nextPid) (hfresh : th.pid < nextPid ∧ ∀ f ∈ th.frames, f.key.pid < nextPid)
    (hnone : ∀ path fd, ¬ th.Locks path fd) :
    LeasesOk { s with threads := s.threads.create th, nextPid := nextPid } := by
  have hget : ∀ {t x}, (s.threads.create th).get? t = some x →
      th = x ∨ s.threads.get? t = some x := by
    intro t x hx
    rw [Table.get?_create] at hx
    split at hx
    · exact Or.inl (Option.some.inj hx)
    · exact Or.inr hx
  constructor
  · intro t x hx
    obtain rfl | hx := hget hx
    · exact hok
    · exact h.threads t x hx
  · intro t x hx
    obtain rfl | hx := hget hx
    · exact hfresh
    · obtain ⟨hlt, hkeys⟩ := h.fresh t x hx
      exact ⟨hlt.trans_le hpid, fun f hf => (hkeys f hf).trans_le hpid⟩
  · refine h.locks.congr fun u path fd => ?_
    constructor
    · rintro ⟨x, hx, hl⟩
      obtain rfl | hx := hget hx
      · exact absurd hl (hnone path fd)
      · exact ⟨x, hx, hl⟩
    · rintro ⟨x, hx, hl⟩
      exact ⟨x, Table.get?_create_of_some hx, hl⟩

/-- **A thread takes a step.** -/
theorem LeasesOk.onThread (h : LeasesOk s) (hth : s.threads.get? t = some th)
    (hstep : StepOk s.locks th th' locks') (nextFd : Nat) :
    LeasesOk { s with threads := s.threads.set t th', locks := locks', nextFd := nextFd } := by
  have hset : ∀ u, (s.threads.set t th').get? u = if u = t then some th' else s.threads.get? u :=
    fun u => Table.get?_set hth
  have hself : ∀ path fd, s.HeldBy t path fd ↔ th.Locks path fd := by
    intro path fd
    rw [Leases.HeldBy, hth]
    simp
  have hheld : ∀ u path fd, Leases.HeldBy
      { s with threads := s.threads.set t th', locks := locks', nextFd := nextFd } u path fd ↔
        if u = t then th'.Locks path fd else s.HeldBy u path fd := by
    intro u path fd
    simp only [Leases.HeldBy, hset]
    split <;> simp
  constructor
  · intro u x hx
    rw [hset] at hx
    split at hx
    · cases hx
      exact hstep.ok
    · exact h.threads u x hx
  · intro u x hx
    rw [hset] at hx
    split at hx
    · cases hx
      obtain ⟨hlt, hkeys⟩ := h.fresh t th hth
      refine ⟨hstep.pid ▸ hlt, fun f hf => ?_⟩
      rcases hstep.keys f hf with hpid | ⟨g, hg, hkey⟩
      · exact hpid ▸ hlt
      · exact hkey ▸ hkeys g hg
    · exact h.fresh u x hx
  · cases hstep.change with
    | kept same =>
      refine h.locks.congr fun u path fd => ?_
      rw [hheld]
      split
      · next hu => rw [hu, hself, same]
      · exact Iff.rfl
    | taken p n free more =>
      refine h.locks.take (t := t) free fun u path fd => ?_
      rw [hheld]
      split
      · next hu => simp [hu, hself, more]
      · next hu => simp [hu]
    | given p n was less =>
      have hwas := (hself p n).mpr was
      refine h.locks.give hwas fun u path fd => ?_
      rw [hheld]
      split
      · next hu => rw [hu, hself, less]
      · next hu =>
        -- the others have locked other files
        refine ⟨fun hl => ⟨hl, ?_⟩, And.left⟩
        rintro rfl
        exact hu (h.locks.unique u t path fd n hl hwas)

theorem threadOk_new (pid : Nat) : ThreadOk { pid } :=
  ⟨trivial, by simp, by simp⟩

/-- The child of a fork has frames that are not its own. -/
theorem threadOk_fork (h : ThreadOk th) (hsettled : th.settled = true) {pid : Nat}
    (hfresh : ∀ f ∈ th.frames, f.key.pid < pid) : ThreadOk { pid, frames := th.frames } := by
  refine ⟨h.stacked, ?_, ?_⟩
  · intro key
    simp only [List.not_mem_nil, false_iff]
    rintro ⟨hpid, f, hf, rfl, -⟩
    exact absurd hpid (hfresh f hf).ne
  · intro f hf hunsettled
    rw [h.settled hsettled f hf] at hunsettled
    cases hunsettled

theorem leasesOk_step (s : Leases) (a : LeaseAction) (h : LeasesOk s) :
    LeasesOk (leaseStep digest s a) := by
  cases a with
  | start =>
    exact h.create (threadOk_new _) (Nat.le_succ _) ⟨Nat.lt_succ_self _, by simp⟩
      (by simp [Thread.Locks])
  | spawn t =>
    rw [leaseStep]
    split
    · next th hth =>
      exact h.create (threadOk_new _) (le_refl _) ⟨(h.fresh t th hth).1, by simp⟩
        (by simp [Thread.Locks])
    · exact h
  | fork t =>
    rw [leaseStep]
    split
    · next th hth =>
      split
      · next hsettled =>
        have hfresh := (h.fresh t th hth).2
        refine h.create (threadOk_fork (h.threads t th hth) hsettled hfresh) (Nat.le_succ _)
          ⟨Nat.lt_succ_self _, fun f hf => (hfresh f hf).trans (Nat.lt_succ_self _)⟩ ?_
        rintro path fd ⟨f, hf, hkey, -⟩
        have hlt := hfresh f hf
        rw [hkey] at hlt
        exact absurd hlt (Nat.lt_irrefl _)
      · exact h
    · exact h
  | on t a =>
    rw [leaseStep]
    split
    · next th hth =>
      have hlocked : ∀ path fd, th.Locks path fd → s.locks path = some fd :=
        fun path fd hl => h.locks.locked t path fd ⟨th, hth, hl⟩
      exact h.onThread hth (threadStep_ok (h.threads t th hth) hlocked s.nextFd a) _
    · exact h

/-! ### The exit of the outermost frame -/

theorem isSome_locks (h : LeasesOk s) (hth : s.threads.get? t = some th)
    (hdepth : 0 < th.depth path) : (s.locks path).isSome = true := by
  obtain ⟨fd, hfd⟩ := (h.threads t th hth).exists_locks hdepth
  rw [h.locks.locked t path fd ⟨th, hth, hfd⟩]
  rfl

/-- A step of one thread leaves the files alone that another has locked. -/
theorem LockChange.other (hchange : LockChange locks th th' locks') {n : Nat}
    (hpath : locks path = some n) (hother : ∀ fd, ¬ th.Locks path fd) :
    locks' path = locks path := by
  cases hchange with
  | kept same => rfl
  | taken p m free more =>
    apply Function.update_of_ne
    rintro rfl
    rw [free] at hpath
    cases hpath
  | given p m was less =>
    rw [unlock]
    split
    · apply Function.update_of_ne
      rintro rfl
      exact hother m was
    · rfl

/-- A file that the thread has locked still is locked as it was. -/
theorem LockChange.same (hchange : LockChange locks th th' locks')
    (hpath : locks path = some fd) (hstill : ∃ n, th'.Locks path n) : locks' path = locks path := by
  obtain ⟨n, hstill⟩ := hstill
  cases hchange with
  | kept same => rfl
  | taken p m free more =>
    apply Function.update_of_ne
    rintro rfl
    rw [free] at hpath
    cases hpath
  | given p m was less =>
    rw [unlock]
    split
    · exact Function.update_of_ne ((less path n).mp hstill).2 _ _
    · rfl

theorem released_refl (h : LeasesOk s) (leaves : Nat → Prop) : Released s s leaves :=
  fun _ th _ hth hdepth => ⟨th, hth, Or.inl ⟨hdepth, isSome_locks h hth hdepth, rfl⟩⟩

/-- **Release**: a lease is left with the outermost frame, and no earlier or later. -/
theorem leaseStep_released (h : LeasesOk s) (a : LeaseAction) :
    Released s (leaseStep digest s a) fun t => a = .on t .leave := by
  intro t th path hth hdepth
  have hsome := isSome_locks h hth hdepth
  have hnew : ∀ x : Thread, (s.threads.create x).get? t = some th :=
    fun x => Table.get?_create_of_some hth
  cases a with
  | start => exact ⟨th, hnew _, Or.inl ⟨hdepth, hsome, rfl⟩⟩
  | spawn u =>
    rw [leaseStep]
    split
    · exact ⟨th, hnew _, Or.inl ⟨hdepth, hsome, rfl⟩⟩
    · exact ⟨th, hth, Or.inl ⟨hdepth, hsome, rfl⟩⟩
  | fork u =>
    rw [leaseStep]
    split
    · split
      · exact ⟨th, hnew _, Or.inl ⟨hdepth, hsome, rfl⟩⟩
      · exact ⟨th, hth, Or.inl ⟨hdepth, hsome, rfl⟩⟩
    · exact ⟨th, hth, Or.inl ⟨hdepth, hsome, rfl⟩⟩
  | on u a =>
    rw [leaseStep]
    split
    · next x hx =>
      have hlocked : ∀ path fd, x.Locks path fd → s.locks path = some fd :=
        fun path fd hl => h.locks.locked u path fd ⟨x, hx, hl⟩
      have hok : StepOk s.locks x (threadStep digest s.locks s.nextFd x a).1 _ :=
        threadStep_ok (h.threads u x hx) hlocked s.nextFd a
      obtain ⟨fd, hfd⟩ := (h.threads t th hth).exists_locks hdepth
      have hpath := h.locks.locked t path fd ⟨th, hth, hfd⟩
      by_cases hu : t = u
      · subst hu
        cases hth.symm.trans hx
        refine ⟨_, Table.get?_set_self hx, ?_⟩
        rcases threadStep_depth digest s.locks (h.threads t th hth) hdepth
          s.nextFd a with hpos | ⟨hone, hzero, rfl, n, hn, hgiven⟩
        · exact Or.inl ⟨hpos, hsome, hok.change.same hpath (hok.ok.exists_locks hpos)⟩
        · refine Or.inr ⟨hone, hzero, rfl, ?_⟩
          show (threadStep digest s.locks s.nextFd th .leave).2 path = none
          rw [hgiven, unlock, if_pos (hlocked path n hn), Function.update_self]
      · refine ⟨th, (Table.get?_set_ne hu).trans hth, Or.inl ⟨hdepth, hsome, ?_⟩⟩
        refine hok.change.other hpath fun n hn => hu ?_
        exact h.locks.unique t u path fd n ⟨th, hth, hfd⟩ ⟨x, hx, hn⟩
    · exact ⟨th, hth, Or.inl ⟨hdepth, hsome, rfl⟩⟩

end Sda.Lease
