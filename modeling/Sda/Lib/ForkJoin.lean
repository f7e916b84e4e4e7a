/-
Sda/Lib/ForkJoin.lean

A thread that starts one worker per key, feeds the workers through queues, and joins
them.

The workers and the main thread share a state.  Code between two waits is a `Work`: what
it does to the shared state, in order, and the value or exception it ends with; the
scheduler interleaves the actions.  The main thread submits the workers, sends what its
producer computes (actions, entries of a queue, the end of a queue), and takes the
workers as they stop; one that crashed is recovered.  An exception of the main thread
leaves the block, and leaving it waits for every worker.  A worker waits when its queue is
empty, and stops at the end of the queue or by an exception.

`MainMove`, `JoinMove` and `WorkerMove` say what a step can do.
-/
import Mathlib.Data.List.Basic
import Mathlib.Logic.Function.Basic
import Sda.Lib.Prog

namespace Sda.ForkJoin

/-! ### Plans -/

/-- Code that does not wait: its actions in order, and its end. -/
structure Work (A ε α : Type) where
  todo : List A
  result : Except ε α

/-- One action of a program that only writes. -/
def emit {A ε : Type} (a : A) : Prog ε (List A) Unit :=
  Prog.change (· ++ [a])

@[simp] theorem exec_emit {A ε : Type} (a : A) (l : List A) :
    Prog.exec (emit a : Prog ε (List A) Unit) l = (.ok (), l ++ [a]) := rfl

theorem exec_each_emit {A B ε : Type} (f : B → A) (xs : List B) (l : List A) :
    Prog.exec (Prog.each xs fun x => (emit (f x) : Prog ε (List A) Unit)) l =
      (.ok (), l ++ xs.map f) := by
  induction xs generalizing l with
  | nil => simp [Prog.each]
  | cons x xs ih =>
    show Prog.exec (emit (f x) >>= fun _ => Prog.each xs fun x => emit (f x)) l = _
    rw [Prog.exec_bind_ok (exec_emit (f x) l), ih]
    simp

/-- The actions of a program that only writes, and its end. -/
def workOf {A ε α : Type} (c : Prog ε (List A) α) : Work A ε α where
  todo := (Prog.exec c []).2
  result := (Prog.exec c []).1

/-- What a producer does. -/
inductive Send (κ v A : Type)
  | act (a : A)
  | put (k : κ) (x : v)
  /-- The end of the queue. -/
  | close (k : κ)
  deriving DecidableEq

/-- The code of the main thread and of the workers. -/
structure Plan (κ v A ε L σ : Type) where
  keys : List κ
  act : A → σ → σ
  submit : κ → Except ε Unit
  produce : Work (Send κ v A) ε Unit
  /-- A worker before its first wait. -/
  start : κ → Work A ε L
  receive : κ → L → v → Work A ε L
  /-- What a worker does at the end of its queue. -/
  finish : κ → L → Work A ε Unit
  /-- What the main thread does about a crashed worker. -/
  recover : κ → σ → Work A ε Unit
  /-- What the main thread does after the block. -/
  after : σ → Work A ε Unit

/-- A worker: `next` is what it comes to after its actions, an exception, its return, or
the next wait. -/
inductive Worker (A ε L : Type)
  | absent
  | running (todo : List A) (next : Except ε (Option L))
  | stopped (result : Except ε Unit)

/-- The main thread. -/
inductive Main (κ v A ε : Type)
  | submitting (left : List κ)
  | sending (left : List (Send κ v A))
  | joining (left : List κ)
  | recovering (todo : List A) (result : Except ε Unit) (left : List κ)
  /-- At the end of the block. -/
  | leaving (result : Except ε Unit)
  | closing (todo : List A) (result : Except ε Unit)
  | finished (result : Except ε Unit)

structure State (κ v A ε L σ : Type) where
  shared : σ
  /-- `none` ends a queue. -/
  queue : κ → List (Option v) := fun _ => []
  /-- Ghost: has the queue been ended? -/
  ended : κ → Bool := fun _ => false
  worker : κ → Worker A ε L := fun _ => .absent
  main : Main κ v A ε

/-- Who takes the next step; `join` names the worker taken. -/
inductive Event (κ : Type)
  | main
  | join (k : κ)
  | worker (k : κ)

section Steps

variable {κ v A ε L σ : Type} [DecidableEq κ]

def Worker.halted : Worker A ε L → Bool
  | .running _ _ => false
  | _ => true

/-- One message of the producer. -/
def deliver (p : Plan κ v A ε L σ) (s : State κ v A ε L σ) : Send κ v A → State κ v A ε L σ
  | .act a => { s with shared := p.act a s.shared }
  | .put k x => { s with queue := Function.update s.queue k (s.queue k ++ [some x]) }
  | .close k =>
    { s with
      queue := Function.update s.queue k (s.queue k ++ [none])
      ended := Function.update s.ended k true }

def setWorker (s : State κ v A ε L σ) (k : κ) (w : Worker A ε L) : State κ v A ε L σ :=
  { s with worker := Function.update s.worker k w }

def mainStep (p : Plan κ v A ε L σ) (s : State κ v A ε L σ) : Option (State κ v A ε L σ) :=
  match s.main with
  | .submitting [] => some { s with main := .sending p.produce.todo }
  | .submitting (k :: ks) =>
    match p.submit k with
    | .error e => some { s with main := .leaving (.error e) }
    | .ok () =>
      some { setWorker s k (.running (p.start k).todo ((p.start k).result.map some)) with
        main := .submitting ks }
  | .sending [] =>
    match p.produce.result with
    | .error e => some { s with main := .leaving (.error e) }
    | .ok () => some { s with main := .joining p.keys }
  | .sending (m :: ms) => some { deliver p s m with main := .sending ms }
  | .joining [] => some { s with main := .leaving (.ok ()) }
  | .joining (_ :: _) => none
  | .recovering [] (.error e) _ => some { s with main := .leaving (.error e) }
  | .recovering [] (.ok ()) left => some { s with main := .joining left }
  | .recovering (a :: todo) result left =>
    some { s with shared := p.act a s.shared, main := .recovering todo result left }
  | .leaving result =>
    if p.keys.all fun k => (s.worker k).halted then
      match result with
      | .error e => some { s with main := .finished (.error e) }
      | .ok () =>
        some { s with main := .closing (p.after s.shared).todo (p.after s.shared).result }
    else
      none
  | .closing [] result => some { s with main := .finished result }
  | .closing (a :: todo) result =>
    some { s with shared := p.act a s.shared, main := .closing todo result }
  | .finished _ => none

/-- The main thread takes a worker that has stopped. -/
def joinStep (p : Plan κ v A ε L σ) (s : State κ v A ε L σ) (k : κ) :
    Option (State κ v A ε L σ) :=
  match s.main with
  | .joining left =>
    if k ∈ left then
      match s.worker k with
      | .stopped (.ok ()) => some { s with main := .joining (left.erase k) }
      | .stopped (.error _) =>
        some { s with
          main := .recovering (p.recover k s.shared).todo (p.recover k s.shared).result
            (left.erase k) }
      | _ => none
    else
      none
  | _ => none

def workerStep (p : Plan κ v A ε L σ) (s : State κ v A ε L σ) (k : κ) :
    Option (State κ v A ε L σ) :=
  match s.worker k with
  | .running (a :: todo) next =>
    some { setWorker s k (.running todo next) with shared := p.act a s.shared }
  | .running [] (.error e) => some (setWorker s k (.stopped (.error e)))
  | .running [] (.ok none) => some (setWorker s k (.stopped (.ok ())))
  | .running [] (.ok (some l)) =>
    match s.queue k with
    | [] => none
    | some x :: rest =>
      some { setWorker s k (.running (p.receive k l x).todo ((p.receive k l x).result.map some))
        with queue := Function.update s.queue k rest }
    | none :: rest =>
      some
        { setWorker s k
            (.running (p.finish k l).todo ((p.finish k l).result.map fun _ => none))
          with queue := Function.update s.queue k rest }
  | _ => none

def step (p : Plan κ v A ε L σ) (s : State κ v A ε L σ) : Event κ → Option (State κ v A ε L σ)
  | .main => mainStep p s
  | .join k => joinStep p s k
  | .worker k => workerStep p s k

/-- The block begins. -/
def opening (p : Plan κ v A ε L σ) (shared : σ) : State κ v A ε L σ where
  shared := shared
  main := .submitting p.keys

/-- There is nothing to do in the block. -/
def skipping (p : Plan κ v A ε L σ) (shared : σ) : State κ v A ε L σ where
  shared := shared
  main := .closing (p.after shared).todo (p.after shared).result

/-! ### What a step can do -/

/-- The steps of the main thread. -/
inductive MainMove (p : Plan κ v A ε L σ) (s : State κ v A ε L σ) : State κ v A ε L σ → Prop
  | submitted (h : s.main = .submitting []) :
      MainMove p s { s with main := .sending p.produce.todo }
  | submit {k ks} (h : s.main = .submitting (k :: ks)) (hk : p.submit k = .ok ()) :
      MainMove p s
        { setWorker s k (.running (p.start k).todo ((p.start k).result.map some)) with
          main := .submitting ks }
  | submitRaises {k ks e} (h : s.main = .submitting (k :: ks)) (hk : p.submit k = .error e) :
      MainMove p s { s with main := .leaving (.error e) }
  | send {m ms} (h : s.main = .sending (m :: ms)) :
      MainMove p s { deliver p s m with main := .sending ms }
  | produced (h : s.main = .sending []) (hr : p.produce.result = .ok ()) :
      MainMove p s { s with main := .joining p.keys }
  | produceRaises {e} (h : s.main = .sending []) (hr : p.produce.result = .error e) :
      MainMove p s { s with main := .leaving (.error e) }
  | joined (h : s.main = .joining []) : MainMove p s { s with main := .leaving (.ok ()) }
  | recoverAct {a todo r left} (h : s.main = .recovering (a :: todo) r left) :
      MainMove p s { s with shared := p.act a s.shared, main := .recovering todo r left }
  | recovered {left} (h : s.main = .recovering [] (.ok ()) left) :
      MainMove p s { s with main := .joining left }
  | recoverRaises {e left} (h : s.main = .recovering [] (.error e) left) :
      MainMove p s { s with main := .leaving (.error e) }
  | left (h : s.main = .leaving (.ok ())) (hall : p.keys.all fun k => (s.worker k).halted) :
      MainMove p s
        { s with main := .closing (p.after s.shared).todo (p.after s.shared).result }
  | leftRaising {e} (h : s.main = .leaving (.error e))
      (hall : p.keys.all fun k => (s.worker k).halted) :
      MainMove p s { s with main := .finished (.error e) }
  | closeAct {a todo r} (h : s.main = .closing (a :: todo) r) :
      MainMove p s { s with shared := p.act a s.shared, main := .closing todo r }
  | closed {r} (h : s.main = .closing [] r) : MainMove p s { s with main := .finished r }

/-- The steps that take a stopped worker. -/
inductive JoinMove (p : Plan κ v A ε L σ) (s : State κ v A ε L σ) (k : κ) :
    State κ v A ε L σ → Prop
  | returned {left} (h : s.main = .joining left) (hk : k ∈ left)
      (hw : s.worker k = .stopped (.ok ())) :
      JoinMove p s k { s with main := .joining (left.erase k) }
  | crashed {left e} (h : s.main = .joining left) (hk : k ∈ left)
      (hw : s.worker k = .stopped (.error e)) :
      JoinMove p s k
        { s with
          main := .recovering (p.recover k s.shared).todo (p.recover k s.shared).result
            (left.erase k) }

/-- The steps of a worker. -/
inductive WorkerMove (p : Plan κ v A ε L σ) (s : State κ v A ε L σ) (k : κ) :
    State κ v A ε L σ → Prop
  | act {a todo next} (h : s.worker k = .running (a :: todo) next) :
      WorkerMove p s k { setWorker s k (.running todo next) with shared := p.act a s.shared }
  | raise {e} (h : s.worker k = .running [] (.error e)) :
      WorkerMove p s k (setWorker s k (.stopped (.error e)))
  | returns (h : s.worker k = .running [] (.ok none)) :
      WorkerMove p s k (setWorker s k (.stopped (.ok ())))
  | take {l x rest} (h : s.worker k = .running [] (.ok (some l)))
      (hq : s.queue k = some x :: rest) :
      WorkerMove p s k
        { setWorker s k (.running (p.receive k l x).todo ((p.receive k l x).result.map some))
          with queue := Function.update s.queue k rest }
  | last {l rest} (h : s.worker k = .running [] (.ok (some l))) (hq : s.queue k = none :: rest) :
      WorkerMove p s k
        { setWorker s k
            (.running (p.finish k l).todo ((p.finish k l).result.map fun _ => none))
          with queue := Function.update s.queue k rest }

variable {p : Plan κ v A ε L σ} {s s' : State κ v A ε L σ} {k : κ}

theorem mainMove_of_step (h : mainStep p s = some s') : MainMove p s s' := by
  unfold mainStep at h
  split at h
  case h_1 hm => exact Option.some.inj h ▸ .submitted hm
  case h_2 hm =>
    split at h
    case h_1 hk => exact Option.some.inj h ▸ .submitRaises hm hk
    case h_2 hk => exact Option.some.inj h ▸ .submit hm hk
  case h_3 hm =>
    split at h
    case h_1 hr => exact Option.some.inj h ▸ .produceRaises hm hr
    case h_2 hr => exact Option.some.inj h ▸ .produced hm hr
  case h_4 hm => exact Option.some.inj h ▸ .send hm
  case h_5 hm => exact Option.some.inj h ▸ .joined hm
  case h_6 => cases h
  case h_7 hm => exact Option.some.inj h ▸ .recoverRaises hm
  case h_8 hm => exact Option.some.inj h ▸ .recovered hm
  case h_9 hm => exact Option.some.inj h ▸ .recoverAct hm
  case h_10 hm =>
    split at h
    case isTrue hall =>
      split at h
      case h_1 => exact Option.some.inj h ▸ .leftRaising hm hall
      case h_2 => exact Option.some.inj h ▸ .left hm hall
    case isFalse => cases h
  case h_11 hm => exact Option.some.inj h ▸ .closed hm
  case h_12 hm => exact Option.some.inj h ▸ .closeAct hm
  case h_13 => cases h

theorem joinMove_of_step (h : joinStep p s k = some s') : JoinMove p s k s' := by
  unfold joinStep at h
  split at h
  case h_1 left hm =>
    split at h
    case isTrue hk =>
      split at h
      case h_1 hw => exact Option.some.inj h ▸ .returned hm hk hw
      case h_2 hw => exact Option.some.inj h ▸ .crashed hm hk hw
      case h_3 => cases h
    case isFalse => cases h
  case h_2 => cases h

theorem workerMove_of_step (h : workerStep p s k = some s') : WorkerMove p s k s' := by
  unfold workerStep at h
  split at h
  case h_1 hw => exact Option.some.inj h ▸ .act hw
  case h_2 hw => exact Option.some.inj h ▸ .raise hw
  case h_3 hw => exact Option.some.inj h ▸ .returns hw
  case h_4 hw =>
    split at h
    case h_1 => cases h
    case h_2 hq => exact Option.some.inj h ▸ .take hw hq
    case h_3 hq => exact Option.some.inj h ▸ .last hw hq
  case h_5 => cases h

end Steps

end Sda.ForkJoin
