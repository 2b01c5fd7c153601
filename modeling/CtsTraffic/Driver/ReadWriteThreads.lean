import CtsTraffic.Driver.Threads

/-
  The IO phase of one socket under `ctsReadWriteIocp` (ctsReadWriteIocp.cpp), with the thread
  pool's threads interleaved, as `Driver.Threads` has it for `ctsSendRecvIocp`. A thread is
  the `io_fn` call, or a completion callback (`ctsReadWriteIocpIoCompletionCallback`) with the
  call of `ctsReadWriteIocp` it makes. `ctsReadWriteIocp` holds the socket lock from its start
  to its return and no IO count of its own; the callback takes the lock only to read the IO's
  result, and calls `complete_io` and `decrement_io` outside it.

  Steps are merged as in `Driver.Threads`: the lock's acquire and release with the accesses
  next to them; a shutdown's OS call with its `complete_io`, and the thread-pool request with
  the `WriteFile`/`ReadFile` that starts the IO (both under the lock); `get_last_error` with
  the `complete_io` before it; `decrement_io() == 0` with the `complete_state` it guards.
-/

namespace CtsTraffic

open DriverState

/-! ## The frames of the two functions -/

/-- Where a call of `ctsReadWriteIocp` is, once it holds the socket lock; `l` its locals. -/
inductive ReadWriteFrame
  /-- At `while (!io_done && NO_ERROR == io_error)`. -/
  | head (l : ReadWriteLocals)
  /-- `initiate_io()` returned a shutdown task. -/
  | shutdown (l : ReadWriteLocals) (next_io : ctsIOTask)
  /-- `initiate_io()` returned an IO to start, not yet counted. -/
  | count (l : ReadWriteLocals) (next_io : ctsIOTask)
  /-- The IO is counted: about to request the thread pool and call `WriteFile`/`ReadFile`. -/
  | start (l : ReadWriteLocals) (next_io : ctsIOTask)
  /-- The IO did not start, with `io_error`; `thrown` when the thread pool threw. Its count
      is still to give back. -/
  | uncount (l : ReadWriteLocals) (next_io : ctsIOTask) (thrown : Bool) (io_error : Nat)
  /-- The count is given back; the task is still to hand back to `complete_io`. -/
  | fail (l : ReadWriteLocals) (next_io : ctsIOTask) (thrown : Bool) (io_error : Nat)
  /-- After the loop: `if (0 == io_count) complete_state(io_error)`. -/
  | exit (l : ReadWriteLocals)
  deriving DecidableEq, Repr

namespace ReadWriteFrame

def locals : ReadWriteFrame → ReadWriteLocals
  | head l | shutdown l _ | count l _ | start l _ | uncount l _ _ _ | fail l _ _ _ | exit l => l

/-- The IO count the call holds: the one of the IO it is starting, from `increment_io` to the
    IO's start or the `decrement_io` after it failed. -/
def holds : ReadWriteFrame → Nat
  | start .. => 1
  | uncount .. => 1
  | _ => 0

def hand : ReadWriteFrame → List ctsIOTask
  | shutdown _ next_io | count _ next_io | start _ next_io | uncount _ next_io _ _
  | fail _ next_io _ _ => [next_io]
  | _ => []

def optHolds : Option ReadWriteFrame → Nat
  | none => 0
  | some f => f.holds

def optHand : Option ReadWriteFrame → List ctsIOTask
  | none => []
  | some f => f.hand

/-- The start of the call, once it holds the lock: the loop on a valid socket, else the end
    with `WSAECONNABORTED`. `io_count` starts at `-1`. -/
def enter (s : DriverState) : ReadWriteFrame :=
  if s.socketValid then head ⟨-1, false, NO_ERROR⟩ else exit ⟨-1, false, WSAECONNABORTED⟩

variable (env : DriverEnv)

/-- One step of the call: its next point, or `none` once it has returned. -/
def step : ReadWriteFrame → DriverState → Option ReadWriteFrame × DriverState
  | head l, s =>
    if !(!l.io_done ∧ l.io_error = NO_ERROR) then (some (exit l), s)
    else
      let (next_io, s) := s.initiate env
      if next_io.ioAction = .None then (some (head { l with io_done := true }), s)
      else if next_io.ioAction = .GracefulShutdown ∨ next_io.ioAction = .HardShutdown then
        (some (shutdown l next_io), s)
      else (some (count l next_io), s)
  | shutdown l next_io, s =>
    let (l, s) := readWriteTask env l next_io s
    (some (head l), s)
  | count l next_io, s =>
    let s := s.increment_io
    (some (start { l with io_count := s.io_count } next_io), s)
  | start l next_io, s =>
    let (thrown, s) := s.tryAlloc env
    let io_error := thrown.getD l.io_error
    if io_error ≠ NO_ERROR then (some (uncount l next_io true io_error), s)
    else
      let ((err, _), s) := s.osCall env
      let err := if err = ERROR_IO_PENDING then NO_ERROR else err
      if err ≠ NO_ERROR then (some (uncount l next_io false err), s)
      else (some (head l), { s with pended := s.pended ++ [next_io] })
  | uncount l next_io thrown io_error, s =>
    let s := s.decrement_io
    (some (fail { l with io_count := s.io_count } next_io thrown io_error), s)
  | fail l next_io thrown io_error, s =>
    let (st, s) := s.complete env next_io 0 io_error
    if thrown then (some (head { l with io_error, io_done := st != .ContinueIo }), s)
    else match st with
      | .ContinueIo => (some (head { l with io_error := NO_ERROR, io_done := false }), s)
      | .CompletedIo => (some (head { l with io_error := NO_ERROR, io_done := true }), s)
      | .FailedIo => (some (head { l with io_error := s.lastError env, io_done := true }), s)
  | exit l, s => (none, if l.io_count = 0 then s.complete_state l.io_error else s)

end ReadWriteFrame

/-- Where a `ctsReadWriteIocpIoCompletionCallback` for `io_task` is. -/
inductive ReadWriteCompletionFrame
  /-- Before the block that reads the IO's result under the socket lock. -/
  | read (io_task : ctsIOTask)
  /-- The result is read: about to hand the task back to `complete_io`. -/
  | complete (io_task : ctsIOTask) (gle transferred : Nat)
  /-- `complete_io` asked for more IO: about to call `ctsReadWriteIocp`. -/
  | call
  /-- The IO's count is still to give back, and `readwrite_status` is the code for
      `complete_state`. -/
  | exit (readwrite_status : Nat)
  deriving DecidableEq, Repr

namespace ReadWriteCompletionFrame

/-- The count of the IO the callback completes, held to its end. -/
def holds : ReadWriteCompletionFrame → Nat := fun _ => 1

def hand : ReadWriteCompletionFrame → List ctsIOTask
  | read io_task => [io_task]
  | complete io_task _ _ => [io_task]
  | _ => []

variable (env : DriverEnv)

/-- One step of the callback, with the call of `ctsReadWriteIocp` it starts. -/
def step : ReadWriteCompletionFrame → DriverState →
    Option (ReadWriteCompletionFrame × Option ReadWriteFrame) × DriverState
  | read io_task, s =>
    let ((gle, transferred), s) := s.overlappedResult env
    (some (complete io_task gle transferred, none), s)
  | complete io_task gle transferred, s =>
    let (st, s) := s.complete env io_task transferred gle
    match st with
    | .ContinueIo => (some (call, none), s)
    | .CompletedIo => (some (exit NO_ERROR, none), s)
    | .FailedIo => (some (exit (s.lastError env), none), s)
  | call, s => (some (exit NO_ERROR, some (ReadWriteFrame.enter s)), s)
  | exit readwrite_status, s => (none, s.dropCount readwrite_status)

end ReadWriteCompletionFrame

/-! ## Threads and runs -/

/-- A thread of the phase: the `io_fn` call, or a completion callback with the call of
    `ctsReadWriteIocp` it is running, if any. -/
inductive ReadWriteThread
  | ioFn (f : ReadWriteFrame)
  | completion (f : ReadWriteCompletionFrame) (nested : Option ReadWriteFrame)
  | finished
  deriving DecidableEq, Repr

namespace ReadWriteThread

open ReadWriteFrame (optHolds optHand)

def holds : ReadWriteThread → Nat
  | ioFn f => f.holds
  | completion f n => f.holds + optHolds n
  | finished => 0

def hand : ReadWriteThread → List ctsIOTask
  | ioFn f => f.hand
  | completion f n => f.hand ++ optHand n
  | finished => []

/-- Whether the thread holds the socket lock between its steps: a call of `ctsReadWriteIocp`
    from its start to its return. -/
def locked : ReadWriteThread → Bool
  | ioFn _ => true
  | completion _ (some _) => true
  | _ => false

/-- Whether the thread's next step takes the socket lock, which it does not hold. -/
def acquires : ReadWriteThread → Bool
  | completion (.read _) none => true
  | completion .call none => true
  | _ => false

def isIoFn : ReadWriteThread → Bool
  | ioFn _ => true
  | _ => false

/-- Whether the thread is a callback that has read its IO's result. -/
def pastRead : ReadWriteThread → Bool
  | completion (.read _) none => false
  | completion _ _ => true
  | _ => false

variable (env : DriverEnv)

/-- One step of the thread: of its nested call if it runs one, else of its own code. -/
def step : ReadWriteThread → DriverState → ReadWriteThread × DriverState
  | ioFn f, s =>
    let (r, s) := f.step env s
    (r.elim finished ioFn, s)
  | completion f (some l), s =>
    let (r, s) := l.step env s
    (completion f r, s)
  | completion f none, s =>
    let (r, s) := f.step env s
    (r.elim finished fun p => completion p.1 p.2, s)
  | finished, s => (finished, s)

end ReadWriteThread

/-- The socket and the threads of the phase. -/
structure ReadWriteConfig where
  s : DriverState
  threads : List ReadWriteThread
  deriving DecidableEq, Repr

namespace ReadWriteConfig

/-- The phase once the `io_fn` call has taken the socket lock. -/
def start (socketValid : Bool) : ReadWriteConfig :=
  ⟨DriverState.start socketValid, [.ioFn (ReadWriteFrame.enter (DriverState.start socketValid))]⟩

/-- No thread runs and nothing is outstanding. -/
def Quiescent (c : ReadWriteConfig) : Prop :=
  c.s.Quiescent ∧ ∀ th ∈ c.threads, th = .finished

instance (c : ReadWriteConfig) : Decidable c.Quiescent :=
  inferInstanceAs (Decidable (_ ∧ _))

end ReadWriteConfig

/-- What can happen next in the phase. -/
inductive ReadWriteStep (env : DriverEnv) : ReadWriteConfig → ReadWriteConfig → Prop
  /-- Thread `j` takes a step. A step that takes the socket lock waits while another thread
      holds it. -/
  | run {c : ReadWriteConfig} {j : Nat} {th th' : ReadWriteThread} {s' : DriverState}
      (hj : c.threads[j]? = some th) (hth : th ≠ .finished)
      (hlock : th.acquires = true →
        ∀ k u, k ≠ j → c.threads[k]? = some u → u.locked = false)
      (hs : th.step env c.s = (th', s')) :
      ReadWriteStep env c ⟨s', c.threads.set j th'⟩
  /-- The thread pool runs the completion of the `i`-th outstanding IO on a new thread. -/
  | complete {c : ReadWriteConfig} {i : Nat} {t : ctsIOTask} (hi : c.s.pended[i]? = some t) :
      ReadWriteStep env c ⟨{ c.s with pended := c.s.pended.eraseIdx i },
        c.threads ++ [.completion (.read t) none]⟩

/-- The configurations some interleaving reaches. -/
inductive ReadWriteReachable (env : DriverEnv) (socketValid : Bool) :
    ReadWriteConfig → Prop
  | start : ReadWriteReachable env socketValid (.start socketValid)
  | step {c c' : ReadWriteConfig} : ReadWriteReachable env socketValid c →
      ReadWriteStep env c c' → ReadWriteReachable env socketValid c'

/-! ## The thread pool's choices, run -/

namespace ReadWriteConfig

/-- No thread other than the `j`-th holds the socket lock. -/
def lockFree (c : ReadWriteConfig) (j : Nat) : Bool :=
  (List.range c.threads.length).all fun k => k == j || c.threads[k]?.all fun u => !u.locked

theorem lockFree_spec {c : ReadWriteConfig} {j : Nat} (h : c.lockFree j = true) :
    ∀ k u, k ≠ j → c.threads[k]? = some u → u.locked = false := by
  intro k u hk hu
  have := List.all_eq_true.1 h k (List.mem_range.2 (List.getElem?_eq_some_iff.1 hu).1)
  simpa [hk, hu] using this

variable (env : DriverEnv)

/-- Where a choice leads: `none` when it names nothing, or a thread that has returned or
    waits for the socket lock. No timer is ever set. -/
def next (c : ReadWriteConfig) : IocpChoice → Option ReadWriteConfig
  | .run j => c.threads[j]?.bind fun th =>
    if th = .finished ∨ (th.acquires = true ∧ c.lockFree j = false) then none
    else let (th', s') := th.step env c.s; some ⟨s', c.threads.set j th'⟩
  | .complete i => c.s.pended[i]?.map fun t =>
    ⟨{ c.s with pended := c.s.pended.eraseIdx i }, c.threads ++ [.completion (.read t) none]⟩
  | .fire _ => none

def schedule (c : ReadWriteConfig) : List IocpChoice → Option ReadWriteConfig
  | [] => some c
  | ch :: chs => (c.next env ch).bind fun c => c.schedule chs

variable {env}

theorem next_step {c c' : ReadWriteConfig} {ch : IocpChoice} (h : c.next env ch = some c') :
    ReadWriteStep env c c' := by
  cases ch with
  | run j =>
    obtain ⟨th, hj, h⟩ := Option.bind_eq_some.1 h
    by_cases hno : th = .finished ∨ (th.acquires = true ∧ c.lockFree j = false)
    · rw [if_pos hno] at h; cases h
    rw [if_neg hno] at h
    simp only [not_or, not_and, Bool.not_eq_false] at hno
    cases h
    exact .run hj hno.1 (fun ha => lockFree_spec (hno.2 ha)) rfl
  | complete i =>
    obtain ⟨t, ht, rfl⟩ := Option.map_eq_some'.1 h
    exact .complete ht
  | fire i => cases h

theorem schedule_reachable {v : Bool} :
    ∀ {chs : List IocpChoice} {c c' : ReadWriteConfig}, c.schedule env chs = some c' →
      ReadWriteReachable env v c → ReadWriteReachable env v c'
  | [], _, _, h, hc => Option.some.inj h ▸ hc
  | _ :: _, _, _, h, hc => by
    obtain ⟨c₁, h₁, h₂⟩ := Option.bind_eq_some.1 h
    exact schedule_reachable h₂ (hc.step (next_step h₁))

end ReadWriteConfig

/-- The send is started and pended while the `io_fn` call holds the lock; its completion is
    delivered, and waits to read the result until `io_fn` returns. -/
def readWriteSendSchedule : List IocpChoice :=
  [.run 0, .run 0, .run 0, .complete 0, .run 1]

example : ((ReadWriteConfig.start true).schedule delayedSendEnv readWriteSendSchedule) =
    none := by
  decide

example : ((ReadWriteConfig.start true).schedule delayedSendEnv (readWriteSendSchedule.take 4 ++
    [.run 0, .run 0, .run 0, .run 1, .run 1, .run 1])).map
      (fun c => (c.s.io_count, c.s.completeStates, decide c.Quiescent)) =
    some (0, [NO_ERROR], true) := by
  decide

/-- With no IO to do, the phase ends with nothing outstanding and no `complete_state`. -/
example : ((ReadWriteConfig.start true).schedule idleEnv [.run 0, .run 0, .run 0]).map
    (fun c => (decide c.Quiescent, c.s.completeStates)) = some (true, []) := by
  decide

end CtsTraffic
