import CtsTraffic.Driver.Events

/-
  The IO phase of one socket under `ctsSendRecvIocp` (ctsSendRecvIocp.cpp), with the thread
  pool's threads interleaved. `Driver.Events` runs each call to its end before the next one
  starts. Here each call is a thread of its own, and the threads' steps interleave.

  A thread is the `io_fn` call, a timer callback (`ctsProcessIOTaskCallback`) or a
  completion callback (`ctsIoCompletionCallback`), together with the call of
  `ctsSendRecvIocp` a callback makes. Each of these is a frame: the point the function has
  reached and its locals. A step is one access to what the threads share:
  * `initiate_io` or `complete_io` (the pattern);
  * `increment_io` or `decrement_io` (interlocked);
  * a block under the socket lock.
  A thread whose next step takes the socket lock waits while another thread holds it. Locks
  taken twice by one thread nest, as a critical section does.

  Some accesses are merged into one step:
  * Taking the socket lock is merged with the access after it, and releasing it with the access
    before it.
  * `set_timer` and `ctsProcessIOTask` run as one step. They run under the socket lock, and
    the only thing they touch that threads outside the lock also touch is the pattern, through
    one `complete_io`.
  * `get_last_error` is read in the step of the `complete_io` before it.
  * `decrement_io() == 0` and the `complete_state` it guards are one step. Once the count is
    zero, no other thread holds one (`IocpInv`), so none can run.
  * The phase starts after the `io_fn` call has taken the lock and its count: nothing is
    outstanding before that, so no other thread exists.

  `IocpStep` is what can happen next; `IocpConfig.schedule` runs the choices of a schedule, and
  `schedule_reachable` says it takes only such steps.
-/

namespace CtsTraffic

open DriverState

/-- `if (decrement_io() == 0) complete_state(code)`: the end of every call of the driver. -/
def DriverState.dropCount (s : DriverState) (code : Nat) : DriverState :=
  if s.decrement_io.io_count = 0 then s.decrement_io.complete_state code else s.decrement_io

/-! ## The frames of the three functions -/

/-- Where a call of `ctsSendRecvIocp` is, once it holds the socket lock and its own count.
    `v` is the socket's validity, read when the call took the lock; `status` is its
    `ctsSendRecvStatus`. -/
inductive SendRecvFrame
  /-- At `while (!status.ioDone)`. -/
  | head (v : Bool) (status : ctsSendRecvStatus)
  /-- `initiate_io()` returned `next_io`, not yet counted. -/
  | count (v : Bool) (status : ctsSendRecvStatus) (next_io : ctsIOTask)
  /-- `next_io` is counted, not yet handed to `set_timer` or `ctsProcessIOTask`. -/
  | dispatch (v : Bool) (status : ctsSendRecvStatus) (next_io : ctsIOTask)
  /-- No IO was started: the task's count is still to give back. -/
  | uncount (v : Bool) (status : ctsSendRecvStatus)
  /-- After the loop: the call's own count is still to give back. -/
  | exit (status : ctsSendRecvStatus)
  deriving DecidableEq, Repr

namespace SendRecvFrame

/-- The IO counts the call holds: its own, and its task's from the count to the
    `set_timer` or `ctsProcessIOTask` that starts it (or the decrement when none does). -/
def holds : SendRecvFrame → Nat
  | head .. => 1
  | count .. => 1
  | dispatch .. => 2
  | uncount .. => 2
  | exit _ => 1

/-- The task the call holds. -/
def hand : SendRecvFrame → List ctsIOTask
  | count _ _ next_io => [next_io]
  | dispatch _ _ next_io => [next_io]
  | _ => []

/-- The counts and tasks of a call that may have returned. -/
def optHolds : Option SendRecvFrame → Nat
  | none => 0
  | some l => l.holds

def optHand : Option SendRecvFrame → List ctsIOTask
  | none => []
  | some l => l.hand

/-- The start of the call: `socket_reference()`, the validity it reads, and the
    `increment_io()` of the call's own count. -/
def enter (s : DriverState) : SendRecvFrame × DriverState :=
  (head s.socketValid {}, s.increment_io)

variable (env : DriverEnv)

/-- One step of the call: its next point, or `none` once it has returned. -/
def step : SendRecvFrame → DriverState →
    Except DriverFailFast (Option SendRecvFrame × DriverState)
  | head v status, s =>
    if status.ioDone then .ok (some (exit status), s)
    else
      let (next_io, s) := s.initiate env
      if next_io.ioAction = .None then .ok (some (exit status), s)
      else .ok (some (count v status next_io), s)
  | count v status next_io, s => .ok (some (dispatch v status next_io), s.increment_io)
  | dispatch v status next_io, s =>
    let (status, s) := scheduleOrProcess env v status next_io s
    .ok (some (if !status.ioStarted then uncount v status else head v status), s)
  | uncount v status, s =>
    if s.decrement_io.io_count = 0 then .error .refcountZeroInLoop
    else .ok (some (head v status), s.decrement_io)
  | exit status, s => .ok (none, s.dropCount status.ioErrorcode)

end SendRecvFrame

/-- Where a `ctsProcessIOTaskCallback` is: the callback of a timer `set_timer` scheduled. -/
inductive TimerCallbackFrame
  /-- Before `socket_reference()` and the `increment_io()` for the request. -/
  | acquire (next_io : ctsIOTask)
  /-- About to run `ctsProcessIOTask(next_io)`. -/
  | process (next_io : ctsIOTask)
  /-- No IO was started: the request's count is still to give back. -/
  | uncount (status : ctsSendRecvStatus)
  /-- `status.ioDone` is false: about to call `ctsSendRecvIocp`. -/
  | call (status : ctsSendRecvStatus)
  /-- The timer's count is still to give back. -/
  | exit (status : ctsSendRecvStatus)
  deriving DecidableEq, Repr

namespace TimerCallbackFrame

/-- The timer's count, and the request's from its increment to the IO it starts (or its
    decrement). -/
def holds : TimerCallbackFrame → Nat
  | acquire _ => 1
  | process _ => 2
  | uncount _ => 2
  | call _ => 1
  | exit _ => 1

def hand : TimerCallbackFrame → List ctsIOTask
  | acquire next_io => [next_io]
  | process next_io => [next_io]
  | _ => []

/-- `if (!status.ioDone) ctsSendRecvIocp(...)`. -/
def resume (status : ctsSendRecvStatus) : TimerCallbackFrame :=
  if !status.ioDone then call status else exit status

variable (env : DriverEnv)

/-- One step of the callback: its next point and the call of `ctsSendRecvIocp` it started,
    if any, or `none` once it has returned. -/
def step : TimerCallbackFrame → DriverState →
    Except DriverFailFast (Option (TimerCallbackFrame × Option SendRecvFrame) × DriverState)
  | acquire next_io, s => .ok (some (process next_io, none), s.increment_io)
  | process next_io, s =>
    let (status, s) := ctsProcessIOTask env s.socketValid next_io s
    .ok (some (if !status.ioStarted then uncount status else resume status, none), s)
  | uncount status, s =>
    if s.decrement_io.io_count = 0 then .error .refcountZeroInTimer
    else .ok (some (resume status, none), s.decrement_io)
  | call status, s =>
    let (l, s) := SendRecvFrame.enter s
    .ok (some (exit status, some l), s)
  | exit status, s => .ok (none, s.dropCount status.ioErrorcode)

end TimerCallbackFrame

/-- Where a `ctsIoCompletionCallback` for `io_task` is. -/
inductive CompletionCallbackFrame
  /-- Before the block that reads the IO's result under the socket lock. -/
  | read (io_task : ctsIOTask)
  /-- The result is read: about to hand the task back to `complete_io`. -/
  | complete (io_task : ctsIOTask) (gle transferred : Nat)
  /-- `complete_io` asked for more IO: about to call `ctsSendRecvIocp`. -/
  | call (gle : Nat)
  /-- The IO's count is still to give back, and `gle` is the code for `complete_state`. -/
  | exit (gle : Nat)
  deriving DecidableEq, Repr

namespace CompletionCallbackFrame

/-- The count of the IO the callback completes, held to its end. -/
def holds : CompletionCallbackFrame → Nat := fun _ => 1

def hand : CompletionCallbackFrame → List ctsIOTask
  | read io_task => [io_task]
  | complete io_task _ _ => [io_task]
  | _ => []

variable (env : DriverEnv)

/-- One step of the callback, as `TimerCallbackFrame.step`. -/
def step : CompletionCallbackFrame → DriverState →
    Except DriverFailFast (Option (CompletionCallbackFrame × Option SendRecvFrame) × DriverState)
  | read io_task, s =>
    let ((gle, transferred), s) := s.overlappedResult env
    .ok (some (complete io_task gle transferred, none), s)
  | complete io_task gle transferred, s =>
    let (st, s) := s.complete env io_task transferred gle
    match st with
    | .ContinueIo => .ok (some (call gle, none), s)
    | .CompletedIo => .ok (some (exit NO_ERROR, none), s)
    | .FailedIo => .ok (some (exit (s.lastError env), none), s)
  | call gle, s =>
    let (l, s) := SendRecvFrame.enter s
    .ok (some (exit gle, some l), s)
  | exit gle, s => .ok (none, s.dropCount gle)

end CompletionCallbackFrame

/-! ## Threads and runs -/

/-- A thread of the phase: the `io_fn` call, or a callback with the call of
    `ctsSendRecvIocp` it is running, if any. -/
inductive IocpThread
  | ioFn (f : SendRecvFrame)
  | timer (f : TimerCallbackFrame) (nested : Option SendRecvFrame)
  | completion (f : CompletionCallbackFrame) (nested : Option SendRecvFrame)
  | finished
  deriving DecidableEq, Repr

namespace IocpThread

open SendRecvFrame (optHolds optHand)

/-- The IO counts the thread holds. -/
def holds : IocpThread → Nat
  | ioFn f => f.holds
  | timer f n => f.holds + optHolds n
  | completion f n => f.holds + optHolds n
  | finished => 0

/-- The tasks the thread holds. -/
def hand : IocpThread → List ctsIOTask
  | ioFn f => f.hand
  | timer f n => f.hand ++ optHand n
  | completion f n => f.hand ++ optHand n
  | finished => []

/-- Whether the thread holds the socket lock between its steps: a call of `ctsSendRecvIocp`
    from its start, and a timer callback from its start. -/
def locked : IocpThread → Bool
  | ioFn _ => true
  | timer (.acquire _) _ => false
  | timer _ _ => true
  | completion _ (some _) => true
  | _ => false

/-- Whether the thread's next step takes the socket lock, which it does not hold. -/
def acquires : IocpThread → Bool
  | timer (.acquire _) none => true
  | completion (.read _) none => true
  | completion (.call _) none => true
  | _ => false

variable (env : DriverEnv)

/-- One step of the thread: of its nested call if it runs one, else of its own code. -/
def step : IocpThread → DriverState → Except DriverFailFast (IocpThread × DriverState)
  | ioFn f, s => (f.step env s).map fun r => (r.1.elim finished ioFn, r.2)
  | timer f (some l), s => (l.step env s).map fun r => (timer f r.1, r.2)
  | timer f none, s =>
    (f.step env s).map fun r => (r.1.elim finished fun p => timer p.1 p.2, r.2)
  | completion f (some l), s => (l.step env s).map fun r => (completion f r.1, r.2)
  | completion f none, s =>
    (f.step env s).map fun r => (r.1.elim finished fun p => completion p.1 p.2, r.2)
  | finished, s => .ok (finished, s)

end IocpThread

/-- The socket and the threads of the phase. -/
structure IocpConfig where
  s : DriverState
  threads : List IocpThread
  deriving DecidableEq, Repr

namespace IocpConfig

/-- The phase once the `io_fn` call has taken the socket lock and its count. -/
def start (socketValid : Bool) : IocpConfig :=
  let (f, s) := SendRecvFrame.enter (DriverState.start socketValid)
  ⟨s, [.ioFn f]⟩

/-- No thread runs and nothing is outstanding. -/
def Quiescent (c : IocpConfig) : Prop := c.s.Quiescent ∧ ∀ th ∈ c.threads, th = .finished

instance (c : IocpConfig) : Decidable c.Quiescent :=
  inferInstanceAs (Decidable (_ ∧ _))

end IocpConfig

/-- What can happen next in the phase. -/
inductive IocpStep (env : DriverEnv) : IocpConfig → IocpConfig → Prop
  /-- Thread `j` takes a step. A step that takes the socket lock waits while another thread
      holds it. -/
  | run {c : IocpConfig} {j : Nat} {th th' : IocpThread} {s' : DriverState}
      (hj : c.threads[j]? = some th) (hth : th ≠ .finished)
      (hlock : th.acquires = true →
        ∀ k u, k ≠ j → c.threads[k]? = some u → u.locked = false)
      (hs : th.step env c.s = .ok (th', s')) :
      IocpStep env c ⟨s', c.threads.set j th'⟩
  /-- The thread pool runs the completion of the `i`-th outstanding IO on a new thread. -/
  | complete {c : IocpConfig} {i : Nat} {t : ctsIOTask} (hi : c.s.pended[i]? = some t) :
      IocpStep env c ⟨{ c.s with pended := c.s.pended.eraseIdx i },
        c.threads ++ [.completion (.read t) none]⟩
  /-- The `i`-th timer fires, and its callback runs on a new thread. -/
  | fire {c : IocpConfig} {i : Nat} {t : ctsIOTask} (hi : c.s.timers[i]? = some t) :
      IocpStep env c ⟨{ c.s with timers := c.s.timers.eraseIdx i },
        c.threads ++ [.timer (.acquire t) none]⟩

/-- The configurations some interleaving reaches. -/
inductive IocpReachable (env : DriverEnv) (socketValid : Bool) : IocpConfig → Prop
  | start : IocpReachable env socketValid (.start socketValid)
  | step {c c' : IocpConfig} : IocpReachable env socketValid c → IocpStep env c c' →
      IocpReachable env socketValid c'

/-! ## The thread pool's choices, run -/

/-- A choice the thread pool makes: which thread runs, which IO completes, which timer
    fires. -/
inductive IocpChoice
  | run (j : Nat)
  | complete (i : Nat)
  | fire (i : Nat)
  deriving DecidableEq, Repr

namespace IocpConfig

/-- No thread other than the `j`-th holds the socket lock. -/
def lockFree (c : IocpConfig) (j : Nat) : Bool :=
  (List.range c.threads.length).all fun k => k == j || c.threads[k]?.all fun u => !u.locked

theorem lockFree_spec {c : IocpConfig} {j : Nat} (h : c.lockFree j = true) :
    ∀ k u, k ≠ j → c.threads[k]? = some u → u.locked = false := by
  intro k u hk hu
  have := List.all_eq_true.1 h k (List.mem_range.2 (List.getElem?_eq_some_iff.1 hu).1)
  simpa [hk, hu] using this

variable (env : DriverEnv)

/-- Where a choice leads: `none` when it names nothing, when the thread has returned or waits
    for the socket lock, or when its step fails fast. -/
def next (c : IocpConfig) : IocpChoice → Option IocpConfig
  | .run j => c.threads[j]?.bind fun th =>
    if th = .finished ∨ (th.acquires = true ∧ c.lockFree j = false) then none
    else match th.step env c.s with
      | .ok (th', s') => some ⟨s', c.threads.set j th'⟩
      | .error _ => none
  | .complete i => c.s.pended[i]?.map fun t =>
    ⟨{ c.s with pended := c.s.pended.eraseIdx i }, c.threads ++ [.completion (.read t) none]⟩
  | .fire i => c.s.timers[i]?.map fun t =>
    ⟨{ c.s with timers := c.s.timers.eraseIdx i }, c.threads ++ [.timer (.acquire t) none]⟩

/-- The choices of a schedule, in order. -/
def schedule (c : IocpConfig) : List IocpChoice → Option IocpConfig
  | [] => some c
  | ch :: chs => (c.next env ch).bind fun c => c.schedule chs

variable {env}

theorem next_step {c c' : IocpConfig} {ch : IocpChoice} (h : c.next env ch = some c') :
    IocpStep env c c' := by
  cases ch with
  | run j =>
    obtain ⟨th, hj, h⟩ := Option.bind_eq_some.1 h
    by_cases hno : th = .finished ∨ (th.acquires = true ∧ c.lockFree j = false)
    · rw [if_pos hno] at h; cases h
    rw [if_neg hno] at h
    simp only [not_or, not_and, Bool.not_eq_false] at hno
    split at h
    · cases h
      exact .run hj hno.1 (fun ha => lockFree_spec (hno.2 ha)) ‹_›
    · cases h
  | complete i =>
    obtain ⟨t, ht, rfl⟩ := Option.map_eq_some'.1 h
    exact .complete ht
  | fire i =>
    obtain ⟨t, ht, rfl⟩ := Option.map_eq_some'.1 h
    exact .fire ht

theorem schedule_reachable {v : Bool} :
    ∀ {chs : List IocpChoice} {c c' : IocpConfig}, c.schedule env chs = some c' →
      IocpReachable env v c → IocpReachable env v c'
  | [], _, _, h, hc => Option.some.inj h ▸ hc
  | _ :: _, _, _, h, hc => by
    obtain ⟨c₁, h₁, h₂⟩ := Option.bind_eq_some.1 h
    exact schedule_reachable h₂ (hc.step (next_step h₁))

end IocpConfig

/-- The timer fires while the `io_fn` call still holds the lock. -/
def timerWaitsSchedule : List IocpChoice := [.run 0, .run 0, .run 0, .fire 0]

example : ((IocpConfig.start true).schedule delayedSendEnv (timerWaitsSchedule ++ [.run 1])) =
    none := by
  decide

example : ((IocpConfig.start true).schedule delayedSendEnv (timerWaitsSchedule ++
    [.run 0, .run 0, .run 1, .run 1, .run 1, .run 1, .run 1, .run 1, .complete 0, .run 2, .run 2,
      .run 2])).map (fun c => (c.s.io_count, c.s.completeStates, decide c.Quiescent)) =
    some (0, [NO_ERROR], true) := by
  decide

end CtsTraffic
