import CtsTraffic.Driver.SendRecv
import CtsTraffic.Driver.ReadWrite

/-
  The IO phase of one socket under either driver, as the calls the socket and the thread
  pool make: one `io_fn` call that starts it, then, in any order, the delivery of an
  outstanding IO's completion and (for `ctsSendRecvIocp`) the firing of a scheduled timer.
  Each call runs to its end before the next; that is one of the interleavings the thread
  pool allows, so a phase here is a run of the program.

  Proved:
  * `sendRecv_phase_laws`: under `ctsSendRecvIocp`, between calls every IO count is owned
    by an outstanding IO or timer, no call can fail fast, the state has been completed once
    if nothing is outstanding and not at all otherwise, and every task is handed back once,
    outstanding, or (only a delayed one) given up.
  * `readWrite_phase_laws`: under `ctsReadWriteIocp`, the same without timers and without any
    task given up, except that the state is completed at most once: never while something
    is outstanding, but not always once nothing is.
  * The three runs where the drivers break the socket's contract: `ctsReadWriteIocp`
    completes no state when its first call starts no IO; a `set_timer` that throws drops its
    task; and a completion that re-enters the driver loses the failure code of an IO that
    failed inside.
-/

namespace CtsTraffic

/-- The two drivers. -/
inductive Driver
  | sendRecv
  | readWrite
  deriving DecidableEq, Repr

/-- A call the thread pool makes into the driver. -/
inductive DriverEvent
  | completion (i : Nat)
  | timer (i : Nat)
  deriving DecidableEq, Repr

namespace Driver

/-- The driver's `io_fn`. -/
def ioFn : Driver → DriverEnv → Nat → DriverState → Except DriverStop DriverState
  | .sendRecv => ctsSendRecvIocp
  | .readWrite => ctsReadWriteIocp

/-- The driver's completion callback. -/
def onCompletion : Driver → DriverEnv → Nat → ctsIOTask → DriverState →
    Except DriverStop DriverState
  | .sendRecv => ctsIoCompletionCallback
  | .readWrite => ctsReadWriteIocpIoCompletionCallback

/-- The completion of the `i`-th outstanding IO, or the firing of the `i`-th timer, taken
    off the socket; `none` when there is no such IO or timer. -/
def call (d : Driver) (env : DriverEnv) (fuel : Nat) : DriverEvent → DriverState →
    Option (Except DriverStop DriverState)
  | .completion i, s => s.pended[i]?.map fun t =>
      d.onCompletion env fuel t { s with pended := s.pended.eraseIdx i }
  | .timer i, s => match d with
    | .sendRecv => s.timers[i]?.map fun t =>
        ctsProcessIOTaskCallback env fuel t { s with timers := s.timers.eraseIdx i }
    | .readWrite => none

/-- The calls of a list, in order; `none` when one fails fast, runs out of fuel, or names
    nothing outstanding. -/
def run (d : Driver) (env : DriverEnv) (fuel : Nat) : List DriverEvent → DriverState →
    Option DriverState
  | [], s => some s
  | e :: es, s => ((d.call env fuel e s).bind Except.toOption).bind (d.run env fuel es)

/-- The IO phase: `io_fn` on the socket, then the calls of `es`. -/
def phase (d : Driver) (env : DriverEnv) (fuel : Nat) (s : DriverState)
    (es : List DriverEvent) : Option DriverState :=
  (d.ioFn env fuel s).toOption.bind (d.run env fuel es)

end Driver

/-- Nothing is outstanding: no IO and no timer; between calls, no driver code runs. -/
def DriverState.Quiescent (s : DriverState) : Prop := s.pended = [] ∧ s.timers = []

instance (s : DriverState) : Decidable s.Quiescent :=
  inferInstanceAs (Decidable (s.pended = [] ∧ s.timers = []))

/-! ## Taking an IO or timer off the socket -/

open DriverState (TasksAccounted)

theorem perm_cons_eraseIdx {α : Type} :
    ∀ {l : List α} {i : Nat} {t : α}, l[i]? = some t → l.Perm (t :: l.eraseIdx i)
  | _ :: _, 0, _, h => by
    simp only [List.getElem?_cons_zero, Option.some.injEq] at h
    subst h; exact .refl _
  | a :: _, _ + 1, t, h => by
    simp only [List.getElem?_cons_succ] at h
    exact ((perm_cons_eraseIdx h).cons a).trans (.swap t a _)

/-- The callback that runs for the `i`-th outstanding IO takes its count and its task. -/
theorem take_pended {s : DriverState} {i : Nat} {t : ctsIOTask} (ht : s.pended[i]? = some t) :
    { s with pended := s.pended.eraseIdx i }.held = s.held + 1 ∧
      ∀ {hand}, TasksAccounted hand s →
        TasksAccounted (t :: hand) { s with pended := s.pended.eraseIdx i } := by
  have hi := (List.getElem?_eq_some_iff.mp ht).1
  refine ⟨by simp only [DriverState.held, DriverState.outstanding,
    List.length_eraseIdx_of_lt hi]; omega, fun hb => hb.trans ?_⟩
  refine List.perm_iff_count.2 fun a => ?_
  have := List.perm_iff_count.1 (perm_cons_eraseIdx ht) a
  simp only [DriverState.accounted, List.count_append, List.count_cons, List.count_nil] at this ⊢
  omega

theorem take_timer {s : DriverState} {i : Nat} {t : ctsIOTask} (ht : s.timers[i]? = some t) :
    { s with timers := s.timers.eraseIdx i }.held = s.held + 1 ∧
      ∀ {hand}, TasksAccounted hand s →
        TasksAccounted (t :: hand) { s with timers := s.timers.eraseIdx i } := by
  have hi := (List.getElem?_eq_some_iff.mp ht).1
  refine ⟨by simp only [DriverState.held, DriverState.outstanding,
    List.length_eraseIdx_of_lt hi]; omega, fun hb => hb.trans ?_⟩
  refine List.perm_iff_count.2 fun a => ?_
  have := List.perm_iff_count.1 (perm_cons_eraseIdx ht) a
  simp only [DriverState.accounted, List.count_append, List.count_cons, List.count_nil] at this ⊢
  omega

/-- A callback runs only for something outstanding. -/
theorem outstanding_pos_of_call {d : Driver} {env : DriverEnv} {fuel : Nat} {e : DriverEvent}
    {s : DriverState} {r : Except DriverStop DriverState} (he : d.call env fuel e s = some r) :
    0 < s.outstanding := by
  have : ∀ {l : List ctsIOTask} {i : Nat} {t : ctsIOTask}, l[i]? = some t → 0 < l.length :=
    fun h => List.length_pos_of_mem (List.getElem?_mem h)
  simp only [DriverState.outstanding]
  cases e with
  | completion i =>
    obtain ⟨t, ht, -⟩ := Option.map_eq_some'.mp he
    have := this ht; omega
  | timer i =>
    cases d
    · obtain ⟨t, ht, -⟩ := Option.map_eq_some'.mp he
      have := this ht; omega
    · cases he

/-! ## Counting and accounting under `ctsSendRecvIocp` -/

/-- Between calls of a phase under `ctsSendRecvIocp`: no count is held by running code, the
    state was completed once exactly when nothing is outstanding, every task is accounted
    for, and only delayed tasks were given up. -/
structure SendRecvInv (s : DriverState) : Prop where
  held_zero : s.held = 0
  completed : s.completeStates.length = if s.outstanding = 0 then 1 else 0
  balanced : TasksAccounted [] s
  dropped : s.DroppedDelayed

theorem SendRecvInv.of_callSpec {hand : List ctsIOTask} {s₀ s : DriverState}
    (h₀ : s₀.completeStates = []) (hb : TasksAccounted hand s₀) (hd : s₀.DroppedDelayed)
    (h : CallSpec 0 hand s₀ (.ok s)) : SendRecvInv s := by
  obtain ⟨hh, ⟨c, hc⟩, hb', hd'⟩ := h
  refine ⟨hh, ?_, hb' hb, hd' hd⟩
  have : s.io_count = s.outstanding := by simp only [DriverState.held] at hh; omega
  rw [hc, h₀, this]
  by_cases ho : s.outstanding = 0
  · simp [ho]
  · simp [ho, show (s.outstanding : Int) ≠ 0 by omega]

/-- What a callback starts from: nothing completed yet, the task it runs in hand. -/
theorem SendRecvInv.call_spec {env : DriverEnv} {fuel : Nat} {s : DriverState}
    (h : SendRecvInv s) {e : DriverEvent} {r : Except DriverStop DriverState}
    (he : Driver.sendRecv.call env fuel e s = some r) :
    ∃ s₀ hand, CallSpec 0 hand s₀ r ∧ s₀.completeStates = [] ∧ TasksAccounted hand s₀ ∧
      s₀.DroppedDelayed := by
  have hcs : s.completeStates = [] := by
    have := h.completed
    rw [if_neg (by have := outstanding_pos_of_call he; omega)] at this
    exact List.eq_nil_of_length_eq_zero this
  cases e with
  | completion i =>
    obtain ⟨t, ht, rfl⟩ := Option.map_eq_some'.mp he
    obtain ⟨hh, hb⟩ := take_pended ht
    have := ctsIoCompletionCallback_spec env fuel t _ (by rw [hh, h.held_zero]; omega)
    rw [hh, h.held_zero, Int.add_sub_cancel] at this
    exact ⟨_, _, this, hcs, hb h.balanced, h.dropped⟩
  | timer i =>
    obtain ⟨t, ht, rfl⟩ := Option.map_eq_some'.mp he
    obtain ⟨hh, hb⟩ := take_timer ht
    have := ctsProcessIOTaskCallback_spec env fuel t _ (by rw [hh, h.held_zero]; omega)
    rw [hh, h.held_zero, Int.add_sub_cancel] at this
    exact ⟨_, _, this, hcs, hb h.balanced, h.dropped⟩

theorem SendRecvInv.run {env : DriverEnv} {fuel : Nat} :
    ∀ {es : List DriverEvent} {s s' : DriverState}, SendRecvInv s →
      Driver.sendRecv.run env fuel es s = some s' → SendRecvInv s'
  | [], _, _, h, he => Option.some.inj he ▸ h
  | e :: es, s, s', h, he => by
    simp only [Driver.run, Option.bind_eq_some] at he
    obtain ⟨s₁, ⟨r, hr, hs₁⟩, hrun⟩ := he
    obtain ⟨s₀, hand, hspec, h₀, hb, hd⟩ := h.call_spec hr
    cases r with
    | error _ => cases hs₁
    | ok s₁' =>
      cases Option.some.inj hs₁
      exact SendRecvInv.run (SendRecvInv.of_callSpec h₀ hb hd hspec) hrun

/-- Under `ctsSendRecvIocp`, whatever the pattern and the world do, between calls of an IO
    phase: every IO count is owned by an outstanding IO or timer; no call can reach either
    refcount `FAIL_FAST`; `complete_state` has been called once if nothing is outstanding and
    not at all while something is; and every task `initiate_io` returned has been handed back
    to `complete_io` once, is outstanding, or was given up, and only a delayed task (one that
    went to `set_timer`) is ever given up. -/
theorem sendRecv_phase_laws (env : DriverEnv) (fuel : Nat) (v : Bool) (es : List DriverEvent)
    {s : DriverState} (h : Driver.sendRecv.phase env fuel (.start v) es = some s) :
    s.io_count = s.outstanding ∧
      s.completeStates.length = (if s.Quiescent then 1 else 0) ∧
      (∀ e f, Driver.sendRecv.call env fuel e s ≠ some (.error (.failFast f))) ∧
      s.issued.Perm (s.handedBack.map Prod.fst ++ s.pended ++ s.timers ++ s.dropped) ∧
      ∀ t ∈ s.dropped, 0 < t.time_offset_milliseconds := by
  simp only [Driver.phase, Option.bind_eq_some] at h
  obtain ⟨s₁, h₁, hrun⟩ := h
  have hspec := ctsSendRecvIocp_spec env fuel (.start v) (by simp)
  have hinv₁ : SendRecvInv s₁ := by
    cases hio : ctsSendRecvIocp env fuel (.start v) with
    | error _ => simp [Driver.ioFn, hio, Except.toOption] at h₁
    | ok s₁' =>
      simp only [Driver.ioFn, hio, Except.toOption, Option.some.injEq] at h₁
      subst h₁
      exact SendRecvInv.of_callSpec rfl
        (show TasksAccounted [] (DriverState.start v) from List.Perm.refl _)
        (fun t h => absurd h (List.not_mem_nil t)) (hio ▸ hspec)
  have hinv := hinv₁.run hrun
  refine ⟨by have := hinv.held_zero; simp only [DriverState.held] at this; omega, ?_,
    fun e f he => ?_, by
      simpa only [TasksAccounted, DriverState.accounted, List.append_nil] using hinv.balanced,
    hinv.dropped⟩
  · have : s.outstanding = 0 ↔ s.Quiescent := by
      simp [DriverState.outstanding, DriverState.Quiescent]
    rw [hinv.completed]; simp only [this]
  · obtain ⟨s₀, hand, hspec, -⟩ := hinv.call_spec he
    cases hspec

/-! ## Counting and accounting under `ctsReadWriteIocp` -/

/-- Between calls of a phase under `ctsReadWriteIocp`: no count is held by running code, the
    state was completed at most once and only with nothing outstanding, every task is
    accounted for, and no timer or given-up task exists. -/
structure ReadWriteInv (s : DriverState) : Prop where
  held_zero : s.held = 0
  completed : s.completeStates.length ≤ 1
  quiet : s.completeStates ≠ [] → s.outstanding = 0
  balanced : TasksAccounted [] s
  timers : s.timers = []
  dropped : s.dropped = []

theorem ReadWriteInv.of_callSpec {hand : List ctsIOTask} {s₀ s : DriverState}
    (h₀ : s₀.completeStates = []) (hb : TasksAccounted hand s₀) (ht : s₀.timers = [])
    (hd : s₀.dropped = []) (h : ReadWriteCallSpec 0 hand s₀ (.ok s)) : ReadWriteInv s := by
  obtain ⟨hh, hc, hb', ht', hd'⟩ := h
  have hio : s.io_count = s.outstanding := by simp only [DriverState.held] at hh; omega
  refine ⟨hh, ?_, fun hne => ?_, hb' hb, ht'.trans ht, hd'.trans hd⟩
  · rcases hc with hc | ⟨-, c, hc⟩ <;> simp [hc, h₀]
  · rcases hc with hc | ⟨hz, -⟩
    · exact absurd (hc.trans h₀) hne
    · omega

/-- What a callback starts from: nothing completed yet, the task it runs in hand. -/
theorem ReadWriteInv.call_spec {env : DriverEnv} {fuel : Nat} {s : DriverState}
    (h : ReadWriteInv s) {e : DriverEvent} {r : Except DriverStop DriverState}
    (he : Driver.readWrite.call env fuel e s = some r) :
    ∃ s₀ hand, ReadWriteCallSpec 0 hand s₀ r ∧ s₀.completeStates = [] ∧ TasksAccounted hand s₀ ∧
      s₀.timers = [] ∧ s₀.dropped = [] := by
  have hcs : s.completeStates = [] := by
    by_contra hne
    have := h.quiet hne
    have := outstanding_pos_of_call he
    omega
  cases e with
  | timer i => cases he
  | completion i =>
    obtain ⟨t, ht, rfl⟩ := Option.map_eq_some'.mp he
    obtain ⟨hh, hb⟩ := take_pended ht
    have := ctsReadWriteIocpIoCompletionCallback_spec env fuel t _
      (by rw [hh, h.held_zero]; omega)
    rw [hh, h.held_zero, Int.add_sub_cancel] at this
    exact ⟨_, _, this, hcs, hb h.balanced, h.timers, h.dropped⟩

theorem ReadWriteInv.run {env : DriverEnv} {fuel : Nat} :
    ∀ {es : List DriverEvent} {s s' : DriverState}, ReadWriteInv s →
      Driver.readWrite.run env fuel es s = some s' → ReadWriteInv s'
  | [], _, _, h, he => Option.some.inj he ▸ h
  | e :: es, s, s', h, he => by
    simp only [Driver.run, Option.bind_eq_some] at he
    obtain ⟨s₁, ⟨r, hr, hs₁⟩, hrun⟩ := he
    obtain ⟨s₀, hand, hspec, h₀, hb, ht, hd⟩ := h.call_spec hr
    cases r with
    | error _ => cases hs₁
    | ok s₁' =>
      cases Option.some.inj hs₁
      exact ReadWriteInv.run (ReadWriteInv.of_callSpec h₀ hb ht hd hspec) hrun

/-- Under `ctsReadWriteIocp`, whatever the pattern and the world do, between calls of an IO
    phase: every IO count is owned by an outstanding IO; `complete_state` has been called at
    most once, and only once nothing is outstanding; and every task `initiate_io` returned has
    been handed back to `complete_io` once or is outstanding. What fails is the other half of
    "exactly once": a phase can end with nothing outstanding and no `complete_state`
    (`readWrite_never_completes_without_io`). -/
theorem readWrite_phase_laws (env : DriverEnv) (fuel : Nat) (v : Bool) (es : List DriverEvent)
    {s : DriverState} (h : Driver.readWrite.phase env fuel (.start v) es = some s) :
    s.io_count = s.outstanding ∧ s.completeStates.length ≤ 1 ∧
      (s.completeStates ≠ [] → s.Quiescent) ∧
      s.issued.Perm (s.handedBack.map Prod.fst ++ s.pended) := by
  simp only [Driver.phase, Option.bind_eq_some] at h
  obtain ⟨s₁, h₁, hrun⟩ := h
  have hspec := ctsReadWriteIocp_spec env fuel (.start v)
  have hinv₁ : ReadWriteInv s₁ := by
    cases hio : ctsReadWriteIocp env fuel (.start v) with
    | error _ => simp [Driver.ioFn, hio, Except.toOption] at h₁
    | ok s₁' =>
      simp only [Driver.ioFn, hio, Except.toOption, Option.some.injEq] at h₁
      subst h₁
      exact ReadWriteInv.of_callSpec rfl
        (show TasksAccounted [] (DriverState.start v) from List.Perm.refl _) rfl rfl (hio ▸ hspec)
  have hinv := hinv₁.run hrun
  have hq : s.outstanding = 0 → s.Quiescent := fun h0 => by
    simp only [DriverState.outstanding] at h0
    exact ⟨List.eq_nil_of_length_eq_zero (by omega), List.eq_nil_of_length_eq_zero (by omega)⟩
  refine ⟨by have := hinv.held_zero; simp only [DriverState.held] at this; omega,
    hinv.completed, fun hne => hq (hinv.quiet hne), ?_⟩
  simpa only [TasksAccounted, DriverState.accounted, hinv.timers, hinv.dropped, List.append_nil]
    using hinv.balanced

/-- A phase with one delayed send that completes. -/
def delayedSendEnv : DriverEnv :=
  ⟨fun n => if n = 0 then ⟨.Send, 0, 0, 10, RIO_INVALID_BUFFERID, .Tracked, true, 5⟩ else
      ⟨.None, 0, 0, 0, RIO_INVALID_BUFFERID, .Static, false, 0⟩,
    fun _ _ _ _ => .CompletedIo, fun _ => NO_ERROR,
    fun n => if n = 1 then (WSA_IO_PENDING, 0) else (NO_ERROR, 10), fun _ => none, false⟩

example : (Driver.sendRecv.phase delayedSendEnv 3 (.start true) [.timer 0, .completion 0]).map
    (fun s => (s.io_count, s.completeStates)) = some (0, [NO_ERROR]) := by
  decide

theorem sendRecv_phase_laws_delayedSend :
    ∃ s, Driver.sendRecv.phase delayedSendEnv 3 (.start true) [.timer 0, .completion 0] = some s ∧
      s.io_count = s.outstanding ∧
      s.completeStates.length = (if s.Quiescent then 1 else 0) ∧
      (∀ e f, Driver.sendRecv.call delayedSendEnv 3 e s ≠ some (.error (.failFast f))) ∧
      s.issued.Perm (s.handedBack.map Prod.fst ++ s.pended ++ s.timers ++ s.dropped) ∧
      ∀ t ∈ s.dropped, 0 < t.time_offset_milliseconds :=
  have h : (Driver.sendRecv.phase delayedSendEnv 3 (.start true)
      [.timer 0, .completion 0]).isSome := by decide
  let ⟨s, hs⟩ := Option.isSome_iff_exists.1 h
  ⟨s, hs, sendRecv_phase_laws _ _ _ _ hs⟩

theorem readWrite_phase_laws_delayedSend :
    ∃ s, Driver.readWrite.phase delayedSendEnv 3 (.start true) [.completion 0] = some s ∧
      s.io_count = s.outstanding ∧ s.completeStates.length ≤ 1 ∧
      (s.completeStates ≠ [] → s.Quiescent) ∧
      s.issued.Perm (s.handedBack.map Prod.fst ++ s.pended) :=
  have h : (Driver.readWrite.phase delayedSendEnv 3 (.start true) [.completion 0]).isSome := by
    decide
  let ⟨s, hs⟩ := Option.isSome_iff_exists.1 h
  ⟨s, hs, readWrite_phase_laws _ _ _ _ hs⟩

/-! ## Where the drivers break the contract -/

/-- `initiate_io`'s "no IO right now". -/
def noIoTask : ctsIOTask := ⟨.None, 0, 0, 0, RIO_INVALID_BUFFERID, .Static, false, 0⟩

/-- A counted send of `len` bytes, `delay` milliseconds from now. -/
def sendTask (len : Nat) (delay : Int) : ctsIOTask :=
  ⟨.Send, 0, 0, len, RIO_INVALID_BUFFERID, .Tracked, true, delay⟩

/-- A counted receive of `len` bytes. -/
def recvTask (len : Nat) : ctsIOTask :=
  ⟨.Recv, 0, 0, len, RIO_INVALID_BUFFERID, .Tracked, true, 0⟩

/-- A pattern with nothing to do yet, and a world where every call succeeds. -/
def idleEnv : DriverEnv :=
  ⟨fun _ => noIoTask, fun _ _ _ _ => .ContinueIo, fun _ => NO_ERROR, fun _ => (NO_ERROR, 0),
    fun _ => none, false⟩

/-- `ctsReadWriteIocp` started on a pattern with nothing to do, or on a socket already
    closed (where it sets `WSAECONNABORTED`), returns with nothing outstanding and no
    `complete_state`; `ctsSendRecvIocp` completes the state once. -/
theorem readWrite_never_completes_without_io :
    (Driver.readWrite.phase idleEnv 2 (.start true) []).map
        (fun s => (decide s.Quiescent, s.completeStates)) = some (true, []) ∧
      (Driver.readWrite.phase idleEnv 2 (.start false) []).map
        (fun s => (decide s.Quiescent, s.completeStates)) = some (true, []) ∧
      (Driver.sendRecv.phase idleEnv 2 (.start true) []).map
        (fun s => (decide s.Quiescent, s.completeStates)) = some (true, [NO_ERROR]) :=
  ⟨rfl, rfl, rfl⟩

/-- A pattern whose first task is a send delayed by 10 ms, in a world where the timer's
    allocation throws (`WSAENOBUFS` from `PrintThrownException`). -/
def timerThrowsEnv : DriverEnv :=
  ⟨fun n => if n = 0 then sendTask 1000 10 else noIoTask, fun _ _ _ _ => .ContinueIo,
    fun _ => NO_ERROR, fun _ => (NO_ERROR, 0), fun n => if n = 0 then some WSAENOBUFS else none,
    false⟩

/-- When `set_timer` throws, `ctsSendRecvIocp` never hands the task back to `complete_io`:
    the phase ends with the task issued, nothing outstanding and the state completed. -/
theorem sendRecv_timer_throw_drops_task :
    (Driver.sendRecv.phase timerThrowsEnv 2 (.start true) []).map
        (fun s => (s.issued, s.handedBack, decide s.Quiescent, s.completeStates)) =
      some ([sendTask 1000 10], [], true, [WSAENOBUFS]) :=
  rfl

/-- A receive that completes, then a send that fails at once with `WSAECONNRESET`; the
    pattern fails from its second `complete_io` on and then has no more IO. -/
def resetEnv : DriverEnv :=
  ⟨fun n => if n = 0 then recvTask 100 else if n = 2 then sendTask 100 0 else noIoTask,
    fun n _ _ _ => if n = 0 then .ContinueIo else .FailedIo,
    fun n => if n < 2 then NO_ERROR else WSAECONNRESET,
    fun n => if n = 1 then (WSA_IO_PENDING, 0) else if n = 2 then (NO_ERROR, 100)
      else if n = 4 then (WSAECONNRESET, 0) else (NO_ERROR, 0),
    fun _ => none, false⟩

/-- The pattern of `resetEnv` fails sticky: after its first `FailedIo` every `complete_io`
    fails and `initiate_io` has no more IO. Under both drivers, the receive's completion
    re-enters the driver, whose send fails and is reported `FailedIo`; the completion then
    drops the last IO count and calls `complete_state(NO_ERROR)`. -/
theorem drivers_lose_failure_code :
    (∀ n ≥ 1, ∀ t b e, resetEnv.complete_io n t b e = .FailedIo) ∧
      (∀ n ≥ 3, (resetEnv.initiate_io n).ioAction = .None) ∧
      (Driver.sendRecv.phase resetEnv 3 (.start true) [.completion 0]).map
          (fun s => (s.handedBack.map Prod.snd, decide s.Quiescent, s.completeStates)) =
        some ([.ContinueIo, .FailedIo], true, [NO_ERROR]) ∧
      (Driver.readWrite.phase resetEnv 3 (.start true) [.completion 0]).map
          (fun s => (s.handedBack.map Prod.snd, decide s.Quiescent, s.completeStates)) =
        some ([.ContinueIo, .FailedIo], true, [NO_ERROR]) := by
  refine ⟨fun n hn _ _ _ => if_neg (by omega), fun n hn => ?_, rfl, rfl⟩
  simp only [resetEnv, if_neg (show n ≠ 0 by omega), if_neg (show n ≠ 2 by omega)]
  rfl

end CtsTraffic
