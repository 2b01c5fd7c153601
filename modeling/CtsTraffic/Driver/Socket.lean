import CtsTraffic.Basic

/-
  What the two IO drivers (`ctsSendRecvIocp.cpp`, `ctsReadWriteIocp.cpp`) see of their
  socket and of the world. The pattern and the operating system are oracles: `initiate_io`
  and `complete_io` answer by call number (and `complete_io` by its arguments too), and every
  operating-system call (starting an IO, reading an overlapped result, `shutdown`,
  `closesocket`, a thread-pool or timer allocation) answers by its number among all such
  calls. Any behaviour of the pattern and any outcome of each IO is one choice of the oracles.

  The state records what the drivers do to the socket and to the pattern: the tasks
  `initiate_io` returned, the tasks handed back to `complete_io` with their statuses, the IOs
  and timers still outstanding, and the codes passed to `complete_state`.
-/

namespace CtsTraffic

/-- Modelled from the spec: `ctsIOStatus`, what `complete_io` returns (spec §4.4). -/
inductive ctsIOStatus
  | ContinueIo
  | CompletedIo
  | FailedIo
  deriving DecidableEq, Repr

/-- `ERROR_IO_PENDING`. -/
def ERROR_IO_PENDING : Nat := 997

/-- The pattern and the operating system, as oracles. `os n` is what the `n`-th operating
    system call returns: an error code (`NO_ERROR` on success) and a byte count. `throws n`
    is the code `ctsConfig::PrintThrownException` returns when the `n`-th call is an
    allocation that throws (`thread_pool`, `new_request`, `set_timer`). -/
structure DriverEnv where
  initiate_io : Nat → ctsIOTask
  complete_io : Nat → ctsIOTask → Nat → Nat → ctsIOStatus
  get_last_error : Nat → Nat
  os : Nat → Nat × Nat
  throws : Nat → Option Nat
  HANDLE_INLINE_IOCP : Bool

/-- The socket's side of the IO phase. -/
structure DriverState where
  /-- Modelled from the spec: `ctsSocket`'s IO count, which `increment_io` and `decrement_io`
      move and return. -/
  io_count : Int
  /-- Whether the socket is not `INVALID_SOCKET`. -/
  socketValid : Bool
  /-- IOs whose completion the thread pool will deliver. -/
  pended : List ctsIOTask
  /-- Tasks scheduled through `set_timer`. -/
  timers : List ctsIOTask
  initiateCalls : Nat
  osCalls : Nat
  /-- The tasks `initiate_io` returned, other than `None`. -/
  issued : List ctsIOTask
  /-- The tasks handed to `complete_io`, with what it returned. -/
  handedBack : List (ctsIOTask × ctsIOStatus)
  /-- The tasks a driver gave up: their IO count dropped, never handed back. Nothing in the
      source records them; the model does, to account for every task. -/
  dropped : List ctsIOTask
  /-- The codes passed to `complete_state`. -/
  completeStates : List Nat
  deriving DecidableEq, Repr

namespace DriverState

/-- A socket entering its IO phase, with no IO count; `socketValid` is false when the
    socket was closed before. -/
def start (socketValid : Bool) : DriverState := ⟨0, socketValid, [], [], 0, 0, [], [], [], []⟩

variable (env : DriverEnv)

/-- `initiate_io()`. -/
def initiate (s : DriverState) : ctsIOTask × DriverState :=
  let t := env.initiate_io s.initiateCalls
  (t, { s with
    initiateCalls := s.initiateCalls + 1
    issued := if t.ioAction = .None then s.issued else s.issued ++ [t] })

/-- `complete_io(task, transferred, error)`. -/
def complete (s : DriverState) (t : ctsIOTask) (transferred error : Nat) :
    ctsIOStatus × DriverState :=
  let st := env.complete_io s.handedBack.length t transferred error
  (st, { s with handedBack := s.handedBack ++ [(t, st)] })

/-- `get_last_error()`. -/
def lastError (s : DriverState) : Nat := env.get_last_error s.handedBack.length

/-- One operating-system call. -/
def osCall (s : DriverState) : (Nat × Nat) × DriverState :=
  (env.os s.osCalls, { s with osCalls := s.osCalls + 1 })

/-- One allocation that may throw. -/
def tryAlloc (s : DriverState) : Option Nat × DriverState :=
  (env.throws s.osCalls, { s with osCalls := s.osCalls + 1 })

/-- What a completion callback reads under the socket lock: the IO's error code and byte
    count from `WSAGetOverlappedResult`, or `WSAECONNABORTED` when the socket is gone. -/
def overlappedResult (s : DriverState) : (Nat × Nat) × DriverState :=
  if s.socketValid then s.osCall env else ((WSAECONNABORTED, 0), s)

theorem overlappedResult_snd (s : DriverState) :
    (s.overlappedResult env).2 =
      { s with osCalls := if s.socketValid then s.osCalls + 1 else s.osCalls } := by
  unfold overlappedResult osCall
  split <;> rfl

/-- Modelled from the spec: `increment_io`. -/
def increment_io (s : DriverState) : DriverState := { s with io_count := s.io_count + 1 }

/-- Modelled from the spec: `decrement_io`. -/
def decrement_io (s : DriverState) : DriverState := { s with io_count := s.io_count - 1 }

/-- Modelled from the spec: `complete_state(code)`, as far as the driver sees it. -/
def complete_state (s : DriverState) (code : Nat) : DriverState :=
  { s with completeStates := s.completeStates ++ [code] }

/-- The IOs and timers the driver has left outstanding; each owns one IO count. -/
def outstanding (s : DriverState) : Nat := s.pended.length + s.timers.length

/-- The IO counts not owned by an outstanding IO or timer: those the running driver code
    holds. -/
def held (s : DriverState) : Int := s.io_count - s.outstanding

/-! What each step does to the counts, and that only `complete_state` completes. -/

@[simp] theorem start_held (v : Bool) : (start v).held = 0 := rfl

@[simp] theorem initiate_held (s : DriverState) : (s.initiate env).2.held = s.held := rfl
@[simp] theorem initiate_io_count (s : DriverState) :
    (s.initiate env).2.io_count = s.io_count := rfl
@[simp] theorem initiate_completeStates (s : DriverState) :
    (s.initiate env).2.completeStates = s.completeStates := rfl
@[simp] theorem complete_held (s : DriverState) (t : ctsIOTask) (b e : Nat) :
    (s.complete env t b e).2.held = s.held := rfl
@[simp] theorem complete_io_count (s : DriverState) (t : ctsIOTask) (b e : Nat) :
    (s.complete env t b e).2.io_count = s.io_count := rfl
@[simp] theorem complete_completeStates (s : DriverState) (t : ctsIOTask) (b e : Nat) :
    (s.complete env t b e).2.completeStates = s.completeStates := rfl
@[simp] theorem osCall_held (s : DriverState) : (s.osCall env).2.held = s.held := rfl
@[simp] theorem osCall_io_count (s : DriverState) : (s.osCall env).2.io_count = s.io_count := rfl
@[simp] theorem osCall_completeStates (s : DriverState) :
    (s.osCall env).2.completeStates = s.completeStates := rfl
@[simp] theorem tryAlloc_held (s : DriverState) : (s.tryAlloc env).2.held = s.held := rfl
@[simp] theorem tryAlloc_io_count (s : DriverState) :
    (s.tryAlloc env).2.io_count = s.io_count := rfl
@[simp] theorem tryAlloc_completeStates (s : DriverState) :
    (s.tryAlloc env).2.completeStates = s.completeStates := rfl
@[simp] theorem increment_io_held (s : DriverState) : s.increment_io.held = s.held + 1 := by
  simp only [held, increment_io, outstanding]; omega
@[simp] theorem increment_io_io_count (s : DriverState) :
    s.increment_io.io_count = s.io_count + 1 := rfl
@[simp] theorem increment_io_completeStates (s : DriverState) :
    s.increment_io.completeStates = s.completeStates := rfl
@[simp] theorem decrement_io_held (s : DriverState) : s.decrement_io.held = s.held - 1 := by
  simp only [held, decrement_io, outstanding]; omega
@[simp] theorem decrement_io_io_count (s : DriverState) :
    s.decrement_io.io_count = s.io_count - 1 := rfl
@[simp] theorem decrement_io_completeStates (s : DriverState) :
    s.decrement_io.completeStates = s.completeStates := rfl
@[simp] theorem complete_state_held (s : DriverState) (c : Nat) :
    (s.complete_state c).held = s.held := rfl
@[simp] theorem complete_state_io_count (s : DriverState) (c : Nat) :
    (s.complete_state c).io_count = s.io_count := rfl
@[simp] theorem complete_state_completeStates (s : DriverState) (c : Nat) :
    (s.complete_state c).completeStates = s.completeStates ++ [c] := rfl

/-- Pending an IO or scheduling a timer hands it one of the held counts. -/
theorem held_pend (s : DriverState) (t : ctsIOTask) :
    { s with pended := s.pended ++ [t] }.held = s.held - 1 := by
  simp only [held, outstanding, List.length_append, List.length_singleton]; omega

theorem held_schedule (s : DriverState) (t : ctsIOTask) :
    { s with timers := s.timers ++ [t] }.held = s.held - 1 := by
  simp only [held, outstanding, List.length_append, List.length_singleton]; omega

/-- The tasks the driver has accounted for: handed back to `complete_io`, outstanding, or
    given up. -/
def accounted (s : DriverState) : List ctsIOTask :=
  s.handedBack.map Prod.fst ++ s.pended ++ s.timers ++ s.dropped

/-- Each task `initiate_io` returned is accounted for once, or is one of `hand`, the tasks
    the running code holds. -/
def TasksAccounted (hand : List ctsIOTask) (s : DriverState) : Prop :=
  s.issued.Perm (s.accounted ++ hand)

section TasksAccounted

variable {env} {hand : List ctsIOTask} {s : DriverState}

/-- A task `initiate_io` returns is in hand. -/
theorem TasksAccounted.initiate (env : DriverEnv) (h : TasksAccounted hand s) :
    TasksAccounted (if (s.initiate env).1.ioAction = .None then hand else (s.initiate env).1 :: hand)
      (s.initiate env).2 := by
  unfold TasksAccounted accounted DriverState.initiate
  dsimp only
  split_ifs
  · exact h
  · refine (h.append_right _).trans (List.perm_iff_count.2 fun a => ?_)
    simp only [accounted, List.count_append, List.count_cons, List.count_nil]
    omega

/-- Handing a task back to `complete_io` accounts for it. -/
theorem TasksAccounted.complete {t : ctsIOTask} {b e : Nat} (h : TasksAccounted (t :: hand) s) :
    TasksAccounted hand (s.complete env t b e).2 := by
  refine h.trans (List.perm_iff_count.2 fun a => ?_)
  simp only [accounted, DriverState.complete, List.map_append, List.map_cons, List.map_nil,
    List.count_append, List.count_cons, List.count_nil]
  omega

theorem TasksAccounted.pend {t : ctsIOTask} (h : TasksAccounted (t :: hand) s) :
    TasksAccounted hand { s with pended := s.pended ++ [t] } := by
  refine h.trans (List.perm_iff_count.2 fun a => ?_)
  simp only [accounted, List.count_append, List.count_cons, List.count_nil]
  omega

theorem TasksAccounted.schedule {t : ctsIOTask} (h : TasksAccounted (t :: hand) s) :
    TasksAccounted hand { s with timers := s.timers ++ [t] } := by
  refine h.trans (List.perm_iff_count.2 fun a => ?_)
  simp only [accounted, List.count_append, List.count_cons, List.count_nil]
  omega

theorem TasksAccounted.drop {t : ctsIOTask} (h : TasksAccounted (t :: hand) s) :
    TasksAccounted hand { s with dropped := s.dropped ++ [t] } := by
  refine h.trans (List.perm_iff_count.2 fun a => ?_)
  simp only [accounted, List.count_append, List.count_cons, List.count_nil]
  omega

end TasksAccounted

/-- The IO count is never below what the outstanding IOs and timers own while code holds
    a count. -/
theorem io_count_pos_of_held (s : DriverState) (h : 1 ≤ s.held) : 0 < s.io_count := by
  simp only [held] at h; omega

end DriverState

/-- The `FAIL_FAST_MSG`s of the drivers on the socket's refcount. Their `unknown
    ctsSocket::IOStatus` ones have no counterpart: `ctsIOStatus` has only its three values. -/
inductive DriverFailFast
  /-- "The ctsSocket (%p) refcount fell to zero while this function was holding a
      reference" -/
  | refcountZeroInLoop
  /-- "The refcount of the ctsSocket object (%p) fell to zero during a scheduled callback" -/
  | refcountZeroInTimer
  deriving DecidableEq, Repr

/-- How a driver call can end without returning: a `FAIL_FAST`, or the model's fuel for the
    loops running out. -/
inductive DriverStop
  | failFast (f : DriverFailFast)
  | outOfFuel
  deriving DecidableEq, Repr

/-- Only tasks with a time offset, those `ctsSendRecvIocp` hands to `set_timer`, were given
    up. -/
def DriverState.DroppedDelayed (s : DriverState) : Prop :=
  ∀ t ∈ s.dropped, 0 < t.time_offset_milliseconds

open DriverState

/-- From `s₀`, entered with the tasks `hand` in hand, to `s`: no state completed, every task
    accounted for, and only delayed tasks given up. -/
structure Settled (hand : List ctsIOTask) (s₀ s : DriverState) : Prop where
  completeStates : s.completeStates = s₀.completeStates
  balanced : TasksAccounted hand s₀ → TasksAccounted [] s
  dropped : s₀.DroppedDelayed → s.DroppedDelayed

/-- A completion callback's first steps: read the IO's result under the lock and hand the
    IO's task back to `complete_io`. -/
theorem Settled.complete_after_read {env : DriverEnv} {t : ctsIOTask} {s s₁ s₂ : DriverState}
    {g tr : Nat} {st : ctsIOStatus} (hv : s.overlappedResult env = ((g, tr), s₁))
    (hc : s₁.complete env t tr g = (st, s₂)) :
    s₂.held = s.held ∧ s₂.timers = s.timers ∧ s₂.dropped = s.dropped ∧ Settled [t] s s₂ := by
  obtain rfl := (congrArg Prod.snd hv).symm.trans (overlappedResult_snd env s)
  obtain rfl : s₂ = _ := (congrArg Prod.snd hc).symm
  exact ⟨rfl, rfl, rfl, rfl, TasksAccounted.complete, id⟩

/-- What the code around a call keeps across it: the counts it holds beyond the outstanding
    IOs and timers, and the rest of `Settled` with nothing in hand. -/
structure Keeps (s s' : DriverState) extends Settled [] s s' : Prop where
  held : s'.held = s.held

theorem Keeps.refl (s : DriverState) : Keeps s s := ⟨⟨rfl, id, id⟩, rfl⟩

theorem Settled.trans {hand : List ctsIOTask} {s₀ s s' : DriverState} (h : Settled hand s₀ s)
    (hk : Keeps s s') : Settled hand s₀ s' :=
  ⟨hk.completeStates.trans h.completeStates, hk.balanced ∘ h.balanced, hk.dropped ∘ h.dropped⟩

theorem Keeps.trans {s₁ s₂ s₃ : DriverState} (h₁ : Keeps s₁ s₂) (h₂ : Keeps s₂ s₃) :
    Keeps s₁ s₃ :=
  ⟨h₁.toSettled.trans h₂, h₂.held.trans h₁.held⟩

/-- `initiate_io` had no task: nothing changed that the loop accounts for. -/
theorem Keeps.initiate_none (env : DriverEnv) {s s₁ : DriverState} {t : ctsIOTask}
    (hi : s.initiate env = (t, s₁)) (hn : t.ioAction = .None) : Keeps s s₁ := by
  have ht : (s.initiate env).1 = t := by rw [hi]
  obtain rfl : s₁ = (s.initiate env).2 := by rw [hi]
  refine ⟨⟨rfl, fun hb => ?_, id⟩, rfl⟩
  have := TasksAccounted.initiate env hb
  rwa [ht, if_pos hn] at this

/-- What a call into the driver does, entered with the tasks `hand` in hand: it ends holding
    `h` counts beyond those its outstanding IOs and timers own, calls `complete_state` once
    if it leaves the IO count at zero and not otherwise, accounts for every task, gives up
    only delayed ones, and never fails fast. -/
def CallSpec (h : Int) (hand : List ctsIOTask) (s : DriverState) :
    Except DriverStop DriverState → Prop
  | .ok s' => s'.held = h ∧
      (∃ c, s'.completeStates = s.completeStates ++ if s'.io_count = 0 then [c] else []) ∧
      (TasksAccounted hand s → TasksAccounted [] s') ∧ (s.DroppedDelayed → s'.DroppedDelayed)
  | .error e => e = .outOfFuel

/-- The end of every driver call: drop the count it held, and complete the state if that
    was the last one. -/
theorem CallSpec.finish {hand : List ctsIOTask} {s₀ s : DriverState} (c : Nat)
    (h : Settled hand s₀ s) :
    CallSpec (s.held - 1) hand s₀ (if s.decrement_io.io_count = 0 then
      pure (s.decrement_io.complete_state c) else pure s.decrement_io) := by
  split_ifs with hz <;> rw [decrement_io_io_count] at hz
  · exact ⟨by simp, ⟨c, by simp [h.completeStates, hz]⟩, h.balanced, h.dropped⟩
  · exact ⟨by simp, ⟨0, by simp [h.completeStates, hz]⟩, h.balanced, h.dropped⟩

/-- A nested call, made with nothing in hand while the caller holds a count, completes no
    state. -/
theorem CallSpec.nested {s s' : DriverState} (hh : 1 ≤ s.held)
    (hs : CallSpec s.held [] s (.ok s')) : Keeps s s' := by
  obtain ⟨h1, ⟨c, h2⟩, hb, hd⟩ := hs
  have := s'.io_count_pos_of_held (by omega)
  exact ⟨⟨by simp [h2, show s'.io_count ≠ 0 by omega], hb, hd⟩, h1⟩

end CtsTraffic
