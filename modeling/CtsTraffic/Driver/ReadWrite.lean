import CtsTraffic.Driver.Socket

/-
  The `WriteFile`/`ReadFile` driver of `ctsReadWriteIocp.cpp`. Unlike `ctsSendRecvIocp` it
  holds no IO count of its own: `io_count` keeps the value the last `increment_io` or
  `decrement_io` of this call returned, `-1` when it made none, and the call completes the
  state only when that value is `0`. Tasks carry no timer here: a time offset is ignored.
-/

namespace CtsTraffic

/-- The locals of `ctsReadWriteIocp` that its loop carries. -/
structure ReadWriteLocals where
  io_count : Int
  io_done : Bool
  io_error : Nat
  deriving DecidableEq, Repr

open DriverState

variable (env : DriverEnv)

/-- What one round of the loop of `ctsReadWriteIocp` does with a task `initiate_io`
    returned, other than `None`: a shutdown, or an IO started with `WriteFile`/`ReadFile`. -/
def readWriteTask (l : ReadWriteLocals) (next_io : ctsIOTask) (s : DriverState) :
    ReadWriteLocals × DriverState :=
  if next_io.ioAction = .GracefulShutdown then
    let ((err, _), s) := s.osCall env
    let io_error := if err ≠ NO_ERROR then err else l.io_error
    let (st, s) := s.complete env next_io 0 io_error
    ({ l with io_error, io_done := st != .ContinueIo }, s)
  else if next_io.ioAction = .HardShutdown then
    let ((err, _), s) := s.osCall env
    let (st, s) := { s with socketValid := false }.complete env next_io 0 err
    ({ l with io_error := err, io_done := st != .ContinueIo }, s)
  else
    let s := s.increment_io
    let l := { l with io_count := s.io_count }
    let (thrown, s) := s.tryAlloc env
    let io_error := thrown.getD l.io_error
    if io_error ≠ NO_ERROR then
      let s := s.decrement_io
      let (st, s) := s.complete env next_io 0 io_error
      ({ io_count := s.io_count, io_error, io_done := st != .ContinueIo }, s)
    else
      let ((err, _), s) := s.osCall env
      let err := if err = ERROR_IO_PENDING then NO_ERROR else err
      if err ≠ NO_ERROR then
        let s := s.decrement_io
        let l := { l with io_count := s.io_count }
        let (st, s) := s.complete env next_io 0 err
        match st with
        | .ContinueIo => ({ l with io_error := NO_ERROR, io_done := false }, s)
        | .CompletedIo => ({ l with io_error := NO_ERROR, io_done := true }, s)
        | .FailedIo => ({ l with io_error := s.lastError env, io_done := true }, s)
      else (l, { s with pended := s.pended ++ [next_io] })

/-- A task keeps the counts the code around the loop holds and is accounted for: handed back
    to `complete_io` or pended; `io_count` is either untouched or the value the last
    `increment_io` or `decrement_io` returned. -/
theorem readWriteTask_spec {l l' : ReadWriteLocals} {t : ctsIOTask} {s s' : DriverState}
    (h : readWriteTask env l t s = (l', s')) :
    s'.held = s.held ∧ s'.completeStates = s.completeStates ∧ s'.timers = s.timers ∧
      s'.dropped = s.dropped ∧ (∀ hand, TasksAccounted (t :: hand) s → TasksAccounted hand s') ∧
      (l'.io_count = l.io_count ∧ s'.io_count = s.io_count ∨ l'.io_count = s'.io_count) := by
  unfold readWriteTask at h
  -- the branches of the task, each ending with the task handed back or pended
  by_cases hg : t.ioAction = .GracefulShutdown
  on_goal 1 => rw [if_pos hg] at h
  on_goal 2 =>
    rw [if_neg hg] at h
    by_cases hh : t.ioAction = .HardShutdown
    on_goal 1 => rw [if_pos hh] at h
    on_goal 2 =>
      rw [if_neg hh] at h
      simp only [tryAlloc] at h
      by_cases he : (env.throws s.increment_io.osCalls).getD l.io_error ≠ NO_ERROR
      on_goal 1 => rw [if_pos he] at h
      on_goal 2 =>
        rw [if_neg he] at h
        simp only [osCall] at h
        split_ifs at h
        all_goals try (simp only [complete] at h; split at h)
  all_goals
    simp only [osCall, complete, increment_io, decrement_io, Prod.mk.injEq] at h
    obtain ⟨rfl, rfl⟩ := h
    exact ⟨by simp only [held, outstanding, List.length_append, List.length_singleton] <;> omega,
      rfl, rfl, rfl, fun hand hb => hb.trans (List.perm_iff_count.2 fun a => by
        simp only [accounted, List.map_append, List.map_cons, List.map_nil, List.count_append,
          List.count_cons, List.count_nil]
        omega), by first | exact .inl ⟨rfl, rfl⟩ | exact .inr rfl⟩

/-- One round of the loop of `ctsReadWriteIocp`: the body of its `while`, from
    `initiate_io` to the next test of the loop condition. -/
def readWriteRound (l : ReadWriteLocals) (s : DriverState) : ReadWriteLocals × DriverState :=
  let (next_io, s) := s.initiate env
  if next_io.ioAction = .None then ({ l with io_done := true }, s)
  else readWriteTask env l next_io s

/-- One round keeps what the code around the loop holds and accounts for the task it took. -/
theorem readWriteRound_spec {l l' : ReadWriteLocals} {s s' : DriverState}
    (h : readWriteRound env l s = (l', s')) :
    Keeps s s' ∧ s'.timers = s.timers ∧ s'.dropped = s.dropped ∧
      (l'.io_count = l.io_count ∧ s'.io_count = s.io_count ∨ l'.io_count = s'.io_count) := by
  simp only [readWriteRound] at h
  rcases hi : s.initiate env with ⟨t, s₁⟩
  rw [hi] at h
  dsimp only at h
  by_cases hn : t.ioAction = .None
  · rw [if_pos hn, Prod.mk.injEq] at h
    obtain ⟨rfl, rfl⟩ := h
    refine ⟨Keeps.initiate_none env hi hn, ?_⟩
    obtain rfl : s₁ = (s.initiate env).2 := by rw [hi]
    exact ⟨rfl, rfl, .inl ⟨rfl, rfl⟩⟩
  rw [if_neg hn] at h
  have ht : (s.initiate env).1 = t := by rw [hi]
  obtain rfl : s₁ = (s.initiate env).2 := by rw [hi]
  obtain ⟨hh, hc, htm, hd, hb, hio⟩ := readWriteTask_spec env h
  refine ⟨⟨⟨hc, fun h₀ => hb [] ?_, fun h₀ u hu => h₀ u (hd ▸ hu)⟩, hh⟩, htm, hd, hio⟩
  have := TasksAccounted.initiate env h₀
  rwa [ht, if_neg hn] at this

/-- The loop of `ctsReadWriteIocp`, with `fuel` bounding its rounds. -/
def readWriteLoop : Nat → ReadWriteLocals → DriverState →
    Except DriverStop (ReadWriteLocals × DriverState)
  | 0, _, _ => .error .outOfFuel
  | fuel + 1, l, s =>
    if !(!l.io_done ∧ l.io_error = NO_ERROR) then .ok (l, s)
    else
      let (l, s) := readWriteRound env l s
      readWriteLoop fuel l s

/-- What the loop's `io_count` says after some rounds: untouched, or the value the last
    `increment_io` or `decrement_io` returned. -/
def IoCountTracks (l : ReadWriteLocals) (s : DriverState) (l' : ReadWriteLocals)
    (s' : DriverState) : Prop :=
  l'.io_count = l.io_count ∧ s'.io_count = s.io_count ∨ l'.io_count = s'.io_count

theorem IoCountTracks.trans {l₁ l₂ l₃ : ReadWriteLocals} {s₁ s₂ s₃ : DriverState}
    (h₁ : IoCountTracks l₁ s₁ l₂ s₂) (h₂ : IoCountTracks l₂ s₂ l₃ s₃) :
    IoCountTracks l₁ s₁ l₃ s₃ := by
  unfold IoCountTracks at *; omega

/-- What a run of the loop keeps, and that it stops only by running out of fuel. -/
def ReadWriteLoopSpec (l : ReadWriteLocals) (s : DriverState) :
    Except DriverStop (ReadWriteLocals × DriverState) → Prop
  | .ok (l', s') => Keeps s s' ∧ s'.timers = s.timers ∧ s'.dropped = s.dropped ∧
      IoCountTracks l s l' s'
  | .error e => e = .outOfFuel

theorem readWriteLoop_spec :
    ∀ fuel l s, ReadWriteLoopSpec l s (readWriteLoop env fuel l s)
  | 0, _, _ => rfl
  | fuel + 1, l, s => by
    rw [readWriteLoop]
    split_ifs
    · exact ⟨Keeps.refl s, rfl, rfl, .inl ⟨rfl, rfl⟩⟩
    rcases hr : readWriteRound env l s with ⟨l₁, s₁⟩
    obtain ⟨hk, ht, hd, hc⟩ := readWriteRound_spec env hr
    have ih := readWriteLoop_spec fuel l₁ s₁
    dsimp only
    revert ih
    rcases readWriteLoop env fuel l₁ s₁ with e | ⟨l', s'⟩
    · exact id
    · rintro ⟨hk', ht', hd', hc'⟩
      exact ⟨hk.trans hk', ht'.trans ht, hd'.trans hd, IoCountTracks.trans hc hc'⟩

/-- What a call into `ctsReadWriteIocp`'s code does, entered with the tasks `hand` in hand:
    it ends holding `h` counts beyond those its outstanding IOs own, calls `complete_state`
    at most once and only if it leaves the IO count at zero, accounts for every task,
    schedules no timer, gives up no task, and never fails fast. -/
def ReadWriteCallSpec (h : Int) (hand : List ctsIOTask) (s : DriverState) :
    Except DriverStop DriverState → Prop
  | .ok s' => s'.held = h ∧
      (s'.completeStates = s.completeStates ∨
        s'.io_count = 0 ∧ ∃ c, s'.completeStates = s.completeStates ++ [c]) ∧
      (TasksAccounted hand s → TasksAccounted [] s') ∧ s'.timers = s.timers ∧ s'.dropped = s.dropped
  | .error e => e = .outOfFuel

/-- A nested call, made while the caller holds a count, completes no state. -/
theorem ReadWriteCallSpec.nested {s s' : DriverState} (hh : 1 ≤ s.held)
    (hs : ReadWriteCallSpec s.held [] s (.ok s')) :
    Keeps s s' ∧ s'.timers = s.timers ∧ s'.dropped = s.dropped := by
  obtain ⟨h1, hc, hb, ht, hd⟩ := hs
  have := s'.io_count_pos_of_held (by omega)
  refine ⟨⟨⟨?_, hb, fun hd' u hu => hd' u (hd ▸ hu)⟩, h1⟩, ht, hd⟩
  rcases hc with hc | ⟨hz, -⟩
  · exact hc
  · omega

/-- `ctsReadWriteIocp`, the driver's `io_fn`. -/
def ctsReadWriteIocp (fuel : Nat) (s : DriverState) : Except DriverStop DriverState := do
  let (l, s) ← if s.socketValid then readWriteLoop env fuel ⟨-1, false, NO_ERROR⟩ s
    else pure (⟨-1, false, WSAECONNABORTED⟩, s)
  if l.io_count = 0 then pure (s.complete_state l.io_error) else pure s

/-- `ctsReadWriteIocp` keeps the counts its caller holds; it completes the state only when
    its last `increment_io` or `decrement_io` returned zero, and so never when it made
    none. -/
theorem ctsReadWriteIocp_spec (fuel : Nat) (s : DriverState) :
    ReadWriteCallSpec s.held [] s (ctsReadWriteIocp env fuel s) := by
  unfold ctsReadWriteIocp
  have hl := readWriteLoop_spec env fuel ⟨-1, false, NO_ERROR⟩ s
  split
  · revert hl
    rcases readWriteLoop env fuel ⟨-1, false, NO_ERROR⟩ s with e | ⟨l', s'⟩
    · exact id
    · rintro ⟨hk, ht, hd, hc⟩
      dsimp only [bind, Except.bind, pure, Except.pure]
      split_ifs with hz
      · refine ⟨by simp [hk.held], .inr ⟨?_, l'.io_error, by simp [hk.completeStates]⟩,
          hk.balanced, ht, hd⟩
        rcases hc with ⟨hc, -⟩ | hc
        · simp at hc hz; omega
        · simpa [← hc] using hz
      · exact ⟨hk.held, .inl hk.completeStates, hk.balanced, ht, hd⟩
  · exact ⟨rfl, .inl rfl, id, rfl, rfl⟩

/-- The end of a call: drop the count it held, and complete the state if that was the last
    one. -/
theorem ReadWriteCallSpec.finish {hand : List ctsIOTask} {s₀ s : DriverState} (c : Nat)
    (h : Settled hand s₀ s) (ht : s.timers = s₀.timers) (hd : s.dropped = s₀.dropped) :
    ReadWriteCallSpec (s.held - 1) hand s₀ (if s.decrement_io.io_count = 0 then
      pure (s.decrement_io.complete_state c) else pure s.decrement_io) := by
  split_ifs with hz
  · exact ⟨by simp, .inr ⟨hz, c, by simp [h.completeStates]⟩, h.balanced, ht, hd⟩
  · exact ⟨by simp, .inl h.completeStates, h.balanced, ht, hd⟩

/-- `ctsReadWriteIocpIoCompletionCallback`, the completion of `io_task`. -/
def ctsReadWriteIocpIoCompletionCallback (fuel : Nat) (io_task : ctsIOTask) (s : DriverState) :
    Except DriverStop DriverState := do
  let ((gle, transferred), s) := s.overlappedResult env
  let (st, s) := s.complete env io_task transferred gle
  let (readwrite_status, s) ← match st with
    | .ContinueIo => do
      let s ← ctsReadWriteIocp env fuel s
      pure (NO_ERROR, s)
    | .CompletedIo => pure (NO_ERROR, s)
    | .FailedIo => pure (s.lastError env, s)
  let s := s.decrement_io
  if s.io_count = 0 then pure (s.complete_state readwrite_status) else pure s

/-- The completion callback gives back the count of the IO it completes and hands its task
    back. -/
theorem ctsReadWriteIocpIoCompletionCallback_spec (fuel : Nat) (t : ctsIOTask) (s : DriverState)
    (hs : 1 ≤ s.held) :
    ReadWriteCallSpec (s.held - 1) [t] s (ctsReadWriteIocpIoCompletionCallback env fuel t s) := by
  unfold ctsReadWriteIocpIoCompletionCallback
  rcases hv : s.overlappedResult env with ⟨⟨g, tr⟩, s₁⟩
  dsimp only
  rcases hc : s₁.complete env t tr g with ⟨st, s₂⟩
  obtain ⟨h2, ht2, hd2, hset⟩ := Settled.complete_after_read hv hc
  dsimp only
  cases st
  · simp only [bind_assoc, pure_bind]
    have hn := ctsReadWriteIocp_spec env fuel s₂
    revert hn
    rcases ctsReadWriteIocp env fuel s₂ with e | s₃
    · exact id
    · intro hn
      obtain ⟨hk, ht3, hd3⟩ := hn.nested (by omega)
      rw [← h2, ← hk.held]
      exact ReadWriteCallSpec.finish _ (hset.trans hk) (ht3.trans ht2) (hd3.trans hd2)
  · rw [← h2]; exact ReadWriteCallSpec.finish _ hset ht2 hd2
  · rw [← h2]; exact ReadWriteCallSpec.finish _ hset ht2 hd2

end CtsTraffic
