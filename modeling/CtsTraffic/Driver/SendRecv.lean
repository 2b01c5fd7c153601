import CtsTraffic.Driver.Socket

/-
  The `WSASend`/`WSARecv` driver of `ctsSendRecvIocp.cpp`. `ctsSendRecvIocp` holds one IO
  count of its own while it loops over `initiate_io`, counts each task, and either schedules
  it through `set_timer` (the timer callback runs it later) or runs it at once with
  `ctsProcessIOTask`. The last one to drop the IO count calls `complete_state`.

  Each function runs to its end as one step: the loop holds the socket lock, and a
  completion's callback is delivered as an event of its own (`Driver.Events`).
-/

namespace CtsTraffic

/-- `ctsSendRecvStatus`. -/
structure ctsSendRecvStatus where
  ioErrorcode : Nat := NO_ERROR
  ioDone : Bool := false
  ioStarted : Bool := false
  deriving DecidableEq, Repr

open DriverState

variable (env : DriverEnv)

/-- `ctsProcessIOTask`: run one task, handing it back to `complete_io` unless an IO was
    started, whose completion the thread pool delivers later. `socketValid` is the socket the
    caller read under the lock. -/
def ctsProcessIOTask (socketValid : Bool) (next_io : ctsIOTask) (s : DriverState) :
    ctsSendRecvStatus × DriverState :=
  if !socketValid then
    let (_, s) := s.complete env next_io 0 WSAECONNABORTED
    (⟨WSAECONNABORTED, true, false⟩, s)
  else if next_io.ioAction = .GracefulShutdown then
    let ((err, _), s) := s.osCall env
    let (st, s) := s.complete env next_io 0 err
    (⟨err, st != .ContinueIo, false⟩, s)
  else if next_io.ioAction = .HardShutdown then
    let ((err, _), s) := s.osCall env
    let (st, s) := { s with socketValid := false }.complete env next_io 0 err
    (⟨err, st != .ContinueIo, false⟩, s)
  else
    let (thrown, s) := s.tryAlloc env
    match thrown with
    | some code =>
      let (st, s) := s.complete env next_io 0 code
      (⟨code, st != .ContinueIo, false⟩, s)
    | none =>
      let ((err, bytes), s) := s.osCall env
      if err = WSA_IO_PENDING ∨ (err = NO_ERROR ∧ env.HANDLE_INLINE_IOCP = false) then
        (⟨NO_ERROR, false, true⟩, { s with pended := s.pended ++ [next_io] })
      else
        let (st, s) := s.complete env next_io (if err = NO_ERROR then bytes else 0) err
        match st with
        | .ContinueIo => (⟨NO_ERROR, false, false⟩, s)
        | .CompletedIo => (⟨NO_ERROR, true, false⟩, s)
        | .FailedIo => (⟨s.lastError env, true, false⟩, s)

/-- What `ctsProcessIOTask` can do: hand the task back to `complete_io`, or pend the IO it
    started; before that it only makes OS calls and may mark the socket invalid. -/
theorem ctsProcessIOTask_cases {v : Bool} {t : ctsIOTask} {s s' : DriverState}
    {st : ctsSendRecvStatus} (h : ctsProcessIOTask env v t s = (st, s')) :
    (st.ioStarted = false ∧ ∃ n sv b e,
      s' = ({ s with osCalls := n, socketValid := sv }.complete env t b e).2) ∨
    (st.ioStarted = true ∧ ∃ n, s' = { s with osCalls := n, pended := s.pended ++ [t] }) := by
  unfold ctsProcessIOTask at h
  by_cases hv : (!v) = true
  · rw [if_pos hv] at h
    cases h; exact .inl ⟨rfl, _, _, _, _, rfl⟩
  rw [if_neg hv] at h
  by_cases hg : t.ioAction = .GracefulShutdown
  · rw [if_pos hg] at h
    cases h; exact .inl ⟨rfl, _, _, _, _, rfl⟩
  rw [if_neg hg] at h
  by_cases hh : t.ioAction = .HardShutdown
  · rw [if_pos hh] at h
    cases h; exact .inl ⟨rfl, _, _, _, _, rfl⟩
  rw [if_neg hh] at h
  rcases hth : env.throws s.osCalls with _ | code <;> simp only [tryAlloc, hth] at h
  · -- the allocation succeeded: the OS call pends the IO or completes it at once
    simp only [osCall] at h
    by_cases hp : (env.os (s.osCalls + 1)).1 = WSA_IO_PENDING ∨
        ((env.os (s.osCalls + 1)).1 = NO_ERROR ∧ env.HANDLE_INLINE_IOCP = false)
    · rw [if_pos hp] at h
      cases h; exact .inr ⟨rfl, _, rfl⟩
    · rw [if_neg hp] at h
      split at h <;> (cases h; exact .inl ⟨rfl, _, _, _, _, rfl⟩)
  · cases h; exact .inl ⟨rfl, _, _, _, _, rfl⟩

/-- `ctsProcessIOTask` moves no IO count, completes no state and gives up no task: it pends
    the IO it starts and hands any other task back to `complete_io`. -/
theorem ctsProcessIOTask_spec {v : Bool} {t : ctsIOTask} {s s' : DriverState}
    {st : ctsSendRecvStatus} (h : ctsProcessIOTask env v t s = (st, s')) :
    s'.io_count = s.io_count ∧ s'.completeStates = s.completeStates ∧ s'.timers = s.timers ∧
      s'.dropped = s.dropped ∧ s'.pended = (if st.ioStarted then s.pended ++ [t] else s.pended) ∧
      ∀ hand, TasksAccounted (t :: hand) s → TasksAccounted hand s' := by
  rcases ctsProcessIOTask_cases env h with ⟨hst, n, sv, b, e, rfl⟩ | ⟨hst, n, rfl⟩
  · exact ⟨rfl, rfl, rfl, rfl, by rw [hst]; rfl,
      fun _ hb => TasksAccounted.complete (s := { s with osCalls := n, socketValid := sv }) hb⟩
  · exact ⟨rfl, rfl, rfl, rfl, by rw [hst]; rfl,
      fun _ hb => TasksAccounted.pend (s := { s with osCalls := n }) hb⟩

/-- `ctsProcessIOTask` hands one held count to the IO it starts. -/
theorem ctsProcessIOTask_held {v : Bool} {t : ctsIOTask} {s s' : DriverState}
    {st : ctsSendRecvStatus} (h : ctsProcessIOTask env v t s = (st, s')) :
    s'.held = s.held - if st.ioStarted then 1 else 0 := by
  rcases ctsProcessIOTask_cases env h with ⟨hst, n, sv, b, e, rfl⟩ | ⟨hst, n, rfl⟩
  · rw [hst, if_neg Bool.false_ne_true, Int.sub_zero]; rfl
  · rw [hst, if_pos rfl]; exact held_pend { s with osCalls := n } t

/-- What the loop of `ctsSendRecvIocp` does with one counted task: `set_timer` for a task
    with a time offset (its allocation may throw), `ctsProcessIOTask` for any other. -/
def scheduleOrProcess (socketValid : Bool) (status : ctsSendRecvStatus) (next_io : ctsIOTask)
    (s : DriverState) : ctsSendRecvStatus × DriverState :=
  if next_io.time_offset_milliseconds > 0 then
    let (thrown, s) := s.tryAlloc env
    match thrown with
    | none =>
      ({ status with ioStarted := true, ioDone := true }, { s with timers := s.timers ++ [next_io] })
    | some code =>
      ({ status with ioErrorcode := code, ioStarted := false },
        { s with dropped := s.dropped ++ [next_io] })
  else ctsProcessIOTask env socketValid next_io s

/-- Scheduling or starting the task gives it the count its caller took for it, or gives the
    count and the task up when `set_timer` throws. -/
theorem scheduleOrProcess_spec {v : Bool} {t : ctsIOTask} {s s' : DriverState}
    {st st' : ctsSendRecvStatus} (h : scheduleOrProcess env v st t s = (st', s')) :
    s'.held = s.held - (if st'.ioStarted then 1 else 0) ∧ s'.completeStates = s.completeStates ∧
      (∀ hand, TasksAccounted (t :: hand) s → TasksAccounted hand s') ∧
      (s.DroppedDelayed → s'.DroppedDelayed) := by
  simp only [scheduleOrProcess] at h
  split_ifs at h with hdelay
  · simp only [tryAlloc] at h
    split at h <;> simp only [Prod.mk.injEq] at h <;> obtain ⟨rfl, rfl⟩ := h
    · exact ⟨held_schedule _ t, rfl, fun _ hb => hb.schedule, id⟩
    · refine ⟨by simp; rfl, rfl, fun _ hb => hb.drop, fun hd u hu => ?_⟩
      rcases List.mem_append.1 hu with hu | hu
      · exact hd u hu
      · rw [List.mem_singleton.1 hu]; exact hdelay
  · obtain ⟨-, h2, -, h4, -, hb⟩ := ctsProcessIOTask_spec env h
    exact ⟨ctsProcessIOTask_held env h, h2, hb, fun hd u hu => hd u (h4 ▸ hu)⟩

/-- The loop of `ctsSendRecvIocp`, with `fuel` bounding its rounds. -/
def sendRecvLoop (socketValid : Bool) :
    Nat → ctsSendRecvStatus → DriverState → Except DriverStop (ctsSendRecvStatus × DriverState)
  | 0, _, _ => .error .outOfFuel
  | fuel + 1, status, s =>
    if status.ioDone then .ok (status, s)
    else
      let (next_io, s) := s.initiate env
      if next_io.ioAction = .None then .ok (status, s)
      else
        let (status, s) := scheduleOrProcess env socketValid status next_io s.increment_io
        if !status.ioStarted then
          let s := s.decrement_io
          if s.io_count = 0 then .error (.failFast .refcountZeroInLoop)
          else sendRecvLoop socketValid fuel status s
        else sendRecvLoop socketValid fuel status s

/-- What a run of the loop keeps, and that it stops only by running out of fuel. -/
def LoopSpec (s : DriverState) : Except DriverStop (ctsSendRecvStatus × DriverState) → Prop
  | .ok (_, s') => Keeps s s'
  | .error e => e = .outOfFuel

theorem LoopSpec.of_keeps {s s' : DriverState}
    {r : Except DriverStop (ctsSendRecvStatus × DriverState)} (h : LoopSpec s' r)
    (hk : Keeps s s') : LoopSpec s r := by
  rcases r with e | ⟨_, s''⟩
  · exact h
  · exact hk.trans h

/-- One counted task: `initiate_io` gave it, `scheduleOrProcess` took it, and the loop gave
    its count back unless it started. -/
theorem Keeps.of_task {s s₁ s₂ : DriverState} {t : ctsIOTask} {started : Bool}
    (hi : s.initiate env = (t, s₁)) (hn : t.ioAction ≠ .None)
    (h₂ : s₂.held = s₁.increment_io.held - (if started then 1 else 0) ∧
      s₂.completeStates = s₁.increment_io.completeStates ∧
      (∀ hand, TasksAccounted (t :: hand) s₁.increment_io → TasksAccounted hand s₂) ∧
      (s₁.increment_io.DroppedDelayed → s₂.DroppedDelayed)) :
    Keeps s (if started then s₂ else s₂.decrement_io) := by
  have hb : TasksAccounted [] s → TasksAccounted [t] s₁ := fun hb => by
    have := TasksAccounted.initiate env hb
    rw [hi] at this
    simpa only [if_neg hn] using this
  obtain ⟨h₁, h₁'⟩ : s₁.held = s.held ∧ s₁.completeStates = s.completeStates := by
    rw [← initiate_held env s, ← initiate_completeStates env s, hi]; exact ⟨rfl, rfl⟩
  have hd : s.DroppedDelayed → s₁.DroppedDelayed := by
    have : s₁.dropped = s.dropped := by
      rw [show s₁ = (s.initiate env).2 by rw [hi]]; rfl
    exact fun hd u hu => hd u (this ▸ hu)
  obtain ⟨h2, h2', hb2, hd2⟩ := h₂
  simp only [increment_io_held, increment_io_completeStates] at h2 h2'
  cases started
  · exact ⟨⟨by simp [h2', h₁'], fun h => hb2 [] (hb h), fun h => hd2 (hd h)⟩, by simp [h2, h₁]⟩
  · exact ⟨⟨by simp [h2', h₁'], fun h => hb2 [] (hb h), fun h => hd2 (hd h)⟩, by simp [h2, h₁]⟩

/-- The loop never fails fast while its caller holds a count: every task not started gives
    its count back, and one held count stays above the outstanding IOs and timers. -/
theorem sendRecvLoop_spec (v : Bool) :
    ∀ fuel status s, 1 ≤ s.held → LoopSpec s (sendRecvLoop env v fuel status s)
  | 0, _, _, _ => rfl
  | fuel + 1, status, s, hs => by
    rw [sendRecvLoop]
    split_ifs with hd
    · exact Keeps.refl s
    rcases hi : s.initiate env with ⟨t, s₁⟩
    dsimp only
    rcases hp : scheduleOrProcess env v status t s₁.increment_io with ⟨st, s₂⟩
    dsimp only
    by_cases hn : t.ioAction = .None
    · rw [if_pos hn]
      exact Keeps.initiate_none env hi hn
    rw [if_neg hn]
    have hk := Keeps.of_task env hi hn (scheduleOrProcess_spec env hp)
    cases hst : st.ioStarted <;>
      simp only [hst, Bool.not_false, Bool.not_true, if_true, if_false, Bool.false_eq_true] at hk ⊢
    · split_ifs with hz
      · have := io_count_pos_of_held s₂.decrement_io (by rw [hk.held]; exact hs)
        omega
      · exact (sendRecvLoop_spec v fuel st _ (by rw [hk.held]; exact hs)).of_keeps hk
    · exact (sendRecvLoop_spec v fuel st _ (by rw [hk.held]; exact hs)).of_keeps hk

/-- `ctsSendRecvIocp`, the driver's `io_fn`. -/
def ctsSendRecvIocp (fuel : Nat) (s : DriverState) : Except DriverStop DriverState := do
  let (status, s) ← sendRecvLoop env s.socketValid fuel {} s.increment_io
  let s := s.decrement_io
  if s.io_count = 0 then pure (s.complete_state status.ioErrorcode) else pure s

/-- `ctsSendRecvIocp` gives back the count it takes, and completes the state exactly when
    it leaves the IO count at zero. -/
theorem ctsSendRecvIocp_spec (fuel : Nat) (s : DriverState) (hs : 0 ≤ s.held) :
    CallSpec s.held [] s (ctsSendRecvIocp env fuel s) := by
  have hl := sendRecvLoop_spec env s.socketValid fuel {} s.increment_io (by simp; omega)
  unfold ctsSendRecvIocp
  revert hl
  rcases sendRecvLoop env s.socketValid fuel {} s.increment_io with e | ⟨st, s₁⟩
  · exact id
  · intro hk
    have h₁ := hk.held
    rw [increment_io_held] at h₁
    rw [show s.held = s₁.held - 1 by omega]
    exact CallSpec.finish _ ((⟨rfl, id, id⟩ : Settled [] s s.increment_io).trans hk)

/-- A nested `ctsSendRecvIocp` followed by the end of the call around it. -/
theorem CallSpec.after_nested {hand : List ctsIOTask} {s₀ s : DriverState} (fuel c : Nat)
    (hs : 1 ≤ s.held) (h : Settled hand s₀ s) :
    CallSpec (s.held - 1) hand s₀ (ctsSendRecvIocp env fuel s >>= fun y =>
      if y.decrement_io.io_count = 0 then pure (y.decrement_io.complete_state c)
      else pure y.decrement_io) := by
  have hn := ctsSendRecvIocp_spec env fuel s (by omega)
  revert hn
  rcases ctsSendRecvIocp env fuel s with e | s'
  · exact id
  · intro hn
    have hk := hn.nested hs
    rw [← hk.held]
    exact CallSpec.finish c (h.trans hk)

/-- The end of a callback: a nested `ctsSendRecvIocp` unless the task finished the IO, then
    the end of the call. -/
theorem CallSpec.tail {hand : List ctsIOTask} {s₀ s : DriverState} (fuel c : Nat) (done : Bool)
    (hs : 1 ≤ s.held) (h : Settled hand s₀ s) :
    CallSpec (s.held - 1) hand s₀ (if (!done) = true then ctsSendRecvIocp env fuel s >>= fun y =>
        if y.decrement_io.io_count = 0 then pure (y.decrement_io.complete_state c)
        else pure y.decrement_io
      else if s.decrement_io.io_count = 0 then pure (s.decrement_io.complete_state c)
        else pure s.decrement_io) := by
  cases done
  · exact CallSpec.after_nested env fuel c hs h
  · exact CallSpec.finish c h

/-- `ctsProcessIOTaskCallback`, the timer callback for `next_io`. -/
def ctsProcessIOTaskCallback (fuel : Nat) (next_io : ctsIOTask) (s : DriverState) :
    Except DriverStop DriverState := do
  let (status, s) := ctsProcessIOTask env s.socketValid next_io s.increment_io
  let s ← if !status.ioStarted then
      if s.decrement_io.io_count = 0 then throw (.failFast .refcountZeroInTimer)
      else pure s.decrement_io
    else pure s
  let s ← if !status.ioDone then ctsSendRecvIocp env fuel s else pure s
  let s := s.decrement_io
  if s.io_count = 0 then pure (s.complete_state status.ioErrorcode) else pure s

/-- The timer callback gives back the count of the task it ran, and accounts for the task. -/
theorem ctsProcessIOTaskCallback_spec (fuel : Nat) (t : ctsIOTask) (s : DriverState)
    (hs : 1 ≤ s.held) :
    CallSpec (s.held - 1) [t] s (ctsProcessIOTaskCallback env fuel t s) := by
  unfold ctsProcessIOTaskCallback
  rcases hp : ctsProcessIOTask env s.socketValid t s.increment_io with ⟨st, s₁⟩
  obtain ⟨-, h1', -, hd1, -, hb1⟩ := ctsProcessIOTask_spec env hp
  have hset : Settled [t] s s₁ :=
    ⟨h1', hb1 [], fun hd u hu => hd u (hd1 ▸ hu)⟩
  have hheld : s₁.held = s.held + 1 - if st.ioStarted then 1 else 0 := by
    rw [ctsProcessIOTask_held env hp, increment_io_held]
  dsimp only
  cases hst : st.ioStarted <;> simp only [hst, if_true, if_false, Bool.false_eq_true] at hheld <;>
    simp only [Bool.not_false, Bool.not_true, if_true, if_false, Bool.false_eq_true, ↓reduceIte]
  · have hz : s₁.decrement_io.io_count ≠ 0 := by
      have := io_count_pos_of_held s₁.decrement_io (by simp; omega)
      omega
    simp only [hz, if_false, pure_bind]
    have h2 : s₁.decrement_io.held = s.held := by simp; omega
    rw [← h2]
    exact CallSpec.tail env fuel _ _ (by omega) ⟨by simpa using h1', hb1 [], hset.dropped⟩
  · simp only [pure_bind]
    rw [show s.held = s₁.held by omega]
    exact CallSpec.tail env fuel _ _ (by omega) hset

/-- `ctsIoCompletionCallback`, the completion of `io_task`. -/
def ctsIoCompletionCallback (fuel : Nat) (io_task : ctsIOTask) (s : DriverState) :
    Except DriverStop DriverState := do
  let ((gle, transferred), s) := s.overlappedResult env
  let (st, s) := s.complete env io_task transferred gle
  let (gle, s) ← match st with
    | .ContinueIo => do
      let s ← ctsSendRecvIocp env fuel s
      pure (gle, s)
    | .CompletedIo => pure (NO_ERROR, s)
    | .FailedIo => pure (s.lastError env, s)
  let s := s.decrement_io
  if s.io_count = 0 then pure (s.complete_state gle) else pure s

/-- The completion callback gives back the count of the IO it completes, and hands the IO's
    task back. -/
theorem ctsIoCompletionCallback_spec (fuel : Nat) (t : ctsIOTask) (s : DriverState)
    (hs : 1 ≤ s.held) : CallSpec (s.held - 1) [t] s (ctsIoCompletionCallback env fuel t s) := by
  unfold ctsIoCompletionCallback
  rcases hv : s.overlappedResult env with ⟨⟨g, tr⟩, s₁⟩
  dsimp only
  rcases hc : s₁.complete env t tr g with ⟨st, s₂⟩
  obtain ⟨h2, -, -, hset⟩ := Settled.complete_after_read hv hc
  dsimp only
  cases st
  · simp only [bind_assoc, pure_bind]
    rw [← h2]; exact CallSpec.after_nested env fuel g (by omega) hset
  · rw [← h2]; exact CallSpec.finish _ hset
  · rw [← h2]; exact CallSpec.finish _ hset

end CtsTraffic
