import CtsTraffic.Driver.ReadWriteThreads
import CtsTraffic.Driver.Serialized

/-
  The runs of `Driver.Events` under `ctsReadWriteIocp` are interleavings of
  `Driver.ReadWriteThreads`, as `Driver.Serialized` has it for `ctsSendRecvIocp`: a call of
  `ctsReadWriteIocp` or `ctsReadWriteIocpIoCompletionCallback` that returns is the steps of its
  frames, and between two calls of a serial run no thread is running, so no step waits for the
  socket lock.

  Proved:
  * `readWriteTask_runs`, `readWriteLoop_runs`, `ReadWriteCallContext.ctsReadWriteIocp_runs`,
    `ctsReadWriteIocpIoCompletionCallback_runs`: what each function returns is where the steps
    of its frames lead.
  * `readWrite_phase_interleaving`: every serial run of the phase ends where an interleaving
    ends with every thread returned.
-/

namespace CtsTraffic

open DriverState

variable {env : DriverEnv}

/-! ## Steps of one call -/

/-- Steps of a call of `ctsReadWriteIocp` that do not return. -/
inductive ReadWriteFrame.Runs (env : DriverEnv) :
    ReadWriteFrame → DriverState → ReadWriteFrame → DriverState → Prop
  | refl (f : ReadWriteFrame) (s : DriverState) : Runs env f s f s
  | step {f f₁ f' : ReadWriteFrame} {s s₁ s' : DriverState} :
      f.step env s = (some f₁, s₁) → Runs env f₁ s₁ f' s' → Runs env f s f' s'

/-- Steps of one thread. -/
inductive ReadWriteThread.Runs (env : DriverEnv) :
    ReadWriteThread → DriverState → ReadWriteThread → DriverState → Prop
  | refl (th : ReadWriteThread) (s : DriverState) : Runs env th s th s
  | step {th th₁ th' : ReadWriteThread} {s s₁ s' : DriverState} : th ≠ .finished →
      th.step env s = (th₁, s₁) → Runs env th₁ s₁ th' s' → Runs env th s th' s'

theorem ReadWriteFrame.Runs.trans {f₁ f₂ f₃ : ReadWriteFrame} {s₁ s₂ s₃ : DriverState}
    (h₁ : Runs env f₁ s₁ f₂ s₂) (h₂ : Runs env f₂ s₂ f₃ s₃) : Runs env f₁ s₁ f₃ s₃ := by
  induction h₁ with
  | refl => exact h₂
  | step hs _ ih => exact .step hs (ih h₂)

namespace ReadWriteThread.Runs

theorem trans {th₁ th₂ th₃ : ReadWriteThread} {s₁ s₂ s₃ : DriverState}
    (h₁ : Runs env th₁ s₁ th₂ s₂) (h₂ : Runs env th₂ s₂ th₃ s₃) : Runs env th₁ s₁ th₃ s₃ := by
  induction h₁ with
  | refl => exact h₂
  | step hne hs _ ih => exact .step hne hs (ih h₂)

theorem single {th th' : ReadWriteThread} {s s' : DriverState} (hne : th ≠ .finished)
    (hs : th.step env s = (th', s')) : Runs env th s th' s' :=
  .step hne hs (.refl _ _)

end ReadWriteThread.Runs

/-- An IO the loop starts, as the steps of its frames from the `increment_io` to the head of the
    loop: the IO is pended, or its count is given back and its task handed back to
    `complete_io`. -/
theorem readWriteTask_runs {l l' : ReadWriteLocals} {t : ctsIOTask} {s s' : DriverState}
    (hg : t.ioAction ≠ .GracefulShutdown) (hh : t.ioAction ≠ .HardShutdown)
    (h : readWriteTask env l t s = (l', s')) :
    ReadWriteFrame.Runs env (.count l t) s (.head l') s' := by
  rw [readWriteTask, if_neg hg, if_neg hh] at h
  dsimp only at h
  rcases ha : s.increment_io.tryAlloc env with ⟨thrown, s₂⟩
  rw [ha] at h
  dsimp only at h
  let l₁ : ReadWriteLocals := { l with io_count := s.increment_io.io_count }
  have hcount : (ReadWriteFrame.count l t).step env s =
      (some (.start l₁ t), s.increment_io) := rfl
  refine .step hcount ?_
  by_cases he : thrown.getD l.io_error ≠ NO_ERROR
  · -- the thread pool threw: the count is given back and the task handed back
    rw [if_pos he] at h
    rcases hc : s₂.decrement_io.complete env t 0 (thrown.getD l.io_error) with ⟨st, s₃⟩
    rw [hc] at h
    obtain ⟨rfl, rfl⟩ := Prod.mk.inj h
    have hstart : (ReadWriteFrame.start l₁ t).step env s.increment_io =
        (some (.uncount l₁ t true (thrown.getD l.io_error)), s₂) := by
      rw [ReadWriteFrame.step, ha]
      dsimp only
      rw [if_pos he]
    have hio : s₃.io_count = s₂.decrement_io.io_count := by
      rw [← complete_io_count env s₂.decrement_io t 0 (thrown.getD l.io_error), hc]
    have hfail : (ReadWriteFrame.fail { l₁ with io_count := s₂.decrement_io.io_count } t true
        (thrown.getD l.io_error)).step env s₂.decrement_io =
        (some (.head ⟨s₃.io_count, st != .ContinueIo, thrown.getD l.io_error⟩), s₃) := by
      rw [ReadWriteFrame.step, hc, hio]
      rfl
    exact .step hstart (.step rfl (.step hfail (.refl _ _)))
  rw [if_neg he] at h
  rcases ho : s₂.osCall env with ⟨⟨err, x⟩, s₃⟩
  rw [ho] at h
  dsimp only at h
  have hstart : (ReadWriteFrame.start l₁ t).step env s.increment_io =
      if (if err = ERROR_IO_PENDING then NO_ERROR else err) ≠ NO_ERROR then
        (some (.uncount l₁ t false (if err = ERROR_IO_PENDING then NO_ERROR else err)), s₃)
      else (some (.head l₁), { s₃ with pended := s₃.pended ++ [t] }) := by
    rw [ReadWriteFrame.step, ha]
    dsimp only
    rw [if_neg he, ho]
  by_cases herr : (if err = ERROR_IO_PENDING then NO_ERROR else err) ≠ NO_ERROR
  · -- the IO did not start: the count is given back and the task handed back
    rw [if_pos herr] at h hstart
    rcases hc : s₃.decrement_io.complete env t 0
      (if err = ERROR_IO_PENDING then NO_ERROR else err) with ⟨st, s₄⟩
    rw [hc] at h
    refine .step hstart (.step rfl ?_)
    cases st <;> obtain ⟨rfl, rfl⟩ := Prod.mk.inj h <;>
      exact .step (by rw [ReadWriteFrame.step, hc]; rfl) (.refl _ _)
  · -- the IO started and is pended
    rw [if_neg herr] at h hstart
    obtain ⟨rfl, rfl⟩ := Prod.mk.inj h
    exact .step hstart (.refl _ _)

/-- One round of the loop of `ctsReadWriteIocp`, as the steps of its frames from one test of
    the loop condition to the next. -/
theorem readWriteRound_runs {l l' : ReadWriteLocals} {s s' : DriverState}
    (hd : ¬(!(!l.io_done ∧ l.io_error = NO_ERROR)) = true)
    (h : readWriteRound env l s = (l', s')) :
    ReadWriteFrame.Runs env (.head l) s (.head l') s' := by
  rw [readWriteRound] at h
  rcases hi : s.initiate env with ⟨t, s₁⟩
  rw [hi] at h
  dsimp only at h
  by_cases hn : t.ioAction = .None
  · rw [if_pos hn] at h
    obtain ⟨rfl, rfl⟩ := Prod.mk.inj h
    exact .step (by rw [ReadWriteFrame.step, if_neg hd, hi]; dsimp only; rw [if_pos hn])
      (.refl _ _)
  rw [if_neg hn] at h
  by_cases hs : t.ioAction = .GracefulShutdown ∨ t.ioAction = .HardShutdown
  · have hhead : (ReadWriteFrame.head l).step env s = (some (.shutdown l t), s₁) := by
      rw [ReadWriteFrame.step, if_neg hd, hi]; dsimp only; rw [if_neg hn, if_pos hs]
    exact .step hhead (.step (by rw [ReadWriteFrame.step, h]) (.refl _ _))
  · have hhead : (ReadWriteFrame.head l).step env s = (some (.count l t), s₁) := by
      rw [ReadWriteFrame.step, if_neg hd, hi]; dsimp only; rw [if_neg hn, if_neg hs]
    rw [not_or] at hs
    exact .step hhead (readWriteTask_runs hs.1 hs.2 h)

/-- The loop of `ctsReadWriteIocp`, as the steps of its frames from the head of the loop to
    its exit. -/
theorem readWriteLoop_runs :
    ∀ (fuel : Nat) (l : ReadWriteLocals) (s : DriverState) {l' : ReadWriteLocals}
      {s' : DriverState}, readWriteLoop env fuel l s = .ok (l', s') →
      ReadWriteFrame.Runs env (.head l) s (.exit l') s'
  | 0, _, _, _, _, h => by cases h
  | fuel + 1, l, s, l', s', h => by
    rw [readWriteLoop] at h
    by_cases hd : (!(!l.io_done ∧ l.io_error = NO_ERROR)) = true
    · rw [if_pos hd] at h
      obtain ⟨rfl, rfl⟩ := Prod.mk.inj (Except.ok.inj h)
      exact .step (by rw [ReadWriteFrame.step, if_pos hd]) (.refl _ _)
    rw [if_neg hd] at h
    rcases hr : readWriteRound env l s with ⟨l₁, s₁⟩
    rw [hr] at h
    exact (readWriteRound_runs hd hr).trans (readWriteLoop_runs fuel l₁ s₁ h)

/-- A thread around a call of `ctsReadWriteIocp`, which is `K none` once the call has
    returned: the `io_fn` call, or a callback running its nested call. -/
structure ReadWriteCallContext (env : DriverEnv) (K : Option ReadWriteFrame → ReadWriteThread) :
    Prop where
  step : ∀ l s, (K (some l)).step env s = (K (l.step env s).1, (l.step env s).2)
  running : ∀ l, K (some l) ≠ .finished

namespace ReadWriteCallContext

theorem ioFn : ReadWriteCallContext env fun r => r.elim .finished .ioFn :=
  ⟨fun _ _ => rfl, fun _ => nofun⟩

theorem completion (f : ReadWriteCompletionFrame) : ReadWriteCallContext env (.completion f) :=
  ⟨fun _ _ => rfl, fun _ => nofun⟩

variable {K : Option ReadWriteFrame → ReadWriteThread}

theorem runs (hK : ReadWriteCallContext env K) {l l' : ReadWriteFrame} {s s' : DriverState}
    (h : ReadWriteFrame.Runs env l s l' s') :
    ReadWriteThread.Runs env (K (some l)) s (K (some l')) s' := by
  induction h with
  | refl => exact .refl _ _
  | step hs _ ih => exact .step (hK.running _) (by rw [hK.step, hs]) ih

/-- A call of `ctsReadWriteIocp` that returns, from the point where it holds the socket
    lock. -/
theorem ctsReadWriteIocp_runs (hK : ReadWriteCallContext env K) {fuel : Nat}
    {s s' : DriverState} (h : ctsReadWriteIocp env fuel s = .ok s') :
    ReadWriteThread.Runs env (K (some (ReadWriteFrame.enter s))) s (K none) s' := by
  have hexit : ∀ l s₁, (if l.io_count = 0 then pure (s₁.complete_state l.io_error)
      else pure s₁ : Except DriverStop DriverState) = .ok s' →
      ReadWriteThread.Runs env (K (some (.exit l))) s₁ (K none) s' := fun l s₁ h => by
    refine .single (hK.running _) ?_
    rw [hK.step, ReadWriteFrame.step]
    by_cases hz : l.io_count = 0
    · rw [if_pos hz] at h ⊢; cases h; rfl
    · rw [if_neg hz] at h ⊢; cases h; rfl
  unfold ctsReadWriteIocp at h
  by_cases hv : s.socketValid
  · rw [if_pos hv] at h
    obtain ⟨⟨l, s₁⟩, hl, h⟩ := except_bind_eq_ok h
    rw [ReadWriteFrame.enter, if_pos hv]
    exact (hK.runs (readWriteLoop_runs _ _ _ hl)).trans (hexit l s₁ h)
  · rw [if_neg hv] at h
    rw [ReadWriteFrame.enter, if_neg hv]
    exact hexit _ _ h

end ReadWriteCallContext

/-- The completion callback, as the steps of its thread. -/
theorem ctsReadWriteIocpIoCompletionCallback_runs {fuel : Nat} {t : ctsIOTask}
    {s s' : DriverState} (h : ctsReadWriteIocpIoCompletionCallback env fuel t s = .ok s') :
    ReadWriteThread.Runs env (.completion (.read t) none) s .finished s' := by
  unfold ctsReadWriteIocpIoCompletionCallback at h
  rcases hv : s.overlappedResult env with ⟨⟨g, tr⟩, s₁⟩
  rw [hv] at h
  dsimp only at h
  rcases hc : s₁.complete env t tr g with ⟨st, s₂⟩
  rw [hc] at h
  dsimp only at h
  simp only [dropCount_pure] at h
  have hread : (ReadWriteThread.completion (.read t) none).step env s =
      (.completion (.complete t g tr) none, s₁) := by
    rw [ReadWriteThread.step, ReadWriteCompletionFrame.step, hv]; rfl
  have hcomplete : (ReadWriteThread.completion (.complete t g tr) none).step env s₁ =
      ((ReadWriteCompletionFrame.step env (.complete t g tr) s₁).1.elim .finished
          fun p => .completion p.1 p.2,
        (ReadWriteCompletionFrame.step env (.complete t g tr) s₁).2) := rfl
  rw [ReadWriteCompletionFrame.step, hc] at hcomplete
  refine .step nofun hread ?_
  cases st with
  | ContinueIo =>
    obtain ⟨s₃, hs₃, h⟩ := except_bind_eq_ok h
    simp only [pure_bind] at h
    cases h
    exact .step nofun hcomplete (.step nofun rfl
      (((ReadWriteCallContext.completion (.exit NO_ERROR)).ctsReadWriteIocp_runs hs₃).trans
        (.single nofun rfl)))
  | CompletedIo => cases h; exact .step nofun hcomplete (.single nofun rfl)
  | FailedIo => cases h; exact .step nofun hcomplete (.single nofun rfl)

/-! ## Serial runs -/

/-- Steps of the `j`-th thread while every other thread has returned: no step waits for the
    socket lock. -/
theorem ReadWriteThread.Runs.reachable {v : Bool} {th th' : ReadWriteThread}
    {s s' : DriverState} (h : ReadWriteThread.Runs env th s th' s') :
    ∀ {c : ReadWriteConfig} {j : Nat}, c.s = s → c.threads[j]? = some th →
      (∀ k u, k ≠ j → c.threads[k]? = some u → u = .finished) →
      ReadWriteReachable env v c → ReadWriteReachable env v ⟨s', c.threads.set j th'⟩ := by
  induction h with
  | refl =>
    intro c j hs hj _ hc
    rw [set_self_of_getElem? hj, ← hs]
    exact hc
  | step hne hs₁ _ ih =>
    intro c j hs hj hidle hc
    have := ih (c := ⟨_, c.threads.set j _⟩) rfl
      (List.getElem?_set_self (List.getElem?_eq_some_iff.1 hj).1)
      (fun k u hk hu => hidle k u hk (by rwa [List.getElem?_set_ne (Ne.symm hk)] at hu))
      (hc.step (.run hj hne (fun _ k u hk hu => by rw [hidle k u hk hu]; rfl) (hs ▸ hs₁)))
    rwa [List.set_set] at this

/-- A call the thread pool makes on a new thread while every other thread has returned, run to
    its return. -/
theorem ReadWriteThread.Runs.alone {v : Bool} {x : ReadWriteThread} {ts : List ReadWriteThread}
    {s₁ s' : DriverState} (h : ReadWriteThread.Runs env x s₁ .finished s')
    (hidle : ∀ th ∈ ts, th = .finished) (hc : ReadWriteReachable env v ⟨s₁, ts ++ [x]⟩) :
    ∃ c, ReadWriteReachable env v c ∧ c.s = s' ∧ ∀ th ∈ c.threads, th = .finished := by
  have hothers : ∀ k u, k ≠ ts.length → (ts ++ [x])[k]? = some u → u = .finished :=
    fun k u hk hu => by
      by_cases hk' : k < ts.length
      · rw [List.getElem?_append_left hk'] at hu
        exact hidle u (List.getElem?_mem hu)
      · rw [List.getElem?_eq_none (by simp; omega)] at hu
        cases hu
  have := h.reachable rfl (by simp) hothers hc
  rw [set_length_concat] at this
  refine ⟨_, this, rfl, fun th hm => ?_⟩
  rcases List.mem_append.1 hm with hm | hm
  · exact hidle th hm
  · exact List.mem_singleton.1 hm

theorem readWrite_run_interleaving {v : Bool} {fuel : Nat} :
    ∀ {es : List DriverEvent} {c : ReadWriteConfig} {s' : DriverState},
      Driver.readWrite.run env fuel es c.s = some s' → (∀ th ∈ c.threads, th = .finished) →
      ReadWriteReachable env v c →
      ∃ c', ReadWriteReachable env v c' ∧ c'.s = s' ∧ ∀ th ∈ c'.threads, th = .finished
  | [], c, _, h, hidle, hc => ⟨c, hc, Option.some.inj h, hidle⟩
  | e :: es, c, s', h, hidle, hc => by
    simp only [Driver.run, Option.bind_eq_some] at h
    obtain ⟨s₁, ⟨r, hr, hs₁⟩, hrun⟩ := h
    obtain ⟨c₁, hc₁, rfl, hidle₁⟩ :
        ∃ c₁, ReadWriteReachable env v c₁ ∧ c₁.s = s₁ ∧ ∀ th ∈ c₁.threads, th = .finished := by
      cases r with
      | error => cases hs₁
      | ok s₁' =>
        cases Option.some.inj hs₁
        cases e with
        | completion i =>
          obtain ⟨t, ht, hr⟩ := Option.map_eq_some'.1 hr
          exact (ctsReadWriteIocpIoCompletionCallback_runs hr).alone hidle
            (hc.step (.complete ht))
        | timer i => cases hr
    exact readWrite_run_interleaving hrun hidle₁ hc₁

/-- Every run of the serial phase under `ctsReadWriteIocp` (`Driver.Events`) is an
    interleaving: the one where the `io_fn` call, then each completion callback, runs alone
    from its first step to its return. Its end is a configuration that interleaving reaches,
    with every thread returned. -/
theorem readWrite_phase_interleaving (env : DriverEnv) (fuel : Nat) (v : Bool)
    (es : List DriverEvent) {s : DriverState}
    (h : Driver.readWrite.phase env fuel (.start v) es = some s) :
    ∃ c, ReadWriteReachable env v c ∧ c.s = s ∧ ∀ th ∈ c.threads, th = .finished := by
  simp only [Driver.phase, Option.bind_eq_some] at h
  obtain ⟨s₁, h₁, hrun⟩ := h
  cases hio : ctsReadWriteIocp env fuel (.start v) with
  | error => simp [Driver.ioFn, hio, Except.toOption] at h₁
  | ok s₁' =>
    simp only [Driver.ioFn, hio, Except.toOption, Option.some.injEq] at h₁
    subst h₁
    have hio_runs := (ReadWriteCallContext.ioFn.ctsReadWriteIocp_runs hio).reachable
      (c := ReadWriteConfig.start v) (j := 0) rfl rfl
      (fun k u hk hu => by cases k <;> simp_all [ReadWriteConfig.start]) .start
    exact readWrite_run_interleaving hrun (by simp [ReadWriteConfig.start]) hio_runs

theorem readWrite_phase_interleaving_delayedSend :
    ∃ s, Driver.readWrite.phase delayedSendEnv 3 (.start true) [.completion 0] = some s ∧
      ∃ c, ReadWriteReachable delayedSendEnv true c ∧ c.s = s ∧
        ∀ th ∈ c.threads, th = .finished :=
  have h : (Driver.readWrite.phase delayedSendEnv 3 (.start true) [.completion 0]).isSome := by
    decide
  let ⟨s, hs⟩ := Option.isSome_iff_exists.1 h
  ⟨s, hs, readWrite_phase_interleaving _ _ _ _ hs⟩

end CtsTraffic
