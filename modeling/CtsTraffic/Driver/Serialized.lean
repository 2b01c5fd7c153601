import CtsTraffic.Driver.Interleaved

/-
  The runs of `Driver.Events` are interleavings of `Driver.Interleaved`: those where each call
  into the driver runs alone, from the step that starts it to the step that returns. A call of
  `ctsSendRecvIocp`, `ctsProcessIOTaskCallback` or `ctsIoCompletionCallback` that returns is
  the steps of its frames, and between two calls of a serial run no thread is running, so no
  step waits for the socket lock.

  Proved:
  * `sendRecvLoop_runs`, `CallContext.ctsSendRecvIocp_runs`, `ctsProcessIOTaskCallback_runs`,
    `ctsIoCompletionCallback_runs`: what each function returns is where the steps of its
    frames lead.
  * `sendRecv_phase_interleaving`: every serial run of the phase ends where an interleaving
    ends with every thread returned.
-/

namespace CtsTraffic

open DriverState

variable {env : DriverEnv}

/-! ## Steps of one call -/

/-- Steps of a call of `ctsSendRecvIocp` that do not return. -/
inductive SendRecvFrame.Runs (env : DriverEnv) :
    SendRecvFrame → DriverState → SendRecvFrame → DriverState → Prop
  | refl (f : SendRecvFrame) (s : DriverState) : Runs env f s f s
  | step {f f₁ f' : SendRecvFrame} {s s₁ s' : DriverState} :
      f.step env s = .ok (some f₁, s₁) → Runs env f₁ s₁ f' s' → Runs env f s f' s'

/-- Steps of one thread. -/
inductive IocpThread.Runs (env : DriverEnv) :
    IocpThread → DriverState → IocpThread → DriverState → Prop
  | refl (th : IocpThread) (s : DriverState) : Runs env th s th s
  | step {th th₁ th' : IocpThread} {s s₁ s' : DriverState} : th ≠ .finished →
      th.step env s = .ok (th₁, s₁) → Runs env th₁ s₁ th' s' → Runs env th s th' s'

namespace IocpThread.Runs

theorem trans {th₁ th₂ th₃ : IocpThread} {s₁ s₂ s₃ : DriverState}
    (h₁ : Runs env th₁ s₁ th₂ s₂) (h₂ : Runs env th₂ s₂ th₃ s₃) : Runs env th₁ s₁ th₃ s₃ := by
  induction h₁ with
  | refl => exact h₂
  | step hne hs _ ih => exact .step hne hs (ih h₂)

theorem single {th th' : IocpThread} {s s' : DriverState} (hne : th ≠ .finished)
    (hs : th.step env s = .ok (th', s')) : Runs env th s th' s' :=
  .step hne hs (.refl _ _)

end IocpThread.Runs

/-- The loop of `ctsSendRecvIocp`, as the steps of its frames from the head of the loop to its
    exit. -/
theorem sendRecvLoop_runs (v : Bool) :
    ∀ (fuel : Nat) (status : ctsSendRecvStatus) (s : DriverState) {st : ctsSendRecvStatus}
      {s' : DriverState}, sendRecvLoop env v fuel status s = .ok (st, s') →
      SendRecvFrame.Runs env (.head v status) s (.exit st) s'
  | 0, _, _, _, _, h => by cases h
  | fuel + 1, status, s, st, s', h => by
    rw [sendRecvLoop] at h
    by_cases hd : status.ioDone
    · rw [if_pos hd] at h
      obtain ⟨rfl, rfl⟩ := Prod.mk.inj (Except.ok.inj h)
      exact .step (by rw [SendRecvFrame.step, if_pos hd]) (.refl _ _)
    rw [if_neg hd] at h
    rcases hi : s.initiate env with ⟨t, s₁⟩
    rw [hi] at h
    dsimp only at h
    by_cases hn : t.ioAction = .None
    · rw [if_pos hn] at h
      obtain ⟨rfl, rfl⟩ := Prod.mk.inj (Except.ok.inj h)
      exact .step (by rw [SendRecvFrame.step, if_neg hd, hi]; dsimp only; rw [if_pos hn])
        (.refl _ _)
    rw [if_neg hn] at h
    rcases hp : scheduleOrProcess env v status t s₁.increment_io with ⟨st₁, s₂⟩
    rw [hp] at h
    dsimp only at h
    have hhead : (SendRecvFrame.head v status).step env s = .ok (some (.count v status t), s₁) := by
      rw [SendRecvFrame.step, if_neg hd, hi]; dsimp only; rw [if_neg hn]
    have hdisp : (SendRecvFrame.dispatch v status t).step env s₁.increment_io =
        .ok (some (if !st₁.ioStarted then .uncount v st₁ else .head v st₁), s₂) := by
      rw [SendRecvFrame.step, hp]
    refine .step hhead (.step rfl (.step hdisp ?_))
    cases hst : st₁.ioStarted <;>
      simp only [hst, Bool.not_false, Bool.not_true, if_true, if_false, Bool.false_eq_true] at h ⊢
    · by_cases hz : s₂.decrement_io.io_count = 0
      · rw [if_pos hz] at h; cases h
      · rw [if_neg hz] at h
        exact .step (by rw [SendRecvFrame.step, if_neg hz]) (sendRecvLoop_runs v fuel _ _ h)
    · exact sendRecvLoop_runs v fuel _ _ h

theorem dropCount_pure {ε : Type} (s : DriverState) (c : Nat) :
    (if s.decrement_io.io_count = 0 then pure (s.decrement_io.complete_state c)
      else pure s.decrement_io : Except ε DriverState) = pure (s.dropCount c) := by
  unfold DriverState.dropCount; split <;> rfl

/-- A thread around a call of `ctsSendRecvIocp`, which is `K none` once the call has
    returned: the `io_fn` call, or a callback running its nested call. -/
structure CallContext (env : DriverEnv) (K : Option SendRecvFrame → IocpThread) : Prop where
  step : ∀ l s, (K (some l)).step env s = (l.step env s).map fun r => (K r.1, r.2)
  running : ∀ l, K (some l) ≠ .finished

namespace CallContext

theorem ioFn : CallContext env fun r => r.elim .finished .ioFn := ⟨fun _ _ => rfl, fun _ => nofun⟩

theorem timer (f : TimerCallbackFrame) : CallContext env (.timer f) :=
  ⟨fun _ _ => rfl, fun _ => nofun⟩

theorem completion (f : CompletionCallbackFrame) : CallContext env (.completion f) :=
  ⟨fun _ _ => rfl, fun _ => nofun⟩

variable {K : Option SendRecvFrame → IocpThread}

theorem runs (hK : CallContext env K) {l l' : SendRecvFrame} {s s' : DriverState}
    (h : SendRecvFrame.Runs env l s l' s') :
    IocpThread.Runs env (K (some l)) s (K (some l')) s' := by
  induction h with
  | refl => exact .refl _ _
  | step hs _ ih => exact .step (hK.running _) (by rw [hK.step, hs]; rfl) ih

/-- A call of `ctsSendRecvIocp` that returns, from the step after it takes its count. -/
theorem ctsSendRecvIocp_runs (hK : CallContext env K) {fuel : Nat} {s s' : DriverState}
    (h : ctsSendRecvIocp env fuel s = .ok s') :
    IocpThread.Runs env (K (some (SendRecvFrame.enter s).1)) (SendRecvFrame.enter s).2
      (K none) s' := by
  unfold ctsSendRecvIocp at h
  rcases hl : sendRecvLoop env s.socketValid fuel {} s.increment_io with e | ⟨st, s₁⟩ <;>
    rw [hl] at h
  · cases h
  · simp only [bind, Except.bind, dropCount_pure] at h
    cases h
    exact (hK.runs (sendRecvLoop_runs _ _ _ _ hl)).trans
      (.single (hK.running _) (by rw [hK.step]; rfl))

end CallContext

theorem except_bind_eq_ok {ε α β : Type} {x : Except ε α} {f : α → Except ε β} {b : β}
    (h : x >>= f = .ok b) : ∃ a, x = .ok a ∧ f a = .ok b := by
  cases x with
  | error e => cases h
  | ok a => exact ⟨a, rfl, h⟩

/-- The end of a callback: the call of `ctsSendRecvIocp` it makes, then its own return. -/
theorem CallContext.call_runs {K : Option SendRecvFrame → IocpThread} (hK : CallContext env K)
    {th : IocpThread} {fuel c : Nat} {s s' : DriverState} (hth : th ≠ .finished)
    (hcall : th.step env s = .ok (K (some (SendRecvFrame.enter s).1), (SendRecvFrame.enter s).2))
    (hexit : K none ≠ .finished ∧ ∀ s, (K none).step env s = .ok (.finished, s.dropCount c))
    (h : ctsSendRecvIocp env fuel s = .ok s') :
    IocpThread.Runs env th s .finished (s'.dropCount c) :=
  .step hth hcall ((hK.ctsSendRecvIocp_runs h).trans (.single hexit.1 (hexit.2 s')))

/-- The timer callback, as the steps of its thread. -/
theorem ctsProcessIOTaskCallback_runs {fuel : Nat} {t : ctsIOTask} {s s' : DriverState}
    (h : ctsProcessIOTaskCallback env fuel t s = .ok s') :
    IocpThread.Runs env (.timer (.acquire t) none) s .finished s' := by
  unfold ctsProcessIOTaskCallback at h
  rcases hp : ctsProcessIOTask env s.socketValid t s.increment_io with ⟨st, s₁⟩
  rw [hp] at h
  dsimp only at h
  simp only [dropCount_pure] at h
  have hproc : (IocpThread.timer (.process t) none).step env s.increment_io =
      .ok (.timer (if !st.ioStarted then .uncount st else .resume st) none, s₁) := by
    rw [IocpThread.step, TimerCallbackFrame.step,
      show s.increment_io.socketValid = s.socketValid from rfl, hp]
    rfl
  have tail : ∀ s₂, (if !st.ioDone then ctsSendRecvIocp env fuel s₂ >>=
      (fun s => pure (s.dropCount st.ioErrorcode)) else pure (s₂.dropCount st.ioErrorcode)) =
      .ok s' →
      IocpThread.Runs env (.timer (.resume st) none) s₂ .finished s' := fun s₂ h => by
    unfold TimerCallbackFrame.resume
    cases hd : st.ioDone <;>
      simp only [hd, Bool.not_false, Bool.not_true, if_true, if_false, Bool.false_eq_true] at h ⊢
    · obtain ⟨s₃, hs₃, h⟩ := except_bind_eq_ok h
      cases h
      exact CallContext.call_runs (.timer (.exit st)) nofun rfl ⟨nofun, fun _ => rfl⟩ hs₃
    · cases h
      exact .single nofun rfl
  refine .step nofun rfl (.step nofun hproc ?_)
  cases hst : st.ioStarted <;>
    simp only [hst, Bool.not_false, Bool.not_true, if_true, if_false, Bool.false_eq_true,
      pure_bind] at h ⊢
  · by_cases hz : s₁.decrement_io.io_count = 0
    · rw [if_pos hz] at h; cases h
    · rw [if_neg hz] at h
      exact .step nofun (by
        rw [IocpThread.step, TimerCallbackFrame.step, if_neg hz]; rfl) (tail _ h)
  · exact tail _ h

/-- The completion callback, as the steps of its thread. -/
theorem ctsIoCompletionCallback_runs {fuel : Nat} {t : ctsIOTask} {s s' : DriverState}
    (h : ctsIoCompletionCallback env fuel t s = .ok s') :
    IocpThread.Runs env (.completion (.read t) none) s .finished s' := by
  unfold ctsIoCompletionCallback at h
  rcases hv : s.overlappedResult env with ⟨⟨g, tr⟩, s₁⟩
  rw [hv] at h
  dsimp only at h
  rcases hc : s₁.complete env t tr g with ⟨st, s₂⟩
  rw [hc] at h
  dsimp only at h
  simp only [dropCount_pure] at h
  have hread : (IocpThread.completion (.read t) none).step env s =
      .ok (.completion (.complete t g tr) none, s₁) := by
    rw [IocpThread.step, CompletionCallbackFrame.step, hv]; rfl
  have hcomplete : (IocpThread.completion (.complete t g tr) none).step env s₁ =
      (CompletionCallbackFrame.step env (.complete t g tr) s₁).map
        fun r => (r.1.elim .finished fun p => .completion p.1 p.2, r.2) := rfl
  rw [CompletionCallbackFrame.step, hc] at hcomplete
  refine .step nofun hread ?_
  cases st with
  | ContinueIo =>
    obtain ⟨s₃, hs₃, h⟩ := except_bind_eq_ok h
    simp only [pure_bind, dropCount_pure] at h
    cases h
    exact .step nofun hcomplete
      (CallContext.call_runs (.completion (.exit g)) nofun rfl ⟨nofun, fun _ => rfl⟩ hs₃)
  | CompletedIo => cases h; exact .step nofun hcomplete (.single nofun rfl)
  | FailedIo => cases h; exact .step nofun hcomplete (.single nofun rfl)

/-! ## Serial runs -/

theorem set_length_concat {α : Type} (l : List α) (x y : α) :
    (l ++ [x]).set l.length y = l ++ [y] := by
  induction l with
  | nil => rfl
  | cons a l ih => exact congrArg (a :: ·) ih

/-- Steps of the `j`-th thread while every other thread has returned: no step waits for the
    socket lock. -/
theorem IocpThread.Runs.reachable {v : Bool} {th th' : IocpThread} {s s' : DriverState}
    (h : IocpThread.Runs env th s th' s') :
    ∀ {c : IocpConfig} {j : Nat}, c.s = s → c.threads[j]? = some th →
      (∀ k u, k ≠ j → c.threads[k]? = some u → u = .finished) →
      IocpReachable env v c → IocpReachable env v ⟨s', c.threads.set j th'⟩ := by
  induction h with
  | refl =>
    intro c j hs hj _ hc
    rw [set_self_of_getElem? hj, ← hs]
    exact hc
  | step hne hs₁ _ ih =>
    intro c j hs hj hidle hc
    have := ih (c := ⟨_, c.threads.set j _⟩) rfl
      (List.getElem?_set_self (List.getElem?_eq_some_iff.1 hj).1)
      (fun k u hk hu => hidle k u hk (by rwa [List.getElem?_set_ne (Ne.symm hk)] at hu))
      (hc.step (.run hj hne (fun _ k u hk hu => by rw [hidle k u hk hu]; rfl) (hs ▸ hs₁)))
    rwa [List.set_set] at this

/-- A call the thread pool makes on a new thread while every other thread has returned, run to
    its return. -/
theorem IocpThread.Runs.alone {v : Bool} {x : IocpThread} {ts : List IocpThread}
    {s₁ s' : DriverState} (h : IocpThread.Runs env x s₁ .finished s')
    (hidle : ∀ th ∈ ts, th = .finished) (hc : IocpReachable env v ⟨s₁, ts ++ [x]⟩) :
    ∃ c, IocpReachable env v c ∧ c.s = s' ∧ ∀ th ∈ c.threads, th = .finished := by
  have hothers : ∀ k u, k ≠ ts.length → (ts ++ [x])[k]? = some u → u = .finished :=
    fun k u hk hu => by
      by_cases hk' : k < ts.length
      · rw [List.getElem?_append_left hk'] at hu
        exact hidle u (List.getElem?_mem hu)
      · rw [List.getElem?_eq_none (by simp; omega)] at hu
        cases hu
  have := h.reachable rfl (by simp) hothers hc
  rw [set_length_concat] at this
  refine ⟨_, this, rfl, fun th hm => ?_⟩
  rcases List.mem_append.1 hm with hm | hm
  · exact hidle th hm
  · exact List.mem_singleton.1 hm

theorem sendRecv_run_interleaving {v : Bool} {fuel : Nat} :
    ∀ {es : List DriverEvent} {c : IocpConfig} {s' : DriverState},
      Driver.sendRecv.run env fuel es c.s = some s' → (∀ th ∈ c.threads, th = .finished) →
      IocpReachable env v c →
      ∃ c', IocpReachable env v c' ∧ c'.s = s' ∧ ∀ th ∈ c'.threads, th = .finished
  | [], c, _, h, hidle, hc => ⟨c, hc, Option.some.inj h, hidle⟩
  | e :: es, c, s', h, hidle, hc => by
    simp only [Driver.run, Option.bind_eq_some] at h
    obtain ⟨s₁, ⟨r, hr, hs₁⟩, hrun⟩ := h
    obtain ⟨c₁, hc₁, rfl, hidle₁⟩ :
        ∃ c₁, IocpReachable env v c₁ ∧ c₁.s = s₁ ∧ ∀ th ∈ c₁.threads, th = .finished := by
      cases r with
      | error => cases hs₁
      | ok s₁' =>
        cases Option.some.inj hs₁
        cases e with
        | completion i =>
          obtain ⟨t, ht, hr⟩ := Option.map_eq_some'.1 hr
          exact (ctsIoCompletionCallback_runs hr).alone hidle (hc.step (.complete ht))
        | timer i =>
          obtain ⟨t, ht, hr⟩ := Option.map_eq_some'.1 hr
          exact (ctsProcessIOTaskCallback_runs hr).alone hidle (hc.step (.fire ht))
    exact sendRecv_run_interleaving hrun hidle₁ hc₁

/-- Every run of the serial phase (`Driver.Events`) is an interleaving: the one where the
    `io_fn` call, then each callback, runs alone from its first step to its return. Its end
    is a configuration that interleaving reaches, with every thread returned. -/
theorem sendRecv_phase_interleaving (env : DriverEnv) (fuel : Nat) (v : Bool)
    (es : List DriverEvent) {s : DriverState}
    (h : Driver.sendRecv.phase env fuel (.start v) es = some s) :
    ∃ c, IocpReachable env v c ∧ c.s = s ∧ ∀ th ∈ c.threads, th = .finished := by
  simp only [Driver.phase, Option.bind_eq_some] at h
  obtain ⟨s₁, h₁, hrun⟩ := h
  cases hio : ctsSendRecvIocp env fuel (.start v) with
  | error => simp [Driver.ioFn, hio, Except.toOption] at h₁
  | ok s₁' =>
    simp only [Driver.ioFn, hio, Except.toOption, Option.some.injEq] at h₁
    subst h₁
    have hio_runs := (CallContext.ioFn.ctsSendRecvIocp_runs hio).reachable
      (c := IocpConfig.start v) (j := 0) rfl rfl
      (fun k u hk hu => by cases k <;> simp_all [IocpConfig.start]) .start
    exact sendRecv_run_interleaving hrun (by simp [IocpConfig.start]) hio_runs

theorem sendRecv_phase_interleaving_delayedSend :
    ∃ s, Driver.sendRecv.phase delayedSendEnv 3 (.start true) [.timer 0, .completion 0] = some s ∧
      ∃ c, IocpReachable delayedSendEnv true c ∧ c.s = s ∧ ∀ th ∈ c.threads, th = .finished :=
  have h : (Driver.sendRecv.phase delayedSendEnv 3 (.start true)
      [.timer 0, .completion 0]).isSome := by decide
  let ⟨s, hs⟩ := Option.isSome_iff_exists.1 h
  ⟨s, hs, sendRecv_phase_interleaving _ _ _ _ hs⟩

end CtsTraffic
