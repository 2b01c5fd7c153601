import CtsTraffic.Driver.Threads

/-
  What holds in every interleaving of the IO phase under `ctsSendRecvIocp` (`Driver.Threads`).
  Each count of the IO count is owned: by an outstanding IO or timer, or by the frame of the
  thread that took it (`IocpThread.holds`). `StepSpec` says once what a step of a thread can do
  to the counts, the tasks and the completions; each frame's step meets it, and the invariant
  follows by induction over the run.

  Proved:
  * `IocpInv.reachable`: in every interleaving, the IO count is the outstanding IOs and timers
    plus the counts each thread's frames hold. Every task `initiate_io` returned is handed
    back, outstanding, in a thread's hands, or (only a delayed one) given up.
    `complete_state` has been called once if nothing runs and nothing is outstanding, and
    not at all otherwise.
  * `sendRecv_interleaved_laws`: the laws of `IocpInv`, and that no thread can reach either
    refcount `FAIL_FAST` in any interleaving.
-/

namespace CtsTraffic

open DriverState

/-! ## What one step does -/

/-- What a nested call does to the tasks, with the tasks `pre` of the frame around it. -/
theorem DriverState.TasksAccounted.frame {hand hand' : List ctsIOTask} {s s' : DriverState}
    (h : ∀ rest, TasksAccounted (hand ++ rest) s → TasksAccounted (hand' ++ rest) s')
    (pre : List ctsIOTask) :
    ∀ rest, TasksAccounted (pre ++ hand ++ rest) s → TasksAccounted (pre ++ hand' ++ rest) s' :=
  fun rest hb => by
    have hp : ∀ l : List ctsIOTask, (pre ++ l ++ rest).Perm (l ++ (pre ++ rest)) := fun l => by
      rw [List.append_assoc]; exact List.perm_append_comm_assoc _ _ _
    exact (h _ (hb.trans (.append_left _ (hp hand)))).trans (.append_left _ (hp hand').symm)

/-- What one step of a thread does to the socket. `h`, `hand` are the counts and tasks the
    thread holds before the step, and `h'`, `hand'` those after. The counts held elsewhere stay
    as they were, every task stays accounted for, and only delayed tasks are given up.
    `complete_state` is called exactly when the step leaves the IO count at zero. -/
structure StepSpec (h h' : Nat) (hand hand' : List ctsIOTask) (s s' : DriverState) : Prop where
  held : s'.held - h' = s.held - h
  balanced : ∀ rest, TasksAccounted (hand ++ rest) s → TasksAccounted (hand' ++ rest) s'
  dropped : s.DroppedDelayed → s'.DroppedDelayed
  completed : ∃ c, s'.completeStates = s.completeStates ++ if s'.io_count = 0 then [c] else []

namespace StepSpec

variable {h h' : Nat} {hand hand' : List ctsIOTask} {s s' : DriverState}

/-- A step after which the thread still holds a count completes no state. -/
theorem of_running (hheld : s'.held - h' = s.held - h) (hh : (h : Int) ≤ s.held)
    (h1 : 1 ≤ h') (hcs : s'.completeStates = s.completeStates)
    (hb : ∀ rest, TasksAccounted (hand ++ rest) s → TasksAccounted (hand' ++ rest) s')
    (hd : s.DroppedDelayed → s'.DroppedDelayed) : StepSpec h h' hand hand' s s' := by
  refine ⟨hheld, hb, hd, 0, ?_⟩
  have : s'.io_count ≠ 0 := by simp only [DriverState.held] at hheld hh; omega
  rw [hcs, if_neg this, List.append_nil]

/-- `if (decrement_io() == 0) complete_state(code)` gives back the last count of the call. -/
theorem dropCount (s : DriverState) (code : Nat) : StepSpec 1 0 [] [] s (s.dropCount code) := by
  unfold DriverState.dropCount
  by_cases hz : s.decrement_io.io_count = 0
  · rw [if_pos hz]
    exact ⟨by simp, fun _ hb => hb, id, code, by
      simp only [complete_state_completeStates, complete_state_io_count,
        decrement_io_completeStates, if_pos hz]⟩
  · rw [if_neg hz]
    exact ⟨by simp, fun _ hb => hb, id, 0, by
      simp only [decrement_io_completeStates, if_neg hz, List.append_nil]⟩

/-- A step of a nested call is a step of the thread around it. -/
theorem frame (k : Nat) (pre : List ctsIOTask) (hs : StepSpec h h' hand hand' s s') :
    StepSpec (k + h) (k + h') (pre ++ hand) (pre ++ hand') s s' :=
  ⟨by have := hs.held; push_cast; omega, TasksAccounted.frame hs.balanced pre, hs.dropped,
    hs.completed⟩

end StepSpec

/-- The end of every call: its last count given back, its state completed at zero. -/
@[simp] theorem dropCount_io_count (s : DriverState) (code : Nat) :
    (s.dropCount code).io_count = s.io_count - 1 := by
  unfold DriverState.dropCount; split <;> rfl

namespace SendRecvFrame

variable {env : DriverEnv}

/-- One step of `ctsSendRecvIocp`. -/
theorem step_spec {f : SendRecvFrame} {s s' : DriverState} {r : Option SendRecvFrame}
    (hh : (f.holds : Int) ≤ s.held) (h : f.step env s = .ok (r, s')) :
    StepSpec f.holds (optHolds r) f.hand (optHand r) s s' := by
  cases f with
  | head v status =>
    simp only [step] at h
    rcases hi : s.initiate env with ⟨t, s₁⟩
    have hk : s₁.held = s.held ∧ s₁.completeStates = s.completeStates ∧ s₁.dropped = s.dropped :=
      by rw [← initiate_held env s, ← initiate_completeStates env s, hi]; exact ⟨rfl, rfl, by
        rw [show s₁ = (s.initiate env).2 by rw [hi]]; rfl⟩
    have hb := fun rest (hb : TasksAccounted ([] ++ rest) s) => TasksAccounted.initiate env hb
    rw [hi] at hb
    by_cases hd : status.ioDone
    · rw [if_pos hd] at h
      obtain ⟨rfl, rfl⟩ := Prod.mk.inj (Except.ok.inj h)
      exact .of_running rfl hh (by simp [optHolds, holds]) rfl (fun _ hb => hb) id
    rw [if_neg hd, hi] at h
    dsimp only at h
    split at h <;> rename_i hn <;> obtain ⟨rfl, rfl⟩ := Prod.mk.inj (Except.ok.inj h) <;>
      refine .of_running (by simp [hk.1, holds, optHolds]) hh (by simp [optHolds, holds]) hk.2.1
        (fun rest h => ?_) (fun hd u hu => hd u (hk.2.2 ▸ hu))
    · simpa only [if_pos hn] using hb rest h
    · simpa only [if_neg hn] using hb rest h
  | count v status t =>
    obtain ⟨rfl, rfl⟩ := Prod.mk.inj (Except.ok.inj h)
    exact .of_running (by simp [holds, optHolds]; omega) hh (by simp [optHolds, holds]) rfl
      (fun _ hb => hb) id
  | dispatch v status t =>
    simp only [step] at h
    rcases hp : scheduleOrProcess env v status t s with ⟨st, s₁⟩
    rw [hp] at h
    obtain ⟨h1, h2, h3, h4⟩ := scheduleOrProcess_spec env hp
    cases hst : st.ioStarted <;>
      simp only [hst, Bool.not_false, Bool.not_true, if_true, if_false, Bool.false_eq_true]
        at h h1 <;>
      obtain ⟨rfl, rfl⟩ := Prod.mk.inj (Except.ok.inj h)
    · exact .of_running (by simp [h1, holds, optHolds]) hh (by simp [optHolds, holds]) h2 h3 h4
    · exact .of_running (by simp [h1, holds, optHolds]; omega) hh (by simp [optHolds, holds])
        h2 h3 h4
  | uncount v status =>
    simp only [step] at h
    split at h
    · cases h
    · obtain ⟨rfl, rfl⟩ := Prod.mk.inj (Except.ok.inj h)
      exact .of_running (by simp [holds, optHolds]; omega) hh (by simp [optHolds, holds]) rfl
        (fun _ hb => hb) id
  | exit status =>
    obtain ⟨rfl, rfl⟩ := Prod.mk.inj (Except.ok.inj h)
    exact StepSpec.dropCount s _

end SendRecvFrame

namespace TimerCallbackFrame

open SendRecvFrame (optHolds optHand)

variable {env : DriverEnv}

theorem resume_holds (status : ctsSendRecvStatus) :
    (resume status).holds = 1 ∧ (resume status).hand = [] := by
  unfold resume; split <;> exact ⟨rfl, rfl⟩

/-- One step of `ctsProcessIOTaskCallback`, with the call of `ctsSendRecvIocp` it starts. -/
theorem step_spec {f : TimerCallbackFrame} {s s' : DriverState}
    {r : Option (TimerCallbackFrame × Option SendRecvFrame)}
    (hh : (f.holds : Int) ≤ s.held) (h : f.step env s = .ok (r, s')) :
    StepSpec f.holds (r.elim 0 fun p => p.1.holds + optHolds p.2) f.hand
      (r.elim [] fun p => p.1.hand ++ optHand p.2) s s' := by
  cases f with
  | acquire t =>
    obtain ⟨rfl, rfl⟩ := Prod.mk.inj (Except.ok.inj h)
    exact .of_running (by simp [holds, optHolds]; omega) hh (by simp [holds, optHolds]) rfl
      (fun _ hb => by simpa [hand, optHand] using hb) id
  | process t =>
    simp only [step] at h
    rcases hp : ctsProcessIOTask env s.socketValid t s with ⟨st, s₁⟩
    rw [hp] at h
    obtain ⟨-, h2, -, h4, -, h6⟩ := ctsProcessIOTask_spec env hp
    have h1 := ctsProcessIOTask_held env hp
    have hb : ∀ rest, TasksAccounted (hand (process t) ++ rest) s →
        TasksAccounted ([] ++ rest) s₁ := h6
    cases hst : st.ioStarted <;>
      simp only [hst, Bool.not_false, Bool.not_true, if_true, if_false, Bool.false_eq_true]
        at h h1 <;>
      obtain ⟨rfl, rfl⟩ := Prod.mk.inj (Except.ok.inj h)
    · exact .of_running (by simp [h1, holds, optHolds]) hh (by simp [holds, optHolds]) h2
        (by simpa [hand, optHand] using hb) (fun hd u hu => hd u (h4 ▸ hu))
    · obtain ⟨hr1, hr2⟩ := resume_holds st
      exact .of_running (by simp only [Option.elim, optHolds, hr1]; simp [h1, holds]; omega) hh
        (by simp only [Option.elim, optHolds, hr1]; decide) h2
        (by simpa only [Option.elim, optHand, hr2] using hb) (fun hd u hu => hd u (h4 ▸ hu))
  | uncount st =>
    simp only [step] at h
    split at h
    · cases h
    · obtain ⟨rfl, rfl⟩ := Prod.mk.inj (Except.ok.inj h)
      obtain ⟨hr1, hr2⟩ := resume_holds st
      exact .of_running (by simp only [Option.elim, optHolds, hr1]; simp [holds]; omega) hh
        (by simp only [Option.elim, optHolds, hr1]; decide) rfl
        (fun _ hb => by simpa only [Option.elim, optHand, hr2] using hb) id
  | call st =>
    obtain ⟨rfl, rfl⟩ := Prod.mk.inj (Except.ok.inj h)
    exact .of_running (by simp [holds, optHolds, SendRecvFrame.enter, SendRecvFrame.holds]; omega)
      hh (by simp [holds]) rfl (fun _ hb => by simpa [hand, optHand, SendRecvFrame.enter,
        SendRecvFrame.hand] using hb) id
  | exit st =>
    obtain ⟨rfl, rfl⟩ := Prod.mk.inj (Except.ok.inj h)
    exact StepSpec.dropCount s _

end TimerCallbackFrame

namespace CompletionCallbackFrame

open SendRecvFrame (optHolds optHand)

variable {env : DriverEnv}

/-- One step of `ctsIoCompletionCallback`, with the call of `ctsSendRecvIocp` it starts. -/
theorem step_spec {f : CompletionCallbackFrame} {s s' : DriverState}
    {r : Option (CompletionCallbackFrame × Option SendRecvFrame)}
    (hh : (f.holds : Int) ≤ s.held) (h : f.step env s = .ok (r, s')) :
    StepSpec f.holds (r.elim 0 fun p => p.1.holds + optHolds p.2) f.hand
      (r.elim [] fun p => p.1.hand ++ optHand p.2) s s' := by
  cases f with
  | read t =>
    simp only [step] at h
    rcases hv : s.overlappedResult env with ⟨⟨g, tr⟩, s₁⟩
    rw [hv] at h
    obtain ⟨rfl, rfl⟩ := Prod.mk.inj (Except.ok.inj h)
    have hs₁ : s₁ = _ := (congrArg Prod.snd hv).symm.trans (overlappedResult_snd env s)
    subst hs₁
    exact .of_running (by simp [holds, optHolds]; rfl) hh (by simp [holds, optHolds]) rfl
      (fun _ hb => by simpa [hand, optHand] using hb) id
  | complete t g tr =>
    simp only [step] at h
    rcases hc : s.complete env t tr g with ⟨st, s₁⟩
    rw [hc] at h
    have hs₁ : s₁ = (s.complete env t tr g).2 := by rw [hc]
    have hb : ∀ rest, TasksAccounted (hand (complete t g tr) ++ rest) s →
        TasksAccounted ([] ++ rest) s₁ := fun _ hb => hs₁ ▸ TasksAccounted.complete hb
    have hheld : s₁.held = s.held := by rw [hs₁, complete_held]
    have hcs : s₁.completeStates = s.completeStates := by rw [hs₁, complete_completeStates]
    have hd : s.DroppedDelayed → s₁.DroppedDelayed := by rw [hs₁]; exact id
    cases st <;> dsimp only at h <;> obtain ⟨rfl, rfl⟩ := Prod.mk.inj (Except.ok.inj h) <;>
      exact .of_running (by simp [hheld, holds, optHolds]) hh (by simp [holds, optHolds]) hcs
        (by simpa [hand, optHand] using hb) hd
  | call g =>
    obtain ⟨rfl, rfl⟩ := Prod.mk.inj (Except.ok.inj h)
    exact .of_running (by simp [holds, optHolds, SendRecvFrame.enter, SendRecvFrame.holds]; omega)
      hh (by simp [holds]) rfl (fun _ hb => by simpa [hand, optHand, SendRecvFrame.enter,
        SendRecvFrame.hand] using hb) id
  | exit g =>
    obtain ⟨rfl, rfl⟩ := Prod.mk.inj (Except.ok.inj h)
    exact StepSpec.dropCount s _

end CompletionCallbackFrame

/-! ## What one step of a thread does -/

theorem except_map_eq_ok {ε α β : Type} {f : α → β} {x : Except ε α} {b : β}
    (h : x.map f = .ok b) : ∃ a, x = .ok a ∧ f a = b := by
  cases x with
  | error e => cases h
  | ok a => exact ⟨a, rfl, Except.ok.inj h⟩

theorem except_map_eq_error {ε α β : Type} {f : α → β} {x : Except ε α} {e : ε}
    (h : x.map f = .error e) : x = .error e := by
  cases x with
  | error e => cases h; rfl
  | ok a => cases h

theorem nested_holds_le {k l : Nat} {x : Int} (h : ((k + l : Nat) : Int) ≤ x) : (l : Int) ≤ x := by
  omega

namespace SendRecvFrame

variable {env : DriverEnv}

theorem one_le_holds (f : SendRecvFrame) : 1 ≤ f.holds := by
  cases f <;> simp [holds]

/-- Only the decrement after a task that started no IO can fail fast, and it cannot while
    the call holds its own count and the task's. -/
theorem step_ne_error {f : SendRecvFrame} {s : DriverState} (hh : (f.holds : Int) ≤ s.held)
    (e : DriverFailFast) : f.step env s ≠ .error e := by
  cases f with
  | uncount v status =>
    have : s.decrement_io.io_count ≠ 0 := by
      simp only [holds, held, outstanding] at hh; simp only [decrement_io_io_count]; omega
    simp only [step, if_neg this]; nofun
  | head v status =>
    simp only [step]
    split
    · nofun
    · split <;> nofun
  | _ => nofun

end SendRecvFrame

namespace TimerCallbackFrame

variable {env : DriverEnv}

theorem one_le_holds (f : TimerCallbackFrame) : 1 ≤ f.holds := by
  cases f <;> simp [holds]

theorem step_ne_error {f : TimerCallbackFrame} {s : DriverState} (hh : (f.holds : Int) ≤ s.held)
    (e : DriverFailFast) : f.step env s ≠ .error e := by
  cases f with
  | uncount status =>
    have : s.decrement_io.io_count ≠ 0 := by
      simp only [holds, held, outstanding] at hh; simp only [decrement_io_io_count]; omega
    simp only [step, if_neg this]; nofun
  | _ => nofun

end TimerCallbackFrame

theorem CompletionCallbackFrame.step_ne_error {env : DriverEnv} (f : CompletionCallbackFrame)
    (s : DriverState) (e : DriverFailFast) : f.step env s ≠ .error e := by
  cases f with
  | complete t g tr => simp only [CompletionCallbackFrame.step]; split <;> nofun
  | _ => nofun

namespace IocpThread

open SendRecvFrame (optHolds optHand)

variable {env : DriverEnv}

theorem one_le_holds : ∀ {th : IocpThread}, th ≠ .finished → 1 ≤ th.holds
  | ioFn f, _ => f.one_le_holds
  | timer f _, _ => Nat.le_add_right_of_le f.one_le_holds
  | completion _ _, _ => Nat.le_add_right _ _
  | finished, h => absurd rfl h

/-- One step of a thread: of its nested call of `ctsSendRecvIocp`, framed by the callback
    around it, or of its own code. -/
theorem step_spec {th th' : IocpThread} {s s' : DriverState} (hth : th ≠ .finished)
    (hh : (th.holds : Int) ≤ s.held) (h : th.step env s = .ok (th', s')) :
    StepSpec th.holds th'.holds th.hand th'.hand s s' := by
  cases th with
  | ioFn f =>
    obtain ⟨⟨r, s₁⟩, hf, he⟩ := except_map_eq_ok h
    obtain ⟨rfl, rfl⟩ := Prod.mk.inj he
    cases r <;> exact f.step_spec hh hf
  | timer f n =>
    cases n with
    | some l =>
      obtain ⟨⟨r, s₁⟩, hf, he⟩ := except_map_eq_ok h
      obtain ⟨rfl, rfl⟩ := Prod.mk.inj he
      exact (l.step_spec (nested_holds_le hh) hf).frame f.holds f.hand
    | none =>
      obtain ⟨⟨r, s₁⟩, hf, he⟩ := except_map_eq_ok h
      obtain ⟨rfl, rfl⟩ := Prod.mk.inj he
      have := f.step_spec hh hf
      cases r <;> simpa [holds, hand, optHolds, optHand] using this
  | completion f n =>
    cases n with
    | some l =>
      obtain ⟨⟨r, s₁⟩, hf, he⟩ := except_map_eq_ok h
      obtain ⟨rfl, rfl⟩ := Prod.mk.inj he
      exact (l.step_spec (nested_holds_le hh) hf).frame f.holds f.hand
    | none =>
      obtain ⟨⟨r, s₁⟩, hf, he⟩ := except_map_eq_ok h
      obtain ⟨rfl, rfl⟩ := Prod.mk.inj he
      have := f.step_spec hh hf
      cases r <;> simpa [holds, hand, optHolds, optHand] using this
  | finished => exact absurd rfl hth

/-- No thread fails fast while it holds no more counts than are held. -/
theorem step_ne_error {th : IocpThread} {s : DriverState} (hh : (th.holds : Int) ≤ s.held)
    (e : DriverFailFast) : th.step env s ≠ .error e := by
  cases th with
  | ioFn f => exact fun h => f.step_ne_error hh e (except_map_eq_error h)
  | timer f n =>
    cases n with
    | some l => exact fun h => l.step_ne_error (nested_holds_le hh) e (except_map_eq_error h)
    | none => exact fun h => f.step_ne_error hh e (except_map_eq_error h)
  | completion f n =>
    cases n with
    | some l => exact fun h => l.step_ne_error (nested_holds_le hh) e (except_map_eq_error h)
    | none => exact fun h => f.step_ne_error s e (except_map_eq_error h)
  | finished => nofun

end IocpThread

/-! ## Every interleaving -/

section Threads

variable {α : Type}

/-- Replacing the `j`-th thread changes the total count by the difference. -/
theorem sum_map_set (f : α → Nat) (b : α) :
    ∀ {l : List α} {j : Nat} {a : α}, l[j]? = some a →
      ((l.set j b).map f).sum + f a = (l.map f).sum + f b
  | _ :: _, 0, _, h => by
    simp only [List.getElem?_cons_zero, Option.some.injEq] at h
    subst h; simp only [List.set_cons_zero, List.map_cons, List.sum_cons]; omega
  | x :: _, _ + 1, _, h => by
    simp only [List.getElem?_cons_succ] at h
    have := sum_map_set f b h
    simp only [List.set_cons_succ, List.map_cons, List.sum_cons]; omega

/-- The `j`-th thread's tasks, and those of the others. -/
theorem flatMap_perm_set (g : α → List ctsIOTask) (b : α) (hb : g b = []) :
    ∀ {l : List α} {j : Nat} {a : α}, l[j]? = some a →
      (l.flatMap g).Perm (g a ++ (l.set j b).flatMap g)
  | _ :: _, 0, _, h => by
    simp only [List.getElem?_cons_zero, Option.some.injEq] at h
    subst h; simp only [List.set_cons_zero, List.flatMap_cons, hb, List.nil_append]; rfl
  | x :: _, _ + 1, _, h => by
    simp only [List.getElem?_cons_succ] at h
    simp only [List.set_cons_succ, List.flatMap_cons]
    exact ((flatMap_perm_set g b hb h).append_left (g x)).trans (List.perm_append_comm_assoc _ _ _)

end Threads

open IocpThread in
/-- What holds in every configuration of the phase: the IO count is what the outstanding IOs
    and timers and the threads hold; every task is accounted for or in a thread's hands; only
    delayed tasks are given up; and the state is completed once when the phase is quiescent,
    never before. -/
structure IocpInv (c : IocpConfig) : Prop where
  counts : c.s.held = ((c.threads.map holds).sum : Nat)
  balanced : TasksAccounted (c.threads.flatMap hand) c.s
  dropped : c.s.DroppedDelayed
  completed : c.s.completeStates.length = if c.Quiescent then 1 else 0

namespace IocpConfig

open IocpThread

/-- With the counts as `IocpInv` has them, the phase is quiescent exactly when the IO count
    is zero. -/
theorem quiescent_iff (c : IocpConfig) (h : c.s.held = ((c.threads.map holds).sum : Nat)) :
    c.Quiescent ↔ c.s.io_count = 0 := by
  have hz : (c.threads.map holds).sum = 0 ↔ ∀ th ∈ c.threads, th = .finished := by
    simp only [List.sum_eq_zero_iff, List.mem_map, forall_exists_index, and_imp,
      forall_apply_eq_imp_iff₂]
    exact forall₂_congr fun th _ =>
      ⟨fun h => by_contra fun hne => by have := one_le_holds hne; omega, fun h => h ▸ rfl⟩
  simp only [held, outstanding] at h
  simp only [Quiescent, DriverState.Quiescent, ← hz, ← List.length_eq_zero]
  omega

theorem not_quiescent_of_running {c : IocpConfig} {th : IocpThread} (hm : th ∈ c.threads)
    (hth : th ≠ .finished) : ¬ c.Quiescent :=
  fun hq => hth (hq.2 th hm)

end IocpConfig

namespace IocpInv

open IocpThread

variable {env : DriverEnv}

/-- Each running thread holds no more counts than the running threads hold together. -/
theorem holds_le {c : IocpConfig} {th : IocpThread} (hc : IocpInv c) (hm : th ∈ c.threads) :
    (th.holds : Int) ≤ c.s.held := by
  rw [hc.counts]; exact Int.ofNat_le.2 (List.le_sum_of_mem (List.mem_map_of_mem _ hm))

theorem start (v : Bool) : IocpInv (IocpConfig.start v) where
  counts := rfl
  balanced := List.Perm.refl _
  dropped := fun _ h => absurd h (List.not_mem_nil _)
  completed := by
    rw [if_neg fun h => nomatch h.2 _ (List.mem_singleton_self _)]; rfl

/-- A callback starts on a new thread, taking the count and the task of what fired. -/
theorem spawn {c : IocpConfig} {s' : DriverState} {x : IocpThread} {t : ctsIOTask}
    (hc : IocpInv c) (hq : ¬ c.Quiescent) (hx : x.holds = 1) (hxt : x.hand = [t])
    (hne : x ≠ .finished) (hheld : s'.held = c.s.held + 1)
    (hb : TasksAccounted (t :: c.threads.flatMap hand) s') (hd : s'.dropped = c.s.dropped)
    (hcs : s'.completeStates = c.s.completeStates) : IocpInv ⟨s', c.threads ++ [x]⟩ where
  counts := by
    simp only [List.map_append, List.sum_append, List.map_cons, List.map_nil, List.sum_cons,
      List.sum_nil, hx, hheld, hc.counts]
    push_cast; ring
  balanced := by
    simp only [List.flatMap_append, List.flatMap_cons, List.flatMap_nil, hxt, List.append_nil]
    exact hb.trans (.append_left _ (List.perm_append_singleton _ _).symm)
  dropped := fun u hu => hc.dropped u (hd ▸ hu)
  completed := by
    have := hc.completed
    rw [if_neg hq] at this
    rw [if_neg (IocpConfig.not_quiescent_of_running (List.mem_append_right _
      (List.mem_singleton_self x)) hne), hcs, this]

/-- A step of one thread keeps the invariant. -/
theorem run {c : IocpConfig} {j : Nat} {th th' : IocpThread} {s' : DriverState}
    (hc : IocpInv c) (hj : c.threads[j]? = some th) (hth : th ≠ .finished)
    (hs : th.step env c.s = .ok (th', s')) : IocpInv ⟨s', c.threads.set j th'⟩ := by
  have hm := List.getElem?_mem hj
  have spec := step_spec hth (hc.holds_le hm) hs
  have hj' : (c.threads.set j th')[j]? = some th' :=
    List.getElem?_set_self (List.getElem?_eq_some_iff.1 hj).1
  have hcounts : s'.held = (((c.threads.set j th').map holds).sum : Nat) := by
    have := sum_map_set holds th' hj
    have := spec.held
    rw [hc.counts] at this
    omega
  refine ⟨hcounts, ?_, spec.dropped hc.dropped, ?_⟩
  · have hb := spec.balanced _ (hc.balanced.trans (.append_left _
      (flatMap_perm_set hand .finished rfl hj)))
    have := flatMap_perm_set hand .finished rfl hj'
    rw [List.set_set] at this
    exact hb.trans (.append_left _ this.symm)
  · have h0 := hc.completed
    rw [if_neg (IocpConfig.not_quiescent_of_running hm hth)] at h0
    obtain ⟨x, hx⟩ := spec.completed
    simp only [IocpConfig.quiescent_iff ⟨s', _⟩ hcounts, hx, List.length_append, h0]
    split <;> rfl

theorem step {c c' : IocpConfig} (hc : IocpInv c) : IocpStep env c c' → IocpInv c'
  | .run hj hth _ hs => hc.run hj hth hs
  | .complete hi =>
    have ht := take_pended hi
    hc.spawn (fun hq => by simp [hq.1.1] at hi) rfl rfl nofun ht.1 (ht.2 hc.balanced) rfl rfl
  | .fire hi =>
    have ht := take_timer hi
    hc.spawn (fun hq => by simp [hq.1.2] at hi) rfl rfl nofun ht.1 (ht.2 hc.balanced) rfl rfl

theorem reachable {v : Bool} {c : IocpConfig} (h : IocpReachable env v c) : IocpInv c := by
  induction h with
  | start => exact start v
  | step _ hs ih => exact ih.step hs

end IocpInv

/-- Under `ctsSendRecvIocp`, in every interleaving of the `io_fn` call with the callbacks the
    thread pool runs: the IO count is what the outstanding IOs and timers and the running
    threads hold; no thread's next step is either refcount `FAIL_FAST`; `complete_state` has
    been called once if no thread runs and nothing is outstanding, and not at all otherwise;
    every task `initiate_io` returned has been handed back to `complete_io` once, is
    outstanding, is in a running thread's hands, or was given up, and only a delayed task is
    ever given up. -/
theorem sendRecv_interleaved_laws (env : DriverEnv) (v : Bool) {c : IocpConfig}
    (hc : IocpReachable env v c) :
    c.s.io_count = c.s.outstanding + (c.threads.map IocpThread.holds).sum ∧
      (∀ th ∈ c.threads, ∀ f, th.step env c.s ≠ .error f) ∧
      c.s.completeStates.length = (if c.Quiescent then 1 else 0) ∧
      c.s.issued.Perm (c.s.handedBack.map Prod.fst ++ c.s.pended ++ c.s.timers ++
        c.s.dropped ++ c.threads.flatMap IocpThread.hand) ∧
      ∀ t ∈ c.s.dropped, 0 < t.time_offset_milliseconds := by
  have h := IocpInv.reachable hc
  have := h.counts
  simp only [DriverState.held] at this
  exact ⟨by omega, fun th hm f => IocpThread.step_ne_error (h.holds_le hm) f, h.completed,
    h.balanced, h.dropped⟩

theorem sendRecv_interleaved_laws_timerWaits :
    ∃ c, (IocpConfig.start true).schedule delayedSendEnv timerWaitsSchedule = some c ∧
      c.s.io_count = c.s.outstanding + (c.threads.map IocpThread.holds).sum ∧
      (∀ th ∈ c.threads, ∀ f, th.step delayedSendEnv c.s ≠ .error f) ∧
      c.s.completeStates.length = (if c.Quiescent then 1 else 0) ∧
      c.s.issued.Perm (c.s.handedBack.map Prod.fst ++ c.s.pended ++ c.s.timers ++
        c.s.dropped ++ c.threads.flatMap IocpThread.hand) ∧
      ∀ t ∈ c.s.dropped, 0 < t.time_offset_milliseconds :=
  have h : ((IocpConfig.start true).schedule delayedSendEnv timerWaitsSchedule).isSome := by
    decide
  let ⟨c, hc⟩ := Option.isSome_iff_exists.1 h
  ⟨c, hc, sendRecv_interleaved_laws _ _ (IocpConfig.schedule_reachable hc .start)⟩

end CtsTraffic
