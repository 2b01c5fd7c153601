import CtsTraffic.Driver.ReadWriteThreads
import CtsTraffic.Driver.Interleaved

/-
  What holds in every interleaving of the IO phase under `ctsReadWriteIocp`
  (`Driver.ReadWriteThreads`). As under `ctsSendRecvIocp`, each count of the IO count is owned
  by an outstanding IO or by the frame of the thread that took it. Unlike there, a call of
  `ctsReadWriteIocp` holds no count of its own and decides on `complete_state` from the value
  its last `increment_io` or `decrement_io` returned. That value is safe because of the socket
  lock: while the `io_fn` call runs, every callback waits to read its IO's result, so no other
  thread moves the IO count and the value is exact; a nested call runs inside a callback that
  holds a count, so the value is never zero.

  Proved:
  * `ReadWriteIocpInv.reachable`: in every interleaving, the counts and tasks are accounted for as
    under `ctsSendRecvIocp`; `complete_state` has been called at most once, and only once no
    thread runs and nothing is outstanding; while the `io_fn` call runs no callback is past
    its read; the `io_fn` call's `io_count` is `-1` or the socket's IO count, and a nested
    call's is never zero.
  * `readWrite_interleaved_laws`: those laws.
-/

namespace CtsTraffic

open DriverState

/-! ## What one step does -/

/-- What one step of a thread does to the socket, as `StepSpec` under `ctsSendRecvIocp`;
    `complete_state` is called only when `completes` holds. -/
structure ReadWriteStepSpec (h h' : Nat) (hand hand' : List ctsIOTask) (s s' : DriverState)
    (completes : Prop) : Prop where
  held : s'.held - h' = s.held - h
  balanced : ∀ rest, TasksAccounted (hand ++ rest) s → TasksAccounted (hand' ++ rest) s'
  timers : s'.timers = s.timers
  dropped : s'.dropped = s.dropped
  completed : s'.completeStates = s.completeStates ∨
    completes ∧ ∃ c, s'.completeStates = s.completeStates ++ [c]

namespace ReadWriteStepSpec

variable {h h' : Nat} {hand hand' : List ctsIOTask} {s s' : DriverState} {P Q : Prop}

/-- A step that calls no `complete_state`. -/
theorem keeping (hheld : s'.held - h' = s.held - h) (hcs : s'.completeStates = s.completeStates)
    (hb : ∀ rest, TasksAccounted (hand ++ rest) s → TasksAccounted (hand' ++ rest) s')
    (ht : s'.timers = s.timers) (hd : s'.dropped = s.dropped) :
    ReadWriteStepSpec h h' hand hand' s s' P :=
  ⟨hheld, hb, ht, hd, .inl hcs⟩

theorem mono (hs : ReadWriteStepSpec h h' hand hand' s s' P) (hPQ : P → Q) :
    ReadWriteStepSpec h h' hand hand' s s' Q :=
  ⟨hs.held, hs.balanced, hs.timers, hs.dropped, hs.completed.imp_right fun h => ⟨hPQ h.1, h.2⟩⟩

/-- A step of a nested call is a step of the thread around it. -/
theorem frame (k : Nat) (pre : List ctsIOTask) (hs : ReadWriteStepSpec h h' hand hand' s s' P) :
    ReadWriteStepSpec (k + h) (k + h') (pre ++ hand) (pre ++ hand') s s' P :=
  ⟨by have := hs.held; push_cast; omega, TasksAccounted.frame hs.balanced pre, hs.timers,
    hs.dropped, hs.completed⟩

end ReadWriteStepSpec

namespace ReadWriteFrame

open ReadWriteStepSpec (keeping)

variable {env : DriverEnv}

@[simp] theorem enter_locals (s : DriverState) : (enter s).locals.io_count = -1 := by
  unfold enter; split <;> rfl

@[simp] theorem enter_holds (s : DriverState) : (enter s).holds = 0 := by
  unfold enter; split <;> rfl

@[simp] theorem enter_hand (s : DriverState) : (enter s).hand = [] := by
  unfold enter; split <;> rfl

/-- One step of `ctsReadWriteIocp`: its `io_count` keeps the value of the socket's last
    `increment_io` or `decrement_io` it made, and only its return calls `complete_state`,
    when `io_count` is zero. -/
structure StepSpec (f : ReadWriteFrame) (r : Option ReadWriteFrame) (s s' : DriverState)
    extends ReadWriteStepSpec f.holds (optHolds r) f.hand (optHand r) s s'
      (r = none ∧ f.locals.io_count = 0 ∧ s'.io_count = s.io_count) : Prop where
  tracks : ∀ f', r = some f' → IoCountTracks f.locals s f'.locals s'

theorem step_spec {f : ReadWriteFrame} {s s' : DriverState} {r : Option ReadWriteFrame}
    (h : f.step env s = (r, s')) : StepSpec f r s s' := by
  cases f with
  | head l =>
    simp only [step] at h
    by_cases hl : !(!l.io_done ∧ l.io_error = NO_ERROR)
    · rw [if_pos hl] at h
      obtain ⟨rfl, rfl⟩ := Prod.mk.inj h
      exact ⟨keeping rfl rfl (fun _ hb => hb) rfl rfl, fun _ hf => by
        cases Option.some.inj hf; exact .inl ⟨rfl, rfl⟩⟩
    rw [if_neg hl] at h
    have hb := fun rest (hb : TasksAccounted ([] ++ rest) s) => TasksAccounted.initiate env hb
    rcases hi : s.initiate env with ⟨t, s₁⟩
    obtain rfl : s₁ = (s.initiate env).2 := by rw [hi]
    have ht : (s.initiate env).1 = t := by rw [hi]
    rw [ht] at hb
    rw [hi] at h
    dsimp only at h
    by_cases hn : t.ioAction = .None
    · rw [if_pos hn] at h
      obtain ⟨rfl, rfl⟩ := Prod.mk.inj h
      exact ⟨keeping (by simp [holds, optHolds]) (initiate_completeStates env s)
        (fun rest h => by simpa only [if_pos hn] using hb rest h) rfl rfl, fun _ hf => by
          cases Option.some.inj hf; exact .inl ⟨rfl, initiate_io_count env s⟩⟩
    rw [if_neg hn] at h
    have hb' : ∀ rest, TasksAccounted ([] ++ rest) s →
        TasksAccounted ([t] ++ rest) (s.initiate env).2 := fun rest h => by
      simpa only [if_neg hn] using hb rest h
    split at h <;> obtain ⟨rfl, rfl⟩ := Prod.mk.inj h <;>
      exact ⟨keeping (by simp [holds, optHolds]) (initiate_completeStates env s) hb' rfl rfl,
        fun _ hf => by cases Option.some.inj hf; exact .inl ⟨rfl, initiate_io_count env s⟩⟩
  | shutdown l t =>
    rcases hr : readWriteTask env l t s with ⟨l₁, s₁⟩
    simp only [step, hr] at h
    obtain ⟨rfl, rfl⟩ := Prod.mk.inj h
    obtain ⟨hh, hc, htm, hd, hb, hio⟩ := readWriteTask_spec env hr
    exact ⟨keeping (by simp [hh, holds, optHolds]) hc (fun rest h => by simpa using hb rest h)
      htm hd, fun _ hf => by cases Option.some.inj hf; exact hio⟩
  | count l t =>
    obtain ⟨rfl, rfl⟩ := Prod.mk.inj h
    exact ⟨keeping (by simp [holds, optHolds]) rfl (fun _ hb => hb) rfl rfl, fun _ hf => by
      cases Option.some.inj hf; exact .inr rfl⟩
  | start l t =>
    simp only [step] at h
    rcases ha : s.tryAlloc env with ⟨thrown, s₁⟩
    obtain rfl : s₁ = (s.tryAlloc env).2 := by rw [ha]
    rw [ha] at h
    dsimp only at h
    by_cases he : thrown.getD l.io_error ≠ NO_ERROR
    · rw [if_pos he] at h
      obtain ⟨rfl, rfl⟩ := Prod.mk.inj h
      exact ⟨keeping (by simp [holds, optHolds]) (tryAlloc_completeStates env s) (fun _ hb => hb)
        rfl rfl, fun _ hf => by cases Option.some.inj hf; exact .inl ⟨rfl, rfl⟩⟩
    rw [if_neg he] at h
    rcases ho : (s.tryAlloc env).2.osCall env with ⟨⟨err, bytes⟩, s₂⟩
    obtain rfl : s₂ = ((s.tryAlloc env).2.osCall env).2 := by rw [ho]
    rw [ho] at h
    dsimp only at h
    by_cases hf : (if err = ERROR_IO_PENDING then NO_ERROR else err) ≠ NO_ERROR
    · rw [if_pos hf] at h
      obtain ⟨rfl, rfl⟩ := Prod.mk.inj h
      exact ⟨keeping (by simp [holds, optHolds]) (by simp) (fun _ hb => hb) rfl rfl,
        fun _ hf => by cases Option.some.inj hf; exact .inl ⟨rfl, rfl⟩⟩
    · rw [if_neg hf] at h
      obtain ⟨rfl, rfl⟩ := Prod.mk.inj h
      exact ⟨keeping (by simp [holds, optHolds, held, outstanding, osCall, tryAlloc]; omega)
        (by simp) (fun _ hb => TasksAccounted.pend (s := ((s.tryAlloc env).2.osCall env).2) hb)
        rfl rfl,
        fun _ hf => by cases Option.some.inj hf; exact .inl ⟨rfl, rfl⟩⟩
  | uncount l t thrown e =>
    obtain ⟨rfl, rfl⟩ := Prod.mk.inj h
    exact ⟨keeping (by simp [holds, optHolds]) rfl (fun _ hb => hb) rfl rfl, fun _ hf => by
      cases Option.some.inj hf; exact .inr rfl⟩
  | fail l t thrown e =>
    simp only [step] at h
    rcases hc : s.complete env t 0 e with ⟨st, s₁⟩
    obtain rfl : s₁ = (s.complete env t 0 e).2 := by rw [hc]
    rw [hc] at h
    dsimp only at h
    have spec : ∀ l', l'.io_count = l.io_count →
        StepSpec (fail l t thrown e) (some (head l')) s (s.complete env t 0 e).2 :=
      fun _ hl' => ⟨keeping (by simp [holds, optHolds]) (complete_completeStates env s t 0 e)
        (fun _ hb => TasksAccounted.complete hb) rfl rfl, fun _ hf => by
          cases Option.some.inj hf; exact .inl ⟨hl', complete_io_count env s t 0 e⟩⟩
    split at h <;> [skip; split at h] <;> obtain ⟨rfl, rfl⟩ := Prod.mk.inj h <;>
      exact spec _ rfl
  | exit l =>
    simp only [step] at h
    obtain ⟨rfl, rfl⟩ := Prod.mk.inj h
    by_cases hz : l.io_count = 0
    · rw [if_pos hz]
      exact ⟨⟨rfl, fun _ hb => hb, rfl, rfl, .inr ⟨⟨rfl, hz, rfl⟩, l.io_error, rfl⟩⟩,
        fun _ hf => Option.noConfusion hf⟩
    · rw [if_neg hz]
      exact ⟨keeping rfl rfl (fun _ hb => hb) rfl rfl, fun _ hf => Option.noConfusion hf⟩

end ReadWriteFrame

namespace ReadWriteCompletionFrame

open ReadWriteStepSpec (keeping)
open ReadWriteFrame (optHolds optHand)

variable {env : DriverEnv}

/-- One step of `ctsReadWriteIocpIoCompletionCallback`: only its return calls
    `complete_state`, when it leaves the IO count at zero. -/
theorem step_spec {f : ReadWriteCompletionFrame} {s s' : DriverState}
    {r : Option (ReadWriteCompletionFrame × Option ReadWriteFrame)} (h : f.step env s = (r, s')) :
    ReadWriteStepSpec f.holds (r.elim 0 fun p => p.1.holds + optHolds p.2) f.hand
      (r.elim [] fun p => p.1.hand ++ optHand p.2) s s' (r = none ∧ s'.io_count = 0) := by
  cases f with
  | read t =>
    simp only [step] at h
    rcases hv : s.overlappedResult env with ⟨⟨g, tr⟩, s₁⟩
    rw [hv] at h
    obtain ⟨rfl, rfl⟩ := Prod.mk.inj h
    obtain rfl : s₁ = _ := (congrArg Prod.snd hv).symm.trans (overlappedResult_snd env s)
    exact keeping (by simp [holds, optHolds]; rfl) rfl
      (fun _ hb => by simpa [hand, optHand] using hb) rfl rfl
  | complete t g tr =>
    simp only [step] at h
    rcases hc : s.complete env t tr g with ⟨st, s₁⟩
    obtain rfl : s₁ = (s.complete env t tr g).2 := by rw [hc]
    rw [hc] at h
    cases st <;> obtain ⟨rfl, rfl⟩ := Prod.mk.inj h <;>
      exact keeping (by simp [holds, optHolds]) (complete_completeStates env s t tr g)
        (fun _ hb => by simpa [hand, optHand] using TasksAccounted.complete hb) rfl rfl
  | call =>
    obtain ⟨rfl, rfl⟩ := Prod.mk.inj h
    exact keeping (by simp [holds, optHolds]) rfl (fun _ hb => by simpa [hand, optHand] using hb)
      rfl rfl
  | exit c =>
    obtain ⟨rfl, rfl⟩ := Prod.mk.inj h
    have hs := StepSpec.dropCount s c
    exact ⟨by simpa [holds] using hs.held, hs.balanced, by unfold dropCount; split <;> rfl,
      by unfold dropCount; split <;> rfl, by
        obtain ⟨c', hc'⟩ := hs.completed
        by_cases hz : (s.dropCount c).io_count = 0
        · exact .inr ⟨⟨rfl, hz⟩, c', by rw [hc', if_pos hz]⟩
        · exact .inl (by rw [hc', if_neg hz, List.append_nil])⟩

/-- The call of `ctsReadWriteIocp` a callback starts is at its start. -/
theorem step_nested {f f' : ReadWriteCompletionFrame} {l : ReadWriteFrame} {s s' : DriverState}
    (h : f.step env s = (some (f', some l), s')) : l.locals.io_count = -1 := by
  cases f with
  | read t =>
    rcases hv : s.overlappedResult env with ⟨⟨g, tr⟩, s₁⟩
    simp [step, hv] at h
  | complete t g tr =>
    simp only [step] at h
    split at h <;> cases h
  | call =>
    obtain ⟨h₁, -⟩ := Prod.mk.inj h
    cases h₁
    exact ReadWriteFrame.enter_locals s
  | exit c => cases h

end ReadWriteCompletionFrame

namespace ReadWriteThread

open ReadWriteFrame (optHolds optHand)

variable {env : DriverEnv}

/-- What the thread's call of `ctsReadWriteIocp` knows of the IO count, given the socket's:
    the `io_fn` call's `io_count` is `-1` or exact, and a nested call's is never zero. -/
def LocalOk (io_count : Int) : ReadWriteThread → Prop
  | ioFn f => f.locals.io_count = -1 ∨ f.locals.io_count = io_count
  | completion _ (some l) => l.locals.io_count ≠ 0
  | _ => True

theorem localOk_of_not_ioFn {th : ReadWriteThread} {n n' : Int} (h : th.isIoFn = false)
    (hl : th.LocalOk n) : th.LocalOk n' := by
  cases th with
  | ioFn f => cases h
  | completion f m => cases m <;> exact hl
  | finished => trivial

theorem isIoFn_of_step {th th' : ReadWriteThread} {s s' : DriverState}
    (h : th.step env s = (th', s')) (hi : th'.isIoFn = true) : th.isIoFn = true := by
  cases th with
  | ioFn f => rfl
  | completion f n =>
    cases n with
    | some l =>
      rcases hf : l.step env s with ⟨r, s₁⟩
      simp only [step, hf] at h
      obtain ⟨rfl, -⟩ := Prod.mk.inj h
      cases hi
    | none =>
      rcases hf : f.step env s with ⟨r, s₁⟩
      simp only [step, hf] at h
      obtain ⟨rfl, -⟩ := Prod.mk.inj h
      rcases r with _ | ⟨_, _⟩ <;> cases hi
  | finished => obtain ⟨rfl, -⟩ := Prod.mk.inj h; cases hi

/-- A callback not past its read, or its call of `ctsReadWriteIocp`, takes the lock next. -/
theorem acquires_of_not_pastRead {th : ReadWriteThread} (hp : th.pastRead = false)
    (hi : th.isIoFn = false) (hth : th ≠ .finished) : th.acquires = true := by
  cases th with
  | ioFn f => cases hi
  | completion f n => cases f <;> cases n <;> first | rfl | cases hp
  | finished => exact absurd rfl hth

theorem one_le_holds_of_completion {f : ReadWriteCompletionFrame} {n : Option ReadWriteFrame} :
    1 ≤ (completion f n).holds :=
  Nat.le_add_right _ _

/-- A thread that holds no count and is not the `io_fn` call has returned. -/
theorem finished_of_holds {th : ReadWriteThread} (h : th.holds = 0) (hi : th.isIoFn = false) :
    th = .finished := by
  cases th with
  | ioFn f => cases hi
  | completion f n => have := (one_le_holds_of_completion (f := f) (n := n)); omega
  | finished => rfl

/-- One step of a thread, its nested call framed by the callback around it: it calls
    `complete_state` only as it returns, leaving the IO count at zero. -/
theorem step_spec {th th' : ReadWriteThread} {s s' : DriverState} (hl : th.LocalOk s.io_count)
    (h : th.step env s = (th', s')) :
    ReadWriteStepSpec th.holds th'.holds th.hand th'.hand s s'
      (th' = .finished ∧ s'.io_count = 0) := by
  cases th with
  | ioFn f =>
    rcases hf : f.step env s with ⟨r, s₁⟩
    simp only [step, hf] at h
    obtain ⟨rfl, rfl⟩ := Prod.mk.inj h
    have spec := (ReadWriteFrame.step_spec hf).toReadWriteStepSpec.mono
      (Q := r.elim finished ioFn = .finished ∧ s₁.io_count = 0) fun ⟨hr, hz, hs⟩ =>
        ⟨by rw [hr]; rfl, by rcases hl with hl | hl <;> omega⟩
    cases r <;> exact spec
  | completion f n =>
    cases n with
    | some l =>
      rcases hf : l.step env s with ⟨r, s₁⟩
      simp only [step, hf] at h
      obtain ⟨rfl, rfl⟩ := Prod.mk.inj h
      exact ((ReadWriteFrame.step_spec hf).toReadWriteStepSpec.mono
        fun ⟨_, hz, _⟩ => absurd hz hl).frame f.holds f.hand
    | none =>
      rcases hf : f.step env s with ⟨r, s₁⟩
      simp only [step, hf] at h
      obtain ⟨rfl, rfl⟩ := Prod.mk.inj h
      have spec := (ReadWriteCompletionFrame.step_spec hf).mono
        (Q := r.elim finished (fun p => completion p.1 p.2) = .finished ∧ s₁.io_count = 0)
        fun ⟨hr, hz⟩ => ⟨by rw [hr]; rfl, hz⟩
      cases r <;> simpa [holds, hand, optHolds, optHand] using spec
  | finished =>
    obtain ⟨rfl, rfl⟩ := Prod.mk.inj h
    exact ReadWriteStepSpec.keeping rfl rfl (fun _ hb => hb) rfl rfl

/-- After a step, the thread's call of `ctsReadWriteIocp` still knows the IO count as
    `LocalOk` says: its own `increment_io` and `decrement_io` set its `io_count`, and a nested
    call's is not zero while the callback around it holds a count. -/
theorem localOk_step {th th' : ReadWriteThread} {s s' : DriverState}
    (hl : th.LocalOk s.io_count) (h : th.step env s = (th', s'))
    (hpos : (th'.holds : Int) ≤ s'.held) : th'.LocalOk s'.io_count := by
  cases th with
  | ioFn f =>
    rcases hf : f.step env s with ⟨r, s₁⟩
    simp only [step, hf] at h
    obtain ⟨rfl, rfl⟩ := Prod.mk.inj h
    cases r with
    | none => trivial
    | some f' =>
      have ht := (ReadWriteFrame.step_spec hf).tracks f' rfl
      simp only [Option.elim, LocalOk, IoCountTracks] at hl ht ⊢
      omega
  | completion f n =>
    cases n with
    | some l =>
      rcases hf : l.step env s with ⟨r, s₁⟩
      simp only [step, hf] at h
      obtain ⟨rfl, rfl⟩ := Prod.mk.inj h
      cases r with
      | none => trivial
      | some l' =>
        have ht := (ReadWriteFrame.step_spec hf).tracks l' rfl
        have : 1 ≤ s₁.io_count := by
          have := one_le_holds_of_completion (f := f) (n := some l')
          simp only [held, outstanding] at hpos; omega
        simp only [LocalOk, IoCountTracks] at hl ht ⊢
        omega
    | none =>
      rcases hf : f.step env s with ⟨r, s₁⟩
      simp only [step, hf] at h
      obtain ⟨rfl, rfl⟩ := Prod.mk.inj h
      rcases r with _ | ⟨f', _ | l⟩
      · trivial
      · trivial
      · have := ReadWriteCompletionFrame.step_nested hf
        simp only [Option.elim, LocalOk]; omega
  | finished =>
    obtain ⟨rfl, -⟩ := Prod.mk.inj h
    trivial

end ReadWriteThread

/-! ## Every interleaving -/

theorem getElem?_set_some {α : Type} {l : List α} {j k : Nat} {b w : α}
    (h : (l.set j b)[k]? = some w) : (k = j ∧ w = b) ∨ (k ≠ j ∧ l[k]? = some w) := by
  rw [List.getElem?_set] at h
  by_cases hk : j = k
  · rw [if_pos hk] at h
    split at h
    · exact .inl ⟨hk.symm, (Option.some.inj h).symm⟩
    · cases h
  · rw [if_neg hk] at h
    exact .inr ⟨Ne.symm hk, h⟩

theorem getElem?_concat_some {α : Type} {l : List α} {k : Nat} {x w : α}
    (h : (l ++ [x])[k]? = some w) : l[k]? = some w ∨ w = x := by
  by_cases hk : k < l.length
  · rw [List.getElem?_append_left hk] at h
    exact .inl h
  · rw [List.getElem?_append_right (by omega)] at h
    exact .inr (List.mem_singleton.1 (List.getElem?_mem h))

theorem forall_mem_set {α : Type} {P : α → Prop} {l : List α} {j : Nat} {b : α} (hb : P b)
    (hl : ∀ k a, k ≠ j → l[k]? = some a → P a) : ∀ a ∈ l.set j b, P a := by
  intro a ha
  obtain ⟨k, hk⟩ := List.mem_iff_getElem?.1 ha
  rcases getElem?_set_some hk with ⟨-, rfl⟩ | ⟨hne, hk⟩
  · exact hb
  · exact hl k a hne hk

theorem ReadWriteThread.pastRead_of_ioFn_step {env : DriverEnv} {f : ReadWriteFrame}
    {th' : ReadWriteThread} {s s' : DriverState}
    (h : (ReadWriteThread.ioFn f).step env s = (th', s')) :
    th'.pastRead = false ∧ th'.isIoFn = true ∨ th' = .finished := by
  rcases hf : f.step env s with ⟨r, s₁⟩
  simp only [ReadWriteThread.step, hf] at h
  obtain ⟨rfl, -⟩ := Prod.mk.inj h
  cases r
  · exact .inr rfl
  · exact .inl ⟨rfl, rfl⟩

open ReadWriteThread in
/-- What holds in every configuration of the phase under `ctsReadWriteIocp`: the IO count is
    what the outstanding IOs and the threads hold; every task is accounted for or in a
    thread's hands; no timer is set and no task given up; the state is completed at most once,
    and only once the phase is quiescent; the `io_fn` call is the first thread, and while it
    runs no callback is past its read; and each call of `ctsReadWriteIocp` knows the IO count
    as `LocalOk` says. -/
structure ReadWriteIocpInv (c : ReadWriteConfig) : Prop where
  counts : c.s.held = ((c.threads.map holds).sum : Nat)
  balanced : TasksAccounted (c.threads.flatMap hand) c.s
  timers : c.s.timers = []
  dropped : c.s.dropped = []
  completed : c.s.completeStates.length ≤ 1
  quiet : c.s.completeStates ≠ [] → c.Quiescent
  ioFn_first : ∀ j th, c.threads[j]? = some th → th.isIoFn = true → j = 0
  waiting : ∀ th ∈ c.threads, th.isIoFn = true → ∀ u ∈ c.threads, u.pastRead = false
  locals : ∀ th ∈ c.threads, th.LocalOk c.s.io_count

namespace ReadWriteIocpInv

open ReadWriteThread

variable {env : DriverEnv}

theorem holds_le {c : ReadWriteConfig} {th : ReadWriteThread}
    (h : c.s.held = ((c.threads.map holds).sum : Nat)) (hm : th ∈ c.threads) :
    (th.holds : Int) ≤ c.s.held := by
  rw [h]; exact Int.ofNat_le.2 (List.le_sum_of_mem (List.mem_map_of_mem _ hm))

theorem completeStates_nil {c : ReadWriteConfig} {th : ReadWriteThread} (hc : ReadWriteIocpInv c)
    (hm : th ∈ c.threads) (hth : th ≠ .finished) : c.s.completeStates = [] :=
  by_contra fun hne => hth ((hc.quiet hne).2 th hm)

/-- With the counts as `ReadWriteIocpInv` has them, an IO count of zero and no `io_fn` call running
    leave the phase quiescent. -/
theorem quiescent_of_zero {c : ReadWriteConfig}
    (h : c.s.held = ((c.threads.map holds).sum : Nat)) (hz : c.s.io_count = 0)
    (hi : ∀ th ∈ c.threads, th.isIoFn = false) : c.Quiescent := by
  have hsum : (c.threads.map holds).sum = 0 ∧ c.s.pended.length + c.s.timers.length = 0 := by
    simp only [held, outstanding] at h; omega
  refine ⟨⟨List.eq_nil_of_length_eq_zero (by omega), List.eq_nil_of_length_eq_zero (by omega)⟩,
    fun th hm => finished_of_holds ?_ (hi th hm)⟩
  exact List.sum_eq_zero_iff.1 hsum.1 _ (List.mem_map_of_mem _ hm)

theorem start (v : Bool) : ReadWriteIocpInv (ReadWriteConfig.start v) where
  counts := by simp [ReadWriteConfig.start, holds]
  balanced := by simp [ReadWriteConfig.start, hand, TasksAccounted, accounted, DriverState.start]
  timers := rfl
  dropped := rfl
  completed := Nat.zero_le 1
  quiet := fun h => absurd rfl h
  ioFn_first := fun j th hj _ => by
    have := (List.getElem?_eq_some_iff.1 hj).1
    simp only [ReadWriteConfig.start, List.length_singleton] at this; omega
  waiting := fun _ _ _ u hu => by
    simp only [ReadWriteConfig.start, List.mem_singleton] at hu; rw [hu]; rfl
  locals := fun th hm => by
    simp only [ReadWriteConfig.start, List.mem_singleton] at hm
    rw [hm]; exact .inl (ReadWriteFrame.enter_locals _)

/-- The thread pool runs a completion callback on a new thread. -/
theorem complete {c : ReadWriteConfig} {i : Nat} {t : ctsIOTask} (hc : ReadWriteIocpInv c)
    (hi : c.s.pended[i]? = some t) :
    ReadWriteIocpInv ⟨{ c.s with pended := c.s.pended.eraseIdx i },
      c.threads ++ [.completion (.read t) none]⟩ := by
  obtain ⟨hheld, hb⟩ := take_pended hi
  have hcs : c.s.completeStates = [] := by
    by_contra hne
    have := (hc.quiet hne).1.1
    simp [this] at hi
  refine ⟨?_, ?_, hc.timers, hc.dropped, by simp [hcs], fun hne => absurd hcs hne, ?_, ?_, ?_⟩
  · simp only [List.map_append, List.sum_append, List.map_cons, List.map_nil, List.sum_cons,
      List.sum_nil, hheld, hc.counts]
    simp [holds, ReadWriteCompletionFrame.holds, ReadWriteFrame.optHolds]
  · simp only [List.flatMap_append, List.flatMap_cons, List.flatMap_nil, List.append_nil]
    exact (hb hc.balanced).trans (.append_left _ (List.perm_append_singleton _ _).symm)
  · intro k u hu hi'
    rcases getElem?_concat_some hu with hu | rfl
    · exact hc.ioFn_first k u hu hi'
    · cases hi'
  · intro x hx hi' u hu
    rcases List.mem_append.1 hx with hx | hx
    · rcases List.mem_append.1 hu with hu | hu
      · exact hc.waiting x hx hi' u hu
      · rw [List.mem_singleton.1 hu]; rfl
    · rw [List.mem_singleton.1 hx] at hi'; cases hi'
  · intro u hu
    rcases List.mem_append.1 hu with hu | hu
    · exact hc.locals u hu
    · rw [List.mem_singleton.1 hu]; trivial

/-- A step of one thread. The lock matters here: a callback that has not read its result
    waits while the `io_fn` call runs, so either the step is the `io_fn` call's, or no `io_fn`
    call runs. -/
theorem run {c : ReadWriteConfig} {j : Nat} {th th' : ReadWriteThread} {s' : DriverState}
    (hc : ReadWriteIocpInv c) (hj : c.threads[j]? = some th) (hth : th ≠ .finished)
    (hlock : th.acquires = true → ∀ k u, k ≠ j → c.threads[k]? = some u → u.locked = false)
    (hs : th.step env c.s = (th', s')) : ReadWriteIocpInv ⟨s', c.threads.set j th'⟩ := by
  have hm := List.getElem?_mem hj
  have spec := step_spec (hc.locals th hm) hs
  have hj' : (c.threads.set j th')[j]? = some th' :=
    List.getElem?_set_self (List.getElem?_eq_some_iff.1 hj).1
  have hcounts : s'.held = (((c.threads.set j th').map holds).sum : Nat) := by
    have := sum_map_set holds th' hj
    have := spec.held
    rw [hc.counts] at this
    omega
  have hcs := hc.completeStates_nil hm hth
  have halone : ∀ k u, k ≠ j → c.threads[k]? = some u → u.isIoFn = false := by
    intro k u hk hu
    cases hi : u.isIoFn
    · rfl
    by_cases hti : th.isIoFn = true
    · exact absurd ((hc.ioFn_first k u hu hi).trans (hc.ioFn_first j th hj hti).symm) hk
    · have ha := acquires_of_not_pastRead (hc.waiting u (List.getElem?_mem hu) hi th hm)
        (by simpa using hti) hth
      have hl : u.locked = true := by cases u <;> first | rfl | cases hi
      rw [hlock ha k u hk hu] at hl; cases hl
  have hpos : (th'.holds : Int) ≤ s'.held :=
    holds_le (c := ⟨s', c.threads.set j th'⟩) hcounts (List.getElem?_mem hj')
  have hlocals : ∀ u ∈ c.threads.set j th', u.LocalOk s'.io_count :=
    forall_mem_set (localOk_step (hc.locals th hm) hs hpos)
      fun k u hk hu => localOk_of_not_ioFn (halone k u hk hu) (hc.locals u (List.getElem?_mem hu))
  refine ⟨hcounts, ?_, spec.timers.trans hc.timers, spec.dropped.trans hc.dropped, ?_, ?_, ?_, ?_,
    hlocals⟩
  · have hb := spec.balanced _ (hc.balanced.trans (.append_left _
      (flatMap_perm_set hand .finished rfl hj)))
    have := flatMap_perm_set hand .finished rfl hj'
    rw [List.set_set] at this
    exact hb.trans (.append_left _ this.symm)
  · rcases spec.completed with h | ⟨-, x, h⟩ <;> simp [h, hcs]
  · rcases spec.completed with h | ⟨⟨hfin, hz⟩, x, h⟩
    · exact fun hne => absurd (h.trans hcs) hne
    · exact fun _ => quiescent_of_zero hcounts hz (forall_mem_set (by rw [hfin]; rfl) halone)
  · intro k u hu hi
    rcases getElem?_set_some hu with ⟨rfl, rfl⟩ | ⟨hk, hu⟩
    · exact hc.ioFn_first k th hj (isIoFn_of_step hs hi)
    · exact hc.ioFn_first k u hu hi
  · intro x hx hi
    have hti : th.isIoFn = true := by
      obtain ⟨k, hk⟩ := List.mem_iff_getElem?.1 hx
      rcases getElem?_set_some hk with ⟨-, rfl⟩ | ⟨hne, hk⟩
      · exact isIoFn_of_step hs hi
      · rw [halone k x hne hk] at hi; cases hi
    obtain ⟨f, rfl⟩ : ∃ f, th = .ioFn f := by cases th <;> first | exact ⟨_, rfl⟩ | cases hti
    refine forall_mem_set ?_ fun k u _ hu => hc.waiting _ hm hti u (List.getElem?_mem hu)
    rcases pastRead_of_ioFn_step hs with ⟨h, -⟩ | rfl
    · exact h
    · rfl

theorem step {c c' : ReadWriteConfig} (hc : ReadWriteIocpInv c) :
    ReadWriteStep env c c' → ReadWriteIocpInv c'
  | .run hj hth hlock hs => hc.run hj hth hlock hs
  | .complete hi => hc.complete hi

theorem reachable {v : Bool} {c : ReadWriteConfig} (h : ReadWriteReachable env v c) :
    ReadWriteIocpInv c := by
  induction h with
  | start => exact start v
  | step _ hs ih => exact ih.step hs

end ReadWriteIocpInv

/-- Every interleaving of the phase under `ctsReadWriteIocp`: the IO count is what the
    outstanding IOs and the running threads hold; every task `initiate_io` returned is handed
    back, outstanding, or in a running thread's hands; `complete_state` has been called at most
    once, and only once no thread runs and nothing is outstanding; while the `io_fn` call runs
    no callback is past its read; and the IO count each running call of `ctsReadWriteIocp`
    decides on is exact for the `io_fn` call and never zero for a nested one. -/
theorem readWrite_interleaved_laws (env : DriverEnv) (v : Bool) {c : ReadWriteConfig}
    (hc : ReadWriteReachable env v c) :
    c.s.io_count = c.s.outstanding + (c.threads.map ReadWriteThread.holds).sum ∧
      c.s.completeStates.length ≤ 1 ∧ (c.s.completeStates ≠ [] → c.Quiescent) ∧
      c.s.issued.Perm (c.s.handedBack.map Prod.fst ++ c.s.pended ++
        c.threads.flatMap ReadWriteThread.hand) ∧
      (∀ th ∈ c.threads, th.isIoFn = true → ∀ u ∈ c.threads, u.pastRead = false) ∧
      ∀ th ∈ c.threads, th.LocalOk c.s.io_count := by
  have h := ReadWriteIocpInv.reachable hc
  have hcounts := h.counts
  have hb := h.balanced
  simp only [DriverState.held] at hcounts
  simp only [TasksAccounted, accounted, h.timers, h.dropped, List.append_nil] at hb
  exact ⟨by omega, h.completed, h.quiet, hb, h.waiting, h.locals⟩

theorem readWrite_interleaved_laws_delayedSend :
    ∃ c, (ReadWriteConfig.start true).schedule delayedSendEnv (readWriteSendSchedule.take 4) =
        some c ∧
      c.s.io_count = c.s.outstanding + (c.threads.map ReadWriteThread.holds).sum ∧
      c.s.completeStates.length ≤ 1 ∧ (c.s.completeStates ≠ [] → c.Quiescent) ∧
      c.s.issued.Perm (c.s.handedBack.map Prod.fst ++ c.s.pended ++
        c.threads.flatMap ReadWriteThread.hand) ∧
      (∀ th ∈ c.threads, th.isIoFn = true → ∀ u ∈ c.threads, u.pastRead = false) ∧
      ∀ th ∈ c.threads, th.LocalOk c.s.io_count :=
  have h : ((ReadWriteConfig.start true).schedule delayedSendEnv
      (readWriteSendSchedule.take 4)).isSome := by
    decide
  let ⟨c, hc⟩ := Option.isSome_iff_exists.1 h
  ⟨c, hc, readWrite_interleaved_laws _ _ (ReadWriteConfig.schedule_reachable hc .start)⟩

end CtsTraffic
