import CtsTraffic.Basic

/-
  The send throttle `ctsIOPatternRateLimitPolicy<ctsIOPatternRateLimitThrottle>`
  (ctsIOPatternRateLimitPolicy.hpp). It keeps one quantum: its start time and the bytes given
  to it so far. A send goes into the current quantum while that has fewer than
  `BytesSendingPerQuantum` bytes, scheduled at its clock reading, or at the quantum's start if
  the clock is before it; otherwise it opens a new quantum at least `QuantumPeriodMs` later
  and is scheduled at its start.

  The budget is checked before a send is added, so a quantum can hold
  `BytesSendingPerQuantum - 1` bytes and then one more buffer. Over `k` quanta the schedule
  carries up to `k * (BytesSendingPerQuantum - 1 + S)` bytes of sends of at most `S` bytes
  (`throttle_overshoots`), and never more (`throttle_bytes_before`, for any clock readings).

  `ctsUnsignedLongLong` values and clock readings are `Nat`s; `time_offset_milliseconds` is an
  `Int`, and a send is scheduled at its clock reading plus that offset.
-/

namespace CtsTraffic

/-- `ctsIOPatternRateLimitPolicy<ctsIOPatternRateLimitThrottle>`. -/
structure ctsIOPatternRateLimitPolicy where
  BytesSendingPerQuantum : Nat
  QuantumPeriodMs : Nat
  bytes_sent_this_quantum : Nat
  quantum_start_time_ms : Nat
  deriving DecidableEq, Repr

namespace ctsIOPatternRateLimitPolicy

/-- The constructor: the budget of a quantum from `ctsConfig::GetTcpBytesPerSecond()` and
    `TcpBytesPerSecondPeriod`, the first quantum starting at the clock reading `now`. -/
def make (TcpBytesPerSecond TcpBytesPerSecondPeriod now : Nat) : ctsIOPatternRateLimitPolicy :=
  ⟨TcpBytesPerSecond * TcpBytesPerSecondPeriod / 1000, TcpBytesPerSecondPeriod, 0, now⟩

/-- `newQuantumStartTime`: the first quantum after the ones the bytes sent so far fill. -/
def newQuantumStartTime (p : ctsIOPatternRateLimitPolicy) : Nat :=
  p.quantum_start_time_ms +
    p.bytes_sent_this_quantum / p.BytesSendingPerQuantum * p.QuantumPeriodMs

/-- `update_time_offset` for a task of `buffer_size` bytes at the clock reading
    `current_time_ms` (`ctl::ctTimer::SnapQpcInMillis()`). -/
def update_time_offset (p : ctsIOPatternRateLimitPolicy) (task : ctsIOTask)
    (buffer_size current_time_ms : Nat) : ctsIOTask × ctsIOPatternRateLimitPolicy :=
  if task.ioAction ≠ .Send then (task, p)
  else
    let task := { task with time_offset_milliseconds := 0 }
    if p.bytes_sent_this_quantum < p.BytesSendingPerQuantum then
      if current_time_ms < p.quantum_start_time_ms + p.QuantumPeriodMs then
        if current_time_ms > p.quantum_start_time_ms then
          -- time is in the current quantum
          (task, { p with bytes_sent_this_quantum := p.bytes_sent_this_quantum + buffer_size })
        else
          -- time is still in a prior quantum
          ({ task with
              time_offset_milliseconds := (p.newQuantumStartTime : Int) - current_time_ms },
            { p with bytes_sent_this_quantum := p.bytes_sent_this_quantum + buffer_size })
      else
        -- time is already in a new quantum - start over
        (task, { p with
          bytes_sent_this_quantum := buffer_size
          quantum_start_time_ms :=
            p.quantum_start_time_ms + (current_time_ms - p.quantum_start_time_ms) })
    else
      -- have already fulfilled the prior quantum
      let new_quantum_start_time_ms := p.newQuantumStartTime
      if current_time_ms < new_quantum_start_time_ms then
        ({ task with
            time_offset_milliseconds := (new_quantum_start_time_ms : Int) - current_time_ms },
          { p with
            bytes_sent_this_quantum := buffer_size
            quantum_start_time_ms := new_quantum_start_time_ms })
      else
        (task, { p with
          bytes_sent_this_quantum := buffer_size
          quantum_start_time_ms :=
            p.quantum_start_time_ms + (current_time_ms - p.quantum_start_time_ms) })

theorem update_time_offset_of_ne_send (p : ctsIOPatternRateLimitPolicy) {task : ctsIOTask}
    (h : task.ioAction ≠ .Send) (buffer_size current_time_ms : Nat) :
    p.update_time_offset task buffer_size current_time_ms = (task, p) := by
  simp [update_time_offset, h]

/-- What `update_time_offset` does with a send: it adds the send to the current quantum, which
    had room, scheduling it no earlier than the quantum's start; or it opens a quantum at least
    `QuantumPeriodMs` after the current one and schedules the send at its start. -/
theorem update_time_offset_send_cases (p : ctsIOPatternRateLimitPolicy)
    (hB : 0 < p.BytesSendingPerQuantum) {task : ctsIOTask} (h : task.ioAction = .Send)
    (buffer_size t : Nat) :
    let r := p.update_time_offset task buffer_size t
    (p.bytes_sent_this_quantum < p.BytesSendingPerQuantum ∧
      r.2 = { p with bytes_sent_this_quantum := p.bytes_sent_this_quantum + buffer_size } ∧
      (p.quantum_start_time_ms : Int) ≤ t + r.1.time_offset_milliseconds) ∨
    ∃ q, p.quantum_start_time_ms + p.QuantumPeriodMs ≤ q ∧
      r.2 = { p with bytes_sent_this_quantum := buffer_size, quantum_start_time_ms := q } ∧
      (t : Int) + r.1.time_offset_milliseconds = q := by
  intro r
  simp only [r, update_time_offset, h, ne_eq, not_true_eq_false, if_false]
  by_cases hb : p.bytes_sent_this_quantum < p.BytesSendingPerQuantum
  · have hq : p.newQuantumStartTime = p.quantum_start_time_ms := by
      simp [newQuantumStartTime, Nat.div_eq_of_lt hb]
    rw [if_pos hb]
    by_cases ht : t < p.quantum_start_time_ms + p.QuantumPeriodMs
    · rw [if_pos ht]
      by_cases hgt : t > p.quantum_start_time_ms
      · rw [if_pos hgt]; exact .inl ⟨hb, rfl, by dsimp only; omega⟩
      · rw [if_neg hgt, hq]; exact .inl ⟨hb, rfl, by dsimp only; omega⟩
    · rw [if_neg ht]
      exact .inr ⟨t, by omega, by dsimp only; congr 1; omega, by dsimp only; omega⟩
  · have hq : p.quantum_start_time_ms + p.QuantumPeriodMs ≤ p.newQuantumStartTime := by
      have : 1 ≤ p.bytes_sent_this_quantum / p.BytesSendingPerQuantum :=
        (Nat.le_div_iff_mul_le hB).2 (by omega)
      have := Nat.mul_le_mul_right p.QuantumPeriodMs this
      simp only [newQuantumStartTime]; omega
    rw [if_neg hb]
    by_cases ht : t < p.newQuantumStartTime
    · rw [if_pos ht]; exact .inr ⟨_, hq, rfl, by dsimp only; omega⟩
    · rw [if_neg ht]
      exact .inr ⟨t, by omega, by dsimp only; congr 1; omega, by dsimp only; omega⟩

/-- `update_time_offset` changes only the quantum's bytes and start. -/
theorem update_time_offset_shape (p : ctsIOPatternRateLimitPolicy) (task : ctsIOTask)
    (buffer_size t : Nat) : ∃ b q, (p.update_time_offset task buffer_size t).2 =
      { p with bytes_sent_this_quantum := b, quantum_start_time_ms := q } := by
  unfold update_time_offset
  by_cases h1 : task.ioAction ≠ .Send
  · exact ⟨_, _, by rw [if_pos h1]⟩
  rw [if_neg h1]
  by_cases h2 : p.bytes_sent_this_quantum < p.BytesSendingPerQuantum
  · rw [if_pos h2]
    by_cases h3 : t < p.quantum_start_time_ms + p.QuantumPeriodMs
    · rw [if_pos h3]
      by_cases h4 : t > p.quantum_start_time_ms
      · rw [if_pos h4]; exact ⟨_, _, rfl⟩
      · rw [if_neg h4]; exact ⟨_, _, rfl⟩
    · rw [if_neg h3]; exact ⟨_, _, rfl⟩
  · rw [if_neg h2]
    by_cases h3 : t < p.newQuantumStartTime
    · rw [if_pos h3]; exact ⟨_, _, rfl⟩
    · rw [if_neg h3]; exact ⟨_, _, rfl⟩

@[simp]
theorem update_time_offset_budget (p : ctsIOPatternRateLimitPolicy) (task : ctsIOTask)
    (buffer_size t : Nat) :
    (p.update_time_offset task buffer_size t).2.BytesSendingPerQuantum =
      p.BytesSendingPerQuantum := by
  obtain ⟨b, q, h⟩ := p.update_time_offset_shape task buffer_size t; rw [h]

@[simp]
theorem update_time_offset_period (p : ctsIOPatternRateLimitPolicy) (task : ctsIOTask)
    (buffer_size t : Nat) :
    (p.update_time_offset task buffer_size t).2.QuantumPeriodMs = p.QuantumPeriodMs := by
  obtain ⟨b, q, h⟩ := p.update_time_offset_shape task buffer_size t; rw [h]

end ctsIOPatternRateLimitPolicy

/-! ## Runs of sends -/

/-- A call of `update_time_offset`: the task, its buffer size and the clock reading. -/
structure RateLimitedTask where
  task : ctsIOTask
  buffer_size : Nat
  current_time_ms : Nat
  deriving DecidableEq, Repr

/-- The policy after a run, and the schedule of its sends: each send's scheduled time and
    size. -/
structure Throttled where
  policy : ctsIOPatternRateLimitPolicy
  schedule : List (Int × Nat)

namespace Throttled

/-- One call of `update_time_offset`; a send joins the schedule at its clock reading plus the
    offset the policy gave it. -/
def step (s : Throttled) (c : RateLimitedTask) : Throttled :=
  let r := s.policy.update_time_offset c.task c.buffer_size c.current_time_ms
  ⟨r.2, if c.task.ioAction = .Send then
      s.schedule ++ [(c.current_time_ms + r.1.time_offset_milliseconds, c.buffer_size)]
    else s.schedule⟩

def run (s : Throttled) (cs : List RateLimitedTask) : Throttled := cs.foldl step s

end Throttled

/-- The bytes of the sends scheduled before time `x`. -/
def bytesBefore (schedule : List (Int × Nat)) (x : Int) : Nat :=
  ((schedule.filter fun e => e.1 < x).map Prod.snd).sum

theorem bytesBefore_append (l l' : List (Int × Nat)) (x : Int) :
    bytesBefore (l ++ l') x = bytesBefore l x + bytesBefore l' x := by
  simp [bytesBefore, List.filter_append]

theorem bytesBefore_le_sum (l : List (Int × Nat)) (x : Int) :
    bytesBefore l x ≤ (l.map Prod.snd).sum := by
  induction l with
  | nil => simp [bytesBefore]
  | cons e l ih =>
    simp only [bytesBefore, List.filter_cons, List.map_cons, List.sum_cons] at ih ⊢
    split
    · simp only [List.map_cons, List.sum_cons]; omega
    · omega

theorem bytesBefore_eq_zero {l : List (Int × Nat)} {x : Int} (h : ∀ e ∈ l, x ≤ e.1) :
    bytesBefore l x = 0 := by
  rw [bytesBefore, List.filter_eq_nil_iff.2 fun e he => by simpa using h e he]
  rfl

/-! ## The quanta of a run -/

section Quanta

variable (S s0 : Nat)

/-- The schedule of a run split at the current quantum: `j` closed quanta, the `j`-th of them
    starting no earlier than `s0 + (j - 1) * QuantumPeriodMs`, each of at most
    `BytesSendingPerQuantum - 1 + S` bytes; and the current quantum's sends, scheduled from its
    start on, `bytes_sent_this_quantum` bytes in all. -/
structure QuantumSplit (s : Throttled) (j : Nat) (closed cur : List (Int × Nat)) : Prop where
  schedule_eq : s.schedule = closed ++ cur
  start_le : s0 + j * s.policy.QuantumPeriodMs ≤ s.policy.quantum_start_time_ms
  closed_before : ∀ k ≤ j, bytesBefore closed (s0 + k * s.policy.QuantumPeriodMs : Nat) ≤
    k * (s.policy.BytesSendingPerQuantum - 1 + S)
  closed_sum : (closed.map Prod.snd).sum ≤ j * (s.policy.BytesSendingPerQuantum - 1 + S)
  cur_after : ∀ e ∈ cur, (s.policy.quantum_start_time_ms : Int) ≤ e.1
  cur_sum : (cur.map Prod.snd).sum = s.policy.bytes_sent_this_quantum
  cur_le : s.policy.bytes_sent_this_quantum ≤ s.policy.BytesSendingPerQuantum - 1 + S

variable {S s0}

/-- The bytes scheduled before the end of the `k`-th quantum from `s0`. -/
theorem QuantumSplit.bytesBefore_le {s : Throttled} {j : Nat} {closed cur : List (Int × Nat)}
    (h : QuantumSplit S s0 s j closed cur) (k : Nat) :
    bytesBefore s.schedule (s0 + k * s.policy.QuantumPeriodMs : Nat) ≤
      k * (s.policy.BytesSendingPerQuantum - 1 + S) := by
  rw [h.schedule_eq, bytesBefore_append]
  by_cases hk : k ≤ j
  · have hle := Nat.mul_le_mul_right s.policy.QuantumPeriodMs hk
    rw [bytesBefore_eq_zero (l := cur) fun e he => by
      have := h.cur_after e he; have := h.start_le; omega]
    simpa using h.closed_before k hk
  · have hcur := bytesBefore_le_sum cur (s0 + k * s.policy.QuantumPeriodMs : Nat)
    have hclosed := bytesBefore_le_sum closed (s0 + k * s.policy.QuantumPeriodMs : Nat)
    have hmul := Nat.mul_le_mul_right (s.policy.BytesSendingPerQuantum - 1 + S)
      (show j + 1 ≤ k by omega)
    rw [Nat.succ_mul] at hmul
    have := h.closed_sum; have := h.cur_sum; have := h.cur_le
    omega

/-- One call of `update_time_offset` with a buffer of at most `S` bytes keeps a split: a send
    that joins the current quantum extends it, one that opens a quantum closes the current one. -/
theorem QuantumSplit.step {s : Throttled} {j : Nat} {closed cur : List (Int × Nat)}
    (h : QuantumSplit S s0 s j closed cur) (hB : 0 < s.policy.BytesSendingPerQuantum)
    (c : RateLimitedTask) (hc : c.buffer_size ≤ S) :
    ∃ j' closed' cur', QuantumSplit S s0 (s.step c) j' closed' cur' := by
  by_cases hs : c.task.ioAction = .Send
  · rcases s.policy.update_time_offset_send_cases hB hs c.buffer_size c.current_time_ms with
      ⟨hroom, hp, hafter⟩ | ⟨q, hq, hp, hat⟩
    · -- the send joins the current quantum
      refine ⟨j, closed, cur ++ [(c.current_time_ms + (s.policy.update_time_offset c.task
        c.buffer_size c.current_time_ms).1.time_offset_milliseconds, c.buffer_size)],
        ⟨?_, ?_, ?_, ?_, ?_, ?_, ?_⟩⟩
      all_goals simp only [Throttled.step, hs, if_true, hp]
      · rw [h.schedule_eq, List.append_assoc]
      · exact h.start_le
      · exact h.closed_before
      · exact h.closed_sum
      · intro e he
        rcases List.mem_append.1 he with he | he
        · exact h.cur_after e he
        · rw [List.mem_singleton.1 he]; exact hafter
      · simp [h.cur_sum]
      · have := h.cur_le; omega
    · -- the send opens a new quantum at `q`
      have hmul : (j + 1) * (s.policy.BytesSendingPerQuantum - 1 + S) =
          j * (s.policy.BytesSendingPerQuantum - 1 + S) +
            (s.policy.BytesSendingPerQuantum - 1 + S) := Nat.succ_mul _ _
      refine ⟨j + 1, closed ++ cur, [(q, c.buffer_size)], ⟨?_, ?_, ?_, ?_, ?_, ?_, ?_⟩⟩
      all_goals simp only [Throttled.step, hs, if_true, hp]
      · rw [h.schedule_eq, hat]
      · have := h.start_le; rw [Nat.succ_mul]; omega
      · intro k hk
        rw [bytesBefore_append]
        by_cases hkj : k ≤ j
        · have hle := Nat.mul_le_mul_right s.policy.QuantumPeriodMs hkj
          rw [bytesBefore_eq_zero (l := cur) fun e he => by
            have := h.cur_after e he; have := h.start_le; omega, Nat.add_zero]
          exact h.closed_before k hkj
        · obtain rfl : k = j + 1 := by omega
          have := bytesBefore_le_sum closed (s0 + (j + 1) * s.policy.QuantumPeriodMs : Nat)
          have := bytesBefore_le_sum cur (s0 + (j + 1) * s.policy.QuantumPeriodMs : Nat)
          have := h.closed_sum; have := h.cur_sum; have := h.cur_le
          omega
      · have := h.closed_sum; have := h.cur_sum; have := h.cur_le
        simp only [List.map_append, List.sum_append]; omega
      · simp
      · simp
      · omega
  · refine ⟨j, closed, cur, ?_⟩
    simp only [Throttled.step, hs, if_false,
      ctsIOPatternRateLimitPolicy.update_time_offset_of_ne_send _ hs]
    exact h

/-- Every run from the constructor's state splits into quanta. -/
theorem QuantumSplit.run (B P S s0 : Nat) (hB : 0 < B) (cs : List RateLimitedTask)
    (hc : ∀ c ∈ cs, c.buffer_size ≤ S) :
    ∃ j closed cur,
      QuantumSplit S s0 ((⟨⟨B, P, 0, s0⟩, []⟩ : Throttled).run cs) j closed cur ∧
      ((⟨⟨B, P, 0, s0⟩, []⟩ : Throttled).run cs).policy.BytesSendingPerQuantum = B ∧
      ((⟨⟨B, P, 0, s0⟩, []⟩ : Throttled).run cs).policy.QuantumPeriodMs = P := by
  induction cs using List.reverseRecOn with
  | nil =>
    refine ⟨0, [], [], ⟨rfl, ?_, ?_, ?_, ?_, rfl, ?_⟩, rfl, rfl⟩ <;>
      simp [Throttled.run, bytesBefore]
  | append_singleton cs c ih =>
    obtain ⟨j, closed, cur, h, hB', hP'⟩ := ih fun c' hc' => hc c' (List.mem_append_left _ hc')
    obtain ⟨j', closed', cur', h'⟩ :=
      h.step (by rw [hB']; exact hB) c (hc c (List.mem_append_right _ (List.mem_singleton_self _)))
    simp only [Throttled.run, List.foldl_append, List.foldl_cons, List.foldl_nil] at h' hB' hP' ⊢
    exact ⟨j', closed', cur', h', by simp [Throttled.step, hB'], by simp [Throttled.step, hP']⟩

end Quanta

/-- For every run of the throttle from the constructor's state, with sends of at most `S`
    bytes and any clock readings, the bytes scheduled before `s0 + k * QuantumPeriodMs` are at
    most `k * (BytesSendingPerQuantum - 1 + S)`: at most one buffer, less a byte, over the
    budget in each quantum. -/
theorem throttle_bytes_before (B P S s0 : Nat) (hB : 0 < B) (cs : List RateLimitedTask)
    (hc : ∀ c ∈ cs, c.buffer_size ≤ S) (k : Nat) :
    bytesBefore ((⟨⟨B, P, 0, s0⟩, []⟩ : Throttled).run cs).schedule (s0 + k * P : Nat) ≤
      k * (B - 1 + S) := by
  obtain ⟨j, closed, cur, h, hB', hP'⟩ := QuantumSplit.run B P S s0 hB cs hc
  have := h.bytesBefore_le k
  rwa [hB', hP'] at this

/-- A send task, as the pattern hands it to the policy. -/
def throttledSend : ctsIOTask := ⟨.Send, 0, 0, 100, RIO_INVALID_BUFFERID, .Static, true, 0⟩

/-- Four sends at the clock reading 0, of 99, 100, 99 and 100 bytes. -/
def overshootTasks : List RateLimitedTask :=
  [⟨throttledSend, 99, 0⟩, ⟨throttledSend, 100, 0⟩, ⟨throttledSend, 99, 0⟩,
    ⟨throttledSend, 100, 0⟩]

theorem throttle_bytes_before_overshootTasks :
    0 < 100 ∧ (∀ c ∈ overshootTasks, c.buffer_size ≤ 100) ∧
      bytesBefore ((⟨⟨100, 100, 0, 0⟩, []⟩ : Throttled).run overshootTasks).schedule
        (0 + 2 * 100 : Nat) ≤ 2 * (100 - 1 + 100) :=
  ⟨by decide, by decide,
    throttle_bytes_before 100 100 100 0 (by decide) overshootTasks (by decide) 2⟩

/-- With a budget of 100 bytes per 100 ms and buffers of at most 100 bytes, all four sends are
    scheduled before 200 ms: 398 bytes in two quanta, more than `2 * 100 + 100`. -/
theorem throttle_overshoots :
    let s := (⟨⟨100, 100, 0, 0⟩, []⟩ : Throttled).run overshootTasks
    (∀ c ∈ overshootTasks, c.buffer_size ≤ 100) ∧
      s.schedule = [(0, 99), (0, 100), (100, 99), (100, 100)] ∧
      bytesBefore s.schedule (0 + 2 * 100 : Nat) = 398 ∧ 2 * 100 + 100 < 398 := by
  decide

end CtsTraffic
