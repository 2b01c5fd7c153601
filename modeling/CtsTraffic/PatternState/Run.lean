import CtsTraffic.PatternState.Machine

/-
  Runs of `ctsIOPatternState` under a driving pattern. A `PatternRun` is the state machine
  together with what the pattern has done to it: the tasks it announced through
  `notify_next_task` and has not completed yet, the latest `get_next_task` result, and (for
  the protocol laws) the history of results. A run is any interleaving of the four calls;
  `max_transfer` is set once, before the first task.

  The pattern contract (`Admissible`): a tracked task is announced only after `get_next_task`
  returned `MoreIo`, with `buffer_length ≤ get_remaining_transfer()`; a completion names an
  outstanding task and reports at most its `buffer_length` bytes. The `strict` contract
  adds what a TCP pattern does: tracked tasks are never empty, and an untracked task is the
  one task for the protocol step `get_next_task` just returned.

  Invariant (`TransferInv`): `confirmed_bytes + inflight_bytes ≤ max_transfer`, and outside
  `ErrorIOFailed`, `inflight_bytes` is the sum of the lengths of the outstanding tracked
  tasks. Hence no `FAIL_FAST` of `get_remaining_transfer` or of the `track_io` block is
  reachable, and `TooManyBytes` comes only from a FIN that carried data.
-/

namespace CtsTraffic

/-- A task announced through `notify_next_task`, with the protocol task it was issued for
    (the latest result of `get_next_task`). -/
structure IssuedTask where
  issuedFor : ctsIOPatternProtocolTask
  task : ctsIOTask
  deriving DecidableEq, Repr

/-- The bytes of an issued task that count toward the transfer. -/
def IssuedTask.trackedLength (it : IssuedTask) : Nat :=
  if it.task.track_io then it.task.buffer_length else 0

/-- One call of `completed_task` or `update_error`, with its verdict. -/
inductive Verdict
  | completed (issuedFor : ctsIOPatternProtocolTask) (bytes : Nat)
      (result : ctsIOPatternProtocolError)
  | updated (code : Nat) (result : ctsIOPatternProtocolError)
  deriving DecidableEq, Repr

/-- The verdict returned by the call. -/
def Verdict.result : Verdict → ctsIOPatternProtocolError
  | .completed _ _ e => e
  | .updated _ e => e

/-- A `ctsIOPatternState` and what the driving pattern has done to it so far. -/
structure PatternRun where
  state : ctsIOPatternState
  outstanding : List IssuedTask
  last : ctsIOPatternProtocolTask
  issued : Bool
  returned : List ctsIOPatternProtocolTask
  verdicts : List Verdict

/-- Sum of the lengths of the tracked tasks of a list. -/
def trackedBytes (l : List IssuedTask) : Nat := (l.map IssuedTask.trackedLength).sum

@[simp] theorem trackedBytes_nil : trackedBytes [] = 0 := rfl

@[simp] theorem trackedBytes_append (l l' : List IssuedTask) :
    trackedBytes (l ++ l') = trackedBytes l + trackedBytes l' := by
  simp [trackedBytes]

@[simp] theorem trackedBytes_singleton (it : IssuedTask) :
    trackedBytes [it] = it.trackedLength := by
  simp [trackedBytes]

theorem trackedBytes_erase {it : IssuedTask} {l : List IssuedTask} (h : it ∈ l) :
    trackedBytes l = it.trackedLength + trackedBytes (l.erase it) := by
  simpa [trackedBytes] using ((List.perm_cons_erase h).map IssuedTask.trackedLength).sum_eq

namespace PatternRun

variable (cfg : PatternSettings) (r : PatternRun)

/-- A fresh state machine: the constructor, then `set_max_transfer`. -/
def init (max_transfer : UInt64) : PatternRun where
  state := ctsIOPatternState.init cfg max_transfer
  outstanding := []
  last := .NoIo
  issued := false
  returned := []
  verdicts := []

/-- The pattern calls `get_next_task`. -/
def getNext : PatternRun :=
  let p := r.state.get_next_task cfg
  { r with state := p.2, last := p.1, issued := false,
           returned := if p.1 = .NoIo then r.returned else r.returned ++ [p.1] }

/-- The pattern announces `t` through `notify_next_task`. -/
def notify (t : ctsIOTask) : PatternRun :=
  { r with state := r.state.notify_next_task t, outstanding := r.outstanding ++ [⟨r.last, t⟩],
           issued := true }

/-- The pattern reports `bytes` for the outstanding task `it` through `completed_task`. -/
def complete (it : IssuedTask) (bytes : Nat) : Except FailFast PatternRun :=
  match r.state.completed_task cfg it.task bytes with
  | .error f => .error f
  | .ok p => .ok { r with state := p.2, outstanding := r.outstanding.erase it,
                          verdicts := r.verdicts ++ [.completed it.issuedFor bytes p.1] }

/-- The pattern reports an error code through `update_error`. -/
def updateError (code : Nat) : PatternRun :=
  let p := r.state.update_error cfg code
  { r with state := p.2, verdicts := r.verdicts ++ [.updated code p.1] }

end PatternRun

/-- `n ≤ get_remaining_transfer()`, the call returning normally. -/
def remainingAdmits (s : ctsIOPatternState) (n : Nat) : Bool :=
  match s.get_remaining_transfer with
  | .ok rem => decide (n ≤ rem)
  | .error _ => false

/-- The pattern contract for announcing `t`. A tracked task follows a `MoreIo` and fits in
    the remaining transfer. `strict` adds: a tracked task is not empty, and an untracked
    task is the single task for the non-`MoreIo` protocol step just returned. -/
def Admissible (strict : Bool) (r : PatternRun) (t : ctsIOTask) : Prop :=
  (t.track_io = true → r.last = .MoreIo ∧ remainingAdmits r.state t.buffer_length = true ∧
      (strict = true → 0 < t.buffer_length)) ∧
    (strict = true → t.track_io = false →
      r.last ≠ .NoIo ∧ r.last ≠ .MoreIo ∧ r.issued = false)

instance (strict : Bool) (r : PatternRun) (t : ctsIOTask) : Decidable (Admissible strict r t) :=
  inferInstanceAs (Decidable (_ ∧ _))

/-- One call made by a pattern that keeps the contract. -/
inductive PatternStep (cfg : PatternSettings) (strict : Bool) : PatternRun → PatternRun → Prop
  | getNextTask (r : PatternRun) : PatternStep cfg strict r (r.getNext cfg)
  | notifyNextTask (r : PatternRun) (t : ctsIOTask) :
      Admissible strict r t → PatternStep cfg strict r (r.notify t)
  | completedTask (r r' : PatternRun) (it : IssuedTask) (bytes : Nat) :
      it ∈ r.outstanding → bytes ≤ it.task.buffer_length → r.complete cfg it bytes = .ok r' →
      PatternStep cfg strict r r'
  | updateError (r : PatternRun) (code : Nat) : PatternStep cfg strict r (r.updateError cfg code)

/-- The runs from a fresh state machine with the given `max_transfer`. -/
inductive Reachable (cfg : PatternSettings) (strict : Bool) (max_transfer : UInt64) :
    PatternRun → Prop
  | init : Reachable cfg strict max_transfer (PatternRun.init cfg max_transfer)
  | step {r r' : PatternRun} : Reachable cfg strict max_transfer r →
      PatternStep cfg strict r r' → Reachable cfg strict max_transfer r'

/-! ## Spec lemmas of the calls -/

namespace PatternRun

variable {cfg : PatternSettings} {r r' : PatternRun} {it : IssuedTask} {bytes : Nat}

@[simp] theorem getNext_state : (r.getNext cfg).state = (r.state.get_next_task cfg).2 := rfl
@[simp] theorem getNext_outstanding : (r.getNext cfg).outstanding = r.outstanding := rfl
@[simp] theorem notify_state (t : ctsIOTask) : (r.notify t).state = r.state.notify_next_task t :=
  rfl
@[simp] theorem notify_outstanding (t : ctsIOTask) :
    (r.notify t).outstanding = r.outstanding ++ [⟨r.last, t⟩] := rfl
@[simp] theorem updateError_state (code : Nat) :
    (r.updateError cfg code).state = (r.state.update_error cfg code).2 := rfl
@[simp] theorem updateError_outstanding (code : Nat) :
    (r.updateError cfg code).outstanding = r.outstanding := rfl

/-- A completion that returned normally: `completed_task`'s verdict and state, the task no
    longer outstanding. -/
theorem complete_ok (h : r.complete cfg it bytes = .ok r') :
    ∃ e, r.state.completed_task cfg it.task bytes = .ok (e, r'.state) ∧
      r'.outstanding = r.outstanding.erase it ∧
      r'.verdicts = r.verdicts ++ [.completed it.issuedFor bytes e] := by
  unfold complete at h
  split at h
  · cases h
  · cases h; exact ⟨_, by assumption, rfl, rfl⟩

/-- A completion that returned normally changes only the state, the outstanding tasks and the
    verdicts. -/
theorem complete_eq (h : r.complete cfg it bytes = .ok r') :
    ∃ e s', r.state.completed_task cfg it.task bytes = .ok (e, s') ∧
      r' = { r with state := s', outstanding := r.outstanding.erase it,
                    verdicts := r.verdicts ++ [.completed it.issuedFor bytes e] } := by
  unfold complete at h
  split at h
  · cases h
  · cases h; exact ⟨_, _, by assumption, rfl⟩

end PatternRun

/-! ## Replaying a run -/

/-- One call of the pattern, for replaying a given run. -/
inductive PatternCall
  | getNextTask
  | notifyNextTask (t : ctsIOTask)
  | completedTask (it : IssuedTask) (bytes : Nat)
  | updateError (code : Nat)

namespace PatternRun

variable (cfg : PatternSettings) (strict : Bool)

/-- The run after one call, if the call keeps the contract and returns normally. -/
def call? (r : PatternRun) : PatternCall → Option PatternRun
  | .getNextTask => some (r.getNext cfg)
  | .notifyNextTask t => if Admissible strict r t then some (r.notify t) else none
  | .completedTask it bytes =>
    if it ∈ r.outstanding ∧ bytes ≤ it.task.buffer_length then (r.complete cfg it bytes).toOption
    else none
  | .updateError code => some (r.updateError cfg code)

/-- The run after a list of calls. -/
def replay : PatternRun → List PatternCall → Option PatternRun
  | r, [] => some r
  | r, c :: cs => (r.call? cfg strict c).bind (replay · cs)

variable {cfg strict}

theorem call?_step {r r' : PatternRun} {c : PatternCall} (h : r.call? cfg strict c = some r') :
    PatternStep cfg strict r r' := by
  cases c with
  | getNextTask => cases h; exact .getNextTask r
  | notifyNextTask t =>
    simp only [call?] at h; split_ifs at h with ht; cases h; exact .notifyNextTask r t ht
  | completedTask it bytes =>
    simp only [call?] at h; split_ifs at h with ht
    cases hc : r.complete cfg it bytes <;> rw [hc] at h <;> cases h
    exact .completedTask r _ it bytes ht.1 ht.2 hc
  | updateError code => cases h; exact .updateError r code

theorem replay_reachable {m : UInt64} {r r' : PatternRun} {cs : List PatternCall}
    (hr : Reachable cfg strict m r) (h : r.replay cfg strict cs = some r') :
    Reachable cfg strict m r' := by
  induction cs generalizing r with
  | nil => cases h; exact hr
  | cons c cs ih =>
    simp only [replay, Option.bind_eq_some] at h
    obtain ⟨r₁, h₁, h₂⟩ := h
    exact ih (hr.step (call?_step h₁)) h₂

variable (cfg strict) in
/-- A fact about the run a replay from a fresh state machine ends in, read off by evaluating
    the replay. -/
theorem exists_reachable_of_replay {α : Type} (m : UInt64) (cs : List PatternCall)
    (f : PatternRun → α) (a : α)
    (h : ((PatternRun.init cfg m).replay cfg strict cs).map f = some a) :
    ∃ r, Reachable cfg strict m r ∧ f r = a := by
  cases hr : (PatternRun.init cfg m).replay cfg strict cs with
  | none => rw [hr] at h; cases h
  | some r => rw [hr] at h; exact ⟨r, replay_reachable .init hr, Option.some.inj h⟩

end PatternRun

/-- The settings of a UDP client. -/
def udpClient : PatternSettings := ⟨.UDP, false, .NoShutdownOptionSet⟩

/-- A tracked one-byte send at `buffer_offset` `off`. -/
def udpSend (off : Nat) : ctsIOTask :=
  ⟨.Send, 0, off, 1, RIO_INVALID_BUFFERID, .MediaStreamData, true, 0⟩

/-- Two one-byte sends asked for and announced, neither completed yet. -/
def udpTwoIssued : List PatternCall :=
  [.getNextTask, .notifyNextTask (udpSend 0), .getNextTask, .notifyNextTask (udpSend 1)]

/-- Two one-byte sends in flight for `max_transfer = 2`; the first completes. -/
def udpTwoSends : List PatternCall :=
  udpTwoIssued ++ [.completedTask ⟨.MoreIo, udpSend 0⟩ 1]

/-! ## The transfer invariant -/

/-- Bytes stay within `max_transfer`; outside `ErrorIOFailed`, the in-flight count is the sum
    of the outstanding tracked tasks. -/
def TransferInv (r : PatternRun) : Prop :=
  r.state.alreadyTransferred ≤ r.state.max_transfer ∧
    (r.state.internal_state ≠ .ErrorIOFailed → r.state.inflight_bytes = trackedBytes r.outstanding)

namespace ctsIOPatternState

variable {s : ctsIOPatternState}

theorem get_remaining_transfer_of_le (h : s.alreadyTransferred ≤ s.max_transfer) :
    s.get_remaining_transfer = .ok (s.max_transfer - s.alreadyTransferred) := by
  have := s.max_transfer_lt
  unfold get_remaining_transfer
  rw [if_neg (by omega), if_neg (by omega)]

theorem remainingAdmits_iff (h : s.alreadyTransferred ≤ s.max_transfer) (n : Nat) :
    remainingAdmits s n = true ↔ s.alreadyTransferred + n ≤ s.max_transfer := by
  unfold remainingAdmits
  rw [get_remaining_transfer_of_le h, decide_eq_true_iff]
  omega

end ctsIOPatternState

open ctsIOPatternState in
theorem TransferInv.init (cfg : PatternSettings) (m : UInt64) :
    TransferInv (PatternRun.init cfg m) :=
  ⟨by simp [PatternRun.init, ctsIOPatternState.init, alreadyTransferred], fun _ => rfl⟩

open ctsIOPatternState in
theorem TransferInv.getNext {cfg : PatternSettings} {r : PatternRun} (h : TransferInv r) :
    TransferInv (r.getNext cfg) := by
  obtain ⟨h1, h2⟩ := h
  refine ⟨by simpa [alreadyTransferred] using h1, fun hE => ?_⟩
  rw [PatternRun.getNext_state, Ne, get_next_task_error_iff] at hE
  simpa using h2 hE

open ctsIOPatternState in
theorem TransferInv.notify {strict : Bool} {r : PatternRun} {t : ctsIOTask}
    (h : TransferInv r) (ht : Admissible strict r t) : TransferInv (r.notify t) := by
  obtain ⟨h1, h2⟩ := h
  unfold TransferInv
  simp only [PatternRun.notify_state, PatternRun.notify_outstanding, notify_next_task,
    trackedBytes_append, trackedBytes_singleton, IssuedTask.trackedLength]
  by_cases hT : t.track_io
  · have hfit := (remainingAdmits_iff h1 _).1 (ht.1 hT).2.1
    simp only [hT, if_true, alreadyTransferred] at hfit h1 ⊢
    exact ⟨by omega, fun hE => by rw [h2 hE]⟩
  · simp only [hT]
    exact ⟨h1, fun hE => by simpa using h2 hE⟩

open ctsIOPatternState in
theorem TransferInv.complete {cfg : PatternSettings} {r r' : PatternRun} {it : IssuedTask}
    {bytes : Nat} (h : TransferInv r) (hit : it ∈ r.outstanding)
    (hc : r.complete cfg it bytes = .ok r') : TransferInv r' := by
  obtain ⟨h1, h2⟩ := h
  obtain ⟨e, hct, hout, -⟩ := PatternRun.complete_ok hc
  obtain ⟨hmax, hcnt⟩ := completed_task_counters hct
  have herase := trackedBytes_erase hit
  unfold TransferInv alreadyTransferred at *
  rw [hout]
  rcases hcnt with ⟨hc', hi', hT⟩ | ⟨hT, hE, hb, hl, hc', hi'⟩
  · refine ⟨by omega, fun hE' => ?_⟩
    have hE : r.state.internal_state ≠ .ErrorIOFailed := fun hE =>
      hE' (by rw [(completed_task_of_error_state hct hE).2]; exact hE)
    have hL : it.trackedLength = 0 := by
      unfold IssuedTask.trackedLength
      split_ifs with h
      · exact absurd (hT h) hE'
      · rfl
    rw [hi', h2 hE]; omega
  · have hL : it.trackedLength = it.task.buffer_length := by simp [IssuedTask.trackedLength, hT]
    exact ⟨by omega, fun _ => by rw [hi', h2 hE]; omega⟩

open ctsIOPatternState in
theorem TransferInv.updateError {cfg : PatternSettings} {r : PatternRun} (h : TransferInv r)
    (code : Nat) : TransferInv (r.updateError cfg code) := by
  obtain ⟨h1, h2⟩ := h
  unfold TransferInv
  simp only [PatternRun.updateError_state, PatternRun.updateError_outstanding]
  rcases update_error_snd cfg r.state code with h | h <;> rw [h]
  · exact ⟨h1, h2⟩
  · exact ⟨by simpa [alreadyTransferred, setState_eq] using h1, fun hE => absurd rfl hE⟩

theorem TransferInv.step {cfg : PatternSettings} {strict : Bool} {r r' : PatternRun}
    (h : TransferInv r) (hs : PatternStep cfg strict r r') : TransferInv r' := by
  cases hs with
  | getNextTask => exact h.getNext
  | notifyNextTask t ht => exact h.notify ht
  | completedTask _ it _ hit _ hc => exact h.complete hit hc
  | updateError code => exact h.updateError code

theorem TransferInv.reachable {cfg : PatternSettings} {strict : Bool} {m : UInt64}
    {r : PatternRun} (h : Reachable cfg strict m r) : TransferInv r := by
  induction h with
  | init => exact TransferInv.init cfg m
  | step _ hs ih => exact ih.step hs

theorem PatternStep.max_transfer_eq {cfg : PatternSettings} {strict : Bool} {r r' : PatternRun}
    (hs : PatternStep cfg strict r r') : r'.state.max_transfer = r.state.max_transfer := by
  cases hs with
  | getNextTask => simp
  | notifyNextTask t _ => simp
  | completedTask _ it _ _ _ hc =>
    obtain ⟨e, hct, -, -⟩ := PatternRun.complete_ok hc
    exact (ctsIOPatternState.completed_task_counters hct).1
  | updateError code => simp

theorem max_transfer_reachable {cfg : PatternSettings} {strict : Bool} {m : UInt64}
    {r : PatternRun} (h : Reachable cfg strict m r) : r.state.max_transfer = m.toNat := by
  induction h with
  | init => rfl
  | step _ hs ih => rw [hs.max_transfer_eq, ih]

open ctsIOPatternState in
/-- No `FAIL_FAST` of the `track_io` block, and no `TooManyBytes` but a FIN's, for a task that
    is outstanding in a run that keeps the invariant. -/
theorem TransferInv.completed_task {cfg : PatternSettings} {r : PatternRun}
    (h : TransferInv r) {it : IssuedTask} (hit : it ∈ r.outstanding) {bytes : Nat}
    (hb : bytes ≤ it.task.buffer_length) :
    (∀ f, r.state.completed_task cfg it.task bytes = .error f → f = .invalidInternalStatus) ∧
      (∀ s', r.state.completed_task cfg it.task bytes = .ok (.TooManyBytes, s') →
        r.state.internal_state = .RequestFIN) := by
  obtain ⟨h1, h2⟩ := h
  refine ⟨fun f hf => ?_, fun s' hs' => ?_⟩
  · by_cases hE : r.state.internal_state = .ErrorIOFailed
    · rw [completed_task_of_error hE] at hf; cases hf
    · have hin := trackedBytes_erase hit
      rcases completed_task_error hf with hf | ⟨hT, hbad⟩
      · exact hf
      · have : it.trackedLength = it.task.buffer_length := by
          simp [IssuedTask.trackedLength, hT]
        rw [h2 hE] at hbad; omega
  · rcases completed_task_tooMany hs' with hR | hlt
    · exact hR
    · omega

/-- Every run of a `ctsIOPatternState` under the pattern contract: `max_transfer` stays what
    it was set to, `confirmed_bytes + inflight_bytes ≤ max_transfer`, and outside
    `ErrorIOFailed` the in-flight count is the sum of the outstanding tracked tasks.
    So `get_remaining_transfer` never fails fast, and a completion of an outstanding task
    reaches no `FAIL_FAST` of the `track_io` block and no `TooManyBytes` but a FIN's. -/
theorem patternRun_transfer_accounting (cfg : PatternSettings) (m : UInt64) (r : PatternRun)
    (hr : Reachable cfg false m r) :
    r.state.max_transfer = m.toNat ∧
      r.state.confirmed_bytes + r.state.inflight_bytes ≤ m.toNat ∧
      (r.state.internal_state ≠ .ErrorIOFailed →
        r.state.inflight_bytes = trackedBytes r.outstanding) ∧
      r.state.get_remaining_transfer =
        .ok (m.toNat - (r.state.confirmed_bytes + r.state.inflight_bytes)) ∧
      ∀ it ∈ r.outstanding, ∀ bytes ≤ it.task.buffer_length,
        (∀ f, r.state.completed_task cfg it.task bytes = .error f →
          f = .invalidInternalStatus) ∧
        (∀ s', r.state.completed_task cfg it.task bytes = .ok (.TooManyBytes, s') →
          r.state.internal_state = .RequestFIN) := by
  have hinv := TransferInv.reachable hr
  have hm := max_transfer_reachable hr
  refine ⟨hm, hm ▸ hinv.1, hinv.2, ?_, fun it hit bytes hb => hinv.completed_task hit hb⟩
  rw [ctsIOPatternState.get_remaining_transfer_of_le hinv.1, hm]
  rfl

/-- With `max_transfer = 2` and two one-byte sends in flight, the in-flight count is the two
    sends' bytes and no byte is left to ask for. -/
theorem patternRun_transfer_accounting_twoInFlight :
    ∃ r, Reachable udpClient false 2 r ∧ r.outstanding.length = 2 ∧
      r.state.inflight_bytes = trackedBytes r.outstanding ∧
      r.state.get_remaining_transfer = .ok 0 := by
  have h : (PatternRun.init udpClient 2).replay udpClient false udpTwoIssued = some _ := rfl
  have hr := PatternRun.replay_reachable .init h
  obtain ⟨-, -, hin, hrem, -⟩ := patternRun_transfer_accounting udpClient 2 _ hr
  exact ⟨_, hr, rfl, hin (by decide), hrem.trans (congrArg Except.ok (by decide))⟩

end CtsTraffic
