import CtsTraffic.Basic

/-
  `ctsIOPatternState` (ctsIOPatternState.hpp): the per-connection protocol state machine.
  Each member function is a function of the state; the settings it reads from `ctsConfig`
  (`Protocol`, `IsListening()`, `TcpShutdown`) are a `PatternSettings` argument.

  `ctsUnsignedLongLong` counters are unbounded `Nat`s. `max_transfer` is a `ULONGLONG`, so
  the state carries `max_transfer < 2^64`; the overflow guard of `get_remaining_transfer`
  fires when the sum leaves the 64-bit range. A `FAIL_FAST` is an `Except.error` naming the
  check. `isb` (the ideal send backlog) is read by none of these functions and is left out.

  Each function is followed by its spec lemmas, so that later files never unfold it.
-/

namespace CtsTraffic

/-- `ctsIOPatternProtocolTask`: what `get_next_task` asks the pattern to do next. -/
inductive ctsIOPatternProtocolTask
  | NoIo
  | SendConnectionId
  | RecvConnectionId
  | MoreIo
  | SendCompletion
  | RecvCompletion
  | GracefulShutdown
  | HardShutdown
  | RequestFIN
  deriving DecidableEq, Repr

/-- `ctsIOPatternProtocolError`: the verdict of `completed_task` and `update_error`. -/
inductive ctsIOPatternProtocolError
  | NoError
  | TooManyBytes
  | TooFewBytes
  | CorruptedBytes
  | ErrorIOFailed
  | SuccessfullyCompleted
  deriving DecidableEq, Repr

/-- `ctsIOPatternState::InternalPatternState`. -/
inductive InternalPatternState
  | Initialized
  | MoreIo
  | ServerSendConnectionId
  | ClientRecvConnectionId
  | ServerSendCompletion
  | ClientRecvCompletion
  | GracefulShutdown
  | HardShutdown
  | RequestFIN
  | CompletedTransfer
  | ErrorIOFailed
  deriving DecidableEq, Repr

/-- The `ctsConfig` settings the state machine reads. -/
structure PatternSettings where
  Protocol : ProtocolType
  IsListening : Bool
  TcpShutdown : TcpShutdownType
  deriving DecidableEq, Repr

/-- The `FAIL_FAST` checks of `ctsIOPatternState`. -/
inductive FailFast
  /-- "ctsIOPatternState internal overflow (already_transferred = this->current_transfer +
      this->inflight_bytes)" -/
  | internalOverflow
  /-- "ctsIOPatternState internal error: bytes already transferred (%llu) is >= the total
      we're expected to transfer (%llu)" -/
  | alreadyTransferredTooLarge
  /-- "ctsIOPatternState::completed_task : ctsIOTask (%p) returned more bytes (%u) than were in
      flight (%llu)" -/
  | returnedMoreThanInflight
  /-- "ctsIOPatternState::completed_task : the ctsIOTask (%p) had requested more bytes (%u) than
      were in-flight (%llu)" -/
  | requestedMoreThanInflight
  /-- "ctsIOPatternState::completed_task : ctsIOTask (%p) returned more bytes (%u) than were
      posted (%u)" -/
  | returnedMoreThanPosted
  /-- "ctsIOPatternState::completed_task - invalid internal_status (%u)" -/
  | invalidInternalStatus
  deriving DecidableEq, Repr

/-- `ctsIOPatternState`, without `isb`. -/
structure ctsIOPatternState where
  confirmed_bytes : Nat
  max_transfer : Nat
  inflight_bytes : Nat
  internal_state : InternalPatternState
  pended_state : Bool
  max_transfer_lt : max_transfer < 2 ^ 64
  deriving DecidableEq

namespace ctsIOPatternState

variable (cfg : PatternSettings) (s : ctsIOPatternState)

/-- The constructor, after `set_max_transfer`: UDP starts in `MoreIo`. -/
def init (max_transfer : UInt64) : ctsIOPatternState where
  confirmed_bytes := 0
  max_transfer := max_transfer.toNat
  inflight_bytes := 0
  internal_state := if cfg.Protocol = .UDP then .MoreIo else .Initialized
  pended_state := false
  max_transfer_lt := max_transfer.toNat_lt_size

/-- `confirmed_bytes + inflight_bytes`, the `already_transferred` of the source. -/
def alreadyTransferred : Nat := s.confirmed_bytes + s.inflight_bytes

/-- `get_remaining_transfer`. -/
def get_remaining_transfer : Except FailFast Nat :=
  if 2 ^ 64 ≤ s.alreadyTransferred then .error .internalOverflow
  else if s.alreadyTransferred > s.max_transfer then .error .alreadyTransferredTooLarge
  else .ok (s.max_transfer - s.alreadyTransferred)

/-- `is_completed`. -/
def is_completed : Bool :=
  s.internal_state = .CompletedTransfer || s.internal_state = .ErrorIOFailed

/-- The state with a new `internal_state`. -/
def setState (st : InternalPatternState) : ctsIOPatternState := { s with internal_state := st }

/-- The state with a new `internal_state` and `pended_state`. -/
def setPended (st : InternalPatternState) (p : Bool) : ctsIOPatternState :=
  { s with internal_state := st, pended_state := p }

/-- `get_next_task`: the protocol task and the new state. -/
def get_next_task : ctsIOPatternProtocolTask × ctsIOPatternState :=
  if s.pended_state then (.NoIo, s) else
  match s.internal_state with
  | .Initialized =>
    if cfg.IsListening then (.SendConnectionId, s.setPended .ServerSendConnectionId true)
    else (.RecvConnectionId, s.setPended .ClientRecvConnectionId true)
  | .ServerSendConnectionId | .ClientRecvConnectionId => (.MoreIo, s.setState .MoreIo)
  | .MoreIo => if s.alreadyTransferred < s.max_transfer then (.MoreIo, s) else (.NoIo, s)
  | .ServerSendCompletion => (.SendCompletion, s.setPended .ServerSendCompletion true)
  | .ClientRecvCompletion => (.RecvCompletion, s.setPended .ClientRecvCompletion true)
  | .GracefulShutdown => (.GracefulShutdown, s.setPended .GracefulShutdown true)
  | .HardShutdown => (.HardShutdown, s.setPended .HardShutdown true)
  | .RequestFIN => (.RequestFIN, s.setPended .RequestFIN true)
  | .CompletedTransfer | .ErrorIOFailed => (.NoIo, s)

/-- `notify_next_task`. -/
def notify_next_task (t : ctsIOTask) : ctsIOPatternState :=
  if t.track_io then { s with inflight_bytes := s.inflight_bytes + t.buffer_length } else s

/-- `update_error`: the verdict and the new state. -/
def update_error (code : Nat) : ctsIOPatternProtocolError × ctsIOPatternState :=
  if s.internal_state = .ErrorIOFailed then (.ErrorIOFailed, s)
  else if cfg.Protocol = .UDP then
    if code ≠ 0 then (.ErrorIOFailed, s.setState .ErrorIOFailed) else (.NoError, s)
  else if code ≠ 0 ∧ s.is_completed = false then
    if cfg.IsListening ∧ s.internal_state = .RequestFIN ∧
        (code = WSAETIMEDOUT ∨ code = WSAECONNRESET ∨ code = WSAECONNABORTED) then (.NoError, s)
    else (.ErrorIOFailed, s.setState .ErrorIOFailed)
  else (.NoError, s)

/-- The `track_io` block of `completed_task`: the three consistency checks, then the move of
    the task's bytes from in flight to confirmed. -/
def completeTracked (t : ctsIOTask) (bytes : Nat) : Except FailFast ctsIOPatternState :=
  if bytes > s.inflight_bytes then .error .returnedMoreThanInflight
  else if t.buffer_length > s.inflight_bytes then .error .requestedMoreThanInflight
  else if bytes > t.buffer_length then .error .returnedMoreThanPosted
  else .ok { s with inflight_bytes := s.inflight_bytes - t.buffer_length,
                    confirmed_bytes := s.confirmed_bytes + bytes }

/-- The server's `switch` of `completed_task` once all data has been transferred. -/
def serverFinish (bytes : Nat) :
    Except FailFast (ctsIOPatternProtocolError × ctsIOPatternState) :=
  match s.internal_state with
  | .MoreIo => .ok (.NoError, s.setPended .ServerSendCompletion false)
  | .ServerSendCompletion => .ok (.NoError, s.setPended .RequestFIN false)
  | .RequestFIN =>
    if bytes ≠ 0 then .ok (.TooManyBytes, s.setState .ErrorIOFailed)
    else .ok (.SuccessfullyCompleted, s.setState .CompletedTransfer)
  | _ => .error .invalidInternalStatus

/-- The client's `switch` of `completed_task` once all data has been transferred. -/
def clientFinish (bytes : Nat) :
    Except FailFast (ctsIOPatternProtocolError × ctsIOPatternState) :=
  match s.internal_state with
  | .MoreIo => .ok (.NoError, s.setPended .ClientRecvCompletion false)
  | .ClientRecvCompletion =>
    if bytes ≠ 4 then .ok (.TooFewBytes, s.setState .ErrorIOFailed)
    else if cfg.TcpShutdown = .GracefulShutdown then
      .ok (.NoError, s.setPended .GracefulShutdown false)
    else .ok (.NoError, s.setPended .HardShutdown false)
  | .GracefulShutdown => .ok (.NoError, s.setPended .RequestFIN false)
  | .RequestFIN =>
    if bytes ≠ 0 then .ok (.TooManyBytes, s.setState .ErrorIOFailed)
    else .ok (.SuccessfullyCompleted, s.setState .CompletedTransfer)
  | .HardShutdown => .ok (.SuccessfullyCompleted, s.setState .CompletedTransfer)
  | _ => .error .invalidInternalStatus

/-- The post-condition checks of `completed_task`, on the state after the byte update. -/
def checkTransfer (bytes : Nat) :
    Except FailFast (ctsIOPatternProtocolError × ctsIOPatternState) :=
  if cfg.Protocol = .UDP then
    .ok (if s.alreadyTransferred = s.max_transfer then .SuccessfullyCompleted else .NoError, s)
  else if s.alreadyTransferred < s.max_transfer then
    if bytes = 0 then .ok (.TooFewBytes, s.setState .ErrorIOFailed) else .ok (.NoError, s)
  else if s.alreadyTransferred = s.max_transfer then
    if s.inflight_bytes = 0 then
      if cfg.IsListening then s.serverFinish bytes else s.clientFinish cfg bytes
    else .ok (.NoError, s)
  else .ok (.TooManyBytes, s.setState .ErrorIOFailed)

/-- `internal_state` is one of the two connection-id states. -/
def inConnectionId : Bool :=
  s.internal_state = .ServerSendConnectionId || s.internal_state = .ClientRecvConnectionId

/-- The state after a full connection id: the pended connection-id task is done. -/
def afterConnectionId : ctsIOPatternState :=
  if s.inConnectionId then { s with pended_state := false } else s

/-- `completed_task`: the verdict and the new state, or the `FAIL_FAST` reached. -/
def completed_task (t : ctsIOTask) (bytes : Nat) :
    Except FailFast (ctsIOPatternProtocolError × ctsIOPatternState) :=
  if s.internal_state = .ErrorIOFailed then .ok (.ErrorIOFailed, s)
  else if s.inConnectionId ∧ bytes ≠ ConnectionIdLength then
    .ok (.TooFewBytes, s.setState .ErrorIOFailed)
  else if t.track_io then
    match s.afterConnectionId.completeTracked t bytes with
    | .error f => .error f
    | .ok s₂ => s₂.checkTransfer cfg bytes
  else s.afterConnectionId.checkTransfer cfg bytes

/-! ## Spec lemmas -/

variable {cfg s} {t : ctsIOTask} {bytes : Nat} {e : ctsIOPatternProtocolError}
  {s' : ctsIOPatternState} {f : FailFast}

@[simp] theorem setPended_confirmed (st p) :
    (s.setPended st p).confirmed_bytes = s.confirmed_bytes := rfl
@[simp] theorem setPended_inflight (st p) :
    (s.setPended st p).inflight_bytes = s.inflight_bytes := rfl
@[simp] theorem setPended_max (st p) : (s.setPended st p).max_transfer = s.max_transfer := rfl
@[simp] theorem setPended_state (st p) : (s.setPended st p).internal_state = st := rfl
@[simp] theorem setPended_pended (st p) : (s.setPended st p).pended_state = p := rfl

@[simp] theorem setState_state (st) : (s.setState st).internal_state = st := rfl
@[simp] theorem setState_pended (st) : (s.setState st).pended_state = s.pended_state := rfl
@[simp] theorem setState_confirmed (st) : (s.setState st).confirmed_bytes = s.confirmed_bytes :=
  rfl
@[simp] theorem setState_inflight (st) : (s.setState st).inflight_bytes = s.inflight_bytes := rfl
@[simp] theorem setState_max (st) : (s.setState st).max_transfer = s.max_transfer := rfl

theorem setState_eq (st) : s.setState st = s.setPended st s.pended_state := rfl

theorem setPended_self : s.setPended s.internal_state s.pended_state = s := rfl

@[simp] theorem afterConnectionId_confirmed :
    s.afterConnectionId.confirmed_bytes = s.confirmed_bytes := by
  unfold afterConnectionId; split <;> rfl
@[simp] theorem afterConnectionId_inflight :
    s.afterConnectionId.inflight_bytes = s.inflight_bytes := by
  unfold afterConnectionId; split <;> rfl
@[simp] theorem afterConnectionId_max : s.afterConnectionId.max_transfer = s.max_transfer := by
  unfold afterConnectionId; split <;> rfl
@[simp] theorem afterConnectionId_state :
    s.afterConnectionId.internal_state = s.internal_state := by
  unfold afterConnectionId; split <;> rfl

variable (cfg s)

/-- `get_next_task` changes only `internal_state` and `pended_state`. -/
theorem get_next_task_snd : ∃ st p, (s.get_next_task cfg).2 = s.setPended st p := by
  unfold get_next_task
  split
  · exact ⟨_, _, setPended_self.symm⟩
  · split <;> (try split) <;> exact ⟨_, _, rfl⟩

@[simp] theorem get_next_task_confirmed :
    (s.get_next_task cfg).2.confirmed_bytes = s.confirmed_bytes := by
  obtain ⟨st, p, h⟩ := get_next_task_snd cfg s; rw [h]; rfl
@[simp] theorem get_next_task_inflight :
    (s.get_next_task cfg).2.inflight_bytes = s.inflight_bytes := by
  obtain ⟨st, p, h⟩ := get_next_task_snd cfg s; rw [h]; rfl
@[simp] theorem get_next_task_max : (s.get_next_task cfg).2.max_transfer = s.max_transfer := by
  obtain ⟨st, p, h⟩ := get_next_task_snd cfg s; rw [h]; rfl

/-- `get_next_task` neither enters nor leaves `ErrorIOFailed`. -/
theorem get_next_task_error_iff :
    (s.get_next_task cfg).2.internal_state = .ErrorIOFailed ↔
      s.internal_state = .ErrorIOFailed := by
  unfold get_next_task
  split
  · rfl
  · split <;> (try split) <;> simp_all [setState_eq]

/-- `update_error` leaves the state as it is, or moves it to `ErrorIOFailed`. -/
theorem update_error_snd (code : Nat) :
    (s.update_error cfg code).2 = s ∨ (s.update_error cfg code).2 = s.setState .ErrorIOFailed := by
  unfold update_error
  split_ifs <;> simp

@[simp] theorem update_error_max (code : Nat) :
    (s.update_error cfg code).2.max_transfer = s.max_transfer := by
  rcases update_error_snd cfg s code with h | h <;> rw [h]; rfl
@[simp] theorem update_error_confirmed (code : Nat) :
    (s.update_error cfg code).2.confirmed_bytes = s.confirmed_bytes := by
  rcases update_error_snd cfg s code with h | h <;> rw [h]; rfl
@[simp] theorem update_error_inflight (code : Nat) :
    (s.update_error cfg code).2.inflight_bytes = s.inflight_bytes := by
  rcases update_error_snd cfg s code with h | h <;> rw [h]; rfl

@[simp] theorem notify_next_task_max (t : ctsIOTask) :
    (s.notify_next_task t).max_transfer = s.max_transfer := by
  unfold notify_next_task; split <;> rfl
@[simp] theorem notify_next_task_confirmed (t : ctsIOTask) :
    (s.notify_next_task t).confirmed_bytes = s.confirmed_bytes := by
  unfold notify_next_task; split <;> rfl
@[simp] theorem notify_next_task_state (t : ctsIOTask) :
    (s.notify_next_task t).internal_state = s.internal_state := by
  unfold notify_next_task; split <;> rfl
@[simp] theorem notify_next_task_pended (t : ctsIOTask) :
    (s.notify_next_task t).pended_state = s.pended_state := by
  unfold notify_next_task; split <;> rfl

theorem notify_next_task_untracked {t : ctsIOTask} (hT : t.track_io = false) :
    s.notify_next_task t = s := by
  simp [notify_next_task, hT]

variable {cfg s}

theorem get_next_task_of_pended (hp : s.pended_state = true) : s.get_next_task cfg = (.NoIo, s) :=
  by simp [get_next_task, hp]

theorem get_next_task_moreIo (hp : s.pended_state = false) (hM : s.internal_state = .MoreIo) :
    s.get_next_task cfg =
      (if s.alreadyTransferred < s.max_transfer then .MoreIo else .NoIo, s) := by
  simp only [get_next_task, hp, hM, Bool.false_eq_true, if_false]
  split_ifs <;> rfl

theorem get_next_task_of_error (hE : s.internal_state = .ErrorIOFailed) :
    s.get_next_task cfg = (.NoIo, s) := by
  unfold get_next_task; split <;> simp [hE]

theorem serverFinish_snd (h : s.serverFinish bytes = .ok (e, s')) :
    ∃ st p, s' = s.setPended st p := by
  unfold serverFinish at h
  split at h <;> (try split at h) <;> cases h <;> exact ⟨_, _, rfl⟩

theorem clientFinish_snd (h : s.clientFinish cfg bytes = .ok (e, s')) :
    ∃ st p, s' = s.setPended st p := by
  unfold clientFinish at h
  split at h <;> (try split_ifs at h) <;> cases h <;> exact ⟨_, _, rfl⟩

/-- What the post-condition checks can do: keep the state, fail, or reach the final switch. -/
theorem checkTransfer_cases {r : Except FailFast (ctsIOPatternProtocolError × ctsIOPatternState)}
    (h : s.checkTransfer cfg bytes = r) :
    (cfg.Protocol = .UDP ∧
        r = .ok (if s.alreadyTransferred = s.max_transfer then .SuccessfullyCompleted
          else .NoError, s)) ∨
      (cfg.Protocol ≠ .UDP ∧ r = .ok (.NoError, s)) ∨
      (cfg.Protocol ≠ .UDP ∧ s.alreadyTransferred < s.max_transfer ∧ bytes = 0 ∧
        r = .ok (.TooFewBytes, s.setState .ErrorIOFailed)) ∨
      (cfg.Protocol ≠ .UDP ∧ s.max_transfer < s.alreadyTransferred ∧
        r = .ok (.TooManyBytes, s.setState .ErrorIOFailed)) ∨
      (cfg.Protocol ≠ .UDP ∧ s.alreadyTransferred = s.max_transfer ∧ s.inflight_bytes = 0 ∧
        r = if cfg.IsListening then s.serverFinish bytes else s.clientFinish cfg bytes) := by
  unfold checkTransfer at h
  by_cases hu : cfg.Protocol = .UDP
  · rw [if_pos hu] at h; exact .inl ⟨hu, h.symm⟩
  rw [if_neg hu] at h
  by_cases hlt : s.alreadyTransferred < s.max_transfer
  · rw [if_pos hlt] at h
    by_cases hb : bytes = 0
    · rw [if_pos hb] at h; exact .inr (.inr (.inl ⟨hu, hlt, hb, h.symm⟩))
    · rw [if_neg hb] at h; exact .inr (.inl ⟨hu, h.symm⟩)
  rw [if_neg hlt] at h
  by_cases heq : s.alreadyTransferred = s.max_transfer
  · rw [if_pos heq] at h
    by_cases hi : s.inflight_bytes = 0
    · rw [if_pos hi] at h; exact .inr (.inr (.inr (.inr ⟨hu, heq, hi, h.symm⟩)))
    · rw [if_neg hi] at h; exact .inr (.inl ⟨hu, h.symm⟩)
  rw [if_neg heq] at h
  exact .inr (.inr (.inr (.inl ⟨hu, by omega, h.symm⟩)))

/-- The post-condition checks change only `internal_state` and `pended_state`. -/
theorem checkTransfer_snd (h : s.checkTransfer cfg bytes = .ok (e, s')) :
    ∃ st p, s' = s.setPended st p := by
  rcases checkTransfer_cases h with ⟨-, h⟩ | ⟨-, h⟩ | ⟨-, -, -, h⟩ | ⟨-, -, h⟩ | ⟨-, -, -, h⟩
  all_goals first
    | (cases h; exact ⟨_, _, rfl⟩)
    | (split at h; exacts [serverFinish_snd h.symm, clientFinish_snd h.symm])

theorem serverFinish_error (h : s.serverFinish bytes = .error f) :
    f = .invalidInternalStatus := by
  unfold serverFinish at h
  split at h <;> (try split at h) <;> simp_all

theorem clientFinish_error (h : s.clientFinish cfg bytes = .error f) :
    f = .invalidInternalStatus := by
  unfold clientFinish at h
  split at h <;> (try split_ifs at h) <;> simp_all

/-- The only `FAIL_FAST` after the byte update is the invalid-state one of the final switch. -/
theorem checkTransfer_error (h : s.checkTransfer cfg bytes = .error f) :
    f = .invalidInternalStatus := by
  rcases checkTransfer_cases h with ⟨-, h⟩ | ⟨-, h⟩ | ⟨-, -, -, h⟩ | ⟨-, -, h⟩ | ⟨-, -, -, h⟩
  all_goals first
    | cases h
    | (split at h; exacts [serverFinish_error h.symm, clientFinish_error h.symm])

theorem serverFinish_tooMany (h : s.serverFinish bytes = .ok (.TooManyBytes, s')) :
    s.internal_state = .RequestFIN := by
  unfold serverFinish at h
  split at h <;> (try split at h) <;> simp_all

theorem clientFinish_tooMany (h : s.clientFinish cfg bytes = .ok (.TooManyBytes, s')) :
    s.internal_state = .RequestFIN := by
  unfold clientFinish at h
  split at h <;> (try split_ifs at h) <;> simp_all

/-- `TooManyBytes` after the byte update: a FIN that carried data, or more bytes than
    `max_transfer`. -/
theorem checkTransfer_tooMany (h : s.checkTransfer cfg bytes = .ok (.TooManyBytes, s')) :
    s.internal_state = .RequestFIN ∨ s.max_transfer < s.alreadyTransferred := by
  rcases checkTransfer_cases h with ⟨-, h⟩ | ⟨-, h⟩ | ⟨-, -, -, h⟩ | ⟨-, hgt, -⟩ | ⟨-, -, -, h⟩
  · split at h <;> cases h
  · cases h
  · cases h
  · exact .inr hgt
  · split at h
    exacts [.inl (serverFinish_tooMany h.symm), .inl (clientFinish_tooMany h.symm)]

theorem completeTracked_ok (h : s.completeTracked t bytes = .ok s') :
    bytes ≤ t.buffer_length ∧ t.buffer_length ≤ s.inflight_bytes ∧
      s' = { s with inflight_bytes := s.inflight_bytes - t.buffer_length,
                    confirmed_bytes := s.confirmed_bytes + bytes } := by
  unfold completeTracked at h
  split_ifs at h
  cases h
  exact ⟨by omega, by omega, rfl⟩

theorem completeTracked_error (h : s.completeTracked t bytes = .error f) :
    s.inflight_bytes < bytes ∨ s.inflight_bytes < t.buffer_length ∨ t.buffer_length < bytes := by
  unfold completeTracked at h
  split_ifs at h <;> omega

theorem completed_task_of_error (h : s.internal_state = .ErrorIOFailed) :
    s.completed_task cfg t bytes = .ok (.ErrorIOFailed, s) := by
  simp [completed_task, h]

/-- `completed_task` never leaves `ErrorIOFailed`. -/
theorem completed_task_of_error_state (h : s.completed_task cfg t bytes = .ok (e, s'))
    (hE : s.internal_state = .ErrorIOFailed) : e = .ErrorIOFailed ∧ s' = s := by
  rw [completed_task_of_error hE] at h
  cases h
  exact ⟨rfl, rfl⟩

/-- What `completed_task` does to the counters: nothing, or (a tracked task, outside
    `ErrorIOFailed`) it moves the task's bytes from in flight to confirmed. -/
theorem completed_task_counters (h : s.completed_task cfg t bytes = .ok (e, s')) :
    s'.max_transfer = s.max_transfer ∧
      ((s'.confirmed_bytes = s.confirmed_bytes ∧ s'.inflight_bytes = s.inflight_bytes ∧
          (t.track_io → s'.internal_state = .ErrorIOFailed)) ∨
        (t.track_io ∧ s.internal_state ≠ .ErrorIOFailed ∧ bytes ≤ t.buffer_length ∧
          t.buffer_length ≤ s.inflight_bytes ∧
          s'.confirmed_bytes = s.confirmed_bytes + bytes ∧
          s'.inflight_bytes = s.inflight_bytes - t.buffer_length)) := by
  unfold completed_task at h
  split_ifs at h with hE hC hT
  · cases h; exact ⟨rfl, .inl ⟨rfl, rfl, fun _ => hE⟩⟩
  · cases h; exact ⟨rfl, .inl ⟨rfl, rfl, fun _ => rfl⟩⟩
  · split at h
    · cases h
    · rename_i s₂ h₂
      obtain ⟨hb, hl, rfl⟩ := completeTracked_ok h₂
      obtain ⟨st, p, rfl⟩ := checkTransfer_snd h
      rw [afterConnectionId_inflight] at hl
      exact ⟨by simp, .inr ⟨hT, hE, hb, hl, by simp, by simp⟩⟩
  · obtain ⟨st, p, rfl⟩ := checkTransfer_snd h
    exact ⟨by simp, .inl ⟨by simp, by simp, fun h => absurd h hT⟩⟩

/-- The `FAIL_FAST`s `completed_task` can reach: one of the three `track_io` checks, or the
    invalid-state one of the final switch. -/
theorem completed_task_error (h : s.completed_task cfg t bytes = .error f) :
    f = .invalidInternalStatus ∨
      (t.track_io ∧ (s.inflight_bytes < bytes ∨ s.inflight_bytes < t.buffer_length ∨
        t.buffer_length < bytes)) := by
  unfold completed_task at h
  split_ifs at h with hE hC hT
  · split at h
    · cases h
      have := completeTracked_error ‹_›
      simp only [afterConnectionId_inflight] at this
      exact .inr ⟨hT, this⟩
    · exact .inl (checkTransfer_error h)
  · exact .inl (checkTransfer_error h)

/-- `completed_task` returns `TooManyBytes` only for a FIN that carried data, or with more
    than `max_transfer` bytes already transferred. -/
theorem completed_task_tooMany (h : s.completed_task cfg t bytes = .ok (.TooManyBytes, s')) :
    s.internal_state = .RequestFIN ∨ s.max_transfer < s.alreadyTransferred := by
  unfold completed_task at h
  split_ifs at h with hE hC hT
  · cases h
  · cases h
  · split at h
    · cases h
    · rename_i s₂ h₂
      obtain ⟨hb, hl, rfl⟩ := completeTracked_ok h₂
      rcases checkTransfer_tooMany h with h | h
      · exact .inl (by simpa using h)
      · right
        simp only [alreadyTransferred, afterConnectionId_max, afterConnectionId_confirmed,
          afterConnectionId_inflight] at h hl ⊢
        omega
  · rcases checkTransfer_tooMany h with h | h
    · exact .inl (by simpa using h)
    · right; simpa [alreadyTransferred] using h

end ctsIOPatternState

end CtsTraffic
