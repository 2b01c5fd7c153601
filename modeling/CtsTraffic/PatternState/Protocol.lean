import CtsTraffic.PatternState.Run

/-
  The TCP protocol of `ctsIOPatternState` under the strict pattern contract. The connection
  id, then `MoreIo` until `max_transfer`, then the completion phase: a server sends its
  status and waits for the FIN; a client receives the status, then shuts down gracefully
  (and waits for the FIN) or hard.

  `StrictInv` says where a run is, per internal state (`PhaseInv`): which protocol tasks
  `get_next_task` has returned, what is outstanding (only tracked tasks in `MoreIo`; at most
  the one task of a pended protocol step elsewhere), the counters, and which verdicts have
  been returned. One lemma per call keeps it; `Laws.lean` reads the protocol laws off it.
-/

namespace CtsTraffic

/-! ## The protocol word -/

/-- The connection-id task of the role. -/
def connectionIdTask (cfg : PatternSettings) : ctsIOPatternProtocolTask :=
  if cfg.IsListening then .SendConnectionId else .RecvConnectionId

/-- The protocol tasks after the data, in order, for the role and shutdown type. -/
def finishTasks (cfg : PatternSettings) : List ctsIOPatternProtocolTask :=
  if cfg.IsListening then [.SendCompletion, .RequestFIN]
  else if cfg.TcpShutdown = .GracefulShutdown then
    [.RecvCompletion, .GracefulShutdown, .RequestFIN]
  else [.RecvCompletion, .HardShutdown]

/-- All the protocol tasks of a TCP connection that moved data in `k` `MoreIo` steps. -/
def protocolWord (cfg : PatternSettings) (k : Nat) : List ctsIOPatternProtocolTask :=
  connectionIdTask cfg :: (List.replicate k .MoreIo ++ finishTasks cfg)

/-- The protocol task `get_next_task` returns from a state that is not pended. -/
def phaseTask : InternalPatternState → ctsIOPatternProtocolTask
  | .ServerSendConnectionId => .SendConnectionId
  | .ClientRecvConnectionId => .RecvConnectionId
  | .ServerSendCompletion => .SendCompletion
  | .ClientRecvCompletion => .RecvCompletion
  | .GracefulShutdown => .GracefulShutdown
  | .HardShutdown => .HardShutdown
  | .RequestFIN => .RequestFIN
  | _ => .NoIo

theorem connectionIdTask_ne_moreIo (cfg : PatternSettings) : connectionIdTask cfg ≠ .MoreIo := by
  unfold connectionIdTask; split <;> simp

/-- Only the five states after the data have their task among `finishTasks`. -/
theorem phaseTask_mem_finishTasks {cfg : PatternSettings} {st : InternalPatternState}
    (h : phaseTask st ∈ finishTasks cfg) :
    st = .ServerSendCompletion ∨ st = .ClientRecvCompletion ∨ st = .GracefulShutdown ∨
      st = .HardShutdown ∨ st = .RequestFIN := by
  have hs : phaseTask st ∈ [.SendCompletion, .RecvCompletion, .GracefulShutdown, .HardShutdown,
      .RequestFIN] :=
    (show finishTasks cfg ⊆ _ by unfold finishTasks; split_ifs <;> decide) h
  cases st <;> simp [phaseTask] at hs ⊢

/-- The three completion phases: a server's, a graceful client's, a hard client's. -/
theorem finishTasks_cases (cfg : PatternSettings) :
    (finishTasks cfg = [.SendCompletion, .RequestFIN] ∧ cfg.IsListening = true) ∨
      (finishTasks cfg = [.RecvCompletion, .GracefulShutdown, .RequestFIN] ∧
        cfg.IsListening = false ∧ cfg.TcpShutdown = .GracefulShutdown) ∨
      (finishTasks cfg = [.RecvCompletion, .HardShutdown] ∧ cfg.IsListening = false ∧
        cfg.TcpShutdown ≠ .GracefulShutdown) := by
  unfold finishTasks
  cases cfg.IsListening <;> by_cases hG : cfg.TcpShutdown = .GracefulShutdown <;> simp [hG]

/-- Every task but `MoreIo` occurs at most once in a protocol word. -/
theorem protocolWord_count_le (cfg : PatternSettings) (k : Nat) {p : ctsIOPatternProtocolTask}
    (hp : p ≠ .MoreIo) : (protocolWord cfg k).count p ≤ 1 := by
  have hnd : (connectionIdTask cfg :: finishTasks cfg).Nodup := by
    unfold connectionIdTask finishTasks; split_ifs <;> decide
  have h1 := List.nodup_iff_count_le_one.1 hnd p
  have h2 : (List.replicate k ctsIOPatternProtocolTask.MoreIo).count p = 0 :=
    List.count_eq_zero.2 fun h => hp (List.eq_of_mem_replicate h)
  simp only [List.count_cons] at h1
  simp only [protocolWord, List.count_cons, List.count_append, h2]
  omega

/-! ## The phases of a run

  The invariant reads four parts of a run: the state, the outstanding tasks, the protocol
  tasks returned so far, and the verdicts. -/

section Phases

variable (cfg : PatternSettings) (m : Nat) (s : ctsIOPatternState) (out : List IssuedTask)
  (ret : List ctsIOPatternProtocolTask) (vs : List Verdict)

/-- Outside `MoreIo`: nothing outstanding, or the single untracked task of the pended step. -/
def ProtoOutstanding : Prop :=
  out = [] ∨ ∃ t, t.track_io = false ∧ out = [⟨phaseTask s.internal_state, t⟩] ∧
    s.pended_state = true

/-- The connection id was completed with its 32 bytes. -/
def ConnIdDone : Prop := Verdict.completed (connectionIdTask cfg) ConnectionIdLength .NoError ∈ vs

/-- The server's status was received with its 4 bytes. -/
def StatusDone : Prop := Verdict.completed .RecvCompletion 4 .NoError ∈ vs

/-- Every verdict so far is `NoError`. -/
def VerdictsClean : Prop := ∀ v ∈ vs, v.result = .NoError

/-- The verdict of a successful finish: a FIN of 0 bytes, or a client's hard shutdown. -/
def SuccessShape (v : Verdict) : Prop :=
  v = .completed .RequestFIN 0 .SuccessfullyCompleted ∨
    (cfg.IsListening = false ∧ ∃ n, v = .completed .HardShutdown n .SuccessfullyCompleted)

/-- The connection-id phase. -/
structure ConnIdPhase : Prop where
  role : phaseTask s.internal_state = connectionIdTask cfg
  returned : ret = [connectionIdTask cfg]
  transferred : s.alreadyTransferred = 0
  outstanding : ProtoOutstanding s out
  connId : s.pended_state = false → ConnIdDone cfg vs
  clean : VerdictsClean vs

/-- A phase after the data, the `j`-th of `finishTasks`. -/
structure FinishPhase (j : Nat) : Prop where
  task : (finishTasks cfg)[j]? = some (phaseTask s.internal_state)
  returned : ∃ k, 0 < k ∧ ret = connectionIdTask cfg :: (List.replicate k .MoreIo ++
    (finishTasks cfg).take (j + if s.pended_state then 1 else 0))
  confirmed : s.confirmed_bytes = m
  inflight : s.inflight_bytes = 0
  outstanding : ProtoOutstanding s out
  connId : ConnIdDone cfg vs
  status : 0 < j → cfg.IsListening = false → StatusDone vs
  clean : VerdictsClean vs

/-- Where a run is, by internal state. -/
def PhaseInv : InternalPatternState → Prop
  | .Initialized => ret = [] ∧ out = [] ∧ s.alreadyTransferred = 0 ∧ VerdictsClean vs
  | .ServerSendConnectionId | .ClientRecvConnectionId => ConnIdPhase cfg s out ret vs
  | .MoreIo => (∃ k, 0 < k ∧ ret = connectionIdTask cfg :: List.replicate k .MoreIo) ∧
      s.pended_state = false ∧ (∀ it ∈ out, it.task.track_io = true) ∧ ConnIdDone cfg vs ∧
      VerdictsClean vs
  | .ServerSendCompletion | .ClientRecvCompletion | .GracefulShutdown | .HardShutdown
  | .RequestFIN => ∃ j, FinishPhase cfg m s out ret vs j
  | .CompletedTransfer => (∃ k, 0 < k ∧ ret = protocolWord cfg k) ∧ out = [] ∧
      s.confirmed_bytes = m ∧ s.inflight_bytes = 0 ∧ ConnIdDone cfg vs ∧
      (cfg.IsListening = false → StatusDone vs) ∧
      ∃ pre v post, vs = pre ++ v :: post ∧ VerdictsClean (pre ++ post) ∧ SuccessShape cfg v
  | .ErrorIOFailed => (∃ k, 0 < k ∧ ret <+: protocolWord cfg k) ∧
      ∀ v ∈ vs, v.result ≠ .SuccessfullyCompleted

end Phases

/-- The invariant of a TCP run under the strict contract. -/
structure StrictInv (cfg : PatternSettings) (m : Nat) (r : PatternRun) : Prop where
  transfer : TransferInv r
  max : r.state.max_transfer = m
  tracked : ∀ it ∈ r.outstanding, it.task.track_io = true → 0 < it.task.buffer_length
  lastReturned : r.last = .NoIo ∨ r.returned.getLast? = some r.last
  last : r.issued = false → r.last ≠ .NoIo → r.last ≠ .MoreIo →
    r.state.internal_state = .ErrorIOFailed ∨
      (phaseTask r.state.internal_state = r.last ∧ r.state.pended_state = true ∧
        r.outstanding = [])
  phase : PhaseInv cfg m r.state r.outstanding r.returned r.verdicts r.state.internal_state

/-! ## The calls over TCP -/

namespace ctsIOPatternState

variable {cfg : PatternSettings} {s s' : ctsIOPatternState} {t : ctsIOTask} {bytes j : Nat}
  {e : ctsIOPatternProtocolError}

theorem setState_of_eq {st : InternalPatternState} (h : s.internal_state = st) :
    s.setState st = s := by
  cases s; cases h; rfl

theorem get_next_task_initialized (hp : s.pended_state = false)
    (hI : s.internal_state = .Initialized) :
    s.get_next_task cfg = (connectionIdTask cfg, s.setPended
      (if cfg.IsListening then .ServerSendConnectionId else .ClientRecvConnectionId) true) := by
  simp only [get_next_task, hp, hI, connectionIdTask, Bool.false_eq_true, if_false]
  split <;> rfl

theorem get_next_task_connId (hp : s.pended_state = false) (hC : s.inConnectionId = true) :
    s.get_next_task cfg = (.MoreIo, s.setState .MoreIo) := by
  simp only [inConnectionId, Bool.or_eq_true, decide_eq_true_eq] at hC
  rcases hC with h | h <;> simp [get_next_task, hp, h]

/-- A state after the data that is not pended returns its protocol task and pends. -/
theorem get_next_task_finish (hp : s.pended_state = false)
    (hF : phaseTask s.internal_state ∈ finishTasks cfg) :
    s.get_next_task cfg = (phaseTask s.internal_state, s.setPended s.internal_state true) := by
  rcases phaseTask_mem_finishTasks hF with h | h | h | h | h <;>
    simp [get_next_task, hp, h, phaseTask]

theorem get_next_task_of_completed (hC : s.internal_state = .CompletedTransfer) :
    s.get_next_task cfg = (.NoIo, s) := by
  unfold get_next_task; split <;> simp [hC]

theorem checkTransfer_tcp_lt (htcp : cfg.Protocol = .TCP)
    (hlt : s.alreadyTransferred < s.max_transfer) :
    s.checkTransfer cfg bytes = if bytes = 0 then .ok (.TooFewBytes, s.setState .ErrorIOFailed)
      else .ok (.NoError, s) := by
  simp [checkTransfer, htcp, hlt]

theorem checkTransfer_tcp_eq (htcp : cfg.Protocol = .TCP)
    (heq : s.alreadyTransferred = s.max_transfer) :
    s.checkTransfer cfg bytes = if s.inflight_bytes = 0 then
      (if cfg.IsListening then s.serverFinish bytes else s.clientFinish cfg bytes)
      else .ok (.NoError, s) := by
  simp [checkTransfer, htcp, heq]

/-- The post-condition checks in `MoreIo`: stay, fail, or (all data confirmed) move to the
    role's completion phase. -/
theorem checkTransfer_moreIo (htcp : cfg.Protocol = .TCP) (hM : s.internal_state = .MoreIo)
    (h : s.checkTransfer cfg bytes = .ok (e, s')) :
    (e = .NoError ∧ s' = s) ∨
      (e ≠ .NoError ∧ e ≠ .SuccessfullyCompleted ∧ s' = s.setState .ErrorIOFailed) ∨
      (e = .NoError ∧ s.alreadyTransferred = s.max_transfer ∧ s.inflight_bytes = 0 ∧
        s' = s.setPended
          (if cfg.IsListening then .ServerSendCompletion else .ClientRecvCompletion) false) := by
  rcases checkTransfer_cases h with ⟨hu, -⟩ | ⟨-, h⟩ | ⟨-, -, -, h⟩ | ⟨-, -, h⟩ | ⟨-, heq, hi, h⟩
  · rw [htcp] at hu; cases hu
  · cases h; exact .inl ⟨rfl, rfl⟩
  · cases h; exact .inr (.inl ⟨by simp, by simp, rfl⟩)
  · cases h; exact .inr (.inl ⟨by simp, by simp, rfl⟩)
  · split at h
    next hL =>
      simp only [serverFinish, hM, Except.ok.injEq, Prod.mk.injEq] at h
      exact .inr (.inr ⟨h.1, heq, hi, by rw [h.2, if_pos hL]⟩)
    next hL =>
      simp only [clientFinish, hM, Except.ok.injEq, Prod.mk.injEq] at h
      exact .inr (.inr ⟨h.1, heq, hi, by rw [h.2, if_neg hL]⟩)

/-- The final switch in the `j`-th phase after the data: the next phase, `CompletedTransfer`
    after the last one with a success verdict, or `ErrorIOFailed`. -/
theorem finish_cases (hj : (finishTasks cfg)[j]? = some (phaseTask s.internal_state))
    (h : (if cfg.IsListening then s.serverFinish bytes else s.clientFinish cfg bytes) =
      .ok (e, s')) :
    (e ≠ .NoError ∧ e ≠ .SuccessfullyCompleted ∧ s' = s.setState .ErrorIOFailed) ∨
      (e = .NoError ∧ (phaseTask s.internal_state = .RecvCompletion → bytes = 4) ∧
        ∃ st, s' = s.setPended st false ∧ (finishTasks cfg)[j + 1]? = some (phaseTask st)) ∨
      (e = .SuccessfullyCompleted ∧ s' = s.setState .CompletedTransfer ∧
        (finishTasks cfg).length = j + 1 ∧
        SuccessShape cfg (.completed (phaseTask s.internal_state) bytes e)) := by
  have hF := phaseTask_mem_finishTasks (List.getElem?_mem hj)
  -- role, then phase index, then state: only the seven phases of the three roles survive
  rcases finishTasks_cases cfg with ⟨hf, hL⟩ | ⟨hf, hL, hG⟩ | ⟨hf, hL, hG⟩ <;> rw [hf] at hj ⊢ <;>
    simp only [hL, if_true, if_false, Bool.false_eq_true] at h <;>
    rcases j with _ | _ | _ | j <;>
    simp only [List.getElem?_cons_succ, List.getElem?_cons_zero, List.getElem?_nil,
      Option.some.injEq, reduceCtorEq] at hj <;>
    rcases hF with hst | hst | hst | hst | hst <;>
    simp only [hst, phaseTask, reduceCtorEq] at hj <;>
    simp only [hst, phaseTask, serverFinish, clientFinish] at h ⊢ <;>
    (try simp only [hG, if_true, if_false] at h) <;>
    (try split_ifs at h) <;> cases h
  all_goals first
    | exact .inl ⟨by decide, by decide, rfl⟩
    | refine .inr (.inl ⟨rfl, ?_, _, rfl, rfl⟩)
    | exact .inr (.inr ⟨rfl, rfl, rfl, by simp_all [SuccessShape]⟩)
  all_goals intro h; first | omega | cases h

/-- The connection-id completion, before any data. -/
theorem completed_task_connId (htcp : cfg.Protocol = .TCP) (hC : s.inConnectionId = true)
    (h0 : s.alreadyTransferred = 0) (hm : 0 < s.max_transfer) (hT : t.track_io = false) :
    s.completed_task cfg t bytes =
      if bytes = ConnectionIdLength then .ok (.NoError, s.setPended s.internal_state false)
      else .ok (.TooFewBytes, s.setState .ErrorIOFailed) := by
  have hE : s.internal_state ≠ .ErrorIOFailed := by
    intro h; simp [inConnectionId, h] at hC
  unfold completed_task
  rw [if_neg hE]
  by_cases hb : bytes = ConnectionIdLength
  · have hs₁ : s.afterConnectionId = s.setPended s.internal_state false := by
      simp [afterConnectionId, hC]; rfl
    rw [if_neg (by simp [hb]), if_neg (by simp [hT]), if_pos hb, hs₁,
      checkTransfer_tcp_lt htcp (by simp only [alreadyTransferred] at h0 ⊢; simp; omega),
      if_neg (by simp [hb, ConnectionIdLength])]
  · rw [if_pos ⟨hC, hb⟩, if_neg hb]

/-- A completion outside the connection id and `ErrorIOFailed`: the byte update, then the
    post-condition checks. -/
theorem completed_task_tracked (hE : s.internal_state ≠ .ErrorIOFailed)
    (hC : s.inConnectionId = false) (hT : t.track_io = true) (hb : bytes ≤ t.buffer_length)
    (hl : t.buffer_length ≤ s.inflight_bytes) :
    s.completed_task cfg t bytes =
      ({ s with inflight_bytes := s.inflight_bytes - t.buffer_length,
                confirmed_bytes := s.confirmed_bytes + bytes } : ctsIOPatternState).checkTransfer
        cfg bytes := by
  have hs₁ : s.afterConnectionId = s := by simp [afterConnectionId, hC]
  unfold completed_task
  rw [if_neg hE, if_neg (by simp [hC]), if_pos hT, hs₁]
  unfold completeTracked
  rw [if_neg (by omega), if_neg (by omega), if_neg (by omega)]

theorem completed_task_untracked (hE : s.internal_state ≠ .ErrorIOFailed)
    (hC : s.inConnectionId = false) (hT : t.track_io = false) :
    s.completed_task cfg t bytes = s.checkTransfer cfg bytes := by
  have hs₁ : s.afterConnectionId = s := by simp [afterConnectionId, hC]
  unfold completed_task
  rw [if_neg hE, if_neg (by simp [hC]), if_neg (by simp [hT]), hs₁]

/-- TCP `update_error`: no change, or `ErrorIOFailed` from a state that is not
    `CompletedTransfer`. -/
theorem update_error_tcp (htcp : cfg.Protocol = .TCP) (code : Nat) :
    s.update_error cfg code = (.NoError, s) ∨
      (s.update_error cfg code = (.ErrorIOFailed, s.setState .ErrorIOFailed) ∧
        s.internal_state ≠ .CompletedTransfer) := by
  unfold update_error
  by_cases hE : s.internal_state = .ErrorIOFailed
  · exact .inr ⟨by rw [if_pos hE, setState_of_eq hE], by simp [hE]⟩
  rw [if_neg hE, if_neg (by simp [htcp])]
  split_ifs with h2 h3
  · exact .inl rfl
  · exact .inr ⟨rfl, fun hc => by simp [is_completed, hc] at h2⟩
  · exact .inl rfl

end ctsIOPatternState

/-! ## The phases, call by call -/

section PhaseLemmas

open ctsIOPatternState

variable {cfg : PatternSettings} {m : Nat} {s s' : ctsIOPatternState} {out : List IssuedTask}
  {ret : List ctsIOPatternProtocolTask} {vs : List Verdict} {w : Verdict} {j : Nat}
  {it : IssuedTask} {t : ctsIOTask} {bytes : Nat} {e : ctsIOPatternProtocolError}

theorem VerdictsClean.append (h : VerdictsClean vs) (hw : w.result = .NoError) :
    VerdictsClean (vs ++ [w]) := fun v hv =>
  (List.mem_append.1 hv).elim (h v) fun hv => List.mem_singleton.1 hv ▸ hw

theorem VerdictsClean.noSuccess (h : VerdictsClean vs) :
    ∀ v ∈ vs, v.result ≠ .SuccessfullyCompleted := fun v hv => by rw [h v hv]; decide

theorem ConnIdDone.append (h : ConnIdDone cfg vs) (l : List Verdict) : ConnIdDone cfg (vs ++ l) :=
  List.mem_append_left l h

theorem StatusDone.append (h : StatusDone vs) (l : List Verdict) : StatusDone (vs ++ l) :=
  List.mem_append_left l h

theorem ProtoOutstanding.eq_nil (h : ProtoOutstanding s out) (hp : s.pended_state = false) :
    out = [] := by
  rcases h with h | ⟨_, _, _, h⟩
  · exact h
  · rw [hp] at h; cases h

theorem ProtoOutstanding.of_mem (h : ProtoOutstanding s out) (hit : it ∈ out) :
    ∃ t, t.track_io = false ∧ out = [⟨phaseTask s.internal_state, t⟩] ∧
      it = ⟨phaseTask s.internal_state, t⟩ ∧ s.pended_state = true := by
  rcases h with rfl | ⟨t, hT, rfl, hp⟩
  · cases hit
  · exact ⟨t, hT, rfl, List.mem_singleton.1 hit, hp⟩

theorem ne_noIo_of_mem_finishTasks {p : ctsIOPatternProtocolTask} (h : p ∈ finishTasks cfg) :
    p ≠ .NoIo := by
  rintro rfl; unfold finishTasks at h; split_ifs at h <;> simp at h

theorem ne_moreIo_of_mem_finishTasks {p : ctsIOPatternProtocolTask} (h : p ∈ finishTasks cfg) :
    p ≠ .MoreIo := by
  rintro rfl; unfold finishTasks at h; split_ifs at h <;> simp at h

theorem phaseTask_eq_connectionIdTask {st : InternalPatternState}
    (h : phaseTask st = connectionIdTask cfg) :
    st = .ServerSendConnectionId ∨ st = .ClientRecvConnectionId := by
  unfold connectionIdTask at h
  cases st <;> split at h <;> simp_all [phaseTask]

/-- Every phase has returned a prefix of a protocol word. -/
theorem PhaseInv.returned_prefix {st : InternalPatternState}
    (hP : PhaseInv cfg m s out ret vs st) : ∃ k, 0 < k ∧ ret <+: protocolWord cfg k := by
  cases st with
  | Initialized => exact ⟨1, Nat.one_pos, hP.1 ▸ List.nil_prefix⟩
  | ServerSendConnectionId | ClientRecvConnectionId =>
    have hC : ConnIdPhase cfg s out ret vs := hP
    exact ⟨1, Nat.one_pos, hC.returned ▸ by simp [protocolWord]⟩
  | MoreIo =>
    obtain ⟨⟨k, hk, rfl⟩, -⟩ := hP
    exact ⟨k, hk, by simp [protocolWord]⟩
  | ServerSendCompletion | ClientRecvCompletion | GracefulShutdown | HardShutdown | RequestFIN =>
    obtain ⟨j, hF⟩ := hP
    obtain ⟨k, hk, hret⟩ := hF.returned
    exact ⟨k, hk, hret ▸ by simp [protocolWord, List.take_prefix]⟩
  | CompletedTransfer =>
    obtain ⟨⟨k, hk, rfl⟩, -⟩ := hP
    exact ⟨k, hk, List.prefix_refl _⟩
  | ErrorIOFailed => exact hP.1

/-- Outside `CompletedTransfer` and `ErrorIOFailed`, every verdict is `NoError`. -/
theorem PhaseInv.clean {st : InternalPatternState} (hP : PhaseInv cfg m s out ret vs st)
    (h₁ : st ≠ .CompletedTransfer) (h₂ : st ≠ .ErrorIOFailed) : VerdictsClean vs := by
  cases st with
  | Initialized => exact hP.2.2.2
  | ServerSendConnectionId | ClientRecvConnectionId =>
    exact (show ConnIdPhase cfg s out ret vs from hP).clean
  | MoreIo => exact hP.2.2.2.2
  | ServerSendCompletion | ClientRecvCompletion | GracefulShutdown | HardShutdown | RequestFIN =>
    obtain ⟨j, hF⟩ := hP
    exact hF.clean
  | CompletedTransfer => exact absurd rfl h₁
  | ErrorIOFailed => exact absurd rfl h₂

/-- Before `CompletedTransfer`, no verdict was a success. -/
theorem PhaseInv.noSuccess {st : InternalPatternState} (hP : PhaseInv cfg m s out ret vs st)
    (hst : st ≠ .CompletedTransfer) : ∀ v ∈ vs, v.result ≠ .SuccessfullyCompleted := by
  by_cases hE : st = .ErrorIOFailed
  · subst hE; exact hP.2
  · exact (hP.clean hst hE).noSuccess

/-- A failure outside `CompletedTransfer` lands in the `ErrorIOFailed` phase. -/
theorem PhaseInv.toError {st : InternalPatternState} (hP : PhaseInv cfg m s out ret vs st)
    (hst : st ≠ .CompletedTransfer) (hw : w.result ≠ .SuccessfullyCompleted)
    {out' : List IssuedTask} : PhaseInv cfg m s' out' ret (vs ++ [w]) .ErrorIOFailed :=
  ⟨hP.returned_prefix, fun v hv =>
    (List.mem_append.1 hv).elim (hP.noSuccess hst v) fun hv => List.mem_singleton.1 hv ▸ hw⟩

/-- A `NoError` verdict keeps every phase. -/
theorem PhaseInv.noError {st : InternalPatternState} (hP : PhaseInv cfg m s out ret vs st)
    (hw : w.result = .NoError) : PhaseInv cfg m s out ret (vs ++ [w]) st := by
  cases st with
  | Initialized => exact ⟨hP.1, hP.2.1, hP.2.2.1, hP.2.2.2.append hw⟩
  | ServerSendConnectionId | ClientRecvConnectionId =>
    have hC : ConnIdPhase cfg s out ret vs := hP
    exact { hC with connId := fun hp => (hC.connId hp).append _, clean := hC.clean.append hw }
  | MoreIo =>
    obtain ⟨h1, h2, h3, h4, h5⟩ := hP
    exact ⟨h1, h2, h3, h4.append _, h5.append hw⟩
  | ServerSendCompletion | ClientRecvCompletion | GracefulShutdown | HardShutdown | RequestFIN =>
    obtain ⟨j, hF⟩ := hP
    exact ⟨j, { hF with connId := hF.connId.append _,
                        status := fun hj hl => (hF.status hj hl).append _,
                        clean := hF.clean.append hw }⟩
  | CompletedTransfer =>
    obtain ⟨h1, h2, h3, h4, h5, h6, pre, v, post, rfl, hc, hv⟩ := hP
    exact ⟨h1, h2, h3, h4, h5.append _, fun hl => (h6 hl).append _, pre, v, post ++ [w],
      by simp, by simpa using hc.append hw, hv⟩
  | ErrorIOFailed =>
    exact ⟨hP.1, fun v hv => (List.mem_append.1 hv).elim (hP.2 v)
      fun hv => by rw [List.mem_singleton.1 hv, hw]; decide⟩

/-- The untracked task of a pended protocol step is announced. -/
theorem PhaseInv.announce (hP : PhaseInv cfg m s out ret vs s.internal_state)
    (hp : s.pended_state = true) (hT : t.track_io = false)
    (hph : phaseTask s.internal_state ≠ .NoIo) :
    PhaseInv cfg m s [⟨phaseTask s.internal_state, t⟩] ret vs s.internal_state := by
  have hO : ProtoOutstanding s [⟨phaseTask s.internal_state, t⟩] := .inr ⟨t, hT, rfl, hp⟩
  generalize hst : s.internal_state = st at hP hph hO ⊢
  cases st with
  | ServerSendConnectionId | ClientRecvConnectionId =>
    exact { (show ConnIdPhase cfg s out ret vs from hP) with outstanding := hst ▸ hO }
  | ServerSendCompletion | ClientRecvCompletion | GracefulShutdown | HardShutdown | RequestFIN =>
    obtain ⟨j, hF⟩ := hP
    exact ⟨j, { hF with outstanding := hst ▸ hO }⟩
  | ErrorIOFailed => exact hP
  | _ => exact absurd rfl hph

/-! ### The connection-id phase -/

theorem ConnIdPhase.phaseInv (h : ConnIdPhase cfg s out ret vs) :
    PhaseInv cfg m s out ret vs s.internal_state := by
  rcases phaseTask_eq_connectionIdTask h.role with hst | hst <;> rw [hst] <;> exact h

theorem ConnIdPhase.start (hI : PhaseInv cfg m s out ret vs .Initialized)
    {st : InternalPatternState} (hst : phaseTask st = connectionIdTask cfg) :
    ConnIdPhase cfg (s.setPended st true) out (ret ++ [connectionIdTask cfg]) vs where
  role := hst
  returned := by rw [hI.1]; rfl
  transferred := hI.2.2.1
  outstanding := .inl hI.2.1
  connId := fun h => absurd h (by simp)
  clean := hI.2.2.2

theorem ConnIdPhase.toMoreIo (h : ConnIdPhase cfg s out ret vs) (hp : s.pended_state = false) :
    PhaseInv cfg m (s.setState .MoreIo) out (ret ++ [.MoreIo]) vs .MoreIo :=
  ⟨⟨1, Nat.one_pos, by rw [h.returned]; rfl⟩, hp, by simp [h.outstanding.eq_nil hp], h.connId hp,
    h.clean⟩

/-- The connection id completes with its 32 bytes, or the run fails. -/
theorem ConnIdPhase.complete (htcp : cfg.Protocol = .TCP) (hm : 0 < m)
    (hmax : s.max_transfer = m) (h : ConnIdPhase cfg s out ret vs) (hit : it ∈ out)
    (hc : s.completed_task cfg it.task bytes = .ok (e, s')) :
    PhaseInv cfg m s' (out.erase it) ret (vs ++ [.completed it.issuedFor bytes e])
      s'.internal_state := by
  obtain ⟨t, hT, rfl, rfl, hp⟩ := h.outstanding.of_mem hit
  have hC : s.inConnectionId = true := by
    rcases phaseTask_eq_connectionIdTask h.role with hst | hst <;> simp [inConnectionId, hst]
  rw [completed_task_connId htcp hC h.transferred (hmax ▸ hm) hT] at hc
  simp only [List.erase_cons_head]
  split_ifs at hc with hb <;> cases hc
  · refine ConnIdPhase.phaseInv
      { h with outstanding := .inl rfl, connId := fun _ => List.mem_append_right _ ?_,
               clean := h.clean.append rfl }
    rw [h.role, hb]; exact List.mem_singleton_self _
  · rw [setState_state]
    exact h.phaseInv.toError (by
      rcases phaseTask_eq_connectionIdTask h.role with hst | hst <;> simp [hst])
      (by simp [Verdict.result])

/-! ### The phases after the data -/

theorem finishTasks_getElem_zero (cfg : PatternSettings) :
    (finishTasks cfg)[0]? =
      some (phaseTask (if cfg.IsListening then .ServerSendCompletion else .ClientRecvCompletion)) := by
  unfold finishTasks; split_ifs <;> rfl

theorem FinishPhase.phaseInv (h : FinishPhase cfg m s out ret vs j) :
    PhaseInv cfg m s out ret vs s.internal_state := by
  rcases phaseTask_mem_finishTasks (List.getElem?_mem h.task) with hst | hst | hst | hst | hst <;>
    rw [hst] <;> exact ⟨j, h⟩

/-- `get_next_task` returns the phase's task and pends. -/
theorem FinishPhase.getNext (h : FinishPhase cfg m s out ret vs j) (hp : s.pended_state = false) :
    FinishPhase cfg m (s.setPended s.internal_state true) out
      (ret ++ [phaseTask s.internal_state]) vs j where
  task := h.task
  returned := by
    obtain ⟨k, hk, rfl⟩ := h.returned
    exact ⟨k, hk, by simp [hp, List.take_succ, h.task]⟩
  confirmed := h.confirmed
  inflight := h.inflight
  outstanding := .inl (h.outstanding.eq_nil hp)
  connId := h.connId
  status := h.status
  clean := h.clean

/-- The pended task completed without error: the next phase. -/
theorem FinishPhase.advance (h : FinishPhase cfg m s out ret vs j) (hp : s.pended_state = true)
    {st : InternalPatternState} (hnext : (finishTasks cfg)[j + 1]? = some (phaseTask st))
    (hw : w.result = .NoError) (hstat : cfg.IsListening = false → j = 0 → StatusDone [w]) :
    FinishPhase cfg m (s.setPended st false) [] ret (vs ++ [w]) (j + 1) where
  task := hnext
  returned := by simpa [hp] using h.returned
  confirmed := h.confirmed
  inflight := h.inflight
  outstanding := .inl rfl
  connId := h.connId.append _
  status := fun _ hl => by
    rcases Nat.eq_zero_or_pos j with rfl | hj
    · exact List.mem_append_right _ (hstat hl rfl)
    · exact (h.status hj hl).append _
  clean := h.clean.append hw

/-- The pended task of the last phase completed with success: `CompletedTransfer`. -/
theorem FinishPhase.success (h : FinishPhase cfg m s out ret vs j) (hp : s.pended_state = true)
    (hlen : (finishTasks cfg).length = j + 1) (hw : SuccessShape cfg w) :
    PhaseInv cfg m (s.setState .CompletedTransfer) [] ret (vs ++ [w]) .CompletedTransfer := by
  obtain ⟨k, hk, hret⟩ := h.returned
  refine ⟨⟨k, hk, ?_⟩, rfl, h.confirmed, h.inflight, h.connId.append _,
    fun hl => (h.status ?_ hl).append _, vs, w, [], rfl, by simpa using h.clean, hw⟩
  · rw [hret, hp, if_pos rfl, ← hlen, List.take_length]; rfl
  · rcases finishTasks_cases cfg with ⟨-, hL⟩ | ⟨hf, -⟩ | ⟨hf, -⟩
    · rw [hL] at hl; cases hl
    all_goals rw [hf] at hlen; simp at hlen; omega

/-- A completion after the data: the next phase, `CompletedTransfer`, or `ErrorIOFailed`. -/
theorem FinishPhase.complete (htcp : cfg.Protocol = .TCP) (hmax : s.max_transfer = m)
    (h : FinishPhase cfg m s out ret vs j) (hit : it ∈ out)
    (hc : s.completed_task cfg it.task bytes = .ok (e, s')) :
    PhaseInv cfg m s' (out.erase it) ret (vs ++ [.completed it.issuedFor bytes e])
      s'.internal_state := by
  obtain ⟨t, hT, rfl, rfl, hp⟩ := h.outstanding.of_mem hit
  have hF := phaseTask_mem_finishTasks (List.getElem?_mem h.task)
  have hE : s.internal_state ≠ .ErrorIOFailed := by rcases hF with h | h | h | h | h <;> simp [h]
  have hC : s.inConnectionId = false := by
    rcases hF with h | h | h | h | h <;> simp [inConnectionId, h]
  have hnc : s.internal_state ≠ .CompletedTransfer := by
    rcases hF with h | h | h | h | h <;> simp [h]
  rw [completed_task_untracked hE hC hT, checkTransfer_tcp_eq htcp
    (by simp [alreadyTransferred, h.confirmed, h.inflight, hmax]), if_pos h.inflight] at hc
  simp only [List.erase_cons_head]
  rcases finish_cases h.task hc with ⟨-, he, rfl⟩ | ⟨rfl, h4, st, rfl, hnext⟩ |
    ⟨rfl, rfl, hlen, hshape⟩
  · rw [setState_state]
    exact h.phaseInv.toError hnc (by exact he)
  · refine (h.advance hp hnext (by rfl) fun hl hj => ?_).phaseInv
    subst hj
    have h0 := finishTasks_getElem_zero cfg
    rw [hl, h.task, if_neg (by simp)] at h0
    have hrc := Option.some.inj h0
    rw [hrc, h4 hrc]; exact List.mem_singleton_self _
  · exact h.success hp hlen hshape

/-! ### The data phase -/

/-- An empty list, when every task is tracked and not empty and they sum to nothing. -/
theorem eq_nil_of_trackedBytes {l : List IssuedTask}
    (hl : ∀ it ∈ l, it.task.track_io = true ∧ 0 < it.task.buffer_length)
    (h0 : trackedBytes l = 0) : l = [] := by
  cases l with
  | nil => rfl
  | cons a l =>
    obtain ⟨hT, hpos⟩ := hl a (List.mem_cons_self a l)
    have : trackedBytes (a :: l) = a.task.buffer_length + trackedBytes l := by
      simp [trackedBytes, IssuedTask.trackedLength, hT]
    omega

/-- A completion in `MoreIo`: stay, fail, or (all data confirmed) the first completion phase. -/
theorem PhaseInv.complete_moreIo (htcp : cfg.Protocol = .TCP) (hmax : s.max_transfer = m)
    (hM : s.internal_state = .MoreIo) (hI : s.inflight_bytes = trackedBytes out)
    (htr : ∀ it ∈ out, it.task.track_io = true → 0 < it.task.buffer_length)
    (hP : PhaseInv cfg m s out ret vs .MoreIo) (hit : it ∈ out)
    (hb : bytes ≤ it.task.buffer_length) (hc : s.completed_task cfg it.task bytes = .ok (e, s')) :
    PhaseInv cfg m s' (out.erase it) ret (vs ++ [.completed it.issuedFor bytes e])
      s'.internal_state := by
  obtain ⟨hret, hp, hall, hcid, hcl⟩ := hP
  have hT := hall it hit
  have hsplit := trackedBytes_erase hit
  have hL : it.trackedLength = it.task.buffer_length := by simp [IssuedTask.trackedLength, hT]
  rw [completed_task_tracked (by simp [hM]) (by simp [inConnectionId, hM]) hT hb (by omega)] at hc
  rcases checkTransfer_moreIo htcp (by exact hM) hc with ⟨rfl, rfl⟩ | ⟨-, he, rfl⟩ | ⟨rfl, hdone, hzero, rfl⟩
  · show PhaseInv cfg m _ _ _ _ s.internal_state
    rw [hM]
    exact ⟨hret, hp, fun it' h' => hall it' (List.mem_of_mem_erase h'), hcid.append _,
      hcl.append rfl⟩
  · rw [setState_state]
    exact (show PhaseInv cfg m s out ret vs .MoreIo from ⟨hret, hp, hall, hcid, hcl⟩).toError
      (by decide) (by exact he)
  · have hnil : out.erase it = [] := eq_nil_of_trackedBytes
      (fun it' h' => ⟨hall it' (List.mem_of_mem_erase h'),
        htr it' (List.mem_of_mem_erase h') (hall it' (List.mem_of_mem_erase h'))⟩)
      (by simp only [] at hzero; omega)
    simp only [alreadyTransferred] at hdone hzero
    rw [hnil]
    obtain ⟨k, hk, rfl⟩ := hret
    exact FinishPhase.phaseInv (j := 0)
      { task := by simpa using finishTasks_getElem_zero cfg
        returned := ⟨k, hk, by simp⟩
        confirmed := by simp only [setPended_confirmed]; omega
        inflight := hzero
        outstanding := .inl rfl
        connId := hcid.append _
        status := fun h => absurd h (by decide)
        clean := hcl.append rfl }

/-- A completion of an outstanding task, in every phase. -/
theorem PhaseInv.complete (htcp : cfg.Protocol = .TCP) (hm : 0 < m) (hmax : s.max_transfer = m)
    (hI : s.internal_state ≠ .ErrorIOFailed → s.inflight_bytes = trackedBytes out)
    (htr : ∀ it ∈ out, it.task.track_io = true → 0 < it.task.buffer_length)
    (hP : PhaseInv cfg m s out ret vs s.internal_state) (hit : it ∈ out)
    (hb : bytes ≤ it.task.buffer_length) (hc : s.completed_task cfg it.task bytes = .ok (e, s')) :
    PhaseInv cfg m s' (out.erase it) ret (vs ++ [.completed it.issuedFor bytes e])
      s'.internal_state := by
  generalize hst : s.internal_state = st at hP hI
  cases st with
  | Initialized => rw [hP.2.1] at hit; cases hit
  | ServerSendConnectionId | ClientRecvConnectionId => exact ConnIdPhase.complete htcp hm hmax hP hit hc
  | MoreIo => exact PhaseInv.complete_moreIo htcp hmax hst (hI (by simp)) htr hP hit hb hc
  | ServerSendCompletion | ClientRecvCompletion | GracefulShutdown | HardShutdown | RequestFIN =>
    obtain ⟨j, hF⟩ := hP
    exact hF.complete htcp hmax hit hc
  | CompletedTransfer => rw [hP.2.1] at hit; cases hit
  | ErrorIOFailed =>
    obtain ⟨rfl, rfl⟩ := completed_task_of_error_state hc hst
    rw [hst]
    exact hP.toError (by decide) (by simp [Verdict.result])

/-- A tracked task is announced only in `MoreIo` or `ErrorIOFailed`: elsewhere `get_next_task`
    has not returned `MoreIo` yet, or nothing remains to transfer. -/
theorem PhaseInv.tracked_state {st : InternalPatternState} (hP : PhaseInv cfg m s out ret vs st)
    (hmax : s.max_transfer = m) (hret : ret.getLast? = some .MoreIo)
    (hlt : s.alreadyTransferred < s.max_transfer) : st = .MoreIo ∨ st = .ErrorIOFailed := by
  cases st with
  | Initialized => rw [hP.1] at hret; cases hret
  | ServerSendConnectionId | ClientRecvConnectionId =>
    rw [(show ConnIdPhase cfg s out ret vs from hP).returned] at hret
    exact absurd (Option.some.inj hret) (connectionIdTask_ne_moreIo cfg)
  | MoreIo => exact .inl rfl
  | ServerSendCompletion | ClientRecvCompletion | GracefulShutdown | HardShutdown | RequestFIN =>
    obtain ⟨j, hF⟩ := hP
    simp only [alreadyTransferred, hF.confirmed, hF.inflight, hmax] at hlt; omega
  | CompletedTransfer =>
    simp only [alreadyTransferred, hP.2.2.1, hP.2.2.2.1, hmax] at hlt; omega
  | ErrorIOFailed => exact .inr rfl

end PhaseLemmas

/-! ## The invariant, call by call -/

namespace StrictInv

open ctsIOPatternState

variable {cfg : PatternSettings} {m : Nat} {r r' : PatternRun}

theorem init (htcp : cfg.Protocol = .TCP) (m : UInt64) :
    StrictInv cfg m.toNat (PatternRun.init cfg m) where
  transfer := TransferInv.init cfg m
  max := rfl
  tracked := fun _ h => absurd h (List.not_mem_nil _)
  lastReturned := .inl rfl
  last := fun _ h => absurd rfl h
  phase := by
    have hI : (ctsIOPatternState.init cfg m).internal_state = .Initialized := by
      simp [ctsIOPatternState.init, htcp]
    show PhaseInv cfg m.toNat (ctsIOPatternState.init cfg m) [] [] []
      (ctsIOPatternState.init cfg m).internal_state
    rw [hI]
    exact ⟨rfl, rfl, rfl, fun _ h => absurd h (List.not_mem_nil _)⟩

/-- `get_next_task` returned `NoIo` and changed nothing. -/
theorem getNext_noIo (h : StrictInv cfg m r) (hg : r.state.get_next_task cfg = (.NoIo, r.state)) :
    StrictInv cfg m (r.getNext cfg) := by
  have hT : TransferInv (r.getNext cfg) := h.transfer.getNext
  simp only [PatternRun.getNext, hg, if_pos] at hT ⊢
  exact ⟨hT, h.max, h.tracked, .inl rfl, fun _ hn => absurd rfl hn, h.phase⟩

/-- `get_next_task` returned a task `p` and the state `s'`. -/
theorem getNext_of (h : StrictInv cfg m r) {p : ctsIOPatternProtocolTask} {s' : ctsIOPatternState}
    (hg : r.state.get_next_task cfg = (p, s')) (hp : p ≠ .NoIo)
    (hlast : p ≠ .MoreIo →
      phaseTask s'.internal_state = p ∧ s'.pended_state = true ∧ r.outstanding = [])
    (hP : PhaseInv cfg m s' r.outstanding (r.returned ++ [p]) r.verdicts s'.internal_state) :
    StrictInv cfg m (r.getNext cfg) := by
  have hT : TransferInv (r.getNext cfg) := h.transfer.getNext
  have hmax : (r.getNext cfg).state.max_transfer = m := by simp [h.max]
  simp only [PatternRun.getNext, hg, if_neg hp] at hT hmax ⊢
  exact ⟨hT, hmax, h.tracked, .inr (by simp), fun _ _ hM => .inr (hlast hM), hP⟩

theorem getNext (h : StrictInv cfg m r) : StrictInv cfg m (r.getNext cfg) := by
  by_cases hp : r.state.pended_state = true
  · exact h.getNext_noIo (get_next_task_of_pended hp)
  rw [Bool.not_eq_true] at hp
  have hP := h.phase
  generalize hst : r.state.internal_state = st at hP
  cases st with
  | Initialized =>
    refine h.getNext_of (get_next_task_initialized hp hst)
      (by unfold connectionIdTask; split <;> decide)
      (fun _ => ⟨by unfold connectionIdTask; split <;> rfl, rfl, hP.2.1⟩) ?_
    simp only [setPended_state]
    split <;> exact ConnIdPhase.start hP (by simp [connectionIdTask, phaseTask, *])
  | ServerSendConnectionId | ClientRecvConnectionId =>
    refine h.getNext_of (get_next_task_connId hp (by simp [inConnectionId, hst])) (by decide)
      (fun h => absurd rfl h) ?_
    rw [setState_state]
    exact (show ConnIdPhase cfg _ _ _ _ from hP).toMoreIo hp
  | MoreIo =>
    by_cases hlt : r.state.alreadyTransferred < r.state.max_transfer
    · refine h.getNext_of (by rw [get_next_task_moreIo hp hst, if_pos hlt]) (by decide)
        (fun h => absurd rfl h) ?_
      rw [hst]
      obtain ⟨⟨k, hk, hret⟩, h2⟩ := hP
      exact ⟨⟨k + 1, k.succ_pos, by simp [hret, List.replicate_succ']⟩, h2⟩
    · exact h.getNext_noIo (by rw [get_next_task_moreIo hp hst, if_neg hlt])
  | ServerSendCompletion | ClientRecvCompletion | GracefulShutdown | HardShutdown | RequestFIN =>
    obtain ⟨j, hF⟩ := hP
    have hmem := List.getElem?_mem hF.task
    exact h.getNext_of (get_next_task_finish hp hmem) (ne_noIo_of_mem_finishTasks hmem)
      (fun _ => ⟨rfl, rfl, hF.outstanding.eq_nil hp⟩) (hF.getNext hp).phaseInv
  | CompletedTransfer => exact h.getNext_noIo (get_next_task_of_completed hst)
  | ErrorIOFailed => exact h.getNext_noIo (get_next_task_of_error hst)

theorem notify {t : ctsIOTask} (h : StrictInv cfg m r) (ht : Admissible true r t) :
    StrictInv cfg m (r.notify t) := by
  refine ⟨h.transfer.notify ht, by simpa using h.max, fun it hit hT => ?_, h.lastReturned,
    fun hi => absurd hi (by simp [PatternRun.notify]), ?_⟩
  · rcases List.mem_append.1 hit with hit | hit
    · exact h.tracked it hit hT
    · rw [List.mem_singleton.1 hit] at hT ⊢; exact (ht.1 hT).2.2 rfl
  · show PhaseInv cfg m (r.state.notify_next_task t) (r.outstanding ++ [⟨r.last, t⟩]) r.returned
      r.verdicts (r.state.notify_next_task t).internal_state
    rw [notify_next_task_state]
    by_cases hT : t.track_io = true
    · obtain ⟨hl, hfit, -⟩ := ht.1 hT
      have hlt := (remainingAdmits_iff h.transfer.1 _).1 hfit
      have hret : r.returned.getLast? = some .MoreIo := by
        rcases h.lastReturned with h' | h' <;> rw [hl] at h'
        · cases h'
        · exact h'
      have hP := h.phase
      rcases hP.tracked_state h.max hret (by have := (ht.1 hT).2.2 rfl; omega) with hst | hst <;>
        rw [hst] at hP ⊢
      · obtain ⟨h1, h2, h3, h4, h5⟩ := hP
        refine ⟨h1, by simpa using h2, fun it hit => ?_, h4, h5⟩
        rcases List.mem_append.1 hit with hit | hit
        · exact h3 it hit
        · rw [List.mem_singleton.1 hit]; exact hT
      · exact hP
    · rw [Bool.not_eq_true] at hT
      rw [notify_next_task_untracked _ hT]
      obtain ⟨hl1, hl2, hiss⟩ := ht.2 rfl hT
      rcases h.last hiss hl1 hl2 with hE | ⟨hph, hp, ho⟩
      · rw [hE]; have hP := h.phase; rw [hE] at hP; exact hP
      · rw [ho, List.nil_append, ← hph]
        exact h.phase.announce hp hT (hph ▸ hl1)

theorem complete (htcp : cfg.Protocol = .TCP) (hm : 0 < m) (h : StrictInv cfg m r)
    {it : IssuedTask} {bytes : Nat} (hit : it ∈ r.outstanding) (hb : bytes ≤ it.task.buffer_length)
    (hc : r.complete cfg it bytes = .ok r') : StrictInv cfg m r' := by
  have hT := h.transfer.complete hit hc
  have hmax := (show PatternStep cfg true r r' from .completedTask r r' it bytes hit hb hc).max_transfer_eq
  obtain ⟨e, s', hct, rfl⟩ := PatternRun.complete_eq hc
  refine ⟨hT, hmax.trans h.max, fun it' h' => h.tracked it' (List.mem_of_mem_erase h'),
    h.lastReturned, fun hi hn hM => ?_,
    h.phase.complete htcp hm h.max h.transfer.2 h.tracked hit hb hct⟩
  rcases h.last hi hn hM with hE | ⟨-, -, ho⟩
  · left; rw [(completed_task_of_error_state hct hE).2]; exact hE
  · rw [ho] at hit; cases hit

theorem updateError (htcp : cfg.Protocol = .TCP) (h : StrictInv cfg m r) (code : Nat) :
    StrictInv cfg m (r.updateError cfg code) := by
  have hT : TransferInv (r.updateError cfg code) := h.transfer.updateError code
  rcases update_error_tcp htcp code (s := r.state) with hu | ⟨hu, hnc⟩ <;>
    simp only [PatternRun.updateError, hu] at hT ⊢
  · exact ⟨h.transfer, h.max, h.tracked, h.lastReturned, h.last, h.phase.noError rfl⟩
  · exact ⟨hT, h.max, h.tracked, h.lastReturned, fun _ _ _ => .inl rfl,
      h.phase.toError hnc (by simp [Verdict.result])⟩

theorem step (htcp : cfg.Protocol = .TCP) (hm : 0 < m) (h : StrictInv cfg m r)
    (hs : PatternStep cfg true r r') : StrictInv cfg m r' := by
  cases hs with
  | getNextTask => exact h.getNext
  | notifyNextTask t ht => exact h.notify ht
  | completedTask _ it _ hit hb hc => exact h.complete htcp hm hit hb hc
  | updateError code => exact h.updateError htcp code

theorem reachable (htcp : cfg.Protocol = .TCP) {m : UInt64} (hm : 0 < m.toNat)
    (h : Reachable cfg true m r) : StrictInv cfg m.toNat r := by
  induction h with
  | init => exact StrictInv.init htcp m
  | step _ hs ih => exact ih.step htcp hm hs

end StrictInv

end CtsTraffic
