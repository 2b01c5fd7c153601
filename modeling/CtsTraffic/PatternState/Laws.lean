import CtsTraffic.PatternState.Protocol

/-
  The TCP protocol laws of `ctsIOPatternState`, read off `StrictInv`.

  * `tcp_get_next_task_order`: the tasks `get_next_task` returns follow the protocol word of
    the role; every protocol task but `MoreIo` comes once, when nothing is outstanding and
    nothing is in flight, and `MoreIo` only while bytes remain.
  * `tcp_success_verdict`: success is returned at most once, only for the FIN of 0 bytes (or
    a client's hard shutdown) after all data, the 32-byte connection id and (for a client)
    the 4-byte status; a success leaves the state in `CompletedTransfer` and a failure in
    `ErrorIOFailed` for the rest of the run.

  Both need the strict contract. With empty tracked tasks allowed, such a task completed
  after the last byte moves the completion phase on by itself: a server skips
  `SendCompletion`, and a client reports success while its FIN is still posted.
-/

namespace CtsTraffic

open ctsIOPatternState

/-! ## Reading the invariant -/

section Reading

variable {cfg : PatternSettings} {m : Nat} {s : ctsIOPatternState} {out : List IssuedTask}
  {ret : List ctsIOPatternProtocolTask} {vs : List Verdict} {w : Verdict}
  {st : InternalPatternState}

theorem SuccessShape.result (h : SuccessShape cfg w) : w.result = .SuccessfullyCompleted := by
  rcases h with rfl | ⟨-, n, rfl⟩ <;> rfl

/-- A verdict list that ends in a success, written with exactly one verdict that is not
    `NoError`: that verdict is the last one. -/
theorem eq_of_append_success {pre post : List Verdict} {v : Verdict}
    (h : vs ++ [w] = pre ++ v :: post) (hcl : VerdictsClean (pre ++ post))
    (hw : w.result ≠ .NoError) : pre = vs ∧ v = w ∧ post = [] := by
  rcases List.eq_nil_or_concat post with rfl | ⟨post', x, rfl⟩
  · have := List.append_inj' h rfl
    exact ⟨this.1.symm, (List.singleton_inj.1 this.2).symm, rfl⟩
  · rw [List.concat_eq_append] at h hcl ⊢
    rw [← List.cons_append, ← List.append_assoc] at h
    have hx := (List.singleton_inj.1 (List.append_inj' h rfl).2).symm
    exact absurd (hcl x (by simp [hx])) (hx ▸ hw)

/-- Outside `ErrorIOFailed`, every verdict is `NoError` or the success of
    `CompletedTransfer`. -/
theorem PhaseInv.verdict_result (hP : PhaseInv cfg m s out ret vs st)
    (hE : st ≠ .ErrorIOFailed) (v : Verdict) (hv : v ∈ vs) :
    v.result = .NoError ∨ (v.result = .SuccessfullyCompleted ∧ st = .CompletedTransfer) := by
  by_cases hC : st = .CompletedTransfer
  · subst hC
    obtain ⟨-, -, -, -, -, -, pre, w, post, rfl, hcl, hw⟩ := hP
    rcases List.mem_append.1 hv with hv | hv
    · exact .inl (hcl v (List.mem_append_left _ hv))
    · rcases List.mem_cons.1 hv with rfl | hv
      · exact .inr ⟨hw.result, rfl⟩
      · exact .inl (hcl v (List.mem_append_right _ hv))
  · exact .inl (hP.clean hC hE v hv)

/-- At most one success among the verdicts. -/
theorem PhaseInv.success_count (hP : PhaseInv cfg m s out ret vs st) :
    (vs.map Verdict.result).count .SuccessfullyCompleted ≤ 1 := by
  have hzero : ∀ l : List Verdict, (∀ v ∈ l, v.result ≠ .SuccessfullyCompleted) →
      (l.map Verdict.result).count .SuccessfullyCompleted = 0 := fun l hl =>
    List.count_eq_zero.2 fun h => by
      obtain ⟨v, hv, he⟩ := List.mem_map.1 h
      exact hl v hv he
  by_cases hC : st = .CompletedTransfer
  · subst hC
    obtain ⟨-, -, -, -, -, -, pre, w, post, rfl, hcl, -⟩ := hP
    have h₁ := hzero pre fun v hv => (hcl.noSuccess v (List.mem_append_left _ hv))
    have h₂ := hzero post fun v hv => (hcl.noSuccess v (List.mem_append_right _ hv))
    simp only [List.map_append, List.map_cons, List.count_append, List.count_cons] at h₁ h₂ ⊢
    split <;> omega
  · rw [hzero vs (hP.noSuccess hC)]; omega

/-- The phase after a success: `CompletedTransfer` with all data confirmed, and the success
    is the first one, with its shape and what came before it. -/
theorem PhaseInv.after_success {s' : ctsIOPatternState}
    (hP : PhaseInv cfg m s' out ret (vs ++ [w]) s'.internal_state)
    (hw : w.result = .SuccessfullyCompleted) :
    s'.internal_state = .CompletedTransfer ∧ s'.confirmed_bytes = m ∧ s'.inflight_bytes = 0 ∧
      ConnIdDone cfg vs ∧ (cfg.IsListening = false → StatusDone vs) ∧ SuccessShape cfg w ∧
      .SuccessfullyCompleted ∉ vs.map Verdict.result := by
  have hC : s'.internal_state = .CompletedTransfer := by
    by_contra hC
    exact hP.noSuccess hC w (List.mem_append_right _ (List.mem_singleton_self w)) hw
  rw [hC] at hP
  obtain ⟨-, -, hc, hi, hcid, hstat, pre, v, post, hvs, hcl, hshape⟩ := hP
  obtain ⟨rfl, rfl, rfl⟩ := eq_of_append_success hvs hcl (by rw [hw]; decide)
  have hback : ∀ x ∈ pre ++ [v], x.result = .NoError → x ∈ pre := fun x hx hxr =>
    (List.mem_append.1 hx).resolve_right fun h =>
      by rw [List.mem_singleton.1 h, hw] at hxr; cases hxr
  refine ⟨hC, hc, hi, hback _ hcid rfl, fun hl => hback _ (hstat hl) rfl, hshape, fun h => ?_⟩
  obtain ⟨x, hx, he⟩ := List.mem_map.1 h
  rw [hcl x (by simpa using hx)] at he
  cases he

end Reading

/-- `get_next_task` from a run that keeps the invariant: a protocol task other than `MoreIo`
    only when nothing is outstanding or in flight, `MoreIo` only while bytes remain. -/
theorem StrictInv.get_next_task {cfg : PatternSettings} {m : Nat} {r : PatternRun}
    (h : StrictInv cfg m r) (hm : 0 < m) :
    ((r.state.get_next_task cfg).1 ≠ .NoIo → (r.state.get_next_task cfg).1 ≠ .MoreIo →
        r.outstanding = [] ∧ r.state.inflight_bytes = 0) ∧
      ((r.state.get_next_task cfg).1 = .MoreIo → r.state.alreadyTransferred < m) := by
  by_cases hp : r.state.pended_state = true
  · rw [get_next_task_of_pended hp]
    exact ⟨fun h => absurd rfl h, fun h => by cases h⟩
  rw [Bool.not_eq_true] at hp
  have hP := h.phase
  have hI := h.transfer.2
  generalize hst : r.state.internal_state = st at hP hI
  cases st with
  | Initialized =>
    rw [get_next_task_initialized hp hst]
    refine ⟨fun _ _ => ⟨hP.2.1, ?_⟩, fun h => absurd h (connectionIdTask_ne_moreIo cfg)⟩
    rw [hI (by decide), hP.2.1]; rfl
  | ServerSendConnectionId | ClientRecvConnectionId =>
    rw [get_next_task_connId hp (by simp [inConnectionId, hst])]
    refine ⟨fun _ h => absurd rfl h, fun _ => ?_⟩
    rw [(show ConnIdPhase cfg _ _ _ _ from hP).transferred]; exact hm
  | MoreIo =>
    rw [get_next_task_moreIo hp hst]
    split_ifs with hlt
    · exact ⟨fun _ h => absurd rfl h, fun _ => h.max ▸ hlt⟩
    · exact ⟨fun h => absurd rfl h, fun h => by cases h⟩
  | ServerSendCompletion | ClientRecvCompletion | GracefulShutdown | HardShutdown | RequestFIN =>
    obtain ⟨j, hF⟩ := hP
    have hmem := List.getElem?_mem hF.task
    rw [get_next_task_finish hp hmem]
    exact ⟨fun _ _ => ⟨hF.outstanding.eq_nil hp, hF.inflight⟩,
      fun h => absurd h (ne_moreIo_of_mem_finishTasks hmem)⟩
  | CompletedTransfer =>
    rw [get_next_task_of_completed hst]
    exact ⟨fun h => absurd rfl h, fun h => by cases h⟩
  | ErrorIOFailed =>
    rw [get_next_task_of_error hst]
    exact ⟨fun h => absurd rfl h, fun h => by cases h⟩

/-! ## The order of the protocol tasks -/

/-- Every TCP run under the strict contract, for every `max_transfer > 0`. The non-`NoIo`
    results of `get_next_task` so far are a prefix of the role's protocol word, so every task
    but `MoreIo` has come at most once; the next call returns such a task only when nothing
    is outstanding and nothing is in flight, and returns `MoreIo` only while
    `confirmed_bytes + inflight_bytes < max_transfer`. -/
theorem tcp_get_next_task_order (cfg : PatternSettings) (htcp : cfg.Protocol = .TCP)
    (m : UInt64) (hm : 0 < m.toNat) (r : PatternRun) (hr : Reachable cfg true m r) :
    (∃ k, 0 < k ∧ r.returned <+: protocolWord cfg k) ∧
      (∀ p, p ≠ .MoreIo → r.returned.count p ≤ 1) ∧
      ((r.state.get_next_task cfg).1 ≠ .NoIo → (r.state.get_next_task cfg).1 ≠ .MoreIo →
        r.outstanding = [] ∧ r.state.inflight_bytes = 0) ∧
      ((r.state.get_next_task cfg).1 = .MoreIo →
        r.state.confirmed_bytes + r.state.inflight_bytes < m.toNat) := by
  have h := StrictInv.reachable htcp hm hr
  obtain ⟨k, hk, hpre⟩ := h.phase.returned_prefix
  exact ⟨⟨k, hk, hpre⟩, fun p hp => (hpre.sublist.count_le p).trans (protocolWord_count_le cfg k hp),
    (h.get_next_task hm).1, (h.get_next_task hm).2⟩

/-- The settings of a TCP server. -/
def tcpServer : PatternSettings := ⟨.TCP, true, .GracefulShutdown⟩

/-- The settings of a TCP client that shuts down gracefully. -/
def tcpClient : PatternSettings := ⟨.TCP, false, .GracefulShutdown⟩

/-- An untracked task, as a pattern posts for a protocol step. -/
def protocolIo (a : IOTaskAction) (len : Nat) : ctsIOTask :=
  ⟨a, 0, 0, len, RIO_INVALID_BUFFERID, .Static, false, 0⟩

/-- A tracked send of `len` bytes at `off`. -/
def dataSend (off len : Nat) : ctsIOTask :=
  ⟨.Send, 0, off, len, RIO_INVALID_BUFFERID, .Static, true, 0⟩

/-- A whole server connection for `max_transfer = 1` under the strict contract. -/
def serverConnection : List PatternCall :=
  [.getNextTask, .notifyNextTask (protocolIo .Send 32),
   .completedTask ⟨.SendConnectionId, protocolIo .Send 32⟩ 32,
   .getNextTask, .notifyNextTask (dataSend 0 1), .completedTask ⟨.MoreIo, dataSend 0 1⟩ 1,
   .getNextTask, .notifyNextTask (protocolIo .Send 4),
   .completedTask ⟨.SendCompletion, protocolIo .Send 4⟩ 4,
   .getNextTask, .notifyNextTask (protocolIo .Recv 1),
   .completedTask ⟨.RequestFIN, protocolIo .Recv 1⟩ 0]

theorem serverConnection_run :
    ∃ r, Reachable tcpServer true 1 r ∧ r.returned = protocolWord tcpServer 1 ∧
      .SuccessfullyCompleted ∈ r.verdicts.map Verdict.result := by
  have h : (PatternRun.init tcpServer 1).replay tcpServer true serverConnection = some _ := rfl
  exact ⟨_, PatternRun.replay_reachable .init h, by decide, by decide⟩

theorem tcp_get_next_task_order_serverConnection :
    ∃ r, Reachable tcpServer true 1 r ∧ ∃ k, 0 < k ∧ r.returned <+: protocolWord tcpServer k := by
  obtain ⟨r, hr, -⟩ := serverConnection_run
  exact ⟨r, hr, (tcp_get_next_task_order tcpServer rfl 1 (by decide) r hr).1⟩

/-- A server with an empty tracked task in flight when its last byte completes: completing
    the empty task moves `ServerSendCompletion` on to `RequestFIN`, so `get_next_task` never
    returns `SendCompletion`. -/
def serverEmptyTask : List PatternCall :=
  [.getNextTask, .notifyNextTask (protocolIo .Send 32),
   .completedTask ⟨.SendConnectionId, protocolIo .Send 32⟩ 32,
   .getNextTask, .notifyNextTask (dataSend 0 0), .getNextTask, .notifyNextTask (dataSend 0 1),
   .completedTask ⟨.MoreIo, dataSend 0 1⟩ 1, .completedTask ⟨.MoreIo, dataSend 0 0⟩ 0,
   .getNextTask]

/-- A server that announces an untracked task after a `MoreIo`: completing it once the last
    byte is in moves `ServerSendCompletion` on to `RequestFIN` the same way, so
    `get_next_task` returns `RequestFIN` straight after the one `MoreIo`. -/
def serverUntrackedTask : List PatternCall :=
  [.getNextTask, .notifyNextTask (protocolIo .Send 32),
   .completedTask ⟨.SendConnectionId, protocolIo .Send 32⟩ 32,
   .getNextTask, .notifyNextTask (dataSend 0 1), .notifyNextTask (protocolIo .Send 4),
   .completedTask ⟨.MoreIo, dataSend 0 1⟩ 1, .completedTask ⟨.MoreIo, protocolIo .Send 4⟩ 4,
   .getNextTask]

theorem tcp_server_skips_send_completion :
    ∃ r₁ r₂, Reachable tcpServer false 1 r₁ ∧ Reachable tcpServer false 1 r₂ ∧
      r₁.returned = [.SendConnectionId, .MoreIo, .MoreIo, .RequestFIN] ∧
      r₂.returned = [.SendConnectionId, .MoreIo, .RequestFIN] ∧
      ∀ k, ¬ r₁.returned <+: protocolWord tcpServer k ∧ ¬ r₂.returned <+: protocolWord tcpServer k := by
  obtain ⟨r₁, hr₁, h₁⟩ := PatternRun.exists_reachable_of_replay tcpServer false 1 serverEmptyTask
    PatternRun.returned [.SendConnectionId, .MoreIo, .MoreIo, .RequestFIN] (by decide)
  obtain ⟨r₂, hr₂, h₂⟩ := PatternRun.exists_reachable_of_replay tcpServer false 1
    serverUntrackedTask PatternRun.returned [.SendConnectionId, .MoreIo, .RequestFIN] (by decide)
  refine ⟨r₁, r₂, hr₁, hr₂, h₁, h₂, fun k => ?_⟩
  rw [h₁, h₂]
  rcases k with _ | _ | _ | k <;>
    simp [protocolWord, tcpServer, connectionIdTask, finishTasks, List.replicate_succ]

/-! ## The verdicts -/

/-- Every TCP run under the strict contract, for every `max_transfer > 0`. A completion of an
    outstanding task that returns `SuccessfullyCompleted` leaves `CompletedTransfer` with
    `confirmed_bytes = max_transfer` and nothing in flight; by then the connection id was
    completed with its 32 bytes and (for a client) the status with its 4 bytes; the completed
    task is the FIN and reported 0 bytes, or is a client's hard shutdown; and no success came
    before. At most one verdict is a success; once one is, the state is `CompletedTransfer`,
    and once a verdict is `TooFewBytes`, `TooManyBytes` or `ErrorIOFailed`, the state is
    `ErrorIOFailed`, in every later run. -/
theorem tcp_success_verdict (cfg : PatternSettings) (htcp : cfg.Protocol = .TCP) (m : UInt64)
    (hm : 0 < m.toNat) (r : PatternRun) (hr : Reachable cfg true m r) :
    (∀ it ∈ r.outstanding, ∀ bytes ≤ it.task.buffer_length, ∀ s',
      r.state.completed_task cfg it.task bytes = .ok (.SuccessfullyCompleted, s') →
        s'.internal_state = .CompletedTransfer ∧ s'.confirmed_bytes = m.toNat ∧
        s'.inflight_bytes = 0 ∧ ConnIdDone cfg r.verdicts ∧
        (cfg.IsListening = false → StatusDone r.verdicts) ∧
        SuccessShape cfg (.completed it.issuedFor bytes .SuccessfullyCompleted) ∧
        .SuccessfullyCompleted ∉ r.verdicts.map Verdict.result) ∧
      (r.verdicts.map Verdict.result).count .SuccessfullyCompleted ≤ 1 ∧
      (.SuccessfullyCompleted ∈ r.verdicts.map Verdict.result →
        r.state.internal_state = .CompletedTransfer) ∧
      (∀ e ∈ r.verdicts.map Verdict.result,
        e = .TooFewBytes ∨ e = .TooManyBytes ∨ e = .ErrorIOFailed →
          r.state.internal_state = .ErrorIOFailed) := by
  have h := StrictInv.reachable htcp hm hr
  refine ⟨fun it hit bytes hb s' hc => ?_, h.phase.success_count, fun hs => ?_,
    fun e he hfail => ?_⟩
  · have hc' : r.complete cfg it bytes = .ok
        { r with state := s', outstanding := r.outstanding.erase it,
                 verdicts := r.verdicts ++ [.completed it.issuedFor bytes .SuccessfullyCompleted] } := by
      simp [PatternRun.complete, hc]
    exact (StrictInv.reachable htcp hm (hr.step (.completedTask _ _ it bytes hit hb hc'))).phase
      |>.after_success rfl
  · obtain ⟨v, hv, he⟩ := List.mem_map.1 hs
    by_contra hC
    exact h.phase.noSuccess hC v hv he
  · obtain ⟨v, hv, rfl⟩ := List.mem_map.1 he
    by_contra hE
    rcases h.phase.verdict_result hE v hv with h' | ⟨h', -⟩ <;>
      rcases hfail with h'' | h'' | h'' <;> rw [h''] at h' <;> cases h'

theorem tcp_success_verdict_serverConnection :
    ∃ r, Reachable tcpServer true 1 r ∧ r.state.internal_state = .CompletedTransfer := by
  obtain ⟨r, hr, -, hs⟩ := serverConnection_run
  exact ⟨r, hr, (tcp_success_verdict tcpServer rfl 1 (by decide) r hr).2.2.1 hs⟩

/-- A client with an empty tracked task in flight when its last byte completes: after the
    graceful shutdown it posts the FIN, and completing the empty task instead returns
    `SuccessfullyCompleted`; the FIN is still outstanding, and its completion fails fast. -/
def clientEmptyTask : List PatternCall :=
  [.getNextTask, .notifyNextTask (protocolIo .Recv 32),
   .completedTask ⟨.RecvConnectionId, protocolIo .Recv 32⟩ 32,
   .getNextTask, .notifyNextTask (dataSend 0 0), .getNextTask, .notifyNextTask (dataSend 0 1),
   .completedTask ⟨.MoreIo, dataSend 0 1⟩ 1,
   .getNextTask, .notifyNextTask (protocolIo .Recv 4),
   .completedTask ⟨.RecvCompletion, protocolIo .Recv 4⟩ 4,
   .getNextTask, .notifyNextTask (protocolIo .GracefulShutdown 0),
   .completedTask ⟨.GracefulShutdown, protocolIo .GracefulShutdown 0⟩ 0,
   .getNextTask, .notifyNextTask (protocolIo .Recv 1),
   .completedTask ⟨.MoreIo, dataSend 0 0⟩ 0]

theorem tcp_client_success_before_fin :
    ∃ r, Reachable tcpClient false 1 r ∧
      Verdict.completed .MoreIo 0 .SuccessfullyCompleted ∈ r.verdicts ∧
      ⟨.RequestFIN, protocolIo .Recv 1⟩ ∈ r.outstanding ∧
      r.complete tcpClient ⟨.RequestFIN, protocolIo .Recv 1⟩ 0 = .error .invalidInternalStatus := by
  have h : (PatternRun.init tcpClient 1).replay tcpClient false clientEmptyTask = some _ := rfl
  exact ⟨_, PatternRun.replay_reachable .init h, by decide, by decide, rfl⟩

end CtsTraffic
