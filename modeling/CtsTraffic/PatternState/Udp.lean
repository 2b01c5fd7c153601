import CtsTraffic.PatternState.Run

/-
  The UDP branch of `ctsIOPatternState`. The constructor starts UDP in `MoreIo`, and
  `completed_task` "just tracks bytes": it returns `SuccessfullyCompleted` whenever
  `confirmed_bytes + inflight_bytes = max_transfer` after its byte update, and never moves
  the state. So along every run the state is `MoreIo` until an `update_error` with a
  non-zero code moves it to `ErrorIOFailed`; `is_completed()` holds only after such an
  error; and success is reported with bytes still in flight, and again on later
  completions (`udp_success_with_bytes_in_flight`).
-/

namespace CtsTraffic

namespace ctsIOPatternState

variable {cfg : PatternSettings} {s s' : ctsIOPatternState} {t : ctsIOTask} {bytes : Nat}
  {e : ctsIOPatternProtocolError}

theorem checkTransfer_udp (hu : cfg.Protocol = .UDP) (bytes : Nat) :
    s.checkTransfer cfg bytes =
      .ok (if s.alreadyTransferred = s.max_transfer then .SuccessfullyCompleted else .NoError, s) :=
  by simp [checkTransfer, hu]

/-- UDP `update_error` in `MoreIo`: a non-zero code moves the state to `ErrorIOFailed`,
    a zero code leaves it. -/
theorem update_error_udp (hu : cfg.Protocol = .UDP) (hM : s.internal_state = .MoreIo)
    (code : Nat) :
    (s.update_error cfg code).2 = if code = 0 then s else s.setState .ErrorIOFailed := by
  unfold update_error
  rw [if_neg (by simp [hM]), if_pos hu]
  by_cases hc : code = 0 <;> simp [hc]

theorem afterConnectionId_of_moreIo (hM : s.internal_state = .MoreIo) : s.afterConnectionId = s :=
  by simp [afterConnectionId, inConnectionId, hM]

/-- UDP `completed_task` in `MoreIo`: the state keeps its phase, and the verdict is success
    exactly when the bytes after the update reach `max_transfer`. -/
theorem completed_task_udp (hu : cfg.Protocol = .UDP) (hM : s.internal_state = .MoreIo)
    (h : s.completed_task cfg t bytes = .ok (e, s')) :
    s'.internal_state = .MoreIo ∧ s'.pended_state = s.pended_state ∧
      (e = .SuccessfullyCompleted ↔ s'.alreadyTransferred = s'.max_transfer) := by
  have hC : s.inConnectionId = false := by simp [inConnectionId, hM]
  unfold completed_task at h
  rw [if_neg (by simp [hM]), if_neg (by simp [hC]), afterConnectionId_of_moreIo hM] at h
  split_ifs at h
  · split at h
    · cases h
    · rename_i s₂ h₂
      obtain ⟨-, -, rfl⟩ := completeTracked_ok h₂
      rw [checkTransfer_udp hu] at h
      cases h
      exact ⟨hM, rfl, by split_ifs <;> simp_all⟩
  · rw [checkTransfer_udp hu] at h
    cases h
    exact ⟨hM, rfl, by split_ifs <;> simp_all⟩

end ctsIOPatternState

open ctsIOPatternState

/-- UDP runs stay in `MoreIo` or `ErrorIOFailed`, never pended. -/
def UdpInv (r : PatternRun) : Prop :=
  (r.state.internal_state = .MoreIo ∨ r.state.internal_state = .ErrorIOFailed) ∧
    r.state.pended_state = false

/-- One step of a run in `MoreIo` or `ErrorIOFailed`, never pended: it keeps the phase and
    the pended flag, or it is an `update_error` with a non-zero code from `MoreIo`, which
    moves to `ErrorIOFailed`. -/
theorem UdpInv.step_cases {cfg : PatternSettings} (hu : cfg.Protocol = .UDP) {strict : Bool}
    {r r' : PatternRun} (h : UdpInv r) (hs : PatternStep cfg strict r r') :
    (r'.state.internal_state = r.state.internal_state ∧ r'.state.pended_state = false) ∨
      (r.state.internal_state = .MoreIo ∧ ∃ code, code ≠ 0 ∧ r' = r.updateError cfg code ∧
        r'.state.internal_state = .ErrorIOFailed ∧ r'.state.pended_state = false) := by
  obtain ⟨hst, hp⟩ := h
  cases hs with
  | getNextTask =>
    have : (r.state.get_next_task cfg).2 = r.state := by
      rcases hst with h | h
      · rw [get_next_task_moreIo hp h]
      · rw [get_next_task_of_error h]
    rw [PatternRun.getNext_state, this]
    exact .inl ⟨rfl, hp⟩
  | notifyNextTask t _ => exact .inl ⟨notify_next_task_state .., (notify_next_task_pended ..).trans hp⟩
  | completedTask _ it bytes _ _ hc =>
    obtain ⟨e, hct, -, -⟩ := PatternRun.complete_ok hc
    rcases hst with hM | hE
    · obtain ⟨h1, h2, -⟩ := completed_task_udp hu hM hct
      exact .inl ⟨h1.trans hM.symm, h2.trans hp⟩
    · rw [(completed_task_of_error_state hct hE).2]
      exact .inl ⟨rfl, hp⟩
  | updateError code =>
    simp only [PatternRun.updateError_state]
    rcases hst with hM | hE
    · by_cases hc : code = 0
      · exact .inl (by simp [update_error_udp hu hM, hc, hp])
      · exact .inr ⟨hM, code, hc, rfl, by simp [update_error_udp hu hM, hc, hp]⟩
    · exact .inl (by simp [update_error, hE, hp])

theorem UdpInv.step {cfg : PatternSettings} (hu : cfg.Protocol = .UDP) {strict : Bool}
    {r r' : PatternRun} (h : UdpInv r) (hs : PatternStep cfg strict r r') : UdpInv r' := by
  rcases h.step_cases hu hs with ⟨h1, h2⟩ | ⟨-, -, -, -, h1, h2⟩
  · exact ⟨h1 ▸ h.1, h2⟩
  · exact ⟨.inr h1, h2⟩

theorem UdpInv.reachable {cfg : PatternSettings} (hu : cfg.Protocol = .UDP) {strict : Bool}
    {m : UInt64} {r : PatternRun} (h : Reachable cfg strict m r) : UdpInv r := by
  induction h with
  | init => exact ⟨.inl (by simp [PatternRun.init, ctsIOPatternState.init, hu]), rfl⟩
  | step _ hs ih => exact ih.step hu hs

end CtsTraffic
