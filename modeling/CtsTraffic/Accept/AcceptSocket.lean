import CtsTraffic.Accept.AcceptEx

/-
  An accept slot of `ctsAcceptEx.cpp`: `details::ctsAcceptSocketInfo`, its
  `InitatiateAcceptEx`, which posts an `AcceptEx` on the listener, and `GetAcceptedSocket`,
  which the completion callback runs first. An `AcceptEx` completes in one of two ways: through
  the listener's IOCP, which calls `ctsAcceptExIoCompletionCallback` later; or inline, when it
  returns `TRUE` and `HANDLE_INLINE_IOCP` is set, and `InitatiateAcceptEx` calls the callback
  itself with a null `OVERLAPPED*`.

  Model. What the world answers is an argument: whether the listener still exists, the socket
  `CreateSocket` made, the results of the option setters, and what `AcceptEx` and
  `WSAGetOverlappedResult` return. `setsockopt(SO_UPDATE_ACCEPT_CONTEXT)` fails on
  `INVALID_SOCKET` (Winsock's `WSAENOTSOCK`) and succeeds on a socket an `AcceptEx` accepted
  ("this should never fail"). The callback's engine work is `AcceptEngine`'s; its final
  re-arm (`InitatiateAcceptEx` again) is the slot's next call and is not part of one call here.

  Proved (`inline_acceptEx_fails_fast`): on the inline path the callback runs before
  `InitatiateAcceptEx` stores the new socket in `accept_socket`, so `GetAcceptedSocket` calls
  `setsockopt` on `INVALID_SOCKET` and reaches the `SO_UPDATE_ACCEPT_CONTEXT` `FAIL_FAST`. On
  the same slot the IOCP path hands the new socket, with `gle` 0, to the engine.
-/

namespace CtsTraffic

/-- `SOCKET_ERROR`. -/
def SOCKET_ERROR : Int := -1

/-- What makes an accept slot stop: a `FAIL_FAST`, or an exception thrown out of it. -/
inductive AcceptSocketFailure
  /-- "setsockopt(SO_UPDATE_ACCEPT_CONTEXT) failed [%d], accept socket [%p], listen socket
      [%p]" -/
  | updateAcceptContext
  /-- `THROW_WIN32_MSG(error, "SetPreBindOptions (ctsAcceptEx)")` -/
  | preBindOptions (error : Nat)
  /-- `THROW_WIN32_MSG(error, "SetPreConnectOptions (ctsAcceptEx)")` -/
  | preConnectOptions (error : Nat)
  deriving DecidableEq, Repr

/-- `details::ctsAcceptSocketInfo`: its socket (`none` is `INVALID_SOCKET`) and whether its
    `OVERLAPPED*` (`pov`) is non-null. The address buffer is not modelled. -/
structure ctsAcceptSocketInfo where
  accept_socket : Option Nat
  pov : Bool
  deriving DecidableEq, Repr

/-- What the world answers one `InitatiateAcceptEx`: whether `listening_socket_info.lock()`
    succeeds, the socket `ctsConfig::CreateSocket` returns, the results of
    `ctsConfig::SetPreBindOptions` and `SetPreConnectOptions`, `AcceptEx`'s result (`none`
    when it returns `TRUE`, else `WSAGetLastError()`), and the `HANDLE_INLINE_IOCP` option. -/
structure AcceptExEnv where
  listener_alive : Bool
  new_socket : Nat
  pre_bind_error : Nat
  pre_connect_error : Nat
  accept_ex : Option Nat
  HANDLE_INLINE_IOCP : Bool
  deriving DecidableEq, Repr

/-- What the world answers one `GetAcceptedSocket`: whether `listening_socket_info.lock()`
    succeeds, and `WSAGetOverlappedResult`'s result (`none` when it succeeds, else
    `WSAGetLastError()`). -/
structure CompletionEnv where
  listener_alive : Bool
  overlapped_error : Option Nat
  deriving DecidableEq, Repr

namespace ctsAcceptSocketInfo

/-- `setsockopt(accept_socket, SOL_SOCKET, SO_UPDATE_ACCEPT_CONTEXT, ...)`. -/
def setsockopt_SO_UPDATE_ACCEPT_CONTEXT (accept_socket : Option Nat) : Int :=
  if accept_socket.isSome then 0 else SOCKET_ERROR

/-- `GetAcceptedSocket`: the result of the slot's `AcceptEx`, which hands over its socket. -/
def GetAcceptedSocket (slot : ctsAcceptSocketInfo) (env : CompletionEnv) :
    Except AcceptSocketFailure (ctsAcceptedConnection × ctsAcceptSocketInfo) :=
  if !env.listener_alive then .ok (⟨none, WSAECONNABORTED⟩, { slot with accept_socket := none })
  else
    -- if the OVERLAPPED* is null, it means it completed inline
    match (if slot.pov then env.overlapped_error else none) with
    | some gle => .ok (⟨none, gle⟩, { slot with accept_socket := none })
    | none =>
      if setsockopt_SO_UPDATE_ACCEPT_CONTEXT slot.accept_socket ≠ 0 then
        .error .updateAcceptContext
      else .ok (⟨slot.accept_socket, 0⟩, { slot with accept_socket := none })

/-- `ctsAcceptExIoCompletionCallback` for this slot: `GetAcceptedSocket`, then the engine's
    part under `s_pimpl.cs`. -/
def ctsAcceptExIoCompletionCallback (slot : ctsAcceptSocketInfo) (e : AcceptEngine)
    (env : CompletionEnv) : Except AcceptSocketFailure (ctsAcceptSocketInfo × AcceptEngine) :=
  match slot.GetAcceptedSocket env with
  | .error f => .error f
  | .ok (accepted_socket, slot) => .ok (slot, e.ctsAcceptExIoCompletionCallback accepted_socket)

/-- `InitatiateAcceptEx`: post an `AcceptEx` with a new socket, unless the listener is gone or
    the slot already has a socket. -/
def InitatiateAcceptEx (slot : ctsAcceptSocketInfo) (e : AcceptEngine) (env : AcceptExEnv) :
    Except AcceptSocketFailure (ctsAcceptSocketInfo × AcceptEngine) :=
  if !env.listener_alive then .ok (slot, e)
  else if slot.accept_socket.isSome then .ok (slot, e)
  else if env.pre_bind_error ≠ 0 then .error (.preBindOptions env.pre_bind_error)
  else if env.pre_connect_error ≠ 0 then .error (.preConnectOptions env.pre_connect_error)
  else
    let slot := { slot with pov := true }
    match env.accept_ex with
    | some error =>
      if WSA_IO_PENDING ≠ error then
        -- a real failure - must abort the IO
        .ok ({ slot with pov := false }, e)
      else .ok ({ slot with accept_socket := some env.new_socket }, e)
    | none =>
      if env.HANDLE_INLINE_IOCP then
        -- AcceptEx completed inline - directly invoke the callback to handle the completion
        match { slot with pov := false }.ctsAcceptExIoCompletionCallback e ⟨true, none⟩ with
        | .error f => .error f
        | .ok (slot, e) => .ok ({ slot with accept_socket := some env.new_socket }, e)
      else .ok ({ slot with accept_socket := some env.new_socket }, e)

/-- `GetAcceptedSocket` never reaches its `FAIL_FAST` on a slot that holds a socket, and always
    does on a slot without one whose `OVERLAPPED*` is null. -/
theorem GetAcceptedSocket_eq_error_iff (slot : ctsAcceptSocketInfo) (env : CompletionEnv) :
    slot.GetAcceptedSocket env = .error .updateAcceptContext ↔
      env.listener_alive = true ∧ (slot.pov = true → env.overlapped_error = none) ∧
        slot.accept_socket = none := by
  unfold GetAcceptedSocket setsockopt_SO_UPDATE_ACCEPT_CONTEXT
  cases env.listener_alive <;> cases slot.pov <;> cases env.overlapped_error <;>
    cases slot.accept_socket <;> simp [SOCKET_ERROR]

/-- On a free slot, with the listener there and its options set, the inline path reaches the
    `SO_UPDATE_ACCEPT_CONTEXT` `FAIL_FAST`: the callback runs before the new socket is stored.
    With `AcceptEx` pending instead, the slot stores the new socket and its IOCP completion
    hands that socket, with `gle` 0, to the engine. -/
theorem inline_acceptEx_fails_fast (slot : ctsAcceptSocketInfo) (e : AcceptEngine)
    (env : AcceptExEnv) (hl : env.listener_alive = true) (hs : slot.accept_socket = none)
    (hb : env.pre_bind_error = 0) (hc : env.pre_connect_error = 0)
    (hi : env.HANDLE_INLINE_IOCP = true) :
    slot.InitatiateAcceptEx e { env with accept_ex := none } = .error .updateAcceptContext ∧
      ∃ slot', slot.InitatiateAcceptEx e { env with accept_ex := some WSA_IO_PENDING } =
          .ok (slot', e) ∧ slot'.accept_socket = some env.new_socket ∧
        slot'.ctsAcceptExIoCompletionCallback e ⟨true, none⟩ =
          .ok ({ slot' with accept_socket := none }, e.ctsAcceptExIoCompletionCallback
            (AcceptResult.accepted env.new_socket).connection) := by
  have hinline : (⟨none, false⟩ : ctsAcceptSocketInfo).GetAcceptedSocket ⟨true, none⟩ =
      .error .updateAcceptContext := (GetAcceptedSocket_eq_error_iff _ _).2 ⟨rfl, by simp, rfl⟩
  refine ⟨?_, { slot with pov := true, accept_socket := some env.new_socket }, ?_, rfl, ?_⟩
  · simp [InitatiateAcceptEx, ctsAcceptExIoCompletionCallback, hl, hs, hb, hc, hi, hinline]
  · simp [InitatiateAcceptEx, hl, hs, hb, hc]
  · simp [ctsAcceptExIoCompletionCallback, GetAcceptedSocket, setsockopt_SO_UPDATE_ACCEPT_CONTEXT,
      AcceptResult.connection]

/-- A listener that is there, a new socket 7, options set, an `AcceptEx` that returns `TRUE`,
    and `HANDLE_INLINE_IOCP`. -/
def inlineEnv : AcceptExEnv := ⟨true, 7, 0, 0, none, true⟩

theorem inline_acceptEx_fails_fast_inlineEnv :
    inlineEnv.listener_alive = true ∧ (⟨none, false⟩ : ctsAcceptSocketInfo).accept_socket = none ∧
      inlineEnv.pre_bind_error = 0 ∧ inlineEnv.pre_connect_error = 0 ∧
      inlineEnv.HANDLE_INLINE_IOCP = true ∧
      (⟨none, false⟩ : ctsAcceptSocketInfo).InitatiateAcceptEx AcceptEngine.init inlineEnv =
        .error .updateAcceptContext :=
  ⟨rfl, rfl, rfl, rfl, rfl,
    (inline_acceptEx_fails_fast ⟨none, false⟩ AcceptEngine.init inlineEnv rfl rfl rfl rfl rfl).1⟩

end ctsAcceptSocketInfo

end CtsTraffic
