import CtsTraffic.Basic

/-
  The accept engine of `ctsAcceptEx.cpp`. Consumers (server sockets in their accept step)
  call `ctsAcceptEx`; every pre-posted `AcceptEx` ends in `ctsAcceptExIoCompletionCallback`
  with the connection `GetAcceptedSocket` read. Both work on the two queues of `s_pimpl`
  under `s_pimpl.cs`, so each call is one step: a consumer takes the oldest queued connection
  or queues its request; a completion serves the oldest request or queues its connection.
  The destructor `~ctsAcceptExImpl` fails the waiting consumers with `WSAECONNABORTED`.

  Model. A consumer's weak reference is its number: consumer `c` makes the `c`-th call of
  `ctsAcceptEx`, and `expire c` destroys its socket, after which the reference no longer
  locks. An event carries what the world decides: the outcome of `Start` if the init runs
  (`none`, or the code `PrintThrownException` returned), whether the request queue's `push`
  throws, and the result of an accept. Re-arming an `AcceptEx` is the slot's business
  (`AcceptSocket.lean`). The engine also records the run: every accept result, the
  consumers that reached the queues, which consumer got which result, and the `set_socket`
  and `complete_state` calls.

  Proved over every run (`acceptEngine_laws`): the queues are never both non-empty; the
  `k`-th consumer to reach the queues gets the `k`-th accept result; after the destructor no
  consumer has had `complete_state` twice, every consumer whose socket still exists has had
  it once, and each call is explained: 0 after `set_socket` with the accepted socket, the
  accept's error, `WSAENOBUFS` when the request could not be queued, `WSAECONNABORTED` from
  the destructor, or the error of a failed `Start`.
-/

namespace CtsTraffic

/-- `WSAEACCES`. -/
def WSAEACCES : Nat := 10013

/-- `details::ctsAcceptedConnection`: the accepted socket (`none` is `INVALID_SOCKET`) and the
    accept's error. The addresses are not modelled. -/
structure ctsAcceptedConnection where
  accept_socket : Option Nat
  gle : Nat
  deriving DecidableEq, Repr

/-- A connection as `GetAcceptedSocket` returns one: a socket exactly when there is no error. -/
def ctsAcceptedConnection.WellFormed (conn : ctsAcceptedConnection) : Prop :=
  conn.accept_socket.isSome = true ↔ conn.gle = 0

/-- The result of an accept: the accepted socket, or a non-zero error. -/
inductive AcceptResult
  | accepted (socket : Nat)
  | failed (gle : Nat) (h : gle ≠ 0)

/-- The connection `GetAcceptedSocket` returns for a result. -/
def AcceptResult.connection : AcceptResult → ctsAcceptedConnection
  | .accepted s => ⟨some s, 0⟩
  | .failed gle _ => ⟨none, gle⟩

theorem AcceptResult.connection_wellFormed (r : AcceptResult) : r.connection.WellFormed := by
  cases r <;> simp [AcceptResult.connection, ctsAcceptedConnection.WellFormed, *]

/-- The engine: the fields of `s_pimpl` (`details::ctsAcceptExImpl`) shared under
    `s_pimpl.cs`, whether `s_ctsAcceptExImplInitOnce` has completed, the expired consumers,
    and the record of the run. Each queued connection carries the number of the completion
    that queued it. -/
structure AcceptEngine where
  pended_accept_requests : List Nat
  accepted_connections : List (Nat × ctsAcceptedConnection)
  shutting_down : Bool
  initialized : Bool
  expired : List Nat
  /-- how many consumers called `ctsAcceptEx` -/
  consumers : Nat
  /-- the connection of every completion, in order -/
  results : List ctsAcceptedConnection
  /-- the consumers that reached the queues, in order -/
  admitted : List Nat
  /-- which consumer got which completion's connection -/
  matched : List (Nat × Nat)
  /-- the `set_socket` calls: consumer and socket -/
  sockets : List (Nat × Option Nat)
  /-- the `complete_state` calls: consumer and code -/
  completed : List (Nat × Nat)

namespace AcceptEngine

/-- The engine before the first consumer: no init, empty queues. -/
def init : AcceptEngine := ⟨[], [], false, false, [], 0, [], [], [], [], []⟩

/-- `shared_socket->complete_state(code)`. -/
@[simps]
def complete_state (e : AcceptEngine) (c code : Nat) : AcceptEngine :=
  { e with completed := e.completed ++ [(c, code)] }

/-- `shared_socket->set_socket(socket)`. -/
@[simps]
def set_socket (e : AcceptEngine) (c : Nat) (s : Option Nat) : AcceptEngine :=
  { e with sockets := e.sockets ++ [(c, s)] }

/-- `ctsAcceptEx` for the next consumer: `InitOnceExecuteOnce` runs `Start` until it succeeds
    once; then, under `s_pimpl.cs`, the consumer takes the oldest queued connection or queues
    its weak reference (`push` may throw: `WSAENOBUFS`); outside the lock it completes with
    the error, or with the accepted socket. -/
def ctsAcceptEx (e : AcceptEngine) (start : Option Nat) (pushThrows : Bool) : AcceptEngine :=
  let c := e.consumers
  let e := { e with consumers := c + 1 }
  match (if e.initialized then none else start) with
  | some error => if c ∈ e.expired then e else e.complete_state c error
  | none =>
    let e := { e with initialized := true }
    if c ∈ e.expired then e
    else match e.accepted_connections with
      | [] =>
        if pushThrows then e.complete_state c WSAENOBUFS
        else { e with pended_accept_requests := e.pended_accept_requests ++ [c],
                      admitted := e.admitted ++ [c] }
      | (k, accepted_connection) :: rest =>
        let e := { e with accepted_connections := rest, admitted := e.admitted ++ [c],
                          matched := e.matched ++ [(c, k)] }
        if accepted_connection.gle ≠ 0 then e.complete_state c accepted_connection.gle
        else if accepted_connection.accept_socket.isSome then
          (e.set_socket c accepted_connection.accept_socket).complete_state c 0
        else e

/-- `ctsAcceptExIoCompletionCallback` after `GetAcceptedSocket`: under `s_pimpl.cs`, nothing
    once shutting down; else the oldest request is served (if its consumer is still there)
    or the connection is queued. -/
def ctsAcceptExIoCompletionCallback (e : AcceptEngine) (accepted_socket : ctsAcceptedConnection) :
    AcceptEngine :=
  let k := e.results.length
  let e := { e with results := e.results ++ [accepted_socket] }
  if e.shutting_down then e
  else match e.pended_accept_requests with
    | c :: rest =>
      let e := { e with pended_accept_requests := rest, matched := e.matched ++ [(c, k)] }
      if c ∈ e.expired then e
      else if accepted_socket.gle = 0 then
        (e.set_socket c accepted_socket.accept_socket).complete_state c 0
      else e.complete_state c accepted_socket.gle
    | [] => { e with accepted_connections := e.accepted_connections ++ [(k, accepted_socket)] }

/-- The loop of `~ctsAcceptExImpl` over the waiting requests. -/
def abortRequests (e : AcceptEngine) : List Nat → AcceptEngine
  | [] => e
  | c :: cs =>
    abortRequests (if c ∈ e.expired then e else e.complete_state c WSAECONNABORTED) cs

/-- `~ctsAcceptExImpl`: under the lock, shut down, fail every waiting consumer with
    `WSAECONNABORTED`, and drop the queued connections. -/
def destructor (e : AcceptEngine) : AcceptEngine :=
  let e' := abortRequests { e with shutting_down := true } e.pended_accept_requests
  { e' with pended_accept_requests := [], accepted_connections := [] }

end AcceptEngine

/-- What happens to the engine before its destructor. -/
inductive AcceptEvent
  /-- a consumer calls `ctsAcceptEx` -/
  | request (start : Option Nat) (pushThrows : Bool)
  /-- an `AcceptEx` completes -/
  | completion (r : AcceptResult)
  /-- consumer `c`'s socket is destroyed -/
  | expire (c : Nat)

namespace AcceptEngine

/-- One event, atomic under `s_pimpl.cs`. -/
def step (e : AcceptEngine) : AcceptEvent → AcceptEngine
  | .request start pushThrows => e.ctsAcceptEx start pushThrows
  | .completion r => e.ctsAcceptExIoCompletionCallback r.connection
  | .expire c => { e with expired := e.expired ++ [c] }

/-- A run of events. -/
def run (e : AcceptEngine) (evs : List AcceptEvent) : AcceptEngine := evs.foldl step e

/-- How many times consumer `c` had `complete_state`. -/
def completions (e : AcceptEngine) (c : Nat) : Nat := (e.completed.filter fun p => p.1 = c).length

end AcceptEngine

/-- The `ctsAcceptEx` calls of a run, in order: consumer `c` makes the `c`-th. -/
def requestsOf : List AcceptEvent → List (Option Nat × Bool)
  | [] => []
  | .request start pushThrows :: evs => (start, pushThrows) :: requestsOf evs
  | _ :: evs => requestsOf evs

/-! ## Zipping with positions -/

section Zip

variable {α : Type} (l : List α) (x : α) {n : Nat}

theorem zip_range_succ_of_lt (h : n < l.length) :
    l.zip (List.range (n + 1)) = l.zip (List.range n) ++ [(l[n], n)] := by
  refine List.ext_getElem (by
      simp only [List.length_zip, List.length_range, List.length_append, List.length_singleton]
      omega) fun i h1 _ => ?_
  simp only [List.length_zip, List.length_range] at h1
  rcases Nat.lt_or_ge i n with hi | hi
  · rw [List.getElem_append_left (by simp only [List.length_zip, List.length_range]; omega)]
    simp only [List.getElem_zip, List.getElem_range]
  · obtain rfl : i = n := by omega
    rw [List.getElem_append_right (by simp only [List.length_zip, List.length_range]; omega)]
    simp only [List.getElem_zip, List.getElem_range, List.length_zip, List.length_range,
      List.getElem_singleton]

theorem zip_range_succ_of_le (h : l.length ≤ n) :
    l.zip (List.range (n + 1)) = l.zip (List.range n) :=
  List.ext_getElem (by simp only [List.length_zip, List.length_range]; omega) fun i _ _ => by
    simp only [List.getElem_zip, List.getElem_range]

theorem append_zip_range_of_lt (h : l.length < n) :
    (l ++ [x]).zip (List.range n) = l.zip (List.range n) ++ [(x, l.length)] := by
  refine List.ext_getElem (by
      simp only [List.length_zip, List.length_append, List.length_singleton, List.length_range]
      omega) fun i h1 _ => ?_
  simp only [List.length_zip, List.length_range, List.length_append, List.length_singleton] at h1
  rcases Nat.lt_or_ge i l.length with hi | hi
  · rw [List.getElem_append_left (by simp only [List.length_zip, List.length_range]; omega)]
    simp only [List.getElem_zip, List.getElem_append_left hi, List.getElem_range]
  · obtain rfl : i = l.length := by omega
    rw [List.getElem_append_right (by simp only [List.length_zip, List.length_range]; omega)]
    simp only [List.getElem_zip, List.getElem_concat_length, List.getElem_range, List.length_zip,
      List.length_range, List.getElem_singleton]

theorem append_zip_range_of_le (h : n ≤ l.length) :
    (l ++ [x]).zip (List.range n) = l.zip (List.range n) :=
  List.ext_getElem (by
      simp only [List.length_zip, List.length_append, List.length_singleton, List.length_range]
      omega) fun i h1 _ => by
    simp only [List.length_zip, List.length_range, List.length_append] at h1
    simp only [List.getElem_zip, List.getElem_append_left (show i < l.length by omega),
      List.getElem_range]

theorem range_zip_append (h : l.length = n) :
    (List.range (n + 1)).zip (l ++ [x]) = (List.range n).zip l ++ [(n, x)] := by
  rw [List.range_succ, List.zip_append (by simp [h])]; rfl

end Zip

theorem requestsOf_append (evs evs' : List AcceptEvent) :
    requestsOf (evs ++ evs') = requestsOf evs ++ requestsOf evs' := by
  induction evs with
  | nil => rfl
  | cons ev evs ih => cases ev <;> simp [requestsOf, ih]

namespace AcceptEngine

/-! ## What a run explains -/

/-- Why consumer `c` may have had `complete_state(code)` while the engine runs. -/
inductive CompletionCause (evs : List AcceptEvent) (e : AcceptEngine) : Nat → Nat → Prop
  /-- it received the accepted socket `s` of the `k`-th accept, through `set_socket` -/
  | accepted {c k s} : (c, k) ∈ e.matched → e.results[k]? = some ⟨some s, 0⟩ →
      (c, some s) ∈ e.sockets → CompletionCause evs e c 0
  /-- it received the `k`-th accept, which failed -/
  | failed {c k conn} : (c, k) ∈ e.matched → e.results[k]? = some conn → conn.gle ≠ 0 →
      CompletionCause evs e c conn.gle
  /-- its request could not be queued -/
  | noBufs {c start} : c ∉ e.admitted → (requestsOf evs)[c]? = some (start, true) →
      CompletionCause evs e c WSAENOBUFS
  /-- its call carried a failed `Start`, with error `code` -/
  | startFailed {c code pushThrows} : c ∉ e.admitted →
      (requestsOf evs)[c]? = some (some code, pushThrows) → CompletionCause evs e c code

/-- Why consumer `c` may have had `complete_state(code)` once the destructor ran: a cause from
    the run, or `WSAECONNABORTED` for a consumer that reached the queues and got no
    connection. -/
def Explained (evs : List AcceptEvent) (e : AcceptEngine) (c code : Nat) : Prop :=
  CompletionCause evs e c code ∨
    code = WSAECONNABORTED ∧ c ∈ e.admitted ∧ ∀ k, (c, k) ∉ e.matched

/-- A cause stays a cause while the records grow. -/
theorem CompletionCause.mono {evs evs' : List AcceptEvent} {e e' : AcceptEngine} {c code : Nat}
    (h : CompletionCause evs e c code) (hevs : evs <+: evs') (hm : e.matched ⊆ e'.matched)
    (hr : e.results <+: e'.results) (hs : e.sockets ⊆ e'.sockets)
    (ha : c ∉ e.admitted → c ∉ e'.admitted) : CompletionCause evs' e' c code := by
  have hreq : ∀ {x}, (requestsOf evs)[c]? = some x → (requestsOf evs')[c]? = some x := by
    obtain ⟨t, rfl⟩ := hevs
    intro x hx
    rw [requestsOf_append, List.getElem?_append_left (List.getElem?_eq_some_iff.1 hx).1, hx]
  have hres : ∀ {k : Nat} {x}, e.results[k]? = some x → e'.results[k]? = some x := by
    obtain ⟨t, ht⟩ := hr
    intro k x hx
    rw [← ht, List.getElem?_append_left (List.getElem?_eq_some_iff.1 hx).1, hx]
  cases h with
  | accepted hk hx hsock => exact .accepted (hm hk) (hres hx) (hs hsock)
  | failed hk hx hg => exact .failed (hm hk) (hres hx) hg
  | noBufs hc hx => exact .noBufs (ha hc) (hreq hx)
  | startFailed hc hx => exact .startFailed (ha hc) (hreq hx)

/-! ## The run invariant -/

theorem completions_congr {e e' : AcceptEngine} (h : e'.completed = e.completed) :
    e'.completions = e.completions := by
  funext c; simp only [completions, h]

@[simp]
theorem completions_complete_state (e : AcceptEngine) (c code c' : Nat) :
    (e.complete_state c code).completions c' = e.completions c' + if c = c' then 1 else 0 := by
  simp only [completions, complete_state, List.filter_append, List.length_append]
  by_cases h : c = c' <;> simp [h]

@[simp]
theorem completions_set_socket (e : AcceptEngine) (c : Nat) (s : Option Nat) :
    (e.set_socket c s).completions = e.completions := rfl

/-- The shape of the queues after every run from `init`: the two queues are what is left of
    the admitted consumers and of the results once they are matched in order. -/
structure QueueInv (e : AcceptEngine) : Prop where
  running : e.shutting_down = false
  results_wellFormed : ∀ r ∈ e.results, r.WellFormed
  /-- the `k`-th consumer to reach the queues is matched with the `k`-th result -/
  pairing : e.matched = e.admitted.zip (List.range e.results.length)
  /-- the waiting requests are the admitted consumers no result reached yet -/
  pended : e.pended_accept_requests = e.admitted.drop e.results.length
  /-- the queued connections are the results no consumer took yet -/
  ready : e.accepted_connections =
    ((List.range e.results.length).zip e.results).drop e.admitted.length
  sorted : e.admitted.Sorted (· < ·)
  admitted_lt : ∀ c ∈ e.admitted, c < e.consumers

/-- What holds after every run `evs` from `init`, before the destructor. -/
structure RunInv (evs : List AcceptEvent) (e : AcceptEngine) extends QueueInv e : Prop where
  consumers_eq : e.consumers = (requestsOf evs).length
  /-- a consumer is completed at most once, and not while waiting or before its call -/
  counts : ∀ c,
    e.completions c ≤ if c < e.consumers ∧ c ∉ e.pended_accept_requests then 1 else 0
  live : ∀ c < e.consumers, c ∉ e.pended_accept_requests → c ∉ e.expired →
    e.completions c = 1
  explained : ∀ p ∈ e.completed, CompletionCause evs e p.1 p.2

theorem RunInv.init : RunInv [] init where
  running := rfl
  results_wellFormed := by simp [AcceptEngine.init]
  pairing := rfl
  pended := rfl
  ready := rfl
  sorted := List.sorted_nil
  admitted_lt := by simp [AcceptEngine.init]
  consumers_eq := rfl
  counts := by simp [AcceptEngine.init, completions]
  live := by simp [AcceptEngine.init]
  explained := by simp [AcceptEngine.init]

section Steps

variable {evs : List AcceptEvent} {e : AcceptEngine}

theorem QueueInv.exclusive (h : QueueInv e) :
    e.pended_accept_requests = [] ∨ e.accepted_connections = [] := by
  rw [h.pended, h.ready, List.drop_eq_nil_iff, List.drop_eq_nil_iff]
  simp only [List.length_zip, List.length_range]
  omega

theorem RunInv.completed_lt (h : RunInv evs e) {p : Nat × Nat} (hp : p ∈ e.completed) :
    p.1 < e.consumers := by
  have hpos : 0 < e.completions p.1 :=
    List.length_pos.2 (List.ne_nil_of_mem (List.mem_filter.2 ⟨hp, by simp⟩))
  have := h.counts p.1
  split at this <;> omega

/-- An expiry changes nothing the invariant reads but the set a live consumer avoids. -/
theorem RunInv.expire (h : RunInv evs e) (c : Nat) :
    RunInv (evs ++ [.expire c]) { e with expired := e.expired ++ [c] } where
  toQueueInv := ⟨h.running, h.results_wellFormed, h.pairing, h.pended, h.ready, h.sorted,
    h.admitted_lt⟩
  consumers_eq := by rw [requestsOf_append, List.length_append, h.consumers_eq]; rfl
  counts := h.counts
  live c' hc hp hx := h.live c' hc hp fun hm => hx (List.mem_append_left _ hm)
  explained p hp := (h.explained p hp).mono (List.prefix_append _ _) (List.Subset.refl _)
    (List.prefix_refl _) (List.Subset.refl _) id

theorem RunInv.consumers_request (h : RunInv evs e) (start : Option Nat) (pushThrows : Bool) :
    e.consumers + 1 = (requestsOf (evs ++ [.request start pushThrows])).length := by
  rw [requestsOf_append, List.length_append, h.consumers_eq]; rfl

theorem RunInv.consumers_completion (h : RunInv evs e) (r : AcceptResult) :
    e.consumers = (requestsOf (evs ++ [.completion r])).length := by
  rw [requestsOf_append, List.length_append, h.consumers_eq]; rfl

/-- The consumer whose call comes next has not been completed. -/
theorem RunInv.completions_consumers (h : RunInv evs e) : e.completions e.consumers = 0 := by
  simpa using h.counts e.consumers

theorem QueueInv.admitted_lt_append_consumer (h : QueueInv e) :
    ∀ c ∈ e.admitted ++ [e.consumers], c < e.consumers + 1 :=
  List.forall_mem_append.2 ⟨fun c hc => Nat.lt_succ_of_lt (h.admitted_lt c hc),
    List.forall_mem_singleton.2 (Nat.lt_succ_self _)⟩

theorem QueueInv.results_wellFormed_append (h : QueueInv e) (r : AcceptResult) :
    ∀ x ∈ e.results ++ [r.connection], x.WellFormed :=
  List.forall_mem_append.2 ⟨h.results_wellFormed,
    List.forall_mem_singleton.2 r.connection_wellFormed⟩

/-- A completion with no waiting request queues its connection. -/
theorem RunInv.queue (h : RunInv evs e) (hp : e.pended_accept_requests = []) (r : AcceptResult) :
    RunInv (evs ++ [.completion r])
      { e with results := e.results ++ [r.connection],
               accepted_connections :=
                 e.accepted_connections ++ [(e.results.length, r.connection)] } := by
  have hAR : e.admitted.length ≤ e.results.length := by
    rw [← List.drop_eq_nil_iff, ← h.pended, hp]
  refine ⟨⟨h.running, ?_, ?_, ?_, ?_, h.sorted, h.admitted_lt⟩, ?_, ?_, ?_, ?_⟩
  · exact h.results_wellFormed_append r
  · simpa [zip_range_succ_of_le _ hAR] using h.pairing
  · simp only [List.length_append, List.length_singleton]
    rw [List.drop_eq_nil_of_le (by omega), ← hp, h.pended]
  · simp only [List.length_append, List.length_singleton]
    rw [range_zip_append _ _ rfl, List.drop_append_of_le_length (by simpa using hAR), h.ready]
  · exact h.consumers_completion r
  · exact h.counts
  · exact h.live
  · exact fun p hp => (h.explained p hp).mono (List.prefix_append _ _) (List.Subset.refl _)
      (List.prefix_append _ _) (List.Subset.refl _) id

theorem QueueInv.complete_state (h : QueueInv e) (c code : Nat) :
    QueueInv (e.complete_state c code) :=
  ⟨h.running, h.results_wellFormed, h.pairing, h.pended, h.ready, h.sorted, h.admitted_lt⟩

theorem QueueInv.set_socket (h : QueueInv e) (c : Nat) (s : Option Nat) :
    QueueInv (e.set_socket c s) :=
  ⟨h.running, h.results_wellFormed, h.pairing, h.pended, h.ready, h.sorted, h.admitted_lt⟩

/-- The invariant in the middle of a step: the queue work is done, and consumer `c`, whose
    turn it is, has not been completed yet. -/
structure Pending (evs : List AcceptEvent) (e : AcceptEngine) (c : Nat) extends QueueInv e :
    Prop where
  consumers_eq : e.consumers = (requestsOf evs).length
  lt : c < e.consumers
  zero : e.completions c = 0
  counts : ∀ c', c' ≠ c →
    e.completions c' ≤ if c' < e.consumers ∧ c' ∉ e.pended_accept_requests then 1 else 0
  live : ∀ c' < e.consumers, c' ≠ c → c' ∉ e.pended_accept_requests → c' ∉ e.expired →
    e.completions c' = 1
  explained : ∀ p ∈ e.completed, CompletionCause evs e p.1 p.2

/-- The step ends with `complete_state` for `c`. -/
theorem Pending.complete {c code : Nat} (h : Pending evs e c) (hp : c ∉ e.pended_accept_requests)
    (hcause : CompletionCause evs e c code) : RunInv evs (e.complete_state c code) where
  toQueueInv := h.toQueueInv.complete_state c code
  consumers_eq := h.consumers_eq
  counts c' := by
    by_cases hc : c = c'
    · subst hc; simp [h.zero, h.lt, hp]
    · simpa [hc] using h.counts c' (Ne.symm hc)
  live c' hc' hp' hx := by
    by_cases hc : c = c'
    · subst hc; simp [h.zero]
    · simpa [hc] using h.live c' hc' (Ne.symm hc) hp' hx
  explained p hp := by
    rcases List.mem_append.1 hp with hp | hp
    · exact (h.explained p hp).mono (List.prefix_refl _) (List.Subset.refl _) (List.prefix_refl _)
        (List.Subset.refl _) id
    · obtain rfl := List.mem_singleton.1 hp
      exact hcause.mono (List.prefix_refl _) (List.Subset.refl _) (List.prefix_refl _)
        (List.Subset.refl _) id

/-- The step ends without completing `c`: its request waits, or its socket is gone. -/
theorem Pending.skip {c : Nat} (h : Pending evs e c)
    (hc : c ∈ e.pended_accept_requests ∨ c ∈ e.expired) : RunInv evs e where
  toQueueInv := h.toQueueInv
  consumers_eq := h.consumers_eq
  counts c' := by
    by_cases hc' : c' = c
    · subst hc'; simp [h.zero]
    · exact h.counts c' hc'
  live c' hc' hp hx := by
    by_cases hcc : c' = c
    · subst hcc; tauto
    · exact h.live c' hc' hcc hp hx
  explained := h.explained

theorem Pending.set_socket {c : Nat} (h : Pending evs e c) (c' : Nat) (s : Option Nat) :
    Pending evs (e.set_socket c' s) c where
  toQueueInv := h.toQueueInv.set_socket c' s
  consumers_eq := h.consumers_eq
  lt := h.lt
  zero := h.zero
  counts := h.counts
  live := h.live
  explained p hp := (h.explained p hp).mono (List.prefix_refl _) (List.Subset.refl _)
    (List.prefix_refl _) (List.subset_append_left _ _) id

/-- A step that does queue work only: what the invariant says of the other consumers carries
    over from the records it keeps. -/
theorem RunInv.pending {evs' : List AcceptEvent} {e' : AcceptEngine} {c : Nat} (h : RunInv evs e)
    (hq : QueueInv e') (hcons : e'.consumers = (requestsOf evs').length) (hlt : c < e'.consumers)
    (hzero : e.completions c = 0) (hcompl : e'.completed = e.completed)
    (hlt' : ∀ c', c' ≠ c → (c' < e'.consumers ↔ c' < e.consumers))
    (hpend : ∀ c', c' ≠ c →
      (c' ∈ e'.pended_accept_requests ↔ c' ∈ e.pended_accept_requests))
    (hexp : e'.expired = e.expired) (hevs : evs <+: evs') (hm : e.matched ⊆ e'.matched)
    (hr : e.results <+: e'.results) (hs : e.sockets ⊆ e'.sockets)
    (ha : ∀ c' < e.consumers, c' ∉ e.admitted → c' ∉ e'.admitted) : Pending evs' e' c where
  toQueueInv := hq
  consumers_eq := hcons
  lt := hlt
  zero := by rw [completions_congr hcompl, hzero]
  counts c' hc := by
    simp only [completions_congr hcompl, hlt' c' hc, hpend c' hc]; exact h.counts c'
  live c' hc' hcc hp hx := by
    rw [completions_congr hcompl]
    exact h.live c' ((hlt' c' hcc).1 hc') ((hpend c' hcc).not.1 hp) (hexp ▸ hx)
  explained p hp := by
    rw [hcompl] at hp
    exact (h.explained p hp).mono hevs hm hr hs (ha p.1 (h.completed_lt hp))

/-- The oldest waiting request is the first admitted consumer no result reached. -/
theorem QueueInv.pended_head {c : Nat} {rest : List Nat} (h : QueueInv e)
    (hp : e.pended_accept_requests = c :: rest) :
    ∃ hR : e.results.length < e.admitted.length, e.admitted[e.results.length] = c ∧
      rest = e.admitted.drop (e.results.length + 1) ∧ c ∉ rest := by
  have hd : e.admitted.drop e.results.length = c :: rest := h.pended ▸ hp
  have hR : e.results.length < e.admitted.length := by
    by_contra hle
    rw [List.drop_eq_nil_of_le (by omega)] at hd
    exact List.cons_ne_nil _ _ hd.symm
  have hnd : (c :: rest).Nodup := hd ▸ h.sorted.nodup.sublist (List.drop_sublist _ _)
  rw [List.drop_eq_getElem_cons hR, List.cons.injEq] at hd
  exact ⟨hR, hd.1, hd.2.symm, (List.nodup_cons.1 hnd).1⟩

/-- The oldest queued connection is the first result no consumer took. -/
theorem QueueInv.ready_head {k : Nat} {conn : ctsAcceptedConnection}
    {rest : List (Nat × ctsAcceptedConnection)} (h : QueueInv e)
    (hq : e.accepted_connections = (k, conn) :: rest) :
    k = e.admitted.length ∧ e.results[k]? = some conn ∧
      rest = ((List.range e.results.length).zip e.results).drop (k + 1) := by
  have hd := h.ready ▸ hq
  have hA : e.admitted.length < ((List.range e.results.length).zip e.results).length := by
    by_contra hle
    rw [List.drop_eq_nil_of_le (by omega)] at hd
    exact List.cons_ne_nil _ _ hd.symm
  rw [List.drop_eq_getElem_cons hA, List.cons.injEq, List.getElem_zip, List.getElem_range,
    Prod.mk.injEq] at hd
  obtain ⟨⟨rfl, rfl⟩, hrest⟩ := hd
  exact ⟨rfl, List.getElem?_eq_getElem _, hrest.symm⟩

/-- `ctsAcceptEx` up to its queue work, for a consumer that does not reach the queues. -/
theorem RunInv.enter (h : RunInv evs e) (start : Option Nat) (pushThrows b : Bool) :
    Pending (evs ++ [.request start pushThrows])
      { e with consumers := e.consumers + 1, initialized := b } e.consumers :=
  h.pending ⟨h.running, h.results_wellFormed, h.pairing, h.pended, h.ready, h.sorted,
      fun c hc => Nat.lt_succ_of_lt (h.admitted_lt c hc)⟩
    (h.consumers_request start pushThrows) (Nat.lt_succ_self _) h.completions_consumers rfl (fun c hc => by dsimp only; omega)
    (fun _ _ => Iff.rfl) rfl (List.prefix_append _ _) (List.Subset.refl _) (List.prefix_refl _)
    (List.Subset.refl _) fun _ _ => id

/-- A new consumer reaching the queues keeps the admitted consumers in call order. -/
theorem QueueInv.sorted_append_consumer (h : QueueInv e) :
    (e.admitted ++ [e.consumers]).Sorted (· < ·) :=
  List.pairwise_append.2 ⟨h.sorted, List.pairwise_singleton _ _, fun a ha _ hb =>
    (List.mem_singleton.1 hb) ▸ h.admitted_lt a ha⟩

/-- `ctsAcceptEx` with no queued connection: the request waits. -/
theorem RunInv.pendRequest (h : RunInv evs e) (start : Option Nat) (pushThrows : Bool)
    (hq : e.accepted_connections = []) :
    Pending (evs ++ [.request start pushThrows])
      { e with consumers := e.consumers + 1, initialized := true,
               pended_accept_requests := e.pended_accept_requests ++ [e.consumers],
               admitted := e.admitted ++ [e.consumers] } e.consumers := by
  have hRA : e.results.length ≤ e.admitted.length := by
    have := List.drop_eq_nil_iff.1 (h.ready ▸ hq)
    simpa using this
  refine h.pending ⟨h.running, h.results_wellFormed, ?_, ?_, ?_, h.sorted_append_consumer, ?_⟩
    (h.consumers_request start pushThrows) (Nat.lt_succ_self _) h.completions_consumers rfl (fun c hc => by dsimp only; omega)
    (fun c hc => by simp [hc]) rfl (List.prefix_append _ _) (List.Subset.refl _)
    (List.prefix_refl _) (List.Subset.refl _) fun c hc ha => by simp [ha]; omega
  · rw [append_zip_range_of_le _ _ hRA, h.pairing]
  · rw [List.drop_append_of_le_length hRA, h.pended]
  · rw [List.drop_eq_nil_of_le (by simp; omega), ← hq]
  · exact h.admitted_lt_append_consumer

/-- `ctsAcceptEx` with a queued connection: the consumer takes the oldest. -/
theorem RunInv.take (h : RunInv evs e) (start : Option Nat) (pushThrows : Bool) {k : Nat}
    {conn : ctsAcceptedConnection} {rest : List (Nat × ctsAcceptedConnection)}
    (hq : e.accepted_connections = (k, conn) :: rest) :
    Pending (evs ++ [.request start pushThrows])
      { e with consumers := e.consumers + 1, initialized := true, accepted_connections := rest,
               admitted := e.admitted ++ [e.consumers],
               matched := e.matched ++ [(e.consumers, k)] } e.consumers := by
  obtain ⟨rfl, hk, hrest⟩ := h.ready_head hq
  have hAR : e.admitted.length < e.results.length := (List.getElem?_eq_some_iff.1 hk).1
  refine h.pending ⟨h.running, h.results_wellFormed, ?_, ?_, ?_, h.sorted_append_consumer, ?_⟩
    (h.consumers_request start pushThrows) (Nat.lt_succ_self _) h.completions_consumers rfl (fun c hc => by dsimp only; omega)
    (fun _ _ => Iff.rfl) rfl (List.prefix_append _ _) (List.subset_append_left _ _)
    (List.prefix_refl _) (List.Subset.refl _) fun c hc ha => by simp [ha]; omega
  · rw [append_zip_range_of_lt _ _ hAR, h.pairing]
  · rw [h.pended, List.drop_eq_nil_of_le (by omega), List.drop_eq_nil_of_le (by simp; omega)]
  · simpa using hrest
  · exact h.admitted_lt_append_consumer

/-- A completion with a waiting request serves the oldest one. -/
theorem RunInv.serve (h : RunInv evs e) {c : Nat} {rest : List Nat}
    (hp : e.pended_accept_requests = c :: rest) (r : AcceptResult) :
    Pending (evs ++ [.completion r])
      { e with results := e.results ++ [r.connection], pended_accept_requests := rest,
               matched := e.matched ++ [(c, e.results.length)] } c := by
  obtain ⟨hRA, hc, hrest, hcr⟩ := h.pended_head hp
  have hmem : c ∈ e.admitted := hc ▸ List.getElem_mem _
  refine h.pending ⟨h.running, ?_, ?_, by simpa using hrest, ?_, h.sorted, h.admitted_lt⟩
    (h.consumers_completion r) (h.admitted_lt c hmem)
    (by simpa [hp] using h.counts c) rfl (fun _ _ => Iff.rfl) (fun c' hc' => by simp [hp, hc'])
    rfl (List.prefix_append _ _) (List.subset_append_left _ _) (List.prefix_append _ _)
    (List.Subset.refl _) fun _ _ => id
  · exact h.results_wellFormed_append r
  · simp only [List.length_append, List.length_singleton]
    rw [zip_range_succ_of_lt _ hRA, h.pairing, hc]
  · rw [h.ready, List.drop_eq_nil_of_le (by simp; omega), List.drop_eq_nil_of_le (by simp; omega)]

theorem RunInv.request (h : RunInv evs e) (start : Option Nat) (pushThrows : Bool) :
    RunInv (evs ++ [.request start pushThrows]) (e.ctsAcceptEx start pushThrows) := by
  have hreq : (requestsOf (evs ++ [.request start pushThrows]))[e.consumers]? =
      some (start, pushThrows) := by
    rw [requestsOf_append, h.consumers_eq, List.getElem?_append_right le_rfl, Nat.sub_self]; rfl
  have hnew : e.consumers ∉ e.admitted := fun hm => by simpa using h.admitted_lt _ hm
  have hwait : e.consumers ∉ e.pended_accept_requests := fun hm =>
    hnew (List.mem_of_mem_drop (h.pended ▸ hm))
  obtain ⟨pended, accepted, sd, initialized, expired, consumers, results, admitted, matched,
    sockets, completed⟩ := e
  simp only [ctsAcceptEx]
  rcases hi : (if initialized then none else start) with _ | error <;> dsimp only
  · by_cases hx : consumers ∈ expired
    · rw [if_pos hx]; exact (h.enter start pushThrows true).skip (Or.inr hx)
    rw [if_neg hx]
    rcases accepted with _ | ⟨⟨k, conn⟩, rest⟩ <;> dsimp only
    · cases pushThrows
      · exact (h.pendRequest start false rfl).skip
          (Or.inl (List.mem_append_right _ (List.mem_singleton_self _)))
      · exact (h.enter start true true).complete hwait (.noBufs hnew hreq)
    have ht := h.take start pushThrows rfl
    obtain ⟨hk0, hk, -⟩ := h.ready_head rfl
    dsimp only at hk0 hk; subst hk0
    by_cases hg : conn.gle ≠ 0
    · rw [if_pos hg]
      exact ht.complete (by simpa using hwait) (.failed (by simp) hk hg)
    rw [if_neg hg]
    have hwf := h.results_wellFormed conn (List.mem_iff_getElem?.2 ⟨_, hk⟩)
    obtain ⟨s, hs⟩ := Option.isSome_iff_exists.1 (hwf.2 (not_not.1 hg))
    rw [if_pos (by simp [hs])]
    obtain ⟨sock, gle⟩ := conn
    simp only [not_not] at hg hs; subst hg hs
    exact (ht.set_socket _ _).complete (by simpa using hwait) (.accepted (by simp) hk (by simp))
  · obtain ⟨rfl, rfl⟩ : initialized = false ∧ start = some error := by
      cases initialized
      · exact ⟨rfl, hi⟩
      · cases hi
    by_cases hx : consumers ∈ expired
    · rw [if_pos hx]; exact (h.enter _ pushThrows false).skip (Or.inr hx)
    rw [if_neg hx]
    exact (h.enter _ pushThrows false).complete hwait (.startFailed hnew hreq)

theorem RunInv.completion (h : RunInv evs e) (r : AcceptResult) :
    RunInv (evs ++ [.completion r]) (e.ctsAcceptExIoCompletionCallback r.connection) := by
  obtain ⟨pended, accepted, sd, initialized, expired, consumers, results, admitted, matched,
    sockets, completed⟩ := e
  obtain rfl : sd = false := h.running
  simp only [ctsAcceptExIoCompletionCallback, Bool.false_eq_true, if_false]
  rcases pended with _ | ⟨c, rest⟩ <;> dsimp only
  · exact h.queue rfl r
  have hs := h.serve rfl r
  obtain ⟨-, -, -, hcr⟩ := h.pended_head rfl
  have hk : (results ++ [r.connection])[results.length]? = some r.connection :=
    List.getElem?_concat_length _ _
  by_cases hx : c ∈ expired
  · rw [if_pos hx]; exact hs.skip (Or.inr hx)
  rw [if_neg hx]
  cases r with
  | accepted sock =>
    dsimp only [AcceptResult.connection]; rw [if_pos rfl]
    exact (hs.set_socket c (some sock)).complete hcr (.accepted (by simp) hk (by simp))
  | failed gle hg =>
    dsimp only [AcceptResult.connection]; rw [if_neg hg]
    exact hs.complete hcr (.failed (by simp) hk hg)

theorem RunInv.step (h : RunInv evs e) (ev : AcceptEvent) : RunInv (evs ++ [ev]) (e.step ev) := by
  cases ev with
  | request start pushThrows => exact h.request start pushThrows
  | completion r => exact h.completion r
  | expire c => exact h.expire c

/-- Every run from `init` keeps the invariant. -/
theorem RunInv.run (evs : List AcceptEvent) : RunInv evs (AcceptEngine.init.run evs) := by
  induction evs using List.reverseRecOn with
  | nil => exact RunInv.init
  | append_singleton evs ev ih =>
    rw [AcceptEngine.run, List.foldl_append, List.foldl_cons, List.foldl_nil]
    exact ih.step ev

end Steps

/-! ## The destructor -/

theorem abortRequests_eq (e : AcceptEngine) (cs : List Nat) :
    abortRequests e cs = { e with completed := e.completed ++
      (cs.filter fun c => c ∉ e.expired).map fun c => (c, WSAECONNABORTED) } := by
  induction cs generalizing e with
  | nil => simp [abortRequests]
  | cons c cs ih =>
    by_cases hx : c ∈ e.expired
    · simp [abortRequests, hx, ih]
    · simp [abortRequests, hx, ih, complete_state]

theorem completions_abortRequests (e : AcceptEngine) {cs : List Nat} (hnd : cs.Nodup) (c : Nat) :
    (abortRequests e cs).completions c =
      e.completions c + if c ∈ cs ∧ c ∉ e.expired then 1 else 0 := by
  induction cs generalizing e with
  | nil => simp [abortRequests]
  | cons c' cs ih =>
    obtain ⟨hc', hnd⟩ := List.nodup_cons.1 hnd
    have hexp : (if c' ∈ e.expired then e else e.complete_state c' WSAECONNABORTED).expired =
        e.expired := by split <;> rfl
    rw [abortRequests, ih _ hnd, hexp]
    by_cases hc : c' = c
    · subst hc
      by_cases hx : c' ∈ e.expired
      · simp [hx, hc']
      · simp [hx, hc', completions_complete_state]
    · by_cases hx : c' ∈ e.expired
      · simp [hx, Ne.symm hc]
      · simp [hx, hc, Ne.symm hc, completions_complete_state]

theorem destructor_eq (e : AcceptEngine) :
    e.destructor =
      { e with
        shutting_down := true
        pended_accept_requests := []
        accepted_connections := []
        completed := e.completed ++
          (e.pended_accept_requests.filter fun c => c ∉ e.expired).map
            fun c => (c, WSAECONNABORTED) } := by
  rw [destructor, abortRequests_eq]

/-- A consumer still waiting when the destructor runs reached the queues and got nothing. -/
theorem not_mem_zip_range_of_mem_drop {l : List Nat} (hnd : l.Nodup) {n c k : Nat}
    (hc : c ∈ l.drop n) : (c, k) ∉ l.zip (List.range n) := by
  intro hm
  obtain ⟨i, hi, he⟩ := List.mem_iff_getElem.1 hm
  obtain ⟨j, hj, hje⟩ := List.mem_iff_getElem.1 hc
  simp only [List.getElem_zip, List.getElem_range, Prod.mk.injEq] at he
  rw [List.getElem_drop] at hje
  have hij := (hnd.getElem_inj_iff).1 (he.1.trans hje.symm)
  simp only [List.length_zip, List.length_range] at hi
  omega

section Destructor

variable {evs : List AcceptEvent} {e : AcceptEngine}

/-- After the destructor: every consumer still waiting and still there has been completed
    once more, with `WSAECONNABORTED`. -/
theorem RunInv.destructor_completions (h : RunInv evs e) (c : Nat) :
    e.destructor.completions c =
      e.completions c + if c ∈ e.pended_accept_requests ∧ c ∉ e.expired then 1 else 0 := by
  have hnd : e.pended_accept_requests.Nodup :=
    h.pended ▸ h.sorted.nodup.sublist (List.drop_sublist _ _)
  exact completions_abortRequests { e with shutting_down := true } hnd c

theorem RunInv.destructor_explained (h : RunInv evs e) :
    ∀ p ∈ e.destructor.completed, Explained evs e.destructor p.1 p.2 := by
  intro p hp
  rw [destructor_eq] at hp ⊢
  simp only [List.mem_append, List.mem_map, List.mem_filter] at hp
  rcases hp with hp | ⟨c, ⟨hc, -⟩, rfl⟩
  · exact Or.inl ((h.explained p hp).mono (List.prefix_refl _) (List.Subset.refl _)
      (List.prefix_refl _) (List.Subset.refl _) id)
  · have hc' : c ∈ e.admitted.drop e.results.length := h.pended ▸ hc
    refine Or.inr ⟨rfl, List.mem_of_mem_drop hc', fun k hk => ?_⟩
    have hk' : (c, k) ∈ e.matched := hk
    rw [h.pairing] at hk'
    exact not_mem_zip_range_of_mem_drop h.sorted.nodup hc' hk'

theorem RunInv.destructor_once (h : RunInv evs e) (c : Nat) : e.destructor.completions c ≤ 1 := by
  rw [h.destructor_completions]
  have hcount := h.counts c
  by_cases hp : c ∈ e.pended_accept_requests
  · simp only [hp, not_true_eq_false, and_false, if_false] at hcount
    split <;> omega
  · simp only [hp, false_and, if_false]
    split at hcount <;> omega

theorem RunInv.destructor_live (h : RunInv evs e) (c : Nat) (hc : c < e.consumers)
    (hx : c ∉ e.expired) : e.destructor.completions c = 1 := by
  rw [h.destructor_completions]
  by_cases hp : c ∈ e.pended_accept_requests
  · have hzero := h.counts c
    simp only [hp, not_true_eq_false, and_false, if_false, Nat.le_zero] at hzero
    simp [hp, hx, hzero]
  · simp only [hp, false_and, if_false, h.live c hc hp hx]

end Destructor

end AcceptEngine

end CtsTraffic
