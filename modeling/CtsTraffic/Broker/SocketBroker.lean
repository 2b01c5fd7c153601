import CtsTraffic.Basic

/-
  `ctsSocketBroker`: the population controller. The constructor fixes
  `m_totalConnectionsRemaining` and `m_pendingLimit` from the settings; `Start` and every
  `TimerCallback` tick run the same creation loop, which pushes a new `ctsSocketState` and
  moves one connection from the remaining total to `m_pendingSockets`, until the pending limit,
  the remaining total or a throttle stops it. The sockets report back through `InitiatingIo`
  (pending to active) and `Closing(wasActive)`, each of which `FAIL_FAST`s on an underflow.

  Each member function runs under the broker lock, so a call is one atomic step here. The
  spec lemmas say once what each call does to the counters (`createSockets_eq`,
  `InitiatingIo_eq_ok`, `Closing_eq_ok`, `TimerCallback_cases`); the population model reads
  them and never unfolds the calls.
-/

namespace CtsTraffic

/-- The fields of `ctsConfigSettings` that the broker reads; `AcceptFunction` says whether
    an accept function is set (a server). -/
structure BrokerSettings where
  AcceptFunction : Bool
  Iterations : UInt64
  ServerExitLimit : UInt64
  AcceptLimit : UInt32
  ConnectionLimit : UInt32
  ConnectionThrottleLimit : UInt32
  deriving DecidableEq, Repr

/-- `MAXULONGLONG`. -/
def MAXULONGLONG : UInt64 := 0xFFFFFFFFFFFFFFFF

/-- Modelled from the spec: the members of `ctsSocketBroker` (its header is not in the
    source). The counters are plain counters; the pool holds the ids of its sockets, and
    `m_doneEvent` is whether the manual-reset done event is set. -/
structure ctsSocketBroker where
  m_totalConnectionsRemaining : Nat
  m_pendingLimit : Nat
  m_pendingSockets : Nat
  m_activeSockets : Nat
  m_socketPool : List Nat
  m_doneEvent : Bool
  deriving DecidableEq, Repr

/-- The `FAIL_FAST_IF_MSG`s of `InitiatingIo` and `Closing`, with the counter each prints. -/
inductive BrokerFailFast
  | initiatingIoPendingZero (activeSockets : Nat)
  | closingActiveZero (pendingSockets : Nat)
  | closingPendingZero (activeSockets : Nat)
  deriving DecidableEq, Repr

namespace ctsSocketBroker

/-! ## The member functions -/

/-- The constructor: a server takes `ServerExitLimit` and `AcceptLimit`, a client
    `Iterations * ConnectionLimit` (64-bit, unless `Iterations` is `MAXULONGLONG`) and
    `ConnectionLimit`; the pending limit is then capped by the total. -/
def new (cfg : BrokerSettings) : ctsSocketBroker :=
  let total : UInt64 :=
    if cfg.AcceptFunction then cfg.ServerExitLimit
    else if cfg.Iterations = MAXULONGLONG then MAXULONGLONG
    else cfg.Iterations * cfg.ConnectionLimit.toUInt64
  let limit : Nat := if cfg.AcceptFunction then cfg.AcceptLimit.toNat else cfg.ConnectionLimit.toNat
  { m_totalConnectionsRemaining := total.toNat
    m_pendingLimit := if limit > total.toNat then total.toNat else limit
    m_pendingSockets := 0
    m_activeSockets := 0
    m_socketPool := []
    m_doneEvent := false }

/-- One iteration of the creation loop: push the socket `id` and count it pending. -/
def addSocket (id : Nat) (b : ctsSocketBroker) : ctsSocketBroker :=
  { b with
    m_socketPool := b.m_socketPool ++ [id]
    m_pendingSockets := b.m_pendingSockets + 1
    m_totalConnectionsRemaining := b.m_totalConnectionsRemaining - 1 }

/-- The loop condition, with the loop body's `break`s given by `throttled`. -/
def canCreate (throttled : ctsSocketBroker → Bool) (b : ctsSocketBroker) : Bool :=
  b.m_pendingSockets < b.m_pendingLimit && 0 < b.m_totalConnectionsRemaining && !throttled b

/-- The creation loop of `Start` and `TimerCallback`, pushing the ids `next, next + 1, ...`;
    `allocs` is the number of sockets `make_shared` and `push_back` still succeed on (an
    exception ends the loop, before the counters move). -/
def createSockets (throttled : ctsSocketBroker → Bool) : Nat → Nat → ctsSocketBroker →
    ctsSocketBroker
  | 0, _, b => b
  | allocs + 1, next, b =>
    if b.canCreate throttled then createSockets throttled allocs (next + 1) (b.addSocket next)
    else b

/-- The `break` of `Start`'s loop: a client stops at `ConnectionThrottleLimit` pending. -/
def startThrottled (cfg : BrokerSettings) (b : ctsSocketBroker) : Bool :=
  !cfg.AcceptFunction && cfg.ConnectionThrottleLimit.toNat ≤ b.m_pendingSockets

/-- The `break`s of `TimerCallback`'s loop: a client also stops at `ConnectionLimit`
    pending and active sockets. -/
def timerThrottled (cfg : BrokerSettings) (b : ctsSocketBroker) : Bool :=
  !cfg.AcceptFunction && (cfg.ConnectionLimit.toNat ≤ b.m_pendingSockets + b.m_activeSockets ||
    cfg.ConnectionThrottleLimit.toNat ≤ b.m_pendingSockets)

/-- `Start`: the creation loop, the first socket taking the id `next`. An exception here
    leaves `Start` and ends the program, so every allocation succeeds; the loop runs at most
    `m_totalConnectionsRemaining` times. -/
def Start (cfg : BrokerSettings) (next : Nat) (b : ctsSocketBroker) : ctsSocketBroker :=
  createSockets (startThrottled cfg) b.m_totalConnectionsRemaining next b

/-- `InitiatingIo`: a socket moves from pending to active. -/
def InitiatingIo (b : ctsSocketBroker) : Except BrokerFailFast ctsSocketBroker :=
  if b.m_pendingSockets = 0 then .error (.initiatingIoPendingZero b.m_activeSockets)
  else .ok { b with m_pendingSockets := b.m_pendingSockets - 1,
                    m_activeSockets := b.m_activeSockets + 1 }

/-- `Closing(wasActive)`: the socket leaves the active or the pending count. -/
def Closing (wasActive : Bool) (b : ctsSocketBroker) : Except BrokerFailFast ctsSocketBroker :=
  if wasActive then
    if b.m_activeSockets = 0 then .error (.closingActiveZero b.m_pendingSockets)
    else .ok { b with m_activeSockets := b.m_activeSockets - 1 }
  else
    if b.m_pendingSockets = 0 then .error (.closingPendingZero b.m_activeSockets)
    else .ok { b with m_pendingSockets := b.m_pendingSockets - 1 }

/-- The reaping loop of `TimerCallback`: drop the sockets whose state is `Closed`. -/
def reap (isClosed : Nat → Bool) (b : ctsSocketBroker) : ctsSocketBroker :=
  { b with m_socketPool := b.m_socketPool.filter (fun id => !isClosed id) }

/-- `TimerCallback`: nothing when `try_lock` fails; else reap, then set the done event when
    no work is left, or refill unless the done event is already set. -/
def TimerCallback (cfg : BrokerSettings) (lockAcquired : Bool) (isClosed : Nat → Bool)
    (allocs next : Nat) (b : ctsSocketBroker) : ctsSocketBroker :=
  if !lockAcquired then b
  else
    let b := b.reap isClosed
    if b.m_totalConnectionsRemaining = 0 ∧ b.m_pendingSockets = 0 ∧ b.m_activeSockets = 0 then
      { b with m_doneEvent := true }
    else if b.m_doneEvent then b
    else createSockets (timerThrottled cfg) allocs next b

/-! ## Spec lemmas -/

section Counters

variable {b : ctsSocketBroker} {id : Nat}

@[simp] theorem addSocket_total :
    (b.addSocket id).m_totalConnectionsRemaining = b.m_totalConnectionsRemaining - 1 := rfl
@[simp] theorem addSocket_pending : (b.addSocket id).m_pendingSockets = b.m_pendingSockets + 1 :=
  rfl
@[simp] theorem addSocket_active : (b.addSocket id).m_activeSockets = b.m_activeSockets := rfl
@[simp] theorem addSocket_limit : (b.addSocket id).m_pendingLimit = b.m_pendingLimit := rfl
@[simp] theorem addSocket_pool : (b.addSocket id).m_socketPool = b.m_socketPool ++ [id] := rfl
@[simp] theorem addSocket_done : (b.addSocket id).m_doneEvent = b.m_doneEvent := rfl

@[simp] theorem reap_total {f} : (b.reap f).m_totalConnectionsRemaining =
    b.m_totalConnectionsRemaining := rfl
@[simp] theorem reap_pending {f} : (b.reap f).m_pendingSockets = b.m_pendingSockets := rfl
@[simp] theorem reap_active {f} : (b.reap f).m_activeSockets = b.m_activeSockets := rfl
@[simp] theorem reap_limit {f} : (b.reap f).m_pendingLimit = b.m_pendingLimit := rfl
@[simp] theorem reap_pool {f} : (b.reap f).m_socketPool = b.m_socketPool.filter (fun id => !f id) :=
  rfl
@[simp] theorem reap_done {f} : (b.reap f).m_doneEvent = b.m_doneEvent := rfl

theorem canCreate_iff {th} : b.canCreate th = true ↔
    b.m_pendingSockets < b.m_pendingLimit ∧ 0 < b.m_totalConnectionsRemaining ∧ th b = false := by
  simp [canCreate, and_assoc]

end Counters

/-- Every run of the creation loop keeps what each iteration keeps. -/
theorem createSockets_induct (P : ctsSocketBroker → Prop) {th : ctsSocketBroker → Bool}
    (step : ∀ b id, b.canCreate th = true → P b → P (b.addSocket id)) :
    ∀ n next b, P b → P (createSockets th n next b)
  | 0, _, _, h => h
  | n + 1, next, b, h => by
    unfold createSockets
    split
    · exact createSockets_induct P step n (next + 1) _ (step b next ‹_› h)
    · exact h

/-- The creation loop pushes `k` sockets, with consecutive ids, for some `k` no larger than
    the remaining total. -/
theorem createSockets_eq (th : ctsSocketBroker → Bool) :
    ∀ n next b, ∃ k ≤ b.m_totalConnectionsRemaining, createSockets th n next b =
      { b with m_socketPool := b.m_socketPool ++ List.range' next k
               m_pendingSockets := b.m_pendingSockets + k
               m_totalConnectionsRemaining := b.m_totalConnectionsRemaining - k }
  | 0, _, b => ⟨0, Nat.zero_le _, by simp [createSockets]⟩
  | n + 1, next, b => by
    unfold createSockets
    split
    · next hc =>
      obtain ⟨-, htot, -⟩ := canCreate_iff.1 hc
      obtain ⟨k, hk, he⟩ := createSockets_eq th n (next + 1) (b.addSocket next)
      refine ⟨k + 1, by simp at hk; omega, ?_⟩
      rw [he]
      simp only [addSocket_pool, addSocket_pending, addSocket_total, List.range'_succ,
        List.append_assoc, List.singleton_append]
      congr 1 <;> omega
    · exact ⟨0, Nat.zero_le _, by simp⟩

theorem InitiatingIo_eq_ok {b b' : ctsSocketBroker} (h : b.InitiatingIo = .ok b') :
    0 < b.m_pendingSockets ∧
      b' = { b with m_pendingSockets := b.m_pendingSockets - 1,
                    m_activeSockets := b.m_activeSockets + 1 } := by
  unfold InitiatingIo at h
  split at h
  · cases h
  · exact ⟨by omega, (Except.ok.inj h).symm⟩

theorem InitiatingIo_ok_of_pos {b : ctsSocketBroker} (h : 0 < b.m_pendingSockets) :
    ∃ b', b.InitiatingIo = .ok b' :=
  ⟨_, if_neg (Nat.pos_iff_ne_zero.1 h)⟩

theorem Closing_eq_ok {b b' : ctsSocketBroker} {wasActive : Bool}
    (h : b.Closing wasActive = .ok b') :
    (wasActive = true ∧ 0 < b.m_activeSockets ∧
      b' = { b with m_activeSockets := b.m_activeSockets - 1 }) ∨
    (wasActive = false ∧ 0 < b.m_pendingSockets ∧
      b' = { b with m_pendingSockets := b.m_pendingSockets - 1 }) := by
  unfold Closing at h
  cases wasActive <;> simp only [if_true, if_false, Bool.false_eq_true] at h <;> split at h <;>
    cases h
  · exact .inr ⟨rfl, by omega, rfl⟩
  · exact .inl ⟨rfl, by omega, rfl⟩

theorem Closing_ok_of_pos {b : ctsSocketBroker} {wasActive : Bool}
    (h : 0 < if wasActive then b.m_activeSockets else b.m_pendingSockets) :
    ∃ b', b.Closing wasActive = .ok b' := by
  cases wasActive <;> simp only [Closing, Bool.false_eq_true, if_true, if_false] at h ⊢ <;>
    simp only [if_neg (Nat.pos_iff_ne_zero.1 h), Except.ok.injEq, exists_eq']

/-- What a tick can do: nothing, reap and set the done event when no work is left, reap only
    (done event already set), or reap and refill. -/
theorem TimerCallback_cases (cfg : BrokerSettings) (lockAcquired : Bool) (isClosed : Nat → Bool)
    (allocs next : Nat) (b : ctsSocketBroker) :
    b.TimerCallback cfg lockAcquired isClosed allocs next = b ∨
    (b.m_totalConnectionsRemaining = 0 ∧ b.m_pendingSockets = 0 ∧ b.m_activeSockets = 0 ∧
      b.TimerCallback cfg lockAcquired isClosed allocs next =
        { b.reap isClosed with m_doneEvent := true }) ∨
    (b.m_doneEvent = true ∧
      b.TimerCallback cfg lockAcquired isClosed allocs next = b.reap isClosed) ∨
    (b.m_doneEvent = false ∧ b.TimerCallback cfg lockAcquired isClosed allocs next =
      createSockets (timerThrottled cfg) allocs next (b.reap isClosed)) := by
  unfold TimerCallback
  cases lockAcquired
  · exact .inl rfl
  · simp only [Bool.not_true, Bool.false_eq_true, if_false, reap_total, reap_pending,
      reap_active, reap_done]
    split
    · exact .inr (.inl ⟨by tauto, by tauto, by tauto, rfl⟩)
    · split
      · exact .inr (.inr (.inl ⟨‹_›, rfl⟩))
      · next hd => exact .inr (.inr (.inr ⟨by simpa using hd, rfl⟩))

end ctsSocketBroker

end CtsTraffic
