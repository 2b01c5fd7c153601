import CtsTraffic.Broker.Population

/-
  `ctsSocketState`, the per-connection state machine the broker creates, and the system of the
  broker together with its sockets. Modelled from the spec: `ctsSocketState.cpp` is not in the
  source, only its unit test, which drives it through the injected `CreateFunction`,
  `ConnectFunction` and `IoFunction` and stubs the broker's `InitiatingIo` and `Closing`.

  A socket goes `Creating → Connecting → InitiatingIo → Closing → Closed`. `Start` and every
  `CompleteState` schedule its threadpool worker. The worker invokes the injected function of
  the state it finds, telling the broker `InitiatingIo` first when that state is
  `InitiatingIo`; in `Closing` it tells the broker `Closing(was_active)`, and the socket then
  becomes `Closed`. Each injected function calls `CompleteState(error)` once: 0 advances to the
  next state, any other code jumps to `Closing`.

  A run of the system is the broker's constructor and `Start`, then any interleaving of timer
  ticks and of the sockets' steps: workers, `CompleteState` calls with any code, and the final
  stores of `Closed`. `phase` reads off what a socket has told the broker. Under it every step
  of the system is one step of `BrokerRun` or none (`SystemStep.abs`), so every run of the
  system is a run of the broker model (`socketSystem_refines_broker`). The contract the
  population model assumed of the sockets is thus a consequence of their state machine.
-/

namespace CtsTraffic

/-- Modelled from the spec: `ctsSocketState::InternalState`. `Connecting` runs the configured
    `ConnectFunction`, which on a server is the accept function. -/
inductive InternalState
  | Creating
  | Connecting
  | InitiatingIo
  | Closing
  | Closed
  deriving DecidableEq, Repr

/-- Modelled from the spec: a `ctsSocketState`. `scheduled` is whether its threadpool worker is
    submitted and has not run yet; `initiatedIo` whether it has told the broker `InitiatingIo`
    (the later `Closing`'s `was_active`); `lastError` the teardown reason. -/
structure ctsSocketState where
  state : InternalState
  scheduled : Bool
  initiatedIo : Bool
  lastError : Nat
  deriving DecidableEq, Repr

namespace ctsSocketState

/-- Modelled from the spec: a socket the broker has just made and started; `Start()`
    schedules the worker on `Creating`. -/
def init : ctsSocketState := ⟨.Creating, true, false, 0⟩

/-- The socket awaits its injected function's `CompleteState`: the worker has invoked it and
    no call has arrived since. -/
def Awaiting (s : ctsSocketState) : Prop :=
  s.scheduled = false ∧ (s.state = .Creating ∨ s.state = .Connecting ∨ s.state = .InitiatingIo)

/-- Modelled from the spec: `CompleteState(error)`. 0 advances to the next state, any other
    code jumps to `Closing` and is kept as the teardown reason; from `InitiatingIo` every code
    leads to `Closing`. The worker is scheduled again. `Closing` and `Closed` await no
    function; a call there is ignored. -/
def CompleteState (error : Nat) (s : ctsSocketState) : ctsSocketState :=
  match s.state with
  | .Creating =>
    if error = 0 then { s with state := .Connecting, scheduled := true }
    else { s with state := .Closing, scheduled := true, lastError := error }
  | .Connecting =>
    if error = 0 then { s with state := .InitiatingIo, scheduled := true }
    else { s with state := .Closing, scheduled := true, lastError := error }
  | .InitiatingIo => { s with state := .Closing, scheduled := true, lastError := error }
  | .Closing | .Closed => s

/-- Modelled from the spec: the threadpool worker, on the state it finds. In `Creating`,
    `Connecting` and `InitiatingIo` it invokes the state's injected function, telling the
    broker `InitiatingIo` before `IoFunction`; in `Closing` it runs the closing steps and
    tells the broker `Closing(was_active)`. A broker `FAIL_FAST` ends the process. -/
def ThreadPoolWorker (s : ctsSocketState) (b : ctsSocketBroker) :
    Except BrokerFailFast (ctsSocketState × ctsSocketBroker) :=
  match s.state with
  | .InitiatingIo =>
    b.InitiatingIo.map fun b => ({ s with scheduled := false, initiatedIo := true }, b)
  | .Closing => (b.Closing s.initiatedIo).map fun b => ({ s with scheduled := false }, b)
  | _ => .ok ({ s with scheduled := false }, b)

/-- What the socket has told the broker, as the population model records it. -/
def phase (s : ctsSocketState) : SocketPhase :=
  match s.state with
  | .Closed => .closed
  | .Closing => if s.scheduled then (if s.initiatedIo then .active else .pending) else .closing
  | _ => if s.initiatedIo then .active else .pending

/-- The flags each state allows: before `InitiatingIo` nothing reached the broker; in
    `InitiatingIo` the broker was told exactly when the worker has run; `Closed` has no worker
    left. -/
def Consistent (s : ctsSocketState) : Prop :=
  match s.state with
  | .Creating | .Connecting => s.initiatedIo = false
  | .InitiatingIo => s.initiatedIo = !s.scheduled
  | .Closing => True
  | .Closed => s.scheduled = false

theorem init_consistent : init.Consistent := rfl

@[simp] theorem init_phase : init.phase = .pending := rfl

theorem phase_eq_closed {s : ctsSocketState} : s.phase = .closed ↔ s.state = .Closed := by
  unfold phase
  cases s.state <;> simp only [reduceCtorEq] <;> split_ifs <;> simp

/-! ## One step of one socket -/

variable {s s' : ctsSocketState} {b b' : ctsSocketBroker}

/-- What the worker does: in `InitiatingIo` the broker's `InitiatingIo` passes and the socket
    moves from pending to active; in `Closing` the broker's `Closing(was_active)` passes and
    the socket's `Closing` reaches it; elsewhere nothing reaches the broker. -/
theorem ThreadPoolWorker_cases (h : s.ThreadPoolWorker b = .ok (s', b')) :
    (s.state = .InitiatingIo ∧ b.InitiatingIo = .ok b' ∧
      s' = { s with scheduled := false, initiatedIo := true }) ∨
    (s.state = .Closing ∧ b.Closing s.initiatedIo = .ok b' ∧ s' = { s with scheduled := false }) ∨
    (s.state ≠ .InitiatingIo ∧ s.state ≠ .Closing ∧ b' = b ∧ s' = { s with scheduled := false }) := by
  unfold ThreadPoolWorker at h
  split at h
  · next hst =>
    cases hb : b.InitiatingIo <;> rw [hb] at h <;> cases h
    exact .inl ⟨hst, rfl, rfl⟩
  · next hst =>
    cases hb : b.Closing s.initiatedIo <;> rw [hb] at h <;> cases h
    exact .inr (.inl ⟨hst, rfl, rfl⟩)
  · next h1 h2 =>
    cases h
    exact .inr (.inr ⟨h1, h2, rfl, rfl⟩)

theorem ThreadPoolWorker_consistent (hc : s.Consistent) (hs : s.scheduled = true)
    (h : s.ThreadPoolWorker b = .ok (s', b')) : s'.Consistent := by
  rcases ThreadPoolWorker_cases h with ⟨hst, -, rfl⟩ | ⟨hst, -, rfl⟩ | ⟨h1, h2, -, rfl⟩
  · simp [Consistent, hst]
  · simp [Consistent, hst]
  · unfold Consistent at hc ⊢
    cases hst : s.state <;> simp_all

theorem CompleteState_consistent (hc : s.Consistent) (error : Nat) :
    (s.CompleteState error).Consistent := by
  unfold CompleteState
  unfold Consistent at hc
  cases hst : s.state <;> simp only [hst] at hc ⊢ <;> try split_ifs
  all_goals simp [Consistent, hc, hst]

theorem phase_unschedule (h : s.state ≠ .Closing) :
    { s with scheduled := false }.phase = s.phase := by
  unfold phase
  dsimp only
  cases hst : s.state <;> first | rfl | exact absurd hst h

/-- The worker's effect on what the broker has been told: `InitiatingIo` takes a pending socket
    to active, `Closing(was_active)` takes a pending or active socket to closing, and otherwise
    neither the broker nor the phase changes. -/
theorem ThreadPoolWorker_phase (hc : s.Consistent) (hs : s.scheduled = true)
    (h : s.ThreadPoolWorker b = .ok (s', b')) :
    (s.phase = .pending ∧ b.InitiatingIo = .ok b' ∧ s'.phase = .active) ∨
    ((s.phase = .pending ∨ s.phase = .active) ∧ b.Closing (s.phase == .active) = .ok b' ∧
      s'.phase = .closing) ∨
    (b' = b ∧ s'.phase = s.phase) := by
  rcases ThreadPoolWorker_cases h with ⟨hst, hb, rfl⟩ | ⟨hst, hb, rfl⟩ | ⟨-, h2, rfl, rfl⟩
  · simp only [Consistent, hst, hs, Bool.not_true] at hc
    exact .inl ⟨by simp [phase, hst, hc], hb, by simp [phase, hst]⟩
  · have hp : s.phase = if s.initiatedIo then .active else .pending := by simp [phase, hst, hs]
    have hp' : { s with scheduled := false }.phase = .closing := by simp [phase, hst]
    rw [hp', hp]
    cases hI : s.initiatedIo <;> rw [hI] at hb
    · exact .inr (.inl ⟨.inl rfl, hb, rfl⟩)
    · exact .inr (.inl ⟨.inr rfl, hb, rfl⟩)
  · exact .inr (.inr ⟨rfl, phase_unschedule h2⟩)

/-- `CompleteState` tells the broker nothing: an awaited call keeps the socket's phase. -/
theorem CompleteState_phase (hc : s.Consistent) (ha : s.Awaiting) (error : Nat) :
    (s.CompleteState error).phase = s.phase := by
  obtain ⟨hs, hst | hst | hst⟩ := ha <;> simp only [Consistent, hst] at hc <;>
    simp only [CompleteState, hst] <;> try split_ifs
  all_goals simp [phase, hst, hs, hc]

end ctsSocketState

/-! ## The broker with its sockets -/

/-- The broker and every `ctsSocketState` it has created, by id. -/
structure SocketSystem where
  broker : ctsSocketBroker
  sockets : List ctsSocketState
  deriving DecidableEq, Repr

namespace SocketSystem

/-- The broker's view: each socket replaced by what it has told the broker. -/
def abs (r : SocketSystem) : BrokerRun := ⟨r.broker, r.sockets.map ctsSocketState.phase⟩

/-- `GetCurrentState() == Closed` for the socket `id`. -/
def isClosed (r : SocketSystem) (id : Nat) : Bool :=
  r.sockets[id]?.map ctsSocketState.state == some .Closed

/-- The system after a call that left the broker `b`: one new started socket for each
    connection taken from the remaining total. -/
def withBroker (r : SocketSystem) (b : ctsSocketBroker) : SocketSystem :=
  ⟨b, r.sockets ++ List.replicate
    (r.broker.m_totalConnectionsRemaining - b.m_totalConnectionsRemaining) ctsSocketState.init⟩

/-- The constructor, then `Start`. -/
def start (cfg : BrokerSettings) : SocketSystem :=
  (⟨ctsSocketBroker.new cfg, []⟩ : SocketSystem).withBroker
    ((ctsSocketBroker.new cfg).Start cfg 0)

/-- A tick of `TimerCallback`. -/
def timerCallback (cfg : BrokerSettings) (lockAcquired : Bool) (allocs : Nat)
    (r : SocketSystem) : SocketSystem :=
  r.withBroker (r.broker.TimerCallback cfg lockAcquired r.isClosed allocs r.sockets.length)

theorem abs_withBroker (r : SocketSystem) (b : ctsSocketBroker) :
    (r.withBroker b).abs = r.abs.withBroker b := by
  simp [abs, withBroker, BrokerRun.withBroker, List.map_replicate]

theorem abs_isClosed (r : SocketSystem) : r.abs.isClosed = r.isClosed := by
  funext id
  simp only [abs, BrokerRun.isClosed, isClosed, List.getElem?_map]
  cases r.sockets[id]? <;> simp [ctsSocketState.phase_eq_closed]

theorem abs_start (cfg : BrokerSettings) : (start cfg).abs = BrokerRun.start cfg := by
  rw [start, abs_withBroker]; rfl

theorem abs_timerCallback (cfg : BrokerSettings) (lockAcquired : Bool) (allocs : Nat)
    (r : SocketSystem) :
    (r.timerCallback cfg lockAcquired allocs).abs = r.abs.timerCallback cfg lockAcquired allocs := by
  rw [timerCallback, abs_withBroker, BrokerRun.timerCallback, ← abs_isClosed]
  simp [abs]

end SocketSystem

/-- One step of the system: a tick under the broker lock, or one step of one socket. -/
inductive SystemStep (cfg : BrokerSettings) : SocketSystem → SocketSystem → Prop
  | timerCallback (r : SocketSystem) (lockAcquired : Bool) (allocs : Nat) :
      SystemStep cfg r (r.timerCallback cfg lockAcquired allocs)
  | worker {r : SocketSystem} {s s' : ctsSocketState} {b' : ctsSocketBroker} (i : Nat)
      (hi : r.sockets[i]? = some s) (hs : s.scheduled = true)
      (h : s.ThreadPoolWorker r.broker = .ok (s', b')) :
      SystemStep cfg r ⟨b', r.sockets.set i s'⟩
  | completeState {r : SocketSystem} {s : ctsSocketState} (i error : Nat)
      (hi : r.sockets[i]? = some s) (ha : s.Awaiting) :
      SystemStep cfg r ⟨r.broker, r.sockets.set i (s.CompleteState error)⟩
  | closed {r : SocketSystem} {s : ctsSocketState} (i : Nat) (hi : r.sockets[i]? = some s)
      (hst : s.state = .Closing) (hs : s.scheduled = false) :
      SystemStep cfg r ⟨r.broker, r.sockets.set i { s with state := .Closed }⟩

/-- The runs of the system: `Start` once, first, then any sequence of steps. -/
inductive SystemReachable (cfg : BrokerSettings) : SocketSystem → Prop
  | start : SystemReachable cfg (SocketSystem.start cfg)
  | step {r r' : SocketSystem} : SystemReachable cfg r → SystemStep cfg r r' →
      SystemReachable cfg r'

namespace SystemStep

open ctsSocketState

variable {cfg : BrokerSettings} {r r' : SocketSystem}

theorem abs_getElem? {i : Nat} {s : ctsSocketState} (hi : r.sockets[i]? = some s) :
    r.abs.sockets[i]? = some s.phase := by
  simp only [SocketSystem.abs, List.getElem?_map, hi, Option.map_some']

theorem abs_set (i : Nat) (s : ctsSocketState) (b : ctsSocketBroker) :
    (⟨b, r.sockets.set i s⟩ : SocketSystem).abs = ⟨b, r.abs.sockets.set i s.phase⟩ := by
  simp only [SocketSystem.abs, List.map_set]

/-- Every step of the system is a step of the broker model or leaves the broker's view
    unchanged. -/
theorem abs (hs : SystemStep cfg r r') (hc : ∀ s ∈ r.sockets, s.Consistent) :
    r'.abs = r.abs ∨ BrokerStep cfg r.abs r'.abs := by
  cases hs with
  | timerCallback lockAcquired allocs =>
    exact .inr (SocketSystem.abs_timerCallback .. ▸ .timerCallback _ lockAcquired allocs)
  | @worker s s' b' i hi hsch h =>
    have hi' := abs_getElem? hi
    rw [abs_set]
    rcases ThreadPoolWorker_phase (hc s (List.getElem?_mem hi)) hsch h with
      ⟨hp, hb, hp'⟩ | ⟨hp, hb, hp'⟩ | ⟨rfl, hp'⟩ <;> rw [hp']
    · exact .inr (.initiatingIo i (hp ▸ hi') hb)
    · exact .inr (.closing i _ hi' hp hb)
    · exact .inl (congrArg _ (set_self_of_getElem? hi'))
  | @completeState s i error hi ha =>
    rw [abs_set, CompleteState_phase (hc s (List.getElem?_mem hi)) ha error]
    exact .inl (congrArg _ (set_self_of_getElem? (abs_getElem? hi)))
  | @closed s i hi hst hsch =>
    have hp : s.phase = .closing := by simp [phase, hst, hsch]
    rw [abs_set]
    exact .inr (.closed i (hp ▸ abs_getElem? hi))

theorem consistent (hs : SystemStep cfg r r') (hc : ∀ s ∈ r.sockets, s.Consistent) :
    ∀ s ∈ r'.sockets, s.Consistent := by
  cases hs with
  | timerCallback lockAcquired allocs =>
    simp only [SocketSystem.timerCallback, SocketSystem.withBroker, List.mem_append,
      List.mem_replicate]
    rintro s (hs | ⟨-, rfl⟩)
    · exact hc s hs
    · exact init_consistent
  | @worker s s' b' i hi hsch h =>
    exact fun x hx => (List.mem_or_eq_of_mem_set hx).elim (hc x)
      (· ▸ ThreadPoolWorker_consistent (hc s (List.getElem?_mem hi)) hsch h)
  | @completeState s i error hi ha =>
    exact fun x hx => (List.mem_or_eq_of_mem_set hx).elim (hc x)
      (· ▸ CompleteState_consistent (hc s (List.getElem?_mem hi)) error)
  | @closed s i hi hst hsch =>
    exact fun x hx => (List.mem_or_eq_of_mem_set hx).elim (hc x)
      (· ▸ by simp [Consistent, hsch])

end SystemStep

theorem SystemReachable.abs {cfg : BrokerSettings} {r : SocketSystem}
    (hr : SystemReachable cfg r) :
    BrokerReachable cfg r.abs ∧ ∀ s ∈ r.sockets, s.Consistent := by
  induction hr with
  | start =>
    refine ⟨SocketSystem.abs_start cfg ▸ .start, ?_⟩
    simp only [SocketSystem.start, SocketSystem.withBroker, List.nil_append, List.mem_replicate]
    rintro s ⟨-, rfl⟩
    exact ctsSocketState.init_consistent
  | step _ hs ih =>
    refine ⟨?_, hs.consistent ih.2⟩
    rcases hs.abs ih.2 with he | hb
    · exact he ▸ ih.1
    · exact ih.1.step hb

/-- Every run of the broker with its `ctsSocketState`s (any settings, any number of sockets,
    any codes passed to `CompleteState`, any interleaving with the timer) is a run of the
    broker model. No worker ever reaches a broker `FAIL_FAST`; the broker's pending and active
    counters count the sockets that have told it nothing yet and those that have told it
    `InitiatingIo` but not `Closing`; and no socket leaves the broker's pool before it is
    `Closed`. -/
theorem socketSystem_refines_broker (cfg : BrokerSettings) (r : SocketSystem)
    (hr : SystemReachable cfg r) :
    BrokerReachable cfg r.abs ∧
    (∀ (i : Nat) (s : ctsSocketState), r.sockets[i]? = some s → s.scheduled = true →
      ∃ s' b', s.ThreadPoolWorker r.broker = .ok (s', b')) ∧
    r.broker.m_pendingSockets = (r.sockets.map ctsSocketState.phase).count .pending ∧
    r.broker.m_activeSockets = (r.sockets.map ctsSocketState.phase).count .active ∧
    (∀ (i : Nat) (s : ctsSocketState), r.sockets[i]? = some s → s.state ≠ .Closed →
      i ∈ r.broker.m_socketPool) := by
  obtain ⟨hb, hc⟩ := hr.abs
  have h := BrokerInv.reachable hb
  have hpend : r.broker.m_pendingSockets = (r.sockets.map ctsSocketState.phase).count .pending :=
    h.pending
  have hact : r.broker.m_activeSockets = (r.sockets.map ctsSocketState.phase).count .active :=
    h.active
  refine ⟨hb, fun i s hi hs => ?_, hpend, hact, fun i s hi hs => h.pool i s.phase
    (by simp [SocketSystem.abs, hi]) (mt ctsSocketState.phase_eq_closed.1 hs)⟩
  have hpos : 0 < (r.sockets.map ctsSocketState.phase).count s.phase :=
    List.count_pos_iff.2 (List.mem_map_of_mem _ (List.getElem?_mem hi))
  have hcs := hc s (List.getElem?_mem hi)
  unfold ctsSocketState.ThreadPoolWorker
  split
  · next hst =>
    simp only [ctsSocketState.Consistent, hst, hs, Bool.not_true] at hcs
    have hp : s.phase = .pending := by simp [ctsSocketState.phase, hst, hcs]
    obtain ⟨b', hb'⟩ := ctsSocketBroker.InitiatingIo_ok_of_pos (hpend ▸ hp ▸ hpos)
    exact ⟨_, _, by rw [hb']; rfl⟩
  · next hst =>
    have hp : s.phase = if s.initiatedIo then .active else .pending := by
      simp [ctsSocketState.phase, hst, hs]
    obtain ⟨b', hb'⟩ := @ctsSocketBroker.Closing_ok_of_pos r.broker s.initiatedIo (by
        rw [hp] at hpos
        cases hI : s.initiatedIo <;>
          simp only [hI, Bool.false_eq_true, if_true, if_false] at hpos ⊢
        · exact hpend ▸ hpos
        · exact hact ▸ hpos)
    exact ⟨_, _, by rw [hb']; rfl⟩
  · exact ⟨_, _, rfl⟩

/-- A run of `throttledClient`'s first socket through its whole life, with ticks between:
    it is created, connects, tells the broker `InitiatingIo`, a tick creates the second
    socket, its IO completes, it tells the broker `Closing`, becomes `Closed` and is reaped. -/
theorem socketSystem_refines_broker_afterReap :
    ∃ r, SystemReachable throttledClient r ∧
      r.sockets.map ctsSocketState.state = [.Closed, .Creating] ∧ r.broker.m_socketPool = [1] ∧
      BrokerReachable throttledClient r.abs ∧
      r.broker.m_pendingSockets = (r.sockets.map ctsSocketState.phase).count .pending := by
  have hr : SystemReachable throttledClient _ :=
    ((((((((((@SystemReachable.start throttledClient).step (.worker 0 rfl rfl rfl)).step
      (.completeState 0 0 rfl ⟨rfl, .inl rfl⟩)).step (.worker 0 rfl rfl rfl)).step
      (.completeState 0 0 rfl ⟨rfl, .inr (.inl rfl)⟩)).step (.worker 0 rfl rfl rfl)).step
      (.timerCallback _ true 2)).step (.completeState 0 0 rfl ⟨rfl, .inr (.inr rfl)⟩)).step
      (.worker 0 rfl rfl rfl)).step (.closed 0 rfl rfl rfl)).step (.timerCallback _ true 2)
  obtain ⟨h₁, -, h₃, -⟩ := socketSystem_refines_broker _ _ hr
  exact ⟨_, hr, rfl, rfl, h₁, h₃⟩

end CtsTraffic
