import CtsTraffic.Broker.SocketBroker

/-
  The broker together with the `ctsSocketState`s it creates. A socket reaches the broker only
  through its notifications: `InitiatingIo` at most once, then `Closing(wasActive)` at most
  once, with `wasActive` true iff it sent `InitiatingIo`; after `Closing` its state becomes
  `Closed` (`SocketPhase`). A run is the constructor and `Start`, then any interleaving, each
  call under the broker lock, of timer ticks (the lock taken or not, any number of
  allocations succeeding) and of the notifications that contract allows. A notification
  whose `FAIL_FAST` fires has no successor.

  Invariant (`BrokerInv`): the pending and active counters count the sockets in those
  phases, each created socket was taken from the initial total, the caps hold, the done
  event is set only with all three counters at zero, and the pool keeps every socket that is
  not yet `Closed`. Hence no `FAIL_FAST` of the broker is reachable, and once the done event
  is set no socket is ever created.
-/

namespace CtsTraffic

open ctsSocketBroker

/-- What a socket created by the broker has told it: nothing yet, `InitiatingIo`, `Closing`;
    `closed` is `GetCurrentState() == Closed`, which follows `Closing`. -/
inductive SocketPhase
  | pending
  | active
  | closing
  | closed
  deriving DecidableEq, Repr

/-- The broker and the phase of every socket it has created, by id. -/
structure BrokerRun where
  broker : ctsSocketBroker
  sockets : List SocketPhase
  deriving DecidableEq, Repr

namespace BrokerRun

/-- `GetCurrentState() == Closed` for the socket `id`. -/
def isClosed (r : BrokerRun) (id : Nat) : Bool := r.sockets[id]? == some .closed

/-- The number of `Closing` notifications so far. -/
def closings (r : BrokerRun) : Nat := r.sockets.count .closing + r.sockets.count .closed

/-- The run after a call that left the broker `b`: one new pending socket for each
    connection taken from the remaining total. -/
def withBroker (r : BrokerRun) (b : ctsSocketBroker) : BrokerRun :=
  ⟨b, r.sockets ++ List.replicate
    (r.broker.m_totalConnectionsRemaining - b.m_totalConnectionsRemaining) .pending⟩

/-- The constructor, then `Start`. -/
def start (cfg : BrokerSettings) : BrokerRun :=
  (⟨new cfg, []⟩ : BrokerRun).withBroker ((new cfg).Start cfg 0)

/-- A tick of `TimerCallback`. -/
def timerCallback (cfg : BrokerSettings) (lockAcquired : Bool) (allocs : Nat)
    (r : BrokerRun) : BrokerRun :=
  r.withBroker (r.broker.TimerCallback cfg lockAcquired r.isClosed allocs r.sockets.length)

@[simp] theorem withBroker_broker {r : BrokerRun} {b : ctsSocketBroker} :
    (r.withBroker b).broker = b := rfl

theorem withBroker_of_total {r : BrokerRun} {b : ctsSocketBroker}
    (h : b.m_totalConnectionsRemaining = r.broker.m_totalConnectionsRemaining) :
    r.withBroker b = ⟨b, r.sockets⟩ := by
  simp [withBroker, h]

theorem withBroker_length {r : BrokerRun} {b : ctsSocketBroker} :
    (r.withBroker b).sockets.length = r.sockets.length +
      (r.broker.m_totalConnectionsRemaining - b.m_totalConnectionsRemaining) := by
  simp [withBroker]

end BrokerRun

/-- One call under the broker lock. -/
inductive BrokerStep (cfg : BrokerSettings) : BrokerRun → BrokerRun → Prop
  | timerCallback (r : BrokerRun) (lockAcquired : Bool) (allocs : Nat) :
      BrokerStep cfg r (r.timerCallback cfg lockAcquired allocs)
  | initiatingIo {r : BrokerRun} {b' : ctsSocketBroker} (i : Nat)
      (hi : r.sockets[i]? = some .pending) (h : r.broker.InitiatingIo = .ok b') :
      BrokerStep cfg r ⟨b', r.sockets.set i .active⟩
  | closing {r : BrokerRun} {b' : ctsSocketBroker} (i : Nat) (p : SocketPhase)
      (hi : r.sockets[i]? = some p) (hp : p = .pending ∨ p = .active)
      (h : r.broker.Closing (p == .active) = .ok b') :
      BrokerStep cfg r ⟨b', r.sockets.set i .closing⟩
  | closed {r : BrokerRun} (i : Nat) (hi : r.sockets[i]? = some .closing) :
      BrokerStep cfg r ⟨r.broker, r.sockets.set i .closed⟩

/-- The runs: `Start` once, first, then any sequence of calls. -/
inductive BrokerReachable (cfg : BrokerSettings) : BrokerRun → Prop
  | start : BrokerReachable cfg (BrokerRun.start cfg)
  | step {r r' : BrokerRun} : BrokerReachable cfg r → BrokerStep cfg r r' →
      BrokerReachable cfg r'

/-! ## The caps and the creation loop -/

/-- The caps on the counters: the pending limit, and for a client `ConnectionLimit` and
    `ConnectionThrottleLimit`. -/
def BrokerCaps (cfg : BrokerSettings) (b : ctsSocketBroker) : Prop :=
  b.m_pendingSockets ≤ b.m_pendingLimit ∧
    (cfg.AcceptFunction = false →
      b.m_pendingSockets + b.m_activeSockets ≤ cfg.ConnectionLimit.toNat ∧
        b.m_pendingSockets ≤ cfg.ConnectionThrottleLimit.toNat)

namespace ctsSocketBroker

variable {cfg : BrokerSettings} {b : ctsSocketBroker}

theorem new_limit_le (h : cfg.AcceptFunction = false) :
    (new cfg).m_pendingLimit ≤ cfg.ConnectionLimit.toNat := by
  simp only [new, h, Bool.false_eq_true, if_false]
  split_ifs <;> omega

theorem addSocket_caps {id : Nat} (hc : b.canCreate (timerThrottled cfg) = true) :
    BrokerCaps cfg (b.addSocket id) := by
  obtain ⟨hlt, -, hth⟩ := canCreate_iff.1 hc
  refine ⟨by simp; omega, fun hA => ?_⟩
  simp only [timerThrottled, hA, Bool.not_false, Bool.true_and, Bool.or_eq_false_iff,
    decide_eq_false_iff_not, Nat.not_le] at hth
  simp only [addSocket_pending, addSocket_active]
  omega

theorem createSockets_caps (n next : Nat) (h : BrokerCaps cfg b) :
    BrokerCaps cfg (createSockets (timerThrottled cfg) n next b) :=
  createSockets_induct _ (fun _ _ hc _ => addSocket_caps hc) n next b h

/-- Two creation loops whose `break`s agree wherever the loop can still create agree. -/
theorem createSockets_congr {th th' : ctsSocketBroker → Bool} (P : ctsSocketBroker → Prop)
    (hth : ∀ b, P b → b.m_pendingSockets < b.m_pendingLimit → th b = th' b)
    (step : ∀ b id, b.canCreate th = true → P b → P (b.addSocket id)) :
    ∀ n next b, P b → createSockets th n next b = createSockets th' n next b
  | 0, _, _, _ => rfl
  | n + 1, next, b, h => by
    have hc : b.canCreate th = b.canCreate th' := by
      by_cases hp : b.m_pendingSockets < b.m_pendingLimit
      · simp [canCreate, hth b h hp]
      · simp [canCreate, hp]
    simp only [createSockets, ← hc]
    split
    · exact createSockets_congr P hth step n (next + 1) _ (step b next ‹_› h)
    · rfl

/-- `Start`'s loop lacks the tick's `ConnectionLimit` check. On the fresh broker it never
    fires (nothing is active and the pending limit is at most `ConnectionLimit`), so `Start`
    creates exactly what a tick's loop would. -/
theorem Start_eq_timer_loop (cfg : BrokerSettings) (next : Nat) :
    (new cfg).Start cfg next =
      createSockets (timerThrottled cfg) (new cfg).m_totalConnectionsRemaining next (new cfg) := by
  refine createSockets_congr
    (fun b => b.m_activeSockets = 0 ∧ b.m_pendingLimit = (new cfg).m_pendingLimit)
    ?_ (fun b id _ h => h) _ _ _ ⟨rfl, rfl⟩
  rintro b ⟨ha, hl⟩ hp
  cases hA : cfg.AcceptFunction
  · have hlt : ¬ cfg.ConnectionLimit.toNat ≤ b.m_pendingSockets + b.m_activeSockets := by
      have := new_limit_le hA
      omega
    simp [startThrottled, timerThrottled, hA, hlt]
  · simp [startThrottled, timerThrottled, hA]

end ctsSocketBroker

/-! ## The invariant -/

theorem count_set_of_getElem? {l : List SocketPhase} {i : Nat} {p q x : SocketPhase}
    (h : l[i]? = some p) :
    (l.set i q).count x + (if p = x then 1 else 0) = l.count x + (if q = x then 1 else 0) := by
  obtain ⟨hi, rfl⟩ := List.getElem?_eq_some_iff.1 h
  rw [List.count_set _ _ _ _ hi]
  by_cases hx : l[i] = x
  · have : 0 < l.count x := List.count_pos_iff.2 (hx ▸ List.getElem_mem hi)
    by_cases hq : q = x <;> simp only [hx, hq, beq_self_eq_true, beq_iff_eq, ↓reduceIte] <;> omega
  · by_cases hq : q = x <;>
      simp only [hx, hq, beq_self_eq_true, beq_iff_eq, ↓reduceIte, tsub_zero, add_zero]

theorem length_eq_counts (l : List SocketPhase) :
    l.length = l.count .pending + l.count .active + l.count .closing + l.count .closed := by
  induction l with
  | nil => rfl
  | cons a l ih =>
    cases a <;> simp only [List.length_cons, ih, List.count_cons_self, ne_eq, reduceCtorEq,
      not_false_eq_true, List.count_cons_of_ne] <;> omega

theorem mem_pool_set {l : List SocketPhase} {pool : List Nat}
    (hpool : ∀ j p, l[j]? = some p → p ≠ .closed → j ∈ pool) {i : Nat} {p q : SocketPhase}
    (hi : l[i]? = some p) (hp : p ≠ .closed) :
    ∀ j p', (l.set i q)[j]? = some p' → p' ≠ .closed → j ∈ pool := by
  intro j p' hj hp'
  rw [List.getElem?_set] at hj
  split_ifs at hj with hij
  · exact hij ▸ hpool i p hi hp
  · exact hpool j p' hj hp'

/-- The broker's invariant along a run. -/
structure BrokerInv (cfg : BrokerSettings) (r : BrokerRun) : Prop where
  total : r.broker.m_totalConnectionsRemaining + r.sockets.length =
    (new cfg).m_totalConnectionsRemaining
  limit : r.broker.m_pendingLimit = (new cfg).m_pendingLimit
  pending : r.broker.m_pendingSockets = r.sockets.count .pending
  active : r.broker.m_activeSockets = r.sockets.count .active
  caps : BrokerCaps cfg r.broker
  done : r.broker.m_doneEvent = true → r.broker.m_totalConnectionsRemaining = 0 ∧
    r.broker.m_pendingSockets = 0 ∧ r.broker.m_activeSockets = 0
  pool : ∀ i p, r.sockets[i]? = some p → p ≠ .closed → i ∈ r.broker.m_socketPool

namespace BrokerInv

variable {cfg : BrokerSettings} {r : BrokerRun}

/-- The creation loop keeps the invariant, run from a broker that has `r`'s remaining total
    and satisfies the invariant over `r`'s sockets. -/
theorem refill {b : ctsSocketBroker} (h : BrokerInv cfg ⟨b, r.sockets⟩)
    (htot : b.m_totalConnectionsRemaining = r.broker.m_totalConnectionsRemaining) (n : Nat) :
    BrokerInv cfg (r.withBroker (createSockets (timerThrottled cfg) n r.sockets.length b)) := by
  have hcaps := createSockets_caps n r.sockets.length h.caps
  obtain ⟨k, hk, he⟩ := createSockets_eq (timerThrottled cfg) n r.sockets.length b
  rw [he] at hcaps ⊢
  obtain ⟨ht, hl, hp, ha, -, hd, hpool⟩ := h
  have hrep : r.broker.m_totalConnectionsRemaining - (b.m_totalConnectionsRemaining - k) = k := by
    omega
  refine ⟨?_, hl, ?_, ?_, hcaps, ?_, ?_⟩ <;> simp only [BrokerRun.withBroker, hrep] at *
  · simp only [List.length_append, List.length_replicate]
    omega
  · simp [List.count_append, hp]
  · simp [List.count_append, List.count_replicate, ha]
  · intro hdn
    obtain ⟨h0, h1, h2⟩ := hd hdn
    omega
  · intro i p hi hpc
    rcases Nat.lt_or_ge i r.sockets.length with hlt | hge
    · rw [List.getElem?_append_left hlt] at hi
      exact List.mem_append_left _ (hpool i p hi hpc)
    · have := (List.getElem?_eq_some_iff.1 hi).1
      simp only [List.length_append, List.length_replicate] at this
      exact List.mem_append_right _ (List.mem_range'_1.2 ⟨hge, by omega⟩)

theorem start (cfg : BrokerSettings) : BrokerInv cfg (BrokerRun.start cfg) := by
  unfold BrokerRun.start
  rw [Start_eq_timer_loop]
  have h0 : BrokerInv cfg ⟨new cfg, []⟩ :=
    ⟨rfl, rfl, rfl, rfl, ⟨Nat.zero_le _, fun _ => ⟨Nat.zero_le _, Nat.zero_le _⟩⟩,
      by simp [new], by simp⟩
  exact refill h0 rfl _

theorem of_total {b : ctsSocketBroker} (h : BrokerInv cfg ⟨b, r.sockets⟩)
    (ht : b.m_totalConnectionsRemaining = r.broker.m_totalConnectionsRemaining) :
    BrokerInv cfg (r.withBroker b) := by
  rw [BrokerRun.withBroker_of_total ht]
  exact h

theorem reap (h : BrokerInv cfg r) : BrokerInv cfg ⟨r.broker.reap r.isClosed, r.sockets⟩ :=
  { h with
    pool := fun i p hi hp => by
      simp only [reap_pool, List.mem_filter, BrokerRun.isClosed, hi]
      exact ⟨h.pool i p hi hp, by simpa using hp⟩ }

theorem timerCallback (h : BrokerInv cfg r) (lockAcquired : Bool) (allocs : Nat) :
    BrokerInv cfg (r.timerCallback cfg lockAcquired allocs) := by
  unfold BrokerRun.timerCallback
  rcases TimerCallback_cases cfg lockAcquired r.isClosed allocs r.sockets.length r.broker with
    he | ⟨h0, h1, h2, he⟩ | ⟨-, he⟩ | ⟨-, he⟩ <;> rw [he]
  · exact of_total h rfl
  · exact of_total { h.reap with done := fun _ => ⟨h0, h1, h2⟩ } rfl
  · exact of_total h.reap rfl
  · exact refill h.reap rfl allocs

theorem initiatingIo (h : BrokerInv cfg r) {i : Nat} {b' : ctsSocketBroker}
    (hi : r.sockets[i]? = some .pending) (hb : r.broker.InitiatingIo = .ok b') :
    BrokerInv cfg ⟨b', r.sockets.set i .active⟩ := by
  obtain ⟨hpos, rfl⟩ := InitiatingIo_eq_ok hb
  have cp := count_set_of_getElem? (q := .active) (x := .pending) hi
  have ca := count_set_of_getElem? (q := .active) (x := .active) hi
  obtain ⟨ht, hl, hp, ha, ⟨hc1, hc2⟩, hd, hpool⟩ := h
  simp only [if_true, reduceCtorEq, if_false] at cp ca
  refine ⟨by simpa only [List.length_set] using ht, hl, by dsimp only; omega, by dsimp only; omega,
    ⟨by dsimp only; omega, fun hA => by have := hc2 hA; dsimp only at this ⊢; omega⟩,
    fun hdn => by have := hd hdn; omega, mem_pool_set hpool hi (by simp)⟩

theorem closing (h : BrokerInv cfg r) {i : Nat} {p : SocketPhase} {b' : ctsSocketBroker}
    (hi : r.sockets[i]? = some p) (hp : p = .pending ∨ p = .active)
    (hb : r.broker.Closing (p == .active) = .ok b') :
    BrokerInv cfg ⟨b', r.sockets.set i .closing⟩ := by
  have cp := count_set_of_getElem? (q := .closing) (x := .pending) hi
  have ca := count_set_of_getElem? (q := .closing) (x := .active) hi
  have hpool := mem_pool_set (q := .closing) h.pool hi (by rcases hp with rfl | rfl <;> simp)
  obtain ⟨ht, hl, hpe, ha, ⟨hc1, hc2⟩, hd, -⟩ := h
  rcases Closing_eq_ok hb with ⟨hw, hpos, rfl⟩ | ⟨hw, hpos, rfl⟩ <;> obtain rfl | rfl := hp <;>
    simp only [beq_iff_eq, reduceCtorEq, beq_self_eq_true, Bool.true_eq_false, if_true,
      if_false] at hw cp ca <;>
    exact ⟨by simpa only [List.length_set] using ht, hl, by dsimp only; omega, by dsimp only; omega,
      ⟨by dsimp only; omega, fun hA => by have := hc2 hA; dsimp only at this ⊢; omega⟩,
      fun hdn => by have := hd hdn; omega, hpool⟩

theorem closed (h : BrokerInv cfg r) {i : Nat} (hi : r.sockets[i]? = some .closing) :
    BrokerInv cfg ⟨r.broker, r.sockets.set i .closed⟩ := by
  have cp := count_set_of_getElem? (q := .closed) (x := .pending) hi
  have ca := count_set_of_getElem? (q := .closed) (x := .active) hi
  simp only [reduceCtorEq, if_false] at cp ca
  exact { h with
    total := by simpa using h.total
    pending := by simp only [h.pending]; omega
    active := by simp only [h.active]; omega
    pool := mem_pool_set h.pool hi (by simp) }

theorem step (h : BrokerInv cfg r) {r' : BrokerRun} (hs : BrokerStep cfg r r') :
    BrokerInv cfg r' := by
  cases hs with
  | timerCallback lockAcquired allocs => exact h.timerCallback lockAcquired allocs
  | initiatingIo i hi hb => exact h.initiatingIo hi hb
  | closing i p hi hp hb => exact h.closing hi hp hb
  | closed i hi => exact h.closed hi

theorem reachable (hr : BrokerReachable cfg r) : BrokerInv cfg r := by
  induction hr with
  | start => exact start cfg
  | step _ hs ih => exact ih.step hs

end BrokerInv

/-! ## The broker's laws -/

/-- Once the done event is set it stays set, and no call creates a socket. -/
theorem BrokerStep.of_done {cfg : BrokerSettings} {r r' : BrokerRun} (hs : BrokerStep cfg r r')
    (h : BrokerInv cfg r) (hd : r.broker.m_doneEvent = true) :
    r'.broker.m_doneEvent = true ∧ r'.sockets.length = r.sockets.length := by
  obtain ⟨h0, h1, h2⟩ := h.done hd
  cases hs with
  | timerCallback lockAcquired allocs =>
    refine ⟨?_, by simp [BrokerRun.timerCallback, BrokerRun.withBroker_length, h0]⟩
    simp only [BrokerRun.timerCallback, BrokerRun.withBroker_broker]
    rcases TimerCallback_cases cfg lockAcquired r.isClosed allocs r.sockets.length r.broker with
      he | ⟨-, -, -, he⟩ | ⟨-, he⟩ | ⟨hd', -⟩
    · rw [he]; exact hd
    · rw [he]
    · rw [he]; exact hd
    · simp [hd] at hd'
  | initiatingIo i hi hb => exact absurd (InitiatingIo_eq_ok hb).1 (by omega)
  | closing i p hi hp hb => rcases Closing_eq_ok hb with ⟨-, hpos, -⟩ | ⟨-, hpos, -⟩ <;> omega
  | closed i hi => exact ⟨hd, List.length_set ..⟩

theorem BrokerReachable.of_done {cfg : BrokerSettings} {r r' : BrokerRun}
    (hr : BrokerReachable cfg r) (hd : r.broker.m_doneEvent = true)
    (hs : Relation.ReflTransGen (BrokerStep cfg) r r') :
    BrokerReachable cfg r' ∧ r'.broker.m_doneEvent = true ∧ r'.sockets.length = r.sockets.length := by
  induction hs with
  | refl => exact ⟨hr, hd, rfl⟩
  | tail _ hs ih =>
    obtain ⟨hr', hd', hl⟩ := ih
    obtain ⟨hd'', hl'⟩ := hs.of_done (BrokerInv.reachable hr') hd'
    exact ⟨hr'.step hs, hd'', hl'.trans hl⟩

/-- Over every run of the broker, every notification the sockets' contract allows passes its
    `FAIL_FAST` check; the counters account for every connection of the initial total and
    count the sockets in their phases; the caps hold; and the done event is set only with
    all three counters at zero, after which no socket is created. -/
theorem socketBroker_accounting (cfg : BrokerSettings) (r : BrokerRun)
    (hr : BrokerReachable cfg r) :
    (∀ i : Nat, r.sockets[i]? = some .pending → ∃ b', r.broker.InitiatingIo = .ok b') ∧
    (∀ (i : Nat) (p : SocketPhase), r.sockets[i]? = some p → (p = .pending ∨ p = .active) →
      ∃ b', r.broker.Closing (p == .active) = .ok b') ∧
    r.broker.m_totalConnectionsRemaining + r.broker.m_pendingSockets +
        r.broker.m_activeSockets + r.closings = (new cfg).m_totalConnectionsRemaining ∧
    r.broker.m_pendingSockets = r.sockets.count .pending ∧
    r.broker.m_activeSockets = r.sockets.count .active ∧
    r.broker.m_pendingSockets ≤ r.broker.m_pendingLimit ∧
    (cfg.AcceptFunction = false →
      r.broker.m_pendingSockets + r.broker.m_activeSockets ≤ cfg.ConnectionLimit.toNat ∧
        r.broker.m_pendingSockets ≤ cfg.ConnectionThrottleLimit.toNat) ∧
    (r.broker.m_doneEvent = true →
      r.broker.m_totalConnectionsRemaining = 0 ∧ r.broker.m_pendingSockets = 0 ∧
        r.broker.m_activeSockets = 0 ∧
        ∀ r', Relation.ReflTransGen (BrokerStep cfg) r r' → r'.sockets.length = r.sockets.length) := by
  have h := BrokerInv.reachable hr
  have hpos : ∀ {i p}, r.sockets[i]? = some p → 0 < r.sockets.count p :=
    fun hi => List.count_pos_iff.2 (List.getElem?_mem hi)
  refine ⟨fun i hi => InitiatingIo_ok_of_pos (by rw [h.pending]; exact hpos hi),
    fun i p hi hp => Closing_ok_of_pos ?_, ?_, h.pending, h.active, h.caps.1, h.caps.2,
    fun hd => ⟨(h.done hd).1, (h.done hd).2.1, (h.done hd).2.2,
      fun r' hs => (hr.of_done hd hs).2.2⟩⟩
  · rcases hp with rfl | rfl
    · simpa [h.pending] using hpos hi
    · simpa [h.active] using hpos hi
  · have := length_eq_counts r.sockets
    have := h.total
    rw [BrokerRun.closings, h.pending, h.active]
    omega

/-- A client running two connections twice, throttled to one pending connect. -/
def throttledClient : BrokerSettings := ⟨false, 2, 0, 0, 2, 1⟩

/-- A run of `throttledClient` through every kind of call: the first socket starts its IO,
    a tick creates the second, the first closes and is reaped by the next tick. Every
    connection is still accounted for. -/
theorem socketBroker_accounting_afterReap :
    ∃ r, BrokerReachable throttledClient r ∧ r.sockets = [.closed, .pending] ∧
      r.broker.m_socketPool = [1] ∧
      r.broker.m_totalConnectionsRemaining + r.broker.m_pendingSockets +
          r.broker.m_activeSockets + r.closings = (new throttledClient).m_totalConnectionsRemaining := by
  have hr : BrokerReachable throttledClient _ :=
    (((((@BrokerReachable.start throttledClient).step (.initiatingIo 0 rfl rfl)).step
      (.timerCallback _ true 2)).step (.closing 0 .active rfl (.inr rfl) rfl)).step
      (.closed 0 rfl)).step (.timerCallback _ true 2)
  exact ⟨_, hr, rfl, rfl, (socketBroker_accounting _ _ hr).2.2.1⟩

end CtsTraffic
