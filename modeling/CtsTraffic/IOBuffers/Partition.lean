import CtsTraffic.IOBuffers.ConnectionIdPool

/-
  Runs of the connection-id pool: `InitOnceIOPatternCallback`, then any interleaving of
  checkouts, releases (each of a task checked out and not yet released) and, on a server,
  grows, for every outcome of the operating system and the allocator. A checkout that
  throws `std::bad_alloc` keeps what its grow did; one that fails fast has no successor.

  Invariant (`PoolInv`): the free vector and the slots of the checked-out tasks are a
  permutation of the committed slots, the capacity covers the committed count, and each
  checked-out slot holds the id copied into it. Distinct slots are 32 bytes apart, so a
  checkout's copy leaves every other checked-out id in place. A client's slots are 32 bytes
  apart only while `ConnectionLimit * 32` fits in an `unsigned long`; past `2^27`
  connections the offsets wrap and the first free vector holds a slot twice
  (`connectionIdPool_wrapping_duplicate`).
-/

namespace CtsTraffic

/-- The committed count: `ConnectionLimit` for a client, `CurrentAllocatedConnectionCount`
    for a server. -/
def committedCount (cfg : PoolSettings) (p : ConnectionIdPool) : Nat :=
  if cfg.IsListening then p.CurrentAllocatedConnectionCount else cfg.ConnectionLimit.toNat

/-- The first `n` slots. -/
def committedSlots (p : ConnectionIdPool) (n : Nat) : List Nat := (List.range n).map p.slot

/-- The slots of the checked-out tasks. -/
def liveSlots (cfg : PoolSettings) (p : ConnectionIdPool) (live : List CheckedOut) : List Nat :=
  live.map fun x => taskSlot cfg p x.task

/-- The pool and the tasks checked out of it and not yet released. -/
structure PoolRun where
  pool : ConnectionIdPool
  live : List CheckedOut

/-- One call under `ConnectionIdLock`. -/
inductive PoolStep (cfg : PoolSettings) : PoolRun → PoolRun → Prop
  | newConnectionIdBuffer (r : PoolRun) (o : GrowOutcome) (id : ConnectionId)
      {p : ConnectionIdPool} {t : ctsIOTask}
      (h : NewConnectionIdBuffer cfg o id r.pool = (p, .ok t)) :
      PoolStep cfg r ⟨p, r.live ++ [⟨t, id⟩]⟩
  | newBadAlloc (r : PoolRun) (o : GrowOutcome) (id : ConnectionId) {p : ConnectionIdPool}
      (h : NewConnectionIdBuffer cfg o id r.pool = (p, .error .badAlloc)) :
      PoolStep cfg r ⟨p, r.live⟩
  | release (r : PoolRun) {x : CheckedOut} (hx : x ∈ r.live) (allocOk : Bool)
      {p : ConnectionIdPool} (h : ReleaseConnectionIdBuffer cfg allocOk x.task r.pool = .ok p) :
      PoolStep cfg r ⟨p, r.live.erase x⟩
  | grow (r : PoolRun) (hs : cfg.IsListening = true) (o : GrowOutcome) :
      PoolStep cfg r ⟨(GrowConnectionIdBuffer o r.pool).2, r.live⟩

/-- The runs: the init, then any sequence of calls. -/
inductive PoolReachable (cfg : PoolSettings) : PoolRun → Prop
  | init (o : InitOutcome) {p : ConnectionIdPool} (h : InitOnceIOPatternCallback cfg o = .ok p) :
      PoolReachable cfg ⟨p, []⟩
  | step {r r' : PoolRun} : PoolReachable cfg r → PoolStep cfg r r' → PoolReachable cfg r'

theorem Except.exists_of_map_eq_ok {ε α β : Type} {f : α → β} {x : Except ε α} {b : β}
    (h : x.map f = .ok b) : ∃ a, f a = b := by
  cases x with
  | error e => cases h
  | ok a => exact ⟨a, Except.ok.inj h⟩

theorem committedSlots_nodup (p : ConnectionIdPool) (n : Nat) : (committedSlots p n).Nodup :=
  (List.nodup_range n).map fun a b h => by
    simp only [ConnectionIdPool.slot, ConnectionIdLength] at h
    omega

theorem committedSlots_add (p : ConnectionIdPool) (n m : Nat) :
    committedSlots p (n + m) = committedSlots p n ++ (List.range' n m).map p.slot := by
  have h := List.range'_append 0 n m 1
  simp only [Nat.zero_add, Nat.one_mul] at h
  simp only [committedSlots, List.range_eq_range', ← List.map_append, h, Nat.add_comm n m]

@[simp] theorem liveSlots_append (cfg : PoolSettings) (p : ConnectionIdPool)
    (live live' : List CheckedOut) :
    liveSlots cfg p (live ++ live') = liveSlots cfg p live ++ liveSlots cfg p live' := by
  simp [liveSlots]

/-- The pool's invariant. -/
structure PoolInv (cfg : PoolSettings) (p : ConnectionIdPool) (live : List CheckedOut) :
    Prop where
  partition : (p.ConnectionIdVector.data ++ liveSlots cfg p live).Perm
    (committedSlots p (committedCount cfg p))
  capacity : committedCount cfg p ≤ p.ConnectionIdVector.capacity
  written : ∀ x ∈ live, Holds p.memory (taskSlot cfg p x.task) x.id.bytes

namespace PoolInv

variable {cfg : PoolSettings} {p : ConnectionIdPool} {live : List CheckedOut}

theorem nodup (h : PoolInv cfg p live) :
    (p.ConnectionIdVector.data ++ liveSlots cfg p live).Nodup :=
  h.partition.nodup_iff.2 (committedSlots_nodup _ _)

theorem length_eq (h : PoolInv cfg p live) :
    p.ConnectionIdVector.data.length + live.length = committedCount cfg p := by
  simpa [liveSlots, committedSlots] using h.partition.length_eq

theorem slot_of_mem (h : PoolInv cfg p live) {s : Nat}
    (hs : s ∈ p.ConnectionIdVector.data ++ liveSlots cfg p live) :
    ∃ i < committedCount cfg p, p.slot i = s := by
  simpa [committedSlots] using h.partition.subset hs

/-- A server's grow keeps the invariant, failed or not. -/
theorem grow (h : PoolInv cfg p live) (hs : cfg.IsListening = true) (o : GrowOutcome) :
    PoolInv cfg (GrowConnectionIdBuffer o p).2 live := by
  have hlen := h.length_eq
  simp only [committedCount, hs, if_true] at hlen
  rcases GrowConnectionIdBuffer_spec o p (by omega) with he | ⟨v, he, hv, hcap⟩ <;> rw [he]
  · exact h
  · have hp := h.partition
    simp only [committedCount, hs, if_true] at hp
    refine ⟨?_, by simpa [committedCount, hs] using hcap, h.written⟩
    simp only [committedCount, hs, if_true]
    show (v.data ++ liveSlots cfg p live).Perm
      (committedSlots p (p.CurrentAllocatedConnectionCount + ServerConnectionGrowthRate))
    rw [hv, committedSlots_add, List.append_assoc]
    exact (List.perm_append_comm.append_left _).trans
      (by rw [← List.append_assoc]; exact hp.append_right _)

theorem ensure (h : PoolInv cfg p live) (o : GrowOutcome) :
    PoolInv cfg (ensureFreeSlot cfg o p).1 live := by
  rcases ensureFreeSlot_cases cfg o p with ⟨-, he⟩ | ⟨-, -, he⟩ | ⟨-, hs, he, -⟩
  · rw [he]; exact h
  · rw [he]; exact h
  · rw [he]; exact h.grow hs o

/-- Popping a free slot and copying an id into it keeps the invariant, the task joining
    the checked-out ones. -/
theorem take (h : PoolInv cfg p live) (id : ConnectionId)
    (hne : p.ConnectionIdVector.data ≠ []) :
    PoolInv cfg (checkout cfg id p).2 (live ++ [⟨(checkout cfg id p).1, id⟩]) := by
  obtain ⟨L, s, hLs⟩ := (List.eq_nil_or_concat p.ConnectionIdVector.data).resolve_left hne
  rw [List.concat_eq_append] at hLs
  have hlast : p.ConnectionIdVector.data.getLastD 0 = s := by simp [hLs]
  obtain ⟨i, -, hsi⟩ := h.slot_of_mem (s := s) (by simp [hLs])
  have hslot : taskSlot cfg (checkout cfg id p).2 (checkout cfg id p).1 = s := by
    rw [checkout_fst, hlast]
    exact taskSlot_connectionIdTask cfg rfl (hsi ▸ Nat.le_add_right _ _)
  have hlive : liveSlots cfg (checkout cfg id p).2 live = liveSlots cfg p live := rfl
  have hcount : committedCount cfg (checkout cfg id p).2 = committedCount cfg p := rfl
  have hdisj := List.disjoint_of_nodup_append h.nodup
  refine ⟨?_, ?_, ?_⟩
  · have hone : liveSlots cfg (checkout cfg id p).2 [⟨(checkout cfg id p).1, id⟩] = [s] := by
      simp only [liveSlots, List.map_cons, List.map_nil, hslot]
    rw [liveSlots_append, hlive, hone, hcount, checkout_vector, CharPtrVector.pop_back_data, hLs,
      List.dropLast_concat]
    have hp := h.partition
    rw [hLs, List.append_assoc] at hp
    exact (List.perm_append_comm.append_left L).trans hp
  · simpa [hcount] using h.capacity
  · intro x hx
    rw [checkout_memory, hlast]
    rcases List.mem_append.1 hx with hx | hx
    · obtain ⟨j, -, hsj⟩ := h.slot_of_mem (s := taskSlot cfg p x.task)
        (List.mem_append_right _ (List.mem_map_of_mem _ hx))
      have hne' : p.slot i ≠ p.slot j := by
        rw [hsi, hsj]
        exact fun he => hdisj (a := s) (by simp [hLs])
          (by rw [he]; exact List.mem_map_of_mem (fun y => taskSlot cfg p y.task) hx)
      have hsep := p.slot_disjoint hne'
      rw [hsi, hsj] at hsep
      exact (h.written x hx).write_of_disjoint (by rw [id.length_eq, x.id.length_eq]; omega)
    · obtain rfl := List.mem_singleton.1 hx
      rw [hslot]
      exact Memory.holds_write_self _ _ _

theorem release (h : PoolInv cfg p live) {x : CheckedOut} (hx : x ∈ live) (allocOk : Bool)
    {p' : ConnectionIdPool} (hr : ReleaseConnectionIdBuffer cfg allocOk x.task p = .ok p') :
    PoolInv cfg p' (live.erase x) := by
  have hlt : p.ConnectionIdVector.data.length < p.ConnectionIdVector.capacity := by
    have := h.length_eq
    have := h.capacity
    have := List.length_pos_of_mem hx
    omega
  rw [ReleaseConnectionIdBuffer_of_lt cfg allocOk x.task hlt] at hr
  cases hr
  refine ⟨?_, h.capacity, fun y hy => h.written y (List.mem_of_mem_erase hy)⟩
  have hperm := ((List.perm_cons_erase hx).map fun y => taskSlot cfg p y.task).append_left
    p.ConnectionIdVector.data
  show (p.ConnectionIdVector.data ++ [taskSlot cfg p x.task] ++ liveSlots cfg p (live.erase x)).Perm
    (committedSlots p (committedCount cfg p))
  rw [List.append_assoc, List.singleton_append]
  exact hperm.symm.trans h.partition

/-- A server's init keeps the invariant of the reservation it starts from. -/
theorem of_initServer {p₀ : ConnectionIdPool} (h : PoolInv cfg p₀ []) (hl : cfg.IsListening = true)
    {o : InitOutcome} (hi : initServer cfg o p₀ = .ok p) : PoolInv cfg p [] := by
  have h1 := h.grow hl o.grow
  unfold initServer at hi
  rcases hg : GrowConnectionIdBuffer o.grow p₀ with ⟨_ | _, p1⟩ <;> rw [hg] at hi h1
  · cases hi
  · obtain ⟨rid, rfl⟩ := Except.exists_of_map_eq_ok hi
    exact ⟨h1.partition, h1.capacity, by simp⟩

/-- The pool `InitOnceIOPatternCallback` returns keeps the invariant, provided a client's slot
    offsets do not wrap. -/
theorem init (hfit : cfg.IsListening = false →
      cfg.ConnectionLimit.toNat * ConnectionIdLength ≤ 2 ^ 32)
    {o : InitOutcome} (hi : InitOnceIOPatternCallback cfg o = .ok p) : PoolInv cfg p [] := by
  unfold InitOnceIOPatternCallback at hi
  cases hl : cfg.IsListening <;> simp only [hl, Bool.not_false, Bool.not_true, if_true,
    Bool.false_eq_true, if_false] at hi
  · rcases hva : o.virtualAlloc (ulongSlotBytes cfg.ConnectionLimit.toNat) with _ | base <;>
      simp only [hva] at hi
    · cases hi
    · obtain ⟨rid, rfl⟩ := Except.exists_of_map_eq_ok hi
      have hn := hfit hl
      have hslot : ∀ i ∈ List.range cfg.ConnectionLimit.toNat,
          base + ulongSlotBytes i = base + i * ConnectionIdLength := fun i hi => by
        have := List.mem_range.1 hi
        rw [ulongSlotBytes_of_lt (by simp only [ConnectionIdLength] at hn ⊢; omega)]
      refine ⟨?_, by simp [committedCount, hl], by simp⟩
      simp only [committedCount, committedSlots, hl, liveSlots, List.map_nil, List.append_nil,
        Bool.false_eq_true, if_false]
      exact .of_eq (List.map_congr_left hslot)
  · rcases hva : o.virtualAlloc (ulongSlotBytes ServerMaxConnections) with _ | base <;>
      simp only [hva] at hi
    · cases hi
    · exact of_initServer ⟨by simp [committedCount, hl, committedSlots, liveSlots],
        by simp [committedCount, hl], by simp⟩ hl hi

theorem step (h : PoolInv cfg r.pool r.live) {r' : PoolRun} (hs : PoolStep cfg r r') :
    PoolInv cfg r'.pool r'.live := by
  cases hs with
  | newConnectionIdBuffer o id hn =>
    obtain ⟨hok, hco⟩ := NewConnectionIdBuffer_ok hn
    have := (h.ensure o).take id (ensureFreeSlot_ok_ne_nil hok)
    rwa [hco] at this
  | newBadAlloc o id hn =>
    have := h.ensure o
    rwa [NewConnectionIdBuffer_error hn] at this
  | release hx allocOk hr => exact h.release hx allocOk hr
  | grow hs o =>
    dsimp only
    exact h.grow hs o

theorem reachable (hfit : cfg.IsListening = false →
      cfg.ConnectionLimit.toNat * ConnectionIdLength ≤ 2 ^ 32)
    {r : PoolRun} (hr : PoolReachable cfg r) : PoolInv cfg r.pool r.live := by
  induction hr with
  | init o hi => exact init hfit hi
  | step _ hs ih => exact ih.step hs

end PoolInv

/-! ## The pool's laws -/

/-- With a slot free, or on a server, a checkout returns a task or throws `std::bad_alloc`:
    neither of its `FAIL_FAST`s is reached. -/
theorem PoolInv.checkout_outcome {cfg : PoolSettings} {p : ConnectionIdPool}
    {live : List CheckedOut} (h : PoolInv cfg p live)
    (hfree : cfg.IsListening = true ∨ p.ConnectionIdVector.data ≠ []) (o : GrowOutcome)
    (id : ConnectionId) :
    (NewConnectionIdBuffer cfg o id p).2 = .error .badAlloc ∨
      ∃ t, (NewConnectionIdBuffer cfg o id p).2 = .ok t := by
  rw [NewConnectionIdBuffer_snd]
  rcases ensureFreeSlot_cases cfg o p with ⟨-, he⟩ | ⟨hne, hl, -⟩ | ⟨hne, hl, he, hr⟩
  · rw [he]; exact .inr ⟨_, rfl⟩
  · rcases hfree with hs | hs
    · rw [hs] at hl; cases hl
    · exact absurd hne hs
  · have hlen := h.length_eq
    simp only [committedCount, hl, if_true] at hlen
    rcases hr with ⟨hok, -⟩ | ⟨hb, -⟩ | ⟨-, htrue, hemp⟩
    · rw [hok]; exact .inr ⟨_, rfl⟩
    · rw [hb]; exact .inl rfl
    · rcases GrowConnectionIdBuffer_spec o p (by omega) with hg | ⟨v, hg, hv, -⟩ <;>
        rw [hg] at htrue hemp
      · cases htrue
      · simp [hv, ServerConnectionGrowthRate] at hemp

/-- One call into the pool, for replaying a given run: a checkout, the release of the `i`-th
    task checked out, or a server's grow. -/
inductive PoolCall
  | newConnectionIdBuffer (o : GrowOutcome) (id : ConnectionId)
  | release (i : Nat) (allocOk : Bool)
  | grow (o : GrowOutcome)

namespace PoolRun

variable (cfg : PoolSettings)

/-- The run after one call; `none` when the call fails fast or names no task. -/
def call? (r : PoolRun) : PoolCall → Option PoolRun
  | .newConnectionIdBuffer o id =>
    match NewConnectionIdBuffer cfg o id r.pool with
    | (p, .ok t) => some ⟨p, r.live ++ [⟨t, id⟩]⟩
    | (p, .error .badAlloc) => some ⟨p, r.live⟩
    | (_, .error (.failFast _)) => none
  | .release i allocOk => r.live[i]?.bind fun x =>
    match ReleaseConnectionIdBuffer cfg allocOk x.task r.pool with
    | .ok p => some ⟨p, r.live.erase x⟩
    | .error _ => none
  | .grow o =>
    if cfg.IsListening then some ⟨(GrowConnectionIdBuffer o r.pool).2, r.live⟩ else none

/-- The run after a list of calls. -/
def replay : PoolRun → List PoolCall → Option PoolRun
  | r, [] => some r
  | r, c :: cs => (r.call? cfg c).bind (replay · cs)

variable {cfg}

theorem call?_step {r r' : PoolRun} {c : PoolCall} (h : r.call? cfg c = some r') :
    PoolStep cfg r r' := by
  cases c with
  | newConnectionIdBuffer o id =>
    rcases hn : NewConnectionIdBuffer cfg o id r.pool with ⟨p, (f | _) | t⟩ <;>
      simp only [call?, hn] at h <;> cases h
    · exact .newBadAlloc r o id hn
    · exact .newConnectionIdBuffer r o id hn
  | release i allocOk =>
    simp only [call?, Option.bind_eq_some] at h
    obtain ⟨x, hx, h⟩ := h
    rcases hr : ReleaseConnectionIdBuffer cfg allocOk x.task r.pool with _ | p <;>
      rw [hr] at h <;> cases h
    exact .release r (List.getElem?_mem hx) allocOk hr
  | grow o =>
    by_cases hs : cfg.IsListening = true
    · rw [call?, if_pos hs] at h
      obtain rfl := Option.some.inj h
      exact .grow r hs o
    · rw [call?, if_neg hs] at h
      cases h

theorem replay_reachable {r r' : PoolRun} {cs : List PoolCall} (hr : PoolReachable cfg r)
    (h : r.replay cfg cs = some r') : PoolReachable cfg r' := by
  induction cs generalizing r with
  | nil => cases h; exact hr
  | cons c cs ih =>
    simp only [replay, Option.bind_eq_some] at h
    obtain ⟨r₁, h₁, h₂⟩ := h
    exact ih (hr.step (call?_step h₁)) h₂

variable (cfg) in
/-- A fact about the run a replay from the initial pool ends in, read off by evaluating the
    replay. -/
theorem exists_reachable_of_replay {α : Type} {o : InitOutcome} {p : ConnectionIdPool}
    (hi : InitOnceIOPatternCallback cfg o = .ok p) (cs : List PoolCall) (f : PoolRun → α)
    (a : α) (h : ((⟨p, []⟩ : PoolRun).replay cfg cs).map f = some a) :
    ∃ r, PoolReachable cfg r ∧ f r = a := by
  cases hr : (⟨p, []⟩ : PoolRun).replay cfg cs with
  | none => rw [hr] at h; cases h
  | some r => rw [hr] at h; exact ⟨r, replay_reachable (.init o hi) hr, Option.some.inj h⟩

end PoolRun

/-- A client with four connections, without RIO; its reservation is at 4096. -/
def fourClients : PoolSettings := ⟨false, 4, false⟩

def fourClientsInit : InitOutcome :=
  ⟨fun _ => some 4096, fun _ => RIO_INVALID_BUFFERID, ⟨true, true, true⟩⟩

/-- The connection id whose bytes are all `b`. -/
def uniformId (b : UInt8) : ConnectionId :=
  ⟨List.replicate ConnectionIdLength b, List.length_replicate _ _⟩

/-- Two checkouts, then the release of the first task. -/
def fourClientsCalls : List PoolCall :=
  [.newConnectionIdBuffer ⟨true, true, true⟩ (uniformId 1),
    .newConnectionIdBuffer ⟨true, true, true⟩ (uniformId 2), .release 0 true]

/-- A client of `2^27 + 1` connections, without RIO. -/
def wrappingClients : PoolSettings := ⟨false, 134217729, false⟩

/-- The pool `InitOnceIOPatternCallback` returns for `wrappingClients` at 4096: connection `i`
    at `4096 + ulongSlotBytes i`. -/
def wrappingClientsPool : ConnectionIdPool :=
  ⟨4096, ⟨(List.range 134217729).map (fun i => 4096 + ulongSlotBytes i), 134217729, by simp⟩, 0,
    RIO_INVALID_BUFFERID, fun _ => 0⟩

end CtsTraffic
