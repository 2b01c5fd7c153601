import CtsTraffic.Basic

/-
  The connection-id pool of `ctsIOBuffers.hpp`. One reservation holds the 32-byte slots
  `ConnectionIdBuffer + i * ConnectionIdLength`; `ConnectionIdVector` is the stack of free
  slots. A client commits `ConnectionLimit` slots once; a server commits
  `ServerConnectionGrowthRate` more at each `GrowConnectionIdBuffer`, up to
  `ServerMaxConnections`. `NewConnectionIdBuffer` pops a slot (a server grows first when none
  is free), copies the connection id into it and returns a task naming it;
  `ReleaseConnectionIdBuffer` pushes the slot back; `SetConnectionId` copies a slot out.

  A client computes its slot offsets and the sizes it reserves and registers as 32-bit
  `unsigned long` products (`ulongSlotBytes`), which wrap beyond `2^27` connections.

  The operating system and the allocator are parameters: where `VirtualAlloc` places a
  reservation of a given size, what `RIORegisterBuffer` returns, and whether a commit or an
  allocation succeeds (`GrowOutcome`). A `std::vector` is its elements and its capacity, and
  `push_back` reallocates only when it is full. Each function runs under `ConnectionIdLock`
  (the init under `InitOnceExecuteOnce`), so a call is one step.
-/

namespace CtsTraffic

/-- The settings the pool reads: `ctsConfig::IsListening()`, `ConnectionLimit`, and whether
    `SocketFlags` has `WSA_FLAG_REGISTERED_IO`. -/
structure PoolSettings where
  IsListening : Bool
  ConnectionLimit : UInt32
  RegisteredIo : Bool
  deriving DecidableEq, Repr

def ServerMaxConnections : Nat := 1000000
def ServerConnectionGrowthRate : Nat := 2500

/-- The `FAIL_FAST_MSG`s of the pool. -/
inductive PoolFailFast
  | virtualAllocFailed
  | rioRegisterBufferFailed
  | growFailed
  | clientVectorEmpty
  | vectorEmptyAfterGrow
  | releaseFailed
  deriving DecidableEq, Repr

/-- What `NewConnectionIdBuffer` ends in when it returns no task: a `FAIL_FAST`, or the
    `std::bad_alloc` it throws when a grow fails. -/
inductive NewConnectionIdFailure
  | failFast (f : PoolFailFast)
  | badAlloc
  deriving DecidableEq, Repr

/-- A connection id: the 32 bytes `NewConnectionIdBuffer` reads from `_connection_id`. -/
structure ConnectionId where
  bytes : List UInt8
  length_eq : bytes.length = ConnectionIdLength
  deriving DecidableEq

/-- A task checked out of the pool, with the id copied into its slot. -/
structure CheckedOut where
  task : ctsIOTask
  id : ConnectionId
  deriving DecidableEq

/-! ## `std::vector<char*>` -/

/-- A `std::vector<char*>`: the addresses it holds and its capacity. -/
structure CharPtrVector where
  data : List Nat
  capacity : Nat
  size_le : data.length ≤ capacity

namespace CharPtrVector

/-- `push_back`: in place below capacity; when full it reallocates (to at least one more
    element), which throws `std::bad_alloc` unless `allocOk`. -/
def push_back (v : CharPtrVector) (x : Nat) (allocOk : Bool) : Option CharPtrVector :=
  if h : v.data.length < v.capacity then some ⟨v.data ++ [x], v.capacity, by simpa using h⟩
  else if allocOk then some ⟨v.data ++ [x], v.data.length + 1, by simp⟩
  else none

/-- `pop_back`. -/
def pop_back (v : CharPtrVector) : CharPtrVector :=
  ⟨v.data.dropLast, v.capacity, by have := v.size_le; simp; omega⟩

/-- A copy of `v` (as large as its elements) on which `reserve(n)` succeeded. -/
def copyReserve (v : CharPtrVector) (n : Nat) : CharPtrVector :=
  ⟨v.data, max v.data.length n, le_max_left _ _⟩

/-- `push_back` of each of `xs` in turn. -/
def pushAll (v : CharPtrVector) (xs : List Nat) (allocOk : Bool) : Option CharPtrVector :=
  xs.foldlM (fun v x => v.push_back x allocOk) v

theorem push_back_of_lt {v : CharPtrVector} {x : Nat} {allocOk : Bool}
    (h : v.data.length < v.capacity) :
    v.push_back x allocOk = some ⟨v.data ++ [x], v.capacity, by simpa using h⟩ := dif_pos h

/-- Below capacity, the pushes never reallocate, whatever the allocator does. -/
theorem pushAll_of_le (allocOk : Bool) :
    ∀ (xs : List Nat) (v : CharPtrVector) (h : v.data.length + xs.length ≤ v.capacity),
      v.pushAll xs allocOk = some ⟨v.data ++ xs, v.capacity, by simpa using h⟩
  | [], v, _ => by simp [pushAll]
  | x :: xs, v, h => by
    have hlt : v.data.length < v.capacity := by simp at h; omega
    simp only [pushAll, List.foldlM_cons, push_back_of_lt hlt, Option.bind_eq_bind,
      Option.some_bind]
    exact (pushAll_of_le allocOk xs _ (by simp at h ⊢; omega)).trans (by simp)

end CharPtrVector

/-! ## The pool -/

/-- The statics of the pool, with the bytes of its reservation by address. -/
structure ConnectionIdPool where
  ConnectionIdBuffer : Nat
  ConnectionIdVector : CharPtrVector
  CurrentAllocatedConnectionCount : Nat
  ConnectionIdRioBufferId : Nat
  memory : Memory

namespace ConnectionIdPool

/-- The address of slot `i`. -/
def slot (p : ConnectionIdPool) (i : Nat) : Nat := p.ConnectionIdBuffer + i * ConnectionIdLength

end ConnectionIdPool

/-- What the operating system and the allocator do in one `GrowConnectionIdBuffer`: whether
    `VirtualAlloc` commits, whether the temporary vector's copy and `reserve` succeed, and
    whether a reallocating `push_back` would. -/
structure GrowOutcome where
  commitOk : Bool
  copyOk : Bool
  pushOk : Bool
  deriving DecidableEq, Repr

/-- `GrowConnectionIdBuffer`: whether it grew, and the pool after. The commit of
    `increased * ConnectionIdLength` bytes fails past the reservation; the new slots are
    those from `original` on. -/
def GrowConnectionIdBuffer (o : GrowOutcome) (p : ConnectionIdPool) : Bool × ConnectionIdPool :=
  let original := p.CurrentAllocatedConnectionCount
  let increased := original + ServerConnectionGrowthRate
  if ConnectionIdLength * ServerMaxConnections < increased * ConnectionIdLength ∨ !o.commitOk then
    (false, p)
  else if !o.copyOk then (false, p)
  else
    let p := { p with CurrentAllocatedConnectionCount := increased }
    match (p.ConnectionIdVector.copyReserve increased).pushAll
        ((List.range' original ServerConnectionGrowthRate).map p.slot) o.pushOk with
    | some v => (true, { p with ConnectionIdVector := v })
    | none => (false, p)

/-- `n * ConnectionIdLength` in 32-bit `unsigned long`, as `InitOnceIOPatternCallback` computes
    the client's slot offsets and the sizes it reserves and registers: the product wraps. -/
def ulongSlotBytes (n : Nat) : Nat := n * ConnectionIdLength % 2 ^ 32

/-- What the operating system does in `InitOnceIOPatternCallback`: the address `VirtualAlloc`
    returns for a request of so many bytes (`none` for `NULL`), what `ctRIORegisterBuffer`
    returns for a registration of so many bytes, and the server's first grow. -/
structure InitOutcome where
  virtualAlloc : Nat → Option Nat
  rioRegisterBuffer : Nat → Nat
  grow : GrowOutcome

/-- Under RIO, `ctRIORegisterBuffer` of `length` bytes, which fails fast on an invalid id;
    without RIO the id stays `RIO_INVALID_BUFFERID`. -/
def registerConnectionIdBuffer (cfg : PoolSettings) (o : InitOutcome) (length : Nat) :
    Except PoolFailFast Nat :=
  if cfg.RegisteredIo then
    if o.rioRegisterBuffer length = RIO_INVALID_BUFFERID then .error .rioRegisterBufferFailed
    else .ok (o.rioRegisterBuffer length)
  else .ok RIO_INVALID_BUFFERID

/-- The server's part of `InitOnceIOPatternCallback` once `p` holds its reservation: the first
    `GrowConnectionIdBuffer`, which fails fast when it fails, then the RIO registration of the
    committed slots. -/
def initServer (cfg : PoolSettings) (o : InitOutcome) (p : ConnectionIdPool) :
    Except PoolFailFast ConnectionIdPool :=
  match GrowConnectionIdBuffer o.grow p with
  | (false, _) => .error .growFailed
  | (true, p) =>
    (registerConnectionIdBuffer cfg o (ulongSlotBytes p.CurrentAllocatedConnectionCount)).map
      fun id => { p with ConnectionIdRioBufferId := id }

/-- `InitOnceIOPatternCallback`: a client reserves and commits `ConnectionLimit` slots and lists
    them all free, connection `i` at `ConnectionIdBuffer + i * ConnectionIdLength` with the
    product in `unsigned long`; a server reserves `ServerMaxConnections` slots and grows once.
    Under RIO the committed bytes are registered. Committed pages read as zero. -/
def InitOnceIOPatternCallback (cfg : PoolSettings) (o : InitOutcome) :
    Except PoolFailFast ConnectionIdPool :=
  if !cfg.IsListening then
    let n := cfg.ConnectionLimit.toNat
    match o.virtualAlloc (ulongSlotBytes n) with
    | none => .error .virtualAllocFailed
    | some base =>
      (registerConnectionIdBuffer cfg o (ulongSlotBytes n)).map fun id =>
        ⟨base, ⟨(List.range n).map (fun i => base + ulongSlotBytes i), n, by simp⟩, 0, id,
          fun _ => 0⟩
  else
    match o.virtualAlloc (ulongSlotBytes ServerMaxConnections) with
    | none => .error .virtualAllocFailed
    | some base => initServer cfg o ⟨base, ⟨[], 0, le_refl _⟩, 0, RIO_INVALID_BUFFERID, fun _ => 0⟩

/-- The slot a task names: `ConnectionIdBuffer + buffer_offset` under RIO, else `buffer`
    (as `ReleaseConnectionIdBuffer` and `SetConnectionId` compute it). -/
def taskSlot (cfg : PoolSettings) (p : ConnectionIdPool) (t : ctsIOTask) : Nat :=
  if cfg.RegisteredIo then p.ConnectionIdBuffer + t.buffer_offset else t.buffer

/-- The task `NewConnectionIdBuffer` returns for the slot `next`; `ioAction` and
    `time_offset_milliseconds` keep their defaults. -/
def connectionIdBufferTask (cfg : PoolSettings) (p : ConnectionIdPool) (next : Nat) : ctsIOTask :=
  if cfg.RegisteredIo then
    ⟨.None, p.ConnectionIdBuffer, next - p.ConnectionIdBuffer, ConnectionIdLength,
      p.ConnectionIdRioBufferId, .TcpConnectionId, false, 0⟩
  else ⟨.None, next, 0, ConnectionIdLength, RIO_INVALID_BUFFERID, .TcpConnectionId, false, 0⟩

/-- The first half of `NewConnectionIdBuffer`: with no free slot, a client fails fast and a
    server grows, throwing `std::bad_alloc` when the grow fails. -/
def ensureFreeSlot (cfg : PoolSettings) (o : GrowOutcome) (p : ConnectionIdPool) :
    ConnectionIdPool × Except NewConnectionIdFailure Unit :=
  if p.ConnectionIdVector.data = [] then
    if !cfg.IsListening then (p, .error (.failFast .clientVectorEmpty))
    else
      match GrowConnectionIdBuffer o p with
      | (false, p') => (p', .error .badAlloc)
      | (true, p') =>
        if p'.ConnectionIdVector.data = [] then (p', .error (.failFast .vectorEmptyAfterGrow))
        else (p', .ok ())
  else (p, .ok ())

/-- The second half: pop the last free slot and copy the id into it. -/
def checkout (cfg : PoolSettings) (id : ConnectionId) (p : ConnectionIdPool) :
    ctsIOTask × ConnectionIdPool :=
  let next := p.ConnectionIdVector.data.getLastD 0
  (connectionIdBufferTask cfg p next,
    { p with ConnectionIdVector := p.ConnectionIdVector.pop_back
             memory := p.memory.write next id.bytes })

/-- `NewConnectionIdBuffer`, after the init. -/
def NewConnectionIdBuffer (cfg : PoolSettings) (o : GrowOutcome) (id : ConnectionId)
    (p : ConnectionIdPool) : ConnectionIdPool × Except NewConnectionIdFailure ctsIOTask :=
  match ensureFreeSlot cfg o p with
  | (p, .ok ()) => let (t, p) := checkout cfg id p; (p, .ok t)
  | (p, .error e) => (p, .error e)

/-- `ReleaseConnectionIdBuffer`: push the task's slot back; a throwing `push_back` is the
    `FAIL_FAST`. -/
def ReleaseConnectionIdBuffer (cfg : PoolSettings) (allocOk : Bool) (t : ctsIOTask)
    (p : ConnectionIdPool) : Except PoolFailFast ConnectionIdPool :=
  match p.ConnectionIdVector.push_back (taskSlot cfg p t) allocOk with
  | some v => .ok { p with ConnectionIdVector := v }
  | none => .error .releaseFailed

/-- `SetConnectionId`: `none` when it returns false, else the 32 bytes it copies to
    `_target_buffer`. -/
def SetConnectionId (cfg : PoolSettings) (p : ConnectionIdPool) (t : ctsIOTask)
    (current_transfer : Nat) : Option (List UInt8) :=
  if current_transfer ≠ ConnectionIdLength then none
  else some (p.memory.read (taskSlot cfg p t) ConnectionIdLength)

/-! ## Spec lemmas -/

namespace CharPtrVector

@[simp] theorem pop_back_data (v : CharPtrVector) : v.pop_back.data = v.data.dropLast := rfl
@[simp] theorem pop_back_capacity (v : CharPtrVector) : v.pop_back.capacity = v.capacity := rfl

end CharPtrVector

/-- Below `2^32` bytes the product does not wrap. -/
theorem ulongSlotBytes_of_lt {i : Nat} (h : i * ConnectionIdLength < 2 ^ 32) :
    ulongSlotBytes i = i * ConnectionIdLength :=
  Nat.mod_eq_of_lt h

/-- Distinct slots do not overlap. -/
theorem ConnectionIdPool.slot_disjoint (p : ConnectionIdPool) {i j : Nat}
    (h : p.slot i ≠ p.slot j) :
    p.slot i + ConnectionIdLength ≤ p.slot j ∨ p.slot j + ConnectionIdLength ≤ p.slot i := by
  simp only [ConnectionIdPool.slot, ConnectionIdLength] at h ⊢
  rcases Nat.lt_or_ge i j with hij | hij
  · have : (i + 1) * 32 ≤ j * 32 := Nat.mul_le_mul_right _ hij
    omega
  · have : i * 32 ≠ j * 32 := by omega
    have : j < i := by omega
    have : (j + 1) * 32 ≤ i * 32 := Nat.mul_le_mul_right _ this
    omega

/-- The outcomes of a grow from a vector no longer than the count: nothing changes, or
    `ServerConnectionGrowthRate` new slots are listed free and counted. -/
theorem GrowConnectionIdBuffer_spec (o : GrowOutcome) (p : ConnectionIdPool)
    (h : p.ConnectionIdVector.data.length ≤ p.CurrentAllocatedConnectionCount) :
    GrowConnectionIdBuffer o p = (false, p) ∨
    ∃ v : CharPtrVector, GrowConnectionIdBuffer o p =
        (true, { p with
          CurrentAllocatedConnectionCount :=
            p.CurrentAllocatedConnectionCount + ServerConnectionGrowthRate
          ConnectionIdVector := v }) ∧
      v.data = p.ConnectionIdVector.data ++
        (List.range' p.CurrentAllocatedConnectionCount ServerConnectionGrowthRate).map p.slot ∧
      p.CurrentAllocatedConnectionCount + ServerConnectionGrowthRate ≤ v.capacity := by
  unfold GrowConnectionIdBuffer
  dsimp only
  split_ifs
  · exact .inl rfl
  · exact .inl rfl
  · right
    rw [CharPtrVector.pushAll_of_le _ _ _ (by simp [CharPtrVector.copyReserve]; omega)]
    exact ⟨_, rfl, rfl, le_max_right _ _⟩

/-- What `ensureFreeSlot` can do: nothing when a slot is free; fail fast on a client; grow on
    a server, and then return, throw `std::bad_alloc`, or fail fast on a grow that left the
    vector empty. -/
theorem ensureFreeSlot_cases (cfg : PoolSettings) (o : GrowOutcome) (p : ConnectionIdPool) :
    (p.ConnectionIdVector.data ≠ [] ∧ ensureFreeSlot cfg o p = (p, .ok ())) ∨
    (p.ConnectionIdVector.data = [] ∧ cfg.IsListening = false ∧
      ensureFreeSlot cfg o p = (p, .error (.failFast .clientVectorEmpty))) ∨
    (p.ConnectionIdVector.data = [] ∧ cfg.IsListening = true ∧
      (ensureFreeSlot cfg o p).1 = (GrowConnectionIdBuffer o p).2 ∧
      (((ensureFreeSlot cfg o p).2 = .ok () ∧
          (GrowConnectionIdBuffer o p).2.ConnectionIdVector.data ≠ []) ∨
        ((ensureFreeSlot cfg o p).2 = .error .badAlloc ∧
          (GrowConnectionIdBuffer o p).1 = false) ∨
        ((ensureFreeSlot cfg o p).2 = .error (.failFast .vectorEmptyAfterGrow) ∧
          (GrowConnectionIdBuffer o p).1 = true ∧
          (GrowConnectionIdBuffer o p).2.ConnectionIdVector.data = []))) := by
  unfold ensureFreeSlot
  by_cases he : p.ConnectionIdVector.data = []
  · cases hl : cfg.IsListening
    · simp [he]
    · simp only [he, hl, if_true, Bool.not_true, Bool.false_eq_true, if_false]
      rcases hg : GrowConnectionIdBuffer o p with ⟨_ | _, p'⟩
      · simp
      · by_cases he' : p'.ConnectionIdVector.data = [] <;> simp [he']
  · simp [he]

@[simp] theorem checkout_fst (cfg : PoolSettings) (id : ConnectionId) (p : ConnectionIdPool) :
    (checkout cfg id p).1 = connectionIdBufferTask cfg p (p.ConnectionIdVector.data.getLastD 0) := rfl
@[simp] theorem checkout_vector (cfg : PoolSettings) (id : ConnectionId) (p : ConnectionIdPool) :
    (checkout cfg id p).2.ConnectionIdVector = p.ConnectionIdVector.pop_back := rfl
@[simp] theorem checkout_memory (cfg : PoolSettings) (id : ConnectionId) (p : ConnectionIdPool) :
    (checkout cfg id p).2.memory =
      p.memory.write (p.ConnectionIdVector.data.getLastD 0) id.bytes := rfl
@[simp] theorem checkout_buffer (cfg : PoolSettings) (id : ConnectionId) (p : ConnectionIdPool) :
    (checkout cfg id p).2.ConnectionIdBuffer = p.ConnectionIdBuffer := rfl
@[simp] theorem checkout_count (cfg : PoolSettings) (id : ConnectionId) (p : ConnectionIdPool) :
    (checkout cfg id p).2.CurrentAllocatedConnectionCount = p.CurrentAllocatedConnectionCount :=
  rfl

/-- The task for a slot names that slot. -/
theorem taskSlot_connectionIdTask (cfg : PoolSettings) {p p' : ConnectionIdPool} {s : Nat}
    (hb : p'.ConnectionIdBuffer = p.ConnectionIdBuffer) (hs : p.ConnectionIdBuffer ≤ s) :
    taskSlot cfg p' (connectionIdBufferTask cfg p s) = s := by
  unfold taskSlot connectionIdBufferTask
  cases cfg.RegisteredIo <;> simp [hb]
  omega

theorem NewConnectionIdBuffer_ok {cfg : PoolSettings} {o : GrowOutcome} {id : ConnectionId}
    {p p' : ConnectionIdPool} {t : ctsIOTask} (h : NewConnectionIdBuffer cfg o id p = (p', .ok t)) :
    (ensureFreeSlot cfg o p).2 = .ok () ∧ checkout cfg id (ensureFreeSlot cfg o p).1 = (t, p') := by
  unfold NewConnectionIdBuffer at h
  rcases hE : ensureFreeSlot cfg o p with ⟨p1, _ | _⟩ <;> simp only [hE] at h
  · cases h
  · simp only [Prod.mk.injEq, Except.ok.injEq] at h
    exact ⟨rfl, by rw [← h.1, ← h.2]⟩

theorem NewConnectionIdBuffer_error {cfg : PoolSettings} {o : GrowOutcome} {id : ConnectionId}
    {p p' : ConnectionIdPool} {e : NewConnectionIdFailure}
    (h : NewConnectionIdBuffer cfg o id p = (p', .error e)) :
    ensureFreeSlot cfg o p = (p', .error e) := by
  unfold NewConnectionIdBuffer at h
  rcases hE : ensureFreeSlot cfg o p with ⟨p1, _ | _⟩ <;> simp only [hE] at h
  · simp only [Prod.mk.injEq, Except.error.injEq] at h
    obtain ⟨rfl, rfl⟩ := h
    rfl
  · cases h

theorem ensureFreeSlot_ok_ne_nil {cfg : PoolSettings} {o : GrowOutcome} {p : ConnectionIdPool}
    (h : (ensureFreeSlot cfg o p).2 = .ok ()) :
    (ensureFreeSlot cfg o p).1.ConnectionIdVector.data ≠ [] := by
  rcases ensureFreeSlot_cases cfg o p with ⟨hne, he⟩ | ⟨-, -, he⟩ | ⟨-, -, he, hr⟩
  · rwa [he]
  · rw [he] at h; cases h
  · rcases hr with ⟨-, hne⟩ | ⟨hb, -⟩ | ⟨hf, -⟩
    · rwa [he]
    · rw [hb] at h; cases h
    · rw [hf] at h; cases h

/-- Below capacity, a release pushes the task's slot without reallocating. -/
theorem ReleaseConnectionIdBuffer_of_lt (cfg : PoolSettings) (allocOk : Bool) (t : ctsIOTask)
    {p : ConnectionIdPool} (h : p.ConnectionIdVector.data.length < p.ConnectionIdVector.capacity) :
    ReleaseConnectionIdBuffer cfg allocOk t p =
      .ok { p with ConnectionIdVector := ⟨p.ConnectionIdVector.data ++ [taskSlot cfg p t],
        p.ConnectionIdVector.capacity, by simpa using h⟩ } := by
  simp only [ReleaseConnectionIdBuffer, CharPtrVector.push_back_of_lt h]

/-- A slot holding an id reads back as that id, when the transfer was a whole id. -/
theorem SetConnectionId_of_holds (cfg : PoolSettings) {p : ConnectionIdPool} {t : ctsIOTask}
    {id : ConnectionId} (h : Holds p.memory (taskSlot cfg p t) id.bytes) (n : Nat) :
    SetConnectionId cfg p t n = if n = ConnectionIdLength then some id.bytes else none := by
  unfold SetConnectionId
  split_ifs <;> simp_all [← id.length_eq, Memory.read_of_holds h]

theorem NewConnectionIdBuffer_snd (cfg : PoolSettings) (o : GrowOutcome) (id : ConnectionId)
    (p : ConnectionIdPool) :
    (NewConnectionIdBuffer cfg o id p).2 =
      (ensureFreeSlot cfg o p).2.map fun _ => (checkout cfg id (ensureFreeSlot cfg o p).1).1 := by
  unfold NewConnectionIdBuffer
  rcases ensureFreeSlot cfg o p with ⟨p1, _ | _⟩ <;> rfl

end CtsTraffic
