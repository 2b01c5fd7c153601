import CtsTraffic.MediaStream.Datagram

/-
  The MediaStream ID frame (ctsMediaStreamProtocol.hpp): the flag
  `UdpDatagramProtocolHeaderFlagId`, then the 32-byte connection id, 34 bytes in all. The
  sender builds it in a raw task's buffer with `MakeConnectionIdTask`; a driver sends
  `buffer_length` bytes from `buffer + buffer_offset`; the receiver checks the datagram with
  `ValidateBufferLengthFromTask` and copies the id out with `SetConnectionIdFromTask`.

  The driver and `SetConnectionIdFromTask` add `buffer_offset`; `MakeConnectionIdTask` writes
  the frame at `buffer` and `GetProtocolHeaderFromTask` reads the flag at `buffer`. With both
  offsets 0 every id arrives intact (`connectionIdExchange_of_offset_zero`). A raw task at a
  non-zero offset (a RIO task names its slot by offset) sends bytes that are not the frame, and
  a receive task at a non-zero offset reads its flag from the bytes before the datagram.
-/

namespace CtsTraffic

namespace ctsMediaStreamMessage

/-- The flag `MakeConnectionIdTask` copies from `UdpDatagramProtocolHeaderFlagId`. -/
def flagIdBytes : List UInt8 :=
  leBytes UdpDatagramProtocolHeaderFlagLength UdpDatagramProtocolHeaderFlagId.toNat

/-- `MakeConnectionIdTask`: the raw task must span the frame; the flag and the 32 bytes the
    id pointer sees are copied to its buffer from `buffer` on, and the task becomes an
    untracked `Send` of a `UdpConnectionId` buffer. `mem` is the raw task's buffer. -/
def MakeConnectionIdTask (raw : ctsIOTask) (connection_id mem : Memory) :
    Except MediaStreamFailFast (ctsIOTask × Memory) :=
  if raw.buffer_length ≠ ConnectionIdLength + UdpDatagramProtocolHeaderFlagLength then
    .error .connectionIdTaskLength
  else
    let mem := mem.write 0 flagIdBytes
    let mem := mem.write UdpDatagramProtocolHeaderFlagLength
      (connection_id.read 0 ConnectionIdLength)
    .ok ({ raw with ioAction := .Send, buffer_type := .UdpConnectionId, track_io := false }, mem)

/-- `SetConnectionIdFromTask`: `memcpy_s` of the 32 bytes at
    `_task.buffer + _task.buffer_offset + UdpDatagramProtocolHeaderFlagLength` to
    `_connection_id`. -/
def SetConnectionIdFromTask (connection_id mem : Memory) (t : ctsIOTask) : Memory :=
  connection_id.write 0
    (mem.read (t.buffer_offset + UdpDatagramProtocolHeaderFlagLength) ConnectionIdLength)

end ctsMediaStreamMessage

open ctsMediaStreamMessage

/-- The bytes a driver sends for a task: `buffer_length` bytes from `buffer + buffer_offset`
    (the `WSABUF` of `ctsSendRecvIocp`, the `io_buffer` of `ctsReadWriteIocp`). -/
def sentBytes (mem : Memory) (t : ctsIOTask) : List UInt8 :=
  mem.read t.buffer_offset t.buffer_length

/-- A receive task's buffer once `bytes` arrived at `buffer + buffer_offset`. -/
def received (mem : Memory) (t : ctsIOTask) (bytes : List UInt8) : Memory :=
  mem.write t.buffer_offset bytes

/-- One ID frame from sender to receiver: built in the raw task's buffer `sendMem`, sent, and
    received into `recv`'s buffer `recvMem`. The receiver's view: whether
    `ValidateBufferLengthFromTask` accepts the datagram, the flag `GetProtocolHeaderFromTask`
    reads, and the 32 bytes `SetConnectionIdFromTask` writes to `target`. -/
def connectionIdExchange (raw recv : ctsIOTask) (connection_id sendMem recvMem target : Memory) :
    Except MediaStreamFailFast (Bool × BitVec 16 × List UInt8) := do
  let (t, m) ← MakeConnectionIdTask raw connection_id sendMem
  let bytes := sentBytes m t
  let mem := received recvMem recv bytes
  pure (ValidateBufferLengthFromTask mem recv bytes.length, GetProtocolHeaderFromTask mem recv,
    (SetConnectionIdFromTask target mem recv).read 0 ConnectionIdLength)

theorem Holds.append {mem : Memory} {pos : Nat} {a b : List UInt8} (ha : Holds mem pos a)
    (hb : Holds mem (pos + a.length) b) : Holds mem pos (a ++ b) := fun i hi => by
  by_cases h : i < a.length
  · rw [List.getElem_append_left h, ha i h]
  · rw [List.getElem_append_right (by omega), ← hb (i - a.length) (by simp at hi; omega)]
    congr 1; omega

@[simp] theorem flagIdBytes_length : flagIdBytes.length = UdpDatagramProtocolHeaderFlagLength :=
  leBytes_length _ _

@[simp] theorem Memory.read_length (mem : Memory) (pos n : Nat) : (mem.read pos n).length = n := by
  simp [Memory.read]

theorem Memory.holds_read (mem : Memory) (pos n : Nat) : Holds mem pos (mem.read pos n) :=
  fun i hi => by simp [Memory.read]

/-- `readLE` sees only the bytes it reads. -/
theorem readLE_congr {m₁ m₂ : Memory} {pos : Nat} :
    ∀ {n}, (∀ i < n, m₁ (pos + i) = m₂ (pos + i)) → readLE m₁ pos n = readLE m₂ pos n
  | 0, _ => rfl
  | n + 1, h => by
    rw [readLE, readLE, show m₁ pos = m₂ pos by simpa using h 0 (by omega),
      readLE_congr fun i hi => by simpa [Nat.add_assoc, Nat.add_comm 1] using h (i + 1) (by omega)]

/-- What a driver sends for a raw task at `buffer_offset` `off`, up to the frame's length: the
    frame from its byte `off` on, then the `off` bytes of the buffer past the frame. -/
def shiftedFrame (connection_id mem : Memory) (off : Nat) : List UInt8 :=
  (flagIdBytes ++ connection_id.read 0 ConnectionIdLength).drop off ++
    mem.read UdpDatagramConnectionIdHeaderLength off

/-- `MakeConnectionIdTask` writes the frame from `buffer` on, whatever the task's
    `buffer_offset`, and a driver sends from `buffer + buffer_offset`: the frame shifted by the
    offset. -/
theorem sentBytes_connectionIdTask {raw t : ctsIOTask} {connection_id mem m : Memory}
    (h : MakeConnectionIdTask raw connection_id mem = .ok (t, m))
    (hoff : raw.buffer_offset ≤ UdpDatagramConnectionIdHeaderLength) :
    sentBytes m t = shiftedFrame connection_id mem raw.buffer_offset := by
  unfold MakeConnectionIdTask at h
  split_ifs at h with hl
  simp only [Except.ok.injEq, Prod.mk.injEq] at h
  obtain ⟨rfl, rfl⟩ := h
  have hframe : Holds ((mem.write 0 flagIdBytes).write UdpDatagramProtocolHeaderFlagLength
      (connection_id.read 0 ConnectionIdLength)) 0
      (flagIdBytes ++ connection_id.read 0 ConnectionIdLength ++
        mem.read UdpDatagramConnectionIdHeaderLength raw.buffer_offset) := by
    refine Holds.append (Holds.append ((Memory.holds_write_self _ _ _).write_of_disjoint ?_)
      (by simpa using Memory.holds_write_self _ _ _)) ?_
    · simp [UdpDatagramProtocolHeaderFlagLength]
    · refine ((Memory.holds_read _ _ _).write_of_disjoint ?_).write_of_disjoint ?_ <;>
        simp [UdpDatagramConnectionIdHeaderLength, UdpDatagramProtocolHeaderFlagLength,
          ConnectionIdLength]
  have hs := Memory.read_of_holds (Holds.right (a := (flagIdBytes ++
    connection_id.read 0 ConnectionIdLength ++ mem.read UdpDatagramConnectionIdHeaderLength
      raw.buffer_offset).take raw.buffer_offset) (by rwa [List.take_append_drop]))
  simp only [List.length_take, List.length_append, flagIdBytes_length, Memory.read_length,
    List.length_drop] at hs
  rw [sentBytes, shiftedFrame, ← List.drop_append_of_le_length (by simpa using hoff)]
  convert hs using 2 <;> simp only [UdpDatagramConnectionIdHeaderLength, ConnectionIdLength,
    UdpDatagramProtocolHeaderFlagLength] at hl hoff ⊢ <;> omega

section Receiver

variable {recv : ctsIOTask} {mem : Memory} {f : List UInt8}

/-- `SetConnectionIdFromTask` copies the 32 bytes after the flag of the datagram, at every
    `buffer_offset`. -/
theorem SetConnectionIdFromTask_received (target : Memory)
    (hf : f.length = UdpDatagramConnectionIdHeaderLength) :
    (SetConnectionIdFromTask target (received mem recv f) recv).read 0 ConnectionIdLength =
      f.drop UdpDatagramProtocolHeaderFlagLength := by
  have hr : Holds (received mem recv f) (recv.buffer_offset + UdpDatagramProtocolHeaderFlagLength)
      (f.drop UdpDatagramProtocolHeaderFlagLength) := by
    have := (Memory.holds_write_self mem recv.buffer_offset
      (f.take UdpDatagramProtocolHeaderFlagLength ++
        f.drop UdpDatagramProtocolHeaderFlagLength)).right
    simpa [List.take_append_drop, UdpDatagramConnectionIdHeaderLength,
      UdpDatagramProtocolHeaderFlagLength, hf] using this
  have hl : (f.drop UdpDatagramProtocolHeaderFlagLength).length = ConnectionIdLength := by
    simp [hf, UdpDatagramConnectionIdHeaderLength]
  rw [SetConnectionIdFromTask, ← hl, Memory.read_of_holds hr]
  exact Memory.read_of_holds (Memory.holds_write_self _ _ _)

/-- `GetProtocolHeaderFromTask` reads the first two bytes of the buffer: the datagram's at
    `buffer_offset` 0. -/
theorem GetProtocolHeaderFromTask_received_zero (h0 : recv.buffer_offset = 0)
    (hf : UdpDatagramProtocolHeaderFlagLength ≤ f.length) :
    GetProtocolHeaderFromTask (received mem recv f) recv =
      GetProtocolHeaderFromTask (Memory.ofBytes f) recv := by
  unfold GetProtocolHeaderFromTask
  congr 1
  refine readLE_congr fun i hi => ?_
  simp only [UdpDatagramProtocolHeaderFlagLength] at hf
  simp [received, Memory.write, Memory.ofBytes, h0, List.getD_eq_getElem?_getD,
    List.getElem?_eq_getElem (show i < f.length by omega)]

/-- At a `buffer_offset` of 2 or more, the flag is read from the buffer's bytes before the
    datagram: it does not depend on the datagram. -/
theorem GetProtocolHeaderFromTask_received_of_le
    (h : UdpDatagramProtocolHeaderFlagLength ≤ recv.buffer_offset) :
    GetProtocolHeaderFromTask (received mem recv f) recv = GetProtocolHeaderFromTask mem recv := by
  unfold GetProtocolHeaderFromTask
  congr 1
  refine readLE_congr fun i hi => ?_
  simp only [UdpDatagramProtocolHeaderFlagLength] at h
  simp [received, Memory.write, show ¬recv.buffer_offset ≤ i by omega]

end Receiver

/-- An ID frame's flag reads as `UdpDatagramProtocolHeaderFlagId`. -/
theorem GetProtocolHeaderFromTask_idFrame (id : List UInt8) (t : ctsIOTask) :
    GetProtocolHeaderFromTask (Memory.ofBytes (flagIdBytes ++ id)) t =
      UdpDatagramProtocolHeaderFlagId := by
  have hh : Holds (Memory.ofBytes (flagIdBytes ++ id)) 0
      (leBytes UdpDatagramProtocolHeaderFlagLength UdpDatagramProtocolHeaderFlagId.toNat) :=
    (Holds.ofBytes _).left
  rw [GetProtocolHeaderFromTask, show (2 : Nat) = UdpDatagramProtocolHeaderFlagLength from rfl,
    readLE_of_holds hh]
  rfl

/-- The exchange for a raw task at `buffer_offset` up to the frame's length: the receiver
    sees the shifted frame. -/
theorem connectionIdExchange_eq {raw recv : ctsIOTask}
    (connection_id sendMem recvMem target : Memory)
    (hl : raw.buffer_length = UdpDatagramConnectionIdHeaderLength)
    (hoff : raw.buffer_offset ≤ UdpDatagramConnectionIdHeaderLength) :
    connectionIdExchange raw recv connection_id sendMem recvMem target =
      let f := shiftedFrame connection_id sendMem raw.buffer_offset
      .ok (ValidateBufferLengthFromTask (received recvMem recv f) recv
          UdpDatagramConnectionIdHeaderLength,
        GetProtocolHeaderFromTask (received recvMem recv f) recv,
        f.drop UdpDatagramProtocolHeaderFlagLength) := by
  have hf : (shiftedFrame connection_id sendMem raw.buffer_offset).length =
      UdpDatagramConnectionIdHeaderLength := by
    simp only [shiftedFrame, List.length_append, List.length_drop, flagIdBytes_length,
      Memory.read_length]
    simp only [UdpDatagramConnectionIdHeaderLength, ConnectionIdLength,
      UdpDatagramProtocolHeaderFlagLength] at hoff ⊢
    omega
  rcases hm : MakeConnectionIdTask raw connection_id sendMem with e | ⟨t, m⟩
  · rw [MakeConnectionIdTask, if_neg (by rw [hl]; decide)] at hm
    cases hm
  · simp only [connectionIdExchange, hm, bind, Except.bind, pure, Except.pure,
      sentBytes_connectionIdTask hm hoff, hf, SetConnectionIdFromTask_received target hf]

/-- With both tasks at `buffer_offset` 0, every connection id goes through: the frame is
    accepted, read as an ID frame, and its id copied out. -/
theorem connectionIdExchange_of_offset_zero {raw recv : ctsIOTask}
    (connection_id sendMem recvMem target : Memory)
    (hl : raw.buffer_length = UdpDatagramConnectionIdHeaderLength) (h0 : raw.buffer_offset = 0)
    (h0' : recv.buffer_offset = 0) :
    connectionIdExchange raw recv connection_id sendMem recvMem target =
      .ok (true, UdpDatagramProtocolHeaderFlagId, connection_id.read 0 ConnectionIdLength) := by
  have hf : shiftedFrame connection_id sendMem 0 =
      flagIdBytes ++ connection_id.read 0 ConnectionIdLength := by
    simp [shiftedFrame, Memory.read]
  have hh : GetProtocolHeaderFromTask (received recvMem recv (flagIdBytes ++
      connection_id.read 0 ConnectionIdLength)) recv = UdpDatagramProtocolHeaderFlagId := by
    rw [GetProtocolHeaderFromTask_received_zero h0' (by simp), GetProtocolHeaderFromTask_idFrame]
  rw [connectionIdExchange_eq _ _ _ _ hl (by omega), h0, hf]
  simp only [ValidateBufferLengthFromTask, hh]
  simp [flagIdBytes, UdpDatagramProtocolHeaderFlagLength, UdpDatagramConnectionIdHeaderLength,
    ConnectionIdLength]
  decide

/-! ## Frames at a non-zero `buffer_offset` -/

/-- The connection id `01 02 … 20`. -/
def idPattern : Memory := fun i => UInt8.ofNat (i + 1)

/-- A buffer of zeros. -/
def zeroMemory : Memory := fun _ => 0

/-- A 34-byte task of `action` at `buffer_offset` `off`. -/
def frameTask (action : IOTaskAction) (off : Nat) : ctsIOTask :=
  ⟨action, 0, off, UdpDatagramConnectionIdHeaderLength, RIO_INVALID_BUFFERID, .Static, false, 0⟩

theorem connectionIdExchange_of_offset_zero_idPattern :
    connectionIdExchange (frameTask .Send 0) (frameTask .Recv 0) idPattern zeroMemory zeroMemory
        zeroMemory = .ok (true, UdpDatagramProtocolHeaderFlagId, idPattern.read 0 ConnectionIdLength) :=
  connectionIdExchange_of_offset_zero _ _ _ _ rfl rfl rfl

/-- Built in a raw task at `buffer_offset` 2, the frame is sent shifted: the receiver sees the
    flag `0x0201` and rejects the datagram, and the id it copies out is shifted by two bytes.
    Built at offset 0 but received at `buffer_offset` 2, the frame's flag is read from the two
    bytes before it: the ID frame is accepted as a data frame. -/
theorem connectionIdExchange_offset_misread :
    connectionIdExchange (frameTask .Send 2) (frameTask .Recv 0) idPattern zeroMemory zeroMemory
        zeroMemory = .ok (false, 0x0201, idPattern.read 2 30 ++ [0, 0]) ∧
      connectionIdExchange (frameTask .Send 0) (frameTask .Recv 2) idPattern zeroMemory zeroMemory
        zeroMemory = .ok (true, UdpDatagramProtocolHeaderFlagData, idPattern.read 0 32) := by
  constructor
  · have hf : shiftedFrame idPattern zeroMemory 2 = idPattern.read 0 32 ++ [0, 0] := by decide
    have hh : GetProtocolHeaderFromTask (received zeroMemory (frameTask .Recv 0)
        (idPattern.read 0 32 ++ [0, 0])) (frameTask .Recv 0) = 0x0201 := by
      rw [GetProtocolHeaderFromTask_received_zero rfl (by decide)]
      decide
    rw [connectionIdExchange_eq _ _ _ _ rfl (by decide)]
    simp only [frameTask, hf] at hh ⊢
    simp only [ValidateBufferLengthFromTask, hh, Except.ok.injEq]
    decide
  · have hf : shiftedFrame idPattern zeroMemory 0 = flagIdBytes ++ idPattern.read 0 32 := by
      decide
    have hh : GetProtocolHeaderFromTask (received zeroMemory (frameTask .Recv 2)
        (flagIdBytes ++ idPattern.read 0 32)) (frameTask .Recv 2) =
        UdpDatagramProtocolHeaderFlagData := by
      rw [GetProtocolHeaderFromTask_received_of_le le_rfl]
      decide
    rw [connectionIdExchange_eq _ _ _ _ rfl (by decide)]
    simp only [frameTask, hf] at hh ⊢
    simp only [ValidateBufferLengthFromTask, hh, Except.ok.injEq]
    decide

end CtsTraffic
