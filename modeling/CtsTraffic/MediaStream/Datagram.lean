import CtsTraffic.Basic

/-
  The MediaStream UDP datagram (ctsMediaStreamProtocol.hpp). A `ctsMediaStreamSendRequests`
  yields datagrams of five regions: the protocol flag, the sequence number, the QPC (read at
  each dereference), the QPF, each little-endian, and the payload. A receiver reads them
  back from the task it received into with the static functions of `ctsMediaStreamMessage`.

  Memory is what a pointer sees: byte `i` is the one `i` bytes past it. A datagram received
  into a task sits at `buffer + buffer_offset`; the other bytes of the buffer are whatever
  was there. Reads past the end of a buffer (undefined behaviour in the source) are not
  modelled: every read is of memory the statements say what it holds.

  `GetQueryPerfCounterFromTask` and `GetQueryPerfFrequencyFromTask` copy from
  `buffer + buffer_offset + UdpDatagramProtocolHeaderFlagLength`, where the sequence number
  is: for every datagram both return its sequence number (`datagram_readers`). And
  `GetProtocolHeaderFromTask` reads at `buffer`, without `buffer_offset`.
-/

namespace CtsTraffic

/-! ## The wire constants -/

def UdpDatagramProtocolHeaderFlagData : BitVec 16 := 0x0000
def UdpDatagramProtocolHeaderFlagId : BitVec 16 := 0x1000

def UdpDatagramProtocolHeaderFlagLength : Nat := 2
def UdpDatagramConnectionIdHeaderLength : Nat :=
  UdpDatagramProtocolHeaderFlagLength + ConnectionIdLength

def UdpDatagramSequenceNumberLength : Nat := 8
def UdpDatagramQPCLength : Nat := 8
def UdpDatagramQPFLength : Nat := 8
def UdpDatagramDataHeaderLength : Nat :=
  UdpDatagramProtocolHeaderFlagLength + UdpDatagramSequenceNumberLength + UdpDatagramQPCLength +
    UdpDatagramQPFLength

def UdpDatagramMaximumSizeBytes : Nat := 64000

/-- The `FAIL_FAST` checks of the MediaStream framing. -/
inductive MediaStreamFailFast
  /-- "ctsMediaStreamSendRequests requires a buffer size to send larger than the ctsTraffic UDP
      header" -/
  | sendRequestTooSmall
  /-- "Invalid ctsMediaStreamSendRequests::iterator being dereferenced (%p)" -/
  | invalidIterator
  /-- Modelled from the spec: a `ctsUnsignedLong` (a checked `unsigned long`) leaving its
      range is a fatal check. -/
  | unsignedLongOverflow
  /-- "ctsMediaStreamMessage::GetConnectionIdFromTask : the buffer_length in the provided task
      (%u) is not the expected buffer length (%u)" -/
  | connectionIdTaskLength
  deriving DecidableEq, Repr

/-! ## Little-endian values -/

/-- The `n` little-endian bytes of `x`, its low `8 * n` bits. -/
def leBytes : Nat → Nat → List UInt8
  | 0, _ => []
  | n + 1, x => UInt8.ofNat x :: leBytes n (x / 256)

/-- The value of the `n` bytes from `pos`, as `memcpy` into an integer reads them on the
    little-endian targets of the source. -/
def readLE (mem : Memory) (pos : Nat) : Nat → Nat
  | 0 => 0
  | n + 1 => (mem pos).toNat + 256 * readLE mem (pos + 1) n

/-- A buffer holding `bytes` from its start, zero after them. -/
def Memory.ofBytes (bytes : List UInt8) : Memory := fun i => bytes.getD i 0

@[simp] theorem leBytes_length (n x : Nat) : (leBytes n x).length = n := by
  induction n generalizing x <;> simp [leBytes, *]

theorem UInt8.toNat_ofNat' (x : Nat) : (UInt8.ofNat x).toNat = x % 256 := by
  simp [UInt8.ofNat, UInt8.toNat, BitVec.toNat_ofNat]

theorem Holds.left {mem : Memory} {pos : Nat} {a b : List UInt8} (h : Holds mem pos (a ++ b)) :
    Holds mem pos a := fun i hi => by
  rw [h i (by simp; omega), List.getElem_append_left hi]

theorem Holds.right {mem : Memory} {pos : Nat} {a b : List UInt8} (h : Holds mem pos (a ++ b)) :
    Holds mem (pos + a.length) b := fun i hi => by
  rw [Nat.add_assoc, h (a.length + i) (by simp; omega), List.getElem_append_right (by omega)]
  simp

theorem Holds.ofBytes (bytes : List UInt8) : Holds (Memory.ofBytes bytes) 0 bytes := fun i hi => by
  simp [Memory.ofBytes, List.getD_eq_getElem?_getD, hi]

/-- Little-endian bytes read back as the value they encode. -/
theorem readLE_of_holds {mem : Memory} {pos n x : Nat} (h : Holds mem pos (leBytes n x)) :
    readLE mem pos n = x % 256 ^ n := by
  induction n generalizing pos x with
  | zero => simp [readLE, Nat.mod_one]
  | succ n ih =>
    have h0 : mem pos = UInt8.ofNat x := h 0 (by simp)
    have h1 : Holds mem (pos + 1) (leBytes n (x / 256)) := Holds.right (a := [UInt8.ofNat x]) h
    rw [readLE, h0, ih h1, UInt8.toNat_ofNat', Nat.pow_succ', Nat.mod_mul]

/-! ## The sender -/

/-- `ctsMediaStreamSendRequests`: the QPF snapped by the constructor, the bytes of the frame,
    its sequence number, and the payload buffer (`wsabuf[4].buf`). -/
structure ctsMediaStreamSendRequests where
  qpf : BitVec 64
  bytes_to_send : Int
  sequence_number : BitVec 64
  send_buffer : Memory

namespace ctsMediaStreamSendRequests

/-- The constructor, with its check that the frame is larger than the data header. -/
def make (qpf : BitVec 64) (bytes_to_send : Int) (sequence_number : BitVec 64)
    (send_buffer : Memory) : Except MediaStreamFailFast ctsMediaStreamSendRequests :=
  if bytes_to_send ≤ UdpDatagramDataHeaderLength then .error .sendRequestTooSmall
  else .ok ⟨qpf, bytes_to_send, sequence_number, send_buffer⟩

/-- `ctsMediaStreamSendRequests::iterator`: whether `qpc_address` points at the request's
    QPC (it is null in `end()`), the bytes still to send after the current datagram, and
    `wsa_buf_array[4].len`, the current payload length. -/
structure iterator where
  qpc_address : Bool
  bytes_to_send : Int
  payload_len : Nat
  deriving DecidableEq, Repr

namespace iterator

/-- `update_buffer_length`: the payload length of the next datagram, cut so that what is left
    after it is 0 or more than a header; returns the datagram's length. -/
def update_buffer_length (it : iterator) : Except MediaStreamFailFast (Nat × iterator) :=
  if it.qpc_address then
    let len : Nat :=
      if it.bytes_to_send > UdpDatagramMaximumSizeBytes then
        UdpDatagramMaximumSizeBytes - UdpDatagramDataHeaderLength
      else ((it.bytes_to_send - UdpDatagramDataHeaderLength) % 2 ^ 32).toNat
    -- the lengths of `wsa_buf_array[0]` to `[3]` are the header's
    let total := UdpDatagramDataHeaderLength + len
    if 2 ^ 32 ≤ total then .error .unsignedLongOverflow
    else
      let bytes_remaining := it.bytes_to_send - total
      if 0 < bytes_remaining ∧ bytes_remaining ≤ UdpDatagramDataHeaderLength then
        let delta_to_remove := UdpDatagramDataHeaderLength + 1 - bytes_remaining.toNat
        if len < delta_to_remove then .error .unsignedLongOverflow
        else .ok (total - delta_to_remove, { it with payload_len := len - delta_to_remove })
      else .ok (total, { it with payload_len := len })
  else .ok (0, it)

/-- The private constructor: the first datagram's length is taken off `bytes_to_send`. -/
def create (qpc_address : Bool) (bytes_to_send : Int) : Except MediaStreamFailFast iterator :=
  match update_buffer_length ⟨qpc_address, bytes_to_send, 0⟩ with
  | .error f => .error f
  | .ok (n, it) => .ok { it with bytes_to_send := it.bytes_to_send - n }

/-- The pre-increment `operator++`: past the last datagram it becomes `end()`. -/
def next (it : iterator) : Except MediaStreamFailFast iterator :=
  if it.qpc_address = false then .error .invalidIterator
  else if it.bytes_to_send = 0 then .ok { it with qpc_address := false }
  else
    match update_buffer_length it with
    | .error f => .error f
    | .ok (n, it') => .ok { it' with bytes_to_send := it'.bytes_to_send - n }

/-- `operator==`: the payload length is not compared. -/
def same (a b : iterator) : Bool :=
  a.qpc_address == b.qpc_address && a.bytes_to_send == b.bytes_to_send

end iterator

/-- `begin()`. -/
def begin (r : ctsMediaStreamSendRequests) : Except MediaStreamFailFast iterator :=
  iterator.create true r.bytes_to_send

/-- `end()`: a null `qpc_address` and no bytes. -/
def «end» : Except MediaStreamFailFast iterator := iterator.create false 0

/-- The datagram of a dereferenced iterator: the five buffers of `wsa_buf_array`, with the
    QPC that `QueryPerformanceCounter` wrote at the dereference. -/
def datagram (r : ctsMediaStreamSendRequests) (qpc : BitVec 64) (payload_len : Nat) :
    List UInt8 :=
  leBytes UdpDatagramProtocolHeaderFlagLength UdpDatagramProtocolHeaderFlagData.toNat ++
    leBytes UdpDatagramSequenceNumberLength r.sequence_number.toNat ++
    leBytes UdpDatagramQPCLength qpc.toNat ++
    leBytes UdpDatagramQPFLength r.qpf.toNat ++
    (List.range payload_len).map r.send_buffer

@[simp] theorem datagram_length (r : ctsMediaStreamSendRequests) (qpc : BitVec 64) (len : Nat) :
    (r.datagram qpc len).length = UdpDatagramDataHeaderLength + len := by
  simp [datagram, UdpDatagramDataHeaderLength, Nat.add_assoc]

end ctsMediaStreamSendRequests

/-! ## The receiver -/

namespace ctsMediaStreamMessage

/-- `GetProtocolHeaderFromTask`: the `unsigned short` at `_task.buffer`. -/
def GetProtocolHeaderFromTask (mem : Memory) (_task : ctsIOTask) : BitVec 16 :=
  BitVec.ofNat 16 (readLE mem 0 2)

/-- The three `long long` readers: `memcpy_s` of `UdpDatagramSequenceNumberLength` bytes
    from `_task.buffer + _task.buffer_offset + pos`. -/
def readLongLong (mem : Memory) (t : ctsIOTask) (pos : Nat) : BitVec 64 :=
  BitVec.ofNat 64 (readLE mem (t.buffer_offset + pos) UdpDatagramSequenceNumberLength)

/-- `GetSequenceNumberFromTask`. -/
def GetSequenceNumberFromTask (mem : Memory) (t : ctsIOTask) : BitVec 64 :=
  readLongLong mem t UdpDatagramProtocolHeaderFlagLength

/-- `GetQueryPerfCounterFromTask`: the source copies from the sequence number's offset. -/
def GetQueryPerfCounterFromTask (mem : Memory) (t : ctsIOTask) : BitVec 64 :=
  readLongLong mem t UdpDatagramProtocolHeaderFlagLength

/-- `GetQueryPerfFrequencyFromTask`: the source copies from the sequence number's offset. -/
def GetQueryPerfFrequencyFromTask (mem : Memory) (t : ctsIOTask) : BitVec 64 :=
  readLongLong mem t UdpDatagramProtocolHeaderFlagLength

/-- `ValidateBufferLengthFromTask`: room for the flag, then for the header of its frame type.
    The error texts it prints are not modelled. -/
def ValidateBufferLengthFromTask (mem : Memory) (t : ctsIOTask) (completed_bytes : Nat) : Bool :=
  if completed_bytes < UdpDatagramProtocolHeaderFlagLength then false
  else
    let header := GetProtocolHeaderFromTask mem t
    if header = UdpDatagramProtocolHeaderFlagData then
      decide (UdpDatagramDataHeaderLength ≤ completed_bytes)
    else if header = UdpDatagramProtocolHeaderFlagId then
      decide (UdpDatagramConnectionIdHeaderLength ≤ completed_bytes)
    else false

end ctsMediaStreamMessage

/-! ## Reading a datagram back -/

open ctsMediaStreamMessage ctsMediaStreamSendRequests

section Reading

variable {r : ctsMediaStreamSendRequests} {qpc : BitVec 64} {len : Nat} {mem : Memory}
  {t : ctsIOTask}

theorem datagram_holds_sequence_number (h : Holds mem t.buffer_offset (r.datagram qpc len)) :
    Holds mem (t.buffer_offset + UdpDatagramProtocolHeaderFlagLength)
      (leBytes UdpDatagramSequenceNumberLength r.sequence_number.toNat) := by
  unfold datagram at h
  simpa using h.left.left.left.right

/-- The readers of the three `long long` fields all read the sequence number. -/
theorem datagram_readers (h : Holds mem t.buffer_offset (r.datagram qpc len)) :
    GetSequenceNumberFromTask mem t = r.sequence_number ∧
      GetQueryPerfCounterFromTask mem t = r.sequence_number ∧
      GetQueryPerfFrequencyFromTask mem t = r.sequence_number := by
  have hseq : readLongLong mem t UdpDatagramProtocolHeaderFlagLength = r.sequence_number := by
    rw [readLongLong, readLE_of_holds (datagram_holds_sequence_number h)]
    apply BitVec.eq_of_toNat_eq
    have := r.sequence_number.isLt
    simp [UdpDatagramSequenceNumberLength]
    omega
  exact ⟨hseq, hseq, hseq⟩

end Reading

/-! ## The spec's sixth scenario -/

/-- The frame of the scenario: 126 bytes, sequence number 42, QPF 10 000 000, and a payload
    of bytes `0xAA`. -/
def scenarioRequest : ctsMediaStreamSendRequests := ⟨10000000, 126, 42, fun _ => 0xAA⟩

/-- Its one datagram, with QPC `0x1122334455667788`. -/
def scenarioDatagram : List UInt8 := scenarioRequest.datagram 0x1122334455667788 100

/-- A task receiving it at `buffer_offset` `off`. -/
def scenarioRecv (off : Nat) : ctsIOTask :=
  ⟨.Recv, 0, off, 126, RIO_INVALID_BUFFERID, .Static, false, 0⟩

theorem datagram_readers_scenario :
    GetSequenceNumberFromTask (Memory.ofBytes scenarioDatagram) (scenarioRecv 0) = 42 ∧
      GetQueryPerfCounterFromTask (Memory.ofBytes scenarioDatagram) (scenarioRecv 0) = 42 ∧
      GetQueryPerfFrequencyFromTask (Memory.ofBytes scenarioDatagram) (scenarioRecv 0) = 42 :=
  @datagram_readers scenarioRequest 0x1122334455667788 100 (Memory.ofBytes scenarioDatagram)
    (scenarioRecv 0) (Holds.ofBytes _)

/-- The iterator yields the one datagram of the scenario, which starts with the bytes the spec
    gives. Received at `buffer_offset` 0, its QPC and QPF are read as the sequence number 42;
    received at `buffer_offset` 2 after the bytes `34 12`, it is rejected as of an unknown
    frame type. -/
theorem mediaStream_scenario_misread :
    scenarioRequest.begin = .ok ⟨true, 0, 100⟩ ∧
      ctsMediaStreamSendRequests.iterator.next ⟨true, 0, 100⟩ = .ok ⟨false, 0, 100⟩ ∧
      scenarioDatagram.take 26 = [0x00, 0x00, 0x2a, 0x00, 0x00, 0x00, 0x00, 0x00, 0x00, 0x00,
        0x88, 0x77, 0x66, 0x55, 0x44, 0x33, 0x22, 0x11, 0x80, 0x96, 0x98, 0x00, 0x00, 0x00, 0x00,
        0x00] ∧
      GetSequenceNumberFromTask (Memory.ofBytes scenarioDatagram) (scenarioRecv 0) = 42 ∧
      GetQueryPerfCounterFromTask (Memory.ofBytes scenarioDatagram) (scenarioRecv 0) = 42 ∧
      GetQueryPerfFrequencyFromTask (Memory.ofBytes scenarioDatagram) (scenarioRecv 0) = 42 ∧
      ValidateBufferLengthFromTask (Memory.ofBytes ([0x34, 0x12] ++ scenarioDatagram))
        (scenarioRecv 2) 126 = false :=
  ⟨rfl, rfl, by decide, by decide, by decide, by decide, by decide⟩

end CtsTraffic
