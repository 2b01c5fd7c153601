import Mathlib

/-
  ctsTraffic: the data every component reads. The configuration enums of `ctsConfig.h`,
  the Winsock error codes the engine compares against, and `ctsIOTask`, the unit of work
  handed from an IO pattern to a driver.

  `ctsIOTask.hpp` and `ctsStatistics.hpp` are not part of the sources. The task's fields are
  the ones the modelled functions read or write (spec §3, "IoTask"); a buffer is an address,
  a `Nat`. Integers of the source are `Nat`, with the width stated where it matters.
-/

namespace CtsTraffic

/-! ## Configuration (`ctsConfig.h`) -/

/-- `ctsConfig::ProtocolType`. -/
inductive ProtocolType
  | NoProtocolSet
  | TCP
  | UDP
  deriving DecidableEq, Repr

/-- `ctsConfig::TcpShutdownType`. -/
inductive TcpShutdownType
  | NoShutdownOptionSet
  | ServerSideShutdown
  | GracefulShutdown
  | HardShutdown
  deriving DecidableEq, Repr

/-! ## Error codes -/

/-- `NO_ERROR`. -/
def NO_ERROR : Nat := 0

/-- `WSAECONNABORTED`. -/
def WSAECONNABORTED : Nat := 10053

/-- `WSAECONNRESET`. -/
def WSAECONNRESET : Nat := 10054

/-- `WSAENOBUFS`. -/
def WSAENOBUFS : Nat := 10055

/-- `WSAETIMEDOUT`. -/
def WSAETIMEDOUT : Nat := 10060

/-- `WSA_IO_PENDING` (and `ERROR_IO_PENDING`, the same value). -/
def WSA_IO_PENDING : Nat := 997

/-- Modelled from the spec: `ctsStatistics::ConnectionIdLength`, the 32-byte connection id
    (spec §3, "ConnectionId"). -/
def ConnectionIdLength : Nat := 32

/-! ## Bytes in memory -/

/-- Bytes by address. A function reading through a pointer sees the bytes from it on. -/
abbrev Memory := Nat → UInt8

/-- `mem` holds `bytes` from `pos` on. -/
def Holds (mem : Memory) (pos : Nat) (bytes : List UInt8) : Prop :=
  ∀ i (h : i < bytes.length), mem (pos + i) = bytes[i]

instance (mem : Memory) (pos : Nat) (bytes : List UInt8) : Decidable (Holds mem pos bytes) :=
  inferInstanceAs (Decidable (∀ i (h : i < bytes.length), mem (pos + i) = bytes[i]))

/-- `mem` with `bytes` copied to `pos` (`memcpy_s`). -/
def Memory.write (mem : Memory) (pos : Nat) (bytes : List UInt8) : Memory :=
  fun a => if pos ≤ a then bytes[a - pos]?.getD (mem a) else mem a

/-- The `n` bytes from `pos`. -/
def Memory.read (mem : Memory) (pos n : Nat) : List UInt8 :=
  (List.range n).map fun i => mem (pos + i)

theorem Memory.holds_write_self (mem : Memory) (pos : Nat) (bytes : List UInt8) :
    Holds (mem.write pos bytes) pos bytes := fun i hi => by
  simp [Memory.write, hi]

/-- A copy leaves the bytes outside its range as they were. -/
theorem Holds.write_of_disjoint {mem : Memory} {pos pos' : Nat} {bytes b : List UInt8}
    (h : Holds mem pos' b) (hd : pos + bytes.length ≤ pos' ∨ pos' + b.length ≤ pos) :
    Holds (mem.write pos bytes) pos' b := fun i hi => by
  rw [← h i hi, Memory.write]
  split_ifs with hle
  · rw [List.getElem?_eq_none (by omega), Option.getD_none]
  · rfl

theorem Memory.read_of_holds {mem : Memory} {pos : Nat} {bytes : List UInt8}
    (h : Holds mem pos bytes) : mem.read pos bytes.length = bytes :=
  List.ext_getElem (by simp [Memory.read]) fun i _ hi => by simp [Memory.read, h i hi]

/-! ## Tasks (`ctsIOTask`) -/

/-- Modelled from the spec: `IOTaskAction` (spec §3, "IoTask"). -/
inductive IOTaskAction
  | None
  | Send
  | Recv
  | GracefulShutdown
  | HardShutdown
  deriving DecidableEq, Repr

/-- Modelled from the spec: `ctsIOTask::BufferType` (spec §3, "IoTask"). -/
inductive BufferType
  | Static
  | TcpConnectionId
  | UdpConnectionId
  | MediaStreamData
  | Tracked
  deriving DecidableEq, Repr

/-- `RIO_INVALID_BUFFERID`: the buffer id of a task not registered for RIO. -/
def RIO_INVALID_BUFFERID : Nat := 0

/-- Modelled from the spec: `ctsIOTask`. `buffer` is the address of the task's buffer; the
    IO covers `buffer_length` bytes from `buffer + buffer_offset`. -/
structure ctsIOTask where
  ioAction : IOTaskAction
  buffer : Nat
  buffer_offset : Nat
  buffer_length : Nat
  rio_bufferid : Nat
  buffer_type : BufferType
  track_io : Bool
  time_offset_milliseconds : Int
  deriving DecidableEq, Repr

/-! ## Lists of threads and sockets -/

theorem set_self_of_getElem? {α : Type} : ∀ {l : List α} {i : Nat} {x : α},
    l[i]? = some x → l.set i x = l
  | _ :: _, 0, _, h => by rw [List.getElem?_cons_zero, Option.some.injEq] at h; rw [h]; rfl
  | _ :: l, _ + 1, _, h =>
    congrArg _ (set_self_of_getElem? (l := l) (by rwa [List.getElem?_cons_succ] at h))

end CtsTraffic
