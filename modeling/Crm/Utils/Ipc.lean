import Crm.Lib.Bits
import Crm.Lib.Outcome
import Mathlib.Algebra.GroupWithZero.Nat

/-!
# Messages between threads and between processes (libs/utils/src/ipc.c)

`crm_ipc_init(CRM_IPC_THREAD)`: a ring of `MSG_QUEUE_SIZE` messages under a lock, here the list of what is in it,
oldest first.

`crm_ipc_init(CRM_IPC_PROCESS)`: a pipe. A message is a header of two `int`, its scalar and the size of its data, and
then the data, in a write of its own when there is any. A `read` or a `write` moves at most `maxTransfer` bytes.
-/

namespace Crm

open Lib

def msgQueueSize : Nat := 8

/-- `send_msg_thread` (ipc.c:169-193): the queue with the message, or `none` where it returns false. -/
def sendMsgThread {α : Type} (queue : List α) (msg : α) : Option (List α) :=
  if queue.length < msgQueueSize then some (queue ++ [msg]) else none

/-- A sender that does not look at what `send_msg_thread` returns: the message is lost when the queue is full. -/
def sendMsgOrDrop {α : Type} (queue : List α) (msg : α) : List α := (sendMsgThread queue msg).getD queue

theorem sendMsgThread_eq_some {α : Type} {queue queue' : List α} {msg : α} (h : sendMsgThread queue msg = some queue') :
    queue' = queue ++ [msg] := by
  unfold sendMsgThread at h
  split at h
  · exact (Option.some.inj h).symm
  · cases h

theorem sendMsgOrDrop_eq {α : Type} (queue : List α) (msg : α) :
    sendMsgOrDrop queue msg = queue ++ [msg] ∨ sendMsgOrDrop queue msg = queue := by
  unfold sendMsgOrDrop
  cases h : sendMsgThread queue msg with
  | none => exact .inr rfl
  | some queue' => exact .inl (sendMsgThread_eq_some h)

/-! ## Between processes -/

/-- `crm_ipc_msg_t`, with the `data_size` bytes that `data` points to. -/
structure IpcMsg where
  scalar : BitVec 64
  data : List UInt8
deriving DecidableEq, Repr

/-- An `int` as it lies in memory. -/
def intBytes (n : BitVec 32) : List UInt8 :=
  [.ofNat n.toNat, .ofNat (n.toNat / 0x100), .ofNat (n.toNat / 0x10000), .ofNat (n.toNat / 0x1000000)]

def bytesInt (b : List UInt8) : BitVec 32 := .ofNat 32 (b.foldr (fun x n => x.toNat + 0x100 * n) 0)

/-- `msg_hdr`, which `send_msg_process` (ipc.c:120-136) writes first: what does not fit in an `int` is lost. -/
def IpcMsg.header (m : IpcMsg) : List UInt8 := intBytes (m.scalar.setWidth 32) ++ intBytes (.ofNat 32 m.data.length)

/-- The writes of `send_msg_process`. -/
def IpcMsg.writes (m : IpcMsg) : List (List UInt8) := if m.data = [] then [m.header] else [m.header, m.data]

/-- `scalar` and `data_size`, as `get_msg_process` (:93-115) takes them from the header. -/
def headerScalar (hdr : List UInt8) : BitVec 64 := (bytesInt (hdr.take 4)).signExtend 64
def headerSize (hdr : List UInt8) : Nat := ((bytesInt (hdr.drop 4)).signExtend 64).toNat

/-- Nothing of its header is lost. -/
structure IpcMsg.Fits (m : IpcMsg) : Prop where
  scalar : (m.scalar.setWidth 32).signExtend 64 = m.scalar
  size : m.data.length < 2 ^ 31

@[simp] theorem length_intBytes (n : BitVec 32) : (intBytes n).length = 4 := rfl

@[simp] theorem length_header (m : IpcMsg) : m.header.length = 8 := rfl

theorem bytesInt_intBytes (n : BitVec 32) : bytesInt (intBytes n) = n := by
  have hn := n.isLt
  refine BitVec.eq_of_toNat_eq ?_
  simp only [bytesInt, intBytes, List.foldr_cons, List.foldr_nil, UInt8.toNat_ofNat', BitVec.toNat_ofNat]
  omega

theorem headerScalar_eq (m : IpcMsg) : headerScalar m.header = (m.scalar.setWidth 32).signExtend 64 := by
  have htake : m.header.take 4 = intBytes (m.scalar.setWidth 32) := rfl
  rw [headerScalar, htake, bytesInt_intBytes]

theorem headerScalar_header {m : IpcMsg} (h : m.Fits) : headerScalar m.header = m.scalar := by
  rw [headerScalar_eq, h.scalar]

theorem headerSize_header {m : IpcMsg} (hsize : m.data.length < 2 ^ 31) : headerSize m.header = m.data.length := by
  have hdrop : m.header.drop 4 = intBytes (.ofNat 32 m.data.length) := rfl
  have hnat : (BitVec.ofNat 32 m.data.length).toNat = m.data.length := by
    rw [BitVec.toNat_ofNat]
    omega
  rw [headerSize, hdrop, bytesInt_intBytes, toNat_signExtend_of_nonneg (by decide) (by omega), hnat]

/-! ### A message on a quiet pipe -/

/-- What one `read` or `write` moves at most. -/
def maxTransfer : Nat := 0x7ffff000

/-- The ASSERTs of `send_msg_process` and `get_msg_process`. -/
inductive IpcPipeAbort where
  | write | header | memory | data
deriving DecidableEq, Repr

def pipeWrite (pipe bytes : List UInt8) : List UInt8 × Nat :=
  (pipe ++ bytes.take maxTransfer, (bytes.take maxTransfer).length)

def pipeRead (pipe : List UInt8) (size : Nat) : List UInt8 × List UInt8 :=
  (pipe.take (min size maxTransfer), pipe.drop (min size maxTransfer))

def writeWhole (pipe bytes : List UInt8) : Except IpcPipeAbort (List UInt8) := do
  check (decide ((pipeWrite pipe bytes).2 = bytes.length)) .write
  .ok (pipeWrite pipe bytes).1

/-- `send_msg_process` (ipc.c:120-136): what is in the pipe afterwards. -/
def sendMsgProcess (pipe : List UInt8) (m : IpcMsg) : Except IpcPipeAbort (List UInt8) := m.writes.foldlM writeWhole pipe

/-- `get_msg_process` (:93-115): the message, and what is left in the pipe. -/
def getMsgProcess (pipe : List UInt8) : Except IpcPipeAbort (IpcMsg × List UInt8) := do
  let (hdr, pipe) := pipeRead pipe 8
  check (decide (hdr.length = 8)) .header
  if headerSize hdr = 0 then .ok (⟨headerScalar hdr, []⟩, pipe)
  else do
    -- a negative `int` has become a size that `malloc` refuses
    check (decide (headerSize hdr < 2 ^ 31)) .memory
    let (data, pipe) := pipeRead pipe (headerSize hdr)
    check (decide (data.length = headerSize hdr)) .data
    .ok (⟨headerScalar hdr, data⟩, pipe)

/-- What the other end of an empty pipe gets. -/
def received (m : IpcMsg) : Except IpcPipeAbort (IpcMsg × List UInt8) := sendMsgProcess [] m >>= getMsgProcess

/-- The message comes out as it went in, and nothing else does. -/
def RoundTrips (m : IpcMsg) : Prop := received m = .ok (m, [])

section
variable {m : IpcMsg} {pipe bytes rest : List UInt8}

theorem writeWhole_eq (h : bytes.length ≤ maxTransfer) : writeWhole pipe bytes = .ok (pipe ++ bytes) := by
  simp [writeWhole, pipeWrite, List.take_of_length_le h, check_bind]

theorem pipeRead_append (h : bytes.length ≤ maxTransfer) : pipeRead (bytes ++ rest) bytes.length = (bytes, rest) := by
  simp [pipeRead, Nat.min_eq_left h]

theorem header_le (m : IpcMsg) : m.header.length ≤ maxTransfer := by
  rw [length_header]
  decide

theorem sendMsgProcess_eq (h : m.data.length ≤ maxTransfer) : sendMsgProcess pipe m = .ok (pipe ++ (m.header ++ m.data)) := by
  have hheader : writeWhole pipe m.header = .ok (pipe ++ m.header) := writeWhole_eq (header_le m)
  unfold sendMsgProcess IpcMsg.writes
  split
  · rename_i hdata
    rw [List.foldlM_cons, hheader, hdata, List.append_nil]
    rfl
  · rw [List.foldlM_cons, hheader, ← List.append_assoc]
    show [m.data].foldlM writeWhole (pipe ++ m.header) = _
    rw [List.foldlM_cons, writeWhole_eq h]
    rfl

theorem getMsgProcess_eq (h : m.data.length ≤ maxTransfer) :
    getMsgProcess (m.header ++ m.data ++ rest) = .ok (⟨(m.scalar.setWidth 32).signExtend 64, m.data⟩, rest) := by
  have hheader : pipeRead (m.header ++ (m.data ++ rest)) 8 = (m.header, m.data ++ rest) := pipeRead_append (header_le m)
  have hlt : m.data.length < 2 ^ 31 := lt_of_le_of_lt h (by decide)
  have hlength : decide (m.header.length = 8) = true := rfl
  unfold getMsgProcess
  rw [List.append_assoc, hheader]
  dsimp only
  rw [check_bind hlength, headerSize_header hlt, headerScalar_eq]
  by_cases hdata : m.data = []
  · simp [hdata]
  · rw [if_neg (by simpa using hdata), check_bind (decide_eq_true hlt), pipeRead_append h]
    dsimp only
    rw [check_bind (decide_eq_true rfl)]

/-- Whatever its scalar, a message arrives, with the scalar cut to an `int`. -/
theorem received_eq (h : m.data.length ≤ maxTransfer) :
    received m = .ok (⟨(m.scalar.setWidth 32).signExtend 64, m.data⟩, []) := by
  have hget : getMsgProcess (m.header ++ m.data ++ []) = .ok (⟨(m.scalar.setWidth 32).signExtend 64, m.data⟩, []) :=
    getMsgProcess_eq h
  rw [List.append_nil] at hget
  rw [received, sendMsgProcess_eq h]
  exact hget

theorem roundTrips_iff (h : m.data.length ≤ maxTransfer) :
    RoundTrips m ↔ -2 ^ 31 ≤ m.scalar.toInt ∧ m.scalar.toInt < 2 ^ 31 := by
  rw [← signExtend_setWidth_iff (by decide : 31 + 1 ≤ 64), RoundTrips, received_eq h]
  constructor
  · intro hok
    injection hok with hok
    exact congrArg (fun x => x.1.scalar) hok
  · intro hscalar
    rw [hscalar]

end

end Crm
