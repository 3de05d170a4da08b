import Crm.Lib.Outcome
import Crm.Lib.Ring
import Crm.Utils.Ipc

/-!
# Messages between threads, in the ring (libs/utils/src/ipc.c)

| here | there |
| --- | --- |
| `IpcThread`     | `crm_ipc_ctx_internal_t` (:39-52) of a `CRM_IPC_THREAD`; `pipe` counts the bytes not yet read from `r_fd` |
| `IpcThread.sendMsg`, `IpcThread.getMsg` | `send_msg_thread`, `get_msg_thread` (:141-193), each under the lock |
| `IpcRun`, `ipcStep` | any threads calling both, with what was accepted and what was received so far |

`get_msg_thread` would block for ever in its `read` if the pipe were empty: that is an abort here, as is a `write`
that the pipe does not take whole. The ring refines the list `Crm.sendMsgThread` works on.
-/

namespace Crm

open Lib

/-- What a pipe holds on Linux, in bytes. -/
def pipeSize : Nat := 65536

inductive IpcAbort where
  | read | write | bounds
deriving DecidableEq, Repr

structure IpcThread (α : Type) where
  rFd : Int
  wFd : Int
  msgs : Lib.Ring α
  pipe : Nat
deriving DecidableEq, Repr

variable {α : Type}

/-- `crm_ipc_init` (:226-258) with the two ends `pipe` returned; `calloc` leaves `zero` in every cell. -/
def crmIpcInit (zero : α) (rFd wFd : Nat) : IpcThread α :=
  { rFd, wFd, msgs := { cells := List.replicate msgQueueSize zero, num := 0, rIdx := 0, wIdx := 0 }, pipe := 0 }

/-- `send_msg_thread` (:169-193). -/
def IpcThread.sendMsg (c : IpcThread α) (msg : α) : Except IpcAbort (IpcThread α × Bool) :=
  if c.msgs.num < msgQueueSize ∧ c.wFd ≠ -1 then do
    check (c.msgs.wIdx < c.msgs.cells.length) .bounds
    check (c.pipe < pipeSize) .write
    .ok ({ c with msgs := c.msgs.put msg, pipe := c.pipe + 1 }, true)
  else .ok (c, false)

/-- `get_msg_thread` (:141-164). -/
def IpcThread.getMsg (c : IpcThread α) : Except IpcAbort (IpcThread α × Option α) :=
  if 0 < c.msgs.num ∧ c.rFd ≠ -1 then
    match c.msgs.front with
    | none => .error .bounds
    | some msg => do
      check (0 < c.pipe) .read
      .ok ({ c with msgs := c.msgs.take, pipe := c.pipe - 1 }, some msg)
  else .ok (c, none)

/-! ## One call -/

/-- An open IPC that holds `pending`: a byte in the pipe for each of them. -/
structure IpcThread.Holds (c : IpcThread α) (pending : List α) : Prop where
  msgs : c.msgs.Holds pending
  size : c.msgs.cells.length = msgQueueSize
  pipe : c.pipe = c.msgs.num
  rOpen : c.rFd ≠ -1
  wOpen : c.wFd ≠ -1

section
variable {c : IpcThread α} {pending : List α} {msg : α}

theorem IpcThread.Holds.num (h : c.Holds pending) : c.msgs.num = pending.length := h.msgs.num

theorem IpcThread.Holds.le (h : c.Holds pending) : pending.length ≤ msgQueueSize := h.size ▸ h.msgs.fits

theorem crmIpcInit_holds (zero : α) (rFd wFd : Nat) : (crmIpcInit zero rFd wFd).Holds [] := by
  refine ⟨Lib.Ring.holds_empty (by decide) zero, by simp [crmIpcInit], rfl, ?_, ?_⟩
  · show (rFd : Int) ≠ -1
    omega
  · show (wFd : Int) ≠ -1
    omega

theorem IpcThread.Holds.sendMsg_ok (h : c.Holds pending) (hroom : pending.length < msgQueueSize) (msg : α) :
    ∃ c', c.sendMsg msg = .ok (c', true) ∧ c'.Holds (pending ++ [msg]) := by
  have hnum := h.num
  have hput := h.msgs.put (h.size ▸ hroom) msg
  refine ⟨{ c with msgs := c.msgs.put msg, pipe := c.pipe + 1 }, ?_, hput, ?_, ?_, h.rOpen, h.wOpen⟩
  · have hpipe : c.pipe < pipeSize := by
      rw [h.pipe, hnum]
      exact Nat.lt_trans hroom (by decide)
    unfold IpcThread.sendMsg
    rw [if_pos ⟨hnum ▸ hroom, h.wOpen⟩, check_bind (by simpa using h.msgs.wIdx_lt), check_bind (by simpa using hpipe)]
  · simpa [Lib.Ring.put] using h.size
  · show c.pipe + 1 = c.msgs.num + 1
    rw [h.pipe]

theorem IpcThread.Holds.sendMsg_full (h : c.Holds pending) (hfull : pending.length = msgQueueSize) (msg : α) :
    c.sendMsg msg = .ok (c, false) := by
  unfold IpcThread.sendMsg
  rw [if_neg]
  rintro ⟨hlt, -⟩
  rw [h.num, hfull] at hlt
  exact Nat.lt_irrefl _ hlt

theorem IpcThread.Holds.getMsg_ok (h : c.Holds (msg :: pending)) :
    ∃ c', c.getMsg = .ok (c', some msg) ∧ c'.Holds pending := by
  have hnum := h.num
  rw [List.length_cons] at hnum
  refine ⟨{ c with msgs := c.msgs.take, pipe := c.pipe - 1 }, ?_, h.msgs.take, h.size, ?_, h.rOpen, h.wOpen⟩
  · have hpipe : 0 < c.pipe := by
      rw [h.pipe]
      omega
    unfold IpcThread.getMsg
    rw [if_pos ⟨by omega, h.rOpen⟩, h.msgs.front]
    show (check _ _ >>= _) = _
    rw [check_bind (by simpa using hpipe)]
  · show c.pipe - 1 = c.msgs.num - 1
    rw [h.pipe]

theorem IpcThread.Holds.getMsg_empty (h : c.Holds []) : c.getMsg = .ok (c, none) := by
  unfold IpcThread.getMsg
  rw [if_neg]
  rintro ⟨hpos, -⟩
  rw [h.num] at hpos
  exact Nat.lt_irrefl _ hpos

/-- The ring does what the list does. -/
theorem IpcThread.Holds.sendMsg_refines (h : c.Holds pending) (msg : α) :
    ∃ c', c.sendMsg msg = .ok (c', (sendMsgThread pending msg).isSome) ∧ c'.Holds (sendMsgOrDrop pending msg) := by
  by_cases hroom : pending.length < msgQueueSize
  · obtain ⟨c', hok, hc'⟩ := h.sendMsg_ok hroom msg
    refine ⟨c', ?_, ?_⟩
    · simpa [sendMsgThread, hroom] using hok
    · simpa [sendMsgOrDrop, sendMsgThread, hroom] using hc'
  · have hle := h.le
    refine ⟨c, ?_, ?_⟩
    · simpa [sendMsgThread, hroom] using h.sendMsg_full (by omega) msg
    · simpa [sendMsgOrDrop, sendMsgThread, hroom] using h

end

/-! ## Any calls -/

inductive IpcCall (α : Type) where
  | send (msg : α)
  | get
deriving DecidableEq, Repr

/-- The IPC, and the messages of the successful calls so far, oldest first. -/
structure IpcRun (α : Type) where
  ipc : IpcThread α
  accepted : List α
  received : List α
deriving DecidableEq, Repr

def ipcStep (s : IpcRun α) : IpcCall α → Except IpcAbort (IpcRun α)
  | .send msg => do
    let (c, ret) ← s.ipc.sendMsg msg
    .ok { s with ipc := c, accepted := if ret then s.accepted ++ [msg] else s.accepted }
  | .get => do
    let (c, ret) ← s.ipc.getMsg
    .ok { s with ipc := c, received := s.received ++ ret.toList }

/-- What was accepted and not yet received is what the IPC holds. -/
def IpcRun.Inv (s : IpcRun α) : Prop := ∃ pending, s.accepted = s.received ++ pending ∧ s.ipc.Holds pending

theorem ipcStep_inv {s : IpcRun α} (h : s.Inv) (i : IpcCall α) : Post (ipcStep s i) IpcRun.Inv fun _ => False := by
  obtain ⟨pending, hacc, hipc⟩ := h
  cases i with
  | send msg =>
    show Post (s.ipc.sendMsg msg >>= _) _ _
    by_cases hroom : pending.length < msgQueueSize
    · obtain ⟨c, hok, hc⟩ := hipc.sendMsg_ok hroom msg
      rw [hok]
      exact ⟨pending ++ [msg], by simp [hacc], hc⟩
    · have hle := hipc.le
      rw [hipc.sendMsg_full (by omega) msg]
      exact ⟨pending, hacc, hipc⟩
  | get =>
    show Post (s.ipc.getMsg >>= _) _ _
    cases pending with
    | nil =>
      rw [hipc.getMsg_empty]
      exact ⟨[], by simp [hacc], hipc⟩
    | cons msg pending =>
      obtain ⟨c, hok, hc⟩ := hipc.getMsg_ok
      rw [hok]
      exact ⟨pending, by simp [hacc], hc⟩

/-- The claim on one reachable state; each call of a run starts from one. -/
structure IpcRun.Lossless (s : IpcRun α) : Prop where
  fifo : s.received <+: s.accepted
  send : ∀ msg, ∃ c ret, s.ipc.sendMsg msg = .ok (c, ret) ∧
    (ret = false ↔ s.accepted.length = s.received.length + msgQueueSize)
  get : ∃ c ret, s.ipc.getMsg = .ok (c, ret) ∧ (ret = none ↔ s.accepted.length = s.received.length)
  pipe : s.ipc.pipe = s.ipc.msgs.num
  rIdx : s.ipc.msgs.rIdx < msgQueueSize
  wIdx : s.ipc.msgs.wIdx < msgQueueSize

theorem IpcRun.Inv.lossless {s : IpcRun α} (h : s.Inv) : s.Lossless := by
  obtain ⟨pending, hacc, hipc⟩ := h
  have hlen : s.accepted.length = s.received.length + pending.length := by rw [hacc, List.length_append]
  have hle := hipc.le
  refine ⟨⟨pending, hacc.symm⟩, fun msg => ?_, ?_, hipc.pipe, hipc.size ▸ hipc.msgs.rIdx, hipc.size ▸ hipc.msgs.wIdx_lt⟩
  · by_cases hroom : pending.length < msgQueueSize
    · obtain ⟨c, hok, -⟩ := hipc.sendMsg_ok hroom msg
      exact ⟨c, true, hok, by simp; omega⟩
    · exact ⟨s.ipc, false, hipc.sendMsg_full (by omega) msg, by simp; omega⟩
  · cases pending with
    | nil => exact ⟨s.ipc, none, hipc.getMsg_empty, by simpa using hlen⟩
    | cons msg pending =>
      obtain ⟨c, hok, -⟩ := hipc.getMsg_ok
      exact ⟨c, some msg, hok, by simp [hlen]⟩

/-- Any calls of any threads, in any order: no message is lost, doubled or overtaken, the calls fail only at the two
bounds, and there is a byte to wake up on for each message. -/
theorem ipc_thread_lossless (zero : α) (rFd wFd : Nat) (calls : List (IpcCall α)) :
    Post (run ipcStep ⟨crmIpcInit zero rFd wFd, [], []⟩ calls) IpcRun.Lossless fun _ => False := by
  have hinit : IpcRun.Inv ⟨crmIpcInit zero rFd wFd, [], []⟩ := ⟨[], rfl, crmIpcInit_holds zero rFd wFd⟩
  refine (run_post (C := fun _ _ => True) (fun s i hs _ => ipcStep_inv hs i) hinit (along_true _ _)).imp fun s hs => ?_
  exact hs.lossless

end Crm
