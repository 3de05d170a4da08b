import Crm.Lib.CString
import Crm.Lib.Memmove
import Crm.Lib.Outcome
import Mathlib.Algebra.Order.Ring.Int

/-!
# AT commands: libs/utils/src/at.c

| here | there |
| --- | --- |
| `AtCtx` | the locals of `crm_send_at` (:41): `buffer`, `idx`, `ret` |
| `AtPoll` | one return of `poll` (:67), with what `read` then gives (:81) |
| `shift`, `receive` | the inner loop over the lines (:92-110) |
| `atStep` | one turn of the outer loop (:66-112) |
| `crmSendAt` | the function; the logs are left out, and `tag` and `timeout` with them |

The buffer is on the stack and is not initialised. Where `ret` is still 1 after the last of the polls, the loop goes on
waiting.
-/

namespace Crm

open Crm.Lib

def atBufferSize : Nat := 2048

def crlf : List Byte := [13, 10]
/-- "OK" -/
def atOk : List Byte := [79, 75]
/-- "ERROR" -/
def atError : List Byte := [69, 82, 82, 79, 82]

inductive AtSite where
  /-- `ASSERT(at_cmd != NULL)` and `ASSERT(fd >= 0)` (:45-46). -/
  | noCommand | badFd
  /-- `DASSERT(lenb < (int)sizeof(buffer))` (:56). -/
  | commandTooLong
  /-- `DASSERT(idx < sizeof(buffer))` (:89). -/
  | answerTooLong
  /-- `idx = &buffer[idx] - cr` (:108) below zero, which `size_t` cannot hold. -/
  | underflow
  /-- `memmove` (:109) outside of the buffer. -/
  | bounds
  /-- No end of the inner loop. -/
  | fuel
deriving DecidableEq, Repr

structure AtCtx where
  buffer : List Byte
  idx : Nat
  ret : Int
deriving DecidableEq, Repr

structure AtPoll where
  err : Int
  /-- `pfd[0].revents & (POLLERR | POLLHUP | POLLNVAL)` -/
  broken : Bool
  /-- `pfd[0].revents & POLLIN` -/
  readable : Bool
  /-- `pfd[1].revents` -/
  abort : Bool
  /-- The bytes read, or none where `read` returns 0 or -1. -/
  answer : List Byte
deriving DecidableEq, Repr

/-- Bytes of the answer arrive, and nothing else happens. -/
def AtPoll.chunk (answer : List Byte) : AtPoll := ⟨1, false, true, false, answer⟩

/-- `cr` points behind the CRLF of a line; the rest goes to the front of the buffer (:106-109). -/
def AtCtx.shift (s : AtCtx) (cr : Nat) : Except AtSite AtCtx := do
  check (decide (cr ≤ s.idx)) .underflow
  match memmove s.buffer 0 cr (s.idx - cr) with
  | none => .error .bounds
  | some buffer => .ok { s with buffer, idx := s.idx - cr }

/-- The inner loop. A turn takes a CRLF off, so `idx + 1` turns are enough. -/
def receive : Nat → AtCtx → Except AtSite AtCtx
  | 0, _ => .error .fuel
  | fuel + 1, s =>
    match strstr s.buffer crlf with
    | none => .ok s
    | some cr =>
      let buffer := s.buffer.set cr 0
      if cstr buffer = atOk then .ok { s with buffer, ret := 0 }
      else if cstr buffer = atError then .ok { s with buffer, ret := -1 }
      else ({ s with buffer } : AtCtx).shift (cr + crlf.length) >>= fun s => receive fuel s

def atStep (s : AtCtx) (p : AtPoll) : Except AtSite AtCtx :=
  if s.ret ≤ 0 then .ok s
  else if p.err = 0 ∨ p.broken then .ok { s with ret := -1 }
  else if p.abort then .ok { s with ret := -2 }
  else if p.readable then
    if p.answer = [] then .ok { s with ret := -1 }
    else do
      let buffer := s.buffer.take s.idx ++ p.answer ++ s.buffer.drop (s.idx + p.answer.length)
      let idx := s.idx + p.answer.length
      check (decide (idx < atBufferSize)) .answerTooLong
      receive (idx + 1) { s with buffer := buffer.set idx 0, idx }
  else .ok s

/-- `snprintf` of a string into the buffer. -/
def atPrint (buffer text : List Byte) : List Byte :=
  let shown := text.take (buffer.length - 1)
  shown ++ 0 :: buffer.drop (shown.length + 1)

/-- `written` is what `write` returns, `stack` what the buffer holds at first. -/
def crmSendAt (fd : Int) (atCmd : Option (List Byte)) (written : Int) (stack : List Byte) (polls : List AtPoll) :
    Except AtSite AtCtx :=
  match atCmd with
  | none => .error .noCommand
  | some cmd => do
    check (decide (0 ≤ fd)) .badFd
    let text := cmd ++ crlf
    check (decide (text.length < atBufferSize)) .commandTooLong
    let buffer := atPrint stack text
    if written ≠ text.length then .ok ⟨buffer, 0, -1⟩ else run atStep ⟨buffer, 0, 1⟩ polls

theorem length_atPrint {buffer text : List Byte} (h : text.length < buffer.length) :
    (atPrint buffer text).length = buffer.length := by
  unfold atPrint
  rw [List.take_of_length_le (by omega)]
  simp only [List.length_append, List.length_cons, List.length_drop]
  omega

/-- Once the loop has been left, no poll changes anything. -/
theorem run_left {s : AtCtx} (h : s.ret ≤ 0) (polls : List AtPoll) : run atStep s polls = .ok s := by
  induction polls with
  | nil => rfl
  | cons p polls ih =>
    have hstep : atStep s p = .ok s := by
      unfold atStep
      rw [if_pos h]
    rw [run_cons_ok hstep]
    exact ih

end Crm
