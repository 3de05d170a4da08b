import Mathlib.Algebra.GroupWithZero.Nat
import Mathlib.Data.Fintype.Basic
import Mathlib.Logic.Function.Basic
import Crm.Lib.Outcome
import Crm.Wire.Serialize

/-!
# The bridge daemon (bridge/c/daemon/src/daemon.c)

| here | there |
| --- | --- |
| `ClientContext`, `JavaContext`, `QueuedMsg`, `Daemon` | `client_context_t`, `java_context_t`, `msg_queue_t`, `daemon_context_t` (:71-122) |
| `Block`     | what `malloc` returned for a message: which one it is, and the bytes written in it so far |
| `JavaMsg`   | where `java_ctx.msg` points: to `wakelock_msg`, to a message of a client, or nowhere the code has set it |
| `Pfds`, `Pc` | the descriptors and events `fill_pollfd` asks for, and how far the loop of `main` has come through them |
| `BridgeIn`  | what `poll`, `accept`, `read` and `write` return |

`msg_hdr` is the list of the bytes read into it, `ack_reply` too; a descriptor is whether it is open. A deadline is the
environment's: it says which have passed when `poll` times out. An event `poll` cannot report, as nothing was asked
for it, changes nothing. The queue is a list: its tail pointer and its `next` are not kept.
-/

namespace Crm.Bridge

open Lib
open Wire (Bytes htonl ntohl)

abbrev maxClients : Nat := 3
def maxRetries : Nat := 3
def maxMsgSize : Nat := 2048

/-- `tel_bridge_commands_t` (bridge_internal.h:41-47). -/
def wakelockAcquire : Nat := 0
def wakelockRelease : Nat := 1
def startService : Nat := 2
def broadcastIntent : Nat := 3
def commandNum : Nat := 4

inductive MsgState where
  | none | inHdr | inMsg
deriving DecidableEq, Repr

structure Block where
  id : Nat
  bytes : Bytes
deriving DecidableEq, Repr

structure ClientContext where
  connected : Bool
  msgState : MsgState
  msgHdr : Bytes
  msgBuffer : Option Block
  dataRead : Nat
  dataToRead : Nat
  wakelockCnt : Int
deriving DecidableEq, Repr

structure QueuedMsg where
  msg : Block
  msgSize : Nat
  retries : Nat
deriving DecidableEq, Repr

inductive JavaMsg where
  | stray
  | wakelock
  | buf (b : Block)
deriving DecidableEq, Repr

structure JavaContext where
  connected : Bool
  msgCount : Nat
  msgInProgress : Bool
  msgQueue : List QueuedMsg
  wakelockMsg : Bytes
  msg : JavaMsg
  dataToSend : Nat
  dataSent : Nat
  wakelockHeld : Bool
  waitAck : Bool
  waitAckCount : Nat
  ackReply : Bytes
deriving DecidableEq, Repr

/-- What is asked of the Java descriptor: nothing while it is idle (:206-209). -/
inductive JavaPfd where
  | closed | idle | pollin | pollout
deriving DecidableEq, Repr

structure Pfds where
  client : Fin maxClients → Bool
  java : JavaPfd

inductive Pc where
  | head
  | cSock (pfd : Pfds)
  | jSock (pfd : Pfds)
  | client (i : Fin maxClients) (pfd : Pfds)
  | java (pfd : Pfds)

/-- What the daemon does, newest first. -/
inductive BridgeObs where
  | malloc (id : Nat)
  /-- `free` in `handle_c_client_remove`. -/
  | freed (id : Nat)
  | queued (b : Block)
  /-- Out of the queue, and freed. -/
  | left (b : Block)
  | connected
  | disconnected
  /-- A transmission begins, of a message with these bytes. -/
  | started (m : JavaMsg) (bytes : Bytes)
  | wrote (data : Bytes)
  | acked (id : Nat)
deriving DecidableEq, Repr

inductive BridgeAbort where
  | cSocket | jSocket
  /-- `ASSERT(to_free)`, in `handle_java_bridge_remove` and `handle_java_bridge_event`. -/
  | toFree
  /-- A null pointer: the queue's in `fill_pollfd`, a client's buffer. -/
  | null
deriving DecidableEq, Repr

structure Daemon where
  pc : Pc
  wakelockHeld : Bool
  client : Fin maxClients → ClientContext
  java : JavaContext
  /-- The blocks allocated so far. -/
  blocks : Nat
  log : List BridgeObs

/-- The start of `main` (:586-600); all else is what the stack holds. -/
def bridgeInit (stack : Daemon) : Daemon :=
  { stack with
    pc := .head
    wakelockHeld := false
    client := fun i => { stack.client i with connected := false, msgBuffer := none }
    java := { stack.java with connected := false, msgCount := 0, msgQueue := [], waitAck := false }
    blocks := 0
    log := [] }

def Daemon.note (s : Daemon) (o : BridgeObs) : Daemon := { s with log := o :: s.log }

def Daemon.setClient (s : Daemon) (i : Fin maxClients) (c : ClientContext) : Daemon :=
  { s with client := Function.update s.client i c }

/-- `msg_count++`, of a `uint32_t`. -/
def nextCount (msgCount : Nat) : Nat := (msgCount + 1) % 2 ^ 32

/-- The bytes `java_ctx.msg` points to. -/
def JavaContext.msgBytes (j : JavaContext) : Bytes :=
  match j.msg with
  | .stray => []
  | .wakelock => j.wakelockMsg
  | .buf b => b.bytes

/-! ## fill_pollfd (:191-256) -/

/-- `wakelock_msg` (:217-222). -/
def wakelockBytes (id : Nat) (acquire : Bool) : Bytes :=
  htonl id ++ (htonl 0 ++ htonl (if acquire then wakelockAcquire else wakelockRelease))

def Daemon.transmit (s : Daemon) (msg : JavaMsg) (bytes : Bytes) (size : Nat) : Daemon :=
  { s with
    java := { s.java with msgInProgress := true, dataSent := 0, dataToSend := size, msg }
    log := .started msg bytes :: s.log }

/-- A new transmission (:211-227), of a wakelock message first. -/
def startMsg (s : Daemon) : Except BridgeAbort Daemon :=
  if s.java.wakelockHeld ≠ s.wakelockHeld then
    let bytes := wakelockBytes s.java.msgCount s.wakelockHeld
    let java := { s.java with wakelockMsg := bytes, msgCount := nextCount s.java.msgCount }
    .ok ({ s with java }.transmit .wakelock bytes 12)
  else
    match s.java.msgQueue with
    | [] => .error .null
    | m :: _ => .ok (s.transmit (.buf m.msg) m.msg.bytes m.msgSize)

def fillPollfd (s : Daemon) : Except BridgeAbort (Daemon × Pfds) :=
  let client := fun i => (s.client i).connected
  if !s.java.connected then .ok (s, ⟨client, .closed⟩)
  else if s.java.waitAck then .ok (s, ⟨client, .pollin⟩)
  else if s.java.msgInProgress then .ok (s, ⟨client, .pollout⟩)
  else if s.java.msgQueue ≠ [] ∨ s.java.wakelockHeld ≠ s.wakelockHeld then do
    let s ← startMsg s
    .ok (s, ⟨client, .pollout⟩)
  else .ok (s, ⟨client, .idle⟩)

/-! ## Connections that end -/

/-- `handle_wakelock_change` (:258-268). -/
def handleWakelockChange (s : Daemon) : Daemon :=
  { s with wakelockHeld := decide (∃ i, (s.client i).connected = true ∧ 0 < (s.client i).wakelockCnt) }

/-- `free(msg_buffer)`, which does nothing for `NULL`. -/
def freedObs (msgBuffer : Option Block) : List BridgeObs := msgBuffer.toList.map fun b => .freed b.id

/-- `handle_c_client_remove` (:283-294): the pointer keeps its value. -/
def handleCClientRemove (s : Daemon) (i : Fin maxClients) : Daemon :=
  let c := s.client i
  let s := { s.setClient i { c with connected := false } with log := freedObs c.msgBuffer ++ s.log }
  if 0 < c.wakelockCnt then handleWakelockChange s else s

/-- One more attempt at the first message of the queue; `MAX_RETRIES` of them and it is dropped (:277-290). -/
def countRetry (s : Daemon) : Except BridgeAbort Daemon :=
  match s.java.msgQueue with
  | [] => .error .toFree
  | toFree :: next =>
    if maxRetries ≤ toFree.retries + 1 then .ok ({ s with java := { s.java with msgQueue := next } }.note (.left toFree.msg))
    else .ok { s with java := { s.java with msgQueue := { toFree with retries := toFree.retries + 1 } :: next } }

/-- `handle_java_bridge_remove` (:270-291). -/
def handleJavaBridgeRemove (s : Daemon) : Except BridgeAbort Daemon :=
  let t := { s with java := { s.java with connected := false } }.note .disconnected
  if s.java.msg ≠ .wakelock then countRetry t else .ok t

/-- A client in the middle of a message, its deadline passed (:301-307). -/
def handleClientTimeout (due : Fin maxClients → Bool) (s : Daemon) (i : Fin maxClients) : Daemon :=
  if (s.client i).connected ∧ (s.client i).msgState ≠ .none ∧ due i then handleCClientRemove s i else s

/-- `handle_timeout` (:296-316); `due` and `javaDue` are the deadlines that have passed. -/
def handleTimeout (due : Fin maxClients → Bool) (javaDue : Bool) (s : Daemon) : Except BridgeAbort Daemon :=
  let s := (List.finRange maxClients).foldl (handleClientTimeout due) s
  if s.java.connected && (s.java.msgInProgress || s.java.waitAck) && javaDue then handleJavaBridgeRemove s else .ok s

/-! ## Connections that begin -/

/-- `handle_c_client_conn` (:318-347), the connection accepted; with no free slot it is closed again. -/
def handleCClientConn (s : Daemon) : Daemon :=
  match (List.finRange maxClients).find? fun i => !(s.client i).connected with
  | some i => s.setClient i { s.client i with connected := true, msgState := .none, wakelockCnt := 0 }
  | none => s

/-- `handle_java_bridge_conn` (:349-378), the connection accepted; a second one is closed again. -/
def handleJavaBridgeConn (s : Daemon) : Daemon :=
  if s.java.connected then s
  else { s with java := { s.java with
    connected := true, msgInProgress := false, waitAck := false, dataSent := 0, wakelockHeld := false } }.note .connected

/-! ## handle_java_bridge_event (:380-443) -/

/-- The message `msg` points to is acknowledged (:402-417). -/
def acknowledge (s : Daemon) : Except BridgeAbort Daemon :=
  if s.java.msg = .wakelock then
    .ok { s with java := { s.java with wakelockHeld := ntohl (s.java.wakelockMsg.drop 8) = wakelockAcquire } }
  else
    match s.java.msgQueue with
    | [] => .error .toFree
    | toFree :: next => .ok ({ s with java := { s.java with msgQueue := next } }.note (.left toFree.msg))

/-- The whole reply is there (:393-418). -/
def handleAck (s : Daemon) : Except BridgeAbort Daemon :=
  let reply := ntohl s.java.ackReply
  if reply ≠ s.java.waitAckCount then handleJavaBridgeRemove s
  else acknowledge ({ s with java := { s.java with waitAck := false } }.note (.acked reply))

/-- `POLLIN`, and the bytes there are to read, none for an error or the end of the stream. -/
def handleJavaRead (bytes : Bytes) (s : Daemon) : Except BridgeAbort Daemon :=
  let data := bytes.take (4 - s.java.ackReply.length)
  if data = [] then handleJavaBridgeRemove s
  else
    let s := { s with java := { s.java with ackReply := s.java.ackReply ++ data } }
    if s.java.ackReply.length = 4 then handleAck s else .ok s

/-- `POLLOUT`, and how much of the bytes the socket takes, 0 for an error. -/
def handleJavaWrite (room : Nat) (s : Daemon) : Except BridgeAbort Daemon :=
  let len := min room (s.java.dataToSend - s.java.dataSent)
  if len = 0 then handleJavaBridgeRemove s
  else
    let data := (s.java.msgBytes.drop s.java.dataSent).take len
    let s := { s with java := { s.java with dataSent := s.java.dataSent + len } }.note (.wrote data)
    if s.java.dataSent = s.java.dataToSend then
      .ok { s with java := { s.java with
        waitAck := true, waitAckCount := ntohl (s.java.msgBytes.take 4), ackReply := [], msgInProgress := false } }
    else .ok s

/-! ## handle_c_client_event (:466-558) -/

/-- `queue_msg` (:445-464). -/
def queueMsg (s : Daemon) (msg : Block) (msgSize : Nat) : Daemon :=
  { s with java := { s.java with msgQueue := s.java.msgQueue ++ [(⟨msg, msgSize, 0⟩ : QueuedMsg)] } }.note (.queued msg)

/-- A wakelock message (:505-526); `c` is `*client_ctx` here and below. -/
def handleWakelockMsg (s : Daemon) (i : Fin maxClients) (c : ClientContext) (msgSize msgType : Nat) : Daemon :=
  if msgSize ≠ 0 then handleCClientRemove (s.setClient i c) i
  else
    let cnt := c.wakelockCnt + if msgType = wakelockAcquire then 1 else -1
    if cnt < 0 then handleCClientRemove (s.setClient i { c with wakelockCnt := cnt }) i
    else handleWakelockChange (s.setClient i { c with wakelockCnt := cnt, msgState := .none })

/-- The header of a message to forward (:528-546): the buffer begins with its id. -/
def handleMsgHdr (s : Daemon) (i : Fin maxClients) (c : ClientContext) (msgSize msgType : Nat) : Daemon :=
  if commandNum ≤ msgType ∨ maxMsgSize ≤ msgSize then handleCClientRemove (s.setClient i c) i
  else
    let buffer : Block := ⟨s.blocks, htonl s.java.msgCount ++ c.msgHdr⟩
    let java := { s.java with msgCount := nextCount s.java.msgCount }
    ({ s with blocks := s.blocks + 1, java }.note (.malloc s.blocks)).setClient i
      { c with msgBuffer := some buffer, dataRead := 12, dataToRead := msgSize + 12, msgState := .inMsg }

/-- The header is complete (:500-547). -/
def handleHdr (s : Daemon) (i : Fin maxClients) (c : ClientContext) : Daemon :=
  let msgSize := ntohl (c.msgHdr.take 4)
  let msgType := ntohl (c.msgHdr.drop 4)
  if msgType = wakelockAcquire ∨ msgType = wakelockRelease then handleWakelockMsg s i c msgSize msgType
  else handleMsgHdr s i c msgSize msgType

/-- The first bytes of a message (:477-482). -/
def ClientContext.beginMsg (c : ClientContext) : ClientContext :=
  if c.msgState = .none then { c with dataRead := 0, dataToRead := 8, msgState := .inHdr, msgHdr := [] } else c

/-- `POLLIN`, and the bytes there are to read, none for an error or the end of the stream. -/
def handleClientRead (bytes : Bytes) (i : Fin maxClients) (s : Daemon) : Except BridgeAbort Daemon :=
  let c := (s.client i).beginMsg
  let data := bytes.take (c.dataToRead - c.dataRead)
  if data = [] then .ok (handleCClientRemove (s.setClient i c) i)
  else
    let dataRead := c.dataRead + data.length
    if c.msgState = .inHdr then
      let c := { c with dataRead, msgHdr := c.msgHdr ++ data }
      if dataRead = c.dataToRead then .ok (handleHdr s i c) else .ok (s.setClient i c)
    else
      match c.msgBuffer with
      | none => .error .null
      | some b =>
        let b : Block := { b with bytes := b.bytes ++ data }
        if dataRead = c.dataToRead then
          .ok (queueMsg (s.setClient i { c with dataRead, msgState := .none, msgBuffer := none }) b c.dataToRead)
        else .ok (s.setClient i { c with dataRead, msgBuffer := some b })

/-! ## The loop of main (:602-629) -/

inductive BridgeIn where
  /-- `poll` returns a number of descriptors. -/
  | poll
  /-- `poll` times out, with these deadlines passed. -/
  | timeout (due : Fin maxClients → Bool) (javaDue : Bool)
  /-- `revents == 0`. -/
  | quiet
  | readable (bytes : Bytes)
  | writable (room : Nat)
  /-- `POLLERR`, `POLLHUP` or `POLLNVAL` alone. -/
  | hup
  /-- `POLLIN` on a control socket, and whether `accept` succeeds. -/
  | accept (ok : Bool)

def stepHead (s : Daemon) : BridgeIn → Except BridgeAbort Daemon
  | .poll => do
    let (s, pfd) ← fillPollfd s
    .ok { s with pc := .cSock pfd }
  | .timeout due javaDue => do
    let (s, _) ← fillPollfd s
    let s ← handleTimeout due javaDue s
    .ok { s with pc := .head }
  | _ => .ok s

def stepCSock (s : Daemon) (pfd : Pfds) : BridgeIn → Except BridgeAbort Daemon
  | .quiet | .accept false => .ok { s with pc := .jSock pfd }
  | .accept true => .ok { handleCClientConn s with pc := .jSock pfd }
  | .hup => .error .cSocket
  | _ => .ok s

def stepJSock (s : Daemon) (pfd : Pfds) : BridgeIn → Except BridgeAbort Daemon
  | .quiet | .accept false => .ok { s with pc := .client 0 pfd }
  | .accept true => .ok { handleJavaBridgeConn s with pc := .client 0 pfd }
  | .hup => .error .jSocket
  | _ => .ok s

def nextPc (i : Fin maxClients) (pfd : Pfds) : Pc :=
  if h : i.val + 1 < maxClients then .client ⟨i.val + 1, h⟩ pfd else .java pfd

def stepClient (s : Daemon) (i : Fin maxClients) (pfd : Pfds) : BridgeIn → Except BridgeAbort Daemon
  | .quiet => .ok { s with pc := nextPc i pfd }
  | .readable bytes =>
    if pfd.client i then do
      let s ← handleClientRead bytes i s
      .ok { s with pc := nextPc i pfd }
    else .ok s
  | .hup => .ok (if pfd.client i then { handleCClientRemove s i with pc := nextPc i pfd } else s)
  | _ => .ok s

def stepJava (s : Daemon) (pfd : Pfds) : BridgeIn → Except BridgeAbort Daemon
  | .quiet => .ok { s with pc := .head }
  | .readable bytes =>
    if pfd.java = .pollin then do
      let s ← handleJavaRead bytes s
      .ok { s with pc := .head }
    else .ok s
  | .writable room =>
    if pfd.java = .pollout then do
      let s ← handleJavaWrite room s
      .ok { s with pc := .head }
    else .ok s
  | .hup =>
    if pfd.java ≠ .closed then do
      let s ← handleJavaBridgeRemove s
      .ok { s with pc := .head }
    else .ok s
  | _ => .ok s

def bridgeStep (s : Daemon) (i : BridgeIn) : Except BridgeAbort Daemon :=
  match s.pc with
  | .head => stepHead s i
  | .cSock pfd => stepCSock s pfd i
  | .jSock pfd => stepJSock s pfd i
  | .client k pfd => stepClient s k pfd i
  | .java pfd => stepJava s pfd i

end Crm.Bridge
