import Crm.Cla.Model

/-!
# CLA: `main_loop` (plugins/client_abstraction/src/client_abstraction.c:969-1108)

| here | there |
| --- | --- |
| `getTimeout`       | `get_timeout` (:339-362) |
| `updateClientList` | `update_client_list` (:946-967) |
| `timeoutBranch`    | `poll` returned 0 (:1010-1036) |
| `slotStep`, `edgeStep` | one iteration over `pfd` (:1039-1103), up to and from `new_waiting_ack` |
| `claInit`          | `crm_cli_abs_init` (:1125-1173) and the prologue of `main_loop` (:971-1000) |

The loop is cut into the steps between which the outside world may speak: the two clock readings of
`get_timeout`, what `poll` returns, each control message drained in slot 0, the connection accepted in
slot 1, the message received in a client's slot, and the edge detection that closes every slot. An
input that does not fit where the loop stands leaves the state alone. `poll` failing is handled by the
source as an event, so `wake` allows any `revents`.
-/

namespace Crm.Cla

open Lib

/-- `#define MAX_CLIENTS 16` -/
def maxClients : Nat := 16

inductive Act where
  /-- The clock as `get_timeout` reads it for the acknowledgement and the boot timer. -/
  | tick (ack boot : Timespec)
  /-- `poll` returned 0; the clock as read for the boot timer. -/
  | timeout (boot : Timespec)
  /-- `poll` returned with these `revents`. -/
  | wake (revents : Nat → Revents)
  /-- `get_msg` returned a message. -/
  | ctrl (msg : CtrlMsg)
  /-- `crm_socket_accept` returned a socket, or failed. -/
  | accept (ok : Bool)
  /-- `recv_msg` returned a message, or `NULL`. -/
  | recv (msg : Option ReqMsg)
  /-- Nothing more for this slot. -/
  | next

/-- `clock` is what `crm_time_add_ms` reads if an acknowledgement timer is started. -/
structure ClaIn where
  clock : Timespec
  act : Act

/-- `new_waiting_ack`: some acknowledgement is awaited. -/
def Table.waitingAck (t : Table) : Bool := t.numWaitingColdResetAck != 0 || t.numWaitingShutdownAck != 0

/-- The acknowledgement timer's share of `get_timeout`. -/
def ackTimeout (s : ClaCtx) (now : Timespec) : Int :=
  if s.table.waitingAck then crmTimeGetRemainMs now s.timerAckEnd else -1

def getTimeout (s : ClaCtx) (ack boot : Timespec) : Int × TimerIdx :=
  let timeout := ackTimeout s ack
  if s.timerBootArmed then
    let tmp := crmTimeGetRemainMs boot s.timerBootEnd
    if timeout = tmp then (timeout, ⟨s.table.waitingAck, true⟩)
    else if timeout < 0 ∨ (timeout > 0 ∧ tmp < timeout) then (tmp, ⟨false, true⟩)
    else (timeout, ⟨s.table.waitingAck, false⟩)
  else (timeout, ⟨s.table.waitingAck, false⟩)

/-- From the top of the loop to the call of `poll` (:1003-1008). -/
def preparePoll (s : ClaCtx) (ack boot : Timespec) : ClaCtx :=
  let (timeout, idx) := getTimeout s ack boot
  { s with
    wakelock := if timeout = -1 ∧ 0 < s.wakelock then s.wakelock - 1 else s.wakelock
    pc := .poll timeout idx }

/-! ## The time-out branch -/

/-- No client is waited for any more (:1020-1032). -/
def Table.forgetAcks (t : Table) : Table :=
  { t with
    clients := t.clients.map fun c => { c with waitingColdResetAck := false, waitingShutdownAck := false }
    numWaitingColdResetAck := 0
    numWaitingShutdownAck := 0 }

def expireAcks (e : Env) (clock : Timespec) (s : ClaCtx) (idx : TimerIdx) : Except ClaAbort ClaCtx :=
  if idx.ack then fsmNotify e clock { s with table := s.table.forgetAcks } .cliAcked else .ok s

def timeoutBranch (e : Env) (clock : Timespec) (s : ClaCtx) (idx : TimerIdx) (boot : Timespec) :
    Except ClaAbort ClaCtx := do
  check (idx.ack || idx.boot) .noTimer
  check (decide (0 < s.wakelock)) .wakelock
  let armed := if idx.boot then decide (0 < crmTimeGetRemainMs boot s.timerBootEnd) else s.timerBootArmed
  let s ← expireAcks e clock { s with timerBootArmed := armed } idx
  let wakelock := if s.timerBootArmed = false ∧ s.table.waitingAck = false then s.wakelock - 1 else s.wakelock
  .ok { s with wakelock, pc := .head }

/-! ## The event branch -/

/-- The locals of an iteration are read as it starts. -/
def enterSlot (s : ClaCtx) (i : Nat) : ClaCtx :=
  { s with pc := .slot i (s.table.numAcquired != 0) s.table.waitingAck }

def wakeUp (s : ClaCtx) (revents : Nat → Revents) : ClaCtx :=
  enterSlot
    { s with
      ipc := revents 0
      server := revents 1
      table.clients := s.table.clients.mapIdx fun i c => { c with revents := revents (2 + i) }
      table.toClean := 0 } 0

def acceptClient (s : ClaCtx) (ok : Bool) : Except ClaAbort ClaCtx :=
  if ok then do
    check (decide (s.table.clients.length < maxClients)) .maxClients
    .ok { s with table.clients := s.table.clients ++ [Client.new s.accepted], accepted := s.accepted + 1 }
  else .ok s

/-- A position is unregistered once only. -/
def unregisterUnmarked (s : ClaCtx) (idx : Nat) : Except ClaAbort ClaCtx :=
  if s.table.marked idx then .ok s else unregisterAt s idx

def recvClient (e : Env) (clock : Timespec) (s : ClaCtx) (idx : Nat) : Option ReqMsg → Except ClaAbort ClaCtx
  | some msg => handleClientMsg e clock s idx msg
  | none => unregisterUnmarked s idx

/-- `pfd[0]`: the queue of CTRL is drained (:1044-1051). -/
def ipcSlot (e : Env) (clock : Timespec) (s : ClaCtx) (acquired waitingAck : Bool) (act : Act) :
    Except ClaAbort ClaCtx := do
  check (!s.ipc.err) .mainSocket
  match act with
  | .ctrl msg => if s.ipc.pollin then handleControlMsg e clock s msg else .ok s
  | .next => .ok { s with pc := .edge 0 acquired waitingAck }
  | _ => .ok s

/-- `pfd[1]`: one connection is accepted (:1053-1069). -/
def serverSlot (s : ClaCtx) (acquired waitingAck : Bool) (act : Act) : Except ClaAbort ClaCtx := do
  check (!s.server.err) .mainSocket
  match act with
  | .accept ok =>
    if s.server.pollin then do
      let s ← acceptClient s ok
      .ok { s with pc := .edge 1 acquired waitingAck }
    else .ok s
  | .next => if s.server.pollin then .ok s else .ok { s with pc := .edge 1 acquired waitingAck }
  | _ => .ok s

/-- `pfd[2 + idx]`: an error, one message, or nothing (:1039-1042, :1070-1077). -/
def clientSlot (e : Env) (clock : Timespec) (s : ClaCtx) (idx : Nat) (acquired waitingAck : Bool) (act : Act) :
    Except ClaAbort ClaCtx :=
  match s.table.clients[idx]?, act with
  | some c, .recv msg =>
    if !c.revents.err && c.revents.pollin then do
      let s ← recvClient e clock s idx msg
      .ok { s with pc := .edge (idx + 2) acquired waitingAck }
    else .ok s
  | some c, .next =>
    if c.revents.err then do
      let s ← unregisterUnmarked s idx
      .ok { s with pc := .edge (idx + 2) acquired waitingAck }
    else if c.revents.pollin then .ok s
    else .ok { s with pc := .edge (idx + 2) acquired waitingAck }
  | _, _ => .ok s

def slotStep (e : Env) (clock : Timespec) (s : ClaCtx) (i : Nat) (acquired waitingAck : Bool) (act : Act) :
    Except ClaAbort ClaCtx :=
  match i with
  | 0 => ipcSlot e clock s acquired waitingAck act
  | 1 => serverSlot s acquired waitingAck act
  | idx + 2 => clientSlot e clock s idx acquired waitingAck act

/-- The loop of `update_client_list`: `n` positions to go, `i` the position before compaction and `j`
after it. -/
def compact (toClean : Nat) : Nat → Nat → Nat → List Client → List Client → List Client × List Client
  | 0, _, _, clients, closed => (clients, closed)
  | n + 1, i, j, clients, closed =>
    if toClean.testBit i then compact toClean n (i + 1) j (clients.eraseIdx j) (clients[j]?.toList ++ closed)
    else compact toClean n (i + 1) (j + 1) clients closed

def updateClientList (s : ClaCtx) : ClaCtx :=
  if s.table.toClean = 0 then s
  else
    let (clients, closed) := compact s.table.toClean s.table.clients.length 0 0 s.table.clients s.closed
    { s with table.clients := clients, closed }

/-- The event the counters' change stands for (:1081-1100), with `restart_type` as it leaves it. -/
def edgeEvent (s : ClaCtx) (acquired waitingAck : Bool) : Except ClaAbort (ClaCtx × Option ClaEvent) :=
  let acked := waitingAck && !s.table.waitingAck
  if acquired ∧ s.table.numAcquired = 0 then
    if acked then .ok ({ s with restartType := none }, some .cliAcked) else .ok (s, some .cliRelease)
  else if acquired = false ∧ s.table.numAcquired ≠ 0 then do
    check (!acked) .acquireWithEvent
    .ok (s, some .cliAcquire)
  else .ok (s, if acked then some .cliAcked else none)

def dispatch (e : Env) (clock : Timespec) (s : ClaCtx) : Option ClaEvent → Except ClaAbort ClaCtx
  | none => .ok s
  | some evt => fsmNotify e clock s evt

/-- The next slot, or the end of the `for` and the test of the `while`. -/
def leaveSlot (s : ClaCtx) (i : Nat) : ClaCtx :=
  if i + 1 < s.table.clients.length + 2 then enterSlot s (i + 1)
  else { updateClientList s with pc := if s.running then .head else .done }

def edgeStep (e : Env) (clock : Timespec) (s : ClaCtx) (i : Nat) (acquired waitingAck : Bool) :
    Except ClaAbort ClaCtx := do
  let (s, evt) ← edgeEvent s acquired waitingAck
  let s ← dispatch e clock s evt
  .ok (leaveSlot s i)

/-! ## The machine -/

def claInit (e : Env) (clock : Timespec) : ClaCtx :=
  { table := ⟨[], 0, if e.enableFmmo then 0 else 1, 0, 0⟩
    modemState := .unknown
    realModemState := .unknown
    fakeModemState := false
    requestInProgress := false
    rejectRequests := false
    restartType := none
    dbgInfo := none
    timerAckEnd := ⟨0, 0⟩
    timerBootEnd := crmTimeAddMs clock 2000
    timerBootArmed := true
    wakelock := 1
    fsm := .initial
    pc := .head
    running := true
    ipc := ⟨false, false⟩
    server := ⟨false, false⟩
    accepted := 0
    closed := []
    trace := []
    sendings := [] }

def claStep (e : Env) (s : ClaCtx) (i : ClaIn) : Except ClaAbort ClaCtx :=
  match s.pc, i.act with
  | .head, .tick ack boot => .ok (preparePoll s ack boot)
  | .poll _ idx, .timeout boot => timeoutBranch e i.clock s idx boot
  | .poll _ _, .wake revents => .ok (wakeUp s revents)
  | .slot k acquired waitingAck, act => slotStep e i.clock s k acquired waitingAck act
  | .edge k acquired waitingAck, .next => edgeStep e i.clock s k acquired waitingAck
  | _, _ => .ok s

/-! ## Scripts, for concrete runs -/

/-- A platform that leaves the modem to its clients. -/
def fmmoEnv (fails : Fails) : Env := ⟨false, true, 8, 64, fails⟩

def Act.now (act : Act) : ClaIn := ⟨⟨0, 0⟩, act⟩

/-- One pass of the loop: `poll` reports these slots, and this happens in them. -/
def pass (slots : List Nat) (acts : List Act) : List ClaIn :=
  (.tick ⟨0, 0⟩ ⟨0, 0⟩ :: .wake (fun i => ⟨false, slots.contains i⟩) :: acts).map Act.now

/-- `n` slots nothing happens in, each with its edge detection. -/
def idle (n : Nat) : List Act := List.replicate (2 * n) .next

/-- A client connects next to `n` others. -/
def connects (n : Nat) : List ClaIn := pass [1] (idle 1 ++ [.accept true, .next] ++ idle (n + 1))

/-- Client `k` of `n` sends a message, or hangs up. -/
def sends (n k : Nat) (msg : Option ReqMsg) : List ClaIn :=
  pass [k + 2] (idle (k + 2) ++ [.recv msg, .next] ++ idle (n - k - 1))

/-- `poll` returns without an event. -/
def timesOut : List ClaIn := [Act.now (.tick ⟨0, 0⟩ ⟨0, 0⟩), Act.now (.timeout ⟨0, 0⟩)]

/-- CTRL's messages are drained, with `n` clients connected. -/
def notifies (n : Nat) (msgs : List CtrlMsg) : List ClaIn := pass [0] (msgs.map .ctrl ++ idle (n + 2))

/-- The two events that ask for an acknowledgement. -/
def wantsAcked (evt : MdmCliEvent) : Bool := evt == .coldReset || evt == .shutdown

/-- A client that wants them connects and acquires the modem. -/
def acquires : List ClaIn :=
  connects 0 ++ sends 1 0 (some (.register false wantsAcked)) ++ sends 1 0 (some .acquire)

/-- The modem crashes; the client lets go of it and does not answer MDM_COLD_RESET. -/
def crashUnanswered : List ClaIn :=
  acquires ++ notifies 1 [.modemState .ready, .modemState .busy] ++ sends 1 0 (some .release) ++ timesOut

end Crm.Cla
