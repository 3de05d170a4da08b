import Crm.Types
import Mathlib.Data.List.Basic
import Mathlib.Tactic.Linarith

/-!
# CLA: the client table (plugins/client_abstraction/src/client_abstraction.c)

What `crm_cli_abs_internal_ctx_t` keeps about clients, and the functions that touch nothing else.

| here | there |
| --- | --- |
| `Client`                 | `crm_client_t` with its `pollfd`: `clients[i]` and `pfd[2 + i]` always move together |
| `Table`                  | `clients`, `pfd`, `num_clients`, `to_clean` and the three counters (:84-105) |
| `handleClientUnregister` | `handle_client_unregister` (:233-258) |
| `notifyCliEventSingle`   | `notify_cli_event_single` (:260-290) |
| `notifyCliEventAll`      | `notify_cli_event_all` (:292-300) |

`fd` numbers the connections in the order they were accepted; the kernel's number may be reused, this
one is not. `sent`, `unregistered` and `sendFailed` record what happened to the connection and are
read by no function of the model. Which writes fail is an oracle: `fails fd n` is the fate of the
`n`-th write to connection `fd`.
-/

namespace Crm.Cla

open Lib

/-- The checks that abort CLA. -/
inductive ClaAbort where
  /-- `(to_clean & (1u << client_idx)) == 0` (:235, :263) -/
  | toClean
  /-- `num_acquired >= 0` (:242, :846) -/
  | numAcquired
  /-- `num_waiting_cold_reset_ack >= 0` (:247, :914) -/
  | numColdResetAck
  /-- `num_waiting_shutdown_ack >= 0` (:252, :924) -/
  | numShutdownAck
  /-- `num_waiting_shutdown_ack == 0` when MDM_COLD_RESET is sent (:268) -/
  | coldResetWhileShutdown
  /-- `num_waiting_cold_reset_ack == 0` when MDM_SHUTDOWN is sent (:272) -/
  | shutdownWhileColdReset
  | requestInProgress | restartFaked | realNotBusy | unresp | checkFailure
  | wireId | restartCause | dbgType | nbData
  | mainSocket | maxClients | acquireWithEvent | noTimer | wakelock
  | assertEntry | failsafeEntry | toInitial
deriving DecidableEq, Repr

/-- `pollfd.revents`: any of POLLERR, POLLHUP and POLLNVAL, and POLLIN. -/
structure Revents where
  err : Bool
  pollin : Bool
deriving DecidableEq, Repr

structure Client where
  fd : Nat
  revents : Revents
  registered : Bool
  /-- The bits of `events_bitmap` that stand for an event. -/
  eventsBitmap : MdmCliEvent → Bool
  acquired : Bool
  waitingColdResetAck : Bool
  waitingShutdownAck : Bool
  /-- Events written to the connection, oldest first, a failed write included. -/
  sent : List MdmCliEvent
  /-- The client was passed to `handle_client_unregister`. -/
  unregistered : Bool
  sendFailed : Bool

/-- The entry `main_loop` zeroes for a new connection (:1068-1076). -/
def Client.new (fd : Nat) : Client :=
  { fd, revents := ⟨false, false⟩, registered := false, eventsBitmap := fun _ => false, acquired := false,
    waitingColdResetAck := false, waitingShutdownAck := false, sent := [], unregistered := false,
    sendFailed := false }

structure Table where
  clients : List Client
  toClean : Nat
  numAcquired : Int
  numWaitingColdResetAck : Int
  numWaitingShutdownAck : Int

abbrev Fails := Nat → Nat → Bool

/-- The bit of `to_clean` for a position. -/
def Table.marked (t : Table) (idx : Nat) : Bool := t.toClean.testBit idx

/-! ## `handle_client_unregister` -/

/-- `num -= 1; ASSERT(num >= 0);`, guarded by the flag it counts. -/
def decr (flag : Bool) (num : Int) (site : ClaAbort) : Except ClaAbort Int :=
  if flag then do
    check (decide (0 ≤ num - 1)) site
    .ok (num - 1)
  else .ok num

/-- The entry after `handle_client_unregister`: only a registered client has its flags cleared. -/
def Client.unregister (c : Client) : Client :=
  if c.registered then
    { c with acquired := false, waitingColdResetAck := false, waitingShutdownAck := false, unregistered := true }
  else { c with unregistered := true }

def handleClientUnregister (t : Table) (idx : Nat) : Except ClaAbort Table := do
  check (!t.marked idx) .toClean
  match t.clients[idx]? with
  | none => .ok t
  | some c => do
    let numAcquired ← decr (c.registered && c.acquired) t.numAcquired .numAcquired
    let numCold ← decr (c.registered && c.waitingColdResetAck) t.numWaitingColdResetAck .numColdResetAck
    let numShutdown ← decr (c.registered && c.waitingShutdownAck) t.numWaitingShutdownAck .numShutdownAck
    .ok { clients := t.clients.set idx c.unregister, toClean := t.toClean ||| 2 ^ idx, numAcquired,
          numWaitingColdResetAck := numCold, numWaitingShutdownAck := numShutdown }

/-! ## `notify_cli_event_single`, `notify_cli_event_all` -/

/-- The counter of the acknowledgement the event asks for. -/
def expectAck (t : Table) (evt : MdmCliEvent) : Except ClaAbort Table :=
  match evt with
  | .coldReset => do
    check (t.numWaitingShutdownAck == 0) .coldResetWhileShutdown
    .ok { t with numWaitingColdResetAck := t.numWaitingColdResetAck + 1 }
  | .shutdown => do
    check (t.numWaitingColdResetAck == 0) .shutdownWhileColdReset
    .ok { t with numWaitingShutdownAck := t.numWaitingShutdownAck + 1 }
  | _ => .ok t

/-- The entry once the event was written to it. -/
def Client.wrote (c : Client) (evt : MdmCliEvent) (failure : Bool) : Client :=
  { c with
    waitingColdResetAck := c.waitingColdResetAck || evt == .coldReset
    waitingShutdownAck := c.waitingShutdownAck || evt == .shutdown
    sent := c.sent ++ [evt]
    sendFailed := c.sendFailed || failure }

def notifyCliEventSingle (fails : Fails) (t : Table) (idx : Nat) (evt : MdmCliEvent) :
    Except ClaAbort Table := do
  check (!t.marked idx) .toClean
  match t.clients[idx]? with
  | none => .ok t
  | some c =>
    if c.eventsBitmap evt then do
      let t ← expectAck t evt
      let failure := fails c.fd c.sent.length
      let t := { t with clients := t.clients.set idx (c.wrote evt failure) }
      if failure then handleClientUnregister t idx else .ok t
    else .ok t

/-- The body of the loop below: marked positions are skipped. -/
def notifyUnmarked (fails : Fails) (t : Table) (idx : Nat) (evt : MdmCliEvent) : Except ClaAbort Table :=
  if t.marked idx then .ok t else notifyCliEventSingle fails t idx evt

/-- `for (client_idx = 0; client_idx < num_clients; client_idx++)`, from `idx` on, `n` positions to go. -/
def notifyFrom (fails : Fails) (evt : MdmCliEvent) : Nat → Nat → Table → Except ClaAbort Table
  | 0, _, t => .ok t
  | n + 1, idx, t => do
    let t ← notifyUnmarked fails t idx evt
    notifyFrom fails evt n (idx + 1) t

def notifyCliEventAll (fails : Fails) (t : Table) (evt : MdmCliEvent) : Except ClaAbort Table :=
  notifyFrom fails evt t.clients.length 0 t

end Crm.Cla
