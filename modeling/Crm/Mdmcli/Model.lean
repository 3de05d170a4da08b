import Crm.Lib.Outcome

/-!
# The client library and its connections (mdmcli/src/mdmcli.c)

Two threads share `crm_mdm_cli_ctx_t`: the caller of the API, and the event loop that `crm_connect` starts before it
sends its REGISTER. A step is what either does under `ctx->lock`, or between two accesses to what they share; the
daemon reads a connection when it likes and may drop it at any moment.

| here | there |
| --- | --- |
| `MainPc`       | `crm_connect` (mdmcli.c:295-364) and the life of its handle |
| `LoopPc`       | `mdmcli_event_loop` (:193-293) in `poll`, or inside `reconnect` (:95-144) |
| `Conn`         | a socket the library opened: its number, what was written to it, and the daemon's side of it |
| `DaemonClient` | the entry of `clients` that the daemon has for it |
| `handleMsg`    | `handle_client_msg` (client_abstraction.c:768-944), as far as `registered` and `acquired` go |
| `LibCtx`       | `sock_fd` (the newest connection, or -1), `reconnect`, `acquired`, `register_id`; `sanity_test_mode` and `reject_requests` of the daemon |
| `libStep`      | one step of either thread, or of the daemon |

A write that fails has put nothing on the socket, or a piece of its message, which `recv_msg` refuses together with
what comes behind it. A file number the library has closed may belong to another file of the process by the time
`crm_connect` writes to it, or to the socket `reconnect` opens next. Whether `handle_error` calls `reconnect` at once
or leaves it to the loop makes no difference to the others. Of a message only what the daemon's table depends on is
kept.
-/

namespace Crm.Mdmcli

open Lib

/-- The requests that are written and nothing else. -/
inductive Request where
  | restart | shutdown | nvmBackup | ackColdReset | ackShutdown | notifyDbg
deriving DecidableEq, Repr

inductive Req where
  /-- CRM_REQ_REGISTER_DBG or CRM_REQ_REGISTER -/
  | register (dbg : Bool)
  | acquire
  | release
  | other (r : Request)
deriving DecidableEq, Repr

def Req.isRegister : Req → Bool
  | .register _ => true
  | _ => false

/-- What becomes of a `send_msg`: it returns 0, or -1 with a piece or nothing of the message written. -/
inductive Write where
  | sent | torn | refused
deriving DecidableEq, Repr

/-! ## The daemon's side -/

structure DaemonClient where
  registered : Bool
  acquired : Bool
deriving DecidableEq, Repr

/-- Why the daemon drops a connection by itself. -/
inductive Refusal where
  | mode | unregistered | duplicate | unreadable
deriving DecidableEq, Repr

def handleMsg (sanityTestMode rejectRequests : Bool) (d : DaemonClient) : Req → Except Refusal DaemonClient
  | .register dbg => do
    check (dbg == sanityTestMode) .mode
    check (!d.registered) .duplicate
    .ok { d with registered := true }
  | .acquire => do
    check d.registered .unregistered
    .ok (if rejectRequests then d else { d with acquired := true })
  | .release => do
    check d.registered .unregistered
    .ok (if rejectRequests then d else { d with acquired := false })
  | .other _ => do
    check d.registered .unregistered
    .ok d

structure Conn where
  fd : Nat
  /-- Oldest first; a message of which only a piece was written is not whole. -/
  written : List (Req × Bool)
  /-- How many of them the daemon has handled. -/
  served : Nat
  client : Option DaemonClient
  /-- The daemon has sent an event on it. -/
  greeted : Bool
  refused : Option Refusal
deriving DecidableEq, Repr

/-- Connected, and accepted by the daemon. -/
def Conn.new (fd : Nat) : Conn :=
  { fd, written := [], served := 0, client := some ⟨false, false⟩, greeted := false, refused := none }

def Conn.write (c : Conn) (msg : Req) : Write → Conn
  | .sent => { c with written := c.written ++ [(msg, true)] }
  | .torn => { c with written := c.written ++ [(msg, false)] }
  | .refused => c

/-- `handle_client_unregister`. -/
def Conn.drop (c : Conn) : Conn := { c with client := none }

/-- The daemon reads the next message. -/
def Conn.serve (sanityTestMode rejectRequests : Bool) (c : Conn) : Conn :=
  match c.client, c.written[c.served]? with
  | some d, some (msg, true) =>
    match handleMsg sanityTestMode rejectRequests d msg with
    | .ok d' => { c with client := some d', served := c.served + 1 }
    | .error why => { c.drop with refused := some why }
  | some _, some (_, false) => { c.drop with refused := some .unreadable }
  | _, _ => c

/-- That message is a SHUTDOWN, which the daemon takes from a registered client. -/
def Conn.asksShutdown (c : Conn) : Bool :=
  c.client.any DaemonClient.registered && c.written[c.served]? == some (.other .shutdown, true)

/-- The daemon sends an event, to a registered client only. -/
def Conn.greet (c : Conn) : Conn := { c with greeted := c.greeted || c.client.any DaemonClient.registered }

/-! ## The library -/

inductive MainPc where
  | start
  | connected
  /-- `ctx->sock_fd` has been read for the REGISTER. -/
  | sending (fd : Option Nat)
  | ready
  | failed
  | left
deriving DecidableEq, Repr

inductive LoopPc where
  | off
  | poll
  /-- `reconnect` has set `sock_fd`. -/
  | opened
  /-- `reconnect` has sent its REGISTER, and holds the lock. -/
  | registered
deriving DecidableEq, Repr

/-- `ASSERT(fd >= 0)` of `crm_socket_write`. -/
inductive LibAbort where
  | badFd
deriving DecidableEq, Repr

structure LibCtx where
  dbg : Bool
  main : MainPc
  loop : LoopPc
  /-- `sock_fd` is not -1: it is the newest connection's. -/
  sock : Bool
  reconnect : Bool
  acquired : Bool
  /-- Newest first. -/
  conns : List Conn
  sanityTestMode : Bool
  rejectRequests : Bool
deriving DecidableEq, Repr

def libInit (dbg sanityTestMode : Bool) : LibCtx :=
  { dbg, main := .start, loop := .off, sock := false, reconnect := false, acquired := false, conns := [],
    sanityTestMode, rejectRequests := false }

def LibCtx.sockFd (x : LibCtx) : Option Nat := if x.sock then x.conns.head?.map Conn.fd else none

/-- `crm_socket_connect`, and `sock_fd` set to it. -/
def LibCtx.open (x : LibCtx) (fd : Nat) : LibCtx := { x with sock := true, conns := .new fd :: x.conns }

/-- `send_msg` to `sock_fd`. -/
def LibCtx.write (x : LibCtx) (msg : Req) (w : Write) : LibCtx :=
  { x with conns := x.conns.modify 0 fun c => c.write msg w }

/-! ### `crm_connect` -/

/-- Up to the start of the thread. -/
def crmConnect (x : LibCtx) (fd : Option Nat) : LibCtx :=
  if x.main = .start then
    match fd with
    | none => { x with main := .failed }
    | some fd => { x.open fd with main := .connected, loop := .poll }
  else x

def readSockFd (x : LibCtx) : LibCtx := if x.main = .connected then { x with main := .sending x.sockFd } else x

/-- The REGISTER, to the number that was read. -/
def sendRegister (x : LibCtx) (w : Write) : Except LibAbort LibCtx :=
  match x.main with
  | .sending none => .error .badFd
  | .sending (some fd) =>
    .ok { (if x.sockFd = some fd then x.write (.register x.dbg) w else x) with
      main := if w = .sent then .ready else .failed }
  | _ => .ok x

/-! ### The event loop -/

/-- `handle_error`, but for its call of `reconnect`. -/
def handleError (x : LibCtx) : LibCtx :=
  if x.loop = .poll ∧ x.reconnect = false then { x with sock := false, reconnect := true } else x

/-- `reconnect`, up to its lock. -/
def reopen (x : LibCtx) (fd : Option Nat) : LibCtx :=
  if x.loop = .poll ∧ x.reconnect = true then
    match fd with
    | none => x
    | some fd => { x.open fd with loop := .opened }
  else x

/-- The label `error` of `reconnect`. -/
def giveUp (x : LibCtx) : LibCtx := { x with sock := false, loop := .poll }

def reregister (x : LibCtx) (w : Write) : LibCtx :=
  if x.loop = .opened then
    if w = .sent then { x.write (.register x.dbg) w with loop := .registered }
    else giveUp (x.write (.register x.dbg) w)
  else x

def reacquire (x : LibCtx) (w : Write) : LibCtx :=
  if x.loop = .registered then
    if x.acquired = true then
      if w = .sent then { x.write .acquire w with reconnect := false, loop := .poll }
      else giveUp (x.write .acquire w)
    else { x with reconnect := false, loop := .poll }
  else x

/-- The acknowledgement of an event the daemon has sent. -/
def ack (x : LibCtx) (r : Request) (w : Write) : Except LibAbort LibCtx :=
  if x.loop = .poll ∧ x.reconnect = false ∧ (x.conns.head?.any Conn.greeted) = true then do
    check x.sock .badFd
    .ok (x.write (.other r) w)
  else .ok x

/-! ### The API -/

/-- A call that writes `msg` under the lock, once `crm_connect` has returned: `acquired` is what it makes of the flag
when it returns 0, and `offline` when it does so without a connection. -/
def api (x : LibCtx) (msg : Req) (w : Write) (acquired offline : Bool) : Except LibAbort LibCtx :=
  if x.main = .ready ∧ x.loop ≠ .registered then
    if x.reconnect then .ok { x with acquired := offline }
    else do
      check x.sock .badFd
      .ok { x.write msg w with acquired := if w = .sent then acquired else x.acquired }
  else .ok x

def mdmCliAcquire (x : LibCtx) (w : Write) : Except LibAbort LibCtx := api x .acquire w true true
def mdmCliRelease (x : LibCtx) (w : Write) : Except LibAbort LibCtx := api x .release w false false

/-- The other requests, which fail without a connection. -/
def mdmCliSend (x : LibCtx) (r : Request) (w : Write) : Except LibAbort LibCtx :=
  api x (.other r) w x.acquired x.acquired

/-- `mdm_cli_disconnect`, up to the end of the loop. -/
def mdmCliDisconnect (x : LibCtx) : LibCtx := if x.main = .ready then { x with main := .left } else x

/-- The loop ends, and `dispose` closes the socket. -/
def quit (x : LibCtx) : LibCtx :=
  if x.main = .left ∧ x.loop = .poll then { x with sock := false, loop := .off } else x

/-! ### Any order of steps -/

inductive LibIn where
  | connect (fd : Option Nat)
  | readFd
  | register (w : Write)
  | handleError
  | reopen (fd : Option Nat)
  | reregister (w : Write)
  | reacquire (w : Write)
  | ackColdReset (w : Write)
  | ackShutdown (w : Write)
  | acquire (w : Write)
  | release (w : Write)
  | send (r : Request) (w : Write)
  | disconnect
  | quit
  /-- the daemon, on the `i`-th newest connection -/
  | serve (i : Nat)
  | greet
  | hangUp (i : Nat)
  /-- another client asks for a shutdown, or the modem is out of service -/
  | reject
  | restartDaemon (sanityTestMode : Bool)
deriving DecidableEq, Repr

def libStep (x : LibCtx) : LibIn → Except LibAbort LibCtx
  | .connect fd => .ok (crmConnect x fd)
  | .readFd => .ok (readSockFd x)
  | .register w => sendRegister x w
  | .handleError => .ok (handleError x)
  | .reopen fd => .ok (reopen x fd)
  | .reregister w => .ok (reregister x w)
  | .reacquire w => .ok (reacquire x w)
  | .ackColdReset w => ack x .ackColdReset w
  | .ackShutdown w => ack x .ackShutdown w
  | .acquire w => mdmCliAcquire x w
  | .release w => mdmCliRelease x w
  | .send r w => mdmCliSend x r w
  | .disconnect => .ok (mdmCliDisconnect x)
  | .quit => .ok (quit x)
  | .serve i =>
    .ok { x with
      conns := x.conns.modify i (Conn.serve x.sanityTestMode x.rejectRequests)
      rejectRequests := x.rejectRequests || (x.conns[i]?).any Conn.asksShutdown }
  | .greet => .ok { x with conns := x.conns.modify 0 Conn.greet }
  | .hangUp i => .ok { x with conns := x.conns.modify i Conn.drop }
  | .reject => .ok { x with rejectRequests := true }
  | .restartDaemon sanityTestMode =>
    .ok { x with conns := x.conns.map Conn.drop, rejectRequests := false, sanityTestMode }

end Crm.Mdmcli
