import Crm.Cla.Table

/-!
# CLA: the state machine and its messages (plugins/client_abstraction/src/client_abstraction.c)

| here | there |
| --- | --- |
| `ClaEvent`, `ClaSt`      | `cl_abs_evt_t`, `cl_abs_state_t` (:177-207) |
| `CtrlMsg`, `ReqMsg`      | a message of the IPC queue, a decoded message of a client |
| `ClaCtx`                 | `crm_cli_abs_internal_ctx_t`, the FSM state, and where `main_loop` stands |
| `claFsmArray`            | `cla_fsm_array` (:578-591) |
| `handleControlMsg`, `handleClientMsg` | `handle_control_msg` (:672-766), `handle_client_msg` (:768-944) |

`restart_type == 0` and `dbg_info_present == false` are `none`. The client's name and the message
texts are only logged and are left out.
-/

namespace Crm.Cla

open Lib

inductive ClaEvent where
  | success | failure
  | mdmOff | mdmUnresp | mdmBusy | mdmReady
  | cliAcquire | cliRelease | cliRestart | cliAcked
deriving DecidableEq, Repr

inductive ClaSt where
  | initial | off | starting | up | ackWaitingCold | ackWaitingShtdwn | stopping
deriving DecidableEq, Repr

/-- What CTRL passes to `notify_modem_state`: any `crm_cli_abs_mdm_state_t` but UNKNOWN, which is CLA's
own initial value ("it happens at CRM start", client_abstraction.h:56). -/
inductive MdmNote where
  | off | unresp | busy | ready | platformReboot
deriving DecidableEq, Repr

/-- The events `notify_client` accepts from CTRL (:633). -/
inductive ClientNote where
  | on | dbgInfo
deriving DecidableEq, Repr

def ClientNote.event : ClientNote → MdmCliEvent
  | .on => .on
  | .dbgInfo => .dbgInfo

inductive CtrlMsg where
  | quit
  | operationResult (failed : Bool)
  | notifyClient (evt : ClientNote)
  | modemState (st : MdmNote)
deriving DecidableEq, Repr

/-- `crm_mdmcli_wire_msg_t` as `recv_msg` fills it; it does not filter the identifier. -/
inductive ReqMsg where
  | register (dbg : Bool) (eventsBitmap : MdmCliEvent → Bool)
  | acquire
  | release
  | restart (cause : RestartCause) (debug : Option DbgInfo)
  | shutdown
  | nvmBackup
  | ackColdReset
  | ackShutdown
  | notifyDbg (debug : Option DbgInfo)
  /-- An identifier of the other direction. -/
  | event (evt : MdmCliEvent)
  /-- An identifier `crm_mdmcli_wire_req_to_string` does not know. -/
  | unknown

/-- Messages exchanged with CTRL, and the forced shutdowns clients asked for. -/
inductive ClaObs where
  | start
  | stop
  | restart (type : Option RestartType) (dbg : Option DbgInfo)
  | result (failed : Bool)
  | state (st : MdmNote)
  | shutdownReq
deriving DecidableEq, Repr

/-- One call of `notify_cli_event_all`: the table before and after. -/
structure Sending where
  evt : MdmCliEvent
  before : List Client
  after : List Client

/-- Which timers `get_timeout` selected. -/
structure TimerIdx where
  ack : Bool
  boot : Bool
deriving DecidableEq, Repr

/-- Where `main_loop` stands; a slot keeps the locals `acquired` and `waiting_ack` of its iteration. -/
inductive Pc where
  | head
  | poll (timeout : Int) (idx : TimerIdx)
  | slot (i : Nat) (acquired waitingAck : Bool)
  | edge (i : Nat) (acquired waitingAck : Bool)
  | done
deriving DecidableEq, Repr

structure ClaCtx where
  table : Table
  modemState : MdmState
  realModemState : MdmState
  fakeModemState : Bool
  requestInProgress : Bool
  rejectRequests : Bool
  restartType : Option RestartType
  dbgInfo : Option DbgInfo
  timerAckEnd : Timespec
  timerBootEnd : Timespec
  timerBootArmed : Bool
  /-- `count[WAKELOCK_CLA]` of libs/wakelock. -/
  wakelock : Nat
  fsm : ClaSt
  pc : Pc
  running : Bool
  ipc : Revents
  server : Revents
  /-- Connections accepted so far. -/
  accepted : Nat
  /-- Connections `update_client_list` closed. -/
  closed : List Client
  trace : List ClaObs
  sendings : List Sending

structure Env where
  sanityTestMode : Bool
  enableFmmo : Bool
  /-- `MDM_CLI_MAX_NB_DATA` and `MDM_CLI_MAX_LEN_DATA` of mdm_cli.h. -/
  maxNbData : Nat
  maxLenData : Nat
  fails : Fails

def mapModemStateToCliEvent : MdmState → MdmCliEvent
  | .off => .down
  | .unresp => .oos
  | .platformReboot => .oos
  | .busy => .down
  | .ready => .up
  | .unknown => .down

/-! ## Operations of the state machine -/

abbrev Op := Env → Timespec → ClaCtx → Except ClaAbort (ClaCtx × Ret ClaSt)

def broadcast (e : Env) (s : ClaCtx) (evt : MdmCliEvent) : Except ClaAbort ClaCtx := do
  let table ← notifyCliEventAll e.fails s.table evt
  .ok { s with table, sendings := ⟨evt, s.table.clients, table.clients⟩ :: s.sendings }

/-- `ASSERT(request_in_progress == false); request_in_progress = true; control->...` -/
def request (s : ClaCtx) (o : ClaObs) : Except ClaAbort ClaCtx := do
  check (!s.requestInProgress) .requestInProgress
  .ok { s with requestInProgress := true, trace := o :: s.trace }

def clientAcquire : Op := fun _ _ s => do
  let s ← request s .start
  .ok (s, .goto .starting)

/-- `start_ack_timer` (:330-337). -/
def startAckTimer (clock : Timespec) (s : ClaCtx) : ClaCtx :=
  { s with timerAckEnd := crmTimeAddMs clock 1000, wakelock := if s.wakelock = 0 then 1 else s.wakelock }

/-- MDM_DOWN, unless clients were already told (:374-378). -/
def downUnlessFaking (e : Env) (s : ClaCtx) : Except ClaAbort ClaCtx :=
  if s.fakeModemState then .ok s else broadcast e s .down

def startShutdownProcedure : Op := fun e clock s => do
  let s ← broadcast e s .shutdown
  let s ← downUnlessFaking e s
  let s := { s with fakeModemState := true, modemState := .off }
  if s.table.numWaitingShutdownAck = 0 then do
    let s ← request s .stop
    .ok (s, .goto .stopping)
  else .ok (startAckTimer clock s, .goto .ackWaitingShtdwn)

/-- The first half of `start_restart_procedure` (:399-407). -/
def fakeBusy (e : Env) (s : ClaCtx) : Except ClaAbort ClaCtx :=
  if s.modemState = .busy then .ok s else do
    let s ← broadcast e s .down
    check (!s.fakeModemState) .restartFaked
    .ok { s with modemState := .busy, fakeModemState := true }

def startRestartProcedure : Op := fun e clock s => do
  let s ← fakeBusy e s
  let s ← broadcast e s .coldReset
  if s.table.numWaitingColdResetAck = 0 then do
    let s ← request s (.restart s.restartType s.dbgInfo)
    .ok (s, .goto .starting)
  else .ok (startAckTimer clock s, .goto .ackWaitingCold)

def mdmBusy : Op := fun e clock s => startRestartProcedure e clock { s with restartType := some .modemRestart }

def checkPendingUp : Op := fun e clock s =>
  if s.requestInProgress ∨ s.modemState ≠ .ready then .ok (s, .keep)
  else if s.table.numAcquired = 0 then startShutdownProcedure e clock s
  else if s.restartType.isSome then startRestartProcedure e clock s
  else .ok (s, .goto .up)

def checkPendingDown : Op := fun _ _ s =>
  if s.requestInProgress ∨ s.modemState ≠ .off then .ok (s, .keep)
  else if s.table.numAcquired > 0 then
    .ok ({ s with requestInProgress := true, trace := .start :: s.trace }, .goto .starting)
  else .ok (s, .goto .off)

def clientRelease : Op := startShutdownProcedure

def clientRestart : Op := startRestartProcedure

def clientAckedCold : Op := fun e clock s =>
  if s.modemState = .unresp then .ok (s, .goto .off)
  else if s.table.numAcquired = 0 then startShutdownProcedure e clock s
  else if s.restartType.isSome then do
    let s ← request s (.restart s.restartType s.dbgInfo)
    .ok (s, .goto .starting)
  else do
    check (!s.requestInProgress) .requestInProgress
    check (s.realModemState == .busy) .realNotBusy
    let s ← request s (.restart (some .modemRestart) none)
    .ok (s, .goto .starting)

def clientAckedShtdwn : Op := fun e clock s =>
  if s.table.numAcquired = 0 then do
    let s ← request s .stop
    .ok (s, .goto .stopping)
  else if s.restartType.isSome then startRestartProcedure e clock s
  else if s.realModemState = .ready then do
    let s ← request s .stop
    .ok (s, .goto .stopping)
  else do
    let s := { s with fakeModemState := false, modemState := s.realModemState }
    check (s.realModemState == .busy) .realNotBusy
    let s ← request s (.restart (some .modemRestart) none)
    .ok (s, .goto .starting)

/-- The debug notification sent before the `DASSERT` is still queued when CLA aborts. -/
def checkFailure : Op := fun _ _ s => do
  check (s.modemState == .unresp) .checkFailure
  .ok (s, .keep)

def assert : Op := fun _ _ _ => .error .assertEntry

def failsafe : Op := fun _ _ _ => .error .failsafeEntry

/-- One row of the array, in the order of its columns. -/
def row {α : Type} (initial off starting up ackWaitingCold ackWaitingShtdwn stopping : α) : ClaSt → α
  | .initial => initial
  | .off => off
  | .starting => starting
  | .up => up
  | .ackWaitingCold => ackWaitingCold
  | .ackWaitingShtdwn => ackWaitingShtdwn
  | .stopping => stopping

/-- The operation column of `cla_fsm_array`; `none` is `NULL`. -/
def claFsmOps : ClaEvent → ClaSt → Option Op
  | .success => row assert assert checkPendingUp assert assert assert checkPendingDown
  | .failure => row assert checkFailure assert assert assert assert none
  | .mdmOff => row checkPendingDown assert assert assert assert assert checkPendingDown
  | .mdmUnresp => row assert none none assert none assert none
  | .mdmBusy => row assert assert none mdmBusy none none none
  | .mdmReady => row checkPendingUp assert checkPendingUp assert assert assert assert
  | .cliAcquire => row none clientAcquire none assert none none none
  | .cliRelease => row none checkFailure none clientRelease none none none
  | .cliRestart => row none assert none clientRestart assert none assert
  | .cliAcked => row none assert assert assert clientAckedCold clientAckedShtdwn assert

def claFsmForced : ClaEvent → ClaSt → Option ClaSt
  | .failure, .stopping | .mdmUnresp, .off | .mdmUnresp, .starting => some .off
  | _, _ => none

def claFsmArray (e : Env) (clock : Timespec) : Fsm ClaSt ClaEvent Unit ClaCtx ClaAbort where
  array evt st := ⟨claFsmForced evt st, (claFsmOps evt st).map fun op _ => op e clock⟩
  preOp _ s := .ok s
  stateTrans _ new _ s := do
    check (new != .initial) .toInitial
    .ok s
  failsafe _ s := failsafe e clock s
  badState := .toInitial

/-- `fsm_ctx->notify_event(fsm_ctx, evt, NULL)`. -/
def fsmNotify (e : Env) (clock : Timespec) (s : ClaCtx) (evt : ClaEvent) : Except ClaAbort ClaCtx := do
  let (s', fsm) ← notifyEvent (claFsmArray e clock) s.fsm evt () s
  .ok { s' with fsm }

/-! ## Messages of CTRL -/

/-- The value `handle_control_msg` works with: a platform reboot is an unresponsive modem (:703-706). -/
def MdmNote.modemState : MdmNote → MdmState
  | .off => .off
  | .unresp => .unresp
  | .busy => .busy
  | .ready => .ready
  | .platformReboot => .unresp

/-- `(modem_state - MDM_STATE_OFF) + EV_MDM_OFF` -/
def MdmNote.fsmEvent : MdmNote → ClaEvent
  | .off => .mdmOff
  | .unresp => .mdmUnresp
  | .busy => .mdmBusy
  | .ready => .mdmReady
  | .platformReboot => .mdmUnresp

/-- The bookkeeping before the filter (:708-713). -/
def noteModemState (s : ClaCtx) (st : MdmNote) : ClaCtx :=
  { s with
    realModemState := st.modemState
    restartType := if st = .ready ∨ st = .off then none else s.restartType
    rejectRequests := s.rejectRequests || st.modemState == .unresp
    trace := .state st :: s.trace }

/-- Clients hear of an 'external' change only (:748-756). -/
def tellClients (e : Env) (s : ClaCtx) (st : MdmNote) : Except ClaAbort ClaCtx :=
  if st ≠ .platformReboot ∧ (s.modemState = .unknown ∨
      mapModemStateToCliEvent st.modemState ≠ mapModemStateToCliEvent s.modemState) then
    broadcast e s (mapModemStateToCliEvent st.modemState)
  else .ok s

/-- `CLI_ABS_MSG_NOTIFY_MODEM_STATE` (:695-763). The two assertions inside the filter compare
`modem_state` with two values at once and cannot fail. -/
def handleModemState (e : Env) (clock : Timespec) (s : ClaCtx) (st : MdmNote) : Except ClaAbort ClaCtx := do
  let s := noteModemState s st
  check (s.modemState != .unresp) .unresp
  let filterState := s.fakeModemState && st.modemState != .unresp
  let s := { s with fakeModemState := filterState && s.modemState != st.modemState }
  if filterState = false ∧ s.modemState ≠ st.modemState then do
    let s ← tellClients e s st
    fsmNotify e clock { s with modemState := st.modemState } st.fsmEvent
  else .ok s

def handleControlMsg (e : Env) (clock : Timespec) (s : ClaCtx) : CtrlMsg → Except ClaAbort ClaCtx
  | .quit => .ok { s with running := false }
  | .operationResult failed =>
    fsmNotify e clock { s with requestInProgress := false, trace := .result failed :: s.trace }
      (if failed then .failure else .success)
  | .notifyClient evt => broadcast e s evt.event
  | .modemState st => handleModemState e clock s st

/-! ## Messages of clients -/

def getRestartType : RestartCause → Except ClaAbort RestartType
  | .mdmErr => .ok .modemRestart
  | .applyUpdate => .ok .modemUpdate
  | _ => .error .restartCause

/-- `strncpy` into a buffer of `len` characters, the last of which is set to NUL. -/
def strncpy (len : Nat) (str : String) : String := String.ofList (str.toList.take (len - 1))

/-- What the log line of a RESTART or NOTIFY_DBG prints: `crm_mdmcli_dbg_type_to_string`. -/
def checkDbgType (debug : Option DbgInfo) : Except ClaAbort Unit :=
  check (debug.all fun d => d.type.known) .dbgType

/-- The copy kept of a RESTART's debug info (:875-890). -/
def storeDbgInfo (e : Env) (debug : Option DbgInfo) : Except ClaAbort (Option DbgInfo) :=
  match debug with
  | none => .ok none
  | some d => do
    check (decide (d.data.length ≤ e.maxNbData)) .nbData
    .ok (some { d with data := d.data.map (strncpy e.maxLenData) })

/-- A RESTART is taken into account (:853-862). -/
def acceptsRestart (s : ClaCtx) : Bool :=
  s.restartType.isNone && s.realModemState == .ready && !s.rejectRequests

def unregisterAt (s : ClaCtx) (idx : Nat) : Except ClaAbort ClaCtx := do
  let table ← handleClientUnregister s.table idx
  .ok { s with table }

/-- `CRM_REQ_REGISTER`, `CRM_REQ_REGISTER_DBG` of a client not registered yet (:814-824). -/
def registerClient (e : Env) (s : ClaCtx) (idx : Nat) (c : Client) (bitmap : MdmCliEvent → Bool) :
    Except ClaAbort ClaCtx :=
  let clients := s.table.clients.set idx { c with registered := true, eventsBitmap := bitmap }
  let s := { s with table.clients := clients }
  if s.modemState ≠ .unknown then do
    let table ← notifyCliEventSingle e.fails s.table idx (mapModemStateToCliEvent s.modemState)
    .ok { s with table }
  else .ok s

def acquireModem (s : ClaCtx) (idx : Nat) (c : Client) : ClaCtx :=
  if s.rejectRequests ∨ c.acquired then s
  else
    { s with
      table.clients := s.table.clients.set idx { c with acquired := true }
      table.numAcquired := s.table.numAcquired + 1 }

def releaseModem (s : ClaCtx) (idx : Nat) (c : Client) : Except ClaAbort ClaCtx :=
  if s.rejectRequests then .ok s
  else do
    let num ← decr c.acquired s.table.numAcquired .numAcquired
    .ok { s with
      table.clients := s.table.clients.set idx { c with acquired := false }
      table.numAcquired := num }

def restartModem (e : Env) (clock : Timespec) (s : ClaCtx) (cause : RestartCause) (debug : Option DbgInfo) :
    Except ClaAbort ClaCtx := do
  checkDbgType debug
  check cause.known .restartCause
  if acceptsRestart s then do
    let type ← getRestartType cause
    let dbgInfo ← storeDbgInfo e debug
    fsmNotify e clock { s with restartType := some type, dbgInfo } .cliRestart
  else .ok s

def ackColdReset (s : ClaCtx) (idx : Nat) (c : Client) : Except ClaAbort ClaCtx := do
  let num ← decr c.waitingColdResetAck s.table.numWaitingColdResetAck .numColdResetAck
  .ok { s with
    table.clients := s.table.clients.set idx { c with waitingColdResetAck := false }
    table.numWaitingColdResetAck := num }

def ackShutdown (s : ClaCtx) (idx : Nat) (c : Client) : Except ClaAbort ClaCtx := do
  let num ← decr c.waitingShutdownAck s.table.numWaitingShutdownAck .numShutdownAck
  .ok { s with
    table.clients := s.table.clients.set idx { c with waitingShutdownAck := false }
    table.numWaitingShutdownAck := num }

/-- The requests of a registered client (the `switch` of :802-943). -/
def handleRequest (e : Env) (clock : Timespec) (s : ClaCtx) (idx : Nat) (c : Client) :
    ReqMsg → Except ClaAbort ClaCtx
  | .register _ _ => unregisterAt s idx
  | .acquire => .ok (acquireModem s idx c)
  | .release => releaseModem s idx c
  | .restart cause debug => restartModem e clock s cause debug
  | .shutdown =>
    .ok { s with rejectRequests := true, table.numAcquired := 0, trace := .shutdownReq :: s.trace }
  | .nvmBackup => fsmNotify e clock { s with restartType := some .backupNvm } .cliRestart
  | .ackColdReset => ackColdReset s idx c
  | .ackShutdown => ackShutdown s idx c
  | .notifyDbg debug => do
    checkDbgType debug
    broadcast e s .dbgInfo
  | .event _ | .unknown => .ok s

def handleClientMsg (e : Env) (clock : Timespec) (s : ClaCtx) (idx : Nat) (msg : ReqMsg) :
    Except ClaAbort ClaCtx :=
  match msg, s.table.clients[idx]? with
  | .unknown, _ => .error .wireId
  | _, none => .ok s
  | msg, some c =>
    if s.table.marked idx then .ok s
    else match msg with
      | .register dbg bitmap =>
        if dbg != e.sanityTestMode ∨ c.registered then unregisterAt s idx
        else registerClient e s idx c bitmap
      | msg => if c.registered then handleRequest e clock s idx c msg else unregisterAt s idx

end Crm.Cla
